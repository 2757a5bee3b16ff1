import TemplateWorkbench.Proofs.Template.Late.Filters
import TemplateWorkbench.Template.Rendering

/-!
# Faults of renderings

A rendering runs steps that are compiled already: it looks names, filters, tests and other templates up, but
reads no text of a template.  The lemmas go over terms and steps one case a constructor, for a host that calls
back only with late faults, and the hosts themselves are taken in the order in which room is left to call.
-/

namespace TemplateWorkbench.Template

open Std.Do

set_option mvcgen.warning false

/-! ### Evaluating -/

/-- Whether what runs routines stops only with late faults. -/
structure Host.IsLate (host : Host) : Prop where
  services : host.services.AreLate
  call (scene : Scene) (value : Value) (arguments : CallArguments) : (host.call scene value arguments).IsLate
  block (context : Nat) (block : BlockId) : (host.block context block).IsLate
  root (template : String) (context : Nat) : (host.root template context).IsLate

attribute [spec] Scene.cell Scene.enter Scene.leave Scene.locals Scene.publish

@[simp] theorem isLate_unboundFault (id : String) : (unboundFault id).IsLate := ⟨nofun, nofun⟩

@[simp] theorem isLate_unknownWhenReached (kind id : String) : (unknownWhenReached kind id).IsLate :=
  ⟨nofun, nofun⟩

@[spec]
theorem late_addKeywords (callee : String) (keywords : List (String × Value)) (value : Value) :
    IsLate (addKeywords callee keywords value) := by
  unfold addKeywords
  split
  · refine late_foldlM (fun all entry => ?_) _ _
    mvcgen
    simp
  · exact late_error (Absence.isLate_fault _)
  · exact late_error (isLate_typeFault _)

section Services

variable {services : Services} (hservices : services.AreLate)

include hservices

@[spec]
theorem Scene.late_escapes (scene : Scene) : (scene.escapes services).IsLate := by
  unfold escapes
  mvcgen

@[spec]
theorem Escaping.late_holds (scene : Scene) (escaping : Escaping) : (escaping.holds services scene).IsLate := by
  unfold holds
  mvcgen
  exact fun _ => hservices

@[spec]
theorem late_joinValues (escapes : Bool) (values : List Value) :
    (joinValues services escapes values).IsLate := by
  unfold joinValues
  mvcgen <;> exact fun _ => hservices

@[spec]
theorem late_moreItems (callee : String) (value : Value) : (moreItems services callee value).IsLate := by
  unfold moreItems
  mvcgen
  · exact fun _ => hservices
  · simp
  · exact isLate_iff.mp (Value.late_source _) _ ‹_›

end Services

section Evaluate

variable {host : Host} {scene : Scene}

mutual

@[spec]
theorem late_eval (hhost : host.IsLate) : (term : Term) → (eval host scene term).IsLate
  | .const _ | .unbound _ | .data _ | .slot _ _ | .captured _ => by
      unfold eval
      mvcgen <;> simp [hhost.services]
  | .tuple items | .list items => by
      have hitems := late_evalAll hhost items
      unfold eval
      mvcgen [hitems]
  | .dict entries => by
      have hentries := late_evalEntries hhost entries
      unfold eval
      mvcgen [hentries]
  | .conditional test whenTrue whenFalse hint => by
      have htest := late_eval hhost test
      have htrue := late_eval hhost whenTrue
      have hfalse := late_evalCase hhost hint whenFalse
      unfold eval
      mvcgen [htest, htrue, hfalse]
      simp [hhost.services]
  | .binary op left right => by
      have hleft := late_eval hhost left
      have hright := late_eval hhost right
      cases op
      all_goals
        unfold eval
        mvcgen [hleft, hright]
        simp [hhost.services]
  | .unary op operand => by
      have hoperand := late_eval hhost operand
      cases op
      all_goals
        unfold eval
        mvcgen [hoperand] <;> simp [hhost.services]
  | .compare first others => by
      have hfirst := late_eval hhost first
      have hothers := fun value => late_evalCompared hhost value others
      unfold eval
      mvcgen [hfirst, hothers]
  | .concat escaping parts => by
      have hparts := late_evalAll hhost parts
      unfold eval
      mvcgen [hparts] <;> simp [hhost.services]
  | .attribute object id => by
      have hobject := late_eval hhost object
      unfold eval
      mvcgen [hobject]
      simp [hhost.services]
  | .element object index => by
      have hobject := late_eval hhost object
      have hindex := late_eval hhost index
      unfold eval
      mvcgen [hobject, hindex]
      simp [hhost.services]
  | .slice object start stop step => by
      have hobject := late_eval hhost object
      have hstart := late_evalOptional hhost start
      have hstop := late_evalOptional hhost stop
      have hstep := late_evalOptional hhost step
      unfold eval
      mvcgen [hobject, hstart, hstop, hstep]
  | .call function arguments withCaller => by
      have hcall := hhost.call
      have hfunction := late_eval hhost function
      have harguments := fun callee caller => late_evalArguments hhost callee caller arguments
      unfold eval
      mvcgen [hcall, hfunction, harguments]
  | .filter subject id arguments => by
      have hfilter := hhost.services.filter
      have hsubject := late_eval hhost subject
      have harguments := fun callee caller => late_evalArguments hhost callee caller arguments
      unfold eval
      mvcgen [hfilter, hsubject, harguments]
      simp
  | .test subject id arguments => by
      have htest := hhost.services.test
      have hsubject := late_eval hhost subject
      have harguments := fun callee caller => late_evalArguments hhost callee caller arguments
      unfold eval
      mvcgen [htest, hsubject, harguments]
      simp

theorem late_evalArguments (hhost : host.IsLate) (callee : String) (caller : Option Value) :
    (arguments : TermArguments) → (evalArguments host scene callee caller arguments).IsLate
  | .mk positional keywords none none => by
      have hpositional := late_evalAll hhost positional
      have hkeywords := late_evalKeywords hhost keywords
      unfold evalArguments
      mvcgen [hpositional, hkeywords]
  | .mk positional keywords (some more) none => by
      have hpositional := late_evalAll hhost positional
      have hkeywords := late_evalKeywords hhost keywords
      have hmore := late_eval hhost more
      unfold evalArguments
      mvcgen [hpositional, hkeywords, hmore]
      simp [hhost.services]
  | .mk positional keywords none (some moreKeywords) => by
      have hpositional := late_evalAll hhost positional
      have hkeywords := late_evalKeywords hhost keywords
      have hmoreKeywords := late_eval hhost moreKeywords
      unfold evalArguments
      mvcgen [hpositional, hkeywords, hmoreKeywords]
  | .mk positional keywords (some more) (some moreKeywords) => by
      have hpositional := late_evalAll hhost positional
      have hkeywords := late_evalKeywords hhost keywords
      have hmore := late_eval hhost more
      have hmoreKeywords := late_eval hhost moreKeywords
      unfold evalArguments
      mvcgen [hpositional, hkeywords, hmore, hmoreKeywords]
      simp [hhost.services]

theorem late_evalAll (hhost : host.IsLate) : (terms : List Term) → (evalAll host scene terms).IsLate
  | [] => by
      unfold evalAll
      mvcgen
  | term :: rest => by
      have hterm := late_eval hhost term
      have hrest := late_evalAll hhost rest
      unfold evalAll
      mvcgen [hterm, hrest]

theorem late_evalEntries (hhost : host.IsLate) :
    (entries : List (Term × Term)) → (evalEntries host scene entries).IsLate
  | [] => by
      unfold evalEntries
      mvcgen
  | (key, value) :: rest => by
      have hkey := late_eval hhost key
      have hvalue := late_eval hhost value
      have hrest := late_evalEntries hhost rest
      unfold evalEntries
      mvcgen [hkey, hvalue, hrest]

theorem late_evalKeywords (hhost : host.IsLate) :
    (keywords : List (String × Term)) → (evalKeywords host scene keywords).IsLate
  | [] => by
      unfold evalKeywords
      mvcgen
  | (_, term) :: rest => by
      have hterm := late_eval hhost term
      have hrest := late_evalKeywords hhost rest
      unfold evalKeywords
      mvcgen [hterm, hrest]

theorem late_evalOptional (hhost : host.IsLate) :
    (term : Option Term) → (evalOptional host scene term).IsLate
  | none => by
      unfold evalOptional
      mvcgen
  | some term => by
      have hterm := late_eval hhost term
      unfold evalOptional
      mvcgen [hterm]

theorem late_evalCase (hhost : host.IsLate) (hint : String) :
    (term : Option Term) → (evalCase host scene hint term).IsLate
  | none => by
      unfold evalCase
      mvcgen
  | some term => by
      have hterm := late_eval hhost term
      unfold evalCase
      exact hterm

theorem late_evalCompared (hhost : host.IsLate) (value : Value) :
    (others : List (CompareOp × Term)) → (evalCompared host scene value others).IsLate
  | [] => by
      unfold evalCompared
      mvcgen
  | [(op, operand)] => by
      have hoperand := late_eval hhost operand
      unfold evalCompared
      mvcgen [hoperand]
      simp [hhost.services]
  | (op, operand) :: second :: rest => by
      have hoperand := late_eval hhost operand
      have hrest := fun next => late_evalCompared hhost next (second :: rest)
      unfold evalCompared
      mvcgen [hoperand, hrest]
      simp [hhost.services]

end

end Evaluate

/-! ### Executing -/

@[spec]
theorem late_setAttribute (scene : Scene) (owner : Slot) (id : String) (value : Value) :
    (setAttribute scene owner id value).IsLate := by
  unfold setAttribute
  mvcgen
  simp

@[spec]
theorem late_checkNamespaces (scene : Scene) (slots : List Slot) : (checkNamespaces scene slots).IsLate := by
  unfold checkNamespaces
  mvcgen

@[spec]
theorem late_capture (output : Output) : IsLate (capture output) := by
  unfold capture
  mvcgen

@[spec]
theorem late_openContext (library : Library) (name : String) (given : List (String × Value)) :
    (openContext library name given).IsLate := by
  unfold openContext
  mvcgen

@[spec]
theorem late_derivedContext (scene : Scene) (names : LocalNames) : (derivedContext scene names).IsLate := by
  unfold derivedContext
  mvcgen

@[spec]
theorem late_contextFrom (library : Library) (scene : Scene) (name : String) (names : LocalNames) :
    (contextFrom library scene name names).IsLate := by
  unfold contextFrom
  mvcgen

@[spec]
theorem late_publishImport (scene : Scene) (id : String) (slot : Slot) :
    (publishImport scene id slot).IsLate := by
  unfold publishImport
  mvcgen

@[spec]
theorem late_importName (services : Services) (scene : Scene) (line : Nat) (module_ : Module) (name : String)
    (slot : Slot) : (importName services scene line module_ name slot).IsLate := by
  unfold importName
  mvcgen

@[spec]
theorem late_checkRequired (scene : Scene) (id : String) (required : Bool) :
    (checkRequired scene id required).IsLate := by
  unfold checkRequired
  mvcgen
  simp

@[spec]
theorem late_eachItem {next : Run (Option Value)} {handle : Value → Run Output} (hnext : next.IsLate)
    (hhandle : ∀ item, (handle item).IsLate) (count : Nat) (any : Bool) (printed : List Output) :
    (eachItem next handle count any printed).IsLate := by
  induction count generalizing any printed with
  | zero => exact Run.stopsWith_pure _
  | succ count ih =>
      unfold eachItem
      mvcgen [hnext, hhandle, ih]

section Services

variable {services : Services}

@[spec]
theorem late_unpack (hservices : services.AreLate) (count : Nat) (value : Value) :
    (unpack services count value).IsLate := by
  unfold unpack
  mvcgen
  · simp
  · exact isLate_iff.mp (Value.late_source _) _ ‹_›
  · simp
  · simp

mutual

@[spec]
theorem late_assignTo (hservices : services.AreLate) (scene : Scene) :
    (target : Target) → (value : Value) → (assignTo services scene target value).IsLate
  | .slot _, _ | .attribute _ _, _ => by
      unfold assignTo
      mvcgen
  | .tuple targets, _ => by
      have htargets := late_assignAll hservices scene targets
      unfold assignTo
      mvcgen [htargets]

theorem late_assignAll (hservices : services.AreLate) (scene : Scene) :
    (targets : List Target) → (values : List Value) → (assignAll services scene targets values).IsLate
  | [], _ => by
      unfold assignAll
      mvcgen
  | _ :: _, [] => by
      unfold assignAll
      mvcgen
  | target :: rest, value :: more => by
      have htarget := late_assignTo hservices scene target
      have hrest := late_assignAll hservices scene rest
      unfold assignAll
      mvcgen [htarget, hrest]

end

variable (hservices : services.AreLate)

include hservices

@[spec]
theorem late_finalize (scene : Scene) (value : Value) : (finalize services scene value).IsLate := by
  unfold finalize
  mvcgen

@[spec]
theorem late_printedChunk (scene : Scene) (escaping : Escaping) (value : Value) :
    (printedChunk services scene escaping value).IsLate := by
  unfold printedChunk
  mvcgen

end Services

/-! ### Finding templates -/

namespace Library

@[spec]
theorem notFound_isLate {look : Appearance} (hlook : look.IsLate) (asked : Value) :
    ⦃⌜True⌝⦄ notFound look asked ⦃post⟨fun fault => ⌜fault.IsLate⌝, fun fault => ⌜fault.IsLate⌝⟩⦄ := by
  unfold notFound
  mvcgen
  exact ⟨nofun, nofun⟩

@[spec]
theorem liftM_notFound_isLate {look : Appearance} (hlook : look.IsLate) (asked : Value) :
    ⦃⌜True⌝⦄ (liftM (notFound look asked) : Run Fault)
    ⦃post⟨fun fault => ⌜fault.IsLate⌝, fun fault => ⌜fault.IsLate⌝⟩⦄ := by
  have hlate := notFound_isLate hlook asked trivial
  intro before _
  rw [Run.wp_eq]
  cases hresult : notFound look asked with
  | ok fault | error fault =>
      rw [hresult] at hlate
      exact hlate

@[spec]
theorem late_find (library : Library) (asked : Value) : (library.find asked).IsLate := by
  unfold find
  -- That a template is not found is a value here, and this value is late.
  refine Run.StopsWith.bind (Run.late_liftM asked.late_asKey) fun _ => ?_
  mvcgen [-Run.late_liftM, liftM_notFound_isLate]
  simp

@[spec]
theorem late_findAmong (library : Library) (all asked : List Value) : (library.findAmong all asked).IsLate := by
  induction asked with
  | nil =>
      unfold findAmong
      mvcgen
      exact ⟨nofun, nofun⟩
  | cons first rest ih =>
      unfold findAmong
      refine Run.late_tryCatch (library.late_find first) fun fault hfault => ?_
      mvcgen [ih]

@[spec]
theorem late_select (library : Library) {services : Services} (hservices : services.AreLate)
    (selection : Selection) (asked : Value) : (library.select services selection asked).IsLate := by
  unfold select
  mvcgen
  simp

end Library

section Host

variable {library : Library} {host : Host} (hhost : host.IsLate)

include hhost

@[spec]
theorem late_moduleIn (name : String) (context : Nat) : (moduleIn host name context).IsLate := by
  have hroot := hhost.root
  unfold moduleIn
  mvcgen [hroot]

@[spec]
theorem late_sharedModule (name : String) : (sharedModule library host name).IsLate := by
  unfold sharedModule
  mvcgen

@[spec]
theorem late_importedModule (scene : Scene) (name : String) (locals : Option LocalNames) :
    (importedModule library host scene name locals).IsLate := by
  unfold importedModule
  mvcgen <;> exact fun _ => hhost

@[spec]
theorem late_runLoop (scene : Scene) (shape : LoopShape) (depth : Nat) (iterable : Value)
    {handle otherwise : Run Output} (hhandle : handle.IsLate) (hotherwise : otherwise.IsLate) :
    (runLoop host scene shape depth iterable handle otherwise).IsLate := by
  unfold runLoop
  mvcgen [hhandle, hotherwise]
  all_goals exact fun _ => hhost.services

@[spec]
theorem late_printPart (scene : Scene) (part : Printed) : (printPart host scene part).IsLate := by
  unfold printPart
  mvcgen
  simp [hhost.services]

@[spec]
theorem late_askFor (scene : Scene) (source : Term) (selection : Selection) :
    (askFor library host scene source selection).IsLate := by
  unfold askFor
  mvcgen
  simp [hhost.services]

@[spec]
theorem late_askForIncluded (scene : Scene) (source : Term) (selection : Selection) (ignoreMissing : Bool) :
    (askForIncluded library host scene source selection ignoreMissing).IsLate := by
  unfold askForIncluded
  refine Run.late_tryCatch ?_ fun fault hfault => ?_
  · mvcgen
  · mvcgen

@[spec]
theorem late_loopText (scene : Scene) (line : Nat) (escaping : Escaping) (output : Output) :
    (loopText host scene line escaping output).IsLate := by
  unfold loopText
  mvcgen
  simp [hhost.services]

end Host

section Execute

variable {library : Library} {host : Host}

mutual

@[spec]
theorem late_execute (hhost : host.IsLate) (scene : Scene) :
    (step : Step) → (execute library host scene step).IsLate
  | .print parts => by
      unfold execute
      mvcgen
      exact fun _ => hhost
  | .unlessExtended body => by
      have hbody := late_executeAll hhost scene body
      unfold execute
      mvcgen [hbody]
  | .branch line test whenTrue whenFalse => by
      have htrue := late_executeAll hhost scene whenTrue
      have hfalse := late_executeAll hhost scene whenFalse
      unfold execute
      mvcgen [htrue, hfalse]
      exact fun _ => hhost.services
  | .loop line lastLine target iter test own recursive escaping scope body otherwise => by
      have hbody := fun scene => late_executeAll hhost scene body
      have hotherwise := fun scene => late_executeOtherwise hhost scene otherwise
      unfold execute
      mvcgen [hbody, hotherwise] <;> exact fun _ => hhost
  | .assign checkLine checks line target value publication => by
      unfold execute
      mvcgen
      exact fun _ => hhost.services
  | .capture scope body line target value publication => by
      have hbody := late_executeAll hhost scene body
      unfold execute
      mvcgen [hbody] <;> exact hhost.services
  | .bind line scope bindings body => by
      have hbody := late_executeAll hhost scene body
      unfold execute
      mvcgen [hbody]
      exact fun _ => hhost.services
  | .escaping line scope option body => by
      have hbody := late_executeAll hhost scene body
      unfold execute
      mvcgen [hbody]
      exact fun _ => hhost
  | .filterBlock line scope body value => by
      have hbody := late_executeAll hhost scene body
      unfold execute
      mvcgen [hbody]
  | .block line id locals required => by
      have hblock := hhost.block
      unfold execute
      mvcgen [hblock] <;> simp
  | .includeFrom line source selection locals ignoreMissing => by
      have hroot := hhost.root
      unfold execute
      mvcgen [hroot]
  | .defineMacro _ _ _ | .callBlock _ _ _ | .extend _ _ _ | .extendedTwice _ | .importAs _ _ _ _ _ _
  | .importNames _ _ _ _ _ => by
      unfold execute
      mvcgen <;> exact fun _ => hhost

@[spec]
theorem late_executeOtherwise (hhost : host.IsLate) (scene : Scene) :
    (otherwise : Option (ScopePlan × List Step)) → (executeOtherwise library host scene otherwise).IsLate
  | none => by
      unfold executeOtherwise
      mvcgen
  | some (scope, body) => by
      have hbody := late_executeAll hhost scene body
      unfold executeOtherwise
      mvcgen [hbody]

@[spec]
theorem late_executeAll (hhost : host.IsLate) (scene : Scene) :
    (steps : List Step) → (executeAll library host scene steps).IsLate
  | [] => by
      unfold executeAll
      mvcgen
  | step :: rest => by
      have hstep := late_execute hhost scene step
      have hrest := late_executeAll hhost scene rest
      unfold executeAll
      mvcgen [hstep, hrest]

end

end Execute

/-! ### Running routines -/

@[spec]
theorem late_macroCells (services : Services) (plan : MacroPlan) (arguments : CallArguments) :
    IsLate (macroCells services plan arguments) := by
  unfold macroCells
  split
  mvcgen <;> simp

@[spec]
theorem late_blockAbove (services : Services) (context : Nat) (block : BlockId) :
    (blockAbove services context block).IsLate := by
  unfold blockAbove
  mvcgen

section Host

variable {library : Library} {host : Host} (hhost : host.IsLate)

include hhost

@[spec]
theorem late_fillDefaults (scene : Scene) (line : Nat) (parameters : List Parameter) :
    (fillDefaults host scene line parameters).IsLate := by
  unfold fillDefaults
  mvcgen
  exact fun _ => hhost

@[spec]
theorem late_callMacro (caller : Scene) (object : MacroObject) (arguments : CallArguments) :
    (callMacro library host caller object arguments).IsLate := by
  unfold callMacro
  mvcgen
  exact hhost.services

@[spec]
theorem late_runRoutine (template : String) (context : Nat) (routine : Routine) {above : Run Value}
    (habove : above.IsLate) : (runRoutine library host template context routine above).IsLate := by
  unfold runRoutine
  mvcgen [habove]

@[spec]
theorem late_runBlock (context : Nat) (block : BlockId) : (runBlock library host context block).IsLate := by
  unfold runBlock
  mvcgen

@[spec]
theorem late_runRoot (template : String) (context : Nat) : (runRoot library host template context).IsLate := by
  have hroot := hhost.root
  unfold runRoot
  mvcgen [hroot]

@[spec]
theorem late_callBlock (reference : BlockReference) (arguments : CallArguments) :
    (callBlock host reference arguments).IsLate := by
  have hblock := hhost.block
  unfold callBlock
  mvcgen [hblock]
  exact hhost.services

@[spec]
theorem late_callLoop (address : Nat) (arguments : CallArguments) :
    (callLoop library host address arguments).IsLate := by
  unfold callLoop
  mvcgen <;> simp [hhost]

@[spec]
theorem late_loopTestHolds (target : Target) (test : LoopTest) (scene : Scene) (item : Value) :
    (loopTestHolds host target test scene item).IsLate := by
  unfold loopTestHolds
  mvcgen <;> simp [hhost.services]

end Host

@[spec]
theorem late_callValue {library : Library} {macroHost host : Host} (houter : macroHost.IsLate)
    (hhost : host.IsLate) (scene : Scene) (value : Value) (arguments : CallArguments) :
    (callValue library macroHost host scene value arguments).IsLate := by
  unfold callValue
  mvcgen <;> simp [hhost, hhost.services]

@[simp] theorem isLate_tooDeep : tooDeep.IsLate := ⟨nofun, nofun⟩

/-- However much room there is, hosts stop only with late faults. -/
theorem Host.isLate_within (library : Library) : (room : Nat) → (Host.within library room).IsLate
  | 0 | 1 | 2 | 3 => by
      unfold within
      refine ⟨Services.areLate_within (fun _ _ _ _ => ?_) 0, fun _ _ _ => ?_, fun _ _ => ?_, fun _ _ => ?_⟩
      all_goals mvcgen
  | room + 4 => by
      -- A macro takes four steps of the room, a loop or its condition three, and a routine one.
      have houter := isLate_within library room
      have hcall := isLate_within library (room + 1)
      have hrun := isLate_within library (room + 3)
      unfold within
      exact ⟨Services.areLate_within (late_loopTestHolds hcall) streamDepth, late_callValue houter hcall,
        late_runBlock hrun, late_runRoot hrun⟩

@[spec]
theorem Library.late_render (library : Library) (name : String) (given : List (String × Value)) :
    (library.render name given).IsLate := by
  have hroot := (Host.isLate_within library callRoom).root
  unfold render
  mvcgen [hroot]

end TemplateWorkbench.Template
