import TemplateWorkbench.Proofs.Template.AlternationText
import TemplateWorkbench.Proofs.Template.ChainProgram

/-!
# The text of a chain

A template that is included runs in a context of its own, under its own name.  A parent runs in the
context of the template that extends it, and this context keeps the name of that template.  So a part is
escaped by the name of its own template, but whether its values become JSON text is decided by the name of
the template that was asked for or included last.

The two names agree on JSON wherever templates are only extended by templates that agree with them, and
there every part is printed by its own name.
-/

namespace TemplateWorkbench.Template

open Json (Canonical NamesDistinct)
open Run Alternation

variable {running own : String} {scene : Scene} {memory after : Memory} {library : Library}
  {host : Host} {members : List (String × Json)}

/-! ### Steps one after another -/

theorem executeAll_append (library : Library) (host : Host) (scene : Scene)
    (first second : List Step) :
    executeAll library host scene (first ++ second) =
      executeAll library host scene first >>= fun output =>
        executeAll library host scene second >>= fun others => pure (output ++ others) := by
  induction first with
  | nil => simp only [List.nil_append, executeAll, pure_bind, bind_pure]
  | cons step rest ih =>
      simp only [List.cons_append, executeAll, ih, bind_assoc, pure_bind, List.append_assoc]

/-- Texts that can be joined from every position on can be joined after others. -/
theorem joinParts_append {parts others : List Value} {text more : String} {position : Nat}
    (hparts : joinParts.go position parts = .ok text)
    (hothers : ∀ position, joinParts.go position others = .ok more) :
    joinParts.go position (parts ++ others) = .ok (text ++ more) := by
  induction parts generalizing position text with
  | nil =>
      rw [joinParts.go] at hparts
      cases hparts
      rw [List.nil_append, String.empty_append]
      exact hothers position
  | cons part rest ih =>
      rw [joinParts.go] at hparts
      rw [List.cons_append, joinParts.go]
      cases htext : part.text? with
      | none =>
          rw [htext] at hparts
          cases hparts
      | some first =>
          rw [htext] at hparts
          cases hrest : joinParts.go (position + 1) rest with
          | error fault =>
              simp only [hrest] at hparts
              cases hparts
          | ok second =>
              simp only [hrest] at hparts
              cases hparts
              simp only [ih hrest]
              rw [String.append_assoc]
              rfl

theorem Prints.append {output others : Output} {text more : String} (houtput : Prints output text)
    (hothers : Prints others more) : Prints (output ++ others) (text ++ more) := by
  intro position
  rw [List.map_append]
  exact joinParts_append (houtput position) hothers

/-- Steps that are done unless a parent has been chosen are done before one is. -/
theorem gives_guarded {steps : List Step} {output : Output} {activation : Activation}
    (hactivation : memory.activations[scene.root]? = some activation)
    (hparent : activation.parent = none)
    (hsteps : Gives (executeAll library host scene steps) memory output after) (checks : Bool) :
    Gives (executeAll library host scene (guarded checks steps)) memory output after := by
  unfold guarded
  split
  · have hguarded : Gives (execute library host scene (.unlessExtended steps)) memory output after := by
      rw [execute]
      refine (gives_activationAt hactivation).bind ?_
      rw [hparent]
      exact hsteps
    rw [executeAll, executeAll]
    refine hguarded.bind ((gives_pure [] after).bind ?_)
    rw [List.append_nil]
    exact gives_pure output after
  · exact hsteps

/-! ### The step of a reference -/

/-- The template that a text names is the one that is asked for. -/
theorem gives_askFor {template : String} {program : Program}
    (hprogram : library.program? template = some program) (host : Host) (scene : Scene)
    (memory : Memory) :
    Gives (askFor library host scene (.const (.string template)) .single) memory template memory := by
  have heval : Gives (eval host scene (.const (.string template))) memory (.string template) memory := by
    rw [eval]
    exact gives_pure _ _
  unfold askFor
  exact heval.bind (gives_find hprogram memory)

theorem gives_askForIncluded {template : String} {program : Program}
    (hprogram : library.program? template = some program) (host : Host) (scene : Scene)
    (ignoreMissing : Bool) (memory : Memory) :
    Gives (askForIncluded library host scene (.const (.string template)) .single ignoreMissing) memory
      (some template) memory := by
  unfold askForIncluded
  refine Gives.caught ?_ _
  exact (gives_askFor hprogram host scene memory).bind (gives_pure _ _)

/-- The context of an included template offers what the one around it does, under a name of its own. -/
theorem exists_gives_contextFrom {template : String} {program : Program}
    (hprogram : library.program? template = some program) (hblocks : program.blocks = [])
    {names : List String} (hoffers : Offers running members names (memory.contextOf scene)) :
    ∃ context opened after, Gives (contextFrom library scene template []) memory context after ∧
      after.contexts[context]? = some opened ∧ Offers template members names opened := by
  obtain ⟨context, opened, after, hopen, hcontext, hname, hgiven, hassigned⟩ :=
    exists_gives_openContext hprogram hblocks (memory.contextOf scene).given memory
  refine ⟨context, opened, after, ?_, hcontext, hname, hassigned, fun name hmem => ?_⟩
  · have hall : overlay (memory.contextOf scene).all [] = (memory.contextOf scene).given := by
      rw [Context.all, hoffers.unassigned]
      rfl
    have hlocals : Gives (scene.locals []) memory [] memory := rfl
    unfold contextFrom
    refine (gives_contextOf scene memory).bind (hlocals.bind ?_)
    rw [hall]
    exact hopen
  · have hknown := hoffers.knows name hmem
    rw [Context.resolve?, hoffers.unassigned] at hknown
    rw [Context.resolve?, hassigned, hgiven]
    exact hknown

/-- The step of an inclusion runs the root of the included template in a context that offers what the one
around it does. -/
theorem exists_execute_inclusion {template : String} {program : Program}
    (hprogram : library.program? template = some program) (hblocks : program.blocks = [])
    {names : List String} (hoffers : Offers running members names (memory.contextOf scene))
    (host : Host) (line : Nat) :
    ∃ context opened middle, middle.contexts[context]? = some opened ∧
      Offers template members names opened ∧
      (execute library host scene (Reference.inclusion.step line template)).run.run memory =
        (placed line (host.root template context >>= fun output =>
          pure (Template.settled output))).run.run middle := by
  obtain ⟨context, opened, middle, hopen, hcontext, hinside⟩ :=
    exists_gives_contextFrom hprogram hblocks hoffers
  refine ⟨context, opened, middle, hcontext, hinside, ?_⟩
  rw [Reference.step, execute]
  refine run_placed ?_ line
  rw [(gives_askForIncluded hprogram host scene false memory).run_bind]
  exact hopen.run_bind _

/-- Choosing a parent without blocks changes no context. -/
theorem exists_gives_extend {template : String} {program : Program}
    (hprogram : library.program? template = some program) (hblocks : program.blocks = [])
    {activation : Activation} (hactivation : memory.activations[scene.root]? = some activation)
    (host : Host) (line : Nat) :
    ∃ after, Gives (execute library host scene (Reference.extension.step line template)) memory [] after ∧
      after.contexts = memory.contexts ∧
      after.activations[scene.root]? = some { activation with parent := some template } := by
  let after : Memory :=
    { memory with
      activations := memory.activations.modify scene.root fun a => { a with parent := some template }
      contexts := memory.contexts.modify scene.context id }
  have hchoose : Gives (chooseParent library scene template) memory () after := by
    unfold chooseParent
    rw [hprogram]
    simp only [Option.map_some, Option.getD_some, hblocks, List.foldl_nil]
    rfl
  -- Without blocks to be put in, the context is modified by the identity.
  refine ⟨after, ?_, ?_, ?_⟩
  · rw [Reference.step, execute]
    exact (gives_pure _ _).bind (((gives_askFor hprogram host scene memory).placed line).bind
      (hchoose.bind (gives_pure _ _)))
  · refine Array.ext_getElem? fun address => ?_
    simp [after, Array.getElem?_modify]
  · simp [after, Array.getElem?_modify, hactivation]

/-- The name of the context that a template goes on in: an included template has one of its own, a parent
has that of the template. -/
def Reference.nameInside (running next : String) : Reference → String
  | inclusion => next
  | extension => running

namespace Chain

/-- How many templates there are. -/
def length : Chain → Nat
  | last _ _ => 1
  | link _ _ _ rest => rest.length + 1

/-- The names that are printed by any of the templates. -/
def printedNames : Chain → List String
  | last _ part => part.names
  | link _ part _ rest => part.names ++ rest.printedNames

/-- The text of the templates, the first of which runs in a context under a name. -/
def text? (members : List (String × Json)) (running : String) : Chain → Option String
  | last name part => part.settled.filled? (meaningIn? running name members)
  | link name part reference rest => do
    let text ← part.unified.filled? (meaningIn? running name members)
    pure (text ++ (← rest.text? members (reference.nameInside running rest.name)))

/-- A library has the programs of all the templates. -/
def CompiledIn (library : Library) : Chain → Prop
  | last name part => ∃ plan, FillsFrom plan part.settled.names ∧
      library.program? name = some (part.settled.program name plan)
  | link name part reference rest =>
    (∃ plan, FillsFrom plan part.unified.names ∧
      library.program? name = some (linkProgram name plan part.unified reference rest.name)) ∧
      rest.CompiledIn library

theorem CompiledIn.exists_program {chain : Chain} (hcompiled : chain.CompiledIn library) :
    ∃ program, library.program? chain.name = some program ∧ program.blocks = [] := by
  cases chain with
  | last name part =>
      obtain ⟨plan, -, hprogram⟩ := hcompiled
      exact ⟨_, hprogram, rfl⟩
  | link name part reference rest =>
      obtain ⟨⟨plan, -, hprogram⟩, -⟩ := hcompiled
      exact ⟨_, hprogram, rfl⟩

/-- The own part of a template is printed before the step of its reference is done. -/
theorem gives_linkSteps {part : Alternation} {reference : Reference} {next : String}
    {escaping : Escaping} {output others : Output}
    (hown : Gives (executeAll library host scene (guarded reference.isExtension (part.steps escaping)))
      memory output memory)
    (hstep : Gives (execute library host scene (reference.step (part.lastLine 1) next)) memory others
      after) :
    Gives (executeAll library host scene (linkSteps escaping part reference next)) memory
      (output ++ others) after := by
  have hlast : Gives (executeAll library host scene [reference.step (part.lastLine 1) next]) memory
      others after := by
    rw [executeAll, executeAll]
    refine hstep.bind ((gives_pure [] after).bind ?_)
    rw [List.append_nil]
    exact gives_pure others after
  rw [linkSteps, executeAll_append]
  exact hown.bind (hlast.bind (gives_pure _ _))

/-- A template stops where the step of its reference does. -/
theorem fails_linkSteps {part : Alternation} {reference : Reference} {next : String}
    {escaping : Escaping} {output : Output} {fault : Fault}
    (hown : Gives (executeAll library host scene (guarded reference.isExtension (part.steps escaping)))
      memory output memory)
    (hstep : Fails (execute library host scene (reference.step (part.lastLine 1) next)) memory fault) :
    Fails (executeAll library host scene (linkSteps escaping part reference next)) memory fault := by
  have hlast : Fails (executeAll library host scene [reference.step (part.lastLine 1) next]) memory
      fault := by
    rw [executeAll]
    exact hstep.bind _
  rw [linkSteps, executeAll_append]
  exact hown.fails (hlast.bind _)

/-- A template stops where the steps of its root do. -/
theorem fails_runRoot {template : String} {program : Program} {fault : Fault}
    (hprogram : library.program? template = some program) {context : Nat} {before : Memory}
    {inside : Scene}
    (hroutine : (runRoutine library host template context program.root (pure .none)).run.run memory =
      (executeAll library host inside program.root.body >>= fun output =>
        pure (inside, Template.settled output)).run.run before)
    (hsteps : Fails (executeAll library host inside program.root.body) before fault) :
    Fails (runRoot library host template context) memory fault := by
  have hroot := (hsteps.bind fun output => pure (inside, Template.settled output)).of_eq hroutine
  unfold runRoot
  rw [hprogram]
  exact hroot.bind _

/-- The context of a root is the one that was opened for it. -/
theorem contextOf_rootScene {before : Memory} (hcontexts : before.contexts = memory.contexts)
    {context : Nat} {opened : Context} (hcontext : memory.contexts[context]? = some opened)
    (own : String) : before.contextOf (rootScene own context memory) = opened := by
  rw [Memory.contextOf, hcontexts]
  exact congrArg (·.getD default) hcontext

section Link

variable {name : String} {part : Alternation} {reference : Reference} {rest : Chain}

/-- A host with room for all templates has room for its own one, and is left with enough for the others. -/
theorem exists_room {room : Nat} (hroom : (link name part reference rest).length + 3 ≤ room) :
    ∃ least, room = least + 4 ∧ rest.length + 3 ≤ least + 3 := by
  have hlength : (link name part reference rest).length = rest.length + 1 := rfl
  exact ⟨room - 4, by omega, by omega⟩

theorem offers_link {opened : Context}
    (hoffers : Offers running members (link name part reference rest).printedNames opened) :
    Offers running members part.unified.names opened ∧
      Offers running members rest.printedNames opened := by
  refine ⟨hoffers.mono fun other hother => ?_, hoffers.mono fun other hother => ?_⟩
  · rw [names_unified] at hother
    exact List.mem_append_left _ hother
  · exact List.mem_append_right _ hother

end Link

/-- A root prints a text of its own and then goes on with the root of another template in a context; what
stops that one stops it as well. -/
structure GoesOn (library : Library) (host : Host) (own next : String) (context inner : Nat)
    (memory middle : Memory) (text : String) : Prop where
  gives : ∀ {others : Output} {after : Memory}, Gives (host.root next inner) middle others after →
    ∃ output, Gives (runRoot library host own context) memory output after ∧
      ∀ more, Prints others more → Prints output (text ++ more)
  fails : ∀ {fault : Fault}, fault.line.isSome = true → Fails (host.root next inner) middle fault →
    Fails (runRoot library host own context) memory fault

/-- A template prints its own part, and goes on with the next one in a context that offers the same. -/
theorem exists_goesOn {plan : ScopePlan} {part : Alternation} {reference : Reference} {next : String}
    {program : Program} (hfills : FillsFrom plan part.names)
    (hprogram : library.program? own = some (linkProgram own plan part reference next))
    (hnext : library.program? next = some program) (hblocks : program.blocks = []) {context : Nat}
    {opened : Context} (hcontext : memory.contexts[context]? = some opened) {names : List String}
    (hpart : Offers running members part.names opened) (hoffers : Offers running members names opened)
    (hmembers : ∀ member ∈ members, Canonical member.2)
    (hkeys : ∀ name ∈ part.names, name ∈ members.map Prod.fst) (host : Host) :
    ∃ text inner offered middle, middle.contexts[inner]? = some offered ∧
      Offers (reference.nameInside running next) members names offered ∧
      part.filled? (meaningIn? running own members) = some text ∧
      GoesOn library host own next context inner memory middle text := by
  -- The own part is printed, and no parent has been chosen before that.
  obtain ⟨before, activation, hcontexts, hactivation, hparent, hready, hroutine⟩ :=
    exists_runRoutine_eq hfills hcontext hpart own library host
  obtain ⟨output, text, houtput, hfilled, hprints⟩ :=
    exists_gives_steps hready hmembers hkeys own library host
  have hown := gives_guarded hactivation hparent houtput reference.isExtension
  cases reference with
  | inclusion =>
      have hopened := contextOf_rootScene hcontexts hcontext own
      obtain ⟨inner, offered, middle, hinner, hoffered, hstep⟩ :=
        exists_execute_inclusion hnext hblocks (hopened ▸ hoffers) host (part.lastLine 1)
      refine ⟨text, inner, offered, middle, hinner, hoffered, hfilled, ?_, ?_⟩
      · intro others after hgives
        have hlast : Gives (execute library host (rootScene own context memory)
            (Reference.inclusion.step (part.lastLine 1) next)) before (Template.settled others)
            after := by
          refine hstep.trans (Gives.placed ?_ _)
          exact hgives.bind (gives_pure _ _)
        have hroot : Gives _ memory _ after :=
          (hroutine _).trans ((gives_linkSteps hown hlast).bind (gives_pure _ _))
        refine ⟨_, ?_, fun more hmore => (hprints.append hmore.settled).settled⟩
        unfold runRoot
        rw [hprogram]
        exact hroot.bind (gives_pure _ _)
      · intro fault hline hfails
        have hlast : Fails (execute library host (rootScene own context memory)
            (Reference.inclusion.step (part.lastLine 1) next)) before (fault.at (part.lastLine 1)) :=
          ((hfails.bind _).placed _).of_eq hstep
        rw [Fault.at_of_isSome hline] at hlast
        exact fails_runRoot hprogram (hroutine _) (fails_linkSteps hown hlast)
  | extension =>
      obtain ⟨chosen, hextend, hsame, hchosen⟩ :=
        exists_gives_extend hnext hblocks hactivation host (part.lastLine 1)
      have hparentContext : chosen.contexts[context]? = some opened := by
        rw [hsame, hcontexts, hcontext]
      have hfirst : Gives _ memory _ chosen :=
        (hroutine _).trans ((gives_linkSteps hown hextend).bind (gives_pure _ _))
      refine ⟨text, context, opened, chosen, hparentContext, hoffers, hfilled, ?_, ?_⟩
      · intro others after hgives
        refine ⟨Template.settled (output ++ []) ++ others, ?_, fun more hmore => ?_⟩
        · unfold runRoot
          rw [hprogram]
          exact hfirst.bind ((gives_activationAt hchosen).bind (hgives.bind (gives_pure _ _)))
        · rw [List.append_nil]
          exact hprints.settled.append hmore
      · intro fault _ hfails
        unfold runRoot
        rw [hprogram]
        exact hfirst.fails ((gives_activationAt hchosen).fails (hfails.bind _))

/-- The roots of the templates print the text of the chain. -/
theorem exists_gives_root {chain : Chain} (hcompiled : chain.CompiledIn library)
    (hmembers : ∀ member ∈ members, Canonical member.2)
    (hkeys : ∀ name ∈ chain.printedNames, name ∈ members.map Prod.fst) {room : Nat}
    (hroom : chain.length + 3 ≤ room) {context : Nat} {opened : Context}
    (hcontext : memory.contexts[context]? = some opened)
    (hoffers : Offers running members chain.printedNames opened) :
    ∃ output text after, Gives ((Host.within library room).root chain.name context) memory output after ∧
      chain.text? members running = some text ∧ Prints output text := by
  -- By the templates of the chain; each has less room for calls than the one before it.
  induction chain generalizing running memory room context opened with
  | last name part =>
      obtain ⟨plan, hfills, hprogram⟩ := hcompiled
      obtain ⟨room, rfl⟩ : ∃ least, room = least + 4 := Nat.exists_eq_add_of_le' hroom
      rw [root_within]
      have hnames (name : String) (hname : name ∈ part.settled.names) : name ∈ part.names := by
        rwa [names_settled] at hname
      exact exists_gives_runRoot hfills hprogram hcontext (hoffers.mono hnames) hmembers
        (fun name hname => hkeys name (hnames name hname)) _
  | link name part reference rest ih =>
      obtain ⟨⟨plan, hfills, hprogram⟩, hrest⟩ := hcompiled
      obtain ⟨room, rfl, hinside⟩ := exists_room hroom
      obtain ⟨hoffersPart, hoffersRest⟩ := offers_link hoffers
      have hpartKeys (other : String) (hname : other ∈ part.unified.names) :=
        hkeys other (List.mem_append_left _ (by rwa [names_unified] at hname))
      have hrestKeys (other : String) (hname : other ∈ rest.printedNames) :=
        hkeys other (List.mem_append_right _ hname)
      obtain ⟨next, hnext, hblocks⟩ := hrest.exists_program
      obtain ⟨text, inner, offered, middle, hinner, hoffered, hfilled, hgoes⟩ :=
        exists_goesOn hfills hprogram hnext hblocks hcontext hoffersPart hoffersRest hmembers hpartKeys
          (Host.within library (room + 3))
      obtain ⟨others, more, after, hothers, hmore, hprintsMore⟩ :=
        ih hrest hrestKeys hinside hinner hoffered
      obtain ⟨output, houtput, hprints⟩ := hgoes.gives hothers
      refine ⟨output, text ++ more, after, houtput, ?_, hprints more hprintsMore⟩
      rw [text?, hfilled, hmore]
      rfl

/-! ### Environments -/

theorem names_sources (chain : Chain) : chain.sources.map Prod.fst = chain.names := by
  induction chain with
  | last name part => rfl
  | link name part reference rest ih => rw [sources, names, List.map_cons, ih]

theorem exists_compileAll {chain : Chain} (hformed : chain.WellFormed) (hdistinct : chain.names.Nodup)
    (strict : Bool) :
    ∃ programs, Environment.compileAll strict chain.sources = .ok programs ∧
      ∀ library : Library,
        (∀ name ∈ chain.names, library.program? name = programs.lookup name) →
          chain.CompiledIn library := by
  induction chain with
  | last name part =>
      obtain ⟨plan, hfills, hcompile⟩ := exists_compileSource hformed strict name
      refine ⟨[(name, part.settled.program name plan)], ?_, fun library hlibrary => ?_⟩
      · rw [sources, Environment.compileAll, hcompile]
        rfl
      · refine ⟨plan, hfills, ?_⟩
        rw [hlibrary name (List.mem_singleton.mpr rfl), Json.lookup_cons,
          if_pos (beq_self_eq_true name)]
  | link name part reference rest ih =>
      obtain ⟨hpart, hnext, hrest⟩ := hformed
      obtain ⟨hfirst, hothers⟩ := List.nodup_cons.mp hdistinct
      obtain ⟨plan, hfills, hcompile⟩ := exists_compileSource_link hpart reference hnext strict name
      obtain ⟨programs, hprograms, hcompiled⟩ := ih hrest hothers
      refine ⟨(name, linkProgram name plan part.unified reference rest.name) :: programs, ?_,
        fun library hlibrary => ⟨⟨plan, hfills, ?_⟩, hcompiled library fun other hother => ?_⟩⟩
      · rw [sources, Environment.compileAll, hcompile]
        simp only [hprograms]
        rfl
      · rw [hlibrary name List.mem_cons_self, Json.lookup_cons, if_pos (beq_self_eq_true name)]
      · -- The names differ, so that the program of the first template does not hide another one.
        have hne : ¬ (other == name) = true := by
          rw [beq_iff_eq]
          rintro rfl
          exact hfirst hother
        rw [hlibrary other (List.mem_cons_of_mem _ hother), Json.lookup_cons, if_neg hne]

/-- An environment of the sources of a chain has all its programs. -/
theorem exists_ofSources {chain : Chain} (hformed : chain.WellFormed) (hdistinct : chain.names.Nodup)
    (strict : Bool) :
    ∃ environment, Environment.ofSources strict chain.sources = .ok environment ∧
      environment.sources = chain.sources ∧ environment.library.strict = strict ∧
      chain.CompiledIn environment.library := by
  obtain ⟨programs, hprograms, hcompiled⟩ := exists_compileAll hformed hdistinct strict
  have hlast : Json.lastWins chain.sources = chain.sources := by
    refine Json.lastWins_eq_self ?_
    rw [NamesDistinct, names_sources]
    exact hdistinct
  refine ⟨{ sources := chain.sources, library := { strict, programs } }, ?_, rfl, rfl,
    hcompiled _ fun name _ => rfl⟩
  rw [Environment.ofSources]
  simp only [hlast, hprograms]
  rfl

/-! ### Rendering -/

/-- The text of the templates if every one printed as its own name says. -/
def ownText? (members : List (String × Json)) : Chain → Option String
  | last name part => part.settled.filled? (meaning? name members)
  | link name part _ rest => do
    let text ← part.unified.filled? (meaning? name members)
    pure (text ++ (← rest.ownText? members))

/-- A parent prints JSON exactly if the template that extends it does. -/
def Agrees : Chain → Prop
  | last _ _ => True
  | link name _ reference rest =>
    (reference = .extension → printsJson name = printsJson rest.name) ∧ rest.Agrees

theorem meaningIn?_eq (hjson : printsJson running = printsJson own) :
    meaningIn? running own members = meaning? own members := by
  funext name
  have hshown : shown? running = shown? own := by
    funext json
    rw [shown?, shown?, hjson]
  rw [meaningIn?, meaning?]
  congr 1
  funext json
  rw [encodingIn?, encoding?, hshown]

/-- Where parents agree with the templates that extend them, every template prints as its own name says. -/
theorem text?_eq_ownText? {chain : Chain} (hagrees : chain.Agrees)
    (hjson : printsJson running = printsJson chain.name) :
    chain.text? members running = chain.ownText? members := by
  induction chain generalizing running with
  | last name part =>
      have hown : meaningIn? running name members = meaning? name members := meaningIn?_eq hjson
      rw [text?, ownText?, hown]
  | link name part reference rest ih =>
      obtain ⟨hreference, hrest⟩ := hagrees
      have hown : meaningIn? running name members = meaning? name members := meaningIn?_eq hjson
      have hinside : printsJson (reference.nameInside running rest.name) = printsJson rest.name := by
        cases reference with
        | inclusion => rfl
        | extension => exact hjson.trans (hreference rfl)
      rw [text?, ownText?, hown, ih hrest hinside]

/-- A chain of templates that are all there is rendered.  Whether values become JSON text goes by the name
of the template that was asked for or included last; and if no parent differs in that from the template
that extends it, the text is that of templates which each go by their own name. -/
theorem exists_render_chain {chain : Chain} {members : List (String × Json)}
    (hformed : chain.WellFormed) (hdistinct : chain.names.Nodup) (hroom : chain.length + 3 ≤ callRoom)
    (hcanonical : Canonical (.object members))
    (hkeys : ∀ name ∈ chain.printedNames, name ∈ members.map Prod.fst) (strict : Bool) :
    ∃ environment text, Environment.ofSources strict chain.sources = .ok environment ∧
      (environment.render chain.name (.object members)).1 = .ok text ∧
      chain.text? members chain.name = some text ∧
      (chain.Agrees → chain.ownText? members = some text) := by
  obtain ⟨environment, hsources, -, -, hcompiled⟩ := exists_ofSources hformed hdistinct strict
  obtain ⟨program, hprogram, hblocks⟩ := hcompiled.exists_program
  cases hcanonical with
  | object hmembersDistinct hmembers =>
      obtain ⟨memory, context, opened, hcontext, hoffers, hrender⟩ :=
        exists_render_eq_rootText hprogram hblocks hmembersDistinct fun name hname =>
          .inl (hkeys name hname)
      obtain ⟨output, text, after, hroot, hmeaning, hprints⟩ :=
        exists_gives_root hcompiled hmembers hkeys hroom hcontext hoffers
      have htext : Gives (rootText environment.library chain.name context) memory text after := by
        unfold rootText
        exact hroot.bind (gives_lift (hprints 0) after)
      refine ⟨environment, text, hsources, ?_, hmeaning, fun hagrees => ?_⟩
      · rw [hrender, htext]
        rfl
      · rw [← text?_eq_ownText? hagrees rfl, hmeaning]

/-- A page that includes JSON of a value after the value itself. -/
def pageChain : Chain :=
  .link "page.html" (.print [] "v" (.last [':', ' '])) .inclusion
    (.last "data.json" (.print [] "v" (.last [])))

/-- The page escapes the value, and what it includes prints it as JSON. -/
theorem exists_render_pageChain :
    ∃ environment, Environment.ofSources true
        [("page.html", "\x7b\x7b v \x7d\x7d: \x7b% include \"data.json\" %\x7d"),
          ("data.json", "\x7b\x7b v \x7d\x7d")] = .ok environment ∧
      (environment.render "page.html" (.object [("v", .string "<a>")])).1 =
        .ok "&lt;a&gt;: \"<a>\"" ∧
      pageChain.ownText? [("v", .string "<a>")] = some "&lt;a&gt;: \"<a>\"" := by
  have hcanonical : Canonical (.object [("v", .string "<a>")]) :=
    .object (List.nodup_singleton "v") fun member hmember => by
      rw [List.mem_singleton.mp hmember]
      exact .string "<a>"
  obtain ⟨environment, text, hsources, hrender, -, hown⟩ :=
    exists_render_chain (show pageChain.WellFormed by decide) (by decide) (by decide) hcanonical
      (by decide) true
  have hownText := hown ⟨fun hreference => (by cases hreference), trivial⟩
  have hquoted : pageChain.ownText? [("v", .string "<a>")] = some "&lt;a&gt;: \"<a>\"" := by
    decide +kernel
  rw [hquoted] at hownText
  cases hownText
  exact ⟨environment, hsources, hrender, hquoted⟩

/-- A parent that prints text, extended by a template that prints JSON. -/
def mixedChain : Chain :=
  .link "child.json" (.last []) .extension (.last "base.txt" (.print [] "v" (.last [])))

/-- A value that is printed by a parent becomes JSON text although the name of the parent does not ask for
it. -/
theorem render_mixedChain :
    (Environment.ofSources false mixedChain.sources).toOption.map (fun environment =>
        (environment.render "child.json" (.object [("v", .string "a")])).1) = some (.ok "\"a\"") ∧
      printsJson "base.txt" = false ∧ mixedChain.ownText? [("v", .string "a")] = some "a" := by
  decide +kernel

end Chain

end TemplateWorkbench.Template
