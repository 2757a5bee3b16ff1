import TemplateWorkbench.Proofs.Template.Folding

/-!
# What compiling objects to

Compiling refuses a template in words of its own, or it finds fault with the form of the listing.  Everything
else that stops it has to do with a constant: evaluating it was not held back, or it cannot be written down.
This file follows compiling from the small steps that write rows up to whole templates.
-/

namespace TemplateWorkbench.Template

open Std.Do
open Compiling

set_option mvcgen.warning false

variable {α : Type}

/-- The services that constants are evaluated with. -/
def foldingServices (strict : Bool) : Services :=
  Services.within strict (fun _ _ _ _ => pure false) foldingDepth

/-- Where a fault of compiling comes from. -/
inductive CompileFault (strict : Bool) : Fault → Prop where
  | template {fault : Fault} (htemplate : fault.kind.isTemplateFault = true) : CompileFault strict fault
  | form {fault : Fault} (hform : fault.kind.isFormFault = true) : CompileFault strict fault
  | constant {fault : Fault} (hconstant : ConstantFault (foldingServices strict) fault) :
      CompileFault strict fault
  | writing {value : Value} {fault : Fault} (hwritten : value.written .plain = .error fault) :
      CompileFault strict fault

namespace Compiling

/-! ### Steps that do not stop -/

/-- Whether a computation that compiles stops only with faults of which something holds. -/
abbrev StopsWith (objects : Fault → Prop) (computation : Compiling α) : Prop :=
  ⦃⌜True⌝⦄ computation ⦃post⟨fun _ => ⌜True⌝, fun fault => ⌜objects fault⌝⟩⦄

/-- Whether a computation that compiles never stops. -/
abbrev GoesOn (computation : Compiling α) : Prop :=
  ⦃⌜True⌝⦄ computation ⦃⇓ _ => ⌜True⌝⦄

theorem wp_eq (computation : Compiling α)
    (holds : PostCond α (.arg Progress (.except Fault .pure))) (before : Progress) :
    wp⟦computation⟧ holds before = match computation.run before with
      | .ok (value, after) => holds.1 value after
      | .error fault => holds.2.1 fault := by
  have hrun : wp⟦computation⟧ holds before =
      wp⟦(show Compiling α from fun _ => computation.run before)⟧ holds before := rfl
  rw [hrun]
  rcases computation.run before with _ | _ <;> rfl

theorem StopsWith.of_run {objects : Fault → Prop} {computation : Compiling α}
    (hstops : StopsWith objects computation) {before : Progress} {fault : Fault}
    (hrun : computation.run before = .error fault) : objects fault := by
  have hholds := hstops before trivial
  rw [wp_eq, hrun] at hholds
  exact hholds

theorem stopsWith_of_run {objects : Fault → Prop} {computation : Compiling α}
    (hobjects : ∀ before fault, computation.run before = .error fault → objects fault) :
    StopsWith objects computation := by
  intro before _
  rw [wp_eq]
  rcases hrun : computation.run before with fault | value
  · exact hobjects before fault hrun
  · trivial

theorem StopsWith.mapM {β : Type} {objects : Fault → Prop} {f : α → Compiling β}
    (hf : ∀ item, StopsWith objects (f item)) (items : List α) :
    StopsWith objects (items.mapM f) := by
  induction items with
  | nil => mvcgen [List.mapM_nil]
  | cons item rest ih =>
      rw [List.mapM_cons]
      mvcgen [hf, ih]

@[spec]
theorem goesOn_mark (line : Nat) : GoesOn (mark line) := by
  unfold mark
  mvcgen

@[spec]
theorem goesOn_currentLine : GoesOn currentLine := by
  unfold currentLine
  mvcgen

@[spec]
theorem goesOn_find (what : Malformation) : GoesOn (find what) := by
  unfold find
  mvcgen

@[spec]
theorem goesOn_write (frame : Frame) (count : Nat) : GoesOn (write frame count) := by
  unfold write
  mvcgen

@[spec]
theorem goesOn_repeated (frame : Frame) : GoesOn (repeated frame) := by
  unfold repeated
  mvcgen

@[spec]
theorem goesOn_checkKeywords (ids : List String) : GoesOn (checkKeywords ids) := by
  unfold checkKeywords
  mvcgen

@[spec]
theorem goesOn_escaping : GoesOn escaping := by
  unfold escaping
  mvcgen

@[spec]
theorem goesOn_checkArguments (frame : Frame) (besides : List String) (arguments : Arguments) :
    GoesOn (checkArguments frame besides arguments) := by
  unfold checkArguments
  mvcgen

@[spec]
theorem goesOn_opened (frame : Frame) : GoesOn (opened frame) := by
  unfold opened
  mvcgen

@[spec]
theorem goesOn_checkParameters (slots : List Slot) : GoesOn (checkParameters slots) := by
  unfold checkParameters
  mvcgen

@[spec]
theorem goesOn_writeOutsideText (frame : Frame) : GoesOn (writeOutsideText frame) := by
  unfold writeOutsideText attempted
  mvcgen

@[spec]
theorem goesOn_checkHandler (frame : Frame) (rows : Nat) : GoesOn (checkHandler frame rows) := by
  unfold checkHandler
  mvcgen

@[spec]
theorem goesOn_writeHead (emptyRows : Nat) : GoesOn (writeHead emptyRows) := by
  unfold writeHead
  mvcgen

@[spec]
theorem goesOn_writeDependencies (frame : Frame) (body : List Statement) :
    GoesOn (writeDependencies frame body) := by
  unfold writeDependencies
  mvcgen

end Compiling

/-- A listing is at fault for its form. -/
theorem Listing.isFormFault_of_fault? {listing : Listing} {fault : Fault}
    (hfault : listing.fault? = some fault) : fault.kind.isFormFault = true := by
  obtain ⟨⟨what, row⟩, -, rfl⟩ := Option.map_eq_some_iff.mp hfault
  cases what <;> rfl

/-! ### Expressions -/

variable (setting : Setting)

/-- Whether a computation stops only with faults of compiling. -/
abbrev Setting.Stops (computation : Compiling α) : Prop :=
  StopsWith (CompileFault setting.strict) computation

/-- An objection of templates. -/
theorem Setting.stops_object {misreading : Misreading} (hkind : misreading.kind.isTemplateFault = true)
    (line : Nat) : setting.Stops (object misreading line : Compiling α) :=
  stopsWith_of_run fun _ _ hrun => by
    cases hrun
    exact .template hkind

/-- The settings that constants are evaluated with. -/
def Setting.folding (before : Progress) : Folding :=
  { services := foldingServices setting.strict, escapes := before.escapes
    undecided := before.undecided }

/-- The memory that constants are evaluated in. -/
def Progress.foldingMemory (progress : Progress) : Memory :=
  { escaping := #[.bool progress.escapes] }

theorem evaluate_eq (computation : Folding → Run α) :
    evaluate setting computation = (do
      let before ← get
      match ((computation (setting.folding before)).run.run before.foldingMemory).1 with
      | .ok value => pure value
      | .error fault => throw fault) := by
  rfl

/-- Evaluating constants stops as the evaluation does. -/
theorem Setting.stops_evaluate {computation : Folding → Run α}
    (hstops : ∀ folding : Folding, folding.services = foldingServices setting.strict →
      folding.Stops (computation folding)) : setting.Stops (evaluate setting computation) := by
  refine stopsWith_of_run fun before fault hrun => ?_
  rw [evaluate_eq, StateT.run_bind, StateT.run_get, pure_bind] at hrun
  rcases hresult : (computation (setting.folding before)).run.run before.foldingMemory with
    ⟨other | value, after⟩
  · have hcomputation := hstops (setting.folding before) rfl
    rw [hresult] at hrun
    cases hrun
    exact .constant (Run.stopsWith_iff.mp hcomputation _ _ _ hresult)
  · rw [hresult] at hrun
    cases hrun

namespace Setting

@[spec]
theorem stops_constantTerm (value : Value) : setting.Stops (constantTerm value) := by
  refine stopsWith_of_run fun before fault hrun => ?_
  unfold constantTerm at hrun
  cases hwritten : value.written .plain with
  | error other =>
      rw [hwritten] at hrun
      cases hrun
      exact .writing hwritten
  | ok text =>
      rw [hwritten] at hrun
      dsimp only at hrun
      split at hrun <;> cases hrun

/-- Filters and tests that nobody knows. -/
@[spec]
theorem stops_unknownFilter (id : String) (line : Nat) :
    setting.Stops (object (.unknownFilter id) line : Compiling α) :=
  setting.stops_object rfl line

@[spec]
theorem stops_unknownTest (id : String) (line : Nat) :
    setting.Stops (object (.unknownTest id) line : Compiling α) :=
  setting.stops_object rfl line

mutual

/-- The term of an expression. -/
theorem stops_term (frame : Frame) : (expr : Expr) → setting.Stops (term setting frame expr)
  | .const _ _ | .data _ _ | .name _ _ _ | .namespaceRef _ _ _ => by
      unfold term
      mvcgen
  | .tuple _ items _ | .list _ items | .concat _ items => by
      have hitems := stops_terms frame items
      unfold term
      mvcgen [hitems]
  | .dict _ entries => by
      have hentries := stops_entryTerms frame entries
      unfold term
      mvcgen [hentries]
  | .conditional _ test whenTrue whenFalse => by
      have htest := stops_term frame.softened test
      have htrue := stops_term frame.softened whenTrue
      have hfalse := stops_optionalTerm frame.softened whenFalse
      unfold term
      mvcgen [htest, htrue, hfalse]
  | .binary _ _ left right => by
      have hleft := stops_term frame left
      have hright := stops_term frame right
      unfold term
      mvcgen [hleft, hright]
  | .unary _ _ operand | .getattr _ operand _ => by
      have hoperand := stops_term frame operand
      unfold term
      mvcgen [hoperand]
  | .compare _ first others => by
      have hfirst := stops_term frame first
      have hothers := stops_comparedTerms frame others
      unfold term
      mvcgen [hfirst, hothers]
  | .slice _ start stop step => by
      have hstart := stops_optionalTerm frame start
      have hstop := stops_optionalTerm frame stop
      have hstep := stops_optionalTerm frame step
      unfold term
      mvcgen [hstart, hstop, hstep]
  | .call _ subject arguments => by
      have hsubject := stops_term frame subject
      have harguments := stops_argumentTerms frame arguments
      unfold term
      mvcgen [hsubject, harguments]
  | .test _ subject _ arguments => by
      have hsubject := stops_term frame subject
      have harguments := stops_argumentTerms frame arguments
      unfold term
      mvcgen [hsubject, harguments]
  | .filter _ subject _ arguments => by
      have hsubject := stops_subjectTerm frame subject
      have harguments := stops_argumentTerms frame arguments
      unfold term
      mvcgen [hsubject, harguments]
  | .getitem _ object index => by
      have hobject := stops_term frame object
      have hindex := stops_term frame index
      cases index with
      | slice _ start stop step =>
          have hstart := stops_optionalTerm frame start
          have hstop := stops_optionalTerm frame stop
          have hstep := stops_optionalTerm frame step
          unfold term
          mvcgen [hobject, hstart, hstop, hstep]
      | _ =>
          unfold term
          mvcgen [hobject, hindex]

/-- The terms of arguments. -/
theorem stops_argumentTerms (frame : Frame) :
    (arguments : Arguments) → setting.Stops (argumentTerms setting frame arguments)
  | .mk positional keywords more moreKeywords => by
      have hpositional := stops_terms frame positional
      have hkeywords := stops_keywordTerms frame keywords
      have hmore := stops_optionalTerm frame more
      have hmoreKeywords := stops_optionalTerm frame moreKeywords
      unfold argumentTerms
      mvcgen [hpositional, hkeywords, hmore, hmoreKeywords]

theorem stops_terms (frame : Frame) :
    (exprs : List Expr) → setting.Stops (terms setting frame exprs)
  | [] => by
      unfold terms
      mvcgen
  | expr :: rest => by
      have hexpr := stops_term frame expr
      have hrest := stops_terms frame rest
      unfold terms
      mvcgen [hexpr, hrest]

theorem stops_optionalTerm (frame : Frame) :
    (expr? : Option Expr) → setting.Stops (optionalTerm setting frame expr?)
  | none => by
      unfold optionalTerm
      mvcgen
  | some expr => by
      have hexpr := stops_term frame expr
      unfold optionalTerm
      mvcgen [hexpr]

/-- The term of what a filter is applied to. -/
theorem stops_subjectTerm (frame : Frame) :
    (subject? : Option Expr) → setting.Stops (subjectTerm setting frame subject?)
  | none => by
      unfold subjectTerm
      mvcgen
  | some expr => stops_term frame expr

theorem stops_entryTerms (frame : Frame) :
    (entries : List (Expr × Expr)) → setting.Stops (entryTerms setting frame entries)
  | [] => by
      unfold entryTerms
      mvcgen
  | (key, value) :: rest => by
      have hkey := stops_term frame key
      have hvalue := stops_term frame value
      have hrest := stops_entryTerms frame rest
      unfold entryTerms
      mvcgen [hkey, hvalue, hrest]

theorem stops_keywordTerms (frame : Frame) :
    (keywords : List (String × Expr)) → setting.Stops (keywordTerms setting frame keywords)
  | [] => by
      unfold keywordTerms
      mvcgen
  | (_, value) :: rest => by
      have hvalue := stops_term frame value
      have hrest := stops_keywordTerms frame rest
      unfold keywordTerms
      mvcgen [hvalue, hrest]

theorem stops_comparedTerms (frame : Frame) :
    (others : List (CompareOp × Expr)) → setting.Stops (comparedTerms setting frame others)
  | [] => by
      unfold comparedTerms
      mvcgen
  | (_, operand) :: rest => by
      have hoperand := stops_term frame operand
      have hrest := stops_comparedTerms frame rest
      unfold comparedTerms
      mvcgen [hoperand, hrest]

end

@[spec]
theorem stops_evaluate_prepare (expr : Expr) :
    setting.Stops (evaluate setting fun folding => folding.prepare expr) :=
  setting.stops_evaluate fun folding _ => folding.stops_prepare expr

@[spec]
theorem stops_expression (frame : Frame) (outside : Nat) (expr : Expr) :
    setting.Stops (expression setting frame outside expr) := by
  have hterm (prepared : Expr) := setting.stops_term frame prepared
  unfold expression
  mvcgen [hterm]

/-! ### What is printed -/

@[spec]
theorem stops_printedNow? (expr : Expr) : setting.Stops (printedNow? setting expr) := by
  have hevaluate (computation : Folding → Run (Option String)) :
      setting.Stops (evaluate setting fun folding => (computation folding).waiting) :=
    setting.stops_evaluate fun folding _ => folding.stops_waiting (computation folding)
  unfold printedNow?
  mvcgen [hevaluate]

@[spec]
theorem stops_printedParts (frame : Frame) (exprs : List Expr) :
    setting.Stops (printedParts setting frame exprs) := by
  induction exprs with
  | nil =>
      unfold printedParts
      mvcgen
  | cons expr rest ih =>
      unfold printedParts
      mvcgen [ih]

@[spec]
theorem stops_outputParts (frame : Frame) (outside : Nat) (parts : List (Expr × Option String)) :
    setting.Stops (outputParts setting frame outside parts) := by
  induction parts with
  | nil =>
      unfold outputParts
      mvcgen
  | cons part rest ih =>
      rcases part with ⟨expr, _ | text⟩
      all_goals
        unfold outputParts
        mvcgen [ih]

@[spec]
theorem stops_printed (frame : Frame) (parts : List Expr) :
    setting.Stops (printed setting frame parts) := by
  unfold printed
  mvcgen

@[spec]
theorem stops_parameters (frame : Frame) (params : List (Expr × Option Expr)) :
    setting.Stops (parameters setting frame params) := by
  induction params with
  | nil =>
      unfold parameters
      mvcgen
  | cons param rest ih =>
      rcases param with ⟨param, _ | default⟩
      all_goals
        unfold parameters
        mvcgen [ih]

@[spec]
theorem stops_filterTerm (frame : Frame) (filter : Option Expr) :
    setting.Stops (filterTerm setting frame filter) := by
  unfold filterTerm
  mvcgen

/-! ### Statements -/

@[spec]
theorem stops_checkCaller (line : Nat) (usesCaller : Bool) (params defaults : List Expr) :
    setting.Stops (checkCaller line usesCaller params defaults) := by
  have hobject : setting.Stops (object .callerWithoutDefault line : Compiling Unit) :=
    setting.stops_object rfl line
  unfold checkCaller
  mvcgen [hobject]

@[spec]
theorem stops_checkLoopNames (statement : Statement) :
    setting.Stops (checkLoopNames statement) := by
  have hobject (line : Nat) : setting.Stops (object .loopAsTarget line : Compiling Unit) :=
    setting.stops_object rfl line
  unfold checkLoopNames
  mvcgen [hobject]

/-- Compiling a macro, whose body is compiled by some computation. -/
theorem stops_compileMacro (frame : Frame) (line : Nat) (id : Option String)
    (params defaults : List Expr) (body : List Statement)
    {compileWith : Frame → Compiling (List Step)}
    (hcompileWith : ∀ frame, setting.Stops (compileWith frame)) :
    setting.Stops (compileMacro setting frame line id params defaults body compileWith) := by
  unfold compileMacro
  mvcgen [hcompileWith]

@[spec]
theorem stops_nestedExtends (line : Nat) :
    setting.Stops (object .nestedExtends line : Compiling α) :=
  setting.stops_object rfl line

/-- Evaluating whether text is escaped, as far as that can be told. -/
@[spec]
theorem stops_evaluate_waiting (computation : Folding → Run (Option α)) :
    setting.Stops (evaluate setting fun folding => (computation folding).waiting) :=
  setting.stops_evaluate fun folding _ => folding.stops_waiting (computation folding)

/-- Compiling a loop, whose bodies are compiled by computations that stop only with faults of compiling. -/
theorem stops_compile_loop (frame : Frame) (line : Nat) (targetExpr iter : Expr) (test : Option Expr)
    (recursive : Bool) (body orElse : List Statement)
    (hbody : ∀ frame, setting.Stops (compileAll setting frame body))
    (hotherwise : ∀ frame, setting.Stops (compileAll setting frame orElse)) :
    setting.Stops (compile setting frame (.loop line targetExpr iter test recursive body orElse)) := by
  unfold compile
  -- The steps ask again and again whether the loop is recursive and whether it has another body.
  generalize orElse.isEmpty = lacksOther
  cases recursive <;> cases lacksOther
  all_goals
    simp only [↓reduceIte, Bool.false_eq_true, Bool.not_true, Bool.not_false, Bool.true_or,
      Bool.false_or, Bool.or_true, Bool.or_false]
    cases test
    all_goals mvcgen [hbody, hotherwise]

mutual

/-- Compiling a statement. -/
theorem stops_compile (frame : Frame) :
    (statement : Statement) → setting.Stops (compile setting frame statement)
  | .output _ _ | .assign _ _ _ | .block _ _ _ _ _ | .extend _ _ | .importAs _ _ _ _
  | .importNames _ _ _ _ => by
      unfold compile
      mvcgen
  | .includeFrom _ _ _ _ => by
      unfold compile attempted
      mvcgen
  | .branch (.mk _ _ body) others orElse => by
      have hbody (frame : Frame) := stops_compileAll frame body
      have hothers (frame : Frame) := stops_compileClauses frame others
      have hotherwise (frame : Frame) := stops_compileAll frame orElse
      unfold compile
      mvcgen [hbody, hothers, hotherwise]
  | .loop line target iter test recursive body orElse =>
      stops_compile_loop setting frame line target iter test recursive body orElse
        (fun frame => stops_compileAll frame body) fun frame => stops_compileAll frame orElse
  | .bind _ _ values body => by
      have hvalues (inner : Frame) : setting.Stops (values.mapM fun value => do
          write inner 1
          expression setting frame 0 value) :=
        StopsWith.mapM (fun value => by mvcgen) values
      have hbody (frame : Frame) := stops_compileAll frame body
      unfold compile
      mvcgen [hvalues, hbody]
  | .assignBlock _ _ _ body | .filterBlock _ _ body | .escaping _ _ body => by
      have hbody (frame : Frame) := stops_compileAll frame body
      unfold compile
      mvcgen [hbody]
  | .defineMacro line id params defaults body => by
      have hbody (frame : Frame) := stops_compileAll frame body
      have hplan := stops_compileMacro setting frame line (some id) params defaults body hbody
      unfold compile
      mvcgen [hplan]
  | .callBlock line call params defaults body => by
      have hbody (frame : Frame) := stops_compileAll frame body
      have hplan := stops_compileMacro setting frame line none params defaults body hbody
      unfold compile
      mvcgen [hplan]

/-- Compiling the conditions after the first one. -/
theorem stops_compileClauses (frame : Frame) :
    (clauses : List Clause) → setting.Stops (compileClauses setting frame clauses)
  | [] => by
      unfold compileClauses
      mvcgen
  | .mk _ _ body :: rest => by
      have hbody (frame : Frame) := stops_compileAll frame body
      have hrest := stops_compileClauses frame rest
      unfold compileClauses
      mvcgen [hbody, hrest]

/-- Compiling statements one after another. -/
theorem stops_compileAll (frame : Frame) :
    (statements : List Statement) → setting.Stops (compileAll setting frame statements)
  | [] => by
      unfold compileAll
      mvcgen
  | statement :: rest => by
      have hstatement := stops_compile frame statement
      have hrest := stops_compileAll frame rest
      unfold compileAll
      mvcgen [hstatement, hrest]

end

/-! ### Templates -/

@[spec]
theorem stops_blockRoutine (block : BlockSite) : setting.Stops (blockRoutine setting block) := by
  have hbody (frame : Frame) := setting.stops_compileAll frame block.body
  unfold blockRoutine
  mvcgen [hbody]

theorem stops_program (body : List Statement) : setting.Stops (program setting body) := by
  have hobject (block : BlockSite) :
      setting.Stops (object (.repeatedBlock block.id) block.line : Compiling Program) :=
    setting.stops_object rfl block.line
  have hbody (frame : Frame) := setting.stops_compileAll frame body
  have hblocks := StopsWith.mapM setting.stops_blockRoutine
  have hthrow (fault : Fault) (hfault : CompileFault setting.strict fault) :
      setting.Stops (throw fault : Compiling Program) :=
    stopsWith_of_run fun before other hrun => by
      cases hrun
      exact hfault
  unfold program
  mvcgen [hobject, hbody, hblocks, hthrow, -Spec.throw_MonadExcept]
  next fault hfault => exact .form (Listing.isFormFault_of_fault? hfault)

end Setting

/-- Compiling a template refuses it in words of templates, for the form of its listing, or for a fault of
its constants. -/
theorem compileFault_of_compileTemplate {body : List Statement} {fault : Fault}
    (hcompile : compileTemplate setting body = .error fault) : CompileFault setting.strict fault := by
  unfold compileTemplate at hcompile
  cases hprogram : (program setting body).run { escapes := setting.escapes } with
  | ok compiled =>
      rw [hprogram] at hcompile
      cases hcompile
  | error other =>
      rw [hprogram] at hcompile
      cases hcompile
      exact StopsWith.of_run (setting.stops_program body) hprogram

end TemplateWorkbench.Template
