import TemplateWorkbench.Template.Compile.Expression

/-!
# Compiling statements

The statements of a template become the steps of routines.  Outside of blocks, a template that certainly
has a parent prints nothing; one that may have a parent prints only as long as none has been chosen.
-/

namespace TemplateWorkbench.Template

open Compiling

/-- The steps of a body, and whether nothing after it can be reached. -/
structure Compiled where
  steps : List Step
  ended : Bool := false

section Statements

variable (setting : Setting)

/-- The scope of a macro's body: its parameters, and what is open in its body. -/
def macroScope (outer : List Scope) (params defaults : List Expr) (body : List Statement)
    (extras : List String) : Scope :=
  let scope :=
    (Scope.inside outer).meetAll outer (allMentions params ++ allMentions defaults)
  let scope := Scope.visitAll outer scope body
  extras.foldl Scope.declare scope

/-- The special names that a macro's body leaves open. -/
def macroExtras (params : List Expr) (body : List Statement) : List String × Bool :=
  let given := params.flatMap Expr.boundNames
  let needed := openNames ["caller", "kwargs", "varargs"] body
  (["caller", "kwargs", "varargs"].filter fun id => needed.contains id && !given.contains id,
    needed.contains "caller")

/-- Stops if a macro that uses its caller has a parameter of that name without a default. -/
def checkCaller (line : Nat) (usesCaller : Bool) (params defaults : List Expr) :
    Compiling Unit :=
  let bare := (parameterDefaults params defaults).any fun (param, default) =>
    param.boundNames.contains "caller" && default.isNone
  if usesCaller && bare then object .callerWithoutDefault line else pure ()

/-- The frame of a body, after its first row, in which nothing is done. -/
def opened (frame : Frame) : Compiling Frame := do
  write frame 1
  pure frame

/-- Judges the parameters of a routine that is written in the last row. -/
def checkParameters (slots : List Slot) : Compiling Unit :=
  match slots.find? fun slot => 1 < slots.count slot with
  | some slot => find (.repeatedParameter slot)
  | none => pure ()

/-- The rows that tell of an assignment to names. -/
def publicationRows (frame : Frame) (names : List String) : Nat :=
  if names.isEmpty then 0
  else if frame.inLoop || frame.inBlock then 1
  else if frame.toplevel then if names.all (·.startsWith "_") then 1 else 2
  else 0

/-- The names that a target assigns to. -/
def assignedNames (target : Expr) : List String :=
  (target.mentions.filter (·.use = .store)).map (·.id)

/-- The frame of what is attempted in the last row; an attempt counts as a loop. -/
def attempted (frame : Frame) : Compiling Frame := repeated frame

/-- Writes the rows that pass on the text of something that runs outside. -/
def writeOutsideText (frame : Frame) : Compiling Unit := do
  write frame 2
  let inner ← attempted frame
  write inner 1
  let inner ← repeated inner
  write inner 1
  write frame 1

/-- Judges what is done if an attempt fails, which counts as two loops, `rows` being the number of rows
up to what is done if it does not. -/
def checkHandler (frame : Frame) (rows : Nat) : Compiling Unit :=
  if Listing.mostNested ≤ frame.nesting + 1 then
    modify fun p =>
      { p with listing := { p.listing with found := (.deepNesting, rows - 2) :: p.listing.found } }
  else pure ()

/-- Stops if a loop assigns to the special name of loops. -/
def checkLoopNames (statement : Statement) : Compiling Unit :=
  match statement.mentions.find? fun m => m.use = .store && m.id == "loop" with
  | some mention => object .loopAsTarget mention.line
  | none => pure ()

/-- What a macro or the body of a call is compiled to; `compileWith` compiles its body. -/
def compileMacro (frame : Frame) (line : Nat) (id : Option String) (params defaults : List Expr)
    (body : List Statement) (compileWith : Frame → Compiling (List Step)) :
    Compiling MacroPlan := do
  let (extras, usesCaller) := macroExtras params body
  let scope := macroScope frame.scopes params defaults body extras
  checkCaller line usesCaller params defaults
  let inner := { (frame.inner scope).routine.keeping with checksOutput := false }
  mark line
  write frame 1
  checkParameters ((params.flatMap Expr.boundNames ++ extras).map inner.slot)
  write inner (scope.plan.rows + 1)
  let parameters ← parameters setting inner (parameterDefaults params defaults)
  let steps ← compileWith (← opened inner)
  write inner 1
  let lastLine ← currentLine
  let slot (name : String) : Option Slot :=
    if extras.contains name then some (inner.slot name) else none
  pure (.mk line lastLine id parameters usesCaller (slot "caller") (slot "kwargs") (slot "varargs")
    scope.plan steps)

mutual

/-- The steps of a statement. -/
def compile (frame : Frame) (statement : Statement) : Compiling Compiled :=
  match statement with
  | .output _ parts => do
    if frame.checksOutput && (← get).certainParent then pure ⟨[], false⟩
    else
      if frame.checksOutput then do
        write frame 1
        let print := Step.print (← printed setting frame.under parts)
        pure ⟨[.unlessExtended [print]], false⟩
      else do pure ⟨[.print (← printed setting frame parts)], false⟩
  | .branch (.mk line test body) others orElse => do
    let frame := frame.softened
    mark line
    write frame 1
    let test ← expression setting frame 0 test
    let whenTrue ← compileAll (← opened frame.under) body
    let clauses ← compileClauses frame others
    let whenNone ←
      if orElse.isEmpty then pure []
      else do
        write frame 1
        compileAll (← opened frame.under) orElse
    let whenFalse := clauses.foldr (fun (line, test, steps) whenFalse =>
      [Step.branch line test steps whenFalse]) whenNone
    pure ⟨[.branch line test whenTrue whenFalse], false⟩
  | .loop line targetExpr iter test recursive body orElse => do
    let usesLoop := recursive || !(openNames ["loop"] body).isEmpty ||
      (bodyBlocks body ++ bodyBlocks orElse).any (·.seesScope)
    let fresh := Scope.inside frame.scopes
    let own := if usesLoop then fresh.declare "loop" else fresh
    let scope := Scope.visitAll frame.scopes (own.declareTarget targetExpr) body
    let loopTest ←
      match test with
      | none => pure none
      | some test => do
        let scope := (fresh.declareTarget targetExpr).meetAll frame.scopes test.mentions
        let inner := (frame.inner scope).routine
        write frame 1
        write inner scope.plan.rows
        write inner 1
        let inner ← repeated inner
        mark test.line
        write inner 1
        let testTerm ← expression setting inner 0 test
        write inner.under 1
        pure (some ⟨test.line, scope.plan, testTerm⟩)
    mark line
    let outer := if recursive then frame.routine.keeping else frame
    if recursive then do
      write frame 1
      write outer 1
    if usesLoop then write outer 1
    checkLoopNames (.loop line targetExpr iter test recursive body orElse)
    if !orElse.isEmpty then write outer 1
    write outer 1
    let before ←
      if recursive then pure (Term.const .none)
      else expression setting frame (if usesLoop then 1 else 0) iter
    let bodyFrame ← repeated { outer.inner scope with inLoop := true }
    write bodyFrame (scope.plan.rows + 1)
    let steps ← compileAll (← opened bodyFrame) body
    if !orElse.isEmpty then write bodyFrame 1
    if !recursive || !orElse.isEmpty then write outer scope.plan.leavingRows
    let otherwise ←
      if orElse.isEmpty then pure none
      else do
        let scope := Scope.visitAll frame.scopes fresh orElse
        let inner := (outer.inner scope).under
        write outer 1
        write inner scope.plan.rows
        let steps ← compileAll (← opened inner) orElse
        write inner scope.plan.leavingRows
        pure (some (scope.plan, steps))
    let escapes ← escaping
    let lastLine ← currentLine
    let iter ←
      if recursive then do
        write outer (if escapes = .asContext then 4 else 1)
        mark line
        write frame 1
        expression setting frame 1 iter
      else pure before
    let ownSlot := if usesLoop then some (bodyFrame.slot "loop") else none
    pure ⟨[.loop line lastLine (target bodyFrame targetExpr) iter loopTest ownSlot recursive escapes
      scope.plan steps otherwise], false⟩
  | .bind _ targets values body => do
    let scope := Scope.visitAll frame.scopes
      ((Scope.inside frame.scopes).meetAll frame.scopes (allMentions targets)) body
    let inner := frame.inner scope
    let line ← currentLine
    write inner scope.plan.rows
    let values ← values.mapM fun value => do
      write inner 1
      expression setting frame 0 value
    let steps ← compileAll (← opened inner) body
    write inner scope.plan.leavingRows
    pure ⟨[.bind line scope.plan ((targets.map (target inner)).zip values) steps], false⟩
  | .assign line targetExpr value => do
    let checkLine ← currentLine
    let owners :=
      ((targetExpr.mentions.filter (·.isNamespace)).map (·.id)).eraseDups
    write frame (2 * owners.length)
    mark line
    write frame 1
    let value ← expression setting frame 0 value
    write frame (publicationRows frame (assignedNames targetExpr))
    pure ⟨[.assign checkLine (owners.map frame.slot) line (target frame targetExpr) value
      (publication frame targetExpr)], false⟩
  | .assignBlock line targetExpr filter body => do
    let scope := Scope.visitAll frame.scopes (Scope.inside frame.scopes) body
    let inner := { (frame.inner scope).keeping with checksOutput := false }
    write inner (scope.plan.rows + 1)
    let steps ← compileAll (← opened inner) body
    mark line
    write frame 1
    let value ← filterTerm setting inner filter
    write frame (publicationRows frame (assignedNames targetExpr))
    write inner scope.plan.leavingRows
    pure ⟨[.capture scope.plan steps line (target frame targetExpr) value
      (publication frame targetExpr)], false⟩
  | .defineMacro line id params defaults body => do
    let plan ← compileMacro setting frame line (some id) params defaults body fun inner => compileAll inner body
    let published : Publication :=
      if frame.toplevel then
        ⟨[(id, frame.slot id)], if id.startsWith "_" then [] else [id]⟩
      else ⟨[], []⟩
    write frame (if published.exports.isEmpty then 1 else 2)
    pure ⟨[.defineMacro (frame.slot id) plan published], false⟩
  | .callBlock line call params defaults body => do
    let plan ← compileMacro setting frame line none params defaults body fun inner => compileAll inner body
    write frame 1
    mark line
    write frame 1
    match call with
    | .call _ _ arguments => checkArguments frame ["caller"] arguments
    | _ => pure ()
    let call ← expression setting frame (if frame.keeps then 1 else 0) call
    let call :=
      match call with
      | .call function arguments _ => .call function arguments true
      | other => other
    pure ⟨[.callBlock line plan call], false⟩
  | .filterBlock line filter body => do
    let scope := Scope.visitAll frame.scopes (Scope.inside frame.scopes) body
    let scope := scope.meetAll frame.scopes filter.mentions
    let inner := frame.inner scope
    write inner (scope.plan.rows + 1)
    let steps ← compileAll (← opened inner.keeping) body
    mark line
    write frame 1
    let value ← expression setting inner (if frame.keeps then 1 else 0) filter
    write inner scope.plan.leavingRows
    pure ⟨[.filterBlock line scope.plan steps value], false⟩
  | .escaping _ option body => do
    let scope := Scope.visitAll frame.scopes
      ((Scope.inside frame.scopes).meetAll frame.scopes option.mentions) body
    let inner := frame.inner scope
    let line ← currentLine
    write inner (scope.plan.rows + 3)
    let optionTerm ← expression setting inner 0 option
    let before ← get
    let decided ← evaluate setting fun folding => Run.waiting do
      match ← folding.constantOf option with
      | none => pure none
      | some value => do
        let truth ← folding.services.truth value
        pure (some truth)
    modify fun p =>
      match decided with
      | some escapes => { p with escapes }
      | none => { p with undecided := true }
    let steps ← compileAll inner body
    modify fun p => { p with escapes := before.escapes, undecided := before.undecided }
    write inner (scope.plan.leavingRows + 1)
    pure ⟨[.escaping line scope.plan optionTerm steps], false⟩
  | .block line id _ seesScope required => do
    let progress ← get
    if frame.toplevel && progress.certainParent then pure ⟨[], false⟩
    else
      mark line
      let guarded := frame.toplevel && progress.parents > 0
      let outer := if guarded then frame.under else frame
      write frame (if guarded then 1 else 0)
      write outer (if required then 2 else 0)
      if frame.keeps then writeOutsideText outer else write outer 1
      let locals := if seesScope then some (localNames frame.scopes) else none
      let step := Step.block line id locals required
      pure ⟨[if guarded then .unlessExtended [step] else step], false⟩
  | .extend line parent => do
    if !frame.toplevel then object .nestedExtends line
    else
      let progress ← get
      if progress.certainParent then do
        write frame 1
        pure ⟨[.extendedTwice (← currentLine)], true⟩
      else
        let repeatLine := if progress.parents > 0 then some progress.line else none
        write frame (if repeatLine.isSome then 2 else 0)
        mark line
        write frame 1
        let source ← expression setting frame 1 parent
        write frame 1
        let _ ← repeated frame
        write frame.under 1
        modify fun p =>
          { p with parents := p.parents + 1, certainParent := p.certainParent || frame.rootlevel }
        pure ⟨[.extend line repeatLine source], false⟩
  | .includeFrom line source withContext ignoreMissing => do
    let inner ← if ignoreMissing then do
        write frame 1
        attempted frame
      else pure frame
    mark line
    write inner 1
    let sourceTerm ← expression setting inner 1 source
    let inner := if ignoreMissing then frame.under else frame
    if ignoreMissing then write frame 3
    let tried := (← get).listing.rows
    if withContext then writeOutsideText inner else write inner 1
    if ignoreMissing then checkHandler frame tried
    let locals := if withContext then some (localNames frame.scopes) else none
    pure ⟨[.includeFrom line sourceTerm (selectionOf source) locals ignoreMissing], false⟩
  | .importAs line source name withContext => do
    mark line
    write frame 1
    let source ← expression setting frame 1 source
    write frame (if frame.toplevel && !name.startsWith "_" then 1 else 0)
    let locals := if withContext then some (localNames frame.scopes) else none
    pure ⟨[.importAs line source locals name (frame.slot name) frame.toplevel], false⟩
  | .importNames line source names withContext => do
    mark line
    write frame 1
    let source ← expression setting frame 1 source
    write frame (3 * names.length)
    let heard := names.map fun (id, other) => other.getD id
    write frame (if frame.toplevel then publicationRows frame heard else 0)
    let locals := if withContext then some (localNames frame.scopes) else none
    let names := names.map fun (id, other) =>
      let asName := other.getD id
      ⟨id, asName, frame.slot asName⟩
    pure ⟨[.importNames line source locals names frame.toplevel], false⟩

/-- The conditions after the first one, each with its line and its steps. -/
def compileClauses (frame : Frame) (clauses : List Clause) :
    Compiling (List (Nat × Term × List Step)) :=
  match clauses with
  | [] => pure []
  | .mk line test body :: rest => do
    mark line
    write frame 1
    let test ← expression setting frame 0 test
    let steps ← compileAll (← opened frame.under) body
    pure ((line, test, steps) :: (← compileClauses frame rest))

/-- The steps of statements, up to one that nothing after it can be reached. -/
def compileAll (frame : Frame) (statements : List Statement) : Compiling (List Step) :=
  match statements with
  | [] => pure []
  | statement :: rest => do
    let compiled ← compile frame statement
    if compiled.ended then pure compiled.steps
    else do
      let others ← compileAll frame rest
      pure (compiled.steps ++ others)

end

end Statements

end TemplateWorkbench.Template
