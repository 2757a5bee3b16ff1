import TemplateWorkbench.Template.Compile.Statement
import TemplateWorkbench.Template.Syntax

/-!
# Templates

A template is compiled to its routines, and to what they ask for by name.
-/

namespace TemplateWorkbench.Template

/-!
## Dependencies

The filters and the tests that a part of a template asks for by name.  A block asks for its own, so what
is inside of blocks does not count for what is around them.
-/

/-- Something that is asked for by name. -/
inductive Dependency where
  | filter (id : String)
  | test (id : String)
deriving DecidableEq, Repr, Inhabited

mutual

/-- What an expression asks for. -/
def Expr.dependencies : Expr → List Dependency
  | .const _ _ | .data _ _ | .name _ _ _ | .namespaceRef _ _ _ => []
  | .tuple _ items _ | .list _ items | .concat _ items => allDependencies items
  | .dict _ entries => entryDependencies entries
  | .conditional _ test whenTrue whenFalse =>
    test.dependencies ++ whenTrue.dependencies ++ anyDependencies whenFalse
  | .binary _ _ left right => left.dependencies ++ right.dependencies
  | .unary _ _ operand => operand.dependencies
  | .compare _ first others => first.dependencies ++ comparedDependencies others
  | .getattr _ object _ => object.dependencies
  | .getitem _ object index => object.dependencies ++ index.dependencies
  | .slice _ start stop step =>
    anyDependencies start ++ anyDependencies stop ++ anyDependencies step
  | .call _ function arguments => function.dependencies ++ arguments.dependencies
  | .filter _ subject id arguments =>
    .filter id :: (anyDependencies subject ++ arguments.dependencies)
  | .test _ subject id arguments => .test id :: (subject.dependencies ++ arguments.dependencies)

/-- What arguments ask for. -/
def Arguments.dependencies : Arguments → List Dependency
  | .mk positional keywords more moreKeywords =>
    allDependencies positional ++ keywordDependencies keywords ++ anyDependencies more ++
      anyDependencies moreKeywords

/-- What expressions ask for. -/
def allDependencies : List Expr → List Dependency
  | [] => []
  | expr :: rest => expr.dependencies ++ allDependencies rest

/-- What an expression that may be left out asks for. -/
def anyDependencies : Option Expr → List Dependency
  | none => []
  | some expr => expr.dependencies

/-- What the entries of a dictionary ask for. -/
def entryDependencies : List (Expr × Expr) → List Dependency
  | [] => []
  | (key, value) :: rest => key.dependencies ++ value.dependencies ++ entryDependencies rest

/-- What the values of keywords ask for. -/
def keywordDependencies : List (String × Expr) → List Dependency
  | [] => []
  | (_, value) :: rest => value.dependencies ++ keywordDependencies rest

/-- What the operands of comparisons ask for. -/
def comparedDependencies : List (CompareOp × Expr) → List Dependency
  | [] => []
  | (_, operand) :: rest => operand.dependencies ++ comparedDependencies rest

end

mutual

/-- What a statement asks for. -/
def Statement.dependencies : Statement → List Dependency
  | .output _ parts => allDependencies parts
  | .loop _ target iter test _ body orElse =>
    target.dependencies ++ iter.dependencies ++ anyDependencies test ++ bodyDependencies body ++
      bodyDependencies orElse
  | .branch clause others orElse =>
    clause.dependencies ++ clauseDependencies others ++ bodyDependencies orElse
  | .bind _ _ values body => allDependencies values ++ bodyDependencies body
  | .assign _ _ value => value.dependencies
  | .assignBlock _ _ filter body => anyDependencies filter ++ bodyDependencies body
  | .defineMacro _ _ _ defaults body => allDependencies defaults ++ bodyDependencies body
  | .callBlock _ call _ defaults body =>
    call.dependencies ++ allDependencies defaults ++ bodyDependencies body
  | .filterBlock _ filter body => filter.dependencies ++ bodyDependencies body
  | .escaping _ option body => option.dependencies ++ bodyDependencies body
  | .block _ _ _ _ _ => []
  | .extend _ source | .includeFrom _ source _ _ | .importAs _ source _ _
  | .importNames _ source _ _ => source.dependencies

/-- What a condition and what is done under it ask for. -/
def Clause.dependencies : Clause → List Dependency
  | .mk _ test body => test.dependencies ++ bodyDependencies body

/-- What statements ask for. -/
def bodyDependencies : List Statement → List Dependency
  | [] => []
  | statement :: rest => statement.dependencies ++ bodyDependencies rest

/-- What conditions and what is done under them ask for. -/
def clauseDependencies : List Clause → List Dependency
  | [] => []
  | clause :: rest => clause.dependencies ++ clauseDependencies rest

end

/-!
## Compiling templates

A template has a root routine for its statements, and a routine for every block that is defined in it.
When everything has been compiled, the listing is judged.
-/

open Compiling

section Templates

variable (setting : Setting)

/-- Writes the rows that begin a routine: its head, after some empty ones, and what every routine
starts with. -/
def writeHead (emptyRows : Nat) : Compiling Unit :=
  modify fun p => { p with listing := p.listing.extend (emptyRows + 6) }

/-- Writes the rows that look up what statements ask for by name. -/
def writeDependencies (frame : Frame) (body : List Statement) : Compiling Unit :=
  write frame (6 * (bodyDependencies body).eraseDups.length)

/-- The routine of a block. -/
def blockRoutine (block : BlockSite) : Compiling (String × Routine) := do
  mark block.line
  writeHead 1
  let special := openNames ["self", "super"] block.body
  let scope := special.foldl Scope.declare (Scope.inside [])
  let scope := Scope.visitAll [] scope block.body
  let frame : Frame := { scopes := [scope], inBlock := true }
  let slot (name : String) : Option Slot :=
    if special.contains name then some (frame.slot name) else none
  write frame (special.length + 1 + scope.plan.rows)
  writeDependencies frame block.body
  let steps ← compileAll setting (← opened frame) block.body
  pure (block.id, ⟨slot "self", slot "super", scope.plan, steps⟩)

/-- The first block whose name another one has before it. -/
def repeatedBlock? (seen : List String) : List BlockSite → Option BlockSite
  | [] => none
  | block :: rest =>
    if seen.contains block.id then some block else repeatedBlock? (block.id :: seen) rest

/-- Blocks whose names have one normal form share the routine of the last of them. -/
def settleBlocks (routines : List (String × Routine)) : List (String × Routine) :=
  routines.map fun (id, routine) =>
    let same := routines.filter fun other => Unicode.normalName other.1 == Unicode.normalName id
    (id, (same.getLast?.map (·.2)).getD routine)

/-- The program of a template. -/
def program (body : List Statement) : Compiling Program := do
  let blocks := bodyBlocks body
  match repeatedBlock? [] blocks with
  | some block => object (.repeatedBlock block.id) block.line
  | none => do
    let hasExtends := bodyExtends body
    let special := openNames ["self"] body
    let scope := special.foldl Scope.declare (Scope.inside [])
    let scope := Scope.visitAll [] scope body
    let frame : Frame :=
      { scopes := [scope], checksOutput := hasExtends, toplevel := true, rootlevel := true }
    modify fun p => { p with listing := p.listing.extend 2 }
    writeHead 1
    write frame (special.length + (if hasExtends then 1 else 0) + scope.plan.rows)
    writeDependencies frame body
    let steps ← compileAll setting (← opened frame) body
    let progress ← get
    write frame (if !hasExtends then 0 else if progress.certainParent then 1 else 2)
    let selfSlot := if special.isEmpty then none else some (frame.slot "self")
    let continuation :=
      if !hasExtends then Continuation.none
      else if progress.certainParent then .always else .ifChosen
    let routines ← blocks.mapM (blockRoutine setting)
    match (← get).listing.fault? with
    | some fault => throw fault
    | none =>
      pure ⟨setting.name, ⟨selfSlot, none, scope.plan, steps⟩, continuation, settleBlocks routines⟩

end Templates

/-- Compiles the statements of a template. -/
def compileTemplate (setting : Setting) (body : List Statement) : Except Fault Program := do
  let (program, _) ← (program setting body).run { escapes := setting.escapes }
  pure program

end TemplateWorkbench.Template
