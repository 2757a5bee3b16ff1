import TemplateWorkbench.Template.Fold
import TemplateWorkbench.Template.Listing
import TemplateWorkbench.Template.Scope

/-!
# Compiling

Compiling goes through a template from front to back.  It knows what the environment has decided, what
it has met so far, and where it stands.  Every step notes the line that was met last: not all parts of
a statement are met at a line of their own.  And for everything that is compiled, rows are written to
the listing of the template.
-/

namespace TemplateWorkbench.Template

/-- What the template's environment decides about compiling it. -/
structure Setting where
  name : String
  strict : Bool
  /-- Whether text is escaped to begin with. -/
  escapes : Bool
  /-- Whether constants are printed while compiling, because printing them needs no context. -/
  printsConstants : Bool := false
deriving Inhabited

/-- What changes while a template is compiled: the line met last, the listing and the parents chosen so
far, and whether text is escaped. -/
structure Progress where
  line : Nat := 1
  listing : Listing := {}
  parents : Nat := 0
  certainParent : Bool := false
  escapes : Bool
  undecided : Bool := false
deriving Inhabited

/-- A computation that compiles. -/
abbrev Compiling := StateT Progress (Except Fault)

/-- Where a statement stands: the scopes around it, and what is done with printed text. -/
structure Frame where
  scopes : List Scope
  /-- Whether printing has to be checked for a parent template. -/
  checksOutput : Bool := false
  toplevel : Bool := false
  rootlevel : Bool := false
  /-- Whether filters and tests may be unknown as long as they are not reached. -/
  soft : Bool := false
  /-- Whether what is printed is kept for later. -/
  keeps : Bool := false
  /-- Whether it is the body of a loop or of a block: calls are told of that. -/
  inLoop : Bool := false
  inBlock : Bool := false
  /-- How far the rows are indented, and how many loops are around them in their routine. -/
  indent : Nat := 1
  nesting : Nat := 0
deriving Inhabited

namespace Frame

/-- A frame inside, with a scope of its own. -/
def inner (frame : Frame) (scope : Scope) : Frame :=
  { scopes := scope :: frame.scopes, checksOutput := frame.checksOutput, keeps := frame.keeps
    indent := frame.indent, nesting := frame.nesting }

/-- The frame of rows that are indented under a row. -/
def under (frame : Frame) : Frame := { frame with indent := frame.indent + 1 }

/-- The frame of a routine that is defined in a row. -/
def routine (frame : Frame) : Frame := { frame.under with nesting := 0 }

/-- The frame of a text that is kept for later. -/
def keeping (frame : Frame) : Frame := { frame with keeps := true }

/-- The frame of what is done only sometimes. -/
def softened (frame : Frame) : Frame := { frame with rootlevel := false, soft := true }

/-- The slot of a name. -/
def slot (frame : Frame) (name : String) : Slot := slotOf frame.scopes name

end Frame

namespace Compiling

/-- Notes a line. -/
def mark (line : Nat) : Compiling Unit := modify fun p => { p with line }

/-- The line met last. -/
def currentLine : Compiling Nat := do pure (← get).line

/-- Stops with an objection to something at a line. -/
def object {α : Type} (misreading : Misreading) (line : Nat) : Compiling α :=
  throw (misreading.fault line)

/-- Notes something wrong in the last row of the listing. -/
def find (what : Malformation) : Compiling Unit :=
  modify fun p => { p with listing := p.listing.note what }

/-- Writes a number of rows. -/
def write (frame : Frame) (count : Nat) : Compiling Unit := do
  modify fun p => { p with listing := p.listing.extend (min count 1) }
  if 0 < count && Listing.mostIndented < frame.indent then find .deepIndentation
  modify fun p => { p with listing := p.listing.extend (count - 1) }

/-- The frame of what is repeated by the loop of the last row. -/
def repeated (frame : Frame) : Compiling Frame := do
  if Listing.mostNested ≤ frame.nesting then find .deepNesting
  pure { frame.under with nesting := frame.nesting + 1 }

/-- Judges the keywords of a call. -/
def checkKeywords (ids : List String) : Compiling Unit :=
  match Listing.keywordFault? (ids.map Unicode.normalName) with
  | some what => find what
  | none => pure ()

/-- How text is escaped here. -/
def escaping : Compiling Escaping := do
  let progress ← get
  pure (if progress.undecided then .asContext else if progress.escapes then .always else .never)

/-- How deeply streams may be nested in constants. -/
def foldingDepth : Nat := 250

/-- A computation with constants. -/
def evaluate {α : Type} (setting : Setting) (f : Folding → Run α) : Compiling α := do
  let progress ← get
  let services := Services.within setting.strict (fun _ _ _ _ => pure false) foldingDepth
  let folding : Folding :=
    { services, escapes := progress.escapes, undecided := progress.undecided }
  let memory : Memory := { escaping := #[.bool progress.escapes] }
  match ((f folding).run.run memory).1 with
  | .ok value => pure value
  | .error fault => throw fault

end Compiling

end TemplateWorkbench.Template
