import TemplateWorkbench.Template.Fault
import TemplateWorkbench.Template.Program

/-!
# Listings

A compiled template can be written down as a listing.  Every small step has a row, indented under the
routine, the condition or the loop that it belongs to, and an expression stands in the row of its step,
with brackets around its parts.  The form of a listing has limits, and some things that a template may
say cannot be said in it; a template that goes beyond is refused with the row where that happens.

A listing is judged three times: when it is read, when its names are collected and when its steps are
ordered.  What is found earlier goes before what stands earlier.
-/

namespace TemplateWorkbench.Template

/-- What can be wrong with the form of a listing. -/
inductive Malformation where
  | deepIndentation
  | deepBrackets
  /-- A slice that is not the whole of an index. -/
  | looseSlice
  | repeatedParameter (slot : Slot)
  | reservedKeyword (id : String)
  | repeatedKeyword (id : String)
  | deepNesting
deriving DecidableEq, Repr

namespace Malformation

/-- In which of the three judgements it is found. -/
def stage : Malformation → Nat
  | deepIndentation | deepBrackets | looseSlice => 0
  | repeatedParameter _ => 1
  | reservedKeyword _ | repeatedKeyword _ | deepNesting => 2

/-- What is said of it. -/
def message : Malformation → String
  | deepIndentation => "too many levels of indentation"
  | deepBrackets => "too many nested parentheses"
  | looseSlice => "invalid syntax"
  | repeatedParameter slot =>
    s!"duplicate argument 'l_{slot.level}_{slot.name}' in function definition"
  | reservedKeyword id => s!"cannot assign to {id}"
  | repeatedKeyword id => s!"keyword argument repeated: {id}"
  | deepNesting => "too many statically nested blocks"

/-- The kind of fault that it is. -/
def kind : Malformation → FaultKind
  | deepIndentation => .badIndentation
  | _ => .badSyntax

/-- The fault of finding it in a row. -/
def fault (malformation : Malformation) (row : Nat) : Fault :=
  ⟨malformation.kind, s!"{malformation.message} (<template>, line {row})", some row, none⟩

end Malformation

/-- A listing as far as it has been written: its rows, and what is wrong with it, each with its row, the
last one first. -/
structure Listing where
  rows : Nat := 0
  found : List (Malformation × Nat) := []
deriving Inhabited

namespace Listing

/-- The listing with more rows. -/
def extend (listing : Listing) (count : Nat) : Listing :=
  { listing with rows := listing.rows + count }

/-- The listing with something wrong in its last row. -/
def note (listing : Listing) (malformation : Malformation) : Listing :=
  { listing with found := (malformation, listing.rows) :: listing.found }

/-- The fault of a listing: of what is found in the earliest judgement the first. -/
def fault? (listing : Listing) : Option Fault :=
  let found := listing.found.reverse
  ([0, 1, 2].findSome? fun stage => found.find? (·.1.stage = stage)).map fun (what, row) =>
    what.fault row

/-- How many levels of indentation there are at most. -/
def mostIndented : Nat := 99

/-- How many loops may stand in each other. -/
def mostNested : Nat := 20

/-- How many brackets may stand in each other. -/
def mostBrackets : Nat := 200

/-- The words that no keyword of a call can be written as. -/
def keywords : List String := [
  "False", "None", "True", "and", "as", "assert", "async", "await", "break", "class", "continue",
  "def", "del", "elif", "else", "except", "finally", "for", "from", "global", "if", "import", "in",
  "is", "lambda", "nonlocal", "not", "or", "pass", "raise", "return", "try", "while", "with", "yield"]

/-- The first of some names that comes again later. -/
def firstRepeated? : List String → Option String
  | [] => none
  | id :: rest => if rest.contains id then some id else firstRepeated? rest

/-- What is wrong with the keywords of a call. -/
def keywordFault? (ids : List String) : Option Malformation :=
  match firstRepeated? ids, ids.contains "__debug__" with
  | _, true => some (.reservedKeyword "__debug__")
  | some id, false => some (.repeatedKeyword id)
  | none, false => none

end Listing

/-! ### Scopes -/

namespace ScopePlan

/-- The rows that set up the slots of a scope: all that start with nothing share one. -/
def rows (plan : ScopePlan) : Nat :=
  let filled := plan.filter fun (_, origin) =>
    match origin with
    | .context _ | .copy _ => true
    | .nothing | .given => false
  filled.length + if plan.any fun (_, origin) => origin matches .nothing then 1 else 0

/-- The rows that empty the slots of a scope. -/
def leavingRows (plan : ScopePlan) : Nat := if plan.isEmpty then 0 else 1

end ScopePlan

/-! ### Brackets -/

mutual

/-- How deeply brackets are nested in a written value. -/
def Value.brackets : Value → Nat
  | .list items | .tuple items | .set _ items => itemBrackets items + 1
  | .dict entries => entryBrackets entries + 1
  | .markup _ | .range _ _ _ | .complex _ => 1
  | _ => 0

/-- How deeply brackets are nested in written items. -/
def itemBrackets : List Value → Nat
  | [] => 0
  | item :: rest => max item.brackets (itemBrackets rest)

/-- How deeply brackets are nested in written entries. -/
def entryBrackets : List (Value × Value) → Nat
  | [] => 0
  | (key, value) :: rest => max (max key.brackets value.brackets) (entryBrackets rest)

end

mutual

/-- How deeply brackets are nested in a written term. -/
def Term.brackets : Term → Nat
  | .const value => value.brackets
  | .unbound _ => 0
  | .data _ => 1
  | .slot _ _ => 2
  | .tuple items | .list items => allBrackets items + 1
  | .dict entries => pairBrackets entries + 1
  | .conditional test whenTrue whenFalse _ =>
    max (max test.brackets whenTrue.brackets) (caseBrackets whenFalse) + 1
  | .binary _ left right => max left.brackets right.brackets + 1
  | .unary _ operand => operand.brackets + 1
  | .compare first others => max first.brackets (comparedBrackets others) + 1
  | .concat _ parts => allBrackets parts + 2
  | .attribute object _ => object.brackets + 1
  | .element object index => max object.brackets index.brackets + 1
  | .slice object start stop step =>
    max object.brackets
      (max (anyBrackets start) (max (anyBrackets stop) (anyBrackets step)) + 1)
  | .call function arguments _ => max function.brackets arguments.brackets + 1
  | .captured _ => 1
  | .filter subject _ arguments | .test subject _ arguments =>
    max subject.brackets arguments.brackets + 1

/-- How deeply brackets are nested in written arguments. -/
def TermArguments.brackets : TermArguments → Nat
  | .mk positional keywords more moreKeywords =>
    max (max (allBrackets positional) (keywordBrackets keywords))
      (max (anyBrackets more) (anyBrackets moreKeywords))

/-- How deeply brackets are nested in written terms. -/
def allBrackets : List Term → Nat
  | [] => 0
  | term :: rest => max term.brackets (allBrackets rest)

/-- How deeply brackets are nested in the written values of keywords. -/
def keywordBrackets : List (String × Term) → Nat
  | [] => 0
  | (_, term) :: rest => max term.brackets (keywordBrackets rest)

/-- How deeply brackets are nested in written entries. -/
def pairBrackets : List (Term × Term) → Nat
  | [] => 0
  | (key, value) :: rest => max (max key.brackets value.brackets) (pairBrackets rest)

/-- How deeply brackets are nested in written operands. -/
def comparedBrackets : List (CompareOp × Term) → Nat
  | [] => 0
  | (_, term) :: rest => max term.brackets (comparedBrackets rest)

/-- How deeply brackets are nested in a written term, if there is one. -/
def anyBrackets : Option Term → Nat
  | none => 0
  | some term => term.brackets

/-- How deeply brackets are nested in the other case of a condition, which is always written. -/
def caseBrackets : Option Term → Nat
  | none => 1
  | some term => term.brackets

end

end TemplateWorkbench.Template
