import TemplateWorkbench.Template.Value.Equality
import TemplateWorkbench.Template.Value.Printing
import TemplateWorkbench.Text.Lines
import TemplateWorkbench.Unicode.Character

/-!
# Values on several lines

The written form of a value, with the entries of dictionaries in the order of their keys.  What does
not fit on a line of eighty characters is put on several lines, one for every item or entry, and long
texts are cut at blanks.
-/

namespace TemplateWorkbench.Template.Value

/-! ### Entries in order -/

/-- Whether a key comes before another; keys without an order are ordered by their types. -/
def keyPrecedes (left right : Value × Value) : Except Fault Bool :=
  match Value.ordered .lt left.1 right.1 with
  | .ok precedes => .ok precedes
  | .error fault =>
    if fault.kind = .type then
      .ok (decide (typeText left.1.typeHome left.1.typeName <
        typeText right.1.typeHome right.1.typeName))
    else .error fault

mutual

/-- The value with the entries of all dictionaries in the order of their keys. -/
def inKeyOrder : Value → Except Fault Value
  | list items => do pure (list (← allInKeyOrder items))
  | tuple items => do pure (tuple (← allInKeyOrder items))
  | dict entries => do pure (dict (← Sorting.sort keyPrecedes (← entriesInKeyOrder entries)))
  | value => .ok value

/-- The items with their entries in order. -/
def allInKeyOrder : List Value → Except Fault (List Value)
  | [] => .ok []
  | item :: rest => do pure ((← inKeyOrder item) :: (← allInKeyOrder rest))

/-- The entries with the entries in their values in order. -/
def entriesInKeyOrder : List (Value × Value) → Except Fault (List (Value × Value))
  | [] => .ok []
  | (key, value) :: rest => do pure ((key, ← inKeyOrder value) :: (← entriesInKeyOrder rest))

end

/-! ### Lines -/

/-- The number of characters on a line. -/
def pageWidth : Nat := 80

/-- A line break with an indentation after it. -/
def lineBreak (indent : Nat) : String := String.ofList ('\n' :: List.replicate indent ' ')

/-- A text cut into words, each with the blanks after it; `fuel` bounds their number. -/
def blankedWords : (fuel : Nat) → List Char → List (List Char)
  | 0, _ => []
  | _ + 1, [] => []
  | fuel + 1, text =>
    let word := text.takeWhile fun c => !Unicode.isBlank c
    let rest := text.drop word.length
    let blank := rest.takeWhile Unicode.isBlank
    (word ++ blank) :: blankedWords fuel (rest.drop blank.length)

/-- The quoted pieces of a line of text, each within `room` characters if its words permit; the last
piece has to leave `allowance` characters. -/
def linePieces (room allowance : Nat) (isLast : Bool) (current : List Char) :
    List (List Char) → List String
  | [] => if current.isEmpty then [] else [Text.quote (String.ofList current)]
  | word :: rest =>
    let candidate := current ++ word
    let length := (Text.quote (String.ofList candidate)).length
    let ending := if rest.isEmpty && isLast then allowance else 0
    if length + ending > room then
      (if current.isEmpty then [] else [Text.quote (String.ofList current)]) ++
        linePieces room allowance isLast word rest
    else linePieces room allowance isLast candidate rest

/-- The quoted pieces of the lines of a text. -/
def textPieces (room allowance : Nat) : List (List Char) → List String
  | [] => []
  | line :: rest =>
    let isLast := rest.isEmpty
    let quoted := Text.quote (String.ofList line)
    let ending := if isLast then allowance else 0
    (if quoted.length + ending ≤ room then [quoted]
      else linePieces room allowance isLast [] (blankedWords line.length line)) ++
      textPieces room allowance rest

/-- A text that does not fit on its line, in pieces on lines of their own. -/
def longText (indent allowance : Nat) (isOutermost : Bool) (text : String) : String :=
  let more := if isOutermost then 1 else 0
  let indent := indent + more
  let allowance := allowance + more
  match textPieces (pageWidth - indent) allowance (Text.wholeLines text.toList) with
  | [] | [_] => Text.quote text
  | pieces =>
    let joined := (lineBreak indent).intercalate pieces
    if isOutermost then s!"({joined})" else joined

mutual

/-- The written form of a value that begins after `indent` characters, when `allowance` characters
have to follow it on its last line. -/
def prettyFrom (look : Appearance) (indent allowance : Nat) (isOutermost : Bool) (value : Value) :
    Except Fault String := do
  let text ← value.written look
  if text.length + indent + allowance ≤ pageWidth then pure text
  else
    match value with
    | list items => do
      pure s!"[{← prettyItems look (indent + 1) (allowance + 1) items}]"
    | tuple items => do
      let closing := if items.length = 1 then ",)" else ")"
      pure s!"({← prettyItems look (indent + 1) (allowance + closing.length) items}{closing}"
    | dict entries => do
      pure s!"\x7b{← prettyEntries look (indent + 1) (allowance + 1) entries}\x7d"
    | string content => pure (longText indent allowance isOutermost content)
    | _ => pure text

/-- The written forms of items on lines of their own. -/
def prettyItems (look : Appearance) (indent allowance : Nat) (items : List Value) :
    Except Fault String :=
  match items with
  | [] => .ok ""
  | [last] => prettyFrom look indent allowance false last
  | item :: rest => do
    let first ← prettyFrom look indent 1 false item
    pure (first ++ "," ++ lineBreak indent ++ (← prettyItems look indent allowance rest))

/-- The written forms of entries on lines of their own. -/
def prettyEntries (look : Appearance) (indent allowance : Nat)
    (entries : List (Value × Value)) : Except Fault String :=
  match entries with
  | [] => .ok ""
  | (key, value) :: rest => do
    let head ← key.written look
    let ending := if rest.isEmpty then allowance else 1
    let own ← prettyFrom look (indent + head.length + 2) ending false value
    let others ← prettyEntries look indent allowance rest
    pure (s!"{head}: {own}" ++ (if rest.isEmpty then "" else "," ++ lineBreak indent) ++ others)

end

/-- The written form of a value on as many lines as it needs. -/
def pretty (look : Appearance) (value : Value) : Except Fault String := do
  prettyFrom look 0 0 true (← value.inKeyOrder)

end TemplateWorkbench.Template.Value
