import TemplateWorkbench.Json.Writer
import TemplateWorkbench.Template.Value.Printing

/-!
# Values as plain data

Every value has a likeness in plain data: tuples and sets become lists, sets in an order of their
own, keys become the texts they are printed as, and what has no likeness is represented by its
written form.  Plain data becomes a value and is its own likeness.
-/

namespace TemplateWorkbench.Template

namespace Value

mutual

/-- The value of plain data. -/
def ofJson : Json → Value
  | .null => none
  | .bool value => bool value
  | .int value => int value
  | .double value => double value
  | .string text => string text
  | .list items => list (ofJsonItems items)
  | .object members => dict (ofJsonMembers members)

/-- The values of items. -/
def ofJsonItems : List Json → List Value
  | [] => []
  | item :: rest => ofJson item :: ofJsonItems rest

/-- The entries of members. -/
def ofJsonMembers : List (String × Json) → List (Value × Value)
  | [] => []
  | (name, value) :: rest => (string name, ofJson value) :: ofJsonMembers rest

end

mutual

/-- The likeness of a value in plain data. -/
def toJson (look : Appearance) : Value → Except Fault Json
  | none => .ok .null
  | bool value => .ok (.bool value)
  | int value => .ok (.int value)
  | double value => .ok (.double value)
  | nan _ => .ok (.double .nan)
  | string text => .ok (.string text)
  | markup text => .ok (.string text)
  | dict entries => do pure (.object (Json.lastWins (← toJsonEntries look entries)))
  | list items => do pure (.list (← toJsonItems look items))
  | tuple items => do pure (.list (← toJsonItems look items))
  | group key members => do
    let first ← toJson look key
    pure (.list [first, .list (← toJsonItems look members)])
  | set _ members => do
    match Json.sortedByForm? (← toJsonItems look members) with
    | some sorted => pure (.list sorted)
    | Option.none => .error (valueFault Number.writeLimitMessage)
  | value => do pure (.string (← value.written look))

/-- The likenesses of items. -/
def toJsonItems (look : Appearance) : List Value → Except Fault (List Json)
  | [] => .ok []
  | item :: rest => do
    let first ← toJson look item
    pure (first :: (← toJsonItems look rest))

/-- The likenesses of entries, under the texts of their keys. -/
def toJsonEntries (look : Appearance) : List (Value × Value) → Except Fault (List (String × Json))
  | [] => .ok []
  | (key, value) :: rest => do
    let first := (← key.printed look, ← toJson look value)
    pure (first :: (← toJsonEntries look rest))

end

/-- The likeness of a value as JSON text on one line. -/
def jsonText (look : Appearance) (value : Value) : Except Fault String := do
  match Json.line (← value.toJson look) with
  | .ok text => pure text
  | .error fault => .error (valueFault fault.message)

end Value

end TemplateWorkbench.Template
