import TemplateWorkbench.Json.Writer
import TemplateWorkbench.Template.Value.Equality

/-!
# Values as JSON text

Values that JSON knows are written as it knows them: tuples as lists, and keys that are numbers,
truth values or nothing as texts.  Unlike the likeness in plain data, writing refuses everything
else, and it keeps two entries whose keys have the same text.
-/

namespace TemplateWorkbench.Template.Value

/-- The fault of a value that JSON does not know. -/
def unencodable (value : Value) : Fault :=
  typeFault s!"Object of type {value.typeName} is not JSON serializable"

/-- The text of a key. -/
def encodeKey : Value → Except Fault String
  | string text => .ok text
  | markup text => .ok text
  | none => .ok "null"
  | bool value => .ok (if value then "true" else "false")
  | double value => .ok (Number.jsonDouble.write value)
  | nan _ => .ok (Number.jsonDouble.write .nan)
  | int value =>
    match Number.integerText? value with
    | some text => .ok text
    | Option.none => .error (valueFault Number.writeLimitMessage)
  | value =>
    .error (typeFault s!"keys must be str, int, float, bool or None, not {value.typeName}")

/-- An entry with its key, and what is written of it. -/
abbrev EncodedEntry := Value × Except Fault (String × Json)

/-- Entries in the order of their keys, if they are to be sorted. -/
def orderEntries (sorted : Bool) (entries : List EncodedEntry) :
    Except Fault (List EncodedEntry) :=
  if sorted then Sorting.sort (fun a b => Value.ordered .lt a.1 b.1) entries else .ok entries

mutual

/-- What is written of a value; the entries of dictionaries may be sorted by their keys. -/
def encode (sorted : Bool) : Value → Except Fault Json
  | none => .ok .null
  | bool value => .ok (.bool value)
  | int value =>
    if Number.isTooLong value then .error (valueFault Number.writeLimitMessage)
    else .ok (.int value)
  | double value => .ok (.double value)
  | nan _ => .ok (.double .nan)
  | string text => .ok (.string text)
  | markup text => .ok (.string text)
  | list items => do pure (.list (← encodeItems sorted items))
  | tuple items => do pure (.list (← encodeItems sorted items))
  | group key members => do
    let first ← encode sorted key
    pure (.list [first, .list (← encodeItems sorted members)])
  | dict entries => do
    pure (.object (← (← orderEntries sorted (encodeEntries sorted entries)).mapM (·.2)))
  | value => .error (unencodable value)

/-- What is written of items. -/
def encodeItems (sorted : Bool) : List Value → Except Fault (List Json)
  | [] => .ok []
  | item :: rest => do
    let first ← encode sorted item
    pure (first :: (← encodeItems sorted rest))

/-- What is written of entries, each on its own. -/
def encodeEntries (sorted : Bool) : List (Value × Value) → List EncodedEntry
  | [] => []
  | (key, value) :: rest =>
    let written := do
      let text ← encodeKey key
      pure (text, ← encode sorted value)
    (key, written) :: encodeEntries sorted rest

end

/-- The JSON text of a value in a style. -/
def encodeText (style : Json.Style) (sorted : Bool) (value : Value) : Except Fault String := do
  match Json.write style (← encode sorted value) with
  | .ok text => pure text
  | .error fault => .error (valueFault fault.message)

end TemplateWorkbench.Template.Value
