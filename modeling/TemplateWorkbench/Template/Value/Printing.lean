import TemplateWorkbench.Template.Value.Missing
import TemplateWorkbench.Number.Shortest

/-!
# Values as text

A value is printed as it is when it is a text, and by its written form otherwise.  The written form
is the one of expressions: texts in quotes, brackets around items.  Only an integer with too many
digits has none, and a strict missing value cannot be printed at the top.

What has a state of its own is written by the memory of the rendering, which is handed in.
-/

namespace TemplateWorkbench.Template

/-- How the memory of a rendering writes what lives there. -/
structure Appearance where
  written : ObjectKind → Nat → Except Fault String
  printed : ObjectKind → Nat → Except Fault String

/-- How a type is written. -/
def typeText (home type : String) : String := s!"<class '{home}{type}'>"

/-- How a thing is written of which only the type is known. -/
def plainObjectText (home type : String) : String := s!"<{home}{type} object>"

/-- How a function of every template is written. -/
def Builtin.text : Builtin → String
  | range => typeText "" "range"
  | dict => typeText "" "dict"
  | lipsum => "<function generate_lorem_ipsum>"
  | cycler => typeText "jinja2.utils." "Cycler"
  | joiner => typeText "jinja2.utils." "Joiner"
  | «namespace» => typeText "jinja2.utils." "Namespace"

/-- How things are written when nothing is known of the memory. -/
def Appearance.plain : Appearance where
  written kind address :=
    .ok (plainObjectText (Value.object kind address).typeHome (Value.object kind address).typeName)
  printed kind address :=
    .ok (plainObjectText (Value.object kind address).typeHome (Value.object kind address).typeName)

namespace Value

/-- The digits of an integer, unless there are too many. -/
def digits (value : Int) : Except Fault String :=
  match Number.integerText? value with
  | some text => .ok text
  | Option.none => .error (valueFault Number.writeLimitMessage)

/-- Texts with commas between them. -/
def commaSeparated (texts : List String) : String := ", ".intercalate texts

/-- The written form of a tuple; a single item is followed by a comma. -/
def tupleText : List String → String
  | [only] => s!"({only},)"
  | texts => s!"({commaSeparated texts})"

mutual

/-- The written form of a value. -/
def written (look : Appearance) : Value → Except Fault String
  | none => .ok "None"
  | bool value => .ok (if value then "True" else "False")
  | int value => digits value
  | double value => .ok (Number.plainDouble.write value)
  | nan _ => .ok (Number.plainDouble.write .nan)
  | complex value => .ok value.text
  | string text => .ok (Text.quote text)
  | markup text => .ok s!"Markup({Text.quote text})"
  | bytes octets => .ok (Text.quoteOctets octets)
  | list items => do pure s!"[{commaSeparated (← writtenItems look items)}]"
  | tuple items => do pure (tupleText (← writtenItems look items))
  | group key members => do
    let first ← written look key
    pure s!"({first}, [{commaSeparated (← writtenItems look members)}])"
  | dict entries => do pure s!"\x7b{commaSeparated (← writtenEntries look entries)}\x7d"
  | set frozen members => do
    let texts ← writtenItems look members
    let inside := if texts.isEmpty then "" else s!"\x7b{commaSeparated texts}\x7d"
    pure (if frozen then s!"frozenset({inside})" else if texts.isEmpty then "set()" else inside)
  | range start stop step => do
    let bounds := if step = 1 then [start, stop] else [start, stop, step]
    pure s!"range({commaSeparated (← bounds.mapM digits)})"
  | view .keys entries => do
    pure s!"dict_keys([{commaSeparated (← writtenKeys look entries)}])"
  | view .values entries => do
    pure s!"dict_values([{commaSeparated (← writtenValues look entries)}])"
  | view .items entries => do
    pure s!"dict_items([{commaSeparated (← writtenPairs look entries)}])"
  | undefined _ _ => .ok "Undefined"
  | builtin function => .ok function.text
  | method receiver id => .ok s!"<built-in method {id} of {receiver.typeName} object>"
  | object kind address => look.written kind address
  | foreign _ text => .ok text

/-- The written forms of items. -/
def writtenItems (look : Appearance) : List Value → Except Fault (List String)
  | [] => .ok []
  | item :: rest => do
    let first ← written look item
    pure (first :: (← writtenItems look rest))

/-- The written forms of entries. -/
def writtenEntries (look : Appearance) : List (Value × Value) → Except Fault (List String)
  | [] => .ok []
  | (key, value) :: rest => do
    let first := s!"{← written look key}: {← written look value}"
    pure (first :: (← writtenEntries look rest))

/-- The written forms of the keys of entries. -/
def writtenKeys (look : Appearance) : List (Value × Value) → Except Fault (List String)
  | [] => .ok []
  | (key, _) :: rest => do
    let first ← written look key
    pure (first :: (← writtenKeys look rest))

/-- The written forms of the values of entries. -/
def writtenValues (look : Appearance) : List (Value × Value) → Except Fault (List String)
  | [] => .ok []
  | (_, value) :: rest => do
    let first ← written look value
    pure (first :: (← writtenValues look rest))

/-- The written forms of entries as pairs. -/
def writtenPairs (look : Appearance) : List (Value × Value) → Except Fault (List String)
  | [] => .ok []
  | (key, value) :: rest => do
    let first := s!"({← written look key}, {← written look value})"
    pure (first :: (← writtenPairs look rest))

end

/-- The text that a value is printed as. -/
def printed (look : Appearance) : Value → Except Fault String
  | string text => .ok text
  | markup text => .ok text
  | undefined true absence => .error absence.fault
  | undefined false _ => .ok ""
  | object kind address => look.printed kind address
  | value => written look value

end Value

end TemplateWorkbench.Template
