import TemplateWorkbench.Json.Basic
import TemplateWorkbench.Number.Integer
import TemplateWorkbench.Number.Shortest
import TemplateWorkbench.Text.Quoted

/-!
# Writing JSON

A value is written on one line, or with every item and member on a line of its own.  Characters
beyond ASCII are written raw or as code units.  The only value that cannot be written is one with
an integer of too many digits.
-/

namespace TemplateWorkbench.Json

/-- How a value is laid out. -/
structure Style where
  /-- Whether only printable ASCII stands for itself, all else being written by code units. -/
  ascii : Bool
  /-- What each level is indented by, or none for a single line. -/
  indent : Option String
  /-- Whether members come in the order of their names. -/
  sorted : Bool

/-- One line, characters raw. -/
def Style.line : Style := ⟨false, none, false⟩

/-- One line in ASCII. -/
def Style.asciiLine : Style := ⟨true, none, false⟩

/-- Two spaces per level, in ASCII. -/
def Style.asciiIndented : Style := ⟨true, some "  ", false⟩

/-- Two spaces per level, in ASCII, members sorted: the form of a settings file. -/
def Style.settingsFile : Style := ⟨true, some "  ", true⟩

/-- A code unit as an escape. -/
def codeEscape (code : Nat) : List Char := '\\' :: 'u' :: Text.hexDigits 4 code

/-- A character by its one or two code units. -/
def unitEscapes (c : Char) : List Char :=
  let code := c.toNat
  if code < 0x10000 then codeEscape code
  else
    codeEscape (0xD800 + (code - 0x10000) / 0x400) ++ codeEscape (0xDC00 + (code - 0x10000) % 0x400)

/-- One character inside a text. -/
def escapeChar (ascii : Bool) (c : Char) : List Char :=
  match c with
  | '"' => ['\\', '"']
  | '\\' => ['\\', '\\']
  | '\n' => ['\\', 'n']
  | '\r' => ['\\', 'r']
  | '\t' => ['\\', 't']
  | '\x08' => ['\\', 'b']
  | '\x0c' => ['\\', 'f']
  | c =>
    if c.toNat < 32 then codeEscape c.toNat
    else if ascii && c.toNat ≥ 127 then unitEscapes c
    else [c]

/-- A text in quotes. -/
def writeText (ascii : Bool) (text : String) : List Char :=
  '"' :: text.toList.flatMap (escapeChar ascii) ++ ['"']

/-- What cannot be written: an integer with too many digits. -/
inductive WriteFault where
  | tooLong
deriving DecidableEq, Repr

/-- The message for a value that cannot be written. -/
def WriteFault.message : WriteFault → String
  | .tooLong => Number.writeLimitMessage

/-- The line break before an item at a level, if items have lines of their own. -/
def Style.break (style : Style) (level : Nat) : List Char :=
  match style.indent with
  | none => []
  | some unit => '\n' :: (List.replicate level unit.toList).flatten

/-- What separates two items at a level. -/
def Style.separator (style : Style) (level : Nat) : List Char :=
  ',' :: (if style.indent.isNone then [' '] else style.break level)

/-- Non-empty written items, joined and put between two brackets. -/
def Style.enclose (style : Style) (level : Nat) (opening closing : Char)
    (items : List (List Char)) : List Char :=
  if items.isEmpty then [opening, closing]
  else
    opening :: style.break (level + 1) ++
      (items.intersperse (style.separator (level + 1))).flatten ++
      style.break level ++ [closing]

/-- Members in the order of their names, if the style sorts. -/
def Style.order {α : Type} (style : Style) (members : List (String × α)) : List (String × α) :=
  if style.sorted then members.mergeSort fun a b => decide (a.1 ≤ b.1) else members

mutual

/-- The characters of a value at a level of nesting. -/
def writeChars (style : Style) (level : Nat) : Json → Except WriteFault (List Char)
  | .null => .ok "null".toList
  | .bool value => .ok (if value then "true" else "false").toList
  | .int value =>
    match Number.integerText? value with
    | some digits => .ok digits.toList
    | none => .error .tooLong
  | .double value => .ok (Number.jsonDouble.write value).toList
  | .string value => .ok (writeText style.ascii value)
  | .list items =>
    match writeItems style (level + 1) items with
    | .ok written => .ok (style.enclose level '[' ']' written)
    | .error fault => .error fault
  | .object members =>
    match writeMembers style (level + 1) members with
    | .ok written => .ok (style.enclose level '{' '}' ((style.order written).map (·.2)))
    | .error fault => .error fault

/-- The characters of each item. -/
def writeItems (style : Style) (level : Nat) : List Json → Except WriteFault (List (List Char))
  | [] => .ok []
  | item :: rest => do pure ((← writeChars style level item) :: (← writeItems style level rest))

/-- The characters of each member, under its name. -/
def writeMembers (style : Style) (level : Nat) :
    List (String × Json) → Except WriteFault (List (String × List Char))
  | [] => .ok []
  | (name, value) :: rest => do
    let written ← writeChars style level value
    let others ← writeMembers style level rest
    pure ((name, writeText style.ascii name ++ ':' :: ' ' :: written) :: others)

end

/-- The text of a value. -/
def write (style : Style) (value : Json) : Except WriteFault String :=
  (writeChars style 0 value).map String.ofList

/-- The text of a value on one line with raw characters. -/
def line (value : Json) : Except WriteFault String := write .line value

/-!
## JSON values in the notation of expressions

The form in which a value is written inside an expression: texts in the quotes that need fewer
escapes, the words `None`, `True` and `False`.  Values of different kinds have different forms, so
the forms can be used to put values in order.
-/

/-- Texts with commas between them. -/
def commaSeparated (texts : List String) : String := ", ".intercalate texts

mutual

/-- The form of a value, or nothing if it holds an integer with too many digits. -/
def quoted? : Json → Option String
  | .null => some "None"
  | .bool value => some (if value then "True" else "False")
  | .int value => Number.integerText? value
  | .double value => some (Number.plainDouble.write value)
  | .string text => some (Text.quote text)
  | .list items => do pure s!"[{commaSeparated (← quotedItems? items)}]"
  | .object members => do pure s!"\x7b{commaSeparated (← quotedMembers? members)}\x7d"

/-- The forms of items. -/
def quotedItems? : List Json → Option (List String)
  | [] => some []
  | item :: rest => do
    let first ← quoted? item
    pure (first :: (← quotedItems? rest))

/-- The forms of members. -/
def quotedMembers? : List (String × Json) → Option (List String)
  | [] => some []
  | (name, value) :: rest => do
    let first := s!"{Text.quote name}: {← quoted? value}"
    pure (first :: (← quotedMembers? rest))

end

/-- Values in the order of their forms; those with one form stay in the order in which they are
given.  There is no order if some value has no form. -/
def sortedByForm? (values : List Json) : Option (List Json) := do
  let forms ← values.mapM quoted?
  pure (((forms.zip values).mergeSort fun a b => decide (a.1 ≤ b.1)).map (·.2))

end TemplateWorkbench.Json
