import TemplateWorkbench.Template.Attribute
import TemplateWorkbench.Template.Call
import TemplateWorkbench.Template.Value.Presentation
import TemplateWorkbench.Template.Value.Subscript
import TemplateWorkbench.Text.Entity

/-!
# Texts with fields in braces

A field in braces names an argument by its place, by its name, or as the next one, and may go on to
attributes and elements of it.  After an exclamation mark it says how the value becomes text, and
after a colon how the text is laid out; two braces stand for one.  A layout may itself have fields,
which have none in their layouts.

Plain text and markup differ in small things: markup escapes what it is filled with, markup among its
arguments takes no layout, and it is less strict with fields that are counted.
-/

namespace TemplateWorkbench.Template.Braces

/-! ### Fields -/

/-- A field: its name, its conversion and its layout. -/
structure Field where
  name : List Char
  conversion : Option Char
  layout : List Char

/-- The text of a field's name, up to a character that ends it; brackets hide such characters. -/
def fieldName (bracket : Bool) (done : List Char) : List Char → Except Fault (List Char × List Char)
  | [] => .error (valueFault "expected '\x7d' before end of string")
  | c :: rest =>
    if bracket then fieldName (c != ']') (c :: done) rest
    else if c == '{' then .error (valueFault "unexpected '\x7b' in field name")
    else if c == '}' || c == ':' || c == '!' then .ok (done.reverse, c :: rest)
    else fieldName (c == '[') (c :: done) rest

/-- The text of a layout, up to the brace that closes its field. -/
def layoutText (depth : Nat) (done : List Char) : List Char → Except Fault (List Char × List Char)
  | [] => .error (valueFault "unmatched '\x7b' in format spec")
  | '{' :: rest => layoutText (depth + 1) ('{' :: done) rest
  | '}' :: rest =>
    if depth = 0 then .ok (done.reverse, rest) else layoutText (depth - 1) ('}' :: done) rest
  | c :: rest => layoutText depth (c :: done) rest

/-- A field after its opening brace, and what follows. -/
def readField (text : List Char) : Except Fault (Field × List Char) := do
  let (name, text) ← fieldName false [] text
  match text with
  | '!' :: [] => .error (valueFault "end of string while looking for conversion specifier")
  | '!' :: c :: rest =>
    match rest with
    | '}' :: rest => pure (⟨name, some c, []⟩, rest)
    | ':' :: rest => do
      let (layout, rest) ← layoutText 0 [] rest
      pure (⟨name, some c, layout⟩, rest)
    | [] => .error (valueFault "unmatched '\x7b' in format spec")
    | _ => .error (valueFault "expected ':' after conversion specifier")
  | ':' :: rest => do
    let (layout, rest) ← layoutText 0 [] rest
    pure (⟨name, none, layout⟩, rest)
  | _ :: rest => pure (⟨name, none, []⟩, rest)
  | [] => .error (valueFault "expected '\x7d' before end of string")

/-- The number that a name is, if it has decimal digits alone. -/
def indexOf? (name : List Char) : Except Fault (Option Nat) := do
  if name.isEmpty then pure none
  else
    match ← Presentation.readCount name with
    | (some index, []) => pure (some index)
    | _ => pure none

/-- The attribute of a value. -/
def attributeOf (services : Services) (value : Value) (id : String) : Run Value := do
  match ← services.attribute? value id with
  | some found => pure found
  | none => throw (value.attributeFault id)

/-- The element of a value under a key. -/
def elementOf (services : Services) (value key : Value) : Run Value := do
  match ← Services.elementOf? value key with
  | some found => pure found
  | none => throw (value.elementFault key (← services.written key))

/-- Where the steps of a field's name lead from a value: to attributes, and to elements in
brackets. -/
def follow (services : Services) (fuel : Nat) (value : Value) (text : List Char) : Run Value :=
  let empty : Fault := valueFault "Empty attribute in format string"
  match fuel, text with
  | 0, _ | _, [] => pure value
  | fuel + 1, '.' :: rest => do
    let id := rest.takeWhile fun c => c != '.' && c != '['
    if id.isEmpty then throw empty
    else
      follow services fuel (← attributeOf services value (String.ofList id)) (rest.drop id.length)
  | fuel + 1, '[' :: rest => do
    let name := rest.takeWhile (· != ']')
    match rest.drop name.length with
    | [] => throw (valueFault "Missing ']' in format string")
    | _ :: rest => do
      let index ← indexOf? name
      if name.isEmpty then throw empty
      else
        let key : Value :=
          match index with
          | some n => .int n
          | none => .string (String.ofList name)
        follow services fuel (← elementOf services value key) rest
  | _, _ => throw (valueFault "Only '.' or '[' may follow ']' in format field specifier")

/-! ### Arguments -/

/-- How arguments without a name are counted. -/
inductive Numbering where
  | undecided
  | automatic (next : Nat)
  | manual

/-- The fault of counting fields after they were numbered. -/
def toAutomatic : Fault :=
  valueFault "cannot switch from manual field specification to automatic field numbering"

/-- The fault of numbering fields after they were counted. -/
def toManual : Fault :=
  valueFault "cannot switch from automatic field numbering to manual field specification"

/-- The number of the next field that is counted, and the numbering after it. -/
def Numbering.advance : Numbering → Except Fault (Nat × Numbering)
  | manual => .error toAutomatic
  | undecided => .ok (0, automatic 1)
  | automatic n => .ok (n, automatic (n + 1))

/-- The numbering after a field with a number; `fault` is that of having counted before. -/
def Numbering.fix (fault : Fault) : Numbering → Except Fault Numbering
  | automatic _ => .error fault
  | _ => .ok manual

/-- The argument with a name. -/
def namedArgument (arguments : CallArguments) (name : String) : Except Fault Value :=
  match arguments.keywords.lookup name with
  | some value => .ok value
  | none => .error (faultOf .key (Text.quote name))

/-- The argument at a place. -/
def placedArgument (arguments : CallArguments) (index : Nat) (message : String) :
    Except Fault Value :=
  match arguments.positional[index]? with
  | some value => .ok value
  | none => .error (faultOf .index message)

/-- The argument that the first part of a field's name asks for, in plain text. -/
def plainArgument (arguments : CallArguments) (numbering : Numbering) (first : List Char) :
    Except Fault (Value × Numbering) := do
  let missing (index : Nat) : String :=
    s!"Replacement index {index} out of range for positional args tuple"
  let index ← indexOf? first
  if first.isEmpty then
    let (next, numbering) ← numbering.advance
    pure (← placedArgument arguments next (missing next), numbering)
  else
    match index with
    | some n => do
      let numbering ← numbering.fix toManual
      pure (← placedArgument arguments n (missing n), numbering)
    | none => pure (← namedArgument arguments (String.ofList first), numbering)

/-- The argument that a field asks for in markup; `first` is the first part of its name. -/
def markupArgument (arguments : CallArguments) (numbering : Numbering) (name first : List Char) :
    Except Fault (Value × Numbering) := do
  let missing := "tuple index out of range"
  if name.isEmpty then
    let (next, numbering) ← numbering.advance
    pure (← placedArgument arguments next missing, numbering)
  else
    let numbering ← if name.all Unicode.isDigitLike then numbering.fix toAutomatic else pure numbering
    match ← indexOf? first with
    | some n => pure (← placedArgument arguments n missing, numbering)
    | none => pure (← namedArgument arguments (String.ofList first), numbering)

/-! ### Filling in -/

/-- How a text is filled in. -/
structure Filling where
  services : Services
  isMarkup : Bool
  arguments : CallArguments

/-- A conversion as a message of plain text shows it. -/
def shownConversion (c : Char) : String :=
  if 32 < c.toNat && c.toNat < 127 then String.singleton c
  else "\\x" ++ String.ofList (Nat.toDigits 16 c.toNat)

namespace Filling

variable (filling : Filling)

/-- A value after the conversion of its field. -/
def convert (conversion : Option Char) (value : Value) : Run Value :=
  match conversion with
  | none => pure value
  | some 's' => do pure (.string (← filling.services.printed value))
  | some 'r' => do pure (.string (← filling.services.written value))
  | some 'a' => do pure (.string (Text.asciiOnly (← filling.services.written value)))
  | some c =>
    let shown := if filling.isMarkup then String.singleton c else shownConversion c
    throw (valueFault s!"Unknown conversion specifier {shown}")

/-- A value under a layout. -/
def present (value : Value) (layout : List Char) : Run (List Char) := do
  if layout.isEmpty then pure (← filling.services.printed value).toList
  else value.presented layout

/-- The text that a field is filled with. -/
def writeField (value : Value) (layout : List Char) : Run (List Char) := do
  match filling.isMarkup, value with
  | false, _ => filling.present value layout
  | true, .markup text =>
    if layout.isEmpty then pure text.toList
    else throw (valueFault "Unsupported format specification for Markup.")
  | true, .object .module _ =>
    if layout.isEmpty then filling.present value layout
    else
      throw (valueFault
        (s!"Format specifier {String.ofList layout} given, but " ++
          s!"{typeText value.typeHome value.typeName} does not define __html_format__. A class " ++
          "that defines __html__ must define __html_format__ to work with format specifiers."))
  | true, _ => do
    let text ← filling.present value layout
    pure (Text.escapeMarkup (String.ofList text)).toList

/-- The value of a field. -/
def valueOf (numbering : Numbering) (name : List Char) : Run (Value × Numbering) := do
  let first := name.takeWhile fun c => c != '.' && c != '['
  let (argument, numbering) ←
    if filling.isMarkup then markupArgument filling.arguments numbering name first
    else plainArgument filling.arguments numbering first
  let value ←
    follow filling.services (name.length + 1) argument (name.drop first.length)
  pure (value, numbering)

/-- Stops if layouts are nested too deeply; `depth` is what is left. -/
def checkDepth (depth : Nat) (layout : List Char) : Except Fault Unit :=
  if depth = 0 && (filling.isMarkup || layout.contains '{') then
    .error (valueFault "Max string recursion exceeded")
  else .ok ()

/-- A text with its fields filled in; `fuel` bounds the fields and the nesting of layouts, and
`depth` says how deep layouts may still be nested. -/
def fill (depth : Nat) : (fuel : Nat) → Numbering → List Char → Run (List Char × Numbering)
  | 0, numbering, _ => pure ([], numbering)
  | fuel + 1, numbering, text => do
    let literal := text.takeWhile fun c => c != '{' && c != '}'
    match text.drop literal.length with
    | [] => pure (literal, numbering)
    | '{' :: '{' :: rest => do
      let (filled, numbering) ← fill depth fuel numbering rest
      pure (literal ++ '{' :: filled, numbering)
    | '}' :: '}' :: rest => do
      let (filled, numbering) ← fill depth fuel numbering rest
      pure (literal ++ '}' :: filled, numbering)
    | '}' :: _ => throw (valueFault "Single '\x7d' encountered in format string")
    | ['{'] => throw (valueFault "Single '\x7b' encountered in format string")
    | _ :: rest => do
      let (field, rest) ← readField rest
      let (value, numbering) ← filling.valueOf numbering field.name
      let value ← filling.convert field.conversion value
      filling.checkDepth depth field.layout
      let (layout, numbering) ← fill (depth - 1) fuel numbering field.layout
      let written ← filling.writeField value layout
      let (filled, numbering) ← fill depth fuel numbering rest
      pure (literal ++ written ++ filled, numbering)

end Filling

/-- How deep layouts may be nested. -/
def nestingLimit : Nat := 1

/-- A text with its fields filled in from arguments. -/
def format (services : Services) (text : String) (isMarkup : Bool) (arguments : CallArguments) :
    Run String := do
  let characters := text.toList
  let filling : Filling := { services, isMarkup, arguments }
  let depth := if isMarkup then nestingLimit + 1 else nestingLimit
  let (result, _) ← filling.fill depth (characters.length + 1) .undecided characters
  pure (String.ofList result)

end TemplateWorkbench.Template.Braces
