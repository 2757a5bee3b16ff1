import TemplateWorkbench.Unicode.Printable

/-!
# Quoted text

A text is quoted with single quotes, or with double quotes if it holds a single quote and no double
one.  Inside, the backslash and the chosen quote are escaped, tab, line feed and carriage return
have short escapes, and every other character that is not printable is written by its code in the
shortest of three hexadecimal forms.  Octets are quoted in the same way with the mark `b`, all
octets beyond the printable ASCII ones being written by their codes.
-/

namespace TemplateWorkbench.Text

/-- The digit of a value below sixteen, in lower case. -/
def hexDigit (value : Nat) : Char :=
  if value < 10 then Char.ofNat (48 + value) else Char.ofNat (87 + value)

/-- The last `width` hexadecimal digits of a number. -/
def hexDigits : Nat → Nat → List Char
  | 0, _ => []
  | width + 1, value => hexDigits width (value / 16) ++ [hexDigit (value % 16)]

/-- The quote that needs fewer escapes: double only for a text with single quotes alone. -/
def quoteFor (text : List Char) : Char :=
  if text.contains '\'' && !text.contains '"' then '"' else '\''

/-- A character written by its code, in the shortest of three forms. -/
def codeEscape (c : Char) : List Char :=
  if c.toNat < 0x100 then '\\' :: 'x' :: hexDigits 2 c.toNat
  else if c.toNat < 0x10000 then '\\' :: 'u' :: hexDigits 4 c.toNat
  else '\\' :: 'U' :: hexDigits 8 c.toNat

/-- One character inside quotes. -/
def quoteChar (quote : Char) (c : Char) : List Char :=
  if c = quote || c = '\\' then ['\\', c]
  else if c = '\t' then ['\\', 't']
  else if c = '\n' then ['\\', 'n']
  else if c = '\r' then ['\\', 'r']
  else if Unicode.isPrintable c then [c]
  else codeEscape c

/-- The text in quotes, as a list of characters. -/
def quoteChars (text : List Char) : List Char :=
  let quote := quoteFor text
  quote :: text.flatMap (quoteChar quote) ++ [quote]

/-- The text in quotes. -/
def quote (text : String) : String := String.ofList (quoteChars text.toList)

/-- Text with every character beyond ASCII written by its code. -/
def asciiOnly (text : String) : String :=
  String.ofList (text.toList.flatMap fun c => if c.toNat < 0x80 then [c] else codeEscape c)

/-- One octet inside quotes. -/
def quoteOctet (quote : Char) (octet : UInt8) : List Char :=
  let c := Char.ofNat octet.toNat
  if c = quote || c = '\\' then ['\\', c]
  else if c = '\t' then ['\\', 't']
  else if c = '\n' then ['\\', 'n']
  else if c = '\r' then ['\\', 'r']
  else if 32 ≤ octet.toNat && octet.toNat < 127 then [c]
  else '\\' :: 'x' :: hexDigits 2 octet.toNat

/-- Octets in quotes, marked as octets. -/
def quoteOctets (octets : List UInt8) : String :=
  let mark := quoteFor (octets.map fun octet => Char.ofNat octet.toNat)
  String.ofList ('b' :: mark :: octets.flatMap (quoteOctet mark) ++ [mark])

end TemplateWorkbench.Text
