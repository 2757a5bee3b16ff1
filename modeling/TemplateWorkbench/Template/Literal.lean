import TemplateWorkbench.Number.Reading
import TemplateWorkbench.Text.Lines
import TemplateWorkbench.Text.Quoted
import TemplateWorkbench.Unicode.Name

/-!
# Literals

The values of numbers and texts as they stand in a template.  An integer literal may be too long, a
decimal literal may hold digits that no decimal literal may hold, and a text may hold a broken
escape; everything else that the lexer accepts as a literal has a value.
-/

namespace TemplateWorkbench.Template

/-- Why a literal has no value. -/
inductive LiteralFault where
  | tooLong (digits : Nat)
  | foreignDigit (c : Char)
  | badDecimal
  | truncatedEscape (pattern : String)
  | illegalCharacter
  | malformedName
  | unknownName
deriving DecidableEq, Repr

/-- What is said of a literal without a value. -/
def LiteralFault.message : LiteralFault → String
  | .tooLong digits => Number.readLimitMessage digits
  | .foreignDigit c =>
    let width := if c.toNat < 0x10000 then 4 else 6
    let code := String.ofList ((Text.hexDigits width c.toNat).map Char.toUpper)
    s!"invalid character '{c}' (U+{code}) (<unknown>, line 1)"
  | .badDecimal => "invalid decimal literal (<unknown>, line 1)"
  | .truncatedEscape pattern => s!"truncated \\{pattern} escape"
  | .illegalCharacter => "illegal Unicode character"
  | .malformedName => "malformed \\N character escape"
  | .unknownName => "unknown Unicode character name"

/-- The value of an integer literal; its underscores have no meaning. -/
def integerLiteral (text : List Char) : Except LiteralFault Int :=
  match Number.readInteger 0 (text.filter (· != '_')) with
  | .ok value => .ok value
  | .error (.tooLong digits) => .error (.tooLong digits)
  | .error _ => .ok 0

/-- The first digit that is not an ASCII digit, with the character before it. -/
def foreignDigit? (before : Char) : List Char → Option (Char × Char)
  | [] => none
  | c :: rest => if c.toNat < 128 then foreignDigit? c rest else some (before, c)

/-- The value of a decimal literal. -/
def floatLiteral (text : List Char) : Except LiteralFault Double :=
  let plain := text.filter (· != '_')
  match foreignDigit? ' ' plain with
  | some (before, c) =>
    if ['e', 'E', '+', '-'].contains before then .error .badDecimal else .error (.foreignDigit c)
  | none =>
    match Number.readDouble? plain with
    | some value => .ok value
    | none => .error .badDecimal

/-! ### Texts -/

/-- A text in which every character beyond ASCII is written as an escape. -/
def asciiEscaped (text : List Char) : List Char :=
  text.flatMap fun c =>
    if c.toNat < 128 then [c]
    else if c.toNat < 0x100 then '\\' :: 'x' :: Text.hexDigits 2 c.toNat
    else if c.toNat < 0x10000 then '\\' :: 'u' :: Text.hexDigits 4 c.toNat
    else '\\' :: 'U' :: Text.hexDigits 8 c.toNat

/-- The character of a code point; a surrogate is replaced. -/
def codePoint (code : Nat) : Char :=
  if 0xD800 ≤ code && code < 0xE000 then Char.ofNat 0xFFFD else Char.ofNat code

/-- The character that a one-letter escape stands for. -/
def simpleEscape? : Char → Option Char
  | '\\' => some '\\'
  | '\'' => some '\''
  | '"' => some '"'
  | 'b' => some '\x08'
  | 'f' => some '\x0c'
  | 't' => some '\t'
  | 'n' => some '\n'
  | 'r' => some '\r'
  | 'v' => some '\x0b'
  | 'a' => some '\x07'
  | _ => none

/-- The value of exactly `width` hexadecimal digits at the front of a text. -/
def hexValue? (width : Nat) (text : List Char) : Option Nat :=
  let digits := text.take width
  if digits.length < width then none
  else (digits.mapM (Number.digitBelow? 16)).map (Number.ofDigits 16)

/-- The octal digits at the front of a text, at most `width` of them. -/
def octalDigits : Nat → List Char → List Nat
  | 0, _ => []
  | _, [] => []
  | width + 1, c :: rest =>
    match Number.digitBelow? 8 c with
    | some digit => digit :: octalDigits width rest
    | none => []

/-- The length of a code escape and the words for its pattern, by its letter. -/
def codeEscape? : Char → Option (Nat × String)
  | 'x' => some (2, "xXX")
  | 'u' => some (4, "uXXXX")
  | 'U' => some (8, "UXXXXXXXX")
  | _ => none

/-- One escape without its backslash: the characters it stands for and the number of characters
after its letter that belong to it. -/
def readEscape (c : Char) (rest : List Char) : Except LiteralFault (List Char × Nat) :=
  if c = '\n' then .ok ([], 0)
  else match simpleEscape? c with
    | some meant => .ok ([meant], 0)
    | none =>
      match codeEscape? c with
      | some (width, pattern) =>
        match hexValue? width rest with
        | none => .error (.truncatedEscape pattern)
        | some code =>
          if code > 0x10FFFF then .error .illegalCharacter else .ok ([codePoint code], width)
      | none =>
        let octal := octalDigits 3 (c :: rest)
        if !octal.isEmpty then .ok ([codePoint (Number.ofDigits 8 octal)], octal.length - 1)
        else if c = 'N' then
          match rest with
          | '{' :: more =>
            let title := more.takeWhile (· != '}')
            if title.isEmpty || title.length = more.length then .error .malformedName
            else
              match Unicode.codeNamed? title with
              | some code => .ok ([codePoint code], title.length + 2)
              | none => .error .unknownName
          | _ => .error .malformedName
        else .ok (['\\', c], 0)

/-- The characters that an ASCII text with escapes stands for. -/
def unescape : List Char → Except LiteralFault (List Char)
  | [] => .ok []
  | ['\\'] => .ok ['\\']
  | '\\' :: c :: rest =>
    match readEscape c rest with
    | .error fault => .error fault
    | .ok (meant, used) => (unescape (rest.drop used)).map (meant ++ ·)
  | c :: rest => (unescape rest).map (c :: ·)
termination_by text => text.length
decreasing_by all_goals (simp only [List.length_cons, List.length_drop]; omega)

/-- The value of the inside of a text literal. -/
def textLiteral (inside : List Char) : Except LiteralFault String :=
  (unescape (asciiEscaped (Text.unify inside))).map String.ofList

end TemplateWorkbench.Template
