import TemplateWorkbench.Number.Integer
import TemplateWorkbench.Text.CharacterNames
import TemplateWorkbench.Text.Search

/-!
# Text without markup

Reading markup as plain text: comments and tags are taken out, and references to characters, by a
number or by a name, are replaced by what they stand for.  A name without a semicolon counts as far
as it is one of those that need none.
-/

namespace TemplateWorkbench.Text

/-! ### References -/

/-- What the numbers from 128 on that are no characters stand for. -/
def oldCharacters : List Nat := [
  8364, 129, 8218, 402, 8222, 8230, 8224, 8225, 710, 8240, 352, 8249, 338, 141, 381, 143, 144, 8216,
  8217, 8220, 8221, 8226, 8211, 8212, 732, 8482, 353, 8250, 339, 157, 382, 376]

/-- Whether a number stands for no character at all. -/
def isNoCharacter (code : Nat) : Bool :=
  (1 ≤ code && code ≤ 8) || code == 11 || (14 ≤ code && code ≤ 31) || (127 ≤ code && code ≤ 159) ||
    (0xFDD0 ≤ code && code ≤ 0xFDEF) || code % 0x10000 == 0xFFFE || code % 0x10000 == 0xFFFF

/-- The characters that a number stands for. -/
def numberedCharacters (code : Nat) : List Char :=
  if code = 0 then ['\uFFFD']
  else if code = 13 then ['\r']
  else if 128 ≤ code && code < 160 then [Char.ofNat (oldCharacters[code - 128]?.getD 0)]
  else if (0xD800 ≤ code && code ≤ 0xDFFF) || code > 0x10FFFF then ['\uFFFD']
  else if isNoCharacter code then []
  else [Char.ofNat code]

/-- A text without a semicolon at its front. -/
def dropSemicolon : List Char → List Char
  | ';' :: rest => rest
  | rest => rest

/-- The characters that a number in a base stands for, and the text after it. -/
def numberReference? (base : Nat) (text : List Char) : Option (List Char × List Char) :=
  let isDigit (c : Char) : Bool := c.toNat < 128 && (Number.digitBelow? base c).isSome
  match text.takeWhile isDigit with
  | [] => none
  | digits =>
    some (numberedCharacters (Number.ofDigits base (digits.filterMap (Number.digitBelow? base))),
      dropSemicolon (text.dropWhile isDigit))

/-- Whether a character may be part of a name. -/
def isNameCharacter (c : Char) : Bool :=
  !(c == '\t' || c == '\n' || c == '\x0c' || c == ' ' || c == '<' || c == '&' || c == '#' || c == ';')

/-- The longest beginning of a name, of at least two characters, that needs no semicolon. -/
def longestBareName (name : List Char) : (length : Nat) → Option (List Char × List Char)
  | 0 => none
  | length + 1 =>
    if length = 0 then none
    else
      match namedCharacters? (name.take (length + 1)) false with
      | some characters => some (characters, name.drop (length + 1))
      | none => longestBareName name length

/-- The characters that a name stands for, and the text after it. -/
def nameReference? (text : List Char) : Option (List Char × List Char) :=
  let name := (text.take 32).takeWhile isNameCharacter
  let rest := text.drop name.length
  let closed := rest.head? = some ';'
  let whole :=
    if closed then namedCharacters? name true
    else namedCharacters? name false
  match whole with
  | some characters => some (characters, dropSemicolon rest)
  | none =>
    (longestBareName name (if closed then name.length else name.length - 1)).map
      fun (characters, left) =>
        (characters ++ left ++ (if closed then [';'] else []), dropSemicolon rest)

/-- What the text after an ampersand stands for, if it is a reference, and the text after that. -/
def reference? : List Char → Option (List Char × List Char)
  | '#' :: 'x' :: rest | '#' :: 'X' :: rest => numberReference? 16 rest
  | '#' :: rest => numberReference? 10 rest
  | text => nameReference? text

/-- A text with its references replaced; `fuel` bounds the number of characters. -/
def unescapeUpTo : (fuel : Nat) → List Char → List Char
  | 0, text => text
  | _ + 1, [] => []
  | fuel + 1, '&' :: rest =>
    match reference? rest with
    | some (characters, rest) => characters ++ unescapeUpTo fuel rest
    | none => '&' :: unescapeUpTo fuel rest
  | fuel + 1, c :: rest => c :: unescapeUpTo fuel rest

/-- A text with its references replaced. -/
def unescape (text : List Char) : List Char := unescapeUpTo text.length text

/-! ### Tags -/

/-- The text after the next place where a part is. -/
def afterNext? (part text : List Char) : Option (List Char) :=
  (find? part text).map fun offset => text.drop (offset + part.length)

/-- The text after a comment or a tag, which begins with an angle bracket at its front, if it is
closed. -/
def afterTag? (text : List Char) : Option (List Char) :=
  match after? "<!--".toList text with
  | some rest => afterNext? "-->".toList rest
  | none => afterNext? ['>'] text

/-- A text without its comments and tags; from the first one that is not closed on, it stays as it is.
`fuel` bounds their number. -/
def withoutTags : (fuel : Nat) → List Char → List Char
  | 0, text => text
  | fuel + 1, text =>
    let front := text.takeWhile (· != '<')
    match text.drop front.length with
    | [] => front
    | tag =>
      match afterTag? tag with
      | some rest => front ++ withoutTags fuel rest
      | none => text

/-- A text without comments, tags and references, single blanks between its words. -/
def stripTags (isBlank : Char → Bool) (text : String) : String :=
  let text := text.toList
  let text := withoutTags text.length text
  String.ofList (unescape (List.intercalate [' '] (words isBlank none text)))

end TemplateWorkbench.Text
