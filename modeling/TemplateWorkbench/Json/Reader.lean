import TemplateWorkbench.Json.Basic
import TemplateWorkbench.Number.Reading

/-!
# Reading JSON

The reader accepts one value with blanks around it.  Beyond the standard it reads `NaN`, `Infinity`
and `-Infinity`; of members with one name it keeps the last value in the first one's place.  Three
things can go wrong: the text is malformed at some place, its containers are nested too deeply, or
it holds an integer with too many digits.

While reading, a place is told by the number of characters that remain.
-/

namespace TemplateWorkbench.Json

/-- What is wrong with a malformed text. -/
inductive Malformation where
  | expectedValue
  | expectedName
  | expectedColon
  | expectedComma
  | extraData
  | unterminatedText
  | controlCharacter
  | unknownEscape
  | badCodeEscape
  | byteOrderMark
deriving DecidableEq, Repr

/-- The two kinds of containers. -/
inductive Container where
  | list
  | object
deriving DecidableEq, Repr

/-- Why reading stopped. -/
inductive ReadFault where
  | malformed (what : Malformation) (remaining : Nat)
  | tooDeep (container : Container)
  | tooLong (digits : Nat)
deriving DecidableEq, Repr

/-- How many containers may be open at once. -/
def depthLimit : Nat := 900

/-- Whether a character is a blank between tokens. -/
def isBlank (c : Char) : Bool := c == ' ' || c == '\t' || c == '\n' || c == '\r'

/-- The text from its first character that is not blank. -/
def skipBlanks (text : List Char) : List Char := text.dropWhile isBlank

/-- The value of four hexadecimal digits. -/
def codeUnit? (a b c d : Char) : Option Nat := do
  let digits ← [a, b, c, d].mapM (Number.digitBelow? 16)
  pure (Number.ofDigits 16 digits)

/-- Whether a code unit is the first half of a pair. -/
def isHighHalf (code : Nat) : Bool := 0xD800 ≤ code && code < 0xDC00

/-- Whether a code unit is the second half of a pair. -/
def isLowHalf (code : Nat) : Bool := 0xDC00 ≤ code && code < 0xE000

/-- The character of a code unit; a half that stands alone is replaced. -/
def unitChar (code : Nat) : Char :=
  if isHighHalf code || isLowHalf code then Char.ofNat 0xFFFD else Char.ofNat code

/-- The character of a pair of halves. -/
def pairChar (high low : Nat) : Char :=
  Char.ofNat (0x10000 + (high - 0xD800) * 0x400 + (low - 0xDC00))

/-- The character that a one-letter escape stands for. -/
def escaped? : Char → Option Char
  | '"' => some '"'
  | '\\' => some '\\'
  | '/' => some '/'
  | 'b' => some '\x08'
  | 'f' => some '\x0c'
  | 'n' => some '\n'
  | 'r' => some '\r'
  | 't' => some '\t'
  | _ => none

/-- What follows the first half of a pair. -/
inductive SecondHalf where
  /-- No code escape follows. -/
  | absent
  /-- A code escape with a bad digit follows; its letter has this many characters from it on. -/
  | broken (remaining : Nat)
  /-- A code escape follows. -/
  | unit (code : Nat)

/-- Looks for the code escape after a first half. -/
def secondHalf : List Char → SecondHalf
  | '\\' :: 'u' :: a :: b :: c :: d :: rest =>
    match codeUnit? a b c d with
    | none => .broken (rest.length + 5)
    | some code => .unit code
  | _ => .absent

/-- Reads the body of a text up to its closing quote.  `opened` is the place of the opening quote,
`done` holds the characters read so far, last first. -/
def readText (opened : Nat) (done : List Char) :
    List Char → Except ReadFault (String × List Char)
  | [] => .error (.malformed .unterminatedText opened)
  | '"' :: rest => .ok (String.ofList done.reverse, rest)
  | ['\\'] => .error (.malformed .unterminatedText opened)
  | '\\' :: 'u' :: a :: b :: c :: d :: e :: rest =>
    match codeUnit? a b c d with
    | none => .error (.malformed .badCodeEscape (rest.length + 6))
    | some high =>
      if isHighHalf high then
        match secondHalf (e :: rest) with
        | .broken remaining => .error (.malformed .badCodeEscape remaining)
        | .absent => readText opened (unitChar high :: done) (e :: rest)
        | .unit low =>
          if isLowHalf low then readText opened (pairChar high low :: done) (rest.drop 5)
          else readText opened (unitChar high :: done) (e :: rest)
      else readText opened (unitChar high :: done) (e :: rest)
  | '\\' :: 'u' :: rest => .error (.malformed .badCodeEscape (rest.length + 1))
  | '\\' :: c :: rest =>
    match escaped? c with
    | some meant => readText opened (meant :: done) rest
    | none => .error (.malformed .unknownEscape (rest.length + 2))
  | c :: rest =>
    if c.toNat < 32 then .error (.malformed .controlCharacter (rest.length + 1))
    else readText opened (c :: done) rest
termination_by text => text.length
decreasing_by all_goals (simp only [List.length_cons, List.length_drop]; omega)

/-- The longest run of ASCII digits at the front, and the rest. -/
def digitsThen (text : List Char) : List Nat × List Char :=
  ((text.takeWhile Char.isDigit).map fun c => c.toNat - 48, text.dropWhile Char.isDigit)

/-- A fraction at the front, if a digit follows the point. -/
def fraction? (text : List Char) : Option (List Nat × List Char) :=
  match text with
  | '.' :: rest =>
    let (digits, others) := digitsThen rest
    if digits.isEmpty then none else some (digits, others)
  | _ => none

/-- An exponent at the front, if it has a digit. -/
def exponent? (text : List Char) : Option (Int × List Char) :=
  match text with
  | mark :: rest =>
    if mark == 'e' || mark == 'E' then
      let (negative, unsigned) := Number.splitSign rest
      let (digits, others) := digitsThen unsigned
      if digits.isEmpty then none
      else
        let size : Int := Number.ofDigits 10 digits
        some (if negative then -size else size, others)
    else none
  | [] => none

/-- The digits before the point: a zero alone, or a run that starts with another digit. -/
def wholeDigits? (text : List Char) : Option (List Nat × List Char) :=
  match text with
  | '0' :: rest => some ([0], rest)
  | _ =>
    let (digits, rest) := digitsThen text
    if digits.isEmpty then none else some (digits, rest)

/-- The sign in front of a number, and what follows it. -/
def splitMinus : List Char → Bool × List Char
  | '-' :: rest => (true, rest)
  | text => (false, text)

/-- The number with the given whole digits: an integer, or a double if a fraction or an exponent
follows. -/
def finishNumber (negative : Bool) (whole : List Nat) (afterWhole : List Char) :
    Except ReadFault (Json × List Char) :=
  let fraction := fraction? afterWhole
  let afterFraction := (fraction.map (·.2)).getD afterWhole
  let exponent := exponent? afterFraction
  if fraction.isNone && exponent.isNone then
    if whole.length > Number.digitLimit then .error (.tooLong whole.length)
    else
      let value : Int := Number.ofDigits 10 whole
      .ok (.int (if negative then -value else value), afterWhole)
  else
    let numeral : Number.DecimalNumeral :=
      ⟨whole, (fraction.map (·.1)).getD [], (exponent.map (·.1)).getD 0⟩
    .ok (.double (numeral.toDouble negative), (exponent.map (·.2)).getD afterFraction)

/-- A number at the front of the text. -/
def readNumber (text : List Char) : Except ReadFault (Json × List Char) :=
  let (negative, unsigned) := splitMinus text
  match wholeDigits? unsigned with
  | none => .error (.malformed .expectedValue text.length)
  | some (whole, afterWhole) => finishNumber negative whole afterWhole

/-- The words that are values, longest first where one could begin another. -/
def words : List (String × Json) :=
  [("null", .null), ("true", .bool true), ("false", .bool false), ("NaN", .double .nan),
    ("Infinity", .double (.infinite false)), ("-Infinity", .double (.infinite true))]

/-- A word at the front of the text. -/
def readWord? (text : List Char) : Option (Json × List Char) :=
  words.findSome? fun (word, value) =>
    if word.toList.isPrefixOf text then some (value, text.drop word.length) else none

mutual

/-- Reads one value, with at most `depth` further containers inside one another. -/
def readValue (fuel depth : Nat) (text : List Char) : Except ReadFault (Json × List Char) :=
  match fuel with
  | 0 => .error (.malformed .expectedValue text.length)
  | fuel + 1 =>
    match text with
    | '"' :: rest => (readText text.length [] rest).map fun (value, others) => (.string value, others)
    | '{' :: rest =>
      match depth with
      | 0 => .error (.tooDeep .object)
      | depth + 1 =>
        match skipBlanks rest with
        | '}' :: others => .ok (.object [], others)
        | others => readMembers fuel depth [] others
    | '[' :: rest =>
      match depth with
      | 0 => .error (.tooDeep .list)
      | depth + 1 =>
        match skipBlanks rest with
        | ']' :: others => .ok (.list [], others)
        | others => readItems fuel depth [] others
    | _ =>
      match readWord? text with
      | some found => .ok found
      | none => readNumber text

/-- Reads the items of a list up to its end; `done` holds those read so far, last first. -/
def readItems (fuel depth : Nat) (done : List Json) (text : List Char) :
    Except ReadFault (Json × List Char) :=
  match fuel with
  | 0 => .error (.malformed .expectedValue text.length)
  | fuel + 1 =>
    match readValue fuel depth text with
    | .error fault => .error fault
    | .ok (item, rest) =>
      match skipBlanks rest with
      | ']' :: others => .ok (.list (item :: done).reverse, others)
      | ',' :: others => readItems fuel depth (item :: done) (skipBlanks others)
      | others => .error (.malformed .expectedComma others.length)

/-- Reads the members of an object up to its end; `done` holds those read so far, last first. -/
def readMembers (fuel depth : Nat) (done : List (String × Json)) (text : List Char) :
    Except ReadFault (Json × List Char) :=
  match fuel with
  | 0 => .error (.malformed .expectedName text.length)
  | fuel + 1 =>
    match text with
    | '"' :: rest =>
      match readText text.length [] rest with
      | .error fault => .error fault
      | .ok (name, rest) =>
        match skipBlanks rest with
        | ':' :: rest =>
          match readValue fuel depth (skipBlanks rest) with
          | .error fault => .error fault
          | .ok (value, rest) =>
            match skipBlanks rest with
            | '}' :: others => .ok (.object (lastWins ((name, value) :: done).reverse), others)
            | ',' :: others => readMembers fuel depth ((name, value) :: done) (skipBlanks others)
            | others => .error (.malformed .expectedComma others.length)
        | others => .error (.malformed .expectedColon others.length)
    | others => .error (.malformed .expectedName others.length)

end

/-- Reads a whole text as one value.  Each bracket costs one step for its container and one for what
is first in it, so two steps for every character are enough. -/
def readChars (text : List Char) : Except ReadFault Json :=
  match text with
  | '\uFEFF' :: _ => .error (.malformed .byteOrderMark text.length)
  | _ =>
    match readValue (2 * text.length + 2) depthLimit (skipBlanks text) with
    | .error fault => .error fault
    | .ok (value, rest) =>
      match skipBlanks rest with
      | [] => .ok value
      | others => .error (.malformed .extraData others.length)

/-- Reads a whole text as one value. -/
def read (text : String) : Except ReadFault Json := readChars text.toList

/-! ### What is said of a fault -/

/-- The words for a malformation. -/
def Malformation.text : Malformation → String
  | .expectedValue => "Expecting value"
  | .expectedName => "Expecting property name enclosed in double quotes"
  | .expectedColon => "Expecting ':' delimiter"
  | .expectedComma => "Expecting ',' delimiter"
  | .extraData => "Extra data"
  | .unterminatedText => "Unterminated string starting at"
  | .controlCharacter => "Invalid control character at"
  | .unknownEscape => "Invalid \\escape"
  | .badCodeEscape => "Invalid \\uXXXX escape"
  | .byteOrderMark => "Unexpected UTF-8 BOM (decode using utf-8-sig)"

/-- The words for a container. -/
def Container.text : Container → String
  | .list => "array"
  | .object => "object"

/-- The message for a fault in a text; a place is told by line, column and offset. -/
def ReadFault.message (text : String) : ReadFault → String
  | .malformed what remaining =>
    let offset := text.length - remaining
    let before := text.toList.take offset
    let line := before.count '\n' + 1
    let column := (before.reverse.takeWhile (· != '\n')).length + 1
    s!"{what.text}: line {line} column {column} (char {offset})"
  | .tooDeep container =>
    s!"maximum recursion depth exceeded while decoding a JSON {container.text} from a unicode string"
  | .tooLong digits => Number.readLimitMessage digits

end TemplateWorkbench.Json
