import TemplateWorkbench.Unicode.Character

/-!
# Integers as text

Integers are of any size, but their decimal texts are not: a text of more than `digitLimit` digits
is neither written nor read.  A numeral may have white space around it, a sign, decimal digits of
any script, and single underscores between its digits.  In a base that is not ten a mark such as
`0x` may come first; base zero takes the base from the mark, and then decimal numerals may not
start with a zero.
-/

namespace TemplateWorkbench.Number

/-- The greatest number of decimal digits that is read or written. -/
def digitLimit : Nat := 4300

/-- Why a text is not an integer. -/
inductive NumeralFault where
  | malformed
  | tooLong (digits : Nat)
  | badBase
deriving DecidableEq, Repr

/-- The decimal digits of a natural number. -/
def decimalText (value : Nat) : String := Nat.repr value

/-- The decimal text of an integer. -/
def integerText (value : Int) : String :=
  if value < 0 then "-" ++ decimalText value.natAbs else decimalText value.natAbs

/-- Whether an integer is too long to be written in decimal. -/
def isTooLong (value : Int) : Bool := Nat.pow 10 digitLimit ≤ value.natAbs

theorem isTooLong_eq_false_iff {value : Int} :
    isTooLong value = false ↔ value.natAbs < Nat.pow 10 digitLimit := by
  simp only [isTooLong, decide_eq_false_iff_not, Nat.not_le]

-- The bound has thousands of digits, so it is not to be evaluated where an integer is written.
attribute [irreducible] isTooLong

/-- The decimal text of an integer, unless it is too long. -/
def integerText? (value : Int) : Option String :=
  if isTooLong value then none else some (integerText value)

/-- What is said of a numeral that is too long to be read. -/
def readLimitMessage (digits : Nat) : String :=
  s!"Exceeds the limit ({digitLimit} digits) for integer string conversion: value has {digits} " ++
  "digits; use sys.set_int_max_str_digits() to increase the limit"

/-- What is said of an integer that is too long to be written. -/
def writeLimitMessage : String :=
  s!"Exceeds the limit ({digitLimit} digits) for integer string conversion; " ++
  "use sys.set_int_max_str_digits() to increase the limit"

/-- A character of a numeral with its script taken away: digits become ASCII digits, blanks beyond
ASCII become spaces. -/
def plainCharacter (c : Char) : Char :=
  if c.toNat < 128 then c
  else if Unicode.isBlank c then ' '
  else match Unicode.digitValue? c with
    | some value => Char.ofNat (48 + value)
    | none => c

/-- The blanks that may stand around a numeral. -/
def isNumeralBlank (c : Char) : Bool := c == ' ' || (9 ≤ c.toNat && c.toNat ≤ 13)

/-- The value of an ASCII letter or digit as a digit of some base. -/
def digitOf? (c : Char) : Option Nat :=
  let code := c.toNat
  if 48 ≤ code && code ≤ 57 then some (code - 48)
  else if 97 ≤ code && code ≤ 122 then some (code - 87)
  else if 65 ≤ code && code ≤ 90 then some (code - 55)
  else none

/-- The value of a character as a digit of a given base. -/
def digitBelow? (base : Nat) (c : Char) : Option Nat :=
  (digitOf? c).filter (decide <| · < base)

/-- The digits of a numeral in which underscores stand singly between digits. -/
def digitRun? (base : Nat) : List Char → Option (List Nat)
  | [] => none
  | c :: rest => do
    let digit ← digitBelow? base c
    let others ← after rest
    pure (digit :: others)
where
  /-- What may follow a digit: the end, a digit, or an underscore and a digit. -/
  after : List Char → Option (List Nat)
    | [] => some []
    | '_' :: c :: rest => do pure ((← digitBelow? base c) :: (← after rest))
    | c :: rest => do pure ((← digitBelow? base c) :: (← after rest))

/-- The number with the given digits, the most significant first. -/
def ofDigits (base : Nat) (digits : List Nat) : Nat :=
  digits.foldl (fun value digit => value * base + digit) 0

/-- The sign in front of a numeral, and what follows it. -/
def splitSign : List Char → Bool × List Char
  | '-' :: rest => (true, rest)
  | '+' :: rest => (false, rest)
  | text => (false, text)

/-- The base that a mark such as `0x` announces. -/
def markedBase? : List Char → Option (Nat × List Char)
  | '0' :: mark :: rest =>
    let body := match rest with
      | '_' :: digits => digits
      | digits => digits
    match mark with
    | 'x' | 'X' => some (16, body)
    | 'o' | 'O' => some (8, body)
    | 'b' | 'B' => some (2, body)
    | _ => none
  | _ => none

/-- The value of an unsigned numeral. -/
def readUnsigned (base : Nat) (text : List Char) : Except NumeralFault Nat :=
  let (actual, body) :=
    match markedBase? text with
    | some (marked, rest) => if base = 0 || base = marked then (marked, rest) else (base, text)
    | none => (if base = 0 then 10 else base, text)
  match digitRun? actual body with
  | none => .error .malformed
  | some digits =>
    let powerOfTwo := actual = 2 || actual = 4 || actual = 8 || actual = 16 || actual = 32
    if !powerOfTwo && digits.length > digitLimit then .error (.tooLong digits.length)
    else
      let value := ofDigits actual digits
      if base = 0 && actual = 10 && digits.head? == some 0 && value != 0 then .error .malformed
      else .ok value

/-- The integer that a numeral of the given base denotes. -/
def readInteger (base : Nat) (text : List Char) : Except NumeralFault Int :=
  if base = 1 || base > 36 then .error .badBase
  else
    let body := Unicode.trimBy isNumeralBlank (text.map plainCharacter)
    let (negative, digits) := splitSign body
    (readUnsigned base digits).map fun value => if negative then -(value : Int) else value

end TemplateWorkbench.Number
