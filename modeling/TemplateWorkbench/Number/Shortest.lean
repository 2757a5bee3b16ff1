import TemplateWorkbench.Number.Double

/-!
# Decimals of doubles

A double is written with the fewest digits that tell it, or with as many as are asked for.
-/

namespace TemplateWorkbench.Number

/-!
## The shortest decimal

Among the decimals that read back as a given double, the shortest ones are those with the fewest
significant digits, and of these the one nearest to the double is its text.  The decimals that read
back are those of an interval around the double: it reaches half way to both neighbours and holds
its ends if the double's significand is even.  For one digit, two digits and so on, up to seventeen,
the search looks at the two decimals with that many digits which enclose the double; the first
number of digits at which one of them lies in the interval wins.

All quantities are whole numbers of quarter units, so that half way to a neighbour is whole too.
-/

/-- A positive decimal, `digits * 10 ^ exponent`. -/
structure Decimal where
  digits : Nat
  exponent : Int
deriving DecidableEq, Repr, Inhabited

/-- A positive ratio times a power of ten, as numerator and denominator. -/
def scaleTen (num den : Nat) (exponent : Int) : Nat × Nat :=
  if exponent < 0 then (num, den * Nat.pow 10 exponent.natAbs)
  else (num * Nat.pow 10 exponent.natAbs, den)

/-- The reals that read back as one double, in quarter units. -/
structure Interval where
  low : Nat
  high : Nat
  closed : Bool

/-- The interval of a positive rank. -/
def Interval.ofRank (rank : Nat) : Interval where
  low := 2 * (Double.unitsOf (rank - 1) + Double.unitsOf rank)
  high := 2 * (Double.unitsOf rank + Double.unitsOf (rank + 1))
  closed := rank % 2 == 0

/-- Whether `num / den` lies in the interval. -/
def Interval.holds (interval : Interval) (num den : Nat) : Bool :=
  if interval.closed then interval.low * den ≤ num && num ≤ interval.high * den
  else interval.low * den < num && num < interval.high * den

/-- The decimal exponent of the leading digit of `num / den`, found from an estimate that is at most
one too small. -/
def leadingExponent (num den : Nat) : Int :=
  let bits : Int := Nat.log2 num - Nat.log2 den
  let estimate := Int.fdiv ((bits - 1) * 30103) 100000
  adjust 3 estimate
where
  /-- Steps up while the next power of ten is not above the ratio. -/
  adjust : Nat → Int → Int
    | 0, exponent => exponent
    | fuel + 1, exponent =>
      let (top, bottom) := scaleTen num den (-(exponent + 1))
      if bottom ≤ top then adjust fuel (exponent + 1) else exponent

/-- The decimal of `count` digits that reads back as the double of `rank`, if there is one; of two
the nearer, and of two equally near the even one. -/
def decimalOf? (rank count : Nat) : Option Decimal :=
  let quarters := 4 * Double.unitsOf rank
  let one := 4 * Double.unit
  let exponent := leadingExponent quarters one - (count - 1 : Nat)
  let (num, den) := scaleTen quarters one (-exponent)
  let interval := Interval.ofRank rank
  let below := num / den
  let reads (digits : Nat) : Bool :=
    let (top, bottom) := scaleTen (digits * one) 1 exponent
    decide (0 < digits) && interval.holds top bottom
  let upper := below + 1
  match reads below, reads upper with
  | true, true =>
    let rest := num % den
    if 2 * rest < den || (2 * rest == den && below % 2 == 0) then some ⟨below, exponent⟩
    else some ⟨upper, exponent⟩
  | true, false => some ⟨below, exponent⟩
  | false, true => some ⟨upper, exponent⟩
  | false, false => none

/-- The shortest decimal that reads back as the double of a positive rank. -/
def shortest (rank : Nat) : Decimal :=
  ((List.range 17).findSome? fun count => decimalOf? rank (count + 1)).getD ⟨0, 0⟩

/-- The digits of a decimal without trailing zeros, and the exponent of its leading digit. -/
def Decimal.scientific (decimal : Decimal) : List Char × Int :=
  let digits := (toString decimal.digits).toList
  let trimmed := (digits.reverse.dropWhile (· == '0')).reverse
  (trimmed, decimal.exponent + (digits.length - 1 : Nat))

/-- How the text of a double is laid out: the exponents of the leading digit that are written
without an exponent run from `positionalFrom` up to, and without, `positionalBefore`. -/
structure DoubleText where
  positionalFrom : Int
  positionalBefore : Int
  notANumber : String
  infinity : String

/-- Digits around a decimal point, with a zero on a side that would be empty. -/
def pointed (digits : List Char) (leading : Int) : List Char :=
  if leading < 0 then
    "0.".toList ++ List.replicate (leading.natAbs - 1) '0' ++ digits
  else
    let whole := leading.toNat + 1
    let front := digits.take whole ++ List.replicate (whole - digits.length) '0'
    let back := digits.drop whole
    front ++ '.' :: (if back.isEmpty then ['0'] else back)

/-- An exponent with its sign and at least two digits. -/
def exponentText (exponent : Int) : List Char :=
  let digits := (toString exponent.natAbs).toList
  (if exponent < 0 then '-' else '+') ::
    (List.replicate (2 - digits.length) '0' ++ digits)

/-- The text of a double under a layout. -/
def DoubleText.write (layout : DoubleText) : Double → String
  | .nan => layout.notANumber
  | .infinite negative => (if negative then "-" else "") ++ layout.infinity
  | .finite negative rank =>
    let sign := if negative then "-" else ""
    if rank.val = 0 then sign ++ "0.0"
    else
      let (digits, leading) := (shortest rank.val).scientific
      if layout.positionalFrom ≤ leading && leading < layout.positionalBefore then
        sign ++ String.ofList (pointed digits leading)
      else
        let rest := digits.drop 1
        sign ++ String.ofList (digits.take 1 ++ (if rest.isEmpty then [] else '.' :: rest) ++
          'e' :: exponentText leading)

/-- Doubles as values print: `1.0`, `1e+16`, `1e-05`, `nan`, `inf`. -/
def plainDouble : DoubleText := ⟨-4, 16, "nan", "inf"⟩

/-- Doubles as they stand in a JSON text. -/
def jsonDouble : DoubleText := ⟨-4, 16, "NaN", "Infinity"⟩

/-!
## A given number of places

A double written with a given number of digits: after the point, after the leading digit, or in all.
The exact value is rounded once, a tie going to the even digit.
-/

/-- The digits of a number, at least `count` of them. -/
def digitsOf (count number : Nat) : List Char :=
  let digits := (decimalDigits number)
  List.replicate (count - digits.length) '0' ++ digits
where
  /-- The decimal digits of a number. -/
  decimalDigits (number : Nat) : List Char := (Nat.repr number).toList

/-- A point and the digits after it, unless there are none and no point is asked for. -/
def fractionText (point : Bool) (digits : List Char) : List Char :=
  if digits.isEmpty && !point then [] else '.' :: digits

/-- A magnitude in units with `places` digits after the point. -/
def fixedMagnitude (point : Bool) (places units : Nat) : List Char :=
  let scaled := Double.roundHalfEven (units * Nat.pow 10 places) Double.unit
  let digits := digitsOf (places + 1) scaled
  let whole := digits.length - places
  digits.take whole ++ fractionText point (digits.drop whole)

/-- The digits of a positive magnitude in units, one before and `places` after the point, and the
exponent of the leading one. -/
def scientificDigits (places units : Nat) : List Char × Int :=
  if units = 0 then (digitsOf (places + 1) 0, 0)
  else
    let exponent := leadingExponent units Double.unit
    let (num, den) := scaleTen units Double.unit (places - exponent)
    let digits := digitsOf (places + 1) (Double.roundHalfEven num den)
    if digits.length = places + 1 then (digits, exponent)
    else (digits.take (places + 1), exponent + 1)

/-- A magnitude in units with an exponent, and `places` digits after the point. -/
def scientificMagnitude (point : Bool) (mark : Char) (places units : Nat) : List Char :=
  let (digits, exponent) := scientificDigits places units
  digits.take 1 ++ fractionText point (digits.drop 1) ++ mark :: exponentText exponent

/-- A text with a point in it, without the zeros at its end. -/
def dropZeros (text : List Char) : List Char :=
  if text.contains '.' then
    let trimmed := (text.reverse.dropWhile (· == '0')).reverse
    if trimmed.getLast? = some '.' then trimmed.dropLast else trimmed
  else text

/-- A magnitude in units with `count` digits in all, with an exponent if it is very large or very
small. -/
def generalMagnitude (keepZeros : Bool) (mark : Char) (count units : Nat) : List Char :=
  let count := max count 1
  let exponent := (scientificDigits (count - 1) units).2
  let trim (text : List Char) : List Char := if keepZeros then text else dropZeros text
  if -4 ≤ exponent && exponent < count then
    trim (fixedMagnitude keepZeros (count - 1 - exponent).toNat units)
  else
    let (digits, exponent) := scientificDigits (count - 1) units
    trim (digits.take 1 ++ fractionText keepZeros (digits.drop 1)) ++
      mark :: exponentText exponent

/-- The double with its magnitude written in a given way. -/
def writeMagnitude (write : Nat → List Char) : Double → List Char
  | .nan => "nan".toList
  | .infinite negative => (if negative then ['-'] else []) ++ "inf".toList
  | .finite negative rank =>
    (if negative then ['-'] else []) ++ write (Double.unitsOf rank.val)

/-- A double with a given number of digits after the point. -/
def fixedText (places : Nat) (value : Double) : String :=
  String.ofList (writeMagnitude (fixedMagnitude false places) value)

/-- The double nearest to a double that has been rounded to a number of decimal places, which may be
negative. -/
def roundPlaces (places : Int) : Double → Double
  | .finite negative rank =>
    let (num, den) := scaleTen (Double.unitsOf rank.val) Double.unit places
    let (num, den) := scaleTen (Double.roundHalfEven num den) 1 (-places)
    if places > 1100 then .finite negative rank
    else Double.withSign negative (Double.ofRatio false num den)
  | other => other

end TemplateWorkbench.Number
