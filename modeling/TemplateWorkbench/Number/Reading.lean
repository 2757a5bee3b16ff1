import TemplateWorkbench.Number.Double
import TemplateWorkbench.Number.Integer

/-!
# Reading doubles

A decimal text denotes an exact ratio, and the double it is read as is the one nearest to it.  Very
large and very small exponents are settled by the place of the leading digit, before any power of
ten is formed.
-/

namespace TemplateWorkbench.Number

/-- The double nearest to `digits * 10 ^ exponent`, where `digits` has `count` decimal digits. -/
def doubleOfDecimal (negative : Bool) (digits count : Nat) (exponent : Int) : Double :=
  if digits = 0 then Double.withSign negative .zero
  else if exponent + count > 400 then .infinite negative
  else if exponent + count < -400 then Double.withSign negative .zero
  else if exponent < 0 then Double.ofRatio negative digits (Nat.pow 10 exponent.natAbs)
  else Double.ofRatio negative (digits * Nat.pow 10 exponent.natAbs) 1

/-- A decimal numeral taken apart: the digits before and after the point, and the exponent. -/
structure DecimalNumeral where
  whole : List Nat
  fraction : List Nat
  exponent : Int

/-- The double nearest to a decimal numeral. -/
def DecimalNumeral.toDouble (numeral : DecimalNumeral) (negative : Bool) : Double :=
  let digits := numeral.whole ++ numeral.fraction
  let significant := digits.dropWhile (· == 0)
  doubleOfDecimal negative (ofDigits 10 digits) significant.length
    (numeral.exponent - numeral.fraction.length)

/-- The leading characters that are ASCII digits or underscores, and the rest. -/
def spanDigits (text : List Char) : List Char × List Char :=
  (text.takeWhile isDigitOrBar, text.dropWhile isDigitOrBar)
where
  /-- Whether a character may stand in a run of digits. -/
  isDigitOrBar (c : Char) : Bool := c.isDigit || c == '_'

/-- The digits of a run that may be empty. -/
def optionalRun? (text : List Char) : Option (List Nat) :=
  if text.isEmpty then some [] else digitRun? 10 text

/-- The parts of an unsigned decimal numeral: digits with a point somewhere, at least one digit, and
an exponent that may be missing. -/
def decimalNumeral? (text : List Char) : Option DecimalNumeral := do
  let (front, afterFront) := spanDigits text
  let whole ← optionalRun? front
  let (fraction, afterFraction) ←
    match afterFront with
    | '.' :: rest => do
      let (back, others) := spanDigits rest
      pure (← optionalRun? back, others)
    | rest => some ([], rest)
  if whole.isEmpty && fraction.isEmpty then none
  else match afterFraction with
    | [] => some ⟨whole, fraction, 0⟩
    | mark :: rest =>
      if mark == 'e' || mark == 'E' then do
        let (negative, digits) := splitSign rest
        let size := ofDigits 10 (← digitRun? 10 digits)
        some ⟨whole, fraction, if negative then -(size : Int) else size⟩
      else none

/-- The double that a text denotes: a decimal numeral, an infinity, or no number, with a sign and
with white space around it. -/
def readDouble? (text : List Char) : Option Double :=
  let body := Unicode.trimBy isNumeralBlank (text.map plainCharacter)
  let (negative, digits) := splitSign body
  let word := String.ofList (digits.map Char.toLower)
  if word = "inf" || word = "infinity" then some (.infinite negative)
  else if word = "nan" then some .nan
  else (decimalNumeral? digits).map (·.toDouble negative)

end TemplateWorkbench.Number
