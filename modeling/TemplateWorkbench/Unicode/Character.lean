/-!
# Characters

Tables of characters, and the characters that separate words and stand for digits.
-/

namespace TemplateWorkbench.Unicode

/-!
## Bands of characters

A property of characters is kept as an ascending table of bands.  A band runs from its first code
point to its last in equal steps, so that alternating letters, such as capitals between small
letters, need one entry.  Bands of one table do not overlap, hence the only band that can hold a
code point is the last one that starts no later, and a binary search finds it.
-/

/-- The code points `first`, `first + step`, … up to `last`. -/
structure Band where
  first : Nat
  last : Nat
  step : Nat

/-- Whether a code point lies on the band. -/
def Band.holds (band : Band) (code : Nat) : Bool :=
  decide (band.first ≤ code) && decide (code ≤ band.last) &&
    (code - band.first) % band.step == 0

/-- A band of characters that are all mapped by the same distance. -/
structure Shift where
  band : Band
  distance : Int

/-- The last entry whose key is at most `code`, in a table with ascending keys. -/
def lastUpTo {α : Type} (key : α → Nat) (table : Array α) (code : Nat) : Option α :=
  search 0 table.size none
where
  /-- Everything before `low` has a key at most `code`, everything from `high` on a larger one. -/
  search (low high : Nat) (best : Option α) : Option α :=
    if low < high then
      let middle := (low + high) / 2
      match table[middle]? with
      | none => best
      | some entry =>
        if key entry ≤ code then search (middle + 1) high (some entry)
        else search low middle best
    else best
  termination_by high - low

/-- Whether some band of the table holds the character. -/
def Bands.contains (table : Array Band) (c : Char) : Bool :=
  (lastUpTo Band.first table c.toNat).any (·.holds c.toNat)

/-- The image of a character under a table of shifts, if the table moves it. -/
def Shifts.image? (table : Array Shift) (c : Char) : Option Char :=
  match lastUpTo (·.band.first) table c.toNat with
  | some shift =>
    if shift.band.holds c.toNat then some (Char.ofNat (c.toNat + shift.distance).toNat) else none
  | none => none

/-!
## Blank characters and decimal digits

The characters that separate words are the separators of the Unicode character database, together
with the ASCII controls for tabulation, line ends and the four information separators.

Every script with positional numerals encodes its ten digits in a row, so the table of digits needs only the
places of the zeros.  Other characters stand for a digit too, such as those in circles, but not as a
part of a number.  The tables follow version 14 of the Unicode character database.
-/

/-- Whether a character is white space. -/
def isBlank (c : Char) : Bool :=
  let code := c.toNat
  (9 ≤ code && code ≤ 13) || (28 ≤ code && code ≤ 32) || code == 0x85 || code == 0xA0 ||
    code == 0x1680 || (0x2000 ≤ code && code ≤ 0x200A) || code == 0x2028 || code == 0x2029 ||
    code == 0x202F || code == 0x205F || code == 0x3000

/-- The text without the leading characters of a class. -/
def dropLeading (p : Char → Bool) (text : List Char) : List Char := text.dropWhile p

/-- The text without the trailing characters of a class. -/
def dropTrailing (p : Char → Bool) (text : List Char) : List Char :=
  (text.reverse.dropWhile p).reverse

/-- The text without the characters of a class at either end. -/
def trimBy (p : Char → Bool) (text : List Char) : List Char := dropTrailing p (dropLeading p text)

/-- The text without white space at either end. -/
def trim (text : String) : String := String.ofList (trimBy isBlank text.toList)

/-- The zeros of all scripts, in ascending order. -/
def digitZeros : Array Nat := #[
  48, 1632, 1776, 1984, 2406, 2534, 2662, 2790, 2918, 3046, 3174, 3302, 3430, 3558, 3664, 3792,
  3872, 4160, 4240, 6112, 6160, 6470, 6608, 6784, 6800, 6992, 7088, 7232, 7248, 42528, 43216,
  43264, 43472, 43504, 43600, 44016, 65296, 66720, 68912, 69734, 69872, 69942, 70096, 70384,
  70736, 70864, 71248, 71360, 71472, 71904, 72016, 72784, 73040, 73120, 92768, 92864, 93008,
  120782, 120792, 120802, 120812, 120822, 123200, 123632, 125264, 130032]

/-- The value of a decimal digit of any script. -/
def digitValue? (c : Char) : Option Nat :=
  (digitZeros.find? fun first => first ≤ c.toNat && c.toNat < first + 10).map (c.toNat - ·)

/-- Whether a character is a decimal digit of some script. -/
def isDigit (c : Char) : Bool := (digitValue? c).isSome

/-- The characters for digits that numbers are not written with, as first and last code points. -/
def loneDigits : List (Nat × Nat) := [
  (178, 179), (185, 185), (4969, 4977), (6618, 6618), (8304, 8304), (8308, 8313), (8320, 8329),
  (9312, 9320), (9332, 9340), (9352, 9360), (9450, 9450), (9461, 9469), (9471, 9471),
  (10102, 10110), (10112, 10120), (10122, 10130), (68160, 68163), (69216, 69224), (69714, 69722),
  (127232, 127242)]

/-- Whether a character stands for a digit, if only on its own. -/
def isDigitLike (c : Char) : Bool :=
  isDigit c || loneDigits.any fun (first, last) => first ≤ c.toNat && c.toNat ≤ last

end TemplateWorkbench.Unicode
