/-!
# Double precision numbers

A finite double is its sign and the *rank* of its magnitude: the number of non-negative doubles
below it.  Ranks grow with magnitudes, neighbours have neighbouring ranks, and every magnitude has
exactly one rank, so equality of doubles is equality of data.  The magnitude of a rank is a whole
number of *units* of `2 ^ (-1074)`, the smallest positive double, and exact arithmetic on doubles is
arithmetic on units; only the way back, from an exact ratio to the nearest double, rounds.
-/

namespace TemplateWorkbench

/-- The least natural number that is too large for a machine word with a sign. -/
def Number.wordLimit : Nat := 0x8000000000000000

/-- The rank that would follow that of the greatest finite double. -/
abbrev Double.endRank : Nat := 0x7FF0000000000000

/-- A double: not a number, an infinity, or a finite value by sign and rank. -/
inductive Double where
  | nan
  | infinite (negative : Bool)
  | finite (negative : Bool) (rank : Fin Double.endRank)
deriving DecidableEq, Repr, Inhabited

namespace Double

/-- The number of doubles in one binade. -/
def binade : Nat := 0x10000000000000

/-- One, in units. -/
def unit : Nat := Nat.pow 2 1074

/-- The power of two by which the significand of a rank is scaled, in units. -/
def scaleOf (rank : Nat) : Nat := rank / binade - 1

/-- The significand of a rank; below the first binade it is the rank itself. -/
def significandOf (rank : Nat) : Nat :=
  if rank < binade then rank else binade + rank % binade

/-- The magnitude of a rank, in units. -/
def unitsOf (rank : Nat) : Nat := significandOf rank * Nat.pow 2 (scaleOf rank)

/-- Positive zero. -/
def zero : Double := .finite false ⟨0, by decide⟩

/-- A finite double from its rank; a rank past the end is the infinity. -/
def ofRank (negative : Bool) (rank : Nat) : Double :=
  if h : rank < endRank then .finite negative ⟨rank, h⟩ else .infinite negative

/-- The quotient rounded to the nearest whole number, a tie to the even one. -/
def roundHalfEven (num den : Nat) : Nat :=
  let quotient := num / den
  let rest := num % den
  if 2 * rest > den || (2 * rest == den && quotient % 2 == 1) then quotient + 1 else quotient

/-- The rank nearest to `num / den` units, ties to the even significand. -/
def nearestRank (num den : Nat) : Nat :=
  let whole := num / den
  let scale := Nat.log2 whole - 52
  scale * binade + roundHalfEven num (den * Nat.pow 2 scale)

/-- The double nearest to `num / den` units. -/
def ofUnitRatio (negative : Bool) (num den : Nat) : Double :=
  ofRank negative (nearestRank num den)

/-- The double nearest to a ratio of natural numbers. -/
def ofRatio (negative : Bool) (num den : Nat) : Double :=
  ofUnitRatio negative (num * unit) den

/-- The double nearest to an integer. -/
def ofInt (value : Int) : Double := ofRatio (decide (value < 0)) value.natAbs 1

/-- The double nearest to a whole number of units; `negativeZero` says what a sum of zero is. -/
def ofUnits (units : Int) (negativeZero : Bool) : Double :=
  if units = 0 then .finite negativeZero ⟨0, by decide⟩
  else ofUnitRatio (decide (units < 0)) units.natAbs 1

/-- The signed units of a finite double. -/
def signedUnits (negative : Bool) (rank : Nat) : Int :=
  if negative then -(unitsOf rank : Int) else unitsOf rank

/-- The exact value in units, for a finite double. -/
def units? : Double → Option Int
  | .finite negative rank => some (signedUnits negative rank)
  | _ => none

/-- Whether the double is a number and not an infinity. -/
def isFinite : Double → Bool
  | .finite _ _ => true
  | _ => false

/-- Whether the sign is negative; it is also told for zeros. -/
def isNegative : Double → Bool
  | .nan => false
  | .infinite negative => negative
  | .finite negative _ => negative

/-- Whether the double is one of the two zeros. -/
def isZero : Double → Bool
  | .finite _ rank => rank.val == 0
  | _ => false

/-- The double with the other sign. -/
def neg : Double → Double
  | .nan => .nan
  | .infinite negative => .infinite (!negative)
  | .finite negative rank => .finite (!negative) rank

/-- The double without its sign. -/
def abs : Double → Double
  | .nan => .nan
  | .infinite _ => .infinite false
  | .finite _ rank => .finite false rank

/-- The double with a given sign. -/
def withSign (negative : Bool) (d : Double) : Double :=
  if negative then d.abs.neg else d.abs

/-! ### Comparison -/

/-- The order of two doubles, none if one is not a number; the zeros are equal. -/
def compare? : Double → Double → Option Ordering
  | .nan, _ => none
  | _, .nan => none
  | .infinite a, .infinite b => some (if a = b then .eq else if a then .lt else .gt)
  | .infinite a, .finite _ _ => some (if a then .lt else .gt)
  | .finite _ _, .infinite b => some (if b then .gt else .lt)
  | .finite a x, .finite b y => some (compare (signedUnits a x) (signedUnits b y))

/-- Numerical equality: a value that is not a number equals nothing. -/
def numEq (x y : Double) : Bool := compare? x y == some .eq

/-- The order of an integer and a double. -/
def compareInt? (value : Int) : Double → Option Ordering
  | .nan => none
  | .infinite negative => some (if negative then .gt else .lt)
  | .finite negative rank => some (compare (value * unit) (signedUnits negative rank))

/-! ### Arithmetic -/

/-- The sum. -/
def add : Double → Double → Double
  | .nan, _ => .nan
  | _, .nan => .nan
  | .infinite a, .infinite b => if a = b then .infinite a else .nan
  | .infinite a, .finite _ _ => .infinite a
  | .finite _ _, .infinite b => .infinite b
  | .finite a x, .finite b y => ofUnits (signedUnits a x + signedUnits b y) (a && b)

/-- The difference. -/
def sub (x y : Double) : Double := add x y.neg

/-- The product. -/
def mul : Double → Double → Double
  | .nan, _ => .nan
  | _, .nan => .nan
  | .infinite a, .infinite b => .infinite (a != b)
  | .infinite a, .finite b y => if y.val = 0 then .nan else .infinite (a != b)
  | .finite a x, .infinite b => if x.val = 0 then .nan else .infinite (a != b)
  | .finite a x, .finite b y => ofUnitRatio (a != b) (unitsOf x * unitsOf y) unit

/-- The quotient; a division by zero gives an infinity, or no number for `0 / 0`. -/
def div : Double → Double → Double
  | .nan, _ => .nan
  | _, .nan => .nan
  | .infinite _, .infinite _ => .nan
  | .infinite a, .finite b _ => .infinite (a != b)
  | .finite a _, .infinite b => .finite (a != b) ⟨0, by decide⟩
  | .finite a x, .finite b y =>
    if y.val = 0 then (if x.val = 0 then .nan else .infinite (a != b))
    else ofRatio (a != b) (unitsOf x) (unitsOf y)

/-- The remainder of the division that truncates, which is always exact. -/
def truncMod : Double → Double → Double
  | .nan, _ => .nan
  | _, .nan => .nan
  | .infinite _, _ => .nan
  | .finite a x, .infinite _ => .finite a x
  | .finite a x, .finite _ y =>
    if y.val = 0 then .nan
    else withSign a (ofUnitRatio false (unitsOf x % unitsOf y) 1)

/-! ### Whole numbers -/

/-- The integer part of a finite double. -/
def truncate? (d : Double) : Option Int := d.units?.map (Int.tdiv · unit)

/-- The greatest integer that is not above a finite double. -/
def floor? (d : Double) : Option Int := d.units?.map (Int.fdiv · unit)

/-- The least integer that is not below a finite double. -/
def ceil? (d : Double) : Option Int := d.units?.map fun units => -Int.fdiv (-units) unit

/-- The integer nearest to a finite double, a tie going to the even one. -/
def roundEven? (d : Double) : Option Int := d.units?.map fun units =>
  let size : Int := roundHalfEven units.natAbs unit
  if units < 0 then -size else size

/-- The greatest whole double that is not above the double. -/
def floor (d : Double) : Double :=
  match d.floor? with
  | some value => withSign d.isNegative (ofInt value)
  | none => d

/-- Whether the double is a whole number. -/
def isWhole (d : Double) : Bool := d.units?.any fun units => units.natAbs % unit == 0

/-! ### Bits -/

/-- The sixty-four bits of the interchange format. -/
def toBits : Double → UInt64
  | .nan => 0x7FF8000000000000
  | .infinite negative => if negative then 0xFFF0000000000000 else 0x7FF0000000000000
  | .finite negative rank =>
    (if negative then 0x8000000000000000 else 0) + UInt64.ofNat rank.val

/-- The double with the given bits. -/
def ofBits (bits : UInt64) : Double :=
  let negative := bits.toNat ≥ Number.wordLimit
  let rank := bits.toNat % Number.wordLimit
  if rank > endRank then .nan else ofRank negative rank

/-- The power, as the machine computes it. -/
def pow (x y : Double) : Double :=
  ofBits (Float.pow (Float.ofBits x.toBits) (Float.ofBits y.toBits)).toBits

end Double

end TemplateWorkbench
