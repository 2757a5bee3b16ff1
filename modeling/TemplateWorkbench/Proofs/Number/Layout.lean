import Mathlib.Data.List.TakeWhile
import TemplateWorkbench.Proofs.Number.Digits
import TemplateWorkbench.Proofs.Number.Shortest

/-!
# How a decimal is laid out and read

A decimal numeral that lies in the interval of a rank is read as the double of the rank, however many
zeros stand before or after its digits.  Its leading digit is so far from the greatest and the least
exponents that none of the reader's shortcuts is taken.

The digits of a decimal are written without the zeros at their end, and around a point or with an exponent
as the leading digit asks for.  Either way the digits that stand there, taken together with the place of
the point and the exponent, have the value of the decimal.
-/

/-! ## Numerals are read as their doubles -/

namespace TemplateWorkbench.Number

open Double

attribute [local irreducible] Double.unit

variable {rank : Nat}

/-- Half the least double, in units, is not above what is rounded to a positive rank, and what is rounded
to a finite double is not above the end of the ranks. -/
theorem encloses_bounds {units : ℚ} (hpositive : 0 < rank) (hrank : rank < endRank)
    (hencloses : Encloses rank units) : 1 ≤ 2 * units ∧ units ≤ unitsOf endRank := by
  have hself := strictMono_unitsOf hpositive
  have hlast := strictMono_unitsOf.monotone hrank.le
  have hnext := strictMono_unitsOf.monotone (show rank + 1 ≤ endRank from hrank)
  have hstart : 1 ≤ unitsOf (rank - 1) + unitsOf rank := by omega
  have hend : unitsOf rank + unitsOf (rank + 1) ≤ 2 * unitsOf endRank := by omega
  have hstartCast : (1 : ℚ) ≤ unitsOf (rank - 1) + unitsOf rank := by exact_mod_cast hstart
  have hendCast : (unitsOf rank + unitsOf (rank + 1) : ℚ) ≤ 2 * unitsOf endRank := by
    exact_mod_cast hend
  have hlow := hencloses.low
  have hhigh := hencloses.high
  exact ⟨by linarith, by linarith⟩

/-- What is rounded to a positive finite double is neither too large nor too small for the reader. -/
theorem value_bounds {value : ℚ} (hpositive : 0 < rank) (hrank : rank < endRank)
    (hencloses : Encloses rank (value * unit)) :
    (10 : ℚ) ^ (-324 : Int) < value ∧ value < 10 ^ (309 : Int) := by
  obtain ⟨hlow, hhigh⟩ := encloses_bounds hpositive hrank hencloses
  have hunitPos : (0 : ℚ) < unit := by exact_mod_cast unit_pos
  have hsmall : 2 * unit < 10 ^ 324 := by decide +kernel
  have hlarge : unitsOf endRank < 10 ^ 309 * unit := by decide +kernel
  have hsmallCast : (2 * unit : ℚ) < (10 ^ 324 : Nat) := by exact_mod_cast hsmall
  have hlargeCast : (unitsOf endRank : ℚ) < (10 ^ 309 : Nat) * unit := by exact_mod_cast hlarge
  have hlowPow : (10 : ℚ) ^ (-324 : Int) = 1 / (10 ^ 324 : Nat) := ten_zpow_neg 324
  have hhighPow : (10 : ℚ) ^ (309 : Int) = (10 ^ 309 : Nat) := ten_zpow 309
  rw [hlowPow, hhighPow]
  constructor
  · have hvalue : 0 < value := by
      by_contra hnot
      have hproduct : value * unit ≤ 0 := mul_nonpos_of_nonpos_of_nonneg (not_lt.mp hnot) hunitPos.le
      linarith
    rw [div_lt_iff₀ (by positivity)]
    calc 1 ≤ 2 * (value * unit) := hlow
      _ = value * (2 * unit) := by ring
      _ < value * (10 ^ 324 : Nat) := mul_lt_mul_of_pos_left hsmallCast hvalue
  · exact lt_of_mul_lt_mul_right (hhigh.trans_lt hlargeCast) hunitPos.le

/-- The exponent of the leading digit of a decimal is told by the value. -/
theorem leading_bounds {digits count : Nat} {exponent : Int} (hpositive : 0 < rank) (hrank : rank < endRank)
    (hlow : 10 ^ (count - 1) ≤ digits) (hhigh : digits < 10 ^ count)
    (hencloses : Encloses rank (digits * 10 ^ exponent * unit)) :
    -324 < exponent + count ∧ exponent + (count - 1 : Nat) < 309 := by
  obtain ⟨habove, hbelow⟩ := value_bounds hpositive hrank hencloses
  have hscale : (0 : ℚ) < 10 ^ exponent := by positivity
  constructor
  · have hlt : (10 : ℚ) ^ (-324 : Int) < 10 ^ (exponent + count) := by
      rw [zpow_add₀ (by norm_num), mul_comm, zpow_natCast]
      exact habove.trans (mul_lt_mul_of_pos_right (by exact_mod_cast hhigh) hscale)
    exact (zpow_lt_zpow_iff_right₀ (by norm_num)).mp hlt
  · have hlt : (10 : ℚ) ^ (exponent + (count - 1 : Nat)) < 10 ^ (309 : Int) := by
      rw [zpow_add₀ (by norm_num), mul_comm, zpow_natCast]
      exact lt_of_le_of_lt (mul_le_mul_of_nonneg_right (by exact_mod_cast hlow) hscale.le) hbelow
    exact (zpow_lt_zpow_iff_right₀ (by norm_num)).mp hlt

/-- A ratio whose value is in the interval of a rank is rounded to the double of the rank. -/
theorem ofRatio_of_encloses {num den : Nat} {value : ℚ} (negative : Bool) (hrank : rank < endRank)
    (hden : 0 < den) (hvalue : (num / den : ℚ) = value) (hencloses : Encloses rank (value * unit)) :
    ofRatio negative num den = .finite negative ⟨rank, hrank⟩ := by
  have hunits : ((num * unit : Nat) / den : ℚ) = value * unit := by
    rw [← hvalue]
    push_cast
    ring
  rw [← hunits] at hencloses
  rw [ofRatio, ofUnitRatio, nearestRank_of_holds hden ((holds_iff_encloses hden).mpr hencloses), ofRank,
    dif_pos hrank]

/-- A decimal in the interval of a rank is read as the double of the rank. -/
theorem doubleOfDecimal_of_encloses {digits count : Nat} {exponent : Int} (negative : Bool)
    (hpositive : 0 < rank) (hrank : rank < endRank) (hlow : 10 ^ (count - 1) ≤ digits)
    (hhigh : digits < 10 ^ count) (hcount : 0 < count)
    (hencloses : Encloses rank (digits * 10 ^ exponent * unit)) :
    doubleOfDecimal negative digits count exponent = .finite negative ⟨rank, hrank⟩ := by
  obtain ⟨hleast, hgreatest⟩ := leading_bounds hpositive hrank hlow hhigh hencloses
  have hdigits : digits ≠ 0 := by
    have hpow : 0 < 10 ^ (count - 1) := Nat.pow_pos (by decide)
    omega
  rw [doubleOfDecimal, if_neg hdigits, if_neg (by omega), if_neg (by omega)]
  split
  · next hnegative =>
      obtain ⟨size, rfl⟩ : ∃ size : Nat, exponent = -size := ⟨exponent.natAbs, by omega⟩
      refine ofRatio_of_encloses negative hrank (Nat.pow_pos (by decide)) ?_ hencloses
      rw [Int.natAbs_neg, Int.natAbs_natCast, ten_zpow_neg, mul_one_div]
      rfl
  · next hnonnegative =>
      obtain ⟨size, rfl⟩ := Int.eq_ofNat_of_zero_le (Int.not_lt.mp hnonnegative)
      refine ofRatio_of_encloses negative hrank Nat.one_pos ?_ hencloses
      rw [Int.natAbs_natCast, ten_zpow, Nat.cast_mul, Nat.cast_one, div_one]
      rfl

/-- The value of a decimal numeral. -/
def DecimalNumeral.value (numeral : DecimalNumeral) : ℚ :=
  ofDigits 10 (numeral.whole ++ numeral.fraction) *
    10 ^ (numeral.exponent - numeral.fraction.length)

/-- A numeral in the interval of a rank is read as the double of the rank. -/
theorem DecimalNumeral.toDouble_of_encloses {numeral : DecimalNumeral} (negative : Bool)
    (hpositive : 0 < rank) (hrank : rank < endRank)
    (hdigits : ∀ digit ∈ numeral.whole ++ numeral.fraction, digit < 10)
    (hnumeral : 0 < ofDigits 10 (numeral.whole ++ numeral.fraction))
    (hencloses : Encloses rank (numeral.value * unit)) :
    numeral.toDouble negative = .finite negative ⟨rank, hrank⟩ := by
  obtain ⟨hcount, hlow, hhigh⟩ := dropWhile_zero_spec hdigits hnumeral
  exact doubleOfDecimal_of_encloses negative hpositive hrank hlow hhigh hcount hencloses

end TemplateWorkbench.Number

/-! ## Layout -/

namespace TemplateWorkbench.Number

variable {digits : List Char} {leading : Int}

/-! ### Digits without zeros at their end -/

/-- Digits of a positive number: they do not begin with a zero. -/
structure AreLeading (digits : List Char) : Prop where
  ne_nil : digits ≠ []
  isDigit : ∀ c ∈ digits, c.isDigit = true
  head : digits.head? ≠ some '0'

/-- The number that decimal digits make. -/
def numberOf (digits : List Char) : Nat := ofDigits 10 (digits.map digitValue)

theorem numberOf_append (digits others : List Char) :
    numberOf (digits ++ others) = numberOf digits * 10 ^ others.length + numberOf others := by
  rw [numberOf, List.map_append, ofDigits_append, List.length_map]
  rfl

theorem numberOf_zeros (count : Nat) : numberOf (List.replicate count '0') = 0 := by
  rw [numberOf, List.map_replicate]
  exact ofDigits_replicate_zero 10 count

/-- Zeros in front of digits do not matter. -/
theorem numberOf_zeros_append (count : Nat) (digits : List Char) :
    numberOf (List.replicate count '0' ++ digits) = numberOf digits := by
  rw [numberOf_append, numberOf_zeros, Nat.zero_mul, Nat.zero_add]

/-- Zeros behind digits are powers of ten. -/
theorem numberOf_append_zeros (digits : List Char) (count : Nat) :
    numberOf (digits ++ List.replicate count '0') = numberOf digits * 10 ^ count := by
  rw [numberOf_append, numberOf_zeros, List.length_replicate, Nat.add_zero]

theorem AreLeading.numberOf_pos (hleading : AreLeading digits) : 0 < numberOf digits := by
  obtain ⟨hne, hdigit, hhead⟩ := hleading
  cases digits with
  | nil => exact absurd rfl hne
  | cons first rest =>
      have hfirst : 0 < digitValue first := by
        have hdigitFirst := hdigit first List.mem_cons_self
        simp only [Char.isDigit, Bool.and_eq_true, decide_eq_true_eq] at hdigitFirst
        have hle : 48 ≤ first.toNat := hdigitFirst.1
        have hne48 : first.toNat ≠ 48 := by
          intro heq
          have hzero : first = '0' := Char.toNat_inj.mp heq
          exact hhead (by rw [hzero]; rfl)
        unfold digitValue
        omega
      have hpow : Nat.pow 10 (rest.map digitValue).length ≤
          ofDigits 10 (digitValue first :: rest.map digitValue) := pow_le_ofDigits hfirst _
      exact Nat.lt_of_lt_of_le (Nat.pow_pos (by decide)) hpow

/-- Digits are what is left of them without the zeros at their end, and the zeros. -/
theorem exists_zeros (digits : List Char) : ∃ count,
    digits = (digits.reverse.dropWhile (· == '0')).reverse ++ List.replicate count '0' := by
  refine ⟨(digits.reverse.takeWhile (· == '0')).length, ?_⟩
  have hzeros : digits.reverse.takeWhile (· == '0') =
      List.replicate (digits.reverse.takeWhile (· == '0')).length '0' :=
    List.eq_replicate_of_mem fun c hc => by simpa using List.mem_takeWhile_imp hc
  have hsplit := List.takeWhile_append_dropWhile (p := (· == '0')) (l := digits.reverse)
  calc digits = digits.reverse.reverse := (List.reverse_reverse digits).symm
    _ = (digits.reverse.takeWhile (· == '0') ++ digits.reverse.dropWhile (· == '0')).reverse := by
      rw [hsplit]
    _ = _ := by
      rw [List.reverse_append]
      conv_lhs => rw [hzeros, List.reverse_replicate]

/-- The digits of a decimal and the exponent of the leading one have the value of the decimal. -/
theorem scientific_spec {decimal : Decimal} (hpositive : 0 < decimal.digits) :
    AreLeading decimal.scientific.1 ∧ decimal.value = numberOf decimal.scientific.1 *
      10 ^ (decimal.scientific.2 - (decimal.scientific.1.length - 1 : Nat)) := by
  have htext : (toString decimal.digits).toList = Nat.toDigits 10 decimal.digits := by
    rw [Nat.toString_eq_ofList_toDigits, String.toList_ofList]
  -- The zeros at the end are left out, and their number moves into the exponent.
  obtain ⟨count, hzeros⟩ := exists_zeros (Nat.toDigits 10 decimal.digits)
  simp only [Decimal.scientific, htext]
  set trimmed := ((Nat.toDigits 10 decimal.digits).reverse.dropWhile (· == '0')).reverse with htrimmed
  have hnumber : decimal.digits = numberOf trimmed * 10 ^ count := by
    calc decimal.digits = numberOf (Nat.toDigits 10 decimal.digits) :=
          (ofDigits_toDigits decimal.digits).symm
      _ = numberOf trimmed * 10 ^ count := by rw [hzeros, numberOf_append_zeros]
  have hhead := head?_toDigits hpositive
  have hne : trimmed ≠ [] := by
    intro hnil
    rw [hnil] at hnumber
    have hzero : numberOf [] = 0 := rfl
    rw [hzero, Nat.zero_mul] at hnumber
    omega
  have hlength : (Nat.toDigits 10 decimal.digits).length = trimmed.length + count := by
    rw [hzeros, List.length_append, List.length_replicate]
  have hpositiveLength : 0 < trimmed.length := List.length_pos_iff.mpr hne
  have hmem : ∀ c ∈ trimmed, c ∈ Nat.toDigits 10 decimal.digits := fun c hc =>
    hzeros ▸ List.mem_append_left _ hc
  refine ⟨⟨hne, fun c hc => isDigit_toDigits (hmem c hc), ?_⟩, ?_⟩
  · rw [hzeros, List.head?_append_of_ne_nil _ hne] at hhead
    exact hhead
  · have hexponent : decimal.exponent + ((Nat.toDigits 10 decimal.digits).length - 1 : Nat) -
        (trimmed.length - 1 : Nat) = decimal.exponent + count := by omega
    rw [hexponent, Decimal.value, zpow_add₀ (by norm_num), zpow_natCast]
    conv_lhs => rw [hnumber]
    push_cast
    ring

/-! ### Around a point -/

/-- The value of digits around a point. -/
def pointedValue (whole fraction : List Char) : ℚ :=
  numberOf (whole ++ fraction) * 10 ^ (-(fraction.length : Int))

/-- Digits that a reader takes as the whole part of a number: a zero alone, or digits that do not begin
with a zero. -/
def IsWhole (digits : List Char) : Prop :=
  digits ≠ [] ∧ (∀ c ∈ digits, c.isDigit = true) ∧ (digits = ['0'] ∨ digits.head? ≠ some '0')

/-- Digits and the exponent of the first one are laid out around a point: both parts can be read, and
together they have the same value. -/
structure LaidOut (digits : List Char) (leading : Int) (whole fraction : List Char) : Prop where
  isWhole : IsWhole whole
  notEmpty : fraction ≠ []
  areDigits : ∀ c ∈ fraction, c.isDigit = true
  positive : 0 < numberOf (whole ++ fraction)
  value : pointedValue whole fraction = numberOf digits * 10 ^ (leading - (digits.length - 1 : Nat))

theorem isDigit_of_mem_zeros {count : Nat} {c : Char} (hc : c ∈ List.replicate count '0') :
    c.isDigit = true := by
  rw [List.eq_of_mem_replicate hc]
  rfl

/-- Zeros can stand between the point and the digits. -/
theorem laidOut_after (hleading : AreLeading digits) {leading : Int} (hnegative : leading < 0) :
    LaidOut digits leading ['0'] (List.replicate (leading.natAbs - 1) '0' ++ digits) := by
  obtain ⟨hne, hdigit, -⟩ := id hleading
  have hlength : 0 < digits.length := List.length_pos_iff.mpr hne
  have hnumber : numberOf (['0'] ++ (List.replicate (leading.natAbs - 1) '0' ++ digits)) =
      numberOf digits :=
    (numberOf_zeros_append 1 _).trans (numberOf_zeros_append _ digits)
  refine ⟨⟨List.cons_ne_nil _ _, by simp, .inl rfl⟩, by simp [hne],
    fun c hc => (List.mem_append.mp hc).elim isDigit_of_mem_zeros (hdigit c), ?_, ?_⟩
  · rw [hnumber]
    exact hleading.numberOf_pos
  · have hexponent : -((leading.natAbs - 1 + digits.length : Nat) : Int) =
        leading - (digits.length - 1 : Nat) := by omega
    rw [pointedValue, hnumber, List.length_append, List.length_replicate, hexponent]

/-- The point can stand between the digits. -/
theorem laidOut_inside (hleading : AreLeading digits) {leading : Nat}
    (hinside : leading + 1 < digits.length) :
    LaidOut digits leading (digits.take (leading + 1)) (digits.drop (leading + 1)) := by
  obtain ⟨hne, hdigit, hhead⟩ := id hleading
  refine ⟨⟨by simp [hne], fun c hc => hdigit c (List.mem_of_mem_take hc), .inr ?_⟩,
    by simpa using hinside, fun c hc => hdigit c (List.mem_of_mem_drop hc), ?_, ?_⟩
  · rw [List.head?_take, if_neg (Nat.succ_ne_zero leading)]
    exact hhead
  · rw [List.take_append_drop]
    exact hleading.numberOf_pos
  · have hexponent : -((digits.length - (leading + 1) : Nat) : Int) =
        (leading : Int) - (digits.length - 1 : Nat) := by omega
    rw [pointedValue, List.take_append_drop, List.length_drop, hexponent]

/-- Zeros can stand between the digits and the point. -/
theorem laidOut_before (hleading : AreLeading digits) {leading : Nat}
    (hbeyond : digits.length ≤ leading + 1) :
    LaidOut digits leading (digits ++ List.replicate (leading + 1 - digits.length) '0') ['0'] := by
  obtain ⟨hne, hdigit, hhead⟩ := id hleading
  have hlength : 0 < digits.length := List.length_pos_iff.mpr hne
  have hnumber : numberOf (digits ++ List.replicate (leading + 1 - digits.length) '0' ++ ['0']) =
      numberOf digits * 10 ^ (leading + 1 - digits.length) * 10 := by
    have hlast := numberOf_append_zeros (digits ++ List.replicate (leading + 1 - digits.length) '0') 1
    rw [numberOf_append_zeros digits, Nat.pow_one] at hlast
    exact hlast
  refine ⟨⟨by simp [hne], ?_, .inr ?_⟩, List.cons_ne_nil _ _, by simp, ?_, ?_⟩
  · exact fun c hc => (List.mem_append.mp hc).elim (hdigit c) isDigit_of_mem_zeros
  · rw [List.head?_append_of_ne_nil _ hne]
    exact hhead
  · rw [hnumber]
    exact Nat.mul_pos (Nat.mul_pos hleading.numberOf_pos (Nat.pow_pos (by decide))) (by decide)
  · have hexponent : (leading : Int) - (digits.length - 1 : Nat) =
        (leading + 1 - digits.length : Nat) := by omega
    have hpoint : (10 : ℚ) ^ (-((['0'] : List Char).length : Int)) = 10⁻¹ := by
      rw [zpow_neg]
      rfl
    rw [pointedValue, hnumber, hexponent, zpow_natCast, hpoint]
    push_cast
    exact mul_inv_cancel_right₀ (by norm_num) _

/-- Digits are laid out around a point. -/
theorem exists_pointed (hleading : AreLeading digits) (leading : Int) : ∃ whole fraction,
    pointed digits leading = whole ++ '.' :: fraction ∧ LaidOut digits leading whole fraction := by
  unfold pointed
  split
  · next hnegative => exact ⟨_, _, rfl, laidOut_after hleading hnegative⟩
  · next hnonnegative =>
      obtain ⟨leading, rfl⟩ := Int.eq_ofNat_of_zero_le (Int.not_lt.mp hnonnegative)
      dsimp only
      rw [Int.toNat_natCast]
      rcases Nat.lt_or_ge (leading + 1) digits.length with hinside | hbeyond
      · have hback : digits.drop (leading + 1) ≠ [] := by simpa using hinside
        refine ⟨_, _, ?_, laidOut_inside hleading hinside⟩
        rw [if_neg (by simpa using hback), Nat.sub_eq_zero_of_le hinside.le, List.replicate_zero,
          List.append_nil]
      · refine ⟨_, _, ?_, laidOut_before hleading hbeyond⟩
        rw [List.take_of_length_le hbeyond, List.drop_of_length_le hbeyond]
        rfl

/-! ### With an exponent -/

/-- The exponent of the leading digit is written with a sign and digits of its own. -/
theorem exponentText_spec (exponent : Int) : ∃ sign digits,
    exponentText exponent = sign :: digits ∧ sign = (if exponent < 0 then '-' else '+') ∧
      digits ≠ [] ∧ (∀ c ∈ digits, c.isDigit = true) ∧ numberOf digits = exponent.natAbs := by
  have htext : (toString exponent.natAbs).toList = Nat.toDigits 10 exponent.natAbs := by
    rw [Nat.toString_eq_ofList_toDigits, String.toList_ofList]
  refine ⟨_, _, rfl, rfl, ?_, ?_, ?_⟩
  · rw [htext]
    simp [Nat.toDigits_ne_nil]
  · rw [htext]
    intro c hc
    rcases List.mem_append.mp hc with hzero | hdigit
    · rw [List.eq_of_mem_replicate hzero]
      rfl
    · exact isDigit_toDigits hdigit
  · rw [htext, numberOf_zeros_append]
    exact ofDigits_toDigits _

end TemplateWorkbench.Number
