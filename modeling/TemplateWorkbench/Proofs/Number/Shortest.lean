import Mathlib.Algebra.Order.Field.Power
import Mathlib.Data.Rat.Cast.Order
import Mathlib.Tactic.FieldSimp
import Mathlib.Tactic.Linarith
import Mathlib.Tactic.NormNum
import Mathlib.Tactic.Positivity
import TemplateWorkbench.Number.Reading
import TemplateWorkbench.Proofs.Number.Rounding

/-!
# The shortest decimal reads back

The search for the shortest decimal always ends: seventeen digits lie closer together than doubles do, so
of the two decimals with that many digits around a double the nearer one is in its interval.  A decimal in
the interval is read as the double, in whatever way its digits and its exponent are written down.
-/

namespace TemplateWorkbench

open Double

-- The number of units of one has hundreds of digits, and none of the proofs looks at them.
attribute [local irreducible] Double.unit

/-! ### Intervals of rationals -/

/-- A rational number of units that is rounded to a rank: it lies between the middles to both neighbours,
and on a middle only if the significand is even. -/
structure Encloses (rank : Nat) (units : ℚ) : Prop where
  low : (unitsOf (rank - 1) + unitsOf rank : ℚ) ≤ 2 * units
  high : 2 * units ≤ (unitsOf rank + unitsOf (rank + 1) : ℚ)
  even : (unitsOf (rank - 1) + unitsOf rank : ℚ) = 2 * units ∨
    2 * units = (unitsOf rank + unitsOf (rank + 1) : ℚ) → rank % 2 = 0

theorem holds_iff_encloses {rank num den : Nat} (hden : 0 < den) :
    (Number.Interval.ofRank rank).holds (4 * num) den = true ↔ Encloses rank (num / den : ℚ) := by
  have hpositive : (0 : ℚ) < den := by exact_mod_cast hden
  have hdouble : 2 * (num / den : ℚ) = (2 * num : ℚ) / den := by ring
  have hlow : (unitsOf (rank - 1) + unitsOf rank) * den ≤ 2 * num ↔
      (unitsOf (rank - 1) + unitsOf rank : ℚ) ≤ 2 * (num / den) := by
    rw [hdouble, le_div_iff₀ hpositive]
    norm_cast
  have hhigh : 2 * num ≤ (unitsOf rank + unitsOf (rank + 1)) * den ↔
      2 * (num / den : ℚ) ≤ unitsOf rank + unitsOf (rank + 1) := by
    rw [hdouble, div_le_iff₀ hpositive]
    norm_cast
  have hlowEven : (unitsOf (rank - 1) + unitsOf rank) * den = 2 * num ↔
      (unitsOf (rank - 1) + unitsOf rank : ℚ) = 2 * (num / den) := by
    rw [hdouble, eq_div_iff hpositive.ne']
    norm_cast
  have hhighEven : 2 * num = (unitsOf rank + unitsOf (rank + 1)) * den ↔
      2 * (num / den : ℚ) = unitsOf rank + unitsOf (rank + 1) := by
    rw [hdouble, div_eq_iff hpositive.ne']
    norm_cast
  rw [holds_iff, hlow, hhigh, hlowEven, hhighEven]
  exact ⟨fun ⟨low, high, even⟩ => ⟨low, high, even⟩, fun hencloses =>
    ⟨hencloses.low, hencloses.high, hencloses.even⟩⟩

/-- What lies closer to a magnitude than half of each gap is rounded to it. -/
theorem encloses_of_near {rank : Nat} {units : ℚ} (reach : ℚ) (hrank : 0 < rank)
    (hnear : |units - unitsOf rank| ≤ reach)
    (hbelow : 2 * reach < 2 ^ scaleOf (rank - 1)) (habove : 2 * reach < 2 ^ scaleOf rank) :
    Encloses rank units := by
  have hsucc : (unitsOf (rank + 1) : ℚ) = unitsOf rank + 2 ^ scaleOf rank := by
    exact_mod_cast unitsOf_succ rank
  have hself : (unitsOf rank : ℚ) = unitsOf (rank - 1) + 2 ^ scaleOf (rank - 1) := by
    have hunits := unitsOf_succ (rank - 1)
    rw [Nat.sub_add_cancel hrank] at hunits
    exact_mod_cast hunits
  obtain ⟨hleft, hright⟩ := abs_le.mp hnear
  refine ⟨by linarith, by linarith, ?_⟩
  rintro (hlow | hhigh)
  · linarith
  · linarith

namespace Number

/-! ### Powers of ten -/

theorem unit_pos : 0 < unit := by decide +kernel

theorem ten_zpow (exponent : Nat) : (10 : ℚ) ^ (exponent : Int) = (10 ^ exponent : Nat) := by
  rw [zpow_natCast]
  push_cast
  rfl

theorem ten_zpow_neg (exponent : Nat) : (10 : ℚ) ^ (-exponent : Int) = 1 / (10 ^ exponent : Nat) := by
  rw [zpow_neg, ten_zpow, one_div]

theorem scaleTen_den {num den : Nat} (hden : 0 < den) (exponent : Int) :
    0 < (scaleTen num den exponent).2 := by
  unfold scaleTen
  split
  · exact Nat.mul_pos hden (Nat.pow_pos (by decide))
  · exact hden

/-- A ratio is scaled by a power of ten. -/
theorem scaleTen_eq (num den : Nat) (exponent : Int) :
    ((scaleTen num den exponent).1 / (scaleTen num den exponent).2 : ℚ) =
      num / den * 10 ^ exponent := by
  unfold scaleTen
  split
  · next hnegative =>
      obtain ⟨size, rfl⟩ : ∃ size : Nat, exponent = -size := ⟨exponent.natAbs, by omega⟩
      rw [Int.natAbs_neg, Int.natAbs_natCast, ten_zpow_neg, mul_one_div, Nat.cast_mul, div_mul_eq_div_div]
      rfl
  · next hnonnegative =>
      obtain ⟨size, rfl⟩ := Int.eq_ofNat_of_zero_le (Int.not_lt.mp hnonnegative)
      rw [Int.natAbs_natCast, ten_zpow, Nat.cast_mul, mul_div_right_comm]
      rfl

/-- The estimate of a leading exponent is not too large. -/
theorem ten_pow_estimate {bits : Int} (hlow : -1100 < bits) (hhigh : bits < 1100) :
    (10 : ℚ) ^ Int.fdiv (bits * 30103) 100000 ≤ 2 ^ bits := by
  have hpositive : ∀ n < 1100, 10 ^ (n * 30103 / 100000) ≤ 2 ^ n := by decide +kernel
  have hnegative : ∀ n < 1100, 2 ^ n ≤ 10 ^ ((n * 30103 + 99999) / 100000) := by decide +kernel
  rcases Int.le_total 0 bits with hbits | hbits
  · obtain ⟨n, rfl⟩ := Int.eq_ofNat_of_zero_le hbits
    have hestimate : Int.fdiv ((n : Int) * 30103) 100000 = (n * 30103 / 100000 : Nat) := by
      rw [Int.fdiv_eq_ediv_of_nonneg _ (by decide)]
      omega
    rw [hestimate, zpow_natCast, zpow_natCast]
    exact_mod_cast hpositive n (by omega)
  · obtain ⟨n, hn⟩ := Int.eq_ofNat_of_zero_le (Int.neg_nonneg.mpr hbits)
    obtain rfl : bits = -(n : Int) := by omega
    have hestimate : Int.fdiv (-(n : Int) * 30103) 100000 =
        -((n * 30103 + 99999) / 100000 : Nat) := by
      rw [Int.fdiv_eq_ediv_of_nonneg _ (by decide)]
      omega
    rw [hestimate, zpow_neg, zpow_neg, zpow_natCast, zpow_natCast]
    refine inv_anti₀ (by positivity) ?_
    exact_mod_cast hnegative n (by omega)

/-- A step up of the leading exponent is only taken if it is due. -/
theorem ten_pow_adjust {num den : Nat} (hden : 0 < den) (fuel : Nat) {exponent : Int}
    (hexponent : (10 : ℚ) ^ exponent ≤ num / den) :
    (10 : ℚ) ^ leadingExponent.adjust num den fuel exponent ≤ num / den := by
  induction fuel generalizing exponent with
  | zero => exact hexponent
  | succ fuel ih =>
      rw [leadingExponent.adjust]
      have hbottom : (0 : ℚ) < (scaleTen num den (-(exponent + 1))).2 := by
        exact_mod_cast scaleTen_den hden _
      have hratio := scaleTen_eq num den (-(exponent + 1))
      simp only
      split
      · next hle =>
          refine ih ?_
          have hone : (1 : ℚ) ≤ num / den * 10 ^ (-(exponent + 1)) := by
            rw [← hratio, one_le_div hbottom]
            exact_mod_cast hle
          rw [zpow_neg, ← div_eq_mul_inv, one_le_div (by positivity)] at hone
          exact hone
      · exact hexponent

/-- The power of ten of the leading digit is not above the ratio. -/
theorem ten_pow_leadingExponent {num den : Nat} (hnum : 0 < num) (hden : 0 < den)
    (hlow : -1100 < (Nat.log2 num - Nat.log2 den - 1 : Int))
    (hhigh : (Nat.log2 num - Nat.log2 den - 1 : Int) < 1100) :
    (10 : ℚ) ^ leadingExponent num den ≤ num / den := by
  refine ten_pow_adjust hden 3 ((ten_pow_estimate hlow hhigh).trans ?_)
  have hnumPow : (2 : ℚ) ^ (Nat.log2 num) ≤ num := by exact_mod_cast Nat.log2_self_le hnum.ne'
  have hdenPow : (den : ℚ) ≤ 2 ^ (Nat.log2 den + 1) := by exact_mod_cast Nat.lt_log2_self.le
  have hdenPos : (0 : ℚ) < den := by exact_mod_cast hden
  have hsplit : (2 : ℚ) ^ (Nat.log2 num - Nat.log2 den - 1 : Int) =
      2 ^ (Nat.log2 num) / 2 ^ (Nat.log2 den + 1) := by
    rw [Int.sub_sub, zpow_sub₀ (by norm_num)]
    norm_cast
  rw [hsplit]
  exact div_le_div₀ (by positivity) hnumPow hdenPos hdenPow

/-! ### Decimals that read back -/

/-- The value of a decimal. -/
def Decimal.value (decimal : Decimal) : ℚ := decimal.digits * 10 ^ decimal.exponent

/-- A decimal with a digit that is not zero, in the interval of a rank. -/
structure Decimal.ReadsAs (decimal : Decimal) (rank : Nat) : Prop where
  positive : 0 < decimal.digits
  encloses : Encloses rank (decimal.value * unit)

/-- What the search looks at in a decimal. -/
def reads (rank : Nat) (exponent : Int) (digits : Nat) : Bool :=
  decide (0 < digits) &&
    (Interval.ofRank rank).holds (scaleTen (digits * (4 * unit)) 1 exponent).1
      (scaleTen (digits * (4 * unit)) 1 exponent).2

theorem reads_iff {rank digits : Nat} {exponent : Int} :
    reads rank exponent digits = true ↔ Decimal.ReadsAs ⟨digits, exponent⟩ rank := by
  have hquarters : scaleTen (digits * (4 * unit)) 1 exponent =
      (4 * (scaleTen (digits * unit) 1 exponent).1, (scaleTen (digits * unit) 1 exponent).2) := by
    unfold scaleTen
    split
    · exact Prod.ext (Nat.mul_left_comm _ _ _) rfl
    · exact Prod.ext (by simp only [Nat.mul_left_comm digits, Nat.mul_assoc]) rfl
  have hvalue : ((scaleTen (digits * unit) 1 exponent).1 /
      (scaleTen (digits * unit) 1 exponent).2 : ℚ) = Decimal.value ⟨digits, exponent⟩ * unit := by
    rw [scaleTen_eq, Decimal.value]
    push_cast
    ring
  rw [reads, hquarters, Bool.and_eq_true, decide_eq_true_eq,
    holds_iff_encloses (scaleTen_den Nat.one_pos _), hvalue]
  exact ⟨fun ⟨hpositive, hencloses⟩ => ⟨hpositive, hencloses⟩, fun hreads =>
    ⟨hreads.positive, hreads.encloses⟩⟩

/-- The exponent of the decimals of `count` digits around the double of a rank. -/
def exponentFor (rank count : Nat) : Int :=
  leadingExponent (4 * unitsOf rank) (4 * unit) - (count - 1 : Nat)

/-- The digits of the greatest decimal of `count` digits that is not above the double of a rank. -/
def digitsBelow (rank count : Nat) : Nat :=
  (scaleTen (4 * unitsOf rank) (4 * unit) (-exponentFor rank count)).1 /
    (scaleTen (4 * unitsOf rank) (4 * unit) (-exponentFor rank count)).2

/-- What is found is one of the two decimals around the double that reads back. -/
theorem decimalOf?_cases (rank count : Nat) :
    (∃ digits, decimalOf? rank count = some ⟨digits, exponentFor rank count⟩ ∧
        reads rank (exponentFor rank count) digits = true) ∨
      decimalOf? rank count = none ∧
        reads rank (exponentFor rank count) (digitsBelow rank count) = false ∧
        reads rank (exponentFor rank count) (digitsBelow rank count + 1) = false := by
  unfold decimalOf?
  dsimp only
  split
  · next hbelow habove =>
      split
      · exact .inl ⟨_, rfl, hbelow⟩
      · exact .inl ⟨_, rfl, habove⟩
  · next hbelow habove => exact .inl ⟨_, rfl, hbelow⟩
  · next hbelow habove => exact .inl ⟨_, rfl, habove⟩
  · next hbelow habove => exact .inr ⟨rfl, hbelow, habove⟩

/-! ### Seventeen digits -/

theorem log2_four_mul_lt {value bits : Nat} (hpositive : 0 < value) (hlt : value < 2 ^ bits) :
    Nat.log2 (4 * value) < bits + 2 := by
  rw [Nat.log2_lt (by omega), Nat.pow_add, Nat.mul_comm]
  exact Nat.mul_lt_mul_of_pos_right hlt (by decide)

/-- A magnitude has a leading exponent, and its power of ten is not above it. -/
theorem ten_pow_leadingExponent_unitsOf {rank : Nat} (hpositive : 0 < rank) (hrank : rank < endRank) :
    (10 : ℚ) ^ leadingExponent (4 * unitsOf rank) (4 * unit) ≤ unitsOf rank / unit := by
  have hunits : 0 < unitsOf rank := Nat.lt_of_le_of_lt (Nat.zero_le _) (strictMono_unitsOf hpositive)
  have hend : unitsOf rank < 2 ^ 2098 := by
    have hlt := strictMono_unitsOf hrank
    have hendUnits : unitsOf endRank = 2 ^ 2098 := by decide +kernel
    rwa [hendUnits] at hlt
  have hunit : Nat.log2 (4 * unit) = 1076 := by decide +kernel
  have hlogLow : 2 ≤ Nat.log2 (4 * unitsOf rank) := (Nat.le_log2 (by omega)).mpr (by omega)
  have hlogHigh := log2_four_mul_lt hunits hend
  have hratio : (10 : ℚ) ^ leadingExponent (4 * unitsOf rank) (4 * unit) ≤
      (4 * unitsOf rank : Nat) / (4 * unit : Nat) :=
    ten_pow_leadingExponent (by omega) (Nat.mul_pos (by decide) unit_pos) (by rw [hunit]; omega)
      (by rw [hunit]; omega)
  have hcancel : ((4 * unitsOf rank : Nat) / (4 * unit : Nat) : ℚ) = unitsOf rank / unit := by
    push_cast
    exact mul_div_mul_left _ _ (by norm_num)
  rwa [hcancel] at hratio

/-- Decimals of seventeen digits lie closer together than the double and its neighbours. -/
theorem ten_pow_exponentFor_lt {rank : Nat} (hpositive : 0 < rank) (hrank : rank < endRank) :
    (10 : ℚ) ^ exponentFor rank 17 * unit < 2 ^ scaleOf (rank - 1) ∧
      (10 : ℚ) ^ exponentFor rank 17 * unit < 2 ^ scaleOf rank := by
  have hunit : (0 : ℚ) < unit := by exact_mod_cast unit_pos
  have hleading := ten_pow_leadingExponent_unitsOf hpositive hrank
  have hexponent : (10 : ℚ) ^ exponentFor rank 17 =
      10 ^ leadingExponent (4 * unitsOf rank) (4 * unit) / 10 ^ 16 := by
    rw [exponentFor, zpow_sub₀ (by norm_num), zpow_natCast]
  have hstep : (10 : ℚ) ^ exponentFor rank 17 * unit * 10 ^ 16 ≤ unitsOf rank := by
    rw [le_div_iff₀ hunit] at hleading
    rw [hexponent]
    calc (10 : ℚ) ^ leadingExponent (4 * unitsOf rank) (4 * unit) / 10 ^ 16 * unit * 10 ^ 16
        = 10 ^ leadingExponent (4 * unitsOf rank) (4 * unit) * unit := by ring
      _ ≤ unitsOf rank := hleading
  have hbinade : 2 * binade < 10 ^ 16 := by decide
  -- The double holds at most 2 ^ 53 gaps and at least 10 ^ 16 steps, so a step is less than a gap.
  have hgap {gap : ℚ} (hgapPositive : 0 < gap) (hunits : (unitsOf rank : ℚ) ≤ 2 * binade * gap) :
      (10 : ℚ) ^ exponentFor rank 17 * unit < gap := by
    have hten : (2 * binade : ℚ) < 10 ^ 16 := by exact_mod_cast hbinade
    have hbound : (10 : ℚ) ^ exponentFor rank 17 * unit * 10 ^ 16 < gap * 10 ^ 16 := by
      calc (10 : ℚ) ^ exponentFor rank 17 * unit * 10 ^ 16 ≤ 2 * binade * gap := hstep.trans hunits
        _ < 10 ^ 16 * gap := mul_lt_mul_of_pos_right hten hgapPositive
        _ = gap * 10 ^ 16 := mul_comm _ _
    exact lt_of_mul_lt_mul_right hbound (by positivity)
  have hbefore := unitsOf_succ_le (rank - 1)
  rw [Nat.sub_add_cancel hpositive] at hbefore
  have hafter := (strictMono_unitsOf (Nat.lt_succ_self rank)).le.trans (unitsOf_succ_le rank)
  exact ⟨hgap (by positivity) (by exact_mod_cast hbefore),
    hgap (by positivity) (by exact_mod_cast hafter)⟩

/-- How many steps of the decimals of `count` digits a magnitude is. -/
def stepsOf (rank count : Nat) : ℚ := unitsOf rank / unit * 10 ^ (-exponentFor rank count)

theorem stepsOf_mul (rank count : Nat) :
    stepsOf rank count * 10 ^ exponentFor rank count * unit = unitsOf rank := by
  have hunit : (unit : ℚ) ≠ 0 := by exact_mod_cast unit_pos.ne'
  rw [stepsOf, zpow_neg]
  field_simp

/-- The digits below are the whole part of the steps. -/
theorem digitsBelow_spec (rank count : Nat) :
    (digitsBelow rank count : ℚ) ≤ stepsOf rank count ∧
      stepsOf rank count < digitsBelow rank count + 1 := by
  have hden : 0 < (scaleTen (4 * unitsOf rank) (4 * unit) (-exponentFor rank count)).2 :=
    scaleTen_den (Nat.mul_pos (by decide) unit_pos) _
  have hdenPos : (0 : ℚ) < (scaleTen (4 * unitsOf rank) (4 * unit) (-exponentFor rank count)).2 := by
    exact_mod_cast hden
  have hsteps : stepsOf rank count =
      (scaleTen (4 * unitsOf rank) (4 * unit) (-exponentFor rank count)).1 /
        (scaleTen (4 * unitsOf rank) (4 * unit) (-exponentFor rank count)).2 := by
    rw [scaleTen_eq, stepsOf]
    push_cast
    rw [mul_div_mul_left _ _ (by norm_num)]
  rw [hsteps, digitsBelow, le_div_iff₀ hdenPos, div_lt_iff₀ hdenPos]
  constructor
  · exact_mod_cast Nat.div_mul_le_self _ _
  · exact_mod_cast Nat.lt_mul_of_div_lt (Nat.lt_succ_self _) hden

/-- A candidate that is at most half a step away reads back. -/
theorem reads_of_near {rank digits : Nat} (hpositive : 0 < rank) (hrank : rank < endRank)
    (hdigits : 0 < digits) (hnear : |(digits : ℚ) - stepsOf rank 17| ≤ 1 / 2) :
    reads rank (exponentFor rank 17) digits = true := by
  have hunit : (0 : ℚ) < unit := by exact_mod_cast unit_pos
  have hscale : (0 : ℚ) < 10 ^ exponentFor rank 17 * unit := by positivity
  obtain ⟨hbelow, habove⟩ := ten_pow_exponentFor_lt hpositive hrank
  refine reads_iff.mpr ⟨hdigits, encloses_of_near (1 / 2 * (10 ^ exponentFor rank 17 * unit))
    hpositive ?_ (by linarith) (by linarith)⟩
  have hdistance : Decimal.value ⟨digits, exponentFor rank 17⟩ * unit - unitsOf rank =
      (digits - stepsOf rank 17) * (10 ^ exponentFor rank 17 * unit) := by
    rw [← stepsOf_mul rank 17, Decimal.value]
    ring
  rw [hdistance, abs_mul, abs_of_pos hscale]
  exact mul_le_mul_of_nonneg_right hnear hscale.le

/-- Of the two decimals of seventeen digits around a double one reads back. -/
theorem exists_decimalOf? {rank : Nat} (hpositive : 0 < rank) (hrank : rank < endRank) :
    ∃ decimal, decimalOf? rank 17 = some decimal := by
  obtain ⟨hbelow, habove⟩ := digitsBelow_spec rank 17
  have hone : 1 ≤ stepsOf rank 17 := by
    have hleading := ten_pow_leadingExponent_unitsOf hpositive hrank
    have hle : (10 : ℚ) ^ exponentFor rank 17 ≤ unitsOf rank / unit := by
      refine le_trans (zpow_le_zpow_right₀ (by norm_num) ?_) hleading
      rw [exponentFor]
      omega
    rw [stepsOf, zpow_neg, ← div_eq_mul_inv]
    exact (one_le_div (by positivity)).mpr hle
  have hdigits : 0 < digitsBelow rank 17 := by
    have hpos : (0 : ℚ) < digitsBelow rank 17 := by linarith
    exact_mod_cast hpos
  -- The nearer of the two is at most half a step away.
  have hsome : reads rank (exponentFor rank 17) (digitsBelow rank 17) = true ∨
      reads rank (exponentFor rank 17) (digitsBelow rank 17 + 1) = true := by
    rcases le_total (stepsOf rank 17 - digitsBelow rank 17) (1 / 2) with hnear | hfar
    · left
      refine reads_of_near hpositive hrank hdigits (abs_le.mpr ⟨?_, ?_⟩)
      · linarith
      · linarith
    · right
      refine reads_of_near hpositive hrank (Nat.succ_pos _) (abs_le.mpr ⟨?_, ?_⟩)
      · push_cast
        linarith
      · push_cast
        linarith
  rcases decimalOf?_cases rank 17 with ⟨digits, hfound, -⟩ | ⟨-, hfirst, hsecond⟩
  · exact ⟨_, hfound⟩
  · rw [hfirst, hsecond] at hsome
    simp at hsome

/-- The shortest decimal of a positive rank reads back. -/
theorem readsAs_shortest {rank : Nat} (hpositive : 0 < rank) (hrank : rank < endRank) :
    (shortest rank).ReadsAs rank := by
  obtain ⟨decimal, hlast⟩ := exists_decimalOf? hpositive hrank
  have hsome : ((List.range 17).findSome? fun count => decimalOf? rank (count + 1)).isSome := by
    rw [List.findSome?_isSome_iff]
    exact ⟨16, by simp, by rw [hlast]; rfl⟩
  obtain ⟨found, hfound⟩ := Option.isSome_iff_exists.mp hsome
  obtain ⟨count, -, hcount⟩ := List.exists_of_findSome?_eq_some hfound
  rw [shortest, hfound, Option.getD_some]
  rcases decimalOf?_cases rank (count + 1) with ⟨digits, hdigits, hreads⟩ | ⟨hnone, -, -⟩
  · rw [hdigits] at hcount
    cases hcount
    exact reads_iff.mp hreads
  · rw [hnone] at hcount
    cases hcount

end Number

end TemplateWorkbench
