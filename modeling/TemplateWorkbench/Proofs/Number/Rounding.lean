import Mathlib.Order.Monotone.Basic
import Mathlib.Tactic.Ring
import TemplateWorkbench.Number.Shortest

/-!
# Rounding to the nearest double

The magnitudes of ranks grow strictly, and the gap above a rank is the power of two that scales its
significand.  A ratio is rounded to a rank that lies no further from it than half way to a neighbour, and
exactly half way only if the significand is even.  These are the intervals of the shortest decimals, which
overlap in no ratio; so every ratio in the interval of a rank is rounded to that rank.  Above the middle
of the last interval there is no finite double.
-/

namespace TemplateWorkbench.Double

/-! ### Ranks and magnitudes -/

/-- In a binade the magnitude is a multiple of the scale; the end of a binade is the start of the
next. -/
theorem unitsOf_add {scale significand : Nat} (hle : significand ≤ 2 * binade)
    (hnormal : scale = 0 ∨ binade ≤ significand) :
    unitsOf (scale * binade + significand) = significand * 2 ^ scale := by
  have hbinade : 0 < binade := by decide
  unfold unitsOf significandOf scaleOf
  -- Below the first binade, in a binade, or at the end of one, which is the start of the next.
  by_cases hbelow : significand < binade
  · have hscale : scale = 0 := hnormal.resolve_right (by omega)
    rw [hscale, Nat.zero_mul, Nat.zero_add, if_pos hbelow, Nat.div_eq_of_lt hbelow]
    rfl
  · have hrank : ¬ scale * binade + significand < binade := by omega
    rw [if_neg hrank]
    rcases Nat.lt_or_ge significand (2 * binade) with hlt | hge
    · have hsplit : scale * binade + significand = significand - binade + (scale + 1) * binade := by
        rw [Nat.add_mul]
        omega
      have hrest : significand - binade < binade := by omega
      rw [hsplit, Nat.add_mul_div_right _ _ hbinade, Nat.add_mul_mod_self_right,
        Nat.div_eq_of_lt hrest, Nat.mod_eq_of_lt hrest, Nat.zero_add, Nat.add_sub_cancel,
        Nat.add_sub_cancel' (by omega)]
      rfl
    · have hend : significand = 2 * binade := by omega
      have hsplit : scale * binade + significand = (scale + 2) * binade := by
        rw [hend, Nat.add_mul]
      rw [hsplit, Nat.mul_div_cancel _ hbinade, Nat.mul_mod_left, hend]
      have hpow : Nat.pow 2 (scale + 2 - 1) = 2 * 2 ^ scale := Nat.pow_succ'
      rw [hpow, Nat.add_zero]
      ring

/-- Every rank is a significand in a binade. -/
theorem exists_scale (rank : Nat) : ∃ significand, rank = scaleOf rank * binade + significand ∧
    significand < 2 * binade ∧ (scaleOf rank = 0 ∨ binade ≤ significand) := by
  have hsplit := Nat.div_add_mod rank binade
  have hrest : rank % binade < binade := Nat.mod_lt _ (by decide)
  unfold scaleOf
  cases hquotient : rank / binade with
  | zero =>
      rw [hquotient] at hsplit
      exact ⟨rank, by simp, by omega, .inl rfl⟩
  | succ scale =>
      rw [hquotient, Nat.mul_comm, Nat.add_mul, Nat.one_mul] at hsplit
      exact ⟨binade + rank % binade, by rw [Nat.add_sub_cancel]; omega, by omega, .inr (by omega)⟩

/-- A rank and the one above it have neighbouring significands on the scale of the rank. -/
theorem exists_significand (rank : Nat) : ∃ significand < 2 * binade,
    unitsOf rank = significand * 2 ^ scaleOf rank ∧
      unitsOf (rank + 1) = (significand + 1) * 2 ^ scaleOf rank := by
  obtain ⟨significand, hrank, hlt, hnormal⟩ := exists_scale rank
  refine ⟨significand, hlt, ?_, ?_⟩
  · conv_lhs => rw [hrank]
    exact unitsOf_add (by omega) hnormal
  · conv_lhs => rw [hrank, Nat.add_assoc]
    exact unitsOf_add (by omega) (by omega)

/-- The gap above a rank is its scale. -/
theorem unitsOf_succ (rank : Nat) : unitsOf (rank + 1) = unitsOf rank + 2 ^ scaleOf rank := by
  obtain ⟨significand, -, hself, hnext⟩ := exists_significand rank
  rw [hself, hnext, Nat.add_mul, Nat.one_mul]

theorem strictMono_unitsOf : StrictMono unitsOf := by
  refine strictMono_nat_of_lt_succ fun rank => ?_
  rw [unitsOf_succ]
  exact Nat.lt_add_of_pos_right (Nat.two_pow_pos _)

/-- A magnitude, even the next one, is at most so many times the gap above it. -/
theorem unitsOf_succ_le (rank : Nat) : unitsOf (rank + 1) ≤ 2 * binade * 2 ^ scaleOf rank := by
  obtain ⟨significand, hlt, -, hnext⟩ := exists_significand rank
  rw [hnext]
  exact Nat.mul_le_mul_right _ hlt

/-! ### Rounding a quotient -/

/-- A quotient is rounded by at most a half, and by a half only to an even number. -/
theorem roundHalfEven_spec (num : Nat) {den : Nat} (hden : 0 < den) :
    2 * num ≤ (2 * roundHalfEven num den + 1) * den ∧
      (2 * num = (2 * roundHalfEven num den + 1) * den → roundHalfEven num den % 2 = 0) ∧
      2 * roundHalfEven num den * den ≤ 2 * num + den ∧
      (2 * roundHalfEven num den * den = 2 * num + den → roundHalfEven num den % 2 = 0) := by
  have hsplit := Nat.div_add_mod num den
  have hrest : num % den < den := Nat.mod_lt _ hden
  have hproduct : den * (num / den) = num / den * den := Nat.mul_comm _ _
  simp only [roundHalfEven, Bool.or_eq_true, Bool.and_eq_true, beq_iff_eq, decide_eq_true_eq]
  split
  · next hup =>
      simp only [Nat.add_mul, Nat.mul_add, Nat.mul_assoc, Nat.one_mul, Nat.mul_one]
      refine ⟨by omega, by omega, by omega, by omega⟩
  · next hdown =>
      simp only [Nat.add_mul, Nat.mul_assoc, Nat.one_mul]
      refine ⟨by omega, by omega, by omega, by omega⟩

theorem le_roundHalfEven {num den bound : Nat} (hden : 0 < den) (hbound : bound * den ≤ num) :
    bound ≤ roundHalfEven num den := by
  have hquotient : bound ≤ num / den := (Nat.le_div_iff_mul_le hden).mpr hbound
  simp only [roundHalfEven]
  split <;> omega

theorem roundHalfEven_le {num den bound : Nat} (hden : 0 < den) (hbound : num < bound * den) :
    roundHalfEven num den ≤ bound := by
  have hquotient : num / den < bound := (Nat.div_lt_iff_lt_mul hden).mpr hbound
  simp only [roundHalfEven]
  split <;> omega

/-! ### The nearest rank -/

/-- The scale and the significand of a rounded ratio. -/
theorem nearestRank_parts (num : Nat) {den : Nat} (hden : 0 < den) : ∃ scale significand,
    significand = roundHalfEven num (den * 2 ^ scale) ∧
      nearestRank num den = scale * binade + significand ∧ significand ≤ 2 * binade ∧
      (scale = 0 ∨ binade * (den * 2 ^ scale) ≤ num) := by
  set scale := Nat.log2 (num / den) - 52 with hscale
  have hpositive : 0 < den * 2 ^ scale := Nat.mul_pos hden (Nat.two_pow_pos _)
  refine ⟨scale, roundHalfEven num (den * 2 ^ scale), rfl, rfl, ?_, ?_⟩
  · refine roundHalfEven_le hpositive ?_
    have hwhole : num / den < 2 ^ (53 + scale) :=
      Nat.lt_of_lt_of_le Nat.lt_log2_self (Nat.pow_le_pow_right (by decide) (by omega))
    have hnum : num < 2 ^ (53 + scale) * den := (Nat.div_lt_iff_lt_mul hden).mp hwhole
    have hbinade : 2 * binade = 2 ^ 53 := by decide
    rw [hbinade]
    calc num < 2 ^ (53 + scale) * den := hnum
      _ = 2 ^ 53 * (den * 2 ^ scale) := by rw [Nat.pow_add]; ring
  · rcases Nat.eq_zero_or_pos scale with hzero | hsome
    · exact .inl hzero
    · right
      have hlog : Nat.log2 (num / den) = 52 + scale := by omega
      have hne : num / den ≠ 0 := by
        intro hzero
        rw [hzero] at hlog
        simp only [Nat.log2_zero] at hlog
        omega
      have hwhole : 2 ^ (52 + scale) ≤ num / den := by
        rw [← hlog]
        exact Nat.log2_self_le hne
      have hbinade : binade = 2 ^ 52 := by decide
      rw [hbinade]
      calc 2 ^ 52 * (den * 2 ^ scale) = 2 ^ (52 + scale) * den := by rw [Nat.pow_add]; ring
        _ ≤ num := (Nat.le_div_iff_mul_le hden).mp hwhole

theorem le_scaleOf {scale significand : Nat} (hnormal : scale = 0 ∨ binade ≤ significand) :
    scale ≤ scaleOf (scale * binade + significand) := by
  rcases hnormal with rfl | hnormal
  · exact Nat.zero_le _
  · have hquotient : scale + 1 ≤ (scale * binade + significand) / binade := by
      refine (Nat.le_div_iff_mul_le (by decide)).mpr ?_
      rw [Nat.add_mul]
      omega
    unfold scaleOf
    omega

/-- The rank of a ratio is the parity of its significand. -/
theorem mod_two_rank (scale significand : Nat) :
    (scale * binade + significand) % 2 = significand % 2 := by
  have hbinade : binade = 2 * (binade / 2) := by decide
  rw [hbinade]
  have hdouble : scale * (2 * (binade / 2)) = 2 * (scale * (binade / 2)) := by ring
  rw [hdouble]
  omega

/-- A ratio is at most half way above the rank it is rounded to. -/
theorem nearestRank_above (num : Nat) {den : Nat} (hden : 0 < den) :
    let rank := nearestRank num den
    2 * num ≤ (unitsOf rank + unitsOf (rank + 1)) * den ∧
      (2 * num = (unitsOf rank + unitsOf (rank + 1)) * den → rank % 2 = 0) := by
  obtain ⟨scale, significand, hround, hrank, hle, hnormal⟩ := nearestRank_parts num hden
  have hpositive : 0 < den * 2 ^ scale := Nat.mul_pos hden (Nat.two_pow_pos _)
  have hbinade : scale = 0 ∨ binade ≤ significand :=
    hnormal.imp_right fun hnum => hround ▸ le_roundHalfEven hpositive hnum
  obtain ⟨habove, heven, -, -⟩ := roundHalfEven_spec num hpositive
  rw [← hround] at habove heven
  have hunits := unitsOf_add hle hbinade
  have hgap : 2 ^ scale ≤ 2 ^ scaleOf (scale * binade + significand) :=
    Nat.pow_le_pow_right (by decide) (le_scaleOf hbinade)
  have hmiddle : (2 * significand + 1) * (den * 2 ^ scale) =
      (2 * (significand * 2 ^ scale) + 2 ^ scale) * den := by ring
  intro rank
  have hsum : 2 * (significand * 2 ^ scale) + 2 ^ scale ≤ unitsOf rank + unitsOf (rank + 1) := by
    rw [unitsOf_succ, show rank = scale * binade + significand from hrank, hunits]
    omega
  have hbound := Nat.mul_le_mul_right den hsum
  rw [hmiddle] at habove heven
  refine ⟨habove.trans hbound, fun hequal => ?_⟩
  rw [show rank = scale * binade + significand from hrank, mod_two_rank]
  exact heven (by omega)

/-- A ratio is at most half way below the rank it is rounded to. -/
theorem nearestRank_below {num den : Nat} (hden : 0 < den) (hpositive : 0 < nearestRank num den) :
    let rank := nearestRank num den
    (unitsOf (rank - 1) + unitsOf rank) * den ≤ 2 * num ∧
      ((unitsOf (rank - 1) + unitsOf rank) * den = 2 * num → rank % 2 = 0) := by
  obtain ⟨scale, significand, hround, hrank, hle, hnormal⟩ := nearestRank_parts num hden
  have hscaled : 0 < den * 2 ^ scale := Nat.mul_pos hden (Nat.two_pow_pos _)
  have hbinade : scale = 0 ∨ binade ≤ significand :=
    hnormal.imp_right fun hnum => hround ▸ le_roundHalfEven hscaled hnum
  have hunits := unitsOf_add hle hbinade
  intro rank
  have hsame : rank = scale * binade + significand := hrank
  have hrankPos : 0 < rank := hpositive
  by_cases hinside : scale = 0 ∨ binade < significand
  -- The rank before is in the same binade.
  · obtain ⟨before, rfl⟩ : ∃ n, significand = n + 1 := by
      refine ⟨significand - 1, ?_⟩
      rcases hinside with rfl | hlt
      · omega
      · omega
    have hbefore : rank - 1 = scale * binade + before := by omega
    have hunitsBefore := unitsOf_add (show before ≤ 2 * binade by omega)
      (hinside.imp_right fun hlt => Nat.le_of_lt_succ hlt)
    obtain ⟨-, -, hbelow, heven⟩ := roundHalfEven_spec num hscaled
    rw [← hround] at hbelow heven
    have hmiddle : 2 * (before + 1) * (den * 2 ^ scale) =
        (before * 2 ^ scale + (before + 1) * 2 ^ scale) * den + den * 2 ^ scale := by ring
    rw [hmiddle] at hbelow heven
    rw [hbefore, hunitsBefore, hsame, hunits, mod_two_rank]
    exact ⟨by omega, fun hequal => heven (by omega)⟩
  -- The rank is the first of its binade, and the ratio is not below it.
  · rw [not_or] at hinside
    have hfirst : significand = binade := by
      have hge := hbinade.resolve_left hinside.1
      omega
    have hnum := hnormal.resolve_left hinside.1
    have hself : unitsOf rank * den ≤ num := by
      rw [hsame, hunits, hfirst]
      calc binade * 2 ^ scale * den = binade * (den * 2 ^ scale) := by ring
        _ ≤ num := hnum
    have hbefore : unitsOf (rank - 1) * den < unitsOf rank * den :=
      Nat.mul_lt_mul_of_pos_right (strictMono_unitsOf (by omega)) hden
    rw [Nat.add_mul]
    exact ⟨by omega, by omega⟩

/-! ### Intervals -/

/-- The middle of a rank and the next grows with the rank. -/
theorem middle_le {rank other : Nat} (hlt : rank < other) :
    unitsOf rank + unitsOf (rank + 1) ≤ unitsOf (other - 1) + unitsOf other :=
  Nat.add_le_add (strictMono_unitsOf.monotone (by omega)) (strictMono_unitsOf.monotone hlt)

/-- Only neighbours share a middle. -/
theorem eq_of_middle_eq {rank other : Nat} (hlt : rank < other)
    (hsame : unitsOf rank + unitsOf (rank + 1) = unitsOf (other - 1) + unitsOf other) :
    other = rank + 1 := by
  by_contra hne
  have hfirst : unitsOf rank < unitsOf (other - 1) := strictMono_unitsOf (by omega)
  have hsecond : unitsOf (rank + 1) < unitsOf other := strictMono_unitsOf (by omega)
  omega

/-- What it is to lie in the interval of a rank. -/
theorem holds_iff {rank num den : Nat} :
    (Number.Interval.ofRank rank).holds (4 * num) den = true ↔
      (unitsOf (rank - 1) + unitsOf rank) * den ≤ 2 * num ∧
      2 * num ≤ (unitsOf rank + unitsOf (rank + 1)) * den ∧
      (((unitsOf (rank - 1) + unitsOf rank) * den = 2 * num ∨
        2 * num = (unitsOf rank + unitsOf (rank + 1)) * den) → rank % 2 = 0) := by
  have hlow : 2 * (unitsOf (rank - 1) + unitsOf rank) * den =
      2 * ((unitsOf (rank - 1) + unitsOf rank) * den) := Nat.mul_assoc _ _ _
  have hhigh : 2 * (unitsOf rank + unitsOf (rank + 1)) * den =
      2 * ((unitsOf rank + unitsOf (rank + 1)) * den) := Nat.mul_assoc _ _ _
  simp only [Number.Interval.holds, Number.Interval.ofRank, hlow, hhigh]
  by_cases heven : rank % 2 = 0
  · simp only [heven, beq_self_eq_true, if_true, Bool.and_eq_true, decide_eq_true_eq, implies_true,
      and_true]
    omega
  · simp only [heven, beq_iff_eq, if_false, Bool.and_eq_true, decide_eq_true_eq, imp_false, not_or]
    omega

/-- Every ratio in the interval of a rank is rounded to the rank. -/
theorem nearestRank_of_holds {rank num den : Nat} (hden : 0 < den)
    (hholds : (Number.Interval.ofRank rank).holds (4 * num) den = true) :
    nearestRank num den = rank := by
  obtain ⟨hlow, hhigh, heven⟩ := holds_iff.mp hholds
  rcases Nat.lt_trichotomy (nearestRank num den) rank with hless | hsame | hgreater
  -- Rounded to a lower rank, the ratio is the middle of two neighbours, of which one is odd.
  · obtain ⟨habove, hroundEven⟩ := nearestRank_above num hden
    have hmiddles := Nat.mul_le_mul_right den (middle_le hless)
    have hequal := Nat.eq_of_mul_eq_mul_right hden
      (Nat.le_antisymm hmiddles (hlow.trans habove))
    have hnext := eq_of_middle_eq hless hequal
    have hfirst := hroundEven (by omega)
    have hsecond := heven (.inl (by omega))
    omega
  · exact hsame
  · obtain ⟨hbelow, hroundEven⟩ := nearestRank_below hden (Nat.zero_lt_of_lt hgreater)
    have hmiddles := Nat.mul_le_mul_right den (middle_le hgreater)
    have hequal := Nat.eq_of_mul_eq_mul_right hden
      (Nat.le_antisymm hmiddles (hbelow.trans hhigh))
    have hnext := eq_of_middle_eq hgreater hequal
    have hfirst := hroundEven (by omega)
    have hsecond := heven (.inr (by omega))
    omega

/-! ### The end of the doubles -/

/-- Half way between the greatest finite double and the power of two after it. -/
def rangeEnd : Nat := 2 ^ 1024 - 2 ^ 970

/-- The magnitude half way to the end, twice and in units. -/
theorem middle_endRank : unitsOf (endRank - 1) + unitsOf endRank = 2 * (rangeEnd * unit) := by
  decide +kernel

/-- A ratio is rounded to a finite double if it is closer to one than to the end; the half way itself
is rounded to the end, which is even. -/
theorem nearestRank_lt_endRank_iff {num den : Nat} (hden : 0 < den) :
    nearestRank num den < endRank ↔ num < rangeEnd * unit * den := by
  have hend : 0 < endRank ∧ (endRank - 1) % 2 = 1 := by decide
  constructor
  · intro hlt
    obtain ⟨habove, heven⟩ := nearestRank_above num hden
    have hmiddle := Nat.mul_le_mul_right den (middle_le hlt)
    rw [middle_endRank, Nat.mul_assoc] at hmiddle
    by_contra hge
    -- The ratio is the middle itself, and the rank before the end is odd.
    have hequal : (unitsOf (nearestRank num den) + unitsOf (nearestRank num den + 1)) * den =
        (unitsOf (endRank - 1) + unitsOf endRank) * den := by
      rw [middle_endRank, Nat.mul_assoc]
      omega
    have hlast := eq_of_middle_eq hlt (Nat.eq_of_mul_eq_mul_right hden hequal)
    rw [middle_endRank, Nat.mul_assoc] at hequal
    have hparity := heven (by omega)
    omega
  · intro hlt
    by_contra hge
    obtain ⟨hbelow, -⟩ := nearestRank_below hden (show 0 < nearestRank num den by omega)
    have hmiddle := Nat.mul_le_mul_right den
      (middle_le (show endRank - 1 < nearestRank num den by omega))
    rw [show endRank - 1 + 1 = endRank from rfl, middle_endRank, Nat.mul_assoc] at hmiddle
    omega

/-- Exactly the whole numbers below the end of the range have a double. -/
theorem isFinite_ofInt_iff {value : Int} :
    (ofInt value).isFinite = true ↔ value.natAbs < rangeEnd := by
  have hunit : 0 < unit := by decide +kernel
  have hrank : nearestRank (value.natAbs * unit) 1 < endRank ↔
      value.natAbs * unit < rangeEnd * unit * 1 := nearestRank_lt_endRank_iff Nat.one_pos
  rw [Nat.mul_one, Nat.mul_lt_mul_right hunit] at hrank
  rw [← hrank, ofInt, ofRatio, ofUnitRatio, ofRank]
  split
  · next hlt => exact ⟨fun _ => hlt, fun _ => rfl⟩
  · next hge => exact ⟨nofun, fun hlt => absurd hlt hge⟩

end TemplateWorkbench.Double
