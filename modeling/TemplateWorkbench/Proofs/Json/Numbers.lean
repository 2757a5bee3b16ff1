import TemplateWorkbench.Json.Writer
import TemplateWorkbench.Proofs.Json.Reading
import TemplateWorkbench.Proofs.Number.Layout

/-!
# Numbers are read as they were written

After a number comes the end of the text, a comma, a bracket or a line break, and none of these goes on
with the number.  So the reader takes exactly the digits, the point and the exponent that were written.
An integer is read from its digits; a double from a decimal in its interval, and so as itself.
-/

namespace TemplateWorkbench.Json

open Number

/-! ### Runs of digits -/

/-- The character, if there is one, neither is a digit nor goes on with a number. -/
def EndsNumber (rest : List Char) : Prop :=
  ∀ c ∈ rest.head?, c.isDigit = false ∧ c ≠ '.' ∧ c ≠ 'e' ∧ c ≠ 'E'

/-- The text does not go on with a digit. -/
def EndsDigits (rest : List Char) : Prop := ∀ c ∈ rest.head?, c.isDigit = false

theorem EndsNumber.endsDigits {rest : List Char} (hends : EndsNumber rest) : EndsDigits rest :=
  fun c hc => (hends c hc).1

theorem digitsThen_append {digits rest : List Char} (hdigits : ∀ c ∈ digits, c.isDigit = true)
    (hends : EndsDigits rest) : digitsThen (digits ++ rest) = (digits.map digitValue, rest) := by
  have hrest : rest.takeWhile Char.isDigit = [] ∧ rest.dropWhile Char.isDigit = rest := by
    cases rest with
    | nil => exact ⟨rfl, rfl⟩
    | cons c others =>
        have hc : ¬ c.isDigit = true := by simp [hends c rfl]
        exact ⟨List.takeWhile_cons_of_neg hc, List.dropWhile_cons_of_neg hc⟩
  rw [digitsThen, List.takeWhile_append_of_pos hdigits, List.dropWhile_append_of_pos hdigits, hrest.1,
    hrest.2, List.append_nil]
  rfl

theorem wholeDigits?_append {digits rest : List Char} (hwhole : IsWhole digits)
    (hends : EndsDigits rest) : wholeDigits? (digits ++ rest) = some (digits.map digitValue, rest) := by
  obtain ⟨hne, hdigits, hzero⟩ := hwhole
  rcases hzero with rfl | hhead
  · rfl
  · have hthen := digitsThen_append hdigits hends
    cases digits with
    | nil => exact absurd rfl hne
    | cons first others =>
        have hfirst : first ≠ '0' := by simpa using hhead
        rw [List.cons_append] at hthen ⊢
        unfold wholeDigits?
        split
        · next heq => exact absurd (List.cons.inj heq).1 hfirst
        · simp [hthen]

theorem fraction?_point {digits rest : List Char} (hne : digits ≠ [])
    (hdigits : ∀ c ∈ digits, c.isDigit = true) (hends : EndsDigits rest) :
    fraction? ('.' :: (digits ++ rest)) = some (digits.map digitValue, rest) := by
  rw [fraction?]
  simp [digitsThen_append hdigits hends, hne]

theorem fraction?_eq_none {rest : List Char} (hends : EndsNumber rest) : fraction? rest = none := by
  unfold fraction?
  split
  · next others => exact absurd rfl (hends '.' rfl).2.1
  · rfl

theorem exponent?_eq_none {rest : List Char} (hends : EndsNumber rest) : exponent? rest = none := by
  cases rest with
  | nil => rfl
  | cons mark others =>
      obtain ⟨-, -, hsmall, hcapital⟩ := hends mark rfl
      simp [exponent?, hsmall, hcapital]

/-- A number is put together again from its sign and its magnitude. -/
theorem ite_natAbs (value : Int) :
    (if decide (value < 0) = true then -(value.natAbs : Int) else value.natAbs) = value := by
  split
  · next hnegative =>
      rw [decide_eq_true_eq] at hnegative
      omega
  · next hnonnegative =>
      rw [decide_eq_true_eq] at hnonnegative
      omega

theorem exponent?_text (exponent : Int) {rest : List Char} (hends : EndsDigits rest) :
    exponent? ('e' :: (exponentText exponent ++ rest)) = some (exponent, rest) := by
  obtain ⟨sign, digits, htext, hsign, hne, hdigits, hnumber⟩ := exponentText_spec exponent
  have hsplit : splitSign (sign :: (digits ++ rest)) = (decide (exponent < 0), digits ++ rest) := by
    rw [hsign]
    split
    · next hnegative => simp [splitSign, hnegative]
    · next hnonnegative => simp [splitSign, hnonnegative]
  have hof : ofDigits 10 (digits.map digitValue) = exponent.natAbs := hnumber
  rw [htext, List.cons_append, exponent?]
  simp only [hsplit, digitsThen_append hdigits hends, hof, ite_natAbs]
  simp [hne]

/-! ### Signed numbers -/

/-- The sign in front of a number. -/
def signText (negative : Bool) : List Char := if negative then ['-'] else []

theorem splitMinus_signText (negative : Bool) {unsigned : List Char}
    (hminus : unsigned.head? ≠ some '-') :
    splitMinus (signText negative ++ unsigned) = (negative, unsigned) := by
  cases negative with
  | true => rfl
  | false =>
      change splitMinus unsigned = _
      unfold splitMinus
      split
      · exact absurd rfl hminus
      · rfl

theorem head?_ne_minus {digits : List Char} (hwhole : IsWhole digits) (rest : List Char) :
    (digits ++ rest).head? ≠ some '-' := by
  obtain ⟨hne, hdigits, -⟩ := hwhole
  cases digits with
  | nil => exact absurd rfl hne
  | cons first others =>
      rintro ⟨⟩
      exact absurd (hdigits '-' List.mem_cons_self) (by decide)

/-- The sign and the whole digits are read, and then what follows them. -/
theorem readNumber_sign (negative : Bool) {digits rest : List Char} (hwhole : IsWhole digits)
    (hends : EndsDigits rest) : readNumber (signText negative ++ (digits ++ rest)) =
      finishNumber negative (digits.map digitValue) rest := by
  unfold readNumber
  rw [splitMinus_signText negative (head?_ne_minus hwhole rest)]
  simp only [wholeDigits?_append hwhole hends]

/-- An integer is read from its digits. -/
theorem readNumber_integer (negative : Bool) {digits rest : List Char} (hwhole : IsWhole digits)
    (hlength : digits.length ≤ digitLimit) (hends : EndsNumber rest) :
    readNumber (signText negative ++ (digits ++ rest)) =
      .ok (.int (if negative then -(numberOf digits : Int) else numberOf digits), rest) := by
  have hshort : ¬ (digits.map digitValue).length > digitLimit := by
    rw [List.length_map]
    exact Nat.not_lt.mpr hlength
  rw [readNumber_sign negative hwhole hends.endsDigits, finishNumber]
  simp only [fraction?_eq_none hends, exponent?_eq_none hends, Option.map_none, Option.getD_none,
    Option.isNone_none, Bool.and_self, if_true, if_neg hshort]
  rfl

/-- A number with a point is a double. -/
theorem readNumber_point (negative : Bool) {whole fraction rest : List Char} (hwhole : IsWhole whole)
    (hne : fraction ≠ []) (hdigits : ∀ c ∈ fraction, c.isDigit = true) (hends : EndsNumber rest) :
    readNumber (signText negative ++ (whole ++ '.' :: (fraction ++ rest))) =
      .ok (.double (DecimalNumeral.toDouble ⟨whole.map digitValue, fraction.map digitValue, 0⟩
        negative), rest) := by
  have hpoint : EndsDigits ('.' :: (fraction ++ rest)) := by
    rintro c ⟨⟩
    rfl
  rw [readNumber_sign negative hwhole hpoint, finishNumber]
  simp only [fraction?_point hne hdigits hends.endsDigits, Option.map_some, Option.getD_some,
    exponent?_eq_none hends, Option.isNone_some, Bool.false_and, Bool.false_eq_true, if_false,
    Option.map_none, Option.getD_none]

/-- A number with an exponent is a double, whether or not it has a point. -/
theorem readNumber_exponent (negative : Bool) {first : Char} {others rest : List Char}
    (exponent : Int) (hfirst : first.isDigit = true) (hdigits : ∀ c ∈ others, c.isDigit = true)
    (hends : EndsNumber rest) :
    readNumber (signText negative ++ (first :: ((if others.isEmpty then [] else '.' :: others) ++
      'e' :: (exponentText exponent ++ rest)))) =
      .ok (.double (DecimalNumeral.toDouble ⟨[digitValue first], others.map digitValue, exponent⟩
        negative), rest) := by
  have hwhole : IsWhole [first] := by
    refine ⟨List.cons_ne_nil _ _, by simpa using hfirst, ?_⟩
    by_cases hzero : first = '0'
    · exact .inl (by rw [hzero])
    · exact .inr (by simpa using hzero)
  have hmark : EndsDigits ('e' :: (exponentText exponent ++ rest)) := by
    rintro c ⟨⟩
    rfl
  have hsplit (tail : List Char) : first :: tail = [first] ++ tail := rfl
  rw [hsplit]
  -- A single digit stands without a point.
  cases others with
  | nil =>
      rw [List.isEmpty_nil, if_pos rfl, List.nil_append, readNumber_sign negative hwhole hmark,
        finishNumber]
      have hfraction : fraction? ('e' :: (exponentText exponent ++ rest)) = none := rfl
      simp only [hfraction, Option.map_none, Option.getD_none, exponent?_text exponent hends.endsDigits,
        Option.isNone_some, Bool.and_false, Bool.false_eq_true, if_false, Option.map_some,
        Option.getD_some]
      rfl
  | cons second others =>
      have hpoint : EndsDigits ('.' :: (second :: others ++ 'e' :: (exponentText exponent ++ rest))) := by
        rintro c ⟨⟩
        rfl
      change readNumber (signText negative ++ ([first] ++
        '.' :: (second :: others ++ 'e' :: (exponentText exponent ++ rest)))) = _
      rw [readNumber_sign negative hwhole hpoint, finishNumber]
      simp only [fraction?_point (List.cons_ne_nil _ _) hdigits hmark, Option.map_some,
        Option.getD_some, exponent?_text exponent hends.endsDigits, Option.isNone_some, Bool.and_false,
        Bool.false_eq_true, if_false]
      rfl

/-! ### Written numbers -/

theorem toList_sign_append (negative : Bool) (text : List Char) :
    ((if negative then "-" else "") ++ String.ofList text).toList = signText negative ++ text := by
  cases negative with
  | true => simp [signText]
  | false => simp [signText]

/-- Digits of the shortest decimal, wherever their point stands, are read as the double. -/
theorem toDouble_of_value {rank : Nat} (negative : Bool) (hpositive : 0 < rank)
    (hrank : rank < Double.endRank) {numeral : DecimalNumeral}
    (hdigits : ∀ digit ∈ numeral.whole ++ numeral.fraction, digit < 10)
    (hnumeral : 0 < ofDigits 10 (numeral.whole ++ numeral.fraction))
    (hvalue : numeral.value = (shortest rank).value) :
    numeral.toDouble negative = .finite negative ⟨rank, hrank⟩ := by
  refine numeral.toDouble_of_encloses negative hpositive hrank hdigits hnumeral ?_
  rw [hvalue]
  exact (readsAs_shortest hpositive hrank).encloses

theorem forall_digitValue_lt {digits : List Char} (hdigits : ∀ c ∈ digits, c.isDigit = true) :
    ∀ digit ∈ digits.map digitValue, digit < 10 := by
  intro digit hmem
  obtain ⟨c, hc, rfl⟩ := List.mem_map.mp hmem
  exact digitValue_lt (hdigits c hc)

/-- A zero is read with its sign. -/
theorem readNumber_zero (negative : Bool) (hrank : 0 < Double.endRank) {rest : List Char}
    (hends : EndsNumber rest) :
    readNumber ((jsonDouble.write (.finite negative ⟨0, hrank⟩)).toList ++ rest) =
      .ok (.double (.finite negative ⟨0, hrank⟩), rest) := by
  have htext : (jsonDouble.write (.finite negative ⟨0, hrank⟩)).toList ++ rest =
      signText negative ++ (['0'] ++ '.' :: (['0'] ++ rest)) := by
    have hzero := toList_sign_append negative ['0', '.', '0']
    rw [DoubleText.write, if_pos rfl]
    exact (congrArg (· ++ rest) hzero).trans (List.append_assoc _ _ _)
  rw [htext, readNumber_point negative ⟨List.cons_ne_nil _ _, by simp, .inl rfl⟩
    (List.cons_ne_nil _ _) (by simp) hends]
  cases negative with
  | true => rfl
  | false => rfl

section Positive

variable {rank : Nat} {digits : List Char} {leading : Int}

/-- The shortest digits of a double are read as the double where they are laid out around a point. -/
theorem readNumber_pointed (negative : Bool) (hpositive : 0 < rank) (hrank : rank < Double.endRank)
    (hleading : AreLeading digits)
    (hvalue : (shortest rank).value = numberOf digits * 10 ^ (leading - (digits.length - 1 : Nat)))
    {rest : List Char} (hends : EndsNumber rest) :
    readNumber (signText negative ++ (pointed digits leading ++ rest)) =
      .ok (.double (.finite negative ⟨rank, hrank⟩), rest) := by
  obtain ⟨whole, fraction, htext, hlaid⟩ := exists_pointed hleading leading
  rw [htext, List.append_assoc, List.cons_append,
    readNumber_point negative hlaid.isWhole hlaid.notEmpty hlaid.areDigits hends]
  have hmap : whole.map digitValue ++ fraction.map digitValue =
      (whole ++ fraction).map digitValue := List.map_append.symm
  rw [toDouble_of_value negative hpositive hrank]
  · rw [hmap]
    exact forall_digitValue_lt fun c hc =>
      (List.mem_append.mp hc).elim (hlaid.isWhole.2.1 c) (hlaid.areDigits c)
  · rw [hmap]
    exact hlaid.positive
  · rw [hvalue, ← hlaid.value, DecimalNumeral.value, pointedValue, hmap, List.length_map, Int.zero_sub]
    rfl

/-- They are read as the double where they are written with an exponent. -/
theorem readNumber_scientific (negative : Bool) (hpositive : 0 < rank) (hrank : rank < Double.endRank)
    (hleading : AreLeading digits)
    (hvalue : (shortest rank).value = numberOf digits * 10 ^ (leading - (digits.length - 1 : Nat)))
    {rest : List Char} (hends : EndsNumber rest) :
    readNumber (signText negative ++ (digits.take 1 ++
        (if (digits.drop 1).isEmpty then [] else '.' :: digits.drop 1) ++ 'e' :: exponentText leading ++
          rest)) =
      .ok (.double (.finite negative ⟨rank, hrank⟩), rest) := by
  cases hcons : digits with
  | nil => exact absurd hcons hleading.ne_nil
  | cons first others =>
      rw [hcons] at hleading hvalue
      obtain ⟨hfirst, hothers⟩ := List.forall_mem_cons.mp hleading.isDigit
      have htext : (first :: others).take 1 ++
          (if ((first :: others).drop 1).isEmpty then [] else '.' :: (first :: others).drop 1) ++
            'e' :: exponentText leading ++ rest =
          first :: ((if others.isEmpty then [] else '.' :: others) ++
            'e' :: (exponentText leading ++ rest)) := by
        simp
      rw [htext, readNumber_exponent negative leading hfirst hothers hends]
      rw [toDouble_of_value negative hpositive hrank]
      · exact forall_digitValue_lt hleading.isDigit
      · exact hleading.numberOf_pos
      · rw [hvalue, DecimalNumeral.value, List.length_map, List.length_cons, Nat.add_sub_cancel]
        rfl

end Positive

/-- A double is read as it was written. -/
theorem readNumber_write (negative : Bool) (rank : Fin Double.endRank) {rest : List Char}
    (hends : EndsNumber rest) :
    readNumber ((jsonDouble.write (.finite negative rank)).toList ++ rest) =
      .ok (.double (.finite negative rank), rest) := by
  obtain ⟨rank, hrank⟩ := rank
  rcases Nat.eq_zero_or_pos rank with rfl | hpositive
  · exact readNumber_zero negative hrank hends
  · obtain ⟨hleading, hvalue⟩ := scientific_spec (readsAs_shortest hpositive hrank).positive
    set digits := (shortest rank).scientific.1 with hdigits
    set leading := (shortest rank).scientific.2 with hexponent
    have hwrite : (jsonDouble.write (.finite negative ⟨rank, hrank⟩)).toList =
        signText negative ++ (if jsonDouble.positionalFrom ≤ leading &&
            leading < jsonDouble.positionalBefore then pointed digits leading
          else digits.take 1 ++ (if (digits.drop 1).isEmpty then [] else '.' :: digits.drop 1) ++
            'e' :: exponentText leading) := by
      rw [DoubleText.write]
      simp only [if_neg hpositive.ne']
      split
      · exact toList_sign_append negative _
      · exact toList_sign_append negative _
    rw [hwrite, List.append_assoc]
    split
    · exact readNumber_pointed negative hpositive hrank hleading hvalue hends
    · exact readNumber_scientific negative hpositive hrank hleading hvalue hends

end TemplateWorkbench.Json
