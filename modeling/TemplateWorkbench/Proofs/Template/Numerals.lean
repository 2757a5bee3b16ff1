import TemplateWorkbench.Proofs.Number.Digits
import TemplateWorkbench.Proofs.Template.Alternation
import TemplateWorkbench.Proofs.Template.Matches

/-!
# Templates that print a numeral

The source `{{ n }}` for a numeral `n` that may be very long.  A decimal numeral with more digits than the
limit makes no token; a hexadecimal one makes a token for any number of digits, and the value of that
token may have more decimal digits than can be written.

Such numerals are too long to be worked out character by character, so the lexer is followed through them
by lemmas on runs of digits.
-/

namespace TemplateWorkbench

open Template (Alternation.forall_ascii)

namespace Unicode

/-- A text in which no character is to be taken away stays as it is. -/
theorem trimBy_eq_self {p : Char → Bool} {text : List Char} (htext : ∀ c ∈ text, p c = false) :
    trimBy p text = text := by
  have hkept (other : List Char) (hother : ∀ c ∈ other, p c = false) : other.dropWhile p = other := by
    cases other with
    | nil => rfl
    | cons c rest => exact List.dropWhile_cons_of_neg (by simp [hother c])
  rw [trimBy, dropLeading, hkept text htext, dropTrailing,
    hkept text.reverse fun c hc => htext c (List.mem_reverse.mp hc), List.reverse_reverse]

end Unicode

namespace Number

/-- Whether a text is made of digits of a base. -/
def AreDigits (base : Nat) (text : List Char) : Prop := ∀ c ∈ text, (digitBelow? base c).isSome = true

/-- A digit of any base is an ASCII character. -/
theorem toNat_lt_of_digit {base : Nat} {c : Char} (hdigit : (digitBelow? base c).isSome = true) :
    c.toNat < 128 := by
  unfold digitBelow? digitOf? at hdigit
  by_contra hlarge
  have hbeyond : ¬ c.toNat ≤ 57 ∧ ¬ c.toNat ≤ 122 ∧ ¬ c.toNat ≤ 90 := by omega
  simp [hbeyond] at hdigit

/-- A digit of base 10 is one of base 16. -/
theorem hex_of_decimal {c : Char} (hdigit : (digitBelow? 10 c).isSome = true) :
    (digitBelow? 16 c).isSome = true := by
  unfold digitBelow? at hdigit ⊢
  cases hvalue : digitOf? c with
  | none =>
      rw [hvalue] at hdigit
      exact hdigit
  | some digit =>
      rw [hvalue, Option.isSome_filter] at hdigit
      simp only [Option.any_some, decide_eq_true_eq] at hdigit
      simp only [Option.isSome_filter, Option.any_some, decide_eq_true_eq]
      omega

/-- What the tables say of a digit of base 16. -/
structure IsDigit (c : Char) : Prop where
  plain : plainCharacter c = c
  notNumeralBlank : isNumeralBlank c = false
  notBlank : Unicode.isBlank c = false
  hex : Template.Lexer.isHexDigit c = true
  notMark : c ∉ ['_', '-', '+', '}', '\n', '\r', '{']
  notZero : c ≠ '0' → digitBelow? 16 c ≠ some 0
  /-- What they say of a digit of base 10. -/
  decimal : (digitBelow? 10 c).isSome = true →
    Unicode.isDigit c = true ∧ (c ≠ '0' → ('1' ≤ c && c ≤ '9') = true)

set_option synthInstance.maxSize 400 in
theorem isDigit_of_hex {c : Char} (hdigit : (digitBelow? 16 c).isSome = true) : IsDigit c := by
  obtain ⟨hplain, hnumeral, hblank, hhex, hmark, hzero, hdecimal⟩ := Alternation.forall_ascii
    (P := fun c => (digitBelow? 16 c).isSome = true →
      plainCharacter c = c ∧ isNumeralBlank c = false ∧ Unicode.isBlank c = false ∧
      Template.Lexer.isHexDigit c = true ∧ c ∉ ['_', '-', '+', '}', '\n', '\r', '{'] ∧
      (c ≠ '0' → digitBelow? 16 c ≠ some 0) ∧
      ((digitBelow? 10 c).isSome = true →
        Unicode.isDigit c = true ∧ (c ≠ '0' → ('1' ≤ c && c ≤ '9') = true)))
    (by decide +kernel) (toNat_lt_of_digit hdigit) hdigit
  exact ⟨hplain, hnumeral, hblank, hhex, hmark, hzero, hdecimal⟩

theorem AreDigits.hex {text : List Char} (hdigits : AreDigits 10 text) : AreDigits 16 text :=
  fun c hc => hex_of_decimal (hdigits c hc)

theorem AreDigits.tail {base : Nat} {c : Char} {rest : List Char} (hdigits : AreDigits base (c :: rest)) :
    AreDigits base rest := fun other hother => hdigits other (List.mem_cons_of_mem c hother)

/-- No character of a numeral has a meaning of its own for the lexer. -/
theorem AreDigits.notMem {text : List Char} (hdigits : AreDigits 16 text) {mark : Char}
    (hmark : mark ∈ ['_', '-', '+', '}', '\n', '\r', '{']) : mark ∉ text := fun hmem =>
  (isDigit_of_hex (hdigits mark hmem)).notMark hmark

/-! ### Reading numerals -/

theorem after_eq {base : Nat} {text : List Char} (hbar : '_' ∉ text) (hdigits : AreDigits base text) :
    digitRun?.after base text = some (text.filterMap (digitBelow? base)) := by
  fun_induction digitRun?.after base text with
  | case1 => rfl
  | case2 c rest ih => exact absurd List.mem_cons_self hbar
  | case3 c rest _ ih =>
      obtain ⟨digit, hdigit⟩ := Option.isSome_iff_exists.mp (hdigits c List.mem_cons_self)
      simp [hdigit, ih (fun hmem => hbar (List.mem_cons_of_mem c hmem)) hdigits.tail]

/-- A run of digits without underscores is read digit by digit. -/
theorem digitRun?_eq {base : Nat} {text : List Char} (hne : text ≠ []) (hbar : '_' ∉ text)
    (hdigits : AreDigits base text) :
    digitRun? base text = some (text.filterMap (digitBelow? base)) := by
  cases text with
  | nil => exact absurd rfl hne
  | cons c rest =>
      rw [List.mem_cons, not_or] at hbar
      obtain ⟨digit, hdigit⟩ := Option.isSome_iff_exists.mp (hdigits c List.mem_cons_self)
      simp [digitRun?, hdigit, after_eq hbar.2 hdigits.tail]

theorem length_filterMap_digits {base : Nat} {text : List Char} (hdigits : AreDigits base text) :
    (text.filterMap (digitBelow? base)).length = text.length := by
  induction text with
  | nil => rfl
  | cons c rest ih =>
      obtain ⟨digit, hdigit⟩ := Option.isSome_iff_exists.mp (hdigits c List.mem_cons_self)
      simp [hdigit, ih hdigits.tail]

/-- A numeral is read as it stands, if nothing in it counts as a blank or a sign. -/
theorem readInteger_eq {first : Char} {rest : List Char} (hfirst : first ≠ '-' ∧ first ≠ '+')
    (hplain : ∀ c ∈ first :: rest, plainCharacter c = c ∧ isNumeralBlank c = false) :
    readInteger 0 (first :: rest) =
      (readUnsigned 0 (first :: rest)).map fun value => (value : Int) := by
  have hmap : (first :: rest).map plainCharacter = first :: rest :=
    (List.map_congr_left fun c hc => (hplain c hc).1).trans (List.map_id _)
  have hsign : splitSign (first :: rest) = (false, first :: rest) := by
    unfold splitSign
    split <;> simp_all
  simp only [readInteger, hmap, Unicode.trimBy_eq_self fun c hc => (hplain c hc).2, hsign]
  rfl

/-- A decimal numeral with more digits than the limit is not read. -/
theorem readInteger_tooLong {numeral : List Char} (hdigits : AreDigits 10 numeral)
    (hzero : numeral.head? ≠ some '0') (hlong : digitLimit < numeral.length) :
    readInteger 0 numeral = .error (.tooLong numeral.length) := by
  cases numeral with
  | nil => exact absurd hlong (Nat.not_lt_zero _)
  | cons first rest =>
      have hdigit (c : Char) (hc : c ∈ first :: rest) : IsDigit c := isDigit_of_hex (hdigits.hex c hc)
      have hfirst : first ≠ '-' ∧ first ≠ '+' := by
        have hnot := (hdigit first List.mem_cons_self).notMark
        simp only [List.mem_cons, not_or] at hnot
        exact ⟨hnot.2.1, hnot.2.2.1⟩
      have hmark : markedBase? (first :: rest) = none := by
        unfold markedBase?
        split
        · next heq => exact absurd (by rw [heq]; rfl) hzero
        · rfl
      have hrun := digitRun?_eq (List.cons_ne_nil first rest)
        (hdigits.hex.notMem (by simp)) hdigits
      rw [readInteger_eq hfirst fun c hc => ⟨(hdigit c hc).plain, (hdigit c hc).notNumeralBlank⟩]
      simp only [readUnsigned, hmark, if_true, hrun, length_filterMap_digits hdigits]
      simp only [Nat.reduceEqDiff, decide_false, Bool.or_self, Bool.not_false, Bool.true_and,
        decide_eq_true_eq, if_pos hlong, gt_iff_lt]
      rfl

/-- A hexadecimal numeral is read whatever its number of digits. -/
theorem readInteger_hexadecimal {digits : List Char} (hne : digits ≠ []) (hdigits : AreDigits 16 digits) :
    readInteger 0 ('0' :: 'x' :: digits) =
      .ok (ofDigits 16 (digits.filterMap (digitBelow? 16)) : Int) := by
  have hplain (c : Char) (hc : c ∈ '0' :: 'x' :: digits) :
      plainCharacter c = c ∧ isNumeralBlank c = false := by
    rcases List.mem_cons.mp hc with rfl | hc
    · decide
    · rcases List.mem_cons.mp hc with rfl | hc
      · decide
      · exact ⟨(isDigit_of_hex (hdigits c hc)).plain, (isDigit_of_hex (hdigits c hc)).notNumeralBlank⟩
  have hbar : '_' ∉ digits := hdigits.notMem (by simp)
  have hmark : markedBase? ('0' :: 'x' :: digits) = some (16, digits) := by
    cases digits with
    | nil => rfl
    | cons c rest =>
        have hc : c ≠ '_' := fun heq => hbar (heq ▸ List.mem_cons_self)
        unfold markedBase?
        simp only
        split
        · next heq => exact absurd (List.cons.inj heq).1 hc
        · rfl
  rw [readInteger_eq (by decide) hplain]
  simp only [readUnsigned, hmark, decide_true, Bool.true_or, if_true, digitRun?_eq hne hbar hdigits]
  rfl

end Number

namespace Template

open Number (AreDigits)

namespace Lexer

/-! ### The lexer on digits -/

theorem markedRun_cons {isDigit : Char → Bool} {c : Char} (hbar : c ≠ '_') (hdigit : isDigit c = true)
    (rest : List Char) : markedRun isDigit (c :: rest) = c :: markedRun isDigit rest := by
  rw [markedRun.eq_def]
  split
  · next heq => exact absurd (List.cons.inj heq).1 hbar
  · next heq =>
      obtain ⟨rfl, rfl⟩ := List.cons.inj heq
      rw [if_pos hdigit]
  · next heq => cases heq

/-- Digits without underscores are all taken. -/
theorem markedRun_append {isDigit : Char → Bool} {digits : List Char} (hbar : '_' ∉ digits)
    (hdigits : ∀ c ∈ digits, isDigit c = true) (hblank : isDigit ' ' = false) (rest : List Char) :
    markedRun isDigit (digits ++ ' ' :: rest) = digits := by
  induction digits with
  | nil => simp [markedRun, hblank]
  | cons c others ih =>
      rw [List.mem_cons, not_or] at hbar
      have hothers := ih hbar.2 fun other hother => hdigits other (List.mem_cons_of_mem c hother)
      rw [List.cons_append, markedRun_cons (Ne.symm hbar.1) (hdigits c List.mem_cons_self), hothers]

theorem more_eq_markedRun (isDigit : Char → Bool) (text : List Char) :
    digitRun.more isDigit text = markedRun isDigit text := by
  fun_induction digitRun.more isDigit text <;> simp_all [markedRun]

/-- A run of digits before a blank is no decimal fraction. -/
theorem float?_eq_none_of_digits {digits : List Char}
    (hrun : ∀ rest, digitRun Unicode.isDigit (digits ++ ' ' :: rest) = digits) (rest : List Char) :
    float? ' ' (digits ++ ' ' :: rest) = none := by
  have hfraction : fraction? (' ' :: rest) = none := by
    unfold fraction?
    split <;> simp_all
  have hexponent : exponent? (' ' :: rest) = none := by simp [exponent?]
  unfold float?
  simp [hrun, hfraction, hexponent]

/-- A numeral that does not begin with a zero has no mark. -/
theorem markedInteger?_eq_none {first : Char} (hzero : first ≠ '0') (small capital : Char)
    (isDigit : Char → Bool) (rest : List Char) :
    markedInteger? small capital isDigit (first :: rest) = none := by
  unfold markedInteger?
  split
  · next heq => exact absurd (List.cons.inj heq).1 hzero
  · rfl

/-- A decimal numeral is taken up to the blank after it. -/
theorem isWord_decimal {numeral : String} {first : Char} {others : List Char}
    (hchars : numeral.toList = first :: others) (hdigits : AreDigits 10 (first :: others))
    (hzero : first ≠ '0') : IsWord .integer numeral := by
  have hdigit (c : Char) (hc : c ∈ first :: others) : Number.IsDigit c :=
    Number.isDigit_of_hex (hdigits.hex c hc)
  have hdecimal (c : Char) (hc : c ∈ first :: others) : Unicode.isDigit c = true :=
    ((hdigit c hc).decimal (hdigits c hc)).1
  have hbar : '_' ∉ others := hdigits.tail.hex.notMem (by simp)
  have hrun (rest : List Char) :
      markedRun Unicode.isDigit (others ++ ' ' :: rest) = others :=
    markedRun_append hbar (fun c hc => hdecimal c (List.mem_cons_of_mem first hc)) (by decide) rest
  have hnot := (hdigit first List.mem_cons_self).notMark
  simp only [List.mem_cons, not_or] at hnot
  refine ⟨⟨first, others, hchars, (hdigit first List.mem_cons_self).notBlank, hnot.2.2.2.1, hnot.2.1⟩,
    fun rest => ?_, ?_, by decide⟩
  -- No blank, no float and no numeral with a mark begins here, so the plain integer is found.
  · have hblanks : (first :: others ++ ' ' :: rest).takeWhile Unicode.isBlank = [] := by
      rw [List.cons_append, List.takeWhile_cons_of_neg]
      simp [(hdigit first List.mem_cons_self).notBlank]
    have hfloat : float? ' ' (first :: others ++ ' ' :: rest) = none := by
      refine float?_eq_none_of_digits (fun rest => ?_) rest
      rw [List.cons_append, digitRun, if_pos (hdecimal first List.mem_cons_self), more_eq_markedRun, hrun]
    have hplain : plainInteger? (first :: others ++ ' ' :: rest) = some (first :: others) := by
      have horder := ((hdigit first List.mem_cons_self).decimal (hdigits first List.mem_cons_self)).2 hzero
      rw [List.cons_append]
      unfold plainInteger?
      split
      · next heq => exact absurd (List.cons.inj heq).1 hzero
      · next heq =>
          obtain ⟨rfl, rfl⟩ := List.cons.inj heq
          rw [if_pos horder, hrun]
      · next heq => cases heq
    rw [hchars, inside?, hblanks, hfloat, integer?]
    simp only [List.cons_append, markedInteger?_eq_none hzero] at hplain ⊢
    rw [hplain]
    rfl
  · rw [hchars, newlines, List.count_eq_zero]
    exact hdigits.hex.notMem (by simp)

/-- A hexadecimal numeral is taken up to the blank after it. -/
theorem isWord_hexadecimal {numeral : String} {digits : List Char}
    (hchars : numeral.toList = '0' :: 'x' :: digits) (hdigits : AreDigits 16 digits) (hne : digits ≠ []) :
    IsWord .integer numeral := by
  have hbar : '_' ∉ digits := hdigits.notMem (by simp)
  have hrun (rest : List Char) : markedRun isHexDigit (digits ++ ' ' :: rest) = digits :=
    markedRun_append hbar (fun c hc => (Number.isDigit_of_hex (hdigits c hc)).hex) (by decide) rest
  refine ⟨⟨'0', 'x' :: digits, hchars, by decide, by decide, by decide⟩, fun rest => ?_, ?_, by decide⟩
  · have hfloat : float? ' ' ('0' :: 'x' :: (digits ++ ' ' :: rest)) = none := by
      have hwhole : digitRun Unicode.isDigit ('0' :: 'x' :: (digits ++ ' ' :: rest)) = ['0'] := by
        have hzero : Unicode.isDigit '0' = true := by decide
        have hx : Unicode.isDigit 'x' = false := by decide
        simp [digitRun, digitRun.more, hzero, hx]
      simp [float?, hwhole, fraction?, exponent?]
    have hinteger : integer? ('0' :: 'x' :: (digits ++ ' ' :: rest)) = some numeral.toList := by
      simp [integer?, markedInteger?, hrun, hne, hchars]
    rw [inside?, hchars]
    simp only [List.cons_append, hfloat, hinteger, hchars]
    rfl
  · rw [hchars, newlines, List.count_eq_zero]
    simp [hdigits.notMem]

/-- The pieces of a print of a word. -/
theorem lex_tag {kind : PieceKind} {word : String} (hword : IsWord kind word) (hcr : '\r' ∉ word.toList) :
    lex (Alternation.tag word) =
      ⟨[⟨1, .variableBegin, ['{', '{']⟩, ⟨1, .whitespace, [' ']⟩, ⟨1, kind, word.toList⟩,
        ⟨1, .whitespace, [' ']⟩, ⟨1, .variableEnd, ['}', '}']⟩], none⟩ := by
  have hunify : Text.unify (Alternation.tag word) = Alternation.tag word :=
    Text.unify_eq_self (by simp [Alternation.tag, hcr])
  have hsource : lexerSource (Alternation.tag word) = Alternation.tag word := by
    have hends : Alternation.tag word = ('{' :: '{' :: ' ' :: (word.toList ++ [' ', '}'])) ++ ['}'] := by
      simp [Alternation.tag]
    rw [lexerSource, hunify, hends, Text.dropFinalNewline_append_cons (by decide)]
    rfl
  obtain ⟨fuel, hfuel⟩ : ∃ fuel, (Alternation.tag word).length + 1 = fuel + 5 := by
    refine ⟨(Alternation.tag word).length - 4, ?_⟩
    have hlong : 6 ≤ (Alternation.tag word).length := by simp [Alternation.tag]
    omega
  have hrun := run_word List.not_mem_nil hword [] (Alternation.tag word).length fuel 1 ' '
  rw [List.nil_append, List.append_nil] at hrun
  rw [lex, hsource, hfuel]
  simp only [hrun, run_nil]
  rfl

end Lexer

/-! ### Tokens -/

/-- The value of hexadecimal digits. -/
def hexValue (digits : List Char) : Nat :=
  Number.ofDigits 16 (digits.filterMap (Number.digitBelow? 16))

/-- A number of hexadecimal digits that is out of reach for the greatest number that can be written. -/
def hexLimit : Nat := 3572

/-- A hexadecimal numeral of many digits has a value that is too long to be written. -/
theorem isTooLong_hexValue {first : Char} {others : List Char} (hdigits : AreDigits 16 (first :: others))
    (hzero : first ≠ '0') (hlong : hexLimit ≤ others.length) :
    Number.isTooLong (hexValue (first :: others)) = true := by
  obtain ⟨digit, hdigit⟩ := Option.isSome_iff_exists.mp (hdigits first List.mem_cons_self)
  have hvalue : hexValue (first :: others) =
      Number.ofDigits 16 (digit :: others.filterMap (Number.digitBelow? 16)) := by
    rw [hexValue, List.filterMap_cons_some hdigit]
  have hpositive : 0 < digit := Nat.pos_of_ne_zero fun heq =>
    (Number.isDigit_of_hex (hdigits first List.mem_cons_self)).notZero hzero (heq ▸ hdigit)
  have hpower : Nat.pow 10 Number.digitLimit ≤ 16 ^ hexLimit := by decide +kernel
  have hlarge : Nat.pow 10 Number.digitLimit ≤ hexValue (first :: others) :=
    calc Nat.pow 10 Number.digitLimit ≤ 16 ^ hexLimit := hpower
      _ ≤ 16 ^ others.length := Nat.pow_le_pow_right (by decide) hlong
      _ = 16 ^ (others.filterMap (Number.digitBelow? 16)).length := by
        rw [Number.length_filterMap_digits hdigits.tail]
      _ ≤ hexValue (first :: others) := by
        rw [hvalue]
        exact Number.pow_le_ofDigits hpositive _
  by_contra hshort
  exact absurd (Number.isTooLong_eq_false_iff.mp (Bool.eq_false_iff.mpr hshort)) (Nat.not_lt.mpr hlarge)

theorem integerLiteral_eq {numeral : List Char} (hbar : '_' ∉ numeral) :
    integerLiteral numeral = match Number.readInteger 0 numeral with
      | .ok value => .ok value
      | .error (.tooLong digits) => .error (.tooLong digits)
      | .error _ => .ok 0 := by
  have hkept : numeral.filter (· != '_') = numeral :=
    List.filter_eq_self.mpr fun c hc => bne_iff_ne.mpr fun heq => hbar (heq ▸ hc)
  rw [integerLiteral, hkept]
  all_goals rfl

/-- The tokens of a print end where its numeral is longer than the limit. -/
theorem tokenize_decimal {numeral : String} {first : Char} {others : List Char}
    (hchars : numeral.toList = first :: others) (hdigits : AreDigits 10 (first :: others))
    (hzero : first ≠ '0') (hlong : Number.digitLimit < (first :: others).length) :
    tokenize (Alternation.tag numeral) =
      ⟨[⟨1, .variableBegin⟩], some (1, .literal (.tooLong (first :: others).length))⟩ := by
  have hword := Lexer.isWord_decimal hchars hdigits hzero
  have hcr : '\r' ∉ numeral.toList := hchars ▸ hdigits.hex.notMem (by simp)
  have hliteral : integerLiteral numeral.toList = .error (.tooLong (first :: others).length) := by
    rw [hchars, integerLiteral_eq (hdigits.hex.notMem (by simp)),
      Number.readInteger_tooLong hdigits (by simpa using hzero) hlong]
  simp [tokenize, Lexer.lex_tag hword hcr, tokensOf, Piece.lexeme?, hliteral, literalLexeme]

/-- A hexadecimal numeral is one token. -/
theorem tokenize_hexadecimal {numeral : String} {digits : List Char}
    (hchars : numeral.toList = '0' :: 'x' :: digits) (hdigits : AreDigits 16 digits) (hne : digits ≠ []) :
    tokenize (Alternation.tag numeral) =
      ⟨[⟨1, .variableBegin⟩,
        ⟨1, .integer (hexValue digits)⟩,
        ⟨1, .variableEnd⟩], none⟩ := by
  have hword := Lexer.isWord_hexadecimal hchars hdigits hne
  have hcr : '\r' ∉ numeral.toList := by simp [hchars, hdigits.notMem]
  have hbar : '_' ∉ numeral.toList := by simp [hchars, hdigits.notMem]
  have hliteral : integerLiteral numeral.toList =
      .ok (hexValue digits : Int) := by
    rw [integerLiteral_eq hbar, hchars, Number.readInteger_hexadecimal hne hdigits, hexValue]
  simp [tokenize, Lexer.lex_tag hword hcr, tokensOf, Piece.lexeme?, hliteral, literalLexeme]

end Template

end TemplateWorkbench
