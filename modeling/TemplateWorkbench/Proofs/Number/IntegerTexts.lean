import TemplateWorkbench.Proofs.Results
import TemplateWorkbench.Proofs.Template.Numerals

/-!
# The texts of integers

Which texts are read as decimal integers, told without the way in which they are read:

```text
integer   blank* sign? run blank*       with no more digits than the limit
sign      "+" | "-"
run       digit | digit run | digit "_" run
digit     a decimal digit of any script
blank     white space other than an information separator
```

The reader first takes away the scripts, which puts digits and blanks into ASCII, and then works in ASCII
only.  So the characters are compared once, in `digitBelow?_plainCharacter` and its companions, and the rest
is about the grammar.
-/

namespace TemplateWorkbench.Number

open Template (Alternation.forall_ascii)

/-! ### The grammar -/

/-- White space that may stand beside an integer. -/
def IsMargin (c : Char) : Prop := Unicode.isBlank c = true ∧ ¬ (28 ≤ c.toNat ∧ c.toNat ≤ 31)

/-- Digits of any script, with underscores standing singly between them. -/
inductive IsRun : List Char → List Nat → Prop where
  | last {c : Char} {digit : Nat} (hdigit : Unicode.digitValue? c = some digit) : IsRun [c] [digit]
  | next {c : Char} {digit : Nat} {text : List Char} {digits : List Nat}
      (hdigit : Unicode.digitValue? c = some digit) (hrun : IsRun text digits) :
      IsRun (c :: text) (digit :: digits)
  | bar {c : Char} {digit : Nat} {text : List Char} {digits : List Nat}
      (hdigit : Unicode.digitValue? c = some digit) (hrun : IsRun text digits) :
      IsRun (c :: '_' :: text) (digit :: digits)

/-- The parts of a text that stands for an integer. -/
structure IntegerParts where
  before : List Char
  sign : List Char
  run : List Char
  after : List Char
  digits : List Nat
  margin_before : ∀ c ∈ before, IsMargin c
  margin_after : ∀ c ∈ after, IsMargin c
  isSign : sign ∈ [[], ['+'], ['-']]
  isRun : IsRun run digits
  isShort : digits.length ≤ digitLimit

/-- The text that is made of the parts. -/
def IntegerParts.text (parts : IntegerParts) : List Char :=
  parts.before ++ (parts.sign ++ parts.run) ++ parts.after

/-- The integer with the sign and the digits. -/
def IntegerParts.value (parts : IntegerParts) : Int :=
  if parts.sign = ['-'] then -(ofDigits 10 parts.digits : Int) else ofDigits 10 parts.digits

/-- A text stands for an integer. -/
def Denotes (text : String) (value : Int) : Prop :=
  ∃ parts : IntegerParts, parts.text = text.toList ∧ parts.value = value

/-! ### Characters -/

/-- No blank is a digit. -/
theorem digitValue?_of_isBlank {c : Char} (hblank : Unicode.isBlank c = true) :
    Unicode.digitValue? c = none := by
  have hcode : c.toNat ∈ List.range' 9 5 ++ List.range' 28 5 ++ [0x85, 0xA0, 0x1680] ++
      List.range' 0x2000 11 ++ [0x2028, 0x2029, 0x202F, 0x205F, 0x3000] := by
    simp [Unicode.isBlank] at hblank ⊢
    omega
  have hnone : ∀ code ∈ List.range' 9 5 ++ List.range' 28 5 ++ [0x85, 0xA0, 0x1680] ++
      List.range' 0x2000 11 ++ [0x2028, 0x2029, 0x202F, 0x205F, 0x3000],
      (Unicode.digitZeros.find? fun first => first ≤ code && code < first + 10) = none := by
    decide +kernel
  rw [Unicode.digitValue?, hnone c.toNat hcode]
  rfl

theorem digitValue?_lt {c : Char} {digit : Nat} (hdigit : Unicode.digitValue? c = some digit) :
    digit < 10 := by
  obtain ⟨first, hfind, rfl⟩ := Option.map_eq_some_iff.mp hdigit
  have hholds := Array.find?_some hfind
  simp only [Bool.and_eq_true, decide_eq_true_eq] at hholds
  omega

/-- What a character becomes when its script is taken away, by the kinds of characters. -/
theorem plainCharacter_cases {P : Char → Char → Prop}
    (ascii : ∀ c, c.toNat < 128 → P c c)
    (blank : ∀ c, 128 ≤ c.toNat → Unicode.isBlank c = true → P c ' ')
    (digit : ∀ c value, 128 ≤ c.toNat → Unicode.digitValue? c = some value →
      P c (Char.ofNat (48 + value)))
    (other : ∀ c, 128 ≤ c.toNat → Unicode.isBlank c = false → Unicode.digitValue? c = none → P c c)
    (c : Char) : P c (plainCharacter c) := by
  by_cases hascii : c.toNat < 128
  · rw [plainCharacter, if_pos hascii]
    exact ascii c hascii
  · rw [Nat.not_lt] at hascii
    rw [plainCharacter, if_neg (Nat.not_lt.mpr hascii)]
    split
    · next hblank => exact blank c hascii hblank
    · next hblank =>
        split
        · next value hvalue => exact digit c value hascii hvalue
        · next hvalue => exact other c hascii (Bool.eq_false_iff.mpr hblank) hvalue

/-- Digits of all scripts become ASCII digits, and nothing else does. -/
theorem digitBelow?_plainCharacter (c : Char) :
    digitBelow? 10 (plainCharacter c) = Unicode.digitValue? c := by
  have hascii : ∀ code < 128,
      digitBelow? 10 (Char.ofNat code) = Unicode.digitValue? (Char.ofNat code) := by decide +kernel
  refine plainCharacter_cases (P := fun c plain => digitBelow? 10 plain = Unicode.digitValue? c)
    (fun c hc => Alternation.forall_ascii (P := fun c => digitBelow? 10 c = Unicode.digitValue? c) hascii hc)
    ?_ ?_ ?_ c
  · intro c _ hblank
    rw [digitValue?_of_isBlank hblank]
    rfl
  · intro c value _ hvalue
    have hascii : ∀ value < 10, digitBelow? 10 (Char.ofNat (48 + value)) = some value := by decide
    rw [hascii value (digitValue?_lt hvalue), hvalue]
  · intro c hfar _ hvalue
    rw [hvalue, ← Option.not_isSome_iff_eq_none]
    exact fun hdigit => absurd (toNat_lt_of_digit hdigit) (Nat.not_lt.mpr hfar)

/-- White space beside an integer becomes ASCII white space, and nothing else does. -/
theorem isNumeralBlank_plainCharacter (c : Char) :
    isNumeralBlank (plainCharacter c) = true ↔ IsMargin c := by
  refine plainCharacter_cases (P := fun c plain => isNumeralBlank plain = true ↔ IsMargin c) ?_ ?_ ?_ ?_ c
  · intro c hc
    have hascii : ∀ code < 128, isNumeralBlank (Char.ofNat code) = true ↔ IsMargin (Char.ofNat code) := by
      unfold IsMargin
      decide +kernel
    exact Alternation.forall_ascii (P := fun c => isNumeralBlank c = true ↔ IsMargin c) hascii hc
  · intro c hfar hblank
    exact iff_of_true rfl ⟨hblank, by omega⟩
  · intro c value _ hvalue
    have hascii : ∀ value < 10, isNumeralBlank (Char.ofNat (48 + value)) ≠ true := by decide
    refine iff_of_false (hascii value (digitValue?_lt hvalue)) fun hmargin => ?_
    rw [digitValue?_of_isBlank hmargin.1] at hvalue
    cases hvalue
  · intro c hfar hblank _
    refine iff_of_false ?_ fun hmargin => Bool.eq_false_iff.mp hblank hmargin.1
    have hne : c ≠ ' ' := by
      rintro rfl
      exact absurd hfar (by decide)
    simp only [isNumeralBlank, Bool.or_eq_true, beq_iff_eq, hne, Bool.and_eq_true, decide_eq_true_eq,
      false_or]
    omega

/-- Nothing becomes an underscore or a sign. -/
theorem plainCharacter_eq_iff {mark : Char} (hmark : mark ∈ ['_', '+', '-']) (c : Char) :
    plainCharacter c = mark ↔ c = mark := by
  have hcode : mark.toNat < 128 := by
    simp only [List.mem_cons, List.not_mem_nil, or_false] at hmark
    rcases hmark with rfl | rfl | rfl <;> decide
  have hne {c : Char} (hfar : 128 ≤ c.toNat) : c ≠ mark := by
    rintro rfl
    omega
  refine plainCharacter_cases (P := fun c plain => plain = mark ↔ c = mark) ?_ ?_ ?_ ?_ c
  · exact fun _ _ => Iff.rfl
  · intro c hfar _
    refine iff_of_false ?_ (hne hfar)
    rintro rfl
    exact absurd hmark (by decide)
  · intro c value hfar hvalue
    have hascii : ∀ value < 10, Char.ofNat (48 + value) ∉ ['_', '+', '-'] := by decide
    refine iff_of_false ?_ (hne hfar)
    rintro rfl
    exact hascii value (digitValue?_lt hvalue) hmark
  · exact fun c _ _ _ => Iff.rfl

/-! ### Runs of digits -/

variable {base : Nat} {text : List Char} {digits : List Nat}

theorem digitBelow?_bar (base : Nat) : digitBelow? base '_' = none := rfl

theorem digitRun?_cons_eq_some_iff {c : Char} :
    digitRun? base (c :: text) = some digits ↔ ∃ digit others, digitBelow? base c = some digit ∧
      digitRun?.after base text = some others ∧ digits = digit :: others := by
  simp only [digitRun?, bind, pure, Option.bind_eq_some_iff, Option.some.injEq, @eq_comm _ digits,
    exists_and_left]

theorem after_bar (base : Nat) (text : List Char) :
    digitRun?.after base ('_' :: text) = digitRun? base text := by
  cases text with
  | nil => rfl
  | cons c rest => rfl

theorem after_cons {c : Char} (hc : c ≠ '_') (rest : List Char) :
    digitRun?.after base (c :: rest) = digitRun? base (c :: rest) := by
  rw [digitRun?.after, digitRun?]
  exact fun _ _ h _ => hc h

/-- A run may follow a digit. -/
theorem after_of_digitRun? (hrun : digitRun? base text = some digits) :
    digitRun?.after base text = some digits := by
  cases text with
  | nil => cases hrun
  | cons c rest =>
      have hc : c ≠ '_' := by
        rintro rfl
        obtain ⟨digit, others, hdigit, -, -⟩ := digitRun?_cons_eq_some_iff.mp hrun
        rw [digitBelow?_bar] at hdigit
        cases hdigit
      rw [after_cons hc, hrun]

/-- What is read behind a digit makes a run together with the digit. -/
theorem isRun_cons_of_after {c : Char} {digit : Nat} (hdigit : Unicode.digitValue? c = some digit)
    (hafter : digitRun?.after 10 (text.map plainCharacter) = some digits) :
    IsRun (c :: text) (digit :: digits) := by
  have hbar : plainCharacter '_' = '_' := rfl
  -- By the recursion of the reader: the end, a bar with a digit behind it, or the next digit.
  induction text using digitRun?.after.induct generalizing c digit digits with
  | case1 =>
      cases hafter
      exact .last hdigit
  | case2 next rest ih =>
      rw [List.map_cons, hbar, after_bar, List.map_cons, digitRun?_cons_eq_some_iff] at hafter
      obtain ⟨value, others, hvalue, hothers, rfl⟩ := hafter
      rw [digitBelow?_plainCharacter] at hvalue
      exact .bar hdigit (ih hvalue hothers)
  | case3 next rest hlone ih =>
      have hnext : next ≠ '_' := by
        rintro rfl
        cases rest with
        | nil => cases hafter
        | cons other rest => exact hlone other rest rfl rfl
      rw [List.map_cons, after_cons (mt (plainCharacter_eq_iff (by decide) next).mp hnext),
        digitRun?_cons_eq_some_iff] at hafter
      obtain ⟨value, others, hvalue, hothers, rfl⟩ := hafter
      rw [digitBelow?_plainCharacter] at hvalue
      exact .next hdigit (ih hvalue hothers)

/-- The reader accepts exactly the runs, and reads their digits. -/
theorem digitRun?_plain_iff : digitRun? 10 (text.map plainCharacter) = some digits ↔ IsRun text digits := by
  constructor
  · intro hrun
    cases text with
    | nil => cases hrun
    | cons c rest =>
        obtain ⟨digit, others, hdigit, hothers, rfl⟩ := digitRun?_cons_eq_some_iff.mp hrun
        rw [digitBelow?_plainCharacter] at hdigit
        exact isRun_cons_of_after hdigit hothers
  · intro hrun
    induction hrun with
    | last hdigit =>
        exact digitRun?_cons_eq_some_iff.mpr
          ⟨_, [], (digitBelow?_plainCharacter _).trans hdigit, rfl, rfl⟩
    | next hdigit _ ih =>
        exact digitRun?_cons_eq_some_iff.mpr
          ⟨_, _, (digitBelow?_plainCharacter _).trans hdigit, after_of_digitRun? ih, rfl⟩
    | bar hdigit _ ih =>
        refine digitRun?_cons_eq_some_iff.mpr
          ⟨_, _, (digitBelow?_plainCharacter _).trans hdigit, ?_, rfl⟩
        exact (after_bar 10 _).trans ih

/-- A run begins with a digit. -/
theorem IsRun.exists_cons (hrun : IsRun text digits) :
    ∃ c rest digit, text = c :: rest ∧ Unicode.digitValue? c = some digit := by
  cases hrun with
  | last hdigit | next hdigit _ | bar hdigit _ => exact ⟨_, _, _, rfl, hdigit⟩

/-- A run holds digits and underscores only, and so no white space. -/
theorem IsRun.not_isMargin (hrun : IsRun text digits) : ∀ c ∈ text, ¬ IsMargin c := by
  have hdigits {c : Char} {digit : Nat} (hdigit : Unicode.digitValue? c = some digit) : ¬ IsMargin c := by
    intro hmargin
    rw [digitValue?_of_isBlank hmargin.1] at hdigit
    cases hdigit
  have hbar : ¬ IsMargin '_' := fun hmargin => absurd hmargin.1 (by decide)
  induction hrun with
  | last hdigit => simpa using hdigits hdigit
  | next hdigit _ ih => exact List.forall_mem_cons.mpr ⟨hdigits hdigit, ih⟩
  | bar hdigit _ ih =>
      exact List.forall_mem_cons.mpr ⟨hdigits hdigit, List.forall_mem_cons.mpr ⟨hbar, ih⟩⟩

end TemplateWorkbench.Number

namespace TemplateWorkbench.Unicode

/-! ### Ends of texts -/

/-- What trimming takes away stands at the ends. -/
theorem exists_trimBy (p : Char → Bool) (text : List Char) :
    ∃ before after, text = before ++ trimBy p text ++ after ∧ (∀ c ∈ before, p c = true) ∧
      ∀ c ∈ after, p c = true := by
  have hleading : text.takeWhile p ++ dropLeading p text = text := List.takeWhile_append_dropWhile
  have htrailing : trimBy p text ++ ((dropLeading p text).reverse.takeWhile p).reverse =
      dropLeading p text := by
    rw [trimBy, dropTrailing, ← List.reverse_append, List.takeWhile_append_dropWhile,
      List.reverse_reverse]
  refine ⟨text.takeWhile p, ((dropLeading p text).reverse.takeWhile p).reverse, ?_,
    fun c hc => List.mem_takeWhile_imp hc,
    fun c hc => List.mem_takeWhile_imp (List.mem_reverse.mp hc)⟩
  rw [List.append_assoc, htrailing, hleading]

/-- Trimming takes away what stands at the ends, and nothing else if the rest is free of it. -/
theorem trimBy_append {p : Char → Bool} {before middle after : List Char} (hne : middle ≠ [])
    (hbefore : ∀ c ∈ before, p c = true) (hmiddle : ∀ c ∈ middle, p c = false)
    (hafter : ∀ c ∈ after, p c = true) : trimBy p (before ++ middle ++ after) = middle := by
  have hkept (kept others : List Char) (hsome : kept ≠ []) (hkept : ∀ c ∈ kept, p c = false) :
      (kept ++ others).dropWhile p = kept ++ others := by
    cases kept with
    | nil => exact absurd rfl hsome
    | cons c rest => exact List.dropWhile_cons_of_neg (by simp [hkept c])
  have hfront : dropLeading p (before ++ middle ++ after) = middle ++ after := by
    rw [dropLeading, List.append_assoc, List.dropWhile_append_of_pos hbefore, hkept middle after hne hmiddle]
  rw [trimBy, hfront, dropTrailing, List.reverse_append,
    List.dropWhile_append_of_pos fun c hc => hafter c (List.mem_reverse.mp hc)]
  have hback := hkept middle.reverse [] (by simpa using hne) fun c hc =>
    hmiddle c (List.mem_reverse.mp hc)
  rw [List.append_nil] at hback
  rw [hback, List.reverse_reverse]

/-- A text may be trimmed before or after its characters are replaced. -/
theorem trimBy_map (p : Char → Bool) (f : Char → Char) (text : List Char) :
    trimBy p (text.map f) = (trimBy (p ∘ f) text).map f := by
  simp only [trimBy, dropTrailing, dropLeading, List.dropWhile_map, ← List.map_reverse]

end TemplateWorkbench.Unicode

namespace TemplateWorkbench.Number

variable {text : List Char} {digits : List Nat} {value : Int}

/-! ### Signs -/

theorem splitSign_cons {c : Char} (hminus : c ≠ '-') (hplus : c ≠ '+') (rest : List Char) :
    splitSign (c :: rest) = (false, c :: rest) := by
  unfold splitSign
  split
  · next heq => exact absurd (List.cons.inj heq).1 hminus
  · next heq => exact absurd (List.cons.inj heq).1 hplus
  · rfl

/-- The sign comes off whether the scripts have been taken away or not. -/
theorem splitSign_plain (text : List Char) : splitSign (text.map plainCharacter) =
    ((splitSign text).1, (splitSign text).2.map plainCharacter) := by
  cases text with
  | nil => rfl
  | cons c rest =>
      by_cases hminus : c = '-'
      · subst hminus
        rfl
      by_cases hplus : c = '+'
      · subst hplus
        rfl
      rw [splitSign_cons hminus hplus, List.map_cons,
        splitSign_cons (mt (plainCharacter_eq_iff (by decide) c).mp hminus)
          (mt (plainCharacter_eq_iff (by decide) c).mp hplus)]

/-- What comes off is a sign. -/
theorem exists_sign (text : List Char) : ∃ sign ∈ [[], ['+'], ['-']],
    text = sign ++ (splitSign text).2 ∧ (splitSign text).1 = decide (sign = ['-']) := by
  unfold splitSign
  split
  · exact ⟨['-'], by decide, rfl, rfl⟩
  · exact ⟨['+'], by decide, rfl, rfl⟩
  · exact ⟨[], by decide, rfl, rfl⟩

/-- A sign in front of a run comes off. -/
theorem splitSign_append {sign run : List Char} (hsign : sign ∈ [[], ['+'], ['-']])
    (hrun : IsRun run digits) : splitSign (sign ++ run) = (decide (sign = ['-']), run) := by
  simp only [List.mem_cons, List.not_mem_nil, or_false] at hsign
  rcases hsign with rfl | rfl | rfl
  · obtain ⟨c, rest, digit, rfl, hdigit⟩ := hrun.exists_cons
    have hne {mark : Char} (hmark : Unicode.digitValue? mark = none) : c ≠ mark := by
      rintro rfl
      rw [hmark] at hdigit
      cases hdigit
    exact splitSign_cons (hne (by decide)) (hne (by decide)) rest
  · rfl
  · rfl

/-- No sign is white space. -/
theorem not_isMargin_of_isSign {sign : List Char} (hsign : sign ∈ [[], ['+'], ['-']]) :
    ∀ c ∈ sign, ¬ IsMargin c := by
  have hplus : ¬ IsMargin '+' := fun hmargin => absurd hmargin.1 (by decide)
  have hminus : ¬ IsMargin '-' := fun hmargin => absurd hmargin.1 (by decide)
  simp only [List.mem_cons, List.not_mem_nil, or_false] at hsign
  rcases hsign with rfl | rfl | rfl
  · exact fun _ hc => absurd hc List.not_mem_nil
  · simpa using hplus
  · simpa using hminus

/-! ### Reading -/

/-- No mark announces the base ten, so an unsigned numeral is a run and nothing else. -/
theorem readUnsigned_ten_iff {number : Nat} : readUnsigned 10 text = .ok number ↔
    ∃ digits, digitRun? 10 text = some digits ∧ digits.length ≤ digitLimit ∧
      number = ofDigits 10 digits := by
  have hmarked : ∀ mark ∈ markedBase? text, mark.1 ≠ 10 := by
    intro mark hmark
    unfold markedBase? at hmark
    split at hmark
    · dsimp only at hmark
      split at hmark <;> cases hmark <;> simp
    · cases hmark
  have hread : readUnsigned 10 text =
      (digitRun? 10 text).elim (.error .malformed) fun digits =>
        if digitLimit < digits.length then .error (.tooLong digits.length)
        else .ok (ofDigits 10 digits) := by
    cases hmark : markedBase? text with
    | none => cases hrun : digitRun? 10 text <;> simp [readUnsigned, hmark, hrun]
    | some mark =>
        have hother := (hmarked mark hmark).symm
        cases hrun : digitRun? 10 text <;> simp [readUnsigned, hmark, hother, hrun]
  rw [hread]
  cases hrun : digitRun? 10 text with
  | none => simp
  | some digits =>
      by_cases hlong : digitLimit < digits.length
      · simp [hlong]
      · simp [hlong, Nat.le_of_not_lt hlong, eq_comm]

/-- The texts that are read as decimal integers are those that stand for an integer. -/
theorem readInteger_ten_iff (text : String) (value : Int) :
    readInteger 10 text.toList = .ok value ↔ Denotes text value := by
  have hmargin (c : Char) : (isNumeralBlank ∘ plainCharacter) c = true ↔ IsMargin c :=
    isNumeralBlank_plainCharacter c
  have hread : readInteger 10 text.toList =
      let parts := splitSign (Unicode.trimBy (isNumeralBlank ∘ plainCharacter) text.toList)
      (readUnsigned 10 (parts.2.map plainCharacter)).map
        fun (number : Nat) => if parts.1 then -(number : Int) else (number : Int) := by
    simp only [readInteger, Unicode.trimBy_map, splitSign_plain]
    cases readUnsigned 10 _ <;> rfl
  rw [hread]
  -- In both directions the margins come off first, then the sign, and a run of digits is left.
  constructor
  · intro hok
    obtain ⟨number, hnumber, rfl⟩ := Results.map_eq_ok_iff.mp hok
    obtain ⟨digits, hdigits, hshort, rfl⟩ := readUnsigned_ten_iff.mp hnumber
    obtain ⟨before, after, htext, hbefore, hafter⟩ :=
      Unicode.exists_trimBy (isNumeralBlank ∘ plainCharacter) text.toList
    obtain ⟨sign, hsign, hsplit, hnegative⟩ :=
      exists_sign (Unicode.trimBy (isNumeralBlank ∘ plainCharacter) text.toList)
    refine ⟨⟨before, sign, _, after, digits, fun c hc => (hmargin c).mp (hbefore c hc),
      fun c hc => (hmargin c).mp (hafter c hc), hsign, digitRun?_plain_iff.mp hdigits, hshort⟩, ?_, ?_⟩
    · rw [IntegerParts.text, ← hsplit, ← htext]
    · simp [IntegerParts.value, hnegative]
  · rintro ⟨parts, htext, rfl⟩
    have hmiddle : ∀ c ∈ parts.sign ++ parts.run, (isNumeralBlank ∘ plainCharacter) c = false := by
      intro c hc
      rw [Bool.eq_false_iff, ne_eq, hmargin]
      rcases List.mem_append.mp hc with hc | hc
      · exact not_isMargin_of_isSign parts.isSign c hc
      · exact parts.isRun.not_isMargin c hc
    have hne : parts.sign ++ parts.run ≠ [] := by
      obtain ⟨c, rest, digit, hrun, -⟩ := parts.isRun.exists_cons
      simp [hrun]
    have htrim : Unicode.trimBy (isNumeralBlank ∘ plainCharacter) text.toList =
        parts.sign ++ parts.run := by
      rw [← htext, IntegerParts.text]
      exact Unicode.trimBy_append hne (fun c hc => (hmargin c).mpr (parts.margin_before c hc)) hmiddle
        fun c hc => (hmargin c).mpr (parts.margin_after c hc)
    have hunsigned := readUnsigned_ten_iff.mpr
      ⟨parts.digits, digitRun?_plain_iff.mpr parts.isRun, parts.isShort, rfl⟩
    simp only [htrim, splitSign_append parts.isSign parts.isRun, hunsigned]
    simp [Except.map, IntegerParts.value]

example : readInteger 10 "\u2003-1_٢ ".toList = .ok (-12) := by decide +kernel

/-- A text stands for one integer at most. -/
theorem Denotes.unique {text : String} {value other : Int} (hvalue : Denotes text value)
    (hother : Denotes text other) : value = other := by
  have hread := (readInteger_ten_iff text value).mpr hvalue
  rw [(readInteger_ten_iff text other).mpr hother] at hread
  exact (Except.ok.inj hread).symm

end TemplateWorkbench.Number
