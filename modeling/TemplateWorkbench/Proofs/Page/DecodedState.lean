import TemplateWorkbench.Proofs.Json.Depth
import TemplateWorkbench.Proofs.Json.RoundTrip
import TemplateWorkbench.Proofs.Page.EmbeddedState

/-!
# Decoding the embedded state

The state that a page embeds is JSON text in which a backslash has been put into every closing tag, without
regard to what the text means there.  Does this change what the text means?

A guard stands between an angle bracket and a slash.  Whatever the reader accepts has an angle bracket inside
a text only, where it stands for itself: it is no letter of an escape and no digit of one.  So the guard
begins an escape of its own, that of the slash behind it, which is read as a slash again.  Outside of texts
there are no guards.  It follows that any text at all is read as the same value once its closing tags are
guarded, and that the state is read back from the page as it is.

The proof goes over the reader's functions one by one; `ReadsGuarded` is the invariant of those that call each
other, with any greater fuel, since a guarded text is longer.
-/

namespace TemplateWorkbench.Page

open Json Results

/-! ### Guarded characters -/

/-- Only an angle bracket has a guard behind it. -/
theorem guarded_cons {c : Char} (hc : c ≠ '<') (rest : List Char) : guarded (c :: rest) = c :: guarded rest := by
  rw [guarded]
  rintro more rfl
  exact absurd rfl hc

/-- The first character of a text stays the first. -/
theorem exists_guarded_cons (c : Char) (rest : List Char) : ∃ others, guarded (c :: rest) = c :: others := by
  cases hguarded : c :: rest using guarded.fun_cases with
  | case1 more =>
      obtain ⟨rfl, rfl⟩ := List.cons.inj hguarded
      exact ⟨_, rfl⟩
  | case2 first more hopen =>
      obtain ⟨rfl, rfl⟩ := List.cons.inj hguarded
      exact ⟨_, guarded.eq_2 _ _ hopen⟩
  | case3 => cases hguarded

theorem guarded_ne_nil (c : Char) (rest : List Char) : guarded (c :: rest) ≠ [] := by
  obtain ⟨others, hothers⟩ := exists_guarded_cons c rest
  rw [hothers]
  exact List.cons_ne_nil _ _

theorem guarded_ne_cons {text : List Char} {c : Char} (htext : ∀ rest, text ≠ c :: rest) (rest : List Char) :
    guarded text ≠ c :: rest := by
  cases text with
  | nil => exact (List.cons_ne_nil _ _).symm
  | cons first more =>
      obtain ⟨others, hothers⟩ := exists_guarded_cons first more
      rw [hothers]
      rintro ⟨⟩
      exact htext more rfl

theorem guarded_append {front : List Char} (hfront : '<' ∉ front) (rest : List Char) :
    guarded (front ++ rest) = front ++ guarded rest := by
  induction front with
  | nil => rfl
  | cons c front ih =>
      obtain ⟨hc, hmore⟩ := List.ne_and_not_mem_of_not_mem_cons hfront
      rw [List.cons_append, guarded_cons hc.symm, ih hmore, List.cons_append]

theorem prefix_guarded_iff {front : List Char} (hfront : '<' ∉ front) (text : List Char) :
    front <+: guarded text ↔ front <+: text := by
  induction front generalizing text with
  | nil => simp
  | cons c front ih =>
      obtain ⟨hc, hmore⟩ := List.ne_and_not_mem_of_not_mem_cons hfront
      cases text with
      | nil => rfl
      | cons d rest =>
          by_cases hd : c = d
          · subst hd
            rw [guarded_cons hc.symm, List.cons_prefix_cons, List.cons_prefix_cons, ih hmore]
          · obtain ⟨others, hothers⟩ := exists_guarded_cons d rest
            rw [hothers, List.cons_prefix_cons, List.cons_prefix_cons]
            simp [hd]

theorem length_le_length_guarded (text : List Char) : text.length ≤ (guarded text).length := by
  induction text using guarded.induct with
  | case1 rest ih =>
      simp only [guarded, List.length_cons]
      omega
  | case2 c rest hopen ih =>
      rw [guarded.eq_2 _ _ hopen]
      exact Nat.succ_le_succ ih
  | case3 => exact Nat.le_refl _

/-- No tag is closed in a guarded text. -/
theorem not_closing_infix_guarded (text : List Char) : ¬ ['<', '/'] <:+: guarded text := by
  induction text using guarded.induct with
  | case1 rest ih =>
      rw [guarded, List.infix_cons_iff, List.infix_cons_iff, List.infix_cons_iff]
      simpa using ih
  | case2 c rest hopen ih =>
      rw [guarded.eq_2 _ _ hopen, List.infix_cons_iff]
      rintro (hfirst | hlater)
      · obtain ⟨hc, hslash⟩ := List.cons_prefix_cons.mp hfirst
        cases rest with
        | nil => simp [guarded] at hslash
        | cons second more =>
            obtain ⟨others, hothers⟩ := exists_guarded_cons second more
            rw [hothers] at hslash
            obtain ⟨hsecond, -⟩ := List.cons_prefix_cons.mp hslash
            exact hopen more hc.symm (by rw [← hsecond])
      · exact ih hlater
  | case3 => simp [guarded]

/-! ### Texts -/

/-- An angle bracket is no hexadecimal digit. -/
theorem ne_bracket_of_codeUnit? {a b c d : Char} {code : Nat} (hcode : codeUnit? a b c d = some code) :
    a ≠ '<' ∧ b ≠ '<' ∧ c ≠ '<' ∧ d ≠ '<' := by
  have hbracket : Number.digitBelow? 16 '<' = none := by decide
  refine ⟨?_, ?_, ?_, ?_⟩ <;>
  · rintro rfl
    simp [codeUnit?, hbracket] at hcode

theorem guarded_codeEscape {a b c d : Char} {code : Nat} (hcode : codeUnit? a b c d = some code)
    (rest : List Char) :
    guarded ('\\' :: 'u' :: a :: b :: c :: d :: rest) = '\\' :: 'u' :: a :: b :: c :: d :: guarded rest := by
  obtain ⟨ha, hb, hc, hd⟩ := ne_bracket_of_codeUnit? hcode
  rw [guarded_cons (by decide), guarded_cons (by decide), guarded_cons ha, guarded_cons hb, guarded_cons hc,
    guarded_cons hd]

/-- A code unit that is no first half, or that no second half follows, is read as a character. -/
theorem readText_lone (opened : Nat) (done : List Char) {a b c d : Char} {code : Nat}
    (hcode : codeUnit? a b c d = some code) {text : List Char} (htext : text ≠ [])
    (hlone : isHighHalf code = false ∨ secondHalf text = .absent ∨
      ∃ low, secondHalf text = .unit low ∧ isLowHalf low = false) :
    readText opened done ('\\' :: 'u' :: a :: b :: c :: d :: text) =
      readText opened (unitChar code :: done) text := by
  obtain ⟨e, rest, rfl⟩ := List.exists_cons_of_ne_nil htext
  rw [readText]
  rcases hlone with hhigh | habsent | ⟨low, hsecond, hlow⟩
  · simp [hcode, hhigh]
  · simp [hcode, habsent]
  · simp [hcode, hsecond, hlow]

theorem exists_of_secondHalf {text : List Char} {low : Nat} (hsecond : secondHalf text = .unit low) :
    ∃ a b c d rest, text = '\\' :: 'u' :: a :: b :: c :: d :: rest ∧ codeUnit? a b c d = some low := by
  unfold secondHalf at hsecond
  split at hsecond
  · next a b c d rest =>
      split at hsecond
      · cases hsecond
      · next code hcode =>
          cases hsecond
          exact ⟨a, b, c, d, rest, rfl, hcode⟩
  · cases hsecond

/-- No code escape follows a character that is no backslash. -/
theorem secondHalf_of_ne {c : Char} (hc : c ≠ '\\') (rest : List Char) : secondHalf (c :: rest) = .absent := by
  rw [secondHalf]
  rintro _ _ _ _ _ ⟨⟩
  exact absurd rfl hc

/-- What follows a first half is not changed by guarding, as long as it can be read. -/
theorem secondHalf_guarded {opened : Nat} {done text : List Char} {found : String × List Char}
    (hread : readText opened done text = .ok found) : secondHalf (guarded text) = secondHalf text := by
  have hplain {c : Char} (hc : c ≠ '\\') (rest : List Char) :
      secondHalf (guarded (c :: rest)) = secondHalf (c :: rest) := by
    obtain ⟨others, hothers⟩ := exists_guarded_cons c rest
    rw [hothers, secondHalf_of_ne hc, secondHalf_of_ne hc]
  -- Only a code after a backslash can be a half, and guarding leaves codes as they are.
  cases text with
  | nil => rfl
  | cons c rest =>
      by_cases hc : c = '\\'
      · subst hc
        cases rest with
        | nil => rfl
        | cons letter rest =>
            by_cases hletter : letter = 'u'
            · subst hletter
              match rest with
              | a :: b :: c :: d :: e :: rest =>
                rw [readText] at hread
                cases hcode : codeUnit? a b c d with
                | none => simp [hcode] at hread
                | some code => rw [guarded_codeEscape hcode, secondHalf, secondHalf, hcode]
              | [] | [_] | [_, _] | [_, _, _] | [_, _, _, _] => simp [readText] at hread
            · obtain ⟨others, hothers⟩ := exists_guarded_cons letter rest
              rw [guarded_cons (by decide), hothers]
              simp [secondHalf, hletter]
      · exact hplain hc rest

/-- A text that is read up to its closing quote is read the same way once it is guarded. -/
theorem readText_guarded {opened : Nat} {done text : List Char} {found : String × List Char}
    (hread : readText opened done text = .ok found) (place : Nat) :
    readText place done (guarded text) = .ok (found.1, guarded found.2) := by
  fun_induction readText opened done text with
  | case1 | case3 | case4 | case5 | case10 | case12 | case13 => cases hread
  | case2 done rest =>
      cases hread
      rw [guarded_cons (by decide), readText]
  | case6 done a b c d e rest code hcode _ habsent ih =>
      rw [guarded_codeEscape hcode, readText_lone _ _ hcode (guarded_ne_nil e rest), ih hread]
      exact .inr (.inl ((secondHalf_guarded hread).trans habsent))
  | case7 done a b c d e rest code hcode hhigh low hsecond hlow ih =>
      obtain ⟨_, _, _, _, others, hrest, hlowCode⟩ := exists_of_secondHalf hsecond
      obtain ⟨rfl, rfl⟩ := List.cons.inj hrest
      rw [guarded_codeEscape hcode, guarded_codeEscape hlowCode, readText]
      simp only [hcode, hhigh, secondHalf, hlowCode, hlow, if_true, List.drop_succ_cons, List.drop_zero]
      exact ih hread
  | case8 done a b c d e rest code hcode _ low hsecond hlow ih =>
      rw [guarded_codeEscape hcode, readText_lone _ _ hcode (guarded_ne_nil e rest), ih hread]
      exact .inr (.inr ⟨low, (secondHalf_guarded hread).trans hsecond, Bool.eq_false_iff.mpr hlow⟩)
  | case9 done a b c d e rest code hcode hhigh ih =>
      rw [guarded_codeEscape hcode, readText_lone _ _ hcode (guarded_ne_nil e rest), ih hread]
      exact .inl (Bool.eq_false_iff.mpr hhigh)
  | case11 done c rest _ hletter meant hmeant ih =>
      have hc : c ≠ '<' := by
        rintro rfl
        cases hmeant
      rw [guarded_cons (by decide), guarded_cons hc, readText_letterEscape _ _ hmeant, ih hread]
  | case14 done c rest hquote hend _ _ hbackslash hcode ih =>
      have hslash : c ≠ '\\' := by
        rintro rfl
        cases rest with
        | nil => exact hend rfl rfl
        | cons second more => exact hbackslash second more rfl rfl
      cases hguarded : c :: rest using guarded.fun_cases with
      | case1 more =>
          -- The slash is read with a backslash before it, or without one.
          obtain ⟨rfl, rfl⟩ := List.cons.inj hguarded
          have hrest := ih hread
          rw [guarded_cons (by decide), readText_plain _ _ (by decide) (by decide) (by decide)] at hrest
          rw [guarded, readText_plain _ _ hquote hslash hcode, readText_letterEscape _ _ rfl, hrest]
      | case2 first more hopen =>
          obtain ⟨rfl, rfl⟩ := List.cons.inj hguarded
          rw [guarded.eq_2 _ _ hopen, readText_plain _ _ hquote hslash hcode, ih hread]
      | case3 => cases hguarded

/-! ### Blanks, words and numbers -/

theorem skipBlanks_guarded (text : List Char) : skipBlanks (guarded text) = guarded (skipBlanks text) := by
  induction text with
  | nil => rfl
  | cons c rest ih =>
      by_cases hblank : isBlank c = true
      · have hc : c ≠ '<' := by
          rintro rfl
          cases hblank
        rw [guarded_cons hc, skipBlanks_cons_blank hblank, skipBlanks_cons_blank hblank, ih]
      · obtain ⟨others, hothers⟩ := exists_guarded_cons c rest
        rw [skipBlanks_cons_self hblank, hothers, skipBlanks_cons_self hblank]

theorem digitsThen_guarded (text : List Char) :
    digitsThen (guarded text) = ((digitsThen text).1, guarded (digitsThen text).2) := by
  induction text with
  | nil => rfl
  | cons c rest ih =>
      by_cases hdigit : c.isDigit = true
      · have hc : c ≠ '<' := by
          rintro rfl
          cases hdigit
        simp only [digitsThen, Prod.mk.injEq] at ih
        simp [digitsThen, guarded_cons hc, hdigit, ih]
      · obtain ⟨others, hothers⟩ := exists_guarded_cons c rest
        simp [digitsThen, hothers, hdigit]

theorem fraction?_guarded (text : List Char) :
    fraction? (guarded text) = (fraction? text).map fun found => (found.1, guarded found.2) := by
  cases text with
  | nil => rfl
  | cons c rest =>
      by_cases hpoint : c = '.'
      · subst hpoint
        rw [guarded_cons (by decide), fraction?, fraction?]
        simp only [digitsThen_guarded]
        split <;> rfl
      · obtain ⟨others, hothers⟩ := exists_guarded_cons c rest
        simp [hothers, fraction?, hpoint]

theorem splitSign_guarded (text : List Char) :
    Number.splitSign (guarded text) = ((Number.splitSign text).1, guarded (Number.splitSign text).2) := by
  fun_cases Number.splitSign text with
  | case1 rest | case2 rest =>
      rw [guarded_cons (by decide)]
      rfl
  | case3 text hminus hplus =>
      cases text with
      | nil => rfl
      | cons c rest =>
          obtain ⟨others, hothers⟩ := exists_guarded_cons c rest
          have hc : c ≠ '-' ∧ c ≠ '+' :=
            ⟨by rintro rfl; exact hminus rest rfl, by rintro rfl; exact hplus rest rfl⟩
          rw [hothers, Number.splitSign.eq_3 _ (by simp [hc]) (by simp [hc])]

theorem exponent?_guarded (text : List Char) :
    exponent? (guarded text) = (exponent? text).map fun found => (found.1, guarded found.2) := by
  cases text with
  | nil => rfl
  | cons c rest =>
      by_cases hmark : (c == 'e' || c == 'E') = true
      · have hc : c ≠ '<' := by
          rintro rfl
          cases hmark
        rw [guarded_cons hc, exponent?, exponent?]
        simp only [hmark, if_true, splitSign_guarded, digitsThen_guarded]
        split <;> rfl
      · obtain ⟨others, hothers⟩ := exists_guarded_cons c rest
        simp only [hothers, exponent?, hmark]
        rfl

theorem wholeDigits?_guarded (text : List Char) :
    wholeDigits? (guarded text) = (wholeDigits? text).map fun found => (found.1, guarded found.2) := by
  cases text with
  | nil => rfl
  | cons c rest =>
      by_cases hzero : c = '0'
      · subst hzero
        rw [guarded_cons (by decide)]
        rfl
      · obtain ⟨others, hothers⟩ := exists_guarded_cons c rest
        have hdigits := digitsThen_guarded (c :: rest)
        rw [hothers] at hdigits ⊢
        rw [wholeDigits?.eq_2 _ (by simp [hzero]), wholeDigits?.eq_2 _ (by simp [hzero]), hdigits]
        dsimp only
        split <;> rfl

theorem finishNumber_guarded (negative : Bool) (whole : List Nat) (text : List Char) :
    finishNumber negative whole (guarded text) =
      (finishNumber negative whole text).map fun found => (found.1, guarded found.2) := by
  have hguarded := fraction?_guarded text
  cases hfraction : fraction? text with
  | none =>
      rw [hfraction] at hguarded
      have hbehind := exponent?_guarded text
      cases hexponent : exponent? text with
      | none =>
          rw [hexponent] at hbehind
          simp only [finishNumber, hguarded, hbehind, hfraction, hexponent, Option.map_none, Option.getD_none]
          split
          · split <;> rfl
          · rfl
      | some exponent =>
          rw [hexponent] at hbehind
          simp [finishNumber, hguarded, hbehind, hfraction, hexponent, Except.map]
  | some fraction =>
      rw [hfraction] at hguarded
      have hbehind := exponent?_guarded fraction.2
      cases hexponent : exponent? fraction.2 <;> rw [hexponent] at hbehind <;>
        simp [finishNumber, hguarded, hbehind, hfraction, hexponent, Except.map]

theorem splitMinus_guarded (text : List Char) :
    splitMinus (guarded text) = ((splitMinus text).1, guarded (splitMinus text).2) := by
  cases text with
  | nil => rfl
  | cons c rest =>
      by_cases hminus : c = '-'
      · subst hminus
        rw [guarded_cons (by decide)]
        rfl
      · obtain ⟨others, hothers⟩ := exists_guarded_cons c rest
        rw [hothers, splitMinus.eq_2 _ (by simp [hminus]), splitMinus.eq_2 _ (by simp [hminus]), hothers]

theorem readNumber_guarded {text : List Char} {found : Json × List Char}
    (hread : readNumber text = .ok found) :
    readNumber (guarded text) = .ok (found.1, guarded found.2) := by
  rw [readNumber, splitMinus_guarded]
  rw [readNumber] at hread
  simp only [wholeDigits?_guarded] at hread ⊢
  cases hwhole : wholeDigits? (splitMinus text).2 with
  | none => simp [hwhole] at hread
  | some whole =>
      simp only [hwhole, Option.map_some] at hread ⊢
      rw [finishNumber_guarded, hread]
      rfl

theorem readWord?_guarded (text : List Char) :
    readWord? (guarded text) = (readWord? text).map fun found => (found.1, guarded found.2) := by
  have hwords : ∀ word ∈ words, '<' ∉ word.1.toList := by decide
  rw [readWord?, readWord?]
  revert hwords
  induction words with
  | nil => exact fun _ => rfl
  | cons word words ih =>
      intro hwords
      have hword := hwords word List.mem_cons_self
      have hrest := ih fun other hother => hwords other (List.mem_cons_of_mem _ hother)
      rw [List.findSome?_cons, List.findSome?_cons, hrest]
      by_cases hfront : word.1.toList <+: text
      · obtain ⟨behind, rfl⟩ := hfront
        have hlength : word.1.length = word.1.toList.length := String.length_toList.symm
        simp [guarded_append hword, hlength]
      · have hnone := (prefix_guarded_iff hword text).not.mpr hfront
        rw [← List.isPrefixOf_iff_prefix] at hfront hnone
        simp [hfront, hnone]

/-! ### Values -/

/-- What the reader's functions give with a fuel, they give of a guarded text as well, with as much fuel. -/
structure ReadsGuarded (fuel : Nat) : Prop where
  value : ∀ more depth text value rest, fuel ≤ more → readValue fuel depth text = .ok (value, rest) →
    readValue more depth (guarded text) = .ok (value, guarded rest)
  items : ∀ more depth done text value rest, fuel ≤ more →
    readItems fuel depth done text = .ok (value, rest) →
    readItems more depth done (guarded text) = .ok (value, guarded rest)
  members : ∀ more depth done text value rest, fuel ≤ more →
    readMembers fuel depth done text = .ok (value, rest) →
    readMembers more depth done (guarded text) = .ok (value, guarded rest)

section Step

variable {fuel more depth : Nat} {text rest : List Char} {value : Json}

/-- A value with a step more: a text, an object, a list, a word or a number. -/
theorem ReadsGuarded.value_succ (hreads : ReadsGuarded fuel) (hmore : fuel ≤ more)
    (hread : readValue (fuel + 1) depth text = .ok (value, rest)) :
    readValue (more + 1) depth (guarded text) = .ok (value, guarded rest) := by
  rw [readValue.eq_def] at hread
  simp only at hread
  split at hread
  · obtain ⟨⟨found, others⟩, htext, hvalue⟩ := map_eq_ok_iff.mp hread
    cases hvalue
    rw [guarded_cons (by decide), readValue, readText_guarded htext]
    rfl
  · split at hread
    · cases hread
    · rw [guarded_cons (by decide), readValue]
      simp only [skipBlanks_guarded]
      split at hread
      · next hclosed =>
          cases hread
          rw [hclosed, guarded_cons (by decide)]
          rfl
      · next hopen =>
          split
          · next hclosed => exact absurd hclosed (guarded_ne_cons hopen _)
          · exact hreads.members _ _ _ _ _ _ hmore hread
  · split at hread
    · cases hread
    · rw [guarded_cons (by decide), readValue]
      simp only [skipBlanks_guarded]
      split at hread
      · next hclosed =>
          cases hread
          rw [hclosed, guarded_cons (by decide)]
          rfl
      · next hopen =>
          split
          · next hclosed => exact absurd hclosed (guarded_ne_cons hopen _)
          · exact hreads.items _ _ _ _ _ _ hmore hread
  · next hquote hbrace hbracket =>
      rw [readValue.eq_def]
      simp only
      split
      · next heq => exact absurd heq (guarded_ne_cons hquote _)
      · next heq => exact absurd heq (guarded_ne_cons hbrace _)
      · next heq => exact absurd heq (guarded_ne_cons hbracket _)
      · rw [readWord?_guarded]
        split at hread
        · next hword =>
            cases hread
            rw [hword]
            rfl
        · next hword =>
            rw [hword]
            exact readNumber_guarded hread

/-- An item with a step more, and the end of the list or a comma after it. -/
theorem ReadsGuarded.items_succ (hreads : ReadsGuarded fuel) (hmore : fuel ≤ more) {done : List Json}
    (hread : readItems (fuel + 1) depth done text = .ok (value, rest)) :
    readItems (more + 1) depth done (guarded text) = .ok (value, guarded rest) := by
  rw [readItems] at hread ⊢
  split at hread
  · cases hread
  · next item behind hitem =>
      simp only [hreads.value more depth text item behind hmore hitem, skipBlanks_guarded]
      split at hread
      · next hclosed =>
          cases hread
          rw [hclosed, guarded_cons (by decide)]
          rfl
      · next hcomma =>
          rw [hcomma, guarded_cons (by decide)]
          simp only [skipBlanks_guarded]
          exact hreads.items _ _ _ _ _ _ hmore hread
      · cases hread

/-- A member with a step more: a name, a colon and a value, and the end of the object or a comma. -/
theorem ReadsGuarded.members_succ (hreads : ReadsGuarded fuel) (hmore : fuel ≤ more)
    {done : List (String × Json)} (hread : readMembers (fuel + 1) depth done text = .ok (value, rest)) :
    readMembers (more + 1) depth done (guarded text) = .ok (value, guarded rest) := by
  rw [readMembers.eq_def] at hread
  simp only at hread
  split at hread
  · split at hread
    · cases hread
    · next name afterName hname =>
        rw [guarded_cons (by decide), readMembers]
        simp only [readText_guarded hname, skipBlanks_guarded]
        split at hread
        · next afterColon hcolon =>
            rw [hcolon, guarded_cons (by decide)]
            simp only [skipBlanks_guarded]
            split at hread
            · cases hread
            · next item behind hitem =>
                simp only [hreads.value more depth _ item behind hmore hitem, skipBlanks_guarded]
                split at hread
                · next hclosed =>
                    cases hread
                    rw [hclosed, guarded_cons (by decide)]
                    rfl
                · next hcomma =>
                    rw [hcomma, guarded_cons (by decide)]
                    simp only [skipBlanks_guarded]
                    exact hreads.members _ _ _ _ _ _ hmore hread
                · cases hread
        · cases hread
  · cases hread

end Step

theorem readsGuarded (fuel : Nat) : ReadsGuarded fuel := by
  induction fuel with
  | zero =>
      constructor
      · intro more depth text value rest _ hread
        cases hread
      · intro more depth done text value rest _ hread
        cases hread
      · intro more depth done text value rest _ hread
        cases hread
  | succ fuel ih =>
      have hpositive {more : Nat} (hmore : fuel + 1 ≤ more) : ∃ n, fuel ≤ n ∧ more = n + 1 :=
        ⟨more - 1, by omega, by omega⟩
      constructor
      · intro more depth text value rest hmore hread
        obtain ⟨more, hle, rfl⟩ := hpositive hmore
        exact ih.value_succ hle hread
      · intro more depth done text value rest hmore hread
        obtain ⟨more, hle, rfl⟩ := hpositive hmore
        exact ih.items_succ hle hread
      · intro more depth done text value rest hmore hread
        obtain ⟨more, hle, rfl⟩ := hpositive hmore
        exact ih.members_succ hle hread

/-- A text is read as the same value once its closing tags are guarded. -/
theorem readChars_guarded {text : List Char} {value : Json} (hread : readChars text = .ok value) :
    readChars (guarded text) = .ok value := by
  have hlength := length_le_length_guarded text
  unfold readChars at hread
  split at hread
  · cases hread
  · next hmark =>
      rw [readChars.eq_2 _ (guarded_ne_cons hmark), skipBlanks_guarded]
      split at hread
      · cases hread
      · next found behind hfound =>
          rw [(readsGuarded _).value _ _ _ _ _ (by omega) hfound]
          simp only [skipBlanks_guarded]
          split at hread
          · next hend =>
              cases hread
              rw [hend]
              rfl
          · cases hread

/-! ### The state -/

section State

variable {session : Session} {source uid : String}

theorem depth_size (size : Measure) : size.toJson.depth = 0 := by
  cases size <;> rfl

theorem namesDistinctWithin_size (size : Measure) : NamesDistinctWithin size.toJson := by
  cases size with
  | whole value => exact .int value
  | real value => exact .double value

theorem namesDistinctWithin_embeddedState (htemplate : session.state.draft.template = .string source) :
    NamesDistinctWithin (embeddedState session) := by
  have hnames : (["template", "template_context", "render_mode", "view_mode", "namespace", "context_width",
      "output_height", "min_size", "width_key", "height_key", "total_height"] : List String).Nodup := by
    decide
  refine .object hnames ?_
  simp only [EditorState.members, htemplate, List.cons_append, List.nil_append, List.forall_mem_cons]
  exact ⟨.string _, .string _, .string _, .string _, .string _, namesDistinctWithin_size _,
    namesDistinctWithin_size _, .int _, .string _, .string _, .int _, by simp⟩

/-- The line of the state is read as the state. -/
theorem readChars_line_embeddedState (htemplate : session.state.draft.template = .string source)
    {line : String} (hline : Json.line (embeddedState session) = .ok line) :
    readChars line.toList = .ok (embeddedState session) := by
  have hdepth : (embeddedState session).depth ≤ depthLimit := by
    simp [embeddedState, EditorState.members, htemplate, depth, depthOfMembers, depth_size, depthLimit]
  exact read_of_write isFaithful_line (namesDistinctWithin_embeddedState htemplate) hdepth hline

/-- The state can be written exactly if the sizes can. -/
theorem isOk_stateScript_iff (htemplate : session.state.draft.template = .string source) :
    (stateScript session uid).isOk = true ↔ session.HasShortSizes := by
  have htotal : Number.isShort totalHeight = true := by
    rw [Number.isShort, Number.isTooLong_eq_false_iff.mpr (by decide +kernel)]
    rfl
  rw [stateScript, isOk_bind_pure, isOk_line, Session.HasShortSizes]
  simp [embeddedState, EditorState.members, htemplate, integers, memberIntegers, htotal]

end State

/-- The state of a session over a template can be embedded exactly if the sizes of its panes can be written.
What stands for it in the script closes no tag, and is read as the text of the template, the text of the
context, the two modes and the layout, whatever these are. -/
theorem stateScript_decodes {session : Session} {source : String}
    (htemplate : session.state.draft.template = .string source) (uid : String) :
    ((stateScript session uid).isOk = true ↔ session.HasShortSizes) ∧
    ∀ script, stateScript session uid = .ok script → ∃ payload : String,
      script.written = "<script>var tpgState_" ++ uid ++ " = " ++ payload ++ ";</script>" ∧
      ¬ "</".toList <:+: payload.toList ∧
      Json.read payload = .ok (.object
        [("template", .string source), ("template_context", .string session.state.draft.context),
          ("render_mode", .string session.state.draft.renderMode.name),
          ("view_mode", .string session.state.view.name),
          ("namespace", .string ((session.layout.store.map (·.space)).getD "")),
          ("context_width", session.layout.context.size.toJson),
          ("output_height", session.layout.output.size.toJson),
          ("min_size", .int session.layout.context.minSize),
          ("width_key", .string session.layout.context.key),
          ("height_key", .string session.layout.output.key), ("total_height", .int totalHeight)]) := by
  refine ⟨isOk_stateScript_iff htemplate, fun script hscript => ?_⟩
  obtain ⟨line, hline, hmarkup⟩ := bind_eq_ok_iff.mp hscript
  have hread := readChars_guarded (readChars_line_embeddedState htemplate hline)
  rw [← toList_guardClosing] at hread
  refine ⟨guardClosing line, ?_, ?_, ?_⟩
  · have hfront : scriptFront uid = "var tpgState_" ++ uid ++ " = " := rfl
    rw [Markup.written, write_stateScript hline hscript, scriptBody, ← toList_guardClosing, hfront]
    refine String.toList_injective ?_
    simp
  · rw [toList_guardClosing]
    exact not_closing_infix_guarded line.toList
  · rw [Json.read, hread, embeddedState, EditorState.members, htemplate]
    rfl

/-- A template of closing tags, some of which have been guarded before, is read back as it is. -/
theorem stateScript_decodes_guardedTemplate : ∃ session script payload members,
    Session.create Session.plainConfig (templateEngine false) ⟨none, "s"⟩
      (startOver "</script>\\</<\\/\"</\"") = .ok session ∧
    stateScript session "0" = .ok script ∧
    script.written = "<script>var tpgState_0 = " ++ payload ++ ";</script>" ∧
    ¬ "</".toList <:+: payload.toList ∧
    Json.read payload =
      .ok (.object (("template", .string "</script>\\</<\\/\"</\"") :: members)) := by
  obtain ⟨session, script, hcreate, hscript, -⟩ := exists_startedOver "</script>\\</<\\/\"</\""
  obtain ⟨layout, -, hrest⟩ := bind_eq_ok_iff.mp hcreate
  obtain ⟨state, hstate, hsession⟩ := bind_eq_ok_iff.mp hrest
  have htemplate : session.state.draft.template = .string "</script>\\</<\\/\"</\"" := by
    cases hsession
    exact Session.template_of_startState hstate
  obtain ⟨-, hdecodes⟩ := stateScript_decodes htemplate "0"
  obtain ⟨payload, hwritten, hclosing, hread⟩ := hdecodes script hscript
  exact ⟨session, script, payload, _, hcreate, hscript, hwritten, hclosing, hread⟩

end TemplateWorkbench.Page
