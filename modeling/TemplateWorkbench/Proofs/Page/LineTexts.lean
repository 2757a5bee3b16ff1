import Mathlib.Data.List.Forall2
import TemplateWorkbench.Proofs.Json.OneLine
import TemplateWorkbench.Proofs.Page.GuardedText

/-!
# Values written in a script

Of the line of a value, what counts in a script are the texts in it.  Numbers and signs hold no angle
brackets, and no mark goes over a quote, a comma or a bracket, so the line is read as the texts in it, one
after another, from whatever has been read before them.

A text stands in the line with its control characters escaped.  So a tab or a line feed, which would end the
name of a tag, does not stand for itself, and in the line of a value only a blank, a slash or an angle
bracket ends a name: `isTagEnd` is told of the line, and `isTextEnd` of the text.
-/

namespace TemplateWorkbench

open ScriptElement

/-! ### Texts in the line of a value -/

/-- Whether a character ends the name of a tag and stands for itself in the line of a value. -/
def isTextEnd (c : Char) : Bool := c == ' ' || c == '/' || c == '>'

namespace Json

/-- Whether a character of a text stands for itself. -/
def isUnescaped (c : Char) : Bool := c != '"' && c != '\\' && decide (32 ≤ c.toNat)

/-- A character of a text stands for itself, or for it stands a backslash with some letters and digits, a
quote or a backslash after it. -/
theorem escapeChar_cases (c : Char) :
    (isUnescaped c = true ∧ escapeChar false c = [c]) ∨
    (isUnescaped c = false ∧ ∃ tail, escapeChar false c = '\\' :: tail ∧
      tail.all Page.isSkipped = true) := by
  have hdigits : ∀ code < 32, ('u' :: Text.hexDigits 4 code).all Page.isSkipped = true := by decide
  unfold escapeChar
  split
  case h_8 hquote hbackslash _ _ _ _ _ =>
    by_cases hcontrol : c.toNat < 32
    · rw [if_pos hcontrol]
      exact .inr ⟨by simp [isUnescaped, hcontrol], _, rfl, hdigits c.toNat hcontrol⟩
    · rw [if_neg hcontrol]
      refine .inl ⟨?_, rfl⟩
      simp only [isUnescaped, Bool.and_eq_true, bne_iff_ne, decide_eq_true_eq]
      exact ⟨⟨hquote, hbackslash⟩, Nat.le_of_not_lt hcontrol⟩
  -- The characters with a letter of their own.
  all_goals exact .inr ⟨rfl, _, rfl, rfl⟩

/-- Two tests that tell the same of what is written for a text, and of the text. -/
structure Alike (written test : Char → Bool) : Prop where
  plain : ∀ c, isUnescaped c = true → written c = test c
  backslash : written '\\' = false
  escaped : ∀ c, isUnescaped c = false → test c = false

theorem passes_escape {written tests : List (Char → Bool)} (halike : List.Forall₂ Alike written tests)
    (text : List Char) : passes written (text.flatMap (escapeChar false)) = passes tests text := by
  induction halike generalizing text with
  | nil => simp [passes]
  | cons htest _ ih =>
      cases text with
      | nil => rfl
      | cons c rest =>
          rw [List.flatMap_cons]
          rcases escapeChar_cases c with ⟨hplain, hescape⟩ | ⟨hescaped, tail, hescape, -⟩
          · rw [hescape, List.singleton_append, passes, passes, htest.plain c hplain, ih]
          · rw [hescape, List.cons_append, passes, passes, htest.backslash, htest.escaped c hescaped]
            rfl

theorem alike_ends : Alike isTagEnd isTextEnd where
  plain c hplain := by
    have hblank (blank : Char) (hcontrol : isUnescaped blank = false) : (c == blank) = false := by
      rw [beq_eq_false_iff_ne]
      rintro rfl
      rw [hplain] at hcontrol
      cases hcontrol
    -- These do not stand for themselves in a line.
    have htab := hblank '\t' (by decide)
    have hfeed := hblank '\n' (by decide)
    have hform := hblank '\x0c' (by decide)
    simp only [isTagEnd, isTextEnd, htab, hfeed, hform, Bool.false_or]
  backslash := by decide
  escaped c hescaped := by
    simp only [isTextEnd, Bool.or_eq_false_iff, beq_eq_false_iff_ne]
    refine ⟨⟨?_, ?_⟩, ?_⟩ <;> (rintro rfl; exact absurd hescaped (by decide))

theorem alike_equal {c : Char} (hc : isUnescaped c = true) : Alike (· == c) (· == c) where
  plain _ _ := rfl
  backslash := by
    rw [beq_eq_false_iff_ne]
    rintro rfl
    exact absurd hc (by decide)
  escaped other hescaped := by
    rw [beq_eq_false_iff_ne]
    rintro rfl
    rw [hc] at hescaped
    cases hescaped

/-- The small letter of an escaped character is itself. -/
theorem toLower_of_escaped {c : Char} (hescaped : isUnescaped c = false) : c.toLower = c := by
  have hcapital : ¬ (c.val ≥ 'A'.val ∧ c.val ≤ 'Z'.val) := by
    rintro ⟨hlow, hhigh⟩
    have hlow : 65 ≤ c.toNat := hlow
    have hhigh : c.toNat ≤ 90 := hhigh
    have hquote : c ≠ '"' := by
      rintro rfl
      exact absurd hlow (by decide)
    have hbackslash : c ≠ '\\' := by
      rintro rfl
      exact absurd hhigh (by decide)
    have hcode : 32 ≤ c.toNat := by omega
    simp [isUnescaped, hquote, hbackslash, hcode] at hescaped
  exact dif_neg hcapital

theorem alike_letter {c : Char} (hc : isUnescaped c = true) :
    Alike (fun other => other.toLower == c) (fun other => other.toLower == c) where
  plain _ _ := rfl
  backslash := (alike_equal hc).backslash
  escaped other hescaped := by
    rw [toLower_of_escaped hescaped]
    exact (alike_equal hc).escaped other hescaped

theorem alike_tests (mark : Mark) :
    List.Forall₂ Alike (mark.tests isTagEnd) (mark.tests isTextEnd) := by
  have hexactly {word : List Char} (hword : word.all isUnescaped = true) :
      List.Forall₂ Alike (exactly word) (exactly word) := by
    refine List.forall₂_same.mpr fun test htest => ?_
    obtain ⟨c, hc, rfl⟩ := List.mem_map.mp htest
    exact alike_equal (List.all_eq_true.mp hword c hc)
  have hname : List.Forall₂ Alike (scriptName isTagEnd) (scriptName isTextEnd) := by
    have hletters : ['s', 'c', 'r', 'i', 'p', 't'].all isUnescaped = true := by decide
    refine List.rel_append (List.forall₂_same.mpr fun test htest => ?_) (.cons alike_ends .nil)
    obtain ⟨c, hc, rfl⟩ := List.mem_map.mp htest
    exact alike_letter (List.all_eq_true.mp hletters c hc)
  cases mark with
  | comment => exact hexactly (by decide)
  | opening => exact List.rel_append (hexactly (by decide)) hname
  | closing => exact List.rel_append (hexactly (by decide)) hname
  | arrow => exact hexactly (by decide)

/-- What stands for a text is read in a script as the text itself would be if only blanks, slashes and angle
brackets ended a name. -/
theorem stateAfter_escape (arrows : Bool) (state : State) (text : List Char) :
    stateAfter isTagEnd arrows state (text.flatMap (escapeChar false)) =
      stateAfter isTextEnd arrows state text := by
  induction text generalizing state with
  | nil => rfl
  | cons c rest ih =>
      have hmark : mark? isTagEnd ((c :: rest).flatMap (escapeChar false)) = mark? isTextEnd (c :: rest) :=
        mark?_congr fun mark => passes_escape (alike_tests mark) (c :: rest)
      rw [List.flatMap_cons] at hmark ⊢
      rcases escapeChar_cases c with ⟨-, hescape⟩ | ⟨hescaped, tail, hescape, htail⟩
      · rw [hescape, List.singleton_append] at hmark ⊢
        rw [stateAfter_cons, hmark, stateAfter_cons]
        split <;> exact ih _
      · -- Neither the character nor anything in what stands for it can begin a mark.
        have hskipped : ('\\' :: tail).all Page.isSkipped = true := htail
        have hc : Page.isSkipped c = true := by
          simp only [Page.isSkipped, Bool.and_eq_true, bne_iff_ne]
          constructor <;>
          · rintro rfl
            exact absurd hescaped (by decide)
        rw [hescape, Page.stateAfter_skip hskipped, ih, stateAfter_cons, Page.mark?_eq_none hc]

/-! ### The line of a value -/

/-- A text without angle brackets. -/
def IsQuiet (text : List Char) : Prop := ∀ c ∈ text, c ≠ '<' ∧ c ≠ '>'

instance (text : List Char) : Decidable (IsQuiet text) :=
  decidable_of_iff ((text.all fun c => c != '<' && c != '>') = true) (by simp [IsQuiet])

/-- Angle brackets stand in no number. -/
theorem isQuiet_of_areFigures {text : List Char} (hfigures : Number.AreFigures text) : IsQuiet text := by
  intro c hc
  constructor <;>
  · rintro rfl
    exact absurd (hfigures _ hc) (by decide)

mutual

/-- The texts in a value: those that it holds, and the names of its members. -/
def texts : Json → List String
  | .string text => [text]
  | .list items => itemTexts items
  | .object members => memberTexts members
  | .null | .bool _ | .int _ | .double _ => []

/-- The texts in items. -/
def itemTexts : List Json → List String
  | [] => []
  | item :: rest => item.texts ++ itemTexts rest

/-- The texts in members, and their names. -/
def memberTexts : List (String × Json) → List String
  | [] => []
  | (name, value) :: rest => name :: value.texts ++ memberTexts rest

end

/-- How a script is read after texts, one after another. -/
def stateAfterTexts (arrows : Bool) (state : State) (texts : List String) : State :=
  texts.foldl (fun state text => stateAfter isTextEnd arrows state text.toList) state

section Lines

variable {arrows : Bool}

theorem isSeparator_sign {c : Char}
    (hc : ['"', ':', ',', ';', '[', ']', '\x7b', '\x7d'].contains c = true) : IsSeparator isTagEnd c := by
  have hsigns : ['"', ':', ',', ';', '[', ']', '\x7b', '\x7d'].all (fun c => isTagEnd c == false &&
      (['<', '/', '!', '-', '>'].contains c == false &&
        ['s', 'c', 'r', 'i', 'p', 't'].contains c.toLower == false)) = true := by
    decide
  have hsign := List.all_eq_true.mp hsigns c (List.contains_iff_mem.mp hc)
  simp only [Bool.and_eq_true, beq_iff_eq] at hsign
  exact isSeparator_of hsign.1 hsign.2.1 hsign.2.2

theorem stateAfter_writeText (state : State) (text : String) :
    stateAfter isTagEnd arrows state (writeText false text) =
      stateAfter isTextEnd arrows state text.toList := by
  have hquote : ['"'].all Page.isSkipped = true := by decide
  calc stateAfter isTagEnd arrows state (writeText false text)
      = stateAfter isTagEnd arrows state (text.toList.flatMap (escapeChar false) ++ ['"']) :=
        Page.stateAfter_skip hquote
    _ = stateAfter isTextEnd arrows state text.toList := by
        rw [(isSeparator_sign (c := '"') (by decide)).stateAfter_append, stateAfter_escape]
        rfl

/-- Without angle brackets there are no marks. -/
theorem stateAfter_quiet {text : List Char} (htext : IsQuiet text) (state : State) :
    stateAfter isTagEnd arrows state text = state := by
  -- A mark begins with an angle bracket or is an arrow, and that ends with one.
  have hnone {text : List Char} (htext : IsQuiet text) : mark? isTagEnd text = none := by
    cases hmark : mark? isTagEnd text with
    | none => rfl
    | some mark =>
        have hbegins := begins_of_mark? hmark
        obtain ⟨first, second, rest, rfl, hchars, hfirst⟩ := exists_of_begins hbegins
        rcases hfirst with rfl | rfl
        · exact absurd rfl (htext '<' (by simp)).1
        · obtain rfl : mark = .arrow := hchars
          cases rest with
          | nil => simp [Mark.begins, Mark.tests, exactly, passes] at hbegins
          | cons third rest =>
              obtain ⟨-, rfl⟩ : second = '-' ∧ third = '>' := by
                simpa [Mark.begins, Mark.tests, exactly, passes] using hbegins
              exact absurd rfl (htext '>' (by simp)).2
  induction text with
  | nil => rfl
  | cons c rest ih =>
      rw [stateAfter_cons, hnone htext]
      exact ih (List.forall_mem_cons.mp htext).2

theorem stateAfter_intersperse (state : State) (first : List Char) (rest : List (List Char)) :
    stateAfter isTagEnd arrows state ((first :: rest).intersperse [',', ' ']).flatten =
      stateAfter isTagEnd arrows (stateAfter isTagEnd arrows state first)
        (rest.intersperse [',', ' ']).flatten := by
  cases rest with
  | nil => simp [stateAfter]
  | cons second rest =>
      have hblank : [' '].all Page.isSkipped = true := by decide
      rw [List.intersperse_cons_cons, List.flatten_cons, List.flatten_cons, List.cons_append,
        (isSeparator_sign (c := ',') (by decide)).stateAfter_append]
      exact Page.stateAfter_skip hblank

theorem stateAfter_enclose {opening closing : Char} (hopening : Page.isSkipped opening = true)
    (hclosing : IsSeparator isTagEnd closing) (level : Nat) (state : State) (items : List (List Char)) :
    stateAfter isTagEnd arrows state (Style.line.enclose level opening closing items) =
      stateAfter isTagEnd arrows state (items.intersperse [',', ' ']).flatten := by
  have hwritten : Style.line.enclose level opening closing items =
      [opening] ++ ((items.intersperse [',', ' ']).flatten ++ [closing]) := by
    cases items with
    | nil => rfl
    | cons first rest => simp [Style.enclose, Style.break, Style.separator, Style.line]
  have hskip : [opening].all Page.isSkipped = true := by simpa using hopening
  rw [hwritten, Page.stateAfter_skip hskip, hclosing.stateAfter_append]
  rfl

theorem stateAfterTexts_append (state : State) (texts others : List String) :
    stateAfterTexts arrows state (texts ++ others) =
      stateAfterTexts arrows (stateAfterTexts arrows state texts) others := List.foldl_append

theorem stateAfter_member (state : State) (name : String) (written : List Char) :
    stateAfter isTagEnd arrows state (writeText false name ++ ':' :: ' ' :: written) =
      stateAfter isTagEnd arrows (stateAfter isTextEnd arrows state name.toList) written := by
  have hblank : [' '].all Page.isSkipped = true := by decide
  rw [(isSeparator_sign (c := ':') (by decide)).stateAfter_append, stateAfter_writeText]
  exact Page.stateAfter_skip hblank

mutual

/-- The line of a value is read in a script as the texts in the value, one after another. -/
theorem stateAfter_writeChars {level : Nat} {value : Json} {written : List Char}
    (hwritten : writeChars .line level value = .ok written) (state : State) :
    stateAfter isTagEnd arrows state written = stateAfterTexts arrows state value.texts := by
  -- Only texts can hold marks: words and numbers are quiet, and signs separate the items.
  match value with
  | .null =>
      cases hwritten
      exact stateAfter_quiet (by decide) state
  | .bool value =>
      cases hwritten
      exact stateAfter_quiet (by cases value <;> decide) state
  | .int value =>
      obtain ⟨-, rfl⟩ := writeChars_int_eq_ok_iff.mp hwritten
      exact stateAfter_quiet (isQuiet_of_areFigures (Number.areFigures_integer value)) state
  | .double value =>
      cases hwritten
      exact stateAfter_quiet (isQuiet_of_areFigures (Number.areFigures_double value)) state
  | .string text =>
      cases hwritten
      exact stateAfter_writeText state text
  | .list items =>
      obtain ⟨lines, hitems, rfl⟩ := writeChars_list_eq_ok_iff.mp hwritten
      rw [stateAfter_enclose (by decide) (isSeparator_sign (c := ']') (by decide)), texts]
      exact stateAfter_writeItems hitems state
  | .object members =>
      obtain ⟨lines, hmembers, rfl⟩ := writeChars_object_eq_ok_iff.mp hwritten
      rw [stateAfter_enclose (by decide) (isSeparator_sign (c := '\x7d') (by decide)), texts]
      exact stateAfter_writeMembers hmembers state

theorem stateAfter_writeItems {level : Nat} {items : List Json} {lines : List (List Char)}
    (hlines : writeItems .line level items = .ok lines) (state : State) :
    stateAfter isTagEnd arrows state (lines.intersperse [',', ' ']).flatten =
      stateAfterTexts arrows state (itemTexts items) := by
  match items with
  | [] =>
      cases hlines
      rfl
  | item :: rest =>
      obtain ⟨written, others, hwritten, hothers, rfl⟩ := writeItems_cons_eq_ok_iff.mp hlines
      rw [stateAfter_intersperse, stateAfter_writeChars hwritten, stateAfter_writeItems hothers, itemTexts,
        stateAfterTexts_append]

theorem stateAfter_writeMembers {level : Nat} {members : List (String × Json)}
    {lines : List (String × List Char)} (hlines : writeMembers .line level members = .ok lines)
    (state : State) :
    stateAfter isTagEnd arrows state ((lines.map (·.2)).intersperse [',', ' ']).flatten =
      stateAfterTexts arrows state (memberTexts members) := by
  match members with
  | [] =>
      cases hlines
      rfl
  | (name, value) :: rest =>
      obtain ⟨written, others, hwritten, hothers, rfl⟩ := writeMembers_cons_eq_ok_iff.mp hlines
      have hmember : stateAfter isTagEnd arrows state (writeText false name ++ ':' :: ' ' :: written) =
          stateAfterTexts arrows state (name :: value.texts) := by
        rw [stateAfter_member, stateAfter_writeChars hwritten]
        rfl
      rw [List.map_cons, stateAfter_intersperse]
      rw [show Style.line.ascii = false from rfl, hmember, stateAfter_writeMembers hothers, memberTexts,
        stateAfterTexts_append]

end

end Lines

/-- Texts with quotes after each. -/
def quotedTexts (texts : List String) : List Char := texts.flatMap fun text => text.toList ++ ['"']

/-- Texts leave a script open, one after another, exactly if one is opened in all of them together. -/
theorem stateAfterTexts_eq_nested_iff (arrows : Bool) (texts : List String) :
    stateAfterTexts arrows .plain texts = .nested ↔
      OpensScript isTextEnd arrows (quotedTexts texts) := by
  have hquote : IsSeparator isTextEnd '"' := isSeparator_of (by decide) (by decide) (by decide)
  have htexts (state : State) :
      stateAfter isTextEnd arrows state (quotedTexts texts) = stateAfterTexts arrows state texts := by
    induction texts generalizing state with
    | nil => rfl
    | cons text rest ih =>
        rw [quotedTexts, List.flatMap_cons, List.append_assoc, List.singleton_append,
          hquote.stateAfter_append]
        exact ih _
  rw [← htexts]
  exact stateAfter_eq_nested_iff .plain _

end Json

end TemplateWorkbench
