import TemplateWorkbench.Text.Entity
import TemplateWorkbench.Text.Unmarked

/-!
# Escaped text

A character that means something in markup is written as a reference: an ampersand, a name and a
semicolon.  What has been escaped holds neither angle brackets nor quotes, every ampersand in it begins a
reference, and reading the references gives the text back, each character being escaped once.

Everything rests on one case distinction: a character is either written as a reference to it, or it is
none of the five and stands for itself.
-/

namespace TemplateWorkbench.Text

variable {text rest : List Char} {c : Char}

/-- What follows the ampersand in the references that a page uses. -/
def pageNames : List (List Char) :=
  ["amp;".toList, "lt;".toList, "gt;".toList, "quot;".toList, "#x27;".toList]

/-- A text that stays a text wherever it stands in markup. -/
structure IsInert (text : List Char) : Prop where
  plain : ∀ c ∈ text, c ≠ '<' ∧ c ≠ '>' ∧ c ≠ '"' ∧ c ≠ '\''
  references : ∀ before after, text = before ++ '&' :: after → ∃ name ∈ pageNames, name <+: after

/-! ### References -/

/-- A name with a semicolon after it is read as the characters that it stands for. -/
theorem nameReference?_of_named {name characters : List Char}
    (hnamed : namedCharacters? name true = some characters) (hlength : name.length < 32)
    (hname : name.all isNameCharacter = true) (rest : List Char) :
    nameReference? (name ++ ';' :: rest) = some (characters, rest) := by
  have hfront : ((name ++ ';' :: rest).take 32).takeWhile isNameCharacter = name := by
    obtain ⟨more, hmore⟩ : ∃ more, 32 - name.length = more + 1 := ⟨31 - name.length, by omega⟩
    rw [List.take_append, List.take_of_length_le (Nat.le_of_lt hlength), hmore, List.take_succ_cons,
      List.takeWhile_append_of_pos (List.all_eq_true.mp hname), List.takeWhile_cons_of_neg (by decide),
      List.append_nil]
  simp only [nameReference?, hfront, List.drop_left, List.head?_cons, if_true, hnamed, dropSemicolon]

theorem namedCharacters?_page : namedCharacters? "amp".toList true = some ['&'] ∧
    namedCharacters? "lt".toList true = some ['<'] ∧ namedCharacters? "gt".toList true = some ['>'] ∧
    namedCharacters? "quot".toList true = some ['"'] := by
  decide +kernel

/-- A character is written as a reference to it, or it stands for itself. -/
theorem escapeChar_cases (c : Char) :
    (∃ name ∈ pageNames, pageReferences.escapeChar c = '&' :: name ∧
      ∀ rest, reference? (name ++ rest) = some ([c], rest)) ∨
    (pageReferences.escapeChar c = [c] ∧
      c ≠ '&' ∧ c ≠ '<' ∧ c ≠ '>' ∧ c ≠ '"' ∧ c ≠ '\'') := by
  obtain ⟨hamp, hlt, hgt, hquot⟩ := namedCharacters?_page
  unfold References.escapeChar
  split
  · exact .inl ⟨_, by decide, rfl, nameReference?_of_named hamp (by decide) (by decide)⟩
  · exact .inl ⟨_, by decide, rfl, nameReference?_of_named hlt (by decide) (by decide)⟩
  · exact .inl ⟨_, by decide, rfl, nameReference?_of_named hgt (by decide) (by decide)⟩
  · exact .inl ⟨_, by decide, rfl, nameReference?_of_named hquot (by decide) (by decide)⟩
  · exact .inl ⟨_, by decide, rfl, fun rest => rfl⟩
  · next hamp hlt hgt hquot hsingle =>
      exact .inr ⟨rfl, hamp, hlt, hgt, hquot, hsingle⟩

/-! ### Inert texts -/

theorem isInert_nil : IsInert [] := ⟨nofun, by simp⟩

theorem IsInert.append {first second : List Char} (hfirst : IsInert first) (hsecond : IsInert second) :
    IsInert (first ++ second) := by
  refine ⟨fun c hc => (List.mem_append.mp hc).elim (hfirst.plain c) (hsecond.plain c), ?_⟩
  intro before after hsplit
  rcases List.append_eq_append_iff.mp hsplit with ⟨more, -, hmore⟩ | ⟨more, hbefore, hmore⟩
  · exact hsecond.references more after hmore
  · cases more with
    | nil => exact hsecond.references [] after hmore.symm
    | cons ampersand more =>
        obtain ⟨rfl, rfl⟩ := List.cons.inj hmore
        obtain ⟨name, hmem, hname⟩ := hfirst.references before more hbefore
        exact ⟨name, hmem, hname.trans (List.prefix_append _ _)⟩

theorem isInert_escapeChar (c : Char) : IsInert (pageReferences.escapeChar c) := by
  have hnames : (pageNames.all fun name => name.all fun c =>
      c != '<' && (c != '>' && (c != '"' && (c != '\'' && c != '&')))) = true := by
    decide
  simp only [List.all_eq_true, Bool.and_eq_true, bne_iff_ne] at hnames
  rcases escapeChar_cases c with ⟨name, hmem, hescape, -⟩ | ⟨hescape, hamp, hplain⟩
  · rw [hescape]
    constructor
    · intro other hother
      rcases List.mem_cons.mp hother with rfl | hname
      · decide
      · obtain ⟨hlt, hgt, hquot, hsingle, -⟩ := hnames name hmem other hname
        exact ⟨hlt, hgt, hquot, hsingle⟩
    · intro before after hsplit
      -- The only ampersand of a reference is its first character.
      cases before with
      | nil =>
          obtain ⟨-, rfl⟩ := List.cons.inj hsplit
          exact ⟨name, hmem, List.prefix_refl _⟩
      | cons first before =>
          obtain ⟨-, rfl⟩ := List.cons.inj hsplit
          exact absurd rfl (hnames _ hmem '&' (by simp)).2.2.2.2
  · rw [hescape]
    constructor
    · intro other hother
      rw [List.mem_singleton.mp hother]
      exact hplain
    · intro before after hsplit
      cases before with
      | nil => exact absurd (List.cons.inj hsplit).1 hamp
      | cons first before => simp at hsplit

/-! ### Whole texts -/

theorem escapeChars_cons (references : References) (c : Char) (rest : List Char) :
    references.escapeChars (c :: rest) = references.escapeChar c ++ references.escapeChars rest :=
  List.flatMap_cons

/-- An escaped text is inert. -/
theorem isInert_escapeChars (text : List Char) : IsInert (pageReferences.escapeChars text) := by
  induction text with
  | nil => exact isInert_nil
  | cons c rest ih =>
      rw [escapeChars_cons]
      exact (isInert_escapeChar c).append ih

theorem unescapeUpTo_escapeChars {fuel : Nat} (hfuel : text.length ≤ fuel) :
    unescapeUpTo fuel (pageReferences.escapeChars text) = text := by
  induction text generalizing fuel with
  | nil => cases fuel <;> rfl
  | cons c rest ih =>
      obtain ⟨fuel, rfl⟩ : ∃ less, fuel = less + 1 := ⟨fuel - 1, by simp at hfuel; omega⟩
      have hrest : unescapeUpTo fuel (pageReferences.escapeChars rest) = rest :=
        ih (by simpa using hfuel)
      rw [escapeChars_cons]
      rcases escapeChar_cases c with ⟨name, -, hescape, hreference⟩ | ⟨hescape, hamp, -⟩
      · rw [hescape, List.cons_append, unescapeUpTo, hreference]
        dsimp only
        rw [hrest, List.singleton_append]
      · rw [hescape, List.singleton_append, unescapeUpTo, hrest]
        exact hamp

theorem length_le_length_escapeChars (text : List Char) :
    text.length ≤ (pageReferences.escapeChars text).length := by
  induction text with
  | nil => exact Nat.le_refl _
  | cons c rest ih =>
      rw [escapeChars_cons]
      rcases escapeChar_cases c with ⟨name, -, hescape, -⟩ | ⟨hescape, -⟩ <;>
        simp [hescape] <;> omega

/-- Reading the references of an escaped text gives the text back. -/
@[simp] theorem unescape_escapeChars (text : List Char) :
    unescape (pageReferences.escapeChars text) = text :=
  unescapeUpTo_escapeChars (length_le_length_escapeChars text)

end TemplateWorkbench.Text
