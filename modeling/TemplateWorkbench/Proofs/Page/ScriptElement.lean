import Mathlib.Tactic.Tauto

/-!
# Where a script element ends

What stands in a script element is no markup, and the element ends with its closing tag.  But not every
closing tag is heeded: after the opening of a comment another script may be opened, and then the next
closing tag is that one's.

```text
plain                 <!--        commented
commented             <script     nested
nested                </script    commented
commented, nested     -->         plain, if arrows are heeded
plain, commented      </script    the end of the element
```

The name of a tag has ended where a blank, a slash or an angle bracket follows, and it may be written in
small and capital letters.  Whether arrows are heeded makes no difference to what is shown here, so it is
left open.

A text in which every closing tag is guarded cannot end the element early.  Read in front of the closing
tag, it lets that tag end the element unless it leaves a script open, and it does so exactly if a script is
opened in it after a comment, with no arrow after the opening of the comment.
-/

namespace TemplateWorkbench.ScriptElement

/-! ### Marks -/

/-- What changes how a script is read. -/
inductive Mark where
  | comment | opening | closing | arrow
deriving DecidableEq, Repr

/-- Whether a text begins with characters that pass tests, one after another. -/
def passes : List (Char → Bool) → List Char → Bool
  | [], _ => true
  | _ :: _, [] => false
  | test :: tests, c :: rest => test c && passes tests rest

/-- The tests for a word. -/
def exactly (word : List Char) : List (Char → Bool) := word.map fun c other => other == c

/-- The tests for the name of a tag of a script, and for the character after it. -/
def scriptName (ends : Char → Bool) : List (Char → Bool) :=
  (['s', 'c', 'r', 'i', 'p', 't'].map fun c other => other.toLower == c) ++ [ends]

namespace Mark

/-- All marks. -/
def all : List Mark := [comment, opening, closing, arrow]

/-- The tests for a mark, where it is given which characters end the name of a tag. -/
def tests (ends : Char → Bool) : Mark → List (Char → Bool)
  | comment => exactly ['<', '!', '-', '-']
  | opening => exactly ['<'] ++ scriptName ends
  | closing => exactly ['<', '/'] ++ scriptName ends
  | arrow => exactly ['-', '-', '>']

/-- Whether a text begins with a mark. -/
def begins (ends : Char → Bool) (mark : Mark) (text : List Char) : Bool := passes (mark.tests ends) text

end Mark

/-- The mark that a text begins with. -/
def mark? (ends : Char → Bool) (text : List Char) : Option Mark :=
  Mark.all.find? fun mark => mark.begins ends text

/-- Somewhere in a text there is a mark. -/
def Has (ends : Char → Bool) (mark : Mark) (text : List Char) : Prop :=
  ∃ later, later <:+ text ∧ mark.begins ends later = true

/-- Whether a character ends the name of a tag. -/
def isTagEnd (c : Char) : Bool :=
  c == '\t' || c == '\n' || c == '\x0c' || c == ' ' || c == '/' || c == '>'

/-! ### Reading -/

/-- How the text of a script is read. -/
inductive State where
  | plain | commented | nested
deriving DecidableEq, Repr

/-- How the text is read after a mark that does not end it. -/
def State.turn (arrows : Bool) : State → Mark → State
  | plain, .comment => commented
  | commented, .opening => nested
  | nested, .closing => commented
  | state, .arrow => if arrows then plain else state
  | state, _ => state

/-- The content of a script element, up to the closing tag that ends it. -/
def content? (arrows : Bool) (state : State) : List Char → Option (List Char)
  | [] => none
  | c :: rest =>
    match mark? isTagEnd (c :: rest) with
    | none => (content? arrows state rest).map (c :: ·)
    | some mark =>
      if mark = .closing ∧ state ≠ .nested then some []
      else (content? arrows (state.turn arrows mark) rest).map (c :: ·)

/-- How the text after a text is read whose closing tags are guarded. -/
def stateAfter (ends : Char → Bool) (arrows : Bool) (state : State) : List Char → State
  | [] => state
  | c :: rest =>
    match mark? ends (c :: rest) with
    | none | some .closing => stateAfter ends arrows state rest
    | some mark => stateAfter ends arrows (state.turn arrows mark) rest

/-! ### One mark at a time -/

section Marks

variable {ends : Char → Bool} {mark other : Mark} {text : List Char}

/-- The mark that two characters may begin. -/
def Mark.ofChars (first second : Char) : Mark :=
  if first = '-' then arrow else if second = '!' then comment else if second = '/' then closing else opening

/-- The first two characters tell which mark a text begins with. -/
theorem exists_of_begins (hbegins : mark.begins ends text = true) :
    ∃ first second rest, text = first :: second :: rest ∧ mark = .ofChars first second ∧
      (first = '<' ∨ first = '-') := by
  match text with
  | [] => cases mark <;> simp [Mark.begins, Mark.tests, exactly, passes] at hbegins
  | [c] => cases mark <;> simp [Mark.begins, Mark.tests, exactly, scriptName, passes] at hbegins
  | c :: d :: rest =>
      refine ⟨c, d, rest, rfl, ?_⟩
      cases mark with
      | comment =>
          obtain ⟨rfl, rfl, -⟩ : c = '<' ∧ d = '!' ∧ _ := by
            simpa [Mark.begins, Mark.tests, exactly, passes] using hbegins
          exact ⟨rfl, .inl rfl⟩
      | opening =>
          obtain ⟨rfl, hlower, -⟩ : c = '<' ∧ d.toLower = 's' ∧ _ := by
            simpa [Mark.begins, Mark.tests, exactly, scriptName, passes] using hbegins
          have hmark : d ≠ '!' := by
            rintro rfl
            exact absurd hlower (by decide)
          have hslash : d ≠ '/' := by
            rintro rfl
            exact absurd hlower (by decide)
          exact ⟨by simp [Mark.ofChars, hmark, hslash], .inl rfl⟩
      | closing =>
          obtain ⟨rfl, rfl, -⟩ : c = '<' ∧ d = '/' ∧ _ := by
            simpa [Mark.begins, Mark.tests, exactly, scriptName, passes] using hbegins
          exact ⟨rfl, .inl rfl⟩
      | arrow =>
          obtain ⟨rfl, -⟩ : c = '-' ∧ _ := by
            simpa [Mark.begins, Mark.tests, exactly, passes] using hbegins
          exact ⟨rfl, .inr rfl⟩

/-- A text begins with one mark at most. -/
theorem eq_of_begins (hmark : mark.begins ends text = true) (hother : other.begins ends text = true) :
    mark = other := by
  obtain ⟨first, second, rest, rfl, rfl, -⟩ := exists_of_begins hmark
  obtain ⟨_, _, _, hsame, rfl, -⟩ := exists_of_begins hother
  cases hsame
  rfl

theorem begins_of_mark? (hmark : mark? ends text = some mark) : mark.begins ends text = true :=
  List.find?_some (p := fun mark => Mark.begins ends mark text) hmark

theorem mark?_eq_some_iff : mark? ends text = some mark ↔ mark.begins ends text = true := by
  refine ⟨begins_of_mark?, fun hbegins => ?_⟩
  cases hfound : mark? ends text with
  | none =>
      have hmem : mark ∈ Mark.all := by cases mark <;> decide
      exact absurd hbegins (List.find?_eq_none.mp hfound mark hmem)
  | some found => rw [eq_of_begins (begins_of_mark? hfound) hbegins]

/-- Two characters leave one mark that a text may begin with. -/
theorem mark?_cases (ends : Char → Bool) (first second : Char) (rest : List Char) :
    mark? ends (first :: second :: rest) = none ∨
      mark? ends (first :: second :: rest) = some (.ofChars first second) := by
  cases hmark : mark? ends (first :: second :: rest) with
  | none => exact .inl rfl
  | some mark =>
      obtain ⟨_, _, _, htext, rfl, -⟩ := exists_of_begins (begins_of_mark? hmark)
      cases htext
      exact .inr rfl

theorem has_cons {c : Char} {rest : List Char} :
    Has ends mark (c :: rest) ↔ mark? ends (c :: rest) = some mark ∨ Has ends mark rest := by
  rw [mark?_eq_some_iff]
  constructor
  · rintro ⟨later, hlater, hbegins⟩
    rcases List.suffix_cons_iff.mp hlater with rfl | hlater
    · exact .inl hbegins
    · exact .inr ⟨later, hlater, hbegins⟩
  · rintro (hbegins | ⟨later, hlater, hbegins⟩)
    · exact ⟨_, List.suffix_rfl, hbegins⟩
    · exact ⟨later, hlater.trans (List.suffix_cons c rest), hbegins⟩

theorem not_has_nil : ¬ Has ends mark [] := by
  rintro ⟨later, hlater, hbegins⟩
  obtain ⟨_, _, _, htext, -, -⟩ := exists_of_begins hbegins
  rw [List.suffix_nil.mp hlater] at htext
  cases htext

/-- Texts that begin with the same marks begin with the same mark. -/
theorem mark?_congr {ends' : Char → Bool} {text' : List Char}
    (hsame : ∀ mark : Mark, mark.begins ends text = mark.begins ends' text') :
    mark? ends text = mark? ends' text' := by
  simp only [mark?, hsame]

/-- What a text begins with does not depend on what follows a character that is part of no mark. -/
theorem passes_append {tests : List (Char → Bool)} {c : Char} (hc : ∀ test ∈ tests, test c = false)
    (text rest : List Char) : passes tests (text ++ c :: rest) = passes tests text := by
  induction tests generalizing text with
  | nil => simp [passes]
  | cons test tests ih =>
      obtain ⟨htest, htests⟩ := List.forall_mem_cons.mp hc
      cases text with
      | nil => simp [passes, htest]
      | cons d text => simp [passes, ih htests]

end Marks

/-- A character that is part of no mark. -/
def IsSeparator (ends : Char → Bool) (c : Char) : Prop :=
  ∀ mark : Mark, ∀ test ∈ mark.tests ends, test c = false

/-- A character that is part of no mark by itself and does not end a name is a separator. -/
theorem isSeparator_of {ends : Char → Bool} {c : Char} (hends : ends c = false)
    (hsign : ['<', '/', '!', '-', '>'].contains c = false)
    (hletter : ['s', 'c', 'r', 'i', 'p', 't'].contains c.toLower = false) : IsSeparator ends c := by
  intro mark test htest
  simp only [List.contains_eq_mem, decide_eq_false_iff_not, List.mem_cons, List.not_mem_nil, or_false,
    not_or] at hsign hletter
  cases mark <;> simp only [Mark.tests, exactly, scriptName, List.mem_append, List.mem_map, List.mem_cons,
    List.not_mem_nil, or_false, exists_eq_or_imp, exists_eq_left] at htest <;> grind

section Separators

variable {ends : Char → Bool} {arrows : Bool} {state : State} {c : Char} {text : List Char}

theorem IsSeparator.mark?_append (hc : IsSeparator ends c) (text rest : List Char) :
    mark? ends (text ++ c :: rest) = mark? ends text :=
  mark?_congr fun mark => passes_append (hc mark) text rest

theorem stateAfter_cons (ends : Char → Bool) (arrows : Bool) (state : State) (c : Char) (rest : List Char) :
    stateAfter ends arrows state (c :: rest) =
      match mark? ends (c :: rest) with
      | none | some .closing => stateAfter ends arrows state rest
      | some mark => stateAfter ends arrows (state.turn arrows mark) rest := rfl

/-- A text is read apart from what follows a separator. -/
theorem IsSeparator.stateAfter_append (hc : IsSeparator ends c) (arrows : Bool) (state : State)
    (text rest : List Char) : stateAfter ends arrows state (text ++ c :: rest) =
      stateAfter ends arrows (stateAfter ends arrows state text) rest := by
  induction text generalizing state with
  | nil =>
      have hnone : mark? ends (c :: rest) = none := hc.mark?_append [] rest
      rw [List.nil_append, stateAfter_cons, hnone]
      rfl
  | cons d text ih =>
      have hmark : mark? ends (d :: (text ++ c :: rest)) = mark? ends (d :: text) :=
        hc.mark?_append (d :: text) rest
      rw [List.cons_append, stateAfter_cons, hmark, stateAfter_cons]
      split <;> exact ih _

end Separators

/-! ### The end of the element -/

section Content

variable {arrows : Bool} {state : State} {c : Char} {text : List Char}

/-- A text without closing tags is part of the content. -/
theorem content?_append (hc : IsSeparator isTagEnd c) (hopen : ¬ Has isTagEnd .closing text)
    (rest : List Char) :
    content? arrows state (text ++ c :: rest) =
      (content? arrows (stateAfter isTagEnd arrows state text) rest).map (text ++ c :: ·) := by
  induction text generalizing state with
  | nil =>
      have hnone : mark? isTagEnd (c :: rest) = none := hc.mark?_append [] rest
      rw [List.nil_append, content?, hnone]
      rfl
  | cons d text ih =>
      -- No mark goes over the separator, so the marks are those of the text by itself.
      have hmark : mark? isTagEnd (d :: (text ++ c :: rest)) = mark? isTagEnd (d :: text) :=
        hc.mark?_append (d :: text) rest
      have hnot : mark? isTagEnd (d :: text) ≠ some .closing := fun hclosing =>
        hopen (has_cons.mpr (.inl hclosing))
      have hrest : ¬ Has isTagEnd .closing text := fun hlater => hopen (has_cons.mpr (.inr hlater))
      rw [List.cons_append, content?, hmark, stateAfter_cons]
      cases hfound : mark? isTagEnd (d :: text) with
      | none =>
          simp only
          rw [ih hrest, Option.map_map]
          rfl
      | some mark =>
          rw [hfound] at hnot
          have hmark : mark ≠ .closing := fun hclosing => hnot (by rw [hclosing])
          simp only [hmark, false_and, if_false]
          rw [ih hrest, Option.map_map]
          cases mark <;> rfl

/-- The closing tag ends the element unless a script is open. -/
theorem content?_closing (state : State) (rest : List Char) :
    content? arrows state ("</script>".toList ++ rest) =
      if state = .nested then (content? arrows .commented ("/script>".toList ++ rest)).map ('<' :: ·)
      else some [] := by
  have hclosing : mark? isTagEnd ('<' :: ("/script>".toList ++ rest)) = some .closing :=
    mark?_eq_some_iff.mpr (by simp [Mark.begins, Mark.tests, exactly, scriptName, passes, isTagEnd])
  rw [show "</script>".toList ++ rest = '<' :: ("/script>".toList ++ rest) from rfl, content?, hclosing]
  cases state <;> rfl

/-- A text without closing tags is all there is in an element exactly if it leaves no script open.  In any
case the element does not end in it. -/
theorem content?_closed (arrows : Bool) (hc : IsSeparator isTagEnd c)
    (hopen : ¬ Has isTagEnd .closing text) (rest : List Char) :
    (∀ content, content? arrows .plain (text ++ c :: ("</script>".toList ++ rest)) = some content →
      text ++ [c] <+: content) ∧
    (content? arrows .plain (text ++ c :: ("</script>".toList ++ rest)) = some (text ++ [c]) ↔
      stateAfter isTagEnd arrows .plain text ≠ .nested) := by
  rw [content?_append hc hopen, content?_closing]
  constructor
  · intro content hcontent
    obtain ⟨more, -, rfl⟩ := Option.map_eq_some_iff.mp hcontent
    exact ⟨more, by simp⟩
  · by_cases hstate : stateAfter isTagEnd arrows .plain text = .nested
    · rw [if_pos hstate, Option.map_map]
      refine iff_of_false (fun hcontent => ?_) (not_not_intro hstate)
      obtain ⟨more, -, hmore⟩ := Option.map_eq_some_iff.mp hcontent
      simp at hmore
    · rw [if_neg hstate]
      exact iff_of_true rfl hstate

end Content

/-! ### Texts that leave a script open -/

/-- A script is opened in a text after a comment, with no arrow, if arrows are heeded, after the opening of
the comment. -/
def OpensScript (ends : Char → Bool) (arrows : Bool) (text : List Char) : Prop :=
  ∃ later, later <:+ text ∧ Mark.comment.begins ends later = true ∧ Has ends .opening later ∧
    (arrows = true → ¬ Has ends .arrow later)

section Opening

variable {ends : Char → Bool} {arrows : Bool}

theorem opensScript_cons {c : Char} {rest : List Char} :
    OpensScript ends arrows (c :: rest) ↔
      (mark? ends (c :: rest) = some .comment ∧ Has ends .opening (c :: rest) ∧
        (arrows = true → ¬ Has ends .arrow (c :: rest))) ∨ OpensScript ends arrows rest := by
  rw [mark?_eq_some_iff]
  constructor
  · rintro ⟨later, hlater, hopens⟩
    rcases List.suffix_cons_iff.mp hlater with rfl | hlater
    · exact .inl hopens
    · exact .inr ⟨later, hlater, hopens⟩
  · rintro (hopens | ⟨later, hlater, hopens⟩)
    · exact ⟨_, List.suffix_rfl, hopens⟩
    · exact ⟨later, hlater.trans (List.suffix_cons c rest), hopens⟩

/-- What has to be in a text so that a script is open after it, by how its beginning is read. -/
def Leaves (ends : Char → Bool) (arrows : Bool) (text : List Char) : State → Prop
  | .plain => OpensScript ends arrows text
  | .commented =>
    (Has ends .opening text ∧ (arrows = true → ¬ Has ends .arrow text)) ∨ OpensScript ends arrows text
  | .nested => (arrows = true → ¬ Has ends .arrow text) ∨ OpensScript ends arrows text

/-- A text that is read as plain leaves a script open exactly if it opens one.  The induction is on the text
and goes over all states at once: a mark changes the state just as it changes what the rest has to hold. -/
theorem stateAfter_eq_nested_iff (state : State) (text : List Char) :
    stateAfter ends arrows state text = .nested ↔ Leaves ends arrows text state := by
  induction text generalizing state with
  | nil =>
      have hopens : ¬ OpensScript ends arrows [] := by
        rintro ⟨later, hlater, -, hopening, -⟩
        rw [List.suffix_nil.mp hlater] at hopening
        exact not_has_nil hopening
      cases state <;> simp [stateAfter, Leaves, hopens, not_has_nil]
  | cons c rest ih =>
      rw [stateAfter_cons]
      cases hmark : mark? ends (c :: rest) with
      | none => cases state <;> simp [ih, Leaves, has_cons, opensScript_cons, hmark]
      | some mark =>
          cases mark <;> cases state <;> cases arrows <;>
            simp [ih, State.turn, Leaves, has_cons, opensScript_cons, hmark] <;> tauto

end Opening

end TemplateWorkbench.ScriptElement
