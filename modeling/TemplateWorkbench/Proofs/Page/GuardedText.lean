import Mathlib.Data.List.Chain
import TemplateWorkbench.Page.Document
import TemplateWorkbench.Proofs.Page.ScriptElement
import TemplateWorkbench.Proofs.Text.Replacing

/-!
# Guarded closing tags

Text goes into a script with a backslash in every closing tag.  What has been guarded holds no closing tag,
and is otherwise read in a script as it was: a guard stands between an angle bracket and a slash, where only
a closing tag could be.

The guard is made by replacing; `guarded` makes it in one go over the text, which is the form that the
induction follows.
-/

namespace TemplateWorkbench.Page

open ScriptElement

/-! ### Replacing closing tags -/

/-- A text with a backslash in every closing tag. -/
def guarded : List Char → List Char
  | '<' :: '/' :: rest => '<' :: '\\' :: '/' :: guarded rest
  | c :: rest => c :: guarded rest
  | [] => []

theorem replace_closing (text : List Char) :
    Text.replace ['<', '/'] ['<', '\\', '/'] none text = guarded text := by
  have hne : ['<', '/'] ≠ [] := List.cons_ne_nil _ _
  induction text using guarded.induct with
  | case1 rest ih => exact (Text.replace_append hne _ rest).trans (congrArg (['<', '\\', '/'] ++ ·) ih)
  | case2 c rest hother ih =>
      rw [Text.replace_cons hne (Text.isPrefixOf_pair_eq_false hother), ih, guarded]
      exact hother
  | case3 => exact Text.replace_nil hne _

theorem toList_guardClosing (text : String) : (guardClosing text).toList = guarded text.toList := by
  rw [guardClosing, String.toList_ofList]
  exact replace_closing text.toList

/-! ### Reading guarded texts -/

section Guarded

variable {ends : Char → Bool} {arrows : Bool} {state : State} {mark : Mark} {c : Char}
  {text rest : List Char}

/-- Whether no mark begins with a character. -/
def isSkipped (c : Char) : Bool := c != '<' && c != '-'

theorem mark?_eq_none (hc : isSkipped c = true) : mark? ends (c :: rest) = none := by
  cases hmark : mark? ends (c :: rest) with
  | none => rfl
  | some mark =>
      obtain ⟨first, second, more, htext, -, hfirst⟩ := exists_of_begins (begins_of_mark? hmark)
      cases htext
      rcases hfirst with rfl | rfl <;> cases hc

theorem stateAfter_skip (htext : text.all isSkipped = true) :
    stateAfter ends arrows state (text ++ rest) = stateAfter ends arrows state rest := by
  induction text with
  | nil => rfl
  | cons c text ih =>
      obtain ⟨hc, hmore⟩ := (Bool.and_eq_true _ _).mp htext
      rw [List.cons_append, stateAfter_cons, mark?_eq_none hc]
      exact ih hmore

theorem has_skip (htext : text.all isSkipped = true) :
    Has ends mark (text ++ rest) ↔ Has ends mark rest := by
  induction text with
  | nil => rfl
  | cons c text ih =>
      obtain ⟨hc, hmore⟩ := (Bool.and_eq_true _ _).mp htext
      rw [List.cons_append, has_cons, mark?_eq_none hc, ih hmore]
      simp

/-- Only a closing tag can begin with a bracket and a slash, -/
theorem mark?_slash (ends : Char → Bool) (rest : List Char) :
    mark? ends ('<' :: '/' :: rest) = none ∨ mark? ends ('<' :: '/' :: rest) = some .closing :=
  mark?_cases ends '<' '/' rest

/-- and nothing with a bracket and a backslash. -/
theorem mark?_backslash (ends : Char → Bool) (rest : List Char) :
    mark? ends ('<' :: '\\' :: rest) = none := by
  refine (mark?_cases ends '<' '\\' rest).resolve_right fun hmark => ?_
  have hbegins := begins_of_mark? hmark
  simp [Mark.ofChars, Mark.begins, Mark.tests, exactly, scriptName, passes] at hbegins

/-- Guarding changes a text only after an angle bracket, which no mark has after its beginning. -/
theorem passes_guarded {tests : List (Char → Bool)}
    (htests : tests.IsChain fun test _ => test '<' = false) (text : List Char) :
    passes tests (guarded text) = passes tests text := by
  induction tests generalizing text with
  | nil => simp [passes]
  | cons test tests ih =>
      have hrest := htests.tail
      cases text using guarded.fun_cases with
      | case1 rest =>
          cases tests with
          | nil => simp [guarded, passes]
          | cons next tests =>
              have hbracket : test '<' = false := (List.isChain_cons_cons.mp htests).1
              simp [guarded, passes, hbracket]
      | case2 c rest hopen =>
          rw [guarded]
          · simp [passes, ih hrest]
          · exact hopen
      | case3 => rfl

theorem mark?_guarded (ends : Char → Bool) (c : Char) (rest : List Char) :
    mark? ends (c :: guarded rest) = mark? ends (c :: rest) := by
  refine mark?_congr fun mark => ?_
  obtain ⟨test, tests, hsplit, hchain⟩ : ∃ test tests, mark.tests ends = test :: tests ∧
      tests.IsChain fun test _ => test '<' = false := by
    cases mark <;> exact ⟨_, _, rfl, by simp [scriptName]⟩
  rw [Mark.begins, Mark.begins, hsplit, passes, passes, passes_guarded hchain]

/-- A text is read the same way once its closing tags are guarded, -/
theorem stateAfter_guarded (ends : Char → Bool) (arrows : Bool) (state : State) (text : List Char) :
    stateAfter ends arrows state (guarded text) = stateAfter ends arrows state text := by
  induction text using guarded.induct generalizing state with
  | case1 rest ih =>
      -- A closing tag does not change the state, and what stands for it is no mark.
      have hslash : ['/'].all isSkipped = true := by decide
      have hguard : ['\\', '/'].all isSkipped = true := by decide
      have hwritten : stateAfter ends arrows state ('<' :: '\\' :: '/' :: guarded rest) =
          stateAfter ends arrows state (guarded rest) := by
        rw [stateAfter_cons, mark?_backslash]
        exact stateAfter_skip hguard
      have hread : stateAfter ends arrows state ('<' :: '/' :: rest) = stateAfter ends arrows state rest := by
        rw [stateAfter_cons]
        rcases mark?_slash ends rest with hmark | hmark <;> rw [hmark] <;> exact stateAfter_skip hslash
      rw [guarded, hwritten, hread, ih]
  | case2 c rest hopen ih =>
      rw [guarded, stateAfter_cons, mark?_guarded, stateAfter_cons]
      · split <;> exact ih _
      · exact hopen
  | case3 => rfl

/-- and it has no closing tags. -/
theorem not_has_closing_guarded (ends : Char → Bool) (text : List Char) :
    ¬ Has ends .closing (guarded text) := by
  induction text using guarded.induct with
  | case1 rest ih =>
      have hguard : ['\\', '/'].all isSkipped = true := by decide
      rw [guarded, has_cons, mark?_backslash]
      rintro (hmark | hlater)
      · cases hmark
      · exact ih ((has_skip hguard).mp hlater)
  | case2 c rest hopen ih =>
      rw [guarded, has_cons, mark?_guarded]
      · rintro (hmark | hlater)
        · have hbegins := begins_of_mark? hmark
          cases rest with
          | nil => simp [Mark.begins, Mark.tests, exactly, scriptName, passes] at hbegins
          | cons d rest =>
              obtain ⟨rfl, rfl, -⟩ : c = '<' ∧ d = '/' ∧ _ := by
                simpa [Mark.begins, Mark.tests, exactly, scriptName, passes] using hbegins
              exact hopen rest rfl rfl
        · exact ih hlater
      · exact hopen
  | case3 => exact not_has_nil

end Guarded

end TemplateWorkbench.Page
