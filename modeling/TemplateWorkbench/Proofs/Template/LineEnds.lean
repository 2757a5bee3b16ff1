import TemplateWorkbench.Proofs.Text.Lines
import TemplateWorkbench.Proofs.Text.Replacing
import TemplateWorkbench.Template.Lexer

/-!
# Line ends in a source and in its lexer

The views count offsets in a source whose line ends have been replaced, the double ones first and then
the single ones.  The lexer takes every line end where it stands, the longest first.  If the two ever
parted, every span behind that place would be shifted.

They do not part.  A CR before a double line end does come to stand before an LF once that has been
replaced, but the second replacement takes a CR alone, so the two are not joined:

```text
source     after CRLF   after CR   in one pass
CR CR LF   CR LF        LF LF      LF LF
LF CR      LF CR        LF LF      LF LF
CR LF LF   LF LF        LF LF      LF LF
```

* `Text.onePass_iff` : the pass has one outcome, the single pass of `unify`
* `normalize_eq_onePass` : the replacements come to the pass, and the lexer reads their outcome less one
  final line feed
-/

namespace TemplateWorkbench.Text

/-! ### The pass -/

/-- What a line may end with, the longest first. -/
def lineEnds : List (List Char) := [['\r', '\n'], ['\r'], ['\n']]

/-- The longest line end at the front of a text. -/
def lineEnd? (text : List Char) : Option (List Char) :=
  lineEnds.find? fun ending => ending.isPrefixOf text

/-- One pass over a text from left to right: a line end at the front is taken as a whole and becomes a line
feed, and any other character stays. -/
inductive OnePass : List Char → List Char → Prop
  | nil : OnePass [] []
  | lineEnd {ending rest unified : List Char} (hend : lineEnd? (ending ++ rest) = some ending)
      (hrest : OnePass rest unified) : OnePass (ending ++ rest) ('\n' :: unified)
  | other {c : Char} {rest unified : List Char} (hnone : lineEnd? (c :: rest) = none)
      (hrest : OnePass rest unified) : OnePass (c :: rest) (c :: unified)

theorem lineEnd?_crlf (rest : List Char) : lineEnd? ('\r' :: '\n' :: rest) = some ['\r', '\n'] := by
  simp [lineEnd?, lineEnds]

theorem lineEnd?_cr {rest : List Char} (hnext : ∀ more, rest ≠ '\n' :: more) :
    lineEnd? ('\r' :: rest) = some ['\r'] := by
  have hmiss : ['\r', '\n'].isPrefixOf ('\r' :: rest) = false := by
    cases rest with
    | nil => rfl
    | cons c more =>
        have hc : '\n' ≠ c := fun heq => hnext more (by rw [heq])
        simpa [List.isPrefixOf] using hc
  simp [lineEnd?, lineEnds, hmiss]

theorem lineEnd?_lf (rest : List Char) : lineEnd? ('\n' :: rest) = some ['\n'] := by
  simp [lineEnd?, lineEnds]

theorem lineEnd?_other {c : Char} (hcr : c ≠ '\r') (hlf : c ≠ '\n') (rest : List Char) :
    lineEnd? (c :: rest) = none := by
  simp [lineEnd?, lineEnds, hcr.symm, hlf.symm]

/-- Unifying line ends is a pass. -/
theorem onePass_unify (text : List Char) : OnePass text (unify text) := by
  fun_induction unify text with
  | case1 rest ih => exact @OnePass.lineEnd ['\r', '\n'] rest _ (lineEnd?_crlf rest) ih
  | case2 rest hnext ih => exact @OnePass.lineEnd ['\r'] rest _ (lineEnd?_cr hnext) ih
  | case3 c rest _ hcr ih =>
      by_cases hlf : c = '\n'
      · subst hlf
        exact @OnePass.lineEnd ['\n'] rest _ (lineEnd?_lf rest) ih
      · exact .other (lineEnd?_other hcr hlf rest) ih
  | case4 => exact .nil

/-- Every pass over a text comes to the same. -/
theorem OnePass.eq_unify {text unified : List Char} (hpass : OnePass text unified) :
    unified = unify text := by
  induction hpass with
  | nil => rfl
  | @lineEnd ending rest unified hend _ ih =>
      have hmem : ending ∈ lineEnds := List.mem_of_find?_eq_some hend
      simp only [lineEnds, List.mem_cons, List.not_mem_nil, or_false] at hmem
      rcases hmem with rfl | rfl | rfl
      · exact congrArg ('\n' :: ·) ih
      · -- No LF follows, for with it the line end would be a double one.
        have hnext : ∀ more, rest ≠ '\n' :: more := by
          rintro more rfl
          rw [List.singleton_append, lineEnd?_crlf] at hend
          cases hend
        rw [List.singleton_append, unify, ih]
        exact fun more hmore => hnext more hmore
      · exact congrArg ('\n' :: ·) ih
  | @other c rest unified hnone _ ih =>
      have hcr : c ≠ '\r' := by
        rintro rfl
        simp [lineEnd?, lineEnds] at hnone
      rw [unify, ih]
      · exact fun _ h _ => hcr h
      · exact hcr

theorem onePass_iff {text unified : List Char} : OnePass text unified ↔ unified = unify text :=
  ⟨OnePass.eq_unify, fun heq => heq ▸ onePass_unify text⟩

/-! ### The two replacements -/

theorem replace_crlf (text : List Char) : replace ['\r', '\n'] ['\n'] none text = replaceCrLf text := by
  have hne : ['\r', '\n'] ≠ [] := List.cons_ne_nil _ _
  fun_induction replaceCrLf text with
  | case1 rest ih => exact (replace_append hne _ rest).trans (congrArg ('\n' :: ·) ih)
  | case2 c rest hother ih => rw [replace_cons hne (isPrefixOf_pair_eq_false hother), ih]
  | case3 => exact replace_nil hne _

theorem replace_cr (text : List Char) : replace ['\r'] ['\n'] none text = replaceCr text := by
  have hne : ['\r'] ≠ [] := List.cons_ne_nil _ _
  induction text with
  | nil => exact replace_nil hne _
  | cons c rest ih =>
      by_cases hc : c = '\r'
      · subst hc
        exact (replace_append hne _ rest).trans (congrArg ('\n' :: ·) ih)
      · have hmiss : ['\r'].isPrefixOf (c :: rest) = false := by simpa [List.isPrefixOf] using Ne.symm hc
        rw [replace_cons hne hmiss, ih]
        simp [replaceCr, hc]

/-- Normalising is to replace the double line ends and then the single ones. -/
theorem normalize_eq_replace (text : List Char) :
    normalize text = replace ['\r'] ['\n'] none (replace ['\r', '\n'] ['\n'] none text) := by
  rw [replace_crlf, replace_cr, normalize]

theorem normalize_normalize (text : List Char) : normalize (normalize text) = normalize text := by
  rw [← unify_eq_normalize (normalize text)]
  exact unify_eq_self (cr_notMem_normalize text)

/-! ### One final line feed -/

/-- A text is what the lexer keeps of it and the line feed at its end, if there is one. -/
theorem dropFinalNewline_append (text : List Char) :
    dropFinalNewline text ++ (if text.getLast? = some '\n' then ['\n'] else []) = text := by
  fun_induction dropFinalNewline text with
  | case1 => rfl
  | case2 => rfl
  | case3 c rest hmore ih =>
      rcases List.eq_nil_or_concat rest with rfl | ⟨before, last, rfl⟩
      · have hc : c ≠ '\n' := by
          rintro rfl
          exact hmore rfl rfl
        simp [dropFinalNewline, hc]
      · rw [List.cons_append, List.getLast?_cons_of_ne_nil (by simp), ih]

end TemplateWorkbench.Text

namespace TemplateWorkbench.Template

open Text

/-- Line ends are unified alike wherever a source is read.  To replace the double ones and then the single
ones is the pass from left to right that takes the longest line end first; the outcome holds no CR and stays
as it is when it is normalised again; and the lexer reads the outcome, less one line feed at its end. -/
theorem normalize_eq_onePass (source : List Char) :
    normalize source = replace ['\r'] ['\n'] none (replace ['\r', '\n'] ['\n'] none source) ∧
    (∀ unified, OnePass source unified ↔ unified = normalize source) ∧
    '\r' ∉ normalize source ∧
    normalize (normalize source) = normalize source ∧
    lexerSource source ++ (if (normalize source).getLast? = some '\n' then ['\n'] else []) =
      normalize source := by
  refine ⟨normalize_eq_replace source, fun unified => ?_, cr_notMem_normalize source,
    normalize_normalize source, ?_⟩
  · rw [onePass_iff, unify_eq_normalize]
  · rw [lexerSource, unify_eq_normalize]
    exact dropFinalNewline_append _

/-- Runs of line ends of every kind: each is one line feed, and the lexer leaves the last one out. -/
example : normalize "a\r\r\n\n\rb\r\n".toList = "a\n\n\n\nb\n".toList ∧
    lexerSource "a\r\r\n\n\rb\r\n".toList = "a\n\n\n\nb".toList := by
  decide

end TemplateWorkbench.Template
