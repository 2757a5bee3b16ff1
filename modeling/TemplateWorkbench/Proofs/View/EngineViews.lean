import TemplateWorkbench.Proofs.Outline.Integers
import TemplateWorkbench.Proofs.Results
import TemplateWorkbench.Proofs.Session.Freshness
import TemplateWorkbench.Proofs.View.Refusals
import TemplateWorkbench.View.Projection

/-!
# Which views can be written out

A payload can be written out if its integers are short, and they come from the source.

## Which payloads can be written out

A payload is written out as text and as markup.  Both can only fail at an integer that is too long, or at
a tree without an outline, and they fail together: a payload without such a tree can be written out
exactly when all of its integers are short.
-/

namespace TemplateWorkbench

open Number (isShort)
open Results

/-! ### Entries -/

namespace Entry

/-- The integers in the value of an entry. -/
def integers (entry : Entry) : List Int := (entry.value.map Json.integers).getD []

theorem isOk_valueText (value : Json) : (valueText value).isOk = value.integers.all isShort := by
  rw [← Json.isOk_line, valueText]
  cases Json.line value <;> rfl

theorem isOk_valueSuffix (entry : Entry) : entry.valueSuffix.isOk = entry.integers.all isShort := by
  unfold valueSuffix integers
  cases entry.value with
  | none => rfl
  | some value => exact isOk_map.trans (isOk_valueText value)

theorem isOk_valueCell (entry : Entry) : entry.valueCell.isOk = entry.integers.all isShort := by
  unfold valueCell integers
  cases entry.value with
  | none => rfl
  | some value => exact isOk_valueText value

end Entry

theorem isOk_instructionLines (number : Nat) (entries : List Entry) :
    (instructionLines number entries).isOk = (entries.flatMap Entry.integers).all isShort := by
  induction entries generalizing number with
  | nil => rfl
  | cons entry rest ih =>
      rw [instructionLines, isOk_bind_bind_pure, instructionLine, isOk_bind_pure,
        Entry.isOk_valueSuffix, ih, List.flatMap_cons, List.all_append]

theorem isOk_instructionRows (number : Nat) (entries : List Entry) :
    (instructionRows number entries).isOk = (entries.flatMap Entry.integers).all isShort := by
  induction entries generalizing number with
  | nil => rfl
  | cons entry rest ih =>
      rw [instructionRows, isOk_bind_bind_pure, instructionRow, isOk_bind_pure,
        Entry.isOk_valueCell, ih, List.flatMap_cons, List.all_append]

/-! ### Payloads -/

namespace Payload

/-- The integers in a payload. -/
def integers : Payload → List Int
  | rendered _ => []
  | tokens entries => entries.flatMap fun placed => placed.entry.integers
  | tree root => root.integers
  | programs blocks => blocks.flatMap fun block => block.2.flatMap Entry.integers

/-- Whether a payload holds no tree with a node that is too deep. -/
def isShallow : Payload → Bool
  | tree root => root.isShallow
  | _ => true

theorem isOk_outlineText {root : Tree} (hshallow : root.isShallow = true) :
    (outlineText root).isOk = root.integers.all isShort := by
  rw [← Tree.isOk_outline hshallow, outlineText]
  cases root.outline <;> rfl

/-- A payload can be written as text exactly when its integers are short. -/
theorem isOk_text {payload : Payload} (hshallow : payload.isShallow = true) :
    payload.text.isOk = payload.integers.all isShort := by
  cases payload with
  | rendered text => rfl
  | tokens entries =>
      simp only [text, integers, isOk_bind_pure, isOk_mapM, PlacedEntry.line, Entry.isOk_valueSuffix,
        List.all_flatMap]
  | tree root => exact isOk_outlineText hshallow
  | programs blocks =>
      simp only [text, integers, isOk_bind_pure, isOk_mapM, blockLines, isOk_instructionLines,
        List.all_flatMap]

/-- A payload can be written as markup exactly when its integers are short. -/
theorem isOk_markup {payload : Payload} (hshallow : payload.isShallow = true) :
    payload.markup.isOk = payload.integers.all isShort := by
  cases payload with
  | rendered text => rfl
  | tokens entries =>
      simp only [markup, integers, isOk_bind_pure, isOk_mapM, PlacedEntry.row, Entry.isOk_valueCell,
        List.all_flatMap]
  | tree root =>
      rw [markup, isOk_map]
      exact isOk_outlineText hshallow
  | programs blocks =>
      simp only [markup, integers, isOk_bind_pure, isOk_mapM, blockMarkup, isOk_instructionRows,
        List.all_flatMap]

end Payload

/-! ### Outcomes -/

namespace Outcome

/-- Whether the payload of an outcome, if it has one, can be written out. -/
def IsWritable (outcome : Outcome Payload) : Prop :=
  ∀ payload, outcome = .success payload → payload.isShallow = true ∧ payload.integers.all isShort = true

theorem IsWritable.isOk_text {outcome : Outcome Payload} (hwritable : outcome.IsWritable) :
    outcome.text.isOk = true := by
  cases outcome with
  | success payload =>
      obtain ⟨hshallow, hshort⟩ := hwritable payload rfl
      exact (Payload.isOk_text hshallow).trans hshort
  | engineError message | contextError message => rfl

theorem IsWritable.isOk_markup {outcome : Outcome Payload} (hwritable : outcome.IsWritable)
    (view : ViewMode) : (outcome.markup view).isOk = true := by
  cases outcome with
  | success payload =>
      obtain ⟨hshallow, hshort⟩ := hwritable payload rfl
      exact isOk_bind_pure.trans ((Payload.isOk_markup hshallow).trans hshort)
  | engineError message | contextError message => rfl

end Outcome

end TemplateWorkbench

/-!
## What the views of a source can hold

Integers come into a view only from the source itself: the tokens show the integers that are written there,
the tree shows no others, and the rendered text and the names of routines are no integers.  So all views of
a source can be written out if the integers of the source are short.
-/

namespace TemplateWorkbench

open Number (isShort)
open Results

namespace Template

/-- The integer that a lexeme is. -/
def Lexeme.integer? : Lexeme → Option Int
  | .integer value => some value
  | _ => none

/-- The integers that are written in a source, as far as it has tokens. -/
def writtenIntegers (source : List Char) : List Int :=
  (tokenize source).tokens.filterMap fun token => token.lexeme.integer?

end Template

namespace TemplateEngine

variable {source : String}

/-- What is shown of a token. -/
def shownToken (lexeme : Template.Lexeme) : Entry :=
  match lexeme.payload? with
  | some value => .ofJson lexeme.kindName value
  | none => ⟨lexeme.kindName, none⟩

theorem integers_shownToken (lexeme : Template.Lexeme) :
    (shownToken lexeme).integers = lexeme.integer?.toList := by
  cases lexeme <;> rfl

/-- The tokens show the integers of the source. -/
theorem integers_of_tokens {entries : List PlacedEntry}
    (htokens : TemplateEngine.tokens source = .ok entries) :
    (Payload.tokens entries).integers = Template.writtenIntegers source.toList := by
  unfold TemplateEngine.tokens at htokens
  obtain ⟨placed, hplaced, hentries⟩ := bind_eq_ok_iff.mp htokens
  cases hentries
  have hplaced := mapError_eq_ok_iff.mp hplaced
  cases hended : (Template.tokenize source.toList).fault with
  | none =>
      obtain ⟨others, hothers, hspec⟩ := Template.exists_placedTokens hended
      cases hplaced.symm.trans hothers
      have hshown (token : Template.PlacedToken) : (shownToken token.token.lexeme).integers =
          (token.token.lexeme.integer?).toList := integers_shownToken _
      rw [Template.writtenIntegers, ← hspec, List.filterMap_map, Payload.integers, List.flatMap_map,
        List.filterMap_eq_flatMap_toList]
      exact List.flatMap_congr fun token _ => hshown token
  | some ended =>
      cases hplaced.symm.trans (Template.placedTokens_eq_error hended)

/-- The tree shows no other integers. -/
theorem mem_of_mem_tree {tree : Tree} (htree : TemplateEngine.tree source = .ok tree) {n : Int}
    (hn : n ∈ tree.integers) : n ∈ Template.writtenIntegers source.toList := by
  unfold TemplateEngine.tree at htree
  obtain ⟨body, hbody, hdisplay⟩ := bind_eq_ok_iff.mp htree
  cases hdisplay
  obtain ⟨token, hmem, hlexeme⟩ := Template.exists_token_of_parse (mapError_eq_ok_iff.mp hbody) hn
  exact List.mem_filterMap.mpr ⟨token, hmem, by rw [hlexeme]; rfl⟩

theorem isShallow_of_tree {tree : Tree} (htree : TemplateEngine.tree source = .ok tree) :
    tree.isShallow = true := by
  unfold TemplateEngine.tree at htree
  obtain ⟨body, -, hdisplay⟩ := bind_eq_ok_iff.mp htree
  cases hdisplay
  exact Template.isShallow_displayTree body

/-- Names without instructions hold no integers. -/
theorem integers_of_names (names : List String) :
    (Payload.programs (Programs.sorted (names.map fun id => (id, [])))).integers = [] := by
  refine List.flatMap_eq_nil_iff.mpr fun block hblock => ?_
  obtain ⟨id, -, rfl⟩ := List.mem_map.mp (List.mem_mergeSort.mp hblock)
  rfl

end TemplateEngine

/-! ### Drafts -/

namespace Draft

variable {draft : Draft} {source : String}

/-- What the engine answers about a source with short integers can be written out. -/
theorem isWritable_derive (strict : Bool) (htemplate : draft.template = .string source)
    (hshort : (Template.writtenIntegers source.toList).all isShort = true) (view : ViewMode) :
    (draft.derive (templateEngine strict) view).outcome.IsWritable := by
  intro payload hsuccess
  have hask := Outcome.ofResult_eq_success hsuccess
  -- Only tokens and trees show integers, and these are integers of the source.
  cases view with
  | render =>
      simp only [Draft.ask] at hask
      split at hask
      · cases hask
      · obtain ⟨text, -, rfl⟩ := map_eq_ok_iff.mp hask
        exact ⟨rfl, rfl⟩
  | tokens =>
      simp only [Draft.ask, templateEngine, htemplate, Answer.map] at hask
      obtain ⟨entries, htokens, rfl⟩ := map_eq_ok_iff.mp hask
      exact ⟨rfl, by rw [TemplateEngine.integers_of_tokens htokens]; exact hshort⟩
  | ast =>
      simp only [Draft.ask, templateEngine, htemplate, Answer.map] at hask
      obtain ⟨tree, htree, rfl⟩ := map_eq_ok_iff.mp hask
      refine ⟨TemplateEngine.isShallow_of_tree htree, List.all_eq_true.mpr fun n hn => ?_⟩
      exact List.all_eq_true.mp hshort n (TemplateEngine.mem_of_mem_tree htree hn)
  | instructions =>
      simp only [Draft.ask, templateEngine, htemplate, Answer.map] at hask
      obtain ⟨programs, hprograms, rfl⟩ := map_eq_ok_iff.mp hask
      obtain ⟨names, -, rfl⟩ := map_eq_ok_iff.mp hprograms
      exact ⟨rfl, by rw [TemplateEngine.integers_of_names]; rfl⟩

/-- The list of tokens can be written out exactly when it is refused or the integers are short. -/
theorem isOk_text_tokens_iff (strict : Bool) (htemplate : draft.template = .string source) :
    let outcome := (draft.derive (templateEngine strict) .tokens).outcome
    outcome.text.isOk = true ↔
      (outcome.isSuccess = true → (Template.writtenIntegers source.toList).all isShort = true) := by
  simp only [derive, ask, templateEngine, htemplate, Answer.map]
  cases htokens : TemplateEngine.tokens source with
  | error refusal =>
      cases refusal <;>
        exact ⟨fun _ hsuccess => absurd hsuccess Bool.false_ne_true, fun _ => rfl⟩
  | ok entries =>
      rw [← TemplateEngine.integers_of_tokens htokens]
      exact ⟨fun htext _ => (Payload.isOk_text rfl).symm.trans htext,
        fun hshort => (Payload.isOk_text rfl).trans (hshort rfl)⟩

/-- A hexadecimal numeral of many digits is shown as a token, but the list of tokens cannot be written. -/
theorem isOk_text_longHexadecimal (strict : Bool) {numeral : String} {first : Char} {others : List Char}
    (hchars : numeral.toList = '0' :: 'x' :: first :: others)
    (hdigits : Number.AreDigits 16 (first :: others)) (hzero : first ≠ '0')
    (hlong : Template.hexLimit ≤ others.length)
    (htemplate : draft.template = .string (String.ofList (Template.Alternation.tag numeral))) :
    let outcome := (draft.derive (templateEngine strict) .tokens).outcome
    outcome.isSuccess = true ∧ outcome.text.isOk = false := by
  intro outcome
  have hwritten : Template.writtenIntegers (Template.Alternation.tag numeral) =
      [(Template.hexValue (first :: others) : Int)] := by
    rw [Template.writtenIntegers,
      Template.tokenize_hexadecimal hchars hdigits (List.cons_ne_nil first others)]
    rfl
  have hsuccess : outcome.isSuccess = true := by
    have hread : (Template.tokenize (Template.Alternation.tag numeral)).fault = none := by
      rw [Template.tokenize_hexadecimal hchars hdigits (List.cons_ne_nil first others)]
    obtain ⟨placed, hplaced, -⟩ := Template.exists_placedTokens hread
    simp only [outcome, derive, ask, templateEngine, htemplate, Answer.map, TemplateEngine.tokens,
      String.toList_ofList, hplaced]
    rfl
  refine ⟨hsuccess, Bool.eq_false_iff.mpr fun htext => ?_⟩
  have hshort := (isOk_text_tokens_iff strict htemplate).mp htext hsuccess
  rw [String.toList_ofList, hwritten, List.all_cons, isShort,
    Template.isTooLong_hexValue hdigits hzero hlong] at hshort
  cases hshort

end Draft

end TemplateWorkbench
