import TemplateWorkbench.Proofs.Template.Matches
import TemplateWorkbench.Proofs.Text.Lines
import TemplateWorkbench.Template.TokenList

/-!
# How the lexer cuts a source

The pieces of a source stand in it one after another.  What lies between two of them is blank, and it
lies before a mark that opens a tag; after the last one comes at most the final line end.  A piece is
either *spoken*, so that it makes a token or an objection, or *quiet*; quiet pieces are blanks,
comments and the tags around raw text.

The relation `Cut` says this of a text and a list of pieces.  It is proved of one step of the lexer
in each of its modes, and from there by induction on the fuel of every run that ends without a fault.
-/

namespace TemplateWorkbench.Template

open Lexer

/-! ### Text without tokens -/

/-- Text that makes no token: blanks, tags around raw text and comments.  The flags say whether the
text begins and ends within a comment; a comment goes up to the first mark that can close it. -/
inductive Skipped : Bool → List Char → Bool → Prop
  | nil (within : Bool) : Skipped within [] within
  | blank {c : Char} {rest : List Char} {after : Bool} (hblank : Unicode.isBlank c = true)
      (hrest : Skipped false rest after) : Skipped false (c :: rest) after
  | rawTag {tag rest : List Char} {after : Bool} (htag : IsRawTag tag)
      (hrest : Skipped false rest after) : Skipped false (tag ++ rest) after
  | commentBegin {rest : List Char} {after : Bool} (hrest : Skipped true rest after) :
      Skipped false ('{' :: '#' :: rest) after
  | commentText {c : Char} {rest : List Char} {after : Bool} (hopen : ¬ ['#', '}'] <+: c :: rest)
      (hrest : Skipped true rest after) : Skipped true (c :: rest) after
  | commentEnd {rest : List Char} {after : Bool} (hrest : Skipped false rest after) :
      Skipped true ('#' :: '}' :: rest) after

theorem Skipped.blanks {blanks rest : List Char} {after : Bool}
    (hblank : ∀ c ∈ blanks, Unicode.isBlank c = true) (hrest : Skipped false rest after) :
    Skipped false (blanks ++ rest) after := by
  induction blanks with
  | nil => exact hrest
  | cons c blanks ih =>
      exact .blank (hblank c List.mem_cons_self) (ih fun d hd => hblank d (List.mem_cons_of_mem c hd))

/-- A sign closes no comment. -/
theorem Skipped.sign {sign rest : List Char} {after : Bool} (hsign : IsSign sign)
    (hrest : Skipped true rest after) : Skipped true (sign ++ rest) after := by
  rcases hsign with rfl | rfl | rfl
  · exact hrest
  · exact .commentText (by simp) hrest
  · exact .commentText (by simp) hrest

theorem Skipped.closing {close rest : List Char} {after : Bool}
    (hclose : IsClosing ['#', '}'] close) (hrest : Skipped false rest after) :
    Skipped true (close ++ rest) after := by
  obtain ⟨sign, blanks, hsign, hblank, rfl⟩ := hclose
  have hafter : Skipped true ('#' :: '}' :: (blanks ++ rest)) after :=
    .commentEnd (.blanks hblank hrest)
  simpa using Skipped.sign hsign hafter

/-- A place where no closing is found does not begin with the closing mark. -/
theorem not_closes_of_closeComment?_eq_none {c : Char} {later tail ending text : List Char}
    (hnone : closeComment? (c :: later ++ tail) = none) (hne : tail ≠ [])
    (htext : text <+: tail ++ ending) : ¬ ['#', '}'] <+: c :: later ++ text := by
  intro hcloses
  have hlong : ['#', '}'] <+: c :: later ++ tail ++ ending := by
    rw [List.append_assoc]
    exact hcloses.trans ((List.prefix_append_right_inj (c :: later)).mpr htext)
  have hlength : ['#', '}'].length ≤ (c :: later ++ tail).length := by
    have hpos : 0 < tail.length := List.length_pos_iff.mpr hne
    simp only [List.length_append, List.length_cons, List.length_nil]
    omega
  obtain ⟨rest, hrest⟩ :=
    List.prefix_of_prefix_length_le hlong (List.prefix_append _ ending) hlength
  rw [← hrest] at hnone
  simp [closeComment?] at hnone

/-- The text of a comment before its closing. -/
theorem Skipped.comment {before tail ending text : List Char} {after : Bool}
    (hopen : ∀ done c later, before = done ++ c :: later →
      closeComment? (c :: later ++ tail) = none)
    (hne : tail ≠ []) (htext : text <+: tail ++ ending) (hrest : Skipped true text after) :
    Skipped true (before ++ text) after := by
  induction before with
  | nil => exact hrest
  | cons c later ih =>
      refine .commentText (not_closes_of_closeComment?_eq_none (hopen [] c later rfl) hne htext)
        (ih fun done d rest hlater => hopen (c :: done) d rest ?_)
      rw [hlater, List.cons_append]

/-! ### Cuts -/

/-- The text before a piece that belongs to none. -/
structure IsGap (gap : List Char) (piece : Piece) : Prop where
  blank : ∀ c ∈ gap, Unicode.isBlank c = true
  opens : gap ≠ [] → piece.text.head? = some '{'

theorem IsGap.nil (piece : Piece) : IsGap [] piece := ⟨by simp, by simp⟩

/-- How pieces cut a text that begins at a line, within a comment or not. -/
inductive Cut : Bool → Nat → List Char → List Piece → Prop
  | ending {within : Bool} {line : Nat} {text : List Char} (hend : text = [] ∨ text = ['\n']) :
      Cut within line text []
  | spoken (gap : List Char) (piece : Piece) {line : Nat} {rest : List Char}
      {pieces : List Piece} (hgap : IsGap gap piece) (hne : piece.text ≠ [])
      (hline : piece.line = line + newlines gap) (hspoken : piece.lexeme? ≠ .ok none)
      (hrest : Cut false (piece.line + newlines piece.text) rest pieces) :
      Cut false line (gap ++ piece.text ++ rest) (piece :: pieces)
  | quiet (gap : List Char) (piece : Piece) {within next : Bool} {line : Nat} {rest : List Char}
      {pieces : List Piece} (hgap : IsGap gap piece) (hne : piece.text ≠ [])
      (hline : piece.line = line + newlines gap) (hquiet : piece.lexeme? = .ok none)
      (hskipped : ∀ text after, text <+: rest → Skipped next text after →
        Skipped within (gap ++ piece.text ++ text) after)
      (hrest : Cut next (piece.line + newlines piece.text) rest pieces) :
      Cut within line (gap ++ piece.text ++ rest) (piece :: pieces)

theorem newlines_append (front rest : List Char) :
    newlines (front ++ rest) = newlines front + newlines rest := List.count_append

/-- Data before a mark makes a piece of its own, unless it is empty. -/
theorem Cut.data {line : Nat} {data rest : List Char} {pieces : List Piece}
    (hrest : Cut false (line + newlines data) rest pieces) :
    Cut false line (data ++ rest) (pieceUnlessEmpty line .data data ++ pieces) := by
  cases data with
  | nil => simpa [pieceUnlessEmpty, newlines] using hrest
  | cons c data =>
      exact .spoken [] ⟨line, .data, c :: data⟩ (IsGap.nil _) (by simp) (by simp [newlines])
        (by simp [Piece.lexeme?]) hrest

/-- Text before a mark: the blanks that a minus takes away are a gap, the rest is data. -/
theorem Cut.before {line : Nat} {sign before text : List Char} {pieces : List Piece}
    (htext : ∀ blanks, (∀ c ∈ blanks, Unicode.isBlank c = true) →
      newlines before = newlines (stripBefore sign before) + newlines blanks →
      Cut false (line + newlines (stripBefore sign before)) (blanks ++ text) pieces) :
    Cut false line (before ++ text)
      (pieceUnlessEmpty line .data (stripBefore sign before) ++ pieces) := by
  obtain ⟨blanks, hbefore, hblank⟩ := exists_stripBefore_append sign before
  have hlines : newlines before = newlines (stripBefore sign before) + newlines blanks := by
    rw [← newlines_append, ← hbefore]
  have hcut := Cut.data (htext blanks hblank hlines)
  rwa [← List.append_assoc, ← hbefore] at hcut

/-- A tag around raw text is quiet. -/
theorem Cut.rawTag (blanks : List Char) (piece : Piece) {line : Nat} {rest : List Char}
    {pieces : List Piece} (hblank : ∀ c ∈ blanks, Unicode.isBlank c = true) (htag : IsRawTag piece.text)
    (hline : piece.line = line + newlines blanks) (hquiet : piece.lexeme? = .ok none)
    (hrest : Cut false (piece.line + newlines piece.text) rest pieces) :
    Cut false line (blanks ++ piece.text ++ rest) (piece :: pieces) := by
  have hhead : piece.text.head? = some '{' := by
    obtain ⟨sign, before, word, behind, close, -, -, -, -, -, htext⟩ := htag
    simp [htext]
  have hne : piece.text ≠ [] := fun hnil => by simp [hnil] at hhead
  refine .quiet blanks piece ⟨hblank, fun _ => hhead⟩ hne hline hquiet ?_ hrest
  intro text after _ hskipped
  rw [List.append_assoc]
  exact .blanks hblank (.rawTag htag hskipped)

/-- A sign opens a comment with the mark before it. -/
theorem Cut.commentBegin (blanks : List Char) (piece : Piece) {line : Nat}
    {sign rest : List Char} {pieces : List Piece}
    (hblank : ∀ c ∈ blanks, Unicode.isBlank c = true) (hsign : IsSign sign)
    (htext : piece.text = ['{', '#'] ++ sign) (hline : piece.line = line + newlines blanks)
    (hquiet : piece.lexeme? = .ok none)
    (hrest : Cut true (piece.line + newlines piece.text) rest pieces) :
    Cut false line (blanks ++ piece.text ++ rest) (piece :: pieces) := by
  refine .quiet blanks piece ⟨hblank, fun _ => by simp [htext]⟩ (by simp [htext]) hline hquiet ?_ hrest
  intro text after _ hskipped
  rw [List.append_assoc, htext]
  exact .blanks hblank (.commentBegin (.sign hsign hskipped))

/-- The text of a comment makes a quiet piece, unless it is empty. -/
theorem Cut.comment {line : Nat} {before tail ending : List Char} {pieces : List Piece}
    (hopen : ∀ done c later, before = done ++ c :: later →
      closeComment? (c :: later ++ tail) = none) (hne : tail ≠ [])
    (hrest : Cut true (line + newlines before) (tail ++ ending) pieces) :
    Cut true line (before ++ (tail ++ ending))
      (pieceUnlessEmpty line .comment before ++ pieces) := by
  cases before with
  | nil => simpa [pieceUnlessEmpty, newlines] using hrest
  | cons c later =>
      exact .quiet [] ⟨line, .comment, c :: later⟩ (IsGap.nil _) (by simp) (by simp [newlines]) rfl
        (fun _ _ htext hskipped => .comment hopen hne htext hskipped) hrest

/-! ### One step of the lexer -/

/-- Whether a mode is within a comment. -/
def Lexer.Mode.within : Mode → Bool
  | .comment => true
  | _ => false

/-- What a step finds is cut off the front of the text, whatever the rest is cut into; `ending` is
the line end that the lexer was not given. -/
structure StepCuts (ending : List Char) (state : State) (text : List Char) (found : List Piece)
    (next : State) (rest : List Char) : Prop where
  shorter : rest.length < text.length
  cut : ∀ pieces, Cut next.mode.within next.line (rest ++ ending) pieces →
    Cut state.mode.within state.line (text ++ ending) (found ++ pieces)

/-- Cutting a piece off makes the text shorter. -/
theorem length_lt_of_cut {piece : List Char} (hne : piece ≠ []) (before rest : List Char) :
    rest.length < (before ++ (piece ++ rest)).length := by
  have hpos : 0 < piece.length := List.length_pos_iff.mpr hne
  simp only [List.length_append]
  omega

theorem stepCuts_stepOutside (ending : List Char) {state next : State} {text rest : List Char}
    {found : List Piece} (hmode : state.mode = .outside)
    (hstep : stepOutside state text = .pieces found next rest) :
    StepCuts ending state text found next rest := by
  unfold stepOutside at hstep
  split at hstep
  · next before mark hseek =>
      obtain ⟨tail, rfl, hmark, -⟩ := append_of_seek hseek
      obtain ⟨rfl, hwrites⟩ := append_of_openMark? hmark
      simp only [Step.pieces.injEq] at hstep
      obtain ⟨rfl, rfl, rfl⟩ := hstep
      rcases mark with ⟨opening, sign, text, rest⟩
      refine ⟨?_, fun pieces hrest => ?_⟩
      · exact length_lt_of_cut hwrites.ne_nil before rest
      · rw [hmode, List.append_assoc, List.append_assoc, List.append_assoc]
        refine .before fun blanks hblank hlines => ?_
        have hline : state.line + newlines before =
            state.line + newlines (stripBefore sign before) + newlines blanks := by
          rw [hlines, Nat.add_assoc]
        rw [← List.append_assoc, List.singleton_append]
        -- What the mark opens says whether its piece is spoken.
        match opening, hwrites with
        | .variable, ⟨_, _, htext⟩ =>
            simp only at htext
            exact .spoken blanks ⟨_, .variableBegin, text⟩ ⟨hblank, by simp [htext]⟩
              (by simp [htext]) hline (by simp [Piece.lexeme?]) hrest
        | .block, ⟨_, _, htext⟩ =>
            simp only at htext
            exact .spoken blanks ⟨_, .blockBegin, text⟩ ⟨hblank, by simp [htext]⟩
              (by simp [htext]) hline (by simp [Piece.lexeme?]) hrest
        | .comment, ⟨_, hsign, htext⟩ =>
            exact .commentBegin blanks ⟨_, .commentBegin, text⟩ hblank hsign htext hline rfl hrest
        | .raw, htag => exact .rawTag blanks ⟨_, .rawBegin, text⟩ hblank htag hline rfl hrest
  · split at hstep
    · cases hstep
    · next hne =>
        simp only [Step.pieces.injEq] at hstep
        obtain ⟨rfl, rfl, rfl⟩ := hstep
        refine ⟨by simpa [List.length_pos_iff] using hne, fun pieces hrest => ?_⟩
        rw [hmode]
        simp only [hmode] at hrest
        have hdata : Cut false state.line (text ++ ending)
            (pieceUnlessEmpty state.line .data text ++ pieces) := .data hrest
        rw [pieceUnlessEmpty, if_neg hne] at hdata
        exact hdata

theorem stepCuts_stepComment (ending : List Char) {state next : State} {text rest : List Char}
    {found : List Piece} (hmode : state.mode = .comment)
    (hstep : stepComment state text = .pieces found next rest) :
    StepCuts ending state text found next rest := by
  unfold stepComment at hstep
  split at hstep
  · next before close rest hseek =>
      obtain ⟨tail, rfl, hclose, hopen⟩ := append_of_seek hseek
      obtain ⟨rfl, hclosing⟩ := closing_of_closeComment? hclose
      have hne : close ≠ [] := hclosing.ne_nil (by simp)
      simp only [Step.pieces.injEq] at hstep
      obtain ⟨rfl, rfl, rfl⟩ := hstep
      refine ⟨?_, fun pieces hrest => ?_⟩
      · exact length_lt_of_cut hne before rest
      · rw [hmode, List.append_assoc before, List.append_assoc (pieceUnlessEmpty ..)]
        refine .comment hopen (by simp [hne]) ?_
        rw [List.append_assoc, List.singleton_append]
        exact .quiet [] ⟨state.line + newlines before, .commentEnd, close⟩ (IsGap.nil _) hne
          (by simp [newlines]) rfl (fun _ _ _ hskipped => .closing hclosing hskipped) hrest
  · split at hstep <;> cases hstep

theorem stepCuts_stepRaw (ending : List Char) {state next : State} {text rest : List Char}
    {found : List Piece} (hmode : state.mode = .raw)
    (hstep : stepRaw state text = .pieces found next rest) :
    StepCuts ending state text found next rest := by
  unfold stepRaw at hstep
  split at hstep
  · next before sign tag rest hseek =>
      obtain ⟨tail, rfl, hend, -⟩ := append_of_seek hseek
      obtain ⟨rfl, htag⟩ := append_of_endRaw? hend
      simp only [Step.pieces.injEq] at hstep
      obtain ⟨rfl, rfl, rfl⟩ := hstep
      refine ⟨?_, fun pieces hrest => ?_⟩
      · exact length_lt_of_cut htag.ne_nil before rest
      · rw [hmode, List.append_assoc, List.append_assoc, List.append_assoc]
        refine .before fun blanks hblank hlines => ?_
        rw [← List.append_assoc, List.singleton_append]
        exact .rawTag blanks ⟨_, .rawEnd, tag⟩ hblank htag (by simp only; omega) rfl hrest
  · split at hstep <;> cases hstep

theorem literalLexeme_ne_none {α : Type} (make : α → Lexeme) (value : Except LiteralFault α) :
    literalLexeme make value ≠ .ok none := by
  cases value <;> simp [literalLexeme]

/-- A piece inside a tag has a meaning for the grammar, unless it is blank. -/
theorem lexeme?_of_kindInside {line : Nat} {kind : PieceKind} {found : List Char}
    (hkind : KindInside kind found) :
    (kind = .whitespace ∧ ∀ c ∈ found, Unicode.isBlank c = true) ∨
      Piece.lexeme? ⟨line, kind, found⟩ ≠ .ok none := by
  rcases hkind with hblank | hliteral | ⟨rfl, spelling, hmem, hspelling⟩
  · exact .inl hblank
  · refine .inr ?_
    simp only [List.mem_cons, List.not_mem_nil, or_false] at hliteral
    rcases hliteral with rfl | rfl | rfl | rfl
    · exact literalLexeme_ne_none _ _
    · exact literalLexeme_ne_none _ _
    · simp only [Piece.lexeme?]
      split <;> simp
    · exact literalLexeme_ne_none _ _
  · refine .inr fun hnone => ?_
    simp only [Piece.lexeme?, Except.ok.injEq, Option.map_eq_none_iff, List.find?_eq_none] at hnone
    exact hnone spelling hmem (by simp [hspelling])

theorem closeTag?_eq_some {isBlock : Bool} {brackets text close rest : List Char}
    (hclose : closeTag? isBlock brackets text = some (close, rest)) :
    text = close ++ rest ∧ close ≠ [] := by
  unfold closeTag? at hclose
  split at hclose
  · cases hclose
  · split at hclose
    · obtain ⟨hsplit, hclosing⟩ := closing_of_closeBlock? hclose
      exact ⟨hsplit, hclosing.ne_nil (by simp)⟩
    · obtain ⟨hsplit, hclosing⟩ := closing_of_closeVariable? hclose
      exact ⟨hsplit, hclosing.ne_nil (by simp)⟩

theorem stepCuts_stepTag (ending : List Char) {isBlock : Bool} {state next : State}
    {text rest : List Char} {offset : Nat} {found : List Piece} (hmode : state.mode = .tag isBlock)
    (hstep : stepTag isBlock state text offset = .pieces found next rest) :
    StepCuts ending state text found next rest := by
  unfold stepTag at hstep
  split at hstep
  · next close rest hclose =>
      obtain ⟨rfl, hne⟩ := closeTag?_eq_some hclose
      simp only [Step.pieces.injEq] at hstep
      obtain ⟨rfl, rfl, rfl⟩ := hstep
      refine ⟨?_, fun pieces hrest => ?_⟩
      · exact length_lt_of_cut hne [] rest
      · rw [hmode, List.append_assoc]
        refine .spoken [] ⟨state.line, _, close⟩ (IsGap.nil _) hne (by simp [newlines]) ?_ hrest
        cases isBlock <;> simp [Piece.lexeme?]
  · split at hstep
    · next kind found _ hinside =>
        obtain ⟨⟨rest, rfl⟩, hne, hkind⟩ := inside?_isPrefix hinside
        simp only at hstep
        split at hstep
        · cases hstep
        · simp only [Step.pieces.injEq, List.drop_left] at hstep
          obtain ⟨rfl, rfl, rfl⟩ := hstep
          refine ⟨?_, fun pieces hrest => ?_⟩
          · exact length_lt_of_cut hne [] rest
          · rw [hmode, List.append_assoc]
            -- Only blanks inside a tag mean nothing to the grammar.
            rcases lexeme?_of_kindInside hkind with ⟨rfl, hblank⟩ | hspoken
            · exact .quiet [] ⟨state.line, .whitespace, found⟩ (IsGap.nil _) hne
                (by simp [newlines]) rfl (fun _ _ _ hskipped => .blanks hblank hskipped) hrest
            · exact .spoken [] ⟨state.line, kind, found⟩ (IsGap.nil _) hne (by simp [newlines])
                hspoken hrest
    · cases hstep
    · cases hstep

theorem stepCuts_step (ending : List Char) {state next : State} {text rest : List Char}
    {offset : Nat} {found : List Piece} (hstep : step state text offset = .pieces found next rest) :
    StepCuts ending state text found next rest := by
  cases hmode : state.mode with
  | outside => exact stepCuts_stepOutside ending hmode (by simpa [step, hmode] using hstep)
  | comment => exact stepCuts_stepComment ending hmode (by simpa [step, hmode] using hstep)
  | raw => exact stepCuts_stepRaw ending hmode (by simpa [step, hmode] using hstep)
  | tag isBlock => exact stepCuts_stepTag ending hmode (by simpa [step, hmode] using hstep)

/-- The lexer finishes only at the end of its text. -/
theorem eq_nil_of_step_finished {state : State} {text : List Char} {offset : Nat}
    (hstep : step state text offset = .finished) : text = [] := by
  unfold step at hstep
  split at hstep
  · unfold stepOutside at hstep
    split at hstep
    · cases hstep
    · split at hstep <;> simp_all
  · unfold stepComment at hstep
    split at hstep
    · cases hstep
    · split at hstep <;> simp_all
  · unfold stepRaw at hstep
    split at hstep
    · cases hstep
    · split at hstep <;> simp_all
  · unfold stepTag at hstep
    split at hstep
    · cases hstep
    · split at hstep
      · simp only at hstep
        split at hstep <;> cases hstep
      · cases hstep
      · rfl

/-! ### Runs of the lexer -/

/-- A run without a fault cuts its whole text. -/
theorem cut_run {ending : List Char} (hend : ending = [] ∨ ending = ['\n']) (length fuel : Nat) :
    ∀ (state : State) (text : List Char), text.length < fuel →
      (run length fuel state text).fault = none →
      Cut state.mode.within state.line (text ++ ending) (run length fuel state text).pieces := by
  induction fuel with
  | zero =>
      intro state text hlt
      omega
  | succ fuel ih =>
      intro state text hlt hfault
      rw [run] at hfault ⊢
      split at hfault
      · next hstep =>
          obtain rfl := eq_nil_of_step_finished hstep
          exact .ending hend
      · cases hfault
      · next found next rest hstep =>
          obtain ⟨hshorter, hcut⟩ := stepCuts_step ending hstep
          exact hcut _ (ih next rest (by omega) hfault)

/-- The pieces of a source that the lexer has no objection to cut the source with its line ends
unified. -/
theorem cut_lex {source : List Char} (hfault : (lex source).fault = none) :
    Cut false 1 (Text.normalize source) (lex source).pieces := by
  obtain ⟨ending, hend, hsource⟩ := Text.exists_eq_dropFinalNewline_append (Text.unify source)
  rw [← Text.unify_eq_normalize, hsource]
  exact cut_run hend _ _ ⟨.outside, [], 1, ' '⟩ (lexerSource source) (Nat.lt_succ_self _) hfault

end TemplateWorkbench.Template
