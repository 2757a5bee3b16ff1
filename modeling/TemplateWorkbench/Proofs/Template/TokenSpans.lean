import TemplateWorkbench.Proofs.Results
import TemplateWorkbench.Proofs.Template.Cutting
import TemplateWorkbench.Proofs.Text.Lines

/-!
# Token spans are exact

The spans of tokens are not handed over by the lexer: they are found again by looking for the text of
each piece from the end of the one before.  Since the lexer's pieces cut the source, with nothing but
blanks before a piece that begins with an opening mark, the first hit of every search is the place
where the piece was read.

`ExactSpans` collects what follows: no search fails, each span cuts out the text of its piece and
begins on the piece's line, and the spans stand in order with nothing but blanks, comments and the
tags of raw text around them.
-/

namespace TemplateWorkbench.Template

open Lexer Text

/-! ### The first hit -/

theorem offsetOf?_append {gap needle : List Char} (tail : List Char) (hne : needle ≠ [])
    (hgap : ∀ c ∈ gap, needle.head? ≠ some c) :
    offsetOf? needle (gap ++ (needle ++ tail)) = some gap.length := by
  obtain ⟨first, others, rfl⟩ := List.exists_cons_of_ne_nil hne
  induction gap with
  | nil =>
      have hhit : (first :: others).isPrefixOf (first :: others ++ tail) = true :=
        List.isPrefixOf_iff_prefix.mpr (List.prefix_append _ _)
      simp only [List.cons_append] at hhit
      simp [offsetOf?, hhit]
  | cons c gap ih =>
      have hmiss : (first :: others).isPrefixOf (c :: (gap ++ (first :: others ++ tail))) = false := by
        have hc : first ≠ c := by simpa using hgap c List.mem_cons_self
        simp [List.isPrefixOf, hc]
      rw [List.cons_append, offsetOf?, hmiss, ih fun d hd => hgap d (List.mem_cons_of_mem c hd)]
      simp

/-- An opening mark is not found among blanks. -/
theorem IsGap.head?_ne {gap : List Char} {piece : Piece} (hgap : IsGap gap piece) :
    ∀ c ∈ gap, piece.text.head? ≠ some c := by
  intro c hc hhead
  rw [hgap.opens (List.ne_nil_of_mem hc), Option.some.injEq] at hhead
  have hblank := hgap.blank c hc
  rw [← hhead] at hblank
  exact absurd hblank (by decide)

theorem offsetOf?_of_isGap {gap : List Char} {piece : Piece} (tail : List Char)
    (hgap : IsGap gap piece) (hne : piece.text ≠ []) :
    offsetOf? piece.text (gap ++ piece.text ++ tail) = some gap.length := by
  rw [List.append_assoc]
  exact offsetOf?_append tail hne hgap.head?_ne

theorem drop_gap (gap cut tail : List Char) :
    (gap ++ cut ++ tail).drop (gap.length + cut.length) = tail := by
  rw [← List.length_append, List.drop_left]

/-- Looking for a quiet piece only moves the cursor. -/
theorem placeFrom_of_quiet (index : LineIndex) (ending : Option (Nat × LexicalFault)) (cursor : Nat)
    {gap : List Char} {piece : Piece} (tail : List Char) (pieces : List Piece)
    (hgap : IsGap gap piece) (hne : piece.text ≠ []) (hquiet : piece.lexeme? = .ok none) :
    placeFrom index ending cursor (gap ++ piece.text ++ tail) (piece :: pieces) =
      placeFrom index ending (cursor + gap.length + piece.text.length) tail pieces := by
  rw [placeFrom, offsetOf?_of_isGap tail hgap hne, Option.getD_some, drop_gap, hquiet]

/-- A spoken piece is placed just after its gap. -/
theorem placeFrom_of_spoken {index : LineIndex} {ending : Option (Nat × LexicalFault)} {cursor : Nat}
    {gap tail : List Char} {piece : Piece} {pieces : List Piece} {placed : List PlacedToken}
    (hgap : IsGap gap piece) (hne : piece.text ≠ []) (hspoken : piece.lexeme? ≠ .ok none)
    (hplaced : placeFrom index ending cursor (gap ++ piece.text ++ tail) (piece :: pieces) =
      .ok placed) :
    ∃ lexeme others, piece.lexeme? = .ok (some lexeme) ∧
      placeFrom index ending (cursor + gap.length + piece.text.length) tail pieces = .ok others ∧
      placed = ⟨⟨piece.line, lexeme⟩,
        index.span (cursor + gap.length) (cursor + gap.length + piece.text.length)⟩ :: others := by
  rw [placeFrom, offsetOf?_of_isGap tail hgap hne, Option.getD_some, drop_gap] at hplaced
  split at hplaced
  · cases hplaced
  · next hquiet => exact absurd hquiet hspoken
  · next lexeme hlexeme =>
      cases hothers : placeFrom index ending (cursor + gap.length + piece.text.length) tail pieces with
      | error fault =>
          rw [hothers] at hplaced
          cases hplaced
      | ok others =>
          rw [hothers] at hplaced
          cases hplaced
          exact ⟨lexeme, others, hlexeme, rfl, rfl⟩

/-- Tokens are listed only where the lexer has no objection. -/
theorem ending_eq_none_of_placeFrom {index : LineIndex} {ending : Option (Nat × LexicalFault)}
    {cursor : Nat} {text : List Char} {pieces : List Piece} {placed : List PlacedToken}
    (hplaced : placeFrom index ending cursor text pieces = .ok placed) : ending = none := by
  induction pieces generalizing cursor text placed with
  | nil =>
      cases ending with
      | none => rfl
      | some fault => cases hplaced
  | cons piece pieces ih =>
      rw [placeFrom] at hplaced
      split at hplaced
      · cases hplaced
      · exact ih hplaced
      · generalize hothers : placeFrom index ending _ _ pieces = others at hplaced
        cases others with
        | error fault => cases hplaced
        | ok others => exact ih hothers

/-! ### What exactness says -/

/-- No piece is looked for in vain. -/
def EveryFound : List Char → List Piece → Prop
  | _, [] => True
  | text, piece :: rest => ∃ skipped, offsetOf? piece.text text = some skipped ∧
      EveryFound (text.drop (skipped + piece.text.length)) rest

/-- Whether a piece makes a token or an objection. -/
def Piece.isSpoken (piece : Piece) : Bool :=
  match piece.lexeme? with
  | .ok none => false
  | _ => true

/-- A token that is what a piece of a text makes, and its span. -/
structure Marks (text : List Char) (piece : Piece) (placed : PlacedToken) : Prop where
  lexeme : piece.lexeme? = .ok (some placed.token.lexeme)
  line : placed.token.line = piece.line
  startLine : placed.span.startLine = piece.line
  cutOut : placed.span.cutOut text = piece.text

/-- Spans that stand in a text one after another from an offset on, with nothing but text that makes
no token around them; the flag says whether the text begins within a comment. -/
inductive Tiled (index : LineIndex) : Bool → Nat → List Char → List Span → Prop
  | last {within after : Bool} {cursor : Nat} {text : List Char}
      (hskipped : Skipped within text after) : Tiled index within cursor text []
  | span {within : Bool} {cursor : Nat} {gap cut rest : List Char} {span : Span}
      {spans : List Span} (hskipped : Skipped within gap false) (hne : cut ≠ [])
      (hstart : span.startOffset index = cursor + gap.length)
      (hstop : span.stopOffset index = cursor + gap.length + cut.length)
      (hrest : Tiled index false (cursor + gap.length + cut.length) rest spans) :
      Tiled index within cursor (gap ++ cut ++ rest) (span :: spans)

/-- What it means that the tokens of a source are listed with exact spans. -/
structure ExactSpans (source : List Char) (placed : List PlacedToken) : Prop where
  /-- No search fails. -/
  found : EveryFound (normalize source) (lex source).pieces
  /-- The tokens are what the spoken pieces make, each with the line and the text of its piece. -/
  marks : List.Forall₂ (Marks (normalize source)) ((lex source).pieces.filter Piece.isSpoken) placed
  /-- Around the spans stands only text that makes no token. -/
  tiled : Tiled (LineIndex.ofText (normalize source)) false 0 (normalize source)
    (placed.map PlacedToken.span)
  /-- The spans are in order and disjoint. -/
  ordered : (placed.map PlacedToken.span).Pairwise fun span other =>
    span.stopOffset (LineIndex.ofText (normalize source)) ≤
      other.startOffset (LineIndex.ofText (normalize source))
  /-- Data and names are what their spans cut out. -/
  payload : ∀ token ∈ placed, token.token.lexeme.kindName ∈ ["data", "name"] →
    token.token.lexeme.payload? =
      some (.string (String.ofList (token.span.cutOut (normalize source))))

/-! ### Exactness of what is placed -/

theorem everyFound_of_cut {within : Bool} {line : Nat} {text : List Char} {pieces : List Piece}
    (hcut : Cut within line text pieces) : EveryFound text pieces := by
  induction hcut with
  | ending => trivial
  | spoken gap piece hgap hne _ _ _ ih =>
      exact ⟨gap.length, offsetOf?_of_isGap _ hgap hne, by rwa [drop_gap]⟩
  | quiet gap piece hgap hne _ _ _ _ ih =>
      exact ⟨gap.length, offsetOf?_of_isGap _ hgap hne, by rwa [drop_gap]⟩

/-- What is cut out of a text between two of its parts. -/
theorem cutOut_append (front cut back : List Char) :
    Span.cutOut (front ++ cut ++ back)
      ((LineIndex.ofText (front ++ cut ++ back)).span front.length (front.length + cut.length)) =
      cut := by
  simp only [Span.cutOut, Span.startOffset_span, Span.stopOffset_span]
  rw [← List.length_append, List.take_left, List.drop_left]

/-- The token of a piece marks the piece in the whole text. -/
theorem marks_of_append {whole front gap tail : List Char} {piece : Piece} {lexeme : Lexeme}
    (hwhole : whole = front ++ gap ++ piece.text ++ tail)
    (hline : piece.line = newlines front + 1 + newlines gap)
    (hlexeme : piece.lexeme? = .ok (some lexeme)) :
    Marks whole piece ⟨⟨piece.line, lexeme⟩, (LineIndex.ofText whole).span
      (front.length + gap.length) (front.length + gap.length + piece.text.length)⟩ := by
  rw [← List.length_append, hwhole]
  refine ⟨hlexeme, rfl, ?_, cutOut_append (front ++ gap) piece.text tail⟩
  rw [Span.startLine_span, List.append_assoc (front ++ gap), List.take_left, List.count_append,
    hline]
  simp only [newlines]
  omega

theorem Piece.isSpoken_eq_false {piece : Piece} (hquiet : piece.lexeme? = .ok none) :
    piece.isSpoken = false := by
  rw [Piece.isSpoken, hquiet]

theorem Piece.isSpoken_eq_true {piece : Piece} (hspoken : piece.lexeme? ≠ .ok none) :
    piece.isSpoken = true := by
  unfold Piece.isSpoken
  split
  · next hquiet => exact absurd hquiet hspoken
  · rfl

/-- The tokens placed in the end of a text are what the spoken pieces in it make. -/
theorem forall₂_marks_of_cut {within : Bool} {line : Nat} {whole front text : List Char}
    {pieces : List Piece} {placed : List PlacedToken} (hcut : Cut within line text pieces)
    (hwhole : whole = front ++ text) (hline : line = newlines front + 1)
    (hplaced : placeFrom (LineIndex.ofText whole) none front.length text pieces = .ok placed) :
    List.Forall₂ (Marks whole) (pieces.filter Piece.isSpoken) placed := by
  induction hcut generalizing front placed with
  | ending =>
      cases hplaced
      exact .nil
  -- A piece goes over to the front, so that the cursor and the line stand after it again.
  | @spoken gap piece line tail pieces hgap hne hpiece hspoken _ ih =>
      obtain ⟨lexeme, others, hlexeme, hothers, rfl⟩ :=
        placeFrom_of_spoken hgap hne hspoken hplaced
      have hnext : whole = front ++ gap ++ piece.text ++ tail := by simp [hwhole]
      rw [List.filter_cons_of_pos (Piece.isSpoken_eq_true hspoken)]
      refine .cons (marks_of_append hnext (by omega) hlexeme) (ih hnext ?_ ?_)
      · simp only [newlines_append]
        omega
      · simpa [Nat.add_assoc] using hothers
  | @quiet gap piece _ _ line tail pieces hgap hne hpiece hquiet _ _ ih =>
      rw [placeFrom_of_quiet _ _ _ _ _ hgap hne hquiet] at hplaced
      have hnext : whole = front ++ gap ++ piece.text ++ tail := by simp [hwhole]
      rw [List.filter_cons_of_neg (by simp [Piece.isSpoken_eq_false hquiet])]
      refine ih hnext ?_ ?_
      · simp only [newlines_append]
        omega
      · simpa [Nat.add_assoc] using hplaced

theorem skipped_ending (within : Bool) {ending : List Char} (hend : ending = [] ∨ ending = ['\n']) :
    Skipped within ending within := by
  rcases hend with rfl | rfl
  · exact .nil within
  · cases within with
    | false => exact .blank (by decide) (.nil false)
    | true => exact .commentText (by decide) (.nil true)

theorem IsGap.skipped {gap : List Char} {piece : Piece} (hgap : IsGap gap piece) :
    Skipped false gap false := by
  simpa using Skipped.blanks hgap.blank (.nil false)

/-- Text that makes no token lengthens the first gap of a tiling. -/
theorem Tiled.prepend {index : LineIndex} {within next : Bool} {cursor : Nat}
    {front text : List Char} {spans : List Span}
    (hskipped : ∀ text' after, text' <+: text → Skipped next text' after →
      Skipped within (front ++ text') after)
    (htiled : Tiled index next (cursor + front.length) text spans) :
    Tiled index within cursor (front ++ text) spans := by
  cases htiled with
  | last htext => exact .last (hskipped text _ (List.prefix_refl text) htext)
  | @span _ _ gap cut rest span spans hgap hne hstart hstop hrest =>
      -- The text in front and the gap are one gap.
      have hfront : Skipped within (front ++ gap) false := by
        refine hskipped gap false ?_ hgap
        rw [List.append_assoc]
        exact List.prefix_append _ _
      have hlength : cursor + (front ++ gap).length = cursor + front.length + gap.length := by
        rw [List.length_append, Nat.add_assoc]
      rw [← List.append_assoc, ← List.append_assoc]
      rw [← hlength] at hstart hstop hrest
      exact .span hfront hne hstart hstop hrest

/-- The spans placed in the end of a text tile it. -/
theorem tiled_of_cut {within : Bool} {line cursor : Nat} {whole text : List Char}
    {pieces : List Piece} {placed : List PlacedToken} (hcut : Cut within line text pieces)
    (hplaced : placeFrom (LineIndex.ofText whole) none cursor text pieces = .ok placed) :
    Tiled (LineIndex.ofText whole) within cursor text (placed.map PlacedToken.span) := by
  induction hcut generalizing cursor placed with
  | ending hend =>
      cases hplaced
      exact .last (skipped_ending _ hend)
  | spoken gap piece hgap hne _ hspoken _ ih =>
      obtain ⟨lexeme, others, -, hothers, rfl⟩ := placeFrom_of_spoken hgap hne hspoken hplaced
      exact .span hgap.skipped hne (Span.startOffset_span ..) (Span.stopOffset_span ..) (ih hothers)
  | quiet gap piece hgap hne _ hquiet hskipped _ ih =>
      rw [placeFrom_of_quiet _ _ _ _ _ hgap hne hquiet] at hplaced
      refine .prepend hskipped (ih ?_)
      rwa [List.length_append, ← Nat.add_assoc]

/-- The spans of a tiling lie beyond the place where it begins. -/
theorem Tiled.le_startOffset {index : LineIndex} {within : Bool} {cursor : Nat} {text : List Char}
    {spans : List Span} (htiled : Tiled index within cursor text spans) :
    ∀ span ∈ spans, cursor ≤ span.startOffset index := by
  induction htiled with
  | last => simp
  | span _ _ hstart _ _ ih =>
      intro other hother
      rcases List.mem_cons.mp hother with rfl | hmem
      · omega
      · have hle := ih other hmem
        omega

theorem Tiled.pairwise {index : LineIndex} {within : Bool} {cursor : Nat} {text : List Char}
    {spans : List Span} (htiled : Tiled index within cursor text spans) :
    spans.Pairwise fun span other => span.stopOffset index ≤ other.startOffset index := by
  induction htiled with
  | last => exact .nil
  | span _ _ _ hstop hrest ih =>
      refine .cons (fun other hother => ?_) ih
      rw [hstop]
      exact hrest.le_startOffset other hother

theorem mem_of_mem_cutOut {text : List Char} {span : Span} {c : Char}
    (hc : c ∈ span.cutOut text) : c ∈ text :=
  List.mem_of_mem_take (List.mem_of_mem_drop hc)

theorem literalLexeme_eq_some {α : Type} {make : α → Lexeme} {value : Except LiteralFault α}
    {lexeme : Lexeme} (hlexeme : literalLexeme make value = .ok (some lexeme)) :
    ∃ literal, make literal = lexeme := by
  cases value with
  | error fault => cases hlexeme
  | ok literal =>
      cases hlexeme
      exact ⟨literal, rfl⟩

/-- What a piece of a kind, with a text, makes for the grammar. -/
inductive Makes (text : List Char) : PieceKind → Lexeme → Prop
  | data : Makes text .data (.data (String.ofList (Text.unify text)))
  | variableBegin : Makes text .variableBegin .variableBegin
  | variableEnd : Makes text .variableEnd .variableEnd
  | blockBegin : Makes text .blockBegin .blockBegin
  | blockEnd : Makes text .blockEnd .blockEnd
  | float (value : Double) : Makes text .float (.float value)
  | integer (value : Int) : Makes text .integer (.integer value)
  | string (value : String) : Makes text .string (.string value)
  | name (hidentifier : Unicode.isIdentifier text = true) : Makes text .name (.name (String.ofList text))
  | operator (op : Operator) : Makes text .operator (.operator op)

theorem Piece.makes_of_lexeme? {piece : Piece} {lexeme : Lexeme}
    (hlexeme : piece.lexeme? = .ok (some lexeme)) : Makes piece.text piece.kind lexeme := by
  rcases piece with ⟨line, kind, text⟩
  cases kind with
  | float | integer | string =>
      obtain ⟨literal, rfl⟩ := literalLexeme_eq_some hlexeme
      constructor
  | name =>
      simp only [Piece.lexeme?] at hlexeme
      split at hlexeme
      · next hidentifier =>
        cases hlexeme
        exact .name hidentifier
      · cases hlexeme
  | operator =>
      simp only [Piece.lexeme?, Except.ok.injEq, Option.map_eq_some_iff] at hlexeme
      obtain ⟨spelling, -, rfl⟩ := hlexeme
      exact .operator spelling.2
  | _ =>
      cases hlexeme
      try constructor

/-- Every token of pieces is made by one of them, and is on its line. -/
theorem exists_piece_of_mem_tokensOf {ending : Option (Nat × LexicalFault)} {pieces : List Piece}
    {token : Token} (htoken : token ∈ (tokensOf ending pieces).tokens) :
    ∃ piece ∈ pieces, piece.lexeme? = .ok (some token.lexeme) ∧ piece.line = token.line := by
  induction pieces with
  | nil => exact absurd htoken List.not_mem_nil
  | cons piece rest ih =>
      have hlater (hrest : token ∈ (tokensOf ending rest).tokens) : ∃ other ∈ piece :: rest,
          other.lexeme? = .ok (some token.lexeme) ∧ other.line = token.line := by
        obtain ⟨other, hother, hmade⟩ := ih hrest
        exact ⟨other, List.mem_cons_of_mem piece hother, hmade⟩
      unfold tokensOf at htoken
      split at htoken
      · exact absurd htoken List.not_mem_nil
      · exact hlater htoken
      · next lexeme hlexeme =>
          rcases List.mem_cons.mp htoken with rfl | hrest
          · exact ⟨piece, List.mem_cons_self, hlexeme, rfl⟩
          · exact hlater hrest

/-- No operator is listed under the kind of data or names. -/
theorem Operator.kindName_notMem (op : Operator) : op.kindName ∉ ["data", "name"] := by
  cases op <;> decide

/-- Data and names carry the text of their piece. -/
theorem Piece.payload?_of_lexeme? {piece : Piece} {lexeme : Lexeme} (hcr : '\r' ∉ piece.text)
    (hlexeme : piece.lexeme? = .ok (some lexeme)) (hkind : lexeme.kindName ∈ ["data", "name"]) :
    lexeme.payload? = some (.string (String.ofList piece.text)) := by
  rcases piece with ⟨line, kind, text⟩
  cases Piece.makes_of_lexeme? hlexeme with
  | data =>
      -- The line ends of data are unified once more, which changes nothing without a CR.
      rw [Lexeme.payload?, Text.unify_eq_self hcr]
  | name hidentifier => rfl
  | operator op => exact absurd hkind (Operator.kindName_notMem op)
  | _ => simp [Lexeme.kindName] at hkind

theorem payload?_of_marks {text : List Char} {piece : Piece} {placed : PlacedToken}
    (hcr : '\r' ∉ text) (hmarks : Marks text piece placed)
    (hkind : placed.token.lexeme.kindName ∈ ["data", "name"]) :
    placed.token.lexeme.payload? = some (.string (String.ofList (placed.span.cutOut text))) := by
  have hpiece : '\r' ∉ piece.text := fun hmem => hcr (mem_of_mem_cutOut (hmarks.cutOut ▸ hmem))
  rw [hmarks.cutOut]
  exact Piece.payload?_of_lexeme? hpiece hmarks.lexeme hkind

/-! ### The tokens of a source -/

/-- Whatever source is listed, the spans of its tokens are exact. -/
theorem exactSpans_of_placedTokens {source : List Char} {placed : List PlacedToken}
    (hplaced : placedTokens source = .ok placed) : ExactSpans source placed := by
  have hfault : (lex source).fault = none := ending_eq_none_of_placeFrom hplaced
  have hcut : Cut false 1 (normalize source) (lex source).pieces := cut_lex hfault
  simp only [placedTokens, hfault] at hplaced
  have hmarks : List.Forall₂ (Marks (normalize source))
      ((lex source).pieces.filter Piece.isSpoken) placed :=
    forall₂_marks_of_cut hcut (List.nil_append _).symm rfl hplaced
  have htiled : Tiled (LineIndex.ofText (normalize source)) false 0 (normalize source)
      (placed.map PlacedToken.span) := tiled_of_cut hcut hplaced
  refine ⟨everyFound_of_cut hcut, hmarks, htiled, htiled.pairwise, fun token hmem hkind => ?_⟩
  obtain ⟨piece, -, hpiece⟩ := Results.exists_of_forall₂_of_mem hmarks hmem
  exact payload?_of_marks (cr_notMem_normalize source) hpiece hkind

/-- A source with each kind of line end and of tag, whose pieces are found again in one another. -/
def mixedTags : List Char :=
  ("a\r\n \x7b%- raw -%\x7d \x7b\x7b a \x7d\x7d\n \x7b%- endraw %\x7d\x7b# a -#\x7d a\r" ++
    "\x7b\x7b a['a'] -\x7d\x7d\n a\n").toList

theorem exactSpans_mixedTags :
    ∃ placed, placedTokens mixedTags = .ok placed ∧ placed.length = 10 ∧
      ExactSpans mixedTags placed := by
  have hlength : (placedTokens mixedTags).toOption.map List.length = some 10 := by decide +kernel
  cases hplaced : placedTokens mixedTags with
  | error fault =>
      rw [hplaced] at hlength
      cases hlength
  | ok placed =>
      rw [hplaced] at hlength
      exact ⟨placed, rfl, Option.some.inj hlength, exactSpans_of_placedTokens hplaced⟩

end TemplateWorkbench.Template
