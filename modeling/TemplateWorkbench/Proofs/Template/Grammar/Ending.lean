import TemplateWorkbench.Proofs.Template.Grammar.Statements

/-!
# Trees are made of all tokens

The grammar stops with a tree as soon as no part of a template begins at the current token.  That could be
in the middle of the tokens, and an objection of the lexer would never come up.  It is not, because of the
order in which the lexer writes tokens: outside of tags there is nothing but data and the beginnings of
tags, and where a tag has ended, or data, it is outside again.  So when the grammar looks for a part, the
current token begins one or is the end of the template, which comes up only after the last token of a list
that no objection has ended.

`Alternate inside` is the order of tokens, from inside a tag or from outside of tags; `Stream.IsPlaced` is
the same of a stream, with what the end of the template stands for.
-/

namespace TemplateWorkbench.Template

open Lexer

/-! ### The order of tokens -/

/-- Whether a lexeme leaves what is read inside a tag, if it may stand there. -/
def Lexeme.leads (inside : Bool) : Lexeme → Option Bool
  | .data _ => if inside then none else some false
  | .variableBegin | .blockBegin => if inside then none else some true
  | .variableEnd | .blockEnd => if inside then some false else none
  | .finish => none
  | _ => if inside then some true else none

/-- Whether the tokens of a list may follow one another, from inside a tag on or not. -/
def Alternate (inside : Bool) : List Token → Prop
  | [] => True
  | token :: rest => ∃ next, token.lexeme.leads inside = some next ∧ Alternate next rest

/-- Whether a kind of pieces leaves what is read inside a tag, if it may stand there. -/
def PieceKind.leads (inside : Bool) : PieceKind → Option Bool
  | .variableBegin | .blockBegin => if inside then none else some true
  | .variableEnd | .blockEnd => if inside then some false else none
  | .whitespace | .float | .integer | .name | .string | .operator => if inside then some true else none
  | _ => if inside then none else some false

/-- A lexeme leads where the kind of its piece does. -/
theorem leads_of_lexeme? {piece : Piece} {lexeme : Lexeme} (hlexeme : piece.lexeme? = .ok (some lexeme))
    (inside : Bool) : lexeme.leads inside = piece.kind.leads inside := by
  rcases piece with ⟨line, kind, text⟩
  cases Piece.makes_of_lexeme? hlexeme <;> rfl

/-- A piece that means nothing to the grammar leaves things where they are. -/
theorem leads_of_quiet {piece : Piece} (hquiet : piece.lexeme? = .ok none) {inside next : Bool}
    (hleads : piece.kind.leads inside = some next) : next = inside := by
  rcases piece with ⟨line, kind, text⟩
  cases kind with
  | float | integer | string => exact absurd hquiet (literalLexeme_ne_none _ _)
  | name =>
      simp only [Piece.lexeme?] at hquiet
      split at hquiet <;> cases hquiet
  | _ =>
      cases inside
      all_goals cases hleads
      all_goals first | rfl | cases hquiet

/-- The tokens of pieces are in order if what comes after the first piece is. -/
theorem Alternate.ofPiece {ending : Option (Nat × LexicalFault)} {piece : Piece} {rest : List Piece}
    {inside next : Bool} (hleads : piece.kind.leads inside = some next)
    (hrest : Alternate next (tokensOf ending rest).tokens) :
    Alternate inside (tokensOf ending (piece :: rest)).tokens := by
  unfold tokensOf
  split
  · trivial
  · next hquiet =>
      rw [← leads_of_quiet hquiet hleads]
      exact hrest
  · next lexeme hlexeme => exact ⟨next, (leads_of_lexeme? hlexeme inside).trans hleads, hrest⟩

/-! ### Steps of the lexer -/

/-- Whether the lexer is inside a tag. -/
def Lexer.Mode.isInside : Mode → Bool
  | .tag _ => true
  | _ => false

variable {ending : Option (Nat × LexicalFault)} {pieces : List Piece}

/-- Data before other pieces changes nothing of their order. -/
theorem Alternate.ofUnlessEmpty {line : Nat} {kind : PieceKind} {text : List Char}
    (hkind : kind.leads false = some false) (hrest : Alternate false (tokensOf ending pieces).tokens) :
    Alternate false (tokensOf ending (pieceUnlessEmpty line kind text ++ pieces)).tokens := by
  unfold pieceUnlessEmpty
  split
  · exact hrest
  · exact .ofPiece hkind hrest

/-- What is found inside a tag leaves things there. -/
theorem leads_of_kindInside {kind : PieceKind} {found : List Char} (hkind : KindInside kind found) :
    kind.leads true = some true := by
  rcases hkind with ⟨rfl, -⟩ | hliteral | ⟨rfl, -⟩
  · rfl
  · simp only [List.mem_cons, List.not_mem_nil, or_false] at hliteral
    rcases hliteral with rfl | rfl | rfl | rfl <;> rfl
  · rfl

theorem alternate_of_stepTag {isBlock : Bool} {state next : State} {text rest : List Char} {offset : Nat}
    {found : List Piece} (hstep : stepTag isBlock state text offset = .pieces found next rest)
    (hrest : Alternate next.mode.isInside (tokensOf ending pieces).tokens) :
    Alternate true (tokensOf ending (found ++ pieces)).tokens := by
  unfold stepTag at hstep
  split at hstep
  · cases hstep
    refine .ofPiece ?_ hrest
    cases isBlock <;> rfl
  · split at hstep
    · next kind found _ hinside =>
        dsimp only at hstep
        split at hstep
        · cases hstep
        · cases hstep
          exact .ofPiece (leads_of_kindInside (inside?_isPrefix hinside).2.2) hrest
    · cases hstep
    · cases hstep

/-- What a step finds is in order before what comes after it. -/
theorem alternate_of_step {state next : State} {text rest : List Char} {offset : Nat}
    {found : List Piece} (hstep : step state text offset = .pieces found next rest)
    (hrest : Alternate next.mode.isInside (tokensOf ending pieces).tokens) :
    Alternate state.mode.isInside (tokensOf ending (found ++ pieces)).tokens := by
  unfold step at hstep
  -- Outside of tags a step finds a text and one mark, which leads into the mode after it.
  cases hmode : state.mode with
  | outside =>
      rw [hmode] at hstep
      dsimp only [stepOutside] at hstep
      split at hstep
      · next before mark hseek =>
          cases hstep
          rw [List.append_assoc, List.singleton_append]
          refine .ofUnlessEmpty rfl (.ofPiece ?_ hrest)
          cases mark.opening <;> rfl
      · split at hstep
        · cases hstep
        · cases hstep
          rw [hmode] at hrest
          exact .ofPiece rfl hrest
  | comment =>
      rw [hmode] at hstep
      dsimp only [stepComment] at hstep
      split at hstep
      · cases hstep
        rw [List.append_assoc, List.singleton_append]
        exact .ofUnlessEmpty rfl (.ofPiece rfl hrest)
      · split at hstep <;> cases hstep
  | raw =>
      rw [hmode] at hstep
      dsimp only [stepRaw] at hstep
      split at hstep
      · cases hstep
        rw [List.append_assoc, List.singleton_append]
        exact .ofUnlessEmpty rfl (.ofPiece rfl hrest)
      · split at hstep <;> cases hstep
  | tag isBlock =>
      rw [hmode] at hstep
      exact alternate_of_stepTag hstep hrest

theorem alternate_of_run (length fuel : Nat) : ∀ (state : State) (text : List Char),
    let lexed := run length fuel state text
    Alternate state.mode.isInside (tokensOf lexed.fault lexed.pieces).tokens := by
  induction fuel with
  | zero => exact fun _ _ => trivial
  | succ fuel ih =>
      intro state text
      rw [run]
      split
      · trivial
      · trivial
      · next found next rest hstep => exact alternate_of_step hstep (ih next rest)

/-- The tokens of a source are in order. -/
theorem alternate_tokenize (source : List Char) : Alternate false (tokenize source).tokens :=
  alternate_of_run _ _ ⟨.outside, [], 1, ' '⟩ (lexerSource source)

namespace Grammar

/-! ### Streams in order -/

/-- Whether the tokens of a stream are in order, the end of the template standing for the end of a list
that no objection has ended. -/
def Stream.IsPlaced (inside : Bool) (stream : Stream) : Prop :=
  if stream.current.lexeme = .finish then stream.rest = [] ∧ stream.fault = none
  else Alternate inside (stream.current :: stream.rest)

variable {stream next : Stream} {inside : Bool}

/-- The next token of a stream stands where the current one leads. -/
theorem Stream.IsPlaced.of_next (hplaced : stream.IsPlaced inside) (hnext : stream.next = .ok next) :
    ∃ after, next.IsPlaced after ∧
      (stream.current.lexeme ≠ .finish → stream.current.lexeme.leads inside = some after) := by
  unfold IsPlaced at hplaced
  -- At the end the stream has no next token; before it the next one is at hand.
  split at hplaced
  · next hfinish =>
      obtain ⟨hrest, hfault⟩ := hplaced
      rw [Stream.next, hrest, hfault] at hnext
      cases hnext
      exact ⟨inside, by rw [IsPlaced, if_pos rfl]; exact ⟨rfl, rfl⟩, fun hne => absurd hfinish hne⟩
  · next hne =>
      obtain ⟨after, hleads, hrest⟩ := hplaced
      refine ⟨after, ?_, fun _ => hleads⟩
      unfold Stream.next at hnext
      split at hnext
      · next token rest hlist =>
          cases hnext
          rw [hlist] at hrest
          obtain ⟨later, hlater, hothers⟩ := hrest
          have htoken : token.lexeme ≠ .finish := by
            intro hfinish
            rw [hfinish] at hlater
            cases hlater
          rw [IsPlaced, if_neg htoken]
          exact ⟨later, hlater, hothers⟩
      · cases hnext
      · next hlist hfault =>
          cases hnext
          rw [IsPlaced, if_pos rfl]
          exact ⟨hlist, hfault⟩

theorem Stream.IsPlaced.of_reaches (hplaced : stream.IsPlaced inside) (hreaches : stream.Reaches next) :
    ∃ after, next.IsPlaced after := by
  induction hreaches with
  | refl => exact ⟨inside, hplaced⟩
  | tail _ hnext ih =>
      obtain ⟨_, hbefore⟩ := ih
      obtain ⟨after, hafter, -⟩ := hbefore.of_next hnext
      exact ⟨after, hafter⟩

/-- After the end of a tag, and after data, it is outside of tags. -/
theorem Stream.IsPlaced.outside_of_next (hplaced : stream.IsPlaced inside)
    (hnext : stream.next = .ok next)
    (hends : stream.current.lexeme ∈ [Lexeme.variableEnd, .blockEnd] ∨
      ∃ text, stream.current.lexeme = .data text) : next.IsPlaced false := by
  obtain ⟨after, hafter, hleads⟩ := hplaced.of_next hnext
  have hne : stream.current.lexeme ≠ .finish := by
    rintro hfinish
    rw [hfinish] at hends
    simp at hends
  have hfalse : after = false := by
    have hleads := hleads hne
    rcases hends with hends | ⟨text, hdata⟩
    · simp only [List.mem_cons, List.not_mem_nil, or_false] at hends
      rcases hends with hend | hend <;> rw [hend] at hleads <;> cases inside <;> cases hleads <;> rfl
    · rw [hdata] at hleads
      cases inside <;> cases hleads
      rfl
  exact hfalse ▸ hafter

theorem ne_finish_of_alternate {tokens : List Token} (halternate : Alternate inside tokens) :
    ∀ token ∈ tokens, token.lexeme ≠ .finish := by
  induction tokens generalizing inside with
  | nil => exact nofun
  | cons token rest ih =>
      obtain ⟨next, hleads, hrest⟩ := halternate
      refine List.forall_mem_cons.mpr ⟨fun hfinish => ?_, ih hrest⟩
      rw [hfinish] at hleads
      cases hleads

theorem Stream.IsPlaced.ne_finish (hplaced : stream.IsPlaced inside) :
    ∀ token ∈ stream.rest, token.lexeme ≠ .finish := by
  unfold IsPlaced at hplaced
  split at hplaced
  · rw [hplaced.1]
    exact nofun
  · exact fun token htoken => ne_finish_of_alternate hplaced token (List.mem_cons_of_mem _ htoken)

/-! ### Rules on a stream -/

variable {α β : Type} {around : Surroundings} {bound : Nat}

theorem bind_apply_eq_ok_iff {rule : Rule α} {rest : α → Rule β} {value : β} :
    (rule >>= rest) around stream = .ok (value, next) ↔
      ∃ first middle, rule around stream = .ok (first, middle) ∧
        rest first around middle = .ok (value, next) := by
  have hbind : (rule >>= rest) around stream =
      (rule around stream >>= fun result => rest result.1 around result.2) := rfl
  rw [hbind, Results.bind_eq_ok_iff]
  constructor
  · rintro ⟨⟨first, middle⟩, hrule, hrest⟩
    exact ⟨first, middle, hrule, hrest⟩
  · rintro ⟨first, middle, hrule, hrest⟩
    exact ⟨(first, middle), hrule, hrest⟩

theorem next_of_advance {token : Token} (hadvance : advance around stream = .ok (token, next)) :
    stream.next = .ok next := by
  rw [Outlook.advance_apply] at hadvance
  obtain ⟨_, hnext, hresult⟩ := Results.bind_eq_ok_iff.mp hadvance
  cases hresult
  exact hnext

theorem next_of_expect {lexeme : Lexeme} {token : Token}
    (hexpect : expect lexeme around stream = .ok (token, next)) :
    stream.current.lexeme = lexeme ∧ stream.next = .ok next := by
  obtain ⟨_, _, hcurrent, hexpect⟩ := bind_apply_eq_ok_iff.mp hexpect
  cases hcurrent
  split at hexpect
  · next hsame => exact ⟨beq_iff_eq.mp hsame, next_of_advance hexpect⟩
  · cases hexpect

/-- What is known of the tokens of a stream, whatever they are. -/
def Outlook.ofStream (stream : Stream) : Outlook :=
  ⟨stream, fun _ => True, fun _ => True, fun _ => True, trivial⟩

theorem Stream.IsPlaced.holds (hplaced : stream.IsPlaced inside) : (Outlook.ofStream stream).Holds stream :=
  have hadmits (token : Token) : (Outlook.ofStream stream).Admits token :=
    ⟨trivial, fun _ _ => trivial, fun _ _ => trivial⟩
  ⟨.refl, hadmits _, fun token htoken => ⟨hadmits token, hplaced.ne_finish token htoken⟩⟩

/-- A rule that is good for the tokens of a stream takes some of them. -/
theorem reaches_of_gives {rule : Rule α} {kind : α → Prop} {value : α}
    (hgives : (Outlook.ofStream stream).Gives false bound rule kind) (hplaced : stream.IsPlaced inside)
    (hsize : stream.size < bound) (hrule : rule around stream = .ok (value, next)) :
    stream.Reaches next ∧ next.size ≤ stream.size := by
  have hyields := hgives (stream.size + 1) hsize around stream
    ⟨⟨hplaced.holds, Nat.lt_succ_self _⟩, nofun⟩
  rw [hrule] at hyields
  exact ⟨hyields.1.holds.reached, Nat.le_of_lt_succ hyields.1.size⟩

/-- A rule and the end of its tag lead outside of tags. -/
theorem outside_of_expect {rule : Rule α} {kind : α → Prop} {value : α} {lexeme : Lexeme} {token : Token}
    {middle : Stream} (hgives : (Outlook.ofStream stream).Gives false bound rule kind)
    (hplaced : stream.IsPlaced inside) (hsize : stream.size < bound)
    (hrule : rule around stream = .ok (value, middle))
    (hexpect : expect lexeme around middle = .ok (token, next))
    (hends : lexeme ∈ [Lexeme.variableEnd, .blockEnd]) :
    next.IsPlaced false ∧ next.size ≤ stream.size := by
  obtain ⟨hreaches, hle⟩ := reaches_of_gives hgives hplaced hsize hrule
  obtain ⟨after, hmiddle⟩ := hplaced.of_reaches hreaches
  obtain ⟨hcurrent, hnext⟩ := next_of_expect hexpect
  refine ⟨hmiddle.outside_of_next hnext (.inl (hcurrent ▸ hends)), ?_⟩
  obtain ⟨-, hless, -⟩ := hmiddle.holds.of_next hnext
  omega

/-! ### Parts of a template -/

/-- A part of a template after which another one may follow takes a token and ends outside of tags.  No part
is found only at the end of the template. -/
theorem bodyPart_spec {read : BodyRead} {part : Option (BodyRead × Bool)}
    (hplaced : stream.IsPlaced false) (hsize : stream.size ≤ bound)
    (hpart : bodyPart (levels bound) [] read around stream = .ok (part, next)) :
    (part = none → next.fault = none) ∧
      ∀ read' ended, part = some (read', ended) →
        ended = false ∧ next.IsPlaced false ∧ next.size < stream.size := by
  have htake {middle : Stream} {token : Token} (hne : stream.current.lexeme ≠ .finish)
      (hadvance : advance around stream = .ok (token, middle)) :
      stream.next = .ok middle ∧ (∃ after, middle.IsPlaced after) ∧ middle.size < stream.size := by
    have hnext := next_of_advance hadvance
    obtain ⟨after, hafter, -⟩ := hplaced.of_next hnext
    exact ⟨hnext, ⟨after, hafter⟩, (hplaced.holds.of_next hnext).2.2 hne⟩
  obtain ⟨_, _, hcurrent, hpart⟩ := bind_apply_eq_ok_iff.mp hpart
  cases hcurrent
  generalize hlexeme : stream.current.lexeme = lexeme at hpart
  -- The token tells the kind of the part, and only the end of the template is none.
  cases lexeme with
  | data text =>
      obtain ⟨_, middle, hadvance, hpart⟩ := bind_apply_eq_ok_iff.mp hpart
      obtain ⟨hnext, -, hless⟩ := htake (by simp [hlexeme]) hadvance
      have houtside := hplaced.outside_of_next hnext (.inr ⟨text, hlexeme⟩)
      split at hpart
      · cases hpart
        exact ⟨nofun, fun _ _ hsome => by cases hsome; exact ⟨rfl, houtside, hless⟩⟩
      · cases hpart
        exact ⟨nofun, fun _ _ hsome => by cases hsome; exact ⟨rfl, houtside, hless⟩⟩
  | variableBegin =>
      obtain ⟨_, first, hadvance, hpart⟩ := bind_apply_eq_ok_iff.mp hpart
      obtain ⟨-, ⟨after, hfirst⟩, hless⟩ := htake (by simp [hlexeme]) hadvance
      obtain ⟨printed, middle, hprinted, hpart⟩ := bind_apply_eq_ok_iff.mp hpart
      obtain ⟨_, last, hexpect, hpart⟩ := bind_apply_eq_ok_iff.mp hpart
      obtain ⟨houtside, hle⟩ := outside_of_expect (Outlook.gives_tuple (Outlook.supports_levels bound))
        hfirst (by omega) hprinted hexpect (by simp)
      cases hpart
      exact ⟨nofun, fun _ _ hsome => by cases hsome; exact ⟨rfl, houtside, by omega⟩⟩
  | blockBegin =>
      obtain ⟨_, first, hadvance, hpart⟩ := bind_apply_eq_ok_iff.mp hpart
      obtain ⟨-, ⟨after, hfirst⟩, hless⟩ := htake (by simp [hlexeme]) hadvance
      obtain ⟨_, _, hcurrent, hpart⟩ := bind_apply_eq_ok_iff.mp hpart
      cases hcurrent
      obtain ⟨printed, middle, hprinted, hpart⟩ := bind_apply_eq_ok_iff.mp hpart
      obtain ⟨_, last, hexpect, hpart⟩ := bind_apply_eq_ok_iff.mp hpart
      obtain ⟨houtside, hle⟩ := outside_of_expect
        (Outlook.gives_statement (Outlook.supports_levels bound)).less hfirst (by omega) hprinted hexpect
        (by simp)
      cases hpart
      exact ⟨nofun, fun _ _ hsome => by cases hsome; exact ⟨rfl, houtside, by omega⟩⟩
  | finish =>
      cases hpart
      rw [Stream.IsPlaced, if_pos hlexeme] at hplaced
      exact ⟨fun _ => hplaced.2, nofun⟩
  -- Outside of tags there is no other token.
  | _ =>
      rw [Stream.IsPlaced, if_neg (by simp [hlexeme])] at hplaced
      obtain ⟨_, hleads, -⟩ := hplaced
      rw [hlexeme] at hleads
      cases hleads

/-- The parts of a template are read up to its end: every one takes a token, so the count that bounds the
loop is not reached. -/
theorem fault_of_repeatCounted (count : Nat) :
    ∀ {stream : Stream} {read : BodyRead} {last : BodyRead × Bool}, stream.IsPlaced false →
      stream.size ≤ bound → stream.size < count →
      repeatCounted (fun (read, ended) => do
        if ended then return none
        bodyPart (levels bound) [] read) count (read, false) around stream = .ok (last, next) →
      next.fault = none := by
  -- A part that is read leaves a smaller stream, so the count does not run out first.
  induction count with
  | zero => exact fun _ _ hlt => absurd hlt (Nat.not_lt_zero _)
  | succ count ih =>
      intro stream read last hplaced hsize hcount hloop
      rw [repeatCounted] at hloop
      obtain ⟨part, middle, hpart, hloop⟩ := bind_apply_eq_ok_iff.mp hloop
      obtain ⟨hend, hmore⟩ := bodyPart_spec hplaced hsize hpart
      cases part with
      | none =>
          cases hloop
          exact hend rfl
      | some part =>
          obtain ⟨read', ended⟩ := part
          obtain ⟨rfl, houtside, hless⟩ := hmore read' ended rfl
          exact ih houtside (by omega) (by omega) hloop

/-- A template is read up to its end. -/
theorem fault_of_body {statements : List Statement} (hplaced : stream.IsPlaced false)
    (hsize : stream.size ≤ bound)
    (hbody : body (levels bound) [] around stream = .ok (statements, next)) : stream.fault = none := by
  have hreaches := (reaches_of_gives (Outlook.gives_body (Outlook.supports_levels bound)) hplaced
    (Nat.lt_succ_of_le hsize) hbody).1
  rw [← hreaches.fault]
  have hsame : body (levels bound) [] around = (repeatFrom (({} : BodyRead), false) (fun (read, ended) => do
      if ended then return none
      bodyPart (levels bound) [] read) >>= fun (read, _) => pure read.close) around := rfl
  rw [hsame] at hbody
  obtain ⟨last, middle, hloop, hclose⟩ := bind_apply_eq_ok_iff.mp hbody
  cases hclose
  refine fault_of_repeatCounted (stream.rest.length + 2) hplaced hsize ?_ hloop
  unfold Stream.size
  split <;> omega

/-- A list of tokens in order begins outside of tags. -/
theorem Stream.isPlaced_of_ofTokens {list : TokenList} (halternate : Alternate false list.tokens)
    (hstream : ofTokens list = .ok stream) :
    stream.IsPlaced false ∧ stream.size ≤ list.tokens.length ∧ stream.fault = list.fault := by
  obtain ⟨tokens, fault⟩ := list
  refine ⟨?_, ?_, fault_of_next hstream⟩
  all_goals
    cases tokens with
    | nil =>
        cases fault with
        | none => cases hstream; simp [IsPlaced, Stream.size]
        | some ended => cases hstream
    | cons token rest =>
        cases hstream
        have hne := ne_finish_of_alternate halternate token List.mem_cons_self
        simp [IsPlaced, Stream.size, hne, halternate]

end Grammar

/-- A source has a tree only if no objection has ended its tokens. -/
theorem fault_of_parse_eq_ok {source : List Char} {body : List Statement}
    (hparse : parse source = .ok body) : (tokenize source).fault = none := by
  unfold parse Grammar.template at hparse
  obtain ⟨stream, hstream, hparse⟩ := Results.bind_eq_ok_iff.mp hparse
  obtain ⟨⟨statements, last⟩, hbody, -⟩ := Results.bind_eq_ok_iff.mp hparse
  obtain ⟨hplaced, hsize, hfault⟩ :=
    Grammar.Stream.isPlaced_of_ofTokens (alternate_tokenize source) hstream
  rw [← hfault]
  exact Grammar.fault_of_body hplaced (Nat.le_succ_of_le hsize) hbody

end TemplateWorkbench.Template
