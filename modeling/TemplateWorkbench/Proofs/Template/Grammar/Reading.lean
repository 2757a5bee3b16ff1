import Mathlib.Logic.Relation
import TemplateWorkbench.Template.Grammar.Basic

/-!
# What the rules of the grammar keep to

A rule reads on in a list of tokens that is fixed from the start, so four things can be said of every
rule.  It comes to where it stops by taking one token after another.  What it objects to is a fault of
templates, or the fault that ended the list.  The integers that it reads, the names of blocks and the lines
of nodes stand in the list.  And if rules one level down are good for a number of tokens, a rule is good for one token more,
since it takes a token before it goes down.

`Outlook.Gives` says all four of a rule at once.  The lemmas of this file follow the steps that rules
are made of; the rules themselves come after.

## Strategy

`At bound` is what holds between two steps: fewer than `bound` tokens can still be taken.  The only step
that lowers the bound is `advance`, and only while the end of the template is not reached; this is what
`live` records, and it comes from having looked at the current token.
-/

namespace TemplateWorkbench.Template.Grammar

variable {α β : Type}

/-- The number of tokens that can still be taken. -/
def Stream.size (stream : Stream) : Nat :=
  stream.rest.length + if stream.current.lexeme = .finish then 0 else 1

/-- Whether a stream comes to another one by taking tokens. -/
abbrev Stream.Reaches : Stream → Stream → Prop :=
  Relation.ReflTransGen fun stream next => stream.next = .ok next

theorem Stream.fault_of_next {stream next : Stream} (hnext : stream.next = .ok next) :
    next.fault = stream.fault := by
  unfold Stream.next at hnext
  split at hnext <;> cases hnext <;> rfl

theorem Stream.Reaches.fault {stream next : Stream} (hreaches : stream.Reaches next) :
    next.fault = stream.fault := by
  induction hreaches with
  | refl => rfl
  | tail _ hnext ih => exact (fault_of_next hnext).trans ih

/-- What is known of a list of tokens: where it is read from, and what its integers, names and lines are
like.  What has no line counts as being on line 0. -/
structure Outlook where
  start : Stream
  integer : Int → Prop
  name : String → Prop
  line : Int → Prop
  unplaced : line 0

namespace Outlook

variable (o : Outlook)

/-- Whether a token may stand in the list. -/
structure Admits (token : Token) : Prop where
  line : o.line token.line
  integer : ∀ value, token.lexeme = .integer value → o.integer value
  name : ∀ id, token.lexeme = .name id → o.name id

/-- Whether a stream reads on in the list. -/
structure Holds (stream : Stream) : Prop where
  reached : o.start.Reaches stream
  current : o.Admits stream.current
  rest : ∀ token ∈ stream.rest, o.Admits token ∧ token.lexeme ≠ .finish

/-- Whether a stream reads on in the list with fewer than so many tokens to take. -/
structure At (bound : Nat) (stream : Stream) : Prop where
  holds : o.Holds stream
  size : stream.size < bound

/-- The faults that a rule may stop with: those of templates, and that of the end of the list. -/
def Excuses (fault : Fault) : Prop :=
  fault.kind.isTemplateFault = true ∨
    ∃ line misreading, o.start.fault = some (line, misreading) ∧ fault = misreading.fault line

/-- Whether a result is a value with a stream of which something holds, or a fault that is excused. -/
def Yields (after : α → Stream → Prop) : Except Fault (α × Stream) → Prop
  | .ok (value, next) => after value next
  | .error fault => o.Excuses fault

/-- Whether a rule yields what it should on every stream of which something holds. -/
def Meets (before : Stream → Prop) (rule : Rule α) (after : α → Stream → Prop) : Prop :=
  ∀ around stream, before stream → o.Yields after (rule around stream)

/-- Whether a rule is good for fewer than `bound` tokens: it gives values of a kind.  If it is known to be
`live`, it is only asked while there is a token to take. -/
def Gives (live : Bool) (bound : Nat) (rule : Rule α) (kind : α → Prop) : Prop :=
  ∀ c ≤ bound,
    o.Meets (fun stream => o.At c stream ∧ (live = true → stream.current.lexeme ≠ .finish)) rule
      (fun value next => o.At c next ∧ kind value)

/-- Whether a rule that always takes a token is good for fewer than `bound` tokens after it. -/
def Takes (live : Bool) (bound : Nat) (rule : Rule α) (kind : α → Prop) : Prop :=
  ∀ c ≤ bound,
    o.Meets (fun stream => o.At (c + 1) stream ∧ (live = true → stream.current.lexeme ≠ .finish)) rule
      (fun value next => o.At c next ∧ kind value)

variable {o} {live : Bool} {bound c : Nat} {kind : α → Prop} {other : β → Prop} {stream next : Stream}

theorem At.mono (hat : o.At c stream) (hle : c ≤ bound) : o.At bound stream :=
  ⟨hat.holds, Nat.lt_of_lt_of_le hat.size hle⟩

/-! ### Steps one after another -/

theorem Yields.weaken {after after' : α → Stream → Prop} {result : Except Fault (α × Stream)}
    (hresult : o.Yields after result) (hafter : ∀ value stream, after value stream → after' value stream) :
    o.Yields after' result := by
  match result with
  | .ok (value, next) => exact hafter value next hresult
  | .error fault => exact hresult

theorem Yields.bind {middle : α → Stream → Prop} {after : β → Stream → Prop}
    {result : Except Fault (α × Stream)} {rest : α × Stream → Except Fault (β × Stream)}
    (hresult : o.Yields middle result)
    (hrest : ∀ value stream, middle value stream → o.Yields after (rest (value, stream))) :
    o.Yields after (result >>= rest) := by
  match result with
  | .ok (value, next) => exact hrest value next hresult
  | .error fault => exact hresult

theorem Gives.bind {rule : Rule α} {rest : α → Rule β} (hrule : o.Gives live bound rule kind)
    (hrest : ∀ value, kind value → o.Gives false bound (rest value) other) :
    o.Gives live bound (rule >>= rest) other := fun c hc around stream hat =>
  (hrule c hc around stream hat).bind fun value next hmiddle =>
    hrest value hmiddle.2 c hc around next ⟨hmiddle.1, nofun⟩

/-- What need not be live may be. -/
theorem Gives.alive {rule : Rule α} (hrule : o.Gives false bound rule kind) :
    o.Gives live bound rule kind := fun c hc around stream hat =>
  hrule c hc around stream ⟨hat.1, nofun⟩

theorem Gives.mono {rule : Rule α} {less : Nat} (hrule : o.Gives live bound rule kind)
    (hle : less ≤ bound) : o.Gives live less rule kind := fun c hc => hrule c (Nat.le_trans hc hle)

/-- What is good for a number of tokens is good for one token less. -/
theorem Gives.less {rule : Rule α} (hrule : o.Gives live (bound + 1) rule kind) :
    o.Gives live bound rule kind := hrule.mono (Nat.le_succ bound)

theorem Gives.pure {value : α} (hvalue : kind value) : o.Gives live bound (pure value) kind :=
  fun _ _ _ _ hat => ⟨hat.1, hvalue⟩

theorem Gives.map {rule : Rule α} {f : α → β} (hrule : o.Gives live bound rule kind)
    (hf : ∀ value, kind value → other (f value)) : o.Gives live bound (f <$> rule) other :=
  hrule.bind fun value hvalue => .pure (hf value hvalue)

/-- An objection that is a fault of templates is excused. -/
theorem Gives.objectAt {line : Nat} {misreading : Misreading}
    (hkind : misreading.kind.isTemplateFault = true) :
    o.Gives live bound (objectAt (α := α) line misreading) kind :=
  fun _ _ _ _ _ => .inl hkind

/-- What comes after an objection does not count. -/
theorem Gives.ofObjectAt {line : Nat} {misreading : Misreading}
    (hkind : misreading.kind.isTemplateFault = true) {rest : α → Rule β} :
    o.Gives live bound (Grammar.objectAt line misreading >>= rest) other :=
  fun _ _ _ _ _ => .inl hkind

theorem Gives.object {misreading : Misreading} (hkind : misreading.kind.isTemplateFault = true) :
    o.Gives live bound (object (α := α) misreading) kind :=
  fun _ _ _ _ _ => .inl hkind

/-- A rule that takes a token leaves one token less for what comes after it. -/
theorem Takes.bind {rule : Rule α} {rest : α → Rule β} (hrule : o.Takes live bound rule kind)
    (hrest : ∀ value, kind value → o.Gives false bound (rest value) other) :
    o.Takes live bound (rule >>= rest) other := fun c hc around stream hat =>
  (hrule c hc around stream hat).bind fun value next hmiddle =>
    hrest value hmiddle.2 c hc around next ⟨hmiddle.1, nofun⟩

/-- A rule that takes a token is good for one token more. -/
theorem Takes.gives {rule : Rule α} (hrule : o.Takes live bound rule kind) :
    o.Gives live (bound + 1) rule kind := by
  intro c hc around stream hat
  cases c with
  | zero => exact absurd hat.1.size (Nat.not_lt_zero _)
  | succ c =>
      exact (hrule c (Nat.le_of_succ_le_succ hc) around stream hat).weaken
        fun _ _ hafter => ⟨hafter.1.mono (Nat.le_succ c), hafter.2⟩

/-- Where no bound is left there is no stream to be read. -/
theorem gives_zero {rule : Rule α} : o.Gives live 0 rule kind := fun _ hc _ _ hat =>
  absurd (Nat.lt_of_lt_of_le hat.1.size hc) (Nat.not_lt_zero _)

/-- A rule that takes a token for every bound is good for every bound. -/
theorem gives_of_takes {rule : Rule α} (hrule : ∀ less, o.Takes live less rule kind) :
    o.Gives live bound rule kind := by
  cases bound with
  | zero => exact gives_zero
  | succ less => exact (hrule less).gives

/-! ### Going on -/

theorem Holds.of_next (hholds : o.Holds stream) (hnext : stream.next = .ok next) :
    o.Holds next ∧ next.size ≤ stream.size ∧
      (stream.current.lexeme ≠ .finish → next.size < stream.size) := by
  have hreached := hholds.reached.tail hnext
  unfold Stream.next at hnext
  split at hnext
  · next token rest hrest =>
      cases hnext
      obtain ⟨hadmits, hne⟩ := hholds.rest token (by simp [hrest])
      refine ⟨⟨hreached, hadmits, fun other hother => ?_⟩, ?_, fun hcurrent => ?_⟩
      · exact hholds.rest other (by simp [hrest, hother])
      · simp [Stream.size, hrest, hne]
      · simp [Stream.size, hrest, hne, hcurrent]
  · cases hnext
  · next hrest _ =>
      cases hnext
      refine ⟨⟨hreached, ⟨hholds.current.line, nofun, nofun⟩, hholds.rest⟩, ?_, fun hcurrent => ?_⟩
      · simp [Stream.size]
      · simp [Stream.size, hcurrent]

/-- Only the end of the list stops a stream. -/
theorem Holds.excuses_of_next (hholds : o.Holds stream) {fault : Fault}
    (hnext : stream.next = .error fault) : o.Excuses fault := by
  unfold Stream.next at hnext
  split at hnext
  · cases hnext
  · next line misreading _ hfault =>
      cases hnext
      exact .inr ⟨line, misreading, hholds.reached.fault.symm.trans hfault, rfl⟩
  · cases hnext

theorem advance_apply (around : Surroundings) (stream : Stream) :
    advance around stream = (stream.next >>= fun next => .ok (stream.current, next)) := by
  change ((stream.next >>= fun next => pure (next, stream)) >>= fun pair =>
    pure (stream.current, pair.1)) = _
  cases stream.next <;> rfl

theorem lookahead_apply (around : Surroundings) (stream : Stream) :
    lookahead around stream = (stream.next >>= fun next => .ok (next.current, stream)) := by
  change ((stream.next >>= fun next => pure (next, stream)) >>= fun pair =>
    pure (pair.1.current, pair.2)) = _
  cases stream.next <;> rfl

/-- To go on never leaves more tokens to take. -/
theorem gives_advance : o.Gives live bound advance o.Admits := by
  intro c _ around stream hat
  rw [advance_apply]
  cases hnext : stream.next with
  | error fault => exact hat.1.holds.excuses_of_next hnext
  | ok next =>
      obtain ⟨hholds, hle, -⟩ := hat.1.holds.of_next hnext
      exact ⟨⟨hholds, Nat.lt_of_le_of_lt hle hat.1.size⟩, hat.1.holds.current⟩

/-- Where there is a token to take, to go on takes it. -/
theorem takes_advance : o.Takes true bound advance o.Admits := by
  intro c _ around stream hat
  rw [advance_apply]
  cases hnext : stream.next with
  | error fault => exact hat.1.holds.excuses_of_next hnext
  | ok next =>
      obtain ⟨hholds, -, hless⟩ := hat.1.holds.of_next hnext
      have hsize : next.size < stream.size := hless (hat.2 rfl)
      have hbound : stream.size < c + 1 := hat.1.size
      exact ⟨⟨hholds, by omega⟩, hat.1.holds.current⟩

/-! ### Looking -/

/-- To look at the current token tells whether there is one to take. -/
theorem Gives.ofCurrent {rest : Token → Rule α}
    (hrest : ∀ token, o.Admits token → o.Gives (token.lexeme != .finish) bound (rest token) kind) :
    o.Gives live bound (current >>= rest) kind := fun c hc around stream hat =>
  hrest stream.current hat.1.holds.current c hc around stream ⟨hat.1, bne_iff_ne.mp⟩

theorem Takes.ofCurrent {rest : Token → Rule α}
    (hrest : ∀ token, o.Admits token → o.Takes (token.lexeme != .finish) bound (rest token) kind) :
    o.Takes live bound (current >>= rest) kind := fun c hc around stream hat =>
  hrest stream.current hat.1.holds.current c hc around stream ⟨hat.1, bne_iff_ne.mp⟩

theorem Gives.ofCurrentLine {rest : Nat → Rule α}
    (hrest : ∀ line : Nat, o.line line → o.Gives live bound (rest line) kind) :
    o.Gives live bound (currentLine >>= rest) kind := fun c hc around stream hat =>
  hrest stream.current.line hat.1.holds.current.line c hc around stream hat

/-- The token after the current one is looked at from where the rule stands. -/
theorem Gives.ofLookahead {rest : Token → Rule α}
    (hrest : ∀ token, o.Gives live bound (rest token) kind) :
    o.Gives live bound (lookahead >>= rest) kind := by
  intro c hc around stream hat
  have hahead : o.Yields (fun _ next => next = stream) (lookahead around stream) := by
    rw [lookahead_apply]
    cases hnext : stream.next with
    | error fault => exact hat.1.holds.excuses_of_next hnext
    | ok next => exact rfl
  refine hahead.bind fun token next hsame => ?_
  rw [hsame]
  exact hrest token c hc around stream hat

/-- To be at a lexeme other than the end is to have a token to take. -/
theorem Gives.ofAtLexeme {lexeme : Lexeme} (hlexeme : lexeme ≠ .finish) {rest : Bool → Rule α}
    (hrest : ∀ here, o.Gives (live || here) bound (rest here) kind) :
    o.Gives live bound (atLexeme lexeme >>= rest) kind := by
  intro c hc around stream hat
  refine hrest (stream.current.lexeme == lexeme) c hc around stream ⟨hat.1, fun hknown => ?_⟩
  rcases Bool.or_eq_true_iff.mp hknown with hlive | hhere
  · exact hat.2 hlive
  · rw [beq_iff_eq.mp hhere]
    exact hlexeme

theorem gives_atLexeme {lexeme : Lexeme} :
    o.Gives live bound (atLexeme lexeme) (fun _ => True) := fun _ _ _ _ hat => ⟨hat.1, trivial⟩

theorem Gives.ofAtOperator {op : Operator} {rest : Bool → Rule α}
    (hrest : ∀ here, o.Gives (live || here) bound (rest here) kind) :
    o.Gives live bound (atOperator op >>= rest) kind := by
  have hop : Lexeme.operator op ≠ .finish := nofun
  exact .ofAtLexeme hop hrest

theorem Gives.ofAtWord {word : String} {rest : Bool → Rule α}
    (hrest : ∀ here, o.Gives (live || here) bound (rest here) kind) :
    o.Gives live bound (atWord word >>= rest) kind := by
  have hword : Lexeme.name word ≠ .finish := nofun
  exact .ofAtLexeme hword hrest

/-- An operator is a token to take. -/
theorem live_of_isOperator {op : Operator} {token : Token} (hop : isOperator op token = true) :
    (token.lexeme != .finish) = true := by
  rw [beq_iff_eq.mp hop]
  rfl

/-- A word is a token to take. -/
theorem live_of_isWord {word : String} {token : Token} (hword : isWord word token = true) :
    (token.lexeme != .finish) = true := by
  rw [beq_iff_eq.mp hword]
  rfl

/-! ### Taking -/

/-- A lexeme that has to be there is taken. -/
theorem takes_expect {lexeme : Lexeme} (hlexeme : lexeme ≠ .finish) :
    o.Takes live bound (expect lexeme) o.Admits := by
  refine .ofCurrent fun token _ => ?_
  split
  · next hhere =>
      have hlive : (token.lexeme != .finish) = true := by
        rw [beq_iff_eq.mp hhere]
        exact bne_iff_ne.mpr hlexeme
      rw [hlive]
      exact takes_advance
  · exact fun _ _ _ _ _ => .inl rfl

theorem takes_expectOperator {op : Operator} :
    o.Takes live bound (expectOperator op) o.Admits := takes_expect (by simp)

theorem takes_expectWord {word : String} : o.Takes live bound (expectWord word) o.Admits :=
  takes_expect (by simp)

theorem takes_expectName :
    o.Takes live bound expectName (fun read => o.line read.1 ∧ o.name read.2) := by
  refine .ofCurrent fun token hadmits => ?_
  split
  · next id hname =>
      have hid := hadmits.name id hname
      rw [hname]
      exact takes_advance.bind fun _ _ => .pure ⟨hadmits.line, hid⟩
  · exact fun _ _ _ _ _ => .inl rfl

theorem gives_expect {lexeme : Lexeme} (hlexeme : lexeme ≠ .finish) :
    o.Gives live bound (expect lexeme) o.Admits := gives_of_takes fun _ => takes_expect hlexeme

theorem gives_expectOperator {op : Operator} : o.Gives live bound (expectOperator op) o.Admits :=
  gives_of_takes fun _ => takes_expectOperator

theorem gives_expectWord {word : String} : o.Gives live bound (expectWord word) o.Admits :=
  gives_of_takes fun _ => takes_expectWord

theorem gives_expectName :
    o.Gives live bound expectName (fun read => o.line read.1 ∧ o.name read.2) :=
  gives_of_takes fun _ => takes_expectName

/-- What may be skipped leaves one token less if it was there. -/
theorem Gives.ofSkipIf {lexeme : Lexeme} (hlexeme : lexeme ≠ .finish) {rest : Bool → Rule α}
    (hthere : o.Gives false bound (rest true) kind)
    (hmissing : o.Gives false (bound + 1) (rest false) kind) :
    o.Gives live (bound + 1) (skipIf lexeme >>= rest) kind := by
  have hskip : skipIf lexeme = atLexeme lexeme >>= fun here =>
      if here then advance >>= fun _ => Pure.pure true else Pure.pure false := rfl
  have hbind : skipIf lexeme >>= rest = atLexeme lexeme >>= fun here =>
      if here then advance >>= fun _ => rest true else rest false := by
    rw [hskip, bind_assoc]
    congr 1
    funext here
    cases here with
    | false => rfl
    | true => exact bind_assoc advance _ rest
  rw [hbind]
  refine .ofAtLexeme hlexeme fun here => ?_
  cases here with
  | false => exact hmissing.alive
  | true =>
      rw [Bool.or_true]
      exact (takes_advance.bind fun _ _ => hthere).gives

theorem Gives.ofSkipWord {word : String} {rest : Bool → Rule α}
    (hthere : o.Gives false bound (rest true) kind)
    (hmissing : o.Gives false (bound + 1) (rest false) kind) :
    o.Gives live (bound + 1) (skipWord word >>= rest) kind := by
  have hword : Lexeme.name word ≠ .finish := nofun
  exact .ofSkipIf hword hthere hmissing

theorem gives_skipIf {lexeme : Lexeme} : o.Gives live bound (skipIf lexeme) (fun _ => True) := by
  refine gives_atLexeme.bind fun here _ => ?_
  split
  · exact gives_advance.bind fun _ _ => .pure trivial
  · exact .pure trivial

/-! ### Loops -/

/-- What every step of a loop keeps, the loop keeps. -/
theorem gives_repeatFrom (kind : α → Prop) {start : α} {step : α → Rule (Option α)}
    (hstart : kind start) (hstep : ∀ value, kind value →
      o.Gives false bound (step value) (fun next => ∀ value ∈ next, kind value)) :
    o.Gives live bound (repeatFrom start step) kind := by
  have hcounted (count : Nat) : ∀ value, kind value →
      o.Gives false bound (repeatCounted step count value) kind := by
    induction count with
    | zero => exact fun value hvalue => .pure hvalue
    | succ count ih =>
        intro value hvalue
        refine (hstep value hvalue).bind fun next hnext => ?_
        cases next with
        | none => exact .pure hvalue
        | some next => exact ih next (hnext next rfl)
  intro c hc around stream hat
  exact hcounted (stream.rest.length + 2) start hstart c hc around stream ⟨hat.1, nofun⟩

/-! ### Surroundings -/

theorem Gives.withReader {rule : Rule α} {f : Surroundings → Surroundings}
    (hrule : o.Gives live bound rule kind) : o.Gives live bound (withReader f rule) kind :=
  fun c hc around stream hat => hrule c hc (f around) stream hat

theorem Gives.ofRead {rest : Surroundings → Rule α}
    (hrest : ∀ around, o.Gives live bound (rest around) kind) :
    o.Gives live bound (read >>= rest) kind := fun c hc around stream hat =>
  hrest around c hc around stream hat

end Outlook

end TemplateWorkbench.Template.Grammar
