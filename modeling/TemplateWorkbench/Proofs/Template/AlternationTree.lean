import TemplateWorkbench.Proofs.Template.Alternation
import TemplateWorkbench.Template.Grammar.Statement

/-!
# The tree of an alternation

A name in a print goes down through every level of the grammar and comes up again unchanged: each level
asks whether an operator of its own follows, and what follows is the end of the tag.  So the body of a
template that alternates text and prints is one output statement with a part for every literal text and
for every print.
-/

namespace TemplateWorkbench.Template

namespace Grammar

variable {α β : Type} {around : Surroundings} {stream after last : Stream}

/-! ### Reading -/

/-- A rule reads a value and leaves a stream behind. -/
def Reads (rule : Rule α) (around : Surroundings) (stream : Stream) (value : α) (after : Stream) :
    Prop :=
  rule around stream = .ok (value, after)

theorem Reads.bind {first : Rule α} {next : α → Rule β} {value : α} {result : β}
    (hfirst : Reads first around stream value after)
    (hnext : Reads (next value) around after result last) :
    Reads (first >>= next) around stream result last := by
  have hbind : (first >>= next) around stream =
      (first around stream >>= fun pair => next pair.1 around pair.2) := rfl
  rw [Reads, hbind, hfirst]
  exact hnext

theorem Reads.current : Reads current around stream stream.current stream := rfl

/-- A loop has as many steps as there are tokens left, and two more. -/
theorem Reads.ofCounted {start result : α} {step : α → Rule (Option α)}
    (hcounted : Reads (repeatCounted step (stream.rest.length + 2) start) around stream result
      after) : Reads (repeatFrom start step) around stream result after :=
  hcounted

/-- A loop that is done at once gives what it started with. -/
theorem Reads.repeatFrom_none {start : α} {step : α → Rule (Option α)}
    (hstep : Reads (step start) around stream none stream) :
    Reads (repeatFrom start step) around stream start stream := by
  refine Reads.ofCounted ?_
  rw [repeatCounted]
  exact hstep.bind rfl

/-- A loop that is done after one step gives what the step gave. -/
theorem Reads.repeatFrom_once {start next : α} {step : α → Rule (Option α)}
    (hstep : Reads (step start) around stream (some next) after)
    (hdone : Reads (step next) around after none after) :
    Reads (repeatFrom start step) around stream next after := by
  refine Reads.ofCounted ?_
  rw [repeatCounted]
  refine hstep.bind ?_
  simp only [repeatCounted]
  exact hdone.bind rfl

/-! ### A word in a tag -/

/-- The lexeme that ends a tag. -/
def tagEnd (isBlock : Bool) : Lexeme := if isBlock then .blockEnd else .variableEnd

/-- A rule reads a word that a tag ends after, up to the end of the tag. -/
def ReadsWord (isBlock : Bool) (rule : Rule Expr) (word : Token) (expr : Expr) : Prop :=
  ∀ around closing rest fault,
    Reads rule around ⟨word, ⟨closing, tagEnd isBlock⟩ :: rest, fault⟩ expr
      ⟨⟨closing, tagEnd isBlock⟩, rest, fault⟩

variable {isBlock : Bool} {word : Token} {expr : Expr} {line : Nat} {id : String}

theorem ReadsWord.leftChain {side : Rule Expr} {operator? : Token → Option BinaryOp}
    (hside : ReadsWord isBlock side word expr)
    (hend : ∀ closing, operator? ⟨closing, tagEnd isBlock⟩ = none) :
    ReadsWord isBlock (leftChain side operator?) word expr := by
  intro around closing rest fault
  unfold Grammar.leftChain
  refine Reads.bind rfl (Reads.bind (hside around closing rest fault) ?_)
  refine Reads.bind (Reads.repeatFrom_none (Reads.bind Reads.current ?_)) rfl
  simp only [hend]
  rfl

/-- What a word has to be like to be an expression on its own. -/
structure IsOperand (isBlock : Bool) (down : Levels) (word : Token) (expr : Expr) : Prop where
  primary : ReadsWord isBlock (primary down false) word expr
  notSub : isOperator .sub word = false
  notAdd : isOperator .add word = false
  notNegation : isWord "not" word = false

theorem isOperand_name (down : Levels) (hid : constant? id = none) (hnot : id ≠ "not") :
    IsOperand isBlock down ⟨line, .name id⟩ (.name line id .load) := by
  refine ⟨fun around closing rest fault => ?_, rfl, rfl, by simp [isWord, hnot]⟩
  unfold primary
  refine Reads.bind Reads.current (Reads.bind rfl ?_)
  simp only [hid]
  rfl

theorem isOperand_string (down : Levels) (text : String) :
    IsOperand isBlock down ⟨line, .string text⟩ (.const line (.string text)) := by
  refine ⟨fun around closing rest fault => ?_, rfl, rfl, rfl⟩
  unfold primary
  refine Reads.bind Reads.current (Reads.bind rfl (Reads.bind (Reads.repeatFrom_none ?_) rfl))
  cases isBlock <;> rfl

namespace IsOperand

variable {down : Levels} (hword : IsOperand isBlock down word expr)

include hword

theorem operand : ReadsWord isBlock (operand down true) word expr := by
  intro around closing rest fault
  have hpostfixed : Reads (postfixed down expr) around ⟨⟨closing, tagEnd isBlock⟩, rest, fault⟩ expr
      ⟨⟨closing, tagEnd isBlock⟩, rest, fault⟩ :=
    Reads.repeatFrom_none (by cases isBlock <;> rfl)
  have hfiltered : Reads (filtered down expr) around ⟨⟨closing, tagEnd isBlock⟩, rest, fault⟩ expr
      ⟨⟨closing, tagEnd isBlock⟩, rest, fault⟩ :=
    Reads.repeatFrom_none (by cases isBlock <;> rfl)
  unfold Grammar.operand
  refine Reads.bind Reads.current ?_
  simp only [hword.notSub, hword.notAdd]
  exact (hword.primary _ _ _ _).bind (hpostfixed.bind hfiltered)

theorem power : ReadsWord isBlock (power down) word expr :=
  hword.operand.leftChain fun _ => by cases isBlock <;> rfl

theorem product : ReadsWord isBlock (product down) word expr :=
  hword.power.leftChain fun _ => by cases isBlock <;> rfl

theorem concatenation : ReadsWord isBlock (concatenation down) word expr := by
  intro around closing rest fault
  unfold Grammar.concatenation
  refine Reads.bind rfl (Reads.bind (hword.product around closing rest fault) ?_)
  exact Reads.bind (Reads.repeatFrom_none (by cases isBlock <;> rfl)) rfl

theorem sum : ReadsWord isBlock (sum down) word expr :=
  hword.concatenation.leftChain fun _ => by cases isBlock <;> rfl

theorem comparison : ReadsWord isBlock (comparison down) word expr := by
  intro around closing rest fault
  unfold Grammar.comparison
  refine Reads.bind rfl (Reads.bind (hword.sum around closing rest fault) ?_)
  exact Reads.bind (Reads.repeatFrom_none (by cases isBlock <;> rfl)) rfl

theorem negation : ReadsWord isBlock (negation down) word expr := by
  intro around closing rest fault
  unfold Grammar.negation
  refine Reads.bind Reads.current ?_
  simp only [hword.notNegation]
  exact hword.comparison around closing rest fault

theorem conjunction : ReadsWord isBlock (conjunction down) word expr :=
  hword.negation.leftChain fun _ => by cases isBlock <;> rfl

theorem disjunction : ReadsWord isBlock (disjunction down) word expr :=
  hword.conjunction.leftChain fun _ => by cases isBlock <;> rfl

theorem expression : ReadsWord isBlock (expression down true) word expr := by
  intro around closing rest fault
  have hdisjunction := hword.disjunction around closing rest fault
  exact Reads.bind rfl (hdisjunction.bind
    (Reads.bind (Reads.repeatFrom_none (by cases isBlock <;> rfl)) rfl))

end IsOperand

/-- A single name with nothing after it is no tuple. -/
theorem ReadsWord.tupleOf {item : Rule Expr} {result : Expr}
    (hitem : ReadsWord false item ⟨line, .name id⟩ result) :
    ReadsWord false (tupleOf item false) ⟨line, .name id⟩ result := by
  intro around closing rest fault
  unfold Grammar.tupleOf
  have hname := hitem around closing rest fault
  exact Reads.bind rfl
    (Reads.bind (Reads.repeatFrom_once (Reads.bind rfl (Reads.bind hname rfl)) rfl) rfl)

/-! ### Parts of a body -/

/-- The stream of some tokens; `line` is the line of the token before them. -/
def streamOf (line : Nat) : List Token → Stream
  | [] => ⟨⟨line, .finish⟩, [], none⟩
  | token :: rest => ⟨token, rest, none⟩

theorem ofTokens_eq (tokens : List Token) :
    Stream.ofTokens ⟨tokens, none⟩ = .ok (streamOf 1 tokens) := by
  cases tokens <;> rfl

theorem reads_advance (line : Nat) (token : Token) (rest : List Token) :
    Reads advance around (streamOf line (token :: rest)) token (streamOf token.line rest) := by
  cases rest <;> rfl

/-- A body takes literal text as it is. -/
theorem reads_bodyPart_data (down : Levels) (read : BodyRead) (before line : Nat) {text : String}
    (htext : text.isEmpty = false) (rest : List Token) :
    Reads (bodyPart down [] read) around (streamOf before (⟨line, .data text⟩ :: rest))
      (some ({ read with pending := read.pending ++ [.data line text] }, false))
      (streamOf line rest) := by
  unfold bodyPart
  refine Reads.bind Reads.current (Reads.bind (reads_advance before _ rest) ?_)
  rw [htext]
  rfl

/-- A body takes a print of a name as the name. -/
theorem reads_bodyPart_print {down : Levels}
    (hdown : ReadsWord false (down.expression true) ⟨line, .name id⟩ (.name line id .load))
    (read : BodyRead) (before closing : Nat) (rest : List Token) :
    Reads (bodyPart down [] read) around
      (streamOf before
        (⟨line, .variableBegin⟩ :: ⟨line, .name id⟩ :: ⟨closing, .variableEnd⟩ :: rest))
      (some ({ read with pending := read.pending ++ [.name line id .load] }, false))
      (streamOf closing rest) := by
  unfold bodyPart
  refine Reads.bind Reads.current (Reads.bind (reads_advance before _ _) ?_)
  refine Reads.bind (hdown.tupleOf around closing rest none) ?_
  exact Reads.bind (reads_advance line _ rest) rfl

/-! ### A whole body -/

/-- The steps of a body. -/
def bodyStep (down : Levels) (state : BodyRead × Bool) : Rule (Option (BodyRead × Bool)) :=
  if state.2 then pure none else bodyPart down [] state.1

theorem repeatCounted_succ {step : α → Rule (Option α)} {start next result : α} {count : Nat}
    (hstep : Reads (step start) around stream (some next) after)
    (hrest : Reads (repeatCounted step count next) around after result last) :
    Reads (repeatCounted step (count + 1) start) around stream result last := by
  rw [repeatCounted]
  exact hstep.bind hrest

end Grammar

namespace Alternation

open Grammar

/-- The part of an output statement that literal text makes. -/
def dataParts (line : Nat) (text : List Char) : List Expr :=
  if text.isEmpty then [] else [.data line (String.ofList text)]

/-- The parts of the output statement of a template. -/
def parts (line : Nat) : Alternation → List Expr
  | last text => dataParts line text
  | print text name rest =>
    let here := line + Lexer.newlines text
    dataParts line text ++ .name here name .load :: rest.parts here

/-- The tree of a template: one output statement, unless there is nothing to print. -/
def body (alternation : Alternation) : List Statement :=
  match alternation.parts 1 with
  | [] => []
  | first :: rest => [.output first.line (first :: rest)]

theorem constant?_eq_none {name : String} (hname : name ∉ reservedNames) : constant? name = none := by
  unfold constant?
  split <;> simp_all [reservedNames]

theorem ne_not_of_notMem {name : String} (hname : name ∉ reservedNames) : name ≠ "not" := by
  rintro rfl
  exact hname (by decide)

/-- A body that has been read up to the end of the template. -/
def ReadsBody (down : Levels) (around : Surroundings) (count before : Nat) (read result : BodyRead)
    (tokens : List Token) : Prop :=
  ∃ stop, Reads (repeatCounted (bodyStep down) count (read, false)) around (streamOf before tokens)
    (result, false) (streamOf stop [])

theorem readsBody_nil (down : Levels) (around : Surroundings) (before : Nat) (read : BodyRead)
    {count : Nat} (hcount : 0 < count) : ReadsBody down around count before read read [] := by
  obtain ⟨count, rfl⟩ := Nat.exists_eq_add_of_lt hcount
  exact ⟨before, rfl⟩

/-- Literal text is taken in one step, if there is any. -/
theorem readsBody_dataTokens {down : Levels} {around : Surroundings} {text : List Char}
    {rest : List Token} {read result : BodyRead} {before line count : Nat}
    (hcount : (dataTokens line text ++ rest).length < count)
    (hrest : ∀ before count, rest.length < count →
      ReadsBody down around count before
        { read with pending := read.pending ++ dataParts line text } result rest) :
    ReadsBody down around count before read result (dataTokens line text ++ rest) := by
  cases text with
  | nil =>
      have hsame := hrest before count hcount
      simp only [dataParts, List.isEmpty_nil, if_true, List.append_nil] at hsame
      exact hsame
  | cons c more =>
      obtain ⟨count, rfl⟩ := Nat.exists_eq_succ_of_ne_zero (Nat.ne_zero_of_lt hcount)
      have hnonempty : (String.ofList (c :: more)).isEmpty = false := by simp
      have hfewer : rest.length < count := by
        simp only [dataTokens, List.isEmpty_cons, List.length_append] at hcount
        exact Nat.lt_of_succ_lt_succ (by simpa [Nat.add_comm] using hcount)
      obtain ⟨stop, hmore⟩ := hrest line count hfewer
      exact ⟨stop,
        repeatCounted_succ (reads_bodyPart_data down read before line hnonempty rest) hmore⟩

/-- Every literal text and every print of a template makes its part, and then the rest is read. -/
theorem readsBody_tokens_append {alternation : Alternation} (hformed : alternation.WellFormed)
    {around : Surroundings} {depth : Nat} {read result : BodyRead} {tail : List Token}
    {before line count : Nat} (hcount : (alternation.tokens line ++ tail).length < count)
    (htail : ∀ before count, tail.length < count →
      ReadsBody (levels (depth + 1)) around count before
        { read with pending := read.pending ++ alternation.parts line } result tail) :
    ReadsBody (levels (depth + 1)) around count before read result
      (alternation.tokens line ++ tail) := by
  -- Every part has a token of its own, so there are enough steps for all of them.
  induction alternation generalizing read before line count with
  | last text => exact readsBody_dataTokens hcount htail
  | print text name rest ih =>
      obtain ⟨-, -, hreserved, hrest⟩ := hformed
      have hname : ReadsWord false ((levels (depth + 1)).expression true)
          ⟨line + Lexer.newlines text, .name name⟩
          (.name (line + Lexer.newlines text) name .load) :=
        (isOperand_name (levels depth) (constant?_eq_none hreserved)
          (ne_not_of_notMem hreserved)).expression
      rw [tokens, List.append_assoc] at hcount ⊢
      refine readsBody_dataTokens hcount fun before count hcount => ?_
      obtain ⟨count, rfl⟩ := Nat.exists_eq_succ_of_ne_zero (Nat.ne_zero_of_lt hcount)
      have hfewer : (rest.tokens (line + Lexer.newlines text) ++ tail).length < count := by
        simp only [List.cons_append, List.length_cons] at hcount
        omega
      have hrestBody : ReadsBody (levels (depth + 1)) around count (line + Lexer.newlines text)
          { read with
            pending := read.pending ++ dataParts line text ++
              [.name (line + Lexer.newlines text) name .load] }
          result (rest.tokens (line + Lexer.newlines text) ++ tail) :=
        ih hrest hfewer (by simpa [parts] using htail)
      obtain ⟨stop, hmore⟩ := hrestBody
      exact ⟨stop, repeatCounted_succ (reads_bodyPart_print hname _ before _ _) hmore⟩

theorem close_parts (alternation : Alternation) :
    (BodyRead.mk [] (alternation.parts 1)).close = alternation.body := by
  unfold BodyRead.close body
  split <;> simp_all

/-- What a source with some tokens is read as, if its body can be read up to their end. -/
theorem parse_of_readsBody {source : List Char} {tokens : List Token} {result : BodyRead}
    (htokens : tokenize source = ⟨tokens, none⟩)
    (hread : ∀ count, tokens.length < count →
      ReadsBody (levels (tokens.length + 1)) ⟨[], []⟩ count 1 {} result tokens) :
    parse source = .ok result.close := by
  have hcount : tokens.length < (streamOf 1 tokens).rest.length + 2 := by
    cases tokens <;> simp [streamOf]
  obtain ⟨stop, hread⟩ := hread _ hcount
  have hclosed : Reads (repeatFrom (({} : BodyRead), false) (bodyStep (levels (tokens.length + 1))) >>=
      fun state => pure state.1.close) ⟨[], []⟩ (streamOf 1 tokens) result.close
      (streamOf stop []) := (Reads.ofCounted hread).bind rfl
  have hbody : Reads (Grammar.body (levels (tokens.length + 1)) []) ⟨[], []⟩ (streamOf 1 tokens)
      result.close (streamOf stop []) := hclosed
  rw [parse, htokens, template, ofTokens_eq]
  exact congrArg (fun result => result.bind fun pair => .ok pair.1) hbody

/-- The tree of a source is that of its settled alternation. -/
theorem parse_source {alternation : Alternation} (hformed : alternation.WellFormed) :
    parse alternation.source = .ok alternation.settled.body := by
  rw [← close_parts]
  refine parse_of_readsBody (tokenize_source hformed) fun count hcount => ?_
  rw [← List.append_nil (alternation.settled.tokens 1)] at hcount ⊢
  exact readsBody_tokens_append (wellFormed_settled hformed) hcount fun before count hcount =>
    readsBody_nil _ ⟨[], []⟩ before _ hcount

end Alternation

end TemplateWorkbench.Template
