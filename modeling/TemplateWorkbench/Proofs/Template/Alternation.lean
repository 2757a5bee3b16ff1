import TemplateWorkbench.Proofs.Text.Lines
import TemplateWorkbench.Template.Lexer
import TemplateWorkbench.Template.TokenList
import TemplateWorkbench.Unicode.Normal

/-!
# Templates of literal text and printed names

The simplest templates that depend on a context alternate literal text and prints of names.  Such a
template is described by the tree that it is read from, its *alternation*, and this file follows it
through the lexer: literal text up to a print is one piece of data, and the print is five pieces, two of
which are blanks that make no token.

The lexer works on the *settled* alternation, in which line ends are unified and one line feed at the
very end is gone.
-/

namespace TemplateWorkbench.Template

/-- Literal text and printed names in turn, with text at both ends. -/
inductive Alternation where
  | last (text : List Char)
  | print (text : List Char) (name : String) (rest : Alternation)
deriving DecidableEq, Repr

namespace Alternation

/-- How a name is printed. -/
def tag (name : String) : List Char := '{' :: '{' :: ' ' :: (name.toList ++ [' ', '}', '}'])

/-- The source of a template. -/
def source : Alternation → List Char
  | last text => text
  | print text name rest => text ++ (tag name ++ rest.source)

/-- The names that are printed. -/
def names : Alternation → List String
  | last _ => []
  | print _ name rest => name :: rest.names

/-- The literal texts with their line ends unified, the last one without one line feed at its end. -/
def settled : Alternation → Alternation
  | last text => last (Text.dropFinalNewline (Text.normalize text))
  | print text name rest => print (Text.normalize text) name rest.settled

/-- The text in which every print is replaced by what a name stands for, if each stands for something. -/
def filled? (meaning? : String → Option String) : Alternation → Option String
  | last text => some (String.ofList text)
  | print text name rest => do
    let value ← meaning? name
    pure (String.ofList text ++ value ++ (← rest.filled? meaning?))

/-! ### Names -/

/-- Whether a character may begin an ASCII identifier. -/
def isNameStart (c : Char) : Bool := c.isAlpha || c == '_'

/-- Whether a text is an ASCII identifier. -/
def isAsciiName (name : String) : Bool :=
  match name.toList with
  | [] => false
  | first :: rest => isNameStart first && rest.all fun c => isNameStart c || c.isDigit

/-- The names that mean something of their own where they are printed: an operator, the constants, and
the template itself. -/
def reservedNames : List String :=
  ["not", "true", "false", "none", "True", "False", "None", "self"]

/-- No literal text can be taken for a tag, and only plain names are printed. -/
def WellFormed : Alternation → Prop
  | last text => '{' ∉ text
  | print text name rest =>
    '{' ∉ text ∧ isAsciiName name = true ∧ name ∉ reservedNames ∧ rest.WellFormed

instance decidableWellFormed : (alternation : Alternation) → Decidable alternation.WellFormed
  | last text => inferInstanceAs (Decidable ('{' ∉ text))
  | print text name rest =>
    have := decidableWellFormed rest
    inferInstanceAs (Decidable
      ('{' ∉ text ∧ isAsciiName name = true ∧ name ∉ reservedNames ∧ rest.WellFormed))

theorem toNat_lt_of_isNameStart {c : Char} (hstart : isNameStart c = true) : c.toNat < 128 := by
  have hcases : (c.isUpper || c.isLower || c == '_') = true := hstart
  simp only [Bool.or_eq_true, beq_iff_eq, or_assoc] at hcases
  rcases hcases with hupper | hlower | rfl
  · have hbounds : c.val ≥ 'A'.val ∧ c.val ≤ 'Z'.val := of_decide_eq_true hupper
    have hle : c.toNat ≤ 90 := hbounds.2
    omega
  · have hbounds := Bool.and_eq_true_iff.mp hlower
    have hle : c.toNat ≤ 122 := of_decide_eq_true hbounds.2
    omega
  · decide

theorem toNat_lt_of_isDigit {c : Char} (hdigit : c.isDigit = true) : c.toNat < 128 := by
  simp only [Char.isDigit, Bool.and_eq_true, decide_eq_true_eq] at hdigit
  have hle : c.toNat ≤ 57 := hdigit.2
  omega

/-- What can be told of every ASCII character is told by going through all of them. -/
theorem forall_ascii {P : Char → Prop} (hall : ∀ n < 128, P (Char.ofNat n)) {c : Char}
    (hc : c.toNat < 128) : P c := by
  have hat := hall c.toNat hc
  rwa [Char.ofNat_toNat] at hat

/-- What the tables say of a character that may begin a name. -/
theorem tables_of_isNameStart {c : Char} (hstart : isNameStart c = true) :
    Unicode.isWord c = true ∧ Unicode.isIdentifierStart c = true ∧ Unicode.isDigit c = false ∧
      Unicode.isBlank c = false :=
  forall_ascii
    (P := fun c => isNameStart c = true → Unicode.isWord c = true ∧
      Unicode.isIdentifierStart c = true ∧ Unicode.isDigit c = false ∧ Unicode.isBlank c = false)
    (by decide +kernel) (toNat_lt_of_isNameStart hstart) hstart

/-- A name begins neither like an integer nor like the closing of a tag. -/
theorem ne_of_isNameStart {c : Char} (hstart : isNameStart c = true) :
    c ≠ '0' ∧ ('1' ≤ c && c ≤ '9') = false ∧ c ≠ '}' ∧ c ≠ '-' :=
  forall_ascii
    (P := fun c => isNameStart c = true →
      c ≠ '0' ∧ ('1' ≤ c && c ≤ '9') = false ∧ c ≠ '}' ∧ c ≠ '-')
    (by decide +kernel) (toNat_lt_of_isNameStart hstart) hstart

/-- What the tables say of a character that may go on with a name. -/
theorem tables_of_isNameRest {c : Char} (hrest : (isNameStart c || c.isDigit) = true) :
    Unicode.isWord c = true ∧ Unicode.isIdentifierContinue c = true := by
  have hlt : c.toNat < 128 := by
    rcases Bool.or_eq_true_iff.mp hrest with hstart | hdigit
    · exact toNat_lt_of_isNameStart hstart
    · exact toNat_lt_of_isDigit hdigit
  exact forall_ascii
    (P := fun c => (isNameStart c || c.isDigit) = true →
      Unicode.isWord c = true ∧ Unicode.isIdentifierContinue c = true)
    (by decide +kernel) hlt hrest

/-- What the lexer and the compiler need to know of a name. -/
structure IsName (name : String) : Prop where
  start : ∃ first rest, name.toList = first :: rest ∧ isNameStart first = true
  word : ∀ c ∈ name.toList, Unicode.isWord c = true
  identifier : Unicode.isIdentifier name.toList = true
  normal : Unicode.normalName name = name

theorem isName_of_isAsciiName {name : String} (hname : isAsciiName name = true) : IsName name := by
  unfold isAsciiName at hname
  split at hname
  · cases hname
  · next first rest hchars =>
      rw [Bool.and_eq_true] at hname
      obtain ⟨hfirst, hrest⟩ := hname
      rw [List.all_eq_true] at hrest
      obtain ⟨hword, hidentifier, -, -⟩ := tables_of_isNameStart hfirst
      -- By the tables of ASCII the name is a word, an identifier, and in its normal form.
      refine ⟨⟨first, rest, hchars, hfirst⟩, ?_, ?_, ?_⟩
      · rw [hchars]
        intro c hc
        rcases List.mem_cons.mp hc with rfl | hc
        · exact hword
        · exact (tables_of_isNameRest (hrest c hc)).1
      · rw [hchars, Unicode.isIdentifier, hidentifier, Bool.true_and, List.all_eq_true]
        exact fun c hc => (tables_of_isNameRest (hrest c hc)).2
      · have hascii : (name.toList.all fun c => decide (c.toNat < 128)) = true := by
          rw [hchars, List.all_eq_true]
          intro c hc
          rw [decide_eq_true_eq]
          rcases List.mem_cons.mp hc with rfl | hc
          · exact toNat_lt_of_isNameStart hfirst
          · rcases Bool.or_eq_true_iff.mp (hrest c hc) with hstart | hdigit
            · exact toNat_lt_of_isNameStart hstart
            · exact toNat_lt_of_isDigit hdigit
        rw [Unicode.normalName, if_pos hascii]

end Alternation

/-! ### The lexer on literal text -/

namespace Lexer

open Alternation

theorem openMark?_eq_none {c : Char} (hc : c ≠ '{') (rest : List Char) :
    openMark? (c :: rest) = none := by
  unfold openMark?
  split <;> simp_all

/-- In literal text there is no tag. -/
theorem seek_openMark?_eq_none {text : List Char} (htext : '{' ∉ text) :
    seek openMark? text = none := by
  induction text with
  | nil => rfl
  | cons c rest ih =>
      rw [List.mem_cons, not_or] at htext
      rw [seek, openMark?_eq_none (Ne.symm htext.1), ih htext.2]
      rfl

/-- The first tag after literal text is the one that follows it. -/
theorem seek_openMark?_tag {text : List Char} (htext : '{' ∉ text) (body : List Char) :
    seek openMark? (text ++ '{' :: '{' :: ' ' :: body) =
      some (text, ⟨.variable, [], ['{', '{'], ' ' :: body⟩) := by
  induction text with
  | nil => rfl
  | cons c rest ih =>
      rw [List.mem_cons, not_or] at htext
      rw [List.cons_append, seek, openMark?_eq_none (Ne.symm htext.1), ih htext.2]
      rfl

/-! ### The lexer on a print -/

theorem inside?_blank {c : Char} (hc : Unicode.isBlank c = false) (previous : Char)
    (rest : List Char) : inside? previous (' ' :: c :: rest) = some (.whitespace, [' ']) := by
  have hblanks : (' ' :: c :: rest).takeWhile Unicode.isBlank = [' '] := by
    rw [List.takeWhile_cons_of_pos (by decide), List.takeWhile_cons_of_neg (by simp [hc])]
  rw [inside?, hblanks]
  rfl

theorem float?_eq_none {c : Char} (hc : Unicode.isDigit c = false) (previous : Char)
    (rest : List Char) : float? previous (c :: rest) = none := by
  have hwhole : digitRun Unicode.isDigit (c :: rest) = [] := by
    rw [digitRun, if_neg (by simp [hc])]
  rw [float?, hwhole]
  simp

/-- A name does not begin like an integer. -/
theorem integer?_eq_none {c : Char} (hc : isNameStart c = true) (rest : List Char) :
    integer? (c :: rest) = none := by
  obtain ⟨hzero, hdigit, -, -⟩ := ne_of_isNameStart hc
  have hmarked (small capital : Char) (isDigit : Char → Bool) :
      markedInteger? small capital isDigit (c :: rest) = none := by
    unfold markedInteger?
    split
    · next heq => exact absurd (List.cons.inj heq).1 hzero
    · rfl
  have hplain : plainInteger? (c :: rest) = none := by
    unfold plainInteger?
    split
    · next heq => exact absurd (List.cons.inj heq).1 hzero
    · next heq =>
        obtain ⟨rfl, rfl⟩ := List.cons.inj heq
        rw [hdigit]
        rfl
    · rfl
  rw [integer?, hmarked, hmarked, hmarked, hplain]
  rfl

/-- A name is taken up to the blank after it. -/
theorem inside?_name {name : String} (hname : IsName name) (previous : Char) (rest : List Char) :
    inside? previous (name.toList ++ ' ' :: rest) = some (.name, name.toList) := by
  obtain ⟨first, others, hchars, hfirst⟩ := hname.start
  obtain ⟨-, -, hdigit, hblank⟩ := tables_of_isNameStart hfirst
  have hword : (name.toList ++ ' ' :: rest).takeWhile Unicode.isWord = name.toList := by
    rw [List.takeWhile_append_of_pos hname.word, List.takeWhile_cons_of_neg (by decide +kernel),
      List.append_nil]
  have hfound : name? (name.toList ++ ' ' :: rest) = some name.toList := by
    rw [name?, hword]
    simp [hchars]
  have hblanks : (name.toList ++ ' ' :: rest).takeWhile Unicode.isBlank = [] := by
    rw [hchars, List.cons_append, List.takeWhile_cons_of_neg (by simp [hblank])]
  have hfloat : float? previous (name.toList ++ ' ' :: rest) = none := by
    rw [hchars, List.cons_append, float?_eq_none hdigit]
  have hinteger : integer? (name.toList ++ ' ' :: rest) = none := by
    rw [hchars, List.cons_append, integer?_eq_none hfirst]
  rw [inside?, hblanks, hfloat, hinteger, hfound]
  rfl

theorem run_of_step {state next : State} {text rest : List Char} {found : List Piece}
    (hstep : ∀ offset, step state text offset = .pieces found next rest) (length fuel : Nat) :
    run length (fuel + 1) state text =
      ⟨found ++ (run length fuel next rest).pieces, (run length fuel next rest).fault⟩ := by
  rw [run, hstep]

theorem step_outside_tag {text : List Char} (htext : '{' ∉ text) (line : Nat) (previous : Char)
    (body : List Char) (offset : Nat) :
    step ⟨.outside, [], line, previous⟩ (text ++ '{' :: '{' :: ' ' :: body) offset =
      .pieces
        (pieceUnlessEmpty line .data text ++ [⟨line + newlines text, .variableBegin, ['{', '{']⟩])
        ⟨.tag false, [], line + newlines text, '{'⟩ (' ' :: body) := by
  have hkept : stripBefore [] text = text := if_neg (by decide)
  simp [step, stepOutside, seek_openMark?_tag htext, hkept, newlines, lastOf]

/-- Inside a tag that does not close yet, what is found there is taken. -/
theorem step_tag {isBlock : Bool} {previous : Char} {rest found : List Char} {kind : PieceKind}
    (hopen : closeTag? isBlock [] (found ++ rest) = none)
    (hfound : inside? previous (found ++ rest) = some (kind, found)) (hkind : kind ≠ .operator)
    (line offset : Nat) :
    step ⟨.tag isBlock, [], line, previous⟩ (found ++ rest) offset =
      .pieces [⟨line, kind, found⟩]
        ⟨.tag isBlock, [], line + newlines found, lastOf ' ' found⟩ rest := by
  unfold step stepTag
  simp only [hopen, hfound, if_neg hkind, List.drop_left]

theorem closeTag?_print_eq_none {c : Char} (hbrace : c ≠ '}') (hminus : c ≠ '-')
    (rest : List Char) : closeTag? false [] (c :: rest) = none := by
  have hclose : closeVariable? (c :: rest) = none := by
    unfold closeVariable?
    split <;> simp_all
  exact hclose

theorem newlines_name {name : String} (hname : IsName name) : newlines name.toList = 0 := by
  rw [newlines, List.count_eq_zero]
  intro hmem
  exact absurd (hname.word '\n' hmem) (by decide +kernel)

/-- What a word has to be like to be read as one piece of a print. -/
structure IsWord (kind : PieceKind) (word : String) : Prop where
  start : ∃ first rest, word.toList = first :: rest ∧ Unicode.isBlank first = false ∧
    first ≠ '}' ∧ first ≠ '-'
  found : ∀ rest, inside? ' ' (word.toList ++ ' ' :: rest) = some (kind, word.toList)
  oneLine : newlines word.toList = 0
  notOperator : kind ≠ .operator

theorem isWord_name {name : String} (hname : IsName name) : IsWord .name name := by
  obtain ⟨first, more, hchars, hfirst⟩ := hname.start
  obtain ⟨-, -, -, hblank⟩ := tables_of_isNameStart hfirst
  obtain ⟨-, -, hbrace, hminus⟩ := ne_of_isNameStart hfirst
  exact ⟨⟨first, more, hchars, hblank, hbrace, hminus⟩, inside?_name hname ' ', newlines_name hname,
    by decide⟩

/-- A print is read in five steps: its opening mark with the literal text before it, a blank, the word,
a blank, and its closing mark. -/
theorem run_word {text : List Char} {kind : PieceKind} {word : String} (htext : '{' ∉ text)
    (hword : IsWord kind word) (rest : List Char) (length fuel line : Nat) (previous : Char) :
    let here := line + newlines text
    let others := run length fuel ⟨.outside, [], here, '}'⟩ rest
    run length (fuel + 5) ⟨.outside, [], line, previous⟩ (text ++ (tag word ++ rest)) =
      ⟨pieceUnlessEmpty line .data text ++
        ⟨here, .variableBegin, ['{', '{']⟩ :: ⟨here, .whitespace, [' ']⟩ ::
          ⟨here, kind, word.toList⟩ :: ⟨here, .whitespace, [' ']⟩ ::
            ⟨here, .variableEnd, ['}', '}']⟩ :: others.pieces, others.fault⟩ := by
  intro here others
  obtain ⟨first, more, hchars, hblank, hbrace, hminus⟩ := hword.start
  -- One fact for each step; where it stands in the source does not matter to any of them.
  have hopening (offset : Nat) := step_outside_tag htext line previous
    (word.toList ++ (' ' :: '}' :: '}' :: rest)) offset
  have hbefore (offset : Nat) :
      step ⟨.tag false, [], here, '{'⟩ ([' '] ++ (word.toList ++ ' ' :: '}' :: '}' :: rest)) offset =
        .pieces [⟨here, .whitespace, [' ']⟩] ⟨.tag false, [], here, ' '⟩
          (word.toList ++ ' ' :: '}' :: '}' :: rest) := by
    refine step_tag ?_ ?_ (by decide) here offset
    · exact closeTag?_print_eq_none (c := ' ') (by decide) (by decide) _
    · rw [hchars]
      exact inside?_blank hblank _ _
  have hpiece (offset : Nat) :
      step ⟨.tag false, [], here, ' '⟩ (word.toList ++ ' ' :: '}' :: '}' :: rest) offset =
        .pieces [⟨here, kind, word.toList⟩]
          ⟨.tag false, [], here + newlines word.toList, lastOf ' ' word.toList⟩
          (' ' :: '}' :: '}' :: rest) := by
    refine step_tag ?_ (hword.found _) hword.notOperator here offset
    rw [hchars]
    exact closeTag?_print_eq_none hbrace hminus _
  have hafter (last : Char) (offset : Nat) :
      step ⟨.tag false, [], here, last⟩ ([' '] ++ '}' :: '}' :: rest) offset =
        .pieces [⟨here, .whitespace, [' ']⟩] ⟨.tag false, [], here, ' '⟩ ('}' :: '}' :: rest) :=
    step_tag (closeTag?_print_eq_none (c := ' ') (by decide) (by decide) _)
      (inside?_blank (by decide) _ _) (by decide) here offset
  have hclosing (offset : Nat) : step ⟨.tag false, [], here, ' '⟩ ('}' :: '}' :: rest) offset =
      .pieces [⟨here, .variableEnd, ['}', '}']⟩] ⟨.outside, [], here, '}'⟩ rest := rfl
  simp only [List.singleton_append] at hbefore hafter
  simp only [hword.oneLine, Nat.add_zero] at hpiece
  have hsource : text ++ (tag word ++ rest) =
      text ++ '{' :: '{' :: ' ' :: (word.toList ++ ' ' :: '}' :: '}' :: rest) := by
    simp [tag]
  rw [hsource, run_of_step hopening, run_of_step hbefore, run_of_step hpiece, run_of_step (hafter _),
    run_of_step hclosing, List.append_assoc]
  rfl

theorem run_nil (length fuel line : Nat) (previous : Char) :
    run length fuel ⟨.outside, [], line, previous⟩ [] = ⟨[], none⟩ := by
  cases fuel <;> rfl

/-- Literal text up to the end is one piece. -/
theorem run_last {text : List Char} (htext : '{' ∉ text) (length fuel line : Nat)
    (previous : Char) :
    run length (fuel + 1) ⟨.outside, [], line, previous⟩ text =
      ⟨pieceUnlessEmpty line .data text, none⟩ := by
  cases text with
  | nil => exact run_nil length (fuel + 1) line previous
  | cons c rest =>
      have hstep (offset : Nat) : step ⟨.outside, [], line, previous⟩ (c :: rest) offset =
          .pieces [⟨line, .data, c :: rest⟩]
            ⟨.outside, [], line + newlines (c :: rest), lastOf ' ' (c :: rest)⟩ [] := by
        rw [step]
        simp only
        rw [stepOutside, seek_openMark?_eq_none htext]
        rfl
      rw [run_of_step hstep, run_nil]
      rfl

end Lexer

/-! ### Tokens -/

namespace Alternation

/-- The token of literal text; empty text makes none. -/
def dataTokens (line : Nat) (text : List Char) : List Token :=
  if text.isEmpty then [] else [⟨line, .data (String.ofList text)⟩]

/-- The tokens of a template from a line on. -/
def tokens (line : Nat) : Alternation → List Token
  | last text => dataTokens line text
  | print text name rest =>
    let here := line + Lexer.newlines text
    dataTokens line text ++ ⟨here, .variableBegin⟩ :: ⟨here, .name name⟩ ::
      ⟨here, .variableEnd⟩ :: rest.tokens here

theorem tokensOf_data {text : List Char} (hcr : '\r' ∉ text) (line : Nat) (pieces : List Piece)
    (ending : Option (Nat × LexicalFault)) :
    tokensOf ending (Lexer.pieceUnlessEmpty line .data text ++ pieces) =
      ⟨dataTokens line text ++ (tokensOf ending pieces).tokens, (tokensOf ending pieces).fault⟩ := by
  unfold Lexer.pieceUnlessEmpty dataTokens
  cases text with
  | nil => rfl
  | cons c rest =>
      have hlexeme : (Piece.mk line .data (c :: rest)).lexeme? =
          .ok (some (.data (String.ofList (c :: rest)))) := by
        rw [Piece.lexeme?]
        simp only [Text.unify_eq_self hcr]
      simp [tokensOf, hlexeme]

/-- The line at which the text after the last print of a template ends. -/
def lastLine (line : Nat) : Alternation → Nat
  | last text => line + Lexer.newlines text
  | print text _ rest => rest.lastLine (line + Lexer.newlines text)

/-- After literal text with unified line ends, what follows makes tokens that depend on its line. -/
def Continues (tail : List Char) (after : Nat → List Token) : Prop :=
  ∀ (text : List Char) (fuel length line : Nat) (previous : Char),
    '{' ∉ text → '\r' ∉ text → (text ++ tail).length < fuel →
      let lexed := Lexer.run length fuel ⟨.outside, [], line, previous⟩ (text ++ tail)
      tokensOf lexed.fault lexed.pieces =
        ⟨dataTokens line text ++ after (line + Lexer.newlines text), none⟩

theorem continues_nil : Continues [] fun _ => [] := by
  intro text fuel length line previous htext hcr hfuel
  obtain ⟨fuel, rfl⟩ := Nat.exists_eq_add_of_lt (Nat.zero_lt_of_lt hfuel)
  have hdata := tokensOf_data hcr line [] none
  rw [List.append_nil] at hdata
  simp only [List.append_nil, Nat.zero_add, Lexer.run_last htext, hdata]
  simp [tokensOf]

/-- The tokens of a template whose line ends are unified, and of what follows it. -/
theorem tokensOf_run_append {alternation : Alternation} (hformed : alternation.WellFormed)
    (hcr : '\r' ∉ alternation.source) {tail : List Char} {after : Nat → List Token}
    (htail : Continues tail after) {fuel : Nat}
    (hfuel : (alternation.source ++ tail).length < fuel) (length line : Nat) (previous : Char) :
    let lexed :=
      Lexer.run length fuel ⟨.outside, [], line, previous⟩ (alternation.source ++ tail)
    tokensOf lexed.fault lexed.pieces =
      ⟨alternation.tokens line ++ after (alternation.lastLine line), none⟩ := by
  induction alternation generalizing fuel line previous with
  | last text => exact htail text fuel length line previous hformed hcr hfuel
  | print text name rest ih =>
      obtain ⟨htext, hname, -, hrest⟩ := hformed
      have hidentifier := isName_of_isAsciiName hname
      rw [source, List.mem_append, List.mem_append, not_or, not_or] at hcr
      have hlong : (rest.source ++ tail).length + 5 < fuel := by
        simp only [source, tag, List.length_append, List.length_cons] at hfuel ⊢
        omega
      -- The lexer needs five steps for the print, and the tag has more characters than that.
      obtain ⟨fuel, rfl⟩ := Nat.exists_eq_add_of_le (by omega : 5 ≤ fuel)
      have hothers := ih hrest hcr.2.2 (by omega : (rest.source ++ tail).length < fuel)
        (line + Lexer.newlines text) '}'
      have hlexeme (here : Nat) : (Piece.mk here .name name.toList).lexeme? =
          .ok (some (.name name)) := by
        rw [Piece.lexeme?]
        simp only [hidentifier.identifier, if_true, String.ofList_toList]
      have hsource : (print text name rest).source ++ tail =
          text ++ (tag name ++ (rest.source ++ tail)) := by
        simp only [source, List.append_assoc]
      simp only [hsource, Nat.add_comm 5 fuel, Lexer.run_word htext (Lexer.isWord_name hidentifier),
        tokensOf_data hcr.1]
      simp only [tokensOf, hlexeme, hothers, tokens, lastLine, List.append_assoc, List.cons_append]
      rfl

/-- The tokens of a template whose line ends are unified. -/
theorem tokensOf_run {alternation : Alternation} (hformed : alternation.WellFormed)
    (hcr : '\r' ∉ alternation.source) {fuel : Nat} (hfuel : alternation.source.length < fuel)
    (length line : Nat) (previous : Char) :
    let lexed := Lexer.run length fuel ⟨.outside, [], line, previous⟩ alternation.source
    tokensOf lexed.fault lexed.pieces = ⟨alternation.tokens line, none⟩ := by
  have hrun := tokensOf_run_append hformed hcr continues_nil (by rwa [List.append_nil]) length line
    previous
  rwa [List.append_nil, List.append_nil] at hrun

/-! ### Settled alternations -/

theorem cr_notMem_tag {name : String} (hname : IsName name) : '\r' ∉ tag name := by
  have hcr : '\r' ∉ name.toList := fun hmem =>
    absurd (hname.word '\r' hmem) (by decide +kernel)
  simp [tag, hcr]

/-- There is no line end in a tag, so none reaches across it. -/
theorem unify_tag {name : String} (hname : IsName name) (text rest : List Char) :
    Text.unify (text ++ (tag name ++ rest)) =
      Text.normalize text ++ (tag name ++ Text.unify rest) := by
  rw [← Text.unify_append (cr_notMem_tag hname), ← Text.unify_eq_normalize]
  exact Text.unify_append_cons (by decide) text _

/-- The lexer works on the source of the settled alternation. -/
theorem lexerSource_source {alternation : Alternation} (hformed : alternation.WellFormed) :
    lexerSource alternation.source = alternation.settled.source := by
  induction alternation with
  | last text => rw [lexerSource, source, Text.unify_eq_normalize, settled, source]
  | print text name rest ih =>
      obtain ⟨-, hname, -, hrest⟩ := hformed
      have hbrace (more : List Char) : Text.normalize text ++ (tag name ++ more) =
          (Text.normalize text ++ '{' :: '{' :: ' ' :: (name.toList ++ [' ', '}'])) ++ '}' :: more := by
        simp [tag]
      rw [lexerSource, source, unify_tag (isName_of_isAsciiName hname), hbrace,
        Text.dropFinalNewline_append_cons (by decide), ← hbrace, settled, source, ← ih hrest,
        lexerSource]

theorem cr_notMem_settled {alternation : Alternation} (hformed : alternation.WellFormed) :
    '\r' ∉ alternation.settled.source := by
  rw [← lexerSource_source hformed]
  exact fun hmem => Text.cr_notMem_unify _ (Text.dropFinalNewline_subset _ hmem)

theorem brace_notMem_normalize {text : List Char} (htext : '{' ∉ text) :
    '{' ∉ Text.normalize text := by
  rw [← Text.unify_eq_normalize]
  fun_induction Text.unify text with
  | case1 rest ih => simp_all
  | case2 rest _ ih => simp_all
  | case3 c rest _ _ ih => simp_all
  | case4 => exact htext

theorem wellFormed_settled {alternation : Alternation} (hformed : alternation.WellFormed) :
    alternation.settled.WellFormed := by
  induction alternation with
  | last text =>
      exact fun hmem => brace_notMem_normalize hformed (Text.dropFinalNewline_subset _ hmem)
  | print text name rest ih =>
      obtain ⟨htext, hname, hreserved, hrest⟩ := hformed
      exact ⟨brace_notMem_normalize htext, hname, hreserved, ih hrest⟩

theorem names_settled (alternation : Alternation) :
    alternation.settled.names = alternation.names := by
  induction alternation with
  | last text => rfl
  | print text name rest ih => rw [settled, names, names, ih]

/-- The tokens of a source are those of its settled alternation. -/
theorem tokenize_source {alternation : Alternation} (hformed : alternation.WellFormed) :
    tokenize alternation.source = ⟨alternation.settled.tokens 1, none⟩ := by
  rw [tokenize, lex, lexerSource_source hformed]
  exact tokensOf_run (wellFormed_settled hformed) (cr_notMem_settled hformed)
    (Nat.lt_succ_self _) _ 1 ' '

end Alternation

end TemplateWorkbench.Template
