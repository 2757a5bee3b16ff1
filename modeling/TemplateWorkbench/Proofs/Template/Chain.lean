import TemplateWorkbench.Proofs.Template.AlternationTree

/-!
# Chains of templates

A template may go on with another one: it includes it in place, or it extends it.  In a *chain* every
template but the last one has literal text and prints of its own and then goes on with the next one, which
it names in a tag.  This file follows such a template through the lexer and the grammar: to the tree of its
own part comes one statement at the line where that part ends.

Unlike at the end of a source, a line feed before the tag is kept, so that a part is only *unified* and not
settled if something comes after it.
-/

namespace TemplateWorkbench.Template

/-- How a template goes on with another one. -/
inductive Reference where
  | inclusion
  | extension
deriving DecidableEq, Repr

namespace Reference

/-- The word of the tag. -/
def word : Reference → String
  | inclusion => "include"
  | extension => "extends"

/-- A name in quotes. -/
def quoted (name : String) : String := String.ofList ('"' :: (name.toList ++ ['"']))

/-- The tag that goes on with the template of a name. -/
def tag (reference : Reference) (name : String) : List Char :=
  '{' :: '%' :: ' ' :: (reference.word.toList ++ ' ' :: ((quoted name).toList ++ [' ', '%', '}']))

/-- The statement that goes on with the template of a name. -/
def statement (line : Nat) (name : String) : Reference → Statement
  | inclusion => .includeFrom line (.const line (.string name)) true false
  | extension => .extend line (.const line (.string name))

end Reference

/-- Whether a character stands for itself in quotes. -/
def isQuotable (c : Char) : Bool :=
  decide (c.toNat < 128) && c != '"' && c != '\\' && c != '\n' && c != '\r'

/-- Templates, each of which goes on with the next one after a part of its own. -/
inductive Chain where
  | last (name : String) (part : Alternation)
  | link (name : String) (part : Alternation) (reference : Reference) (rest : Chain)
deriving DecidableEq, Repr

namespace Chain

/-- The name of the first template. -/
def name : Chain → String
  | last name _ | link name _ _ _ => name

/-- The names of the templates. -/
def names : Chain → List String
  | last name _ => [name]
  | link name _ _ rest => name :: rest.names

/-- The source of the first template. -/
def source : Chain → List Char
  | last _ part => part.source
  | link _ part reference rest => part.source ++ reference.tag rest.name

/-- The sources of the templates under their names. -/
def sources : Chain → List (String × String)
  | last name part => [(name, String.ofList part.source)]
  | link name part reference rest =>
    (name, String.ofList (part.source ++ reference.tag rest.name)) :: rest.sources

/-- Every part is well-formed, and the names in the tags can be quoted as they are. -/
def WellFormed : Chain → Prop
  | last _ part => part.WellFormed
  | link _ part _ rest =>
    part.WellFormed ∧ (rest.name.toList.all isQuotable) = true ∧ rest.WellFormed

instance decidableWellFormed : (chain : Chain) → Decidable chain.WellFormed
  | last _ part => inferInstanceAs (Decidable part.WellFormed)
  | link _ part _ rest =>
    have := decidableWellFormed rest
    inferInstanceAs (Decidable
      (part.WellFormed ∧ (rest.name.toList.all isQuotable) = true ∧ rest.WellFormed))

end Chain

/-! ### The lexer on a reference -/

namespace Lexer

open Alternation Reference

theorem mem_quotable {name : String} (hname : (name.toList.all isQuotable) = true) {c : Char}
    (hc : c ∈ name.toList) :
    c.toNat < 128 ∧ c ≠ '"' ∧ c ≠ '\\' ∧ c ≠ '\n' ∧ c ≠ '\r' := by
  have hquotable := List.all_eq_true.mp hname c hc
  simpa [isQuotable, and_assoc] using hquotable

theorem quotedRest?_eq {text : List Char} (htext : ∀ c ∈ text, c ≠ '"' ∧ c ≠ '\\') (rest : List Char) :
    quotedRest? '"' (text ++ '"' :: rest) = some (text ++ ['"']) := by
  induction text with
  | nil => rfl
  | cons c others ih =>
      obtain ⟨hquote, hescape⟩ := htext c List.mem_cons_self
      have hothers := ih fun d hd => htext d (List.mem_cons_of_mem c hd)
      rw [List.cons_append, quotedRest?, if_neg hquote, if_neg hescape, hothers]
      · rfl
      · exact fun _ _ hfirst _ => hescape hfirst

/-- A name in quotes is one piece. -/
theorem isWord_quoted {name : String} (hname : (name.toList.all isQuotable) = true) :
    IsWord .string (quoted name) := by
  have hchars : (quoted name).toList = '"' :: (name.toList ++ ['"']) := String.toList_ofList
  refine ⟨⟨'"', name.toList ++ ['"'], hchars, by decide, by decide, by decide⟩, fun rest => ?_, ?_,
    by decide⟩
  -- The quote begins nothing that is looked for before a text.
  · have hrest := quotedRest?_eq (fun c hc => ⟨(mem_quotable hname hc).2.1,
      (mem_quotable hname hc).2.2.1⟩) (' ' :: rest)
    have hstring : string? ('"' :: (name.toList ++ '"' :: ' ' :: rest)) =
        some ('"' :: (name.toList ++ ['"'])) := by
      rw [string?, hrest]
      rfl
    have hblanks : ('"' :: (name.toList ++ '"' :: ' ' :: rest)).takeWhile Unicode.isBlank = [] :=
      List.takeWhile_cons_of_neg (by decide)
    have hfloat := float?_eq_none (c := '"') (by decide) ' ' (name.toList ++ '"' :: ' ' :: rest)
    have hinteger : integer? ('"' :: (name.toList ++ '"' :: ' ' :: rest)) = none := rfl
    have hword : name? ('"' :: (name.toList ++ '"' :: ' ' :: rest)) = none := by
      rw [name?, List.takeWhile_cons_of_neg (by decide +kernel)]
      rfl
    rw [hchars, List.cons_append, List.append_assoc, List.singleton_append, inside?, hblanks,
      hfloat, hinteger, hword, hstring]
    rfl
  · rw [hchars, newlines, List.count_eq_zero]
    intro hmem
    rcases List.mem_cons.mp hmem with hquote | hmem
    · exact absurd hquote (by decide)
    · rcases List.mem_append.mp hmem with hinner | hquote
      · exact (mem_quotable hname hinner).2.2.2.1 rfl
      · exact absurd (List.mem_singleton.mp hquote) (by decide)

theorem isName_word (reference : Reference) : IsName reference.word := by
  cases reference
  all_goals exact isName_of_isAsciiName (by decide)

/-- The first tag after literal text is the one that follows it. -/
theorem seek_openMark?_reference {text : List Char} (htext : '{' ∉ text) (reference : Reference)
    (name : String) :
    seek openMark? (text ++ reference.tag name) =
      some (text, ⟨.block, [], ['{', '%'],
        ' ' :: (reference.word.toList ++ ' ' :: ((quoted name).toList ++ [' ', '%', '}']))⟩) := by
  induction text with
  | nil => cases reference <;> rfl
  | cons c rest ih =>
      rw [List.mem_cons, not_or] at htext
      rw [List.cons_append, seek, openMark?_eq_none (Ne.symm htext.1), ih htext.2]
      rfl

theorem step_outside_reference {text : List Char} (htext : '{' ∉ text) (reference : Reference)
    (name : String) (line : Nat) (previous : Char) (offset : Nat) :
    step ⟨.outside, [], line, previous⟩ (text ++ reference.tag name) offset =
      .pieces
        (pieceUnlessEmpty line .data text ++ [⟨line + newlines text, .blockBegin, ['{', '%']⟩])
        ⟨.tag true, [], line + newlines text, '%'⟩
        (' ' :: (reference.word.toList ++ ' ' :: ((quoted name).toList ++ [' ', '%', '}']))) := by
  have hkept : stripBefore [] text = text := if_neg (by decide)
  simp [step, stepOutside, seek_openMark?_reference htext, hkept, newlines, lastOf]

theorem closeTag?_block_eq_none {c : Char} (hpercent : c ≠ '%') (hplus : c ≠ '+') (hminus : c ≠ '-')
    (rest : List Char) : closeTag? true [] (c :: rest) = none := by
  have hclose : closeBlock? (c :: rest) = none := by
    unfold closeBlock?
    split <;> simp_all
  exact hclose

theorem step_blank_block {c : Char} (hc : Unicode.isBlank c = false) (line : Nat) (previous : Char)
    (rest : List Char) (offset : Nat) :
    step ⟨.tag true, [], line, previous⟩ (' ' :: c :: rest) offset =
      .pieces [⟨line, .whitespace, [' ']⟩] ⟨.tag true, [], line, ' '⟩ (c :: rest) := by
  have hstep : step ⟨.tag true, [], line, previous⟩ ([' '] ++ c :: rest) offset =
      .pieces [⟨line, .whitespace, [' ']⟩] ⟨.tag true, [], line, ' '⟩ (c :: rest) :=
    step_tag (closeTag?_block_eq_none (c := ' ') (by decide) (by decide) (by decide) _)
      (inside?_blank hc previous rest) (by decide) line offset
  exact hstep

/-- Inside a statement tag, a word that does not begin like the end of the tag is taken. -/
theorem step_word_block {kind : PieceKind} {word : String} (hword : IsWord kind word)
    (hopen : ∀ c, word.toList.head? = some c → c ≠ '%' ∧ c ≠ '+') (line : Nat) (rest : List Char)
    (offset : Nat) :
    step ⟨.tag true, [], line, ' '⟩ (word.toList ++ ' ' :: rest) offset =
      .pieces [⟨line, kind, word.toList⟩] ⟨.tag true, [], line, lastOf ' ' word.toList⟩
        (' ' :: rest) := by
  obtain ⟨first, more, hchars, -, -, hminus⟩ := hword.start
  obtain ⟨hpercent, hplus⟩ := hopen first (by rw [hchars]; rfl)
  have hclose : closeTag? true [] (word.toList ++ ' ' :: rest) = none := by
    rw [hchars]
    exact closeTag?_block_eq_none hpercent hplus hminus _
  have hstep := step_tag hclose (hword.found rest) hword.notOperator line offset
  rwa [hword.oneLine, Nat.add_zero] at hstep

theorem word_opens (reference : Reference) (c : Char)
    (hc : reference.word.toList.head? = some c) : c ≠ '%' ∧ c ≠ '+' := by
  cases reference
  all_goals
    cases hc
    decide

theorem quoted_opens (name : String) (c : Char) (hc : (quoted name).toList.head? = some c) :
    c ≠ '%' ∧ c ≠ '+' := by
  rw [quoted, String.toList_ofList] at hc
  cases hc
  decide

/-- A reference is read in seven steps: its opening mark with the literal text before it, the word and the
quoted name with blanks around them, and its closing mark. -/
theorem run_reference {text : List Char} (htext : '{' ∉ text) (reference : Reference) {name : String}
    (hname : (name.toList.all isQuotable) = true) (length fuel line : Nat) (previous : Char) :
    let here := line + newlines text
    run length (fuel + 7) ⟨.outside, [], line, previous⟩ (text ++ reference.tag name) =
      ⟨pieceUnlessEmpty line .data text ++
        [⟨here, .blockBegin, ['{', '%']⟩, ⟨here, .whitespace, [' ']⟩,
          ⟨here, .name, reference.word.toList⟩, ⟨here, .whitespace, [' ']⟩,
          ⟨here, .string, (quoted name).toList⟩, ⟨here, .whitespace, [' ']⟩,
          ⟨here, .blockEnd, ['%', '}']⟩], none⟩ := by
  intro here
  obtain ⟨first, more, hchars, hblank, -, -⟩ := (isWord_name (isName_word reference)).start
  have hquoted : (quoted name).toList = '"' :: (name.toList ++ ['"']) := String.toList_ofList
  -- One fact for each of the seven steps, in the order of the source.
  have hopening (offset : Nat) := step_outside_reference htext reference name line previous offset
  have hbeforeWord (offset : Nat) :
      step ⟨.tag true, [], here, '%'⟩
          (' ' :: (reference.word.toList ++ ' ' :: ((quoted name).toList ++ [' ', '%', '}']))) offset =
        .pieces [⟨here, .whitespace, [' ']⟩] ⟨.tag true, [], here, ' '⟩
          (reference.word.toList ++ ' ' :: ((quoted name).toList ++ [' ', '%', '}'])) := by
    rw [hchars]
    exact step_blank_block hblank here '%' _ offset
  have hword (offset : Nat) := step_word_block (isWord_name (isName_word reference))
    (word_opens reference) here ((quoted name).toList ++ [' ', '%', '}']) offset
  have hbeforeName (last : Char) (offset : Nat) :
      step ⟨.tag true, [], here, last⟩ (' ' :: ((quoted name).toList ++ [' ', '%', '}'])) offset =
        .pieces [⟨here, .whitespace, [' ']⟩] ⟨.tag true, [], here, ' '⟩
          ((quoted name).toList ++ [' ', '%', '}']) := by
    rw [hquoted]
    exact step_blank_block (by decide) here last _ offset
  have hname (offset : Nat) := step_word_block (isWord_quoted hname) (quoted_opens name) here
    ['%', '}'] offset
  have hafter (last : Char) (offset : Nat) := step_blank_block (c := '%') (by decide) here last ['}']
    offset
  have hclosing (offset : Nat) : step ⟨.tag true, [], here, ' '⟩ ['%', '}'] offset =
      .pieces [⟨here, .blockEnd, ['%', '}']⟩] ⟨.outside, [], here, '}'⟩ [] := rfl
  rw [run_of_step hopening, run_of_step hbeforeWord, run_of_step hword, run_of_step (hbeforeName _),
    run_of_step hname, run_of_step (hafter _), run_of_step hclosing, run_nil]
  simp only [List.append_assoc, List.singleton_append]
  rfl

end Lexer

/-! ### Tokens -/

namespace Chain

open Alternation Reference

/-- The tokens of a reference. -/
def referenceTokens (reference : Reference) (name : String) (line : Nat) : List Token :=
  [⟨line, .blockBegin⟩, ⟨line, .name reference.word⟩, ⟨line, .string name⟩, ⟨line, .blockEnd⟩]

theorem asciiEscaped_eq_self {text : List Char} (htext : ∀ c ∈ text, c.toNat < 128) :
    asciiEscaped text = text := by
  induction text with
  | nil => rfl
  | cons c rest ih =>
      have hrest := ih fun d hd => htext d (List.mem_cons_of_mem c hd)
      unfold asciiEscaped at hrest ⊢
      rw [List.flatMap_cons, hrest, if_pos (htext c List.mem_cons_self), List.singleton_append]

theorem unescape_eq_self {text : List Char} (htext : '\\' ∉ text) : unescape text = .ok text := by
  induction text with
  | nil => rw [unescape]
  | cons c rest ih =>
      rw [List.mem_cons, not_or] at htext
      rw [unescape, ih htext.2]
      · rfl
      · exact fun hc _ => htext.1 hc.symm
      · exact fun _ _ hc _ => htext.1 hc.symm

theorem textLiteral_quoted {name : String} (hname : (name.toList.all isQuotable) = true) :
    textLiteral (((quoted name).toList.drop 1).dropLast) = .ok name := by
  have hinside : ((quoted name).toList.drop 1).dropLast = name.toList := by
    rw [quoted, String.toList_ofList, List.drop_succ_cons, List.drop_zero, List.dropLast_concat]
  have hcr : '\r' ∉ name.toList := fun hmem => (Lexer.mem_quotable hname hmem).2.2.2.2 rfl
  have hescape : '\\' ∉ name.toList := fun hmem => (Lexer.mem_quotable hname hmem).2.2.1 rfl
  rw [hinside, textLiteral, Text.unify_eq_self hcr,
    asciiEscaped_eq_self fun c hc => (Lexer.mem_quotable hname hc).1, unescape_eq_self hescape]
  exact congrArg Except.ok String.ofList_toList

theorem continues_reference (reference : Reference) {name : String}
    (hname : (name.toList.all isQuotable) = true) :
    Continues (reference.tag name) (referenceTokens reference name) := by
  intro text fuel length line previous htext hcr hfuel
  obtain ⟨fuel, rfl⟩ : ∃ rest, fuel = rest + 7 := by
    refine ⟨fuel - 7, ?_⟩
    simp only [Reference.tag, List.length_append, List.length_cons] at hfuel
    omega
  have hword (here : Nat) : (Piece.mk here .name reference.word.toList).lexeme? =
      .ok (some (.name reference.word)) := by
    rw [Piece.lexeme?]
    simp only [(Lexer.isName_word reference).identifier, if_true, String.ofList_toList]
  have hliteral (here : Nat) : (Piece.mk here .string (quoted name).toList).lexeme? =
      .ok (some (.string name)) := by
    rw [Piece.lexeme?]
    simp only [textLiteral_quoted hname]
    rfl
  simp only [Lexer.run_reference htext reference hname, tokensOf_data hcr]
  simp only [tokensOf, hword, hliteral]
  rfl

end Chain

/-! ### Unified alternations -/

namespace Alternation

/-- The literal texts with their line ends unified, where something comes after the last one. -/
def unified : Alternation → Alternation
  | last text => last (Text.normalize text)
  | print text name rest => print (Text.normalize text) name rest.unified

theorem wellFormed_unified {alternation : Alternation} (hformed : alternation.WellFormed) :
    alternation.unified.WellFormed := by
  induction alternation with
  | last text => exact brace_notMem_normalize hformed
  | print text name rest ih =>
      obtain ⟨htext, hname, hreserved, hrest⟩ := hformed
      exact ⟨brace_notMem_normalize htext, hname, hreserved, ih hrest⟩

theorem names_unified (alternation : Alternation) :
    alternation.unified.names = alternation.names := by
  induction alternation with
  | last text => rfl
  | print text name rest ih => rw [unified, names, names, ih]

theorem cr_notMem_unified {alternation : Alternation} (hformed : alternation.WellFormed) :
    '\r' ∉ alternation.unified.source := by
  induction alternation with
  | last text => exact Text.cr_notMem_normalize text
  | print text name rest ih =>
      obtain ⟨-, hname, -, hrest⟩ := hformed
      have hcr := cr_notMem_tag (isName_of_isAsciiName hname)
      simp only [unified, source, List.mem_append, not_or]
      exact ⟨Text.cr_notMem_normalize text, hcr, ih hrest⟩

/-- Line ends are unified in an alternation alone if none can reach into what follows it. -/
theorem unify_source_append {alternation : Alternation} (hformed : alternation.WellFormed) {c : Char}
    {tail : List Char} (hc : c ≠ '\n') (htail : '\r' ∉ c :: tail) :
    Text.unify (alternation.source ++ c :: tail) = alternation.unified.source ++ c :: tail := by
  induction alternation with
  | last text =>
      rw [source, unified, source, Text.unify_append_cons hc, Text.unify_eq_normalize text,
        Text.unify_eq_self htail]
  | print text name rest ih =>
      obtain ⟨-, hname, -, hrest⟩ := hformed
      simp only [source, unified, List.append_assoc, unify_tag (isName_of_isAsciiName hname), ih hrest]

end Alternation

namespace Chain

open Alternation Grammar Reference

theorem cr_notMem_reference (reference : Reference) {name : String}
    (hname : (name.toList.all isQuotable) = true) : '\r' ∉ reference.tag name := by
  have hcr : '\r' ∉ name.toList := fun hmem => (Lexer.mem_quotable hname hmem).2.2.2.2 rfl
  have hword : '\r' ∉ reference.word.toList := by cases reference <;> decide
  simp [Reference.tag, quoted, hcr, hword]

/-- The lexer works on the source of the unified alternation with the reference after it. -/
theorem lexerSource_reference {part : Alternation} (hpart : part.WellFormed) (reference : Reference)
    {name : String} (hname : (name.toList.all isQuotable) = true) :
    lexerSource (part.source ++ reference.tag name) = part.unified.source ++ reference.tag name := by
  have hunify : Text.unify (part.source ++ reference.tag name) =
      part.unified.source ++ reference.tag name :=
    unify_source_append hpart (by decide) (cr_notMem_reference reference hname)
  have hbrace : part.unified.source ++ reference.tag name =
      (part.unified.source ++ '{' :: '%' :: ' ' ::
        (reference.word.toList ++ ' ' :: ((quoted name).toList ++ [' ', '%']))) ++ ['}'] := by
    simp [Reference.tag]
  rw [lexerSource, hunify, hbrace, Text.dropFinalNewline_append_cons (by decide)]
  rfl

theorem tokenize_reference {part : Alternation} (hpart : part.WellFormed) (reference : Reference)
    {name : String} (hname : (name.toList.all isQuotable) = true) :
    tokenize (part.source ++ reference.tag name) =
      ⟨part.unified.tokens 1 ++ referenceTokens reference name (part.unified.lastLine 1), none⟩ := by
  rw [tokenize, lex, lexerSource_reference hpart reference hname]
  exact tokensOf_run_append (wellFormed_unified hpart) (cr_notMem_unified hpart)
    (continues_reference reference hname) (Nat.lt_succ_self _) _ 1 ' '

/-! ### The tree -/

/-- The word of a reference and the name after it are read as a statement. -/
theorem reads_statement_reference (reference : Reference) (name : String) (depth : Nat)
    (around : Surroundings) (line : Nat) :
    Reads (statement (levels (depth + 1))) around
      (streamOf line [⟨line, .name reference.word⟩, ⟨line, .string name⟩, ⟨line, .blockEnd⟩])
      (reference.statement line name) (streamOf line [⟨line, .blockEnd⟩]) := by
  have hoperand : IsOperand true (levels depth) ⟨line, .string name⟩ (.const line (.string name)) :=
    isOperand_string (levels depth) name
  have hexpression (around : Surroundings) := hoperand.expression around line [] none
  cases reference with
  | inclusion =>
      have hrule (around : Surroundings) :
          Reads (includeTag (levels (depth + 1)) line) around
            (streamOf line [⟨line, .string name⟩, ⟨line, .blockEnd⟩])
            (Reference.inclusion.statement line name) (streamOf line [⟨line, .blockEnd⟩]) :=
        (hexpression around).bind rfl
      have hword : Reads (advance >>= fun _ => includeTag (levels (depth + 1)) line)
          { around with openTags := around.openTags ++ ["include"] }
          (streamOf line [⟨line, .name "include"⟩, ⟨line, .string name⟩, ⟨line, .blockEnd⟩])
          (Reference.inclusion.statement line name) (streamOf line [⟨line, .blockEnd⟩]) :=
        (reads_advance line _ _).bind (hrule _)
      exact hword
  | extension =>
      have hrule (around : Surroundings) :
          Reads (extendsTag (levels (depth + 1)) line) around
            (streamOf line [⟨line, .string name⟩, ⟨line, .blockEnd⟩])
            (Reference.extension.statement line name) (streamOf line [⟨line, .blockEnd⟩]) :=
        (hexpression around).bind rfl
      have hword : Reads (advance >>= fun _ => extendsTag (levels (depth + 1)) line)
          { around with openTags := around.openTags ++ ["extends"] }
          (streamOf line [⟨line, .name "extends"⟩, ⟨line, .string name⟩, ⟨line, .blockEnd⟩])
          (Reference.extension.statement line name) (streamOf line [⟨line, .blockEnd⟩]) :=
        (reads_advance line _ _).bind (hrule _)
      exact hword

/-- A tag with a reference closes off what has been printed so far, and its statement comes next. -/
theorem reads_bodyPart_reference (reference : Reference) (name : String) (depth : Nat)
    (around : Surroundings) (read : BodyRead) (before line : Nat) :
    Reads (bodyPart (levels (depth + 1)) [] read) around
      (streamOf before (referenceTokens reference name line))
      (some (⟨read.close ++ [reference.statement line name], []⟩, false)) (streamOf line []) := by
  have hstatement := reads_statement_reference reference name depth around line
  unfold bodyPart
  refine Reads.bind Reads.current (Reads.bind (reads_advance before _ _) ?_)
  refine Reads.bind Reads.current ?_
  have hend : Reads (expect .blockEnd) around (streamOf line [⟨line, .blockEnd⟩])
      ⟨line, .blockEnd⟩ (streamOf line []) := rfl
  rw [if_neg (by simp [isOneOf])]
  exact hstatement.bind (hend.bind rfl)

/-- The statements of a part and the reference after it. -/
def linkBody (part : Alternation) (reference : Reference) (name : String) : List Statement :=
  part.body ++ [reference.statement (part.lastLine 1) name]

theorem parse_reference {part : Alternation} (hpart : part.WellFormed) (reference : Reference)
    {name : String} (hname : (name.toList.all isQuotable) = true) :
    parse (part.source ++ reference.tag name) = .ok (linkBody part.unified reference name) := by
  let read : BodyRead := { pending := part.unified.parts 1 }
  have hclose : (BodyRead.mk (read.close ++ [reference.statement (part.unified.lastLine 1) name]) []).close =
      linkBody part.unified reference name := by
    rw [linkBody, ← close_parts]
    rfl
  rw [← hclose]
  refine parse_of_readsBody (tokenize_reference hpart reference hname) fun count hcount => ?_
  refine readsBody_tokens_append (wellFormed_unified hpart) hcount fun before count hcount => ?_
  obtain ⟨count, rfl⟩ := Nat.exists_eq_succ_of_ne_zero (Nat.ne_zero_of_lt hcount)
  obtain ⟨stop, hstop⟩ := readsBody_nil
    (levels ((part.unified.tokens 1 ++
      referenceTokens reference name (part.unified.lastLine 1)).length + 1)) ⟨[], []⟩
    (part.unified.lastLine 1)
    ⟨read.close ++ [reference.statement (part.unified.lastLine 1) name], []⟩
    (Nat.zero_lt_of_lt (Nat.lt_of_succ_lt_succ hcount))
  exact ⟨stop, repeatCounted_succ
    (reads_bodyPart_reference reference name _ ⟨[], []⟩ read before _) hstop⟩

end Chain

end TemplateWorkbench.Template
