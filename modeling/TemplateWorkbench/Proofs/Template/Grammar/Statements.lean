import TemplateWorkbench.Proofs.Template.Grammar.Expressions
import TemplateWorkbench.Proofs.Template.TokenSpans
import TemplateWorkbench.Template.Grammar.Statement

/-!
# What the rules of statements keep to

The word of a tag has been taken before the rule of the tag is asked, so these rules are good for as many
tokens as the rules one level down; a statement takes the word, and is good for one more.  From there the
rules of all levels follow by induction on the level, and what the grammar makes of a whole list of
tokens: the levels never run out.
-/

namespace TemplateWorkbench.Template.Grammar.Outlook

variable {o : Outlook} {live : Bool} {bound : Nat} {α : Type} {down : Levels}

/-! ### Targets -/

theorem gives_checkedTarget {target : Expr} (htarget : o.ReadsExpr target) :
    o.Gives live bound (checkedTarget target) o.ReadsExpr := by
  unfold checkedTarget
  split
  · exact .pure (htarget.withUse .store)
  · exact .objectAt rfl

/-- A target is read at the level of the rule that asks for it. -/
theorem gives_target (hdown : o.Supports bound down) {withAttributes : Bool} :
    o.Gives live (bound + 1) (target down withAttributes) o.ReadsExpr :=
  (gives_tupleOf (gives_primary hdown)).bind fun _ htarget => gives_checkedTarget htarget

theorem gives_nameTarget : o.Gives live bound nameTarget (fun read => o.line read.1) := by
  refine gives_expectName.bind ?_
  rintro ⟨line, id⟩ ⟨hline, -⟩
  exact (gives_checkedTarget (.name hline)).bind fun _ _ => .pure hline

/-! ### Bodies -/

/-- The body of a statement begins after the end of its tag. -/
theorem gives_bodyUntil (hdown : o.Supports bound down) {words : List String} :
    o.Gives live (bound + 1) (bodyUntil down words) o.ReadsBody := by
  have hend : Lexeme.blockEnd ≠ .finish := nofun
  refine gives_skipIf.bind fun _ _ => ?_
  refine ((takes_expect hend).bind fun _ _ => ?_).gives
  refine (hdown.body words).bind fun body hbody => ?_
  refine gives_atLexeme.bind fun atEnd _ => ?_
  dsimp only
  split
  · exact .ofRead fun around _ _ _ _ _ => .inl rfl
  · exact .pure hbody

theorem gives_bodyThrough (hdown : o.Supports bound down) {word : String} :
    o.Gives live (bound + 1) (bodyThrough down word) o.ReadsBody :=
  (gives_bodyUntil hdown).bind fun _ hbody => gives_advance.bind fun _ _ => .pure hbody

/-! ### Tags -/

theorem gives_setTag (hdown : o.Supports bound down) {line : Nat} (hline : o.line line) :
    o.Gives live bound (setTag down line) o.ReadsStatement := by
  refine (gives_target hdown).less.bind fun goal hgoal => ?_
  refine gives_skipIf.bind fun there _ => ?_
  split
  · exact (gives_tuple hdown).bind fun value hvalue => .pure (.assign hline hgoal hvalue)
  · refine (gives_filters hdown readsOptional_none).less.bind fun filter hfilter => ?_
    exact (gives_bodyThrough hdown).less.bind fun body hbody =>
      .pure (.assignBlock hline hgoal hfilter hbody)

theorem gives_forTag (hdown : o.Supports bound down) {line : Nat} (hline : o.line line) :
    o.Gives live bound (forTag down line) o.ReadsStatement := by
  refine (gives_target hdown).less.bind fun goal hgoal => ?_
  refine gives_expectWord.bind fun _ _ => ?_
  refine (gives_tuple hdown).bind fun iter hiter => ?_
  refine gives_skipIf.bind fun filtered _ => ?_
  have hrest (test : Option Expr) (htest : o.ReadsOptional test) : o.Gives false bound (do
      let isRecursive ← skipWord "recursive"
      let body ← bodyUntil down ["endfor", "else"]
      let orElse ←
        if isWord "endfor" (← advance) then pure [] else bodyThrough down "endfor"
      return .loop line goal iter test isRecursive body orElse) o.ReadsStatement := by
    refine gives_skipIf.bind fun isRecursive _ => ?_
    refine (gives_bodyUntil hdown).less.bind fun body hbody => ?_
    refine gives_advance.bind fun _ _ => ?_
    have hloop (orElse : List Statement) (horElse : o.ReadsBody orElse) :
        o.ReadsStatement (.loop line goal iter test isRecursive body orElse) :=
      .loop hline hgoal hiter htest hbody horElse
    dsimp only
    split
    · exact .pure (hloop [] nofun)
    · exact (gives_bodyThrough hdown).less.bind fun orElse horElse => .pure (hloop orElse horElse)
  dsimp only
  split
  · exact (gives_some (hdown.expression true)).bind hrest
  · exact hrest none readsOptional_none

theorem gives_clause (hdown : o.Supports bound down) {line : Nat} (hline : o.line line) :
    o.Gives live bound (clause down line) o.ReadsClause := by
  refine (gives_tuple hdown).bind fun test htest => ?_
  exact (gives_bodyUntil hdown).less.bind fun body hbody => .pure (.ofParts hline htest hbody)

theorem gives_ifTag (hdown : o.Supports bound down) {line : Nat} (hline : o.line line) :
    o.Gives live bound (ifTag down line) o.ReadsStatement := by
  refine (gives_clause hdown hline).bind fun first hfirst => ?_
  refine (gives_repeatFrom (fun state => ∀ clause ∈ state.1, o.ReadsClause clause)
    (by simp) ?_).bind ?_
  · rintro ⟨others, ending⟩ hothers
    dsimp only
    split
    · exact .pure nofun
    · refine gives_advance.bind fun word _ => ?_
      split
      · refine .ofCurrentLine fun here hhere => (gives_clause hdown hhere).bind fun other hother => ?_
        refine .pure fun _ hnext => ?_
        cases hnext
        exact forall_mem_concat hothers hother
      · refine .pure fun _ hnext => ?_
        cases hnext
        exact hothers
  · rintro ⟨others, ending⟩ hothers
    have hbranch (orElse : List Statement) (horElse : o.ReadsBody orElse) :
        o.ReadsStatement (.branch first others orElse) := .branch hfirst hothers horElse
    dsimp only
    split
    · exact (gives_bodyThrough hdown).less.bind fun orElse horElse =>
        .pure (hbranch orElse horElse)
    · exact .pure (hbranch [] nofun)

theorem gives_withTag (hdown : o.Supports bound down) {line : Nat} (hline : o.line line) :
    o.Gives live bound (withTag down line) o.ReadsStatement := by
  -- The targets and the values that have been read are carried along together.
  refine (gives_repeatFrom (fun state => (∀ target ∈ state.1, o.ReadsExpr target) ∧
    ∀ value ∈ state.2, o.ReadsExpr value) (by simp) ?_).bind ?_
  · rintro ⟨targets, values⟩ ⟨htargets, hvalues⟩
    have hmore : o.Gives false bound (do
        let goal ← target down false
        let _ ← expectOperator .assign
        return some (targets ++ [goal.withUse .param], values ++ [← down.expression true]))
        (fun next => ∀ state ∈ next, (∀ target ∈ state.1, o.ReadsExpr target) ∧
          ∀ value ∈ state.2, o.ReadsExpr value) := by
      refine (gives_target hdown).less.bind fun goal hgoal => ?_
      refine gives_expectOperator.bind fun _ _ => ?_
      refine (hdown.expression true).bind fun value hvalue => .pure fun _ hnext => ?_
      cases hnext
      exact ⟨forall_mem_concat htargets (hgoal.withUse .param), forall_mem_concat hvalues hvalue⟩
    refine gives_atLexeme.bind fun atEnd _ => ?_
    split
    · exact .pure nofun
    · dsimp only
      split
      · exact gives_expectOperator.bind fun _ _ => hmore
      · exact hmore
  · rintro ⟨targets, values⟩ ⟨htargets, hvalues⟩
    exact (gives_bodyThrough hdown).less.bind fun body hbody =>
      .pure (.bind hline htargets hvalues hbody)

theorem gives_autoescapeTag (hdown : o.Supports bound down) {line : Nat} (hline : o.line line) :
    o.Gives live bound (autoescapeTag down line) o.ReadsStatement := by
  refine (hdown.expression true).alive.bind fun option hoption => ?_
  exact (gives_bodyThrough hdown).less.bind fun body hbody => .pure (.escaping hline hoption hbody)

theorem gives_blockTag (hdown : o.Supports bound down) {line : Nat} (hline : o.line line) :
    o.Gives live bound (blockTag down line) o.ReadsStatement := by
  refine gives_expectName.bind ?_
  rintro ⟨_, id⟩ ⟨-, hid⟩
  refine gives_skipIf.bind fun seesScope _ => gives_skipIf.bind fun required _ => ?_
  refine gives_atLexeme.bind fun hyphen _ => ?_
  have hbody : o.Gives false bound (do
      let body ← bodyThrough down "endblock"
      if required && !isBlankBody body then object .requiredBlockFilled
      let _ ← skipWord id
      return .block line id body seesScope required) o.ReadsStatement := by
    refine (gives_bodyThrough hdown).less.bind fun body hbody => ?_
    dsimp only
    split
    · exact fun _ _ _ _ _ => .inl rfl
    · exact gives_skipIf.bind fun _ _ => .pure (.block hline hid hbody)
  dsimp only
  split
  · exact fun _ _ _ _ _ => .inl rfl
  · exact hbody

theorem gives_extendsTag (hdown : o.Supports bound down) {line : Nat} (hline : o.line line) :
    o.Gives live bound (extendsTag down line) o.ReadsStatement :=
  (hdown.expression true).alive.bind fun _ hparent => .pure (.extend hline hparent)

theorem gives_contextWords? : o.Gives live bound contextWords? (fun _ => True) := by
  refine .ofCurrent fun token _ => ?_
  split
  · refine .ofLookahead fun ahead => ?_
    split
    · exact gives_advance.bind fun _ _ => gives_advance.bind fun _ _ => .pure trivial
    · exact .pure trivial
  · exact .pure trivial

theorem gives_includeTag (hdown : o.Supports bound down) {line : Nat} (hline : o.line line) :
    o.Gives live bound (includeTag down line) o.ReadsStatement := by
  refine (hdown.expression true).alive.bind fun source hsource => ?_
  have hrest (ignoring : Bool) : o.Gives false bound
      (do return .includeFrom line source ((← contextWords?).getD true) ignoring)
      o.ReadsStatement :=
    gives_contextWords?.bind fun _ _ => .pure (.includeFrom hline hsource)
  refine gives_atLexeme.bind fun atIgnore _ => ?_
  dsimp only
  split
  · refine .ofLookahead fun ahead => ?_
    split
    · exact gives_advance.bind fun _ _ => gives_advance.bind fun _ _ => hrest true
    · exact hrest false
  · exact hrest false

theorem gives_importTag (hdown : o.Supports bound down) {line : Nat} (hline : o.line line) :
    o.Gives live bound (importTag down line) o.ReadsStatement := by
  refine (hdown.expression true).alive.bind fun source hsource => ?_
  refine gives_expectWord.bind fun _ _ => gives_nameTarget.bind fun _ _ => ?_
  exact gives_contextWords?.bind fun _ _ => .pure (.importAs hline hsource)

theorem gives_importedName : o.Gives live bound importedName (fun _ => True) := by
  refine gives_nameTarget.bind ?_
  rintro ⟨line, id⟩ -
  dsimp only
  split
  · exact .ofObjectAt rfl
  · refine gives_skipIf.bind fun renamed _ => ?_
    split
    · exact gives_nameTarget.bind fun _ _ => .pure trivial
    · exact .pure trivial

/-- The next name of an import, or the words on the context that end it. -/
theorem gives_nextName (read : NamesRead) :
    o.Gives false bound (do
      match (← current).lexeme with
      | .name _ =>
        match ← contextWords? with
        | some withContext => return some { read with withContext, more := false }
        | none =>
          let read := { read with names := read.names ++ [← importedName] }
          match ← contextWords? with
          | some withContext => return some { read with withContext, more := false }
          | none => return some { read with more := ← atOperator .comma }
      | _ =>
        let _ ← expectName
        return none) (fun next => ∀ _ ∈ next, True) := by
  refine .ofCurrent fun token _ => ?_
  split
  · refine gives_contextWords?.bind fun said _ => ?_
    split
    · exact .pure fun _ _ => trivial
    · refine gives_importedName.bind fun _ _ => gives_contextWords?.bind fun said _ => ?_
      split
      · exact .pure fun _ _ => trivial
      · exact gives_atLexeme.bind fun _ _ => .pure fun _ _ => trivial
  · exact gives_expectName.bind fun _ _ => .pure fun _ _ => trivial

theorem gives_fromTag (hdown : o.Supports bound down) {line : Nat} (hline : o.line line) :
    o.Gives live bound (fromTag down line) o.ReadsStatement := by
  refine (hdown.expression true).alive.bind fun source hsource => ?_
  refine gives_expectWord.bind fun _ _ => ?_
  refine (gives_repeatFrom (fun _ => True) trivial fun read _ => ?_).bind fun read _ =>
    .pure (.importNames hline hsource)
  dsimp only
  split
  · exact .pure fun _ _ => trivial
  · split
    · exact gives_expectOperator.bind fun _ _ => gives_nextName read
    · exact gives_nextName read

/-- Whether the parameters of a signature and their defaults may be read from the list. -/
structure ReadsSignature (o : Outlook) (read : List Expr × List Expr) : Prop where
  params : ∀ param ∈ read.1, o.ReadsExpr param
  defaults : ∀ value ∈ read.2, o.ReadsExpr value

/-- A further parameter, with its default if it has one. -/
theorem gives_parameter (hdown : o.Supports bound down) {params defaults : List Expr}
    (hread : o.ReadsSignature (params, defaults)) :
    o.Gives false bound (do
      let (line, id) ← nameTarget
      let param := Expr.name line id .param
      if ← skipOperator .assign then
        return some (params ++ [param], defaults ++ [← down.expression true])
      if !defaults.isEmpty then object .defaultMissing
      return some (params ++ [param], defaults))
      (fun next => ∀ read ∈ next, o.ReadsSignature read) := by
  refine gives_nameTarget.bind ?_
  rintro ⟨line, id⟩ hline
  have hparams : ∀ param ∈ params ++ [.name line id .param], o.ReadsExpr param :=
    forall_mem_concat hread.params (.name hline)
  refine gives_skipIf.bind fun given _ => ?_
  dsimp only
  split
  · refine (hdown.expression true).bind fun value hvalue => .pure fun _ hnext => ?_
    cases hnext
    exact ⟨hparams, forall_mem_concat hread.defaults hvalue⟩
  · split
    · exact fun _ _ _ _ _ => .inl rfl
    · refine .pure fun _ hnext => ?_
      cases hnext
      exact ⟨hparams, hread.defaults⟩

theorem gives_signature (hdown : o.Supports bound down) :
    o.Gives live bound (signature down) o.ReadsSignature := by
  refine gives_expectOperator.bind fun _ _ => ?_
  refine (gives_repeatFrom o.ReadsSignature ⟨by simp, by simp⟩ ?_).bind
    fun read hread => gives_expectOperator.bind fun _ _ => .pure hread
  rintro ⟨params, defaults⟩ hread
  refine gives_atLexeme.bind fun atEnd _ => ?_
  split
  · exact .pure fun _ hnext => absurd hnext (Option.not_mem_none _)
  · dsimp only
    split
    · exact gives_expectOperator.bind fun _ _ => gives_parameter hdown hread
    · exact gives_parameter hdown hread

/-- The call of a call block after its parameters, and its body. -/
theorem gives_invocation (hdown : o.Supports bound down) {line : Nat} (hline : o.line line)
    (read : List Expr × List Expr) (hread : o.ReadsSignature read) :
    o.Gives false bound (do
      let invocation ← down.expression true
      match invocation with
      | .call _ _ _ =>
        return .callBlock line invocation read.1 read.2 (← bodyThrough down "endcall")
      | _ => objectAt line .callExpected) o.ReadsStatement := by
  refine (hdown.expression true).bind fun invocation hinvocation => ?_
  split
  · exact (gives_bodyThrough hdown).less.bind fun body hbody =>
      .pure (.callBlock hline hinvocation hread.params hread.defaults hbody)
  · exact .objectAt rfl

theorem gives_callTag (hdown : o.Supports bound down) {line : Nat} (hline : o.line line) :
    o.Gives live bound (callTag down line) o.ReadsStatement := by
  refine gives_atLexeme.bind fun atSignature _ => ?_
  dsimp only
  split
  · exact (gives_signature hdown).bind (gives_invocation hdown hline)
  · exact gives_invocation hdown hline ([], []) ⟨by simp, by simp⟩

theorem gives_filterTag (hdown : o.Supports bound down) {line : Nat} (hline : o.line line) :
    o.Gives live bound (filterTag down line) o.ReadsStatement := by
  refine (gives_oneFilter hdown readsOptional_none).less.bind fun first hfirst => ?_
  refine (gives_filters hdown (readsOptional_some.mpr hfirst)).less.bind fun filter hfilter => ?_
  have hlast : o.ReadsExpr (filter.getD first) := by
    cases filter with
    | none => exact hfirst
    | some filter => exact readsOptional_some.mp hfilter
  exact (gives_bodyThrough hdown).less.bind fun body hbody => .pure (.filterBlock hline hlast hbody)

theorem gives_macroTag (hdown : o.Supports bound down) {line : Nat} (hline : o.line line) :
    o.Gives live bound (macroTag down line) o.ReadsStatement := by
  refine gives_nameTarget.bind ?_
  rintro ⟨_, id⟩ -
  refine (gives_signature hdown).bind ?_
  rintro ⟨params, defaults⟩ hread
  exact (gives_bodyThrough hdown).less.bind fun body hbody =>
    .pure (.defineMacro hline hread.params hread.defaults hbody)

theorem gives_printTag (hdown : o.Supports bound down) {line : Nat} (hline : o.line line) :
    o.Gives live bound (printTag down line) o.ReadsStatement := by
  refine (gives_repeatFrom (fun parts => ∀ part ∈ parts, o.ReadsExpr part) (by simp)
    fun parts hparts => ?_).bind fun parts hparts => .pure (.output hline hparts)
  have hmore : o.Gives false bound
      (do return some (parts ++ [← down.expression true]))
      (fun next => ∀ parts ∈ next, ∀ part ∈ parts, o.ReadsExpr part) := by
    refine (hdown.expression true).bind fun part hpart => .pure fun _ hnext => ?_
    cases hnext
    exact forall_mem_concat hparts hpart
  refine gives_atLexeme.bind fun atEnd _ => ?_
  split
  · exact .pure nofun
  · dsimp only
    split
    · exact gives_expectOperator.bind fun _ _ => hmore
    · exact hmore

/-- The rule of every tag is good for as many tokens as the rules one level down. -/
theorem gives_tagRule (hdown : o.Supports bound down) {word : String} {rule : Nat → Rule Statement}
    (hrule : tagRule? down word = some rule) {line : Nat} (hline : o.line line) :
    o.Gives live bound (rule line) o.ReadsStatement := by
  unfold tagRule? at hrule
  split at hrule <;> cases hrule
  · exact gives_forTag hdown hline
  · exact gives_ifTag hdown hline
  · exact gives_blockTag hdown hline
  · exact gives_extendsTag hdown hline
  · exact gives_printTag hdown hline
  · exact gives_macroTag hdown hline
  · exact gives_includeTag hdown hline
  · exact gives_fromTag hdown hline
  · exact gives_importTag hdown hline
  · exact gives_setTag hdown hline
  · exact gives_withTag hdown hline
  · exact gives_autoescapeTag hdown hline
  · exact gives_callTag hdown hline
  · exact gives_filterTag hdown hline

/-! ### Statements and bodies -/

/-- The word of a tag is a token taken before its rule goes down. -/
theorem gives_statement (hdown : o.Supports bound down) :
    o.Gives live (bound + 1) (statement down) o.ReadsStatement := by
  refine .ofCurrent fun token hadmits => ?_
  split
  · next id hname =>
      rw [hname]
      split
      · next rule hrule =>
          exact .withReader (takes_advance.bind fun _ _ => gives_tagRule hdown hrule hadmits.line).gives
      · exact .ofRead fun around => .objectAt rfl
  · exact .objectAt rfl

/-- Whether what was read of a body may be read from the list. -/
structure ReadsPart (o : Outlook) (read : BodyRead) : Prop where
  statements : o.ReadsBody read.statements
  pending : ∀ part ∈ read.pending, o.ReadsExpr part

theorem ReadsPart.close {read : BodyRead} (hread : o.ReadsPart read) : o.ReadsBody read.close := by
  unfold BodyRead.close
  split
  · exact hread.statements
  · next first _ hpending =>
      have hfirst : o.ReadsExpr first := hread.pending first (by simp [hpending])
      exact forall_mem_concat hread.statements (.output hfirst.placed hread.pending)

theorem gives_bodyPart (hdown : o.Supports bound down) {words : List String} {read : BodyRead}
    (hread : o.ReadsPart read) :
    o.Gives live (bound + 1) (bodyPart down words read)
      (fun next => ∀ state ∈ next, o.ReadsPart state.1) := by
  have hvariable : Lexeme.variableEnd ≠ .finish := nofun
  have hblock : Lexeme.blockEnd ≠ .finish := nofun
  refine .ofCurrent fun token hadmits => ?_
  -- A literal text, a print, a tag, or the end of the template.
  split
  · refine gives_advance.bind fun _ _ => ?_
    split
    · refine .pure fun _ hnext => ?_
      cases hnext
      exact hread
    · refine .pure fun _ hnext => ?_
      cases hnext
      exact ⟨hread.statements, forall_mem_concat hread.pending (.data hadmits.line)⟩
  · next hlexeme =>
      rw [hlexeme]
      refine (takes_advance.bind fun _ _ => ?_).gives
      refine (gives_tuple hdown).bind fun printed hprinted => ?_
      refine (gives_expect hvariable).bind fun _ _ => .pure fun _ hnext => ?_
      cases hnext
      exact ⟨hread.statements, forall_mem_concat hread.pending hprinted⟩
  · refine gives_advance.bind fun _ _ => .ofCurrent fun token _ => ?_
    split
    · refine .pure fun _ hnext => ?_
      cases hnext
      exact ⟨hread.close, nofun⟩
    · refine (gives_statement hdown).bind fun next hstatement => ?_
      refine (gives_expect hblock).bind fun _ _ => .pure fun _ hnext => ?_
      cases hnext
      exact ⟨forall_mem_concat hread.close hstatement, nofun⟩
  · exact .pure nofun

theorem gives_body (hdown : o.Supports bound down) {words : List String} :
    o.Gives live (bound + 1) (body down words) o.ReadsBody := by
  refine .withReader ?_
  refine (gives_repeatFrom (fun state => o.ReadsPart state.1) ⟨by simp [ReadsBody], by simp⟩ ?_).bind
    fun state hstate => .pure hstate.close
  rintro ⟨read, ended⟩ hread
  dsimp only
  split
  · exact .pure nofun
  · exact gives_bodyPart hdown hread

/-- Each level of rules is good for one token more than the level below it. -/
theorem supports_levels (depth : Nat) : o.Supports depth (levels depth) := by
  induction depth with
  | zero => exact ⟨fun _ => gives_zero, gives_zero, fun _ => gives_zero, fun _ => gives_zero⟩
  | succ depth ih =>
      exact ⟨fun _ => gives_expression ih, gives_negation ih, fun _ => gives_operand ih,
        fun _ => gives_body ih⟩

end TemplateWorkbench.Template.Grammar.Outlook

namespace TemplateWorkbench.Template

/-! ### Whole templates -/

/-- No piece of a source makes the end of the template. -/
theorem ne_finish_of_lexeme? {piece : Piece} {lexeme : Lexeme}
    (hlexeme : piece.lexeme? = .ok (some lexeme)) : lexeme ≠ .finish := by
  rcases piece with ⟨line, kind, text⟩
  rintro rfl
  cases Piece.makes_of_lexeme? hlexeme

theorem ne_finish_of_mem_tokensOf {ending : Option (Nat × LexicalFault)} {pieces : List Piece}
    {token : Token} (htoken : token ∈ (tokensOf ending pieces).tokens) : token.lexeme ≠ .finish := by
  obtain ⟨piece, -, hlexeme, -⟩ := exists_piece_of_mem_tokensOf htoken
  exact ne_finish_of_lexeme? hlexeme

namespace Grammar

/-- What is known of a list of tokens that is all there.  Reading begins on line 1, also where there is
no token. -/
def Outlook.ofTokens (list : TokenList) : Outlook where
  start := ⟨⟨1, .finish⟩, list.tokens, list.fault⟩
  integer n := ∃ token ∈ list.tokens, token.lexeme = .integer n
  name id := ∃ token ∈ list.tokens, token.lexeme = .name id
  line n := n = 0 ∨ n = 1 ∨ ∃ token ∈ list.tokens, n = token.line
  unplaced := .inl rfl

/-- What the grammar makes of a list of tokens: statements whose integers stand in the list, or a fault
of templates, or the objection that ended the list. -/
theorem template_spec {list : TokenList} (hfinish : ∀ token ∈ list.tokens, token.lexeme ≠ .finish) :
    match template list with
    | .ok body => (Outlook.ofTokens list).ReadsBody body
    | .error fault => (Outlook.ofTokens list).Excuses fault := by
  have hholds : (Outlook.ofTokens list).Holds ⟨⟨1, .finish⟩, list.tokens, list.fault⟩ :=
    ⟨.refl, ⟨.inr (.inl rfl), nofun, nofun⟩, fun token htoken =>
      ⟨⟨.inr (.inr ⟨token, htoken, rfl⟩), fun _ hvalue => ⟨token, htoken, hvalue⟩,
        fun _ hid => ⟨token, htoken, hid⟩⟩, hfinish token htoken⟩⟩
  unfold template Stream.ofTokens
  cases hnext : Stream.next ⟨⟨1, .finish⟩, list.tokens, list.fault⟩ with
  | error fault => exact hholds.excuses_of_next hnext
  | ok stream =>
      obtain ⟨hstream, hle, -⟩ := hholds.of_next hnext
      have hsize : stream.size < list.tokens.length + 1 := by
        simpa [Stream.size, Nat.lt_succ_iff] using hle
      have hgives : (Outlook.ofTokens list).Gives false (list.tokens.length + 2)
          (body (levels (list.tokens.length + 1)) []) (Outlook.ofTokens list).ReadsBody :=
        Outlook.gives_body (Outlook.supports_levels _)
      have hyields := hgives _ (Nat.le_succ _) ⟨[], []⟩ stream ⟨⟨hstream, hsize⟩, by simp⟩
      revert hyields
      simp only [ReaderT.run, StateT.run, bind, Except.bind]
      cases body (levels (list.tokens.length + 1)) [] ⟨[], []⟩ stream with
      | error fault => exact id
      | ok read => exact And.right

end Grammar

/-- What the grammar makes of the tokens of a source. -/
theorem template_tokenize (source : List Char) :
    match Grammar.template (tokenize source) with
    | .ok body => (Grammar.Outlook.ofTokens (tokenize source)).ReadsBody body
    | .error fault => (Grammar.Outlook.ofTokens (tokenize source)).Excuses fault :=
  Grammar.template_spec fun _ => ne_finish_of_mem_tokensOf

/-- The integers in the tree of a source are written out in the source. -/
theorem exists_token_of_parse {source : List Char} {body : List Statement}
    (hparse : parse source = .ok body) {n : Int} (hn : n ∈ (displayTree body).integers) :
    ∃ token ∈ (tokenize source).tokens, token.lexeme = .integer n := by
  have hspec := template_tokenize source
  rw [← parse, hparse] at hspec
  rw [integers_displayTree] at hn
  exact hspec.integers n hn

/-- The nodes of a source are on the lines of its tokens, or on the first line, or on none. -/
theorem line_of_parse {source : List Char} {body : List Statement} (hparse : parse source = .ok body)
    {head : Head} (hhead : head ∈ templateHeads body) :
    head.line = 0 ∨ head.line = 1 ∨ ∃ token ∈ (tokenize source).tokens, head.line = token.line := by
  have hspec := template_tokenize source
  rw [← parse, hparse] at hspec
  rcases List.mem_cons.mp hhead with rfl | hmem
  · exact .inr (.inl rfl)
  · exact hspec.places head hmem

/-- The names of the blocks of a source are written out in the source. -/
theorem exists_token_of_block {source : List Char} {body : List Statement}
    (hparse : parse source = .ok body) {block : BlockSite} (hblock : block ∈ bodyBlocks body) :
    ∃ token ∈ (tokenize source).tokens, token.lexeme = .name block.id := by
  have hspec := template_tokenize source
  rw [← parse, hparse] at hspec
  exact hspec.blocks block hblock

/-- What parsing objects to is a fault of templates, or else the objection that ended the tokens. -/
theorem fault_of_parse {source : List Char} {fault : Fault} (hparse : parse source = .error fault) :
    fault.kind.isTemplateFault = true ∨
      ∃ line misreading, (tokenize source).fault = some (line, misreading) ∧
        fault = misreading.fault line := by
  have hspec := template_tokenize source
  rw [← parse, hparse] at hspec
  exact hspec

end TemplateWorkbench.Template
