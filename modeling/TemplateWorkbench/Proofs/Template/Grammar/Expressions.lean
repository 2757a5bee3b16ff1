import TemplateWorkbench.Proofs.Template.Grammar.Reads
import TemplateWorkbench.Template.Grammar.Expression

/-!
# What the rules of expressions keep to

The rules of expressions one after another, from the operands up.  A rule that may go down at once is
good for as many tokens as the rules one level down; one that takes a token first is good for one more.
-/

namespace TemplateWorkbench.Template.Grammar.Outlook

variable {o : Outlook} {live : Bool} {bound : Nat} {α : Type}

/-- What rules give that are one level further down. -/
structure Supports (o : Outlook) (bound : Nat) (down : Levels) : Prop where
  expression : ∀ conditionals, o.Gives false bound (down.expression conditionals) o.ReadsExpr
  negation : o.Gives false bound down.negation o.ReadsExpr
  operand : ∀ filters, o.Gives false bound (down.operand filters) o.ReadsExpr
  body : ∀ words, o.Gives false bound (down.body words) o.ReadsBody

variable {down : Levels}

/-! ### Brackets -/

theorem gives_atTupleEnd : o.Gives live bound atTupleEnd (fun _ => True) :=
  .ofCurrent fun _ _ => .pure trivial

theorem gives_tupleOf {item : Rule Expr} {parenthesised : Bool}
    (hitem : o.Gives false bound item o.ReadsExpr) :
    o.Gives live bound (tupleOf item parenthesised) o.ReadsExpr := by
  refine .ofCurrentLine fun start hstart => ?_
  -- The items that have been read, and the line behind them, are carried along.
  refine (gives_repeatFrom (fun state => o.line state.2.1 ∧ ∀ item ∈ state.1, o.ReadsExpr item)
    ⟨hstart, by simp⟩ ?_).bind ?_
  · rintro ⟨items, line, hasComma, more⟩ ⟨hline, hitems⟩
    have hmore : o.Gives false bound (do
        if ← atTupleEnd then return none
        let items := items ++ [← item]
        if ← atOperator .comma then return some (items, ← currentLine, true, true)
        else return some (items, line, hasComma, false))
        (fun next => ∀ state ∈ next, o.line state.2.1 ∧ ∀ item ∈ state.1, o.ReadsExpr item) := by
      refine gives_atTupleEnd.bind fun atEnd _ => ?_
      split
      · exact .pure (by simp)
      · refine hitem.bind fun read hread => ?_
        have hitems := forall_mem_concat hitems hread
        refine .ofAtOperator fun atComma => ?_
        split
        · exact .ofCurrentLine fun line hline => .pure fun _ hstate => by
            cases hstate
            exact ⟨hline, hitems⟩
        · exact .pure fun _ hstate => by
            cases hstate
            exact ⟨hline, hitems⟩
    dsimp only
    split
    · exact .pure (by simp)
    · split
      · exact gives_expectOperator.bind fun _ _ => hmore
      · exact hmore
  · rintro ⟨items, line, hasComma, more⟩ ⟨hline, hitems⟩
    dsimp only
    split
    · exact .pure (.tuple hline hitems)
    · split
      · next first rest => exact .pure (hitems first (by simp))
      · split
        · exact .pure (.tuple hline nofun)
        · exact .ofCurrent fun _ _ => .object rfl

theorem gives_tuple (hdown : o.Supports bound down) {conditionals parenthesised : Bool} :
    o.Gives live bound (tuple down conditionals parenthesised) o.ReadsExpr :=
  gives_tupleOf (hdown.expression conditionals)

theorem gives_itemsUntil {closing : Operator} {item : Rule α} {kind : α → Prop}
    (hitem : o.Gives false bound item kind) :
    o.Gives live bound (itemsUntil closing item) (fun items => ∀ item ∈ items, kind item) := by
  refine (gives_repeatFrom (fun items => ∀ item ∈ items, kind item) (by simp)
    fun items hitems => ?_).bind fun items hitems => ?_
  · have hmore : o.Gives false bound (do
        if ← atOperator closing then return none
        return some (items ++ [← item])) (fun next => ∀ items ∈ next, ∀ item ∈ items, kind item) := by
      refine .ofAtOperator fun atEnd => ?_
      split
      · exact .pure (by simp)
      · exact hitem.alive.bind fun read hread => .pure fun _ hstate => by
          cases hstate
          exact forall_mem_concat hitems hread
    refine .ofAtOperator fun atEnd => ?_
    split
    · exact .pure (by simp)
    · dsimp only
      split
      · exact gives_expectOperator.bind fun _ _ => hmore
      · exact hmore.alive
  · exact gives_expectOperator.bind fun _ _ => .pure hitems

theorem gives_entry (hdown : o.Supports bound down) :
    o.Gives live bound (entry down) (fun entry => o.ReadsExpr entry.1 ∧ o.ReadsExpr entry.2) := by
  refine (hdown.expression true).alive.bind fun key hkey => ?_
  refine gives_expectOperator.bind fun _ _ => ?_
  exact (hdown.expression true).bind fun value hvalue => .pure ⟨hkey, hvalue⟩

/-- The constants that have words are no integers. -/
theorem integers_of_constant? {id : String} {value : Value} (hvalue : constant? id = some value) :
    value.literalJson.integers = [] := by
  unfold constant? at hvalue
  split at hvalue <;> cases hvalue <;> rfl

/-- A name, or an attribute of a namespace after it. -/
theorem gives_nameOrAttribute {line : Nat} (hline : o.line line) (id : String) (hasAttribute : Bool) :
    o.Gives false bound (do
      if hasAttribute then
        let (_, attr) ← expectName
        return .namespaceRef line id attr
      else return .name line id .load) o.ReadsExpr := by
  split
  · exact gives_expectName.bind fun _ _ => .pure (.namespaceRef hline)
  · exact .pure (.name hline)

theorem gives_primary (hdown : o.Supports bound down) {asTarget : Bool} :
    o.Gives live (bound + 1) (primary down asTarget) o.ReadsExpr := by
  refine .ofCurrent fun token hadmits => ?_
  -- A name, a text, an integer, a decimal, or one of the three brackets that open.
  split
  · next id hid =>
      rw [hid]
      refine (takes_advance.bind fun _ _ => ?_).gives
      split
      · next value hvalue => exact .pure (.const hadmits.line (integers_of_constant? hvalue))
      · dsimp only
        split
        · exact gives_skipIf.bind fun hasAttribute _ => gives_nameOrAttribute hadmits.line id hasAttribute
        · exact gives_nameOrAttribute hadmits.line id false
  · next text htext =>
      rw [htext]
      refine (takes_advance.bind fun _ _ => ?_).gives
      refine (gives_repeatFrom (fun _ => True) trivial fun whole _ => ?_).bind fun whole _ =>
        .pure (.const hadmits.line rfl)
      refine .ofCurrent fun token _ => ?_
      split
      · exact gives_advance.bind fun _ _ => .pure fun _ _ => trivial
      · exact .pure fun _ _ => trivial
  · next value hvalue =>
      rw [hvalue]
      exact (takes_advance.bind fun _ _ => .pure (.int hadmits.line (hadmits.integer value hvalue))).gives
  · next value hvalue =>
      rw [hvalue]
      exact (takes_advance.bind fun _ _ => .pure (.const hadmits.line rfl)).gives
  · next hop =>
      rw [hop]
      refine (takes_advance.bind fun _ _ => ?_).gives
      refine (gives_tuple hdown).bind fun inside hinside => ?_
      exact gives_expectOperator.bind fun _ _ => .pure hinside
  · next hop =>
      rw [hop]
      refine (takes_advance.bind fun _ _ => ?_).gives
      exact (gives_itemsUntil (hdown.expression true)).bind fun items hitems => .pure (.list hadmits.line hitems)
  · next hop =>
      rw [hop]
      refine (takes_advance.bind fun _ _ => ?_).gives
      exact (gives_itemsUntil (gives_entry hdown)).bind fun entries hentries =>
        .pure (.dict hadmits.line hentries)
  · exact .objectAt rfl

/-! ### What follows an operand -/

theorem gives_atSliceEnd : o.Gives live bound atSliceEnd (fun _ => True) :=
  .ofAtOperator fun _ => .ofAtOperator fun _ => .ofAtOperator fun _ => .pure trivial

theorem gives_some {rule : Rule Expr} (hrule : o.Gives live bound rule o.ReadsExpr) :
    o.Gives live bound (some <$> rule) o.ReadsOptional :=
  hrule.map fun _ hread => readsOptional_some.mpr hread

theorem gives_bound (hdown : o.Supports bound down) :
    o.Gives live bound (Grammar.bound down) o.ReadsOptional := by
  refine gives_atSliceEnd.bind fun atEnd _ => ?_
  split
  · exact .pure readsOptional_none
  · exact gives_some (hdown.expression true)

theorem gives_boundAtEnd (hdown : o.Supports bound down) :
    o.Gives live bound (subscripted.boundAtEnd down) o.ReadsOptional := by
  refine .ofAtOperator fun _ => .ofAtOperator fun _ => ?_
  split
  · exact .pure readsOptional_none
  · exact (gives_some (hdown.expression true)).alive

/-- What follows the start of a slice, or an index that is all there is. -/
theorem gives_afterStart (hdown : o.Supports bound down) {line : Nat} {start : Option Expr}
    (hline : o.line line) (hstart : o.ReadsOptional start) :
    o.Gives false bound (do
      match start, ← atOperator .colon with
      | some index, false => return index
      | _, _ =>
        let _ ← advance
        let stop ← Grammar.bound down
        let step ← if ← skipOperator .colon then subscripted.boundAtEnd down else pure none
        return .slice line start stop step) o.ReadsExpr := by
  refine .ofAtOperator fun atColon => ?_
  split
  · next index _ => exact .pure (readsOptional_some.mp hstart)
  · refine gives_advance.bind fun _ _ => ?_
    refine (gives_bound hdown).bind fun stop hstop => ?_
    refine gives_skipIf.bind fun again _ => ?_
    have hstep (step : Option Expr) (hstep : o.ReadsOptional step) :
        o.ReadsExpr (.slice line start stop step) := .slice hline hstart hstop hstep
    dsimp only
    split
    · exact (gives_boundAtEnd hdown).bind fun step hread => .pure (hstep step hread)
    · exact .pure (hstep none readsOptional_none)

theorem gives_subscripted (hdown : o.Supports bound down) :
    o.Gives live bound (subscripted down) o.ReadsExpr := by
  refine .ofCurrentLine fun line hline => ?_
  refine .ofAtOperator fun atColon => ?_
  dsimp only
  split
  · exact (gives_afterStart hdown hline readsOptional_none).alive
  · refine ((gives_some (hdown.expression true)).bind fun start hstart => ?_).alive
    exact gives_afterStart hdown hline hstart

/-- What follows an operand begins with a token that is taken. -/
theorem gives_subscript (hdown : o.Supports bound down) {object : Expr}
    (hobject : o.ReadsExpr object) :
    o.Gives true (bound + 1) (subscript down object) o.ReadsExpr := by
  refine (takes_advance.bind fun token hadmits => ?_).gives
  -- A point with a name or a number behind it, or indices in brackets.
  split
  · refine gives_advance.bind fun attr hattr => ?_
    split
    · exact .pure (.getattr hadmits.line hobject)
    · next value hvalue =>
        exact .pure (.getitem hadmits.line hobject (.int hattr.line (hattr.integer value hvalue)))
    · exact .objectAt rfl
  · refine (gives_repeatFrom (fun indices => ∀ index ∈ indices, o.ReadsExpr index) (by simp)
      fun indices hindices => ?_).bind fun indices hindices => ?_
    · have hmore : o.Gives false bound (do return some (indices ++ [← subscripted down]))
          (fun next => ∀ indices ∈ next, ∀ index ∈ indices, o.ReadsExpr index) := by
        exact (gives_subscripted hdown).bind fun read hread => .pure fun _ hstate => by
          cases hstate
          exact forall_mem_concat hindices hread
      refine .ofAtOperator fun atEnd => ?_
      split
      · exact .pure (by simp)
      · dsimp only
        split
        · exact gives_expectOperator.bind fun _ _ => hmore
        · exact hmore.alive
    · refine gives_expectOperator.bind fun _ _ => ?_
      split
      · next index =>
          have hindex : o.ReadsExpr index := hindices index List.mem_cons_self
          exact .pure (.getitem hadmits.line hobject hindex)
      · exact .pure (.getitem hadmits.line hobject (.tuple hadmits.line hindices))

/-! ### Arguments -/

/-- Whether the arguments that were read so far may be read from the list. -/
structure ReadsArgumentsRead (o : Outlook) (read : ArgumentsRead) : Prop where
  positional : ∀ expr ∈ read.positional, o.ReadsExpr expr
  keywords : ∀ keyword ∈ read.keywords, o.ReadsExpr keyword.2
  more : o.ReadsOptional read.more
  moreKeywords : o.ReadsOptional read.moreKeywords

theorem gives_plain (hdown : o.Supports bound down) {line : Nat} {read : ArgumentsRead}
    (hread : o.ReadsArgumentsRead read) :
    o.Gives live bound (argument.plain down line read) o.ReadsArgumentsRead := by
  have hmore : o.Gives live bound
      (do return { read with positional := read.positional ++ [← down.expression true] })
      o.ReadsArgumentsRead := by
    refine (hdown.expression true).alive.bind fun expr hexpr => .pure ?_
    exact ⟨forall_mem_concat hread.positional hexpr, hread.keywords, hread.more, hread.moreKeywords⟩
  unfold argument.plain
  dsimp only
  split
  · exact .ofObjectAt rfl
  · exact hmore

theorem gives_argument (hdown : o.Supports bound down) {line : Nat} {read : ArgumentsRead}
    (hread : o.ReadsArgumentsRead read) :
    o.Gives live bound (argument down line read) o.ReadsArgumentsRead := by
  refine .ofCurrent fun token _ => ?_
  -- One star, two stars, a name with a sign of equality behind it, or a plain argument.
  split
  · dsimp only
    split
    · exact .ofObjectAt rfl
    · refine gives_advance.bind fun _ _ => (hdown.expression true).bind fun expr hexpr => .pure ?_
      exact ⟨hread.positional, hread.keywords, readsOptional_some.mpr hexpr, hread.moreKeywords⟩
  · split
    · dsimp only
      split
      · exact .ofObjectAt rfl
      · refine gives_advance.bind fun _ _ => (hdown.expression true).bind fun expr hexpr => .pure ?_
        exact ⟨hread.positional, hread.keywords, hread.more, readsOptional_some.mpr hexpr⟩
    · split
      · next id _ =>
          refine .ofLookahead fun ahead => ?_
          split
          · dsimp only
            split
            · exact .ofObjectAt rfl
            · refine gives_advance.bind fun _ _ => gives_advance.bind fun _ _ => ?_
              refine (hdown.expression true).bind fun expr hexpr => .pure ?_
              exact ⟨hread.positional, forall_mem_concat hread.keywords hexpr, hread.more,
                hread.moreKeywords⟩
          · exact gives_plain hdown hread
      · exact gives_plain hdown hread

theorem takes_arguments (hdown : o.Supports bound down) :
    o.Takes live bound (arguments down) o.ReadsArguments := by
  refine takes_expectOperator.bind fun token _ => ?_
  -- What has been read is carried along; whether a comma is due does not matter to it.
  refine (gives_repeatFrom (fun state => o.ReadsArgumentsRead state.1)
    ⟨by simp, by simp, readsOptional_none, readsOptional_none⟩ ?_).bind ?_
  · rintro ⟨read, needsComma⟩ hread
    have hmore : o.Gives false bound (do
        if ← atOperator .rparen then return none
        return some (← argument down token.line read, true))
        (fun next => ∀ state ∈ next, o.ReadsArgumentsRead state.1) := by
      refine .ofAtOperator fun atEnd => ?_
      split
      · exact .pure nofun
      · refine (gives_argument hdown hread).bind fun read hread => .pure ?_
        simpa using hread
    refine .ofAtOperator fun atEnd => ?_
    split
    · exact .pure nofun
    · dsimp only
      split
      · exact gives_expectOperator.bind fun _ _ => hmore
      · exact hmore.alive
  · rintro ⟨read, needsComma⟩ hread
    exact gives_expectOperator.bind fun _ _ =>
      .pure (.ofParts hread.positional hread.keywords hread.more hread.moreKeywords)

theorem gives_call (hdown : o.Supports bound down) {function : Expr}
    (hfunction : o.ReadsExpr function) :
    o.Gives live (bound + 1) (call down function) o.ReadsExpr := by
  refine .ofCurrentLine fun line hline => ?_
  exact (takes_arguments hdown).gives.bind fun arguments harguments =>
    .pure (.call hline hfunction harguments)

theorem gives_postfixed (hdown : o.Supports bound down) {operand : Expr}
    (hoperand : o.ReadsExpr operand) :
    o.Gives live (bound + 1) (postfixed down operand) o.ReadsExpr := by
  refine gives_repeatFrom o.ReadsExpr hoperand fun operand hoperand => ?_
  refine .ofAtOperator fun atDot => .ofAtOperator fun atBracket => ?_
  split
  · next hhere =>
      rw [Bool.false_or, hhere]
      exact (gives_subscript hdown hoperand).bind fun read hread => .pure (by simpa using hread)
  · refine .ofAtOperator fun atParenthesis => ?_
    split
    · exact (gives_call hdown hoperand).bind fun read hread => .pure (by simpa using hread)
    · exact .pure nofun

/-! ### Filters and tests -/

theorem takes_dottedName : o.Takes live bound dottedName (fun read => o.line read.1) := by
  refine takes_expectName.bind ?_
  rintro ⟨line, first⟩ ⟨hline, -⟩
  refine (gives_repeatFrom (fun _ => True) trivial fun id _ => ?_).bind fun _ _ => .pure hline
  refine gives_skipIf.bind fun there _ => ?_
  split
  · exact gives_expectName.bind fun _ _ => .pure fun _ _ => trivial
  · exact .pure fun _ _ => trivial

theorem gives_dottedName : o.Gives live bound dottedName (fun read => o.line read.1) :=
  gives_of_takes fun _ => takes_dottedName

theorem gives_argumentsIfAny (hdown : o.Supports bound down) :
    o.Gives live (bound + 1) (argumentsIfAny down) o.ReadsArguments := by
  refine .ofAtOperator fun atParenthesis => ?_
  split
  · exact (takes_arguments hdown).gives
  · exact .pure .none

theorem gives_oneFilter (hdown : o.Supports bound down) {subject : Option Expr}
    (hsubject : o.ReadsOptional subject) :
    o.Gives live (bound + 1) (oneFilter down subject) o.ReadsExpr := by
  refine gives_dottedName.bind ?_
  rintro ⟨line, id⟩ hline
  exact (gives_argumentsIfAny hdown).bind fun arguments harguments =>
    .pure (.filter hline hsubject harguments)

theorem gives_filters (hdown : o.Supports bound down) {subject : Option Expr}
    (hsubject : o.ReadsOptional subject) :
    o.Gives live (bound + 1) (filters down subject) o.ReadsOptional := by
  refine gives_repeatFrom o.ReadsOptional hsubject fun subject hsubject => ?_
  refine gives_skipIf.bind fun there _ => ?_
  split
  · exact (gives_oneFilter hdown hsubject).bind fun read hread => .pure fun _ hnext => by
      cases hnext
      exact readsOptional_some.mpr hread
  · exact .pure nofun

theorem gives_atTestArgument : o.Gives live bound atTestArgument (fun _ => True) := by
  refine .ofCurrent fun token _ => ?_
  split <;> exact .pure trivial

theorem gives_testOf (hdown : o.Supports bound down) {subject : Expr}
    (hsubject : o.ReadsExpr subject) :
    o.Gives live (bound + 1) (testOf down subject) o.ReadsExpr := by
  refine gives_advance.bind fun token hadmits => ?_
  refine gives_skipIf.bind fun negated _ => ?_
  refine gives_dottedName.bind ?_
  rintro ⟨_, id⟩ -
  have htest (arguments : Arguments) (harguments : o.ReadsArguments arguments) :
      o.Gives false (bound + 1)
        (let test := Expr.test token.line subject id arguments
        (return if negated then .unary token.line .not test else test : Rule Expr)) o.ReadsExpr := by
    refine .pure ?_
    have hplain : o.ReadsExpr (.test token.line subject id arguments) :=
      .test hadmits.line hsubject harguments
    split
    · exact .unary hadmits.line hplain
    · exact hplain
  -- Arguments in brackets, a single operand without brackets, or none.
  refine .ofAtOperator fun atParenthesis => ?_
  refine gives_atTestArgument.bind fun atArgument _ => ?_
  dsimp only
  split
  · exact (takes_arguments hdown).gives.bind htest
  · split
    · refine .ofAtWord fun again => ?_
      split
      · exact fun _ _ _ _ _ => .inl rfl
      · refine (gives_primary hdown).alive.bind fun first hfirst => ?_
        refine (gives_postfixed hdown hfirst).bind fun operand hoperand => ?_
        have hsingle : ∀ item ∈ [operand], o.ReadsExpr item := List.forall_mem_singleton.mpr hoperand
        exact htest (.mk [operand] [] none none)
          (.ofParts hsingle nofun readsOptional_none readsOptional_none)
    · exact htest .none .none

theorem gives_filtered (hdown : o.Supports bound down) {operand : Expr}
    (hoperand : o.ReadsExpr operand) :
    o.Gives live (bound + 1) (filtered down operand) o.ReadsExpr := by
  refine gives_repeatFrom o.ReadsExpr hoperand fun operand hoperand => ?_
  refine .ofAtOperator fun atBar => ?_
  split
  · refine (gives_filters hdown (readsOptional_some.mpr hoperand)).bind fun read hread => .pure ?_
    intro whole hwhole
    cases hwhole
    cases read with
    | none => exact hoperand
    | some read => exact readsOptional_some.mp hread
  · refine .ofAtWord fun atIs => ?_
    split
    · exact (gives_testOf hdown hoperand).bind fun read hread => .pure (by simpa using hread)
    · refine .ofAtOperator fun atParenthesis => ?_
      split
      · exact (gives_call hdown hoperand).bind fun read hread => .pure (by simpa using hread)
      · exact .pure nofun

/-- A sign is a token that is taken. -/
theorem gives_operand (hdown : o.Supports bound down) {withFilters : Bool} :
    o.Gives live (bound + 1) (operand down withFilters) o.ReadsExpr := by
  have hrest (inner : Expr) (hinner : o.ReadsExpr inner) : o.Gives false (bound + 1) (do
      let whole ← postfixed down inner
      if withFilters then filtered down whole else return whole) o.ReadsExpr := by
    refine (gives_postfixed hdown hinner).bind fun whole hwhole => ?_
    split
    · exact gives_filtered hdown hwhole
    · exact .pure hwhole
  have hsigned (line : Nat) (hline : o.line line) (op : UnaryOp) : o.Gives true (bound + 1) (do
      let _ ← advance
      let inner := Expr.unary line op (← down.operand false)
      let whole ← postfixed down inner
      if withFilters then filtered down whole else return whole) o.ReadsExpr := by
    refine (takes_advance.bind fun _ _ => (hdown.operand false).bind fun inner hinner => ?_).gives
    exact (hrest (.unary line op inner) (.unary hline hinner)).less
  refine .ofCurrent fun token hadmits => ?_
  dsimp only
  split
  · next hop =>
      rw [live_of_isOperator hop]
      exact hsigned token.line hadmits.line .neg
  · split
    · next hop =>
        rw [live_of_isOperator hop]
        exact hsigned token.line hadmits.line .pos
    · exact (gives_primary hdown).bind hrest

/-! ### Operators -/

theorem gives_leftChain {side : Rule Expr} {operator? : Token → Option BinaryOp}
    (hside : o.Gives false bound side o.ReadsExpr) :
    o.Gives live bound (leftChain side operator?) o.ReadsExpr := by
  refine .ofCurrentLine fun start hstart => ?_
  refine hside.alive.bind fun first hfirst => ?_
  refine (gives_repeatFrom (fun state => o.ReadsExpr state.1 ∧ o.line state.2) ⟨hfirst, hstart⟩ ?_).bind
    fun state hstate => .pure hstate.1
  rintro ⟨left, line⟩ ⟨hleft, hline⟩
  refine .ofCurrent fun token _ => ?_
  split
  · exact .pure nofun
  · next op _ =>
      refine gives_advance.bind fun _ _ => hside.bind fun right hright => ?_
      refine .ofCurrentLine fun here hhere => .pure fun _ hnext => ?_
      cases hnext
      exact ⟨.binary hline hleft hright, hhere⟩

theorem gives_power (hdown : o.Supports bound down) :
    o.Gives live (bound + 1) (power down) o.ReadsExpr := gives_leftChain (gives_operand hdown)

theorem gives_product (hdown : o.Supports bound down) :
    o.Gives live (bound + 1) (product down) o.ReadsExpr := gives_leftChain (gives_power hdown)

theorem gives_concatenation (hdown : o.Supports bound down) :
    o.Gives live (bound + 1) (concatenation down) o.ReadsExpr := by
  refine .ofCurrentLine fun line hline => ?_
  refine (gives_product hdown).bind fun first hfirst => ?_
  refine (gives_repeatFrom (fun parts => ∀ part ∈ parts, o.ReadsExpr part) (by simpa using hfirst)
    fun parts hparts => ?_).bind fun parts hparts => ?_
  · refine gives_skipIf.bind fun there _ => ?_
    split
    · exact (gives_product hdown).bind fun part hpart => .pure fun _ hnext => by
        cases hnext
        exact forall_mem_concat hparts hpart
    · exact .pure nofun
  · split
    · next only => exact .pure (hparts only List.mem_cons_self)
    · exact .pure (.concat hline hparts)

theorem gives_sum (hdown : o.Supports bound down) :
    o.Gives live (bound + 1) (sum down) o.ReadsExpr := gives_leftChain (gives_concatenation hdown)

theorem gives_comparison? : o.Gives live bound comparison? (fun _ => True) := by
  refine .ofCurrent fun token _ => ?_
  split
  case h_8 =>
    refine .ofLookahead fun ahead => ?_
    split <;> exact .pure trivial
  all_goals exact .pure trivial

theorem gives_comparison (hdown : o.Supports bound down) :
    o.Gives live (bound + 1) (comparison down) o.ReadsExpr := by
  refine .ofCurrentLine fun start hstart => ?_
  refine (gives_sum hdown).bind fun first hfirst => ?_
  -- The operands that have been read, and the line behind them, are carried along.
  refine (gives_repeatFrom (fun state => o.line state.2 ∧ ∀ other ∈ state.1, o.ReadsExpr other.2)
    ⟨hstart, by simp⟩ ?_).bind ?_
  · rintro ⟨others, line⟩ ⟨hline, hothers⟩
    refine gives_comparison?.bind fun found _ => ?_
    split
    · exact .pure nofun
    · next op count =>
        have hmore : o.Gives false (bound + 1) (do
            let right ← sum down
            return some (others ++ [(op, right)], ← currentLine))
            (fun next => ∀ state ∈ next, o.line state.2 ∧ ∀ other ∈ state.1, o.ReadsExpr other.2) := by
          refine (gives_sum hdown).bind fun right hright => .ofCurrentLine fun here hhere => ?_
          refine .pure fun _ hnext => ?_
          cases hnext
          exact ⟨hhere, forall_mem_concat hothers hright⟩
        refine gives_advance.bind fun _ _ => ?_
        dsimp only
        split
        · exact gives_advance.bind fun _ _ => hmore
        · exact hmore
  · rintro ⟨others, line⟩ ⟨hline, hothers⟩
    refine .pure ?_
    split
    · exact hfirst
    · exact .compare hline hfirst hothers

theorem gives_negation (hdown : o.Supports bound down) :
    o.Gives live (bound + 1) (negation down) o.ReadsExpr := by
  refine .ofCurrent fun token hadmits => ?_
  split
  · next hword =>
      rw [live_of_isWord hword]
      exact (takes_advance.bind fun _ _ => hdown.negation.bind fun operand hoperand =>
        .pure (.unary hadmits.line hoperand)).gives
  · exact gives_comparison hdown

theorem gives_conjunction (hdown : o.Supports bound down) :
    o.Gives live (bound + 1) (conjunction down) o.ReadsExpr := gives_leftChain (gives_negation hdown)

theorem gives_disjunction (hdown : o.Supports bound down) :
    o.Gives live (bound + 1) (disjunction down) o.ReadsExpr :=
  gives_leftChain (gives_conjunction hdown)

/-- What stands after `else` is read one level down; the words before it are tokens that are taken. -/
theorem gives_conditional (hdown : o.Supports bound down) :
    o.Gives live (bound + 1) (conditional down) o.ReadsExpr := by
  refine .ofCurrentLine fun start hstart => ?_
  refine (gives_disjunction hdown).bind fun first hfirst => ?_
  refine (gives_repeatFrom (fun state => o.ReadsExpr state.1 ∧ o.line state.2) ⟨hfirst, hstart⟩ ?_).bind
    fun state hstate => .pure hstate.1
  rintro ⟨whenTrue, line⟩ ⟨htrue, hline⟩
  refine gives_skipIf.bind fun there _ => ?_
  split
  · refine (gives_disjunction hdown).bind fun test htest => ?_
    have hrest (whenFalse : Option Expr) (hfalse : o.ReadsOptional whenFalse) :
        o.Gives false (bound + 1)
          (do return some (Expr.conditional line test whenTrue whenFalse, ← currentLine))
          (fun next => ∀ state ∈ next, o.ReadsExpr state.1 ∧ o.line state.2) := by
      refine .ofCurrentLine fun here hhere => .pure fun _ hnext => ?_
      cases hnext
      exact ⟨.conditional hline htest htrue hfalse, hhere⟩
    refine .ofSkipWord ?_ ?_
    · dsimp only
      rw [if_pos rfl]
      exact (gives_some (hdown.expression true)).bind fun whenFalse hfalse =>
        (hrest whenFalse hfalse).less
    · exact hrest none readsOptional_none
  · exact .pure nofun

theorem gives_expression (hdown : o.Supports bound down) {conditionals : Bool} :
    o.Gives live (bound + 1) (expression down conditionals) o.ReadsExpr := by
  unfold expression
  split
  · exact gives_conditional hdown
  · exact gives_disjunction hdown

end TemplateWorkbench.Template.Grammar.Outlook
