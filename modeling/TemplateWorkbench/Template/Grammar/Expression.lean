import TemplateWorkbench.Template.Grammar.Basic

/-!
# Expressions

From loose to tight: conditionals, `or`, `and`, `not`, comparisons, sums, concatenation, products,
powers, signs, and operands with what follows them.  Powers associate to the left, and a sign binds
tighter than a power.  A chain of operators of one level stands at the line where its last operand
begins; the line of a tuple is that of its last comma.
-/

namespace TemplateWorkbench.Template.Grammar

/-! ### Operands -/

/-- Whether a tuple ends here. -/
def atTupleEnd : Rule Bool := do
  let token ← current
  return token.lexeme == .variableEnd || token.lexeme == .blockEnd || isOperator .rparen token

/-- Expressions with commas between them: a tuple if there is a comma, else the only expression.
Without parentheses there has to be at least one. -/
def tupleOf (item : Rule Expr) (parenthesised : Bool) : Rule Expr := do
  let start ← currentLine
  let (items, line, hasComma, _) ← repeatFrom (([] : List Expr), start, false, true)
    fun (items, line, hasComma, more) => do
      if !more then return none
      if !items.isEmpty then
        let _ ← expectOperator .comma
      if ← atTupleEnd then return none
      let items := items ++ [← item]
      if ← atOperator .comma then return some (items, ← currentLine, true, true)
      else return some (items, line, hasComma, false)
  if hasComma then return .tuple line items .load
  match items with
  | first :: _ => return first
  | [] =>
    if parenthesised then return .tuple line [] .load
    else object (.expectedExpression (← current).lexeme)

/-- A tuple of expressions. -/
def tuple (down : Levels) (conditionals parenthesised : Bool) : Rule Expr :=
  tupleOf (down.expression conditionals) parenthesised

/-- Items up to a closing bracket, with commas between them and perhaps one at the end. -/
def itemsUntil {α : Type} (closing : Operator) (item : Rule α) : Rule (List α) := do
  let items ← repeatFrom ([] : List α) fun items => do
    if ← atOperator closing then return none
    if !items.isEmpty then
      let _ ← expectOperator .comma
    if ← atOperator closing then return none
    return some (items ++ [← item])
  let _ ← expectOperator closing
  return items

/-- A key and a value of a dictionary. -/
def entry (down : Levels) : Rule (Expr × Expr) := do
  let key ← down.expression true
  let _ ← expectOperator .colon
  return (key, ← down.expression true)

/-- The words for constants. -/
def constant? : String → Option Value
  | "true" | "True" => some (.bool true)
  | "false" | "False" => some (.bool false)
  | "none" | "None" => some .none
  | _ => none

/-- A name, a literal, or something in brackets.  As the target of an assignment a name may have
an attribute. -/
def primary (down : Levels) (asTarget : Bool) : Rule Expr := do
  let token ← current
  match token.lexeme with
  | .name id =>
    let _ ← advance
    match constant? id with
    | some value => return .const token.line value
    | none =>
      let hasAttribute ← if asTarget then skipOperator .dot else pure false
      if hasAttribute then
        let (_, attr) ← expectName
        return .namespaceRef token.line id attr
      else return .name token.line id .load
  | .string text =>
    let _ ← advance
    let whole ← repeatFrom text fun text => do
      match (← current).lexeme with
      | .string more =>
        let _ ← advance
        return some (text ++ more)
      | _ => return none
    return .const token.line (.string whole)
  | .integer value =>
    let _ ← advance
    return .const token.line (.int value)
  | .float value =>
    let _ ← advance
    return .const token.line (.double value)
  | .operator .lparen =>
    let _ ← advance
    let inside ← tuple down true true
    let _ ← expectOperator .rparen
    return inside
  | .operator .lbracket =>
    let _ ← advance
    return .list token.line (← itemsUntil .rbracket (down.expression true))
  | .operator .lbrace =>
    let _ ← advance
    return .dict token.line (← itemsUntil .rbrace (entry down))
  | found => objectAt token.line (.unexpected found)

/-! ### What follows an operand -/

/-- Whether an expression inside a subscript ends here. -/
def atSliceEnd : Rule Bool := do
  return (← atOperator .rbracket) || (← atOperator .comma) || (← atOperator .colon)

/-- A bound of a slice, if it is there. -/
def bound (down : Levels) : Rule (Option Expr) := do
  if ← atSliceEnd then return none
  else return some (← down.expression true)

/-- An index or a slice. -/
def subscripted (down : Levels) : Rule Expr := do
  let line ← currentLine
  let start ← if ← atOperator .colon then pure none else some <$> down.expression true
  match start, ← atOperator .colon with
  | some index, false => return index
  | _, _ =>
    let _ ← advance
    let stop ← bound down
    let step ← if ← skipOperator .colon then boundAtEnd else pure none
    return .slice line start stop step
where
  /-- The last bound, after which no colon may follow. -/
  boundAtEnd : Rule (Option Expr) := do
    if (← atOperator .rbracket) || (← atOperator .comma) then return none
    else return some (← down.expression true)

/-- An attribute after a point, or subscripts in brackets. -/
def subscript (down : Levels) (object : Expr) : Rule Expr := do
  let token ← advance
  if isOperator .dot token then
    let attr ← advance
    match attr.lexeme with
    | .name id => return .getattr token.line object id
    | .integer value => return .getitem token.line object (.const attr.line (.int value))
    | _ => objectAt attr.line .nameOrNumberExpected
  else
    let indices ← repeatFrom ([] : List Expr) fun indices => do
      if ← atOperator .rbracket then return none
      if !indices.isEmpty then
        let _ ← expectOperator .comma
      return some (indices ++ [← subscripted down])
    let _ ← expectOperator .rbracket
    match indices with
    | [index] => return .getitem token.line object index
    | _ => return .getitem token.line object (.tuple token.line indices .load)

/-- The arguments that were read so far. -/
structure ArgumentsRead where
  positional : List Expr := []
  keywords : List (String × Expr) := []
  more : Option Expr := none
  moreKeywords : Option Expr := none

/-- One argument; `line` is where the arguments begin. -/
def argument (down : Levels) (line : Nat) (read : ArgumentsRead) : Rule ArgumentsRead := do
  let token ← current
  if isOperator .mul token then
    if read.more.isSome || read.moreKeywords.isSome then objectAt line .misplacedArgument
    let _ ← advance
    return { read with more := some (← down.expression true) }
  else if isOperator .pow token then
    if read.moreKeywords.isSome then objectAt line .misplacedArgument
    let _ ← advance
    return { read with moreKeywords := some (← down.expression true) }
  else
    match token.lexeme with
    | .name id =>
      if isOperator .assign (← lookahead) then
        if read.moreKeywords.isSome then objectAt line .misplacedArgument
        let _ ← advance
        let _ ← advance
        return { read with keywords := read.keywords ++ [(id, ← down.expression true)] }
      else plain
    | _ => plain
where
  /-- An argument without a name. -/
  plain : Rule ArgumentsRead := do
    if read.more.isSome || read.moreKeywords.isSome || !read.keywords.isEmpty then
      objectAt line .misplacedArgument
    return { read with positional := read.positional ++ [← down.expression true] }

/-- Arguments in parentheses. -/
def arguments (down : Levels) : Rule Arguments := do
  let line := (← expectOperator .lparen).line
  let (read, _) ← repeatFrom ((({} : ArgumentsRead)), false) fun (read, needsComma) => do
    if ← atOperator .rparen then return none
    if needsComma then
      let _ ← expectOperator .comma
    if ← atOperator .rparen then return none
    return some (← argument down line read, true)
  let _ ← expectOperator .rparen
  return .mk read.positional read.keywords read.more read.moreKeywords

/-- A call of what was read. -/
def call (down : Levels) (function : Expr) : Rule Expr := do
  let line ← currentLine
  return .call line function (← arguments down)

/-- Attributes, subscripts and calls after an operand. -/
def postfixed (down : Levels) (operand : Expr) : Rule Expr :=
  repeatFrom operand fun operand => do
    if (← atOperator .dot) || (← atOperator .lbracket) then return some (← subscript down operand)
    else if ← atOperator .lparen then return some (← call down operand)
    else return none

/-- The name of a filter or a test, with its points. -/
def dottedName : Rule (Nat × String) := do
  let (line, first) ← expectName
  let whole ← repeatFrom first fun id => do
    if ← skipOperator .dot then return some (id ++ "." ++ (← expectName).2)
    else return none
  return (line, whole)

/-- Arguments if they are there. -/
def argumentsIfAny (down : Levels) : Rule Arguments := do
  if ← atOperator .lparen then arguments down else return .none

/-- One filter, after its bar. -/
def oneFilter (down : Levels) (subject : Option Expr) : Rule Expr := do
  let (line, id) ← dottedName
  return .filter line subject id (← argumentsIfAny down)

/-- A chain of filters, each after a bar. -/
def filters (down : Levels) (subject : Option Expr) : Rule (Option Expr) :=
  repeatFrom subject fun subject => do
    if ← skipOperator .pipe then return some (some (← oneFilter down subject))
    else return none

/-- Whether the argument of a test without parentheses begins here. -/
def atTestArgument : Rule Bool := do
  let token ← current
  match token.lexeme with
  | .name id => return !(["else", "or", "and"].contains id)
  | .string _ | .integer _ | .float _ => return true
  | .operator op => return op == .lparen || op == .lbracket || op == .lbrace
  | _ => return false

/-- A test of what was read, after the word `is`. -/
def testOf (down : Levels) (subject : Expr) : Rule Expr := do
  let line := (← advance).line
  let negated ← skipWord "not"
  let (_, id) ← dottedName
  let args ←
    if ← atOperator .lparen then arguments down
    else if ← atTestArgument then do
      if ← atWord "is" then object .chainedTests
      let operand ← postfixed down (← primary down false)
      pure (.mk [operand] [] none none)
    else pure .none
  let test := Expr.test line subject id args
  return if negated then .unary line .not test else test

/-- Filters, tests and calls after an operand. -/
def filtered (down : Levels) (operand : Expr) : Rule Expr :=
  repeatFrom operand fun operand => do
    if ← atOperator .pipe then
      return some ((← filters down (some operand)).getD operand)
    else if ← atWord "is" then return some (← testOf down operand)
    else if ← atOperator .lparen then return some (← call down operand)
    else return none

/-- An operand with its signs and with what follows it. -/
def operand (down : Levels) (withFilters : Bool) : Rule Expr := do
  let token ← current
  let inner ←
    if isOperator .sub token then do
      let _ ← advance
      pure (.unary token.line .neg (← down.operand false))
    else if isOperator .add token then do
      let _ ← advance
      pure (.unary token.line .pos (← down.operand false))
    else primary down false
  let whole ← postfixed down inner
  if withFilters then filtered down whole else return whole

/-! ### Operators -/

/-- Operands of one level with operators between them, grouped to the left. -/
def leftChain (side : Rule Expr) (operator? : Token → Option BinaryOp) : Rule Expr := do
  let start ← currentLine
  let first ← side
  let (whole, _) ← repeatFrom (first, start) fun (left, line) => do
    match operator? (← current) with
    | none => return none
    | some op =>
      let _ ← advance
      let right ← side
      return some (.binary line op left right, ← currentLine)
  return whole

/-- Powers. -/
def power (down : Levels) : Rule Expr :=
  leftChain (operand down true) fun token => if isOperator .pow token then some .pow else none

/-- Products and quotients. -/
def product (down : Levels) : Rule Expr :=
  leftChain (power down) fun token =>
    match token.lexeme with
    | .operator .mul => some .mul
    | .operator .div => some .div
    | .operator .floordiv => some .floordiv
    | .operator .mod => some .mod
    | _ => none

/-- Texts put together. -/
def concatenation (down : Levels) : Rule Expr := do
  let line ← currentLine
  let first ← product down
  let parts ← repeatFrom [first] fun parts => do
    if ← skipOperator .tilde then return some (parts ++ [← product down])
    else return none
  match parts with
  | [only] => return only
  | _ => return .concat line parts

/-- Sums and differences. -/
def sum (down : Levels) : Rule Expr :=
  leftChain (concatenation down) fun token =>
    match token.lexeme with
    | .operator .add => some .add
    | .operator .sub => some .sub
    | _ => none

/-- The comparison at the current token, with the number of its tokens. -/
def comparison? : Rule (Option (CompareOp × Nat)) := do
  let token ← current
  match token.lexeme with
  | .operator .eq => return some (.eq, 1)
  | .operator .ne => return some (.ne, 1)
  | .operator .lt => return some (.lt, 1)
  | .operator .lteq => return some (.lteq, 1)
  | .operator .gt => return some (.gt, 1)
  | .operator .gteq => return some (.gteq, 1)
  | .name "in" => return some (.isIn, 1)
  | .name "not" => if isWord "in" (← lookahead) then return some (.notIn, 2) else return none
  | _ => return none

/-- A chain of comparisons. -/
def comparison (down : Levels) : Rule Expr := do
  let start ← currentLine
  let first ← sum down
  let (others, line) ← repeatFrom (([] : List (CompareOp × Expr)), start) fun (others, _) => do
    match ← comparison? with
    | none => return none
    | some (op, count) =>
      let _ ← advance
      if count == 2 then
        let _ ← advance
      let right ← sum down
      return some (others ++ [(op, right)], ← currentLine)
  return if others.isEmpty then first else .compare line first others

/-- An expression under `not`. -/
def negation (down : Levels) : Rule Expr := do
  let token ← current
  if isWord "not" token then
    let _ ← advance
    return .unary token.line .not (← down.negation)
  else comparison down

/-- Expressions with `and` between them. -/
def conjunction (down : Levels) : Rule Expr :=
  leftChain (negation down) fun token => if isWord "and" token then some .and else none

/-- Expressions with `or` between them. -/
def disjunction (down : Levels) : Rule Expr :=
  leftChain (conjunction down) fun token => if isWord "or" token then some .or else none

/-- Conditional expressions. -/
def conditional (down : Levels) : Rule Expr := do
  let start ← currentLine
  let first ← disjunction down
  let (whole, _) ← repeatFrom (first, start) fun (whenTrue, line) => do
    if ← skipWord "if" then
      let test ← disjunction down
      let whenFalse ←
        if ← skipWord "else" then some <$> down.expression true else pure none
      return some (.conditional line test whenTrue whenFalse, ← currentLine)
    else return none
  return whole

/-- A whole expression. -/
def expression (down : Levels) (conditionals : Bool) : Rule Expr :=
  if conditionals then conditional down else disjunction down

end TemplateWorkbench.Template.Grammar
