import TemplateWorkbench.Template.TokenList
import TemplateWorkbench.Template.Syntax

/-!
# Reading tokens

The grammar looks at one token at a time and rarely at the one after it.  A fault of the lexer comes
up only when the token that it stands for is reached, so what the grammar objects to before wins.

Rules that call each other are tied together from outside: `Levels` holds the rules one level further
down, and a rule that goes down takes them from there.
-/

namespace TemplateWorkbench.Template.Grammar

/-- The tokens that are left: the current one, those after it, and the fault at their end. -/
structure Stream where
  current : Token
  rest : List Token
  fault : Option (Nat × Misreading)

/-- What surrounds the place that is read: the tags that would end each open block, and the open
tags, the innermost last. -/
structure Surroundings where
  awaited : List (List String)
  openTags : List String

/-- A rule of the grammar. -/
abbrev Rule := ReaderT Surroundings (StateT Stream (Except Fault))

/-- Stops with an objection at a line. -/
def objectAt {α : Type} (line : Nat) (misreading : Misreading) : Rule α :=
  throw (misreading.fault line)

/-- The current token. -/
def current : Rule Token := do return (← get).current

/-- The line of the current token. -/
def currentLine : Rule Nat := do return (← current).line

/-- Stops with an objection at the current token. -/
def object {α : Type} (misreading : Misreading) : Rule α := do
  objectAt (← currentLine) misreading

/-- The stream after one more token; after the last token the end of the template stands at the line
of the token before it. -/
def Stream.next (stream : Stream) : Except Fault Stream :=
  match stream.rest, stream.fault with
  | token :: rest, _ => .ok { stream with current := token, rest }
  | [], some (line, misreading) => .error (misreading.fault line)
  | [], none => .ok { stream with current := ⟨stream.current.line, .finish⟩ }

/-- Goes to the next token and returns the one that was current. -/
def advance : Rule Token := do
  let stream ← get
  set (← (stream.next : Except Fault Stream))
  return stream.current

/-- The token after the current one. -/
def lookahead : Rule Token := do
  let next ← ((← get).next : Except Fault Stream)
  return next.current

/-- The stream of a source, at its first token. -/
def Stream.ofTokens (list : TokenList) : Except Fault Stream :=
  Stream.next ⟨⟨1, .finish⟩, list.tokens, list.fault⟩

/-- Whether a token is a given operator. -/
def isOperator (op : Operator) (token : Token) : Bool := token.lexeme == .operator op

/-- Whether a token is a given word. -/
def isWord (word : String) (token : Token) : Bool := token.lexeme == .name word

/-- Whether a token is one of several words. -/
def isOneOf (words : List String) (token : Token) : Bool := words.any (isWord · token)

/-- Whether the current token is a given operator. -/
def atOperator (op : Operator) : Rule Bool := do return isOperator op (← current)

/-- Whether the current token is a given word. -/
def atWord (word : String) : Rule Bool := do return isWord word (← current)

/-- Whether the current token is a given lexeme. -/
def atLexeme (lexeme : Lexeme) : Rule Bool := do return (← current).lexeme == lexeme

/-- Takes the current token if it is a given lexeme, and tells whether it was. -/
def skipIf (lexeme : Lexeme) : Rule Bool := do
  if ← atLexeme lexeme then
    let _ ← advance
    return true
  else return false

/-- Takes an operator if it is there. -/
def skipOperator (op : Operator) : Rule Bool := skipIf (.operator op)

/-- Takes a word if it is there. -/
def skipWord (word : String) : Rule Bool := skipIf (.name word)

/-- Takes a lexeme that has to be there. -/
def expect (lexeme : Lexeme) : Rule Token := do
  let token ← current
  if token.lexeme == lexeme then advance
  else object (.expectedToken lexeme.describe token.lexeme)

/-- Takes an operator that has to be there. -/
def expectOperator (op : Operator) : Rule Token := expect (.operator op)

/-- Takes a word that has to be there. -/
def expectWord (word : String) : Rule Token := expect (.name word)

/-- Takes a name that has to be there; returns its line and the name. -/
def expectName : Rule (Nat × String) := do
  let token ← current
  match token.lexeme with
  | .name id =>
    let _ ← advance
    return (token.line, id)
  | found => object (.expectedToken "name" found)

/-- The steps of a loop that goes on as long as there is a next value, at most `count` of them. -/
def repeatCounted {α : Type} (step : α → Rule (Option α)) : Nat → α → Rule α
  | 0, value => pure value
  | count + 1, value => do
    match ← step value with
    | some next => repeatCounted step count next
    | none => pure value

/-- Goes on as long as there is a next value.  Every step but the last takes a token, so the count of
those left bounds the loop. -/
def repeatFrom {α : Type} (start : α) (step : α → Rule (Option α)) : Rule α := do
  repeatCounted step ((← get).rest.length + 2) start

/-- The rules one level further down. -/
structure Levels where
  /-- A whole expression; conditional ones may be left out. -/
  expression : (conditionals : Bool) → Rule Expr
  /-- An expression under `not`. -/
  negation : Rule Expr
  /-- An operand; the filters and tests after it may be left out. -/
  operand : (filters : Bool) → Rule Expr
  /-- Statements up to one of the given tags. -/
  body : List String → Rule (List Statement)

/-- The fault of rules that go deeper than their tokens allow. -/
def depthFault : Fault :=
  ⟨.recursion, "maximum recursion depth exceeded", none, none⟩

/-- The rules below which nothing is read. -/
def Levels.bottom : Levels :=
  ⟨fun _ => throw depthFault, throw depthFault, fun _ => throw depthFault,
    fun _ => throw depthFault⟩

end TemplateWorkbench.Template.Grammar
