import TemplateWorkbench.Number.Double

/-!
# Tokens

What the grammar of templates is written over.  Template data, names, texts and numbers carry a
value; the marks that open and close tags and the operators do not.  A token knows the line on
which its text begins.
-/

namespace TemplateWorkbench.Template

/-- The operators and brackets of expressions. -/
inductive Operator where
  | add | sub | div | floordiv | mul | mod | pow | tilde
  | lbracket | rbracket | lparen | rparen | lbrace | rbrace
  | eq | ne | gt | gteq | lt | lteq
  | assign | dot | colon | pipe | comma | semicolon
deriving DecidableEq, Repr, Inhabited

namespace Operator

/-- Every operator with its spelling; two-character spellings come first, so that the first match
at a place is the longest. -/
def spellings : List (String × Operator) :=
  [("//", floordiv), ("**", pow), ("==", eq), ("!=", ne), (">=", gteq), ("<=", lteq),
    ("+", add), ("-", sub), ("/", div), ("*", mul), ("%", mod), ("~", tilde),
    ("[", lbracket), ("]", rbracket), ("(", lparen), (")", rparen), ("\x7b", lbrace),
    ("\x7d", rbrace), (">", gt), ("<", lt), ("=", assign), (".", dot), (":", colon),
    ("|", pipe), (",", comma), (";", semicolon)]

/-- How an operator is written. -/
def spelling (op : Operator) : String :=
  ((spellings.find? (·.2 == op)).map (·.1)).getD ""

/-- The name of an operator as a kind of token. -/
def kindName : Operator → String
  | add => "add" | sub => "sub" | div => "div" | floordiv => "floordiv" | mul => "mul"
  | mod => "mod" | pow => "pow" | tilde => "tilde" | lbracket => "lbracket"
  | rbracket => "rbracket" | lparen => "lparen" | rparen => "rparen" | lbrace => "lbrace"
  | rbrace => "rbrace" | eq => "eq" | ne => "ne" | gt => "gt" | gteq => "gteq" | lt => "lt"
  | lteq => "lteq" | assign => "assign" | dot => "dot" | colon => "colon" | pipe => "pipe"
  | comma => "comma" | semicolon => "semicolon"

end Operator

/-- A token without its place. -/
inductive Lexeme where
  | data (text : String)
  | variableBegin
  | variableEnd
  | blockBegin
  | blockEnd
  | name (id : String)
  | string (text : String)
  | integer (value : Int)
  | float (value : Double)
  | operator (op : Operator)
  /-- The end of the template. -/
  | finish
deriving DecidableEq, Repr, Inhabited

namespace Lexeme

/-- The kind of a token, as it is listed and as the grammar asks for it. -/
def kindName : Lexeme → String
  | data _ => "data"
  | variableBegin => "variable_begin"
  | variableEnd => "variable_end"
  | blockBegin => "block_begin"
  | blockEnd => "block_end"
  | name _ => "name"
  | string _ => "string"
  | integer _ => "integer"
  | float _ => "float"
  | operator op => op.kindName
  | finish => "eof"

/-- What a message calls a token: a name is called by itself, an operator by its spelling. -/
def describe : Lexeme → String
  | name id => id
  | operator op => op.spelling
  | data _ => "template data / text"
  | variableBegin => "begin of print statement"
  | variableEnd => "end of print statement"
  | blockBegin => "begin of statement block"
  | blockEnd => "end of statement block"
  | finish => "end of template"
  | other => other.kindName

end Lexeme

/-- A token at its line. -/
structure Token where
  line : Nat
  lexeme : Lexeme
deriving DecidableEq, Repr, Inhabited

end TemplateWorkbench.Template
