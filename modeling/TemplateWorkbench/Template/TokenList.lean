import TemplateWorkbench.Json.Basic
import TemplateWorkbench.Template.Fault
import TemplateWorkbench.Unicode.Identifier
import TemplateWorkbench.Text.Lines

/-!
# Token lists

Each piece that the lexer found is either without meaning for the grammar or makes one token.  The
tokens of a source are listed with the spans they cover; the spans are found again by looking, in
the source with unified line ends, for the text of each piece from the end of the one before.

Both lists end where a piece makes no token or the lexer cannot go on.
-/

namespace TemplateWorkbench.Template

/-- A literal's value as a lexeme, or the objection to the literal. -/
def literalLexeme {α : Type} (make : α → Lexeme) (value : Except LiteralFault α) :
    Except Misreading (Option Lexeme) :=
  match value with
  | .ok value => .ok (some (make value))
  | .error fault => .error (.literal fault)

/-- The lexeme that a piece makes, if it means anything to the grammar. -/
def Piece.lexeme? (piece : Piece) : Except Misreading (Option Lexeme) :=
  match piece.kind with
  | .data => .ok (some (.data (String.ofList (Text.unify piece.text))))
  | .variableBegin => .ok (some .variableBegin)
  | .variableEnd => .ok (some .variableEnd)
  | .blockBegin => .ok (some .blockBegin)
  | .blockEnd => .ok (some .blockEnd)
  | .float => literalLexeme .float (floatLiteral piece.text)
  | .integer => literalLexeme .integer (integerLiteral piece.text)
  | .string => literalLexeme .string (textLiteral (piece.text.drop 1).dropLast)
  | .name =>
    if Unicode.isIdentifier piece.text then .ok (some (.name (String.ofList piece.text)))
    else .error .foreignIdentifier
  | .operator =>
    .ok ((Operator.spellings.find? fun spelling => spelling.1.toList == piece.text).map
      fun spelling => .operator spelling.2)
  | .commentBegin | .comment | .commentEnd | .rawBegin | .rawEnd | .whitespace => .ok none

/-! ### Tokens for the grammar -/

/-- Tokens, and the objection at a line that ended them. -/
structure TokenList where
  tokens : List Token
  fault : Option (Nat × Misreading)
deriving Inhabited

/-- The tokens that a list of pieces makes; `ending` is what the lexer objected to after them. -/
def tokensOf (ending : Option (Nat × LexicalFault)) : List Piece → TokenList
  | [] => ⟨[], ending.map fun (line, fault) => (line, .lexical fault)⟩
  | piece :: rest =>
    match piece.lexeme? with
    | .error misreading => ⟨[], some (piece.line, misreading)⟩
    | .ok none => tokensOf ending rest
    | .ok (some lexeme) =>
      let others := tokensOf ending rest
      ⟨⟨piece.line, lexeme⟩ :: others.tokens, others.fault⟩

/-- The tokens of a source. -/
def tokenize (source : List Char) : TokenList :=
  let lexed := lex source
  tokensOf lexed.fault lexed.pieces

/-! ### Tokens with spans -/

/-- The number of characters before the first occurrence of a text. -/
def offsetOf? (needle : List Char) : List Char → Option Nat
  | [] => if needle.isEmpty then some 0 else none
  | c :: rest =>
    if needle.isPrefixOf (c :: rest) then some 0 else (offsetOf? needle rest).map (· + 1)

/-- A token with the span of its text. -/
structure PlacedToken where
  token : Token
  span : Text.Span
deriving DecidableEq, Repr

/-- Looks for the pieces one after another: `text` is what follows the offset `cursor`. -/
def placeFrom (index : Text.LineIndex) (ending : Option (Nat × LexicalFault)) (cursor : Nat)
    (text : List Char) : List Piece → Except Fault (List PlacedToken)
  | [] =>
    match ending with
    | some (line, fault) => .error ((Misreading.lexical fault).fault line)
    | none => .ok []
  | piece :: rest =>
    let skipped := (offsetOf? piece.text text).getD 0
    let start := cursor + skipped
    let stop := start + piece.text.length
    let others := placeFrom index ending stop (text.drop (skipped + piece.text.length)) rest
    match piece.lexeme? with
    | .error misreading => .error (misreading.fault piece.line)
    | .ok none => others
    | .ok (some lexeme) =>
      others.map fun placed => ⟨⟨piece.line, lexeme⟩, index.span start stop⟩ :: placed

/-- The tokens of a source with their spans. -/
def placedTokens (source : List Char) : Except Fault (List PlacedToken) :=
  let text := Text.normalize source
  let lexed := lex source
  placeFrom (Text.LineIndex.ofText text) lexed.fault 0 text lexed.pieces

/-- The value of a token that is shown beside its kind. -/
def Lexeme.payload? : Lexeme → Option Json
  | .data text => some (.string text)
  | .name id => some (.string id)
  | .string text => some (.string text)
  | .integer value => some (.int value)
  | .float value => some (.double value)
  | _ => none

end TemplateWorkbench.Template
