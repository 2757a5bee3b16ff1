import TemplateWorkbench.Template.Token
import TemplateWorkbench.Unicode.Identifier
import TemplateWorkbench.Unicode.Character
import TemplateWorkbench.Text.Lines
import TemplateWorkbench.Text.Quoted

/-!
# Lexer

The lexer cuts a source into pieces, each a kind with the text it matched and the line on which it
begins.  Outside of tags the text up to the next tag is template data; inside, the usual literals,
names and operators are read, and the tag's end is recognised only when all brackets are closed.  A
minus sign at a tag takes away the blanks on its side: before an opening mark they belong to no
piece, after a closing mark they belong to the mark.

What the lexer cannot go on from ends the list of pieces with a fault.
-/

namespace TemplateWorkbench.Template

/-- The kinds of pieces. -/
inductive PieceKind where
  | data | variableBegin | variableEnd | blockBegin | blockEnd
  | commentBegin | comment | commentEnd | rawBegin | rawEnd
  | whitespace | float | integer | name | string | operator
deriving DecidableEq, Repr, Inhabited

/-- A piece of a source. -/
structure Piece where
  line : Nat
  kind : PieceKind
  text : List Char
deriving Repr, Inhabited

/-- Why the lexer cannot go on. -/
inductive LexicalFault where
  | openComment
  | openRaw
  | unopened (closing : Char)
  | mismatched (closing expected : Char)
  | unexpectedChar (c : Char) (offset : Nat)
deriving DecidableEq, Repr

/-- What is said of a lexical fault. -/
def LexicalFault.message : LexicalFault → String
  | .openComment => "Missing end of comment tag"
  | .openRaw => "Missing end of raw directive"
  | .unopened closing => s!"unexpected '{closing}'"
  | .mismatched closing expected => s!"unexpected '{closing}', expected '{expected}'"
  | .unexpectedChar c offset => s!"unexpected char {Text.quote c.toString} at {offset}"

/-- The pieces of a source, and the fault that ended them with its line. -/
structure Lexed where
  pieces : List Piece
  fault : Option (Nat × LexicalFault)
deriving Inhabited

namespace Lexer

/-- The number of line feeds in a text. -/
def newlines (text : List Char) : Nat := text.count '\n'

/-- The blanks at the front of a text, and the rest. -/
def spanBlanks (text : List Char) : List Char × List Char := text.span Unicode.isBlank

/-- The rest after a given beginning. -/
def after? (front text : List Char) : Option (List Char) :=
  if front.isPrefixOf text then some (text.drop front.length) else none

/-- An optional sign at the front of a text, and the rest. -/
def spanSign : List Char → List Char × List Char
  | '-' :: rest => (['-'], rest)
  | '+' :: rest => (['+'], rest)
  | text => ([], text)

/-! ### Tags -/

/-- What an opening mark opens. -/
inductive Opening where
  | variable | block | comment | raw
deriving DecidableEq, Repr

/-- An opening mark at the front of a text: what it opens, its sign, its text and the rest. -/
structure Mark where
  opening : Opening
  sign : List Char
  text : List Char
  rest : List Char

/-- The closing of a statement tag: a sign before it, and with a minus the blanks after it. -/
def closeBlock? (text : List Char) : Option (List Char × List Char) :=
  match text with
  | '%' :: '}' :: rest => some (['%', '}'], rest)
  | '+' :: '%' :: '}' :: rest => some (['+', '%', '}'], rest)
  | '-' :: '%' :: '}' :: rest =>
    let (blanks, others) := spanBlanks rest
    some ('-' :: '%' :: '}' :: blanks, others)
  | _ => none

/-- The closing of a print tag. -/
def closeVariable? (text : List Char) : Option (List Char × List Char) :=
  match text with
  | '}' :: '}' :: rest => some (['}', '}'], rest)
  | '-' :: '}' :: '}' :: rest =>
    let (blanks, others) := spanBlanks rest
    some ('-' :: '}' :: '}' :: blanks, others)
  | _ => none

/-- The closing of a comment. -/
def closeComment? (text : List Char) : Option (List Char × List Char) :=
  match text with
  | '#' :: '}' :: rest => some (['#', '}'], rest)
  | '+' :: '#' :: '}' :: rest => some (['+', '#', '}'], rest)
  | '-' :: '#' :: '}' :: rest =>
    let (blanks, others) := spanBlanks rest
    some ('-' :: '#' :: '}' :: blanks, others)
  | _ => none

/-- The rest of a tag that opens raw text, after its mark and sign: `raw` between blanks and a
closing without a plus. -/
def rawTag? (text : List Char) : Option (List Char × List Char) := do
  let (before, word) := spanBlanks text
  let afterWord ← after? "raw".toList word
  let (behind, closing) := spanBlanks afterWord
  let (close, rest) ← (if closing.head? = some '+' then none else closeBlock? closing)
  some (before ++ "raw".toList ++ behind ++ close, rest)

/-- The opening mark at the front of a text. -/
def openMark? : List Char → Option Mark
  | '{' :: '%' :: rest =>
    let (sign, body) := spanSign rest
    match rawTag? body with
    | some (tag, others) => some ⟨.raw, sign, '{' :: '%' :: sign ++ tag, others⟩
    | none => some ⟨.block, sign, '{' :: '%' :: sign, body⟩
  | '{' :: '{' :: rest =>
    let (sign, body) := spanSign rest
    some ⟨.variable, sign, '{' :: '{' :: sign, body⟩
  | '{' :: '#' :: rest =>
    let (sign, body) := spanSign rest
    some ⟨.comment, sign, '{' :: '#' :: sign, body⟩
  | _ => none

/-- The tag that ends raw text, at the front of a text: its sign, its text and the rest. -/
def endRaw? : List Char → Option (List Char × List Char × List Char)
  | '{' :: '%' :: rest => do
    let (sign, body) := spanSign rest
    let (before, word) := spanBlanks body
    let afterWord ← after? "endraw".toList word
    let (behind, closing) := spanBlanks afterWord
    let (close, others) ← closeBlock? closing
    some (sign, '{' :: '%' :: sign ++ before ++ "endraw".toList ++ behind ++ close, others)
  | _ => none

/-- The text before the first place where `match?` succeeds, and its result there. -/
def seek {α : Type} (match? : List Char → Option α) :
    List Char → Option (List Char × α)
  | [] => (match? []).map ([], ·)
  | c :: rest =>
    match match? (c :: rest) with
    | some found => some ([], found)
    | none => (seek match? rest).map fun (skipped, found) => (c :: skipped, found)

/-! ### Literals, names and operators -/

/-- The longest run of digits of a class at the front of a text, single underscores allowed between
two of them. -/
def digitRun (isDigit : Char → Bool) : List Char → List Char
  | [] => []
  | c :: rest => if isDigit c then c :: more rest else []
where
  /-- What may follow a digit. -/
  more : List Char → List Char
    | '_' :: c :: rest => if isDigit c then '_' :: c :: more rest else []
    | c :: rest => if isDigit c then c :: more rest else []
    | [] => []

/-- Digits that follow a mark, each of which may have an underscore before it. -/
def markedRun (isDigit : Char → Bool) : List Char → List Char
  | '_' :: c :: rest => if isDigit c then '_' :: c :: markedRun isDigit rest else []
  | c :: rest => if isDigit c then c :: markedRun isDigit rest else []
  | [] => []

/-- An exponent at the front of a text. -/
def exponent? (text : List Char) : Option (List Char) :=
  match text with
  | mark :: rest =>
    if mark = 'e' || mark = 'E' then
      let (sign, digits) := spanSign rest
      let run := digitRun Unicode.isDigit digits
      if run.isEmpty then none else some (mark :: sign ++ run)
    else none
  | [] => none

/-- A fraction at the front of a text. -/
def fraction? (text : List Char) : Option (List Char) :=
  match text with
  | '.' :: rest =>
    let run := digitRun Unicode.isDigit rest
    if run.isEmpty then none else some ('.' :: run)
  | _ => none

/-- A decimal literal at the front of a text: digits with a fraction, an exponent or both.  It may
not follow a point. -/
def float? (previous : Char) (text : List Char) : Option (List Char) :=
  if previous = '.' then none
  else
    let whole := digitRun Unicode.isDigit text
    if whole.isEmpty then none
    else
      let rest := text.drop whole.length
      let fraction := (fraction? rest).getD []
      let exponent := (exponent? (rest.drop fraction.length)).getD []
      if fraction.isEmpty && exponent.isEmpty then none else some (whole ++ fraction ++ exponent)

/-- Whether a character is a hexadecimal digit. -/
def isHexDigit (c : Char) : Bool :=
  Unicode.isDigit c || ('a' ≤ c && c ≤ 'f') || ('A' ≤ c && c ≤ 'F')

/-- A marked integer literal at the front of a text, for a mark given in both cases. -/
def markedInteger? (small capital : Char) (isDigit : Char → Bool) (text : List Char) :
    Option (List Char) :=
  match text with
  | '0' :: mark :: rest =>
    if mark = small || mark = capital then
      let run := markedRun isDigit rest
      if run.isEmpty then none else some ('0' :: mark :: run)
    else none
  | _ => none

/-- An integer literal without a mark at the front of a text: zeros only, or digits that do not
start with a zero. -/
def plainInteger? (text : List Char) : Option (List Char) :=
  match text with
  | '0' :: rest => some ('0' :: markedRun (· == '0') rest)
  | c :: rest =>
    if '1' ≤ c && c ≤ '9' then some (c :: markedRun Unicode.isDigit rest) else none
  | [] => none

/-- An integer literal at the front of a text. -/
def integer? (text : List Char) : Option (List Char) :=
  markedInteger? 'b' 'B' (fun c => c == '0' || c == '1') text <|>
  markedInteger? 'o' 'O' (fun c => '0' ≤ c && c ≤ '7') text <|>
  markedInteger? 'x' 'X' isHexDigit text <|>
  plainInteger? text

/-- A name at the front of a text. -/
def name? (text : List Char) : Option (List Char) :=
  let word := text.takeWhile Unicode.isWord
  if word.isEmpty then none else some word

/-- The rest of a text literal up to its closing quote, the quote included. -/
def quotedRest? (quote : Char) : List Char → Option (List Char)
  | [] => none
  | '\\' :: c :: rest => (quotedRest? quote rest).map ('\\' :: c :: ·)
  | c :: rest =>
    if c = quote then some [c]
    else if c = '\\' then none
    else (quotedRest? quote rest).map (c :: ·)

/-- A text literal at the front of a text. -/
def string? (text : List Char) : Option (List Char) :=
  match text with
  | '\'' :: rest => (quotedRest? '\'' rest).map ('\'' :: ·)
  | '"' :: rest => (quotedRest? '"' rest).map ('"' :: ·)
  | _ => none

/-- An operator at the front of a text. -/
def operator? (text : List Char) : Option (List Char) :=
  (Operator.spellings.find? fun spelling => spelling.1.toList.isPrefixOf text).map (·.1.toList)

/-- The piece at the front of a text inside a tag: the first kind that matches. -/
def inside? (previous : Char) (text : List Char) : Option (PieceKind × List Char) :=
  let blanks := text.takeWhile Unicode.isBlank
  if !blanks.isEmpty then some (.whitespace, blanks)
  else
    (float? previous text).map (PieceKind.float, ·) <|>
    (integer? text).map (PieceKind.integer, ·) <|>
    (name? text).map (PieceKind.name, ·) <|>
    (string? text).map (PieceKind.string, ·) <|>
    (operator? text).map (PieceKind.operator, ·)

/-! ### The machine -/

/-- Where the lexer stands. -/
inductive Mode where
  | outside
  | comment
  | raw
  | tag (isBlock : Bool)
deriving DecidableEq, Repr

/-- The state between two pieces: what is being read, the brackets that are open (the expected
closing ones, innermost first), the line, and the last character taken. -/
structure State where
  mode : Mode
  brackets : List Char
  line : Nat
  previous : Char

/-- The last character of a text. -/
def lastOf (fallback : Char) (text : List Char) : Char := text.getLastD fallback

/-- What one step finds: pieces, the state after them and the rest; or a fault; or the end. -/
inductive Step where
  | pieces (found : List Piece) (next : State) (rest : List Char)
  | fault (line : Nat) (what : LexicalFault)
  | finished

/-- A piece, unless its text is empty. -/
def pieceUnlessEmpty (line : Nat) (kind : PieceKind) (text : List Char) : List Piece :=
  if text.isEmpty then [] else [⟨line, kind, text⟩]

/-- Template data before a tag, with the blanks before a minus sign taken away. -/
def stripBefore (sign text : List Char) : List Char :=
  if sign = ['-'] then Unicode.dropTrailing Unicode.isBlank text else text

/-- One step outside of tags: the data up to the next opening mark, and the mark. -/
def stepOutside (state : State) (text : List Char) : Step :=
  match seek openMark? text with
  | some (before, mark) =>
    let line := state.line + newlines before
    let kind : PieceKind := match mark.opening with
      | .variable => .variableBegin
      | .block => .blockBegin
      | .comment => .commentBegin
      | .raw => .rawBegin
    let mode : Mode := match mark.opening with
      | .variable => .tag false
      | .block => .tag true
      | .comment => .comment
      | .raw => .raw
    .pieces
      (pieceUnlessEmpty state.line .data (stripBefore mark.sign before) ++
        [⟨line, kind, mark.text⟩])
      ⟨mode, [], line + newlines mark.text, lastOf ' ' mark.text⟩ mark.rest
  | none =>
    if text.isEmpty then .finished
    else
      .pieces [⟨state.line, .data, text⟩]
        { state with line := state.line + newlines text, previous := lastOf ' ' text } []

/-- One step inside a comment: all of it, and its closing. -/
def stepComment (state : State) (text : List Char) : Step :=
  match seek closeComment? text with
  | some (before, close, rest) =>
    let line := state.line + newlines before
    .pieces
      (pieceUnlessEmpty state.line .comment before ++ [⟨line, .commentEnd, close⟩])
      ⟨.outside, [], line + newlines close, lastOf ' ' close⟩ rest
  | none => if text.isEmpty then .finished else .fault state.line .openComment

/-- One step inside raw text: all of it, and the tag that ends it. -/
def stepRaw (state : State) (text : List Char) : Step :=
  match seek endRaw? text with
  | some (before, sign, tag, rest) =>
    let line := state.line + newlines before
    .pieces
      (pieceUnlessEmpty state.line .data (stripBefore sign before) ++ [⟨line, .rawEnd, tag⟩])
      ⟨.outside, [], line + newlines tag, lastOf ' ' tag⟩ rest
  | none => if text.isEmpty then .finished else .fault state.line .openRaw

/-- The open brackets after an operator, or the fault of a closing bracket. -/
def bracketsAfter (brackets : List Char) (op : List Char) : Except LexicalFault (List Char) :=
  match op with
  | ['{'] => .ok ('}' :: brackets)
  | ['('] => .ok (')' :: brackets)
  | ['['] => .ok (']' :: brackets)
  | [c] =>
    if c = '}' || c = ')' || c = ']' then
      match brackets with
      | [] => .error (.unopened c)
      | expected :: others => if expected = c then .ok others else .error (.mismatched c expected)
    else .ok brackets
  | _ => .ok brackets

/-- The closing of the tag, if no bracket is open. -/
def closeTag? (isBlock : Bool) (brackets text : List Char) : Option (List Char × List Char) :=
  if !brackets.isEmpty then none
  else if isBlock then closeBlock? text
  else closeVariable? text

/-- One step inside a tag: its closing, or one piece. -/
def stepTag (isBlock : Bool) (state : State) (text : List Char) (offset : Nat) : Step :=
  match closeTag? isBlock state.brackets text with
  | some (close, rest) =>
    .pieces [⟨state.line, if isBlock then .blockEnd else .variableEnd, close⟩]
      ⟨.outside, [], state.line + newlines close, lastOf ' ' close⟩ rest
  | none =>
    match text, inside? state.previous text with
    | _, some (kind, found) =>
      let brackets :=
        if kind = .operator then bracketsAfter state.brackets found else .ok state.brackets
      match brackets with
      | .error fault => .fault state.line fault
      | .ok brackets =>
        .pieces [⟨state.line, kind, found⟩]
          ⟨.tag isBlock, brackets, state.line + newlines found, lastOf ' ' found⟩
          (text.drop found.length)
    | c :: _, none => .fault state.line (.unexpectedChar c offset)
    | [], none => .finished

/-- One step in any state; `offset` counts the characters before the text. -/
def step (state : State) (text : List Char) (offset : Nat) : Step :=
  match state.mode with
  | .outside => stepOutside state text
  | .comment => stepComment state text
  | .raw => stepRaw state text
  | .tag isBlock => stepTag isBlock state text offset

/-- Runs the machine; every step takes at least one character, so a fuel of one more than the
length of the text never runs out. -/
def run (length : Nat) : Nat → State → List Char → Lexed
  | 0, _, _ => ⟨[], none⟩
  | fuel + 1, state, text =>
    match step state text (length - text.length) with
    | .finished => ⟨[], none⟩
    | .fault line what => ⟨[], some (line, what)⟩
    | .pieces found next rest =>
      let others := run length fuel next rest
      ⟨found ++ others.pieces, others.fault⟩

end Lexer

/-- The source as the lexer reads it: line ends unified, one final line end dropped. -/
def lexerSource (source : List Char) : List Char := Text.dropFinalNewline (Text.unify source)

/-- The pieces of a source. -/
def lex (source : List Char) : Lexed :=
  let text := lexerSource source
  Lexer.run text.length (text.length + 1) ⟨.outside, [], 1, ' '⟩ text

end TemplateWorkbench.Template
