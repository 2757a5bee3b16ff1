/-!
# Lines

How lines end, and where they start.
-/

namespace TemplateWorkbench.Text

/-!
## Line ends

A source may end its lines with LF, CR or CRLF.  `normalize` brings them to LF by two replacements
over the whole text, `unify` by one pass that takes the longest line end at each place; the lexer
works on the second, the views on the first, and both are the same function.

Lines that are quoted to the reader are cut at more places: `splitLines` also ends a line at the
vertical controls and at the separators of later standards.
-/

/-- Every CRLF replaced by LF; a CR that no LF follows stays. -/
def replaceCrLf : List Char → List Char
  | '\r' :: '\n' :: rest => '\n' :: replaceCrLf rest
  | c :: rest => c :: replaceCrLf rest
  | [] => []

/-- Every CR replaced by LF. -/
def replaceCr (text : List Char) : List Char :=
  text.map fun c => if c = '\r' then '\n' else c

/-- All line ends brought to LF, first the double ones and then the single ones. -/
def normalize (text : List Char) : List Char := replaceCr (replaceCrLf text)

/-- All line ends brought to LF in one pass, the longest line end first. -/
def unify : List Char → List Char
  | '\r' :: '\n' :: rest => '\n' :: unify rest
  | '\r' :: rest => '\n' :: unify rest
  | c :: rest => c :: unify rest
  | [] => []

/-- All line ends of a text brought to LF. -/
def normalizeNewlines (text : String) : String := String.ofList (normalize text.toList)

/-- The text without one line feed at its very end. -/
def dropFinalNewline : List Char → List Char
  | [] => []
  | ['\n'] => []
  | c :: rest => c :: dropFinalNewline rest

/-- Whether a character ends a line of quoted text; CR and LF are among them. -/
def isLineBoundary (c : Char) : Bool :=
  let code := c.toNat
  (10 ≤ code && code ≤ 13) || (0x1C ≤ code && code ≤ 0x1E) || code == 0x85 ||
    code == 0x2028 || code == 0x2029

/-- The pieces between line boundaries; `line` holds the open line, last character first.  An empty
piece after a final boundary is not a line. -/
def splitLinesFrom (line : List Char) : List Char → List (List Char)
  | [] => if line.isEmpty then [] else [line.reverse]
  | '\r' :: '\n' :: rest => line.reverse :: splitLinesFrom [] rest
  | c :: rest =>
    if isLineBoundary c then line.reverse :: splitLinesFrom [] rest
    else splitLinesFrom (c :: line) rest

/-- The pieces between line boundaries, each with the boundary that ends it. -/
def wholeLinesFrom (line : List Char) : List Char → List (List Char)
  | [] => if line.isEmpty then [] else [line.reverse]
  | '\r' :: '\n' :: rest => ('\n' :: '\r' :: line).reverse :: wholeLinesFrom [] rest
  | c :: rest =>
    if isLineBoundary c then (c :: line).reverse :: wholeLinesFrom [] rest
    else wholeLinesFrom (c :: line) rest

/-- The lines of a text with their ends. -/
def wholeLines (text : List Char) : List (List Char) := wholeLinesFrom [] text

/-- The lines of a text as a reader counts them. -/
def splitLines (text : List Char) : List (List Char) := splitLinesFrom [] text

/-!
## Positions and spans

Offsets into a text count characters from zero; the reader is shown lines and columns, both counted
from one.  A `LineIndex` holds the offsets at which the lines start, so that the line of an offset
is the number of starts up to it.
-/

/-- A place in a text: line and column, both counted from one. -/
structure Position where
  line : Nat
  column : Nat
deriving DecidableEq, Repr

/-- A range of a source; the end is the place just after the last character. -/
structure Span where
  startLine : Int
  startColumn : Int
  endLine : Int
  endColumn : Int
deriving DecidableEq, Repr

/-- The span written `line:column-line:column`. -/
def Span.text (span : Span) : String :=
  s!"{span.startLine}:{span.startColumn}-{span.endLine}:{span.endColumn}"

/-- The offsets at which lines start, the first line's included. -/
structure LineIndex where
  starts : List Nat

namespace LineIndex

/-- The offsets just after each line feed of a text that begins at `offset`. -/
def startsFrom (offset : Nat) : List Char → List Nat
  | [] => []
  | c :: rest =>
    if c = '\n' then (offset + 1) :: startsFrom (offset + 1) rest else startsFrom (offset + 1) rest

/-- The index of a text whose line ends are line feeds. -/
def ofText (text : List Char) : LineIndex := ⟨0 :: startsFrom 0 text⟩

/-- The starts up to an offset, the latest last. -/
def startsUpTo (index : LineIndex) (offset : Nat) : List Nat :=
  index.starts.takeWhile fun start => decide (start ≤ offset)

/-- The place of an offset; an offset past the end counts as lying on the last line. -/
def position (index : LineIndex) (offset : Nat) : Position :=
  let before := index.startsUpTo offset
  ⟨before.length, offset - before.getLastD 0 + 1⟩

/-- The span between two offsets. -/
def span (index : LineIndex) (start stop : Nat) : Span :=
  let first := index.position start
  let last := index.position stop
  ⟨first.line, first.column, last.line, last.column⟩

end LineIndex

end TemplateWorkbench.Text
