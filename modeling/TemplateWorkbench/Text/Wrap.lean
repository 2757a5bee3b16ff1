import TemplateWorkbench.Unicode.Character
import TemplateWorkbench.Unicode.Identifier

/-!
# Wrapping lines

A line is cut into chunks, and lines of a given width are filled with as many chunks as fit.  Blanks
are chunks of their own and do not begin or end a line, except for the blanks at the very front.
Words may also be cut after a hyphen between letters, and before and after a dash of several hyphens;
a chunk that is wider than a line may be broken.
-/

namespace TemplateWorkbench.Text

/-- How lines are wrapped. -/
structure Wrapping where
  width : Nat
  breaksWords : Bool
  breaksHyphens : Bool

/-- Whether a line may be cut at a character. -/
def isWrapBlank (c : Char) : Bool := c == ' ' || (9 ≤ c.toNat && c.toNat ≤ 13)

/-! ### Chunks -/

/-- Whether a dash may follow a character. -/
def bearsDash (c : Char) : Bool := Unicode.isWord c || "!\"'&.,?".toList.contains c

/-- Whether a text begins with a dash before a word, and the length of the dash. -/
def dash? (text : List Char) : Option Nat :=
  let length := (text.takeWhile (· == '-')).length
  if 2 ≤ length && ((text.drop length).head?).any Unicode.isWord then some length else none

/-- Whether a text begins with two letters, a hyphen between them or not. -/
def beginsWithLetters : List Char → Bool
  | first :: '-' :: second :: _ => Unicode.isWordLetter first && Unicode.isWordLetter second
  | first :: second :: _ => Unicode.isWordLetter first && Unicode.isWordLetter second
  | _ => false

/-- Whether the text before a hyphen, last character first, ends with letters. -/
def endsWithLetters : List Char → Bool
  | last :: '-' :: first :: _ => Unicode.isWordLetter last && Unicode.isWordLetter first
  | last :: first :: _ => Unicode.isWordLetter last && Unicode.isWordLetter first
  | _ => false

/-- The rest of the chunk of a word, of which at least one character has been read; `before` is what
was read, last character first. -/
def restOfWord (before : List Char) : List Char → List Char
  | [] => []
  | c :: rest =>
    if isWrapBlank c then []
    else if c == '-' && endsWithLetters before && beginsWithLetters rest then [c]
    else if before.head?.any bearsDash && (dash? (c :: rest)).isSome then []
    else c :: restOfWord (c :: before) rest

/-- The first chunk of a text that begins with `c`. -/
def firstChunk (hyphens : Bool) (before : List Char) (c : Char) (rest : List Char) : List Char :=
  if isWrapBlank c then c :: rest.takeWhile isWrapBlank
  else if !hyphens then c :: rest.takeWhile fun c => !isWrapBlank c
  else
    match (if before.head?.any bearsDash then dash? (c :: rest) else none) with
    | some length => (c :: rest).take length
    | none => c :: restOfWord (c :: before) rest

/-- The chunks of a text; `fuel` bounds their number. -/
def chunksFrom (hyphens : Bool) : (fuel : Nat) → (before : List Char) → List Char → List (List Char)
  | 0, _, _ => []
  | _ + 1, _, [] => []
  | fuel + 1, before, c :: rest =>
    let chunk := firstChunk hyphens before c rest
    chunk :: chunksFrom hyphens fuel (chunk.reverse ++ before) ((c :: rest).drop chunk.length)

/-- The chunks of a text. -/
def chunks (hyphens : Bool) (text : List Char) : List (List Char) :=
  chunksFrom hyphens text.length [] text

/-! ### Lines -/

/-- Whether a chunk is blank. -/
def isBlankChunk (chunk : List Char) : Bool := chunk.all Unicode.isBlank

/-- The chunks that fit into a number of columns, and the others. -/
def fitting (room : Nat) : List (List Char) → List (List Char) × List (List Char)
  | [] => ([], [])
  | chunk :: rest =>
    if chunk.length ≤ room then
      let (line, others) := fitting (room - chunk.length) rest
      (chunk :: line, others)
    else ([], chunk :: rest)

/-- Where a chunk that is too wide is broken if there is room for some of it. -/
def breakAt (wrapping : Wrapping) (room : Nat) (chunk : List Char) : Nat :=
  let front := chunk.take room
  let afterHyphen := (front.reverse.dropWhile (· != '-')).length
  if wrapping.breaksHyphens && room < chunk.length && 1 < afterHyphen &&
      (front.take (afterHyphen - 1)).any (· != '-') then afterHyphen
  else room

/-- A line together with what can be taken of a chunk that is wider than any line. -/
def takeWide (wrapping : Wrapping) (line others : List (List Char)) :
    List (List Char) × List (List Char) :=
  match others with
  | [] => (line, [])
  | chunk :: rest =>
    if chunk.length ≤ wrapping.width then (line, chunk :: rest)
    else if wrapping.breaksWords then
      let room := wrapping.width - line.flatten.length
      let cut := breakAt wrapping room chunk
      (line ++ [chunk.take cut], chunk.drop cut :: rest)
    else if line.isEmpty then ([chunk], rest)
    else (line, chunk :: rest)

/-- A line without a blank chunk at its end. -/
def dropLastBlank (line : List (List Char)) : List (List Char) :=
  match line.getLast? with
  | some chunk => if isBlankChunk chunk then line.dropLast else line
  | none => line

/-- The lines of chunks; `fuel` bounds their number. -/
def fill (wrapping : Wrapping) (isFirst : Bool) : (fuel : Nat) → List (List Char) → List (List Char)
  | 0, _ => []
  | _ + 1, [] => []
  | fuel + 1, chunk :: rest =>
    let open_ := if isBlankChunk chunk && !isFirst then rest else chunk :: rest
    let (line, others) := fitting wrapping.width open_
    let (line, others) := takeWide wrapping line others
    let line := dropLastBlank line
    if line.isEmpty then fill wrapping isFirst fuel others
    else line.flatten :: fill wrapping false fuel others

/-- Whether a line of text has chunks that are wider than the lines it is wrapped into. -/
def isBroken (wrapping : Wrapping) (text : List Char) : Bool :=
  (chunks wrapping.breaksHyphens text).any fun chunk => wrapping.width < chunk.length

/-- The lines into which a line of text is wrapped. -/
def wrapLine (wrapping : Wrapping) (text : List Char) : List (List Char) :=
  fill wrapping true (2 * text.length + 2) (chunks wrapping.breaksHyphens text)

end TemplateWorkbench.Text
