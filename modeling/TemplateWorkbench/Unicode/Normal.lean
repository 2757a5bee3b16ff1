import TemplateWorkbench.Unicode.Character
import TemplateWorkbench.Unicode.NormalTable

/-!
# The normal form of identifiers

Two identifiers are the same name when they have the same normal form.  An identifier is brought into
it by taking every character apart into its plain parts, putting the marks after each letter into
order, and putting together again what can be put together: so a ligature becomes two letters, and a
letter followed by an accent one accented letter.
-/

namespace TemplateWorkbench.Unicode

/-! ### Taking apart -/

/-- The words of some lines, each as its first character and the others. -/
def wordEntries (lines : List String) : Array (Char × List Char) :=
  ((lines.flatMap (·.splitOn " ")).filterMap fun word =>
    match word.toList with
    | [] => none
    | c :: parts => some (c, parts)).toArray

/-- Characters with what they are variants of. -/
def variants : Array (Char × List Char) := wordEntries variantLines

/-- Characters with the two parts that they are put together from. -/
def composites : Array (Char × List Char) := wordEntries compositeLines

/-- The entry of a character in an ascending table. -/
def entryOf? (table : Array (Char × List Char)) (c : Char) : Option (List Char) :=
  match lastUpTo (·.1.toNat) table c.toNat with
  | some (other, parts) => if other = c then some parts else none
  | none => none

namespace Syllable

/-- The first composed syllable. -/
def first : Nat := 0xAC00

/-- The first leading consonant. -/
def leads : Nat := 0x1100

/-- The first vowel. -/
def vowels : Nat := 0x1161

/-- The code that stands for no trailing consonant; the trailing consonants follow. -/
def tails : Nat := 0x11A7

/-- The number of leading consonants. -/
def leadCount : Nat := 19

/-- The number of vowels. -/
def vowelCount : Nat := 21

/-- The number of trailing consonants, with none as one of them. -/
def tailCount : Nat := 28

/-- The parts of a composed syllable. -/
def parts? (c : Char) : Option (List Char) :=
  let index := c.toNat - first
  if c.toNat < first || leadCount * vowelCount * tailCount ≤ index then none
  else
    let lead := Char.ofNat (leads + index / (vowelCount * tailCount))
    let vowel := Char.ofNat (vowels + index % (vowelCount * tailCount) / tailCount)
    let tail := index % tailCount
    some (if tail = 0 then [lead, vowel] else [lead, vowel, Char.ofNat (tails + tail)])

/-- The syllable of two characters: of a leading consonant and a vowel, or of a syllable without a
trailing consonant and one. -/
def join? (a b : Char) : Option Char :=
  let lead := a.toNat - leads
  let vowel := b.toNat - vowels
  let index := a.toNat - first
  let tail := b.toNat - tails
  if leads ≤ a.toNat && lead < leadCount && vowels ≤ b.toNat && vowel < vowelCount then
    some (Char.ofNat (first + (lead * vowelCount + vowel) * tailCount))
  else if first ≤ a.toNat && index < leadCount * vowelCount * tailCount && index % tailCount = 0 &&
      tails < b.toNat && tail < tailCount then
    some (Char.ofNat (a.toNat + tail))
  else none

end Syllable

/-- The plain parts of a character that has been put together in at most `depth` steps. -/
def partsWithin : (depth : Nat) → Char → List Char
  | 0, c => [c]
  | depth + 1, c =>
    match entryOf? composites c with
    | some parts => parts.flatMap (partsWithin depth)
    | none => (Syllable.parts? c <|> entryOf? variants c).getD [c]

/-- The plain parts of a character: no character is put together in more than four steps. -/
def plainParts (c : Char) : List Char := partsWithin 4 c

/-! ### Marks -/

/-- The rank of a mark in the order of marks; 0 for all other characters. -/
def markRank (c : Char) : Nat :=
  match lastUpTo MarkBand.first markBands c.toNat with
  | some band => if c.toNat ≤ band.last then band.rank else 0
  | none => 0

/-- A character put in front of a text whose marks are in order: a mark passes the marks of lower rank
that follow it. -/
def placeMark (c : Char) : List Char → List Char
  | [] => [c]
  | d :: rest =>
    if 0 < markRank d && markRank d < markRank c then d :: placeMark c rest else c :: d :: rest

/-- The text with the marks after each letter in the order of their ranks. -/
def orderMarks (text : List Char) : List Char := text.foldr placeMark []

/-! ### Putting together -/

/-- The character that two others make. -/
def composite? (a b : Char) : Option Char :=
  Syllable.join? a b <|> (composites.find? fun entry => entry.2 == [a, b]).map (·.1)

/-- Puts characters together with the letter before them.  `kept` are the marks in between that did not
fit, the last one first; a character is out of reach behind a mark of its own rank or a higher one. -/
def composeAfter (letter : Char) (kept : List Char) : List Char → List Char
  | [] => letter :: kept.reverse
  | c :: rest =>
    let reachable := kept.head?.all fun mark => markRank mark < markRank c
    match if reachable then composite? letter c else none with
    | some composed => composeAfter composed kept rest
    | none =>
      if markRank c = 0 then letter :: kept.reverse ++ composeAfter c [] rest
      else composeAfter letter (c :: kept) rest

/-- The text with everything put together that can be. -/
def compose : List Char → List Char
  | [] => []
  | c :: rest => composeAfter c [] rest

/-- The normal form of an identifier. -/
def normalName (name : String) : String :=
  if name.toList.all (·.toNat < 128) then name
  else String.ofList (compose (orderMarks (name.toList.flatMap plainParts)))

end TemplateWorkbench.Unicode
