/-!
# Finding and splitting

Looking for a part of a text, splitting a text at a separator or at runs of characters of a class, and
replacing a part.  Where a count limits how often, none means no limit.
-/

namespace TemplateWorkbench.Text

/-- The text after a part at its front, if it begins with the part. -/
def after? (part text : List Char) : Option (List Char) :=
  if part.isPrefixOf text then some (text.drop part.length) else none

/-- Where a part first is in a text. -/
def find? (part : List Char) (text : List Char) : Option Nat :=
  go 0 text
where
  /-- Looks from an offset on. -/
  go (offset : Nat) (rest : List Char) : Option Nat :=
    if part.isPrefixOf rest then some offset
    else
      match rest with
      | [] => none
      | _ :: rest => go (offset + 1) rest

/-- One less of a limited number. -/
def lessOne : Option Nat → Option Nat
  | none => none
  | some n => some (n - 1)

/-- The pieces of a text between the places where a part is; `fuel` bounds their number. -/
def splitOn (part : List Char) : (fuel : Nat) → (limit : Option Nat) → List Char → List (List Char)
  | 0, _, text => [text]
  | fuel + 1, limit, text =>
    if limit = some 0 || part.isEmpty then [text]
    else
      match find? part text with
      | none => [text]
      | some offset =>
        text.take offset ::
          splitOn part fuel (lessOne limit) (text.drop (offset + part.length))

/-- The pieces of a text between the places where a part is. -/
def split (part : List Char) (limit : Option Nat) (text : List Char) : List (List Char) :=
  splitOn part (text.length + 1) limit text

/-- The words of a text: the runs of characters that are not of a class.  A limit leaves the rest of
the text, from the word after it on, as it is; `fuel` bounds the number of words. -/
def wordsUpTo (isBlank : Char → Bool) :
    (fuel : Nat) → (limit : Option Nat) → List Char → List (List Char)
  | 0, _, _ => []
  | fuel + 1, limit, text =>
    match text.dropWhile isBlank with
    | [] => []
    | rest =>
      if limit = some 0 then [rest]
      else
        let word := rest.takeWhile fun c => !isBlank c
        word :: wordsUpTo isBlank fuel (lessOne limit) (rest.drop word.length)

/-- The words of a text. -/
def words (isBlank : Char → Bool) (limit : Option Nat) (text : List Char) : List (List Char) :=
  wordsUpTo isBlank (text.length + 1) limit text

/-- A text with a part put between all its characters, and around them. -/
def interleave (part : List Char) : (limit : Option Nat) → List Char → List Char
  | limit, [] => if limit = some 0 then [] else part
  | limit, c :: rest =>
    if limit = some 0 then c :: rest else part ++ c :: interleave part (lessOne limit) rest

/-- A text with a part replaced by another. -/
def replace (part other : List Char) (limit : Option Nat) (text : List Char) : List Char :=
  if part.isEmpty then interleave other limit text
  else List.intercalate other (split part limit text)

end TemplateWorkbench.Text
