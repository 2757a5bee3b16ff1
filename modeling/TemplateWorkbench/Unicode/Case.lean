import TemplateWorkbench.Unicode.CaseTable

/-!
# Case conversion

Full case conversion of whole texts: one character may become several (`ß` to `SS`), and a capital
sigma becomes the final small sigma exactly when a cased letter comes before it and none after it,
case-ignorable characters being passed over on both sides.
-/

namespace TemplateWorkbench.Unicode

/-- Whether a character is a small letter. -/
def isLowercase (c : Char) : Bool := Bands.contains lowercaseBands c

/-- Whether a character is a capital letter. -/
def isUppercase (c : Char) : Bool := Bands.contains uppercaseBands c

/-- Whether a character is a title-case digraph. -/
def isTitlecase (c : Char) : Bool := Bands.contains titlecaseBands c

/-- Whether a character has a case at all. -/
def isCased (c : Char) : Bool := isLowercase c || isUppercase c || isTitlecase c

/-- Whether a character does not separate letters when cases are compared. -/
def isCaseIgnorable (c : Char) : Bool := Bands.contains caseIgnorableBands c

private def convertWith (expansions : Array (Nat × List Nat)) (shifts : Array Shift)
    (c : Char) : List Char :=
  match expansions.find? (·.1 == c.toNat) with
  | some (_, codes) => codes.map Char.ofNat
  | none => [(Shifts.image? shifts c).getD c]

/-- The lower case of one character out of context. -/
def lowerOf (c : Char) : List Char := convertWith lowerExpansions lowerShifts c

/-- The upper case of one character. -/
def upperOf (c : Char) : List Char := convertWith upperExpansions upperShifts c

/-- The title case of one character. -/
def titleOf (c : Char) : List Char := convertWith titleExpansions titleShifts c

/-- Whether the nearest character that is not case-ignorable is cased. -/
def meetsCased (cs : List Char) : Bool :=
  (cs.find? fun c => !isCaseIgnorable c).any isCased

/-- The lower case of a character between `before` (nearest first) and `after`. -/
def lowerBetween (before : List Char) (c : Char) (after : List Char) : List Char :=
  if c == 'Σ' then [if meetsCased before && !meetsCased after then 'ς' else 'σ']
  else lowerOf c

/-- Lower case of the text `cs` that follows `before` (nearest first). -/
def lowerAfter (before : List Char) : List Char → List Char
  | [] => []
  | c :: rest => lowerBetween before c rest ++ lowerAfter (c :: before) rest

/-- The text in lower case. -/
def toLower (text : String) : String := String.ofList (lowerAfter [] text.toList)

/-- The text in upper case. -/
def toUpper (text : String) : String := String.ofList (text.toList.flatMap upperOf)

/-- The first character in title case, the others in lower case. -/
def capitalize (text : String) : String :=
  match text.toList with
  | [] => ""
  | c :: rest => String.ofList (titleOf c ++ lowerAfter [c] rest)

/-- Title case of the text that follows `before` (nearest first): letters after a cased letter
are lowered, the others put into title case. -/
def titleAfter (before : List Char) : List Char → List Char
  | [] => []
  | c :: rest =>
    (if before.head?.any isCased then lowerBetween before c rest else titleOf c) ++
      titleAfter (c :: before) rest

/-- Every run of cased letters starts in title case and goes on in lower case. -/
def toTitle (text : String) : String := String.ofList (titleAfter [] text.toList)

/-- Whether the text holds a small letter and no cased letter of another case. -/
def isAllLower (text : String) : Bool :=
  text.toList.any isLowercase && !text.toList.any fun c => isUppercase c || isTitlecase c

/-- Whether the text holds a capital letter and no cased letter of another case. -/
def isAllUpper (text : String) : Bool :=
  text.toList.any isUppercase && !text.toList.any fun c => isLowercase c || isTitlecase c

end TemplateWorkbench.Unicode
