import TemplateWorkbench.Text.Entity
import TemplateWorkbench.Text.Search
import TemplateWorkbench.Unicode.Character
import TemplateWorkbench.Unicode.Identifier

/-!
# Links in text

Words that look like addresses are turned into links.  An address has a scheme, begins with `www.`, or
ends with one of a few well-known domains; an address for mail has an at sign between its two parts.
Brackets and punctuation around an address stay outside of the link, unless a closing bracket belongs
to one inside of it.

A shape is described by what may come after it: all texts that can be left over.
-/

namespace TemplateWorkbench.Text

/-- The texts that can be left over after a shape has been read. -/
abbrev Shape := List Char → List (List Char)

namespace Shape

/-- Between `least` and `most` characters of a class. -/
def run (p : Char → Bool) (least most : Nat) : Shape := fun text =>
  let length := ((text.take most).takeWhile p).length
  ((List.range (length + 1)).filter (decide <| least ≤ ·)).map text.drop

/-- A given text, in capitals or not. -/
def literal (part : String) : Shape := fun text =>
  let front := text.take part.length
  if front.map Char.toLower == part.toList then [text.drop part.length] else []

/-- One shape after the other. -/
def andThen (first second : Shape) : Shape := fun text => ((first text).flatMap second).eraseDups

/-- One shape or the other. -/
def or (first second : Shape) : Shape := fun text => first text ++ second text

/-- A shape or nothing. -/
def maybe (shape : Shape) : Shape := fun text => shape text ++ [text]

/-- A shape between `least` and `least + more` times. -/
def times (shape : Shape) : (least more : Nat) → Shape
  | 0, 0 => fun text => [text]
  | 0, more + 1 => fun text => (text :: ((shape text).flatMap (times shape 0 more))).eraseDups
  | least + 1, more => shape.andThen (times shape least more)

/-- A shape, once or more often; `fuel` bounds how often. -/
def many (shape : Shape) : (fuel : Nat) → Shape
  | 0 => fun _ => []
  | fuel + 1 => fun text =>
    let rests := shape text
    rests ++ rests.flatMap (many shape fuel)

end Shape

/-! ### Addresses -/

/-- The letters of the last part of a domain. -/
def isDomainLetter (c : Char) : Bool :=
  c.isAlpha || c == 'İ' || c == 'ı' || c == 'ſ' || c.toNat == 0x212A

/-- The characters of the other parts of a domain. -/
def isDomainCharacter (c : Char) : Bool := Unicode.isWord c || c == '%' || c == '-'

/-- The digits of an address of the newer kind. -/
def isAddressDigit (c : Char) : Bool :=
  Unicode.isDigit c || ('a' ≤ c && c ≤ 'f') || ('A' ≤ c && c ≤ 'F')

/-- The scheme of an address. -/
def schemeShape : Shape := (Shape.literal "http://").or (Shape.literal "https://")

/-- A part of a domain and the point after it. -/
def domainPart (least most : Nat) : Shape :=
  (Shape.run isDomainCharacter least most).andThen (Shape.literal ".")

/-- The domains that make an address without a scheme. -/
def knownDomain : Shape := fun text =>
  ["com", "net", "int", "edu", "gov", "org", "info", "mil"].flatMap fun id => Shape.literal id text

/-- An address by numbers. -/
def numberedHost : Shape :=
  let number := Shape.run Unicode.isDigit 1 3
  number.andThen (((Shape.literal ".").andThen number).times 3 0)

/-- An address by numbers of the newer kind. -/
def bracketedHost : Shape :=
  let number := Shape.run isAddressDigit 0 4
  (Shape.literal "[").andThen <| ((number.andThen (Shape.literal ":")).times 2 0).andThen <|
    ((number.andThen (Shape.literal ":").maybe).times 1 5).andThen (Shape.literal "]")

/-- Whether a text is an address. -/
def isAddress (text : List Char) : Bool :=
  let named : Shape :=
    (schemeShape.or (Shape.literal "www.")).andThen <|
      ((domainPart 1 text.length).many text.length).maybe.andThen <|
        (Shape.run isDomainLetter 2 63).or
          ((Shape.literal "xn--").andThen
            (Shape.run (fun c => Unicode.isWord c || c == '%') 2 59))
  let wellKnown : Shape := ((domainPart 2 63).many text.length).andThen knownDomain
  let numbered : Shape := schemeShape.andThen (numberedHost.or bracketedHost)
  let port : Shape :=
    ((Shape.literal ":").andThen (Shape.run Unicode.isDigit 1 5)).maybe
  let endsWell (rest : List Char) : Bool :=
    match rest with
    | [] => true
    | c :: rest => (c == '/' || c == '?' || c == '#') && rest.all fun c => !Unicode.isBlank c
  (((named.or wellKnown).or numbered).andThen port text).any endsWell

/-- Whether a text is an address for mail. -/
def isMailAddress (text : List Char) : Bool :=
  let domain := (text.reverse.takeWhile (· != '@')).reverse
  let account := text.length - domain.length - 1
  let last := (domain.reverse.takeWhile (· != '.')).reverse
  text.contains '@' && 0 < account && text.all (fun c => !Unicode.isBlank c) &&
    domain.contains '.' && last.length + 1 < domain.length &&
    domain.head?.any Unicode.isWord &&
    domain.all (fun c => Unicode.isWord c || c == '.' || c == '-') &&
    !last.isEmpty && last.all Unicode.isWord

/-- Whether a text is the scheme of an address with its colon. -/
def isScheme (text : List Char) : Bool :=
  let name := text.takeWhile fun c => Unicode.isWord c || c == '.' || c == '+' || c == '-'
  2 ≤ name.length && [[':'], [':', '/'], [':', '/', '/']].contains (text.drop name.length)

/-! ### Words -/

/-- A word in three parts: what stands before an address, the address, and what stands after it. -/
structure LinkWord where
  head : List Char
  middle : List Char
  tail : List Char

/-- The number of opening brackets at the front of an escaped text, in characters. -/
def openingLength : (fuel : Nat) → List Char → Nat
  | 0, _ => 0
  | fuel + 1, text =>
    match text with
    | '(' :: rest | '<' :: rest => openingLength fuel rest + 1
    | '&' :: 'l' :: 't' :: ';' :: rest => openingLength fuel rest + 4
    | _ => 0

/-- The number of characters of closing brackets and punctuation at the end of an escaped text that is
given last character first. -/
def closingLength : (fuel : Nat) → List Char → Nat
  | 0, _ => 0
  | fuel + 1, text =>
    match text with
    | ')' :: rest | '>' :: rest | '.' :: rest | ',' :: rest | '\n' :: rest =>
      closingLength fuel rest + 1
    | ';' :: 't' :: 'g' :: '&' :: rest => closingLength fuel rest + 4
    | _ => 0

/-- How often a part is in a text. -/
def occurrences (part text : List Char) : Nat := (split part none text).length - 1

/-- Moves a closing bracket from the tail to the middle, with everything before it, so many times. -/
def moveClosing (closing : List Char) : (count : Nat) → LinkWord → LinkWord
  | 0, word => word
  | count + 1, word =>
    match find? closing word.tail with
    | none => word
    | some offset =>
      let stop := offset + closing.length
      moveClosing closing count
        { word with middle := word.middle ++ word.tail.take stop, tail := word.tail.drop stop }

/-- The word with the brackets in its middle closed, as far as the tail has closing ones. -/
def LinkWord.balance (word : LinkWord) (brackets : String × String) : LinkWord :=
  let opened := occurrences brackets.1.toList word.middle
  if opened ≤ occurrences brackets.2.toList word.middle then word
  else
    moveClosing brackets.2.toList
      (min opened (occurrences brackets.2.toList word.tail)) word

/-- The parts of an escaped word. -/
def LinkWord.ofText (text : List Char) : LinkWord :=
  let opening := openingLength text.length text
  let rest := text.drop opening
  let closing := closingLength rest.length rest.reverse
  let word : LinkWord :=
    ⟨text.take opening, rest.take (rest.length - closing), rest.drop (rest.length - closing)⟩
  [("(", ")"), ("<", ">"), ("&lt;", "&gt;")].foldl LinkWord.balance word

/-- How links are written: their attributes, and the schemes that make further addresses. -/
structure LinkStyle where
  attributes : String
  schemes : List String

/-- A link. -/
def linkText (target : List Char) (attributes : String) (shown : List Char) : List Char :=
  "<a href=\"".toList ++ target ++ '"' :: attributes.toList ++ '>' :: shown ++ "</a>".toList

section Links

variable {ε : Type} (style : LinkStyle) (shorten : List Char → Except ε (List Char))

namespace LinkStyle

/-- The middle of a word, as a link if it is an address; the shown address may be shortened. -/
def link (middle : List Char) : Except ε (List Char) :=
  let begins (part : String) : Bool := part.toList.isPrefixOf middle
  if isAddress middle then do
    let target := if begins "https://" || begins "http://" then middle else "https://".toList ++ middle
    pure (linkText target style.attributes (← shorten middle))
  else if begins "mailto:" && isMailAddress (middle.drop 7) then
    .ok (linkText middle "" (middle.drop 7))
  else if middle.contains '@' && !begins "www." && !begins "@" && !middle.contains ':' &&
      isMailAddress middle then
    .ok (linkText ("mailto:".toList ++ middle) "" middle)
  else
    .ok (style.schemes.foldl
      (fun middle scheme =>
        if middle != scheme.toList && scheme.toList.isPrefixOf middle then
          linkText middle style.attributes middle
        else middle)
      middle)

/-- A word with its address as a link. -/
def linkWord (text : List Char) : Except ε (List Char) := do
  let word := LinkWord.ofText text
  pure (word.head ++ (← style.link shorten word.middle) ++ word.tail)

/-- An escaped text with all addresses as links; `fuel` bounds the number of words. -/
def linkUpTo : (fuel : Nat) → List Char → Except ε (List Char)
  | 0, text => .ok text
  | _ + 1, [] => .ok []
  | fuel + 1, text => do
    let word := text.takeWhile fun c => !Unicode.isBlank c
    let rest := text.drop word.length
    let blank := rest.takeWhile Unicode.isBlank
    let linked ← style.linkWord shorten word
    pure (linked ++ blank ++ (← linkUpTo fuel (rest.drop blank.length)))

/-- An escaped text with all addresses as links. -/
def links (text : String) : Except ε String := do
  pure (String.ofList (← style.linkUpTo shorten (text.length + 1) text.toList))

end LinkStyle

end Links

end TemplateWorkbench.Text
