import TemplateWorkbench.Template.Filter.Basic
import TemplateWorkbench.Template.Method
import TemplateWorkbench.Template.Value.Encode
import TemplateWorkbench.Template.Value.Pretty
import TemplateWorkbench.Text.Link
import TemplateWorkbench.Text.Unmarked
import TemplateWorkbench.Text.Utf8
import TemplateWorkbench.Text.Wrap

/-!
# Filters of text

Changing, measuring and laying out texts, and writing values in the forms of markup, addresses and
JSON.
-/

namespace TemplateWorkbench.Template

namespace Wording

variable (services : Services)

/-! ### Words -/

/-- Whether a new word begins after a character. -/
def opensWord (c : Char) : Bool := c == '-' || "(\x7b[<".toList.contains c || Unicode.isBlank c

/-- A text with every word put into title case; `atStart` says whether a word may begin here. -/
def titled (atStart : Bool) (before : List Char) : List Char → List Char
  | [] => []
  | c :: rest =>
    if opensWord c then c :: titled true [] rest
    else if atStart then Unicode.upperOf c ++ titled false [] rest
    else Unicode.lowerBetween before c (rest.takeWhile (!opensWord ·)) ++ titled false (c :: before) rest

/-- The number of words of a text. -/
def countWords (text : List Char) : Nat :=
  (Text.words (fun c => !Unicode.isWord c) none text).length

/-! ### Layout -/

/-- A text between blanks, in the middle of a number of columns. -/
def centered (width : Int) (text : List Char) : List Char :=
  let missing := width.toNat - text.length
  let left := missing / 2 + (if missing % 2 = 1 && width.toNat % 2 = 1 then 1 else 0)
  List.replicate left ' ' ++ text ++ List.replicate (missing - left) ' '

/-- What lines are indented by: a text, or a number of blanks. -/
def indentation (width : Value) : Run Value :=
  match width with
  | .string _ | .markup _ => pure width
  | width => Value.arithmetic .mul (.string " ") width

/-- Values joined with plus signs. -/
def plus (values : List Value) : Except Fault Value :=
  match values with
  | [] => .ok (.string "")
  | first :: rest => rest.foldlM (Value.arithmetic .add) first

/-- Texts with a text between them; markup escapes what is joined. -/
def joined (separator : Value) (texts : List Value) : Run Value :=
  Method.call services separator "join" { positional := [.list texts] }

/-- The lines of a text, indented: all but the first, the blank ones only on demand. -/
def indented (subject width : Value) (first blank : Bool) : Run Value := do
  let isMarkup := subject matches .markup _
  let indentation ← indentation width
  let like (value : Value) : Run Value := do
    if isMarkup then pure (.markup (← services.escape value)) else pure value
  let indentation ←
    match isMarkup, indentation with
    | true, .string text => pure (.markup text)
    | _, value => pure value
  let newline ← like (.string "\n")
  match subject with
  | .undefined _ absence => throw absence.fault
  | .list _ => throw (attributeFault subject "splitlines")
  | .string text | .markup text => do
    let lines := (Text.splitLines (text.toList ++ ['\n'])).map fun line =>
      Value.textLike isMarkup (String.ofList line)
    let body ←
      if blank then joined services (← plus [newline, indentation]) lines
      else
        match lines with
        | [] => pure (.string "")
        | top :: [] => pure top
        | top :: rest => do
          let rest ← rest.mapM fun line => do
            if line.text? == some "" then pure line else plus [indentation, line]
          plus [top, ← plus [newline, ← joined services newline rest]]
    if first then plus [indentation, body] else pure body
  | value =>
    match value.tupleItems?, value with
    | some _, _ => throw (typeFault "can only concatenate tuple (not \"str\") to tuple")
    | none, .bytes _ => throw (typeFault "can't concat str to bytes")
    | none, _ =>
      throw (typeFault s!"unsupported operand type(s) for +=: '{value.typeName}' and 'str'")

/-- The text before the last blank. -/
def beforeLastBlank (text : List Char) : List Char :=
  match text.reverse.dropWhile (· != ' ') with
  | [] => text
  | _ :: front => front.reverse

/-- A text cut to a length; a cut text has an ending, which counts. -/
def truncated (subject length killsWords ending leeway : Value) : Run Value := do
  let leeway : Value := if leeway matches .none then .int 5 else leeway
  let endLength ← services.lengthOf ending
  if !(← Value.ordered .ge length (.int endLength)) then
    throw (faultOf .assertion s!"expected length >= {endLength}, got {← services.printed length}")
  else if !(← Value.ordered .ge leeway (.int 0)) then
    throw (faultOf .assertion s!"expected leeway >= 0, got {← services.printed leeway}")
  else
    let size ← services.lengthOf subject
    let most ← Value.arithmetic .add length leeway
    if ← Value.ordered .le (.int size) most then pure subject
    else
      let cut ← Value.arithmetic .sub length (.int endLength)
      let front ← Services.slice subject none (some cut) none
      if ← services.truth killsWords then Value.arithmetic .add front ending
      else
        match front with
        | .string text =>
          Value.arithmetic .add (.string (String.ofList (beforeLastBlank text.toList))) ending
        | .markup text =>
          Value.arithmetic .add (.markup (String.ofList (beforeLastBlank text.toList))) ending
        | value => throw (attributeFault value "rsplit")

/-- A text with its lines wrapped. -/
def wrapped (subject width breaksWords separator breaksHyphens : Value) : Run Value := do
  let separator : Value := if separator matches .none then .string "\n" else separator
  if !separator.isText then throw (attributeFault separator "join")
  else
    match subject with
    | .undefined _ absence => throw absence.fault
    | .string text | .markup text => do
      let breaksWords ← services.truth breaksWords
      let breaksHyphens ← services.truth breaksHyphens
      let paragraphs ← (Text.splitLines text.toList).mapM fun line => do
        if ← Value.ordered .le width (.int 0) then
          throw (valueFault s!"invalid width {← services.written width} (must be > 0)")
        else
          let wrapping : Text.Wrapping :=
            { width := wholeWidth width, breaksWords, breaksHyphens }
          if width.integer?.isNone && isAtLeastOne width && breaksWords &&
              Text.isBroken wrapping line then
            throw Services.badBound
          joined services separator
            ((Text.wrapLine wrapping line).map fun l => Value.string (String.ofList l))
      joined services separator paragraphs
    | value => throw (attributeFault value "splitlines")
where
  /-- Whether a width has room for a character. -/
  isAtLeastOne (width : Value) : Bool :=
    width.numeral?.any fun number => (number.compare? (.whole 1)).any fun order => order != .lt
  /-- The number of columns of a width; there is always room for one. -/
  wholeWidth (width : Value) : Nat :=
    match width.numeral? with
    | some (.whole n) => n.toNat
    | some (.real x) => max 1 ((x.floor?.getD Number.wordLimit).toNat)
    | none => 1

/-! ### Addresses and links -/

/-- An octet that stands for itself in an address, or its code after a percent sign. -/
def quoteOctet (keepsSlash : Bool) (octet : UInt8) : List Char :=
  let c := Char.ofNat octet.toNat
  if c.isAlphanum || "_.-~".toList.contains c || (keepsSlash && c == '/') then [c]
  else '%' :: (Text.hexDigits 2 octet.toNat).map Char.toUpper

/-- A value as part of an address; in a query, blanks become plus signs. -/
def quotedPart (inQuery : Bool) (value : Value) : Run (List Char) := do
  let octets ←
    match value with
    | .bytes octets => pure octets
    | value => do pure (Text.Utf8.encode (← services.printed value).toList)
  pure (octets.flatMap fun octet =>
    if inQuery && octet.toNat == 32 then ['+'] else quoteOctet (!inQuery) octet)

/-- The two items of a pair. -/
def pairOf (value : Value) : Run (Value × Value) := do
  match value.source with
  | .error _ => throw (typeFault s!"cannot unpack non-iterable {value.typeName} object")
  | .ok source =>
    match ← services.take source 3 with
    | [key, value] => pure (key, value)
    | [_, _, _] => throw (valueFault "too many values to unpack (expected 2)")
    | items =>
      throw (valueFault s!"not enough values to unpack (expected 2, got {items.length})")

/-- A value as part of an address: a text, or the names and values of a query. -/
def addressText (value : Value) : Run Value := do
  let pairs ←
    match value with
    | .string _ | .markup _ => pure none
    | .dict entries => pure (some entries)
    | .object .templateSelf _ => pure none
    | value =>
      match value.source with
      | .ok source => do pure (some (← (← services.drain source).mapM (pairOf services)))
      | .error fault => if fault.kind = .undefined then throw fault else pure none
  match pairs with
  | none => do pure (.string (String.ofList (← quotedPart services false value)))
  | some pairs => do
    let parts ← pairs.mapM fun (key, value) => do
      pure ((← quotedPart services true key) ++ '=' :: (← quotedPart services true value))
    pure (.string (String.ofList (List.intercalate ['&'] parts)))

/-- The words of a value that may be missing. -/
def relations (value : Value) : Run (List String) := do
  if !(← services.truth value) then pure []
  else
    match value.text? with
    | some text => pure ((Text.words Unicode.isBlank none text.toList).map String.ofList)
    | none => throw (attributeFault value "split")

/-- The attribute of a name, if it has a value. -/
def markAttribute (id : String) (value : Value) : Run String := do
  if ← services.truth value then pure s!" {id}=\"{← services.escape value}\"" else pure ""

/-- A text with its addresses as links. -/
def linked (escaping : Nat) (bound : Bound) : Run Value := do
  let given ← relations services (bound.value 4)
  let given := if ← services.truth (bound.value 2) then "nofollow" :: given else given
  let all := ("noopener" :: given).eraseDups.mergeSort fun a b => decide (a ≤ b)
  let schemes ←
    match bound.value 5 with
    | .none => pure []
    | value => services.items value
  let schemes ← schemes.mapM fun scheme => do
    match scheme.text? with
    | none =>
      throw (typeFault s!"expected string or bytes-like object, got '{scheme.typeName}'")
    | some text =>
      if Text.isScheme text.toList then pure text
      else
        throw (argumentFault s!"{← services.written scheme} is not a valid URI scheme prefix.")
  let text ← services.escape (bound.value 0)
  let rel ← markAttribute services "rel" (.string (" ".intercalate all))
  let target ← markAttribute services "target" (bound.value 3)
  let links ← Text.LinkStyle.links ⟨rel ++ target, schemes⟩ (shorten (bound.value 1)) text
  if ← services.escapes escaping then pure (.markup links) else pure (.string links)
where
  /-- A shown address that is no longer than a limit. -/
  shorten (limit : Value) (shown : List Char) : Except Fault (List Char) := do
    if limit matches .none then pure shown
    else if ← Value.ordered .gt (.int shown.length) limit then
      match limit.integer? with
      | some n =>
        let count := if 0 ≤ n then n.toNat else shown.length - n.natAbs
        pure (shown.take count ++ "...".toList)
      | none => .error Services.badBound
    else pure shown

/-! ### Written forms -/

/-- Whether a character cannot be in the name of an attribute. -/
def endsAttributeName (c : Char) : Bool :=
  c == ' ' || (9 ≤ c.toNat && c.toNat ≤ 13) || c == '/' || c == '>' || c == '='

/-- The entries of a dictionary as attributes. -/
def attributes (escaping : Nat) (value spaced : Value) : Run Value := do
  match value with
  | .undefined _ absence => throw absence.fault
  | .dict entries => do
    let given := entries.filter fun (_, value) => !(value matches .none) && !value.isUndefined
    let parts ← given.mapM fun (key, value) => do
      match key.text? with
      | none =>
        throw (typeFault s!"expected string or bytes-like object, got '{key.typeName}'")
      | some name =>
        if name.toList.any endsAttributeName then
          throw (valueFault
            s!"Invalid character in attribute name: {← services.written key}")
        else pure s!"{← services.escape key}=\"{← services.escape value}\""
    let text := " ".intercalate parts
    let spaced ← services.truth spaced
    let text := if spaced && !text.isEmpty then " " ++ text else text
    if ← services.escapes escaping then pure (.markup text) else pure (.string text)
  | value => throw (attributeFault value "items")

/-- A character of JSON text inside of markup. -/
def guardScript (c : Char) : List Char :=
  if c == '<' || c == '>' || c == '&' || c == '\'' then Json.codeEscape c.toNat else [c]

/-- A value as JSON text that is safe inside of markup. -/
def script (value indent : Value) : Run Value := do
  let indent ←
    match (if value.isText then .none else indent) with
    | .none => pure none
    | .string text | .markup text => pure (some text)
    | width =>
      match ← Value.arithmetic .mul (.string " ") width with
      | .string text => pure (some text)
      | _ => pure none
  let text ← Value.encodeText ⟨true, indent, false⟩ true value
  pure (.markup (String.ofList (text.toList.flatMap guardScript)))

/-- A text with a part replaced; where text is escaped, markup in one of the arguments makes markup
of the text. -/
def replaced (escaping : Nat) (subject old new count : Value) : Run Value := do
  let count : Value := if count matches .none then .int (-1) else count
  if !(← services.escapes escaping) then
    let subject ← services.printed subject
    let old ← services.printed old
    let new ← services.printed new
    Method.call services (.string subject) "replace"
      { positional := [.string old, .string new, count] }
  else
    let isMarkup (value : Value) : Run Bool := do pure (← Services.ownMarkup? value).isSome
    let becomes ←
      if ← isMarkup old then pure true
      else if ← isMarkup new then do pure (!(← isMarkup subject))
      else pure false
    let subject ←
      if becomes then do pure (.markup (← services.escape subject)) else services.asText subject
    let old ← services.asText old
    let new ← services.asText new
    Method.call services subject "replace" { positional := [old, new, count] }

/-- A text without markup. -/
def withoutTags (value : Value) : Run Value := do
  let text ←
    match ← Services.ownMarkup? value with
    | some text => pure text
    | none => services.printed value
  pure (.string (Text.stripTags Unicode.isBlank text))

end Wording

namespace Filter

/-- The value as markup that is not escaped again. -/
def safeFilter : Filter := single "do_mark_safe" fun services value => do
  match ← Services.ownMarkup? value with
  | some text => pure (.markup text)
  | none => do pure (.markup (← services.printed value))

/-- The value escaped, unless it is markup. -/
def escapeFilter : Filter := single "escape" fun services value => do
  pure (.markup (← services.escape value))

/-- The filters of text. -/
def textFilters : List (String × Filter) := [
  ("upper", ofText "do_upper" Unicode.toUpper),
  ("lower", ofText "do_lower" Unicode.toLower),
  ("capitalize", ofText "do_capitalize" Unicode.capitalize),
  ("title", named { id := "do_title", required := ["s"] } fun services _ bound => do
    let text ← services.asText (bound.value 0)
    pure (.string (String.ofList (Wording.titled true [] (text.text?.getD "").toList)))),
  ("trim", named { id := "do_trim", required := ["value"], optional := [("chars", .none)] }
    fun services _ bound => do
      Method.call services (← services.asText (bound.value 0)) "strip"
        { positional := [bound.value 1] }),
  ("string", single "soft_str" Services.asText),
  ("safe", safeFilter),
  ("escape", escapeFilter),
  ("e", escapeFilter),
  ("forceescape", single "do_forceescape" fun services value => do
    let text ←
      match ← Services.ownMarkup? value with
      | some text => pure text
      | none => services.printed value
    pure (.markup (Text.escapeMarkup text))),
  ("striptags", single "do_striptags" Wording.withoutTags),
  ("replace", named
    { id := "do_replace", hidden := ["eval_ctx"], required := ["s", "old", "new"]
      optional := [("count", .none)] }
    fun services escaping bound =>
      Wording.replaced services escaping (bound.value 0) (bound.value 1) (bound.value 2)
        (bound.value 3)),
  ("format", named
    { id := "do_format", required := ["value"], takesMore := true, takesKeywords := true }
    fun services _ bound => do
      if !bound.more.isEmpty && !bound.keywords.isEmpty then
        throw (argumentFault "can't handle positional and keyword arguments at the same time")
      else
        let given : Value :=
          if bound.keywords.isEmpty then .tuple bound.more
          else .dict (bound.keywords.map fun (id, value) => (.string id, value))
        services.arithmetic .mod (← services.asText (bound.value 0)) given),
  ("center", named { id := "do_center", required := ["value"], optional := [("width", .int 80)] }
    fun services _ bound => do
      let text ← services.asText (bound.value 0)
      let width ← Method.machineInteger (bound.value 1)
      Presentation.checkRoom width.toNat
      let centered := String.ofList (Wording.centered width (text.text?.getD "").toList)
      pure (.textLike (text matches .markup _) centered)),
  ("indent", named
    { id := "do_indent", required := ["s"]
      optional := [("width", .int 4), ("first", .bool false), ("blank", .bool false)] }
    fun services _ bound => do
      let first ← services.truth (bound.value 2)
      let blank ← services.truth (bound.value 3)
      Wording.indented services (bound.value 0) (bound.value 1) first blank),
  ("truncate", named
    { id := "do_truncate", hidden := ["env"], required := ["s"]
      optional :=
        [("length", .int 255), ("killwords", .bool false), ("end", .string "..."), ("leeway", .none)] }
    fun services _ bound =>
      Wording.truncated services (bound.value 0) (bound.value 1) (bound.value 2) (bound.value 3)
        (bound.value 4)),
  ("wordwrap", named
    { id := "do_wordwrap", hidden := surroundings, required := ["s"]
      optional :=
        [("width", .int 79), ("break_long_words", .bool true), ("wrapstring", .none),
          ("break_on_hyphens", .bool true)] }
    fun services _ bound =>
      Wording.wrapped services (bound.value 0) (bound.value 1) (bound.value 2) (bound.value 3)
        (bound.value 4)),
  ("wordcount", named { id := "do_wordcount", required := ["s"] } fun services _ bound => do
    let text ← services.asText (bound.value 0)
    pure (.int (Wording.countWords (text.text?.getD "").toList))),
  ("urlencode", single "do_urlencode" Wording.addressText),
  ("urlize", named
    { id := "do_urlize", hidden := ["eval_ctx"], required := ["value"]
      optional :=
        [("trim_url_limit", .none), ("nofollow", .bool false), ("target", .none), ("rel", .none),
          ("extra_schemes", .none)] }
    fun services escaping bound =>
      Wording.linked services escaping bound),
  ("xmlattr", named
    { id := "do_xmlattr", hidden := ["eval_ctx"], required := ["d"]
      optional := [("autospace", .bool true)] }
    fun services escaping bound =>
      Wording.attributes services escaping (bound.value 0) (bound.value 1)),
  ("tojson", named
    { id := "do_tojson", hidden := ["eval_ctx"], required := ["value"]
      optional := [("indent", .none)] }
    fun _ _ bound => Wording.script (bound.value 0) (bound.value 1)),
  ("pprint", single "do_pprint" fun services value => do
    pure (.string (← value.pretty (← services.lookFor value))))]

end Filter

end TemplateWorkbench.Template
