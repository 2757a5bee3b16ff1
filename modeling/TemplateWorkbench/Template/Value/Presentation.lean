import TemplateWorkbench.Template.Value.Equality
import TemplateWorkbench.Number.Shortest
import TemplateWorkbench.Text.Quoted

/-!
# Presentations

A presentation says how a value is laid out as text: what it is filled up with and to which side, its
sign, its width, how its digits are grouped, its precision, and a letter for its form.  It is read
from a text of at most one letter for each of these, in this order:

    [[fill] < | > | = | ^] [+ | - | blank] [z] [#] [0] [width] [, | _] [. precision] [form]

Numbers stand to the right of their width and texts to the left unless they are told otherwise.  Zeros
between the sign and the digits of a number count as digits, so that they are grouped too.
-/

namespace TemplateWorkbench.Template

/-- How a value is laid out. -/
structure Presentation where
  fill : Char := ' '
  align : Char
  sign : Option Char := none
  /-- Whether a negative zero loses its sign. -/
  dropsNegativeZero : Bool := false
  alternate : Bool := false
  width : Nat := 0
  grouping : Option Char := none
  precision : Option Nat := none
  form : Option Char := none
deriving Repr

namespace Presentation

/-- Whether a character says where a value is put in its width. -/
def isAlign (c : Char) : Bool := c == '<' || c == '>' || c == '=' || c == '^'

/-- Whether a character says how a sign is written. -/
def isSign (c : Char) : Bool := c == '+' || c == '-' || c == ' '

/-- The fault of a number that no machine word holds. -/
def tooManyDigits : Fault := valueFault "Too many decimal digits in format string"

/-- The number that decimal digits of any script denote, if it fits a machine word. -/
def countOf (digits : List Nat) : Except Fault Nat :=
  let count := Number.ofDigits 10 digits
  if Number.wordLimit ≤ count then .error tooManyDigits else .ok count

/-- A number of decimal digits at the front, and what follows. -/
def readCount (text : List Char) : Except Fault (Option Nat × List Char) := do
  let digits := text.takeWhile Unicode.isDigit
  if digits.isEmpty then pure (none, text)
  else pure (some (← countOf (digits.filterMap Unicode.digitValue?)), text.drop digits.length)

/-- Reads what fills up and to which side; tells whether a side and a filling were given. -/
def readSide (side : Char) (text : List Char) : Presentation × Bool × Bool × List Char :=
  match text with
  | c :: a :: rest =>
    if isAlign a then ({ fill := c, align := a }, true, true, rest)
    else if isAlign c then ({ align := c }, true, false, a :: rest)
    else ({ align := side }, false, false, text)
  | [c] =>
    if isAlign c then ({ align := c }, true, false, []) else ({ align := side }, false, false, text)
  | [] => ({ align := side }, false, false, [])

/-- Reads the marks before the width: a sign, `z`, `#`, and a zero for filling up with zeros. -/
def readMarks (side : Char) (text : List Char) : Presentation × List Char :=
  let (layout, hasSide, hasFill, text) := readSide side text
  let (layout, text) : Presentation × List Char :=
    match text with
    | c :: rest => if isSign c then ({ layout with sign := some c }, rest) else (layout, text)
    | [] => (layout, [])
  let (layout, text) : Presentation × List Char :=
    match text with
    | 'z' :: rest => ({ layout with dropsNegativeZero := true }, rest)
    | _ => (layout, text)
  let (layout, text) : Presentation × List Char :=
    match text with
    | '#' :: rest => ({ layout with alternate := true }, rest)
    | _ => (layout, text)
  match hasFill, text with
  | false, '0' :: rest =>
    let align := if !hasSide && side == '>' then '=' else layout.align
    ({ layout with fill := '0', align }, rest)
  | _, _ => (layout, text)

/-- Reads the mark that groups digits. -/
def readGrouping (text : List Char) : Except Fault (Option Char × List Char) :=
  let both : Fault := valueFault "Cannot specify both ',' and '_'."
  match text with
  | ',' :: '_' :: _ | '_' :: ',' :: _ => .error both
  | ',' :: rest => .ok (some ',', rest)
  | '_' :: rest => .ok (some '_', rest)
  | rest => .ok (none, rest)

/-- The forms in which digits may be grouped by commas. -/
def groupedForms : List Char := ['d', 'e', 'f', 'g', 'E', 'G', '%', 'F']

/-- The forms in which digits may be grouped by low lines alone. -/
def baseForms : List Char := ['b', 'o', 'x', 'X']

/-- A form as a message shows it. -/
def shownForm (form : Char) : String :=
  if 32 < form.toNat && form.toNat < 128 then String.singleton form
  else "\\x" ++ String.ofList (Nat.toDigits 16 form.toNat)

/-- Stops if the form does not go with grouped digits. -/
def checkGrouping (layout : Presentation) : Except Fault Unit :=
  match layout.grouping, layout.form with
  | some mark, some form =>
    if groupedForms.contains form || (mark == '_' && baseForms.contains form) then .ok ()
    else .error (valueFault s!"Cannot specify '{mark}' with '{shownForm form}'.")
  | _, _ => .ok ()

/-- A presentation read from its text, for a value of a type; `side` and `form` hold where nothing
else is said. -/
def read (text : List Char) (type : String) (side : Char) (form : Option Char) :
    Except Fault Presentation := do
  let (layout, rest) := readMarks side text
  let (width, rest) ← readCount rest
  let (grouping, rest) ← readGrouping rest
  let (precision, rest) ←
    match rest with
    | '.' :: rest => do
      match ← readCount rest with
      | (none, _) => .error (valueFault "Format specifier missing precision")
      | found => pure found
    | _ => .ok (none, rest)
  let form ←
    match rest with
    | [] => .ok form
    | [c] => .ok (some c)
    | _ =>
      .error (valueFault
        s!"Invalid format specifier '{String.ofList text}' for object of type '{type}'")
  let layout := { layout with width := width.getD 0, grouping, precision, form }
  checkGrouping layout
  pure layout

/-- The fault of a form that does not fit a type. -/
def unknownForm (form : Char) (type : String) : Fault :=
  valueFault s!"Unknown format code '{shownForm form}' for object of type '{type}'"

/-! ### Laying out -/

/-- The greatest width that a text may be brought to. -/
def widthLimit : Nat := 0x1000000000

/-- Stops if so many characters cannot be written. -/
def checkRoom (count : Nat) : Except Fault Unit :=
  if count ≤ widthLimit then .ok () else .error (faultOf .memory "")

/-- Text brought to the width of a presentation; `front` is what zeros come after. -/
def pad (layout : Presentation) (front body : List Char) : List Char :=
  let missing := layout.width - (front.length + body.length)
  let filling (count : Nat) : List Char := List.replicate count layout.fill
  match layout.align with
  | '<' => front ++ body ++ filling missing
  | '^' => filling (missing / 2) ++ front ++ body ++ filling (missing - missing / 2)
  | '=' => front ++ filling missing ++ body
  | _ => filling missing ++ front ++ body

/-- Digits in groups, counted from the last one. -/
def grouped (mark : Char) (size : Nat) (digits : List Char) : List Char :=
  (go digits.reverse 0).reverse
where
  /-- Puts the mark after every full group. -/
  go : List Char → Nat → List Char
    | [], _ => []
    | c :: rest, n => if n = size then mark :: c :: go rest 1 else c :: go rest (n + 1)

/-- The fewest digits that fill a width when they are grouped: a group never starts with its
mark. -/
def digitsToFill (size width : Nat) : Nat :=
  let digits := width - width / (size + 1)
  if width % (size + 1) = 0 && 0 < width then digits + 1 else digits

/-- A number written, in parts: its sign, the mark of its base, the digits that can be grouped, and
what follows them. -/
structure NumberText where
  isNegative : Bool
  mark : List Char := []
  digits : List Char
  rest : List Char := []

/-- The text of a double without its sign, taken apart. -/
def NumberText.ofDouble (isNegative : Bool) (text : List Char) : NumberText where
  isNegative := isNegative
  digits := text.takeWhile Char.isDigit
  rest := text.dropWhile Char.isDigit

/-- The sign that a number is written with. -/
def signOf (layout : Presentation) (isNegative : Bool) : List Char :=
  if isNegative then ['-'] else (layout.sign.filter (· != '-')).toList

/-- A number laid out; `size` is that of a group. -/
def layOutNumber (layout : Presentation) (size : Nat) (number : NumberText) :
    Except Fault (List Char) := do
  checkRoom layout.width
  let front := layout.signOf number.isNegative ++ number.mark
  let least :=
    if layout.fill == '0' && layout.align == '=' then
      layout.width - (front.length + number.rest.length)
    else 0
  let digits :=
    if number.digits.isEmpty then []
    else
      match layout.grouping with
      | none => List.replicate (least - number.digits.length) '0' ++ number.digits
      | some mark =>
        let zeros := digitsToFill size least - number.digits.length
        grouped mark size (List.replicate zeros '0' ++ number.digits)
  pure (layout.pad front (digits ++ number.rest))

/-- A magnitude with a precision and without a form: at least one digit stands after the point, and
an exponent begins where no place would be left for it. -/
def plainMagnitude (keepZeros : Bool) (count units : Nat) : List Char :=
  let count := max count 1
  let exponent := (Number.scientificDigits (count - 1) units).2
  let text := Number.generalMagnitude keepZeros 'e' count units
  if exponent + 1 < (count : Int) then
    if text.contains '.' || text.contains 'e' then text else text ++ ['.', '0']
  else if text.contains 'e' then text
  else
    let (digits, exponent) := Number.scientificDigits (count - 1) units
    let front := digits.take 1 ++ Number.fractionText keepZeros (digits.drop 1)
    (if keepZeros then front else Number.dropZeros front) ++ 'e' :: Number.exponentText exponent

/-- The text of a magnitude as short as possible; a point is kept if it is asked for. -/
def shortestText (point : Bool) (value : Double) : List Char :=
  let text := (Number.plainDouble.write value).toList
  if point && value.isFinite && !text.contains '.' then
    text.takeWhile (· != 'e') ++ '.' :: text.dropWhile (· != 'e')
  else text

/-- The places that are written if no precision is given. -/
def usualPlaces : Nat := 6

/-- The greatest precision of a double. -/
def precisionLimit : Nat := 0x7FFFFFFF

/-- The magnitude of a double as its form writes it. -/
def doubleText (layout : Presentation) (type : String) (value : Double) :
    Except Fault (List Char) :=
  let places := layout.precision.getD usualPlaces
  let point := layout.alternate
  let upper (text : List Char) : List Char := text.map Char.toUpper
  let fixed (value : Double) : List Char :=
    Number.writeMagnitude (Number.fixedMagnitude point places) value
  let scientific := Number.writeMagnitude (Number.scientificMagnitude point 'e' places) value
  let general := Number.writeMagnitude (Number.generalMagnitude point 'e' places) value
  match layout.form with
  | none =>
    match layout.precision with
    | none => .ok (shortestText point value)
    | some count => .ok (Number.writeMagnitude (plainMagnitude point count) value)
  | some 'f' => .ok (fixed value)
  | some 'F' => .ok (upper (fixed value))
  | some 'e' => .ok scientific
  | some 'E' => .ok (upper scientific)
  | some 'g' | some 'n' => .ok general
  | some 'G' => .ok (upper general)
  | some '%' => .ok (fixed (value.mul (Double.ofInt 100)) ++ ['%'])
  | some form => .error (unknownForm form type)

/-- Whether the sign before a magnitude is written. -/
def keepsSign (layout : Presentation) (value : Double) (text : List Char) : Bool :=
  let significand := text.takeWhile fun c => !(['e', 'E'].contains c)
  value.isNegative &&
    !(layout.dropsNegativeZero && value.isFinite &&
      significand.all fun c => c == '0' || c == '.' || c == '%')

/-- Stops if a double cannot be that precise. -/
def checkPrecision (layout : Presentation) : Except Fault Unit :=
  if layout.precision.any (· > precisionLimit) then .error (valueFault "precision too big")
  else .ok ()

/-- The forms that doubles are written in. -/
def doubleForms : List Char := ['e', 'E', 'f', 'F', 'g', 'G', 'n', '%']

/-- A double laid out. -/
def layOutDouble (layout : Presentation) (type : String) (value : Double) :
    Except Fault (List Char) := do
  match layout.form.filter (!doubleForms.contains ·) with
  | some form => .error (unknownForm form type)
  | none => do
    checkPrecision layout
    let text ← layout.doubleText type value.abs
    layout.layOutNumber 3 (.ofDouble (layout.keepsSign value text) text)

/-- The fault of something that integers are not written with. -/
def notForIntegers (what : String) : Fault :=
  valueFault s!"{what} not allowed in integer format specifier"

/-- The character of a code, laid out. -/
def layOutCode (layout : Presentation) (code : Int) : Except Fault (List Char) :=
  let refused (what : String) : Fault :=
    valueFault s!"{what} not allowed with integer format specifier 'c'"
  if layout.sign.isSome then .error (refused "Sign")
  else if layout.alternate then .error (refused "Alternate form (#)")
  else if Number.wordLimit ≤ code || code < -Number.wordLimit then
    .error (overflowFault "Python int too large to convert to C long")
  else if 0 ≤ code && code < 0x110000 then
    layout.layOutNumber 3 { isNegative := false, digits := [], rest := [Char.ofNat code.toNat] }
  else .error (overflowFault "%c arg not in range(0x110000)")

/-- An integer laid out. -/
def layOutInteger (layout : Presentation) (type : String) (value : Int) :
    Except Fault (List Char) := do
  let form := layout.form.getD 'd'
  let inBase (base : Nat) (mark : List Char) (size : Nat) (upper : Bool) :
      Except Fault (List Char) :=
    let digits := Nat.toDigits base value.natAbs
    layout.layOutNumber size
      { isNegative := value < 0
        mark := if layout.alternate then mark else []
        digits := if upper then digits.map Char.toUpper else digits }
  if form != 'n' && doubleForms.contains form then
    let double := Double.ofInt value
    if double.isFinite then layout.layOutDouble type double
    else .error (overflowFault "int too large to convert to float")
  else if !(baseForms ++ ['c', 'd', 'n']).contains form then .error (unknownForm form type)
  else if layout.precision.isSome then .error (notForIntegers "Precision")
  else if layout.dropsNegativeZero then .error (notForIntegers "Negative zero coercion (z)")
  else
    match form with
    | 'c' => layout.layOutCode value
    | 'b' => inBase 2 ['0', 'b'] 4 false
    | 'o' => inBase 8 ['0', 'o'] 4 false
    | 'x' => inBase 16 ['0', 'x'] 4 false
    | 'X' => inBase 16 ['0', 'X'] 4 true
    | _ =>
      if Number.isTooLong value then .error (valueFault Number.writeLimitMessage)
      else inBase 10 [] 3 false

/-- A complex number laid out: both parts under one presentation, in brackets if no form is given
and the real part is not left out. -/
def layOutComplex (layout : Presentation) (value : Complex) : Except Fault (List Char) := do
  match layout.form.filter fun form => form == '%' || !doubleForms.contains form with
  | some form => .error (unknownForm form "complex")
  | none => do
    checkPrecision layout
    checkRoom layout.width
    if layout.fill == '0' then
      .error (valueFault "Zero padding is not allowed in complex format specifier")
    else if layout.align == '=' then
      .error (valueFault "'=' alignment flag is not allowed in complex format specifier")
    else
      let bare := { layout with fill := ' ', align := '<', width := 0 }
      let part (sign : Option Char) (x : Double) : Except Fault (List Char) := do
        let text ← partText x.abs
        { bare with sign }.layOutNumber 3 (.ofDouble (layout.keepsSign x text) text)
      let onlyImaginary := layout.form.isNone && value.re == .zero
      let im ← part (if onlyImaginary then layout.sign else some '+') value.im
      let re ← if onlyImaginary then pure [] else part layout.sign value.re
      let body := re ++ im ++ ['j']
      let body :=
        if layout.form.isNone && !onlyImaginary then '(' :: body ++ [')'] else body
      pure (layout.pad [] body)
where
  /-- The text of a part: without a form it has no point after its last digit. -/
  partText (x : Double) : Except Fault (List Char) :=
    match layout.form, layout.precision with
    | none, some count =>
      .ok (Number.writeMagnitude (Number.generalMagnitude layout.alternate 'e' count) x)
    | none, none =>
      let text := (Number.plainDouble.write x).toList
      let short := if ['.', '0'].isSuffixOf text then text.take (text.length - 2) else text
      .ok (if layout.alternate && x.isFinite && !short.contains '.' then
        short.takeWhile (· != 'e') ++ '.' :: short.dropWhile (· != 'e') else short)
    | some _, _ => layout.doubleText "complex" x

/-- A text laid out. -/
def layOutText (layout : Presentation) (type : String) (text : List Char) :
    Except Fault (List Char) :=
  let refused (what : String) : Except Fault (List Char) :=
    .error (valueFault s!"{what} not allowed in string format specifier")
  match layout.form.filter (· != 's') with
  | some form => .error (unknownForm form type)
  | none =>
    if layout.sign = some ' ' then refused "Space"
    else if layout.sign.isSome then refused "Sign"
    else if layout.dropsNegativeZero then refused "Negative zero coercion (z)"
    else if layout.alternate then refused "Alternate form (#)"
    else if layout.align == '=' then refused "'=' alignment"
    else do
      checkRoom layout.width
      pure (layout.pad [] ((layout.precision.map text.take).getD text))

end Presentation

/-- A value as a presentation lays it out. -/
def Value.presented (value : Value) (layout : List Char) : Except Fault (List Char) := do
  let type := value.typeName
  match value with
  | string text | markup text =>
    (← Presentation.read layout type '<' (some 's')).layOutText type text.toList
  | bool _ | int _ =>
    let form := some 'd'
    (← Presentation.read layout type '>' form).layOutInteger type (value.integer?.getD 0)
  | nan _ => (← Presentation.read layout type '>' Option.none).layOutDouble type .nan
  | double x => (← Presentation.read layout type '>' Option.none).layOutDouble type x
  | complex z => (← Presentation.read layout type '>' Option.none).layOutComplex z
  | _ => .error (typeFault s!"unsupported format string passed to {type}.__format__")

end TemplateWorkbench.Template
