import TemplateWorkbench.Template.Value.Arithmetic
import TemplateWorkbench.Template.Value.Subscript
import TemplateWorkbench.Template.Value.Presentation
import TemplateWorkbench.Number.Shortest
import TemplateWorkbench.Text.Entity

/-!
# Filling in formats

A format is a text with places to be filled in.  A place is marked by a percent sign and may have the
name of an entry in round brackets, flags, a width and a precision; its last character says how the
value is written.  Two percent signs stand for one.

What is filled into markup is escaped first.
-/

namespace TemplateWorkbench.Template.Interpolation

/-- The flags of a place. -/
structure Flags where
  left : Bool := false
  plus : Bool := false
  blank : Bool := false
  alternate : Bool := false
  zero : Bool := false

/-- A value written, in parts: what comes before padding with zeros, and the rest. -/
structure Written where
  sign : List Char := []
  stem : List Char := []
  body : List Char
  isNumber : Bool := false

/-- The values that are still to be filled in: the ones of a tuple, or a single one, and whether a
mapping was given. -/
structure Supply where
  values : List Value
  mapping : Option Value

/-- What a format is filled in with. -/
structure Filling where
  look : Appearance
  escapes : Bool

/-- Whether the parts of a value can be asked for. -/
def hasParts : Value → Bool
  | .list _ | .dict _ | .range _ _ _ | .bytes _ | .undefined _ _ | .object .templateSelf _ => true
  | _ => false

/-- What a format is filled in from: the items of a tuple, or the value itself. -/
def Supply.ofValue (value : Value) : Supply :=
  match value.tupleItems? with
  | some items => ⟨items, none⟩
  | none => ⟨[value], if hasParts value then some value else none⟩

/-- The fault of running out of values. -/
def exhausted : Fault := typeFault "not enough arguments for format string"

/-- The next value, and the supply without it. -/
def Supply.next (supply : Supply) : Except Fault (Value × Supply) :=
  match supply.values with
  | [] => .error exhausted
  | value :: rest => .ok (value, { supply with values := rest })

/-- The name of an entry, up to the bracket that closes it, and what follows. -/
def entryName (depth : Nat) (done : List Char) : List Char → Option (String × List Char)
  | [] => none
  | ')' :: rest =>
    if depth = 0 then some (String.ofList done.reverse, rest)
    else entryName (depth - 1) (')' :: done) rest
  | '(' :: rest => entryName (depth + 1) ('(' :: done) rest
  | c :: rest => entryName depth (c :: done) rest

/-- The value of an entry. -/
def entryOf (name : String) (mapping : Value) : Except Fault Value :=
  let missing := mapping.elementFault (.string name) (Text.quote name)
  match mapping with
  | .dict entries => do
    match ← Value.entry? (.string name) entries with
    | some value => pure value
    | none => .error missing
  | _ => .error missing

/-- The flags at the front, and what follows. -/
def readFlags (flags : Flags) : List Char → Flags × List Char
  | '-' :: rest => readFlags { flags with left := true } rest
  | '+' :: rest => readFlags { flags with plus := true } rest
  | ' ' :: rest => readFlags { flags with blank := true } rest
  | '#' :: rest => readFlags { flags with alternate := true } rest
  | '0' :: rest => readFlags { flags with zero := true } rest
  | text => (flags, text)

/-- What the size of a place may be, and what is said of one that is too large. -/
structure SizeLimit where
  bits : Nat
  written : String
  given : String

/-- The limit of a width. -/
def widthLimit : SizeLimit :=
  ⟨63, "width too big", "Python int too large to convert to C ssize_t"⟩

/-- The limit of a precision. -/
def precisionLimit : SizeLimit :=
  ⟨31, "precision too big", "Python int too large to convert to C int"⟩

/-- A width or a precision: digits, a star that takes a value, or nothing. -/
def readSize (supply : Supply) (escapes : Bool) (limit : SizeLimit) (text : List Char) :
    Except Fault (Option Int × Supply × List Char) :=
  match text with
  | '*' :: rest => do
    let (value, supply) ← supply.next
    match value.integer?, escapes with
    | some size, false =>
      let bound : Int := Nat.pow 2 limit.bits
      if -bound ≤ size && size < bound then pure (some size, supply, rest)
      else .error (overflowFault limit.given)
    | _, _ => .error (typeFault "* wants int")
  | _ =>
    let digits := text.takeWhile Char.isDigit
    if digits.isEmpty then .ok (none, supply, text)
    else
      let size := (Number.ofDigits 10 (digits.map fun c => c.toNat - 48) : Nat)
      if Nat.pow 2 limit.bits ≤ size then .error (valueFault limit.written)
      else .ok (some size, supply, text.drop digits.length)

/-- The digits of a number in a base. -/
def baseDigits (base number : Nat) : List Char := Nat.toDigits base number

/-- An integer written in a base. -/
def writeInteger (flags : Flags) (precision : Option Int) (base : Nat) (stem : List Char)
    (value : Int) : Except Fault Written := do
  if base = 10 && Number.isTooLong value then .error (valueFault Number.writeLimitMessage)
  else
    let digits := baseDigits base value.natAbs
    let least := (precision.getD 0).toNat
    .ok
      { sign := if value < 0 then ['-'] else []
        stem := if flags.alternate then stem else []
        body := List.replicate (least - digits.length) '0' ++ digits
        isNumber := true }

/-- The type of a value as messages name it; markup wraps what it is filled with. -/
def Filling.typeName (filling : Filling) (value : Value) : String :=
  if filling.escapes then "_MarkupEscapeHelper" else value.typeName

/-- The integer that a value is cut down to; what markup is filled with may be a text. -/
def wholeOf (filling : Filling) (conversion : Char) (value : Value) : Except Fault Int :=
  let refused : Fault :=
    typeFault s!"%{conversion} format: a real number is required, not {filling.typeName value}"
  if value.isText && !filling.escapes then .error refused
  else
    (value.toWhole 10).mapError fun fault => if fault.kind = .type then refused else fault

/-- The integer that a value is. -/
def indexOf (filling : Filling) (conversion : Char) (value : Value) : Except Fault Int :=
  match value.integer?, filling.escapes with
  | some n, false => .ok n
  | _, _ =>
    .error (typeFault
      s!"%{conversion} format: an integer is required, not {filling.typeName value}")

/-- A double with a sign of its own. -/
def writeDouble (upper : Bool) (write : Nat → List Char) (value : Double) : Written :=
  let text := Number.writeMagnitude write value
  let text := if upper then text.map Char.toUpper else text
  match text with
  | '-' :: rest => { sign := ['-'], body := rest, isNumber := true }
  | body => { body, isNumber := true }

/-- The double that a value is; what markup is filled with may be a text. -/
def realOf (filling : Filling) (value : Value) : Except Fault Double :=
  if filling.escapes then value.toDouble
  else
    match value with
    | .undefined _ absence => .error absence.fault
    | value =>
      match value.numeral? with
      | some numeral => Value.realOf numeral
      | none => .error (typeFault s!"must be real number, not {value.typeName}")

/-- A text cut to the precision. -/
def cut (precision : Option Int) (text : String) : Written :=
  match precision with
  | some size => { body := text.toList.take size.toNat }
  | none => { body := text.toList }

/-- Text that is filled in, escaped if the format is markup. -/
def Filling.guard (filling : Filling) (value : Value) (text : String) : String :=
  match filling.escapes, value with
  | true, .markup _ => text
  | true, _ => Text.escapeMarkup text
  | false, _ => text

/-- A single character. -/
def writeCharacter (filling : Filling) (value : Value) : Except Fault Written :=
  let refused : Except Fault Written := .error (typeFault "%c requires int or char")
  if filling.escapes then refused
  else
    match value.text?, value.integer? with
    | some text, _ => if text.length = 1 then .ok { body := text.toList } else refused
    | none, some code =>
      if 0 ≤ code && code < 0x110000 then .ok { body := [Char.ofNat code.toNat] }
      else .error (overflowFault "%c arg not in range(0x110000)")
    | none, none => refused

/-- A value as a conversion writes it. -/
def convert (filling : Filling) (flags : Flags) (precision : Option Int) (conversion : Char)
    (position : Nat) (value : Value) : Except Fault Written := do
  let places := ((precision.filter (0 ≤ ·)).getD (if precision.isSome then 0 else 6)).toNat
  let point := flags.alternate
  match conversion with
  | 's' => pure (cut precision (filling.guard value (← value.printed filling.look)))
  | 'r' => pure (cut precision (← represented filling value))
  | 'a' => pure (cut precision (Text.asciiOnly (← represented filling value)))
  | 'd' | 'i' | 'u' =>
    writeInteger flags precision 10 [] (← wholeOf filling conversion value)
  | 'o' => writeInteger flags precision 8 ['0', 'o'] (← indexOf filling conversion value)
  | 'x' => writeInteger flags precision 16 ['0', 'x'] (← indexOf filling conversion value)
  | 'X' =>
    let written ← writeInteger flags precision 16 ['0', 'X'] (← indexOf filling conversion value)
    pure { written with body := written.body.map Char.toUpper }
  | 'f' | 'F' =>
    pure (writeDouble (conversion == 'F') (Number.fixedMagnitude point places) (← realOf filling value))
  | 'e' | 'E' =>
    pure (writeDouble (conversion == 'E') (Number.scientificMagnitude point 'e' places)
      (← realOf filling value))
  | 'g' | 'G' =>
    pure (writeDouble (conversion == 'G') (Number.generalMagnitude point 'e' places)
      (← realOf filling value))
  | 'c' => writeCharacter filling value
  | other =>
    let shown := if 31 ≤ other.toNat && other.toNat ≤ 126 then other else '?'
    let code := String.ofList (baseDigits 16 other.toNat)
    .error
      (valueFault s!"unsupported format character '{shown}' (0x{code}) at index {position}")
where
  /-- The written form of a value, escaped if the format is markup. -/
  represented (filling : Filling) (value : Value) : Except Fault String := do
    let text ← value.written filling.look
    pure (if filling.escapes then Text.escapeMarkup text else text)

/-- What is written, brought to a width. -/
def pad (flags : Flags) (width : Nat) (written : Written) : List Char :=
  let sign :=
    if !written.isNumber || !written.sign.isEmpty then written.sign
    else if flags.plus then ['+']
    else if flags.blank then [' ']
    else []
  let front := sign ++ written.stem
  let missing := width - (front.length + written.body.length)
  if flags.left then front ++ written.body ++ List.replicate missing ' '
  else if flags.zero && written.isNumber then front ++ List.replicate missing '0' ++ written.body
  else List.replicate missing ' ' ++ front ++ written.body

/-- One place of a format, after its percent sign: what is written, the supply after it, and what
follows. -/
def place (filling : Filling) (length : Nat) (supply : Supply) (text : List Char) :
    Except Fault (List Char × Supply × List Char) := do
  let (supply, text) ←
    match text with
    | '(' :: rest =>
      match supply.mapping with
      | none => .error (typeFault "format requires a mapping")
      | some mapping =>
        match entryName 0 [] rest with
        | none => .error (valueFault "incomplete format key")
        | some (name, rest) => do
          let value ← entryOf name mapping
          pure ({ supply with values := [value] }, rest)
    | rest => .ok (supply, rest)
  let (flags, text) := readFlags {} text
  let (width, supply, text) ← readSize supply filling.escapes widthLimit text
  let flags := if width.any (· < 0) then { flags with left := true } else flags
  let (precision, supply, text) ←
    match text with
    | '.' :: rest => do
      let (size, supply, rest) ← readSize supply filling.escapes precisionLimit rest
      pure (some (size.getD 0), supply, rest)
    | rest => .ok (none, supply, rest)
  let text :=
    match text with
    | 'h' :: rest | 'l' :: rest | 'L' :: rest => rest
    | rest => rest
  match text with
  | [] => .error (valueFault "incomplete format")
  | conversion :: rest =>
    let (value, supply) ← supply.next
    let written ← convert filling flags precision conversion (length - text.length) value
    Presentation.checkRoom (width.getD 0).natAbs
    pure (pad flags (width.getD 0).natAbs written, supply, rest)

/-- A format filled in; `fuel` is more than the number of its places. -/
def fill (filling : Filling) (length : Nat) :
    (fuel : Nat) → Supply → List Char → Except Fault (List Char × Supply)
  | 0, supply, _ => .ok ([], supply)
  | fuel + 1, supply, text => do
    let literal := text.takeWhile (· != '%')
    match text.drop literal.length with
    | [] => pure (literal, supply)
    | '%' :: '%' :: rest => do
      let (text, supply) ← fill filling length fuel supply rest
      pure (literal ++ '%' :: text, supply)
    | _ :: rest => do
      let (written, supply, rest) ← place filling length supply rest
      let (text, supply) ← fill filling length fuel supply rest
      pure (literal ++ written ++ text, supply)

end Interpolation

/-- A text filled in with a value as a format; markup stays markup. -/
def Value.interpolate (look : Appearance) (format : String) (isMarkup : Bool) (value : Value) :
    Except Fault Value := do
  let characters := format.toList
  let (text, supply) ←
    Interpolation.fill ⟨look, isMarkup⟩ characters.length (characters.length + 1) (.ofValue value)
      characters
  if !supply.values.isEmpty && supply.mapping.isNone then
    .error (typeFault "not all arguments converted during string formatting")
  else
    let result := String.ofList text
    pure (if isMarkup then .markup result else .string result)

end TemplateWorkbench.Template
