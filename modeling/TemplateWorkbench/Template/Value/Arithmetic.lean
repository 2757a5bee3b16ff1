import TemplateWorkbench.Number.Reading
import TemplateWorkbench.Template.Syntax
import TemplateWorkbench.Template.Value.Equality
import TemplateWorkbench.Text.Entity

/-!
# Arithmetic on values

Integers are exact and of any size; division gives doubles; an integer that meets a double becomes
one.  Texts and lists can be joined and repeated, and what is joined to markup is escaped first.  A
missing value takes part in nothing.
-/

namespace TemplateWorkbench.Template

/-- How an operator is written in a message. -/
def BinaryOp.sign : BinaryOp → String
  | add => "+" | sub => "-" | mul => "*" | div => "/" | floordiv => "//" | mod => "%"
  | pow => "** or pow()" | and => "and" | or => "or"

namespace Value

/-- The fault of a division by zero. -/
def zeroFault (message : String) : Fault := faultOf .zeroDivision message

/-- An integer as a double, unless it is too large. -/
def asDouble (value : Int) : Except Fault Double :=
  let double := Double.ofInt value
  if double.isFinite then .ok double
  else .error (overflowFault "int too large to convert to float")

/-- A number as a double. -/
def realOf : Numeral → Except Fault Double
  | .whole value => asDouble value
  | .real value => .ok value

/-- The remainder of two doubles, with the sign of the divisor. -/
def remainder (x y : Double) : Double :=
  let rest := x.truncMod y
  if rest.isZero then Double.withSign y.isNegative .zero
  else if rest.isNegative != y.isNegative && rest.isFinite then rest.add y
  else rest

/-- The quotient of two doubles, rounded down. -/
def floorQuotient (x y : Double) : Double :=
  let rest := x.truncMod y
  let quotient := (x.sub rest).div y
  let quotient :=
    if !rest.isZero && rest.isNegative != y.isNegative then quotient.sub (Double.ofInt 1)
    else quotient
  if quotient.isZero then Double.withSign (x.div y).isNegative .zero
  else
    let whole := quotient.floor
    match (quotient.sub whole).compare? (Double.ofRatio false 1 2) with
    | some .gt => whole.add (Double.ofInt 1)
    | _ => whole

/-- The fault of a complex number that cannot be computed. -/
def complexFault : ComplexFault → Fault
  | .division => zeroFault "complex division by zero"
  | .zeroPower => zeroFault "0.0 to a negative or complex power"
  | .tooLarge => overflowFault "complex exponentiation"

/-- A complex result as a value. -/
def ofComplex (result : Except ComplexFault Complex) : Except Fault Value :=
  match result with
  | .ok value => .ok (complex value)
  | .error fault => .error (complexFault fault)

/-- The power of two doubles; a negative one to a broken power is complex. -/
def doublePower (x y : Double) : Except Fault Value :=
  if x.isFinite && x.isNegative && !x.isZero && y.isFinite && !y.isWhole then
    ofComplex (Complex.pow (.ofReal x) (.ofReal y))
  else if x.isZero && y.isNegative && !y.isZero then
    .error (zeroFault "0.0 cannot be raised to a negative power")
  else
    let result := x.pow y
    if !result.isFinite && result != .nan && x.isFinite && y.isFinite then
      .error (overflowFault "(34, 'Numerical result out of range')")
    else .ok (double result)

/-- Arithmetic on two integers. -/
def wholeArithmetic (op : BinaryOp) (x y : Int) : Except Fault Value :=
  match op with
  | .add => .ok (int (x + y))
  | .sub => .ok (int (x - y))
  | .mul => .ok (int (x * y))
  | .div =>
    if y = 0 then .error (zeroFault "division by zero")
    else
      let quotient := Double.ofRatio (decide (x < 0) != decide (y < 0)) x.natAbs y.natAbs
      if quotient.isFinite then .ok (double quotient)
      else .error (overflowFault "integer division result too large for a float")
  | .floordiv =>
    if y = 0 then .error (zeroFault "integer division or modulo by zero")
    else .ok (int (Int.fdiv x y))
  | .mod =>
    if y = 0 then .error (zeroFault "integer modulo by zero") else .ok (int (Int.fmod x y))
  | _ =>
    if 0 ≤ y then .ok (int (x.pow y.toNat))
    else do doublePower (← asDouble x) (← asDouble y)

/-- Arithmetic on two doubles. -/
def doubleArithmetic (op : BinaryOp) (x y : Double) : Except Fault Value :=
  match op with
  | .add => .ok (double (x.add y))
  | .sub => .ok (double (x.sub y))
  | .mul => .ok (double (x.mul y))
  | .div =>
    if y.isZero then .error (zeroFault "float division by zero") else .ok (double (x.div y))
  | .floordiv =>
    if y.isZero then .error (zeroFault "float floor division by zero")
    else .ok (double (floorQuotient x y))
  | .mod =>
    if y.isZero then .error (zeroFault "float modulo") else .ok (double (remainder x y))
  | _ => doublePower x y

/-- The complex number that a value is. -/
def complexOf (value : Value) : Except Fault (Option Complex) :=
  match value with
  | complex z => .ok (some z)
  | value =>
    match value.numeral? with
    | some number => do pure (some (.ofReal (← realOf number)))
    | Option.none => .ok Option.none

/-- Arithmetic on two complex numbers, for the operators that they have. -/
def complexArithmetic (op : BinaryOp) (z w : Complex) : Option (Except Fault Value) :=
  match op with
  | .add => some (.ok (complex (z.add w)))
  | .sub => some (.ok (complex (z.sub w)))
  | .mul => some (.ok (complex (z.mul w)))
  | .div => some (ofComplex (z.div w))
  | .pow => some (ofComplex (z.pow w))
  | _ => Option.none

/-- Arithmetic on two numbers. -/
def numeralArithmetic (op : BinaryOp) : Numeral → Numeral → Except Fault Value
  | .whole x, .whole y => wholeArithmetic op x y
  | left, right => do doubleArithmetic op (← realOf left) (← realOf right)

/-- The fault of an operator that does not fit its operands. -/
def unsupported (op : BinaryOp) (left right : Value) : Fault :=
  typeFault
    (s!"unsupported operand type(s) for {op.sign}: '{left.typeName}' and '{right.typeName}'")

/-- The fault of joining something to a text or a sequence that cannot be joined to it. -/
def joinFault (kind : String) (right : Value) : Fault :=
  typeFault s!"can only concatenate {kind} (not \"{right.typeName}\") to {kind}"

/-- A text as markup: escaped, unless it is markup already. -/
def escapedText : Value → Option String
  | string text => some (Text.escapeMarkup text)
  | markup text => some text
  | _ => Option.none

/-- The sum of two values that are not both numbers. -/
def join (left right : Value) : Except Fault Value :=
  match left, right with
  | string a, string b => .ok (string (a ++ b))
  | string a, markup b => .ok (markup (Text.escapeMarkup a ++ b))
  | markup a, _ =>
    match right.escapedText with
    | some b => .ok (markup (a ++ b))
    | Option.none => .error (unsupported .add left right)
  | string _, _ => .error (joinFault "str" right)
  | list a, list b => .ok (list (a ++ b))
  | list _, _ => .error (joinFault "list" right)
  | bytes a, bytes b => .ok (bytes (a ++ b))
  | _, _ =>
    match left.tupleItems?, right.tupleItems? with
    | some a, some b => .ok (tuple (a ++ b))
    | some _, Option.none => .error (joinFault "tuple" right)
    | Option.none, _ => .error (unsupported .add left right)

/-- Items one after another, a number of times. -/
def cycle {α : Type} (count : Nat) (items : List α) : List α := (List.replicate count items).flatten

/-- A sequence repeated a number of times, if it is one. -/
def repeated? (count : Nat) : Value → Option Value
  | string text => some (string (String.join (List.replicate count text)))
  | markup text => some (markup (String.join (List.replicate count text)))
  | list items => some (list (cycle count items))
  | bytes octets => some (bytes (cycle count octets))
  | value => value.tupleItems?.map fun items => tuple (cycle count items)

/-- The fault of a count that is too large for any sequence. -/
def countFault : Fault := overflowFault "cannot fit 'int' into an index-sized integer"

/-- The greatest number of items that a sequence may be repeated to. -/
def repetitionLimit : Nat := 0x400000000

/-- A sequence repeated a number of times, if it is one and does not become too long. -/
def repeatTimes (sequence : Value) (times : Nat) : Except Fault (Option Value) :=
  let (length, tooLong) : Nat × Fault :=
    match sequence with
    | string text | markup text => (text.length, overflowFault "repeated string is too long")
    | bytes octets => (octets.length, overflowFault "repeated bytes are too long")
    | value =>
      ((value.itemsAtHand?.map List.length).getD 0, faultOf .memory "")
  if length = 0 then .ok (sequence.repeated? 0)
  else if length * times ≤ repetitionLimit then .ok (sequence.repeated? times)
  else if Number.wordLimit ≤ length * times then .error tooLong
  else .error (faultOf .memory "")

/-- A sequence multiplied by a value that should be an integer; none if it is no sequence. -/
def repeatBy (sequence count : Value) : Except Fault (Option Value) :=
  match sequence.repeated? 0 with
  | Option.none => .ok Option.none
  | some _ =>
    match count.integer? with
    | some times =>
      if Number.wordLimit ≤ times.natAbs then .error countFault
      else sequence.repeatTimes times.toNat
    | Option.none =>
      .error
        (match sequence with
        | markup _ => typeFault s!"'{count.typeName}' object cannot be interpreted as an integer"
        | _ => typeFault s!"can't multiply sequence by non-int of type '{count.typeName}'")

/-- The product of two values that are not both numbers; markup decides before other sequences. -/
def multiply (left right : Value) : Except Fault Value := do
  let (first, second) :=
    match left, right with
    | markup _, _ => (left, right)
    | _, markup _ => (right, left)
    | _, _ => (left, right)
  match ← first.repeatBy second with
  | some value => pure value
  | Option.none =>
    match ← second.repeatBy first with
    | some value => pure value
    | Option.none => .error (unsupported .mul left right)

/-- The members of a value as a set, if it has members at hand. -/
def memberSet (value : Value) : Except Fault (List Value) :=
  match value.itemsAtHand? with
  | some items => items.foldlM (fun members item => putMember item members) []
  | Option.none => .error value.notIterable

/-- Whether a value is a view that can be subtracted from: one of keys or items. -/
def isSetView : Value → Bool
  | view .keys _ | view .items _ => true
  | _ => false

/-- The difference of two values that are not both numbers: of sets, and of views of a dictionary and
anything with items. -/
def subtract (left right : Value) : Except Fault Value :=
  match left, right with
  | set frozen members, set _ others => do
    pure (set frozen (← members.filterM fun member => do pure (!(← isAmong member others))))
  | _, _ =>
    if left.isSetView || right.isSetView then do
      let members ← memberSet left
      let others ← memberSet right
      pure (set false (← members.filterM fun member => do pure (!(← isAmong member others))))
    else .error (unsupported .sub left right)

/-- An arithmetic operator applied to two values, of which the left one is no text to be filled in. -/
def arithmetic (op : BinaryOp) (left right : Value) : Except Fault Value := do
  match op, left, right with
  | .mul, markup _, undefined _ _ => let _ ← left.repeatBy right
  | _, _, _ => present left right
  match left.numeral?, right.numeral? with
  | some x, some y => numeralArithmetic op x y
  | _, _ =>
    match ← complexPair left right with
    | some (z, w) => (complexArithmetic op z w).getD (.error (unsupported op left right))
    | Option.none =>
      match op with
      | .add => join left right
      | .mul => multiply left right
      | .sub => subtract left right
      | _ => .error (unsupported op left right)
where
  /-- Two numbers of which at least one is complex. -/
  complexPair (left right : Value) : Except Fault (Option (Complex × Complex)) := do
    match left, right with
    | complex _, _ | _, complex _ =>
      match ← complexOf left, ← complexOf right with
      | some z, some w => pure (some (z, w))
      | _, _ => pure Option.none
    | _, _ => pure Option.none

/-- A number with a sign put before it. -/
def signed (op : UnaryOp) (value : Value) : Except Fault Value :=
  match value.missingFault? with
  | some fault => .error fault
  | Option.none =>
    let negative := op == .neg
    match value.numeral? with
    | some (.whole x) => .ok (int (if negative then -x else x))
    | some (.real x) => .ok (double (if negative then x.neg else x))
    | Option.none =>
      match value with
      | complex z => .ok (complex (if negative then z.neg else z))
      | _ =>
        let sign := if negative then "-" else "+"
        .error (typeFault s!"bad operand type for unary {sign}: '{value.typeName}'")

end Value

end TemplateWorkbench.Template

/-!
## Values as numbers

A value is read as a number if it is one, or if it is a text that denotes one.  An integer is read by
cutting a double down to it.
-/

namespace TemplateWorkbench.Template.Value

/-- The fault of a double that is no integer at all. -/
def wholeFault (value : Double) : Fault :=
  match value with
  | .nan => valueFault "cannot convert float NaN to integer"
  | _ => overflowFault "cannot convert float infinity to integer"

/-- A double without its places after the point. -/
def truncated (value : Double) : Except Fault Int :=
  match value.truncate? with
  | some n => .ok n
  | Option.none => .error (wholeFault value)

/-- A text in quotes, marked if it is markup. -/
def quoted (value : Value) : String :=
  match value with
  | markup text => s!"Markup({Text.quote text})"
  | value => Text.quote (value.text?.getD "")

/-- The double that a value is or is read as. -/
def toDouble (value : Value) : Except Fault Double :=
  match value with
  | undefined _ absence => .error absence.fault
  | string text | markup text =>
    match Number.readDouble? text.toList with
    | some d => .ok d
    | Option.none => .error (valueFault s!"could not convert string to float: {value.quoted}")
  | value =>
    match value.numeral? with
    | some numeral => realOf numeral
    | Option.none =>
      .error (typeFault
        s!"float() argument must be a string or a real number, not '{value.typeName}'")

/-- The greatest length of a text that a message shows. -/
def shownLength : Nat := 200

/-- The fault of a text that is no integer in a base. -/
def noWhole (base : Nat) (value : Value) : Number.NumeralFault → Fault
  | .malformed =>
    let shown := String.ofList (value.quoted.toList.take shownLength)
    valueFault s!"invalid literal for int() with base {base}: {shown}"
  | .tooLong digits => valueFault (Number.readLimitMessage digits)
  | .badBase => valueFault "int() base must be >= 2 and <= 36, or 0"

/-- The integer that a value is cut down to, or that a text denotes in a base. -/
def toWhole (base : Nat) (value : Value) : Except Fault Int :=
  match value with
  | undefined _ absence => .error absence.fault
  | string text | markup text => (Number.readInteger base text.toList).mapError (noWhole base value)
  | double d => truncated d
  | nan _ => truncated .nan
  | value =>
    match value.integer? with
    | some n => .ok n
    | Option.none =>
      .error (typeFault
        ("int() argument must be a string, a bytes-like object or a real number, not " ++
          s!"'{value.typeName}'"))

end TemplateWorkbench.Template.Value
