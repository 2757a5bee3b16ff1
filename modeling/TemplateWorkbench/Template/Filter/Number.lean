import TemplateWorkbench.Template.Filter.Basic
import TemplateWorkbench.Number.Shortest
import TemplateWorkbench.Template.Value.Arithmetic

/-!
# Filters of numbers

Reading numbers, rounding them, and writing a number of bytes.
-/

namespace TemplateWorkbench.Template

namespace Quantity

/-! ### Reading -/

/-- The integer that a value is cut down to, or that it is read as in a base. -/
def toWhole (value base : Value) : Except Fault Int :=
  match value with
  | .string _ | .markup _ =>
    match base.integer? with
    | none =>
      .error (typeFault s!"'{base.typeName}' object cannot be interpreted as an integer")
    | some n =>
      if n < 0 then .error (valueFault "int() base must be >= 2 and <= 36, or 0")
      else value.toWhole n.toNat
  | value => value.toWhole 10

/-- Whether a fault only says that something is no number. -/
def isMismatch (fault : Fault) : Bool := fault.kind = .type || fault.kind = .value

/-- The integer that a value is read as, if need be as a double; what cannot be read gives the
default. -/
def readWhole (value default base : Value) : Except Fault Value :=
  match toWhole value base with
  | .ok n => .ok (.int n)
  | .error fault =>
    if isMismatch fault then
      match (do Value.truncated (← value.toDouble)) with
      | .ok n => .ok (.int n)
      | .error second =>
        if isMismatch second || second.kind = .overflow then .ok default else .error second
    else .error fault

/-- The double that a value is read as; what cannot be read gives the default. -/
def readReal (value default : Value) : Except Fault Value :=
  match value.toDouble with
  | .ok d => .ok (.double d)
  | .error fault => if isMismatch fault then .ok default else .error fault

/-! ### Rounding -/

/-- An integer rounded to a power of ten, a tie going to the even multiple. -/
def roundWhole (power : Nat) (value : Int) : Int :=
  if Nat.pow 10 (min power (value.natAbs.log2 + 1)) > 2 * value.natAbs then 0
  else
    let step := Nat.pow 10 power
    let size : Int := Double.roundHalfEven value.natAbs step * step
    if value < 0 then -size else size

/-- A double rounded to a number of places. -/
def roundReal (places : Int) (value : Double) : Except Fault Double :=
  if !value.isFinite || places > 323 then .ok value
  else if places < -308 then .ok (Double.withSign value.isNegative .zero)
  else
    let rounded := Number.roundPlaces places value
    if rounded.isFinite then .ok rounded
    else .error (overflowFault "rounded value too large to represent")

/-- A value rounded to the nearest multiple. -/
def round (value places : Value) : Except Fault Value :=
  match (if value matches .nan _ then .double .nan else value), places with
  | .double d, .none =>
    match d.roundEven? with
    | some n => .ok (.int n)
    | none => .error (Value.wholeFault d)
  | .double d, places =>
    match places.integer? with
    | some n => do pure (.double (← roundReal n d))
    | none =>
      .error (typeFault s!"'{places.typeName}' object cannot be interpreted as an integer")
  | value, places =>
    match value.integer?, places with
    | none, _ =>
      .error (typeFault s!"type {value.typeName} doesn't define __round__ method")
    | some n, .none => .ok (.int n)
    | some n, places =>
      match places.integer? with
      | some p => .ok (.int (if 0 ≤ p then n else roundWhole p.natAbs n))
      | none =>
        .error (typeFault s!"'{places.typeName}' object cannot be interpreted as an integer")

/-- The integer next to a value, above or below. -/
def nextWhole (up : Bool) (value : Value) : Except Fault Int :=
  match value.numeral? with
  | some (.whole n) => .ok n
  | some (.real d) =>
    match (if up then d.ceil? else d.floor?) with
    | some n => .ok n
    | none => .error (Value.wholeFault d)
  | none => .error (typeFault s!"must be real number, not {value.typeName}")

/-- A value rounded in one of three ways. -/
def roundBy (services : Services) (value places method : Value) : Run Value := do
  Value.asKey method
  match method.text? with
  | some "common" => round value places
  | some "ceil" => scaled true
  | some "floor" => scaled false
  | _ => throw (argumentFault "method must be common, ceil or floor")
where
  /-- The value rounded up or down in units of a power of ten. -/
  scaled (up : Bool) : Run Value := do
    let power ← services.arithmetic .pow (.int 10) places
    let whole ← nextWhole up (← services.arithmetic .mul value power)
    services.arithmetic .div (.int whole) (← services.arithmetic .pow (.int 10) places)

/-! ### Sizes -/

/-- The units of a number of bytes. -/
def sizeUnits (binary : Bool) : List String :=
  ["k", "M", "G", "T", "P", "E", "Z", "Y"].map fun letter =>
    if binary then (if letter == "k" then "K" else letter) ++ "iB" else letter ++ "B"

/-- A number of bytes in the first unit that it is less than a thousand of. -/
def sizeIn (base : Nat) (bytes : Double) (power : Nat) : List String → String
  | [] => ""
  | unit :: rest =>
    let size : Int := Nat.pow base (power + 1)
    if rest.isEmpty || Double.compareInt? size bytes == some .gt then
      let shown := ((Double.ofInt base).mul bytes).div (Double.ofInt size)
      s!"{Number.fixedText 1 shown} {unit}"
    else sizeIn base bytes (power + 1) rest

/-- A number of bytes as people read it. -/
def sizeText (binary : Bool) (bytes : Double) : Except Fault String := do
  let base : Nat := if binary then 1024 else 1000
  if Double.compareInt? 1 bytes == some .eq then pure "1 Byte"
  else if Double.compareInt? (base : Int) bytes == some .gt then
    pure s!"{Number.integerText (← Value.truncated bytes)} Bytes"
  else pure (sizeIn base bytes 1 (sizeUnits binary))

end Quantity

namespace Filter

/-- The filters of numbers. -/
def numberFilters : List (String × Filter) := [
  ("abs", counted "abs" fun _ value => do
    match value.numeral? with
    | some (.whole n) => pure (.int n.natAbs)
    | some (.real d) => pure (.double d.abs)
    | none =>
      match value with
      | .complex z =>
        match z.abs with
        | .ok size => pure (.double size)
        | .error _ => throw (overflowFault "absolute value too large")
      | _ => throw (typeFault s!"bad operand type for abs(): '{value.typeName}'")),
  ("int", named
    { id := "do_int", required := ["value"], optional := [("default", .int 0), ("base", .int 10)] }
    fun _ _ bound => Quantity.readWhole (bound.value 0) (bound.value 1) (bound.value 2)),
  ("float", named
    { id := "do_float", required := ["value"], optional := [("default", .double .zero)] }
    fun _ _ bound => Quantity.readReal (bound.value 0) (bound.value 1)),
  ("round", named
    { id := "do_round", required := ["value"]
      optional := [("precision", .int 0), ("method", .string "common")] }
    fun services _ bound =>
      Quantity.roundBy services (bound.value 0) (bound.value 1) (bound.value 2)),
  ("filesizeformat", named
    { id := "do_filesizeformat", required := ["value"], optional := [("binary", .bool false)] }
    fun services _ bound => do
      let bytes ← (bound.value 0).toDouble
      pure (.string (← Quantity.sizeText (← services.truth (bound.value 1)) bytes)))]

end Filter

end TemplateWorkbench.Template
