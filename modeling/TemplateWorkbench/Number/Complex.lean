import TemplateWorkbench.Number.Shortest

/-!
# Complex numbers

A power of a negative number with a broken exponent is a complex number, a pair of doubles.  Sums,
products and quotients go part by part; a power goes through length and angle, unless its exponent is a
small whole number.  The functions of angles are those of the machine.
-/

namespace TemplateWorkbench

/-- A complex number. -/
structure Complex where
  re : Double
  im : Double
deriving DecidableEq, Repr, Inhabited

/-- Why a complex number cannot be computed. -/
inductive ComplexFault where
  | division
  | zeroPower
  | tooLarge
deriving DecidableEq, Repr

namespace Double

/-- A function of the machine on doubles. -/
def byMachine (f : Float → Float) (x : Double) : Double :=
  ofBits (f (Float.ofBits x.toBits)).toBits

/-- A function of the machine on two doubles. -/
def byMachine₂ (f : Float → Float → Float) (x y : Double) : Double :=
  ofBits (f (Float.ofBits x.toBits) (Float.ofBits y.toBits)).toBits

/-- The number one. -/
def one : Double := ofInt 1

/-- Whether one double is less than another. -/
def lessThan (x y : Double) : Bool := x.compare? y == some .lt

/-- The greatest whole number with a square that is not above a number. -/
def floorRoot (number : Nat) : Nat :=
  if number = 0 then 0 else improve (number.log2 + 8) (Nat.pow 2 (number.log2 / 2 + 1))
where
  /-- Newton's steps from above, as long as they go down. -/
  improve : Nat → Nat → Nat
    | 0, guess => guess
    | fuel + 1, guess =>
      let better := (guess + number / guess) / 2
      if better < guess then improve fuel better else guess

/-- The length of the vector with two sides. -/
def hypotenuse (x y : Double) : Double :=
  match x, y with
  | .infinite _, _ | _, .infinite _ => .infinite false
  | x, y =>
    match x.units?, y.units? with
    | some a, some b =>
      let square := a.natAbs * a.natAbs + b.natAbs * b.natAbs
      let scale := 2 * Number.wordLimit
      let root := floorRoot (square * scale * scale)
      let exact : Bool := root * root == square * scale * scale
      ofUnitRatio false (if exact then 2 * root else 2 * root + 1) (2 * scale)
    | _, _ => .nan

end Double

namespace Complex

/-- A real number. -/
def ofReal (x : Double) : Complex := ⟨x, .zero⟩

/-- Whether the number is zero. -/
def isZero (z : Complex) : Bool := z.re.isZero && z.im.isZero

/-- The sum. -/
def add (z w : Complex) : Complex := ⟨z.re.add w.re, z.im.add w.im⟩

/-- The difference. -/
def sub (z w : Complex) : Complex := ⟨z.re.sub w.re, z.im.sub w.im⟩

/-- The opposite. -/
def neg (z : Complex) : Complex := ⟨z.re.neg, z.im.neg⟩

/-- The product. -/
def mul (z w : Complex) : Complex :=
  ⟨(z.re.mul w.re).sub (z.im.mul w.im), (z.re.mul w.im).add (z.im.mul w.re)⟩

/-- The quotient: both numbers are first scaled by the greater part of the divisor. -/
def div (z w : Complex) : Except ComplexFault Complex :=
  if w.isZero then .error .division
  else if !(w.re.abs.lessThan w.im.abs) && w.im.abs != .nan && w.re != .nan then
    let ratio := w.im.div w.re
    let scale := w.re.add (w.im.mul ratio)
    .ok ⟨(z.re.add (z.im.mul ratio)).div scale, (z.im.sub (z.re.mul ratio)).div scale⟩
  else if w.im != .nan && w.re != .nan then
    let ratio := w.re.div w.im
    let scale := (w.re.mul ratio).add w.im
    .ok ⟨((z.re.mul ratio).add z.im).div scale, ((z.im.mul ratio).sub z.re).div scale⟩
  else .ok ⟨.nan, .nan⟩

/-- The power with a natural exponent, by repeated squaring. -/
def powNat (z : Complex) (n : Nat) : Complex := go (n.log2 + 1) n z (ofReal .one)
where
  /-- The product of a result with the power of a base. -/
  go : (fuel n : Nat) → Complex → Complex → Complex
    | 0, _, _, result => result
    | fuel + 1, n, base, result =>
      if n = 0 then result
      else go fuel (n / 2) (base.mul base) (if n % 2 = 1 then result.mul base else result)

/-- The greatest whole exponent that is taken by multiplying. -/
def wholeExponentLimit : Nat := 100

/-- The power through length and angle. -/
def powPolar (z w : Complex) : Except ComplexFault Complex :=
  if w.isZero then .ok (ofReal .one)
  else if z.isZero then
    if !w.im.isZero || w.re.isNegative then .error .zeroPower else .ok (ofReal .zero)
  else
    let length := Double.hypotenuse z.re z.im
    let power := length.pow w.re
    let angle := Double.byMachine₂ Float.atan2 z.im z.re
    let turned := angle.mul w.re
    let (power, turned) :=
      if w.im.isZero then (power, turned)
      else
        (power.div (Double.byMachine Float.exp (angle.mul w.im)),
          turned.add (w.im.mul (Double.byMachine Float.log length)))
    .ok ⟨power.mul (Double.byMachine Float.cos turned), power.mul (Double.byMachine Float.sin turned)⟩

/-- The power, if it is not too large. -/
def pow (z w : Complex) : Except ComplexFault Complex := do
  let whole := if w.im.isZero && w.re.isWhole then w.re.truncate? else none
  let result ←
    match whole.filter fun n => n.natAbs ≤ wholeExponentLimit with
    | some n =>
      if n > 0 then pure (z.powNat n.toNat)
      else if n = 0 then pure (ofReal .one)
      else
        match div (ofReal .one) (z.powNat n.natAbs) with
        | .ok result => pure result
        | .error _ => .error .zeroPower
    | none => powPolar z w
  let infinite (x : Double) : Bool := !x.isFinite && x != .nan
  if infinite result.re || infinite result.im then .error .tooLarge else pure result

/-- The absolute value, if it is not too large. -/
def abs (z : Complex) : Except ComplexFault Double :=
  let length := Double.hypotenuse z.re z.im
  if !length.isFinite && length != .nan && z.re.isFinite && z.im.isFinite then .error .tooLarge
  else .ok length

/-- A double without a fraction where it has none, as a part of a complex number. -/
def partText (x : Double) : String :=
  let text := Number.plainDouble.write x
  if text.endsWith ".0" then String.ofList (text.toList.take (text.length - 2)) else text

/-- The text of a complex number: both parts in brackets, or only the imaginary one. -/
def text (z : Complex) : String :=
  if z.re = .zero then partText z.im ++ "j"
  else
    let im := partText z.im
    let sign := if z.im.isNegative then "" else "+"
    s!"({partText z.re}{sign}{im}j)"

end Complex

end TemplateWorkbench
