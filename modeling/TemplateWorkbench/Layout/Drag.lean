import TemplateWorkbench.Json.Basic
import TemplateWorkbench.Settings.Storage
import TemplateWorkbench.View.Mode

/-!
# Dividers

What a divider measures, and how it is dragged.
-/

namespace TemplateWorkbench

/-!
## Measures

Coordinates and sizes are numbers: whole ones stay exact, and one that is a double makes the result a
double.  Sizes that are computed are whole numbers again, the nearest ones.
-/

/-- A coordinate or a size. -/
inductive Measure where
  | whole (value : Int)
  | real (value : Double)
deriving DecidableEq, Repr, Inhabited

/-- Why a measure cannot be computed. -/
inductive MeasureFault where
  /-- A whole number is too large to be mixed with doubles. -/
  | tooLarge
  | notNumber
  | infinite
deriving DecidableEq, Repr

/-- What is said of a measure that cannot be computed. -/
def MeasureFault.message : MeasureFault → String
  | tooLarge => "int too large to convert to float"
  | notNumber => "cannot convert float NaN to integer"
  | infinite => "cannot convert float infinity to integer"

namespace Measure

/-- A whole number as a double, unless it is too large for one. -/
def toDouble (value : Int) : Except MeasureFault Double :=
  let double := Double.ofInt value
  if double.isFinite then .ok double else .error .tooLarge

/-- The difference of two measures. -/
def sub : Measure → Measure → Except MeasureFault Measure
  | whole x, whole y => .ok (whole (x - y))
  | whole x, real y => do pure (real (Double.sub (← toDouble x) y))
  | real x, whole y => do pure (real (Double.sub x (← toDouble y)))
  | real x, real y => .ok (real (Double.sub x y))

/-- What the integer of a double is, by a given way to it. -/
def integerBy (way : Double → Option Int) (value : Double) : Except MeasureFault Int :=
  match way value with
  | some result => .ok result
  | none => .error (if value = .nan then .notNumber else .infinite)

/-- The nearest whole number, a tie going to the even one. -/
def round : Measure → Except MeasureFault Int
  | whole value => .ok value
  | real value => integerBy Double.roundEven? value

/-- The measure without its fraction. -/
def truncate : Measure → Except MeasureFault Int
  | whole value => .ok value
  | real value => integerBy Double.truncate? value

/-- The measure as plain data. -/
def toJson : Measure → Json
  | whole value => .int value
  | real value => .double value

/-- The measure that plain data is. -/
def ofJson? : Json → Option Measure
  | .int value => some (whole value)
  | .double value => some (real value)
  | _ => none

/-- Whether a measure is finite; a whole number that is too large for a double has no answer. -/
def isFinite : Measure → Except MeasureFault Bool
  | whole value => do
    let _ ← toDouble value
    pure true
  | real value => .ok value.isFinite

end Measure

/-!
## Dragging

A divider turns the pointer going down, moving and going up into a new size of its pane.  Panes are
anchored to the far edge, so a pane shrinks as the pointer moves toward it:

```text
new size = size at the start - (coordinate - coordinate at the start)
```

A size changes only while the pointer is down.  Every change is written to the settings under the
divider's key and told to those who listen; that it could not be written changes nothing.
-/

/-- The pointer coordinate that a divider follows. -/
inductive Axis where
  | x | y
deriving DecidableEq, Repr

namespace Axis

/-- The name of an axis. -/
def name : Axis → String
  | x => "x"
  | y => "y"

/-- The axis of a name, or the complaint about the name. -/
def ofName : String → Except UnknownChoice Axis
  | "x" => .ok x
  | "y" => .ok y
  | other => .error ⟨Text.quote other, "Axis"⟩

end Axis

/-- What is remembered of the start of a drag. -/
structure DragSession where
  axis : Axis
  mouseBase : Measure
  sizeBase : Measure
  key : String
deriving DecidableEq, Repr

/-- The size for the pointer at a coordinate, at least `minSize`. -/
def DragSession.sizeAt (session : DragSession) (coordinate : Measure) (minSize : Int) :
    Except MeasureFault Int := do
  let moved ← coordinate.sub session.mouseBase
  let size ← (← session.sizeBase.sub moved).round
  pure (max size minSize)

/-- Why a divider does not do what it is asked. -/
inductive DividerFault where
  | measure (fault : MeasureFault)
  /-- A stored value is nested too deeply to be read. -/
  | tooDeep (message : String)
deriving DecidableEq, Repr

/-- What is said of a fault. -/
def DividerFault.message : DividerFault → String
  | measure fault => fault.message
  | tooDeep message => message

/-- A measure's fault as a divider's. -/
def ofMeasure {α : Type} : Except MeasureFault α → Except DividerFault α
  | .ok value => .ok value
  | .error fault => .error (.measure fault)

/-- A divider: the key and axis of its pane, the least size, the size, the drag that goes on, and who
listens. -/
structure Divider where
  key : String
  axis : Axis
  minSize : Int
  size : Measure
  session : Option DragSession := none
  listeners : List String := []
deriving DecidableEq, Repr

namespace Divider

/-- The size that a stored value stands for: its integer part, at least `minSize`.  Values that are
no finite numbers leave the size as given. -/
def storedSize (given : Measure) (minSize : Int) (stored : Json) : Except MeasureFault Measure :=
  match Measure.ofJson? stored with
  | none => .ok given
  | some measure => do
    if ← measure.isFinite then pure (.whole (max (← measure.truncate) minSize)) else pure given

/-- A divider with the size that is stored, or with the given one. -/
def create (key : String) (axis : Axis) (given : Measure) (store : Option SettingsStore)
    (minSize : Int) : Except DividerFault Divider := do
  let least := max minSize 0
  match store with
  | none => pure ⟨key, axis, least, given, none, []⟩
  | some store =>
    match (store.get key given.toJson).1 with
    | .error message => .error (.tooDeep message)
    | .ok stored =>
      pure ⟨key, axis, least, ← ofMeasure (storedSize given least stored), none, []⟩

/-- Whether a drag goes on. -/
def isDragging (divider : Divider) : Bool := divider.session.isSome

/-- The coordinate at which the drag began, zero if there is none. -/
def mouseBase (divider : Divider) : Measure :=
  divider.session.elim (.whole 0) (·.mouseBase)

/-- The size at which the drag began, zero if there is none. -/
def sizeBase (divider : Divider) : Measure :=
  divider.session.elim (.whole 0) (·.sizeBase)

/-- The divider with one more listener. -/
def listen (divider : Divider) (id : String) : Divider :=
  { divider with listeners := divider.listeners ++ [id] }

/-- The pointer goes down. -/
def pointerDown (divider : Divider) (coordinate : Measure) : Divider :=
  { divider with session := some ⟨divider.axis, coordinate, divider.size, divider.key⟩ }

/-- The pointer goes up. -/
def pointerUp (divider : Divider) : Divider := { divider with session := none }

/-- What a move comes to: the divider and the store after it, and the new size, if a drag goes on. -/
structure Moved where
  divider : Divider
  store : Option SettingsStore
  size : Option Int

/-- The pointer moves. -/
def pointerMove (divider : Divider) (store : Option SettingsStore) (coordinate : Measure) :
    Except DividerFault Moved :=
  match divider.session with
  | none => .ok ⟨divider, store, none⟩
  | some session => do
    let size ← ofMeasure (session.sizeAt coordinate divider.minSize)
    pure
      ⟨{ divider with size := .whole size },
        store.map fun store => (store.set divider.key (.int size)).1, some size⟩

/-- What the listeners are told of a new size. -/
def announcements (divider : Divider) (size : Int) : List String :=
  divider.listeners.map fun id => s!"{id}={Number.integerText size}"

end Divider

end TemplateWorkbench
