import TemplateWorkbench.Template.Memory
import TemplateWorkbench.Template.Value.Equality

/-!
# Iteration

Everything that can be walked over gives its items one by one.  Items that are at hand come from a
list; streams and loops compute theirs when they are asked, and for that they may need filters, tests
or the condition of a loop.  These are handed in as services, so that this layer does not depend on
what it is that filters do.

A stream never gives more items than its bound, and it is asked no more often than that.
-/

namespace TemplateWorkbench.Template

/-- What walking over values and applying filters may need from outside. -/
structure Services where
  /-- Whether a missing value may not even be printed. -/
  strict : Bool
  /-- The next item of a stream or a loop. -/
  next : ObjectKind → Nat → Run (Option Value)
  /-- Applies the filter of a name; the cell says whether text is escaped. -/
  filter : (escaping : Nat) → String → CallArguments → Run Value
  /-- Applies the test of a name. -/
  test : (escaping : Nat) → String → CallArguments → Run Value
  /-- Whether the condition of a loop holds for an item. -/
  passes : Target → LoopTest → Scene → Value → Run Bool

namespace Value

/-- Where the items of a value come from. -/
def source (value : Value) : Except Fault Source :=
  match value with
  | undefined true absence => .error absence.fault
  | object .loop address => .ok (.object .loop address)
  | object (.stream iterator) address => .ok (.object (.stream iterator) address)
  | object .templateSelf _ => .error (faultOf .key "0")
  | range start stop step => .ok (.steps start step (rangeLength start stop step))
  | other =>
    match other.itemsAtHand? with
    | some items => .ok (.items items)
    | Option.none => .error other.notIterable

end Value

/-- A bound on the number of items that a source gives. -/
def Source.bound : Source → Run Nat
  | .items rest => pure rest.length
  | .steps _ _ left => pure left
  | .object .loop address => do pure (← loopAt address).bound
  | .object _ address => do pure (← streamAt address).bound

namespace Services

variable (services : Services)

/-- The next item of a source, and the source after it. -/
def pull : Source → Run (Option (Value × Source))
  | .items [] => pure none
  | .items (item :: rest) => pure (some (item, .items rest))
  | .steps _ _ 0 => pure none
  | .steps next step (left + 1) => pure (some (.int next, .steps (next + step) step left))
  | .object kind address => do
    match ← services.next kind address with
    | some item => pure (some (item, .object kind address))
    | none => pure none

/-- At most `count` items of a source. -/
def take (source : Source) : (count : Nat) → Run (List Value)
  | 0 => pure []
  | count + 1 => do
    match ← services.pull source with
    | none => pure []
    | some (item, rest) => do pure (item :: (← take rest count))

/-- The greatest number of items that are put at hand. -/
def roomForItems : Nat := 0x200000000

/-- The fault of a length that no machine word holds. -/
def lengthFault : Fault := overflowFault "Python int too large to convert to C ssize_t"

/-- The integers that are left of equal steps, if there is room for them. -/
def stepItems (next step : Int) (left : Nat) : Except Fault (List Value) :=
  if Number.wordLimit ≤ left then .error lengthFault
  else if roomForItems < left then .error (faultOf .memory "")
  else .ok ((List.range left).map fun (i : Nat) => .int (next + step * i))

/-- All items of a source. -/
def drain (source : Source) : Run (List Value) := do
  match source with
  | .items rest => pure rest
  | .steps next step left => stepItems next step left
  | source => do services.take source ((← source.bound) + 1)

/-- All items of a value. -/
def items (value : Value) : Run (List Value) := do services.drain (← value.source)

/-! ### Loops -/

/-- The next item of a loop, as far as it has not been looked at already. -/
def nextOfLoop (address : Nat) : Run (Option Value) := do
  let state ← loopAt address
  let item ←
    match state.after with
    | some item => do
      changeLoop address fun s => { s with after := none }
      pure (some item)
    | none => do
      match ← services.pull state.source with
      | none => pure none
      | some (item, rest) => do
        changeLoop address fun s => { s with source := rest }
        pure (some item)
  match item with
  | none => pure none
  | some item => do
    changeLoop address fun s =>
      { s with index := s.index + 1, before := s.current, current := some item }
    pure (some item)

/-- Looks at the item after the one that a loop is at. -/
def peek (address : Nat) : Run (Option Value) := do
  let state ← loopAt address
  match state.after with
  | some item => pure (some item)
  | none => do
    match ← services.pull state.source with
    | none => pure none
    | some (item, rest) => do
      changeLoop address fun s => { s with source := rest, after := some item }
      pure (some item)

/-- The number of items of a loop; what has no length is walked over to the end. -/
def lengthOfLoop (address : Nat) : Run Nat := do
  let state ← loopAt address
  match state.knownLength? with
  | some length => if Number.wordLimit ≤ length then throw lengthFault else pure length
  | none => do
    let rest ← services.drain state.source
    let ahead := if state.after.isSome then 1 else 0
    let length := rest.length + (state.index + 1).toNat + ahead
    changeLoop address fun s => { s with source := .items rest, length := some length }
    pure length

/-! ### Values that may be loops -/

/-- Whether a value counts as true. -/
def truth (value : Value) : Run Bool :=
  match value with
  | .none => pure false
  | .bool b => pure b
  | .int n => pure (n != 0)
  | .double d => pure (!d.isZero)
  | .complex z => pure (!(z.re.isZero && z.im.isZero))
  | .undefined true absence => throw absence.fault
  | .undefined false _ => pure false
  | .object .loop address => do pure ((← services.lengthOfLoop address) != 0)
  | other =>
    match other.length? with
    | some length => pure (length != 0)
    | none => pure true

/-- The number of items of a value. -/
def lengthOf (value : Value) : Run Nat :=
  match value with
  | .undefined true absence => throw absence.fault
  | .object .loop address => services.lengthOfLoop address
  | other =>
    match other.length? with
    | some length => if Number.wordLimit ≤ length then throw lengthFault else pure length
    | none => throw (typeFault s!"object of type '{other.typeName}' has no len()")

/-- The addresses of the loops in a value. -/
def loopsIn : Value → List Nat
  | .object .loop address => [address]
  | .list items | .tuple items => inItems items
  | .dict entries => inEntries entries
  | _ => []
where
  /-- The loops in items. -/
  inItems : List Value → List Nat
    | [] => []
    | item :: rest => loopsIn item ++ inItems rest
  /-- The loops in entries. -/
  inEntries : List (Value × Value) → List Nat
    | [] => []
    | (_, value) :: rest => loopsIn value ++ inEntries rest

/-- How values look, after the loops in one of them have been counted. -/
def lookFor (value : Value) : Run Appearance := do
  (loopsIn value).forM fun address => do
    let _ ← services.lengthOfLoop address
  currentLook

/-- The text that a value is printed as. -/
def printed (value : Value) : Run String := do value.printed (← services.lookFor value)

/-- The written form of a value. -/
def written (value : Value) : Run String := do value.written (← services.lookFor value)

/-- Whether a value is among the items of a source; what comes after it is left. -/
def meets (value : Value) (source : Source) : (count : Nat) → Run Bool
  | 0 => pure false
  | count + 1 => do
    match ← services.pull source with
    | none => pure false
    | some (item, rest) =>
      if ← Value.same item value then pure true else meets value rest count

/-- Whether a value is in a container. -/
def isIn (value container : Value) : Run Bool :=
  match container with
  | .string text | .markup text =>
    match value.text? with
    | some part => pure (containsText part.toList text.toList)
    | none =>
      throw (typeFault
        s!"'in <string>' requires string as left operand, not {value.typeName}")
  | .dict entries | .view .keys entries => do
    Value.asKey value
    pure (← Value.entry? value entries).isSome
  | .set _ members => do
    Value.asKey value
    Value.isAmong value members
  | .undefined true absence => throw absence.fault
  | .range start stop step =>
    match value.integer? with
    | some n => pure (Value.rangeHolds start stop step n)
    | none => do
      let source : Source := .steps start step (Value.rangeLength start stop step)
      services.meets value source ((← source.bound) + 1)
  | other =>
    match other.source with
    | .ok source => do services.meets value source ((← source.bound) + 1)
    | .error _ => throw (typeFault s!"argument of type '{other.typeName}' is not iterable")
where
  /-- Whether a text has a part. -/
  containsText (part : List Char) : List Char → Bool
    | [] => part.isEmpty
    | c :: rest => part.isPrefixOf (c :: rest) || containsText part rest

end Services

end TemplateWorkbench.Template
