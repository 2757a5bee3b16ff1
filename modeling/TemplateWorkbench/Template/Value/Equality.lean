import TemplateWorkbench.Template.Value.Missing

/-!
# Equality and order of values

Numbers of all kinds are compared by their value, texts by their characters, lists and tuples item by
item, dictionaries and sets without regard to order.  Inside a container a value that is not a number
still counts as itself.  Values of different kinds are different, and only numbers, texts and
sequences of one kind have an order.

What may be a key of a dictionary has to be hashable: lists, dictionaries and sets are not.
-/

namespace TemplateWorkbench.Template

/-- A number of any kind. -/
inductive Numeral where
  | whole (value : Int)
  | real (value : Double)

/-- The order of two numbers, none if one of them is not a number. -/
def Numeral.compare? : Numeral → Numeral → Option Ordering
  | .whole x, .whole y => some (compare x y)
  | .whole x, .real y => Double.compareInt? x y
  | .real x, .whole y => (Double.compareInt? y x).map Ordering.swap
  | .real x, .real y => Double.compare? x y

namespace Value

/-- The number that a value is. -/
def numeral? : Value → Option Numeral
  | double value => some (.real value)
  | nan _ => some (.real .nan)
  | value => value.integer?.map .whole

/-- The complex number that a value is, if it is a number of any kind. -/
def complex? : Value → Option Complex
  | complex value => some value
  | double value => some (.ofReal value)
  | nan _ => some (.ofReal .nan)
  | _ => Option.none

/-- Whether a complex number is equal to another number. -/
def complexEqual (z : Complex) : Value → Option Bool
  | complex w => some (z.re.numEq w.re && z.im.numEq w.im)
  | other =>
    other.numeral?.map fun number =>
      z.im.isZero && Numeral.compare? (.real z.re) number == some .eq

/-- The items of a tuple or a group. -/
def tupleItems? : Value → Option (List Value)
  | tuple items => some items
  | group key members => some [key, list members]
  | _ => Option.none

/-- The number of integers in a range. -/
def rangeLength (start stop step : Int) : Nat :=
  if step > 0 then (if start < stop then ((stop - start - 1) / step + 1).toNat else 0)
  else if step < 0 then (if stop < start then ((start - stop - 1) / (-step) + 1).toNat else 0)
  else 0

/-- The integers of a range. -/
def rangeItems (start stop step : Int) : List Value :=
  (List.range (rangeLength start stop step)).map fun (i : Nat) => int (start + step * i)

/-- Whether an integer is one of a range. -/
def rangeHolds (start stop step value : Int) : Bool :=
  let inside := if step > 0 then start ≤ value && value < stop else stop < value && value ≤ start
  inside && (value - start) % step == 0

/-- Equality of two ranges: they hold the same integers. -/
def rangesEqual (start stop step start' stop' step' : Int) : Bool :=
  let count := rangeLength start stop step
  count == rangeLength start' stop' step' &&
    (count == 0 || (start == start' && (count == 1 || step == step')))

/-- The items of a view of a dictionary. -/
def viewItems (part : DictPart) (entries : List (Value × Value)) : List Value :=
  match part with
  | .keys => entries.map (·.1)
  | .values => entries.map (·.2)
  | .items => entries.map fun (key, value) => tuple [key, value]

mutual

/-- Whether two values are equal; a strict missing value cannot be compared. -/
def equal (left right : Value) : Except Fault Bool :=
  match left with
  | undefined true absence => .error absence.fault
  | undefined false _ =>
    match right with
    | undefined true absence => .error absence.fault
    | undefined false _ => .ok true
    | _ => .ok false
  | list items =>
    match right with
    | list others => equalItems items others
    | _ => different right
  | tuple items =>
    match right.tupleItems? with
    | some others => equalItems items others
    | Option.none => different right
  | group key members =>
    match right.tupleItems? with
    | some [otherKey, list others] => do
      if ← same key otherKey then equalItems members others else pure false
    | _ => different right
  | dict entries =>
    match right with
    | dict others =>
      if entries.length == others.length then equalEntries entries others else .ok false
    | _ => different right
  | set _ members =>
    match right with
    | set _ others =>
      if members.length == others.length then allIn members others else .ok false
    | view part others =>
      if part == .values || members.length != others.length then .ok false
      else allIn members (viewItems part others)
    | _ => different right
  | range start stop step =>
    match right with
    | range start' stop' step' => .ok (rangesEqual start stop step start' stop' step')
    | _ => different right
  | view part entries =>
    match right with
    | view .values _ => .ok false
    | view other others =>
      if part == .values || entries.length != others.length then .ok false
      else if part == .keys then keysIn entries (viewItems other others)
      else pairsIn entries (viewItems other others)
    | set _ members =>
      if part == .values || entries.length != members.length then .ok false
      else if part == .keys then keysIn entries members
      else pairsIn entries members
    | _ => different right
  | bytes octets =>
    match right with
    | bytes others => .ok (octets == others)
    | _ => different right
  | none =>
    match right with
    | none => .ok true
    | _ => different right
  | builtin function =>
    match right with
    | builtin other => .ok (function == other)
    | _ => different right
  | method receiver id =>
    match right with
    | method other otherId => do if id == otherId then same receiver other else pure false
    | _ => different right
  | object kind address =>
    match right with
    | object otherKind other => .ok (kind == otherKind && address == other)
    | _ => different right
  | foreign _ _ => different right
  | complex z =>
    match complexEqual z right with
    | some answer => .ok answer
    | Option.none => different right
  | bool _ | int _ | double _ | nan _ =>
    match left.numeral?, right with
    | some _, complex z => .ok ((complexEqual z left).getD false)
    | some x, right =>
      match right.numeral? with
      | some y => .ok (Numeral.compare? x y == some .eq)
      | Option.none => different right
    | Option.none, _ => different right
  | string text | markup text =>
    match right.text? with
    | some other => .ok (text == other)
    | Option.none => different right
where
  /-- Values of different kinds differ, unless the other one cannot be compared. -/
  different (right : Value) : Except Fault Bool :=
    match right.strictFault? with
    | some fault => .error fault
    | Option.none => .ok false

/-- Equality inside containers: what is no number is equal to itself if it has a name. -/
def same (left right : Value) : Except Fault Bool :=
  match left, right with
  | nan name, nan other => .ok (name == other)
  | left, right => equal left right

/-- Equality of two lists of items. -/
def equalItems (items others : List Value) : Except Fault Bool :=
  match items, others with
  | [], [] => .ok true
  | item :: rest, other :: more => do
    if ← same item other then equalItems rest more else pure false
  | _, _ => .ok false

/-- Whether every entry has an equal one among the others. -/
def equalEntries (entries others : List (Value × Value)) : Except Fault Bool :=
  match entries with
  | [] => .ok true
  | (key, value) :: rest => do
    match ← others.findM? fun other => same key other.1 with
    | some (_, found) => if ← same value found then equalEntries rest others else pure false
    | Option.none => pure false

/-- Whether every key is among some values. -/
def keysIn (entries : List (Value × Value)) (others : List Value) : Except Fault Bool :=
  match entries with
  | [] => .ok true
  | (key, _) :: rest => do
    if ← others.anyM fun other => same key other then keysIn rest others else pure false

/-- Whether every entry, as a pair, is among some values. -/
def pairsIn (entries : List (Value × Value)) (others : List Value) : Except Fault Bool :=
  match entries with
  | [] => .ok true
  | (key, value) :: rest => do
    let found ← others.anyM fun other => do
      match other.tupleItems? with
      | some [otherKey, otherValue] =>
        if ← same key otherKey then same value otherValue else pure false
      | _ => pure false
    if found then pairsIn rest others else pure false

/-- Whether every member is among the others. -/
def allIn (members others : List Value) : Except Fault Bool :=
  match members with
  | [] => .ok true
  | member :: rest => do
    if ← others.anyM fun other => same member other then allIn rest others else pure false

end

/-- Whether a value is among the items of a list. -/
def isAmong (value : Value) (items : List Value) : Except Fault Bool :=
  items.anyM fun item => same item value

/-! ### Order -/

/-- The four relations of an order. -/
inductive OrderOp where
  | lt | le | gt | ge
deriving DecidableEq, Repr

/-- How a relation is written. -/
def OrderOp.text : OrderOp → String
  | lt => "<" | le => "<=" | gt => ">" | ge => ">="

/-- Whether a relation holds between things that compare in a given way. -/
def OrderOp.holds : OrderOp → Ordering → Bool
  | lt, .lt => true
  | le, .lt | le, .eq => true
  | gt, .gt => true
  | ge, .gt | ge, .eq => true
  | _, _ => false

/-- The order of two texts by their code points. -/
def compareTexts (left right : String) : Ordering :=
  if left == right then .eq else if left < right then .lt else .gt

/-- The order of two lists of octets. -/
def compareOctets : List UInt8 → List UInt8 → Ordering
  | [], [] => .eq
  | [], _ => .lt
  | _, [] => .gt
  | x :: xs, y :: ys => if x == y then compareOctets xs ys else if x < y then .lt else .gt

/-- The fault of asking for an order that there is not. -/
def orderFault (op : OrderOp) (left right : Value) : Fault :=
  typeFault
    (s!"'{op.text}' not supported between instances of '{left.typeName}' and " ++
      s!"'{right.typeName}'")

/-- The members of a set, or of a view that counts as one. -/
def memberList? : Value → Option (List Value)
  | set _ members => some members
  | view .values _ => Option.none
  | view part entries => some (viewItems part entries)
  | _ => Option.none

/-- Whether a relation holds between two sets: one is a part of the other. -/
def orderedSets (op : OrderOp) (members others : List Value) : Except Fault Bool :=
  let inside := members.allM (isAmong · others)
  let outside := others.allM (isAmong · members)
  match op with
  | .lt => if members.length < others.length then inside else .ok false
  | .le => if members.length ≤ others.length then inside else .ok false
  | .gt => if members.length > others.length then outside else .ok false
  | .ge => if members.length ≥ others.length then outside else .ok false

mutual

/-- Whether a relation holds between two values. -/
def ordered (op : OrderOp) (left right : Value) : Except Fault Bool :=
  match left with
  | list items =>
    match right with
    | list others => orderedItems op items others
    | _ => unordered right
  | tuple items =>
    match right.tupleItems? with
    | some others => orderedItems op items others
    | Option.none => unordered right
  | group key members =>
    match right.tupleItems? with
    | some (otherKey :: others) => do
      if ← same key otherKey then
        match others with
        | [list otherMembers] => orderedItems op members otherMembers
        | [] => pure (op.holds .gt)
        | other :: _ => .error (orderFault op (list members) other)
      else ordered op key otherKey
    | some [] => .ok (op.holds .gt)
    | Option.none => unordered right
  | set _ _ | view .keys _ | view .items _ =>
    match left.memberList?, right.memberList? with
    | some members, some others => orderedSets op members others
    | _, _ => unordered right
  | bytes octets =>
    match right with
    | bytes others => .ok (op.holds (compareOctets octets others))
    | _ => unordered right
  | string text | markup text =>
    match right.text? with
    | some other => .ok (op.holds (compareTexts text other))
    | Option.none => unordered right
  | value =>
    match value.numeral?, right.numeral? with
    | some x, some y => .ok ((Numeral.compare? x y).any op.holds)
    | _, _ => unordered right
where
  /-- Values without an order, of which one may be missing. -/
  unordered (right : Value) : Except Fault Bool := do
    present left right
    .error (orderFault op left right)

/-- The relation between two lists: that of the first items that differ, else that of the
lengths. -/
def orderedItems (op : OrderOp) (items others : List Value) : Except Fault Bool :=
  match items, others with
  | [], [] => .ok (op.holds .eq)
  | [], _ :: _ => .ok (op.holds .lt)
  | _ :: _, [] => .ok (op.holds .gt)
  | item :: rest, other :: more => do
    if ← same item other then orderedItems op rest more else ordered op item other

end

/-! ### Keys -/

mutual

/-- The fault of using the value as a key, if it cannot be one. -/
def keyFault? : Value → Option Fault
  | list _ => some (typeFault "unhashable type: 'list'")
  | dict _ => some (typeFault "unhashable type: 'dict'")
  | set false _ => some (typeFault "unhashable type: 'set'")
  | view .keys _ => some (typeFault "unhashable type: 'dict_keys'")
  | view .items _ => some (typeFault "unhashable type: 'dict_items'")
  | undefined true absence => some absence.fault
  | tuple items => keyFaultIn? items
  | group key _ =>
    match key.keyFault? with
    | some fault => some fault
    | Option.none => some (typeFault "unhashable type: 'list'")
  | _ => Option.none

/-- The first fault among items that are part of a key. -/
def keyFaultIn? : List Value → Option Fault
  | [] => Option.none
  | item :: rest =>
    match item.keyFault? with
    | some fault => some fault
    | Option.none => keyFaultIn? rest

end

/-- Stops if the value cannot be a key. -/
def asKey (value : Value) : Except Fault Unit :=
  match value.keyFault? with
  | some fault => .error fault
  | Option.none => .ok ()

/-- The value under a key that can be one. -/
def entry? (key : Value) (entries : List (Value × Value)) : Except Fault (Option Value) := do
  pure ((← entries.findM? fun entry => same entry.1 key).map (·.2))

/-- Puts a value under a key: the first key stays, the last value counts. -/
def putEntry (key value : Value) : List (Value × Value) → Except Fault (List (Value × Value))
  | [] => .ok [(key, value)]
  | (other, old) :: rest => do
    if ← same other key then pure ((other, value) :: rest)
    else pure ((other, old) :: (← putEntry key value rest))

/-- The dictionary of some entries. -/
def ofEntries (entries : List (Value × Value)) : Except Fault Value := do
  let kept ← entries.foldlM (fun kept (key, value) => do
    asKey key
    putEntry key value kept) []
  pure (dict kept)

/-- Adds a member to a set. -/
def putMember (value : Value) (members : List Value) : Except Fault (List Value) := do
  asKey value
  if ← isAmong value members then pure members else pure (members ++ [value])

/-- The set of some members. -/
def ofMembers (frozen : Bool) (values : List Value) : Except Fault Value := do
  pure (set frozen (← values.foldlM (fun members value => putMember value members) []))

end Value

end TemplateWorkbench.Template

/-!
## Items of values

What a walk over a value gives: characters, items, the keys of a dictionary, nothing for a missing
value.
-/

namespace TemplateWorkbench.Template.Value

/-- The items of a value that has them at hand. -/
def itemsAtHand? : Value → Option (List Value)
  | string text | markup text => some (text.toList.map fun c => string (String.singleton c))
  | bytes octets => some (octets.map fun octet => int octet.toNat)
  | list items => some items
  | tuple items => some items
  | group key members => some [key, list members]
  | dict entries => some (entries.map (·.1))
  | set _ members => some members
  | range start stop step => some (rangeItems start stop step)
  | view part entries => some (viewItems part entries)
  | undefined false _ => some []
  | _ => Option.none

/-- The fault of walking over a value that has no items. -/
def notIterable (value : Value) : Fault := typeFault s!"'{value.typeName}' object is not iterable"

end TemplateWorkbench.Template.Value

/-!
## Sorting

Values are sorted by a relation that can fail, so the way in which they are compared shows: the
longest run at the front that is already in order, or strictly in reverse order, is taken first, and
every other item is then put in place by halving.  Items that are equal stay in the order in which
they came.
-/

namespace TemplateWorkbench.Template

/-- A relation that says whether one thing has to come before another. -/
abbrev Precedes (α : Type) := α → α → Except Fault Bool

namespace Sorting

variable {α : Type}

/-- The number of items after `previous` that go on with a run: each precedes the one before it, or
none does. -/
def runLength (less : Precedes α) (descending : Bool) (previous : α) :
    List α → Except Fault Nat
  | [] => .ok 0
  | item :: rest => do
    if (← less item previous) == descending then
      pure ((← runLength less descending item rest) + 1)
    else pure 0

/-- The run at the front in order, and the rest. -/
def splitRun (less : Precedes α) : List α → Except Fault (List α × List α)
  | [] => .ok ([], [])
  | [only] => .ok ([only], [])
  | first :: second :: rest => do
    let descending ← less second first
    let length := (← runLength less descending second rest) + 2
    let all := first :: second :: rest
    let run := all.take length
    pure (if descending then run.reverse else run, all.drop length)

/-- The place of an item among sorted ones, after those that it does not precede; it lies between
`low` and `high`. -/
def place (less : Precedes α) (item : α) (sorted : Array α) (low high : Nat) :
    Except Fault Nat :=
  if _ : low < high then
    let middle := low + (high - low) / 2
    match sorted[middle]? with
    | none => .ok low
    | some other => do
      if ← less item other then place less item sorted low middle
      else place less item sorted (middle + 1) high
  else .ok low
termination_by high - low

/-- Sorted items with the items of a list put in their places one after another. -/
def insertAll (less : Precedes α) (sorted : Array α) : List α → Except Fault (Array α)
  | [] => .ok sorted
  | item :: rest => do
    let index ← place less item sorted 0 sorted.size
    insertAll less (sorted.extract 0 index ++ #[item] ++ sorted.extract index sorted.size) rest

/-- The items in order. -/
def sort (less : Precedes α) (items : List α) : Except Fault (List α) := do
  let (run, rest) ← splitRun less items
  pure (← insertAll less run.toArray rest).toList

/-- The items in order, or in reverse order; items that are equal keep their order. -/
def sortDirected (less : Precedes α) (reversed : Bool) (items : List α) :
    Except Fault (List α) :=
  if reversed then (sort less items.reverse).map List.reverse else sort less items

end Sorting

end TemplateWorkbench.Template
