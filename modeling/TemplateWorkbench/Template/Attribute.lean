import TemplateWorkbench.Template.Iteration
import TemplateWorkbench.Template.Value.Subscript

/-!
# Attributes and elements

`value.name` first looks for an attribute and then for an element, `value[key]` the other way round;
what is not there is missing, and asking a missing value for anything is a fault.  Texts, lists and
dictionaries have their methods as attributes, which go before elements of the same name.
-/

namespace TemplateWorkbench.Template

/-- The methods of texts. -/
def textMethods : List String :=
  ["capitalize", "casefold", "center", "count", "encode", "endswith", "expandtabs", "find", "format",
    "format_map", "index", "isalnum", "isalpha", "isascii", "isdecimal", "isdigit", "isidentifier",
    "islower", "isnumeric", "isprintable", "isspace", "istitle", "isupper", "join", "ljust", "lower",
    "lstrip", "maketrans", "partition", "removeprefix", "removesuffix", "replace", "rfind", "rindex",
    "rjust", "rpartition", "rsplit", "rstrip", "split", "splitlines", "startswith", "strip",
    "swapcase", "title", "translate", "upper", "zfill"]

/-- The methods of markup beside those of texts. -/
def markupMethods : List String := ["escape", "striptags", "unescape"]

/-- The methods of octets. -/
def octetMethods : List String :=
  ["capitalize", "center", "count", "decode", "endswith", "expandtabs", "find", "fromhex", "hex",
    "index", "isalnum", "isalpha", "isascii", "isdigit", "islower", "isspace", "istitle", "isupper",
    "join", "ljust", "lower", "lstrip", "maketrans", "partition", "removeprefix", "removesuffix",
    "replace", "rfind", "rindex", "rjust", "rpartition", "rsplit", "rstrip", "split", "splitlines",
    "startswith", "strip", "swapcase", "title", "translate", "upper", "zfill"]

/-- The methods of integers. -/
def integerMethods : List String :=
  ["as_integer_ratio", "bit_count", "bit_length", "conjugate", "from_bytes", "to_bytes"]

/-- The methods of doubles. -/
def doubleMethods : List String :=
  ["as_integer_ratio", "conjugate", "fromhex", "hex", "is_integer"]

/-- The methods of complex numbers. -/
def complexMethods : List String := ["conjugate"]

/-- The methods of lists. -/
def listMethods : List String :=
  ["append", "clear", "copy", "count", "extend", "index", "insert", "pop", "remove", "reverse",
    "sort"]

/-- The methods of tuples and ranges. -/
def tupleMethods : List String := ["count", "index"]

/-- The methods of dictionaries. -/
def dictMethods : List String :=
  ["clear", "copy", "fromkeys", "get", "items", "keys", "pop", "popitem", "setdefault", "update",
    "values"]

/-- The methods of sets that do not change them. -/
def frozenSetMethods : List String :=
  ["copy", "difference", "intersection", "isdisjoint", "issubset", "issuperset",
    "symmetric_difference", "union"]

/-- The methods of sets that change them. -/
def changingSetMethods : List String :=
  ["add", "clear", "difference_update", "discard", "intersection_update", "pop", "remove",
    "symmetric_difference_update", "update"]

/-- The methods of the objects that templates make. -/
def objectMethods : ObjectKind → List String
  | .cycler => ["next", "reset"]
  | .loop => ["cycle", "changed"]
  | _ => []

namespace Value

/-- The names of the methods of a value. -/
def methods : Value → List String
  | string _ => textMethods
  | markup _ => textMethods ++ markupMethods
  | bytes _ => octetMethods
  | bool _ | int _ => integerMethods
  | double _ | nan _ => doubleMethods
  | complex _ => complexMethods
  | list _ => listMethods
  | tuple _ | group _ _ | range _ _ _ => tupleMethods
  | dict _ => dictMethods
  | set true _ => frozenSetMethods
  | set false _ => frozenSetMethods ++ changingSetMethods
  | view .values _ => []
  | view _ _ => ["isdisjoint"]
  | object kind _ => objectMethods kind
  | _ => []

/-- The plain attributes of a value. -/
def plainAttribute? (value : Value) (id : String) : Option Value :=
  match value, id with
  | bool b, "real" | bool b, "numerator" => some (int (if b then 1 else 0))
  | int n, "real" | int n, "numerator" => some (int n)
  | bool _, "imag" | int _, "imag" => some (int 0)
  | bool _, "denominator" | int _, "denominator" => some (int 1)
  | double d, "real" => some (double d)
  | nan name, "real" => some (nan name)
  | double _, "imag" | nan _, "imag" => some (double .zero)
  | complex z, "real" => some (double z.re)
  | complex z, "imag" => some (double z.im)
  | range start _ _, "start" => some (int start)
  | range _ stop _, "stop" => some (int stop)
  | range _ _ step, "step" => some (int step)
  | group key _, "grouper" => some key
  | group _ members, "list" => some (list members)
  | value, id =>
    if value.methods.contains id then some (method value id) else Option.none

/-- The item at an index, counted from the end if it is negative. -/
def itemAt? {α : Type} (items : List α) (index : Int) : Option α :=
  if 0 ≤ index then items[index.toNat]?
  else if index.natAbs ≤ items.length then items[items.length - index.natAbs]?
  else Option.none

/-- The element of a value under a key, if the value has elements and one under the key. -/
def element? (value key : Value) : Except Fault (Option Value) :=
  match value with
  | undefined _ absence => .error absence.fault
  | dict entries =>
    match key.keyFault? with
    | some fault => if fault.kind = .undefined then .error fault else .ok Option.none
    | Option.none => entry? key entries
  | string text => .ok (indexed text.toList fun c => string (String.singleton c))
  | markup text => .ok (indexed text.toList fun c => markup (String.singleton c))
  | bytes octets => .ok (indexed octets fun octet => int octet.toNat)
  | list items => .ok (indexed items id)
  | tuple items => .ok (indexed items id)
  | group first members => .ok (indexed [first, list members] id)
  | range start stop step => .ok <| key.integer?.bind fun index =>
    let length := rangeLength start stop step
    let place := if index < 0 then index + length else index
    if 0 ≤ place && place < length then some (int (start + step * place)) else Option.none
  | _ => .ok Option.none
where
  /-- The item that the key is an index of. -/
  indexed {α : Type} (items : List α) (f : α → Value) : Option Value :=
    (key.integer?.bind (itemAt? items)).map f

end Value

namespace Services

variable (services : Services)

/-- A missing value. -/
def missing (absence : Absence) : Value := .undefined services.strict absence

/-- The missing attribute or element of a value. -/
def missingPart (value key : Value) : Run Value := do
  match key.text? with
  | some id => pure (services.missing (.attribute value.owner id))
  | none => pure (services.missing (.element value.owner (← services.written key)))

/-- What a loop knows of itself. -/
def loopAttribute? (address : Nat) (id : String) : Run (Option Value) := do
  let state ← loopAt address
  let number (n : Int) : Run (Option Value) := pure (some (.int n))
  match id with
  | "index0" => number state.index
  | "index" => number (state.index + 1)
  | "depth0" => number state.depth
  | "depth" => number (state.depth + 1)
  | "first" => pure (some (.bool (state.index == 0)))
  | "length" => do number (← services.lengthOfLoop address)
  | "revindex0" => do number ((← services.lengthOfLoop address) - (state.index + 1))
  | "revindex" => do number ((← services.lengthOfLoop address) - state.index)
  | "last" => do pure (some (.bool (← services.peek address).isNone))
  | "previtem" =>
    if state.index == 0 then pure (some (services.missing (.hint "there is no previous item")))
    else pure (some (state.before.getD .none))
  | "nextitem" => do
    match ← services.peek address with
    | some item => pure (some item)
    | none => pure (some (services.missing (.hint "there is no next item")))
  | _ => pure none

/-- What a macro knows of itself. -/
def macroAttribute? (plan : MacroPlan) (id : String) : Option Value :=
  match plan with
  | .mk _ _ name parameters usesCaller _ moreKeywords more _ _ =>
    let ids := parameters.map fun p => Value.string p.slot.name
    match id with
    | "name" => some ((name.map Value.string).getD .none)
    | "arguments" => some (.tuple ids)
    | "catch_kwargs" => some (.bool moreKeywords.isSome)
    | "catch_varargs" => some (.bool more.isSome)
    | "caller" => some (.bool usesCaller)
    | "explicit_caller" => some (.bool (parameters.any fun p => p.slot.name == "caller"))
    | _ => none

/-- The block above the one that an object stands for. -/
def superBlock (reference : BlockReference) : Run Value := do
  let blocks := (← contextAt reference.context).blocksOf reference.name
  if reference.depth + 1 < blocks.length then
    newBlockReference { reference with depth := reference.depth + 1 }
  else
    pure (services.missing
      (.hint s!"there is no parent block called {Text.quote reference.name}."))

/-- The attribute of a name, if there is one. -/
def attribute? (value : Value) (id : String) : Run (Option Value) := do
  match value with
  | .undefined _ absence =>
    if id.startsWith "__" && id.endsWith "__" then pure none else throw absence.fault
  | .object .namespace address =>
    Value.entry? (.string id) (← fetch (·.namespaces) address)
  | .object .cycler address =>
    let cycler ← fetch (·.cyclers) address
    match id with
    | "items" => pure (some (.tuple cycler.items))
    | "pos" => pure (some (.int cycler.position))
    | "current" => pure (some (cycler.items[cycler.position]?.getD .none))
    | _ => pure (value.plainAttribute? id)
  | .object .joiner address =>
    let joiner ← fetch (·.joiners) address
    match id with
    | "sep" => pure (some joiner.separator)
    | "used" => pure (some (.bool joiner.used))
    | _ => pure none
  | .object .loop address => do
    match ← services.loopAttribute? address id with
    | some found => pure (some found)
    | none => pure (value.plainAttribute? id)
  | .object .macroDef address => do
    pure (macroAttribute? (← fetch (·.macros) address).plan id)
  | .object .module address => do
    pure ((← fetch (·.modules) address).exports.lookup id)
  | .object .block address => do
    let reference ← fetch (·.blocks) address
    match id with
    | "name" => pure (some (.string reference.name))
    | "super" => do pure (some (← services.superBlock reference))
    | _ => pure none
  | value =>
    if id == "__class__" then
      pure (some (.foreign "type" (typeText value.typeHome value.typeName)))
    else pure (value.plainAttribute? id)

/-- The element under a key, if there is one. -/
def elementOf? (value key : Value) : Run (Option Value) := do
  match value with
  | .object .templateSelf address =>
    let context ← fetch (·.selves) address
    match key.text? with
    | some name =>
      if ((← contextAt context).blocksOf name).isEmpty then pure none
      else do pure (some (← newBlockReference ⟨name, context, 0⟩))
    | none => pure none
  | value => Value.element? value key

/-- `value.id`: the attribute, else the element, else a missing value. -/
def getAttribute (value : Value) (id : String) : Run Value := do
  match ← services.attribute? value id with
  | some found => pure found
  | none =>
    match ← elementOf? value (.string id) with
    | some found => pure found
    | none => services.missingPart value (.string id)

/-- `value[key]`: the element, else the attribute, else a missing value. -/
def getElement (value key : Value) : Run Value := do
  match ← elementOf? value key with
  | some found => pure found
  | none =>
    match key.text? with
    | none => services.missingPart value key
    | some id =>
      match ← services.attribute? value id with
      | some found => pure found
      | none => services.missingPart value key

/-! ### Slices -/

/-- The fault of a bound of a slice that is no integer. -/
def badBound : Fault :=
  typeFault "slice indices must be integers or None or have an __index__ method"

/-- A bound of a slice. -/
def sliceBound : Option Value → Run (Option Int)
  | none | some .none => pure none
  | some value =>
    match value.integer? with
    | some n => pure (some n)
    | none => throw badBound

/-- An index counted from the start, brought between two bounds. -/
def clampIndex (length : Nat) (least most index : Int) : Int :=
  max least (min most (if index < 0 then index + length else index))

/-- Where a slice of a sequence starts and stops. -/
def sliceBounds (length : Nat) (start stop : Option Int) (step : Int) : Int × Int :=
  if step > 0 then
    (clampIndex length 0 length (start.getD 0), clampIndex length 0 length (stop.getD length))
  else
    let last : Int := (length : Int) - 1
    ((start.map (clampIndex length (-1) last)).getD last,
      (stop.map (clampIndex length (-1) last)).getD (-1))

/-- The indices of a slice of a sequence. -/
def sliceIndices (length : Nat) (start stop : Option Int) (step : Int) : List Nat :=
  let (first, stop) := sliceBounds length start stop step
  (List.range (Value.rangeLength first stop step)).map fun (i : Nat) => (first + step * i).toNat

/-- The bounds of a slice: where it starts and stops, and its steps. -/
structure SliceRange where
  start : Option Int
  stop : Option Int
  step : Int

/-- The bounds of a slice as integers. -/
def SliceRange.of (start stop step : Option Value) : Run SliceRange := do
  let step ← sliceBound step
  if step = some 0 then throw (valueFault "slice step cannot be zero")
  else
    let start ← sliceBound start
    pure { start, stop := ← sliceBound stop, step := step.getD 1 }

/-- The items of a list within a slice. -/
def SliceRange.pick {α : Type} (slice : SliceRange) (items : List α) : List α :=
  let array := items.toArray
  (sliceIndices array.size slice.start slice.stop slice.step).filterMap (array[·]?)

/-- A slice of a value. -/
def slice (value : Value) (start stop step : Option Value) : Run Value := do
  match value with
  | .undefined _ absence => throw absence.fault
  | .dict _ => throw (typeFault "unhashable type: 'slice'")
  | .string text => do
    pure (.string (String.ofList ((← SliceRange.of start stop step).pick text.toList)))
  | .markup text => do
    pure (.markup (String.ofList ((← SliceRange.of start stop step).pick text.toList)))
  | .bytes octets => do pure (.bytes ((← SliceRange.of start stop step).pick octets))
  | .list items => do pure (.list ((← SliceRange.of start stop step).pick items))
  | .range first last by_ => do
    let slice ← SliceRange.of start stop step
    let length := Value.rangeLength first last by_
    let (low, high) := sliceBounds length slice.start slice.stop slice.step
    pure (.range (first + by_ * low) (first + by_ * high) (by_ * slice.step))
  | value =>
    match value.tupleItems? with
    | some items => do pure (.tuple ((← SliceRange.of start stop step).pick items))
    | none => throw value.notSubscriptable

end Services

end TemplateWorkbench.Template
