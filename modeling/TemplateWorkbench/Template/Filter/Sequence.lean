import TemplateWorkbench.Template.Filter.Stream
import TemplateWorkbench.Template.Method
import TemplateWorkbench.Template.Value.Equality

/-!
# Filters of sequences

Picking, ordering, grouping and adding up the items of a value.
-/

namespace TemplateWorkbench.Template

namespace Sequence

variable (services : Services)

/-! ### Single items -/

/-- The first item. -/
def first (value : Value) : Run Value := do
  match ← services.pull (← value.source) with
  | some (item, _) => pure item
  | none => pure (services.missing (.hint "No first item, sequence was empty."))

/-- The items from the last to the first, of a value that can be walked over backwards, and the kind of
iterator that gives them. -/
def backwards? (value : Value) : Option (String × Source) :=
  match value with
  | .string text =>
    some ("reversed", .items (text.toList.reverse.map fun c => .string (.singleton c)))
  | .markup text =>
    some ("reversed", .items (text.toList.reverse.map fun c => .markup (.singleton c)))
  | .set _ _ => none
  | .range start stop step =>
    let length := Value.rangeLength start stop step
    let kind := if length < 0x4000000000000000 then "range_iterator" else "longrange_iterator"
    some (kind, .steps (start + step * ((length : Int) - 1)) (-step) length)
  | value =>
    let iterator :=
      match value with
      | .list _ => "list_reverseiterator"
      | .dict _ | .view .keys _ => "dict_reversekeyiterator"
      | .view .values _ => "dict_reversevalueiterator"
      | .view .items _ => "dict_reverseitemiterator"
      | _ => "reversed"
    value.itemsAtHand?.map fun items => (iterator, .items items.reverse)

/-- The last item. -/
def last (value : Value) : Run Value := do
  match value with
  | .undefined true absence => throw absence.fault
  | value =>
    match backwards? value with
    | some (_, source) =>
      match ← services.pull source with
      | some (item, _) => pure item
      | none => pure (services.missing (.hint "No last item, sequence was empty."))
    | none => throw (typeFault s!"'{value.typeName}' object is not reversible")

/-- Some item; a sequence of one item leaves no choice. -/
def any (value : Value) : Run Value := do
  if (← services.lengthOf value) = 0 then
    pure (services.missing (.hint "No random item, sequence was empty."))
  else
    match ← Services.elementOf? value (.int 0) with
    | some item => pure item
    | none =>
      match value with
      | .dict _ => throw (faultOf .key "0")
      | value => throw (typeFault s!"'{value.typeName}' object is not subscriptable")

/-- The value backwards. -/
def reverse (escaping : Nat) (value : Value) : Run Value := do
  match value with
  | .string text => pure (.string (String.ofList text.toList.reverse))
  | .markup text => pure (.markup (String.ofList text.toList.reverse))
  | .undefined true absence => throw absence.fault
  | value =>
    match backwards? value with
    | some (iterator, source) => sourceStream iterator escaping source
    | none =>
      match value.source with
      | .ok source => do pure (.list (← services.drain source).reverse)
      | .error fault =>
        if fault.kind = .type then throw (argumentFault "argument must be iterable")
        else throw fault

/-! ### Order -/

/-- Whether items are to be sorted in reverse. -/
def direction (value : Value) : Except Fault Bool :=
  match value.integer? with
  | some n => .ok (n != 0)
  | none => .error (typeFault s!"'{value.typeName}' object cannot be interpreted as an integer")

/-- Items in the order of what is read from them. -/
def sortBy (read : Value → Run Value) (reversed : Value) (items : List Value) :
    Run (List Value) := do
  let reversed ← direction reversed
  let keyed ← items.mapM fun item => do pure (← read item, item)
  let sorted ← Sorting.sortDirected (fun a b => Value.ordered .lt a.1 b.1) reversed keyed
  pure (sorted.map (·.2))

/-- Items in the order of one or several parts of them. -/
def sort (value reversed caseSensitive path : Value) : Run Value := do
  let ignoresCase := !(← services.truth caseSensitive)
  let paths :=
    match path.text? with
    | some text => (Text.split [','] none text.toList).map fun p => pathOf (.string (String.ofList p))
    | none => [pathOf path]
  let items ← services.items value
  let read (item : Value) : Run Value := do
    pure (.list (← paths.mapM fun path => services.readKey { path, ignoresCase } item))
  pure (.list (← sortBy read reversed items))

/-- The entries of a dictionary in the order of their keys or values. -/
def sortEntries (value caseSensitive part reversed : Value) : Run Value := do
  let byKey ← Value.equal part (.string "key")
  let byValue ← if byKey then pure false else Value.equal part (.string "value")
  if !byKey && !byValue then
    throw (argumentFault "You can only sort by either \"key\" or \"value\"")
  else
    match value with
    | .dict entries => do
      let items := entries.map fun (key, value) => Value.tuple [key, value]
      let reversed ← direction reversed
      let keyed ← items.mapM fun item => do
        let part : Value := (item.tupleItems?.bind (·[if byKey then 0 else 1]?)).getD .none
        pure (if ← services.truth caseSensitive then part else part.foldCase, item)
      let sorted ← Sorting.sortDirected (fun a b => Value.ordered .lt a.1 b.1) reversed keyed
      pure (.list (sorted.map (·.2)))
    | .undefined _ absence => throw absence.fault
    | value => throw (attributeFault value "items")

/-- The item that stands in a relation to all others before it. -/
def extreme (op : Value.OrderOp) (value caseSensitive path : Value) : Run Value := do
  match ← services.pull (← value.source) with
  | none => pure (services.missing (.hint "No aggregated item, sequence was empty."))
  | some (item, source) => do
    let key ← ItemKey.of services path caseSensitive
    let rest ← services.drain source
    let start := (← services.readKey key item, item)
    let (_, found) ← rest.foldlM (fun best item => do
      let own ← services.readKey key item
      if ← Value.ordered op own best.1 then pure (own, item) else pure best) start
    pure found

/-! ### Groups and sums -/

/-- Keyed items in runs of equal keys. -/
def runs : List (Value × Value) → Except Fault (List (Value × List Value))
  | [] => .ok []
  | (key, item) :: rest => do
    match ← runs rest with
    | (next, items) :: others =>
      if ← Value.same key next then pure ((key, item :: items) :: others)
      else pure ((key, [item]) :: (next, items) :: others)
    | [] => pure [(key, [item])]

/-- Items grouped by a part of them; a group is headed by the part of its first item. -/
def group (value path default caseSensitive : Value) : Run Value := do
  let ignoresCase := !(← services.truth caseSensitive)
  let key : ItemKey := { path := pathOf path, default, ignoresCase }
  let items ← sortBy (services.readKey key) (.bool false) (← services.items value)
  let keyed ← items.mapM fun item => do pure (← services.readKey key item, item)
  let groups : List (Value × List Value) ← runs keyed
  let groups ← groups.mapM fun (own, members) => do
    let heading ←
      match ignoresCase, members with
      | true, member :: _ => services.readKey { key with ignoresCase := false } member
      | _, _ => pure own
    pure (Value.group heading members)
  pure (.list groups)

/-- The sum of items, or of a part of them, and a start. -/
def sum (value path start : Value) : Run Value := do
  let source ← value.source
  match start with
  | .string _ | .markup _ =>
    throw (typeFault "sum() can't sum strings [use ''.join(seq) instead]")
  | .bytes _ => throw (typeFault "sum() can't sum bytes [use b''.join(seq) instead]")
  | _ => do
    let key : ItemKey := { path := pathOf path }
    let items ← services.drain source
    items.foldlM (fun sum item => do
      Value.arithmetic .add sum (← services.readKey key item)) start

/-- Items, or a part of them, joined with a text between them.  Where text is escaped, one item of
markup is enough to make markup of it all. -/
def join (escaping : Nat) (value separator path : Value) : Run Value := do
  let escapes ← services.escapes escaping
  let key : ItemKey := { path := pathOf path }
  let parts : Run (List Value) := do
    (← services.items value).mapM (services.readKey key)
  if !escapes then
    let separator ← services.printed separator
    pure (.string (separator.intercalate (← (← parts).mapM services.printed)))
  else
    match ← Services.ownMarkup? separator with
    | some _ => do
      let separator ← services.asText separator
      let parts ← (← parts).mapM services.asText
      Method.call services separator "join" { positional := [.list parts] }
    | none => do
      let parts ← (← parts).mapM fun part => do
        match ← Services.ownMarkup? part with
        | some _ => pure part
        | none => do pure (.string (← services.printed part))
      let isMarkup := parts.any fun part => !(part matches .string _)
      if isMarkup then
        let separator ← services.escape separator
        pure (.markup (separator.intercalate (← parts.mapM services.escape)))
      else
        let separator ← services.printed separator
        pure (.string (separator.intercalate (parts.filterMap Value.text?)))

end Sequence

namespace Filter

/-- The filters of sequences. -/
def sequenceFilters : List (String × Filter) :=
  let length := counted "len" fun services value => do pure (.int (← services.lengthOf value))
  let extreme (id : String) (op : Value.OrderOp) : Filter :=
    named
      { id, hidden := surroundings, required := ["value"]
        optional := [("case_sensitive", .bool false), ("attribute", .none)] }
      fun services _ bound =>
        Sequence.extreme services op (bound.value 0) (bound.value 1) (bound.value 2)
  [("first", named { id := "sync_do_first", hidden := surroundings, required := ["seq"] }
      fun services _ bound => Sequence.first services (bound.value 0)),
    ("last", named { id := "do_last", hidden := surroundings, required := ["seq"] }
      fun services _ bound => Sequence.last services (bound.value 0)),
    ("random", contextual { id := "do_random", hidden := ["context"], required := ["seq"] }
      fun services _ bound => Sequence.any services (bound.value 0)),
    ("length", length),
    ("count", length),
    ("list", single "sync_do_list" fun services value => do
      pure (.list (← services.items value))),
    ("reverse", named { id := "do_reverse", required := ["value"] }
      fun services escaping bound => Sequence.reverse services escaping (bound.value 0)),
    ("sort", named
      { id := "do_sort", hidden := surroundings, required := ["value"]
        optional := [("reverse", .bool false), ("case_sensitive", .bool false), ("attribute", .none)] }
      fun services _ bound =>
        Sequence.sort services (bound.value 0) (bound.value 1) (bound.value 2) (bound.value 3)),
    ("dictsort", named
      { id := "do_dictsort", required := ["value"]
        optional :=
          [("case_sensitive", .bool false), ("by", .string "key"), ("reverse", .bool false)] }
      fun services _ bound =>
        Sequence.sortEntries services (bound.value 0) (bound.value 1) (bound.value 2)
          (bound.value 3)),
    ("min", extreme "do_min" .lt),
    ("max", extreme "do_max" .gt),
    ("groupby", named
      { id := "sync_do_groupby", hidden := surroundings, required := ["value", "attribute"]
        optional := [("default", .none), ("case_sensitive", .bool false)] }
      fun services _ bound =>
        Sequence.group services (bound.value 0) (bound.value 1) (bound.value 2) (bound.value 3)),
    ("sum", named
      { id := "sync_do_sum", hidden := surroundings, required := ["iterable"]
        optional := [("attribute", .none), ("start", .int 0)] }
      fun services _ bound =>
        Sequence.sum services (bound.value 0) (bound.value 1) (bound.value 2)),
    ("join", named
      { id := "sync_do_join", hidden := ["eval_ctx"], required := ["value"]
        optional := [("d", .string ""), ("attribute", .none)] }
      fun services escaping bound =>
        Sequence.join services escaping (bound.value 0) (bound.value 1) (bound.value 2)),
    ("attr", named { id := "do_attr", hidden := surroundings, required := ["obj", "name"] }
      fun services _ bound => do
        match (bound.value 1).text? with
        | some id =>
          match ← services.attribute? (bound.value 0) id with
          | some found => pure found
          | none => services.missingPart (bound.value 0) (bound.value 1)
        | none => do
          Value.asKey (bound.value 1)
          throw (typeFault
            s!"attribute name must be string, not '{(bound.value 1).typeName}'")),
    ("default", defaultFilter),
    ("d", defaultFilter)]
where
  /-- A value that stands in for a missing one, or for one that does not count as true. -/
  defaultFilter : Filter :=
    named
      { id := "do_default", required := ["value"]
        optional := [("default_value", .string ""), ("boolean", .bool false)] }
      fun services _ bound => do
        let value := bound.value 0
        if value.isUndefined then pure (bound.value 1)
        else if ← services.truth (bound.value 2) then
          if ← services.truth value then pure value else pure (bound.value 1)
        else pure value

end Filter

end TemplateWorkbench.Template
