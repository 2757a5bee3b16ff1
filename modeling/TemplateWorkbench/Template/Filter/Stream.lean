import TemplateWorkbench.Template.Filter.Basic

/-!
# Streams

Filters that give their items one by one, when they are asked for them.  Nothing is looked at before
the first item is asked for: not even the arguments.
-/

namespace TemplateWorkbench.Template

/-! ### The first item -/

/-- What a mapping stream does with every item. -/
def mapStage (arguments : CallArguments) : Except Fault Stage :=
  match arguments.positional, arguments.keywords.lookup "attribute" with
  | [], some path =>
    let others := arguments.keywords.filter fun k => k.1 != "attribute" && k.1 != "default"
    match others with
    | (id, _) :: _ => .error (argumentFault s!"Unexpected keyword argument {Text.quote id}")
    | [] =>
      .ok (.read
        { path := pathOf path, default := (arguments.keywords.lookup "default").getD .none })
  | [], none => .error (argumentFault "map requires a filter argument")
  | id :: rest, _ => .ok (.filter id { arguments with positional := rest })

/-- Which items a selecting stream keeps. -/
def selectStage (keep byAttribute : Bool) (arguments : CallArguments) : Except Fault Stage := do
  let (key, rest) ←
    match byAttribute, arguments.positional with
    | false, given => pure (({} : ItemKey), given)
    | true, path :: rest => pure ({ path := pathOf path }, rest)
    | true, [] => .error (argumentFault "Missing parameter for attribute name")
  match rest with
  | [] => pure (.select keep key none)
  | id :: more => pure (.select keep key (some (id, { arguments with positional := more })))

/-- A batch that is the last one, filled up to its size. -/
def lastBatch (size fill : Value) (collected : List Value) : Run Value := do
  match fill with
  | .none => pure (.list collected)
  | fill =>
    let count : Value := .int collected.length
    if ← Value.ordered .lt count size then
      let missing ← Value.arithmetic .sub size count
      let padding ← Value.arithmetic .mul (.list [fill]) missing
      Value.arithmetic .add (.list collected) padding
    else pure (.list collected)

/-- Items dealt out to a number of columns, the first ones getting one more if needed. -/
def columns (count : Nat) (fill : Value) (items : List Value) : List Value :=
  let each := items.length / count
  let longer := items.length % count
  (List.range count).map fun column =>
    let start := column * each + min column longer
    let stop := (column + 1) * each + min (column + 1) longer
    let own := (items.take stop).drop start
    match fill with
    | .none => .list own
    | fill => .list (if column < longer then own else own ++ [fill])

/-- The items of a value dealt out to columns. -/
def dealOut (services : Services) (subject count fill : Value) : Run (List Value) := do
  let items ← services.items subject
  let length : Value := .int items.length
  let _ ← Value.arithmetic .floordiv length count
  let _ ← Value.arithmetic .mod length count
  match count.integer? with
  | some n => pure (columns n.toNat fill items)
  | none => throw (typeFault s!"'{count.typeName}' object cannot be interpreted as an integer")

/-- Where a stream's items come from and what is done with them. -/
def Recipe.start (services : Services) (subject : Value) : Recipe → Run (Source × Stage)
  | .map arguments => do
    if ← services.truth subject then
      let stage ← mapStage arguments
      pure (← subject.source, stage)
    else pure (.items [], .pass)
  | .select keep byAttribute arguments => do
    if ← services.truth subject then
      let stage ← selectStage keep byAttribute arguments
      pure (← subject.source, stage)
    else pure (.items [], .pass)
  | .unique caseSensitive key => do
    let key ← ItemKey.of services key caseSensitive
    pure (← subject.source, .unique key [])
  | .batch size fill => do pure (← subject.source, .batch size fill [])
  | .slice count fill => do
    pure (.items (← dealOut services subject count fill), .pass)
  | .entries =>
    match subject with
    | .undefined _ _ => pure (.items [], .pass)
    | .dict pairs => pure (.items (pairs.map fun (key, value) => .tuple [key, value]), .pass)
    | _ => throw (typeFault "Can only get item pairs from a mapping.")
  | .loopTest target test scene => do
    pure (← subject.source, .loopTest target test scene)

/-! ### Further items -/

/-- The next item that a running stream gives; `count` bounds how many are looked at. -/
def advance (services : Services) (address : Nat) : (count : Nat) → Run (Option Value)
  | 0 => pure none
  | count + 1 => do
    let stream ← streamAt address
    match stream.state with
    | .fresh _ _ => pure none
    | .running source stage => do
      match ← services.pull source with
      | none => do
        changeStream address (.running (.items []) .pass)
        match stage with
        | .batch size fill (item :: rest) => do
          pure (some (← lastBatch size fill (item :: rest)))
        | _ => pure none
      | some (item, rest) => do
        changeStream address (.running rest stage)
        match stage with
        | .pass => pure (some item)
        | .filter id arguments => do
          let given := { arguments with positional := item :: arguments.positional }
          pure (some (← services.filterBy stream.escaping id given))
        | .read key => do pure (some (← services.readKey key item))
        | .select keep key test => do
          let value ← services.readKey key item
          let holds ←
            match test with
            | none => services.truth value
            | some (id, arguments) => do
              let given := { arguments with positional := value :: arguments.positional }
              services.truth (← services.testBy stream.escaping id given)
          if holds == keep then pure (some item) else advance services address count
        | .unique key seen => do
          let value ← services.readKey key item
          Value.asKey value
          if ← Value.isAmong value seen then advance services address count
          else do
            changeStream address (.running rest (.unique key (seen ++ [value])))
            pure (some item)
        | .batch size fill collected => do
          if ← Value.equal (.int collected.length) size then
            changeStream address (.running rest (.batch size fill [item]))
            pure (some (.list collected))
          else do
            changeStream address (.running rest (.batch size fill (collected ++ [item])))
            advance services address count
        | .loopTest target test scene => do
          if ← services.passes target test scene item then pure (some item)
          else advance services address count

/-- The next item of a stream. -/
def Services.nextOfStream (services : Services) (address : Nat) : Run (Option Value) := do
  let stream ← streamAt address
  match stream.state with
  | .fresh subject recipe => do
    let (source, stage) ← recipe.start services subject
    changeStream address (.running source stage)
  | .running _ _ => pure ()
  advance services address (stream.bound + 1)

/-! ### The filters -/

/-- A bound on the number of items of a value. -/
def Value.bound (value : Value) : Run Nat :=
  match value.source with
  | .ok source => source.bound
  | .error _ => pure 0

/-- A stream that has not been asked yet. -/
def freshStream (escaping : Nat) (subject : Value) (recipe : Recipe) : Run Value := do
  let bound ←
    match recipe with
    | .slice count _ => pure ((count.integer?.getD 0).toNat)
    | _ => do pure ((← subject.bound) + 1)
  newStream "generator" { state := .fresh subject recipe, escaping, bound }

/-- A stream of the items of a source. -/
def sourceStream (iterator : String) (escaping : Nat) (source : Source) : Run Value := do
  newStream iterator { state := .running source .pass, escaping, bound := ← source.bound }

namespace Filter

/-- A stream with any further arguments. -/
def openStream (id : String) (recipe : CallArguments → Recipe) : Filter :=
  contextual
    { id, hidden := ["context"], required := ["value"], takesMore := true, takesKeywords := true }
    fun _ escaping bound =>
      freshStream escaping (bound.value 0) (recipe ⟨bound.more, bound.keywords⟩)

/-- The filters that give their items one by one. -/
def streamFilters : List (String × Filter) := [
  ("map", openStream "sync_do_map" .map),
  ("select", openStream "sync_do_select" (.select true false)),
  ("reject", openStream "sync_do_reject" (.select false false)),
  ("selectattr", openStream "sync_do_selectattr" (.select true true)),
  ("rejectattr", openStream "sync_do_rejectattr" (.select false true)),
  ("unique", named
    { id := "sync_do_unique", hidden := surroundings, required := ["value"]
      optional := [("case_sensitive", .bool false), ("attribute", .none)] }
    fun _ escaping bound =>
      freshStream escaping (bound.value 0) (.unique (bound.value 1) (bound.value 2))),
  ("batch", named
    { id := "do_batch", required := ["value", "linecount"], optional := [("fill_with", .none)] }
    fun _ escaping bound =>
      freshStream escaping (bound.value 0) (.batch (bound.value 1) (bound.value 2))),
  ("slice", named
    { id := "sync_do_slice", required := ["value", "slices"], optional := [("fill_with", .none)] }
    fun _ escaping bound =>
      freshStream escaping (bound.value 0) (.slice (bound.value 1) (bound.value 2))),
  ("items", named { id := "do_items", required := ["value"] }
    fun _ escaping bound => freshStream escaping (bound.value 0) .entries)]

end Filter

end TemplateWorkbench.Template
