import TemplateWorkbench.Template.Filter
import TemplateWorkbench.Template.Test

/-!
# Evaluating terms

The value of a term in a scene.  Evaluating follows the term; only calls leave it, and what is called is
run by a host, which is handed in.

The arguments of a call are evaluated in this order: positional ones, a sequence of more, keywords,
and a mapping of more.
-/

namespace TemplateWorkbench.Template

/-- A part of what a routine prints, and whether it passes by the blocks that capture text. -/
structure Chunk where
  value : Value
  passesBy : Bool := false
deriving Inhabited

/-- What a routine prints, part by part. -/
abbrev Output := List Chunk

/-- What runs routines: the values that can be called, blocks, and whole templates. -/
structure Host where
  services : Services
  call : Scene → Value → CallArguments → Run Value
  block : (context : Nat) → BlockId → Run Output
  root : (template : String) → (context : Nat) → Run Output

/-- The missing value of a condition that does not hold and has no other case. -/
def missingCase (hint : String) : Value := .undefined false (.hint hint)

/-- The fault of a name that nothing binds. -/
def unboundFault (id : String) : Fault :=
  { kind := .unboundName, message := s!"name '{id}' is not defined", subject := some id }

/-- The cell that says whether text is escaped in a scene. -/
def Scene.cell (scene : Scene) : Run Nat := do pure (← contextAt scene.context).escaping

/-- Whether text is escaped in a scene. -/
def Scene.escapes (services : Services) (scene : Scene) : Run Bool := do
  services.escapes (← scene.cell)

/-- Whether text is escaped, by what is known at compile time or else by the scene. -/
def Escaping.holds (services : Services) (scene : Scene) : Escaping → Run Bool
  | .never => pure false
  | .always => pure true
  | .asContext => scene.escapes services

/-- A text that may be markup. -/
def markupIf (isMarkup : Bool) (text : String) : Value :=
  if isMarkup then .markup text else .string text

/-- Values joined into one text; where text is escaped, markup among them makes markup of it all. -/
def joinValues (services : Services) (escapes : Bool) (values : List Value) : Run Value := do
  if escapes then
    let texts ← values.mapM services.asText
    if texts.any (· matches .markup _) then
      pure (.markup (String.join (← texts.mapM services.escape)))
    else pure (.string (String.join (texts.filterMap Value.text?)))
  else pure (.string (String.join (← values.mapM services.printed)))

/-- The items of a sequence of more arguments. -/
def moreItems (services : Services) (callee : String) (value : Value) : Run (List Value) := do
  match value.source with
  | .ok source => services.drain source
  | .error fault =>
    if fault.kind = .type then
      throw (typeFault s!"{callee} argument after * must be an iterable, not {value.typeName}")
    else throw fault

/-- Keywords together with a mapping of more. -/
def addKeywords (callee : String) (keywords : List (String × Value)) (value : Value) :
    Except Fault (List (String × Value)) :=
  match value with
  | .dict entries =>
    entries.foldlM (fun all (key, value) =>
      match key.text? with
      | none => .error (typeFault "keywords must be strings")
      | some id =>
        if (all.lookup id).isSome then
          .error (typeFault s!"{callee} got multiple values for keyword argument '{id}'")
        else .ok (all ++ [(id, value)])) keywords
  | .undefined _ absence => .error absence.fault
  | value =>
    .error (typeFault s!"{callee} argument after ** must be a mapping, not {value.typeName}")

/-- How a message names what calls values, filters and tests. -/
def callerName (kind : String) (id : String) : String :=
  match kind with
  | "filter" => s!"jinja2.filters.do_{id}()"
  | "test" => s!"jinja2.tests.test_{id}()"
  | _ => "jinja2.runtime.Context.call()"

/-- The fault of a filter or a test that is not known when it is reached. -/
def unknownWhenReached (kind id : String) : Fault :=
  faultOf .templateRuntime s!"No {kind} named {Text.quote id} found."

/-- Whether a term gives a value that nothing else gives, unless there is only one like it. -/
def Term.makesNew : Term → Bool
  | .const _ | .data _ | .tuple _ | .list _ | .dict _ | .unary _ _ | .concat _ _ => true
  | .binary op _ _ => op != .and && op != .or
  | _ => false

/-- Whether one of some arguments is new. -/
def TermArguments.makesNew : TermArguments → Bool
  | .mk positional keywords _ _ =>
    positional.any Term.makesNew || keywords.any fun keyword => keyword.2.makesNew

section Evaluate

variable (host : Host) (scene : Scene)

mutual

/-- The value of a term. -/
def eval : Term → Run Value
  | .const value => pure value
  | .unbound id => throw (unboundFault id)
  | .data text => do pure (markupIf (← scene.escapes host.services) text)
  | .slot slot id => do
    match ← readSlot scene slot with
    | some value => pure value
    | none => pure (host.services.missing (.variable id))
  | .tuple items => do pure (.tuple (← evalAll items))
  | .list items => do pure (.list (← evalAll items))
  | .dict entries => do Value.ofEntries (← evalEntries entries)
  | .conditional test whenTrue whenFalse hint => do
    if ← host.services.truth (← eval test) then eval whenTrue else evalCase hint whenFalse
  | .binary .and left right => do
    let value ← eval left
    if ← host.services.truth value then eval right else pure value
  | .binary .or left right => do
    let value ← eval left
    if ← host.services.truth value then pure value else eval right
  | .binary op left right => do
    let x ← eval left
    host.services.arithmetic op x (← eval right)
  | .unary .not operand => do pure (.bool (!(← host.services.truth (← eval operand))))
  | .unary op operand => do Value.signed op (← eval operand)
  | .compare first others => do evalCompared (← eval first) others
  | .concat escaping parts => do
    let values ← evalAll parts
    joinValues host.services (← escaping.holds host.services scene) values
  | .attribute object id => do host.services.getAttribute (← eval object) id
  | .element object index => do
    let value ← eval object
    host.services.getElement value (← eval index)
  | .slice object start stop step => do
    let value ← eval object
    let start ← evalOptional start
    let stop ← evalOptional stop
    Services.slice value start stop (← evalOptional step)
  | .call function arguments withCaller => do
    let callee ← eval function
    let given ← evalArguments (callerName "" "") (if withCaller then scene.caller else none) arguments
    host.call scene callee given
  | .captured escaping => do
    pure (markupIf (← escaping.holds host.services scene) scene.captured)
  | .filter subject id arguments => do
    let value ← eval subject
    let given ← evalArguments (callerName "filter" id) none arguments
    if (Filter.ofName? id).isNone then throw (unknownWhenReached "filter" id)
    else
      host.services.filter (← scene.cell) id { given with positional := value :: given.positional }
  | .test subject id arguments => do
    let value ← eval subject
    let given ← evalArguments (callerName "test" id) none arguments
    if (Test.ofName? id).isNone then throw (unknownWhenReached "test" id)
    else do
      let answer ←
        host.services.test (← scene.cell) id { given with positional := value :: given.positional }
      let couldBeSame := Test.isUnique value || !(subject.makesNew || arguments.makesNew)
      if Test.asksForIdentity id && !couldBeSame then pure (.bool false) else pure answer

/-- The values of arguments. -/
def evalArguments (callee : String) (caller : Option Value) : TermArguments → Run CallArguments
  | .mk positional keywords more moreKeywords => do
    let positional ← evalAll positional
    let positional ←
      match more with
      | none => pure positional
      | some term => do
        let value ← eval term
        pure (positional ++ (← moreItems host.services callee value))
    let keywords ← evalKeywords keywords
    let keywords :=
      match caller with
      | none => keywords
      | some macro_ => keywords ++ [("caller", macro_)]
    match moreKeywords with
    | none => pure { positional, keywords }
    | some term => do
      let value ← eval term
      pure { positional, keywords := ← addKeywords callee keywords value }

/-- The values of terms. -/
def evalAll : List Term → Run (List Value)
  | [] => pure []
  | term :: rest => do
    let value ← eval term
    pure (value :: (← evalAll rest))

/-- The values of the entries of a dictionary. -/
def evalEntries : List (Term × Term) → Run (List (Value × Value))
  | [] => pure []
  | (key, value) :: rest => do
    let key ← eval key
    let value ← eval value
    pure ((key, value) :: (← evalEntries rest))

/-- The values of keywords. -/
def evalKeywords : List (String × Term) → Run (List (String × Value))
  | [] => pure []
  | (id, term) :: rest => do
    let value ← eval term
    pure ((id, value) :: (← evalKeywords rest))

/-- The value of a term that may be left out. -/
def evalOptional : Option Term → Run (Option Value)
  | none => pure none
  | some term => do pure (some (← eval term))

/-- The value of the other case of a condition. -/
def evalCase (hint : String) : Option Term → Run Value
  | none => pure (missingCase hint)
  | some term => eval term

/-- The result of comparisons that go on from a value. -/
def evalCompared (value : Value) : List (CompareOp × Term) → Run Value
  | [] => pure value
  | (op, operand) :: rest => do
    let next ← eval operand
    if ← host.services.compare op value next then
      match rest with
      | [] => pure (.bool true)
      | rest => evalCompared next rest
    else pure (.bool false)

end

end Evaluate

end TemplateWorkbench.Template
