import TemplateWorkbench.Template.Program
import TemplateWorkbench.Template.Value.Printing
import TemplateWorkbench.Template.Value.Equality
import TemplateWorkbench.Template.Value

/-!
# Memory

What has a state of its own lives in the memory of a rendering: the variables of running routines,
contexts, the objects that templates make, and streams, which give their items one by one and only
when they are asked for.  Memory only grows, and an address stays good.

A computation over memory may stop with a fault; the memory it has left behind stays.
-/

namespace TemplateWorkbench.Template

/-- The variables of a running routine, and the routine that it was defined in.  A root routine also
knows the parent template that has been chosen. -/
structure Activation where
  outer : Option Nat := none
  cells : List (Slot × Option Value) := []
  parent : Option String := none
deriving Inhabited

/-- A block of a template. -/
structure BlockId where
  template : String
  block : String
deriving DecidableEq, Repr, Inhabited

/-- A context: the template that runs in it, the variables it was given and those that were set since,
which of these are visible from outside, the blocks under each name from the innermost template
outward, and the cell that says whether text is escaped. -/
structure Context where
  name : String
  given : List (String × Value)
  assigned : List (String × Value) := []
  exports : List String := []
  blocks : List (String × List BlockId) := []
  escaping : Nat
deriving Inhabited

/-- Where code runs: its context, its variables, those of the root routine around it, and its
template. -/
structure Scene where
  context : Nat
  activation : Nat
  root : Nat
  template : String
  /-- Text that the block around an expression has captured. -/
  captured : String := ""
  /-- What a called macro finds as its caller. -/
  caller : Option Value := none
deriving Inhabited

/-- A counter that goes around a list of items. -/
structure Cycler where
  items : List Value
  position : Nat := 0
deriving Inhabited

/-- A separator that is left out the first time. -/
structure Joiner where
  separator : Value
  used : Bool := false
deriving Inhabited

/-- Positional arguments and keywords. -/
structure CallArguments where
  positional : List Value := []
  keywords : List (String × Value) := []
deriving Inhabited

/-- A macro and where it was defined. -/
structure MacroObject where
  plan : MacroPlan
  scene : Scene
  escapes : Value
deriving Inhabited

/-- What is read from every item: where a path of names and indices leads, starting from the item,
what stands in for something missing on the way, and whether capitals count as small letters. -/
structure ItemKey where
  path : List Value := []
  default : Value := .none
  ignoresCase : Bool := false
deriving Inhabited

/-- What a stream does with the items of its source. -/
inductive Stage where
  | pass
  /-- Applies a filter, chosen by a value. -/
  | filter (id : Value) (arguments : CallArguments)
  | read (key : ItemKey)
  /-- Keeps the items whose key passes a test, or does not pass it. -/
  | select (keep : Bool) (key : ItemKey) (test : Option (Value × CallArguments))
  /-- Keeps the first item of every key. -/
  | unique (key : ItemKey) (seen : List Value)
  /-- Gives lists of so many items, of which some are collected already. -/
  | batch (size fill : Value) (collected : List Value)
  /-- Keeps the items that the condition of a loop holds for. -/
  | loopTest (target : Target) (test : LoopTest) (scene : Scene)
deriving Inhabited

/-- Where the items of a stream come from: items at hand, integers in equal steps of which some are
left, or another stream or loop. -/
inductive Source where
  | items (rest : List Value)
  | steps (next step : Int) (left : Nat)
  | object (kind : ObjectKind) (address : Nat)
deriving Inhabited

/-- What a stream does when it is asked for its first item. -/
inductive Recipe where
  | map (arguments : CallArguments)
  | select (keep byAttribute : Bool) (arguments : CallArguments)
  | unique (caseSensitive key : Value)
  | entries
  | batch (size fill : Value)
  | slice (count fill : Value)
  | loopTest (target : Target) (test : LoopTest) (scene : Scene)
deriving Inhabited

/-- The state of a stream: not asked yet, or running. -/
inductive StreamState where
  | fresh (subject : Value) (recipe : Recipe)
  | running (source : Source) (stage : Stage)
deriving Inhabited

/-- A stream: its state, the cell that says whether its filters escape, and a bound on the number of
its items. -/
structure Stream where
  state : StreamState
  escaping : Nat
  bound : Nat
deriving Inhabited

/-- A loop that is under way: what it loops over, the items to come, and the last items. -/
structure LoopState where
  iterable : Value
  source : Source
  bound : Nat
  index : Int := -1
  length : Option Nat := none
  before : Option Value := none
  current : Option Value := none
  after : Option Value := none
  lastChanged : Option (List Value) := none
  depth : Nat := 0
  /-- The loop's own step, for going on with it on inner items. -/
  recursion : Option (Step × Scene) := none
deriving Inhabited

/-- A template as an object: its name, its visible variables and the parts of its text. -/
structure Module where
  name : String
  exports : List (String × Value)
  body : List Value
deriving Inhabited

/-- A block as an object: its name, the context, and how far outward it is. -/
structure BlockReference where
  name : String
  context : Nat
  depth : Nat
deriving Inhabited

/-- The memory of a rendering. -/
structure Memory where
  activations : Array Activation := #[]
  contexts : Array Context := #[]
  /-- Cells that say whether text is escaped. -/
  escaping : Array Value := #[]
  namespaces : Array (List (Value × Value)) := #[]
  cyclers : Array Cycler := #[]
  joiners : Array Joiner := #[]
  loops : Array LoopState := #[]
  macros : Array MacroObject := #[]
  streams : Array Stream := #[]
  modules : Array Module := #[]
  /-- The contexts of the templates that stand for themselves. -/
  selves : Array Nat := #[]
  blocks : Array BlockReference := #[]
  /-- The next name for what is no number. -/
  nextName : Nat := 0
  /-- The modules of templates that were imported without a context. -/
  imported : List (String × Nat) := []
deriving Inhabited

/-- A computation over memory. -/
abbrev Run := ExceptT Fault (StateM Memory)

namespace Run

/-- Stops with a fault. -/
def fail {α : Type} (fault : Fault) : Run α := throw fault

/-- The result of a computation that does not need memory. -/
def lift {α : Type} : Except Fault α → Run α
  | .ok value => pure value
  | .error fault => throw fault

/-- Places the faults of a computation at a line. -/
def placed {α : Type} (line : Nat) (computation : Run α) : Run α :=
  tryCatch computation fun fault => throw (fault.at line)

end Run

instance : MonadLift (Except Fault) Run := ⟨Run.lift⟩

/-! ### Reading and writing -/

/-- What lies at an address. -/
def fetch {α : Type} [Inhabited α] (part : Memory → Array α) (address : Nat) : Run α := do
  pure ((part (← get))[address]?.getD default)

/-- The activation at an address. -/
def activationAt (address : Nat) : Run Activation := fetch (·.activations) address

/-- The context at an address. -/
def contextAt (address : Nat) : Run Context := fetch (·.contexts) address

/-- The loop at an address. -/
def loopAt (address : Nat) : Run LoopState := fetch (·.loops) address

/-- The stream at an address. -/
def streamAt (address : Nat) : Run Stream := fetch (·.streams) address

/-- Changes an activation. -/
def changeActivation (address : Nat) (f : Activation → Activation) : Run Unit :=
  modify fun m => { m with activations := m.activations.modify address f }

/-- Changes a context. -/
def changeContext (address : Nat) (f : Context → Context) : Run Unit :=
  modify fun m => { m with contexts := m.contexts.modify address f }

/-- Changes a loop. -/
def changeLoop (address : Nat) (f : LoopState → LoopState) : Run Unit :=
  modify fun m => { m with loops := m.loops.modify address f }

/-- Changes the state of a stream. -/
def changeStream (address : Nat) (state : StreamState) : Run Unit :=
  modify fun m => { m with streams := m.streams.modify address fun s => { s with state } }

/-- A new activation. -/
def newActivation (activation : Activation) : Run Nat :=
  modifyGet fun m =>
    (m.activations.size, { m with activations := m.activations.push activation })

/-- A new context. -/
def newContext (context : Context) : Run Nat :=
  modifyGet fun m => (m.contexts.size, { m with contexts := m.contexts.push context })

/-- A new cell that says whether text is escaped. -/
def newEscaping (value : Value) : Run Nat :=
  modifyGet fun m => (m.escaping.size, { m with escaping := m.escaping.push value })

/-- A new namespace with attributes. -/
def newNamespace (attributes : List (Value × Value)) : Run Value :=
  modifyGet fun m =>
    (.object .namespace m.namespaces.size, { m with namespaces := m.namespaces.push attributes })

/-- A new cycler. -/
def newCycler (items : List Value) : Run Value :=
  modifyGet fun m =>
    (.object .cycler m.cyclers.size, { m with cyclers := m.cyclers.push { items } })

/-- A new joiner. -/
def newJoiner (separator : Value) : Run Value :=
  modifyGet fun m =>
    (.object .joiner m.joiners.size, { m with joiners := m.joiners.push { separator } })

/-- A new loop. -/
def newLoop (state : LoopState) : Run Nat :=
  modifyGet fun m => (m.loops.size, { m with loops := m.loops.push state })

/-- A new macro. -/
def newMacro (object : MacroObject) : Run Value :=
  modifyGet fun m =>
    (.object .macroDef m.macros.size, { m with macros := m.macros.push object })

/-- A new stream, under the name of its kind of iterator. -/
def newStream (iterator : String) (stream : Stream) : Run Value :=
  modifyGet fun m =>
    (.object (.stream iterator) m.streams.size, { m with streams := m.streams.push stream })

/-- A new module. -/
def newModule (object : Module) : Run Nat :=
  modifyGet fun m => (m.modules.size, { m with modules := m.modules.push object })

/-- A new object for the template that runs in a context. -/
def newSelf (context : Nat) : Run Value :=
  modifyGet fun m =>
    (.object .templateSelf m.selves.size, { m with selves := m.selves.push context })

/-- A new object for a block. -/
def newBlockReference (reference : BlockReference) : Run Value :=
  modifyGet fun m =>
    (.object .block m.blocks.size, { m with blocks := m.blocks.push reference })

/-- A value as it is when it has been put somewhere. -/
def named (value : Value) : Run Value :=
  if value.needsNames then
    modifyGet fun m =>
      let (value, nextName) := value.giveNames.run m.nextName
      (value, { m with nextName })
  else pure value

/-! ### Variables -/

/-- A cell among others. -/
def cell? (slot : Slot) (cells : List (Slot × Option Value)) : Option (Option Value) :=
  cells.lookup slot

/-- Cells with one put. -/
def putCell (slot : Slot) (value : Option Value) :
    List (Slot × Option Value) → List (Slot × Option Value)
  | [] => [(slot, value)]
  | (other, old) :: rest =>
    if other = slot then (slot, value) :: rest else (other, old) :: putCell slot value rest

/-- What a slot holds in an activation or in one around it.  An activation lies behind those around
it, so addresses go down. -/
def slotIn (activations : Array Activation) (slot : Slot) (address : Nat) : Option Value :=
  match activations[address]? with
  | none => none
  | some activation =>
    match cell? slot activation.cells with
    | some value => value
    | none =>
      match activation.outer with
      | none => none
      | some outer => if _ : outer < address then slotIn activations slot outer else none
termination_by address

/-- What a slot holds, if anything. -/
def readSlot (scene : Scene) (slot : Slot) : Run (Option Value) := do
  pure (slotIn (← get).activations slot scene.activation)

/-- Puts something into a slot, or nothing. -/
def writeSlot (scene : Scene) (slot : Slot) (value : Option Value) : Run Unit :=
  changeActivation scene.activation fun a => { a with cells := putCell slot value a.cells }

/-! ### Contexts -/

/-- A variable with a value put in place of an older one of the name. -/
def putVariable (name : String) (value : Value) : List (String × Value) → List (String × Value)
  | [] => [(name, value)]
  | (other, old) :: rest =>
    if other == name then (name, value) :: rest else (other, old) :: putVariable name value rest

/-- Variables together with others, which count where both have a name. -/
def overlay (base others : List (String × Value)) : List (String × Value) :=
  others.foldl (fun all (name, value) => putVariable name value all) base

namespace Context

/-- The value of a name. -/
def resolve? (context : Context) (name : String) : Option Value :=
  context.assigned.lookup name <|> context.given.lookup name

/-- All variables. -/
def all (context : Context) : List (String × Value) := overlay context.given context.assigned

/-- The context with a variable set. -/
def set (context : Context) (name : String) (value : Value) : Context :=
  { context with assigned := putVariable name value context.assigned }

/-- The context with a name made visible from outside. -/
def expose (context : Context) (name : String) : Context :=
  if context.exports.contains name then context
  else { context with exports := context.exports ++ [name] }

/-- The context with a name made invisible from outside. -/
def discard (context : Context) (name : String) : Context :=
  { context with exports := context.exports.filter (· != name) }

/-- The variables that are visible from outside. -/
def visible (context : Context) : List (String × Value) :=
  context.exports.filterMap fun name => (context.assigned.lookup name).map fun value => (name, value)

/-- The blocks under a name, from the innermost template outward. -/
def blocksOf (context : Context) (name : String) : List BlockId :=
  (context.blocks.lookup name).getD []

/-- The context with one more block under a name, outside of those there are. -/
def addBlock (context : Context) (name : String) (block : BlockId) : Context :=
  { context with blocks := go context.blocks }
where
  /-- Adds the block to the list of its name. -/
  go : List (String × List BlockId) → List (String × List BlockId)
    | [] => [(name, [block])]
    | (other, blocks) :: rest =>
      if other == name then (other, blocks ++ [block]) :: rest else (other, blocks) :: go rest

end Context

/-! ### Appearance -/

/-- The length of a source, if its items are at hand. -/
def Source.length? : Source → Option Nat
  | .items rest => some rest.length
  | .steps _ _ left => some left
  | .object _ _ => none

/-- The number of items of a value that knows it. -/
def Value.length? : Value → Option Nat
  | .string text | .markup text => some text.length
  | .bytes octets => some octets.length
  | .list items | .tuple items => some items.length
  | .group _ _ => some 2
  | .dict entries | .view _ entries => some entries.length
  | .set _ members => some members.length
  | .range start stop step => some (Value.rangeLength start stop step)
  | .undefined false _ => some 0
  | _ => Option.none

/-- The length of a loop as far as it is known without asking for further items. -/
def LoopState.knownLength? (state : LoopState) : Option Nat :=
  state.length <|> state.iterable.length?

/-- How an object without a state to show is written. -/
def namedText (kind : String) (name : Option String) : String :=
  match name with
  | some name => s!"<{kind} {Text.quote name}>"
  | none => s!"<{kind} anonymous>"

/-- The text of printed parts; each of them has to be a text. -/
def joinParts (parts : List Value) : Except Fault String := go 0 parts
where
  /-- The text of the parts from a position on. -/
  go (position : Nat) : List Value → Except Fault String
    | [] => .ok ""
    | part :: rest =>
      match part.text? with
      | some text => do pure (text ++ (← go (position + 1) rest))
      | Option.none =>
        .error (typeFault
          s!"sequence item {position}: expected str instance, {part.typeName} found")

/-- How what lives in memory is written, and how it is printed, down to a depth. -/
def Memory.look (memory : Memory) : Nat → Appearance
  | 0 =>
    let tooDeep : ObjectKind → Nat → Except Fault String := fun _ _ =>
      .error (faultOf .recursion "maximum recursion depth exceeded while getting the repr of an object")
    ⟨tooDeep, tooDeep⟩
  | depth + 1 =>
    let written (kind : ObjectKind) (address : Nat) : Except Fault String :=
      match kind with
      | .namespace => do
        let attributes := memory.namespaces[address]?.getD []
        pure s!"<Namespace {← (Value.dict attributes).written (memory.look depth)}>"
      | .loop =>
        let state := memory.loops[address]?.getD default
        .ok s!"<LoopContext {state.index + 1}/{(state.knownLength?).getD 0}>"
      | .macroDef =>
        match (memory.macros[address]?.getD default).plan with
        | .mk _ _ id _ _ _ _ _ _ _ => .ok (namedText "Macro" id)
      | .module =>
        .ok (namedText "TemplateModule" (some (memory.modules[address]?.getD default).name))
      | .templateSelf =>
        let context := memory.selves[address]?.getD 0
        .ok (namedText "TemplateReference" (some (memory.contexts[context]?.getD default).name))
      | other => Appearance.plain.written other address
    ⟨written, fun kind address =>
      match kind with
      | .module => joinParts (memory.modules[address]?.getD default).body
      | other => written other address⟩

/-- The depth down to which values are written. -/
def writingDepth : Nat := 100

/-- How values look in the memory of now. -/
def currentLook : Run Appearance := do pure ((← get).look writingDepth)

end TemplateWorkbench.Template
