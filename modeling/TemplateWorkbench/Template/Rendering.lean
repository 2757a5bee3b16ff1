import TemplateWorkbench.Template.Builtin
import TemplateWorkbench.Template.Execute

/-!
# Rendering

A rendering runs the root routine of a template in a context.  Macros, blocks, recursive loops and
other templates are run by hosts: every call goes to a host that stands one level lower, and the lowest
one refuses, so that a rendering always comes to an end.

A template with a parent prints what the root of the parent prints in the same context, after its own
root has been run.
-/

namespace TemplateWorkbench.Template

/-! ### Macros -/

/-- The first of some keywords, and the others. -/
def takeKeyword (id : String) (keywords : List (String × Value)) :
    Option Value × List (String × Value) :=
  (keywords.lookup id, keywords.filter fun k => k.1 != id)

/-- The values of parameters that are given by name, each none if it is not given. -/
def namedValues : List String → List (String × Value) →
    List (Option Value) × List (String × Value)
  | [], keywords => ([], keywords)
  | id :: rest, keywords =>
    let (value, others) := takeKeyword id keywords
    let (values, others) := namedValues rest others
    (value :: values, others)

/-- How a message names a macro. -/
def macroName (id : Option String) : String := (id.map Text.quote).getD "None"

/-- The slots of a macro with what they hold at the start. -/
def macroCells (services : Services) (plan : MacroPlan) (arguments : CallArguments) :
    Except Fault (List (Slot × Option Value)) :=
  match plan with
  | .mk _ _ id parameters usesCaller caller moreKeywords more _ _ => do
    let count := parameters.length
    let byPosition := arguments.positional.take count
    let open_ := (parameters.drop byPosition.length).map (·.id)
    let (byName, keywords) := namedValues open_ arguments.keywords
    let values := byPosition.map some ++ byName
    let (callerValue, keywords) :=
      if usesCaller && caller.isSome then takeKeyword "caller" keywords else (none, keywords)
    let noCaller := services.missing (.hint "No caller defined")
    let callerValue : Value :=
      match callerValue with
      | none | some .none => noCaller
      | some value => value
    let rest := arguments.positional.drop count
    if moreKeywords.isNone && !keywords.isEmpty then
      if (keywords.lookup "caller").isSome then
        .error (typeFault
          (s!"macro {macroName id} was invoked with two values for the special caller argument. " ++
            "This is most likely a bug."))
      else
        let keyword := (keywords.head?.map (·.1)).getD ""
        .error (typeFault s!"macro {macroName id} takes no keyword argument {Text.quote keyword}")
    else if more.isNone && !rest.isEmpty then
      .error (typeFault s!"macro {macroName id} takes not more than {count} argument(s)")
    else
      let own := (parameters.zip values).map fun (parameter, value) => (parameter.slot, value)
      let special (slot : Option Slot) (value : Value) : List (Slot × Option Value) :=
        match slot with
        | some slot => [(slot, some value)]
        | none => []
      let named := keywords.map fun (id, value) => (Value.string id, value)
      pure (own ++ special caller callerValue ++ special moreKeywords (.dict named) ++
        special more (.tuple rest))

/-- Fills the parameters that have not been given with their defaults. -/
def fillDefaults (host : Host) (scene : Scene) (line : Nat) (parameters : List Parameter) :
    Run Unit :=
  parameters.forM fun parameter => do
    match ← readSlot scene parameter.slot with
    | some _ => pure ()
    | none => do
      let name := parameter.id
      let value ←
        match parameter.default with
        | some term => Run.placed line (eval host scene term)
        | none =>
          pure (host.services.missing
            (.hint s!"parameter {Text.quote name} was not provided"))
      writeSlot scene parameter.slot (some value)

/-- Calls a macro; its text is markup if text is escaped where it is called, by what is said there when
the call begins. -/
def callMacro (library : Library) (host : Host) (caller : Scene) (object : MacroObject)
    (arguments : CallArguments) : Run Value := do
  let escapes : Value ← fetch (·.escaping) (← caller.cell)
  let cells ← macroCells host.services object.plan arguments
  match object.plan with
  | .mk line lastLine _ parameters _ _ _ _ scope body => do
    let cells ← cells.mapM fun (slot, value) => do pure (slot, ← value.mapM named)
    let activation ← newActivation { outer := some object.scene.activation, cells }
    let scene := { object.scene with activation }
    scene.enter scope
    fillDefaults host scene line parameters
    let output ← executeAll library host scene body
    let text ← Run.placed lastLine (Run.lift (joinParts (output.map (·.value))))
    pure (markupIf (← host.services.truth escapes) text)

/-! ### Blocks and templates -/

/-- The block above a block, as a value. -/
def blockAbove (services : Services) (context : Nat) (block : BlockId) : Run Value := do
  let blocks := (← contextAt context).blocksOf block.block
  let position := (blocks.findIdx (· == block)) + 1
  if position < blocks.length then newBlockReference ⟨block.block, context, position⟩
  else
    pure (services.missing
      (.hint s!"there is no parent block called {Text.quote block.block}."))

/-- Runs a routine of a template in a context. -/
def runRoutine (library : Library) (host : Host) (template : String) (context : Nat)
    (routine : Routine) (above : Run Value) : Run (Scene × Output) := do
  let activation ← newActivation {}
  let scene : Scene := { context, activation, root := activation, template }
  match routine.selfSlot with
  | some slot => do writeSlot scene slot (some (← newSelf context))
  | none => pure ()
  match routine.superSlot with
  | some slot => do writeSlot scene slot (some (← above))
  | none => pure ()
  scene.enter routine.scope
  let output ← executeAll library host scene routine.body
  pure (scene, settled output)

/-- Runs a block in a context. -/
def runBlock (library : Library) (host : Host) (context : Nat) (block : BlockId) :
    Run Output := do
  match (library.program? block.template).bind fun program => program.blocks.lookup block.block with
  | none => pure []
  | some routine => do
    let (_, output) ←
      runRoutine library host block.template context routine
        (blockAbove host.services context block)
    pure output

/-- Runs the root of a template in a context, and then that of its parent. -/
def runRoot (library : Library) (host : Host) (template : String) (context : Nat) :
    Run Output := do
  match library.program? template with
  | none => pure []
  | some program => do
    let (scene, output) ←
      runRoutine library host template context program.root (pure .none)
    if program.continuation = .none then pure output
    else
      match (← activationAt scene.root).parent with
      | none => pure output
      | some parent => do
        let more ← host.root parent context
        pure (output ++ more)

/-- Calls a block; its text is markup if text is escaped in its context. -/
def callBlock (host : Host) (reference : BlockReference) (arguments : CallArguments) :
    Run Value := do
  let _ ← Run.lift
    (({ id := "BlockReference.__call__", hidden := ["self"] } : Signature).bind arguments)
  let context ← contextAt reference.context
  match (context.blocksOf reference.name)[reference.depth]? with
  | none => pure (.string "")
  | some block => do
    let text ← joinParts ((← host.block reference.context block).map (·.value))
    pure (markupIf (← host.services.escapes context.escaping) text)

/-- Goes on with a recursive loop on inner items. -/
def callLoop (library : Library) (host : Host) (address : Nat) (arguments : CallArguments) :
    Run Value := do
  let bound ← Run.lift
    (({ id := "LoopContext.__call__", hidden := ["self"], required := ["iterable"] }
      : Signature).bind arguments)
  let state ← loopAt address
  match state.recursion with
  | some (.loop line lastLine target iter test own recursive escaping scope body otherwise, outer) => do
    let step := Step.loop line lastLine target iter test own recursive escaping scope body otherwise
    let scene := { outer with activation := ← newActivation { outer := some outer.activation } }
    let output ←
      runLoop host scene ⟨line, target, test, own, scope, some (step, outer)⟩ (state.depth + 1)
        (bound.values[0]?.getD .none)
        (executeAll library host scene body)
        (executeOtherwise library host scene otherwise)
    let (value, _) ← loopText host scene lastLine escaping output
    pure value
  | _ =>
    throw (typeFault "The loop must have the 'recursive' marker to be called recursively.")

/-! ### Hosts -/

/-- Calls a value; a macro is run by a host of its own, for it takes more room than other calls. -/
def callValue (library : Library) (macroHost host : Host) (scene : Scene) (value : Value)
    (arguments : CallArguments) : Run Value := do
  match value with
  | .undefined _ absence => throw absence.fault
  | .builtin function => function.apply host.services arguments
  | .method receiver id => Method.call host.services receiver id arguments
  | .object .macroDef address => do
    callMacro library macroHost scene (← fetch (·.macros) address) arguments
  | .object .block address => do callBlock host (← fetch (·.blocks) address) arguments
  | .object .loop address => callLoop library host address arguments
  | .object .joiner address => callJoiner address arguments
  | value => throw (typeFault s!"'{value.typeName}' object is not callable")

/-- Whether the condition of a loop holds for an item. -/
def loopTestHolds (host : Host) (target : Target) (test : LoopTest) (scene : Scene)
    (item : Value) : Run Bool := do
  let activation ← newActivation { outer := some scene.activation }
  let scene := { scene with activation }
  Run.placed test.line do
    scene.enter test.scope
    assignTo host.services scene target item
    host.services.truth (← eval host scene test.term)

/-- How deeply streams may be nested in a rendering. -/
def streamDepth : Nat := 250

/-- The fault of calls that are nested too deeply. -/
def tooDeep : Fault := faultOf .recursion "maximum recursion depth exceeded"

/-- The host that has room for so many steps inside of each other: a macro takes four of them, a
recursive loop and the text of a block take three, and a template or a block one. -/
def Host.within (library : Library) : (room : Nat) → Host
  | 0 | 1 | 2 | 3 =>
    { services := Services.within library.strict (fun _ _ _ _ => throw tooDeep) 0
      call := fun _ _ _ => throw tooDeep
      block := fun _ _ => throw tooDeep
      root := fun _ _ => throw tooDeep }
  | room + 4 =>
    { services :=
        Services.within library.strict
          (fun target test scene item =>
            loopTestHolds (Host.within library (room + 1)) target test scene item) streamDepth
      call := fun scene value arguments =>
        callValue library (Host.within library room) (Host.within library (room + 1)) scene value
          arguments
      block := fun context block =>
        runBlock library (Host.within library (room + 3)) context block
      root := fun template context =>
        runRoot library (Host.within library (room + 3)) template context }

/-- How many steps a rendering has room for inside of each other. -/
def callRoom : Nat := 960

/-- The text of a template with variables. -/
def Library.render (library : Library) (name : String) (given : List (String × Value)) :
    Run String := do
  let host := Host.within library callRoom
  let context ← openContext library name (overlay Library.functions given)
  let output ← host.root name context
  joinParts (output.map (·.value))

end TemplateWorkbench.Template
