import TemplateWorkbench.Template.Evaluate
import TemplateWorkbench.Template.Filter.Stream
import TemplateWorkbench.Template.Library

/-!
# Executing steps

What the steps of a routine do in a scene.  Executing follows the steps, and gives what they print part
by part.  A fault is placed at the line of the step in which it arises, unless it comes from further
inside and has a line already.

A block that captures text keeps what is printed inside of it, except for the text of templates that
are included without the context: that passes by.
-/

namespace TemplateWorkbench.Template

/-! ### Scopes -/

/-- Sets up the slots of a scope. -/
def Scene.enter (scene : Scene) (plan : ScopePlan) : Run Unit :=
  plan.forM fun (slot, origin) => do
    match origin with
    | .context id => do
      writeSlot scene slot ((← contextAt scene.context).resolve? id)
    | .copy source => do writeSlot scene slot (← readSlot scene source)
    | .nothing => writeSlot scene slot none
    | .given => pure ()

/-- Empties the slots of a scope. -/
def Scene.leave (scene : Scene) (plan : ScopePlan) : Run Unit :=
  plan.forM fun (slot, _) => writeSlot scene slot none

/-- The variables that are handed to another template, as far as they have values. -/
def Scene.locals (scene : Scene) (names : LocalNames) : Run (List (String × Value)) := do
  let values ← names.mapM fun (name, slot) => do
    pure ((← readSlot scene slot).map fun value => (name, value))
  pure (values.filterMap id)

/-- Tells the context about an assignment. -/
def Scene.publish (scene : Scene) (publication : Publication) : Run Unit := do
  publication.values.forM fun (id, slot) => do
    match ← readSlot scene slot with
    | some value => changeContext scene.context fun c => c.set id value
    | none => pure ()
  publication.exports.forM fun name =>
    changeContext scene.context fun c => c.expose name

/-! ### Assignment -/

/-- As many items of a value as it is unpacked into. -/
def unpack (services : Services) (count : Nat) (value : Value) : Run (List Value) := do
  match value.source with
  | .error fault =>
    if fault.kind = .type then
      throw (typeFault s!"cannot unpack non-iterable {value.typeName} object")
    else throw fault
  | .ok source => do
    let items ← services.take source (count + 1)
    if items.length < count then
      throw (valueFault
        s!"not enough values to unpack (expected {count}, got {items.length})")
    else if items.length > count then
      throw (valueFault s!"too many values to unpack (expected {count})")
    else pure items

/-- Sets an attribute of what a slot holds, which has to be a namespace. -/
def setAttribute (scene : Scene) (owner : Slot) (id : String) (value : Value) : Run Unit := do
  match ← readSlot scene owner with
  | some (.object .namespace address) => do
    let attributes ← fetch (·.namespaces) address
    let attributes ← Value.putEntry (.string id) (← named value) attributes
    modify fun m => { m with namespaces := m.namespaces.modify address fun _ => attributes }
  | other =>
    let type := (other.map Value.typeName).getD "MissingType"
    throw (typeFault s!"'{type}' object does not support item assignment")

mutual

/-- Assigns a value to a target. -/
def assignTo (services : Services) (scene : Scene) (target : Target) (value : Value) : Run Unit :=
  match target with
  | .slot slot => do writeSlot scene slot (some (← named value))
  | .attribute owner id => setAttribute scene owner id value
  | .tuple targets => do
    assignAll services scene targets (← unpack services targets.length value)

/-- Assigns values to targets. -/
def assignAll (services : Services) (scene : Scene) (targets : List Target)
    (values : List Value) : Run Unit :=
  match targets, values with
  | target :: rest, value :: more => do
    assignTo services scene target value
    assignAll services scene rest more
  | _, _ => pure ()

end

/-- Stops if one of some slots does not hold a namespace. -/
def checkNamespaces (scene : Scene) (slots : List Slot) : Run Unit :=
  slots.forM fun slot => do
    match ← readSlot scene slot with
    | some (.object .namespace _) => pure ()
    | _ =>
      throw (faultOf .templateRuntime "cannot assign attribute on non-namespace object")

/-! ### Printing -/

/-- A value as it is printed: as JSON text in templates that print JSON. -/
def finalize (services : Services) (scene : Scene) (value : Value) : Run Value := do
  if printsJson (← contextAt scene.context).name && !value.isUndefined then
    pure (.string (← value.jsonText (← services.lookFor value)))
  else pure value

/-- A value as a part of what is printed. -/
def printedChunk (services : Services) (scene : Scene) (escaping : Escaping) (value : Value) :
    Run Chunk := do
  let value ← finalize services scene value
  let text ←
    if ← escaping.holds services scene then services.escape value else services.printed value
  pure { value := .string text }

/-- The text that a block captures, and the parts that pass it by. -/
def capture (output : Output) : Except Fault (String × Output) := do
  let kept := (output.filter fun chunk => !chunk.passesBy).map (·.value)
  pure (← joinParts kept, output.filter (·.passesBy))

/-- All parts as parts that do not pass by. -/
def settled (output : Output) : Output := output.map fun chunk => { chunk with passesBy := false }

/-! ### Templates -/

/-- A new context for a template. -/
def openContext (library : Library) (name : String) (given : List (String × Value)) : Run Nat := do
  let escaping ← newEscaping (.bool (escapesByName name))
  let blocks := ((library.program? name).map (·.blocks)).getD []
  newContext
    { name, given, escaping, blocks := blocks.map fun (id, _) => (id, [⟨name, id⟩]) }

/-- The context of a scene with variables of the scene added. -/
def derivedContext (scene : Scene) (names : LocalNames) : Run Nat := do
  let context ← contextAt scene.context
  let given := overlay context.all (← scene.locals names)
  newContext { context with given, assigned := [], exports := [] }

/-- The module of a template that runs in a context. -/
def moduleIn (host : Host) (name : String) (context : Nat) : Run Nat := do
  let output ← host.root name context
  let exports := (← contextAt context).visible
  newModule { name, exports, body := output.map (·.value) }

/-- The module of a template that runs without a context; it is made once. -/
def sharedModule (library : Library) (host : Host) (name : String) : Run Nat := do
  match (← get).imported.lookup name with
  | some address => pure address
  | none => do
    let address ← moduleIn host name (← openContext library name Library.functions)
    modify fun m => { m with imported := (name, address) :: m.imported }
    pure address

/-- A new context for a template with the variables of a scene. -/
def contextFrom (library : Library) (scene : Scene) (name : String) (names : LocalNames) :
    Run Nat := do
  let given := overlay (← contextAt scene.context).all (← scene.locals names)
  openContext library name given

/-- The module of a template that is imported. -/
def importedModule (library : Library) (host : Host) (scene : Scene) (name : String)
    (locals : Option LocalNames) : Run Nat := do
  match locals with
  | none => sharedModule library host name
  | some names => do moduleIn host name (← contextFrom library scene name names)

/-- What is said of a name that an imported template does not have. -/
def missingImport (scene : Scene) (line : Nat) (module_ name : String) : Absence :=
  .hint
    (s!"the template {Text.quote module_} (imported on line {line} in {Text.quote scene.template}) " ++
      s!"does not export the requested name {Text.quote name}")

/-- Imports names from a module. -/
def importName (services : Services) (scene : Scene) (line : Nat) (module_ : Module)
    (name : String) (slot : Slot) : Run Unit := do
  let value :=
    match module_.exports.lookup name with
    | some value => value
    | none => services.missing (missingImport scene line module_.name name)
  writeSlot scene slot (some value)

/-- Makes an imported variable known to the context, but not visible from outside. -/
def publishImport (scene : Scene) (id : String) (slot : Slot) : Run Unit := do
  match ← readSlot scene slot with
  | some value =>
    changeContext scene.context fun c =>
      let c := c.set id value
      if id.startsWith "_" then c else c.discard id
  | none => pure ()

/-- Chooses the parent template: its blocks come after those there are. -/
def chooseParent (library : Library) (scene : Scene) (name : String) : Run Unit := do
  changeActivation scene.root fun a => { a with parent := some name }
  let blocks := ((library.program? name).map (·.blocks)).getD []
  changeContext scene.context fun c =>
    blocks.foldl (fun c (id, _) => c.addBlock id ⟨name, id⟩) c

/-! ### Loops -/

/-- Items one after another, each of them handled, and whether there was any; `count` bounds their
number. -/
def eachItem (next : Run (Option Value)) (handle : Value → Run Output) :
    (count : Nat) → (any : Bool) → (printed : List Output) → Run (Bool × Output)
  | 0, any, printed => pure (any, printed.reverse.flatten)
  | count + 1, any, printed => do
    match ← next with
    | none => pure (any, printed.reverse.flatten)
    | some item => do
      let output ← handle item
      eachItem next handle count true (output :: printed)

/-- What a loop needs to know of its step. -/
structure LoopShape where
  line : Nat
  target : Target
  test : Option LoopTest
  own : Option Slot
  scope : ScopePlan
  /-- The step itself, if the loop can be gone on with on inner items. -/
  recursion : Option (Step × Scene)

/-- Runs a loop over a value: `handle` does the body. -/
def runLoop (host : Host) (scene : Scene) (shape : LoopShape) (depth : Nat) (iterable : Value)
    (handle otherwise : Run Output) : Run Output := do
  let services := host.services
  let iterable ←
    match shape.test with
    | none => pure iterable
    | some test => do
      let bound ← iterable.bound
      newStream "generator"
        { state := .fresh iterable (.loopTest shape.target test scene)
          escaping := ← scene.cell, bound := bound + 1 }
  let source ← Run.placed shape.line (Run.lift iterable.source)
  let bound ← source.bound
  let address ← newLoop { iterable, source, bound, depth, recursion := shape.recursion }
  let item (value : Value) : Run Output := do
    Run.placed shape.line (assignTo services scene shape.target value)
    match shape.own with
    | some slot => writeSlot scene slot (some (.object .loop address))
    | none => pure ()
    scene.enter shape.scope
    handle
  let (any, output) ←
    eachItem (Run.placed shape.line (services.nextOfLoop address)) item (bound + 1) false []
  scene.leave shape.scope
  if any then pure output
  else do
    let more ← otherwise
    pure (output ++ more)

/-! ### Steps -/

section Execute

variable (library : Library) (host : Host)

/-- A printed part of an output statement. -/
def printPart (scene : Scene) : Printed → Run Chunk
  | .text text => pure { value := .string text }
  | .value line term escaping => Run.placed line do
    printedChunk host.services scene escaping (← eval host scene term)

/-- The template that a term asks for. -/
def askFor (scene : Scene) (source : Term) (selection : Selection) : Run String := do
  library.select host.services selection (← eval host scene source)

/-- The name of an included template; one that is missing may be passed over. -/
def askForIncluded (scene : Scene) (source : Term) (selection : Selection)
    (ignoreMissing : Bool) : Run (Option String) :=
  tryCatch (do pure (some (← askFor library host scene source selection))) fun fault =>
    if ignoreMissing && (fault.kind = .templateNotFound || fault.kind = .templatesNotFound) then
      pure none
    else throw fault

/-- Stops if a block has to be filled in by another template and is not. -/
def checkRequired (scene : Scene) (id : String) (required : Bool) : Run Unit := do
  if required && ((← contextAt scene.context).blocksOf id).length ≤ 1 then
    throw (faultOf .templateRuntime s!"Required block {Text.quote id} not found")
  else pure ()

/-- The text of a recursive loop as a value, put together at a line. -/
def loopText (scene : Scene) (line : Nat) (escaping : Escaping) (output : Output) :
    Run (Value × Output) := Run.placed line do
  let escapes ← escaping.holds host.services scene
  let (text, others) ← capture output
  pure (markupIf escapes text, others)

mutual

/-- Executes a step. -/
def execute (scene : Scene) : Step → Run Output
  | .print parts => parts.mapM (printPart host scene)
  | .unlessExtended body => do
    if (← activationAt scene.root).parent.isSome then pure [] else executeAll scene body
  | .branch line test whenTrue whenFalse => do
    if ← Run.placed line (do host.services.truth (← eval host scene test)) then
      executeAll scene whenTrue
    else executeAll scene whenFalse
  | .loop line lastLine target iter test own recursive escaping scope body otherwise => do
    let iterable ← Run.placed line (eval host scene iter)
    if recursive then
      let step := Step.loop line lastLine target iter test own recursive escaping scope body otherwise
      let inner := { scene with activation := ← newActivation { outer := some scene.activation } }
      let output ←
        runLoop host inner ⟨line, target, test, own, scope, some (step, scene)⟩ 0 iterable
          (executeAll inner body) (executeOtherwise inner otherwise)
      let (value, others) ← loopText host inner lastLine escaping output
      pure (others ++ [{ value }])
    else
      runLoop host scene ⟨line, target, test, own, scope, none⟩ 0 iterable
        (executeAll scene body) (executeOtherwise scene otherwise)
  | .assign checkLine checks line target value publication => do
    Run.placed checkLine (checkNamespaces scene checks)
    Run.placed line do assignTo host.services scene target (← eval host scene value)
    scene.publish publication
    pure []
  | .capture scope body line target value publication => do
    scene.enter scope
    let output ← executeAll scene body
    let others ← Run.placed line do
      let escapes ← scene.escapes host.services
      let (text, others) ← capture output
      let value ← eval host { scene with captured := text } value
      let value ←
        if escapes then
          match ← Services.ownMarkup? value with
          | some text => pure (.markup text)
          | none => do pure (.markup (← host.services.printed value))
        else pure value
      assignTo host.services scene target value
      pure others
    scene.publish publication
    scene.leave scope
    pure others
  | .bind line scope bindings body => do
    scene.enter scope
    bindings.forM fun (target, term) => Run.placed line do
      assignTo host.services scene target (← eval host scene term)
    let output ← executeAll scene body
    scene.leave scope
    pure output
  | .escaping line scope option body => do
    scene.enter scope
    let cell ← scene.cell
    let before : Value ← fetch (·.escaping) cell
    let value ← Run.placed line (eval host scene option)
    modify fun m => { m with escaping := m.escaping.modify cell fun _ => value }
    let output ← executeAll scene body
    modify fun m => { m with escaping := m.escaping.modify cell fun _ => before }
    scene.leave scope
    pure output
  | .defineMacro slot plan publication => do
    let escapes : Value ← fetch (·.escaping) (← scene.cell)
    let value ← newMacro { plan, scene, escapes }
    writeSlot scene slot (some value)
    scene.publish publication
    pure []
  | .callBlock line plan call => do
    let escapes : Value ← fetch (·.escaping) (← scene.cell)
    let caller ← newMacro { plan, scene, escapes }
    let value ← Run.placed line (eval host { scene with caller := some caller } call)
    pure [{ value }]
  | .filterBlock line scope body value => do
    scene.enter scope
    let output ← executeAll scene body
    let (value, others) ← Run.placed line do
      let (text, others) ← capture output
      pure (← eval host { scene with captured := text } value, others)
    scene.leave scope
    pure (others ++ [{ value }])
  | .block line id locals required => do
    Run.placed line (checkRequired scene id required)
    let context ←
      match locals with
      | none => pure scene.context
      | some names => derivedContext scene names
    match (← contextAt context).blocksOf id with
    | [] => Run.placed line (throw (faultOf .key (Text.quote id)))
    | block :: _ => do pure (settled (← Run.placed line (host.block context block)))
  | .extend line repeatLine source => do
    match repeatLine with
    | some repeatLine => do
      if (← activationAt scene.root).parent.isSome then
        Run.placed repeatLine (throw (faultOf .templateRuntime "extended multiple times"))
      else pure ()
    | none => pure ()
    chooseParent library scene
      (← Run.placed line (askFor library host scene source .single))
    pure []
  | .extendedTwice line =>
    Run.placed line (throw (faultOf .templateRuntime "extended multiple times"))
  | .includeFrom line source selection locals ignoreMissing => Run.placed line do
    match ← askForIncluded library host scene source selection ignoreMissing with
    | none => pure []
    | some name =>
      match locals with
      | some names => do
        let context ← contextFrom library scene name names
        pure (settled (← host.root name context))
      | none => do
        let module_ ← fetch (·.modules) (← sharedModule library host name)
        pure (module_.body.map fun value => { value, passesBy := true })
  | .importAs line source locals id slot publishes => do
    Run.placed line do
      let name ← askFor library host scene source .single
      let address ← importedModule library host scene name locals
      writeSlot scene slot (some (.object .module address))
    if publishes then publishImport scene id slot else pure ()
    pure []
  | .importNames line source locals names publishes => do
    Run.placed line do
      let name ← askFor library host scene source .single
      let module_ ← fetch (·.modules) (← importedModule library host scene name locals)
      names.forM fun name => importName host.services scene line module_ name.id name.slot
    if publishes then names.forM fun name => publishImport scene name.asName name.slot else pure ()
    pure []

/-- Executes what is done when a loop has no items. -/
def executeOtherwise (scene : Scene) : Option (ScopePlan × List Step) → Run Output
  | none => pure []
  | some (scope, body) => do
    scene.enter scope
    let output ← executeAll scene body
    scene.leave scope
    pure output

/-- Executes steps one after another. -/
def executeAll (scene : Scene) : List Step → Run Output
  | [] => pure []
  | step :: rest => do
    let output ← execute scene step
    pure (output ++ (← executeAll scene rest))

end

end Execute

end TemplateWorkbench.Template
