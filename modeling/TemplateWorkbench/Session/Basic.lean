import TemplateWorkbench.Layout.Panes
import TemplateWorkbench.Session.Config
import TemplateWorkbench.Session.Edit
import TemplateWorkbench.View.Projection

/-!
# Sessions

A session holds an editor state, the output that was derived from it, and the layout of the page.
Every edit that is made derives the output anew and then tells the listeners, one after another.  A
listener may break off, which stops the edits that are still to come but undoes nothing.

A view can also be run without being selected, and then nobody is told.
-/

namespace TemplateWorkbench

/-- A listener: its name, and the outcomes at which it breaks off. -/
structure Listener where
  id : String
  breaksOffAt : Outcome Payload → Bool := fun _ => false

/-- What a listener is told: the new output and the modes. -/
structure Announcement where
  listener : String
  outcome : Outcome Payload
  renderMode : RenderMode
  view : ViewMode

/-- A session. -/
structure Session where
  config : Config
  engine : Engine
  layout : PaneLayout
  state : EditorState
  output : Outcome Payload
  listeners : List Listener := []

/-- What a session is started with; what is missing comes from the sample and the configuration. -/
structure SessionStart where
  template : Option Json := none
  context : Json := .null
  renderMode : String := ""
  view : String := ""

/-- Why a session does not do what it is told. -/
inductive SessionFault where
  | layout (fault : DividerFault)
  | edit (fault : EditFault)
  /-- A batch of changes that is no object. -/
  | changes (value : Json)
  | listener (id : String)
deriving Repr

/-- What is said of a fault. -/
def SessionFault.message : SessionFault → String
  | layout fault => fault.message
  | edit fault => fault.message
  | changes value => value.lacks "items"
  | listener id => id

namespace EditorState

/-- The output that an engine gives for a state. -/
def outcome (state : EditorState) (engine : Engine) : Outcome Payload :=
  (state.draft.derive engine state.view).outcome

end EditorState

namespace Session

/-! ### Starting -/

/-- The store of a session that is given none. -/
def defaultStore (config : Config) (file : Option SettingsFile) : SettingsStore :=
  ⟨some (file.elim (.memory []) .file), config.space⟩

/-- The mode that a name chooses, or the default for an empty name. -/
def modeOr {α : Type} (choose : Json → Except UnknownChoice α) (name : String) (default : α) :
    Except SessionFault α :=
  if name.isEmpty then .ok default
  else
    match choose (.string name) with
    | .ok mode => .ok mode
    | .error unknown => .error (.edit (.unknown unknown))

/-- The layout of a session. -/
def layoutOf (config : Config) (store : SettingsStore) : Except SessionFault PaneLayout :=
  match PaneLayout.create (some store) config.contextWidth config.outputHeight
      config.minPaneSize with
  | .ok layout => .ok layout
  | .error fault => .error (.layout fault)

/-- The editor state that a session starts with. -/
def startState (config : Config) (start : SessionStart) : Except SessionFault EditorState := do
  let context ←
    match contextText start.context with
    | .ok text => .ok text
    | .error fault => .error (.edit (.unwritable fault))
  let renderMode ← modeOr RenderMode.chosenBy start.renderMode config.renderMode
  let view ← modeOr ViewMode.chosenBy start.view config.viewMode
  pure ⟨⟨start.template.getD (.string Sample.template), context, renderMode⟩, view⟩

/-- A session over a store. -/
def create (config : Config) (engine : Engine) (store : SettingsStore) (start : SessionStart) :
    Except SessionFault Session := do
  let layout ← layoutOf config store
  let state ← startState config start
  pure { config, engine, layout, state, output := state.outcome engine }

/-! ### Editing -/

/-- Where edits lead: the session after them, what the listeners were told, and the fault that stopped
them, if one did. -/
structure Progress where
  session : Session
  announced : List Announcement := []
  fault : Option SessionFault := none

/-- What a listener is told of the session. -/
def announcement (session : Session) (listener : Listener) : Announcement :=
  ⟨listener.id, session.output, session.state.draft.renderMode, session.state.view⟩

/-- Tells listeners one after another, up to the first one that breaks off. -/
def announce (session : Session) : List Listener → List Announcement × Option SessionFault
  | [] => ([], none)
  | listener :: rest =>
    if listener.breaksOffAt session.output then
      ([session.announcement listener], some (.listener listener.id))
    else
      let (announced, fault) := session.announce rest
      (session.announcement listener :: announced, fault)

/-- Takes a new editor state: derives the output and tells the listeners. -/
def update (session : Session) (state : EditorState) : Progress :=
  let session := { session with state, output := state.outcome session.engine }
  let (announced, fault) := session.announce session.listeners
  { session, announced, fault }

/-- Makes an edit; one that cannot be made changes nothing. -/
def edit (session : Session) (edit : Edit) : Progress :=
  match session.state.edit edit with
  | .ok state => session.update state
  | .error fault => { session, fault := some (.edit fault) }

/-- Makes edits one after another, up to the first fault. -/
def editAll (session : Session) : List Edit → Progress
  | [] => { session }
  | edit :: rest =>
    let done := session.edit edit
    match done.fault with
    | some _ => done
    | none =>
      let others := done.session.editAll rest
      { others with announced := done.announced ++ others.announced }

/-- Makes the edits of a batch of changes, which has to be an object. -/
def applyChanges (session : Session) (changes : Json) : Progress :=
  match changes with
  | .object members => session.editAll (Edit.ofMembers members)
  | value => { session, fault := some (.changes value) }

/-- Goes back to the sample. -/
def reset (session : Session) : Progress := session.update session.state.reset

/-- Whether the template is read as HTML. -/
def isHtml (session : Session) : Bool := session.state.draft.renderMode = .html

/-- Reads the template as HTML or as plain text. -/
def setHtml (session : Session) (html : Bool) : Progress :=
  let mode : RenderMode := if html then .html else .text
  session.update { session.state with draft := { session.state.draft with renderMode := mode } }

/-- Adds a listener. -/
def listen (session : Session) (listener : Listener) : Session :=
  { session with listeners := session.listeners ++ [listener] }

/-! ### Output -/

/-- The text of the output. -/
def outputText (session : Session) : Except ProjectionFault String := session.output.text

/-- The outcome of a view that is run without being selected. -/
def outcomeOf (session : Session) (view : ViewMode) : Outcome Payload :=
  (session.state.draft.derive session.engine view).outcome

end Session

end TemplateWorkbench
