import TemplateWorkbench.Json.Reader
import TemplateWorkbench.Logging.Message
import TemplateWorkbench.View.Outcome

/-!
# Deriving views

A view is derived from the template, the text of the context and the render mode.  Only rendering
needs the context, which is given as JSON text, and a text that denotes none is settled before the engine is
asked.  Every refusal of the engine becomes an outcome, and what is no success is logged.

The dispatcher remembers which view is selected and nothing else.
-/

namespace TemplateWorkbench

/-- The context that a text denotes, or what is said of a text that denotes none. -/
def parseContext (text : String) : Except String Json :=
  match Json.read text with
  | .ok value => .ok value
  | .error fault => .error ("Invalid JSON context: " ++ fault.message text)

/-- What a view is derived from. -/
structure Draft where
  /-- The source of the template: a text, unless something else has been put in its place. -/
  template : Json
  context : String
  renderMode : RenderMode
deriving Repr

/-- A derived view: the outcome, the messages logged and what the engine recorded. -/
structure Derivation where
  outcome : Outcome Payload
  log : List LogMessage
  record : List String

namespace Draft

/-- The answer of the engine for a view, or the complaint about the context. -/
def ask (draft : Draft) (engine : Engine) : ViewMode → Answer Payload
  | .render =>
    match parseContext draft.context with
    | .error message => ⟨.error (.badContext message), []⟩
    | .ok context =>
      (engine.render draft.renderMode.templateName draft.template context).map .rendered
  | .tokens => (engine.tokens draft.template).map .tokens
  | .ast => (engine.tree draft.template).map .tree
  | .instructions =>
    (engine.programs draft.template).map fun programs => .programs programs.sorted

end Draft

/-- The outcome that an answer is. -/
def Outcome.ofResult : Except Refusal Payload → Outcome Payload
  | .ok payload => .success payload
  | .error (.reported message) => .engineError message
  | .error (.badContext message) => .contextError message
  | .error (.unforeseen kind message) => .engineError s!"{kind}: {message}"

/-- What is logged about the result of a view. -/
def resultLog (view : ViewMode) (result : Except Refusal Payload) : List LogMessage :=
  let unforeseen : List LogMessage :=
    match result with
    | .error (.unforeseen _ _) =>
      [⟨.error, "core.outputs", s!"Unexpected failure in {view.name} view"⟩]
    | _ => []
  let failed : List LogMessage :=
    match result with
    | .ok _ => []
    | .error _ =>
      [⟨.debug, "core.outputs", s!"{view.name} view failed: {(Outcome.ofResult result).message}"⟩]
  unforeseen ++ failed

/-- Derives a view. -/
def Draft.derive (draft : Draft) (engine : Engine) (view : ViewMode) : Derivation :=
  let answer := draft.ask engine view
  ⟨.ofResult answer.result, resultLog view answer.result, answer.record⟩

/-- A dispatcher: an engine and the selected view. -/
structure Dispatcher where
  engine : Engine
  mode : ViewMode

namespace Dispatcher

/-- Selects the view of a name; a name that is none changes nothing. -/
def select (dispatcher : Dispatcher) (name : String) : Except UnknownChoice Dispatcher := do
  pure { dispatcher with mode := ← ViewMode.ofName name }

/-- Derives the given view, or the selected one. -/
def dispatch (dispatcher : Dispatcher) (draft : Draft) (view : Option ViewMode) : Derivation :=
  draft.derive dispatcher.engine (view.getD dispatcher.mode)

end Dispatcher

end TemplateWorkbench
