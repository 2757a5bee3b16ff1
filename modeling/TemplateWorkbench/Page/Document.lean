import TemplateWorkbench.Markup.Basic
import TemplateWorkbench.Page.Script
import TemplateWorkbench.Page.StyleSheet
import TemplateWorkbench.Session.Basic
import TemplateWorkbench.Text.Search
import TemplateWorkbench.Unicode.Case

/-!
# The page

A session is shown as one element with a style sheet, a header, the two editors, an output pane for
every view, the editor state for the script, and the script.  All views are written, so that the
browser can switch between them; all but the selected one are hidden.
-/

namespace TemplateWorkbench

/-- Why a page cannot be written. -/
inductive PageFault where
  /-- The template is no text, so that no editor can show it. -/
  | template (source : Json)
  | projection (fault : ProjectionFault)
  | state (fault : Json.WriteFault)
deriving Repr

/-- What is said of a page that cannot be written. -/
def PageFault.message : PageFault → String
  | template source => source.lacks "replace"
  | projection fault => fault.message
  | state fault => fault.message

namespace Page

/-- The name of a part of a page. -/
def partName (part uid : String) : String := s!"tpg-{part}-{uid}"

/-! ### Header -/

/-- A render mode as an option. -/
def modeOption (selected mode : RenderMode) : Markup :=
  let mark : List MarkupAttribute := if mode = selected then [⟨"selected", none⟩] else []
  .element "option" (.of "value" mode.name :: mark) [.text (Unicode.toUpper mode.name)]

/-- A view as a button. -/
def viewButton (selected view : ViewMode) : Markup :=
  let active := if view = selected then " tpg-active" else ""
  .element "button"
    [.classes s!"tpg-btn tpg-view-btn{active}", .of "data-view" view.name] [.text view.label]

/-- The header: the title, the choice of the render mode and the buttons of the views. -/
def header (session : Session) (uid : String) : Markup :=
  let state := session.state
  .element "div" [.classes "tpg-header"]
    [.element "span" [.classes "tpg-title"] [.text "Template Playground"],
      .element "div" [.classes "tpg-controls"]
        (.element "select" [.classes "tpg-btn", .id (partName "render-mode" uid)]
            (RenderMode.all.map (modeOption state.draft.renderMode)) ::
          ViewMode.all.map (viewButton state.view))]

/-! ### Editors -/

/-- The style of an item of the row of editors, by the item's name. -/
def flexStyle (width : Int) (id : String) : String :=
  match (horizontalLayout width).find? (·.id == id) with
  | some item => s!"flex:{item.grow} 0 {item.basisText};"
  | none => ""

/-- The height of the row of editors. -/
def editorsHeight (outputHeight : Int) : Int :=
  (((verticalLayout outputHeight totalHeight).find? (·.id == "editors")).map (·.height)).getD 0

/-- An editor with a text. -/
def editor (classes id content : String) : Markup :=
  .element "textarea" [.classes classes, .id id, .of "spellcheck" "false"] [.text content]

/-- The integer that a pane's size is. -/
def sizeOf (divider : Divider) : Int := (divider.size.truncate).toOption.getD 0

/-- The two editors and the divider between them. -/
def editors (session : Session) (uid : String) : Except PageFault Markup := do
  let width := sizeOf session.layout.context
  let draft := session.state.draft
  let template ←
    match draft.template with
    | .string text => .ok text
    | value => .error (.template value)
  pure <| .element "div"
    [.classes "tpg-editors", .id (partName "editors" uid),
      .of "style" s!"height:{pixels (editorsHeight (sizeOf session.layout.output))};"]
    [.element "div" [.classes "tpg-pane", .of "style" (flexStyle width "template")]
        [editor "tpg-editor" (partName "template" uid) template],
      .element "div"
        [.classes "tpg-divider tpg-divider-x", .id (partName "xdivider" uid),
          .of "style" (flexStyle width "divider")] [],
      .element "div"
        [.classes "tpg-pane", .id (partName "context-pane" uid),
          .of "style" (flexStyle width "context")]
        [editor "tpg-editor tpg-context-editor" (partName "context" uid) draft.context]]

/-! ### Output -/

/-- What is shown once the editors in the browser have been changed. -/
def staleText : String :=
  "Edited in the browser. Call apply_changes() and display again to refresh."

/-- The pane of a view. -/
def outputPane (session : Session) (view : ViewMode) : Except ProjectionFault Markup := do
  let selected : Bool := view = session.state.view
  let outcome := if selected then session.output else session.outcomeOf view
  let content ← outcome.markup view
  let hidden := if selected then "" else "display:none;"
  pure
    (.element "div"
      [.classes s!"tpg-output-pane tpg-{outcome.kind.name}", .of "data-pane" view.name,
        .of "style" s!"height:{pixels (sizeOf session.layout.output)};{hidden}"]
      [content])

/-- The panes of all views. -/
def outputs (session : Session) (uid : String) : Except ProjectionFault Markup := do
  let panes ← ViewMode.all.mapM (outputPane session)
  let stale := Markup.element "div"
    [.classes "tpg-stale", .id (partName "stale" uid), .of "style" "display:none;"]
    [.text staleText]
  pure (.element "div" [.classes "tpg-outputs", .id (partName "outputs" uid)] (stale :: panes))

/-! ### State -/

/-- The state that the script starts from. -/
def embeddedState (session : Session) : Json :=
  let layout := session.layout
  .object
    (session.state.members ++
      [("namespace", .string ((layout.store.map (·.space)).getD "")),
        ("context_width", layout.context.size.toJson), ("output_height", layout.output.size.toJson),
        ("min_size", .int layout.context.minSize), ("width_key", .string layout.context.key),
        ("height_key", .string layout.output.key), ("total_height", .int totalHeight)])

/-- A text in which no tag is closed: a slash after an angle bracket is escaped. -/
def guardClosing (text : String) : String :=
  String.ofList (Text.replace "</".toList "<\\/".toList none text.toList)

/-- The script that holds the state. -/
def stateScript (session : Session) (uid : String) : Except Json.WriteFault Markup := do
  let payload ← Json.line (embeddedState session)
  pure (.element "script" [] [.verbatim s!"var tpgState_{uid} = {guardClosing payload};"])

/-! ### Document -/

/-- The style sheet of a session. -/
def sheet (session : Session) (uid : String) : String :=
  styleSheet uid session.config.fontSize session.config.tabSize

/-- The script of a session. -/
def code (session : Session) (uid : String) : String := script uid session.config.tabSize

/-- The whole page. -/
def document (session : Session) (uid : String) : Except PageFault Markup := do
  let editors ← editors session uid
  let outputs ← (outputs session uid).mapError .projection
  let state ← (stateScript session uid).mapError .state
  let divider := Markup.element "div"
    [.classes "tpg-divider tpg-divider-y", .id (partName "ydivider" uid)] []
  let parts : List Markup :=
    [.element "style" [] [.verbatim (sheet session uid)], header session uid,
      editors, divider, outputs, state,
      .element "script" [] [.verbatim (code session uid)]]
  pure
    (.element "div" [.id (elementName uid), .classes "tpg-container"]
      (.lineBreak :: (parts.intersperse .lineBreak ++ [.lineBreak])))

end Page

end TemplateWorkbench
