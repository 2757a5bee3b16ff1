import TemplateWorkbench.Json.Writer
import TemplateWorkbench.View.Dispatch

/-!
# Edits

What a session shows is decided by its editor state: a draft and the selected view.  An edit changes
one of its fields.  A template is given by its source, and any value is taken as it is.  A context may be
given as text or as a value, which is then written as indented JSON; modes are given by name, and
anything that is no name of a mode changes nothing.

A session that is given no template or no context starts from a sample: a small page and the names
that it mentions.
-/

namespace TemplateWorkbench.Sample

/-- The lines of the sample template. -/
def templateLines : List String := [
  "<nav>",
  "  <ul>",
  "    \x7b%- for item in nav %\x7d",
  "    <li><a href=\"\x7b\x7b item.href \x7d\x7d\">\x7b\x7b item.title \x7d\x7d</a>",
  "    \x7b%- endfor %\x7d",
  "  </ul>",
  "</nav>",
  "<main>",
  "  Hello \x7b\x7b name \x7d\x7d!",
  "</main>"]

/-- The sample template. -/
def template : String := String.join (templateLines.map fun line => line ++ "\n")

/-- A link of the sample context. -/
def link (href title : String) : Json :=
  .object [("href", .string href), ("title", .string title)]

/-- The sample context as a value. -/
def contextValue : Json :=
  .object
    [("name", .string "World"),
      ("nav", .list [link "/" "Index", link "/help" "Help", link "/about" "About"])]

end TemplateWorkbench.Sample

namespace TemplateWorkbench

/-- What has been edited: the draft and the selected view. -/
structure EditorState where
  draft : Draft
  view : ViewMode
deriving Repr

/-- A change of one field of the editor state. -/
inductive Edit where
  | template (source : Json)
  | context (value : Json)
  | renderMode (choice : Json)
  | view (choice : Json)
deriving Repr

/-- Why an edit is not made. -/
inductive EditFault where
  | unknown (choice : UnknownChoice)
  | unwritable (fault : Json.WriteFault)
deriving DecidableEq, Repr

/-- What is said of an edit that is not made. -/
def EditFault.message : EditFault → String
  | unknown choice => choice.message
  | unwritable fault => fault.message

/-- The text of a context that is given as a value: a text stands for itself, and null for the
sample. -/
def contextText : Json → Except Json.WriteFault String
  | .string text => .ok text
  | .null => Json.write .asciiIndented Sample.contextValue
  | value => Json.write .asciiIndented value

/-- The choice that a value makes among those of a kind. -/
def chosen {α : Type} (kind : String) (ofName? : String → Option α) (value : Json) :
    Except UnknownChoice α :=
  let unknown : UnknownChoice := ⟨(Json.quoted? value).getD "", kind⟩
  match value with
  | .string name => (ofName? name).elim (.error unknown) .ok
  | _ => .error unknown

/-- The render mode that a value chooses. -/
def RenderMode.chosenBy : Json → Except UnknownChoice RenderMode := chosen "RenderMode" ofName?

/-- The view that a value chooses. -/
def ViewMode.chosenBy : Json → Except UnknownChoice ViewMode := chosen "ViewMode" ofName?

namespace EditorState

/-- The state after an edit. -/
def edit (state : EditorState) : Edit → Except EditFault EditorState
  | .template source => .ok { state with draft := { state.draft with template := source } }
  | .context value =>
    match contextText value with
    | .ok text => .ok { state with draft := { state.draft with context := text } }
    | .error fault => .error (.unwritable fault)
  | .renderMode choice =>
    match RenderMode.chosenBy choice with
    | .ok mode => .ok { state with draft := { state.draft with renderMode := mode } }
    | .error unknown => .error (.unknown unknown)
  | .view choice =>
    match ViewMode.chosenBy choice with
    | .ok view => .ok { state with view }
    | .error unknown => .error (.unknown unknown)

/-- The state with the sample in place of its template and its context. -/
def reset (state : EditorState) : EditorState :=
  let context := (contextText .null).toOption.getD ""
  { state with draft := { state.draft with template := .string Sample.template, context } }

/-- The members of a state as plain data. -/
def members (state : EditorState) : List (String × Json) :=
  [("template", state.draft.template), ("template_context", .string state.draft.context),
    ("render_mode", .string state.draft.renderMode.name), ("view_mode", .string state.view.name)]

end EditorState

/-- The edit that a member of a batch of changes stands for, if it stands for one. -/
def Edit.ofMember? (name : String) (value : Json) : Option Edit :=
  match name with
  | "template" => some (.template value)
  | "template_context" => some (.context value)
  | "render_mode" => some (.renderMode value)
  | "view_mode" => some (.view value)
  | _ => none

/-- The edits of a batch of changes, in its order. -/
def Edit.ofMembers (members : List (String × Json)) : List Edit :=
  members.filterMap fun (name, value) => ofMember? name value

end TemplateWorkbench
