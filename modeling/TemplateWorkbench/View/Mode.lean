import TemplateWorkbench.Text.Quoted

/-!
# Modes

A template is read in one of three render modes, which decides under which name it is registered,
and shown in one of four views.  Modes are chosen by their names.
-/

namespace TemplateWorkbench

/-- How a template is interpreted. -/
inductive RenderMode where
  | html | text | json
deriving DecidableEq, Repr, Inhabited

/-- Which view of a template is shown. -/
inductive ViewMode where
  | render | tokens | ast | instructions
deriving DecidableEq, Repr, Inhabited

namespace RenderMode

/-- All render modes. -/
def all : List RenderMode := [html, text, json]

/-- The name of a render mode. -/
def name : RenderMode → String
  | html => "html"
  | text => "text"
  | json => "json"

/-- The file name extension that stands for a render mode. -/
def extension : RenderMode → String
  | html => "html"
  | text => "txt"
  | json => "json"

/-- The name under which a template is registered. -/
def templateName (mode : RenderMode) : String := "template." ++ mode.extension

/-- The render mode of a name. -/
def ofName? (name : String) : Option RenderMode := all.find? (·.name == name)

end RenderMode

namespace ViewMode

/-- All views, in the order in which they are offered. -/
def all : List ViewMode := [render, tokens, ast, instructions]

/-- The name of a view. -/
def name : ViewMode → String
  | render => "render"
  | tokens => "tokens"
  | ast => "ast"
  | instructions => "instructions"

/-- What a view is called where it is offered. -/
def label : ViewMode → String
  | render => "Render"
  | tokens => "Tokens"
  | ast => "AST"
  | instructions => "Instructions"

/-- The view of a name. -/
def ofName? (name : String) : Option ViewMode := all.find? (·.name == name)

/-- Whether a view depends on the context. -/
def usesContext : ViewMode → Bool
  | render => true
  | _ => false

end ViewMode

/-- A choice that is none of those offered: what was given, as it is written, and what it should
have been. -/
structure UnknownChoice where
  written : String
  kind : String
deriving DecidableEq, Repr

/-- What is said of an unknown choice. -/
def UnknownChoice.message (choice : UnknownChoice) : String :=
  s!"{choice.written} is not a valid {choice.kind}"

/-- The render mode of a name, or the complaint about the name. -/
def RenderMode.ofName (name : String) : Except UnknownChoice RenderMode :=
  match ofName? name with
  | some mode => .ok mode
  | none => .error ⟨Text.quote name, "RenderMode"⟩

/-- The view of a name, or the complaint about the name. -/
def ViewMode.ofName (name : String) : Except UnknownChoice ViewMode :=
  match ofName? name with
  | some mode => .ok mode
  | none => .error ⟨Text.quote name, "ViewMode"⟩

end TemplateWorkbench
