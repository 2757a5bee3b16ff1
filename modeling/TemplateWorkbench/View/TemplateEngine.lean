import TemplateWorkbench.Template.Display
import TemplateWorkbench.Template.Environment
import TemplateWorkbench.Template.TokenList
import TemplateWorkbench.View.Outcome

/-!
# The template engine as an engine for views

A template is rendered in an environment of its own.  Tokens, tree and instructions are those of the
source alone, without a name; of the instructions only the names of the routines are shown.
-/

namespace TemplateWorkbench

/-- A fault as a refusal. -/
def Refusal.ofRejection : Template.Rejection → Refusal
  | .reported text => .reported text
  | .plain fault => .unforeseen fault.kind.name fault.message

namespace TemplateEngine

/-- A result on a source without a name, its faults as refusals. -/
def onSource {α : Type} (source : String) (result : Except Template.Fault α) :
    Except Refusal α :=
  result.mapError fun fault =>
    .ofRejection (.ofFault fault Template.anonymousSource source)

/-- The text of a source that is registered under a name. -/
def render (strict : Bool) (name source : String) (context : Json) : Except Refusal String := do
  match Template.Environment.ofSources strict [(name, source)] with
  | .error rejection => .error (.ofRejection rejection)
  | .ok environment =>
    match (environment.render name context).1 with
    | .ok text => .ok text
    | .error message => .error (.reported message)

/-- The tokens of a source. -/
def tokens (source : String) : Except Refusal (List PlacedEntry) := do
  let placed ← onSource source (Template.placedTokens source.toList)
  pure (placed.map fun token =>
    let lexeme := token.token.lexeme
    ⟨match lexeme.payload? with
      | some value => .ofJson lexeme.kindName value
      | none => ⟨lexeme.kindName, none⟩, token.span⟩)

/-- The tree of a source. -/
def tree (source : String) : Except Refusal Tree := do
  pure (Template.displayTree (← onSource source (Template.parse source.toList)))

/-- The names of the routines of a source; faults of written form are reported too. -/
def routineNames (strict : Bool) (source : String) : Except Refusal (List String) :=
  match Template.routineNames strict source with
  | .ok names => .ok names
  | .error fault =>
    if fault.kind.isFormFault then .error (.reported (fault.report none (some source)))
    else onSource source (.error fault)

/-! ### Values in place of sources -/

/-- The refusal to compile what is no text. -/
def notCompiled : Refusal := .unforeseen "TypeError" "Can't compile non template nodes"

/-- The refusal of a value that lacks what texts have. -/
def lacking (value : Json) (member : String) : Refusal :=
  .unforeseen "AttributeError" (value.lacks member)

/-- The tree of a value: of the text that it is written as.  An objection to a line of that text cannot
be told, for the value has no lines. -/
def treeOfValue (value : Json) : Except Refusal Tree :=
  match Template.parse ((Json.quoted? value).getD "").toList with
  | .ok body => .ok (Template.displayTree body)
  | .error fault =>
    if fault.kind.isTemplateFault && fault.line.isSome then .error (lacking value "splitlines")
    else onSource "" (.error fault)

end TemplateEngine

/-- The template engine. -/
def templateEngine (strict : Bool) : Engine where
  render name source context :=
    ⟨match source with
      | .string text => TemplateEngine.render strict name text context
      | _ => .error TemplateEngine.notCompiled, []⟩
  tokens source :=
    ⟨match source with
      | .string text => TemplateEngine.tokens text
      | value => .error (TemplateEngine.lacking value "replace"), []⟩
  tree source :=
    ⟨match source with
      | .string text => TemplateEngine.tree text
      | value => TemplateEngine.treeOfValue value, []⟩
  programs source :=
    ⟨match source with
      | .string text =>
        (TemplateEngine.routineNames strict text).map fun names => names.map fun id => (id, [])
      | _ => .error TemplateEngine.notCompiled, []⟩

end TemplateWorkbench
