import TemplateWorkbench.Outline.Tree
import TemplateWorkbench.Text.Lines
import TemplateWorkbench.View.Mode

/-!
# Outcomes

An engine answers questions about a template, and what a view shows comes of its answers.
-/

namespace TemplateWorkbench

/-!
## What the views show

The rendered text, the tokens with their spans, the syntax tree, or the instructions of each block.
Tokens and instructions are entries: a label and perhaps a value.
-/

/-- A labelled entry with an optional value; a null is no value. -/
structure Entry where
  label : String
  value : Option Json
deriving Repr

namespace Entry

/-- An entry whose value may be null. -/
def ofJson (label : String) (value : Json) : Entry :=
  ⟨label, if value.isNull then none else some value⟩

/-- The entry as an object, with given names for label and value. -/
def toJson (entry : Entry) (labelName valueName : String) : Json :=
  .object ((labelName, .string entry.label) ::
    match entry.value with
    | some value => [(valueName, value)]
    | none => [])

/-- A token as an object. -/
def tokenJson (entry : Entry) : Json := entry.toJson "name" "payload"

/-- An instruction as an object. -/
def instructionJson (entry : Entry) : Json := entry.toJson "op" "arg"

end Entry

/-- A span as an object. -/
def Text.Span.toJson (span : Text.Span) : Json :=
  .object
    [("start_line", .int span.startLine), ("start_col", .int span.startColumn),
      ("end_line", .int span.endLine), ("end_col", .int span.endColumn)]

/-- A token with its span. -/
structure PlacedEntry where
  entry : Entry
  span : Text.Span
deriving Repr

/-- The instructions of each block. -/
abbrev Programs := List (String × List Entry)

/-- Programs in the order of the names of their blocks. -/
def Programs.sorted (programs : Programs) : Programs :=
  programs.mergeSort fun a b => decide (a.1 ≤ b.1)

/-- What a view shows. -/
inductive Payload where
  | rendered (text : String)
  | tokens (entries : List PlacedEntry)
  | tree (tree : Tree)
  | programs (blocks : Programs)

/-- Why a payload cannot be written out. -/
inductive ProjectionFault where
  | unwritable (fault : Json.WriteFault)
  | nestedNode
deriving DecidableEq, Repr

/-- What is said of a payload that cannot be written out. -/
def ProjectionFault.message : ProjectionFault → String
  | .unwritable fault => fault.message
  | .nestedNode => Tree.OutlineFault.nestedNode.message

/-- The fault of a tree without an outline. -/
def ProjectionFault.ofOutline : Tree.OutlineFault → ProjectionFault
  | .nestedNode => .nestedNode
  | .unwritable fault => .unwritable fault

/-- A value on one line. -/
def valueText (value : Json) : Except ProjectionFault String :=
  match Json.line value with
  | .ok text => .ok text
  | .error fault => .error (.unwritable fault)

/-- The outline of a tree. -/
def outlineText (tree : Tree) : Except ProjectionFault String :=
  match tree.outline with
  | .ok text => .ok text
  | .error fault => .error (.ofOutline fault)

/-!
## Outcomes

What comes of deriving a view: the payload, or a message about the engine or about the context.
-/

/-- The outcome of deriving a view. -/
inductive Outcome (α : Type) where
  | success (payload : α)
  | engineError (message : String)
  | contextError (message : String)
deriving Repr

/-- The kinds of outcomes. -/
inductive OutcomeKind where
  | success | engineError | contextError
deriving DecidableEq, Repr

namespace OutcomeKind

/-- The name of a kind of outcome. -/
def name : OutcomeKind → String
  | success => "success"
  | engineError => "engine_error"
  | contextError => "context_error"

/-- The style class of a kind of outcome. -/
def styleClass : OutcomeKind → String
  | success => "tpg-output-ok"
  | engineError => "tpg-output-error"
  | contextError => "tpg-output-context-error"

/-- The background of a kind of outcome. -/
def background : OutcomeKind → String
  | success => "rgb(41, 74, 119)"
  | engineError => "#590523"
  | contextError => "#5C3D00"

/-- All kinds of outcomes. -/
def all : List OutcomeKind := [success, engineError, contextError]

end OutcomeKind

namespace Outcome

variable {α : Type}

/-- The kind of an outcome. -/
def kind : Outcome α → OutcomeKind
  | success _ => .success
  | engineError _ => .engineError
  | contextError _ => .contextError

/-- The message of an outcome, empty for a success. -/
def message : Outcome α → String
  | success _ => ""
  | engineError message => message
  | contextError message => message

/-- The payload of a success. -/
def payload? : Outcome α → Option α
  | success payload => some payload
  | _ => none

/-- Whether the outcome is a success. -/
def isSuccess (outcome : Outcome α) : Bool := outcome.payload?.isSome

/-- The outcome with its payload changed. -/
def map {β : Type} (f : α → β) : Outcome α → Outcome β
  | success payload => success (f payload)
  | engineError message => engineError message
  | contextError message => contextError message

end Outcome

/-!
## Engines

An engine answers four questions about a template, each on its own and without memory of the others:
what it renders to, its tokens, its tree and its instructions.  A template is given by its source, which
is a text; but whatever value has been put in its place is handed to the engine, which may refuse it.

A refusal is one that the engine reports in its own words, one that blames the context, or one that no
engine should give.

An engine may keep a record of what it is asked; the answer carries what was added to it.
-/

/-- Why an engine does not answer. -/
inductive Refusal where
  | reported (message : String)
  | badContext (message : String)
  | unforeseen (kind message : String)
deriving DecidableEq, Repr

/-- An answer and what was recorded of the question. -/
structure Answer (α : Type) where
  result : Except Refusal α
  record : List String := []

/-- A template engine. -/
structure Engine where
  /-- The text of the template registered under a name with a source, for a context. -/
  render : (name : String) → (source : Json) → (context : Json) → Answer String
  tokens : (source : Json) → Answer (List PlacedEntry)
  tree : (source : Json) → Answer Tree
  programs : (source : Json) → Answer Programs

/-- An answer with its result changed. -/
def Answer.map {α β : Type} (f : α → β) (answer : Answer α) : Answer β :=
  ⟨answer.result.map f, answer.record⟩

end TemplateWorkbench
