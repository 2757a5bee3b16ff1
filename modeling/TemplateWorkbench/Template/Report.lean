import TemplateWorkbench.Template.Fault
import TemplateWorkbench.Text.Lines
import TemplateWorkbench.Text.Quoted

/-!
# Reports

A fault is reported in one line of text that names its kind, its wording and its place, followed by
the line of the source that it speaks of, if there is one.
-/

namespace TemplateWorkbench.Template

/-- The name of a source that has none. -/
def anonymousSource : String := "<string>"

/-- A text unless it is missing or empty. -/
def presentText? (text : Option String) : Option String := text.filter fun t => !t.isEmpty

/-- A line number, set to the right of four columns. -/
def lineLabel (line : Int) : String :=
  let digits := Number.integerText line
  String.ofList (List.replicate (4 - digits.length) ' ') ++ digits

/-- The line of a source that a report quotes. -/
def quotedLine? (source : String) (line : Int) : Option String :=
  if line ≤ 0 then none
  else ((Text.splitLines source.toList)[line.toNat - 1]?).map String.ofList

/-- The text of a report. -/
def reportText (kind wording name : String) (line : Option Int) (source : Option String) :
    String :=
  match line.filter (· != 0) with
  | none => s!"{kind}: {wording} (in {name})"
  | some line =>
    let head := s!"{kind}: {wording} (in {name}:{line})"
    match source.bind (quotedLine? · line) with
    | some quoted => s!"{head}\n\n{lineLabel line} > {quoted}"
    | none => head

/-- A fault as it is told by others: its kind by name, and what else is known of it. -/
structure Diagnostic where
  kind : String
  message : Option String
  line : Option Int
  name : Option String
deriving DecidableEq, Repr

namespace Diagnostic

/-- The place that an objection to a template names when it has no words. -/
def bareLocation (diagnostic : Diagnostic) : String :=
  let line := (diagnostic.line.map Number.integerText).getD "None"
  match presentText? diagnostic.name with
  | some name => s!"\n  File \"{name}\", line {line}"
  | none => s!"\n  line {line}"

/-- What a diagnostic says before an empty wording is replaced. -/
def spoken (diagnostic : Diagnostic) : String :=
  if diagnostic.kind == FaultKind.key.name then
    (diagnostic.message.map Text.quote).getD ""
  else if diagnostic.kind == FaultKind.templateSyntax.name ||
      diagnostic.kind == FaultKind.templateAssertion.name then
    (presentText? diagnostic.message).getD diagnostic.bareLocation
  else if diagnostic.kind == FaultKind.templateNotFound.name then
    (diagnostic.message <|> diagnostic.name).getD "None"
  else if diagnostic.kind == FaultKind.undefined.name ||
      diagnostic.kind == FaultKind.templateRuntime.name ||
      diagnostic.kind == FaultKind.filterArgument.name then
    diagnostic.message.getD "None"
  else diagnostic.message.getD ""

/-- The wording of a diagnostic: what it says, or else its kind. -/
def wording (diagnostic : Diagnostic) : String :=
  (presentText? (some diagnostic.spoken)).getD diagnostic.kind

/-- The report of a diagnostic; its own name goes before the name that is given. -/
def report (diagnostic : Diagnostic) (name source : Option String) : String :=
  let shown := (presentText? diagnostic.name <|> presentText? name).getD anonymousSource
  reportText diagnostic.kind diagnostic.wording shown diagnostic.line source

end Diagnostic

/-- The report of a fault; the name of what is missing goes before the name that is given. -/
def Fault.report (fault : Fault) (name source : Option String) : String :=
  let wording := (presentText? (some fault.message)).getD fault.kind.name
  let shown := (presentText? fault.subject <|> presentText? name).getD anonymousSource
  reportText fault.kind.name wording shown (fault.line.map Int.ofNat) source

end TemplateWorkbench.Template
