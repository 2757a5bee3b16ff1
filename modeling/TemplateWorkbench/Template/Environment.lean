import TemplateWorkbench.Template.Compile
import TemplateWorkbench.Template.Grammar.Statement
import TemplateWorkbench.Template.Rendering
import TemplateWorkbench.Template.Report

/-!
# Environments

An environment holds templates that have all been compiled.  What goes wrong is reported with the name
and the source of the template that was asked for; but while an environment is made, only the faults
that speak of templates are reported, and all others stay as they are.

The modules of imported templates are kept from one rendering to the next.
-/

namespace TemplateWorkbench.Template

/-- A fault as it comes out of an engine: reported in the engine's words, or as it is. -/
inductive Rejection where
  | reported (text : String)
  | plain (fault : Fault)
deriving Repr

namespace Rejection

/-- The fault of a template, reported if it speaks of templates. -/
def ofFault (fault : Fault) (name source : String) : Rejection :=
  if fault.kind.isTemplateFault then .reported (fault.report (some name) (some source))
  else .plain fault

end Rejection

/-- Templates that have been compiled: their sources, their programs, and the memory of renderings. -/
structure Environment where
  sources : List (String × String)
  library : Library
  memory : Memory := {}
deriving Inhabited

namespace Environment

/-- How a template of an environment is compiled. -/
def settingFor (strict : Bool) (name : String) : Setting :=
  { name, strict, escapes := escapesByName name }

/-- The program of a source under a name. -/
def compileSource (strict : Bool) (name source : String) : Except Fault Program := do
  compileTemplate (settingFor strict name) (← parse source.toList)

/-- Compiles sources one after another, up to the first one that cannot be compiled. -/
def compileAll (strict : Bool) :
    List (String × String) → Except Rejection (List (String × Program))
  | [] => .ok []
  | (name, source) :: rest =>
    match compileSource strict name source with
    | .error fault => .error (.ofFault fault name source)
    | .ok program => (compileAll strict rest).map ((name, program) :: ·)

/-- The environment of some sources, a later one of a name in place of an earlier one. -/
def ofSources (strict : Bool) (sources : List (String × String)) :
    Except Rejection Environment := do
  let sources := Json.lastWins sources
  let programs ← compileAll strict sources
  pure { sources, library := { strict, programs } }

/-- The names of all templates, in order. -/
def names (environment : Environment) : List String :=
  (environment.sources.map (·.1)).mergeSort fun a b => decide (a ≤ b)

/-- The text of a template for a context, or the report of what went wrong; and the environment
after that. -/
def render (environment : Environment) (name : String) (context : Json) :
    Except String String × Environment :=
  match context with
  | .object members =>
    let given := members.map fun (id, value) => (id, Value.ofJson value)
    let computation : Run String := do
      let name ← environment.library.find (.string name)
      environment.library.render name
        (← given.mapM fun (id, value) => do pure (id, ← named value))
    let (result, memory) := (computation.run.run environment.memory)
    let after := { environment with memory }
    match result with
    | .ok text => (.ok text, after)
    | .error fault =>
      (.error (fault.report (some name) (environment.sources.lookup name)), after)
  | other =>
    (.error
      s!"TypeError: template context must be a JSON object, got {other.typeName} (in {name})",
      environment)

end Environment

/-! ### Instructions -/

/-- The name of the routine that renders a template itself. -/
def rootName : String := "<root>"

/-- The names of the routines of a source that is compiled on its own. -/
def routineNames (strict : Bool) (source : String) : Except Fault (List String) := do
  let setting : Setting :=
    { name := anonymousSource, strict, escapes := false, printsConstants := true }
  let program ← compileTemplate setting (← parse source.toList)
  let names := (rootName :: program.blocks.map fun (id, _) => Unicode.normalName id).eraseDups
  pure (names.mergeSort fun a b => decide (a ≤ b))

end TemplateWorkbench.Template
