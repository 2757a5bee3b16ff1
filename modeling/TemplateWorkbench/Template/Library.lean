import TemplateWorkbench.Template.Iteration
import TemplateWorkbench.Template.Value.Plain

/-!
# Libraries

A library holds compiled templates under their names.  The name of a template decides how it is
printed: names of markup files escape, names of JSON files print every value as JSON text.

A template is asked for by a value, which has to be a name, or by several values, of which the first
name counts that the library knows.
-/

namespace TemplateWorkbench.Template

/-- The file name extensions that stand for markup. -/
def markupExtensions : List String := [".html", ".htm", ".xml"]

/-- The file name extension that stands for JSON. -/
def jsonExtension : String := ".json"

/-- Whether a template of a name escapes what it prints. -/
def escapesByName (name : String) : Bool := markupExtensions.any fun ext => name.endsWith ext

/-- Whether a template of a name prints values as JSON text. -/
def printsJson (name : String) : Bool := name.endsWith jsonExtension

/-- Compiled templates under their names, and how strict they are with missing values. -/
structure Library where
  strict : Bool
  programs : List (String × Program)
deriving Inhabited

namespace Library

/-- The functions that every template can call. -/
def functions : List (String × Value) := [
  ("range", .builtin .range), ("dict", .builtin .dict), ("lipsum", .builtin .lipsum),
  ("cycler", .builtin .cycler), ("joiner", .builtin .joiner), ("namespace", .builtin .namespace)]

/-- The program of a name. -/
def program? (library : Library) (name : String) : Option Program := library.programs.lookup name

/-- The fault of a template that is not there; the name that was asked for is its subject. -/
def notFound (look : Appearance) (asked : Value) : Except Fault Fault := do
  let text ← asked.printed look
  let counts :=
    match asked with
    | .none | .bool false => false
    | .int n => n != 0
    | .double d => !d.isZero
    | _ => true
  pure
    { kind := .templateNotFound, message := text
      subject := if counts && !text.isEmpty then some text else none }

/-- The name of the template that a value asks for. -/
def find (library : Library) (asked : Value) : Run String := do
  Value.asKey asked
  match asked with
  | .undefined _ absence => throw absence.fault
  | asked =>
    match asked.text?.filter fun name => (library.program? name).isSome with
    | some name => pure name
    | none => throw (← notFound (← currentLook) asked)

/-- Whether a fault says that a template or a variable is not there. -/
def isAbsence (fault : Fault) : Bool :=
  fault.kind = .templateNotFound || fault.kind = .templatesNotFound || fault.kind = .undefined

/-- The name of the first template that one of some values asks for and that is there. -/
def findAmong (library : Library) (all : List Value) : List Value → Run String
  | [] => do
    let names ← all.mapM fun value => do
      match value with
      | .undefined _ absence => pure absence.message
      | value => value.printed (← currentLook)
    throw
      { kind := .templatesNotFound
        message := "none of the templates given were found: " ++ ", ".intercalate names
        subject := (all.getLast?.bind Value.text?).filter fun name => !name.isEmpty }
  | asked :: rest =>
    tryCatch (library.find asked) fun fault =>
      if isAbsence fault then findAmong library all rest else throw fault

/-- The name of the template that a value asks for in one of three ways. -/
def select (library : Library) (services : Services) (selection : Selection) (asked : Value) :
    Run String := do
  match selection, asked with
  | .single, _ => library.find asked
  | .byValue, .string _ | .byValue, .markup _ => library.find asked
  | _, .undefined _ absence => throw absence.fault
  | _, asked => do
    if ← services.truth asked then
      let values ← services.items asked
      library.findAmong values values
    else
      throw (faultOf .templatesNotFound "Tried to select from an empty list of templates.")

end Library

end TemplateWorkbench.Template
