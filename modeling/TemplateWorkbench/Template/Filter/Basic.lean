import TemplateWorkbench.Template.Call
import TemplateWorkbench.Template.Operation
import TemplateWorkbench.Text.Search
import TemplateWorkbench.Unicode.Case
import TemplateWorkbench.Unicode.Character

/-!
# Filters

A filter turns a value into another one.  The value is its first argument; the others are given in
brackets after its name.  A filter that needs the context cannot be applied before the template is
rendered.

Many filters look at a part of every item: a path of names and indices leads there.
-/

namespace TemplateWorkbench.Template

/-- A filter: how it takes its arguments, and what it does with them. -/
structure Filter where
  needsContext : Bool := false
  bind : CallArguments → Except Fault Bound
  apply : Services → (escaping : Nat) → Bound → Run Value

/-- A parameter's value. -/
def Bound.value (bound : Bound) (position : Nat) : Value := bound.values[position]?.getD .none

namespace Filter

/-- The parameter that many filters have for what is around them. -/
def surroundings : List String := ["environment"]

/-- A filter with named parameters. -/
def named (signature : Signature) (apply : Services → (escaping : Nat) → Bound → Run Value) :
    Filter where
  bind := signature.bind
  apply := apply

/-- A filter with named parameters that needs the context. -/
def contextual (signature : Signature)
    (apply : Services → (escaping : Nat) → Bound → Run Value) : Filter where
  needsContext := true
  bind := signature.bind
  apply := apply

/-- A filter that takes its subject and nothing else. -/
def single (id : String) (apply : Services → Value → Run Value) : Filter :=
  named { id, required := ["value"] } fun services _ bound => apply services (bound.value 0)

/-- A filter that takes exactly one argument, without a name. -/
def counted (id : String) (apply : Services → Value → Run Value) : Filter where
  bind arguments := do pure { values := [← arguments.exactlyOne id] }
  apply services _ bound := apply services (bound.value 0)

/-- A filter of the text of its subject; markup stays markup. -/
def ofText (id : String) (f : String → String) : Filter :=
  named { id, required := ["s"] } fun services _ bound => do
    match ← services.asText (bound.value 0) with
    | .markup text => pure (.markup (f text))
    | .string text => pure (.string (f text))
    | value => pure value

end Filter

/-- A fault of the arguments of a filter. -/
def argumentFault (message : String) : Fault := faultOf .filterArgument message

/-- The fault of an attribute that a value does not have. -/
def attributeFault (value : Value) (id : String) : Fault :=
  { kind := .missingAttribute
    message := s!"'{value.typeName}' object has no attribute '{id}'"
    subject := some id }

/-! ### Items -/

/-- A text in small letters; any other value as it is. -/
def Value.foldCase : Value → Value
  | string text => string (Unicode.toLower text)
  | markup text => markup (Unicode.toLower text)
  | value => value

/-- One step of a path: an index if it consists of digits. -/
def pathStep (step : String) : Value :=
  if !step.isEmpty && step.toList.all Unicode.isDigit then
    .int (step.toList.foldl (fun n c => n * 10 + (Unicode.digitValue? c).getD 0) 0 : Nat)
  else .string step

/-- The path that a value stands for: steps with points between them, a single step, or none. -/
def pathOf (value : Value) : List Value :=
  match value.text? with
  | some text => (Text.split ['.'] none text.toList).map fun step => pathStep (String.ofList step)
  | none =>
    match value with
    | .none => []
    | value => [value]

/-- The key that an attribute and the wish to tell capitals apart stand for. -/
def ItemKey.of (services : Services) (attribute_ caseSensitive : Value) : Run ItemKey := do
  let ignoresCase := !(← services.truth caseSensitive)
  pure { path := pathOf attribute_, ignoresCase }

namespace Services

variable (services : Services)

/-- What a key reads from an item. -/
def readKey (key : ItemKey) (item : Value) : Run Value := do
  let found ← key.path.foldlM (fun value step => do
    let next ← services.getElement value step
    match key.default with
    | .none => pure next
    | default => pure (if next.isUndefined then default else next)) item
  pure (if key.ignoresCase then found.foldCase else found)

/-- The name that a value chooses a filter or a test by. -/
def chosenName (what : String) (id : Value) : Run String := do
  Value.asKey id
  match id.text?, id with
  | some name, _ => pure name
  | none, .undefined _ absence =>
    throw (faultOf .templateRuntime
      s!"No {what} named Undefined. ({absence.message}; did you forget to quote the callable name?)")
  | none, _ => throw (faultOf .templateRuntime s!"No {what} named {← services.written id}.")

/-- Applies the filter that a value names. -/
def filterBy (escaping : Nat) (id : Value) (arguments : CallArguments) : Run Value := do
  services.filter escaping (← services.chosenName "filter" id) arguments

/-- Applies the test that a value names. -/
def testBy (escaping : Nat) (id : Value) (arguments : CallArguments) : Run Value := do
  services.test escaping (← services.chosenName "test" id) arguments

end Services

end TemplateWorkbench.Template
