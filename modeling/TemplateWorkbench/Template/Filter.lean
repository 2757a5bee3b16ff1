import TemplateWorkbench.Template.Filter.Number
import TemplateWorkbench.Template.Filter.Sequence
import TemplateWorkbench.Template.Filter.Stream
import TemplateWorkbench.Template.Filter.Text

/-!
# All filters

The filters that every template can use, by their names.
-/

namespace TemplateWorkbench.Template.Filter

/-- All filters under their names. -/
def all : List (String × Filter) :=
  textFilters ++ numberFilters ++ sequenceFilters ++ streamFilters

/-- The filter of a name. -/
def ofName? (name : String) : Option Filter := all.lookup name

/-- The fault of a name that no filter has. -/
def unknown (name : String) : Fault :=
  faultOf .templateRuntime (Misreading.unknownFilter name).message

/-- Applies the filter of a name. -/
def applyNamed (services : Services) (escaping : Nat) (name : String) (arguments : CallArguments) :
    Run Value := do
  match ofName? name with
  | none => throw (unknown name)
  | some filter => do filter.apply services escaping (← filter.bind arguments)

end TemplateWorkbench.Template.Filter
