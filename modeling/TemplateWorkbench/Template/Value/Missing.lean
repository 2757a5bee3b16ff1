import TemplateWorkbench.Template.Value
import TemplateWorkbench.Template.Fault

/-!
# Missing values

A missing value can be tested, printed as nothing and walked over as if empty; every other use is a
fault that says what is missing.  A strict one cannot even be printed, tested or compared.
-/

namespace TemplateWorkbench.Template

/-- What is said of something that is not there. -/
def Absence.message : Absence → String
  | .variable name => s!"{Text.quote name} is undefined"
  | .attribute owner name => s!"{Text.quote owner} has no attribute {Text.quote name}"
  | .element owner key => s!"{owner} has no element {key}"
  | .hint text => text

/-- The fault of using something that is not there. -/
def Absence.fault (absence : Absence) : Fault := ⟨.undefined, absence.message, none, none⟩

/-- A fault of a kind without a place. -/
def faultOf (kind : FaultKind) (message : String) : Fault := ⟨kind, message, none, none⟩

/-- A fault about types. -/
def typeFault (message : String) : Fault := faultOf .type message

/-- A fault about values. -/
def valueFault (message : String) : Fault := faultOf .value message

/-- A fault about a number that is too large. -/
def overflowFault (message : String) : Fault := faultOf .overflow message

namespace Value

/-- The fault that using the value as if it were there gives, if it is missing. -/
def missingFault? : Value → Option Fault
  | undefined _ absence => some absence.fault
  | _ => Option.none

/-- The fault that testing or comparing the value gives, if it is missing and strict. -/
def strictFault? : Value → Option Fault
  | undefined true absence => some absence.fault
  | _ => Option.none

/-- Stops if one of two operands is missing, the left one first. -/
def present (left right : Value) : Except Fault Unit :=
  match left.missingFault? <|> right.missingFault? with
  | some fault => .error fault
  | Option.none => .ok ()

/-- Stops if one of two operands is missing and strict, the left one first. -/
def comparable (left right : Value) : Except Fault Unit :=
  match left.strictFault? <|> right.strictFault? with
  | some fault => .error fault
  | Option.none => .ok ()

end Value

end TemplateWorkbench.Template
