import TemplateWorkbench.Template.Value.Printing

/-!
# Faults of subscripts

Where a part of a value is asked for directly, what is not there is a fault, and the fault says what
the value could be asked for.
-/

namespace TemplateWorkbench.Template

/-- The name of what a function of every template makes. -/
def Builtin.product : Builtin → String
  | range => "range"
  | dict => "dict"
  | lipsum => "function"
  | cycler => "Cycler"
  | joiner => "Joiner"
  | «namespace» => "Namespace"

namespace Value

/-- The fault of asking for a part of something that has none. -/
def notSubscriptable : Value → Fault
  | builtin .lipsum => typeFault "'function' object is not subscriptable"
  | builtin function => typeFault s!"type '{function.product}' is not subscriptable"
  | value => typeFault s!"'{value.typeName}' object is not subscriptable"

/-- The fault of an element that is not there; `written` is the key in its written form. -/
def elementFault (value key : Value) (written : String) : Fault :=
  let isIndex := key.integer?.isSome
  let indices (what : String) : Fault :=
    typeFault s!"{what} indices must be integers or slices, not {key.typeName}"
  match value with
  | undefined _ absence => absence.fault
  | string _ | markup _ =>
    if isIndex then faultOf .index "string index out of range"
    else typeFault s!"string indices must be integers, not '{key.typeName}'"
  | list _ => if isIndex then faultOf .index "list index out of range" else indices "list"
  | tuple _ | group _ _ =>
    if isIndex then faultOf .index "tuple index out of range" else indices "tuple"
  | range _ _ _ =>
    if isIndex then faultOf .index "range object index out of range" else indices "range"
  | bytes _ => if isIndex then faultOf .index "index out of range" else indices "byte"
  | dict _ | object .templateSelf _ => faultOf .key written
  | other => other.notSubscriptable

/-- The fault of an attribute that is not there. -/
def attributeFault (value : Value) (id : String) : Fault :=
  let message :=
    match value with
    | object .namespace _ => id
    | builtin .lipsum => s!"'function' object has no attribute '{id}'"
    | builtin function => s!"type object '{function.product}' has no attribute '{id}'"
    | _ => s!"'{value.typeName}' object has no attribute '{id}'"
  { kind := .missingAttribute, message, subject := some id }

end Value

end TemplateWorkbench.Template
