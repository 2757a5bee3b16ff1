import TemplateWorkbench.Number.Double

/-!
# JSON values

Integers and doubles are kept apart, integers have any size, and doubles may be infinite or no
number.  An object is the list of its members in the order in which their names first came up.
-/

namespace TemplateWorkbench

/-- A JSON value. -/
inductive Json where
  | null
  | bool (value : Bool)
  | int (value : Int)
  | double (value : Double)
  | string (value : String)
  | list (items : List Json)
  | object (members : List (String × Json))
deriving Repr, Inhabited

namespace Json

/-- An association list with one entry's value replaced, or with the entry added at the end. -/
def putMember {α β : Type} [BEq α] (name : α) (value : β) : List (α × β) → List (α × β)
  | [] => [(name, value)]
  | (other, old) :: rest =>
    if other == name then (other, value) :: rest else (other, old) :: putMember name value rest

/-- The members with later values put in the places of earlier ones of the same name. -/
def lastWins {α β : Type} [BEq α] (members : List (α × β)) : List (α × β) :=
  members.foldl (fun kept member => putMember member.1 member.2 kept) []

/-- The member of a name. -/
def member? (name : String) : Json → Option Json
  | object members => members.lookup name
  | _ => none

/-- How a message names the kind of a value. -/
def typeName : Json → String
  | null => "NoneType"
  | bool _ => "bool"
  | int _ => "int"
  | double _ => "float"
  | string _ => "str"
  | list _ => "list"
  | object _ => "dict"

/-- What is said of a value that is asked for an attribute that values of its kind do not have. -/
def lacks (value : Json) (member : String) : String :=
  s!"'{value.typeName}' object has no attribute '{member}'"

/-- Whether the value is null. -/
def isNull : Json → Bool
  | null => true
  | _ => false

end Json

end TemplateWorkbench
