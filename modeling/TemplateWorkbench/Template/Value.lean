import TemplateWorkbench.Number.Complex

/-!
# Values

The values that expressions of a template have.  Plain data is immutable and stands for itself; what
has a state of its own, such as a loop or a counter shared between scopes, lives in the memory of a
rendering and is a value by its address.  A value that is not there is a value too: it knows what was
asked for, and whether it may be printed.
-/

namespace TemplateWorkbench.Template

/-- What was asked for and is not there. -/
inductive Absence where
  | variable (name : String)
  | attribute (owner name : String)
  | element (owner key : String)
  | hint (text : String)
deriving DecidableEq, Repr, Inhabited

/-- The functions that every template can call. -/
inductive Builtin where
  | range | dict | lipsum | cycler | joiner | namespace
deriving DecidableEq, Repr, Inhabited

/-- The three views of a dictionary. -/
inductive DictPart where
  | keys | values | items
deriving DecidableEq, Repr, Inhabited

/-- What lives at an address. -/
inductive ObjectKind where
  | namespace
  | cycler
  | joiner
  | loop
  | macroDef
  | stream (iterator : String)
  | module
  | templateSelf
  | block
deriving DecidableEq, Repr, Inhabited

/-- A value of an expression. -/
inductive Value where
  | none
  | bool (value : Bool)
  | int (value : Int)
  | double (value : Double)
  /-- A double that is no number and has a name: only so it is one and the same with itself. -/
  | nan (name : Nat)
  | complex (value : Complex)
  | string (text : String)
  /-- Text that counts as markup and is not escaped again. -/
  | markup (text : String)
  | bytes (octets : List UInt8)
  | list (items : List Value)
  | tuple (items : List Value)
  /-- A group of items that share a key. -/
  | group (key : Value) (members : List Value)
  | dict (entries : List (Value × Value))
  | set (frozen : Bool) (members : List Value)
  | range (start stop step : Int)
  | view (part : DictPart) (entries : List (Value × Value))
  | undefined (strict : Bool) (absence : Absence)
  | builtin (function : Builtin)
  | method (receiver : Value) (name : String)
  | object (kind : ObjectKind) (address : Nat)
  /-- Something known only by its type and by how it is written. -/
  | foreign (type written : String)
deriving Repr, Inhabited

namespace Value

/-- The name of a value's type. -/
def typeName : Value → String
  | none => "NoneType"
  | bool _ => "bool"
  | int _ => "int"
  | double _ | nan _ => "float"
  | complex _ => "complex"
  | string _ => "str"
  | markup _ => "Markup"
  | bytes _ => "bytes"
  | list _ => "list"
  | tuple _ => "tuple"
  | group _ _ => "_GroupTuple"
  | dict _ => "dict"
  | set true _ => "frozenset"
  | set false _ => "set"
  | range _ _ _ => "range"
  | view .keys _ => "dict_keys"
  | view .values _ => "dict_values"
  | view .items _ => "dict_items"
  | undefined true _ => "StrictUndefined"
  | undefined false _ => "Undefined"
  | builtin .lipsum => "function"
  | builtin _ => "type"
  | method (object _ _) _ => "method"
  | method _ _ => "builtin_function_or_method"
  | object .namespace _ => "Namespace"
  | object .cycler _ => "Cycler"
  | object .joiner _ => "Joiner"
  | object .loop _ => "LoopContext"
  | object .macroDef _ => "Macro"
  | object (.stream iterator) _ => iterator
  | object .module _ => "TemplateModule"
  | object .templateSelf _ => "TemplateReference"
  | object .block _ => "BlockReference"
  | foreign type _ => type

/-- The place a type belongs to, for the types that are not basic ones. -/
def typeHome : Value → String
  | markup _ => "markupsafe."
  | group _ _ => "jinja2.filters."
  | undefined _ _ => "jinja2.runtime."
  | object .namespace _ | object .cycler _ | object .joiner _ => "jinja2.utils."
  | object .loop _ | object .macroDef _ | object .templateSelf _ | object .block _ =>
    "jinja2.runtime."
  | object .module _ => "jinja2.environment."
  | _ => ""

/-- How a message speaks of the owner of a missing attribute. -/
def owner : Value → String
  | none => "None"
  | value => s!"{value.typeHome}{value.typeName} object"

/-- The characters of a text value, plain or markup. -/
def text? : Value → Option String
  | string text => some text
  | markup text => some text
  | _ => Option.none

/-- Whether the value is a text, plain or markup. -/
def isText (value : Value) : Bool := value.text?.isSome

/-- Whether the value stands for something missing. -/
def isUndefined : Value → Bool
  | undefined _ _ => true
  | _ => false

/-- The integer that a truth value or an integer is. -/
def integer? : Value → Option Int
  | bool value => some (if value then 1 else 0)
  | int value => some value
  | _ => Option.none

end Value

end TemplateWorkbench.Template

/-!
## Naming what is no number

A double that is no number is not equal to itself.  Containers still find it, as long as it is one and
the same, and it is from the moment on that it is put somewhere.  There it gets a name.
-/

namespace TemplateWorkbench.Template.Value

mutual

/-- Whether there is something to be named in a value. -/
def needsNames : Value → Bool
  | double .nan => true
  | list items | tuple items | set _ items => anyNeedsNames items
  | group key members => needsNames key || anyNeedsNames members
  | dict entries => anyEntryNeedsNames entries
  | _ => false

/-- Whether there is something to be named in values. -/
def anyNeedsNames : List Value → Bool
  | [] => false
  | item :: rest => needsNames item || anyNeedsNames rest

/-- Whether there is something to be named in entries. -/
def anyEntryNeedsNames : List (Value × Value) → Bool
  | [] => false
  | (key, value) :: rest => needsNames key || needsNames value || anyEntryNeedsNames rest

end

mutual

/-- A value with everything in it named, in a state that holds the next name. -/
def giveNames : Value → StateM Nat Value
  | double .nan => modifyGet fun next => (nan next, next + 1)
  | list items => do pure (list (← giveAllNames items))
  | tuple items => do pure (tuple (← giveAllNames items))
  | set frozen members => do pure (set frozen (← giveAllNames members))
  | group key members => do
    let key ← giveNames key
    pure (group key (← giveAllNames members))
  | dict entries => do pure (dict (← giveEntryNames entries))
  | value => pure value

/-- Values with everything in them named. -/
def giveAllNames : List Value → StateM Nat (List Value)
  | [] => pure []
  | item :: rest => do
    let item ← giveNames item
    pure (item :: (← giveAllNames rest))

/-- Entries with everything in them named. -/
def giveEntryNames : List (Value × Value) → StateM Nat (List (Value × Value))
  | [] => pure []
  | (key, value) :: rest => do
    let key ← giveNames key
    let value ← giveNames value
    pure ((key, value) :: (← giveEntryNames rest))

end

end TemplateWorkbench.Template.Value
