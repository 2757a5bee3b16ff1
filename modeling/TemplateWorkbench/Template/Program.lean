import TemplateWorkbench.Template.Syntax
import TemplateWorkbench.Unicode.Normal

/-!
# Programs

A program is what a template is compiled to.  Names have become slots, constant expressions have been
evaluated, and every step knows the line that its faults are reported at.  A program has a root
routine, which renders the template itself, and a routine for every block.

A slot is the place of a variable: the name in its normal form, and how deeply the scope is nested
that it belongs to.  The context knows variables by their names as they are written.  Entering a scope
sets its slots up: from the context, as a copy of an outer slot, or with nothing.
-/

namespace TemplateWorkbench.Template

/-- The place of a variable. -/
structure Slot where
  level : Nat
  name : String
deriving DecidableEq, Repr, Inhabited

/-- The slot of a name at a level. -/
def Slot.ofName (level : Nat) (name : String) : Slot := ⟨level, Unicode.normalName name⟩

/-- What a slot holds when its scope is entered. -/
inductive Origin where
  /-- What the context has under a name. -/
  | context (id : String)
  /-- What an outer slot holds. -/
  | copy (source : Slot)
  | nothing
  /-- What has been put there from outside. -/
  | given
deriving DecidableEq, Repr, Inhabited

/-- The slots of a scope in the order in which they are set up. -/
abbrev ScopePlan := List (Slot × Origin)

/-- How printed text is escaped: by what is known at compile time, or as the context says. -/
inductive Escaping where
  | never | always | asContext
deriving DecidableEq, Repr, Inhabited

/-- Whether names for templates are a single one, a list of alternatives, or decided by the value. -/
inductive Selection where
  | single | alternatives | byValue
deriving DecidableEq, Repr, Inhabited

mutual

/-- An expression with its names resolved. -/
inductive Term where
  | const (value : Value)
  /-- A name that nothing binds. -/
  | unbound (id : String)
  /-- Template data whose escaping is decided by the context. -/
  | data (text : String)
  /-- What a slot holds; if that is nothing, the missing variable of the name. -/
  | slot (slot : Slot) (id : String)
  | tuple (items : List Term)
  | list (items : List Term)
  | dict (entries : List (Term × Term))
  | conditional (test whenTrue : Term) (whenFalse : Option Term) (hint : String)
  | binary (op : BinaryOp) (left right : Term)
  | unary (op : UnaryOp) (operand : Term)
  | compare (first : Term) (others : List (CompareOp × Term))
  | concat (escaping : Escaping) (parts : List Term)
  | attribute (object : Term) (id : String)
  | element (object index : Term)
  | slice (object : Term) (start stop step : Option Term)
  | call (function : Term) (arguments : TermArguments) (withCaller : Bool)
  /-- The text that the block around the expression has captured. -/
  | captured (escaping : Escaping)
  | filter (subject : Term) (id : String) (arguments : TermArguments)
  | test (subject : Term) (id : String) (arguments : TermArguments)

/-- The arguments of a call: positional ones, keywords, and a sequence and a mapping of more. -/
inductive TermArguments where
  | mk (positional : List Term) (keywords : List (String × Term)) (more moreKeywords : Option Term)

end

instance : Inhabited Term := ⟨.const .none⟩

instance : Inhabited TermArguments := ⟨.mk [] [] none none⟩

/-- What a value is assigned to. -/
inductive Target where
  | slot (slot : Slot)
  | attribute (owner : Slot) (id : String)
  | tuple (items : List Target)
deriving Repr, Inhabited

/-- What an assignment tells the context: the variables of it that slots become, and the names that
become visible to importing templates. -/
structure Publication where
  values : List (String × Slot)
  exports : List String
deriving Repr, Inhabited

/-- A part of what is printed. -/
inductive Printed where
  | text (text : String)
  | value (line : Nat) (term : Term) (escaping : Escaping)

/-- A parameter of a macro. -/
structure Parameter where
  id : String
  slot : Slot
  default : Option Term

/-- The condition of a loop, judged in a scope of its own. -/
structure LoopTest where
  line : Nat
  scope : ScopePlan
  term : Term

/-- A name that is imported from a template: as it is there, as it is here, and its slot. -/
structure ImportedName where
  id : String
  asName : String
  slot : Slot
deriving Repr, Inhabited

/-- The names under which a template's variables are handed to another template. -/
abbrev LocalNames := List (String × Slot)

mutual

/-- A step of a routine. -/
inductive Step where
  | print (parts : List Printed)
  /-- Done only as long as no parent template has been chosen. -/
  | unlessExtended (body : List Step)
  | branch (line : Nat) (test : Term) (whenTrue whenFalse : List Step)
  /-- A loop; `own` is the slot of the loop itself, if it is used, and the text of a recursive one is put
  together at its last line. -/
  | loop (line lastLine : Nat) (target : Target) (iter : Term) (test : Option LoopTest) (own : Option Slot)
      (recursive : Bool) (escaping : Escaping) (scope : ScopePlan) (body : List Step)
      (otherwise : Option (ScopePlan × List Step))
  /-- An assignment; the slots that have to hold namespaces are checked first, at a line of their
  own. -/
  | assign (checkLine : Nat) (checks : List Slot) (line : Nat) (target : Target) (value : Term)
      (publication : Publication)
  | capture (scope : ScopePlan) (body : List Step) (line : Nat) (target : Target) (value : Term)
      (publication : Publication)
  | bind (line : Nat) (scope : ScopePlan) (bindings : List (Target × Term)) (body : List Step)
  | escaping (line : Nat) (scope : ScopePlan) (option : Term) (body : List Step)
  | defineMacro (slot : Slot) (plan : MacroPlan) (publication : Publication)
  | callBlock (line : Nat) (plan : MacroPlan) (call : Term)
  | filterBlock (line : Nat) (scope : ScopePlan) (body : List Step) (value : Term)
  | block (line : Nat) (id : String) (locals : Option LocalNames) (required : Bool)
  /-- Chooses the parent template; `repeatLine` is where it is reported that there is one already. -/
  | extend (line : Nat) (repeatLine : Option Nat) (source : Term)
  | extendedTwice (line : Nat)
  | includeFrom (line : Nat) (source : Term) (selection : Selection)
      (locals : Option LocalNames) (ignoreMissing : Bool)
  | importAs (line : Nat) (source : Term) (locals : Option LocalNames) (id : String) (slot : Slot)
      (publishes : Bool)
  | importNames (line : Nat) (source : Term) (locals : Option LocalNames)
      (names : List ImportedName) (publishes : Bool)

/-- A macro: its name, its parameters, the slots for a caller and for more arguments if it uses them,
and its body, whose text is put together at the last line. -/
inductive MacroPlan where
  | mk (line lastLine : Nat) (id : Option String) (parameters : List Parameter) (usesCaller : Bool)
      (caller moreKeywords more : Option Slot) (scope : ScopePlan) (body : List Step)

end

instance : Inhabited Step := ⟨.print []⟩

instance : Inhabited MacroPlan := ⟨.mk 0 0 none [] false none none none [] []⟩

/-- A routine: the slots for the template itself and for the block above, its scope and steps. -/
structure Routine where
  selfSlot : Option Slot
  superSlot : Option Slot
  scope : ScopePlan
  body : List Step
deriving Inhabited

/-- How a template goes on with its parent: not at all, always, or if one has been chosen. -/
inductive Continuation where
  | none | always | ifChosen
deriving DecidableEq, Repr, Inhabited

/-- What a template is compiled to. -/
structure Program where
  name : String
  root : Routine
  continuation : Continuation
  blocks : List (String × Routine)
deriving Inhabited

end TemplateWorkbench.Template
