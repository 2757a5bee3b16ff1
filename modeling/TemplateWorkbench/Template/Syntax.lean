import TemplateWorkbench.Template.Value

/-!
# Syntax of templates

A template is a list of statements; what stands between tags is an output statement of template data
and printed expressions.  Every node knows the line that it is reported at.  Names that are read,
written or bound as parameters are told apart by their use.
-/

namespace TemplateWorkbench.Template

/-- What a name or a tuple of names is there for. -/
inductive NameUse where
  | load | store | param
deriving DecidableEq, Repr, Inhabited

/-- The operators between two expressions. -/
inductive BinaryOp where
  | add | sub | mul | div | floordiv | mod | pow | and | or
deriving DecidableEq, Repr, Inhabited

/-- The operators before one expression. -/
inductive UnaryOp where
  | not | neg | pos
deriving DecidableEq, Repr, Inhabited

/-- The comparisons. -/
inductive CompareOp where
  | eq | ne | lt | lteq | gt | gteq | isIn | notIn
deriving DecidableEq, Repr, Inhabited

mutual

/-- An expression. -/
inductive Expr where
  | const (line : Nat) (value : Value)
  /-- Text between tags. -/
  | data (line : Nat) (text : String)
  | name (line : Nat) (id : String) (use : NameUse)
  /-- An attribute of a namespace as the target of an assignment. -/
  | namespaceRef (line : Nat) (id attr : String)
  | tuple (line : Nat) (items : List Expr) (use : NameUse)
  | list (line : Nat) (items : List Expr)
  | dict (line : Nat) (entries : List (Expr × Expr))
  | conditional (line : Nat) (test whenTrue : Expr) (whenFalse : Option Expr)
  | binary (line : Nat) (op : BinaryOp) (left right : Expr)
  | unary (line : Nat) (op : UnaryOp) (operand : Expr)
  | compare (line : Nat) (first : Expr) (others : List (CompareOp × Expr))
  | concat (line : Nat) (parts : List Expr)
  | getattr (line : Nat) (object : Expr) (attr : String)
  | getitem (line : Nat) (object index : Expr)
  | slice (line : Nat) (start stop step : Option Expr)
  | call (line : Nat) (function : Expr) (arguments : Arguments)
  /-- A filter; without a subject it is applied to the text of a block. -/
  | filter (line : Nat) (subject : Option Expr) (id : String) (arguments : Arguments)
  | test (line : Nat) (subject : Expr) (id : String) (arguments : Arguments)

/-- The arguments of a call: positional ones, keywords, and a sequence and a mapping of more. -/
inductive Arguments where
  | mk (positional : List Expr) (keywords : List (String × Expr)) (more moreKeywords : Option Expr)

end

instance : Inhabited Expr := ⟨.const 0 .none⟩

instance : Inhabited Arguments := ⟨.mk [] [] none none⟩

/-- No arguments. -/
def Arguments.none : Arguments := .mk [] [] Option.none Option.none

namespace Expr

/-- The line of an expression. -/
def line : Expr → Nat
  | const line _ | data line _ | name line _ _ | namespaceRef line _ _ | tuple line _ _
  | list line _ | dict line _ | conditional line _ _ _ | binary line _ _ _ | unary line _ _
  | compare line _ _ | concat line _ | getattr line _ _ | getitem line _ _ | slice line _ _ _
  | call line _ _ | filter line _ _ _ | test line _ _ _ => line

/-- What a message calls the kind of an expression. -/
def kindName : Expr → String
  | const _ _ => "Const"
  | data _ _ => "TemplateData"
  | name _ _ _ => "Name"
  | namespaceRef _ _ _ => "NSRef"
  | tuple _ _ _ => "Tuple"
  | list _ _ => "List"
  | dict _ _ => "Dict"
  | conditional _ _ _ _ => "CondExpr"
  | binary _ op _ _ =>
    match op with
    | .add => "Add" | .sub => "Sub" | .mul => "Mul" | .div => "Div" | .floordiv => "FloorDiv"
    | .mod => "Mod" | .pow => "Pow" | .and => "And" | .or => "Or"
  | unary _ op _ =>
    match op with
    | .not => "Not" | .neg => "Neg" | .pos => "Pos"
  | compare _ _ _ => "Compare"
  | concat _ _ => "Concat"
  | getattr _ _ _ => "Getattr"
  | getitem _ _ _ => "Getitem"
  | slice _ _ _ _ => "Slice"
  | call _ _ _ => "Call"
  | filter _ _ _ _ => "Filter"
  | test _ _ _ _ => "Test"

/-- Whether an expression may be the target of an assignment. -/
def isTarget : Expr → Bool
  | name _ id _ => !(["true", "false", "none", "True", "False", "None"].contains id)
  | namespaceRef _ _ _ => true
  | tuple _ items _ => all items
  | _ => false
where
  /-- Whether all items may be targets. -/
  all : List Expr → Bool
    | [] => true
    | item :: rest => item.isTarget && all rest

mutual

/-- The expression with every name and tuple in it put to another use. -/
def withUse (use : NameUse) : Expr → Expr
  | name line id _ => name line id use
  | tuple line items _ => tuple line (allWithUse use items) use
  | expr => expr

/-- Every expression of a list put to another use. -/
def allWithUse (use : NameUse) : List Expr → List Expr
  | [] => []
  | item :: rest => item.withUse use :: allWithUse use rest

end

/-- The names that a target binds, from left to right. -/
def boundNames : Expr → List String
  | name _ id _ => [id]
  | tuple _ items _ => all items
  | _ => []
where
  /-- The names that the items bind. -/
  all : List Expr → List String
    | [] => []
    | item :: rest => item.boundNames ++ all rest

end Expr

mutual

/-- A statement. -/
inductive Statement where
  | output (line : Nat) (parts : List Expr)
  | loop (line : Nat) (target iter : Expr) (test : Option Expr) (recursive : Bool)
      (body orElse : List Statement)
  | branch (clause : Clause) (others : List Clause) (orElse : List Statement)
  | bind (line : Nat) (targets values : List Expr) (body : List Statement)
  | assign (line : Nat) (target value : Expr)
  | assignBlock (line : Nat) (target : Expr) (filter : Option Expr) (body : List Statement)
  | defineMacro (line : Nat) (id : String) (params defaults : List Expr) (body : List Statement)
  | callBlock (line : Nat) (call : Expr) (params defaults : List Expr) (body : List Statement)
  | filterBlock (line : Nat) (filter : Expr) (body : List Statement)
  | escaping (line : Nat) (option : Expr) (body : List Statement)
  | block (line : Nat) (id : String) (body : List Statement) (seesScope required : Bool)
  | extend (line : Nat) (parent : Expr)
  | includeFrom (line : Nat) (source : Expr) (withContext ignoreMissing : Bool)
  | importAs (line : Nat) (source : Expr) (target : String) (withContext : Bool)
  | importNames (line : Nat) (source : Expr) (names : List (String × Option String))
      (withContext : Bool)

/-- A condition with what is done when it is the first to hold. -/
inductive Clause where
  | mk (line : Nat) (test : Expr) (body : List Statement)

end

instance : Inhabited Statement := ⟨.output 0 []⟩

/-- The line of a statement. -/
def Statement.line : Statement → Nat
  | output line _ | loop line _ _ _ _ _ _ | branch (.mk line _ _) _ _ | bind line _ _ _
  | assign line _ _ | assignBlock line _ _ _ | defineMacro line _ _ _ _ | callBlock line _ _ _ _
  | filterBlock line _ _ | escaping line _ _ | block line _ _ _ _ | extend line _
  | includeFrom line _ _ _ | importAs line _ _ _ | importNames line _ _ _ => line

end TemplateWorkbench.Template
