import TemplateWorkbench.Outline.Tree
import TemplateWorkbench.Template.Syntax

/-!
# Syntax for display

The statements and expressions of a template as a tree for display.  The tree is finer than the
syntax: every operator is a kind of its own, and entries, keywords, operands and the switch of
escaping are nodes, some of them without a line.
-/

namespace TemplateWorkbench.Template

open Tree (Field)

/-- The value of a literal as plain data. -/
def Value.literalJson : Value → Json
  | .bool value => .bool value
  | .int value => .int value
  | .double value => .double value
  | .string text => .string text
  | _ => .null

/-- How a use is called. -/
def NameUse.label : NameUse → String
  | load => "load"
  | store => "store"
  | param => "param"

/-- How a comparison is called. -/
def CompareOp.label : CompareOp → String
  | eq => "eq" | ne => "ne" | lt => "lt" | lteq => "lteq" | gt => "gt" | gteq => "gteq"
  | isIn => "in" | notIn => "notin"

/-- A text as a field. -/
def textField (text : String) : Field := .data (.string text)

/-- A truth value as a field. -/
def flagField (flag : Bool) : Field := .data (.bool flag)

/-- The use of a name as the last field of its node. -/
def useField (use : NameUse) : String × Field := ("ctx", textField use.label)

mutual

/-- The tree of an expression. -/
def Expr.tree : Expr → Tree
  | .const line value => .node "Const" line [("value", .data value.literalJson)]
  | .data line text => .node "TemplateData" line [("data", textField text)]
  | .name line id use => .node "Name" line [("name", textField id), useField use]
  | .namespaceRef line id attr =>
    .node "NSRef" line [("name", textField id), ("attr", textField attr)]
  | .tuple line items use =>
    .node "Tuple" line [("items", .list (itemFields items)), useField use]
  | .list line items => .node "List" line [("items", .list (itemFields items))]
  | .dict line entries => .node "Dict" line [("items", .list (entryFields entries))]
  | .conditional line test whenTrue whenFalse =>
    .node "CondExpr" line
      [("test", .tree test.tree), ("expr1", .tree whenTrue.tree),
        ("expr2", optionalField whenFalse)]
  | .binary line op left right =>
    .node (Expr.binary line op left right).kindName line
      [("left", .tree left.tree), ("right", .tree right.tree)]
  | .unary line op operand =>
    .node (Expr.unary line op operand).kindName line [("node", .tree operand.tree)]
  | .compare line first others =>
    .node "Compare" line [("expr", .tree first.tree), ("ops", .list (operandFields others))]
  | .concat line parts => .node "Concat" line [("nodes", .list (itemFields parts))]
  | .getattr line object attr =>
    .node "Getattr" line [("node", .tree object.tree), ("attr", textField attr), useField .load]
  | .getitem line object index =>
    .node "Getitem" line [("node", .tree object.tree), ("arg", .tree index.tree), useField .load]
  | .slice line start stop step =>
    .node "Slice" line
      [("start", optionalField start), ("stop", optionalField stop), ("step", optionalField step)]
  | .call line function arguments =>
    .node "Call" line (("node", .tree function.tree) :: arguments.fields)
  | .filter line subject id arguments =>
    .node "Filter" line
      (("node", optionalField subject) :: ("name", textField id) :: arguments.fields)
  | .test line subject id arguments =>
    .node "Test" line (("node", .tree subject.tree) :: ("name", textField id) :: arguments.fields)

/-- The fields of arguments. -/
def Arguments.fields : Arguments → List (String × Field)
  | .mk positional keywords more moreKeywords =>
    [("args", .list (itemFields positional)), ("kwargs", .list (keywordFields keywords)),
      ("dyn_args", optionalField more), ("dyn_kwargs", optionalField moreKeywords)]

/-- Expressions as the items of a list. -/
def itemFields : List Expr → List Field
  | [] => []
  | item :: rest => .tree item.tree :: itemFields rest

/-- The entries of a dictionary as nodes at the lines of their keys. -/
def entryFields : List (Expr × Expr) → List Field
  | [] => []
  | (key, value) :: rest =>
    .tree (.node "Pair" key.line [("key", .tree key.tree), ("value", .tree value.tree)]) ::
      entryFields rest

/-- Comparisons as nodes without a line. -/
def operandFields : List (CompareOp × Expr) → List Field
  | [] => []
  | (op, operand) :: rest =>
    .tree (.node "Operand" 0 [("op", textField op.label), ("expr", .tree operand.tree)]) ::
      operandFields rest

/-- Keywords as nodes at the lines of their values. -/
def keywordFields : List (String × Expr) → List Field
  | [] => []
  | (id, value) :: rest =>
    .tree (.node "Keyword" value.line [("key", textField id), ("value", .tree value.tree)]) ::
      keywordFields rest

/-- An expression that may be missing. -/
def optionalField : Option Expr → Field
  | none => .data .null
  | some expr => .tree expr.tree

end

/-- The names of an import: plain, or with the name they get. -/
def importField (names : List (String × Option String)) : Field :=
  .list (names.map fun (id, newName) =>
    match newName with
    | none => textField id
    | some newName => .list [textField id, textField newName])

mutual

/-- The tree of a statement. -/
def Statement.tree : Statement → Tree
  | .output line parts => .node "Output" line [("nodes", .list (itemFields parts))]
  | .loop line target iter test isRecursive body orElse =>
    .node "For" line
      [("target", .tree target.tree), ("iter", .tree iter.tree),
        ("body", .list (statementFields body)), ("else_", .list (statementFields orElse)),
        ("test", optionalField test), ("recursive", flagField isRecursive)]
  | .branch (.mk line test body) others orElse =>
    .node "If" line
      [("test", .tree test.tree), ("body", .list (statementFields body)),
        ("elif_", .list (clauseFields others)), ("else_", .list (statementFields orElse))]
  | .bind line targets values body =>
    .node "With" line
      [("targets", .list (itemFields targets)), ("values", .list (itemFields values)),
        ("body", .list (statementFields body))]
  | .assign line target value =>
    .node "Assign" line [("target", .tree target.tree), ("node", .tree value.tree)]
  | .assignBlock line target filter body =>
    .node "AssignBlock" line
      [("target", .tree target.tree), ("filter", optionalField filter),
        ("body", .list (statementFields body))]
  | .defineMacro line id params defaults body =>
    .node "Macro" line
      [("name", textField id), ("args", .list (itemFields params)),
        ("defaults", .list (itemFields defaults)), ("body", .list (statementFields body))]
  | .callBlock line call params defaults body =>
    .node "CallBlock" line
      [("call", .tree call.tree), ("args", .list (itemFields params)),
        ("defaults", .list (itemFields defaults)), ("body", .list (statementFields body))]
  | .filterBlock line filter body =>
    .node "FilterBlock" line
      [("body", .list (statementFields body)), ("filter", .tree filter.tree)]
  | .escaping line option body =>
    .node "Scope" 0
      [("body", .list [.tree (.node "ScopedEvalContextModifier" line
        [("options", .list [.tree (.node "Keyword" 0
          [("key", textField "autoescape"), ("value", .tree option.tree)])]),
          ("body", .list (statementFields body))])])]
  | .block line id body seesScope required =>
    .node "Block" line
      [("name", textField id), ("body", .list (statementFields body)),
        ("scoped", flagField seesScope), ("required", flagField required)]
  | .extend line parent => .node "Extends" line [("template", .tree parent.tree)]
  | .includeFrom line source withContext ignoring =>
    .node "Include" line
      [("template", .tree source.tree), ("with_context", flagField withContext),
        ("ignore_missing", flagField ignoring)]
  | .importAs line source target withContext =>
    .node "Import" line
      [("template", .tree source.tree), ("target", textField target),
        ("with_context", flagField withContext)]
  | .importNames line source names withContext =>
    .node "FromImport" line
      [("template", .tree source.tree), ("names", importField names),
        ("with_context", flagField withContext)]

/-- Statements as the items of a list. -/
def statementFields : List Statement → List Field
  | [] => []
  | statement :: rest => .tree statement.tree :: statementFields rest

/-- The further clauses of a conditional statement as conditional statements of their own. -/
def clauseFields : List Clause → List Field
  | [] => []
  | .mk line test body :: rest =>
    .tree (.node "If" line
      [("test", .tree test.tree), ("body", .list (statementFields body)), ("elif_", .list []),
        ("else_", .list [])]) :: clauseFields rest

end

/-- The tree of a template. -/
def displayTree (statements : List Statement) : Tree :=
  .node "Template" 1 [("body", .list (statementFields statements))]

end TemplateWorkbench.Template
