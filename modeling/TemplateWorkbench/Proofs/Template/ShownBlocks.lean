import TemplateWorkbench.Proofs.Outline.Nodes
import TemplateWorkbench.Proofs.Template.Display
import TemplateWorkbench.Template.Mention

/-!
# Blocks in the tree

The tree of a template shows its blocks as nodes of their own.  On the walk through the tree they come in
the order in which the compiler finds them in the statements: there are no other such nodes, for there are
no blocks in expressions.
-/

namespace TemplateWorkbench

namespace Tree

/-- Whether a node is a block. -/
def isBlock (tree : Tree) : Bool := tree.kind == "Block"

/-- The name in a node; a node without one has an empty name. -/
def nodeName (tree : Tree) : String :=
  match tree.fields.lookup "name" with
  | some (.data (.string id)) => id
  | _ => ""

/-- The names of the blocks among some nodes. -/
def blockNamesOf (nodes : List Tree) : List String := (nodes.filter isBlock).map nodeName

/-- The names of the blocks on the walk through a tree. -/
def blockNames (tree : Tree) : List String := blockNamesOf tree.walk

@[simp] theorem blockNamesOf_nil : blockNamesOf [] = [] := rfl

@[simp] theorem blockNamesOf_append (first second : List Tree) :
    blockNamesOf (first ++ second) = blockNamesOf first ++ blockNamesOf second := by
  simp only [blockNamesOf, List.filter_append, List.map_append]

@[simp] theorem blockNamesOf_walk (tree : Tree) : blockNamesOf tree.walk = tree.blockNames := rfl

/-- A node that is no block shows the blocks in its fields. -/
@[simp] theorem blockNames_node {kind : String} {line : Int} {fields : List (String × Field)}
    (hkind : kind ≠ "Block") :
    blockNames (.node kind line fields) = blockNamesOf (walkFields fields) := by
  have hnode : ¬ isBlock (.node kind line fields) = true := mt eq_of_beq hkind
  rw [blockNames, walk, blockNamesOf, List.filter_cons_of_neg hnode, blockNamesOf]

/-- A block shows itself, and then the blocks in its fields. -/
theorem blockNames_block (line : Int) (fields : List (String × Field)) :
    blockNames (.node "Block" line fields) =
      nodeName (.node "Block" line fields) :: blockNamesOf (walkFields fields) := by
  rw [blockNames, walk, blockNamesOf, List.filter_cons_of_pos rfl, List.map_cons, blockNamesOf]

end Tree

namespace Template

open TemplateWorkbench.Tree (blockNames blockNamesOf walkFields walkItems)

/-! ### Expressions -/

theorem Expr.kindName_ne_block (expr : Expr) : expr.kindName ≠ "Block" := by
  cases expr with
  | binary line op left right => cases op <;> simp [kindName]
  | unary line op operand => cases op <;> simp [kindName]
  | _ => simp [kindName]

mutual

/-- There are no blocks in an expression. -/
theorem blockNames_expr : (expr : Expr) → expr.tree.blockNames = []
  | .const _ _ | .data _ _ | .name _ _ _ | .namespaceRef _ _ _ => rfl
  | .tuple _ items _ | .list _ items | .concat _ items => by
      simp [Expr.tree, walkFields, textField, useField, blockNamesOf_itemFields items]
  | .dict _ entries => by
      simp [Expr.tree, walkFields, blockNamesOf_entryFields entries]
  | .conditional _ test whenTrue whenFalse => by
      simp [Expr.tree, walkFields, blockNames_expr test, blockNames_expr whenTrue,
        blockNamesOf_optionalField _ _ whenFalse]
  | .binary _ _ left right => by
      simp [Expr.tree, Expr.kindName_ne_block, walkFields, blockNames_expr left, blockNames_expr right]
  | .unary _ _ operand => by
      simp [Expr.tree, Expr.kindName_ne_block, walkFields, blockNames_expr operand]
  | .compare _ first others => by
      simp [Expr.tree, walkFields, blockNames_expr first, blockNamesOf_operandFields others]
  | .getattr _ object _ => by
      simp [Expr.tree, walkFields, textField, useField, blockNames_expr object]
  | .getitem _ object index => by
      simp [Expr.tree, walkFields, textField, useField, blockNames_expr object, blockNames_expr index]
  | .slice _ start stop step => by
      simp [Expr.tree, blockNamesOf_optionalField _ _ start, blockNamesOf_optionalField _ _ stop,
        blockNamesOf_optionalField _ _ step, walkFields]
  | .call _ function arguments => by
      simp [Expr.tree, walkFields, blockNames_expr function, blockNamesOf_fields arguments]
  | .filter _ subject _ arguments => by
      simp [Expr.tree, walkFields, textField, blockNamesOf_optionalField _ _ subject,
        blockNamesOf_fields arguments]
  | .test _ subject _ arguments => by
      simp [Expr.tree, walkFields, textField, blockNames_expr subject, blockNamesOf_fields arguments]

theorem blockNamesOf_fields : (arguments : Arguments) → blockNamesOf (walkFields arguments.fields) = []
  | .mk positional keywords more moreKeywords => by
      simp [Arguments.fields, walkFields, blockNamesOf_itemFields positional,
        blockNamesOf_keywordFields keywords, blockNamesOf_optionalField _ _ more,
        blockNamesOf_optionalField _ _ moreKeywords]

theorem blockNamesOf_itemFields : (items : List Expr) → blockNamesOf (walkItems (itemFields items)) = []
  | [] => rfl
  | item :: rest => by
      simp [itemFields, walkItems, blockNames_expr item, blockNamesOf_itemFields rest]

theorem blockNamesOf_entryFields : (entries : List (Expr × Expr)) →
    blockNamesOf (walkItems (entryFields entries)) = []
  | [] => rfl
  | (key, value) :: rest => by
      simp [entryFields, walkItems, walkFields, blockNames_expr key, blockNames_expr value,
        blockNamesOf_entryFields rest]

theorem blockNamesOf_operandFields : (others : List (CompareOp × Expr)) →
    blockNamesOf (walkItems (operandFields others)) = []
  | [] => rfl
  | (_, operand) :: rest => by
      simp [operandFields, walkItems, walkFields, textField, blockNames_expr operand,
        blockNamesOf_operandFields rest]

theorem blockNamesOf_keywordFields : (keywords : List (String × Expr)) →
    blockNamesOf (walkItems (keywordFields keywords)) = []
  | [] => rfl
  | (_, value) :: rest => by
      simp [keywordFields, walkItems, walkFields, textField, blockNames_expr value,
        blockNamesOf_keywordFields rest]

theorem blockNamesOf_optionalField (name : String) (rest : List (String × Tree.Field)) :
    (expr : Option Expr) →
      blockNamesOf (walkFields ((name, optionalField expr) :: rest)) = blockNamesOf (walkFields rest)
  | none => by rw [optionalField, walkFields]
  | some expr => by
      rw [optionalField, walkFields, Tree.blockNamesOf_append, Tree.blockNamesOf_walk,
        blockNames_expr expr, List.nil_append]

end

/-! ### Statements -/

mutual

/-- The blocks in the tree of a statement are those that the compiler finds in it. -/
theorem blockNames_statement : (statement : Statement) →
    statement.tree.blockNames = statement.blocks.map (·.id)
  | .output _ parts => by
      simp [Statement.tree, walkFields, blockNamesOf_itemFields parts, Statement.blocks]
  | .loop _ target iter test _ body orElse => by
      simp [Statement.tree, walkFields, flagField, blockNames_expr target, blockNames_expr iter,
        blockNamesOf_optionalField _ _ test, blockNamesOf_statementFields body,
        blockNamesOf_statementFields orElse, Statement.blocks]
  | .branch (.mk _ test body) others orElse => by
      simp [Statement.tree, walkFields, blockNames_expr test, blockNamesOf_statementFields body,
        blockNamesOf_clauseFields others, blockNamesOf_statementFields orElse, Statement.blocks,
        Clause.blocks]
  | .bind _ targets values body => by
      simp [Statement.tree, walkFields, blockNamesOf_itemFields targets, blockNamesOf_itemFields values,
        blockNamesOf_statementFields body, Statement.blocks]
  | .assign _ target value => by
      simp [Statement.tree, walkFields, blockNames_expr target, blockNames_expr value, Statement.blocks]
  | .assignBlock _ target filter body => by
      simp [Statement.tree, walkFields, blockNames_expr target,
        blockNamesOf_optionalField _ _ filter, blockNamesOf_statementFields body, Statement.blocks]
  | .defineMacro _ _ params defaults body => by
      simp [Statement.tree, walkFields, textField, blockNamesOf_itemFields params,
        blockNamesOf_itemFields defaults, blockNamesOf_statementFields body, Statement.blocks]
  | .callBlock _ call params defaults body => by
      simp [Statement.tree, walkFields, blockNames_expr call, blockNamesOf_itemFields params,
        blockNamesOf_itemFields defaults, blockNamesOf_statementFields body, Statement.blocks]
  | .filterBlock _ filter body => by
      simp [Statement.tree, walkFields, blockNames_expr filter,
        blockNamesOf_statementFields body, Statement.blocks]
  | .escaping _ option body => by
      -- The body stands two nodes deeper than in the syntax.
      simp [Statement.tree, walkFields, walkItems, textField, blockNames_expr option,
        blockNamesOf_statementFields body, Statement.blocks]
  | .block line id body seesScope required => by
      have hname : Tree.nodeName (.node "Block" line
          [("name", textField id), ("body", .list (statementFields body)),
            ("scoped", flagField seesScope), ("required", flagField required)]) = id := rfl
      rw [Statement.tree, Tree.blockNames_block, hname]
      simp [walkFields, textField, flagField, blockNamesOf_statementFields body, Statement.blocks]
  | .extend _ parent => by
      simp [Statement.tree, walkFields, blockNames_expr parent, Statement.blocks]
  | .includeFrom _ source _ _ => by
      simp [Statement.tree, walkFields, flagField, blockNames_expr source, Statement.blocks]
  | .importAs _ source _ _ => by
      simp [Statement.tree, walkFields, textField, flagField, blockNames_expr source, Statement.blocks]
  | .importNames _ source names _ => by
      simp [Statement.tree, walkFields, flagField, Tree.walkFields_cons_plain (isPlain_importField names),
        blockNames_expr source, Statement.blocks]

theorem blockNamesOf_statementFields : (statements : List Statement) →
    blockNamesOf (walkItems (statementFields statements)) = (bodyBlocks statements).map (·.id)
  | [] => rfl
  | statement :: rest => by
      rw [statementFields, walkItems, Tree.blockNamesOf_append, Tree.blockNamesOf_walk,
        blockNames_statement statement, blockNamesOf_statementFields rest, bodyBlocks, List.map_append]

theorem blockNamesOf_clauseFields : (clauses : List Clause) →
    blockNamesOf (walkItems (clauseFields clauses)) = (clauseBlocks clauses).map (·.id)
  | [] => rfl
  | .mk _ test body :: rest => by
      simp [clauseFields, walkItems, walkFields, blockNames_expr test, blockNamesOf_statementFields body,
        blockNamesOf_clauseFields rest, clauseBlocks, Clause.blocks]

end

/-- The blocks that the tree of a template shows are those that the compiler finds, in their order. -/
theorem blockNames_displayTree (body : List Statement) :
    (displayTree body).blockNames = (bodyBlocks body).map (·.id) := by
  simp [displayTree, walkFields, blockNamesOf_statementFields body]

end Template

end TemplateWorkbench
