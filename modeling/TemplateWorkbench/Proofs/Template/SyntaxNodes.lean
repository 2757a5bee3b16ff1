import TemplateWorkbench.Proofs.Outline.Nodes
import TemplateWorkbench.Proofs.Template.Display

/-!
# The nodes of a template

A template has a node for every statement and every expression in it, and for the entries of dictionaries,
the operands of comparisons, keywords and clauses.  Here they are listed straight from the syntax: a node,
and then the nodes of its fields, field by field.  The walk through the tree of a template comes by these
nodes and no others, and the tree is tidy.
-/

namespace TemplateWorkbench

/-! ### Trees and what they show -/

namespace Tree

/-- A tree shows nodes if its walk comes by them, and if it is tidy. -/
structure Shows (tree : Tree) (heads : List Head) : Prop where
  walk : tree.walk.map head = heads
  tidy : tree.isTidy = true

/-- Fields show nodes if the walks through them come by the nodes, and if they are tidy. -/
structure FieldsShow (fields : List (String × Field)) (heads : List Head) : Prop where
  walk : (walkFields fields).map head = heads
  tidy : areTidy fields = true

/-- Items show nodes if the walks through them come by the nodes, and if they are tidy. -/
structure ItemsShow (items : List Field) (heads : List Head) : Prop where
  walk : (walkItems items).map head = heads
  tidy : areTidyItems items = true

variable {kind name : String} {line : Int} {child : Tree} {fields rest : List (String × Field)}
  {items others : List Field} {value : Json} {heads later : List Head}

theorem Shows.node (hfields : FieldsShow fields heads)
    (hnames : (fields.map Prod.fst).Nodup := by simp) (hkind : isOneLine kind = true := by decide) :
    Shows (.node kind line fields) (⟨kind, line⟩ :: heads) where
  walk := by
    rw [Tree.walk, List.map_cons, hfields.walk]
    rfl
  tidy := isTidy_node_iff.mpr ⟨hkind, hnames, hfields.tidy⟩

theorem FieldsShow.nil : FieldsShow [] [] := ⟨rfl, rfl⟩

theorem FieldsShow.tree (hchild : Shows child heads) (hrest : FieldsShow rest later)
    (hname : isOneLine name = true := by decide) :
    FieldsShow ((name, .tree child) :: rest) (heads ++ later) where
  walk := by rw [walkFields, List.map_append, hchild.walk, hrest.walk]
  tidy := areTidy_cons_iff.mpr ⟨hname, hchild.tidy, hrest.tidy⟩

theorem FieldsShow.list (hitems : ItemsShow items heads) (hrest : FieldsShow rest later)
    (hname : isOneLine name = true := by decide) :
    FieldsShow ((name, .list items) :: rest) (heads ++ later) where
  walk := by rw [walkFields, List.map_append, hitems.walk, hrest.walk]
  tidy := areTidy_cons_iff.mpr ⟨hname, hitems.tidy, hrest.tidy⟩

theorem FieldsShow.data (hrest : FieldsShow rest later) (hsingle : value.isSingle = true := by rfl)
    (hname : isOneLine name = true := by decide) :
    FieldsShow ((name, .data value) :: rest) later where
  walk := by rw [walkFields, hrest.walk]
  tidy := areTidy_cons_iff.mpr ⟨hname, hsingle, hrest.tidy⟩

/-- A field without a node shows nothing. -/
theorem FieldsShow.plain {field : Field} (hplain : field.isPlain = true) (htidy : field.isTidy = true)
    (hrest : FieldsShow rest later) (hname : isOneLine name = true := by decide) :
    FieldsShow ((name, field) :: rest) later where
  walk := by rw [walkFields_cons_plain hplain, hrest.walk]
  tidy := areTidy_cons_iff.mpr ⟨hname, htidy, hrest.tidy⟩

theorem ItemsShow.nil : ItemsShow [] [] := ⟨rfl, rfl⟩

theorem ItemsShow.tree (hchild : Shows child heads) (hothers : ItemsShow others later) :
    ItemsShow (.tree child :: others) (heads ++ later) where
  walk := by rw [walkItems, List.map_append, hchild.walk, hothers.walk]
  tidy := Bool.and_eq_true_iff.mpr ⟨hchild.tidy, hothers.tidy⟩

end Tree

namespace Template

open TemplateWorkbench.Tree (Shows FieldsShow ItemsShow)

/-! ### Expressions -/

mutual

/-- The nodes of an expression. -/
def Expr.heads : Expr → List Head
  | .const line _ => [⟨"Const", line⟩]
  | .data line _ => [⟨"TemplateData", line⟩]
  | .name line _ _ => [⟨"Name", line⟩]
  | .namespaceRef line _ _ => [⟨"NSRef", line⟩]
  | .tuple line items _ => ⟨"Tuple", line⟩ :: [itemHeads items].flatten
  | .list line items => ⟨"List", line⟩ :: [itemHeads items].flatten
  | .dict line entries => ⟨"Dict", line⟩ :: [entryHeads entries].flatten
  | .conditional line test whenTrue whenFalse =>
    ⟨"CondExpr", line⟩ :: [test.heads, whenTrue.heads, optionalHeads whenFalse].flatten
  | .binary line op left right =>
    ⟨(Expr.binary line op left right).kindName, line⟩ :: [left.heads, right.heads].flatten
  | .unary line op operand =>
    ⟨(Expr.unary line op operand).kindName, line⟩ :: [operand.heads].flatten
  | .compare line first others => ⟨"Compare", line⟩ :: [first.heads, operandHeads others].flatten
  | .concat line parts => ⟨"Concat", line⟩ :: [itemHeads parts].flatten
  | .getattr line object _ => ⟨"Getattr", line⟩ :: [object.heads].flatten
  | .getitem line object index => ⟨"Getitem", line⟩ :: [object.heads, index.heads].flatten
  | .slice line start stop step =>
    ⟨"Slice", line⟩ :: [optionalHeads start, optionalHeads stop, optionalHeads step].flatten
  | .call line function arguments => ⟨"Call", line⟩ :: (function.heads ++ arguments.heads)
  | .filter line subject _ arguments => ⟨"Filter", line⟩ :: (optionalHeads subject ++ arguments.heads)
  | .test line subject _ arguments => ⟨"Test", line⟩ :: (subject.heads ++ arguments.heads)

/-- The nodes of arguments. -/
def Arguments.heads : Arguments → List Head
  | .mk positional keywords more moreKeywords =>
    [itemHeads positional, keywordHeads keywords, optionalHeads more, optionalHeads moreKeywords].flatten

/-- The nodes of several expressions. -/
def itemHeads : List Expr → List Head
  | [] => []
  | item :: rest => item.heads ++ itemHeads rest

/-- The nodes of entries: pairs, on the lines of their keys. -/
def entryHeads : List (Expr × Expr) → List Head
  | [] => []
  | (key, value) :: rest => (⟨"Pair", key.line⟩ :: [key.heads, value.heads].flatten) ++ entryHeads rest

/-- The nodes of comparisons: operands, without a line. -/
def operandHeads : List (CompareOp × Expr) → List Head
  | [] => []
  | (_, operand) :: rest => (⟨"Operand", 0⟩ :: [operand.heads].flatten) ++ operandHeads rest

/-- The nodes of keywords, on the lines of their values. -/
def keywordHeads : List (String × Expr) → List Head
  | [] => []
  | (_, value) :: rest => (⟨"Keyword", value.line⟩ :: [value.heads].flatten) ++ keywordHeads rest

/-- The nodes of an expression that may be missing. -/
def optionalHeads : Option Expr → List Head
  | none => []
  | some expr => expr.heads

end

theorem isSingle_literalJson (value : Value) : value.literalJson.isSingle = true := by
  cases value <;> rfl

theorem isOneLine_kindName (expr : Expr) : Tree.isOneLine expr.kindName = true := by
  cases expr with
  | binary line op left right => cases op <;> (rw [Expr.kindName]; decide)
  | unary line op operand => cases op <;> (rw [Expr.kindName]; decide)
  | _ => rw [Expr.kindName]; decide

theorem names_fields (arguments : Arguments) :
    arguments.fields.map Prod.fst = ["args", "kwargs", "dyn_args", "dyn_kwargs"] := by
  obtain ⟨positional, keywords, more, moreKeywords⟩ := arguments
  rfl

mutual

/-- The tree of an expression shows its nodes. -/
theorem shows_expr : (expr : Expr) → Shows expr.tree expr.heads
  | .const _ value => .node (.data .nil (isSingle_literalJson value))
  | .data _ _ => .node (.data .nil)
  | .name _ _ _ => .node (.data (.data .nil)) (by simp [useField])
  | .namespaceRef _ _ _ => .node (.data (.data .nil))
  | .tuple _ items _ => .node (.list (itemsShow_items items) (.data .nil)) (by simp [useField])
  | .list _ items => .node (.list (itemsShow_items items) .nil)
  | .dict _ entries => .node (.list (itemsShow_entries entries) .nil)
  | .conditional _ test whenTrue whenFalse =>
      .node (.tree (shows_expr test) (.tree (shows_expr whenTrue)
        (fieldsShow_optional .nil whenFalse)))
  | .binary _ _ left right =>
      .node (.tree (shows_expr left) (.tree (shows_expr right) .nil)) (by simp) (isOneLine_kindName _)
  | .unary _ _ operand => .node (.tree (shows_expr operand) .nil) (by simp) (isOneLine_kindName _)
  | .compare _ first others => .node (.tree (shows_expr first) (.list (itemsShow_operands others) .nil))
  | .concat _ parts => .node (.list (itemsShow_items parts) .nil)
  | .getattr _ object _ => .node (.tree (shows_expr object) (.data (.data .nil))) (by simp [useField])
  | .getitem _ object index =>
      .node (.tree (shows_expr object) (.tree (shows_expr index) (.data .nil))) (by simp [useField])
  | .slice _ start stop step =>
      .node (fieldsShow_optional (fieldsShow_optional (fieldsShow_optional .nil step) stop) start)
  | .call _ function arguments =>
      .node (.tree (shows_expr function) (fieldsShow_fields arguments)) (by simp [names_fields])
  | .filter _ subject _ arguments =>
      .node (fieldsShow_optional (.data (fieldsShow_fields arguments)) subject) (by simp [names_fields])
  | .test _ subject _ arguments =>
      .node (.tree (shows_expr subject) (.data (fieldsShow_fields arguments))) (by simp [names_fields])

theorem fieldsShow_fields : (arguments : Arguments) → FieldsShow arguments.fields arguments.heads
  | .mk positional keywords more moreKeywords =>
      .list (itemsShow_items positional) (.list (itemsShow_keywords keywords)
        (fieldsShow_optional (fieldsShow_optional .nil moreKeywords) more))

theorem itemsShow_items : (items : List Expr) → ItemsShow (itemFields items) (itemHeads items)
  | [] => .nil
  | item :: rest => .tree (shows_expr item) (itemsShow_items rest)

theorem itemsShow_entries : (entries : List (Expr × Expr)) →
    ItemsShow (entryFields entries) (entryHeads entries)
  | [] => .nil
  | (key, value) :: rest =>
      .tree (.node (.tree (shows_expr key) (.tree (shows_expr value) .nil))) (itemsShow_entries rest)

theorem itemsShow_operands : (others : List (CompareOp × Expr)) →
    ItemsShow (operandFields others) (operandHeads others)
  | [] => .nil
  | (_, operand) :: rest =>
      .tree (.node (.data (.tree (shows_expr operand) .nil))) (itemsShow_operands rest)

theorem itemsShow_keywords : (keywords : List (String × Expr)) →
    ItemsShow (keywordFields keywords) (keywordHeads keywords)
  | [] => .nil
  | (_, value) :: rest =>
      .tree (.node (.data (.tree (shows_expr value) .nil))) (itemsShow_keywords rest)

theorem fieldsShow_optional {name : String} {rest : List (String × Tree.Field)} {later : List Head}
    (hrest : FieldsShow rest later) : (expr : Option Expr) →
    (hname : Tree.isOneLine name = true := by decide) →
    FieldsShow ((name, optionalField expr) :: rest) (optionalHeads expr ++ later)
  | none, hname => .data hrest rfl hname
  | some expr, hname => .tree (shows_expr expr) hrest hname

end

/-- Every expression is a node on its own line. -/
theorem Expr.exists_head (expr : Expr) : ∃ head ∈ expr.heads, head.line = expr.line := by
  cases expr <;> exact ⟨_, List.mem_cons_self, rfl⟩

mutual

/-- Another use of names changes no node. -/
theorem heads_withUse (use : NameUse) : (expr : Expr) → (expr.withUse use).heads = expr.heads
  | .name _ _ _ => rfl
  | .tuple line items _ => by rw [Expr.withUse, Expr.heads, Expr.heads, heads_allWithUse use items]
  | .const _ _ | .data _ _ | .namespaceRef _ _ _ | .list _ _ | .dict _ _ | .conditional _ _ _ _
  | .binary _ _ _ _ | .unary _ _ _ | .compare _ _ _ | .concat _ _ | .getattr _ _ _ | .getitem _ _ _
  | .slice _ _ _ _ | .call _ _ _ | .filter _ _ _ _ | .test _ _ _ _ => rfl

theorem heads_allWithUse (use : NameUse) : (items : List Expr) →
    itemHeads (Expr.allWithUse use items) = itemHeads items
  | [] => rfl
  | item :: rest => by
      rw [Expr.allWithUse, itemHeads, itemHeads, heads_withUse use item, heads_allWithUse use rest]

end

/-! ### Statements -/

mutual

/-- The nodes of a statement.  The switch of escaping stands in a scope of its own, with the option as a
keyword; neither the scope nor the keyword has a line. -/
def Statement.heads : Statement → List Head
  | .output line parts => ⟨"Output", line⟩ :: [itemHeads parts].flatten
  | .loop line target iter test _ body orElse =>
    ⟨"For", line⟩ :: [target.heads, iter.heads, bodyHeads body, bodyHeads orElse, optionalHeads test].flatten
  | .branch (.mk line test body) others orElse =>
    ⟨"If", line⟩ :: [test.heads, bodyHeads body, clauseHeads others, bodyHeads orElse].flatten
  | .bind line targets values body =>
    ⟨"With", line⟩ :: [itemHeads targets, itemHeads values, bodyHeads body].flatten
  | .assign line target value => ⟨"Assign", line⟩ :: [target.heads, value.heads].flatten
  | .assignBlock line target filter body =>
    ⟨"AssignBlock", line⟩ :: [target.heads, optionalHeads filter, bodyHeads body].flatten
  | .defineMacro line _ params defaults body =>
    ⟨"Macro", line⟩ :: [itemHeads params, itemHeads defaults, bodyHeads body].flatten
  | .callBlock line call params defaults body =>
    ⟨"CallBlock", line⟩ :: [call.heads, itemHeads params, itemHeads defaults, bodyHeads body].flatten
  | .filterBlock line filter body => ⟨"FilterBlock", line⟩ :: [bodyHeads body, filter.heads].flatten
  | .escaping line option body =>
    ⟨"Scope", 0⟩ :: ⟨"ScopedEvalContextModifier", line⟩ :: ⟨"Keyword", 0⟩ ::
      [option.heads, bodyHeads body].flatten
  | .block line _ body _ _ => ⟨"Block", line⟩ :: [bodyHeads body].flatten
  | .extend line parent => ⟨"Extends", line⟩ :: [parent.heads].flatten
  | .includeFrom line source _ _ => ⟨"Include", line⟩ :: [source.heads].flatten
  | .importAs line source _ _ => ⟨"Import", line⟩ :: [source.heads].flatten
  | .importNames line source _ _ => ⟨"FromImport", line⟩ :: [source.heads].flatten

/-- The nodes of several statements. -/
def bodyHeads : List Statement → List Head
  | [] => []
  | statement :: rest => statement.heads ++ bodyHeads rest

/-- The nodes of a further clause: a conditional statement of its own. -/
def Clause.heads : Clause → List Head
  | .mk line test body => ⟨"If", line⟩ :: [test.heads, bodyHeads body].flatten

/-- The nodes of several further clauses. -/
def clauseHeads : List Clause → List Head
  | [] => []
  | clause :: rest => clause.heads ++ clauseHeads rest

end

/-- The nodes of a template. -/
def templateHeads (body : List Statement) : List Head := ⟨"Template", 1⟩ :: bodyHeads body

theorem isTidy_importField (names : List (String × Option String)) :
    (importField names).isTidy = true := by
  rw [importField, Tree.Field.isTidy, Tree.areTidyItems_eq_all, List.all_map, List.all_eq_true]
  rintro ⟨id, newName⟩ -
  cases newName <;> rfl

mutual

/-- The tree of a statement shows its nodes. -/
theorem shows_statement : (statement : Statement) → Shows statement.tree statement.heads
  | .output _ parts => .node (.list (itemsShow_items parts) .nil)
  | .loop _ target iter test _ body orElse =>
      .node (.tree (shows_expr target) (.tree (shows_expr iter) (.list (itemsShow_statements body)
        (.list (itemsShow_statements orElse) (fieldsShow_optional (.data .nil) test)))))
  | .branch (.mk _ test body) others orElse =>
      .node (.tree (shows_expr test) (.list (itemsShow_statements body)
        (.list (itemsShow_clauses others) (.list (itemsShow_statements orElse) .nil))))
  | .bind _ targets values body =>
      .node (.list (itemsShow_items targets) (.list (itemsShow_items values)
        (.list (itemsShow_statements body) .nil)))
  | .assign _ target value => .node (.tree (shows_expr target) (.tree (shows_expr value) .nil))
  | .assignBlock _ target filter body =>
      .node (.tree (shows_expr target)
        (fieldsShow_optional (.list (itemsShow_statements body) .nil) filter))
  | .defineMacro _ _ params defaults body =>
      .node (.data (.list (itemsShow_items params) (.list (itemsShow_items defaults)
        (.list (itemsShow_statements body) .nil))))
  | .callBlock _ call params defaults body =>
      .node (.tree (shows_expr call) (.list (itemsShow_items params) (.list (itemsShow_items defaults)
        (.list (itemsShow_statements body) .nil))))
  | .filterBlock _ filter body =>
      .node (.list (itemsShow_statements body) (.tree (shows_expr filter) .nil))
  | .escaping line option body => by
      -- The body stands two nodes deeper than in the syntax, and the option three.
      have hscope : Shows (Statement.escaping line option body).tree _ :=
        .node (.list (.tree (.node (.list (.tree (.node (.data (.tree (shows_expr option) .nil))) .nil)
          (.list (itemsShow_statements body) .nil))) .nil) .nil)
      simpa [Statement.heads] using hscope
  | .block _ _ body _ _ => .node (.data (.list (itemsShow_statements body) (.data (.data .nil))))
  | .extend _ parent => .node (.tree (shows_expr parent) .nil)
  | .includeFrom _ source _ _ => .node (.tree (shows_expr source) (.data (.data .nil)))
  | .importAs _ source _ _ => .node (.tree (shows_expr source) (.data (.data .nil)))
  | .importNames _ source names _ =>
      .node (.tree (shows_expr source)
        (.plain (isPlain_importField names) (isTidy_importField names) (.data .nil)))

theorem itemsShow_statements : (statements : List Statement) →
    ItemsShow (statementFields statements) (bodyHeads statements)
  | [] => .nil
  | statement :: rest => .tree (shows_statement statement) (itemsShow_statements rest)

theorem itemsShow_clauses : (clauses : List Clause) → ItemsShow (clauseFields clauses) (clauseHeads clauses)
  | [] => .nil
  | .mk _ test body :: rest =>
      .tree (.node (.tree (shows_expr test) (.list (itemsShow_statements body) (.list .nil (.list .nil .nil)))))
        (itemsShow_clauses rest)

end

/-- The tree of a template shows its nodes. -/
theorem shows_displayTree (body : List Statement) : Shows (displayTree body) (templateHeads body) := by
  have hbody : Shows (displayTree body) _ := .node (.list (itemsShow_statements body) .nil)
  simpa [templateHeads] using hbody

end Template

end TemplateWorkbench
