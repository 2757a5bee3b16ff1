import TemplateWorkbench.Proofs.Outline.Integers
import TemplateWorkbench.Template.Display

/-!
# The integers of a displayed template

The display tree of a template is shallow, so what decides whether it can be written out is how long its
integers are.  This file finds them in the syntax: an expression or a statement *fits* a kind of integers
if all integers in its tree are of the kind, and that is so exactly when its parts fit.
-/

namespace TemplateWorkbench.Template

open TemplateWorkbench.Tree (itemIntegers fieldIntegers areShallowItems)

/-! ### The tree is shallow -/

theorem areShallowItems_cons_tree (tree : Tree) (rest : List Tree.Field) :
    areShallowItems (.tree tree :: rest) = (tree.isShallow && areShallowItems rest) := by
  rw [areShallowItems]

theorem areShallow_cons_list (name : String) (items : List Tree.Field)
    (rest : List (String × Tree.Field)) : Tree.areShallow ((name, .list items) :: rest) =
      (areShallowItems items && Tree.areShallow rest) := by
  rw [Tree.areShallow]

mutual

theorem isShallow_tree : (expr : Expr) → expr.tree.isShallow = true
  | .const _ _ | .data _ _ | .name _ _ _ | .namespaceRef _ _ _ => rfl
  | .tuple _ items _ | .list _ items | .concat _ items => by
      simp [Expr.tree, Tree.isShallow, Tree.areShallow, textField, useField,
        areShallowItems_itemFields items]
  | .dict _ entries => by
      simp [Expr.tree, Tree.isShallow, Tree.areShallow, areShallowItems_entryFields entries]
  | .conditional _ test whenTrue whenFalse => by
      have hfalse := areShallow_optionalField "expr2" [] whenFalse
      simp [Expr.tree, Tree.isShallow, Tree.areShallow, isShallow_tree test,
        isShallow_tree whenTrue] at hfalse ⊢
      exact hfalse
  | .binary _ _ left right => by
      simp [Expr.tree, Tree.isShallow, Tree.areShallow, isShallow_tree left, isShallow_tree right]
  | .unary _ _ operand => by
      simp [Expr.tree, Tree.isShallow, Tree.areShallow, isShallow_tree operand]
  | .compare _ first others => by
      simp [Expr.tree, Tree.isShallow, Tree.areShallow, isShallow_tree first,
        areShallowItems_operandFields others]
  | .getattr _ object _ => by
      simp [Expr.tree, Tree.isShallow, Tree.areShallow, textField, useField, isShallow_tree object]
  | .getitem _ object index => by
      simp [Expr.tree, Tree.isShallow, Tree.areShallow, textField, useField, isShallow_tree object,
        isShallow_tree index]
  | .slice _ start stop step => by
      simp [Expr.tree, Tree.isShallow, areShallow_optionalField _ _ start,
        areShallow_optionalField _ _ stop, areShallow_optionalField _ _ step, Tree.areShallow]
  | .call _ function arguments => by
      simp [Expr.tree, Tree.isShallow, Tree.areShallow, isShallow_tree function,
        areShallow_fields arguments]
  | .filter _ subject _ arguments => by
      simp [Expr.tree, Tree.isShallow, areShallow_optionalField _ _ subject, Tree.areShallow,
        textField, areShallow_fields arguments]
  | .test _ subject _ arguments => by
      simp [Expr.tree, Tree.isShallow, Tree.areShallow, textField, isShallow_tree subject,
        areShallow_fields arguments]

theorem areShallow_fields : (arguments : Arguments) → Tree.areShallow arguments.fields = true
  | .mk positional keywords more moreKeywords => by
      simp [Arguments.fields, areShallow_cons_list, areShallowItems_itemFields positional,
        areShallowItems_keywordFields keywords, areShallow_optionalField _ _ more,
        areShallow_optionalField _ _ moreKeywords, Tree.areShallow]

theorem areShallowItems_itemFields : (items : List Expr) →
    areShallowItems (itemFields items) = true
  | [] => rfl
  | item :: rest => by
      rw [itemFields, areShallowItems_cons_tree, isShallow_tree item,
        areShallowItems_itemFields rest]
      rfl

theorem areShallowItems_entryFields : (entries : List (Expr × Expr)) →
    areShallowItems (entryFields entries) = true
  | [] => rfl
  | (key, value) :: rest => by
      simp [entryFields, areShallowItems_cons_tree, Tree.isShallow, Tree.areShallow,
        isShallow_tree key, isShallow_tree value, areShallowItems_entryFields rest]

theorem areShallowItems_operandFields : (others : List (CompareOp × Expr)) →
    areShallowItems (operandFields others) = true
  | [] => rfl
  | (_, operand) :: rest => by
      simp [operandFields, areShallowItems_cons_tree, Tree.isShallow, Tree.areShallow, textField,
        isShallow_tree operand, areShallowItems_operandFields rest]

theorem areShallowItems_keywordFields : (keywords : List (String × Expr)) →
    areShallowItems (keywordFields keywords) = true
  | [] => rfl
  | (_, value) :: rest => by
      simp [keywordFields, areShallowItems_cons_tree, Tree.isShallow, Tree.areShallow, textField,
        isShallow_tree value, areShallowItems_keywordFields rest]

theorem areShallow_optionalField (name : String) (rest : List (String × Tree.Field)) :
    (expr : Option Expr) →
      Tree.areShallow ((name, optionalField expr) :: rest) = Tree.areShallow rest
  | none => by rw [optionalField, Tree.areShallow]
  | some expr => by rw [optionalField, Tree.areShallow, isShallow_tree expr, Bool.true_and]

end

theorem isPlain_importField (names : List (String × Option String)) :
    (importField names).isPlain = true := by
  rw [importField, Tree.Field.isPlain, Tree.arePlain_eq_all, List.all_map, List.all_eq_true]
  rintro ⟨id, newName⟩ -
  cases newName <;> rfl

mutual

theorem isShallow_statement : (statement : Statement) → statement.tree.isShallow = true
  | .output _ parts => by
      simp [Statement.tree, Tree.isShallow, Tree.areShallow, areShallowItems_itemFields parts]
  | .loop _ target iter test _ body orElse => by
      simp [Statement.tree, Tree.isShallow, Tree.areShallow, flagField, isShallow_tree target,
        isShallow_tree iter, areShallow_optionalField _ _ test, areShallowItems_statementFields body,
        areShallowItems_statementFields orElse]
  | .branch (.mk _ test body) others orElse => by
      simp [Statement.tree, Tree.isShallow, Tree.areShallow, isShallow_tree test,
        areShallowItems_statementFields body, areShallowItems_clauseFields others,
        areShallowItems_statementFields orElse]
  | .bind _ targets values body => by
      simp [Statement.tree, Tree.isShallow, Tree.areShallow, areShallowItems_itemFields targets,
        areShallowItems_itemFields values, areShallowItems_statementFields body]
  | .assign _ target value => by
      simp [Statement.tree, Tree.isShallow, Tree.areShallow, isShallow_tree target,
        isShallow_tree value]
  | .assignBlock _ target filter body => by
      simp [Statement.tree, Tree.isShallow, Tree.areShallow, isShallow_tree target,
        areShallow_optionalField _ _ filter, areShallowItems_statementFields body]
  | .defineMacro _ _ params defaults body => by
      simp [Statement.tree, Tree.isShallow, Tree.areShallow, textField,
        areShallowItems_itemFields params, areShallowItems_itemFields defaults,
        areShallowItems_statementFields body]
  | .callBlock _ call params defaults body => by
      simp [Statement.tree, Tree.isShallow, Tree.areShallow, isShallow_tree call,
        areShallowItems_itemFields params, areShallowItems_itemFields defaults,
        areShallowItems_statementFields body]
  | .filterBlock _ filter body => by
      simp [Statement.tree, Tree.isShallow, Tree.areShallow, isShallow_tree filter,
        areShallowItems_statementFields body]
  | .escaping _ option body => by
      simp [Statement.tree, Tree.isShallow, Tree.areShallow, areShallowItems, textField,
        isShallow_tree option, areShallowItems_statementFields body]
  | .block _ _ body _ _ => by
      simp [Statement.tree, Tree.isShallow, Tree.areShallow, textField, flagField,
        areShallowItems_statementFields body]
  | .extend _ parent => by
      simp [Statement.tree, Tree.isShallow, Tree.areShallow, isShallow_tree parent]
  | .includeFrom _ source _ _ => by
      simp [Statement.tree, Tree.isShallow, Tree.areShallow, flagField, isShallow_tree source]
  | .importAs _ source _ _ => by
      simp [Statement.tree, Tree.isShallow, Tree.areShallow, textField, flagField,
        isShallow_tree source]
  | .importNames _ source names _ => by
      simp [Statement.tree, Tree.isShallow, Tree.areShallow, flagField, isShallow_tree source,
        Tree.areShallow_cons_plain (isPlain_importField names)]

theorem areShallowItems_statementFields : (statements : List Statement) →
    areShallowItems (statementFields statements) = true
  | [] => rfl
  | statement :: rest => by
      rw [statementFields, areShallowItems_cons_tree, isShallow_statement statement,
        areShallowItems_statementFields rest]
      rfl

theorem areShallowItems_clauseFields : (clauses : List Clause) →
    areShallowItems (clauseFields clauses) = true
  | [] => rfl
  | .mk _ test body :: rest => by
      simp [clauseFields, areShallowItems_cons_tree, Tree.isShallow, Tree.areShallow,
        areShallowItems, isShallow_tree test, areShallowItems_statementFields body,
        areShallowItems_clauseFields rest]

end

/-- The display tree of a template is shallow. -/
theorem isShallow_displayTree (statements : List Statement) :
    (displayTree statements).isShallow = true := by
  simp [displayTree, Tree.isShallow, Tree.areShallow, areShallowItems_statementFields statements]

/-! ### The integers of expressions -/

/-- The integers in an expression. -/
def Expr.integers (expr : Expr) : List Int := expr.tree.integers

/-- The integers in a statement. -/
def Statement.integers (statement : Statement) : List Int := statement.tree.integers

theorem integers_optionalField (expr : Option Expr) :
    (optionalField expr).integers = expr.toList.flatMap Expr.integers := by
  cases expr with
  | none => rfl
  | some expr => simp [optionalField, Tree.Field.integers, Expr.integers]

theorem integers_itemFields (items : List Expr) :
    itemIntegers (itemFields items) = items.flatMap Expr.integers := by
  induction items with
  | nil => rfl
  | cons item rest ih =>
      rw [itemFields, itemIntegers, ih, List.flatMap_cons, Tree.Field.integers, Expr.integers]

theorem integers_entryFields (entries : List (Expr × Expr)) :
    itemIntegers (entryFields entries) =
      entries.flatMap fun entry => entry.1.integers ++ entry.2.integers := by
  induction entries with
  | nil => rfl
  | cons entry rest ih =>
      simp [entryFields, itemIntegers, ih, Tree.Field.integers, Tree.integers, fieldIntegers,
        Expr.integers]

theorem integers_operandFields (others : List (CompareOp × Expr)) :
    itemIntegers (operandFields others) = others.flatMap fun other => other.2.integers := by
  induction others with
  | nil => rfl
  | cons other rest ih =>
      simp [operandFields, itemIntegers, ih, Tree.Field.integers, Tree.integers, fieldIntegers,
        Expr.integers, textField, Json.integers]

theorem integers_keywordFields (keywords : List (String × Expr)) :
    itemIntegers (keywordFields keywords) =
      keywords.flatMap fun keyword => keyword.2.integers := by
  induction keywords with
  | nil => rfl
  | cons keyword rest ih =>
      simp [keywordFields, itemIntegers, ih, Tree.Field.integers, Tree.integers, fieldIntegers,
        Expr.integers, textField, Json.integers]

theorem integers_statementFields (statements : List Statement) :
    itemIntegers (statementFields statements) = statements.flatMap Statement.integers := by
  induction statements with
  | nil => rfl
  | cons statement rest ih =>
      rw [statementFields, itemIntegers, ih, List.flatMap_cons, Tree.Field.integers,
        Statement.integers]

/-- The integers in a clause. -/
def Clause.integers : Clause → List Int
  | .mk _ test body => test.integers ++ body.flatMap Statement.integers

theorem integers_clauseFields (clauses : List Clause) :
    itemIntegers (clauseFields clauses) = clauses.flatMap Clause.integers := by
  induction clauses with
  | nil => rfl
  | cons clause rest ih =>
      obtain ⟨line, test, body⟩ := clause
      simp [clauseFields, itemIntegers, ih, Tree.Field.integers, Tree.integers, fieldIntegers,
        Expr.integers, Clause.integers, integers_statementFields]

theorem integers_importField (names : List (String × Option String)) :
    (importField names).integers = [] := by
  rw [importField, Tree.Field.integers]
  induction names with
  | nil => rfl
  | cons name rest ih =>
      obtain ⟨id, newName⟩ := name
      cases newName <;>
        simpa [itemIntegers, Tree.Field.integers, textField, Json.integers] using ih

/-! ### The integers of each construct -/

namespace Expr

variable {line : Nat}

@[simp] theorem integers_int {value : Int} : (const line (.int value)).integers = [value] := rfl

@[simp] theorem integers_data {text : String} : (data line text).integers = [] := rfl

@[simp] theorem integers_name {id : String} {use : NameUse} : (name line id use).integers = [] := rfl

@[simp] theorem integers_namespaceRef {id attr : String} :
    (namespaceRef line id attr).integers = [] := rfl

@[simp] theorem integers_tuple {items : List Expr} {use : NameUse} :
    (tuple line items use).integers = items.flatMap integers := by
  simp [integers, tree, Tree.integers, fieldIntegers, Tree.Field.integers, useField, textField,
    Json.integers, integers_itemFields]

@[simp] theorem integers_list {items : List Expr} :
    (list line items).integers = items.flatMap integers := by
  simp [integers, tree, Tree.integers, fieldIntegers, Tree.Field.integers, integers_itemFields]

@[simp] theorem integers_dict {entries : List (Expr × Expr)} : (dict line entries).integers =
    entries.flatMap fun entry => entry.1.integers ++ entry.2.integers := by
  simp [integers, tree, Tree.integers, fieldIntegers, Tree.Field.integers, integers_entryFields]

@[simp] theorem integers_conditional {test whenTrue : Expr} {whenFalse : Option Expr} :
    (conditional line test whenTrue whenFalse).integers =
      test.integers ++ whenTrue.integers ++ whenFalse.toList.flatMap integers := by
  simp [integers, tree, Tree.integers, fieldIntegers, Tree.Field.integers, integers_optionalField]

@[simp] theorem integers_binary {op : BinaryOp} {left right : Expr} :
    (binary line op left right).integers = left.integers ++ right.integers := by
  simp [integers, tree, Tree.integers, fieldIntegers, Tree.Field.integers]

@[simp] theorem integers_unary {op : UnaryOp} {operand : Expr} :
    (unary line op operand).integers = operand.integers := by
  simp [integers, tree, Tree.integers, fieldIntegers, Tree.Field.integers]

@[simp] theorem integers_compare {first : Expr} {others : List (CompareOp × Expr)} :
    (compare line first others).integers =
      first.integers ++ others.flatMap fun other => other.2.integers := by
  simp [integers, tree, Tree.integers, fieldIntegers, Tree.Field.integers, integers_operandFields]

@[simp] theorem integers_concat {parts : List Expr} :
    (concat line parts).integers = parts.flatMap integers := by
  simp [integers, tree, Tree.integers, fieldIntegers, Tree.Field.integers, integers_itemFields]

@[simp] theorem integers_getattr {object : Expr} {attr : String} :
    (getattr line object attr).integers = object.integers := by
  simp [integers, tree, Tree.integers, fieldIntegers, Tree.Field.integers, useField, textField,
    Json.integers]

@[simp] theorem integers_getitem {object index : Expr} :
    (getitem line object index).integers = object.integers ++ index.integers := by
  simp [integers, tree, Tree.integers, fieldIntegers, Tree.Field.integers, useField, textField,
    Json.integers]

@[simp] theorem integers_slice {start stop step : Option Expr} : (slice line start stop step).integers =
    start.toList.flatMap integers ++ stop.toList.flatMap integers ++
      step.toList.flatMap integers := by
  simp [integers, tree, Tree.integers, fieldIntegers, integers_optionalField]

end Expr

/-- The integers in arguments. -/
def Arguments.integers (arguments : Arguments) : List Int := fieldIntegers arguments.fields

@[simp] theorem Arguments.integers_mk {positional : List Expr} {keywords : List (String × Expr)}
    {more moreKeywords : Option Expr} : (mk positional keywords more moreKeywords).integers =
      positional.flatMap Expr.integers ++ (keywords.flatMap fun keyword => keyword.2.integers) ++
        more.toList.flatMap Expr.integers ++ moreKeywords.toList.flatMap Expr.integers := by
  simp [integers, fields, fieldIntegers, Tree.Field.integers, integers_itemFields,
    integers_keywordFields, integers_optionalField]

namespace Expr

variable {line : Nat}

@[simp] theorem integers_call {function : Expr} {arguments : Arguments} :
    (call line function arguments).integers = function.integers ++ arguments.integers := by
  simp [integers, tree, Tree.integers, fieldIntegers, Tree.Field.integers, Arguments.integers]

@[simp] theorem integers_filter {subject : Option Expr} {id : String} {arguments : Arguments} :
    (filter line subject id arguments).integers =
      subject.toList.flatMap integers ++ arguments.integers := by
  simp [integers, tree, Tree.integers, fieldIntegers, Tree.Field.integers, integers_optionalField,
    textField, Json.integers, Arguments.integers]

@[simp] theorem integers_test {subject : Expr} {id : String} {arguments : Arguments} :
    (test line subject id arguments).integers = subject.integers ++ arguments.integers := by
  simp [integers, tree, Tree.integers, fieldIntegers, Tree.Field.integers, textField, Json.integers,
    Arguments.integers]

mutual

/-- Another use of names changes no integer. -/
theorem integers_withUse (use : NameUse) : (expr : Expr) → (expr.withUse use).integers = expr.integers
  | name _ _ _ => rfl
  | tuple line items _ => by
      rw [withUse, integers_tuple, integers_tuple, integers_allWithUse use items]
  | const _ _ | data _ _ | namespaceRef _ _ _ | list _ _ | dict _ _ | conditional _ _ _ _
  | binary _ _ _ _ | unary _ _ _ | compare _ _ _ | concat _ _ | getattr _ _ _ | getitem _ _ _
  | slice _ _ _ _ | call _ _ _ | filter _ _ _ _ | test _ _ _ _ => rfl

theorem integers_allWithUse (use : NameUse) : (items : List Expr) →
    (allWithUse use items).flatMap integers = items.flatMap integers
  | [] => rfl
  | item :: rest => by
      rw [allWithUse, List.flatMap_cons, List.flatMap_cons, integers_withUse use item,
        integers_allWithUse use rest]

end

end Expr

namespace Statement

variable {line : Nat}

@[simp] theorem integers_output {parts : List Expr} :
    (output line parts).integers = parts.flatMap Expr.integers := by
  simp [integers, tree, Tree.integers, fieldIntegers, Tree.Field.integers, integers_itemFields]

@[simp] theorem integers_loop {target iter : Expr} {test : Option Expr} {recursive : Bool}
    {body orElse : List Statement} : (loop line target iter test recursive body orElse).integers =
      target.integers ++ iter.integers ++ body.flatMap integers ++ orElse.flatMap integers ++
        test.toList.flatMap Expr.integers := by
  simp [integers, tree, Tree.integers, fieldIntegers, Tree.Field.integers, flagField, Json.integers,
    Expr.integers, integers_statementFields, integers_optionalField]

@[simp] theorem integers_branch {clause : Clause} {others : List Clause} {orElse : List Statement} :
    (branch clause others orElse).integers =
      clause.integers ++ others.flatMap Clause.integers ++ orElse.flatMap integers := by
  obtain ⟨line, test, body⟩ := clause
  simp [integers, tree, Tree.integers, fieldIntegers, Tree.Field.integers, Expr.integers,
    Clause.integers, integers_statementFields, integers_clauseFields]

@[simp] theorem integers_bind {targets values : List Expr} {body : List Statement} :
    (bind line targets values body).integers =
      targets.flatMap Expr.integers ++ values.flatMap Expr.integers ++ body.flatMap integers := by
  simp [integers, tree, Tree.integers, fieldIntegers, Tree.Field.integers, integers_itemFields,
    integers_statementFields]

@[simp] theorem integers_assign {target value : Expr} :
    (assign line target value).integers = target.integers ++ value.integers := by
  simp [integers, tree, Tree.integers, fieldIntegers, Tree.Field.integers, Expr.integers]

@[simp] theorem integers_assignBlock {target : Expr} {filter : Option Expr} {body : List Statement} :
    (assignBlock line target filter body).integers =
      target.integers ++ filter.toList.flatMap Expr.integers ++ body.flatMap integers := by
  simp [integers, tree, Tree.integers, fieldIntegers, Tree.Field.integers, Expr.integers,
    integers_optionalField, integers_statementFields]

@[simp] theorem integers_defineMacro {id : String} {params defaults : List Expr} {body : List Statement} :
    (defineMacro line id params defaults body).integers =
      params.flatMap Expr.integers ++ defaults.flatMap Expr.integers ++ body.flatMap integers := by
  simp [integers, tree, Tree.integers, fieldIntegers, Tree.Field.integers, textField, Json.integers,
    integers_itemFields, integers_statementFields]

@[simp] theorem integers_callBlock {call : Expr} {params defaults : List Expr} {body : List Statement} :
    (callBlock line call params defaults body).integers =
      call.integers ++ params.flatMap Expr.integers ++ defaults.flatMap Expr.integers ++
        body.flatMap integers := by
  simp [integers, tree, Tree.integers, fieldIntegers, Tree.Field.integers, Expr.integers,
    integers_itemFields, integers_statementFields]

@[simp] theorem integers_filterBlock {filter : Expr} {body : List Statement} :
    (filterBlock line filter body).integers = body.flatMap integers ++ filter.integers := by
  simp [integers, tree, Tree.integers, fieldIntegers, Tree.Field.integers, Expr.integers,
    integers_statementFields]

@[simp] theorem integers_escaping {option : Expr} {body : List Statement} :
    (escaping line option body).integers = option.integers ++ body.flatMap integers := by
  simp [integers, tree, Tree.integers, fieldIntegers, itemIntegers, Tree.Field.integers, textField,
    Json.integers, Expr.integers, integers_statementFields]

@[simp] theorem integers_block {id : String} {body : List Statement} {seesScope required : Bool} :
    (block line id body seesScope required).integers = body.flatMap integers := by
  simp [integers, tree, Tree.integers, fieldIntegers, Tree.Field.integers, textField, flagField,
    Json.integers, integers_statementFields]

@[simp] theorem integers_extend {parent : Expr} : (extend line parent).integers = parent.integers := by
  simp [integers, tree, Tree.integers, fieldIntegers, Tree.Field.integers, Expr.integers]

@[simp] theorem integers_includeFrom {source : Expr} {withContext ignoring : Bool} :
    (includeFrom line source withContext ignoring).integers = source.integers := by
  simp [integers, tree, Tree.integers, fieldIntegers, Tree.Field.integers, flagField, Json.integers,
    Expr.integers]

@[simp] theorem integers_importAs {source : Expr} {target : String} {withContext : Bool} :
    (importAs line source target withContext).integers = source.integers := by
  simp [integers, tree, Tree.integers, fieldIntegers, Tree.Field.integers, textField, flagField,
    Json.integers, Expr.integers]

@[simp] theorem integers_importNames {source : Expr} {names : List (String × Option String)}
    {withContext : Bool} : (importNames line source names withContext).integers = source.integers := by
  simp [integers, tree, Tree.integers, fieldIntegers, Tree.Field.integers, flagField, Json.integers,
    Expr.integers, integers_importField]

end Statement

/-- The integers of a displayed template are those of its statements. -/
@[simp] theorem integers_displayTree (statements : List Statement) :
    (displayTree statements).integers = statements.flatMap Statement.integers := by
  simp [displayTree, Tree.integers, fieldIntegers, Tree.Field.integers, integers_statementFields]

end TemplateWorkbench.Template
