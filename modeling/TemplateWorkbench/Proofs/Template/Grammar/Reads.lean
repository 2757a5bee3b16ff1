import TemplateWorkbench.Proofs.Template.Display
import TemplateWorkbench.Proofs.Template.Grammar.Reading
import TemplateWorkbench.Proofs.Template.SyntaxNodes
import TemplateWorkbench.Template.Mention

/-!
# What may be read from a list of tokens

An expression may be read from a list if its integers and the lines of its nodes stand there; a statement,
if also the names of its blocks do.  For every construct there is one lemma: it may be read if its line
stands in the list and its parts may be read.
-/

namespace TemplateWorkbench.Template.Grammar.Outlook

variable {o : Outlook} {α : Type}

/-! ### Integers and lines -/

/-- Whether integers may stand in the list. -/
def Allows (o : Outlook) (integers : List Int) : Prop := ∀ n ∈ integers, o.integer n

@[simp] theorem allows_nil : o.Allows [] := nofun

@[simp] theorem allows_singleton {n : Int} : o.Allows [n] ↔ o.integer n := by simp [Allows]

@[simp] theorem allows_append {front back : List Int} :
    o.Allows (front ++ back) ↔ o.Allows front ∧ o.Allows back := by
  simp only [Allows, List.mem_append, or_imp, forall_and]

@[simp] theorem allows_flatMap {items : List α} {f : α → List Int} :
    o.Allows (items.flatMap f) ↔ ∀ item ∈ items, o.Allows (f item) := by
  simp only [Allows, List.mem_flatMap, forall_exists_index, and_imp]
  exact ⟨fun h item hitem n hn => h n item hitem hn, fun h n item hitem hn => h item hitem n hn⟩

/-- Whether nodes may stand on the lines of the list. -/
def Places (o : Outlook) (heads : List Head) : Prop := ∀ head ∈ heads, o.line head.line

@[simp] theorem places_nil : o.Places [] := nofun

@[simp] theorem places_cons {head : Head} {rest : List Head} :
    o.Places (head :: rest) ↔ o.line head.line ∧ o.Places rest := List.forall_mem_cons

@[simp] theorem places_append {front back : List Head} :
    o.Places (front ++ back) ↔ o.Places front ∧ o.Places back := List.forall_mem_append

/-- What holds of all items of a list and of one more. -/
theorem forall_mem_concat {kind : α → Prop} {items : List α} {last : α}
    (hitems : ∀ item ∈ items, kind item) (hlast : kind last) : ∀ item ∈ items ++ [last], kind item := by
  intro item hitem
  rcases List.mem_append.mp hitem with hmem | hmem
  · exact hitems item hmem
  · rw [List.mem_singleton.mp hmem]
    exact hlast

/-! ### Expressions -/

/-- Whether an expression may be read from the list. -/
structure ReadsExpr (o : Outlook) (expr : Expr) : Prop where
  integers : o.Allows expr.integers
  places : o.Places expr.heads

/-- Whether an expression that may be left out may be read from the list. -/
def ReadsOptional (o : Outlook) (expr : Option Expr) : Prop := ∀ e ∈ expr, o.ReadsExpr e

/-- Whether arguments may be read from the list. -/
structure ReadsArguments (o : Outlook) (arguments : Arguments) : Prop where
  integers : o.Allows arguments.integers
  places : o.Places arguments.heads

variable {line : Nat} {expr : Expr} {items : List Expr}

theorem readsOptional_none : o.ReadsOptional none := nofun

theorem readsOptional_some : o.ReadsOptional (some expr) ↔ o.ReadsExpr expr := by
  simp [ReadsOptional]

theorem ReadsOptional.allows {expr : Option Expr} (hexpr : o.ReadsOptional expr) :
    o.Allows (expr.toList.flatMap Expr.integers) := by
  rw [allows_flatMap]
  exact fun e he => (hexpr e (Option.mem_toList.mp he)).integers

theorem ReadsOptional.places {expr : Option Expr} (hexpr : o.ReadsOptional expr) :
    o.Places (optionalHeads expr) := by
  cases expr with
  | none => exact places_nil
  | some expr => exact (readsOptional_some.mp hexpr).places

/-- An expression that may be read stands on a line of the list. -/
theorem ReadsExpr.placed (hexpr : o.ReadsExpr expr) : o.line expr.line := by
  obtain ⟨head, hhead, hline⟩ := expr.exists_head
  rw [← hline]
  exact hexpr.places head hhead

theorem allows_items (hitems : ∀ item ∈ items, o.ReadsExpr item) :
    o.Allows (items.flatMap Expr.integers) :=
  allows_flatMap.mpr fun item hmem => (hitems item hmem).integers

theorem places_items (hitems : ∀ item ∈ items, o.ReadsExpr item) : o.Places (itemHeads items) := by
  induction items with
  | nil => exact places_nil
  | cons item rest ih =>
      obtain ⟨hitem, hrest⟩ := List.forall_mem_cons.mp hitems
      exact places_append.mpr ⟨hitem.places, ih hrest⟩

theorem places_entries {entries : List (Expr × Expr)}
    (hentries : ∀ entry ∈ entries, o.ReadsExpr entry.1 ∧ o.ReadsExpr entry.2) :
    o.Places (entryHeads entries) := by
  induction entries with
  | nil => exact places_nil
  | cons entry rest ih =>
      obtain ⟨⟨hkey, hvalue⟩, hrest⟩ := List.forall_mem_cons.mp hentries
      simp [entryHeads, hkey.placed, hkey.places, hvalue.places, ih hrest]

theorem places_operands {others : List (CompareOp × Expr)}
    (hothers : ∀ other ∈ others, o.ReadsExpr other.2) : o.Places (operandHeads others) := by
  induction others with
  | nil => exact places_nil
  | cons other rest ih =>
      obtain ⟨hother, hrest⟩ := List.forall_mem_cons.mp hothers
      simp [operandHeads, o.unplaced, hother.places, ih hrest]

theorem places_keywords {keywords : List (String × Expr)}
    (hkeywords : ∀ keyword ∈ keywords, o.ReadsExpr keyword.2) : o.Places (keywordHeads keywords) := by
  induction keywords with
  | nil => exact places_nil
  | cons keyword rest ih =>
      obtain ⟨hvalue, hrest⟩ := List.forall_mem_cons.mp hkeywords
      simp [keywordHeads, hvalue.placed, hvalue.places, ih hrest]

namespace ReadsExpr

/-- A literal that is no integer may be read on every line of the list. -/
theorem const {value : Value} (hline : o.line line) (hvalue : value.literalJson.integers = []) :
    o.ReadsExpr (.const line value) where
  integers := by
    have hnone : (Expr.const line value).integers = [] := by
      simp [Expr.integers, Expr.tree, Tree.integers, Tree.fieldIntegers, Tree.Field.integers, hvalue]
    rw [hnone]
    exact allows_nil
  places := by simp [Expr.heads, hline]

theorem int {value : Int} (hline : o.line line) (hvalue : o.integer value) :
    o.ReadsExpr (.const line (.int value)) where
  integers := by simpa using hvalue
  places := by simp [Expr.heads, hline]

theorem data {text : String} (hline : o.line line) : o.ReadsExpr (.data line text) where
  integers := by simp
  places := by simp [Expr.heads, hline]

theorem name {id : String} {use : NameUse} (hline : o.line line) :
    o.ReadsExpr (.name line id use) where
  integers := by simp
  places := by simp [Expr.heads, hline]

theorem namespaceRef {id attr : String} (hline : o.line line) :
    o.ReadsExpr (.namespaceRef line id attr) where
  integers := by simp
  places := by simp [Expr.heads, hline]

theorem tuple {use : NameUse} (hline : o.line line) (hitems : ∀ item ∈ items, o.ReadsExpr item) :
    o.ReadsExpr (.tuple line items use) where
  integers := by rw [Expr.integers_tuple]; exact allows_items hitems
  places := by simp [Expr.heads, hline, places_items hitems]

theorem list (hline : o.line line) (hitems : ∀ item ∈ items, o.ReadsExpr item) :
    o.ReadsExpr (.list line items) where
  integers := by rw [Expr.integers_list]; exact allows_items hitems
  places := by simp [Expr.heads, hline, places_items hitems]

theorem dict {entries : List (Expr × Expr)} (hline : o.line line)
    (hentries : ∀ entry ∈ entries, o.ReadsExpr entry.1 ∧ o.ReadsExpr entry.2) :
    o.ReadsExpr (.dict line entries) where
  integers := by
    rw [Expr.integers_dict, allows_flatMap]
    exact fun entry hmem => allows_append.mpr
      ⟨(hentries entry hmem).1.integers, (hentries entry hmem).2.integers⟩
  places := by simp [Expr.heads, hline, places_entries hentries]

theorem conditional {test whenTrue : Expr} {whenFalse : Option Expr} (hline : o.line line)
    (htest : o.ReadsExpr test) (htrue : o.ReadsExpr whenTrue) (hfalse : o.ReadsOptional whenFalse) :
    o.ReadsExpr (.conditional line test whenTrue whenFalse) where
  integers := by
    simp only [Expr.integers_conditional, allows_append]
    exact ⟨⟨htest.integers, htrue.integers⟩, hfalse.allows⟩
  places := by simp [Expr.heads, hline, htest.places, htrue.places, hfalse.places]

theorem binary {op : BinaryOp} {left right : Expr} (hline : o.line line) (hleft : o.ReadsExpr left)
    (hright : o.ReadsExpr right) : o.ReadsExpr (.binary line op left right) where
  integers := by simpa using ⟨hleft.integers, hright.integers⟩
  places := by simp [Expr.heads, hline, hleft.places, hright.places]

theorem unary {op : UnaryOp} {operand : Expr} (hline : o.line line) (hoperand : o.ReadsExpr operand) :
    o.ReadsExpr (.unary line op operand) where
  integers := by simpa using hoperand.integers
  places := by simp [Expr.heads, hline, hoperand.places]

theorem compare {first : Expr} {others : List (CompareOp × Expr)} (hline : o.line line)
    (hfirst : o.ReadsExpr first) (hothers : ∀ other ∈ others, o.ReadsExpr other.2) :
    o.ReadsExpr (.compare line first others) where
  integers := by
    simp only [Expr.integers_compare, allows_append, allows_flatMap]
    exact ⟨hfirst.integers, fun other hmem => (hothers other hmem).integers⟩
  places := by simp [Expr.heads, hline, hfirst.places, places_operands hothers]

theorem concat (hline : o.line line) (hitems : ∀ item ∈ items, o.ReadsExpr item) :
    o.ReadsExpr (.concat line items) where
  integers := by rw [Expr.integers_concat]; exact allows_items hitems
  places := by simp [Expr.heads, hline, places_items hitems]

theorem getattr {object : Expr} {attr : String} (hline : o.line line) (hobject : o.ReadsExpr object) :
    o.ReadsExpr (.getattr line object attr) where
  integers := by simpa using hobject.integers
  places := by simp [Expr.heads, hline, hobject.places]

theorem getitem {object index : Expr} (hline : o.line line) (hobject : o.ReadsExpr object)
    (hindex : o.ReadsExpr index) : o.ReadsExpr (.getitem line object index) where
  integers := by simpa using ⟨hobject.integers, hindex.integers⟩
  places := by simp [Expr.heads, hline, hobject.places, hindex.places]

theorem slice {start stop step : Option Expr} (hline : o.line line) (hstart : o.ReadsOptional start)
    (hstop : o.ReadsOptional stop) (hstep : o.ReadsOptional step) :
    o.ReadsExpr (.slice line start stop step) where
  integers := by
    simp only [Expr.integers_slice, allows_append]
    exact ⟨⟨hstart.allows, hstop.allows⟩, hstep.allows⟩
  places := by simp [Expr.heads, hline, hstart.places, hstop.places, hstep.places]

theorem call {function : Expr} {arguments : Arguments} (hline : o.line line)
    (hfunction : o.ReadsExpr function) (harguments : o.ReadsArguments arguments) :
    o.ReadsExpr (.call line function arguments) where
  integers := by simpa using ⟨hfunction.integers, harguments.integers⟩
  places := by simp [Expr.heads, hline, hfunction.places, harguments.places]

theorem filter {subject : Option Expr} {id : String} {arguments : Arguments} (hline : o.line line)
    (hsubject : o.ReadsOptional subject) (harguments : o.ReadsArguments arguments) :
    o.ReadsExpr (.filter line subject id arguments) where
  integers := by
    rw [Expr.integers_filter, allows_append]
    exact ⟨hsubject.allows, harguments.integers⟩
  places := by simp [Expr.heads, hline, hsubject.places, harguments.places]

theorem test {subject : Expr} {id : String} {arguments : Arguments} (hline : o.line line)
    (hsubject : o.ReadsExpr subject) (harguments : o.ReadsArguments arguments) :
    o.ReadsExpr (.test line subject id arguments) where
  integers := by simpa using ⟨hsubject.integers, harguments.integers⟩
  places := by simp [Expr.heads, hline, hsubject.places, harguments.places]

/-- What names are used for does not matter. -/
theorem withUse (hexpr : o.ReadsExpr expr) (use : NameUse) : o.ReadsExpr (expr.withUse use) where
  integers := by rw [Expr.integers_withUse]; exact hexpr.integers
  places := by rw [heads_withUse]; exact hexpr.places

end ReadsExpr

theorem ReadsArguments.ofParts {positional : List Expr} {keywords : List (String × Expr)}
    {more moreKeywords : Option Expr} (hpositional : ∀ expr ∈ positional, o.ReadsExpr expr)
    (hkeywords : ∀ keyword ∈ keywords, o.ReadsExpr keyword.2) (hmore : o.ReadsOptional more)
    (hmoreKeywords : o.ReadsOptional moreKeywords) :
    o.ReadsArguments (.mk positional keywords more moreKeywords) where
  integers := by
    simp only [Arguments.integers_mk, allows_append]
    refine ⟨⟨⟨allows_items hpositional, ?_⟩, hmore.allows⟩, hmoreKeywords.allows⟩
    exact allows_flatMap.mpr fun keyword hmem => (hkeywords keyword hmem).integers
  places := by
    simp [Arguments.heads, places_items hpositional, places_keywords hkeywords, hmore.places,
      hmoreKeywords.places]

/-- No arguments may always be read. -/
theorem ReadsArguments.none : o.ReadsArguments .none :=
  .ofParts nofun nofun readsOptional_none readsOptional_none

/-! ### Statements -/

/-- Whether a statement may be read from the list. -/
structure ReadsStatement (o : Outlook) (statement : Statement) : Prop where
  integers : o.Allows statement.integers
  blocks : ∀ block ∈ statement.blocks, o.name block.id
  places : o.Places statement.heads

/-- Whether statements may be read from the list. -/
def ReadsBody (o : Outlook) (body : List Statement) : Prop :=
  ∀ statement ∈ body, o.ReadsStatement statement

/-- Whether a clause may be read from the list. -/
structure ReadsClause (o : Outlook) (clause : Clause) : Prop where
  integers : o.Allows clause.integers
  blocks : ∀ block ∈ clause.blocks, o.name block.id
  places : o.Places clause.heads

namespace ReadsBody

variable {body : List Statement}

theorem integers (hbody : o.ReadsBody body) : o.Allows (body.flatMap Statement.integers) :=
  allows_flatMap.mpr fun statement hmem => (hbody statement hmem).integers

theorem blocks (hbody : o.ReadsBody body) : ∀ block ∈ bodyBlocks body, o.name block.id := by
  induction body with
  | nil => exact nofun
  | cons statement rest ih =>
      obtain ⟨hstatement, hrest⟩ := List.forall_mem_cons.mp hbody
      rw [bodyBlocks]
      exact List.forall_mem_append.mpr ⟨hstatement.blocks, ih hrest⟩

theorem places (hbody : o.ReadsBody body) : o.Places (bodyHeads body) := by
  induction body with
  | nil => exact places_nil
  | cons statement rest ih =>
      obtain ⟨hstatement, hrest⟩ := List.forall_mem_cons.mp hbody
      exact places_append.mpr ⟨hstatement.places, ih hrest⟩

end ReadsBody

theorem blocks_clauses {clauses : List Clause} (hclauses : ∀ clause ∈ clauses, o.ReadsClause clause) :
    ∀ block ∈ clauseBlocks clauses, o.name block.id := by
  induction clauses with
  | nil => exact nofun
  | cons clause rest ih =>
      obtain ⟨hclause, hrest⟩ := List.forall_mem_cons.mp hclauses
      rw [clauseBlocks]
      exact List.forall_mem_append.mpr ⟨hclause.blocks, ih hrest⟩

theorem places_clauses {clauses : List Clause} (hclauses : ∀ clause ∈ clauses, o.ReadsClause clause) :
    o.Places (clauseHeads clauses) := by
  induction clauses with
  | nil => exact places_nil
  | cons clause rest ih =>
      obtain ⟨hclause, hrest⟩ := List.forall_mem_cons.mp hclauses
      exact places_append.mpr ⟨hclause.places, ih hrest⟩

theorem ReadsClause.ofParts {test : Expr} {body : List Statement} (hline : o.line line)
    (htest : o.ReadsExpr test) (hbody : o.ReadsBody body) : o.ReadsClause (.mk line test body) where
  integers := allows_append.mpr ⟨htest.integers, hbody.integers⟩
  blocks := hbody.blocks
  places := by simp [Clause.heads, hline, htest.places, hbody.places]

namespace ReadsStatement

variable {body : List Statement} {id : String} {target source : Expr}

theorem output (hline : o.line line) (hitems : ∀ item ∈ items, o.ReadsExpr item) :
    o.ReadsStatement (.output line items) where
  integers := by rw [Statement.integers_output]; exact allows_items hitems
  blocks := nofun
  places := by simp [Statement.heads, hline, places_items hitems]

theorem loop {iter : Expr} {test : Option Expr} {recursive : Bool} {orElse : List Statement}
    (hline : o.line line) (htarget : o.ReadsExpr target) (hiter : o.ReadsExpr iter)
    (htest : o.ReadsOptional test) (hbody : o.ReadsBody body) (horElse : o.ReadsBody orElse) :
    o.ReadsStatement (.loop line target iter test recursive body orElse) where
  integers := by
    simp only [Statement.integers_loop, allows_append]
    exact ⟨⟨⟨⟨htarget.integers, hiter.integers⟩, hbody.integers⟩, horElse.integers⟩, htest.allows⟩
  blocks := List.forall_mem_append.mpr ⟨hbody.blocks, horElse.blocks⟩
  places := by
    simp [Statement.heads, hline, htarget.places, hiter.places, htest.places, hbody.places,
      horElse.places]

theorem branch {clause : Clause} {others : List Clause} {orElse : List Statement}
    (hclause : o.ReadsClause clause) (hothers : ∀ clause ∈ others, o.ReadsClause clause)
    (horElse : o.ReadsBody orElse) : o.ReadsStatement (.branch clause others orElse) where
  integers := by
    have hclauses : o.Allows (others.flatMap Clause.integers) :=
      allows_flatMap.mpr fun clause hmem => (hothers clause hmem).integers
    simp only [Statement.integers_branch, allows_append]
    exact ⟨⟨hclause.integers, hclauses⟩, horElse.integers⟩
  blocks := List.forall_mem_append.mpr
    ⟨List.forall_mem_append.mpr ⟨hclause.blocks, blocks_clauses hothers⟩, horElse.blocks⟩
  places := by
    obtain ⟨line, test, body⟩ := clause
    obtain ⟨hline, hinner⟩ := places_cons.mp hclause.places
    simp at hinner
    simp [Statement.heads, hline, hinner, places_clauses hothers, horElse.places]

theorem bind {targets values : List Expr} (hline : o.line line)
    (htargets : ∀ target ∈ targets, o.ReadsExpr target) (hvalues : ∀ value ∈ values, o.ReadsExpr value)
    (hbody : o.ReadsBody body) : o.ReadsStatement (.bind line targets values body) where
  integers := by
    simp only [Statement.integers_bind, allows_append]
    exact ⟨⟨allows_items htargets, allows_items hvalues⟩, hbody.integers⟩
  blocks := hbody.blocks
  places := by
    simp [Statement.heads, hline, places_items htargets, places_items hvalues, hbody.places]

theorem assign {value : Expr} (hline : o.line line) (htarget : o.ReadsExpr target)
    (hvalue : o.ReadsExpr value) : o.ReadsStatement (.assign line target value) where
  integers := by simpa using ⟨htarget.integers, hvalue.integers⟩
  blocks := nofun
  places := by simp [Statement.heads, hline, htarget.places, hvalue.places]

theorem assignBlock {filter : Option Expr} (hline : o.line line) (htarget : o.ReadsExpr target)
    (hfilter : o.ReadsOptional filter) (hbody : o.ReadsBody body) :
    o.ReadsStatement (.assignBlock line target filter body) where
  integers := by
    simp only [Statement.integers_assignBlock, allows_append]
    exact ⟨⟨htarget.integers, hfilter.allows⟩, hbody.integers⟩
  blocks := hbody.blocks
  places := by simp [Statement.heads, hline, htarget.places, hfilter.places, hbody.places]

theorem defineMacro {params defaults : List Expr} (hline : o.line line)
    (hparams : ∀ param ∈ params, o.ReadsExpr param)
    (hdefaults : ∀ value ∈ defaults, o.ReadsExpr value) (hbody : o.ReadsBody body) :
    o.ReadsStatement (.defineMacro line id params defaults body) where
  integers := by
    simp only [Statement.integers_defineMacro, allows_append]
    exact ⟨⟨allows_items hparams, allows_items hdefaults⟩, hbody.integers⟩
  blocks := hbody.blocks
  places := by
    simp [Statement.heads, hline, places_items hparams, places_items hdefaults, hbody.places]

theorem callBlock {call : Expr} {params defaults : List Expr} (hline : o.line line)
    (hcall : o.ReadsExpr call) (hparams : ∀ param ∈ params, o.ReadsExpr param)
    (hdefaults : ∀ value ∈ defaults, o.ReadsExpr value) (hbody : o.ReadsBody body) :
    o.ReadsStatement (.callBlock line call params defaults body) where
  integers := by
    simp only [Statement.integers_callBlock, allows_append]
    exact ⟨⟨⟨hcall.integers, allows_items hparams⟩, allows_items hdefaults⟩, hbody.integers⟩
  blocks := hbody.blocks
  places := by
    simp [Statement.heads, hline, hcall.places, places_items hparams, places_items hdefaults,
      hbody.places]

theorem filterBlock {filter : Expr} (hline : o.line line) (hfilter : o.ReadsExpr filter)
    (hbody : o.ReadsBody body) : o.ReadsStatement (.filterBlock line filter body) where
  integers := by
    rw [Statement.integers_filterBlock, allows_append]
    exact ⟨hbody.integers, hfilter.integers⟩
  blocks := hbody.blocks
  places := by simp [Statement.heads, hline, hfilter.places, hbody.places]

theorem escaping {option : Expr} (hline : o.line line) (hoption : o.ReadsExpr option)
    (hbody : o.ReadsBody body) : o.ReadsStatement (.escaping line option body) where
  integers := by
    rw [Statement.integers_escaping, allows_append]
    exact ⟨hoption.integers, hbody.integers⟩
  blocks := hbody.blocks
  places := by simp [Statement.heads, o.unplaced, hline, hoption.places, hbody.places]

theorem block {seesScope required : Bool} (hline : o.line line) (hid : o.name id)
    (hbody : o.ReadsBody body) : o.ReadsStatement (.block line id body seesScope required) where
  integers := by rw [Statement.integers_block]; exact hbody.integers
  blocks := List.forall_mem_cons.mpr ⟨hid, hbody.blocks⟩
  places := by simp [Statement.heads, hline, hbody.places]

theorem extend {parent : Expr} (hline : o.line line) (hparent : o.ReadsExpr parent) :
    o.ReadsStatement (.extend line parent) where
  integers := by simpa using hparent.integers
  blocks := nofun
  places := by simp [Statement.heads, hline, hparent.places]

theorem includeFrom {withContext ignoring : Bool} (hline : o.line line) (hsource : o.ReadsExpr source) :
    o.ReadsStatement (.includeFrom line source withContext ignoring) where
  integers := by simpa using hsource.integers
  blocks := nofun
  places := by simp [Statement.heads, hline, hsource.places]

theorem importAs {withContext : Bool} (hline : o.line line) (hsource : o.ReadsExpr source) :
    o.ReadsStatement (.importAs line source id withContext) where
  integers := by simpa using hsource.integers
  blocks := nofun
  places := by simp [Statement.heads, hline, hsource.places]

theorem importNames {names : List (String × Option String)} {withContext : Bool} (hline : o.line line)
    (hsource : o.ReadsExpr source) : o.ReadsStatement (.importNames line source names withContext) where
  integers := by simpa using hsource.integers
  blocks := nofun
  places := by simp [Statement.heads, hline, hsource.places]

end ReadsStatement

end TemplateWorkbench.Template.Grammar.Outlook
