import TemplateWorkbench.Template.Mention
import TemplateWorkbench.Template.Program

/-!
# Scopes

Where the names of a template belong.  A scope has a slot for every name that is bound in it, and for
every name that is read in it and has no slot in a scope around it.  How a slot is filled when the
scope is entered depends on what was met first:

* a name that is read is looked up in the context;
* a name that is assigned starts as a copy of the outer slot of that name, or with nothing;
* a parameter is given.

After a branch, a name that only some of its arms assign has to be there all the same: it starts as a
copy of the outer slot, or is looked up in the context.

The scopes around a scope are a list, the innermost one first.
-/

namespace TemplateWorkbench.Template

/-- A scope: how deeply it is nested, how its slots are filled, and the names that are bound in it. -/
structure Scope where
  level : Nat
  origins : List (String × Origin) := []
  bound : List String := []
deriving Repr, Inhabited

/-- A scope inside of others. -/
def Scope.inside (outer : List Scope) : Scope :=
  { level := match outer with | [] => 0 | scope :: _ => scope.level + 1 }

/-- The slot that a name has in the innermost scope that knows it. -/
def slotOf? (scopes : List Scope) (name : String) : Option Slot :=
  scopes.findSome? fun scope => (scope.origins.lookup name).map fun _ => .ofName scope.level name

/-- The slot of a name that has one. -/
def slotOf (scopes : List Scope) (name : String) : Slot := (slotOf? scopes name).getD (.ofName 0 name)

/-- Entries with one put in place of an older one of the name. -/
def putOrigin (name : String) (origin : Origin) : List (String × Origin) → List (String × Origin)
  | [] => [(name, origin)]
  | (other, old) :: rest =>
    if other == name then (name, origin) :: rest else (other, old) :: putOrigin name origin rest

namespace Scope

/-- The scope with a slot for a name. -/
def put (scope : Scope) (name : String) (origin : Origin) : Scope :=
  { scope with origins := putOrigin name origin scope.origins }

/-- The scope with a name bound in it. -/
def markBound (scope : Scope) (name : String) : Scope :=
  if scope.bound.contains name then scope else { scope with bound := scope.bound ++ [name] }

/-- The scope after a name has been read. -/
def read (outer : List Scope) (scope : Scope) (name : String) : Scope :=
  if (slotOf? (scope :: outer) name).isSome then scope else scope.put name (.context name)

/-- The scope after a name has been assigned. -/
def assign (outer : List Scope) (scope : Scope) (name : String) : Scope :=
  let scope := scope.markBound name
  if (scope.origins.lookup name).isSome then scope
  else
    match slotOf? outer name with
    | some source => scope.put name (.copy source)
    | none => scope.put name .nothing

/-- The scope with a parameter. -/
def declare (scope : Scope) (name : String) : Scope := (scope.markBound name).put name .given

/-- The scope after a mention of a name. -/
def meet (outer : List Scope) (scope : Scope) (mention : Mention) : Scope :=
  match mention.use with
  | .load => scope.read outer mention.id
  | .store => scope.assign outer mention.id
  | .param => scope.declare mention.id

/-- The scope after some mentions of names. -/
def meetAll (outer : List Scope) (scope : Scope) (mentions : List Mention) : Scope :=
  mentions.foldl (meet outer) scope

/-- The scope with the names of a target as parameters. -/
def declareTarget (scope : Scope) (target : Expr) : Scope :=
  target.boundNames.foldl declare scope

/-- The scope after a branch whose arms have left it in given states. -/
def afterArms (outer : List Scope) (scope : Scope) (arms : List Scope) : Scope :=
  let assigned := (arms.flatMap (·.bound)).eraseDups.filter fun name => !scope.bound.contains name
  let merged := arms.foldl (fun merged arm =>
    let merged := arm.origins.foldl (fun merged (name, origin) => merged.put name origin) merged
    arm.bound.foldl markBound merged) scope
  assigned.foldl (fun merged name =>
    match slotOf? outer name with
    | some source => merged.put name (.copy source)
    | none => merged.put name (.context name)) merged

mutual

/-- The scope after a statement of it; what has a scope of its own is not looked into. -/
def visit (outer : List Scope) (scope : Scope) : Statement → Scope
  | .output _ parts => scope.meetAll outer (allMentions parts)
  | .loop _ _ iter _ _ _ _ => scope.meetAll outer iter.mentions
  | .branch clause others orElse =>
    let scope := visitTest outer scope clause
    let first := visitArm outer scope clause
    let second := visitClauses outer scope others
    let third := visitAll outer scope orElse
    scope.afterArms outer [first, second, third]
  | .bind _ _ values _ => scope.meetAll outer (allMentions values)
  | .assign _ target value => scope.meetAll outer (value.mentions ++ target.mentions)
  | .assignBlock _ target _ _ => scope.meetAll outer target.mentions
  | .defineMacro _ id _ _ _ => scope.assign outer id
  | .callBlock _ call _ _ _ => scope.meetAll outer call.mentions
  | .filterBlock _ filter _ => scope.meetAll outer filter.mentions
  | .escaping _ _ _ | .block _ _ _ _ _ => scope
  | .extend _ parent => scope.meetAll outer parent.mentions
  | .includeFrom _ source _ _ => scope.meetAll outer source.mentions
  | .importAs _ source target _ => (scope.meetAll outer source.mentions).assign outer target
  | .importNames _ source names _ =>
    names.foldl (fun scope (name, alias_) => scope.assign outer (alias_.getD name))
      (scope.meetAll outer source.mentions)

/-- The scope after the condition of a clause. -/
def visitTest (outer : List Scope) (scope : Scope) : Clause → Scope
  | .mk _ test _ => scope.meetAll outer test.mentions

/-- The scope after what is done under a condition. -/
def visitArm (outer : List Scope) (scope : Scope) : Clause → Scope
  | .mk _ _ body => visitAll outer scope body

/-- The scope after further conditions, each with what is done under it. -/
def visitClauses (outer : List Scope) (scope : Scope) : List Clause → Scope
  | [] => scope
  | clause :: rest =>
    let tested := visitTest outer scope clause
    let arm := visitArm outer tested clause
    visitClauses outer (tested.afterArms outer [arm, tested, tested]) rest

/-- The scope after some statements. -/
def visitAll (outer : List Scope) (scope : Scope) : List Statement → Scope
  | [] => scope
  | statement :: rest => visitAll outer (visit outer scope statement) rest

end

/-! ### Plans -/

/-- How the slots of the scope are set up when it is entered. -/
def plan (scope : Scope) : ScopePlan :=
  scope.origins.map fun (name, origin) => (.ofName scope.level name, origin)

end Scope

/-- The names that are bound in a scope or in one around it, in order, with their slots. -/
def localNames (scopes : List Scope) : LocalNames :=
  let names := scopes.flatMap fun scope => scope.bound.mergeSort fun a b => decide (a ≤ b)
  names.eraseDups.map fun name => (name, slotOf scopes name)

end TemplateWorkbench.Template
