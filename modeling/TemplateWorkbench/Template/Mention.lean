import TemplateWorkbench.Template.Syntax

/-!
# Mentions of names

Which names a part of a template reads and binds, in the order in which they are written.  A mention
knows whether it stands inside of a block, because blocks have scopes of their own.

A name is left open by a part that reads it before anything in it binds it.
-/

namespace TemplateWorkbench.Template

/-- A name where it is written. -/
structure Mention where
  line : Nat
  id : String
  use : NameUse
  /-- Whether it is the namespace that an attribute is assigned to. -/
  isNamespace : Bool := false
  inBlock : Bool := false
deriving DecidableEq, Repr, Inhabited

mutual

/-- The names in an expression. -/
def Expr.mentions : Expr → List Mention
  | .const _ _ | .data _ _ => []
  | .name line id use => [{ line, id, use }]
  | .namespaceRef line id _ => [{ line, id, use := .load, isNamespace := true }]
  | .tuple _ items _ | .list _ items | .concat _ items => allMentions items
  | .dict _ entries => entryMentions entries
  | .conditional _ test whenTrue whenFalse =>
    test.mentions ++ whenTrue.mentions ++ anyMentions whenFalse
  | .binary _ _ left right => left.mentions ++ right.mentions
  | .unary _ _ operand => operand.mentions
  | .compare _ first others => first.mentions ++ comparedMentions others
  | .getattr _ object _ => object.mentions
  | .getitem _ object index => object.mentions ++ index.mentions
  | .slice _ start stop step => anyMentions start ++ anyMentions stop ++ anyMentions step
  | .call _ function arguments => function.mentions ++ arguments.mentions
  | .filter _ subject _ arguments => anyMentions subject ++ arguments.mentions
  | .test _ subject _ arguments => subject.mentions ++ arguments.mentions

/-- The names in arguments. -/
def Arguments.mentions : Arguments → List Mention
  | .mk positional keywords more moreKeywords =>
    allMentions positional ++ keywordMentions keywords ++ anyMentions more ++
      anyMentions moreKeywords

/-- The names in expressions. -/
def allMentions : List Expr → List Mention
  | [] => []
  | expr :: rest => expr.mentions ++ allMentions rest

/-- The names in an expression that may be left out. -/
def anyMentions : Option Expr → List Mention
  | none => []
  | some expr => expr.mentions

/-- The names in the entries of a dictionary. -/
def entryMentions : List (Expr × Expr) → List Mention
  | [] => []
  | (key, value) :: rest => key.mentions ++ value.mentions ++ entryMentions rest

/-- The names in the values of keywords. -/
def keywordMentions : List (String × Expr) → List Mention
  | [] => []
  | (_, value) :: rest => value.mentions ++ keywordMentions rest

/-- The names in the operands of comparisons. -/
def comparedMentions : List (CompareOp × Expr) → List Mention
  | [] => []
  | (_, operand) :: rest => operand.mentions ++ comparedMentions rest

end

/-- Mentions marked as standing inside of a block. -/
def markInBlock (mentions : List Mention) : List Mention :=
  mentions.map fun m => { m with inBlock := true }

mutual

/-- The names in a statement and in everything inside of it. -/
def Statement.mentions : Statement → List Mention
  | .output _ parts => allMentions parts
  | .loop _ target iter test _ body orElse =>
    target.mentions ++ iter.mentions ++ bodyMentions body ++ bodyMentions orElse ++
      anyMentions test
  | .branch clause others orElse =>
    clause.mentions ++ clauseMentions others ++ bodyMentions orElse
  | .bind _ targets values body => allMentions targets ++ allMentions values ++ bodyMentions body
  | .assign _ target value => target.mentions ++ value.mentions
  | .assignBlock _ target filter body =>
    target.mentions ++ anyMentions filter ++ bodyMentions body
  | .defineMacro _ _ params defaults body =>
    allMentions params ++ allMentions defaults ++ bodyMentions body
  | .callBlock _ call params defaults body =>
    call.mentions ++ allMentions params ++ allMentions defaults ++ bodyMentions body
  | .filterBlock _ filter body => bodyMentions body ++ filter.mentions
  | .escaping _ option body => option.mentions ++ bodyMentions body
  | .block _ _ body _ _ => markInBlock (bodyMentions body)
  | .extend _ parent => parent.mentions
  | .includeFrom _ source _ _ => source.mentions
  | .importAs _ source _ _ => source.mentions
  | .importNames _ source _ _ => source.mentions

/-- The names in a condition and in what is done when it holds. -/
def Clause.mentions : Clause → List Mention
  | .mk _ test body => test.mentions ++ bodyMentions body

/-- The names in statements. -/
def bodyMentions : List Statement → List Mention
  | [] => []
  | statement :: rest => statement.mentions ++ bodyMentions rest

/-- The names in conditions and in what is done when they hold. -/
def clauseMentions : List Clause → List Mention
  | [] => []
  | clause :: rest => clause.mentions ++ clauseMentions rest

end

/-! ### Names left open -/

/-- The names out of `sought` that mentions leave open; `open_` are those found so far.  As soon as all
names that are still sought have been found, the rest is not looked at. -/
def openNamesFrom (sought open_ : List String) : List Mention → List String
  | [] => open_
  | mention :: rest =>
    if mention.inBlock || mention.isNamespace then openNamesFrom sought open_ rest
    else if mention.use = .load && sought.contains mention.id then
      let found := if open_.contains mention.id then open_ else open_ ++ [mention.id]
      if sought.all found.contains && found.all sought.contains then found
      else openNamesFrom sought found rest
    else openNamesFrom (sought.filter (· != mention.id)) open_ rest

/-- The names out of `sought` that statements leave open. -/
def openNames (sought : List String) (body : List Statement) : List String :=
  openNamesFrom sought [] (bodyMentions body)

/-! ### Blocks -/

/-- A block where it is defined. -/
structure BlockSite where
  line : Nat
  id : String
  body : List Statement
  seesScope : Bool
deriving Inhabited

mutual

/-- The blocks in a statement, those inside of others included. -/
def Statement.blocks : Statement → List BlockSite
  | .loop _ _ _ _ _ body orElse => bodyBlocks body ++ bodyBlocks orElse
  | .branch clause others orElse => clause.blocks ++ clauseBlocks others ++ bodyBlocks orElse
  | .bind _ _ _ body | .assignBlock _ _ _ body | .defineMacro _ _ _ _ body
  | .callBlock _ _ _ _ body | .filterBlock _ _ body | .escaping _ _ body => bodyBlocks body
  | .block line id body seesScope _ => ⟨line, id, body, seesScope⟩ :: bodyBlocks body
  | _ => []

/-- The blocks in what is done under a condition. -/
def Clause.blocks : Clause → List BlockSite
  | .mk _ _ body => bodyBlocks body

/-- The blocks in statements. -/
def bodyBlocks : List Statement → List BlockSite
  | [] => []
  | statement :: rest => statement.blocks ++ bodyBlocks rest

/-- The blocks in what is done under conditions. -/
def clauseBlocks : List Clause → List BlockSite
  | [] => []
  | clause :: rest => clause.blocks ++ clauseBlocks rest

end

mutual

/-- Whether a statement, or one inside of it, chooses a parent template. -/
def Statement.extends? : Statement → Bool
  | .extend _ _ => true
  | .loop _ _ _ _ _ body orElse => bodyExtends body || bodyExtends orElse
  | .branch clause others orElse => clause.extends? || clausesExtend others || bodyExtends orElse
  | .bind _ _ _ body | .assignBlock _ _ _ body | .defineMacro _ _ _ _ body
  | .callBlock _ _ _ _ body | .filterBlock _ _ body | .escaping _ _ body
  | .block _ _ body _ _ => bodyExtends body
  | _ => false

/-- Whether what is done under a condition chooses a parent template. -/
def Clause.extends? : Clause → Bool
  | .mk _ _ body => bodyExtends body

/-- Whether one of some statements chooses a parent template. -/
def bodyExtends : List Statement → Bool
  | [] => false
  | statement :: rest => statement.extends? || bodyExtends rest

/-- Whether what is done under one of some conditions chooses a parent template. -/
def clausesExtend : List Clause → Bool
  | [] => false
  | clause :: rest => clause.extends? || clausesExtend rest

end

end TemplateWorkbench.Template
