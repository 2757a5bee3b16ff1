import TemplateWorkbench.Template.Grammar.Expression
import TemplateWorkbench.Unicode.Character

/-!
# Statements

The body of a template, or of a statement that has one, alternates output and tags.  Data and
printed expressions that follow one another make one output statement; a tag is either one that the
surrounding statement awaits, and then it ends the body, or begins a statement.
-/

namespace TemplateWorkbench.Template.Grammar

/-- The target of an assignment, checked to be one. -/
def checkedTarget (target : Expr) : Rule Expr :=
  if target.isTarget then pure (target.withUse .store)
  else objectAt target.line (.notAssignable target.kindName)

/-- A target: names with commas between them, perhaps nested; a name may have an attribute where that
is allowed. -/
def target (down : Levels) (withAttributes : Bool) : Rule Expr := do
  checkedTarget (← tupleOf (primary down withAttributes) false)

/-- A target that is a single name. -/
def nameTarget : Rule (Nat × String) := do
  let (line, id) ← expectName
  let _ ← checkedTarget (.name line id .store)
  return (line, id)

/-- The body of a statement: what stands between the end of its tag and one of the given tags.  The
word of that tag is the current token afterwards. -/
def bodyUntil (down : Levels) (words : List String) : Rule (List Statement) := do
  let _ ← skipOperator .colon
  let _ ← expect .blockEnd
  let body ← down.body words
  if ← atLexeme .finish then
    let around ← read
    object (.unfinished (around.awaited ++ [words]) around.openTags.getLast?)
  return body

/-- A body with the word that ends it. -/
def bodyThrough (down : Levels) (word : String) : Rule (List Statement) := do
  let body ← bodyUntil down [word]
  let _ ← advance
  return body

/-- An assignment of a value or of the text of a block. -/
def setTag (down : Levels) (line : Nat) : Rule Statement := do
  let goal ← target down true
  if ← skipOperator .assign then
    return .assign line goal (← tuple down true false)
  else
    let filter ← filters down none
    return .assignBlock line goal filter (← bodyThrough down "endset")

/-- A loop. -/
def forTag (down : Levels) (line : Nat) : Rule Statement := do
  let goal ← target down false
  let _ ← expectWord "in"
  let iter ← tuple down false false
  let test ← if ← skipWord "if" then some <$> down.expression true else pure none
  let isRecursive ← skipWord "recursive"
  let body ← bodyUntil down ["endfor", "else"]
  let orElse ←
    if isWord "endfor" (← advance) then pure [] else bodyThrough down "endfor"
  return .loop line goal iter test isRecursive body orElse

/-- The condition and body of a clause, up to the next one or the end. -/
def clause (down : Levels) (line : Nat) : Rule Clause := do
  let test ← tuple down false false
  return .mk line test (← bodyUntil down ["elif", "else", "endif"])

/-- A conditional statement. -/
def ifTag (down : Levels) (line : Nat) : Rule Statement := do
  let first ← clause down line
  let (others, ending) ← repeatFrom (([] : List Clause), (none : Option Token))
    fun (others, ending) => do
      if ending.isSome then return none
      let word ← advance
      if isWord "elif" word then
        return some (others ++ [← clause down (← currentLine)], none)
      else return some (others, some word)
  let orElse ←
    if ending.any (isWord "else") then bodyThrough down "endif" else pure []
  return .branch first others orElse

/-- Names bound for the extent of a body. -/
def withTag (down : Levels) (line : Nat) : Rule Statement := do
  let (targets, values) ← repeatFrom (([] : List Expr), ([] : List Expr)) fun (targets, values) => do
    if ← atLexeme .blockEnd then return none
    if !targets.isEmpty then
      let _ ← expectOperator .comma
    let goal ← target down false
    let _ ← expectOperator .assign
    return some (targets ++ [goal.withUse .param], values ++ [← down.expression true])
  return .bind line targets values (← bodyThrough down "endwith")

/-- A body in which escaping is switched. -/
def autoescapeTag (down : Levels) (line : Nat) : Rule Statement := do
  let option ← down.expression true
  return .escaping line option (← bodyThrough down "endautoescape")

/-- Whether a body holds nothing but blank text. -/
def isBlankBody (body : List Statement) : Bool :=
  body.all fun
    | .output _ parts =>
      parts.all fun
        | .data _ text => !text.isEmpty && text.toList.all Unicode.isBlank
        | _ => false
    | _ => false

/-- A block that other templates can replace. -/
def blockTag (down : Levels) (line : Nat) : Rule Statement := do
  let (_, id) ← expectName
  let seesScope ← skipWord "scoped"
  let required ← skipWord "required"
  if ← atOperator .sub then object .hyphenatedBlock
  let body ← bodyThrough down "endblock"
  if required && !isBlankBody body then object .requiredBlockFilled
  let _ ← skipWord id
  return .block line id body seesScope required

/-- The template that this one extends. -/
def extendsTag (down : Levels) (line : Nat) : Rule Statement := do
  return .extend line (← down.expression true)

/-- Whether the words on the context follow, and what they say. -/
def contextWords? : Rule (Option Bool) := do
  let token ← current
  if isOneOf ["with", "without"] token then
    if isWord "context" (← lookahead) then
      let _ ← advance
      let _ ← advance
      return some (isWord "with" token)
    else return none
  else return none

/-- A template included in place. -/
def includeTag (down : Levels) (line : Nat) : Rule Statement := do
  let source ← down.expression true
  let ignoring ←
    if ← atWord "ignore" then
      if isWord "missing" (← lookahead) then do
        let _ ← advance
        let _ ← advance
        pure true
      else pure false
    else pure false
  return .includeFrom line source ((← contextWords?).getD true) ignoring

/-- A template imported under a name. -/
def importTag (down : Levels) (line : Nat) : Rule Statement := do
  let source ← down.expression true
  let _ ← expectWord "as"
  let (_, id) ← nameTarget
  return .importAs line source id ((← contextWords?).getD false)

/-- What was read of the names of an import: the names, what is said of the context, and whether
another name may follow. -/
structure NamesRead where
  names : List (String × Option String) := []
  withContext : Option Bool := none
  more : Bool := true

/-- One name of an import, perhaps with another name for it. -/
def importedName : Rule (String × Option String) := do
  let (line, id) ← nameTarget
  if id.toList.head? == some '_' then objectAt line .underlinedImport
  if ← skipWord "as" then
    let (_, newName) ← nameTarget
    return (id, some newName)
  else return (id, none)

/-- Names imported from a template. -/
def fromTag (down : Levels) (line : Nat) : Rule Statement := do
  let source ← down.expression true
  let _ ← expectWord "import"
  let read ← repeatFrom ({} : NamesRead) fun read => do
    if !read.more then return none
    if !read.names.isEmpty then
      let _ ← expectOperator .comma
    match (← current).lexeme with
    | .name _ =>
      match ← contextWords? with
      | some withContext => return some { read with withContext, more := false }
      | none =>
        let read := { read with names := read.names ++ [← importedName] }
        match ← contextWords? with
        | some withContext => return some { read with withContext, more := false }
        | none => return some { read with more := ← atOperator .comma }
    | _ =>
      let _ ← expectName
      return none
  return .importNames line source read.names (read.withContext.getD false)

/-- Parameters in parentheses, and the defaults of the last of them. -/
def signature (down : Levels) : Rule (List Expr × List Expr) := do
  let _ ← expectOperator .lparen
  let read ← repeatFrom (([] : List Expr), ([] : List Expr)) fun (params, defaults) => do
    if ← atOperator .rparen then return none
    if !params.isEmpty then
      let _ ← expectOperator .comma
    let (line, id) ← nameTarget
    let param := Expr.name line id .param
    if ← skipOperator .assign then
      return some (params ++ [param], defaults ++ [← down.expression true])
    if !defaults.isEmpty then object .defaultMissing
    return some (params ++ [param], defaults)
  let _ ← expectOperator .rparen
  return read

/-- A call with the text of a block as its caller. -/
def callTag (down : Levels) (line : Nat) : Rule Statement := do
  let (params, defaults) ← if ← atOperator .lparen then signature down else pure ([], [])
  let invocation ← down.expression true
  match invocation with
  | .call _ _ _ =>
    return .callBlock line invocation params defaults (← bodyThrough down "endcall")
  | _ => objectAt line .callExpected

/-- A filter over the text of a block. -/
def filterTag (down : Levels) (line : Nat) : Rule Statement := do
  let first ← oneFilter down none
  let filter := (← filters down (some first)).getD first
  return .filterBlock line filter (← bodyThrough down "endfilter")

/-- A macro. -/
def macroTag (down : Levels) (line : Nat) : Rule Statement := do
  let (_, id) ← nameTarget
  let (params, defaults) ← signature down
  return .defineMacro line id params defaults (← bodyThrough down "endmacro")

/-- Printed expressions with commas between them. -/
def printTag (down : Levels) (line : Nat) : Rule Statement := do
  let parts ← repeatFrom ([] : List Expr) fun parts => do
    if ← atLexeme .blockEnd then return none
    if !parts.isEmpty then
      let _ ← expectOperator .comma
    return some (parts ++ [← down.expression true])
  return .output line parts

/-- The rule for what follows the word of a tag. -/
def tagRule? (down : Levels) : String → Option (Nat → Rule Statement)
  | "for" => some (forTag down)
  | "if" => some (ifTag down)
  | "block" => some (blockTag down)
  | "extends" => some (extendsTag down)
  | "print" => some (printTag down)
  | "macro" => some (macroTag down)
  | "include" => some (includeTag down)
  | "from" => some (fromTag down)
  | "import" => some (importTag down)
  | "set" => some (setTag down)
  | "with" => some (withTag down)
  | "autoescape" => some (autoescapeTag down)
  | "call" => some (callTag down)
  | "filter" => some (filterTag down)
  | _ => none

/-- A statement, from the word of its tag on. -/
def statement (down : Levels) : Rule Statement := do
  let token ← current
  match token.lexeme with
  | .name id =>
    match tagRule? down id with
    | some rule =>
      withReader (fun around => { around with openTags := around.openTags ++ [id] }) do
        let _ ← advance
        rule token.line
    | none =>
      let around ← read
      objectAt token.line (.unknownTag id around.awaited around.openTags.getLast?)
  | _ => objectAt token.line .tagNameExpected

/-- What was read of a body: the statements, and the output after the last of them. -/
structure BodyRead where
  statements : List Statement := []
  pending : List Expr := []

/-- The statements of a body, the pending output closed off. -/
def BodyRead.close (read : BodyRead) : List Statement :=
  match read.pending with
  | [] => read.statements
  | first :: _ => read.statements ++ [.output first.line read.pending]

/-- One part of a body: data, a printed expression or a tag.  Nothing is taken at the end of the
template, and a tag that is awaited is taken up to its word. -/
def bodyPart (down : Levels) (words : List String) (read : BodyRead) :
    Rule (Option (BodyRead × Bool)) := do
  let token ← current
  match token.lexeme with
  | .data text =>
    let _ ← advance
    if text.isEmpty then return some (read, false)
    else return some ({ read with pending := read.pending ++ [.data token.line text] }, false)
  | .variableBegin =>
    let _ ← advance
    let printed ← tuple down true false
    let _ ← expect .variableEnd
    return some ({ read with pending := read.pending ++ [printed] }, false)
  | .blockBegin =>
    let read : BodyRead := ⟨read.close, []⟩
    let _ ← advance
    if isOneOf words (← current) then return some (read, true)
    let next ← statement down
    let _ ← expect .blockEnd
    return some ({ read with statements := read.statements ++ [next] }, false)
  | _ => return none

/-- A body up to one of the given tags, or up to the end of the template. -/
def body (down : Levels) (words : List String) : Rule (List Statement) :=
  withReader
    (fun around =>
      if words.isEmpty then around else { around with awaited := around.awaited ++ [words] }) do
    let (read, _) ← repeatFrom ((({} : BodyRead)), false) fun (read, ended) => do
      if ended then return none
      bodyPart down words read
    return read.close

/-- The rules down to a given depth. -/
def levels : Nat → Levels
  | 0 => .bottom
  | depth + 1 =>
    let down := levels depth
    ⟨expression down, negation down, operand down, body down⟩

/-- The statements of a template.  A rule goes down only after it has taken a token, so the number of
tokens bounds the depth. -/
def template (list : TokenList) : Except Fault (List Statement) := do
  let stream ← Stream.ofTokens list
  let (statements, _) ← (body (levels (list.tokens.length + 1)) []).run ⟨[], []⟩ |>.run stream
  return statements

end TemplateWorkbench.Template.Grammar

namespace TemplateWorkbench.Template

/-- The statements of a source. -/
def parse (source : List Char) : Except Fault (List Statement) := Grammar.template (tokenize source)

end TemplateWorkbench.Template
