import TemplateWorkbench.Template.Token
import TemplateWorkbench.Template.Lexer
import TemplateWorkbench.Template.Literal

/-!
# Faults

What can go wrong with a template, from reading it to rendering it.  A fault has a kind and a wording,
and as far as they are known the line of the template and the name of what was missing.

`Misreading` lists everything that reading and compiling a template can object to, with the words
for each; the faults of a rendering are worded where they arise.
-/

namespace TemplateWorkbench.Template

/-- The kinds of faults. -/
inductive FaultKind where
  | templateSyntax | templateAssertion | templateRuntime | undefined | templateNotFound
  | templatesNotFound | filterArgument
  | type | value | key | index | missingAttribute | unboundName | overflow | zeroDivision | recursion
  | assertion | failure | badSyntax | badIndentation | lookup | encoding | memory
deriving DecidableEq, Repr, Inhabited

/-- How the kind of a fault is called in a report. -/
def FaultKind.name : FaultKind → String
  | templateSyntax => "TemplateSyntaxError"
  | templateAssertion => "TemplateAssertionError"
  | templateRuntime => "TemplateRuntimeError"
  | undefined => "UndefinedError"
  | templateNotFound => "TemplateNotFound"
  | templatesNotFound => "TemplatesNotFound"
  | filterArgument => "FilterArgumentError"
  | type => "TypeError"
  | value => "ValueError"
  | key => "KeyError"
  | index => "IndexError"
  | missingAttribute => "AttributeError"
  | unboundName => "NameError"
  | overflow => "OverflowError"
  | zeroDivision => "ZeroDivisionError"
  | recursion => "RecursionError"
  | assertion => "AssertionError"
  | failure => "RuntimeError"
  | badSyntax => "SyntaxError"
  | badIndentation => "IndentationError"
  | lookup => "LookupError"
  | encoding => "UnicodeEncodeError"
  | memory => "MemoryError"

/-- Whether the template engine speaks of such a fault as one of the template itself. -/
def FaultKind.isTemplateFault : FaultKind → Bool
  | templateSyntax | templateAssertion | templateRuntime | undefined | templateNotFound
  | templatesNotFound | filterArgument => true
  | _ => false

/-- Whether such a fault is one of written form. -/
def FaultKind.isFormFault : FaultKind → Bool
  | badSyntax | badIndentation => true
  | _ => false

/-- A fault: its kind and wording, the line of the template, and the name of what is missing. -/
structure Fault where
  kind : FaultKind
  message : String
  line : Option Nat := none
  subject : Option String := none
deriving DecidableEq, Repr, Inhabited

/-- The fault placed at a line, unless it has a line already. -/
def Fault.at (fault : Fault) (line : Nat) : Fault :=
  { fault with line := some (fault.line.getD line) }

/-- What reading and compiling a template can object to. -/
inductive Misreading where
  | lexical (fault : LexicalFault)
  | literal (fault : LiteralFault)
  | foreignIdentifier
  | expectedToken (wanted : String) (found : Lexeme)
  | expectedExpression (found : Lexeme)
  | unexpected (found : Lexeme)
  | tagNameExpected
  /-- A tag that is not known or does not fit here: the tags that would end each open block
  (innermost last), and the innermost open block. -/
  | unknownTag (tag : String) (awaited : List (List String)) (innermost : Option String)
  | unfinished (awaited : List (List String)) (innermost : Option String)
  | notAssignable (kind : String)
  | hyphenatedBlock
  | requiredBlockFilled
  | underlinedImport
  | defaultMissing
  | callExpected
  | nameOrNumberExpected
  | chainedTests
  | misplacedArgument
  | unknownFilter (id : String)
  | unknownTest (id : String)
  | repeatedBlock (id : String)
  | loopAsTarget
  | callerWithoutDefault
  | nestedExtends
deriving Repr

namespace Misreading

/-- Names in quotes, joined by `or`. -/
def alternatives (names : List String) : String := " or ".intercalate (names.map Text.quote)

/-- The words on tags that were awaited and on the block that is open; `tag` is the tag that came
instead, if any. -/
def nesting (tag : Option String) (awaited : List (List String)) (innermost : Option String) :
    List String :=
  let looking := (awaited.getLast?.map alternatives).getD ""
  let hint :=
    if looking.isEmpty then []
    else if tag.any fun id => awaited.any (·.contains id) then
      [s!"You probably made a nesting mistake. Jinja is expecting this tag, but currently looking " ++
        s!"for {looking}."]
    else [s!"Jinja was looking for the following tags: {looking}."]
  match innermost with
  | some id => hint ++ [s!"The innermost block that needs to be closed is {Text.quote id}."]
  | none => hint

/-- The words for an objection. -/
def message : Misreading → String
  | lexical fault => fault.message
  | literal fault => fault.message
  | foreignIdentifier => "Invalid character in identifier"
  | expectedToken wanted .finish =>
    s!"unexpected end of template, expected {Text.quote wanted}."
  | expectedToken wanted found =>
    s!"expected token {Text.quote wanted}, got {Text.quote found.describe}"
  | expectedExpression found => s!"Expected an expression, got {Text.quote found.describe}"
  | unexpected found => s!"unexpected {Text.quote found.describe}"
  | tagNameExpected => "tag name expected"
  | unknownTag tag awaited innermost =>
    " ".intercalate
      (s!"Encountered unknown tag {Text.quote tag}." :: nesting (some tag) awaited innermost)
  | unfinished awaited innermost =>
    " ".intercalate ("Unexpected end of template." :: nesting none awaited innermost)
  | notAssignable kind => s!"can't assign to {Text.quote (String.ofList (kind.toList.map Char.toLower))}"
  | hyphenatedBlock =>
    "Block names in Jinja have to be valid Python identifiers and may not contain hyphens, use an " ++
    "underscore instead."
  | requiredBlockFilled => "Required blocks can only contain comments or whitespace"
  | underlinedImport => "names starting with an underline can not be imported"
  | defaultMissing => "non-default argument follows default argument"
  | callExpected => "expected call"
  | nameOrNumberExpected => "expected name or number"
  | chainedTests => "You cannot chain multiple tests with is"
  | misplacedArgument => "invalid syntax for function call expression"
  | unknownFilter id => s!"No filter named {Text.quote id}."
  | unknownTest id => s!"No test named {Text.quote id}."
  | repeatedBlock id => s!"block {Text.quote id} defined twice"
  | loopAsTarget => "Can't assign to special loop variable in for-loop target"
  | callerWithoutDefault =>
    "When defining macros or call blocks the special \"caller\" argument must be omitted or be " ++
    "given a default."
  | nestedExtends => "cannot use extend from a non top-level scope"

/-- The kind of fault that an objection is. -/
def kind : Misreading → FaultKind
  | literal (.tooLong _) => .value
  | literal (.foreignDigit _) | literal .badDecimal => .badSyntax
  | underlinedImport | unknownFilter _ | unknownTest _ | repeatedBlock _ | loopAsTarget
  | callerWithoutDefault | nestedExtends => .templateAssertion
  | _ => .templateSyntax

/-- The line that an objection to something at a line is placed at: a decimal literal is judged on
its own, as a text of one line, and a number that is too long has no place. -/
def place (line : Nat) (misreading : Misreading) : Option Nat :=
  match misreading.kind with
  | .badSyntax => some 1
  | .value => none
  | _ => some line

/-- The fault that an objection at a line is. -/
def fault (misreading : Misreading) (line : Nat) : Fault :=
  ⟨misreading.kind, misreading.message, misreading.place line, none⟩

end Misreading

end TemplateWorkbench.Template
