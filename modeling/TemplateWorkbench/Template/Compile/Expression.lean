import TemplateWorkbench.Template.Builtin
import TemplateWorkbench.Template.Compile.Frame

/-!
# Compiling expressions

An expression becomes a term: its names get the slots that their scopes give them, and its constant
parts are evaluated.

Keywords of a call that are words of the listing's own cannot be written as keywords; then all of them
are handed over together, as a dictionary.
-/

namespace TemplateWorkbench.Template

open Compiling

/-- The name that a double is written by if it has no digits, the first one in a value. -/
def Value.nameInside? : Value → Option String
  | .double .nan => some "nan"
  | .double (.infinite _) => some "inf"
  | .list items | .tuple items => inItems items
  | .dict entries => inEntries entries
  | _ => Option.none
where
  /-- The first such name in items. -/
  inItems : List Value → Option String
    | [] => Option.none
    | item :: rest => item.nameInside? <|> inItems rest
  /-- The first such name in entries. -/
  inEntries : List (Value × Value) → Option String
    | [] => Option.none
    | (key, value) :: rest => key.nameInside? <|> value.nameInside? <|> inEntries rest

/-- A constant as a term; an integer that is too long cannot be written. -/
def constantTerm (value : Value) : Compiling Term := do
  match value.written .plain with
  | .error fault => throw fault
  | .ok _ =>
    match value.nameInside? with
    | some id => pure (.unbound id)
    | none => pure (.const value)

/-- What is said of a condition without another case that does not hold. -/
def conditionHint (setting : Setting) (line : Nat) : String :=
  s!"the inline if-expression on line {line} in {Text.quote setting.name} evaluated to false and no " ++
    "else section was defined."

/-- Whether one of some keywords is a word of the listing's own. -/
def hasReserved (keywords : List (String × Expr)) : Bool :=
  keywords.any fun (id, _) => Listing.keywords.contains id

/-- Keywords as a dictionary, with the entries of more keywords added. -/
def handedTogether (keywords : List (String × Term)) (more : Option Term) : Term :=
  let entries := keywords.map fun (id, value) => (Term.const (.string id), value)
  match more with
  | none => .dict entries
  | some more => .call (.const (.builtin .dict)) (.mk [.dict entries] [] none (some more)) false

/-- Judges the keywords of arguments, with those that a call has besides. -/
def checkArguments (frame : Frame) (besides : List String) : Arguments → Compiling Unit
  | .mk _ keywords _ _ =>
    if hasReserved keywords then pure ()
    else
      let told := (if frame.inLoop then ["_loop_vars"] else []) ++
        if frame.inBlock then ["_block_vars"] else []
      checkKeywords (keywords.map (·.1) ++ besides ++ told)

section Expressions

variable (setting : Setting)

mutual

/-- The term of an expression that has been prepared. -/
def term (frame : Frame) : Expr → Compiling Term
  | .const _ value => constantTerm value
  | .data _ text => do
    match ← escaping with
    | .asContext => pure (.data text)
    | .always => pure (.const (.markup text))
    | .never => pure (.const (.string text))
  | .name _ id _ => pure (.slot (frame.slot id) id)
  | .namespaceRef _ id attr => pure (.element (.slot (frame.slot id) id) (.const (.string attr)))
  | .tuple _ items _ => do pure (.tuple (← terms frame items))
  | .list _ items => do pure (.list (← terms frame items))
  | .dict _ entries => do pure (.dict (← entryTerms frame entries))
  | .conditional line test whenTrue whenFalse => do
    let frame := frame.softened
    let whenTrue ← term frame whenTrue
    let test ← term frame test
    let whenFalse ← optionalTerm frame whenFalse
    pure (.conditional test whenTrue whenFalse (conditionHint setting line))
  | .binary _ op left right => do
    let left ← term frame left
    pure (.binary op left (← term frame right))
  | .unary _ op operand => do pure (.unary op (← term frame operand))
  | .compare _ first others => do
    let first ← term frame first
    pure (.compare first (← comparedTerms frame others))
  | .concat _ parts => do
    let how ← escaping
    pure (.concat (if how = .asContext then .never else how) (← terms frame parts))
  | .getattr _ object attr => do pure (.attribute (← term frame object) attr)
  | .getitem _ object (.slice _ start stop step) => do
    let object ← term frame object
    let start ← optionalTerm frame start
    let stop ← optionalTerm frame stop
    pure (.slice object start stop (← optionalTerm frame step))
  | .getitem _ object index => do
    let object ← term frame object
    pure (.element object (← term frame index))
  | .slice _ start stop step => do
    find .looseSlice
    let start ← optionalTerm frame start
    let stop ← optionalTerm frame stop
    pure (.slice (.const .none) start stop (← optionalTerm frame step))
  | .call _ function arguments => do
    checkArguments frame [] arguments
    let function ← term frame function
    pure (.call function (← argumentTerms frame arguments) false)
  | .filter line subject id arguments => do
    if (Filter.ofName? id).isNone && !frame.soft then object (.unknownFilter id) line
    else
      checkArguments { frame with inLoop := false, inBlock := false } [] arguments
      let subject ← subjectTerm frame subject
      pure (.filter subject id (← argumentTerms frame arguments))
  | .test line subject id arguments => do
    if (Test.ofName? id).isNone && !frame.soft then object (.unknownTest id) line
    else
      checkArguments { frame with inLoop := false, inBlock := false } [] arguments
      let subject ← term frame subject
      pure (.test subject id (← argumentTerms frame arguments))

/-- The terms of arguments. -/
def argumentTerms (frame : Frame) : Arguments → Compiling TermArguments
  | .mk positional keywords more moreKeywords => do
    let positional ← terms frame positional
    let together := hasReserved keywords
    let keywords ← keywordTerms frame keywords
    let more ← optionalTerm frame more
    let moreKeywords ← optionalTerm frame moreKeywords
    if together then pure (.mk positional [] more (some (handedTogether keywords moreKeywords)))
    else
      let keywords := keywords.map fun (id, value) => (Unicode.normalName id, value)
      pure (.mk positional keywords more moreKeywords)

/-- The terms of expressions. -/
def terms (frame : Frame) : List Expr → Compiling (List Term)
  | [] => pure []
  | expr :: rest => do
    let first ← term frame expr
    pure (first :: (← terms frame rest))

/-- The term of an expression that may be left out. -/
def optionalTerm (frame : Frame) : Option Expr → Compiling (Option Term)
  | none => pure none
  | some expr => do pure (some (← term frame expr))

/-- The term of what a filter is applied to: the captured text if nothing else. -/
def subjectTerm (frame : Frame) : Option Expr → Compiling Term
  | none => do pure (.captured (← escaping))
  | some expr => term frame expr

/-- The terms of the entries of a dictionary. -/
def entryTerms (frame : Frame) : List (Expr × Expr) → Compiling (List (Term × Term))
  | [] => pure []
  | (key, value) :: rest => do
    let key ← term frame key
    let value ← term frame value
    pure ((key, value) :: (← entryTerms frame rest))

/-- The terms of the values of keywords. -/
def keywordTerms (frame : Frame) : List (String × Expr) → Compiling (List (String × Term))
  | [] => pure []
  | (id, value) :: rest => do
    let value ← term frame value
    pure ((id, value) :: (← keywordTerms frame rest))

/-- The terms of the operands of comparisons. -/
def comparedTerms (frame : Frame) :
    List (CompareOp × Expr) → Compiling (List (CompareOp × Term))
  | [] => pure []
  | (op, operand) :: rest => do
    let operand ← term frame operand
    pure ((op, operand) :: (← comparedTerms frame rest))

end

/-- The term of an expression that stands inside of a number of brackets. -/
def expression (frame : Frame) (outside : Nat) (expr : Expr) : Compiling Term := do
  let prepared ←
    if (← get).undecided then pure expr
    else evaluate setting fun folding => folding.prepare expr
  let result ← term setting frame prepared
  if Listing.mostBrackets < outside + result.brackets then find .deepBrackets
  pure result

/-- What a target is assigned to. -/
def target (frame : Frame) : Expr → Target
  | .name _ id _ => .slot (frame.slot id)
  | .namespaceRef _ id attr => .attribute (frame.slot id) attr
  | .tuple _ items _ => .tuple (all frame items)
  | _ => .tuple []
where
  /-- What several targets are assigned to. -/
  all (frame : Frame) : List Expr → List Target
    | [] => []
    | item :: rest => target frame item :: all frame rest

/-- What assigning to a target tells the context. -/
def publication (frame : Frame) (expr : Expr) : Publication :=
  if frame.toplevel then
    let names := (expr.mentions.filter (·.use = .store)).map (·.id)
    let names := names.eraseDups.mergeSort fun a b => decide (a ≤ b)
    ⟨names.map fun name => (name, frame.slot name), names.filter fun name => !name.startsWith "_"⟩
  else ⟨[], []⟩

/-- A part of what is printed, unless it is a constant that can be printed now. -/
def printedNow? (expr : Expr) : Compiling (Option String) := do
  let progress ← get
  match expr with
  | .data _ text => pure (if progress.undecided then none else some text)
  | expr =>
    if setting.printsConstants then
      evaluate setting fun folding => Run.waiting do
        match ← folding.constantOf expr with
        | none => pure none
        | some value => do
          let text ← folding.services.printed value
          pure (some text)
    else pure none

/-- The parts of an output statement. -/
def printedParts (frame : Frame) : List Expr → Compiling (List (Expr × Option String))
  | [] => pure []
  | expr :: rest => do
    let now ← printedNow? setting expr
    pure ((expr, now) :: (← printedParts frame rest))

/-- Parts with neighbouring constants joined. -/
def joinTexts : List (Expr × Option String) → List (Expr × Option String)
  | [] => []
  | (expr, some text) :: rest =>
    match joinTexts rest with
    | (_, some more) :: others => (expr, some (text ++ more)) :: others
    | others => (expr, some text) :: others
  | part :: rest => part :: joinTexts rest

/-- The parts of an output statement, each in a row of its own inside of some brackets. -/
def outputParts (frame : Frame) (outside : Nat) :
    List (Expr × Option String) → Compiling (List Printed)
  | [] => pure []
  | (_, some text) :: rest => do
    write frame 1
    pure (.text text :: (← outputParts frame outside rest))
  | (expr, none) :: rest => do
    write frame 1
    mark expr.line
    let around := if setting.printsConstants then 1 else 2
    let value ← expression setting frame (outside + around) expr
    let part := Printed.value expr.line value (← escaping)
    pure (part :: (← outputParts frame outside rest))

/-- What an output statement prints.  Text that is kept is added in one piece, which has a row before
it and one after it. -/
def printed (frame : Frame) (parts : List Expr) : Compiling (List Printed) := do
  let parts := joinTexts (← printedParts setting frame parts)
  if frame.keeps then
    write frame 1
    let printed ← outputParts setting frame (if parts.length = 1 then 1 else 2) parts
    write frame 1
    pure printed
  else outputParts setting frame 0 parts

/-- The defaults of parameters: the last parameters have one. -/
def parameterDefaults (params defaults : List Expr) : List (Expr × Option Expr) :=
  let plain := params.length - defaults.length
  params.zip (List.replicate plain none ++ defaults.map some)

/-- The parameters of a macro. -/
def parameters (frame : Frame) : List (Expr × Option Expr) → Compiling (List Parameter)
  | [] => pure []
  | (param, default) :: rest => do
    write frame 1
    write frame.under 1
    let default ←
      match default with
      | none => pure none
      | some expr => do pure (some (← expression setting frame.under 0 expr))
    let id := param.boundNames.headD ""
    pure (⟨id, frame.slot id, default⟩ :: (← parameters frame rest))

/-- The term of a filter that is applied to captured text, or of the text itself. -/
def filterTerm (frame : Frame) (filter : Option Expr) : Compiling Term :=
  match filter with
  | none => pure (.captured .never)
  | some expr => expression setting frame 1 expr

/-- The template that a name leads to. -/
def selectionOf : Expr → Selection
  | .const _ value => if value.isText then .single else .byValue
  | .tuple _ _ _ | .list _ _ => .alternatives
  | _ => .byValue

end Expressions

end TemplateWorkbench.Template
