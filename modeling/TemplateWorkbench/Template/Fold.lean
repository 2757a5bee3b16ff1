import TemplateWorkbench.Template.Test
import TemplateWorkbench.Template.Syntax

/-!
# Constant expressions

An expression without names can often be evaluated before the template is rendered.  `constantOf` does
this where it can: none means that the expression has to wait, and a fault is one that is not held
back.  Most faults make an expression wait, so that they show up where it is rendered; those of truth
values, of the keys of dictionaries and of joined texts are not held back.

`fold` replaces every part of an expression that has a value that can be written down again.
-/

namespace TemplateWorkbench.Template

namespace Value

mutual

/-- Whether a value can be written down and read again. -/
def isWritable : Value → Bool
  | none | bool _ | int _ | double _ | complex _ | range _ _ _ | string _ | markup _ => true
  | list items | tuple items | set _ items => areWritable items
  | dict entries => areWritableEntries entries
  | _ => false

/-- Whether all items can be written down. -/
def areWritable : List Value → Bool
  | [] => true
  | item :: rest => isWritable item && areWritable rest

/-- Whether all entries can be written down. -/
def areWritableEntries : List (Value × Value) → Bool
  | [] => true
  | (key, value) :: rest => isWritable key && isWritable value && areWritableEntries rest

end

end Value

/-- A computation that waits instead of having a fault. -/
def Run.waiting {α : Type} (computation : Run (Option α)) : Run (Option α) :=
  tryCatch computation fun _ => pure none

/-- What evaluating constants needs: services, and whether text is escaped. -/
structure Folding where
  services : Services
  escapes : Bool
  /-- Whether it is known only later if text is escaped. -/
  undecided : Bool := false

/-- The cell that says whether text is escaped while constants are evaluated. -/
def Folding.cell : Nat := 0

namespace Folding

variable (folding : Folding)

mutual

/-- The value of an expression, unless it has to wait. -/
def constantOf : Expr → Run (Option Value)
  | .const _ value => pure (some value)
  | .data _ text =>
    pure (if folding.undecided then none
      else some (if folding.escapes then .markup text else .string text))
  | .name _ _ _ | .namespaceRef _ _ _ | .slice _ _ _ _ | .call _ _ _ => pure none
  | .tuple _ items _ => do pure ((← constantsOf items).map .tuple)
  | .list _ items => do pure ((← constantsOf items).map .list)
  | .dict _ entries => do pure ((← entriesOf [] entries).map .dict)
  | .conditional _ test whenTrue whenFalse => do
    match ← constantOf test with
    | none => pure none
    | some value => do
      if ← folding.services.truth value then constantOf whenTrue else optionalOf whenFalse
  | .binary _ .and left right => do
    match ← constantOf left with
    | none => pure none
    | some value => do
      if ← folding.services.truth value then constantOf right else pure (some value)
  | .binary _ .or left right => do
    match ← constantOf left with
    | none => pure none
    | some value => do
      if ← folding.services.truth value then pure (some value) else constantOf right
  | .binary _ op left right => Run.waiting do
    match ← constantOf left with
    | none => pure none
    | some x =>
      match ← constantOf right with
      | none => pure none
      | some y => do pure (some (← folding.services.arithmetic op x y))
  | .unary _ op operand => Run.waiting do
    match ← constantOf operand with
    | none => pure none
    | some value =>
      match op with
      | .not => do pure (some (.bool (!(← folding.services.truth value))))
      | op => do pure (some (← Value.signed op value))
  | .compare _ first others => do
    match ← constantOf first with
    | none => pure none
    | some value => Run.waiting (comparisonOf value others)
  | .concat _ parts => do
    match ← textsOf parts with
    | none => pure none
    | some texts => pure (some (.string (String.join texts)))
  | .getattr _ object id => Run.waiting do
    match ← constantOf object with
    | none => pure none
    | some value => do pure (some (← folding.services.getAttribute value id))
  | .getitem _ object (.slice _ start stop step) => Run.waiting do
    match ← constantOf object, ← boundOf start, ← boundOf stop, ← boundOf step with
    | some value, some start, some stop, some step => do
      pure (some (← Services.slice value start stop step))
    | _, _, _, _ => pure none
  | .getitem _ object index => Run.waiting do
    match ← constantOf object with
    | none => pure none
    | some value =>
      match ← constantOf index with
      | none => pure none
      | some key => do pure (some (← folding.services.getElement value key))
  | .filter _ none _ _ => pure none
  | .filter _ (some subject) id arguments => do
    match Filter.ofName? id with
    | none => pure none
    | some filter =>
      if filter.needsContext || folding.undecided then pure none
      else
        match ← argumentsOf arguments with
        | none => pure none
        | some given =>
          match ← constantOf subject with
          | none => pure none
          | some value => Run.waiting do
            let given := { given with positional := value :: given.positional }
            pure (some (← filter.apply folding.services Folding.cell (← filter.bind given)))
  | .test _ subject id arguments => do
    match Test.ofName? id with
    | none => pure none
    | some test =>
      if folding.undecided then pure none
      else
        match ← argumentsOf arguments with
        | none => pure none
        | some given =>
          match ← constantOf subject with
          | none => pure none
          | some value => Run.waiting do
            let given := { given with positional := value :: given.positional }
            let holds ← test.apply folding.services (← test.bind given)
            pure (some (.bool (holds && (!Test.asksForIdentity id || Test.isUnique value))))

/-- The values of arguments, unless one of them has to wait. -/
def argumentsOf : Arguments → Run (Option CallArguments)
  | .mk positional keywords more moreKeywords => do
    match ← constantsOf positional with
    | none => pure none
    | some positional =>
      match ← keywordsOf keywords with
      | none => pure none
      | some keywords => Run.waiting do
        let more ←
          match more with
          | none => pure (some [])
          | some expr => do
            match ← constantOf expr with
            | none => pure none
            | some value => do pure (some (← folding.services.items value))
        let moreKeywords ←
          match moreKeywords with
          | none => pure (some [])
          | some expr => do
            match ← constantOf expr with
            | some (.dict entries) =>
              pure (entries.mapM fun (key, value) => key.text?.map fun id => (id, value))
            | _ => pure none
        match more, moreKeywords with
        | some more, some moreKeywords =>
          pure (some ⟨positional ++ more, overlay (overlay [] keywords) moreKeywords⟩)
        | _, _ => pure none

/-- The values of expressions, unless one of them has to wait. -/
def constantsOf : List Expr → Run (Option (List Value))
  | [] => pure (some [])
  | expr :: rest => do
    match ← constantOf expr with
    | none => pure none
    | some value => do pure ((← constantsOf rest).map (value :: ·))

/-- The value of an expression that may be left out, but then there is none. -/
def optionalOf : Option Expr → Run (Option Value)
  | none => pure none
  | some expr => constantOf expr

/-- The bound of a slice, which may be left out. -/
def boundOf : Option Expr → Run (Option (Option Value))
  | none => pure (some none)
  | some expr => do pure ((← constantOf expr).map some)

/-- The entries of a dictionary after those collected already. -/
def entriesOf (collected : List (Value × Value)) :
    List (Expr × Expr) → Run (Option (List (Value × Value)))
  | [] => pure (some collected)
  | (key, value) :: rest => do
    match ← constantOf key with
    | none => pure none
    | some key =>
      match ← constantOf value with
      | none => pure none
      | some value => do
        Value.asKey key
        entriesOf (← Value.putEntry key value collected) rest

/-- The values of keywords, unless one of them has to wait. -/
def keywordsOf : List (String × Expr) → Run (Option (List (String × Value)))
  | [] => pure (some [])
  | (id, expr) :: rest => do
    match ← constantOf expr with
    | none => pure none
    | some value => do pure ((← keywordsOf rest).map ((id, value) :: ·))

/-- The result of comparisons that go on from a value. -/
def comparisonOf (value : Value) : List (CompareOp × Expr) → Run (Option Value)
  | [] => pure (some value)
  | (op, operand) :: rest => do
    match ← constantOf operand with
    | none => pure none
    | some next => do
      if ← folding.services.compare op value next then
        match rest with
        | [] => pure (some (.bool true))
        | rest => comparisonOf next rest
      else pure (some (.bool false))

/-- The texts of expressions, unless one of them has to wait. -/
def textsOf : List Expr → Run (Option (List String))
  | [] => pure (some [])
  | expr :: rest => do
    match ← constantOf expr with
    | none => pure none
    | some value => do
      let text ← folding.services.printed value
      pure ((← textsOf rest).map (text :: ·))

end

/-- The expression, or its value if that can be written down. -/
def settle (expr : Expr) : Run Expr := do
  match ← folding.constantOf expr with
  | some value => pure (if value.isWritable then .const expr.line value else expr)
  | none => pure expr

mutual

/-- The expression with its constant parts replaced by their values. -/
def fold : Expr → Run Expr
  | .const line value => pure (.const line value)
  | .data line text => folding.settle (.data line text)
  | .name line id use => pure (.name line id use)
  | .namespaceRef line id attr => pure (.namespaceRef line id attr)
  | .tuple line items use => do folding.settle (.tuple line (← foldAll items) use)
  | .list line items => do folding.settle (.list line (← foldAll items))
  | .dict line entries => do folding.settle (.dict line (← foldEntries entries))
  | .conditional line test whenTrue whenFalse => do
    let test ← fold test
    let whenTrue ← fold whenTrue
    folding.settle (.conditional line test whenTrue (← foldOptional whenFalse))
  | .binary line op left right => do
    let left ← fold left
    folding.settle (.binary line op left (← fold right))
  | .unary line op operand => do folding.settle (.unary line op (← fold operand))
  | .compare line first others => do
    let first ← fold first
    folding.settle (.compare line first (← foldCompared others))
  | .concat line parts => do folding.settle (.concat line (← foldAll parts))
  | .getattr line object attr => do folding.settle (.getattr line (← fold object) attr)
  | .getitem line object index => do
    let object ← fold object
    folding.settle (.getitem line object (← fold index))
  | .slice line start stop step => do
    let start ← foldOptional start
    let stop ← foldOptional stop
    pure (.slice line start stop (← foldOptional step))
  | .call line function arguments => do
    let function ← fold function
    pure (.call line function (← foldArguments arguments))
  | .filter line subject id arguments => do
    let subject ← foldOptional subject
    folding.settle (.filter line subject id (← foldArguments arguments))
  | .test line subject id arguments => do
    let subject ← fold subject
    folding.settle (.test line subject id (← foldArguments arguments))

/-- Arguments with their constant parts replaced. -/
def foldArguments : Arguments → Run Arguments
  | .mk positional keywords more moreKeywords => do
    let positional ← foldAll positional
    let keywords ← foldKeywords keywords
    let more ← foldOptional more
    pure (.mk positional keywords more (← foldOptional moreKeywords))

/-- Expressions with their constant parts replaced. -/
def foldAll : List Expr → Run (List Expr)
  | [] => pure []
  | expr :: rest => do
    let expr ← fold expr
    pure (expr :: (← foldAll rest))

/-- An expression that may be left out, with its constant parts replaced. -/
def foldOptional : Option Expr → Run (Option Expr)
  | none => pure none
  | some expr => do pure (some (← fold expr))

/-- The entries of a dictionary with their constant parts replaced. -/
def foldEntries : List (Expr × Expr) → Run (List (Expr × Expr))
  | [] => pure []
  | (key, value) :: rest => do
    let key ← fold key
    let value ← fold value
    pure ((key, value) :: (← foldEntries rest))

/-- Keywords with the constant parts of their values replaced. -/
def foldKeywords : List (String × Expr) → Run (List (String × Expr))
  | [] => pure []
  | (id, value) :: rest => do
    let value ← fold value
    pure ((id, value) :: (← foldKeywords rest))

/-- Comparisons with the constant parts of their operands replaced. -/
def foldCompared : List (CompareOp × Expr) → Run (List (CompareOp × Expr))
  | [] => pure []
  | (op, operand) :: rest => do
    let operand ← fold operand
    pure ((op, operand) :: (← foldCompared rest))

end

mutual

/-- The expression prepared for compiling: the constant parts of operators, calls, filters and tests
are replaced, while brackets of items are only looked into. -/
def prepare : Expr → Run Expr
  | .tuple line items use => do pure (.tuple line (← prepareAll items) use)
  | .list line items => do pure (.list line (← prepareAll items))
  | .dict line entries => do pure (.dict line (← prepareEntries entries))
  | expr => folding.fold expr

/-- Expressions prepared for compiling. -/
def prepareAll : List Expr → Run (List Expr)
  | [] => pure []
  | expr :: rest => do
    let expr ← prepare expr
    pure (expr :: (← prepareAll rest))

/-- Entries of a dictionary prepared for compiling. -/
def prepareEntries : List (Expr × Expr) → Run (List (Expr × Expr))
  | [] => pure []
  | (key, value) :: rest => do
    let key ← prepare key
    let value ← prepare value
    pure ((key, value) :: (← prepareEntries rest))

end

end Folding

end TemplateWorkbench.Template
