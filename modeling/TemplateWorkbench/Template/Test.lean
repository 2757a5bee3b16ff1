import TemplateWorkbench.Template.Filter

/-!
# Tests

A test says whether something holds of a value, which is its first argument.
-/

namespace TemplateWorkbench.Template

/-- A test: how it takes its arguments, and what it says of them. -/
structure Test where
  bind : CallArguments → Except Fault Bound
  apply : Services → Bound → Run Bool

namespace Test

/-- A test with named parameters. -/
def named (signature : Signature) (apply : Services → Bound → Run Bool) : Test where
  bind := signature.bind
  apply := apply

/-- A test of one value. -/
def single (id : String) (apply : Services → Value → Run Bool) : Test :=
  named { id, required := ["value"] } fun services bound => apply services (bound.value 0)

/-- A test of what a value is, which needs nothing else. -/
def ofKind (id : String) (p : Value → Bool) : Test := single id fun _ value => pure (p value)

/-- A test of two values by a comparison. -/
def comparing (name : String) (op : CompareOp) : Test where
  bind arguments := do
    pure { values := ← arguments.between s!"_operator.{name}" name 2 2 }
  apply services bound := services.compare op (bound.value 0) (bound.value 1)

/-- Whether the remainder of a division is a given one. -/
def leaves (services : Services) (value divisor : Value) (rest : Int) : Run Bool := do
  Value.equal (← services.arithmetic .mod value divisor) (.int rest)

/-- Whether a value can be called. -/
def isCallable : Value → Bool
  | .undefined _ _ | .builtin _ | .method _ _ | .object .macroDef _ | .object .block _ => true
  | .object .loop _ | .object .joiner _ => true
  | .foreign "type" _ => true
  | _ => false

/-- Whether a value can be walked over. -/
def isIterable (value : Value) : Run Bool :=
  match value.source with
  | .ok _ => pure true
  | .error fault =>
    if fault.kind = .type then pure false
    else if fault.kind = .key then pure true
    else throw fault

/-- Whether a value has a length and elements. -/
def isSequence (value : Value) : Bool :=
  match value with
  | .undefined strict _ => !strict
  | .set _ _ | .view _ _ | .object _ _ => false
  | value => value.length?.any (· < Number.wordLimit)

/-- The integers of which there is only one each. -/
def isSmall (value : Int) : Bool := -5 ≤ value && value ≤ 256

/-- Whether there is only one value like this one, however it has been made. -/
def isUnique : Value → Bool
  | .int value => isSmall value
  | .string text => text.length = 0 || (text.length = 1 && text.toList.all fun c => c.toNat < 0x100)
  | .tuple items => items.isEmpty
  | .none | .bool _ | .builtin _ => true
  | _ => false

/-- Whether two values are one and the same. -/
def isSame (left right : Value) : Run Bool :=
  match left, right with
  | .none, .none => pure true
  | .bool a, .bool b => pure (a == b)
  | .int a, .int b => pure (a == b)
  | .object kind a, .object other b => pure (kind == other && a == b)
  | .builtin a, .builtin b => pure (a == b)
  | .undefined _ a, .undefined _ b => pure (a == b)
  | left, right =>
    if left.typeName == right.typeName then Value.same left right else pure false

/-- Whether a test answers yes only to two values that are one and the same. -/
def asksForIdentity (id : String) : Bool := id == "sameas"

/-- Whether a value is among the names of a list. -/
def isNameIn (names : List String) (value : Value) : Run Bool := do
  Value.asKey value
  pure (value.text?.any names.contains)

/-- Tests of the kind of a value. -/
def kindTests : List (String × Test) := [
  ("defined", ofKind "test_defined" fun value => !value.isUndefined),
  ("undefined", ofKind "test_undefined" Value.isUndefined),
  ("none", ofKind "test_none" (· matches .none)),
  ("boolean", ofKind "test_boolean" (· matches .bool _)),
  ("true", ofKind "test_true" (· matches .bool true)),
  ("false", ofKind "test_false" (· matches .bool false)),
  ("integer", ofKind "test_integer" (· matches .int _)),
  ("float", ofKind "test_float" fun value =>
    value matches .double _ || value matches .nan _),
  ("number", ofKind "test_number" fun value =>
    value.numeral?.isSome || value.complex?.isSome),
  ("string", ofKind "test_string" Value.isText),
  ("mapping", ofKind "test_mapping" (· matches .dict _)),
  ("sequence", ofKind "test_sequence" isSequence),
  ("iterable", single "test_iterable" fun _ => isIterable),
  ("callable",
    { bind := fun arguments => do pure { values := [← arguments.exactlyOne "callable"] }
      apply := fun _ bound => pure (isCallable (bound.value 0)) }),
  ("escaped", single "test_escaped" fun _ value => do
    pure (← Services.ownMarkup? value).isSome)]

/-- Tests of texts and numbers. -/
def contentTests : List (String × Test) := [
  ("odd", single "test_odd" fun services value => leaves services value (.int 2) 1),
  ("even", single "test_even" fun services value => leaves services value (.int 2) 0),
  ("divisibleby", named { id := "test_divisibleby", required := ["value", "num"] }
    fun services bound => leaves services (bound.value 0) (bound.value 1) 0),
  ("lower", single "test_lower" fun services value => do
    pure (Unicode.isAllLower (← services.printed value))),
  ("upper", single "test_upper" fun services value => do
    pure (Unicode.isAllUpper (← services.printed value)))]

/-- Tests of one value against another. -/
def relationTests : List (String × Test) := [
  ("sameas", named { id := "test_sameas", required := ["value", "other"] }
    fun _ bound => isSame (bound.value 0) (bound.value 1)),
  ("in", named { id := "test_in", required := ["value", "seq"] }
    fun services bound => services.isIn (bound.value 0) (bound.value 1)),
  ("==", comparing "eq" .eq), ("eq", comparing "eq" .eq), ("equalto", comparing "eq" .eq),
  ("!=", comparing "ne" .ne), ("ne", comparing "ne" .ne),
  (">", comparing "gt" .gt), ("gt", comparing "gt" .gt), ("greaterthan", comparing "gt" .gt),
  (">=", comparing "ge" .gteq), ("ge", comparing "ge" .gteq),
  ("<", comparing "lt" .lt), ("lt", comparing "lt" .lt), ("lessthan", comparing "lt" .lt),
  ("<=", comparing "le" .lteq), ("le", comparing "le" .lteq)]

/-- The tests under their names, apart from those for the names of filters and tests. -/
def plain : List (String × Test) := kindTests ++ contentTests ++ relationTests

/-- The names of all tests. -/
def names : List String := plain.map (·.1) ++ ["filter", "test"]

/-- All tests under their names. -/
def all : List (String × Test) :=
  plain ++ [
    ("filter", named { id := "test_filter", hidden := ["env"], required := ["value"] }
      fun _ bound => isNameIn (Filter.all.map (·.1)) (bound.value 0)),
    ("test", named { id := "test_test", hidden := ["env"], required := ["value"] }
      fun _ bound => isNameIn names (bound.value 0))]

/-- The test of a name. -/
def ofName? (name : String) : Option Test := all.lookup name

/-- The fault of a name that no test has. -/
def unknown (name : String) : Fault :=
  faultOf .templateRuntime (Misreading.unknownTest name).message

/-- Applies the test of a name. -/
def applyNamed (services : Services) (name : String) (arguments : CallArguments) : Run Value := do
  match ofName? name with
  | none => throw (unknown name)
  | some test => do pure (.bool (← test.apply services (← test.bind arguments)))

end Test

/-- What walking over values and applying filters needs, down to a depth of streams inside of
streams. -/
def Services.within (strict : Bool) (passes : Target → LoopTest → Scene → Value → Run Bool) :
    (depth : Nat) → Services
  | 0 =>
    let tooDeep {α : Type} : Run α :=
      throw (faultOf .recursion "maximum recursion depth exceeded")
    { strict, passes, next := fun _ _ => tooDeep, filter := fun _ _ _ => tooDeep
      test := fun _ _ _ => tooDeep }
  | depth + 1 =>
    { strict
      passes
      next := fun kind address =>
        let lower := Services.within strict passes depth
        match kind with
        | .loop => lower.nextOfLoop address
        | _ => lower.nextOfStream address
      filter := fun cell id arguments =>
        Filter.applyNamed (Services.within strict passes depth) cell id arguments
      test := fun _ id arguments =>
        Test.applyNamed (Services.within strict passes depth) id arguments }

end TemplateWorkbench.Template
