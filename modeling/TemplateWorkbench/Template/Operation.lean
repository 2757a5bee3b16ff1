import TemplateWorkbench.Template.Attribute
import TemplateWorkbench.Template.Value.Arithmetic
import TemplateWorkbench.Template.Value.Interpolation

/-!
# Operators

What the operators of expressions do with two values, and how values become text or markup.  A percent
sign after a text fills the text in; every other arithmetic operator is one of numbers and
sequences.
-/

namespace TemplateWorkbench.Template.Services

variable (services : Services)

/-! ### Arithmetic and comparisons -/

/-- A text filled in with a value as a format. -/
def interpolate (format : String) (isMarkup : Bool) (value : Value) : Run Value := do
  Value.interpolate (← services.lookFor value) format isMarkup value

/-- An arithmetic operator between two values. -/
def arithmetic (op : BinaryOp) (left right : Value) : Run Value :=
  match op, left with
  | .mod, .string format => services.interpolate format false right
  | .mod, .markup format => services.interpolate format true right
  | _, _ => Value.arithmetic op left right

/-- A comparison of two values. -/
def compare (op : CompareOp) (left right : Value) : Run Bool :=
  match op with
  | .eq => Value.equal left right
  | .ne => do pure (!(← Value.equal left right))
  | .lt => Value.ordered .lt left right
  | .lteq => Value.ordered .le left right
  | .gt => Value.ordered .gt left right
  | .gteq => Value.ordered .ge left right
  | .isIn => services.isIn left right
  | .notIn => do pure (!(← services.isIn left right))

/-! ### Text and markup -/

/-- Whether text is escaped where a cell says so. -/
def escapes (cell : Nat) : Run Bool := do services.truth (← fetch (·.escaping) cell)

/-- The markup that a value stands for by itself, if it does. -/
def ownMarkup? (value : Value) : Run (Option String) :=
  match value with
  | .markup text => pure (some text)
  | .object .module address => do pure (some (← joinParts (← fetch (·.modules) address).body))
  | _ => pure none

/-- The markup of a value: its own, or what is printed of it, escaped. -/
def escape (value : Value) : Run String := do
  match ← ownMarkup? value with
  | some text => pure text
  | none => do pure (Text.escapeMarkup (← services.printed value))

/-- A value as text: texts and markup stay as they are, everything else is printed. -/
def asText (value : Value) : Run Value := do
  if value.isText then pure value else pure (.string (← services.printed value))

end TemplateWorkbench.Template.Services
