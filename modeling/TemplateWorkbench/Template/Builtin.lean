import TemplateWorkbench.Template.Call
import TemplateWorkbench.Template.Iteration
import TemplateWorkbench.Template.Method

/-!
# Functions of every template

The functions that a template can call without being given them: ranges of integers, dictionaries,
filler text, and the makers of cyclers, joiners and namespaces.
-/

namespace TemplateWorkbench.Template

namespace Builtin

/-- An integer argument of a range. -/
def rangeBound (value : Value) : Except Fault Int :=
  match value.integer? with
  | some n => .ok n
  | none => .error (typeFault s!"'{value.typeName}' object cannot be interpreted as an integer")

/-- The integers between two bounds. -/
def makeRange (arguments : CallArguments) : Except Fault Value := do
  let given ← arguments.between "range" "range" 1 3
  match ← given.mapM rangeBound with
  | [stop] => pure (.range 0 stop 1)
  | [start, stop] => pure (.range start stop 1)
  | start :: stop :: step :: _ =>
    if step = 0 then .error (valueFault "range() arg 3 must not be zero")
    else pure (.range start stop step)
  | [] => pure (.range 0 0 1)

/-- The entries that the items of a value are. -/
def entriesFrom (services : Services) (position : Nat) :
    List Value → Run (List (Value × Value))
  | [] => pure []
  | item :: rest => do
    match item.source with
    | .error fault =>
      if fault.kind = .type then
        throw (typeFault
          s!"cannot convert dictionary update sequence element #{position} to a sequence")
      else throw fault
    | .ok source =>
      match ← services.drain source with
      | [key, value] => do pure ((key, value) :: (← entriesFrom services (position + 1) rest))
      | parts =>
        throw (valueFault
          (s!"dictionary update sequence element #{position} has length {parts.length}; " ++
            "2 is required"))

/-- The entries of a dictionary that is made from a value, if one is given, and keywords. -/
def makeEntries (services : Services) (arguments : CallArguments) :
    Run (List (Value × Value)) := do
  let keywords := arguments.keywords.map fun (id, value) => (Value.string id, value)
  match arguments.positional with
  | [] => pure keywords
  | [given] => do
    let entries ←
      match given with
      | .dict entries => pure entries
      | .undefined _ absence => throw absence.fault
      | given => do
        let items ← services.items given
        entriesFrom services 0 items
    match ← Run.lift (Value.ofEntries (entries ++ keywords)) with
    | .dict entries => pure entries
    | _ => pure []
  | given => throw (typeFault s!"dict expected at most 1 argument, got {given.length}")

/-- A paragraph of filler text. -/
def fillerText : String := "Lorem ipsum dolor sit amet, consectetuer adipiscing elit."

/-- Paragraphs of filler text. -/
def makeFiller (services : Services) (arguments : CallArguments) : Run Value := do
  let signature : Signature :=
    { id := "generate_lorem_ipsum"
      optional := [("n", .int 5), ("html", .bool true), ("min", .int 20), ("max", .int 100)] }
  let bound ← Run.lift (signature.bind arguments)
  let count ← Run.lift (rangeBound (bound.values[0]?.getD .none))
  let paragraphs := List.replicate count.toNat fillerText
  if ← services.truth (bound.values[1]?.getD .none) then
    pure (.markup ("\n".intercalate (paragraphs.map fun p => s!"<p>{p}</p>")))
  else pure (.string ("\n\n".intercalate paragraphs))

/-- Applies a function of every template. -/
def apply (services : Services) (function : Builtin) (arguments : CallArguments) : Run Value := do
  match function with
  | .range => makeRange arguments
  | .dict => do pure (.dict (← makeEntries services arguments))
  | .lipsum => makeFiller services arguments
  | .cycler => do
    let bound ← Run.lift
      (({ id := "Cycler.__init__", hidden := ["self"], takesMore := true } : Signature).bind
        arguments)
    if bound.more.isEmpty then
      throw (faultOf .failure "at least one item has to be provided")
    else newCycler bound.more
  | .joiner => do
    let bound ← Run.lift
      (({ id := "Joiner.__init__", hidden := ["self"], optional := [("sep", .string ", ")] }
        : Signature).bind arguments)
    newJoiner (bound.values[0]?.getD .none)
  | .namespace => do newNamespace (← makeEntries services arguments)

end Builtin

/-- The separator of a joiner, or nothing the first time. -/
def callJoiner (address : Nat) (arguments : CallArguments) : Run Value := do
  let _ ← Run.lift
    (({ id := "Joiner.__call__", hidden := ["self"] } : Signature).bind arguments)
  let joiner ← fetch (·.joiners) address
  if joiner.used then pure joiner.separator
  else do
    modify fun m => { m with joiners := m.joiners.modify address fun j => { j with used := true } }
    pure (.string "")

end TemplateWorkbench.Template
