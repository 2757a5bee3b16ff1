import TemplateWorkbench.Template.Braces
import TemplateWorkbench.Template.Operation
import TemplateWorkbench.Text.Search
import TemplateWorkbench.Unicode.Case
import TemplateWorkbench.Unicode.Character

/-!
# Methods of values

The methods of texts and dictionaries that templates use.  A method of markup escapes the texts that
it is given, and gives markup again.
-/

namespace TemplateWorkbench.Template

/-- A text of the kind of another: plain, or markup. -/
def Value.textLike (isMarkup : Bool) (text : String) : Value :=
  if isMarkup then .markup text else .string text

namespace Method

/-- A text with its kind, on which a method is called. -/
structure Subject where
  text : String
  isMarkup : Bool

/-- The method's result as text of the subject's kind. -/
def Subject.give (subject : Subject) (text : String) : Value := .textLike subject.isMarkup text

/-- An integer argument that fits a machine word. -/
def machineInteger (value : Value) : Except Fault Int :=
  match value.integer? with
  | some n =>
    if Number.wordLimit ≤ n || n < -Number.wordLimit then
      .error (overflowFault "Python int too large to convert to C ssize_t")
    else .ok n
  | none => .error (typeFault s!"'{value.typeName}' object cannot be interpreted as an integer")

/-- A limit: a negative one is none. -/
def limitOf (n : Int) : Option Nat := if n < 0 then none else some n.toNat

/-- The parameters of a method of markup that have no name to the outside. -/
def markupSignature (id : String) (required : List String) (optional : List (String × Value)) :
    Signature where
  id := s!"Markup.{id}"
  hidden := ["self"]
  unnamed := "self" :: required ++ optional.map (·.1)
  required := required
  optional := optional

/-- The arguments of a method of markup. -/
def markupArguments (id : String) (arguments : CallArguments) (required : List String)
    (optional : List (String × Value)) : Except Fault CallArguments := do
  let bound ← (markupSignature id required optional).bind arguments
  pure { positional := bound.values }

/-- The arguments of a method of texts: a method of markup first matches them with its own
parameters. -/
def matchArguments (subject : Subject) (id : String) (arguments : CallArguments) :
    Except Fault CallArguments :=
  if !subject.isMarkup then .ok arguments
  else
    match id with
    | "upper" | "lower" | "title" | "capitalize" => markupArguments id arguments [] []
    | "strip" | "lstrip" | "rstrip" => markupArguments id arguments [] [("chars", .none)]
    | "zfill" => markupArguments id arguments ["width"] []
    | "join" => markupArguments id arguments ["iterable"] []
    | "replace" => markupArguments id arguments ["old", "new"] [("count", .int (-1))]
    | "split" => do
      let signature : Signature :=
        { id := "Markup.split", hidden := ["self"], unnamed := ["self"]
          optional := [("sep", .none), ("maxsplit", .int (-1))] }
      pure { positional := (← signature.bind arguments).values }
    | "format" => do
      let signature : Signature :=
        { id := "Markup.format", hidden := ["self"], takesMore := true, takesKeywords := true }
      let _ ← signature.bind arguments
      pure arguments
    | _ => .ok arguments

/-- The text with characters taken off its ends. -/
def stripped (front back : Bool) (subject : Subject) (id : String) (arguments : CallArguments) :
    Except Fault Value := do
  let given ← arguments.between s!"str.{id}" id 0 1
  let drops : Char → Bool ←
    match given with
    | [] | [.none] => pure Unicode.isBlank
    | value :: _ =>
      match value.text? with
      | some set => pure (fun c => set.toList.contains c)
      | none => .error (typeFault s!"{id} arg must be None or str")
  let text := subject.text.toList
  let text := if front then Unicode.dropLeading drops text else text
  let text := if back then Unicode.dropTrailing drops text else text
  pure (subject.give (String.ofList text))

/-- The arguments of splitting: a separator and a limit. -/
def splitArguments (arguments : CallArguments) : Except Fault (Value × Value) := do
  let count := arguments.positional.length + arguments.keywords.length
  if count > 2 then
    .error (typeFault s!"split() takes at most 2 arguments ({count} given)")
  else
    match arguments.keywords.find? fun k => k.1 != "sep" && k.1 != "maxsplit" with
    | some (id, _) => .error (typeFault s!"'{id}' is an invalid keyword argument for split()")
    | none =>
      let byName (id : String) (position : Nat) (default : Value) : Except Fault Value :=
        match arguments.positional[position]?, arguments.keywords.lookup id with
        | some _, some _ =>
          .error (typeFault
            s!"argument for split() given by name ('{id}') and position ({position + 1})")
        | some value, none => .ok value
        | none, some value => .ok value
        | none, none => .ok default
      pure (← byName "sep" 0 .none, ← byName "maxsplit" 1 (.int (-1)))

/-- The text split into a list. -/
def split (subject : Subject) (arguments : CallArguments) : Except Fault Value := do
  let (separator, most) ← splitArguments arguments
  let most ← machineInteger most
  let text := subject.text.toList
  let pieces ←
    match separator with
    | .none => pure (Text.words Unicode.isBlank (limitOf most) text)
    | value =>
      match value.text? with
      | none => .error (typeFault s!"must be str or None, not {value.typeName}")
      | some part =>
        if part.isEmpty then .error (valueFault "empty separator")
        else pure (Text.split part.toList (limitOf most) text)
  pure (.list (pieces.map fun piece => subject.give (String.ofList piece)))

/-- The text with a part replaced. -/
def replace (services : Services) (subject : Subject) (arguments : CallArguments) : Run Value := do
  let given ← arguments.between "str.replace" "replace" 2 3
  let part (position : Nat) (value : Value) : Run String :=
    match value.text? with
    | some text => pure text
    | none =>
      let found := if value matches .none then "None" else value.typeName
      throw (typeFault s!"replace() argument {position} must be str, not {found}")
  let new : Value := given[1]?.getD .none
  let new ← if subject.isMarkup then do pure (.string (← services.escape new)) else pure new
  let old ← part 1 (given[0]?.getD .none)
  let new ← part 2 new
  let most ← machineInteger (given[2]?.getD (.int (-1)))
  pure (subject.give
    (String.ofList (Text.replace old.toList new.toList (limitOf most) subject.text.toList)))

/-- Texts joined with the subject between them; markup takes every value and escapes it. -/
def join (services : Services) (subject : Subject) (arguments : CallArguments) : Run Value := do
  let given ← arguments.exactlyOne "str.join"
  match given.source with
  | .error fault =>
    if fault.kind = .type && !subject.isMarkup then throw (typeFault "can only join an iterable") else throw fault
  | .ok source =>
    let items ← services.drain source
    let texts ← if subject.isMarkup then items.mapM services.escape else collect 0 items
    pure (subject.give (subject.text.intercalate texts))
where
  /-- The texts of items. -/
  collect (position : Nat) : List Value → Run (List String)
    | [] => pure []
    | item :: rest =>
      match item.text? with
      | some text => do pure (text :: (← collect (position + 1) rest))
      | none =>
        throw (typeFault
          s!"sequence item {position}: expected str instance, {item.typeName} found")

/-- Where a search in a text starts and stops; it may start after the end, and finds nothing then. -/
def searchBounds (length : Nat) (given : List Value) : Run (Int × Int) := do
  let start ← Services.sliceBound given[1]?
  let stop ← Services.sliceBound given[2]?
  let (first, last) := Services.sliceBounds length start stop 1
  pure (if start.any fun (n : Int) => n > length then length + 1 else first, last)

/-- Whether a text begins or ends with a part. -/
def hasEnd (atFront : Bool) (subject : Subject) (id : String) (arguments : CallArguments) :
    Run Value := do
  let given ← arguments.counted s!"str.{id}" id 1 3
  let text := subject.text.toList
  let (start, stop) ← searchBounds text.length given
  let window := (text.take stop.toNat).drop start.toNat
  let matchesPart (part : String) : Bool :=
    start ≤ stop &&
      (if atFront then part.toList.isPrefixOf window else part.toList.isSuffixOf window)
  let first := given[0]?.getD .none
  match first.text?, first with
  | some part, _ => pure (.bool (matchesPart part))
  | none, .tuple parts =>
    match parts.find? fun part => !part.isText with
    | some other =>
      if (parts.takeWhile Value.isText).any fun part => part.text?.any matchesPart then
        pure (.bool true)
      else
        throw (typeFault
          s!"tuple for {id} must only contain str, not {other.typeName}")
    | none => pure (.bool (parts.any fun part => part.text?.any matchesPart))
  | none, other =>
    throw (typeFault
      s!"{id} first arg must be str or a tuple of str, not {other.typeName}")

/-- Where a part is in a text, or minus one. -/
def find (subject : Subject) (arguments : CallArguments) : Run Value := do
  let given ← arguments.counted "str.find" "find" 1 3
  let text := subject.text.toList
  let (start, stop) ← searchBounds text.length given
  let first : Value := given[0]?.getD .none
  match first.text? with
  | none => throw (typeFault s!"must be str, not {first.typeName}")
  | some part =>
    let window := (text.take stop.toNat).drop start.toNat
    if start > stop then pure (.int (-1))
    else
      match Text.find? part.toList window with
      | some offset => pure (.int (offset + start))
      | none => pure (.int (-1))

/-- The number of times that a part is in a text. -/
def count (subject : Subject) (arguments : CallArguments) : Run Value := do
  let given ← arguments.counted "str.count" "count" 1 3
  let text := subject.text.toList
  let (start, stop) ← searchBounds text.length given
  let first : Value := given[0]?.getD .none
  match first.text? with
  | none => throw (typeFault s!"must be str, not {first.typeName}")
  | some part =>
    let window := (text.take stop.toNat).drop start.toNat
    if start > stop then pure (.int 0)
    else if part.isEmpty then pure (.int (window.length + 1))
    else pure (.int ((Text.split part.toList none window).length - 1 : Nat))

/-- A text filled up with zeros after its sign. -/
def zeroFilled (subject : Subject) (arguments : CallArguments) : Except Fault Value := do
  let width ← machineInteger (← arguments.exactlyOne "str.zfill")
  Presentation.checkRoom width.toNat
  let text := subject.text.toList
  let zeros := List.replicate (width.toNat - text.length) '0'
  let filled :=
    match text with
    | c :: rest => if c == '+' || c == '-' then c :: zeros ++ rest else zeros ++ text
    | [] => zeros
  pure (subject.give (String.ofList filled))

/-- A method of a text. -/
def onText (services : Services) (subject : Subject) (id : String) (arguments : CallArguments) :
    Run Value := do
  let arguments ← matchArguments subject id arguments
  let plainly (f : String → String) : Run Value := do
    arguments.none s!"str.{id}"
    pure (subject.give (f subject.text))
  let tells (p : String → Bool) : Run Value := do
    arguments.none s!"str.{id}"
    pure (.bool (p subject.text))
  match id with
  | "upper" => plainly Unicode.toUpper
  | "lower" => plainly Unicode.toLower
  | "title" => plainly Unicode.toTitle
  | "capitalize" => plainly Unicode.capitalize
  | "isupper" => tells Unicode.isAllUpper
  | "islower" => tells Unicode.isAllLower
  | "strip" => stripped true true subject id arguments
  | "lstrip" => stripped true false subject id arguments
  | "rstrip" => stripped false true subject id arguments
  | "split" => split subject arguments
  | "replace" => replace services subject arguments
  | "join" => join services subject arguments
  | "startswith" => hasEnd true subject id arguments
  | "endswith" => hasEnd false subject id arguments
  | "find" => find subject arguments
  | "count" => count subject arguments
  | "zfill" => zeroFilled subject arguments
  | "format" => do
    pure (subject.give
      (← Braces.format services subject.text subject.isMarkup arguments))
  | _ => throw (typeFault s!"str.{id}() is not available to templates")

/-- A method of a dictionary. -/
def onDict (entries : List (Value × Value)) (id : String) (arguments : CallArguments) :
    Except Fault Value := do
  let part (part : DictPart) : Except Fault Value := do
    arguments.none s!"dict.{id}"
    pure (.view part entries)
  match id with
  | "keys" => part .keys
  | "values" => part .values
  | "items" => part .items
  | "get" =>
    let given ← arguments.between "dict.get" "get" 1 2
    let key := given[0]?.getD .none
    Value.asKey key
    pure ((← Value.entry? key entries).getD (given[1]?.getD .none))
  | "copy" => do
    arguments.none s!"dict.{id}"
    pure (.dict entries)
  | _ => .error (typeFault s!"dict.{id}() is not available to templates")

/-- A method of an object that templates make. -/
def onObject (kind : ObjectKind) (address : Nat) (id : String)
    (arguments : CallArguments) : Run Value := do
  match kind, id with
  | .cycler, "next" => do
    let _ ← Run.lift (({ id := "Cycler.next", hidden := ["self"] } : Signature).bind arguments)
    let cycler ← fetch (·.cyclers) address
    let position := (cycler.position + 1) % cycler.items.length
    modify fun m =>
      { m with cyclers := m.cyclers.modify address fun c => { c with position } }
    pure (cycler.items[cycler.position]?.getD .none)
  | .cycler, "reset" => do
    let _ ← Run.lift (({ id := "Cycler.reset", hidden := ["self"] } : Signature).bind arguments)
    modify fun m =>
      { m with cyclers := m.cyclers.modify address fun c => { c with position := 0 } }
    pure .none
  | .loop, "cycle" => do
    let bound ← Run.lift
      (({ id := "LoopContext.cycle", hidden := ["self"], takesMore := true } : Signature).bind
        arguments)
    if bound.more.isEmpty then throw (typeFault "no items for cycling given")
    else
      let index := (← loopAt address).index
      pure (bound.more[(Int.fmod index bound.more.length).toNat]?.getD .none)
  | .loop, "changed" => do
    let bound ← Run.lift
      (({ id := "LoopContext.changed", hidden := ["self"], takesMore := true } : Signature).bind
        arguments)
    let state ← loopAt address
    let isSame ←
      match state.lastChanged with
      | none => pure false
      | some last => Run.lift (Value.equalItems last bound.more)
    if isSame then pure (.bool false)
    else do
      changeLoop address fun s => { s with lastChanged := some bound.more }
      pure (.bool true)
  | _, _ => throw (typeFault s!"{id}() is not available to templates")

/-- A method called on its receiver. -/
def call (services : Services) (receiver : Value) (id : String) (arguments : CallArguments) :
    Run Value := do
  match receiver with
  | .string text => onText services ⟨text, false⟩ id arguments
  | .markup text => onText services ⟨text, true⟩ id arguments
  | .dict entries => onDict entries id arguments
  | .object kind address => onObject kind address id arguments
  | value => throw (typeFault s!"{value.typeName}.{id}() is not available to templates")

end Method

end TemplateWorkbench.Template
