import TemplateWorkbench.Template.Memory

/-!
# Calls

A call gives positional arguments and keywords, and what is called says which parameters it takes:
their names, which of them may be left out, and whether any number more is welcome.  Some parameters
are filled in before the call; they are counted where a message counts arguments.
-/

namespace TemplateWorkbench.Template

/-- What can be called with arguments by position and by name. -/
structure Signature where
  id : String
  /-- The parameters that are filled in before the call. -/
  hidden : List String := []
  /-- The parameters that have no name to the outside. -/
  unnamed : List String := []
  required : List String := []
  optional : List (String × Value) := []
  takesMore : Bool := false
  takesKeywords : Bool := false
deriving Inhabited

/-- Arguments matched with parameters: the values of the parameters in order, and what is left. -/
structure Bound where
  values : List Value
  more : List Value := []
  keywords : List (String × Value) := []
deriving Inhabited

namespace Signature

/-- The names of all parameters. -/
def names (signature : Signature) : List String :=
  signature.hidden ++ signature.required ++ signature.optional.map (·.1)

/-- Names in quotes, with commas and a last `and` between them. -/
def enumerate (names : List String) : String :=
  let quoted := names.map fun name => s!"'{name}'"
  match quoted.reverse with
  | [] => ""
  | [only] => only
  | [second, first] => s!"{first} and {second}"
  | last :: before => ", ".intercalate before.reverse ++ s!", and {last}"

/-- The fault of too many positional arguments. -/
def tooMany (signature : Signature) (given : Nat) : Fault :=
  let most := signature.names.length
  let least := most - signature.optional.length
  let takes := if signature.optional.isEmpty then s!"{most}" else s!"from {least} to {most}"
  let plural := if signature.optional.isEmpty && most = 1 then "" else "s"
  let verb := if given = 1 then "was" else "were"
  typeFault
    s!"{signature.id}() takes {takes} positional argument{plural} but {given} {verb} given"

/-- The fault of missing arguments. -/
def tooFew (signature : Signature) (missing : List String) : Fault :=
  let plural := if missing.length = 1 then "" else "s"
  typeFault
    (s!"{signature.id}() missing {missing.length} required positional argument{plural}: " ++
      enumerate missing)

/-- The fault of a keyword that fits no parameter. -/
def unexpected (signature : Signature) (keyword : String) : Fault :=
  typeFault s!"{signature.id}() got an unexpected keyword argument '{keyword}'"

/-- The fault of a keyword that fits no parameter, where keywords may name parameters that are only
filled in by position. -/
def misfit (signature : Signature) (keywords : List String) (keyword : String) : Fault :=
  match signature.unnamed.filter keywords.contains with
  | [] => signature.unexpected keyword
  | names =>
    let shown := ", ".intercalate names
    typeFault
      (s!"{signature.id}() got some positional-only arguments passed as keyword arguments: " ++
        s!"'{shown}'")

/-- The fault of a parameter that is given twice. -/
def repeatedly (signature : Signature) (keyword : String) : Fault :=
  typeFault s!"{signature.id}() got multiple values for argument '{keyword}'"

/-- Sorts keywords into those that name a parameter and the others; `taken` are the parameters that
have a value by position, and `given` are all keywords. -/
def sortKeywords (signature : Signature) (given taken : List String)
    (named : List (String × Value)) :
    List (String × Value) → Except Fault (List (String × Value) × List (String × Value))
  | [] => .ok (named, [])
  | (keyword, value) :: rest => do
    if signature.names.contains keyword && !signature.unnamed.contains keyword then
      if taken.contains keyword || (named.lookup keyword).isSome then
        .error (signature.repeatedly keyword)
      else sortKeywords signature given taken (named ++ [(keyword, value)]) rest
    else if signature.takesKeywords then
      let (named, others) ← sortKeywords signature given taken named rest
      pure (named, (keyword, value) :: others)
    else .error (signature.misfit given keyword)

/-- The values of the parameters after those given by position. -/
def fillIn (named : List (String × Value)) (required : List String)
    (optional : List (String × Value)) : List Value :=
  required.filterMap (fun name => named.lookup name) ++
    optional.map fun (name, default) => (named.lookup name).getD default

/-- Matches arguments with parameters. -/
def bind (signature : Signature) (arguments : CallArguments) : Except Fault Bound := do
  let shown := signature.required.length + signature.optional.length
  let byPosition := arguments.positional.take shown
  let taken := signature.names.take (signature.hidden.length + byPosition.length)
  let (named, others) ← 
    signature.sortKeywords (arguments.keywords.map (·.1)) taken [] arguments.keywords
  if arguments.positional.length > shown && !signature.takesMore then
    .error (signature.tooMany (signature.hidden.length + arguments.positional.length))
  else
    let required := signature.required.drop byPosition.length
    let optional := signature.optional.drop (byPosition.length - signature.required.length)
    let missing := required.filter fun name => (named.lookup name).isNone
    if !missing.isEmpty then .error (signature.tooFew missing)
    else
      pure
        { values := byPosition ++ fillIn named required optional
          more := arguments.positional.drop shown
          keywords := others }

end Signature

/-! ### Arguments counted without names -/

namespace CallArguments

/-- Stops if there are keywords, which `id` does not take. -/
def noKeywords (arguments : CallArguments) (id : String) : Except Fault Unit :=
  if arguments.keywords.isEmpty then .ok ()
  else .error (typeFault s!"{id}() takes no keyword arguments")

/-- The only argument of what takes exactly one. -/
def exactlyOne (arguments : CallArguments) (id : String) : Except Fault Value := do
  arguments.noKeywords id
  match arguments.positional with
  | [only] => pure only
  | given => .error (typeFault s!"{id}() takes exactly one argument ({given.length} given)")

/-- Stops if there are arguments. -/
def none (arguments : CallArguments) (id : String) : Except Fault Unit := do
  arguments.noKeywords id
  if arguments.positional.isEmpty then pure ()
  else .error (typeFault s!"{id}() takes no arguments ({arguments.positional.length} given)")

/-- The arguments of what takes between `least` and `most` of them. -/
def between (arguments : CallArguments) (id name : String) (least most : Nat) :
    Except Fault (List Value) := do
  arguments.noKeywords id
  let count := arguments.positional.length
  let expected (bound : String) (n : Nat) : Fault :=
    let plural := if n = 1 then "" else "s"
    typeFault s!"{name} expected {bound}{n} argument{plural}, got {count}"
  if count < least then .error (expected (if least = most then "" else "at least ") least)
  else if count > most then .error (expected (if least = most then "" else "at most ") most)
  else pure arguments.positional

/-- The arguments of what counts them in its own words. -/
def counted (arguments : CallArguments) (id name : String) (least most : Nat) :
    Except Fault (List Value) := do
  arguments.noKeywords id
  let count := arguments.positional.length
  let takes (bound : String) (n : Nat) : Fault :=
    let plural := if n = 1 then "" else "s"
    typeFault s!"{name}() takes {bound} {n} argument{plural} ({count} given)"
  if count < least then .error (takes "at least" least)
  else if count > most then .error (takes "at most" most)
  else pure arguments.positional

end CallArguments

end TemplateWorkbench.Template
