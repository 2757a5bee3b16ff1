import TemplateWorkbench.Proofs.Template.Late.Texts
import TemplateWorkbench.Template.Builtin
import TemplateWorkbench.Template.Operation

/-!
# Faults of using values

Values are walked over, asked for their parts and called.

## Faults of walking over values

Functions that walk over values are given services for what they cannot do themselves: going on in a stream,
applying a filter or a test, and asking for the condition of a loop.  Nothing goes wrong in them but what is
late, if that holds of the services.
-/

namespace TemplateWorkbench.Template

open Std.Do

set_option mvcgen.warning false

/-! ### Memory

Nothing that memory itself does can go wrong. -/

attribute [spec] fetch activationAt contextAt loopAt streamAt changeActivation changeContext changeLoop
  changeStream newActivation newContext newEscaping newNamespace newCycler newJoiner newLoop newMacro
  newStream newModule newSelf newBlockReference named readSlot writeSlot

@[spec]
theorem late_joinPartsFrom (position : Nat) (parts : List Value) : IsLate (joinParts.go position parts) := by
  induction parts generalizing position with
  | nil => exact late_ok ""
  | cons part rest ih =>
      unfold joinParts.go
      mvcgen [ih]
      simp

@[spec]
theorem late_joinParts (parts : List Value) : IsLate (joinParts parts) := late_joinPartsFrom 0 parts

/-- Whatever lives in memory is written and printed with no fault but a late one, however deep it lies. -/
theorem Memory.isLate_look (memory : Memory) (depth : Nat) : (memory.look depth).IsLate := by
  induction depth with
  | zero => constructor <;> intros <;> exact late_error ⟨nofun, nofun⟩
  | succ depth ih =>
      unfold look
      constructor
      all_goals
        intro kind address
        cases kind
        case macroDef =>
          dsimp only
          split
          exact late_ok _
        all_goals mvcgen

@[spec]
theorem currentLook_isLate :
    ⦃⌜True⌝⦄ currentLook ⦃post⟨fun look => ⌜look.IsLate⌝, fun fault => ⌜fault.IsLate⌝⟩⦄ := by
  unfold currentLook
  mvcgen
  exact Memory.isLate_look _ _

/-! ### Services -/

/-- Whether what is handed in stops only with late faults. -/
structure Services.AreLate (services : Services) : Prop where
  next (kind : ObjectKind) (address : Nat) : (services.next kind address).IsLate
  filter (escaping : Nat) (id : String) (arguments : CallArguments) :
    (services.filter escaping id arguments).IsLate
  test (escaping : Nat) (id : String) (arguments : CallArguments) :
    (services.test escaping id arguments).IsLate
  passes (target : Target) (test : LoopTest) (scene : Scene) (value : Value) :
    (services.passes target test scene value).IsLate

@[spec]
theorem Value.late_source (value : Value) : IsLate value.source := by
  unfold source
  mvcgen <;> simp

@[spec]
theorem Source.late_bound (source : Source) : source.bound.IsLate := by
  unfold bound
  mvcgen

namespace Services

variable {services : Services} (hservices : services.AreLate)

@[simp] theorem isLate_lengthFault : lengthFault.IsLate := ⟨nofun, nofun⟩

@[spec]
theorem late_stepItems (next step : Int) (left : Nat) : IsLate (stepItems next step left) := by
  unfold stepItems
  mvcgen

include hservices

@[spec]
theorem late_next (kind : ObjectKind) (address : Nat) : (services.next kind address).IsLate :=
  hservices.next kind address

@[spec]
theorem late_pull (source : Source) : (services.pull source).IsLate := by
  unfold pull
  mvcgen

@[spec]
theorem late_take (source : Source) (count : Nat) : (services.take source count).IsLate := by
  induction count generalizing source with
  | zero => exact Run.stopsWith_pure []
  | succ count ih =>
      unfold take
      mvcgen [ih]

@[spec]
theorem late_drain (source : Source) : (services.drain source).IsLate := by
  unfold drain
  mvcgen
  simp [hservices]

@[spec]
theorem late_items (value : Value) : (services.items value).IsLate := by
  unfold items
  mvcgen
  simp [hservices]

@[spec]
theorem late_nextOfLoop (address : Nat) : (services.nextOfLoop address).IsLate := by
  unfold nextOfLoop
  mvcgen

@[spec]
theorem late_peek (address : Nat) : (services.peek address).IsLate := by
  unfold peek
  mvcgen

@[spec]
theorem late_lengthOfLoop (address : Nat) : (services.lengthOfLoop address).IsLate := by
  unfold lengthOfLoop
  mvcgen

@[spec]
theorem late_truth (value : Value) : (services.truth value).IsLate := by
  unfold truth
  mvcgen
  simp

@[spec]
theorem late_lengthOf (value : Value) : (services.lengthOf value).IsLate := by
  unfold lengthOf
  mvcgen <;> simp [hservices]

@[spec]
theorem lookFor_isLate (value : Value) :
    ⦃⌜True⌝⦄ services.lookFor value ⦃post⟨fun look => ⌜look.IsLate⌝, fun fault => ⌜fault.IsLate⌝⟩⦄ := by
  unfold lookFor
  mvcgen

@[spec]
theorem late_printed (value : Value) : (services.printed value).IsLate := by
  unfold printed
  mvcgen

@[spec]
theorem late_written (value : Value) : (services.written value).IsLate := by
  unfold written
  mvcgen

@[spec]
theorem late_meets (value : Value) (source : Source) (count : Nat) :
    (services.meets value source count).IsLate := by
  induction count generalizing source with
  | zero => exact Run.stopsWith_pure false
  | succ count ih =>
      unfold meets
      mvcgen [ih]

@[spec]
theorem late_isIn (value container : Value) : (services.isIn value container).IsLate := by
  unfold isIn
  mvcgen <;> simp [hservices]

end Services

/-!
## Faults of attributes, methods and functions

What a method or a function objects to are its arguments, and these are known when it is called.
-/

/-! ### Arguments -/

namespace Signature

@[simp] theorem isLate_tooMany (signature : Signature) (given : Nat) : (signature.tooMany given).IsLate :=
  ⟨nofun, nofun⟩

@[simp] theorem isLate_tooFew (signature : Signature) (missing : List String) :
    (signature.tooFew missing).IsLate := ⟨nofun, nofun⟩

@[simp] theorem isLate_misfit (signature : Signature) (keywords : List String) (keyword : String) :
    (signature.misfit keywords keyword).IsLate := by
  unfold misfit
  split <;> exact ⟨nofun, nofun⟩

@[simp] theorem isLate_repeatedly (signature : Signature) (keyword : String) :
    (signature.repeatedly keyword).IsLate := ⟨nofun, nofun⟩

@[spec]
theorem late_sortKeywords (signature : Signature) (given taken : List String)
    (named keywords : List (String × Value)) :
    IsLate (signature.sortKeywords given taken named keywords) := by
  induction keywords generalizing named with
  | nil => exact late_ok _
  | cons keyword rest ih =>
      unfold sortKeywords
      mvcgen [ih] <;> simp

@[spec]
theorem late_bind (signature : Signature) (arguments : CallArguments) : IsLate (signature.bind arguments) := by
  unfold Signature.bind
  mvcgen <;> simp

end Signature

namespace CallArguments

@[spec]
theorem late_noKeywords (arguments : CallArguments) (id : String) : IsLate (arguments.noKeywords id) := by
  unfold noKeywords
  mvcgen
  simp

@[spec]
theorem late_exactlyOne (arguments : CallArguments) (id : String) : IsLate (arguments.exactlyOne id) := by
  unfold exactlyOne
  mvcgen
  simp

@[spec]
theorem late_none (arguments : CallArguments) (id : String) : IsLate (arguments.none id) := by
  unfold CallArguments.none
  mvcgen
  simp

@[spec]
theorem late_between (arguments : CallArguments) (id name : String) (least most : Nat) :
    IsLate (arguments.between id name least most) := by
  unfold between
  mvcgen <;> exact ⟨nofun, nofun⟩

@[spec]
theorem late_counted (arguments : CallArguments) (id name : String) (least most : Nat) :
    IsLate (arguments.counted id name least most) := by
  unfold counted
  mvcgen <;> exact ⟨nofun, nofun⟩

end CallArguments

/-! ### Attributes and elements -/

@[spec]
theorem Value.late_element? (value key : Value) : IsLate (value.element? key) := by
  unfold element?
  mvcgen
  · simp
  · exact isLate_keyFault _ _ ‹_›

namespace Services

@[spec]
theorem late_superBlock (services : Services) (reference : BlockReference) :
    (services.superBlock reference).IsLate := by
  unfold superBlock
  mvcgen

@[spec]
theorem late_elementOf? (value key : Value) : (elementOf? value key).IsLate := by
  unfold elementOf?
  mvcgen

@[simp] theorem isLate_badBound : badBound.IsLate := ⟨nofun, nofun⟩

@[spec]
theorem late_sliceBound (bound : Option Value) : (sliceBound bound).IsLate := by
  unfold sliceBound
  mvcgen

@[spec]
theorem late_sliceRange (start stop step : Option Value) : (SliceRange.of start stop step).IsLate := by
  unfold SliceRange.of
  mvcgen

@[spec]
theorem late_slice (value : Value) (start stop step : Option Value) : (slice value start stop step).IsLate := by
  unfold slice
  mvcgen <;> simp

@[spec]
theorem late_ownMarkup? (value : Value) : (ownMarkup? value).IsLate := by
  unfold ownMarkup?
  mvcgen

variable {services : Services} (hservices : services.AreLate)

include hservices

@[spec]
theorem late_missingPart (value key : Value) : (services.missingPart value key).IsLate := by
  unfold missingPart
  mvcgen

@[spec]
theorem late_loopAttribute? (address : Nat) (id : String) : (services.loopAttribute? address id).IsLate := by
  unfold loopAttribute?
  mvcgen

@[spec]
theorem late_attribute? (value : Value) (id : String) : (services.attribute? value id).IsLate := by
  unfold attribute?
  mvcgen
  simp

@[spec]
theorem late_getAttribute (value : Value) (id : String) : (services.getAttribute value id).IsLate := by
  unfold getAttribute
  mvcgen
  simp [hservices]

@[spec]
theorem late_getElement (value key : Value) : (services.getElement value key).IsLate := by
  unfold getElement
  mvcgen <;> simp [hservices]

/-! ### Operators -/

@[spec]
theorem late_interpolate (format : String) (isMarkup : Bool) (value : Value) :
    (services.interpolate format isMarkup value).IsLate := by
  unfold interpolate
  mvcgen

@[spec]
theorem late_arithmetic (op : BinaryOp) (left right : Value) : (services.arithmetic op left right).IsLate := by
  unfold arithmetic
  mvcgen <;> simp [hservices]

@[spec]
theorem late_compare (op : CompareOp) (left right : Value) : (services.compare op left right).IsLate := by
  unfold compare
  mvcgen
  simp [hservices]

@[spec]
theorem late_escapes (cell : Nat) : (services.escapes cell).IsLate := by
  unfold escapes
  mvcgen

@[spec]
theorem late_escape (value : Value) : (services.escape value).IsLate := by
  unfold escape
  mvcgen

@[spec]
theorem late_asText (value : Value) : (services.asText value).IsLate := by
  unfold asText
  mvcgen

end Services

/-! ### Fields in braces -/

namespace Braces

@[spec]
theorem late_fieldName (bracket : Bool) (done text : List Char) : IsLate (fieldName bracket done text) := by
  induction text generalizing bracket done with
  | nil => exact late_error (isLate_valueFault _)
  | cons c rest ih =>
      unfold fieldName
      mvcgen [ih]

@[spec]
theorem late_layoutText (depth : Nat) (done text : List Char) : IsLate (layoutText depth done text) := by
  fun_induction layoutText depth done text with
  | case1 => exact late_error (isLate_valueFault _)
  | case3 => exact late_ok _
  | case2 _ _ _ ih | case4 _ _ _ _ ih | case5 _ _ _ _ _ _ ih => exact ih

@[spec]
theorem late_readField (text : List Char) : IsLate (readField text) := by
  unfold readField
  mvcgen

@[spec]
theorem late_indexOf? (name : List Char) : IsLate (indexOf? name) := by
  unfold indexOf?
  mvcgen

@[simp] theorem isLate_toAutomatic : toAutomatic.IsLate := ⟨nofun, nofun⟩

@[simp] theorem isLate_toManual : toManual.IsLate := ⟨nofun, nofun⟩

@[spec]
theorem late_advance (numbering : Numbering) : IsLate numbering.advance := by
  unfold Numbering.advance
  mvcgen

@[spec]
theorem late_fix {fault : Fault} (hfault : fault.IsLate) (numbering : Numbering) :
    IsLate (numbering.fix fault) := by
  unfold Numbering.fix
  mvcgen

@[spec]
theorem late_namedArgument (arguments : CallArguments) (name : String) :
    IsLate (namedArgument arguments name) := by
  unfold namedArgument
  mvcgen
  simp

@[spec]
theorem late_placedArgument (arguments : CallArguments) (index : Nat) (message : String) :
    IsLate (placedArgument arguments index message) := by
  unfold placedArgument
  mvcgen
  simp

@[spec]
theorem late_plainArgument (arguments : CallArguments) (numbering : Numbering) (first : List Char) :
    IsLate (plainArgument arguments numbering first) := by
  unfold plainArgument
  mvcgen

@[spec]
theorem late_markupArgument (arguments : CallArguments) (numbering : Numbering) (name first : List Char) :
    IsLate (markupArgument arguments numbering name first) := by
  unfold markupArgument
  mvcgen

section Services

variable {services : Services} (hservices : services.AreLate)

include hservices

@[spec]
theorem late_attributeOf (value : Value) (id : String) : (attributeOf services value id).IsLate := by
  unfold attributeOf
  mvcgen
  simp

@[spec]
theorem late_elementOf (value key : Value) : (elementOf services value key).IsLate := by
  unfold elementOf
  mvcgen
  simp

@[spec]
theorem late_follow (fuel : Nat) (value : Value) (text : List Char) :
    (follow services fuel value text).IsLate := by
  fun_induction follow services fuel value text with
  | case4 _ _ _ _ _ ih => mvcgen [ih]
  | case6 _ _ _ _ _ _ _ _ ih => mvcgen [ih]
  | _ => mvcgen

end Services

namespace Filling

variable {filling : Filling} (hservices : filling.services.AreLate)

include hservices

@[spec]
theorem late_convert (conversion : Option Char) (value : Value) : (filling.convert conversion value).IsLate := by
  unfold convert
  mvcgen
  simp

@[spec]
theorem late_present (value : Value) (layout : List Char) : (filling.present value layout).IsLate := by
  unfold present
  mvcgen

@[spec]
theorem late_writeField (value : Value) (layout : List Char) : (filling.writeField value layout).IsLate := by
  unfold writeField
  mvcgen <;> simp [hservices]

@[spec]
theorem late_valueOf (numbering : Numbering) (name : List Char) : (filling.valueOf numbering name).IsLate := by
  unfold valueOf
  mvcgen

omit hservices in
@[spec]
theorem late_checkDepth (depth : Nat) (layout : List Char) : IsLate (filling.checkDepth depth layout) := by
  unfold checkDepth
  mvcgen

@[spec]
theorem late_fill (depth fuel : Nat) (numbering : Numbering) (text : List Char) :
    (filling.fill depth fuel numbering text).IsLate := by
  induction fuel generalizing depth numbering text with
  | zero => exact Run.stopsWith_pure _
  | succ fuel ih =>
      unfold fill
      mvcgen [ih]

end Filling

@[spec]
theorem late_format {services : Services} (hservices : services.AreLate) (text : String) (isMarkup : Bool)
    (arguments : CallArguments) : (format services text isMarkup arguments).IsLate := by
  unfold format
  mvcgen

end Braces

/-! ### Methods -/

namespace Method

@[spec]
theorem late_machineInteger (value : Value) : IsLate (machineInteger value) := by
  unfold machineInteger
  mvcgen
  simp

@[spec]
theorem late_markupArguments (id : String) (arguments : CallArguments) (required : List String)
    (optional : List (String × Value)) : IsLate (markupArguments id arguments required optional) := by
  unfold markupArguments
  mvcgen

@[spec]
theorem late_matchArguments (subject : Subject) (id : String) (arguments : CallArguments) :
    IsLate (matchArguments subject id arguments) := by
  unfold matchArguments
  mvcgen

@[spec]
theorem late_stripped (front back : Bool) (subject : Subject) (id : String) (arguments : CallArguments) :
    IsLate (stripped front back subject id arguments) := by
  unfold stripped
  mvcgen
  simp

@[spec]
theorem late_splitArguments (arguments : CallArguments) : IsLate (splitArguments arguments) := by
  unfold splitArguments
  mvcgen <;> simp

@[spec]
theorem late_split (subject : Subject) (arguments : CallArguments) : IsLate (split subject arguments) := by
  unfold split
  mvcgen
  simp

@[spec]
theorem late_collect (position : Nat) (items : List Value) : (join.collect position items).IsLate := by
  induction items generalizing position with
  | nil => exact Run.stopsWith_pure []
  | cons item rest ih =>
      unfold join.collect
      mvcgen [ih]
      simp

@[spec]
theorem late_searchBounds (length : Nat) (given : List Value) : (searchBounds length given).IsLate := by
  unfold searchBounds
  mvcgen

@[spec]
theorem late_hasEnd (atFront : Bool) (subject : Subject) (id : String) (arguments : CallArguments) :
    (hasEnd atFront subject id arguments).IsLate := by
  unfold hasEnd
  refine Run.StopsWith.bind (Run.late_liftM (arguments.late_counted _ _ _ _)) fun given => ?_
  refine Run.StopsWith.bind (late_searchBounds _ _) fun bounds => ?_
  dsimp only
  split
  · mvcgen
  · mvcgen
    simp
  · mvcgen
    simp

@[spec]
theorem late_find (subject : Subject) (arguments : CallArguments) : (find subject arguments).IsLate := by
  unfold find
  mvcgen
  simp

@[spec]
theorem late_count (subject : Subject) (arguments : CallArguments) : (count subject arguments).IsLate := by
  unfold count
  mvcgen
  simp

@[spec]
theorem late_zeroFilled (subject : Subject) (arguments : CallArguments) :
    IsLate (zeroFilled subject arguments) := by
  unfold zeroFilled
  mvcgen

@[spec]
theorem late_onDict (entries : List (Value × Value)) (id : String) (arguments : CallArguments) :
    IsLate (onDict entries id arguments) := by
  unfold onDict
  mvcgen
  simp

@[spec]
theorem late_onObject (kind : ObjectKind) (address : Nat) (id : String) (arguments : CallArguments) :
    (onObject kind address id arguments).IsLate := by
  unfold onObject
  mvcgen
  simp

variable {services : Services} (hservices : services.AreLate)

include hservices

@[spec]
theorem late_replace (subject : Subject) (arguments : CallArguments) :
    (replace services subject arguments).IsLate := by
  unfold replace
  mvcgen <;> simp

@[spec]
theorem late_join (subject : Subject) (arguments : CallArguments) :
    (join services subject arguments).IsLate := by
  unfold join
  mvcgen
  · exact isLate_iff.mp (Value.late_source _) _ ‹_›
  · exact fun _ => hservices

@[spec]
theorem late_onText (subject : Subject) (id : String) (arguments : CallArguments) :
    (onText services subject id arguments).IsLate := by
  unfold onText
  mvcgen <;> simp [hservices]

@[spec]
theorem late_call (receiver : Value) (id : String) (arguments : CallArguments) :
    (call services receiver id arguments).IsLate := by
  unfold call
  mvcgen <;> simp [hservices]

end Method

/-! ### Functions -/

namespace Builtin

@[spec]
theorem late_rangeBound (value : Value) : IsLate (rangeBound value) := by
  unfold rangeBound
  mvcgen
  simp

@[spec]
theorem late_makeRange (arguments : CallArguments) : IsLate (makeRange arguments) := by
  unfold makeRange
  mvcgen

variable {services : Services} (hservices : services.AreLate)

include hservices

@[spec]
theorem late_entriesFrom (position : Nat) (items : List Value) :
    (entriesFrom services position items).IsLate := by
  induction items generalizing position with
  | nil => exact Run.stopsWith_pure []
  | cons item rest ih =>
      unfold entriesFrom
      mvcgen [ih]
      · simp
      · exact isLate_iff.mp (Value.late_source _) _ ‹_›
      · simp

@[spec]
theorem late_makeEntries (arguments : CallArguments) : (makeEntries services arguments).IsLate := by
  unfold makeEntries
  mvcgen <;> simp

@[spec]
theorem late_makeFiller (arguments : CallArguments) : (makeFiller services arguments).IsLate := by
  unfold makeFiller
  mvcgen

@[spec]
theorem late_apply (function : Builtin) (arguments : CallArguments) :
    (apply services function arguments).IsLate := by
  unfold apply
  mvcgen
  simp [hservices]

end Builtin

@[spec]
theorem late_callJoiner (address : Nat) (arguments : CallArguments) : (callJoiner address arguments).IsLate := by
  unfold callJoiner
  mvcgen

end TemplateWorkbench.Template
