import TemplateWorkbench.Proofs.Template.Late.Values
import TemplateWorkbench.Template.Value.Encode
import TemplateWorkbench.Template.Value.Interpolation
import TemplateWorkbench.Template.Value.Plain
import TemplateWorkbench.Template.Value.Pretty

/-!
# Faults of writing values

How a value is written depends on what lives in memory, and that is handed in as an appearance.  Whatever is
asked of the functions below, the appearance is asked of parts of the value only; so all of them are as late
as it is.
-/

namespace TemplateWorkbench.Template

open Std.Do

set_option mvcgen.warning false

/-- Whether what lives in memory is written and printed with no fault but a late one. -/
structure Appearance.IsLate (look : Appearance) : Prop where
  written (kind : ObjectKind) (address : Nat) : Template.IsLate (look.written kind address)
  printed (kind : ObjectKind) (address : Nat) : Template.IsLate (look.printed kind address)

namespace Value

/-! ### Written forms -/

@[spec]
theorem late_digits (value : Int) : IsLate (digits value) := by
  unfold digits
  mvcgen

section Look

variable {look : Appearance}

mutual

@[spec]
theorem late_written (hlook : look.IsLate) : (value : Value) → IsLate (written look value)
  | .list items | .tuple items => by
      have hitems := late_writtenItems hlook items
      unfold written
      mvcgen [hitems]
  | .group key members => by
      have hkey := late_written hlook key
      have hmembers := late_writtenItems hlook members
      unfold written
      mvcgen [hkey, hmembers]
  | .dict entries => by
      have hentries := late_writtenEntries hlook entries
      unfold written
      mvcgen [hentries]
  | .set _ members => by
      have hmembers := late_writtenItems hlook members
      unfold written
      mvcgen [hmembers]
  | .range start stop step => by
      unfold written
      mvcgen
  | .view part entries => by
      have hkeys := late_writtenKeys hlook entries
      have hvalues := late_writtenValues hlook entries
      have hpairs := late_writtenPairs hlook entries
      cases part <;> unfold written <;> mvcgen [hkeys, hvalues, hpairs]
  | .object kind address => by
      unfold written
      exact hlook.written kind address
  | .undefined _ _ | .bytes _ | .none | .builtin _ | .foreign _ _ | .complex _ | .bool _ | .int _ | .double _
  | .nan _ | .string _ | .markup _ | .method _ _ => by
      unfold written
      mvcgen

theorem late_writtenItems (hlook : look.IsLate) : (items : List Value) → IsLate (writtenItems look items)
  | [] => by
      unfold writtenItems
      mvcgen
  | item :: rest => by
      have hitem := late_written hlook item
      have hrest := late_writtenItems hlook rest
      unfold writtenItems
      mvcgen [hitem, hrest]

theorem late_writtenEntries (hlook : look.IsLate) :
    (entries : List (Value × Value)) → IsLate (writtenEntries look entries)
  | [] => by
      unfold writtenEntries
      mvcgen
  | (key, value) :: rest => by
      have hkey := late_written hlook key
      have hvalue := late_written hlook value
      have hrest := late_writtenEntries hlook rest
      unfold writtenEntries
      mvcgen [hkey, hvalue, hrest]

theorem late_writtenKeys (hlook : look.IsLate) :
    (entries : List (Value × Value)) → IsLate (writtenKeys look entries)
  | [] => by
      unfold writtenKeys
      mvcgen
  | (key, _) :: rest => by
      have hkey := late_written hlook key
      have hrest := late_writtenKeys hlook rest
      unfold writtenKeys
      mvcgen [hkey, hrest]

theorem late_writtenValues (hlook : look.IsLate) :
    (entries : List (Value × Value)) → IsLate (writtenValues look entries)
  | [] => by
      unfold writtenValues
      mvcgen
  | (_, value) :: rest => by
      have hvalue := late_written hlook value
      have hrest := late_writtenValues hlook rest
      unfold writtenValues
      mvcgen [hvalue, hrest]

theorem late_writtenPairs (hlook : look.IsLate) :
    (entries : List (Value × Value)) → IsLate (writtenPairs look entries)
  | [] => by
      unfold writtenPairs
      mvcgen
  | (key, value) :: rest => by
      have hkey := late_written hlook key
      have hvalue := late_written hlook value
      have hrest := late_writtenPairs hlook rest
      unfold writtenPairs
      mvcgen [hkey, hvalue, hrest]

end

@[spec]
theorem late_printed (hlook : look.IsLate) (value : Value) : IsLate (printed look value) := by
  have hwritten := late_written hlook
  unfold printed
  split
  case h_3 => exact late_error (Absence.isLate_fault _)
  case h_5 kind address => exact hlook.printed kind address
  all_goals mvcgen [hwritten]

/-! ### Plain data -/

mutual

@[spec]
theorem late_toJson (hlook : look.IsLate) : (value : Value) → IsLate (toJson look value)
  | .list items | .tuple items => by
      have hitems := late_toJsonItems hlook items
      unfold toJson
      mvcgen [hitems]
  | .group key members => by
      have hkey := late_toJson hlook key
      have hmembers := late_toJsonItems hlook members
      unfold toJson
      mvcgen [hkey, hmembers]
  | .dict entries => by
      have hentries := late_toJsonEntries hlook entries
      unfold toJson
      mvcgen [hentries]
  | .set _ members => by
      have hmembers := late_toJsonItems hlook members
      unfold toJson
      mvcgen [hmembers]
  | .range _ _ _ | .view _ _ | .object _ _ | .undefined _ _ | .bytes _ | .none | .builtin _ | .foreign _ _
  | .complex _ | .bool _ | .int _ | .double _ | .nan _ | .string _ | .markup _ | .method _ _ => by
      unfold toJson
      mvcgen

theorem late_toJsonItems (hlook : look.IsLate) : (items : List Value) → IsLate (toJsonItems look items)
  | [] => by
      unfold toJsonItems
      mvcgen
  | item :: rest => by
      have hitem := late_toJson hlook item
      have hrest := late_toJsonItems hlook rest
      unfold toJsonItems
      mvcgen [hitem, hrest]

theorem late_toJsonEntries (hlook : look.IsLate) :
    (entries : List (Value × Value)) → IsLate (toJsonEntries look entries)
  | [] => by
      unfold toJsonEntries
      mvcgen
  | (key, value) :: rest => by
      have hvalue := late_toJson hlook value
      have hrest := late_toJsonEntries hlook rest
      unfold toJsonEntries
      mvcgen [hvalue, hrest]

end

@[spec]
theorem late_jsonText (hlook : look.IsLate) (value : Value) : IsLate (jsonText look value) := by
  unfold jsonText
  mvcgen
  simp

/-! ### Encoded values -/

@[simp] theorem isLate_unencodable (value : Value) : (unencodable value).IsLate := ⟨nofun, nofun⟩

@[spec]
theorem late_encodeKey (value : Value) : IsLate (encodeKey value) := by
  unfold encodeKey
  mvcgen
  simp

@[spec]
theorem late_orderEntries (sorted : Bool) (entries : List EncodedEntry) :
    IsLate (orderEntries sorted entries) := by
  have hsort := Sorting.late_sort fun left right : EncodedEntry => late_ordered .lt left.1 right.1
  unfold orderEntries
  mvcgen [hsort]

theorem mem_of_orderEntries {sorted : Bool} {entries ordered : List EncodedEntry}
    (hordered : orderEntries sorted entries = .ok ordered) {entry : EncodedEntry} (hentry : entry ∈ ordered) :
    entry ∈ entries := by
  unfold orderEntries at hordered
  split at hordered
  · exact Sorting.mem_of_sort hordered hentry
  · cases hordered
    exact hentry

mutual

@[spec]
theorem late_encode (sorted : Bool) : (value : Value) → IsLate (encode sorted value)
  | .list items | .tuple items => by
      have hitems := late_encodeItems sorted items
      unfold encode
      mvcgen [hitems]
  | .group key members => by
      have hkey := late_encode sorted key
      have hmembers := late_encodeItems sorted members
      unfold encode
      mvcgen [hkey, hmembers]
  | .dict entries => by
      have hentries := late_encodeEntries sorted entries
      unfold encode
      -- What is written of the entries is asked for in order, but they are the entries there were.
      refine IsLate.bind_eq (late_orderEntries _ _) fun ordered hordered => ?_
      have hordered := late_mapM_mem fun entry hentry => hentries entry (mem_of_orderEntries hordered hentry)
      exact hordered.bind fun _ => late_ok _
  | .set _ _ | .range _ _ _ | .view _ _ | .object _ _ | .undefined _ _ | .bytes _ | .none
  | .builtin _ | .foreign _ _ | .complex _ | .bool _ | .int _ | .double _ | .nan _ | .string _ | .markup _
  | .method _ _ => by
      unfold encode
      mvcgen <;> simp

theorem late_encodeItems (sorted : Bool) : (items : List Value) → IsLate (encodeItems sorted items)
  | [] => by
      unfold encodeItems
      mvcgen
  | item :: rest => by
      have hitem := late_encode sorted item
      have hrest := late_encodeItems sorted rest
      unfold encodeItems
      mvcgen [hitem, hrest]

/-- What is written of an entry stands beside its key, and is late too. -/
theorem late_encodeEntries (sorted : Bool) :
    (entries : List (Value × Value)) → ∀ entry ∈ encodeEntries sorted entries, IsLate entry.2
  | [] => by
      unfold encodeEntries
      exact nofun
  | (key, value) :: rest => by
      have hvalue := late_encode sorted value
      have hrest := late_encodeEntries sorted rest
      unfold encodeEntries
      refine List.forall_mem_cons.mpr ⟨?_, hrest⟩
      dsimp only
      mvcgen [hvalue]

end

@[spec]
theorem late_encodeText (style : Json.Style) (sorted : Bool) (value : Value) :
    IsLate (encodeText style sorted value) := by
  unfold encodeText
  mvcgen
  simp

/-! ### Several lines -/

@[spec]
theorem late_keyPrecedes (left right : Value × Value) : IsLate (keyPrecedes left right) := by
  unfold keyPrecedes
  split
  case h_1 => exact late_ok _
  case h_2 fault hfault =>
    have hlate := isLate_iff.mp (late_ordered .lt left.1 right.1) fault hfault
    split
    · exact late_ok _
    · exact late_error hlate

mutual

@[spec]
theorem late_inKeyOrder : (value : Value) → IsLate (inKeyOrder value)
  | .list items | .tuple items => by
      have hitems := late_allInKeyOrder items
      unfold inKeyOrder
      mvcgen [hitems]
  | .dict entries => by
      have hentries := late_entriesInKeyOrder entries
      have hsort := Sorting.late_sort late_keyPrecedes
      unfold inKeyOrder
      mvcgen [hentries, hsort]
  | .group _ _ | .set _ _ | .range _ _ _ | .view _ _ | .object _ _ | .undefined _ _ | .bytes _ | .none
  | .builtin _ | .foreign _ _ | .complex _ | .bool _ | .int _ | .double _ | .nan _ | .string _ | .markup _
  | .method _ _ => by
      unfold inKeyOrder
      exact late_ok _

theorem late_allInKeyOrder : (items : List Value) → IsLate (allInKeyOrder items)
  | [] => by
      unfold allInKeyOrder
      mvcgen
  | item :: rest => by
      have hitem := late_inKeyOrder item
      have hrest := late_allInKeyOrder rest
      unfold allInKeyOrder
      mvcgen [hitem, hrest]

theorem late_entriesInKeyOrder : (entries : List (Value × Value)) → IsLate (entriesInKeyOrder entries)
  | [] => by
      unfold entriesInKeyOrder
      mvcgen
  | (_, value) :: rest => by
      have hvalue := late_inKeyOrder value
      have hrest := late_entriesInKeyOrder rest
      unfold entriesInKeyOrder
      mvcgen [hvalue, hrest]

end

mutual

@[spec]
theorem late_prettyFrom (hlook : look.IsLate) (indent allowance : Nat) (isOutermost : Bool) :
    (value : Value) → IsLate (prettyFrom look indent allowance isOutermost value)
  | .list items | .tuple items => by
      have hitems (indent allowance : Nat) := late_prettyItems hlook indent allowance items
      unfold prettyFrom
      mvcgen [hitems]
  | .dict entries => by
      have hentries (indent allowance : Nat) := late_prettyEntries hlook indent allowance entries
      unfold prettyFrom
      mvcgen [hentries]
  | .group _ _ | .set _ _ | .range _ _ _ | .view _ _ | .object _ _ | .undefined _ _ | .bytes _ | .none
  | .builtin _ | .foreign _ _ | .complex _ | .bool _ | .int _ | .double _ | .nan _ | .string _ | .markup _
  | .method _ _ => by
      unfold prettyFrom
      mvcgen

theorem late_prettyItems (hlook : look.IsLate) (indent allowance : Nat) :
    (items : List Value) → IsLate (prettyItems look indent allowance items)
  | [] => by
      unfold prettyItems
      mvcgen
  | [last] => by
      have hlast := late_prettyFrom hlook indent allowance false last
      unfold prettyItems
      exact hlast
  | item :: second :: rest => by
      have hitem := late_prettyFrom hlook indent 1 false item
      have hrest := late_prettyItems hlook indent allowance (second :: rest)
      unfold prettyItems
      mvcgen [hitem, hrest]

theorem late_prettyEntries (hlook : look.IsLate) (indent allowance : Nat) :
    (entries : List (Value × Value)) → IsLate (prettyEntries look indent allowance entries)
  | [] => by
      unfold prettyEntries
      mvcgen
  | (key, value) :: rest => by
      have hvalue (indent allowance : Nat) := late_prettyFrom hlook indent allowance false value
      have hrest := late_prettyEntries hlook indent allowance rest
      unfold prettyEntries
      mvcgen [hvalue, hrest]

end

@[spec]
theorem late_pretty (hlook : look.IsLate) (value : Value) : IsLate (pretty look value) := by
  unfold pretty
  mvcgen

end Look

/-! ### Subscripts -/

@[simp] theorem isLate_notSubscriptable (value : Value) : value.notSubscriptable.IsLate := by
  unfold notSubscriptable
  split <;> simp

@[simp] theorem isLate_elementFault (value key : Value) (written : String) :
    (elementFault value key written).IsLate := by
  unfold elementFault
  grind [isLate_typeFault, isLate_faultOf, isLate_notSubscriptable, Absence.isLate_fault]

@[simp] theorem isLate_attributeFault (value : Value) (id : String) : (attributeFault value id).IsLate :=
  ⟨nofun, nofun⟩

end Value

/-!
## Faults of laying values out

The texts that say how a value is to be laid out are values themselves, and are read when the value is there.
-/

namespace Presentation

/-! ### Reading presentations -/

@[simp] theorem isLate_tooManyDigits : tooManyDigits.IsLate := ⟨nofun, nofun⟩

@[simp] theorem isLate_unknownForm (form : Char) (type : String) : (unknownForm form type).IsLate :=
  ⟨nofun, nofun⟩

@[simp] theorem isLate_notForIntegers (what : String) : (notForIntegers what).IsLate := ⟨nofun, nofun⟩

@[spec]
theorem late_countOf (digits : List Nat) : IsLate (countOf digits) := by
  unfold countOf
  mvcgen

@[spec]
theorem late_readCount (text : List Char) : IsLate (readCount text) := by
  unfold readCount
  mvcgen

@[spec]
theorem late_readGrouping (text : List Char) : IsLate (readGrouping text) := by
  unfold readGrouping
  mvcgen

@[spec]
theorem late_checkGrouping (layout : Presentation) : IsLate layout.checkGrouping := by
  unfold checkGrouping
  mvcgen
  simp

@[spec]
theorem late_read (text : List Char) (type : String) (side : Char) (form : Option Char) :
    IsLate (read text type side form) := by
  unfold read
  mvcgen <;> simp

/-! ### Laying out -/

@[spec]
theorem late_checkRoom (count : Nat) : IsLate (checkRoom count) := by
  unfold checkRoom
  mvcgen

@[spec]
theorem late_layOutNumber (layout : Presentation) (size : Nat) (number : NumberText) :
    IsLate (layout.layOutNumber size number) := by
  unfold layOutNumber
  mvcgen

@[spec]
theorem late_doubleText (layout : Presentation) (type : String) (value : Double) :
    IsLate (layout.doubleText type value) := by
  unfold doubleText
  mvcgen
  simp

@[spec]
theorem late_checkPrecision (layout : Presentation) : IsLate layout.checkPrecision := by
  unfold checkPrecision
  mvcgen

@[spec]
theorem late_layOutDouble (layout : Presentation) (type : String) (value : Double) :
    IsLate (layout.layOutDouble type value) := by
  unfold layOutDouble
  mvcgen
  simp

@[spec]
theorem late_layOutCode (layout : Presentation) (code : Int) : IsLate (layout.layOutCode code) := by
  unfold layOutCode
  mvcgen

@[spec]
theorem late_layOutInteger (layout : Presentation) (type : String) (value : Int) :
    IsLate (layout.layOutInteger type value) := by
  unfold layOutInteger
  mvcgen
  simp

@[spec]
theorem late_partText (layout : Presentation) (x : Double) : IsLate (layOutComplex.partText layout x) := by
  unfold layOutComplex.partText
  mvcgen

@[spec]
theorem late_layOutComplex (layout : Presentation) (value : Complex) :
    IsLate (layout.layOutComplex value) := by
  unfold layOutComplex
  mvcgen
  simp

@[spec]
theorem late_layOutText (layout : Presentation) (type : String) (text : List Char) :
    IsLate (layout.layOutText type text) := by
  unfold layOutText
  mvcgen
  simp

end Presentation

@[spec]
theorem Value.late_presented (value : Value) (layout : List Char) : IsLate (value.presented layout) := by
  unfold presented
  mvcgen
  simp

namespace Interpolation

@[spec]
theorem late_next (supply : Supply) : IsLate supply.next := by
  unfold Supply.next
  mvcgen

@[spec]
theorem late_entryOf (name : String) (mapping : Value) : IsLate (entryOf name mapping) := by
  unfold entryOf
  mvcgen <;> exact Value.isLate_elementFault _ _ _

@[spec]
theorem late_readSize (supply : Supply) (escapes : Bool) (limit : SizeLimit) (text : List Char) :
    IsLate (readSize supply escapes limit text) := by
  unfold readSize
  mvcgen <;> simp

@[spec]
theorem late_writeInteger (flags : Flags) (precision : Option Int) (base : Nat) (stem : List Char)
    (value : Int) :
    IsLate (writeInteger flags precision base stem value) := by
  unfold writeInteger
  mvcgen

@[spec]
theorem late_wholeOf (filling : Filling) (conversion : Char) (value : Value) :
    IsLate (wholeOf filling conversion value) := by
  unfold wholeOf
  split
  · exact late_error (isLate_typeFault _)
  · refine late_mapError fun fault hfault => ?_
    have hlate := isLate_iff.mp (Value.late_toWhole 10 value) fault hfault
    split
    · exact isLate_typeFault _
    · exact hlate

@[spec]
theorem late_indexOf (filling : Filling) (conversion : Char) (value : Value) :
    IsLate (indexOf filling conversion value) := by
  unfold indexOf
  mvcgen
  simp

@[spec]
theorem late_realOf (filling : Filling) (value : Value) : IsLate (realOf filling value) := by
  unfold realOf
  mvcgen <;> simp

@[spec]
theorem late_writeCharacter (filling : Filling) (value : Value) : IsLate (writeCharacter filling value) := by
  unfold writeCharacter
  mvcgen

section Filling

variable {filling : Filling} (hlook : filling.look.IsLate)

include hlook

@[spec]
theorem late_represented (value : Value) : IsLate (convert.represented filling value) := by
  unfold convert.represented
  mvcgen

@[spec]
theorem late_convert (flags : Flags) (precision : Option Int) (conversion : Char) (position : Nat)
    (value : Value) : IsLate (convert filling flags precision conversion position value) := by
  unfold convert
  mvcgen
  simp

@[spec]
theorem late_place (length : Nat) (supply : Supply) (text : List Char) :
    IsLate (place filling length supply text) := by
  unfold place
  mvcgen

@[spec]
theorem late_fill (length fuel : Nat) (supply : Supply) (text : List Char) :
    IsLate (fill filling length fuel supply text) := by
  induction fuel generalizing supply text with
  | zero => exact late_ok _
  | succ fuel ih =>
      unfold fill
      mvcgen [ih]

end Filling

end Interpolation

@[spec]
theorem Value.late_interpolate {look : Appearance} (hlook : look.IsLate) (format : String) (isMarkup : Bool)
    (value : Value) : IsLate (Value.interpolate look format isMarkup value) := by
  unfold Value.interpolate
  mvcgen

end TemplateWorkbench.Template
