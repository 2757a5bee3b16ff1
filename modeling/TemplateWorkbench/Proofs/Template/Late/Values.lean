import TemplateWorkbench.Proofs.Results
import TemplateWorkbench.Proofs.Template.Late.Basic
import TemplateWorkbench.Template.Value.Arithmetic
import TemplateWorkbench.Template.Value.Equality

/-!
# Faults of comparing and calculating

What is compared, looked up, sorted or calculated with is a value that is there already; so all that can go
wrong is late.
-/

namespace TemplateWorkbench.Template

open Std.Do

set_option mvcgen.warning false

namespace Value

theorem isLate_missingFault {value : Value} {fault : Fault} (hfault : value.missingFault? = some fault) :
    fault.IsLate := by
  unfold missingFault? at hfault
  split at hfault <;> cases hfault
  simp

theorem isLate_strictFault {value : Value} {fault : Fault} (hfault : value.strictFault? = some fault) :
    fault.IsLate := by
  unfold strictFault? at hfault
  split at hfault <;> cases hfault
  simp

@[spec]
theorem late_present (left right : Value) : IsLate (present left right) := by
  unfold present
  mvcgen
  exact isLate_orElse (fun _ => isLate_missingFault) (fun _ => isLate_missingFault) ‹_›

/-! ### Equality -/

@[spec]
theorem late_different (right : Value) : IsLate (equal.different right) := by
  unfold equal.different
  mvcgen
  exact isLate_strictFault ‹_›

mutual

@[spec]
theorem late_equal : (left right : Value) → IsLate (equal left right)
  | .list items, right | .tuple items, right => by
      have hitems := late_equalItems items
      unfold equal
      mvcgen [hitems]
  | .group key members, right => by
      have hkey := late_same key
      have hmembers := late_equalItems members
      unfold equal
      mvcgen [hkey, hmembers]
  | .dict entries, right => by
      have hentries := late_equalEntries entries
      unfold equal
      mvcgen [hentries]
  | .set _ members, right => by
      have hmembers := late_allIn members
      unfold equal
      mvcgen [hmembers]
  | .view part entries, right => by
      have hkeys := late_keysIn entries
      have hpairs := late_pairsIn entries
      unfold equal
      mvcgen [hkeys, hpairs]
  | .method receiver id, right => by
      have hreceiver := late_same receiver
      unfold equal
      mvcgen [hreceiver]
  | .undefined _ _, right | .range _ _ _, right | .bytes _, right | .none, right | .builtin _, right
  | .object _ _, right | .foreign _ _, right | .complex _, right | .bool _, right | .int _, right
  | .double _, right | .nan _, right | .string _, right | .markup _, right => by
      unfold equal
      mvcgen <;> simp

@[spec]
theorem late_same (left right : Value) : IsLate (same left right) := by
  have hequal := late_equal left
  unfold same
  split
  · exact late_ok _
  · exact hequal _

@[spec]
theorem late_equalItems : (items others : List Value) → IsLate (equalItems items others)
  | [], [] | [], _ :: _ | _ :: _, [] => by
      unfold equalItems
      exact late_ok _
  | item :: rest, other :: more => by
      have hitem := late_same item
      have hrest := late_equalItems rest
      unfold equalItems
      mvcgen [hitem, hrest]

theorem late_equalEntries : (entries others : List (Value × Value)) → IsLate (equalEntries entries others)
  | [], _ => by
      unfold equalEntries
      mvcgen
  | (key, value) :: rest, others => by
      have hkey := late_same key
      have hvalue := late_same value
      have hrest := late_equalEntries rest
      unfold equalEntries
      mvcgen [hkey, hvalue, hrest]

theorem late_keysIn : (entries : List (Value × Value)) → (others : List Value) → IsLate (keysIn entries others)
  | [], _ => by
      unfold keysIn
      mvcgen
  | (key, _) :: rest, others => by
      have hkey := late_same key
      have hrest := late_keysIn rest
      unfold keysIn
      mvcgen [hkey, hrest]

theorem late_pairsIn :
    (entries : List (Value × Value)) → (others : List Value) → IsLate (pairsIn entries others)
  | [], _ => by
      unfold pairsIn
      mvcgen
  | (key, value) :: rest, others => by
      have hkey := late_same key
      have hvalue := late_same value
      have hrest := late_pairsIn rest
      unfold pairsIn
      mvcgen [hkey, hvalue, hrest]

theorem late_allIn : (members others : List Value) → IsLate (allIn members others)
  | [], _ => by
      unfold allIn
      mvcgen
  | member :: rest, others => by
      have hmember := late_same member
      have hrest := late_allIn rest
      unfold allIn
      mvcgen [hmember, hrest]

end

@[spec]
theorem late_isAmong (value : Value) (items : List Value) : IsLate (isAmong value items) :=
  late_anyM (fun item => late_same item value) items

/-! ### Order -/

@[simp] theorem isLate_orderFault (op : OrderOp) (left right : Value) : (orderFault op left right).IsLate :=
  ⟨nofun, nofun⟩

@[spec]
theorem late_orderedSets (op : OrderOp) (members others : List Value) :
    IsLate (orderedSets op members others) := by
  unfold orderedSets
  mvcgen

@[spec]
theorem late_unordered (op : OrderOp) (left right : Value) : IsLate (ordered.unordered op left right) := by
  unfold ordered.unordered
  mvcgen
  simp

mutual

@[spec]
theorem late_ordered (op : OrderOp) : (left right : Value) → IsLate (ordered op left right)
  | .list items, right | .tuple items, right => by
      have hitems := late_orderedItems op items
      unfold ordered
      mvcgen [hitems]
  | .group key members, right => by
      have hkey := late_ordered op key
      have hmembers := late_orderedItems op members
      unfold ordered
      mvcgen [hkey, hmembers]
      simp
  | .undefined _ _, right | .range _ _ _, right | .bytes _, right | .none, right | .builtin _, right
  | .object _ _, right | .foreign _ _, right | .complex _, right | .bool _, right | .int _, right
  | .double _, right | .nan _, right | .string _, right | .markup _, right | .dict _, right
  | .set _ _, right | .view .keys _, right | .view .values _, right | .view .items _, right
  | .method _ _, right => by
      unfold ordered
      mvcgen

theorem late_orderedItems (op : OrderOp) : (items others : List Value) → IsLate (orderedItems op items others)
  | [], [] | [], _ :: _ | _ :: _, [] => by
      unfold orderedItems
      exact late_ok _
  | item :: rest, other :: more => by
      have hitem := late_ordered op item
      have hrest := late_orderedItems op rest
      unfold orderedItems
      mvcgen [hitem, hrest]

end

/-! ### Keys -/

mutual

theorem isLate_keyFault : (value : Value) → ∀ fault, value.keyFault? = some fault → fault.IsLate
  | .tuple items => by
      unfold keyFault?
      exact isLate_keyFaultIn items
  | .group key _ => by
      have hkey := isLate_keyFault key
      unfold keyFault?
      grind [isLate_typeFault]
  | .list _ | .dict _ | .set _ _ | .view _ _ | .undefined _ _ | .range _ _ _ | .bytes _ | .none
  | .builtin _ | .object _ _ | .foreign _ _ | .complex _ | .bool _ | .int _ | .double _ | .nan _
  | .string _ | .markup _ | .method _ _ => by
      unfold keyFault?
      grind [isLate_typeFault, Absence.isLate_fault]

theorem isLate_keyFaultIn : (items : List Value) → ∀ fault, keyFaultIn? items = some fault → fault.IsLate
  | [] => by
      unfold keyFaultIn?
      exact nofun
  | item :: rest => by
      have hitem := isLate_keyFault item
      have hrest := isLate_keyFaultIn rest
      unfold keyFaultIn?
      grind

end

@[spec]
theorem late_asKey (value : Value) : IsLate (asKey value) := by
  unfold asKey
  mvcgen
  exact isLate_keyFault _ _ ‹_›

@[spec]
theorem late_entry? (key : Value) (entries : List (Value × Value)) : IsLate ( entry? key entries) := by
  unfold entry?
  mvcgen

@[spec]
theorem late_putEntry (key value : Value) : (entries : List (Value × Value)) →
    IsLate (putEntry key value entries)
  | [] => late_ok _
  | (other, old) :: rest => by
      have hrest := late_putEntry key value rest
      unfold putEntry
      mvcgen [hrest]

@[spec]
theorem late_ofEntries (entries : List (Value × Value)) : IsLate (ofEntries entries) := by
  unfold ofEntries
  refine IsLate.bind (late_foldlM (fun kept entry => ?_) _ _) fun _ => late_ok _
  mvcgen

@[spec]
theorem late_putMember (value : Value) (members : List Value) : IsLate (putMember value members) := by
  unfold putMember
  mvcgen

end Value

/-! ### Sorting -/

namespace Sorting

variable {α : Type} {less : Precedes α}

/-- What is in a run or after it was there before. -/
theorem mem_of_splitRun {items run rest : List α} (hsplit : splitRun less items = .ok (run, rest)) {item : α}
    (hitem : item ∈ run ∨ item ∈ rest) : item ∈ items := by
  match items, hsplit with
  | [], hsplit =>
      cases hsplit
      exact hitem.elim id id
  | [only], hsplit =>
      cases hsplit
      exact hitem.resolve_right List.not_mem_nil
  | first :: second :: others, hsplit =>
      simp only [splitRun, Results.bind_eq_ok_iff] at hsplit
      obtain ⟨descending, -, length, -, hparts⟩ := hsplit
      cases hparts
      rcases hitem with hrun | hrest
      · refine List.mem_of_mem_take ?_ (i := length + 2)
        split at hrun
        · exact List.mem_reverse.mp hrun
        · exact hrun
      · exact List.mem_of_mem_drop hrest

theorem mem_of_insertAll {sorted result : Array α} {items : List α}
    (hinsert : insertAll less sorted items = .ok result) {item : α} (hitem : item ∈ result) :
    item ∈ sorted ∨ item ∈ items := by
  induction items generalizing sorted with
  | nil =>
      cases hinsert
      exact .inl hitem
  | cons next rest ih =>
      simp only [insertAll, Results.bind_eq_ok_iff] at hinsert
      obtain ⟨index, -, hrest⟩ := hinsert
      rcases ih hrest with hput | hmem
      · grind [Array.mem_extract_iff_getElem]
      · exact .inr (List.mem_cons_of_mem next hmem)

theorem mem_of_sort {items sorted : List α} (hsort : sort less items = .ok sorted) {item : α}
    (hitem : item ∈ sorted) : item ∈ items := by
  simp only [sort, Results.bind_eq_ok_iff] at hsort
  obtain ⟨⟨run, rest⟩, hsplit, result, hinsert, hresult⟩ := hsort
  cases hresult
  refine mem_of_splitRun hsplit ?_
  simpa using mem_of_insertAll hinsert (Array.mem_toList_iff.mp hitem)

variable (hless : ∀ left right, IsLate (less left right))

include hless

theorem late_runLength (descending : Bool) (previous : α) (items : List α) :
    IsLate (runLength less descending previous items) := by
  induction items generalizing previous with
  | nil => exact late_ok 0
  | cons item rest ih =>
      unfold runLength
      mvcgen [hless, ih]

theorem late_splitRun (items : List α) : IsLate (splitRun less items) := by
  have hlength := late_runLength hless
  unfold splitRun
  mvcgen [hless, hlength]

theorem late_place (item : α) (sorted : Array α) (low high : Nat) :
    IsLate (place less item sorted low high) := by
  unfold place
  split
  · have hfront := late_place item sorted low (low + (high - low) / 2)
    have hback := late_place item sorted (low + (high - low) / 2 + 1) high
    mvcgen [hless, hfront, hback]
  · exact late_ok low
termination_by high - low

theorem late_insertAll (sorted : Array α) (items : List α) : IsLate (insertAll less sorted items) := by
  have hplace := late_place hless
  induction items generalizing sorted with
  | nil => exact late_ok sorted
  | cons item rest ih =>
      unfold insertAll
      mvcgen [hplace, ih]

@[spec]
theorem late_sort (items : List α) : IsLate (sort less items) := by
  have hsplit := late_splitRun hless
  have hinsert := late_insertAll hless
  unfold sort
  mvcgen [hsplit, hinsert]

@[spec]
theorem late_sortDirected (reversed : Bool) (items : List α) : IsLate (sortDirected less reversed items) := by
  unfold sortDirected
  split
  · exact late_map (late_sort hless _)
  · exact late_sort hless _

end Sorting

/-!
## Faults of arithmetic

Numbers that do not fit, divisions by zero and operands that an operator does not take are faults of the
values, which nothing in the text of a template tells.
-/

namespace Value

/-! ### Numbers -/

@[simp] theorem isLate_zeroFault (message : String) : (zeroFault message).IsLate := ⟨nofun, nofun⟩

@[simp] theorem isLate_complexFault (fault : ComplexFault) : (complexFault fault).IsLate := by
  cases fault <;> exact ⟨nofun, nofun⟩

@[spec]
theorem late_asDouble (value : Int) : IsLate (asDouble value) := by
  unfold asDouble
  mvcgen

@[spec]
theorem late_realOf (numeral : Numeral) : IsLate (realOf numeral) := by
  unfold realOf
  mvcgen

@[spec]
theorem late_ofComplex (result : Except ComplexFault Complex) : IsLate (ofComplex result) := by
  unfold ofComplex
  mvcgen
  simp

@[spec]
theorem late_doublePower (x y : Double) : IsLate (doublePower x y) := by
  unfold doublePower
  -- Nothing of the numbers matters, and computing with them would take long.
  generalize x.pow y = result
  mvcgen

@[spec]
theorem late_wholeArithmetic (op : BinaryOp) (x y : Int) : IsLate (wholeArithmetic op x y) := by
  unfold wholeArithmetic
  split
  case h_4 =>
    dsimp only
    mvcgen
  case h_7 =>
    split
    · exact late_ok _
    · have hdouble := @late_asDouble
      have hpower := @late_doublePower
      generalize asDouble = double at hdouble ⊢
      generalize doublePower = power at hpower ⊢
      mvcgen [hdouble, hpower]
  all_goals mvcgen

@[spec]
theorem late_doubleArithmetic (op : BinaryOp) (x y : Double) : IsLate (doubleArithmetic op x y) := by
  unfold doubleArithmetic
  mvcgen

@[spec]
theorem late_numeralArithmetic (op : BinaryOp) (left right : Numeral) :
    IsLate (numeralArithmetic op left right) := by
  unfold numeralArithmetic
  mvcgen

@[spec]
theorem late_complexOf (value : Value) : IsLate (complexOf value) := by
  unfold complexOf
  mvcgen

/-! ### Sequences -/

@[simp] theorem isLate_unsupported (op : BinaryOp) (left right : Value) : (unsupported op left right).IsLate :=
  ⟨nofun, nofun⟩

@[simp] theorem isLate_joinFault (kind : String) (right : Value) : (joinFault kind right).IsLate :=
  ⟨nofun, nofun⟩

@[simp] theorem isLate_countFault : countFault.IsLate := ⟨nofun, nofun⟩

@[simp] theorem isLate_notIterable (value : Value) : value.notIterable.IsLate := ⟨nofun, nofun⟩

@[spec]
theorem late_join (left right : Value) : IsLate (join left right) := by
  unfold join
  mvcgen <;> simp

@[spec]
theorem late_repeatTimes (sequence : Value) (times : Nat) : IsLate (repeatTimes sequence times) := by
  unfold repeatTimes
  mvcgen
  split <;> simp

@[spec]
theorem late_repeatBy (sequence count : Value) : IsLate (repeatBy sequence count) := by
  unfold repeatBy
  mvcgen
  split <;> simp

@[spec]
theorem late_multiply (left right : Value) : IsLate (multiply left right) := by
  unfold multiply
  mvcgen
  simp

@[spec]
theorem late_memberSet (value : Value) : IsLate (memberSet value) := by
  unfold memberSet
  split
  · exact late_foldlM (fun _ _ => late_putMember _ _) _ _
  · exact late_error (isLate_notIterable value)

@[spec]
theorem late_subtract (left right : Value) : IsLate (subtract left right) := by
  unfold subtract
  mvcgen
  simp

/-! ### Operators -/

@[spec]
theorem late_complexArithmetic (op : BinaryOp) (z w : Complex) (left right : Value) :
    IsLate ((complexArithmetic op z w).getD (.error (unsupported op left right))) := by
  cases op <;> unfold complexArithmetic
  case add | sub | mul => exact late_ok _
  case div | pow => exact late_ofComplex _
  case floordiv | mod | and | or => exact late_error (isLate_unsupported _ _ _)

@[spec]
theorem late_complexPair (left right : Value) : IsLate (arithmetic.complexPair left right) := by
  unfold arithmetic.complexPair
  mvcgen

@[spec]
theorem late_arithmetic (op : BinaryOp) (left right : Value) : IsLate (arithmetic op left right) := by
  unfold arithmetic
  mvcgen <;> simp

@[spec]
theorem late_signed (op : UnaryOp) (value : Value) : IsLate (signed op value) := by
  unfold signed
  mvcgen
  · exact isLate_missingFault ‹_›
  · simp

/-! ### Values as numbers -/

@[simp] theorem isLate_wholeFault (value : Double) : (wholeFault value).IsLate := by
  unfold wholeFault
  split <;> simp

@[simp] theorem isLate_noWhole (base : Nat) (value : Value) (fault : Number.NumeralFault) :
    (noWhole base value fault).IsLate := by
  cases fault <;> exact ⟨nofun, nofun⟩

@[spec]
theorem late_truncated (value : Double) : IsLate (truncated value) := by
  unfold truncated
  mvcgen
  simp

@[spec]
theorem late_toDouble (value : Value) : IsLate value.toDouble := by
  unfold toDouble
  split
  · exact late_error (Absence.isLate_fault _)
  · -- What is read does not matter, and reading it would take long.
    generalize Number.readDouble? _ = read
    mvcgen
    simp
  · generalize Number.readDouble? _ = read
    mvcgen
    simp
  · mvcgen
    simp

@[spec]
theorem late_toWhole (base : Nat) (value : Value) : IsLate (toWhole base value) := by
  have hread (text : List Char) :
      IsLate ((Number.readInteger base text).mapError (noWhole base value)) :=
    late_mapError fun _ _ => isLate_noWhole base value _
  unfold toWhole
  split
  case h_2 | h_3 => exact hread _
  all_goals mvcgen <;> simp

end Value

end TemplateWorkbench.Template
