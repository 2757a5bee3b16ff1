import TemplateWorkbench.Proofs.Template.Likeness
import Mathlib.Data.List.Perm.Basic

/-!
# The likeness of a set does not tell in which order it enumerates its members

A set gives its members in an order of its own, another one in every run.  Its likeness has them in the order
of their forms, and values that tie there are equal, so two values that differ only in such orders have one
likeness.  What is not put in order is what a set looks like inside a text: in the text of a key, and in the
written form that stands for a value without a likeness of its own, such as a view.  There a set of two
members shows its order.
-/

namespace TemplateWorkbench.Template

open Results

mutual

/-- Two values that differ only in the order in which sets, at any depth, enumerate their members. -/
inductive Reordered : Value → Value → Prop
  | same (value : Value) : Reordered value value
  | list {items others : List Value} (hitems : ReorderedItems items others) :
      Reordered (.list items) (.list others)
  | tuple {items others : List Value} (hitems : ReorderedItems items others) :
      Reordered (.tuple items) (.tuple others)
  | group {key other : Value} {members others : List Value} (hkey : Reordered key other)
      (hmembers : ReorderedItems members others) : Reordered (.group key members) (.group other others)
  | dict {entries others : List (Value × Value)} (hentries : ReorderedEntries entries others) :
      Reordered (.dict entries) (.dict others)
  | set (frozen : Bool) {members others enumerated : List Value} (hmembers : ReorderedItems members others)
      (horder : others.Perm enumerated) : Reordered (.set frozen members) (.set frozen enumerated)
  | view (part : DictPart) {entries others : List (Value × Value)}
      (hentries : ReorderedEntries entries others) : Reordered (.view part entries) (.view part others)
  | method {receiver other : Value} (hreceiver : Reordered receiver other) (name : String) :
      Reordered (.method receiver name) (.method other name)

/-- Items that differ only so, one by one. -/
inductive ReorderedItems : List Value → List Value → Prop
  | nil : ReorderedItems [] []
  | cons {item other : Value} {items others : List Value} (hitem : Reordered item other)
      (hitems : ReorderedItems items others) : ReorderedItems (item :: items) (other :: others)

/-- Entries that differ only so, one by one. -/
inductive ReorderedEntries : List (Value × Value) → List (Value × Value) → Prop
  | nil : ReorderedEntries [] []
  | cons {key otherKey value other : Value} {entries others : List (Value × Value)}
      (hkey : Reordered key otherKey) (hvalue : Reordered value other)
      (hentries : ReorderedEntries entries others) :
      ReorderedEntries ((key, value) :: entries) ((otherKey, other) :: others)

end

namespace Value

mutual

/-- Whether the written form of a value shows in which order some set enumerates its members. -/
def showsOrder : Value → Bool
  | list items | tuple items => anyShowsOrder items
  | group key members => showsOrder key || anyShowsOrder members
  | dict entries => anyEntryShowsOrder true true entries
  | set _ members => decide (2 ≤ members.length) || anyShowsOrder members
  | view part entries => anyEntryShowsOrder (part != .values) (part != .keys) entries
  | _ => false

/-- Whether the written form of some item shows an order. -/
def anyShowsOrder : List Value → Bool
  | [] => false
  | item :: rest => showsOrder item || anyShowsOrder rest

/-- Whether the written form of some key shows an order, if keys are looked at, or that of some value, if
values are. -/
def anyEntryShowsOrder (keys values : Bool) : List (Value × Value) → Bool
  | [] => false
  | (key, value) :: rest =>
    keys && showsOrder key || values && showsOrder value || anyEntryShowsOrder keys values rest

end

mutual

/-- Whether a text in the likeness of a value shows in which order some set enumerates its members: the text
of a key, or the written form of a view. -/
def likenessShowsOrder : Value → Bool
  | list items | tuple items | set _ items => anyLikenessShowsOrder items
  | group key members => likenessShowsOrder key || anyLikenessShowsOrder members
  | dict entries => anyEntryLikenessShowsOrder entries
  | view part entries => showsOrder (view part entries)
  | _ => false

/-- Whether a text in the likeness of some item shows an order. -/
def anyLikenessShowsOrder : List Value → Bool
  | [] => false
  | item :: rest => likenessShowsOrder item || anyLikenessShowsOrder rest

/-- Whether the text of some key or a text in the likeness of some value shows an order. -/
def anyEntryLikenessShowsOrder : List (Value × Value) → Bool
  | [] => false
  | (key, value) :: rest => showsOrder key || likenessShowsOrder value || anyEntryLikenessShowsOrder rest

end

end Value

open Value

/-! ### Written forms -/

theorem ReorderedItems.length_eq {items others : List Value} (hitems : ReorderedItems items others) :
    items.length = others.length := by
  match hitems with
  | .nil => rfl
  | .cons _ hrest => rw [List.length_cons, List.length_cons, hrest.length_eq]

theorem Reordered.typeName_eq {value other : Value} (hvalue : Reordered value other) :
    value.typeName = other.typeName := by
  cases hvalue with
  | same => rfl
  | list | tuple | group | dict => rfl
  | set frozen => cases frozen <;> rfl
  | view part => cases part <;> rfl
  | method hreceiver =>
      cases hreceiver <;> rfl

/-- A list of at most one item has no other order. -/
theorem eq_of_perm_of_length_lt_two {α : Type} {list reordered : List α} (hperm : list.Perm reordered)
    (hshort : list.length < 2) : list = reordered := by
  match list with
  | [] => exact hperm.nil_eq
  | [_] => exact hperm.singleton_eq

mutual

/-- Where no order is shown, one and the same text is written. -/
theorem Reordered.written_eq {value other : Value} (look : Appearance) (hvalue : Reordered value other)
    (hhidden : value.showsOrder = false) : value.written look = other.written look := by
  match hvalue with
  | .same _ => rfl
  | .list hitems =>
      rw [showsOrder] at hhidden
      rw [written, written, hitems.writtenItems_eq look hhidden]
  | .tuple hitems =>
      rw [showsOrder] at hhidden
      rw [written, written, hitems.writtenItems_eq look hhidden]
  | .group hkey hmembers =>
      rw [showsOrder, Bool.or_eq_false_iff] at hhidden
      rw [written, written, hkey.written_eq look hhidden.1, hmembers.writtenItems_eq look hhidden.2]
  | .dict hentries =>
      rw [showsOrder] at hhidden
      rw [written, written, hentries.writtenEntries_eq look hhidden]
  -- A set that shows no order has one member at most.
  | .set _ hmembers horder =>
      rw [showsOrder, Bool.or_eq_false_iff, decide_eq_false_iff_not, Nat.not_le,
        hmembers.length_eq] at hhidden
      rw [written, written, hmembers.writtenItems_eq look hhidden.2,
        eq_of_perm_of_length_lt_two horder hhidden.1]
  | .view .keys hentries =>
      rw [showsOrder] at hhidden
      rw [written, written, hentries.writtenKeys_eq look hhidden]
  | .view .values hentries =>
      rw [showsOrder] at hhidden
      rw [written, written, hentries.writtenValues_eq look hhidden]
  | .view .items hentries =>
      rw [showsOrder] at hhidden
      rw [written, written, hentries.writtenPairs_eq look hhidden]
  | .method hreceiver _ => rw [written, written, hreceiver.typeName_eq]

theorem ReorderedItems.writtenItems_eq {items others : List Value} (look : Appearance)
    (hitems : ReorderedItems items others) (hhidden : anyShowsOrder items = false) :
    writtenItems look items = writtenItems look others := by
  match hitems with
  | .nil => rfl
  | .cons hitem hrest =>
      rw [anyShowsOrder, Bool.or_eq_false_iff] at hhidden
      rw [writtenItems, writtenItems, hitem.written_eq look hhidden.1, hrest.writtenItems_eq look hhidden.2]

theorem ReorderedEntries.writtenEntries_eq {entries others : List (Value × Value)} (look : Appearance)
    (hentries : ReorderedEntries entries others) (hhidden : anyEntryShowsOrder true true entries = false) :
    writtenEntries look entries = writtenEntries look others := by
  match hentries with
  | .nil => rfl
  | .cons hkey hvalue hrest =>
      simp only [anyEntryShowsOrder, Bool.true_and, Bool.or_eq_false_iff] at hhidden
      rw [writtenEntries, writtenEntries, hkey.written_eq look hhidden.1.1,
        hvalue.written_eq look hhidden.1.2, hrest.writtenEntries_eq look hhidden.2]

theorem ReorderedEntries.writtenKeys_eq {entries others : List (Value × Value)} (look : Appearance)
    (hentries : ReorderedEntries entries others) (hhidden : anyEntryShowsOrder true false entries = false) :
    writtenKeys look entries = writtenKeys look others := by
  match hentries with
  | .nil => rfl
  | .cons hkey _ hrest =>
      simp only [anyEntryShowsOrder, Bool.true_and, Bool.false_and, Bool.or_false,
        Bool.or_eq_false_iff] at hhidden
      rw [writtenKeys, writtenKeys, hkey.written_eq look hhidden.1, hrest.writtenKeys_eq look hhidden.2]

theorem ReorderedEntries.writtenValues_eq {entries others : List (Value × Value)} (look : Appearance)
    (hentries : ReorderedEntries entries others) (hhidden : anyEntryShowsOrder false true entries = false) :
    writtenValues look entries = writtenValues look others := by
  match hentries with
  | .nil => rfl
  | .cons _ hvalue hrest =>
      simp only [anyEntryShowsOrder, Bool.true_and, Bool.false_and, Bool.false_or,
        Bool.or_eq_false_iff] at hhidden
      rw [writtenValues, writtenValues, hvalue.written_eq look hhidden.1,
        hrest.writtenValues_eq look hhidden.2]

theorem ReorderedEntries.writtenPairs_eq {entries others : List (Value × Value)} (look : Appearance)
    (hentries : ReorderedEntries entries others) (hhidden : anyEntryShowsOrder true true entries = false) :
    writtenPairs look entries = writtenPairs look others := by
  match hentries with
  | .nil => rfl
  | .cons hkey hvalue hrest =>
      simp only [anyEntryShowsOrder, Bool.true_and, Bool.or_eq_false_iff] at hhidden
      rw [writtenPairs, writtenPairs, hkey.written_eq look hhidden.1.1, hvalue.written_eq look hhidden.1.2,
        hrest.writtenPairs_eq look hhidden.2]

end

/-- Where no order is shown, one and the same text is printed. -/
theorem Reordered.printed_eq {value other : Value} (look : Appearance) (hvalue : Reordered value other)
    (hhidden : value.showsOrder = false) : value.printed look = other.printed look := by
  have hwritten := hvalue.written_eq look hhidden
  cases hvalue with
  | same => rfl
  | _ => simpa only [Value.printed] using hwritten

/-! ### Likenesses -/

variable {items others : List Value}

/-- A set of the same members in another order has the same likeness. -/
theorem toJson_set_of_perm {look : Appearance} {frozen : Bool} (hperm : items.Perm others) {json : Json}
    (hjson : (Value.set frozen items).toJson look = .ok json) :
    (Value.set frozen others).toJson look = .ok json := by
  obtain ⟨likenesses, sorted, hitems, hsorted, rfl⟩ := toJson_set_eq_ok_iff.mp hjson
  obtain ⟨reordered, hothers, hsame⟩ :=
    List.perm_comp_forall₂ hperm.symm (toJsonItems_eq_ok_iff.mp hitems)
  rw [Json.sortedByForm?_perm hsame.symm] at hsorted
  exact toJson_set_eq_ok_iff.mpr ⟨reordered, sorted, toJsonItems_eq_ok_iff.mpr hothers, hsorted, rfl⟩

mutual

/-- Two values that differ only in the order in which sets enumerate their members have the same likeness,
where no order is shown by the text of a key or by the written form of a view. -/
theorem Reordered.toJson_eq_ok_iff {value other : Value} {look : Appearance} (hvalue : Reordered value other)
    (hhidden : value.likenessShowsOrder = false) {json : Json} :
    value.toJson look = .ok json ↔ other.toJson look = .ok json := by
  match hvalue with
  | .same _ => rfl
  | .list hitems =>
      rw [likenessShowsOrder] at hhidden
      simp only [toJson_list_eq_ok_iff, hitems.toJsonItems_eq_ok_iff hhidden]
  | .tuple hitems =>
      rw [likenessShowsOrder] at hhidden
      simp only [toJson_tuple, toJson_list_eq_ok_iff, hitems.toJsonItems_eq_ok_iff hhidden]
  | .group hkey hmembers =>
      rw [likenessShowsOrder, Bool.or_eq_false_iff] at hhidden
      simp only [toJson_group_eq_ok_iff, hkey.toJson_eq_ok_iff hhidden.1,
        hmembers.toJsonItems_eq_ok_iff hhidden.2]
  | .dict hentries =>
      rw [likenessShowsOrder] at hhidden
      simp only [toJson_dict_eq_ok_iff, hentries.toJsonEntries_eq_ok_iff hhidden]
  | .set _ hmembers horder =>
      rw [likenessShowsOrder] at hhidden
      -- The members one by one first, in their places, and then the places.
      refine Iff.trans ?_ ⟨toJson_set_of_perm horder, toJson_set_of_perm horder.symm⟩
      simp only [toJson_set_eq_ok_iff, hmembers.toJsonItems_eq_ok_iff hhidden]
  | .view part hentries =>
      rw [likenessShowsOrder] at hhidden
      rw [toJson, toJson, (Reordered.view part hentries).written_eq look hhidden]
      all_goals nofun
  | .method hreceiver name =>
      rw [toJson, toJson, (Reordered.method hreceiver name).written_eq look rfl]
      all_goals nofun

theorem ReorderedItems.toJsonItems_eq_ok_iff {items others : List Value} {look : Appearance}
    (hitems : ReorderedItems items others) (hhidden : anyLikenessShowsOrder items = false)
    {likenesses : List Json} :
    toJsonItems look items = .ok likenesses ↔ toJsonItems look others = .ok likenesses := by
  match hitems with
  | .nil => rfl
  | .cons hitem hrest =>
      rw [anyLikenessShowsOrder, Bool.or_eq_false_iff] at hhidden
      rw [toJsonItems, toJsonItems]
      simp only [bind_eq_ok_iff, hitem.toJson_eq_ok_iff hhidden.1, hrest.toJsonItems_eq_ok_iff hhidden.2]

theorem ReorderedEntries.toJsonEntries_eq_ok_iff {entries others : List (Value × Value)} {look : Appearance}
    (hentries : ReorderedEntries entries others) (hhidden : anyEntryLikenessShowsOrder entries = false)
    {members : List (String × Json)} :
    toJsonEntries look entries = .ok members ↔ toJsonEntries look others = .ok members := by
  match hentries with
  | .nil => rfl
  | .cons hkey hvalue hrest =>
      rw [anyEntryLikenessShowsOrder, Bool.or_eq_false_iff, Bool.or_eq_false_iff] at hhidden
      rw [toJsonEntries, toJsonEntries, hkey.printed_eq look hhidden.1.1]
      simp only [bind_eq_ok_iff, hvalue.toJson_eq_ok_iff hhidden.1.2,
        hrest.toJsonEntries_eq_ok_iff hhidden.2]

end

/-- Whatever the order in which sets enumerate their members, at any depth, a value has one likeness and one
text, as long as no key and no view is written that shows a set of two or more members. -/
theorem same_likeness_of_reordered {value other : Value} (look : Appearance) (hvalue : Reordered value other)
    (hhidden : value.likenessShowsOrder = false) :
    (∀ json, value.toJson look = .ok json ↔ other.toJson look = .ok json) ∧
      ∀ text, jsonText look value = .ok text ↔ jsonText look other = .ok text := by
  have hjson {json : Json} : value.toJson look = .ok json ↔ other.toJson look = .ok json :=
    hvalue.toJson_eq_ok_iff hhidden
  refine ⟨fun json => hjson, fun text => ?_⟩
  simp only [jsonText_eq_ok_iff, hjson]

theorem reordered_pair (frozen : Bool) (first second : Value) :
    Reordered (.set frozen [first, second]) (.set frozen [second, first]) :=
  .set frozen (.cons (.same _) (.cons (.same _) .nil)) (.swap second first [])

/-- Sets in a set, in a tuple inside it, and under a key that shows a set of one member. -/
def nestedSets : Value :=
  .list [.set false [.set true [.int 1, .string "1"], .tuple [.set true [.int 2, .none], .double .nan]],
    .dict [(.tuple [.int 3, .set true [.bool true]], .set false [.int 10, .int 9])]]

/-- The same value with every set in another order. -/
def nestedSetsReordered : Value :=
  .list [.set false [.tuple [.set true [.none, .int 2], .double .nan], .set true [.string "1", .int 1]],
    .dict [(.tuple [.int 3, .set true [.bool true]], .set false [.int 9, .int 10])]]

theorem same_likeness_of_nestedSets :
    (∀ json, nestedSets.toJson .plain = .ok json ↔ nestedSetsReordered.toJson .plain = .ok json) ∧
      ∀ text, jsonText .plain nestedSets = .ok text ↔ jsonText .plain nestedSetsReordered = .ok text :=
  have hset : Reordered
      (.set false [.set true [.int 1, .string "1"], .tuple [.set true [.int 2, .none], .double .nan]])
      (.set false [.tuple [.set true [.none, .int 2], .double .nan], .set true [.string "1", .int 1]]) :=
    .set false (.cons (reordered_pair true _ _)
      (.cons (.tuple (.cons (reordered_pair true _ _) (.cons (.same _) .nil))) .nil)) (.swap _ _ [])
  same_likeness_of_reordered .plain
    (.list (.cons hset (.cons (.dict (.cons (.same _) (reordered_pair false _ _) .nil)) .nil))) rfl

/-- Two dictionaries whose keys differ only in the order of a set have different likenesses: a key is a text,
and the text shows the order. -/
theorem key_shows_setOrder :
    Reordered (.dict [(.set true [.int 0, .int 8], .bool true)])
        (.dict [(.set true [.int 8, .int 0], .bool true)]) ∧
      (Value.dict [(.set true [.int 0, .int 8], .bool true)]).toJson .plain =
        .ok (.object [("frozenset(\x7b0, 8\x7d)", .bool true)]) ∧
      (Value.dict [(.set true [.int 8, .int 0], .bool true)]).toJson .plain =
        .ok (.object [("frozenset(\x7b8, 0\x7d)", .bool true)]) := by
  have hfirst : Number.isTooLong 0 = false := Number.isTooLong_eq_false_iff.mpr (by decide +kernel)
  have hsecond : Number.isTooLong 8 = false := Number.isTooLong_eq_false_iff.mpr (by decide +kernel)
  refine ⟨.dict (.cons (reordered_pair true _ _) (.same _) .nil), ?_, ?_⟩
  all_goals
    simp only [toJson, toJsonEntries, Value.printed, written, writtenItems, digits, Number.integerText?, hfirst,
      hsecond]
    rfl

end TemplateWorkbench.Template
