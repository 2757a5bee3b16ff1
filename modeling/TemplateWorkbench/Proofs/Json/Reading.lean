import Mathlib.Data.List.TakeWhile
import TemplateWorkbench.Json.Reader
import TemplateWorkbench.Proofs.Json.Members
import TemplateWorkbench.Proofs.Number.Digits
import TemplateWorkbench.Proofs.Results

/-!
# What the reader gives

A value that is read is *canonical*: no integer in it has more digits than are written, and the names
of every object in it are distinct.  The proof follows the reader's three mutual functions by induction
on their fuel.
-/

namespace TemplateWorkbench.Json

open Results

/-- A value whose integers can be written and whose objects have distinct names, at every depth. -/
inductive Canonical : Json → Prop
  | null : Canonical .null
  | bool (value : Bool) : Canonical (.bool value)
  | int {value : Int} (hshort : Number.isTooLong value = false) : Canonical (.int value)
  | double (value : Double) : Canonical (.double value)
  | string (value : String) : Canonical (.string value)
  | list {items : List Json} (hitems : ∀ item ∈ items, Canonical item) : Canonical (.list items)
  | object {members : List (String × Json)} (hdistinct : NamesDistinct members)
      (hmembers : ∀ member ∈ members, Canonical member.2) : Canonical (.object members)

/-! ### Numbers -/

theorem digitsThen_lt (text : List Char) : ∀ digit ∈ (digitsThen text).1, digit < 10 := by
  intro digit hdigit
  obtain ⟨c, hc, rfl⟩ := List.mem_map.mp hdigit
  have hisDigit : c.isDigit = true := List.mem_takeWhile_imp hc
  simp only [Char.isDigit, Bool.and_eq_true, decide_eq_true_eq] at hisDigit
  have hle : c.toNat ≤ 57 := hisDigit.2
  omega

theorem wholeDigits?_lt {text rest : List Char} {digits : List Nat}
    (hdigits : wholeDigits? text = some (digits, rest)) : ∀ digit ∈ digits, digit < 10 := by
  unfold wholeDigits? at hdigits
  split at hdigits
  · cases hdigits
    simp
  · have hlt := digitsThen_lt text
    rcases hsplit : digitsThen text with ⟨run, others⟩
    rw [hsplit] at hlt
    simp only [hsplit, Option.ite_none_left_eq_some, Option.some.injEq, Prod.mk.injEq] at hdigits
    rwa [← hdigits.2.1]

theorem isTooLong_eq_false {value : Int} {digits : List Nat} (hdigits : ∀ digit ∈ digits, digit < 10)
    (hlength : digits.length ≤ Number.digitLimit)
    (hvalue : value.natAbs = Number.ofDigits 10 digits) : Number.isTooLong value = false := by
  -- For every two lengths, so that the power of the limit is not evaluated.
  have hpow {length limit : Nat} (hle : length ≤ limit) : Nat.pow 10 length ≤ Nat.pow 10 limit :=
    Nat.pow_le_pow_right (by decide) hle
  rw [Number.isTooLong_eq_false_iff, hvalue]
  exact Nat.lt_of_lt_of_le (Number.ofDigits_lt hdigits) (hpow hlength)

theorem canonical_readNumber {text rest : List Char} {value : Json}
    (hread : readNumber text = .ok (value, rest)) : value.Canonical := by
  unfold readNumber at hread
  simp only at hread
  split at hread
  · cases hread
  · next whole afterWhole hwhole =>
      unfold finishNumber at hread
      simp only at hread
      split at hread
      · split at hread
        · cases hread
        · next hlength =>
            cases hread
            refine .int (isTooLong_eq_false (wholeDigits?_lt hwhole) (Nat.not_lt.mp hlength) ?_)
            split <;> simp
      · cases hread
        exact .double _

theorem canonical_readWord? {text rest : List Char} {value : Json}
    (hread : readWord? text = some (value, rest)) : value.Canonical := by
  have hwords : ∀ word ∈ words, word.2.Canonical := by
    simp only [words, List.mem_cons, List.not_mem_nil, or_false]
    rintro word (rfl | rfl | rfl | rfl | rfl | rfl)
    · exact .null
    · exact .bool true
    · exact .bool false
    · exact .double _
    · exact .double _
    · exact .double _
  obtain ⟨word, hmem, hword⟩ := List.exists_of_findSome?_eq_some hread
  simp only [Option.ite_none_right_eq_some, Option.some.injEq, Prod.mk.injEq] at hword
  exact hword.2.1 ▸ hwords word hmem

/-! ### Containers -/

/-- What the reader's functions give with a fuel is canonical. -/
structure ReadsCanonical (fuel : Nat) : Prop where
  value : ∀ depth text value rest, readValue fuel depth text = .ok (value, rest) → value.Canonical
  items : ∀ depth done text value rest, (∀ item ∈ done, item.Canonical) →
    readItems fuel depth done text = .ok (value, rest) → value.Canonical
  members : ∀ depth done text value rest,
    (∀ member : String × Json, member ∈ done → member.2.Canonical) →
    readMembers fuel depth done text = .ok (value, rest) → value.Canonical

theorem canonical_lastWins {members : List (String × Json)}
    (hmembers : ∀ member ∈ members, member.2.Canonical) : (object (lastWins members)).Canonical := by
  refine .object (namesDistinct_lastWins members) fun member hmem => ?_
  obtain ⟨given, hgiven, hvalue⟩ := exists_mem_of_mem_lastWins hmem
  exact hvalue ▸ hmembers given hgiven

section Step

variable {fuel depth : Nat} {text rest : List Char} {value : Json}

/-- A value is a text, an object, a list, a word or a number. -/
theorem ReadsCanonical.value_succ (ih : ReadsCanonical fuel)
    (hread : readValue (fuel + 1) depth text = .ok (value, rest)) : value.Canonical := by
  rw [readValue.eq_def] at hread
  simp only at hread
  split at hread
  · obtain ⟨found, -, hvalue⟩ := map_eq_ok_iff.mp hread
    cases hvalue
    exact .string _
  · split at hread
    · cases hread
    · split at hread
      · cases hread
        exact .object List.nodup_nil (by simp)
      · exact ih.members _ _ _ _ _ (by simp) hread
  · split at hread
    · cases hread
    · split at hread
      · cases hread
        exact .list (by simp)
      · exact ih.items _ _ _ _ _ (by simp) hread
  · split at hread
    · next hword =>
        cases hread
        exact canonical_readWord? hword
    · exact canonical_readNumber hread

/-- After an item comes the end of the list or a comma. -/
theorem ReadsCanonical.items_succ (ih : ReadsCanonical fuel) {done : List Json}
    (hdone : ∀ item ∈ done, item.Canonical)
    (hread : readItems (fuel + 1) depth done text = .ok (value, rest)) : value.Canonical := by
  rw [readItems] at hread
  split at hread
  · cases hread
  · next item others hitem =>
      have hcanonical : item.Canonical := ih.value _ _ _ _ hitem
      have hnext : ∀ found ∈ item :: done, found.Canonical :=
        List.forall_mem_cons.mpr ⟨hcanonical, hdone⟩
      split at hread
      · cases hread
        exact .list fun found hfound => hnext found (List.mem_reverse.mp hfound)
      · exact ih.items _ _ _ _ _ hnext hread
      · cases hread

/-- A member is a name, a colon and a value; after it comes the end of the object or a comma. -/
theorem ReadsCanonical.members_succ (ih : ReadsCanonical fuel) {done : List (String × Json)}
    (hdone : ∀ member : String × Json, member ∈ done → member.2.Canonical)
    (hread : readMembers (fuel + 1) depth done text = .ok (value, rest)) : value.Canonical := by
  rw [readMembers.eq_def] at hread
  simp only at hread
  split at hread
  · split at hread
    · cases hread
    · next name _ _ =>
        split at hread
        · split at hread
          · cases hread
          · next member others hmember =>
              have hcanonical : member.Canonical := ih.value _ _ _ _ hmember
              have hnext : ∀ found ∈ (name, member) :: done, found.2.Canonical :=
                List.forall_mem_cons.mpr ⟨hcanonical, hdone⟩
              split at hread
              · cases hread
                exact canonical_lastWins fun found hfound => hnext found (List.mem_reverse.mp hfound)
              · exact ih.members _ _ _ _ _ hnext hread
              · cases hread
        · cases hread
  · cases hread

end Step

theorem readsCanonical (fuel : Nat) : ReadsCanonical fuel := by
  induction fuel with
  | zero =>
      constructor
      · intro depth text value rest hread
        cases hread
      · intro depth done text value rest _ hread
        cases hread
      · intro depth done text value rest _ hread
        cases hread
  | succ fuel ih =>
      exact ⟨fun _ _ _ _ => ih.value_succ, fun _ _ _ _ _ => ih.items_succ,
        fun _ _ _ _ _ => ih.members_succ⟩

/-- A value that is read is canonical. -/
theorem canonical_of_read {text : String} {value : Json} (hread : read text = .ok value) :
    value.Canonical := by
  unfold read readChars at hread
  split at hread
  · cases hread
  · split at hread
    · cases hread
    · next found rest hvalue =>
        split at hread
        · cases hread
          exact (readsCanonical _).value _ _ _ _ hvalue
        · cases hread

end TemplateWorkbench.Json
