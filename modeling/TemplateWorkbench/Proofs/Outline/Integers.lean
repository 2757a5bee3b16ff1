import TemplateWorkbench.Outline.Tree
import TemplateWorkbench.Proofs.Json.Writing

/-!
# Which trees have an outline

Two things can keep a tree from having an outline: a node deep inside of a list, where only plain data
can be written, and an integer that is too long.  A tree is *shallow* if it has no such node; a shallow
tree has an outline exactly when all of its integers are short.
-/

namespace TemplateWorkbench

open Number (isShort)
open Results

namespace Tree

mutual

/-- The integers in the fields of a tree. -/
def integers : Tree → List Int
  | .node _ _ fields => fieldIntegers fields

/-- The integers in fields. -/
def fieldIntegers : List (String × Field) → List Int
  | [] => []
  | (_, field) :: rest => field.integers ++ fieldIntegers rest

/-- The integers in a field. -/
def Field.integers : Field → List Int
  | .tree child => child.integers
  | .list items => itemIntegers items
  | .data value => value.integers

/-- The integers in the items of a list. -/
def itemIntegers : List Field → List Int
  | [] => []
  | item :: rest => item.integers ++ itemIntegers rest

end

mutual

/-- Whether a field holds plain data only. -/
def Field.isPlain : Field → Bool
  | .tree _ => false
  | .list items => arePlain items
  | .data _ => true

/-- Whether all items hold plain data only. -/
def arePlain : List Field → Bool
  | [] => true
  | item :: rest => item.isPlain && arePlain rest

end

mutual

/-- Whether every node of a tree is a field or an item of a field. -/
def isShallow : Tree → Bool
  | .node _ _ fields => areShallow fields

/-- Whether every node in fields is a field or an item of a field. -/
def areShallow : List (String × Field) → Bool
  | [] => true
  | (_, .tree child) :: rest => child.isShallow && areShallow rest
  | (_, .list items) :: rest => areShallowItems items && areShallow rest
  | (_, .data _) :: rest => areShallow rest

/-- Whether every item is a shallow tree or plain data. -/
def areShallowItems : List Field → Bool
  | [] => true
  | .tree child :: rest => child.isShallow && areShallowItems rest
  | item :: rest => item.isPlain && areShallowItems rest

end

theorem arePlain_eq_all (items : List Field) : arePlain items = items.all Field.isPlain := by
  induction items with
  | nil => rfl
  | cons item rest ih => rw [arePlain, ih, List.all_cons]

theorem areShallowItems_of_arePlain {items : List Field} (hplain : arePlain items = true) :
    areShallowItems items = true := by
  induction items with
  | nil => rfl
  | cons item rest ih =>
      obtain ⟨hitem, hrest⟩ := Bool.and_eq_true_iff.mp hplain
      cases item with
      | tree child => exact nomatch hitem
      | list items | data value => exact Bool.and_eq_true_iff.mpr ⟨hitem, ih hrest⟩

/-- A field of plain data holds no node that could be too deep. -/
theorem areShallow_cons_plain {name : String} {field : Field} {rest : List (String × Field)}
    (hplain : field.isPlain = true) : areShallow ((name, field) :: rest) = areShallow rest := by
  cases field with
  | tree child => exact nomatch hplain
  | list items => rw [areShallow, areShallowItems_of_arePlain hplain, Bool.true_and]
  | data value => rw [areShallow]

/-! ### Fields without nodes -/

mutual

theorem isOk_text : (field : Field) → field.isPlain = true →
    field.text.isOk = field.integers.all isShort
  | .tree _, hplain => nomatch hplain
  | .list items, hplain => by
      rw [Field.text, Field.integers, ← isOk_textItems items hplain]
      cases textItems items <;> rfl
  | .data value, _ => by
      rw [Field.text, Field.integers, ← Json.isOk_writeChars .line 0]
      cases Json.writeChars .line 0 value <;> rfl

theorem isOk_textItems : (items : List Field) → arePlain items = true →
    (textItems items).isOk = (itemIntegers items).all isShort
  | [], _ => rfl
  | item :: rest, hplain => by
      obtain ⟨hitem, hrest⟩ := Bool.and_eq_true_iff.mp hplain
      rw [textItems, itemIntegers, List.all_append, isOk_bind_bind_pure, isOk_text item hitem,
        isOk_textItems rest hrest]

end

theorem isOk_dataLine (depth : Nat) (label : String) (field : Field) (hplain : field.isPlain = true) :
    (dataLine depth label field).isOk = field.integers.all isShort := by
  rw [dataLine, isOk_bind_pure, isOk_text field hplain]

/-- Shallow items without a tree among them hold plain data. -/
theorem arePlain_of_areShallowItems {items : List Field} (hshallow : areShallowItems items = true)
    (hnone : items.any (·.tree?.isSome) = false) : arePlain items = true := by
  induction items with
  | nil => rfl
  | cons item rest ih =>
      rw [List.any_cons, Bool.or_eq_false_iff] at hnone
      cases item with
      | tree child => exact nomatch hnone.1
      | list items | data value =>
          rw [areShallowItems, Bool.and_eq_true] at hshallow
          · rw [arePlain, hshallow.1, ih hshallow.2 hnone.2]
            rfl
          · exact nofun

/-! ### Trees -/

mutual

/-- A shallow tree has an outline exactly when all of its integers are short. -/
theorem isOk_outlineLines (depth : Nat) : (tree : Tree) → tree.isShallow = true →
    (tree.outlineLines depth).isOk = tree.integers.all isShort
  | .node kind line fields, hshallow => by
      rw [outlineLines, integers, isOk_bind_pure, isOk_outlineFields depth fields hshallow]

theorem isOk_outlineFields (depth : Nat) : (fields : List (String × Field)) →
    areShallow fields = true → (outlineFields depth fields).isOk = (fieldIntegers fields).all isShort
  | [], _ => rfl
  | (name, .tree child) :: rest, hshallow => by
      obtain ⟨hchild, hrest⟩ := Bool.and_eq_true_iff.mp hshallow
      rw [outlineFields, fieldIntegers, Field.integers, List.all_append, isOk_bind_bind_pure,
        isOk_outlineLines (depth + 2) child hchild, isOk_outlineFields depth rest hrest]
  | (name, .list items) :: rest, hshallow => by
      obtain ⟨hitems, hrest⟩ := Bool.and_eq_true_iff.mp hshallow
      rw [outlineFields, fieldIntegers, Field.integers, List.all_append]
      simp only [pure_bind]
      -- With a tree in it a list is laid out item by item, and otherwise as data on one line.
      cases hany : items.any (·.tree?.isSome) with
      | true =>
          rw [if_pos rfl, isOk_bind_bind_pure, isOk_outlineItems depth items hitems,
            isOk_outlineFields depth rest hrest]
      | false =>
          have hplain := arePlain_of_areShallowItems hitems hany
          have hline := isOk_dataLine (depth + 1) s!"{name}: " (.list items) hplain
          rw [if_neg Bool.false_ne_true, isOk_bind_bind_pure, hline, Field.integers,
            isOk_outlineFields depth rest hrest]
  | (name, .data value) :: rest, hshallow => by
      have hline := isOk_dataLine (depth + 1) s!"{name}: " (.data value) rfl
      rw [outlineFields, fieldIntegers, List.all_append, isOk_bind_bind_pure, hline,
        isOk_outlineFields depth rest hshallow]

theorem isOk_outlineItems (depth : Nat) : (items : List Field) →
    areShallowItems items = true → (outlineItems depth items).isOk = (itemIntegers items).all isShort
  | [], _ => rfl
  | .tree child :: rest, hshallow => by
      obtain ⟨hchild, hrest⟩ := Bool.and_eq_true_iff.mp hshallow
      rw [outlineItems, itemIntegers, Field.integers, List.all_append, isOk_bind_bind_pure,
        isOk_outlineLines (depth + 2) child hchild, isOk_outlineItems depth rest hrest]
  | .list items :: rest, hshallow => by
      obtain ⟨hitem, hrest⟩ := Bool.and_eq_true_iff.mp hshallow
      rw [outlineItems, itemIntegers, List.all_append]
      · rw [isOk_bind_bind_pure, isOk_dataLine (depth + 2) "" _ hitem, isOk_outlineItems depth rest hrest]
      · exact nofun
  | .data value :: rest, hshallow => by
      obtain ⟨hitem, hrest⟩ := Bool.and_eq_true_iff.mp hshallow
      rw [outlineItems, itemIntegers, List.all_append]
      · rw [isOk_bind_bind_pure, isOk_dataLine (depth + 2) "" _ hitem, isOk_outlineItems depth rest hrest]
      · exact nofun

end

theorem isOk_outline {tree : Tree} (hshallow : tree.isShallow = true) :
    tree.outline.isOk = tree.integers.all isShort := by
  rw [outline, isOk_bind_pure, isOk_outlineLines 0 tree hshallow]

end Tree

end TemplateWorkbench
