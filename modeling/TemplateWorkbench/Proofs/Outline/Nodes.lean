import TemplateWorkbench.Proofs.Json.RoundTrip
import TemplateWorkbench.Proofs.Outline.Integers

/-!
# The nodes of a tree

Three recursions go down a tree, and each of them decides for itself what is a node below: the children,
the walk, and the tree as plain data.  The walk goes through the children of every node.  The plain data
also hold what stands deeper inside of lists, and whatever data a field has could look like a node.  In a
shallow and tidy tree neither happens: its plain data hold the nodes of its walk, and they are told apart
and kept in order.
-/

namespace TemplateWorkbench

/-- What a node is called, and the line it starts on. -/
structure Head where
  kind : String
  line : Int
deriving DecidableEq, Repr

namespace Tree

/-- What a node is called, and the line it starts on. -/
def head (tree : Tree) : Head := ⟨tree.kind, tree.line⟩

/-! ### The walk -/

theorem walkItems_eq (items : List Field) :
    walkItems items = (items.filterMap Field.tree?).flatMap walk := by
  induction items with
  | nil => rfl
  | cons item rest ih =>
      cases item with
      | tree child =>
          rw [walkItems, ih]
          rfl
      | list items | data value => exact ih

theorem walkFields_eq (fields : List (String × Field)) :
    walkFields fields = (fields.flatMap fun field => field.2.nodes).flatMap walk := by
  induction fields with
  | nil => rfl
  | cons entry rest ih =>
      obtain ⟨name, field⟩ := entry
      rw [List.flatMap_cons, List.flatMap_append, ← ih]
      cases field with
      | tree child => rw [walkFields, Field.nodes, List.flatMap_singleton]
      | list items => rw [walkFields, Field.nodes, walkItems_eq]
      | data value => rfl

/-- The walk goes to a node and then through the walks of its children. -/
theorem walk_eq (tree : Tree) : tree.walk = tree :: tree.children.flatMap walk := by
  obtain ⟨kind, line, fields⟩ := tree
  rw [walk, walkFields_eq]
  rfl

/-- On the way through plain data there are no nodes. -/
theorem walkItems_of_arePlain {items : List Field} (hplain : arePlain items = true) :
    walkItems items = [] := by
  induction items with
  | nil => rfl
  | cons item rest ih =>
      obtain ⟨hitem, hrest⟩ := Bool.and_eq_true_iff.mp hplain
      cases item with
      | tree child => cases hitem
      | list items | data value => exact ih hrest

theorem walkFields_cons_plain {name : String} {field : Field} {rest : List (String × Field)}
    (hplain : field.isPlain = true) : walkFields ((name, field) :: rest) = walkFields rest := by
  cases field with
  | tree child => cases hplain
  | list items => rw [walkFields, walkItems_of_arePlain hplain, List.nil_append]
  | data value => rw [walkFields]

mutual

/-- The walk, with the level of each node; a child is one level below its parent. -/
def walkFrom (level : Nat) : Tree → List (Nat × Tree)
  | .node kind line fields => (level, .node kind line fields) :: walkFieldsFrom (level + 1) fields

/-- The walks of the nodes in fields, with levels. -/
def walkFieldsFrom (level : Nat) : List (String × Field) → List (Nat × Tree)
  | [] => []
  | (_, .tree child) :: rest => child.walkFrom level ++ walkFieldsFrom level rest
  | (_, .list items) :: rest => walkItemsFrom level items ++ walkFieldsFrom level rest
  | (_, .data _) :: rest => walkFieldsFrom level rest

/-- The walks of the nodes among items, with levels. -/
def walkItemsFrom (level : Nat) : List Field → List (Nat × Tree)
  | [] => []
  | .tree child :: rest => child.walkFrom level ++ walkItemsFrom level rest
  | _ :: rest => walkItemsFrom level rest

end

mutual

theorem snd_walkFrom (level : Nat) : (tree : Tree) → (tree.walkFrom level).map Prod.snd = tree.walk
  | .node kind line fields => by
      rw [walkFrom, walk, List.map_cons, snd_walkFieldsFrom]

theorem snd_walkFieldsFrom (level : Nat) : (fields : List (String × Field)) →
    (walkFieldsFrom level fields).map Prod.snd = walkFields fields
  | [] => rfl
  | (_, .tree child) :: rest => by
      rw [walkFieldsFrom, walkFields, List.map_append, snd_walkFrom level child, snd_walkFieldsFrom level rest]
  | (_, .list items) :: rest => by
      rw [walkFieldsFrom, walkFields, List.map_append, snd_walkItemsFrom level items,
        snd_walkFieldsFrom level rest]
  | (_, .data _) :: rest => by
      rw [walkFieldsFrom, walkFields, snd_walkFieldsFrom level rest]

theorem snd_walkItemsFrom (level : Nat) : (items : List Field) →
    (walkItemsFrom level items).map Prod.snd = walkItems items
  | [] => rfl
  | .tree child :: rest => by
      rw [walkItemsFrom, walkItems, List.map_append, snd_walkFrom level child, snd_walkItemsFrom level rest]
  | .list _ :: rest => snd_walkItemsFrom level rest
  | .data _ :: rest => snd_walkItemsFrom level rest

end

end Tree

/-! ### Plain data -/

namespace Json

mutual

/-- The nodes in plain data, outermost first: the objects that say what a node is called, its line and its
fields. -/
def heads : Json → List Head
  | .object [("kind", .string kind), ("lineno", .int line), ("fields", .object fields)] =>
    ⟨kind, line⟩ :: memberHeads fields
  | .object members => memberHeads members
  | .list items => itemHeads items
  | .null | .bool _ | .int _ | .double _ | .string _ => []

/-- The nodes in items. -/
def itemHeads : List Json → List Head
  | [] => []
  | item :: rest => item.heads ++ itemHeads rest

/-- The nodes in members. -/
def memberHeads : List (String × Json) → List Head
  | [] => []
  | (_, value) :: rest => value.heads ++ memberHeads rest

end

/-- Whether a value holds no other ones. -/
def isSingle : Json → Bool
  | .list _ | .object _ => false
  | .null | .bool _ | .int _ | .double _ | .string _ => true

theorem heads_of_isSingle {value : Json} (hsingle : value.isSingle = true) : value.heads = [] := by
  cases value with
  | list items | object members => cases hsingle
  | null | bool _ | int _ | double _ | string _ => rfl

theorem namesDistinctWithin_of_isSingle {value : Json} (hsingle : value.isSingle = true) :
    NamesDistinctWithin value := by
  cases value with
  | list items | object members => cases hsingle
  | null => exact .null
  | bool value => exact .bool value
  | int value => exact .int value
  | double value => exact .double value
  | string text => exact .string text

end Json

namespace Tree

open Json

/-- Whether a text has no line feed. -/
def isOneLine (text : String) : Bool := !text.toList.contains '\n'

mutual

/-- Whether all kinds and names are on one line, the fields of every node have different names, and no
data hold other data. -/
def isTidy : Tree → Bool
  | .node kind _ fields => isOneLine kind && decide (fields.map Prod.fst).Nodup && areTidy fields

/-- Whether all fields are tidy. -/
def areTidy : List (String × Field) → Bool
  | [] => true
  | (name, field) :: rest => isOneLine name && field.isTidy && areTidy rest

/-- Whether a field is tidy. -/
def Field.isTidy : Field → Bool
  | .tree child => child.isTidy
  | .list items => areTidyItems items
  | .data value => value.isSingle

/-- Whether all items are tidy. -/
def areTidyItems : List Field → Bool
  | [] => true
  | item :: rest => item.isTidy && areTidyItems rest

end

theorem areTidyItems_eq_all (items : List Field) : areTidyItems items = items.all Field.isTidy := by
  induction items with
  | nil => rfl
  | cons item rest ih => rw [areTidyItems, ih, List.all_cons]

section Tidy

variable {kind name : String} {line : Int} {field : Field} {fields rest : List (String × Field)}

theorem isTidy_node_iff : isTidy (.node kind line fields) = true ↔
    isOneLine kind = true ∧ (fields.map Prod.fst).Nodup ∧ areTidy fields = true := by
  rw [isTidy, Bool.and_eq_true, Bool.and_eq_true, decide_eq_true_iff, and_assoc]

theorem areTidy_cons_iff : areTidy ((name, field) :: rest) = true ↔
    isOneLine name = true ∧ field.isTidy = true ∧ areTidy rest = true := by
  rw [areTidy, Bool.and_eq_true, Bool.and_eq_true, and_assoc]

end Tidy

theorem fst_fieldsToJson (fields : List (String × Field)) :
    (fieldsToJson fields).map Prod.fst = fields.map Prod.fst := by
  induction fields with
  | nil => rfl
  | cons entry rest ih =>
      obtain ⟨name, field⟩ := entry
      rw [fieldsToJson, List.map_cons, List.map_cons, ih]

mutual

/-- In the plain data of a tidy tree no object has two members of one name. -/
theorem namesDistinctWithin_toJson : (tree : Tree) → tree.isTidy = true → NamesDistinctWithin tree.toJson
  | .node kind line fields, htidy => by
      obtain ⟨-, hnames, hfields⟩ := isTidy_node_iff.mp htidy
      have hinner : NamesDistinctWithin (.object (fieldsToJson fields)) := by
        refine .object ?_ (namesDistinctWithin_fieldsToJson fields hfields)
        rw [NamesDistinct, fst_fieldsToJson]
        exact hnames
      rw [toJson]
      refine .object (by simp [NamesDistinct]) ?_
      simp only [List.forall_mem_cons, List.not_mem_nil, false_imp_iff, implies_true, and_true]
      exact ⟨.string kind, .int line, hinner⟩

theorem namesDistinctWithin_fieldsToJson : (fields : List (String × Field)) → areTidy fields = true →
    ∀ member ∈ fieldsToJson fields, NamesDistinctWithin member.2
  | [], _ => nofun
  | (name, field) :: rest, htidy => by
      obtain ⟨-, hfield, hrest⟩ := areTidy_cons_iff.mp htidy
      rw [fieldsToJson, List.forall_mem_cons]
      exact ⟨namesDistinctWithin_fieldToJson field hfield, namesDistinctWithin_fieldsToJson rest hrest⟩

theorem namesDistinctWithin_fieldToJson : (field : Field) → field.isTidy = true →
    NamesDistinctWithin field.toJson
  | .tree child, htidy => namesDistinctWithin_toJson child htidy
  | .list items, htidy => .list (namesDistinctWithin_itemsToJson items htidy)
  | .data _, htidy => namesDistinctWithin_of_isSingle htidy

theorem namesDistinctWithin_itemsToJson : (items : List Field) → areTidyItems items = true →
    ∀ item ∈ itemsToJson items, NamesDistinctWithin item
  | [], _ => nofun
  | item :: rest, htidy => by
      obtain ⟨hitem, hrest⟩ := Bool.and_eq_true_iff.mp htidy
      rw [itemsToJson, List.forall_mem_cons]
      exact ⟨namesDistinctWithin_fieldToJson item hitem, namesDistinctWithin_itemsToJson rest hrest⟩

end

mutual

/-- Tidy data without a tree hold no nodes. -/
theorem heads_toJson_of_isPlain : (field : Field) → field.isPlain = true → field.isTidy = true →
    field.toJson.heads = []
  | .tree _, hplain, _ => nomatch hplain
  | .list items, hplain, htidy => by
      rw [Field.toJson, heads, itemHeads_of_arePlain items hplain htidy]
  | .data _, _, htidy => heads_of_isSingle htidy

theorem itemHeads_of_arePlain : (items : List Field) → arePlain items = true →
    areTidyItems items = true → itemHeads (itemsToJson items) = []
  | [], _, _ => rfl
  | item :: rest, hplain, htidy => by
      obtain ⟨hitem, hrest⟩ := Bool.and_eq_true_iff.mp hplain
      obtain ⟨htidyItem, htidyRest⟩ := Bool.and_eq_true_iff.mp htidy
      rw [itemsToJson, itemHeads, heads_toJson_of_isPlain item hitem htidyItem,
        itemHeads_of_arePlain rest hrest htidyRest]
      rfl

end

mutual

/-- The plain data of a shallow and tidy tree hold the nodes of its walk, in order. -/
theorem heads_toJson : (tree : Tree) → tree.isShallow = true → tree.isTidy = true →
    tree.toJson.heads = tree.walk.map head
  | .node kind line fields, hshallow, htidy => by
      obtain ⟨-, -, hfields⟩ := isTidy_node_iff.mp htidy
      rw [toJson, heads, walk, List.map_cons, memberHeads_fieldsToJson fields hshallow hfields]
      rfl

theorem memberHeads_fieldsToJson : (fields : List (String × Field)) → areShallow fields = true →
    areTidy fields = true → memberHeads (fieldsToJson fields) = (walkFields fields).map head
  | [], _, _ => rfl
  | (name, .tree child) :: rest, hshallow, htidy => by
      obtain ⟨hchild, hrest⟩ := Bool.and_eq_true_iff.mp hshallow
      obtain ⟨-, htidyChild, htidyRest⟩ := areTidy_cons_iff.mp htidy
      rw [fieldsToJson, Field.toJson, memberHeads, walkFields, List.map_append,
        heads_toJson child hchild htidyChild, memberHeads_fieldsToJson rest hrest htidyRest]
  | (name, .list items) :: rest, hshallow, htidy => by
      obtain ⟨hitems, hrest⟩ := Bool.and_eq_true_iff.mp hshallow
      obtain ⟨-, htidyItems, htidyRest⟩ := areTidy_cons_iff.mp htidy
      rw [fieldsToJson, Field.toJson, memberHeads, heads, walkFields, List.map_append,
        itemHeads_itemsToJson items hitems htidyItems, memberHeads_fieldsToJson rest hrest htidyRest]
  | (name, .data value) :: rest, hshallow, htidy => by
      obtain ⟨-, hsingle, htidyRest⟩ := areTidy_cons_iff.mp htidy
      rw [fieldsToJson, Field.toJson, memberHeads, heads_of_isSingle hsingle, List.nil_append, walkFields,
        memberHeads_fieldsToJson rest hshallow htidyRest]

theorem itemHeads_itemsToJson : (items : List Field) → areShallowItems items = true →
    areTidyItems items = true → itemHeads (itemsToJson items) = (walkItems items).map head
  | [], _, _ => rfl
  | .tree child :: rest, hshallow, htidy => by
      obtain ⟨hchild, hrest⟩ := Bool.and_eq_true_iff.mp hshallow
      obtain ⟨htidyChild, htidyRest⟩ := Bool.and_eq_true_iff.mp htidy
      rw [itemsToJson, Field.toJson, itemHeads, walkItems, List.map_append,
        heads_toJson child hchild htidyChild, itemHeads_itemsToJson rest hrest htidyRest]
  | .list items :: rest, hshallow, htidy => by
      obtain ⟨hitem, hrest⟩ := Bool.and_eq_true_iff.mp hshallow
      obtain ⟨htidyItem, htidyRest⟩ := Bool.and_eq_true_iff.mp htidy
      rw [itemsToJson, itemHeads, heads_toJson_of_isPlain (.list items) hitem htidyItem,
        itemHeads_itemsToJson rest hrest htidyRest]
      rfl
  | .data value :: rest, hshallow, htidy => by
      obtain ⟨hitem, hrest⟩ := Bool.and_eq_true_iff.mp hshallow
      obtain ⟨htidyItem, htidyRest⟩ := Bool.and_eq_true_iff.mp htidy
      rw [itemsToJson, itemHeads, heads_toJson_of_isPlain (.data value) hitem htidyItem,
        itemHeads_itemsToJson rest hrest htidyRest]
      rfl

end

/-! ### Integers -/

mutual

/-- Plain data hold the integers of their field. -/
theorem integers_toJson_of_isPlain : (field : Field) → field.isPlain = true →
    field.toJson.integers = field.integers
  | .tree _, hplain => nomatch hplain
  | .list items, hplain => itemIntegers_of_arePlain items hplain
  | .data _, _ => rfl

theorem itemIntegers_of_arePlain : (items : List Field) → arePlain items = true →
    Json.itemIntegers (itemsToJson items) = itemIntegers items
  | [], _ => rfl
  | item :: rest, hplain => by
      obtain ⟨hitem, hrest⟩ := Bool.and_eq_true_iff.mp hplain
      rw [itemsToJson, Json.itemIntegers, itemIntegers, integers_toJson_of_isPlain item hitem,
        itemIntegers_of_arePlain rest hrest]

end

section Integers

variable {p : Int → Prop}

mutual

/-- In the plain data of a shallow tree there are no integers but those in its fields and the lines of its
nodes. -/
theorem forall_mem_integers_toJson : (tree : Tree) → tree.isShallow = true →
    (∀ node ∈ tree.walk, p node.line) → (∀ n ∈ tree.integers, p n) → ∀ n ∈ tree.toJson.integers, p n
  | .node kind line fields, hshallow, hlines, hintegers => by
      rw [walk, List.forall_mem_cons] at hlines
      have hfields := forall_mem_fieldsToJson fields hshallow hlines.2 hintegers
      simpa [toJson, Json.integers, Json.memberIntegers] using ⟨hlines.1, hfields⟩

theorem forall_mem_fieldsToJson : (fields : List (String × Field)) → areShallow fields = true →
    (∀ node ∈ walkFields fields, p node.line) → (∀ n ∈ fieldIntegers fields, p n) →
    ∀ n ∈ Json.memberIntegers (fieldsToJson fields), p n
  | [], _, _, _ => nofun
  | (name, .tree child) :: rest, hshallow, hlines, hintegers => by
      obtain ⟨hchild, hrest⟩ := Bool.and_eq_true_iff.mp hshallow
      rw [walkFields, List.forall_mem_append] at hlines
      rw [fieldIntegers, List.forall_mem_append] at hintegers
      rw [fieldsToJson, Json.memberIntegers, List.forall_mem_append]
      exact ⟨forall_mem_integers_toJson child hchild hlines.1 hintegers.1,
        forall_mem_fieldsToJson rest hrest hlines.2 hintegers.2⟩
  | (name, .list items) :: rest, hshallow, hlines, hintegers => by
      obtain ⟨hitems, hrest⟩ := Bool.and_eq_true_iff.mp hshallow
      rw [walkFields, List.forall_mem_append] at hlines
      rw [fieldIntegers, List.forall_mem_append] at hintegers
      rw [fieldsToJson, Json.memberIntegers, List.forall_mem_append]
      exact ⟨forall_mem_itemsToJson items hitems hlines.1 hintegers.1,
        forall_mem_fieldsToJson rest hrest hlines.2 hintegers.2⟩
  | (name, .data value) :: rest, hshallow, hlines, hintegers => by
      rw [fieldIntegers, List.forall_mem_append] at hintegers
      rw [fieldsToJson, Json.memberIntegers, List.forall_mem_append]
      exact ⟨hintegers.1, forall_mem_fieldsToJson rest hshallow hlines hintegers.2⟩

theorem forall_mem_itemsToJson : (items : List Field) → areShallowItems items = true →
    (∀ node ∈ walkItems items, p node.line) → (∀ n ∈ itemIntegers items, p n) →
    ∀ n ∈ Json.itemIntegers (itemsToJson items), p n
  | [], _, _, _ => nofun
  | .tree child :: rest, hshallow, hlines, hintegers => by
      obtain ⟨hchild, hrest⟩ := Bool.and_eq_true_iff.mp hshallow
      rw [walkItems, List.forall_mem_append] at hlines
      rw [itemIntegers, List.forall_mem_append] at hintegers
      rw [itemsToJson, Json.itemIntegers, List.forall_mem_append]
      exact ⟨forall_mem_integers_toJson child hchild hlines.1 hintegers.1,
        forall_mem_itemsToJson rest hrest hlines.2 hintegers.2⟩
  | .list items :: rest, hshallow, hlines, hintegers
  | .data value :: rest, hshallow, hlines, hintegers => by
      obtain ⟨hitem, hrest⟩ := Bool.and_eq_true_iff.mp hshallow
      rw [itemIntegers, List.forall_mem_append] at hintegers
      rw [itemsToJson, Json.itemIntegers, List.forall_mem_append, integers_toJson_of_isPlain _ hitem]
      exact ⟨hintegers.1, forall_mem_itemsToJson rest hrest hlines hintegers.2⟩

end

end Integers

end Tree

end TemplateWorkbench
