import Mathlib.Data.List.Perm.Basic
import TemplateWorkbench.Proofs.Json.OneLine
import TemplateWorkbench.Proofs.Outline.Nodes

/-!
# The lines of an outline

An outline has three sorts of lines: the headers of nodes, lines for fields, and lines for what stands
beside nodes in a list.  `parts` lists what the lines are for, in the order in which they come; every part
says by itself what its line is.  The headers are those of the walk, and every node on the walk has the
lines that its own fields ask for and no others.
-/

namespace TemplateWorkbench.Tree

open Results

/-! ### Parts -/

/-- Whether a field shows a node, by itself or among the items of a list. -/
def Field.showsNode : Field → Bool
  | .tree _ => true
  | .list items => items.any (·.tree?.isSome)
  | .data _ => false

/-- What stands beside nodes in a list. -/
def Field.loose : Field → List Field
  | .list items => if items.any (·.tree?.isSome) then items.filter (·.tree?.isNone) else []
  | .tree _ | .data _ => []

/-- What a line of an outline is for; the level is that of the node. -/
inductive Part where
  | header (level : Nat) (tree : Tree)
  | field (level : Nat) (name : String) (content : Field)
  | item (level : Nat) (content : Field)

/-- So many blanks. -/
def blanks (count : Nat) : String := String.ofList (List.replicate count ' ')

/-- The line of a part.  A level is four blanks. -/
def Part.text : Part → Except OutlineFault String
  | .header level tree => .ok (blanks (4 * level) ++ (tree.kind ++ " @" ++ toString tree.line))
  | .field level name content =>
    if content.showsNode then .ok (blanks (4 * level + 2) ++ (name ++ ":"))
    else do pure (blanks (4 * level + 2) ++ (name ++ ": " ++ String.ofList (← content.text)))
  | .item level content => do pure (blanks (4 * level + 4) ++ String.ofList (← content.text))

/-- The node of a header, with its level. -/
def Part.header? : Part → Option (Nat × Tree)
  | .header level tree => some (level, tree)
  | .field _ _ _ | .item _ _ => none

/-- The parts that fields have on their own: their lines, and what stands beside nodes in them. -/
def ownFieldParts (level : Nat) (fields : List (String × Field)) : List Part :=
  fields.flatMap fun field => .field level field.1 field.2 :: field.2.loose.map (.item level)

/-- The parts that a node at a level has on its own: its header, and the parts of its fields. -/
def ownParts (entry : Nat × Tree) : List Part :=
  .header entry.1 entry.2 :: ownFieldParts entry.1 entry.2.fields

mutual

/-- The parts of a tree in the order of their lines. -/
def parts (level : Nat) : Tree → List Part
  | .node kind line fields => .header level (.node kind line fields) :: fieldParts level fields

/-- The parts of fields. -/
def fieldParts (level : Nat) : List (String × Field) → List Part
  | [] => []
  | (name, .tree child) :: rest =>
    .field level name (.tree child) :: child.parts (level + 1) ++ fieldParts level rest
  | (name, .list items) :: rest =>
    .field level name (.list items) ::
      (if items.any (·.tree?.isSome) then itemParts level items else []) ++ fieldParts level rest
  | (name, .data value) :: rest => .field level name (.data value) :: fieldParts level rest

/-- The parts of the items of a list that holds a node. -/
def itemParts (level : Nat) : List Field → List Part
  | [] => []
  | .tree child :: rest => child.parts (level + 1) ++ itemParts level rest
  | .list items :: rest => .item level (.list items) :: itemParts level rest
  | .data value :: rest => .item level (.data value) :: itemParts level rest

end

/-! ### Lines -/

theorem outlineLine_even (half : Nat) (text : String) :
    outlineLine (2 * half) text = blanks (4 * half) ++ text := by
  rw [outlineLine, blanks, ← Nat.mul_assoc]

theorem outlineLine_odd (half : Nat) (text : String) :
    outlineLine (2 * half + 1) text = blanks (4 * half + 2) ++ text := by
  rw [outlineLine, blanks, Nat.mul_add, ← Nat.mul_assoc]

theorem dataLine_even (half : Nat) (field : Field) :
    dataLine (2 * half + 2) "" field = (Part.item half field).text := by
  have hline (text : String) : outlineLine (2 * half + 2) text = blanks (4 * half + 4) ++ text :=
    outlineLine_even (half + 1) text
  simp only [dataLine, Part.text, hline, String.empty_append]

theorem dataLine_odd (half : Nat) (name : String) {field : Field} (hshows : field.showsNode = false) :
    dataLine (2 * half + 1) s!"{name}: " field = (Part.field half name field).text := by
  simp only [dataLine, Part.text, hshows, outlineLine_odd]
  rfl

theorem outlineLine_field (half : Nat) (name : String) {field : Field} (hshows : field.showsNode = true) :
    (Part.field half name field).text = .ok (outlineLine (2 * half + 1) s!"{name}:") := by
  rw [Part.text, if_pos hshows, outlineLine_odd]
  rfl

mutual

/-- The lines of an outline are those of the parts. -/
theorem outlineLines_eq (level : Nat) : (tree : Tree) →
    tree.outlineLines (2 * level) = (tree.parts level).mapM Part.text
  | .node kind line fields => by
      rw [outlineLines, parts, List.mapM_cons, Part.text, outlineFields_eq level fields,
        outlineLine_even]
      rfl

theorem outlineFields_eq (level : Nat) : (fields : List (String × Field)) →
    outlineFields (2 * level) fields = (fieldParts level fields).mapM Part.text
  | [] => rfl
  | (name, .tree child) :: rest => by
      rw [outlineFields, fieldParts, List.cons_append, List.mapM_cons, List.mapM_append,
        ← outlineLines_eq (level + 1) child, ← outlineFields_eq level rest,
        outlineLine_field level name rfl, Nat.mul_succ]
      simp only [bind_assoc, pure_bind]
      rfl
  | (name, .list items) :: rest => by
      rw [outlineFields, fieldParts, List.cons_append, List.mapM_cons, List.mapM_append,
        ← outlineFields_eq level rest]
      cases hany : items.any (·.tree?.isSome) with
      | true =>
          have hshows : (Field.list items).showsNode = true := hany
          rw [outlineLine_field level name hshows, if_pos rfl, if_pos rfl, ← outlineItems_eq level items]
          simp only [bind_assoc, pure_bind]
          rfl
      | false =>
          have hshows : (Field.list items).showsNode = false := hany
          rw [dataLine_odd level name hshows, if_neg Bool.false_ne_true, if_neg Bool.false_ne_true]
          simp only [bind_assoc, pure_bind]
          rfl
  | (name, .data value) :: rest => by
      rw [outlineFields, fieldParts, List.mapM_cons, ← outlineFields_eq level rest, dataLine_odd level name rfl]

theorem outlineItems_eq (level : Nat) : (items : List Field) →
    outlineItems (2 * level) items = (itemParts level items).mapM Part.text
  | [] => rfl
  | .tree child :: rest => by
      rw [outlineItems, itemParts, List.mapM_append, ← outlineLines_eq (level + 1) child,
        ← outlineItems_eq level rest]
      rfl
  | .list items :: rest => by
      rw [outlineItems, itemParts, List.mapM_cons, dataLine_even, outlineItems_eq level rest]
      exact nofun
  | .data value :: rest => by
      rw [outlineItems, itemParts, List.mapM_cons, dataLine_even, outlineItems_eq level rest]
      exact nofun

end

/-! ### Headers -/

theorem walkItemsFrom_of_none {items : List Field} (hnone : items.any (·.tree?.isSome) = false)
    (level : Nat) : walkItemsFrom level items = [] := by
  induction items with
  | nil => rfl
  | cons item rest ih =>
      obtain ⟨hitem, hrest⟩ := Bool.or_eq_false_iff.mp hnone
      cases item with
      | tree child => cases hitem
      | list items | data value => exact ih hrest

mutual

/-- The headers among the parts are those of the walk, in its order. -/
theorem headers_parts (level : Nat) : (tree : Tree) →
    (tree.parts level).filterMap Part.header? = tree.walkFrom level
  | .node kind line fields => by
      rw [parts, walkFrom, ← headers_fieldParts level fields]
      rfl

theorem headers_fieldParts (level : Nat) : (fields : List (String × Field)) →
    (fieldParts level fields).filterMap Part.header? = walkFieldsFrom (level + 1) fields
  | [] => rfl
  | (name, .tree child) :: rest => by
      rw [fieldParts, walkFieldsFrom, List.cons_append, List.filterMap_cons_none rfl,
        List.filterMap_append, headers_parts (level + 1) child, headers_fieldParts level rest]
  | (name, .list items) :: rest => by
      rw [fieldParts, walkFieldsFrom, List.cons_append, List.filterMap_cons_none rfl,
        List.filterMap_append, headers_fieldParts level rest]
      cases hany : items.any (·.tree?.isSome) with
      | true => rw [if_pos rfl, headers_itemParts level items]
      | false => rw [if_neg Bool.false_ne_true, walkItemsFrom_of_none hany, List.filterMap_nil]
  | (name, .data value) :: rest => by
      rw [fieldParts, walkFieldsFrom, List.filterMap_cons_none rfl, headers_fieldParts level rest]

theorem headers_itemParts (level : Nat) : (items : List Field) →
    (itemParts level items).filterMap Part.header? = walkItemsFrom (level + 1) items
  | [] => rfl
  | .tree child :: rest => by
      rw [itemParts, walkItemsFrom, List.filterMap_append, headers_parts (level + 1) child,
        headers_itemParts level rest]
  | .list _ :: rest | .data _ :: rest => by
      rw [itemParts, List.filterMap_cons_none rfl, headers_itemParts level rest]
      rfl

end

/-! ### The parts of each node -/

/-- What comes between can be put behind. -/
theorem perm_regroup {α : Type} (a b c d : List α) :
    ((a ++ b) ++ (c ++ d)).Perm ((a ++ c) ++ (b ++ d)) := by
  rw [List.append_assoc, List.append_assoc]
  exact (List.perm_append_comm_assoc b c d).append_left a

mutual

/-- The parts of a tree are those that the nodes of the walk have on their own. -/
theorem perm_parts (level : Nat) : (tree : Tree) →
    (tree.parts level).Perm ((tree.walkFrom level).flatMap ownParts)
  | .node kind line fields => by
      rw [parts, walkFrom, List.flatMap_cons, ownParts, List.cons_append]
      exact (perm_fieldParts level fields).cons _

theorem perm_fieldParts (level : Nat) : (fields : List (String × Field)) →
    (fieldParts level fields).Perm
      (ownFieldParts level fields ++ (walkFieldsFrom (level + 1) fields).flatMap ownParts)
  | [] => .nil
  | (name, .tree child) :: rest => by
      have hboth := (perm_parts (level + 1) child).append (perm_fieldParts level rest)
      rw [fieldParts, walkFieldsFrom, List.flatMap_append, ownFieldParts, List.flatMap_cons]
      exact (hboth.trans (perm_regroup [] _ _ _)).cons _
  | (name, .list items) :: rest => by
      rw [fieldParts, walkFieldsFrom, List.flatMap_append, ownFieldParts, List.flatMap_cons, Field.loose]
      cases hany : items.any (·.tree?.isSome) with
      | true =>
          rw [if_pos rfl, if_pos rfl]
          have hboth := (perm_itemParts level items).append (perm_fieldParts level rest)
          exact (hboth.trans (perm_regroup _ _ _ _)).cons _
      | false =>
          rw [if_neg Bool.false_ne_true, if_neg Bool.false_ne_true, walkItemsFrom_of_none hany]
          exact (perm_fieldParts level rest).cons _
  | (name, .data value) :: rest => (perm_fieldParts level rest).cons _

theorem perm_itemParts (level : Nat) : (items : List Field) →
    (itemParts level items).Perm ((items.filter (·.tree?.isNone)).map (.item level) ++
      (walkItemsFrom (level + 1) items).flatMap ownParts)
  | [] => .nil
  | .tree child :: rest => by
      have hboth := (perm_parts (level + 1) child).append (perm_itemParts level rest)
      rw [itemParts, walkItemsFrom, List.flatMap_append]
      exact hboth.trans (perm_regroup [] _ _ _)
  | .list items :: rest => (perm_itemParts level rest).cons _
  | .data value :: rest => (perm_itemParts level rest).cons _

end

/-! ### Line feeds -/

mutual

/-- Every node on the walk through a tidy tree is tidy. -/
theorem isTidy_of_mem_walk : (tree : Tree) → tree.isTidy = true → ∀ node ∈ tree.walk, node.isTidy = true
  | .node kind line fields, htidy => by
      rw [walk, List.forall_mem_cons]
      exact ⟨htidy, isTidy_of_mem_walkFields fields (isTidy_node_iff.mp htidy).2.2⟩

theorem isTidy_of_mem_walkFields : (fields : List (String × Field)) → areTidy fields = true →
    ∀ node ∈ walkFields fields, node.isTidy = true
  | [], _ => nofun
  | (name, .tree child) :: rest, htidy => by
      obtain ⟨-, hchild, hrest⟩ := areTidy_cons_iff.mp htidy
      rw [walkFields, List.forall_mem_append]
      exact ⟨isTidy_of_mem_walk child hchild, isTidy_of_mem_walkFields rest hrest⟩
  | (name, .list items) :: rest, htidy => by
      obtain ⟨-, hitems, hrest⟩ := areTidy_cons_iff.mp htidy
      rw [walkFields, List.forall_mem_append]
      exact ⟨isTidy_of_mem_walkItems items hitems, isTidy_of_mem_walkFields rest hrest⟩
  | (name, .data value) :: rest, htidy =>
      isTidy_of_mem_walkFields rest (areTidy_cons_iff.mp htidy).2.2

theorem isTidy_of_mem_walkItems : (items : List Field) → areTidyItems items = true →
    ∀ node ∈ walkItems items, node.isTidy = true
  | [], _ => nofun
  | .tree child :: rest, htidy => by
      obtain ⟨hchild, hrest⟩ := Bool.and_eq_true_iff.mp htidy
      rw [walkItems, List.forall_mem_append]
      exact ⟨isTidy_of_mem_walk child hchild, isTidy_of_mem_walkItems rest hrest⟩
  | .list _ :: rest, htidy | .data _ :: rest, htidy =>
      isTidy_of_mem_walkItems rest (Bool.and_eq_true_iff.mp htidy).2

end

mutual

/-- The text of a field holds no line feed. -/
theorem newline_notMem_text : (field : Field) → (chars : List Char) → field.text = .ok chars →
    '\n' ∉ chars
  | .tree _, _, htext => nomatch htext
  | .list items, chars, htext => by
      rw [Field.text] at htext
      cases hitems : textItems items with
      | error fault =>
          rw [hitems] at htext
          cases htext
      | ok written =>
          rw [hitems] at htext
          cases htext
          exact Json.newline_notMem_enclose (by decide) (by decide)
            (newline_notMem_textItems items written hitems)
  | .data value, chars, htext => by
      rw [Field.text] at htext
      cases hvalue : Json.writeChars .line 0 value with
      | error fault =>
          rw [hvalue] at htext
          cases htext
      | ok written =>
          rw [hvalue] at htext
          cases htext
          exact Json.newline_notMem_writeChars 0 value chars hvalue

theorem newline_notMem_textItems : (items : List Field) → (written : List (List Char)) →
    textItems items = .ok written → ∀ item ∈ written, '\n' ∉ item
  | [], _, rfl => nofun
  | item :: rest, written, htext => by
      obtain ⟨chars, hchars, hrest⟩ := bind_eq_ok_iff.mp htext
      obtain ⟨others, hothers, hlist⟩ := bind_eq_ok_iff.mp hrest
      cases hlist
      exact List.forall_mem_cons.mpr ⟨newline_notMem_text item chars hchars,
        newline_notMem_textItems rest others hothers⟩

end

theorem newline_notMem_blanks (count : Nat) : '\n' ∉ (blanks count).toList := by
  simp [blanks]

theorem newline_notMem_of_isOneLine {text : String} (hline : isOneLine text = true) :
    '\n' ∉ text.toList := by
  simpa [isOneLine] using hline

/-- What the line of a part shows of kinds and names is on one line. -/
def Part.isOneLine : Part → Bool
  | .header _ tree => Tree.isOneLine tree.kind
  | .field _ name _ => Tree.isOneLine name
  | .item _ _ => true

theorem newline_notMem_partText {part : Part} {line : String} (hpart : part.isOneLine = true)
    (htext : part.text = .ok line) : '\n' ∉ line.toList := by
  cases part with
  | header level tree =>
      cases htext
      have hline : '\n' ∉ (toString tree.line).toList :=
        Json.newline_notMem_of_areFigures (Number.areFigures_toString tree.line)
      simp only [String.toList_append, List.mem_append, not_or]
      exact ⟨newline_notMem_blanks _, ⟨newline_notMem_of_isOneLine hpart, by decide⟩, hline⟩
  | field level name content =>
      have hname : '\n' ∉ name.toList := newline_notMem_of_isOneLine hpart
      rw [Part.text] at htext
      split at htext
      · cases htext
        simp [newline_notMem_blanks, hname]
      · obtain ⟨chars, hchars, hline⟩ := bind_eq_ok_iff.mp htext
        cases hline
        simp [newline_notMem_blanks, hname, newline_notMem_text content chars hchars]
  | item level content =>
      obtain ⟨chars, hchars, hline⟩ := bind_eq_ok_iff.mp htext
      cases hline
      simp [newline_notMem_blanks, newline_notMem_text content chars hchars]

theorem isOneLine_of_mem_fields {fields : List (String × Field)} (htidy : areTidy fields = true) :
    ∀ field ∈ fields, isOneLine field.1 = true := by
  induction fields with
  | nil => exact nofun
  | cons entry rest ih =>
      obtain ⟨name, field⟩ := entry
      obtain ⟨hname, -, hrest⟩ := areTidy_cons_iff.mp htidy
      exact List.forall_mem_cons.mpr ⟨hname, ih hrest⟩

/-- A tidy node shows its kind and the names of its fields on one line. -/
theorem isOneLine_of_mem_ownParts {level : Nat} {node : Tree} (htidy : node.isTidy = true) :
    ∀ part ∈ ownParts (level, node), part.isOneLine = true := by
  obtain ⟨kind, line, fields⟩ := node
  obtain ⟨hkind, -, hfields⟩ := isTidy_node_iff.mp htidy
  refine List.forall_mem_cons.mpr ⟨hkind, fun part hpart => ?_⟩
  obtain ⟨field, hfield, hmem⟩ := List.mem_flatMap.mp hpart
  rcases List.mem_cons.mp hmem with rfl | hitem
  · exact isOneLine_of_mem_fields hfields field hfield
  · obtain ⟨item, -, rfl⟩ := List.mem_map.mp hitem
    rfl

/-- In a tidy tree the parts show kinds and names on one line. -/
theorem isOneLine_of_mem_parts {tree : Tree} (htidy : tree.isTidy = true) {level : Nat} :
    ∀ part ∈ tree.parts level, part.isOneLine = true := by
  intro part hpart
  obtain ⟨⟨depth, node⟩, hentry, hown⟩ := List.mem_flatMap.mp ((perm_parts level tree).mem_iff.mp hpart)
  have hnode : node ∈ tree.walk := by
    rw [← snd_walkFrom level tree]
    exact List.mem_map.mpr ⟨(depth, node), hentry, rfl⟩
  exact isOneLine_of_mem_ownParts (isTidy_of_mem_walk tree htidy node hnode) part hown

/-- The outline of a tidy tree is cut at its line feeds into one line for each part. -/
theorem forall₂_lines_of_outline {tree : Tree} (htidy : tree.isTidy = true) {text : String}
    (houtline : tree.outline = .ok text) :
    List.Forall₂ (fun part line => part.text = .ok (String.ofList line)) (tree.parts 0)
      (text.toList.splitOn '\n') := by
  obtain ⟨lines, hlines, htext⟩ := bind_eq_ok_iff.mp houtline
  cases htext
  have hparts : List.Forall₂ (fun part line => part.text = .ok line) (tree.parts 0) lines := by
    refine forall₂_of_mapM_eq_ok ?_
    rw [← outlineLines_eq]
    exact hlines
  have hfeeds : ∀ line ∈ lines.map String.toList, '\n' ∉ line := by
    refine List.forall_mem_map.mpr fun line hline => ?_
    obtain ⟨part, hpart, hshown⟩ := exists_of_forall₂_of_mem hparts hline
    exact newline_notMem_partText (isOneLine_of_mem_parts htidy part hpart) hshown
  have hsome : lines.map String.toList ≠ [] := by
    obtain ⟨kind, line, fields⟩ := tree
    cases hparts
    exact List.cons_ne_nil _ _
  have hsplit : ("\n".intercalate lines).toList.splitOn '\n' = lines.map String.toList := by
    rw [String.toList_intercalate]
    exact List.splitOn_intercalate '\n' hfeeds hsome
  rw [hsplit, List.forall₂_map_right_iff]
  exact hparts.imp fun part line hshown => by rw [String.ofList_toList]; exact hshown

end TemplateWorkbench.Tree
