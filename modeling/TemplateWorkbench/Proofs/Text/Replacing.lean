import TemplateWorkbench.Text.Search

/-!
# Replacing

A part of a text is replaced by cutting the text at the part and joining the pieces.  That comes to one
pass from left to right: where the part is at the front it gives way and the pass goes on behind it, and
otherwise one character stays.

* `replace_append` and `replace_cons` : the two steps of the pass
-/

namespace TemplateWorkbench.Text

variable {part other rest text : List Char} {c : Char}

/-! ### Where a part is -/

theorem find?_go_eq (part : List Char) (base : Nat) (text : List Char) :
    find?.go part base text = (find? part text).map (· + base) := by
  induction text generalizing base with
  | nil =>
      rw [find?, find?.go, find?.go]
      split <;> simp
  | cons c rest ih =>
      rw [find?, find?.go, find?.go, ih (base + 1), ih (0 + 1)]
      split
      · simp
      · rw [Option.map_map]
        congr 1
        funext offset
        simp only [Function.comp_apply]
        omega

/-- A part that is at the front of a text is found there. -/
theorem find?_append (part rest : List Char) : find? part (part ++ rest) = some 0 := by
  have hfront : part.isPrefixOf (part ++ rest) = true :=
    List.isPrefixOf_iff_prefix.mpr (List.prefix_append _ _)
  rw [find?, find?.go.eq_def, if_pos hfront]

/-- A part that is not at the front of a text is looked for behind the first character. -/
theorem find?_cons (hmiss : part.isPrefixOf (c :: rest) = false) :
    find? part (c :: rest) = (find? part rest).map (· + 1) := by
  rw [find?, find?.go, hmiss, find?_go_eq]
  rfl

/-- All of the part that is found is in the text. -/
theorem add_length_le_of_find? {offset : Nat} (hfound : find? part text = some offset) :
    offset + part.length ≤ text.length := by
  induction text generalizing offset with
  | nil =>
      rw [find?, find?.go] at hfound
      split at hfound
      · next hfront =>
          cases hfound
          simpa using (List.isPrefixOf_iff_prefix.mp hfront).length_le
      · cases hfound
  | cons c rest ih =>
      cases hfront : part.isPrefixOf (c :: rest) with
      | true =>
          rw [find?, find?.go, if_pos hfront] at hfound
          cases hfound
          simpa using (List.isPrefixOf_iff_prefix.mp hfront).length_le
      | false =>
          rw [find?_cons hfront, Option.map_eq_some_iff] at hfound
          obtain ⟨before, hbefore, rfl⟩ := hfound
          have hle := ih hbefore
          rw [List.length_cons]
          omega

/-- Where two characters are not at the front of a text. -/
theorem isPrefixOf_pair_eq_false {first second : Char}
    (hother : ∀ more, c = first → rest = second :: more → False) :
    [first, second].isPrefixOf (c :: rest) = false := by
  refine Bool.eq_false_iff.mpr fun hfront => ?_
  obtain ⟨more, hmore⟩ := List.isPrefixOf_iff_prefix.mp hfront
  obtain ⟨rfl, rfl⟩ := List.cons.inj hmore
  exact hother more rfl rfl

/-! ### Pieces -/

theorem splitOn_ne_nil (part : List Char) (fuel : Nat) (limit : Option Nat) (text : List Char) :
    splitOn part fuel limit text ≠ [] := by
  cases fuel with
  | zero => exact List.cons_ne_nil _ _
  | succ fuel =>
      rw [splitOn]
      split
      · exact List.cons_ne_nil _ _
      · split <;> exact List.cons_ne_nil _ _

/-- Fuel beyond the number of characters is inert. -/
theorem splitOn_eq_of_lt (hne : part ≠ []) {fuel more : Nat} (hfuel : text.length < fuel)
    (hmore : text.length < more) : splitOn part fuel none text = splitOn part more none text := by
  induction fuel generalizing text more with
  | zero => omega
  | succ fuel ih =>
      obtain ⟨more, rfl⟩ : ∃ n, more = n + 1 := ⟨more - 1, by omega⟩
      rw [splitOn, splitOn]
      split
      · rfl
      · split
        · rfl
        · next offset hfound =>
            have hle := add_length_le_of_find? hfound
            have hpos := List.length_pos_iff.mpr hne
            have hdrop : (text.drop (offset + part.length)).length + 1 ≤ text.length := by
              rw [List.length_drop]
              omega
            exact congrArg (text.take offset :: ·) (ih (by omega) (by omega))

/-- A text is cut at the first place where a part is, and then behind it. -/
theorem split_eq (hne : part ≠ []) (text : List Char) :
    split part none text =
      match find? part text with
      | none => [text]
      | some offset => text.take offset :: split part none (text.drop (offset + part.length)) := by
  rw [split, splitOn, if_neg (by simpa using hne)]
  cases hfound : find? part text with
  | none => rfl
  | some offset =>
      have hle := add_length_le_of_find? hfound
      have hpos := List.length_pos_iff.mpr hne
      have hdrop : (text.drop (offset + part.length)).length < text.length := by
        rw [List.length_drop]
        omega
      simp only [lessOne, split]
      rw [splitOn_eq_of_lt hne hdrop (Nat.lt_succ_self _)]

/-! ### The pass -/

theorem intercalate_split_cons (first : List Char) (part other text : List Char) :
    List.intercalate other (first :: split part none text) =
      first ++ other ++ List.intercalate other (split part none text) := by
  obtain ⟨second, others, hpieces⟩ :=
    List.exists_cons_of_ne_nil (splitOn_ne_nil part (text.length + 1) none text)
  rw [split, hpieces, List.intercalate_cons_cons]

theorem replace_eq (hne : part ≠ []) (other text : List Char) :
    replace part other none text = List.intercalate other (split part none text) := by
  rw [replace, if_neg (by simpa using hne)]

/-- The part at the front of a text gives way, -/
theorem replace_append (hne : part ≠ []) (other rest : List Char) :
    replace part other none (part ++ rest) = other ++ replace part other none rest := by
  rw [replace_eq hne, replace_eq hne, split_eq hne, find?_append]
  simp only [List.take_zero, Nat.zero_add, List.drop_left]
  exact intercalate_split_cons [] part other rest

/-- a character that the part does not begin with stays, -/
theorem replace_cons (hne : part ≠ []) (hmiss : part.isPrefixOf (c :: rest) = false)
    (other : List Char) : replace part other none (c :: rest) = c :: replace part other none rest := by
  rw [replace_eq hne, replace_eq hne, split_eq hne (c :: rest), split_eq hne rest, find?_cons hmiss]
  cases find? part rest with
  | none => simp [List.intercalate_singleton]
  | some offset =>
      simp only [Option.map_some, List.take_succ_cons]
      rw [Nat.add_right_comm, List.drop_succ_cons, intercalate_split_cons, intercalate_split_cons]
      rfl

/-- and at the end of the text the pass is over. -/
theorem replace_nil (hne : part ≠ []) (other : List Char) : replace part other none [] = [] := by
  have hmiss : part.isPrefixOf [] = false := by
    cases part with
    | nil => exact absurd rfl hne
    | cons c part => rfl
  rw [replace_eq hne, split_eq hne, find?, find?.go, hmiss]
  rfl

end TemplateWorkbench.Text
