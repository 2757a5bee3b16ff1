import Mathlib.Data.List.Nodup
import Mathlib.Data.List.Perm.Basic
import TemplateWorkbench.Json.Basic

/-!
# Members of objects

Members are kept as an association list.  To put a member changes the value of one name and nothing
else, and it keeps names distinct.  A list with distinct names is told by what it holds under each
name, up to its order.
-/

namespace TemplateWorkbench.Json

variable {α β : Type} [BEq α] [LawfulBEq α]

/-- The names of members are distinct. -/
def NamesDistinct (members : List (α × β)) : Prop := (members.map Prod.fst).Nodup

/-! ### Looking up -/

omit [LawfulBEq α] in
theorem lookup_cons (name other : α) (value : β) (rest : List (α × β)) :
    ((other, value) :: rest).lookup name = if name == other then some value else rest.lookup name := by
  rw [List.lookup_cons]
  split <;> simp_all

theorem lookup_eq_none {members : List (α × β)} {name : α} (hname : name ∉ members.map Prod.fst) :
    members.lookup name = none := by
  induction members with
  | nil => rfl
  | cons member rest ih =>
      rw [List.map_cons, List.mem_cons, not_or] at hname
      rw [lookup_cons, if_neg (by simpa using hname.1), ih hname.2]

theorem mem_of_lookup_eq_some {members : List (α × β)} {name : α} {value : β}
    (hlookup : members.lookup name = some value) : (name, value) ∈ members := by
  induction members with
  | nil => cases hlookup
  | cons member rest ih =>
      rw [lookup_cons] at hlookup
      split at hlookup
      · next hname =>
          cases hlookup
          rw [eq_of_beq hname]
          exact List.mem_cons_self
      · exact List.mem_cons_of_mem _ (ih hlookup)

/-- Something is found under the name of a member. -/
theorem exists_lookup {members : List (α × β)} {name : α} (hname : name ∈ members.map Prod.fst) :
    ∃ value, members.lookup name = some value := by
  induction members with
  | nil => cases hname
  | cons member rest ih =>
      rw [lookup_cons]
      split
      · exact ⟨member.2, rfl⟩
      · next hother =>
          rw [List.map_cons, List.mem_cons] at hname
          exact ih (hname.resolve_left (by simpa using hother))

/-- With distinct names every member is found under its name. -/
theorem lookup_of_mem {members : List (α × β)} (hdistinct : NamesDistinct members) {name : α}
    {value : β} (hmem : (name, value) ∈ members) : members.lookup name = some value := by
  induction members with
  | nil => cases hmem
  | cons member rest ih =>
      obtain ⟨hfirst, hrest⟩ := List.nodup_cons.mp hdistinct
      rw [lookup_cons]
      rcases List.mem_cons.mp hmem with rfl | htail
      · rw [if_pos (beq_self_eq_true name)]
      · have hname : name ≠ member.1 := by
          rintro rfl
          exact hfirst (List.mem_map.mpr ⟨_, htail, rfl⟩)
        rw [if_neg (by simpa using hname), ih hrest htail]

/-- The order of members with distinct names does not matter. -/
theorem lookup_eq_of_perm {members others : List (α × β)} (hperm : members.Perm others)
    (hdistinct : NamesDistinct members) (name : α) : members.lookup name = others.lookup name := by
  have hothers : NamesDistinct others := (hperm.map Prod.fst).nodup_iff.mp hdistinct
  cases hlookup : members.lookup name with
  | some value => exact (lookup_of_mem hothers (hperm.subset (mem_of_lookup_eq_some hlookup))).symm
  | none =>
      cases hother : others.lookup name with
      | none => rfl
      | some value =>
          have hmem := hperm.symm.subset (mem_of_lookup_eq_some hother)
          rw [lookup_of_mem hdistinct hmem] at hlookup
          cases hlookup

/-- Members with distinct names are the same, up to their order, if the same is found under every name. -/
theorem perm_of_lookup_eq {members others : List (α × β)} (hdistinct : NamesDistinct members)
    (hothers : NamesDistinct others) (hsame : ∀ name, members.lookup name = others.lookup name) :
    members.Perm others := by
  refine (List.perm_ext_iff_of_nodup (.of_map _ hdistinct) (.of_map _ hothers)).mpr fun member => ?_
  constructor
  · intro hmem
    exact mem_of_lookup_eq_some ((hsame member.1).symm.trans (lookup_of_mem hdistinct hmem))
  · intro hmem
    exact mem_of_lookup_eq_some ((hsame member.1).trans (lookup_of_mem hothers hmem))

/-! ### Putting a member -/

theorem lookup_putMember (name other : α) (value : β) (members : List (α × β)) :
    (putMember name value members).lookup other =
      if other == name then some value else members.lookup other := by
  induction members with
  | nil => rw [putMember, lookup_cons]
  | cons member rest ih =>
      rw [putMember]
      split
      · next hname =>
          rw [lookup_cons, lookup_cons, eq_of_beq hname]
          split <;> rfl
      · next hname =>
          rw [lookup_cons, lookup_cons, ih]
          split
          · next hother =>
              rw [eq_of_beq hother, if_neg (by simpa using hname)]
          · rfl

theorem map_fst_putMember (name : α) (value : β) (members : List (α × β)) :
    (putMember name value members).map Prod.fst =
      if name ∈ members.map Prod.fst then members.map Prod.fst
      else members.map Prod.fst ++ [name] := by
  induction members with
  | nil => rfl
  | cons member rest ih =>
      rw [putMember]
      split
      · next hname => simp [(eq_of_beq hname).symm]
      · next hname =>
          have hne : ¬ name = member.1 := fun heq => hname (beq_iff_eq.mpr heq.symm)
          rw [List.map_cons, ih]
          split <;> simp_all

theorem namesDistinct_putMember {members : List (α × β)} (hdistinct : NamesDistinct members)
    (name : α) (value : β) : NamesDistinct (putMember name value members) := by
  rw [NamesDistinct, map_fst_putMember]
  split
  · exact hdistinct
  · next hname =>
      refine List.nodup_append.mpr ⟨hdistinct, List.nodup_singleton name, ?_⟩
      rintro a ha b hb rfl
      exact hname (List.mem_singleton.mp hb ▸ ha)

/-- A new member comes last. -/
theorem putMember_of_notMem {members : List (α × β)} {name : α} (hname : name ∉ members.map Prod.fst)
    (value : β) : putMember name value members = members ++ [(name, value)] := by
  induction members with
  | nil => rfl
  | cons member rest ih =>
      rw [List.map_cons, List.mem_cons, not_or] at hname
      rw [putMember, if_neg (fun heq => hname.1 (eq_of_beq heq).symm), ih hname.2, List.cons_append]

omit [LawfulBEq α] in
theorem mem_putMember {members : List (α × β)} {name : α} {value : β} {member : α × β}
    (hmem : member ∈ putMember name value members) : member ∈ members ∨ member.2 = value := by
  induction members with
  | nil =>
      rw [putMember, List.mem_singleton] at hmem
      exact .inr (by rw [hmem])
  | cons first rest ih =>
      rw [putMember] at hmem
      split at hmem
      · rcases List.mem_cons.mp hmem with rfl | hrest
        · exact .inr rfl
        · exact .inl (List.mem_cons_of_mem _ hrest)
      · rcases List.mem_cons.mp hmem with rfl | hrest
        · exact .inl List.mem_cons_self
        · rcases ih hrest with hold | hnew
          · exact .inl (List.mem_cons_of_mem _ hold)
          · exact .inr hnew

/-! ### Taking a member away -/

theorem lookup_filter_ne (name other : α) (members : List (α × β)) :
    (members.filter fun member => member.1 != name).lookup other =
      if other == name then none else members.lookup other := by
  induction members with
  | nil => simp
  | cons member rest ih =>
      rw [lookup_cons]
      by_cases hname : member.1 = name
      · rw [List.filter_cons_of_neg (by simp [hname]), ih, hname]
        split <;> rfl
      · rw [List.filter_cons_of_pos (by simpa using hname), lookup_cons, ih]
        by_cases hother : other = member.1
        · rw [if_pos (beq_iff_eq.mpr hother), if_neg (by simpa [hother] using hname),
            if_pos (beq_iff_eq.mpr hother)]
        · have hbeq : ¬ (other == member.1) = true := by simpa using hother
          rw [if_neg hbeq, if_neg hbeq]

omit [BEq α] [LawfulBEq α] in
theorem namesDistinct_filter {members : List (α × β)} (hdistinct : NamesDistinct members)
    (keep : α × β → Bool) : NamesDistinct (members.filter keep) :=
  hdistinct.sublist (List.filter_sublist.map Prod.fst)

/-! ### The last member of a name -/

theorem namesDistinct_lastWins (members : List (α × β)) : NamesDistinct (lastWins members) := by
  have hfold (kept : List (α × β)) (hkept : NamesDistinct kept) : NamesDistinct
      (members.foldl (fun kept member => putMember member.1 member.2 kept) kept) := by
    induction members generalizing kept with
    | nil => exact hkept
    | cons member rest ih => exact ih _ (namesDistinct_putMember hkept member.1 member.2)
  exact hfold [] List.nodup_nil

/-- Members with distinct names stay as they are. -/
theorem lastWins_eq_self {members : List (α × β)} (hdistinct : NamesDistinct members) :
    lastWins members = members := by
  -- What has been kept so far has to be told apart from what is still to come.
  have hfold (kept : List (α × β)) (hall : NamesDistinct (kept ++ members)) :
      members.foldl (fun kept member => putMember member.1 member.2 kept) kept = kept ++ members := by
    induction members generalizing kept with
    | nil => simp
    | cons member rest ih =>
        have hnew : member.1 ∉ kept.map Prod.fst := by
          rw [NamesDistinct, List.map_append, List.map_cons] at hall
          exact fun hmem => (List.nodup_append.mp hall).2.2 _ hmem _ List.mem_cons_self rfl
        have hstep : kept ++ [(member.1, member.2)] ++ rest = kept ++ member :: rest := by simp
        rw [List.foldl_cons, putMember_of_notMem hnew,
          ih (List.nodup_cons.mp hdistinct).2 _ (by rwa [hstep]), hstep]
  exact hfold [] hdistinct

omit [LawfulBEq α] in
theorem mem_foldl_putMember {members kept : List (α × β)} {member : α × β}
    (hmem : member ∈ members.foldl (fun kept member => putMember member.1 member.2 kept) kept) :
    member ∈ kept ∨ ∃ given ∈ members, given.2 = member.2 := by
  induction members generalizing kept with
  | nil => exact .inl hmem
  | cons first rest ih =>
      rcases ih hmem with hkept | ⟨given, hgiven, hvalue⟩
      · rcases mem_putMember hkept with hold | hnew
        · exact .inl hold
        · exact .inr ⟨first, List.mem_cons_self, hnew.symm⟩
      · exact .inr ⟨given, List.mem_cons_of_mem _ hgiven, hvalue⟩

omit [LawfulBEq α] in
/-- The values that are kept are among those that were given. -/
theorem exists_mem_of_mem_lastWins {members : List (α × β)} {member : α × β}
    (hmem : member ∈ lastWins members) : ∃ given ∈ members, given.2 = member.2 := by
  rcases mem_foldl_putMember hmem with hnone | hsome
  · cases hnone
  · exact hsome

end TemplateWorkbench.Json
