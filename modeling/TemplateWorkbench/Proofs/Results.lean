import Mathlib.Data.List.Forall2

/-!
# Computations that may fail

A computation made of steps gives a result exactly when every step does.
-/

namespace TemplateWorkbench.Results

variable {ε α β : Type}

theorem map_eq_ok_iff {f : α → β} {result : Except ε α} {b : β} :
    result.map f = .ok b ↔ ∃ a, result = .ok a ∧ f a = b := by
  cases result <;> simp [Except.map]

theorem map_eq_error_iff {f : α → β} {result : Except ε α} {fault : ε} :
    result.map f = .error fault ↔ result = .error fault := by
  cases result <;> simp [Except.map]

theorem bind_eq_ok_iff {step : α → Except ε β} {result : Except ε α} {b : β} :
    (result >>= step) = .ok b ↔ ∃ a, result = .ok a ∧ step a = .ok b := by
  cases result <;> simp [bind, Except.bind]

theorem mapError_eq_ok_iff {ε' : Type} {f : ε → ε'} {result : Except ε α} {a : α} :
    result.mapError f = .ok a ↔ result = .ok a := by
  cases result <;> simp [Except.mapError]

/-- A computation over a list gives one result for each member. -/
theorem forall₂_of_mapM_eq_ok {f : α → Except ε β} {list : List α} {results : List β}
    (hmap : list.mapM f = .ok results) : List.Forall₂ (fun a b => f a = .ok b) list results := by
  induction list generalizing results with
  | nil =>
      rw [List.mapM_nil] at hmap
      cases hmap
      exact .nil
  | cons a rest ih =>
      rw [List.mapM_cons] at hmap
      obtain ⟨b, hb, hrest⟩ := bind_eq_ok_iff.mp hmap
      obtain ⟨others, hothers, hlist⟩ := bind_eq_ok_iff.mp hrest
      cases hlist
      exact .cons hb (ih hothers)

/-- What stopped a computation. -/
def error? : Except ε α → Option ε
  | .ok _ => none
  | .error fault => some fault

theorem error?_eq_some_iff {result : Except ε α} {fault : ε} :
    error? result = some fault ↔ result = .error fault := by
  cases result <;> simp [error?]

/-- What is made of the value does not matter to what stops it. -/
@[simp] theorem error?_bind_pure {step : α → β} {result : Except ε α} :
    error? (result >>= fun value => pure (step value)) = error? result := by
  cases result <;> rfl

theorem bind_pure_eq_error_iff {step : α → β} {result : Except ε α} {fault : ε} :
    (result >>= fun value => pure (step value)) = .error fault ↔ result = .error fault := by
  cases result <;> simp [bind, Except.bind, pure, Except.pure]

theorem exists_of_isOk {result : Except ε α} (hok : result.isOk = true) : ∃ a, result = .ok a := by
  cases result with
  | ok a => exact ⟨a, rfl⟩
  | error fault => cases hok

/-- A computation goes on as its first step allows it to. -/
theorem isOk_bind {step : α → Except ε β} {result : Except ε α} (hresult : result.isOk = true)
    (hstep : ∀ a, result = .ok a → (step a).isOk = true) : (result >>= step).isOk = true := by
  obtain ⟨a, rfl⟩ := exists_of_isOk hresult
  exact hstep a rfl

@[simp] theorem isOk_bind_pure {step : α → β} {result : Except ε α} :
    (result >>= fun value => pure (step value)).isOk = result.isOk := by
  cases result <;> rfl

@[simp] theorem isOk_map {f : α → β} {result : Except ε α} : (result.map f).isOk = result.isOk := by
  cases result <;> rfl

@[simp] theorem isOk_mapError {ε' : Type} {f : ε → ε'} {result : Except ε α} :
    (result.mapError f).isOk = result.isOk := by
  cases result <;> rfl

/-- Two steps, the second of which does not depend on the first, are done if both are. -/
theorem isOk_bind_bind_pure {γ : Type} {step : α → β → γ} {first : Except ε α} {second : Except ε β} :
    (first >>= fun a => second >>= fun b => pure (step a b)).isOk = (first.isOk && second.isOk) := by
  cases first with
  | error fault => rfl
  | ok a => cases second <;> rfl

/-- A computation over a list gives results if it gives one for every member. -/
theorem isOk_mapM {f : α → Except ε β} (list : List α) :
    (list.mapM f).isOk = list.all fun a => (f a).isOk := by
  induction list with
  | nil => rfl
  | cons a rest ih =>
      rw [List.mapM_cons, isOk_bind_bind_pure, ih, List.all_cons]

/-- What is related to a list member by member has a partner for each of its own members. -/
theorem exists_of_forall₂_of_mem {related : α → β → Prop} {left : List α}
    {right : List β} (hrelated : List.Forall₂ related left right) {b : β} (hb : b ∈ right) :
    ∃ a ∈ left, related a b := by
  induction hrelated with
  | nil => cases hb
  | cons hhead _ ih =>
      rcases List.mem_cons.mp hb with rfl | hmem
      · exact ⟨_, List.mem_cons_self, hhead⟩
      · obtain ⟨a, ha, hab⟩ := ih hmem
        exact ⟨a, List.mem_cons_of_mem _ ha, hab⟩

end TemplateWorkbench.Results
