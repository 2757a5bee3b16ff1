import TemplateWorkbench.Proofs.Template.Folding

/-!
# Late faults

Two kinds of faults are objections to how a template is written: the one about its syntax and the one about
what it asserts.  All other faults are late; they have to do with what a template does.

That a function stops only with late faults is stated as a triple that asks for nothing.  So what is known of
the functions it calls is put together by the generator of verification conditions, which finds it among the
lemmas that are tagged for it, and what is left are the faults that the function itself gives.
-/

namespace TemplateWorkbench.Template

open Std.Do

set_option mvcgen.warning false

variable {α β : Type}

/-- Whether a fault is no objection to how a template is written. -/
def Fault.IsLate (fault : Fault) : Prop :=
  fault.kind ≠ .templateSyntax ∧ fault.kind ≠ .templateAssertion

@[simp] theorem isLate_faultOf (kind : FaultKind) (message : String) :
    (faultOf kind message).IsLate ↔ kind ≠ .templateSyntax ∧ kind ≠ .templateAssertion := Iff.rfl

@[simp] theorem isLate_typeFault (message : String) : (typeFault message).IsLate := ⟨nofun, nofun⟩

@[simp] theorem isLate_valueFault (message : String) : (valueFault message).IsLate := ⟨nofun, nofun⟩

@[simp] theorem isLate_overflowFault (message : String) : (overflowFault message).IsLate := ⟨nofun, nofun⟩

@[simp] theorem Absence.isLate_fault (absence : Absence) : absence.fault.IsLate := ⟨nofun, nofun⟩

/-- The place of a fault does not matter. -/
@[simp] theorem Fault.isLate_at (fault : Fault) (line : Nat) : (fault.at line).IsLate ↔ fault.IsLate := Iff.rfl

/-! ### Results -/

/-- Whether a result is no fault but a late one. -/
abbrev IsLate (result : Except Fault α) : Prop :=
  ⦃⌜True⌝⦄ result ⦃post⟨fun _ => ⌜True⌝, fun fault => ⌜fault.IsLate⌝⟩⦄

theorem isLate_iff {result : Except Fault α} :
    IsLate result ↔ ∀ fault, result = .error fault → fault.IsLate := by
  cases result with
  | ok value => exact ⟨fun _ => nofun, fun _ _ => trivial⟩
  | error other =>
      constructor
      · rintro hlate _ ⟨⟩
        exact hlate trivial
      · exact fun hlate _ => hlate other rfl

@[spec]
theorem late_ok (value : α) : IsLate (.ok value : Except Fault α) := isLate_iff.mpr nofun

@[spec]
theorem late_error {fault : Fault} (hlate : fault.IsLate) : IsLate (.error fault : Except Fault α) :=
  isLate_iff.mpr (by rintro _ ⟨⟩; exact hlate)

theorem IsLate.bind_eq {first : Except Fault α} {next : α → Except Fault β} (hfirst : IsLate first)
    (hnext : ∀ value, first = .ok value → IsLate (next value)) : IsLate (first >>= next) := by
  cases first with
  | ok value => exact hnext value rfl
  | error fault => exact hfirst

theorem IsLate.bind {first : Except Fault α} {next : α → Except Fault β} (hfirst : IsLate first)
    (hnext : ∀ value, IsLate (next value)) : IsLate (first >>= next) :=
  hfirst.bind_eq fun value _ => hnext value

theorem isLate_orElse {first second : Option Fault} (hfirst : ∀ fault, first = some fault → fault.IsLate)
    (hsecond : ∀ fault, second = some fault → fault.IsLate) {fault : Fault}
    (hfault : (first <|> second) = some fault) : fault.IsLate := by
  cases first with
  | none => exact hsecond fault hfault
  | some other => exact hfirst fault hfault

@[spec]
theorem late_map {f : α → β} {result : Except Fault α} (hlate : IsLate result) :
    IsLate (result.map f) := by
  cases result with
  | ok value => exact late_ok _
  | error fault => exact hlate

theorem late_mapError {ε : Type} {f : ε → Fault} {result : Except ε α}
    (hlate : ∀ other, result = .error other → (f other).IsLate) : IsLate (result.mapError f) := by
  cases result with
  | ok value => exact late_ok value
  | error other => exact late_error (hlate other rfl)

section Lists

variable {f : α → Except Fault β} {test : α → Except Fault Bool}

theorem late_mapM_mem {items : List α} (hf : ∀ item ∈ items, IsLate (f item)) : IsLate (items.mapM f) := by
  induction items with
  | nil => exact late_ok []
  | cons item rest ih =>
      obtain ⟨hitem, hrest⟩ := List.forall_mem_cons.mp hf
      have hrest := ih hrest
      rw [List.mapM_cons]
      mvcgen [hitem, hrest]

@[spec]
theorem late_mapM (hf : ∀ item, IsLate (f item)) (items : List α) : IsLate (items.mapM f) :=
  late_mapM_mem fun item _ => hf item

theorem late_foldlM {f : β → α → Except Fault β} (hf : ∀ result item, IsLate (f result item))
    (start : β) (items : List α) : IsLate (items.foldlM f start) := by
  induction items generalizing start with
  | nil => exact late_ok start
  | cons item rest ih =>
      rw [List.foldlM_cons]
      exact (hf start item).bind ih

@[spec]
theorem late_anyM (htest : ∀ item, IsLate (test item)) (items : List α) : IsLate (items.anyM test) := by
  induction items with
  | nil => exact late_ok false
  | cons item rest ih =>
      rw [List.anyM]
      mvcgen [htest, ih]

@[spec]
theorem late_allM (htest : ∀ item, IsLate (test item)) (items : List α) : IsLate (items.allM test) := by
  induction items with
  | nil => exact late_ok true
  | cons item rest ih =>
      rw [List.allM]
      mvcgen [htest, ih]

@[spec]
theorem late_findM? (htest : ∀ item, IsLate (test item)) (items : List α) : IsLate (items.findM? test) := by
  induction items with
  | nil => exact late_ok none
  | cons item rest ih =>
      rw [List.findM?]
      mvcgen [htest, ih]

theorem late_filterAuxM (htest : ∀ item, IsLate (test item)) (items kept : List α) :
    IsLate (List.filterAuxM test items kept) := by
  induction items generalizing kept with
  | nil => exact late_ok kept
  | cons item rest ih =>
      rw [List.filterAuxM]
      exact (htest item).bind fun _ => ih _

@[spec]
theorem late_filterM (htest : ∀ item, IsLate (test item)) (items : List α) : IsLate (items.filterM test) := by
  have hkept := late_filterAuxM htest items []
  unfold List.filterM
  mvcgen [hkept]

end Lists

/-! ### Computations over memory -/

/-- Whether a computation stops only with late faults. -/
abbrev Run.IsLate (computation : Run α) : Prop := Run.StopsWith Fault.IsLate computation

/-- A result is as late in a computation as it is by itself. -/
@[spec]
theorem Run.late_liftM {result : Except Fault α} (hlate : Template.IsLate result) :
    Run.IsLate (liftM result : Run α) := by
  refine Run.stopsWith_iff.mpr fun before fault after hrun => isLate_iff.mp hlate fault ?_
  cases result with
  | ok value => cases hrun
  | error other =>
      cases hrun
      rfl

namespace Run

@[spec]
theorem late_lift {result : Except Fault α} (hlate : Template.IsLate result) : IsLate (lift result) :=
  late_liftM hlate

/-- What is done about a fault has to be late only if the fault is. -/
theorem late_tryCatch {computation : Run α} {handle : Fault → Run α} (hlate : computation.IsLate)
    (hhandle : ∀ fault : Fault, fault.IsLate → (handle fault).IsLate) :
    IsLate (tryCatch computation handle) := by
  refine stopsWith_iff.mpr fun before fault after hrun => ?_
  rw [ExceptT.run_tryCatch, StateT.run_bind] at hrun
  rcases hcomputation : computation.run.run before with ⟨first | value, between⟩
  · rw [hcomputation] at hrun
    exact stopsWith_iff.mp (hhandle first (stopsWith_iff.mp hlate _ _ _ hcomputation)) _ _ _ hrun
  · rw [hcomputation] at hrun
    cases hrun

@[spec]
theorem late_placed {line : Nat} {computation : Run α} (hlate : computation.IsLate) :
    IsLate (placed line computation) := by
  refine late_tryCatch hlate fun fault hfault => ?_
  mvcgen

section Lists

variable {f : α → Run β}

@[spec]
theorem late_mapM (hf : ∀ item, IsLate (f item)) (items : List α) : IsLate (items.mapM f) := by
  induction items with
  | nil => exact stopsWith_pure []
  | cons item rest ih =>
      rw [List.mapM_cons]
      mvcgen [hf, ih]

@[spec]
theorem late_mapOption (hf : ∀ item, IsLate (f item)) (item : Option α) : IsLate (item.mapM f) := by
  cases item with
  | none => exact stopsWith_pure none
  | some item =>
      rw [Option.mapM_some]
      mvcgen [hf]

@[spec]
theorem late_forM {f : α → Run PUnit} (hf : ∀ item, IsLate (f item)) (items : List α) :
    IsLate (items.forM f) := by
  induction items with
  | nil => exact stopsWith_pure ()
  | cons item rest ih => exact (hf item).bind fun _ => ih

end Lists

end Run

end TemplateWorkbench.Template
