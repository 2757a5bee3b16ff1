import TemplateWorkbench.Proofs.Json.Members
import TemplateWorkbench.Proofs.Template.PlainValues
import TemplateWorkbench.Template.Execute

/-!
# Computations over memory

What a computation gives and what memory it leaves is told step by step.  A slot that is set up from the
context holds what the context has under its name, and a context that is given plain data has a value
of that data under every name.
-/

namespace TemplateWorkbench.Template

open Json (NamesDistinct putMember)

variable {α β : Type} {before middle after : Memory}

/-- A computation that starts in a memory gives a value and leaves a memory. -/
def Run.Gives (computation : Run α) (before : Memory) (value : α) (after : Memory) : Prop :=
  computation.run.run before = (.ok value, after)

namespace Run

theorem gives_pure (value : α) (memory : Memory) :
    Gives (pure value : Run α) memory value memory := rfl

theorem Gives.run_bind {first : Run α} {value : α} (hfirst : Gives first before value middle)
    (next : α → Run β) : (first >>= next).run.run before = (next value).run.run middle := by
  rw [ExceptT.run_bind, StateT.run_bind, hfirst]
  rfl

theorem Gives.bind {first : Run α} {next : α → Run β} {value : α} {result : β}
    (hfirst : Gives first before value middle) (hnext : Gives (next value) middle result after) :
    Gives (first >>= next) before result after := by
  rw [Gives, hfirst.run_bind]
  exact hnext

theorem gives_lift {result : Except Fault α} {value : α} (hresult : result = .ok value)
    (memory : Memory) : Gives (liftM result) memory value memory := by
  rw [hresult]
  rfl

/-- A fault that does not arise is not handled. -/
theorem Gives.caught {computation : Run α} {value : α}
    (hgives : Gives computation before value after) (handle : Fault → Run α) :
    Gives (tryCatch computation handle) before value after := by
  rw [Gives, ExceptT.run_tryCatch, StateT.run_bind, hgives]
  rfl

/-- Nothing is left to be placed at a line where there is no fault. -/
theorem Gives.placed {computation : Run α} {value : α}
    (hgives : Gives computation before value after) (line : Nat) :
    Gives (placed line computation) before value after :=
  hgives.caught _

/-- A computation that starts in a memory stops with a fault. -/
def Fails (computation : Run α) (before : Memory) (fault : Fault) : Prop :=
  ∃ after, computation.run.run before = (.error fault, after)

/-- What stops at once stops with what would come next. -/
theorem Fails.bind {first : Run α} {fault : Fault} (hfirst : Fails first before fault)
    (next : α → Run β) : Fails (first >>= next) before fault := by
  obtain ⟨after, hfirst⟩ := hfirst
  refine ⟨after, ?_⟩
  rw [ExceptT.run_bind, StateT.run_bind, hfirst]
  rfl

/-- What gives a value stops if what comes next stops. -/
theorem Gives.fails {first : Run α} {next : α → Run β} {value : α} {fault : Fault}
    (hfirst : Gives first before value middle) (hnext : Fails (next value) middle fault) :
    Fails (first >>= next) before fault := by
  obtain ⟨after, hnext⟩ := hnext
  exact ⟨after, (hfirst.run_bind next).trans hnext⟩

/-- A computation stops if it does what one does that stops. -/
theorem Fails.of_eq {computation other : Run α} {fault : Fault} (hfails : Fails other middle fault)
    (heq : computation.run.run before = other.run.run middle) : Fails computation before fault := by
  obtain ⟨after, hfails⟩ := hfails
  exact ⟨after, heq.trans hfails⟩

/-- What does the same from another memory does the same where its faults are placed. -/
theorem run_placed {computation other : Run α}
    (heq : computation.run.run before = other.run.run middle) (line : Nat) :
    (placed line computation).run.run before = (placed line other).run.run middle := by
  rw [placed, placed, ExceptT.run_tryCatch, ExceptT.run_tryCatch, StateT.run_bind, StateT.run_bind,
    heq]

theorem Fails.placed {computation : Run α} {fault : Fault} (hfails : Fails computation before fault)
    (line : Nat) : Fails (placed line computation) before (fault.at line) := by
  obtain ⟨after, hfails⟩ := hfails
  refine ⟨after, ?_⟩
  rw [Run.placed, ExceptT.run_tryCatch, StateT.run_bind, hfails]
  rfl

end Run

/-- A fault that has a line keeps it. -/
theorem Fault.at_of_isSome {fault : Fault} (hline : fault.line.isSome = true) (line : Nat) :
    fault.at line = fault := by
  obtain ⟨place, hplace⟩ := Option.isSome_iff_exists.mp hline
  rw [Fault.at, hplace, Option.getD_some, ← hplace]

open Run

/-! ### Given values -/

/-- A value that has been put somewhere stands for what it stood for before. -/
theorem exists_gives_named {json : Json} {value : Value} (hvalue : Represents json value)
    (before : Memory) :
    ∃ kept after, Gives (named value) before kept after ∧ Represents json kept := by
  unfold named
  split
  · exact ⟨_, _, rfl, hvalue.giveNames before.nextName⟩
  · exact ⟨value, before, rfl, hvalue⟩

/-- Variables hold what members of plain data become. -/
def Hold (members : List (String × Json)) (given : List (String × Value)) : Prop :=
  List.Forall₂ (fun member entry => entry.1 = member.1 ∧ Represents member.2 entry.2)
    members given

/-- Members of plain data can be put somewhere one after another. -/
theorem exists_gives_given (members : List (String × Json)) (before : Memory) :
    ∃ given after,
      Gives ((members.map fun (id, json) => (id, Value.ofJson json)).mapM fun (id, value) => do
        pure (id, ← named value)) before given after ∧ Hold members given := by
  induction members generalizing before with
  | nil => exact ⟨[], before, rfl, .nil⟩
  | cons member rest ih =>
      obtain ⟨id, json⟩ := member
      obtain ⟨kept, middle, hnamed, hkept⟩ := exists_gives_named (represents_ofJson json) before
      obtain ⟨given, after, hothers, hhold⟩ := ih middle
      refine ⟨(id, kept) :: given, after, ?_, .cons ⟨rfl, hkept⟩ hhold⟩
      rw [List.map_cons, List.mapM_cons]
      have hfirst : Gives (do pure (id, ← named (Value.ofJson json))) before (id, kept) middle :=
        hnamed.bind (gives_pure _ _)
      exact hfirst.bind (hothers.bind (gives_pure _ _))

theorem Hold.map_fst {members : List (String × Json)} {given : List (String × Value)}
    (hhold : Hold members given) : given.map Prod.fst = members.map Prod.fst := by
  induction hhold with
  | nil => rfl
  | cons hfirst _ ih => rw [List.map_cons, List.map_cons, hfirst.1, ih]

/-- What a variable holds is found under the name of its member, and nothing under other names. -/
theorem Hold.rel_lookup {members : List (String × Json)} {given : List (String × Value)}
    (hhold : Hold members given) (name : String) :
    Option.Rel Represents (members.lookup name) (given.lookup name) := by
  induction hhold with
  | nil => exact .none
  | cons hfirst _ ih =>
      rw [Json.lookup_cons, Json.lookup_cons, hfirst.1]
      split
      · exact .some hfirst.2
      · exact ih

theorem putVariable_eq_putMember (name : String) (value : Value)
    (given : List (String × Value)) :
    putVariable name value given = putMember name value given := by
  induction given with
  | nil => rfl
  | cons first rest ih =>
      rw [putVariable, putMember, ih]
      by_cases hname : first.1 = name
      · rw [hname]
      · have hbeq : (first.1 == name) = false := by simpa using hname
        rw [hbeq]
        rfl

/-- Of two variables of a name, the one that has been laid over the other is found. -/
theorem lookup_overlay {base others : List (String × Value)} (hdistinct : NamesDistinct others)
    (name : String) :
    (overlay base others).lookup name = (others.lookup name).or (base.lookup name) := by
  induction others generalizing base with
  | nil => rfl
  | cons first rest ih =>
      obtain ⟨hfirst, hrest⟩ := List.nodup_cons.mp hdistinct
      have hstep : overlay base (first :: rest) = overlay (putMember first.1 first.2 base) rest := by
        rw [← putVariable_eq_putMember]
        rfl
      rw [hstep, ih hrest, Json.lookup_putMember, Json.lookup_cons]
      by_cases hname : name = first.1
      · -- The name does not come up again, so that nothing is laid over this variable.
        rw [if_pos (beq_iff_eq.mpr hname), if_pos (beq_iff_eq.mpr hname), hname,
          Json.lookup_eq_none hfirst]
        rfl
      · have hbeq : ¬ (name == first.1) = true := by simpa using hname
        rw [if_neg hbeq, if_neg hbeq]

/-- Where members have been laid over other variables, their values are found under their names, and nothing
under names that none of them have. -/
theorem Hold.rel_lookup_overlay {members : List (String × Json)} {given : List (String × Value)}
    (hhold : Hold members given) (hdistinct : NamesDistinct members) {base : List (String × Value)}
    {name : String} (hname : name ∈ members.map Prod.fst ∨ base.lookup name = none) :
    Option.Rel Represents (members.lookup name) ((overlay base given).lookup name) := by
  have hothers : NamesDistinct given := by
    rw [NamesDistinct, hhold.map_fst]
    exact hdistinct
  have hbase (hmember : members.lookup name = none) : base.lookup name = none := by
    refine hname.resolve_left fun hkey => ?_
    obtain ⟨json, hjson⟩ := Json.exists_lookup hkey
    rw [hmember] at hjson
    cases hjson
  have hgiven := hhold.rel_lookup name
  rw [lookup_overlay hothers]
  generalize members.lookup name = json? at hgiven hbase ⊢
  generalize given.lookup name = value? at hgiven ⊢
  cases hgiven with
  | some hvalue => exact .some hvalue
  | none =>
      rw [hbase rfl]
      exact .none

/-! ### Slots -/

theorem cell?_putCell (slot other : Slot) (value : Option Value)
    (cells : List (Slot × Option Value)) :
    cell? other (putCell slot value cells) =
      if other = slot then some value else cell? other cells := by
  induction cells with
  | nil =>
      rw [putCell, cell?, Json.lookup_cons]
      simp [cell?]
  | cons first rest ih =>
      rw [putCell]
      unfold cell? at ih ⊢
      by_cases hfirst : first.1 = slot
      · rw [if_pos hfirst, Json.lookup_cons, Json.lookup_cons, hfirst]
        by_cases hother : other = slot <;> simp [hother]
      · rw [if_neg hfirst, Json.lookup_cons, Json.lookup_cons, ih]
        by_cases hother : other = slot
        · have hne : ¬ (other == first.1) = true := by
            simpa [hother] using fun heq => hfirst heq.symm
          rw [if_pos hother, if_neg hne, if_pos hother]
        · rw [if_neg hother, if_neg hother]

theorem slotIn_of_cell? {activations : Array Activation} {slot : Slot} {address : Nat}
    {activation : Activation} (hactivation : activations[address]? = some activation)
    {value : Option Value} (hcell : cell? slot activation.cells = some value) :
    slotIn activations slot address = value := by
  unfold slotIn
  simp only [hactivation, hcell]

/-- The context that a scene runs in. -/
def Memory.contextOf (memory : Memory) (scene : Scene) : Context :=
  memory.contexts[scene.context]?.getD default

theorem gives_contextOf (scene : Scene) (memory : Memory) :
    Gives (contextAt scene.context) memory (memory.contextOf scene) memory := rfl

/-- Where JSON is printed, a value that is not missing is printed as the text of its likeness. -/
theorem gives_finalize {value : Value} {services : Services} {scene : Scene} {look : Appearance}
    (hname : printsJson (before.contextOf scene).name = true) (hthere : value.isUndefined = false)
    (hlook : Gives (services.lookFor value) before look after) {text : String}
    (htext : value.jsonText look = .ok text) :
    Gives (finalize services scene value) before (.string text) after := by
  have hcondition : (printsJson (before.contextOf scene).name && !value.isUndefined) = true := by
    rw [hname, hthere]
    rfl
  unfold finalize
  refine (gives_contextOf scene _).bind ?_
  rw [if_pos hcondition]
  exact hlook.bind ((gives_lift htext after).bind (gives_pure _ _))

theorem gives_activationAt {address : Nat} {activation : Activation} {memory : Memory}
    (hactivation : memory.activations[address]? = some activation) :
    Gives (activationAt address) memory activation memory := by
  have hfetch : Gives (activationAt address) memory (memory.activations[address]?.getD default)
      memory := rfl
  rwa [hactivation, Option.getD_some] at hfetch

/-- When a scope is entered that looks its names up, the slots of all of them are filled with what the
context has, and nothing else happens. -/
theorem exists_gives_enter (scene : Scene) {plan : ScopePlan}
    (hplan : ∀ entry ∈ plan, ∃ name, entry = (⟨0, name⟩, .context name)) {before : Memory}
    {activation : Activation}
    (hactivation : before.activations[scene.activation]? = some activation) :
    ∃ after entered, Gives (scene.enter plan) before () after ∧ after.contexts = before.contexts ∧
      after.activations[scene.activation]? = some entered ∧ entered.parent = activation.parent ∧
      ∀ name, cell? ⟨0, name⟩ entered.cells =
        if (⟨0, name⟩, .context name) ∈ plan then some ((before.contextOf scene).resolve? name)
        else cell? ⟨0, name⟩ activation.cells := by
  induction plan generalizing before activation with
  | nil => exact ⟨before, activation, rfl, rfl, hactivation, rfl, fun name => by simp⟩
  | cons entry rest ih =>
      obtain ⟨first, rfl⟩ := hplan entry List.mem_cons_self
      let value := (before.contextOf scene).resolve? first
      let filled : Activation :=
        { activation with cells := putCell ⟨0, first⟩ value activation.cells }
      let middle : Memory :=
        { before with
          activations := before.activations.modify scene.activation fun a =>
            { a with cells := putCell ⟨0, first⟩ value a.cells } }
      have hstep : Gives (writeSlot scene ⟨0, first⟩ value) before () middle := rfl
      have hfilled : middle.activations[scene.activation]? = some filled := by
        simp [middle, filled, Array.getElem?_modify, hactivation]
      obtain ⟨after, entered, hrest, hcontexts, hentered, hparent, hcells⟩ :=
        ih (fun other hmem => hplan other (List.mem_cons_of_mem _ hmem)) hfilled
      refine ⟨after, entered, ?_, hcontexts, hentered, hparent, fun name => ?_⟩
      · exact Gives.bind ((gives_contextOf scene _).bind hstep) hrest
      · -- A name that comes up again is filled with the same value.
        have hsame : middle.contextOf scene = before.contextOf scene := rfl
        rw [hcells name, hsame, cell?_putCell]
        by_cases hname : name = first
        · simp [hname, value]
        · simp [hname]

end TemplateWorkbench.Template
