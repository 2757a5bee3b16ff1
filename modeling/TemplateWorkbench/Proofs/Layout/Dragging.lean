import TemplateWorkbench.Layout.Panes
import TemplateWorkbench.Proofs.Settings.Keeping

/-!
# Dragging two dividers over one store

The pointer goes down on a divider, moves over it and goes up, or every drag is released at once.  What
an event does to a divider and to its setting depends on nothing but the divider, its setting and the
event; events of the other divider leave both alone, although both dividers write to one store.  So what
a divider has come to after any events is told by its own events, in whatever way they were mixed with
those of the other one.
-/

namespace TemplateWorkbench

open Json Results

/-! ### Events -/

/-- What the pointer does to the dividers of a layout. -/
inductive PaneEvent where
  | down (pane : Pane) (coordinate : Int)
  | move (pane : Pane) (coordinate : Int)
  | up (pane : Pane)
  | releaseAll
deriving DecidableEq, Repr

/-- What the pointer does to one divider. -/
inductive PointerEvent where
  | down (coordinate : Int)
  | move (coordinate : Int)
  | up
deriving DecidableEq, Repr

/-- What an event is to a divider, if it is anything to it. -/
def PaneEvent.on? (pane : Pane) : PaneEvent → Option PointerEvent
  | down other coordinate => if other = pane then some (.down coordinate) else none
  | move other coordinate => if other = pane then some (.move coordinate) else none
  | up other => if other = pane then some .up else none
  | releaseAll => some .up

/-- The events of a divider among those of a layout. -/
def ownEvents (pane : Pane) (events : List PaneEvent) : List PointerEvent :=
  events.filterMap (PaneEvent.on? pane)

namespace PaneLayout

/-- An event on a layout: the layout after it, and the new size if there is one. -/
def perform (layout : PaneLayout) : PaneEvent → Except DividerFault (PaneLayout × Option Int)
  | .down pane coordinate =>
    .ok (layout.withDivider pane ((layout.divider pane).pointerDown (.whole coordinate)), none)
  | .move pane coordinate => layout.pointerMove pane (.whole coordinate)
  | .up pane => .ok (layout.withDivider pane (layout.divider pane).pointerUp, none)
  | .releaseAll => .ok (layout.releaseAll, none)

/-- Events on a layout one after another. -/
def performAll (layout : PaneLayout) : List PaneEvent → Except DividerFault PaneLayout
  | [] => .ok layout
  | event :: rest =>
    match layout.perform event with
    | .ok (next, _) => next.performAll rest
    | .error fault => .error fault

/-- What the store of a layout gives for the setting of a divider. -/
def persisted (layout : PaneLayout) (pane : Pane) (fallback : Json) : Option (Except String Json) :=
  layout.store.map fun store => (store.get (layout.divider pane).key fallback).1

@[simp] theorem divider_withDivider_self (layout : PaneLayout) (pane : Pane) (divider : Divider) :
    (layout.withDivider pane divider).divider pane = divider := by
  cases pane <;> rfl

theorem divider_withDivider_of_ne (layout : PaneLayout) {pane other : Pane} (hne : other ≠ pane)
    (divider : Divider) : (layout.withDivider pane divider).divider other = layout.divider other := by
  cases pane <;> cases other <;> first | rfl | exact absurd rfl hne

@[simp] theorem store_withDivider (layout : PaneLayout) (pane : Pane) (divider : Divider) :
    (layout.withDivider pane divider).store = layout.store := by
  cases pane <;> rfl

@[simp] theorem divider_releaseAll (layout : PaneLayout) (pane : Pane) :
    layout.releaseAll.divider pane = (layout.divider pane).pointerUp := by
  cases pane <;> rfl

theorem performAll_append (layout : PaneLayout) (first second : List PaneEvent) :
    layout.performAll (first ++ second) =
      (layout.performAll first).bind fun next => next.performAll second := by
  induction first generalizing layout with
  | nil => rfl
  | cons event rest ih =>
      simp only [List.cons_append, performAll]
      split
      · exact ih _
      · rfl

end PaneLayout

/-! ### Drags with whole sizes -/

/-- The divider of a pane keeps its setting under a key of its own. -/
def Pane.settingKey : Pane → String
  | context => contextWidthKey
  | output => outputHeightKey

namespace Divider

variable {divider : Divider}

/-- A drag that began at a whole coordinate with a whole size. -/
def IsWholeDrag (session : DragSession) : Prop :=
  ∃ base size, session.mouseBase = .whole base ∧ session.sizeBase = .whole size

/-- A divider of a pane with a whole size, and perhaps with such a drag. -/
structure IsWhole (pane : Pane) (divider : Divider) : Prop where
  key : divider.key = pane.settingKey
  size : ∃ size, divider.size = .whole size
  session : ∀ session, divider.session = some session → IsWholeDrag session

/-- The size for the pointer at a whole coordinate. -/
theorem sizeAt_whole {session : DragSession} {base size : Int} (hbase : session.mouseBase = .whole base)
    (hsize : session.sizeBase = .whole size) (coordinate minSize : Int) :
    session.sizeAt (.whole coordinate) minSize = .ok (max (size - (coordinate - base)) minSize) := by
  simp only [DragSession.sizeAt, hbase, hsize]
  rfl

/-- A move without a drag does nothing. -/
theorem pointerMove_of_idle (hidle : divider.session = none) (store : Option SettingsStore)
    (coordinate : Measure) :
    divider.pointerMove store coordinate = .ok ⟨divider, store, none⟩ := by
  rw [pointerMove, hidle]

/-- A move during a drag sets the size and writes it. -/
theorem pointerMove_of_dragging {session : DragSession} (hsession : divider.session = some session)
    {base size : Int} (hbase : session.mouseBase = .whole base) (hsize : session.sizeBase = .whole size)
    (store : Option SettingsStore) (coordinate : Int) :
    let new := max (size - (coordinate - base)) divider.minSize
    divider.pointerMove store (.whole coordinate) = .ok
      ⟨{ divider with size := .whole new },
        store.map fun store => (store.set divider.key (.int new)).1, some new⟩ := by
  intro new
  simp only [pointerMove, hsession, sizeAt_whole hbase hsize]
  rfl

theorem IsWhole.pointerDown {pane : Pane} (hwhole : IsWhole pane divider) (coordinate : Int) :
    IsWhole pane (divider.pointerDown (.whole coordinate)) := by
  refine ⟨hwhole.key, hwhole.size, ?_⟩
  rintro session ⟨rfl⟩
  obtain ⟨size, hsize⟩ := hwhole.size
  exact ⟨coordinate, size, rfl, hsize⟩

theorem IsWhole.pointerUp {pane : Pane} (hwhole : IsWhole pane divider) :
    IsWhole pane divider.pointerUp :=
  ⟨hwhole.key, hwhole.size, nofun⟩

theorem IsWhole.resize {pane : Pane} (hwhole : IsWhole pane divider) (size : Int) :
    IsWhole pane { divider with size := .whole size } :=
  ⟨hwhole.key, ⟨size, rfl⟩, hwhole.session⟩

/-- A size that is stored is whole, as a given one is. -/
theorem storedSize_whole {given minSize : Int} {stored : Json} {size : Measure}
    (hsize : storedSize (.whole given) minSize stored = .ok size) : ∃ value, size = .whole value := by
  unfold storedSize at hsize
  split at hsize
  · cases hsize
    exact ⟨given, rfl⟩
  · next measure hmeasure =>
      cases hfinite : measure.isFinite with
      | error fault => simp [hfinite, Except.bind, bind] at hsize
      | ok finite =>
          cases htruncate : measure.truncate <;> cases finite <;>
            simp [hfinite, htruncate, Except.bind, bind, pure, Except.pure] at hsize <;>
            exact ⟨_, hsize.symm⟩

/-- A divider that is created has a whole size, and no drag goes on. -/
theorem isWhole_create (pane : Pane) {axis : Axis} {given minSize : Int} {store : SettingsStore}
    (hcreate : create pane.settingKey axis (.whole given) (some store) minSize = .ok divider) :
    IsWhole pane divider ∧ divider.session = none := by
  unfold create at hcreate
  split at hcreate
  · next hnone => cases hnone
  · next hsome =>
      split at hcreate
      · cases hcreate
      · next stored hget =>
          cases hstored : storedSize (.whole given) (max minSize 0) stored with
          | error fault => simp [hstored, ofMeasure, Except.bind, bind] at hcreate
          | ok size =>
              simp only [hstored, ofMeasure, Except.bind, bind, pure, Except.pure,
                Except.ok.injEq] at hcreate
              subst hcreate
              exact ⟨⟨rfl, storedSize_whole hstored, nofun⟩, rfl⟩

/-- Where the store gives a whole number of a double's size, that is the size of the divider. -/
theorem create_of_get {key : String} (axis : Axis) {given value : Int} (minSize : Int)
    {store : SettingsStore} (hget : (store.get key (.int given)).1 = .ok (.int value))
    (hfinite : (Double.ofInt value).isFinite = true) :
    create key axis (.whole given) (some store) minSize =
      .ok ⟨key, axis, max minSize 0, .whole (max value (max minSize 0)), none, []⟩ := by
  have hstored : storedSize (.whole given) (max minSize 0) (.int value) =
      .ok (.whole (max value (max minSize 0))) := by
    simp only [storedSize, Measure.ofJson?, Measure.isFinite, Measure.toDouble, hfinite, if_true]
    rfl
  simp only [create, Measure.toJson, hget, hstored]
  rfl

end Divider

/-! ### Sizes in a storage -/

theorem write_of_short {value : Int} (hshort : Number.isTooLong value = false) :
    Json.write .asciiLine (.int value) = .ok (Number.integerText value) := by
  simp only [Json.write, Json.writeChars, Number.integerText?, hshort, Bool.false_eq_true, if_false]
  exact congrArg Except.ok String.ofList_toList

theorem write_of_tooLong {value : Int} (hlong : Number.isTooLong value = true) :
    Json.write .asciiLine (.int value) = .error .tooLong := by
  simp only [Json.write, Json.writeChars, Number.integerText?, hlong, if_true]
  rfl

/-- The text of a whole number that is not too long is read as the number. -/
theorem read_integerText {value : Int} (hshort : Number.isTooLong value = false) :
    Json.read (Number.integerText value) = .ok (.int value) :=
  read_of_write isFaithful_asciiLine (.int value) (Nat.zero_le _) (write_of_short hshort)

/-- In a storage that works the text of a whole number is put under its key, unless the number is too
long to have one; nothing else changes. -/
theorem SettingsStore.set_int {storage : Storage} (hworking : storage.IsWorking) (space key : String)
    (value : Int) : ∃ after : Storage,
      (set ⟨some storage, space⟩ key (.int value)).1 = ⟨some after, space⟩ ∧ after.IsWorking ∧
      ∀ full, after.get? full =
        if full = fullKey space key ∧ Number.isTooLong value = false then
          .ok (some (Number.integerText value))
        else storage.get? full := by
  cases hshort : Number.isTooLong value with
  | true =>
      refine ⟨storage, ?_, hworking, fun full => (if_neg fun h => nomatch h.2).symm⟩
      rw [set_of_write_error (write_of_tooLong hshort)]
  | false =>
      have hset := hworking.set (fullKey space key) (Number.integerText value)
      refine ⟨_, ?_, hset.2, fun full => ?_⟩
      · rw [set_of_write (write_of_short hshort)]
      · rw [Storage.get?_set hset.1]
        simp only [and_true, beq_iff_eq]

/-- The settings of the two dividers are apart in every namespace. -/
theorem Pane.eq_of_fullKey_eq {space : String} {pane other : Pane}
    (hsame : SettingsStore.fullKey space pane.settingKey =
      SettingsStore.fullKey space other.settingKey) : pane = other := by
  have hkeys : pane.settingKey.toList = other.settingKey.toList := by
    have hlists := congrArg String.toList hsame
    simp only [SettingsStore.fullKey, SettingsStore.keyFor, String.toList_append,
      List.append_cancel_left_eq] at hlists
    exact hlists
  cases pane <;> cases other <;> first | rfl | exact absurd hkeys (by decide)

/-! ### What a divider has come to -/

/-- A divider, and what the storage has under the key of its setting. -/
structure DividerState where
  divider : Divider
  text : Except StorageFault (Option String)

/-- What a divider comes to by an event of its own. -/
def DividerState.after (state : DividerState) : PointerEvent → DividerState
  | .down coordinate => ⟨state.divider.pointerDown (.whole coordinate), state.text⟩
  | .up => ⟨state.divider.pointerUp, state.text⟩
  | .move coordinate =>
    match state.divider.pointerMove none (.whole coordinate) with
    | .ok ⟨divider, _, some size⟩ =>
      ⟨divider, if Number.isTooLong size = false then .ok (some (Number.integerText size)) else state.text⟩
    | _ => state

namespace PaneLayout

/-- A layout with whole dividers over a storage that works. -/
structure IsReady (storage : Storage) (space : String) (layout : PaneLayout) : Prop where
  dividers : ∀ pane, (layout.divider pane).IsWhole pane
  store : layout.store = some ⟨some storage, space⟩
  working : storage.IsWorking

/-- What the divider of a pane has come to, over a storage. -/
def state (layout : PaneLayout) (storage : Storage) (space : String) (pane : Pane) : DividerState :=
  ⟨layout.divider pane, storage.get? (SettingsStore.fullKey space pane.settingKey)⟩

variable {layout : PaneLayout} {storage : Storage} {space : String}

/-- A layout stays ready with another whole divider and another storage that works. -/
theorem IsReady.put (hready : layout.IsReady storage space) {pane : Pane} {divider : Divider}
    (hwhole : divider.IsWhole pane) {after : Storage} (hworking : after.IsWorking) :
    IsReady after space { layout.withDivider pane divider with store := some ⟨some after, space⟩ } := by
  refine ⟨fun other => ?_, rfl, hworking⟩
  have hother : (layout.withDivider pane divider).divider other |>.IsWhole other := by
    by_cases hsame : other = pane
    · subst hsame
      rwa [divider_withDivider_self]
    · rw [divider_withDivider_of_ne _ hsame]
      exact hready.dividers other
  cases other <;> exact hother

theorem state_put (layout : PaneLayout) (store : Option SettingsStore) (storage : Storage) (space : String)
    (pane : Pane) (divider : Divider) :
    state { layout.withDivider pane divider with store := store } storage space pane =
      ⟨divider, storage.get? (SettingsStore.fullKey space pane.settingKey)⟩ := by
  cases pane <;> rfl

theorem state_put_of_ne (layout : PaneLayout) (store : Option SettingsStore) (storage : Storage)
    (space : String) {pane other : Pane} (hne : pane ≠ other) (divider : Divider) :
    state { layout.withDivider pane divider with store := store } storage space other =
      layout.state storage space other := by
  cases pane <;> cases other <;> first | rfl | exact absurd rfl hne

/-- Where an event is something to one divider only, which comes to what the event is to it, and the
other one stays as it is, each divider comes to what the event is to it. -/
theorem eq_elim_on? {event : PaneEvent} {own : PointerEvent} {pane : Pane}
    (hon : ∀ other, event.on? other = if pane = other then some own else none)
    {before next : Pane → DividerState} (hown : next pane = (before pane).after own)
    (hkept : ∀ other, pane ≠ other → next other = before other) (other : Pane) :
    next other = (event.on? other).elim (before other) fun own => (before other).after own := by
  rw [hon]
  by_cases hsame : pane = other
  · subst hsame
    rw [if_pos rfl]
    exact hown
  · rw [if_neg hsame]
    exact hkept other hsame

/-- A move over a divider that is not dragged does nothing. -/
theorem perform_move_of_idle {pane : Pane} (hidle : (layout.divider pane).session = none)
    (coordinate : Int) : layout.perform (.move pane coordinate) = .ok (layout, none) := by
  simp only [perform, pointerMove, Divider.pointerMove_of_idle hidle]
  cases pane <;> rfl

/-- A move over a divider that is dragged sets its size, and writes it if it is not too long. -/
theorem IsReady.perform_move (hready : layout.IsReady storage space) {pane : Pane}
    {session : DragSession} (hsession : (layout.divider pane).session = some session) {base size : Int}
    (hbase : session.mouseBase = .whole base) (hsize : session.sizeBase = .whole size)
    (coordinate : Int) :
    let new := max (size - (coordinate - base)) (layout.divider pane).minSize
    ∃ next after, layout.perform (.move pane coordinate) = .ok (next, some new) ∧
      next.IsReady after space ∧
      next.state after space pane = ⟨{ layout.divider pane with size := .whole new },
        if Number.isTooLong new = false then .ok (some (Number.integerText new))
        else (layout.state storage space pane).text⟩ ∧
      ∀ other, pane ≠ other → next.state after space other = layout.state storage space other := by
  intro new
  set divider := { layout.divider pane with size := .whole new }
  obtain ⟨after, hset, hworking, hget⟩ :=
    SettingsStore.set_int hready.working space pane.settingKey new
  have hstore : layout.store.map (fun store => (store.set (layout.divider pane).key (.int new)).1) =
      some ⟨some after, space⟩ := by
    rw [hready.store, (hready.dividers pane).key, Option.map_some, hset]
  have hmove : (layout.divider pane).pointerMove layout.store (.whole coordinate) =
      .ok ⟨divider, some ⟨some after, space⟩, some new⟩ := by
    rw [← hstore]
    exact Divider.pointerMove_of_dragging hsession hbase hsize layout.store coordinate
  refine ⟨_, after, ?_, hready.put ((hready.dividers pane).resize new) hworking, ?_,
    fun other hne => ?_⟩
  · simp only [perform, pointerMove, hmove]
    rfl
  · rw [state_put, hget]
    simp only [true_and]
    rfl
  -- The keys of the two settings differ, so the other one is not overwritten.
  · rw [state_put_of_ne _ _ _ _ hne, state, state, hget]
    rw [if_neg fun h => hne (Pane.eq_of_fullKey_eq h.1).symm]

/-- An event leaves a ready layout, and each divider comes to what the event is to it. -/
theorem IsReady.perform (hready : layout.IsReady storage space) (event : PaneEvent) :
    ∃ next result after, layout.perform event = .ok (next, result) ∧ next.IsReady after space ∧
      ∀ pane, next.state after space pane =
        (event.on? pane).elim (layout.state storage space pane)
          fun own => (layout.state storage space pane).after own := by
  have hstore (pane : Pane) (divider : Divider) : layout.withDivider pane divider =
      { layout.withDivider pane divider with store := some ⟨some storage, space⟩ } := by
    rw [← hready.store, ← store_withDivider layout pane divider]
  cases event with
  | down pane coordinate =>
      have hnext := hready.put ((hready.dividers pane).pointerDown coordinate) hready.working
      refine ⟨_, none, storage, rfl, (hstore pane _).symm ▸ hnext, ?_⟩
      rw [hstore]
      exact eq_elim_on? (fun _ => rfl) (state_put ..) fun _ hne => state_put_of_ne _ _ _ _ hne _
  | move pane coordinate =>
      cases hsession : (layout.divider pane).session with
      -- Without a drag nothing changes, and the move is nothing to the divider.
      | none =>
          refine ⟨layout, none, storage, perform_move_of_idle hsession coordinate, hready, ?_⟩
          refine eq_elim_on? (fun _ => rfl) ?_ fun _ _ => rfl
          have hidle := Divider.pointerMove_of_idle hsession none (.whole coordinate)
          simp only [DividerState.after, state, hidle]
      | some session =>
          obtain ⟨base, size, hbase, hsize⟩ := (hready.dividers pane).session session hsession
          obtain ⟨next, after, hperform, hnext, hown, hkept⟩ :=
            hready.perform_move hsession hbase hsize coordinate
          refine ⟨next, _, after, hperform, hnext, eq_elim_on? (fun _ => rfl) ?_ hkept⟩
          have hmove := Divider.pointerMove_of_dragging hsession hbase hsize none coordinate
          rw [hown]
          simp only [DividerState.after, state, hmove]
  | up pane =>
      have hnext := hready.put (hready.dividers pane).pointerUp hready.working
      refine ⟨_, none, storage, rfl, (hstore pane _).symm ▸ hnext, ?_⟩
      rw [hstore]
      exact eq_elim_on? (fun _ => rfl) (state_put ..) fun _ hne => state_put_of_ne _ _ _ _ hne _
  | releaseAll =>
      refine ⟨_, none, storage, rfl, ⟨fun pane => ?_, hready.store, hready.working⟩, fun pane => ?_⟩
      · rw [divider_releaseAll]
        exact (hready.dividers pane).pointerUp
      · simp only [state, divider_releaseAll]
        rfl

/-- Events leave a ready layout, and each divider comes to what its own events tell. -/
theorem IsReady.performAll (hready : layout.IsReady storage space) (events : List PaneEvent) :
    ∃ reached after, layout.performAll events = .ok reached ∧ reached.IsReady after space ∧
      ∀ pane, reached.state after space pane =
        (ownEvents pane events).foldl DividerState.after (layout.state storage space pane) := by
  induction events generalizing layout storage with
  | nil => exact ⟨layout, storage, rfl, hready, fun _ => rfl⟩
  | cons event rest ih =>
      obtain ⟨next, result, after, hperform, hnext, hstate⟩ := hready.perform event
      obtain ⟨reached, last, hall, hreached, hlast⟩ := ih hnext
      refine ⟨reached, last, ?_, hreached, fun pane => ?_⟩
      · rw [PaneLayout.performAll, hperform]
        exact hall
      · rw [hlast, hstate, ownEvents, ownEvents, List.filterMap_cons]
        cases event.on? pane <;> rfl

/-- What a store gives for the setting of a divider is told by what the divider has come to. -/
theorem IsReady.persisted (hready : layout.IsReady storage space) (pane : Pane) (fallback : Json) :
    layout.persisted pane fallback = some (SettingsStore.answered pane.settingKey fallback
      (layout.state storage space pane).text).1 := by
  rw [PaneLayout.persisted, hready.store, Option.map_some, (hready.dividers pane).key]
  rfl

end PaneLayout

/-! ### Drags told by own events -/

/-- A move leaves the drag and the least size of a divider as they are. -/
theorem Divider.pointerMove_eq_ok {divider : Divider} {store : Option SettingsStore}
    {coordinate : Measure} {moved : Divider.Moved}
    (hmove : divider.pointerMove store coordinate = .ok moved) :
    moved.divider.session = divider.session ∧ moved.divider.minSize = divider.minSize := by
  unfold pointerMove at hmove
  split at hmove
  · cases hmove
    exact ⟨rfl, rfl⟩
  · next session hsession =>
      cases hsize : session.sizeAt coordinate divider.minSize with
      | error fault => simp [hsize, ofMeasure, bind, Except.bind] at hmove
      | ok size =>
          simp only [hsize, ofMeasure, bind, Except.bind, pure, Except.pure, Except.ok.injEq] at hmove
          subst hmove
          exact ⟨rfl, rfl⟩

namespace DividerState

theorem after_move (state : DividerState) (coordinate : Int) :
    (state.after (.move coordinate)).divider.session = state.divider.session ∧
      (state.after (.move coordinate)).divider.minSize = state.divider.minSize := by
  simp only [after]
  split
  · next hmove => exact Divider.pointerMove_eq_ok hmove
  · exact ⟨rfl, rfl⟩

/-- No event touches the least size. -/
theorem minSize_foldl (state : DividerState) (own : List PointerEvent) :
    (own.foldl after state).divider.minSize = state.divider.minSize := by
  induction own generalizing state with
  | nil => rfl
  | cons event rest ih =>
      rw [List.foldl_cons, ih]
      cases event with
      | down coordinate => rfl
      | move coordinate => exact (after_move state coordinate).2
      | up => rfl

/-- Moves leave a drag as it began. -/
theorem session_foldl_of_moves {own : List PointerEvent}
    (hmoves : ∀ event ∈ own, ∃ coordinate, event = .move coordinate) (state : DividerState) :
    (own.foldl after state).divider.session = state.divider.session := by
  induction own generalizing state with
  | nil => rfl
  | cons event rest ih =>
      obtain ⟨⟨coordinate, rfl⟩, hrest⟩ := List.forall_mem_cons.mp hmoves
      rw [List.foldl_cons, ih hrest]
      exact (after_move state coordinate).1

/-- Where a list ends in something else than an entry, something comes after the entry. -/
theorem exists_of_concat_eq {before first rest : List PointerEvent} {last event : PointerEvent}
    (hsplit : before ++ [last] = first ++ event :: rest) (hne : event ≠ last) :
    ∃ more, rest = more ++ [last] ∧ before = first ++ event :: more := by
  rcases List.eq_nil_or_concat rest with rfl | ⟨more, final, rfl⟩
  · exact absurd (List.singleton_inj.mp (List.append_inj' hsplit rfl).2).symm hne
  · rw [List.concat_eq_append, ← List.cons_append, ← List.append_assoc] at hsplit
    obtain ⟨hbefore, hlast⟩ := List.append_inj' hsplit rfl
    exact ⟨more, by rw [List.concat_eq_append, hlast], hbefore⟩

/-- A divider that was not dragged is dragged when the pointer has gone down on it and not up since. -/
theorem isDragging_foldl (state : DividerState) (hidle : state.divider.isDragging = false)
    (own : List PointerEvent) :
    (own.foldl after state).divider.isDragging = true ↔
      ∃ before coordinate rest, own = before ++ .down coordinate :: rest ∧ .up ∉ rest := by
  -- By the last event: to go down or up decides, and a move leaves it to those before.
  induction own using List.reverseRecOn with
  | nil =>
      simp only [List.foldl_nil, hidle, Bool.false_eq_true, false_iff]
      rintro ⟨before, coordinate, rest, hsplit, -⟩
      exact List.append_ne_nil_of_right_ne_nil _ (List.cons_ne_nil _ _) hsplit.symm
  | append_singleton before event ih =>
      rw [List.foldl_append, List.foldl_cons, List.foldl_nil]
      cases event with
      | down coordinate =>
          exact iff_of_true rfl ⟨before, coordinate, [], rfl, List.not_mem_nil⟩
      | move coordinate =>
          rw [Divider.isDragging, (after_move _ coordinate).1, ← Divider.isDragging, ih]
          constructor
          · rintro ⟨first, base, rest, rfl, hrest⟩
            refine ⟨first, base, rest ++ [.move coordinate], ?_, ?_⟩
            · rw [List.append_assoc, List.cons_append]
            · simpa using hrest
          · rintro ⟨first, base, rest, hsplit, hrest⟩
            obtain ⟨more, rfl, hbefore⟩ := exists_of_concat_eq hsplit nofun
            exact ⟨first, base, more, hbefore, fun hmem => hrest (List.mem_append_left _ hmem)⟩
      | up =>
          refine iff_of_false Bool.false_ne_true ?_
          rintro ⟨first, base, rest, hsplit, hrest⟩
          obtain ⟨more, rfl, -⟩ := exists_of_concat_eq hsplit nofun
          exact hrest (List.mem_append_right _ List.mem_cons_self)

end DividerState

/-! ### The protocol -/

theorem PaneEvent.on?_eq_down {event : PaneEvent} {pane : Pane} {coordinate : Int} :
    event.on? pane = some (.down coordinate) ↔ event = .down pane coordinate := by
  cases event <;> simp [PaneEvent.on?]

theorem PaneEvent.on?_eq_move {event : PaneEvent} {pane : Pane} {coordinate : Int} :
    event.on? pane = some (.move coordinate) ↔ event = .move pane coordinate := by
  cases event <;> simp [PaneEvent.on?]

theorem ownEvents_append (pane : Pane) (first second : List PaneEvent) :
    ownEvents pane (first ++ second) = ownEvents pane first ++ ownEvents pane second :=
  List.filterMap_append

theorem ownEvents_down (pane : Pane) (coordinate : Int) (events : List PaneEvent) :
    ownEvents pane (.down pane coordinate :: events) = .down coordinate :: ownEvents pane events :=
  List.filterMap_cons_some (PaneEvent.on?_eq_down.mpr rfl)

/-- Where the pointer goes down on a divider among its own events, it does among all events. -/
theorem exists_of_ownEvents_eq {pane : Pane} {events : List PaneEvent} {before rest : List PointerEvent}
    {coordinate : Int} (hsplit : ownEvents pane events = before ++ .down coordinate :: rest) :
    ∃ first after, events = first ++ .down pane coordinate :: after ∧ ownEvents pane after = rest := by
  obtain ⟨first, others, rfl, -, hothers⟩ := List.filterMap_eq_append_iff.mp hsplit
  obtain ⟨skipped, event, after, rfl, -, hevent, hafter⟩ := List.filterMap_eq_cons_iff.mp hothers
  rw [PaneEvent.on?_eq_down.mp hevent]
  exact ⟨first ++ skipped, after, by rw [List.append_assoc], hafter⟩

namespace PaneLayout

/-- What the dividers of a layout do after events that have led to another one. -/
structure FollowsProtocol (layout : PaneLayout) (events : List PaneEvent) (reached : PaneLayout) :
    Prop where
  /-- A divider is dragged exactly if the pointer has gone down on it, and neither gone up nor been
  released since. -/
  dragging : ∀ pane, (reached.divider pane).isDragging = true ↔
    ∃ before coordinate after,
      events = before ++ .down pane coordinate :: after ∧ .up ∉ ownEvents pane after
  /-- A move over a divider that is not dragged gives no size, and changes and writes nothing. -/
  idle : ∀ pane coordinate, (reached.divider pane).isDragging = false →
    reached.perform (.move pane coordinate) = .ok (reached, none)
  /-- Nothing but a move over a divider that is dragged changes its size. -/
  still : ∀ pane event,
    ((∃ coordinate, event = .move pane coordinate) → (reached.divider pane).isDragging = false) →
    ∃ next result, reached.perform event = .ok (next, result) ∧
      (next.divider pane).size = (reached.divider pane).size
  /-- A move gives the size for where the pointer has last gone down and for the size there, whatever
  moves came between; the size is set, and it is what the store gives for the setting. -/
  moved : ∀ pane before base after, events = before ++ .down pane base :: after →
    (∀ own ∈ ownEvents pane after, ∃ coordinate, own = .move coordinate) →
    ∃ begun size, layout.performAll before = .ok begun ∧ (begun.divider pane).size = .whole size ∧
      ∀ coordinate,
        let new := max (size - (coordinate - base)) (layout.divider pane).minSize
        ∃ next, reached.perform (.move pane coordinate) = .ok (next, some new) ∧
          (next.divider pane).size = .whole new ∧
          (Number.isTooLong new = false →
            ∀ fallback, next.persisted pane fallback = some (.ok (.int new)))
  /-- Events that are the same for a divider lead to the same divider and to the same setting. -/
  independent : ∀ pane others last, ownEvents pane others = ownEvents pane events →
    layout.performAll others = .ok last → last.divider pane = reached.divider pane ∧
      ∀ fallback, last.persisted pane fallback = reached.persisted pane fallback

variable {layout : PaneLayout} {storage : Storage} {space : String}

/-- A layout that is created over a storage that works is ready, and no drag goes on. -/
theorem isReady_of_create {contextWidth outputHeight minSize : Int} (hworking : storage.IsWorking)
    (hcreate : create (some ⟨some storage, space⟩) contextWidth outputHeight minSize = .ok layout) :
    layout.IsReady storage space ∧ ∀ pane, (layout.divider pane).isDragging = false := by
  unfold create at hcreate
  cases hcontext : Divider.create contextWidthKey .x (.whole contextWidth)
      (some ⟨some storage, space⟩) minSize with
  | error fault => simp [hcontext, bind, Except.bind] at hcreate
  | ok context =>
      cases houtput : Divider.create outputHeightKey .y (.whole outputHeight)
          (some ⟨some storage, space⟩) minSize with
      | error fault => simp [hcontext, houtput, bind, Except.bind] at hcreate
      | ok output =>
          simp only [hcontext, houtput, bind, Except.bind, pure, Except.pure,
            Except.ok.injEq] at hcreate
          subst hcreate
          obtain ⟨hwholeContext, hidleContext⟩ := Divider.isWhole_create .context hcontext
          obtain ⟨hwholeOutput, hidleOutput⟩ := Divider.isWhole_create .output houtput
          refine ⟨⟨fun pane => ?_, rfl, hworking⟩, fun pane => ?_⟩
          · cases pane with
            | context => exact hwholeContext
            | output => exact hwholeOutput
          · cases pane with
            | context => exact congrArg Option.isSome hidleContext
            | output => exact congrArg Option.isSome hidleOutput

/-- A divider that is not dragged stays as it is over a move, and one that is dragged or not keeps its
size over every other event. -/
theorem IsReady.still (hready : layout.IsReady storage space) (pane : Pane) (event : PaneEvent)
    (hidle : (∃ coordinate, event = .move pane coordinate) → (layout.divider pane).isDragging = false) :
    ∃ next result, layout.perform event = .ok (next, result) ∧
      (next.divider pane).size = (layout.divider pane).size := by
  obtain ⟨next, result, after, hperform, -, hstate⟩ := hready.perform event
  refine ⟨next, result, hperform, ?_⟩
  have hdivider : next.divider pane = _ := congrArg DividerState.divider (hstate pane)
  rw [hdivider]
  cases hon : event.on? pane with
  | none => rfl
  | some own =>
      cases own with
      | down coordinate => rfl
      | move coordinate =>
          have hmove := PaneEvent.on?_eq_move.mp hon
          have hnone := Option.not_isSome_iff_eq_none.mp (Bool.eq_false_iff.mp (hidle ⟨_, hmove⟩))
          have hstay := Divider.pointerMove_of_idle hnone none (.whole coordinate)
          simp only [Option.elim_some, DividerState.after, state, hstay]
      | up => rfl

/-- A move gives the size for the last time that the pointer has gone down. -/
theorem IsReady.moved (hready : layout.IsReady storage space) {pane : Pane} {before after : List PaneEvent}
    {base : Int} {reached : PaneLayout}
    (hall : layout.performAll (before ++ .down pane base :: after) = .ok reached)
    (hmoves : ∀ own ∈ ownEvents pane after, ∃ coordinate, own = .move coordinate) :
    ∃ begun size, layout.performAll before = .ok begun ∧ (begun.divider pane).size = .whole size ∧
      ∀ coordinate,
        let new := max (size - (coordinate - base)) (layout.divider pane).minSize
        ∃ next, reached.perform (.move pane coordinate) = .ok (next, some new) ∧
          (next.divider pane).size = .whole new ∧
          (Number.isTooLong new = false →
            ∀ fallback, next.persisted pane fallback = some (.ok (.int new))) := by
  obtain ⟨begun, first, hbefore, hbegun, hstateBegun⟩ := hready.performAll before
  obtain ⟨last, storageLast, hlast, hreadyLast, hstateLast⟩ :=
    hbegun.performAll (.down pane base :: after)
  have hsame : last = reached := by
    rw [performAll_append, hbefore] at hall
    exact Except.ok.inj (hlast.symm.trans hall)
  subst hsame
  obtain ⟨size, hsize⟩ := (hbegun.dividers pane).size
  refine ⟨begun, size, hbefore, hsize, fun coordinate => ?_⟩
  -- The drag is the one that began when the pointer went down.
  have hdivider := congrArg DividerState.divider (hstateLast pane)
  rw [ownEvents_down, List.foldl_cons] at hdivider
  have hsession := congrArg Divider.session hdivider
  rw [DividerState.session_foldl_of_moves hmoves] at hsession
  have hleast : (last.divider pane).minSize = (layout.divider pane).minSize := by
    have hfirst := congrArg (fun state => state.divider.minSize) (hstateBegun pane)
    have hlater := congrArg (fun state => state.divider.minSize) (hstateLast pane)
    simp only [DividerState.minSize_foldl] at hfirst hlater
    exact hlater.trans hfirst
  obtain ⟨next, afterMove, hperform, hready', hown, -⟩ :=
    hreadyLast.perform_move hsession rfl hsize coordinate
  rw [hleast] at hperform hown
  refine ⟨next, hperform, ?_, fun hshort fallback => ?_⟩
  · exact congrArg (fun state => state.divider.size) hown
  · rw [if_pos hshort] at hown
    rw [hready'.persisted, hown, SettingsStore.answered, read_integerText hshort]

/-- Over a storage that works the dividers of a layout that has been created follow the protocol, whatever
the pointer does. -/
theorem followsProtocol_of_create {contextWidth outputHeight minSize : Int}
    (hworking : storage.IsWorking)
    (hcreate : create (some ⟨some storage, space⟩) contextWidth outputHeight minSize = .ok layout)
    (events : List PaneEvent) :
    ∃ reached, layout.performAll events = .ok reached ∧ FollowsProtocol layout events reached := by
  obtain ⟨hready, hidle⟩ := isReady_of_create hworking hcreate
  obtain ⟨reached, after, hall, hreached, hstate⟩ := hready.performAll events
  refine ⟨reached, hall, ?_⟩
  -- What becomes of a pane is told by its state after its own events alone.
  constructor
  case dragging =>
    intro pane
    have hdragging := DividerState.isDragging_foldl (layout.state storage space pane) (hidle pane)
      (ownEvents pane events)
    rw [← hstate] at hdragging
    refine hdragging.trans ⟨?_, ?_⟩
    · rintro ⟨before, coordinate, rest, hsplit, hrest⟩
      obtain ⟨first, others, hevents, rfl⟩ := exists_of_ownEvents_eq hsplit
      exact ⟨first, coordinate, others, hevents, hrest⟩
    · rintro ⟨before, coordinate, others, rfl, hothers⟩
      exact ⟨ownEvents pane before, coordinate, ownEvents pane others, by
        rw [ownEvents_append, ownEvents_down], hothers⟩
  case idle =>
    intro pane coordinate hstill
    exact perform_move_of_idle (Option.not_isSome_iff_eq_none.mp (Bool.eq_false_iff.mp hstill)) coordinate
  case still => exact hreached.still
  case moved =>
    intro pane before base later hevents hmoves
    subst hevents
    exact hready.moved hall hmoves
  case independent =>
    intro pane others last hsame hothers
    obtain ⟨other, storageOther, hallOther, hreadyOther, hstateOther⟩ := hready.performAll others
    have hlast : other = last := Except.ok.inj (hallOther.symm.trans hothers)
    subst hlast
    have hequal := (hstateOther pane).trans (hsame ▸ (hstate pane).symm)
    refine ⟨congrArg DividerState.divider hequal, fun fallback => ?_⟩
    rw [hreadyOther.persisted, hreached.persisted, hequal]

/-- Both dividers are dragged at once, the pointer goes down again in a drag, and every drag is released. -/
def mixedEvents : List PaneEvent :=
  [.down .context 500, .down .output 90, .move .context 450, .move .output 1000, .down .context 450,
    .move .context 400, .releaseAll, .move .output 0]

theorem followsProtocol_missingFile :
    ∃ layout reached, create (some ⟨some (.file missingFile), "a"⟩) 350 300 0 = .ok layout ∧
      layout.performAll mixedEvents = .ok reached ∧ FollowsProtocol layout mixedEvents reached := by
  have hcontext := Divider.create_of_get .x 0
    (show (SettingsStore.get ⟨some (.file missingFile), "a"⟩ contextWidthKey (.int 350)).1 =
      .ok (.int 350) from rfl) (by decide +kernel)
  have houtput := Divider.create_of_get .y 0
    (show (SettingsStore.get ⟨some (.file missingFile), "a"⟩ outputHeightKey (.int 300)).1 =
      .ok (.int 300) from rfl) (by decide +kernel)
  have hcreate : create (some ⟨some (.file missingFile), "a"⟩) 350 300 0 = .ok
      ⟨some ⟨some (.file missingFile), "a"⟩, ⟨contextWidthKey, .x, 0, .whole 350, none, []⟩,
        ⟨outputHeightKey, .y, 0, .whole 300, none, []⟩⟩ := by
    rw [create, hcontext, houtput]
    rfl
  obtain ⟨reached, hall, hfollows⟩ := followsProtocol_of_create isWorking_missingFile hcreate mixedEvents
  exact ⟨_, reached, hcreate, hall, hfollows⟩

end PaneLayout

end TemplateWorkbench
