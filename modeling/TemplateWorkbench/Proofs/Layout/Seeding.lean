import TemplateWorkbench.Proofs.Layout.Dragging
import TemplateWorkbench.Proofs.Number.Rounding
import TemplateWorkbench.Proofs.Settings.Answers

/-!
# The sizes of dividers

What size does a divider begin with, and when is it below its least size?

## The sizes that a layout begins with

A divider begins with the size that is stored under its key.  What is stored is not trusted: it may be any
text, or there is none, or it cannot be told.  A number stands for its integer part and everything that is
no finite number for the given size.  Without a value the store gives back the given size itself.

Two things stop a divider.  A text that is nested too deeply for the reader stops the store.  A whole number
is asked whether it is finite by making it a double, and from `2 ^ 1024 - 2 ^ 970` on there is none; the
given size is asked too when nothing is stored.
-/

namespace TemplateWorkbench

open Results

/-- What the storage of a store answers for a key; without a storage there is nothing. -/
def SettingsStore.answer (store : SettingsStore) (key : String) : Except StorageFault (Option String) :=
  match store.storage with
  | none => .ok none
  | some storage => storage.get? (store.keyFor key)

/-- What a read gives is told by the answer. -/
theorem SettingsStore.get_eq_ok_iff {store : SettingsStore} {key : String} {fallback value : Json} :
    (store.get key fallback).1 = .ok value ↔
      IsFlat (store.answer key) ∧ value = (settingOf (store.answer key)).getD fallback := by
  obtain ⟨_ | storage, space⟩ := store
  · -- Without a storage a read is answered as if nothing were found.
    change (answered key fallback (.ok none)).1 = .ok value ↔ _
    exact answered_eq_ok_iff _
  · exact answered_eq_ok_iff _

/-- The integer part of a value that is a finite number. -/
def Json.integerPart? : Json → Option Int
  | .int value => some value
  | .double value => value.truncate?
  | _ => none

/-- A value that is no whole number without a double. -/
def Json.IsInRange (value : Json) : Prop :=
  ∀ whole, value = .int whole → whole.natAbs < Double.rangeEnd

namespace Divider

variable {key : String} {axis : Axis} {given minSize : Int}

/-! ### The size for a value -/

/-- The size for a value: its integer part, at least `least`, or the given size. -/
def sizeFor (given least : Int) (value : Json) : Int :=
  value.integerPart?.elim given (max · least)

/-- A double has an integer part if it is finite. -/
theorem isSome_truncate? (value : Double) : value.truncate?.isSome = value.isFinite := by
  cases value <;> rfl

/-- A stored value gives a size exactly if it is in the range of the doubles. -/
theorem storedSize_eq_ok_iff {least : Int} {stored : Json} {size : Measure} :
    storedSize (.whole given) least stored = .ok size ↔
      stored.IsInRange ∧ size = .whole (sizeFor given least stored) := by
  -- Only numbers are taken for sizes, and only an integer can be out of the range of the doubles.
  cases stored with
  | int value =>
      have hrange : (Json.int value).IsInRange ↔ (Double.ofInt value).isFinite = true := by
        rw [Double.isFinite_ofInt_iff]
        exact ⟨fun hvalue => hvalue value rfl, fun hvalue whole hwhole => by cases hwhole; exact hvalue⟩
      rw [hrange]
      simp only [storedSize, Measure.ofJson?, Measure.isFinite, Measure.toDouble]
      split
      · next hfinite =>
          simp [hfinite, Measure.truncate, sizeFor, Json.integerPart?, eq_comm, bind, Except.bind, pure,
            Except.pure]
      · next hfinite => simp [hfinite, bind, Except.bind]
  | double value =>
      have hrange : (Json.double value).IsInRange := by
        rintro whole ⟨⟩
      have hpart := isSome_truncate? value
      simp only [hrange, true_and, storedSize, Measure.ofJson?, Measure.isFinite, sizeFor,
        Json.integerPart?]
      cases htruncate : value.truncate? with
      | none =>
          rw [htruncate] at hpart
          simp [← hpart, eq_comm, bind, Except.bind, pure, Except.pure]
      | some whole =>
          rw [htruncate] at hpart
          simp [← hpart, Measure.truncate, Measure.integerBy, htruncate, eq_comm, bind, Except.bind, pure,
            Except.pure]
  | null | bool _ | string _ | list _ | object _ =>
      simp [storedSize, Measure.ofJson?, Json.IsInRange, sizeFor, Json.integerPart?, eq_comm]

/-! ### What a divider begins with -/

/-- What a store gives a divider to begin with: the value that is stored, or else the given size. -/
def seed (store : SettingsStore) (key : String) (given : Int) : Json :=
  (SettingsStore.settingOf (store.answer key)).getD (.int given)

/-- A store that a divider can begin with. -/
def CanSeed (key : String) (given : Int) (store : SettingsStore) : Prop :=
  SettingsStore.IsFlat (store.answer key) ∧ (seed store key given).IsInRange

/-- The size that a divider begins with. -/
def startSize (key : String) (given least : Int) : Option SettingsStore → Int
  | none => given
  | some store => sizeFor given least (seed store key given)

/-- With a store a divider is created if a value is read and the value gives a size. -/
theorem create_some_eq_ok_iff {own : SettingsStore} {given : Measure} {divider : Divider} :
    create key axis given (some own) minSize = .ok divider ↔
      ∃ stored, (own.get key given.toJson).1 = .ok stored ∧
      ∃ size, storedSize given (max minSize 0) stored = .ok size ∧
        divider = ⟨key, axis, max minSize 0, size, none, []⟩ := by
  rw [create]
  cases hread : (own.get key given.toJson).1 with
  | error message => simp
  | ok stored =>
      simp only [Except.ok.injEq, exists_eq_left']
      cases storedSize given (max minSize 0) stored with
      | error fault => simp [ofMeasure, bind, Except.bind]
      | ok size => simp [ofMeasure, bind, Except.bind, pure, Except.pure, eq_comm]

/-- A divider is created exactly if its store, if it has one, is one that it can begin with. -/
theorem create_eq_ok_iff {store : Option SettingsStore} {divider : Divider} :
    create key axis (.whole given) store minSize = .ok divider ↔
      (∀ own, store = some own → CanSeed key given own) ∧
      divider = ⟨key, axis, max minSize 0, .whole (startSize key given (max minSize 0) store), none, []⟩ := by
  cases store with
  | none => simp [create, startSize, pure, Except.pure, eq_comm]
  | some own =>
      simp only [create_some_eq_ok_iff, Measure.toJson, SettingsStore.get_eq_ok_iff,
        storedSize_eq_ok_iff, Option.some.injEq, forall_eq', CanSeed, startSize]
      constructor
      · rintro ⟨stored, ⟨hflat, rfl⟩, size, ⟨hrange, rfl⟩, hdivider⟩
        exact ⟨⟨hflat, hrange⟩, hdivider⟩
      · rintro ⟨⟨hflat, hrange⟩, hdivider⟩
        exact ⟨_, ⟨hflat, rfl⟩, _, ⟨hrange, rfl⟩, hdivider⟩

end Divider

/-! ### What a layout begins with -/

namespace PaneLayout

variable {layout : PaneLayout} {minSize : Int}

/-- The size of a divider, told by what its store holds under its key. -/
structure IsSeeded (store : Option SettingsStore) (key : String) (given least size : Int) : Prop where
  /-- A number that is stored stands for its integer part, which is not let below the least size. -/
  number : ∀ own value whole, store = some own →
    SettingsStore.settingOf (own.answer key) = some value → value.integerPart? = some whole →
    size = max whole least
  /-- A value that is stored and is no finite number leaves the given size as it is. -/
  other : ∀ own value, store = some own →
    SettingsStore.settingOf (own.answer key) = some value → value.integerPart? = none → size = given
  /-- Where no value is stored, the given size is not let below the least size. -/
  absent : ∀ own, store = some own → SettingsStore.settingOf (own.answer key) = none →
    size = max given least
  /-- Without a store the given size is left as it is. -/
  alone : store = none → size = given

theorem isSeeded_startSize (store : Option SettingsStore) (key : String) (given least : Int) :
    IsSeeded store key given least (Divider.startSize key given least store) where
  number := by
    rintro own value whole rfl hvalue hwhole
    simp [Divider.startSize, Divider.seed, Divider.sizeFor, hvalue, hwhole]
  other := by
    rintro own value rfl hvalue hnone
    simp [Divider.startSize, Divider.seed, Divider.sizeFor, hvalue, hnone]
  absent := by
    rintro own rfl hnone
    simp [Divider.startSize, Divider.seed, Divider.sizeFor, hnone, Json.integerPart?]
  alone := by
    rintro rfl
    rfl

/-- A layout is created exactly if both of its dividers are. -/
theorem create_eq_ok_iff {store : Option SettingsStore} {sizes : Pane → Int} :
    create store (sizes .context) (sizes .output) minSize = .ok layout ↔
      (∀ pane own, store = some own → Divider.CanSeed pane.settingKey (sizes pane) own) ∧
      layout = ⟨store,
        ⟨contextWidthKey, .x, max minSize 0,
          .whole (Divider.startSize contextWidthKey (sizes .context) (max minSize 0) store), none, []⟩,
        ⟨outputHeightKey, .y, max minSize 0,
          .whole (Divider.startSize outputHeightKey (sizes .output) (max minSize 0) store), none, []⟩⟩ := by
  rw [create]
  simp only [bind_eq_ok_iff, Divider.create_eq_ok_iff, pure, Except.pure, Except.ok.injEq]
  constructor
  · rintro ⟨context, ⟨hcontext, rfl⟩, output, ⟨houtput, rfl⟩, rfl⟩
    refine ⟨fun pane => ?_, rfl⟩
    cases pane with
    | context => exact hcontext
    | output => exact houtput
  · rintro ⟨hpanes, rfl⟩
    exact ⟨_, ⟨hpanes .context, rfl⟩, _, ⟨hpanes .output, rfl⟩, rfl⟩

/-- Over every store a layout is created exactly if no text under one of its keys is nested too deeply and
every size that is a whole number has a double, be it stored or given because nothing is stored.  The
sizes are then whole numbers, told by what is stored. -/
theorem create_spec (store : Option SettingsStore) (sizes : Pane → Int) (minSize : Int) :
    ((create store (sizes .context) (sizes .output) minSize).isOk = true ↔
      ∀ pane own, store = some own →
        SettingsStore.IsFlat (own.answer pane.settingKey) ∧
        ∀ whole, (SettingsStore.settingOf (own.answer pane.settingKey)).getD (.int (sizes pane)) =
          .int whole → whole.natAbs < 2 ^ 1024 - 2 ^ 970) ∧
    ∀ layout, create store (sizes .context) (sizes .output) minSize = .ok layout →
      ∀ pane, ∃ size, (layout.divider pane).size = .whole size ∧
        IsSeeded store pane.settingKey (sizes pane) (max minSize 0) size := by
  refine ⟨⟨fun hok => ?_, fun hpanes => ?_⟩, fun layout hcreate pane => ?_⟩
  · obtain ⟨layout, hcreate⟩ := exists_of_isOk hok
    exact (create_eq_ok_iff.mp hcreate).1
  · rw [create_eq_ok_iff.mpr ⟨hpanes, rfl⟩]
    rfl
  · obtain ⟨-, rfl⟩ := create_eq_ok_iff.mp hcreate
    cases pane with
    | context => exact ⟨_, rfl, isSeeded_startSize ..⟩
    | output => exact ⟨_, rfl, isSeeded_startSize ..⟩

/-- A storage in which the width of the context editor is the given text. -/
def storageOfWidth (text : String) : Storage := .memory [("template-playground:contextWidth", text)]

theorem get?_storageOfWidth (text : String) : (storageOfWidth text).get?
    (SettingsStore.fullKey SettingsStore.defaultSpace contextWidthKey) = .ok (some text) := rfl

/-- Over a width that is a whole number without a double no layout is created. -/
theorem create_storageOfWidth {text : String} {whole : Int} (hread : Json.read text = .ok (.int whole))
    (hhuge : Double.rangeEnd ≤ whole.natAbs) (contextWidth outputHeight minSize : Int) :
    create (some ⟨some (storageOfWidth text), SettingsStore.defaultSpace⟩) contextWidth outputHeight
      minSize = .error (.measure .tooLarge) := by
  have hget : (SettingsStore.get ⟨some (storageOfWidth text), SettingsStore.defaultSpace⟩
      contextWidthKey (.int contextWidth)).1 = .ok (.int whole) :=
    SettingsStore.get_of_read _ (get?_storageOfWidth text) hread
  have hdouble : (Double.ofInt whole).isFinite = false := by
    rw [Bool.eq_false_iff, Ne, Double.isFinite_ofInt_iff]
    omega
  simp only [create, Divider.create, Measure.toJson, hget, Divider.storedSize, Measure.ofJson?,
    Measure.isFinite, Measure.toDouble, hdouble, Bool.false_eq_true, if_false]
  rfl

/-- A one with four hundred zeros. -/
def hugeNumber : Int := Nat.pow 10 400

theorem create_hugeNumber :
    create (some ⟨some (storageOfWidth (Number.integerText hugeNumber)), SettingsStore.defaultSpace⟩)
      350 300 0 = .error (.measure .tooLarge) :=
  create_storageOfWidth (read_integerText (by decide +kernel)) (by decide +kernel) 350 300 0

end PaneLayout

end TemplateWorkbench

/-!
## The least size of a divider

No move brings a divider below its least size, which is never negative and stays what it was.  The size it
begins with is not always held to it: a given size is left as it is without a store, and where the value
that is stored is no finite number.  So a divider is below its least size exactly as long as it has the
size it was given, which was below, and has not been moved in a drag.

The store takes no part in this.  Whether it keeps what a divider writes or fails at every write, the sizes
are the same.
-/

namespace TemplateWorkbench

open Results

namespace Divider

variable {divider : Divider} {least size : Int}

/-! ### Runs of one divider -/

/-- An event on a divider: the divider and its store after it. -/
def perform (divider : Divider) (store : Option SettingsStore) :
    PointerEvent → Except DividerFault (Divider × Option SettingsStore)
  | .down coordinate => .ok (divider.pointerDown (.whole coordinate), store)
  | .move coordinate =>
    (divider.pointerMove store (.whole coordinate)).map fun moved => (moved.divider, moved.store)
  | .up => .ok (divider.pointerUp, store)

/-- Events on a divider one after another. -/
def performAll (divider : Divider) (store : Option SettingsStore) :
    List PointerEvent → Except DividerFault (Divider × Option SettingsStore)
  | [] => .ok (divider, store)
  | event :: rest =>
    match divider.perform store event with
    | .ok (next, after) => next.performAll after rest
    | .error fault => .error fault

/-- Whether one of the events is a move in a drag, for a divider that is dragged already or is not. -/
def movesInDrag : Bool → List PointerEvent → Bool
  | _, [] => false
  | _, .down _ :: rest => movesInDrag true rest
  | dragging, .move _ :: rest => dragging || movesInDrag dragging rest
  | _, .up :: rest => movesInDrag false rest

/-- A divider with a whole size and with a least size, whose drag, if one goes on, began at whole numbers. -/
structure IsSized (least size : Int) (divider : Divider) : Prop where
  minSize : divider.minSize = least
  size : divider.size = .whole size
  session : ∀ session, divider.session = some session → IsWholeDrag session

theorem IsSized.pointerDown (hsized : IsSized least size divider) (coordinate : Int) :
    IsSized least size (divider.pointerDown (.whole coordinate)) := by
  refine ⟨hsized.minSize, hsized.size, ?_⟩
  rintro session ⟨rfl⟩
  exact ⟨coordinate, size, rfl, hsized.size⟩

theorem IsSized.pointerUp (hsized : IsSized least size divider) :
    IsSized least size divider.pointerUp :=
  ⟨hsized.minSize, hsized.size, nofun⟩

/-- A move in a drag leads to a size that is not below the least one. -/
theorem IsSized.pointerMove (hsized : IsSized least size divider) (hdragging : divider.isDragging = true)
    (store : Option SettingsStore) (coordinate : Int) :
    ∃ moved new, divider.pointerMove store (.whole coordinate) = .ok moved ∧
      IsSized least new moved.divider ∧ least ≤ new := by
  obtain ⟨session, hsession⟩ := Option.isSome_iff_exists.mp hdragging
  obtain ⟨base, start, hbase, hstart⟩ := hsized.session session hsession
  refine ⟨_, _, pointerMove_of_dragging hsession hbase hstart store coordinate,
    ⟨hsized.minSize, rfl, hsized.session⟩, ?_⟩
  rw [hsized.minSize]
  exact le_max_right _ _

/-- Events leave the size as it is or, if one of them is a move in a drag, lead to one that is not below
the least size. -/
theorem IsSized.performAll (hsized : IsSized least size divider) (store : Option SettingsStore)
    (events : List PointerEvent) :
    ∃ reached after new, divider.performAll store events = .ok (reached, after) ∧
      IsSized least new reached ∧
      if movesInDrag divider.isDragging events = true then least ≤ new else new = size := by
  induction events generalizing divider store size with
  | nil => exact ⟨divider, store, size, rfl, hsized, rfl⟩
  | cons event rest ih =>
      cases event with
      | down coordinate => exact ih (hsized.pointerDown coordinate) store
      | up => exact ih hsized.pointerUp store
      | move coordinate =>
          cases hdragging : divider.isDragging with
          | false =>
              have hidle := Option.not_isSome_iff_eq_none.mp (Bool.eq_false_iff.mp hdragging)
              have hstay : divider.perform store (.move coordinate) = .ok (divider, store) := by
                rw [perform, pointerMove_of_idle hidle]
                rfl
              have hrest := ih hsized store
              simpa only [Divider.performAll, hstay, movesInDrag, hdragging, Bool.false_or] using hrest
          | true =>
              obtain ⟨moved, next, hmove, hnext, hleast⟩ :=
                hsized.pointerMove hdragging store coordinate
              have hperform :
                  divider.perform store (.move coordinate) = .ok (moved.divider, moved.store) := by
                rw [perform, hmove]
                rfl
              obtain ⟨reached, last, new, hrest, hreached, hnew⟩ := ih hnext moved.store
              refine ⟨reached, last, new, by rw [Divider.performAll, hperform]; exact hrest, hreached, ?_⟩
              rw [movesInDrag, Bool.true_or, if_pos rfl]
              split at hnew
              · exact hnew
              · rw [hnew]
                exact hleast

/-! ### Sizes below the least size -/

/-- A divider that begins with the given size as it is: it has no store, or what is stored is no finite
number. -/
def KeepsGiven (key : String) (store : Option SettingsStore) : Prop :=
  ∀ own, store = some own →
    ∃ value, SettingsStore.settingOf (own.answer key) = some value ∧ value.integerPart? = none

/-- A divider begins below a least size exactly with a given size that is below and is kept. -/
theorem startSize_lt_iff (key : String) (given least : Int) (store : Option SettingsStore) :
    startSize key given least store < least ↔ given < least ∧ KeepsGiven key store := by
  cases store with
  | none => simp [startSize, KeepsGiven]
  | some own =>
      simp only [startSize, sizeFor, seed, KeepsGiven, Option.some.injEq, forall_eq']
      cases hsetting : SettingsStore.settingOf (own.answer key) with
      | none => simp [Json.integerPart?]
      | some value =>
          cases hpart : value.integerPart? with
          | none => simp [hpart]
          | some whole => simp [hpart]

/-- Whatever the pointer does, a divider that has been created is below its least size exactly if it has
been given a size below it that was kept, and has not been moved in a drag. -/
theorem size_lt_minSize_iff {key : String} {axis : Axis} {given minSize : Int}
    {store : Option SettingsStore} {divider : Divider}
    (hcreate : create key axis (.whole given) store minSize = .ok divider) (events : List PointerEvent) :
    ∃ reached after size, divider.performAll store events = .ok (reached, after) ∧
      reached.size = .whole size ∧ reached.minSize = max minSize 0 ∧ 0 ≤ reached.minSize ∧
      (size < reached.minSize ↔
        given < max minSize 0 ∧ KeepsGiven key store ∧ movesInDrag false events = false) := by
  obtain ⟨-, rfl⟩ := create_eq_ok_iff.mp hcreate
  have hstart : IsSized (max minSize 0) (startSize key given (max minSize 0) store)
      ⟨key, axis, max minSize 0, .whole (startSize key given (max minSize 0) store), none, []⟩ :=
    ⟨rfl, rfl, nofun⟩
  obtain ⟨reached, after, size, hall, hreached, hsize⟩ := hstart.performAll store events
  refine ⟨reached, after, size, hall, hreached.size, hreached.minSize, ?_, ?_⟩
  · rw [hreached.minSize]
    exact le_max_right _ _
  · rw [hreached.minSize]
    change if movesInDrag false events = true then _ else _ at hsize
    cases hmoved : movesInDrag false events with
    | true =>
        rw [hmoved, if_pos rfl] at hsize
        simp only [Bool.true_eq_false, and_false, iff_false]
        omega
    | false =>
        rw [hmoved, if_neg Bool.false_ne_true] at hsize
        rw [hsize, startSize_lt_iff, eq_self_iff_true, and_true]

/-- A store in which the width of the context editor is a word. -/
def wordyStore : SettingsStore :=
  ⟨some (PaneLayout.storageOfWidth "\"wide\""), SettingsStore.defaultSpace⟩

/-- Over a width that is a word the given size is kept until the divider is moved in a drag. -/
theorem size_lt_minSize_wordyStore :
    ∃ divider, create contextWidthKey .x (.whole 50) (some wordyStore) 100 = .ok divider ∧
      ∀ events, ∃ reached after size, divider.performAll (some wordyStore) events = .ok (reached, after) ∧
        reached.size = .whole size ∧ reached.minSize = max 100 0 ∧ 0 ≤ reached.minSize ∧
        (size < reached.minSize ↔ (50 : Int) < max 100 0 ∧
          KeepsGiven contextWidthKey (some wordyStore) ∧ movesInDrag false events = false) := by
  have hcreate : create contextWidthKey .x (.whole 50) (some wordyStore) 100 =
      .ok ⟨contextWidthKey, .x, 100, .whole 50, none, []⟩ := by
    decide +kernel
  exact ⟨_, hcreate, fun events => size_lt_minSize_iff hcreate events⟩

/-- Without a store a divider begins with the given size, be it below the least size. -/
theorem create_belowMinSize :
    create "k" .x (.whole 50) none 100 = .ok ⟨"k", .x, 100, .whole 50, none, []⟩ := by
  rfl

end Divider

end TemplateWorkbench
