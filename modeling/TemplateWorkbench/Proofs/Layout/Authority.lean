import TemplateWorkbench.Proofs.Layout.Seeding
import TemplateWorkbench.Proofs.Settings.Attempts

/-!
# The size of a divider is its own

A divider reads its store once, to begin with.  After that it only writes, and it asks nothing back: what
a move gives, the size and the drag after it and what listeners are told are those of a divider without a
store.  So it makes no difference to them how the store conducts itself, be it that it keeps some sizes
and refuses others, or that it stops short in the middle of a write.

What the store has after any of this is the last size that it has kept.  If it has kept none, it has what
it had, unless a refused write has brought a file to light on a path that goes back up.
-/

namespace TemplateWorkbench

open Json Results

namespace Divider

/-! ### What is seen of a divider -/

/-- What is seen of an event: what it gives, the size and the drag after it, and what is told of it. -/
structure Sight where
  result : Option Int
  size : Measure
  session : Option DragSession
  told : List String
deriving DecidableEq

/-- What is seen of an event that leads to a divider and gives a result. -/
def sight (divider : Divider) (result : Option Int) : Sight :=
  ⟨result, divider.size, divider.session, result.elim [] divider.announcements⟩

/-- An event on a divider: the divider after it, and the new size if there is one. -/
def turn (divider : Divider) (store : Option SettingsStore) :
    PointerEvent → Except DividerFault (Divider × Option Int)
  | .down coordinate => .ok (divider.pointerDown (.whole coordinate), none)
  | .move coordinate =>
    (divider.pointerMove store (.whole coordinate)).map fun moved => (moved.divider, moved.size)
  | .up => .ok (divider.pointerUp, none)

/-- What is seen of a divider without a store over events. -/
def sights (divider : Divider) : List PointerEvent → Except DividerFault (List Sight)
  | [] => .ok []
  | event :: rest =>
    match divider.turn none event with
    | .ok (next, result) => (next.sights rest).map (next.sight result :: ·)
    | .error fault => .error fault

/-- The store takes no part in what a divider does. -/
theorem turn_eq (divider : Divider) (store : Option SettingsStore) (event : PointerEvent) :
    divider.turn store event = divider.turn none event := by
  cases event with
  | down coordinate => rfl
  | up => rfl
  | move coordinate =>
      cases hsession : divider.session with
      | none => simp only [turn, pointerMove, hsession, Except.map]
      | some session =>
          cases hsize : session.sizeAt (.whole coordinate) divider.minSize <;>
            simp only [turn, pointerMove, hsession, hsize] <;> rfl

/-- What an event does to a divider and its storage: a size that it gives is asked to be kept. -/
theorem perform_of_turn {divider next : Divider} {storage : Storage} {space : String}
    {event : PointerEvent} {result : Option Int}
    (hturn : divider.turn (some ⟨some storage, space⟩) event = .ok (next, result)) :
    next.key = divider.key ∧ divider.perform (some ⟨some storage, space⟩) event = .ok
      (next, some ⟨some (result.elim storage fun size =>
        (storage.ask (.set space divider.key (.int size))).1), space⟩) := by
  cases event with
  | down coordinate =>
      cases hturn
      exact ⟨rfl, rfl⟩
  | up =>
      cases hturn
      exact ⟨rfl, rfl⟩
  | move coordinate =>
      rw [turn] at hturn
      obtain ⟨moved, hmove, hnext⟩ := map_eq_ok_iff.mp hturn
      cases hnext
      rw [perform, hmove]
      -- Outside of a drag a move changes nothing; in one it gives a size, which is to be kept.
      cases hsession : divider.session with
      | none =>
          rw [pointerMove_of_idle hsession] at hmove
          cases hmove
          exact ⟨rfl, rfl⟩
      | some session =>
          cases hsize : session.sizeAt (.whole coordinate) divider.minSize with
          | error fault =>
              simp [pointerMove, hsession, hsize, ofMeasure, bind, Except.bind] at hmove
          | ok size =>
              simp only [pointerMove, hsession, hsize, ofMeasure, bind, Except.bind, pure, Except.pure,
                Except.ok.injEq] at hmove
              subst hmove
              refine ⟨rfl, ?_⟩
              rw [Except.map, Option.map_some, SettingsStore.set_eq_ask]
              rfl

/-- An event on a divider with a whole size does not fault, and leaves such a divider. -/
theorem IsSized.turn {divider : Divider} {least size : Int} (hsized : IsSized least size divider)
    (store : Option SettingsStore) (event : PointerEvent) :
    ∃ next result new, divider.turn store event = .ok (next, result) ∧ IsSized least new next := by
  cases event with
  | down coordinate => exact ⟨_, _, size, rfl, hsized.pointerDown coordinate⟩
  | up => exact ⟨_, _, size, rfl, hsized.pointerUp⟩
  | move coordinate =>
      cases hsession : divider.session with
      | none =>
          refine ⟨divider, none, size, ?_, hsized⟩
          rw [Divider.turn, pointerMove_of_idle hsession]
          rfl
      | some session =>
          have hdragging : divider.isDragging = true := Option.isSome_iff_exists.mpr ⟨session, hsession⟩
          obtain ⟨moved, new, hmove, hmoved, -⟩ := hsized.pointerMove hdragging store coordinate
          refine ⟨moved.divider, moved.size, new, ?_, hmoved⟩
          rw [Divider.turn, hmove]
          rfl

/-! ### Storages of any conduct -/

/-- How a storage conducts itself when a divider writes its size at one of its events. -/
structure Conduct (space key : String) where
  /-- What becomes of a size that is written at an event, and whether it is kept. -/
  meet : Nat → Storage → Int → Storage × Bool
  /-- It is one of the ways in which a storage may come out of a write. -/
  outcome : ∀ count (storage : Storage) size,
    storage.Outcome (.set space key (.int size)) (meet count storage size).1 (meet count storage size).2

/-- The conduct of a storage that always does what it is asked. -/
def Conduct.obeying (space key : String) : Conduct space key where
  meet _ storage size :=
    ((storage.ask (.set space key (.int size))).1, (storage.ask (.set space key (.int size))).2.isDone)
  outcome _ _ _ := .asked

/-- What comes of a divider over a storage: what is seen, the sizes that were written, each with whether it
was kept, and the storage. -/
structure Course where
  sights : List Sight
  writes : List (Int × Bool)
  storage : Storage

/-- What comes of a divider when what came of it after an event is known. -/
def Course.after (course : Course) (sight : Sight) (writes : List (Int × Bool)) : Course :=
  ⟨sight :: course.sights, writes ++ course.writes, course.storage⟩

variable {space key : String}

/-- Events on a divider one after another, over a storage with a conduct; `count` of them came before. -/
def run (conduct : Conduct space key) (count : Nat) (divider : Divider) (storage : Storage) :
    List PointerEvent → Except DividerFault Course
  | [] => .ok ⟨[], [], storage⟩
  | event :: rest =>
    match divider.turn (some ⟨some storage, space⟩) event with
    | .error fault => .error fault
    | .ok (next, none) =>
      (run conduct (count + 1) next storage rest).map (·.after (next.sight none) [])
    | .ok (next, some size) =>
      let (after, kept) := conduct.meet count storage size
      (run conduct (count + 1) next after rest).map (·.after (next.sight (some size)) [(size, kept)])

/-- The last size that was kept. -/
def lastKept (writes : List (Int × Bool)) : Option Int :=
  ((writes.filter (·.2)).getLast?).map (·.1)

theorem lastKept_cons (size : Int) (kept : Bool) (writes : List (Int × Bool)) :
    lastKept ((size, kept) :: writes) =
      (lastKept writes).or (if kept = true then some size else none) := by
  cases kept with
  | false => simp [lastKept]
  | true =>
      cases hlast : (writes.filter (·.2)).getLast? <;>
        simp [lastKept, List.getLast?_cons, hlast]

variable {divider : Divider} {storage : Storage} {course : Course} {events : List PointerEvent}
  {conduct : Conduct space key} {count : Nat}

/-! ### What comes of a divider -/

/-- Over a storage of any conduct the same is seen of a divider as without a store, and what is written are
the sizes that its moves give. -/
theorem IsSized.exists_run {least size : Int} (hsized : IsSized least size divider)
    (conduct : Conduct space key) (count : Nat) (storage : Storage) (events : List PointerEvent) :
    ∃ course, run conduct count divider storage events = .ok course ∧
      divider.sights events = .ok course.sights ∧
      course.writes.map Prod.fst = course.sights.filterMap Sight.result := by
  induction events generalizing divider count storage size with
  | nil => exact ⟨⟨[], [], storage⟩, rfl, rfl, rfl⟩
  | cons event rest ih =>
      obtain ⟨next, result, new, hturn, hnext⟩ := hsized.turn (some ⟨some storage, space⟩) event
      have halone := (turn_eq divider (some ⟨some storage, space⟩) event).symm.trans hturn
      -- Only a size that an event gives is written, and nothing is seen of what becomes of the write.
      cases result with
      | none =>
          obtain ⟨course, hrun, hsights, hwrites⟩ := ih hnext (count + 1) storage
          refine ⟨course.after (next.sight none) [], ?_, ?_, hwrites⟩
          · simp only [run, hturn, hrun]
            rfl
          · simp only [sights, halone, hsights]
            rfl
      | some written =>
          obtain ⟨course, hrun, hsights, hwrites⟩ :=
            ih hnext (count + 1) (conduct.meet count storage written).1
          refine ⟨course.after (next.sight (some written))
            [(written, (conduct.meet count storage written).2)], ?_, ?_, ?_⟩
          · simp only [run, hturn, hrun]
            rfl
          · simp only [sights, halone, hsights]
            rfl
          · exact congrArg (written :: ·) hwrites

/-- What is read of a storage when writes have been met. -/
structure Keeps (storage : Storage) (space key : String) (writes : List (Int × Bool)) (after : Storage) :
    Prop where
  /-- The last size that was kept is read. -/
  kept : ∀ size, lastKept writes = some size →
    ∀ fallback, (SettingsStore.get ⟨some after, space⟩ key fallback).1 = .ok (.int size)
  /-- Where none was kept a steady storage has what it had. -/
  unkept : lastKept writes = none → storage.IsSteady →
    ∀ fallback, (SettingsStore.get ⟨some after, space⟩ key fallback).1 =
      (SettingsStore.get ⟨some storage, space⟩ key fallback).1

/-- What is read of a storage at the end of a run. -/
theorem keeps_of_run (hrun : run conduct count divider storage events = .ok course) :
    Keeps storage space key course.writes course.storage := by
  induction events generalizing divider count storage course with
  | nil =>
      cases hrun
      exact ⟨nofun, fun _ _ _ => rfl⟩
  | cons event rest ih =>
      rw [run] at hrun
      split at hrun
      · cases hrun
      · obtain ⟨later, hlater, rfl⟩ := map_eq_ok_iff.mp hrun
        have hkeeps := ih hlater
        exact ⟨hkeeps.kept, hkeeps.unkept⟩
      · next next size hturn =>
          obtain ⟨later, hlater, rfl⟩ := map_eq_ok_iff.mp hrun
          have hkeeps := ih hlater
          have houtcome := conduct.outcome count storage size
          simp only [Course.after, List.cons_append, List.nil_append]
          refine ⟨fun last hlast fallback => ?_, fun hnone hsteady fallback => ?_⟩
          · rw [lastKept_cons] at hlast
            cases hrest : lastKept later.writes with
            | some other =>
                rw [hrest] at hlast
                cases hlast
                exact hkeeps.kept _ hrest fallback
            | none =>
                -- The write of this event is the last one that was done.
                rw [hrest, Option.none_or, Option.ite_none_right_eq_some, Option.some.injEq] at hlast
                obtain ⟨hdone, rfl⟩ := hlast
                obtain ⟨hsteady, hget⟩ := houtcome.of_done hdone (.int size) (Nat.zero_le _)
                rw [hkeeps.unkept hrest hsteady, hget]
          · rw [lastKept_cons, Option.or_eq_none_iff] at hnone
            obtain ⟨hrest, hwrite⟩ := hnone
            have hrefused : (conduct.meet count storage size).2 = false := by simpa using hwrite
            obtain ⟨hafter, hget⟩ := hsteady.of_not_done houtcome hrefused
            rw [hkeeps.unkept hrest hafter, hget]

/-- Over a storage that always does what it is asked a run leaves the storage that the divider does. -/
theorem performAll_of_run (hkey : divider.key = key)
    (hrun : run (Conduct.obeying space key) count divider storage events = .ok course) :
    ∃ reached, divider.performAll (some ⟨some storage, space⟩) events =
      .ok (reached, some ⟨some course.storage, space⟩) := by
  induction events generalizing divider count storage course with
  | nil =>
      cases hrun
      exact ⟨divider, rfl⟩
  | cons event rest ih =>
      rw [run] at hrun
      split at hrun
      · cases hrun
      · next next hturn =>
          obtain ⟨later, hlater, rfl⟩ := map_eq_ok_iff.mp hrun
          obtain ⟨hnext, hperform⟩ := perform_of_turn hturn
          obtain ⟨reached, hall⟩ := ih (hnext.trans hkey) hlater
          exact ⟨reached, by rw [performAll, hperform]; exact hall⟩
      · next next size hturn =>
          obtain ⟨later, hlater, rfl⟩ := map_eq_ok_iff.mp hrun
          obtain ⟨hnext, hperform⟩ := perform_of_turn hturn
          obtain ⟨reached, hall⟩ := ih (hnext.trans hkey) hlater
          rw [hkey] at hperform
          exact ⟨reached, by rw [performAll, hperform]; exact hall⟩

/-- Whatever a storage makes of the writes of a divider, the same is seen of the divider as of one with the
same size and without a store.  The last size that was kept is read from the storage; if none was kept and
no path of a missing file goes back up, it is read as before. -/
theorem sights_without_store {axis : Axis} {given minSize : Int}
    (hcreate : create key axis (.whole given) (some ⟨some storage, space⟩) minSize = .ok divider)
    (listeners : List String) (conduct : Conduct space key) (events : List PointerEvent) :
    ∃ size alone course, divider.size = .whole size ∧
      create key axis (.whole size) none minSize = .ok alone ∧
      run conduct 0 { divider with listeners } storage events = .ok course ∧
      sights { alone with listeners } events = .ok course.sights ∧
      course.writes.map Prod.fst = course.sights.filterMap Sight.result ∧
      (∀ last, lastKept course.writes = some last → ∀ fallback,
        (SettingsStore.get ⟨some course.storage, space⟩ key fallback).1 = .ok (.int last)) ∧
      (lastKept course.writes = none →
        (∀ file, storage = .file file → file.tree.place? file.path = .error .missing →
          file.tree.IsRooted ∧ FileTree.upName ∉ file.path) →
        ∀ fallback, (SettingsStore.get ⟨some course.storage, space⟩ key fallback).1 =
          (SettingsStore.get ⟨some storage, space⟩ key fallback).1) := by
  obtain ⟨-, rfl⟩ := create_eq_ok_iff.mp hcreate
  have hsized : IsSized (max minSize 0)
      (startSize key given (max minSize 0) (some ⟨some storage, space⟩))
      ⟨key, axis, max minSize 0,
        .whole (startSize key given (max minSize 0) (some ⟨some storage, space⟩)), none, listeners⟩ :=
    ⟨rfl, rfl, nofun⟩
  obtain ⟨course, hrun, hsights, hwrites⟩ := hsized.exists_run conduct 0 storage events
  have hkeeps := keeps_of_run hrun
  exact ⟨_, _, course, rfl, rfl, hrun, hsights, hwrites, hkeeps.kept, fun hnone hway =>
    hkeeps.unkept hnone fun file hfile => FileTree.isSteady_of_rooted (hway file hfile)⟩

/-- The conduct of a storage that refuses every other write. -/
def Conduct.fickle (space key : String) : Conduct space key where
  meet count storage size :=
    if count % 2 = 0 then (obeying space key).meet count storage size else (storage, false)
  outcome count storage size := by
    split
    · exact .asked
    · exact .refused

/-- A drag with three moves, of which the one in the middle is kept. -/
def threeMoves : List PointerEvent := [.down 500, .move 450, .move 400, .move 300, .up]

/-- Over a missing file that is written every other time all sizes are seen, and the one in the middle is
read. -/
theorem sights_without_store_fickle :
    ∃ divider alone course,
      create "k" .x (.whole 350) (some ⟨some (.file missingFile), "a"⟩) 0 = .ok divider ∧
      create "k" .x (.whole 350) none 0 = .ok alone ∧
      run (Conduct.fickle "a" "k") 0 { divider with listeners := ["l"] } (.file missingFile) threeMoves =
        .ok course ∧
      sights { alone with listeners := ["l"] } threeMoves = .ok course.sights ∧
      course.sights.map Sight.told = [[], ["l=400"], ["l=450"], ["l=550"], []] ∧
      ∀ fallback, (SettingsStore.get ⟨some course.storage, "a"⟩ "k" fallback).1 = .ok (.int 450) := by
  have hcreate : create "k" .x (.whole 350) (some ⟨some (.file missingFile), "a"⟩) 0 =
      .ok ⟨"k", .x, 0, .whole 350, none, []⟩ := by
    decide +kernel
  obtain ⟨size, alone, course, hsize, halone, hrun, hsights, -, hkept, -⟩ :=
    sights_without_store hcreate ["l"] (Conduct.fickle "a" "k") threeMoves
  cases hsize
  have hresults :=
    congrArg (·.map fun course => (course.sights.map Sight.told, lastKept course.writes)) hrun
  have hcomputed : (run (Conduct.fickle "a" "k") 0 ⟨"k", .x, 0, .whole 350, none, ["l"]⟩
      (.file missingFile) threeMoves).map
        (fun course => (course.sights.map Sight.told, lastKept course.writes)) =
      .ok ([[], ["l=400"], ["l=450"], ["l=550"], []], some 450) := by
    decide +kernel
  obtain ⟨htold, hlast⟩ := Prod.mk.inj (Except.ok.inj (hresults.symm.trans hcomputed))
  exact ⟨_, alone, course, hcreate, halone, hrun, hsights, htold, hkept 450 hlast⟩

end Divider

end TemplateWorkbench
