import TemplateWorkbench.Proofs.Layout.Seeding

/-!
# Sizes after a restart

Nothing of a layout outlives it but what its dividers have written.  A divider that has been moved in a drag
has written the size it came to, and that is read back as it is.  One that has not been moved has left its
setting as it was found, whatever that is, and the same size begins from it again.  Both are one invariant:
a divider has the size that a new divider begins with over the store as it is now.

A size can be written that no divider begins with, a whole number without a double.  So the sizes that a
layout ends with have to be in the range of the doubles, and no other sizes have to.
-/

namespace TemplateWorkbench

open Json Results

/-- An answer with a text that can be read is not nested too deeply. -/
theorem SettingsStore.isFlat_of_read {text : String} {value : Json} (hread : Json.read text = .ok value) :
    IsFlat (.ok (some text)) := by
  rintro other ⟨rfl⟩ ⟨container, hdeep⟩
  rw [hread] at hdeep
  cases hdeep

/-! ### A divider and its setting -/

namespace Divider

variable {pane other : Pane} {given least : Int} {storage : Storage} {space : String} {divider : Divider}

/-- The divider of a pane has the size that a new one begins with over a store; only if that is the very
number that is stored may it be out of the range of the doubles. -/
structure Mirrors (pane : Pane) (given least : Int) (store : SettingsStore) (divider : Divider) : Prop where
  key : divider.key = pane.settingKey
  sized : IsSized least (startSize pane.settingKey given least (some store)) divider
  flat : SettingsStore.IsFlat (store.answer pane.settingKey)
  range : ∀ whole, seed store pane.settingKey given = .int whole →
    whole.natAbs < Double.rangeEnd ∨ divider.size = .whole whole

/-- A divider that mirrors a store does so as long as the store answers the same under its key. -/
theorem Mirrors.congr {store after : SettingsStore} (hmirrors : Mirrors pane given least store divider)
    (hanswer : after.answer pane.settingKey = store.answer pane.settingKey) :
    Mirrors pane given least after divider := by
  have hseed : seed after pane.settingKey given = seed store pane.settingKey given := by
    rw [seed, seed, hanswer]
  obtain ⟨hkey, hsized, hflat, hrange⟩ := hmirrors
  rw [startSize, ← hseed] at hsized
  rw [← hanswer] at hflat
  rw [← hseed] at hrange
  exact ⟨hkey, hsized, hflat, hrange⟩

theorem Mirrors.pointerDown {store : SettingsStore} (hmirrors : Mirrors pane given least store divider)
    (coordinate : Int) : Mirrors pane given least store (divider.pointerDown (.whole coordinate)) :=
  ⟨hmirrors.key, hmirrors.sized.pointerDown coordinate, hmirrors.flat, hmirrors.range⟩

theorem Mirrors.pointerUp {store : SettingsStore} (hmirrors : Mirrors pane given least store divider) :
    Mirrors pane given least store divider.pointerUp :=
  ⟨hmirrors.key, hmirrors.sized.pointerUp, hmirrors.flat, hmirrors.range⟩

/-- A divider that has been created mirrors the store that it was created over. -/
theorem mirrors_of_canSeed {store : SettingsStore} (axis : Axis)
    (hseed : CanSeed pane.settingKey given store) : Mirrors pane given least store
      ⟨pane.settingKey, axis, least, .whole (startSize pane.settingKey given least (some store)),
        none, []⟩ :=
  ⟨rfl, ⟨rfl, rfl, nofun⟩, hseed.1, fun whole hwhole => .inl (hseed.2 whole hwhole)⟩

/-- Where a divider mirrors a store and its size is in the range of the doubles, a new divider can begin
with the store. -/
theorem Mirrors.canSeed {store : SettingsStore} (hmirrors : Mirrors pane given least store divider)
    (hsize : ∀ size, divider.size = .whole size → size.natAbs < Double.rangeEnd) :
    CanSeed pane.settingKey given store := by
  refine ⟨hmirrors.flat, fun whole hwhole => ?_⟩
  rcases hmirrors.range whole hwhole with hrange | hsame
  · exact hrange
  · exact hsize whole hsame

/-- A divider that is moved to a size mirrors the store once the size has been written to it. -/
theorem Mirrors.write {store : SettingsStore} (hmirrors : Mirrors pane given least store divider)
    {size : Int} (hleast : least ≤ size)
    (hdone : (storage.ask (.set space pane.settingKey (.int size))).2.isDone = true) :
    Mirrors pane given least ⟨some (storage.ask (.set space pane.settingKey (.int size))).1, space⟩
      { divider with size := .whole size } := by
  obtain ⟨text, htext, hread⟩ :=
    Storage.exists_text_ask_set (.int size) (Nat.zero_le _) hdone
  have hanswer : SettingsStore.answer
      ⟨some (storage.ask (.set space pane.settingKey (.int size))).1, space⟩ pane.settingKey =
        .ok (some text) := htext
  have hseed : seed ⟨some (storage.ask (.set space pane.settingKey (.int size))).1, space⟩
      pane.settingKey given = .int size := by
    rw [seed, hanswer, SettingsStore.settingOf, hread]
    rfl
  refine ⟨hmirrors.key, ⟨hmirrors.sized.minSize, ?_, hmirrors.sized.session⟩, ?_, ?_⟩
  · rw [startSize, hseed]
    exact congrArg Measure.whole (max_eq_left hleast).symm
  · rw [hanswer]
    exact SettingsStore.isFlat_of_read hread
  · intro whole hwhole
    rw [hseed] at hwhole
    cases hwhole
    exact .inr rfl

/-- A divider mirrors the store still once the size of another one has been written to it. -/
theorem Mirrors.writeOther (hmirrors : Mirrors other given least ⟨some storage, space⟩ divider)
    (hne : pane ≠ other) {size : Int}
    (hdone : (storage.ask (.set space pane.settingKey (.int size))).2.isDone = true) :
    Mirrors other given least ⟨some (storage.ask (.set space pane.settingKey (.int size))).1, space⟩
      divider :=
  hmirrors.congr (Storage.get?_ask_of_ne hdone fun hsame => hne (Pane.eq_of_fullKey_eq hsame))

end Divider

/-! ### A layout and its store -/

namespace PaneLayout

/-- What the store reports of the size that an event writes, if it writes one. -/
def report? (layout : PaneLayout) (event : PaneEvent) : Option Persisted :=
  match event, layout.perform event with
  | .move pane _, .ok (_, some size) =>
    layout.store.map fun store => (store.set (layout.divider pane).key (.int size)).2.1
  | _, _ => none

/-- What the store reports of all the sizes that events write. -/
def reports (layout : PaneLayout) : List PaneEvent → List Persisted
  | [] => []
  | event :: rest =>
    match layout.perform event with
    | .ok (next, _) => (layout.report? event).toList ++ next.reports rest
    | .error _ => []

/-- A layout over a storage, whose dividers have the sizes that new ones begin with. -/
structure Mirrors (sizes : Pane → Int) (least : Int) (storage : Storage) (space : String)
    (layout : PaneLayout) : Prop where
  store : layout.store = some ⟨some storage, space⟩
  dividers : ∀ pane, (layout.divider pane).Mirrors pane (sizes pane) least ⟨some storage, space⟩

variable {layout : PaneLayout} {sizes : Pane → Int} {least minSize : Int} {storage : Storage}
  {space : String}

/-- A layout mirrors a storage with another divider that does, if the other pane's divider does too. -/
theorem Mirrors.put {pane : Pane} {divider : Divider}
    (hown : divider.Mirrors pane (sizes pane) least ⟨some storage, space⟩)
    (hothers : ∀ other, pane ≠ other →
      (layout.divider other).Mirrors other (sizes other) least ⟨some storage, space⟩) :
    Mirrors sizes least storage space
      { layout.withDivider pane divider with store := some ⟨some storage, space⟩ } := by
  refine ⟨rfl, fun other => ?_⟩
  have hdivider : (layout.withDivider pane divider).divider other |>.Mirrors other (sizes other) least
      ⟨some storage, space⟩ := by
    by_cases hsame : pane = other
    · subst hsame
      rwa [divider_withDivider_self]
    · rw [divider_withDivider_of_ne _ (Ne.symm hsame)]
      exact hothers other hsame
  cases other <;> exact hdivider

/-- A layout mirrors its storage still when one of its dividers is changed and mirrors it. -/
theorem Mirrors.withDivider (hmirrors : Mirrors sizes least storage space layout) {pane : Pane}
    {divider : Divider} (hown : divider.Mirrors pane (sizes pane) least ⟨some storage, space⟩) :
    Mirrors sizes least storage space (layout.withDivider pane divider) := by
  have hstore : layout.withDivider pane divider =
      { layout.withDivider pane divider with store := some ⟨some storage, space⟩ } := by
    rw [← hmirrors.store, ← store_withDivider layout pane divider]
  rw [hstore]
  exact .put hown fun other _ => hmirrors.dividers other

/-- A move over a divider that is dragged writes the new size; if that is done, the layout mirrors the
storage after it. -/
theorem Mirrors.perform_move (hmirrors : Mirrors sizes least storage space layout) {pane : Pane}
    {session : DragSession} (hsession : (layout.divider pane).session = some session) (coordinate : Int)
    (hdone : ∀ report, layout.report? (.move pane coordinate) = some report → report.isOk = true) :
    ∃ next size, layout.perform (.move pane coordinate) = .ok (next, some size) ∧
      Mirrors sizes least (storage.ask (.set space pane.settingKey (.int size))).1 space next := by
  have hown := hmirrors.dividers pane
  obtain ⟨base, start, hbase, hstart⟩ := hown.sized.session session hsession
  set size := max (start - (coordinate - base)) (layout.divider pane).minSize with hsize
  have hmove : (layout.divider pane).pointerMove layout.store (.whole coordinate) =
      .ok ⟨{ layout.divider pane with size := .whole size },
        some ⟨some (storage.ask (.set space pane.settingKey (.int size))).1, space⟩, some size⟩ := by
    have hwrite : layout.store.map
        (fun store => (store.set (layout.divider pane).key (.int size)).1) =
          some ⟨some (storage.ask (.set space pane.settingKey (.int size))).1, space⟩ := by
      rw [hmirrors.store, hown.key, Option.map_some, SettingsStore.set_eq_ask]
    rw [← hwrite]
    exact Divider.pointerMove_of_dragging hsession hbase hstart layout.store coordinate
  have hperform : layout.perform (.move pane coordinate) = .ok
      ({ layout.withDivider pane { layout.divider pane with size := .whole size } with
        store := some ⟨some (storage.ask (.set space pane.settingKey (.int size))).1, space⟩ },
        some size) := by
    simp only [perform, pointerMove, hmove]
    rfl
  -- The write of the new size is reported, and what is reported is done.
  have hwritten : (storage.ask (.set space pane.settingKey (.int size))).2.isDone = true := by
    refine hdone (SettingsStore.set ⟨some storage, space⟩ pane.settingKey (.int size)).2.1 ?_
    simp only [report?, hperform, hmirrors.store, hown.key, Option.map_some]
  have hleast : least ≤ size := by
    rw [hsize, hown.sized.minSize]
    exact le_max_right _ _
  exact ⟨_, size, hperform, .put (hown.write hleast hwritten) fun other hne =>
    (hmirrors.dividers other).writeOther hne hwritten⟩

/-- An event whose write, if it makes one, is done leads to a layout that mirrors the storage after it; a
file is still on its path. -/
theorem Mirrors.perform (hmirrors : Mirrors sizes least storage space layout) (event : PaneEvent)
    (hdone : ∀ report, layout.report? event = some report → report.isOk = true) :
    ∃ next result after, layout.perform event = .ok (next, result) ∧
      Mirrors sizes least after space next ∧
      ∀ file, storage = .file file → ∃ tree, after = .file ⟨tree, file.path⟩ := by
  have hsame : ∀ file, storage = .file file → ∃ tree, storage = .file ⟨tree, file.path⟩ :=
    fun file hfile => ⟨file.tree, hfile⟩
  cases event with
  | down pane coordinate =>
      exact ⟨_, none, storage, rfl,
        hmirrors.withDivider ((hmirrors.dividers pane).pointerDown coordinate), hsame⟩
  | up pane =>
      exact ⟨_, none, storage, rfl, hmirrors.withDivider (hmirrors.dividers pane).pointerUp, hsame⟩
  | releaseAll =>
      refine ⟨_, none, storage, rfl, ⟨hmirrors.store, fun pane => ?_⟩, hsame⟩
      rw [divider_releaseAll]
      exact (hmirrors.dividers pane).pointerUp
  | move pane coordinate =>
      cases hsession : (layout.divider pane).session with
      | none => exact ⟨layout, none, storage, perform_move_of_idle hsession coordinate, hmirrors, hsame⟩
      | some session =>
          obtain ⟨next, size, hperform, hnext⟩ := hmirrors.perform_move hsession coordinate hdone
          refine ⟨next, some size, _, hperform, hnext, ?_⟩
          rintro file rfl
          exact Storage.exists_tree_ask file _

/-- Events whose writes are all done lead to a layout that mirrors the storage after them. -/
theorem Mirrors.performAll (hmirrors : Mirrors sizes least storage space layout) (events : List PaneEvent)
    (hdone : ∀ report ∈ layout.reports events, report.isOk = true) :
    ∃ reached after, layout.performAll events = .ok reached ∧ Mirrors sizes least after space reached ∧
      ∀ file, storage = .file file → ∃ tree, after = .file ⟨tree, file.path⟩ := by
  induction events generalizing layout storage with
  | nil => exact ⟨layout, storage, rfl, hmirrors, fun file hfile => ⟨file.tree, hfile⟩⟩
  | cons event rest ih =>
      -- The reports of a run are known once it is known that its first event leads to a layout.
      have hfirst : ∀ report, layout.report? event = some report → report.isOk = true := by
        intro report hreport
        cases hperform : layout.perform event with
        | error fault => cases event <;> simp [report?, hperform] at hreport
        | ok moved =>
            refine hdone report ?_
            rw [reports, hperform, hreport]
            exact List.mem_cons_self
      obtain ⟨next, result, after, hperform, hnext, hfile⟩ := hmirrors.perform event hfirst
      obtain ⟨reached, last, hall, hreached, hlast⟩ := ih hnext fun report hmem => by
        refine hdone report ?_
        rw [reports, hperform]
        exact List.mem_append_right _ hmem
      refine ⟨reached, last, ?_, hreached, fun file hbefore => ?_⟩
      · rw [PaneLayout.performAll, hperform]
        exact hall
      · obtain ⟨tree, htree⟩ := hfile file hbefore
        exact hlast ⟨tree, file.path⟩ htree

theorem mirrors_of_create
    (hcreate : create (some ⟨some storage, space⟩) (sizes .context) (sizes .output) minSize = .ok layout) :
    Mirrors sizes (max minSize 0) storage space layout := by
  obtain ⟨hseed, rfl⟩ := create_eq_ok_iff.mp hcreate
  refine ⟨rfl, fun pane => ?_⟩
  cases pane with
  | context => exact Divider.mirrors_of_canSeed .x (hseed .context _ rfl)
  | output => exact Divider.mirrors_of_canSeed .y (hseed .output _ rfl)

/-- Over a storage that a layout mirrors a new layout has the same sizes, if they are in the range of the
doubles. -/
theorem Mirrors.exists_create (hmirrors : Mirrors sizes (max minSize 0) storage space layout)
    (hsizes : ∀ pane size, (layout.divider pane).size = .whole size → size.natAbs < Double.rangeEnd) :
    ∃ again, create (some ⟨some storage, space⟩) (sizes .context) (sizes .output) minSize = .ok again ∧
      ∀ pane, (again.divider pane).size = (layout.divider pane).size := by
  refine ⟨_, create_eq_ok_iff.mpr ⟨?_, rfl⟩, fun pane => ?_⟩
  · rintro pane own ⟨rfl⟩
    exact (hmirrors.dividers pane).canSeed (hsizes pane)
  · rw [(hmirrors.dividers pane).sized.size]
    cases pane <;> rfl

/-- Whatever the pointer does over the dividers of a layout, if every write is done and the sizes are in
the range of the doubles at the end, a new layout over the storage as it is then has these sizes.  A storage
in a file is then still one on the same path. -/
theorem sizes_of_restart
    (hcreate : create (some ⟨some storage, space⟩) (sizes .context) (sizes .output) minSize = .ok layout)
    (events : List PaneEvent) (hdone : ∀ report ∈ layout.reports events, report.isOk = true) :
    ∃ reached after, layout.performAll events = .ok reached ∧
      reached.store = some ⟨some after, space⟩ ∧
      (∀ file, storage = .file file → ∃ tree, after = .file ⟨tree, file.path⟩) ∧
      ((∀ pane size, (reached.divider pane).size = .whole size → size.natAbs < 2 ^ 1024 - 2 ^ 970) →
        ∃ again, create (some ⟨some after, space⟩) (sizes .context) (sizes .output) minSize = .ok again ∧
          ∀ pane, (again.divider pane).size = (reached.divider pane).size) := by
  obtain ⟨reached, after, hall, hreached, hfile⟩ :=
    (mirrors_of_create hcreate).performAll events hdone
  exact ⟨reached, after, hall, hreached.store, hfile, hreached.exists_create⟩

/-- Sizes for the two panes. -/
def paneSizes (context output : Int) : Pane → Int
  | .context => context
  | .output => output

/-- Both dividers are dragged at once, and released. -/
def dragEvents : List PaneEvent :=
  [.down .context 500, .down .output 90, .move .context 450, .move .output 1000, .releaseAll,
    .move .output 0]

/-- Over a missing file both dividers are dragged, and what they have come to is there again. -/
theorem sizes_of_restart_missingFile : ∃ layout tree again,
    create (some ⟨some (.file missingFile), "a"⟩) 350 300 0 = .ok layout ∧
      (∀ report ∈ layout.reports dragEvents, report.isOk = true) ∧
      create (some ⟨some (.file ⟨tree, missingFile.path⟩), "a"⟩) 350 300 0 = .ok again ∧
      (again.divider .context).size = .whole 400 ∧ (again.divider .output).size = .whole 0 := by
  have hcreate : create (some ⟨some (.file missingFile), "a"⟩) (paneSizes 350 300 .context)
      (paneSizes 350 300 .output) 0 = .ok
        ⟨some ⟨some (.file missingFile), "a"⟩, ⟨contextWidthKey, .x, 0, .whole 350, none, []⟩,
          ⟨outputHeightKey, .y, 0, .whole 300, none, []⟩⟩ := by
    refine create_eq_ok_iff.mpr ⟨?_, rfl⟩
    rintro pane own ⟨rfl⟩
    cases pane <;> exact ⟨nofun, by rintro whole ⟨rfl⟩; decide +kernel⟩
  have hdone : ∀ report ∈ reports
      ⟨some ⟨some (.file missingFile), "a"⟩, ⟨contextWidthKey, .x, 0, .whole 350, none, []⟩,
        ⟨outputHeightKey, .y, 0, .whole 300, none, []⟩⟩ dragEvents, report.isOk = true := by
    decide +kernel
  obtain ⟨reached, after, hall, -, hfile, hagain⟩ := sizes_of_restart hcreate dragEvents hdone
  obtain ⟨tree, rfl⟩ := hfile missingFile rfl
  have hsizes : ∀ pane, (reached.divider pane).size = .whole (paneSizes 400 0 pane) := by
    have hreached := Except.ok.inj (hall.symm.trans rfl)
    intro pane
    rw [hreached]
    cases pane <;> rfl
  obtain ⟨again, hcreateAgain, hsame⟩ := hagain fun pane size hsize => by
    rw [hsizes] at hsize
    cases hsize
    cases pane <;> decide +kernel
  exact ⟨_, tree, again, hcreate, hdone, hcreateAgain, (hsame _).trans (hsizes .context),
    (hsame _).trans (hsizes .output)⟩

end PaneLayout

end TemplateWorkbench
