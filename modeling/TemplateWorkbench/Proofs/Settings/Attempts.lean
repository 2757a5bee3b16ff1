import TemplateWorkbench.Proofs.Settings.Interruption

/-!
# Writes that come to nothing

A storage need not do what it is asked.  It may do it and tell whether it is done, it may refuse, or in a
file it may stop short anywhere.  A value that was put under a key and is read there is still read after
any writes that come to nothing, for then the path leads to a file, and no such write touches it.

Where the path leads to no file yet, making the directories above it must not bring one to light; that
happens only on a path that passes what is missing and goes back up.
-/

namespace TemplateWorkbench

open Json FileTree

/-- How a storage may come out of a request, and whether the request is done. -/
inductive Storage.Outcome (storage : Storage) (request : SettingsRequest) : Storage → Bool → Prop
  | asked : Outcome storage request (storage.ask request).1 (storage.ask request).2.isDone
  | refused : Outcome storage request storage false
  | stopped {file : SettingsFile} {next : FileTree} (hfile : storage = .file file)
    (hstops : request.StopsAt file next) : Outcome storage request (.file ⟨next, file.path⟩) false

/-! ### Files -/

namespace FileTree

variable {path : TreePath} {tree next : FileTree}

/-- A tree in which no request that stops short changes what is read of a settings file: its path leads to
a place that can have it, or it names nothing and never goes up, or it cannot be read at all. -/
inductive IsSteady (path : TreePath) (tree : FileTree) : Prop
  | leads {place : TreePath} (hleads : tree.LeadsTo path place)
  | absent (hplain : upName ∉ path) (hnone : tree.node? path = none)
  | unreadable {fault : OsFault} (hread : tree.read path = .error fault)
    (hother : fault.reason ≠ .missing)

/-- A path is steady if it does not pass what is missing and go back up. -/
theorem isSteady_of_rooted
    (hway : tree.place? path = .error .missing → tree.IsRooted ∧ upName ∉ path) :
    IsSteady path tree := by
  cases hplace : tree.place? path with
  | ok place =>
      by_cases hdirectory : tree.node? place = some .directory
      · have hfault : tree.read path = .error ⟨.isDirectory, path⟩ := by
          rw [read, hplace]
          simp only [hdirectory]
        exact .unreadable hfault (show OsReason.isDirectory ≠ .missing by decide)
      · exact .leads ⟨hplace, hdirectory⟩
  | error reason =>
      have hfault : tree.read path = .error ⟨reason, path⟩ := by rw [read, hplace]
      by_cases hmissing : reason = .missing
      · subst hmissing
        obtain ⟨hrooted, hplain⟩ := hway hplace
        exact .absent hplain (node?_of_place?_missing hrooted hplain hplace)
      · exact .unreadable hfault hmissing

/-- A path to a file that can be read is steady. -/
theorem isSteady_of_read {octets : List UInt8} (hread : tree.read path = .ok octets) :
    IsSteady path tree := by
  refine isSteady_of_rooted fun hmissing => ?_
  rw [read, hmissing] at hread
  cases hread

/-- A request that stops short leaves a steady path, and all that is read there. -/
theorem IsSteady.of_stopsAt (hsteady : IsSteady path tree) {request : SettingsRequest}
    (hstops : request.StopsAt ⟨tree, path⟩ next) :
    IsSteady path next ∧ ∀ space key fallback,
      (SettingsStore.get ⟨some (.file ⟨next, path⟩), space⟩ key fallback).1 =
        (SettingsStore.get ⟨some (.file ⟨tree, path⟩), space⟩ key fallback).1 := by
  cases hstops with
  | before => exact ⟨hsteady, fun space key fallback => rfl⟩
  | saving hdocument hstops =>
      cases hsteady with
      | leads hleads =>
          obtain ⟨hnext, hnode⟩ := hstops.leadsTo hleads
          have hsame : ReadsAlike path tree next := .inl (read_eq_of_leadsTo hleads hnext hnode)
          exact ⟨.leads hnext, hsame.get⟩
      | absent hplain hnone =>
          have hne : path ≠ [] := by
            rintro rfl
            cases hnone
          have hnext : next.node? path = none := (hstops.node? hplain hne).trans hnone
          obtain ⟨fault, hread⟩ := read_of_node?_none hplain hnone
          obtain ⟨other, hother⟩ := read_of_node?_none hplain hnext
          refine ⟨.absent hplain hnext, fun space key fallback => ?_⟩
          rw [SettingsStore.get_of_read_error hread, SettingsStore.get_of_read_error hother]
      | unreadable hread hother => exact absurd (read_of_document? hdocument _ hread) hother

end FileTree

/-- A file in which there is a text under a key can be read. -/
theorem SettingsFile.exists_read_of_get? {path : TreePath} {tree : FileTree} {key text : String}
    (hget : get? ⟨tree, path⟩ key = .ok (some text)) : ∃ octets, tree.read path = .ok octets := by
  cases hread : tree.read path with
  | ok octets => exact ⟨octets, rfl⟩
  | error fault =>
      rcases load_of_read_error hread with hload | ⟨why, hload⟩
      · rw [get?, hload] at hget
        cases hget
      · rw [get?, hload] at hget
        cases hget

/-! ### Storages -/

namespace Storage

variable {storage after : Storage} {request : SettingsRequest} {done : Bool}

/-- A storage in which no request that comes to nothing changes what is read. -/
def IsSteady (storage : Storage) : Prop :=
  ∀ file, storage = .file file → file.tree.IsSteady file.path

/-- In memory a request that is not done changes nothing. -/
theorem ask_memory_of_not_isDone {entries : Entries}
    (hrefused : ((Storage.memory entries).ask request).2.isDone = false) :
    ((Storage.memory entries).ask request).1 = .memory entries := by
  cases request with
  | get space key fallback => rfl
  | remove space key => cases hrefused
  | set space key value =>
      cases hwrite : Json.write .asciiLine value with
      | error fault => rw [ask_set_of_error _ hwrite]
      | ok text =>
          have hdone : ((Storage.memory entries).ask (.set space key value)).2.isDone = true :=
            SettingsStore.isOk_set_iff.mpr ⟨text, hwrite, rfl⟩
          rw [hdone] at hrefused
          cases hrefused

/-- A storage that refuses everything stays one. -/
theorem ask_broken (request : SettingsRequest) : (Storage.broken.ask request).1 = .broken := by
  cases request with
  | get space key fallback => rfl
  | remove space key => rfl
  | set space key value =>
      cases hwrite : Json.write .asciiLine value with
      | error fault => rw [ask_set_of_error _ hwrite]
      | ok text => rw [ask_set_of_write _ hwrite, set]

/-- Where a request is not done a storage is as it was, or a file at which the request has stopped. -/
theorem Outcome.of_not_done (houtcome : storage.Outcome request after done) (hdone : done = false) :
    after = storage ∨ ∃ path tree next, storage = .file ⟨tree, path⟩ ∧ after = .file ⟨next, path⟩ ∧
      request.StopsAt ⟨tree, path⟩ next := by
  cases houtcome with
  | refused => exact .inl rfl
  | @stopped file next hfile hstops => exact .inr ⟨file.path, file.tree, next, hfile, rfl, hstops⟩
  | asked =>
      cases storage with
      | memory entries => exact .inl (ask_memory_of_not_isDone hdone)
      | broken => exact .inl (ask_broken request)
      | file file =>
          obtain ⟨tree, path⟩ := file
          cases hdocument : request.document? ⟨tree, path⟩ with
          | none => exact .inl (ask_of_document?_none hdocument)
          | some octets =>
              obtain ⟨hask, hsaved⟩ := ask_of_document? hdocument
              have hrefused : (tree.save path octets).2 ≠ none := fun hnone => by
                rw [hsaved.mpr hnone] at hdone
                cases hdone
              exact .inr ⟨path, tree, _, rfl, hask, .saving hdocument (stopsSaving_of_save hrefused)⟩

/-- A request that is not done leaves a steady storage steady, and all that is read there. -/
theorem IsSteady.of_not_done (hsteady : storage.IsSteady) (houtcome : storage.Outcome request after done)
    (hdone : done = false) :
    after.IsSteady ∧ ∀ space key fallback,
      (SettingsStore.get ⟨some after, space⟩ key fallback).1 =
        (SettingsStore.get ⟨some storage, space⟩ key fallback).1 := by
  rcases houtcome.of_not_done hdone with rfl | ⟨path, tree, next, rfl, rfl, hstops⟩
  · exact ⟨hsteady, fun space key fallback => rfl⟩
  · obtain ⟨hnext, hget⟩ := (hsteady ⟨tree, path⟩ rfl).of_stopsAt hstops
    refine ⟨?_, hget⟩
    rintro file ⟨rfl⟩
    exact hnext

/-- A storage with a text under a key is steady. -/
theorem isSteady_of_get? {key text : String} (hget : storage.get? key = .ok (some text)) :
    storage.IsSteady := by
  rintro file rfl
  obtain ⟨octets, hread⟩ := SettingsFile.exists_read_of_get? hget
  exact isSteady_of_read hread

/-- A write that is done leaves a steady storage, and its value is read there. -/
theorem Outcome.of_done {space key : String} {value : Json}
    (houtcome : storage.Outcome (.set space key value) after done) (hdone : done = true)
    (hdistinct : NamesDistinctWithin value) (hdepth : value.depth ≤ depthLimit) :
    after.IsSteady ∧
      ∀ fallback, (SettingsStore.get ⟨some after, space⟩ key fallback).1 = .ok value := by
  cases houtcome with
  | refused => cases hdone
  | stopped hfile hstops => cases hdone
  | asked =>
      obtain ⟨text, htext, hread⟩ := exists_text_ask_set hdistinct hdepth hdone
      exact ⟨isSteady_of_get? htext, fun fallback => SettingsStore.get_of_read fallback htext hread⟩

end Storage

end TemplateWorkbench
