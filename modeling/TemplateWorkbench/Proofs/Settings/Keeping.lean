import TemplateWorkbench.Proofs.Json.RoundTrip
import TemplateWorkbench.Proofs.Settings.Answers
import TemplateWorkbench.Proofs.Settings.Refinement

/-!
# What is put into a storage stays there

An update that is reported as done changes the text under its own key and under no other, whether the
storage is in memory or in a file.  So a value that a store has put under a key is read back as it is,
whatever has been done under other keys since, by this or any other store on the storage; and once the
key has been taken away, a read comes to the fallback.
-/

namespace TemplateWorkbench

open Json Results

/-! ### One update of a storage -/

/-- What a file holds under a key. -/
theorem Holds.get? {path : TreePath} {tree : FileTree} {entries : Entries}
    (hholds : Holds path tree entries) (key : String) :
    SettingsFile.get? ⟨tree, path⟩ key = .ok (entries.get? key) := by
  obtain ⟨loaded, hload, -, htexts⟩ := hholds
  rw [SettingsFile.get?_of_load hload, htexts]

/-- A file that can be loaded has a name that a file can have. -/
theorem named_of_load {path : TreePath} {tree : FileTree} {entries : Entries}
    (hload : SettingsFile.load ⟨tree, path⟩ = .ok entries) :
    (path.any fun name => name.toList.contains '\x00') = false := by
  cases hnamed : path.any fun name => name.toList.contains '\x00' with
  | false => rfl
  | true =>
      rw [SettingsFile.load, if_pos hnamed] at hload
      cases hload

/-- A file that can be loaded holds the entries that are loaded. -/
theorem holds_of_load {path : TreePath} {tree : FileTree} {entries : Entries}
    (hload : SettingsFile.load ⟨tree, path⟩ = .ok entries) : Holds path tree entries := by
  have hnamed := named_of_load hload
  refine holds_of_startsWith hnamed ?_
  simp only [SettingsFile.load, hnamed, Bool.false_eq_true, if_false] at hload
  split at hload
  · next octets hread => exact startsWith_of_decode hread hload
  · next fault hread =>
      split at hload
      · next hmissing =>
          cases hload
          exact .missing hread hmissing
      · cases hload

/-- Entries that are saved without a fault are held. -/
theorem holds_of_save_eq_ok {path : TreePath} {tree : FileTree} {loaded entries : Entries}
    (hload : SettingsFile.load ⟨tree, path⟩ = .ok loaded) (hdistinct : NamesDistinct entries)
    (hsave : (SettingsFile.save ⟨tree, path⟩ entries).2 = .ok ()) :
    Holds path (SettingsFile.save ⟨tree, path⟩ entries).1.tree entries :=
  (holds_of_save (named_of_load hload) hdistinct fun why hfault => by
    rw [hsave] at hfault
    cases hfault).2

theorem namesDistinct_of_load {path : TreePath} {tree : FileTree} {entries : Entries}
    (hload : SettingsFile.load ⟨tree, path⟩ = .ok entries) : NamesDistinct entries := by
  obtain ⟨loaded, hloaded, hdistinct, -⟩ := holds_of_load hload
  rw [hload] at hloaded
  cases hloaded
  exact hdistinct

namespace Storage

variable {storage : Storage} {key text : String}

/-- A text that has been put under a key is there, and nothing else has changed. -/
theorem get?_set (hset : (storage.set key text).2 = .ok ()) (other : String) :
    (storage.set key text).1.get? other =
      if other == key then .ok (some text) else storage.get? other := by
  cases storage with
  | memory entries =>
      simp only [set, get?, TemplateWorkbench.get?_put]
      split <;> rfl
  | file file =>
      obtain ⟨tree, path⟩ := file
      simp only [set, get?] at hset ⊢
      cases hload : SettingsFile.load ⟨tree, path⟩ with
      | error fault => simp [SettingsFile.set, hload] at hset
      | ok entries =>
          rw [SettingsFile.set_of_load hload] at hset ⊢
          have hdistinct := namesDistinct_put (namesDistinct_of_load hload) key text
          have hafter := (holds_of_save_eq_ok hload hdistinct hset).get? other
          refine hafter.trans ?_
          rw [TemplateWorkbench.get?_put, SettingsFile.get?_of_load hload]
          split <;> rfl
  | broken => cases hset

/-- A key that has been taken away is gone, and nothing else has changed. -/
theorem get?_remove (hremove : (storage.remove key).2 = .ok ()) (other : String) :
    (storage.remove key).1.get? other = if other == key then .ok none else storage.get? other := by
  cases storage with
  | memory entries =>
      simp only [remove, get?, TemplateWorkbench.get?_erase]
      split <;> rfl
  | file file =>
      obtain ⟨tree, path⟩ := file
      simp only [remove, get?] at hremove ⊢
      cases hload : SettingsFile.load ⟨tree, path⟩ with
      | error fault => simp [SettingsFile.remove, hload] at hremove
      | ok entries =>
          have hbefore := SettingsFile.get?_of_load hload other
          by_cases hthere : (entries.get? key).isSome = true
          · rw [SettingsFile.remove_of_load hload hthere] at hremove ⊢
            have hdistinct := namesDistinct_erase (namesDistinct_of_load hload) key
            have hafter := (holds_of_save_eq_ok hload hdistinct hremove).get? other
            refine hafter.trans ?_
            rw [TemplateWorkbench.get?_erase, hbefore]
            split <;> rfl
          -- The file does not have the key, so it is not written.
          · rw [SettingsFile.remove_of_absent hload hthere, hbefore]
            have habsent : entries.get? key = none := by simpa using hthere
            split
            · next hother => rw [eq_of_beq hother, habsent]
            · rfl
  | broken => cases hremove

end Storage

/-! ### One update of a store -/

namespace SettingsStore

variable {storage : Storage} {space key : String}

/-- The key under which a storage keeps a key of a namespace. -/
def fullKey (space key : String) : String := keyFor ⟨none, space⟩ key

/-- A value without a text is not put anywhere. -/
theorem set_of_write_error {value : Json} {fault : WriteFault}
    (hwrite : Json.write .asciiLine value = .error fault) :
    set ⟨some storage, space⟩ key value = (⟨some storage, space⟩, failure "write" key fault.message) := by
  rw [set, hwrite]
  rfl

/-- The text of a value is put under the full key. -/
theorem set_of_write {value : Json} {text : String} (hwrite : Json.write .asciiLine value = .ok text) :
    set ⟨some storage, space⟩ key value = (⟨some (storage.set (fullKey space key) text).1, space⟩,
      report "write" key (storage.set (fullKey space key) text).2) := by
  rw [set, hwrite]
  rfl

/-- A text that can be read is the value of its key. -/
theorem get_of_read {text : String} {value : Json} (fallback : Json)
    (htext : storage.get? (fullKey space key) = .ok (some text))
    (hread : Json.read text = .ok value) :
    (get ⟨some storage, space⟩ key fallback).1 = .ok value := by
  have hget : get ⟨some storage, space⟩ key fallback = answered key fallback (.ok (some text)) :=
    congrArg (answered key fallback) htext
  rw [hget, answered]
  simp only [hread]

/-- A key without a text has no value. -/
theorem get_of_none (fallback : Json) (hnone : storage.get? (fullKey space key) = .ok none) :
    (get ⟨some storage, space⟩ key fallback).1 = .ok fallback := by
  have hget : get ⟨some storage, space⟩ key fallback = answered key fallback (.ok none) :=
    congrArg (answered key fallback) hnone
  rw [hget, answered]

end SettingsStore

/-! ### Requests of stores -/

/-- What a store on a storage is asked: each request names the store's namespace. -/
inductive SettingsRequest where
  | get (space key : String) (fallback : Json)
  | set (space key : String) (value : Json)
  | remove (space key : String)

/-- What a store answers: the value that has been read, or the report of a write. -/
inductive SettingsAnswer where
  | value (result : Except String Json)
  | report (persisted : Persisted)

/-- The key under which the storage keeps what the request is about. -/
def SettingsRequest.fullKey : SettingsRequest → String
  | get space key _ => SettingsStore.fullKey space key
  | set space key _ => SettingsStore.fullKey space key
  | remove space key => SettingsStore.fullKey space key

/-- Whether a request has succeeded. -/
def SettingsAnswer.isDone : SettingsAnswer → Bool
  | value result => result.isOk
  | report persisted => persisted.isOk

/-- A request to a store on a storage: the storage after it, and the answer. -/
def Storage.ask (storage : Storage) : SettingsRequest → Storage × SettingsAnswer
  | .get space key fallback =>
    (storage, .value (SettingsStore.get ⟨some storage, space⟩ key fallback).1)
  | .set space key value =>
    let (store, persisted, _) := SettingsStore.set ⟨some storage, space⟩ key value
    (store.storage.getD storage, .report persisted)
  | .remove space key =>
    let (store, persisted, _) := SettingsStore.remove ⟨some storage, space⟩ key
    (store.storage.getD storage, .report persisted)

/-- Requests to stores on one storage, one after another. -/
def Storage.askAll (storage : Storage) : List SettingsRequest → Storage × List SettingsAnswer
  | [] => (storage, [])
  | request :: rest =>
    let (after, answer) := storage.ask request
    let (last, answers) := after.askAll rest
    (last, answer :: answers)

theorem Storage.askAll_cons (storage : Storage) (request : SettingsRequest) (rest : List SettingsRequest) :
    storage.askAll (request :: rest) = (((storage.ask request).1.askAll rest).1,
      (storage.ask request).2 :: ((storage.ask request).1.askAll rest).2) := rfl

theorem Storage.ask_set_of_error (storage : Storage) {space key : String} {value : Json} {fault : WriteFault}
    (hwrite : Json.write .asciiLine value = .error fault) :
    storage.ask (.set space key value) =
      (storage, .report (SettingsStore.failure "write" key fault.message).1) := by
  rw [ask, SettingsStore.set_of_write_error hwrite]
  rfl

theorem Storage.ask_set_of_write (storage : Storage) {space key : String} {value : Json} {text : String}
    (hwrite : Json.write .asciiLine value = .ok text) :
    storage.ask (.set space key value) = ((storage.set (SettingsStore.fullKey space key) text).1,
      .report (SettingsStore.report "write" key
        (storage.set (SettingsStore.fullKey space key) text).2).1) := by
  rw [ask, SettingsStore.set_of_write hwrite]
  rfl

theorem Storage.ask_remove (storage : Storage) (space key : String) :
    storage.ask (.remove space key) = ((storage.remove (SettingsStore.fullKey space key)).1,
      .report (SettingsStore.report "removal" key
        (storage.remove (SettingsStore.fullKey space key)).2).1) := rfl

/-- After a write a store has the storage that has been asked for it. -/
theorem SettingsStore.set_eq_ask (storage : Storage) (space key : String) (value : Json) :
    (set ⟨some storage, space⟩ key value).1 = ⟨some (storage.ask (.set space key value)).1, space⟩ := by
  cases hwrite : Json.write .asciiLine value with
  | error fault => rw [set_of_write_error hwrite, storage.ask_set_of_error hwrite]
  | ok text => rw [set_of_write hwrite, storage.ask_set_of_write hwrite]

namespace Storage

variable {storage : Storage} {space key full : String}

/-- A value that has been put under a key has a text, which is now there. -/
theorem get?_ask_set {value : Json} (hdone : (storage.ask (.set space key value)).2.isDone = true) :
    ∃ text, Json.write .asciiLine value = .ok text ∧
      (storage.ask (.set space key value)).1.get? (SettingsStore.fullKey space key) =
        .ok (some text) := by
  obtain ⟨text, hwrite, hset⟩ := SettingsStore.isOk_set_iff.mp hdone
  refine ⟨text, hwrite, ?_⟩
  rw [ask_set_of_write _ hwrite]
  exact (get?_set hset _).trans (if_pos (beq_self_eq_true _))

/-- A value that has been put under a key is read there. -/
theorem exists_text_ask_set {value : Json} (hdistinct : NamesDistinctWithin value)
    (hdepth : value.depth ≤ depthLimit)
    (hdone : (storage.ask (.set space key value)).2.isDone = true) :
    ∃ text, (storage.ask (.set space key value)).1.get? (SettingsStore.fullKey space key) =
        .ok (some text) ∧ Json.read text = .ok value := by
  obtain ⟨text, hwrite, htext⟩ := get?_ask_set hdone
  exact ⟨text, htext, read_of_write isFaithful_asciiLine hdistinct hdepth hwrite⟩

/-- A key that has been taken away is gone. -/
theorem get?_ask_remove (hdone : (storage.ask (.remove space key)).2.isDone = true) :
    (storage.ask (.remove space key)).1.get? (SettingsStore.fullKey space key) = .ok none := by
  have hremove := SettingsStore.isOk_remove_iff.mp hdone
  rw [ask_remove]
  exact (get?_remove hremove _).trans (if_pos (beq_self_eq_true _))

/-- A request that succeeds leaves what is under other keys as it is. -/
theorem get?_ask_of_ne {request : SettingsRequest} (hdone : (storage.ask request).2.isDone = true)
    (hother : request.fullKey ≠ full) : (storage.ask request).1.get? full = storage.get? full := by
  cases request with
  | get space key fallback => rfl
  | set space key value =>
      obtain ⟨text, hwrite, hset⟩ := SettingsStore.isOk_set_iff.mp hdone
      rw [ask_set_of_write _ hwrite]
      exact (get?_set hset _).trans (if_neg fun hsame => hother (eq_of_beq hsame).symm)
  | remove space key =>
      have hremove := SettingsStore.isOk_remove_iff.mp hdone
      rw [ask_remove]
      exact (get?_remove hremove _).trans (if_neg fun hsame => hother (eq_of_beq hsame).symm)

/-- Requests that succeed leave what is under other keys as it is. -/
theorem get?_askAll_of_ne {requests : List SettingsRequest}
    (hdone : ∀ answer ∈ (storage.askAll requests).2, answer.isDone = true)
    (hothers : ∀ request ∈ requests, request.fullKey ≠ full) :
    (storage.askAll requests).1.get? full = storage.get? full := by
  induction requests generalizing storage with
  | nil => rfl
  | cons request rest ih =>
      obtain ⟨hfirst, hrest⟩ := List.forall_mem_cons.mp hothers
      simp only [askAll] at hdone ⊢
      obtain ⟨hdoneFirst, hdoneRest⟩ := List.forall_mem_cons.mp hdone
      rw [ih hdoneRest hrest, get?_ask_of_ne hdoneFirst hfirst]

end Storage

/-! ### Storages that work -/

/-- A storage in memory, or in a file that can be loaded and written. -/
def Storage.IsWorking : Storage → Prop
  | .memory _ => True
  | .file settings =>
    Writable settings.path settings.tree ∧ ∃ entries, Holds settings.path settings.tree entries
  | .broken => False

/-- An operation on a file that can be loaded and written leaves such a file. -/
theorem Writable.exists_holds_perform {path : TreePath} {tree : FileTree} {entries : Entries}
    (hwritable : Writable path tree) (hholds : Holds path tree entries) (operation : StorageOperation) :
    ∃ next, Holds path (SettingsFile.perform ⟨tree, path⟩ operation).1 next := by
  obtain ⟨hunrefused, -⟩ := unrefusedAll_of_writable hwritable hholds [operation]
  obtain ⟨next, -, hnext⟩ := perform_of_holds hholds hunrefused
  exact ⟨next, hnext⟩

namespace Storage

variable {storage : Storage}

/-- A storage that works does every operation, and goes on working. -/
theorem IsWorking.perform (hworking : storage.IsWorking) (operation : StorageOperation) :
    (∃ answer, (storage.perform operation).2 = .ok answer) ∧
      (storage.perform operation).1.IsWorking := by
  cases storage with
  | memory entries =>
      cases operation with
      | get key | set key text | remove key => exact ⟨⟨_, rfl⟩, trivial⟩
  | file file =>
      obtain ⟨tree, path⟩ := file
      obtain ⟨hwritable, entries, hholds⟩ := hworking
      rw [perform_file]
      exact ⟨hwritable.isOk_perform hholds operation, hwritable.perform operation,
        hwritable.exists_holds_perform hholds operation⟩
  | broken => exact hworking.elim

/-- A storage that works keeps every text, and goes on working. -/
theorem IsWorking.set (hworking : storage.IsWorking) (key text : String) :
    (storage.set key text).2 = .ok () ∧ (storage.set key text).1.IsWorking := by
  obtain ⟨⟨answer, hanswer⟩, hnext⟩ := hworking.perform (.set key text)
  obtain ⟨done, hdone, -⟩ := map_eq_ok_iff.mp hanswer
  exact ⟨hdone, hnext⟩

/-- A storage that works takes every key away, and goes on working. -/
theorem IsWorking.remove (hworking : storage.IsWorking) (key : String) :
    (storage.remove key).2 = .ok () ∧ (storage.remove key).1.IsWorking := by
  obtain ⟨⟨answer, hanswer⟩, hnext⟩ := hworking.perform (.remove key)
  obtain ⟨done, hdone, -⟩ := map_eq_ok_iff.mp hanswer
  exact ⟨hdone, hnext⟩

/-- On a storage that works a value that has a text is put under its key. -/
theorem IsWorking.ask_set (hworking : storage.IsWorking) (space key : String) {value : Json}
    {text : String} (hwrite : Json.write .asciiLine value = .ok text) :
    (storage.ask (.set space key value)).2.isDone = true ∧
      (storage.ask (.set space key value)).1.IsWorking := by
  obtain ⟨hset, hnext⟩ := hworking.set (SettingsStore.fullKey space key) text
  refine ⟨SettingsStore.isOk_set_iff.mpr ⟨text, hwrite, hset⟩, ?_⟩
  rw [ask_set_of_write _ hwrite]
  exact hnext

/-- On a storage that works a key is taken away. -/
theorem IsWorking.ask_remove (hworking : storage.IsWorking) (space key : String) :
    (storage.ask (.remove space key)).2.isDone = true ∧
      (storage.ask (.remove space key)).1.IsWorking := by
  obtain ⟨hremove, hnext⟩ := hworking.remove (SettingsStore.fullKey space key)
  exact ⟨SettingsStore.isOk_remove_iff.mpr hremove, hnext⟩

/-- A storage in a file stays one on the same path. -/
theorem exists_tree_ask (file : SettingsFile) (request : SettingsRequest) :
    ∃ tree, (Storage.ask (.file file) request).1 = .file ⟨tree, file.path⟩ := by
  obtain ⟨tree, path⟩ := file
  cases request with
  | get space key fallback => exact ⟨tree, rfl⟩
  | set space key value =>
      cases hwrite : Json.write .asciiLine value with
      | error fault =>
          rw [ask_set_of_error _ hwrite]
          exact ⟨tree, rfl⟩
      | ok text =>
          rw [ask_set_of_write _ hwrite]
          exact ⟨_, congrArg Prod.fst (perform_file path tree (.set _ text))⟩
  | remove space key =>
      rw [ask_remove]
      exact ⟨_, congrArg Prod.fst (perform_file path tree (.remove _))⟩

theorem exists_tree_askAll (file : SettingsFile) (requests : List SettingsRequest) :
    ∃ tree, (Storage.askAll (.file file) requests).1 = .file ⟨tree, file.path⟩ := by
  induction requests generalizing file with
  | nil => exact ⟨file.tree, rfl⟩
  | cons request rest ih =>
      obtain ⟨tree, hfirst⟩ := exists_tree_ask file request
      obtain ⟨last, hlast⟩ := ih ⟨tree, file.path⟩
      refine ⟨last, ?_⟩
      simp only [askAll, hfirst, hlast]

end Storage

/-! ### Values that are read back -/

/-- A value with numbers of every kind, and with members that are not in the order of their names. -/
def mixedValue : Json :=
  .list [.int 1, .double (.ofInt 1), .bool true,
    .object [("b", .string "é \""), ("a", .list [.double .nan, .double (.infinite true), .null])]]

/-- A missing settings file. -/
def missingFile : SettingsFile := ⟨⟨[]⟩, ["s"]⟩

theorem isWorking_missingFile : (Storage.file missingFile).IsWorking := by
  have hwritable : Writable missingFile.path missingFile.tree :=
    ⟨by decide, by rintro fault ⟨⟩; rfl, fun octets => rfl⟩
  exact ⟨hwritable, [], holds_of_startsWith hwritable.named (.missing rfl rfl)⟩

theorem canonical_mixedValue : mixedValue.Canonical := by
  have hone : Number.isTooLong 1 = false := Number.isTooLong_eq_false_iff.mpr (by decide +kernel)
  simp only [mixedValue]
  refine .list ?_
  simp only [List.forall_mem_cons, List.not_mem_nil, false_imp_iff, implies_true, and_true]
  refine ⟨.int hone, .double _, .bool true, .object (by simp [NamesDistinct]) ?_⟩
  simp only [List.forall_mem_cons, List.not_mem_nil, false_imp_iff, implies_true, and_true]
  refine ⟨.string _, .list ?_⟩
  simp only [List.forall_mem_cons, List.not_mem_nil, false_imp_iff, implies_true, and_true]
  exact ⟨.double _, .double _, .null⟩

end TemplateWorkbench
