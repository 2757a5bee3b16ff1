import TemplateWorkbench.Proofs.Settings.SavedFile
import TemplateWorkbench.Proofs.Settings.SettingsText

/-!
# A storage in a file keeps what a storage in memory keeps

A storage in a file has no state but its path: every operation reads the whole file, and an update
writes it anew.  So operations that are issued through any number of storages on one path are
operations on one file tree.

The file *holds* entries if it is loaded as entries with distinct keys that have the same text under
every key.  What a file holds is all that an answer depends on, and as long as the operating system
refuses nothing an update of the file and the same update in memory lead to a file that holds the
entries in memory again.
-/

namespace TemplateWorkbench

open Json

/-! ### Operations -/

/-- What is asked of a storage. -/
inductive StorageOperation where
  | get (key : String)
  | set (key text : String)
  | remove (key : String)
deriving DecidableEq, Repr

/-- What a storage answers: a text that it has been asked for, or that it is done. -/
abbrev StorageAnswer := Except StorageFault (Option String)

/-- An operation on a storage: the storage after it, and the answer. -/
def Storage.perform (storage : Storage) : StorageOperation → Storage × StorageAnswer
  | .get key => (storage, storage.get? key)
  | .set key text => ((storage.set key text).1, (storage.set key text).2.map fun _ => none)
  | .remove key => ((storage.remove key).1, (storage.remove key).2.map fun _ => none)

/-- The answers of a storage to operations one after another. -/
def Storage.answers (storage : Storage) : List StorageOperation → List StorageAnswer
  | [] => []
  | operation :: rest =>
    (storage.perform operation).2 :: (storage.perform operation).1.answers rest

/-- An operation on a settings file: the tree after it, and the answer. -/
def SettingsFile.perform (file : SettingsFile) : StorageOperation → FileTree × StorageAnswer
  | .get key => (file.tree, file.get? key)
  | .set key text => ((file.set key text).1.tree, (file.set key text).2.map fun _ => none)
  | .remove key => ((file.remove key).1.tree, (file.remove key).2.map fun _ => none)

/-- The answers to operations, each issued through a storage of its own on one path. -/
def answersAt (path : TreePath) (tree : FileTree) : List StorageOperation → List StorageAnswer
  | [] => []
  | operation :: rest =>
    (SettingsFile.perform ⟨tree, path⟩ operation).2 ::
      answersAt path (SettingsFile.perform ⟨tree, path⟩ operation).1 rest

/-! ### What the operating system refuses -/

/-- The operating system refuses nothing of an operation: the path is one that a file can have, a file
that cannot be read is missing, and a file that is to be written is written. -/
structure Unrefused (path : TreePath) (tree : FileTree) (operation : StorageOperation) : Prop where
  named : (path.any fun name => name.toList.contains '\x00') = false
  read : ∀ fault, tree.read path = .error fault → fault.reason = .missing
  written : ∀ why, (SettingsFile.perform ⟨tree, path⟩ operation).2 ≠
    .error (SettingsFile.writeFault path why)

/-- The operating system refuses nothing of operations one after another. -/
def UnrefusedAll (path : TreePath) (tree : FileTree) : List StorageOperation → Prop
  | [] => True
  | operation :: rest => Unrefused path tree operation ∧
      UnrefusedAll path (SettingsFile.perform ⟨tree, path⟩ operation).1 rest

/-- The entries that a file starts with: none if it is missing, and the members that are texts if it
holds an object. -/
inductive StartsWith (path : TreePath) (tree : FileTree) : Entries → Prop
  | missing {fault : OsFault} (hread : tree.read path = .error fault)
      (hmissing : fault.reason = .missing) : StartsWith path tree []
  | object {octets : List UInt8} {characters : List Char} {members : List (String × Json)}
      (hread : tree.read path = .ok octets) (hdecode : Text.Utf8.decode octets = .ok characters)
      (hobject : Json.read (String.ofList (Text.unify characters)) = .ok (.object members)) :
      StartsWith path tree (Entries.ofMembers members)

/-! ### Operations on a file that can be loaded -/

namespace SettingsFile

variable {path : TreePath} {tree : FileTree} {entries : Entries}

theorem get?_of_load (hload : load ⟨tree, path⟩ = .ok entries) (key : String) :
    get? ⟨tree, path⟩ key = .ok (entries.get? key) := by
  rw [get?, hload]
  rfl

theorem set_of_load (hload : load ⟨tree, path⟩ = .ok entries) (key text : String) :
    set ⟨tree, path⟩ key text = save ⟨tree, path⟩ (entries.put key text) := by
  rw [set, hload]

theorem remove_of_load {key : String} (hload : load ⟨tree, path⟩ = .ok entries)
    (hthere : (entries.get? key).isSome = true) :
    remove ⟨tree, path⟩ key = save ⟨tree, path⟩ (entries.erase key) := by
  rw [remove, hload]
  exact if_pos hthere

theorem remove_of_absent {key : String} (hload : load ⟨tree, path⟩ = .ok entries)
    (habsent : ¬ (entries.get? key).isSome = true) :
    remove ⟨tree, path⟩ key = (⟨tree, path⟩, .ok ()) := by
  rw [remove, hload]
  exact if_neg habsent

/-- Nothing is done with a file that cannot be loaded, for the reason why it cannot. -/
theorem perform_of_load_eq_error {fault : StorageFault} (hload : load ⟨tree, path⟩ = .error fault)
    (operation : StorageOperation) : perform ⟨tree, path⟩ operation = (tree, .error fault) := by
  cases operation with
  | get key =>
      rw [perform, get?, hload]
      rfl
  | set key text =>
      rw [perform, set, hload]
      rfl
  | remove key =>
      rw [perform, remove, hload]
      rfl

end SettingsFile

/-! ### What a file holds -/

/-- A settings file is loaded as entries with distinct keys that have the given texts. -/
def Holds (path : TreePath) (tree : FileTree) (entries : Entries) : Prop :=
  ∃ loaded, SettingsFile.load ⟨tree, path⟩ = .ok loaded ∧ NamesDistinct loaded ∧
    ∀ key, loaded.get? key = entries.get? key

theorem Holds.congr {path : TreePath} {tree : FileTree} {entries others : Entries}
    (hholds : Holds path tree entries) (hsame : ∀ key, entries.get? key = others.get? key) :
    Holds path tree others := by
  obtain ⟨loaded, hload, hdistinct, htexts⟩ := hholds
  exact ⟨loaded, hload, hdistinct, fun key => (htexts key).trans (hsame key)⟩

theorem load_of_read {path : TreePath} {tree : FileTree} {octets : List UInt8}
    (hnamed : (path.any fun name => name.toList.contains '\x00') = false)
    (hread : tree.read path = .ok octets) :
    SettingsFile.load ⟨tree, path⟩ = SettingsFile.decode path octets := by
  simp only [SettingsFile.load, hnamed, hread]
  rfl

theorem map_fst_ofMembers (members : List (String × Json)) :
    ((Entries.ofMembers members).map Prod.fst).Sublist (members.map Prod.fst) := by
  induction members with
  | nil => exact .slnil
  | cons member rest ih =>
      obtain ⟨key, value⟩ := member
      cases value with
      | string text => exact ih.cons_cons key
      | _ => exact .cons key ih

/-- A file holds the entries that it starts with. -/
theorem holds_of_startsWith {path : TreePath} {tree : FileTree} {entries : Entries}
    (hnamed : (path.any fun name => name.toList.contains '\x00') = false)
    (hstarts : StartsWith path tree entries) : Holds path tree entries := by
  cases hstarts with
  | missing hread hmissing =>
      refine ⟨[], ?_, List.nodup_nil, fun key => rfl⟩
      simp only [SettingsFile.load, hnamed, hread, hmissing]
      rfl
  | @object octets characters members hread hdecode hobject =>
      have hcanonical := canonical_of_read hobject
      cases hcanonical with
      | object hdistinct _ =>
          refine ⟨Entries.ofMembers members, ?_, hdistinct.sublist (map_fst_ofMembers members),
            fun key => rfl⟩
          rw [load_of_read hnamed hread]
          simp only [SettingsFile.decode, hdecode, hobject]

/-- A file starts with the entries that it is decoded as. -/
theorem startsWith_of_decode {path : TreePath} {tree : FileTree} {octets : List UInt8}
    {entries : Entries} (hread : tree.read path = .ok octets)
    (hdecode : SettingsFile.decode path octets = .ok entries) : StartsWith path tree entries := by
  unfold SettingsFile.decode at hdecode
  split at hdecode
  · cases hdecode
  · next characters hcharacters =>
      simp only at hdecode
      split at hdecode
      · cases hdecode
      · cases hdecode
      · next members hobject =>
          cases hdecode
          exact .object hread hcharacters hobject
      · cases hdecode

/-! ### Updates -/

/-- A file that is not refused holds the entries that are saved in it. -/
theorem holds_of_save {path : TreePath} {tree : FileTree} {entries : Entries}
    (hnamed : (path.any fun name => name.toList.contains '\x00') = false)
    (hdistinct : NamesDistinct entries)
    (hwritten : ∀ why, (SettingsFile.save ⟨tree, path⟩ entries).2 ≠
      .error (SettingsFile.writeFault path why)) :
    (SettingsFile.save ⟨tree, path⟩ entries).2 = .ok () ∧
      Holds path (SettingsFile.save ⟨tree, path⟩ entries).1.tree entries := by
  cases hfault : (tree.save path (Text.Utf8.encode (settingsText entries))).2 with
  | some fault =>
      refine absurd ?_ (hwritten fault.message)
      simp only [SettingsFile.save, hfault]
  | none =>
      have hread := FileTree.read_of_save hfault
      have hsorted := namesDistinct_sorted hdistinct
      refine ⟨by simp only [SettingsFile.save, hfault], entries.sorted, ?_, hsorted,
        fun key => lookup_eq_of_perm entries.sorted_perm hsorted key⟩
      exact (load_of_read hnamed hread).trans (decode_settingsText path hdistinct)

theorem namesDistinct_put {entries : Entries} (hdistinct : NamesDistinct entries)
    (key text : String) : NamesDistinct (entries.put key text) :=
  namesDistinct_putMember hdistinct key text

theorem namesDistinct_erase {entries : Entries} (hdistinct : NamesDistinct entries) (key : String) :
    NamesDistinct (entries.erase key) := namesDistinct_filter hdistinct _

theorem get?_put (entries : Entries) (key other text : String) :
    (entries.put key text).get? other = if other == key then some text else entries.get? other :=
  lookup_putMember key other text entries

theorem get?_erase (entries : Entries) (key other : String) :
    (entries.erase key).get? other = if other == key then none else entries.get? other :=
  lookup_filter_ne key other entries

/-! ### One operation -/

/-- An operation on a file that holds entries is answered as it is in memory, and the file then holds
the entries that are in memory then. -/
theorem perform_of_holds {path : TreePath} {tree : FileTree} {entries : Entries}
    {operation : StorageOperation} (hholds : Holds path tree entries)
    (hunrefused : Unrefused path tree operation) :
    ∃ next, (Storage.memory entries).perform operation =
        (.memory next, (SettingsFile.perform ⟨tree, path⟩ operation).2) ∧
      Holds path (SettingsFile.perform ⟨tree, path⟩ operation).1 next := by
  obtain ⟨hnamed, -, hwritten⟩ := hunrefused
  obtain ⟨loaded, hload, hdistinct, htexts⟩ := id hholds
  cases operation with
  | get key =>
      refine ⟨entries, ?_, hholds⟩
      simp only [Storage.perform, Storage.get?, SettingsFile.perform, SettingsFile.get?_of_load hload,
        htexts key]
  | set key text =>
      simp only [SettingsFile.perform, SettingsFile.set_of_load hload] at hwritten ⊢
      obtain ⟨hdone, hsaved⟩ := holds_of_save hnamed (namesDistinct_put hdistinct key text)
        fun why hfault => hwritten why (congrArg (Except.map fun _ => none) hfault)
      refine ⟨entries.put key text, by rw [hdone]; rfl, hsaved.congr fun other => ?_⟩
      rw [get?_put, get?_put, htexts]
  | remove key =>
      by_cases hthere : (loaded.get? key).isSome = true
      · simp only [SettingsFile.perform, SettingsFile.remove_of_load hload hthere] at hwritten ⊢
        obtain ⟨hdone, hsaved⟩ := holds_of_save hnamed (namesDistinct_erase hdistinct key)
          fun why hfault => hwritten why (congrArg (Except.map fun _ => none) hfault)
        refine ⟨entries.erase key, by rw [hdone]; rfl, hsaved.congr fun other => ?_⟩
        rw [get?_erase, get?_erase, htexts]
      -- The key is in neither storage, so to take it away from memory changes nothing.
      · simp only [SettingsFile.perform, SettingsFile.remove_of_absent hload hthere]
        refine ⟨entries.erase key, rfl, hholds.congr fun other => ?_⟩
        have habsent : entries.get? key = none := by
          rw [← htexts key]
          simpa using hthere
        rw [get?_erase]
        split
        · next hother => rw [eq_of_beq hother, habsent]
        · rfl

/-! ### Where nothing is refused -/

/-- A file can be read or is missing, and it can be written. -/
structure Writable (path : TreePath) (tree : FileTree) : Prop where
  named : (path.any fun name => name.toList.contains '\x00') = false
  read : ∀ fault, tree.read path = .error fault → fault.reason = .missing
  save : ∀ octets, (tree.save path octets).2 = none

/-- After an operation the tree is the one before it, or the one with a file saved. -/
theorem tree_of_perform (path : TreePath) (tree : FileTree) (operation : StorageOperation) :
    (SettingsFile.perform ⟨tree, path⟩ operation).1 = tree ∨
      ∃ octets, (SettingsFile.perform ⟨tree, path⟩ operation).1 = (tree.save path octets).1 := by
  have hsave (entries : Entries) : (SettingsFile.save ⟨tree, path⟩ entries).1.tree =
      (tree.save path (Text.Utf8.encode (settingsText entries))).1 := by
    rw [SettingsFile.save]
  cases operation with
  | get key => exact .inl rfl
  | set key text =>
      simp only [SettingsFile.perform, SettingsFile.set]
      split
      · exact .inl rfl
      · exact .inr ⟨_, hsave _⟩
  | remove key =>
      simp only [SettingsFile.perform, SettingsFile.remove]
      split
      · exact .inl rfl
      · split
        · exact .inr ⟨_, hsave _⟩
        · exact .inl rfl

/-- A file that can be written once can be written ever after. -/
theorem Writable.perform {path : TreePath} {tree : FileTree} (hwritable : Writable path tree)
    (operation : StorageOperation) :
    Writable path (SettingsFile.perform ⟨tree, path⟩ operation).1 := by
  rcases tree_of_perform path tree operation with hsame | ⟨octets, hsaved⟩
  · rwa [hsame]
  · rw [hsaved]
    have hsave := hwritable.save octets
    -- A file that has been saved can be read, and it can be saved again.
    refine ⟨hwritable.named, fun fault hread => ?_,
      FileTree.save_of_isSaved (FileTree.isSaved_of_save hsave)⟩
    rw [FileTree.read_of_save hsave] at hread
    cases hread

/-- Every operation on a writable file that can be loaded is done. -/
theorem Writable.isOk_perform {path : TreePath} {tree : FileTree} {entries : Entries}
    (hwritable : Writable path tree) (hholds : Holds path tree entries)
    (operation : StorageOperation) :
    ∃ answer, (SettingsFile.perform ⟨tree, path⟩ operation).2 = .ok answer := by
  obtain ⟨loaded, hload, -, -⟩ := hholds
  have hsave (others : Entries) : (SettingsFile.save ⟨tree, path⟩ others).2 = .ok () := by
    simp only [SettingsFile.save, hwritable.save]
  cases operation with
  | get key => exact ⟨loaded.get? key, SettingsFile.get?_of_load hload key⟩
  | set key text =>
      refine ⟨none, ?_⟩
      rw [SettingsFile.perform, SettingsFile.set_of_load hload, hsave]
      rfl
  | remove key =>
      refine ⟨none, ?_⟩
      rw [SettingsFile.perform]
      by_cases hthere : (loaded.get? key).isSome = true
      · rw [SettingsFile.remove_of_load hload hthere, hsave]
        rfl
      · rw [SettingsFile.remove_of_absent hload hthere]
        rfl

/-- Of a writable file that can be loaded nothing is ever refused. -/
theorem unrefusedAll_of_writable {path : TreePath} {tree : FileTree} {entries : Entries}
    (hwritable : Writable path tree) (hholds : Holds path tree entries)
    (operations : List StorageOperation) : UnrefusedAll path tree operations := by
  induction operations generalizing tree entries with
  | nil => trivial
  | cons operation rest ih =>
      obtain ⟨answer, hdone⟩ := hwritable.isOk_perform hholds operation
      have hfirst : Unrefused path tree operation := by
        refine ⟨hwritable.named, hwritable.read, fun why hfault => ?_⟩
        rw [hdone] at hfault
        cases hfault
      obtain ⟨next, -, hnext⟩ := perform_of_holds hholds hfirst
      exact ⟨hfirst, ih (hwritable.perform operation) hnext⟩

/-! ### Any operations -/

/-- Whatever is asked of storages on one path, the answers are those of a storage in memory that starts
with the same entries. -/
theorem answersAt_eq_answers {path : TreePath} {tree : FileTree} {entries : Entries}
    {operations : List StorageOperation} (hholds : Holds path tree entries)
    (hunrefused : UnrefusedAll path tree operations) :
    answersAt path tree operations = (Storage.memory entries).answers operations := by
  induction operations generalizing tree entries with
  | nil => rfl
  | cons operation rest ih =>
      obtain ⟨hfirst, hrest⟩ := hunrefused
      obtain ⟨next, hmemory, hnext⟩ := perform_of_holds hholds hfirst
      rw [answersAt, Storage.answers, hmemory, ih hnext hrest]

/-- An operation on a storage in a file is one on the file, and the path stays. -/
theorem Storage.perform_file (path : TreePath) (tree : FileTree) (operation : StorageOperation) :
    (Storage.file ⟨tree, path⟩).perform operation =
      (.file ⟨(SettingsFile.perform ⟨tree, path⟩ operation).1, path⟩,
        (SettingsFile.perform ⟨tree, path⟩ operation).2) := by
  cases operation with
  | get key => rfl
  | set key text =>
      simp only [Storage.perform, Storage.set, SettingsFile.perform, SettingsFile.set]
      split <;> rfl
  | remove key =>
      simp only [Storage.perform, Storage.remove, SettingsFile.perform, SettingsFile.remove]
      split
      · rfl
      · split <;> rfl

/-- A single storage in a file answers like storages of which each is used once. -/
theorem answers_file (path : TreePath) (tree : FileTree) (operations : List StorageOperation) :
    (Storage.file ⟨tree, path⟩).answers operations = answersAt path tree operations := by
  induction operations generalizing tree with
  | nil => rfl
  | cons operation rest ih =>
      rw [Storage.answers, answersAt, Storage.perform_file, ih]

/-- A storage in a file refines one in memory: storages on one path whose file is missing, or holds an
object, answer as one storage in memory with the object's texts, as long as the operating system
refuses nothing. -/
theorem file_refines_memory {path : TreePath} {tree : FileTree} {entries : Entries}
    (hstarts : StartsWith path tree entries) {operations : List StorageOperation}
    (hunrefused : UnrefusedAll path tree operations) :
    answersAt path tree operations = (Storage.memory entries).answers operations := by
  cases operations with
  | nil => rfl
  | cons operation rest =>
      exact answersAt_eq_answers (holds_of_startsWith hunrefused.1.named hstarts) hunrefused

/-- The octets of an object in which a key comes twice and one member is no text. -/
def repeatedKeys : List UInt8 :=
  Text.Utf8.encode
    "\x7b\"a\": 1, \"b\": \"\\ud83d\\ude00\", \"c\": \"x\", \"b\": \"\u00e9\"\x7d".toList

/-- Updates with characters of each kind of escape. -/
def mixedUpdates : List StorageOperation :=
  [.get "b", .set "\r\n\u00e9" "\x00\"\\\x7f", .remove "a", .set "a" "\u2028", .remove "c",
    .get "c", .get "a", .get "\r\n\u00e9"]

theorem file_refines_memory_repeatedKeys :
    StartsWith ["s"] ⟨[(["s"], .file repeatedKeys)]⟩ [("b", "\u00e9"), ("c", "x")] ∧
      UnrefusedAll ["s"] ⟨[(["s"], .file repeatedKeys)]⟩ mixedUpdates ∧
      answersAt ["s"] ⟨[(["s"], .file repeatedKeys)]⟩ mixedUpdates =
        (Storage.memory [("b", "\u00e9"), ("c", "x")]).answers mixedUpdates := by
  have hstarts : StartsWith ["s"] ⟨[(["s"], .file repeatedKeys)]⟩ [("b", "\u00e9"), ("c", "x")] :=
    startsWith_of_decode rfl (by decide +kernel)
  have hwritable : Writable ["s"] ⟨[(["s"], .file repeatedKeys)]⟩ :=
    ⟨by decide, by rintro fault ⟨⟩, fun octets => rfl⟩
  have hunrefused : UnrefusedAll ["s"] ⟨[(["s"], .file repeatedKeys)]⟩ mixedUpdates :=
    unrefusedAll_of_writable hwritable (holds_of_startsWith hwritable.named hstarts) _
  exact ⟨hstarts, hunrefused, file_refines_memory hstarts hunrefused⟩

end TemplateWorkbench
