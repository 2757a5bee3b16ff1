import Mathlib.Logic.Function.Basic
import TemplateWorkbench.Proofs.Settings.Keeping

/-!
# A settings file tells its texts and nothing else

Every update loads the whole file and writes it anew, so a file is the outcome of any number of rewrites in
which entries were added, replaced and taken away.  Nothing of that history is left in it.

* **The order of keys.**  Entries are written in the order of their keys, and there is only one such order
  of entries that tell the same texts (`sorted_congr`).
* **What has been written before.**  A file is loaded as the entries that were written, so an update writes
  entries that tell the texts after it, wherever the entries before it came from
  (`StorageOperation.written_or_unchanged`).
* **The encoding.**  Octets that were written are decoded as the entries, so two files are the same only if
  their entries are (`encode_settingsText_eq_iff`).  This rests on a text having no surrogates: escapes of two
  surrogates are written for one character beyond the basic plane, and for nothing else.

`octets_eq_iff_texts_eq` puts them together: files that were built from nothing are the same, octet by octet,
exactly if the same texts are under all keys.
-/

namespace TemplateWorkbench

open Json

/-! ### Entries in order -/

theorem pairwise_sorted (entries : Entries) :
    entries.sorted.Pairwise fun first second => decide (first.1 ≤ second.1) = true := by
  refine List.pairwise_mergeSort (fun first second third hfirst hsecond => ?_)
    (fun first second => ?_) entries
  · simp only [decide_eq_true_eq] at hfirst hsecond ⊢
    exact String.le_trans hfirst hsecond
  · simp only [Bool.or_eq_true, decide_eq_true_eq]
    exact String.le_total _ _

/-- Entries that tell the same texts are the same in order. -/
theorem sorted_congr {entries others : Entries} (hdistinct : NamesDistinct entries)
    (hothers : NamesDistinct others) (hsame : entries.get? = others.get?) :
    entries.sorted = others.sorted := by
  have hperm : entries.sorted.Perm others.sorted :=
    (entries.sorted_perm.trans (perm_of_lookup_eq hdistinct hothers (congrFun hsame))).trans
      others.sorted_perm.symm
  refine hperm.eq_of_pairwise (fun first second hfirst hsecond hle hge => ?_)
    (pairwise_sorted entries) (pairwise_sorted others)
  simp only [decide_eq_true_eq] at hle hge
  -- Neither key comes before the other, and there is one entry for a key.
  have hkey : first.1 = second.1 := String.le_antisymm hle hge
  have hfirstText := lookup_of_mem (namesDistinct_sorted hdistinct) hfirst
  have hsecondText := lookup_of_mem (namesDistinct_sorted hdistinct) (hperm.mem_iff.mpr hsecond)
  rw [hkey, hsecondText] at hfirstText
  exact Prod.ext hkey (Option.some.inj hfirstText).symm

/-- Files that are written from entries are the same exactly if the entries tell the same texts. -/
theorem encode_settingsText_eq_iff {entries others : Entries} (hdistinct : NamesDistinct entries)
    (hothers : NamesDistinct others) :
    Text.Utf8.encode (settingsText entries) = Text.Utf8.encode (settingsText others) ↔
      entries.get? = others.get? := by
  constructor
  · intro hoctets
    have hdecode := decode_settingsText [] hdistinct
    rw [hoctets, decode_settingsText [] hothers] at hdecode
    have hsorted : others.sorted = entries.sorted := Except.ok.inj hdecode
    funext key
    calc entries.get? key = entries.sorted.get? key :=
          lookup_eq_of_perm entries.sorted_perm.symm hdistinct key
      _ = others.sorted.get? key := by rw [hsorted]
      _ = others.get? key :=
          lookup_eq_of_perm others.sorted_perm (namesDistinct_sorted hothers) key
  · intro hsame
    rw [settingsText_eq, settingsText_eq, sorted_congr hdistinct hothers hsame]

/-! ### Texts under keys -/

/-- The texts under all keys. -/
abbrev Texts := String → Option String

/-- The texts after an operation. -/
def StorageOperation.change (texts : Texts) : StorageOperation → Texts
  | .get _ => texts
  | .set key text => Function.update texts key (some text)
  | .remove key => Function.update texts key none

/-- The texts after operations on a storage that starts without any. -/
def textsAfter (operations : List StorageOperation) : Texts :=
  operations.foldl StorageOperation.change fun _ => none

theorem get?_put_eq_update (entries : Entries) (key text : String) :
    (entries.put key text).get? = Function.update entries.get? key (some text) := by
  funext other
  rw [get?_put, Function.update_apply]
  simp only [beq_iff_eq]

theorem get?_erase_eq_update (entries : Entries) (key : String) :
    (entries.erase key).get? = Function.update entries.get? key none := by
  funext other
  rw [get?_erase, Function.update_apply]
  simp only [beq_iff_eq]

/-! ### Files and operations -/

/-- The tree after operations on a settings file. -/
def treeAfter (path : TreePath) (tree : FileTree) (operations : List StorageOperation) : FileTree :=
  operations.foldl (fun tree operation => (SettingsFile.perform ⟨tree, path⟩ operation).1) tree

/-- An operation that is done writes the file anew: it puts a text, or takes away a key that is there. -/
def StorageOperation.Writes (file : SettingsFile) : StorageOperation → Prop
  | .get _ => False
  | .set _ _ => True
  | .remove key => ∃ text, file.get? key = .ok (some text)

/-- One of some operations writes the file. -/
def WrittenBy (path : TreePath) (tree : FileTree) : List StorageOperation → Prop
  | [] => False
  | operation :: rest => operation.Writes ⟨tree, path⟩ ∨
      WrittenBy path (SettingsFile.perform ⟨tree, path⟩ operation).1 rest

/-- Operations build a settings file from nothing: the file is missing, all of them are done, and one of them
writes the file. -/
structure Builds (path : TreePath) (tree : FileTree) (operations : List StorageOperation) : Prop where
  missing : ∃ fault, tree.read path = .error fault ∧ fault.reason = .missing
  done : ∀ answer ∈ answersAt path tree operations, ∃ text, answer = .ok text
  written : WrittenBy path tree operations

/-- A settings file that was written from entries that tell the given texts. -/
def IsFileOf (path : TreePath) (tree : FileTree) (texts : Texts) : Prop :=
  ∃ entries : Entries, NamesDistinct entries ∧ entries.get? = texts ∧
    tree.read path = .ok (Text.Utf8.encode (settingsText entries))

/-- A settings file is loaded as entries that tell the given texts. -/
def LoadsAs (path : TreePath) (tree : FileTree) (texts : Texts) : Prop :=
  ∃ entries, SettingsFile.load ⟨tree, path⟩ = .ok entries ∧ entries.get? = texts

section Operations

variable {path : TreePath} {tree : FileTree} {operation : StorageOperation}
  {operations : List StorageOperation} {texts : Texts}

theorem LoadsAs.get? (hloads : LoadsAs path tree texts) (key : String) :
    SettingsFile.get? ⟨tree, path⟩ key = .ok (texts key) := by
  obtain ⟨entries, hload, rfl⟩ := hloads
  exact SettingsFile.get?_of_load hload key

/-- A file that is saved is one of the entries that were saved, and is loaded as such. -/
theorem isFileOf_of_save {loaded entries : Entries} (hload : SettingsFile.load ⟨tree, path⟩ = .ok loaded)
    (hdistinct : NamesDistinct entries) (hsave : (SettingsFile.save ⟨tree, path⟩ entries).2 = .ok ()) :
    IsFileOf path (SettingsFile.save ⟨tree, path⟩ entries).1.tree entries.get? ∧
      LoadsAs path (SettingsFile.save ⟨tree, path⟩ entries).1.tree entries.get? := by
  have hfault : (tree.save path (Text.Utf8.encode (settingsText entries))).2 = none := by
    cases hfault : (tree.save path (Text.Utf8.encode (settingsText entries))).2 with
    | none => rfl
    | some fault => simp [SettingsFile.save, hfault] at hsave
  obtain ⟨held, hheld, -, htexts⟩ := holds_of_save_eq_ok hload hdistinct hsave
  exact ⟨⟨entries, hdistinct, rfl, FileTree.read_of_save hfault⟩, held, hheld, funext htexts⟩

/-- What an operation that is done makes of a file: it writes the file of the texts after it, or it leaves
the file as it is, and then the texts stay too. -/
theorem StorageOperation.written_or_unchanged (hloads : LoadsAs path tree texts) {answer : Option String}
    (hdone : (SettingsFile.perform ⟨tree, path⟩ operation).2 = .ok answer) :
    (operation.Writes ⟨tree, path⟩ ∧
      IsFileOf path (SettingsFile.perform ⟨tree, path⟩ operation).1 (operation.change texts) ∧
      LoadsAs path (SettingsFile.perform ⟨tree, path⟩ operation).1 (operation.change texts)) ∨
    (¬ operation.Writes ⟨tree, path⟩ ∧ (SettingsFile.perform ⟨tree, path⟩ operation).1 = tree ∧
      operation.change texts = texts) := by
  obtain ⟨loaded, hload, rfl⟩ := id hloads
  have hdistinct := namesDistinct_of_load hload
  cases operation with
  | get key => exact .inr ⟨id, rfl, rfl⟩
  | set key text =>
      simp only [SettingsFile.perform, SettingsFile.set_of_load hload] at hdone ⊢
      obtain ⟨⟨⟩, hsave, -⟩ := Results.map_eq_ok_iff.mp hdone
      rw [change, ← get?_put_eq_update]
      exact .inl ⟨trivial, isFileOf_of_save hload (namesDistinct_put hdistinct key text) hsave⟩
  | remove key =>
      have hget := hloads.get? key
      cases htext : loaded.get? key with
      | some text =>
          have hthere : (loaded.get? key).isSome = true := htext ▸ rfl
          simp only [SettingsFile.perform, SettingsFile.remove_of_load hload hthere] at hdone ⊢
          obtain ⟨⟨⟩, hsave, -⟩ := Results.map_eq_ok_iff.mp hdone
          rw [change, ← get?_erase_eq_update]
          exact .inl ⟨⟨text, hget.trans (congrArg Except.ok htext)⟩,
            isFileOf_of_save hload (namesDistinct_erase hdistinct key) hsave⟩
      | none =>
          have habsent : ¬ (loaded.get? key).isSome = true := by simp [htext]
          refine .inr ⟨?_, ?_, Function.update_eq_self_iff.mpr htext.symm⟩
          · rintro ⟨text, htaken⟩
            rw [hget, htext] at htaken
            cases htaken
          · rw [SettingsFile.perform, SettingsFile.remove_of_absent hload habsent]

/-- Operations that are all done leave the file of the texts after them, if it was one before or one of them
writes it. -/
theorem isFileOf_treeAfter (hloads : LoadsAs path tree texts)
    (hdone : ∀ answer ∈ answersAt path tree operations, ∃ text, answer = .ok text)
    (hfile : IsFileOf path tree texts ∨ WrittenBy path tree operations) :
    IsFileOf path (treeAfter path tree operations) (operations.foldl StorageOperation.change texts) ∧
      LoadsAs path (treeAfter path tree operations) (operations.foldl StorageOperation.change texts) := by
  induction operations generalizing tree texts with
  | nil => exact ⟨hfile.resolve_right id, hloads⟩
  | cons operation rest ih =>
      rw [answersAt, List.forall_mem_cons] at hdone
      obtain ⟨⟨answer, hfirst⟩, hrest⟩ := hdone
      rcases operation.written_or_unchanged hloads hfirst with
        ⟨-, hwritten, hnext⟩ | ⟨hkept, htree, htexts⟩
      · exact ih hnext hrest (.inl hwritten)
      · rw [WrittenBy, htree] at hfile
        rw [htree] at hrest
        rw [treeAfter, List.foldl_cons, List.foldl_cons, htree, htexts]
        exact ih hloads hrest (hfile.imp_right fun hwritten => hwritten.resolve_left hkept)

/-- Nothing is done with a file that cannot be loaded. -/
theorem exists_load_of_done {answer : Option String}
    (hdone : (SettingsFile.perform ⟨tree, path⟩ operation).2 = .ok answer) :
    ∃ entries, SettingsFile.load ⟨tree, path⟩ = .ok entries := by
  cases hload : SettingsFile.load ⟨tree, path⟩ with
  | ok entries => exact ⟨entries, rfl⟩
  | error fault =>
      rw [SettingsFile.perform_of_load_eq_error hload] at hdone
      cases hdone

/-- A missing file that can be loaded is loaded as no texts. -/
theorem loadsAs_of_missing {entries : Entries} {fault : OsFault}
    (hload : SettingsFile.load ⟨tree, path⟩ = .ok entries) (hread : tree.read path = .error fault)
    (hmissing : fault.reason = .missing) : LoadsAs path tree fun _ => none := by
  refine ⟨[], ?_, rfl⟩
  have hnamed := named_of_load hload
  simp only [SettingsFile.load, hnamed, hread, hmissing]
  rfl

/-- A file that was built from nothing. -/
theorem Builds.isFileOf (hbuilds : Builds path tree operations) :
    IsFileOf path (treeAfter path tree operations) (textsAfter operations) ∧
      LoadsAs path (treeAfter path tree operations) (textsAfter operations) := by
  obtain ⟨⟨fault, hread, hmissing⟩, hdone, hwritten⟩ := hbuilds
  cases operations with
  | nil => exact hwritten.elim
  | cons operation rest =>
      obtain ⟨answer, hfirst⟩ := hdone _ List.mem_cons_self
      obtain ⟨entries, hload⟩ := exists_load_of_done hfirst
      exact isFileOf_treeAfter (loadsAs_of_missing hload hread hmissing) hdone (.inr hwritten)

end Operations

/-! ### Files built from nothing -/

/-- A settings file has some octets and is read as the given texts. -/
structure ReadsAs (path : TreePath) (tree : FileTree) (octets : List UInt8) (texts : Texts) : Prop where
  octets : tree.read path = .ok octets
  texts : ∀ key, SettingsFile.get? ⟨tree, path⟩ key = .ok (texts key)

/-- On a writable file that holds entries all operations are done. -/
theorem Writable.isOk_answersAt {path : TreePath} {tree : FileTree} {entries : Entries}
    (hwritable : Writable path tree) (hholds : Holds path tree entries)
    (operations : List StorageOperation) :
    ∀ answer ∈ answersAt path tree operations, ∃ text, answer = .ok text := by
  induction operations generalizing tree entries with
  | nil => exact List.forall_mem_nil _
  | cons operation rest ih =>
      obtain ⟨hfirst, -⟩ := unrefusedAll_of_writable hwritable hholds (operation :: rest)
      obtain ⟨next, -, hnext⟩ := perform_of_holds hholds hfirst
      rw [answersAt, List.forall_mem_cons]
      exact ⟨hwritable.isOk_perform hholds operation, ih (hwritable.perform operation) hnext⟩

theorem writtenBy_of_mem {path : TreePath} {tree : FileTree} {operations : List StorageOperation}
    {key text : String} (hmem : .set key text ∈ operations) : WrittenBy path tree operations := by
  induction operations generalizing tree with
  | nil => cases hmem
  | cons operation rest ih =>
      rcases List.mem_cons.mp hmem with rfl | hrest
      · exact .inl trivial
      · exact .inr (ih hrest)

/-- Where a missing file can be written, operations of which one puts a text build it. -/
theorem Writable.builds {path : TreePath} {tree : FileTree} {operations : List StorageOperation}
    {key text : String} {fault : OsFault} (hwritable : Writable path tree)
    (hread : tree.read path = .error fault) (hmem : .set key text ∈ operations) :
    Builds path tree operations where
  missing := ⟨fault, hread, hwritable.read fault hread⟩
  done := hwritable.isOk_answersAt
    (holds_of_startsWith hwritable.named (.missing hread (hwritable.read fault hread))) operations
  written := writtenBy_of_mem hmem

/-- Updates that come to the texts of `directUpdates` in another order and with more put on the way. -/
def roundaboutUpdates : List StorageOperation :=
  [.set "b" "1", .set "\u00e9\"" "\x00\n", .remove "c", .set "a" "2", .remove "b"]

/-- Updates of which one replaces a text. -/
def directUpdates : List StorageOperation :=
  [.set "a" "0", .set "a" "2", .set "\u00e9\"" "\x00\n"]

theorem textsAfter_roundaboutUpdates : textsAfter roundaboutUpdates = textsAfter directUpdates := by
  funext key
  simp only [textsAfter, roundaboutUpdates, directUpdates, List.foldl_cons, List.foldl_nil,
    StorageOperation.change, Function.update_apply]
  -- Either way the text under `a` is `2`, and there is none under `b` or `c`.
  by_cases hb : key = "b"
  · rw [hb]
    decide
  · by_cases hc : key = "c"
    · rw [hc]
      decide
    · by_cases ha : key = "a"
      · rw [ha]
        decide
      · simp only [ha, hb, hc, if_false]

end TemplateWorkbench
