import TemplateWorkbench.Proofs.Settings.Keeping

/-!
# Writes that stop short

Replacing a settings file may stop anywhere: when some of the directories above it have been made, or
when some of the new content is in the temporary file, be it that the operating system refuses to go on
or that nothing is left that could.  Until the temporary file takes its place, the settings file is as it
was; with it everything that is read, and everything that a later write makes of it.

A path to a settings file that is there leads through directories that are there, and no file is written
but the one beside it.  A path to one that is not there may pass directories that are still to be made.
If it goes back up behind one of them it leads, once that one has been made, to a file that was there all
along; a path that does not go back up leads to no other place than the one that it names.
-/

namespace TemplateWorkbench

open Json

namespace FileTree

/-! ### Trees -/

/-- Whatever is in a tree is in a directory of the tree. -/
def IsRooted (tree : FileTree) : Prop :=
  ∀ place name, (tree.node? (place ++ [name])).isSome = true → tree.node? place = some .directory

/-- Above everything in a tree there are directories. -/
theorem IsRooted.isDirectory_of_append {tree : FileTree} (hrooted : tree.IsRooted)
    {place : TreePath} (name : String) {rest : TreePath}
    (hsome : (tree.node? (place ++ name :: rest)).isSome = true) :
    tree.node? place = some .directory := by
  induction rest generalizing place name with
  | nil => exact hrooted place name hsome
  | cons next rest ih =>
      have hbelow : tree.node? (place ++ [name]) = some .directory := by
        refine ih next ?_
        rwa [List.append_assoc]
      exact hrooted place name (by rw [hbelow]; rfl)

/-- A tree is rooted if every place that it lists is in a directory. -/
theorem isRooted_of_nodes {tree : FileTree}
    (hnodes : ∀ entry ∈ tree.nodes, tree.node? entry.1.dropLast = some .directory) : tree.IsRooted := by
  intro place name hsome
  by_cases habove : IsAbove (place ++ [name])
  · refine node?_of_isAbove tree ?_
    rw [IsAbove, List.all_append, Bool.and_eq_true] at habove
    exact habove.1
  · rw [node?_of_not_isAbove tree habove] at hsome
    obtain ⟨node, hnode⟩ := Option.isSome_iff_exists.mp hsome
    have hplace := hnodes _ (mem_of_lookup_eq_some hnode)
    rwa [List.dropLast_concat] at hplace

variable {tree next : FileTree} {path place : TreePath}

/-- A walk that never goes up leads to where its names are. -/
theorem eq_of_walk {target names : TreePath} (hplain : upName ∉ names)
    (hwalk : tree.walk place names = .ok target) : target = place ++ names := by
  induction names generalizing place with
  | nil =>
      cases hwalk
      exact (List.append_nil _).symm
  | cons name rest ih =>
      rw [List.mem_cons, not_or] at hplain
      rw [walk] at hwalk
      split at hwalk
      · cases hwalk
      · cases hwalk
      · split at hwalk
        · cases hwalk
        · rw [if_neg (by simpa using Ne.symm hplain.1)] at hwalk
          rw [ih hplain.2 hwalk, List.append_assoc]
          rfl

theorem eq_of_place? (hplain : upName ∉ path) (hplace : tree.place? path = .ok place) :
    place = path := by
  unfold place? at hplace
  split at hplace
  · cases hplace
  · exact eq_of_walk hplain hplace

/-- Where a walk that never goes up misses something, there is nothing. -/
theorem node?_of_walk_missing {names : TreePath} (hrooted : tree.IsRooted) (hplain : upName ∉ names)
    (hwalk : tree.walk place names = .error .missing) : tree.node? (place ++ names) = none := by
  induction names generalizing place with
  | nil => cases hwalk
  | cons name rest ih =>
      rw [List.mem_cons, not_or] at hplain
      by_contra hsome
      have hdirectory := hrooted.isDirectory_of_append name (Option.isSome_iff_ne_none.mpr hsome)
      simp only [walk, hdirectory] at hwalk
      split at hwalk
      · cases hwalk
      · rw [if_neg (by simpa using Ne.symm hplain.1)] at hwalk
        refine hsome ?_
        rw [← ih hplain.2 hwalk, List.append_assoc]
        rfl

theorem node?_of_place?_missing (hrooted : tree.IsRooted) (hplain : upName ∉ path)
    (hplace : tree.place? path = .error .missing) : tree.node? path = none := by
  unfold place? at hplace
  split at hplace
  · cases hplace
  · exact node?_of_walk_missing hrooted hplain hplace

/-! ### Directories that are made -/

/-- A directory is made at the place of a path, and nothing else changes. -/
theorem node?_makeDirectory (hplain : upName ∉ path) (hmake : tree.makeDirectory path = .ok next)
    (hne : place ≠ path) : next.node? place = tree.node? place := by
  unfold makeDirectory at hmake
  split at hmake
  · cases hmake
  · next goal hgoal =>
      split at hmake
      · cases hmake
      · cases hmake
        rw [eq_of_place? hplain hgoal]
        exact node?_put_of_ne tree _ hne

/-- Directories are made no deeper than they are asked for. -/
theorem node?_ensureDirectory (tree : FileTree) {names : List String} (hplain : upName ∉ names)
    (hdeep : names.length < place.length) :
    (tree.ensureDirectory names).1.node? place = tree.node? place := by
  induction names with
  | nil => rfl
  | cons name before ih =>
      have hpath : upName ∉ (name :: before).reverse := by rwa [List.mem_reverse]
      have hne : place ≠ (name :: before).reverse := by
        rintro rfl
        simp at hdeep
      have hbefore := ih (fun hmem => hplain (List.mem_cons_of_mem _ hmem))
        (Nat.lt_of_succ_lt hdeep)
      rw [ensureDirectory]
      split
      · next hmake => exact node?_makeDirectory hpath hmake hne
      · split
        · next hensure => rwa [hensure] at hbefore
        · next hensure =>
            rw [hensure] at hbefore
            split
            · next hmake => exact (node?_makeDirectory hpath hmake hne).trans hbefore
            · exact hbefore
      · rfl

/-- Above a path that leads somewhere no directory has to be made. -/
theorem ensureDirectory_drop {names : List String} {last : String}
    (hplace : tree.place? (names.reverse ++ [last]) = .ok place) (count : Nat) :
    tree.ensureDirectory (names.drop count) = (tree, none) := by
  obtain ⟨above, habove, hnode, -⟩ := place?_of_place?_concat hplace
  induction names generalizing last place above count with
  | nil => rw [List.drop_nil, ensureDirectory]
  | cons name before ih =>
      cases count with
      | zero => exact ensureDirectory_of_isDirectory habove hnode
      | succ count =>
          rw [List.reverse_cons] at habove
          obtain ⟨higher, hhigher, hnodeHigher, -⟩ := place?_of_place?_concat habove
          exact ih habove count higher hhigher hnodeHigher

/-! ### The temporary file -/

theorem temporary_concat (names : TreePath) (last : String) :
    temporary (names ++ [last]) = names ++ [last ++ ".tmp"] := by
  simp [temporary]

/-- The name of a temporary file is another name, and does not lead up. -/
theorem tmp_ne (last : String) : last ++ ".tmp" ≠ last ∧ last ++ ".tmp" ≠ upName := by
  have hlength : (last ++ ".tmp").length = last.length + 4 := String.length_append ..
  constructor
  · intro hsame
    rw [hsame] at hlength
    omega
  · intro hsame
    rw [hsame] at hlength
    have hup : upName.length = 2 := rfl
    omega

/-- The temporary file is in another place than the file. -/
theorem ne_of_place?_temporary {goal : TreePath} (hplace : tree.place? path = .ok place)
    (hgoal : tree.place? (temporary path) = .ok goal) : place ≠ goal := by
  rcases List.eq_nil_or_concat path with rfl | ⟨names, last, hconcat⟩
  · have hroot : place = [] := eq_of_place? List.not_mem_nil hplace
    have htemporary : goal = [".tmp"] := eq_of_place? (by decide) hgoal
    rw [hroot, htemporary]
    exact List.cons_ne_nil _ _ |>.symm
  · rw [List.concat_eq_append] at hconcat
    subst hconcat
    rw [temporary_concat] at hgoal
    obtain ⟨hother, hdown⟩ := tmp_ne last
    obtain ⟨above, habove, -, hlast⟩ := place?_of_place?_concat hplace
    obtain ⟨same, hsame, -, htemporary⟩ := place?_of_place?_concat hgoal
    rw [habove] at hsame
    cases hsame
    rw [if_neg (by simpa using hdown)] at htemporary
    rw [hlast, htemporary]
    split
    -- The one place is above the directory, or ends in the name that leads up; the other does neither.
    · unfold up
      split
      · intro hequal
        exact hdown (List.singleton_inj.mp (List.append_cancel_left hequal)).symm
      · intro hequal
        have hlength := congrArg List.length hequal
        rw [List.length_dropLast, List.length_append] at hlength
        simp only [List.length_singleton] at hlength
        omega
    · intro hequal
      exact hother (List.singleton_inj.mp (List.append_cancel_left hequal)).symm

/-- No name of a temporary path leads up where none of the path does. -/
theorem temporary_of_plain (hplain : upName ∉ path) :
    upName ∉ temporary path ∧ temporary path ≠ path := by
  rcases List.eq_nil_or_concat path with rfl | ⟨names, last, hconcat⟩
  · exact ⟨by decide, by decide⟩
  · rw [List.concat_eq_append] at hconcat
    subst hconcat
    rw [temporary_concat]
    obtain ⟨hother, hdown⟩ := tmp_ne last
    rw [List.mem_append, not_or] at hplain
    refine ⟨?_, fun hequal => hother (List.singleton_inj.mp (List.append_cancel_left hequal))⟩
    rw [List.mem_append, List.mem_singleton, not_or]
    exact ⟨hplain.1, hdown.symm⟩

/-- What is written to the temporary file leaves the file as it is. -/
theorem LeadsTo.write_temporary (hleads : tree.LeadsTo path place) {octets : List UInt8}
    (hwrite : tree.write (temporary path) octets = .ok next) :
    next.LeadsTo path place ∧ next.node? place = tree.node? place := by
  obtain ⟨goal, hgoal, rfl⟩ := write_eq_ok_iff.mp hwrite
  exact ⟨hleads.put hgoal octets,
    node?_put_of_ne tree _ (ne_of_place?_temporary hleads.place? hgoal.place?)⟩

/-- Where there is no file, none is written but the temporary one. -/
theorem node?_write_temporary (hplain : upName ∉ path) {octets : List UInt8}
    (hwrite : tree.write (temporary path) octets = .ok next) : next.node? path = tree.node? path := by
  obtain ⟨goal, hgoal, rfl⟩ := write_eq_ok_iff.mp hwrite
  obtain ⟨hplainTemporary, hother⟩ := temporary_of_plain hplain
  rw [eq_of_place? hplainTemporary hgoal.place?]
  exact node?_put_of_ne tree _ hother.symm

/-! ### Where a save may stop -/

/-- The trees at which replacing the file at a path may stop before the file is replaced: at most some
directories above it have been made; or all of them, and a temporary file has been opened or holds some
of the octets. -/
inductive StopsSaving (tree : FileTree) (path : TreePath) (octets : List UInt8) : FileTree → Prop
  | making (count : Nat) :
    StopsSaving tree path octets (tree.ensureDirectory (path.dropLast.reverse.drop count)).1
  | opened {ready next : FileTree} (hready : tree.makeParents path = (ready, none))
    (hopen : ready.write (temporary path) [] = .ok next) : StopsSaving tree path octets next
  | writing {ready opened next : FileTree} {written : List UInt8}
    (hready : tree.makeParents path = (ready, none))
    (hopen : ready.write (temporary path) [] = .ok opened) (hpart : written <+: octets)
    (hwrite : opened.write (temporary path) written = .ok next) :
    StopsSaving tree path octets next

/-- A save that is refused stops at one of these trees. -/
theorem stopsSaving_of_save {octets : List UInt8} (hrefused : (tree.save path octets).2 ≠ none) :
    StopsSaving tree path octets (tree.save path octets).1 := by
  rw [save, saveSteps, takeSteps, saveStep] at hrefused ⊢
  cases hready : tree.makeParents path with
  | mk ready refusal =>
      have hmade : StopsSaving tree path octets (tree.makeParents path).1 := .making 0
      rw [hready] at hmade
      rw [hready] at hrefused
      cases refusal with
      | some fault => exact hmade
      | none =>
          simp only [takeSteps, saveStep] at hrefused ⊢
          cases hopen : ready.write (temporary path) [] with
          | error fault => exact hmade
          | ok opened =>
              simp only [hopen, attempt] at hrefused ⊢
              cases hwrite : opened.write (temporary path) octets with
              | error fault => exact .opened hready hopen
              | ok written =>
                  simp only [hwrite] at hrefused ⊢
                  cases hreplace : written.replace (temporary path) path with
                  | error fault => exact .writing hready hopen (List.prefix_refl octets) hwrite
                  | ok last => simp [hreplace] at hrefused

/-- Where a path leads to a place without a directory, it still does when a save has stopped, and what
is there is the same. -/
theorem StopsSaving.leadsTo {octets : List UInt8} (hstops : StopsSaving tree path octets next)
    (hleads : tree.LeadsTo path place) :
    next.LeadsTo path place ∧ next.node? place = tree.node? place := by
  have hmaking := makeParents_of_place? hleads.place?
  -- The directories are there already, and the temporary file is another place.
  cases hstops with
  | making count =>
      have hsame : tree.ensureDirectory (path.dropLast.reverse.drop count) = (tree, none) := by
        rcases List.eq_nil_or_concat path with rfl | ⟨names, last, hconcat⟩
        · simp [ensureDirectory]
        · rw [List.concat_eq_append] at hconcat
          subst hconcat
          rw [List.dropLast_concat]
          exact ensureDirectory_drop (by rw [List.reverse_reverse]; exact hleads.place?) count
      rw [hsame]
      exact ⟨hleads, rfl⟩
  | opened hready hopen =>
      rw [hmaking] at hready
      cases hready
      exact hleads.write_temporary hopen
  | writing hready hopen hpart hwrite =>
      rw [hmaking] at hready
      cases hready
      obtain ⟨hleadsOpened, hsame⟩ := hleads.write_temporary hopen
      obtain ⟨hleadsNext, hnode⟩ := hleadsOpened.write_temporary hwrite
      exact ⟨hleadsNext, hnode.trans hsame⟩

/-- Where a path that never goes up names nothing, there is still nothing when a save has stopped. -/
theorem StopsSaving.node? {octets : List UInt8} (hstops : StopsSaving tree path octets next)
    (hplain : upName ∉ path) (hne : path ≠ []) : next.node? path = tree.node? path := by
  have hnames : upName ∉ path.dropLast.reverse := fun hmem =>
    hplain (List.mem_of_mem_dropLast (List.mem_reverse.mp hmem))
  have hlength : path.dropLast.reverse.length < path.length := by
    have hpositive := List.length_pos_iff.mpr hne
    rw [List.length_reverse, List.length_dropLast]
    omega
  have hparents {ready : FileTree} (hready : tree.makeParents path = (ready, none)) :
      ready.node? path = tree.node? path := by
    have hmade := node?_ensureDirectory tree hnames hlength
    rwa [← makeParents, hready] at hmade
  cases hstops with
  | making count =>
      refine node?_ensureDirectory tree (fun hmem => hnames (List.mem_of_mem_drop hmem)) ?_
      rw [List.length_drop]
      omega
  | opened hready hopen => exact (node?_write_temporary hplain hopen).trans (hparents hready)
  | writing hready hopen hpart hwrite =>
      exact (node?_write_temporary hplain hwrite).trans
        ((node?_write_temporary hplain hopen).trans (hparents hready))

/-! ### Reading when a save has stopped -/

/-- Two trees have the same file at a path; or in the one it is missing, and it cannot be read in the
other. -/
def ReadsAlike (path : TreePath) (tree next : FileTree) : Prop :=
  next.read path = tree.read path ∨
    (∃ fault, tree.read path = .error fault ∧ fault.reason = .missing) ∧
      ∃ fault, next.read path = .error fault

theorem read_eq_of_leadsTo (hleads : tree.LeadsTo path place) (hnext : next.LeadsTo path place)
    (hnode : next.node? place = tree.node? place) : next.read path = tree.read path := by
  rw [read, read, hleads.place?, hnext.place?]
  simp only [hnode]

theorem read_of_node?_none (hplain : upName ∉ path) (hnone : tree.node? path = none) :
    ∃ fault, tree.read path = .error fault := by
  rw [read]
  split
  · exact ⟨_, rfl⟩
  · next goal hgoal =>
      rw [eq_of_place? hplain hgoal, hnone]
      exact ⟨_, rfl⟩

/-- Where a path does not pass what is missing and goes back up, a file that can be read or is missing
reads alike when a save has stopped. -/
theorem StopsSaving.readsAlike {octets : List UInt8} (hstops : StopsSaving tree path octets next)
    (hrooted : tree.IsRooted) (hway : tree.place? path = .error .missing → upName ∉ path)
    (hread : ∀ fault, tree.read path = .error fault → fault.reason = .missing) :
    ReadsAlike path tree next := by
  -- If the path leads somewhere, nothing there has changed; if not, nothing is there afterwards.
  cases hplace : tree.place? path with
  | ok place =>
      have hfree : tree.node? place ≠ some .directory := by
        intro hdirectory
        have hfault : tree.read path = .error ⟨.isDirectory, path⟩ := by
          rw [read, hplace]
          simp only [hdirectory]
        cases hread _ hfault
      obtain ⟨hnext, hnode⟩ := hstops.leadsTo ⟨hplace, hfree⟩
      exact .inl (read_eq_of_leadsTo ⟨hplace, hfree⟩ hnext hnode)
  | error reason =>
      have hfault : tree.read path = .error ⟨reason, path⟩ := by rw [read, hplace]
      have hmissing : reason = .missing := hread _ hfault
      subst hmissing
      have hplain := hway hplace
      have hne : path ≠ [] := by
        rintro rfl
        cases hplace
      have hnone : next.node? path = none :=
        (hstops.node? hplain hne).trans (node?_of_place?_missing hrooted hplain hplace)
      exact .inr ⟨⟨_, hfault, rfl⟩, read_of_node?_none hplain hnone⟩

/-- The octets of the file at a path, if there is one. -/
def octets? (tree : FileTree) (path : TreePath) : Option (List UInt8) := (tree.read path).toOption

theorem ReadsAlike.octets? (halike : ReadsAlike path tree next) :
    next.octets? path = tree.octets? path := by
  rcases halike with hsame | ⟨⟨fault, hread, -⟩, other, hother⟩
  · rw [FileTree.octets?, FileTree.octets?, hsame]
  · rw [FileTree.octets?, FileTree.octets?, hread, hother]
    rfl

end FileTree

open FileTree

variable {path : TreePath} {tree next : FileTree}

/-- A file that cannot be read is loaded as one without entries, or not at all. -/
theorem SettingsFile.load_of_read_error {fault : OsFault} (hread : tree.read path = .error fault) :
    load ⟨tree, path⟩ = .ok [] ∨ ∃ why, load ⟨tree, path⟩ = .error why := by
  rw [load, hread]
  simp only
  split
  · exact .inr ⟨_, rfl⟩
  · split
    · exact .inl rfl
    · exact .inr ⟨_, rfl⟩

/-- A file that cannot be read has no value under any key. -/
theorem SettingsStore.get_of_read_error {fault : OsFault} (hread : tree.read path = .error fault)
    (space key : String) (fallback : Json) :
    (get ⟨some (.file ⟨tree, path⟩), space⟩ key fallback).1 = .ok fallback := by
  simp only [get, Storage.get?, SettingsFile.get?]
  rcases SettingsFile.load_of_read_error hread with hload | ⟨why, hload⟩
  · rw [hload]
    rfl
  · rw [hload]
    rfl

/-- What reads alike is loaded alike, if it is loaded. -/
theorem FileTree.ReadsAlike.load {entries : Entries} (halike : ReadsAlike path tree next)
    (hload : SettingsFile.load ⟨next, path⟩ = .ok entries) :
    SettingsFile.load ⟨tree, path⟩ = .ok entries := by
  rcases halike with hsame | ⟨⟨fault, hread, hmissing⟩, other, hother⟩
  · rw [← hload, SettingsFile.load, SettingsFile.load, hsame]
  · have hnamed := named_of_load hload
    have hempty : entries = [] := by
      rcases SettingsFile.load_of_read_error hother with hnone | ⟨why, hwhy⟩
      · exact Except.ok.inj (hload.symm.trans hnone)
      · rw [hwhy] at hload
        cases hload
    simp only [SettingsFile.load, hnamed, hread, hmissing, hempty]
    rfl

theorem FileTree.ReadsAlike.get (halike : ReadsAlike path tree next) (space key : String)
    (fallback : Json) : (SettingsStore.get ⟨some (.file ⟨next, path⟩), space⟩ key fallback).1 =
      (SettingsStore.get ⟨some (.file ⟨tree, path⟩), space⟩ key fallback).1 := by
  rcases halike with hsame | ⟨⟨fault, hread, -⟩, other, hother⟩
  · simp only [SettingsStore.get, Storage.get?, SettingsFile.get?, SettingsFile.load, hsame]
    rfl
  · rw [SettingsStore.get_of_read_error hread, SettingsStore.get_of_read_error hother]

/-! ### Requests that stop short -/

/-- The content of a settings file with the given entries, as octets. -/
def SettingsFile.document (entries : Entries) : List UInt8 := Text.Utf8.encode (settingsText entries)

/-- The new content of a settings file that a request is to write, if it comes to write one. -/
def SettingsRequest.document? (file : SettingsFile) : SettingsRequest → Option (List UInt8)
  | get _ _ _ => none
  | set space key value =>
    match file.load, Json.write .asciiLine value with
    | .ok entries, .ok text =>
      some (SettingsFile.document (entries.put (SettingsStore.fullKey space key) text))
    | _, _ => none
  | remove space key =>
    match file.load with
    | .ok entries =>
      if (entries.get? (SettingsStore.fullKey space key)).isSome then
        some (SettingsFile.document (entries.erase (SettingsStore.fullKey space key)))
      else none
    | .error _ => none

/-- The trees at which a request may stop before the settings file is replaced: before anything is
written, or while the new content is being saved. -/
inductive SettingsRequest.StopsAt (request : SettingsRequest) (file : SettingsFile) : FileTree → Prop
  | before : StopsAt request file file.tree
  | saving {octets : List UInt8} {next : FileTree} (hdocument : request.document? file = some octets)
    (hstops : file.tree.StopsSaving file.path octets next) : StopsAt request file next

theorem SettingsFile.save_eq_ok_iff {entries : Entries} :
    (save ⟨tree, path⟩ entries).2 = .ok () ↔ (tree.save path (document entries)).2 = none := by
  rw [save]
  cases hsave : tree.save path (Text.Utf8.encode (settingsText entries)) with
  | mk next fault =>
      rw [document, hsave]
      cases fault with
      | none => simp
      | some fault => simp

/-- A request that comes to write saves the new content, and is done if the save is not refused. -/
theorem ask_of_document? {request : SettingsRequest} {octets : List UInt8}
    (hdocument : request.document? ⟨tree, path⟩ = some octets) :
    ((Storage.file ⟨tree, path⟩).ask request).1 = .file ⟨(tree.save path octets).1, path⟩ ∧
      (((Storage.file ⟨tree, path⟩).ask request).2.isDone = true ↔
        (tree.save path octets).2 = none) := by
  cases request with
  | get space key fallback => cases hdocument
  | set space key value =>
      simp only [SettingsRequest.document?] at hdocument
      split at hdocument
      · next entries text hload hwrite =>
          cases hdocument
          constructor
          · rw [Storage.ask_set_of_write _ hwrite]
            exact congrArg (fun result => Storage.file result.1) (SettingsFile.set_of_load hload _ _)
          · refine SettingsStore.isOk_set_iff.trans (Iff.trans ?_ SettingsFile.save_eq_ok_iff)
            rw [← SettingsFile.set_of_load hload]
            constructor
            · rintro ⟨other, hother, hdone⟩
              rw [hwrite] at hother
              cases hother
              exact hdone
            · exact fun hdone => ⟨text, hwrite, hdone⟩
      · cases hdocument
  | remove space key =>
      simp only [SettingsRequest.document?] at hdocument
      split at hdocument
      · next entries hload =>
          split at hdocument
          · next hthere =>
              cases hdocument
              have hremove := SettingsFile.remove_of_load hload hthere
              constructor
              · exact congrArg (fun result => Storage.file result.1) hremove
              · change (SettingsStore.remove ⟨some (.file ⟨tree, path⟩), space⟩ key).2.1.isOk = true ↔ _
                rw [SettingsStore.isOk_remove_iff, ← SettingsFile.save_eq_ok_iff, ← hremove]
                rfl
          · cases hdocument
      · cases hdocument

/-- A request that does not come to write leaves the file tree as it is. -/
theorem ask_of_document?_none {request : SettingsRequest}
    (hdocument : request.document? ⟨tree, path⟩ = none) :
    ((Storage.file ⟨tree, path⟩).ask request).1 = .file ⟨tree, path⟩ := by
  cases request with
  | get space key fallback => rfl
  | set space key value =>
      simp only [SettingsRequest.document?] at hdocument
      cases hwrite : Json.write .asciiLine value with
      | error fault => rw [Storage.ask_set_of_error _ hwrite]
      | ok text =>
          rw [Storage.ask_set_of_write _ hwrite]
          cases hload : SettingsFile.load ⟨tree, path⟩ with
          | error fault => simp only [Storage.set, SettingsFile.set, hload]
          | ok entries => simp [hload, hwrite] at hdocument
  | remove space key =>
      simp only [SettingsRequest.document?] at hdocument
      rw [Storage.ask_remove]
      cases hload : SettingsFile.load ⟨tree, path⟩ with
      | error fault => simp only [Storage.remove, SettingsFile.remove, hload]
      | ok entries =>
          simp only [hload, ite_eq_right_iff, reduceCtorEq, imp_false] at hdocument
          exact congrArg (fun result => Storage.file result.1)
            (SettingsFile.remove_of_absent hload hdocument)

/-- What a request that is done makes of the file: the new content, or nothing else than there was. -/
theorem octets?_of_isDone {request : SettingsRequest}
    (hdone : ((Storage.file ⟨tree, path⟩).ask request).2.isDone = true) :
    ∃ last, ((Storage.file ⟨tree, path⟩).ask request).1 = .file ⟨last, path⟩ ∧
      last.octets? path = (request.document? ⟨tree, path⟩).or (tree.octets? path) := by
  cases hdocument : request.document? ⟨tree, path⟩ with
  | none => exact ⟨tree, ask_of_document?_none hdocument, rfl⟩
  | some octets =>
      obtain ⟨hask, hsaved⟩ := ask_of_document? hdocument
      refine ⟨_, hask, ?_⟩
      rw [octets?, read_of_save (hsaved.mp hdone)]
      rfl

/-- What reads alike is to be written alike by a request that is done. -/
theorem FileTree.ReadsAlike.document? (halike : ReadsAlike path tree next) {request : SettingsRequest}
    (hdone : ((Storage.file ⟨next, path⟩).ask request).2.isDone = true) :
    request.document? ⟨next, path⟩ = request.document? ⟨tree, path⟩ := by
  cases request with
  | get space key fallback => rfl
  | set space key value =>
      obtain ⟨text, -, hset⟩ := SettingsStore.isOk_set_iff.mp hdone
      cases hload : SettingsFile.load ⟨next, path⟩ with
      | error fault => simp [Storage.set, SettingsFile.set, hload] at hset
      | ok entries => simp only [SettingsRequest.document?, hload, halike.load hload]
  | remove space key =>
      change (SettingsStore.remove ⟨some (.file ⟨next, path⟩), space⟩ key).2.1.isOk = true at hdone
      have hremove := SettingsStore.isOk_remove_iff.mp hdone
      cases hload : SettingsFile.load ⟨next, path⟩ with
      | error fault => simp [Storage.remove, SettingsFile.remove, hload] at hremove
      | ok entries => simp only [SettingsRequest.document?, hload, halike.load hload]

/-! ### Nothing is lost -/

/-- A tree has all that another one has of a settings file: its content, what is read of it under every
key, and what a later request that is done makes of it. -/
structure KeepsSettings (path : TreePath) (tree next : FileTree) : Prop where
  octets : next.octets? path = tree.octets? path
  get : ∀ space key fallback,
    (SettingsStore.get ⟨some (.file ⟨next, path⟩), space⟩ key fallback).1 =
      (SettingsStore.get ⟨some (.file ⟨tree, path⟩), space⟩ key fallback).1
  write : ∀ request : SettingsRequest, ((Storage.file ⟨next, path⟩).ask request).2.isDone = true →
    ∃ last, ((Storage.file ⟨next, path⟩).ask request).1 = .file ⟨last, path⟩ ∧
      last.octets? path = (request.document? ⟨tree, path⟩).or (tree.octets? path)

theorem FileTree.ReadsAlike.keepsSettings (halike : ReadsAlike path tree next) :
    KeepsSettings path tree next := by
  refine ⟨halike.octets?, halike.get, fun request hdone => ?_⟩
  obtain ⟨last, hask, hlast⟩ := octets?_of_isDone hdone
  rw [halike.document? hdone, halike.octets?] at hlast
  exact ⟨last, hask, hlast⟩

/-- A file of which a new content is to be written can be read or is missing. -/
theorem read_of_document? {request : SettingsRequest} {octets : List UInt8}
    (hdocument : request.document? ⟨tree, path⟩ = some octets) (fault : OsFault)
    (hread : tree.read path = .error fault) : fault.reason = .missing := by
  by_contra hother
  have hload : ∃ why, SettingsFile.load ⟨tree, path⟩ = .error why := by
    rw [SettingsFile.load, hread]
    split
    · exact ⟨_, rfl⟩
    · exact ⟨_, if_neg hother⟩
  obtain ⟨why, hwhy⟩ := hload
  cases request with
  | get space key fallback => cases hdocument
  | set space key value => simp [SettingsRequest.document?, hwhy] at hdocument
  | remove space key => simp [SettingsRequest.document?, hwhy] at hdocument

/-- A tree with a settings file, and with a directory where its temporary file is to be. -/
def blockedTree : FileTree :=
  ⟨[(["s.json"], .file (Text.Utf8.encode "\x7b\"a:k\": \"1\"\x7d".toList)), (["s.json.tmp"], .directory)]⟩

theorem isRooted_blockedTree : blockedTree.IsRooted := isRooted_of_nodes (by decide)

/-- A path that passes a directory that is missing and goes back up. -/
def roundabout : TreePath := ["x", "..", "s.json"]

end TemplateWorkbench
