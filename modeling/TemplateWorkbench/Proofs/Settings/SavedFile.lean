import TemplateWorkbench.Proofs.Json.Members
import TemplateWorkbench.Settings.FileTree

/-!
# A saved file holds what was saved

A path leads to a place through directories only, so it leads there in every tree that has the same
directories.  To write or to move a file leaves all directories alone.  Hence the path that a file was
saved under leads to the file, and the file holds the octets that were saved.
-/

namespace TemplateWorkbench.FileTree

/-! ### Nodes -/

theorem go_eq_putMember (path : TreePath) (node : FileNode) (nodes : List (TreePath × FileNode)) :
    put.go path node nodes = Json.putMember path node nodes := by
  induction nodes with
  | nil => rfl
  | cons first rest ih => rw [put.go, Json.putMember, ih]

/-- Whether a place is above the tree. -/
def IsAbove (place : TreePath) : Prop := place.all (· == upName) = true

theorem node?_of_isAbove (tree : FileTree) {place : TreePath} (habove : IsAbove place) :
    tree.node? place = some .directory := if_pos habove

theorem node?_of_not_isAbove (tree : FileTree) {place : TreePath} (hbelow : ¬ IsAbove place) :
    tree.node? place = tree.nodes.lookup place := if_neg hbelow

/-- What is put at a place is there. -/
theorem node?_put_self (tree : FileTree) {place : TreePath} (node : FileNode)
    (hbelow : ¬ IsAbove place) : (tree.put place node).node? place = some node := by
  rw [node?_of_not_isAbove _ hbelow, put, go_eq_putMember, Json.lookup_putMember,
    if_pos (beq_self_eq_true place)]

theorem node?_put_of_ne (tree : FileTree) {place other : TreePath} (node : FileNode)
    (hne : other ≠ place) : (tree.put place node).node? other = tree.node? other := by
  simp only [node?, put, go_eq_putMember, Json.lookup_putMember, beq_iff_eq, if_neg hne]

theorem node?_remove_of_ne (tree : FileTree) {place other : TreePath} (hne : other ≠ place) :
    (tree.remove place).node? other = tree.node? other := by
  simp only [node?, remove, Json.lookup_filter_ne, beq_iff_eq, if_neg hne]

theorem node?_remove_self (tree : FileTree) {place : TreePath} (hbelow : ¬ IsAbove place) :
    (tree.remove place).node? place = none := by
  rw [node?_of_not_isAbove _ hbelow, remove, Json.lookup_filter_ne,
    if_pos (beq_self_eq_true place)]

/-! ### Directories -/

/-- Every directory of a tree is one of another tree. -/
def KeepsDirectories (tree next : FileTree) : Prop :=
  ∀ place, tree.node? place = some .directory → next.node? place = some .directory

theorem keepsDirectories_put (tree : FileTree) {place : TreePath} (node : FileNode)
    (hplace : tree.node? place ≠ some .directory) : tree.KeepsDirectories (tree.put place node) := by
  intro other hother
  have hne : other ≠ place := by
    rintro rfl
    exact hplace hother
  rwa [node?_put_of_ne tree node hne]

/-- A walk passes directories only. -/
theorem walk_of_keepsDirectories {tree next : FileTree} (hkeeps : tree.KeepsDirectories next)
    {place target : TreePath} {names : TreePath} (hwalk : tree.walk place names = .ok target) :
    next.walk place names = .ok target := by
  induction names generalizing place with
  | nil => exact hwalk
  | cons name rest ih =>
      rw [walk] at hwalk
      split at hwalk
      · cases hwalk
      · cases hwalk
      · next hdirectory =>
          rw [walk, hkeeps place hdirectory]
          simp only
          split
          · next hlong => simp [hlong] at hwalk
          · next hshort =>
              rw [if_neg hshort] at hwalk
              exact ih hwalk

theorem place?_of_keepsDirectories {tree next : FileTree} (hkeeps : tree.KeepsDirectories next)
    {path target : TreePath} (hplace : tree.place? path = .ok target) :
    next.place? path = .ok target := by
  unfold place? at hplace ⊢
  split
  · next hlong => simp [hlong] at hplace
  · next hshort =>
      rw [if_neg hshort] at hplace
      exact walk_of_keepsDirectories hkeeps hplace

/-! ### The directory above a path -/

/-- A path is no longer than one that goes on from it. -/
theorem utf8ByteSize_intercalate_le (separator last : String) (names : List String) :
    (separator.intercalate names).utf8ByteSize ≤
      (separator.intercalate (names ++ [last])).utf8ByteSize := by
  rcases List.eq_nil_or_concat names with rfl | ⟨before, name, rfl⟩
  · simp
  · rw [String.intercalate_append_of_ne_nil (by simp) (by simp), String.utf8ByteSize_append,
      String.utf8ByteSize_append]
    omega

/-- The last name of a path is taken in a directory, and leads up from it or further down. -/
theorem walk_of_walk_concat {tree : FileTree} {place target names : TreePath} {last : String}
    (hwalk : tree.walk place (names ++ [last]) = .ok target) :
    ∃ above, tree.walk place names = .ok above ∧ tree.node? above = some .directory ∧
      target = if last == upName then up above else above ++ [last] := by
  -- The walk goes down name by name, so the place at which it starts varies.
  induction names generalizing place with
  | nil =>
      rw [List.nil_append, walk] at hwalk
      split at hwalk
      · cases hwalk
      · cases hwalk
      · next hdirectory =>
          split at hwalk
          · cases hwalk
          · cases hwalk
            exact ⟨place, rfl, hdirectory, rfl⟩
  | cons name rest ih =>
      rw [List.cons_append, walk] at hwalk
      split at hwalk
      · cases hwalk
      · cases hwalk
      · next hdirectory =>
          split at hwalk
          · cases hwalk
          · next hshort =>
              obtain ⟨above, habove, hnode, htarget⟩ := ih hwalk
              refine ⟨above, ?_, hnode, htarget⟩
              rw [walk, hdirectory]
              simp only [if_neg hshort, habove]

/-- A path that leads somewhere goes through a directory before its last name. -/
theorem place?_of_place?_concat {tree : FileTree} {target names : TreePath} {last : String}
    (hplace : tree.place? (names ++ [last]) = .ok target) :
    ∃ above, tree.place? names = .ok above ∧ tree.node? above = some .directory ∧
      target = if last == upName then up above else above ++ [last] := by
  unfold place? at hplace
  split at hplace
  · cases hplace
  · next hshort =>
      obtain ⟨above, hwalk, hnode, htarget⟩ := walk_of_walk_concat hplace
      have hle := utf8ByteSize_intercalate_le "/" last names
      exact ⟨above, by rw [place?, if_neg (by omega), hwalk], hnode, htarget⟩

theorem ensureDirectory_of_isDirectory {tree : FileTree} {names : List String} {place : TreePath}
    (hplace : tree.place? names.reverse = .ok place) (hnode : tree.node? place = some .directory) :
    tree.ensureDirectory names = (tree, none) := by
  have hdirectory : tree.isDirectory names.reverse = true := by
    rw [isDirectory, hplace]
    simp [hnode]
  cases names with
  | nil => rfl
  | cons name before =>
      have hmake : tree.makeDirectory (name :: before).reverse = .error .alreadyThere := by
        rw [makeDirectory, hplace]
        simp [hnode]
      rw [ensureDirectory]
      simp only [hmake, hdirectory, if_true]

/-- Above a path that leads somewhere there is a directory, so none has to be made. -/
theorem makeParents_of_place? {tree : FileTree} {path target : TreePath}
    (hplace : tree.place? path = .ok target) : tree.makeParents path = (tree, none) := by
  rcases List.eq_nil_or_concat path with rfl | ⟨names, last, hconcat⟩
  · rfl
  · rw [List.concat_eq_append] at hconcat
    subst hconcat
    obtain ⟨above, habove, hnode, -⟩ := place?_of_place?_concat hplace
    rw [makeParents, List.dropLast_concat]
    exact ensureDirectory_of_isDirectory (by rwa [List.reverse_reverse]) hnode

/-! ### Writing and moving -/

/-- A path leads to a place where there is no directory, so that a file can be written there. -/
@[mk_iff]
structure LeadsTo (tree : FileTree) (path place : TreePath) : Prop where
  place? : tree.place? path = .ok place
  free : tree.node? place ≠ some .directory

theorem LeadsTo.not_isAbove {tree : FileTree} {path place : TreePath}
    (hleads : tree.LeadsTo path place) : ¬ IsAbove place :=
  fun habove => hleads.free (node?_of_isAbove tree habove)

/-- What is written at one path leaves other paths as they are. -/
theorem LeadsTo.put {tree : FileTree} {path place other goal : TreePath}
    (hother : tree.LeadsTo other goal) (hleads : tree.LeadsTo path place) (octets : List UInt8) :
    (tree.put place (.file octets)).LeadsTo other goal := by
  refine ⟨place?_of_keepsDirectories (keepsDirectories_put tree _ hleads.free) hother.place?, ?_⟩
  by_cases hsame : goal = place
  · rw [hsame, node?_put_self tree _ hleads.not_isAbove]
    simp
  · rw [node?_put_of_ne tree _ hsame]
    exact hother.free

/-- A file can be written wherever a path leads. -/
theorem write_eq_ok_iff {tree next : FileTree} {path : TreePath} {octets : List UInt8} :
    tree.write path octets = .ok next ↔
      ∃ place, tree.LeadsTo path place ∧ next = tree.put place (.file octets) := by
  simp only [leadsTo_iff, and_assoc]
  unfold write
  cases hplace : tree.place? path with
  | error reason => simp
  | ok place =>
      cases hnode : tree.node? place with
      | none => simp [hnode, eq_comm]
      | some node =>
          cases node with
          | file old => simp [hnode, eq_comm]
          | directory => simp [hnode]

/-- A file can be moved wherever a path leads. -/
theorem replace_eq_ok_iff {tree next : FileTree} {source target place : TreePath}
    {octets : List UInt8} (hplace : tree.place? source = .ok place)
    (hfile : tree.node? place = some (.file octets)) :
    tree.replace source target = .ok next ↔ ∃ goal, tree.LeadsTo target goal ∧
      next = (tree.remove place).put goal (.file octets) := by
  simp only [leadsTo_iff, and_assoc]
  unfold replace
  rw [hplace]
  cases hgoal : tree.place? target with
  | error reason => simp
  | ok goal =>
      cases hnode : tree.node? goal with
      | none => simp [hfile, hnode, eq_comm]
      | some node =>
          cases node with
          | file old => simp [hfile, hnode, eq_comm]
          | directory => simp [hfile, hnode]

/-- What a move leaves behind: the directories, the file at its new path, and a free place at its old
path. -/
theorem leadsTo_of_replace {tree next : FileTree} {source target place : TreePath}
    {octets : List UInt8} (hplace : tree.place? source = .ok place)
    (hfile : tree.node? place = some (.file octets))
    (hreplace : tree.replace source target = .ok next) :
    next.LeadsTo source place ∧
      ∃ goal, next.place? target = .ok goal ∧ next.node? goal = some (.file octets) := by
  obtain ⟨goal, hleads, rfl⟩ := (replace_eq_ok_iff hplace hfile).mp hreplace
  have hsource : tree.LeadsTo source place := ⟨hplace, by simp [hfile]⟩
  have hmoved := node?_put_self (tree.remove place) (.file octets) hleads.not_isAbove
  -- There is a directory at neither place, so both paths lead where they led before.
  have hkeeps : tree.KeepsDirectories ((tree.remove place).put goal (.file octets)) := by
    intro other hother
    have hplaceNe : other ≠ place := by
      rintro rfl
      exact hsource.free hother
    have hgoalNe : other ≠ goal := by
      rintro rfl
      exact hleads.free hother
    rwa [node?_put_of_ne _ _ hgoalNe, node?_remove_of_ne _ hplaceNe]
  refine ⟨⟨place?_of_keepsDirectories hkeeps hplace, ?_⟩, goal,
    place?_of_keepsDirectories hkeeps hleads.place?, hmoved⟩
  -- Both paths may lead to one place; then the file stays there.
  by_cases hsame : place = goal
  · subst hsame
    simp [hmoved]
  · rw [node?_put_of_ne _ _ hsame, node?_remove_self _ hsource.not_isAbove]
    simp

/-! ### Saving -/

theorem attempt_eq_ok {tree : FileTree} {result : Except OsFault FileTree}
    (hnone : (tree.attempt result).2 = none) : result = .ok (tree.attempt result).1 := by
  cases result with
  | ok next => rfl
  | error fault => cases hnone

theorem takeSteps_of_saveStep {path : TreePath} {step : SaveStep} {rest : List SaveStep}
    {tree next : FileTree} (hstep : tree.saveStep path step = (next, none)) :
    takeSteps path (step :: rest) tree = takeSteps path rest next := by
  rw [takeSteps, hstep]

/-- Steps that are all taken are taken one after another. -/
theorem takeSteps_cons {path : TreePath} {step : SaveStep} {rest : List SaveStep} {tree : FileTree}
    (hnone : (takeSteps path (step :: rest) tree).2 = none) :
    (tree.saveStep path step).2 = none ∧
      takeSteps path (step :: rest) tree = takeSteps path rest (tree.saveStep path step).1 := by
  rw [takeSteps] at hnone ⊢
  split at hnone
  · next next hstep =>
      rw [hstep]
      exact ⟨rfl, rfl⟩
  · cases hnone

/-- A file has been saved under a path, and a temporary file can be written beside it. -/
structure IsSaved (tree : FileTree) (path : TreePath) (octets : List UInt8) : Prop where
  temporary : ∃ place, tree.LeadsTo (temporary path) place
  file : ∃ place, tree.place? path = .ok place ∧ tree.node? place = some (.file octets)

theorem isSaved_of_save {tree : FileTree} {path : TreePath} {octets : List UInt8}
    (hsave : (tree.save path octets).2 = none) : IsSaved (tree.save path octets).1 path octets := by
  unfold save saveSteps at hsave ⊢
  -- Nothing was refused, so all four steps have been taken.
  obtain ⟨-, hparents⟩ := takeSteps_cons hsave
  rw [hparents] at hsave ⊢
  obtain ⟨-, hopen⟩ := takeSteps_cons hsave
  rw [hopen] at hsave ⊢
  obtain ⟨hwritten, hwrite⟩ := takeSteps_cons hsave
  rw [hwrite] at hsave ⊢
  obtain ⟨hmoved, hmove⟩ := takeSteps_cons hsave
  rw [hmove]
  obtain ⟨place, hleads, hput⟩ := write_eq_ok_iff.mp (attempt_eq_ok hwritten)
  set opened := ((tree.saveStep path .makeParents).1.saveStep path .openTemporary).1
  have hfile := node?_put_self opened (.file octets) hleads.not_isAbove
  have hplace := (hleads.put hleads octets).place?
  rw [← hput] at hfile hplace
  obtain ⟨hfree, hgoal⟩ := leadsTo_of_replace hplace hfile (attempt_eq_ok hmoved)
  exact ⟨⟨place, hfree⟩, hgoal⟩

/-- A file that could be saved holds the octets that were saved. -/
theorem read_of_save {tree : FileTree} {path : TreePath} {octets : List UInt8}
    (hsave : (tree.save path octets).2 = none) :
    (tree.save path octets).1.read path = .ok octets := by
  obtain ⟨-, place, hplace, hfile⟩ := isSaved_of_save hsave
  rw [read, hplace]
  simp only [hfile]

/-- A file that has been saved once can be saved again. -/
theorem save_of_isSaved {tree : FileTree} {path : TreePath} {old : List UInt8}
    (hsaved : IsSaved tree path old) (octets : List UInt8) : (tree.save path octets).2 = none := by
  obtain ⟨⟨place, hleads⟩, goal, hgoal, hfile⟩ := hsaved
  have htarget : tree.LeadsTo path goal := ⟨hgoal, by simp [hfile]⟩
  -- The trees after the steps; the first step makes no directory, since the path leads to a file.
  let opened := tree.put place (.file [])
  have hopen : tree.write (temporary path) [] = .ok opened :=
    write_eq_ok_iff.mpr ⟨place, hleads, rfl⟩
  have hopened : opened.LeadsTo (temporary path) place := hleads.put hleads []
  let written := opened.put place (.file octets)
  have hwrite : opened.write (temporary path) octets = .ok written :=
    write_eq_ok_iff.mpr ⟨place, hopened, rfl⟩
  have hplace : written.place? (temporary path) = .ok place := (hopened.put hopened octets).place?
  have hnode : written.node? place = some (.file octets) :=
    node?_put_self opened _ hopened.not_isAbove
  have hmove : written.replace (temporary path) path = .ok _ :=
    (replace_eq_ok_iff hplace hnode).mpr
      ⟨goal, (htarget.put hleads []).put hopened octets, rfl⟩
  have hparents : tree.saveStep path .makeParents = (tree, none) := makeParents_of_place? hgoal
  have hopenStep : tree.saveStep path .openTemporary = (opened, none) :=
    congrArg tree.attempt hopen
  have hwriteStep : opened.saveStep path (.writeTemporary octets) = (written, none) :=
    congrArg opened.attempt hwrite
  have hmoveStep : written.saveStep path .replaceFile = (_, none) := congrArg written.attempt hmove
  rw [save, saveSteps, takeSteps_of_saveStep hparents, takeSteps_of_saveStep hopenStep,
    takeSteps_of_saveStep hwriteStep, takeSteps_of_saveStep hmoveStep]
  rfl

end TemplateWorkbench.FileTree
