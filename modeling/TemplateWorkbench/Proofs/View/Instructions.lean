import Mathlib.Data.List.Sort
import Mathlib.Data.String.Basic
import TemplateWorkbench.Proofs.Results
import TemplateWorkbench.Proofs.Template.Alternation
import TemplateWorkbench.Proofs.Template.Grammar.Statements
import TemplateWorkbench.Proofs.Template.ShownBlocks
import TemplateWorkbench.Template.Environment
import TemplateWorkbench.View.Dispatch
import TemplateWorkbench.View.TemplateEngine

/-!
# What the instructions list

A program has a routine for every block, under the name of the block, and it comes about only if no two blocks
have one name.  The names are identifiers.  In normal form two of them can coincide, but not if they are written
in ASCII; then no name is that of the root either, and in the order of all names the root is the first.

The instructions of a source are listed by the names of its routines.  These are the name of the root and then
the names of the blocks in the tree of the source, wherever they stand in it, each once and in the order of
their characters; the view of the instructions leaves the list as it is.
-/

/-! ## Routines -/

namespace TemplateWorkbench.Template

open Compiling

variable {α β : Type}

/-! ### Block names are names of their own -/

theorem repeatedBlock?_eq_none_iff {seen : List String} {blocks : List BlockSite} :
    repeatedBlock? seen blocks = none ↔
      (blocks.map (·.id)).Nodup ∧ ∀ block ∈ blocks, block.id ∉ seen := by
  induction blocks generalizing seen with
  | nil => exact ⟨fun _ => ⟨List.nodup_nil, nofun⟩, fun _ => rfl⟩
  | cons block rest ih =>
      rw [repeatedBlock?]
      by_cases hseen : block.id ∈ seen
      · rw [if_pos (List.contains_iff_mem.mpr hseen)]
        exact ⟨nofun, fun ⟨_, hnew⟩ => absurd hseen (hnew block List.mem_cons_self)⟩
      · rw [if_neg (mt List.contains_iff_mem.mp hseen), ih, List.map_cons, List.nodup_cons,
          List.forall_mem_cons]
        simp only [List.mem_map, List.mem_cons, not_or, not_exists, not_and]
        constructor
        · rintro ⟨hrest, hnew⟩
          exact ⟨⟨fun other hother heq => (hnew other hother).1 heq, hrest⟩, hseen,
            fun other hother => (hnew other hother).2⟩
        · rintro ⟨⟨hfirst, hrest⟩, -, hnew⟩
          exact ⟨hrest, fun other hother => ⟨fun heq => hfirst other hother heq, hnew other hother⟩⟩

/-! ### What compiling gives -/

namespace Compiling

/-- Whether a computation, if it goes through, gives a value of which something holds. -/
def Gives (holds : α → Prop) (computation : Compiling α) : Prop :=
  ∀ before value after, computation.run before = .ok (value, after) → holds value

namespace Gives

variable {holds : α → Prop} {others : β → Prop}

theorem pure {value : α} (hvalue : holds value) : Gives holds (Pure.pure value) := by
  rintro before _ _ ⟨⟩
  exact hvalue

theorem throw (fault : Fault) : Gives holds (MonadExcept.throw fault) := nofun

theorem bind {first : Compiling α} {rest : α → Compiling β} (hfirst : Gives holds first)
    (hrest : ∀ value, holds value → Gives others (rest value)) : Gives others (first >>= rest) := by
  intro before value after hrun
  rw [StateT.run_bind] at hrun
  obtain ⟨middle, hmiddle, hlast⟩ := Results.bind_eq_ok_iff.mp hrun
  exact hrest middle.1 (hfirst before middle.1 middle.2 hmiddle) middle.2 value after hlast

/-- After a step of which nothing needs to be known. -/
theorem after {first : Compiling α} {rest : α → Compiling β} (hrest : ∀ value, Gives others (rest value)) :
    Gives others (first >>= rest) :=
  bind (fun _ _ _ _ => trivial) fun value _ => hrest value

/-- A list of values of each of which something is told by its item. -/
theorem mapM {γ : Type} {f : α → Compiling β} {key : β → γ} {name : α → γ}
    (hf : ∀ item, Gives (fun value => key value = name item) (f item)) (items : List α) :
    Gives (fun values => values.map key = items.map name) (items.mapM f) := by
  induction items with
  | nil => exact .pure rfl
  | cons item rest ih =>
      rw [List.mapM_cons]
      refine (hf item).bind fun value hvalue => ih.bind fun values hvalues => .pure ?_
      rw [List.map_cons, List.map_cons, hvalue, hvalues]

end Gives

end Compiling

variable (setting : Setting)

theorem gives_blockRoutine (block : BlockSite) :
    Gives (fun routine => routine.1 = block.id) (blockRoutine setting block) := by
  unfold blockRoutine
  exact .after fun _ => .after fun _ => .after fun _ => .after fun _ => .after fun _ => .after fun _ => .pure rfl

theorem map_settleBlocks (routines : List (String × Routine)) :
    (settleBlocks routines).map (·.1) = routines.map (·.1) := by
  rw [settleBlocks, List.map_map]
  rfl

/-- Whether the routines of a program are those of the blocks in some statements, each of a name of its own. -/
def HasRoutinesOf (body : List Statement) (program : Program) : Prop :=
  ((bodyBlocks body).map (·.id)).Nodup ∧ program.blocks.map (·.1) = (bodyBlocks body).map (·.id)

theorem gives_program (body : List Statement) :
    Gives (HasRoutinesOf body) (program setting body) := by
  have hroutines := Gives.mapM (gives_blockRoutine setting) (bodyBlocks body)
  unfold program
  dsimp only
  split
  · exact .throw _
  · next hblocks =>
    obtain ⟨hnodup, -⟩ := repeatedBlock?_eq_none_iff.mp hblocks
    -- The statements outside of blocks have no part in how the routines are called.
    refine .after fun _ => .after fun _ => .after fun _ => .after fun _ => .after fun _ => ?_
    refine .after fun _ => .after fun _ => .after fun _ => hroutines.bind fun routines hkeys => ?_
    refine .after fun progress => ?_
    split
    · exact .throw _
    · exact .pure ⟨hnodup, (map_settleBlocks routines).trans hkeys⟩

theorem hasRoutinesOf_of_compileTemplate {setting : Setting} {body : List Statement} {program : Program}
    (hcompile : compileTemplate setting body = .ok program) : HasRoutinesOf body program := by
  obtain ⟨⟨_, after⟩, hrun, ⟨⟩⟩ := Results.bind_eq_ok_iff.mp hcompile
  exact gives_program setting body _ program after hrun

/-! ### Names in ASCII -/

/-- Whether a text is written in ASCII. -/
def IsAscii (text : String) : Prop := ∀ c ∈ text.toList, c.toNat < 128

instance : DecidablePred IsAscii := fun text =>
  List.decidableBAll (fun c : Char => c.toNat < 128) text.toList

theorem IsAscii.normalName {id : String} (hascii : IsAscii id) : Unicode.normalName id = id := by
  have hall : (id.toList.all fun c => decide (c.toNat < 128)) = true :=
    List.all_eq_true.mpr fun c hc => decide_eq_true (hascii c hc)
  rw [Unicode.normalName, if_pos hall]

theorem isIdentifier_of_lexeme? {piece : Piece} {id : String}
    (hname : piece.lexeme? = .ok (some (.name id))) : Unicode.isIdentifier id.toList = true := by
  rcases piece with ⟨line, kind, text⟩
  cases Piece.makes_of_lexeme? hname with
  | name hidentifier => rwa [String.toList_ofList]

/-- The names of the blocks of a source are identifiers. -/
theorem isIdentifier_of_block {source : List Char} {body : List Statement}
    (hparse : parse source = .ok body) {block : BlockSite} (hblock : block ∈ bodyBlocks body) :
    Unicode.isIdentifier block.id.toList = true := by
  obtain ⟨token, htoken, hname⟩ := exists_token_of_block hparse hblock
  obtain ⟨piece, -, hlexeme, -⟩ := exists_piece_of_mem_tokensOf htoken
  exact isIdentifier_of_lexeme? (hlexeme.trans (by rw [hname]))

/-- An identifier in ASCII comes after the name of the root. -/
theorem IsAscii.rootName_lt {id : String} (hascii : IsAscii id)
    (hid : Unicode.isIdentifier id.toList = true) : rootName < id := by
  rw [String.lt_iff_toList_lt]
  cases hchars : id.toList with
  | nil =>
      rw [hchars] at hid
      cases hid
  | cons first others =>
      rw [hchars, Unicode.isIdentifier, Bool.and_eq_true] at hid
      have hfirst : first.toNat < 128 := hascii first (by rw [hchars]; exact List.mem_cons_self)
      have hlt : '<' < first := Alternation.forall_ascii
        (P := fun c => Unicode.isIdentifierStart c = true → '<' < c) (by decide +kernel) hfirst hid.1
      exact List.cons_lt_cons_iff.mpr (.inl hlt)

/-! ### The names in order -/

theorem eraseDups_of_nodup {names : List String} (hnodup : names.Nodup) : names.eraseDups = names := by
  induction names with
  | nil => rfl
  | cons name rest ih =>
      obtain ⟨hname, hrest⟩ := List.nodup_cons.mp hnodup
      have hothers : rest.filter (fun other => !other == name) = rest := by
        rw [List.filter_eq_self]
        rintro other hother
        simpa using ne_of_mem_of_not_mem hother hname
      rw [List.eraseDups_cons, hothers, ih hrest]

/-- Names of their own in order are in strict order. -/
theorem pairwise_lt_mergeSort {names : List String} (hnodup : names.Nodup) :
    (names.mergeSort fun a b => decide (a ≤ b)).Pairwise (· < ·) := by
  have hsorted := List.pairwise_mergeSort' (· ≤ ·) names
  have hdistinct := (List.mergeSort_perm names fun a b => decide (a ≤ b)).nodup_iff.mpr hnodup
  exact (hsorted.and hdistinct).imp fun hpair => lt_of_le_of_ne hpair.1 hpair.2

/-- What comes before all other names is the first in the order of all. -/
theorem mergeSort_cons_of_forall_lt {first : String} {names : List String}
    (hfirst : ∀ name ∈ names, first < name) :
    (first :: names).mergeSort (fun a b => decide (a ≤ b)) =
      first :: names.mergeSort fun a b => decide (a ≤ b) := by
  have hperm := List.mergeSort_perm names fun a b => decide (a ≤ b)
  refine List.Perm.eq_of_pairwise (fun a b _ _ => le_antisymm) (List.pairwise_mergeSort' (· ≤ ·) _)
    (List.pairwise_cons.mpr ⟨fun name hname => ?_, List.pairwise_mergeSort' (· ≤ ·) names⟩)
    ((List.mergeSort_perm _ _).trans (hperm.symm.cons first))
  exact (hfirst name (List.mem_mergeSort.mp hname)).le

/-- The names of the routines are in order. -/
theorem pairwise_routineNames {strict : Bool} {source : String} {names : List String}
    (hnames : routineNames strict source = .ok names) : names.Pairwise (· ≤ ·) := by
  obtain ⟨body, -, hbody⟩ := Results.bind_eq_ok_iff.mp hnames
  obtain ⟨program, -, hprogram⟩ := Results.bind_eq_ok_iff.mp hbody
  cases hprogram
  exact List.pairwise_mergeSort' (· ≤ ·) _

/-- The names of the routines of a source: a block has a name of its own, and if the names are in ASCII, they
come in order after that of the root. -/
theorem routineNames_eq_ok {strict : Bool} {source : String} {names : List String}
    (hnames : routineNames strict source = .ok names) :
    ∃ body, parse source.toList = .ok body ∧ ((bodyBlocks body).map (·.id)).Nodup ∧
      ((∀ id ∈ (bodyBlocks body).map (·.id), IsAscii id) →
        names = rootName :: ((bodyBlocks body).map (·.id)).mergeSort fun a b => decide (a ≤ b)) := by
  obtain ⟨body, hparse, hbody⟩ := Results.bind_eq_ok_iff.mp hnames
  obtain ⟨program, hcompile, hprogram⟩ := Results.bind_eq_ok_iff.mp hbody
  cases hprogram
  obtain ⟨hnodup, hkeys⟩ := hasRoutinesOf_of_compileTemplate hcompile
  refine ⟨body, hparse, hnodup, fun hascii => ?_⟩
  -- In ASCII a name is its own normal form, so names of their own stay apart.
  have hnormal : program.blocks.map (fun block => Unicode.normalName block.1) =
      (bodyBlocks body).map (·.id) := by
    rw [← hkeys]
    refine List.map_congr_left fun block hblock => (hascii block.1 ?_).normalName
    rw [← hkeys]
    exact List.mem_map_of_mem hblock
  have hroot : ∀ id ∈ (bodyBlocks body).map (·.id), rootName < id := by
    intro id hid
    obtain ⟨block, hblock, rfl⟩ := List.mem_map.mp hid
    exact (hascii block.id hid).rootName_lt (isIdentifier_of_block hparse hblock)
  have hdistinct : (rootName :: (bodyBlocks body).map (·.id)).Nodup :=
    List.nodup_cons.mpr ⟨fun hmem => lt_irrefl rootName (hroot rootName hmem), hnodup⟩
  rw [hnormal, eraseDups_of_nodup hdistinct, mergeSort_cons_of_forall_lt hroot]

end TemplateWorkbench.Template

/-! ## Instructions -/

namespace TemplateWorkbench

open Results

/-- Whether names are that of the root and then those of some blocks, each once and in order. -/
def ListsBlocks (names blocks : List String) : Prop :=
  ∃ sorted, names = Template.rootName :: sorted ∧ sorted.Perm blocks ∧ sorted.Pairwise (· < ·)

/-- Programs whose names are in order stay as they are. -/
theorem Programs.sorted_eq_self {programs : Programs}
    (hsorted : (programs.map (·.1)).Pairwise (· ≤ ·)) : programs.sorted = programs := by
  refine List.mergeSort_of_pairwise ?_
  simpa only [List.pairwise_map, decide_eq_true_eq] using hsorted

namespace TemplateEngine

variable {strict : Bool} {source : String}

/-- The instructions of a source are accepted as the names of its routines are. -/
theorem programs_eq_ok_iff {programs : Programs} :
    ((templateEngine strict).programs (.string source)).result = .ok programs ↔
      ∃ names, Template.routineNames strict source = .ok names ∧
        programs = names.map fun id => (id, []) := by
  have hnames (names : List String) : TemplateEngine.routineNames strict source = .ok names ↔
      Template.routineNames strict source = .ok names := by
    unfold TemplateEngine.routineNames
    cases Template.routineNames strict source with
    | ok names => exact ⟨fun heq => congrArg _ (Except.ok.inj heq), fun heq => congrArg _ (Except.ok.inj heq)⟩
    | error fault =>
        dsimp only
        split <;> exact ⟨nofun, nofun⟩
  simp only [templateEngine, map_eq_ok_iff, hnames, @eq_comm _ _ programs]

end TemplateEngine

/-- A source whose instructions are accepted has a tree, in which every block has a name of its own.  If the
names are in ASCII, the instructions are listed by the name of the root and then by those of the blocks in
order.  The view of the instructions shows them as they are. -/
theorem programs_list_blocks {strict : Bool} {source : String} {programs : Programs}
    (hprograms : ((templateEngine strict).programs (.string source)).result = .ok programs) :
    (∃ tree, ((templateEngine strict).tree (.string source)).result = .ok tree ∧
      tree.blockNames.Nodup ∧
      ((∀ id ∈ tree.blockNames, Template.IsAscii id) →
        ListsBlocks (programs.map (·.1)) tree.blockNames)) ∧
      ∀ draft : Draft, draft.template = .string source →
        (draft.derive (templateEngine strict) .instructions).outcome = .success (.programs programs) := by
  obtain ⟨names, hnames, hlisted⟩ := TemplateEngine.programs_eq_ok_iff.mp hprograms
  have hkeys : programs.map (·.1) = names := by simp [hlisted, Function.comp_def]
  constructor
  · obtain ⟨body, hparse, hnodup, hsorted⟩ := Template.routineNames_eq_ok hnames
    rw [← Template.blockNames_displayTree] at hnodup hsorted
    have htree : TemplateEngine.tree source = .ok (Template.displayTree body) := by
      rw [TemplateEngine.tree, TemplateEngine.onSource, hparse]
      rfl
    refine ⟨Template.displayTree body, htree, hnodup, fun hascii => ?_⟩
    exact ⟨_, hkeys.trans (hsorted hascii), List.mergeSort_perm _ _,
      Template.pairwise_lt_mergeSort hnodup⟩
  · intro draft htemplate
    have hview : programs.sorted = programs := Programs.sorted_eq_self (by
      rw [hkeys]
      exact Template.pairwise_routineNames hnames)
    simp only [Draft.derive, Draft.ask, Answer.map, htemplate, hprograms, Except.map, hview,
      Outcome.ofResult]

/-- Blocks in other blocks, in loops and in macros, also after the choice of a parent. -/
theorem programs_list_blocks_nested :
    let source := "\x7b% extends 'base' %\x7d\x7b% block b %\x7d\x7b% for x in y %\x7d\x7b% block a %\x7d" ++
      "\x7b% endblock %\x7d\x7b% endfor %\x7d\x7b% endblock %\x7d\x7b% macro m() %\x7d\x7b% block _c %\x7d" ++
      "\x7b% endblock %\x7d\x7b% endmacro %\x7d\x7b% block Z %\x7d\x7b% endblock %\x7d"
    ∃ programs, ((templateEngine false).programs (.string source)).result = .ok programs ∧
      programs.map (·.1) = ["<root>", "Z", "_c", "a", "b"] := by
  intro source
  -- Literals are opened before they are computed with, or else their octets would be decoded.
  have hcomputed : (Template.routineNames false source).isOk = true ∧
      (TemplateEngine.tree source).toOption.map Tree.blockNames = some ["b", "a", "_c", "Z"] := by
    rw [Template.routineNames, TemplateEngine.tree, String.toList_append, String.toList_append]
    iterate 3 rw [String.toList_ofList]
    decide +kernel
  obtain ⟨hok, hshown⟩ := hcomputed
  obtain ⟨names, hnames⟩ := exists_of_isOk hok
  refine ⟨_, TemplateEngine.programs_eq_ok_iff.mpr ⟨names, hnames, rfl⟩, ?_⟩
  obtain ⟨⟨tree, htree, -, hlists⟩, -⟩ :=
    programs_list_blocks (TemplateEngine.programs_eq_ok_iff.mpr ⟨names, hnames, rfl⟩)
  have hblocks : tree.blockNames = ["b", "a", "_c", "Z"] := by
    rw [show TemplateEngine.tree source = .ok tree from htree] at hshown
    exact Option.some.inj hshown
  -- There is only one way to put the names in order.
  rw [hblocks] at hlists
  obtain ⟨sorted, hlisted, hperm, hsorted⟩ := hlists (by decide)
  have hstrict : ["Z", "_c", "a", "b"].Pairwise (· < ·) := by decide
  rw [hlisted, List.Perm.eq_of_pairwise (fun a b _ _ => fun hab hba => absurd hba hab.asymm) hsorted hstrict
    (hperm.trans (by decide))]
  rfl

end TemplateWorkbench
