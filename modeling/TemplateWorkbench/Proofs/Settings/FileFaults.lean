import Mathlib.Tactic.Ring
import TemplateWorkbench.Proofs.Settings.Answers
import TemplateWorkbench.Proofs.Settings.Refinement

/-!
# How storages in a file fail

Anything may be at the path of a settings file: nothing, a directory, or octets that some other program has
written.  An operation that cannot be done says so with a fault of the settings file, whatever the reason is:
octets that are no text, a text that is no JSON or no object, an integer that is too long, or a refusal of the
operating system at any step of writing.

One reason is not among them.  If the containers of the text are nested too deeply for the reader, all three
operations end with another fault, before anything is written.  It takes more octets that open a container than
containers may be open, so a file with few of them is never too deep, whatever else it holds.
-/

namespace TemplateWorkbench

open Json (IsTooDeep isOpening openings depthLimit)

/-! ### Brackets in octets -/

namespace Text.Utf8

/-- Whether an octet is a bracket that opens a container. -/
def isBracket (octet : UInt8) : Bool := octet == 0x5B || octet == 0x7B

/-- How many octets open a container, if all of them do that are brackets. -/
def brackets (octets : List UInt8) : Nat := octets.countP isBracket

/-- An octet that is owed is there, not below its lower bound, and its bits are gathered after the others. -/
theorem exists_of_gather {bits least greatest owed code : Nat} {rest : List UInt8}
    (hgather : gather bits least greatest (owed + 1) rest = .ok code) :
    ∃ octet others, rest = octet :: others ∧ least ≤ octet.toNat ∧
      gather (bits * 64 + (octet.toNat - 0x80)) 0x80 0xBF owed others = .ok code := by
  cases rest with
  | nil => cases hgather
  | cons octet others =>
      rw [gather] at hgather
      split at hgather
      · next hbounds =>
          rw [Bool.and_eq_true, decide_eq_true_eq] at hbounds
          split at hgather
          · next next hnext =>
              cases hgather
              exact ⟨octet, others, rfl, hbounds.1, hnext⟩
          · cases hgather
      · cases hgather

/-- The bits that are gathered move up by six places for every octet. -/
theorem mul_pow_le_of_gather {bits least greatest owed code : Nat} {rest : List UInt8}
    (hgather : gather bits least greatest owed rest = .ok code) : bits * 64 ^ owed ≤ code := by
  induction owed generalizing bits least greatest rest with
  | zero =>
      rw [gather] at hgather
      cases hgather
      simp
  | succ owed ih =>
      obtain ⟨octet, others, -, -, hnext⟩ := exists_of_gather hgather
      calc bits * 64 ^ (owed + 1) = bits * 64 * 64 ^ owed := by ring
        _ ≤ (bits * 64 + (octet.toNat - 0x80)) * 64 ^ owed :=
          Nat.mul_le_mul_right _ (Nat.le_add_right _ _)
        _ ≤ code := ih hnext

/-- The next octet gives at least the bits that its lower bound has. -/
theorem add_mul_pow_le_of_gather {bits least greatest owed code : Nat} {rest : List UInt8}
    (hgather : gather bits least greatest (owed + 1) rest = .ok code) :
    (bits * 64 + (least - 0x80)) * 64 ^ owed ≤ code := by
  obtain ⟨octet, others, -, hleast, hnext⟩ := exists_of_gather hgather
  calc (bits * 64 + (least - 0x80)) * 64 ^ owed
      ≤ (bits * 64 + (octet.toNat - 0x80)) * 64 ^ owed := Nat.mul_le_mul_right _ (by omega)
    _ ≤ code := mul_pow_le_of_gather hnext

/-- A first octet beyond ASCII owes others, and with the least of them its character lies beyond ASCII. -/
theorem beyond_of_lead? : ∀ code < 256, ∀ lead ∈ lead? (UInt8.ofNat code), code < 0x80 ∨
    0 < lead.owed ∧ 0x80 ≤ (lead.bits * 64 + (lead.least - 0x80)) * 64 ^ (lead.owed - 1) := by
  decide +kernel

/-- The code of a character is told by the character, unless this is the one that stands for bad codes. -/
theorem eq_toNat_of_ofNat {code : Nat} {c : Char} (hc : c ≠ '\x00') (hcode : Char.ofNat code = c) :
    code = c.toNat := by
  by_cases hvalid : code.isValidChar
  · rw [Char.ofNat, dif_pos hvalid] at hcode
    rw [← hcode]
    rfl
  · rw [Char.ofNat, dif_neg hvalid] at hcode
    exact absurd hcode.symm hc

theorem isOpening_ofNat_iff {code : Nat} : isOpening (Char.ofNat code) = true ↔ code = 0x5B ∨ code = 0x7B := by
  rw [isOpening, Bool.or_eq_true, beq_iff_eq, beq_iff_eq]
  constructor
  · rintro (hcode | hcode)
    · exact .inl (eq_toNat_of_ofNat (by decide) hcode)
    · exact .inr (eq_toNat_of_ofNat (by decide) hcode)
  · rintro (rfl | rfl) <;> simp

/-- A character that opens a container is one octet. -/
theorem isBracket_of_first {octet : UInt8} {rest : List UInt8} {c : Char} {count : Nat}
    (hfirst : first octet rest = .ok (c, count)) (hopening : isOpening c = true) :
    isBracket octet = true := by
  unfold first at hfirst
  split at hfirst
  · cases hfirst
  · next lead hlead =>
      split at hfirst
      · next code hgather =>
          cases hfirst
          rw [isOpening_ofNat_iff] at hopening
          have hoctet : UInt8.ofNat octet.toNat = octet := UInt8.ofNat_toNat
          -- A first octet that owes others leads beyond ASCII, and the brackets are in it.
          rcases beyond_of_lead? octet.toNat octet.toNat_lt lead (by rw [hoctet]; exact hlead) with
            hascii | ⟨howed, hbeyond⟩
          · have hsame : lead = ⟨octet.toNat, 0, 0x80, 0xBF⟩ := by
              rw [lead?, if_pos hascii] at hlead
              exact (Option.some.inj hlead).symm
            subst hsame
            cases hgather
            rw [isBracket, Bool.or_eq_true, beq_iff_eq, beq_iff_eq]
            exact hopening.imp UInt8.toNat_inj.mp UInt8.toNat_inj.mp
          · obtain ⟨owed, howed⟩ : ∃ n, lead.owed = n + 1 := ⟨lead.owed - 1, by omega⟩
            rw [howed] at hgather hbeyond
            have hle := add_mul_pow_le_of_gather hgather
            rw [Nat.add_sub_cancel] at hbeyond
            omega
      · cases hfirst

/-- A text has no more brackets than the octets that it is decoded from. -/
theorem openings_le_of_decodeFrom {offset : Nat} {octets : List UInt8} {text : List Char}
    (hdecode : decodeFrom offset octets = .ok text) : openings text ≤ brackets octets := by
  -- By the number of octets, since a character may take several of them.
  induction hlength : octets.length using Nat.strong_induction_on generalizing offset octets text with
  | _ length ih =>
    cases octets with
    | nil =>
        rw [decodeFrom] at hdecode
        cases hdecode
        exact Nat.le_refl _
    | cons octet rest =>
        rw [decodeFrom] at hdecode
        split at hdecode
        · cases hdecode
        · next c count hfirst =>
            obtain ⟨others, hothers, rfl⟩ := Results.map_eq_ok_iff.mp hdecode
            have hrest : openings others ≤ brackets (rest.drop count) :=
              ih (rest.drop count).length (by rw [← hlength, List.length_cons, List.length_drop]; omega)
                hothers rfl
            have hdrop : brackets (rest.drop count) ≤ brackets rest :=
              (List.drop_sublist count rest).countP_le
            cases hopening : isOpening c with
            | false =>
                rw [openings, List.countP_cons_of_neg (by simp [hopening])]
                exact (hrest.trans hdrop).trans (List.sublist_cons_self octet rest).countP_le
            | true =>
                rw [openings, brackets, List.countP_cons_of_pos hopening,
                  List.countP_cons_of_pos (isBracket_of_first hfirst hopening)]
                exact Nat.succ_le_succ (hrest.trans hdrop)

end Text.Utf8

/-- No line end is a bracket. -/
theorem Text.openings_unify (text : List Char) : openings (unify text) = openings text := by
  fun_induction unify text with
  | case1 rest ih => simpa [openings, isOpening] using ih
  | case2 rest _ ih => simpa [openings, isOpening] using ih
  | case3 c rest _ _ ih =>
      simp only [openings, List.countP_cons] at ih ⊢
      rw [ih]
  | case4 => rfl

/-! ### Faults of operations -/

/-- An operation that returns, or else complains about the settings file. -/
def IsOrderly {α : Type} (result : Except StorageFault α) : Prop :=
  (∃ value, result = .ok value) ∨ ∃ message, result = .error (.settingsFile message)

theorem IsOrderly.of_ok {α : Type} (value : α) : IsOrderly (.ok value : Except StorageFault α) :=
  .inl ⟨value, rfl⟩

theorem IsOrderly.of_settingsFile {α : Type} (message : String) :
    IsOrderly (.error (.settingsFile message) : Except StorageFault α) := .inr ⟨message, rfl⟩

theorem not_isOrderly_tooDeep {α : Type} (message : String) :
    ¬ IsOrderly (.error (.tooDeep message) : Except StorageFault α) := by
  rintro (⟨value, hvalue⟩ | ⟨other, hother⟩)
  · cases hvalue
  · cases hother

/-- Octets that are a text whose containers are nested too deeply. -/
def AreTooDeep (octets : List UInt8) : Prop :=
  ∃ characters, Text.Utf8.decode octets = .ok characters ∧
    IsTooDeep (String.ofList (Text.unify characters))

/-- Octets with no more brackets than containers may be open are not nested too deeply. -/
theorem AreTooDeep.lt_brackets {octets : List UInt8} (hdeep : AreTooDeep octets) :
    depthLimit < Text.Utf8.brackets octets := by
  obtain ⟨characters, hdecode, htext⟩ := hdeep
  have hmany : depthLimit < openings characters := by
    by_contra hfew
    refine Json.not_isTooDeep ?_ htext
    rw [String.toList_ofList, Text.openings_unify]
    exact Nat.le_of_not_lt hfew
  exact Nat.lt_of_lt_of_le hmany (Text.Utf8.openings_le_of_decodeFrom hdecode)

namespace SettingsFile

/-- At the path of a settings file are octets that are nested too deeply. -/
def IsTooDeep (file : SettingsFile) : Prop :=
  (file.path.any fun name => name.toList.contains '\x00') = false ∧
    ∃ octets, file.tree.read file.path = .ok octets ∧ AreTooDeep octets

variable {file : SettingsFile}

theorem decode_of_areTooDeep (path : TreePath) {octets : List UInt8} (hdeep : AreTooDeep octets) :
    ∃ message, decode path octets = .error (.tooDeep message) := by
  obtain ⟨characters, hdecode, container, hread⟩ := hdeep
  simp only [decode, hdecode, hread]
  exact ⟨_, rfl⟩

/-- Octets that are not nested too deeply are decoded, or they are at fault as a settings file. -/
theorem isOrderly_decode (path : TreePath) {octets : List UInt8} (hflat : ¬ AreTooDeep octets) :
    IsOrderly (decode path octets) := by
  unfold decode
  split
  · exact .of_settingsFile _
  · next characters hdecode =>
      dsimp only
      split
      · next container hread => exact absurd ⟨characters, hdecode, container, hread⟩ hflat
      · exact .of_settingsFile _
      · exact .of_ok _
      · exact .of_settingsFile _

/-- A file that is nested too deeply cannot be loaded, and its fault is none of a settings file. -/
theorem load_of_isTooDeep (hdeep : file.IsTooDeep) : ∃ message, file.load = .error (.tooDeep message) := by
  obtain ⟨hnamed, octets, hread, hoctets⟩ := hdeep
  rw [load_of_read hnamed hread]
  exact decode_of_areTooDeep file.path hoctets

/-- Any other file is loaded, or it is at fault as a settings file. -/
theorem isOrderly_load (hflat : ¬ file.IsTooDeep) : IsOrderly file.load := by
  cases hnamed : file.path.any fun name => name.toList.contains '\x00' with
  | true =>
      rw [load, if_pos hnamed]
      exact .of_settingsFile _
  | false =>
      cases hread : file.tree.read file.path with
      | ok octets =>
          rw [load_of_read hnamed hread]
          exact isOrderly_decode file.path fun hoctets => hflat ⟨hnamed, octets, hread, hoctets⟩
      | error fault =>
          simp only [load, hnamed, hread]
          split
          · cases ‹false = true›
          · split
            · exact .of_ok _
            · exact .of_settingsFile _

/-- Whatever stops the writing of a file, it is a fault of the settings file. -/
theorem isOrderly_save (file : SettingsFile) (entries : Entries) : IsOrderly (file.save entries).2 := by
  unfold save
  dsimp only
  split
  · exact .of_ok _
  · exact .of_settingsFile _

/-- Operations on a file that is not nested too deeply are orderly. -/
theorem isOrderly_of_load (hload : IsOrderly file.load) (key text : String) :
    IsOrderly (file.get? key) ∧ IsOrderly (file.set key text).2 ∧ IsOrderly (file.remove key).2 := by
  obtain ⟨entries, hentries⟩ | ⟨message, hfault⟩ := hload
  · refine ⟨?_, ?_, ?_⟩
    · rw [get?, hentries]
      exact .of_ok _
    · rw [set, hentries]
      exact isOrderly_save file _
    · rw [remove, hentries]
      dsimp only
      split
      · exact isOrderly_save file _
      · exact .of_ok _
  · simp only [get?, set, remove, hfault]
    exact ⟨.of_settingsFile _, .of_settingsFile _, .of_settingsFile _⟩

/-- Operations on a file that is nested too deeply end with the fault of its loading and write nothing. -/
theorem operations_of_load {message : String} (hload : file.load = .error (.tooDeep message))
    (key text : String) :
    file.get? key = .error (.tooDeep message) ∧ file.set key text = (file, .error (.tooDeep message)) ∧
      file.remove key = (file, .error (.tooDeep message)) := by
  simp only [get?, set, remove, hload]
  exact ⟨rfl, trivial, trivial⟩

/-- Whatever is at the path of a settings file, every operation returns or complains about the settings file,
unless there are octets whose containers are nested too deeply.  In that case, for which more octets than
containers may be open have to be brackets, no operation is orderly, and none writes anything. -/
theorem isOrderly_iff (file : SettingsFile) (key text : String) :
    (IsOrderly (file.get? key) ↔ ¬ file.IsTooDeep) ∧
    (IsOrderly (file.set key text).2 ↔ ¬ file.IsTooDeep) ∧
    (IsOrderly (file.remove key).2 ↔ ¬ file.IsTooDeep) ∧
    (file.IsTooDeep → (file.set key text).1 = file ∧ (file.remove key).1 = file ∧
      ∃ octets, file.tree.read file.path = .ok octets ∧ depthLimit < Text.Utf8.brackets octets) := by
  by_cases hdeep : file.IsTooDeep
  · obtain ⟨message, hload⟩ := load_of_isTooDeep hdeep
    obtain ⟨hget, hset, hremove⟩ := operations_of_load hload key text
    have hnot : ¬ ¬ file.IsTooDeep := not_not_intro hdeep
    rw [hget, hset, hremove]
    refine ⟨iff_of_false (not_isOrderly_tooDeep message) hnot,
      iff_of_false (not_isOrderly_tooDeep message) hnot,
      iff_of_false (not_isOrderly_tooDeep message) hnot, fun _ => ⟨rfl, rfl, ?_⟩⟩
    obtain ⟨-, octets, hread, hoctets⟩ := hdeep
    exact ⟨octets, hread, hoctets.lt_brackets⟩
  · obtain ⟨hget, hset, hremove⟩ := isOrderly_of_load (isOrderly_load hdeep) key text
    exact ⟨iff_of_true hget hdeep, iff_of_true hset hdeep, iff_of_true hremove hdeep,
      fun h => absurd h hdeep⟩

/-- A settings file of very many brackets. -/
def manyBrackets : SettingsFile :=
  ⟨⟨[(["s.json"], .file (Text.Utf8.encode (List.replicate 5000 '[')))]⟩, ["s.json"]⟩

/-- Such a file cannot even be read in an orderly way. -/
theorem get?_manyBrackets : ¬ IsOrderly (manyBrackets.get? "k") := by
  have hplain : ∀ c ∈ List.replicate 5000 '[', IsPlain c := by
    intro c hc
    rw [List.eq_of_mem_replicate hc]
    decide
  have hunify : Text.unify (List.replicate 5000 '[') = List.replicate 5000 '[' :=
    Text.unify_eq_self fun hmem => (hplain '\r' hmem).2 rfl
  have hread := Json.read_brackets 5000 (by decide) []
  rw [List.append_nil] at hread
  have hdeep : AreTooDeep (Text.Utf8.encode (List.replicate 5000 '[')) :=
    ⟨_, decodeFrom_encode 0 hplain, .list, by rw [hunify]; exact hread⟩
  have hfile : manyBrackets.IsTooDeep := ⟨by decide, _, rfl, hdeep⟩
  obtain ⟨message, hload⟩ := load_of_isTooDeep hfile
  rw [(operations_of_load hload "k" "").1]
  exact not_isOrderly_tooDeep message

end SettingsFile

end TemplateWorkbench
