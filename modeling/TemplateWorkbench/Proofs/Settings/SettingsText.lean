import TemplateWorkbench.Proofs.Json.RoundTrip
import TemplateWorkbench.Proofs.Text.Lines
import TemplateWorkbench.Settings.Storage

/-!
# A settings file is read as it was written

The content of a settings file has one member a line, in the order of the keys.  It is plain: all of it
is ASCII and no character of it is a carriage return, so neither the encoding nor the unification of line
ends changes it.  The reader goes through the lines one after another, and so gives back the
entries that were written, up to their order.
-/

namespace TemplateWorkbench

open Json

/-! ### The content of a settings file -/

/-- The line of an entry. -/
def entryText (entry : String × String) : List Char :=
  writeText true entry.1 ++ ':' :: ' ' :: writeText true entry.2

/-- The lines of entries, and the end of the object. -/
def entriesText (entries : Entries) : List Char :=
  ((entries.map entryText).intersperse [',', '\n', ' ', ' ']).flatten ++ ['\n', '}']

theorem writeMembers_entries (style : Style) (hascii : style.ascii = true) (level : Nat)
    (entries : Entries) :
    writeMembers style level (entries.map fun (key, text) => (key, .string text)) =
      .ok (entries.map fun entry => (entry.1, entryText entry)) := by
  induction entries with
  | nil => rfl
  | cons entry rest ih =>
      rw [List.map_cons, writeMembers, ih, writeChars, hascii]
      rfl

/-- The lines of entries between their brackets. -/
def linesText (entries : Entries) : List Char :=
  if entries.isEmpty then ['{', '}'] else '{' :: '\n' :: ' ' :: ' ' :: entriesText entries

/-- Entries in the order of their keys. -/
def Entries.sorted (entries : Entries) : Entries := entries.mergeSort fun a b => decide (a.1 ≤ b.1)

theorem Entries.sorted_perm (entries : Entries) : entries.sorted.Perm entries :=
  List.mergeSort_perm _ _

theorem namesDistinct_sorted {entries : Entries} (hdistinct : NamesDistinct entries) :
    NamesDistinct entries.sorted := (entries.sorted_perm.map Prod.fst).nodup_iff.mpr hdistinct

/-- Entries are written in the order of their keys, each on a line of its own. -/
theorem settingsText_eq (entries : Entries) : settingsText entries = linesText entries.sorted := by
  -- Lines that carry their keys are sorted as the entries are.
  have hsort : ((entries.map fun entry => (entry.1, entryText entry)).mergeSort fun a b =>
        decide (a.1 ≤ b.1)) = entries.sorted.map fun entry => (entry.1, entryText entry) :=
    (List.map_mergeSort (by simp)).symm
  have hwrite := writeMembers_entries .settingsFile rfl 1 entries
  simp only [settingsText, Entries.toJson, writeChars, Nat.zero_add, hwrite]
  simp only [linesText, Style.enclose, Style.order, Style.settingsFile, if_true, hsort, List.map_map,
    List.isEmpty_map]
  split
  · rfl
  · simp [entriesText, Style.break, Style.separator, Function.comp_def]

/-! ### Reading the lines -/

/-- The lines of entries are what is written for them without sorting. -/
theorem writeChars_entries (entries : Entries) :
    writeChars .asciiIndented 0 entries.toJson = .ok (linesText entries) := by
  have hwrite := writeMembers_entries .asciiIndented rfl 1 entries
  simp only [Entries.toJson, writeChars, Nat.zero_add, hwrite]
  simp only [linesText, Style.enclose, Style.order, Style.asciiIndented, List.map_map,
    List.isEmpty_map, Bool.false_eq_true, if_false]
  split
  · rfl
  · simp [entriesText, Style.break, Style.separator, Function.comp_def]

theorem isFaithful_asciiIndented : Style.asciiIndented.IsFaithful := by
  refine ⟨?_, rfl⟩
  rintro unit ⟨rfl⟩ c hc
  have hspace : c = ' ' := by simpa using hc
  rw [hspace]
  rfl

theorem entriesText_singleton (entry : String × String) :
    entriesText [entry] = entryText entry ++ ['\n', '}'] := by
  simp [entriesText]

theorem entriesText_cons_cons (entry next : String × String) (rest : Entries) :
    entriesText (entry :: next :: rest) =
      entryText entry ++ (',' :: '\n' :: ' ' :: ' ' :: entriesText (next :: rest)) := by
  simp [entriesText]

/-- Entries are one container deep, and with distinct keys their object is one that can be read. -/
theorem toJson_spec {entries : Entries} (hdistinct : NamesDistinct entries) :
    NamesDistinctWithin entries.toJson ∧ entries.toJson.depth ≤ 1 := by
  constructor
  · refine .object (by simpa [NamesDistinct, Function.comp_def] using hdistinct) fun member hmem => ?_
    obtain ⟨entry, -, rfl⟩ := List.mem_map.mp hmem
    exact .string entry.2
  · have hflat (entries : Entries) :
        depthOfMembers (entries.map fun (key, text) => (key, .string text)) = 0 := by
      induction entries with
      | nil => rfl
      | cons entry rest ih =>
          rw [List.map_cons, depthOfMembers, ih]
          rfl
    rw [Entries.toJson, depth, hflat]

/-- The content of a settings file is read as the entries that were written, in the order of their
keys. -/
theorem read_settingsText {entries : Entries} (hdistinct : NamesDistinct entries) :
    Json.read (String.ofList (settingsText entries)) = .ok entries.sorted.toJson := by
  obtain ⟨hwithin, hdepth⟩ := toJson_spec (namesDistinct_sorted hdistinct)
  have hwrite : Json.write .asciiIndented entries.sorted.toJson =
      .ok (String.ofList (settingsText entries)) := by
    rw [Json.write, writeChars_entries, settingsText_eq]
    rfl
  exact read_of_write isFaithful_asciiIndented hwithin (hdepth.trans (by decide)) hwrite

/-! ### Plain text -/

/-- A character of ASCII that is no carriage return. -/
def IsPlain (c : Char) : Prop := c.toNat < 128 ∧ c ≠ '\r'

instance (c : Char) : Decidable (IsPlain c) := inferInstanceAs (Decidable (_ ∧ _))

/-- Whether all of some characters are plain can be told by looking at them. -/
theorem forall_isPlain {chars : List Char}
    (hall : (chars.all fun c => decide (IsPlain c)) = true) : ∀ c ∈ chars, IsPlain c := by
  simpa using hall

theorem isPlain_hexDigit : ∀ value < 16, IsPlain (Text.hexDigit value) := by
  decide

theorem isPlain_codeEscape (code : Nat) : ∀ c ∈ codeEscape code, IsPlain c := by
  have hdigit (value : Nat) : IsPlain (Text.hexDigit (value % 16)) :=
    isPlain_hexDigit _ (Nat.mod_lt _ (by decide))
  rw [codeEscape, hexDigits_four]
  simp only [List.forall_mem_cons, hdigit, true_and]
  exact ⟨by decide, by decide, by simp⟩

theorem isPlain_unitEscapes (c : Char) : ∀ d ∈ unitEscapes c, IsPlain d := by
  simp only [unitEscapes]
  split
  · exact isPlain_codeEscape _
  · exact List.forall_mem_append.mpr ⟨isPlain_codeEscape _, isPlain_codeEscape _⟩

theorem isPlain_escapeChar (c : Char) : ∀ d ∈ escapeChar true c, IsPlain d := by
  unfold escapeChar
  split
  case h_8 _ _ _ hreturn _ _ _ =>
      split
      · exact isPlain_codeEscape _
      · split
        · exact isPlain_unitEscapes c
        · next hbeyond =>
            simp only [Bool.true_and, decide_eq_true_eq] at hbeyond
            rw [List.forall_mem_singleton]
            exact ⟨by omega, hreturn⟩
  all_goals exact forall_isPlain (by decide)

theorem isPlain_writeText (text : String) : ∀ c ∈ writeText true text, IsPlain c := by
  rw [writeText, List.cons_append, List.forall_mem_cons, List.forall_mem_append]
  refine ⟨by decide, fun c hc => ?_, forall_isPlain (by decide)⟩
  obtain ⟨d, -, hd⟩ := List.mem_flatMap.mp hc
  exact isPlain_escapeChar d c hd

theorem isPlain_entryText (entry : String × String) : ∀ c ∈ entryText entry, IsPlain c := by
  rw [entryText, List.forall_mem_append, List.forall_mem_cons, List.forall_mem_cons]
  exact ⟨isPlain_writeText _, by decide, by decide, isPlain_writeText _⟩

theorem isPlain_entriesText (entries : Entries) : ∀ c ∈ entriesText entries, IsPlain c := by
  induction entries with
  | nil => exact forall_isPlain (by decide)
  | cons entry rest ih =>
      cases rest with
      | nil =>
          rw [entriesText_singleton, List.forall_mem_append]
          exact ⟨isPlain_entryText entry, forall_isPlain (by decide)⟩
      | cons next rest =>
          rw [entriesText_cons_cons, List.forall_mem_append]
          simp only [List.forall_mem_cons]
          exact ⟨isPlain_entryText entry, by decide, by decide, by decide, by decide, ih⟩

theorem isPlain_settingsText (entries : Entries) : ∀ c ∈ settingsText entries, IsPlain c := by
  rw [settingsText_eq, linesText]
  split
  · exact forall_isPlain (by decide)
  · simp only [List.forall_mem_cons]
    exact ⟨by decide, by decide, by decide, by decide, isPlain_entriesText _⟩

/-! ### Octets -/

/-- A character of ASCII is one octet. -/
theorem utf8EncodeChar_of_lt {c : Char} (hc : c.toNat < 128) :
    String.utf8EncodeChar c = [UInt8.ofNat c.toNat] := by
  have hle : c.val.toNat ≤ 0x7f := Nat.le_of_lt_succ hc
  simp only [String.utf8EncodeChar, if_pos hle]
  rfl

/-- An octet of ASCII is its character. -/
theorem first_of_lt {c : Char} (hc : c.toNat < 128) (rest : List UInt8) :
    Text.Utf8.first (UInt8.ofNat c.toNat) rest = .ok (c, 0) := by
  have hcode : (UInt8.ofNat c.toNat).toNat = c.toNat := by
    rw [UInt8.toNat_ofNat', Nat.mod_eq_of_lt (by omega)]
  simp only [Text.Utf8.first, Text.Utf8.lead?, hcode, if_pos hc, Text.Utf8.gather]
  rw [Char.ofNat_toNat]

theorem decodeFrom_encode (offset : Nat) {text : List Char} (hplain : ∀ c ∈ text, IsPlain c) :
    Text.Utf8.decodeFrom offset (Text.Utf8.encode text) = .ok text := by
  induction text generalizing offset with
  | nil => rw [Text.Utf8.encode, List.flatMap_nil, Text.Utf8.decodeFrom]
  | cons c rest ih =>
      obtain ⟨hc, hrest⟩ := List.forall_mem_cons.mp hplain
      have hencode : Text.Utf8.encode (c :: rest) = UInt8.ofNat c.toNat :: Text.Utf8.encode rest := by
        rw [Text.Utf8.encode, List.flatMap_cons, utf8EncodeChar_of_lt hc.1]
        rfl
      rw [hencode, Text.Utf8.decodeFrom, first_of_lt hc.1]
      simp only [List.drop_zero, ih (offset + 0 + 1) hrest, Except.map]

/-! ### The whole file -/

theorem ofMembers_toJson (entries : Entries) :
    Entries.ofMembers (entries.map fun entry => (entry.1, .string entry.2)) = entries := by
  induction entries with
  | nil => rfl
  | cons entry rest ih => exact congrArg (entry :: ·) ih

/-- A settings file that has been written is decoded as the entries that were written, in the order of
their keys. -/
theorem decode_settingsText (path : TreePath) {entries : Entries}
    (hdistinct : NamesDistinct entries) :
    SettingsFile.decode path (Text.Utf8.encode (settingsText entries)) = .ok entries.sorted := by
  have hread := read_settingsText hdistinct
  have hplain := isPlain_settingsText entries
  have hunify : Text.unify (settingsText entries) = settingsText entries :=
    Text.unify_eq_self fun hmem => (hplain '\r' hmem).2 rfl
  simp only [SettingsFile.decode, Text.Utf8.decode, decodeFrom_encode 0 hplain, hunify, hread,
    Entries.toJson]
  rw [ofMembers_toJson]

end TemplateWorkbench
