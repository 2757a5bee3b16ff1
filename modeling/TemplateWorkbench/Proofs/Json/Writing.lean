import Mathlib.Data.List.Basic
import TemplateWorkbench.Json.Reader
import TemplateWorkbench.Json.Writer
import TemplateWorkbench.Proofs.Json.Reading

/-!
# Writing and reading JSON

Texts are read back as they were written, and all that cannot be written are long integers.

## Texts are read as they were written

Inside quotes a character stands for itself or is written by an escape: one letter, one code unit, or
two code units for a character beyond the first plane.  This file proves that the reader takes every
escape back to its character, and so a whole text back to itself, whether or not only ASCII is written.
-/

namespace TemplateWorkbench.Json

open Text

/-! ### Hexadecimal digits -/

theorem digitBelow?_hexDigit : ∀ value < 16, Number.digitBelow? 16 (hexDigit value) = some value := by
  decide

theorem hexDigits_four (code : Nat) :
    hexDigits 4 code = [hexDigit (code / 16 / 16 / 16 % 16), hexDigit (code / 16 / 16 % 16),
      hexDigit (code / 16 % 16), hexDigit (code % 16)] := rfl

/-- Four hexadecimal digits are read as the code unit that they were written for. -/
theorem codeUnit?_hexDigit {code : Nat} (hcode : code < 0x10000) :
    codeUnit? (hexDigit (code / 16 / 16 / 16 % 16)) (hexDigit (code / 16 / 16 % 16))
      (hexDigit (code / 16 % 16)) (hexDigit (code % 16)) = some code := by
  have hdigit (value : Nat) : Number.digitBelow? 16 (hexDigit (value % 16)) = some (value % 16) :=
    digitBelow?_hexDigit _ (Nat.mod_lt _ (by decide))
  simp only [codeUnit?, List.mapM_cons, List.mapM_nil, hdigit, Option.pure_def, Option.bind_eq_bind,
    Option.bind_some, Number.ofDigits, List.foldl_cons, List.foldl_nil, Option.some.injEq]
  omega

/-! ### One character -/

theorem readText_codeEscape (opened : Nat) (done : List Char) {code : Nat} (hcode : code < 0x10000)
    (hlone : isHighHalf code = false) (next : Char) (rest : List Char) :
    readText opened done (codeEscape code ++ next :: rest) =
      readText opened (unitChar code :: done) (next :: rest) := by
  rw [codeEscape, hexDigits_four]
  simp only [List.cons_append, List.nil_append]
  rw [readText]
  simp only [codeUnit?_hexDigit hcode, hlone]
  rfl

theorem readText_pair (opened : Nat) (done : List Char) {high low : Nat}
    (hhigh : isHighHalf high = true) (hlow : isLowHalf low = true) (rest : List Char) :
    readText opened done (codeEscape high ++ (codeEscape low ++ rest)) =
      readText opened (pairChar high low :: done) rest := by
  have hhighCode : high < 0x10000 := by
    simp only [isHighHalf, Bool.and_eq_true, decide_eq_true_eq] at hhigh
    omega
  have hlowCode : low < 0x10000 := by
    simp only [isLowHalf, Bool.and_eq_true, decide_eq_true_eq] at hlow
    omega
  rw [codeEscape, codeEscape, hexDigits_four, hexDigits_four]
  simp only [List.cons_append, List.nil_append]
  rw [readText]
  simp only [codeUnit?_hexDigit hhighCode, hhigh, secondHalf, codeUnit?_hexDigit hlowCode, hlow,
    if_true, List.drop_succ_cons, List.drop_zero]

/-- No character has the code of a half of a pair. -/
theorem toNat_notHalf (c : Char) : (isHighHalf c.toNat || isLowHalf c.toNat) = false := by
  have hvalid : c.toNat < 0xD800 ∨ 0xDFFF < c.toNat ∧ c.toNat < 0x110000 := c.valid
  simp only [isHighHalf, isLowHalf, Bool.or_eq_false_iff, Bool.and_eq_false_iff,
    decide_eq_false_iff_not]
  omega

theorem unitChar_toNat (c : Char) : unitChar c.toNat = c := by
  rw [unitChar, toNat_notHalf, if_neg (by decide), Char.ofNat_toNat]

/-- The two halves of a character beyond the first plane make the character again. -/
theorem pairChar_halves {c : Char} (hcode : ¬ c.toNat < 0x10000) :
    pairChar (0xD800 + (c.toNat - 0x10000) / 0x400) (0xDC00 + (c.toNat - 0x10000) % 0x400) = c := by
  have hsum : 0x10000 + (0xD800 + (c.toNat - 0x10000) / 0x400 - 0xD800) * 0x400 +
      (0xDC00 + (c.toNat - 0x10000) % 0x400 - 0xDC00) = c.toNat := by omega
  rw [pairChar, hsum, Char.ofNat_toNat]

theorem readText_unitEscapes (opened : Nat) (done : List Char) (c next : Char) (rest : List Char) :
    readText opened done (unitEscapes c ++ next :: rest) =
      readText opened (c :: done) (next :: rest) := by
  have hlone := toNat_notHalf c
  rw [Bool.or_eq_false_iff] at hlone
  simp only [unitEscapes]
  split
  · next hcode => rw [readText_codeEscape opened done hcode hlone.1, unitChar_toNat]
  · next hcode =>
      have hvalid : c.toNat < 0xD800 ∨ 0xDFFF < c.toNat ∧ c.toNat < 0x110000 := c.valid
      have hhigh : isHighHalf (0xD800 + (c.toNat - 0x10000) / 0x400) = true := by
        simp only [isHighHalf, Bool.and_eq_true, decide_eq_true_eq]
        omega
      have hlow : isLowHalf (0xDC00 + (c.toNat - 0x10000) % 0x400) = true := by
        simp only [isLowHalf, Bool.and_eq_true, decide_eq_true_eq]
        omega
      rw [List.append_assoc, readText_pair opened done hhigh hlow, pairChar_halves hcode]

/-- An escape of one letter is read as what it stands for. -/
theorem readText_letterEscape (opened : Nat) (done : List Char) {letter meant : Char}
    (hmeant : escaped? letter = some meant) (rest : List Char) :
    readText opened done ('\\' :: letter :: rest) = readText opened (meant :: done) rest := by
  have hletter : letter ≠ 'u' := by
    rintro rfl
    cases hmeant
  rw [readText]
  · rw [hmeant]
  · exact fun _ _ _ _ _ _ hu => absurd hu hletter
  · simpa using hletter

/-- A character that needs no escape is read as itself. -/
theorem readText_plain (opened : Nat) (done : List Char) {c : Char} (hquote : c ≠ '"')
    (hslash : c ≠ '\\') (hcode : ¬ c.toNat < 32) (rest : List Char) :
    readText opened done (c :: rest) = readText opened (c :: done) rest := by
  rw [readText]
  · rw [if_neg hcode]
  all_goals simp_all

/-- Every character is read as it was written, if anything follows it. -/
theorem readText_escapeChar (opened : Nat) (done : List Char) (ascii : Bool) (c next : Char)
    (rest : List Char) :
    readText opened done (escapeChar ascii c ++ next :: rest) =
      readText opened (c :: done) (next :: rest) := by
  unfold escapeChar
  split
  -- The characters that no letter stands for; all others are escapes of one letter.
  case h_8 hquote hslash _ _ _ _ _ =>
      split
      · next hcontrol =>
          have hunit := readText_unitEscapes opened done c next rest
          rwa [unitEscapes, if_pos (by omega)] at hunit
      · next hcode =>
          split
          · exact readText_unitEscapes opened done c next rest
          · exact readText_plain opened done hquote hslash hcode _
  all_goals exact readText_letterEscape opened done rfl _

/-! ### Whole texts -/

theorem readText_flatMap_escapeChar (opened : Nat) (done : List Char) (ascii : Bool)
    (text rest : List Char) :
    readText opened done (text.flatMap (escapeChar ascii) ++ '"' :: rest) =
      .ok (String.ofList (done.reverse ++ text), rest) := by
  induction text generalizing done with
  | nil =>
      rw [List.flatMap_nil, List.nil_append, readText, List.append_nil]
  | cons c text ih =>
      -- The closing quote is there even if no character follows.
      have hnext : ∃ next others, text.flatMap (escapeChar ascii) ++ '"' :: rest = next :: others := by
        cases text.flatMap (escapeChar ascii) with
        | nil => exact ⟨'"', rest, rfl⟩
        | cons next others => exact ⟨next, others ++ '"' :: rest, rfl⟩
      obtain ⟨next, others, hsplit⟩ := hnext
      rw [List.flatMap_cons, List.append_assoc, hsplit, readText_escapeChar, ← hsplit, ih]
      simp

/-- A text is read as it was written. -/
theorem readText_writeText (ascii : Bool) (text : String) (rest : List Char) :
    ∃ body, writeText ascii text ++ rest = '"' :: body ∧
      ∀ opened, readText opened [] body = .ok (text, rest) := by
  refine ⟨text.toList.flatMap (escapeChar ascii) ++ '"' :: rest, by simp [writeText], ?_⟩
  intro opened
  rw [readText_flatMap_escapeChar]
  simp

end TemplateWorkbench.Json

/-!
## What can be written

An integer with too many digits is the only thing that cannot be written, whatever the layout.  So a value can
be written exactly when none of its integers is too long, and every canonical value has a text in every style,
for there is no such integer in what has been read.
-/

namespace TemplateWorkbench

/-- Whether an integer is short enough to be written. -/
def Number.isShort (value : Int) : Bool := !isTooLong value

namespace Json

open Number Results

mutual

/-- The integers in a value. -/
def integers : Json → List Int
  | int value => [value]
  | list items => itemIntegers items
  | object members => memberIntegers members
  | _ => []

/-- The integers in items. -/
def itemIntegers : List Json → List Int
  | [] => []
  | item :: rest => item.integers ++ itemIntegers rest

/-- The integers in the values of members. -/
def memberIntegers : List (String × Json) → List Int
  | [] => []
  | (_, value) :: rest => value.integers ++ memberIntegers rest

end

theorem isSome_integerText? (value : Int) : (integerText? value).isSome = isShort value := by
  rw [integerText?, isShort]
  cases isTooLong value <;> rfl

mutual

/-- A value can be written exactly when all of its integers are short. -/
theorem isOk_writeChars (style : Style) (level : Nat) :
    (value : Json) → (writeChars style level value).isOk = value.integers.all isShort
  | null | bool _ | double _ | string _ => rfl
  | int value => by
      rw [writeChars, integers, List.all_cons, List.all_nil, Bool.and_true, ← isSome_integerText?]
      cases integerText? value <;> rfl
  | list items => by
      rw [writeChars, integers, ← isOk_writeItems style (level + 1) items]
      cases writeItems style (level + 1) items <;> rfl
  | object members => by
      rw [writeChars, integers, ← isOk_writeMembers style (level + 1) members]
      cases writeMembers style (level + 1) members <;> rfl

theorem isOk_writeItems (style : Style) (level : Nat) :
    (items : List Json) → (writeItems style level items).isOk = (itemIntegers items).all isShort
  | [] => rfl
  | item :: rest => by
      rw [writeItems, itemIntegers, List.all_append, isOk_bind_bind_pure,
        isOk_writeChars style level item, isOk_writeItems style level rest]

theorem isOk_writeMembers (style : Style) (level : Nat) :
    (members : List (String × Json)) →
      (writeMembers style level members).isOk = (memberIntegers members).all isShort
  | [] => rfl
  | (name, value) :: rest => by
      rw [writeMembers, memberIntegers, List.all_append, isOk_bind_bind_pure,
        isOk_writeChars style level value, isOk_writeMembers style level rest]

end

theorem isOk_line (value : Json) : (line value).isOk = value.integers.all isShort := by
  rw [line, write, isOk_map, isOk_writeChars]

end Json

end TemplateWorkbench

namespace TemplateWorkbench.Json

open Number

variable {style : Style} {level : Nat}

/-! ### What has been written -/

/-- An integer has been written if it is short. -/
theorem writeChars_int_eq_ok_iff {value : Int} {chars : List Char} :
    writeChars style level (.int value) = .ok chars ↔
      isTooLong value = false ∧ chars = (integerText value).toList := by
  rw [writeChars, integerText?]
  cases isTooLong value <;> simp [eq_comm]

/-- A list has been written if its items have been. -/
theorem writeChars_list_eq_ok_iff {items : List Json} {chars : List Char} :
    writeChars style level (.list items) = .ok chars ↔
      ∃ written, writeItems style (level + 1) items = .ok written ∧
        chars = style.enclose level '[' ']' written := by
  rw [writeChars]
  cases writeItems style (level + 1) items <;> simp [eq_comm]

/-- An object has been written if its members have been. -/
theorem writeChars_object_eq_ok_iff {members : List (String × Json)} {chars : List Char} :
    writeChars style level (.object members) = .ok chars ↔
      ∃ written, writeMembers style (level + 1) members = .ok written ∧
        chars = style.enclose level '\x7b' '\x7d' ((style.order written).map (·.2)) := by
  rw [writeChars]
  cases writeMembers style (level + 1) members <;> simp [eq_comm]

theorem writeItems_cons_eq_ok_iff {item : Json} {rest : List Json} {written : List (List Char)} :
    writeItems style level (item :: rest) = .ok written ↔
      ∃ chars others, writeChars style level item = .ok chars ∧
        writeItems style level rest = .ok others ∧ written = chars :: others := by
  rw [writeItems]
  cases writeChars style level item <;> cases writeItems style level rest <;>
    simp [bind, Except.bind, pure, Except.pure, eq_comm]

theorem writeMembers_cons_eq_ok_iff {name : String} {value : Json} {rest : List (String × Json)}
    {written : List (String × List Char)} :
    writeMembers style level ((name, value) :: rest) = .ok written ↔
      ∃ chars others, writeChars style level value = .ok chars ∧
        writeMembers style level rest = .ok others ∧
        written = (name, writeText style.ascii name ++ ':' :: ' ' :: chars) :: others := by
  rw [writeMembers]
  cases writeChars style level value <;> cases writeMembers style level rest <;>
    simp [bind, Except.bind, pure, Except.pure, eq_comm]

/-! ### Canonical values -/

theorem writeItems_of_forall {items : List Json}
    (hitems : ∀ item ∈ items, ∃ chars, writeChars style level item = .ok chars) :
    ∃ written, writeItems style level items = .ok written := by
  induction items with
  | nil => exact ⟨[], rfl⟩
  | cons item rest ih =>
      obtain ⟨chars, hchars⟩ := hitems item List.mem_cons_self
      obtain ⟨others, hothers⟩ := ih fun other hmem => hitems other (List.mem_cons_of_mem _ hmem)
      exact ⟨_, writeItems_cons_eq_ok_iff.mpr ⟨chars, others, hchars, hothers, rfl⟩⟩

theorem writeMembers_of_forall {members : List (String × Json)}
    (hmembers : ∀ member ∈ members, ∃ chars, writeChars style level member.2 = .ok chars) :
    ∃ written, writeMembers style level members = .ok written := by
  induction members with
  | nil => exact ⟨[], rfl⟩
  | cons member rest ih =>
      obtain ⟨name, value⟩ := member
      obtain ⟨chars, hchars⟩ := hmembers (name, value) List.mem_cons_self
      obtain ⟨others, hothers⟩ := ih fun other hmem => hmembers other (List.mem_cons_of_mem _ hmem)
      exact ⟨_, writeMembers_cons_eq_ok_iff.mpr ⟨chars, others, hchars, hothers, rfl⟩⟩

/-- A canonical value can be written at every level. -/
theorem Canonical.writeChars {value : Json} (hcanonical : Canonical value) (style : Style)
    (level : Nat) : ∃ chars, writeChars style level value = .ok chars := by
  induction hcanonical generalizing level with
  | null | bool | double | string => exact ⟨_, rfl⟩
  | int hshort => exact ⟨_, writeChars_int_eq_ok_iff.mpr ⟨hshort, rfl⟩⟩
  | list _ ih =>
      obtain ⟨written, hwritten⟩ := writeItems_of_forall fun item hmem => ih item hmem (level + 1)
      exact ⟨_, writeChars_list_eq_ok_iff.mpr ⟨written, hwritten, rfl⟩⟩
  | object _ _ ih =>
      obtain ⟨written, hwritten⟩ :=
        writeMembers_of_forall fun member hmem => ih member hmem (level + 1)
      exact ⟨_, writeChars_object_eq_ok_iff.mpr ⟨written, hwritten, rfl⟩⟩

/-- A canonical value has a text on one line. -/
theorem Canonical.line {value : Json} (hcanonical : Canonical value) :
    ∃ text, line value = .ok text := by
  obtain ⟨chars, hchars⟩ := hcanonical.writeChars .line 0
  exact ⟨String.ofList chars, by rw [Json.line, write, hchars]; rfl⟩

end TemplateWorkbench.Json
