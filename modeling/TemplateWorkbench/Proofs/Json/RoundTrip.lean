import TemplateWorkbench.Proofs.Json.Writing
import TemplateWorkbench.Proofs.Json.Numbers

/-!
# Values are read as they were written

Whatever a value is, on one line or with every item on a line of its own, its text is read as the value
itself: numbers of each kind stay what they are, and members keep their order.  The proof follows the
value: a part is read from its own characters wherever a value may end after them, and so the reader goes
from item to item and from member to member.

What is asked of the value is what the reader asks of a text: integers that are not too long, distinct
names in every object, and no more containers inside one another than may be open.
-/

namespace TemplateWorkbench.Json

open Number Results

/-! ### Depth -/

mutual

/-- How many containers are inside one another. -/
def depth : Json → Nat
  | .list items => depthOfItems items + 1
  | .object members => depthOfMembers members + 1
  | _ => 0

/-- The depth of the deepest item. -/
def depthOfItems : List Json → Nat
  | [] => 0
  | item :: rest => max (depth item) (depthOfItems rest)

/-- The depth of the deepest member. -/
def depthOfMembers : List (String × Json) → Nat
  | [] => 0
  | member :: rest => max (depth member.2) (depthOfMembers rest)

end

theorem depth_le_depthOfItems {items : List Json} {item : Json} (hmem : item ∈ items) :
    depth item ≤ depthOfItems items := by
  induction items with
  | nil => cases hmem
  | cons first rest ih =>
      rw [depthOfItems]
      rcases List.mem_cons.mp hmem with rfl | hrest
      · exact Nat.le_max_left _ _
      · exact (ih hrest).trans (Nat.le_max_right _ _)

theorem depth_le_depthOfMembers {members : List (String × Json)} {member : String × Json}
    (hmem : member ∈ members) : depth member.2 ≤ depthOfMembers members := by
  induction members with
  | nil => cases hmem
  | cons first rest ih =>
      rw [depthOfMembers]
      rcases List.mem_cons.mp hmem with rfl | hrest
      · exact Nat.le_max_left _ _
      · exact (ih hrest).trans (Nat.le_max_right _ _)

theorem depthOfItems_le {items : List Json} {limit : Nat} (hitems : ∀ item ∈ items, depth item ≤ limit) :
    depthOfItems items ≤ limit := by
  induction items with
  | nil => exact Nat.zero_le _
  | cons first rest ih =>
      rw [depthOfItems]
      exact Nat.max_le.mpr ⟨hitems first List.mem_cons_self,
        ih fun item hmem => hitems item (List.mem_cons_of_mem _ hmem)⟩

theorem depthOfMembers_le {members : List (String × Json)} {limit : Nat}
    (hmembers : ∀ member ∈ members, depth member.2 ≤ limit) : depthOfMembers members ≤ limit := by
  induction members with
  | nil => exact Nat.zero_le _
  | cons first rest ih =>
      rw [depthOfMembers]
      exact Nat.max_le.mpr ⟨hmembers first List.mem_cons_self,
        ih fun member hmem => hmembers member (List.mem_cons_of_mem _ hmem)⟩

/-! ### Blanks -/

theorem skipBlanks_cons_blank {c : Char} (hblank : isBlank c = true) (rest : List Char) :
    skipBlanks (c :: rest) = skipBlanks rest := List.dropWhile_cons_of_pos hblank

theorem skipBlanks_cons_self {c : Char} (hblank : ¬ isBlank c = true) (rest : List Char) :
    skipBlanks (c :: rest) = c :: rest := List.dropWhile_cons_of_neg hblank

theorem skipBlanks_append {blanks : List Char} (hblanks : ∀ c ∈ blanks, isBlank c = true)
    (rest : List Char) : skipBlanks (blanks ++ rest) = skipBlanks rest :=
  List.dropWhile_append_of_pos hblanks

/-- A style that lays a value out with blanks only and leaves members in their order. -/
structure Style.IsFaithful (style : Style) : Prop where
  blank : ∀ unit ∈ style.indent, ∀ c ∈ unit.toList, isBlank c = true
  unsorted : style.sorted = false

theorem isBlank_break {style : Style} (hfaithful : style.IsFaithful) (level : Nat) :
    ∀ c ∈ style.break level, isBlank c = true := by
  unfold Style.break
  split
  · intro c hc
    cases hc
  · next unit hunit =>
      intro c hc
      rcases List.mem_cons.mp hc with rfl | hmem
      · rfl
      · obtain ⟨part, hpart, hcPart⟩ := List.mem_flatten.mp hmem
        rw [List.eq_of_mem_replicate hpart] at hcPart
        exact hfaithful.blank unit hunit c hcPart

/-- A comma and blanks separate two items. -/
theorem separator_eq {style : Style} (hfaithful : style.IsFaithful) (level : Nat) :
    ∃ gap, style.separator level = ',' :: gap ∧ ∀ c ∈ gap, isBlank c = true := by
  refine ⟨_, rfl, fun c hc => ?_⟩
  split at hc
  · rw [List.mem_singleton.mp hc]
    rfl
  · exact isBlank_break hfaithful level c hc

/-! ### What is read from its own characters -/

/-- A text begins like a value: neither with a blank nor with the end of a list, nor with the mark that
the reader refuses. -/
def StartsValue (chars : List Char) : Prop :=
  ∃ first rest, chars = first :: rest ∧ isBlank first = false ∧ first ≠ ']' ∧ first ≠ '\uFEFF'

theorem StartsValue.skipBlanks {chars : List Char} (hstarts : StartsValue chars) (rest : List Char) :
    Json.skipBlanks (chars ++ rest) = chars ++ rest := by
  obtain ⟨first, others, rfl, hblank, -, -⟩ := hstarts
  exact skipBlanks_cons_self (by simp [hblank]) _

/-- Characters that are read as a value wherever a value may end after them. -/
structure ReadsAs (depth : Nat) (value : Json) (chars : List Char) : Prop where
  starts : StartsValue chars
  reads : ∀ fuel rest, chars.length < fuel → EndsNumber rest →
    readValue fuel depth (chars ++ rest) = .ok (value, rest)

/-! ### Words, numbers and texts -/

/-- What is no text and no container is a word or a number. -/
theorem readValue_of_first (fuel depth : Nat) {first : Char} (rest : List Char) (hquote : first ≠ '"')
    (hbrace : first ≠ '\x7b') (hbracket : first ≠ '[') : readValue (fuel + 1) depth (first :: rest) =
      match readWord? (first :: rest) with
      | some found => .ok found
      | none => readNumber (first :: rest) := by
  rw [readValue.eq_def]
  simp only
  split
  · next heq => exact absurd (List.cons.inj heq).1 hquote
  · next heq => exact absurd (List.cons.inj heq).1 hbrace
  · next heq => exact absurd (List.cons.inj heq).1 hbracket
  · rfl

/-- A word is read as its value. -/
theorem readsAs_word (depth : Nat) (word : String) {value : Json} {first : Char}
    {others : List Char} (hword : word.toList = first :: others) (hfirst : first ≠ '"' ∧ first ≠ '\x7b' ∧ first ≠ '[')
    (hstart : isBlank first = false ∧ first ≠ ']' ∧ first ≠ '\uFEFF')
    (hread : ∀ rest, readWord? (word.toList ++ rest) = some (value, rest)) :
    ReadsAs depth value word.toList := by
  refine ⟨⟨first, others, hword, hstart⟩, fun fuel rest hfuel hends => ?_⟩
  obtain ⟨fuel, rfl⟩ : ∃ n, fuel = n + 1 := ⟨fuel - 1, by omega⟩
  have hfound := hread rest
  rw [hword, List.cons_append] at hfound ⊢
  rw [readValue_of_first fuel depth _ hfirst.1 hfirst.2.1 hfirst.2.2, hfound]

/-- A number is no word. -/
theorem readWord?_digit (negative : Bool) {first : Char} (hdigit : first.isDigit = true)
    (rest : List Char) : readWord? (signText negative ++ first :: rest) = none := by
  have hne {c : Char} (hc : c.isDigit = false) : ¬ c = first := by
    rintro rfl
    rw [hdigit] at hc
    cases hc
  cases negative with
  | true =>
      simp [readWord?, words, signText, hne (show 'I'.isDigit = false from rfl)]
  | false =>
      simp [readWord?, words, signText, hne (show 'n'.isDigit = false from rfl),
        hne (show 't'.isDigit = false from rfl), hne (show 'f'.isDigit = false from rfl),
        hne (show 'N'.isDigit = false from rfl), hne (show 'I'.isDigit = false from rfl),
        hne (show '-'.isDigit = false from rfl)]

theorem signText_splitMinus (text : List Char) :
    text = signText (splitMinus text).1 ++ (splitMinus text).2 := by
  unfold splitMinus
  split
  · rfl
  · rfl

theorem exists_digit_of_wholeDigits? {text : List Char} {found : List Nat × List Char}
    (hwhole : wholeDigits? text = some found) :
    ∃ first rest, text = first :: rest ∧ first.isDigit = true := by
  unfold wholeDigits? at hwhole
  split at hwhole
  · exact ⟨_, _, rfl, rfl⟩
  · cases text with
    | nil => simp [digitsThen] at hwhole
    | cons first rest =>
        refine ⟨first, rest, rfl, ?_⟩
        by_contra hdigit
        simp [digitsThen, List.takeWhile_cons_of_neg hdigit] at hwhole

/-- What is read as a number begins with a digit, or with a sign and a digit. -/
theorem exists_digit_of_readNumber {text : List Char} {found : Json × List Char}
    (hread : readNumber text = .ok found) :
    ∃ negative first rest, text = signText negative ++ first :: rest ∧ first.isDigit = true := by
  have hsplit := signText_splitMinus text
  unfold readNumber at hread
  simp only at hread
  split at hread
  · cases hread
  · next whole afterWhole hwhole =>
      obtain ⟨first, rest, hunsigned, hdigit⟩ := exists_digit_of_wholeDigits? hwhole
      rw [hunsigned] at hsplit
      exact ⟨_, first, rest, hsplit, hdigit⟩

/-- Characters that are read as a number are read as a value. -/
theorem readsAs_number (depth : Nat) {value : Json} {chars : List Char}
    (hread : ∀ rest, EndsNumber rest → readNumber (chars ++ rest) = .ok (value, rest)) :
    ReadsAs depth value chars := by
  have hend : EndsNumber [] := nofun
  have hself := hread [] hend
  rw [List.append_nil] at hself
  obtain ⟨negative, first, others, rfl, hdigit⟩ := exists_digit_of_readNumber hself
  have hne {c : Char} (hc : c.isDigit = false) : first ≠ c := by
    rintro rfl
    rw [hdigit] at hc
    cases hc
  have hblank : isBlank first = false := by
    simp [isBlank, hne (show ' '.isDigit = false from rfl), hne (show '\t'.isDigit = false from rfl),
      hne (show '\n'.isDigit = false from rfl), hne (show '\r'.isDigit = false from rfl)]
  -- A digit, or a minus before one, begins no text, no container and no word.
  constructor
  · cases negative with
    | true => exact ⟨'-', _, rfl, rfl, by decide, by decide⟩
    | false => exact ⟨first, others, rfl, hblank, hne rfl, hne rfl⟩
  · intro fuel rest hfuel hends
    obtain ⟨fuel, rfl⟩ : ∃ n, fuel = n + 1 := ⟨fuel - 1, by omega⟩
    have hword := readWord?_digit negative hdigit (others ++ rest)
    have hnumber := hread rest hends
    rw [List.append_assoc, List.cons_append] at hnumber ⊢
    cases negative with
    | true =>
        rw [signText, if_pos rfl, List.singleton_append] at hword hnumber ⊢
        rw [readValue_of_first fuel depth _ (by decide) (by decide) (by decide), hword, hnumber]
    | false =>
        rw [signText, if_neg (by decide), List.nil_append] at hword hnumber ⊢
        rw [readValue_of_first fuel depth _ (hne rfl) (hne rfl) (hne rfl), hword, hnumber]

/-- A text is read as itself. -/
theorem readsAs_text (depth : Nat) (ascii : Bool) (text : String) :
    ReadsAs depth (.string text) (writeText ascii text) := by
  refine ⟨⟨'"', _, rfl, rfl, by decide, by decide⟩, fun fuel rest hfuel hends => ?_⟩
  obtain ⟨fuel, rfl⟩ : ∃ n, fuel = n + 1 := ⟨fuel - 1, by omega⟩
  obtain ⟨body, hbody, hread⟩ := readText_writeText ascii text rest
  rw [hbody, readValue]
  simp only [hread, Except.map]

theorem isWhole_toDigits (value : Nat) : IsWhole (Nat.toDigits 10 value) := by
  refine ⟨Nat.toDigits_ne_nil, fun c hc => isDigit_toDigits hc, ?_⟩
  rcases Nat.eq_zero_or_pos value with rfl | hpositive
  · exact .inl (Nat.toDigits_zero 10)
  · exact .inr (head?_toDigits hpositive)

/-- An integer that is short enough is read as itself. -/
theorem readNumber_integerText {value : Int} (hshort : isTooLong value = false) {rest : List Char}
    (hends : EndsNumber rest) :
    readNumber ((integerText value).toList ++ rest) = .ok (.int value, rest) := by
  -- For every limit, so that the power of the limit is not evaluated.
  have hlength {limit : Nat} (hpositive : 0 < limit) (hlt : value.natAbs < Nat.pow 10 limit) :
      (Nat.toDigits 10 value.natAbs).length ≤ limit :=
    (Nat.length_toDigits_le_iff (by decide) hpositive).mpr hlt
  have hlimit := hlength (by decide) (isTooLong_eq_false_iff.mp hshort)
  have htext : (integerText value).toList =
      signText (decide (value < 0)) ++ Nat.toDigits 10 value.natAbs := by
    rw [integerText, decimalText, Nat.repr_eq_ofList_toDigits]
    by_cases hnegative : value < 0
    · simp [hnegative, signText]
    · simp [hnegative, signText]
  have hvalue : (if decide (value < 0) = true then -(numberOf (Nat.toDigits 10 value.natAbs) : Int)
      else numberOf (Nat.toDigits 10 value.natAbs)) = value := by
    have hnumber : numberOf (Nat.toDigits 10 value.natAbs) = value.natAbs := ofDigits_toDigits _
    rw [hnumber, ite_natAbs]
  rw [htext, List.append_assoc, readNumber_integer _ (isWhole_toDigits _) hlimit hends, hvalue]

theorem readsAs_int (depth : Nat) {value : Int} (hshort : isTooLong value = false) :
    ReadsAs depth (.int value) (integerText value).toList :=
  readsAs_number depth fun _ hends => readNumber_integerText hshort hends

/-- A double is read as itself. -/
theorem readsAs_double (depth : Nat) (value : Double) :
    ReadsAs depth (.double value) (jsonDouble.write value).toList := by
  match value with
  | .nan =>
      exact readsAs_word depth "NaN" rfl (by decide) (by decide) fun rest => rfl
  | .infinite false =>
      exact readsAs_word depth "Infinity" rfl (by decide) (by decide) fun rest => rfl
  | .infinite true =>
      exact readsAs_word depth "-Infinity" rfl (by decide) (by decide) fun rest => rfl
  | .finite negative rank =>
      exact readsAs_number depth fun rest hends => readNumber_write negative rank hends

/-! ### Lists -/

/-- Parts behind the first one, each behind a comma and a gap. -/
def following (gap : List Char) (parts : List (List Char)) : List Char :=
  parts.flatMap fun part => ',' :: (gap ++ part)

theorem following_cons (gap part : List Char) (parts : List (List Char)) (tail : List Char) :
    following gap (part :: parts) ++ tail = ',' :: (gap ++ (part ++ (following gap parts ++ tail))) := by
  simp [following]

theorem length_following_cons (gap part : List Char) (parts : List (List Char)) :
    (following gap (part :: parts)).length =
      gap.length + part.length + (following gap parts).length + 1 := by
  simp [following]
  omega

/-- Joined parts are the first one and those that follow. -/
theorem flatten_intersperse (gap first : List Char) (others : List (List Char)) :
    ((first :: others).intersperse (',' :: gap)).flatten = first ++ following gap others := by
  induction others generalizing first with
  | nil => simp [following]
  | cons second others ih =>
      have hsplit := following_cons gap second others []
      rw [List.append_nil, List.append_nil] at hsplit
      rw [List.intersperse_cons_cons, List.flatten_cons, List.flatten_cons, ih, hsplit, List.cons_append]

/-- What stands behind a part does not go on with a number. -/
theorem endsNumber_following (gap : List Char) (parts : List (List Char)) {tail : List Char}
    (htail : EndsNumber tail) : EndsNumber (following gap parts ++ tail) := by
  cases parts with
  | nil => exact htail
  | cons part parts =>
      rw [following_cons]
      rintro c ⟨⟩
      decide

/-- Written items are read one after another up to the end of the list. -/
theorem readItems_of_forall₂ {depth : Nat} {gap tail rest : List Char}
    (hgap : ∀ c ∈ gap, isBlank c = true) (htail : EndsNumber tail) (hclose : skipBlanks tail = ']' :: rest)
    {item : Json} {chars : List Char} {items : List Json} {written : List (List Char)}
    (hfirst : ReadsAs depth item chars) (hothers : List.Forall₂ (ReadsAs depth) items written)
    (fuel : Nat) (done : List Json) (hfuel : chars.length + (following gap written).length + 1 < fuel) :
    readItems fuel depth done (chars ++ (following gap written ++ tail)) =
      .ok (.list (done.reverse ++ item :: items), rest) := by
  induction hothers generalizing item chars fuel done with
  | nil =>
      obtain ⟨fuel, rfl⟩ : ∃ n, fuel = n + 1 := ⟨fuel - 1, by omega⟩
      have hnone : following gap [] ++ tail = tail := rfl
      rw [hnone, readItems, hfirst.reads fuel tail (by omega) htail]
      simp [hclose]
  | @cons second next items written hsecond hrest ih =>
      obtain ⟨fuel, rfl⟩ : ∃ n, fuel = n + 1 := ⟨fuel - 1, by omega⟩
      have hends := endsNumber_following gap (next :: written) htail
      rw [length_following_cons] at hfuel
      have hnext := ih hsecond fuel (item :: done) (by omega)
      rw [readItems, hfirst.reads fuel _ (by omega) hends, following_cons]
      simp only [skipBlanks_cons_self (c := ',') (by decide)]
      rw [skipBlanks_append hgap, hsecond.starts.skipBlanks, hnext]
      simp

/-- The end of a container does not go on with a number. -/
theorem endsNumber_break (style : Style) (level : Nat) {closing : Char} (rest : List Char)
    (hclosing : closing.isDigit = false ∧ closing ≠ '.' ∧ closing ≠ 'e' ∧ closing ≠ 'E') :
    EndsNumber (style.break level ++ closing :: rest) := by
  unfold Style.break
  split
  · rintro c ⟨⟩
    exact hclosing
  · rintro c ⟨⟩
    decide

/-- The first of several parts between brackets stands behind a break, the others follow it, and a break
stands before the closing bracket. -/
theorem enclose_cons {style : Style} {level : Nat} {gap : List Char}
    (hseparator : style.separator (level + 1) = ',' :: gap) (opening closing : Char) (first : List Char)
    (others : List (List Char)) :
    style.enclose level opening closing (first :: others) = opening :: (style.break (level + 1) ++
      (first ++ (following gap others ++ (style.break level ++ [closing])))) := by
  simp [Style.enclose, hseparator, flatten_intersperse]

/-- Breaks are skipped. -/
theorem skipBlanks_break {style : Style} (hfaithful : style.IsFaithful) (level : Nat) {text : List Char}
    (htext : skipBlanks text = text) : skipBlanks (style.break level ++ text) = text := by
  rw [skipBlanks_append (isBlank_break hfaithful level), htext]

/-- Behind an opening bracket the reader finds the first part, and then what follows it. -/
theorem skipBlanks_enclosed {style : Style} (hfaithful : style.IsFaithful) (level : Nat) (gap : List Char)
    (closing : Char) {first : List Char} (hfirst : ∀ tail, skipBlanks (first ++ tail) = first ++ tail)
    (others : List (List Char)) (rest : List Char) :
    skipBlanks (style.break (level + 1) ++
        (first ++ (following gap others ++ (style.break level ++ [closing]))) ++ rest) =
      first ++ (following gap others ++ (style.break level ++ closing :: rest)) := by
  rw [List.append_assoc, List.append_assoc, skipBlanks_break hfaithful (level + 1) (hfirst _)]
  simp

/-- A list is read as it was written. -/
theorem readsAs_list {style : Style} (hfaithful : style.IsFaithful) (level : Nat) {depth : Nat}
    {items : List Json} {written : List (List Char)}
    (hitems : List.Forall₂ (ReadsAs depth) items written) :
    ReadsAs (depth + 1) (.list items) (style.enclose level '[' ']' written) := by
  obtain ⟨gap, hseparator, hgap⟩ := separator_eq hfaithful (level + 1)
  cases hitems with
  | nil =>
      refine ⟨⟨'[', [']'], rfl, rfl, by decide, by decide⟩, fun fuel rest hfuel hends => ?_⟩
      obtain ⟨fuel, rfl⟩ : ∃ n, fuel = n + 1 := ⟨fuel - 1, by omega⟩
      rfl
  | @cons item chars items written hfirst hothers =>
      rw [enclose_cons hseparator]
      refine ⟨⟨'[', _, rfl, rfl, by decide, by decide⟩, fun fuel rest hfuel hends => ?_⟩
      obtain ⟨fuel, rfl⟩ : ∃ n, fuel = n + 1 := ⟨fuel - 1, by omega⟩
      simp only [List.length_cons, List.length_append] at hfuel
      have hclose : skipBlanks (style.break level ++ ']' :: rest) = ']' :: rest :=
        skipBlanks_break hfaithful level (skipBlanks_cons_self (by decide) rest)
      have hread := readItems_of_forall₂ hgap (endsNumber_break style level rest (by decide)) hclose
        hfirst hothers fuel [] (by omega)
      have hbody := skipBlanks_enclosed hfaithful level gap ']' hfirst.starts.skipBlanks written rest
      -- The first item does not begin with the end of the list.
      obtain ⟨first, others, hchars, -, hne, -⟩ := hfirst.starts
      rw [List.cons_append, readValue]
      simp only [hbody]
      rw [hchars, List.cons_append] at hread ⊢
      split
      · next heq => exact absurd (List.cons.inj heq).1 hne
      · exact hread

/-! ### Objects -/

/-- Characters that are read as a member: its name, a colon, and its value. -/
structure ReadsMember (ascii : Bool) (depth : Nat) (member : String × Json) (part : List Char) : Prop where
  exists_value : ∃ chars, part = writeText ascii member.1 ++ ':' :: ' ' :: chars ∧
    ReadsAs depth member.2 chars

/-- A member begins with a quote. -/
theorem ReadsMember.exists_quote {ascii : Bool} {depth : Nat} {member : String × Json}
    {part : List Char} (hmember : ReadsMember ascii depth member part) : ∃ rest, part = '"' :: rest := by
  obtain ⟨chars, rfl, -⟩ := hmember.exists_value
  exact ⟨_, rfl⟩

theorem ReadsMember.skipBlanks {ascii : Bool} {depth : Nat} {member : String × Json}
    {part : List Char} (hmember : ReadsMember ascii depth member part) (rest : List Char) :
    Json.skipBlanks (part ++ rest) = part ++ rest := by
  obtain ⟨others, rfl⟩ := hmember.exists_quote
  exact skipBlanks_cons_self (by decide) _

/-- A written member is read, and the reader looks at what is behind it. -/
theorem readMembers_part {ascii : Bool} {depth : Nat} {member : String × Json} {part : List Char}
    (hmember : ReadsMember ascii depth member part) (fuel : Nat) (done : List (String × Json))
    {rest : List Char} (hfuel : part.length < fuel) (hends : EndsNumber rest) :
    readMembers (fuel + 1) depth done (part ++ rest) =
      match skipBlanks rest with
      | '\x7d' :: others => .ok (.object (lastWins (member :: done).reverse), others)
      | ',' :: others => readMembers fuel depth (member :: done) (skipBlanks others)
      | others => .error (.malformed .expectedComma others.length) := by
  obtain ⟨chars, rfl, hvalue⟩ := hmember.exists_value
  obtain ⟨body, hbody, hread⟩ := readText_writeText ascii member.1 (':' :: ' ' :: (chars ++ rest))
  have htext : writeText ascii member.1 ++ ':' :: ' ' :: chars ++ rest = '"' :: body := by
    rw [← hbody]
    simp
  simp only [List.length_append, List.length_cons] at hfuel
  rw [htext, readMembers]
  simp only [hread, skipBlanks_cons_self (c := ':') (by decide),
    skipBlanks_cons_blank (c := ' ') (by decide), hvalue.starts.skipBlanks,
    hvalue.reads fuel rest (by omega) hends]
  all_goals rfl

/-- Written members are read one after another up to the end of the object. -/
theorem readMembers_of_forall₂ {ascii : Bool} {depth : Nat} {gap tail rest : List Char}
    (hgap : ∀ c ∈ gap, isBlank c = true) (htail : EndsNumber tail)
    (hclose : skipBlanks tail = '\x7d' :: rest) {member : String × Json} {part : List Char}
    {members : List (String × Json)} {written : List (List Char)}
    (hfirst : ReadsMember ascii depth member part)
    (hothers : List.Forall₂ (ReadsMember ascii depth) members written) (fuel : Nat)
    (done : List (String × Json)) (hfuel : part.length + (following gap written).length + 1 < fuel) :
    readMembers fuel depth done (part ++ (following gap written ++ tail)) =
      .ok (.object (lastWins (done.reverse ++ member :: members)), rest) := by
  induction hothers generalizing member part fuel done with
  | nil =>
      obtain ⟨fuel, rfl⟩ : ∃ n, fuel = n + 1 := ⟨fuel - 1, by omega⟩
      have hnone : following gap [] ++ tail = tail := rfl
      rw [hnone, readMembers_part hfirst fuel done (by omega) htail]
      simp [hclose]
  | @cons second next members written hsecond hrest ih =>
      obtain ⟨fuel, rfl⟩ : ∃ n, fuel = n + 1 := ⟨fuel - 1, by omega⟩
      have hends := endsNumber_following gap (next :: written) htail
      rw [length_following_cons] at hfuel
      have hnext := ih hsecond fuel (member :: done) (by omega)
      rw [readMembers_part hfirst fuel done (by omega) hends, following_cons]
      simp only [skipBlanks_cons_self (c := ',') (by decide)]
      rw [skipBlanks_append hgap, hsecond.skipBlanks, hnext]
      simp

/-- An object with distinct names is read as it was written. -/
theorem readsAs_object {style : Style} (hfaithful : style.IsFaithful) (level : Nat) {depth : Nat}
    {members : List (String × Json)} {written : List (List Char)} (hdistinct : NamesDistinct members)
    (hmembers : List.Forall₂ (ReadsMember style.ascii depth) members written) :
    ReadsAs (depth + 1) (.object members) (style.enclose level '\x7b' '\x7d' written) := by
  obtain ⟨gap, hseparator, hgap⟩ := separator_eq hfaithful (level + 1)
  cases hmembers with
  | nil =>
      refine ⟨⟨'\x7b', ['\x7d'], rfl, rfl, by decide, by decide⟩, fun fuel rest hfuel hends => ?_⟩
      obtain ⟨fuel, rfl⟩ : ∃ n, fuel = n + 1 := ⟨fuel - 1, by omega⟩
      rfl
  | @cons member part members written hfirst hothers =>
      rw [enclose_cons hseparator]
      refine ⟨⟨'\x7b', _, rfl, rfl, by decide, by decide⟩, fun fuel rest hfuel hends => ?_⟩
      obtain ⟨fuel, rfl⟩ : ∃ n, fuel = n + 1 := ⟨fuel - 1, by omega⟩
      simp only [List.length_cons, List.length_append] at hfuel
      have hclose : skipBlanks (style.break level ++ '\x7d' :: rest) = '\x7d' :: rest :=
        skipBlanks_break hfaithful level (skipBlanks_cons_self (by decide) rest)
      have hread := readMembers_of_forall₂ hgap (endsNumber_break style level rest (by decide)) hclose
        hfirst hothers fuel [] (by omega)
      have hbody := skipBlanks_enclosed hfaithful level gap '\x7d' hfirst.skipBlanks written rest
      rw [List.reverse_nil, List.nil_append, lastWins_eq_self hdistinct] at hread
      obtain ⟨others, hquote⟩ := hfirst.exists_quote
      rw [List.cons_append, readValue]
      simp only [hbody]
      rw [hquote, List.cons_append] at hread ⊢
      exact hread

/-! ### Whole values -/

theorem forall₂_of_writeItems {style : Style} {level depth : Nat} {items : List Json}
    {written : List (List Char)} (hwrite : writeItems style level items = .ok written)
    (hitems : ∀ item ∈ items, ∀ chars, writeChars style level item = .ok chars →
      ReadsAs depth item chars) : List.Forall₂ (ReadsAs depth) items written := by
  induction items generalizing written with
  | nil =>
      cases hwrite
      exact .nil
  | cons item rest ih =>
      obtain ⟨chars, others, hchars, hothers, rfl⟩ := writeItems_cons_eq_ok_iff.mp hwrite
      exact .cons (hitems item List.mem_cons_self chars hchars)
        (ih hothers fun other hmem => hitems other (List.mem_cons_of_mem _ hmem))

theorem forall₂_of_writeMembers {style : Style} {level depth : Nat} {members : List (String × Json)}
    {written : List (String × List Char)} (hwrite : writeMembers style level members = .ok written)
    (hmembers : ∀ member ∈ members, ∀ chars, writeChars style level member.2 = .ok chars →
      ReadsAs depth member.2 chars) :
    List.Forall₂ (ReadsMember style.ascii depth) members (written.map (·.2)) := by
  induction members generalizing written with
  | nil =>
      cases hwrite
      exact .nil
  | cons member rest ih =>
      obtain ⟨name, value⟩ := member
      obtain ⟨chars, others, hchars, hothers, rfl⟩ := writeMembers_cons_eq_ok_iff.mp hwrite
      exact .cons ⟨chars, rfl, hmembers (name, value) List.mem_cons_self chars hchars⟩
        (ih hothers fun other hmem => hmembers other (List.mem_cons_of_mem _ hmem))

/-- A value whose objects have distinct names, at every depth. -/
inductive NamesDistinctWithin : Json → Prop
  | null : NamesDistinctWithin .null
  | bool (value : Bool) : NamesDistinctWithin (.bool value)
  | int (value : Int) : NamesDistinctWithin (.int value)
  | double (value : Double) : NamesDistinctWithin (.double value)
  | string (value : String) : NamesDistinctWithin (.string value)
  | list {items : List Json} (hitems : ∀ item ∈ items, NamesDistinctWithin item) :
      NamesDistinctWithin (.list items)
  | object {members : List (String × Json)} (hdistinct : NamesDistinct members)
      (hmembers : ∀ member ∈ members, NamesDistinctWithin member.2) :
      NamesDistinctWithin (.object members)

theorem Canonical.namesDistinctWithin {value : Json} (hcanonical : Canonical value) :
    NamesDistinctWithin value := by
  induction hcanonical with
  | null => exact .null
  | bool value => exact .bool value
  | int _ => exact .int _
  | double value => exact .double value
  | string value => exact .string value
  | list _ ih => exact .list ih
  | object hdistinct _ ih => exact .object hdistinct ih

/-- Written characters are read as the value that was written. -/
theorem readsAs_writeChars {style : Style} (hfaithful : style.IsFaithful) {value : Json}
    (hdistinct : NamesDistinctWithin value) {level depth : Nat} (hdepth : value.depth ≤ depth)
    {chars : List Char} (hwrite : writeChars style level value = .ok chars) :
    ReadsAs depth value chars := by
  -- By induction on the distinct names, since of equal names the reader keeps only the last.
  induction hdistinct generalizing level depth chars with
  | null =>
      cases hwrite
      exact readsAs_word depth "null" rfl (by decide) (by decide) fun rest => rfl
  | bool value =>
      cases hwrite
      cases value with
      | true => exact readsAs_word depth "true" rfl (by decide) (by decide) fun rest => rfl
      | false => exact readsAs_word depth "false" rfl (by decide) (by decide) fun rest => rfl
  | int value =>
      obtain ⟨hshort, rfl⟩ := writeChars_int_eq_ok_iff.mp hwrite
      exact readsAs_int depth hshort
  | double value =>
      cases hwrite
      exact readsAs_double depth value
  | string value =>
      cases hwrite
      exact readsAs_text depth style.ascii value
  | @list items _ ih =>
      rw [Json.depth] at hdepth
      obtain ⟨depth, rfl⟩ : ∃ n, depth = n + 1 := ⟨depth - 1, by omega⟩
      obtain ⟨written, hitems, rfl⟩ := writeChars_list_eq_ok_iff.mp hwrite
      refine readsAs_list hfaithful level (forall₂_of_writeItems hitems fun item hmem part hpart => ?_)
      have hle := depth_le_depthOfItems hmem
      exact ih item hmem (by omega) hpart
  | @object members hnames _ ih =>
      rw [Json.depth] at hdepth
      obtain ⟨depth, rfl⟩ : ∃ n, depth = n + 1 := ⟨depth - 1, by omega⟩
      obtain ⟨written, hmembers, rfl⟩ := writeChars_object_eq_ok_iff.mp hwrite
      have horder : style.order written = written := by
        rw [Style.order, hfaithful.unsorted, if_neg (by decide)]
      rw [horder]
      refine readsAs_object hfaithful level hnames
        (forall₂_of_writeMembers hmembers fun member hmem part hpart => ?_)
      have hle := depth_le_depthOfMembers hmem
      exact ih member hmem (by omega) hpart

/-- A value that is not nested too deeply is read as it was written, if the names in every object are
distinct. -/
theorem read_of_write {style : Style} (hfaithful : style.IsFaithful) {value : Json}
    (hdistinct : NamesDistinctWithin value) (hdepth : value.depth ≤ depthLimit) {text : String}
    (hwrite : write style value = .ok text) : read text = .ok value := by
  obtain ⟨chars, hchars, rfl⟩ := map_eq_ok_iff.mp hwrite
  have hreads := readsAs_writeChars hfaithful hdistinct hdepth hchars
  have hvalue := hreads.reads (2 * chars.length + 2) [] (by omega) nofun
  have hblanks := hreads.starts.skipBlanks []
  rw [List.append_nil] at hvalue hblanks
  obtain ⟨first, rest, hcons, -, -, hmark⟩ := hreads.starts
  rw [read, String.toList_ofList, readChars]
  · rw [hblanks, hvalue]
    rfl
  · intro tail heq
    rw [hcons] at heq
    exact hmark (List.cons.inj heq).1

theorem isFaithful_line : Style.line.IsFaithful := ⟨nofun, rfl⟩

theorem isFaithful_asciiLine : Style.asciiLine.IsFaithful := ⟨nofun, rfl⟩

end TemplateWorkbench.Json
