import Mathlib.Data.List.Basic
import Mathlib.Data.List.DropRight
import Mathlib.Data.List.GetD
import Mathlib.Data.List.TakeWhile
import Mathlib.Data.Prod.Lex
import Mathlib.Data.Set.Function
import Mathlib.Order.Interval.Set.Defs
import TemplateWorkbench.Text.Lines

/-!
# Lines

Line ends are brought together in two ways that agree, and offsets and places lead to each other.

* `unify_eq_normalize` : two replacements and a single pass unify line ends alike
* `LineIndex.position_ofText` : the place of an offset, by the line feeds before it
* `LineIndex.offsets_bijOn_places` : places follow their offsets, and every place of a text has one
-/

namespace TemplateWorkbench.Text

/-!
## Line ends, brought together

Two replacements over the whole text and one pass from left to right unify line ends in the same way:
a CR that an LF follows is gone after the first replacement, so the second one meets exactly the CRs
that the single pass takes on their own.  A unified text holds no CR, and unifying it again, or any
text that never had one, changes nothing.
-/

/-! ### The two ways of unifying -/

/-- The single pass and the two replacements are the same function. -/
theorem unify_eq_normalize (text : List Char) : unify text = normalize text := by
  fun_induction unify text with
  | case1 rest ih => simp [normalize, replaceCrLf, replaceCr, ih]
  | case2 rest hnext ih =>
      have hkept : replaceCrLf ('\r' :: rest) = '\r' :: replaceCrLf rest := by
        rw [replaceCrLf]
        exact fun rest' _ h => hnext rest' h
      simp [normalize, hkept, replaceCr, ih]
  | case3 c rest _ hcr ih =>
      have hne : c ≠ '\r' := hcr
      have hkept : replaceCrLf (c :: rest) = c :: replaceCrLf rest := by
        rw [replaceCrLf]
        exact fun rest' h _ => hcr h
      simp [normalize, hkept, replaceCr, ih, hne]
  | case4 => rfl

theorem cr_notMem_normalize (text : List Char) : '\r' ∉ normalize text := by
  intro hmem
  obtain ⟨c, -, hc⟩ := List.mem_map.mp hmem
  split at hc
  · exact absurd hc (by decide)
  · next hne => exact hne hc

theorem cr_notMem_unify (text : List Char) : '\r' ∉ unify text := by
  rw [unify_eq_normalize]
  exact cr_notMem_normalize text

/-- A text without a CR is unified already. -/
theorem unify_eq_self {text : List Char} (hcr : '\r' ∉ text) : unify text = text := by
  induction text with
  | nil => rfl
  | cons c rest ih =>
      rw [List.mem_cons, not_or] at hcr
      rw [unify, ih hcr.2]
      · exact fun rest' h _ => hcr.1 h.symm
      · exact fun h => hcr.1 h.symm

/-- A character that is no LF goes into no line end with what is before it. -/
theorem unify_append_cons {c : Char} (hc : c ≠ '\n') (text rest : List Char) :
    unify (text ++ c :: rest) = unify text ++ unify (c :: rest) := by
  fun_induction unify text with
  | case1 text ih => simp [unify, ih]
  | case2 text hnext ih =>
      rw [List.cons_append, unify, ih, List.cons_append]
      -- The CR still stands alone: what follows it in the longer text is no LF either.
      intro more hmore
      cases text with
      | nil => exact hc (List.cons.inj hmore).1
      | cons d others =>
          rw [List.cons_append] at hmore
          obtain ⟨rfl, -⟩ := List.cons.inj hmore
          exact hnext others rfl
  | case3 d text _ hcr ih =>
      rw [List.cons_append, unify, ih, List.cons_append]
      · exact fun _ h _ => hcr h
      · exact hcr
  | case4 => rfl

theorem unify_append {front : List Char} (hcr : '\r' ∉ front) (rest : List Char) :
    unify (front ++ rest) = front ++ unify rest := by
  induction front with
  | nil => rfl
  | cons c front ih =>
      rw [List.mem_cons, not_or] at hcr
      rw [List.cons_append, unify, ih hcr.2, List.cons_append]
      · exact fun _ h _ => hcr.1 h.symm
      · exact fun h => hcr.1 h.symm

/-! ### One final line feed -/

/-- What is dropped at the end of a text is one line feed or nothing. -/
theorem exists_eq_dropFinalNewline_append (text : List Char) :
    ∃ ending, (ending = [] ∨ ending = ['\n']) ∧ text = dropFinalNewline text ++ ending := by
  fun_induction dropFinalNewline text with
  | case1 => exact ⟨[], Or.inl rfl, rfl⟩
  | case2 => exact ⟨['\n'], Or.inr rfl, rfl⟩
  | case3 c rest _ ih =>
      obtain ⟨ending, hending, hrest⟩ := ih
      exact ⟨ending, hending, congrArg (c :: ·) hrest⟩

/-- Only the last character of a text can be dropped. -/
theorem dropFinalNewline_append_cons {c : Char} (hc : c ≠ '\n') (text rest : List Char) :
    dropFinalNewline (text ++ c :: rest) = text ++ c :: dropFinalNewline rest := by
  induction text with
  | nil =>
      rw [List.nil_append, dropFinalNewline]
      · rfl
      · exact fun h _ => hc h
  | cons d text ih =>
      rw [List.cons_append, dropFinalNewline, ih]
      · rfl
      · exact fun _ h => absurd h (by simp)

theorem dropFinalNewline_subset (text : List Char) : dropFinalNewline text ⊆ text := by
  intro c hc
  obtain ⟨ending, -, heq⟩ := exists_eq_dropFinalNewline_append text
  rw [heq]
  exact List.mem_append_left _ hc

/-!
## Places and offsets

The starts of lines ascend, so those up to an offset are the starts in the text before it: the start of
the text and one for every line feed.  The last of them is where the line that is still open at the offset
begins.  Hence the line of an offset counts the line feeds before it, its column the characters since the
last of them, and a place leads back to the offset that it was made from.
-/

/-! ### Lines -/

/-- A text is a single line, or its first line ends in a line feed. -/
theorem exists_first_line (text : List Char) :
    '\n' ∉ text ∨ ∃ line rest, '\n' ∉ line ∧ text = line ++ '\n' :: rest := by
  by_cases hmem : '\n' ∈ text
  · obtain ⟨line, rest, heq, hline⟩ := List.eq_append_cons_of_mem hmem
    exact .inr ⟨line, rest, hline, heq⟩
  · exact .inl hmem

/-- Induction over the lines of a text: what holds of a single line, and goes on from what follows a line to
the line in front of it, holds of every text. -/
@[elab_as_elim] theorem induction_on_lines {motive : List Char → Prop} (text : List Char)
    (single : ∀ line, '\n' ∉ line → motive line)
    (more : ∀ line rest, '\n' ∉ line → motive rest → motive (line ++ '\n' :: rest)) : motive text := by
  induction hlength : text.length using Nat.strong_induction_on generalizing text with
  | _ length ih =>
    rcases exists_first_line text with hline | ⟨line, rest, hline, rfl⟩
    · exact single text hline
    · have hshorter : rest.length < length := by
        rw [← hlength, List.length_append, List.length_cons]
        omega
      exact more line rest hline (ih rest.length hshorter rest rfl)

/-- The characters of a text since its last line feed. -/
def openLine (text : List Char) : List Char := text.rtakeWhile (· != '\n')

theorem openLine_eq_self {line : List Char} (hline : '\n' ∉ line) : openLine line = line := by
  rw [openLine, List.rtakeWhile_eq_self_iff]
  intro c hc
  have hne : c ≠ '\n' := by
    rintro rfl
    exact hline hc
  simpa using hne

theorem openLine_append (line rest : List Char) : openLine (line ++ '\n' :: rest) = openLine rest := by
  induction rest using List.reverseRecOn with
  | nil => exact List.rtakeWhile_concat_neg _ _ _ (by decide)
  | append_singleton rest c ih =>
      rw [openLine, openLine] at ih ⊢
      rw [← List.cons_append, ← List.append_assoc, List.rtakeWhile_concat, List.rtakeWhile_concat, ih]

/-! ### Places -/

/-- A place as a pair, compared by line and then by column. -/
def Position.order (place : Position) : ℕ ×ₗ ℕ := toLex (place.line, place.column)

/-- A place of a text: a column of one of its lines, the one behind the last character included. -/
structure IsPlace (text : List Char) (place : Position) : Prop where
  line_pos : 1 ≤ place.line
  column_pos : 1 ≤ place.column
  inLine : ∃ line ∈ (text.splitOn '\n')[place.line - 1]?, place.column ≤ line.length + 1

namespace LineIndex

/-- The offset that a line and a column lead to. -/
def offsetAt (index : LineIndex) (line column : Int) : Nat :=
  index.starts.getD (line.toNat - 1) 0 + (column.toNat - 1)

/-! ### Starts of lines -/

theorem startsFrom_append (offset : Nat) (front rest : List Char) :
    startsFrom offset (front ++ rest) =
      startsFrom offset front ++ startsFrom (offset + front.length) rest := by
  induction front generalizing offset with
  | nil => rfl
  | cons c front ih =>
      have hlength : offset + (c :: front).length = offset + 1 + front.length := by
        rw [List.length_cons]
        omega
      rw [List.cons_append, startsFrom, startsFrom, ih, hlength]
      split <;> rfl

theorem length_startsFrom (offset : Nat) (text : List Char) :
    (startsFrom offset text).length = text.count '\n' := by
  induction text generalizing offset with
  | nil => rfl
  | cons c rest ih =>
      rw [startsFrom, List.count_cons]
      split
      · next hc => simp [hc, ih]
      · next hc => simp [hc, ih]

/-- Lines start behind the offset at which a text begins, and not behind its end. -/
theorem lt_and_le_of_mem_startsFrom {offset start : Nat} {text : List Char}
    (hmem : start ∈ startsFrom offset text) : offset < start ∧ start ≤ offset + text.length := by
  induction text generalizing offset with
  | nil => simp [startsFrom] at hmem
  | cons c rest ih =>
      have hbehind (hrest : start ∈ startsFrom (offset + 1) rest) :
          offset < start ∧ start ≤ offset + (c :: rest).length := by
        obtain ⟨hlt, hle⟩ := ih hrest
        rw [List.length_cons]
        omega
      rw [startsFrom] at hmem
      split at hmem
      · rcases List.mem_cons.mp hmem with rfl | hrest
        · rw [List.length_cons]
          omega
        · exact hbehind hrest
      · exact hbehind hmem

/-! ### Starts up to an offset -/

/-- The starts in a text are those before an offset and those behind it. -/
theorem starts_ofText_eq (text : List Char) (offset : Nat) :
    (ofText text).starts =
      (ofText (text.take offset)).starts ++ startsFrom (text.take offset).length (text.drop offset) := by
  have hsplit := startsFrom_append 0 (text.take offset) (text.drop offset)
  rw [List.take_append_drop, Nat.zero_add] at hsplit
  rw [ofText, hsplit]
  rfl

theorem le_of_mem_starts_take {text : List Char} {offset start : Nat}
    (hmem : start ∈ (ofText (text.take offset)).starts) : start ≤ offset := by
  rcases List.mem_cons.mp hmem with rfl | hstart
  · exact Nat.zero_le offset
  · have hle := (lt_and_le_of_mem_startsFrom hstart).2
    rw [Nat.zero_add] at hle
    exact hle.trans (List.length_take_le offset text)

theorem lt_of_mem_startsFrom_drop {text : List Char} {offset start : Nat}
    (hmem : start ∈ startsFrom (text.take offset).length (text.drop offset)) : offset < start := by
  rcases Nat.le_total offset text.length with hle | hge
  · rw [List.length_take_of_le hle] at hmem
    exact (lt_and_le_of_mem_startsFrom hmem).1
  · rw [List.drop_of_length_le hge] at hmem
    cases hmem

/-- The starts up to an offset are those in the text before it. -/
theorem startsUpTo_ofText (text : List Char) (offset : Nat) :
    (ofText text).startsUpTo offset = (ofText (text.take offset)).starts := by
  rw [startsUpTo, starts_ofText_eq text offset, List.takeWhile_append_of_pos]
  · rw [List.takeWhile_eq_nil_iff.mpr, List.append_nil]
    intro hlength
    have hlt := lt_of_mem_startsFrom_drop (List.getElem_mem hlength)
    simpa using hlt
  · intro start hstart
    simpa using le_of_mem_starts_take hstart

/-- The last start in a text is where its open line begins. -/
theorem getLastD_starts_add (text : List Char) :
    (ofText text).starts.getLastD 0 + (openLine text).length = text.length := by
  induction text using List.reverseRecOn with
  | nil => rfl
  | append_singleton text c ih =>
      have hstarts : (ofText (text ++ [c])).starts =
          (ofText text).starts ++ if c = '\n' then [text.length + 1] else [] := by
        rw [ofText, startsFrom_append, Nat.zero_add]
        rfl
      rw [openLine, List.rtakeWhile_concat, hstarts, List.length_append]
      by_cases hc : c = '\n'
      · simp [hc]
      · simp only [hc, if_false, List.append_nil, bne_iff_ne, ne_eq, not_false_eq_true, if_true,
          List.length_append]
        rw [← Nat.add_assoc]
        exact congrArg (· + 1) ih

/-! ### Lines and columns -/

/-- The line of an offset is one more than the number of line feeds before it. -/
theorem line_position (text : List Char) (offset : Nat) :
    ((ofText text).position offset).line = (text.take offset).count '\n' + 1 := by
  simp only [position, startsUpTo_ofText]
  rw [ofText, List.length_cons, length_startsFrom]

/-- The place of an offset: its line counts the line feeds before it, and its column the characters since
the last of them. -/
theorem position_ofText {text : List Char} {offset : Nat} (hle : offset ≤ text.length) :
    (ofText text).position offset =
      ⟨1 + (text.take offset).count '\n', 1 + (openLine (text.take offset)).length⟩ := by
  have hline := line_position text offset
  have hadd := getLastD_starts_add (text.take offset)
  rw [List.length_take_of_le hle, ← startsUpTo_ofText] at hadd
  rw [position] at hline ⊢
  simp only at hline
  rw [hline, Nat.add_comm 1]
  congr 1
  omega

/-- The last start up to an offset is the entry of the index under the offset's line. -/
theorem getD_starts_line (text : List Char) (offset : Nat) :
    (ofText text).starts.getD (((ofText text).position offset).line - 1) 0 =
      ((ofText text).startsUpTo offset).getLastD 0 := by
  obtain ⟨first, others, hcons⟩ : ∃ first others,
      (ofText text).startsUpTo offset = first :: others := ⟨_, _, startsUpTo_ofText text offset⟩
  -- The starts up to the offset come first, so an index into them is one into all starts.
  have hstarts : first :: others <+: (ofText text).starts := by
    rw [← hcons]
    exact List.takeWhile_prefix _
  obtain ⟨more, hmore⟩ := hstarts
  rw [← hmore, position, hcons]
  simp only [List.length_cons, Nat.add_sub_cancel]
  rw [List.getD_append _ _ _ _ (by simp), List.getLastD_cons, List.getD_eq_getElem _ _ (by simp)]
  rcases List.eq_nil_or_concat others with rfl | ⟨init, last, rfl⟩
  · rfl
  · simp

/-- The last start up to an offset is none beyond it. -/
theorem getLastD_startsUpTo_le (index : LineIndex) (offset : Nat) :
    (index.startsUpTo offset).getLastD 0 ≤ offset := by
  rcases List.eq_nil_or_concat (index.startsUpTo offset) with hnil | ⟨init, last, hconcat⟩
  · simp [hnil]
  · have hmem : last ∈ index.startsUpTo offset := by simp [hconcat]
    have hle := List.mem_takeWhile_imp hmem
    simpa [hconcat] using hle

/-- A place leads back to its offset. -/
theorem offsetAt_position (text : List Char) (offset : Nat) :
    (ofText text).offsetAt ((ofText text).position offset).line
      ((ofText text).position offset).column = offset := by
  have hle := getLastD_startsUpTo_le (ofText text) offset
  rw [offsetAt, Int.toNat_natCast, Int.toNat_natCast, getD_starts_line]
  simp only [position]
  omega

/-! ### The order of places -/

/-- Places come one after another as their offsets do. -/
theorem strictMono_order_position (text : List Char) :
    StrictMono fun offset => ((ofText text).position offset).order := by
  intro first second hlt
  simp only [Position.order, Prod.Lex.toLex_lt_toLex]
  have hsublist : (text.take first).Sublist (text.take second) :=
    (List.take_prefix_take_left hlt.le).sublist
  have hle : ((ofText text).position first).line ≤ ((ofText text).position second).line := by
    rw [line_position, line_position]
    exact Nat.add_le_add_right (hsublist.count_le _) 1
  rcases hle.lt_or_eq with hline | hline
  · exact .inl hline
  · -- On one line both columns count from the same start.
    refine .inr ⟨hline, ?_⟩
    have hfirst := getD_starts_line text first
    have hsecond := getD_starts_line text second
    rw [hline] at hfirst
    have hstart := getLastD_startsUpTo_le (ofText text) first
    simp only [position]
    omega

theorem position_injective (text : List Char) : Function.Injective (ofText text).position := by
  intro first second hsame
  exact (strictMono_order_position text).injective (congrArg Position.order hsame)

/-! ### Searching by halves -/

/-- How many of ascending numbers are at most a bound, if there are at least `low` and at most `high` of
them: the middle one tells in which half the answer lies. -/
def countUpTo (numbers : List Nat) (bound low high : Nat) : Nat :=
  if low < high then
    let middle := (low + high) / 2
    if bound < numbers.getD middle 0 then countUpTo numbers bound low middle
    else countUpTo numbers bound (middle + 1) high
  else low
termination_by high - low

/-- The search ends where the numbers up to the bound end. -/
theorem countUpTo_append {upTo beyond : List Nat} {bound low high : Nat}
    (hupTo : ∀ number ∈ upTo, number ≤ bound) (hbeyond : ∀ number ∈ beyond, bound < number)
    (hlow : low ≤ upTo.length) (hhigh : upTo.length ≤ high) (hle : high ≤ (upTo ++ beyond).length) :
    countUpTo (upTo ++ beyond) bound low high = upTo.length := by
  fun_induction countUpTo (upTo ++ beyond) bound low high with
  | case1 low high hlt middle hless ih =>
      refine ih hlow ?_ (by omega)
      by_contra hmiddle
      rw [List.getD_append _ _ _ _ (by omega), List.getD_eq_getElem _ _ (by omega)] at hless
      exact (hupTo _ (List.getElem_mem _)).not_gt hless
  | case2 low high hlt middle hless ih =>
      refine ih ?_ hhigh hle
      by_contra hmiddle
      rw [List.length_append] at hle
      rw [List.getD_append_right _ _ _ _ (by omega), List.getD_eq_getElem _ _ (by omega)] at hless
      exact hless (hbeyond _ (List.getElem_mem _))
  | case3 low high hlt => omega

/-- A search by halves in the starts finds the line. -/
theorem countUpTo_starts (text : List Char) (offset : Nat) :
    countUpTo (ofText text).starts offset 0 (ofText text).starts.length =
      ((ofText text).position offset).line := by
  have hsplit := starts_ofText_eq text offset
  rw [position, startsUpTo_ofText, hsplit]
  exact countUpTo_append (fun start => le_of_mem_starts_take) (fun start => lt_of_mem_startsFrom_drop)
    (Nat.zero_le _) (by simp) le_rfl

/-! ### All places -/

section FirstLine

variable {line rest : List Char} {offset : Nat}

/-- Offsets in the first line are columns, -/
theorem position_firstLine (hline : '\n' ∉ line) (hle : offset ≤ line.length) (rest : List Char) :
    (ofText (line ++ rest)).position offset = ⟨1, 1 + offset⟩ := by
  have hfront : '\n' ∉ line.take offset := fun hmem => hline (List.mem_of_mem_take hmem)
  rw [position_ofText (by rw [List.length_append]; omega), List.take_append_of_le_length hle,
    List.count_eq_zero_of_not_mem hfront, openLine_eq_self hfront, List.length_take_of_le hle]

/-- and the offsets behind it are places of the other lines. -/
theorem position_otherLines (hline : '\n' ∉ line) (hle : offset ≤ rest.length) :
    (ofText (line ++ '\n' :: rest)).position (line.length + 1 + offset) =
      ⟨1 + ((ofText rest).position offset).line, ((ofText rest).position offset).column⟩ := by
  have htake : (line ++ '\n' :: rest).take (line.length + 1 + offset) = line ++ '\n' :: rest.take offset := by
    rw [Nat.add_assoc, List.take_length_add_append, Nat.add_comm 1, List.take_succ_cons]
  rw [position_ofText (by simp; omega), position_ofText hle, htake, openLine_append, List.count_append,
    List.count_eq_zero_of_not_mem hline, List.count_cons_self, Nat.zero_add]
  rw [Nat.add_comm (List.count _ _) 1]

/-- The places of a single line, -/
theorem isPlace_line_iff (hline : '\n' ∉ line) {place : Position} :
    IsPlace line place ↔ ∃ offset ≤ line.length, place = ⟨1, 1 + offset⟩ := by
  have hpieces : line.splitOn '\n' = [line] := List.splitOn_eq_singleton hline
  obtain ⟨number, column⟩ := place
  constructor
  · rintro ⟨hlinePos, hcolumnPos, found, hfound, hcolumn⟩
    rw [hpieces] at hfound
    simp only [Option.mem_def, List.getElem?_singleton, Option.ite_none_right_eq_some] at hfound
    obtain ⟨hzero, hfound⟩ := hfound
    cases hfound
    simp only at hlinePos hcolumnPos hcolumn
    exact ⟨column - 1, by omega, by congr 1 <;> omega⟩
  · rintro ⟨offset, hle, hplace⟩
    cases hplace
    exact ⟨le_rfl, Nat.le_add_right _ _, line, by rw [hpieces]; rfl, by simp only; omega⟩

/-- and those of a text: the places of its first line and, further down, of what follows this line. -/
theorem isPlace_append_iff (hline : '\n' ∉ line) {place : Position} :
    IsPlace (line ++ '\n' :: rest) place ↔
      (∃ offset ≤ line.length, place = ⟨1, 1 + offset⟩) ∨
        ∃ other, IsPlace rest other ∧ place = ⟨1 + other.line, other.column⟩ := by
  have hpieces : (line ++ '\n' :: rest).splitOn '\n' = line :: rest.splitOn '\n' :=
    List.splitOn_append_cons_self_of_not_mem hline rest
  obtain ⟨number, column⟩ := place
  -- The first line keeps its places, and those of the others are one line further down.
  constructor
  · rintro ⟨hlinePos, hcolumnPos, found, hfound, hcolumn⟩
    obtain ⟨number, rfl⟩ : ∃ n, number = n + 1 := ⟨number - 1, (Nat.sub_add_cancel hlinePos).symm⟩
    rw [hpieces, Nat.add_sub_cancel] at hfound
    simp only at hcolumnPos hcolumn
    cases number with
    | zero =>
        cases hfound
        exact .inl ⟨column - 1, by omega, by congr 1; omega⟩
    | succ number =>
        rw [List.getElem?_cons_succ] at hfound
        have hother : IsPlace rest ⟨number + 1, column⟩ :=
          ⟨Nat.le_add_left _ _, hcolumnPos, found, hfound, hcolumn⟩
        exact .inr ⟨_, hother, by rw [Nat.add_comm 1]⟩
  · rintro (⟨offset, hle, hplace⟩ | ⟨⟨number, column⟩, hother, hplace⟩)
    · cases hplace
      exact ⟨le_rfl, Nat.le_add_right _ _, line, by rw [hpieces]; rfl, by simp only; omega⟩
    · cases hplace
      obtain ⟨hlinePos, hcolumnPos, found, hfound, hcolumn⟩ := hother
      refine ⟨Nat.le_add_right _ _, hcolumnPos, found, ?_, hcolumn⟩
      obtain ⟨number, rfl⟩ : ∃ n, number = n + 1 := ⟨number - 1, (Nat.sub_add_cancel hlinePos).symm⟩
      rw [hpieces, Nat.add_sub_cancel_left, List.getElem?_cons_succ]
      exact hfound

end FirstLine

/-- The places of a text are the places of its offsets, the one at its end included. -/
theorem isPlace_iff {text : List Char} {place : Position} :
    IsPlace text place ↔ ∃ offset ≤ text.length, (ofText text).position offset = place := by
  induction text using induction_on_lines generalizing place with
  | single line hline =>
      have hfirst {offset : Nat} (hle : offset ≤ line.length) :
          (ofText line).position offset = ⟨1, 1 + offset⟩ := by
        simpa using position_firstLine hline hle []
      rw [isPlace_line_iff hline]
      constructor
      · rintro ⟨offset, hle, rfl⟩
        exact ⟨offset, hle, hfirst hle⟩
      · rintro ⟨offset, hle, rfl⟩
        exact ⟨offset, hle, hfirst hle⟩
  | more line rest hline ih =>
      have hlength : (line ++ '\n' :: rest).length = line.length + 1 + rest.length := by
        rw [List.length_append, List.length_cons]
        omega
      rw [isPlace_append_iff hline]
      constructor
      · rintro (⟨offset, hle, rfl⟩ | ⟨other, hother, rfl⟩)
        · exact ⟨offset, by omega, position_firstLine hline hle _⟩
        · obtain ⟨offset, hle, rfl⟩ := ih.mp hother
          exact ⟨line.length + 1 + offset, by omega, position_otherLines hline hle⟩
      · rintro ⟨offset, hle, rfl⟩
        rcases Nat.lt_or_ge line.length offset with hlt | hge
        · obtain ⟨behind, rfl⟩ : ∃ n, offset = line.length + 1 + n := ⟨offset - line.length - 1, by omega⟩
          have hbehind : behind ≤ rest.length := by omega
          exact .inr ⟨_, ih.mpr ⟨behind, hbehind, rfl⟩, position_otherLines hline hbehind⟩
        · exact .inl ⟨offset, hge, position_firstLine hline hge _⟩

end LineIndex

/-! ### Spans -/

namespace Span

/-- The offset at which a span begins. -/
def startOffset (index : LineIndex) (span : Span) : Nat :=
  index.offsetAt span.startLine span.startColumn

/-- The offset just after a span. -/
def stopOffset (index : LineIndex) (span : Span) : Nat :=
  index.offsetAt span.endLine span.endColumn

/-- What a span cuts out of a text. -/
def cutOut (text : List Char) (span : Span) : List Char :=
  let index := LineIndex.ofText text
  (text.take (span.stopOffset index)).drop (span.startOffset index)

@[simp] theorem startOffset_span (text : List Char) (start stop : Nat) :
    ((LineIndex.ofText text).span start stop).startOffset (LineIndex.ofText text) = start :=
  LineIndex.offsetAt_position text start

@[simp] theorem stopOffset_span (text : List Char) (start stop : Nat) :
    ((LineIndex.ofText text).span start stop).stopOffset (LineIndex.ofText text) = stop :=
  LineIndex.offsetAt_position text stop

theorem startLine_span (text : List Char) (start stop : Nat) :
    ((LineIndex.ofText text).span start stop).startLine = (text.take start).count '\n' + 1 := by
  have hline := LineIndex.line_position text start
  simp only [LineIndex.span]
  omega

/-- Where a span begins, as a pair compared by line and then by column, -/
def first (span : Span) : ℤ ×ₗ ℤ := toLex (span.startLine, span.startColumn)

/-- and where it ends. -/
def last (span : Span) : ℤ ×ₗ ℤ := toLex (span.endLine, span.endColumn)

theorem first_le_last_span (text : List Char) {start stop : Nat} (hle : start ≤ stop) :
    ((LineIndex.ofText text).span start stop).first ≤ ((LineIndex.ofText text).span start stop).last := by
  have horder := (LineIndex.strictMono_order_position text).monotone hle
  simp only [Position.order, Prod.Lex.toLex_le_toLex] at horder
  simp only [first, last, LineIndex.span, Prod.Lex.toLex_le_toLex]
  omega

end Span

/-! ### Offsets and places -/

/-- Offsets and places correspond.  The line of an offset counts the line feeds before it and is found in the
starts by halves, and its column counts the characters since the last line feed; places come one after
another as their offsets do, and every place of a text belongs to one of its offsets; a span begins no later
than it ends, and tells the offsets that it was made from. -/
theorem LineIndex.offsets_bijOn_places (text : List Char) :
    (∀ offset ≤ text.length, (ofText text).position offset =
      ⟨1 + (text.take offset).count '\n', 1 + (openLine (text.take offset)).length⟩) ∧
    (∀ offset, countUpTo (ofText text).starts offset 0 (ofText text).starts.length =
      ((ofText text).position offset).line) ∧
    (StrictMono fun offset => ((ofText text).position offset).order) ∧
    Set.BijOn (ofText text).position (Set.Iic text.length) {place | IsPlace text place} ∧
    (∀ start stop, start ≤ stop →
      ((ofText text).span start stop).first ≤ ((ofText text).span start stop).last) ∧
    Function.Injective fun offsets : ℕ × ℕ => (ofText text).span offsets.1 offsets.2 := by
  refine ⟨fun offset => position_ofText, countUpTo_starts text, strictMono_order_position text,
    ⟨?_, (position_injective text).injOn, ?_⟩, fun start stop => Span.first_le_last_span text, ?_⟩
  · exact fun offset hoffset => isPlace_iff.mpr ⟨offset, hoffset, rfl⟩
  · exact fun place hplace => isPlace_iff.mp hplace
  · rintro ⟨start, stop⟩ ⟨otherStart, otherStop⟩ hsame
    have hstart := congrArg (Span.startOffset (ofText text)) hsame
    have hstop := congrArg (Span.stopOffset (ofText text)) hsame
    simp only [Span.startOffset_span, Span.stopOffset_span] at hstart hstop
    rw [hstart, hstop]

/-- Behind an empty line, and behind a line feed at the end. -/
theorem LineIndex.offsets_bijOn_places_emptyLine :
    3 ≤ "a\n\nb\n".toList.length ∧ (ofText "a\n\nb\n".toList).position 3 = ⟨3, 1⟩ ∧
      5 ≤ "a\n\nb\n".toList.length ∧ (ofText "a\n\nb\n".toList).position 5 = ⟨4, 1⟩ := by
  refine ⟨by decide, ?_, by decide, ?_⟩
  · exact (offsets_bijOn_places "a\n\nb\n".toList).1 3 (by decide)
  · exact (offsets_bijOn_places "a\n\nb\n".toList).1 5 (by decide)

end TemplateWorkbench.Text
