import Mathlib.Data.List.Basic
import Mathlib.Data.List.Infix
import Mathlib.Data.List.TakeWhile
import TemplateWorkbench.Template.Lexer

/-!
# What the lexer's matchers take

Every matcher of the lexer cuts what it found off the front of the text that it was given.  This file
proves that of each of them, and of the marks whose text has no meaning for the grammar also what
they look like.
-/

namespace TemplateWorkbench.Template.Lexer

/-! ### Blanks and signs -/

theorem spanBlanks_eq (text : List Char) :
    spanBlanks text = (text.takeWhile Unicode.isBlank, text.dropWhile Unicode.isBlank) :=
  List.span_eq_takeWhile_dropWhile Unicode.isBlank text

theorem append_of_spanBlanks {text blanks rest : List Char}
    (hspan : spanBlanks text = (blanks, rest)) :
    text = blanks ++ rest ∧ ∀ c ∈ blanks, Unicode.isBlank c = true := by
  rw [spanBlanks_eq, Prod.mk.injEq] at hspan
  obtain ⟨rfl, rfl⟩ := hspan
  exact ⟨List.takeWhile_append_dropWhile.symm, fun c hc => List.mem_takeWhile_imp hc⟩

/-- What may stand for a sign: nothing, a minus or a plus. -/
def IsSign (sign : List Char) : Prop := sign = [] ∨ sign = ['-'] ∨ sign = ['+']

theorem append_of_spanSign {text sign rest : List Char} (hspan : spanSign text = (sign, rest)) :
    text = sign ++ rest ∧ IsSign sign := by
  unfold spanSign at hspan
  split at hspan <;> simp only [Prod.mk.injEq] at hspan <;> obtain ⟨rfl, rfl⟩ := hspan
  · exact ⟨rfl, .inr (.inl rfl)⟩
  · exact ⟨rfl, .inr (.inr rfl)⟩
  · exact ⟨rfl, .inl rfl⟩

theorem append_of_after? {front text rest : List Char} (hafter : after? front text = some rest) :
    text = front ++ rest := by
  unfold after? at hafter
  split at hafter
  · next hfront =>
      obtain ⟨tail, rfl⟩ := List.isPrefixOf_iff_prefix.mp hfront
      simpa using hafter
  · cases hafter

/-- The text without its trailing blanks, and the blanks. -/
theorem exists_stripBefore_append (sign text : List Char) :
    ∃ blanks, text = stripBefore sign text ++ blanks ∧
      ∀ c ∈ blanks, Unicode.isBlank c = true := by
  unfold stripBefore
  split
  · refine ⟨(text.reverse.takeWhile Unicode.isBlank).reverse, ?_, ?_⟩
    · have hsplit := List.takeWhile_append_dropWhile (p := Unicode.isBlank) (l := text.reverse)
      have hreverse := congrArg List.reverse hsplit
      rw [List.reverse_append, List.reverse_reverse] at hreverse
      exact hreverse.symm
    · intro c hc
      exact List.mem_takeWhile_imp (List.mem_reverse.mp hc)
  · exact ⟨[], by simp, by simp⟩

/-! ### Closings -/

/-- A closing with the given mark: a sign, the mark, and blanks. -/
def IsClosing (mark close : List Char) : Prop :=
  ∃ sign blanks, IsSign sign ∧ (∀ c ∈ blanks, Unicode.isBlank c = true) ∧
    close = sign ++ mark ++ blanks

theorem isClosing_mark (mark : List Char) : IsClosing mark mark :=
  ⟨[], [], .inl rfl, by simp, by simp⟩

theorem isClosing_plus (mark : List Char) : IsClosing mark ('+' :: mark) :=
  ⟨['+'], [], .inr (.inr rfl), by simp, by simp⟩

/-- A closing with a minus takes the blanks after it. -/
theorem closing_of_minus (mark text : List Char) :
    '-' :: mark ++ text = '-' :: mark ++ (spanBlanks text).1 ++ (spanBlanks text).2 ∧
      IsClosing mark ('-' :: mark ++ (spanBlanks text).1) := by
  rcases hspan : spanBlanks text with ⟨blanks, rest⟩
  obtain ⟨rfl, hblank⟩ := append_of_spanBlanks hspan
  exact ⟨by simp, ['-'], blanks, .inr (.inl rfl), hblank, rfl⟩

theorem closing_of_closeBlock? {text close rest : List Char}
    (hclose : closeBlock? text = some (close, rest)) :
    text = close ++ rest ∧ IsClosing ['%', '}'] close := by
  unfold closeBlock? at hclose
  split at hclose
  · cases hclose
    exact ⟨rfl, isClosing_mark _⟩
  · cases hclose
    exact ⟨rfl, isClosing_plus _⟩
  · next tail =>
      cases hclose
      exact closing_of_minus ['%', '}'] tail
  · cases hclose

theorem closing_of_closeComment? {text close rest : List Char}
    (hclose : closeComment? text = some (close, rest)) :
    text = close ++ rest ∧ IsClosing ['#', '}'] close := by
  unfold closeComment? at hclose
  split at hclose
  · cases hclose
    exact ⟨rfl, isClosing_mark _⟩
  · cases hclose
    exact ⟨rfl, isClosing_plus _⟩
  · next tail =>
      cases hclose
      exact closing_of_minus ['#', '}'] tail
  · cases hclose

theorem closing_of_closeVariable? {text close rest : List Char}
    (hclose : closeVariable? text = some (close, rest)) :
    text = close ++ rest ∧ IsClosing ['}', '}'] close := by
  unfold closeVariable? at hclose
  split at hclose
  · cases hclose
    exact ⟨rfl, isClosing_mark _⟩
  · next tail =>
      cases hclose
      exact closing_of_minus ['}', '}'] tail
  · cases hclose

theorem IsClosing.ne_nil {mark close : List Char} (hclose : IsClosing mark close)
    (hmark : mark ≠ []) : close ≠ [] := by
  obtain ⟨sign, blanks, -, -, rfl⟩ := hclose
  simp [hmark]

/-! ### Opening marks -/

/-- A tag that begins or ends raw text. -/
def IsRawTag (tag : List Char) : Prop :=
  ∃ sign before word behind close, IsSign sign ∧ (∀ c ∈ before, Unicode.isBlank c = true) ∧
    (word = "raw".toList ∨ word = "endraw".toList) ∧
    (∀ c ∈ behind, Unicode.isBlank c = true) ∧ IsClosing ['%', '}'] close ∧
    tag = ['{', '%'] ++ sign ++ before ++ word ++ behind ++ close

theorem IsRawTag.ne_nil {tag : List Char} (htag : IsRawTag tag) : tag ≠ [] := by
  obtain ⟨sign, before, word, behind, close, -, -, -, -, -, rfl⟩ := htag
  simp

theorem append_of_rawTag? {text tag rest : List Char} (htag : rawTag? text = some (tag, rest)) :
    text = tag ++ rest ∧
      ∃ before behind close, (∀ c ∈ before, Unicode.isBlank c = true) ∧
        (∀ c ∈ behind, Unicode.isBlank c = true) ∧ IsClosing ['%', '}'] close ∧
        tag = before ++ "raw".toList ++ behind ++ close := by
  rcases hbefore : spanBlanks text with ⟨before, word⟩
  simp only [rawTag?, hbefore, Option.bind_eq_bind, Option.bind_eq_some_iff] at htag
  obtain ⟨afterWord, hword, htag⟩ := htag
  rcases hbehind : spanBlanks afterWord with ⟨behind, closing⟩
  simp only [hbehind, Option.some.injEq, Prod.exists, Prod.mk.injEq] at htag
  obtain ⟨close, others, hclose, rfl, rfl⟩ := htag
  split at hclose
  · cases hclose
  obtain ⟨rfl, hbeforeBlank⟩ := append_of_spanBlanks hbefore
  obtain rfl := append_of_after? hword
  obtain ⟨rfl, hbehindBlank⟩ := append_of_spanBlanks hbehind
  obtain ⟨rfl, hclosing⟩ := closing_of_closeBlock? hclose
  exact ⟨by simp, before, behind, close, hbeforeBlank, hbehindBlank, hclosing, rfl⟩

/-- What the text of an opening mark looks like. -/
def Opening.Writes : Opening → List Char → Prop
  | .variable, text => ∃ sign, IsSign sign ∧ text = ['{', '{'] ++ sign
  | .block, text => ∃ sign, IsSign sign ∧ text = ['{', '%'] ++ sign
  | .comment, text => ∃ sign, IsSign sign ∧ text = ['{', '#'] ++ sign
  | .raw, text => IsRawTag text

theorem Opening.Writes.ne_nil {opening : Opening} {text : List Char}
    (hwrites : opening.Writes text) : text ≠ [] := by
  match opening, hwrites with
  | .variable, ⟨_, _, htext⟩ => simp [htext]
  | .block, ⟨_, _, htext⟩ => simp [htext]
  | .comment, ⟨_, _, htext⟩ => simp [htext]
  | .raw, htag => exact IsRawTag.ne_nil htag

theorem append_of_openMark? {text : List Char} {mark : Mark} (hmark : openMark? text = some mark) :
    text = mark.text ++ mark.rest ∧ mark.opening.Writes mark.text := by
  unfold openMark? at hmark
  -- A tag, which may be that of a raw part, a comment and a print are told by the second character.
  split at hmark
  · next tail =>
      rcases hspan : spanSign tail with ⟨sign, body⟩
      obtain ⟨rfl, hsign⟩ := append_of_spanSign hspan
      simp only [hspan] at hmark
      split at hmark
      · next tag others htag =>
          obtain ⟨rfl, before, behind, close, hbefore, hbehind, hclose, rfl⟩ :=
            append_of_rawTag? htag
          cases hmark
          refine ⟨by simp, sign, before, _, behind, close, hsign, hbefore, .inl rfl, hbehind,
            hclose, by simp⟩
      · cases hmark
        exact ⟨by simp, sign, hsign, rfl⟩
  · next tail =>
      rcases hspan : spanSign tail with ⟨sign, body⟩
      obtain ⟨rfl, hsign⟩ := append_of_spanSign hspan
      simp only [hspan, Option.some.injEq] at hmark
      subst hmark
      exact ⟨by simp, sign, hsign, rfl⟩
  · next tail =>
      rcases hspan : spanSign tail with ⟨sign, body⟩
      obtain ⟨rfl, hsign⟩ := append_of_spanSign hspan
      simp only [hspan, Option.some.injEq] at hmark
      subst hmark
      exact ⟨by simp, sign, hsign, rfl⟩
  · cases hmark

theorem append_of_endRaw? {text sign tag rest : List Char}
    (hend : endRaw? text = some (sign, tag, rest)) : text = tag ++ rest ∧ IsRawTag tag := by
  unfold endRaw? at hend
  split at hend
  · next tail =>
      rcases hspan : spanSign tail with ⟨sign, body⟩
      obtain ⟨rfl, hsign⟩ := append_of_spanSign hspan
      rcases hbefore : spanBlanks body with ⟨before, word⟩
      simp only [hspan, hbefore, Option.bind_eq_bind, Option.bind_eq_some_iff] at hend
      obtain ⟨afterWord, hword, hend⟩ := hend
      rcases hbehind : spanBlanks afterWord with ⟨behind, closing⟩
      simp only [hbehind, Option.some.injEq, Prod.exists, Prod.mk.injEq] at hend
      obtain ⟨close, others, hclose, rfl, rfl, rfl⟩ := hend
      obtain ⟨rfl, hbeforeBlank⟩ := append_of_spanBlanks hbefore
      obtain rfl := append_of_after? hword
      obtain ⟨rfl, hbehindBlank⟩ := append_of_spanBlanks hbehind
      obtain ⟨rfl, hclosing⟩ := closing_of_closeBlock? hclose
      exact ⟨by simp, sign, before, _, behind, close, hsign, hbeforeBlank, .inr rfl,
        hbehindBlank, hclosing, by simp⟩
  · cases hend

/-! ### Looking for a mark -/

/-- Seeking splits the text before the first place where the matcher succeeds. -/
theorem append_of_seek {α : Type} {match? : List Char → Option α} {text before : List Char}
    {found : α} (hseek : seek match? text = some (before, found)) :
    ∃ tail, text = before ++ tail ∧ match? tail = some found ∧
      ∀ done c later, before = done ++ c :: later → match? (c :: later ++ tail) = none := by
  induction text generalizing before with
  | nil =>
      simp only [seek, Option.map_eq_some_iff, Prod.mk.injEq] at hseek
      obtain ⟨_, hmatch, rfl, rfl⟩ := hseek
      exact ⟨[], rfl, hmatch, by simp⟩
  | cons first rest ih =>
      rw [seek] at hseek
      split at hseek
      · next hmatch =>
          cases hseek
          exact ⟨first :: rest, rfl, hmatch, by simp⟩
      · next hnone =>
          simp only [Option.map_eq_some_iff, Prod.exists, Prod.mk.injEq] at hseek
          obtain ⟨skipped, _, hrest, rfl, rfl⟩ := hseek
          obtain ⟨tail, rfl, hmatch, hearlier⟩ := ih hrest
          refine ⟨tail, rfl, hmatch, ?_⟩
          intro done c later hdone
          cases done with
          | nil =>
              obtain ⟨rfl, rfl⟩ := List.cons.inj hdone
              exact hnone
          | cons _ done => exact hearlier done c later (List.cons.inj hdone).2

/-! ### Literals, names and operators -/

/-- A beginning, and a beginning of what follows it, make a longer beginning. -/
theorem append_prefix_of_prefix_drop {front more text : List Char} (hfront : front <+: text)
    (hmore : more <+: text.drop front.length) : front ++ more <+: text := by
  obtain ⟨rest, rfl⟩ := hfront
  rw [List.drop_left] at hmore
  exact (List.prefix_append_right_inj front).mpr hmore

theorem digitRun_more_isPrefix (isDigit : Char → Bool) (text : List Char) :
    digitRun.more isDigit text <+: text := by
  fun_induction digitRun.more isDigit text <;> simp_all

theorem digitRun_isPrefix (isDigit : Char → Bool) (text : List Char) :
    digitRun isDigit text <+: text := by
  unfold digitRun
  split
  · exact List.nil_prefix
  · split
    · exact (List.prefix_cons_inj _).mpr (digitRun_more_isPrefix isDigit _)
    · exact List.nil_prefix

theorem markedRun_isPrefix (isDigit : Char → Bool) (text : List Char) :
    markedRun isDigit text <+: text := by
  fun_induction markedRun isDigit text <;> simp_all

theorem exponent?_isPrefix {text found : List Char} (hfound : exponent? text = some found) :
    found <+: text := by
  unfold exponent? at hfound
  split at hfound
  · next mark rest =>
      rcases hspan : spanSign rest with ⟨sign, digits⟩
      obtain ⟨rfl, -⟩ := append_of_spanSign hspan
      simp only [hspan, Option.ite_none_right_eq_some, Option.ite_none_left_eq_some,
        Option.some.injEq] at hfound
      obtain ⟨-, -, rfl⟩ := hfound
      rw [List.cons_append, List.prefix_cons_inj, List.prefix_append_right_inj]
      exact digitRun_isPrefix _ _
  · cases hfound

theorem fraction?_isPrefix {text found : List Char} (hfound : fraction? text = some found) :
    found <+: text := by
  unfold fraction? at hfound
  split at hfound
  · simp only [Option.ite_none_left_eq_some, Option.some.injEq] at hfound
    obtain ⟨-, rfl⟩ := hfound
    exact (List.prefix_cons_inj _).mpr (digitRun_isPrefix _ _)
  · cases hfound

theorem getD_isPrefix {text : List Char} {found? : Option (List Char)}
    (hfound : ∀ found, found? = some found → found <+: text) : found?.getD [] <+: text := by
  cases found? with
  | none => exact List.nil_prefix
  | some found => exact hfound found rfl

theorem float?_isPrefix {previous : Char} {text found : List Char}
    (hfound : float? previous text = some found) : found <+: text ∧ found ≠ [] := by
  simp only [float?, Option.ite_none_left_eq_some, Option.some.injEq] at hfound
  obtain ⟨-, hwhole, -, rfl⟩ := hfound
  refine ⟨?_, by simp_all⟩
  -- Digits, a fraction and an exponent, each at the front of what the one before leaves.
  have hfraction := append_prefix_of_prefix_drop (digitRun_isPrefix Unicode.isDigit text)
    (getD_isPrefix fun _ => fraction?_isPrefix)
  refine append_prefix_of_prefix_drop hfraction ?_
  rw [List.length_append, ← List.drop_drop]
  exact getD_isPrefix fun _ => exponent?_isPrefix

theorem markedInteger?_isPrefix {small capital : Char} {isDigit : Char → Bool}
    {text found : List Char} (hfound : markedInteger? small capital isDigit text = some found) :
    found <+: text ∧ found ≠ [] := by
  unfold markedInteger? at hfound
  split at hfound
  · simp only [Option.ite_none_right_eq_some, Option.ite_none_left_eq_some,
      Option.some.injEq] at hfound
    obtain ⟨-, -, rfl⟩ := hfound
    rw [List.prefix_cons_inj, List.prefix_cons_inj]
    exact ⟨markedRun_isPrefix _ _, List.cons_ne_nil _ _⟩
  · cases hfound

theorem plainInteger?_isPrefix {text found : List Char} (hfound : plainInteger? text = some found) :
    found <+: text ∧ found ≠ [] := by
  unfold plainInteger? at hfound
  split at hfound
  · cases hfound
    exact ⟨(List.prefix_cons_inj _).mpr (markedRun_isPrefix _ _), List.cons_ne_nil _ _⟩
  · simp only [Option.ite_none_right_eq_some, Option.some.injEq] at hfound
    obtain ⟨-, rfl⟩ := hfound
    exact ⟨(List.prefix_cons_inj _).mpr (markedRun_isPrefix _ _), List.cons_ne_nil _ _⟩
  · cases hfound

theorem integer?_isPrefix {text found : List Char} (hfound : integer? text = some found) :
    found <+: text ∧ found ≠ [] := by
  simp only [integer?, Option.orElse_eq_orElse, Option.orElse_eq_or, Option.or_eq_some_iff]
    at hfound
  rcases hfound with hbinary | ⟨-, hoctal | ⟨-, hhex | ⟨-, hplain⟩⟩⟩
  · exact markedInteger?_isPrefix hbinary
  · exact markedInteger?_isPrefix hoctal
  · exact markedInteger?_isPrefix hhex
  · exact plainInteger?_isPrefix hplain

theorem name?_isPrefix {text found : List Char} (hfound : name? text = some found) :
    found <+: text ∧ found ≠ [] := by
  simp only [name?, Option.ite_none_left_eq_some, Option.some.injEq] at hfound
  obtain ⟨hword, rfl⟩ := hfound
  exact ⟨List.takeWhile_prefix _, by simpa using hword⟩

theorem quotedRest?_isPrefix {quote : Char} {text found : List Char}
    (hfound : quotedRest? quote text = some found) : found <+: text := by
  fun_induction quotedRest? quote text generalizing found with
  | case1 => cases hfound
  | case2 c rest ih =>
      obtain ⟨later, hlater, rfl⟩ := Option.map_eq_some_iff.mp hfound
      rw [List.prefix_cons_inj, List.prefix_cons_inj]
      exact ih hlater
  | case3 rest =>
      cases hfound
      exact (List.prefix_cons_inj _).mpr List.nil_prefix
  | case4 => cases hfound
  | case5 c rest _ _ _ ih =>
      obtain ⟨later, hlater, rfl⟩ := Option.map_eq_some_iff.mp hfound
      exact (List.prefix_cons_inj _).mpr (ih hlater)

theorem string?_isPrefix {text found : List Char} (hfound : string? text = some found) :
    found <+: text ∧ found ≠ [] := by
  unfold string? at hfound
  split at hfound
  · obtain ⟨later, hlater, rfl⟩ := Option.map_eq_some_iff.mp hfound
    exact ⟨(List.prefix_cons_inj _).mpr (quotedRest?_isPrefix hlater), List.cons_ne_nil _ _⟩
  · obtain ⟨later, hlater, rfl⟩ := Option.map_eq_some_iff.mp hfound
    exact ⟨(List.prefix_cons_inj _).mpr (quotedRest?_isPrefix hlater), List.cons_ne_nil _ _⟩
  · cases hfound

/-- No operator is spelled with nothing. -/
theorem spelling_ne_nil : ∀ spelling ∈ Operator.spellings, spelling.1.toList ≠ [] := by
  decide

theorem operator?_isPrefix {text found : List Char} (hfound : operator? text = some found) :
    found <+: text ∧ found ≠ [] ∧
      ∃ spelling ∈ Operator.spellings, spelling.1.toList = found := by
  obtain ⟨spelling, hfind, rfl⟩ := Option.map_eq_some_iff.mp hfound
  have hmem := List.mem_of_find?_eq_some hfind
  have hfront : spelling.1.toList.isPrefixOf text = true := by
    simpa using List.find?_some hfind
  exact ⟨List.isPrefixOf_iff_prefix.mp hfront, spelling_ne_nil spelling hmem, spelling, hmem, rfl⟩

/-- What the kinds of pieces inside a tag ask of the text that they are found in. -/
def KindInside (kind : PieceKind) (found : List Char) : Prop :=
  (kind = .whitespace ∧ ∀ c ∈ found, Unicode.isBlank c = true) ∨
    kind ∈ [PieceKind.float, .integer, .name, .string] ∨
    (kind = .operator ∧ ∃ spelling ∈ Operator.spellings, spelling.1.toList = found)

/-- What is found inside a tag stands at the front of the text and is not empty. -/
theorem inside?_isPrefix {previous : Char} {text found : List Char} {kind : PieceKind}
    (hfound : inside? previous text = some (kind, found)) :
    found <+: text ∧ found ≠ [] ∧ KindInside kind found := by
  unfold inside? at hfound
  simp only at hfound
  split at hfound
  · next hblanks =>
      simp only [Option.some.injEq, Prod.mk.injEq] at hfound
      obtain ⟨rfl, rfl⟩ := hfound
      exact ⟨List.takeWhile_prefix _, by simpa using hblanks,
        .inl ⟨rfl, fun c hc => List.mem_takeWhile_imp hc⟩⟩
  · simp only [Option.orElse_eq_orElse, Option.orElse_eq_or, Option.or_eq_some_iff,
      Option.map_eq_some_iff, Prod.mk.injEq] at hfound
    rcases hfound with ⟨_, hfloat, rfl, rfl⟩ | ⟨-, ⟨_, hinteger, rfl, rfl⟩ |
      ⟨-, ⟨_, hname, rfl, rfl⟩ | ⟨-, ⟨_, hstring, rfl, rfl⟩ | ⟨-, _, hoperator, rfl, rfl⟩⟩⟩⟩
    · exact ⟨(float?_isPrefix hfloat).1, (float?_isPrefix hfloat).2, .inr (.inl (by simp))⟩
    · exact ⟨(integer?_isPrefix hinteger).1, (integer?_isPrefix hinteger).2, .inr (.inl (by simp))⟩
    · exact ⟨(name?_isPrefix hname).1, (name?_isPrefix hname).2, .inr (.inl (by simp))⟩
    · exact ⟨(string?_isPrefix hstring).1, (string?_isPrefix hstring).2, .inr (.inl (by simp))⟩
    · obtain ⟨hfront, hne, hspelled⟩ := operator?_isPrefix hoperator
      exact ⟨hfront, hne, .inr (.inr ⟨rfl, hspelled⟩)⟩

end TemplateWorkbench.Template.Lexer
