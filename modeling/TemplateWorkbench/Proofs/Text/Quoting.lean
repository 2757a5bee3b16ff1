import Mathlib.Tactic.Ring
import TemplateWorkbench.Text.Quoted

/-!
# Quoted texts tell what they quote

Inside quotes every character is written by a piece: itself, a backslash and a mark, or a backslash and the
digits of its code.  No piece begins another one, and none begins with the closing quote.  So a quoted text
ends at the same place whatever follows it, and two texts with one quoted form are the same.
-/

namespace TemplateWorkbench.Text

/-! ### Digits -/

theorem hexDigit_injective :
    ∀ value < 16, ∀ other < 16, hexDigit value = hexDigit other → value = other := by
  decide

@[simp] theorem length_hexDigits (width value : Nat) : (hexDigits width value).length = width := by
  induction width generalizing value with
  | zero => rfl
  | succ width ih => rw [hexDigits, List.length_append, ih, List.length_singleton]

/-- Two numbers that fit into a width have different digits. -/
theorem hexDigits_injective {width value other : Nat} (hvalue : value < 16 ^ width)
    (hother : other < 16 ^ width) (hdigits : hexDigits width value = hexDigits width other) :
    value = other := by
  induction width generalizing value other with
  | zero => omega
  | succ width ih =>
      rw [hexDigits, hexDigits] at hdigits
      obtain ⟨hfront, hlast⟩ := List.append_inj' hdigits rfl
      have hhigh : value / 16 = other / 16 := by
        refine ih ?_ ?_ hfront
        all_goals rw [Nat.div_lt_iff_lt_mul (by decide), ← Nat.pow_succ]
        · exact hvalue
        · exact hother
      have hlow : value % 16 = other % 16 :=
        hexDigit_injective _ (Nat.mod_lt _ (by decide)) _ (Nat.mod_lt _ (by decide))
          (List.singleton_inj.mp hlast)
      omega

theorem toNat_lt (c : Char) : c.toNat < 0x110000 := by
  have hvalid : c.toNat < 0xD800 ∨ 0xDFFF < c.toNat ∧ c.toNat < 0x110000 := c.valid
  omega

/-- A code has one of three forms, each with a mark and a width of its own. -/
theorem codeEscape_cases (c : Char) :
    codeEscape c = '\\' :: 'x' :: hexDigits 2 c.toNat ∧ c.toNat < 16 ^ 2 ∨
      codeEscape c = '\\' :: 'u' :: hexDigits 4 c.toNat ∧ c.toNat < 16 ^ 4 ∨
      codeEscape c = '\\' :: 'U' :: hexDigits 8 c.toNat ∧ c.toNat < 16 ^ 8 := by
  have hbound := toNat_lt c
  unfold codeEscape
  split
  · exact .inl ⟨rfl, by omega⟩
  · split
    · exact .inr (.inl ⟨rfl, by omega⟩)
    · exact .inr (.inr ⟨rfl, by omega⟩)

theorem codeEscape_append_inj {c other : Char} {rest more : List Char}
    (heq : codeEscape c ++ rest = codeEscape other ++ more) : c = other ∧ rest = more := by
  have hwidth {width : Nat} (hc : c.toNat < 16 ^ width) (hother : other.toNat < 16 ^ width)
      (hdigits : hexDigits width c.toNat ++ rest = hexDigits width other.toNat ++ more) :
      c = other ∧ rest = more := by
    obtain ⟨hsame, hrest⟩ := List.append_inj hdigits (by simp)
    exact ⟨Char.toNat_inj.mp (hexDigits_injective hc hother hsame), hrest⟩
  rcases codeEscape_cases c with ⟨hform, hc⟩ | ⟨hform, hc⟩ | ⟨hform, hc⟩ <;>
    rcases codeEscape_cases other with ⟨hsecond, hother⟩ | ⟨hsecond, hother⟩ | ⟨hsecond, hother⟩ <;>
    rw [hform, hsecond] at heq <;>
    simp only [List.cons_append, List.cons.injEq, true_and] at heq
  -- Two forms of one width are left, and forms of different widths have different marks.
  all_goals first
    | exact hwidth hc hother heq
    | exact absurd heq.1 (by decide)

/-! ### Pieces -/

/-- The character that a mark stands for. -/
def meant (mark : Char) : Char :=
  if mark = 't' then '\t' else if mark = 'n' then '\n' else if mark = 'r' then '\r' else mark

/-- A mark that is followed by a code. -/
def startsCode (mark : Char) : Bool := mark = 'x' || mark = 'u' || mark = 'U'

/-- The pieces by which a character is written between quotes. -/
inductive Piece (quote : Char) : Char → List Char → Prop
  | self {c : Char} (hquote : c ≠ quote) (hslash : c ≠ '\\') : Piece quote c [c]
  | mark (mark : Char) (hmark : startsCode mark = false) : Piece quote (meant mark) ['\\', mark]
  | code (c : Char) : Piece quote c (codeEscape c)

theorem exists_mark_of_codeEscape (c : Char) :
    ∃ mark digits, codeEscape c = '\\' :: mark :: digits ∧ startsCode mark = true := by
  rcases codeEscape_cases c with ⟨hform, -⟩ | ⟨hform, -⟩ | ⟨hform, -⟩
  · exact ⟨'x', _, hform, rfl⟩
  · exact ⟨'u', _, hform, rfl⟩
  · exact ⟨'U', _, hform, rfl⟩

/-- The two quotes. -/
def IsQuote (quote : Char) : Prop := quote = '\'' ∨ quote = '"'

theorem isQuote_quoteFor (text : List Char) : IsQuote (quoteFor text) := by
  unfold quoteFor
  split
  · exact .inr rfl
  · exact .inl rfl

theorem piece_quoteChar {quote : Char} (hquote : IsQuote quote) (c : Char) :
    Piece quote c (quoteChar quote c) := by
  unfold quoteChar
  split
  · next hself =>
      -- The quote and the backslash are their own marks.
      have hmark : startsCode c = false ∧ meant c = c := by
        simp only [Bool.or_eq_true, decide_eq_true_eq] at hself
        rcases hquote with rfl | rfl <;> rcases hself with rfl | rfl <;> decide
      have hpiece : Piece quote (meant c) ['\\', c] := .mark c hmark.1
      rwa [hmark.2] at hpiece
  · next hself =>
      simp only [Bool.or_eq_true, decide_eq_true_eq, not_or] at hself
      split
      · next htab => exact htab ▸ .mark 't' rfl
      · split
        · next hfeed => exact hfeed ▸ .mark 'n' rfl
        · split
          · next hreturn => exact hreturn ▸ .mark 'r' rfl
          · split
            · exact .self hself.1 hself.2
            · exact .code c

variable {quote c other : Char} {piece others rest more : List Char}

theorem Piece.append_inj (hpiece : Piece quote c piece) (hother : Piece quote other others)
    (heq : piece ++ rest = others ++ more) : c = other ∧ rest = more := by
  -- Two pieces that begin with a backslash are told apart by the character after it.
  cases hpiece with
  | self hquote hslash =>
      cases hother with
      | self _ _ => exact List.cons.inj heq
      | mark _ _ => exact absurd (List.cons.inj heq).1 hslash
      | code _ =>
          obtain ⟨mark, digits, hform, -⟩ := exists_mark_of_codeEscape other
          rw [hform] at heq
          exact absurd (List.cons.inj heq).1 hslash
  | mark mark hmark =>
      cases hother with
      | self _ hslash => exact absurd (List.cons.inj heq).1.symm hslash
      | mark _ _ =>
          obtain ⟨hsame, hrest⟩ := List.cons.inj (List.cons.inj heq).2
          exact ⟨by rw [hsame], hrest⟩
      | code _ =>
          obtain ⟨other, digits, hform, hstarts⟩ := exists_mark_of_codeEscape other
          rw [hform] at heq
          rw [← (List.cons.inj (List.cons.inj heq).2).1, hmark] at hstarts
          cases hstarts
  | code _ =>
      obtain ⟨mark, digits, hform, hstarts⟩ := exists_mark_of_codeEscape c
      cases hother with
      | self _ hslash =>
          rw [hform] at heq
          exact absurd (List.cons.inj heq).1.symm hslash
      | mark _ hmark =>
          rw [hform] at heq
          rw [(List.cons.inj (List.cons.inj heq).2).1, hmark] at hstarts
          cases hstarts
      | code _ => exact codeEscape_append_inj heq

/-- No piece begins with the closing quote. -/
theorem Piece.append_ne (hquote : IsQuote quote) (hpiece : Piece quote c piece) :
    piece ++ rest ≠ quote :: more := by
  have hslash : '\\' ≠ quote := by
    rcases hquote with rfl | rfl <;> decide
  intro heq
  cases hpiece with
  | self hself _ => exact hself (List.cons.inj heq).1
  | mark _ _ => exact hslash (List.cons.inj heq).1
  | code _ =>
      obtain ⟨mark, digits, hform, -⟩ := exists_mark_of_codeEscape c
      rw [hform] at heq
      exact hslash (List.cons.inj heq).1

/-! ### Whole texts -/

theorem flatMap_quoteChar_append_inj (hquote : IsQuote quote) {text words : List Char}
    (heq : text.flatMap (quoteChar quote) ++ quote :: rest =
      words.flatMap (quoteChar quote) ++ quote :: more) : text = words ∧ rest = more := by
  induction text generalizing words with
  | nil =>
      cases words with
      | nil => exact ⟨rfl, (List.cons.inj heq).2⟩
      | cons first words =>
          rw [List.flatMap_cons, List.append_assoc] at heq
          exact absurd heq.symm ((piece_quoteChar hquote first).append_ne hquote)
  | cons first text ih =>
      rw [List.flatMap_cons, List.append_assoc] at heq
      cases words with
      | nil => exact absurd heq ((piece_quoteChar hquote first).append_ne hquote)
      | cons second words =>
          rw [List.flatMap_cons, List.append_assoc] at heq
          obtain ⟨rfl, hothers⟩ :=
            (piece_quoteChar hquote first).append_inj (piece_quoteChar hquote second) heq
          obtain ⟨rfl, hrest⟩ := ih hothers
          exact ⟨rfl, hrest⟩

/-- A quoted text tells the text and where it ends, whatever follows it. -/
theorem quote_append_inj {text words : String}
    (heq : (Text.quote text).toList ++ rest = (Text.quote words).toList ++ more) :
    text = words ∧ rest = more := by
  simp only [Text.quote, quoteChars, String.toList_ofList, List.cons_append, List.append_assoc,
    List.cons.injEq, List.nil_append] at heq
  obtain ⟨hmark, hbody⟩ := heq
  rw [hmark] at hbody
  obtain ⟨htext, hrest⟩ := flatMap_quoteChar_append_inj (isQuote_quoteFor words.toList) hbody
  exact ⟨String.toList_inj.mp htext, hrest⟩

end TemplateWorkbench.Text
