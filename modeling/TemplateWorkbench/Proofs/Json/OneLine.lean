import TemplateWorkbench.Number.Shortest
import TemplateWorkbench.Proofs.Json.Writing
import TemplateWorkbench.Proofs.Number.Digits

/-!
# Values on one line

However a number is written, it is written with digits, points, signs and a few letters.  A line feed in a text
is escaped, and there is none in a number or between items; so a value that is written on one line is one line.
-/

/-! ## The characters of numbers -/

namespace TemplateWorkbench.Number

/-- Whether a character may stand in a number. -/
def isFigure (c : Char) : Bool := c.isDigit || "+-.eNaInfity".toList.contains c

/-- Whether all characters of a text may stand in a number. -/
def AreFigures (text : List Char) : Prop := ∀ c ∈ text, isFigure c = true

instance (text : List Char) : Decidable (AreFigures text) :=
  decidable_of_iff (text.all isFigure = true) List.all_eq_true

theorem AreFigures.append {first second : List Char} (hfirst : AreFigures first)
    (hsecond : AreFigures second) : AreFigures (first ++ second) :=
  List.forall_mem_append.mpr ⟨hfirst, hsecond⟩

theorem AreFigures.ite {first second : List Char} (hfirst : AreFigures first)
    (hsecond : AreFigures second) (p : Prop) [Decidable p] :
    AreFigures (if p then first else second) := by
  split
  · exact hfirst
  · exact hsecond

theorem AreFigures.subset {first second : List Char} (hsecond : AreFigures second)
    (hsubset : first ⊆ second) : AreFigures first := fun c hc => hsecond c (hsubset hc)

theorem areFigures_zeros (count : Nat) : AreFigures (List.replicate count '0') := by
  intro c hc
  rw [List.eq_of_mem_replicate hc]
  decide

theorem areFigures_natural (value : Nat) : AreFigures (toString value).toList := by
  rw [Nat.toString_eq_ofList_toDigits, String.toList_ofList]
  intro c hc
  rw [isFigure, isDigit_toDigits hc, Bool.true_or]

theorem areFigures_sign (negative : Bool) :
    AreFigures (if negative then "-" else "" : String).toList := by
  cases negative <;> decide

theorem areFigures_integer (value : Int) : AreFigures (integerText value).toList := by
  have hdigits : AreFigures (decimalText value.natAbs).toList := areFigures_natural value.natAbs
  rw [integerText]
  split
  · rw [String.toList_append]
    exact AreFigures.append (areFigures_sign true) hdigits
  · exact hdigits

theorem areFigures_toString (value : Int) : AreFigures (toString value).toList := by
  cases value with
  | ofNat magnitude => exact areFigures_natural magnitude
  | negSucc magnitude =>
      have htext : toString (Int.negSucc magnitude) = "-" ++ toString (magnitude + 1) := rfl
      rw [htext, String.toList_append]
      exact AreFigures.append (areFigures_sign true) (areFigures_natural _)

theorem areFigures_scientific (decimal : Decimal) : AreFigures decimal.scientific.1 :=
  (areFigures_natural decimal.digits).subset fun _ hc =>
    List.mem_reverse.mp (List.dropWhile_subset _ (List.mem_reverse.mp hc))

theorem areFigures_pointed {digits : List Char} (hdigits : AreFigures digits) (leading : Int) :
    AreFigures (pointed digits leading) := by
  have hpoint : AreFigures ['.'] := by decide
  unfold pointed
  split
  · exact (AreFigures.append (by decide) (areFigures_zeros _)).append hdigits
  · exact ((hdigits.subset (List.take_subset _ _)).append (areFigures_zeros _)).append
      (hpoint.append (AreFigures.ite (areFigures_zeros 1) (hdigits.subset (List.drop_subset _ _)) _))

theorem areFigures_exponentText (exponent : Int) : AreFigures (exponentText exponent) := by
  have hsign : AreFigures [if exponent < 0 then '-' else '+'] := by split <;> decide
  exact hsign.append ((areFigures_zeros _).append (areFigures_natural _))

theorem areFigures_double (value : Double) : AreFigures (jsonDouble.write value).toList := by
  cases value with
  | nan => decide
  | infinite negative => cases negative <;> decide
  | finite negative rank =>
      have hdigits := areFigures_scientific (shortest rank.val)
      have hpoint : AreFigures ['.'] := by decide
      have hletter : AreFigures ['e'] := by decide
      rw [DoubleText.write]
      split
      · rw [String.toList_append]
        exact (areFigures_sign negative).append (by decide)
      · dsimp only
        split
        · rw [String.toList_append, String.toList_ofList]
          exact (areFigures_sign negative).append (areFigures_pointed hdigits _)
        · rw [String.toList_append, String.toList_ofList]
          refine (areFigures_sign negative).append ?_
          have hrest := hdigits.subset (List.drop_subset 1 _)
          exact ((hdigits.subset (List.take_subset _ _)).append
            (AreFigures.ite (by decide) (hpoint.append hrest) _)).append
            (hletter.append (areFigures_exponentText _))

end TemplateWorkbench.Number

/-! ## Values -/

namespace TemplateWorkbench

theorem Text.newline_notMem_hexDigits (width code : Nat) : '\n' ∉ Text.hexDigits width code := by
  have hdigit : ∀ value < 16, Text.hexDigit value ≠ '\n' := by decide
  induction width generalizing code with
  | zero => exact List.not_mem_nil
  | succ width ih =>
      rw [Text.hexDigits, List.mem_append, List.mem_singleton, not_or]
      exact ⟨ih _, (hdigit _ (Nat.mod_lt _ (by decide))).symm⟩

namespace Json

variable {level : Nat} {chars : List Char}

theorem newline_notMem_escapeChar (c : Char) : '\n' ∉ escapeChar false c := by
  unfold escapeChar
  split
  case h_8 hfeed _ _ _ _ =>
    split
    · simp [codeEscape, Text.newline_notMem_hexDigits]
    · rw [Bool.false_and, if_neg Bool.false_ne_true, List.mem_singleton]
      exact fun hc => hfeed hc.symm
  all_goals decide

theorem newline_notMem_writeText (text : String) : '\n' ∉ writeText false text := by
  have hchars : '\n' ∉ text.toList.flatMap (escapeChar false) := by
    rw [List.mem_flatMap]
    exact fun ⟨c, _, hc⟩ => newline_notMem_escapeChar c hc
  simp [writeText, hchars]

theorem newline_notMem_of_areFigures (hfigures : Number.AreFigures chars) : '\n' ∉ chars := fun hmem =>
  absurd (hfigures '\n' hmem) (by decide)

theorem newline_notMem_intersperse {separator : List Char} {items : List (List Char)}
    (hseparator : '\n' ∉ separator) (hitems : ∀ item ∈ items, '\n' ∉ item) :
    '\n' ∉ (items.intersperse separator).flatten := by
  induction items with
  | nil => exact List.not_mem_nil
  | cons first rest ih =>
      obtain ⟨hfirst, hrest⟩ := List.forall_mem_cons.mp hitems
      cases rest with
      | nil => simpa using hfirst
      | cons second others =>
          rw [List.intersperse_cons_cons, List.flatten_cons, List.flatten_cons]
          simp only [List.mem_append, not_or]
          exact ⟨hfirst, hseparator, ih hrest⟩

/-- What is put between brackets on one line stays on one line. -/
theorem newline_notMem_enclose {opening closing : Char} {items : List (List Char)}
    (hopening : '\n' ≠ opening) (hclosing : '\n' ≠ closing) (hitems : ∀ item ∈ items, '\n' ∉ item) :
    '\n' ∉ Style.line.enclose level opening closing items := by
  have hinner : '\n' ∉ (items.intersperse (Style.line.separator (level + 1))).flatten :=
    newline_notMem_intersperse (show '\n' ∉ [',', ' '] by decide) hitems
  have hbreak (level : Nat) : Style.line.break level = [] := rfl
  unfold Style.enclose
  split <;> simp [hbreak, hopening, hclosing, hinner]

mutual

/-- What is written of a value on one line holds no line feed. -/
theorem newline_notMem_writeChars (level : Nat) : (value : Json) → (chars : List Char) →
    writeChars .line level value = .ok chars → '\n' ∉ chars
  | .null, _, rfl => by decide
  | .bool value, _, rfl => by cases value <;> decide
  | .int value, _, hwritten => by
      obtain ⟨-, rfl⟩ := writeChars_int_eq_ok_iff.mp hwritten
      exact newline_notMem_of_areFigures (Number.areFigures_integer value)
  | .double value, _, rfl => newline_notMem_of_areFigures (Number.areFigures_double value)
  | .string text, _, rfl => newline_notMem_writeText text
  | .list items, _, hwritten => by
      obtain ⟨written, hitems, rfl⟩ := writeChars_list_eq_ok_iff.mp hwritten
      exact newline_notMem_enclose (by decide) (by decide)
        (newline_notMem_writeItems (level + 1) items written hitems)
  | .object members, _, hwritten => by
      obtain ⟨written, hmembers, rfl⟩ := writeChars_object_eq_ok_iff.mp hwritten
      refine newline_notMem_enclose (by decide) (by decide) (List.forall_mem_map.mpr ?_)
      exact newline_notMem_writeMembers (level + 1) members written hmembers

theorem newline_notMem_writeItems (level : Nat) : (items : List Json) → (written : List (List Char)) →
    writeItems .line level items = .ok written → ∀ item ∈ written, '\n' ∉ item
  | [], _, rfl => nofun
  | item :: rest, _, hwritten => by
      obtain ⟨chars, others, hchars, hothers, rfl⟩ := writeItems_cons_eq_ok_iff.mp hwritten
      exact List.forall_mem_cons.mpr ⟨newline_notMem_writeChars level item chars hchars,
        newline_notMem_writeItems level rest others hothers⟩

theorem newline_notMem_writeMembers (level : Nat) : (members : List (String × Json)) →
    (written : List (String × List Char)) → writeMembers .line level members = .ok written →
    ∀ member ∈ written, '\n' ∉ member.2
  | [], _, rfl => nofun
  | (name, value) :: rest, _, hwritten => by
      obtain ⟨chars, others, hchars, hothers, rfl⟩ := writeMembers_cons_eq_ok_iff.mp hwritten
      refine List.forall_mem_cons.mpr ⟨?_, newline_notMem_writeMembers level rest others hothers⟩
      have hname : '\n' ∉ writeText Style.line.ascii name := newline_notMem_writeText name
      simp [hname, newline_notMem_writeChars level value chars hchars]

end

end Json

end TemplateWorkbench
