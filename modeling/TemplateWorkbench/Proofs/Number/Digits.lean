import Mathlib.Tactic.Ring
import TemplateWorkbench.Number.Integer

/-!
# Numbers and their digits

A number is made of its digits, the most significant first.  Zeros in front of the digits do not matter,
zeros behind them are factors of the base, and the decimal text of a number has the digits of the number.
-/

namespace TemplateWorkbench.Number

/-! ### Bounds -/

theorem foldl_ofDigits_lt {base : Nat} {digits : List Nat} (hdigits : ∀ digit ∈ digits, digit < base)
    {start bound : Nat} (hstart : start < bound) :
    digits.foldl (fun value digit => value * base + digit) start <
      bound * Nat.pow base digits.length := by
  induction digits generalizing start bound with
  | nil => simpa using hstart
  | cons digit rest ih =>
      have hdigit : digit < base := hdigits digit List.mem_cons_self
      have hnext : start * base + digit < bound * base := by
        calc start * base + digit < start * base + base := by omega
          _ = (start + 1) * base := by rw [Nat.add_mul, Nat.one_mul]
          _ ≤ bound * base := Nat.mul_le_mul_right base hstart
      have hrest := ih (fun d hd => hdigits d (List.mem_cons_of_mem _ hd)) hnext
      have hpow : Nat.pow base (rest.length + 1) = base * Nat.pow base rest.length := Nat.pow_succ'
      rw [List.length_cons, hpow, ← Nat.mul_assoc]
      exact hrest

/-- A number has no more digits than were read. -/
theorem ofDigits_lt {base : Nat} {digits : List Nat} (hdigits : ∀ digit ∈ digits, digit < base) :
    ofDigits base digits < Nat.pow base digits.length := by
  simpa [ofDigits] using foldl_ofDigits_lt hdigits (Nat.zero_lt_one)

/-- Digits behind a number push it up. -/
theorem ofDigits_append (base : Nat) (digits others : List Nat) :
    ofDigits base (digits ++ others) = ofDigits base digits * base ^ others.length +
      ofDigits base others := by
  have hfold (value : Nat) : others.foldl (fun value digit => value * base + digit) value =
      value * base ^ others.length + ofDigits base others := by
    unfold ofDigits
    induction others generalizing value with
    | nil => simp
    | cons digit rest ih =>
        rw [List.foldl_cons, List.foldl_cons, ih, ih (0 * base + digit), List.length_cons,
          Nat.pow_succ']
        simp only [Nat.add_mul, Nat.zero_mul, Nat.zero_add, Nat.mul_assoc, Nat.add_assoc]
  rw [ofDigits, List.foldl_append]
  exact hfold _

theorem ofDigits_cons (base digit : Nat) (rest : List Nat) :
    ofDigits base (digit :: rest) = digit * base ^ rest.length + ofDigits base rest := by
  have happend := ofDigits_append base [digit] rest
  simpa [ofDigits] using happend

/-- A number whose first digit is not zero is as large as the power for the digits after it. -/
theorem pow_le_ofDigits {base first : Nat} (hfirst : 0 < first) (rest : List Nat) :
    Nat.pow base rest.length ≤ ofDigits base (first :: rest) := by
  rw [ofDigits_cons]
  calc Nat.pow base rest.length ≤ first * base ^ rest.length := Nat.le_mul_of_pos_left _ hfirst
    _ ≤ _ := Nat.le_add_right _ _

/-! ### Zeros -/

theorem ofDigits_replicate_zero (base count : Nat) : ofDigits base (List.replicate count 0) = 0 := by
  induction count with
  | zero => rfl
  | succ count ih => rw [List.replicate_succ, ofDigits_cons, ih, Nat.zero_mul]

theorem ofDigits_dropWhile_zero (base : Nat) (digits : List Nat) :
    ofDigits base (digits.dropWhile (· == 0)) = ofDigits base digits := by
  induction digits with
  | nil => rfl
  | cons digit rest ih =>
      by_cases hzero : digit = 0
      · rw [List.dropWhile_cons_of_pos (by simp [hzero]), ih, ofDigits_cons, hzero, Nat.zero_mul,
          Nat.zero_add]
      · rw [List.dropWhile_cons_of_neg (by simp [hzero])]

/-- Without zeros in front of it a number has exactly its digits. -/
theorem dropWhile_zero_spec {base : Nat} {digits : List Nat} (hdigits : ∀ digit ∈ digits, digit < base)
    (hpositive : 0 < ofDigits base digits) :
    let count := (digits.dropWhile (· == 0)).length
    0 < count ∧ base ^ (count - 1) ≤ ofDigits base digits ∧ ofDigits base digits < base ^ count := by
  have hsame := ofDigits_dropWhile_zero base digits
  have hrest : ∀ digit ∈ digits.dropWhile (· == 0), digit < base := fun digit hmem =>
    hdigits digit ((List.dropWhile_sublist _).subset hmem)
  have hlt := ofDigits_lt hrest
  rw [hsame] at hlt
  cases hdrop : digits.dropWhile (· == 0) with
  | nil =>
      rw [hdrop] at hsame
      rw [← hsame] at hpositive
      exact absurd hpositive (Nat.lt_irrefl 0)
  | cons first rest =>
      have hfirst : first ≠ 0 := by
        have hhead := List.head?_dropWhile_not (· == 0) digits
        rw [hdrop] at hhead
        simpa using hhead
      have hle : base ^ rest.length ≤ ofDigits base (first :: rest) :=
        pow_le_ofDigits (Nat.pos_of_ne_zero hfirst) rest
      rw [← hdrop, hsame] at hle
      rw [hdrop] at hlt
      exact ⟨Nat.succ_pos _, hle, hlt⟩

/-! ### Decimal texts -/

/-- The value of a decimal digit. -/
def digitValue (c : Char) : Nat := c.toNat - 48

theorem digitValue_lt {c : Char} (hdigit : c.isDigit = true) : digitValue c < 10 := by
  simp only [Char.isDigit, Bool.and_eq_true, decide_eq_true_eq] at hdigit
  have hle : c.toNat ≤ 57 := hdigit.2
  unfold digitValue
  omega

/-- The digits of the text of a number make the number. -/
theorem ofDigits_toDigits (value : Nat) :
    ofDigits 10 ((Nat.toDigits 10 value).map digitValue) = value := by
  have hfold := Nat.ofDigitChars_ten_toDigits (n := value)
  rw [Nat.ofDigitChars_eq_foldl] at hfold
  have hzero : '0'.toNat = 48 := rfl
  rw [ofDigits, List.foldl_map]
  simpa only [Nat.mul_comm, digitValue, hzero] using hfold

theorem isDigit_toDigits {value : Nat} {c : Char} (hmem : c ∈ Nat.toDigits 10 value) :
    c.isDigit = true := Nat.isDigit_of_mem_toDigits (by decide) (by decide) hmem

/-- The text of a positive number does not begin with a zero. -/
theorem head?_toDigits {value : Nat} (hpositive : 0 < value) :
    (Nat.toDigits 10 value).head? ≠ some '0' := by
  induction value using Nat.strongRecOn with
  | ind value ih =>
      rw [Nat.toDigits_eq_if (by decide)]
      split
      · next hlt =>
          have hdigits : ∀ n < 10, 0 < n → [n.digitChar].head? ≠ some '0' := by decide
          exact hdigits value hlt hpositive
      · next hge =>
          have hquotient := ih (value / 10) (by omega) (by omega)
          rw [List.head?_append]
          cases hhead : (Nat.toDigits 10 (value / 10)).head? with
          | none => exact absurd (List.head?_eq_none_iff.mp hhead) Nat.toDigits_ne_nil
          | some first => rwa [hhead] at hquotient

end TemplateWorkbench.Number
