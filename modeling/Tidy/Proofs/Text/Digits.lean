/-
# Tidy.Proofs.Text.Digits -- numbers and their decimal digits

Writing a natural number in base ten and reading the digits back gives the number. Digits are read by
`Text.decimalValue`, which is additive over rows of digits, and their number bounds the value; these facts carry
both the integers and the floating point numbers of JSON.
-/

import Mathlib.Tactic.Ring
import Tidy.Text.CodePoint

namespace Tidy

/-! ## Characters -/

@[simp] theorem CodePoint.toNat_char (c : Char) : (CodePoint.char c).toNat = c.toNat := rfl

/-- The digits of core are the ASCII digits of a text. -/
theorem CodePoint.isAsciiDigit_char {c : Char} (h : c.isDigit = true) :
    (CodePoint.char c).isAsciiDigit = true := by
  simp only [Char.isDigit, Bool.and_eq_true, decide_eq_true_eq, ge_iff_le, UInt32.le_iff_toNat_le] at h
  change 48 ≤ c.toNat ∧ c.toNat ≤ 57 at h
  rw [CodePoint.isAsciiDigit, CodePoint.within, Bool.and_eq_true]
  exact ⟨decide_eq_true h.1, decide_eq_true h.2⟩

namespace Text

/-- Is the text a row of ASCII digits? -/
def IsDigits (t : Text) : Prop := ∀ c ∈ t, c.isAsciiDigit = true

theorem isDigits_append {s t : Text} : IsDigits (s ++ t) ↔ IsDigits s ∧ IsDigits t := by
  simp only [IsDigits, List.mem_append, or_imp, forall_and]

theorem isDigits_cons {c : CodePoint} {t : Text} :
    IsDigits (c :: t) ↔ c.isAsciiDigit = true ∧ IsDigits t := by
  simp only [IsDigits, List.mem_cons, forall_eq_or_imp]

theorem isDigits_replicate_zero (k : Nat) : IsDigits (List.replicate k (CodePoint.char '0')) := by
  intro c hc
  rw [List.eq_of_mem_replicate hc]
  rfl

theorem isDigits_ofNat (n : Nat) : IsDigits (ofNat n) := by
  intro c hc
  obtain ⟨d, hd, rfl⟩ := List.mem_map.mp hc
  exact CodePoint.isAsciiDigit_char (Nat.isDigit_of_mem_toDigits (by decide) (by decide) hd)

/-! ## Values of rows of digits -/

theorem foldl_decimal (start : Nat) (t : Text) :
    t.foldl (fun n c => n * 10 + c.asciiDigitValue) start = start * 10 ^ t.length + decimalValue t := by
  induction t generalizing start with
  | nil => simp [decimalValue]
  | cons c t ih =>
    simp only [decimalValue, List.foldl_cons, List.length_cons]
    rw [ih, ih (0 * 10 + _)]
    ring

/-- The value of two rows, one after the other. -/
theorem decimalValue_append (s t : Text) :
    decimalValue (s ++ t) = decimalValue s * 10 ^ t.length + decimalValue t := by
  rw [decimalValue, List.foldl_append, foldl_decimal]
  rfl

theorem decimalValue_singleton (c : CodePoint) : decimalValue [c] = c.asciiDigitValue := by
  simp [decimalValue]

theorem decimalValue_cons (c : CodePoint) (t : Text) :
    decimalValue (c :: t) = c.asciiDigitValue * 10 ^ t.length + decimalValue t := by
  rw [← List.singleton_append, decimalValue_append, decimalValue_singleton]

theorem decimalValue_replicate_zero (k : Nat) :
    decimalValue (List.replicate k (CodePoint.char '0')) = 0 := by
  induction k with
  | zero => rfl
  | succ k ih =>
    have hzero : (CodePoint.char '0').asciiDigitValue = 0 := rfl
    rw [List.replicate_succ, decimalValue_cons, ih, hzero, Nat.zero_mul]

theorem asciiDigitValue_lt (c : CodePoint) : c.asciiDigitValue < 10 := by
  unfold CodePoint.asciiDigitValue CodePoint.isAsciiDigit CodePoint.within
  split
  · rename_i h
    simp only [Bool.and_eq_true, decide_eq_true_eq] at h
    omega
  · omega

/-- A row of `k` digits writes a number below `10 ^ k`. -/
theorem decimalValue_lt (t : Text) : decimalValue t < 10 ^ t.length := by
  induction t with
  | nil => simp [decimalValue]
  | cons c t ih =>
    have hc := asciiDigitValue_lt c
    rw [decimalValue_cons, List.length_cons]
    calc c.asciiDigitValue * 10 ^ t.length + decimalValue t
        < c.asciiDigitValue * 10 ^ t.length + 10 ^ t.length := by omega
      _ = (c.asciiDigitValue + 1) * 10 ^ t.length := by ring
      _ ≤ 10 * 10 ^ t.length := Nat.mul_le_mul_right _ hc
      _ = 10 ^ (t.length + 1) := by ring

/-! ## The digits of a number -/

theorem asciiDigitValue_digitChar {d : Nat} (h : d < 10) :
    (CodePoint.char d.digitChar).asciiDigitValue = d := by
  have hd : d.digitChar.isDigit = true := by simp [h]
  rw [CodePoint.asciiDigitValue, if_pos (CodePoint.isAsciiDigit_char hd), CodePoint.toNat_char]
  exact Nat.toNat_digitChar_sub_48_of_lt_ten h

/-- The last digit of a number stands at the end. -/
theorem ofNat_eq_append {n : Nat} (h : 10 ≤ n) :
    ofNat n = ofNat (n / 10) ++ [CodePoint.char (Nat.digitChar (n % 10))] := by
  rw [ofNat, Nat.toDigits_of_base_le (by decide) h, List.map_append]
  rfl

theorem ofNat_of_lt_ten {n : Nat} (h : n < 10) : ofNat n = [CodePoint.char n.digitChar] := by
  rw [ofNat, Nat.toDigits_of_lt_base h]
  rfl

/-- The digits of a number write the number. -/
@[simp] theorem decimalValue_ofNat (n : Nat) : decimalValue (ofNat n) = n := by
  induction n using Nat.strong_induction_on with
  | _ n ih =>
    by_cases h : n < 10
    · rw [ofNat_of_lt_ten h, decimalValue_singleton, asciiDigitValue_digitChar h]
    · have hmod : n % 10 < 10 := Nat.mod_lt n (by decide)
      rw [ofNat_eq_append (by omega), decimalValue_append, ih (n / 10) (by omega),
        decimalValue_singleton, asciiDigitValue_digitChar hmod]
      simp only [List.length_singleton, Nat.pow_one]
      omega

theorem length_ofNat (n : Nat) : (ofNat n).length = (Nat.toDigits 10 n).length := by
  rw [ofNat, List.length_map]

theorem length_ofNat_pos (n : Nat) : 0 < (ofNat n).length := by
  rw [length_ofNat]
  exact Nat.length_toDigits_pos

theorem ofNat_ne_nil (n : Nat) : ofNat n ≠ [] :=
  List.length_pos_iff.mp (length_ofNat_pos n)

/-- How many digits a number has. -/
theorem length_ofNat_le_iff {n k : Nat} (h : 0 < k) : (ofNat n).length ≤ k ↔ n < 10 ^ k := by
  rw [length_ofNat]
  exact Nat.length_toDigits_le_iff (by decide) h

/-- Only zero starts with a zero. -/
theorem head_ofNat_ne_zero {n : Nat} (h : n ≠ 0) : (ofNat n).head? ≠ some (CodePoint.char '0') := by
  induction n using Nat.strong_induction_on with
  | _ n ih =>
    by_cases hn : n < 10
    · rw [ofNat_of_lt_ten hn]
      intro hzero
      have hval := asciiDigitValue_digitChar hn
      rw [List.head?_cons, Option.some.injEq] at hzero
      rw [hzero] at hval
      exact h hval.symm
    · have hdiv := ih (n / 10) (by omega) (by omega)
      rw [ofNat_eq_append (by omega), List.head?_append, Option.or_of_isSome]
      · exact hdiv
      · exact List.isSome_head?.mpr (ofNat_ne_nil _)

end Text

end Tidy
