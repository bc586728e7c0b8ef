/-
# Tidy.Proofs.Number.Range -- which decimals round to a finite number

A decimal rounds to infinity exactly from `overflowBound` on, the middle between the largest finite number and the
power of two above it. Codes grow with the magnitude, so the question is which side of the code of infinity the
rounded quotient falls on, and it turns on the one power of two under which the largest finite numbers lie.
-/

import Mathlib.Tactic.Ring
import Tidy.Proofs.Number.ReadBack

namespace Tidy.Binary64

/-- The least magnitude that rounds to infinity: two to the power of 1024, less half a place of the last numbers
below it. -/
def overflowBound : Nat := (2 ^ 54 - 1) * Nat.pow 2 970

/-! ## Rounding below an even number -/

theorem nearest_le (num den : Nat) : nearest num den ≤ num / den + 1 := by
  unfold nearest
  dsimp only
  split
  · omega
  · split
    · omega
    · split <;> omega

theorem le_nearest (num den : Nat) : num / den ≤ nearest num den := by
  unfold nearest
  dsimp only
  split
  · omega
  · split
    · omega
    · split <;> omega

/-- A quotient rounds below an even number exactly if it is below the half before that number. -/
theorem nearest_lt_iff {num den half : Nat} (hden : 0 < den) (hhalf : 0 < half) :
    nearest num den < 2 * half ↔ 2 * num < (4 * half - 1) * den := by
  have hnum : den * (num / den) + num % den = num := Nat.div_add_mod num den
  have hmod : num % den < den := Nat.mod_lt num hden
  have hbound : (4 * half - 1) * den + den = 2 * (den * (2 * half)) := by
    calc (4 * half - 1) * den + den
        = (4 * half - 1 + 1) * den := by ring
      _ = 2 * (den * (2 * half)) := by rw [Nat.sub_add_cancel (by omega)]; ring
  rcases Nat.lt_trichotomy (num / den + 1) (2 * half) with hlow | heq | hhigh
  · -- a whole place below
    have hnearest := nearest_le num den
    have hplace : den * (num / den + 2) ≤ den * (2 * half) := Nat.mul_le_mul_left den hlow
    rw [Nat.mul_add] at hplace
    constructor <;> intro <;> omega
  · -- the place before the even number is odd, so that a half goes up
    have hodd : (num / den) % 2 = 1 := by omega
    rw [← heq, Nat.mul_add] at hbound
    unfold nearest
    dsimp only
    constructor
    · intro h
      split at h
      · omega
      · split at h
        · omega
        · split at h <;> omega
    · intro h
      rw [if_pos (by omega)]
      omega
  · -- the even number is reached
    have hnearest := le_nearest num den
    have hplace : den * (2 * half) ≤ den * (num / den) := Nat.mul_le_mul_left den (by omega)
    constructor <;> intro <;> omega

/-! ## Rounding below a power of two -/

section Powers

variable {top num den : Nat} (hden : 0 < den)
include hden

/-- Under the power before, the code is at most the code of that power. -/
theorem codeOfUnits_below (hlog : Nat.log2 (num / den) < top + 53) :
    num < (2 ^ 54 - 1) * 2 ^ top * den ∧ codeOfUnits num den < (top + 3) * 2 ^ 52 := by
  have hself : num / den < 2 ^ (Nat.log2 (num / den) + 1) := Nat.lt_log2_self
  have hplaces : num / (den * 2 ^ (Nat.log2 (num / den) - 52)) < 2 ^ 53 := by
    rw [← Nat.div_div_eq_div_mul, Nat.div_lt_iff_lt_mul (Nat.pow_pos (by decide)), ← Nat.pow_add]
    exact Nat.lt_of_lt_of_le hself (Nat.pow_le_pow_right (by decide) (by omega))
  have hnearest := nearest_le num (den * 2 ^ (Nat.log2 (num / den) - 52))
  have hscale : (Nat.log2 (num / den) - 52) * 2 ^ 52 ≤ top * 2 ^ 52 := Nat.mul_le_mul_right _ (by omega)
  constructor
  · rw [← Nat.div_lt_iff_lt_mul hden]
    calc num / den
        < 2 ^ (Nat.log2 (num / den) + 1) := hself
      _ ≤ 2 ^ (53 + top) := Nat.pow_le_pow_right (by decide) (by omega)
      _ = 2 ^ 53 * 2 ^ top := Nat.pow_add 2 53 top
      _ ≤ (2 ^ 54 - 1) * 2 ^ top := Nat.mul_le_mul_right _ (by omega)
  · rw [codeOfUnits, fractionCount_eq]
    simp only [Nat.pow_eq]
    calc _ ≤ top * 2 ^ 52 + 2 ^ 53 := Nat.add_le_add hscale (Nat.le_trans hnearest hplaces)
      _ < (top + 3) * 2 ^ 52 := by rw [Nat.add_mul]; omega

/-- From the power before on, all turns on whether the significand rounds up to the power. -/
theorem codeOfUnits_before (hlog : Nat.log2 (num / den) = top + 53) :
    codeOfUnits num den < (top + 3) * 2 ^ 52 ↔ num < (2 ^ 54 - 1) * 2 ^ top * den := by
  have hscale : Nat.log2 (num / den) - 52 = top + 1 := by omega
  have hplaces : 0 < den * 2 ^ (top + 1) := Nat.mul_pos hden (Nat.pow_pos (by decide))
  have hnearest : nearest num (den * 2 ^ (top + 1)) < 2 * 2 ^ 52 ↔
      2 * num < (4 * 2 ^ 52 - 1) * (den * 2 ^ (top + 1)) := nearest_lt_iff hplaces (by omega)
  have hdouble : (4 * 2 ^ 52 - 1) * (den * 2 ^ (top + 1)) = 2 * ((2 ^ 54 - 1) * 2 ^ top * den) := by
    rw [Nat.pow_succ]
    ring
  rw [codeOfUnits, fractionCount_eq]
  simp only [Nat.pow_eq]
  rw [hscale, show (top + 3) * 2 ^ 52 = (top + 1) * 2 ^ 52 + 2 * 2 ^ 52 by ring, Nat.add_lt_add_iff_left, hnearest,
    hdouble, Nat.mul_lt_mul_left (by decide)]

/-- From the power on, the code is at least its code. -/
theorem codeOfUnits_above (hlog : top + 53 < Nat.log2 (num / den)) :
    (2 ^ 54 - 1) * 2 ^ top * den ≤ num ∧ (top + 3) * 2 ^ 52 ≤ codeOfUnits num den := by
  have hne : num / den ≠ 0 := by
    intro hzero
    rw [hzero] at hlog
    exact absurd hlog (by simp [Nat.log2_zero])
  have hself : 2 ^ Nat.log2 (num / den) ≤ num / den := Nat.log2_self_le hne
  have hplaces : 2 ^ 52 ≤ num / (den * 2 ^ (Nat.log2 (num / den) - 52)) := by
    rw [← Nat.div_div_eq_div_mul, Nat.le_div_iff_mul_le (Nat.pow_pos (by decide)), ← Nat.pow_add,
      Nat.add_sub_cancel' (by omega)]
    exact hself
  have hnearest := le_nearest num (den * 2 ^ (Nat.log2 (num / den) - 52))
  have hscale : (top + 2) * 2 ^ 52 ≤ (Nat.log2 (num / den) - 52) * 2 ^ 52 := Nat.mul_le_mul_right _ (by omega)
  constructor
  · rw [← Nat.le_div_iff_mul_le hden]
    calc (2 ^ 54 - 1) * 2 ^ top
        ≤ 2 ^ 54 * 2 ^ top := Nat.mul_le_mul_right _ (by omega)
      _ = 2 ^ (54 + top) := (Nat.pow_add 2 54 top).symm
      _ ≤ 2 ^ Nat.log2 (num / den) := Nat.pow_le_pow_right (by decide) (by omega)
      _ ≤ num / den := hself
  · rw [codeOfUnits, fractionCount_eq]
    simp only [Nat.pow_eq]
    calc (top + 3) * 2 ^ 52 = (top + 2) * 2 ^ 52 + 2 ^ 52 := by ring
      _ ≤ _ := Nat.add_le_add hscale (Nat.le_trans hplaces hnearest)

end Powers

/-- The code of a magnitude is below that of a power of two exactly if the magnitude is below the middle between that
power and the number before it. The numbers under the power have one binary logarithm, which decides all others. -/
theorem codeOfUnits_lt_iff (top : Nat) {num den : Nat} (hden : 0 < den) :
    codeOfUnits num den < (top + 3) * 2 ^ 52 ↔ num < (2 ^ 54 - 1) * 2 ^ top * den := by
  rcases Nat.lt_trichotomy (Nat.log2 (num / den)) (top + 53) with hbelow | heq | habove
  · obtain ⟨hnum, hcode⟩ := codeOfUnits_below hden hbelow
    exact iff_of_true hcode hnum
  · exact codeOfUnits_before hden heq
  · obtain ⟨hnum, hcode⟩ := codeOfUnits_above hden habove
    exact iff_of_false (Nat.not_lt.mpr hcode) (Nat.not_lt.mpr hnum)

/-! ## Decimals -/

theorem overflowBound_pos : 0 < overflowBound := by decide +kernel

theorem overflowBound_le : overflowBound ≤ Nat.pow 10 310 := by decide +kernel

theorem overflowBound_mul_one : overflowBound * one = (2 ^ 54 - 1) * 2 ^ 2044 := by decide +kernel

theorem one_pos : 0 < one := by decide +kernel

theorem digitCount_pos (n : Nat) : 0 < digitCount n :=
  Nat.length_toDigits_pos

/-- A decimal that is too long to be looked at is beyond the bound. -/
theorem overflowBound_le_of_long {digits : Nat} {exponent : Int} (hne : digits ≠ 0)
    (h : 310 < exponent + digitCount digits) :
    overflowBound * 10 ^ (-exponent).toNat ≤ digits * 10 ^ exponent.toNat := by
  have hdigits : 10 ^ (digitCount digits - 1) ≤ digits := by
    rcases Nat.eq_zero_or_pos (digitCount digits - 1) with hzero | hpos
    · rw [hzero, Nat.pow_zero]
      omega
    · have hlong := mt (digitCount_le_iff (n := digits) hpos).mpr (by omega)
      omega
  calc overflowBound * 10 ^ (-exponent).toNat
      ≤ Nat.pow 10 310 * 10 ^ (-exponent).toNat := Nat.mul_le_mul_right _ overflowBound_le
    _ = 10 ^ (310 + (-exponent).toNat) := (Nat.pow_add 10 310 _).symm
    _ ≤ 10 ^ (digitCount digits - 1 + exponent.toNat) := Nat.pow_le_pow_right (by decide) (by omega)
    _ = 10 ^ (digitCount digits - 1) * 10 ^ exponent.toNat := Nat.pow_add 10 _ _
    _ ≤ digits * 10 ^ exponent.toNat := Nat.mul_le_mul_right _ hdigits

/-- A decimal that is too small to be looked at is below the bound. -/
theorem lt_overflowBound_of_small {digits : Nat} {exponent : Int} (h : exponent + digitCount digits < -330) :
    digits * 10 ^ exponent.toNat < overflowBound * 10 ^ (-exponent).toNat := by
  have hdigits : digits < 10 ^ digitCount digits := (digitCount_le_iff (digitCount_pos digits)).mp (Nat.le_refl _)
  have hwhole : exponent.toNat = 0 := by omega
  rw [hwhole, Nat.pow_zero, Nat.mul_one]
  calc digits
      < 10 ^ digitCount digits := hdigits
    _ ≤ 10 ^ (-exponent).toNat := Nat.pow_le_pow_right (by decide) (by omega)
    _ ≤ overflowBound * 10 ^ (-exponent).toNat := Nat.le_mul_of_pos_left _ overflowBound_pos

/-- A decimal rounds to a finite number exactly below the bound. -/
theorem isFinite_ofDecimal_iff (negative : Bool) (digits : Nat) (exponent : Int) :
    (ofDecimal negative digits exponent).isFinite = true ↔
      digits * 10 ^ exponent.toNat < overflowBound * 10 ^ (-exponent).toNat := by
  have hten : ∀ n : Nat, 0 < 10 ^ n := fun n => Nat.pow_pos (by decide)
  have hfinite : (ofDecimal negative digits exponent).isFinite = true ↔ codeOfDecimal digits exponent < infinityCode := by
    rw [isFinite, decide_eq_true_eq]
    show min _ infinityCode < infinityCode ↔ _
    omega
  have hinfinity : 0 < infinityCode := by decide
  rw [hfinite, codeOfDecimal]
  split
  · rename_i hzero
    rw [hzero, Nat.zero_mul]
    exact iff_of_true hinfinity (Nat.mul_pos overflowBound_pos (hten _))
  · rename_i hne
    split
    · rename_i hsmall
      exact iff_of_true hinfinity (lt_overflowBound_of_small hsmall)
    · split
      · rename_i hlong
        exact iff_of_false (Nat.lt_irrefl _) (Nat.not_lt.mpr (overflowBound_le_of_long hne hlong))
      · have hcode : infinityCode = (2044 + 3) * 2 ^ 52 := by rw [infinityCode, fractionCount_eq]
        have hmin : ∀ code, min infinityCode code < infinityCode ↔ code < infinityCode := by omega
        simp only [Nat.pow_eq]
        rw [hmin, hcode, codeOfUnits_lt_iff 2044 (hten _), ← overflowBound_mul_one, Nat.mul_right_comm overflowBound,
          Nat.mul_lt_mul_right one_pos]

end Tidy.Binary64
