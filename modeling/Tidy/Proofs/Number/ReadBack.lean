/-
# Tidy.Proofs.Number.ReadBack -- the printed decimal reads back

Rounding depends on a quotient only, so a decimal may be written with more zeros without a change of the number
that it rounds to. Every finite magnitude is the rounding of itself; hence the exact expansion reads back, and
with it whatever the search for the shortest decimal returns.
-/

import Mathlib.Tactic.Ring
import Tidy.Number.Shortest
import Tidy.Proofs.Text.Digits

namespace Tidy.Binary64

/-! ## Rounding a quotient -/

theorem nearest_mul {k : Nat} (hk : 0 < k) (num den : Nat) :
    nearest (k * num) (k * den) = nearest num den := by
  unfold nearest
  rw [Nat.mul_div_mul_left num den hk, Nat.mul_mod_mul_left]
  have hlt : 2 * (k * (num % den)) < k * den ↔ 2 * (num % den) < den := by
    rw [show 2 * (k * (num % den)) = k * (2 * (num % den)) by ring]
    exact Nat.mul_lt_mul_left hk
  have hgt : k * den < 2 * (k * (num % den)) ↔ den < 2 * (num % den) := by
    rw [show 2 * (k * (num % den)) = k * (2 * (num % den)) by ring]
    exact Nat.mul_lt_mul_left hk
  simp only [hlt, hgt]

theorem codeOfUnits_mul {k : Nat} (hk : 0 < k) (num den : Nat) :
    codeOfUnits (k * num) (k * den) = codeOfUnits num den := by
  unfold codeOfUnits
  rw [Nat.mul_div_mul_left num den hk]
  dsimp only
  rw [Nat.mul_assoc k den, nearest_mul hk]

/-- The code of a quotient is that of every equal quotient. -/
theorem codeOfUnits_congr {num den num' den' : Nat} (hden : 0 < den) (hden' : 0 < den')
    (h : num * den' = num' * den) : codeOfUnits num den = codeOfUnits num' den' := by
  calc codeOfUnits num den
      = codeOfUnits (den' * num) (den' * den) := (codeOfUnits_mul hden' num den).symm
    _ = codeOfUnits (den * num') (den * den') := by
        rw [Nat.mul_comm den' num, h, Nat.mul_comm num' den, Nat.mul_comm den' den]
    _ = codeOfUnits num' den' := codeOfUnits_mul hden num' den'

/-! ## Zeros at the end of a decimal -/

theorem digitCount_le_iff {n k : Nat} (h : 0 < k) : digitCount n ≤ k ↔ n < 10 ^ k :=
  Nat.length_toDigits_le_iff (by decide) h

theorem digitCount_mul_ten {n : Nat} (h : n ≠ 0) : digitCount (n * 10) = digitCount n + 1 := by
  have hmul : n * 10 = 10 * n + 0 := by omega
  rw [digitCount, hmul, ← Nat.toDigits_append_toDigits (by decide) (by omega) (by decide),
    List.length_append, Nat.toDigits_zero]
  rfl

theorem digitCount_mul_pow {n : Nat} (h : n ≠ 0) (k : Nat) :
    digitCount (n * 10 ^ k) = digitCount n + k := by
  induction k with
  | zero => simp
  | succ k ih =>
    have hne : n * 10 ^ k ≠ 0 := Nat.mul_ne_zero h (Nat.pow_pos (by decide)).ne'
    rw [Nat.pow_succ, ← Nat.mul_assoc, digitCount_mul_ten hne, ih]
    omega

/-- A decimal with more zeros at its end, scaled down by as many places, rounds to the same code. -/
theorem codeOfDecimal_shift (digits k : Nat) (exponent : Int) :
    codeOfDecimal (digits * 10 ^ k) (exponent - k) = codeOfDecimal digits exponent := by
  by_cases hzero : digits = 0
  · simp [codeOfDecimal, hzero]
  have hten : ∀ n : Nat, 0 < 10 ^ n := fun n => Nat.pow_pos (by decide)
  have hne : digits * 10 ^ k ≠ 0 := Nat.mul_ne_zero hzero (hten k).ne'
  have hsize : exponent - k + (digitCount (digits * 10 ^ k) : Nat) = exponent + digitCount digits := by
    rw [digitCount_mul_pow hzero]
    omega
  have hcode : codeOfUnits (digits * 10 ^ k * Nat.pow 10 (exponent - k).toNat * one)
        (Nat.pow 10 (-(exponent - k)).toNat) =
      codeOfUnits (digits * Nat.pow 10 exponent.toNat * one) (Nat.pow 10 (-exponent).toNat) := by
    simp only [Nat.pow_eq]
    apply codeOfUnits_congr (hten _) (hten _)
    -- Both sides hold ten as often as the zeros and the two exponents together ask for.
    have hexp : k + (exponent - k).toNat + (-exponent).toNat =
        exponent.toNat + (-(exponent - k)).toNat := by omega
    calc digits * 10 ^ k * 10 ^ (exponent - k).toNat * one * 10 ^ (-exponent).toNat
        = digits * one * 10 ^ (k + (exponent - k).toNat + (-exponent).toNat) := by ring
      _ = digits * one * 10 ^ (exponent.toNat + (-(exponent - k)).toNat) := by rw [hexp]
      _ = digits * 10 ^ exponent.toNat * one * 10 ^ (-(exponent - k)).toNat := by ring
  simp only [codeOfDecimal, hne, hzero, hsize, hcode]

/-! ## Every finite magnitude rounds to itself -/

theorem nearest_of_dvd {num den q : Nat} (hden : 0 < den) (h : num = q * den) : nearest num den = q := by
  have hmod : num % den = 0 := by rw [h, Nat.mul_mod_left]
  have hdiv : num / den = q := by rw [h, Nat.mul_div_cancel q hden]
  unfold nearest
  simp only [hmod, hdiv, Nat.mul_zero, if_pos hden]

theorem fractionCount_eq : fractionCount = 2 ^ 52 := by decide

/-- A magnitude below the first power of two that has a full significand. -/
theorem codeOfUnits_units_small {code : Nat} (h : code < fractionCount) :
    codeOfUnits (units code) 1 = code := by
  have hunits : units code = code := by simp [units, significand, scale, h]
  have hlog : Nat.log2 code - 52 = 0 := by
    by_cases hzero : code = 0
    · simp [hzero]
    · have : Nat.log2 code < 52 := (Nat.log2_lt hzero).mpr (fractionCount_eq ▸ h)
      omega
  rw [hunits, codeOfUnits, Nat.div_one, hlog]
  simp [nearest_of_dvd (Nat.one_pos) (Nat.mul_one code).symm]

theorem log2_scaled {m s : Nat} (hlow : 2 ^ 52 ≤ m) (hhigh : m < 2 ^ 53) :
    Nat.log2 (m * 2 ^ s) = 52 + s := by
  have hne : m * 2 ^ s ≠ 0 := Nat.mul_ne_zero (by omega) (Nat.pow_pos (by decide)).ne'
  rw [Nat.log2_eq_iff hne]
  constructor
  · rw [Nat.pow_add]
    exact Nat.mul_le_mul_right _ hlow
  · rw [show 52 + s + 1 = 53 + s by omega, Nat.pow_add]
    exact Nat.mul_lt_mul_of_pos_right hhigh (Nat.pow_pos (by decide))

theorem codeOfUnits_units_large {code : Nat} (h : fractionCount ≤ code) :
    codeOfUnits (units code) 1 = code := by
  have hmod : code % fractionCount < fractionCount := Nat.mod_lt _ (by decide)
  have hdiv : 1 ≤ code / fractionCount := (Nat.one_le_div_iff (by decide)).mpr h
  have hsplit : fractionCount * (code / fractionCount) + code % fractionCount = code :=
    Nat.div_add_mod code fractionCount
  have hunits : units code =
      (fractionCount + code % fractionCount) * 2 ^ (code / fractionCount - 1) := by
    simp only [units, significand, scale, Nat.not_lt.mpr h, if_false, Nat.pow_eq]
  have hlog : Nat.log2 (units code / 1) - 52 = code / fractionCount - 1 := by
    rw [Nat.div_one, hunits, log2_scaled (by rw [← fractionCount_eq]; omega)]
    · omega
    · rw [Nat.pow_succ, ← fractionCount_eq]
      omega
  rw [codeOfUnits, hlog, Nat.one_mul, Nat.pow_eq, nearest_of_dvd (Nat.pow_pos (by decide)) hunits]
  -- One exponent field less a unit, and the hidden unit of the significand, make up the code.
  calc (code / fractionCount - 1) * fractionCount + (fractionCount + code % fractionCount)
      = (code / fractionCount - 1 + 1) * fractionCount + code % fractionCount := by ring
    _ = fractionCount * (code / fractionCount) + code % fractionCount := by
        rw [Nat.sub_add_cancel hdiv, Nat.mul_comm]
    _ = code := hsplit

/-- A finite magnitude rounds to its own code. -/
theorem codeOfUnits_units (code : Nat) : codeOfUnits (units code) 1 = code := by
  rcases Nat.lt_or_ge code fractionCount with h | h
  · exact codeOfUnits_units_small h
  · exact codeOfUnits_units_large h

/-! ## The exact expansion and the search -/

/-- A whole number of units, written with a five for every two in `one`, reads back as that number of units, if
the tests that keep the arithmetic small let it pass. -/
theorem codeOfDecimal_exact {u k low high : Nat} (hone : one = Nat.pow 2 k) (hu : 0 < u)
    (hlow : low < digitCount (u * Nat.pow 5 k)) (hhigh : digitCount (u * Nat.pow 5 k) ≤ high)
    (hk : k ≤ low + 330) (hk' : high ≤ k + 310) :
    codeOfDecimal (u * Nat.pow 5 k) (-(k : Int)) = min infinityCode (codeOfUnits u 1) := by
  have hne : u * Nat.pow 5 k ≠ 0 := Nat.mul_ne_zero hu.ne' (Nat.pow_pos (by decide)).ne'
  have hpos : (-(k : Int)).toNat = 0 := by omega
  have hneg : (-(-(k : Int))).toNat = k := by omega
  have hten : 5 ^ k * 2 ^ k = 10 ^ k := (Nat.mul_pow 5 2 k).symm
  rw [codeOfDecimal, if_neg hne, if_neg (by omega), if_neg (by omega), hpos, hneg, hone]
  simp only [Nat.pow_eq, Nat.pow_zero, Nat.mul_one]
  rw [codeOfUnits_congr (Nat.pow_pos (by decide)) Nat.one_pos]
  rw [Nat.mul_one, Nat.mul_assoc, hten]

theorem units_pos {code : Nat} (h : code ≠ 0) : 0 < units code := by
  have hpow : 0 < Nat.pow 2 (scale code) := Nat.pow_pos (by decide)
  apply Nat.mul_pos _ hpow
  unfold significand
  split
  · omega
  · have : 0 < fractionCount := by decide
    omega

theorem scale_le {code : Nat} (h : code < infinityCode) : scale code ≤ 2045 := by
  have hdiv : code / fractionCount < 2047 := (Nat.div_lt_iff_lt_mul (by decide)).mpr h
  unfold scale
  split <;> omega

theorem units_lt {code top : Nat} (h : scale code ≤ top) : units code < 2 ^ 53 * Nat.pow 2 top := by
  have hmod : code % fractionCount < fractionCount := Nat.mod_lt _ (by decide)
  have hfull : 2 ^ 53 = fractionCount + fractionCount := by decide
  have hsig : significand code < 2 ^ 53 := by
    unfold significand
    split <;> omega
  have hpow : Nat.pow 2 (scale code) ≤ Nat.pow 2 top := Nat.pow_le_pow_right (by decide) h
  exact Nat.mul_lt_mul_of_lt_of_le hsig hpow (Nat.pow_pos (by decide))

theorem lt_digitCount_mul {u m k : Nat} (hu : 0 < u) (hk : 0 < k) (hm : 10 ^ k ≤ m) :
    k < digitCount (u * m) := by
  by_contra hle
  have hlt := (digitCount_le_iff hk).mp (Nat.not_lt.mp hle)
  have hmul : m ≤ u * m := Nat.le_mul_of_pos_left m hu
  omega

theorem digitCount_mul_le {u v m k : Nat} (hu : u < v) (hm : 0 < m) (hk : 0 < k) (hv : v * m ≤ 10 ^ k) :
    digitCount (u * m) ≤ k := by
  rw [digitCount_le_iff hk]
  exact Nat.lt_of_lt_of_le (Nat.mul_lt_mul_of_pos_right hu hm) hv

/-- The exact expansion reads back. -/
theorem exactDecimal_readsBack {code : Nat} (hne : code ≠ 0) (h : code < infinityCode) :
    codeOfDecimal (exactDecimal code).digits (exactDecimal code).exponent = code := by
  have hpos := units_pos hne
  have hexact := codeOfDecimal_exact (k := 1074) (by decide +kernel) hpos
    (lt_digitCount_mul (k := 744) hpos (by decide) (by decide +kernel))
    (digitCount_mul_le (k := 1384) (units_lt (scale_le h)) (by decide +kernel) (by decide)
      (by decide +kernel)) (by decide) (by decide)
  rw [codeOfUnits_units, Nat.min_eq_right (Nat.le_of_lt h)] at hexact
  exact hexact

theorem withDigits?_readsBack {code count : Nat} {d : Decimal} (h : withDigits? code count = some d) :
    codeOfDecimal d.digits d.exponent = code := by
  unfold withDigits? at h
  have hread := List.find?_some h
  simpa [readsBack] using hread

/-- What the search returns reads back as the magnitude that was searched for. -/
theorem shortest_readsBack {code : Nat} (hne : code ≠ 0) (h : code < infinityCode) :
    codeOfDecimal (shortest code).digits (shortest code).exponent = code := by
  unfold shortest
  cases hfound : (List.range' 1 17).findSome? (withDigits? code) with
  | none => exact exactDecimal_readsBack hne h
  | some d =>
    obtain ⟨count, -, hcount⟩ := List.exists_of_findSome?_eq_some hfound
    exact withDigits?_readsBack hcount

/-- The decimal of a magnitude other than zero has a digit other than zero. -/
theorem shortest_digits_ne_zero {code : Nat} (hne : code ≠ 0) (h : code < infinityCode) :
    (shortest code).digits ≠ 0 := by
  intro hzero
  have hread := shortest_readsBack hne h
  rw [hzero, codeOfDecimal, if_pos rfl] at hread
  exact hne hread.symm

end Tidy.Binary64
