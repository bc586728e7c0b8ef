/-
# Tidy.Proofs.Text.Whole -- texts that can be written

A text has a UTF-8 form unless a surrogate stands alone in it. What the program says in its own words has none: its
words and numbers are characters, and what it quotes from a document is quoted by number where it is not.
-/

import Tidy.Text.Quoted

namespace Tidy

/-- No surrogate is shown as itself. -/
theorem CodePoint.isSurrogate_of_isPrintable {c : CodePoint} (h : c.isPrintable = true) : c.isSurrogate = false := by
  cases c with
  | char c => rfl
  | surrogate unit =>
    have hrange : ((0xD7FC, 0xF8FF) : Nat × Nat) ∈ CodePoint.unprintableRanges := by decide +kernel
    have hwithin : (CodePoint.surrogate unit).within 0xD7FC 0xF8FF = true := by
      have hunit : 0xD7FC ≤ 0xD800 + unit.val ∧ 0xD800 + unit.val ≤ 0xF8FF := by omega
      exact Bool.and_eq_true_iff.mpr ⟨decide_eq_true hunit.1, decide_eq_true hunit.2⟩
    have htable : (CodePoint.surrogate unit).inTable CodePoint.unprintableRanges = true :=
      List.any_eq_true.mpr ⟨_, hrange, hwithin⟩
    rw [CodePoint.isPrintable, htable] at h
    cases h

namespace Text

@[simp] theorem hasSurrogate_nil : hasSurrogate [] = false := rfl

@[simp] theorem hasSurrogate_cons (c : CodePoint) (t : Text) :
    hasSurrogate (c :: t) = (c.isSurrogate || hasSurrogate t) := rfl

@[simp] theorem hasSurrogate_append (s t : Text) : hasSurrogate (s ++ t) = (hasSurrogate s || hasSurrogate t) :=
  List.any_append

theorem hasSurrogate_eq_false_iff (t : Text) : hasSurrogate t = false ↔ ∀ c ∈ t, c.isSurrogate = false := by
  rw [hasSurrogate, List.any_eq_false]
  simp only [Bool.not_eq_true]

/-- Part of a text that can be written can be written. -/
theorem hasSurrogate_of_subset {s t : Text} (h : ∀ c ∈ s, c ∈ t) (ht : hasSurrogate t = false) :
    hasSurrogate s = false := by
  rw [hasSurrogate_eq_false_iff] at ht ⊢
  exact fun c hc => ht c (h c hc)

@[simp] theorem hasSurrogate_map_char (cs : List Char) : hasSurrogate (cs.map CodePoint.char) = false := by
  rw [hasSurrogate_eq_false_iff]
  intro c hc
  obtain ⟨d, -, rfl⟩ := List.mem_map.mp hc
  rfl

@[simp] theorem hasSurrogate_ofString (s : String) : hasSurrogate (ofString s) = false :=
  hasSurrogate_map_char s.toList

@[simp] theorem hasSurrogate_ofNat (n : Nat) : hasSurrogate (ofNat n) = false :=
  hasSurrogate_map_char (Nat.toDigits 10 n)

@[simp] theorem hasSurrogate_ofInt (n : Int) : hasSurrogate (ofInt n) = false := by
  cases n with
  | ofNat n => exact hasSurrogate_ofNat n
  | negSucc n => exact hasSurrogate_ofNat (n + 1)

@[simp] theorem hasSurrogate_hex (width n : Nat) : hasSurrogate (hex width n) = false := by
  rw [hex, hasSurrogate_append, hasSurrogate_map_char, Bool.or_false, hasSurrogate_eq_false_iff]
  intro c hc
  rw [(List.mem_replicate.mp hc).2]
  rfl

theorem hasSurrogate_quotedCodePoint {mark : CodePoint} (hmark : mark.isSurrogate = false) (c : CodePoint) :
    hasSurrogate (quotedCodePoint mark c) = false := by
  unfold quotedCodePoint
  split
  · rename_i hescaped
    rcases Bool.or_eq_true_iff.mp hescaped with hc | hc
    · rw [of_decide_eq_true hc, hasSurrogate_cons, hasSurrogate_cons, hmark]
      rfl
    · rw [of_decide_eq_true hc]
      rfl
  · repeat' split
    all_goals first
      | rfl
      | exact hasSurrogate_hex _ _
      | simpa using CodePoint.isSurrogate_of_isPrintable ‹_›

/-- What stands between quotes can be written, whatever was quoted. -/
@[simp] theorem hasSurrogate_quoted (t : Text) : hasSurrogate (quoted t) = false := by
  have hmark : (quoteMark t).isSurrogate = false := by
    unfold quoteMark
    split <;> rfl
  rw [quoted, hasSurrogate_cons, hmark, Bool.false_or, hasSurrogate_append, hasSurrogate_cons, hmark, hasSurrogate_nil,
    Bool.or_self, Bool.or_false, hasSurrogate_eq_false_iff]
  intro c hc
  obtain ⟨d, -, hc⟩ := List.mem_flatMap.mp hc
  exact (hasSurrogate_eq_false_iff _).mp (hasSurrogate_quotedCodePoint hmark d) c hc

end Text

end Tidy
