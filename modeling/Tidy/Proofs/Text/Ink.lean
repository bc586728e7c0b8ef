/-
# Tidy.Proofs.Text.Ink -- what is left of a text without its white space

Layouts move white space and keep the rest, so they are compared by what is left without it (`unspaced`). Where a solid
code point stands is told by what stands before and behind it: white space in front of a text moves no such place
(`exists_behind_blank`), and two of them that follow each other have one gap between them (`gap_unique`).
-/

import Tidy.Proofs.Text.Trim

namespace Tidy.Text

/-- The text without its white space. -/
def unspaced (t : Text) : Text :=
  t.filter (!·.isBlank)

@[simp] theorem unspaced_nil : unspaced [] = [] := rfl

@[simp] theorem unspaced_append (s t : Text) : unspaced (s ++ t) = unspaced s ++ unspaced t :=
  List.filter_append s t

theorem unspaced_cons_solid {c : CodePoint} (h : c.isBlank = false) (t : Text) : unspaced (c :: t) = c :: unspaced t :=
  List.filter_cons_of_pos (by simp [h])

theorem unspaced_cons_blank {c : CodePoint} (h : c.isBlank = true) (t : Text) : unspaced (c :: t) = unspaced t :=
  List.filter_cons_of_neg (by simp [h])

theorem unspaced_eq_nil_iff (t : Text) : unspaced t = [] ↔ isBlank t = true := by
  simp [unspaced, isBlank, List.filter_eq_nil_iff]

theorem unspaced_of_isBlank {t : Text} (h : isBlank t = true) : unspaced t = [] :=
  (unspaced_eq_nil_iff t).mpr h

theorem unspaced_trimStart (t : Text) : unspaced (trimStart t) = unspaced t := by
  obtain ⟨lead, hlead, ht⟩ := exists_trimStart t
  calc unspaced (trimStart t)
      = unspaced (lead ++ trimStart t) := by rw [unspaced_append, unspaced_of_isBlank hlead, List.nil_append]
    _ = unspaced t := by rw [← ht]

theorem unspaced_trimEnd (t : Text) : unspaced (trimEnd t) = unspaced t := by
  obtain ⟨tail, htail, ht⟩ := exists_trimEnd t
  calc unspaced (trimEnd t)
      = unspaced (trimEnd t ++ tail) := by rw [unspaced_append, unspaced_of_isBlank htail, List.append_nil]
    _ = unspaced t := by rw [← ht]

/-! ## Places -/

theorem solid_notMem {t : Text} (h : isBlank t = true) {c : CodePoint} (hc : c.isBlank = false) : c ∉ t := by
  intro hmem
  rw [List.all_eq_true.mp h c hmem] at hc
  cases hc

/-- A solid code point of a text that begins with white space stands behind it. -/
theorem exists_behind_blank {lead : Text} (h : isBlank lead = true) {c : CodePoint} (hc : c.isBlank = false)
    {t before after : Text} (heq : lead ++ t = before ++ c :: after) :
    ∃ between, before = lead ++ between ∧ t = between ++ c :: after := by
  rcases List.append_eq_append_iff.mp heq with ⟨between, hbefore, ht⟩ | ⟨between, hlead, hafter⟩
  · exact ⟨between, hbefore, ht⟩
  · cases between with
    | nil =>
      rw [List.append_nil] at hlead
      exact ⟨[], by rw [hlead, List.append_nil], hafter.symm⟩
    | cons d between =>
      -- then the code point would be part of the white space
      obtain ⟨rfl, -⟩ := List.cons.inj hafter
      refine absurd ?_ (solid_notMem h hc)
      rw [hlead]
      exact List.mem_append_right _ List.mem_cons_self

/-- White space up to a solid code point is all the white space there is. -/
theorem gap_unique {gap gap' s t : Text} {b c : CodePoint} (hgap : isBlank gap = true) (hgap' : isBlank gap' = true)
    (hb : b.isBlank = false) (hc : c.isBlank = false) (h : gap ++ b :: s = gap' ++ c :: t) :
    gap = gap' ∧ b = c ∧ s = t := by
  obtain ⟨between, rfl, hrest⟩ := exists_behind_blank hgap hc h
  cases between with
  | nil =>
    obtain ⟨rfl, rfl⟩ := List.cons.inj hrest
    exact ⟨(List.append_nil gap).symm, rfl, rfl⟩
  | cons d between =>
    obtain ⟨rfl, -⟩ := List.cons.inj hrest
    refine absurd ?_ (solid_notMem hgap' hb)
    exact List.mem_append_right _ List.mem_cons_self

end Tidy.Text
