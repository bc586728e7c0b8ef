/-
# Tidy.Proofs.Text.LineEnds -- texts whose lines end with line feeds only

A text that is read from a file has no other line ends (`plainEnds_unifyNewlines`), and such a text is read from a file
as it was written (`unifyNewlines_of_plainEnds`). Layouts keep it so: they take white space out and put in spaces and
line feeds.
-/

import Tidy.Proofs.Layout
import Tidy.Text.Utf8

namespace Tidy

namespace Text

/-- Does the text have no line ends but line feeds? -/
def PlainEnds (t : Text) : Prop :=
  CodePoint.char '\r' ∉ t

instance (t : Text) : Decidable (PlainEnds t) := inferInstanceAs (Decidable (_ ∉ _))

theorem plainEnds_nil : PlainEnds [] := List.not_mem_nil

theorem plainEnds_cons {c : CodePoint} {t : Text} : PlainEnds (c :: t) ↔ c ≠ CodePoint.char '\r' ∧ PlainEnds t := by
  simp only [PlainEnds, List.mem_cons, not_or, ne_eq, eq_comm]

theorem plainEnds_append {s t : Text} : PlainEnds (s ++ t) ↔ PlainEnds s ∧ PlainEnds t := by
  simp [PlainEnds]

theorem unifyNewlines_of_plainEnds {t : Text} (h : PlainEnds t) : unifyNewlines t = t := by
  induction t using unifyNewlines.induct with
  | case1 => rfl
  | case2 => exact absurd List.mem_cons_self h
  | case3 c hc => rw [unifyNewlines, if_neg hc]
  | case4 rest _ => exact absurd List.mem_cons_self h
  | case5 d rest _ _ => exact absurd List.mem_cons_self h
  | case6 c d rest hc ih => rw [unifyNewlines, if_neg hc, ih fun hmem => h (List.mem_cons_of_mem c hmem)]

theorem plainEnds_unifyNewlines (t : Text) : PlainEnds (unifyNewlines t) := by
  have hfeed : CodePoint.char '\n' ≠ CodePoint.char '\r' := by decide
  induction t using unifyNewlines.induct with
  | case1 => exact plainEnds_nil
  | case2 => exact plainEnds_cons.mpr ⟨hfeed, plainEnds_nil⟩
  | case3 c hc =>
    rw [unifyNewlines, if_neg hc]
    exact plainEnds_cons.mpr ⟨hc, plainEnds_nil⟩
  | case4 rest ih =>
    rw [unifyNewlines, if_pos rfl, if_pos rfl]
    exact plainEnds_cons.mpr ⟨hfeed, ih⟩
  | case5 d rest hd ih =>
    rw [unifyNewlines, if_pos rfl, if_neg hd]
    exact plainEnds_cons.mpr ⟨hfeed, ih⟩
  | case6 c d rest hc ih =>
    rw [unifyNewlines, if_neg hc]
    exact plainEnds_cons.mpr ⟨hc, ih⟩

/-! ## Parts of texts -/

theorem PlainEnds.of_subset {s t : Text} (h : PlainEnds t) (hsub : s ⊆ t) : PlainEnds s :=
  fun hmem => h (hsub hmem)

theorem plainEnds_spaces (n : Nat) : PlainEnds (spaces n) := by
  intro hmem
  exact absurd (List.eq_of_mem_replicate hmem) (by decide)

theorem PlainEnds.trimStart {t : Text} (h : PlainEnds t) : PlainEnds (trimStart t) :=
  h.of_subset (List.dropWhile_subset _)

theorem PlainEnds.trimEnd {t : Text} (h : PlainEnds t) : PlainEnds (trimEnd t) := by
  obtain ⟨tail, -, ht⟩ := exists_trimEnd t
  rw [ht, plainEnds_append] at h
  exact h.1

theorem PlainEnds.trim {t : Text} (h : PlainEnds t) : PlainEnds (trim t) :=
  h.trimStart.trimEnd

end Text

/-- Rendering adds spaces and line feeds to the contents. -/
theorem Layout.plainEnds_render (width : Nat) {entries : List Entry} (h : ∀ e ∈ entries, Text.PlainEnds e.content) :
    Text.PlainEnds (render width entries) := by
  induction entries with
  | nil => exact Text.plainEnds_nil
  | cons e rest ih =>
    obtain ⟨he, hrest⟩ := List.forall_mem_cons.mp h
    have hline : Text.PlainEnds (line width e) := Text.plainEnds_append.mpr ⟨Text.plainEnds_spaces _, he⟩
    by_cases hnil : rest = []
    · rw [hnil]
      exact hline
    · rw [render_cons width e hnil]
      exact Text.plainEnds_append.mpr ⟨hline, Text.plainEnds_cons.mpr ⟨by decide, ih hrest⟩⟩

end Tidy
