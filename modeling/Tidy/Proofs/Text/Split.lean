/-
# Tidy.Proofs.Text.Split -- texts cut at a mark

Cutting at a mark takes apart along the marks (`splitAt_append`), a text without the mark is one part, and no part has
the mark in it (`mark_notMem_of_mem_splitAt`).
-/

import Tidy.Text.CodePoint
import Mathlib.Data.List.Basic

namespace Tidy.Text

variable {mark : CodePoint}

theorem splitAt_ne_nil (mark : CodePoint) (t : Text) : splitAt mark t ≠ [] := by
  cases t with
  | nil => exact List.cons_ne_nil _ _
  | cons c rest =>
    rw [splitAt]
    split
    · exact List.cons_ne_nil _ _
    · split <;> exact List.cons_ne_nil _ _

theorem splitAt_mark (mark : CodePoint) (rest : Text) : splitAt mark (mark :: rest) = [] :: splitAt mark rest := by
  rw [splitAt, if_pos rfl]

/-- Any other code point at the start stands in front of the mark. -/
theorem exists_before_mark {c : CodePoint} (hc : c ≠ mark) {rest first last : Text}
    (h : c :: rest = first ++ mark :: last) : ∃ more, first = c :: more ∧ rest = more ++ mark :: last := by
  rcases List.cons_eq_append_iff.mp h with ⟨-, hmark⟩ | hfirst
  · exact absurd (List.cons.inj hmark).1.symm hc
  · exact hfirst

/-- A code point goes to the first part, unless it is the mark. -/
theorem splitAt_cons {c : CodePoint} (hc : c ≠ mark) {rest first : Text} {others : List Text}
    (h : splitAt mark rest = first :: others) : splitAt mark (c :: rest) = (c :: first) :: others := by
  rw [splitAt, if_neg hc, h]

theorem splitAt_append (mark : CodePoint) (s t : Text) :
    splitAt mark (s ++ mark :: t) = splitAt mark s ++ splitAt mark t := by
  induction s with
  | nil => exact splitAt_mark mark t
  | cons c s ih =>
    by_cases hc : c = mark
    · rw [hc, List.cons_append, splitAt_mark, ih, splitAt_mark]
      rfl
    · obtain ⟨first, others, hs⟩ := List.exists_cons_of_ne_nil (splitAt_ne_nil mark s)
      rw [hs, List.cons_append] at ih
      rw [List.cons_append, splitAt_cons hc ih, splitAt_cons hc hs]
      rfl

theorem splitAt_single {t : Text} (h : mark ∉ t) : splitAt mark t = [t] := by
  induction t with
  | nil => rfl
  | cons c t ih =>
    rw [List.mem_cons, not_or] at h
    exact splitAt_cons (fun hc => h.1 hc.symm) (ih h.2)

/-- The mark stands in no part. -/
theorem mark_notMem_of_mem_splitAt {t part : Text} (h : part ∈ splitAt mark t) : mark ∉ part := by
  induction t generalizing part with
  | nil =>
    rw [List.mem_singleton.mp h]
    exact List.not_mem_nil
  | cons c t ih =>
    by_cases hc : c = mark
    · rw [hc, splitAt_mark] at h
      rcases List.mem_cons.mp h with rfl | h
      · exact List.not_mem_nil
      · exact ih h
    · obtain ⟨first, others, ht⟩ := List.exists_cons_of_ne_nil (splitAt_ne_nil mark t)
      rw [splitAt_cons hc ht] at h
      rcases List.mem_cons.mp h with rfl | h
      · have hfirst : mark ∉ first := ih (by rw [ht]; exact List.mem_cons_self)
        exact fun hmem => (List.mem_cons.mp hmem).elim (fun heq => hc heq.symm) hfirst
      · exact ih (by rw [ht]; exact List.mem_cons_of_mem _ h)

theorem subset_of_mem_splitAt {t part : Text} (h : part ∈ splitAt mark t) : part ⊆ t := by
  induction t generalizing part with
  | nil =>
    rw [List.mem_singleton.mp h]
    exact List.Subset.refl []
  | cons c t ih =>
    obtain ⟨first, others, ht⟩ := List.exists_cons_of_ne_nil (splitAt_ne_nil mark t)
    by_cases hc : c = mark
    · rw [hc, splitAt_mark] at h
      rcases List.mem_cons.mp h with rfl | h
      · exact List.nil_subset _
      · exact List.subset_cons_of_subset c (ih h)
    · rw [splitAt_cons hc ht] at h
      rcases List.mem_cons.mp h with rfl | h
      · exact List.cons_subset_cons c (ih (by rw [ht]; exact List.mem_cons_self))
      · exact List.subset_cons_of_subset c (ih (by rw [ht]; exact List.mem_cons_of_mem _ h))

end Tidy.Text
