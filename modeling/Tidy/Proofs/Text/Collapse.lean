/-
# Tidy.Proofs.Text.Collapse -- runs of white space as single spaces

Collapsing writes every run of white space as one space. It keeps solid ends solid, it can be done before or after
trimming, and doing it again changes nothing: the texts that it leaves alone are those in which white space is single
spaces (`SingleSpaced`). `squeezed` is a collapsed text without white space at its end; it is computed code point by
code point from the left.
-/

import Mathlib.Data.List.Chain
import Tidy.Proofs.Text.Trim

namespace Tidy.Text

open CodePoint (char)

/-- What is left of leading white space, once a run has begun before it, is nothing. -/
theorem collapseFrom_true (t : Text) : collapseFrom true t = collapse (trimStart t) := by
  induction t with
  | nil => rfl
  | cons c t ih =>
    rw [collapseFrom, trimStart, List.dropWhile_cons]
    cases hc : c.isBlank with
    | true => exact ih
    | false =>
      rw [if_neg Bool.false_ne_true, if_neg Bool.false_ne_true, collapse, collapseFrom, hc]
      rfl

theorem startsSolid_collapse {t : Text} (h : StartsSolid t) : StartsSolid (collapse t) := by
  cases t with
  | nil => exact h
  | cons c t =>
    have hc := h c rfl
    rw [collapse, collapseFrom, hc]
    exact startsSolid_of_head rfl hc

theorem collapseFrom_append (inRun : Bool) (s t : Text) :
    ∃ r, collapseFrom inRun (s ++ t) = collapseFrom inRun s ++ collapseFrom r t := by
  induction s generalizing inRun with
  | nil => exact ⟨inRun, rfl⟩
  | cons c s ih =>
    rw [List.cons_append, collapseFrom, collapseFrom]
    split
    · obtain ⟨r, hr⟩ := ih true
      split
      · exact ⟨r, hr⟩
      · exact ⟨r, by rw [hr]; rfl⟩
    · obtain ⟨r, hr⟩ := ih false
      exact ⟨r, by rw [hr]; rfl⟩

theorem isBlank_collapseFrom (inRun : Bool) (t : Text) : isBlank (collapseFrom inRun t) = isBlank t := by
  induction t generalizing inRun with
  | nil => rfl
  | cons c t ih =>
    rw [collapseFrom]
    cases hc : c.isBlank with
    | true =>
      have hrest : isBlank (c :: t) = isBlank t := by rw [isBlank, List.all_cons, hc, Bool.true_and]; rfl
      rw [hrest, if_pos rfl]
      cases inRun with
      | true => exact ih true
      | false => exact ih true
    | false =>
      rw [if_neg Bool.false_ne_true, isBlank, List.all_cons, isBlank, List.all_cons, hc, Bool.false_and,
        Bool.false_and]

theorem endsSolid_collapseFrom (inRun : Bool) {t : Text} (h : EndsSolid t) : EndsSolid (collapseFrom inRun t) := by
  rcases List.eq_nil_or_concat t with rfl | ⟨s, c, rfl⟩
  · exact endsSolid_nil
  · rw [List.concat_eq_append] at h ⊢
    have hc := h c List.getLast?_concat
    obtain ⟨r, hr⟩ := collapseFrom_append inRun s [c]
    rw [hr, collapseFrom, hc]
    exact endsSolid_append (List.cons_ne_nil c []) (endsSolid_of_getLast (t := [c]) rfl hc)

/-- Trimming and collapsing can be done in either order. -/
theorem collapse_trimStart (t : Text) : collapse (trimStart t) = trimStart (collapse t) := by
  cases t with
  | nil => rfl
  | cons c t =>
    rw [trimStart, List.dropWhile_cons, collapse, collapse, collapseFrom]
    cases hc : c.isBlank with
    | true =>
      have hsolid := startsSolid_collapse (startsSolid_trimStart t)
      rw [if_pos rfl, if_pos rfl, if_neg Bool.false_ne_true, collapseFrom_true]
      exact (trimStart_of_startsSolid hsolid).symm
    | false =>
      rw [if_neg Bool.false_ne_true, if_neg Bool.false_ne_true, collapseFrom, hc, if_neg Bool.false_ne_true]
      exact (trimStart_of_startsSolid (startsSolid_of_head rfl hc)).symm

theorem collapse_trimEnd (t : Text) : collapse (trimEnd t) = trimEnd (collapse t) := by
  obtain ⟨tail, htail, ht⟩ := exists_trimEnd t
  obtain ⟨r, hr⟩ := collapseFrom_append false (trimEnd t) tail
  have hblank : isBlank (collapseFrom r tail) = true := by rw [isBlank_collapseFrom, htail]
  calc collapse (trimEnd t)
      = trimEnd (collapse (trimEnd t)) :=
        (trimEnd_of_endsSolid (endsSolid_collapseFrom false (endsSolid_trimEnd t))).symm
    _ = trimEnd (collapse (trimEnd t) ++ collapseFrom r tail) := (trimEnd_append_of_isBlank hblank _).symm
    _ = trimEnd (collapse t) := by rw [collapse, collapse, ← hr, ← ht]

theorem collapse_trim (t : Text) : collapse (trim t) = trim (collapse t) := by
  rw [trim, collapse_trimEnd, collapse_trimStart, trim]

theorem collapseFrom_collapseFrom (inRun : Bool) (t : Text) :
    collapseFrom inRun (collapseFrom inRun t) = collapseFrom inRun t := by
  induction t generalizing inRun with
  | nil => rfl
  | cons c t ih =>
    rw [collapseFrom]
    cases hc : c.isBlank with
    | true =>
      cases inRun with
      | true => exact ih true
      | false =>
        show char ' ' :: collapseFrom true (collapseFrom true t) = _
        rw [ih true]
        rfl
    | false =>
      rw [if_neg Bool.false_ne_true, collapseFrom, hc, if_neg Bool.false_ne_true, ih false]

theorem collapse_collapse (t : Text) : collapse (collapse t) = collapse t :=
  collapseFrom_collapseFrom false t

/-! ## Single spaces -/

/-- All white space in the text is single spaces. -/
structure SingleSpaced (t : Text) : Prop where
  spaces : ∀ c ∈ t, c.isBlank = true → c = char ' '
  apart : t.IsChain fun c d => c.isBlank = true → d.isBlank = false

theorem SingleSpaced.part {s t : Text} (h : SingleSpaced t) (hs : s <:+: t) : SingleSpaced s := by
  refine ⟨fun c hc => h.spaces c (hs.subset hc), ?_⟩
  obtain ⟨before, after, rfl⟩ := hs
  exact h.apart.left_of_append.right_of_append

theorem singleSpaced_nil : SingleSpaced [] := ⟨by rintro c ⟨⟩, .nil⟩

theorem SingleSpaced.newline_notMem {t : Text} (h : SingleSpaced t) : CodePoint.newline ∉ t := by
  intro hmem
  exact absurd (h.spaces _ hmem rfl) (by decide)

/-- A solid code point may stand before any such text. -/
theorem singleSpaced_cons_solid {c : CodePoint} (hc : c.isBlank = false) {t : Text} :
    SingleSpaced (c :: t) ↔ SingleSpaced t := by
  refine ⟨fun h => h.part (List.suffix_cons c t).isInfix, fun h => ⟨?_, h.apart.cons ?_⟩⟩
  · intro d hd hblank
    rcases List.mem_cons.mp hd with rfl | hmem
    · rw [hc] at hblank
      cases hblank
    · exact h.spaces d hmem hblank
  · intro d hd hblank
    rw [hc] at hblank
    cases hblank

theorem singleSpaced_cons_blank {c : CodePoint} (hc : c.isBlank = true) {t : Text} :
    SingleSpaced (c :: t) ↔ c = char ' ' ∧ StartsSolid t ∧ SingleSpaced t := by
  constructor
  · intro h
    refine ⟨h.spaces c List.mem_cons_self hc, ?_, h.part (List.suffix_cons c t).isInfix⟩
    intro d hd
    exact (List.isChain_cons.mp h.apart).1 d hd hc
  · rintro ⟨rfl, hstart, h⟩
    refine ⟨?_, h.apart.cons fun d hd _ => hstart d hd⟩
    intro d hd hblank
    rcases List.mem_cons.mp hd with rfl | hmem
    · rfl
    · exact h.spaces d hmem hblank

theorem singleSpaced_collapseFrom (inRun : Bool) (t : Text) :
    SingleSpaced (collapseFrom inRun t) ∧ (inRun = true → StartsSolid (collapseFrom inRun t)) := by
  induction t generalizing inRun with
  | nil => exact ⟨singleSpaced_nil, fun _ c hc => by cases hc⟩
  | cons c t ih =>
    rw [collapseFrom]
    cases hc : c.isBlank with
    | true =>
      rw [if_pos rfl]
      obtain ⟨hrest, hstart⟩ := ih true
      cases inRun with
      | true => exact ⟨hrest, hstart⟩
      | false => exact ⟨(singleSpaced_cons_blank rfl).mpr ⟨rfl, hstart rfl, hrest⟩, fun h => by cases h⟩
    | false =>
      rw [if_neg Bool.false_ne_true]
      exact ⟨(singleSpaced_cons_solid hc).mpr (ih false).1, fun _ => startsSolid_of_head rfl hc⟩

theorem collapse_of_singleSpaced {t : Text} (h : SingleSpaced t) : collapse t = t := by
  induction t with
  | nil => rfl
  | cons c t ih =>
    rw [collapse, collapseFrom]
    cases hc : c.isBlank with
    | true =>
      obtain ⟨rfl, hstart, hrest⟩ := (singleSpaced_cons_blank hc).mp h
      rw [if_pos rfl, if_neg Bool.false_ne_true, collapseFrom_true, trimStart_of_startsSolid hstart, ih hrest]
    | false =>
      rw [if_neg Bool.false_ne_true]
      exact congrArg (c :: ·) (ih ((singleSpaced_cons_solid hc).mp h))

/-- Collapsing leaves a text alone exactly if its white space is single spaces. -/
theorem collapse_eq_self_iff (t : Text) : collapse t = t ↔ SingleSpaced t := by
  refine ⟨fun h => ?_, collapse_of_singleSpaced⟩
  rw [← h]
  exact (singleSpaced_collapseFrom false t).1

/-! ## Squeezed texts -/

/-- The text with its runs of white space as single spaces, and without white space at its end. -/
def squeezed (t : Text) : Text :=
  trimEnd (collapse t)

theorem singleSpaced_squeezed (t : Text) : SingleSpaced (squeezed t) := by
  rw [← collapse_eq_self_iff, squeezed, collapse_trimEnd, collapse_collapse]

theorem squeezed_cons {c : CodePoint} (hc : c.isBlank = false) (t : Text) : squeezed (c :: t) = c :: squeezed t := by
  rw [squeezed, collapse, collapseFrom, hc, if_neg Bool.false_ne_true]
  exact trimEnd_cons_of_solid hc _

theorem startsSolid_squeezed {t : Text} (h : StartsSolid t) : StartsSolid (squeezed t) := by
  cases t with
  | nil => exact h
  | cons c t =>
    have hc := h c rfl
    rw [squeezed_cons hc]
    exact startsSolid_of_head rfl hc

theorem squeezed_blank {t : Text} (h : isBlank t = true) : squeezed t = [] := by
  have hblank : isBlank (collapse t) = true := (isBlank_collapseFrom false t).trans h
  exact trimEnd_eq_nil hblank

/-- White space before a text becomes one space. -/
theorem squeezed_gap {c : CodePoint} (hc : c.isBlank = true) {t : Text} (h : isBlank t = false) :
    squeezed (c :: t) = char ' ' :: squeezed (trimStart t) := by
  have hsolid : isBlank (collapse (trimStart t)) = false := by
    rw [collapse, isBlank_collapseFrom, isBlank_trimStart, h]
  rw [squeezed, collapse, collapseFrom, hc, if_pos rfl, if_neg Bool.false_ne_true, collapseFrom_true]
  exact trimEnd_append_of_not_isBlank hsolid [char ' ']

theorem squeezed_append_blank {t : Text} (h : isBlank t = true) (s : Text) : squeezed (s ++ t) = squeezed s := by
  obtain ⟨r, hr⟩ := collapseFrom_append false s t
  rw [squeezed, collapse, hr, trimEnd_append_of_isBlank ((isBlank_collapseFrom r t).trans h)]
  rfl

/-- A text with single spaces and a solid end is left alone, whatever follows it. -/
theorem squeezed_append {s : Text} (h : SingleSpaced s) (hends : EndsSolid s) (t : Text) :
    squeezed (s ++ t) = s ++ squeezed t := by
  induction s with
  | nil => rfl
  | cons c s ih =>
    have hends' : EndsSolid s := endsSolid_of_append (s := [c]) hends
    cases hc : c.isBlank with
    | false => rw [List.cons_append, squeezed_cons hc, ih ((singleSpaced_cons_solid hc).mp h) hends', List.cons_append]
    | true =>
      obtain ⟨rfl, hstart, hrest⟩ := (singleSpaced_cons_blank hc).mp h
      cases s with
      | nil => exact absurd (hends _ rfl) (by decide)
      | cons d s =>
        have hd := hstart d rfl
        have hsolid : isBlank (d :: s ++ t) = false := by
          rw [List.cons_append, isBlank, List.all_cons, hd, Bool.false_and]
        have hnext : StartsSolid (d :: s ++ t) := startsSolid_of_head rfl hd
        show squeezed (char ' ' :: (d :: s ++ t)) = char ' ' :: (d :: s ++ squeezed t)
        rw [squeezed_gap rfl hsolid, trimStart_of_startsSolid hnext, ih hrest hends']

end Tidy.Text
