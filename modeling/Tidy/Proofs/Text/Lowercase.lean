/-
# Tidy.Proofs.Text.Lowercase -- lower case is reached in one step

In the lower-case form of a text each code point is its own lower case, so writing it in lower case again changes
nothing (`lower_lower`). What is no white space does not become any, so that a text that was trimmed and written in lower
case stays as it is when both are done again (`lower_trim_lower_trim`).

Both rest on one look through the table of runs (`runs_clear`): the forms of a run stand in no run, and none of them is
white space. It compares ranges, not code points.
-/

import Tidy.Proofs.Text.Trim
import Tidy.Text.Lowercase

namespace Tidy

namespace CodePoint

theorem toNat_of_ofNat? {n : Nat} {c : CodePoint} (h : ofNat? n = some c) : c.toNat = n := by
  unfold ofNat? at h
  split at h
  · rename_i hvalid
    obtain rfl := Option.some.inj h
    show (Char.ofNat n).toNat = n
    rw [Char.ofNat, dif_pos hvalid]
    rfl
  · split at h
    · rename_i hsurrogate
      obtain rfl := Option.some.inj h
      show 0xD800 + (n - 0xD800) % 2048 = n
      omega
    · cases h

/-! ## The runs of the table -/

/-- The number is that of a code point of the run: it is in its range, and whole steps away from its start. -/
def Stands (n : Nat) (run : Nat × Nat × Nat × Int) : Prop :=
  run.1 ≤ n ∧ n ≤ run.2.1 ∧ (n - run.1) % run.2.2.1 = 0

/-- The form of the number `n` by a run. -/
def formOf (run : Nat × Nat × Nat × Int) (n : Nat) : Nat :=
  (n + run.2.2.2).toNat

/-- Are the forms from `first` to `last` before the range from `lo` to `hi`, or behind it? -/
def misses (first last lo hi : Nat) : Bool :=
  Nat.blt last lo || Nat.blt hi first

/-- Do the forms of the run, the first of which is `first`, alternate with the code points of another run? Then both go
by steps of two, or the run has a single code point, and the starts are an odd distance apart. -/
def alternates (run other : Nat × Nat × Nat × Int) (first : Nat) : Bool :=
  Nat.beq other.2.2.1 2 && (Nat.beq run.2.2.1 2 || Nat.beq run.1 run.2.1) && Nat.beq ((first + other.1) % 2) 1

/-- Are the forms of the run code points that stand in no run, are no white space, and are not among the two that lower
case treats on their own? -/
def isClear (run : Nat × Nat × Nat × Int) : Bool :=
  let first := formOf run run.1
  let last := formOf run run.2.1
  Int.toNat (-run.2.2.2) ≤ run.1 && misses first last 0x130 0x130 && misses first last 0x3A3 0x3A3 &&
    (blankRanges.all fun range => misses first last range.1 range.2) &&
    lowercaseRuns.all fun other => misses first last other.1 other.2.1 || alternates run other first

theorem runs_clear : lowercaseRuns.all isClear = true := by
  decide +kernel

/-- The forms of a run are apart from a range. -/
def Apart (run : Nat × Nat × Nat × Int) (lo hi : Nat) : Prop :=
  ∀ n, Stands n run → formOf run n < lo ∨ hi < formOf run n

/-- What the look through the table says of a run. -/
structure Clear (run : Nat × Nat × Nat × Int) : Prop where
  dotted : Apart run 0x130 0x130
  sigma : Apart run 0x3A3 0x3A3
  blank : ∀ range ∈ blankRanges, Apart run range.1 range.2
  form : ∀ other ∈ lowercaseRuns, ∀ n, Stands n run → ¬ Stands (formOf run n) other

theorem apart_of_misses {run : Nat × Nat × Nat × Int} {lo hi : Nat}
    (h : misses (formOf run run.1) (formOf run run.2.1) lo hi = true) : Apart run lo hi := by
  rintro n ⟨hlo, hhi, -⟩
  rw [misses, Bool.or_eq_true, Nat.blt_eq, Nat.blt_eq] at h
  unfold formOf at h ⊢
  omega

/-- The forms of a run stand in no run whose code points they alternate with: they would be an even distance away from
its start. -/
theorem not_stands_of_alternates {run other : Nat × Nat × Nat × Int} (hshift : Int.toNat (-run.2.2.2) ≤ run.1)
    (h : alternates run other (formOf run run.1) = true) {n : Nat} (hn : Stands n run) :
    ¬ Stands (formOf run n) other := by
  obtain ⟨hlo, hhi, hsteps⟩ := hn
  rw [alternates, Bool.and_eq_true, Bool.and_eq_true, Bool.or_eq_true, Nat.beq_eq, Nat.beq_eq, Nat.beq_eq,
    Nat.beq_eq] at h
  obtain ⟨⟨hother, hrun⟩, hodd⟩ := h
  rintro ⟨hlo', hhi', hsteps'⟩
  rw [hother] at hsteps'
  unfold formOf at hodd hlo' hsteps'
  rcases hrun with htwo | hsingle
  · rw [htwo] at hsteps
    omega
  · omega

theorem clear_of_mem {run : Nat × Nat × Nat × Int} (hrun : run ∈ lowercaseRuns) : Clear run := by
  have h := List.all_eq_true.mp runs_clear run hrun
  simp only [isClear, Bool.and_eq_true, decide_eq_true_eq] at h
  obtain ⟨⟨⟨⟨hshift, hdotted⟩, hsigma⟩, hblank⟩, hruns⟩ := h
  refine ⟨apart_of_misses hdotted, apart_of_misses hsigma, ?_, ?_⟩
  · intro range hrange
    exact apart_of_misses (List.all_eq_true.mp hblank range hrange)
  · intro other hother n hn hform
    rcases Bool.or_eq_true_iff.mp (List.all_eq_true.mp hruns other hother) with hmisses | halternates
    · have hapart := apart_of_misses hmisses n hn
      obtain ⟨hlo, hhi, -⟩ := hform
      omega
    · exact not_stands_of_alternates hshift halternates hn hform

/-! ## The lower case of a code point -/

/-- A code point that stands in no run is its own lower case. -/
theorem lower_eq_self {c : CodePoint} (h : ∀ run ∈ lowercaseRuns, ¬ Stands c.toNat run) : c.lower = c := by
  have hnone : (lowercaseRuns.find? fun run =>
      c.within run.1 run.2.1 && (c.toNat - run.1) % run.2.2.1 == 0) = none := by
    rw [List.find?_eq_none]
    intro run hrun hfound
    simp only [within, Bool.and_eq_true, decide_eq_true_eq, beq_iff_eq] at hfound
    exact h run hrun ⟨hfound.1.1, hfound.1.2, hfound.2⟩
  rw [lower, hnone]

/-- A code point is its own lower case, or has a form by the run that it stands in. -/
theorem lower_cases (c : CodePoint) : c.lower = c ∨
    ∃ run ∈ lowercaseRuns, Stands c.toNat run ∧ c.lower.toNat = formOf run c.toNat := by
  cases hfound : lowercaseRuns.find? fun run =>
      c.within run.1 run.2.1 && (c.toNat - run.1) % run.2.2.1 == 0 with
  | none =>
    left
    rw [lower, hfound]
  | some run =>
    have hstands := List.find?_some hfound
    simp only [within, Bool.and_eq_true, decide_eq_true_eq, beq_iff_eq] at hstands
    have hlower : c.lower = (ofNat? (c.toNat + run.2.2.2).toNat).getD c := by rw [lower, hfound]
    cases hform : ofNat? (c.toNat + run.2.2.2).toNat with
    | none =>
      left
      rw [hlower, hform]
      rfl
    | some form =>
      right
      refine ⟨run, List.mem_of_find?_eq_some hfound, ⟨hstands.1.1, hstands.1.2, hstands.2⟩, ?_⟩
      rw [hlower, hform]
      exact toNat_of_ofNat? hform

/-- A code point that lower case leaves as it is, wherever it stands in a text. -/
structure IsLower (c : CodePoint) : Prop where
  lower : c.lower = c
  notDotted : c.toNat ≠ 0x130
  notSigma : c.toNat ≠ 0x3A3

theorem isLower_lower {c : CodePoint} (hdotted : c.toNat ≠ 0x130) (hsigma : c.toNat ≠ 0x3A3) : IsLower c.lower := by
  rcases lower_cases c with hself | ⟨run, hrun, hstands, hform⟩
  · rw [hself]
    exact ⟨hself, hdotted, hsigma⟩
  · have hclear := clear_of_mem hrun
    refine ⟨lower_eq_self fun other hother => ?_, ?_, ?_⟩
    · rw [hform]
      exact hclear.form other hother _ hstands
    · have hapart := hclear.dotted _ hstands
      omega
    · have hapart := hclear.sigma _ hstands
      omega

/-- What is no white space has a form that is none. -/
theorem isBlank_lower {c : CodePoint} (h : c.isBlank = false) : c.lower.isBlank = false := by
  rcases lower_cases c with hself | ⟨run, hrun, hstands, hform⟩
  · rwa [hself]
  · rw [isBlank, inTable, List.any_eq_false]
    intro range hrange
    have hapart := (clear_of_mem hrun).blank range hrange _ hstands
    simp only [within, Bool.and_eq_true, decide_eq_true_eq, hform]
    omega

end CodePoint

/-! ## The lower case of a text -/

namespace Text

open CodePoint (IsLower)

/-- The lower-case form of a code point between two texts; the one before it is given in reverse. -/
def formBetween (before : Text) (c : CodePoint) (rest : Text) : Text :=
  if c.toNat = 0x130 then ['i', Char.ofNat 0x307]
  else if c.toNat = 0x3A3 then
    if CodePoint.metCased before && !CodePoint.metCased rest then [Char.ofNat 0x3C2] else [Char.ofNat 0x3C3]
  else [c.lower]

theorem lowerAfter_cons (before : Text) (c : CodePoint) (rest : Text) :
    lowerAfter before (c :: rest) = formBetween before c rest ++ lowerAfter (c :: before) rest := rfl

theorem formBetween_ne_nil (before : Text) (c : CodePoint) (rest : Text) : formBetween before c rest ≠ [] := by
  unfold formBetween
  split
  · exact List.cons_ne_nil _ _
  · split
    · split <;> exact List.cons_ne_nil _ _
    · exact List.cons_ne_nil _ _

theorem isLower_of_mem_formBetween {before : Text} {c d : CodePoint} {rest : Text}
    (h : d ∈ formBetween before c rest) : IsLower d := by
  -- the forms of the two code points on their own
  have hspecial : ∀ d : CodePoint, d.toNat ∈ [0x69, 0x307, 0x3C2, 0x3C3] → IsLower d := by
    intro d hd
    have hstands : ∀ n ∈ [0x69, 0x307, 0x3C2, 0x3C3], ∀ run ∈ CodePoint.lowercaseRuns,
        ¬ (run.1 ≤ n ∧ n ≤ run.2.1 ∧ (n - run.1) % run.2.2.1 = 0) := by
      decide +kernel
    refine ⟨CodePoint.lower_eq_self (hstands _ hd), ?_, ?_⟩
    · intro hdotted
      rw [hdotted] at hd
      exact absurd hd (by decide)
    · intro hsigma
      rw [hsigma] at hd
      exact absurd hd (by decide)
  unfold formBetween at h
  split at h
  · apply hspecial
    rcases List.mem_cons.mp h with rfl | hmem
    · decide
    · obtain rfl := List.mem_singleton.mp hmem
      decide
  · split at h
    · apply hspecial
      split at h
      · obtain rfl := List.mem_singleton.mp h
        decide
      · obtain rfl := List.mem_singleton.mp h
        decide
    · rename_i hdotted hsigma
      obtain rfl := List.mem_singleton.mp h
      exact CodePoint.isLower_lower hdotted hsigma

theorem isLower_of_mem_lowerAfter {before t : Text} {d : CodePoint} (h : d ∈ lowerAfter before t) : IsLower d := by
  induction t generalizing before with
  | nil => cases h
  | cons c rest ih =>
    rw [lowerAfter_cons] at h
    rcases List.mem_append.mp h with hform | hrest
    · exact isLower_of_mem_formBetween hform
    · exact ih hrest

theorem lowerAfter_of_isLower {t : Text} (h : ∀ c ∈ t, IsLower c) (before : Text) : lowerAfter before t = t := by
  induction t generalizing before with
  | nil => rfl
  | cons c rest ih =>
    have hc := h c List.mem_cons_self
    have hform : formBetween before c rest = [c] := by
      rw [formBetween, if_neg hc.notDotted, if_neg hc.notSigma, hc.lower]
    rw [lowerAfter_cons, hform, ih fun d hd => h d (List.mem_cons_of_mem c hd)]
    rfl

/-- Lower case is reached in one step. -/
theorem lower_lower (t : Text) : lower (lower t) = lower t := by
  apply lowerAfter_of_isLower
  intro c hc
  exact isLower_of_mem_lowerAfter hc

/-! ## White space at the ends -/

theorem isBlank_of_mem_formBetween {before : Text} {c : CodePoint} {rest : Text} (h : c.isBlank = false) :
    ∀ d ∈ formBetween before c rest, d.isBlank = false := by
  unfold formBetween
  split
  · decide
  · split
    · split <;> decide
    · intro d hd
      obtain rfl := List.mem_singleton.mp hd
      exact CodePoint.isBlank_lower h

theorem startsSolid_lowerAfter {t : Text} (h : StartsSolid t) (before : Text) : StartsSolid (lowerAfter before t) := by
  cases t with
  | nil => exact h
  | cons c rest =>
    rw [lowerAfter_cons]
    apply startsSolid_append (formBetween_ne_nil before c rest)
    intro d hd
    exact isBlank_of_mem_formBetween (h c rfl) d (List.mem_of_mem_head? hd)

theorem lowerAfter_ne_nil {t : Text} (h : t ≠ []) (before : Text) : lowerAfter before t ≠ [] := by
  cases t with
  | nil => exact absurd rfl h
  | cons c rest =>
    rw [lowerAfter_cons]
    exact List.append_ne_nil_of_left_ne_nil (formBetween_ne_nil before c rest) _

theorem endsSolid_lowerAfter {t : Text} (h : EndsSolid t) (before : Text) : EndsSolid (lowerAfter before t) := by
  induction t generalizing before with
  | nil => exact h
  | cons c rest ih =>
    rw [lowerAfter_cons]
    by_cases hrest : rest = []
    · -- the form of the last code point is at the end
      subst hrest
      intro d hd
      rw [lowerAfter, List.append_nil] at hd
      exact isBlank_of_mem_formBetween (h c rfl) d (List.mem_of_mem_getLast? hd)
    · have hends : EndsSolid rest := endsSolid_of_append (s := [c]) h
      exact endsSolid_append (lowerAfter_ne_nil hrest _) (ih hends _)

/-- A text that was trimmed and written in lower case is left alone when both are done again. -/
theorem lower_trim_lower_trim (t : Text) : lower (trim (lower (trim t))) = lower (trim t) := by
  have hstart : StartsSolid (lower (trim t)) := startsSolid_lowerAfter (startsSolid_trim t) []
  have hend : EndsSolid (lower (trim t)) := endsSolid_lowerAfter (endsSolid_trim t) []
  rw [trim_of_solid hstart hend, lower_lower]

end Text

end Tidy
