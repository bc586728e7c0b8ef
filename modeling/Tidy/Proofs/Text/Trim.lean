/-
# Tidy.Proofs.Text.Trim -- what trimming takes away

Trimming takes white space away from the ends of a text and leaves a text with a solid start and a solid end. On a
text that has these already it does nothing.
-/

import Tidy.Text.Blank

namespace Tidy.Text

/-- The text does not start with white space. -/
def StartsSolid (t : Text) : Prop := ∀ c, t.head? = some c → c.isBlank = false

/-- The text does not end with white space. -/
def EndsSolid (t : Text) : Prop := ∀ c, t.getLast? = some c → c.isBlank = false

theorem endsSolid_iff_reverse (t : Text) : EndsSolid t ↔ StartsSolid t.reverse := by
  rw [EndsSolid, StartsSolid, List.head?_reverse]

theorem startsSolid_of_head {t : Text} {c : CodePoint} (h : t.head? = some c) (hc : c.isBlank = false) :
    StartsSolid t := by
  intro d hd
  rw [h] at hd
  obtain rfl : c = d := by injection hd
  exact hc

theorem endsSolid_of_getLast {t : Text} {c : CodePoint} (h : t.getLast? = some c) (hc : c.isBlank = false) :
    EndsSolid t := by
  rw [endsSolid_iff_reverse]
  exact startsSolid_of_head (List.head?_reverse.trans h) hc

theorem startsSolid_append {s : Text} (hne : s ≠ []) (h : StartsSolid s) (t : Text) : StartsSolid (s ++ t) := by
  cases s with
  | nil => exact absurd rfl hne
  | cons c s => exact startsSolid_of_head rfl (h c rfl)

theorem endsSolid_append {s t : Text} (hne : t ≠ []) (h : EndsSolid t) : EndsSolid (s ++ t) := by
  rw [endsSolid_iff_reverse, List.reverse_append]
  exact startsSolid_append (by simpa using hne) ((endsSolid_iff_reverse t).mp h) _

theorem endsSolid_nil : EndsSolid [] := by
  intro c hc
  cases hc

theorem EndsSolid.append {s t : Text} (hs : EndsSolid s) (ht : EndsSolid t) : EndsSolid (s ++ t) := by
  cases t with
  | nil => rwa [List.append_nil]
  | cons c t => exact endsSolid_append (List.cons_ne_nil c t) ht

theorem endsSolid_of_append {s t : Text} (h : EndsSolid (s ++ t)) : EndsSolid t := by
  intro c hc
  apply h
  rw [List.getLast?_append, hc, Option.some_or]

theorem isBlank_append (s t : Text) : isBlank (s ++ t) = (isBlank s && isBlank t) :=
  List.all_append

theorem isBlank_reverse (t : Text) : isBlank t.reverse = isBlank t :=
  List.all_reverse

theorem isBlank_spaces (n : Nat) : isBlank (spaces n) = true := by
  rw [isBlank, List.all_eq_true]
  intro c hc
  rw [List.eq_of_mem_replicate hc]
  rfl

/-! ## The start -/

theorem trimStart_of_startsSolid {t : Text} (h : StartsSolid t) : trimStart t = t := by
  cases t with
  | nil => rfl
  | cons c t =>
    rw [trimStart, List.dropWhile_cons, h c rfl]
    rfl

theorem trimStart_append_of_isBlank {lead : Text} (h : isBlank lead = true) (t : Text) :
    trimStart (lead ++ t) = trimStart t :=
  List.dropWhile_append_of_pos (List.all_eq_true.mp h)

theorem startsSolid_trimStart (t : Text) : StartsSolid (trimStart t) := by
  intro c hc
  have hnot := List.head?_dropWhile_not CodePoint.isBlank t
  rw [trimStart] at hc
  rw [hc] at hnot
  simpa using hnot

/-- White space was taken away, and nothing else. -/
theorem exists_trimStart (t : Text) : ∃ lead, isBlank lead = true ∧ t = lead ++ trimStart t :=
  ⟨t.takeWhile CodePoint.isBlank, List.all_takeWhile, List.takeWhile_append_dropWhile.symm⟩

theorem trimStart_append_of_not_isBlank {s : Text} (h : isBlank s = false) (t : Text) :
    trimStart (s ++ t) = trimStart s ++ t := by
  induction s with
  | nil => cases h
  | cons c s ih =>
    rw [List.cons_append, trimStart, trimStart, List.dropWhile_cons, List.dropWhile_cons]
    cases hc : c.isBlank with
    | true =>
      rw [isBlank, List.all_cons, hc, Bool.true_and] at h
      exact ih h
    | false => rfl

theorem trimStart_eq_nil_iff (t : Text) : trimStart t = [] ↔ isBlank t = true := by
  induction t with
  | nil => exact ⟨fun _ => rfl, fun _ => rfl⟩
  | cons c t ih =>
    rw [trimStart, List.dropWhile_cons, isBlank, List.all_cons]
    cases hc : c.isBlank with
    | true =>
      rw [Bool.true_and]
      exact ih
    | false => simp

theorem isBlank_trimStart (t : Text) : isBlank (trimStart t) = isBlank t := by
  obtain ⟨lead, hlead, ht⟩ := exists_trimStart t
  calc isBlank (trimStart t)
      = isBlank (lead ++ trimStart t) := by rw [isBlank_append, hlead, Bool.true_and]
    _ = isBlank t := by rw [← ht]

/-- A solid start keeps everything after it. -/
theorem trimStart_append_of_startsSolid {t : Text} (h : StartsSolid t) (s : Text) :
    trimStart (s ++ t) = trimStart s ++ t := by
  cases hs : isBlank s with
  | true =>
    have hnil : trimStart s = [] := (trimStart_eq_nil_iff s).mpr hs
    rw [trimStart_append_of_isBlank hs, hnil, trimStart_of_startsSolid h, List.nil_append]
  | false => exact trimStart_append_of_not_isBlank hs t

/-! ## The end -/

theorem trimEnd_of_endsSolid {t : Text} (h : EndsSolid t) : trimEnd t = t := by
  rw [trimEnd, trimStart_of_startsSolid ((endsSolid_iff_reverse t).mp h), List.reverse_reverse]

theorem endsSolid_trimEnd (t : Text) : EndsSolid (trimEnd t) := by
  rw [endsSolid_iff_reverse, trimEnd, List.reverse_reverse]
  exact startsSolid_trimStart _

theorem trimEnd_append_of_isBlank {tail : Text} (h : isBlank tail = true) (t : Text) :
    trimEnd (t ++ tail) = trimEnd t := by
  rw [trimEnd, List.reverse_append, trimStart_append_of_isBlank (by rwa [isBlank_reverse])]
  rfl

theorem exists_trimEnd (t : Text) : ∃ tail, isBlank tail = true ∧ t = trimEnd t ++ tail := by
  obtain ⟨lead, hlead, ht⟩ := exists_trimStart t.reverse
  refine ⟨lead.reverse, by rwa [isBlank_reverse], ?_⟩
  rw [trimEnd, ← List.reverse_append, ← ht, List.reverse_reverse]

theorem trimEnd_append_of_not_isBlank {t : Text} (h : isBlank t = false) (s : Text) :
    trimEnd (s ++ t) = s ++ trimEnd t := by
  rw [trimEnd, List.reverse_append, trimStart_append_of_not_isBlank (by rwa [isBlank_reverse]),
    List.reverse_append, List.reverse_reverse]
  rfl

theorem trimEnd_eq_nil {t : Text} (h : isBlank t = true) : trimEnd t = [] := by
  rw [trimEnd, List.reverse_eq_nil_iff, trimStart_eq_nil_iff, isBlank_reverse, h]

/-- A solid end keeps everything before it. -/
theorem trimEnd_append_of_endsSolid {s : Text} (h : EndsSolid s) (t : Text) : trimEnd (s ++ t) = s ++ trimEnd t := by
  cases ht : isBlank t with
  | true => rw [trimEnd_append_of_isBlank ht, trimEnd_eq_nil ht, trimEnd_of_endsSolid h, List.append_nil]
  | false => exact trimEnd_append_of_not_isBlank ht s

theorem trimEnd_cons_of_solid {c : CodePoint} (h : c.isBlank = false) (t : Text) :
    trimEnd (c :: t) = c :: trimEnd t :=
  trimEnd_append_of_endsSolid (endsSolid_of_getLast (t := [c]) rfl h) t

/-- The first code point stays unless everything is white space. -/
theorem trimEnd_cons_of_not_isBlank {c : CodePoint} {t : Text} (h : isBlank (c :: t) = false) :
    trimEnd (c :: t) = c :: trimEnd t := by
  cases ht : isBlank t with
  | false => exact trimEnd_append_of_not_isBlank ht [c]
  | true =>
    -- then it is what is solid
    have hc : c.isBlank = false := by
      rw [isBlank, List.all_cons, show t.all CodePoint.isBlank = true from ht, Bool.and_true] at h
      exact h
    exact trimEnd_cons_of_solid hc t

/-! ## Both ends -/

theorem trim_of_solid {t : Text} (hstart : StartsSolid t) (hend : EndsSolid t) : trim t = t := by
  rw [trim, trimStart_of_startsSolid hstart, trimEnd_of_endsSolid hend]

theorem trim_append_of_isBlank {lead : Text} (h : isBlank lead = true) (t : Text) : trim (lead ++ t) = trim t := by
  rw [trim, trimStart_append_of_isBlank h]
  rfl

theorem trim_append_tail {tail : Text} (h : isBlank tail = true) (t : Text) : trim (t ++ tail) = trim t := by
  rw [trim, trim]
  cases ht : isBlank t with
  | true =>
    have hboth : isBlank (t ++ tail) = true := by rw [isBlank_append, ht, h, Bool.and_self]
    rw [(trimStart_eq_nil_iff _).mpr hboth, (trimStart_eq_nil_iff _).mpr ht]
  | false => rw [trimStart_append_of_not_isBlank ht, trimEnd_append_of_isBlank h]

theorem startsSolid_of_append {s t : Text} (h : StartsSolid (s ++ t)) : StartsSolid s := by
  cases s with
  | nil => rintro c ⟨⟩
  | cons c s => exact startsSolid_of_head rfl (h c rfl)

theorem startsSolid_trimEnd {t : Text} (h : StartsSolid t) : StartsSolid (trimEnd t) := by
  obtain ⟨tail, -, ht⟩ := exists_trimEnd t
  rw [ht] at h
  exact startsSolid_of_append h

theorem startsSolid_trim (t : Text) : StartsSolid (trim t) :=
  startsSolid_trimEnd (startsSolid_trimStart t)

theorem endsSolid_trim (t : Text) : EndsSolid (trim t) :=
  endsSolid_trimEnd (trimStart t)

theorem exists_trim (t : Text) :
    ∃ lead tail, isBlank lead = true ∧ isBlank tail = true ∧ t = lead ++ (trim t ++ tail) := by
  obtain ⟨lead, hlead, ht⟩ := exists_trimStart t
  obtain ⟨tail, htail, hstart⟩ := exists_trimEnd (trimStart t)
  exact ⟨lead, tail, hlead, htail, by rw [trim, ← hstart, ← ht]⟩

theorem isBlank_trim (t : Text) : isBlank (trim t) = isBlank t := by
  obtain ⟨lead, tail, hlead, htail, ht⟩ := exists_trim t
  calc isBlank (trim t)
      = isBlank (lead ++ (trim t ++ tail)) := by
        rw [isBlank_append, isBlank_append, hlead, htail, Bool.true_and, Bool.and_true]
    _ = isBlank t := by rw [← ht]

/-- A text that ends with something solid ends with it after trimming. -/
theorem getLast?_trim_append {t : Text} {c : CodePoint} (h : t.getLast? = some c) (hc : c.isBlank = false) (s : Text) :
    (trim (s ++ t)).getLast? = some c := by
  have hnot : ∀ {u : Text}, isBlank u = true → u.getLast? ≠ some c := by
    intro u hu hlast
    have hblank := List.all_eq_true.mp hu c (List.mem_of_getLast? hlast)
    rw [hc] at hblank
    cases hblank
  obtain ⟨lead, tail, hlead, htail, hsplit⟩ := exists_trim (s ++ t)
  have hlast : (s ++ t).getLast? = some c := by rw [List.getLast?_append, h, Option.some_or]
  rw [hsplit, List.getLast?_append, List.getLast?_append, Option.or_eq_some_iff, Option.or_eq_some_iff] at hlast
  rcases hlast with (htaillast | ⟨-, htrim⟩) | ⟨-, hleadlast⟩
  · exact absurd htaillast (hnot htail)
  · exact htrim
  · exact absurd hleadlast (hnot hlead)

theorem trim_trim (t : Text) : trim (trim t) = trim t := by
  obtain ⟨lead, tail, hlead, htail, ht⟩ := exists_trim t
  calc trim (trim t)
      = trim (lead ++ (trim t ++ tail)) := by rw [trim_append_of_isBlank hlead, trim_append_tail htail]
    _ = trim t := by rw [← ht]

end Tidy.Text
