/-
# Tidy.Proofs.Engine -- the outcome of formatting, case by case

Formatting looks at three things in turn: whether the source is blank, whether it is a document of its language, and
whether there is room for the width. Each lemma here is one such case; what is said about formatting elsewhere is put
together from them.
-/

import Tidy.Engine

namespace Tidy.Engine

variable {memory : Memory} {language : Language} {width : Nat} {source text : Text}

/-! ## Room -/

theorem laidOut_of_room (h : width < memory.limit) (layout : Nat → Text) :
    laidOut memory width layout = .ok (layout width) :=
  if_neg (Nat.not_le.mpr h)

theorem laidOut_of_full (h : memory.limit ≤ width) (layout : Nat → Text) :
    laidOut memory width layout = .error .width :=
  if_pos h

/-! ## Outcomes -/

theorem format_blank (memory : Memory) (language : Language) (width : Nat) (h : source.isBlank = true) :
    format memory language width source = ⟨[], none⟩ :=
  if_pos h

theorem format_ok (h : source.isBlank = false) (hdocument : formatDocument memory language width source = .ok text) :
    format memory language width source = ⟨text, none⟩ := by
  rw [format, h, if_neg Bool.false_ne_true, hdocument]

theorem format_error {failure : Failure} (h : source.isBlank = false)
    (hdocument : formatDocument memory language width source = .error failure) :
    format memory language width source = ⟨source, some (failure.message language source)⟩ := by
  rw [format, h, if_neg Bool.false_ne_true, hdocument]

theorem formatDocument_of_format (h : source.isBlank = false)
    (hformat : format memory language width source = ⟨text, none⟩) :
    formatDocument memory language width source = .ok text := by
  cases hdocument : formatDocument memory language width source with
  | error failure =>
    rw [format_error h hdocument] at hformat
    cases hformat
  | ok text' =>
    rw [format_ok h hdocument] at hformat
    injection hformat with htext
    rw [htext]

/-- What is laid out was given room. -/
theorem room_of_laidOut {layout : Nat → Text} (h : laidOut memory width layout = .ok text) :
    width < memory.limit ∧ text = layout width := by
  unfold laidOut at h
  split at h
  · cases h
  · rename_i hroom
    injection h with htext
    exact ⟨Nat.not_le.mp hroom, htext.symm⟩

end Tidy.Engine
