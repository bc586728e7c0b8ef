/-
# Tidy.Proofs.Minify -- minifying again

Text on one line stays as it is when it is put on one line again, and compact JSON stays compact. Only one thing
can still happen in a second round: white space that JSON does not know is gone after the first, so that a source
that was no JSON before may be JSON then (`Recovered`). The second round writes such a text as the value that it
now denotes, and from then on nothing changes.
-/

import Tidy.Proofs.Json.Steps
import Tidy.Proofs.Text.Collapse

namespace Tidy.Engine

open CodePoint (char)

/-! ## Text on one line -/

theorem minifyText_minifyText (source : Text) : minifyText (minifyText source) = minifyText source := by
  rw [minifyText, minifyText, Text.collapse_trim, Text.trim_trim, Text.collapse_collapse]

theorem isBlank_minifyText (source : Text) : (minifyText source).isBlank = source.isBlank := by
  rw [minifyText, Text.isBlank_trim, Text.collapse, Text.isBlank_collapseFrom]

theorem minify_blank (language : Language) (fallback : Bool) {source : Text} (h : source.isBlank = true) :
    minify language fallback source = [] :=
  if_pos h

/-- Where no JSON is read, the source is put on one line. -/
theorem minify_text {language : Language} (hlanguage : language ≠ .json) (fallback : Bool) {source : Text}
    (h : source.isBlank = false) : minify language fallback source = minifyText source := by
  have hblank : ¬ source.isBlank = true := by rw [h]; exact Bool.false_ne_true
  cases language with
  | json => exact absurd rfl hlanguage
  | _ => exact if_neg hblank

theorem minify_accepted (fallback : Bool) {source : Text} {v : Json} (h : Json.parse source = .ok v) :
    minify .json fallback source = v.compact := by
  have hblank := Json.isBlank_eq_false ((Json.parse_eq_ok_iff source v).mp h)
  rw [minify, if_neg (by rw [hblank]; exact Bool.false_ne_true)]
  simp only [h]

theorem minify_refused (fallback : Bool) {source : Text} {fault : Json.Fault} (hblank : source.isBlank = false)
    (h : Json.parse source = .error fault) :
    minify .json fallback source = if fallback then minifyText source else source := by
  rw [minify, if_neg (by rw [hblank]; exact Bool.false_ne_true)]
  simp only [h]

/-- Compact JSON is JSON of the same value, and stays compact. -/
theorem minify_compact (fallback : Bool) {source : Text} {v : Json} (h : Json.parse source = .ok v) :
    minify .json fallback v.compact = v.compact := by
  have hdenotes := (Json.parse_eq_ok_iff source v).mp h
  exact minify_accepted fallback ((Json.parse_eq_ok_iff _ v).mpr (Json.denotes_compact hdenotes.writable))

/-! ## The second round -/

/-- The source is no JSON, but on one line it is, and denotes `v`: it holds white space that JSON does not know. -/
def Recovered (source : Text) (v : Json) : Prop :=
  (∃ fault, Json.parse source = .error fault) ∧ Json.parse (minifyText source) = .ok v

theorem minify_settled {language : Language} {fallback : Bool} {source : Text}
    (h : ∀ v, language = .json → fallback = true → ¬ Recovered source v) :
    minify language fallback (minify language fallback source) = minify language fallback source := by
  cases hblank : source.isBlank with
  | true => rw [minify_blank language fallback hblank, minify_blank language fallback rfl]
  | false =>
    have honce : (minifyText source).isBlank = false := by rw [isBlank_minifyText, hblank]
    by_cases hlanguage : language = .json
    · subst hlanguage
      cases hparse : Json.parse source with
      | ok v => rw [minify_accepted fallback hparse, minify_compact fallback hparse]
      | error fault =>
        rw [minify_refused fallback hblank hparse]
        cases fallback with
        | false =>
          rw [if_neg Bool.false_ne_true, minify_refused false hblank hparse]
          rfl
        | true =>
          -- the text on one line is no JSON either, and is put on one line once more
          rw [if_pos rfl]
          cases hagain : Json.parse (minifyText source) with
          | ok v => exact absurd ⟨⟨fault, hparse⟩, hagain⟩ (h v rfl rfl)
          | error fault' => rw [minify_refused true honce hagain, if_pos rfl, minifyText_minifyText]
    · rw [minify_text hlanguage fallback hblank, minify_text hlanguage fallback honce, minifyText_minifyText]

theorem minify_recovered {source : Text} {v : Json} (h : Recovered source v) :
    minify .json true source = minifyText source ∧ minify .json true (minify .json true source) = v.compact := by
  obtain ⟨⟨fault, hparse⟩, hagain⟩ := h
  have hblank : source.isBlank = false := by
    rw [← isBlank_minifyText]
    exact Json.isBlank_eq_false ((Json.parse_eq_ok_iff _ v).mp hagain)
  have honce : minify .json true source = minifyText source := by
    rw [minify_refused true hblank hparse, if_pos rfl]
  exact ⟨honce, by rw [honce, minify_accepted true hagain]⟩

/-- A second round changes nothing, except for JSON with the fallback where the first round has made JSON of a source
that was none: the second round writes the value of the new text. There is nothing to do in a third round. -/
theorem minify_minify (language : Language) (fallback : Bool) (source : Text) :
    ((∀ v, language = .json → fallback = true → ¬ Recovered source v) →
      minify language fallback (minify language fallback source) = minify language fallback source) ∧
    (∀ v, language = .json → fallback = true → Recovered source v →
      minify language fallback source = minifyText source ∧
      minify language fallback (minify language fallback source) = v.compact) ∧
    minify language fallback (minify language fallback (minify language fallback source)) =
      minify language fallback (minify language fallback source) := by
  refine ⟨minify_settled, ?_, ?_⟩
  · rintro v rfl rfl h
    exact minify_recovered h
  · by_cases h : ∃ v, language = .json ∧ fallback = true ∧ Recovered source v
    · obtain ⟨v, rfl, rfl, hv⟩ := h
      rw [(minify_recovered hv).2, minify_compact true hv.2]
    · have hnone : ∀ v, language = .json → fallback = true → ¬ Recovered source v :=
        fun v hlanguage hfallback hv => h ⟨v, hlanguage, hfallback, hv⟩
      rw [minify_settled hnone, minify_settled hnone]

/-- A no-break space before an array that is empty but for a space. -/
def spacedArray : Text := [char (Char.ofNat 0xA0), char '[', char ' ', char ']']

theorem recovered_spacedArray : Recovered spacedArray (.arr []) := by
  constructor
  · cases h : Json.parse spacedArray with
    | error fault => exact ⟨fault, rfl⟩
    | ok v =>
      -- no document begins with a no-break space
      obtain ⟨c, rest, hsource, hc⟩ := ((Json.parse_eq_ok_iff _ v).mp h).head
      obtain rfl : char (Char.ofNat 0xA0) = c := by injection hsource
      exact absurd hc (by decide)
  · exact (Json.parse_eq_ok_iff _ _).mpr (Json.Spells.bareItem (.emptyArray (Json.isGap_spaces 1)))

/-- The first round leaves the space in the array, and the second takes it away. -/
theorem minify_spacedArray : minify .json true (minify .json true spacedArray) ≠ minify .json true spacedArray := by
  obtain ⟨honce, htwice⟩ := minify_recovered recovered_spacedArray
  rw [htwice, honce]
  decide

end Tidy.Engine
