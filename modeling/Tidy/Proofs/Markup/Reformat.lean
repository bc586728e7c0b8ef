/-
# Tidy.Proofs.Markup.Reformat -- laying markup out again

The lines of markup are found again in its layout, at whatever width it was made, so a second layout forgets the
first. This needs no tags that match: any text at all is laid out, and its layout has the same lines.
-/

import Tidy.Proofs.Engine
import Tidy.Proofs.Markup.Reflow

namespace Tidy.Markup

theorem splitTags_trim (source : Text) : splitTags (Text.trim source) = splitTags source := by
  rw [splitTags, splitTags, Text.trim_trim]

/-- White space around markup makes no difference to its layout. -/
theorem format_trim (width : Nat) (source : Text) : format width (Text.trim source) = format width source := by
  rw [format, entries, splitTags_trim]
  rfl

theorem trim_ne_nil {source : Text} (h : source.isBlank = false) : Text.trim source ≠ [] := by
  intro hnone
  have hblank := Text.isBlank_trim source
  rw [hnone, h] at hblank
  cases hblank

/-- The layout of markup that is not blank is cut into the lines of the markup. -/
theorem cut_format (width : Nat) {source : Text} (h : source.isBlank = false) :
    Cut (format width source) (splitTags source) := by
  have hcut := (@format_reflowed CodePoint.isBlank _ (trim_ne_nil h) (Text.startsSolid_trim source)
    (Text.endsSolid_trim source) (fun _ _ hc => hc) width).1
  rwa [format_trim, splitTags_trim] at hcut

theorem splitTags_blank {source : Text} (h : source.isBlank = true) : splitTags source = [] := by
  have hnone : Text.trim source = [] := by
    rw [Text.trim, (Text.trimStart_eq_nil_iff source).mpr h]
    rfl
  rw [← splitTags_trim, hnone]
  rfl

theorem splitTags_format (width : Nat) (source : Text) : splitTags (format width source) = splitTags source := by
  cases h : source.isBlank with
  | true =>
    rw [format, entries, splitTags_blank h]
    rfl
  | false => exact (cut_format width h).splitTags_eq

theorem isBlank_format (width : Nat) {source : Text} (h : source.isBlank = false) :
    (format width source).isBlank = false := by
  obtain ⟨hne, -, hends⟩ := (cut_format width h).solid
  exact isBlank_of_endsSolid hne hends

/-- A second layout forgets the first. -/
theorem format_relaid (width width' : Nat) (source : Text) :
    format width' (format width source) = format width' source := by
  rw [format, entries, splitTags_format]
  rfl

/-! ## The engine -/

/-- HTML is laid out where there is room for the width. -/
theorem format_html {memory : Memory} {width : Nat} (hroom : width < memory.limit) {source : Text}
    (h : source.isBlank = false) : Engine.format memory .html width source = ⟨format width source, none⟩ :=
  Engine.format_ok h (Engine.laidOut_of_room hroom (format · source))

/-- HTML comes back as it was where there is no room for the width. -/
theorem format_html_full {memory : Memory} {width : Nat} (hfull : memory.limit ≤ width) {source : Text}
    (h : source.isBlank = false) :
    Engine.format memory .html width source = ⟨source, some (Language.html.displayName ++ " formatting error")⟩ := by
  have hrefused : Engine.formatDocument memory .html width source = .error .width :=
    Engine.laidOut_of_full hfull (format · source)
  rw [Engine.format_error h hrefused]
  rfl

theorem isBlank_text_format_html (memory : Memory) (width : Nat) {source : Text} (h : source.isBlank = false) :
    (Engine.format memory .html width source).text.isBlank = false := by
  rcases Nat.lt_or_ge width memory.limit with hroom | hfull
  · rw [format_html hroom h]
    exact isBlank_format width h
  · rw [format_html_full hfull h]
    exact h

theorem format_text_format_html (memory : Memory) (width width' : Nat) {source : Text} (h : source.isBlank = false) :
    format width' (Engine.format memory .html width source).text = format width' source := by
  rcases Nat.lt_or_ge width memory.limit with hroom | hfull
  · rw [format_html hroom h]
    exact format_relaid width width' source
  · rw [format_html_full hfull h]

/-- The lines of HTML are found again in its layout, and formatting at one width and then at another gives what
formatting at the other gives, for any source and any two widths. For the engine this holds in whatever memory: the
verdict is the same, and so is the text, unless the second width is refused and each source comes back. -/
theorem html_reformatted (width width' : Nat) (source : Text) :
    splitTags (Layout.render width (indentFrom 0 (splitTags source))) = splitTags source ∧
      format width' (format width source) = format width' source ∧
      ∀ memory : Memory,
        let direct := Engine.format memory .html width' source
        let again := Engine.format memory .html width' (Engine.format memory .html width source).text
        again.error = direct.error ∧ (direct.isValid = true → again = direct) := by
  refine ⟨splitTags_format width source, format_relaid width width' source, ?_⟩
  intro memory
  cases h : source.isBlank with
  | true =>
    rw [Engine.format_blank memory .html width h, Engine.format_blank memory .html width' h]
    exact ⟨rfl, fun _ => rfl⟩
  | false =>
    have h' := isBlank_text_format_html memory width h
    rcases Nat.lt_or_ge width' memory.limit with hroom | hfull
    · rw [format_html hroom h', format_html hroom h, format_text_format_html memory width width' h]
      exact ⟨rfl, fun _ => rfl⟩
    · rw [format_html_full hfull h', format_html_full hfull h]
      exact ⟨rfl, fun hvalid => by cases hvalid⟩

end Tidy.Markup
