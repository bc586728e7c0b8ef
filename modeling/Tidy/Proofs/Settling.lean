/-
# Tidy.Proofs.Settling -- formatting the file that was written

A text is written to a file with a line feed after it, unless it is empty. Formatting what stands in the file then gives
the text again, at the same width: JSON keeps its value, the layout of a style sheet does not see white space at its
end, and markup is trimmed first. Only in XML it may be refused (`Xml.Unsteady`). The text has no line ends that are
changed when the file is read, since a layout adds line feeds only (`plainEnds_format`).
-/

import Tidy.Proofs.Css.Ending
import Tidy.Proofs.Json.Steps
import Tidy.Proofs.Markup.Spacing

namespace Tidy

open CodePoint (char)
open Text (PlainEnds)

/-- A text with a line feed after it, unless it is empty. -/
def Text.terminated (t : Text) : Text :=
  if t.isEmpty then [] else t ++ "\n"

theorem Text.terminated_of_ne_nil {t : Text} (h : t ≠ []) : terminated t = t ++ [CodePoint.newline] :=
  if_neg (by simpa using h)

theorem Text.plainEnds_terminated {t : Text} (h : PlainEnds t) : PlainEnds (terminated t) := by
  unfold terminated
  split
  · exact plainEnds_nil
  · exact plainEnds_append.mpr ⟨h, by decide⟩

theorem Text.isBlank_terminated (t : Text) : isBlank (terminated t) = isBlank t := by
  unfold terminated
  split
  · rename_i hnil
    rw [List.isEmpty_iff.mp hnil]
  · rw [isBlank_append]
    exact Bool.and_true _

theorem Text.trim_terminated (t : Text) : trim (terminated t) = trim t := by
  unfold terminated
  split
  · rename_i hnil
    rw [List.isEmpty_iff.mp hnil]
  · exact trim_append_tail rfl t

/-! ## JSON -/

namespace Json

variable {memory : Memory} {width room : Nat} {source text : Text} {v : Json}

theorem eq_render_of_formatValue (h : Engine.formatValue memory width v = .ok text) :
    text = Layout.render width v.entries := by
  unfold Engine.formatValue at h
  split at h
  · -- a string is laid out without room as it is with room
    rename_i t
    have hstring := @formatValue_eq ⟨width + 1⟩ width (Nat.lt_succ_self width) (.str t)
    injection h.symm.trans hstring
  · exact (Engine.room_of_laidOut h).2

/-- What is laid out is a document, and the text is the layout of its value. -/
theorem exists_value (hblank : source.isBlank = false)
    (h : Engine.format memory .json width source = ⟨text, none⟩) :
    ∃ v, Writable nestingLimit v ∧ Engine.formatValue memory width v = .ok text := by
  have hdocument := Engine.formatDocument_of_format hblank h
  rw [Engine.formatDocument] at hdocument
  cases hparse : parse source with
  | error fault =>
    rw [hparse] at hdocument
    cases hdocument
  | ok v =>
    rw [hparse] at hdocument
    exact ⟨v, ((parse_eq_ok_iff source v).mp hparse).writable, hdocument⟩

theorem format_terminated (hblank : source.isBlank = false)
    (h : Engine.format memory .json width source = ⟨text, none⟩) :
    Engine.format memory .json width (Text.terminated text) = ⟨text, none⟩ := by
  obtain ⟨v, hv, hvalue⟩ := exists_value hblank h
  have htext : Denotes text v := by
    rw [eq_render_of_formatValue hvalue]
    exact denotes_render hv width
  have hne : text ≠ [] := by
    rintro rfl
    cases isBlank_eq_false htext
  have hagain : Denotes (Text.terminated text) v := by
    rw [Text.terminated_of_ne_nil hne]
    exact Spells.item_gap_after htext (isGap_newline isGap_nil)
  refine Engine.format_ok (isBlank_eq_false hagain) ?_
  rw [Engine.formatDocument, (parse_eq_ok_iff _ v).mpr hagain]
  exact hvalue

/-! ### Line ends -/

theorem Numeral.WellFormed.plainEnds {n : Numeral} (h : n.WellFormed) : PlainEnds n.literal := by
  intro hmem
  rcases h.mem_literal hmem with hdigit | hmark
  · exact Bool.false_ne_true hdigit
  · exact absurd hmark (by decide)

/-- Line ends are escaped in a string. -/
theorem plainEnds_escaped (c : CodePoint) : PlainEnds (escaped c) := by
  unfold escaped
  split_ifs with hquote hslash hnewline hreturn htab hfeed hback hcontrol
  iterate 7 decide
  · rw [(hex_of_lt c.toNat hcontrol).1]
    generalize c.toNat = n at hcontrol
    revert n
    decide
  · exact Text.plainEnds_cons.mpr ⟨hreturn, Text.plainEnds_nil⟩

theorem plainEnds_writeString (t : Text) : PlainEnds (writeString t) := by
  rw [writeString_eq]
  refine Text.plainEnds_cons.mpr ⟨by decide, Text.plainEnds_append.mpr ⟨?_, by decide⟩⟩
  intro hmem
  obtain ⟨c, -, hc⟩ := List.mem_flatMap.mp hmem
  exact plainEnds_escaped c hc

theorem Spells.plainEnds_number {t : Text} (h : Spells room t (.value v))
    (hv : (∃ n, v = .int n) ∨ ∃ x, v = .float x) : PlainEnds t := by
  cases h with
  | word hmem =>
    simp only [keywords, List.mem_cons, Prod.mk.injEq, List.not_mem_nil, or_false] at hmem
    rcases hmem with ⟨rfl, -⟩ | ⟨rfl, -⟩ | ⟨rfl, -⟩ <;> decide
  | number hn _ => exact hn.plainEnds
  | _ => rcases hv with ⟨_, hv⟩ | ⟨_, hv⟩ <;> cases hv

theorem Core.plainEnds {t : Text} (h : Core t) : PlainEnds t := by
  cases h with
  | @mark c hc =>
    refine Text.plainEnds_cons.mpr ⟨?_, Text.plainEnds_nil⟩
    rintro rfl
    exact absurd hc (by decide)
  | @scalar room v hspells =>
    cases v with
    | null => decide
    | bool b => cases b <;> decide
    | int n => exact hspells.plainEnds_number (Or.inl ⟨n, rfl⟩)
    | float x => exact hspells.plainEnds_number (Or.inr ⟨x, rfl⟩)
    | str t => exact plainEnds_writeString t
    | arr items => exact (by decide : PlainEnds "[]")
    | obj members => exact (by decide : PlainEnds "\x7b\x7d")

/-- No line of a layout has a line end in it that is not a line feed. -/
theorem lined_plainEnds : Lined PlainEnds PlainEnds PlainEnds where
  unnamed := Text.plainEnds_nil
  named name := Text.plainEnds_append.mpr ⟨plainEnds_writeString name, by decide⟩
  last := Text.plainEnds_nil
  comma := by decide
  join hlead hcore htrail := Text.plainEnds_append.mpr ⟨hlead, Text.plainEnds_append.mpr ⟨hcore.plainEnds, htrail⟩⟩

theorem plainEnds_render (h : Writable room v) (width : Nat) : PlainEnds (Layout.render width v.entries) :=
  Layout.plainEnds_render width (lined_plainEnds.all h 0 [] [] Text.plainEnds_nil Text.plainEnds_nil)

end Json

/-! ## Style sheets -/

theorem Css.format_terminated {memory : Memory} {width : Nat} {source text : Text} (hblank : source.isBlank = false)
    (h : Engine.format memory .css width source = ⟨text, none⟩) :
    Engine.format memory .css width (Text.terminated text) = ⟨text, none⟩ := by
  have hdocument : Engine.laidOut memory width (format · source) = .ok text := Engine.formatDocument_of_format hblank h
  obtain ⟨hroom, rfl⟩ := Engine.room_of_laidOut hdocument
  by_cases hnil : format width source = []
  · rw [hnil]
    exact Engine.format_blank memory .css width rfl
  · have hsolid : (format width source).isBlank = false := by
      refine Layout.isBlank_content hnil ?_
      exact Text.startsSolid_trim _
    have hagain : format width (Text.terminated (format width source)) = format width source := by
      rw [Text.terminated_of_ne_nil hnil, format_append_blank width _ rfl, format, entries_format, ← format]
    refine Engine.format_ok (by rw [Text.isBlank_terminated, hsolid]) ?_
    have hlaid := Engine.laidOut_of_room hroom (format · (Text.terminated (format width source)))
    rwa [hagain] at hlaid

/-! ## Markup -/

namespace Markup

theorem plainEnds_format (width : Nat) {source : Text} (h : PlainEnds source) : PlainEnds (format width source) := by
  cases hblank : source.isBlank with
  | true =>
    rw [format, entries, splitTags_blank hblank]
    exact Text.plainEnds_nil
  | false =>
    have hreflowed := (@format_reflowed CodePoint.isBlank _ (trim_ne_nil hblank) (Text.startsSolid_trim source)
      (Text.endsSolid_trim source) (fun _ _ hc => hc) width).2
    rw [format_trim] at hreflowed
    intro hmem
    rcases hreflowed.mem_right hmem with hmem | hfeed | hspace
    · exact h.trim hmem
    · exact absurd hfeed (by decide)
    · exact absurd hspace (by decide)

theorem format_terminated (width : Nat) (source : Text) :
    format width (Text.terminated (format width source)) = format width source := by
  rw [← format_trim, Text.trim_terminated, format_trim, format_relaid]

theorem isBlank_terminated (width : Nat) {source : Text} (h : source.isBlank = false) :
    (Text.terminated (format width source)).isBlank = false := by
  rw [Text.isBlank_terminated]
  exact isBlank_format width h

theorem format_terminated_html {memory : Memory} {width : Nat} {source text : Text} (hblank : source.isBlank = false)
    (h : Engine.format memory .html width source = ⟨text, none⟩) :
    Engine.format memory .html width (Text.terminated text) = ⟨text, none⟩ := by
  have hdocument : Engine.laidOut memory width (format · source) = .ok text := Engine.formatDocument_of_format hblank h
  obtain ⟨hroom, rfl⟩ := Engine.room_of_laidOut hdocument
  rw [format_html hroom (isBlank_terminated width hblank), format_terminated]

end Markup

/-- The layout of an XML document is laid out as it is, if it is accepted; and it is, unless it is unsteady. -/
theorem Xml.format_terminated {memory : Memory} {width : Nat} {source text : Text} (hblank : source.isBlank = false)
    (h : Engine.format memory .xml width source = ⟨text, none⟩) :
    ((Engine.format memory .xml width (Text.terminated text)).isValid = true →
      Engine.format memory .xml width (Text.terminated text) = ⟨text, none⟩) ∧
    (¬ Unsteady (Text.trim source) (Text.trim (Text.terminated text)) →
      (Engine.format memory .xml width (Text.terminated text)).isValid = true) := by
  have hvalid : (Engine.format memory .xml width source).error = none := by rw [h]
  obtain ⟨hcheck, hroom⟩ := check_of_valid hblank hvalid
  rw [format_xml hroom hblank hcheck] at h
  injection h with htext
  have htrim : Text.trim (Text.terminated text) = text := by
    rw [Text.trim_terminated, ← htext, Markup.format_trim, Markup.trim_format width hblank]
  have hblank' : (Text.terminated text).isBlank = false := by
    rw [← htext, Markup.format_trim]
    exact Markup.isBlank_terminated width hblank
  have hagain : check text = .ok () →
      Engine.format memory .xml width (Text.terminated text) = ⟨text, none⟩ := by
    intro hlayout
    rw [format_xml hroom hblank' (htrim.symm ▸ hlayout), htrim, ← htext, Markup.format_relaid]
  refine ⟨?_, ?_⟩
  · intro hlaid
    have hlayout := (check_of_valid hblank' (Option.isNone_iff_eq_none.mp hlaid)).1
    rw [htrim] at hlayout
    exact hagain hlayout
  · intro hsteady
    rw [htrim, ← htext] at hsteady
    have hlayout := check_format width hblank hcheck hsteady
    rw [htext] at hlayout
    rw [hagain hlayout]
    rfl

/-! ## The engine -/

namespace Engine

variable {memory : Memory} {language : Language} {width : Nat} {source text : Text}

/-- Formatting what was written gives the same text, if it is accepted. Only in XML it may be refused. -/
theorem format_terminated (hlanguage : language ≠ .typescript)
    (h : format memory language width source = ⟨text, none⟩) :
    ((format memory language width (Text.terminated text)).isValid = true →
      format memory language width (Text.terminated text) = ⟨text, none⟩) ∧
    (¬ (language = .xml ∧ Xml.Unsteady (Text.trim source) (Text.trim (Text.terminated text))) →
      (format memory language width (Text.terminated text)).isValid = true) := by
  cases hblank : source.isBlank with
  | true =>
    rw [format_blank memory language width hblank] at h
    injection h with htext
    have hempty : format memory language width (Text.terminated []) = ⟨[], none⟩ :=
      format_blank memory language width rfl
    rw [← htext, hempty]
    exact ⟨fun _ => rfl, fun _ => rfl⟩
  | false =>
    -- a text that is laid out again is valid, so that only XML is left with two cases
    have hsame : format memory language width (Text.terminated text) = ⟨text, none⟩ →
        ((format memory language width (Text.terminated text)).isValid = true →
          format memory language width (Text.terminated text) = ⟨text, none⟩) ∧
        (¬ (language = .xml ∧ Xml.Unsteady (Text.trim source) (Text.trim (Text.terminated text))) →
          (format memory language width (Text.terminated text)).isValid = true) := by
      intro hagain
      exact ⟨fun _ => hagain, fun _ => by rw [hagain]; rfl⟩
    cases language with
    | typescript => exact absurd rfl hlanguage
    | json => exact hsame (Json.format_terminated hblank h)
    | css => exact hsame (Css.format_terminated hblank h)
    | html => exact hsame (Markup.format_terminated_html hblank h)
    | xml =>
      obtain ⟨hlaid, hsteady⟩ := Xml.format_terminated hblank h
      exact ⟨hlaid, fun hnot => hsteady fun hunsteady => hnot ⟨rfl, hunsteady⟩⟩

/-- A text that is laid out has no line ends that its source has not. -/
theorem plainEnds_format (hlanguage : language ≠ .typescript) (hsource : PlainEnds source)
    (h : format memory language width source = ⟨text, none⟩) : PlainEnds text := by
  cases hblank : source.isBlank with
  | true =>
    rw [format_blank memory language width hblank] at h
    injection h with htext
    rw [← htext]
    exact Text.plainEnds_nil
  | false =>
    cases language with
    | typescript => exact absurd rfl hlanguage
    | json =>
      obtain ⟨v, hv, hvalue⟩ := Json.exists_value hblank h
      rw [Json.eq_render_of_formatValue hvalue]
      exact Json.plainEnds_render hv width
    | css =>
      have hlaid : laidOut memory width (Css.format · source) = .ok text := formatDocument_of_format hblank h
      rw [(room_of_laidOut hlaid).2]
      exact Css.plainEnds_format width hsource
    | html =>
      rw [Markup.format_markup (Or.inl rfl) hblank h]
      exact Markup.plainEnds_format width hsource
    | xml =>
      rw [Markup.format_markup (Or.inr rfl) hblank h]
      exact Markup.plainEnds_format width hsource

end Engine

end Tidy
