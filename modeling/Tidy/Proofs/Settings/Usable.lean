/-
# Tidy.Proofs.Settings.Usable -- preferences that are let through give a width

The indent option of preferences is checked with the width that a tab has where none is given, and resolved later with the
width that the preferences give. Both come to the same decision: the check keeps a word that is `tab` or a numeral of a
positive number (`isOption_of_checkIndent`), and the width of a tab that is let through is positive. So preferences that
were let through give a width, and are let through as they are when they are checked once more (`width_of_accepted`).
-/

import Tidy.Proofs.Indent
import Tidy.Proofs.Record
import Tidy.Settings.File

namespace Tidy.Settings

open Indent (IsNumeral numberOf wordOf)

variable {record : Record} {settings : Settings} {word : Text}

/-! ## The indent option -/

/-- A word that gives a width, whatever the width of a tab is. -/
structure IsOption (word : Text) : Prop where
  settled : wordOf word = word
  gives : word = Indent.tab ∨ IsNumeral word ∧ 0 < numberOf word

theorem checkIndent_eq {value : Value} (h : value.hasLongNumber = false) : checkIndent value =
    match Indent.resolve (.str (wordOf value.text)) (.int Indent.defaultTabWidth) with
    | .ok _ => .ok (wordOf value.text)
    | .error fault => .error (Problem.rule fault.message) := by
  rw [checkIndent, h]
  rfl

/-- A value without a text is refused. -/
theorem hasLongNumber_of_checkIndent {value : Value} (h : checkIndent value = .ok word) :
    value.hasLongNumber = false := by
  unfold checkIndent at h
  split at h
  · cases h
  · rename_i hshort
    exact Bool.eq_false_iff.mpr hshort

theorem IsOption.resolve (h : IsOption word) {tabWidth : Nat} (htab : 0 < tabWidth) :
    Indent.resolve (.str word) (.int tabWidth) = .ok (if word = Indent.tab then tabWidth else numberOf word) := by
  apply Indent.resolve_of_gives
  rcases h.gives with hword | ⟨hnumeral, hpos⟩
  · rw [if_pos hword]
    exact .tab (h.settled.trans hword) htab rfl
  · rw [if_neg (Indent.ne_tab_of_digitLike hnumeral.digitLike)]
    -- the numeral is the word of itself
    rw [← h.settled] at hnumeral hpos
    have hgives : Indent.Gives (.int tabWidth) (.str word) (numberOf (wordOf word)) := .numeral hnumeral hpos
    rwa [h.settled] at hgives

/-- Such a word is let through as it is. -/
theorem IsOption.checkIndent (h : IsOption word) : checkIndent (.str word) = .ok word := by
  have htab : 0 < Indent.defaultTabWidth := by decide
  have hresolve := h.resolve htab
  rw [checkIndent_eq rfl, Value.text, h.settled, hresolve]

/-- What the check lets through is such a word. -/
theorem isOption_of_checkIndent {value : Value} (h : checkIndent value = .ok word) : IsOption word := by
  rw [checkIndent_eq (hasLongNumber_of_checkIndent h)] at h
  cases hresolve : Indent.resolve (.str (wordOf value.text)) (.int Indent.defaultTabWidth) with
  | error fault =>
    rw [hresolve] at h
    cases h
  | ok n =>
    rw [hresolve] at h
    obtain rfl := Except.ok.inj h
    have hsettled := Indent.wordOf_wordOf value.text
    refine ⟨hsettled, ?_⟩
    cases Indent.gives_of_resolve hresolve with
    | tab hword _ _ => exact Or.inl (hsettled.symm.trans hword)
    | numeral hnumeral hpos =>
      rw [hsettled] at hnumeral hpos
      exact Or.inr ⟨hnumeral, hpos⟩

/-! ## Preferences -/

/-- Preferences with an indent option that gives a width, and a tab with a width. -/
structure Usable (settings : Settings) : Prop where
  indent : IsOption settings.indent
  tabWidth : 0 < settings.tabWidth

theorem usable_default : Usable default := by
  have hoption : IsOption "2" := by
    refine ⟨by decide +kernel, Or.inr ⟨⟨?_, ?_, ?_⟩, ?_⟩⟩
    all_goals decide +kernel
  exact ⟨hoption, by decide⟩

theorem check_eq_ok_iff : check record = .ok settings ↔
    record.optional "default_language" Check.language default.language = .ok settings.language ∧
      record.optional "indent" checkIndent default.indent = .ok settings.indent ∧
      record.optional "tab_width" Check.positive default.tabWidth = .ok settings.tabWidth ∧
      record.optional "minify_json_fallback" Check.boolean default.minifyFallback = .ok settings.minifyFallback := by
  rw [← Checked.both_eq_ok_iff, ← Checked.both_eq_ok_iff, ← Checked.both_eq_ok_iff, check]
  generalize Checked.both _ _ = checked
  cases checked with
  | error issues =>
    constructor
    · intro h
      cases h
    · intro h
      cases h
  | ok found =>
    obtain ⟨language, indent, tabWidth, fallback⟩ := found
    constructor
    · intro h
      obtain rfl := Except.ok.inj h
      rfl
    · intro h
      obtain ⟨rfl, rfl, rfl, rfl⟩ := h
      rfl

theorem usable_of_check (h : check record = .ok settings) : Usable settings := by
  obtain ⟨-, hindent, htab, -⟩ := check_eq_ok_iff.mp h
  constructor
  · rcases Record.optional_eq_ok hindent with hdefault | ⟨value, hvalue⟩
    · rw [hdefault]
      exact usable_default.indent
    · exact isOption_of_checkIndent hvalue
  · rcases Record.optional_eq_ok htab with hdefault | ⟨value, hvalue⟩
    · rw [hdefault]
      exact usable_default.tabWidth
    · obtain ⟨n, -, hpos, hn⟩ := (Check.positive_eq_ok_iff value _).mp hvalue
      omega

/-- The fields that preferences hold, with the language as its tag. -/
def fields (settings : Settings) : Record :=
  [("default_language", .str settings.language.tag), ("indent", .str settings.indent),
    ("tab_width", .int settings.tabWidth), ("minify_json_fallback", .bool settings.minifyFallback)]

/-- Preferences with a width are let through as they are. -/
theorem Usable.check_fields (h : Usable settings) : check settings.fields = .ok settings := by
  have hget : settings.fields.get? "default_language" = some (.str settings.language.tag) ∧
      settings.fields.get? "indent" = some (.str settings.indent) ∧
      settings.fields.get? "tab_width" = some (.int settings.tabWidth) ∧
      settings.fields.get? "minify_json_fallback" = some (.bool settings.minifyFallback) := ⟨rfl, rfl, rfl, rfl⟩
  obtain ⟨hlanguage, hindent, htab, hfallback⟩ := hget
  rw [check_eq_ok_iff, Record.optional_of_get? hlanguage, Record.optional_of_get? hindent, Record.optional_of_get? htab,
    Record.optional_of_get? hfallback, Check.language_tag, h.indent.checkIndent, Check.positive_of_pos h.tabWidth]
  exact ⟨rfl, rfl, rfl, rfl⟩

/-! ## Preferences from a file -/

theorem usable_of_ofFile {path : Text} {content : List UInt8} (h : ofFile path content = .ok settings) :
    Usable settings := by
  unfold ofFile at h
  split at h
  · cases h
  · split at h
    · cases h
    · cases h
    · obtain rfl := Except.ok.inj h
      exact usable_default
    · cases h
    · split at h
      · rename_i hcheck
        obtain rfl := Except.ok.inj h
        exact usable_of_check hcheck
      · cases h

theorem usable_of_load {d : Directory} {given base : Option Text} (h : load d given base = .ok settings) :
    Usable settings := by
  cases hlocate : locate d given base with
  | error fault =>
    rw [load, hlocate] at h
    cases h
  | ok found =>
    rw [load, hlocate] at h
    cases found with
    | none =>
      obtain rfl := Except.ok.inj h
      exact usable_default
    | some found =>
      obtain ⟨path, content⟩ := found
      exact usable_of_ofFile h

/-- The preferences that can come about: from the fields of a record, or from a file. -/
inductive Accepted : Settings → Prop
  | checked {record : Record} {settings : Settings} : check record = .ok settings → Accepted settings
  | loaded {d : Directory} {given base : Option Text} {settings : Settings} :
      load d given base = .ok settings → Accepted settings

/-- Preferences that were let through have a width: that of their tab if they ask for one, and else the number that
their option writes. When their fields are checked once more, they are let through as they are. -/
theorem width_of_accepted (h : Accepted settings) :
    (∃ width, settings.indentWidth = .ok width ∧ 0 < width ∧
      width = if settings.indent = Indent.tab then settings.tabWidth else numberOf settings.indent) ∧
    (settings.indent ≠ Indent.tab → IsNumeral settings.indent) ∧
    checkIndent (.str settings.indent) = .ok settings.indent ∧ check settings.fields = .ok settings := by
  have husable : Usable settings := by
    cases h with
    | checked hcheck => exact usable_of_check hcheck
    | loaded hload => exact usable_of_load hload
  refine ⟨⟨_, husable.indent.resolve husable.tabWidth, ?_, rfl⟩, ?_, husable.indent.checkIndent, husable.check_fields⟩
  · split
    · exact husable.tabWidth
    · rename_i hword
      exact (husable.indent.gives.resolve_left hword).2
  · intro hword
    exact (husable.indent.gives.resolve_left hword).1

/-- Preferences whose option is a numeral in digits of two scripts. -/
def mixedDigits : Settings :=
  ⟨.json, "1\u0662", 3, true⟩

theorem width_of_accepted_mixedDigits :
    check [("indent", .str " 1\u0662 "), ("tab_width", .str "3")] = .ok mixedDigits ∧
      mixedDigits.indentWidth = .ok 12 ∧ IsNumeral mixedDigits.indent ∧
      checkIndent (.str mixedDigits.indent) = .ok mixedDigits.indent ∧
      check mixedDigits.fields = .ok mixedDigits := by
  have hcheck : check [("indent", .str " 1\u0662 "), ("tab_width", .str "3")] = .ok mixedDigits := rfl
  have hword : mixedDigits.indent ≠ Indent.tab := by decide +kernel
  have hnumber : numberOf mixedDigits.indent = 12 := by decide +kernel
  obtain ⟨⟨width, hwidth, -, hgiven⟩, hnumeral, hindent, hfields⟩ := width_of_accepted (.checked hcheck)
  rw [if_neg hword, hnumber] at hgiven
  exact ⟨hcheck, hgiven ▸ hwidth, hnumeral hword, hindent, hfields⟩

end Tidy.Settings
