/-
# Tidy.Settings -- preferences

Preferences are read from a record with lenient checks. The indent option is kept as a word that resolves to a
width.
-/

import Tidy.Indent
import Tidy.Record.Field

namespace Tidy

/-- Preferences. -/
structure Settings where
  language : Language
  indent : Text
  tabWidth : Nat
  minifyFallback : Bool

namespace Settings

/-- The preferences where nothing is set. -/
def default : Settings :=
  ⟨.json, "2", Indent.defaultTabWidth, true⟩

/-- An indent option of any kind: it has to have a text, which has to resolve to a width. -/
def checkIndent : Check Text := fun value =>
  if value.hasLongNumber then .error (.rule Value.longNumberMessage)
  else
    let word := Text.lower (Text.trim value.text)
    match Indent.resolve (.str word) (.int Indent.defaultTabWidth) with
    | .ok _ => .ok word
    | .error fault => .error (.rule fault.message)

/-- The names of the fields of a record of preferences. -/
def fieldNames : List Text :=
  ["default_language", "indent", "tab_width", "minify_json_fallback"]

/-- The preferences that a record sets; fields that are not known count for nothing. -/
def check (record : Record) : Checked Settings := do
  let (language, indent, tabWidth, fallback) ←
    (record.optional "default_language" Check.language default.language).both
      ((record.optional "indent" checkIndent default.indent).both
        ((record.optional "tab_width" Check.positive default.tabWidth).both
          (record.optional "minify_json_fallback" Check.boolean default.minifyFallback)))
  return ⟨language, indent, tabWidth, fallback⟩

/-- The width of the indentation. -/
def indentWidth (settings : Settings) : Except Indent.Fault Nat :=
  Indent.resolve (.str settings.indent) (.int settings.tabWidth)

end Settings

end Tidy
