/-
# Tidy.Text.Quoted -- a text between quotes, for messages

A value that a message speaks about is shown between single quotes, or between double quotes if it
holds a single quote and no double quote. Backslash, the chosen quote, line feed, carriage return and tab
are escaped; a code point that is not printable is shown by its number in hexadecimal.
-/

import Tidy.Text.Printable

namespace Tidy.Text

/-- The mark that encloses a quoted text. -/
def quoteMark (t : Text) : CodePoint :=
  if List.contains t '\'' && !List.contains t '"' then '"' else '\''

/-- A code point inside a text that is enclosed by `mark`. -/
def quotedCodePoint (mark c : CodePoint) : Text :=
  if c = mark || c = '\\' then ['\\', c]
  else if c = '\n' then ['\\', 'n']
  else if c = '\r' then ['\\', 'r']
  else if c = '\t' then ['\\', 't']
  else if c.isPrintable then [c]
  else if c.toNat < 0x100 then '\\' :: 'x' :: hex 2 c.toNat
  else if c.toNat < 0x10000 then '\\' :: 'u' :: hex 4 c.toNat
  else '\\' :: 'U' :: hex 8 c.toNat

/-- The text between quotes. -/
def quoted (t : Text) : Text :=
  let mark := quoteMark t
  mark :: (t.flatMap (quotedCodePoint mark) ++ [mark])

end Tidy.Text
