/-
# Tidy.Text.Blank -- white space, and the operations that trim and collapse it

`isBlank` is the Unicode white space set together with the four ASCII separators `U+001C` to
`U+001F`. Zero-width spaces and the byte order mark are not in it.
-/

import Tidy.Text.CodePoint

namespace Tidy

namespace CodePoint

/-- The ranges of white space. -/
def blankRanges : List (Nat × Nat) :=
  [(0x09, 0x0D), (0x1C, 0x20), (0x85, 0x85), (0xA0, 0xA0), (0x1680, 0x1680), (0x2000, 0x200A),
   (0x2028, 0x2029), (0x202F, 0x202F), (0x205F, 0x205F), (0x3000, 0x3000)]

/-- Is the code point white space? -/
def isBlank (c : CodePoint) : Bool :=
  c.inTable blankRanges

end CodePoint

namespace Text

/-- Is there nothing but white space in the text? -/
def isBlank (t : Text) : Bool :=
  t.all CodePoint.isBlank

/-- Drops white space at the start. -/
def trimStart (t : Text) : Text :=
  t.dropWhile CodePoint.isBlank

/-- Drops white space at the end. -/
def trimEnd (t : Text) : Text :=
  (trimStart t.reverse).reverse

/-- Drops white space at both ends. -/
def trim (t : Text) : Text :=
  trimEnd (trimStart t)

/-- Writes each run of white space as one space; `inRun` tells whether a run has begun before the
text. -/
def collapseFrom : (inRun : Bool) → Text → Text
  | _, [] => []
  | inRun, c :: rest =>
    if c.isBlank then
      if inRun then collapseFrom true rest else ' ' :: collapseFrom true rest
    else c :: collapseFrom false rest

/-- Writes each run of white space as one space. -/
def collapse (t : Text) : Text :=
  collapseFrom false t

end Text

end Tidy
