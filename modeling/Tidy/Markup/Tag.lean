/-
# Tidy.Markup.Tag -- markup with one tag a line

Markup is laid out by its tags alone: a line breaks between two tags that nothing but white space divides, and
each line is indented by a running depth that start tags raise and end tags lower. The depth is counted line
by line; no tree is built, so markup that is not well nested is laid out as well.
-/

import Tidy.Layout
import Tidy.Text.Blank
import Tidy.Text.Word

namespace Tidy.Markup

/-! ## Lines -/

/-- Puts a line feed for the white space between a `>` and a `<`. -/
def breakTags : Text → Text
  | [] => []
  | c :: rest =>
    let broken := breakTags rest
    let ahead := Text.trimStart broken
    if c = '>' ∧ ahead.head? = some (.char '<') then c :: '\n' :: ahead else c :: broken

/-- The lines of markup: trimmed, and without those that are blank. -/
def splitTags (source : Text) : List Text :=
  ((Text.lines (breakTags (Text.trim source))).map Text.trim).filter fun line => !line.isEmpty

/-! ## Depth -/

/-- Does the line start with an end tag? -/
def isClosingTag (line : Text) : Bool :=
  Text.startsWith line "</"

/-- A code point that may stand in the name of a tag. -/
def isTagNamePart (c : CodePoint) : Bool :=
  c.isWord || c = ':' || c = '.' || c = '-'

/-- The name of the tag at the start of a line. -/
def tagName (line : Text) : Text :=
  (line.drop 1).takeWhile isTagNamePart

/-- Does the line start an element that stays open after the line? A line that holds the end tag of its first
tag does not, wherever that end tag stands. -/
def opensElement (line : Text) : Bool :=
  if !Text.startsWith line "<" then false
  else if Text.startsWith line "</" || Text.startsWith line "<!" || Text.startsWith line "<?" then
    false
  else if Text.endsWith line "/>" then false
  else if (tagName line).isEmpty then true
  else !Text.hasBlock ("</" ++ tagName line ++ ">") line

/-- The entries of lines, from a depth on. -/
def indentFrom (depth : Nat) : List Text → List Entry
  | [] => []
  | line :: rest =>
    let depth := if isClosingTag line then depth - 1 else depth
    ⟨depth, line⟩ :: indentFrom (if opensElement line then depth + 1 else depth) rest

/-- The layout of markup. -/
def entries (source : Text) : List Entry :=
  indentFrom 0 (splitTags source)

/-- Markup, laid out at a width. -/
def format (width : Nat) (source : Text) : Text :=
  Layout.render width (entries source)

end Tidy.Markup
