/-
# Tidy.Layout -- lines with a depth

A formatted document is a list of entries, each a content with a nesting depth. The width of one level of
indentation enters only when the entries are rendered: every layout of this library is made of entries first,
and `render` is the one place where a width becomes spaces.
-/

import Tidy.Text.CodePoint

namespace Tidy

/-- A piece of a layout that starts on a line of its own. -/
structure Entry where
  depth : Nat
  content : Text
deriving DecidableEq

namespace Layout

/-- An entry with its indentation. -/
def line (width : Nat) (entry : Entry) : Text :=
  Text.spaces (width * entry.depth) ++ entry.content

/-- An empty line. -/
def emptyLine : Entry :=
  ⟨0, []⟩

/-- The text of a layout at a given width. -/
def render (width : Nat) (entries : List Entry) : Text :=
  Text.join "\n" (entries.map (line width))

end Layout

end Tidy
