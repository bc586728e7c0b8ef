/-
# Tidy.Css.Declaration -- the space around the colon of a declaration

A declaration has a name, a colon and a value. The colon counts only if it is the first one and no
parenthesis opens before it; then no space stands before it and one space after it. A name of white space alone
keeps its first code point.
-/

import Tidy.Text.Blank

namespace Tidy.Css

/-- A code point that may stand in the name of a declaration. -/
def isNamePart (c : CodePoint) : Bool :=
  !(c = ':' || c = '(')

/-- The name as it is written before the colon. -/
def trimName (name : Text) : Text :=
  let trimmed := Text.trimEnd name
  if trimmed.isEmpty then name.take 1 else trimmed

/-- The declaration with one space after its colon and none before it. -/
def normalizeDeclaration (t : Text) : Text :=
  let name := t.takeWhile isNamePart
  match t.dropWhile isNamePart with
  | [] => t
  | c :: value =>
    if c = ':' ∧ name ≠ [] then trimName name ++ ": " ++ Text.trimStart value else t

end Tidy.Css
