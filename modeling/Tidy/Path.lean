/-
# Tidy.Path -- file paths

A path is a text with slashes. Its parts are what stands between the slashes, where empty parts and single dots
count for nothing; two dots are a part like any other.
-/

import Tidy.Language

namespace Tidy.Path

/-- The slash. -/
def slash : CodePoint := '/'

/-- The root of a path: nothing if the path is relative, two slashes if it starts with exactly two, else one. -/
def root (path : Text) : Text :=
  match (path.takeWhile (· = slash)).length with
  | 0 => []
  | 2 => "//"
  | _ => "/"

/-- The parts of a path. -/
def parts (path : Text) : List Text :=
  (Text.splitAt slash path).filter fun part => part ≠ [] ∧ part ≠ "."

/-- Does a zero stand in the path? No system takes such a path. -/
def hasZero (path : Text) : Bool :=
  path.any fun c => c.toNat = 0

/-- The path in its plain form. -/
def normal (path : Text) : Text :=
  let plain := root path ++ Text.join "/" (parts path)
  if plain.isEmpty then "." else plain

/-- The last part of a path. -/
def name (path : Text) : Text :=
  (parts path).getLast?.getD []

/-- The suffix of a path: the last part from its last dot on, unless that dot is its first or its last
character. -/
def suffix (path : Text) : Text :=
  let name := name path
  let stem := (name.reverse.dropWhile (· ≠ CodePoint.char '.')).drop 1
  let tail := name.reverse.takeWhile (· ≠ CodePoint.char '.')
  if stem.isEmpty || tail.isEmpty then [] else '.' :: tail.reverse

/-- The path of `name` in a directory. -/
def inside (directory name : Text) : Text :=
  if normal directory = "." then name
  else if Text.endsWith (normal directory) "/" then normal directory ++ name
  else normal directory ++ "/" ++ name

/-- The language that a path tells. -/
def language? (path : Text) : Option Language :=
  Language.ofSuffix? (suffix path)

end Tidy.Path
