/-
# Tidy.Json.Writer -- the two spellings of a JSON value

`compact` writes a value without any white space. `entries` lays it out with one item or member a line.
Strings are written in the same way in both: only the quote, the backslash and the control characters are
escaped.
-/

import Tidy.Json.Value
import Tidy.Layout
import Tidy.Number.Shortest

namespace Tidy.Json

/-! ## Scalars -/

/-- A code point inside a string. -/
def escaped (c : CodePoint) : Text :=
  if c = '"' then ['\\', '"']
  else if c = '\\' then ['\\', '\\']
  else if c = '\n' then ['\\', 'n']
  else if c = '\r' then ['\\', 'r']
  else if c = '\t' then ['\\', 't']
  else if c.toNat = 0x0C then ['\\', 'f']
  else if c.toNat = 0x08 then ['\\', 'b']
  else if c.toNat < 0x20 then '\\' :: 'u' :: Text.hex 4 c.toNat
  else [c]

/-- A string between its quotes. -/
def writeString (t : Text) : Text :=
  "\"" ++ t.flatMap escaped ++ "\""

/-- A value that holds no other value; containers are written as if they were empty. -/
def scalar : Json → Text
  | null => "null"
  | bool true => "true"
  | bool false => "false"
  | int n => Text.ofInt n
  | float x => x.toText
  | str t => writeString t
  | arr _ => "[]"
  | obj _ => "\x7b\x7d"

/-! ## Compact spelling -/

mutual

/-- The value without white space. -/
def compact : Json → Text
  | arr items => "[" ++ compactItems items ++ "]"
  | obj members => "\x7b" ++ compactMembers members ++ "\x7d"
  | value => scalar value

/-- The items of an array, with commas between them. -/
def compactItems : List Json → Text
  | [] => []
  | [item] => compact item
  | item :: rest => compact item ++ "," ++ compactItems rest

/-- The members of an object, with commas between them. -/
def compactMembers : List (Text × Json) → Text
  | [] => []
  | [(name, value)] => writeString name ++ ":" ++ compact value
  | (name, value) :: rest =>
    writeString name ++ ":" ++ compact value ++ "," ++ compactMembers rest

end

/-! ## Layout -/

mutual

/-- The entries of a value at a depth, with `lead` before its first line and `trail` after its last. -/
def entriesFrom (depth : Nat) (lead trail : Text) : Json → List Entry
  | arr [] => [⟨depth, lead ++ "[]" ++ trail⟩]
  | arr (item :: rest) =>
    ⟨depth, lead ++ "["⟩ :: (itemEntries (depth + 1) (item :: rest) ++ [⟨depth, ']' :: trail⟩])
  | obj [] => [⟨depth, lead ++ "\x7b\x7d" ++ trail⟩]
  | obj (m :: rest) =>
    ⟨depth, lead ++ "\x7b"⟩ :: (memberEntries (depth + 1) (m :: rest) ++ [⟨depth, '}' :: trail⟩])
  | value => [⟨depth, lead ++ scalar value ++ trail⟩]

/-- The entries of the items of an array. -/
def itemEntries (depth : Nat) : List Json → List Entry
  | [] => []
  | [item] => entriesFrom depth [] [] item
  | item :: rest => entriesFrom depth [] "," item ++ itemEntries depth rest

/-- The entries of the members of an object. -/
def memberEntries (depth : Nat) : List (Text × Json) → List Entry
  | [] => []
  | [(name, value)] => entriesFrom depth (writeString name ++ ": ") [] value
  | (name, value) :: rest =>
    entriesFrom depth (writeString name ++ ": ") "," value ++ memberEntries depth rest

end

/-- The layout of a value. -/
def entries (value : Json) : List Entry :=
  entriesFrom 0 [] [] value

end Tidy.Json
