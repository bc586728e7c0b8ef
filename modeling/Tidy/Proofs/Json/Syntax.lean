/-
# Tidy.Proofs.Json.Syntax -- JSON texts as trees

A tree is a derivation of the JSON grammar: it holds every code point of the text that it spells, the white space
between the tokens included, and no tree can be built that spells anything else than JSON. What a tree spells
(`text`), how deep it nests (`depth`), which numbers stand in it (`numbers`) and which value it denotes (`value`) are
read off it, each by one recursion, and no limit of a reader enters.

Two rules go beyond the grammar. Two code units in a row that are the halves of a surrogate pair are one code point
(`meaning`), and of the members of an object with one name the first gives the place and the last the value
(`resolve`).
-/

import Tidy.Proofs.Json.Grammar
import Tidy.Proofs.Number.Range

namespace Tidy.Json

open CodePoint (char)

/-! ## White space -/

/-- A text of spaces, tabs, line feeds and carriage returns. -/
abbrev Gap := { t : Text // IsGap t }

/-! ## Strings -/

/-- What a backslash and one letter stand for. -/
inductive Escape where
  | quote
  | backslash
  | slash
  | backspace
  | formFeed
  | lineFeed
  | carriageReturn
  | tab
deriving DecidableEq

/-- The letter of an escape. -/
def Escape.letter : Escape → CodePoint
  | quote => '"'
  | backslash => '\\'
  | slash => '/'
  | backspace => 'b'
  | formFeed => 'f'
  | lineFeed => 'n'
  | carriageReturn => 'r'
  | tab => 't'

/-- What an escape stands for. -/
def Escape.meant : Escape → CodePoint
  | quote => '"'
  | backslash => '\\'
  | slash => '/'
  | backspace => Char.ofNat 0x08
  | formFeed => Char.ofNat 0x0C
  | lineFeed => Char.ofNat 0x0A
  | carriageReturn => Char.ofNat 0x0D
  | tab => Char.ofNat 0x09

/-- A hexadecimal digit, in either case. -/
abbrev HexDigit := { c : CodePoint // c.hexValue?.isSome = true }

/-- A character of a string as it is written: itself, a backslash and a letter, or a code unit in four hexadecimal
digits. -/
inductive Letter where
  | plain (c : CodePoint) (free : 0x20 ≤ c.toNat ∧ c ≠ char '"' ∧ c ≠ char '\\')
  | short (escape : Escape)
  | unit (a b c d : HexDigit)

/-- The text of a letter. -/
def Letter.text : Letter → Text
  | plain c _ => [c]
  | short escape => [char '\\', escape.letter]
  | unit a b c d => [char '\\', char 'u', a, b, c, d]

/-- What a letter stands for. -/
def Letter.sign : Letter → Sign
  | plain c _ => .point c
  | short escape => .point escape.meant
  | unit a b c d => .unit (Text.hexadecimalValue [a, b, c, d])

/-- A string between its quotes. -/
def quoted (letters : List Letter) : Text :=
  char '"' :: (letters.flatMap Letter.text ++ [char '"'])

/-- What a string denotes. -/
def content (letters : List Letter) : Text :=
  meaning (letters.map Letter.sign)

/-! ## Numbers -/

/-- A number literal of the grammar. -/
abbrev Literal := { n : Numeral // n.WellFormed }

/-- Does the literal have neither fraction nor exponent? -/
def Numeral.isInteger (n : Numeral) : Bool :=
  n.fraction.isEmpty && n.exponent.isNone

/-- The number that a literal denotes: an integer, or the floating point number nearest to it. -/
def Numeral.denoted (n : Numeral) : Json :=
  if n.isInteger then .int (if n.negative then -Text.decimalValue n.whole else Text.decimalValue n.whole)
  else .float (Binary64.ofDecimal n.negative (Text.decimalValue (n.whole ++ n.fraction)) n.scale)

/-- The limits of numbers: an integer has at most 4300 digits, and a magnitude that is written with a fraction or an
exponent does not round to infinity. -/
def Numeral.InRange (n : Numeral) : Prop :=
  if n.isInteger then n.whole.length ≤ 4300
  else
    Text.decimalValue (n.whole ++ n.fraction) * 10 ^ n.scale.toNat <
      Binary64.overflowBound * 10 ^ (-n.scale).toNat

/-! ## Trees -/

/-- What a tree is a tree of: a value, the items of an array or the members of an object. -/
inductive Part where
  | value
  | items
  | members

/-- A derivation of the grammar. -/
inductive Tree : Part → Type where
  | null : Tree .value
  | bool (b : Bool) : Tree .value
  | number (n : Literal) : Tree .value
  | string (letters : List Letter) : Tree .value
  | emptyArray (gap : Gap) : Tree .value
  | array (items : Tree .items) : Tree .value
  | emptyObject (gap : Gap) : Tree .value
  | object (members : Tree .members) : Tree .value
  | lastItem (before : Gap) (item : Tree .value) (after : Gap) : Tree .items
  | item (before : Gap) (item : Tree .value) (after : Gap) (rest : Tree .items) : Tree .items
  | lastMember (before : Gap) (name : List Letter) (beforeColon afterColon : Gap) (value : Tree .value)
      (after : Gap) : Tree .members
  | member (before : Gap) (name : List Letter) (beforeColon afterColon : Gap) (value : Tree .value)
      (after : Gap) (rest : Tree .members) : Tree .members

namespace Tree

/-- The text that a tree spells. -/
def text {part : Part} : Tree part → Text
  | null => "null"
  | bool b => if b then "true" else "false"
  | number n => n.val.literal
  | string letters => quoted letters
  | emptyArray gap => char '[' :: (gap.val ++ [char ']'])
  | array items => char '[' :: (items.text ++ [char ']'])
  | emptyObject gap => char '{' :: (gap.val ++ [char '}'])
  | object members => char '{' :: (members.text ++ [char '}'])
  | lastItem before v after => before.val ++ (v.text ++ after.val)
  | item before v after rest => before.val ++ (v.text ++ after.val) ++ char ',' :: rest.text
  | lastMember before name beforeColon afterColon v after =>
    before.val ++ (quoted name ++ (beforeColon.val ++ char ':' :: (afterColon.val ++ (v.text ++ after.val))))
  | member before name beforeColon afterColon v after rest =>
    before.val ++ (quoted name ++ (beforeColon.val ++ char ':' :: (afterColon.val ++ (v.text ++ after.val)))) ++
      char ',' :: rest.text

/-- How many arrays and objects are open at once, at most. -/
def depth {part : Part} : Tree part → Nat
  | null | bool _ | number _ | string _ => 0
  | emptyArray _ | emptyObject _ => 1
  | array items => items.depth + 1
  | object members => members.depth + 1
  | lastItem _ v _ => v.depth
  | item _ v _ rest => max v.depth rest.depth
  | lastMember _ _ _ _ v _ => v.depth
  | member _ _ _ _ v _ rest => max v.depth rest.depth

/-- The numbers that stand in a tree. -/
def numbers {part : Part} : Tree part → List Numeral
  | number n => [n.val]
  | null | bool _ | string _ | emptyArray _ | emptyObject _ => []
  | array items => items.numbers
  | object members => members.numbers
  | lastItem _ v _ => v.numbers
  | item _ v _ rest => v.numbers ++ rest.numbers
  | lastMember _ _ _ _ v _ => v.numbers
  | member _ _ _ _ v _ rest => v.numbers ++ rest.numbers

/-- The limits: how deep a tree nests, and what its numbers are. -/
structure Within {part : Part} (room : Nat) (t : Tree part) : Prop where
  depth : t.depth ≤ room
  numbers : ∀ n ∈ t.numbers, n.InRange

end Tree

/-- The members of an object with one name are one member: the first of them gives its place, the last its value. -/
def resolve (members : List (Text × Json)) : List (Text × Json) :=
  (members.map Prod.fst).eraseDups.filterMap fun name => members.reverse.find? fun m => m.1 = name

/-- What a tree of a part denotes. -/
abbrev Part.Denotation : Part → Type
  | value => Json
  | items => List Json
  | members => List (Text × Json)

/-- What a tree denotes. -/
def Tree.value {part : Part} : Tree part → part.Denotation
  | null => Json.null
  | bool b => Json.bool b
  | number n => n.val.denoted
  | string letters => Json.str (content letters)
  | emptyArray _ => Json.arr []
  | array items => Json.arr items.value
  | emptyObject _ => Json.obj []
  | object members => Json.obj (resolve members.value)
  | lastItem _ v _ => [v.value]
  | item _ v _ rest => List.cons v.value rest.value
  | lastMember _ name _ _ v _ => [(content name, v.value)]
  | member _ name _ _ v _ rest => List.cons (content name, v.value) rest.value

/-- A JSON text: a value with white space around it. -/
structure Document where
  before : Gap
  root : Tree .value
  after : Gap

/-- The text of a document. -/
def Document.text (d : Document) : Text :=
  d.before.val ++ (d.root.text ++ d.after.val)

/-- The value that a document denotes. -/
def Document.value (d : Document) : Json :=
  d.root.value

end Tidy.Json
