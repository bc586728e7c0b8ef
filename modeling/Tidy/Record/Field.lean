/-
# Tidy.Record.Field -- checks of single fields

A check turns a value into what a field holds, or gives the problem with it. Checks are lenient: whole numbers may
come as texts or as floating point numbers, truth values as words. `Record.field` looks a field up and checks it;
`Checked.both` joins two results, so that the issues of all fields are listed in the order of the fields.
-/

import Tidy.Language
import Tidy.Record.Problem
import Tidy.Text.Utf8

namespace Tidy

/-- A check of one value. -/
abbrev Check (α : Type) := Value → Except Problem α

namespace Check

/-- The text of a text in which no surrogate stands, or of bytes that spell one; `garbled` is the problem with other
bytes. -/
def spelling? (garbled : Problem) : Value → Option (Except Problem Text)
  | .str t => some (if t.hasSurrogate then .error .notUnicode else .ok t)
  | .bytes data =>
    match Text.ofUtf8 data with
    | .ok t => some (.ok t)
    | .error _ => some (.error garbled)
  | _ => none

/-! ## Whole numbers -/

/-- White space that may stand around a number: `Text.isBlank` without the four ASCII separators. -/
def isPadding (c : CodePoint) : Bool :=
  c.isBlank && !c.within 0x1C 0x1F

/-- The longest text that is read as a number. -/
def longestNumber : Nat := 4300

/-- Drops white space around a number. -/
def unpadded (t : Text) : Text :=
  ((t.dropWhile isPadding).reverse.dropWhile isPadding).reverse

/-- Drops a point with nothing but zeros after it. -/
def withoutPoint (t : Text) : Text :=
  let tail := t.reverse.takeWhile (· = CodePoint.char '0')
  match t.reverse.drop tail.length with
  | [] => t
  | c :: rest => if c = CodePoint.char '.' then rest.reverse else t

/-- The digits of a number in which single underscores may stand between digits. -/
def digits? (t : Text) : Option Text :=
  let groups := Text.splitAt '_' t
  if groups.all fun group => !group.isEmpty && group.all CodePoint.isAsciiDigit then some groups.flatten
  else none

/-- The whole number that a text writes. -/
def numeral (t : Text) : Except Problem Int :=
  let body := withoutPoint (unpadded t)
  let (negative, digits) := match body with
    | c :: rest =>
      if c = CodePoint.char '-' then (true, rest) else if c = CodePoint.char '+' then (false, rest)
      else (false, body)
    | [] => (false, [])
  match digits? digits with
  | none => .error .notInteger
  | some digits =>
    if longestNumber < digits.length then .error .hugeInteger
    else
      let n : Int := Text.decimalValue digits
      .ok (if negative then -n else n)

/-- The first amount that is too large for a floating point number, two to the power of 63. -/
def floatLimit : Nat := 0x8000000000000000

/-- A whole number. -/
def integer : Check Int
  | .int n => .ok n
  | .bool b => .ok (if b then 1 else 0)
  | .float x =>
    if !x.isFinite then .error .notFinite
    else match x.toInt? with
      | some n => if n.natAbs < floatLimit then .ok n else .error .hugeInteger
      | none => .error .fractional
  | value =>
    match spelling? .notInteger value with
    | some spelled => spelled.bind numeral
    | none => .error .integerKind

/-- A whole number above zero. -/
def positive : Check Nat := fun value => do
  let n ← integer value
  if 0 < n then .ok n.toNat else .error .notPositive

/-! ## Truth values, texts and choices -/

/-- The words for true and for false. -/
def truthWords : List (Text × Bool) :=
  [("0", false), ("off", false), ("f", false), ("false", false), ("n", false), ("no", false),
   ("1", true), ("on", true), ("t", true), ("true", true), ("y", true), ("yes", true)]

/-- An ASCII letter in lower case. -/
def asciiLower (c : CodePoint) : CodePoint :=
  match c with
  | .char c => c.toLower
  | c => c

/-- The truth value of a word, in any case. -/
def truthWord (t : Text) : Except Problem Bool :=
  match truthWords.find? fun word => word.1 = t.map asciiLower with
  | some word => .ok word.2
  | none => .error .notBoolean

/-- A truth value. -/
def boolean : Check Bool
  | .bool b => .ok b
  | .int n => if n = 0 then .ok false else if n = 1 then .ok true else .error .notBoolean
  | .float x =>
    if x.toInt? = some 0 then .ok false else if x.toInt? = some 1 then .ok true else .error .booleanKind
  | value =>
    match spelling? .notBoolean value with
    | some spelled => spelled.bind truthWord
    | none => .error .booleanKind

/-- A text. -/
def text : Check Text
  | .str t => .ok t
  | _ => .error .textKind

/-- A text or nothing. -/
def optionalText : Check (Option Text)
  | .null => .ok none
  | value => (text value).map some

/-- One of the languages, by its exact tag. -/
def language : Check Language := fun value =>
  let refused := Problem.choice (Language.all.map Language.tag)
  match spelling? refused value with
  | some spelled => spelled.bind fun t => (Language.withTag? t).elim (.error refused) .ok
  | none => .error refused

/-- One of the strategies, by its exact tag. -/
def strategy : Check Strategy := fun value =>
  let refused := Problem.choice (Strategy.all.map Strategy.tag)
  match spelling? refused value with
  | some spelled => spelled.bind fun t => (Strategy.all.find? fun s => s.tag = t).elim (.error refused) .ok
  | none => .error refused

end Check

/-! ## Records -/

/-- The fields of a record, before they are checked. -/
abbrev Record := List (Text × Value)

/-- A result, or all the issues that were found. -/
abbrev Checked (α : Type) := Except (List Issue) α

/-- Joins two results, and all their issues. -/
def Checked.both {α β : Type} (first : Checked α) (second : Checked β) : Checked (α × β) :=
  match first, second with
  | .ok a, .ok b => .ok (a, b)
  | .ok _, .error issues => .error issues
  | .error issues, .ok _ => .error issues
  | .error issues, .error more => .error (issues ++ more)

namespace Record

/-- The record of a JSON object. Other documents have no fields. -/
def ofJson : Json → Record
  | .obj members => members.map fun m => (m.1, Value.ofJson m.2)
  | _ => []

/-- The value of a field. -/
def get? (record : Record) (name : Text) : Option Value :=
  (record.find? fun field => field.1 = name).map (·.2)

/-- A field that has to be there. -/
def required {α : Type} (record : Record) (name : Text) (check : Check α) : Checked α :=
  match record.get? name with
  | none => .error [⟨[name], .missing⟩]
  | some value =>
    match check value with
    | .ok a => .ok a
    | .error problem => .error [⟨[name], problem⟩]

/-- A field that may be left out. -/
def optional {α : Type} (record : Record) (name : Text) (check : Check α) (default : α) : Checked α :=
  match record.get? name with
  | none => .ok default
  | some _ => record.required name check

end Record

end Tidy
