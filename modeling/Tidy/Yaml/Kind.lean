/-
# Tidy.Yaml.Kind -- the kinds of plain scalars

The text of a plain scalar tells its kind: a truth value, a number, nothing, a day or a moment, one of two signs
with a meaning in mappings, or else a text. Numbers may have underscores, whole numbers are also written in base
two, eight and sixteen, and both may be written in base sixty with colons.
-/

import Tidy.Text.CodePoint

namespace Tidy.Yaml

/-- The kind of a plain scalar. -/
inductive Kind where
  | null
  | bool
  | int
  | float
  | moment
  | merge
  | value
  | str
deriving DecidableEq

namespace Kind

/-- The last part of the tag of a kind. -/
def tag : Kind → Text
  | null => "null"
  | bool => "bool"
  | int => "int"
  | float => "float"
  | moment => "timestamp"
  | merge => "merge"
  | value => "value"
  | str => "str"

/-- The texts for nothing. -/
def nullWords : List Text := [[], "~", "null", "Null", "NULL"]

/-- The texts of truth values. -/
def boolWords : List Text :=
  ["yes", "Yes", "YES", "no", "No", "NO", "true", "True", "TRUE", "false", "False", "FALSE",
   "on", "On", "ON", "off", "Off", "OFF"]

/-! ## Shapes of texts -/

/-- The text without a sign in front. -/
def unsigned : Text → Text
  | '+' :: t => t
  | '-' :: t => t
  | t => t

/-- A space or a tab. -/
def isSpace (c : CodePoint) : Bool :=
  c = ' ' || c = '\t'

/-- A digit or an underscore. -/
def isDigitOrGap (c : CodePoint) : Bool :=
  c.isAsciiDigit || c = '_'

/-- A digit, then digits and underscores. -/
def isGapped (t : Text) : Bool :=
  t.head?.any CodePoint.isAsciiDigit && t.all isDigitOrGap

/-- Not empty and nothing but code points that satisfy `p`. -/
def isRun (p : CodePoint → Bool) (t : Text) : Bool :=
  !t.isEmpty && t.all p

/-- A digit pair below sixty, or a single digit. -/
def isSixtieth : Text → Bool
  | [b] => b.isAsciiDigit
  | [a, b] => a.within 0x30 0x35 && b.isAsciiDigit
  | _ => false

/-- The text up to the first occurrence of `mark`, and the text after it. -/
def cut? (mark : CodePoint) (t : Text) : Option (Text × Text) :=
  let front := t.takeWhile (· ≠ mark)
  match t.drop front.length with
  | [] => none
  | _ :: back => some (front, back)

/-- A number in base sixty, from a first part that satisfies `p`. -/
def isSexagesimal (p : Text → Bool) (t : Text) : Bool :=
  match Text.splitAt ':' t with
  | first :: second :: rest => p first && (second :: rest).all isSixtieth
  | _ => false

/-- An exponent, which has a sign, or nothing. -/
def isExponent : Text → Bool
  | [] => true
  | e :: sign :: digits =>
    (e = 'e' || e = 'E') && (sign = '+' || sign = '-') && isRun CodePoint.isAsciiDigit digits
  | _ => false

/-! ## Numbers -/

/-- The text of a whole number. -/
def isInt (t : Text) : Bool :=
  let t := unsigned t
  let startsAboveZero := t.head?.any fun c => c.within 0x31 0x39
  match t with
  | '0' :: 'b' :: rest => isRun (fun c => c = '0' || c = '1' || c = '_') rest
  | '0' :: 'x' :: rest => isRun (fun c => c.hexValue?.isSome || c = '_') rest
  | '0' :: rest => rest.all fun c => c.within 0x30 0x37 || c = '_'
  | _ => startsAboveZero && (isGapped t || isSexagesimal isGapped t)

/-- The digits after a point, with an exponent. -/
def isFraction (t : Text) : Bool :=
  isExponent (t.dropWhile isDigitOrGap)

/-- The text of a floating point number. -/
def isFloat (t : Text) : Bool :=
  let body := unsigned t
  if body = ".inf" || body = ".Inf" || body = ".INF" then true
  else if t = ".nan" || t = ".NaN" || t = ".NAN" then true
  else match cut? '.' body with
    | none => false
    | some (front, back) =>
      if front.isEmpty then
        body.length = t.length && back.head?.any CodePoint.isAsciiDigit && isFraction back
      else (isGapped front && isFraction back) ||
        (isSexagesimal isGapped front && back.all isDigitOrGap)

/-! ## Moments -/

/-- Does the text consist of so many digits? -/
def isDigits (counts : List Nat) (t : Text) : Bool :=
  counts.contains t.length && t.all CodePoint.isAsciiDigit

/-- The text of a zone: `Z`, or hours and perhaps minutes with a sign, after spaces; or nothing. -/
def isZone (t : Text) : Bool :=
  match t.dropWhile isSpace with
  | [] => t.isEmpty
  | ['Z'] => true
  | sign :: rest =>
    (sign = '+' || sign = '-') &&
      match cut? ':' rest with
      | none => isDigits [1, 2] rest
      | some (hours, minutes) => isDigits [1, 2] hours && isDigits [2] minutes

/-- The text of a time of a day with a zone. -/
def isClock (t : Text) : Bool :=
  match cut? ':' t with
  | none => false
  | some (hour, t) =>
    match cut? ':' t with
    | none => false
    | some (minute, t) =>
      let second := t.take 2
      let rest := t.drop 2
      let rest := match rest with
        | '.' :: fraction => fraction.dropWhile CodePoint.isAsciiDigit
        | rest => rest
      isDigits [1, 2] hour && isDigits [2] minute && isDigits [2] second && isZone rest

/-- What stands between a day and a time of that day. -/
def afterDay? : Text → Option Text
  | 'T' :: t => some t
  | 't' :: t => some t
  | t =>
    let rest := t.dropWhile isSpace
    if rest.length < t.length then some rest else none

/-- The text of a moment: a day, or a day and a time. A day alone has two digits for month and day. -/
def isMoment (t : Text) : Bool :=
  match cut? '-' t with
  | none => false
  | some (year, t) =>
    match cut? '-' t with
    | none => false
    | some (month, t) =>
      let day := t.takeWhile CodePoint.isAsciiDigit
      let rest := t.drop day.length
      isDigits [4] year &&
        if rest.isEmpty then isDigits [2] month && isDigits [2] day
        else isDigits [1, 2] month && isDigits [1, 2] day && (afterDay? rest).any isClock

/-- A text without the line feed at its end. -/
def withoutEnd (t : Text) : Text :=
  if 1 < t.length && t.getLast? = some CodePoint.newline then t.dropLast else t

/-- The kind that a text tells which is written on one line. -/
def ofLine (t : Text) : Kind :=
  if nullWords.contains t then .null
  else if boolWords.contains t then .bool
  else if isFloat t then .float
  else if isInt t then .int
  else if isMoment t then .moment
  else if t = "<<" then .merge
  else if t = "=" then .value
  else .str

/-- The kind that the text of a scalar tells. -/
def ofText (t : Text) : Kind :=
  ofLine (withoutEnd t)

end Kind

end Tidy.Yaml
