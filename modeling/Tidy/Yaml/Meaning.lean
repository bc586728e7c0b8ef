/-
# Tidy.Yaml.Meaning -- the values of scalars

A scalar of a built-in kind has a value: a number, a truth value, a moment, bytes, or its text. A text that is tagged
as one of these and does not write one is refused.
-/

import Tidy.Indent
import Tidy.Number.Arithmetic
import Tidy.Yaml.Cursor
import Tidy.Yaml.Kind

namespace Tidy.Yaml

/-! ## Numbers -/

/-- The text without underscores. -/
def withoutGaps (t : Text) : Text :=
  t.filter (· ≠ CodePoint.char '_')

/-- The words for a text that is not a whole number in a base. -/
def notWhole (base : Nat) (t : Text) : Fault :=
  .unreadable ("invalid literal for int() with base " ++ Text.ofNat base ++ ": " ++
    (Text.quoted t).take Indent.quotationLimit)

/-- The value of a digit in a base. -/
def digitValue? (base : Nat) (c : CodePoint) : Option Nat :=
  (c.decimalValue?.or c.hexValue?).filter (· < base)

/-- The letter that may stand after a zero in front of digits in a base. -/
def baseLetters : Nat → Text
  | 2 => "bB"
  | 8 => "oO"
  | 16 => "xX"
  | _ => []

/-- The digits after a mark of their base. -/
def afterBase (base : Nat) : Text → Text
  | '0' :: letter :: rest => if (baseLetters base).contains letter then rest else '0' :: letter :: rest
  | t => t

/-- The whole number that a text writes in a base: white space and a sign may stand before the digits. -/
def wholeNumber (base : Nat) (t : Text) : Except Fault Int :=
  let body := Text.trim t
  let digits := afterBase base (Kind.unsigned body)
  let count := (digits.takeWhile fun c => c.decimalValue?.isSome).length
  if digits.isEmpty then .error (notWhole base t)
  else if base = 10 && Indent.digitLimit < count then .error (.unreadable (Json.tooManyDigitsMessage count))
  else
    match digits.foldlM (fun n c => (digitValue? base c).map (n * base + ·)) 0 with
    | none => .error (notWhole base t)
    | some n => .ok (if body.head? = some (CodePoint.char '-') then -(n : Int) else n)

/-- The number of parts in base sixty, the highest first. -/
def sexagesimal (parts : List Int) : Int :=
  parts.foldl (fun n part => n * 60 + part) 0

/-- The whole number of a scalar. -/
def intValue (t : Text) : Except Fault Int := do
  let t := withoutGaps t
  match t with
  | [] => .error .emptyNumeral
  | first :: _ =>
    let body := Kind.unsigned t
    let amount ← match body with
      | ['0'] => .ok 0
      | '0' :: 'b' :: digits => wholeNumber 2 digits
      | '0' :: 'x' :: digits => wholeNumber 16 digits
      | '0' :: _ => wholeNumber 8 body
      | [] => .error .emptyNumeral
      | _ =>
        if body.contains (CodePoint.char ':') then do
          .ok (sexagesimal (← (Text.splitAt ':' body).mapM (wholeNumber 10)))
        else wholeNumber 10 body
    .ok (if first = '-' then -amount else amount)

/-- A decimal number: digits that count in units of `10 ^ exponent`. -/
structure Numeral where
  digits : Nat
  exponent : Int

/-- The exponent of a number in lower case. -/
def exponent? : Text → Option Int
  | [] => some 0
  | 'e' :: rest =>
    let digits := Kind.unsigned rest
    if Kind.isRun CodePoint.isAsciiDigit digits then
      let n : Int := Text.decimalValue digits
      some (if rest.head? = some (CodePoint.char '-') then -n else n)
    else none
  | _ => none

/-- The decimal number that a text without a sign writes. -/
def numeral? (t : Text) : Option Numeral := do
  let whole := t.takeWhile CodePoint.isAsciiDigit
  let rest := t.drop whole.length
  let (fraction, rest) := match rest with
    | '.' :: rest =>
      let fraction := rest.takeWhile CodePoint.isAsciiDigit
      (fraction, rest.drop fraction.length)
    | rest => ([], rest)
  let exponent ← exponent? rest
  if whole.isEmpty && fraction.isEmpty then none
  else some ⟨Text.decimalValue (whole ++ fraction), exponent - fraction.length⟩

/-- A text in which the decimal digits of all scripts are written with ASCII digits. -/
def asciiDigits (t : Text) : Text :=
  t.map fun c => match c.decimalValue? with
    | some n => CodePoint.ofNat (0x30 + n)
    | none => c

/-- The floating point number that a text in lower case writes. -/
def floatNumber (t : Text) : Except Fault Binary64 :=
  let body := Text.trim t
  let negative := body.head? = some (CodePoint.char '-')
  let magnitude := Kind.unsigned body
  if magnitude = "inf" || magnitude = "infinity" then .ok (.infinity negative)
  else if magnitude = "nan" then .ok .notANumber
  else match numeral? (asciiDigits magnitude) with
    | some n => .ok (.ofDecimal negative n.digits n.exponent)
    | none => .error (.unreadable ("could not convert string to float: " ++ Text.quoted t))

/-- The sum of parts in base sixty, the lowest first, where the first counts `base` times. A base that is no
number any more is refused. -/
def addSixtieths (sum : Binary64) (base : Nat) : List Binary64 → Except Fault Binary64
  | [] => .ok sum
  | part :: rest =>
    let factor := Binary64.ofNat base
    if factor.isFinite then addSixtieths (sum.add (part.mul factor)) (base * 60) rest else .error .tooManyParts

/-- The floating point number of a scalar. -/
def floatValue (t : Text) : Except Fault Binary64 := do
  let t := Text.lower (withoutGaps t)
  match t with
  | [] => .error .emptyNumeral
  | first :: _ =>
    let body := Kind.unsigned t
    let magnitude ←
      if body = ".inf" then .ok (.infinity false)
      else if body = ".nan" then .ok .notANumber
      else if body.contains (CodePoint.char ':') then do
        let parts ← (Text.splitAt ':' body).mapM floatNumber
        addSixtieths (.ofNat 0) 1 parts.reverse
      else floatNumber body
    .ok (if first = '-' && body ≠ ".nan" then magnitude.neg else magnitude)

/-! ## Truth values, moments and bytes -/

/-- The truth value of a scalar. -/
def boolValue (t : Text) : Except Fault Bool :=
  let word := Text.lower t
  if word = "yes" || word = "true" || word = "on" then .ok true
  else if word = "no" || word = "false" || word = "off" then .ok false
  else .error (.unknownWord word)

/-- Is the year a leap year? -/
def isLeapYear (year : Nat) : Bool :=
  year % 4 = 0 && (year % 100 ≠ 0 || year % 400 = 0)

/-- How many days a month has. -/
def daysInMonth (year month : Nat) : Nat :=
  if month = 2 then if isLeapYear year then 29 else 28
  else if month = 4 || month = 6 || month = 9 || month = 11 then 30
  else 31

/-- The day, if the calendar has it. -/
def checkDate (d : Date) : Except Fault Date :=
  if d.year = 0 then .error (.unreadable ("year " ++ Text.ofNat d.year ++ " is out of range"))
  else if d.month = 0 || 12 < d.month then .error (.unreadable "month must be in 1..12")
  else if d.day = 0 || daysInMonth d.year d.month < d.day then
    .error (.unreadable "day is out of range for month")
  else .ok d

/-- The time, if a day has it. -/
def checkClock (c : Clock) : Except Fault Clock :=
  if 23 < c.hour then .error (.unreadable "hour must be in 0..23")
  else if 59 < c.minute then .error (.unreadable "minute must be in 0..59")
  else if 59 < c.second then .error (.unreadable "second must be in 0..59")
  else .ok c

/-- The zone of a time, if it is less than a day away from universal time. -/
def checkZone (minutes : Int) : Except Fault Zone :=
  if minutes.natAbs < 1440 then .ok (.ahead minutes)
  else .error (.unreadable
    ("offset must be a timedelta strictly between -timedelta(hours=24) and timedelta(hours=24), not " ++
      Value.spanSpelled minutes ++ "."))

/-- The zone that stands after a time. -/
def zoneValue (t : Text) : Except Fault Zone :=
  match t.dropWhile Kind.isSpace with
  | [] => .ok .unknown
  | ['Z'] => .ok .universal
  | sign :: rest =>
    let (hours, minutes) := (Kind.cut? ':' rest).getD (rest, [])
    let n : Int := Text.decimalValue hours * 60 + Text.decimalValue minutes
    checkZone (if sign = '-' then -n else n)

/-- The millionths that the digits after a point count. -/
def microValue (fraction : Text) : Nat :=
  let digits := fraction.take 6
  Text.decimalValue digits * Nat.pow 10 (6 - digits.length)

/-- The time and the zone that stand after a day. -/
def clockValue (t : Text) : Except Fault (Clock × Zone) := do
  let (hour, t) := (Kind.cut? ':' t).getD ([], [])
  let (minute, t) := (Kind.cut? ':' t).getD ([], [])
  let rest := t.drop 2
  let fraction := match rest with
    | '.' :: rest => rest.takeWhile CodePoint.isAsciiDigit
    | _ => []
  let zone := match rest with
    | '.' :: rest => rest.drop fraction.length
    | rest => rest
  let clock : Clock :=
    ⟨Text.decimalValue hour, Text.decimalValue minute, Text.decimalValue (t.take 2), microValue fraction⟩
  let zone ← zoneValue zone
  .ok (clock, zone)

/-- Is the text that of a moment, where a day alone may have single digits for month and day? -/
def isLooseMoment (t : Text) : Bool :=
  Kind.isMoment t ||
    match Text.splitAt '-' t with
    | [year, month, day] => Kind.isDigits [4] year && Kind.isDigits [1, 2] month && Kind.isDigits [1, 2] day
    | _ => false

/-- The moment of a scalar. -/
def momentValue (t : Text) : Except Fault Value := do
  let t := Kind.withoutEnd t
  if !isLooseMoment t then .error .noMoment
  else
    let (year, t) := (Kind.cut? '-' t).getD ([], [])
    let (month, t) := (Kind.cut? '-' t).getD ([], [])
    let day := t.takeWhile CodePoint.isAsciiDigit
    let date : Date := ⟨Text.decimalValue year, Text.decimalValue month, Text.decimalValue day⟩
    match Kind.afterDay? (t.drop day.length) with
    | none => .ok (.date (← checkDate date))
    | some t => do
      let (clock, zone) ← clockValue t
      let date ← checkDate date
      .ok (.moment date (← checkClock clock) zone)

/-- The value of a letter in base sixty-four. -/
def base64Value? (c : CodePoint) : Option Nat :=
  if c.within 0x41 0x5A then some (c.toNat - 0x41)
  else if c.within 0x61 0x7A then some (c.toNat - 0x61 + 26)
  else if c.isAsciiDigit then some (c.toNat - 0x30 + 52)
  else if c = '+' then some 62
  else if c = '/' then some 63
  else none

/-- The bytes that letters in base sixty-four write. `held` letters of a group of four have been read, whose bits
not yet written are `bits`; other characters are passed over. The text ends at its padding. -/
def base64Bytes (held bits padding : Nat) : Text → Except Fault (List UInt8)
  | [] => if held = 0 then .ok [] else .error .malformed
  | c :: rest =>
    if c = '=' then
      if 2 ≤ held && 4 ≤ held + padding + 1 then .ok []
      else base64Bytes held bits (padding + 1) rest
    else match base64Value? c with
      | none => base64Bytes held bits padding rest
      | some n =>
        let bits := bits * 64 + n
        match held with
        | 0 => base64Bytes 1 n 0 rest
        | 1 => do .ok ((bits / 16).toUInt8 :: (← base64Bytes 2 (bits % 16) 0 rest))
        | 2 => do .ok ((bits / 4).toUInt8 :: (← base64Bytes 3 (bits % 4) 0 rest))
        | _ => do .ok (bits.toUInt8 :: (← base64Bytes 0 0 0 rest))

/-- The bytes of a scalar. -/
def bytesValue (t : Text) : Except Fault (List UInt8) :=
  if t.all fun c => c.toNat < 0x80 then base64Bytes 0 0 0 t else .error .malformed

/-! ## Scalars -/

/-- The value of a scalar of a built-in kind. -/
def scalarValue (kind : Text) (t : Text) : Except Fault Value :=
  if kind = "null" then .ok .null
  else if kind = "bool" then (boolValue t).map .bool
  else if kind = "int" then (intValue t).map .int
  else if kind = "float" then (floatValue t).map .float
  else if kind = "binary" then (bytesValue t).map .bytes
  else if kind = "timestamp" then momentValue t
  else if kind = "str" then .ok (.str t)
  else .error .malformed

end Tidy.Yaml
