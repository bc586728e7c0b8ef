/-
# Tidy.Json.Fault -- why a text is not JSON

A fault is a cause. Most faults lie at a place, which is kept as the text from that place on; the place is
turned into a line, a column and an offset only when the fault is put into words.
-/

import Tidy.Text.CodePoint

namespace Tidy.Json

/-- What is missing or wrong at a place. -/
inductive Complaint where
  | value
  | propertyName
  | colon
  | comma
  | extraData
  | unterminated
  | control
  | escape
  | unicodeEscape
  | byteOrderMark
deriving DecidableEq

/-- Why a text is not JSON. -/
inductive Fault where
  | lies (complaint : Complaint) (rest : Text)
  | constant (name : Text)
  | outOfRange (literal : Text)
  | tooManyDigits (count : Nat)
  | tooDeep

/-- The words for a complaint. -/
def Complaint.message : Complaint → Text
  | value => "Expecting value"
  | propertyName => "Expecting property name enclosed in double quotes"
  | colon => "Expecting ':' delimiter"
  | comma => "Expecting ',' delimiter"
  | extraData => "Extra data"
  | unterminated => "Unterminated string starting at"
  | control => "Invalid control character at"
  | escape => "Invalid \\escape"
  | unicodeEscape => "Invalid \\uXXXX escape"
  | byteOrderMark => "Unexpected UTF-8 BOM (decode using utf-8-sig)"

/-- The line, counted from one, of what follows `before`. -/
def lineAfter (before : Text) : Nat :=
  before.count CodePoint.newline + 1

/-- The column, counted from one, of what follows `before`. -/
def columnAfter (before : Text) : Nat :=
  (before.reverse.takeWhile (· ≠ CodePoint.newline)).length + 1

/-- How many digits an integer literal may have. -/
def digitLimit : Nat := 4300

/-- The words for a number literal with too many digits. -/
def tooManyDigitsMessage (count : Nat) : Text :=
  "Exceeds the limit (4300 digits) for integer string conversion: value has " ++ Text.ofNat count ++
    " digits; use sys.set_int_max_str_digits() to increase the limit"

/-- The words for a fault in `source`. -/
def Fault.message (source : Text) : Fault → Text
  | lies complaint rest =>
    let before := source.take (source.length - rest.length)
    complaint.message ++ ": line " ++ Text.ofNat (lineAfter before) ++ " column " ++
      Text.ofNat (columnAfter before) ++ " (char " ++ Text.ofNat before.length ++ ")"
  | constant name => name ++ " is not valid JSON"
  | outOfRange literal => "Number out of range: " ++ literal
  | tooManyDigits count => tooManyDigitsMessage count
  | tooDeep => "JSON nesting too deep"

end Tidy.Json
