/-
# Tidy.Indent -- the width of an indent option

An option is a positive number, the digits of one, or the word `tab`, which stands for the width of a tab. Digits
of any script count.
-/

import Tidy.Json.Fault
import Tidy.Text.Blank
import Tidy.Text.Digit
import Tidy.Text.Lowercase
import Tidy.Value

namespace Tidy.Indent

/-- Why an option gives no width. -/
inductive Fault where
  | unknown (option : Text)
  | noNumeral (t : Text)
  | tooManyDigits (count : Nat)
  | notPositive (value : Value)

/-- The most digits that a number may have. -/
def digitLimit : Nat := 4300

/-- The longest quotation of a text that is no number. -/
def quotationLimit : Nat := 200

/-- The words for a fault. -/
def Fault.message : Fault → Text
  | unknown option => "Invalid indent option: " ++ Text.quoted option
  | noNumeral t => "invalid literal for int() with base 10: " ++ (Text.quoted t).take quotationLimit
  | tooManyDigits count => Json.tooManyDigitsMessage count
  | notPositive value =>
    if value.hasLongNumber then Value.longNumberMessage
    else "Indent must be a positive integer or 'tab', got " ++ value.spelled

/-- The option that stands for the width of a tab. -/
def tab : Text := "tab"

/-- The width of a tab where none is given. -/
def defaultTabWidth : Nat := 4

/-- The number that digits of any script write. -/
def numeralValue (digits : Text) : Nat :=
  digits.foldl (fun n c => n * 10 + c.decimalValue?.getD 0) 0

/-- The number that a row of digits writes, if all of them have a place in numerals. -/
def readNumeral (t : Text) : Except Fault Nat :=
  let digits := t.takeWhile fun c => c.decimalValue?.isSome
  if digitLimit < digits.length then .error (.tooManyDigits digits.length)
  else if digits.length < t.length then .error (.noNumeral t)
  else .ok (numeralValue digits)

/-- The value that an option stands for: words and digits are looked at without white space around them and in any
case, other options stand for themselves. -/
def meaning (option tabWidth : Value) : Except Fault Value :=
  match option with
  | .str t =>
    let word := Text.lower (Text.trim t)
    if word = tab then .ok tabWidth
    else if !word.isEmpty && word.all CodePoint.isDigitLike then
      (readNumeral word).map fun n => .int n
    else .error (.unknown t)
  | value => .ok value

/-- The width that a value is, if it is a positive number. -/
def width : Value → Except Fault Nat
  | .int n => if 0 < n then .ok n.toNat else .error (.notPositive (.int n))
  | value => .error (.notPositive value)

/-- The width of an option. -/
def resolve (option tabWidth : Value) : Except Fault Nat := do
  width (← meaning option tabWidth)

end Tidy.Indent
