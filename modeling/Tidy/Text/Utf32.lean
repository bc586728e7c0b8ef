/-
# Tidy.Text.Utf32 -- the UTF-32 form of texts

A UTF-32 unit is four bytes, in one of two orders, and writes the code point of its number. Surrogates are taken as
they are; a number beyond `0x10FFFF` and a unit that is not whole are refused.
-/

import Tidy.Text.Utf16

namespace Tidy.Text

/-- The number that two UTF-16 units write when they are read as one unit of four bytes. -/
def ByteOrder.wide (order : ByteOrder) (first second : Nat) : Nat :=
  match order with
  | big => first * 0x10000 + second
  | little => second * 0x10000 + first

/-- The text that rows of four bytes write, given as pairs of units of two bytes. -/
def ofWideUnits? (order : ByteOrder) : List Nat → Option Text
  | [] => some []
  | [_] => none
  | first :: second :: rest => do
    let c ← CodePoint.ofNat? (order.wide first second)
    let t ← ofWideUnits? order rest
    some (c :: t)

/-- The text that UTF-32 bytes write. -/
def ofUtf32? (order : ByteOrder) (bytes : List UInt8) : Option Text :=
  if bytes.length % 4 = 0 then ofWideUnits? order (order.units bytes) else none

/-- The text that UTF-16 bytes write, where units without a partner stay surrogates. -/
def ofUtf16? (order : ByteOrder) (bytes : List UInt8) : Option Text :=
  if bytes.length % 2 = 0 then some (ofUnits (order.units bytes)) else none

end Tidy.Text
