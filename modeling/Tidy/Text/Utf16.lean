/-
# Tidy.Text.Utf16 -- the UTF-16 form of texts

A UTF-16 unit is two bytes, in one of two orders. A high and a low unit write one code point together; every
other unit writes the code point of its number, so units without a partner stay surrogates.
-/

import Tidy.Text.CodePoint

namespace Tidy.Text

/-- The order of the two bytes of a unit. -/
inductive ByteOrder where
  /-- The high byte stands first. -/
  | big
  /-- The low byte stands first. -/
  | little
deriving DecidableEq

/-- The unit that two bytes write. -/
def ByteOrder.unit (order : ByteOrder) (first second : UInt8) : Nat :=
  match order with
  | big => first.toNat * 0x100 + second.toNat
  | little => second.toNat * 0x100 + first.toNat

/-- The units that a row of bytes writes; a last byte without a partner writes none. -/
def ByteOrder.units (order : ByteOrder) : List UInt8 → List Nat
  | first :: second :: rest => order.unit first second :: order.units rest
  | _ => []

theorem ByteOrder.length_units (order : ByteOrder) (bytes : List UInt8) :
    (order.units bytes).length = bytes.length / 2 := by
  fun_induction ByteOrder.units order bytes with
  | case1 first second rest ih => simp only [List.length_cons, ih]; omega
  | case2 bytes short =>
    match bytes, short with
    | [], _ | [_], _ => simp
    | first :: second :: rest, short => exact (short first second rest rfl).elim

/-- The text that units write. -/
def ofUnits : List Nat → Text
  | [] => []
  | [unit] => [CodePoint.ofNat unit]
  | high :: low :: rest =>
    if CodePoint.isHigh high && CodePoint.isLow low then CodePoint.ofPair high low :: ofUnits rest
    else CodePoint.ofNat high :: ofUnits (low :: rest)

end Tidy.Text
