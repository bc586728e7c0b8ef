/-
# Tidy.Number.Arithmetic -- sums and products of floating point numbers

A finite number is a whole multiple of the least magnitude, so sums and products are exact in whole numbers and are
rounded once. Infinity takes everything with it, and opposite infinities, or infinity times zero, are not a number.
-/

import Tidy.Number.Binary64

namespace Tidy.Binary64

/-- A finite number in units of the least magnitude. -/
def signedUnits (x : Binary64) : Int :=
  if x.negative then -(units x.code : Int) else units x.code

/-- The number nearest to a natural number; infinity if it is too large. -/
def ofNat (n : Nat) : Binary64 :=
  ofCode false (codeOfUnits (n * one) 1)

/-- The product of two numbers, rounded. -/
def mul (x y : Binary64) : Binary64 :=
  let negative := x.negative != y.negative
  if x.isNotANumber || y.isNotANumber then notANumber
  else if x.isFinite && y.isFinite then ofCode negative (codeOfUnits (units x.code * units y.code) one)
  else if x.isZero || y.isZero then notANumber
  else infinity negative

/-- The sum of two numbers, rounded. A sum of nothing is positive unless both numbers are negative. -/
def add (x y : Binary64) : Binary64 :=
  if x.isNotANumber || y.isNotANumber then notANumber
  else if x.isFinite && y.isFinite then
    let sum := x.signedUnits + y.signedUnits
    let negative := if sum = 0 then x.negative && y.negative else sum < 0
    ofCode negative (codeOfUnits sum.natAbs 1)
  else if x.isFinite then y
  else if y.isFinite || x.negative = y.negative then x
  else notANumber

/-- The number with the other sign. -/
def neg (x : Binary64) : Binary64 :=
  { x with negative := !x.negative }

end Tidy.Binary64
