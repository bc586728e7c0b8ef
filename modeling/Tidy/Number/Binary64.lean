/-
# Tidy.Number.Binary64 -- binary floating point numbers of double width

A number is a sign and a `code`: the exponent field and the fraction field of the interchange format, read
as one natural number. Codes grow with the magnitude, so neighbouring numbers have neighbouring codes; the
codes from `infinityCode` on stand for infinity and, above it, for "not a number".

Every finite magnitude is a natural multiple of `2 ^ (-1074)`, so that reading a decimal and comparing
magnitudes are arithmetic on natural numbers.
-/

namespace Tidy

/-- Two to the power of 52: how many fractions there are for one exponent. -/
def fractionCount : Nat := 0x10000000000000

/-- A binary floating point number of double width. -/
structure Binary64 where
  negative : Bool
  code : Nat
  code_lt : code < 2048 * fractionCount
deriving DecidableEq

namespace Binary64

/-- The code of infinity. -/
def infinityCode : Nat := 2047 * fractionCount

/-- A number from its sign and code; codes that are too large are cut to infinity. -/
def ofCode (negative : Bool) (code : Nat) : Binary64 :=
  ⟨negative, min code infinityCode, by unfold infinityCode fractionCount; omega⟩

/-- Infinity with a sign. -/
def infinity (negative : Bool) : Binary64 :=
  ofCode negative infinityCode

/-- Not a number. -/
def notANumber : Binary64 :=
  ⟨false, infinityCode + fractionCount / 2, by decide⟩

/-- Is the number neither infinite nor "not a number"? -/
def isFinite (x : Binary64) : Bool :=
  x.code < infinityCode

/-- Is it "not a number"? -/
def isNotANumber (x : Binary64) : Bool :=
  infinityCode < x.code

/-- Is it zero, of either sign? -/
def isZero (x : Binary64) : Bool :=
  x.code = 0

/-! ## Magnitudes -/

/-- The significand of a finite code. -/
def significand (code : Nat) : Nat :=
  if code < fractionCount then code else fractionCount + code % fractionCount

/-- The power of two by which the significand is scaled, counted from `2 ^ (-1074)`. -/
def scale (code : Nat) : Nat :=
  if code < fractionCount then 0 else code / fractionCount - 1

/-- How many units of `2 ^ (-1074)` make one. -/
def one : Nat := Nat.pow 2 1074

/-- The magnitude of a finite code, in units of `2 ^ (-1074)`. -/
def units (code : Nat) : Nat :=
  significand code * Nat.pow 2 (scale code)

/-! ## Rounding -/

/-- The quotient to the nearest natural number; a half goes to the even neighbour. -/
def nearest (num den : Nat) : Nat :=
  let low := num / den
  let twice := 2 * (num % den)
  if twice < den then low
  else if den < twice then low + 1
  else if low % 2 = 0 then low else low + 1

/-- The code nearest to `num / den` units, not cut at infinity. -/
def codeOfUnits (num den : Nat) : Nat :=
  let s := Nat.log2 (num / den) - 52
  s * fractionCount + nearest num (den * Nat.pow 2 s)

/-- How many decimal digits a natural number has; zero has one. -/
def digitCount (n : Nat) : Nat :=
  (Nat.toDigits 10 n).length

/-- The magnitude code of `digits * 10 ^ exponent`, rounded to the nearest, a half to the even neighbour, and
cut at infinity. The first two tests only keep the arithmetic small. -/
def codeOfDecimal (digits : Nat) (exponent : Int) : Nat :=
  if digits = 0 then 0
  else if exponent + digitCount digits < -330 then 0
  else if 310 < exponent + digitCount digits then infinityCode
  else
    min infinityCode
      (codeOfUnits (digits * Nat.pow 10 exponent.toNat * one) (Nat.pow 10 (-exponent).toNat))

/-- The number nearest to `digits * 10 ^ exponent`, with a sign. -/
def ofDecimal (negative : Bool) (digits : Nat) (exponent : Int) : Binary64 :=
  ofCode negative (codeOfDecimal digits exponent)

/-- The integer that a finite number equals, if it is whole. -/
def toInt? (x : Binary64) : Option Int :=
  if x.isFinite && units x.code % one = 0 then
    let n : Int := units x.code / one
    some (if x.negative then -n else n)
  else none

end Binary64

end Tidy
