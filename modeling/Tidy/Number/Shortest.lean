/-
# Tidy.Number.Shortest -- the shortest decimal that reads back

Of all decimals that read back as a given number, the printed one has the fewest digits, and of those it
lies nearest. The search tries one digit, two digits and so on: on each grid only the two neighbours of
the value can be nearest, and each is tested by reading it back. Seventeen digits always suffice; the exact
expansion stands behind the search, so what is printed reads back without an appeal to that fact.
-/

import Tidy.Number.Binary64
import Tidy.Text.CodePoint

namespace Tidy

/-- The decimal `digits * 10 ^ exponent`. -/
structure Decimal where
  digits : Nat
  exponent : Int
deriving DecidableEq

namespace Binary64

/-- The number `p` with `10 ^ (p - 1) ≤ v < 10 ^ p` for a magnitude `v > 0` in units. -/
def decimalPoint (units : Nat) : Int :=
  if one ≤ units then digitCount (units / one)
  else 1 - digitCount (one / units)

/-- Does the decimal read back as the magnitude `code`? -/
def readsBack (code : Nat) (d : Decimal) : Bool :=
  codeOfDecimal d.digits d.exponent = code

/-- The decimal of `count` digits that lies nearest to the magnitude and reads back, if any does. -/
def withDigits? (code count : Nat) : Option Decimal :=
  let shift : Int := count - decimalPoint (units code)
  let num := units code * Nat.pow 10 shift.toNat
  let den := one * Nat.pow 10 (-shift).toNat
  let low : Decimal := ⟨num / den, -shift⟩
  let high : Decimal :=
    if num / den + 1 = Nat.pow 10 count then ⟨1, count - shift⟩ else ⟨num / den + 1, -shift⟩
  let near := if nearest num den = num / den then [low, high] else [high, low]
  near.find? (readsBack code)

/-- The decimal that equals the magnitude. -/
def exactDecimal (code : Nat) : Decimal :=
  ⟨units code * Nat.pow 5 1074, -1074⟩

/-- The shortest decimal that reads back as the magnitude `code`. -/
def shortest (code : Nat) : Decimal :=
  ((List.range' 1 17).findSome? (withDigits? code)).getD (exactDecimal code)

/-! ## Notation -/

/-- The text of a decimal: positional if its first digit counts from `10 ^ (-4)` to `10 ^ 15`, else with
an exponent of at least two digits. A fraction part is always written in positional notation. -/
def decimalText (d : Decimal) : Text :=
  let ds := Text.ofNat d.digits
  let point : Int := ds.length + d.exponent
  if -4 < point ∧ point ≤ 16 then
    if point ≤ 0 then "0." ++ List.replicate (-point).toNat (CodePoint.char '0') ++ ds
    else if ds.length ≤ point.toNat then
      ds ++ List.replicate (point.toNat - ds.length) (CodePoint.char '0') ++ ".0"
    else ds.take point.toNat ++ "." ++ ds.drop point.toNat
  else
    let e := point - 1
    let fraction : Text := if ds.length ≤ 1 then [] else '.' :: ds.drop 1
    let amount := Text.ofNat e.natAbs
    let padded : Text := if amount.length < 2 then '0' :: amount else amount
    let sign : Text := if e < 0 then "e-" else "e+"
    ds.take 1 ++ fraction ++ sign ++ padded

/-- The text of a number. -/
def toText (x : Binary64) : Text :=
  if x.isNotANumber then "nan"
  else
    let magnitude : Text :=
      if !x.isFinite then "inf"
      else if x.isZero then "0.0"
      else decimalText (shortest x.code)
    if x.negative then '-' :: magnitude else magnitude

end Binary64

end Tidy
