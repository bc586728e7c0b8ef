/-
# Tidy.Text.Similar -- how alike two texts are

The longest block that two texts share is matched first, then what stands before it and after it in the same way.
Two texts are alike by how many of their code points are matched. `closest` picks the best few of a list.
-/

import Tidy.Text.CodePoint

namespace Tidy.Text

/-- The length of the common start of two texts. -/
def commonStart : Text → Text → Nat
  | a :: s, b :: t => if a = b then commonStart s t + 1 else 0
  | _, _ => 0

/-- A block that two texts share. -/
structure Block where
  left : Nat
  right : Nat
  length : Nat

/-- The longest shared block that starts at the start of `s`, and the earliest such block of `t`. -/
def longestHere (s : Text) (left : Nat) (t : Text) (right : Nat) (best : Block) : Block :=
  match t with
  | [] => best
  | b :: rest =>
    let n := commonStart s (b :: rest)
    longestHere s left rest (right + 1) (if best.length < n then ⟨left, right, n⟩ else best)

/-- The longest shared block; of several the one that comes first in `s`. -/
def longestFrom (s : Text) (left : Nat) (t : Text) (best : Block) : Block :=
  match s with
  | [] => best
  | a :: rest => longestFrom rest (left + 1) t (longestHere (a :: rest) left t 0 best)

/-- How many code points of two texts are matched. -/
def matched (limit : Nat) (s t : Text) : Nat :=
  match limit with
  | 0 => 0
  | limit + 1 =>
    let block := longestFrom s 0 t ⟨0, 0, 0⟩
    if block.length = 0 then 0
    else
      matched limit (s.take block.left) (t.take block.right) + block.length +
        matched limit (s.drop (block.left + block.length)) (t.drop (block.right + block.length))

/-- How many code points are matched, of both texts together. -/
def alike (s t : Text) : Nat :=
  2 * matched (s.length + 1) s t

/-- Are two texts alike enough to mention one where the other is not known? At least six of ten code points have to
be matched. -/
def isAlike (s t : Text) : Bool :=
  6 * (s.length + t.length) ≤ 10 * alike s t

/-- Is the first text closer to `word` than the second? -/
def closer (word s t : Text) : Bool :=
  alike t word * (s.length + word.length) ≤ alike s word * (t.length + word.length)

/-- The three texts of a list that are closest to `word`, of those that are alike. -/
def closest (word : Text) (known : List Text) : List Text :=
  ((known.filter (isAlike · word)).mergeSort (closer word)).take 3

end Tidy.Text
