/-
# Tidy.Text.Enclosed -- comments and strings at the start of a text

Block comments and quoted strings are read in the same way in all languages that have them: up to the first
closing mark, where a backslash in a string takes the next code point with it. Each function gives what it has
read and what follows, or nothing if there is no closing mark.
-/

import Tidy.Text.CodePoint

namespace Tidy.Text

/-- The rest of a block comment, through its closing mark, after the opening mark. -/
def readCommentEnd? : Text → Option (Text × Text)
  | [] => none
  | c :: rest =>
    if c = '*' ∧ rest.head? = some (.char '/') then some ([c, '/'], rest.drop 1)
    else (readCommentEnd? rest).map fun (body, more) => (c :: body, more)

/-- The rest of a string, through its closing mark `quote`, after the opening mark. If `oneLine` is set, a
line feed may only stand after a backslash. -/
def readStringEnd? (quote : CodePoint) (oneLine : Bool) : Text → Option (Text × Text)
  | [] => none
  | c :: rest =>
    if c = quote then some ([c], rest)
    else if c = '\\' then
      match rest with
      | [] => none
      | d :: rest =>
        (readStringEnd? quote oneLine rest).map fun (body, more) => (c :: d :: body, more)
    else if oneLine && c = CodePoint.newline then none
    else (readStringEnd? quote oneLine rest).map fun (body, more) => (c :: body, more)

theorem length_readCommentEnd?_le {s body rest : Text} (h : readCommentEnd? s = some (body, rest)) :
    rest.length ≤ s.length := by
  induction s generalizing body with
  | nil => simp [readCommentEnd?] at h
  | cons c tail ih =>
    simp only [readCommentEnd?] at h
    split at h
    · simp only [Option.some.injEq, Prod.mk.injEq] at h
      simp only [← h.2, List.length_drop, List.length_cons]
      omega
    · simp only [Option.map_eq_some_iff, Prod.mk.injEq, Prod.exists] at h
      obtain ⟨b, r, hr, -, rfl⟩ := h
      exact Nat.le_succ_of_le (ih hr)

theorem length_readStringEnd?_le {quote : CodePoint} {oneLine : Bool} {s body rest : Text}
    (h : readStringEnd? quote oneLine s = some (body, rest)) : rest.length ≤ s.length := by
  fun_induction readStringEnd? quote oneLine s generalizing body with
  | case1 => simp at h
  | case2 =>
    simp only [Option.some.injEq, Prod.mk.injEq] at h
    simp [← h.2]
  | case3 => simp at h
  | case4 _ d tail ih =>
    simp only [Option.map_eq_some_iff, Prod.mk.injEq, Prod.exists] at h
    obtain ⟨b, r, hr, -, rfl⟩ := h
    have := ih hr
    simp only [List.length_cons]
    omega
  | case5 => simp at h
  | case6 c tail _ _ _ ih =>
    simp only [Option.map_eq_some_iff, Prod.mk.injEq, Prod.exists] at h
    obtain ⟨b, r, hr, -, rfl⟩ := h
    exact Nat.le_succ_of_le (ih hr)

end Tidy.Text
