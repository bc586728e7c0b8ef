/-
# Tidy.Proofs.Text.Enclosed -- what comments and strings are made of

What is read and what follows make up the text, and what is read ends with the closing mark. Whether there is a
closing mark can be told code point by code point, with one bit of memory: whether a backslash, or the star of a
closing mark, has just been read. `inString` and `inComment` are these steps; they give nothing where the mark is
complete.
-/

import Tidy.Proofs.Text.Split
import Tidy.Text.Enclosed

namespace Tidy.Text

open CodePoint (char)

/-- A comment ends with its closing mark. -/
theorem readCommentEnd?_sound {s body rest : Text} (h : readCommentEnd? s = some (body, rest)) :
    s = body ++ rest ∧ body.getLast? = some (char '/') := by
  induction s generalizing body with
  | nil => cases h
  | cons c tail ih =>
    rw [readCommentEnd?] at h
    split at h
    · rename_i hclose
      rw [Option.some.injEq, Prod.mk.injEq] at h
      obtain ⟨rfl, rfl⟩ := h
      obtain ⟨hstar, hslash⟩ := hclose
      cases tail with
      | nil => cases hslash
      | cons d tail =>
        obtain rfl : d = char '/' := by injection hslash
        exact ⟨rfl, rfl⟩
    · obtain ⟨⟨inner, more⟩, hinner, hpair⟩ := Option.map_eq_some_iff.mp h
      rw [Prod.mk.injEq] at hpair
      obtain ⟨rfl, rfl⟩ := hpair
      obtain ⟨rfl, hlast⟩ := ih hinner
      refine ⟨rfl, ?_⟩
      rw [List.getLast?_cons, hlast]
      rfl

/-- A string ends with its closing mark. -/
theorem readStringEnd?_sound {quote : CodePoint} {oneLine : Bool} {s body rest : Text}
    (h : readStringEnd? quote oneLine s = some (body, rest)) :
    s = body ++ rest ∧ body.getLast? = some quote := by
  fun_induction readStringEnd? quote oneLine s generalizing body with
  | case1 => cases h
  | case2 tail =>
    rw [Option.some.injEq, Prod.mk.injEq] at h
    obtain ⟨rfl, rfl⟩ := h
    exact ⟨rfl, rfl⟩
  | case3 => cases h
  | case4 c d tail ih =>
    obtain ⟨⟨inner, more⟩, hinner, hpair⟩ := Option.map_eq_some_iff.mp h
    rw [Prod.mk.injEq] at hpair
    obtain ⟨rfl, rfl⟩ := hpair
    obtain ⟨rfl, hlast⟩ := ih hinner
    refine ⟨rfl, ?_⟩
    rw [List.getLast?_cons, List.getLast?_cons, hlast]
    rfl
  | case5 => cases h
  | case6 c tail _ _ _ ih =>
    obtain ⟨⟨inner, more⟩, hinner, hpair⟩ := Option.map_eq_some_iff.mp h
    rw [Prod.mk.injEq] at hpair
    obtain ⟨rfl, rfl⟩ := hpair
    obtain ⟨rfl, hlast⟩ := ih hinner
    refine ⟨rfl, ?_⟩
    rw [List.getLast?_cons, hlast]
    rfl

/-- A string is read in the same way, whatever follows it. -/
theorem readStringEnd?_append {quote : CodePoint} {oneLine : Bool} {s body rest : Text}
    (h : readStringEnd? quote oneLine s = some (body, rest)) (after : Text) :
    readStringEnd? quote oneLine (body ++ after) = some (body, after) := by
  fun_induction readStringEnd? quote oneLine s generalizing body with
  | case1 => cases h
  | case2 tail =>
    rw [Option.some.injEq, Prod.mk.injEq] at h
    obtain ⟨rfl, -⟩ := h
    rw [List.singleton_append, readStringEnd?.eq_def]
    exact if_pos rfl
  | case3 => cases h
  | case4 d tail hquote ih =>
    obtain ⟨⟨inner, more⟩, hinner, hpair⟩ := Option.map_eq_some_iff.mp h
    rw [Prod.mk.injEq] at hpair
    obtain ⟨rfl, rfl⟩ := hpair
    rw [List.cons_append, List.cons_append, readStringEnd?, if_neg hquote, if_pos rfl, ih hinner]
    rfl
  | case5 => cases h
  | case6 c tail hquote hslash hline ih =>
    obtain ⟨⟨inner, more⟩, hinner, hpair⟩ := Option.map_eq_some_iff.mp h
    rw [Prod.mk.injEq] at hpair
    obtain ⟨rfl, rfl⟩ := hpair
    rw [List.cons_append, readStringEnd?.eq_def]
    dsimp only
    rw [if_neg hquote, if_neg hslash, if_neg hline, ih hinner]
    rfl

/-! ## Closing marks, code point by code point -/

/-- One code point inside a string. The state tells whether a backslash takes the code point with it. -/
def inString (quote : CodePoint) (escaped : Bool) (c : CodePoint) : Option Bool :=
  if escaped then some false else if c = quote then none else some (c = char '\\')

/-- One code point inside a comment. The state tells whether a star stands before it. -/
def inComment (starred : Bool) (c : CodePoint) : Option Bool :=
  if starred ∧ c = char '/' then none else some (c = char '*')

theorem foldlM_cons_some {step : Bool → CodePoint → Option Bool} {st st' : Bool} {c : CodePoint}
    (h : step st c = some st') (t : Text) : (c :: t).foldlM step st = t.foldlM step st' := by
  rw [List.foldlM_cons, h]
  rfl

theorem foldlM_cons_none {step : Bool → CodePoint → Option Bool} {st : Bool} {c : CodePoint} (h : step st c = none)
    (t : Text) : (c :: t).foldlM step st = none := by
  rw [List.foldlM_cons, h]
  rfl

theorem inString_quote (quote : CodePoint) : inString quote false quote = none := by
  rw [inString, if_neg Bool.false_ne_true, if_pos rfl]

theorem inString_escaped {quote c : CodePoint} : inString quote true c = some false := by
  rw [inString, if_pos rfl]

theorem inString_backslash {quote : CodePoint} (h : char '\\' ≠ quote) :
    inString quote false (char '\\') = some true := by
  rw [inString, if_neg Bool.false_ne_true, if_neg h, decide_eq_true rfl]

theorem inString_plain {quote c : CodePoint} (h : c ≠ quote) (hslash : c ≠ char '\\') :
    inString quote false c = some false := by
  rw [inString, if_neg Bool.false_ne_true, if_neg h, decide_eq_false hslash]

/-- There is no closing quote exactly if no step completes one. -/
theorem readStringEnd?_eq_none_iff (quote : CodePoint) (s : Text) :
    readStringEnd? quote false s = none ↔ (s.foldlM (inString quote) false).isSome = true := by
  fun_induction readStringEnd? quote false s with
  | case1 => exact ⟨fun _ => rfl, fun _ => rfl⟩
  | case2 tail =>
    rw [foldlM_cons_none (inString_quote quote)]
    simp
  | case3 hquote =>
    rw [foldlM_cons_some (inString_backslash hquote)]
    simp
  | case4 d tail hquote ih =>
    rw [foldlM_cons_some (inString_backslash hquote), foldlM_cons_some inString_escaped, ← ih]
    simp
  | case5 c tail hquote hslash hline => cases hline
  | case6 c tail hquote hslash hline ih =>
    rw [foldlM_cons_some (inString_plain hquote hslash), ← ih]
    simp

/-- What is read up to the closing quote: the steps inside end where no backslash is open. -/
theorem readStringEnd?_inside {quote : CodePoint} {s body rest : Text}
    (h : readStringEnd? quote false s = some (body, rest)) :
    ∃ inside, body = inside ++ [quote] ∧ inside.foldlM (inString quote) false = some false := by
  fun_induction readStringEnd? quote false s generalizing body with
  | case1 => cases h
  | case2 tail =>
    rw [Option.some.injEq, Prod.mk.injEq] at h
    exact ⟨[], h.1.symm, rfl⟩
  | case3 => cases h
  | case4 d tail hquote ih =>
    obtain ⟨⟨inner, more⟩, hinner, hpair⟩ := Option.map_eq_some_iff.mp h
    rw [Prod.mk.injEq] at hpair
    obtain ⟨rfl, rfl⟩ := hpair
    obtain ⟨inside, rfl, hsteps⟩ := ih hinner
    refine ⟨char '\\' :: d :: inside, rfl, ?_⟩
    rw [foldlM_cons_some (inString_backslash hquote), foldlM_cons_some inString_escaped, hsteps]
  | case5 c tail hquote hslash hline => cases hline
  | case6 c tail hquote hslash hline ih =>
    obtain ⟨⟨inner, more⟩, hinner, hpair⟩ := Option.map_eq_some_iff.mp h
    rw [Prod.mk.injEq] at hpair
    obtain ⟨rfl, rfl⟩ := hpair
    obtain ⟨inside, rfl, hsteps⟩ := ih hinner
    refine ⟨c :: inside, rfl, ?_⟩
    rw [foldlM_cons_some (inString_plain hquote hslash), hsteps]

/-- A string is read up to the first quote that no backslash takes with it. -/
theorem readStringEnd?_of_inside {quote : CodePoint} {inside : Text}
    (h : inside.foldlM (inString quote) false = some false) (rest : Text) :
    readStringEnd? quote false (inside ++ quote :: rest) = some (inside ++ [quote], rest) := by
  generalize hs : inside ++ quote :: rest = s
  fun_induction readStringEnd? quote false s generalizing inside with
  | case1 => simp at hs
  | case2 tail =>
    cases inside with
    | nil =>
      rw [List.nil_append, List.cons.injEq] at hs
      rw [hs.2]
      rfl
    | cons c inside =>
      -- a quote inside would have ended the search
      rw [List.cons_append, List.cons.injEq] at hs
      rw [hs.1, foldlM_cons_none (inString_quote _)] at h
      cases h
  | case3 hquote =>
    obtain ⟨more, rfl, hmore⟩ := exists_before_mark hquote hs.symm
    simp at hmore
  | case4 d tail hquote ih =>
    obtain ⟨more, rfl, hmore⟩ := exists_before_mark hquote hs.symm
    rw [foldlM_cons_some (inString_backslash hquote)] at h
    cases more with
    -- the inside does not end with an escape that is open
    | nil => cases h
    | cons e more =>
      rw [List.cons_append, List.cons.injEq] at hmore
      obtain ⟨rfl, rfl⟩ := hmore
      rw [foldlM_cons_some inString_escaped] at h
      rw [ih h rfl]
      rfl
  | case5 c tail hquote hslash hline => cases hline
  | case6 c tail hquote hslash hline ih =>
    obtain ⟨more, rfl, rfl⟩ := exists_before_mark hquote hs.symm
    rw [foldlM_cons_some (inString_plain hquote hslash)] at h
    rw [ih h rfl]
    rfl

/-! ## Comments -/

theorem inComment_false (c : CodePoint) : inComment false c = some (decide (c = char '*')) := by
  rw [inComment, if_neg]
  simp

theorem inComment_other {c : CodePoint} (h : c ≠ char '/') (starred : Bool) :
    inComment starred c = some (decide (c = char '*')) := by
  rw [inComment, if_neg]
  simp [h]

/-- A star counts only before a slash. -/
theorem foldlM_inComment_star {t : Text} (h : t.head? ≠ some (char '/')) :
    (t.foldlM inComment true).isSome = (t.foldlM inComment false).isSome := by
  cases t with
  | nil => rfl
  | cons c t =>
    have hc : c ≠ char '/' := by
      rintro rfl
      exact h rfl
    rw [foldlM_cons_some (inComment_other hc true), foldlM_cons_some (inComment_other hc false)]

/-- A step in front of others that do not start with a slash after a star. -/
theorem foldlM_inComment_cons {c : CodePoint} {t : Text} (h : ¬ (c = char '*' ∧ t.head? = some (char '/'))) :
    ((c :: t).foldlM inComment false).isSome = (t.foldlM inComment false).isSome := by
  rw [foldlM_cons_some (inComment_false c)]
  by_cases hstar : c = char '*'
  · rw [decide_eq_true hstar, foldlM_inComment_star fun hslash => h ⟨hstar, hslash⟩]
  · rw [decide_eq_false hstar]

/-- There is no closing mark exactly if no step completes one. -/
theorem readCommentEnd?_eq_none_iff (s : Text) :
    readCommentEnd? s = none ↔ (s.foldlM inComment false).isSome = true := by
  induction s with
  | nil => exact ⟨fun _ => rfl, fun _ => rfl⟩
  | cons c tail ih =>
    rw [readCommentEnd?]
    split
    · rename_i hclose
      obtain ⟨rfl, hslash⟩ := hclose
      cases tail with
      | nil => cases hslash
      | cons d tail =>
        obtain rfl : d = char '/' := by injection hslash
        rw [foldlM_cons_some (inComment_false _), foldlM_cons_none (by rfl)]
        simp
    · rename_i hopen
      rw [foldlM_inComment_cons hopen, ← ih]
      simp

/-- What is read up to the closing mark: no step inside completes one. -/
theorem readCommentEnd?_inside {s body rest : Text} (h : readCommentEnd? s = some (body, rest)) :
    ∃ inside, body = inside ++ [char '*', char '/'] ∧ (inside.foldlM inComment false).isSome = true := by
  induction s generalizing body with
  | nil => cases h
  | cons c tail ih =>
    rw [readCommentEnd?] at h
    split at h
    · rename_i hclose
      rw [Option.some.injEq, Prod.mk.injEq] at h
      exact ⟨[], by rw [← h.1, hclose.1]; rfl, rfl⟩
    · rename_i hopen
      obtain ⟨⟨inner, more⟩, hinner, hpair⟩ := Option.map_eq_some_iff.mp h
      rw [Prod.mk.injEq] at hpair
      obtain ⟨rfl, rfl⟩ := hpair
      obtain ⟨inside, rfl, hsteps⟩ := ih hinner
      refine ⟨c :: inside, rfl, ?_⟩
      rw [foldlM_inComment_cons, hsteps]
      rintro ⟨hstar, hslash⟩
      apply hopen
      refine ⟨hstar, ?_⟩
      rw [(readCommentEnd?_sound hinner).1]
      cases inside with
      | nil => cases hslash
      | cons d inside => exact hslash

/-- A comment is read up to the first closing mark. -/
theorem readCommentEnd?_of_inside {inside : Text} (h : (inside.foldlM inComment false).isSome = true) (rest : Text) :
    readCommentEnd? (inside ++ char '*' :: char '/' :: rest) = some (inside ++ [char '*', char '/'], rest) := by
  induction inside with
  | nil => rfl
  | cons c inside ih =>
    have hopen : ¬ (c = char '*' ∧ inside.head? = some (char '/')) := by
      rintro ⟨rfl, hslash⟩
      cases inside with
      | nil => cases hslash
      | cons d inside =>
        obtain rfl : d = char '/' := by injection hslash
        cases h
    rw [foldlM_inComment_cons hopen] at h
    rw [List.cons_append, readCommentEnd?, if_neg, ih h]
    · rfl
    · rintro ⟨hstar, hslash⟩
      apply hopen
      refine ⟨hstar, ?_⟩
      cases inside with
      | nil => cases hslash
      | cons d inside => exact hslash

/-- A comment is read in the same way, whatever follows it. -/
theorem readCommentEnd?_append {s body rest : Text} (h : readCommentEnd? s = some (body, rest)) (after : Text) :
    readCommentEnd? (body ++ after) = some (body, after) := by
  obtain ⟨inside, rfl, hinside⟩ := readCommentEnd?_inside h
  rw [List.append_assoc]
  exact readCommentEnd?_of_inside hinside after

end Tidy.Text
