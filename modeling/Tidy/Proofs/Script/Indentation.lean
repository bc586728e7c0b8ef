/-
# Tidy.Proofs.Script.Indentation -- a line is indented by the number of open braces

The pass counts no braces. It keeps a stack of all open brackets, from which a closing brace takes everything up to its
partner, and a closing parenthesis or bracket its own partner or nothing. However the brackets are crossed, the open
braces on the stack are as many as a count of the braces alone gives (`braces_after`), and this is how far the lines are
indented (`lines_indented`).
-/

import Tidy.Proofs.Script.Rows

namespace Tidy.Script

/-! ## Counting braces -/

/-- The number of open braces after one more token. A closing brace without a partner counts for nothing. -/
def nest (depth : Nat) : Token → Nat
  | .mark .openBrace => depth + 1
  | .mark .closeBrace => depth - 1
  | _ => depth

/-- The number of open braces after the tokens. -/
def nesting (ts : List Token) : Nat :=
  ts.foldl nest 0

/-- Is the token a brace? -/
def Token.isBrace : Token → Bool
  | .mark .openBrace | .mark .closeBrace => true
  | _ => false

/-- The other tokens, brackets among them, make no difference. -/
theorem nest_of_not_isBrace {t : Token} (h : t.isBrace = false) (depth : Nat) : nest depth t = depth := by
  cases t with
  | mark m =>
    cases m with
    | openBrace | closeBrace => cases h
    | _ => rfl
  | _ => rfl

theorem foldl_nest_filter (depth : Nat) (ts : List Token) :
    (ts.filter Token.isBrace).foldl nest depth = ts.foldl nest depth := by
  induction ts generalizing depth with
  | nil => rfl
  | cons t ts ih =>
    cases h : t.isBrace with
    | true => rw [List.filter_cons_of_pos h, List.foldl_cons, List.foldl_cons, ih]
    | false => rw [List.filter_cons_of_neg (by simp [h]), List.foldl_cons, nest_of_not_isBrace h, ih]

/-! ## The braces on the stack -/

theorem braces_cons_openBrace (stack : List Mark) : braces (.openBrace :: stack) = braces stack + 1 :=
  List.count_cons_self

theorem braces_cons_of_ne {m : Mark} (h : m ≠ .openBrace) (stack : List Mark) : braces (m :: stack) = braces stack :=
  List.count_cons_of_ne h

/-- A closing brace takes one open brace from the stack, if there is one, whatever it takes besides. -/
theorem braces_closeBraces (stack : List Mark) : braces (closeBraces stack) = braces stack - 1 := by
  induction stack with
  | nil => rfl
  | cons m stack ih =>
    by_cases hm : m = .openBrace
    · rw [hm, braces_cons_openBrace, closeBraces, if_pos (by simp), List.dropWhile_cons_of_neg (by simp)]
      rfl
    · rw [braces_cons_of_ne hm]
      by_cases hmem : Mark.openBrace ∈ stack
      · have hpass : closeBraces (m :: stack) = closeBraces stack := by
          rw [closeBraces, closeBraces, if_pos (by simp [hmem]), if_pos (by simpa using hmem),
            List.dropWhile_cons_of_pos (by simpa using hm)]
        rw [hpass, ih]
      · have hnone : closeBraces (m :: stack) = m :: stack := by
          rw [closeBraces, if_neg (by simpa using ⟨fun h => hm h.symm, hmem⟩)]
        have hzero : braces stack = 0 := List.count_eq_zero.mpr hmem
        rw [hnone, braces_cons_of_ne hm, hzero]

/-- A closing parenthesis or bracket takes no brace. -/
theorem braces_closeMatching {opener : Mark} (h : opener ≠ .openBrace) (stack : List Mark) :
    braces (closeMatching opener stack) = braces stack := by
  unfold closeMatching
  split
  · rename_i hhead
    obtain ⟨rest, rfl⟩ := List.head?_eq_some_iff.mp hhead
    exact (braces_cons_of_ne h rest).symm
  · rfl

namespace State

theorem stack_endLine (s : State) : s.endLine.2.stack = s.stack := by
  unfold endLine
  split <;> rfl

theorem stack_settle (s : State) (t : Token) : (s.settle t).2.stack = s.stack := by
  unfold settle
  split
  · dsimp only
    split
    · rfl
    · split
      · rfl
      · exact stack_endLine _
  · rfl

theorem stack_written (s : State) (t : Token) : (s.written t).stack = (s.clear t).2.stack := by
  unfold written write
  split <;> rfl

/-- Only a closing brace changes the number of open braces before it is written. -/
theorem braces_clear (s : State) (t : Token) :
    braces (s.clear t).2.stack = if t = .mark .closeBrace then braces s.stack - 1 else braces s.stack := by
  unfold clear close
  split
  · rw [if_pos rfl, stack_endLine, stack_settle, braces_closeBraces]
  · rw [if_neg (by decide), stack_settle, braces_closeMatching (by decide)]
  · rw [if_neg (by decide), stack_settle, braces_closeMatching (by decide)]
  · rename_i hbrace _ _
    rw [if_neg hbrace, stack_settle]

/-- Only an opening brace changes it after it has been written. -/
theorem braces_finish (s : State) (t : Token) :
    braces (s.finish t).2.stack = if t = .mark .openBrace then braces s.stack + 1 else braces s.stack := by
  cases t with
  | mark m =>
    cases m with
    | openBrace => rw [finish, stack_endLine, if_pos rfl]; exact braces_cons_openBrace s.stack
    | openParen | openBracket => exact braces_cons_of_ne (by decide) s.stack
    | closeBrace | closeParen | closeBracket => rfl
    | semicolon =>
      rw [finish]
      split
      · rfl
      · exact congrArg braces (stack_endLine s)
    | comma =>
      rw [finish]
      split
      · exact congrArg braces (stack_endLine s)
      · rfl
  | lineComment text => exact congrArg braces (stack_endLine s)
  | _ => rfl

/-- One step counts a brace as `nest` does. -/
theorem braces_step (s : State) (t : Token) : braces (s.step t).2.stack = nest (braces s.stack) t := by
  cases hgap : t.isGap with
  | true =>
    cases t with
    | gap text => rfl
    | _ => cases hgap
  | false =>
    rw [step_eq s hgap, braces_finish, stack_written, braces_clear]
    cases t with
    | mark m => cases m <;> rfl
    | _ => rfl

/-- The stack has as many open braces as a count of the braces gives, after any tokens. -/
theorem braces_after (s : State) (ts : List Token) : braces (s.after ts).stack = ts.foldl nest (braces s.stack) := by
  induction ts generalizing s with
  | nil => rfl
  | cons t ts ih => rw [List.foldl_cons, ← braces_step, ← ih]; rfl

end State

/-! ## Indentation -/

/-- How far a line that starts with the token is indented: by the braces that are open before it, and by one less at a
closing brace. -/
def indentAt (p : Place Token) : Nat :=
  nesting (if p.item = .mark .closeBrace then p.before ++ [p.item] else p.before)

theorem braces_cleared (p : Place Token) : braces (cleared p).stack = indentAt p := by
  have hreached : braces (reached p).stack = nesting p.before := State.braces_after {} p.before
  rw [cleared, State.braces_clear, hreached, indentAt]
  split
  · rename_i hbrace
    rw [hbrace, nesting, nesting, List.foldl_append]
    rfl
  · rfl

/-- A line of the layout starts with its indentation and its first token. -/
theorem Fills.line_eq {line : Line} {ps : List (Place Token)} (h : Fills line ps) (width : Nat) :
    ∃ first others rest, ps = first :: others ∧ Layout.line width ⟨line.depth, line.content⟩ =
      Text.spaces (width * indentAt first) ++ (first.item.shown ++ rest) := by
  obtain @⟨p, items, ps, -, -⟩ := h
  refine ⟨p, ps, items.flatMap fun item => if item.spaced then ' ' :: item.text else item.text, rfl, ?_⟩
  rw [← braces_cleared]
  rfl

/-- Every line of a script starts with the spaces of its depth and its first token, which is solid; the depth is the
number of braces that are open there, a closing brace at the start of the line counted. The pass finds this number on
its stack of brackets after any tokens, and no tokens but braces have a part in it. -/
theorem lines_indented (width : Nat) (source : Text) :
    Aligned source (rows source) ∧
      (∀ row ∈ rows source, ∃ first others rest, row.places = first :: others ∧ first.item.Solid ∧
        Layout.line width ⟨row.line.depth, row.line.content⟩ =
          Text.spaces (width * indentAt first) ++ (first.item.shown ++ rest)) ∧
      ∀ ts : List Token, braces (State.after {} ts).stack = nesting ts ∧
        nesting (ts.filter Token.isBrace) = nesting ts := by
  refine ⟨aligned_rows source, ?_, ?_⟩
  · intro row hrow
    obtain ⟨first, others, rest, hplaces, hline⟩ := (fills_of_mem_rows hrow).line_eq width
    obtain ⟨hmem, hgap⟩ := mem_of_mem_rows hrow (p := first) (by rw [hplaces]; exact List.mem_cons_self)
    exact ⟨first, others, rest, hplaces, Token.solid_of_mem_all hmem hgap, hline⟩
  · intro ts
    exact ⟨State.braces_after {} ts, foldl_nest_filter 0 ts⟩

end Tidy.Script
