/-
# Tidy.Proofs.Script.Reformat -- formatting a formatted script

A second pass over a formatted script finds the tokens of the first one, as they were shown, with white space exactly
where the first pass has put a space or a line break (`relaid`). Where it finds none, none was due; so the two passes
go through the same states, but for a space that is due and never written, and end with the same lines.

One step of the pass is taken apart into what it does before, at and after the writing of its token (`clear`, `write`
and `finish`). The text of the lines and the agreement of the two passes are each shown for these three.
-/

import Tidy.Proofs.Script.Readback
import Tidy.Proofs.Script.Weaving

namespace Tidy.Script

open CodePoint (char)

/-! ## A step in three parts -/

/-- Does a space go before the token, even if none is due? -/
def Token.wantsSpace : Token → Bool
  | .operator _ => true
  | .mark .openBrace => true
  | _ => false

/-- Does no space go before the token, even if one is due? -/
def Token.attached : Token → Bool
  | .mark .closeParen | .mark .closeBracket | .mark .semicolon | .mark .comma => true
  | _ => false

namespace State

/-- What a closing mark closes before it is written: its bracket, and a brace the line too. -/
def close (s : State) : Token → List Line × State
  | .mark .closeBrace => (s.endLine.1, { s.endLine.2 with stack := closeBraces s.endLine.2.stack })
  | .mark .closeParen => ([], { s with stack := closeMatching .openParen s.stack })
  | .mark .closeBracket => ([], { s with stack := closeMatching .openBracket s.stack })
  | _ => ([], s)

/-- The lines that end before a token is written, and the state in which it is written. -/
def clear (s : State) (t : Token) : List Line × State :=
  ((s.settle t).1 ++ ((s.settle t).2.close t).1, ((s.settle t).2.close t).2)

/-- The state in which a token has been written. -/
def written (s : State) (t : Token) : State :=
  (s.clear t).2.write t.shown t.wantsSpace t.attached

/-- What a token that has been written asks for: a line end, a space, or a bracket to remember. -/
def finish (s : State) : Token → List Line × State
  | .lineComment _ => s.endLine
  | .operator _ => ([], { s with pending := true })
  | .mark .openBrace => (s.push .openBrace).endLine
  | .mark .closeBrace => ([], { s with afterClose := true })
  | .mark .openParen => ([], s.push .openParen)
  | .mark .openBracket => ([], s.push .openBracket)
  | .mark .semicolon => if s.stack.head? = some .openParen then ([], { s with pending := true }) else s.endLine
  | .mark .comma => if s.stack.head? = some .openBrace then s.endLine else ([], { s with pending := true })
  | _ => ([], s)

/-- A step clears the way, writes the token and finishes it. -/
theorem step_eq (s : State) {t : Token} (hgap : t.isGap = false) :
    s.step t = ((s.clear t).1 ++ ((s.written t).finish t).1, ((s.written t).finish t).2) := by
  unfold step clear
  rw [hgap, if_neg Bool.false_ne_true]
  cases t with
  | gap => cases hgap
  | mark m => cases m <;> simp [close, written, clear, finish, place, placeMark, Token.shown, Token.text, Token.wantsSpace, Token.attached]
  | _ => simp [close, written, clear, finish, place, Token.shown, Token.text, Token.wantsSpace, Token.attached]

/-! ## A space that is due -/

/-- Does a space go before the token? -/
def spacedAt (s : State) (t : Token) : Bool :=
  !t.attached && (t.wantsSpace || (s.clear t).2.pending) && !endsOpen (s.clear t).2.items

theorem settle_pending (s : State) (t : Token) (due : Bool) :
    { s with pending := due }.settle t = s.settle t ∨
      ({ s with pending := due }.settle t = ((s.settle t).1, { (s.settle t).2 with pending := due }) ∧
        (s.settle t).2.pending = s.pending) := by
  obtain ⟨items, depth, stack, pending, afterClose⟩ := s
  cases afterClose with
  | false => exact Or.inr ⟨rfl, rfl⟩
  | true =>
    unfold settle
    dsimp only
    rw [if_pos rfl, if_pos rfl]
    split
    · exact Or.inl rfl
    · split
      · exact Or.inr ⟨rfl, rfl⟩
      · exact Or.inl rfl

theorem close_pending (s : State) (t : Token) (due : Bool) :
    { s with pending := due }.close t = s.close t ∨
      ({ s with pending := due }.close t = ((s.close t).1, { (s.close t).2 with pending := due }) ∧
        (s.close t).2.pending = s.pending) := by
  unfold close
  split
  · exact Or.inl rfl
  all_goals exact Or.inr ⟨rfl, rfl⟩

/-- A space that is due is still due when the way is clear, or it makes no difference. -/
theorem clear_pending (s : State) (t : Token) (due : Bool) :
    { s with pending := due }.clear t = s.clear t ∨
      ({ s with pending := due }.clear t = ((s.clear t).1, { (s.clear t).2 with pending := due }) ∧
        (s.clear t).2.pending = s.pending) := by
  unfold clear
  rcases settle_pending s t due with hsettle | ⟨hsettle, hpending⟩
  · exact Or.inl (by rw [hsettle])
  · rw [hsettle]
    dsimp only
    rcases close_pending (s.settle t).2 t due with hclose | ⟨hclose, hpending'⟩
    · exact Or.inl (by rw [hclose])
    · exact Or.inr ⟨by rw [hclose], hpending'.trans hpending⟩

/-- Two passes agree on a token that starts a line, or before which they put the same. -/
theorem step_pending {s : State} {t : Token} (hgap : t.isGap = false) {due : Bool}
    (h : (s.clear t).2.items = [] ∨ { s with pending := due }.spacedAt t = s.spacedAt t) :
    { s with pending := due }.step t = s.step t := by
  rw [step_eq _ hgap, step_eq _ hgap, written, written]
  rcases clear_pending s t due with hclear | ⟨hclear, -⟩
  · rw [hclear]
  · unfold spacedAt at h
    rw [hclear] at h ⊢
    have hwrite : { (s.clear t).2 with pending := due }.write t.shown t.wantsSpace t.attached =
        (s.clear t).2.write t.shown t.wantsSpace t.attached := by
      unfold write
      rcases h with hempty | hspaced
      · rw [hempty]
        rfl
      · simp only [hspaced]
    rw [hwrite]

/-- A space that is due may as well not be, if none is written. -/
theorem spacedAt_of_not_spaced {s : State} {t : Token} (h : s.spacedAt t = false) {due : Bool}
    (hdue : due = true → s.pending = true) : { s with pending := due }.spacedAt t = s.spacedAt t := by
  rw [h]
  unfold spacedAt at h ⊢
  rcases clear_pending s t due with hclear | ⟨hclear, hpending⟩
  · rw [hclear]
    exact h
  · rw [hclear]
    rw [hpending] at h
    cases due with
    | true =>
      rw [hdue rfl] at h
      exact h
    | false =>
      cases hspaced : (!t.attached && (t.wantsSpace || false) && !endsOpen (s.clear t).2.items) with
      | false => rfl
      | true =>
        simp only [Bool.or_false, Bool.and_eq_true] at hspaced
        rw [hspaced.1.1, hspaced.1.2, hspaced.2] at h
        cases h

/-- A space that is written may as well have been due. -/
theorem spacedAt_of_spaced {s : State} {t : Token} (h : s.spacedAt t = true) :
    { s with pending := true }.spacedAt t = s.spacedAt t := by
  rw [h]
  unfold spacedAt at h ⊢
  simp only [Bool.and_eq_true] at h
  obtain ⟨⟨hattached, hwanted⟩, hopen⟩ := h
  rcases clear_pending s t true with hclear | ⟨hclear, -⟩
  · rw [hclear, hattached, hwanted, hopen]
    rfl
  · rw [hclear, hattached, hopen, Bool.or_true]
    rfl

/-! ## The tokens of the formatted script -/

/-- The white space before a token: a line break with the indentation, a space, or nothing. -/
def lead (width : Nat) (s : State) (t : Token) : List Token :=
  if (s.clear t).2.items.isEmpty then
    [.gap (CodePoint.newline :: Text.spaces (width * braces (s.clear t).2.stack))]
  else if s.spacedAt t then [.gap [char ' ']]
  else []

/-- The tokens as they are written from a state on, with the white space before each. -/
def relaid (width : Nat) (s : State) : List Token → List Token
  | [] => []
  | t :: rest =>
    if t.isGap then relaid width (s.step t).2 rest
    else s.lead width t ++ t.trimmed :: relaid width (s.step t).2 rest

theorem step_trimmed (s : State) {t : Token} (h : t.Spelled) : s.step t.trimmed = s.step t := by
  cases h with
  | @lineComment inside _ =>
    -- nothing that starts with a slash stays with a closing brace before it
    have hstep : ∀ tail : Text, s.step (.lineComment (char '/' :: tail)) =
        ((s.settle (.lineComment [char '/'])).1 ++
          ((s.settle (.lineComment [char '/'])).2.place (.lineComment (char '/' :: tail))).1,
          ((s.settle (.lineComment [char '/'])).2.place (.lineComment (char '/' :: tail))).2) := fun _ => rfl
    rw [Token.trimmed, Token.trimEnd_lineComment, hstep, hstep, place, place, Token.trimEnd_lineComment,
      Token.trimEnd_lineComment, Text.trimEnd_of_endsSolid (Text.endsSolid_trimEnd inside)]
  | _ => rfl

/-- A pass over the white space before a token and the token, as it is shown. -/
theorem lines_lead (width : Nat) (s : State) {t : Token} (h : t.Spelled) (hgap : t.isGap = false) {due : Bool}
    (hdue : due = true → s.pending = true) (rest : List Token) :
    { s with pending := due }.lines (s.lead width t ++ t.trimmed :: rest) = s.lines (t :: rest) := by
  have hagree : ∀ due : Bool, ((s.clear t).2.items = [] ∨ { s with pending := due }.spacedAt t = s.spacedAt t) →
      { s with pending := due }.lines (t.trimmed :: rest) = s.lines (t :: rest) := by
    intro due hplace
    rw [lines, lines, step_trimmed _ h, step_pending hgap hplace]
  unfold lead
  split
  · rename_i hempty
    exact hagree true (Or.inl (List.isEmpty_iff.mp hempty))
  · split
    · rename_i hspaced
      exact hagree true (Or.inr (spacedAt_of_spaced hspaced))
    · rename_i hspaced
      exact hagree due (Or.inr (spacedAt_of_not_spaced (by simpa using hspaced) hdue))

/-- The second pass ends with the lines of the first one. -/
theorem lines_relaid (width : Nat) {ts : List Token} (hspelled : ∀ t ∈ ts, t.Spelled) (s : State) {due : Bool}
    (hdue : due = true → s.pending = true) : { s with pending := due }.lines (s.relaid width ts) = s.lines ts := by
  induction ts generalizing s due with
  | nil => rfl
  | cons t rest ih =>
    obtain ⟨ht, hrest⟩ := List.forall_mem_cons.mp hspelled
    rw [relaid]
    split
    · rename_i hgap
      cases t with
      | gap text => exact ih hrest { s with pending := true } (fun _ => rfl)
      | _ => cases hgap
    · rename_i hgap
      have hsame : (s.step t).2.lines ((s.step t).2.relaid width rest) = (s.step t).2.lines rest :=
        ih hrest (s.step t).2 id
      rw [lines_lead width s ht (by simpa using hgap) hdue, lines, lines, hsame]

end State

/-! ## The text of the formatted script -/

/-- The text of lines, each behind a line feed. -/
def flow (width : Nat) (lines : List Line) : Text :=
  lines.flatMap fun line => CodePoint.newline :: Layout.line width ⟨line.depth, line.content⟩

theorem flow_append (width : Nat) (first second : List Line) :
    flow width (first ++ second) = flow width first ++ flow width second :=
  List.flatMap_append

theorem flow_eq_render (width : Nat) {lines : List Line} (h : lines ≠ []) :
    flow width lines = CodePoint.newline :: Layout.render width (lines.map fun line => ⟨line.depth, line.content⟩) := by
  induction lines with
  | nil => exact absurd rfl h
  | cons line lines ih =>
    cases lines with
    | nil => exact List.append_nil _
    | cons next lines =>
      have hne : (next :: lines).map (fun line => (⟨line.depth, line.content⟩ : Entry)) ≠ [] := List.cons_ne_nil _ _
      rw [List.map_cons, Layout.render_cons _ _ hne, ← ih (List.cons_ne_nil _ _)]
      rfl

namespace State

/-- The line that has begun, if any. -/
def begun (s : State) : List Line :=
  if s.items.isEmpty then [] else [⟨s.depth, s.items⟩]

theorem endLine_fst (s : State) : s.endLine.1 = s.begun := by
  unfold endLine begun
  split <;> rfl

/-- The text of the lines that are done and of the line that has begun. -/
def shownBy (width : Nat) (result : List Line × State) : Text :=
  flow width (result.1 ++ result.2.begun)

theorem shownBy_append (width : Nat) (done : List Line) (result : List Line × State) :
    shownBy width (done ++ result.1, result.2) = flow width done ++ shownBy width result := by
  rw [shownBy, List.append_assoc, flow_append]
  rfl

theorem shownBy_endLine (width : Nat) (s : State) : shownBy width s.endLine = shownBy width ([], s) := by
  obtain ⟨items, depth, stack, pending, afterClose⟩ := s
  cases items <;> rfl

theorem shownBy_settle (width : Nat) (s : State) (t : Token) : shownBy width (s.settle t) = shownBy width ([], s) := by
  unfold settle
  split
  · dsimp only
    split
    · rfl
    · split
      · rfl
      · exact shownBy_endLine width { s with afterClose := false }
  · rfl

theorem shownBy_close (width : Nat) (s : State) (t : Token) : shownBy width (s.close t) = shownBy width ([], s) := by
  unfold close
  split
  · exact shownBy_endLine width s
  all_goals rfl

theorem shownBy_clear (width : Nat) (s : State) (t : Token) : shownBy width (s.clear t) = shownBy width ([], s) := by
  rw [clear, shownBy_append, shownBy_close, ← shownBy_append, List.append_nil]
  exact shownBy_settle width s t

theorem shownBy_finish (width : Nat) (s : State) (t : Token) : shownBy width (s.finish t) = shownBy width ([], s) := by
  unfold finish
  split
  · exact shownBy_endLine width s
  · rfl
  · exact shownBy_endLine width (s.push .openBrace)
  · rfl
  · rfl
  · rfl
  · split
    · rfl
    · exact shownBy_endLine width s
  · split
    · exact shownBy_endLine width s
    · rfl
  · rfl

/-- Writing a token adds its white space and what is shown of it. -/
theorem shownBy_written (width : Nat) (s : State) (t : Token) :
    shownBy width ([], s.written t) =
      shownBy width ([], (s.clear t).2) ++ ((s.lead width t).flatMap Token.text ++ t.shown) := by
  unfold written lead spacedAt
  generalize (s.clear t).2 = cleared
  cases hitems : cleared.items with
  | nil => simp [shownBy, begun, write, hitems, flow, Layout.line, Line.content, Token.text]
  | cons item items =>
    -- the line goes on
    have hwrite : cleared.write t.shown t.wantsSpace t.attached = { cleared with
        items := item :: items ++
          [⟨!t.attached && (t.wantsSpace || cleared.pending) && !endsOpen (item :: items), t.shown⟩],
        pending := false } := by
      rw [write, hitems]
      rfl
    rw [hwrite]
    cases !t.attached && (t.wantsSpace || cleared.pending) && !endsOpen (item :: items) <;>
      simp [shownBy, begun, hitems, flow, Layout.line, Line.content, Token.text]

/-- A step adds its token, with its white space. -/
theorem shownBy_step (width : Nat) (s : State) {t : Token} (hgap : t.isGap = false) :
    shownBy width (s.step t) = shownBy width ([], s) ++ ((s.lead width t).flatMap Token.text ++ t.shown) := by
  rw [step_eq s hgap, shownBy_append, shownBy_finish, shownBy_written, ← List.append_assoc, ← shownBy_append,
    List.append_nil]
  rw [show ((s.clear t).1, (s.clear t).2) = s.clear t from rfl, shownBy_clear]

theorem flow_lines (width : Nat) (s : State) (ts : List Token) :
    flow width (s.lines ts) = shownBy width ([], s) ++ (s.relaid width ts).flatMap Token.text := by
  induction ts generalizing s with
  | nil =>
    rw [lines, endLine_fst]
    exact (List.append_nil _).symm
  | cons t rest ih =>
    rw [lines, flow_append, ih, relaid]
    split
    · rename_i hgap
      cases t with
      | gap text => rfl
      | _ => cases hgap
    · rename_i hgap
      rw [← List.append_assoc, ← shownBy_append, List.append_nil, List.flatMap_append, List.flatMap_cons,
        Token.text_trimmed, ← List.append_assoc, ← List.append_assoc]
      rw [show ((s.step t).1, (s.step t).2) = s.step t from rfl, shownBy_step width s (by simpa using hgap)]
      simp only [List.append_assoc]

/-! ## What stands side by side -/

/-- The token is the last one on its line, and a space is due behind it where it needs one. -/
structure Beside (t : Token) (s : State) (rest : List Token) : Prop where
  last : ∃ item, s.items.getLast? = some item ∧ item.text = t.shown
  comment : t.isLineComment = false
  operator : t.isOperator = true → s.pending = true
  word : t.isWord = true → s.pending = true ∨ ∀ u, rest.head? = some u → u.isWord = false

theorem written_last (s : State) (t : Token) :
    ∃ item, (s.written t).items.getLast? = some item ∧ item.text = t.shown := by
  unfold written write
  split
  · exact ⟨_, rfl, rfl⟩
  · exact ⟨_, List.getLast?_concat .., rfl⟩

theorem items_endLine (s : State) : s.endLine.2.items = [] := by
  unfold endLine
  split
  · rename_i hempty
    exact List.isEmpty_iff.mp hempty
  · rfl

/-- A mark ends the line or leaves it as it is. -/
theorem items_finish_mark (s : State) (m : Mark) :
    (s.finish (.mark m)).2.items = [] ∨ (s.finish (.mark m)).2.items = s.items := by
  cases m with
  | openBrace => exact Or.inl (items_endLine _)
  | semicolon =>
    rw [finish]
    split
    · exact Or.inr rfl
    · exact Or.inl (items_endLine s)
  | comma =>
    rw [finish]
    split
    · exact Or.inl (items_endLine s)
    · exact Or.inr rfl
  | _ => exact Or.inr rfl

/-- After a step the line has ended, or the token is the last one on it. -/
theorem beside_step (s : State) {t : Token} (hgap : t.isGap = false) {rest : List Token}
    (hapart : (t :: rest).IsChain fun t u => t.isWord = true → u.isWord = false) :
    (s.step t).2.items = [] ∨ Beside t (s.step t).2 rest := by
  rw [step_eq s hgap]
  have hlast := written_last s t
  have hnext : t.isWord = true → ∀ u, rest.head? = some u → u.isWord = false := by
    intro hword u hu
    cases rest with
    | nil => cases hu
    | cons v rest =>
      obtain rfl : v = u := by injection hu
      exact (List.isChain_cons_cons.mp hapart).1 hword
  cases t with
  | gap => cases hgap
  | lineComment text => exact Or.inl (items_endLine _)
  | operator text => exact Or.inr ⟨hlast, rfl, fun _ => rfl, fun h => (by cases h)⟩
  | word text => exact Or.inr ⟨hlast, rfl, fun h => (by cases h), fun h => Or.inr (hnext h)⟩
  | mark m =>
    rcases items_finish_mark (s.written (.mark m)) m with hempty | hsame
    · exact Or.inl hempty
    · exact Or.inr ⟨by rw [hsame]; exact hlast, rfl, fun h => (by cases h), fun h => (by cases h)⟩
  | _ => exact Or.inr ⟨hlast, rfl, fun h => (by cases h), fun h => (by cases h)⟩

/-- White space makes a space due. -/
theorem Beside.gap {t : Token} {s : State} {text : Text} {rest : List Token} (h : Beside t s (.gap text :: rest)) :
    Beside t { s with pending := true } rest :=
  ⟨h.last, h.comment, fun _ => rfl, fun _ => Or.inl rfl⟩

theorem items_settle (s : State) (t : Token) :
    (s.settle t).2.items = [] ∨
      ((s.settle t).2.items = s.items ∧ (s.pending = true → (s.settle t).2.pending = true)) := by
  unfold settle
  split
  · dsimp only
    split
    · exact Or.inr ⟨rfl, fun _ => rfl⟩
    · split
      · exact Or.inr ⟨rfl, id⟩
      · exact Or.inl (items_endLine _)
  · exact Or.inr ⟨rfl, id⟩

/-- Clearing the way ends the line, or leaves the line and the space that is due. -/
theorem items_clear (s : State) (t : Token) :
    (s.clear t).2.items = [] ∨
      ((s.clear t).2.items = s.items ∧ (s.pending = true → (s.clear t).2.pending = true)) := by
  unfold clear close
  rcases items_settle s t with hempty | hsame
  · left
    split
    · exact items_endLine _
    · exact hempty
    · exact hempty
    · exact hempty
  · split
    · exact Or.inl (items_endLine _)
    · exact Or.inr hsame
    · exact Or.inr hsame
    · exact Or.inr hsame

/-- The white space before a token is a line break, or the line goes on and it is a space or nothing. -/
theorem lead_cases (width : Nat) (s : State) (t : Token) :
    (∃ n, s.lead width t = [.gap (CodePoint.newline :: Text.spaces n)]) ∨
      (s.items ≠ [] ∧ (s.lead width t = [.gap [char ' ']] ∨ s.lead width t = [])) := by
  unfold lead
  split
  · exact Or.inl ⟨_, rfl⟩
  · rename_i hitems
    right
    constructor
    · intro hnone
      rcases items_clear s t with hempty | ⟨hsame, -⟩
      · exact hitems (List.isEmpty_iff.mpr hempty)
      · exact hitems (List.isEmpty_iff.mpr (hsame.trans hnone))
    · split
      · exact Or.inl rfl
      · exact Or.inr rfl

/-- A token that ends neither in an opening parenthesis nor in an opening bracket takes the space that is due
behind it, unless the next one is attached. -/
theorem attached_of_lead_eq_nil {width : Nat} {s : State} {t u : Token} {rest : List Token} (h : Beside t s rest)
    (hopen : t.shown ≠ [Mark.openParen.char] ∧ t.shown ≠ [Mark.openBracket.char]) (hpending : s.pending = true)
    (hlead : s.lead width u = []) : u.attached = true := by
  obtain ⟨item, hitem, htext⟩ := h.last
  unfold lead at hlead
  split at hlead
  · cases hlead
  · rename_i hempty
    rcases items_clear s u with hnone | ⟨hsame, hdue⟩
    · exact absurd (List.isEmpty_iff.mpr hnone) hempty
    · have hends : endsOpen (s.clear u).2.items = false := by
        rw [endsOpen, hsame, hitem]
        simp [htext, hopen.1, hopen.2]
      rw [spacedAt, hdue hpending, hends] at hlead
      cases hattached : u.attached with
      | true => rfl
      | false =>
        rw [hattached] at hlead
        simp at hlead

end State

/-- Is the token a quote without a partner? -/
def Token.isStray : Token → Bool
  | .strayQuote _ => true
  | _ => false

/-- What the tokens of a source without stray quotes have in common. -/
structure Sound (ts : List Token) : Prop where
  spelled : ∀ t ∈ ts, t.Spelled
  solid : ∀ t ∈ ts, t.isGap = false → t.Solid
  paired : ∀ t ∈ ts, t.isStray = false
  apart : ts.IsChain fun t u => t.isWord = true → u.isWord = false

theorem Sound.tail {t : Token} {ts : List Token} (h : Sound (t :: ts)) : Sound ts :=
  ⟨(List.forall_mem_cons.mp h.spelled).2, (List.forall_mem_cons.mp h.solid).2, (List.forall_mem_cons.mp h.paired).2,
    h.apart.tail⟩

/-- A line feed may follow every token, and a space all but line comments. -/
theorem standsBefore_gap {t : Token} (hgap : t.isGap = false) (hstray : t.isStray = false) {c : CodePoint}
    (hc : c = CodePoint.newline ∨ (c = char ' ' ∧ t.isLineComment = false)) (rest : Text) :
    t.StandsBefore (c :: rest) := by
  cases t with
  | gap => cases hgap
  | strayQuote => cases hstray
  | lineComment =>
    rcases hc with rfl | ⟨-, h⟩
    · exact Token.startsOutside_cons rfl rest
    · cases h
  | operator => rcases hc with rfl | ⟨rfl, -⟩ <;> exact Token.startsOutside_cons rfl rest
  | word => rcases hc with rfl | ⟨rfl, -⟩ <;> exact Token.startsOutside_cons rfl rest
  | _ => trivial

theorem standsBefore_nil {t : Token} (hgap : t.isGap = false) (hstray : t.isStray = false) : t.StandsBefore [] := by
  have hnone : ∀ kind, Token.StartsOutside kind [] := by
    intro kind c hc
    cases hc
  cases t with
  | gap => cases hgap
  | strayQuote => cases hstray
  | lineComment => exact hnone _
  | operator => exact hnone _
  | word => exact hnone _
  | _ => trivial

/-- A text is no opening parenthesis or bracket if its first code point is of a kind that these are not of. -/
theorem ne_open {kind : CodePoint → Bool} {c : CodePoint} (hc : kind c = true) (body : Text)
    (hparen : kind Mark.openParen.char = false) (hbracket : kind Mark.openBracket.char = false) :
    c :: body ≠ [Mark.openParen.char] ∧ c :: body ≠ [Mark.openBracket.char] := by
  constructor
  · intro heq
    injection heq with hfirst
    rw [hfirst, hparen] at hc
    cases hc
  · intro heq
    injection heq with hfirst
    rw [hfirst, hbracket] at hc
    cases hc

/-- A token stands before the next one that has no white space before it. -/
theorem standsBefore_joined {width : Nat} {s : State} {t u : Token} {rest : List Token} (ht : t.Spelled)
    (hgap : t.isGap = false) (hstray : t.isStray = false) (h : s.Beside t (u :: rest)) (hu : u.Spelled)
    (hugap : u.isGap = false) (hlead : s.lead width u = []) (after : Text) : t.StandsBefore (u.shown ++ after) := by
  cases ht with
  | gap => cases hgap
  | strayQuote => cases hstray
  | lineComment => cases h.comment
  | @operator c body hc =>
    -- a space is due after an operator, and only an attached mark does without it
    have hattached : u.attached = true :=
      State.attached_of_lead_eq_nil h (ne_open hc body rfl rfl) (h.operator rfl) hlead
    cases u with
    | mark m =>
      refine Token.startsOutside_cons ?_ after
      cases m <;> rfl
    | _ => cases hattached
  | @word c body hc =>
    -- a word behind it would have white space before it in the source
    refine hu.startsOutside_word hugap ?_ after
    rcases h.word rfl with hpending | hnext
    · have hattached : u.attached = true := State.attached_of_lead_eq_nil h (ne_open hc body rfl rfl) hpending hlead
      cases u with
      | mark m => rfl
      | _ => cases hattached
    · exact hnext u rfl
  | _ => trivial

/-- A token that ended its line, or is the last one on it, stands before the text of all that follow. -/
theorem standsBefore_relaid (width : Nat) {s : State} {t : Token} {ts : List Token} (ht : t.Spelled)
    (hgap : t.isGap = false) (hstray : t.isStray = false) (h : s.items = [] ∨ s.Beside t ts)
    (hts : ∀ u ∈ ts, u.Spelled) : t.StandsBefore ((s.relaid width ts).flatMap Token.text) := by
  induction ts generalizing s with
  | nil => exact standsBefore_nil hgap hstray
  | cons u rest ih =>
    obtain ⟨hu, hrest⟩ := List.forall_mem_cons.mp hts
    rw [State.relaid]
    split
    · rename_i hugap
      cases u with
      | gap text => exact ih (h.imp id State.Beside.gap) hrest
      | _ => cases hugap
    · rename_i hugap
      rw [List.flatMap_append, List.flatMap_cons, Token.text_trimmed]
      rcases s.lead_cases width u with ⟨n, hlead⟩ | ⟨hitems, hlead⟩
      · rw [hlead]
        exact standsBefore_gap hgap hstray (Or.inl rfl) _
      · have hbeside := h.resolve_left hitems
        rcases hlead with hlead | hlead
        · rw [hlead]
          exact standsBefore_gap hgap hstray (Or.inr ⟨rfl, hbeside.comment⟩) _
        · have hjoined := standsBefore_joined ht hgap hstray hbeside hu (by simpa using hugap) hlead
          rw [hlead]
          exact hjoined _

/-! ## Reading the formatted script -/

/-- The tokens that the first pass writes are those that the second one reads. -/
theorem readable_relaid (width : Nat) (s : State) {ts : List Token} (h : Sound ts) :
    Token.Readable (s.relaid width ts) := by
  induction ts generalizing s with
  | nil => trivial
  | cons t rest ih =>
    have hspelled := List.forall_mem_cons.mp h.spelled
    rw [State.relaid]
    split
    · exact ih _ h.tail
    · rename_i hgap
      rw [Bool.not_eq_true] at hgap
      have hstands := standsBefore_relaid width hspelled.1 hgap (h.paired t List.mem_cons_self)
        (s.beside_step hgap h.apart) hspelled.2
      have hread : Token.Readable (t.trimmed :: (s.step t).2.relaid width rest) :=
        ⟨hspelled.1.readBefore hstands, ih _ h.tail⟩
      have hsolid := h.solid t List.mem_cons_self hgap
      have hstarts : Text.StartsSolid ((t.trimmed :: (s.step t).2.relaid width rest).flatMap Token.text) := by
        rw [List.flatMap_cons, Token.text_trimmed]
        exact Text.startsSolid_append hsolid.nonempty hsolid.starts _
      rcases s.lead_cases width t with ⟨n, hlead⟩ | ⟨-, hlead | hlead⟩
      · rw [hlead]
        refine ⟨Token.readBefore_gap (List.cons_ne_nil _ _) ?_ hstarts, hread⟩
        rw [Text.isBlank, List.all_cons]
        exact Text.isBlank_spaces n
      · rw [hlead]
        exact ⟨Token.readBefore_gap (List.cons_ne_nil _ _) rfl hstarts, hread⟩
      · rw [hlead]
        exact hread

theorem endsSolid_relaid (width : Nat) (s : State) {ts : List Token} (h : ∀ t ∈ ts, t.isGap = false → t.Solid) :
    Text.EndsSolid ((s.relaid width ts).flatMap Token.text) := by
  induction ts generalizing s with
  | nil => exact Text.endsSolid_nil
  | cons t rest ih =>
    obtain ⟨ht, hrest⟩ := List.forall_mem_cons.mp h
    rw [State.relaid]
    split
    · exact ih _ hrest
    · rename_i hgap
      have hsolid := ht (by simpa using hgap)
      rw [List.flatMap_append, List.flatMap_cons, Token.text_trimmed]
      exact Text.endsSolid_append (List.append_ne_nil_of_left_ne_nil hsolid.nonempty _)
        (hsolid.ends.append (ih _ hrest))

theorem filter_relaid (width : Nat) (s : State) (ts : List Token) :
    (s.relaid width ts).filter (!·.isGap) = (ts.filter (!·.isGap)).map Token.trimmed := by
  induction ts generalizing s with
  | nil => rfl
  | cons t rest ih =>
    have hlead : (s.lead width t).filter (!·.isGap) = [] := by
      rcases s.lead_cases width t with ⟨n, hlead⟩ | ⟨-, hlead | hlead⟩ <;> rw [hlead] <;> rfl
    rw [State.relaid]
    split
    · rename_i hgap
      rw [ih, List.filter_cons_of_neg (by simpa using hgap)]
    · rename_i hgap
      have hkept : (!t.isGap) = true := by simpa using hgap
      rw [List.filter_append, hlead, List.nil_append, List.filter_cons_of_pos (by rwa [Token.isGap_trimmed]), ih,
        List.filter_cons_of_pos (by exact hkept), List.map_cons]

/-- The text of the tokens that are written is the formatted script, but for white space around it. -/
theorem format_eq_trim (width : Nat) (source : Text) :
    format width source = Text.trim ((State.relaid width {} (Token.all source)).flatMap Token.text) := by
  have hflow : flow width (lines source) = (State.relaid width {} (Token.all source)).flatMap Token.text :=
    State.flow_lines width {} (Token.all source)
  rw [format, entries, ← hflow]
  cases hlines : lines source with
  | nil => rfl
  | cons line rest =>
    rw [flow_eq_render width (List.cons_ne_nil line rest)]
    exact (@Text.trim_append_of_isBlank [CodePoint.newline] rfl _).symm

/-- The first token that is written has a line break before it. -/
theorem relaid_start (width : Nat) {s : State} (hs : s.items = []) {ts : List Token}
    (h : ∀ t ∈ ts, t.isGap = false → t.Solid) :
    s.relaid width ts = [] ∨ ∃ n rest, s.relaid width ts = .gap (CodePoint.newline :: Text.spaces n) :: rest ∧
      Text.StartsSolid (rest.flatMap Token.text) := by
  induction ts generalizing s with
  | nil => exact Or.inl rfl
  | cons t rest ih =>
    obtain ⟨ht, hrest⟩ := List.forall_mem_cons.mp h
    rw [State.relaid]
    split
    · rename_i hgap
      cases t with
      | gap text => exact ih hs hrest
      | _ => cases hgap
    · rename_i hgap
      have hsolid := ht (by simpa using hgap)
      rcases s.lead_cases width t with ⟨n, hlead⟩ | ⟨hitems, -⟩
      · right
        refine ⟨n, t.trimmed :: (s.step t).2.relaid width rest, by rw [hlead]; rfl, ?_⟩
        rw [List.flatMap_cons, Token.text_trimmed]
        exact Text.startsSolid_append hsolid.nonempty hsolid.starts _
      · exact absurd hs hitems

/-- Where no line has begun it makes no difference whether a space is due. -/
theorem lines_pending {s : State} (hs : s.items = []) (due : Bool) (ts : List Token) :
    { s with pending := due }.lines ts = s.lines ts := by
  cases ts with
  | nil => rfl
  | cons t rest =>
    rw [State.lines, State.lines]
    cases hgap : t.isGap with
    | true =>
      cases t with
      | gap text => rfl
      | _ => cases hgap
    | false =>
      have hitems : (s.clear t).2.items = [] := by
        rcases s.items_clear t with hempty | ⟨hsame, -⟩
        · exact hempty
        · exact hsame.trans hs
      rw [State.step_pending hgap (Or.inl hitems)]

/-- What the second pass reads, and that it ends with the same lines. -/
theorem all_format (width : Nat) {source : Text} (h : Sound (Token.all source)) :
    (Token.all (format width source)).filter (!·.isGap) =
        ((Token.all source).filter (!·.isGap)).map Token.trimmed ∧
      lines (format width source) = lines source := by
  have hread := readable_relaid width {} h
  have hends := endsSolid_relaid width {} h.solid
  have hkept := filter_relaid width {} (Token.all source)
  have hlines : State.lines {} (State.relaid width {} (Token.all source)) = lines source :=
    State.lines_relaid width h.spelled {} id
  rw [lines, format_eq_trim]
  rcases relaid_start width (s := {}) rfl h.solid with hnil | ⟨n, rest, hrelaid, hstarts⟩
  · rw [hnil] at hkept hlines ⊢
    rw [List.flatMap_nil, Text.trim_of_solid (by rintro c ⟨⟩) Text.endsSolid_nil, Token.all]
    exact ⟨hkept, hlines⟩
  · rw [hrelaid] at hread hends hkept hlines ⊢
    have hblank : Text.isBlank (CodePoint.newline :: Text.spaces n) = true := Text.isBlank_spaces n
    rw [List.flatMap_cons] at hends ⊢
    rw [Token.text, Text.trim_append_of_isBlank hblank,
      Text.trim_of_solid hstarts (Text.endsSolid_of_append hends), hread.2.all_flatMap_text]
    refine ⟨hkept, ?_⟩
    rw [← hlines]
    exact (lines_pending rfl true rest).symm

/-- Formatting a formatted script gives what formatting the script gives, at any two widths, and the formatted
script has the tokens of the script, with line comments trimmed, provided that every quote has its partner. -/
theorem format_of_format (width width' : Nat) (source : Text) (h : ∀ t ∈ Token.all source, t.isStray = false) :
    format width' (format width source) = format width' source ∧
      (Token.all (format width source)).filter (!·.isGap) =
        ((Token.all source).filter (!·.isGap)).map Token.trimmed := by
  have hsound : Sound (Token.all source) :=
    ⟨fun _ => Token.spelled_of_mem_all, fun _ => Token.solid_of_mem_all, h, Token.isChain_all source⟩
  obtain ⟨htokens, hlines⟩ := all_format width hsound
  refine ⟨?_, htokens⟩
  rw [format, entries, hlines]
  rfl

theorem format_of_format_branch :
    format 4 (format 2 "if(a==b){x++}//c ") = format 4 "if(a==b){x++}//c " ∧
      (Token.all (format 2 "if(a==b){x++}//c ")).filter (!·.isGap) =
        ((Token.all "if(a==b){x++}//c ").filter (!·.isGap)).map Token.trimmed :=
  format_of_format 2 4 "if(a==b){x++}//c " (by decide +kernel)

end Tidy.Script
