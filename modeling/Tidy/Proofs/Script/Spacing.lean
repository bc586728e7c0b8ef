/-
# Tidy.Proofs.Script.Spacing -- what stands between two tokens of a line, and where lines end

Between two tokens on a line stands one space or nothing, and one space around an operator, unless a parenthesis or
bracket on its inner side, or a mark that is attached, takes it away (`Strung`). What the pass leaves behind a token
decides both this and whether the line goes on, so each pair of neighbours (`Adjoins`) is looked at in the state between
them: what the first token asks for when it is written, and what is left of it when the second one is reached.
-/

import Tidy.Proofs.Script.Indentation

namespace Tidy.Script

open CodePoint (char)

/-! ## Between two tokens -/

/-- The tokens have a space between them: one of them is an operator, the first is no opening parenthesis or bracket,
and the second none of the marks that are attached to what stands before them. -/
structure WantSpace (t u : Token) : Prop where
  operator : t.isOperator = true ∨ u.isOperator = true
  left : t ≠ .mark .openParen ∧ t ≠ .mark .openBracket
  right : u ≠ .mark .closeParen ∧ u ≠ .mark .closeBracket ∧ u ≠ .mark .semicolon ∧ u ≠ .mark .comma

/-- What is shown of the tokens of a line, with one space or nothing between each two. -/
inductive Strung : List Token → Text → Prop
  | last {t : Token} : Strung [t] t.shown
  | cons {t u : Token} {rest : List Token} {gap out : Text} :
      gap = [] ∨ gap = [char ' '] → (WantSpace t u → gap = [char ' ']) → Strung (u :: rest) out →
      Strung (t :: u :: rest) (t.shown ++ (gap ++ out))

/-- The innermost of the brackets that are open where the token stands. -/
def innermost (p : Place Token) : Option Mark :=
  (reached p).stack.head?

/-! ## The state between two neighbours -/

/-- White space leaves all as it is, but that a space may be due. -/
theorem after_gaps (s : State) {gaps : List Token} (h : ∀ g ∈ gaps, g.isGap = true) :
    (s.after gaps).items = s.items ∧ (s.pending = true → (s.after gaps).pending = true) := by
  induction gaps generalizing s with
  | nil => exact ⟨rfl, id⟩
  | cons g gaps ih =>
    obtain ⟨hg, hgaps⟩ := List.forall_mem_cons.mp h
    cases g with
    | gap text =>
      obtain ⟨hitems, hpending⟩ := ih { s with pending := true } hgaps
      exact ⟨hitems, fun _ => hpending rfl⟩
    | _ => cases hg

/-- The state in which a token has been written and finished. -/
def finished (p : Place Token) : State :=
  (((reached p).written p.item).finish p.item).2

variable {p q : Place Token}

theorem Adjoins.reached_items (h : Adjoins p q) : (cleared q).items = (reached q).items := by
  rcases (reached q).items_clear q.item with hnone | ⟨hsame, -⟩
  · exact absurd hnone h.goesOn
  · exact hsame

/-- The line has not ended, and a space that was due still is. -/
theorem Adjoins.cleared_eq (h : Adjoins p q) (hgap : p.item.isGap = false) :
    (cleared q).items = (finished p).items ∧ ((finished p).pending = true → (cleared q).pending = true) := by
  obtain ⟨gaps, hgaps, hbefore⟩ := h.next
  have hreached : reached q = (finished p).after gaps := by
    rw [finished, ← after_concat p hgap, ← State.after_append, reached, hbefore, List.append_assoc]
    rfl
  obtain ⟨hitems, hpending⟩ := after_gaps (finished p) hgaps
  refine ⟨by rw [h.reached_items, hreached, hitems], fun hdue => ?_⟩
  rcases (reached q).items_clear q.item with hnone | ⟨-, hkept⟩
  · exact absurd hnone h.goesOn
  · exact hkept (by rw [hreached]; exact hpending hdue)

theorem Adjoins.finished_ne_nil (h : Adjoins p q) (hgap : p.item.isGap = false) : (finished p).items ≠ [] := by
  rw [← (h.cleared_eq hgap).1]
  exact h.goesOn

/-- The first of two neighbours is the last item of the line at the second one. -/
theorem Adjoins.last (h : Adjoins p q) (hgap : p.item.isGap = false) :
    ∃ item, (cleared q).items.getLast? = some item ∧ item.text = p.item.shown := by
  obtain ⟨item, hlast, htext⟩ := (reached p).written_last p.item
  refine ⟨item, ?_, htext⟩
  rcases State.finish_cases _ (items_written_ne_nil (reached p) p.item) p.item with ⟨-, hnone⟩ | ⟨-, hsame, -⟩
  · exact absurd hnone (h.finished_ne_nil hgap)
  · rw [(h.cleared_eq hgap).1, finished, hsame, hlast]

/-! ## Where lines end -/

/-- A line does not go on behind an opening brace. -/
theorem Adjoins.ne_openBrace (h : Adjoins p q) (hgap : p.item.isGap = false) : p.item ≠ .mark .openBrace := by
  intro hbrace
  refine h.finished_ne_nil hgap ?_
  rw [finished, hbrace]
  exact State.items_endLine _

theorem stack_written_of_close {s : State} {t : Token} (h : ∀ s : State, s.close t = ([], s)) :
    (s.written t).stack = s.stack := by
  rw [State.stack_written, State.clear, h, State.stack_settle]

/-- A line goes on behind a semicolon only inside of parentheses. -/
theorem Adjoins.innermost_semicolon (h : Adjoins p q) (hsemicolon : p.item = .mark .semicolon) :
    innermost p = some .openParen := by
  by_contra houtside
  rw [innermost] at houtside
  refine h.finished_ne_nil (by rw [hsemicolon]; rfl) ?_
  rw [finished, hsemicolon, State.finish, stack_written_of_close (fun _ => rfl), if_neg houtside]
  exact State.items_endLine _

/-- A line goes on behind a comma only outside of braces, or inside of brackets in them. -/
theorem Adjoins.innermost_comma (h : Adjoins p q) (hcomma : p.item = .mark .comma) :
    innermost p ≠ some .openBrace := by
  intro hinside
  rw [innermost] at hinside
  refine h.finished_ne_nil (by rw [hcomma]; rfl) ?_
  rw [finished, hcomma, State.finish, stack_written_of_close (fun _ => rfl), if_pos hinside]
  exact State.items_endLine _

/-- No line goes on with a closing brace. -/
theorem Adjoins.ne_closeBrace (h : Adjoins p q) : q.item ≠ .mark .closeBrace := by
  intro hbrace
  refine h.goesOn ?_
  rw [cleared, hbrace]
  exact State.items_endLine _

/-! ## The space between two neighbours -/

/-- Only the opening marks look like opening marks. -/
theorem shown_ne_open {t : Token} (h : t.Spelled) (hleft : t ≠ .mark .openParen ∧ t ≠ .mark .openBracket)
    (hgap : t.isGap = false) : t.shown ≠ [Mark.openParen.char] ∧ t.shown ≠ [Mark.openBracket.char] := by
  have hslash : Token.isOperatorChar (char '/') = true := rfl
  have hplus : Token.isOperatorChar (char '+') = true := rfl
  have hminus : Token.isOperatorChar (char '-') = true := rfl
  cases h with
  | lineComment =>
    rw [Token.shown, Token.trimEnd_lineComment]
    exact ne_open hslash _ rfl rfl
  | blockComment => exact ne_open hslash _ rfl rfl
  | string hquote => exact ne_open hquote _ rfl rfl
  | gap => cases hgap
  | step hstep =>
    rcases hstep with ⟨rfl, -⟩ | ⟨rfl, -⟩
    · exact ne_open hplus _ rfl rfl
    · exact ne_open hminus _ rfl rfl
  | operator hc => exact ne_open hc _ rfl rfl
  | mark m =>
    cases m with
    | openParen => exact absurd rfl hleft.1
    | openBracket => exact absurd rfl hleft.2
    | _ => exact ⟨by decide, by decide⟩
  | word hc => exact ne_open hc _ rfl rfl
  | strayQuote hquote => exact ne_open hquote _ rfl rfl

theorem attached_eq_false {u : Token} (h : u ≠ .mark .closeParen ∧ u ≠ .mark .closeBracket ∧ u ≠ .mark .semicolon ∧
    u ≠ .mark .comma) : u.attached = false := by
  cases u with
  | mark m =>
    cases m with
    | closeParen => exact absurd rfl h.1
    | closeBracket => exact absurd rfl h.2.1
    | semicolon => exact absurd rfl h.2.2.1
    | comma => exact absurd rfl h.2.2.2
    | _ => rfl
  | _ => rfl

/-- A space that is wanted is written. -/
theorem Adjoins.spaced (h : Adjoins p q) (hp : p.item.Spelled) (hgap : p.item.isGap = false)
    (hwant : WantSpace p.item q.item) : (continued q).spaced = true := by
  obtain ⟨hoperator, hleft, hright⟩ := hwant
  obtain ⟨item, hlast, htext⟩ := h.last hgap
  have hends : endsOpen (cleared q).items = false := by
    obtain ⟨hparen, hbracket⟩ := shown_ne_open hp hleft hgap
    rw [endsOpen, hlast]
    simp [htext, hparen, hbracket]
  have hdue : (q.item.wantsSpace || (cleared q).pending) = true := by
    rw [Bool.or_eq_true]
    rcases hoperator with hp | hq
    · right
      refine (h.cleared_eq hgap).2 ?_
      cases hitem : p.item with
      | operator text => rw [finished, hitem]; rfl
      | _ => rw [hitem] at hp; cases hp
    · left
      cases hitem : q.item with
      | operator text => rfl
      | _ => rw [hitem] at hq; cases hq
  show (!q.item.attached && (q.item.wantsSpace || (cleared q).pending) && !endsOpen (cleared q).items) = true
  rw [attached_eq_false hright, hdue, hends]
  rfl

/-! ## Whole lines -/

theorem Continues.strung {items : List Placed} {qs : List (Place Token)} (h : Continues p items qs)
    (hps : ∀ r ∈ p :: qs, r.item.Spelled ∧ r.item.isGap = false) :
    Strung ((p :: qs).map Place.item) (p.item.shown ++ items.flatMap Placed.flow) := by
  induction h with
  | nil =>
    rw [List.flatMap_nil, List.append_nil]
    exact .last
  | @cons p q items qs hadjoins _ ih =>
    obtain ⟨hp, hqs⟩ := List.forall_mem_cons.mp hps
    have hrest := ih hqs
    rw [List.flatMap_cons, Placed.flow]
    cases hspaced : (continued q).spaced with
    | true =>
      show Strung _ (p.item.shown ++ ([char ' '] ++ (q.item.shown ++ _)))
      exact .cons (Or.inr rfl) (fun _ => rfl) hrest
    | false =>
      show Strung _ (p.item.shown ++ ([] ++ (q.item.shown ++ _)))
      refine .cons (Or.inl rfl) (fun hwant => ?_) hrest
      rw [hadjoins.spaced hp.1 hp.2 hwant] at hspaced
      cases hspaced

/-- All tokens of a line but its last one have a neighbour behind them, and all but its first one a neighbour before
them. -/
theorem Continues.neighbours {items : List Placed} {qs : List (Place Token)} (h : Continues p items qs) :
    (∀ r ∈ (p :: qs).dropLast, ∃ r', Adjoins r r') ∧ ∀ r ∈ qs, ∃ r', Adjoins r' r := by
  induction h with
  | nil => exact ⟨List.forall_mem_nil _, List.forall_mem_nil _⟩
  | @cons p q items qs hadjoins _ ih =>
    refine ⟨?_, List.forall_mem_cons.mpr ⟨⟨p, hadjoins⟩, ih.2⟩⟩
    rw [List.dropLast_cons_cons]
    exact List.forall_mem_cons.mpr ⟨⟨q, hadjoins⟩, ih.1⟩

theorem Strung.ne_nil {ts : List Token} {out : Text} (h : Strung ts out) (hts : ∀ t ∈ ts, t.Solid) : out ≠ [] := by
  cases h with
  | last => exact (hts _ List.mem_cons_self).nonempty
  | cons => exact List.append_ne_nil_of_left_ne_nil (hts _ List.mem_cons_self).nonempty _

/-- On every line of a script the tokens stand with one space or nothing between them, and with one space where an
operator asks for it. An opening brace ends its line, and a closing brace starts it; a semicolon ends its line outside
of parentheses, and a comma directly inside of braces. No line is empty. -/
theorem lines_spaced (source : Text) :
    Aligned source (rows source) ∧ ∀ row ∈ rows source, row.line.content ≠ [] ∧
      Strung (row.places.map Place.item) row.line.content ∧ (∀ p ∈ row.places, p.item.Solid) ∧
      (∀ p ∈ row.places.dropLast, p.item ≠ .mark .openBrace ∧
        (p.item = .mark .semicolon → innermost p = some .openParen) ∧
        (p.item = .mark .comma → innermost p ≠ some .openBrace)) ∧
      ∀ p ∈ row.places.tail, p.item ≠ .mark .closeBrace := by
  refine ⟨aligned_rows source, ?_⟩
  intro row hrow
  have hmem : ∀ p ∈ row.places, p.item ∈ Token.all source ∧ p.item.isGap = false := fun p => mem_of_mem_rows hrow
  have hsolid : ∀ p ∈ row.places, p.item.Solid := fun p hp => Token.solid_of_mem_all (hmem p hp).1 (hmem p hp).2
  have hspelled : ∀ p ∈ row.places, p.item.Spelled ∧ p.item.isGap = false :=
    fun p hp => ⟨Token.spelled_of_mem_all (hmem p hp).1, (hmem p hp).2⟩
  have hfills := fills_of_mem_rows hrow
  obtain ⟨line, places⟩ := row
  obtain ⟨-, hcontinues⟩ := hfills
  have hstrung := hcontinues.strung hspelled
  obtain ⟨hbehind, hbefore⟩ := hcontinues.neighbours
  refine ⟨?_, hstrung, hsolid, ?_, ?_⟩
  · exact hstrung.ne_nil (List.forall_mem_map.mpr hsolid)
  · intro p hp
    obtain ⟨q, hadjoins⟩ := hbehind p hp
    exact ⟨hadjoins.ne_openBrace (hmem p (List.dropLast_subset _ hp)).2, hadjoins.innermost_semicolon,
      hadjoins.innermost_comma⟩
  · intro p hp
    obtain ⟨q, hadjoins⟩ := hbefore p hp
    exact hadjoins.ne_closeBrace

end Tidy.Script
