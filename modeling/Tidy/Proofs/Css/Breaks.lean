/-
# Tidy.Proofs.Css.Breaks -- line feeds in a row

The layout of a style sheet breaks its lines, and leaves lines empty, by one or two line feeds between contents that
have none outside of their strings and comments (`Tight`). So three line feeds in a row stand inside of a string or a
comment, wherever they are found in the text (`exists_enclosing_token`).
-/

import Tidy.Proofs.Css.Statements

namespace Tidy.Css

open CodePoint (char newline)

/-- A line feed that is no part of a string or a comment. -/
def lineFeed : Atom := .blank newline

/-- No three line feeds stand in a row, and at most `room` of them at the start. -/
def Tight : (room : Nat) → List Atom → Prop
  | _, [] => True
  | room, a :: as => if a = lineFeed then room ≠ 0 ∧ Tight (room - 1) as else Tight 2 as

theorem tight_nil (room : Nat) : Tight room [] :=
  trivial

theorem Tight.cons_lineFeed {room : Nat} {as : List Atom} (h : Tight room as) : Tight (room + 1) (lineFeed :: as) := by
  rw [Tight, if_pos rfl]
  exact ⟨Nat.succ_ne_zero room, h⟩

theorem tight_cons_iff {a : Atom} (ha : a ≠ lineFeed) (room : Nat) (as : List Atom) :
    Tight room (a :: as) ↔ Tight 2 as := by
  rw [Tight, if_neg ha]

theorem Tight.mono {n m : Nat} {as : List Atom} (h : Tight n as) (hle : n ≤ m) : Tight m as := by
  induction as generalizing n m with
  | nil => trivial
  | cons a as ih =>
    by_cases ha : a = lineFeed
    · rw [Tight, if_pos ha] at h ⊢
      exact ⟨by omega, ih h.2 (Nat.sub_le_sub_right hle 1)⟩
    · exact (tight_cons_iff ha m as).mpr ((tight_cons_iff ha n as).mp h)

theorem Tight.tail {n : Nat} {a : Atom} {as : List Atom} (h : Tight n (a :: as)) (hn : n ≤ 2) : Tight 2 as := by
  by_cases ha : a = lineFeed
  · rw [Tight, if_pos ha] at h
    exact h.2.mono (by omega)
  · exact (tight_cons_iff ha n as).mp h

/-- The end of a line, with an empty line after it or without one. -/
theorem Tight.break {w : Text} {as : List Atom} (h : Tight 0 as) (hw : w = [newline] ∨ w = [newline, newline]) :
    Tight 2 (w.map .blank ++ as) := by
  rcases hw with rfl | rfl
  · exact h.cons_lineFeed.mono (by decide)
  · exact h.cons_lineFeed.cons_lineFeed

theorem Tight.trimStart {t : Text} (h : Tight 2 (atoms t)) : Tight 2 (atoms (Text.trimStart t)) := by
  induction t with
  | nil => exact h
  | cons c t ih =>
    rw [Text.trimStart, List.dropWhile_cons]
    split
    · rename_i hc
      rw [atoms_blank hc] at h
      exact ih (h.tail (Nat.le_refl 2))
    · exact h

/-! ## What has no line feeds -/

theorem Atom.Inner.ne_lineFeed {a : Atom} (h : a.Inner) : a ≠ lineFeed := by
  rintro rfl
  exact h

theorem Run.ne_lineFeed {as : List Atom} (h : Run as) : ∀ a ∈ as, a ≠ lineFeed := by
  induction h with
  | nil => exact List.forall_mem_nil _
  | inner ha _ ih => exact List.forall_mem_cons.mpr ⟨ha.ne_lineFeed, ih⟩
  | gap ha _ ih => exact List.forall_mem_cons.mpr ⟨by decide, List.forall_mem_cons.mpr ⟨ha.ne_lineFeed, ih⟩⟩

theorem Statement.ne_lineFeed {as : List Atom} (h : Statement as) : ∀ a ∈ as, a ≠ lineFeed := by
  obtain ⟨ha, -, has⟩ := h
  exact List.forall_mem_cons.mpr ⟨ha.ne_lineFeed, has.ne_lineFeed⟩

theorem ne_lineFeed_spaces (n : Nat) : ∀ a ∈ (Text.spaces n).map Atom.blank, a ≠ lineFeed := by
  intro a ha
  obtain ⟨c, hc, rfl⟩ := List.mem_map.mp ha
  rw [List.eq_of_mem_replicate hc]
  decide

theorem ne_lineFeed_space {w : Text} (h : w = [] ∨ w = [char ' ']) : ∀ a ∈ w.map Atom.blank, a ≠ lineFeed := by
  rcases h with rfl | rfl <;> decide

/-- The atoms are something on one line. -/
structure OneLine (line : List Atom) : Prop where
  nonempty : line ≠ []
  unbroken : ∀ a ∈ line, a ≠ lineFeed

theorem oneLine_singleton {a : Atom} (ha : a ≠ lineFeed) : OneLine [a] where
  nonempty := List.cons_ne_nil a []
  unbroken := List.forall_mem_cons.mpr ⟨ha, List.forall_mem_nil _⟩

/-- More in front of a line. -/
theorem OneLine.append {line more : List Atom} (h : OneLine line) (hmore : ∀ a ∈ more, a ≠ lineFeed) :
    OneLine (more ++ line) where
  nonempty := List.append_ne_nil_of_right_ne_nil more h.nonempty
  unbroken := List.forall_mem_append.mpr ⟨hmore, h.unbroken⟩

/-- After a line the count of the line feeds starts anew. -/
theorem OneLine.tight {line as : List Atom} (h : OneLine line) (has : Tight 2 as) : Tight 0 (line ++ as) := by
  obtain ⟨hne, hline⟩ := h
  induction line with
  | nil => exact absurd rfl hne
  | cons a line ih =>
    obtain ⟨ha, hline⟩ := List.forall_mem_cons.mp hline
    rw [List.cons_append, tight_cons_iff ha]
    cases line with
    | nil => exact has
    | cons b line => exact (ih (List.cons_ne_nil b line) hline).mono (Nat.zero_le 2)

/-! ## Where three line feeds stand -/

/-- Three line feeds in a row. -/
def threeBreaks : Text := "\n\n\n"

/-- The atom is a string or a comment. -/
def Atom.Enclosed : Atom → Prop
  | string _ | comment _ => True
  | _ => False

theorem Atom.Enclosed.solid {a : Atom} (h : a.Enclosed) (ha : a.WellFormed) :
    a.text ≠ [] ∧ Text.StartsSolid a.text ∧ Text.EndsSolid a.text := by
  cases a with
  | string t => exact Atom.Inner.solid (a := .string t) ha
  | comment t => exact Atom.Inner.solid (a := .comment t) ha
  | _ => exact absurd h id

/-- An atom with a line feed in it is enclosed, or it is the line feed. -/
theorem Atom.WellFormed.enclosed_or {a : Atom} (ha : a.WellFormed) (hmem : newline ∈ a.text) :
    a.Enclosed ∨ a = lineFeed := by
  cases a with
  | solid c =>
    obtain rfl := List.mem_singleton.mp hmem
    exact absurd ha.1 (by decide)
  | blank c =>
    obtain rfl := List.mem_singleton.mp hmem
    exact Or.inr rfl
  | string t => exact Or.inl trivial
  | comment t => exact Or.inl trivial
  | openBrace | closeBrace | semicolon => exact absurd hmem (by decide)

theorem Atom.WellFormed.text_ne_nil {a : Atom} (ha : a.WellFormed) : a.text ≠ [] := by
  cases a with
  | string t => exact (Atom.Enclosed.solid (a := .string t) trivial ha).1
  | comment t => exact (Atom.Enclosed.solid (a := .comment t) trivial ha).1
  | _ => exact List.cons_ne_nil _ _

/-- Only the line feed itself starts with one. -/
theorem Atom.WellFormed.eq_lineFeed {a : Atom} (ha : a.WellFormed) {t u : Text} (h : a.text ++ t = newline :: u) :
    a = lineFeed := by
  rcases List.append_eq_cons_iff.mp h with ⟨hnil, -⟩ | ⟨more, hmore, -⟩
  · exact absurd hnil ha.text_ne_nil
  · refine (ha.enclosed_or (by rw [hmore]; exact List.mem_cons_self)).resolve_left ?_
    intro henclosed
    have hsolid := (henclosed.solid ha).2.1 newline (by rw [hmore]; rfl)
    exact absurd hsolid (by decide)

/-- A text that starts with line feeds has as many of these atoms at its start, so there is room for them. -/
theorem Tight.le_of_replicate {room n : Nat} {as : List Atom} (h : Tight room as) (has : ∀ a ∈ as, a.WellFormed)
    {rest : Text} (htext : textOf as = List.replicate n newline ++ rest) : n ≤ room := by
  induction n generalizing room as with
  | zero => exact Nat.zero_le room
  | succ n ih =>
    cases as with
    | nil => cases htext
    | cons a as =>
      obtain ⟨ha, hrest⟩ := List.forall_mem_cons.mp has
      rw [textOf_cons, List.replicate_succ, List.cons_append] at htext
      obtain rfl := ha.eq_lineFeed htext
      rw [Tight, if_pos rfl] at h
      have hle := ih h.2 hrest (List.cons.inj htext).2
      omega

/-- An atom that three line feeds reach into, but do not start, is a string or a comment and holds all of them. -/
theorem Atom.WellFormed.holds {a : Atom} (ha : a.WellFormed) {before inner rest after : Text}
    (htext : a.text = before ++ inner) (hbefore : before ≠ []) (hinner : inner ≠ [])
    (hsplit : threeBreaks ++ after = inner ++ rest) : a.Enclosed ∧ ∃ stop, inner = threeBreaks ++ stop := by
  obtain ⟨c, inner', rfl⟩ := List.exists_cons_of_ne_nil hinner
  obtain rfl : newline = c := (List.cons.inj hsplit).1
  have henclosed : a.Enclosed := by
    refine (ha.enclosed_or (htext ▸ List.mem_append_right before List.mem_cons_self)).resolve_right ?_
    rintro rfl
    have hlength := congrArg List.length htext
    have hpos := List.length_pos_iff.mpr hbefore
    simp only [lineFeed, Atom.text, List.length_append, List.length_cons, List.length_nil] at hlength
    omega
  refine ⟨henclosed, ?_⟩
  rcases List.append_eq_append_iff.mp hsplit with ⟨stop, hstop, -⟩ | ⟨more, hwithin, -⟩
  · exact ⟨stop, hstop⟩
  · -- otherwise the last code point of the atom is a line feed
    have hsolid := Text.endsSolid_of_append (htext ▸ (henclosed.solid ha).2.2)
    have hlast := List.getLast?_eq_some_getLast hinner
    have hmem : ∀ d ∈ threeBreaks, d.isBlank = true := by decide
    have hblank := hmem _ (hwithin ▸ List.mem_append_left more (List.mem_of_getLast? hlast))
    rw [hsolid _ hlast] at hblank
    cases hblank

/-- Three line feeds in a row are inside of one atom. -/
theorem Tight.exists_enclosing {as : List Atom} (h : Tight 2 as) (has : ∀ a ∈ as, a.WellFormed) {before after : Text}
    (htext : textOf as = before ++ (threeBreaks ++ after)) :
    ∃ as' a bs start stop, as = as' ++ a :: bs ∧ a.Enclosed ∧ a.text = start ++ (threeBreaks ++ stop) ∧
      before = textOf as' ++ start := by
  induction as generalizing before with
  | nil => exact absurd (List.append_eq_nil_iff.mp (List.append_eq_nil_iff.mp htext.symm).2).1 (by decide)
  | cons a as ih =>
    obtain ⟨ha, hrest⟩ := List.forall_mem_cons.mp has
    have htail := h.tail (Nat.le_refl 2)
    -- at the start of a list there is no room for them
    have hstart : ∀ {bs : List Atom}, Tight 2 bs → (∀ b ∈ bs, b.WellFormed) → textOf bs ≠ threeBreaks ++ after := by
      intro bs hbs hwellFormed hbstext
      have hle : 3 ≤ 2 := hbs.le_of_replicate hwellFormed hbstext
      omega
    have hsplit : a.text ++ textOf as = before ++ (threeBreaks ++ after) := htext
    rcases List.append_eq_append_iff.mp hsplit with ⟨before', hbefore, hlater⟩ | ⟨inner, hinner, hsplit⟩
    · obtain ⟨as', b, bs, start, stop, rfl, hb, hbtext, rfl⟩ := ih htail hrest hlater
      exact ⟨a :: as', b, bs, start, stop, rfl, hb, hbtext, by rw [hbefore, textOf_cons, List.append_assoc]⟩
    · have hbefore : before ≠ [] := by
        rintro rfl
        exact hstart h has htext
      have hne : inner ≠ [] := by
        rintro rfl
        exact hstart htail hrest hsplit.symm
      obtain ⟨henclosed, stop, hstop⟩ := ha.holds hinner hbefore hne hsplit
      exact ⟨[], a, as, before, stop, rfl, henclosed, by rw [hinner, hstop], rfl⟩

/-! ## In the tokens of a text -/

/-- The token is a string or a comment. -/
def Token.Enclosed : Token → Prop
  | .string _ | .comment _ => True
  | _ => False

theorem Token.textOf_atoms (t : Token) : textOf t.atoms = t.text := by
  cases t with
  | gap t => exact textOf_map_blank t
  | word t => exact textOf_map_solid t
  | comment t | string t => exact List.append_nil t
  | _ => rfl

theorem textOf_flatMap_atoms (ts : List Token) : textOf (ts.flatMap Token.atoms) = ts.flatMap Token.text := by
  induction ts with
  | nil => rfl
  | cons t ts ih => rw [List.flatMap_cons, List.flatMap_cons, textOf_append, Token.textOf_atoms, ih]

/-- An atom that is enclosed is all of its token. -/
theorem Atom.Enclosed.of_mem {a : Atom} (h : a.Enclosed) {t : Token} (ha : a ∈ t.atoms) :
    t.Enclosed ∧ t.text = a.text ∧ t.atoms = [a] := by
  cases t with
  | comment t | string t =>
    obtain rfl := List.mem_singleton.mp ha
    exact ⟨trivial, rfl, rfl⟩
  | gap t | word t =>
    obtain ⟨c, -, rfl⟩ := List.mem_map.mp ha
    exact absurd h id
  | _ =>
    obtain rfl := List.mem_singleton.mp ha
    exact absurd h id

theorem Atom.Enclosed.exists_token {a : Atom} (h : a.Enclosed) {ts : List Token} {as bs : List Atom}
    (hts : ts.flatMap Token.atoms = as ++ a :: bs) :
    ∃ before t after, ts = before ++ t :: after ∧ t.Enclosed ∧ t.text = a.text ∧ before.flatMap Token.atoms = as := by
  induction ts generalizing as with
  | nil => cases as <;> cases hts
  | cons t ts ih =>
    have hlater : ∀ as', ts.flatMap Token.atoms = as' ++ a :: bs → ∃ before u after, t :: ts = before ++ u :: after ∧
        u.Enclosed ∧ u.text = a.text ∧ before.flatMap Token.atoms = t.atoms ++ as' := by
      intro as' has'
      obtain ⟨before, u, after, rfl, hu, htext, rfl⟩ := ih has'
      exact ⟨t :: before, u, after, rfl, hu, htext, rfl⟩
    rw [List.flatMap_cons] at hts
    rcases List.append_eq_append_iff.mp hts with ⟨as', rfl, has'⟩ | ⟨inner, hinner, hsplit⟩
    · exact hlater as' has'
    · cases inner with
      | nil =>
        rw [List.append_nil] at hinner
        have hnext := hlater [] hsplit.symm
        rwa [List.append_nil, hinner] at hnext
      | cons b inner =>
        obtain rfl : a = b := (List.cons.inj hsplit).1
        obtain ⟨ht, htext, hone⟩ := h.of_mem (hinner ▸ List.mem_append_right as List.mem_cons_self)
        rw [hone] at hinner
        cases as with
        | nil => exact ⟨[], t, ts, rfl, ht, htext, rfl⟩
        | cons b as => simp at hinner

/-- Three line feeds in a row stand inside of a string or a comment. -/
theorem exists_enclosing_token {source : Text} (h : Tight 2 (atoms source)) {before after : Text}
    (htext : source = before ++ (threeBreaks ++ after)) :
    ∃ earlier t later start stop, Token.all source = earlier ++ t :: later ∧ t.Enclosed ∧
      t.text = start ++ (threeBreaks ++ stop) ∧ before = earlier.flatMap Token.text ++ start := by
  obtain ⟨hsource, hlexed⟩ := lexed_atoms source
  obtain ⟨as, a, bs, start, stop, hatoms, ha, hatext, rfl⟩ :=
    h.exists_enclosing hlexed.wellFormed (hsource.trans htext)
  obtain ⟨earlier, t, later, hall, ht, httext, rfl⟩ := ha.exists_token hatoms
  exact ⟨earlier, t, later, start, stop, hall, ht, httext.trans hatext, by rw [textOf_flatMap_atoms]⟩

end Tidy.Css
