/-
# Tidy.Proofs.Css.Phrase -- the texts that a style sheet is made of

Selectors, and the names and values of declarations, are texts without marks of the sheet and without comments, but
they may hold strings with anything in them (`Phrase`). Such a text is read as it stands (`Phrase.atoms_append`), and
what is collected of it has one space for each run of white space outside of its strings (`Phrase.collect`).
-/

import Tidy.Proofs.Css.Statements

namespace Tidy.Css

open CodePoint (char)

/-! ## Phrases -/

/-- The atom may stand in a phrase: it is solid and no quote, white space, or a string that is closed. -/
def Atom.Plain : Atom → Prop
  | solid c => (solid c).WellFormed ∧ ¬ IsQuote c
  | blank c => (blank c).WellFormed
  | string t => (string t).WellFormed
  | comment _ | openBrace | closeBrace | semicolon => False

/-- A text with strings in it, and with no quote, brace, semicolon or start of a comment outside of these. -/
structure Phrase where
  atoms : List Atom
  plain : ∀ a ∈ atoms, a.Plain
  uncommented : ¬ [.solid (char '/'), .solid (char '*')] <:+: atoms
  nonempty : textOf atoms ≠ []
  starts : Text.StartsSolid (textOf atoms)
  ends : Text.EndsSolid (textOf atoms)

/-- The atoms as they are shown, with one space for each run of white space; `inRun` tells whether a run has begun
before them. -/
def collapsed : (inRun : Bool) → List Atom → Text
  | _, [] => []
  | inRun, .blank _ :: as => if inRun then collapsed true as else ' ' :: collapsed true as
  | _, a :: as => a.text ++ collapsed false as

/-- The text of the phrase. -/
def Phrase.text (p : Phrase) : Text := textOf p.atoms

/-- The text of the phrase with its runs of white space collapsed. -/
def Phrase.shown (p : Phrase) : Text := collapsed false p.atoms

theorem plain_of_word {c : CodePoint} (h : Token.isWordPart c = true) : (Atom.solid c).Plain :=
  ⟨wellFormed_of_word h, ((isWordPart_iff c).mp h).2.1⟩

/-- A word is a phrase. -/
def Phrase.ofWord (w : Text) (hne : w ≠ []) (h : ∀ c ∈ w, Token.isWordPart c = true) : Phrase where
  atoms := w.map .solid
  plain := List.forall_mem_map.mpr fun c hc => plain_of_word (h c hc)
  uncommented := by
    intro hpart
    obtain ⟨c, hc, hslash⟩ := List.mem_map.mp (hpart.subset List.mem_cons_self)
    obtain rfl := Atom.solid.inj hslash
    exact absurd (h _ hc) (by decide)
  nonempty := by rwa [textOf_map_solid]
  starts := by
    rw [textOf_map_solid]
    exact fun c hc => ((isWordPart_iff c).mp (h c (List.mem_of_mem_head? hc))).1
  ends := by
    rw [textOf_map_solid]
    exact fun c hc => ((isWordPart_iff c).mp (h c (List.mem_of_getLast? hc))).1

/-! ## Reading a phrase -/

/-- White space is read one by one. -/
theorem atoms_gap {gap : Text} (h : Text.isBlank gap = true) (rest : Text) :
    atoms (gap ++ rest) = gap.map .blank ++ atoms rest := by
  induction gap with
  | nil => rfl
  | cons c gap ih =>
    rw [Text.isBlank, List.all_cons, Bool.and_eq_true] at h
    rw [List.cons_append, atoms_blank h.1, ih h.2]
    rfl

theorem Atom.Plain.wellFormed {a : Atom} (h : a.Plain) : a.WellFormed := by
  cases a with
  | solid c => exact h.1
  | blank c => exact h
  | string t => exact h
  | _ => exact absurd h id

/-- A star at the start of a text is an atom of its own. -/
theorem Atom.Plain.eq_star {a : Atom} (h : a.Plain) {t u : Text} (htext : a.text ++ t = char '*' :: u) :
    a = .solid (char '*') := by
  cases a with
  | solid c =>
    obtain rfl := (List.cons.inj htext).1
    rfl
  | blank c =>
    obtain rfl := (List.cons.inj htext).1
    have hblank : (char '*').isBlank = true := h
    exact absurd hblank (by decide)
  | string t =>
    obtain ⟨q, inside, hquote, rfl, -⟩ := h
    obtain rfl := (List.cons.inj htext).1
    exact absurd hquote (by decide)
  | _ => exact absurd h id

/-- Plain atoms are read as they stand, unless a slash at their end gets a star behind it. -/
theorem atoms_plain {as : List Atom} (has : ∀ a ∈ as, a.Plain)
    (hstar : ¬ [.solid (char '/'), .solid (char '*')] <:+: as) {rest : Text} (hrest : rest.head? ≠ some (char '*')) :
    atoms (textOf as ++ rest) = as ++ atoms rest := by
  induction as with
  | nil => rfl
  | cons a as ih =>
    obtain ⟨ha, hplain⟩ := List.forall_mem_cons.mp has
    have hlater : ¬ [.solid (char '/'), .solid (char '*')] <:+: as :=
      fun hpart => hstar (hpart.trans (List.suffix_cons a as).isInfix)
    have hstands : a.StandsBefore (textOf as ++ rest) := by
      cases a with
      | solid c =>
        refine ⟨fun hquote => absurd hquote ha.2, ?_⟩
        rintro rfl inside hinside
        exfalso
        cases as with
        | nil =>
          have hrest' : rest = char '*' :: inside := hinside
          exact hrest (by rw [hrest']; rfl)
        | cons b as =>
          rw [textOf_cons, List.append_assoc] at hinside
          obtain rfl := (hplain b List.mem_cons_self).eq_star hinside
          exact hstar (List.prefix_append _ as).isInfix
      | _ => trivial
    rw [textOf_cons, List.append_assoc, atoms_text_append ha.wellFormed hstands, ih hplain hlater]
    rfl

theorem Phrase.atoms_append (p : Phrase) {rest : Text} (hrest : rest.head? ≠ some (char '*')) :
    Css.atoms (p.text ++ rest) = p.atoms ++ Css.atoms rest :=
  atoms_plain p.plain p.uncommented hrest

/-! ## Collecting a phrase -/

/-- Whether the statement that has begun ends with a space, so that more white space adds none. -/
def Primed (inRun : Bool) (buffer : Text) : Prop :=
  pad buffer = if inRun then buffer else buffer ++ " "

theorem primed_of_plain {a : Atom} (ha : a.Inner) (buffer : Text) : Primed false (buffer ++ a.text) := by
  obtain ⟨hne, -, hend⟩ := ha.solid
  exact pad_of_endsSolid (List.append_ne_nil_of_right_ne_nil buffer hne) (Text.endsSolid_append hne hend)

theorem collect_plain {as : List Atom} (has : ∀ a ∈ as, a.Plain) {inRun : Bool} {buffer : Text}
    (hbuffer : Primed inRun buffer) (rest : List Atom) :
    collect buffer (as ++ rest) = collect (buffer ++ collapsed inRun as) rest := by
  induction as generalizing inRun buffer with
  | nil => rw [collapsed, List.append_nil, List.nil_append]
  | cons a as ih =>
    obtain ⟨ha, hplain⟩ := List.forall_mem_cons.mp has
    have hinner : a.Inner → (∀ t, a ≠ .comment t) → collapsed inRun (a :: as) = a.text ++ collapsed false as →
        collect buffer (a :: as ++ rest) = collect (buffer ++ collapsed inRun (a :: as)) rest := by
      intro hinner hcomment hcollapsed
      rw [List.cons_append, collect_inner hinner (fun _ => hcomment), ih hplain (primed_of_plain hinner buffer),
        hcollapsed, List.append_assoc]
    cases a with
    | blank c =>
      rw [List.cons_append, collect, hbuffer, collapsed]
      cases inRun with
      | true => exact ih hplain hbuffer
      | false =>
        have hspaced : Primed true (buffer ++ " ") := pad_append_space buffer
        refine (ih hplain hspaced).trans ?_
        rw [List.append_assoc]
        rfl
    | solid c => exact hinner ha.1 (fun t => Atom.noConfusion) rfl
    | string t => exact hinner ha (fun t => Atom.noConfusion) rfl
    | _ => exact absurd ha id

/-- The first atom of a phrase. -/
theorem Phrase.exists_first (p : Phrase) : ∃ a as, p.atoms = a :: as ∧ a.Inner ∧ (∀ t, a ≠ .comment t) ∧
    p.shown = a.text ++ collapsed false as := by
  obtain ⟨as, hplain, -, hne, hstart, -⟩ := p
  cases as with
  | nil => exact absurd rfl hne
  | cons a as =>
    have ha := hplain a List.mem_cons_self
    cases a with
    | solid c => exact ⟨_, as, rfl, ha.1, fun t => Atom.noConfusion, rfl⟩
    | string t => exact ⟨_, as, rfl, ha, fun t => Atom.noConfusion, rfl⟩
    | blank c =>
      have hsolid := hstart c rfl
      rw [show c.isBlank = true from ha] at hsolid
      cases hsolid
    | _ => exact absurd ha id

/-- A phrase is collected as it is shown. -/
theorem Phrase.collect (p : Phrase) (buffer : Text) (rest : List Atom) :
    Css.collect buffer (p.atoms ++ rest) = Css.collect (buffer ++ p.shown) rest := by
  obtain ⟨a, as, hatoms, ha, hcomment, hshown⟩ := p.exists_first
  have has : ∀ b ∈ as, b.Plain := fun b hb => p.plain b (by rw [hatoms]; exact List.mem_cons_of_mem a hb)
  rw [hatoms, hshown, List.cons_append, collect_inner ha (fun _ => hcomment),
    collect_plain has (primed_of_plain ha buffer), List.append_assoc]

/-! ## What is shown of a phrase -/

theorem endsSolid_collapsed {as : List Atom} (has : ∀ a ∈ as, a.Plain) (hend : Text.EndsSolid (textOf as))
    (inRun : Bool) : Text.EndsSolid (collapsed inRun as) ∧ (as ≠ [] → collapsed inRun as ≠ []) := by
  induction as generalizing inRun with
  | nil => exact ⟨Text.endsSolid_nil, fun hne => absurd rfl hne⟩
  | cons a as ih =>
    obtain ⟨ha, hplain⟩ := List.forall_mem_cons.mp has
    have hlater := ih hplain (Text.endsSolid_of_append hend)
    cases a with
    | blank c =>
      -- white space is not the last thing there is
      have hne : as ≠ [] := by
        rintro rfl
        have hsolid := hend c rfl
        rw [show c.isBlank = true from ha] at hsolid
        cases hsolid
      have hmore := (hlater true).2 hne
      cases inRun with
      | true => exact ⟨(hlater true).1, fun _ => hmore⟩
      | false => exact ⟨Text.endsSolid_append (s := [char ' ']) hmore (hlater true).1, fun _ => List.cons_ne_nil _ _⟩
    | solid c =>
      have hsolid : Text.EndsSolid [c] := Text.endsSolid_of_getLast rfl ha.1.1
      exact ⟨hsolid.append (hlater false).1, fun _ => List.cons_ne_nil _ _⟩
    | string t =>
      obtain ⟨hne, -, hsolid⟩ := Atom.Inner.solid (a := .string t) ha
      exact ⟨hsolid.append (hlater false).1, fun _ => List.append_ne_nil_of_left_ne_nil hne _⟩
    | _ => exact absurd ha id

/-- A space is all that is new in what is shown. -/
theorem mem_collapsed {c : CodePoint} {as : List Atom} {inRun : Bool} (h : c ∈ collapsed inRun as) :
    c = char ' ' ∨ c ∈ textOf as := by
  fun_induction collapsed inRun as with
  | case1 => cases h
  | case2 d as ih => exact (ih h).imp_right (List.mem_cons_of_mem d)
  | case3 inRun d as _ ih =>
    rcases List.mem_cons.mp h with rfl | h
    · exact Or.inl rfl
    · exact (ih h).imp_right (List.mem_cons_of_mem d)
  | case4 inRun a as _ ih =>
    rcases List.mem_append.mp h with h | h
    · exact Or.inr (List.mem_append_left _ h)
    · exact (ih h).imp_right (List.mem_append_right _)

theorem Phrase.solid_shown (p : Phrase) : p.shown ≠ [] ∧ Text.StartsSolid p.shown ∧ Text.EndsSolid p.shown := by
  obtain ⟨a, as, -, ha, -, hshown⟩ := p.exists_first
  obtain ⟨hne, hstart, -⟩ := ha.solid
  refine ⟨?_, ?_, (endsSolid_collapsed p.plain p.ends false).1⟩
  · rw [hshown]
    exact List.append_ne_nil_of_left_ne_nil hne _
  · rw [hshown]
    exact Text.startsSolid_append hne hstart _

/-- Behind a phrase, white space is collected as one space or none. -/
theorem Phrase.exists_collect (p : Phrase) (buffer w : Text) (rest : List Atom) :
    ∃ spaces, (spaces = [] ∨ spaces = [char ' ']) ∧
      Css.collect buffer (p.atoms ++ (w.map .blank ++ rest)) = Css.collect (buffer ++ p.shown ++ spaces) rest := by
  obtain ⟨hne, -, hend⟩ := p.solid_shown
  obtain ⟨spaces, hspaces, hgap⟩ := exists_collect_gap (List.append_ne_nil_of_right_ne_nil buffer hne)
    (Text.endsSolid_append hne hend) w rest
  exact ⟨spaces, hspaces, by rw [p.collect, hgap]⟩

/-- The phrase as the selector of a block. -/
theorem Phrase.collect_opening (p : Phrase) (w : Text) (rest : List Atom) :
    Css.collect [] (p.atoms ++ (w.map .blank ++ .openBrace :: rest)) = .opening p.shown :: Css.collect [] rest := by
  obtain ⟨-, hstart, hend⟩ := p.solid_shown
  obtain ⟨spaces, hspaces, hcollect⟩ := p.exists_collect [] w (.openBrace :: rest)
  rw [hcollect, List.nil_append, Css.collect, Text.trim_append_tail (isBlank_of_space hspaces),
    Text.trim_of_solid hstart hend]

end Tidy.Css
