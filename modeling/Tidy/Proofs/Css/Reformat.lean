/-
# Tidy.Proofs.Css.Reformat -- what the layout of a style sheet keeps, and laying it out a second time

The atoms of a style sheet make up its parts (`exists_groups`), normalising declarations edits the parts
(`exists_settled`), and the layout sets the edited parts apart by white space (`Laid`). None of these steps changes
what is lexed, so the parts of the layout are read back as they were written, and laying them out again at another
width gives what the first layout would have been at that width (`format_format`). Each step keeps the whole tokens but
for the semicolons and the space in normalised declarations (`whole_format`), so the layout has all the content of its
source (`format_keeps_content`).
-/

import Tidy.Proofs.Css.Breaks
import Tidy.Proofs.Css.Colons
import Tidy.Proofs.Css.Separate

namespace Tidy.Css

open CodePoint (char)

/-! ## Parts -/

/-- A part of a style sheet, with the atoms of its statement. -/
inductive Part where
  | note (t : Text)
  | opening (selector : List Atom)
  | closing
  | declaration (body : List Atom) (ended : Bool)

/-- The piece that the part is. -/
def Part.piece : Part → Piece
  | note t => .comment t
  | opening selector => .opening (textOf selector)
  | closing => .closing
  | declaration body ended => .declaration (textOf body) ended

/-- The atoms of the part, with no white space around them. -/
def Part.atoms : Part → List Atom
  | note t => [.comment t]
  | opening selector => selector ++ [.openBrace]
  | closing => [.closeBrace]
  | declaration body true => body ++ [.semicolon]
  | declaration body false => body

/-- The part is made of statements, and another part may follow it. -/
def Part.Closed : Part → Prop
  | note t => (Atom.comment t).WellFormed
  | opening selector => selector = [] ∨ Statement selector
  | closing => True
  | declaration body ended => ended = true ∧ Statement body

/-- The parts of a style sheet: only the last one may be without an end. -/
inductive Sheet : List Part → Prop
  | nil : Sheet []
  | unended {body : List Atom} : Statement body → Sheet [.declaration body false]
  | cons {p : Part} {ps : List Part} : p.Closed → Sheet ps → Sheet (p :: ps)

theorem Sheet.statement {body : List Atom} (h : Sheet [.declaration body false]) : Statement body := by
  cases h with
  | unended hbody => exact hbody
  | cons hp _ => exact hp.2

/-! ## White space around the end of a statement -/

theorem loose_map_blank {w : Text} (h : Text.isBlank w = true) : ∀ l ∈ w.map Atom.blank, l.Loose := by
  intro l hl
  obtain ⟨c, hc, rfl⟩ := List.mem_map.mp hl
  exact List.all_eq_true.mp h c hc

/-- White space before the end of a statement is taken out. -/
theorem Edits.close {as us : List Atom} (h : Edits true as us) (b : List Atom) {w : Text} (hw : Text.isBlank w = true)
    (e e' : Atom) (he : e.Loose) (he' : e'.Loose) : Edits true (b ++ (w.map .blank ++ e :: as)) (b ++ e' :: us) := by
  refine Edits.keeps ?_ b true
  intro reset
  have hloose := loose_map_blank hw
  cases w with
  | nil => exact .swap he he' h
  | cons c w =>
    obtain ⟨hc, hloose⟩ := List.forall_mem_cons.mp hloose
    exact .swap hc he' (Edits.drops (.drop he h) hloose)

/-- White space before the end of a statement is put in. -/
theorem Edits.spread {as us : List Atom} (h : Edits true as us) (b : List Atom) {w : Text} (hw : Text.isBlank w = true)
    (e : Atom) (he : e.Loose) : Edits true (b ++ e :: as) (b ++ (w.map .blank ++ e :: us)) := by
  refine Edits.keeps ?_ b true
  intro reset
  have hloose := loose_map_blank hw
  cases w with
  | nil => exact .swap he he h
  | cons c w =>
    obtain ⟨hc, hloose⟩ := List.forall_mem_cons.mp hloose
    exact .swap he hc (Edits.adds (.add he h) hloose)

/-! ## The parts of a list of atoms -/

theorem Statement.append {b as : List Atom} (hb : Statement b) (has : Run as) : Statement (b ++ as) := by
  obtain ⟨ha, hcomment, hrun⟩ := hb
  exact .intro ha hcomment (hrun.append has)

/-- What has been read of a statement: nothing, or a statement and perhaps a space after it. -/
inductive Begun : List Atom → Prop
  | nil : Begun []
  | statement {b : List Atom} {w : Text} : Statement b → w = [] ∨ w = [char ' '] → Begun (b ++ w.map .blank)

/-- The parts that a list of atoms makes up, where `before` has been read of a statement. -/
structure Groups (before as : List Atom) (ps : List Part) : Prop where
  sheet : Sheet ps
  pieces : collect (textOf before) as = ps.map Part.piece
  edits : Edits true (before ++ as) (ps.flatMap Part.atoms)
  whole : wholeOf (ps.flatMap Part.atoms) = wholeOf before ++ punctuated (!before.isEmpty) (wholeOf as)

/-- White space after a statement is no token, and the statement has begun. -/
theorem Statement.wholeOf_begun {b : List Atom} (hb : Statement b) (w : Text) (ts : List Token) :
    wholeOf (b ++ w.map Atom.blank) ++ punctuated (!(b ++ w.map Atom.blank).isEmpty) ts =
      wholeOf b ++ punctuated true ts := by
  have hbegun : (!(b ++ w.map Atom.blank).isEmpty) = true := by
    obtain ⟨-, -, -⟩ := hb
    rfl
  rw [hbegun, wholeOf_append, wholeOf_map_blank, List.append_nil]

theorem punctuated_inner {a : Atom} (ha : a.Inner) {begun : Bool} (hcomment : ∀ t, a = .comment t → begun = true)
    (ts : List Token) : punctuated begun (a.whole ++ ts) = a.whole ++ punctuated true ts := by
  cases a with
  | solid c => rfl
  | string t => rfl
  | comment t =>
    obtain rfl := hcomment t rfl
    rfl
  | _ => exact absurd ha id

theorem Begun.inner {before : List Atom} (h : Begun before) {a : Atom} (ha : a.Inner)
    (hcomment : before = [] → ∀ t, a ≠ .comment t) : Statement (before ++ [a]) := by
  cases h with
  | nil => exact .intro ha (hcomment rfl) .nil
  | statement hb hw =>
    rw [List.append_assoc]
    refine hb.append ?_
    rcases hw with rfl | rfl
    · exact .inner ha .nil
    · exact .gap ha .nil

theorem Begun.eq_nil {before : List Atom} (h : Begun before) (hnil : textOf before = []) : before = [] := by
  cases h with
  | nil => rfl
  | statement hb _ =>
    rw [textOf_append, List.append_eq_nil_iff] at hnil
    exact absurd hnil.1 hb.solid.1

theorem Groups.inner {before : List Atom} (h : Begun before) {a : Atom} (ha : a.Inner)
    (hcomment : before = [] → ∀ t, a ≠ .comment t) {as : List Atom} {ps : List Part}
    (hps : Groups (before ++ [a]) as ps) : Groups before (a :: as) ps where
  sheet := hps.sheet
  pieces := by
    rw [collect_inner ha (fun hnil => hcomment (h.eq_nil hnil)), ← hps.pieces, textOf_append, textOf_cons, textOf_nil,
      List.append_nil]
  edits := by
    have hedits := hps.edits
    rwa [List.append_assoc] at hedits
  whole := by
    have hbegun : (!(before ++ [a]).isEmpty) = true := by simp
    rw [hps.whole, hbegun, wholeOf_append, wholeOf_cons, wholeOf_cons, punctuated_inner ha, wholeOf_nil,
      List.append_nil, List.append_assoc]
    intro t ht
    simpa using fun hnil => hcomment hnil t ht

theorem Groups.space {before : List Atom} {c : CodePoint} (hc : c.isBlank = true) {as : List Atom}
    (ih : ∀ before, Begun before → ∃ ps, Groups before as ps) (h : Begun before) :
    ∃ ps, Groups before (.blank c :: as) ps := by
  cases h with
  | nil =>
    obtain ⟨ps, hsheet, hpieces, hedits, hwhole⟩ := ih [] .nil
    exact ⟨ps, hsheet, hpieces, .drop hc hedits, hwhole⟩
  | @statement b w hb hw =>
    obtain ⟨hne, -, hend⟩ := hb.solid
    obtain ⟨ps, hsheet, hpieces, hedits, hwhole⟩ := ih (b ++ [.blank (char ' ')]) (.statement hb (Or.inr rfl))
    rw [List.append_assoc] at hedits
    refine ⟨ps, hsheet, ?_, ?_, ?_⟩
    · rw [← hpieces, collect, textOf_append, textOf_append, textOf_map_blank]
      rcases hw with rfl | rfl
      · rw [List.append_nil, pad_of_endsSolid hne hend]
        rfl
      · exact congrArg (collect · as) (pad_append_space (textOf b))
    · have hspace : (Atom.blank (char ' ')).Loose := rfl
      have hloose : (Atom.blank c).Loose := hc
      rw [List.append_assoc]
      rcases hw with rfl | rfl
      · exact hedits.loosen hspace hloose (List.forall_mem_nil _)
      · show Edits true (b ++ .blank (char ' ') :: ([.blank c] ++ as)) _
        exact hedits.loosen hspace hspace (List.forall_mem_cons.mpr ⟨hloose, List.forall_mem_nil _⟩)
    · have hspace := hb.wholeOf_begun [char ' '] (wholeOf as)
      rw [hb.wholeOf_begun]
      exact hwhole.trans hspace

/-- A statement at the end of a list of atoms. -/
theorem Statement.groups_nil {b : List Atom} (hb : Statement b) {w : Text} (hw : Text.isBlank w = true) :
    Groups (b ++ w.map .blank) [] [.declaration b false] where
  sheet := .unended hb
  pieces := by
    rw [textOf_append, textOf_map_blank, Css.collect, hb.flush hw]
    rfl
  edits := by
    rw [List.append_assoc, List.append_nil]
    exact Edits.keeps (fun _ => .stop (loose_map_blank hw)) b true
  whole := by
    rw [hb.wholeOf_begun, List.flatMap_singleton]
    exact (List.append_nil _).symm

section Ends

variable {b : List Atom} (hb : Statement b) {w : Text} (hw : Text.isBlank w = true) {as : List Atom} {ps : List Part}
  (hps : Groups [] as ps)
include hb hw hps

theorem Groups.opening : Groups (b ++ w.map .blank) (.openBrace :: as) (.opening b :: ps) where
  sheet := .cons (.inr hb) hps.sheet
  pieces := by
    rw [textOf_append, textOf_map_blank, collect, hb.trim hw]
    exact congrArg (Piece.opening (textOf b) :: ·) hps.pieces
  edits := by
    rw [List.flatMap_cons, Part.atoms, List.append_assoc, List.append_assoc]
    exact hps.edits.close b hw .openBrace .openBrace trivial trivial
  whole := by
    rw [hb.wholeOf_begun, List.flatMap_cons, Part.atoms, List.append_assoc, wholeOf_append]
    exact congrArg (fun ts => wholeOf b ++ .openBrace :: ts) hps.whole

/-- A statement that a closing brace ends gets the semicolon it lacks. -/
theorem Groups.closing :
    Groups (b ++ w.map .blank) (.closeBrace :: as) (.declaration b true :: .closing :: ps) where
  sheet := .cons ⟨rfl, hb⟩ (.cons trivial hps.sheet)
  pieces := by
    rw [textOf_append, textOf_map_blank, collect, hb.flush hw]
    exact congrArg (Piece.declaration (textOf b) true :: Piece.closing :: ·) hps.pieces
  edits := by
    rw [List.flatMap_cons, Part.atoms, List.append_assoc, List.append_assoc]
    have hadded : Edits true as (.closeBrace :: ps.flatMap Part.atoms) := .add trivial hps.edits
    exact hadded.close b hw .closeBrace .semicolon trivial trivial
  whole := by
    rw [hb.wholeOf_begun, List.flatMap_cons, Part.atoms, List.append_assoc, wholeOf_append]
    exact congrArg (fun ts => wholeOf b ++ .semicolon :: .closeBrace :: ts) hps.whole

theorem Groups.ended : Groups (b ++ w.map .blank) (.semicolon :: as) (.declaration b true :: ps) where
  sheet := .cons ⟨rfl, hb⟩ hps.sheet
  pieces := by
    rw [textOf_append, textOf_map_blank, collect, hb.flush hw]
    exact congrArg (Piece.declaration (textOf b) true :: ·) hps.pieces
  edits := by
    rw [List.flatMap_cons, Part.atoms, List.append_assoc, List.append_assoc]
    exact hps.edits.close b hw .semicolon .semicolon trivial trivial
  whole := by
    rw [hb.wholeOf_begun, List.flatMap_cons, Part.atoms, List.append_assoc, wholeOf_append]
    exact congrArg (fun ts => wholeOf b ++ .semicolon :: ts) hps.whole

end Ends

/-- The atoms make up parts. The induction puts what has been read of a statement back in front of the rest. -/
theorem exists_groups {as : List Atom} (has : ∀ a ∈ as, a.WellFormed) {before : List Atom} (h : Begun before) :
    ∃ ps, Groups before as ps := by
  induction as generalizing before with
  | nil =>
    cases h with
    | nil => exact ⟨[], .nil, rfl, .stop (List.forall_mem_nil _), rfl⟩
    | statement hb hw => exact ⟨_, hb.groups_nil (isBlank_of_space hw)⟩
  | cons a as ih =>
    obtain ⟨ha, has⟩ := List.forall_mem_cons.mp has
    have ih : ∀ before, Begun before → ∃ ps, Groups before as ps := fun before => ih has
    -- what comes next where the atom ends a statement, and where none has begun
    obtain ⟨rest, hrest⟩ := ih [] .nil
    have hinner : a.Inner → (before = [] → ∀ t, a ≠ .comment t) → ∃ ps, Groups before (a :: as) ps := by
      intro hinner hcomment
      have hbegun : Begun (before ++ [a] ++ ([] : Text).map .blank) := .statement (h.inner hinner hcomment) (Or.inl rfl)
      obtain ⟨ps, hps⟩ := ih _ hbegun
      rw [List.map_nil, List.append_nil] at hps
      exact ⟨ps, hps.inner h hinner hcomment⟩
    cases a with
    | solid c => exact hinner ha (fun _ _ heq => by cases heq)
    | string t => exact hinner ha (fun _ _ heq => by cases heq)
    | blank c => exact Groups.space ha ih h
    -- a part of its own only where no statement has begun
    | comment t =>
      cases h with
      | nil =>
        exact ⟨.note t :: rest, .cons ha hrest.sheet, congrArg (Piece.comment t :: ·) hrest.pieces, .keep hrest.edits,
          congrArg (Token.comment t :: ·) hrest.whole⟩
      | statement hb _ =>
        refine hinner ha ?_
        intro hnil
        have hne := hb.solid.1
        rw [(List.append_eq_nil_iff.mp hnil).1] at hne
        exact absurd rfl hne
    | openBrace =>
      cases h with
      | nil =>
        exact ⟨.opening [] :: rest, .cons (Or.inl rfl) hrest.sheet, congrArg (Piece.opening [] :: ·) hrest.pieces,
          .keep hrest.edits, congrArg (Token.openBrace :: ·) hrest.whole⟩
      | statement hb hw => exact ⟨_, .opening hb (isBlank_of_space hw) hrest⟩
    | closeBrace =>
      cases h with
      | nil =>
        exact ⟨.closing :: rest, .cons trivial hrest.sheet, congrArg (Piece.closing :: ·) hrest.pieces,
          .keep hrest.edits, congrArg (Token.closeBrace :: ·) hrest.whole⟩
      | statement hb hw => exact ⟨_, .closing hb (isBlank_of_space hw) hrest⟩
    | semicolon =>
      cases h with
      | nil => exact ⟨rest, hrest.sheet, hrest.pieces, .drop trivial hrest.edits, hrest.whole⟩
      | statement hb hw => exact ⟨_, .ended hb (isBlank_of_space hw) hrest⟩

/-! ## Parts with white space between them -/

/-- The atoms are the parts, with white space before parts and before the ends of statements. -/
inductive Laid : List Part → List Atom → Prop
  | nil : Laid [] []
  | unended {body : List Atom} : Laid [.declaration body false] body
  | blank {c : CodePoint} {ps : List Part} {us : List Atom} :
      c.isBlank = true → ps ≠ [] → Laid ps us → Laid ps (.blank c :: us)
  | note {t : Text} {ps : List Part} {us : List Atom} : Laid ps us → Laid (.note t :: ps) (.comment t :: us)
  | opening {selector : List Atom} {w : Text} {ps : List Part} {us : List Atom} :
      Text.isBlank w = true → Laid ps us →
      Laid (.opening selector :: ps) (selector ++ (w.map .blank ++ .openBrace :: us))
  | closing {ps : List Part} {us : List Atom} : Laid ps us → Laid (.closing :: ps) (.closeBrace :: us)
  | ended {body : List Atom} {w : Text} {ps : List Part} {us : List Atom} :
      Text.isBlank w = true → Laid ps us →
      Laid (.declaration body true :: ps) (body ++ (w.map .blank ++ .semicolon :: us))

theorem Laid.blanks {ps : List Part} {us : List Atom} (h : Laid ps us) (hne : ps ≠ []) {w : Text}
    (hw : Text.isBlank w = true) : Laid ps (w.map .blank ++ us) := by
  induction w with
  | nil => exact h
  | cons c w ih =>
    rw [Text.isBlank, List.all_cons, Bool.and_eq_true] at hw
    exact .blank hw.1 hne (ih hw.2)

theorem Laid.edits {ps : List Part} {us : List Atom} (h : Laid ps us) : Edits true (ps.flatMap Part.atoms) us := by
  induction h with
  | nil => exact .stop (List.forall_mem_nil _)
  | @unended body =>
    have hkept := Edits.keeps (fun _ => .stop (List.forall_mem_nil _)) body true
    rw [List.append_nil] at hkept
    rw [List.flatMap_singleton]
    exact hkept
  | blank hc _ _ ih => exact .add hc ih
  | note _ ih => exact .keep ih
  | opening hw _ ih =>
    rw [List.flatMap_cons, Part.atoms, List.append_assoc]
    exact ih.spread _ hw .openBrace trivial
  | closing _ ih => exact .keep ih
  | ended hw _ ih =>
    rw [List.flatMap_cons, Part.atoms, List.append_assoc]
    exact ih.spread _ hw .semicolon trivial

theorem Laid.whole {ps : List Part} {us : List Atom} (h : Laid ps us) :
    wholeOf us = wholeOf (ps.flatMap Part.atoms) := by
  induction h with
  | nil => rfl
  | unended => rw [List.flatMap_singleton, Part.atoms]
  | blank _ _ _ ih => exact ih
  | @note t _ _ _ ih => exact congrArg (Token.comment t :: ·) ih
  | @opening selector w _ us _ _ ih =>
    rw [wholeOf_append, wholeOf_append, wholeOf_map_blank, List.flatMap_cons, Part.atoms, List.append_assoc,
      wholeOf_append]
    exact congrArg (fun ts => wholeOf selector ++ .openBrace :: ts) ih
  | closing _ ih => exact congrArg (Token.closeBrace :: ·) ih
  | @ended body w _ us _ _ ih =>
    rw [wholeOf_append, wholeOf_append, wholeOf_map_blank, List.flatMap_cons, Part.atoms, List.append_assoc,
      wholeOf_append]
    exact congrArg (fun ts => wholeOf body ++ .semicolon :: ts) ih

/-- Collecting the atoms gives the parts back. -/
theorem Laid.collect {ps : List Part} {us : List Atom} (h : Laid ps us) (hps : Sheet ps) :
    collect [] us = ps.map Part.piece := by
  induction h with
  | nil => rfl
  | @unended body =>
    have hbody := hps.statement
    rw [← List.append_nil body, hbody.collect, Css.collect, ← List.append_nil (textOf body), hbody.flush rfl,
      List.append_nil]
    rfl
  | blank _ _ _ ih => exact ih hps
  | note _ ih =>
    cases hps with
    | cons _ hps => exact congrArg _ (ih hps)
  | @opening selector w ps us _ _ ih =>
    cases hps with
    | cons hp hps =>
      rcases hp with rfl | hselector
      · rw [List.nil_append, collect_map_blank pad_nil]
        exact congrArg _ (ih hps)
      · obtain ⟨tail, htail, hgap⟩ := hselector.collect_gap w (.openBrace :: us)
        rw [hselector.collect, hgap, Css.collect, hselector.trim htail]
        exact congrArg _ (ih hps)
  | closing _ ih =>
    cases hps with
    | cons _ hps => exact congrArg _ (ih hps)
  | @ended body w ps us _ _ ih =>
    cases hps with
    | cons hp hps =>
      obtain ⟨tail, htail, hgap⟩ := hp.2.collect_gap w (.semicolon :: us)
      rw [hp.2.collect, hgap, Css.collect, hp.2.flush htail]
      exact congrArg _ (ih hps)

/-- The text does not end with white space, and it is empty only if there are no parts. -/
theorem Laid.endsSolid {ps : List Part} {us : List Atom} (h : Laid ps us) (hps : Sheet ps) :
    Text.EndsSolid (textOf us) ∧ (ps ≠ [] → textOf us ≠ []) := by
  -- what ends a statement is no white space
  have hmark : ∀ (before : Text) (c : CodePoint) {after : Text}, c.isBlank = false → Text.EndsSolid after →
      Text.EndsSolid (before ++ c :: after) ∧ before ++ c :: after ≠ [] := by
    intro before c after hc hafter
    have hend : Text.EndsSolid [c] := Text.endsSolid_of_getLast rfl hc
    refine ⟨Text.endsSolid_append (List.cons_ne_nil _ _) (hend.append hafter), ?_⟩
    exact List.append_ne_nil_of_right_ne_nil _ (List.cons_ne_nil _ _)
  induction h with
  | nil => exact ⟨Text.endsSolid_nil, fun hne => absurd rfl hne⟩
  | @unended body =>
    have hbody := hps.statement
    exact ⟨hbody.solid.2.2, fun _ => hbody.solid.1⟩
  | blank _ hne _ ih => exact ⟨Text.endsSolid_append ((ih hps).2 hne) (ih hps).1, fun _ => List.cons_ne_nil _ _⟩
  | @note t ps us _ ih =>
    cases hps with
    | cons hp hps =>
      have hinner : (Atom.comment t).Inner := hp
      obtain ⟨hne, -, hend⟩ := hinner.solid
      exact ⟨hend.append (ih hps).1, fun _ => List.append_ne_nil_of_left_ne_nil hne _⟩
  | opening _ _ ih =>
    cases hps with
    | cons _ hps =>
      rw [textOf_append, textOf_append, ← List.append_assoc]
      exact ⟨(hmark _ (char '{') rfl (ih hps).1).1, fun _ => (hmark _ (char '{') rfl (ih hps).1).2⟩
  | closing _ ih =>
    cases hps with
    | cons _ hps => exact ⟨(hmark [] (char '}') rfl (ih hps).1).1, fun _ => List.cons_ne_nil _ _⟩
  | ended _ _ ih =>
    cases hps with
    | cons _ hps =>
      rw [textOf_append, textOf_append, ← List.append_assoc]
      exact ⟨(hmark _ (char ';') rfl (ih hps).1).1, fun _ => (hmark _ (char ';') rfl (ih hps).1).2⟩

theorem Laid.trimStart {ps : List Part} {us : List Atom} (h : Laid ps us) (hps : Sheet ps) :
    ∃ vs, Laid ps vs ∧ textOf vs = Text.trimStart (textOf us) := by
  have hsame : ∀ {ps : List Part} {us : List Atom}, Laid ps us → Text.StartsSolid (textOf us) →
      ∃ vs, Laid ps vs ∧ textOf vs = Text.trimStart (textOf us) :=
    fun hlaid hstart => ⟨_, hlaid, (Text.trimStart_of_startsSolid hstart).symm⟩
  induction h with
  | nil => exact hsame .nil (fun c hc => nomatch hc)
  | unended =>
    exact hsame .unended hps.statement.solid.2.1
  | blank hc _ _ ih =>
    obtain ⟨vs, hvs, htext⟩ := ih hps
    refine ⟨vs, hvs, ?_⟩
    rw [htext, textOf_cons, Text.trimStart_append_of_isBlank]
    rw [Atom.text, Text.isBlank, List.all_cons, hc]
    rfl
  | note hlaid _ =>
    refine hsame hlaid.note ?_
    cases hps with
    | cons hp _ =>
      have hinner : (Atom.comment _).Inner := hp
      exact Text.startsSolid_append hinner.solid.1 hinner.solid.2.1 _
  | @opening selector w ps us hw hlaid _ =>
    cases hps with
    | cons hp _ =>
      rcases hp with rfl | hselector
      · -- without a selector the white space before the brace goes too
        have hopen : Laid (.opening [] :: ps) ([] ++ (([] : Text).map .blank ++ .openBrace :: us)) := .opening rfl hlaid
        have hsolid : Text.StartsSolid (textOf (.openBrace :: us)) := Text.startsSolid_of_head rfl rfl
        refine ⟨_, hopen, ?_⟩
        show textOf (.openBrace :: us) = Text.trimStart (textOf (w.map .blank ++ .openBrace :: us))
        rw [textOf_append, textOf_map_blank, Text.trimStart_append_of_isBlank hw, Text.trimStart_of_startsSolid hsolid]
      · refine hsame (hlaid.opening hw) ?_
        rw [textOf_append]
        exact Text.startsSolid_append hselector.solid.1 hselector.solid.2.1 _
  | closing hlaid _ => exact hsame hlaid.closing (Text.startsSolid_of_head rfl rfl)
  | ended hw hlaid _ =>
    refine hsame (hlaid.ended hw) ?_
    cases hps with
    | cons hp _ =>
      rw [textOf_append]
      exact Text.startsSolid_append hp.2.solid.1 hp.2.solid.2.1 _

/-! ## Rendering -/

theorem place_flush_append (depth : Nat) (buffer : Text) (ended : Bool) (ps : List Piece) :
    place depth (flush buffer ended ++ ps) = place depth (flush buffer ended) ++ place depth ps := by
  rw [flush]
  split <;> rfl

theorem place_eq_nil_iff (depth : Nat) (ps : List Part) : place depth (ps.map Part.piece) = [] ↔ ps = [] := by
  cases ps with
  | nil => exact ⟨fun _ => rfl, fun _ => rfl⟩
  | cons p ps => cases p <;> simp [Part.piece, place]

/-- The parts `ps` at a depth, with their declarations normalised, are the parts `qs`. -/
structure Settled (depth : Nat) (ps qs : List Part) : Prop where
  sheet : Sheet qs
  place : place depth (qs.map Part.piece) = place depth (ps.map Part.piece)
  edits : Edits true (ps.flatMap Part.atoms) (qs.flatMap Part.atoms)
  whole : wholeOf (qs.flatMap Part.atoms) = recolon depth [] (wholeOf (ps.flatMap Part.atoms))
  laid : ∀ width, ∃ us tail, Laid qs us ∧ Tight 0 us ∧ Text.isBlank tail = true ∧
    Layout.render width (separate (Css.place depth (qs.map Part.piece))) = textOf us ++ tail

/-- One more entry, whose line is made of the atoms `line`. -/
theorem laid_cons {depth : Nat} {qs : List Part} {q : Part} {e : Entry} (line : List Atom)
    (hline : e.content = textOf line) (hone : OneLine line)
    (hq : ∀ us, Laid qs us → Laid (q :: qs) (line ++ us)) (width : Nat)
    (h : ∃ us tail, Laid qs us ∧ Tight 0 us ∧ Text.isBlank tail = true ∧
      Layout.render width (separate (place depth (qs.map Part.piece))) = textOf us ++ tail) :
    ∃ us tail, Laid (q :: qs) us ∧ Tight 0 us ∧ Text.isBlank tail = true ∧
      Layout.render width (separate (e :: place depth (qs.map Part.piece))) = textOf us ++ tail := by
  obtain ⟨us, tail, hus, htight, htail, hrender⟩ := h
  have hindent := Text.isBlank_spaces (width * e.depth)
  have hindented : ∀ {as}, Tight 2 as → Tight 0 ((Text.spaces (width * e.depth)).map .blank ++ (line ++ as)) := by
    intro as has
    rw [← List.append_assoc]
    exact (hone.append (ne_lineFeed_spaces _)).tight has
  by_cases hqs : qs = []
  · -- no break after the last entry
    subst hqs
    refine ⟨(Text.spaces (width * e.depth)).map .blank ++ (line ++ []), [],
      (hq [] .nil).blanks (List.cons_ne_nil _ _) hindent, hindented (tight_nil 2), rfl, ?_⟩
    rw [textOf_append, textOf_map_blank, List.append_nil, List.append_nil, ← hline]
    rfl
  · obtain ⟨w, hw, hbreak⟩ := render_separate_cons width e (mt (place_eq_nil_iff depth qs).mp hqs)
    have hblank : Text.isBlank w = true := by rcases hw with rfl | rfl <;> rfl
    refine ⟨(Text.spaces (width * e.depth)).map .blank ++ (line ++ (w.map .blank ++ us)), tail,
      (hq _ (hus.blanks hqs hblank)).blanks (List.cons_ne_nil _ _) hindent, hindented (htight.break hw), htail, ?_⟩
    rw [hbreak, hrender, Layout.line, hline]
    simp only [textOf_append, textOf_map_blank, List.append_assoc]

/-- The semicolon after a declaration, if it has one. -/
def endMark (ended : Bool) : Text :=
  if ended then [char ';'] else []

theorem declarationLine_eq (depth : Nat) (text : Text) (ended : Bool) : declarationLine depth text ended =
    (if depth = 0 then text else normalizeDeclaration text) ++ endMark ended := by
  cases ended with
  | true => rfl
  | false => exact (List.append_nil _).symm

/-- The body of a declaration, as it stands at a depth. -/
theorem exists_body {b : List Atom} (hb : Statement b) (depth : Nat) : ∃ b' tail, Statement b' ∧
    (tail = [] ∨ tail = [char ' ']) ∧
    (∀ ended, declarationLine depth (textOf b') ended = declarationLine depth (textOf b) ended ∧
      declarationLine depth (textOf b') ended = textOf b' ++ (tail ++ endMark ended)) ∧
    (∀ xs ys, (∀ reset, Edits reset xs ys) → ∀ reset, Edits reset (b ++ xs) (b' ++ ys)) ∧
    wholeOf b' = declared depth (wholeOf b) := by
  by_cases hdepth : depth = 0
  · -- outside of all blocks nothing is normalised
    refine ⟨b, [], hb, Or.inl rfl, ?_, fun xs ys hedits => Edits.keeps hedits b, (if_pos hdepth).symm⟩
    intro ended
    rw [declarationLine_eq, if_pos hdepth]
    exact ⟨rfl, rfl⟩
  · obtain ⟨b', hb', hrespaced, hsame⟩ := exists_respaced hb
    obtain ⟨tail, htail, htext⟩ := hrespaced.text
    rw [List.nil_append, List.nil_append] at htext
    have hspace := normalizeDeclaration_tail hb.solid.2.2 hb'.solid.2.2 htail htext
    refine ⟨b', tail, hb', hspace, ?_, hrespaced.edits, hrespaced.whole.trans (if_neg hdepth).symm⟩
    intro ended
    rw [declarationLine_eq, declarationLine_eq, if_neg hdepth, if_neg hdepth, hsame, htext]
    exact ⟨rfl, List.append_assoc _ _ _⟩

theorem exists_openingLine {selector : List Atom} (h : selector = [] ∨ Statement selector) :
    ∃ w, (w = [] ∨ w = [char ' ']) ∧
      openingLine (textOf selector) = textOf (selector ++ (w.map .blank ++ [.openBrace])) := by
  rcases h with rfl | hselector
  · exact ⟨[], Or.inl rfl, rfl⟩
  · refine ⟨[char ' '], Or.inr rfl, ?_⟩
    rw [openingLine, if_neg (by simpa using hselector.solid.1), textOf_append]
    rfl

/-- The space after the colon of an empty value stays at the end of the sheet. -/
theorem Statement.exists_settled {b : List Atom} (hb : Statement b) (depth : Nat) :
    ∃ qs, Settled depth [.declaration b false] qs := by
  obtain ⟨b', tail, hb', htail, hlines, hedits, hwhole⟩ := exists_body hb depth
  obtain ⟨hsame, hline⟩ := hlines false
  refine ⟨[.declaration b' false], .unended hb', ?_, ?_, ?_, ?_⟩
  · exact congrArg (fun content => [Entry.mk depth content]) hsame
  · have hkept := hedits [] [] (fun _ => .stop (List.forall_mem_nil _)) true
    simpa only [List.flatMap_singleton, Part.atoms, List.append_nil] using hkept
  · have hgathered := hb.recolon depth []
    rw [List.append_nil] at hgathered
    simp only [List.flatMap_singleton, Part.atoms, hgathered]
    exact hwhole
  · intro width
    have hindent := Text.isBlank_spaces (width * depth)
    have hone : OneLine b' := ⟨(fun hnil => hb'.solid.1 (by rw [hnil]; rfl)), hb'.ne_lineFeed⟩
    refine ⟨(Text.spaces (width * depth)).map .blank ++ b', tail,
      Laid.unended.blanks (List.cons_ne_nil _ _) hindent, ?_, isBlank_of_space htail, ?_⟩
    · have htight := (hone.append (ne_lineFeed_spaces (width * depth))).tight (tight_nil 2)
      rwa [List.append_nil] at htight
    show Text.spaces (width * depth) ++ declarationLine depth (textOf b') false = _
    rw [hline, textOf_append, textOf_map_blank, List.append_assoc]
    exact congrArg (fun t => _ ++ (textOf b' ++ t)) (List.append_nil tail)

theorem Settled.note {t : Text} (ht : (Atom.comment t).WellFormed) {depth : Nat} {ps qs : List Part}
    (h : Settled depth ps qs) : Settled depth (.note t :: ps) (.note t :: qs) where
  sheet := .cons ht h.sheet
  place := congrArg (Entry.mk depth t :: ·) h.place
  edits := .keep h.edits
  whole := congrArg (wholeOf [.comment t] ++ ·) h.whole
  laid width := laid_cons [.comment t] (List.append_nil t).symm (oneLine_singleton Atom.noConfusion)
    (fun _ hus => hus.note) width (h.laid width)

theorem Settled.opening {selector : List Atom} (hselector : selector = [] ∨ Statement selector) {depth : Nat}
    {ps qs : List Part} (h : Settled (depth + 1) ps qs) :
    Settled depth (.opening selector :: ps) (.opening selector :: qs) where
  sheet := .cons hselector h.sheet
  place := congrArg (Entry.mk depth _ :: ·) h.place
  edits := by
    rw [List.flatMap_cons, List.flatMap_cons, Part.atoms, List.append_assoc, List.append_assoc]
    exact h.edits.close selector (w := []) rfl .openBrace .openBrace trivial trivial
  whole := by
    rw [List.flatMap_cons, List.flatMap_cons, Part.atoms, List.append_assoc, List.append_assoc,
      wholeOf_append selector, wholeOf_append selector]
    refine (congrArg (fun ts => wholeOf selector ++ .openBrace :: ts) h.whole).trans ?_
    rcases hselector with rfl | hselector
    · rfl
    · rw [hselector.recolon]
      rfl
  laid := by
    intro width
    obtain ⟨w, hw, hline⟩ := exists_openingLine hselector
    refine laid_cons (selector ++ (w.map .blank ++ [.openBrace])) hline ?_ ?_ width (h.laid width)
    · refine ((oneLine_singleton Atom.noConfusion).append (ne_lineFeed_space hw)).append ?_
      rcases hselector with rfl | hselector
      · exact List.forall_mem_nil _
      · exact hselector.ne_lineFeed
    · intro us hus
      rw [List.append_assoc, List.append_assoc]
      exact hus.opening (isBlank_of_space hw)

theorem Settled.closing {depth : Nat} {ps qs : List Part} (h : Settled (depth - 1) ps qs) :
    Settled depth (.closing :: ps) (.closing :: qs) where
  sheet := .cons trivial h.sheet
  place := congrArg (Entry.mk (depth - 1) closingLine :: ·) h.place
  edits := .keep h.edits
  whole := by
    refine (congrArg (Token.closeBrace :: ·) h.whole).trans ?_
    exact (congrArg (· ++ Token.closeBrace :: recolon (depth - 1) [] _) (declared_nil depth)).symm
  laid width := laid_cons [.closeBrace] rfl (oneLine_singleton Atom.noConfusion) (fun _ hus => hus.closing) width
    (h.laid width)

/-- A declaration that a semicolon ends; the space after the colon of an empty value stays before the semicolon. -/
theorem Settled.exists_ended {b : List Atom} (hb : Statement b) {depth : Nat} {ps qs : List Part}
    (h : Settled depth ps qs) : ∃ b', Settled depth (.declaration b true :: ps) (.declaration b' true :: qs) := by
  obtain ⟨b', tail, hb', htail, hlines, hbody, hbodywhole⟩ := exists_body hb depth
  obtain ⟨hsame, hline⟩ := hlines true
  refine ⟨b', .cons ⟨rfl, hb'⟩ h.sheet, ?_, ?_, ?_, ?_⟩
  · show Entry.mk depth _ :: _ = Entry.mk depth _ :: _
    rw [hsame, h.place]
  · rw [List.flatMap_cons, List.flatMap_cons, Part.atoms, Part.atoms, List.append_assoc, List.append_assoc]
    exact hbody _ _ (fun _ => .keep (a := .semicolon) h.edits) true
  · rw [List.flatMap_cons, List.flatMap_cons, Part.atoms, Part.atoms, List.append_assoc, List.append_assoc,
      wholeOf_append b', wholeOf_append b, hbodywhole, hb.recolon]
    exact congrArg (fun ts => declared depth (wholeOf b) ++ .semicolon :: ts) h.whole
  · intro width
    refine laid_cons (b' ++ (tail.map .blank ++ [.semicolon])) ?_ ?_ ?_ width (h.laid width)
    · rw [textOf_append, textOf_append, textOf_map_blank]
      exact hline
    · exact ((oneLine_singleton Atom.noConfusion).append (ne_lineFeed_space htail)).append hb'.ne_lineFeed
    · intro us hus
      rw [List.append_assoc, List.append_assoc]
      exact hus.ended (isBlank_of_space htail)

/-- The induction is over the parts, at the depth that the blocks before them have led to. -/
theorem exists_settled {ps : List Part} (h : Sheet ps) (depth : Nat) : ∃ qs, Settled depth ps qs := by
  induction h generalizing depth with
  | nil =>
    exact ⟨[], .nil, rfl, .stop (List.forall_mem_nil _), (declared_nil depth).symm,
      fun _ => ⟨[], [], .nil, trivial, rfl, rfl⟩⟩
  | unended hb => exact hb.exists_settled depth
  | @cons p ps hp hps ih =>
    cases p with
    | note t =>
      obtain ⟨qs, hqs⟩ := ih depth
      exact ⟨_, hqs.note hp⟩
    | opening selector =>
      obtain ⟨qs, hqs⟩ := ih (depth + 1)
      exact ⟨_, hqs.opening hp⟩
    | closing =>
      obtain ⟨qs, hqs⟩ := ih (depth - 1)
      exact ⟨_, hqs.closing⟩
    | declaration b ended =>
      obtain ⟨rfl, hb⟩ := hp
      obtain ⟨qs, hqs⟩ := ih depth
      obtain ⟨b', hqs⟩ := hqs.exists_ended hb
      exact ⟨_, hqs⟩

/-! ## What is read of a layout -/

theorem entries_eq_collect (source : Text) : entries source = separate (place 0 (collect [] (atoms source))) := by
  rw [entries, gather_eq_collect (Or.inl Text.endsSolid_nil)]

/-- The layout of a style sheet is read as its parts, with their declarations normalised. -/
theorem exists_laid_format (width : Nat) (source : Text) : ∃ ps qs, Groups [] (atoms source) ps ∧ Settled 0 ps qs ∧
    Laid qs (atoms (format width source)) ∧ Tight 2 (atoms (format width source)) := by
  obtain ⟨-, hlexed⟩ := lexed_atoms source
  obtain ⟨ps, hps⟩ := exists_groups hlexed.wellFormed .nil
  obtain ⟨qs, hqs⟩ := exists_settled hps.sheet 0
  obtain ⟨us, tail, hus, htight, htail, hrender⟩ := hqs.laid width
  obtain ⟨vs, hvs, hvstext⟩ := hus.trimStart hqs.sheet
  have htext : format width source = textOf vs := by
    rw [format, entries_eq_collect, ← textOf_nil, hps.pieces, ← hqs.place, hrender, Text.trim_append_tail htail,
      Text.trim, ← hvstext, Text.trimEnd_of_endsSolid (hvs.endsSolid hqs.sheet).1]
  -- three edits lead from the atoms of the source to those of the layout
  have hread : ∀ {us}, Laid qs us → atoms (textOf us) = us :=
    fun hus => atoms_textOf (hus.edits.lexed (hqs.edits.lexed (hps.edits.lexed hlexed)))
  refine ⟨ps, qs, hps, hqs, ?_, ?_⟩
  · rw [htext, hread hvs]
    exact hvs
  · rw [htext, hvstext]
    refine Tight.trimStart ?_
    rw [hread hus]
    exact htight.mono (Nat.zero_le 2)

/-- Three line feeds in a row stand in a layout only inside of a string or a comment. -/
theorem format_unbroken (width : Nat) (source : Text) {before after : Text}
    (h : format width source = before ++ (threeBreaks ++ after)) :
    ∃ earlier t later start stop, Token.all (format width source) = earlier ++ t :: later ∧ t.Enclosed ∧
      t.text = start ++ (threeBreaks ++ stop) ∧ before = earlier.flatMap Token.text ++ start := by
  obtain ⟨ps, qs, -, -, -, htight⟩ := exists_laid_format width source
  exact exists_enclosing_token htight h

/-- The whole tokens of a layout are those of the source, with its semicolons put right and its declarations
normalised. -/
theorem whole_format (width : Nat) (source : Text) :
    whole (format width source) = recolon 0 [] (punctuated false (whole source)) := by
  obtain ⟨ps, qs, hps, hqs, hlaid, -⟩ := exists_laid_format width source
  calc whole (format width source)
      = wholeOf (atoms (format width source)) := (wholeOf_atoms _).symm
    _ = recolon 0 [] (wholeOf (ps.flatMap Part.atoms)) := by rw [hlaid.whole, hqs.whole]
    _ = recolon 0 [] (punctuated false (wholeOf (atoms source))) := congrArg (recolon 0 []) hps.whole
    _ = recolon 0 [] (punctuated false (whole source)) := by rw [wholeOf_atoms]

/-- The bare tokens of a layout are those of the source, with its semicolons put right. -/
theorem bare_format (width : Nat) (source : Text) : bare (format width source) = punctuated false (bare source) := by
  rw [← map_stripped_whole, whole_format, map_stripped_recolon, ← punctuated_map_stripped, map_stripped_whole]

/-- Without white space and semicolons, the layout is its source. Among the tokens that are not white space it differs
in semicolons only: a closing brace gets one before it if the declaration there has none, and those with no
declaration before them are dropped. -/
theorem format_keeps_content (width : Nat) (source : Text) :
    (Text.unspaced (format width source)).filter (· ≠ char ';') = (Text.unspaced source).filter (· ≠ char ';') ∧
      bare (format width source) = punctuated false (bare source) := by
  have hbare := bare_format width source
  refine ⟨?_, hbare⟩
  rw [← flatMap_text_bare, hbare, filter_text_punctuated, flatMap_text_bare]

example : punctuated false (bare ";a{b:c}") = bare "a{b:c;}" := by decide +kernel

/-! ## Laying out a second time -/

/-- The entries of a layout are those of the source. -/
theorem entries_format (width : Nat) (source : Text) : entries (format width source) = entries source := by
  obtain ⟨ps, qs, hps, hqs, hlaid, -⟩ := exists_laid_format width source
  rw [entries_eq_collect, hlaid.collect hqs.sheet, hqs.place, ← hps.pieces, entries_eq_collect]
  rfl

/-- Laying out again what has been laid out at any width is laying out the source. -/
theorem format_format (n m : Nat) (source : Text) : format m (format n source) = format m source := by
  rw [format, entries_format, ← format]

end Tidy.Css
