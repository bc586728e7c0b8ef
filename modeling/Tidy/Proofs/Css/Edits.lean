/-
# Tidy.Proofs.Css.Edits -- edits that change no token

Formatting a style sheet puts in, takes out and replaces white space, braces, semicolons and the space around a
colon. None of these closes a string or a comment. Such an edit may still bring a backslash next to a quote, or a
star next to a slash; it does not if it leaves something between two code points exactly where something was between
them before. `Edits` are the edits of this kind, and what is lexed stays lexed under them (`Edits.lexed`): a quote
that found no partner finds none afterwards.
-/

import Tidy.Proofs.Css.Atoms

namespace Tidy.Css

open CodePoint (char)

/-! ## Looking for a closing mark -/

/-- The steps of the three searches for a closing mark. -/
inductive Watch : (Bool → CodePoint → Option Bool) → Prop
  | string {q : CodePoint} : IsQuote q → Watch (Text.inString q)
  | comment : Watch Text.inComment

/-- The code point is no part of a closing mark, and no backslash. -/
def Neutral (c : CodePoint) : Prop :=
  ¬ IsQuote c ∧ c ≠ char '\\' ∧ c ≠ char '*' ∧ c ≠ char '/'

instance (c : CodePoint) : Decidable (Neutral c) := inferInstanceAs (Decidable (_ ∧ _))

theorem neutral_of_isBlank {c : CodePoint} (h : c.isBlank = true) : Neutral c := by
  obtain ⟨hquote, -, -, -, hslash, -, hstar, hback⟩ := isBlank_facts h
  exact ⟨hquote, hback, hstar, hslash⟩

variable {step : Bool → CodePoint → Option Bool}

/-- After a neutral code point, a search is as at its start. -/
theorem Watch.neutral (h : Watch step) {c : CodePoint} (hc : Neutral c) (st : Bool) : step st c = some false := by
  obtain ⟨hquote, hback, hstar, hslash⟩ := hc
  cases h with
  | string hq =>
    have hne : c ≠ _ := fun heq => hquote (heq ▸ hq)
    cases st with
    | true => exact Text.inString_escaped
    | false => exact Text.inString_plain hne hback
  | comment => rw [Text.inComment_other hslash, decide_eq_false hstar]

/-- After any code point but a backslash or a star, a search that goes on is as at its start. -/
theorem Watch.resets (h : Watch step) {c : CodePoint} (hback : c ≠ char '\\') (hstar : c ≠ char '*') {st st' : Bool}
    (hstep : step st c = some st') : st' = false := by
  cases h with
  | @string q hq =>
    unfold Text.inString at hstep
    split at hstep
    · injection hstep with hstep
      exact hstep.symm
    · split at hstep
      · cases hstep
      · injection hstep with hstep
        rw [← hstep, decide_eq_false hback]
  | comment =>
    unfold Text.inComment at hstep
    split at hstep
    · cases hstep
    · injection hstep with hstep
      rw [← hstep, decide_eq_false hstar]

/-- Something neutral, of any length but none. -/
structure NeutralRun (t : Text) : Prop where
  nonempty : t ≠ []
  neutral : ∀ c ∈ t, Neutral c

theorem Watch.neutralRun (h : Watch step) {t : Text} (ht : NeutralRun t) (st : Bool) :
    t.foldlM step st = some false := by
  obtain ⟨hne, hneutral⟩ := ht
  induction t generalizing st with
  | nil => exact absurd rfl hne
  | cons c t ih =>
    obtain ⟨hc, hrest⟩ := List.forall_mem_cons.mp hneutral
    rw [Text.foldlM_cons_some (h.neutral hc st)]
    cases t with
    | nil => rfl
    | cons d t => exact ih false (List.cons_ne_nil d t) hrest

/-! ## Texts with fewer closing marks -/

/-- A search that finds nothing in the first text finds nothing in the second, from each state that it can be in; if
`reset` is set, it is as at its start. -/
def Calms (reset : Bool) (s t : Text) : Prop :=
  ∀ step, Watch step → ∀ st, (reset = true → st = false) →
    (s.foldlM step st).isSome = true → (t.foldlM step st).isSome = true

theorem calms_nil (reset : Bool) (s : Text) : Calms reset s [] := by
  intro step _ st _ _
  rfl

theorem Calms.keep {reset : Bool} {s t : Text} {c : CodePoint} (b : Bool)
    (hreset : reset = true → c ≠ char '\\' ∧ c ≠ char '*') (h : Calms reset s t) : Calms b (c :: s) (c :: t) := by
  intro step hwatch st _ hsome
  cases hstep : step st c with
  | none =>
    rw [Text.foldlM_cons_none hstep] at hsome
    cases hsome
  | some st' =>
    rw [Text.foldlM_cons_some hstep] at hsome ⊢
    refine h step hwatch st' ?_ hsome
    intro hr
    exact hwatch.resets (hreset hr).1 (hreset hr).2 hstep

/-- Two texts that act alike on every search may stand for each other. -/
theorem Calms.replace {s t v w : Text} (b : Bool)
    (hsame : ∀ step, Watch step → ∀ st, v.foldlM step st = w.foldlM step st)
    (hreset : ∀ step, Watch step → ∀ st st', v.foldlM step st = some st' → st' = false) (h : Calms true s t) :
    Calms b (v ++ s) (w ++ t) := by
  intro step hwatch st _ hsome
  rw [List.foldlM_append] at hsome ⊢
  rw [← hsame step hwatch st]
  cases hv : v.foldlM step st with
  | none =>
    rw [hv] at hsome
    cases hsome
  | some st' =>
    rw [hv] at hsome
    exact h step hwatch st' (fun _ => hreset step hwatch st st' hv) hsome

theorem Calms.swap {s t v w : Text} (b : Bool) (hv : NeutralRun v) (hw : NeutralRun w) (h : Calms true s t) :
    Calms b (v ++ s) (w ++ t) := by
  refine h.replace b ?_ ?_
  · intro step hwatch st
    rw [hwatch.neutralRun hv, hwatch.neutralRun hw]
  · intro step hwatch st st' hst
    rw [hwatch.neutralRun hv] at hst
    injection hst with hst
    exact hst.symm

theorem Calms.drop {s t v : Text} (hv : NeutralRun v) (h : Calms true s t) : Calms true (v ++ s) t := by
  intro step hwatch st hst hsome
  rw [List.foldlM_append, hwatch.neutralRun hv] at hsome
  rw [hst rfl]
  exact h step hwatch false (fun _ => rfl) hsome

theorem Calms.add {s t v : Text} (hv : NeutralRun v) (h : Calms true s t) : Calms true s (v ++ t) := by
  intro step hwatch st hst hsome
  rw [List.foldlM_append, hwatch.neutralRun hv]
  rw [hst rfl] at hsome
  exact h step hwatch false (fun _ => rfl) hsome

/-- A text that ends with neither a backslash nor a star leaves every search as at its start. -/
theorem reset_of_last {v : Text} {c : CodePoint} (hback : c ≠ char '\\') (hstar : c ≠ char '*')
    (step : Bool → CodePoint → Option Bool) (hwatch : Watch step) (st st' : Bool)
    (h : (v ++ [c]).foldlM step st = some st') : st' = false := by
  rw [List.foldlM_append] at h
  cases hv : v.foldlM step st with
  | none =>
    rw [hv] at h
    cases h
  | some st₁ =>
    rw [hv] at h
    have hstep : [c].foldlM step st₁ = some st' := h
    rw [List.foldlM_cons] at hstep
    obtain ⟨st₂, hst₂, hlast⟩ := Option.bind_eq_some_iff.mp hstep
    obtain rfl : st₂ = st' := by injection hlast
    exact hwatch.resets hback hstar hst₂

/-! ## Edits -/

/-- The atoms that an edit may put in or take out: white space, braces, semicolons and colons. -/
def Atom.Loose : Atom → Prop
  | solid c => c = char ':'
  | blank c => c.isBlank = true
  | string _ | comment _ => False
  | openBrace | closeBrace | semicolon => True

/-- Is every search as at its start after the atom? A slash counts as not, for a star may follow it. -/
def Atom.resets : Atom → Bool
  | solid c => c ≠ char '\\' && c ≠ char '*' && c ≠ char '/'
  | _ => true

/-- Strings and comments that differ in something neutral. -/
inductive Tinted : Atom → Atom → Prop
  | string {q : CodePoint} {before run run' after : Text} :
      IsQuote q → NeutralRun run → NeutralRun run' →
      (before ++ (run ++ after)).foldlM (Text.inString q) false = some false →
      Tinted (.string (q :: (before ++ (run ++ after) ++ [q]))) (.string (q :: (before ++ (run' ++ after) ++ [q])))
  | comment {before run run' after : Text} :
      NeutralRun run → NeutralRun run' →
      ((before ++ (run ++ after)).foldlM Text.inComment false).isSome = true →
      Tinted (.comment (char '/' :: char '*' :: (before ++ (run ++ after) ++ [char '*', char '/'])))
        (.comment (char '/' :: char '*' :: (before ++ (run' ++ after) ++ [char '*', char '/'])))

/-- Edits of a list of atoms, front to back. Where `reset` is set, every search is as at its start, and loose atoms
may be dropped and added; elsewhere one can only stand for another. -/
inductive Edits : Bool → List Atom → List Atom → Prop
  | stop {reset : Bool} {as : List Atom} : (∀ a ∈ as, a.Loose) → Edits reset as []
  | keep {reset : Bool} {a : Atom} {as us : List Atom} : Edits a.resets as us → Edits reset (a :: as) (a :: us)
  | tint {reset : Bool} {a a' : Atom} {as us : List Atom} :
      Tinted a a' → Edits true as us → Edits reset (a :: as) (a' :: us)
  | swap {reset : Bool} {a a' : Atom} {as us : List Atom} :
      a.Loose → a'.Loose → Edits true as us → Edits reset (a :: as) (a' :: us)
  | drop {a : Atom} {as us : List Atom} : a.Loose → Edits true as us → Edits true (a :: as) us
  | add {a : Atom} {as us : List Atom} : a.Loose → Edits true as us → Edits true as (a :: us)

theorem Atom.Loose.neutralRun {a : Atom} (h : a.Loose) : NeutralRun a.text := by
  have hsingle : ∀ {c : CodePoint}, Neutral c → NeutralRun [c] := by
    intro c hc
    refine ⟨List.cons_ne_nil _ _, ?_⟩
    intro d hd
    rw [List.mem_singleton.mp hd]
    exact hc
  cases a with
  | solid c =>
    obtain rfl : c = char ':' := h
    exact hsingle (by decide)
  | blank c => exact hsingle (neutral_of_isBlank h)
  | string t => exact absurd h id
  | comment t => exact absurd h id
  | openBrace => exact hsingle (by decide)
  | closeBrace => exact hsingle (by decide)
  | semicolon => exact hsingle (by decide)

theorem Atom.Loose.wellFormed {a : Atom} (h : a.Loose) : a.WellFormed := by
  cases a with
  | solid c =>
    obtain rfl : c = char ':' := h
    exact ⟨rfl, by decide, by decide, by decide⟩
  | blank c => exact h
  | string t => exact absurd h id
  | comment t => exact absurd h id
  | openBrace => trivial
  | closeBrace => trivial
  | semicolon => trivial

theorem Atom.Loose.standsBefore {a : Atom} (h : a.Loose) (rest : Text) : a.StandsBefore rest := by
  cases a with
  | solid c =>
    obtain rfl : c = char ':' := h
    exact ⟨fun hquote => absurd hquote (by decide), fun hslash => absurd hslash (by decide)⟩
  | _ => trivial

/-- Replacing something neutral by something neutral makes no difference to a search. -/
theorem Watch.foldlM_run (h : Watch step) {run run' : Text} (hrun : NeutralRun run) (hrun' : NeutralRun run')
    (before after : Text) (st : Bool) :
    (before ++ (run ++ after)).foldlM step st = (before ++ (run' ++ after)).foldlM step st := by
  rw [List.foldlM_append, List.foldlM_append]
  congr 1
  funext st'
  rw [List.foldlM_append, List.foldlM_append, h.neutralRun hrun, h.neutralRun hrun']

theorem Tinted.wellFormed {a a' : Atom} (h : Tinted a a') : a.WellFormed ∧ a'.WellFormed := by
  cases h with
  | string hquote hrun hrun' hsteps =>
    refine ⟨⟨_, _, hquote, rfl, hsteps⟩, ⟨_, _, hquote, rfl, ?_⟩⟩
    rw [← (Watch.string hquote).foldlM_run hrun hrun']
    exact hsteps
  | comment hrun hrun' hsteps =>
    refine ⟨⟨_, rfl, hsteps⟩, ⟨_, rfl, ?_⟩⟩
    rw [← Watch.comment.foldlM_run hrun hrun']
    exact hsteps

/-! ## Edits keep what is lexed -/

/-- A string or a comment leaves every search as at its start, and so does a mark. -/
theorem Atom.WellFormed.reset {a : Atom} (h : a.WellFormed) (hsolid : ∀ c, a ≠ .solid c)
    (step : Bool → CodePoint → Option Bool) (hwatch : Watch step) (st st' : Bool)
    (hfold : a.text.foldlM step st = some st') : st' = false := by
  have hloose : a.Loose → st' = false := by
    intro hloose
    rw [hwatch.neutralRun hloose.neutralRun] at hfold
    injection hfold with hfold
    exact hfold.symm
  cases a with
  | solid c => exact absurd rfl (hsolid c)
  | blank c => exact hloose h
  | string t =>
    obtain ⟨q, inside, hquote, rfl, -⟩ := h
    have hback : q ≠ char '\\' ∧ q ≠ char '*' := by rcases hquote with rfl | rfl <;> decide
    exact reset_of_last (v := q :: inside) hback.1 hback.2 step hwatch st st' hfold
  | comment t =>
    obtain ⟨inside, rfl, -⟩ := h
    refine reset_of_last (v := char '/' :: char '*' :: (inside ++ [char '*'])) (c := char '/')
      (by decide) (by decide) step hwatch st st' ?_
    simpa [Atom.text] using hfold
  | openBrace => exact hloose trivial
  | closeBrace => exact hloose trivial
  | semicolon => exact hloose trivial

theorem Tinted.calms {a a' : Atom} (h : Tinted a a') (b : Bool) {s t : Text} (hst : Calms true s t) :
    Calms b (a.text ++ s) (a'.text ++ t) := by
  have hsolid : ∀ c, a ≠ .solid c := by
    rintro c rfl
    cases h
  refine hst.replace b ?_ (h.wellFormed.1.reset hsolid)
  intro step hwatch st
  cases h with
  | @string q before run run' after _ hrun hrun' _ =>
    have hrun := hwatch.foldlM_run hrun hrun' (q :: before) (after ++ [q]) st
    simpa only [Atom.text, List.cons_append, List.append_assoc] using hrun
  | @comment before run run' after hrun hrun' _ =>
    have hrun := hwatch.foldlM_run hrun hrun' (char '/' :: char '*' :: before) (after ++ [char '*', char '/']) st
    simpa only [Atom.text, List.cons_append, List.append_assoc] using hrun

theorem Calms.keep_atom {a : Atom} (h : a.WellFormed) (b : Bool) {s t : Text} (hst : Calms a.resets s t) :
    Calms b (a.text ++ s) (a.text ++ t) := by
  by_cases hsolid : ∃ c, a = .solid c
  · -- a backslash or a star may leave a search in either state
    obtain ⟨c, rfl⟩ := hsolid
    refine hst.keep b ?_
    intro hresets
    simp only [Atom.resets, Bool.and_eq_true, decide_eq_true_eq] at hresets
    exact hresets.1
  · have hsolid : ∀ c, a ≠ .solid c := fun c hc => hsolid ⟨c, hc⟩
    have hresets : a.resets = true := by
      cases a with
      | solid c => exact absurd rfl (hsolid c)
      | _ => rfl
    rw [hresets] at hst
    exact hst.replace b (fun _ _ _ => rfl) (h.reset hsolid)

theorem Edits.calms {reset : Bool} {as us : List Atom} (h : Edits reset as us) (has : ∀ a ∈ as, a.WellFormed) :
    Calms reset (textOf as) (textOf us) := by
  induction h with
  | stop _ => exact calms_nil _ _
  | keep _ ih =>
    obtain ⟨ha, has⟩ := List.forall_mem_cons.mp has
    exact (ih has).keep_atom ha _
  | tint htinted _ ih => exact htinted.calms _ (ih (List.forall_mem_cons.mp has).2)
  | swap hloose hloose' _ ih => exact (ih (List.forall_mem_cons.mp has).2).swap _ hloose.neutralRun hloose'.neutralRun
  | drop hloose _ ih => exact (ih (List.forall_mem_cons.mp has).2).drop hloose.neutralRun
  | add hloose _ ih => exact (ih has).add hloose.neutralRun

/-- The only atom that starts with a star is the star. -/
theorem Atom.WellFormed.eq_star {a : Atom} (h : a.WellFormed) {rest inside : Text}
    (htext : a.text ++ rest = char '*' :: inside) : a = .solid (char '*') ∧ rest = inside := by
  cases a with
  | solid c =>
    injection htext with hc hrest
    exact ⟨congrArg _ hc, hrest⟩
  | blank c =>
    injection htext with hc _
    rw [hc] at h
    cases h
  | string t =>
    obtain ⟨q, within, hquote, rfl, -⟩ := h
    injection htext with hc _
    rw [hc] at hquote
    exact absurd hquote (by decide)
  | comment t =>
    obtain ⟨within, rfl, -⟩ := h
    injection htext with hc _
    exact absurd hc (by decide)
  | openBrace =>
    injection htext with hc _
    exact absurd hc (by decide)
  | closeBrace =>
    injection htext with hc _
    exact absurd hc (by decide)
  | semicolon =>
    injection htext with hc _
    exact absurd hc (by decide)

/-- Where nothing may be added, a star comes from a star. -/
theorem Edits.star {as us : List Atom} (h : Edits false as us) (has : ∀ a ∈ as, a.WellFormed) {inside : Text}
    (hstar : textOf us = char '*' :: inside) :
    ∃ inside₀, textOf as = char '*' :: inside₀ ∧ Calms false inside₀ inside := by
  cases h with
  | stop _ => cases hstar
  | keep hedits =>
    obtain ⟨ha, hrest⟩ := List.forall_mem_cons.mp has
    obtain ⟨rfl, rfl⟩ := ha.eq_star hstar
    exact ⟨_, rfl, hedits.calms hrest⟩
  | tint htinted _ =>
    obtain ⟨rfl, -⟩ := htinted.wellFormed.2.eq_star hstar
    cases htinted
  | swap _ hloose _ =>
    obtain ⟨rfl, -⟩ := hloose.wellFormed.eq_star hstar
    exact absurd hloose (by decide : ¬ char '*' = char ':')

/-- An atom that stood before the old text stands before the new one. -/
theorem Edits.standsBefore {a : Atom} {as us : List Atom} (h : Edits a.resets as us)
    (has : ∀ a ∈ as, a.WellFormed) (hstands : a.StandsBefore (textOf as)) : a.StandsBefore (textOf us) := by
  cases a with
  | solid c =>
    obtain ⟨hstring, hcomment⟩ := hstands
    refine ⟨?_, ?_⟩
    · intro hquote
      have hnone := (Text.readStringEnd?_eq_none_iff c _).mp (hstring hquote)
      rw [Text.readStringEnd?_eq_none_iff]
      exact h.calms has _ (.string hquote) false (fun _ => rfl) hnone
    · rintro rfl inside hinside
      -- nothing may be added after a slash, so the star was there before
      obtain ⟨inside₀, hinside₀, hcalms⟩ := Edits.star h has hinside
      have hnone := (Text.readCommentEnd?_eq_none_iff _).mp (hcomment rfl inside₀ hinside₀)
      rw [Text.readCommentEnd?_eq_none_iff]
      exact hcalms _ .comment false (fun _ => rfl) hnone
  | _ => trivial

theorem Edits.lexed {reset : Bool} {as us : List Atom} (h : Edits reset as us) (has : Lexed as) : Lexed us := by
  induction h with
  | stop _ => exact .nil
  | keep hedits ih =>
    cases has with
    | cons ha hstands has => exact .cons ha (hedits.standsBefore has.wellFormed hstands) (ih has)
  | tint htinted _ ih =>
    cases has with
    | cons _ _ has =>
      refine .cons htinted.wellFormed.2 ?_ (ih has)
      cases htinted <;> trivial
  | swap _ hloose _ ih =>
    cases has with
    | cons _ _ has => exact .cons hloose.wellFormed (hloose.standsBefore _) (ih has)
  | drop _ _ ih =>
    cases has with
    | cons _ _ has => exact ih has
  | add hloose _ ih => exact .cons hloose.wellFormed (hloose.standsBefore _) (ih has)

/-! ## Longer edits -/

theorem Edits.keeps {as us : List Atom} (h : ∀ reset, Edits reset as us) (bs : List Atom) (reset : Bool) :
    Edits reset (bs ++ as) (bs ++ us) := by
  induction bs generalizing reset with
  | nil => exact h reset
  | cons b bs ih => exact .keep (ih _)

theorem Edits.drops {as us : List Atom} (h : Edits true as us) {ls : List Atom} (hls : ∀ l ∈ ls, l.Loose) :
    Edits true (ls ++ as) us := by
  induction ls with
  | nil => exact h
  | cons l ls ih =>
    obtain ⟨hl, hls⟩ := List.forall_mem_cons.mp hls
    exact .drop hl (ih hls)

theorem Edits.adds {as us : List Atom} (h : Edits true as us) {ls : List Atom} (hls : ∀ l ∈ ls, l.Loose) :
    Edits true as (ls ++ us) := by
  induction ls with
  | nil => exact h
  | cons l ls ih =>
    obtain ⟨hl, hls⟩ := List.forall_mem_cons.mp hls
    exact .add hl (ih hls)

/-- Wherever a loose atom can be edited, so can any loose atoms in its place. -/
theorem Edits.loosen {reset : Bool} {before as us : List Atom} {a l : Atom} {ls : List Atom} (ha : a.Loose)
    (hl : l.Loose) (hls : ∀ l ∈ ls, l.Loose) (h : Edits reset (before ++ a :: as) us) :
    Edits reset (before ++ l :: (ls ++ as)) us := by
  have hresets : a.resets = true := by
    cases a with
    | solid c =>
      obtain rfl : c = char ':' := ha
      rfl
    | _ => rfl
  generalize hold : before ++ a :: as = old at h
  induction h generalizing before with
  | stop hstop =>
    subst hold
    refine .stop ?_
    intro x hx
    simp only [List.mem_append, List.mem_cons] at hx
    rcases hx with hx | rfl | hx | hx
    · exact hstop x (List.mem_append_left _ hx)
    · exact hl
    · exact hls x hx
    · exact hstop x (List.mem_append_right _ (List.mem_cons_of_mem _ hx))
  | keep hedits ih =>
    rcases List.append_eq_cons_iff.mp hold with ⟨rfl, hat⟩ | ⟨before, rfl, htail⟩
    · -- the atom was kept: now it is one that another stands for
      obtain ⟨rfl, rfl⟩ := List.cons.inj hat
      rw [hresets] at hedits
      exact .swap hl ha (hedits.drops hls)
    · exact .keep (ih htail.symm)
  | tint htinted hedits ih =>
    rcases List.append_eq_cons_iff.mp hold with ⟨rfl, hat⟩ | ⟨before, rfl, htail⟩
    · obtain ⟨rfl, rfl⟩ := List.cons.inj hat
      cases htinted <;> exact absurd ha id
    · exact .tint htinted (ih htail.symm)
  | swap hloose hloose' hedits ih =>
    rcases List.append_eq_cons_iff.mp hold with ⟨rfl, hat⟩ | ⟨before, rfl, htail⟩
    · obtain ⟨-, rfl⟩ := List.cons.inj hat
      exact .swap hl hloose' (hedits.drops hls)
    · exact .swap hloose hloose' (ih htail.symm)
  | drop hloose hedits ih =>
    rcases List.append_eq_cons_iff.mp hold with ⟨rfl, hat⟩ | ⟨before, rfl, htail⟩
    · obtain ⟨-, rfl⟩ := List.cons.inj hat
      exact .drop hl (hedits.drops hls)
    · exact .drop hloose (ih htail.symm)
  | add hloose _ ih => exact .add hloose (ih hold)

end Tidy.Css
