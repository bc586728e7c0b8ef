/-
# Tidy.Proofs.Xml.Values -- values in reflowed text

Values are where white space counts. The replacement text of an entity is reflowed with the literal that holds it
(`Literal.follows`). The value of an attribute is built from left to right, and what is lost beside a line feed differs
by how the value is kept: a value that is not kept verbatim is the same as before where only white space of XML is
lost, since spaces are not doubled in it; a value that is kept verbatim is the same unless it holds a space. Both are
relations between values that building respects (`Carries`).

`Literal` and `Valued` say what the two functions do code point by code point, without a limit.
-/

import Tidy.Proofs.Xml.Scanning

namespace Tidy.Xml

open CodePoint (char)
open Markup (Reflowed)

/-! ## Replacement texts of entities -/

/-- The literal `s` holds the replacement text `v`. -/
inductive Literal : (s v : Text) → Prop
  | nil : Literal [] []
  | plain {c : CodePoint} {s v : Text} :
      c ≠ char '&' → c ≠ char '%' → c ≠ char '\r' → Literal s v → Literal (c :: s) (c :: v)
  | lineEnd {c : CodePoint} {s v : Text} :
      c = char '\r' → s.head? ≠ some (char '\n') → Literal s v → Literal (c :: s) (CodePoint.newline :: v)
  | feed {c : CodePoint} {s v : Text} :
      c = char '\r' → s.head? = some (char '\n') → Literal s v → Literal (c :: s) v
  | entity {c : CodePoint} {s v name more : Text} :
      c = char '&' → scanReference s = .found (.entity name) more → Literal s v → Literal (c :: s) (c :: v)
  | character {c : CodePoint} {s v more : Text} {n : Nat} :
      c = char '&' → scanReference s = .found (.character n) more → isCharacterNumber n = true → Literal more v →
      Literal (c :: s) (char (Char.ofNat n) :: v)

theorem map_ok_iff {α β ε : Type} {x : Except ε α} {f : α → β} {b : β} :
    (do let a ← x; pure (f a)) = Except.ok b ↔ ∃ a, x = .ok a ∧ f a = b := by
  cases x with
  | error e => simp [Bind.bind, Except.bind]
  | ok a => simp [Bind.bind, Except.bind, pure, Except.pure]

theorem exists_newline_cons {s : Text} (hs : s.head? = some (char '\n')) : ∃ more, s = CodePoint.newline :: more :=
  List.head?_eq_some_iff.mp hs

theorem drop_of_suffix {more rest : Text} (h : more <:+ rest) : rest.drop (rest.length - more.length) = more := by
  obtain ⟨lead, rfl⟩ := h
  rw [List.length_append, Nat.add_sub_cancel, List.drop_left]

theorem literal_of_entityValue {s v : Text} (h : entityValue s = .ok v) : Literal s v := by
  fun_induction entityValue s generalizing v with
  | case1 =>
    cases h
    exact .nil
  | case4 rest name more hfound ih =>
    obtain ⟨w, hw, rfl⟩ := map_ok_iff.mp h
    exact .entity rfl hfound (ih hw)
  | case5 rest n more hfound hnumber ih =>
    obtain ⟨w, hw, rfl⟩ := map_ok_iff.mp h
    rw [drop_of_suffix (within_scanReference rest _ _ hfound)] at ih hw
    exact .character rfl hfound hnumber (ih hw)
  | case11 rest _ _ ih =>
    obtain ⟨w, hw, rfl⟩ := map_ok_iff.mp h
    by_cases hfeed : rest.head? = some (char '\n')
    · -- the two code points of the line end have been read at once
      rw [if_pos hfeed] at hw
      rw [dif_pos hfeed] at ih
      obtain ⟨s, rfl⟩ := exists_newline_cons hfeed
      exact .feed rfl rfl (.plain (by decide) (by decide) (by decide) (ih hw))
    · rw [if_neg hfeed] at hw
      rw [dif_neg hfeed] at ih
      exact .lineEnd rfl hfeed (ih hw)
  | case12 c rest hreference hpercent hreturn ih =>
    obtain ⟨w, hw, rfl⟩ := map_ok_iff.mp h
    exact .plain hreference hpercent hreturn (ih hw)
  | _ => cases h

theorem literal_cons {c : CodePoint} {s v : Text} (hreference : c ≠ char '&') (hreturn : c ≠ char '\r')
    (h : Literal (c :: s) v) : ∃ w, v = c :: w ∧ Literal s w := by
  cases h with
  | plain _ _ _ h => exact ⟨_, rfl, h⟩
  | lineEnd hc => exact absurd hc hreturn
  | feed hc => exact absurd hc hreturn
  | entity hc => exact absurd hc hreference
  | character hc => exact absurd hc hreference

theorem literal_newline {s v : Text} (h : Literal (CodePoint.newline :: s) v) :
    ∃ w, v = CodePoint.newline :: w ∧ Literal s w :=
  literal_cons (by decide) (by decide) h

theorem entityValue_of_literal {s v : Text} (h : Literal s v) : entityValue s = .ok v := by
  induction h with
  | nil => rw [entityValue]
  | plain hreference hpercent hreturn _ ih =>
    rw [entityValue, if_neg hreference, if_neg hpercent, if_neg hreturn, map_ok_iff]
    exact ⟨_, ih, rfl⟩
  | lineEnd hc hfeed _ ih =>
    subst hc
    rw [entityValue, if_neg (by decide), if_neg (by decide), if_pos rfl, if_neg hfeed, map_ok_iff]
    exact ⟨_, ih, rfl⟩
  | @feed c s v hc hfeed h ih =>
    subst hc
    obtain ⟨s, rfl⟩ := exists_newline_cons hfeed
    -- the line feed alone gives the same line end
    rw [entityValue, if_neg (by decide), if_neg (by decide), if_neg (by decide), map_ok_iff] at ih
    rw [entityValue, if_neg (by decide), if_neg (by decide), if_pos rfl, if_pos hfeed, map_ok_iff]
    exact ih
  | entity hc hfound _ ih =>
    subst hc
    rw [entityValue, if_pos rfl, hfound]
    exact map_ok_iff.mpr ⟨_, ih, rfl⟩
  | @character c s v more n hc hfound hnumber _ ih =>
    subst hc
    rw [entityValue, if_pos rfl, hfound]
    dsimp only
    rw [if_pos hnumber, drop_of_suffix (within_scanReference s _ _ hfound), map_ok_iff]
    exact ⟨_, ih, rfl⟩

section Reflow

variable {white : CodePoint → Bool} (hw : White white) {s t : Text}
include hw

theorem White.newline : white CodePoint.newline = true := hw.space _ rfl

omit hw in
/-- A line feed stays at the start. -/
theorem head_feed (h : Reflowed white s t) (hs : s.head? = some (char '\n')) : t.head? = some (char '\n') := by
  obtain ⟨more, rfl⟩ := exists_newline_cons hs
  rcases h.cons_left with ⟨t', rfl, -⟩ | ⟨t', rfl⟩
  · rfl
  · rfl

/-- A code point that may be lost gives one that may be lost, or it goes with the line feed behind it. -/
theorem Literal.exists_lost {c : CodePoint} {v : Text} (hlost : white c = true) (hv : Literal (c :: s) v) :
    ∃ w, Literal s w ∧ (v = w ∨ ∃ d, white d = true ∧ v = d :: w) := by
  cases hv with
  | plain _ _ _ hv => exact ⟨_, hv, .inr ⟨c, hlost, rfl⟩⟩
  | lineEnd _ _ hv => exact ⟨_, hv, .inr ⟨CodePoint.newline, hw.newline, rfl⟩⟩
  | feed _ _ hv => exact ⟨_, hv, .inl rfl⟩
  | entity hc => exact absurd hc (ne_of_white hw hlost rfl)
  | character hc => exact absurd hc (ne_of_white hw hlost rfl)

/-- The replacement text of an entity is reflowed with its literal. -/
theorem Literal.follows {v : Text} (hv : Literal s v) (h : Reflowed white s t) :
    ∃ v', Literal t v' ∧ Reflowed white v v' := by
  induction hn : s.length + t.length using Nat.strongRecOn generalizing s t v with
  | _ n ih =>
    have ih : ∀ {s' t' w : Text}, s'.length + t'.length < s.length + t.length → Literal s' w → Reflowed white s' t' →
        ∃ w', Literal t' w' ∧ Reflowed white w w' := by
      intro s' t' w hlength hw' h'
      exact ih _ (by omega) hw' h' rfl
    clear hn
    cases h with
    | nil =>
      cases hv
      exact ⟨[], .nil, .nil⟩
    | @cons c s t h =>
      simp only [List.length_cons] at ih
      cases hv with
      | plain hreference hpercent hreturn hv =>
        obtain ⟨v', hv', hreflow⟩ := ih (by omega) hv h
        exact ⟨c :: v', .plain hreference hpercent hreturn hv', hreflow.cons c⟩
      | lineEnd hc hfeed hv =>
        obtain ⟨v', hv', hreflow⟩ := ih (by omega) hv h
        by_cases hfeed' : t.head? = some (char '\n')
        · -- the two line ends have become one
          obtain ⟨t, rfl⟩ := exists_newline_cons hfeed'
          obtain ⟨w, rfl, -⟩ := literal_newline hv'
          exact ⟨_, .feed hc hfeed' hv', .drop hw.newline hreflow⟩
        · exact ⟨_, .lineEnd hc hfeed' hv', hreflow.cons _⟩
      | feed hc hfeed hv =>
        obtain ⟨v', hv', hreflow⟩ := ih (by omega) hv h
        exact ⟨v', .feed hc (head_feed h hfeed) hv', hreflow⟩
      | entity hc hfound hv =>
        obtain ⟨_, more', hfound', rfl, -⟩ := follows_scanReference hw h _ _ hfound
        obtain ⟨v', hv', hreflow⟩ := ih (by omega) hv h
        exact ⟨c :: v', .entity hc hfound' hv', hreflow.cons c⟩
      | @character _ _ v more n hc hfound hnumber hv =>
        obtain ⟨_, more', hfound', rfl, hmore⟩ := follows_scanReference hw h _ _ hfound
        have hlength := (within_scanReference s _ _ hfound).length_le
        have hlength' := (within_scanReference t _ _ hfound').length_le
        obtain ⟨v', hv', hreflow⟩ := ih (by omega) hv hmore
        exact ⟨_, .character hc hfound' hnumber hv', hreflow.cons _⟩
    | @drop c s t hlost h =>
      simp only [List.length_cons] at ih
      obtain ⟨w, hs, hvw⟩ := hv.exists_lost hw hlost
      obtain ⟨v', hv', hreflow⟩ := ih (by simp) hs h
      obtain ⟨w', rfl, -⟩ := literal_newline hv'
      rcases hvw with rfl | ⟨d, hd, rfl⟩
      · exact ⟨_, hv', hreflow⟩
      · exact ⟨_, hv', .drop hd hreflow⟩
    | @trail c s t hlost h =>
      simp only [List.length_cons] at ih
      obtain ⟨u, rfl, hinner⟩ := literal_newline hv
      obtain ⟨w, hs, huw⟩ := hinner.exists_lost hw hlost
      obtain ⟨v', hv', hreflow⟩ := ih (by simp) (.plain (by decide) (by decide) (by decide) hs) h
      obtain ⟨w', rfl, -⟩ := literal_newline hv'
      rcases huw with rfl | ⟨d, hd, rfl⟩
      · exact ⟨_, hv', hreflow⟩
      · exact ⟨_, hv', .trail hd hreflow⟩
    | @pad s t h =>
      simp only [List.length_cons] at ih
      obtain ⟨v', hv', hreflow⟩ := ih (by simp) hv h
      obtain ⟨w, rfl, hw'⟩ := literal_newline hv'
      refine ⟨_, .plain (by decide) (by decide) (by decide) (.plain ?_ ?_ ?_ hw'), .pad hreflow⟩
      all_goals decide
    | @brk s t h =>
      simp only [List.length_cons] at ih
      obtain ⟨v', hv', hreflow⟩ := ih (by simp) hv h
      obtain ⟨w, rfl, -⟩ := literal_cons (by decide) (by decide) hv
      obtain ⟨w', rfl, -⟩ := literal_cons (by decide) (by decide) hv'
      exact ⟨_, .plain (by decide) (by decide) (by decide) hv', .brk hreflow⟩

theorem entityValue_follows {v : Text} (hv : entityValue s = .ok v) (h : Reflowed white s t) :
    ∃ v', entityValue t = .ok v' ∧ Reflowed white v v' := by
  obtain ⟨v', hv', hreflow⟩ := (literal_of_entityValue hv).follows hw h
  exact ⟨v', entityValue_of_literal hv', hreflow⟩

end Reflow

/-! ## Values of attributes -/

/-- What a reference makes of the value that has been built, if it may stand there. -/
def replacement (dtd : Dtd) (strict verbatim : Bool) (expand : (name text built : Text) → Except Cause Text)
    (built : Text) : Reference → Option Text
  | .character n =>
    if isCharacterNumber n then
      some (if n = 0x20 then appendSpace verbatim built else built ++ [char (Char.ofNat n)])
    else none
  | .entity name =>
    match predefined? name, dtd.entity? name with
    | some meant, _ => some (built ++ [meant])
    | none, none => if strict then none else some built
    | none, some (.internal text) => (expand name text built).toOption
    | none, some _ => none

/-- What is written as `s` makes the value `v` of what has been built. -/
inductive Valued (verbatim : Bool) (replace : Text → Reference → Option Text) : (built s v : Text) → Prop
  | nil (built : Text) : Valued verbatim replace built [] built
  | plain {c : CodePoint} {built s v : Text} :
      c ≠ char '<' → c ≠ char '&' → isSpace c = false → Valued verbatim replace (built ++ [c]) s v →
      Valued verbatim replace built (c :: s) v
  | space {c : CodePoint} {built s v : Text} :
      isSpace c = true → ¬ (c = char '\r' ∧ s.head? = some (char '\n')) →
      Valued verbatim replace (appendSpace verbatim built) s v → Valued verbatim replace built (c :: s) v
  | feed {c : CodePoint} {built s v : Text} :
      c = char '\r' → s.head? = some (char '\n') → Valued verbatim replace built s v →
      Valued verbatim replace built (c :: s) v
  | reference {c : CodePoint} {built built' s v more : Text} {ref : Reference} :
      c = char '&' → scanReference s = .found ref more → replace built ref = some built' →
      Valued verbatim replace built' more v → Valued verbatim replace built (c :: s) v

section Adequacy

variable {dtd : Dtd} {strict verbatim : Bool} {expand : (name text built : Text) → Except Cause Text}

/-- A reference is taken if it may be replaced, and then the value goes on behind it. -/
theorem attributeValueWith_reference {limit : Nat} {built s v : Text} :
    attributeValueWith dtd strict verbatim expand (limit + 1) built (char '&' :: s) = .ok v ↔
      ∃ ref more built', scanReference s = .found ref more ∧
        replacement dtd strict verbatim expand built ref = some built' ∧
        attributeValueWith dtd strict verbatim expand limit built' more = .ok v := by
  rw [attributeValueWith, if_neg (by decide), if_pos rfl]
  cases hscan : scanReference s with
  | invalid => simp
  | cut => simp
  | found ref more =>
    -- the scan has found its reference, so that there is none to choose
    have hone : (∃ ref' more' built', Scan.found ref more = .found ref' more' ∧
        replacement dtd strict verbatim expand built ref' = some built' ∧
        attributeValueWith dtd strict verbatim expand limit built' more' = .ok v) ↔
        ∃ built', replacement dtd strict verbatim expand built ref = some built' ∧
          attributeValueWith dtd strict verbatim expand limit built' more = .ok v := by
      constructor
      · rintro ⟨_, _, built', heq, h⟩
        cases heq
        exact ⟨built', h⟩
      · rintro ⟨built', h⟩
        exact ⟨ref, more, built', rfl, h⟩
    rw [hone]
    unfold replacement
    cases ref with
    | character n => cases hnumber : isCharacterNumber n <;> simp [hnumber]
    | entity name =>
      dsimp only
      generalize predefined? name = meant, dtd.entity? name = entity
      cases meant with
      | some meant => simp
      | none =>
        cases entity with
        | none => cases strict <;> simp
        | some entity =>
          cases entity with
          | internal text =>
            dsimp only
            cases expand name text built with
            | error cause => exact iff_of_false (by rintro ⟨⟩) (by rintro ⟨_, ⟨⟩, -⟩)
            | ok value => exact ⟨fun h => ⟨value, rfl, h⟩, by rintro ⟨_, ⟨⟩, h⟩; exact h⟩
          | external => simp
          | unparsed => simp

theorem valued_of_attributeValueWith {limit : Nat} {built s v : Text} (hlimit : s.length < limit)
    (h : attributeValueWith dtd strict verbatim expand limit built s = .ok v) :
    Valued verbatim (replacement dtd strict verbatim expand) built s v := by
  induction limit generalizing built s with
  | zero => exact absurd hlimit (Nat.not_lt_zero _)
  | succ limit ih =>
    cases s with
    | nil =>
      cases h
      exact .nil _
    | cons c rest =>
      rw [List.length_cons] at hlimit
      by_cases hreference : c = char '&'
      · subst hreference
        obtain ⟨ref, more, built', hfound, hreplace, hgoOn⟩ := attributeValueWith_reference.mp h
        have hmore := (within_scanReference rest _ _ hfound).length_le
        exact .reference rfl hfound hreplace (ih (by omega) hgoOn)
      rw [attributeValueWith.eq_def] at h
      dsimp only at h
      rw [if_neg hreference] at h
      split at h
      · cases h
      rename_i htag
      split at h
      · rename_i hreturn
        split at h
        · rename_i hfeed
          obtain ⟨s', rfl⟩ := exists_newline_cons hfeed
          rw [List.length_cons] at hlimit
          refine .feed hreturn hfeed (.space rfl ?_ (ih (by omega) h))
          exact fun hboth => absurd hboth.1 (by decide)
        · rename_i hfeed
          subst hreturn
          exact .space rfl (fun hboth => hfeed hboth.2) (ih (by omega) h)
      rename_i hreturn
      split at h
      · rename_i hspace
        exact .space hspace (fun hboth => hreturn hboth.1) (ih (by omega) h)
      · rename_i hspace
        exact .plain htag hreference (Bool.eq_false_iff.mpr hspace) (ih (by omega) h)

theorem valued_newline {replace : Text → Reference → Option Text} {built s v : Text}
    (h : Valued verbatim replace built (CodePoint.newline :: s) v) :
    Valued verbatim replace (appendSpace verbatim built) s v := by
  cases h with
  | plain _ _ hspace => cases hspace
  | space _ _ h => exact h
  | feed hc => exact absurd hc (by decide)
  | reference hc => exact absurd hc (by decide)

theorem attributeValueWith_of_valued {limit : Nat} {built s v : Text} (hlimit : s.length < limit)
    (h : Valued verbatim (replacement dtd strict verbatim expand) built s v) :
    attributeValueWith dtd strict verbatim expand limit built s = .ok v := by
  induction limit generalizing built s with
  | zero => exact absurd hlimit (Nat.not_lt_zero _)
  | succ limit ih =>
    cases h with
    | nil => rfl
    | plain htag hreference hspace h =>
      rw [List.length_cons] at hlimit
      rw [attributeValueWith, if_neg htag, if_neg hreference, if_neg, if_neg (by simp [hspace])]
      · exact ih (by omega) h
      · rintro rfl
        cases hspace
    | @space c _ s _ hspace hfeed h =>
      rw [List.length_cons] at hlimit
      have hsolid : ∀ {d : CodePoint}, isSpace d = false → c ≠ d := by
        rintro d hd rfl
        rw [hspace] at hd
        cases hd
      rw [attributeValueWith, if_neg (hsolid rfl), if_neg (hsolid rfl)]
      split
      · rename_i hreturn
        dsimp only
        rw [if_neg (fun hhead => hfeed ⟨hreturn, hhead⟩)]
        exact ih (by omega) h
      · exact ih (by omega) h
    | @feed c _ s _ hreturn hfeed h =>
      subst hreturn
      obtain ⟨s', rfl⟩ := exists_newline_cons hfeed
      rw [List.length_cons, List.length_cons] at hlimit
      have hgoOn := ih (by omega) (valued_newline h)
      rw [attributeValueWith, if_neg (by decide), if_neg (by decide), if_pos rfl]
      exact hgoOn
    | @reference c _ built' s _ more ref hc hfound hreplace h =>
      subst hc
      have hmore := (within_scanReference s _ _ hfound).length_le
      rw [List.length_cons] at hlimit
      exact attributeValueWith_reference.mpr ⟨ref, more, built', hfound, hreplace, ih (by omega) h⟩

end Adequacy

/-! ### Relations between values that are being built -/

/-- Where one way to replace references goes on, so does the other, whatever has been built; and the relation is
kept. -/
def Respects (R : Text → Text → Prop) (replace replace' : Text → Reference → Option Text) : Prop :=
  ∀ ref built₁ built₂ value₁, replace built₁ ref = some value₁ →
    ∃ value₂, replace' built₂ ref = some value₂ ∧ (R built₁ built₂ → R value₁ value₂)

/-- Appending keeps the relation. -/
structure Appending (verbatim : Bool) (R : Text → Text → Prop) : Prop where
  push : ∀ c built₁ built₂, R built₁ built₂ → R (built₁ ++ [c]) (built₂ ++ [c])
  space : ∀ built₁ built₂, R built₁ built₂ → R (appendSpace verbatim built₁) (appendSpace verbatim built₂)

/-- To the relation, what is lost beside a line feed is of no account. -/
structure Indifferent (white : CodePoint → Bool) (verbatim : Bool) (R : Text → Text → Prop) : Prop
    extends Appending verbatim R where
  equiv : Equivalence R
  lost : ∀ c built, white c = true → isSpace c = false → R (built ++ [c]) (appendSpace verbatim built)
  again : ∀ built, R (appendSpace verbatim (appendSpace verbatim built)) (appendSpace verbatim built)

/-- Values of reflowed texts are related if the ways to replace references are. -/
structure Carries (white : CodePoint → Bool) (verbatim : Bool) (R : Text → Text → Prop) : Prop
    extends Appending verbatim R where
  valued : ∀ replace replace', Respects R replace replace → Respects R replace replace' → Respects R replace' replace' →
    (∀ ref built value, replace built ref = some value → built <+: value) →
    ∀ s t, Reflowed white s t → ∀ built₁ built₂ v₁, Valued verbatim replace built₁ s v₁ →
      ∃ v₂, Valued verbatim replace' built₂ t v₂ ∧ (R built₁ built₂ → R v₁ v₂)

section Relations

variable {white : CodePoint → Bool} {verbatim : Bool} {R : Text → Text → Prop}
variable {replace replace' : Text → Reference → Option Text}

/-- The values of one and the same text are related. -/
theorem Valued.same (hR : Appending verbatim R) (hreplace : Respects R replace replace') {built₁ s v₁ : Text}
    (h : Valued verbatim replace built₁ s v₁) (built₂ : Text) :
    ∃ v₂, Valued verbatim replace' built₂ s v₂ ∧ (R built₁ built₂ → R v₁ v₂) := by
  induction h generalizing built₂ with
  | nil built => exact ⟨built₂, .nil _, id⟩
  | @plain c built _ _ htag hreference hspace _ ih =>
    obtain ⟨v₂, hv₂, hkeep⟩ := ih (built₂ ++ [c])
    exact ⟨v₂, .plain htag hreference hspace hv₂, fun hb => hkeep (hR.push c _ _ hb)⟩
  | space hspace hfeed _ ih =>
    obtain ⟨v₂, hv₂, hkeep⟩ := ih (appendSpace verbatim built₂)
    exact ⟨v₂, .space hspace hfeed hv₂, fun hb => hkeep (hR.space _ _ hb)⟩
  | feed hreturn hfeed _ ih =>
    obtain ⟨v₂, hv₂, hkeep⟩ := ih built₂
    exact ⟨v₂, .feed hreturn hfeed hv₂, hkeep⟩
  | reference hc hfound hvalue _ ih =>
    obtain ⟨value₂, hvalue₂, hkeepValue⟩ := hreplace _ _ built₂ _ hvalue
    obtain ⟨v₂, hv₂, hkeep⟩ := ih value₂
    exact ⟨v₂, .reference hc hfound hvalue₂ hv₂, fun hb => hkeep (hkeepValue hb)⟩

theorem appendSpace_extends (verbatim : Bool) (built : Text) : built <+: appendSpace verbatim built := by
  unfold appendSpace
  split
  · exact List.prefix_refl built
  · exact List.prefix_append built _

/-- What has been built starts the value. -/
theorem Valued.built_le (hreplace : ∀ ref built value, replace built ref = some value → built <+: value)
    {built s v : Text} (h : Valued verbatim replace built s v) : built <+: v := by
  induction h with
  | nil => exact List.prefix_refl _
  | plain _ _ _ _ ih => exact (List.prefix_append _ _).trans ih
  | space _ _ _ ih => exact (appendSpace_extends verbatim _).trans ih
  | feed _ _ _ ih => exact ih
  | reference _ _ hvalue _ ih => exact (hreplace _ _ _ hvalue).trans ih

theorem space_mem_appendSpace (built : Text) : char ' ' ∈ appendSpace true built :=
  List.mem_append_right built (by decide)

/-- A line feed leaves a space in a value that is kept verbatim. -/
theorem Valued.space_mem (hw : White white)
    (hreplace : ∀ ref built value, replace built ref = some value → built <+: value)
    {s t : Text} (h : Reflowed white s (CodePoint.newline :: t)) {built v : Text}
    (hv : Valued true replace built s v) : char ' ' ∈ v := by
  have hspace : ∀ {u b w : Text}, Valued true replace (appendSpace true b) u w → char ' ' ∈ w := by
    intro u b w hu
    exact (hu.built_le hreplace).subset (space_mem_appendSpace b)
  generalize ht : CodePoint.newline :: t = u at h
  induction h generalizing t built with
  | nil => cases ht
  | cons c =>
    rw [List.cons.injEq] at ht
    rw [← ht.1] at hv
    exact hspace (valued_newline hv)
  | drop hlost _ ih =>
    cases hv with
    | plain _ _ _ hv => exact ih hv rfl
    | space _ _ hv => exact hspace hv
    | feed _ _ hv => exact ih hv rfl
    | reference hc => exact absurd hc (ne_of_white hw hlost rfl)
  | trail => exact hspace (valued_newline hv)
  | pad _ ih => exact ih hv rfl
  | brk =>
    cases hv with
    | plain htag => exact absurd rfl htag
    | space hc => cases hc
    | feed hc => exact absurd hc (by decide)
    | reference hc => exact absurd hc (by decide)

theorem Valued.newline {built s v : Text} (h : Valued verbatim replace (appendSpace verbatim built) s v) :
    Valued verbatim replace built (CodePoint.newline :: s) v :=
  .space rfl (fun hboth => absurd hboth.1 (by decide)) h

/-- A space more or less in what has been built does not matter to the value of one text. -/
theorem Indifferent.same (hR : Indifferent white verbatim R) (hreplace : Respects R replace replace)
    {built₁ built₂ s v₁ : Text} (h : Valued verbatim replace built₁ s v₁) (hbuilt : R built₁ built₂) :
    ∃ v₂, Valued verbatim replace built₂ s v₂ ∧ R v₁ v₂ := by
  obtain ⟨v₂, hv₂, hkeep⟩ := h.same hR.toAppending hreplace built₂
  exact ⟨v₂, hv₂, hkeep hbuilt⟩

/-- Nor does a space before a line feed. -/
theorem Indifferent.absorb (hR : Indifferent white verbatim R) (hreplace : Respects R replace replace)
    {built s v₁ : Text} (h : Valued verbatim replace (appendSpace verbatim built) (CodePoint.newline :: s) v₁) :
    ∃ v₂, Valued verbatim replace built (CodePoint.newline :: s) v₂ ∧ R v₁ v₂ := by
  obtain ⟨v₂, hv₂, hkeep⟩ := hR.same hreplace (valued_newline h) (hR.again built)
  exact ⟨v₂, hv₂.newline, hkeep⟩

/-- A code point that may be lost adds what is like a space, or nothing where a line feed follows it. -/
theorem Indifferent.exists_lost (hw : White white) (hR : Indifferent white verbatim R) {c : CodePoint}
    (hlost : white c = true) {built s v : Text} (h : Valued verbatim replace built (c :: s) v) :
    ∃ built', Valued verbatim replace built' s v ∧ (built' = built ∨ R built' (appendSpace verbatim built)) := by
  cases h with
  | plain _ _ hspace h => exact ⟨_, h, .inr (hR.lost c built hlost hspace)⟩
  | space _ _ h => exact ⟨_, h, .inr (hR.equiv.refl _)⟩
  | feed _ _ h => exact ⟨_, h, .inl rfl⟩
  | reference hc => exact absurd hc (ne_of_white hw hlost rfl)

/-- Behind a line feed it can as well be left out. -/
theorem Indifferent.behind (hw : White white) (hR : Indifferent white verbatim R) (hreplace : Respects R replace replace)
    {c : CodePoint} (hlost : white c = true) {built s v₁ : Text}
    (h : Valued verbatim replace built (CodePoint.newline :: c :: s) v₁) :
    ∃ v₂, Valued verbatim replace built (CodePoint.newline :: s) v₂ ∧ R v₁ v₂ := by
  obtain ⟨built', hs, hbuilt⟩ := hR.exists_lost hw hlost (valued_newline h)
  have hone : R built' (appendSpace verbatim built) := by
    rcases hbuilt with rfl | hbuilt
    · exact hR.equiv.refl _
    · exact hR.equiv.trans hbuilt (hR.again built)
  obtain ⟨v₂, hv₂, hkeep⟩ := hR.same hreplace hs hone
  exact ⟨v₂, hv₂.newline, hkeep⟩

theorem Indifferent.carries (hw : White white) (hR : Indifferent white verbatim R) : Carries white verbatim R := by
  refine ⟨hR.toAppending, ?_⟩
  intro replace replace' hself hreplace hself' _ s t h built₁ built₂ v₁ hv
  induction hn : s.length + t.length using Nat.strongRecOn generalizing s t built₁ built₂ v₁ with
  | _ n ih =>
    have ih : ∀ {s' t' b₁ v : Text}, s'.length + t'.length < s.length + t.length → Reflowed white s' t' →
        Valued verbatim replace b₁ s' v → ∀ b₂, ∃ v', Valued verbatim replace' b₂ t' v' ∧ (R b₁ b₂ → R v v') := by
      intro s' t' b₁ v hlength h' hs' b₂
      exact ih _ (by omega) s' t' h' b₁ b₂ v hs' rfl
    clear hn
    cases h with
    | nil =>
      cases hv
      exact ⟨built₂, .nil _, id⟩
    | @cons c s t h =>
      simp only [List.length_cons] at ih
      cases hv with
      | plain htag hreference hspace hv =>
        obtain ⟨v₂, hv₂, hkeep⟩ := ih (by omega) h hv (built₂ ++ [c])
        exact ⟨v₂, .plain htag hreference hspace hv₂, fun hb => hkeep (hR.push c _ _ hb)⟩
      | space hspace hfeed hv =>
        obtain ⟨v₂, hv₂, hkeep⟩ := ih (by omega) h hv (appendSpace verbatim built₂)
        by_cases hfeed' : c = char '\r' ∧ t.head? = some (char '\n')
        · -- a carriage return that made a space has come to stand before a line feed
          obtain ⟨hreturn, hhead⟩ := hfeed'
          obtain ⟨t, rfl⟩ := exists_newline_cons hhead
          obtain ⟨v₃, hv₃, hone⟩ := hR.absorb hself' hv₂
          exact ⟨v₃, .feed hreturn hhead hv₃, fun hb => hR.equiv.trans (hkeep (hR.space _ _ hb)) hone⟩
        · exact ⟨v₂, .space hspace hfeed' hv₂, fun hb => hkeep (hR.space _ _ hb)⟩
      | feed hreturn hfeed hv =>
        obtain ⟨v₂, hv₂, hkeep⟩ := ih (by omega) h hv built₂
        exact ⟨v₂, .feed hreturn (head_feed h hfeed) hv₂, hkeep⟩
      | @reference _ _ value₁ _ _ more ref hc hfound hvalue hv =>
        obtain ⟨_, more', hfound', rfl, hmore⟩ := follows_scanReference hw h _ _ hfound
        have hlength := (within_scanReference s _ _ hfound).length_le
        have hlength' := (within_scanReference t _ _ hfound').length_le
        obtain ⟨value₂, hvalue₂, hkeepValue⟩ := hreplace ref built₁ built₂ _ hvalue
        obtain ⟨v₂, hv₂, hkeep⟩ := ih (by omega) hmore hv value₂
        exact ⟨v₂, .reference hc hfound' hvalue₂ hv₂, fun hb => hkeep (hkeepValue hb)⟩
    | @drop c s t hlost h =>
      simp only [List.length_cons] at ih
      obtain ⟨built', hs, rfl | hbuilt⟩ := hR.exists_lost hw hlost hv
      · exact ih (by simp) h hs built₂
      · obtain ⟨v₂, hv₂, hkeep⟩ := ih (by simp) h hs (appendSpace verbatim built₂)
        obtain ⟨v₃, hv₃, hone⟩ := hR.absorb hself' hv₂
        refine ⟨v₃, hv₃, fun hb => hR.equiv.trans (hkeep ?_) hone⟩
        exact hR.equiv.trans hbuilt (hR.space _ _ hb)
    | @trail c s t hlost h =>
      simp only [List.length_cons] at ih
      obtain ⟨v, hv, hbefore⟩ := hR.behind hw hself hlost hv
      obtain ⟨v₂, hv₂, hkeep⟩ := ih (by simp) h hv built₂
      exact ⟨v₂, hv₂, fun hb => hR.equiv.trans hbefore (hkeep hb)⟩
    | @pad s t h =>
      simp only [List.length_cons] at ih
      obtain ⟨v₂, hv₂, hkeep⟩ := ih (by simp) h hv built₂
      obtain ⟨v₃, hv₃, hone⟩ := hR.same hself' (valued_newline hv₂) (hR.equiv.symm (hR.again built₂))
      refine ⟨v₃, Valued.newline (.space rfl ?_ hv₃), fun hb => hR.equiv.trans (hkeep hb) hone⟩
      exact fun hboth => absurd hboth.1 (by decide)
    | brk =>
      cases hv with
      | plain htag => exact absurd rfl htag
      | space hspace => cases hspace
      | feed hreturn => exact absurd hreturn (by decide)
      | reference hc => exact absurd hc (by decide)

/-- Whether there is a value at all. -/
theorem carries_true (hw : White white) : Carries white verbatim fun _ _ => True :=
  Indifferent.carries hw {
    push := fun _ _ _ _ => trivial
    space := fun _ _ _ => trivial
    equiv := ⟨fun _ => trivial, fun _ => trivial, fun _ _ => trivial⟩
    lost := fun _ _ _ _ => trivial
    again := fun _ => trivial }

theorem appendSpace_appendSpace (built : Text) :
    appendSpace false (appendSpace false built) = appendSpace false built := by
  unfold appendSpace
  simp only [Bool.not_false, Bool.true_and]
  split
  · rfl
  · rw [if_pos]
    have hlast : (built ++ Text.ofString " ").getLast? = some (char ' ') := List.getLast?_concat
    simp [hlast]

/-- Values that are not kept verbatim are the same where only white space of XML is lost. -/
theorem carries_eq (hw : White white) (hspace : ∀ c, white c = true → isSpace c = true) : Carries white false Eq :=
  Indifferent.carries hw {
    push := by
      rintro c built _ rfl
      rfl
    space := by
      rintro built _ rfl
      rfl
    equiv := ⟨fun _ => rfl, fun h => h.symm, fun h h' => h.trans h'⟩
    lost := by
      intro c built hc hsolid
      rw [hspace c hc] at hsolid
      cases hsolid
    again := appendSpace_appendSpace }

/-- Values that are kept verbatim are the same if they hold no space. -/
theorem carries_spaceless (hw : White white) :
    Carries white true fun v₁ v₂ => char ' ' ∉ v₁ → v₁ = v₂ := by
  have happending : Appending true fun v₁ v₂ : Text => char ' ' ∉ v₁ → v₁ = v₂ := by
    constructor
    · intro c u₁ u₂ hu hnone
      rw [hu (fun hmem => hnone (List.mem_append_left _ hmem))]
    · intro u₁ u₂ hu hnone
      exact absurd (space_mem_appendSpace u₁) hnone
  refine ⟨happending, ?_⟩
  intro replace replace' hself hreplace hself' hextends s t h built₁ built₂ v₁ hv
  by_cases hnone : char ' ' ∈ v₁
  · have htrue : ∀ {rep rep' : Text → Reference → Option Text},
        Respects (fun v₁ v₂ => char ' ' ∉ v₁ → v₁ = v₂) rep rep' → Respects (fun _ _ => True) rep rep' := by
      intro rep rep' hrep ref b₁ b₂ value₁ hvalue
      obtain ⟨value₂, hvalue₂, -⟩ := hrep ref b₁ b₂ value₁ hvalue
      exact ⟨value₂, hvalue₂, fun _ => trivial⟩
    obtain ⟨v₂, hv₂, -⟩ := (carries_true hw).valued replace replace' (htrue hself) (htrue hreplace) (htrue hself') hextends
      s t h built₁ built₂ v₁ hv
    exact ⟨v₂, hv₂, fun _ hmem => absurd hnone hmem⟩
  -- no line feed stands in the reflowed text, so no code point has been lost
  induction hv generalizing t built₂ with
  | nil =>
    rw [h.nil_left]
    exact ⟨built₂, .nil _, id⟩
  | @plain c built s v htag hreference hspace hv ih =>
    rcases h.cons_left with ⟨t, rfl, ht⟩ | ⟨t, rfl⟩
    · obtain ⟨v₂, hv₂, hkeep⟩ := ih t ht (built₂ ++ [c]) hnone
      exact ⟨v₂, .plain htag hreference hspace hv₂, fun hb => hkeep (happending.push c _ _ hb)⟩
    · exact absurd ((Valued.plain htag hreference hspace hv).space_mem hw hextends h) hnone
  | space _ _ hv =>
    exact absurd ((hv.built_le hextends).subset (space_mem_appendSpace _)) hnone
  | @feed c built s v hreturn hfeed hv =>
    obtain ⟨s, rfl⟩ := exists_newline_cons hfeed
    exact absurd (((valued_newline hv).built_le hextends).subset (space_mem_appendSpace _)) hnone
  | @reference c built value s v more ref hc hfound hvalue hv ih =>
    rcases h.cons_left with ⟨t, rfl, ht⟩ | ⟨t, rfl⟩
    · obtain ⟨_, more', hfound', rfl, hmore⟩ := follows_scanReference hw ht _ _ hfound
      obtain ⟨value₂, hvalue₂, hkeepValue⟩ := hreplace ref built built₂ _ hvalue
      obtain ⟨v₂, hv₂, hkeep⟩ := ih more' hmore value₂ hnone
      exact ⟨v₂, .reference hc hfound' hvalue₂ hv₂, fun hb => hkeep (hkeepValue hb)⟩
    · exact absurd ((Valued.reference hc hfound hvalue hv).space_mem hw hextends h) hnone

end Relations

/-! ### Entities in values -/

/-- One entity is another with its replacement text reflowed. -/
inductive EntityFollows (white : CodePoint → Bool) : Entity → Entity → Prop
  | internal {text text' : Text} : Reflowed white text text' → EntityFollows white (.internal text) (.internal text')
  | external : EntityFollows white .external .external
  | unparsed : EntityFollows white .unparsed .unparsed

/-- The same entities are declared, with their replacement texts reflowed. -/
def EntitiesFollow (white : CodePoint → Bool) (dtd dtd' : Dtd) : Prop :=
  ∀ name, Option.Rel (EntityFollows white) (dtd.entity? name) (dtd'.entity? name)

theorem entitiesFollow_refl (white : CodePoint → Bool) (dtd : Dtd) : EntitiesFollow white dtd dtd := by
  intro name
  cases dtd.entity? name with
  | none => exact .none
  | some entity =>
    apply Option.Rel.some
    cases entity with
    | internal text => exact .internal (Reflowed.refl text)
    | external => exact .external
    | unparsed => exact .unparsed

section Expanding

variable {white : CodePoint → Bool} {verbatim : Bool} {R : Text → Text → Prop} {dtd dtd' : Dtd} {strict : Bool}

theorem respects_replacement (hR : Appending verbatim R) (hentities : EntitiesFollow white dtd dtd')
    {expand expand' : (name text built : Text) → Except Cause Text}
    (hexpand : ∀ name text text' built₁ built₂ v₁, Reflowed white text text' → expand name text built₁ = .ok v₁ →
      ∃ v₂, expand' name text' built₂ = .ok v₂ ∧ (R built₁ built₂ → R v₁ v₂)) :
    Respects R (replacement dtd strict verbatim expand) (replacement dtd' strict verbatim expand') := by
  intro ref built₁ built₂ value₁ hvalue
  cases ref with
  | character n =>
    unfold replacement at hvalue ⊢
    dsimp only at hvalue ⊢
    split at hvalue
    · rename_i hnumber
      cases hvalue
      rw [if_pos hnumber]
      split
      · exact ⟨_, rfl, hR.space _ _⟩
      · exact ⟨_, rfl, hR.push _ _ _⟩
    · cases hvalue
  | entity name =>
    have hentity := hentities name
    unfold replacement at hvalue ⊢
    dsimp only at hvalue ⊢
    -- the predefined entities come first, whatever has been declared
    cases hmeant : predefined? name with
    | some meant =>
      rw [hmeant] at hvalue
      cases hvalue
      exact ⟨_, rfl, hR.push _ _ _⟩
    | none =>
      rw [hmeant] at hvalue
      generalize dtd.entity? name = found, dtd'.entity? name = found' at hentity hvalue ⊢
      cases hentity with
      | none =>
        -- an entity that is not declared stands for nothing, unless every entity has to be declared
        dsimp only at hvalue ⊢
        split at hvalue
        · cases hvalue
        · rename_i hstrict
          cases hvalue
          rw [if_neg hstrict]
          exact ⟨_, rfl, id⟩
      | some hentity =>
        cases hentity with
        | @internal text text' hreflow =>
          dsimp only at hvalue ⊢
          cases hvalue' : expand name text built₁ with
          | error => rw [hvalue'] at hvalue; cases hvalue
          | ok v₁ =>
            rw [hvalue'] at hvalue
            cases hvalue
            obtain ⟨v₂, hv₂, hkeep⟩ := hexpand name text text' built₁ built₂ _ hreflow hvalue'
            rw [hv₂]
            exact ⟨v₂, rfl, hkeep⟩
        | external => cases hvalue
        | unparsed => cases hvalue

theorem replacement_extends {expand : (name text built : Text) → Except Cause Text}
    (hexpand : ∀ name text built v, expand name text built = .ok v → built <+: v) (ref : Reference) (built value : Text)
    (h : replacement dtd strict verbatim expand built ref = some value) : built <+: value := by
  unfold replacement at h
  split at h
  · split at h
    · cases h
      split
      · exact appendSpace_extends verbatim built
      · exact List.prefix_append built _
    · cases h
  · split at h
    · cases h
      exact List.prefix_append built _
    · split at h
      · cases h
      · cases h
        exact List.prefix_refl built
    · rename_i text _ _
      cases hv : expand _ text built with
      | error => rw [hv] at h; cases h
      | ok v =>
        rw [hv] at h
        cases h
        exact hexpand _ text built _ hv
    · cases h

theorem mapError_eq_ok {α ε ε' : Type} {x : Except ε α} {f : ε → ε'} {a : α} :
    x.mapError f = .ok a ↔ x = .ok a := by
  cases x with
  | error e => exact ⟨fun h => (by cases h), fun h => (by cases h)⟩
  | ok b => exact ⟨fun h => (by cases h; rfl), fun h => (by cases h; rfl)⟩

/-- An entity that is replaced in a value, without the limit. -/
theorem expandInValue_eq_ok {room : Nat} {opened : List Text} {name text built v : Text} :
    expandInValue dtd strict verbatim (room + 1) opened name text built = .ok v ↔
      opened.contains name = false ∧
        Valued verbatim
          (replacement dtd strict verbatim (expandInValue dtd strict verbatim room (name :: opened))) built text v := by
  rw [expandInValue]
  cases opened.contains name with
  | true => simp
  | false =>
    rw [if_neg (by simp), mapError_eq_ok]
    constructor
    · intro h
      exact ⟨rfl, valued_of_attributeValueWith (Nat.lt_succ_self _) h⟩
    · rintro ⟨-, h⟩
      exact attributeValueWith_of_valued (Nat.lt_succ_self _) h

theorem expandInValue_extends (room : Nat) (opened : List Text) (name text built v : Text)
    (h : expandInValue dtd strict verbatim room opened name text built = .ok v) : built <+: v := by
  induction room generalizing opened name text built v with
  | zero => cases h
  | succ room ih =>
    obtain ⟨-, h⟩ := expandInValue_eq_ok.mp h
    exact h.built_le (replacement_extends (ih (name :: opened)))

/-- The references of two documents are replaced in related ways. -/
theorem respects_expandInValue (hR : Carries white verbatim R) (hentities : EntitiesFollow white dtd dtd') (room : Nat)
    (opened : List Text) :
    Respects R (replacement dtd strict verbatim (expandInValue dtd strict verbatim room opened))
      (replacement dtd' strict verbatim (expandInValue dtd' strict verbatim room opened)) := by
  induction room generalizing dtd dtd' opened with
  | zero =>
    apply respects_replacement hR.toAppending hentities
    intro name text text' built₁ built₂ v₁ _ h
    cases h
  | succ room ih =>
    apply respects_replacement hR.toAppending hentities
    intro name text text' built₁ built₂ v₁ htext h
    obtain ⟨hopened, hv⟩ := expandInValue_eq_ok.mp h
    obtain ⟨v₂, hv₂, hkeep⟩ := hR.valued _ _ (ih (entitiesFollow_refl white dtd) (name :: opened))
      (ih hentities (name :: opened)) (ih (entitiesFollow_refl white dtd') (name :: opened))
      (replacement_extends (expandInValue_extends room (name :: opened))) text text' htext built₁ built₂ v₁ hv
    exact ⟨v₂, expandInValue_eq_ok.mpr ⟨hopened, hv₂⟩, hkeep⟩

/-- What the value of an attribute in one text says about the value in the reflowed text. -/
structure Agrees (white : CodePoint → Bool) (verbatim : Bool) (v v' : Text) : Prop where
  spaceless : verbatim = true → char ' ' ∉ v → v = v'
  same : verbatim = false → (∀ c, white c = true → isSpace c = true) → v = v'

theorem attributeValue_eq_ok {opened : List Text} {s v : Text} :
    attributeValue dtd strict verbatim opened s = .ok v ↔
      ∃ w, Valued verbatim (replacement dtd strict verbatim
          (expandInValue dtd strict verbatim (dtd.entities.length + 1) opened)) [] s w ∧
        (if !verbatim && w.getLast? = some (char ' ') then w.dropLast else w) = v := by
  rw [attributeValue, map_ok_iff]
  constructor
  · rintro ⟨w, hw, hv⟩
    exact ⟨w, valued_of_attributeValueWith (Nat.lt_succ_self _) hw, hv⟩
  · rintro ⟨w, hw, hv⟩
    exact ⟨w, attributeValueWith_of_valued (Nat.lt_succ_self _) hw, hv⟩

/-- An attribute that has a value has one in the reflowed text, and the two agree. -/
theorem attributeValue_follows (hw : White white) (hentities : EntitiesFollow white dtd dtd')
    (hlength : dtd.entities.length = dtd'.entities.length) {opened : List Text} {s t v : Text}
    (h : Reflowed white s t) (hv : attributeValue dtd strict verbatim opened s = .ok v) :
    ∃ v', attributeValue dtd' strict verbatim opened t = .ok v' ∧ Agrees white verbatim v v' := by
  obtain ⟨w, hvalued, rfl⟩ := attributeValue_eq_ok.mp hv
  -- whatever relation is carried, it holds between the two values
  have hrelated : ∀ {R : Text → Text → Prop}, Carries white verbatim R → R [] [] →
      ∃ w', attributeValue dtd' strict verbatim opened t =
        .ok (if !verbatim && w'.getLast? = some (char ' ') then w'.dropLast else w') ∧ R w w' := by
    intro R hR hnil
    obtain ⟨w', hw', hkeep⟩ := hR.valued _ _ (respects_expandInValue hR (entitiesFollow_refl white dtd) _ opened)
      (respects_expandInValue hR hentities _ opened) (respects_expandInValue hR (entitiesFollow_refl white dtd') _ opened)
      (replacement_extends (expandInValue_extends _ opened)) s t h [] [] w hvalued
    rw [hlength] at hw'
    exact ⟨w', attributeValue_eq_ok.mpr ⟨w', hw', rfl⟩, hkeep hnil⟩
  cases verbatim with
  | true =>
    obtain ⟨w', hw', hsame⟩ := hrelated (carries_spaceless hw) (fun _ => rfl)
    exact ⟨w', hw', ⟨fun _ => hsame, fun hfalse => absurd hfalse (by decide)⟩⟩
  | false =>
    by_cases hspace : ∀ c, white c = true → isSpace c = true
    · obtain ⟨w', hw', rfl⟩ := hrelated (carries_eq hw hspace) rfl
      exact ⟨_, hw', ⟨fun htrue => absurd htrue (by decide), fun _ _ => rfl⟩⟩
    · obtain ⟨w', hw', -⟩ := hrelated (carries_true hw) trivial
      exact ⟨_, hw', ⟨fun htrue => absurd htrue (by decide), fun _ hall => absurd hall hspace⟩⟩

end Expanding

end Tidy.Xml
