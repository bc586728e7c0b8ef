/-
# Tidy.Proofs.Xml.Prolog -- the prolog in reflowed text

A step of the prolog in the reflowed text follows the same step here: a token takes both readings on in the same way, and
what they have collected stays related (`PrologFollows`). No token but the first leaves a reading at the start.
-/

import Mathlib.Data.List.TakeWhile
import Tidy.Proofs.Xml.Content
import Tidy.Proofs.Xml.Declaration
import Tidy.Proofs.Xml.PrologToken

namespace Tidy.Xml

open CodePoint (char)
open Markup (Reflowed)

variable {white : CodePoint → Bool}

/-! ## Declaring -/

theorem DtdFollows.declareEntity {dtd dtd' : Dtd} (h : DtdFollows white dtd dtd') (name : Text) {e e' : Entity}
    (he : EntityFollows white e e') : DtdFollows white (dtd.declareEntity name e) (dtd'.declareEntity name e') := by
  have hknown : (dtd.entities.any fun e => e.1 = name) = dtd'.entities.any fun e => e.1 = name :=
    any_related (fun _ _ he => by rw [he.1]) h.entities
  unfold Dtd.declareEntity
  rw [← hknown]
  split
  · exact h
  · exact { h with entities := List.rel_append h.entities (.cons ⟨rfl, he⟩ .nil) }

theorem DtdFollows.declareAttribute {dtd dtd' : Dtd} (h : DtdFollows white dtd dtd') (element : Text)
    {a a' : AttributeDefault} (ha : DefaultFollows white a a') (identifies : Bool) :
    DtdFollows white (dtd.declareAttribute element a identifies) (dtd'.declareAttribute element a' identifies) := by
  have hknown : ((dtd.attributesOf element).any fun b => b.name = a.name) =
      (dtd'.attributesOf element).any fun b => b.name = a'.name := by
    rw [← ha.name]
    exact any_related (fun _ _ hb => by rw [hb.name]) (h.attributesOf element)
  have hvalue : a.value.isSome = a'.value.isSome := by
    have hrel := ha.value
    generalize a.value = value, a'.value = value' at hrel
    cases hrel <;> rfl
  unfold Dtd.declareAttribute
  dsimp only
  rw [← hknown, ← hvalue]
  split
  · exact h
  · exact { h with attributes := List.rel_append h.attributes (.cons ⟨rfl, ha⟩ .nil) }

/-! ## Steps -/

/-- Two readings of a prolog are at the same point, and have declared the same things up to reflowed texts. -/
structure PrologFollows (white : CodePoint → Bool) (p p' : Prolog) : Prop where
  expect : p.expect = p'.expect
  dtd : DtdFollows white p.dtd p'.dtd
  entity : p.entity = p'.entity
  element : p.element = p'.element
  attributeName : p.attributeName = p'.attributeName
  verbatim : p.verbatim = p'.verbatim
  identifies : p.identifies = p'.identifies
  groups : p.groups = p'.groups

/-- Where the first reading goes on, so does the second one: they stay related, and they are no longer at the start. -/
def Carried (white : CodePoint → Bool) (x y : Except Fault Prolog) : Prop :=
  ∀ q, x = .ok q → q.expect ≠ .start ∧ ∃ q', y = .ok q' ∧ PrologFollows white q q'

namespace Carried

theorem error (fault : Fault) (y : Except Fault Prolog) : Carried white (.error fault) y := by
  intro q h
  cases h

theorem refuse (place : Text) (token : PrologToken) (y : Except Fault Prolog) :
    Carried white (Prolog.refuse place token) y := by
  cases token <;> exact error _ _

theorem ok {p p' : Prolog} (h : PrologFollows white p p') (hstart : p.expect ≠ .start) :
    Carried white (.ok p) (.ok p') := by
  intro q hq
  cases hq
  exact ⟨hstart, p', rfl, h⟩

theorem goOn {p p' : Prolog} (h : PrologFollows white p p') {expect : Expect} (hstart : expect ≠ .start) :
    Carried white (p.goOn expect) (p'.goOn expect) :=
  ok { h with expect := rfl } hstart

theorem ite {c : Prop} [Decidable c] {x x' y y' : Except Fault Prolog} (hx : Carried white x x')
    (hy : Carried white y y') : Carried white (if c then x else y) (if c then x' else y') := by
  split
  · exact hx
  · exact hy

end Carried

namespace PrologFollows

theorem of_dtd {p : Prolog} {dtd' : Dtd} (h : DtdFollows white p.dtd dtd') :
    PrologFollows white p { p with dtd := dtd' } :=
  ⟨rfl, h, rfl, rfl, rfl, rfl, rfl, rfl⟩

variable {p p' : Prolog} (h : PrologFollows white p p')
include h

/-- Two related readings differ in what they have declared only. -/
theorem exists_dtd : ∃ dtd', p' = { p with dtd := dtd' } ∧ DtdFollows white p.dtd dtd' := by
  cases p
  cases p'
  obtain ⟨rfl, hdtd, rfl, rfl, rfl, rfl, rfl, rfl⟩ := h
  exact ⟨_, rfl, hdtd⟩

theorem takeEntity {e e' : Entity} (he : EntityFollows white e e') :
    PrologFollows white (p.takeEntity e) (p'.takeEntity e') := by
  obtain ⟨dtd', rfl, hdtd⟩ := h.exists_dtd
  unfold Prolog.takeEntity
  dsimp only
  split
  · exact of_dtd (hdtd.declareEntity _ he)
  · exact h

theorem takeAttribute {value value' : Option Text} (hvalue : Option.Rel (Agrees white p.verbatim) value value') :
    PrologFollows white (p.takeAttribute value) (p'.takeAttribute value') := by
  obtain ⟨dtd', rfl, hdtd⟩ := h.exists_dtd
  have hnone : value.isNone = value'.isNone := by
    cases hvalue <;> rfl
  unfold Prolog.takeAttribute
  dsimp only
  rw [← hdtd.reading, ← hnone]
  split
  · refine of_dtd ?_
    apply hdtd.declareAttribute
    exact ⟨rfl, rfl, hvalue⟩
  · exact h

theorem takeModel : Carried white p.takeModel p'.takeModel := by
  obtain ⟨dtd', rfl, hdtd⟩ := h.exists_dtd
  unfold Prolog.takeModel
  dsimp only
  rw [← hdtd.elements]
  split
  · exact .error _ _
  · refine .goOn (of_dtd ?_) (by decide)
    exact { hdtd with elements := rfl }

theorem openGroup {expect : Expect} (hstart : expect ≠ .start) :
    Carried white (p.openGroup expect) (p'.openGroup expect) := by
  obtain ⟨dtd', rfl, hdtd⟩ := h.exists_dtd
  refine .goOn (of_dtd ?_) hstart
  exact hdtd

theorem closeGroup : Carried white p.closeGroup p'.closeGroup := by
  obtain ⟨dtd', rfl, hdtd⟩ := h.exists_dtd
  unfold Prolog.closeGroup
  dsimp only
  split
  · refine takeModel (of_dtd ?_)
    exact hdtd
  · refine .goOn (of_dtd ?_) (by decide)
    exact hdtd

theorem takeSeparator (place place' : Text) (separator : Separator) :
    Carried white (p.takeSeparator place separator) (p'.takeSeparator place' separator) := by
  obtain ⟨dtd', rfl, hdtd⟩ := h.exists_dtd
  unfold Prolog.takeSeparator
  dsimp only
  split
  · split
    · exact .goOn h (by decide)
    · exact .error _ _
  · refine .goOn (of_dtd ?_) (by decide)
    exact hdtd
  · exact .goOn h (by decide)

theorem takeEntityValue (hw : White white) (place place' : Text) {body body' : Text}
    (hbody : Reflowed white body body') :
    Carried white (p.takeEntityValue place body) (p'.takeEntityValue place' body') := by
  intro q hq
  obtain ⟨dtd', rfl, hdtd⟩ := h.exists_dtd
  unfold Prolog.takeEntityValue at hq ⊢
  dsimp only
  rw [← hdtd.reading]
  split at hq
  · rename_i hreading
    rw [if_pos hreading]
    obtain ⟨text, htext, hq⟩ := bind_eq_ok hq
    obtain ⟨text', htext', hreflow⟩ := entityValue_follows hw (mapError_eq_ok.mp htext) hbody
    have hgoOn : ∀ {d d' : Dtd}, DtdFollows white d d' →
        Carried white (Prolog.goOn { p with dtd := d } .declarationClose)
          (Prolog.goOn { p with dtd := d' } .declarationClose) := by
      intro d d' hd
      refine .goOn (of_dtd ?_) (by decide)
      exact hd
    rw [mapError_eq_ok.mpr htext']
    dsimp only [bind, Except.bind] at hq ⊢
    split at hq
    · exact hgoOn (hdtd.declareEntity _ (.internal hreflow)) q hq
    · exact hgoOn hdtd q hq
  · rename_i hreading
    rw [if_neg hreading]
    exact Carried.goOn h (by decide) q hq

theorem takeDefault (hw : White white) (place place' : Text) {body body' : Text} (hbody : Reflowed white body body') :
    Carried white (p.takeDefault place body) (p'.takeDefault place' body') := by
  intro q hq
  have hverbatim := h.verbatim
  have hdtd := h.dtd
  unfold Prolog.takeDefault at hq ⊢
  rw [← hdtd.reading, ← hdtd.strict, ← hverbatim]
  split at hq
  · rename_i hreading
    rw [if_pos hreading]
    obtain ⟨value, hvalue, hq⟩ := bind_eq_ok hq
    obtain ⟨value', hvalue', hagrees⟩ := attributeValue_follows hw hdtd.entitiesFollow hdtd.entities.length_eq hbody
      (mapError_eq_ok.mp hvalue)
    rw [hvalue']
    exact Carried.goOn (h.takeAttribute (.some hagrees)) (by decide) q hq
  · rename_i hreading
    rw [if_neg hreading]
    exact Carried.goOn h (by decide) q hq

end PrologFollows

theorem checkPublicId_eq_ok {place body : Text} :
    Prolog.checkPublicId place body = .ok () ↔ ∀ c ∈ body, isPublicIdChar c = true := by
  unfold Prolog.checkPublicId
  rw [← List.dropWhile_eq_nil_iff]
  split
  · rename_i hnil
    simp [hnil]
  · rename_i hne
    refine iff_of_false (by simp) fun hnil => hne hnil

theorem checkPublicId_follows {place body body' : Text} (place' : Text) (hbody : Reflowed white body body')
    (h : Prolog.checkPublicId place body = .ok ()) : Prolog.checkPublicId place' body' = .ok () := by
  rw [checkPublicId_eq_ok] at h ⊢
  intro c hc
  rcases hbody.mem_right hc with hmem | rfl | rfl
  · exact h c hmem
  · decide
  · decide

namespace Carried

variable {p p' : Prolog} {place place' : Text} {body body' : Text}

/-- Behind a public identifier both readings go on. -/
theorem publicId (hbody : Reflowed white body body') {x x' : Except Fault Prolog} (hx : Carried white x x') :
    Carried white (do Prolog.checkPublicId place body; x) (do Prolog.checkPublicId place' body'; x') := by
  intro q hq
  obtain ⟨_, hid, hq⟩ := bind_eq_ok hq
  have hid' := checkPublicId_follows place' hbody hid
  simp only [bind, Except.bind, hid']
  exact hx q hq

end Carried

namespace Prolog

variable {p p' : Prolog} (h : PrologFollows white p p') (place place' : Text)
include h

theorem step_literal (hw : White white) {body body' : Text} (hbody : Reflowed white body body') :
    Carried white (p.step place (.literal body)) (p'.step place' (.literal body')) := by
  have hincomplete : ∀ {expect}, expect ≠ .start →
      Carried white (goOn { p with dtd := { p.dtd with incomplete := true } } expect)
        (goOn { p' with dtd := { p'.dtd with incomplete := true } } expect) := by
    intro expect hstart
    refine .goOn ?_ hstart
    exact { h with dtd := { h.dtd with incomplete := rfl } }
  unfold step
  rw [← h.expect]
  cases p.expect with
  | doctypePublicId => exact .publicId hbody (hincomplete (by decide))
  | doctypeSystemId => exact hincomplete (by decide)
  | entityDefinition parameter => exact h.takeEntityValue hw place place' hbody
  | entityPublicId parameter => exact .publicId hbody (.goOn h (by rintro ⟨⟩))
  | entitySystemId parameter => exact .goOn h (by rintro ⟨⟩)
  | notationPublicId => exact .publicId hbody (.goOn h (by decide))
  | notationSystemId => exact .goOn h (by decide)
  | notationRest => exact .goOn h (by decide)
  | attributeDefault => exact h.takeDefault hw place place' hbody
  | fixedDefault => exact h.takeDefault hw place place' hbody
  | _ => exact .refuse _ _ _

/-- All other tokens are the same in both texts. Most of them only lead on; what is left after these are the tokens that
the readings take a name or a type from, and the reference after which declarations may not count. -/
theorem step_same {token : PrologToken} (hliteral : ∀ body, token ≠ .literal body) :
    Carried white (p.step place token) (p'.step place' token) := by
  unfold step
  rw [← h.expect, ← h.dtd.reading, ← h.dtd.standalone]
  split
  · split
    · exact .goOn h (by decide)
    · exact .ok h ‹_›
  · generalize hexpect : p.expect = expect
    split
    all_goals try exact absurd rfl (hliteral _)
    all_goals try apply_rules [Carried.refuse, h.openGroup, h.closeGroup, h.takeSeparator, h.takeModel, Carried.goOn,
      Carried.ite, Carried.ok, h.takeEntity, h.takeAttribute, EntityFollows.external, EntityFollows.unparsed,
      Option.Rel.none]
    -- no step leads back to the start
    all_goals try simp only [hexpect, ne_eq, reduceCtorEq, not_false_eq_true]
    · exact { h with expect := rfl, dtd := { h.dtd with incomplete := rfl, reading := rfl } }
    · exact { h with expect := rfl, entity := rfl }
    · exact { h with expect := rfl, entity := rfl }
    · exact { h with expect := rfl, element := rfl }
    · exact { h with expect := rfl, attributeName := rfl, verbatim := rfl, identifies := rfl }
    · exact { h with expect := rfl, verbatim := rfl, identifies := rfl }
    · exact { h with expect := rfl, element := rfl, groups := rfl }

/-- One token takes both readings on in the same way. -/
theorem step_follows (hw : White white) {token token' : PrologToken} (htoken : TokenFollows white token token') :
    Carried white (p.step place token) (p'.step place' token') := by
  cases htoken with
  | literal hbody => exact step_literal h place place' hw hbody
  | same =>
    cases token with
    | literal body => exact step_literal h place place' hw (.refl body)
    | _ => exact step_same h place place' (by rintro _ ⟨⟩)

end Prolog

end Tidy.Xml
