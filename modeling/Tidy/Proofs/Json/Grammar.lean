/-
# Tidy.Proofs.Json.Grammar -- the grammar of JSON, with the values that it denotes

`Spells room t p` says that the text `t` spells the phrase `p`, with at most `room` arrays and objects open at
once. A phrase is a value, a value or a member with white space around it, or a comma-separated row of these; all
of them are one family, so that one induction covers the whole grammar. A document is a value with white space
around it.

The characters of a string literal are signs first: a code point, or a code unit that an escape gives by its
number. Only `meaning` joins the two units of a surrogate pair.
-/

import Tidy.Json.Reader
import Tidy.Proofs.Text.Digits

namespace Tidy.Json

open CodePoint (char)

/-! ## White space -/

/-- A text of white space only. -/
def IsGap (t : Text) : Prop := ∀ c ∈ t, isGap c = true

theorem isGap_nil : IsGap [] := by
  intro c hc
  cases hc

theorem isGap_append {s t : Text} : IsGap (s ++ t) ↔ IsGap s ∧ IsGap t := by
  simp only [IsGap, List.mem_append, or_imp, forall_and]

theorem isGap_cons {c : CodePoint} {t : Text} : IsGap (c :: t) ↔ isGap c = true ∧ IsGap t := by
  simp only [IsGap, List.mem_cons, forall_eq_or_imp]

/-! ## Strings -/

/-- What a character of a string literal stands for: a code point, or a code unit given by its number. -/
inductive Sign where
  | point (c : CodePoint)
  | unit (n : Nat)

/-- The spellings of one sign. -/
inductive SpellsSign : Text → Sign → Prop
  | plain {c : CodePoint} :
      0x20 ≤ c.toNat → c ≠ char '"' → c ≠ char '\\' → SpellsSign [c] (.point c)
  | short {e meant : CodePoint} :
      simpleEscape? e = some meant → SpellsSign [char '\\', e] (.point meant)
  | unit {a b c d : CodePoint} {n : Nat} :
      hexNumber? a b c d = some n → SpellsSign [char '\\', char 'u', a, b, c, d] (.unit n)

/-- The text between the quotes of a string literal, as a row of signs. -/
inductive SpellsSigns : Text → List Sign → Prop
  | nil : SpellsSigns [] []
  | cons {t rest : Text} {sign : Sign} {signs : List Sign} :
      SpellsSign t sign → SpellsSigns rest signs → SpellsSigns (t ++ rest) (sign :: signs)

/-- The text that a row of signs stands for: a high unit that a low one follows is joined with it. -/
def meaning : List Sign → Text
  | [] => []
  | .point c :: rest => c :: meaning rest
  | .unit high :: .unit low :: rest =>
    if CodePoint.isHigh high ∧ CodePoint.isLow low then CodePoint.ofPair high low :: meaning rest
    else CodePoint.ofNat high :: meaning (.unit low :: rest)
  | .unit n :: rest => CodePoint.ofNat n :: meaning rest

/-! ## Numbers -/

/-- The whole part of a literal: a zero, or digits of which the first is not a zero. -/
def IsWhole (t : Text) : Prop :=
  t = [char '0'] ∨ (t ≠ [] ∧ t.head? ≠ some (char '0') ∧ Text.IsDigits t)

/-- The sign of an exponent. -/
def IsSign (t : Text) : Prop := t = [] ∨ t = [char '+'] ∨ t = [char '-']

/-- The exponent part of a literal: nothing, or a mark, a sign and digits. -/
def IsExponent (e : Option (CodePoint × Text × Text)) : Prop :=
  ∀ mark sign digits, e = some (mark, sign, digits) →
    (mark = char 'e' ∨ mark = char 'E') ∧ IsSign sign ∧ digits ≠ [] ∧ Text.IsDigits digits

/-- The number literals of the grammar. A fraction without digits is no fraction, and has no point. -/
structure Numeral.WellFormed (n : Numeral) : Prop where
  whole : IsWhole n.whole
  fraction : Text.IsDigits n.fraction
  exponent : IsExponent n.exponent

/-! ## Phrases -/

/-- The phrases of the grammar. Items and members have white space around them. -/
inductive Phrase where
  | value (v : Json)
  | item (v : Json)
  | items (vs : List Json)
  | member (name : Text) (v : Json)
  | members (ms : List (Text × Json))

/-- The text spells the phrase, with at most `room` arrays and objects open at once. -/
inductive Spells : Nat → Text → Phrase → Prop
  | word {room : Nat} {w : Text} {v : Json} :
      (w, v) ∈ keywords → Spells room w (.value v)
  | number {room : Nat} {n : Numeral} {v : Json} :
      n.WellFormed → n.value .strict = .ok v → Spells room n.literal (.value v)
  | string {room : Nat} {t : Text} {signs : List Sign} :
      SpellsSigns t signs → Spells room (char '"' :: (t ++ [char '"'])) (.value (.str (meaning signs)))
  | emptyArray {room : Nat} {gap : Text} :
      IsGap gap → Spells (room + 1) (char '[' :: (gap ++ [char ']'])) (.value (.arr []))
  | array {room : Nat} {t : Text} {vs : List Json} :
      Spells room t (.items vs) → Spells (room + 1) (char '[' :: (t ++ [char ']'])) (.value (.arr vs))
  | emptyObject {room : Nat} {gap : Text} :
      IsGap gap → Spells (room + 1) (char '{' :: (gap ++ [char '}'])) (.value (.obj []))
  | object {room : Nat} {t : Text} {ms : List (Text × Json)} :
      Spells room t (.members ms) → Spells (room + 1) (char '{' :: (t ++ [char '}'])) (.value (.ofMembers ms))
  | item {room : Nat} {before t after : Text} {v : Json} :
      IsGap before → Spells room t (.value v) → IsGap after →
      Spells room (before ++ (t ++ after)) (.item v)
  | oneItem {room : Nat} {t : Text} {v : Json} :
      Spells room t (.item v) → Spells room t (.items [v])
  | moreItems {room : Nat} {t rest : Text} {v : Json} {vs : List Json} :
      Spells room t (.item v) → Spells room rest (.items vs) →
      Spells room (t ++ char ',' :: rest) (.items (v :: vs))
  | member {room : Nat} {before name after t : Text} {signs : List Sign} {v : Json} :
      IsGap before → SpellsSigns name signs → IsGap after → Spells room t (.item v) →
      Spells room (before ++ char '"' :: (name ++ char '"' :: (after ++ char ':' :: t))) (.member (meaning signs) v)
  | oneMember {room : Nat} {t name : Text} {v : Json} :
      Spells room t (.member name v) → Spells room t (.members [(name, v)])
  | moreMembers {room : Nat} {t rest name : Text} {v : Json} {ms : List (Text × Json)} :
      Spells room t (.member name v) → Spells room rest (.members ms) →
      Spells room (t ++ char ',' :: rest) (.members ((name, v) :: ms))

/-! ## White space around phrases -/

theorem Spells.bareItem {room : Nat} {t : Text} {v : Json} (h : Spells room t (.value v)) :
    Spells room t (.item v) := by
  have hitem : Spells room ([] ++ (t ++ [])) (.item v) := .item isGap_nil h isGap_nil
  rwa [List.nil_append, List.append_nil] at hitem

theorem Spells.item_gap {room : Nat} {gap t : Text} {v : Json} (hgap : IsGap gap)
    (h : Spells room t (.item v)) : Spells room (gap ++ t) (.item v) := by
  cases h with
  | item hbefore hvalue hafter =>
    rw [← List.append_assoc]
    exact .item (isGap_append.mpr ⟨hgap, hbefore⟩) hvalue hafter

theorem Spells.items_gap {room : Nat} {gap t : Text} {vs : List Json} (hgap : IsGap gap)
    (h : Spells room t (.items vs)) : Spells room (gap ++ t) (.items vs) := by
  cases h with
  | oneItem hitem => exact .oneItem (hitem.item_gap hgap)
  | moreItems hitem hitems =>
    rw [← List.append_assoc]
    exact .moreItems (hitem.item_gap hgap) hitems

theorem Spells.member_gap {room : Nat} {gap t name : Text} {v : Json} (hgap : IsGap gap)
    (h : Spells room t (.member name v)) : Spells room (gap ++ t) (.member name v) := by
  cases h with
  | member hbefore hname hafter hitem =>
    rw [← List.append_assoc]
    exact .member (isGap_append.mpr ⟨hgap, hbefore⟩) hname hafter hitem

theorem Spells.members_gap {room : Nat} {gap t : Text} {ms : List (Text × Json)} (hgap : IsGap gap)
    (h : Spells room t (.members ms)) : Spells room (gap ++ t) (.members ms) := by
  cases h with
  | oneMember hmember => exact .oneMember (hmember.member_gap hgap)
  | moreMembers hmember hmembers =>
    rw [← List.append_assoc]
    exact .moreMembers (hmember.member_gap hgap) hmembers

theorem Spells.item_gap_after {room : Nat} {gap t : Text} {v : Json} (h : Spells room t (.item v))
    (hgap : IsGap gap) : Spells room (t ++ gap) (.item v) := by
  cases h with
  | item hbefore hvalue hafter =>
    rw [List.append_assoc, List.append_assoc]
    exact .item hbefore hvalue (isGap_append.mpr ⟨hafter, hgap⟩)

theorem Spells.items_gap_after {room : Nat} {gap t : Text} {vs : List Json} (h : Spells room t (.items vs))
    (hgap : IsGap gap) : Spells room (t ++ gap) (.items vs) := by
  induction vs generalizing t with
  | nil => cases h
  | cons v vs ih =>
    cases h with
    | oneItem hitem => exact .oneItem (hitem.item_gap_after hgap)
    | moreItems hitem hitems =>
      rw [List.append_assoc, List.cons_append]
      exact .moreItems hitem (ih hitems)

theorem Spells.member_gap_after {room : Nat} {gap t name : Text} {v : Json} (h : Spells room t (.member name v))
    (hgap : IsGap gap) : Spells room (t ++ gap) (.member name v) := by
  cases h with
  | member hbefore hname hafter hitem =>
    simp only [List.append_assoc, List.cons_append]
    exact .member hbefore hname hafter (hitem.item_gap_after hgap)

theorem Spells.members_gap_after {room : Nat} {gap t : Text} {ms : List (Text × Json)}
    (h : Spells room t (.members ms)) (hgap : IsGap gap) : Spells room (t ++ gap) (.members ms) := by
  induction ms generalizing t with
  | nil => cases h
  | cons m ms ih =>
    cases h with
    | oneMember hmember => exact .oneMember (hmember.member_gap_after hgap)
    | moreMembers hmember hmembers =>
      rw [List.append_assoc, List.cons_append]
      exact .moreMembers hmember (ih hmembers)

/-! ## Documents -/

/-- The text is a JSON document, and denotes the value. -/
def Denotes (source : Text) (v : Json) : Prop := Spells nestingLimit source (.item v)

end Tidy.Json
