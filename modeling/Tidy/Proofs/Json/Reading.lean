/-
# Tidy.Proofs.Json.Reading -- the reader accepts exactly the grammar

Main statement: `parse` gives a value for a text exactly if the text denotes that value (`parse_eq_ok_iff`). One
direction is an induction over the grammar: what spells a phrase is read back, whatever follows it. The other is
an induction over the length of the text, with one step for each of the three functions of the reader.
-/

import Tidy.Proofs.Json.Literals
import Tidy.Text.Blank

namespace Tidy.Json

open CodePoint (char)

/-! ## White space and first characters -/

theorem skipGap_append {gap : Text} (h : IsGap gap) (t : Text) : skipGap (gap ++ t) = skipGap t :=
  List.dropWhile_append_of_pos h

theorem skipGap_of_head {t : Text} (h : ∀ c, t.head? = some c → isGap c = false) : skipGap t = t := by
  cases t with
  | nil => rfl
  | cons c t =>
    rw [skipGap, List.dropWhile_cons, h c rfl]
    rfl

/-- Skipping white space takes a gap away, and leaves something else in front. -/
theorem skipGap_spec (s : Text) : ∃ gap, IsGap gap ∧ s = gap ++ skipGap s :=
  ⟨s.takeWhile isGap, List.all_eq_true.mp List.all_takeWhile, List.takeWhile_append_dropWhile.symm⟩

/-- The characters that start a value. -/
def StartsValue (c : CodePoint) : Prop :=
  c.isAsciiDigit = true ∨
    c ∈ [char '"', char '[', char '{', char 'n', char 't', char 'f', char '-']

theorem startsValue_not_gap {c : CodePoint} (h : StartsValue c) : isGap c = false := by
  rcases h with hdigit | hmem
  · by_contra hgap
    simp only [Bool.not_eq_false, isGap, Bool.or_eq_true, decide_eq_true_eq] at hgap
    rcases hgap with ((rfl | rfl) | rfl) | rfl <;> cases hdigit
  · revert c
    decide

theorem startsValue_not_blank {c : CodePoint} (h : StartsValue c) : c.isBlank = false := by
  rcases h with hdigit | hmem
  · simp only [CodePoint.isAsciiDigit, CodePoint.within, Bool.and_eq_true, decide_eq_true_eq] at hdigit
    rw [Bool.eq_false_iff]
    intro hblank
    simp only [CodePoint.isBlank, CodePoint.inTable, CodePoint.blankRanges, CodePoint.within, List.any_cons,
      List.any_nil, Bool.or_false, Bool.or_eq_true, Bool.and_eq_true, decide_eq_true_eq] at hblank
    omega
  · revert c
    decide

theorem startsValue_ne {c d : CodePoint} (h : StartsValue c) (hd : ¬ StartsValue d) : c ≠ d := by
  rintro rfl
  exact hd h

instance (c : CodePoint) : Decidable (StartsValue c) := inferInstanceAs (Decidable (_ ∨ _))

/-- What follows a value in an array, in an object or in a document, after white space. -/
def Closes (rest : Text) : Prop :=
  ∀ c, rest.head? = some c → c ∈ [char ',', char ']', char '}']

theorem closes_cons {c : CodePoint} (rest : Text) (h : c ∈ [char ',', char ']', char '}']) :
    Closes (c :: rest) := by
  intro d hd
  obtain rfl : c = d := by injection hd
  exact h

theorem Closes.skipGap_eq {rest : Text} (h : Closes rest) : skipGap rest = rest := by
  apply skipGap_of_head
  intro c hc
  exact (by decide : ∀ c ∈ [char ',', char ']', char '}'], isGap c = false) c (h c hc)

/-- Neither white space nor what closes a value can continue a number. -/
theorem Closes.stops {gap rest : Text} (hgap : IsGap gap) (h : Closes rest) : Stops (gap ++ rest) := by
  intro c hc
  cases gap with
  | nil =>
    exact (by decide : ∀ c ∈ [char ',', char ']', char '}'],
      c.isAsciiDigit = false ∧ c ≠ char '.' ∧ ¬ (c = char 'e' ∨ c = char 'E')) c (h c hc)
  | cons d gap =>
    obtain rfl : d = c := by injection hc
    have hd := (isGap_cons.mp hgap).1
    simp only [isGap, Bool.or_eq_true, decide_eq_true_eq] at hd
    rcases hd with ((rfl | rfl) | rfl) | rfl <;> decide

/-- A value begins with a character that starts a value. -/
theorem Spells.value_head {room : Nat} {t : Text} {v : Json} (h : Spells room t (.value v)) :
    ∃ c rest, t = c :: rest ∧ StartsValue c := by
  cases h with
  | word hmem =>
    simp only [keywords, List.mem_cons, Prod.mk.injEq, List.not_mem_nil, or_false] at hmem
    rcases hmem with ⟨rfl, -⟩ | ⟨rfl, -⟩ | ⟨rfl, -⟩ <;> exact ⟨_, _, rfl, by decide⟩
  | @number _ n _ hn _ =>
    obtain ⟨c, digits, hwhole, hc⟩ := isWhole_head hn.whole
    rw [Numeral.literal_eq, hwhole]
    cases n.negative with
    | true => exact ⟨_, _, rfl, by decide⟩
    | false => exact ⟨_, _, rfl, Or.inl hc⟩
  | _ => exact ⟨_, _, rfl, by decide⟩

theorem Spells.value_skipGap {room : Nat} {t : Text} {v : Json} (h : Spells room t (.value v)) (rest : Text) :
    skipGap (t ++ rest) = t ++ rest := by
  obtain ⟨c, more, rfl, hc⟩ := h.value_head
  apply skipGap_of_head
  intro d hd
  obtain rfl : c = d := by injection hd
  exact startsValue_not_gap hc

/-- Behind white space, an item begins with a character that starts a value. -/
theorem Spells.item_head {room : Nat} {t : Text} {v : Json} (h : Spells room t (.item v)) (rest : Text) :
    ∃ c more, skipGap (t ++ rest) = c :: more ∧ StartsValue c := by
  cases h with
  | item hbefore hvalue _ =>
    obtain ⟨c, more, rfl, hc⟩ := hvalue.value_head
    rw [List.append_assoc, skipGap_append hbefore, List.append_assoc, hvalue.value_skipGap]
    exact ⟨c, _, rfl, hc⟩

theorem Spells.items_head {room : Nat} {t : Text} {vs : List Json} (h : Spells room t (.items vs))
    (rest : Text) : ∃ c more, skipGap (t ++ rest) = c :: more ∧ StartsValue c := by
  cases h with
  | oneItem hitem => exact hitem.item_head rest
  | moreItems hitem _ =>
    rw [List.append_assoc]
    exact hitem.item_head _

/-! ## What is spelled is read, in every dialect -/

variable {d : Dialect}

/-- The text is read as the phrase, whatever may follow it. -/
def IsRead (d : Dialect) (room : Nat) (t : Text) : Phrase → Prop
  | .value v => ∀ rest, Stops rest → found (readValue d room (t ++ rest)) = some (v, rest)
  | .item v => ∀ rest, Closes rest → ∃ after,
      found (readValue d room (skipGap (t ++ rest))) = some (v, after) ∧ skipGap after = rest
  | .items vs => ∀ rest,
      found (readItems d room (skipGap (t ++ char ']' :: rest))) = some (vs, rest)
  | .member name v => ∀ rest, Closes rest → ∃ inside tail after last,
      skipGap (t ++ rest) = char '"' :: inside ∧
      found (readString (char '"' :: inside) inside) = some (name, tail) ∧
      skipGap tail = char ':' :: after ∧
      found (readValue d room (skipGap after)) = some (v, last) ∧ skipGap last = rest
  | .members ms => ∀ rest,
      found (readMembers d room (skipGap (t ++ char '}' :: rest))) = some (ms, rest)

theorem found_readValue_word {room : Nat} {w : Text} {v : Json} (h : (w, v) ∈ keywords) (rest : Text) :
    found (readValue d room (w ++ rest)) = some (v, rest) := by
  simp only [keywords, List.mem_cons, Prod.mk.injEq, List.not_mem_nil, or_false] at h
  rcases h with ⟨rfl, rfl⟩ | ⟨rfl, rfl⟩ | ⟨rfl, rfl⟩
  all_goals
    refine (found_readValue_scalar d room _ (by decide) (by decide) (by decide)).trans ?_
    exact found_readScalar_word d rfl

/-- A number literal starts with no word. -/
theorem readWord?_numeral {n : Numeral} (h : n.WellFormed) (rest : Text) :
    readWord? keywords (n.literal ++ rest) = none ∧ readWord? constants (n.literal ++ rest) = none := by
  obtain ⟨c, digits, hwhole, hc⟩ := isWhole_head h.whole
  have hne : ∀ d, d.isAsciiDigit = false → d ≠ c := by
    rintro d hd rfl
    rw [hc] at hd
    cases hd
  rw [Numeral.literal_eq, hwhole]
  constructor
  · apply readWord?_eq_none
    simp only [keywords, List.forall_mem_cons, List.not_mem_nil, false_imp_iff, implies_true, and_true]
    cases n.negative with
    | true => exact ⟨rfl, rfl, rfl⟩
    | false => exact ⟨if_neg (hne _ rfl), if_neg (hne _ rfl), if_neg (hne _ rfl)⟩
  · apply readWord?_eq_none
    simp only [constants, List.forall_mem_cons, List.not_mem_nil, false_imp_iff, implies_true, and_true]
    cases n.negative with
    | true => exact ⟨rfl, rfl, if_neg (hne _ rfl)⟩
    | false => exact ⟨if_neg (hne _ rfl), if_neg (hne _ rfl), if_neg (hne _ rfl)⟩

theorem found_readValue_numeral {room : Nat} {n : Numeral} {v : Json} (h : n.WellFormed)
    (hv : n.value .strict = .ok v) {rest : Text} (hrest : Stops rest) :
    found (readValue d room (n.literal ++ rest)) = some (v, rest) := by
  obtain ⟨hkeyword, hconstant⟩ := readWord?_numeral h rest
  have hscalar : found (readScalar d (n.literal ++ rest)) = some (v, rest) := by
    rw [found_readScalar_numeral d hkeyword hconstant (readNumeral?_append h hrest), Numeral.value_of_strict d hv]
    rfl
  rw [← hscalar, Numeral.literal_eq]
  obtain ⟨c, digits, hwhole, hc⟩ := isWhole_head h.whole
  rw [hwhole]
  cases n.negative with
  | true => exact found_readValue_scalar d room _ (by decide) (by decide) (by decide)
  | false =>
    have hne : ∀ d, d.isAsciiDigit = false → c ≠ d := by
      rintro d hd rfl
      rw [hc] at hd
      cases hd
    exact found_readValue_scalar d room _ (hne _ rfl) (hne _ rfl) (hne _ rfl)

theorem isRead_array {room : Nat} {t : Text} {vs : List Json} (h : Spells room t (.items vs))
    (ih : IsRead d room t (.items vs)) :
    IsRead d (room + 1) (char '[' :: (t ++ [char ']'])) (.value (.arr vs)) := by
  intro rest _
  obtain ⟨c, more, hskip, hc⟩ := h.items_head (char ']' :: rest)
  have hread := ih rest
  rw [hskip] at hread
  rw [List.cons_append, List.append_assoc, found_readValue_array, List.singleton_append, foundInside, hskip]
  dsimp only
  rw [if_neg (startsValue_ne hc (by decide)), hread]
  rfl

theorem isRead_object {room : Nat} {t : Text} {ms : List (Text × Json)}
    (ih : IsRead d room t (.members ms)) :
    IsRead d (room + 1) (char '{' :: (t ++ [char '}'])) (.value (.ofMembers ms)) := by
  intro rest _
  have hread := ih rest
  rw [List.cons_append, List.append_assoc, found_readValue_object, List.singleton_append, foundInside]
  obtain ⟨inside, hskip⟩ := found_readMembers_ne_none (by rw [hread]; exact Option.some_ne_none _)
  rw [hskip] at hread
  rw [hskip]
  dsimp only
  rw [if_neg (by decide), hread]
  rfl

theorem isRead_item {room : Nat} {before t after : Text} {v : Json} (hbefore : IsGap before)
    (h : Spells room t (.value v)) (hafter : IsGap after) (ih : IsRead d room t (.value v)) :
    IsRead d room (before ++ (t ++ after)) (.item v) := by
  intro rest hrest
  refine ⟨after ++ rest, ?_, ?_⟩
  · rw [List.append_assoc, skipGap_append hbefore, List.append_assoc, h.value_skipGap]
    exact ih _ (hrest.stops hafter)
  · rw [skipGap_append hafter, hrest.skipGap_eq]

theorem isRead_member {room : Nat} {before name after t : Text} {signs : List Sign} {v : Json}
    (hbefore : IsGap before) (hname : SpellsSigns name signs) (hafter : IsGap after)
    (ih : IsRead d room t (.item v)) :
    IsRead d room (before ++ char '"' :: (name ++ char '"' :: (after ++ char ':' :: t)))
      (.member (meaning signs) v) := by
  intro rest hrest
  obtain ⟨last, hvalue, hlast⟩ := ih rest hrest
  refine ⟨name ++ char '"' :: (after ++ char ':' :: (t ++ rest)), after ++ char ':' :: (t ++ rest),
    t ++ rest, last, ?_, ?_, ?_, hvalue, hlast⟩
  · rw [List.append_assoc, skipGap_append hbefore]
    simp only [List.cons_append, List.append_assoc]
    rfl
  · exact found_readString_of_spells _ _ hname
  · rw [skipGap_append hafter]
    rfl

theorem IsRead.foundMember {room : Nat} {t name : Text} {v : Json} (h : IsRead d room t (.member name v)) {rest : Text}
    (hrest : Closes rest) :
    ∃ after, foundMember d room (skipGap (t ++ rest)) = some ((name, v), after) ∧ skipGap after = rest := by
  obtain ⟨inside, tail, value, after, hskip, hname, hcolon, hvalue, hafter⟩ := h rest hrest
  refine ⟨after, ?_, hafter⟩
  rw [hskip, Json.foundMember, if_pos rfl, hname, Option.bind_some, hcolon]
  dsimp only
  rw [if_pos rfl, hvalue, Option.map_some]

/-- What spells a phrase is read as that phrase. -/
theorem isRead_of_spells (d : Dialect) {room : Nat} {t : Text} {p : Phrase} (h : Spells room t p) :
    IsRead d room t p := by
  induction h with
  | word hmem => exact fun rest _ => found_readValue_word hmem rest
  | number hn hv => exact fun rest hrest => found_readValue_numeral hn hv hrest
  | string hsigns =>
    intro rest _
    rw [List.cons_append, List.append_assoc, found_readValue_string, List.singleton_append,
      found_readString_of_spells _ _ hsigns]
    rfl
  | emptyArray hgap =>
    intro rest _
    rw [List.cons_append, List.append_assoc, found_readValue_array, foundInside, skipGap_append hgap]
    rfl
  | array hitems ih => exact isRead_array hitems ih
  | emptyObject hgap =>
    intro rest _
    rw [List.cons_append, List.append_assoc, found_readValue_object, foundInside, skipGap_append hgap]
    rfl
  | object _ ih => exact isRead_object ih
  | item hbefore hvalue hafter ih => exact isRead_item hbefore hvalue hafter ih
  | oneItem _ ih =>
    intro rest
    obtain ⟨after, hvalue, hafter⟩ := ih (char ']' :: rest) (closes_cons rest (by decide))
    rw [found_readItems, foundRow_last hvalue hafter]
  | moreItems _ _ ih ihs =>
    intro rest
    rw [List.append_assoc, List.cons_append]
    -- the item ends at the comma, and the others are read behind it
    obtain ⟨after, hvalue, hafter⟩ := ih (char ',' :: (_ ++ char ']' :: rest)) (closes_cons _ (by decide))
    rw [found_readItems, foundRow_cons (by decide) hvalue hafter (ihs rest)]
  | member hbefore hname hafter _ ih => exact isRead_member hbefore hname hafter ih
  | oneMember _ ih =>
    intro rest
    obtain ⟨after, hmember, hafter⟩ := ih.foundMember (closes_cons (c := char '}') rest (by decide))
    rw [found_readMembers, foundRow_last hmember hafter]
  | moreMembers _ _ ih ihs =>
    intro rest
    rw [List.append_assoc, List.cons_append]
    obtain ⟨after, hmember, hafter⟩ := ih.foundMember (closes_cons (c := char ',') (_ ++ char '}' :: rest) (by decide))
    rw [found_readMembers, foundRow_cons (by decide) hmember hafter (ihs rest)]

/-! ## What is read is spelled -/

/-- What the functions of the reader find in a text is what the part that they take away from it spells. -/
structure SoundAt (s : Text) : Prop where
  value {room : Nat} {v : Json} {rest : Text} : found (readValue .strict room s) = some (v, rest) →
    ∃ t, Spells room t (.value v) ∧ s = t ++ rest
  items {room : Nat} {vs : List Json} {rest : Text} : found (readItems .strict room s) = some (vs, rest) →
    ∃ t, Spells room t (.items vs) ∧ s = t ++ char ']' :: rest
  members {room : Nat} {ms : List (Text × Json)} {rest : Text} :
    found (readMembers .strict room s) = some (ms, rest) →
    ∃ t, Spells room t (.members ms) ∧ s = t ++ char '}' :: rest

theorem spells_of_found_readScalar {room : Nat} {s rest : Text} {v : Json}
    (h : found (readScalar .strict s) = some (v, rest)) :
    ∃ t, Spells room t (.value v) ∧ s = t ++ rest := by
  rw [found_readScalar] at h
  split at h
  · rename_i w value tail hword
    rw [Option.some.injEq, Prod.mk.injEq] at h
    obtain ⟨rfl, rfl⟩ := h
    obtain ⟨hmem, hs⟩ := readWord?_sound hword
    exact ⟨w, .word hmem, hs⟩
  · split at h
    · cases h
    · obtain ⟨⟨n, tail⟩, hn, hvalue⟩ := Option.bind_eq_some_iff.mp h
      obtain ⟨u, hu, hpair⟩ := Option.map_eq_some_iff.mp hvalue
      rw [Prod.mk.injEq] at hpair
      obtain ⟨rfl, rfl⟩ := hpair
      obtain ⟨hwell, hs⟩ := readNumeral?_sound hn
      refine ⟨n.literal, .number hwell ?_, hs⟩
      cases hv : n.value .strict with
      | error fault =>
        rw [hv] at hu
        cases hu
      | ok w =>
        rw [hv] at hu
        injection hu with hw
        rw [hw]

theorem spells_of_found_array {room : Nat} {s rest : Text} {v : Json}
    (ih : ∀ t : Text, t.length < (char '[' :: s).length → SoundAt t)
    (h : found (readValue .strict (room + 1) (char '[' :: s)) = some (v, rest)) :
    ∃ t, Spells (room + 1) t (.value v) ∧ char '[' :: s = t ++ rest := by
  obtain ⟨gap, hgap, hs⟩ := skipGap_spec s
  have hlen := length_skipGap_le s
  rw [found_readValue_array] at h
  rcases foundInside_eq_some h with ⟨hskip, rfl⟩ | ⟨vs, hitems, rfl⟩
  · refine ⟨_, .emptyArray hgap, ?_⟩
    rw [List.cons_append, List.append_assoc, List.singleton_append, ← hskip, ← hs]
  · obtain ⟨t, hspells, ht⟩ := (ih _ (Nat.lt_succ_of_le hlen)).items hitems
    refine ⟨_, .array (hspells.items_gap hgap), ?_⟩
    rw [List.cons_append, List.append_assoc, List.append_assoc, List.singleton_append, ← ht, ← hs]

theorem spells_of_found_object {room : Nat} {s rest : Text} {v : Json}
    (ih : ∀ t : Text, t.length < (char '{' :: s).length → SoundAt t)
    (h : found (readValue .strict (room + 1) (char '{' :: s)) = some (v, rest)) :
    ∃ t, Spells (room + 1) t (.value v) ∧ char '{' :: s = t ++ rest := by
  obtain ⟨gap, hgap, hs⟩ := skipGap_spec s
  have hlen := length_skipGap_le s
  rw [found_readValue_object] at h
  rcases foundInside_eq_some h with ⟨hskip, rfl⟩ | ⟨ms, hmembers, rfl⟩
  · refine ⟨_, .emptyObject hgap, ?_⟩
    rw [List.cons_append, List.append_assoc, List.singleton_append, ← hskip, ← hs]
  · obtain ⟨t, hspells, ht⟩ := (ih _ (Nat.lt_succ_of_le hlen)).members hmembers
    refine ⟨_, .object (hspells.members_gap hgap), ?_⟩
    rw [List.cons_append, List.append_assoc, List.append_assoc, List.singleton_append, ← ht, ← hs]

theorem spells_of_found_readValue {room : Nat} {s rest : Text} {v : Json}
    (ih : ∀ t : Text, t.length < s.length → SoundAt t)
    (h : found (readValue .strict room s) = some (v, rest)) :
    ∃ t, Spells room t (.value v) ∧ s = t ++ rest := by
  cases s with
  | nil =>
    rw [found_readValue_nil] at h
    cases h
  | cons c s =>
    by_cases hquote : c = char '"'
    · subst hquote
      rw [found_readValue_string] at h
      obtain ⟨⟨w, tail⟩, hstring, hpair⟩ := Option.map_eq_some_iff.mp h
      rw [Prod.mk.injEq] at hpair
      obtain ⟨rfl, rfl⟩ := hpair
      obtain ⟨t, signs, hsigns, hmeaning, hs⟩ := spells_of_found_readString hstring
      dsimp only at hmeaning hs ⊢
      rw [← hmeaning, hs]
      exact ⟨_, .string hsigns, by rw [List.cons_append, List.append_assoc, List.singleton_append]⟩
    by_cases harray : c = char '['
    · subst harray
      cases room with
      | zero =>
        rw [found_readValue_full _ (Or.inl rfl)] at h
        cases h
      | succ room => exact spells_of_found_array ih h
    by_cases hobject : c = char '{'
    · subst hobject
      cases room with
      | zero =>
        rw [found_readValue_full _ (Or.inr rfl)] at h
        cases h
      | succ room => exact spells_of_found_object ih h
    rw [found_readValue_scalar _ _ _ hquote harray hobject] at h
    exact spells_of_found_readScalar h

/-- A value that was read and the white space that was skipped after it are an item. -/
theorem spells_item_of_value {room : Nat} {s rest : Text} {v : Json}
    (h : ∃ t, Spells room t (.value v) ∧ s = t ++ rest) :
    ∃ t, Spells room t (.item v) ∧ s = t ++ skipGap rest := by
  obtain ⟨t, hvalue, ht⟩ := h
  obtain ⟨gap, hgap, hrest⟩ := skipGap_spec rest
  refine ⟨[] ++ (t ++ gap), .item isGap_nil hvalue hgap, ?_⟩
  rw [List.nil_append, List.append_assoc, ← hrest, ht]

theorem spells_of_found_readItems {room : Nat} {s rest : Text} {vs : List Json}
    (ih : ∀ t : Text, t.length < s.length → SoundAt t)
    (h : found (readItems .strict room s) = some (vs, rest)) :
    ∃ t, Spells room t (.items vs) ∧ s = t ++ char ']' :: rest := by
  rw [found_readItems] at h
  obtain ⟨v, tail, hvalue, hrow⟩ := foundRow_eq_some h
  obtain ⟨t, hitem, ht⟩ := spells_item_of_value (spells_of_found_readValue ih hvalue)
  rcases hrow with ⟨hskip, rfl⟩ | ⟨more, ws, hskip, hmore, rfl⟩
  · exact ⟨t, .oneItem hitem, by rw [ht, hskip]⟩
  · obtain ⟨gap, hisGap, hmoreGap⟩ := skipGap_spec more
    -- the items behind the comma are shorter than the text
    have hshorter := (length_skipGap_lt hskip).trans (length_of_found hvalue)
    obtain ⟨u, hitems, hu⟩ := (ih _ hshorter).items hmore
    refine ⟨_, .moreItems hitem (hitems.items_gap hisGap), ?_⟩
    rw [List.append_assoc, List.cons_append, List.append_assoc, ← hu, ← hmoreGap, ht, hskip]

/-- A member that was found and the white space that is skipped after it. -/
theorem spells_of_foundMember {room : Nat} {s rest : Text} {m : Text × Json}
    (ih : ∀ t : Text, t.length < s.length → SoundAt t) (h : foundMember .strict room s = some (m, rest)) :
    rest.length < s.length ∧ ∃ t, Spells room t (.member m.1 m.2) ∧ s = t ++ skipGap rest := by
  cases s with
  | nil => cases h
  | cons q inside =>
    rw [foundMember] at h
    split at h
    swap
    · cases h
    rename_i hq
    subst hq
    obtain ⟨⟨name, tail⟩, hname, h⟩ := Option.bind_eq_some_iff.mp h
    obtain ⟨written, signs, hsigns, hmeaning, hinside⟩ := spells_of_found_readString hname
    obtain ⟨gap, hgap, hcolonGap⟩ := skipGap_spec tail
    dsimp only at h
    cases hcolon : skipGap tail with
    | nil =>
      rw [hcolon] at h
      cases h
    | cons c after =>
      rw [hcolon] at h hcolonGap
      dsimp only at h
      split at h
      swap
      · cases h
      rename_i hc
      subst hc
      obtain ⟨⟨v, last⟩, hvalue, hpair⟩ := Option.map_eq_some_iff.mp h
      rw [Prod.mk.injEq] at hpair
      obtain ⟨rfl, rfl⟩ := hpair
      -- the value stands behind the colon, so it is shorter than the member
      have hshorter : (skipGap after).length < (char '"' :: inside).length :=
        Nat.lt_succ_of_lt ((length_skipGap_lt hcolon).trans (length_of_found hname))
      refine ⟨(length_of_found hvalue).trans hshorter, ?_⟩
      obtain ⟨t, hitem, ht⟩ := spells_item_of_value ((ih _ hshorter).value hvalue)
      obtain ⟨valueGap, hvalueGap, hafterGap⟩ := skipGap_spec after
      have hmember := Spells.member isGap_nil hsigns hgap (hitem.item_gap hvalueGap)
      rw [hmeaning] at hmember
      refine ⟨_, hmember, ?_⟩
      rw [hinside, hcolonGap, hafterGap, ht]
      simp only [List.nil_append, List.cons_append, List.append_assoc]

theorem spells_of_found_readMembers {room : Nat} {s rest : Text} {ms : List (Text × Json)}
    (ih : ∀ t : Text, t.length < s.length → SoundAt t)
    (h : found (readMembers .strict room s) = some (ms, rest)) :
    ∃ t, Spells room t (.members ms) ∧ s = t ++ char '}' :: rest := by
  rw [found_readMembers] at h
  obtain ⟨m, tail, hfound, hrow⟩ := foundRow_eq_some h
  obtain ⟨hlength, t, hmember, ht⟩ := spells_of_foundMember ih hfound
  rcases hrow with ⟨hskip, rfl⟩ | ⟨more, ws, hskip, hmore, rfl⟩
  · exact ⟨t, .oneMember hmember, by rw [ht, hskip]⟩
  · obtain ⟨gap, hisGap, hmoreGap⟩ := skipGap_spec more
    have hshorter := (length_skipGap_lt hskip).trans hlength
    obtain ⟨u, hmembers, hu⟩ := (ih _ hshorter).members hmore
    refine ⟨_, .moreMembers hmember (hmembers.members_gap hisGap), ?_⟩
    rw [List.append_assoc, List.cons_append, List.append_assoc, ← hu, ← hmoreGap, ht, hskip]

theorem soundAt (s : Text) : SoundAt s := by
  induction hs : s.length using Nat.strong_induction_on generalizing s with
  | _ len ih =>
    subst hs
    have ih : ∀ t : Text, t.length < s.length → SoundAt t := fun t ht => ih _ ht t rfl
    exact ⟨spells_of_found_readValue ih, spells_of_found_readItems ih, spells_of_found_readMembers ih⟩

/-! ## Documents -/

theorem readDocument_eq_ok_iff (d : Dialect) (source : Text) (v : Json) :
    readDocument d source = .ok v ↔
      ∃ rest, found (readValue d nestingLimit (skipGap source)) = some (v, rest) ∧ skipGap rest = [] := by
  unfold readDocument
  cases hread : readValue d nestingLimit (skipGap source) with
  | error fault =>
    constructor
    · rintro ⟨⟩
    · rintro ⟨rest, ⟨⟩, -⟩
  | ok r =>
    simp only [found_ok, Option.some.injEq, Prod.mk.injEq]
    constructor
    · intro h
      split at h
      · rename_i hskip
        injection h with hv
        exact ⟨r.rest, ⟨hv, rfl⟩, hskip⟩
      · cases h
    · rintro ⟨rest, ⟨rfl, rfl⟩, hskip⟩
      rw [hskip]

/-- Every dialect has the documents of JSON proper. -/
theorem readDocument_of_denotes (d : Dialect) {source : Text} {v : Json} (h : Denotes source v) :
    readDocument d source = .ok v := by
  rw [readDocument_eq_ok_iff]
  obtain ⟨after, hread, hafter⟩ := isRead_of_spells d h [] (by intro c hc; cases hc)
  rw [List.append_nil] at hread
  exact ⟨after, hread, hafter⟩

theorem readDocument_eq_ok_iff_denotes (source : Text) (v : Json) :
    readDocument .strict source = .ok v ↔ Denotes source v := by
  refine ⟨?_, readDocument_of_denotes .strict⟩
  rw [readDocument_eq_ok_iff]
  rintro ⟨rest, hread, hskip⟩
  obtain ⟨t, hitem, ht⟩ := spells_item_of_value ((soundAt _).value hread)
  obtain ⟨gap, hgap, hsource⟩ := skipGap_spec source
  rw [Denotes, hsource, ht, hskip, List.append_nil]
  exact hitem.item_gap hgap

/-- A document begins with white space or with a character that starts a value. -/
theorem Denotes.head {source : Text} {v : Json} (h : Denotes source v) :
    ∃ c rest, source = c :: rest ∧ (isGap c = true ∨ StartsValue c) := by
  obtain ⟨gap, hgap, hsource⟩ := skipGap_spec source
  obtain ⟨c, more, hskip, hc⟩ := h.item_head []
  rw [List.append_nil] at hskip
  rw [hsource, hskip]
  cases gap with
  | nil => exact ⟨c, more, rfl, Or.inr hc⟩
  | cons d gap => exact ⟨d, _, rfl, Or.inl (isGap_cons.mp hgap).1⟩

/-- The reader gives a value for a text exactly if the text denotes that value. -/
theorem parse_eq_ok_iff (source : Text) (v : Json) : parse source = .ok v ↔ Denotes source v := by
  rw [← readDocument_eq_ok_iff_denotes, parse]
  split
  · rename_i hmark
    constructor
    · rintro ⟨⟩
    · intro h
      obtain ⟨c, rest, rfl, hc⟩ := ((readDocument_eq_ok_iff_denotes _ _).mp h).head
      obtain rfl : c = byteOrderMark := by injection hmark
      exact absurd hc (by decide)
  · rfl

/-- A document is not blank. -/
theorem Denotes.not_blank {source : Text} {v : Json} (h : Denotes source v) :
    ∃ c ∈ source, c.isBlank = false := by
  obtain ⟨gap, -, hsource⟩ := skipGap_spec source
  obtain ⟨c, more, hskip, hc⟩ := h.item_head []
  rw [List.append_nil] at hskip
  refine ⟨c, ?_, startsValue_not_blank hc⟩
  rw [hsource, hskip]
  exact List.mem_append_right _ List.mem_cons_self

end Tidy.Json
