/-
# Tidy.Proofs.Json.Conformance -- the reader accepts exactly the JSON texts within its limits

`Spells` follows the reader; the trees of `Syntax` follow the grammar. The two agree part by part: on letters and
signs, on number literals with their limits, on the members of an object, and then on whole trees, by induction on
the one side and on the other. So the reader gives a value for a text exactly if a document with that text keeps the
limits and denotes that value, and it reports a fault for every other text.
-/

import Mathlib.Data.List.Induction
import Mathlib.Data.List.Nodup
import Tidy.Proofs.Json.Reading
import Tidy.Proofs.Json.Syntax
import Tidy.Proofs.Json.Writing

namespace Tidy.Json

open CodePoint (char)

/-! ## Letters -/

theorem simpleEscape?_eq_some_iff (e meant : CodePoint) :
    simpleEscape? e = some meant ↔ ∃ escape : Escape, escape.letter = e ∧ escape.meant = meant := by
  constructor
  · intro h
    unfold simpleEscape? at h
    split at h
    · rename_i hsame
      simp only [Bool.or_eq_true, decide_eq_true_eq] at hsame
      obtain rfl : e = meant := Option.some.inj h
      rcases hsame with (rfl | rfl) | rfl
      · exact ⟨.quote, rfl, rfl⟩
      · exact ⟨.backslash, rfl, rfl⟩
      · exact ⟨.slash, rfl, rfl⟩
    split at h
    · rename_i he
      exact ⟨.backspace, he.symm, Option.some.inj h⟩
    split at h
    · rename_i he
      exact ⟨.formFeed, he.symm, Option.some.inj h⟩
    split at h
    · rename_i he
      exact ⟨.lineFeed, he.symm, Option.some.inj h⟩
    split at h
    · rename_i he
      exact ⟨.carriageReturn, he.symm, Option.some.inj h⟩
    split at h
    · rename_i he
      exact ⟨.tab, he.symm, Option.some.inj h⟩
    · cases h
  · rintro ⟨escape, rfl, rfl⟩
    cases escape <;> rfl

theorem hexNumber?_eq_some_iff (a b c d : CodePoint) (n : Nat) :
    hexNumber? a b c d = some n ↔
      (∀ x ∈ [a, b, c, d], x.hexValue?.isSome = true) ∧ Text.hexadecimalValue [a, b, c, d] = n := by
  cases ha : a.hexValue? <;> cases hb : b.hexValue? <;> cases hc : c.hexValue? <;> cases hd : d.hexValue? <;>
    simp [hexNumber?, Text.hexadecimalValue, ha, hb, hc, hd]
  omega

theorem spellsSign_iff (t : Text) (sign : Sign) :
    SpellsSign t sign ↔ ∃ letter : Letter, letter.text = t ∧ letter.sign = sign := by
  constructor
  · intro h
    cases h with
    | plain hlow hquote hslash => exact ⟨.plain _ ⟨hlow, hquote, hslash⟩, rfl, rfl⟩
    | short hshort =>
      obtain ⟨escape, rfl, rfl⟩ := (simpleEscape?_eq_some_iff _ _).mp hshort
      exact ⟨.short escape, rfl, rfl⟩
    | @unit a b c d n hunit =>
      obtain ⟨hdigits, rfl⟩ := (hexNumber?_eq_some_iff a b c d n).mp hunit
      refine ⟨.unit ⟨a, hdigits a ?_⟩ ⟨b, hdigits b ?_⟩ ⟨c, hdigits c ?_⟩ ⟨d, hdigits d ?_⟩, rfl, rfl⟩ <;> simp
  · rintro ⟨letter, rfl, rfl⟩
    cases letter with
    | plain c free => exact .plain free.1 free.2.1 free.2.2
    | short escape => exact .short ((simpleEscape?_eq_some_iff _ _).mpr ⟨escape, rfl, rfl⟩)
    | unit a b c d =>
      apply SpellsSign.unit
      rw [hexNumber?_eq_some_iff]
      simp [a.property, b.property, c.property, d.property]

theorem spellsSigns_iff (t : Text) (signs : List Sign) :
    SpellsSigns t signs ↔ ∃ letters : List Letter, letters.flatMap Letter.text = t ∧ letters.map Letter.sign = signs := by
  constructor
  · intro h
    induction h with
    | nil => exact ⟨[], rfl, rfl⟩
    | cons hsign _ ih =>
      obtain ⟨letter, rfl, rfl⟩ := (spellsSign_iff _ _).mp hsign
      obtain ⟨letters, rfl, rfl⟩ := ih
      exact ⟨letter :: letters, rfl, rfl⟩
  · rintro ⟨letters, rfl, rfl⟩
    induction letters with
    | nil => exact .nil
    | cons letter letters ih => exact .cons ((spellsSign_iff _ _).mpr ⟨letter, rfl, rfl⟩) ih

/-! ## Numbers -/

/-- The reader's value of a literal: the number that it denotes, if it keeps its limit. -/
theorem value_eq_ok_iff (n : Numeral) (v : Json) :
    n.value .strict = .ok v ↔ n.InRange ∧ n.denoted = v := by
  unfold Numeral.value Numeral.InRange Numeral.denoted Numeral.isInteger
  split
  · split
    · rename_i hlong
      simp only [digitLimit] at hlong
      exact iff_of_false (by rintro ⟨⟩) (fun h => absurd h.1 (Nat.not_le.mpr hlong))
    · rename_i hlong
      simp only [digitLimit] at hlong
      rw [Except.ok.injEq]
      exact (and_iff_right (Nat.not_lt.mp hlong)).symm
  · rw [← Binary64.isFinite_ofDecimal_iff n.negative]
    dsimp only
    split
    · rename_i hfinite
      rw [Dialect.strict, Bool.or_false] at hfinite
      rw [Except.ok.injEq]
      exact (and_iff_right hfinite).symm
    · rename_i hfinite
      rw [Dialect.strict, Bool.or_false] at hfinite
      exact iff_of_false (by rintro ⟨⟩) (fun h => absurd h.1 hfinite)

/-! ## Objects -/

theorem eraseDups_concat (names : List Text) (name : Text) :
    (names ++ [name]).eraseDups = if name ∈ names then names.eraseDups else names.eraseDups ++ [name] := by
  rw [List.eraseDups_append]
  by_cases h : name ∈ names
  · simp [List.removeAll, h]
  · simp [List.removeAll, h, List.eraseDups_cons]

theorem nodup_eraseDups (names : List Text) : names.eraseDups.Nodup := by
  induction names using List.reverseRecOn with
  | nil => exact List.nodup_nil
  | append_singleton names name ih =>
    rw [eraseDups_concat]
    split
    · exact ih
    · rename_i hnew
      rw [← List.concat_eq_append, List.nodup_concat]
      exact ⟨fun hmem => hnew (List.mem_eraseDups.mp hmem), ih⟩

/-- Putting a member among members with different names: its place is that of its name, and it alone changes. -/
theorem put_filterMap {names : List Text} (hnodup : names.Nodup) {member? : Text → Option (Text × Json)}
    (hmember : ∀ x ∈ names, ∃ v, member? x = some (x, v)) (m : Text × Json) :
    put m.1 m.2 (names.filterMap member?) =
      (if m.1 ∈ names then names else names ++ [m.1]).filterMap fun x => if m.1 = x then some m else member? x := by
  induction names with
  | nil => simp [put]
  | cons x names ih =>
    obtain ⟨hx, hnodup⟩ := List.nodup_cons.mp hnodup
    obtain ⟨⟨v, hv⟩, hmember⟩ := List.forall_mem_cons.mp hmember
    rw [List.filterMap_cons_some hv, put]
    by_cases hname : x = m.1
    · -- the names after it are others
      subst hname
      have hothers : ∀ y ∈ names, (if m.1 = y then some m else member? y) = member? y := by
        intro y hy
        rw [if_neg (fun heq : m.1 = y => hx (heq ▸ hy))]
      simp only [List.mem_cons, true_or, if_true, List.filterMap_cons, List.filterMap_congr hothers]
    · have hne : ¬ m.1 = x := fun heq => hname heq.symm
      rw [if_neg hname, ih hnodup hmember]
      by_cases hmem : m.1 ∈ names
      · simp only [List.mem_cons, hne, hmem, or_true, if_true, List.filterMap_cons, if_false, hv]
      · simp only [List.mem_cons, hne, hmem, or_false, if_false, List.cons_append, List.filterMap_cons, hv]

/-- The members that the reader keeps: first places, last values. -/
theorem putAll_eq_resolve (members : List (Text × Json)) : putAll [] members = resolve members := by
  induction members using List.reverseRecOn with
  | nil => rfl
  | append_singleton members m ih =>
    have hmember : ∀ x ∈ (members.map Prod.fst).eraseDups,
        ∃ v, members.reverse.find? (fun m => m.1 = x) = some (x, v) := by
      intro x hx
      obtain ⟨known, hknown, rfl⟩ := List.mem_map.mp (List.mem_eraseDups.mp hx)
      have hsome : (members.reverse.find? fun m => m.1 = known.1).isSome = true := by
        rw [List.find?_isSome]
        exact ⟨known, List.mem_reverse.mpr hknown, decide_eq_true rfl⟩
      obtain ⟨⟨y, v⟩, hfound⟩ := Option.isSome_iff_exists.mp hsome
      have hy := List.find?_some hfound
      rw [decide_eq_true_eq] at hy
      exact ⟨v, by rw [hfound, ← hy]⟩
    have hput : putAll [] (members ++ [m]) = put m.1 m.2 (putAll [] members) := by
      rw [putAll, List.foldl_append]
      rfl
    rw [hput, ih, resolve, put_filterMap (nodup_eraseDups _) hmember, resolve, List.map_append, List.map_singleton,
      eraseDups_concat, List.reverse_append, List.reverse_singleton]
    simp only [List.mem_eraseDups, List.singleton_append, List.find?_cons]
    congr 1
    funext x
    by_cases hx : m.1 = x <;> simp only [hx, decide_true, decide_false, if_true, if_false]

/-! ## Trees -/

/-- The phrase that a tree of a part spells. -/
def Part.phrase : (part : Part) → part.Denotation → Phrase
  | value, v => .value v
  | items, vs => .items vs
  | members, ms => .members ms

theorem spells_quoted (letters : List Letter) : ∃ t signs,
    SpellsSigns t signs ∧ quoted letters = char '"' :: (t ++ [char '"']) ∧ content letters = meaning signs :=
  ⟨_, _, (spellsSigns_iff _ _).mpr ⟨letters, rfl, rfl⟩, rfl, rfl⟩

/-- A member, from its name and its value. -/
theorem spells_quotedMember {room : Nat} (before : Gap) (name : List Letter) (beforeColon afterColon : Gap) {t : Text}
    {v : Json} (h : Spells room t (.value v)) (after : Gap) :
    Spells room (before.val ++ (quoted name ++ (beforeColon.val ++ char ':' :: (afterColon.val ++ (t ++ after.val)))))
      (.member (content name) v) := by
  obtain ⟨inside, signs, hsigns, hquoted, hcontent⟩ := spells_quoted name
  rw [hquoted, hcontent, List.cons_append, List.append_assoc, List.singleton_append]
  exact .member before.property hsigns beforeColon.property (.item afterColon.property h after.property)

theorem spells_of_within {part : Part} (t : Tree part) {room : Nat} (h : t.Within room) :
    Spells room t.text (part.phrase t.value) := by
  induction t generalizing room with
  | null => exact .word (.head _)
  | bool b =>
    cases b with
    | true => exact .word (.tail _ (.head _))
    | false => exact .word (.tail _ (.tail _ (.head _)))
  | number n =>
    have hvalue : n.val.value .strict = .ok n.val.denoted :=
      (value_eq_ok_iff _ _).mpr ⟨h.numbers n.val List.mem_cons_self, rfl⟩
    exact .number n.property hvalue
  | string letters =>
    obtain ⟨inside, signs, hsigns, hquoted, hcontent⟩ := spells_quoted letters
    show Spells room (quoted letters) (.value (.str (content letters)))
    rw [hquoted, hcontent]
    exact .string hsigns
  | emptyArray gap =>
    obtain ⟨room, rfl⟩ := Nat.exists_eq_add_of_le' h.depth
    exact .emptyArray gap.property
  | array items ih =>
    obtain ⟨room, rfl⟩ := Nat.exists_eq_add_of_le' (Nat.le_trans (Nat.le_add_left 1 _) h.depth)
    exact .array (ih ⟨Nat.le_of_succ_le_succ h.depth, h.numbers⟩)
  | emptyObject gap =>
    obtain ⟨room, rfl⟩ := Nat.exists_eq_add_of_le' h.depth
    exact .emptyObject gap.property
  | object members ih =>
    obtain ⟨room, rfl⟩ := Nat.exists_eq_add_of_le' (Nat.le_trans (Nat.le_add_left 1 _) h.depth)
    show Spells _ _ (.value (.obj (resolve members.value)))
    rw [← putAll_eq_resolve, ← ofMembers_eq]
    exact .object (ih ⟨Nat.le_of_succ_le_succ h.depth, h.numbers⟩)
  | lastItem before v after ih =>
    exact .oneItem (.item before.property (ih ⟨h.depth, h.numbers⟩) after.property)
  | item before v after rest ih ihrest =>
    obtain ⟨hv, hrest⟩ := Nat.max_le.mp h.depth
    obtain ⟨hvNumbers, hrestNumbers⟩ := List.forall_mem_append.mp h.numbers
    exact .moreItems (.item before.property (ih ⟨hv, hvNumbers⟩) after.property) (ihrest ⟨hrest, hrestNumbers⟩)
  | lastMember before name beforeColon afterColon v after ih =>
    exact .oneMember (spells_quotedMember before name beforeColon afterColon (ih ⟨h.depth, h.numbers⟩) after)
  | member before name beforeColon afterColon v after rest ih ihrest =>
    obtain ⟨hv, hrest⟩ := Nat.max_le.mp h.depth
    obtain ⟨hvNumbers, hrestNumbers⟩ := List.forall_mem_append.mp h.numbers
    exact .moreMembers (spells_quotedMember before name beforeColon afterColon (ih ⟨hv, hvNumbers⟩) after)
      (ihrest ⟨hrest, hrestNumbers⟩)

/-- The text comes from a tree of the phrase's kind, within the limits. -/
def Derived (room : Nat) (t : Text) : Phrase → Prop
  | .value v => ∃ tree : Tree .value, tree.text = t ∧ tree.Within room ∧ tree.value = v
  | .items vs => ∃ tree : Tree .items, tree.text = t ∧ tree.Within room ∧ tree.value = vs
  | .members ms => ∃ tree : Tree .members, tree.text = t ∧ tree.Within room ∧ tree.value = ms
  | .item v => ∃ (before : Gap) (tree : Tree .value) (after : Gap),
      before.val ++ (tree.text ++ after.val) = t ∧ tree.Within room ∧ tree.value = v
  | .member name v => ∃ (before : Gap) (letters : List Letter) (beforeColon afterColon : Gap) (tree : Tree .value)
      (after : Gap),
      before.val ++ (quoted letters ++ (beforeColon.val ++ char ':' :: (afterColon.val ++ (tree.text ++ after.val)))) =
        t ∧ content letters = name ∧ tree.Within room ∧ tree.value = v

theorem Tree.Within.append {room : Nat} {v : Tree .value} {part : Part} {rest : Tree part} (hv : v.Within room)
    (hrest : rest.Within room) :
    max v.depth rest.depth ≤ room ∧ ∀ n ∈ v.numbers ++ rest.numbers, n.InRange :=
  ⟨Nat.max_le.mpr ⟨hv.depth, hrest.depth⟩, List.forall_mem_append.mpr ⟨hv.numbers, hrest.numbers⟩⟩

theorem derived_of_spells {room : Nat} {t : Text} {p : Phrase} (h : Spells room t p) : Derived room t p := by
  induction h with
  | word hword =>
    simp only [keywords, List.mem_cons, Prod.mk.injEq, List.not_mem_nil, or_false] at hword
    rcases hword with ⟨rfl, rfl⟩ | ⟨rfl, rfl⟩ | ⟨rfl, rfl⟩
    · exact ⟨.null, rfl, ⟨Nat.zero_le _, by simp [Tree.numbers]⟩, rfl⟩
    · exact ⟨.bool true, rfl, ⟨Nat.zero_le _, by simp [Tree.numbers]⟩, rfl⟩
    · exact ⟨.bool false, rfl, ⟨Nat.zero_le _, by simp [Tree.numbers]⟩, rfl⟩
  | @number _ n _ hwell hvalue =>
    obtain ⟨hrange, rfl⟩ := (value_eq_ok_iff _ _).mp hvalue
    exact ⟨.number ⟨n, hwell⟩, rfl, ⟨Nat.zero_le _, by simpa [Tree.numbers] using hrange⟩, rfl⟩
  | string hsigns =>
    obtain ⟨letters, rfl, rfl⟩ := (spellsSigns_iff _ _).mp hsigns
    exact ⟨.string letters, rfl, ⟨Nat.zero_le _, by simp [Tree.numbers]⟩, rfl⟩
  | emptyArray hgap =>
    exact ⟨.emptyArray ⟨_, hgap⟩, rfl, ⟨Nat.le_add_left 1 _, by simp [Tree.numbers]⟩, rfl⟩
  | array _ ih =>
    obtain ⟨items, rfl, hitems, rfl⟩ := ih
    exact ⟨.array items, rfl, ⟨Nat.succ_le_succ hitems.depth, hitems.numbers⟩, rfl⟩
  | emptyObject hgap =>
    exact ⟨.emptyObject ⟨_, hgap⟩, rfl, ⟨Nat.le_add_left 1 _, by simp [Tree.numbers]⟩, rfl⟩
  | object _ ih =>
    -- of the members with one name the last one counts, in the tree as in the spelling
    obtain ⟨members, rfl, hmembers, rfl⟩ := ih
    refine ⟨.object members, rfl, ⟨Nat.succ_le_succ hmembers.depth, hmembers.numbers⟩, ?_⟩
    rw [ofMembers_eq, putAll_eq_resolve]
    rfl
  | item hbefore _ hafter ih =>
    obtain ⟨v, rfl, hv, rfl⟩ := ih
    exact ⟨⟨_, hbefore⟩, v, ⟨_, hafter⟩, rfl, hv, rfl⟩
  | oneItem _ ih =>
    obtain ⟨before, v, after, rfl, hv, rfl⟩ := ih
    exact ⟨.lastItem before v after, rfl, ⟨hv.depth, hv.numbers⟩, rfl⟩
  | moreItems _ _ ih ihrest =>
    obtain ⟨before, v, after, rfl, hv, rfl⟩ := ih
    obtain ⟨rest, rfl, hrest, rfl⟩ := ihrest
    obtain ⟨hdepth, hnumbers⟩ := hv.append hrest
    exact ⟨.item before v after rest, rfl, ⟨hdepth, hnumbers⟩, rfl⟩
  | member hbefore hsigns hafter _ ih =>
    obtain ⟨letters, rfl, rfl⟩ := (spellsSigns_iff _ _).mp hsigns
    obtain ⟨afterColon, v, after, rfl, hv, rfl⟩ := ih
    refine ⟨⟨_, hbefore⟩, letters, ⟨_, hafter⟩, afterColon, v, after, ?_, rfl, hv, rfl⟩
    rw [quoted, List.cons_append, List.append_assoc, List.singleton_append]
  | oneMember _ ih =>
    obtain ⟨before, letters, beforeColon, afterColon, v, after, rfl, rfl, hv, rfl⟩ := ih
    exact ⟨.lastMember before letters beforeColon afterColon v after, rfl, ⟨hv.depth, hv.numbers⟩, rfl⟩
  | moreMembers _ _ ih ihrest =>
    obtain ⟨before, letters, beforeColon, afterColon, v, after, rfl, rfl, hv, rfl⟩ := ih
    obtain ⟨rest, rfl, hrest, rfl⟩ := ihrest
    obtain ⟨hdepth, hnumbers⟩ := hv.append hrest
    exact ⟨.member before letters beforeColon afterColon v after rest, rfl, ⟨hdepth, hnumbers⟩, rfl⟩

/-! ## Documents -/

theorem denotes_iff (source : Text) (v : Json) :
    Denotes source v ↔ ∃ d : Document, d.text = source ∧ d.root.Within 980 ∧ d.value = v := by
  constructor
  · intro h
    obtain ⟨before, root, after, htext, hwithin, hvalue⟩ := derived_of_spells h
    exact ⟨⟨before, root, after⟩, htext, hwithin, hvalue⟩
  · rintro ⟨d, rfl, hwithin, rfl⟩
    exact .item d.before.property (spells_of_within d.root hwithin) d.after.property

/-- The reader accepts exactly the JSON texts within the limits, with the values that they denote, and reports a
fault for every other text. -/
theorem parse_conforms (source : Text) :
    (∀ v, parse source = .ok v ↔ ∃ d : Document, d.text = source ∧ d.root.Within 980 ∧ d.value = v) ∧
      ((¬ ∃ d : Document, d.text = source ∧ d.root.Within 980) → ∃ fault, parse source = .error fault) := by
  have haccepts : ∀ v, parse source = .ok v ↔ ∃ d : Document, d.text = source ∧ d.root.Within 980 ∧ d.value = v := by
    intro v
    rw [parse_eq_ok_iff, denotes_iff]
  refine ⟨haccepts, ?_⟩
  intro hnone
  cases hparse : parse source with
  | error fault => exact ⟨fault, rfl⟩
  | ok v =>
    obtain ⟨d, htext, hwithin, _⟩ := (haccepts v).mp hparse
    exact absurd ⟨d, htext, hwithin⟩ hnone

end Tidy.Json
