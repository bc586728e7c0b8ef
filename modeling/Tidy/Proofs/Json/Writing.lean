/-
# Tidy.Proofs.Json.Writing -- what is written denotes the value that was written

`Writable room v` says which values can be written so that they can be read again: the integers are not too long,
the floating point numbers are finite, the names of an object differ, and there is room for the nesting. The
values that are read are writable (`Denotes.writable`), and both spellings of a writable value denote it, the
compact one and the one of `entries` at every width.
-/

import Tidy.Proofs.Json.Scalars
import Tidy.Proofs.Layout

namespace Tidy.Json

open CodePoint (char)

/-! ## Objects -/

theorem names_put (name : Text) (value : Json) (members : List (Text × Json)) :
    (put name value members).map Prod.fst =
      if name ∈ members.map Prod.fst then members.map Prod.fst else members.map Prod.fst ++ [name] := by
  induction members with
  | nil => rfl
  | cons m rest ih =>
    obtain ⟨n, v⟩ := m
    rw [put]
    by_cases h : n = name
    · rw [if_pos h, if_pos]
      · rfl
      · rw [List.map_cons, h]
        exact List.mem_cons_self
    · rw [if_neg h, List.map_cons, ih]
      by_cases hmem : name ∈ rest.map Prod.fst
      · rw [if_pos hmem, List.map_cons, if_pos (List.mem_cons_of_mem _ hmem)]
      · rw [if_neg hmem, List.map_cons, if_neg]
        · rfl
        · rw [List.mem_cons, not_or]
          exact ⟨fun heq => h heq.symm, hmem⟩

theorem put_of_new {name : Text} {members : List (Text × Json)} (h : name ∉ members.map Prod.fst) (value : Json) :
    put name value members = members ++ [(name, value)] := by
  induction members with
  | nil => rfl
  | cons m rest ih =>
    obtain ⟨n, v⟩ := m
    rw [List.map_cons, List.mem_cons, not_or] at h
    rw [put, if_neg (fun heq => h.1 heq.symm), ih h.2]
    rfl

theorem mem_put {m : Text × Json} {name : Text} {value : Json} {members : List (Text × Json)}
    (h : m ∈ put name value members) : m ∈ members ∨ m.2 = value := by
  induction members with
  | nil =>
    rw [put, List.mem_singleton] at h
    exact Or.inr (by rw [h])
  | cons m' rest ih =>
    obtain ⟨n, v⟩ := m'
    rw [put] at h
    split at h
    · rcases List.mem_cons.mp h with rfl | hrest
      · exact Or.inr rfl
      · exact Or.inl (List.mem_cons_of_mem _ hrest)
    · rcases List.mem_cons.mp h with rfl | hrest
      · exact Or.inl List.mem_cons_self
      · rcases ih hrest with hmem | hvalue
        · exact Or.inl (List.mem_cons_of_mem _ hmem)
        · exact Or.inr hvalue

/-- The members of an object, put one after another behind those that are known. -/
def putAll (known members : List (Text × Json)) : List (Text × Json) :=
  members.foldl (fun known m => put m.1 m.2 known) known

theorem ofMembers_eq (members : List (Text × Json)) : ofMembers members = .obj (putAll [] members) := rfl

theorem nodup_putAll (known : List (Text × Json)) (h : (known.map Prod.fst).Nodup) (members : List (Text × Json)) :
    ((putAll known members).map Prod.fst).Nodup := by
  induction members generalizing known with
  | nil => exact h
  | cons m rest ih =>
    apply ih (put m.1 m.2 known)
    rw [names_put]
    split
    · exact h
    · rename_i hnew
      rw [List.nodup_append]
      refine ⟨h, by simp, ?_⟩
      rintro a ha b hb rfl
      rw [List.mem_singleton] at hb
      exact hnew (hb ▸ ha)

theorem mem_putAll {m : Text × Json} {known members : List (Text × Json)} (h : m ∈ putAll known members) :
    m ∈ known ∨ ∃ m' ∈ members, m.2 = m'.2 := by
  induction members generalizing known with
  | nil => exact Or.inl h
  | cons first rest ih =>
    rcases ih h with hput | ⟨m', hm', heq⟩
    · rcases mem_put hput with hknown | hvalue
      · exact Or.inl hknown
      · exact Or.inr ⟨first, List.mem_cons_self, hvalue⟩
    · exact Or.inr ⟨m', List.mem_cons_of_mem _ hm', heq⟩

theorem putAll_of_nodup {known members : List (Text × Json)} (h : ((known ++ members).map Prod.fst).Nodup) :
    putAll known members = known ++ members := by
  induction members generalizing known with
  | nil => exact (List.append_nil known).symm
  | cons m rest ih =>
    have hnew : m.1 ∉ known.map Prod.fst := by
      intro hmem
      rw [List.map_append, List.nodup_append] at h
      exact h.2.2 m.1 hmem m.1 List.mem_cons_self rfl
    show putAll (put m.1 m.2 known) rest = _
    rw [put_of_new hnew, ih, List.append_assoc]
    · rfl
    · rw [List.append_assoc]
      exact h

/-- Members with different names are the members of their object. -/
theorem ofMembers_of_nodup {members : List (Text × Json)} (h : (members.map Prod.fst).Nodup) :
    ofMembers members = .obj members := by
  have hall : putAll [] members = [] ++ members := putAll_of_nodup h
  rw [ofMembers_eq, hall]
  rfl

/-! ## Writable values -/

/-- The value can be written so that it can be read again, with `room` arrays and objects open at once. -/
inductive Writable : Nat → Json → Prop
  | null {room : Nat} : Writable room .null
  | bool {room : Nat} {b : Bool} : Writable room (.bool b)
  | int {room : Nat} {n : Int} : (Text.ofNat n.natAbs).length ≤ digitLimit → Writable room (.int n)
  | float {room : Nat} {x : Binary64} : x.isFinite = true → Writable room (.float x)
  | str {room : Nat} {t : Text} : Writable room (.str t)
  | arr {room : Nat} {items : List Json} :
      (∀ item ∈ items, Writable room item) → Writable (room + 1) (.arr items)
  | obj {room : Nat} {members : List (Text × Json)} :
      (members.map Prod.fst).Nodup → (∀ m ∈ members, Writable room m.2) → Writable (room + 1) (.obj members)

/-- The values that a phrase is made of are writable. -/
def Phrase.Writable (room : Nat) : Phrase → Prop
  | .value v => Json.Writable room v
  | .item v => Json.Writable room v
  | .items vs => ∀ v ∈ vs, Json.Writable room v
  | .member _ v => Json.Writable room v
  | .members ms => ∀ m ∈ ms, Json.Writable room m.2

theorem writable_number {room : Nat} {n : Numeral} {v : Json} (hv : n.value .strict = .ok v) :
    Writable room v := by
  unfold Numeral.value at hv
  split at hv
  · split at hv
    · cases hv
    · rename_i hlength
      rw [Except.ok.injEq] at hv
      subst hv
      apply Writable.int
      rw [Text.length_ofNat_le_iff (by decide)]
      have habs : (if n.negative = true then -(Text.decimalValue n.whole : Int) else
          (Text.decimalValue n.whole : Int)).natAbs = Text.decimalValue n.whole := by
        split <;> simp
      rw [habs]
      calc Text.decimalValue n.whole < 10 ^ n.whole.length := Text.decimalValue_lt n.whole
        _ ≤ 10 ^ digitLimit := Nat.pow_le_pow_right (by decide) (Nat.not_lt.mp hlength)
  · dsimp only at hv
    split at hv
    · rename_i hfinite
      rw [Except.ok.injEq] at hv
      subst hv
      exact .float (by simpa [Dialect.strict] using hfinite)
    · cases hv

/-- What a text spells is writable. -/
theorem Spells.writable {room : Nat} {t : Text} {p : Phrase} (h : Spells room t p) : p.Writable room := by
  induction h with
  | word hmem =>
    simp only [keywords, List.mem_cons, Prod.mk.injEq, List.not_mem_nil, or_false] at hmem
    rcases hmem with ⟨-, rfl⟩ | ⟨-, rfl⟩ | ⟨-, rfl⟩
    · exact Writable.null
    · exact Writable.bool
    · exact Writable.bool
  | number _ hv => exact writable_number hv
  | string _ => exact Writable.str
  | emptyArray _ => exact Writable.arr (by simp)
  | array _ ih => exact Writable.arr ih
  | emptyObject _ => exact Writable.obj List.nodup_nil (by simp)
  | object _ ih =>
    refine Writable.obj (nodup_putAll [] List.nodup_nil _) ?_
    intro m hm
    rcases mem_putAll hm with hnone | ⟨m', hm', heq⟩
    · cases hnone
    · rw [heq]
      exact ih m' hm'
  | item _ _ _ ih => exact ih
  | oneItem _ ih =>
    intro v hv
    rw [List.mem_singleton.mp hv]
    exact ih
  | moreItems _ _ ih ihs => exact List.forall_mem_cons.mpr ⟨ih, ihs⟩
  | member _ _ _ _ ih => exact ih
  | oneMember _ ih =>
    intro m hm
    rw [List.mem_singleton.mp hm]
    exact ih
  | moreMembers _ _ ih ihs => exact List.forall_mem_cons.mpr ⟨ih, ihs⟩

/-! ## The compact spelling -/

theorem spells_null (room : Nat) : Spells room (scalar .null) (.value .null) :=
  .word List.mem_cons_self

theorem spells_bool (room : Nat) (b : Bool) : Spells room (scalar (.bool b)) (.value (.bool b)) := by
  cases b with
  | true => exact .word (List.mem_cons_of_mem _ List.mem_cons_self)
  | false => exact .word (List.mem_cons_of_mem _ (List.mem_cons_of_mem _ List.mem_cons_self))

theorem spells_compactItems {room : Nat} {items : List Json} (hne : items ≠ [])
    (h : ∀ item ∈ items, Spells room (compact item) (.value item)) :
    Spells room (compactItems items) (.items items) := by
  induction items with
  | nil => exact absurd rfl hne
  | cons item rest ih =>
    obtain ⟨hitem, hrest⟩ := List.forall_mem_cons.mp h
    cases rest with
    | nil => exact .oneItem hitem.bareItem
    | cons next rest =>
      rw [compactItems, List.append_assoc]
      · exact .moreItems hitem.bareItem (ih (List.cons_ne_nil next rest) hrest)
      · exact List.cons_ne_nil next rest

theorem spells_member {room : Nat} {before space t : Text} {v : Json} (name : Text) (hbefore : IsGap before)
    (hspace : IsGap space) (h : Spells room t (.value v)) :
    Spells room (before ++ (writeString name ++ char ':' :: (space ++ t))) (.member name v) := by
  obtain ⟨signs, hsigns, hmeaning⟩ := spellsSigns_escaped name
  have hmember : Spells room _ _ := .member hbefore hsigns isGap_nil (h.bareItem.item_gap hspace)
  rw [hmeaning] at hmember
  rw [writeString_eq, List.cons_append, List.append_assoc]
  exact hmember

theorem spells_compactMembers {room : Nat} {members : List (Text × Json)} (hne : members ≠ [])
    (h : ∀ m ∈ members, Spells room (compact m.2) (.value m.2)) :
    Spells room (compactMembers members) (.members members) := by
  induction members with
  | nil => exact absurd rfl hne
  | cons m rest ih =>
    obtain ⟨name, value⟩ := m
    obtain ⟨hvalue, hrest⟩ := List.forall_mem_cons.mp h
    have hmember := spells_member name isGap_nil isGap_nil hvalue
    rw [List.nil_append, List.nil_append] at hmember
    cases rest with
    | nil =>
      rw [compactMembers, List.append_assoc]
      exact .oneMember hmember
    | cons next rest =>
      rw [compactMembers]
      · have hmore : Spells room _ _ := .moreMembers hmember (ih (List.cons_ne_nil next rest) hrest)
        simpa [Text.ofString] using hmore
      · exact List.cons_ne_nil next rest

/-- The compact spelling spells the value. -/
theorem spells_compact {room : Nat} {v : Json} (h : Writable room v) : Spells room (compact v) (.value v) := by
  induction h with
  | null => exact spells_null _
  | @bool room b => exact spells_bool _ b
  | int hlength => exact spells_int _ hlength
  | float hfinite => exact spells_float _ hfinite
  | str => exact spells_string _ _
  | @arr room items _ ih =>
    cases items with
    | nil => exact .emptyArray isGap_nil
    | cons item rest =>
      rw [compact, List.append_assoc]
      exact .array (spells_compactItems (List.cons_ne_nil item rest) ih)
  | @obj room members hnodup _ ih =>
    cases members with
    | nil => exact .emptyObject isGap_nil
    | cons m rest =>
      rw [compact, List.append_assoc, ← ofMembers_of_nodup hnodup]
      exact .object (spells_compactMembers (List.cons_ne_nil m rest) ih)

/-! ## The layout -/

theorem isGap_spaces (n : Nat) : IsGap (Text.spaces n) := by
  intro c hc
  rw [List.eq_of_mem_replicate hc]
  rfl

theorem isGap_newline {gap : Text} (h : IsGap gap) : IsGap (CodePoint.newline :: gap) :=
  isGap_cons.mpr ⟨rfl, h⟩

/-- The entries of the value render to a spelling of it, behind the indentation and between what leads it and what
trails it. -/
def LaidOut (room : Nat) (v : Json) : Prop :=
  ∀ (width depth : Nat) (lead trail : Text), ∃ t, Spells room t (.value v) ∧
    Layout.render width (entriesFrom depth lead trail v) =
      Text.spaces (width * depth) ++ (lead ++ (t ++ trail))

theorem entriesFrom_ne_nil (depth : Nat) (lead trail : Text) (v : Json) : entriesFrom depth lead trail v ≠ [] := by
  unfold entriesFrom
  split <;> exact List.cons_ne_nil _ _

theorem itemEntries_ne_nil (depth : Nat) {items : List Json} (h : items ≠ []) : itemEntries depth items ≠ [] := by
  unfold itemEntries
  split
  · exact absurd rfl h
  · exact entriesFrom_ne_nil _ _ _ _
  · exact List.append_ne_nil_of_left_ne_nil (entriesFrom_ne_nil _ _ _ _) _

theorem memberEntries_ne_nil (depth : Nat) {members : List (Text × Json)} (h : members ≠ []) :
    memberEntries depth members ≠ [] := by
  unfold memberEntries
  split
  · exact absurd rfl h
  · exact entriesFrom_ne_nil _ _ _ _
  · exact List.append_ne_nil_of_left_ne_nil (entriesFrom_ne_nil _ _ _ _) _

theorem laidOut_scalar {room : Nat} {v : Json} (h : Spells room (scalar v) (.value v))
    (hentries : ∀ depth lead trail, entriesFrom depth lead trail v = [⟨depth, lead ++ scalar v ++ trail⟩]) :
    LaidOut room v := by
  intro width depth lead trail
  refine ⟨scalar v, h, ?_⟩
  rw [hentries, Layout.render_singleton, Layout.line, List.append_assoc]

theorem spells_itemEntries {room : Nat} (width depth : Nat) {items : List Json} (hne : items ≠ [])
    (h : ∀ item ∈ items, LaidOut room item) :
    Spells room (Layout.render width (itemEntries depth items)) (.items items) := by
  induction items with
  | nil => exact absurd rfl hne
  | cons item rest ih =>
    obtain ⟨hitem, hrest⟩ := List.forall_mem_cons.mp h
    cases rest with
    | nil =>
      obtain ⟨t, hspells, hrender⟩ := hitem width depth [] []
      rw [itemEntries, hrender, List.nil_append, List.append_nil]
      exact .oneItem (hspells.bareItem.item_gap (isGap_spaces _))
    | cons next rest =>
      have hne : next :: rest ≠ [] := List.cons_ne_nil next rest
      obtain ⟨t, hspells, hrender⟩ := hitem width depth [] ","
      have hmore : Spells room _ _ := .moreItems (hspells.bareItem.item_gap (isGap_spaces (width * depth)))
        ((ih hne hrest).items_gap (isGap_newline isGap_nil))
      rw [itemEntries, Layout.render_append width (entriesFrom_ne_nil _ _ _ _) (itemEntries_ne_nil _ hne), hrender]
      · simpa [Text.ofString] using hmore
      · exact hne

theorem spells_memberEntries {room : Nat} (width depth : Nat) {members : List (Text × Json)} (hne : members ≠ [])
    (h : ∀ m ∈ members, LaidOut room m.2) :
    Spells room (Layout.render width (memberEntries depth members)) (.members members) := by
  induction members with
  | nil => exact absurd rfl hne
  | cons m rest ih =>
    obtain ⟨name, value⟩ := m
    obtain ⟨hvalue, hrest⟩ := List.forall_mem_cons.mp h
    have hmember : ∀ {t : Text}, Spells room t (.value value) → Spells room _ (.member name value) := fun ht =>
      spells_member name (isGap_spaces (width * depth)) (isGap_spaces 1) ht
    cases rest with
    | nil =>
      obtain ⟨t, hspells, hrender⟩ := hvalue width depth (writeString name ++ ": ") []
      rw [memberEntries, hrender, List.append_nil, List.append_assoc]
      exact .oneMember (hmember hspells)
    | cons next rest =>
      have hne : next :: rest ≠ [] := List.cons_ne_nil next rest
      obtain ⟨t, hspells, hrender⟩ := hvalue width depth (writeString name ++ ": ") ","
      have hmore : Spells room _ _ := .moreMembers (hmember hspells)
        ((ih hne hrest).members_gap (isGap_newline isGap_nil))
      rw [memberEntries, Layout.render_append width (entriesFrom_ne_nil _ _ _ _) (memberEntries_ne_nil _ hne),
        hrender]
      · simpa [Text.ofString, Text.spaces] using hmore
      · exact hne

/-- The lines of an array or of an object that is not empty: what opens it, its parts one level deeper, and what
closes it. -/
theorem render_container (width depth : Nat) {parts : List Entry} (hne : parts ≠ []) (lead trail : Text)
    (opening closing : CodePoint) :
    Layout.render width (⟨depth, lead ++ [opening]⟩ :: (parts ++ [⟨depth, closing :: trail⟩])) =
      Text.spaces (width * depth) ++ (lead ++ (opening ::
        (CodePoint.newline :: (Layout.render width parts ++ CodePoint.newline :: Text.spaces (width * depth)) ++
          [closing]) ++ trail)) := by
  rw [Layout.render_cons width _ (by simp), Layout.render_append width hne (List.cons_ne_nil _ _),
    Layout.render_singleton, Layout.line, Layout.line]
  simp only [List.append_assoc, List.cons_append, List.nil_append]

/-- The layout of a value spells the value, at every width. -/
theorem laidOut {room : Nat} {v : Json} (h : Writable room v) : LaidOut room v := by
  induction h with
  | null => exact laidOut_scalar (spells_null _) fun _ _ _ => rfl
  | @bool room b => exact laidOut_scalar (spells_bool _ b) fun _ _ _ => rfl
  | int hlength => exact laidOut_scalar (spells_int _ hlength) fun _ _ _ => rfl
  | float hfinite => exact laidOut_scalar (spells_float _ hfinite) fun _ _ _ => rfl
  | str => exact laidOut_scalar (spells_string _ _) fun _ _ _ => rfl
  | @arr room items _ ih =>
    cases items with
    | nil => exact laidOut_scalar (.emptyArray isGap_nil) fun _ _ _ => rfl
    | cons item rest =>
      have hne : item :: rest ≠ [] := List.cons_ne_nil item rest
      intro width depth lead trail
      have hitems := (spells_itemEntries width (depth + 1) hne ih).items_gap_after
        (isGap_newline (isGap_spaces (width * depth)))
      refine ⟨_, .array (hitems.items_gap (isGap_newline isGap_nil)), ?_⟩
      rw [entriesFrom]
      exact render_container width depth (itemEntries_ne_nil _ hne) lead trail (char '[') (char ']')
  | @obj room members hnodup _ ih =>
    cases members with
    | nil => exact laidOut_scalar (.emptyObject isGap_nil) fun _ _ _ => rfl
    | cons m rest =>
      have hne : m :: rest ≠ [] := List.cons_ne_nil m rest
      intro width depth lead trail
      have hmembers := (spells_memberEntries width (depth + 1) hne ih).members_gap_after
        (isGap_newline (isGap_spaces (width * depth)))
      rw [← ofMembers_of_nodup hnodup]
      refine ⟨_, .object (hmembers.members_gap (isGap_newline isGap_nil)), ?_⟩
      rw [ofMembers_of_nodup hnodup, entriesFrom]
      exact render_container width depth (memberEntries_ne_nil _ hne) lead trail (char '{') (char '}')

/-! ## The lines of the layout -/

/-- What a line of a layout has between what leads it and what trails it: a mark that opens or closes a container, or
a value on one line. -/
inductive Core : Text → Prop
  | mark {c : CodePoint} : c ∈ [char '[', char ']', char '{', char '}'] → Core [c]
  | scalar {room : Nat} {v : Json} : Spells room (Json.scalar v) (.value v) → Core (Json.scalar v)

/-- What holds of the lines of a layout, put together from what leads them, their cores and what trails them. -/
structure Lined (leads trails line : Text → Prop) : Prop where
  unnamed : leads []
  named : ∀ name, leads (writeString name ++ ": ")
  last : trails []
  comma : trails ","
  join : ∀ {lead core trail}, leads lead → Core core → trails trail → line (lead ++ (core ++ trail))

section Lined

variable {leads trails line : Text → Prop} (hlined : Lined leads trails line)

/-- It holds of all lines of the value, whatever leads and trails it. -/
def LinedBy (leads trails line : Text → Prop) (v : Json) : Prop :=
  ∀ (depth : Nat) (lead trail : Text), leads lead → trails trail →
    ∀ e ∈ entriesFrom depth lead trail v, line e.content

include hlined

theorem Lined.scalar {room : Nat} {v : Json} (h : Spells room (Json.scalar v) (.value v))
    (hentries : ∀ depth lead trail, entriesFrom depth lead trail v = [⟨depth, lead ++ Json.scalar v ++ trail⟩]) :
    LinedBy leads trails line v := by
  intro depth lead trail hlead htrail e he
  rw [hentries, List.mem_singleton] at he
  rw [he, List.append_assoc]
  exact hlined.join hlead (.scalar h) htrail

theorem Lined.items (depth : Nat) {items : List Json} (h : ∀ item ∈ items, LinedBy leads trails line item) :
    ∀ e ∈ itemEntries depth items, line e.content := by
  induction items with
  | nil =>
    rw [itemEntries]
    rintro e ⟨⟩
  | cons item rest ih =>
    obtain ⟨hitem, hrest⟩ := List.forall_mem_cons.mp h
    cases rest with
    | nil =>
      rw [itemEntries]
      exact hitem depth [] [] hlined.unnamed hlined.last
    | cons next rest =>
      rw [itemEntries]
      · exact List.forall_mem_append.mpr ⟨hitem depth [] "," hlined.unnamed hlined.comma, ih hrest⟩
      · exact List.cons_ne_nil next rest

theorem Lined.members (depth : Nat) {members : List (Text × Json)} (h : ∀ m ∈ members, LinedBy leads trails line m.2) :
    ∀ e ∈ memberEntries depth members, line e.content := by
  induction members with
  | nil =>
    rw [memberEntries]
    rintro e ⟨⟩
  | cons m rest ih =>
    obtain ⟨name, value⟩ := m
    obtain ⟨hvalue, hrest⟩ := List.forall_mem_cons.mp h
    cases rest with
    | nil =>
      rw [memberEntries]
      exact hvalue depth _ [] (hlined.named name) hlined.last
    | cons next rest =>
      rw [memberEntries]
      · exact List.forall_mem_append.mpr ⟨hvalue depth _ "," (hlined.named name) hlined.comma, ih hrest⟩
      · exact List.cons_ne_nil next rest

/-- The lines of an array or of an object that is not empty. -/
theorem Lined.container {depth : Nat} {parts : List Entry} (hparts : ∀ e ∈ parts, line e.content) {lead trail : Text}
    (hlead : leads lead) (htrail : trails trail) {opening closing : CodePoint} (hopening : Core [opening])
    (hclosing : Core [closing]) :
    ∀ e ∈ (⟨depth, lead ++ [opening]⟩ :: (parts ++ [⟨depth, closing :: trail⟩]) : List Entry), line e.content := by
  refine List.forall_mem_cons.mpr ⟨hlined.join hlead hopening hlined.last, ?_⟩
  refine List.forall_mem_append.mpr ⟨hparts, ?_⟩
  intro e he
  rw [List.mem_singleton.mp he]
  exact hlined.join hlined.unnamed hclosing htrail

theorem Lined.all {room : Nat} {v : Json} (h : Writable room v) : LinedBy leads trails line v := by
  induction h with
  | null => exact hlined.scalar (spells_null 0) fun _ _ _ => rfl
  | @bool room b => exact hlined.scalar (spells_bool 0 b) fun _ _ _ => rfl
  | int hlength => exact hlined.scalar (spells_int 0 hlength) fun _ _ _ => rfl
  | float hfinite => exact hlined.scalar (spells_float 0 hfinite) fun _ _ _ => rfl
  | @str room t => exact hlined.scalar (spells_string 0 t) fun _ _ _ => rfl
  | @arr room items _ ih =>
    cases items with
    | nil => exact hlined.scalar (@Spells.emptyArray 0 _ isGap_nil) fun _ _ _ => rfl
    | cons item rest =>
      intro depth lead trail hlead htrail
      exact hlined.container (hlined.items (depth + 1) ih) hlead htrail (.mark (by decide)) (.mark (by decide))
  | @obj room members _ _ ih =>
    cases members with
    | nil => exact hlined.scalar (@Spells.emptyObject 0 _ isGap_nil) fun _ _ _ => rfl
    | cons m rest =>
      intro depth lead trail hlead htrail
      exact hlined.container (hlined.members (depth + 1) ih) hlead htrail (.mark (by decide)) (.mark (by decide))

end Lined

/-! ## Documents -/

theorem Denotes.writable {source : Text} {v : Json} (h : Denotes source v) : Writable nestingLimit v :=
  Spells.writable h

theorem denotes_compact {v : Json} (h : Writable nestingLimit v) : Denotes (compact v) v :=
  (spells_compact h).bareItem

theorem denotes_render {v : Json} (h : Writable nestingLimit v) (width : Nat) :
    Denotes (Layout.render width (entries v)) v := by
  obtain ⟨t, hspells, hrender⟩ := laidOut h width 0 [] []
  rw [Denotes, entries, hrender, List.nil_append, List.append_nil]
  exact hspells.bareItem.item_gap (isGap_spaces _)

end Tidy.Json
