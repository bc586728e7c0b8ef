/-
# Tidy.Proofs.Xml.Content -- content in reflowed text

Two documents declare the same things up to reflowed texts (`DtdFollows`). A start tag that is accepted in one is
accepted in the other and binds the same prefixes to the same namespaces, so that the stacks of open elements are
equal all the way. Content is then read piece by piece on both sides: every piece of the first text has its piece in
the reflowed text, and a line feed before a tag is one piece of character data more.

That the namespaces are the same needs `Settled`: either only white space of XML is lost, or no declared type lets the
spaces of a namespace name go.
-/

import Tidy.Proofs.Xml.Tags
import Tidy.Proofs.Xml.Values

namespace Tidy.Xml

open CodePoint (char)
open Markup (Reflowed)

/-! ## Lists whose items are related -/

section Related

variable {α β γ : Type} {R : α → β → Prop} {as : List α} {bs : List β}

/-- What related items have in common, the lists have in common. -/
theorem map_related {f : α → γ} {g : β → γ} (hfg : ∀ ⦃a b⦄, R a b → f a = g b) (h : List.Forall₂ R as bs) :
    as.map f = bs.map g := by
  rw [← List.forall₂_eq_eq_eq]
  exact List.rel_map hfg h

theorem any_related {p : α → Bool} {q : β → Bool} (hpq : ∀ ⦃a b⦄, R a b → p a = q b) (h : List.Forall₂ R as bs) :
    as.any p = bs.any q := by
  have hmap := congrArg (List.any · id) (map_related hpq h)
  simpa only [List.any_map, Function.id_comp] using hmap

/-- The first items of a kind are related. -/
theorem find?_related {p : α → Bool} {q : β → Bool} (hpq : ∀ ⦃a b⦄, R a b → p a = q b) (h : List.Forall₂ R as bs) :
    Option.Rel R (as.find? p) (bs.find? q) := by
  induction h with
  | nil => exact .none
  | @cons a b as bs hab _ ih =>
    rw [List.find?_cons, List.find?_cons, ← hpq hab]
    cases p a with
    | true => exact .some hab
    | false => exact ih

end Related

/-! ## Declarations -/

/-- One declared attribute is another, and its default value agrees. -/
structure DefaultFollows (white : CodePoint → Bool) (a a' : AttributeDefault) : Prop where
  name : a.name = a'.name
  verbatim : a.verbatim = a'.verbatim
  value : Option.Rel (Agrees white a.verbatim) a.value a'.value

/-- Two documents declare the same things, up to reflowed texts. -/
structure DtdFollows (white : CodePoint → Bool) (dtd dtd' : Dtd) : Prop where
  entities : List.Forall₂ (fun e e' => e.1 = e'.1 ∧ EntityFollows white e.2 e'.2) dtd.entities dtd'.entities
  attributes : List.Forall₂ (fun a a' => a.1 = a'.1 ∧ DefaultFollows white a.2 a'.2) dtd.attributes dtd'.attributes
  elements : dtd.elements = dtd'.elements
  standalone : dtd.standalone = dtd'.standalone
  incomplete : dtd.incomplete = dtd'.incomplete
  reading : dtd.reading = dtd'.reading

/-- No declared type lets the spaces of a namespace name go. -/
def Dtd.keepsNamespaces (dtd : Dtd) : Prop :=
  ∀ a ∈ dtd.attributes, declaresNamespace a.2.name = true → a.2.verbatim = true

/-- The names of namespaces cannot change. -/
def Settled (white : CodePoint → Bool) (dtd : Dtd) : Prop :=
  (∀ c, white c = true → isSpace c = true) ∨ dtd.keepsNamespaces

section Declared

variable {white : CodePoint → Bool} {dtd dtd' : Dtd}

theorem DtdFollows.strict (h : DtdFollows white dtd dtd') : dtd.strict = dtd'.strict := by
  rw [Dtd.strict, Dtd.strict, h.incomplete, h.standalone]

theorem DtdFollows.entitiesFollow (h : DtdFollows white dtd dtd') : EntitiesFollow white dtd dtd' := by
  intro name
  unfold Dtd.entity?
  have hfound := find?_related (p := fun e => e.1 = name) (q := fun e => e.1 = name)
    (fun _ _ he => by rw [he.1]) h.entities
  generalize dtd.entities.find? _ = e, dtd'.entities.find? _ = e' at hfound ⊢
  cases hfound with
  | none => exact .none
  | some he => exact .some he.2

theorem DtdFollows.attributesOf (h : DtdFollows white dtd dtd') (element : Text) :
    List.Forall₂ (DefaultFollows white) (dtd.attributesOf element) (dtd'.attributesOf element) := by
  refine List.rel_map (fun _ _ ha => ha.2) (List.rel_filter ?_ h.attributes)
  intro a a' ha
  simp only [ha.1]

/-- Values under the name of a namespace declaration are the same. -/
def Fixed (white : CodePoint → Bool) (name : Text) (verbatim : Bool) : Prop :=
  declaresNamespace name = true → verbatim = true ∨ ∀ c, white c = true → isSpace c = true

theorem Settled.fixed (h : Settled white dtd) {element : Text} {a : AttributeDefault}
    (ha : a ∈ dtd.attributesOf element) : Fixed white a.name a.verbatim := by
  intro hname
  rcases h with hspace | hkeeps
  · exact Or.inr hspace
  · obtain ⟨b, hb, rfl⟩ := List.mem_map.mp ha
    exact Or.inl (hkeeps b (List.mem_of_mem_filter hb) hname)

theorem Settled.fixed_keepsVerbatim (h : Settled white dtd) (element name : Text) :
    Fixed white name (keepsVerbatim (dtd.attributesOf element) name) := by
  unfold keepsVerbatim
  split
  · rename_i a hfound
    have hname : a.name = name := by simpa using List.find?_some hfound
    rw [← hname]
    exact h.fixed (List.mem_of_find?_eq_some hfound)
  · exact fun _ => Or.inl rfl

theorem keepsVerbatim_follows {declared declared' : List AttributeDefault}
    (h : List.Forall₂ (DefaultFollows white) declared declared') (name : Text) :
    keepsVerbatim declared name = keepsVerbatim declared' name := by
  unfold keepsVerbatim
  have hfound := find?_related (p := fun a => a.name = name) (q := fun a => a.name = name)
    (fun _ _ ha => by rw [ha.name]) h
  generalize declared.find? _ = a, declared'.find? _ = a' at hfound ⊢
  cases hfound with
  | none => rfl
  | some ha => exact ha.verbatim

end Declared

/-! ## Start tags -/

section Tags

variable {white : CodePoint → Bool} {dtd dtd' : Dtd}

/-- No namespace name holds a space. -/
theorem space_notMem_of_checkBinding {lead : Option Text} {value : Text} (h : checkBinding lead value = .ok ()) :
    char ' ' ∉ value := by
  intro hmem
  have hany : value.any (· = char ' ') = true := by
    rw [List.any_eq_true]
    exact ⟨char ' ', hmem, by simp⟩
  unfold checkBinding at h
  split at h
  · cases h
  split at h
  · cases h
  · cases h

theorem eq_of_checkBinding {verbatim : Bool} {value value' name : Text} (hagrees : Agrees white verbatim value value')
    (hfixed : Fixed white name verbatim) (hname : declaresNamespace name = true) {lead : Option Text}
    (h : checkBinding lead value = .ok ()) : value = value' := by
  cases verbatim with
  | true => exact hagrees.spaceless rfl (space_notMem_of_checkBinding h)
  | false => exact hagrees.same rfl ((hfixed hname).resolve_left (by decide))

/-- Agreeing values bind the same prefixes. -/
theorem bindAttribute_follows {verbatim : Bool} {value value' name : Text} {scope scope' : Scope}
    (hagrees : Agrees white verbatim value value') (hfixed : Fixed white name verbatim)
    (h : bindAttribute scope name value = .ok scope') : bindAttribute scope name value' = .ok scope' := by
  unfold bindAttribute at h ⊢
  cases hname : declares name with
  | nothing =>
    rw [hname] at h
    exact h
  | defaultNamespace =>
    rw [hname] at h
    obtain ⟨_, hbinding, hscope⟩ := bind_eq_ok h
    obtain rfl := eq_of_checkBinding hagrees hfixed (by rw [declaresNamespace, hname]) hbinding
    exact h
  | namespaceOf lead =>
    rw [hname] at h
    obtain ⟨_, hbinding, hscope⟩ := bind_eq_ok h
    obtain rfl := eq_of_checkBinding hagrees hfixed (by rw [declaresNamespace, hname]) hbinding
    exact h

theorem checkAttributes_follows (hw : White white) (hdtd : DtdFollows white dtd dtd') (hsettled : Settled white dtd)
    (tag' : Text) {opened : List Text} {element tag : Text} {scope scope' : Scope} {seen : List Text}
    {attributes attributes' : List Attribute}
    (hattributes : List.Forall₂ (AttributeFollows white) attributes attributes')
    (h : checkAttributes dtd opened (dtd.attributesOf element) tag scope seen attributes = .ok scope') :
    checkAttributes dtd' opened (dtd'.attributesOf element) tag' scope seen attributes' = .ok scope' := by
  induction hattributes generalizing scope seen with
  | nil => exact h
  | @cons a a' _ _ ha _ ih =>
    rw [checkAttributes] at h
    split at h
    · cases h
    rename_i hseen
    split at h
    · cases h
    rename_i value hvalue
    split at h
    · cases h
    rename_i next hnext
    obtain ⟨value', hvalue', hagrees⟩ :=
      attributeValue_follows hw hdtd.entitiesFollow hdtd.entities.length_eq ha.value hvalue
    have hfixed := hsettled.fixed_keepsVerbatim element a.name
    have hnext' := bindAttribute_follows hagrees hfixed hnext
    rw [hdtd.strict, keepsVerbatim_follows (hdtd.attributesOf element), ha.name] at hvalue'
    rw [ha.name] at hseen hnext' h
    rw [checkAttributes, if_neg hseen, hvalue']
    dsimp only
    rw [hnext']
    exact ih h

/-- One default that a tag takes is another, and the values agree. -/
def BindingFollows (white : CodePoint → Bool) (d d' : Text × Text) : Prop :=
  d.1 = d'.1 ∧ ∃ verbatim, Agrees white verbatim d.2 d'.2 ∧ Fixed white d.1 verbatim

theorem defaultsFor_follows {declared declared' : List AttributeDefault}
    (h : List.Forall₂ (DefaultFollows white) declared declared')
    (hfixed : ∀ a ∈ declared, Fixed white a.name a.verbatim) (given : List Text) :
    List.Forall₂ (BindingFollows white) (defaultsFor declared given) (defaultsFor declared' given) := by
  unfold defaultsFor
  induction h with
  | nil => exact .nil
  | @cons a a' as as' ha _ ih =>
    obtain ⟨hfixedA, hfixed⟩ := List.forall_mem_cons.mp hfixed
    have hvalue := ha.value
    rw [List.filterMap_cons, List.filterMap_cons, ← ha.name]
    generalize a.value = value, a'.value = value' at hvalue ⊢
    cases hvalue with
    | none => exact ih hfixed
    | some hagrees =>
      dsimp only
      cases given.contains a.name with
      | true => exact ih hfixed
      | false => exact .cons ⟨rfl, a.verbatim, hagrees, hfixedA⟩ (ih hfixed)

theorem bindDefaults_follows (tag' : Text) {tag : Text} {scope scope' : Scope} {defaults defaults' : List (Text × Text)}
    (hdefaults : List.Forall₂ (BindingFollows white) defaults defaults')
    (h : bindDefaults tag scope defaults = .ok scope') : bindDefaults tag' scope defaults' = .ok scope' := by
  induction hdefaults generalizing scope with
  | nil => exact h
  | @cons d d' _ _ hd _ ih =>
    obtain ⟨hname, verbatim, hagrees, hfixed⟩ := hd
    obtain ⟨name, value⟩ := d
    obtain ⟨_, value'⟩ := d'
    obtain rfl := hname
    rw [bindDefaults] at h
    split at h
    · cases h
    rename_i next hnext
    rw [bindDefaults, bindAttribute_follows hagrees hfixed hnext]
    exact ih h

theorem checkQualified_tag (tag' : Text) {scope : Scope} {tag : Text} {seen : List (Text × Text)} {names : List Text}
    (h : checkQualified scope tag seen names = .ok ()) : checkQualified scope tag' seen names = .ok () := by
  induction names generalizing seen with
  | nil => rfl
  | cons name names ih =>
    rw [checkQualified] at h ⊢
    split at h
    · exact ih h
    · split at h
      · cases h
      · split at h
        · cases h
        · rename_i hseen
          rw [if_neg hseen]
          exact ih h

/-- A start tag that is accepted is accepted in the reflowed text, with the same scope. -/
theorem checkStartTag_follows (hw : White white) (hdtd : DtdFollows white dtd dtd') (hsettled : Settled white dtd)
    (tag' : Text) {opened : List Text} {scope scope' : Scope} {tag : Text} {start start' : StartTag}
    (hstart : StartTagFollows white start start') (h : checkStartTag dtd opened scope tag start = .ok scope') :
    checkStartTag dtd' opened scope tag' start' = .ok scope' := by
  have hgiven : start.attributes.map (·.name) = start'.attributes.map (·.name) :=
    map_related (fun _ _ ha => ha.name) hstart.attributes
  have hdefaults : List.Forall₂ (BindingFollows white)
      (defaultsFor (dtd.attributesOf start.name) (start.attributes.map (·.name)))
      (defaultsFor (dtd'.attributesOf start.name) (start.attributes.map (·.name))) :=
    defaultsFor_follows (hdtd.attributesOf _) (fun a ha => hsettled.fixed ha) _
  have hnames := map_related (f := Prod.fst) (g := Prod.fst) (fun _ _ hd => hd.1) hdefaults
  unfold checkStartTag at h ⊢
  obtain ⟨first, hfirst, h⟩ := bind_eq_ok h
  obtain ⟨second, hsecond, h⟩ := bind_eq_ok h
  obtain ⟨_, hqualified, h⟩ := bind_eq_ok h
  rw [← hstart.name, ← hgiven]
  simp only [checkAttributes_follows hw hdtd hsettled tag' hstart.attributes hfirst,
    bindDefaults_follows tag' hdefaults hsecond, ← hnames,
    checkQualified_tag tag' hqualified, Bind.bind, Except.bind]
  split at h
  · exact h
  · split at h
    · rename_i hbound
      rw [if_pos hbound]
      exact h
    · cases h

end Tags

/-! ## Content -/

section Content

variable {white : CodePoint → Bool} {dtd dtd' : Dtd}

theorem checkReference_follows (hdtd : DtdFollows white dtd dtd') {opened : List Text}
    {expand expand' : (name text : Text) → Except Fault Unit}
    (hexpand : ∀ name text text', Reflowed white text text' → expand name text = .ok () → expand' name text' = .ok ())
    {s t : Text} {ref : Reference} (h : checkReference dtd opened expand s ref = .ok ()) :
    checkReference dtd' opened expand' t ref = .ok () := by
  cases ref with
  | character n =>
    rw [checkReference] at h ⊢
    split at h
    · rename_i hnumber
      rw [if_pos hnumber]
    · cases h
  | entity name =>
    have hentity := hdtd.entitiesFollow name
    rw [checkReference] at h ⊢
    split
    · rfl
    rename_i hpredefined
    rw [if_neg hpredefined] at h
    -- the entities are declared on both sides or on neither, and then of one kind
    generalize dtd.entity? name = found, dtd'.entity? name = found' at hentity h ⊢
    cases hentity with
    | none =>
      dsimp only at h ⊢
      split at h
      · cases h
      · rename_i hstrict
        rw [← hdtd.strict, if_neg hstrict]
    | some hentity =>
      dsimp only at h ⊢
      split at h
      · cases h
      rename_i hopened
      rw [if_neg hopened]
      cases hentity with
      | internal htext =>
        dsimp only at h ⊢
        split at h
        · rename_i hok
          rw [hexpand name _ _ htext hok]
        · cases h
        · cases h
      | external => rfl
      | unparsed => cases h

/-- A line feed and spaces before a tag are one piece of character data. -/
theorem nextPiece_gap (n : Nat) (t : Text) :
    nextPiece CodePoint.newline (Text.spaces n ++ char '<' :: t) = .ok (.data, char '<' :: t) := by
  have hspaces : scanData (Text.spaces n ++ char '<' :: t) = .found () (char '<' :: t) := by
    induction n with
    | zero => rfl
    | succ n ih => exact ih
  have hdata : scanData (CodePoint.newline :: (Text.spaces n ++ char '<' :: t)) = .found () (char '<' :: t) := hspaces
  rw [nextPiece_data (by decide) (by decide), hdata]
  rfl

/-- At the start of content both texts have a related piece, unless a tag has been moved to a line of its own. -/
theorem nextPiece_cases (hw : White white) {c : CodePoint} {rest t : Text} (h : Reflowed white (c :: rest) t)
    {piece : Piece} {after : Text} (hpiece : nextPiece c rest = .ok (piece, after)) :
    (∃ c' rest' piece' after', t = c' :: rest' ∧ nextPiece c' rest' = .ok (piece', after') ∧
      PieceFollows white piece piece' ∧ Reflowed white after after') ∨
    ∃ n t', t = CodePoint.newline :: (Text.spaces n ++ char '<' :: t') ∧
      Reflowed white (c :: rest) (char '<' :: t') := by
  by_cases htag : c = char '<'
  · subst htag
    obtain ⟨t', hrest, rfl | ⟨n, rfl⟩⟩ := h.tag_left (hw.eq_false rfl)
    · obtain ⟨piece', after', hpiece', hfollows⟩ := nextPiece_tag hw hrest hpiece
      exact Or.inl ⟨_, t', piece', after', rfl, hpiece', hfollows⟩
    · exact Or.inr ⟨n, t', rfl, hrest.cons _⟩
  · exact Or.inl (nextPiece_follows hw h htag hpiece)

theorem atEnd_before (before' : Text) {owner : Owner} {stack : List OpenElement} {before r : Text}
    (h : atEnd owner stack before = .ok r) : r = [] ∧ atEnd owner stack before' = .ok [] := by
  cases owner with
  | root => cases h
  | entity =>
    unfold atEnd at h ⊢
    dsimp only at h ⊢
    split at h
    · rename_i hstack
      cases h
      exact ⟨rfl, if_pos hstack⟩
    · cases h

/-- One turn: related pieces are accepted together, if the content behind them is. -/
theorem checkContentWith_piece_follows (hw : White white) (hdtd : DtdFollows white dtd dtd')
    (hsettled : Settled white dtd) {opened : List Text} {outer : Scope} {owner : Owner}
    {expand expand' : (scope : Scope) → (name text : Text) → Except Fault Unit}
    (hexpand : ∀ scope name text text', Reflowed white text text' → expand scope name text = .ok () →
      expand' scope name text' = .ok ())
    (before' : Text) {limit limit' : Nat} {stack : List OpenElement} {before r rest rest' after after' : Text}
    {c c' : CodePoint} {piece piece' : Piece} (hpiece : nextPiece c rest = .ok (piece, after))
    (hpiece' : nextPiece c' rest' = .ok (piece', after')) (hfollows : PieceFollows white piece piece')
    (hreflow : Reflowed white after after')
    (hgoOn : ∀ stack, checkContentWith dtd opened outer owner expand limit stack (c :: rest) after = .ok r →
      ∃ r', checkContentWith dtd' opened outer owner expand' limit' stack (c' :: rest') after' = .ok r' ∧
        Reflowed white r r')
    (hcheck : checkContentWith dtd opened outer owner expand (limit + 1) stack before (c :: rest) = .ok r) :
    ∃ r', checkContentWith dtd' opened outer owner expand' (limit' + 1) stack before' (c' :: rest') = .ok r' ∧
      Reflowed white r r' := by
  obtain ⟨_, hread, hcheck⟩ := bind_eq_ok hcheck
  rw [hpiece] at hread
  cases hread
  rw [checkContentWith, hpiece']
  cases hfollows with
  | data => exact hgoOn _ hcheck
  | comment => exact hgoOn _ hcheck
  | instruction => exact hgoOn _ hcheck
  | reference ref =>
    obtain ⟨_, href, hcheck⟩ := bind_eq_ok hcheck
    have href' := checkReference_follows (t := c' :: rest') hdtd (hexpand (scopeAt outer stack)) href
    simp only [Bind.bind, Except.bind, href']
    exact hgoOn _ hcheck
  | @startTag start start' hstart =>
    obtain ⟨inner, hinner, hcheck⟩ := bind_eq_ok hcheck
    have hinner' := checkStartTag_follows hw hdtd hsettled (c' :: rest') hstart hinner
    simp only [Bind.bind, Except.bind, hinner', ← hstart.name, ← hstart.empty]
    split at hcheck
    · rename_i hempty
      rw [if_pos hempty]
      exact hgoOn _ hcheck
    rename_i hempty
    rw [if_neg hempty]
    -- an empty element that is the root ends the content
    split at hcheck
    · rename_i hlast
      cases hcheck
      rw [if_pos hlast]
      exact ⟨after', rfl, hreflow⟩
    · rename_i hlast
      rw [if_neg hlast]
      exact hgoOn _ hcheck
  | endTag name place place' =>
    simp only [Bind.bind, Except.bind] at hcheck ⊢
    cases stack with
    | nil => cases hcheck
    | cons element below =>
      dsimp only at hcheck ⊢
      split at hcheck
      · cases hcheck
      rename_i hname
      rw [if_neg hname]
      split at hcheck
      · rename_i hlast
        cases hcheck
        rw [if_pos hlast]
        exact ⟨after', rfl, hreflow⟩
      · rename_i hlast
        rw [if_neg hlast]
        exact hgoOn _ hcheck

theorem checkContentWith_follows (hw : White white) (hdtd : DtdFollows white dtd dtd') (hsettled : Settled white dtd)
    {opened : List Text} {outer : Scope} {owner : Owner}
    {expand expand' : (scope : Scope) → (name text : Text) → Except Fault Unit}
    (hexpand : ∀ scope name text text', Reflowed white text text' → expand scope name text = .ok () →
      expand' scope name text' = .ok ())
    (before' : Text) {limit limit' : Nat} {stack : List OpenElement} {before s t r : Text} (h : Reflowed white s t)
    (hlimit : s.length < limit) (hlimit' : t.length < limit')
    (hcheck : checkContentWith dtd opened outer owner expand limit stack before s = .ok r) :
    ∃ r', checkContentWith dtd' opened outer owner expand' limit' stack before' t = .ok r' ∧ Reflowed white r r' := by
  -- every turn takes a piece of the reflowed text, but not always one of the first text
  induction limit' generalizing limit stack before before' s t with
  | zero => exact absurd hlimit' (Nat.not_lt_zero _)
  | succ limit' ih =>
    obtain ⟨limit, rfl⟩ : ∃ k, limit = k + 1 := ⟨limit - 1, by omega⟩
    cases s with
    | nil =>
      obtain rfl := h.nil_left
      rw [checkContentWith] at hcheck ⊢
      obtain ⟨rfl, hend⟩ := atEnd_before before' hcheck
      exact ⟨[], hend, .nil⟩
    | cons c rest =>
      obtain ⟨⟨piece, after⟩, hpiece, -⟩ := bind_eq_ok hcheck
      have hafter := (nextPiece_within hpiece).length_le
      rw [List.length_cons] at hlimit
      rcases nextPiece_cases hw h hpiece with
        ⟨c', rest', piece', after', rfl, hpiece', hfollows, hreflow⟩ | ⟨n, t', rfl, hreflow⟩
      · have hafter' := (nextPiece_within hpiece').length_le
        rw [List.length_cons] at hlimit'
        refine checkContentWith_piece_follows hw hdtd hsettled hexpand before' hpiece hpiece' hfollows hreflow ?_ hcheck
        intro stack hrest
        exact ih _ hreflow (by omega) (by omega) hrest
      · -- the line feed and the spaces are a piece of their own
        rw [List.length_cons, List.length_append] at hlimit'
        rw [checkContentWith, nextPiece_gap]
        exact ih _ hreflow (by simpa using hlimit) (by omega) hcheck

theorem checkReplacement_follows (hw : White white) (hdtd : DtdFollows white dtd dtd') (hsettled : Settled white dtd)
    (room : Nat) (opened : List Text) (scope : Scope) (name text text' : Text) (htext : Reflowed white text text')
    (h : checkReplacement dtd room opened scope name text = .ok ()) :
    checkReplacement dtd' room opened scope name text' = .ok () := by
  induction room generalizing opened scope name text text' with
  | zero => cases h
  | succ room ih =>
    obtain ⟨r, hr, -⟩ := bind_eq_ok h
    obtain ⟨r', hr', -⟩ := checkContentWith_follows hw hdtd hsettled (ih (name :: opened)) [] htext
      (Nat.lt_succ_self _) (Nat.lt_succ_self _) hr
    rw [checkReplacement]
    simp only [Bind.bind, Except.bind, hr']
    rfl

/-- A root element that is accepted is accepted in the reflowed text. -/
theorem checkRoot_follows (hw : White white) (hdtd : DtdFollows white dtd dtd') (hsettled : Settled white dtd)
    {s t r : Text} (h : Reflowed white s t) (hroot : checkRoot dtd s = .ok r) :
    ∃ r', checkRoot dtd' t = .ok r' ∧ Reflowed white r r' := by
  unfold checkRoot at hroot ⊢
  rw [← hdtd.entities.length_eq]
  exact checkContentWith_follows hw hdtd hsettled (checkReplacement_follows hw hdtd hsettled _ []) [] h
    (Nat.lt_succ_self _) (Nat.lt_succ_self _) hroot

end Content

end Tidy.Xml
