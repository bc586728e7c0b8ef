/-
# Tidy.Proofs.Css.Declaration -- the space around the first colon

A declaration is found in a text by trying: a name as short as it can be, white space as long as it can be, a colon, and
white space as long as it can be (`fits` lists what can be tried, the preferred way first). The colon is the first one
then, no parenthesis opens before it, and the name goes up to the white space before it, or is the single code point it
starts with (`head?_fits`). Normalising writes the name and the value of the preferred way (`normalizeDeclaration_fits`).

In places of the text: a colon is the separator if it is the first one and no parenthesis opens before it. Only the
white space around a separator changes, and not again when the text is normalised once more
(`normalizeDeclaration_separated`).
-/

import Tidy.Proofs.Css.Statements

namespace Tidy.Css

open CodePoint (char)

/-! ## Ways to find a declaration -/

/-- The ways to take a run of code points of a kind off the start of a text, the shortest run first. -/
def splits (kind : CodePoint → Bool) : Text → List (Text × Text)
  | [] => [([], [])]
  | c :: t =>
    if kind c then ([], c :: t) :: (splits kind t).map fun split => (c :: split.1, split.2) else [([], c :: t)]

/-- The ways to go on after a name and white space: a colon and white space, as much as possible first. -/
def fitsColon (name : Text) : Text → List (Text × Text)
  | [] => []
  | c :: rest => if c = ':' then (splits CodePoint.isBlank rest).reverse.map fun split => (name, split.2) else []

/-- The ways to find the name and the value of a declaration, the preferred one first: the name is as short as it can
be, and white space before and after the colon as long as it can be. -/
def fits (t : Text) : List (Text × Text) :=
  (splits isNamePart t).flatMap fun split =>
    if split.1 = [] then []
    else (splits CodePoint.isBlank split.2).reverse.flatMap fun gap => fitsColon split.1 gap.2

/-- The declaration that is found in the preferred way, with one space after its colon. -/
def respelled (t : Text) : Text :=
  match (fits t).head? with
  | some (name, value) => name ++ ": " ++ value
  | none => t

variable {kind : CodePoint → Bool}

theorem splits_cons_pos {c : CodePoint} (h : kind c = true) (t : Text) :
    splits kind (c :: t) = ([], c :: t) :: (splits kind t).map fun split => (c :: split.1, split.2) :=
  if_pos h

theorem splits_cons_neg {c : CodePoint} (h : kind c = false) (t : Text) : splits kind (c :: t) = [([], c :: t)] := by
  rw [splits, h, if_neg Bool.false_ne_true]

theorem mem_splits {t run rest : Text} (h : (run, rest) ∈ splits kind t) :
    t = run ++ rest ∧ ∀ c ∈ run, kind c = true := by
  induction t generalizing run with
  | nil =>
    obtain ⟨rfl, rfl⟩ := Prod.mk.inj (List.mem_singleton.mp h)
    exact ⟨rfl, List.forall_mem_nil _⟩
  | cons c t ih =>
    cases hc : kind c with
    | false =>
      rw [splits_cons_neg hc] at h
      obtain ⟨rfl, rfl⟩ := Prod.mk.inj (List.mem_singleton.mp h)
      exact ⟨rfl, List.forall_mem_nil _⟩
    | true =>
      rw [splits_cons_pos hc] at h
      rcases List.mem_cons.mp h with hempty | hmore
      · obtain ⟨rfl, rfl⟩ := Prod.mk.inj hempty
        exact ⟨rfl, List.forall_mem_nil _⟩
      · obtain ⟨⟨run', rest'⟩, hmem, hsplit⟩ := List.mem_map.mp hmore
        obtain ⟨rfl, rfl⟩ := Prod.mk.inj hsplit
        obtain ⟨rfl, hrun⟩ := ih hmem
        exact ⟨rfl, List.forall_mem_cons.mpr ⟨hc, hrun⟩⟩

/-- If nothing is found where the run could go on, then only the longest run counts. -/
theorem flatMap_reverse_splits {α : Type} {f : Text × Text → List α}
    (hf : ∀ run c rest, kind c = true → f (run, c :: rest) = []) (t : Text) :
    (splits kind t).reverse.flatMap f = f (t.takeWhile kind, t.dropWhile kind) := by
  induction t generalizing f with
  | nil => exact List.flatMap_singleton f _
  | cons c t ih =>
    cases hc : kind c with
    | false =>
      rw [splits_cons_neg hc, List.takeWhile_cons_of_neg (by simp [hc]), List.dropWhile_cons_of_neg (by simp [hc])]
      exact List.flatMap_singleton f _
    | true =>
      have hshort : f ([], c :: t) = [] := hf [] c t hc
      rw [splits_cons_pos hc, List.reverse_cons, List.flatMap_append, List.flatMap_singleton, hshort, List.append_nil,
        ← List.map_reverse, List.flatMap_map, ih fun run d rest hd => hf (c :: run) d rest hd,
        List.takeWhile_cons_of_pos hc, List.dropWhile_cons_of_pos hc]

theorem head?_reverse_splits (t : Text) :
    (splits kind t).reverse.head? = some (t.takeWhile kind, t.dropWhile kind) := by
  rw [List.head?_reverse]
  induction t with
  | nil => rfl
  | cons c t ih =>
    cases hc : kind c with
    | false =>
      rw [splits_cons_neg hc, List.takeWhile_cons_of_neg (by simp [hc]), List.dropWhile_cons_of_neg (by simp [hc])]
      rfl
    | true =>
      rw [splits_cons_pos hc, List.takeWhile_cons_of_pos hc, List.dropWhile_cons_of_pos hc, List.getLast?_cons,
        List.getLast?_map, ih]
      rfl

/-! ## The preferred way -/

theorem fitsColon_of_ne {c : CodePoint} (h : c ≠ char ':') (name rest : Text) : fitsColon name (c :: rest) = [] :=
  if_neg h

theorem head?_fitsColon (name rest : Text) :
    (fitsColon name (char ':' :: rest)).head? = some (name, Text.trimStart rest) := by
  rw [fitsColon, if_pos rfl, List.head?_map, head?_reverse_splits]
  rfl

/-- White space before the colon is taken as a whole. -/
theorem flatMap_fitsColon (name rest : Text) :
    ((splits CodePoint.isBlank rest).reverse.flatMap fun gap => fitsColon name gap.2) =
      fitsColon name (Text.trimStart rest) := by
  apply flatMap_reverse_splits (f := fun gap => fitsColon name gap.2)
  intro run c rest hblank
  apply fitsColon_of_ne
  rintro rfl
  cases hblank

theorem fits_eq (t : Text) : fits t = (splits isNamePart t).flatMap fun split =>
    if split.1 = [] then [] else fitsColon split.1 (Text.trimStart split.2) := by
  unfold fits
  congr 1
  funext split
  rw [flatMap_fitsColon]

/-- The first name that a colon follows, after white space, ends where that white space begins. -/
theorem head?_flatMap_fitsColon {name : Text} (h : ∀ c ∈ name, isNamePart c = true) (lead value : Text) :
    ((splits isNamePart (name ++ char ':' :: value)).flatMap fun split =>
      fitsColon (lead ++ split.1) (Text.trimStart split.2)).head? =
      some (lead ++ Text.trimEnd name, Text.trimStart value) := by
  have hcolon : ∀ rest, Text.trimStart (char ':' :: rest) = char ':' :: rest :=
    fun rest => Text.trimStart_of_startsSolid (Text.startsSolid_of_head rfl rfl)
  induction name generalizing lead with
  | nil =>
    rw [List.nil_append, splits_cons_neg rfl, List.flatMap_singleton, hcolon, head?_fitsColon]
    rfl
  | cons c name ih =>
    obtain ⟨hc, hname⟩ := List.forall_mem_cons.mp h
    rw [List.cons_append, splits_cons_pos hc, List.flatMap_cons, List.append_nil, List.flatMap_map, ← List.cons_append]
    cases hblank : Text.isBlank (c :: name) with
    | true =>
      -- nothing but white space is before the colon, so the name ends here
      rw [Text.trimStart_append_of_isBlank hblank, hcolon, List.head?_append, head?_fitsColon, Text.trimEnd_eq_nil hblank,
        List.append_nil]
      rfl
    | false =>
      have hnone : fitsColon lead (Text.trimStart (c :: name ++ char ':' :: value)) = [] := by
        rw [Text.trimStart_append_of_not_isBlank hblank]
        cases hstart : Text.trimStart (c :: name) with
        | nil =>
          rw [Text.trimStart_eq_nil_iff, hblank] at hstart
          cases hstart
        | cons d rest =>
          apply fitsColon_of_ne
          rintro rfl
          have hmem : char ':' ∈ c :: name := by
            apply (List.dropWhile_suffix CodePoint.isBlank).subset
            change char ':' ∈ Text.trimStart (c :: name)
            rw [hstart]
            exact List.mem_cons_self
          cases h _ hmem
      have hlead := ih hname (lead ++ [c])
      simp only [List.append_assoc, List.singleton_append] at hlead
      rw [hnone, List.nil_append, Text.trimEnd_cons_of_not_isBlank hblank]
      exact hlead

theorem trimName_cons (c : CodePoint) (name : Text) : trimName (c :: name) = c :: Text.trimEnd name := by
  cases hblank : Text.isBlank (c :: name) with
  | true =>
    have hname : Text.isBlank name = true := by
      rw [Text.isBlank, List.all_cons, Bool.and_eq_true] at hblank
      exact hblank.2
    rw [trimName, Text.trimEnd_eq_nil hblank, Text.trimEnd_eq_nil hname]
    rfl
  | false =>
    rw [trimName, Text.trimEnd_cons_of_not_isBlank hblank]
    rfl

/-- The preferred way to find a declaration. -/
theorem head?_fits {name : Text} (h : ∀ c ∈ name, isNamePart c = true) (hne : name ≠ []) (value : Text) :
    (fits (name ++ char ':' :: value)).head? = some (trimName name, Text.trimStart value) := by
  cases name with
  | nil => exact absurd rfl hne
  | cons c name =>
    obtain ⟨hc, hname⟩ := List.forall_mem_cons.mp h
    -- the name has at least one code point
    have hfits : fits (c :: name ++ char ':' :: value) =
        (splits isNamePart (name ++ char ':' :: value)).flatMap fun split =>
          fitsColon ([c] ++ split.1) (Text.trimStart split.2) := by
      rw [fits_eq, List.cons_append, splits_cons_pos hc, List.flatMap_cons, if_pos rfl, List.nil_append,
        List.flatMap_map]
      rfl
    rw [hfits, head?_flatMap_fitsColon hname, trimName_cons]
    rfl

example : fits "a :b" = [⟨"a", "b"⟩, ⟨"a ", "b"⟩] := by decide

/-- A declaration is found only before a colon that no parenthesis and no other colon precedes. -/
theorem exists_name_of_mem_fits {t name value : Text} (h : (name, value) ∈ fits t) :
    ∃ front rest, t = front ++ char ':' :: rest ∧ (∀ c ∈ front, isNamePart c = true) ∧ front ≠ [] := by
  rw [fits, List.mem_flatMap] at h
  obtain ⟨⟨run, behind⟩, hrun, hfound⟩ := h
  obtain ⟨rfl, hname⟩ := mem_splits hrun
  split at hfound
  · cases hfound
  · rename_i hne
    rw [List.mem_flatMap] at hfound
    obtain ⟨⟨gap, rest⟩, hgap, hcolon⟩ := hfound
    rw [List.mem_reverse] at hgap
    obtain ⟨hsplit, hblank⟩ := mem_splits hgap
    cases rest with
    | nil => cases hcolon
    | cons c rest =>
      by_cases hc : c = char ':'
      · subst hc
        refine ⟨run ++ gap, rest, ?_, ?_, List.append_ne_nil_of_left_ne_nil hne gap⟩
        · rw [List.append_assoc, ← hsplit]
        · intro c hc
          rcases List.mem_append.mp hc with hrunmem | hgapmem
          · exact hname c hrunmem
          · -- white space may stand in a name
            rw [← Bool.not_eq_false, isNamePart_eq_false_iff]
            rintro (rfl | rfl)
            · cases hblank _ hgapmem
            · cases hblank _ hgapmem
      · rw [fitsColon_of_ne hc] at hcolon
        cases hcolon

/-- Where a name ends is told by the first code point that is no part of one. -/
theorem name_unique {name front value rest : Text} {c d : CodePoint} (hname : ∀ c ∈ name, isNamePart c = true)
    (hfront : ∀ c ∈ front, isNamePart c = true) (hc : isNamePart c = false) (hd : isNamePart d = false)
    (h : name ++ c :: value = front ++ d :: rest) : name = front ∧ c = d ∧ value = rest := by
  have htake := congrArg (List.takeWhile isNamePart) h
  rw [List.takeWhile_append_of_pos hname, List.takeWhile_append_of_pos hfront,
    List.takeWhile_cons_of_neg (by simp [hc]), List.takeWhile_cons_of_neg (by simp [hd]), List.append_nil,
    List.append_nil] at htake
  subst htake
  obtain ⟨hhead, htail⟩ := List.cons.inj (List.append_cancel_left h)
  exact ⟨rfl, hhead, htail⟩

theorem normalizeDeclaration_name {name : Text} (h : ∀ c ∈ name, isNamePart c = true) (hne : name ≠ []) (value : Text) :
    normalizeDeclaration (name ++ char ':' :: value) = trimName name ++ ": " ++ Text.trimStart value := by
  rw [normalizeDeclaration_eq h rfl, if_pos ⟨rfl, hne⟩]

/-- A text has a name with a colon behind it, or there is nothing to normalise. -/
theorem exists_name_or_same (t : Text) :
    (∃ name value, t = name ++ char ':' :: value ∧ (∀ c ∈ name, isNamePart c = true) ∧ name ≠ []) ∨
      normalizeDeclaration t = t ∧
        ∀ name value, t = name ++ char ':' :: value → (∀ c ∈ name, isNamePart c = true) → name = [] := by
  rcases exists_first t with hall | ⟨name, c, value, rfl, hname, rfl | rfl⟩
  · refine Or.inr ⟨normalizeDeclaration_of_name hall, ?_⟩
    rintro front rest rfl -
    cases hall _ (List.mem_append_right _ List.mem_cons_self)
  · by_cases hne : name = []
    · refine Or.inr ⟨?_, ?_⟩
      · rw [normalizeDeclaration_eq hname rfl, if_neg fun hcolon => hcolon.2 hne]
      · intro front rest ht hfront
        rw [← (name_unique hname hfront rfl rfl ht).1, hne]
    · exact Or.inl ⟨name, value, rfl, hname, hne⟩
  · refine Or.inr ⟨normalizeDeclaration_paren hname value, ?_⟩
    intro front rest ht hfront
    -- the parenthesis is not the colon
    cases (name_unique hname hfront rfl rfl ht).2.1

/-- Normalising writes the declaration that is found in the preferred way. -/
theorem normalizeDeclaration_fits (t : Text) : normalizeDeclaration t = respelled t := by
  rcases exists_name_or_same t with ⟨name, value, rfl, hname, hne⟩ | ⟨hsame, hnone⟩
  · rw [normalizeDeclaration_name hname hne, respelled, head?_fits hname hne]
  · have hfits : fits t = [] := by
      rw [List.eq_nil_iff_forall_not_mem]
      rintro ⟨name, value⟩ hmem
      obtain ⟨front, rest, ht, hfront, hne⟩ := exists_name_of_mem_fits hmem
      exact hne (hnone front rest ht hfront)
    rw [hsame, respelled, hfits]
    rfl

/-! ## Places in the text -/

/-- The place is that of the first colon, and no parenthesis opens before it. -/
def IsSeparator (t : Text) (i : Nat) : Prop :=
  t[i]? = some (char ':') ∧ ∀ j < i, t[j]? ≠ some (char ':') ∧ t[j]? ≠ some (char '(')

theorem isSeparator_length {name : Text} (h : ∀ c ∈ name, isNamePart c = true) (value : Text) :
    IsSeparator (name ++ char ':' :: value) name.length := by
  refine ⟨by rw [List.getElem?_append_right (Nat.le_refl _), Nat.sub_self, List.getElem?_cons_zero], fun j hj => ?_⟩
  rw [List.getElem?_append_left hj]
  constructor
  · intro hcolon
    cases h _ (List.mem_of_getElem? hcolon)
  · intro hparen
    cases h _ (List.mem_of_getElem? hparen)

/-- A separator comes right after a name. -/
theorem IsSeparator.split {t : Text} {i : Nat} (h : IsSeparator t i) :
    t = t.take i ++ char ':' :: t.drop (i + 1) ∧ ∀ c ∈ t.take i, isNamePart c = true := by
  obtain ⟨hcolon, hbefore⟩ := h
  obtain ⟨hlt, hget⟩ := List.getElem?_eq_some_iff.mp hcolon
  constructor
  · rw [← hget, List.getElem_cons_drop, List.take_append_drop]
  · intro c hc
    obtain ⟨j, hj⟩ := List.mem_iff_getElem?.mp hc
    rw [List.getElem?_take] at hj
    split at hj
    · rename_i hji
      rw [← Bool.not_eq_false, isNamePart_eq_false_iff]
      rintro (rfl | rfl)
      · exact (hbefore j hji).1 hj
      · exact (hbefore j hji).2 hj
    · cases hj

/-- A trimmed name goes up to the white space at the end of the name, but has at least one code point. -/
theorem trimName_eq_take (name : Text) : trimName name = name.take (max 1 (Text.trimEnd name).length) := by
  obtain ⟨tail, -, hsplit⟩ := Text.exists_trimEnd name
  cases htrim : Text.trimEnd name with
  | nil =>
    rw [trimName, htrim]
    rfl
  | cons c rest =>
    have hlength : max 1 (c :: rest).length = (c :: rest).length := by
      rw [List.length_cons]
      omega
    have htake : name.take (c :: rest).length = c :: rest := by
      rw [htrim] at hsplit
      rw [hsplit, List.take_left]
    rw [trimName, htrim, hlength, htake]
    rfl

theorem trimName_trimName (name : Text) : trimName (trimName name) = trimName name := by
  cases name with
  | nil => rfl
  | cons c name => rw [trimName_cons, trimName_cons, Text.trimEnd_of_endsSolid (Text.endsSolid_trimEnd name)]

/-- What is normalised is left alone. -/
theorem normalizeDeclaration_normalizeDeclaration (t : Text) :
    normalizeDeclaration (normalizeDeclaration t) = normalizeDeclaration t := by
  rcases exists_name_or_same t with ⟨name, value, rfl, hname, hne⟩ | ⟨hsame, -⟩
  · have hpart : ∀ c ∈ trimName name, isNamePart c = true := by
      intro c hc
      rw [trimName_eq_take] at hc
      exact hname c (List.mem_of_mem_take hc)
    have hkept : trimName name ≠ [] := by
      cases name with
      | nil => exact absurd rfl hne
      | cons c name =>
        rw [trimName_cons]
        exact List.cons_ne_nil _ _
    -- the space after the colon is white space before the value once more
    have hspace : Text.trimStart (char ' ' :: Text.trimStart value) = Text.trimStart value := by
      have hblank : Text.isBlank [char ' '] = true := rfl
      apply (Text.trimStart_append_of_isBlank hblank _).trans
      exact Text.trimStart_of_startsSolid (Text.startsSolid_trimStart value)
    have hcolon : trimName name ++ ": " ++ Text.trimStart value =
        trimName name ++ char ':' :: char ' ' :: Text.trimStart value := by
      rw [List.append_assoc]
      rfl
    rw [normalizeDeclaration_name hname hne, hcolon, normalizeDeclaration_name hpart hkept, trimName_trimName, hspace,
      hcolon]
  · rw [hsame, hsame]

/-- Normalising writes the declaration that is found in the preferred way, which is the one around the separator: only
the white space next to it changes. A text without a separator behind a name is left alone, and so is what was normalised
before. -/
theorem normalizeDeclaration_separated (t : Text) :
    normalizeDeclaration t = respelled t ∧
      (∀ i, 1 ≤ i → IsSeparator t i → normalizeDeclaration t =
        t.take (max 1 (Text.trimEnd (t.take i)).length) ++ ": " ++ Text.trimStart (t.drop (i + 1))) ∧
      ((∀ i, 1 ≤ i → ¬ IsSeparator t i) → normalizeDeclaration t = t) ∧
      normalizeDeclaration (normalizeDeclaration t) = normalizeDeclaration t := by
  refine ⟨normalizeDeclaration_fits t, ?_, ?_, normalizeDeclaration_normalizeDeclaration t⟩
  · intro i hi hseparator
    obtain ⟨hsplit, hname⟩ := hseparator.split
    have hlt : i < t.length := (List.getElem?_eq_some_iff.mp hseparator.1).1
    have hne : t.take i ≠ [] := by
      apply List.ne_nil_of_length_pos
      rw [List.length_take]
      omega
    have hshort : (Text.trimEnd (t.take i)).length ≤ i := by
      obtain ⟨tail, -, htail⟩ := Text.exists_trimEnd (t.take i)
      have hlength := congrArg List.length htail
      rw [List.length_append, List.length_take] at hlength
      omega
    have htake : trimName (t.take i) = t.take (max 1 (Text.trimEnd (t.take i)).length) := by
      rw [trimName_eq_take, List.take_take, Nat.min_eq_left (by omega)]
    calc normalizeDeclaration t
        = normalizeDeclaration (t.take i ++ char ':' :: t.drop (i + 1)) := by rw [← hsplit]
      _ = trimName (t.take i) ++ ": " ++ Text.trimStart (t.drop (i + 1)) := normalizeDeclaration_name hname hne _
      _ = t.take (max 1 (Text.trimEnd (t.take i)).length) ++ ": " ++ Text.trimStart (t.drop (i + 1)) := by rw [htake]
  · intro hnone
    rcases exists_name_or_same t with ⟨name, value, rfl, hname, hne⟩ | ⟨hsame, -⟩
    · exact absurd (isSeparator_length hname value) (hnone _ (List.length_pos_iff.mpr hne))
    · exact hsame

end Tidy.Css
