/-
# Tidy.Proofs.Xml.Tags -- tags and character data in reflowed text

The tags of a reflowed text have the names that they had; only the values of attributes may be reflowed
(`AttributeFollows`). Character data and CDATA sections end where they ended.
-/

import Mathlib.Data.List.Forall2
import Tidy.Proofs.Xml.Remainder
import Tidy.Proofs.Xml.Scanning

namespace Tidy.Xml

open CodePoint (char)
open Markup (Reflowed)
open Scan

variable {white : CodePoint → Bool} (hw : White white) {s t : Text}

/-- One attribute is another with its value reflowed. -/
structure AttributeFollows (white : CodePoint → Bool) (a a' : Attribute) : Prop where
  name : a.name = a'.name
  value : Reflowed white a.value a'.value

include hw

/-! ## Values of attributes -/

omit hw in
theorem scanValue_plain {q c : CodePoint} (hq : c ≠ q) (hlegal : isLegal c = true) (htag : c ≠ char '<')
    (hreference : c ≠ char '&') (s : Text) : scanValue q (c :: s) = scanValue q s := by
  simp [scanValue, hq, hlegal, htag, hreference]

theorem passes_scanValue {q : CodePoint} (hq : q.isBlank = false) : Passes white (scanValue q) where
  lost := by
    intro c s v r hc hfound
    have hcq : c ≠ q := ne_of_white hw hc hq
    cases hlegal : isLegal c with
    | false => simp [scanValue, hcq, hlegal] at hfound
    | true =>
      rwa [scanValue_plain hcq hlegal (ne_of_white hw hc rfl) (ne_of_white hw hc rfl)] at hfound
  newline := scanValue_plain (fun h => absurd hq (by rw [← h]; decide)) rfl (by decide) (by decide)
  space := scanValue_plain (fun h => absurd hq (by rw [← h]; decide)) rfl (by decide) (by decide)

theorem follows_scanValue {q : CodePoint} (hq : q.isBlank = false) (h : Reflowed white s t) :
    Follows white Eq (scanValue q s) (scanValue q t) := by
  apply (passes_scanValue hw hq).follows (follows_cut _) _ h
  intro c s t h ih
  rw [scanValue, scanValue]
  split
  · exact follows_found rfl h
  split
  · exact follows_invalid _ _
  split
  · cases hs : scanReference s with
    | found v r =>
      obtain ⟨v', r', ht, -, -⟩ := follows_scanReference hw h v r hs
      rw [ht]
      exact ih
    | invalid => exact follows_invalid _ _
    | cut => exact follows_cut _
  · exact ih

theorem follows_scanAttribute (h : Reflowed white s t) :
    Follows white (AttributeFollows white) (scanAttribute s) (scanAttribute t) := by
  apply (follows_scanQualifiedName hw h).bind
  rintro name _ rest rest' rfl hrest
  cases hequal : skipSpace rest with
  | nil => exact follows_cut _
  | cons c more =>
    dsimp only
    by_cases hc : c = char '='
    · subst hc
      obtain ⟨more', hmore', hmore⟩ := hw.skipSpace_cons hrest hequal rfl (by decide)
      rw [hmore', if_pos rfl]
      dsimp only
      rw [if_pos rfl]
      cases hopen : skipSpace more with
      | nil => exact follows_cut _
      | cons q value =>
        dsimp only
        by_cases hq : (q = char '"' || q = char '\'') = true
        · -- a quote is solid, so the value of the other tag begins with the same one
          have hsolid : q.isBlank = false ∧ q ≠ char '<' := by
            simp only [Bool.or_eq_true, decide_eq_true_eq] at hq
            rcases hq with rfl | rfl <;> decide
          obtain ⟨value', hvalue', hvalue⟩ := hw.skipSpace_cons hmore hopen hsolid.1 hsolid.2
          rw [hvalue', if_pos hq]
          dsimp only
          rw [if_pos hq]
          apply (follows_scanValue hw hsolid.1 hvalue).map
          intro _ _ _
          refine ⟨rfl, hvalue.takeWhile ?_ ?_ ?_ ?_⟩
          · intro d hd
            exact decide_eq_true (ne_of_white hw hd hsolid.1)
          · exact decide_eq_true (fun heq => absurd hsolid.1 (by rw [← heq]; decide))
          · exact decide_eq_true (fun heq => absurd hsolid.1 (by rw [← heq]; decide))
          · exact decide_eq_true (fun heq => hsolid.2 heq.symm)
        · rw [if_neg hq]
          exact follows_invalid _ _
    · rw [if_neg hc]
      exact follows_invalid _ _

/-! ## Tags -/

omit hw in
theorem scanTagEnd_invalid {c : CodePoint} (hclose : c ≠ char '>') (hslash : c ≠ char '/') (s : Text) :
    scanTagEnd (c :: s) = .invalid (c :: s) := by
  rw [scanTagEnd.eq_def]
  simp [hclose, hslash]

theorem follows_scanTagEnd (h : Reflowed white s t) : Follows white Eq (scanTagEnd s) (scanTagEnd t) := by
  cases s with
  | nil => exact follows_cut _
  | cons c s =>
    by_cases hclose : c = char '>'
    · subst hclose
      obtain ⟨t, rfl, ht⟩ := hw.solid h rfl (by decide)
      exact follows_found rfl ht
    by_cases hslash : c = char '/'
    · subst hslash
      obtain ⟨t, rfl, ht⟩ := hw.solid h rfl (by decide)
      cases s with
      | nil => exact follows_cut _
      | cons d s =>
        by_cases hd : d = char '>'
        · subst hd
          obtain ⟨t, rfl, hafter⟩ := hw.solid ht rfl (by decide)
          exact follows_found rfl hafter
        · have hinvalid : scanTagEnd (char '/' :: d :: s) = .invalid (d :: s) := by
            rw [scanTagEnd.eq_def]
            simp [hd]
          rw [hinvalid]
          exact follows_invalid _ _
    · rw [scanTagEnd_invalid hclose hslash]
      exact follows_invalid _ _

/-- The attributes and the end of one tag are those of another, with the values reflowed. -/
structure AttributesFollow (white : CodePoint → Bool) (x x' : List Attribute × Bool) : Prop where
  attributes : List.Forall₂ (AttributeFollows white) x.1 x'.1
  empty : x.2 = x'.2

theorem follows_lastTagEnd (h : Reflowed white s t) :
    Follows white (AttributesFollow white) ((scanTagEnd s).map fun empty => ([], empty))
      ((scanTagEnd t).map fun empty => ([], empty)) :=
  (follows_scanTagEnd hw h).map fun _ _ heq => ⟨.nil, heq⟩

/-- Where white space has been skipped in a tag: its next attribute and what follows it, or its end. -/
def scanBehindSpace (limit : Nat) : Text → Scan (List Attribute × Bool)
  | [] => .cut
  | d :: more =>
    if isNameStart d then
      (scanAttribute (d :: more)).bind fun one after =>
        (scanAttributes limit after).map fun (others, empty) => (one :: others, empty)
    else (scanTagEnd (d :: more)).map fun empty => ([], empty)

omit hw in
theorem scanAttributes_space {c : CodePoint} (hc : isSpace c = true) (limit : Nat) (rest : Text) :
    scanAttributes (limit + 1) (c :: rest) = scanBehindSpace limit (skipSpace rest) := by
  rw [scanAttributes, if_pos hc]
  cases skipSpace rest <;> rfl

omit hw in
theorem scanAttributes_end {c : CodePoint} (hc : ¬ isSpace c = true) (limit : Nat) (rest : Text) :
    scanAttributes (limit + 1) (c :: rest) = (scanTagEnd (c :: rest)).map fun empty => ([], empty) := by
  rw [scanAttributes, if_neg hc]

omit hw in
/-- No attribute and no end of a tag begins with white space that XML does not know. -/
theorem scanBehindSpace_stuck (limit : Nat) (h : Stuck s) : scanBehindSpace limit s = .invalid s := by
  obtain ⟨d, more, rfl, hblank, -⟩ := h
  have hname : ¬ isNameStart d = true := by
    intro hd
    rw [(inert_nameStart d hd).1] at hblank
    cases hblank
  rw [scanBehindSpace, if_neg hname, scanTagEnd_invalid (ne_of_isBlank hblank rfl) (ne_of_isBlank hblank rfl)]
  rfl

theorem follows_scanBehindSpace {limit limit' : Nat} (h : Reflowed white s t)
    (ih : ∀ {after after' : Text}, Reflowed white after after' → after'.length ≤ t.length →
      Follows white (AttributesFollow white) (scanAttributes limit after) (scanAttributes limit' after')) :
    Follows white (AttributesFollow white) (scanBehindSpace limit s) (scanBehindSpace limit' t) := by
  cases s with
  | nil => exact follows_cut _
  | cons d more =>
    by_cases hd : isNameStart d = true
    · obtain ⟨more', rfl, hmore⟩ := hw.solid h (inert_nameStart d hd).1 (inert_nameStart d hd).2
      rw [scanBehindSpace, if_pos hd, scanBehindSpace, if_pos hd]
      apply (follows_scanAttribute hw (hmore.cons d)).bind_within (within_scanAttribute (d :: more'))
      intro one one' after after' hone hafter hwithin
      apply (ih hafter hwithin.length_le).map
      rintro ⟨others, empty⟩ ⟨others', empty'⟩ ⟨hothers, hempty⟩
      exact ⟨.cons hone hothers, hempty⟩
    · rw [scanBehindSpace, if_neg hd]
      cases t with
      | nil => cases h.nil_right
      | cons d' more' =>
        -- nothing that starts a name has been put in
        have hd' : ¬ isNameStart d' = true := by
          intro hname
          obtain ⟨_, heq, -⟩ := h.head_right (fun hnewline => absurd hname (by rw [hnewline]; decide))
          rw [List.cons.injEq] at heq
          exact hd (heq.1 ▸ hname)
        rw [scanBehindSpace, if_neg hd']
        exact follows_lastTagEnd hw h

theorem follows_scanAttributes (limit limit' : Nat) (h : Reflowed white s t) (hlimit : t.length < limit') :
    Follows white (AttributesFollow white) (scanAttributes limit s) (scanAttributes limit' t) := by
  induction limit generalizing s t limit' with
  | zero => exact follows_cut _
  | succ limit ih =>
    obtain ⟨limit', rfl⟩ : ∃ k, limit' = k + 1 := ⟨limit' - 1, by omega⟩
    cases s with
    | nil => exact follows_cut _
    | cons c rest =>
      by_cases hc : isSpace c = true
      · obtain ⟨c', rest', rfl, hc'⟩ := head_space h hc
        have hskip := hw.skipSpace h
        rw [skipSpace_space hc, skipSpace_space hc'] at hskip
        rw [scanAttributes_space hc, scanAttributes_space hc']
        rcases hskip with hstuck | hskip
        · rw [scanBehindSpace_stuck limit hstuck]
          exact follows_invalid _ _
        · apply follows_scanBehindSpace hw hskip
          intro after after' hafter hshorter
          have hlength := (suffix_skipSpace rest').length_le
          rw [List.length_cons] at hlimit
          exact ih limit' hafter (by omega)
      · rw [scanAttributes_end hc]
        by_cases hend : c = char '>' ∨ c = char '/'
        · have hsolid : c.isBlank = false ∧ c ≠ char '<' := by
            rcases hend with rfl | rfl <;> decide
          obtain ⟨rest', rfl, -⟩ := hw.solid h hsolid.1 hsolid.2
          rw [scanAttributes_end hc]
          exact follows_lastTagEnd hw h
        · rw [not_or] at hend
          rw [scanTagEnd_invalid hend.1 hend.2]
          exact follows_invalid _ _

/-- One start tag is another with the values of its attributes reflowed. -/
structure StartTagFollows (white : CodePoint → Bool) (x x' : StartTag) : Prop where
  name : x.name = x'.name
  attributes : List.Forall₂ (AttributeFollows white) x.attributes x'.attributes
  empty : x.empty = x'.empty

theorem follows_scanStartTag (h : Reflowed white s t) :
    Follows white (StartTagFollows white) (scanStartTag s) (scanStartTag t) := by
  apply (follows_scanQualifiedName hw h).bind
  rintro name _ rest rest' rfl hrest
  apply (follows_scanAttributes hw _ _ hrest (Nat.lt_succ_self _)).map
  rintro ⟨attributes, empty⟩ ⟨attributes', empty'⟩ ⟨hattributes, hempty⟩
  exact ⟨rfl, hattributes, hempty⟩

theorem follows_scanEndTag (h : Reflowed white s t) :
    Follows white (fun x x' => x.1 = x'.1) (scanEndTag s) (scanEndTag t) := by
  cases s with
  | nil => exact follows_cut _
  | cons c s =>
    by_cases hc : isNameStart c = true
    · obtain ⟨t, rfl, ht⟩ := hw.solid h (inert_nameStart c hc).1 (inert_nameStart c hc).2
      obtain ⟨hname, hrest⟩ := hw.span inert_endNameChar ht
      rw [scanEndTag, if_pos hc, scanEndTag, if_pos hc]
      dsimp only
      rw [hname]
      cases hs : s.dropWhile isEndNameChar with
      | nil => exact follows_cut _
      | cons d more =>
        rw [hs] at hrest
        dsimp only
        by_cases hd : d = char '>'
        · subst hd
          obtain ⟨more', hmore', hmore⟩ := hw.solid hrest rfl (by decide)
          rw [hmore', if_pos rfl]
          exact follows_found rfl hmore
        by_cases hspace : isSpace d = true
        · -- white space before the end of the tag may have grown or shrunk
          obtain ⟨d', more', hmore', hspace'⟩ := head_space hrest hspace
          have hd' : ¬ d' = char '>' := by
            rintro rfl
            cases hspace'
          rw [hmore'] at hrest ⊢
          rw [if_neg hd, if_pos hspace]
          dsimp only
          rw [if_neg hd', if_pos hspace']
          cases hmore : skipSpace more with
          | nil => exact follows_cut _
          | cons e after =>
            dsimp only
            by_cases he : e = char '>'
            · subst he
              rw [← skipSpace_space hspace] at hmore
              obtain ⟨after', hafter', hafter⟩ := hw.skipSpace_cons hrest hmore rfl (by decide)
              rw [skipSpace_space hspace'] at hafter'
              rw [hafter', if_pos rfl]
              exact follows_found rfl hafter
            · rw [if_neg he]
              exact follows_invalid _ _
        · rw [if_neg hd, if_neg hspace]
          exact follows_invalid _ _
    · rw [scanEndTag, if_neg hc]
      exact follows_invalid _ _

/-! ## Character data -/

theorem follows_scanMark {mark : Text} (hmark : IsWord mark) (h : Reflowed white s t) :
    Follows white Eq (scanMark mark s) (scanMark mark t) := by
  induction mark generalizing s t with
  | nil => exact follows_found rfl h
  | cons m mark ih =>
    obtain ⟨hm, hmark⟩ := List.forall_mem_cons.mp hmark
    cases s with
    | nil => exact follows_cut _
    | cons c s =>
      by_cases hc : m = c
      · subst hc
        obtain ⟨t, rfl, ht⟩ := hw.solid h hm.1 hm.2
        rw [scanMark, if_pos rfl, scanMark, if_pos rfl]
        exact ih hmark ht
      · rw [scanMark, if_neg hc]
        exact follows_invalid _ _

omit hw in
theorem scanMark_eq_found {mark rest : Text} (h : scanMark mark s = .found () rest) : s = mark ++ rest := by
  induction mark generalizing s with
  | nil => exact (Scan.found.inj h).2
  | cons m mark ih =>
    cases s with
    | nil => cases h
    | cons c s =>
      rw [scanMark] at h
      split at h
      · rename_i hc
        rw [ih h, hc]
        rfl
      · cases h

omit hw in
theorem length_le_byteLength (s : Text) : s.length ≤ byteLength s := by
  have hfold : ∀ (u : Text) (n : Nat), n + u.length ≤ u.foldl (fun n c =>
      n + if c.toNat < 0x80 then 1 else if c.toNat < 0x800 then 2 else if c.toNat < 0x10000 then 3 else 4) n := by
    intro u
    induction u with
    | nil =>
      intro n
      exact Nat.le_refl n
    | cons c u ih =>
      intro n
      refine Nat.le_trans ?_ (ih _)
      rw [List.length_cons]
      dsimp only
      split
      · omega
      split
      · omega
      split <;> omega
  simpa [byteLength] using hfold s 0

theorem follows_scanCdataMark (h : Reflowed white s t) :
    Follows white Eq (scanCdataMark s) (scanCdataMark t) := by
  unfold scanCdataMark
  split
  · exact follows_cut _
  · intro v r hfound
    obtain ⟨⟨⟩, r', ht, -, hr⟩ := follows_scanMark hw (by decide) h v r hfound
    -- a text that begins with the mark is long enough
    have hlength : 6 ≤ byteLength t := by
      refine Nat.le_trans ?_ (length_le_byteLength t)
      rw [scanMark_eq_found ht, List.length_append]
      exact Nat.le_add_right 6 _
    refine ⟨(), r', ?_, rfl, hr⟩
    rw [if_neg (by omega), ht]

theorem startsWith_of_white {c : CodePoint} (hc : white c = true) (s : Text) :
    Text.startsWith (c :: s) "]]>" = false := by
  apply startsWith_eq_false (a := char ']')
  intro hhead
  exact ne_of_white hw hc rfl (Option.some.inj hhead)

omit hw in
theorem isWord_cdataEnd : IsWord "]]>" := by
  decide

theorem passes_scanCdata : Passes white scanCdata where
  lost := by
    intro c s v r hc hfound
    have hlead := startsWith_of_white hw hc s
    cases hlegal : isLegal c with
    | false => simp [scanCdata, hlegal] at hfound
    | true => simpa [scanCdata, hlegal, hlead] using hfound
  newline := by
    intro s
    rfl
  space := by
    intro s
    rfl

theorem follows_scanCdata (h : Reflowed white s t) : Follows white Eq (scanCdata s) (scanCdata t) := by
  apply (passes_scanCdata hw).follows (follows_cut _) _ h
  intro c s t h ih
  rw [scanCdata, scanCdata]
  split
  · exact follows_invalid _ _
  rcases hw.lead isWord_cdataEnd (h.cons c) with ⟨r, r', hs, ht, hr⟩ | ⟨hs, ht⟩
  · have hs' : s.drop 2 = r := by
      rw [← List.drop_succ_cons, hs]
      rfl
    have ht' : t.drop 2 = r' := by
      rw [← List.drop_succ_cons, ht]
      rfl
    rw [hs, ht, startsWith_append, startsWith_append, if_pos rfl, if_pos rfl, hs', ht']
    exact follows_found rfl hr
  · rw [hs, ht]
    exact ih

theorem passes_scanData : Passes white scanData where
  lost := by
    intro c s v r hc hfound
    have hlead := startsWith_of_white hw hc s
    have htag := ne_of_white hw (d := char '<') hc rfl
    have hreference := ne_of_white hw (d := char '&') hc rfl
    cases hlegal : isLegal c with
    | false => simp [scanData, hlegal, htag, hreference] at hfound
    | true => simpa [scanData, hlegal, hlead, htag, hreference] using hfound
  newline := by
    intro s
    rfl
  space := by
    intro s
    rfl

theorem follows_scanData (h : Reflowed white s t) : Follows white Eq (scanData s) (scanData t) := by
  apply (passes_scanData hw).follows (follows_found rfl .nil) _ h
  intro c s t h ih
  rw [scanData, scanData]
  split
  · exact follows_found rfl (h.cons c)
  split
  · exact follows_invalid _ _
  rcases hw.lead isWord_cdataEnd (h.cons c) with ⟨r, r', hs, ht, hr⟩ | ⟨hs, ht⟩
  · rw [hs, startsWith_append, if_pos rfl]
    exact follows_invalid _ _
  · rw [hs, ht]
    exact ih

/-! ## Pieces of content -/

/-- One piece of content is another with the values of its attributes reflowed. -/
inductive PieceFollows (white : CodePoint → Bool) : Piece → Piece → Prop
  | data : PieceFollows white .data .data
  | comment : PieceFollows white .comment .comment
  | instruction : PieceFollows white .instruction .instruction
  | reference (reference : Reference) : PieceFollows white (.reference reference) (.reference reference)
  | startTag {start start' : StartTag} :
      StartTagFollows white start start' → PieceFollows white (.startTag start) (.startTag start')
  | endTag (name place place' : Text) : PieceFollows white (.endTag name place) (.endTag name place')

omit hw in
theorem found_eq_ok {α : Type} {x : Scan α} {v : α} {r : Text} (h : found s x = .ok (v, r)) : x = .found v r := by
  cases x with
  | found => cases h; rfl
  | invalid => cases h
  | cut => cases h

omit hw in
/-- A scan that follows another gives a related piece. -/
theorem piece_of_follows {α β : Type} {R : α → β → Prop} {x : Scan α} {y : Scan β} (hxy : Follows white R x y)
    {f : α → Piece} {g : β → Piece} (hpiece : ∀ v v', R v v' → PieceFollows white (f v) (g v')) {piece : Piece}
    {after : Text} (h : (found s x).map (fun (v, rest) => (f v, rest)) = .ok (piece, after)) :
    ∃ piece' after', (found t y).map (fun (v, rest) => (g v, rest)) = .ok (piece', after') ∧
      PieceFollows white piece piece' ∧ Reflowed white after after' := by
  obtain ⟨⟨v, r⟩, hfound, heq⟩ := map_eq_ok h
  obtain ⟨v', r', rfl, hv, hr⟩ := hxy v r (found_eq_ok hfound)
  cases heq
  exact ⟨g v', r', rfl, hpiece v v' hv, hr⟩

theorem cdataSection_follows {inside inside' after : Text} {piece : Piece} (h : Reflowed white inside inside')
    (hpiece : cdataSection s inside = .ok (piece, after)) :
    ∃ piece' after', cdataSection t inside' = .ok (piece', after') ∧ PieceFollows white piece piece' ∧
      Reflowed white after after' := by
  obtain ⟨⟨_, body⟩, hmark, hpiece⟩ := bind_eq_ok hpiece
  obtain ⟨_, body', hmark', -, hbody⟩ := follows_scanCdataMark hw h _ _ (found_eq_ok hmark)
  dsimp only at hpiece
  split at hpiece
  · rename_i rest hfound
    obtain ⟨_, rest', hfound', -, hrest⟩ := follows_scanCdata hw hbody _ _ hfound
    cases hpiece
    refine ⟨.data, rest', ?_, .data, hrest⟩
    rw [cdataSection, hmark']
    simp only [found, Bind.bind, Except.bind, hfound']
    rfl
  · cases hpiece
  · cases hpiece

/-- A comment or a section of character data; no other declaration stands in content. -/
theorem markup_declaration_follows {more inside' after : Text} {piece : Piece}
    (h : Reflowed white (char '!' :: more) inside') (hpiece : markup s (char '!' :: more) = .ok (piece, after)) :
    ∃ piece' after', markup t inside' = .ok (piece', after') ∧ PieceFollows white piece piece' ∧
      Reflowed white after after' := by
  obtain ⟨more', rfl, hmore⟩ := hw.solid h rfl (by decide)
  cases more with
  | nil => cases hpiece
  | cons d body =>
    by_cases hcomment : d = char '-'
    · subst hcomment
      obtain ⟨body', rfl, hbody⟩ := hw.solid hmore rfl (by decide)
      exact piece_of_follows (follows_scanComment hw hbody) (fun _ _ _ => .comment) hpiece
    by_cases hcdata : d = char '['
    · subst hcdata
      obtain ⟨body', rfl, hbody⟩ := hw.solid hmore rfl (by decide)
      exact cdataSection_follows hw hbody hpiece
    · rw [markup.eq_def] at hpiece
      simp only [if_true, if_neg hcomment, if_neg hcdata] at hpiece
      cases hpiece

theorem markup_instruction_follows {more inside' after : Text} {piece : Piece}
    (h : Reflowed white (char '?' :: more) inside') (hpiece : markup s (char '?' :: more) = .ok (piece, after)) :
    ∃ piece' after', markup t inside' = .ok (piece', after') ∧ PieceFollows white piece piece' ∧
      Reflowed white after after' := by
  obtain ⟨more', rfl, hmore⟩ := hw.solid h rfl (by decide)
  obtain ⟨⟨kind, rest⟩, hfound, hpiece⟩ := bind_eq_ok hpiece
  obtain ⟨_, rest', hfound', rfl, hrest⟩ := follows_scanInstruction hw hmore _ _ (found_eq_ok hfound)
  cases kind with
  | ordinary =>
    cases hpiece
    refine ⟨.instruction, rest', ?_, .instruction, hrest⟩
    rw [markup.eq_def]
    simp only [hfound']
    rfl
  | declaration => cases hpiece

omit hw in
theorem markup_start {c : CodePoint} (hdeclaration : c ≠ char '!') (hinstruction : c ≠ char '?') (hend : c ≠ char '/')
    (more : Text) :
    markup s (c :: more) = (found s (scanStartTag (c :: more))).map fun x => (.startTag x.1, x.2) :=
  (if_neg hdeclaration).trans ((if_neg hinstruction).trans (if_neg hend))

theorem markup_follows {inside inside' after : Text} {piece : Piece} (h : Reflowed white inside inside')
    (hpiece : markup s inside = .ok (piece, after)) :
    ∃ piece' after', markup t inside' = .ok (piece', after') ∧ PieceFollows white piece piece' ∧
      Reflowed white after after' := by
  cases inside with
  | nil => cases hpiece
  | cons c more =>
    by_cases hdeclaration : c = char '!'
    · subst hdeclaration
      exact markup_declaration_follows hw h hpiece
    by_cases hinstruction : c = char '?'
    · subst hinstruction
      exact markup_instruction_follows hw h hpiece
    by_cases hend : c = char '/'
    · subst hend
      obtain ⟨more', rfl, hmore⟩ := hw.solid h rfl (by decide)
      refine piece_of_follows (f := fun x => .endTag x.1 x.2) (g := fun x => .endTag x.1 x.2)
        (follows_scanEndTag hw hmore) ?_ hpiece
      rintro ⟨name, place⟩ ⟨_, place'⟩ rfl
      exact .endTag name place place'
    · rw [markup_start hdeclaration hinstruction hend] at hpiece
      -- what has come to stand at the start is none of the three marks either
      obtain ⟨d, more', rfl, hdeclaration'⟩ := head_mark hw h rfl (by decide) hdeclaration
      have hother : ∀ {e : CodePoint}, e.isBlank = false → e ≠ char '<' → c ≠ e → d ≠ e := by
        intro e he htag hc
        obtain ⟨_, _, heq, hne⟩ := head_mark hw h he htag hc
        rw [List.cons.injEq] at heq
        rwa [heq.1]
      rw [markup_start hdeclaration' (hother rfl (by decide) hinstruction) (hother rfl (by decide) hend)]
      exact piece_of_follows (follows_scanStartTag hw h) (fun _ _ => .startTag) hpiece

/-- Where both texts begin with a tag, the tags are related. -/
theorem nextPiece_tag {rest rest' after : Text} {piece : Piece} (h : Reflowed white rest rest')
    (hpiece : nextPiece (char '<') rest = .ok (piece, after)) :
    ∃ piece' after', nextPiece (char '<') rest' = .ok (piece', after') ∧ PieceFollows white piece piece' ∧
      Reflowed white after after' :=
  markup_follows hw h hpiece

omit hw in
theorem nextPiece_data {c : CodePoint} (htag : c ≠ char '<') (hreference : c ≠ char '&') (rest : Text) :
    nextPiece c rest = (found (c :: rest) (scanData (c :: rest))).map fun (_, rest) => (.data, rest) := by
  rw [nextPiece, if_neg htag, if_neg hreference]

/-- Where a text does not begin with a tag, neither does the reflowed text, and the pieces are related. -/
theorem nextPiece_follows {c : CodePoint} {rest after : Text} {piece : Piece} (h : Reflowed white (c :: rest) t)
    (htag : c ≠ char '<') (hpiece : nextPiece c rest = .ok (piece, after)) :
    ∃ c' rest' piece' after', t = c' :: rest' ∧ nextPiece c' rest' = .ok (piece', after') ∧
      PieceFollows white piece piece' ∧ Reflowed white after after' := by
  by_cases hreference : c = char '&'
  · subst hreference
    obtain ⟨rest', rfl, hrest⟩ := hw.solid h rfl (by decide)
    obtain ⟨piece', after', hpiece', hfollows⟩ :=
      piece_of_follows (t := char '&' :: rest') (follows_scanReference hw hrest)
        (by rintro v _ rfl; exact .reference v) hpiece
    exact ⟨_, rest', piece', after', rfl, hpiece', hfollows⟩
  · obtain ⟨c', rest', rfl, hreference'⟩ := head_mark hw h rfl (by decide) hreference
    have htag' : c' ≠ char '<' := by
      rintro rfl
      obtain ⟨_, heq, -⟩ := h.head_right (by decide)
      rw [List.cons.injEq] at heq
      exact htag heq.1
    rw [nextPiece_data htag hreference] at hpiece
    obtain ⟨piece', after', hpiece', hfollows⟩ :=
      piece_of_follows (t := c' :: rest') (follows_scanData hw h) (fun _ _ _ => .data) hpiece
    refine ⟨c', rest', piece', after', rfl, ?_, hfollows⟩
    rw [nextPiece_data htag' hreference', hpiece']

end Tidy.Xml
