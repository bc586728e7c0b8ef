/-
# Tidy.Proofs.Xml.Scanning -- scanners on reflowed text

A scanner that finds a token in a text finds the token in the reflowed text as well, and what follows the token there
is what follows it here, reflowed (`Scan.Follows`). White space is of no account to most tokens: it stands before or
behind them. Where it stands inside, in comments, values and character data, it is one legal character after another
in both texts.

Of the code points that may be lost, `white`, all are blank, and all white space of XML is among them (`White`).
-/

import Tidy.Proofs.Markup.Reflow
import Tidy.Proofs.Xml.Remainder

namespace Tidy.Xml

open CodePoint (char)
open Markup (Reflowed)

/-- The code points that a layout may lose. -/
structure White (white : CodePoint → Bool) : Prop where
  blank : ∀ c, white c = true → c.isBlank = true
  space : ∀ c, isSpace c = true → white c = true

/-! ## White space and the characters of names -/

theorem isBlank_of_isSpace {c : CodePoint} (h : isSpace c = true) : c.isBlank = true := by
  simp only [isSpace, Bool.or_eq_true, decide_eq_true_eq] at h
  rcases h with ((rfl | rfl) | rfl) | rfl <;> rfl

theorem white_isBlank : White CodePoint.isBlank := ⟨fun _ h => h, fun _ => isBlank_of_isSpace⟩

theorem white_isSpace : White isSpace := ⟨fun _ => isBlank_of_isSpace, fun _ h => h⟩

/-- The numbers of all white space. -/
def blankNumbers : List Nat :=
  CodePoint.blankRanges.flatMap fun range => List.range' range.1 (range.2 + 1 - range.1)

theorem toNat_mem_blankNumbers {c : CodePoint} (h : c.isBlank = true) : c.toNat ∈ blankNumbers := by
  simp only [CodePoint.isBlank, CodePoint.inTable, List.any_eq_true, CodePoint.within, Bool.and_eq_true,
    decide_eq_true_eq] at h
  obtain ⟨range, hmem, hlow, hhigh⟩ := h
  simp only [blankNumbers, List.mem_flatMap, List.mem_range'_1]
  exact ⟨range, hmem, hlow, by omega⟩

theorem ne_of_isBlank {c d : CodePoint} (hc : c.isBlank = true) (hd : d.isBlank = false) : c ≠ d := by
  rintro rfl
  rw [hc] at hd
  cases hd

/-- No letter, digit or other character of a name is white space. -/
theorem nameRanges_blankNumbers : ∀ n ∈ blankNumbers,
    (nameStartRanges.any fun range => decide (range.1 ≤ n) && decide (n ≤ range.2)) = false ∧
      (nameExtraRanges.any fun range => decide (range.1 ≤ n) && decide (n ≤ range.2)) = false ∧
      (decide (0x30 ≤ n) && decide (n ≤ 0x39)) = false ∧ (decide (0x41 ≤ n) && decide (n ≤ 0x5A)) = false ∧
      (decide (0x61 ≤ n) && decide (n ≤ 0x7A)) = false := by
  decide +kernel

theorem isNameChar_of_isBlank {c : CodePoint} (h : c.isBlank = true) : isNameChar c = false := by
  obtain ⟨hstart, hextra, hdigit, hupper, hlower⟩ := nameRanges_blankNumbers _ (toNat_mem_blankNumbers h)
  have hunderscore := ne_of_isBlank (d := char '_') h rfl
  have hhyphen := ne_of_isBlank (d := char '-') h rfl
  have hstop := ne_of_isBlank (d := char '.') h rfl
  simp only [isNameChar, isNameStart, CodePoint.isAsciiLetter, CodePoint.isAsciiDigit, CodePoint.inTable,
    CodePoint.within, hstart, hextra, hdigit, hupper, hlower, hunderscore, hhyphen, hstop, decide_false, Bool.or_false,
    Bool.and_false]

theorem isBlank_nameChar {c : CodePoint} (h : isNameChar c = true) : c.isBlank = false := by
  cases hblank : c.isBlank with
  | false => rfl
  | true =>
    rw [isNameChar_of_isBlank hblank] at h
    cases h

theorem isNameChar_of_isNameStart {c : CodePoint} (h : isNameStart c = true) : isNameChar c = true := by
  rw [isNameChar, h]
  rfl

/-- All code points of the kind are solid, and none of them begins a tag. -/
def Inert (kind : CodePoint → Bool) : Prop :=
  ∀ c, kind c = true → c.isBlank = false ∧ c ≠ char '<'

theorem inert_nameChar : Inert isNameChar := by
  intro c hc
  refine ⟨isBlank_nameChar hc, ?_⟩
  rintro rfl
  exact absurd hc (by decide)

theorem Inert.imp {kind kind' : CodePoint → Bool} (h : Inert kind) (himp : ∀ c, kind' c = true → kind c = true) :
    Inert kind' :=
  fun c hc => h c (himp c hc)

theorem inert_nameStart : Inert isNameStart := inert_nameChar.imp fun _ => isNameChar_of_isNameStart

theorem inert_digit : Inert CodePoint.isAsciiDigit := by
  apply inert_nameChar.imp
  intro c hc
  simp [isNameChar, hc]

theorem inert_letter : Inert CodePoint.isAsciiLetter := by
  apply inert_nameStart.imp
  intro c hc
  simp [isNameStart, hc]

theorem inert_hexDigit : Inert fun c => (c.hexValue?).isSome := by
  have hletters : Inert fun c => c.isAsciiDigit || c.isAsciiLetter := by
    intro c hc
    rw [Bool.or_eq_true] at hc
    exact hc.elim (inert_digit c) (inert_letter c)
  apply hletters.imp
  intro c hc
  unfold CodePoint.hexValue? at hc
  by_cases hdigit : c.within 0x30 0x39 = true
  · simp [CodePoint.isAsciiDigit, hdigit]
  by_cases hupper : c.within 0x41 0x46 = true
  · simp only [CodePoint.within, Bool.and_eq_true, decide_eq_true_eq] at hupper
    simp only [CodePoint.isAsciiLetter, CodePoint.within, Bool.or_eq_true, Bool.and_eq_true, decide_eq_true_eq]
    omega
  by_cases hlower : c.within 0x61 0x66 = true
  · simp only [CodePoint.within, Bool.and_eq_true, decide_eq_true_eq] at hlower
    simp only [CodePoint.isAsciiLetter, CodePoint.within, Bool.or_eq_true, Bool.and_eq_true, decide_eq_true_eq]
    omega
  · simp [hdigit, hupper, hlower] at hc

theorem inert_endNameChar : Inert isEndNameChar := by
  intro c hc
  simp only [isEndNameChar, Bool.or_eq_true, decide_eq_true_eq] at hc
  rcases hc with hc | rfl
  · exact inert_nameChar c hc
  · decide

theorem inert_keywordChar : Inert isKeywordChar := by
  intro c hc
  simp only [isKeywordChar, Bool.or_eq_true, decide_eq_true_eq] at hc
  rcases hc with hc | rfl
  · exact inert_letter c hc
  · decide

theorem isSpace_newline : isSpace CodePoint.newline = true := rfl

theorem skipSpace_space {c : CodePoint} (hc : isSpace c = true) (s : Text) : skipSpace (c :: s) = skipSpace s :=
  List.dropWhile_cons_of_pos hc

theorem skipSpace_solid {c : CodePoint} (hc : isSpace c = false) (s : Text) : skipSpace (c :: s) = c :: s :=
  List.dropWhile_cons_of_neg (by simp [hc])

theorem isSpace_of_solid {c : CodePoint} (hc : c.isBlank = false) : isSpace c = false := by
  cases hspace : isSpace c with
  | false => rfl
  | true =>
    rw [isBlank_of_isSpace hspace] at hc
    cases hc

/-- Characters of a kind, up to one that is not of the kind. -/
theorem span_append {kind : CodePoint → Bool} {first : Text} {q : CodePoint} (hfirst : ∀ c ∈ first, kind c = true)
    (hq : kind q = false) (rest : Text) :
    (first ++ q :: rest).takeWhile kind = first ∧ (first ++ q :: rest).dropWhile kind = q :: rest := by
  rw [List.takeWhile_append_of_pos hfirst, List.dropWhile_append_of_pos hfirst,
    List.takeWhile_cons_of_neg (by simp [hq]), List.dropWhile_cons_of_neg (by simp [hq]), List.append_nil]
  exact ⟨rfl, rfl⟩

/-- The text starts with white space that XML does not know. -/
def Stuck (s : Text) : Prop :=
  ∃ c rest, s = c :: rest ∧ c.isBlank = true ∧ isSpace c = false

section Reflow

variable {white : CodePoint → Bool} (hw : White white) {s t : Text}
include hw

theorem White.eq_false {c : CodePoint} (hc : c.isBlank = false) : white c = false := by
  cases hwhite : white c with
  | false => rfl
  | true =>
    rw [hw.blank c hwhite] at hc
    cases hc

/-! ## What stands at the start -/

/-- A solid code point stays where it is, unless a tag begins with it. -/
theorem White.solid {c : CodePoint} (h : Reflowed white (c :: s) t) (hc : c.isBlank = false)
    (htag : c ≠ char '<') : ∃ t', t = c :: t' ∧ Reflowed white s t' :=
  h.head_left (hw.eq_false hc) (fun hnewline => absurd hc (by rw [hnewline]; decide)) htag

/-- Both texts start with a given solid code point, or none of them does. -/
theorem White.head?_iff {d : CodePoint} (h : Reflowed white s t) (hd : d.isBlank = false) (htag : d ≠ char '<') :
    t.head? = some d ↔ s.head? = some d := by
  have hnewline : d ≠ CodePoint.newline := by
    rintro rfl
    cases hd
  constructor
  · intro ht
    cases t with
    | nil => cases ht
    | cons c t =>
      obtain rfl : c = d := by injection ht
      obtain ⟨s', rfl, -⟩ := h.head_right hnewline
      rfl
  · intro hs
    cases s with
    | nil => cases hs
    | cons c s =>
      obtain rfl : c = d := by injection hs
      obtain ⟨t', rfl, -⟩ := hw.solid h hd htag
      rfl

/-- Code points of an inert kind at the start are the same in both texts. -/
theorem White.span {kind : CodePoint → Bool} (hkind : Inert kind) (h : Reflowed white s t) :
    t.takeWhile kind = s.takeWhile kind ∧ Reflowed white (s.dropWhile kind) (t.dropWhile kind) := by
  have hblank : ∀ c : CodePoint, c.isBlank = true → kind c = false := by
    intro c hc
    cases hk : kind c with
    | false => rfl
    | true =>
      rw [(hkind c hk).1] at hc
      cases hc
  have hnewline : kind CodePoint.newline = false := hblank _ rfl
  have htag : kind (char '<') = false := by
    cases hk : kind (char '<') with
    | false => rfl
    | true => exact absurd rfl (hkind _ hk).2
  -- white space ends the span on both sides, and so does a tag
  induction h with
  | nil => exact ⟨rfl, .nil⟩
  | @cons c s t h ih =>
    cases hc : kind c with
    | true => simpa [List.takeWhile_cons, List.dropWhile_cons, hc] using ih
    | false => simpa [List.takeWhile_cons, List.dropWhile_cons, hc] using h.cons c
  | @drop c s t hlost h ih =>
    have hc : kind c = false := hblank c (hw.blank c hlost)
    simpa [List.takeWhile_cons, List.dropWhile_cons, hc, hnewline] using Reflowed.drop hlost h
  | trail hlost h ih =>
    simpa [List.takeWhile_cons, List.dropWhile_cons, hnewline] using Reflowed.trail hlost h
  | @pad s t h ih =>
    have hs : s.takeWhile kind = [] ∧ s.dropWhile kind = s := by
      have hnone := ih.1
      rw [List.takeWhile_cons, hnewline] at hnone
      refine ⟨hnone.symm, ?_⟩
      have hwhole := @List.takeWhile_append_dropWhile _ kind s
      rwa [← hnone] at hwhole
    rw [hs.1, hs.2]
    simpa [List.takeWhile_cons, List.dropWhile_cons, hnewline] using Reflowed.pad h
  | brk h ih =>
    simpa [List.takeWhile_cons, List.dropWhile_cons, hnewline, htag] using Reflowed.brk h

/-- White space at the start is skipped on both sides, unless the first text is stuck. -/
theorem White.skipSpace (h : Reflowed white s t) :
    Stuck (skipSpace s) ∨ Reflowed white (skipSpace s) (skipSpace t) := by
  induction h with
  | nil => exact Or.inr .nil
  | @cons c s t h ih =>
    cases hc : isSpace c with
    | true => rwa [skipSpace_space hc, skipSpace_space hc]
    | false =>
      rw [skipSpace_solid hc, skipSpace_solid hc]
      exact Or.inr (h.cons c)
  | @drop c s t hlost h ih =>
    cases hc : isSpace c with
    | true => rwa [skipSpace_space hc]
    | false =>
      rw [skipSpace_solid hc]
      exact Or.inl ⟨c, s, rfl, hw.blank c hlost, hc⟩
  | @trail c s t hlost h ih =>
    rw [skipSpace_space isSpace_newline] at ih ⊢
    cases hc : isSpace c with
    | true => rwa [skipSpace_space hc]
    | false =>
      rw [skipSpace_solid hc]
      exact Or.inl ⟨c, s, rfl, hw.blank c hlost, hc⟩
  | pad h ih => exact ih
  | brk h ih => exact ih

/-- A solid code point behind white space. -/
theorem White.skipSpace_cons {d : CodePoint} {more : Text} (h : Reflowed white s t)
    (hs : Xml.skipSpace s = d :: more) (hd : d.isBlank = false) (htag : d ≠ char '<') :
    ∃ more', Xml.skipSpace t = d :: more' ∧ Reflowed white more more' := by
  rcases hw.skipSpace h with ⟨c, rest, hstuck, hblank, -⟩ | hskip
  · rw [hs, List.cons.injEq] at hstuck
    rw [hstuck.1, hblank] at hd
    cases hd
  · rw [hs] at hskip
    exact hw.solid hskip hd htag

/-- White space of XML that ends the text does so in the reflowed text. -/
theorem White.skipSpace_nil (h : Reflowed white s t) (hs : Xml.skipSpace s = []) : Xml.skipSpace t = [] := by
  rcases hw.skipSpace h with ⟨c, rest, hstuck, -⟩ | hskip
  · rw [hs] at hstuck
    cases hstuck
  · rw [hs] at hskip
    exact hskip.nil_left

end Reflow

/-! ## Scanners -/

namespace Scan

variable {α β γ δ : Type} {white : CodePoint → Bool} {R : α → β → Prop} {Q : γ → δ → Prop}

/-- What the first scan finds the second one finds as well: a related token, with the reflowed text behind it. -/
def Follows (white : CodePoint → Bool) (R : α → β → Prop) (x : Scan α) (y : Scan β) : Prop :=
  ∀ v r, x = .found v r → ∃ v' r', y = .found v' r' ∧ R v v' ∧ Reflowed white r r'

theorem follows_invalid (place : Text) (y : Scan β) : Follows white R (.invalid place) y := by
  intro v r h
  cases h

theorem follows_cut (y : Scan β) : Follows white R .cut y := by
  intro v r h
  cases h

theorem follows_found {v : α} {v' : β} {r r' : Text} (hv : R v v') (hr : Reflowed white r r') :
    Follows white R (.found v r) (.found v' r') := by
  intro u q h
  cases h
  exact ⟨v', r', rfl, hv, hr⟩

/-- Goes on on both sides, where the text that the second scan leaves is known to be an end of another one. -/
theorem Follows.bind_within {x : Scan α} {y : Scan β} (h : Follows white R x y) {u : Text} (hy : Within u y)
    {f : α → Text → Scan γ} {g : β → Text → Scan δ}
    (hnext : ∀ v v' r r', R v v' → Reflowed white r r' → r' <:+ u → Follows white Q (f v r) (g v' r')) :
    Follows white Q (x.bind f) (y.bind g) := by
  intro a q hfound
  obtain ⟨v, r, hx, hq⟩ := bind_eq_found.mp hfound
  obtain ⟨v', r', rfl, hv, hr⟩ := h v r hx
  exact hnext v v' r r' hv hr (hy v' r' rfl) a q hq

theorem Follows.bind {x : Scan α} {y : Scan β} (h : Follows white R x y) {f : α → Text → Scan γ}
    {g : β → Text → Scan δ}
    (hnext : ∀ v v' r r', R v v' → Reflowed white r r' → Follows white Q (f v r) (g v' r')) :
    Follows white Q (x.bind f) (y.bind g) := by
  intro u q hfound
  obtain ⟨v, r, hx, hq⟩ := bind_eq_found.mp hfound
  obtain ⟨v', r', rfl, hv, hr⟩ := h v r hx
  exact hnext v v' r r' hv hr u q hq

theorem Follows.map {x : Scan α} {y : Scan β} (h : Follows white R x y) {f : α → γ} {g : β → δ}
    (hvalue : ∀ v v', R v v' → Q (f v) (g v')) : Follows white Q (x.map f) (y.map g) :=
  h.bind fun v v' _ _ hv hr => follows_found (hvalue v v' hv) hr

end Scan

section Tokens

open Scan

variable {white : CodePoint → Bool} (hw : White white) {s t : Text}
include hw

theorem follows_scanName (h : Reflowed white s t) : Follows white Eq (scanName s) (scanName t) := by
  cases s with
  | nil => exact follows_cut _
  | cons c s =>
    rw [scanName]
    split
    · rename_i hc
      obtain ⟨hblank, htag⟩ := inert_nameStart c hc
      obtain ⟨t', rfl, ht'⟩ := hw.solid h hblank htag
      obtain ⟨hname, hrest⟩ := hw.span inert_nameChar ht'
      rw [scanName, if_pos hc, nameTail, nameTail, hname]
      exact follows_found rfl hrest
    · exact follows_invalid _ _

/-- What follows a name is looked at for one more mark: whether there is one is the same on both sides. -/
theorem head_mark {c : CodePoint} {more : Text} {d : CodePoint} (h : Reflowed white (c :: more) t)
    (hd : d.isBlank = false) (htag : d ≠ char '<') (hc : c ≠ d) : ∃ c' more', t = c' :: more' ∧ c' ≠ d := by
  cases t with
  | nil => cases h.nil_right
  | cons c' more' =>
    refine ⟨c', more', rfl, ?_⟩
    rintro rfl
    have hhead := (hw.head?_iff h hd htag).mp rfl
    injection hhead with hhead
    exact hc hhead

theorem follows_scanQualifiedName (h : Reflowed white s t) :
    Follows white Eq (scanQualifiedName s) (scanQualifiedName t) := by
  apply (follows_scanName hw h).bind
  rintro first _ rest rest' rfl hrest
  cases rest with
  | nil =>
    rw [hrest.nil_left]
    exact follows_found rfl .nil
  | cons c more =>
    dsimp only
    split
    · rename_i hc
      subst hc
      obtain ⟨more', rfl, hmore⟩ := hw.solid hrest rfl (by decide)
      dsimp only
      rw [if_pos rfl]
      apply (follows_scanName hw hmore).bind
      rintro second _ rest rest' rfl hrest
      cases rest with
      | nil =>
        rw [hrest.nil_left]
        exact follows_found rfl .nil
      | cons d more =>
        dsimp only
        -- a second colon is refused, and none has come to stand behind the name
        split
        · exact follows_invalid _ _
        · rename_i hd
          obtain ⟨d', more', rfl, hd'⟩ := head_mark hw (d := char ':') hrest rfl (by decide) hd
          dsimp only
          rw [if_neg hd']
          exact follows_found rfl hrest
    · rename_i hc
      obtain ⟨c', more', rfl, hc'⟩ := head_mark hw (d := char ':') hrest rfl (by decide) hc
      dsimp only
      rw [if_neg hc']
      exact follows_found rfl hrest

/-! ## References -/

theorem follows_scanNumber {kind : CodePoint → Bool} (hkind : Inert kind) (value : Text → Nat)
    (h : Reflowed white s t) : Follows white Eq (scanNumber kind value s) (scanNumber kind value t) := by
  cases s with
  | nil => exact follows_cut _
  | cons c s =>
    rw [scanNumber]
    split
    · rename_i hc
      obtain ⟨t, rfl, ht⟩ := hw.solid h (hkind c hc).1 (hkind c hc).2
      obtain ⟨hdigits, hrest⟩ := hw.span hkind ht
      rw [scanNumber, if_pos hc, hdigits]
      cases hs : s.dropWhile kind with
      | nil => exact follows_cut _
      | cons d more =>
        rw [hs] at hrest
        dsimp only
        split
        · rename_i hd
          subst hd
          obtain ⟨more', hmore', hmore⟩ := hw.solid hrest rfl (by decide)
          rw [hmore']
          exact follows_found rfl hmore
        · exact follows_invalid _ _
    · exact follows_invalid _ _

omit hw in
theorem scanReference_hex (s : Text) :
    scanReference (char '#' :: char 'x' :: s) = scanNumber (fun c => (c.hexValue?).isSome) Text.hexadecimalValue s :=
  rfl

omit hw in
theorem scanReference_decimal {d : CodePoint} (hd : d ≠ char 'x') (s : Text) :
    scanReference (char '#' :: d :: s) = scanNumber CodePoint.isAsciiDigit Text.decimalValue (d :: s) := by
  rw [scanReference.eq_def]
  simp [hd]

omit hw in
theorem scanReference_name {c : CodePoint} (hc : c ≠ char '#') (s : Text) :
    scanReference (c :: s) = (scanName (c :: s)).bind fun name rest =>
      match rest with
      | [] => .cut
      | d :: more => if d = char ';' then .found (.entity name) more else .invalid (d :: more) := by
  rw [scanReference.eq_def]
  exact if_neg hc

theorem follows_scanReference (h : Reflowed white s t) : Follows white Eq (scanReference s) (scanReference t) := by
  cases s with
  | nil => exact follows_cut _
  | cons c s =>
    by_cases hc : c = char '#'
    · subst hc
      obtain ⟨t, rfl, hinside⟩ := hw.solid h rfl (by decide)
      cases s with
      | nil => exact follows_cut _
      | cons d s =>
        by_cases hd : d = char 'x'
        · subst hd
          obtain ⟨t, rfl, hdigits⟩ := hw.solid hinside rfl (by decide)
          rw [scanReference_hex, scanReference_hex]
          exact follows_scanNumber hw inert_hexDigit _ hdigits
        · obtain ⟨d', t, rfl, hd'⟩ := head_mark hw (d := char 'x') hinside rfl (by decide) hd
          rw [scanReference_decimal hd, scanReference_decimal hd']
          exact follows_scanNumber hw inert_digit _ hinside
    · obtain ⟨c', t, rfl, hc'⟩ := head_mark hw (d := char '#') h rfl (by decide) hc
      rw [scanReference_name hc, scanReference_name hc']
      apply (follows_scanName hw h).bind
      rintro name _ rest rest' rfl hrest
      cases rest with
      | nil => exact follows_cut _
      | cons d more =>
        dsimp only
        split
        · rename_i hd
          subst hd
          obtain ⟨more', rfl, hmore⟩ := hw.solid hrest rfl (by decide)
          exact follows_found rfl hmore
        · exact follows_invalid _ _

end Tokens

/-! ## Loops over characters -/

/-- A scanner that reads one character after another passes over white space, where it may stand at all. -/
structure Passes (white : CodePoint → Bool) {α : Type} (scan : Text → Scan α) : Prop where
  lost : ∀ c s v r, white c = true → scan (c :: s) = .found v r → scan s = .found v r
  newline : ∀ s, scan (CodePoint.newline :: s) = scan s
  space : ∀ s, scan (char ' ' :: s) = scan s

/-- For such a scanner it is enough to look at the code points that both texts have. -/
theorem Passes.follows {white : CodePoint → Bool} {α : Type} {scan : Text → Scan α} (hscan : Passes white scan)
    {R : α → α → Prop} (hnil : Scan.Follows white R (scan []) (scan []))
    (hcons : ∀ c s t, Reflowed white s t → Scan.Follows white R (scan s) (scan t) →
      Scan.Follows white R (scan (c :: s)) (scan (c :: t)))
    {s t : Text} (h : Reflowed white s t) : Scan.Follows white R (scan s) (scan t) := by
  induction h with
  | nil => exact hnil
  | cons c h ih => exact hcons c _ _ h ih
  | drop hlost _ ih =>
    intro v r hfound
    exact ih v r (hscan.lost _ _ v r hlost hfound)
  | trail hlost _ ih =>
    intro v r hfound
    rw [hscan.newline] at hfound
    apply ih v r
    rw [hscan.newline]
    exact hscan.lost _ _ v r hlost hfound
  | pad _ ih =>
    rw [hscan.newline] at ih ⊢
    rwa [hscan.space]
  | brk _ ih =>
    rw [hscan.newline]
    exact ih

theorem startsWith_eq_false {u : Text} {a : CodePoint} (h : u.head? ≠ some a) (lead : Text) :
    Text.startsWith u (a :: lead) = false := by
  cases u with
  | nil => rfl
  | cons c u =>
    have hac : ¬ a = c := by
      rintro rfl
      exact h rfl
    simp [Text.startsWith, Text.after?, hac]

/-- A word of solid characters, none of which begins a tag. -/
def IsWord (word : Text) : Prop :=
  ∀ c ∈ word, c.isBlank = false ∧ c ≠ char '<'

instance (word : Text) : Decidable (IsWord word) :=
  inferInstanceAs (Decidable (∀ c ∈ word, c.isBlank = false ∧ c ≠ char '<'))

/-- A text begins with a word, or none of the two does. -/
theorem White.lead {white : CodePoint → Bool} (hw : White white) {lead s t : Text}
    (hlead : IsWord lead) (h : Reflowed white s t) :
    (∃ r r', s = lead ++ r ∧ t = lead ++ r' ∧ Reflowed white r r') ∨
      (Text.startsWith s lead = false ∧ Text.startsWith t lead = false) := by
  induction lead generalizing s t with
  | nil => exact Or.inl ⟨s, t, rfl, rfl, h⟩
  | cons a lead ih =>
    obtain ⟨ha, hmore⟩ := List.forall_mem_cons.mp hlead
    by_cases hs : s.head? = some a
    · cases s with
      | nil => cases hs
      | cons c s =>
        obtain rfl : c = a := by injection hs
        obtain ⟨t, rfl, ht⟩ := hw.solid h ha.1 ha.2
        rcases ih hmore ht with ⟨r, r', rfl, rfl, hr⟩ | ⟨hs', ht'⟩
        · exact Or.inl ⟨r, r', rfl, rfl, hr⟩
        · right
          simp only [Text.startsWith, Text.after?, if_true] at hs' ht' ⊢
          exact ⟨hs', ht'⟩
    · right
      exact ⟨startsWith_eq_false hs lead, startsWith_eq_false (fun ht => hs ((hw.head?_iff h ha.1 ha.2).mp ht)) lead⟩

theorem startsWith_append (lead r : Text) : Text.startsWith (lead ++ r) lead = true := by
  induction lead with
  | nil => rfl
  | cons a lead ih => simpa [Text.startsWith, Text.after?] using ih

/-- A word at the start stays there. -/
theorem White.word {white : CodePoint → Bool} (hw : White white) {word s t : Text} (hword : IsWord word)
    (h : Reflowed white (word ++ s) t) : ∃ t', t = word ++ t' ∧ Reflowed white s t' := by
  rcases hw.lead hword h with ⟨r, r', hs, rfl, hr⟩ | ⟨hs, -⟩
  · obtain rfl := List.append_cancel_left hs
    exact ⟨r', rfl, hr⟩
  · rw [startsWith_append] at hs
    cases hs

section Bodies

open Scan

variable {white : CodePoint → Bool} (hw : White white) {s t : Text}
include hw

theorem ne_of_white {c d : CodePoint} (hc : white c = true) (hd : d.isBlank = false) : c ≠ d :=
  ne_of_isBlank (hw.blank c hc) hd

/-! ### Comments and processing instructions -/

omit hw in
theorem scanCommentBody_plain {c : CodePoint} (hlegal : isLegal c = true) (hc : c ≠ char '-') (s : Text) :
    scanCommentBody (c :: s) = scanCommentBody s := by
  rw [scanCommentBody.eq_def]
  simp [hlegal, hc]

omit hw in
theorem scanCommentBody_hyphen {d : CodePoint} (hd : d ≠ char '-') (s : Text) :
    scanCommentBody (char '-' :: d :: s) = scanCommentBody (d :: s) := by
  rw [scanCommentBody.eq_def]
  simp only [if_neg hd]
  rfl

theorem passes_scanCommentBody : Passes white scanCommentBody where
  lost := by
    intro c s v r hc hfound
    have hhyphen := ne_of_white hw (d := char '-') hc rfl
    cases hlegal : isLegal c with
    | true => rwa [scanCommentBody_plain hlegal hhyphen] at hfound
    | false =>
      rw [scanCommentBody.eq_def] at hfound
      simp [hlegal] at hfound
  newline := scanCommentBody_plain rfl (by decide)
  space := scanCommentBody_plain rfl (by decide)

theorem follows_scanCommentBody (h : Reflowed white s t) :
    Follows white Eq (scanCommentBody s) (scanCommentBody t) := by
  apply (passes_scanCommentBody hw).follows (follows_cut _) _ h
  intro c s t h ih
  cases hlegal : isLegal c with
  | false =>
    rw [scanCommentBody.eq_def]
    simp only [hlegal]
    exact follows_invalid _ _
  | true =>
    by_cases hc : c = char '-'
    · subst hc
      cases s with
      | nil => exact follows_cut _
      | cons d s =>
        by_cases hd : d = char '-'
        · subst hd
          obtain ⟨t, rfl, ht⟩ := hw.solid h rfl (by decide)
          cases s with
          | nil => exact follows_cut _
          | cons e s =>
            -- two hyphens may only end the comment
            by_cases he : e = char '>'
            · subst he
              obtain ⟨t, rfl, hafter⟩ := hw.solid ht rfl (by decide)
              exact follows_found rfl hafter
            · have hinvalid : scanCommentBody (char '-' :: char '-' :: e :: s) = .invalid (e :: s) := by
                rw [scanCommentBody.eq_def]
                simp [he, hlegal]
              rw [hinvalid]
              exact follows_invalid _ _
        · -- one hyphen alone: no other one has come to stand behind it
          obtain ⟨d', t, rfl, hd'⟩ := head_mark hw (d := char '-') h rfl (by decide) hd
          rwa [scanCommentBody_hyphen hd, scanCommentBody_hyphen hd']
    · rwa [scanCommentBody_plain hlegal hc, scanCommentBody_plain hlegal hc]

theorem follows_scanComment (h : Reflowed white s t) : Follows white Eq (scanComment s) (scanComment t) := by
  cases s with
  | nil => exact follows_cut _
  | cons c s =>
    rw [scanComment]
    split
    · rename_i hc
      subst hc
      obtain ⟨t, rfl, ht⟩ := hw.solid h rfl (by decide)
      rw [scanComment, if_pos rfl]
      exact follows_scanCommentBody hw ht
    · exact follows_invalid _ _

omit hw in
theorem scanInstructionBody_plain {c : CodePoint} (hlegal : isLegal c = true) (hc : c ≠ char '?') (s : Text) :
    scanInstructionBody (c :: s) = scanInstructionBody s := by
  rw [scanInstructionBody.eq_def]
  simp [hlegal, hc]

omit hw in
theorem scanInstructionBody_mark {d : CodePoint} (hd : d ≠ char '>') (s : Text) :
    scanInstructionBody (char '?' :: d :: s) = scanInstructionBody (d :: s) := by
  rw [scanInstructionBody.eq_def]
  simp only [if_neg hd]
  rfl

omit hw in
theorem scanInstructionBody_illegal {c : CodePoint} (hlegal : isLegal c = false) (s : Text) :
    scanInstructionBody (c :: s) = .invalid (c :: s) := by
  rw [scanInstructionBody.eq_def]
  simp [hlegal]

omit hw in
/-- A code point that cannot start the closing mark is passed over, if it is legal. -/
theorem scanInstructionBody_found {c : CodePoint} (hc : c ≠ char '?') {r : Text}
    (h : scanInstructionBody (c :: s) = .found () r) : isLegal c = true ∧ scanInstructionBody s = .found () r := by
  cases hlegal : isLegal c with
  | false =>
    rw [scanInstructionBody_illegal hlegal] at h
    cases h
  | true =>
    rw [scanInstructionBody_plain hlegal hc] at h
    exact ⟨rfl, h⟩

/-- The text of a processing instruction, up to its closing mark, is reflowed as well. -/
theorem exists_instruction (h : Reflowed white s t) {r : Text} (hfound : scanInstructionBody s = .found () r) :
    ∃ inside inside' r', s = inside ++ char '?' :: char '>' :: r ∧ t = inside' ++ char '?' :: char '>' :: r' ∧
      Reflowed white inside inside' ∧ Reflowed white r r' ∧ scanInstructionBody t = .found () r' := by
  induction h with
  | nil => cases hfound
  | @cons c s t h ih =>
    by_cases hc : c = char '?'
    · subst hc
      cases s with
      | nil => cases hfound
      | cons d s =>
        by_cases hd : d = char '>'
        · subst hd
          obtain ⟨t, rfl, ht⟩ := hw.solid h rfl (by decide)
          obtain rfl : s = r := by injection hfound
          exact ⟨[], [], t, rfl, rfl, .nil, ht, rfl⟩
        · -- a question mark inside of the instruction has none of its closing mark behind it on either side
          obtain ⟨d', t, rfl, hd'⟩ := head_mark hw (d := char '>') h rfl (by decide) hd
          rw [scanInstructionBody_mark hd] at hfound
          obtain ⟨inside, inside', r', hs, ht, hinside, hr, hfound'⟩ := ih hfound
          refine ⟨char '?' :: inside, char '?' :: inside', r', congrArg _ hs, congrArg _ ht, hinside.cons _, hr, ?_⟩
          rwa [scanInstructionBody_mark hd']
    · obtain ⟨hlegal, hfound⟩ := scanInstructionBody_found hc hfound
      obtain ⟨inside, inside', r', rfl, rfl, hinside, hr, hfound'⟩ := ih hfound
      refine ⟨c :: inside, c :: inside', r', rfl, rfl, hinside.cons c, hr, ?_⟩
      rwa [scanInstructionBody_plain hlegal hc]
  | @drop c s t hlost h ih =>
    obtain ⟨-, hfound⟩ := scanInstructionBody_found (ne_of_white hw hlost rfl) hfound
    obtain ⟨inside, inside', r', rfl, ht, hinside, hr, hfound'⟩ := ih hfound
    obtain ⟨i', rfl, rfl⟩ := Text.exists_before_mark (by decide) ht
    exact ⟨c :: inside, _, r', rfl, rfl, .drop hlost hinside, hr, hfound'⟩
  | @trail c s t hlost h ih =>
    rw [scanInstructionBody_plain rfl (by decide)] at hfound ih
    obtain ⟨-, hfound⟩ := scanInstructionBody_found (ne_of_white hw hlost rfl) hfound
    obtain ⟨inside, inside', r', hs, ht, hinside, hr, hfound'⟩ := ih hfound
    obtain ⟨i, rfl, rfl⟩ := Text.exists_before_mark (by decide) hs
    obtain ⟨i', rfl, rfl⟩ := Text.exists_before_mark (by decide) ht
    exact ⟨CodePoint.newline :: c :: i, _, r', rfl, rfl, .trail hlost hinside, hr, hfound'⟩
  | pad h ih =>
    obtain ⟨inside, inside', r', rfl, ht, hinside, hr, hfound'⟩ := ih hfound
    obtain ⟨i', rfl, rfl⟩ := Text.exists_before_mark (by decide) ht
    refine ⟨inside, CodePoint.newline :: char ' ' :: i', r', rfl, rfl, .pad hinside, hr, ?_⟩
    rwa [scanInstructionBody_plain rfl (by decide)] at hfound' ⊢
  | brk h ih =>
    obtain ⟨inside, inside', r', hs, ht, hinside, hr, hfound'⟩ := ih hfound
    obtain ⟨i, rfl, rfl⟩ := Text.exists_before_mark (by decide) hs
    obtain ⟨i', rfl, rfl⟩ := Text.exists_before_mark (by decide) ht
    exact ⟨char '<' :: i, CodePoint.newline :: char '<' :: i', r', rfl, rfl, .brk hinside, hr, hfound'⟩

theorem follows_scanInstructionBody (h : Reflowed white s t) :
    Follows white Eq (scanInstructionBody s) (scanInstructionBody t) := by
  intro v r hfound
  obtain ⟨-, -, r', -, -, -, hr, hfound'⟩ := exists_instruction hw h hfound
  exact ⟨(), r', hfound', rfl, hr⟩

omit hw in
theorem isLegal_of_isSpace {c : CodePoint} (h : isSpace c = true) : isLegal c = true := by
  simp only [isSpace, Bool.or_eq_true, decide_eq_true_eq] at h
  rcases h with ((rfl | rfl) | rfl) | rfl <;> rfl

omit hw in
theorem scanInstructionBody_space {c : CodePoint} (h : isSpace c = true) (s : Text) :
    scanInstructionBody (c :: s) = scanInstructionBody s := by
  apply scanInstructionBody_plain (isLegal_of_isSpace h)
  rintro rfl
  cases h

omit hw in
/-- Where a text starts with white space of XML, so does the reflowed text. -/
theorem head_space {c : CodePoint} (h : Reflowed white (c :: s) t) (hc : isSpace c = true) :
    ∃ c' t', t = c' :: t' ∧ isSpace c' = true := by
  rcases h.cons_left with ⟨t', rfl, -⟩ | ⟨t', rfl⟩
  · exact ⟨c, t', rfl, hc⟩
  · exact ⟨_, t', rfl, rfl⟩

theorem follows_scanInstruction (h : Reflowed white s t) :
    Follows white Eq (scanInstruction s) (scanInstruction t) := by
  apply (follows_scanName hw h).bind
  rintro target _ rest rest' rfl hrest
  cases rest with
  | nil => exact follows_cut _
  | cons c more =>
    dsimp only
    by_cases hc : isSpace c = true
    · obtain ⟨c', more', rfl, hc'⟩ := head_space hrest hc
      -- the body may as well begin with the white space behind the target
      have hbody := follows_scanInstructionBody hw hrest
      rw [scanInstructionBody_space hc, scanInstructionBody_space hc'] at hbody
      dsimp only
      rw [if_pos hc, if_pos hc']
      split
      · exact follows_invalid _ _
      · exact hbody.map fun _ _ _ => rfl
    · rw [if_neg hc]
      split
      · rename_i hmark
        subst hmark
        obtain ⟨more', rfl, hmore⟩ := hw.solid hrest rfl (by decide)
        dsimp only
        rw [if_neg hc, if_pos rfl]
        split
        · exact follows_invalid _ _
        · cases more with
          | nil => exact follows_cut _
          | cons d after =>
            dsimp only
            split
            · rename_i hd
              subst hd
              obtain ⟨after', rfl, hafter⟩ := hw.solid hmore rfl (by decide)
              exact follows_found rfl hafter
            · exact follows_invalid _ _
      · exact follows_invalid _ _

end Bodies

end Tidy.Xml
