/-
# Tidy.Proofs.Xml.Remainder -- scanners leave an end of their text

What a scanner leaves is an end of the text that it looked at, so no limit that exceeds the length of a text is ever
reached.
-/

import Tidy.Xml.Document

namespace Tidy.Xml

open CodePoint (char)

namespace Scan

variable {α β : Type} {s : Text}

/-- Both scans of a pair have found something. -/
theorem bind_eq_found {x : Scan α} {f : α → Text → Scan β} {b : β} {rest : Text} :
    x.bind f = .found b rest ↔ ∃ a r, x = .found a r ∧ f a r = .found b rest := by
  constructor
  · intro h
    cases x with
    | found a r => exact ⟨a, r, rfl, h⟩
    | invalid => cases h
    | cut => cases h
  · rintro ⟨a, r, rfl, h⟩
    exact h

theorem map_eq_found {x : Scan α} {f : α → β} {b : β} {rest : Text} :
    x.map f = .found b rest ↔ ∃ a, x = .found a rest ∧ f a = b := by
  rw [map, bind_eq_found]
  constructor
  · rintro ⟨a, r, hx, ⟨⟩⟩
    exact ⟨a, hx, rfl⟩
  · rintro ⟨a, hx, rfl⟩
    exact ⟨a, rest, hx, rfl⟩

/-- What the scan leaves is an end of the text. -/
def Within (s : Text) (x : Scan α) : Prop :=
  ∀ v r, x = .found v r → r <:+ s

theorem within_found (v : α) {r : Text} (h : r <:+ s) : Within s (.found v r) := by
  intro v' r' heq
  cases heq
  exact h

theorem within_invalid (place : Text) : Within s (.invalid place : Scan α) := by
  intro v r h
  cases h

theorem within_cut : Within s (.cut : Scan α) := by
  intro v r h
  cases h

theorem Within.mono {t : Text} {x : Scan α} (h : Within t x) (ht : t <:+ s) : Within s x :=
  fun v r heq => (h v r heq).trans ht

theorem Within.cons {t : Text} {x : Scan α} (h : Within t x) (c : CodePoint) : Within (c :: t) x :=
  h.mono (List.suffix_cons c t)

theorem Within.bind {x : Scan α} (h : Within s x) {f : α → Text → Scan β} (hf : ∀ v r, Within r (f v r)) :
    Within s (x.bind f) := by
  intro w q hfound
  obtain ⟨v, r, hx, hq⟩ := bind_eq_found.mp hfound
  exact (hf v r w q hq).trans (h v r hx)

theorem Within.map {x : Scan α} (h : Within s x) (f : α → β) : Within s (x.map f) :=
  h.bind fun _ r => within_found _ (List.suffix_refl r)

end Scan

open Scan

/-! ## Names and references -/

theorem within_scanName (s : Text) : Within s (scanName s) := by
  cases s with
  | nil => exact within_cut
  | cons c s =>
    rw [scanName]
    split
    · exact (within_found _ (List.dropWhile_suffix _)).cons c
    · exact within_invalid _

theorem within_scanQualifiedName (s : Text) : Within s (scanQualifiedName s) := by
  refine (within_scanName s).bind fun first rest => ?_
  split
  · exact within_found _ (List.suffix_refl _)
  · split
    · refine ((within_scanName _).bind fun second rest => ?_).cons _
      split
      · exact within_found _ (List.suffix_refl _)
      · split
        · exact within_invalid _
        · exact within_found _ (List.suffix_refl _)
    · exact within_found _ (List.suffix_refl _)

theorem within_scanNumber (kind : CodePoint → Bool) (value : Text → Nat) (s : Text) :
    Within s (scanNumber kind value s) := by
  cases s with
  | nil => exact within_cut
  | cons c s =>
    rw [scanNumber]
    split
    · split
      · exact within_cut
      · rename_i d more hdrop
        split
        · have hsuffix : d :: more <:+ s := by
            rw [← hdrop]
            exact List.dropWhile_suffix _
          exact (within_found _ ((List.suffix_cons d more).trans hsuffix)).cons c
        · exact within_invalid _
    · exact within_invalid _

theorem within_scanReference (s : Text) : Within s (scanReference s) := by
  rw [scanReference.eq_def]
  split
  · exact within_cut
  · rename_i c rest
    split
    · split
      · exact within_cut
      · split
        · exact ((within_scanNumber _ _ _).cons _).cons _
        · exact (within_scanNumber _ _ _).cons _
    · refine (within_scanName _).bind fun name rest => ?_
      split
      · exact within_cut
      · split
        · exact within_found _ (List.suffix_cons _ _)
        · exact within_invalid _

/-! ## Comments and processing instructions -/

theorem suffix_cons_cons (c d : CodePoint) (s : Text) : s <:+ c :: d :: s :=
  (List.suffix_cons d s).trans (List.suffix_cons c _)

theorem within_scanCommentBody (s : Text) : Within s (scanCommentBody s) := by
  induction s with
  | nil => exact within_cut
  | cons c s ih =>
    rw [scanCommentBody.eq_def]
    dsimp only
    split
    · exact within_invalid _
    split
    · split
      · exact within_cut
      · split
        · split
          · exact within_cut
          · split
            · exact (within_found () (suffix_cons_cons _ _ _)).cons c
            · exact within_invalid _
        · exact ih.cons c
    · exact ih.cons c

theorem within_scanComment (s : Text) : Within s (scanComment s) := by
  cases s with
  | nil => exact within_cut
  | cons c s =>
    rw [scanComment]
    split
    · exact (within_scanCommentBody s).cons c
    · exact within_invalid _

theorem within_scanInstructionBody (s : Text) : Within s (scanInstructionBody s) := by
  induction s with
  | nil => exact within_cut
  | cons c s ih =>
    rw [scanInstructionBody.eq_def]
    dsimp only
    split
    · exact within_invalid _
    split
    · split
      · exact within_cut
      · split
        · exact within_found () (suffix_cons_cons _ _ _)
        · exact ih.cons c
    · exact ih.cons c

theorem within_scanInstruction (s : Text) : Within s (scanInstruction s) := by
  refine (within_scanName s).bind fun target rest => ?_
  split
  · exact within_cut
  · rename_i c more
    split
    · split
      · exact within_invalid _
      · exact ((within_scanInstructionBody more).map _).cons c
    split
    · split
      · exact within_invalid _
      · split
        · exact within_cut
        · split
          · exact within_found _ (suffix_cons_cons _ _ _)
          · exact within_invalid _
    · exact within_invalid _

/-! ## Tags -/

theorem suffix_skipSpace (s : Text) : skipSpace s <:+ s := List.dropWhile_suffix _

theorem within_scanValue (quote : CodePoint) (s : Text) : Within s (scanValue quote s) := by
  induction s with
  | nil => exact within_cut
  | cons c s ih =>
    rw [scanValue]
    split
    · exact within_found () (List.suffix_cons c s)
    split
    · exact within_invalid _
    split
    · split
      · exact ih.cons c
      · exact within_invalid _
      · exact within_cut
    · exact ih.cons c

theorem within_scanAttribute (s : Text) : Within s (scanAttribute s) := by
  refine (within_scanQualifiedName s).bind fun name rest => ?_
  split
  · exact within_cut
  · rename_i c more hskip
    have hmore : more <:+ rest := (List.suffix_cons c more).trans (hskip ▸ suffix_skipSpace rest)
    split
    · split
      · exact within_cut
      · rename_i q value hskip
        have hvalue : value <:+ more := (List.suffix_cons q value).trans (hskip ▸ suffix_skipSpace more)
        split
        · exact ((within_scanValue q value).map _).mono (hvalue.trans hmore)
        · exact within_invalid _
    · exact within_invalid _

theorem within_scanTagEnd (s : Text) : Within s (scanTagEnd s) := by
  cases s with
  | nil => exact within_cut
  | cons c s =>
    rw [scanTagEnd.eq_def]
    dsimp only
    split
    · exact within_found _ (List.suffix_cons c s)
    split
    · split
      · exact within_cut
      · split
        · exact within_found _ (suffix_cons_cons _ _ _)
        · exact within_invalid _
    · exact within_invalid _

theorem within_scanAttributes (limit : Nat) (s : Text) : Within s (scanAttributes limit s) := by
  induction limit generalizing s with
  | zero => exact within_cut
  | succ limit ih =>
    cases s with
    | nil => exact within_cut
    | cons c s =>
      rw [scanAttributes]
      split
      · split
        · exact within_cut
        · rename_i d more hskip
          have hmore : d :: more <:+ c :: s := (hskip ▸ suffix_skipSpace s).trans (List.suffix_cons c s)
          split
          · refine Within.mono ?_ hmore
            exact (within_scanAttribute _).bind fun one after => (ih after).map _
          · exact ((within_scanTagEnd _).map _).mono hmore
      · exact (within_scanTagEnd _).map _

theorem within_scanStartTag (s : Text) : Within s (scanStartTag s) :=
  (within_scanQualifiedName s).bind fun _ rest => (within_scanAttributes _ rest).map _

theorem within_scanEndTag (s : Text) : Within s (scanEndTag s) := by
  cases s with
  | nil => exact within_cut
  | cons c s =>
    rw [scanEndTag]
    split
    · dsimp only
      split
      · exact within_cut
      · rename_i d more hdrop
        have hmore : d :: more <:+ c :: s := (hdrop ▸ List.dropWhile_suffix _).trans (List.suffix_cons c s)
        split
        · exact within_found _ ((List.suffix_cons d more).trans hmore)
        split
        · split
          · exact within_cut
          · rename_i e after hskip
            have hafter : after <:+ more := (List.suffix_cons e after).trans (hskip ▸ suffix_skipSpace more)
            split
            · exact within_found _ (hafter.trans ((List.suffix_cons d more).trans hmore))
            · exact within_invalid _
        · exact within_invalid _
    · exact within_invalid _

/-! ## Character data -/

theorem within_scanMark (mark s : Text) : Within s (scanMark mark s) := by
  induction mark generalizing s with
  | nil => exact within_found () (List.suffix_refl s)
  | cons m mark ih =>
    cases s with
    | nil => exact within_cut
    | cons c s =>
      rw [scanMark]
      split
      · exact (ih s).cons c
      · exact within_invalid _

theorem within_scanCdata (s : Text) : Within s (scanCdata s) := by
  induction s with
  | nil => exact within_cut
  | cons c s ih =>
    rw [scanCdata]
    split
    · exact within_invalid _
    split
    · exact within_found () ((List.drop_suffix 2 s).trans (List.suffix_cons c s))
    · exact ih.cons c

theorem within_scanData (s : Text) : Within s (scanData s) := by
  induction s with
  | nil => exact within_found () (List.suffix_refl _)
  | cons c s ih =>
    rw [scanData]
    split
    · exact within_found () (List.suffix_refl _)
    split
    · exact within_invalid _
    split
    · exact within_invalid _
    · exact ih.cons c

/-! ## Prolog tokens -/

theorem within_scanLiteral (quote : CodePoint) (s : Text) : Within s (scanLiteral quote s) := by
  unfold scanLiteral
  dsimp only
  split
  · exact within_cut
  · rename_i c rest hdrop
    have hrest : rest <:+ s := (List.suffix_cons c rest).trans (hdrop ▸ List.dropWhile_suffix _)
    split
    · exact within_invalid _
    split
    · exact within_found _ hrest
    · split
      · exact within_found _ hrest
      · exact within_invalid _

theorem within_scanPercent (s : Text) : Within s (scanPercent s) := by
  cases s with
  | nil => exact within_cut
  | cons c s =>
    rw [scanPercent]
    split
    · exact within_found _ (List.suffix_refl _)
    · refine (within_scanName _).bind fun name rest => ?_
      split
      · exact within_cut
      · split
        · exact within_found _ (List.suffix_cons _ _)
        · exact within_invalid _

theorem within_scanPoundName (s : Text) : Within s (scanPoundName s) := by
  refine (within_scanName s).bind fun name rest => ?_
  split
  · exact within_found _ (List.suffix_refl _)
  · split
    · exact within_found _ (List.suffix_refl _)
    · exact within_invalid _

theorem within_scanDeclaration (s : Text) : Within s (scanDeclaration s) := by
  cases s with
  | nil => exact within_cut
  | cons c s =>
    rw [scanDeclaration]
    split
    · exact ((within_scanComment s).map _).cons c
    split
    · exact within_found _ (List.suffix_cons c s)
    split
    · dsimp only
      split
      · exact within_cut
      · rename_i d more hdrop
        have hmore : d :: more <:+ c :: s := (hdrop ▸ List.dropWhile_suffix _).trans (List.suffix_cons c s)
        split
        · exact within_found _ hmore
        split
        · split
          · exact within_cut
          · split
            · exact within_invalid _
            · exact within_found _ hmore
        · exact within_invalid _
    · exact within_invalid _

theorem within_scanNameRow (shape : NameShape) (seen s : Text) : Within s (scanNameRow shape seen s) := by
  induction s generalizing shape seen with
  | nil => exact within_found _ (List.suffix_refl _)
  | cons c s ih =>
    rw [scanNameRow.eq_def]
    dsimp only
    split
    · exact (ih _ _).cons c
    split
    · split
      · split
        · exact within_cut
        · split
          · exact (ih _ _).cons c
          split
          · exact within_invalid _
          · exact (ih _ _).cons c
      · exact (ih _ _).cons c
    split
    · exact within_found _ (List.suffix_refl _)
    split
    · split
      · exact within_invalid _
      · exact within_found _ (List.suffix_cons c s)
    · exact within_invalid _

/-- The marks that are tokens by themselves. -/
def marks : List PrologToken :=
  [.comma, .openBracket, .openParen, .bar, .close]

/-- The scanner that reads on behind a first character. -/
inductive Scanner (c : CodePoint) : (Text → Scan PrologToken) → Prop
  | literal : c = char '"' ∨ c = char '\'' → Scanner c (scanLiteral c)
  | space : isSpace c = true → Scanner c fun s => .found .space (skipSpace s)
  | percent : Scanner c scanPercent
  | mark (token : PrologToken) : token ∈ marks → Scanner c (.found token)
  | closeBracket : Scanner c (scanProlog (char ']'))
  | closeParen : Scanner c (scanProlog (char ')'))
  | poundName : Scanner c scanPoundName
  | nameRow (shape : NameShape) : Scanner c (scanNameRow shape [c])
  | none : Scanner c fun s => .invalid (c :: s)

/-- The characters that begin a token of their own kind, other than white space, names and tags. -/
def openers : Text :=
  [char '"', char '\'', char '%', char ',', char '[', char ']', char '(', char '|', char ')', char '>', char '#']

theorem scanner_opener {c : CodePoint} (h : c ∈ openers) : Scanner c (scanProlog c) := by
  simp only [openers, List.mem_cons, List.not_mem_nil, or_false] at h
  rcases h with rfl | rfl | rfl | rfl | rfl | rfl | rfl | rfl | rfl | rfl | rfl
  · exact .literal (Or.inl rfl)
  · exact .literal (Or.inr rfl)
  · exact .percent
  · exact .mark .comma (by simp [marks])
  · exact .mark .openBracket (by simp [marks])
  · exact .closeBracket
  · exact .mark .openParen (by simp [marks])
  · exact .mark .bar (by simp [marks])
  · exact .closeParen
  · exact .mark .close (by simp [marks])
  · exact .poundName

theorem scanner_scanProlog {c : CodePoint} (htag : c ≠ char '<') : Scanner c (scanProlog c) := by
  by_cases hopener : c ∈ openers
  · exact scanner_opener hopener
  have hother : ∀ d ∈ openers, c ≠ d := by
    rintro d hd rfl
    exact hopener hd
  have hrest : ∀ s, scanProlog c s =
      if isSpace c then .found .space (skipSpace s)
      else if isNameStart c then scanNameRow .plain [c] s
      else if isNameChar c || c = char ':' then scanNameRow .token [c] s
      else .invalid (c :: s) := by
    intro s
    unfold scanProlog
    simp only [hother (char '"') (by decide), hother (char '\'') (by decide), htag, hother (char '%') (by decide),
      hother (char ',') (by decide), hother (char '[') (by decide), hother (char ']') (by decide),
      hother (char '(') (by decide), hother (char ')') (by decide), hother (char '|') (by decide),
      hother (char '>') (by decide), hother (char '#') (by decide), decide_false, Bool.or_false, Bool.false_eq_true,
      if_false]
  rw [funext hrest]
  by_cases hspace : isSpace c = true
  · simp only [if_pos hspace]
    exact .space hspace
  by_cases hstart : isNameStart c = true
  · simp only [if_neg hspace, if_pos hstart]
    exact .nameRow .plain
  by_cases hname : (isNameChar c || decide (c = char ':')) = true
  · simp only [if_neg hspace, if_neg hstart, if_pos hname]
    exact .nameRow .token
  · simp only [if_neg hspace, if_neg hstart, if_neg hname]
    exact .none
theorem scanProlog_paren (d : CodePoint) (more : Text) :
    scanProlog (char ')') (d :: more) =
      match occurrenceOf? d with
      | some times => .found (.closeParen times) more
      | none => if endsWord ">,|)" d then .found (.closeParen .once) (d :: more) else .invalid (d :: more) :=
  rfl

theorem scanProlog_bracket {d : CodePoint} (hd : d ≠ char ']') (more : Text) :
    scanProlog (char ']') (d :: more) = .found .closeBracket (d :: more) :=
  if_neg hd

theorem scanProlog_brackets (e : CodePoint) (more : Text) :
    scanProlog (char ']') (char ']' :: e :: more) =
      if e = char '>' then .found .sectionClose more else .found .closeBracket (char ']' :: e :: more) :=
  rfl

theorem scanProlog_tag (d : CodePoint) (more : Text) :
    scanProlog (char '<') (d :: more) =
      if d = char '!' then scanDeclaration more
      else if d = char '?' then (scanInstruction more).map fun kind => match kind with
        | .ordinary => .instruction
        | .declaration => .declaration
      else if d.isAsciiLetter || d = char '_' || 0x7F < d.toNat then .found .elementStart (char '<' :: d :: more)
      else .invalid (d :: more) :=
  rfl

theorem within_closeBracket (s : Text) : Within s (scanProlog (char ']') s) := by
  intro token after h
  cases s with
  | nil =>
    cases h
    exact List.suffix_refl _
  | cons d more =>
    by_cases hd : d = char ']'
    · subst hd
      cases more with
      | nil => cases h
      | cons e more =>
        rw [scanProlog_brackets] at h
        split at h
        · cases h
          exact suffix_cons_cons _ _ _
        · cases h
          exact List.suffix_refl _
    · rw [scanProlog_bracket hd] at h
      cases h
      exact List.suffix_refl _

theorem within_closeParen (s : Text) : Within s (scanProlog (char ')') s) := by
  cases s with
  | nil => exact within_found _ (List.suffix_refl _)
  | cons d more =>
    rw [scanProlog_paren]
    split
    · exact within_found _ (List.suffix_cons _ _)
    split
    · exact within_found _ (List.suffix_refl _)
    · exact within_invalid _

/-- Every prolog token but the start of the root element is made of at least one code point. -/
theorem scanProlog_within {c : CodePoint} {rest after : Text} {token : PrologToken}
    (h : scanProlog c rest = .found token after) (htoken : token ≠ .elementStart) : after <:+ rest := by
  by_cases htag : c = char '<'
  · subst htag
    cases rest with
    | nil => cases h
    | cons d more =>
      rw [scanProlog_tag] at h
      split at h
      · exact (within_scanDeclaration more).cons d _ _ h
      split at h
      · exact ((within_scanInstruction more).map _).cons d _ _ h
      split at h
      · cases h
        exact absurd rfl htoken
      · cases h
  have hscanner := scanner_scanProlog htag
  generalize scanProlog c = scan at h hscanner
  cases hscanner with
  | literal => exact within_scanLiteral c rest _ _ h
  | space =>
    cases h
    exact suffix_skipSpace rest
  | percent => exact within_scanPercent rest _ _ h
  | mark =>
    cases h
    exact List.suffix_refl _
  | closeBracket => exact within_closeBracket rest _ _ h
  | closeParen => exact within_closeParen rest _ _ h
  | poundName => exact within_scanPoundName rest _ _ h
  | nameRow shape => exact within_scanNameRow shape _ rest _ _ h
  | none => cases h

/-! ## Pieces of content -/

theorem suffix_of_found {α : Type} {s u after : Text} {x : Scan α} {v : α} (hx : Within u x)
    (h : found s x = .ok (v, after)) : after <:+ u := by
  cases x with
  | found value rest =>
    cases h
    exact hx v after rfl
  | invalid => cases h
  | cut => cases h

theorem map_eq_ok {α β ε : Type} {x : Except ε α} {f : α → β} {b : β} (h : x.map f = .ok b) :
    ∃ a, x = .ok a ∧ f a = b := by
  cases x with
  | error => cases h
  | ok a => exact ⟨a, rfl, by injection h⟩

theorem bind_eq_ok {α β ε : Type} {x : Except ε α} {f : α → Except ε β} {b : β} (h : x.bind f = .ok b) :
    ∃ a, x = .ok a ∧ f a = .ok b := by
  cases x with
  | error => cases h
  | ok a => exact ⟨a, rfl, h⟩

theorem cdataSection_within {s inside after : Text} {piece : Piece} (h : cdataSection s inside = .ok (piece, after)) :
    after <:+ inside := by
  obtain ⟨⟨_, body⟩, hmark, h⟩ := bind_eq_ok h
  have hbody : body <:+ inside := by
    refine suffix_of_found ?_ hmark
    unfold scanCdataMark
    split
    · exact within_cut
    · exact within_scanMark _ inside
  dsimp only at h
  split at h
  · rename_i rest hfound
    cases h
    exact (within_scanCdata body () _ hfound).trans hbody
  · cases h
  · cases h

theorem markup_within {s inside after : Text} {piece : Piece} (h : markup s inside = .ok (piece, after)) :
    after <:+ inside := by
  unfold markup at h
  split at h
  · cases h
  · rename_i c more
    split at h
    · split at h
      · cases h
      · rename_i d body
        split at h
        · obtain ⟨⟨_, rest⟩, hfound, hpair⟩ := map_eq_ok h
          cases hpair
          exact (suffix_of_found (within_scanComment body) hfound).trans (suffix_cons_cons c d body)
        split at h
        · exact (cdataSection_within h).trans (suffix_cons_cons c d body)
        · cases h
    split at h
    · obtain ⟨⟨kind, rest⟩, hfound, h⟩ := bind_eq_ok h
      have hrest := (suffix_of_found (within_scanInstruction more) hfound).trans (List.suffix_cons c more)
      cases kind with
      | ordinary =>
        cases h
        exact hrest
      | declaration => cases h
    split at h
    · obtain ⟨⟨_, rest⟩, hfound, hpair⟩ := map_eq_ok h
      cases hpair
      exact (suffix_of_found (within_scanEndTag more) hfound).trans (List.suffix_cons c more)
    · obtain ⟨⟨_, rest⟩, hfound, hpair⟩ := map_eq_ok h
      cases hpair
      exact suffix_of_found (within_scanStartTag _) hfound

/-- Every piece of content is made of at least one code point. -/
theorem nextPiece_within {c : CodePoint} {rest after : Text} {piece : Piece}
    (h : nextPiece c rest = .ok (piece, after)) : after <:+ rest := by
  unfold nextPiece at h
  split at h
  · exact markup_within h
  split at h
  · obtain ⟨⟨_, _⟩, hfound, hpair⟩ := map_eq_ok h
    cases hpair
    exact suffix_of_found (within_scanReference rest) hfound
  · rename_i htag hreference
    obtain ⟨⟨_, _⟩, hfound, hpair⟩ := map_eq_ok h
    cases hpair
    refine suffix_of_found ?_ hfound
    rw [scanData, if_neg (by simp [htag, hreference])]
    split
    · exact within_invalid _
    split
    · exact within_invalid _
    · exact within_scanData rest

end Tidy.Xml
