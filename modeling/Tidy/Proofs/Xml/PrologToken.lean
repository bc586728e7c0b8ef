/-
# Tidy.Proofs.Xml.PrologToken -- the tokens around the root element in reflowed text

The tokens of the prolog are the same in reflowed text, but for the text of a literal (`TokenFollows`). Two kinds of
tokens may be found here and not there, and both only where no document can go on: white space behind which white space
stands that XML does not know, and the start of a declaration or of an element behind which no name follows (`Doomed`).
-/

import Tidy.Proofs.Xml.Tags
import Tidy.Xml.PrologToken

namespace Tidy.Xml

open CodePoint (char)
open Markup (Reflowed)
open Scan

/-- One token is another, with a literal reflowed. -/
inductive TokenFollows (white : CodePoint → Bool) : PrologToken → PrologToken → Prop
  | same (token : PrologToken) : TokenFollows white token token
  | literal {body body' : Text} : Reflowed white body body' → TokenFollows white (.literal body) (.literal body')

theorem TokenFollows.eq_of_not_literal {white : CodePoint → Bool} {token token' : PrologToken}
    (h : TokenFollows white token token') (hliteral : ∀ body, token ≠ .literal body) : token' = token := by
  cases h with
  | same => rfl
  | literal => exact absurd rfl (hliteral _)

theorem TokenFollows.of_eq {white : CodePoint → Bool} {token token' : PrologToken} (h : token = token') :
    TokenFollows white token token' :=
  h ▸ .same token

/-- No document goes on with the text: no token is at its start, but for the start of an element that is none. -/
def Doomed (s : Text) : Prop :=
  ∃ c rest, s = c :: rest ∧ ∀ token after, scanProlog c rest = .found token after →
    token = .elementStart ∧ ∀ piece after, nextPiece c rest ≠ .ok (piece, after)

/-- What the first scan finds in the text `s` the second one finds as well, unless no document goes on there. -/
def Leads (white : CodePoint → Bool) (s : Text) (x y : Scan PrologToken) : Prop :=
  ∀ token after, x = .found token after →
    (Doomed s ∨ token ≠ .elementStart ∧ Doomed after) ∨
      ∃ token' after', y = .found token' after' ∧ TokenFollows white token token' ∧ Reflowed white after after'

theorem Scan.Follows.leads {white : CodePoint → Bool} {s : Text} {x y : Scan PrologToken}
    (h : Follows white (TokenFollows white) x y) : Leads white s x y :=
  fun token after hfound => Or.inr (h token after hfound)

/-! ## Ends of words -/

section Ends

variable {white : CodePoint → Bool} (hw : White white) {s t : Text}
include hw

/-- What ends a word is the same in both texts, or white space of XML. -/
theorem head_end {others : Text} (hothers : IsWord others) {c : CodePoint} (h : Reflowed white (c :: s) t)
    (hc : endsWord others c = true) :
    ∃ c' t', t = c' :: t' ∧ endsWord others c' = true ∧ (c' = c ∨ isSpace c' = true) := by
  unfold endsWord at hc ⊢
  cases hspace : isSpace c with
  | true =>
    obtain ⟨c', t', rfl, hspace'⟩ := head_space h hspace
    exact ⟨c', t', rfl, by rw [hspace']; rfl, Or.inr hspace'⟩
  | false =>
    rw [hspace, Bool.false_or, List.contains_iff_mem] at hc
    obtain ⟨hsolid, htag⟩ := hothers c hc
    obtain ⟨t', rfl, -⟩ := hw.solid h hsolid htag
    refine ⟨c, t', rfl, ?_, Or.inl rfl⟩
    rw [List.contains_iff_mem.mpr hc, Bool.or_true]

/-- A token that stands before the end of a word, or at the end of the text. -/
theorem follows_ended {others : Text} (hothers : IsWord others) {token token' : PrologToken}
    (htoken : TokenFollows white token token') :
    Reflowed white s t → Follows white (TokenFollows white)
      (match s with
        | [] => .found token []
        | d :: _ => if endsWord others d then .found token s else .invalid s)
      (match t with
        | [] => .found token' []
        | d :: _ => if endsWord others d then .found token' t else .invalid t) := by
  intro h
  cases s with
  | nil =>
    rw [h.nil_left]
    exact follows_found htoken .nil
  | cons d s =>
    dsimp only
    split
    · rename_i hd
      obtain ⟨d', t', rfl, hd', -⟩ := head_end hw hothers h hd
      dsimp only
      rw [if_pos hd']
      exact follows_found htoken h
    · exact follows_invalid _ _

omit hw in
theorem isWord_occurrence {c : CodePoint} {times : Occurrence} (h : occurrenceOf? c = some times) :
    c.isBlank = false ∧ c ≠ char '<' := by
  unfold occurrenceOf? at h
  split at h
  · rename_i hc
    subst hc
    decide
  split at h
  · rename_i hc
    subst hc
    decide
  split at h
  · rename_i hc
    subst hc
    decide
  · cases h

/-! ## Literals -/

theorem follows_scanLiteral {quote : CodePoint} (hquote : IsWord [quote]) (h : Reflowed white s t) :
    Follows white (TokenFollows white) (scanLiteral quote s) (scanLiteral quote t) := by
  obtain ⟨hsolid, htag⟩ := hquote quote List.mem_cons_self
  unfold scanLiteral
  dsimp only
  have hparts := (@List.takeWhile_append_dropWhile _ (fun c => decide (c ≠ quote) && isLegal c) s).symm
  have hchars := List.all_takeWhile (l := s) (p := fun c => decide (c ≠ quote) && isLegal c)
  rw [List.all_eq_true] at hchars
  generalize s.takeWhile (fun c => decide (c ≠ quote) && isLegal c) = body,
    s.dropWhile (fun c => decide (c ≠ quote) && isLegal c) = rest at hparts hchars ⊢
  subst hparts
  cases rest with
  | nil => exact follows_cut _
  | cons c rest =>
    dsimp only
    by_cases hc : c = quote
    · subst hc
      obtain ⟨body', rest', rfl, hbody, hrest⟩ := h.split (hw.eq_false hsolid)
        (fun heq => absurd hsolid (by rw [heq]; decide)) htag
      -- the literal has no new code points but line feeds and spaces
      have hchars' : ∀ d ∈ body', (decide (d ≠ c) && isLegal d) = true := by
        intro d hd
        rcases hbody.mem_right hd with hmem | rfl | rfl
        · exact hchars d hmem
        · simp [ne_of_isBlank (c := CodePoint.newline) rfl hsolid, isLegal_of_isSpace (c := CodePoint.newline) rfl]
        · simp [ne_of_isBlank (c := char ' ') rfl hsolid, isLegal_of_isSpace (c := char ' ') rfl]
      obtain ⟨htake, hdrop⟩ := span_append hchars' (q := c) (by simp) rest'
      rw [htake, hdrop]
      dsimp only
      rw [if_neg (by simp), if_neg (by simp)]
      exact follows_ended hw (by decide) (.literal hbody) hrest
    · rw [if_pos hc]
      exact follows_invalid _ _

/-! ## Percent signs, number signs and declarations -/

theorem follows_scanPercent (h : Reflowed white s t) :
    Follows white (TokenFollows white) (scanPercent s) (scanPercent t) := by
  cases s with
  | nil => exact follows_cut _
  | cons c s =>
    rw [scanPercent]
    by_cases hc : (isSpace c || decide (c = char '%')) = true
    · have hends : endsWord [char '%'] c = true := by simpa [endsWord] using hc
      obtain ⟨c', t', rfl, hends', -⟩ := head_end hw (by decide) h hends
      have hc' : (isSpace c' || decide (c' = char '%')) = true := by simpa [endsWord] using hends'
      rw [scanPercent, if_pos hc, if_pos hc']
      exact follows_found (.same _) h
    · rw [if_neg hc]
      by_cases hstart : isNameStart c = true
      · obtain ⟨t', rfl, -⟩ := hw.solid h (inert_nameStart c hstart).1 (inert_nameStart c hstart).2
        rw [scanPercent, if_neg hc]
        apply (follows_scanName hw h).bind
        rintro name _ rest rest' rfl hrest
        cases rest with
        | nil => exact follows_cut _
        | cons d more =>
          dsimp only
          split
          · rename_i hd
            subst hd
            obtain ⟨more', rfl, hmore⟩ := hw.solid hrest rfl (by decide)
            exact follows_found (.same _) hmore
          · exact follows_invalid _ _
      · rw [scanName, if_neg hstart]
        exact follows_invalid _ _

theorem follows_scanPoundName (h : Reflowed white s t) :
    Follows white (TokenFollows white) (scanPoundName s) (scanPoundName t) := by
  apply (follows_scanName hw h).bind
  rintro name _ rest rest' rfl hrest
  exact follows_ended hw (by decide) (.same _) hrest

omit hw in
/-- A percent sign that neither white space nor a name follows. -/
theorem doomed_percent {e : CodePoint} (hspace : (isSpace e || decide (e = char '%')) = false)
    (hstart : isNameStart e = false) (s : Text) : Doomed (char '%' :: e :: s) := by
  refine ⟨_, _, rfl, ?_⟩
  intro token after hfound
  have hnone : scanProlog (char '%') (e :: s) = .invalid (e :: s) := by
    show scanPercent (e :: s) = _
    rw [scanPercent, if_neg (by simp [hspace]), scanName, if_neg (by simp [hstart])]
    rfl
  rw [hnone] at hfound
  cases hfound

theorem leads_scanDeclaration (u : Text) (h : Reflowed white s t) :
    Leads white u (scanDeclaration s) (scanDeclaration t) := by
  cases s with
  | nil => exact (follows_cut _).leads
  | cons c s =>
    by_cases hcomment : c = char '-'
    · subst hcomment
      obtain ⟨t, rfl, ht⟩ := hw.solid h rfl (by decide)
      exact ((follows_scanComment hw ht).map fun _ _ _ => .same _).leads
    by_cases hsection : c = char '['
    · subst hsection
      obtain ⟨t, rfl, ht⟩ := hw.solid h rfl (by decide)
      exact (follows_found (.same _) ht).leads
    by_cases hkeyword : isKeywordChar c = true
    · obtain ⟨t, rfl, ht⟩ := hw.solid h (inert_keywordChar c hkeyword).1 (inert_keywordChar c hkeyword).2
      -- nothing has come into the keyword, so it is the same, and its end is looked at
      obtain ⟨hname, hrest⟩ := hw.span inert_keywordChar ht
      rw [scanDeclaration, if_neg hcomment, if_neg hsection, if_pos hkeyword, scanDeclaration, if_neg hcomment,
        if_neg hsection, if_pos hkeyword]
      dsimp only
      rw [hname]
      generalize s.dropWhile isKeywordChar = rest, t.dropWhile isKeywordChar = rest' at hrest ⊢
      cases rest with
      | nil => exact (follows_cut _).leads
      | cons d more =>
        dsimp only
        by_cases hspace : isSpace d = true
        · obtain ⟨d', more', rfl, hspace'⟩ := head_space hrest hspace
          dsimp only
          rw [if_pos hspace, if_pos hspace']
          exact (follows_found (.same _) hrest).leads
        by_cases hpercent : d = char '%'
        · subst hpercent
          obtain ⟨more', rfl, hmore⟩ := hw.solid hrest rfl (by decide)
          dsimp only
          rw [if_neg hspace, if_pos rfl, if_neg hspace, if_pos rfl]
          cases more with
          | nil => exact (follows_cut _).leads
          | cons e more =>
            dsimp only
            split
            · exact (follows_invalid _ _).leads
            rename_i hother
            by_cases hstart : isNameStart e = true
            · obtain ⟨more', rfl, -⟩ := hw.solid hmore (inert_nameStart e hstart).1 (inert_nameStart e hstart).2
              dsimp only
              rw [if_neg hother]
              exact (follows_found (.same _) hrest).leads
            · -- the keyword is found, but the percent sign behind it begins no token
              intro token after hfound
              cases hfound
              exact Or.inl (Or.inr ⟨by rintro ⟨⟩, doomed_percent (by simpa using hother) (by simpa using hstart) _⟩)
        · rw [if_neg hspace, if_neg hpercent]
          exact (follows_invalid _ _).leads
    · rw [scanDeclaration, if_neg hcomment, if_neg hsection, if_neg hkeyword]
      exact (follows_invalid _ _).leads

/-! ## Names -/

omit hw in
theorem scanNameRow_end {c : CodePoint} (hname : isNameChar c = false) (hcolon : c ≠ char ':')
    (hends : endsWord ">),|[%" c = true) (shape : NameShape) (seen s : Text) :
    scanNameRow shape seen (c :: s) = .found (shape.toToken seen) (c :: s) := by
  rw [scanNameRow.eq_def]
  dsimp only
  rw [if_neg (by simp [hname]), if_neg hcolon, if_pos hends]

omit hw in
theorem scanNameRow_name {c : CodePoint} (hname : isNameChar c = true) (shape : NameShape) (seen s : Text) :
    scanNameRow shape seen (c :: s) = scanNameRow shape (seen ++ [c]) s := by
  rw [scanNameRow.eq_def]
  dsimp only
  rw [if_pos hname]

omit hw in
theorem scanNameRow_colon (shape : NameShape) (seen s : Text) :
    scanNameRow shape seen (char ':' :: s) =
      match shape with
      | .plain =>
        match s with
        | [] => .cut
        | d :: _ =>
          if isNameChar d then scanNameRow .qualified (seen ++ [char ':']) s
          else if 0x7F < d.toNat then .invalid s
          else scanNameRow .token (seen ++ [char ':']) s
      | _ => scanNameRow .token (seen ++ [char ':']) s := by
  rw [scanNameRow.eq_def]
  rfl

omit hw in
theorem scanNameRow_mark {c : CodePoint} (hname : ¬ isNameChar c = true) (hcolon : c ≠ char ':')
    (hends : ¬ endsWord ">),|[%" c = true) (shape : NameShape) (seen s : Text) :
    scanNameRow shape seen (c :: s) =
      match occurrenceOf? c with
      | some times => if shape = .token then .invalid (c :: s) else .found (.modelName times) s
      | none => .invalid (c :: s) := by
  rw [scanNameRow.eq_def]
  refine ((if_neg hname).trans ((if_neg hcolon).trans (if_neg hends))).trans ?_
  cases occurrenceOf? c <;> rfl

/-- Behind a colon stands what is no part of a name in both texts: the same code point, or a line feed. -/
theorem follows_scanNameRow_colon (shape : NameShape) (seen : Text) (h : Reflowed white s t)
    (ih : ∀ shape seen, Follows white (TokenFollows white) (scanNameRow shape seen s) (scanNameRow shape seen t)) :
    Follows white (TokenFollows white) (scanNameRow shape seen (char ':' :: s))
      (scanNameRow shape seen (char ':' :: t)) := by
  rw [scanNameRow_colon, scanNameRow_colon]
  split
  · cases s with
    | nil => exact follows_cut _
    | cons d s =>
      dsimp only
      by_cases hd : isNameChar d = true
      · obtain ⟨t', rfl, -⟩ := hw.solid h (inert_nameChar d hd).1 (inert_nameChar d hd).2
        dsimp only
        rw [if_pos hd, if_pos hd]
        exact ih _ _
      by_cases hforeign : 0x7F < d.toNat
      · rw [if_neg hd, if_pos hforeign]
        exact follows_invalid _ _
      · obtain ⟨d', t', rfl, hd', hforeign'⟩ :
            ∃ d' t', t = d' :: t' ∧ ¬ isNameChar d' = true ∧ ¬ 0x7F < d'.toNat := by
          rcases h.cons_left with ⟨t', rfl, -⟩ | ⟨t', rfl⟩
          · exact ⟨d, t', rfl, hd, hforeign⟩
          · exact ⟨_, t', rfl, by decide, by decide⟩
        dsimp only
        rw [if_neg hd, if_neg hforeign, if_neg hd', if_neg hforeign']
        exact ih _ _
  · exact ih _ _

theorem follows_scanNameRow (shape : NameShape) (seen : Text) (h : Reflowed white s t) :
    Follows white (TokenFollows white) (scanNameRow shape seen s) (scanNameRow shape seen t) := by
  induction s generalizing shape seen t with
  | nil =>
    rw [h.nil_left]
    exact follows_found (.same _) .nil
  | cons c s ih =>
    by_cases hname : isNameChar c = true
    · obtain ⟨t, rfl, ht⟩ := hw.solid h (inert_nameChar c hname).1 (inert_nameChar c hname).2
      rw [scanNameRow_name hname, scanNameRow_name hname]
      exact ih _ _ ht
    by_cases hcolon : c = char ':'
    · subst hcolon
      obtain ⟨t, rfl, ht⟩ := hw.solid h rfl (by decide)
      exact follows_scanNameRow_colon hw shape seen ht (fun shape seen => ih shape seen ht)
    by_cases hends : endsWord ">),|[%" c = true
    · -- what ends the row is kept, or it is white space and stays white space
      obtain ⟨c', t', rfl, hends', hsame⟩ := head_end hw (by decide) h hends
      have hother : isNameChar c' = false ∧ c' ≠ char ':' := by
        rcases hsame with rfl | hspace
        · exact ⟨by simpa using hname, hcolon⟩
        · exact ⟨isNameChar_of_isBlank (isBlank_of_isSpace hspace), ne_of_isBlank (isBlank_of_isSpace hspace) rfl⟩
      rw [scanNameRow_end (by simpa using hname) hcolon hends, scanNameRow_end hother.1 hother.2 hends']
      exact follows_found (.same _) h
    rw [scanNameRow_mark hname hcolon hends]
    cases hoccurs : occurrenceOf? c with
    | none => exact follows_invalid _ _
    | some times =>
      dsimp only
      split
      · exact follows_invalid _ _
      · rename_i hshape
        obtain ⟨hsolid, htag⟩ := isWord_occurrence hoccurs
        obtain ⟨t, rfl, ht⟩ := hw.solid h hsolid htag
        rw [scanNameRow_mark hname hcolon hends, hoccurs]
        dsimp only
        rw [if_neg hshape]
        exact follows_found (.same _) ht

/-! ## All tokens -/

omit hw in
theorem scanProlog_space {c : CodePoint} (hspace : isSpace c = true) (rest : Text) :
    scanProlog c rest = .found .space (skipSpace rest) := by
  have hother : ∀ {d : CodePoint}, d.isBlank = false → c ≠ d :=
    fun hd => ne_of_isBlank (isBlank_of_isSpace hspace) hd
  unfold scanProlog
  rw [if_neg (by simp [hother (d := char '"') rfl, hother (d := char '\'') rfl]), if_neg (hother rfl), if_pos hspace]

omit hw in
/-- White space that XML does not know begins no token. -/
theorem scanProlog_blank {c : CodePoint} (hblank : c.isBlank = true) (hspace : isSpace c = false) (rest : Text) :
    scanProlog c rest = .invalid (c :: rest) := by
  have hother : ∀ {d : CodePoint}, d.isBlank = false → c ≠ d := fun hd => ne_of_isBlank hblank hd
  have hname := isNameChar_of_isBlank hblank
  have hstart : isNameStart c = false := by
    cases hstart : isNameStart c with
    | false => rfl
    | true =>
      rw [isNameChar_of_isNameStart hstart] at hname
      cases hname
  unfold scanProlog
  simp only [hother (d := char '"') rfl, hother (d := char '\'') rfl, hother (d := char '<') rfl, hspace,
    hother (d := char '%') rfl, hother (d := char ',') rfl, hother (d := char '[') rfl, hother (d := char ']') rfl,
    hother (d := char '(') rfl, hother (d := char ')') rfl, hother (d := char '|') rfl, hother (d := char '>') rfl,
    hother (d := char '#') rfl, hother (d := char ':') rfl, hname, hstart]
  rfl

theorem follows_closeBracket (h : Reflowed white s t) :
    Follows white (TokenFollows white) (scanProlog (char ']') s) (scanProlog (char ']') t) := by
  cases s with
  | nil =>
    rw [h.nil_left]
    exact follows_found (.same _) .nil
  | cons d more =>
    by_cases hd : d = char ']'
    · subst hd
      obtain ⟨more', rfl, hmore⟩ := hw.solid h rfl (by decide)
      cases more with
      | nil => exact follows_cut _
      | cons e more =>
        by_cases he : e = char '>'
        · subst he
          obtain ⟨after', rfl, hafter⟩ := hw.solid hmore rfl (by decide)
          exact follows_found (.same _) hafter
        · obtain ⟨e', after', rfl, he'⟩ := head_mark hw (d := char '>') hmore rfl (by decide) he
          rw [scanProlog_brackets, if_neg he, scanProlog_brackets, if_neg he']
          exact follows_found (.same _) h
    · obtain ⟨d', more', rfl, hd'⟩ := head_mark hw (d := char ']') h rfl (by decide) hd
      rw [scanProlog_bracket hd, scanProlog_bracket hd']
      exact follows_found (.same _) h

theorem follows_closeParen (h : Reflowed white s t) :
    Follows white (TokenFollows white) (scanProlog (char ')') s) (scanProlog (char ')') t) := by
  cases s with
  | nil =>
    rw [h.nil_left]
    exact follows_found (.same _) .nil
  | cons d more =>
    rw [scanProlog_paren]
    cases hoccurs : occurrenceOf? d with
    | some times =>
      obtain ⟨hsolid, htag⟩ := isWord_occurrence hoccurs
      obtain ⟨more', rfl, hmore⟩ := hw.solid h hsolid htag
      rw [scanProlog_paren, hoccurs]
      exact follows_found (.same _) hmore
    | none =>
      dsimp only
      split
      · rename_i hends
        obtain ⟨d', more', rfl, hends', hsame⟩ := head_end hw (by decide) h hends
        have hoccurs' : occurrenceOf? d' = none := by
          rcases hsame with rfl | hspace
          · exact hoccurs
          · cases htimes : occurrenceOf? d' with
            | none => rfl
            | some times =>
              rw [isSpace_of_solid (isWord_occurrence htimes).1] at hspace
              cases hspace
        rw [scanProlog_paren, hoccurs']
        dsimp only
        rw [if_pos hends']
        exact follows_found (.same _) h
      · exact follows_invalid _ _

/-- A token that begins with a solid character other than `<`. -/
theorem follows_scanProlog {c : CodePoint} (hsolid : c.isBlank = false) (htag : c ≠ char '<') (h : Reflowed white s t) :
    Follows white (TokenFollows white) (scanProlog c s) (scanProlog c t) := by
  have hscanner := scanner_scanProlog htag
  generalize scanProlog c = scan at hscanner
  cases hscanner with
  | literal => exact follows_scanLiteral hw (by simpa [IsWord] using ⟨hsolid, htag⟩) h
  | space hspace =>
    rw [isSpace_of_solid hsolid] at hspace
    cases hspace
  | percent => exact follows_scanPercent hw h
  | mark token => exact follows_found (.same token) h
  | closeBracket => exact follows_closeBracket hw h
  | closeParen => exact follows_closeParen hw h
  | poundName => exact follows_scanPoundName hw h
  | nameRow shape => exact follows_scanNameRow hw shape _ h
  | none => exact follows_invalid _ _

omit hw in
theorem scanProlog_other {d : CodePoint} (hdeclaration : d ≠ char '!') (hinstruction : d ≠ char '?') (more : Text) :
    scanProlog (char '<') (d :: more) =
      if d.isAsciiLetter || d = char '_' || 0x7F < d.toNat then .found .elementStart (char '<' :: d :: more)
      else .invalid (d :: more) :=
  (if_neg hdeclaration).trans (if_neg hinstruction)

omit hw in
/-- A `<` that looks like the start of an element but has no name behind it. -/
theorem doomed_tag {d : CodePoint} (hdeclaration : d ≠ char '!') (hinstruction : d ≠ char '?') (hend : d ≠ char '/')
    (hstart : isNameStart d = false) (more : Text) : Doomed (char '<' :: d :: more) := by
  refine ⟨_, _, rfl, ?_⟩
  intro token after hfound
  rw [scanProlog_other hdeclaration hinstruction] at hfound
  have hpiece : nextPiece (char '<') (d :: more) = .error (.malformed .invalidToken (d :: more)) := by
    show markup (char '<' :: d :: more) (d :: more) = _
    rw [markup.eq_def]
    simp only [if_neg hdeclaration, if_neg hinstruction, if_neg hend, scanStartTag, scanQualifiedName, scanName, hstart]
    rfl
  rw [hpiece]
  split at hfound
  · cases hfound
    exact ⟨rfl, fun _ _ hok => by cases hok⟩
  · cases hfound

/-- Where both texts begin with a `<`, so do the tokens, unless no element and no declaration begins there. -/
theorem leads_tag (h : Reflowed white s t) :
    Leads white (char '<' :: s) (scanProlog (char '<') s) (scanProlog (char '<') t) := by
  cases s with
  | nil => exact (follows_cut _).leads
  | cons d more =>
    by_cases hdeclaration : d = char '!'
    · subst hdeclaration
      obtain ⟨more', rfl, hmore⟩ := hw.solid h rfl (by decide)
      exact leads_scanDeclaration hw _ hmore
    by_cases hinstruction : d = char '?'
    · subst hinstruction
      obtain ⟨more', rfl, hmore⟩ := hw.solid h rfl (by decide)
      exact ((follows_scanInstruction hw hmore).map fun kind kind' heq => .of_eq (by rw [heq])).leads
    rw [scanProlog_other hdeclaration hinstruction]
    split
    · rename_i hletter
      by_cases hstart : isNameStart d = true
      · obtain ⟨more', rfl, hmore⟩ := hw.solid h (inert_nameStart d hstart).1 (inert_nameStart d hstart).2
        rw [scanProlog_other hdeclaration hinstruction, if_pos hletter]
        exact (follows_found (.same _) (h.cons _)).leads
      · intro token after hfound
        cases hfound
        have hend : d ≠ char '/' := by
          rintro rfl
          exact absurd hletter (by decide)
        exact Or.inl (Or.inl (doomed_tag hdeclaration hinstruction hend (by simpa using hstart) more))
    · exact (follows_invalid _ _).leads

omit hw in
theorem Stuck.doomed (h : Stuck s) : Doomed s := by
  obtain ⟨c, rest, rfl, hblank, hspace⟩ := h
  refine ⟨c, rest, rfl, ?_⟩
  intro token after hfound
  rw [scanProlog_blank hblank hspace] at hfound
  cases hfound

/-- The token at the start of a text is that of the reflowed text, unless no document goes on there, or a tag has been
moved to a line of its own. -/
theorem scanProlog_cases {c : CodePoint} (h : Reflowed white (c :: s) t) {token : PrologToken} {after : Text}
    (hfound : scanProlog c s = .found token after) :
    (Doomed (c :: s) ∨ token ≠ .elementStart ∧ Doomed after) ∨
      (∃ c' t' token' after', t = c' :: t' ∧ scanProlog c' t' = .found token' after' ∧ TokenFollows white token token' ∧
        Reflowed white after after') ∨
      ∃ n t', t = CodePoint.newline :: (Text.spaces n ++ char '<' :: t') ∧ c = char '<' ∧
        Reflowed white (c :: s) (char '<' :: t') := by
  by_cases htag : c = char '<'
  · subst htag
    -- a tag stays where it was, or it has been moved to a line of its own
    obtain ⟨t', hrest, rfl | ⟨n, rfl⟩⟩ := h.tag_left (hw.eq_false rfl)
    · rcases leads_tag hw hrest token after hfound with hdoomed | ⟨token', after', hfound', hfollows⟩
      · exact Or.inl hdoomed
      · exact Or.inr (Or.inl ⟨_, t', token', after', rfl, hfound', hfollows⟩)
    · exact Or.inr (Or.inr ⟨n, t', rfl, rfl, hrest.cons _⟩)
  cases hblank : c.isBlank with
  | false =>
    obtain ⟨t', rfl, ht'⟩ := hw.solid h hblank htag
    obtain ⟨token', after', hfound', hfollows⟩ := follows_scanProlog hw hblank htag ht' token after hfound
    exact Or.inr (Or.inl ⟨c, t', token', after', rfl, hfound', hfollows⟩)
  | true =>
    cases hspace : isSpace c with
    | false =>
      rw [scanProlog_blank hblank hspace] at hfound
      cases hfound
    | true =>
      rw [scanProlog_space hspace] at hfound
      cases hfound
      obtain ⟨c', t', rfl, hspace'⟩ := head_space h hspace
      rcases hw.skipSpace h with hstuck | hskip
      · rw [skipSpace_space hspace] at hstuck
        exact Or.inl (Or.inr ⟨by rintro ⟨⟩, hstuck.doomed⟩)
      · rw [skipSpace_space hspace, skipSpace_space hspace'] at hskip
        exact Or.inr (Or.inl ⟨c', t', .space, _, rfl, scanProlog_space hspace' t', .same _, hskip⟩)

end Ends

end Tidy.Xml
