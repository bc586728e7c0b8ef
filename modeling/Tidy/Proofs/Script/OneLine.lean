/-
# Tidy.Proofs.Script.OneLine -- which scripts keep their tokens on one line

Minifying a script writes its white space as single spaces, wherever it stands. Three kinds of tokens feel that: a
token with other white space inside is spelled differently afterwards; a line comment, which a line feed ended before,
goes on to the end of the script; and a quote without a partner on its line finds one further on. `Steady` says that
none of this happens, and is shown to be exactly what the tokens need.

The proof goes token by token along the script. What stands behind a token is squeezed in the same way (`squeezed`), so
one step compares the first token of a text with the first token of the squeezed text.
-/

import Mathlib.Data.List.TakeWhile
import Tidy.Proofs.Minify
import Tidy.Proofs.Script.Readback
import Tidy.Proofs.Text.Enclosed

namespace Tidy.Text

open CodePoint (char)

/-! ## Closing marks in squeezed texts -/

/-- Steps that forget what came before white space. -/
def Forgets (step : Bool → CodePoint → Option Bool) : Prop :=
  ∀ st c, c.isBlank = true → step st c = some false

theorem forgets_inString {quote : CodePoint} (h : quote.isBlank = false) : Forgets (inString quote) := by
  intro st c hc
  cases st with
  | true => exact inString_escaped
  | false =>
    refine inString_plain ?_ ?_
    · rintro rfl
      rw [h] at hc
      cases hc
    · rintro rfl
      cases hc

theorem forgets_inComment : Forgets inComment := by
  intro st c hc
  have hslash : c ≠ char '/' := by
    rintro rfl
    cases hc
  have hstar : c ≠ char '*' := by
    rintro rfl
    cases hc
  rw [inComment_other hslash, decide_eq_false hstar]

theorem Forgets.foldlM_blank {step : Bool → CodePoint → Option Bool} (h : Forgets step) {t : Text}
    (ht : isBlank t = true) (st : Bool) : (t.foldlM step st).isSome = true := by
  induction t generalizing st with
  | nil => rfl
  | cons c t ih =>
    obtain ⟨hc, hrest⟩ := List.forall_mem_cons.mp (List.all_eq_true.mp ht)
    rw [foldlM_cons_some (h st c hc)]
    exact ih (List.all_eq_true.mpr hrest) false

/-- One space is as good as any run of white space. -/
theorem Forgets.foldlM_collapseFrom {step : Bool → CodePoint → Option Bool} (h : Forgets step) {inRun st : Bool}
    (hst : inRun = true → st = false) (t : Text) : (collapseFrom inRun t).foldlM step st = t.foldlM step st := by
  induction t generalizing inRun st with
  | nil => rfl
  | cons c t ih =>
    rw [collapseFrom]
    cases hc : c.isBlank with
    | true =>
      rw [if_pos rfl, foldlM_cons_some (h st c hc)]
      cases inRun with
      | true =>
        obtain rfl := hst rfl
        exact ih fun _ => rfl
      | false =>
        rw [if_neg Bool.false_ne_true, foldlM_cons_some (h st _ rfl)]
        exact ih fun _ => rfl
    | false =>
      rw [if_neg Bool.false_ne_true, List.foldlM_cons, List.foldlM_cons]
      congr 1
      funext st'
      exact ih fun hrun => by cases hrun

theorem Forgets.isSome_foldlM_squeezed {step : Bool → CodePoint → Option Bool} (h : Forgets step) (t : Text)
    (st : Bool) : ((squeezed t).foldlM step st).isSome = (t.foldlM step st).isSome := by
  obtain ⟨tail, htail, ht⟩ := exists_trimEnd (collapse t)
  have hcollapse : (collapse t).foldlM step st = t.foldlM step st :=
    h.foldlM_collapseFrom (fun hrun => by cases hrun) t
  have hends : (collapse t).foldlM step st = (squeezed t).foldlM step st >>= tail.foldlM step := by
    rw [← List.foldlM_append, squeezed, ← ht]
  rw [← hcollapse, hends]
  cases (squeezed t).foldlM step st with
  | none => rfl
  | some st' => exact (h.foldlM_blank htail st').symm

theorem readStringEnd?_oneLine {quote : CodePoint} {t : Text} (h : CodePoint.newline ∉ t) (oneLine : Bool) :
    readStringEnd? quote oneLine t = readStringEnd? quote false t := by
  fun_induction readStringEnd? quote false t with
  | case1 => rfl
  | case2 tail => rw [readStringEnd?.eq_def]; exact if_pos rfl
  | case3 hquote => rw [readStringEnd?, if_neg hquote, if_pos rfl]
  | case4 d tail hquote ih =>
    rw [readStringEnd?, if_neg hquote, if_pos rfl, ih fun hmem => h (by simp [hmem])]
  | case5 c tail hquote hslash hline => cases hline
  | case6 c tail hquote hslash hline ih =>
    obtain ⟨hc, htail⟩ := not_or.mp (mt List.mem_cons.mpr h)
    rw [readStringEnd?.eq_def]
    dsimp only
    rw [if_neg hquote, if_neg hslash, if_neg, ih htail]
    simp [Ne.symm hc]

/-- A quote finds its partner in a squeezed text exactly if it finds one, maybe on another line, in the text. -/
theorem readStringEnd?_squeezed_eq_none_iff {quote : CodePoint} (h : quote.isBlank = false) (oneLine : Bool)
    (t : Text) : readStringEnd? quote oneLine (squeezed t) = none ↔ readStringEnd? quote false t = none := by
  rw [readStringEnd?_oneLine (singleSpaced_squeezed t).newline_notMem, readStringEnd?_eq_none_iff,
    readStringEnd?_eq_none_iff, (forgets_inString h).isSome_foldlM_squeezed]

theorem readCommentEnd?_squeezed_eq_none_iff (t : Text) :
    readCommentEnd? (squeezed t) = none ↔ readCommentEnd? t = none := by
  rw [readCommentEnd?_eq_none_iff, readCommentEnd?_eq_none_iff, forgets_inComment.isSome_foldlM_squeezed]

end Tidy.Text

namespace Tidy.Script

open CodePoint (char)
open Text (squeezed SingleSpaced)

namespace Token

/-! ## The first token of a squeezed text -/

theorem squeezed_of_isBlank {d : CodePoint} (hd : d.isBlank = true) (more : Text) :
    squeezed (d :: more) = [] ∨ ∃ r, squeezed (d :: more) = char ' ' :: r := by
  cases hmore : Text.isBlank more with
  | true => exact Or.inl (Text.squeezed_blank (by rw [Text.isBlank, List.all_cons, hd]; exact hmore))
  | false => exact Or.inr ⟨_, Text.squeezed_gap hd hmore⟩

/-- A kind that white space is not of is not found at the start of a squeezed text, unless it was there before. -/
theorem startsOutside_squeezed {kind : CodePoint → Bool} (hspace : kind (char ' ') = false) {rest : Text}
    (h : StartsOutside kind rest) : StartsOutside kind (squeezed rest) := by
  cases rest with
  | nil => exact h
  | cons d more =>
    cases hd : d.isBlank with
    | true =>
      rcases squeezed_of_isBlank hd more with hnil | ⟨r, hr⟩
      · rw [hnil]
        rintro c ⟨⟩
      · rw [hr]
        exact startsOutside_cons hspace r
    | false =>
      rw [Text.squeezed_cons hd]
      exact startsOutside_cons (h d rfl) _

theorem head?_squeezed {e : CodePoint} (he : e.isBlank = false) (rest : Text) :
    (squeezed rest).head? = some e ↔ rest.head? = some e := by
  cases rest with
  | nil => rfl
  | cons d more =>
    cases hd : d.isBlank with
    | true =>
      have hde : d ≠ e := by
        rintro rfl
        rw [he] at hd
        cases hd
      have hspace : char ' ' ≠ e := by
        rintro rfl
        cases he
      rcases squeezed_of_isBlank hd more with hnil | ⟨r, hr⟩
      · simp [hnil, hde]
      · simp [hr, hde, hspace]
    | false => rw [Text.squeezed_cons hd]; rfl

/-- An operator looks no further than two code points, and takes no white space. -/
theorem operatorAt_squeezed (c : CodePoint) (rest : Text) :
    operatorAt c (squeezed rest) = ((operatorAt c rest).1, squeezed (operatorAt c rest).2) := by
  cases rest with
  | nil => rfl
  | cons d more =>
    cases hd : d.isBlank with
    | true =>
      -- white space ends the operator, in the squeezed text as well
      have houtside : StartsOutside isOperatorChar (d :: more) := startsOutside_cons (by
        cases hoperator : isOperatorChar d with
        | false => rfl
        | true =>
          simp only [isOperatorChar, Bool.or_eq_true, decide_eq_true_eq] at hoperator
          rcases hoperator with ((((((rfl | rfl) | rfl) | rfl) | rfl) | rfl) | rfl) | rfl <;> cases hd) more
      rw [operatorAt_single houtside, operatorAt_single (startsOutside_squeezed rfl houtside)]
    | false =>
      rw [Text.squeezed_cons hd]
      simp only [operatorAt, head?_squeezed (e := char '=') rfl more]
      split
      · rfl
      · split
        · rename_i hthree
          cases more with
          | nil => cases hthree.2.2
          | cons e more =>
            obtain rfl : e = char '=' := by
              have he := hthree.2.2
              injection he
            rw [Text.squeezed_cons rfl]
            rfl
        · split
          · rfl
          · rw [Text.squeezed_cons hd]

theorem comment?_squeezed_eq_none {rest : Text} (h : comment? rest = none) : comment? (squeezed rest) = none := by
  cases rest with
  | nil => rfl
  | cons d more =>
    cases hd : d.isBlank with
    | true =>
      rcases squeezed_of_isBlank hd more with hnil | ⟨r, hr⟩
      · rw [hnil]
        rfl
      · rw [hr]
        rfl
    | false =>
      rw [Text.squeezed_cons hd]
      rw [comment?] at h ⊢
      split at h
      · cases h
      · split at h
        · rename_i hslash hstar
          rw [Option.map_eq_none_iff] at h
          rw [if_neg hslash, if_pos hstar, Option.map_eq_none_iff]
          exact (Text.readCommentEnd?_squeezed_eq_none_iff more).mpr h
        · rename_i hslash hstar
          rw [if_neg hslash, if_neg hstar]

/-- What a token that is an operator says of the code point it starts with: no comment starts there. -/
theorem operator_of_isOperator {c : CodePoint} {rest : Text} (h : (next c rest).1.isOperator = true) :
    isOperatorChar c = true ∧ (c = char '/' → comment? rest = none) := by
  have hnext := next_spec c rest
  generalize next c rest = found at h hnext
  obtain ⟨t, more⟩ := found
  dsimp only at h hnext
  cases hnext with
  | operator hc _ hcomment => exact ⟨hc, hcomment⟩
  | _ => cases h

/-- An operator is found again before what is squeezed behind it. -/
theorem next_squeezed_operator {c : CodePoint} {rest : Text} (h : (next c rest).1.isOperator = true) :
    next c (squeezed rest) = ((next c rest).1, squeezed (next c rest).2) := by
  obtain ⟨hc, hcomment⟩ := operator_of_isOperator h
  have hnone : (if c = char '/' then comment? rest else none) = none := by
    split
    · rename_i hslash
      exact hcomment hslash
    · rfl
  have hsqueezed : (if c = char '/' then comment? (squeezed rest) else none) = none := by
    split
    · rename_i hslash
      exact comment?_squeezed_eq_none (hcomment hslash)
    · rfl
  rw [next_operatorChar hc, next_operatorChar hc, hnone, hsqueezed, Option.getD_none, Option.getD_none,
    operatorAt_squeezed]

theorem isGap_next {c : CodePoint} (hc : c.isBlank = false) (rest : Text) : (next c rest).1.isGap = false := by
  have hspelled := spelled_next c rest
  have hsound := next_sound c rest
  generalize (next c rest).1 = t at hspelled hsound
  cases hspelled with
  | @gap w hne hblank =>
    cases w with
    | nil => exact absurd rfl hne
    | cons d w =>
      rw [text, List.cons_append, List.cons.injEq] at hsound
      rw [Text.isBlank, List.all_cons, ← hsound.1, hc] at hblank
      cases hblank
  | _ => rfl

/-- The first token, if it ends with something solid, is spelled in the squeezed text as well. -/
theorem squeezed_next {c : CodePoint} {rest : Text} (hends : Text.EndsSolid (next c rest).1.text)
    (hspaced : SingleSpaced (next c rest).1.text) :
    squeezed (c :: rest) = (next c rest).1.text ++ squeezed (next c rest).2 := by
  rw [next_sound c rest, Text.squeezed_append hspaced hends]

/-- Is the token one that may end differently on one line: a line comment or a quote without a partner? -/
def isOpenEnded : Token → Bool
  | lineComment _ => true
  | strayQuote _ => true
  | _ => false

/-- Any other token is found again, as long as its white space is single spaces. -/
theorem all_squeezed {c : CodePoint} {rest : Text} (hc : c.isBlank = false)
    (hends : (next c rest).1.isOpenEnded = false) (hspaced : SingleSpaced (next c rest).1.text) :
    all (squeezed (c :: rest)) = (next c rest).1 :: all (squeezed (next c rest).2) := by
  have hgap := isGap_next hc rest
  have hsolid := solid_next c rest hgap
  have hspelled := spelled_next c rest
  have hshown : (next c rest).1.shown = (next c rest).1.text := by
    generalize (next c rest).1 = t at hends
    cases t with
    | lineComment => cases hends
    | _ => rfl
  have hsqueezed := squeezed_next (hshown ▸ hsolid.ends) hspaced
  have hread : (next c rest).1.isOperator = false → (next c rest).1.ReadBefore (squeezed (next c rest).2) := by
    intro hoperator
    have hword : (next c rest).1.isWord = true → StartsOutside isWordPart (squeezed (next c rest).2) :=
      fun h => startsOutside_squeezed rfl (startsOutside_of_isWord h)
    generalize (next c rest).1 = t at hgap hends hspelled hoperator hword
    have hstands : t.StandsBefore (squeezed (next c rest).2) := by
      cases t with
      | gap => cases hgap
      | lineComment => cases hends
      | operator => cases hoperator
      | word => exact hword rfl
      | strayQuote => cases hends
      | _ => trivial
    have htrimmed : t.trimmed = t := by
      cases t with
      | lineComment => cases hends
      | _ => rfl
    rw [← htrimmed]
    exact hspelled.readBefore hstands
  -- an operator may grow by what follows it; every other token is read as it is spelled
  cases hoperator : (next c rest).1.isOperator with
  | false => rw [hsqueezed, (hread hoperator).all_eq]
  | true =>
    rw [Text.squeezed_cons hc, all, next_squeezed_operator hoperator]

/-! ## White space, line comments and stray quotes -/

/-- White space at the start is one token, and what stands behind it starts with something solid. -/
theorem all_of_isBlank {c : CodePoint} (hc : c.isBlank = true) (rest : Text) :
    ∃ w, all (c :: rest) = gap w :: all (Text.trimStart rest) := by
  rw [all, next, isQuote_of_isBlank hc, if_neg Bool.false_ne_true, if_pos hc]
  exact ⟨_, rfl⟩

theorem isBlank_of_gaps {rest : Text} (h : ∀ t ∈ all rest, t.isGap = true) : Text.isBlank rest = true := by
  rw [Text.isBlank, ← flatMap_text_all rest, List.all_eq_true]
  intro c hc
  obtain ⟨t, ht, hct⟩ := List.mem_flatMap.mp hc
  have hgap := h t ht
  have hspelled := spelled_of_mem_all ht
  cases hspelled with
  | gap hne hblank => exact List.all_eq_true.mp hblank c hct
  | _ => cases hgap

/-- A line comment goes on to the end of a text without line feeds. -/
theorem all_lineComment {t : Text} (h : CodePoint.newline ∉ t) :
    all (char '/' :: char '/' :: t) = [lineComment (char '/' :: char '/' :: t)] := by
  have hall : ∀ c ∈ t, decide (c ≠ CodePoint.newline) = true := by
    intro c hc
    apply decide_eq_true
    rintro rfl
    exact h hc
  have hnext : next (char '/') (char '/' :: t) = (lineComment (char '/' :: char '/' :: t), []) := by
    rw [next_operatorChar rfl, if_pos rfl, comment?, if_pos rfl, Option.getD_some, List.takeWhile_eq_self_iff.mpr hall,
      List.dropWhile_eq_nil_iff.mpr hall]
  rw [all, hnext, all]

end Token

/-! ## Steady scripts -/

/-- What the tokens of a script must be like if they are to stay the same on one line. -/
def Steady : List Token → Prop
  | [] => True
  | .gap _ :: rest => Steady rest
  | .lineComment t :: rest => SingleSpaced (Text.trimEnd t) ∧ ∀ u ∈ rest, u.isGap = true
  | .strayQuote q :: rest => Text.readStringEnd? q false (rest.flatMap Token.text) = none ∧ Steady rest
  | t :: rest => SingleSpaced t.text ∧ Steady rest

/-- The tokens of a script but the white space. -/
def solidTokens (source : Text) : List Token :=
  (Token.all source).filter (!·.isGap)

theorem steady_cons {t : Token} (hgap : t.isGap = false) (hends : t.isOpenEnded = false) (rest : List Token) :
    Steady (t :: rest) ↔ SingleSpaced t.text ∧ Steady rest := by
  cases t with
  | gap => cases hgap
  | lineComment => cases hends
  | strayQuote => cases hends
  | _ => rfl

theorem solidTokens_cons {c : CodePoint} {rest : Text} (hgap : (Token.next c rest).1.isGap = false) :
    solidTokens (c :: rest) = (Token.next c rest).1 :: solidTokens (Token.next c rest).2 := by
  rw [solidTokens, Token.all, List.filter_cons_of_pos (by rw [hgap]; rfl)]
  rfl

/-- A token of a squeezed text has single spaces only. -/
theorem singleSpaced_of_mem {source : Text} {t : Token} (h : t ∈ solidTokens (squeezed source)) :
    SingleSpaced t.text := by
  obtain ⟨before, after, hall⟩ := List.append_of_mem (List.mem_of_mem_filter h)
  refine (Text.singleSpaced_squeezed source).part ⟨before.flatMap Token.text, after.flatMap Token.text, ?_⟩
  rw [← Token.flatMap_text_all (squeezed source), hall]
  simp

theorem solidTokens_eq_nil_iff (source : Text) :
    solidTokens source = [] ↔ ∀ t ∈ Token.all source, t.isGap = true := by
  simp [solidTokens, List.filter_eq_nil_iff]

/-- White space at the start is one gap, if there is any. -/
theorem all_trimStart (source : Text) : Token.all source = Token.all (Text.trimStart source) ∨
    ∃ w, Token.all source = .gap w :: Token.all (Text.trimStart source) := by
  cases source with
  | nil => exact Or.inl rfl
  | cons c rest =>
    cases hc : c.isBlank with
    | false => exact Or.inl (by rw [Text.trimStart_of_startsSolid (Text.startsSolid_of_head rfl hc)])
    | true =>
      have htrim : Text.trimStart (c :: rest) = Text.trimStart rest := List.dropWhile_cons_of_pos hc
      rw [htrim]
      exact Or.inr (Token.all_of_isBlank hc rest)

/-- White space at the start is no solid token. -/
theorem solidTokens_trimStart (source : Text) : solidTokens (Text.trimStart source) = solidTokens source := by
  rcases all_trimStart source with hall | ⟨w, hall⟩
  · rw [solidTokens, solidTokens, hall]
  · rw [solidTokens, solidTokens, hall]
    rfl

theorem steady_trimStart (source : Text) : Steady (Token.all (Text.trimStart source)) ↔ Steady (Token.all source) := by
  rcases all_trimStart source with hall | ⟨w, hall⟩
  · rw [hall]
  · rw [hall]
    rfl

/-- Squeezing puts one space for white space at the start, or nothing. -/
theorem solidTokens_squeezed_trimStart (source : Text) :
    solidTokens (squeezed (Text.trimStart source)) = solidTokens (squeezed source) := by
  cases source with
  | nil => rfl
  | cons c rest =>
    cases hc : c.isBlank with
    | false => rw [Text.trimStart_of_startsSolid (Text.startsSolid_of_head rfl hc)]
    | true =>
      have htrim : Text.trimStart (c :: rest) = Text.trimStart rest := List.dropWhile_cons_of_pos hc
      rw [htrim]
      cases hrest : Text.isBlank rest with
      | true =>
        have hblank : Text.isBlank (c :: rest) = true := by rw [Text.isBlank, List.all_cons, hc]; exact hrest
        rw [(Text.trimStart_eq_nil_iff rest).mpr hrest, Text.squeezed_blank hblank]
        rfl
      | false =>
        have hstart := Text.startsSolid_squeezed (Text.startsSolid_trimStart rest)
        rw [Text.squeezed_gap hc hrest, ← solidTokens_trimStart (char ' ' :: _)]
        exact congrArg solidTokens (Text.trimStart_of_startsSolid hstart).symm

/-- A token that is not open-ended stays if its white space is single spaces. -/
theorem kept_plain_iff {c : CodePoint} {rest : Text} (hc : c.isBlank = false)
    (hends : (Token.next c rest).1.isOpenEnded = false) (tokens : List Token) :
    solidTokens (squeezed (c :: rest)) = (Token.next c rest).1 :: tokens ↔
      SingleSpaced (Token.next c rest).1.text ∧ solidTokens (squeezed (Token.next c rest).2) = tokens := by
  have hgap := Token.isGap_next hc rest
  have hstep : SingleSpaced (Token.next c rest).1.text →
      solidTokens (squeezed (c :: rest)) = (Token.next c rest).1 :: solidTokens (squeezed (Token.next c rest).2) := by
    intro hspaced
    rw [solidTokens, Token.all_squeezed hc hends hspaced, List.filter_cons_of_pos (by rw [hgap]; rfl)]
    rfl
  constructor
  · intro h
    have hspaced : SingleSpaced (Token.next c rest).1.text := by
      have hmem : (Token.next c rest).1 ∈ solidTokens (squeezed (c :: rest)) := by
        rw [h]
        exact List.mem_cons_self
      exact singleSpaced_of_mem hmem
    rw [hstep hspaced, List.cons.injEq] at h
    exact ⟨hspaced, h.2⟩
  · rintro ⟨hspaced, rfl⟩
    exact hstep hspaced

/-- A line comment stays if its white space is single spaces and nothing but white space follows it. -/
theorem kept_lineComment_iff (inside more : Text) :
    solidTokens (squeezed (char '/' :: char '/' :: (inside ++ more))) =
        Token.lineComment (Text.trimEnd (char '/' :: char '/' :: inside)) :: (solidTokens more).map Token.trimmed ↔
      SingleSpaced (Text.trimEnd (char '/' :: char '/' :: inside)) ∧ ∀ u ∈ Token.all more, u.isGap = true := by
  have hline : CodePoint.newline ∉ squeezed (inside ++ more) := (Text.singleSpaced_squeezed _).newline_notMem
  have htokens : solidTokens (squeezed (char '/' :: char '/' :: (inside ++ more))) =
      [Token.lineComment (char '/' :: char '/' :: squeezed (inside ++ more))] := by
    rw [Text.squeezed_cons rfl, Text.squeezed_cons rfl, solidTokens, Token.all_lineComment hline]
    rfl
  rw [htokens, Token.trimEnd_lineComment, Text.singleSpaced_cons_solid rfl, Text.singleSpaced_cons_solid rfl,
    List.cons.injEq, eq_comm (a := []), List.map_eq_nil_iff, solidTokens_eq_nil_iff]
  refine and_congr_left ?_
  intro hgaps
  rw [Text.squeezed_append_blank (Token.isBlank_of_gaps hgaps), ← Text.collapse_eq_self_iff, Text.collapse_trimEnd]
  simp [Text.squeezed]

/-- A stray quote stays if it does not find a partner further on. -/
theorem kept_strayQuote_iff {q : CodePoint} (hq : Token.isQuote q = true) (rest : Text) (tokens : List Token) :
    solidTokens (squeezed (q :: rest)) = Token.strayQuote q :: tokens ↔
      Text.readStringEnd? q false rest = none ∧ solidTokens (squeezed rest) = tokens := by
  have hsolid := Token.isBlank_quote hq
  rw [Text.squeezed_cons hsolid, solidTokens, Token.all, Token.next, if_pos hq,
    ← Text.readStringEnd?_squeezed_eq_none_iff hsolid (q ≠ char '`')]
  cases Text.readStringEnd? q (q ≠ char '`') (squeezed rest) with
  | none => simp [solidTokens, Token.isGap]
  | some found => simp [Token.isGap]

theorem solidTokens_nil : solidTokens [] = [] := by
  rw [solidTokens, Token.all]
  rfl

/-- The tokens of a text stay the same when it is squeezed exactly if they are steady. -/
theorem solidTokens_squeezed_iff (source : Text) :
    solidTokens (squeezed source) = (solidTokens source).map Token.trimmed ↔ Steady (Token.all source) := by
  fun_induction Token.all source with
  | case1 =>
    have hnone : squeezed [] = [] := rfl
    rw [hnone, solidTokens_nil]
    exact ⟨fun _ => trivial, fun _ => rfl⟩
  | case2 c rest ih =>
    cases hc : c.isBlank with
    | true =>
      -- white space: the text behind it decides
      have hnext : Token.next c rest = (.gap (c :: rest.takeWhile CodePoint.isBlank), Text.trimStart rest) := by
        rw [Token.next, Token.isQuote_of_isBlank hc, if_neg Bool.false_ne_true, if_pos hc]
        rfl
      have htrim : Text.trimStart (c :: rest) = Text.trimStart rest := List.dropWhile_cons_of_pos hc
      rw [hnext] at ih ⊢
      rw [← solidTokens_squeezed_trimStart, ← solidTokens_trimStart (c :: rest), htrim]
      exact ih
    | false =>
      have hgap := Token.isGap_next hc rest
      have hspelled := Token.spelled_next c rest
      have hsound := Token.next_sound c rest
      rw [solidTokens_cons hgap, List.map_cons]
      cases hends : (Token.next c rest).1.isOpenEnded with
      | false =>
        have htrimmed : (Token.next c rest).1.trimmed = (Token.next c rest).1 := by
          generalize (Token.next c rest).1 = t at hends
          cases t with
          | lineComment => cases hends
          | _ => rfl
        rw [htrimmed, kept_plain_iff hc hends, steady_cons hgap hends, ih]
      | true =>
        generalize (Token.next c rest).1 = t at hspelled hsound hends
        generalize (Token.next c rest).2 = more at ih hsound
        cases hspelled with
        | @lineComment inside hline =>
          rw [hsound]
          exact kept_lineComment_iff inside more
        | @strayQuote q hq =>
          have hmore : (Token.all more).flatMap Token.text = more := Token.flatMap_text_all more
          rw [hsound, Steady, hmore, ← ih]
          exact kept_strayQuote_iff hq more _
        | _ => cases hends

/-! ## Minified scripts -/

/-- A minified script is squeezed, without white space at its start. -/
theorem minify_eq_squeezed (fallback : Bool) (source : Text) :
    Engine.minify .typescript fallback source = squeezed (Text.trimStart source) := by
  cases h : source.isBlank with
  | true =>
    rw [Engine.minify_blank .typescript fallback h, (Text.trimStart_eq_nil_iff source).mpr h]
    rfl
  | false =>
    rw [Engine.minify_text (by decide) fallback h, Engine.minifyText, Text.trim, ← Text.collapse_trimStart]
    rfl

/-- A minified script has the tokens of the script, line comments trimmed, exactly if these are steady. -/
theorem minify_keeps_tokens_iff (fallback : Bool) (source : Text) :
    (Token.all (Engine.minify .typescript fallback source)).filter (!·.isGap) =
        ((Token.all source).filter (!·.isGap)).map Token.trimmed ↔
      Steady (Token.all source) := by
  have htokens := solidTokens_squeezed_iff (Text.trimStart source)
  rw [solidTokens_trimStart, steady_trimStart] at htokens
  rw [minify_eq_squeezed]
  exact htokens

/-- A template with two spaces in it. -/
def spacedTemplate : Text := "`a  b`"

/-- The template loses a space. -/
theorem minify_spacedTemplate :
    (Token.all (Engine.minify .typescript true spacedTemplate)).filter (!·.isGap) ≠
      ((Token.all spacedTemplate).filter (!·.isGap)).map Token.trimmed := by
  decide +kernel

end Tidy.Script
