/-
# Tidy.Proofs.Script.Readback -- tokens that are read back from their spellings

A token is read back from its spelling if nothing that follows could belong to it: a word ends before a code point
that is no part of words, an operator before one that starts no operator, a line comment before a line feed, and
white space before a solid code point. Strings, block comments, marks and the increment and decrement signs say
themselves where they end. A list of tokens of which each one stands so before the others is the list of the tokens
of its text.

What a token can be spelled like is said once, in `Spelled`; reading back is then one case a kind.
-/

import Mathlib.Data.List.Chain
import Tidy.Proofs.Script.Tokens

namespace Tidy.Script.Token

open CodePoint (char)

/-- The token as a layout shows it. -/
def trimmed : Token → Token
  | lineComment t => lineComment (Text.trimEnd t)
  | t => t

theorem text_trimmed (t : Token) : t.trimmed.text = t.shown := by
  cases t <;> rfl

theorem isGap_trimmed (t : Token) : t.trimmed.isGap = t.isGap := by
  cases t <;> rfl

/-- The text is empty, or its first code point is none of a kind. -/
def StartsOutside (kind : CodePoint → Bool) (rest : Text) : Prop :=
  ∀ c, rest.head? = some c → kind c = false

/-- The spellings of tokens. -/
inductive Spelled : Token → Prop
  | lineComment {inside : Text} :
      (∀ c ∈ inside, c ≠ CodePoint.newline) → Spelled (lineComment (char '/' :: char '/' :: inside))
  | blockComment {body : Text} :
      (∀ rest, Text.readCommentEnd? (body ++ rest) = some (body, rest)) →
      Spelled (blockComment (char '/' :: char '*' :: body))
  | string {q : CodePoint} {body : Text} :
      isQuote q = true → (∀ rest, Text.readStringEnd? q (q ≠ char '`') (body ++ rest) = some (body, rest)) →
      Spelled (string (q :: body))
  | gap {t : Text} :
      t ≠ [] → Text.isBlank t = true → Spelled (gap t)
  | step {c d : CodePoint} :
      (c = char '+' ∧ d = char '+') ∨ (c = char '-' ∧ d = char '-') → Spelled (step [c, d])
  | operator {c : CodePoint} {body : Text} :
      isOperatorChar c = true →
      (∀ rest, StartsOutside isOperatorChar rest → operatorAt c (body ++ rest) = (operator (c :: body), rest) ∧
        (c = char '/' → comment? (body ++ rest) = none)) →
      Spelled (operator (c :: body))
  | mark (m : Mark) :
      Spelled (mark m)
  | word {c : CodePoint} {body : Text} :
      isWordPart c = true → (∀ d ∈ body, isWordPart d = true) → Spelled (word (c :: body))
  | strayQuote {q : CodePoint} :
      isQuote q = true → Spelled (strayQuote q)

/-! ## The tokens of a text are spelled so -/

/-- A text that starts no operator starts no comment behind a slash. -/
theorem comment?_eq_none {rest : Text} (h : StartsOutside isOperatorChar rest) : comment? rest = none := by
  cases rest with
  | nil => rfl
  | cons c rest =>
    have hc := h c rfl
    simp only [isOperatorChar, Bool.or_eq_false_iff, decide_eq_false_iff_not] at hc
    rw [comment?, if_neg hc.1.1.1.2, if_neg hc.1.1.1.1.2]

theorem operatorAt_single {c : CodePoint} {rest : Text} (h : StartsOutside isOperatorChar rest) :
    operatorAt c rest = (operator [c], rest) := by
  cases rest with
  | nil => rfl
  | cons d rest =>
    have hd := h d rfl
    simp only [isOperatorChar, Bool.or_eq_false_iff, decide_eq_false_iff_not] at hd
    obtain ⟨⟨⟨⟨⟨⟨⟨hequal, hplus⟩, hminus⟩, -⟩, -⟩, -⟩, hgreater⟩, -⟩ := hd
    rw [operatorAt, if_neg, if_neg, if_neg]
    · rintro (h | ⟨-, h⟩)
      · exact hequal h
      · exact hgreater h
    · rintro ⟨-, h, -⟩
      exact hequal h
    · rintro (⟨-, h⟩ | ⟨-, h⟩)
      · exact hplus h
      · exact hminus h

theorem spelled_single {c : CodePoint} (hc : isOperatorChar c = true) : Spelled (operator [c]) :=
  .operator hc fun _ hrest => ⟨operatorAt_single hrest, fun _ => comment?_eq_none hrest⟩

theorem spelled_operatorAt {c : CodePoint} (hc : isOperatorChar c = true) (s : Text) : Spelled (operatorAt c s).1 := by
  cases s with
  | nil => exact spelled_single hc
  | cons d more =>
    by_cases hstep : (c = char '+' ∧ d = char '+') ∨ (c = char '-' ∧ d = char '-')
    · rw [operatorAt, if_pos hstep]
      exact .step hstep
    by_cases hthree : (c = char '=' ∨ c = char '!') ∧ d = char '=' ∧ more.head? = some (char '=')
    · rw [operatorAt, if_neg hstep, if_pos hthree]
      refine .operator hc fun rest _ => ⟨?_, ?_⟩
      · exact (if_neg hstep).trans (if_pos ⟨hthree.1, hthree.2.1, rfl⟩)
      · rintro rfl
        exact absurd hthree.1 (by decide)
    by_cases htwo : d = char '=' ∨ (c = char '=' ∧ d = char '>')
    · rw [operatorAt, if_neg hstep, if_neg hthree, if_pos htwo]
      refine .operator hc fun rest hrest => ⟨?_, ?_⟩
      · have hshort : ¬ ((c = char '=' ∨ c = char '!') ∧ d = char '=' ∧ rest.head? = some (char '=')) := by
          rintro ⟨-, -, hequal⟩
          exact absurd (hrest _ hequal) (by decide)
        exact (if_neg hstep).trans ((if_neg hshort).trans (if_pos htwo))
      · rintro rfl
        obtain rfl : d = char '=' := htwo.resolve_right (fun h => absurd h.1 (by decide))
        rfl
    · rw [operatorAt, if_neg hstep, if_neg hthree, if_neg htwo]
      exact spelled_single hc

theorem spelled_next (c : CodePoint) (s : Text) : Spelled (next c s).1 := by
  have hnext := next_spec c s
  generalize next c s = found at hnext ⊢
  obtain ⟨t, more⟩ := found
  dsimp only at hnext ⊢
  cases hnext with
  | string hquote hread => exact .string hquote fun rest => Text.readStringEnd?_append hread rest
  | strayQuote hquote => exact .strayQuote hquote
  | gap hblank =>
    refine .gap (List.cons_ne_nil _ _) ?_
    rw [Text.isBlank, List.all_cons, hblank, Bool.true_and]
    exact List.all_takeWhile
  | lineComment =>
    refine .lineComment ?_
    intro d hd
    simpa using List.all_eq_true.mp List.all_takeWhile d hd
  | blockComment _ _ hread => exact .blockComment fun rest => Text.readCommentEnd?_append hread rest
  | operator hoperator => exact spelled_operatorAt hoperator s
  | mark m => exact .mark m
  | word hword => exact .word hword (List.all_eq_true.mp List.all_takeWhile)

theorem spelled_of_mem_all {source : Text} {t : Token} (h : t ∈ all source) : Spelled t := by
  fun_induction all source with
  | case1 => cases h
  | case2 c rest ih =>
    rcases List.mem_cons.mp h with rfl | hrest
    · exact spelled_next c rest
    · exact ih hrest

/-! ## Reading back -/

/-- May the rest follow the token directly? -/
def StandsBefore : Token → Text → Prop
  | gap _, rest => StartsOutside CodePoint.isBlank rest
  | lineComment _, rest => StartsOutside (· ≠ CodePoint.newline) rest
  | operator _, rest => StartsOutside isOperatorChar rest
  | word _, rest => StartsOutside isWordPart rest
  | strayQuote _, _ => False
  | _, _ => True

/-- The token is the first one of its spelling and the rest. -/
def ReadBefore (t : Token) (rest : Text) : Prop :=
  ∃ c body, t.text = c :: body ∧ next c (body ++ rest) = (t, rest)

theorem ReadBefore.all_eq {t : Token} {rest : Text} (h : t.ReadBefore rest) : all (t.text ++ rest) = t :: all rest := by
  obtain ⟨c, body, htext, hnext⟩ := h
  rw [htext, List.cons_append, all, hnext]

theorem takeWhile_before {kind : CodePoint → Bool} {body rest : Text} (hbody : ∀ c ∈ body, kind c = true)
    (hrest : StartsOutside kind rest) : (body ++ rest).takeWhile kind = body := by
  rw [List.takeWhile_append_of_pos hbody]
  cases rest with
  | nil => rw [List.takeWhile_nil, List.append_nil]
  | cons c rest => rw [List.takeWhile_cons_of_neg (by simp [hrest c rfl]), List.append_nil]

theorem dropWhile_before {kind : CodePoint → Bool} {body rest : Text} (hbody : ∀ c ∈ body, kind c = true)
    (hrest : StartsOutside kind rest) : (body ++ rest).dropWhile kind = rest := by
  rw [List.dropWhile_append_of_pos hbody]
  cases rest with
  | nil => rfl
  | cons c rest => rw [List.dropWhile_cons_of_neg (by simp [hrest c rfl])]

theorem isQuote_of_isBlank {c : CodePoint} (h : c.isBlank = true) : isQuote c = false := by
  cases hquote : isQuote c with
  | false => rfl
  | true =>
    rw [isBlank_quote hquote] at h
    cases h

theorem readBefore_gap {t rest : Text} (hne : t ≠ []) (hblank : Text.isBlank t = true)
    (hrest : StartsOutside CodePoint.isBlank rest) : (gap t).ReadBefore rest := by
  cases t with
  | nil => exact absurd rfl hne
  | cons c body =>
    obtain ⟨hc, hbody⟩ := List.forall_mem_cons.mp (List.all_eq_true.mp hblank)
    refine ⟨c, body, rfl, ?_⟩
    rw [next, isQuote_of_isBlank hc, if_neg Bool.false_ne_true, if_pos hc, takeWhile_before hbody hrest,
      dropWhile_before hbody hrest]

theorem readBefore_word {c : CodePoint} {body rest : Text} (hc : isWordPart c = true)
    (hbody : ∀ d ∈ body, isWordPart d = true) (hrest : StartsOutside isWordPart rest) :
    (word (c :: body)).ReadBefore rest := by
  refine ⟨c, body, rfl, ?_⟩
  simp only [isWordPart, Bool.not_eq_true', Bool.or_eq_false_iff, Option.isSome_eq_false_iff,
    Option.isNone_iff_eq_none] at hc
  obtain ⟨⟨⟨hblank, hquote⟩, hoperator⟩, hmark⟩ := hc
  rw [next, hquote, if_neg Bool.false_ne_true, hblank, if_neg Bool.false_ne_true, hoperator,
    if_neg Bool.false_ne_true, hmark, takeWhile_before hbody hrest, dropWhile_before hbody hrest]

/-- A character that starts an operator is neither a quote nor white space. -/
theorem next_operatorChar {c : CodePoint} (h : isOperatorChar c = true) (rest : Text) :
    next c rest = (if c = char '/' then comment? rest else none).getD (operatorAt c rest) := by
  have hc : isQuote c = false ∧ c.isBlank = false := by
    simp only [isOperatorChar, Bool.or_eq_true, decide_eq_true_eq] at h
    rcases h with ((((((rfl | rfl) | rfl) | rfl) | rfl) | rfl) | rfl) | rfl <;> exact ⟨rfl, rfl⟩
  rw [next, hc.1, if_neg Bool.false_ne_true, hc.2, if_neg Bool.false_ne_true, if_pos h]
  split
  · rename_i found hfound
    rw [hfound]
    rfl
  · rename_i hnone
    rw [hnone]
    rfl

theorem trimEnd_lineComment (inside : Text) :
    Text.trimEnd (char '/' :: char '/' :: inside) = char '/' :: char '/' :: Text.trimEnd inside := by
  rw [Text.trimEnd_cons_of_solid rfl, Text.trimEnd_cons_of_solid rfl]

theorem readBefore_lineComment {inside rest : Text} (hline : ∀ c ∈ inside, c ≠ CodePoint.newline)
    (hrest : StartsOutside (· ≠ CodePoint.newline) rest) :
    (lineComment (char '/' :: char '/' :: inside)).trimmed.ReadBefore rest := by
  -- what is left of the line after trimming is still on one line
  obtain ⟨tail, -, htail⟩ := Text.exists_trimEnd inside
  have hleft : ∀ c ∈ Text.trimEnd inside, decide (c ≠ CodePoint.newline) = true := by
    intro c hc
    apply decide_eq_true
    apply hline
    rw [htail]
    exact List.mem_append_left tail hc
  refine ⟨char '/', char '/' :: Text.trimEnd inside, trimEnd_lineComment inside, ?_⟩
  rw [trimmed, trimEnd_lineComment, next_operatorChar rfl, if_pos rfl, List.cons_append, comment?, if_pos rfl,
    takeWhile_before hleft hrest, dropWhile_before hleft hrest]
  rfl

/-- Every token is read back, as it is shown, before what may follow it. -/
theorem Spelled.readBefore {t : Token} (h : Spelled t) {rest : Text} (hrest : t.StandsBefore rest) :
    t.trimmed.ReadBefore rest := by
  cases h with
  | lineComment hline => exact readBefore_lineComment hline hrest
  | @blockComment body hread =>
    refine ⟨char '/', char '*' :: body, rfl, ?_⟩
    rw [next_operatorChar rfl, if_pos rfl, List.cons_append, comment?, if_neg (by decide), if_pos rfl, hread]
    rfl
  | @string q body hquote hread =>
    refine ⟨q, body, rfl, ?_⟩
    rw [next, if_pos hquote, hread]
    rfl
  | gap hne hblank => exact readBefore_gap hne hblank hrest
  | @step c d hstep =>
    refine ⟨c, [d], rfl, ?_⟩
    have hc : isOperatorChar c = true ∧ c ≠ char '/' := by
      rcases hstep with ⟨rfl, -⟩ | ⟨rfl, -⟩ <;> decide
    rw [next_operatorChar hc.1, if_neg hc.2]
    exact if_pos hstep
  | @operator c body hc hread =>
    refine ⟨c, body, rfl, ?_⟩
    obtain ⟨hoperator, hcomment⟩ := hread rest hrest
    rw [next_operatorChar hc]
    split
    · rename_i hslash
      rw [hcomment hslash]
      exact hoperator
    · exact hoperator
  | mark m =>
    refine ⟨m.char, [], rfl, ?_⟩
    cases m <;> rfl
  | word hc hbody => exact readBefore_word hc hbody hrest
  | strayQuote => cases hrest

/-- Each token of the list is read before the text of those behind it. -/
def Readable : List Token → Prop
  | [] => True
  | t :: rest => t.ReadBefore (rest.flatMap text) ∧ Readable rest

/-- The tokens of the text of a readable list are the list. -/
theorem Readable.all_flatMap_text {ts : List Token} (h : Readable ts) : all (ts.flatMap text) = ts := by
  induction ts with
  | nil => rw [List.flatMap_nil, all]
  | cons t ts ih => rw [List.flatMap_cons, h.1.all_eq, ih h.2]

/-! ## Neighbours -/

/-- Is the token a word? -/
def isWord : Token → Bool
  | word _ => true
  | _ => false

/-- Is the token an operator? -/
def isOperator : Token → Bool
  | operator _ => true
  | _ => false

theorem not_wordPart_of_quote {c : CodePoint} (h : isQuote c = true) : isWordPart c = false := by
  rw [isWordPart, h, Bool.or_true, Bool.true_or, Bool.true_or]
  rfl

theorem not_wordPart_of_operatorChar {c : CodePoint} (h : isOperatorChar c = true) : isWordPart c = false := by
  rw [isWordPart, h, Bool.or_true, Bool.true_or]
  rfl

theorem startsOutside_cons {kind : CodePoint → Bool} {c : CodePoint} (h : kind c = false) (rest : Text) :
    StartsOutside kind (c :: rest) := by
  intro d hd
  obtain rfl : c = d := by injection hd
  exact h

/-- Only white space and words begin with what could go on with a word. -/
theorem Spelled.startsOutside_word {t : Token} (h : Spelled t) (hgap : t.isGap = false) (hword : t.isWord = false)
    (rest : Text) : StartsOutside isWordPart (t.shown ++ rest) := by
  cases h with
  | lineComment hline =>
    rw [shown, trimEnd_lineComment]
    exact startsOutside_cons rfl _
  | blockComment => exact startsOutside_cons rfl _
  | string hquote => exact startsOutside_cons (not_wordPart_of_quote hquote) _
  | gap => cases hgap
  | step hstep =>
    refine startsOutside_cons (not_wordPart_of_operatorChar ?_) _
    rcases hstep with ⟨rfl, -⟩ | ⟨rfl, -⟩ <;> rfl
  | operator hc => exact startsOutside_cons (not_wordPart_of_operatorChar hc) _
  | mark m =>
    refine startsOutside_cons ?_ _
    cases m <;> rfl
  | word => cases hword
  | strayQuote hquote => exact startsOutside_cons (not_wordPart_of_quote hquote) _

theorem isWordPart_of_isWord {c : CodePoint} {rest : Text} (h : (next c rest).1.isWord = true) :
    isWordPart c = true := by
  have htext := next_sound c rest
  have hspelled := spelled_next c rest
  generalize (next c rest).1 = t at h htext hspelled
  cases hspelled with
  | word hc =>
    rw [text, List.cons_append, List.cons.injEq] at htext
    rw [htext.1]
    exact hc
  | _ => cases h

/-- A word goes on as far as it can. -/
theorem startsOutside_of_isWord {c : CodePoint} {rest : Text} (h : (next c rest).1.isWord = true) :
    StartsOutside isWordPart (next c rest).2 := by
  have hc := isWordPart_of_isWord h
  simp only [isWordPart, Bool.not_eq_true', Bool.or_eq_false_iff, Option.isSome_eq_false_iff,
    Option.isNone_iff_eq_none] at hc
  obtain ⟨⟨⟨hblank, hquote⟩, hoperator⟩, hmark⟩ := hc
  rw [next, hquote, if_neg Bool.false_ne_true, hblank, if_neg Bool.false_ne_true, hoperator,
    if_neg Bool.false_ne_true, hmark]
  intro d hd
  have hnot := List.head?_dropWhile_not isWordPart rest
  rw [hd] at hnot
  simpa using hnot

/-- No two words follow each other directly. -/
theorem isChain_all (source : Text) :
    (all source).IsChain fun t u => t.isWord = true → u.isWord = false := by
  fun_induction all source with
  | case1 => exact .nil
  | case2 c rest ih =>
    cases hnext : (next c rest).2 with
    | nil =>
      rw [all]
      exact .singleton _
    | cons d more =>
      rw [hnext] at ih
      rw [all] at ih ⊢
      refine .cons_cons ?_ ih
      intro hword
      cases hsecond : (next d more).1.isWord with
      | false => rfl
      | true =>
        have houtside := startsOutside_of_isWord hword
        rw [hnext] at houtside
        rw [← houtside d rfl]
        exact (isWordPart_of_isWord hsecond).symm

end Tidy.Script.Token
