/-
# Tidy.Proofs.Script.Tokens -- the tokens of a script make it up

The spellings of the tokens, one after another, are the script. What is shown of a token that is no white space is
solid at both ends.
-/

import Tidy.Proofs.Text.Enclosed
import Tidy.Proofs.Text.Trim
import Tidy.Script.Token

namespace Tidy.Script.Token

open CodePoint (char)

/-- What a layout shows of a token: its spelling, and of a line comment without the white space at its end. -/
def shown : Token → Text
  | lineComment t => Text.trimEnd t
  | t => t.text

/-- Does the token end its line? -/
def isLineComment : Token → Bool
  | lineComment _ => true
  | _ => false

/-! ## What the next token is -/

/-- A comment behind its slash: up to the end of the line, or up to its closing mark. -/
theorem comment?_eq_some {rest more : Text} {t : Token} (h : comment? rest = some (t, more)) :
    (∃ inside, rest = char '/' :: inside ∧
        t = lineComment (char '/' :: char '/' :: inside.takeWhile (· ≠ CodePoint.newline)) ∧
        more = inside.dropWhile (· ≠ CodePoint.newline)) ∨
      ∃ inside body, rest = char '*' :: inside ∧ Text.readCommentEnd? inside = some (body, more) ∧
        t = blockComment (char '/' :: char '*' :: body) := by
  unfold comment? at h
  split at h
  · cases h
  rename_i c inside
  split at h
  · rename_i hslash
    rw [Option.some.injEq, Prod.mk.injEq] at h
    obtain ⟨rfl, rfl⟩ := h
    exact Or.inl ⟨inside, by rw [hslash], rfl, rfl⟩
  split at h
  · rename_i hstar
    obtain ⟨⟨body, after⟩, hread, hpair⟩ := Option.map_eq_some_iff.mp h
    rw [Prod.mk.injEq] at hpair
    obtain ⟨rfl, rfl⟩ := hpair
    exact Or.inr ⟨inside, body, by rw [hstar], hread, rfl⟩
  · cases h

/-- The token that starts with `c`, case by case. -/
inductive Next (c : CodePoint) (rest : Text) : Token → Text → Prop
  | string {body more : Text} :
      isQuote c = true → Text.readStringEnd? c (c ≠ char '`') rest = some (body, more) →
      Next c rest (string (c :: body)) more
  | strayQuote : isQuote c = true → Next c rest (strayQuote c) rest
  | gap :
      c.isBlank = true → Next c rest (gap (c :: rest.takeWhile CodePoint.isBlank)) (rest.dropWhile CodePoint.isBlank)
  | lineComment {inside : Text} :
      c = char '/' → rest = char '/' :: inside →
      Next c rest (lineComment (char '/' :: char '/' :: inside.takeWhile (· ≠ CodePoint.newline)))
        (inside.dropWhile (· ≠ CodePoint.newline))
  | blockComment {inside body more : Text} :
      c = char '/' → rest = char '*' :: inside → Text.readCommentEnd? inside = some (body, more) →
      Next c rest (blockComment (char '/' :: char '*' :: body)) more
  | operator :
      isOperatorChar c = true → c.isBlank = false → (c = char '/' → comment? rest = none) →
      Next c rest (operatorAt c rest).1 (operatorAt c rest).2
  | mark (m : Mark) : m.char = c → Next c rest (mark m) rest
  | word :
      isWordPart c = true → Next c rest (word (c :: rest.takeWhile isWordPart)) (rest.dropWhile isWordPart)

theorem isWordPart_eq {c : CodePoint} (hquote : isQuote c = false) (hblank : c.isBlank = false)
    (hoperator : isOperatorChar c = false) (hmark : Mark.ofChar? c = none) : isWordPart c = true := by
  rw [isWordPart, hquote, hblank, hoperator, hmark]
  rfl

theorem next_spec (c : CodePoint) (rest : Text) : Next c rest (next c rest).1 (next c rest).2 := by
  unfold next
  -- the branches in the order in which they are tried; a word is what is left
  cases hquote : isQuote c with
  | true =>
    rw [if_pos rfl]
    split
    · rename_i body more hread
      exact .string hquote hread
    · exact .strayQuote hquote
  | false =>
    rw [if_neg Bool.false_ne_true]
    cases hblank : c.isBlank with
    | true => exact .gap hblank
    | false =>
      rw [if_neg Bool.false_ne_true]
      cases hoperator : isOperatorChar c with
      | true =>
        rw [if_pos rfl]
        split
        · rename_i found hfound
          split at hfound
          · rename_i hslash
            obtain ⟨t, more⟩ := found
            rcases comment?_eq_some hfound with ⟨inside, hrest, rfl, rfl⟩ | ⟨inside, body, hrest, hread, rfl⟩
            · exact .lineComment hslash hrest
            · exact .blockComment hslash hrest hread
          · cases hfound
        · rename_i hnone
          exact .operator hoperator hblank fun hslash => (if_pos hslash).symm.trans hnone
      | false =>
        rw [if_neg Bool.false_ne_true]
        split
        · rename_i m hmark
          have hchar := List.find?_some hmark
          rw [decide_eq_true_eq] at hchar
          exact .mark m hchar
        · rename_i hmark
          exact .word (isWordPart_eq hquote hblank hoperator hmark)

/-! ## Nothing is lost -/

theorem operatorAt_sound (c : CodePoint) (rest : Text) :
    c :: rest = (operatorAt c rest).1.text ++ (operatorAt c rest).2 := by
  unfold operatorAt
  split
  · rfl
  · rename_i d more
    split
    · rfl
    · split
      · rename_i hthree
        cases more with
        | nil => cases hthree.2.2
        | cons e more =>
          obtain rfl : e = char '=' := by
            have he := hthree.2.2
            injection he
          rfl
      · split <;> rfl

/-- A token and what is left make up the text. -/
theorem next_sound (c : CodePoint) (rest : Text) : c :: rest = (next c rest).1.text ++ (next c rest).2 := by
  have hnext := next_spec c rest
  generalize next c rest = found at hnext ⊢
  obtain ⟨t, more⟩ := found
  dsimp only at hnext ⊢
  cases hnext with
  | string _ hread =>
    rw [(Text.readStringEnd?_sound hread).1]
    rfl
  | strayQuote => rfl
  | gap => exact congrArg (c :: ·) List.takeWhile_append_dropWhile.symm
  | lineComment hslash hrest =>
    rw [hslash, hrest]
    exact congrArg (char '/' :: char '/' :: ·) List.takeWhile_append_dropWhile.symm
  | blockComment hslash hrest hread =>
    rw [hslash, hrest, (Text.readCommentEnd?_sound hread).1]
    rfl
  | operator => exact operatorAt_sound c rest
  | mark m hm =>
    rw [← hm]
    rfl
  | word => exact congrArg (c :: ·) List.takeWhile_append_dropWhile.symm

/-- The tokens of a text make it up. -/
theorem flatMap_text_all (source : Text) : (all source).flatMap text = source := by
  fun_induction all source with
  | case1 => rfl
  | case2 c rest ih => rw [List.flatMap_cons, ih, ← next_sound]

/-! ## Tokens are solid -/

/-- What is shown of the token is not empty, and solid at both ends. -/
structure Solid (t : Token) : Prop where
  nonempty : t.shown ≠ []
  starts : Text.StartsSolid t.shown
  ends : Text.EndsSolid t.shown

/-- A token that starts and ends with a solid code point. -/
theorem solid_of_ends {t : Token} (hshown : t.shown = t.text) {c d : CodePoint} (hc : t.text.head? = some c)
    (hd : t.text.getLast? = some d) (hsolid : c.isBlank = false) (hsolid' : d.isBlank = false) : t.Solid := by
  refine ⟨?_, ?_, ?_⟩
  · rw [hshown]
    intro hnil
    rw [hnil] at hc
    cases hc
  · intro e he
    rw [hshown, hc] at he
    obtain rfl : c = e := by injection he
    exact hsolid
  · intro e he
    rw [hshown, hd] at he
    obtain rfl : d = e := by injection he
    exact hsolid'

/-- The slashes of a line comment stay, whatever is trimmed behind them. -/
theorem solid_lineComment (inside : Text) : (lineComment (char '/' :: char '/' :: inside)).Solid := by
  have hshown : (lineComment (char '/' :: char '/' :: inside)).shown = char '/' :: char '/' :: Text.trimEnd inside := by
    rw [shown, Text.trimEnd_cons_of_solid rfl, Text.trimEnd_cons_of_solid rfl]
  refine ⟨?_, ?_, Text.endsSolid_trimEnd _⟩
  · rw [hshown]
    exact List.cons_ne_nil _ _
  · rw [hshown]
    exact Text.startsSolid_of_head rfl rfl

theorem isBlank_quote {c : CodePoint} (h : isQuote c = true) : c.isBlank = false := by
  simp only [isQuote, Bool.or_eq_true, decide_eq_true_eq] at h
  rcases h with (rfl | rfl) | rfl <;> rfl

theorem isBlank_wordPart {c : CodePoint} (h : isWordPart c = true) : c.isBlank = false := by
  simp only [isWordPart, Bool.not_eq_true', Bool.or_eq_false_iff] at h
  exact h.1.1.1

theorem solid_operatorAt {c : CodePoint} (h : c.isBlank = false) (rest : Text) : (operatorAt c rest).1.Solid := by
  unfold operatorAt
  split
  · exact solid_of_ends rfl rfl rfl h h
  · rename_i d more
    split
    · rename_i hstep
      have hd : d.isBlank = false := by
        rcases hstep with ⟨-, rfl⟩ | ⟨-, rfl⟩ <;> rfl
      exact solid_of_ends rfl rfl rfl h hd
    · split
      · exact solid_of_ends rfl rfl rfl h rfl
      · split
        · rename_i htwo
          have hd : d.isBlank = false := by
            rcases htwo with rfl | ⟨-, rfl⟩ <;> rfl
          exact solid_of_ends rfl rfl rfl h hd
        · exact solid_of_ends rfl rfl rfl h h

theorem solid_word {c : CodePoint} (h : c.isBlank = false) (rest : Text) :
    (word (c :: rest.takeWhile isWordPart)).Solid := by
  obtain ⟨d, hd⟩ : ∃ d, (c :: rest.takeWhile isWordPart).getLast? = some d :=
    ⟨_, List.getLast?_eq_some_getLast (List.cons_ne_nil _ _)⟩
  refine solid_of_ends rfl rfl hd h ?_
  rcases List.mem_cons.mp (List.mem_of_getLast? hd) with rfl | hmem
  · exact h
  · exact isBlank_wordPart (List.all_eq_true.mp List.all_takeWhile d hmem)

/-- The next token is white space or solid. -/
theorem solid_next (c : CodePoint) (rest : Text) (hgap : (next c rest).1.isGap = false) : (next c rest).1.Solid := by
  have hnext := next_spec c rest
  generalize next c rest = found at hgap hnext ⊢
  obtain ⟨t, more⟩ := found
  dsimp only at hgap hnext ⊢
  cases hnext with
  | string hquote hread =>
    -- a string ends with the quote it starts with
    refine solid_of_ends rfl rfl (d := c) ?_ (isBlank_quote hquote) (isBlank_quote hquote)
    rw [text, List.getLast?_cons, (Text.readStringEnd?_sound hread).2]
    rfl
  | strayQuote hquote => exact solid_of_ends rfl rfl rfl (isBlank_quote hquote) (isBlank_quote hquote)
  | gap => cases hgap
  | lineComment => exact solid_lineComment _
  | blockComment _ _ hread =>
    refine solid_of_ends rfl rfl (d := char '/') ?_ rfl rfl
    rw [text, List.getLast?_cons, List.getLast?_cons, (Text.readCommentEnd?_sound hread).2]
    rfl
  | operator _ hblank => exact solid_operatorAt hblank rest
  | mark m => cases m <;> exact solid_of_ends rfl rfl rfl rfl rfl
  | word hword => exact solid_word (isBlank_wordPart hword) rest

/-- All tokens of a text but the white space are solid. -/
theorem solid_of_mem_all {source : Text} {t : Token} (h : t ∈ all source) (hgap : t.isGap = false) : t.Solid := by
  fun_induction all source with
  | case1 => cases h
  | case2 c rest ih =>
    rcases List.mem_cons.mp h with rfl | hrest
    · exact solid_next c rest hgap
    · exact ih hrest

end Tidy.Script.Token
