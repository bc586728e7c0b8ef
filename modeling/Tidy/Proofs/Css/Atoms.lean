/-
# Tidy.Proofs.Css.Atoms -- the smallest parts of a style sheet

Formatting may join two words or cut one in two, so words are no measure for what it keeps. Atoms are: words and
gaps are taken apart into their code points, while strings and comments stay whole. A list of atoms is `Lexed` if
each of them is well formed and no quote or slash that stands alone would find a partner in what follows; these are
exactly the lists that a text is read as (`lexed_atoms`, `atoms_textOf`).
-/

import Tidy.Css.Sheet
import Tidy.Proofs.Text.Enclosed
import Tidy.Proofs.Text.Trim

namespace Tidy.Css

open CodePoint (char)

/-- The two quotes. -/
def IsQuote (c : CodePoint) : Prop := c = char '"' ∨ c = char '\''

instance (c : CodePoint) : Decidable (IsQuote c) := inferInstanceAs (Decidable (_ ∨ _))

/-! ## What the next token is -/

/-- The token that starts with `c`, case by case. -/
inductive Next (c : CodePoint) (rest : Text) : Token → Text → Prop
  | comment {inside body more : Text} :
      c = char '/' → rest = char '*' :: inside → Text.readCommentEnd? inside = some (body, more) →
      Next c rest (.comment (c :: char '*' :: body)) more
  | slash :
      c = char '/' → (∀ inside, rest = char '*' :: inside → Text.readCommentEnd? inside = none) →
      Next c rest (.word [c]) rest
  | string {body more : Text} :
      IsQuote c → Text.readStringEnd? c false rest = some (body, more) → Next c rest (.string (c :: body)) more
  | stray : IsQuote c → Text.readStringEnd? c false rest = none → Next c rest (.strayQuote c) rest
  | gap :
      c.isBlank = true → Next c rest (.gap (c :: rest.takeWhile CodePoint.isBlank)) (rest.dropWhile CodePoint.isBlank)
  | openBrace : c = char '{' → Next c rest .openBrace rest
  | closeBrace : c = char '}' → Next c rest .closeBrace rest
  | semicolon : c = char ';' → Next c rest .semicolon rest
  | word :
      Token.isWordPart c = true →
      Next c rest (.word (c :: rest.takeWhile Token.isWordPart)) (rest.dropWhile Token.isWordPart)

theorem next_spec (c : CodePoint) (rest : Text) : Next c rest (Token.next c rest).1 (Token.next c rest).2 := by
  -- the branches in the order in which they are tried; a word is what is left
  unfold Token.next
  split
  · rename_i hslash
    split
    · rename_i d inside
      split
      · rename_i hstar
        split
        · rename_i body more hread
          rw [hstar]
          exact .comment hslash rfl hread
        · rename_i hread
          refine .slash hslash ?_
          intro inside' heq
          rw [List.cons.injEq] at heq
          rw [← heq.2]
          exact hread
      · rename_i hstar
        refine .slash hslash ?_
        intro inside' heq
        rw [List.cons.injEq] at heq
        exact absurd heq.1 hstar
    · refine .slash hslash ?_
      intro inside heq
      cases heq
  · rename_i hslash
    split
    · rename_i hquote
      have hquote : IsQuote c := by simpa [IsQuote] using hquote
      split
      · rename_i body more hread
        exact .string hquote hread
      · rename_i hread
        exact .stray hquote hread
    · rename_i hquote
      split
      · rename_i hblank
        exact .gap hblank
      · rename_i hblank
        split
        · rename_i hopen
          exact .openBrace hopen
        · rename_i hopen
          split
          · rename_i hclose
            exact .closeBrace hclose
          · rename_i hclose
            split
            · rename_i hsemicolon
              exact .semicolon hsemicolon
            · rename_i hsemicolon
              refine .word ?_
              simp only [Bool.or_eq_true, decide_eq_true_eq, not_or] at hquote
              simp [Token.isWordPart, hslash, hquote, hblank, hopen, hclose, hsemicolon]

theorem isWordPart_iff (c : CodePoint) : Token.isWordPart c = true ↔
    c.isBlank = false ∧ ¬ IsQuote c ∧ c ≠ char '{' ∧ c ≠ char '}' ∧ c ≠ char ';' ∧ c ≠ char '/' := by
  simp only [Token.isWordPart, IsQuote, Bool.not_eq_true', Bool.or_eq_false_iff, decide_eq_false_iff_not, not_or,
    and_assoc, ne_eq]

theorem isBlank_facts {c : CodePoint} (h : c.isBlank = true) :
    ¬ IsQuote c ∧ c ≠ char '{' ∧ c ≠ char '}' ∧ c ≠ char ';' ∧ c ≠ char '/' ∧ c ≠ char ':' ∧ c ≠ char '*' ∧
      c ≠ char '\\' := by
  have hne : ∀ d : CodePoint, d.isBlank = false → c ≠ d := by
    rintro d hd rfl
    rw [h] at hd
    cases hd
  refine ⟨?_, hne _ rfl, hne _ rfl, hne _ rfl, hne _ rfl, hne _ rfl, hne _ rfl, hne _ rfl⟩
  rintro (rfl | rfl) <;> cases h

/-- The cases exclude each other. -/
theorem next_eq {c : CodePoint} {rest : Text} {t : Token} {more : Text} (h : Next c rest t more) :
    Token.next c rest = (t, more) := by
  unfold Token.next
  cases h with
  | comment hslash hrest hread =>
    rw [hrest, if_pos hslash]
    dsimp only
    rw [if_pos rfl, hread]
  | slash hslash hnone =>
    rw [if_pos hslash]
    cases rest with
    | nil => rfl
    | cons d inside =>
      dsimp only
      split
      · rename_i hstar
        rw [hnone inside (by rw [hstar])]
      · rfl
  | string hquote hread =>
    have hslash : c ≠ char '/' := by rcases hquote with rfl | rfl <;> decide
    rw [if_neg hslash, if_pos (by simpa [IsQuote] using hquote), hread]
  | stray hquote hread =>
    have hslash : c ≠ char '/' := by rcases hquote with rfl | rfl <;> decide
    rw [if_neg hslash, if_pos (by simpa [IsQuote] using hquote), hread]
  | gap hblank =>
    obtain ⟨hquote, -, -, -, hslash, -⟩ := isBlank_facts hblank
    rw [if_neg hslash, if_neg (by simpa [IsQuote] using hquote), if_pos hblank]
  | openBrace hopen =>
    subst hopen
    rfl
  | closeBrace hclose =>
    subst hclose
    rfl
  | semicolon hsemicolon =>
    subst hsemicolon
    rfl
  | word hword =>
    obtain ⟨hblank, hquote, hopen, hclose, hsemicolon, hslash⟩ := (isWordPart_iff c).mp hword
    rw [if_neg hslash, if_neg (by simpa [IsQuote] using hquote), if_neg (by rw [hblank]; exact Bool.false_ne_true),
      if_neg hopen, if_neg hclose, if_neg hsemicolon]

/-! ## Atoms -/

/-- The smallest parts of a style sheet. A quote or a slash that stands alone is solid. -/
inductive Atom where
  | solid (c : CodePoint)
  | blank (c : CodePoint)
  | string (t : Text)
  | comment (t : Text)
  | openBrace
  | closeBrace
  | semicolon
deriving DecidableEq

/-- The spelling of an atom. -/
def Atom.text : Atom → Text
  | solid c => [c]
  | blank c => [c]
  | string t => t
  | comment t => t
  | openBrace => [char '{']
  | closeBrace => [char '}']
  | semicolon => [char ';']

/-- The spelling of a list of atoms. -/
def textOf (as : List Atom) : Text := as.flatMap Atom.text

@[simp] theorem textOf_nil : textOf [] = [] := rfl

@[simp] theorem textOf_cons (a : Atom) (as : List Atom) : textOf (a :: as) = a.text ++ textOf as := rfl

@[simp] theorem textOf_append (as bs : List Atom) : textOf (as ++ bs) = textOf as ++ textOf bs :=
  List.flatMap_append

/-- The atoms of a token. -/
def Token.atoms : Token → List Atom
  | .comment t => [.comment t]
  | .string t => [.string t]
  | .gap t => t.map .blank
  | .openBrace => [.openBrace]
  | .closeBrace => [.closeBrace]
  | .semicolon => [.semicolon]
  | .word t => t.map .solid
  | .strayQuote q => [.solid q]

/-- The atoms of a text. -/
def atoms (source : Text) : List Atom := (Token.all source).flatMap Token.atoms

theorem atoms_nil : atoms [] = [] := by
  rw [atoms, Token.all]
  rfl

theorem atoms_cons (c : CodePoint) (rest : Text) :
    atoms (c :: rest) = (Token.next c rest).1.atoms ++ atoms (Token.next c rest).2 := by
  rw [atoms, Token.all, List.flatMap_cons]
  rfl

/-! ## One atom at a time -/

/-- A run of solid code points, or of white space, may be read one by one. -/
theorem atoms_run {p : CodePoint → Bool} {kind : CodePoint → Atom}
    (h : ∀ c rest, p c = true → atoms (c :: rest) = (c :: rest.takeWhile p).map kind ++ atoms (rest.dropWhile p))
    (t : Text) : atoms t = (t.takeWhile p).map kind ++ atoms (t.dropWhile p) := by
  cases t with
  | nil => rw [List.takeWhile_nil, List.dropWhile_nil, List.map_nil, List.nil_append]
  | cons c rest =>
    cases hc : p c with
    | true => rw [h c rest hc, List.takeWhile_cons_of_pos hc, List.dropWhile_cons_of_pos hc]
    | false =>
      have hneg : ¬ p c = true := by rw [hc]; exact Bool.false_ne_true
      rw [List.takeWhile_cons_of_neg hneg, List.dropWhile_cons_of_neg hneg, List.map_nil, List.nil_append]

theorem atoms_of_next {c : CodePoint} {rest more : Text} {t : Token} (h : Next c rest t more) :
    atoms (c :: rest) = t.atoms ++ atoms more := by
  rw [atoms_cons, next_eq h]

theorem atoms_word {c : CodePoint} (h : Token.isWordPart c = true) (rest : Text) :
    atoms (c :: rest) = .solid c :: atoms rest := by
  have hrun : ∀ c rest, Token.isWordPart c = true → atoms (c :: rest) =
      (c :: rest.takeWhile Token.isWordPart).map .solid ++ atoms (rest.dropWhile Token.isWordPart) :=
    fun c rest hc => atoms_of_next (.word hc)
  rw [hrun c rest h, List.map_cons, List.cons_append, ← atoms_run hrun]

theorem atoms_blank {c : CodePoint} (h : c.isBlank = true) (rest : Text) :
    atoms (c :: rest) = .blank c :: atoms rest := by
  have hrun : ∀ c rest, CodePoint.isBlank c = true → atoms (c :: rest) =
      (c :: rest.takeWhile CodePoint.isBlank).map .blank ++ atoms (rest.dropWhile CodePoint.isBlank) :=
    fun c rest hc => atoms_of_next (.gap hc)
  rw [hrun c rest h, List.map_cons, List.cons_append, ← atoms_run hrun]

/-! ## Lists that a text is read as -/

/-- The atom may stand somewhere: strings and comments are closed at their end, and not before. -/
def Atom.WellFormed : Atom → Prop
  | solid c => c.isBlank = false ∧ c ≠ char '{' ∧ c ≠ char '}' ∧ c ≠ char ';'
  | blank c => c.isBlank = true
  | string t => ∃ q inside, IsQuote q ∧ t = q :: (inside ++ [q]) ∧
      inside.foldlM (Text.inString q) false = some false
  | comment t => ∃ inside, t = char '/' :: char '*' :: (inside ++ [char '*', char '/']) ∧
      (inside.foldlM Text.inComment false).isSome = true
  | openBrace | closeBrace | semicolon => True

theorem getLast?_comment {t : Text} (h : (Atom.comment t).WellFormed) : t.getLast? = some (char '/') := by
  obtain ⟨inside, rfl, -⟩ := h
  rw [List.getLast?_cons, List.getLast?_cons, List.getLast?_append]
  rfl

/-- A quote or a slash stays alone before the text: what follows does not close a string or a comment. -/
def Atom.StandsBefore : Atom → Text → Prop
  | solid c, rest => (IsQuote c → Text.readStringEnd? c false rest = none) ∧
      (c = char '/' → ∀ inside, rest = char '*' :: inside → Text.readCommentEnd? inside = none)
  | _, _ => True

/-- All atoms are well formed, and each stands before the rest. -/
inductive Lexed : List Atom → Prop
  | nil : Lexed []
  | cons {a : Atom} {as : List Atom} : a.WellFormed → a.StandsBefore (textOf as) → Lexed as → Lexed (a :: as)

theorem Lexed.wellFormed {as : List Atom} (h : Lexed as) : ∀ a ∈ as, a.WellFormed := by
  induction h with
  | nil =>
    intro a ha
    cases ha
  | cons ha _ _ ih => exact List.forall_mem_cons.mpr ⟨ha, ih⟩

theorem standsBefore_of_word {c : CodePoint} (h : Token.isWordPart c = true) (rest : Text) :
    (Atom.solid c).StandsBefore rest := by
  obtain ⟨-, hquote, -, -, -, hslash⟩ := (isWordPart_iff c).mp h
  exact ⟨fun hq => absurd hq hquote, fun hs => absurd hs hslash⟩

theorem wellFormed_of_word {c : CodePoint} (h : Token.isWordPart c = true) : (Atom.solid c).WellFormed := by
  obtain ⟨hblank, -, hopen, hclose, hsemicolon, -⟩ := (isWordPart_iff c).mp h
  exact ⟨hblank, hopen, hclose, hsemicolon⟩

theorem wellFormed_of_quote {c : CodePoint} (h : IsQuote c) : (Atom.solid c).WellFormed := by
  rcases h with rfl | rfl <;> exact ⟨rfl, by decide, by decide, by decide⟩

/-- One atom of a text, read back. -/
theorem atoms_text_append {a : Atom} (h : a.WellFormed) {rest : Text} (hrest : a.StandsBefore rest) :
    atoms (a.text ++ rest) = a :: atoms rest := by
  cases a with
  | solid c =>
    obtain ⟨hblank, hopen, hclose, hsemicolon⟩ := h
    obtain ⟨hstring, hcomment⟩ := hrest
    by_cases hquote : IsQuote c
    · exact atoms_of_next (.stray hquote (hstring hquote))
    · -- any other code point that is solid is a slash or continues a word
      by_cases hslash : c = char '/'
      · exact atoms_of_next (.slash hslash (hcomment hslash))
      · exact atoms_word ((isWordPart_iff c).mpr ⟨hblank, hquote, hopen, hclose, hsemicolon, hslash⟩) rest
  | blank c => exact atoms_blank h rest
  | string t =>
    obtain ⟨q, inside, hquote, rfl, hinside⟩ := h
    have hread := Text.readStringEnd?_of_inside hinside rest
    show atoms (q :: (inside ++ [q] ++ rest)) = _
    rw [List.append_assoc]
    exact atoms_of_next (.string hquote hread)
  | comment t =>
    obtain ⟨inside, rfl, hinside⟩ := h
    have hread := Text.readCommentEnd?_of_inside hinside rest
    show atoms (char '/' :: char '*' :: (inside ++ [char '*', char '/'] ++ rest)) = _
    rw [List.append_assoc]
    exact atoms_of_next (.comment rfl rfl hread)
  | openBrace => exact atoms_of_next (.openBrace rfl)
  | closeBrace => exact atoms_of_next (.closeBrace rfl)
  | semicolon => exact atoms_of_next (.semicolon rfl)

/-- Atoms that are lexed are the atoms of their text. -/
theorem atoms_textOf {as : List Atom} (h : Lexed as) : atoms (textOf as) = as := by
  induction h with
  | nil => exact atoms_nil
  | cons ha hbefore _ ih => rw [textOf_cons, atoms_text_append ha hbefore, ih]

theorem lexed_map_solid {w : Text} (hw : ∀ c ∈ w, Token.isWordPart c = true) {as : List Atom} (h : Lexed as) :
    Lexed (w.map .solid ++ as) := by
  induction w with
  | nil => exact h
  | cons c w ih =>
    obtain ⟨hc, hw⟩ := List.forall_mem_cons.mp hw
    exact .cons (wellFormed_of_word hc) (standsBefore_of_word hc _) (ih hw)

theorem lexed_map_blank {w : Text} (hw : ∀ c ∈ w, c.isBlank = true) {as : List Atom} (h : Lexed as) :
    Lexed (w.map .blank ++ as) := by
  induction w with
  | nil => exact h
  | cons c w ih =>
    obtain ⟨hc, hw⟩ := List.forall_mem_cons.mp hw
    exact .cons hc trivial (ih hw)

theorem textOf_map_solid (w : Text) : textOf (w.map .solid) = w := by
  induction w with
  | nil => rfl
  | cons c w ih => rw [List.map_cons, textOf_cons, ih, Atom.text, List.singleton_append]

theorem textOf_map_blank (w : Text) : textOf (w.map .blank) = w := by
  induction w with
  | nil => rfl
  | cons c w ih => rw [List.map_cons, textOf_cons, ih, Atom.text, List.singleton_append]

/-- A token of one atom, before atoms that are lexed. -/
theorem lexed_cons {a : Atom} {source more : Text} (ha : a.text ++ more = source) (hwellFormed : a.WellFormed)
    (hstands : a.StandsBefore more) (h : textOf (atoms more) = more ∧ Lexed (atoms more)) :
    textOf (a :: atoms more) = source ∧ Lexed (a :: atoms more) := by
  obtain ⟨htext, hlexed⟩ := h
  refine ⟨by rw [textOf_cons, htext, ha], .cons hwellFormed ?_ hlexed⟩
  rw [htext]
  exact hstands

/-- The atoms of a text make it up, and are lexed. The induction goes from token to token. -/
theorem lexed_atoms (source : Text) : textOf (atoms source) = source ∧ Lexed (atoms source) := by
  induction source using Token.all.induct with
  | case1 =>
    rw [atoms_nil]
    exact ⟨rfl, .nil⟩
  | case2 c rest ih =>
    have hnext := next_spec c rest
    rw [atoms_cons]
    generalize Token.next c rest = found at ih hnext ⊢
    obtain ⟨t, more⟩ := found
    dsimp only at ih hnext ⊢
    cases hnext with
    | @comment inside body more hslash hrest hread =>
      obtain ⟨hinside, -⟩ := Text.readCommentEnd?_sound hread
      obtain ⟨within, rfl, hsteps⟩ := Text.readCommentEnd?_inside hread
      refine lexed_cons (a := .comment _) ?_ ⟨within, by rw [hslash], hsteps⟩ trivial ih
      rw [hrest, hinside]
      rfl
    | slash hslash hnone =>
      subst hslash
      refine lexed_cons (a := .solid (char '/')) rfl ⟨rfl, by decide, by decide, by decide⟩ ⟨?_, fun _ => hnone⟩ ih
      exact fun hquote => absurd hquote (by decide)
    | @string body more hquote hread =>
      obtain ⟨hinside, -⟩ := Text.readStringEnd?_sound hread
      obtain ⟨within, rfl, hsteps⟩ := Text.readStringEnd?_inside hread
      refine lexed_cons (a := .string _) ?_ ⟨c, within, hquote, rfl, hsteps⟩ trivial ih
      rw [hinside]
      rfl
    | stray hquote hnone =>
      refine lexed_cons (a := .solid c) rfl (wellFormed_of_quote hquote) ⟨fun _ => hnone, ?_⟩ ih
      rintro rfl
      exact absurd hquote (by decide)
    | gap hblank =>
      refine ⟨?_, lexed_map_blank (List.forall_mem_cons.mpr ⟨hblank, List.all_eq_true.mp List.all_takeWhile⟩) ih.2⟩
      rw [textOf_append, ih.1, Token.atoms, textOf_map_blank, List.cons_append, List.takeWhile_append_dropWhile]
    | openBrace hopen => exact lexed_cons (a := .openBrace) (by rw [hopen]; rfl) trivial trivial ih
    | closeBrace hclose => exact lexed_cons (a := .closeBrace) (by rw [hclose]; rfl) trivial trivial ih
    | semicolon hsemicolon => exact lexed_cons (a := .semicolon) (by rw [hsemicolon]; rfl) trivial trivial ih
    | word hword =>
      refine ⟨?_, lexed_map_solid (List.forall_mem_cons.mpr ⟨hword, List.all_eq_true.mp List.all_takeWhile⟩) ih.2⟩
      rw [textOf_append, ih.1, Token.atoms, textOf_map_solid, List.cons_append, List.takeWhile_append_dropWhile]

/-! ## Pieces from atoms -/

/-- A statement that has begun, with a space at its end. -/
def pad (buffer : Text) : Text :=
  if buffer.isEmpty || buffer.getLast?.any CodePoint.isBlank then buffer else buffer ++ " "

/-- The pieces of a list of atoms, where `buffer` holds the statement that has begun. -/
def collect (buffer : Text) : List Atom → List Piece
  | [] => flush buffer false
  | .blank _ :: rest => collect (pad buffer) rest
  | .solid c :: rest => collect (buffer ++ [c]) rest
  | .string t :: rest => collect (buffer ++ t) rest
  | .comment t :: rest =>
    if buffer.isEmpty then .comment t :: collect [] rest else collect (buffer ++ t) rest
  | .openBrace :: rest => .opening (Text.trim buffer) :: collect [] rest
  | .closeBrace :: rest => flush buffer true ++ .closing :: collect [] rest
  | .semicolon :: rest => flush buffer true ++ collect [] rest

theorem pad_nil : pad [] = [] := rfl

theorem pad_of_endsSolid {buffer : Text} (hne : buffer ≠ []) (h : Text.EndsSolid buffer) :
    pad buffer = buffer ++ " " := by
  obtain ⟨c, hc⟩ : ∃ c, buffer.getLast? = some c := ⟨_, List.getLast?_eq_some_getLast hne⟩
  rw [pad, hc, Option.any_some, h c hc, if_neg]
  simp [hne]

theorem pad_append_space (buffer : Text) : pad (buffer ++ " ") = buffer ++ " " := by
  rw [pad, if_pos]
  rw [Bool.or_eq_true]
  exact Or.inr (by rw [List.getLast?_append]; rfl)

theorem collect_map_solid (w : Text) (buffer : Text) (as : List Atom) :
    collect buffer (w.map .solid ++ as) = collect (buffer ++ w) as := by
  induction w generalizing buffer with
  | nil => rw [List.map_nil, List.nil_append, List.append_nil]
  | cons c w ih =>
    rw [List.map_cons, List.cons_append, collect, ih, List.append_assoc, List.singleton_append]

theorem collect_map_blank {buffer : Text} (h : pad buffer = buffer) (w : Text) (as : List Atom) :
    collect buffer (w.map .blank ++ as) = collect buffer as := by
  induction w with
  | nil => rfl
  | cons c w ih => rw [List.map_cons, List.cons_append, collect, h, ih]

theorem collect_gap (buffer : Text) (hbuffer : Text.EndsSolid buffer) {c : CodePoint} (w : Text) (as : List Atom) :
    collect buffer ((c :: w).map .blank ++ as) = collect (if buffer.isEmpty then [] else buffer ++ " ") as := by
  rw [List.map_cons, List.cons_append, collect]
  by_cases hne : buffer = []
  · rw [hne, pad_nil, collect_map_blank pad_nil]
    rfl
  · rw [pad_of_endsSolid hne hbuffer, collect_map_blank (pad_append_space buffer), if_neg (by simpa using hne)]

/-- Every token but a gap ends with a code point that is no white space. -/
theorem Next.exists_last {c : CodePoint} {rest more : Text} {t : Token} (h : Next c rest t more)
    (hgap : ∀ w, t ≠ .gap w) : ∃ d, t.text.getLast? = some d ∧ d.isBlank = false := by
  cases h with
  | @comment inside body _ _ _ hread =>
    refine ⟨char '/', ?_, rfl⟩
    rw [Token.text, List.getLast?_cons, List.getLast?_cons, (Text.readCommentEnd?_sound hread).2]
    rfl
  | slash hslash => exact ⟨c, rfl, by rw [hslash]; rfl⟩
  | string hquote hread =>
    refine ⟨c, ?_, (wellFormed_of_quote hquote).1⟩
    rw [Token.text, List.getLast?_cons, (Text.readStringEnd?_sound hread).2]
    rfl
  | stray hquote => exact ⟨c, rfl, (wellFormed_of_quote hquote).1⟩
  | gap => exact absurd rfl (hgap _)
  | openBrace => exact ⟨char '{', rfl, rfl⟩
  | closeBrace => exact ⟨char '}', rfl, rfl⟩
  | semicolon => exact ⟨char ';', rfl, rfl⟩
  | word hword =>
    have hlast := List.getLast?_eq_some_getLast (List.cons_ne_nil c (rest.takeWhile Token.isWordPart))
    refine ⟨_, hlast, ?_⟩
    rcases List.mem_cons.mp (List.mem_of_getLast? hlast) with hfirst | hmem
    · rw [hfirst]
      exact ((isWordPart_iff _).mp hword).1
    · exact ((isWordPart_iff _).mp (List.all_eq_true.mp List.all_takeWhile _ hmem)).1

/-- Gathering tokens is collecting atoms. The tokens of a text have no two gaps side by side, so that a buffer that
ends in a space is never before a gap. -/
theorem gather_eq_collect {buffer source : Text} (h : Text.EndsSolid buffer ∨ Text.StartsSolid source) :
    gather buffer (Token.all source) = collect buffer (atoms source) := by
  induction source using Token.all.induct generalizing buffer with
  | case1 =>
    rw [Token.all, atoms_nil]
    rfl
  | case2 c rest ih =>
    have hnext := next_spec c rest
    rw [Token.all, atoms_cons]
    generalize Token.next c rest = found at ih hnext ⊢
    obtain ⟨t, more⟩ := found
    dsimp only at ih hnext ⊢
    have hempty : gather [] (Token.all more) = collect [] (atoms more) := ih (Or.inl Text.endsSolid_nil)
    -- what goes into the buffer, but for gaps, ends with no white space
    have hadd : (∀ w, t ≠ .gap w) →
        gather (buffer ++ t.text) (Token.all more) = collect (buffer ++ t.text) (atoms more) := by
      intro hgap
      obtain ⟨d, hd, hsolid⟩ := hnext.exists_last hgap
      refine ih (Or.inl (Text.endsSolid_append ?_ (Text.endsSolid_of_getLast hd hsolid)))
      intro hnil
      rw [hnil] at hd
      cases hd
    cases hnext with
    | comment =>
      show gather buffer (.comment _ :: _) = collect buffer (.comment _ :: atoms more)
      rw [gather, collect]
      split
      · rw [hempty]
      · exact hadd (fun _ => Token.noConfusion)
    | slash =>
      show gather buffer (.word [c] :: _) = collect buffer (.solid c :: atoms rest)
      rw [gather, collect]
      exact hadd (fun _ => Token.noConfusion)
    | string =>
      show gather buffer (.string _ :: _) = collect buffer (.string _ :: atoms more)
      rw [gather, collect]
      exact hadd (fun _ => Token.noConfusion)
    | stray =>
      show gather buffer (.strayQuote c :: _) = collect buffer (.solid c :: atoms rest)
      rw [gather, collect]
      exact hadd (fun _ => Token.noConfusion)
    | gap hblank =>
      have hbuffer : Text.EndsSolid buffer := by
        rcases h with hbuffer | hstart
        · exact hbuffer
        · rw [hstart c rfl] at hblank
          cases hblank
      show gather buffer (.gap _ :: _) = collect buffer ((c :: _).map .blank ++ _)
      rw [gather, collect_gap buffer hbuffer]
      exact ih (Or.inr (Text.startsSolid_trimStart rest))
    | openBrace =>
      show gather buffer (.openBrace :: _) = collect buffer (.openBrace :: atoms rest)
      rw [gather, collect, hempty]
    | closeBrace =>
      show gather buffer (.closeBrace :: _) = collect buffer (.closeBrace :: atoms rest)
      rw [gather, collect, hempty]
    | semicolon =>
      show gather buffer (.semicolon :: _) = collect buffer (.semicolon :: atoms rest)
      rw [gather, collect, hempty]
    | word =>
      show gather buffer (.word _ :: _) = collect buffer ((c :: _).map .solid ++ _)
      rw [gather, collect_map_solid]
      exact hadd (fun _ => Token.noConfusion)

end Tidy.Css
