/-
# Tidy.Proofs.Css.Punctuation -- the tokens of a style sheet, and its semicolons

A layout moves white space, even inside of strings and comments, and it may join two words or cut one in two. So
texts are compared by their whole tokens (`whole`), which have no gaps, and words cut into their code points, or by
their bare tokens (`bare`), which have no white space inside of strings and comments either. Of the bare ones the layout
changes the semicolons alone: it drops those that end nothing, and a declaration that a brace ends gets one
(`punctuated`).
-/

import Tidy.Proofs.Css.Atoms
import Tidy.Proofs.Text.Ink

namespace Tidy.Css

open CodePoint (char)

/-! ## Bare tokens -/

/-- The token without its white space. A word is cut into its code points, and a quote that stands alone is one. -/
def Token.bare : Token → List Token
  | .comment t => [.comment (Text.unspaced t)]
  | .string t => [.string (Text.unspaced t)]
  | .gap _ => []
  | .openBrace => [.openBrace]
  | .closeBrace => [.closeBrace]
  | .semicolon => [.semicolon]
  | .word t => t.map fun c => .word [c]
  | .strayQuote mark => [.word [mark]]

/-- The bare tokens of a text. -/
def bare (source : Text) : List Token := (Token.all source).flatMap Token.bare

/-! ## Whole tokens -/

/-- The token, with white space only where it is part of a string or a comment. A word is cut into its code points, and
a quote that stands alone is one. -/
def Token.whole : Token → List Token
  | .gap _ => []
  | .word t => t.map fun c => .word [c]
  | .strayQuote mark => [.word [mark]]
  | t => [t]

/-- The whole tokens of a text. -/
def whole (source : Text) : List Token := (Token.all source).flatMap Token.whole

/-- The whole tokens of an atom. -/
def Atom.whole : Atom → List Token
  | solid c => [.word [c]]
  | blank _ => []
  | string t => [.string t]
  | comment t => [.comment t]
  | openBrace => [.openBrace]
  | closeBrace => [.closeBrace]
  | semicolon => [.semicolon]

/-- The whole tokens of a list of atoms. -/
def wholeOf (as : List Atom) : List Token := as.flatMap Atom.whole

@[simp] theorem wholeOf_nil : wholeOf [] = [] := rfl

@[simp] theorem wholeOf_cons (a : Atom) (as : List Atom) : wholeOf (a :: as) = a.whole ++ wholeOf as := rfl

@[simp] theorem wholeOf_append (as bs : List Atom) : wholeOf (as ++ bs) = wholeOf as ++ wholeOf bs :=
  List.flatMap_append

@[simp] theorem wholeOf_map_blank (w : Text) : wholeOf (w.map .blank) = [] := by
  induction w with
  | nil => rfl
  | cons c w ih => exact ih

theorem wholeOf_map_solid (w : Text) : wholeOf (w.map .solid) = w.map fun c => .word [c] := by
  induction w with
  | nil => rfl
  | cons c w ih => rw [List.map_cons, wholeOf_cons, ih, List.map_cons, Atom.whole, List.singleton_append]

theorem Token.wholeOf_atoms (t : Token) : wholeOf t.atoms = t.whole := by
  cases t with
  | gap t => exact wholeOf_map_blank t
  | word t => exact wholeOf_map_solid t
  | _ => rfl

/-- The whole tokens of a text are those of its atoms. -/
theorem wholeOf_atoms (source : Text) : wholeOf (atoms source) = whole source := by
  rw [wholeOf, atoms, whole, List.flatMap_assoc]
  exact congrArg (fun f => (Token.all source).flatMap f) (funext Token.wholeOf_atoms)

/-- The token without the white space inside of it. -/
def Token.stripped : Token → Token
  | .comment t => .comment (Text.unspaced t)
  | .string t => .string (Text.unspaced t)
  | t => t

theorem Token.map_stripped_whole (t : Token) : t.whole.map Token.stripped = t.bare := by
  cases t with
  | word t => exact List.map_map
  | _ => rfl

/-- The bare tokens are the whole ones without the white space inside of them. -/
theorem map_stripped_whole (source : Text) : (whole source).map Token.stripped = bare source := by
  rw [whole, bare, List.map_flatMap]
  exact congrArg (fun f => (Token.all source).flatMap f) (funext Token.map_stripped_whole)

/-- Together the whole tokens of atoms spell, without white space, what the atoms spell. -/
theorem flatMap_text_wholeOf {as : List Atom} (has : ∀ a ∈ as, a.WellFormed) :
    ((wholeOf as).map Token.stripped).flatMap Token.text = Text.unspaced (textOf as) := by
  induction as with
  | nil => rfl
  | cons a as ih =>
    obtain ⟨ha, has⟩ := List.forall_mem_cons.mp has
    rw [wholeOf_cons, List.map_append, List.flatMap_append, ih has, textOf_cons, Text.unspaced_append]
    congr 1
    cases a with
    | solid c => exact (Text.unspaced_cons_solid ha.1 []).symm
    | blank c => exact (Text.unspaced_cons_blank ha []).symm
    | string t => exact List.append_nil _
    | comment t => exact List.append_nil _
    | _ => rfl

/-- Together the bare tokens spell the text without its white space. -/
theorem flatMap_text_bare (source : Text) : (bare source).flatMap Token.text = Text.unspaced source := by
  obtain ⟨htext, hlexed⟩ := lexed_atoms source
  rw [← map_stripped_whole, ← wholeOf_atoms, flatMap_text_wholeOf hlexed.wellFormed, htext]

/-! ## Semicolons -/

/-- The tokens with the semicolons that their layout has. `begun` tells that a statement has begun: then a semicolon
ends it, and a closing brace ends it with a semicolon before the brace. Any other semicolon is dropped. White space and
comments begin no statement. -/
def punctuated (begun : Bool) : List Token → List Token
  | [] => []
  | .semicolon :: rest => if begun then .semicolon :: punctuated false rest else punctuated false rest
  | .closeBrace :: rest =>
    if begun then .semicolon :: .closeBrace :: punctuated false rest else .closeBrace :: punctuated false rest
  | .openBrace :: rest => .openBrace :: punctuated false rest
  | .gap t :: rest => .gap t :: punctuated begun rest
  | .comment t :: rest => .comment t :: punctuated begun rest
  | t :: rest => t :: punctuated true rest

/-- White space inside of strings and comments does not matter for the semicolons. -/
theorem punctuated_map_stripped (begun : Bool) (ts : List Token) :
    punctuated begun (ts.map Token.stripped) = (punctuated begun ts).map Token.stripped := by
  induction ts generalizing begun with
  | nil => rfl
  | cons t ts ih => cases t <;> cases begun <;> simp [Token.stripped, punctuated, ih]

/-- The layout changes no code points but semicolons. -/
theorem filter_text_punctuated (begun : Bool) (ts : List Token) :
    ((punctuated begun ts).flatMap Token.text).filter (· ≠ char ';') =
      (ts.flatMap Token.text).filter (· ≠ char ';') := by
  have hmark : ∀ rest : Text, (char ';' :: rest).filter (· ≠ char ';') = rest.filter (· ≠ char ';') :=
    fun rest => List.filter_cons_of_neg (by decide)
  induction ts generalizing begun with
  | nil => rfl
  | cons t ts ih =>
    -- the token itself stays, whatever it begins
    have hkeep : ∀ begun, ((t :: punctuated begun ts).flatMap Token.text).filter (· ≠ char ';') =
        ((t :: ts).flatMap Token.text).filter (· ≠ char ';') := by
      intro begun
      rw [List.flatMap_cons, List.filter_append, ih, ← List.filter_append, ← List.flatMap_cons]
    cases t with
    | semicolon =>
      cases begun with
      | true => exact hkeep false
      | false => exact (ih false).trans (hmark _).symm
    | closeBrace =>
      cases begun with
      | true => exact (hmark _).trans (hkeep false)
      | false => exact hkeep false
    | openBrace => exact hkeep false
    | gap t => exact hkeep begun
    | comment t => exact hkeep begun
    | string t => exact hkeep true
    | word t => exact hkeep true
    | strayQuote mark => exact hkeep true

end Tidy.Css
