/-
# Tidy.Proofs.Css.Colons -- what normalising the declarations does to the tokens of a sheet

The tokens of a sheet fall into statements, and those that are declarations inside of a block are normalised
(`recolon`). Token for token this leaves what was there, or a string or a comment with the space around its first colon
set (`recolon_images`), so it moves white space at most (`map_stripped_recolon`).
-/

import Tidy.Proofs.Css.Statements
import Mathlib.Data.List.Forall2

namespace Tidy.Css

/-- The whole tokens of a declaration at a depth. Outside of all blocks nothing is normalised. -/
def declared (depth : Nat) (statement : List Token) : List Token :=
  if depth = 0 then statement else recolonDeclaration statement

/-- The whole tokens of a sheet with its declarations normalised, at a depth; `statement` holds the tokens of the
statement that has begun. What stands before a block is no declaration, and a comment between statements is none. -/
def recolon (depth : Nat) (statement : List Token) : List Token → List Token
  | [] => declared depth statement
  | .openBrace :: ts => statement ++ .openBrace :: recolon (depth + 1) [] ts
  | .closeBrace :: ts => declared depth statement ++ .closeBrace :: recolon (depth - 1) [] ts
  | .semicolon :: ts => declared depth statement ++ .semicolon :: recolon depth [] ts
  | .comment t :: ts =>
    if statement.isEmpty then .comment t :: recolon depth [] ts else recolon depth (statement ++ [.comment t]) ts
  | t :: ts => recolon depth (statement ++ [t]) ts

theorem declared_nil (depth : Nat) : declared depth [] = [] := by
  unfold declared
  split <;> rfl

/-! ## Statements -/

theorem recolon_inner {a : Atom} (ha : a.Inner) {statement : List Token}
    (hcomment : statement = [] → ∀ t, a ≠ .comment t) (depth : Nat) (ts : List Token) :
    recolon depth statement (a.whole ++ ts) = recolon depth (statement ++ a.whole) ts := by
  cases a with
  | solid c => rfl
  | string t => rfl
  | comment t =>
    have hne : statement ≠ [] := fun hnil => hcomment hnil t rfl
    exact if_neg (by simpa using hne)
  | _ => exact absurd ha id

theorem Atom.Inner.whole_ne_nil {a : Atom} (ha : a.Inner) : a.whole ≠ [] := by
  cases a with
  | blank _ => exact absurd ha id
  | _ => exact List.cons_ne_nil _ _

theorem recolon_run {as : List Atom} (h : Run as) {statement : List Token} (hne : statement ≠ []) (depth : Nat)
    (ts : List Token) : recolon depth statement (wholeOf as ++ ts) = recolon depth (statement ++ wholeOf as) ts := by
  induction h generalizing statement with
  | nil => rw [wholeOf_nil, List.append_nil, List.nil_append]
  | @inner a as ha _ ih | @gap a as ha _ ih =>
    show recolon depth statement (a.whole ++ wholeOf as ++ ts) = recolon depth (statement ++ (a.whole ++ wholeOf as)) ts
    rw [List.append_assoc, recolon_inner ha (fun hnil => absurd hnil hne), ih (List.append_ne_nil_of_left_ne_nil hne _),
      List.append_assoc]

/-- The tokens of a statement are gathered before anything is done with them. -/
theorem Statement.recolon {as : List Atom} (h : Statement as) (depth : Nat) (ts : List Token) :
    Css.recolon depth [] (wholeOf as ++ ts) = Css.recolon depth (wholeOf as) ts := by
  obtain ⟨ha, hcomment, has⟩ := h
  rw [wholeOf_cons, List.append_assoc, recolon_inner ha (fun _ => hcomment), List.nil_append,
    recolon_run has ha.whole_ne_nil]

/-! ## Images -/

/-- The token is kept, or has the space around its first colon set. -/
def Token.Image (t t' : Token) : Prop := t' = t ∨ t' = t.recolon

theorem images_refl (ts : List Token) : List.Forall₂ Token.Image ts ts :=
  List.forall₂_same.mpr fun _ _ => Or.inl rfl

theorem recolonDeclaration_images (ts : List Token) : List.Forall₂ Token.Image ts (recolonDeclaration ts) := by
  induction ts with
  | nil => exact .nil
  | cons t ts ih =>
    rw [recolonDeclaration]
    split
    · exact .cons (Or.inl rfl) ih
    · exact .cons (Or.inr rfl) (images_refl ts)

theorem declared_images (depth : Nat) (statement : List Token) :
    List.Forall₂ Token.Image statement (declared depth statement) := by
  unfold declared
  split
  · exact images_refl statement
  · exact recolonDeclaration_images statement

/-- Each token of a sheet has its image in its place. -/
theorem recolon_images (depth : Nat) (statement ts : List Token) :
    List.Forall₂ Token.Image (statement ++ ts) (recolon depth statement ts) := by
  induction ts generalizing depth statement with
  | nil =>
    rw [List.append_nil]
    exact declared_images depth statement
  | cons t ts ih =>
    -- what does not end the statement is gathered
    have hgather : List.Forall₂ Token.Image (statement ++ t :: ts) (recolon depth (statement ++ [t]) ts) := by
      rw [List.append_cons]
      exact ih depth (statement ++ [t])
    cases t with
    | openBrace => exact List.rel_append (images_refl statement) (.cons (Or.inl rfl) (ih _ []))
    | closeBrace => exact List.rel_append (declared_images depth statement) (.cons (Or.inl rfl) (ih _ []))
    | semicolon => exact List.rel_append (declared_images depth statement) (.cons (Or.inl rfl) (ih _ []))
    | comment t =>
      rw [recolon]
      split
      · rename_i hempty
        rw [List.isEmpty_iff.mp hempty]
        exact .cons (Or.inl rfl) (ih depth [])
      · exact hgather
    | _ => exact hgather

theorem Token.Image.stripped {t t' : Token} (h : Token.Image t t') : t'.stripped = t.stripped := by
  rcases h with rfl | rfl
  · rfl
  · cases t with
    | string t => exact congrArg Token.string (unspaced_normalizeDeclaration t)
    | comment t => exact congrArg Token.comment (unspaced_normalizeDeclaration t)
    | _ => rfl

theorem map_stripped_recolon (depth : Nat) (ts : List Token) :
    (recolon depth [] ts).map Token.stripped = ts.map Token.stripped := by
  have himages := recolon_images depth [] ts
  rw [List.nil_append] at himages
  generalize recolon depth [] ts = us at himages
  induction himages with
  | nil => rfl
  | cons himage _ ih => rw [List.map_cons, List.map_cons, himage.stripped, ih]

end Tidy.Css
