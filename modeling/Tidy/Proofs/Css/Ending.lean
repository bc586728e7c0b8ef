/-
# Tidy.Proofs.Css.Ending -- white space at the end of a style sheet, and the line ends in its layout

White space after the last token completes no token, for it is no part of a closing mark: it is one more atom that is
blank, and the buffer that it pads is trimmed. So a style sheet is laid out in the same way with white space after it
(`format_append_blank`). What a layout adds are spaces, line feeds, semicolons and colons, so that it has no line ends
that its source has not (`plainEnds_format`).
-/

import Tidy.Proofs.Css.Reformat
import Tidy.Proofs.Text.LineEnds

namespace Tidy.Css

open CodePoint (char)
open Text (PlainEnds)

/-! ## White space at the end -/

/-- A search that has not ended has not ended after white space either. -/
theorem Watch.isSome_append_blank {step : Bool → CodePoint → Option Bool} (h : Watch step) {c : CodePoint}
    (hc : c.isBlank = true) {t : Text} {st : Bool} (hsome : (t.foldlM step st).isSome = true) :
    ((t ++ [c]).foldlM step st).isSome = true := by
  obtain ⟨st', hst'⟩ := Option.isSome_iff_exists.mp hsome
  have hlast : [c].foldlM step st' = some false := by
    rw [Text.foldlM_cons_some (h.neutral (neutral_of_isBlank hc) st')]
    rfl
  rw [List.foldlM_append, hst']
  exact Option.isSome_iff_exists.mpr ⟨false, hlast⟩

/-- A quote or a slash that finds no partner finds none in white space. -/
theorem Atom.StandsBefore.append_blank {a : Atom} {t : Text} (h : a.StandsBefore t) {c : CodePoint}
    (hc : c.isBlank = true) : a.StandsBefore (t ++ [c]) := by
  cases a with
  | solid d =>
    obtain ⟨hstring, hcomment⟩ := h
    refine ⟨?_, ?_⟩
    · intro hquote
      have hnone := (Text.readStringEnd?_eq_none_iff d t).mp (hstring hquote)
      exact (Text.readStringEnd?_eq_none_iff d _).mpr ((Watch.string hquote).isSome_append_blank hc hnone)
    · intro hslash inside hinside
      cases t with
      | nil =>
        obtain rfl : c = char '*' := by injection hinside
        cases hc
      | cons e t =>
        injection hinside with he hrest
        have hnone := (Text.readCommentEnd?_eq_none_iff t).mp (hcomment hslash t (by rw [he]))
        rw [← hrest]
        exact (Text.readCommentEnd?_eq_none_iff _).mpr (Watch.comment.isSome_append_blank hc hnone)
  | _ => trivial

theorem Lexed.append_blank {as : List Atom} (h : Lexed as) {c : CodePoint} (hc : c.isBlank = true) :
    Lexed (as ++ [.blank c]) := by
  induction h with
  | nil => exact .cons hc trivial .nil
  | cons ha hstands _ ih =>
    rw [List.cons_append]
    refine .cons ha ?_ ih
    rw [textOf_append]
    exact hstands.append_blank hc

theorem atoms_append_blank (source : Text) {c : CodePoint} (hc : c.isBlank = true) :
    atoms (source ++ [c]) = atoms source ++ [.blank c] := by
  obtain ⟨htext, hlexed⟩ := lexed_atoms source
  have hread := atoms_textOf (hlexed.append_blank hc)
  rwa [textOf_append, htext] at hread

theorem flush_pad (buffer : Text) (ended : Bool) : flush (pad buffer) ended = flush buffer ended := by
  have htrim : Text.trim (pad buffer) = Text.trim buffer := by
    unfold pad
    split
    · rfl
    · exact Text.trim_append_tail rfl buffer
  rw [flush, htrim, ← flush]

theorem collect_append_blank (buffer : Text) (as : List Atom) (c : CodePoint) :
    collect buffer (as ++ [.blank c]) = collect buffer as := by
  induction as generalizing buffer with
  | nil => exact flush_pad buffer false
  | cons a as ih => cases a <;> simp only [List.cons_append, collect, ih]

/-- White space after a style sheet does not change its layout. -/
theorem format_append_blank (width : Nat) (source : Text) {c : CodePoint} (hc : c.isBlank = true) :
    format width (source ++ [c]) = format width source := by
  rw [format, entries_eq_collect, atoms_append_blank source hc, collect_append_blank, ← entries_eq_collect, ← format]

/-! ## Line ends -/

/-- The text of the piece has no line ends but line feeds. -/
def Piece.PlainEnds : Piece → Prop
  | comment t | opening t | declaration t _ => Text.PlainEnds t
  | closing => True

theorem plainEnds_pad {buffer : Text} (h : PlainEnds buffer) : PlainEnds (pad buffer) := by
  unfold pad
  split
  · exact h
  · exact Text.plainEnds_append.mpr ⟨h, by decide⟩

theorem plainEnds_flush {buffer : Text} (h : PlainEnds buffer) (ended : Bool) :
    ∀ p ∈ flush buffer ended, p.PlainEnds := by
  unfold flush
  dsimp only
  split
  · exact List.forall_mem_nil _
  · exact List.forall_mem_singleton.mpr h.trim

theorem plainEnds_collect {as : List Atom} (has : PlainEnds (textOf as)) {buffer : Text} (h : PlainEnds buffer) :
    ∀ p ∈ collect buffer as, p.PlainEnds := by
  induction as generalizing buffer with
  | nil => exact plainEnds_flush h false
  | cons a as ih =>
    rw [textOf_cons, Text.plainEnds_append] at has
    obtain ⟨ha, has⟩ := has
    have hrest : ∀ p ∈ collect [] as, p.PlainEnds := ih has Text.plainEnds_nil
    cases a with
    | blank c => exact ih has (plainEnds_pad h)
    | solid c => exact ih has (Text.plainEnds_append.mpr ⟨h, ha⟩)
    | string t => exact ih has (Text.plainEnds_append.mpr ⟨h, ha⟩)
    | comment t =>
      rw [collect]
      split
      · exact List.forall_mem_cons.mpr ⟨ha, hrest⟩
      · exact ih has (Text.plainEnds_append.mpr ⟨h, ha⟩)
    | openBrace => exact List.forall_mem_cons.mpr ⟨h.trim, hrest⟩
    | closeBrace =>
      exact List.forall_mem_append.mpr ⟨plainEnds_flush h true, List.forall_mem_cons.mpr ⟨trivial, hrest⟩⟩
    | semicolon => exact List.forall_mem_append.mpr ⟨plainEnds_flush h true, hrest⟩

theorem plainEnds_normalizeDeclaration {t : Text} (h : PlainEnds t) : PlainEnds (normalizeDeclaration t) := by
  have hname : PlainEnds (t.takeWhile isNamePart) := h.of_subset (List.takeWhile_subset _)
  have hvalue : PlainEnds (t.dropWhile isNamePart) := h.of_subset (List.dropWhile_subset _)
  unfold normalizeDeclaration
  dsimp only
  split
  · exact h
  · rename_i c value hrest
    rw [hrest, Text.plainEnds_cons] at hvalue
    split
    · refine Text.plainEnds_append.mpr ⟨Text.plainEnds_append.mpr ⟨?_, by decide⟩, hvalue.2.trimStart⟩
      unfold trimName
      dsimp only
      split
      · exact hname.of_subset (List.take_subset _ _)
      · exact hname.trimEnd
    · exact h

theorem plainEnds_place {ps : List Piece} (h : ∀ p ∈ ps, p.PlainEnds) (depth : Nat) :
    ∀ e ∈ place depth ps, PlainEnds e.content := by
  induction ps generalizing depth with
  | nil => exact List.forall_mem_nil _
  | cons p ps ih =>
    obtain ⟨hp, hps⟩ := List.forall_mem_cons.mp h
    cases p with
    | comment t => exact List.forall_mem_cons.mpr ⟨hp, ih hps depth⟩
    | opening selector =>
      refine List.forall_mem_cons.mpr ⟨?_, ih hps (depth + 1)⟩
      show PlainEnds (openingLine selector)
      unfold openingLine
      split
      · decide
      · exact Text.plainEnds_append.mpr ⟨hp, by decide⟩
    | closing =>
      have hclosing : PlainEnds closingLine := by decide
      exact List.forall_mem_cons.mpr ⟨hclosing, ih hps (depth - 1)⟩
    | declaration t ended =>
      refine List.forall_mem_cons.mpr ⟨?_, ih hps depth⟩
      show PlainEnds (declarationLine depth t ended)
      rw [declarationLine_eq]
      refine Text.plainEnds_append.mpr ⟨?_, by cases ended <;> decide⟩
      split
      · exact hp
      · exact plainEnds_normalizeDeclaration hp

/-- A layout has no line ends but line feeds if its source has no others. -/
theorem plainEnds_format (width : Nat) {source : Text} (h : PlainEnds source) : PlainEnds (format width source) := by
  have hcollect : ∀ p ∈ collect [] (atoms source), p.PlainEnds := by
    refine plainEnds_collect ?_ Text.plainEnds_nil
    rw [(lexed_atoms source).1]
    exact h
  refine (Layout.plainEnds_render width ?_).trim
  intro e he
  rw [entries_eq_collect] at he
  rcases mem_separate he with he | rfl
  · exact plainEnds_place hcollect 0 e he
  · exact Text.plainEnds_nil

end Tidy.Css
