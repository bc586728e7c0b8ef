/-
# Tidy.Proofs.Layout -- rendering one part of a layout after another

Rendering takes apart along the list of entries: the parts are rendered apart, with a line feed between them. Entries
that begin at depth zero and have contents that start with something solid (`Anchored`) can be trimmed before they are
rendered instead of after it, at every width.
-/

import Tidy.Layout
import Tidy.Proofs.Text.Trim

namespace Tidy

theorem Text.join_cons (separator t : Text) {rest : List Text} (h : rest ≠ []) :
    Text.join separator (t :: rest) = t ++ (separator ++ Text.join separator rest) := by
  cases rest with
  | nil => exact absurd rfl h
  | cons u rest =>
    rw [Text.join, List.append_assoc]
    exact List.cons_ne_nil u rest

theorem Text.join_append (separator : Text) {first second : List Text} (hfirst : first ≠ []) (hsecond : second ≠ []) :
    Text.join separator (first ++ second) =
      Text.join separator first ++ (separator ++ Text.join separator second) := by
  induction first with
  | nil => exact absurd rfl hfirst
  | cons t first ih =>
    cases first with
    | nil => exact Text.join_cons separator t hsecond
    | cons u first =>
      have hne : u :: first ≠ [] := List.cons_ne_nil u first
      rw [List.cons_append, Text.join_cons _ _ (List.append_ne_nil_of_left_ne_nil hne _), ih hne,
        Text.join_cons _ _ hne]
      simp only [List.append_assoc]

namespace Layout

/-- The line feed between two entries. -/
theorem render_append (width : Nat) {first second : List Entry} (hfirst : first ≠ []) (hsecond : second ≠ []) :
    render width (first ++ second) = render width first ++ CodePoint.newline :: render width second := by
  rw [render, List.map_append, Text.join_append]
  · rfl
  · simpa using hfirst
  · simpa using hsecond

theorem render_singleton (width : Nat) (e : Entry) : render width [e] = line width e := rfl

theorem render_cons (width : Nat) (e : Entry) {rest : List Entry} (h : rest ≠ []) :
    render width (e :: rest) = line width e ++ CodePoint.newline :: render width rest :=
  render_append width (List.cons_ne_nil e []) h

/-! ## Trimming -/

/-- The first entry is not indented, and no content starts with white space. -/
structure Anchored (entries : List Entry) : Prop where
  first : ∀ e, entries.head? = some e → e.depth = 0
  solid : ∀ e ∈ entries, Text.StartsSolid e.content

/-- The entries without white space at the end of the last one. -/
def trimLast : List Entry → List Entry
  | [] => []
  | [e] => [⟨e.depth, Text.trimEnd e.content⟩]
  | e :: next :: rest => e :: trimLast (next :: rest)

theorem trimLast_ne_nil {entries : List Entry} (h : entries ≠ []) : trimLast entries ≠ [] := by
  match entries, h with
  | [e], _ => exact List.cons_ne_nil _ _
  | e :: next :: rest, _ => exact List.cons_ne_nil _ _

/-- There is nothing to trim where all contents end with something solid. -/
theorem trimLast_of_endsSolid {entries : List Entry} (h : ∀ e ∈ entries, Text.EndsSolid e.content) :
    trimLast entries = entries := by
  fun_induction trimLast entries with
  | case1 => rfl
  | case2 e => rw [Text.trimEnd_of_endsSolid (h e List.mem_cons_self)]
  | case3 e next rest ih => rw [ih (List.forall_mem_cons.mp h).2]

theorem Anchored.trimLast {entries : List Entry} (h : Anchored entries) : Anchored (trimLast entries) := by
  have hsolid : ∀ {entries : List Entry}, (∀ e ∈ entries, Text.StartsSolid e.content) →
      ∀ e ∈ Layout.trimLast entries, Text.StartsSolid e.content := by
    intro entries hentries
    fun_induction Layout.trimLast entries with
    | case1 => exact hentries
    | case2 e =>
      intro e' he'
      rw [List.mem_singleton.mp he']
      exact Text.startsSolid_trimEnd (hentries e List.mem_cons_self)
    | case3 e next rest ih =>
      obtain ⟨he, hrest⟩ := List.forall_mem_cons.mp hentries
      exact List.forall_mem_cons.mpr ⟨he, ih hrest⟩
  refine ⟨?_, hsolid h.solid⟩
  match entries with
  | [] => rintro e ⟨⟩
  | [e] =>
    intro e' he'
    obtain rfl := Option.some.inj he'
    exact h.first e rfl
  | e :: next :: rest =>
    intro e' he'
    obtain rfl := Option.some.inj he'
    exact h.first e rfl

/-- Contents that start with something solid are not blank. -/
theorem isBlank_content {t : Text} (hne : t ≠ []) (h : Text.StartsSolid t) : Text.isBlank t = false := by
  cases t with
  | nil => exact absurd rfl hne
  | cons c t => rw [Text.isBlank, List.all_cons, h c rfl, Bool.false_and]

/-- White space at the end of the text is white space at the end of the last content. -/
theorem trimEnd_render {entries : List Entry} (hsolid : ∀ e ∈ entries, Text.StartsSolid e.content)
    (hlast : ∀ e, entries.getLast? = some e → e.content ≠ []) (width : Nat) :
    Text.trimEnd (render width entries) = render width (trimLast entries) ∧
      (entries ≠ [] → Text.isBlank (render width entries) = false) := by
  fun_induction trimLast entries with
  | case1 => exact ⟨rfl, fun h => absurd rfl h⟩
  | case2 e =>
    have hblank := isBlank_content (hlast e rfl) (hsolid e List.mem_cons_self)
    refine ⟨Text.trimEnd_append_of_not_isBlank hblank _, fun _ => ?_⟩
    rw [render_singleton, line, Text.isBlank_append, hblank, Bool.and_false]
  | case3 e next rest ih =>
    have hne : next :: rest ≠ [] := List.cons_ne_nil next rest
    obtain ⟨hrender, hblank⟩ := ih (List.forall_mem_cons.mp hsolid).2 fun e' he' => hlast e' he'
    have hnext : Text.isBlank (CodePoint.newline :: render width (next :: rest)) = false := by
      rw [Text.isBlank, List.all_cons]
      exact (Bool.and_eq_false_iff.mpr (Or.inr (hblank hne)))
    refine ⟨?_, fun _ => ?_⟩
    · rw [render_cons width e hne, render_cons width e (trimLast_ne_nil hne), ← hrender,
        Text.trimEnd_append_of_not_isBlank hnext]
      exact congrArg (line width e ++ ·) (Text.trimEnd_append_of_not_isBlank (hblank hne) [CodePoint.newline])
    · rw [render_cons width e hne, Text.isBlank_append, hnext, Bool.and_false]

/-- The text starts with the first content. -/
theorem Anchored.startsSolid_render {entries : List Entry} (h : Anchored entries)
    (hfirst : ∀ e, entries.head? = some e → e.content ≠ []) (width : Nat) :
    Text.StartsSolid (render width entries) := by
  cases entries with
  | nil => rintro c ⟨⟩
  | cons e rest =>
    have hline : Text.StartsSolid (line width e) := by
      rw [line, h.first e rfl]
      exact h.solid e List.mem_cons_self
    have hne : line width e ≠ [] := List.append_ne_nil_of_right_ne_nil _ (hfirst e rfl)
    by_cases hrest : rest = []
    · rw [hrest]
      exact hline
    · rw [render_cons width e hrest]
      exact Text.startsSolid_append hne hline _

/-- Trimming the text is trimming the last content. -/
theorem Anchored.trim_render {entries : List Entry} (h : Anchored entries)
    (hfirst : ∀ e, entries.head? = some e → e.content ≠ [])
    (hlast : ∀ e, entries.getLast? = some e → e.content ≠ []) (width : Nat) :
    Text.trim (render width entries) = render width (Layout.trimLast entries) := by
  rw [Text.trim, Text.trimStart_of_startsSolid (h.startsSolid_render hfirst width),
    (trimEnd_render h.solid hlast width).1]

end Layout

end Tidy
