/-
# Tidy.Proofs.Css.Separate -- the empty lines of a style sheet

An empty line stands behind each line that closes a block, unless nothing follows or another such line does. Setting the
lines apart leaves them as they are (`filter_separate`), and it can be done for one part of them after the other
(`separate_append`).
-/

import Mathlib.Data.List.Chain
import Tidy.Css.Sheet
import Tidy.Proofs.Layout

namespace Tidy.Css

open CodePoint (newline)

/-- The empty line between two lines, if there is one. -/
def parting (a b : Entry) : List Entry :=
  if a.content = closingLine ∧ b.content ≠ closingLine then [Layout.emptyLine] else []

theorem separate_cons_cons (a b : Entry) (es : List Entry) :
    separate (a :: b :: es) = a :: (parting a b ++ separate (b :: es)) := by
  rw [separate, parting]
  split <;> rfl

/-! ## What stands among the lines -/

/-- Empty lines stand between other entries. -/
theorem mem_separate {e : Entry} {es : List Entry} (h : e ∈ separate es) : e ∈ es ∨ e = Layout.emptyLine := by
  fun_induction separate es with
  | case1 => cases h
  | case2 entry => exact Or.inl h
  | case3 entry next rest _ ih =>
    rcases List.mem_cons.mp h with rfl | h
    · exact Or.inl List.mem_cons_self
    · rcases List.mem_cons.mp h with rfl | h
      · exact Or.inr rfl
      · exact (ih h).imp_left (List.mem_cons_of_mem entry)
  | case4 entry next rest _ ih =>
    rcases List.mem_cons.mp h with rfl | h
    · exact Or.inl List.mem_cons_self
    · exact (ih h).imp_left (List.mem_cons_of_mem entry)

theorem head?_separate (es : List Entry) : (separate es).head? = es.head? := by
  fun_cases separate es <;> rfl

theorem getLast?_separate (es : List Entry) : (separate es).getLast? = es.getLast? := by
  fun_induction separate es with
  | case1 => rfl
  | case2 => rfl
  | case3 entry next rest _ ih => rw [List.getLast?_cons_cons, List.getLast?_cons, ih, List.getLast?_cons_cons]; rfl
  | case4 entry next rest _ ih => rw [List.getLast?_cons, ih, List.getLast?_cons_cons]; rfl

/-- White space that stands for the break after an entry. -/
theorem render_separate_cons (width : Nat) (e : Entry) {es : List Entry} (hes : es ≠ []) :
    ∃ w, (w = [newline] ∨ w = [newline, newline]) ∧ Layout.render width (separate (e :: es)) =
      Layout.line width e ++ (w ++ Layout.render width (separate es)) := by
  cases es with
  | nil => exact absurd rfl hes
  | cons next rest =>
    have hne : separate (next :: rest) ≠ [] := by
      intro hnil
      have hhead := head?_separate (next :: rest)
      rw [hnil] at hhead
      cases hhead
    rw [separate]
    split
    · refine ⟨[newline, newline], Or.inr rfl, ?_⟩
      rw [Layout.render_cons _ _ (List.cons_ne_nil _ _), Layout.render_cons _ _ hne]
      rfl
    · refine ⟨[newline], Or.inl rfl, ?_⟩
      rw [Layout.render_cons _ _ hne]
      rfl

/-- An empty line stands between two lines that follow each other just where the first one ends a block and the second
one does not. -/
structure Parted (a b : Entry) : Prop where
  empty_after : b.content = [] → a.content = closingLine
  empty_before : a.content = [] → b.content ≠ [] ∧ b.content ≠ closingLine
  closing_before : a.content = closingLine → b.content = [] ∨ b.content = closingLine

/-- Empty lines stand where they should, among lines that are not empty. -/
theorem isChain_separate {es : List Entry} (hes : ∀ e ∈ es, e.content ≠ []) : (separate es).IsChain Parted := by
  fun_induction separate es with
  | case1 => exact .nil
  | case2 e => exact .singleton e
  | case3 e next rest h ih =>
    obtain ⟨he, hrest⟩ := List.forall_mem_cons.mp hes
    have hnext := (List.forall_mem_cons.mp hrest).1
    have hfirst : Parted e Layout.emptyLine := ⟨fun _ => h.1, fun hnil => absurd hnil he, fun _ => Or.inl rfl⟩
    have hsecond : Parted Layout.emptyLine next :=
      ⟨fun hnil => absurd hnil hnext, fun _ => ⟨hnext, h.2⟩, fun hclosing => absurd hclosing (by decide)⟩
    refine List.isChain_cons.mpr ⟨?_, List.isChain_cons.mpr ⟨?_, ih hrest⟩⟩
    · rintro e' he'
      obtain rfl := Option.some.inj he'
      exact hfirst
    · intro e' he'
      rw [head?_separate] at he'
      obtain rfl := Option.some.inj he'
      exact hsecond
  | case4 e next rest h ih =>
    obtain ⟨he, hrest⟩ := List.forall_mem_cons.mp hes
    have hnext := (List.forall_mem_cons.mp hrest).1
    refine List.isChain_cons.mpr ⟨?_, ih hrest⟩
    intro e' he'
    rw [head?_separate] at he'
    obtain rfl := Option.some.inj he'
    refine ⟨fun hnil => absurd hnil hnext, fun hnil => absurd hnil he, fun hclosing => Or.inr ?_⟩
    exact Decidable.not_not.mp fun hother => h ⟨hclosing, hother⟩

theorem filter_separate {es : List Entry} (hes : ∀ e ∈ es, e.content ≠ []) :
    (separate es).filter (·.content ≠ []) = es := by
  have hkeep : ∀ {e : Entry}, e.content ≠ [] →
      ∀ rest, (e :: rest).filter (·.content ≠ []) = e :: rest.filter (·.content ≠ []) :=
    fun he rest => List.filter_cons_of_pos (by simpa using he)
  fun_induction separate es with
  | case1 => rfl
  | case2 e => exact hkeep (hes e List.mem_cons_self) []
  | case3 e next rest h ih =>
    obtain ⟨he, hrest⟩ := List.forall_mem_cons.mp hes
    rw [hkeep he, List.filter_cons_of_neg (by decide), ih hrest]
  | case4 e next rest h ih =>
    obtain ⟨he, hrest⟩ := List.forall_mem_cons.mp hes
    rw [hkeep he, ih hrest]

/-! ## One part after the other -/

/-- Lines are set apart one list after the other. -/
theorem separate_append (as : List Entry) (a b : Entry) (es : List Entry) :
    separate (as ++ a :: b :: es) = separate (as ++ [a]) ++ (parting a b ++ separate (b :: es)) := by
  induction as with
  | nil => exact separate_cons_cons a b es
  | cons c as ih =>
    cases as with
    | nil =>
      show separate (c :: a :: b :: es) = separate [c, a] ++ _
      rw [separate_cons_cons c a, separate_cons_cons a b, separate_cons_cons c a, List.cons_append, List.append_assoc]
      rfl
    | cons d as =>
      have hrest : separate (d :: (as ++ a :: b :: es)) = separate (d :: (as ++ [a])) ++ _ := ih
      show separate (c :: d :: (as ++ a :: b :: es)) = separate (c :: d :: (as ++ [a])) ++ _
      rw [separate_cons_cons, separate_cons_cons, hrest, List.cons_append, List.append_assoc]

/-- No empty line follows a line that closes nothing. -/
theorem separate_cons_of_ne {a : Entry} (h : a.content ≠ closingLine) (es : List Entry) :
    separate (a :: es) = a :: separate es := by
  cases es with
  | nil => rfl
  | cons b es => rw [separate_cons_cons, parting, if_neg fun hboth => h hboth.1, List.nil_append]

/-- No empty line is before a line that closes a block. -/
theorem separate_concat_closing {b : Entry} (h : b.content = closingLine) (es : List Entry) :
    separate (es ++ [b]) = separate es ++ [b] := by
  rcases List.eq_nil_or_concat' es with rfl | ⟨as, a, rfl⟩
  · rfl
  · rw [List.append_assoc, List.singleton_append, separate_append, parting, if_neg fun hboth => hboth.2 h,
      List.nil_append]
    rfl

end Tidy.Css
