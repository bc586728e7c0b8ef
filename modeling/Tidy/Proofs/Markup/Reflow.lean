/-
# Tidy.Proofs.Markup.Reflow -- what a layout changes in markup

A layout changes white space only, and only in two places: a run of white space with a line feed in it becomes a line
feed and spaces, and so does a run, even an empty one, before a `<`. `Reflowed` says this code point by code point, so
that an induction over it meets one code point at a time: white space is lost before a line feed (`drop`) and after
one (`trail`), a line feed is followed by spaces (`pad`), and a line feed stands before a `<` (`brk`). Which code points
may be lost is a parameter.
-/

import Tidy.Proofs.Markup.Lines

namespace Tidy.Markup

open CodePoint (char)

/-- The second text is the first one, laid out; only `white` code points are lost. -/
inductive Reflowed (white : CodePoint → Bool) : Text → Text → Prop
  | nil : Reflowed white [] []
  | cons (c : CodePoint) {s t : Text} :
      Reflowed white s t → Reflowed white (c :: s) (c :: t)
  | drop {c : CodePoint} {s t : Text} :
      white c = true → Reflowed white s (CodePoint.newline :: t) → Reflowed white (c :: s) (CodePoint.newline :: t)
  | trail {c : CodePoint} {s t : Text} :
      white c = true → Reflowed white (CodePoint.newline :: s) (CodePoint.newline :: t) →
      Reflowed white (CodePoint.newline :: c :: s) (CodePoint.newline :: t)
  | pad {s t : Text} :
      Reflowed white s (CodePoint.newline :: t) → Reflowed white s (CodePoint.newline :: char ' ' :: t)
  | brk {s t : Text} :
      Reflowed white (char '<' :: s) (char '<' :: t) →
      Reflowed white (char '<' :: s) (CodePoint.newline :: char '<' :: t)

namespace Reflowed

variable {white : CodePoint → Bool} {s t : Text}

theorem append (line : Text) (h : Reflowed white s t) : Reflowed white (line ++ s) (line ++ t) := by
  induction line with
  | nil => exact h
  | cons c line ih => exact .cons c ih

theorem refl (s : Text) : Reflowed white s s := by
  have hsame : Reflowed white (s ++ []) (s ++ []) := append s .nil
  rwa [List.append_nil] at hsame

theorem pads (n : Nat) (h : Reflowed white s (CodePoint.newline :: t)) :
    Reflowed white s (CodePoint.newline :: (Text.spaces n ++ t)) := by
  induction n with
  | zero => exact h
  | succ n ih => exact .pad ih

theorem drops {gap : Text} (hgap : ∀ c ∈ gap, white c = true) (h : Reflowed white s (CodePoint.newline :: t)) :
    Reflowed white (gap ++ s) (CodePoint.newline :: t) := by
  induction gap with
  | nil => exact h
  | cons c gap ih =>
    obtain ⟨hc, hgap⟩ := List.forall_mem_cons.mp hgap
    exact .drop hc (ih hgap)

theorem trails {gap : Text} (hgap : ∀ c ∈ gap, white c = true)
    (h : Reflowed white (CodePoint.newline :: s) (CodePoint.newline :: t)) :
    Reflowed white (CodePoint.newline :: (gap ++ s)) (CodePoint.newline :: t) := by
  induction gap with
  | nil => exact h
  | cons c gap ih =>
    obtain ⟨hc, hgap⟩ := List.forall_mem_cons.mp hgap
    exact .trail hc (ih hgap)

/-- White space with a line feed in it becomes a line feed and spaces. -/
theorem gap {w : Text} (hw : ∀ c ∈ w, white c = true) (hnewline : CodePoint.newline ∈ w) (n : Nat)
    (h : Reflowed white s t) : Reflowed white (w ++ s) (CodePoint.newline :: (Text.spaces n ++ t)) := by
  obtain ⟨before, after, rfl, -⟩ := List.eq_append_cons_of_mem hnewline
  obtain ⟨hbefore, hafter⟩ := List.forall_mem_append.mp hw
  rw [List.append_assoc]
  apply drops hbefore
  exact trails (List.forall_mem_cons.mp hafter).2 (pads n (.cons _ h))

/-- White space before a tag becomes a line feed and spaces. -/
theorem tagGap {w : Text} (hw : ∀ c ∈ w, white c = true) (n : Nat)
    (h : Reflowed white (char '<' :: s) (char '<' :: t)) :
    Reflowed white (w ++ char '<' :: s) (CodePoint.newline :: (Text.spaces n ++ char '<' :: t)) :=
  drops hw (pads n (.brk h))

/-! ## What stands at the start -/

theorem nil_left (h : Reflowed white [] t) : t = [] := by
  generalize hs : ([] : Text) = s at h
  induction h with
  | nil => rfl
  | pad _ ih =>
    have hnone := ih hs
    rw [← hs] at hnone
    cases hnone
  | _ => cases hs

theorem nil_right (h : Reflowed white s []) : s = [] := by
  cases h
  rfl

/-- Only a line feed that has been put there is no code point of the first text. -/
theorem head_right {c : CodePoint} (h : Reflowed white s (c :: t)) (hc : c ≠ CodePoint.newline) :
    ∃ s', s = c :: s' ∧ Reflowed white s' t := by
  cases h with
  | cons _ h => exact ⟨_, rfl, h⟩
  | _ => exact absurd rfl hc

/-- A code point that is no white space stays where it is, unless a tag begins with it. -/
theorem head_left {c : CodePoint} (h : Reflowed white (c :: s) t) (hwhite : white c = false)
    (hnewline : c ≠ CodePoint.newline) (htag : c ≠ char '<') : ∃ t', t = c :: t' ∧ Reflowed white s t' := by
  generalize hs : c :: s = u at h
  induction h with
  | nil => cases hs
  | cons d h =>
    rw [List.cons.injEq] at hs
    obtain ⟨rfl, rfl⟩ := hs
    exact ⟨_, rfl, h⟩
  | drop hlost =>
    rw [List.cons.injEq] at hs
    rw [← hs.1, hwhite] at hlost
    cases hlost
  | trail =>
    rw [List.cons.injEq] at hs
    exact absurd hs.1 hnewline
  | pad _ ih =>
    obtain ⟨t', heq, -⟩ := ih hs
    rw [List.cons.injEq] at heq
    exact absurd heq.1.symm hnewline
  | brk =>
    rw [List.cons.injEq] at hs
    exact absurd hs.1 htag

/-- A tag stays where it is, or has a line feed and spaces before it. -/
theorem tag_left (h : Reflowed white (char '<' :: s) t) (hwhite : white (char '<') = false) :
    ∃ t', Reflowed white s t' ∧
      (t = char '<' :: t' ∨ ∃ n, t = CodePoint.newline :: (Text.spaces n ++ char '<' :: t')) := by
  generalize hs : char '<' :: s = u at h
  induction h with
  | nil => cases hs
  | cons d h =>
    rw [List.cons.injEq] at hs
    obtain ⟨rfl, rfl⟩ := hs
    exact ⟨_, h, Or.inl rfl⟩
  | drop hlost =>
    rw [List.cons.injEq] at hs
    rw [← hs.1, hwhite] at hlost
    cases hlost
  | trail =>
    rw [List.cons.injEq] at hs
    exact absurd hs.1 (by decide)
  | pad _ ih =>
    obtain ⟨t', ht', heq | ⟨n, heq⟩⟩ := ih hs
    · rw [List.cons.injEq] at heq
      exact absurd heq.1 (by decide)
    · rw [List.cons.injEq] at heq
      exact ⟨t', ht', Or.inr ⟨n + 1, by rw [heq.2]; rfl⟩⟩
  | brk h =>
    rw [List.cons.injEq] at hs
    obtain ⟨-, rfl⟩ := hs
    obtain ⟨s', hs', ht'⟩ := h.head_right (by decide)
    rw [List.cons.injEq] at hs'
    obtain ⟨-, rfl⟩ := hs'
    exact ⟨_, ht', Or.inr ⟨0, rfl⟩⟩

/-- What stands at the start stays there or makes place for a line feed. -/
theorem cons_left {c : CodePoint} (h : Reflowed white (c :: s) t) :
    (∃ t', t = c :: t' ∧ Reflowed white s t') ∨ ∃ t', t = CodePoint.newline :: t' := by
  generalize hs : c :: s = u at h
  cases h with
  | nil => cases hs
  | cons d h =>
    rw [List.cons.injEq] at hs
    obtain ⟨rfl, rfl⟩ := hs
    exact Or.inl ⟨_, rfl, h⟩
  | _ => exact Or.inr ⟨_, rfl⟩

/-- No code point is new but for line feeds and spaces. -/
theorem mem_right (h : Reflowed white s t) {c : CodePoint} (hc : c ∈ t) :
    c ∈ s ∨ c = CodePoint.newline ∨ c = char ' ' := by
  induction h with
  | nil => cases hc
  | cons d _ ih =>
    rcases List.mem_cons.mp hc with rfl | hmem
    · exact Or.inl List.mem_cons_self
    · exact (ih hmem).imp (List.mem_cons_of_mem d) id
  | drop _ _ ih => exact (ih hc).imp (List.mem_cons_of_mem _) id
  | @trail d s t _ _ ih =>
    refine (ih hc).imp ?_ id
    intro hmem
    rcases List.mem_cons.mp hmem with rfl | hmem
    · exact List.mem_cons_self
    · exact List.mem_cons_of_mem _ (List.mem_cons_of_mem d hmem)
  | pad _ ih =>
    rcases List.mem_cons.mp hc with rfl | hmem
    · exact Or.inr (Or.inl rfl)
    rcases List.mem_cons.mp hmem with rfl | hmem
    · exact Or.inr (Or.inr rfl)
    · exact ih (List.mem_cons_of_mem _ hmem)
  | brk _ ih =>
    rcases List.mem_cons.mp hc with rfl | hmem
    · exact Or.inr (Or.inl rfl)
    · exact ih hmem

/-- A solid code point that begins no tag divides both texts. -/
theorem split {q : CodePoint} {first last : Text} (h : Reflowed white (first ++ q :: last) t) (hq : white q = false)
    (hnewline : q ≠ CodePoint.newline) (htag : q ≠ char '<') :
    ∃ first' last', t = first' ++ q :: last' ∧ Reflowed white first first' ∧ Reflowed white last last' := by
  generalize hs : first ++ q :: last = s at h
  have hlost : ∀ {c : CodePoint}, white c = true → c ≠ q := by
    rintro c hc rfl
    rw [hq] at hc
    cases hc
  induction h generalizing first with
  | nil =>
    cases first with
    | nil => cases hs
    | cons => cases hs
  | @cons c s t h ih =>
    cases first with
    | nil =>
      rw [List.nil_append, List.cons.injEq] at hs
      obtain ⟨rfl, rfl⟩ := hs
      exact ⟨[], t, rfl, .nil, h⟩
    | cons d first =>
      rw [List.cons_append, List.cons.injEq] at hs
      obtain ⟨rfl, rfl⟩ := hs
      obtain ⟨first', last', rfl, hbefore, hlast⟩ := ih rfl
      exact ⟨d :: first', last', rfl, hbefore.cons d, hlast⟩
  | @drop c s t hc h ih =>
    obtain ⟨more, rfl, rfl⟩ := Text.exists_before_mark (hlost hc) hs.symm
    obtain ⟨first', last', ht, hbefore, hlast⟩ := ih rfl
    obtain ⟨more', rfl, rfl⟩ := Text.exists_before_mark hnewline.symm ht
    exact ⟨_, last', rfl, .drop hc hbefore, hlast⟩
  | @trail c s t hc h ih =>
    obtain ⟨more, rfl, hmore⟩ := Text.exists_before_mark hnewline.symm hs.symm
    obtain ⟨more, rfl, rfl⟩ := Text.exists_before_mark (hlost hc) hmore
    obtain ⟨first', last', ht, hbefore, hlast⟩ := @ih (CodePoint.newline :: more) rfl
    obtain ⟨more', rfl, rfl⟩ := Text.exists_before_mark hnewline.symm ht
    exact ⟨_, last', rfl, .trail hc hbefore, hlast⟩
  | pad h ih =>
    obtain ⟨first', last', ht, hbefore, hlast⟩ := ih hs
    obtain ⟨more', rfl, rfl⟩ := Text.exists_before_mark hnewline.symm ht
    exact ⟨CodePoint.newline :: char ' ' :: more', last', rfl, .pad hbefore, hlast⟩
  | brk h ih =>
    obtain ⟨more, rfl, rfl⟩ := Text.exists_before_mark htag.symm hs.symm
    obtain ⟨first', last', ht, hbefore, hlast⟩ := @ih (char '<' :: more) rfl
    obtain ⟨more', rfl, rfl⟩ := Text.exists_before_mark htag.symm ht
    exact ⟨CodePoint.newline :: char '<' :: more', last', rfl, .brk hbefore, hlast⟩

/-- What the start of a text up to a given mark becomes. -/
theorem takeWhile {kind : CodePoint → Bool} (hwhite : ∀ c, white c = true → kind c = true)
    (hnewline : kind CodePoint.newline = true) (hspace : kind (char ' ') = true) (htag : kind (char '<') = true)
    (h : Reflowed white s t) : Reflowed white (s.takeWhile kind) (t.takeWhile kind) := by
  induction h with
  | nil => exact .nil
  | @cons c s t h ih =>
    cases hc : kind c with
    | true =>
      rw [List.takeWhile_cons_of_pos hc, List.takeWhile_cons_of_pos hc]
      exact ih.cons c
    | false =>
      rw [List.takeWhile_cons_of_neg (by simp [hc]), List.takeWhile_cons_of_neg (by simp [hc])]
      exact .nil
  | @drop c s t hlost h ih =>
    rw [List.takeWhile_cons_of_pos hnewline] at ih
    rw [List.takeWhile_cons_of_pos (hwhite c hlost), List.takeWhile_cons_of_pos hnewline]
    exact .drop hlost ih
  | @trail c s t hlost h ih =>
    rw [List.takeWhile_cons_of_pos hnewline, List.takeWhile_cons_of_pos hnewline] at ih
    rw [List.takeWhile_cons_of_pos hnewline, List.takeWhile_cons_of_pos (hwhite c hlost),
      List.takeWhile_cons_of_pos hnewline]
    exact .trail hlost ih
  | pad h ih =>
    rw [List.takeWhile_cons_of_pos hnewline] at ih
    rw [List.takeWhile_cons_of_pos hnewline, List.takeWhile_cons_of_pos hspace]
    exact .pad ih
  | brk h ih =>
    rw [List.takeWhile_cons_of_pos htag, List.takeWhile_cons_of_pos htag] at ih
    rw [List.takeWhile_cons_of_pos htag, List.takeWhile_cons_of_pos hnewline, List.takeWhile_cons_of_pos htag]
    exact .brk ih

end Reflowed

/-! ## Layouts -/

theorem Cut.head?_eq {t : Text} {lines : List Text} (h : Cut t lines) :
    t.head? = lines.head?.bind List.head? := by
  cases h with
  | last => rfl
  | cons hline => exact head?_append_of_ne_nil hline.nonempty _

/-- A text with the same lines, of which only the white space between the lines differs. -/
theorem Cut.reflowed {white : CodePoint → Bool} {s : Text} {lines : List Text} (h : Cut s lines)
    (hwhite : ∀ c ∈ s, c.isBlank = true → white c = true) (width : Nat) {entries : List Entry}
    (hentries : entries.map Entry.content = lines) :
    ∃ n t, Layout.render width entries = Text.spaces n ++ t ∧ (∀ e, entries.head? = some e → n = width * e.depth) ∧
      Cut t lines ∧ Reflowed white s t := by
  induction h generalizing entries with
  | @last line hline =>
    obtain ⟨e, rfl, rfl⟩ := List.map_eq_singleton_iff.mp hentries
    refine ⟨width * e.depth, e.content, rfl, ?_, .last hline, ?_⟩
    · intro e' he'
      obtain rfl : e = e' := by injection he'
      rfl
    · exact Reflowed.refl e.content
  | @cons line gap rest lines hline hgap hdivides hcut ih =>
    obtain ⟨e, es, rfl, rfl, hes⟩ := List.map_eq_cons_iff.mp hentries
    obtain ⟨hwhiteGap, hwhiteRest⟩ : (∀ c ∈ gap, white c = true) ∧ ∀ c ∈ rest, c.isBlank = true → white c = true := by
      constructor
      · intro c hc
        exact hwhite c (by simp [hc]) (List.all_eq_true.mp hgap c hc)
      · intro c hc
        exact hwhite c (by simp [hc])
    obtain ⟨n, t, hrender, -, hcut', hreflowed⟩ := ih hwhiteRest hes
    have hne : es ≠ [] := by
      rintro rfl
      rw [List.map_nil] at hes
      subst hes
      cases hcut
    have hnewline : Text.isBlank (CodePoint.newline :: Text.spaces n) = true := Text.isBlank_spaces n
    refine ⟨width * e.depth, e.content ++ (CodePoint.newline :: Text.spaces n ++ t), ?_, ?_, ?_, ?_⟩
    · rw [Layout.render_cons width e hne, hrender, Layout.line, List.append_assoc]
      rfl
    · intro e' he'
      obtain rfl : e = e' := by injection he'
      rfl
    · exact .cons hline hnewline (Or.inl List.mem_cons_self) hcut'
    · apply Reflowed.append
      rcases hdivides with hline | ⟨-, hopen⟩
      · exact hreflowed.gap hwhiteGap hline n
      · -- the next line begins with a tag in both texts
        cases rest with
        | nil => cases hopen
        | cons d rest =>
          obtain rfl : d = char '<' := by injection hopen
          have hhead := hcut'.head?_eq.trans hcut.head?_eq.symm
          cases t with
          | nil => cases hhead
          | cons d t =>
            obtain rfl : d = char '<' := by injection hhead
            exact Reflowed.tagGap hwhiteGap n hreflowed

/-- A tag in second place begins a line only behind a `>`. -/
theorem Cut.tag_second {c : CodePoint} {s : Text} {lines : List Text} (h : Cut (c :: s) lines) (hc : c ≠ char '>')
    (htag : s.head? = some (char '<')) : ∃ line, lines.head? = some (c :: char '<' :: line) := by
  generalize hu : c :: s = u at h
  cases h with
  | last hline =>
    cases s with
    | nil => cases htag
    | cons d s =>
      obtain rfl : d = char '<' := by injection htag
      exact ⟨s, by rw [hu]; rfl⟩
  | @cons line gap rest lines hline hgap hdivides hcut =>
    cases line with
    | nil => exact absurd rfl hline.nonempty
    | cons d line =>
      rw [List.cons_append, List.cons.injEq] at hu
      obtain ⟨rfl, rfl⟩ := hu
      cases line with
      | nil =>
        -- then the first line would be one code point, and white space would follow it
        have hnewline : CodePoint.newline ∈ gap := by
          refine hdivides.resolve_right ?_
          rintro ⟨hlast, -⟩
          injection hlast with hlast
          exact hc hlast
        cases gap with
        | nil => cases hnewline
        | cons d gap =>
          obtain rfl : d = char '<' := by injection htag
          cases hgap
      | cons d line =>
        obtain rfl : d = char '<' := by injection htag
        exact ⟨line, rfl⟩

/-- A text begins with the first of its lines. -/
theorem Cut.eq_append {t line : Text} {lines : List Text} (h : Cut t lines) (hline : lines.head? = some line) :
    ∃ rest, t = line ++ rest := by
  cases h with
  | last =>
    obtain rfl := Option.some.inj hline
    exact ⟨[], (List.append_nil _).symm⟩
  | cons =>
    obtain rfl := Option.some.inj hline
    exact ⟨_, rfl⟩

theorem map_content_indentFrom (depth : Nat) (lines : List Text) :
    (indentFrom depth lines).map Entry.content = lines := by
  induction lines generalizing depth with
  | nil => rfl
  | cons line lines ih => rw [indentFrom, List.map_cons, ih]

/-- The first line is not indented, for there is no depth below zero. -/
theorem depth_head_indentFrom {lines : List Text} {e : Entry} (h : (indentFrom 0 lines).head? = some e) :
    e.depth = 0 := by
  cases lines with
  | nil => cases h
  | cons line lines =>
    obtain rfl := Option.some.inj h
    show (if isClosingTag line then 0 - 1 else 0) = 0
    split <;> rfl

theorem Cut.unindented {t : Text} {lines : List Text} (h : Cut t lines) {width n : Nat}
    (hdepth : ∀ e, (indentFrom 0 lines).head? = some e → n = width * e.depth) : n = 0 := by
  cases lines with
  | nil => cases h
  | cons line lines =>
    have hfirst : (indentFrom 0 (line :: lines)).head? = some _ := rfl
    rw [hdepth _ rfl, depth_head_indentFrom hfirst, Nat.mul_zero]

/-- The layout of a text that is solid at both ends: the same lines, and the text reflowed. -/
theorem format_reflowed {white : CodePoint → Bool} {s : Text} (hne : s ≠ []) (hstarts : Text.StartsSolid s)
    (hends : Text.EndsSolid s) (hwhite : ∀ c ∈ s, c.isBlank = true → white c = true) (width : Nat) :
    Cut (format width s) (splitTags s) ∧ Reflowed white s (format width s) := by
  have hcut := cut_splitTags hne hstarts hends
  obtain ⟨n, t, hrender, hdepth, hcut', hreflowed⟩ := hcut.reflowed hwhite width (map_content_indentFrom 0 _)
  obtain rfl := hcut.unindented hdepth
  have hformat : format width s = t := by
    rw [format, entries, hrender]
    rfl
  rw [hformat]
  exact ⟨hcut', hreflowed⟩

end Tidy.Markup
