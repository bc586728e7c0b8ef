/-
# Tidy.Proofs.Markup.Lines -- markup is cut into lines, and cut so again after it was laid out

A cut of a text into lines takes white space away between them: white space with a line feed in it, or any, even
none, between a `>` and a `<` (`Cut`). Every text that is solid at both ends has a cut, and `splitTags` finds it; in
particular there is only one. A layout of the lines puts a line feed and spaces in the place of the white space, so it
is cut into the same lines.
-/

import Tidy.Markup.Tag
import Tidy.Proofs.Layout
import Tidy.Proofs.Text.Split
import Tidy.Proofs.Text.Trim

namespace Tidy.Markup

open CodePoint (char)

/-! ## Breaking between tags -/

theorem breakTags_cons (c : CodePoint) (rest : Text) :
    breakTags (c :: rest) =
      if c = char '>' ∧ (Text.trimStart (breakTags rest)).head? = some (char '<') then
        c :: char '\n' :: Text.trimStart (breakTags rest)
      else c :: breakTags rest := rfl

theorem head?_breakTags (t : Text) : (breakTags t).head? = t.head? := by
  cases t with
  | nil => rfl
  | cons c rest =>
    rw [breakTags_cons]
    split <;> rfl

theorem breakTags_blank {gap : Text} (h : Text.isBlank gap = true) (rest : Text) :
    breakTags (gap ++ rest) = gap ++ breakTags rest := by
  induction gap with
  | nil => rfl
  | cons c gap ih =>
    simp only [Text.isBlank, List.all_cons, Bool.and_eq_true] at h
    have hc : ¬ c = char '>' := by
      rintro rfl
      exact absurd h.1 (by decide)
    rw [List.cons_append, breakTags_cons, if_neg (fun hboth => hc hboth.1), ih h.2, List.cons_append]

theorem startsSolid_breakTags {t : Text} (h : Text.StartsSolid t) : Text.StartsSolid (breakTags t) := by
  intro c hc
  rw [head?_breakTags] at hc
  exact h c hc

/-- A line: solid at both ends, on one line, and without a place to break it. -/
structure IsLine (line : Text) : Prop where
  nonempty : line ≠ []
  starts : Text.StartsSolid line
  ends : Text.EndsSolid line
  single : CodePoint.newline ∉ line
  whole : breakTags line = line

/-- What breaking makes of a text that follows a line. -/
def brokenAfter (line rest : Text) : Text :=
  if line.getLast? = some (char '>') ∧ (Text.trimStart (breakTags rest)).head? = some (char '<') then
    char '\n' :: Text.trimStart (breakTags rest)
  else breakTags rest

theorem head?_append_of_ne_nil {s : Text} (h : s ≠ []) (t : Text) : (s ++ t).head? = s.head? := by
  cases s with
  | nil => exact absurd rfl h
  | cons c s => rfl

theorem head?_trimStart_append {s : Text} (h : Text.isBlank s = false) (t : Text) :
    (Text.trimStart (s ++ t)).head? = (Text.trimStart s).head? := by
  rw [Text.trimStart_append_of_not_isBlank h]
  have hne : Text.trimStart s ≠ [] := by
    intro hnil
    rw [Text.trimStart_eq_nil_iff, h] at hnil
    cases hnil
  exact head?_append_of_ne_nil hne t

theorem isBlank_of_endsSolid {t : Text} (hne : t ≠ []) (h : Text.EndsSolid t) : Text.isBlank t = false := by
  obtain ⟨c, hc⟩ : ∃ c, t.getLast? = some c := ⟨_, List.getLast?_eq_some_getLast hne⟩
  rw [Text.isBlank, List.all_eq_false]
  exact ⟨c, List.mem_of_getLast? hc, by simp [h c hc]⟩

/-- A line that stands before other text is left as it is; only behind it may a break be put. -/
theorem breakTags_append {line : Text} (hne : line ≠ []) (hends : Text.EndsSolid line)
    (hsingle : CodePoint.newline ∉ line) (hwhole : breakTags line = line) (rest : Text) :
    breakTags (line ++ rest) = line ++ brokenAfter line rest := by
  induction line with
  | nil => exact absurd rfl hne
  | cons c line ih =>
    cases line with
    | nil =>
      simp only [List.singleton_append, breakTags_cons, brokenAfter, List.getLast?_singleton, Option.some.injEq]
      split <;> rfl
    | cons d line =>
      rw [breakTags_cons] at hwhole
      split at hwhole
      · -- a break inside the line would show as a line feed
        rw [List.cons.injEq, List.cons.injEq] at hwhole
        exact absurd (List.mem_cons_of_mem c (by rw [← hwhole.2.1]; exact List.mem_cons_self)) hsingle
      · rename_i hkeep
        rw [List.cons.injEq] at hwhole
        have hends' : Text.EndsSolid (d :: line) := Text.endsSolid_of_append (s := [c]) hends
        have htail := ih (List.cons_ne_nil d line) hends' (fun hmem => hsingle (List.mem_cons_of_mem c hmem)) hwhole.2
        have hblank : Text.isBlank (d :: line) = false := isBlank_of_endsSolid (List.cons_ne_nil d line) hends'
        have hlast : brokenAfter (c :: d :: line) rest = brokenAfter (d :: line) rest := by
          rw [brokenAfter, List.getLast?_cons_cons]
          rfl
        rw [hwhole.2] at hkeep
        rw [List.cons_append, breakTags_cons, htail, head?_trimStart_append hblank, if_neg hkeep, hlast]
        rfl

/-! ## Cuts -/

/-- The text is the lines, with white space between each two. -/
inductive Cut : Text → List Text → Prop
  | last {line : Text} :
      IsLine line → Cut line [line]
  | cons {line gap rest : Text} {lines : List Text} :
      IsLine line → Text.isBlank gap = true →
      CodePoint.newline ∈ gap ∨ (line.getLast? = some (char '>') ∧ rest.head? = some (char '<')) →
      Cut rest lines → Cut (line ++ (gap ++ rest)) (line :: lines)

theorem Cut.solid {t : Text} {lines : List Text} (h : Cut t lines) :
    t ≠ [] ∧ Text.StartsSolid t ∧ Text.EndsSolid t := by
  induction h with
  | last hline => exact ⟨hline.nonempty, hline.starts, hline.ends⟩
  | @cons line gap rest lines hline _ _ _ ih =>
    obtain ⟨hne, -, hends⟩ := ih
    refine ⟨?_, Text.startsSolid_append hline.nonempty hline.starts _, ?_⟩
    · intro hnil
      exact hline.nonempty (List.append_eq_nil_iff.mp hnil).1
    · apply Text.endsSolid_append
      · simp [hne]
      · exact Text.endsSolid_append hne hends

theorem isLine_singleton {c : CodePoint} (h : c.isBlank = false) : IsLine [c] where
  nonempty := List.cons_ne_nil c []
  starts := Text.startsSolid_of_head rfl h
  ends := Text.endsSolid_of_getLast rfl h
  single := by
    intro hmem
    rw [List.mem_singleton] at hmem
    rw [← hmem] at h
    cases h
  whole := by
    rw [breakTags_cons, if_neg]
    · rfl
    · rintro ⟨-, h⟩
      cases h

/-- A line with solid text before it that no break divides from it. -/
theorem IsLine.extend {c : CodePoint} {gap line : Text} (h : IsLine line) (hc : c.isBlank = false)
    (hgap : Text.isBlank gap = true) (hsingle : CodePoint.newline ∉ gap)
    (htag : ¬ (c = char '>' ∧ line.head? = some (char '<'))) : IsLine (c :: (gap ++ line)) where
  nonempty := List.cons_ne_nil _ _
  starts := Text.startsSolid_of_head rfl hc
  ends := Text.endsSolid_append (s := [c]) (by simp [h.nonempty]) (Text.endsSolid_append h.nonempty h.ends)
  single := by
    have hne : CodePoint.newline ≠ c := by
      rintro rfl
      cases hc
    simp [hne, hsingle, h.single]
  whole := by
    have hahead : Text.trimStart (breakTags (gap ++ line)) = line := by
      rw [breakTags_blank hgap, Text.trimStart_append_of_isBlank hgap, h.whole, Text.trimStart_of_startsSolid h.starts]
    rw [breakTags_cons, hahead, if_neg htag, breakTags_blank hgap, h.whole]

/-- Solid text before a cut is a line of its own where something divides it from the first line, and else it goes on
to that line. -/
theorem Cut.exists_cons {c : CodePoint} {gap next : Text} {lines : List Text} (hcut : Cut next lines)
    (hc : c.isBlank = false) (hgap : Text.isBlank gap = true) : ∃ lines', Cut (c :: (gap ++ next)) lines' := by
  by_cases hbreak : CodePoint.newline ∈ gap ∨ (c = char '>' ∧ next.head? = some (char '<'))
  · have hcons : Cut ([c] ++ (gap ++ next)) ([c] :: lines) := by
      refine .cons (isLine_singleton hc) hgap ?_ hcut
      rcases hbreak with hline | ⟨htag, hopen⟩
      · exact Or.inl hline
      · exact Or.inr ⟨by rw [htag]; rfl, hopen⟩
    exact ⟨[c] :: lines, hcons⟩
  · rw [not_or] at hbreak
    cases hcut with
    | last hline => exact ⟨_, .last (hline.extend hc hgap hbreak.1 hbreak.2)⟩
    | @cons line gap' rest lines hline hgap' hdivides hcut =>
      have hhead : (line ++ (gap' ++ rest)).head? = line.head? := head?_append_of_ne_nil hline.nonempty _
      rw [hhead] at hbreak
      refine ⟨(c :: (gap ++ line)) :: lines, ?_⟩
      have hcons := Cut.cons (hline.extend hc hgap hbreak.1 hbreak.2) hgap' ?_ hcut
      · simpa using hcons
      · rcases hdivides with hnewline | ⟨htag, hopen⟩
        · exact Or.inl hnewline
        · right
          refine ⟨?_, hopen⟩
          rw [← List.cons_append, List.getLast?_append, htag]
          rfl

/-- Every text that is solid at both ends has a cut. -/
theorem exists_cut {t : Text} (hne : t ≠ []) (hstarts : Text.StartsSolid t) (hends : Text.EndsSolid t) :
    ∃ lines, Cut t lines := by
  -- by induction on the length, from one solid code point to the next
  induction hlength : t.length using Nat.strongRecOn generalizing t with
  | ind n ih =>
    subst hlength
    cases t with
    | nil => exact absurd rfl hne
    | cons c rest =>
      have hc : c.isBlank = false := hstarts c rfl
      by_cases hrest : rest = []
      · rw [hrest]
        exact ⟨[[c]], .last (isLine_singleton hc)⟩
      have hrestEnds : Text.EndsSolid rest := Text.endsSolid_of_append (s := [c]) hends
      have hnextStarts := Text.startsSolid_trimStart rest
      -- white space alone could not end the text
      have hnext : Text.trimStart rest ≠ [] := by
        rw [ne_eq, Text.trimStart_eq_nil_iff, isBlank_of_endsSolid hrest hrestEnds]
        exact Bool.false_ne_true
      obtain ⟨gap, hgap, hwhole⟩ := Text.exists_trimStart rest
      generalize Text.trimStart rest = next at hwhole hnext hnextStarts
      have hnextEnds : Text.EndsSolid next := by
        apply Text.endsSolid_of_append (s := gap)
        rw [← hwhole]
        exact hrestEnds
      have hshorter : next.length < (c :: rest).length := by
        rw [hwhole, List.length_cons, List.length_append]
        omega
      obtain ⟨lines, hcut⟩ := ih next.length hshorter hnext hnextStarts hnextEnds rfl
      rw [hwhole]
      exact hcut.exists_cons hc hgap

/-! ## The lines that are found -/

/-- The lines of a text that are not blank, trimmed. -/
def kept (t : Text) : List Text :=
  ((Text.lines t).map Text.trim).filter fun line => !line.isEmpty

theorem splitTags_eq (t : Text) : splitTags t = kept (breakTags (Text.trim t)) := rfl

/-- A code point goes to the first line, unless it is a line feed. -/
theorem lines_cons {c : CodePoint} (hc : c ≠ CodePoint.newline) {rest line : Text} {lines : List Text}
    (h : Text.lines rest = line :: lines) : Text.lines (c :: rest) = (c :: line) :: lines :=
  Text.splitAt_cons hc h

theorem lines_append (s t : Text) : Text.lines (s ++ CodePoint.newline :: t) = Text.lines s ++ Text.lines t :=
  Text.splitAt_append CodePoint.newline s t

theorem lines_single {t : Text} (h : CodePoint.newline ∉ t) : Text.lines t = [t] :=
  Text.splitAt_single h

theorem kept_append (s t : Text) : kept (s ++ CodePoint.newline :: t) = kept s ++ kept t := by
  rw [kept, lines_append, List.map_append, List.filter_append]
  rfl

/-- White space before a text makes no difference. -/
theorem kept_blank {gap : Text} (h : Text.isBlank gap = true) (t : Text) : kept (gap ++ t) = kept t := by
  induction gap with
  | nil => rfl
  | cons c gap ih =>
    simp only [Text.isBlank, List.all_cons, Bool.and_eq_true] at h
    rw [List.cons_append, ← ih h.2]
    by_cases hc : c = CodePoint.newline
    · rw [hc]
      exact kept_append [] (gap ++ t)
    · have hne : Text.lines (gap ++ t) ≠ [] := Text.splitAt_ne_nil CodePoint.newline (gap ++ t)
      obtain ⟨line, lines, hlines⟩ := List.exists_cons_of_ne_nil hne
      have htrim : Text.trim (c :: line) = Text.trim line :=
        @Text.trim_append_of_isBlank [c] (by simp [Text.isBlank, h.1]) line
      rw [kept, lines_cons hc hlines, kept, hlines, List.map_cons, List.map_cons, htrim]

theorem kept_line {line gap : Text} (h : IsLine line) (hgap : Text.isBlank gap = true)
    (hsingle : CodePoint.newline ∉ gap) : kept (line ++ gap) = [line] := by
  have htrim : Text.trim (line ++ gap) = line := by
    rw [Text.trim_append_tail hgap, Text.trim_of_solid h.starts h.ends]
  have hmem : CodePoint.newline ∉ line ++ gap := by
    rw [List.mem_append, not_or]
    exact ⟨h.single, hsingle⟩
  rw [kept, lines_single hmem, List.map_singleton, htrim, List.filter_cons_of_pos, List.filter_nil]
  simpa using h.nonempty

/-- White space with a line feed in it ends a line. -/
theorem kept_gap {line gap : Text} (h : IsLine line) (hgap : Text.isBlank gap = true)
    (hnewline : CodePoint.newline ∈ gap) (t : Text) : kept (line ++ (gap ++ t)) = line :: kept t := by
  obtain ⟨before, after, rfl, hfirst⟩ := List.eq_append_cons_of_mem hnewline
  rw [Text.isBlank_append, Bool.and_eq_true] at hgap
  have hafter : Text.isBlank after = true := by
    have htail := hgap.2
    rw [Text.isBlank, List.all_cons, Bool.and_eq_true] at htail
    exact htail.2
  have hassoc : line ++ (before ++ CodePoint.newline :: after ++ t) =
      (line ++ before) ++ CodePoint.newline :: (after ++ t) := by simp
  rw [hassoc, kept_append, kept_line h hgap.1 hfirst, kept_blank hafter]
  rfl

/-- The lines of a cut are the lines that are found. -/
theorem Cut.kept_breakTags {t : Text} {lines : List Text} (h : Cut t lines) : kept (breakTags t) = lines := by
  induction h with
  | @last line hline =>
    have hline' := @kept_line line [] hline rfl List.not_mem_nil
    rw [List.append_nil] at hline'
    rw [hline.whole, hline']
  | @cons line gap rest lines hline hgap hdivides hcut ih =>
    have hstarts := startsSolid_breakTags hcut.solid.2.1
    have hahead : Text.trimStart (breakTags (gap ++ rest)) = breakTags rest := by
      rw [breakTags_blank hgap, Text.trimStart_append_of_isBlank hgap, Text.trimStart_of_startsSolid hstarts]
    rw [breakTags_append hline.nonempty hline.ends hline.single hline.whole, brokenAfter, hahead, head?_breakTags]
    split
    · -- a break takes the place of the white space
      have hbreak : kept (line ++ CodePoint.newline :: breakTags rest) = line :: kept (breakTags rest) :=
        @kept_gap line [CodePoint.newline] hline rfl List.mem_cons_self _
      rw [← ih]
      exact hbreak
    · rename_i hkeep
      rw [breakTags_blank hgap, kept_gap hline hgap (hdivides.resolve_right hkeep), ih]

theorem Cut.splitTags_eq {t : Text} {lines : List Text} (h : Cut t lines) : splitTags t = lines := by
  obtain ⟨-, hstarts, hends⟩ := h.solid
  rw [Markup.splitTags_eq, Text.trim_of_solid hstarts hends, h.kept_breakTags]

/-- The lines that are found are a cut. -/
theorem cut_splitTags {t : Text} (hne : t ≠ []) (hstarts : Text.StartsSolid t) (hends : Text.EndsSolid t) :
    Cut t (splitTags t) := by
  obtain ⟨lines, hcut⟩ := exists_cut hne hstarts hends
  rw [hcut.splitTags_eq]
  exact hcut

end Tidy.Markup
