/-
# Tidy.Proofs.Markup.Spacing -- where the layout of markup moves white space

The layout of markup keeps every code point that is not white space, and it changes white space in two places only:
between a `>` and a `<`, and where the source has a line feed (`Breaks`). There the layout has one line feed and
spaces; everywhere else it has the white space of the source. `Moved` says this from one solid code point to the next,
so that the layout of a cut is moved line by line, and `format_moves_space` says it of any two neighbours.
-/

import Tidy.Proofs.Markup.Reformat
import Tidy.Proofs.Text.Ink
import Tidy.Proofs.Xml.Reformat

namespace Tidy.Markup

open CodePoint (char)

/-! ## Gaps -/

/-- Does a line end between two solid code points that have `gap` between them? -/
def Breaks (a : CodePoint) (gap : Text) (b : CodePoint) : Prop :=
  (a = char '>' ∧ b = char '<') ∨ CodePoint.newline ∈ gap

instance (a : CodePoint) (gap : Text) (b : CodePoint) : Decidable (Breaks a gap b) :=
  inferInstanceAs (Decidable (_ ∨ _))

/-- `gap'` is what a layout has in the place of `gap`. -/
def Laid (a : CodePoint) (gap gap' : Text) (b : CodePoint) : Prop :=
  if Breaks a gap b then ∃ n, gap' = CodePoint.newline :: Text.spaces n else gap' = gap

theorem Laid.isBlank {a b : CodePoint} {gap gap' : Text} (h : Laid a gap gap' b) (hgap : Text.isBlank gap = true) :
    Text.isBlank gap' = true := by
  unfold Laid at h
  split at h
  · obtain ⟨n, rfl⟩ := h
    exact Text.isBlank_spaces n
  · rw [h, hgap]

/-! ## Texts with moved white space -/

/-- The second text is the first one as a layout has it, from the first solid code point to the last. -/
inductive Moved : Text → Text → Prop
  | last {a : CodePoint} {tail : Text} : a.isBlank = false → Text.isBlank tail = true → Moved (a :: tail) [a]
  | next {a b : CodePoint} {gap gap' s t : Text} :
      a.isBlank = false → Text.isBlank gap = true → Laid a gap gap' b → Moved (b :: s) (b :: t) →
      Moved (a :: (gap ++ b :: s)) (a :: (gap' ++ b :: t))

namespace Moved

variable {s t : Text}

theorem head (h : Moved s t) : ∃ a s' t', s = a :: s' ∧ t = a :: t' ∧ a.isBlank = false := by
  cases h with
  | last ha _ => exact ⟨_, _, _, rfl, rfl, ha⟩
  | next ha _ _ _ => exact ⟨_, _, _, rfl, rfl, ha⟩

theorem solid {a : CodePoint} (h : Moved (a :: s) t) : a.isBlank = false := by
  cases h with
  | last ha _ => exact ha
  | next ha _ _ _ => exact ha

theorem unspaced (h : Moved s t) : t.unspaced = s.unspaced := by
  induction h with
  | last ha htail => rw [Text.unspaced_cons_solid ha, Text.unspaced_cons_solid ha, Text.unspaced_of_isBlank htail]; rfl
  | next ha hgap hlaid _ ih =>
    rw [Text.unspaced_cons_solid ha, Text.unspaced_cons_solid ha, Text.unspaced_append, Text.unspaced_append, ih,
      Text.unspaced_of_isBlank hgap, Text.unspaced_of_isBlank (hlaid.isBlank hgap)]

theorem endsSolid (h : Moved s t) : Text.EndsSolid t := by
  induction h with
  | last ha _ => exact Text.endsSolid_of_getLast rfl ha
  | @next a b gap gap' s t _ _ _ _ ih =>
    show Text.EndsSolid (a :: gap' ++ b :: t)
    exact Text.endsSolid_append (List.cons_ne_nil b t) ih

/-- Between two solid code points that follow each other stands what a layout has there. -/
theorem gap (h : Moved s t) {before gap after : Text} {a b : CodePoint} (ha : a.isBlank = false)
    (hb : b.isBlank = false) (hgap : Text.isBlank gap = true) (hs : s = before ++ a :: (gap ++ b :: after)) :
    ∃ before' gap' after' : Text, t = before' ++ a :: (gap' ++ b :: after') ∧ before'.unspaced = before.unspaced ∧
      after'.unspaced = after.unspaced ∧ Laid a gap gap' b := by
  induction h generalizing before with
  | @last c tail _ htail =>
    -- only white space follows the last one
    exfalso
    have hnone : a ∉ tail ∧ b ∉ tail := ⟨Text.solid_notMem htail ha, Text.solid_notMem htail hb⟩
    cases before with
    | nil =>
      obtain ⟨-, rfl⟩ := List.cons.inj hs
      simp at hnone
    | cons d before =>
      obtain ⟨-, rfl⟩ := List.cons.inj hs
      simp at hnone
  | @next c d lead lead' s t hc hlead hlaid hrest ih =>
    have hd := hrest.solid
    cases before with
    | nil =>
      -- the two are the first ones, and the gap between them is the first gap
      obtain ⟨rfl, htail⟩ := List.cons.inj hs
      obtain ⟨rfl, rfl, rfl⟩ := Text.gap_unique hlead hgap hd hb htail
      refine ⟨[], lead', t, rfl, rfl, ?_, hlaid⟩
      have hsame := hrest.unspaced
      rw [Text.unspaced_cons_solid hd, Text.unspaced_cons_solid hd] at hsame
      exact (List.cons.inj hsame).2
    | cons e before =>
      obtain ⟨rfl, htail⟩ := List.cons.inj hs
      obtain ⟨between, rfl, hbetween⟩ := Text.exists_behind_blank hlead ha htail
      obtain ⟨before', gap', after', ht, hbefore, hafter, hgaps⟩ := ih hbetween
      refine ⟨c :: (lead' ++ before'), gap', after', ?_, ?_, hafter, hgaps⟩
      · rw [ht, List.cons_append, List.append_assoc]
      · rw [Text.unspaced_cons_solid hc, Text.unspaced_cons_solid hc, Text.unspaced_append, Text.unspaced_append,
          hbefore, Text.unspaced_of_isBlank hlead, Text.unspaced_of_isBlank (hlaid.isBlank hlead)]

end Moved

/-! ## Lines -/

/-- What follows the first code point of a line and the white space behind it is a line, and no break stands before
it. -/
theorem IsLine.behind {c d : CodePoint} {gap more : Text} (h : IsLine (c :: (gap ++ d :: more)))
    (hgap : Text.isBlank gap = true) (hd : d.isBlank = false) : IsLine (d :: more) ∧ ¬ Breaks c gap d := by
  have hsingle := h.single
  simp only [List.mem_cons, List.mem_append, not_or] at hsingle
  have hstarts : Text.StartsSolid (d :: more) := Text.startsSolid_of_head rfl hd
  have hahead : Text.trimStart (breakTags (gap ++ d :: more)) = breakTags (d :: more) := by
    rw [breakTags_blank hgap, Text.trimStart_append_of_isBlank hgap,
      Text.trimStart_of_startsSolid (startsSolid_breakTags hstarts)]
  have hwhole := h.whole
  rw [breakTags_cons, hahead, head?_breakTags] at hwhole
  split at hwhole
  · -- a break would show as a line feed
    exfalso
    have hfeed : CodePoint.newline ∈ gap ++ d :: more := by
      rw [← (List.cons.inj hwhole).2]
      exact List.mem_cons_self
    simp [hsingle] at hfeed
  · rename_i hkeep
    rw [breakTags_blank hgap] at hwhole
    refine ⟨⟨List.cons_ne_nil d more, hstarts, ?_, ?_, ?_⟩, ?_⟩
    · exact Text.endsSolid_of_append (s := c :: gap) h.ends
    · simp [hsingle]
    · exact List.append_cancel_left (List.cons.inj hwhole).2
    · rintro (⟨rfl, rfl⟩ | hfeed)
      · exact hkeep ⟨rfl, rfl⟩
      · exact hsingle.2.1 hfeed

/-- A line ends with its first code point, or goes on behind white space. -/
theorem IsLine.next {c : CodePoint} {more : Text} (h : IsLine (c :: more)) :
    more = [] ∨ ∃ gap d next, Text.isBlank gap = true ∧ d.isBlank = false ∧ more = gap ++ d :: next := by
  obtain ⟨gap, hgap, hmore⟩ := Text.exists_trimStart more
  have hsolid := Text.startsSolid_trimStart more
  cases hnext : Text.trimStart more with
  | nil =>
    -- white space alone could not end the line
    refine Or.inl ?_
    by_contra hne
    have hblank := isBlank_of_endsSolid hne (Text.endsSolid_of_append (s := [c]) h.ends)
    rw [(Text.trimStart_eq_nil_iff more).mp hnext] at hblank
    cases hblank
  | cons d next =>
    rw [hnext] at hmore hsolid
    exact Or.inr ⟨gap, d, next, hgap, hsolid d rfl, hmore⟩

/-- Inside a line nothing is moved. -/
theorem IsLine.moved {line rest rest' : Text} (h : IsLine line)
    (hlast : ∀ a, line.getLast? = some a → a.isBlank = false → Moved (a :: rest) (a :: rest')) :
    Moved (line ++ rest) (line ++ rest') := by
  -- by induction on the length, from one solid code point to the next
  induction hlength : line.length using Nat.strongRecOn generalizing line with
  | ind n ih =>
    subst hlength
    cases line with
    | nil => exact absurd rfl h.nonempty
    | cons c more =>
      have hc : c.isBlank = false := h.starts c rfl
      rcases h.next with rfl | ⟨gap, d, next, hgap, hd, rfl⟩
      · exact hlast c rfl hc
      · obtain ⟨hline, hwhole⟩ := h.behind hgap hd
        have hend : (d :: next).getLast? = (c :: (gap ++ d :: next)).getLast? := by
          rw [← List.cons_append, List.getLast?_append_of_ne_nil _ (List.cons_ne_nil d next)]
        have hshorter : (d :: next).length < (c :: (gap ++ d :: next)).length := by
          simp only [List.length_cons, List.length_append]
          omega
        have hrest := ih _ hshorter hline (fun a ha => hlast a (hend ▸ ha)) rfl
        have hsame : Laid c gap gap d := by rw [Laid, if_neg hwhole]
        simpa using Moved.next hc hgap hsame hrest

/-- A line ends where two lines are divided. -/
theorem breaks_of_divides {line gap rest : Text} {a b : CodePoint}
    (h : CodePoint.newline ∈ gap ∨ (line.getLast? = some (char '>') ∧ rest.head? = some (char '<')))
    (hlast : line.getLast? = some a) (hfirst : rest.head? = some b) : Breaks a gap b := by
  rcases h with hfeed | ⟨htag, hopen⟩
  · exact Or.inr hfeed
  · rw [htag] at hlast
    rw [hopen] at hfirst
    exact Or.inl ⟨(Option.some.inj hlast).symm, (Option.some.inj hfirst).symm⟩

/-- The layout of the lines of a text moves the white space between them. -/
theorem Cut.moved {s tail : Text} {lines : List Text} (h : Cut s lines) (htail : Text.isBlank tail = true)
    (width : Nat) {entries : List Entry} (hentries : entries.map Entry.content = lines) :
    ∃ n t, Layout.render width entries = Text.spaces n ++ t ∧ (∀ e, entries.head? = some e → n = width * e.depth) ∧
      Moved (s ++ tail) t := by
  induction h generalizing entries with
  | @last line hline =>
    obtain ⟨e, rfl, rfl⟩ := List.map_eq_singleton_iff.mp hentries
    refine ⟨width * e.depth, e.content, rfl, ?_, ?_⟩
    · intro e' he'
      obtain rfl := Option.some.inj he'
      rfl
    · have hmoved : Moved (e.content ++ tail) (e.content ++ []) := hline.moved fun a _ ha => .last ha htail
      rwa [List.append_nil] at hmoved
  | @cons line gap rest lines hline hgap hdivides hcut ih =>
    obtain ⟨e, es, rfl, rfl, hes⟩ := List.map_eq_cons_iff.mp hentries
    obtain ⟨n, t, hrender, -, hmoved⟩ := ih hes
    have hne : es ≠ [] := by
      rintro rfl
      rw [List.map_nil] at hes
      subst hes
      cases hcut
    refine ⟨width * e.depth, e.content ++ (CodePoint.newline :: Text.spaces n ++ t), ?_, ?_, ?_⟩
    · rw [Layout.render_cons width e hne, hrender, Layout.line, List.append_assoc]
      rfl
    · intro e' he'
      obtain rfl := Option.some.inj he'
      rfl
    · rw [List.append_assoc, List.append_assoc]
      refine hline.moved fun a hlast ha => ?_
      -- the break stands where the source has a line feed or where two tags meet
      obtain ⟨b, rest', t', hrest, rfl, -⟩ := hmoved.head
      rw [hrest] at hmoved ⊢
      refine .next ha hgap ?_ hmoved
      have hfirst : rest.head? = some b := by
        rw [← head?_append_of_ne_nil hcut.solid.1 tail, hrest]
        rfl
      have hbreaks := breaks_of_divides hdivides hlast hfirst
      rw [Laid, if_pos hbreaks]
      exact ⟨n, rfl⟩

/-- The layout of a text is the text with its white space moved, from its first solid code point on. -/
theorem exists_moved_format (width : Nat) {source : Text} (h : source.isBlank = false) :
    ∃ lead rest, Text.isBlank lead = true ∧ source = lead ++ rest ∧ Moved rest (format width source) := by
  obtain ⟨lead, tail, hlead, htail, hsource⟩ := Text.exists_trim source
  have hcut := cut_splitTags (trim_ne_nil h) (Text.startsSolid_trim source) (Text.endsSolid_trim source)
  obtain ⟨n, t, hrender, hdepth, hmoved⟩ := hcut.moved htail width (map_content_indentFrom 0 _)
  obtain rfl := hcut.unindented hdepth
  refine ⟨lead, Text.trim source ++ tail, hlead, hsource, ?_⟩
  rw [← format_trim, format, entries, hrender]
  exact hmoved

/-! ## The engine -/

/-- What the engine gives for a valid document of markup. -/
theorem format_markup {memory : Memory} {language : Language} (hlanguage : language = .html ∨ language = .xml)
    {width : Nat} {source text : Text} (hblank : source.isBlank = false)
    (h : Engine.format memory language width source = ⟨text, none⟩) : text = format width source := by
  rcases hlanguage with rfl | rfl
  · rcases Nat.lt_or_ge width memory.limit with hroom | hfull
    · rw [format_html hroom hblank] at h
      exact (congrArg Formatted.text h).symm
    · rw [format_html_full hfull hblank] at h
      cases h
  · obtain ⟨hcheck, hroom⟩ := Xml.check_of_valid hblank (congrArg Formatted.error h)
    rw [Xml.format_xml hroom hblank hcheck, format_trim] at h
    exact (congrArg Formatted.text h).symm

/-- The layout of HTML or XML has the same solid code points as its source, with no white space before the first or
after the last. Between two of them that follow each other it has one line feed and spaces if a line ends there: if they
are a `>` and a `<`, or if the source has a line feed between them. Otherwise it has the white space of the source. -/
theorem format_moves_space (memory : Memory) (language : Language) (hlanguage : language = .html ∨ language = .xml)
    (width : Nat) (source text : Text) (h : Engine.format memory language width source = ⟨text, none⟩) :
    text.unspaced = source.unspaced ∧ Text.StartsSolid text ∧ Text.EndsSolid text ∧
      ∀ (before gap after : Text) (a b : CodePoint), a.isBlank = false → b.isBlank = false →
        Text.isBlank gap = true → source = before ++ a :: (gap ++ b :: after) →
        ∃ before' gap' after' : Text, text = before' ++ a :: (gap' ++ b :: after') ∧
          before'.unspaced = before.unspaced ∧ after'.unspaced = after.unspaced ∧
          if (a = char '>' ∧ b = char '<') ∨ CodePoint.newline ∈ gap then
            ∃ n, gap' = CodePoint.newline :: Text.spaces n
          else gap' = gap := by
  cases hblank : source.isBlank with
  | true =>
    rw [Engine.format_blank memory language width hblank] at h
    obtain rfl := congrArg Formatted.text h
    refine ⟨(Text.unspaced_of_isBlank hblank).symm, ?_, Text.endsSolid_nil, ?_⟩
    · rintro c ⟨⟩
    · intro before gap after a b ha _ _ hsource
      refine absurd ?_ (Text.solid_notMem hblank ha)
      simp [hsource]
  | false =>
    obtain rfl := format_markup hlanguage hblank h
    obtain ⟨lead, rest, hlead, rfl, hmoved⟩ := exists_moved_format width hblank
    generalize format width (lead ++ rest) = text at hmoved
    obtain ⟨c, rest', text', -, htext, hc⟩ := hmoved.head
    refine ⟨?_, Text.startsSolid_of_head (by rw [htext]; rfl) hc, hmoved.endsSolid, ?_⟩
    · rw [hmoved.unspaced, Text.unspaced_append, Text.unspaced_of_isBlank hlead, List.nil_append]
    · intro before gap after a b ha hb hgap hsource
      -- what leads the source has no solid code point, so both lie behind it
      obtain ⟨between, rfl, hrest⟩ := Text.exists_behind_blank hlead ha hsource
      obtain ⟨before', gap', after', ht, hbefore, hafter, hlaid⟩ := hmoved.gap ha hb hgap hrest
      refine ⟨before', gap', after', ht, ?_, hafter, hlaid⟩
      rw [hbefore, Text.unspaced_append, Text.unspaced_of_isBlank hlead, List.nil_append]

/-- A text with a line feed behind it and a tag after that. -/
theorem format_moves_space_paragraph :
    Engine.format .word .html 2 "<p>a \n\n <b/></p>" = ⟨"<p>a\n  <b/>\n</p>", none⟩ ∧
      ∃ before' gap' after', "<p>a\n  <b/>\n</p>" = before' ++ char 'a' :: (gap' ++ char '<' :: after') ∧
        Text.unspaced before' = Text.unspaced "<p>" ∧ Text.unspaced after' = Text.unspaced "b/></p>" ∧
        ∃ n, gap' = CodePoint.newline :: Text.spaces n := by
  have hformat : Engine.format .word .html 2 "<p>a \n\n <b/></p>" = ⟨"<p>a\n  <b/>\n</p>", none⟩ := by
    decide +kernel
  obtain ⟨-, -, -, hgaps⟩ := format_moves_space .word .html (Or.inl rfl) 2 _ _ hformat
  exact ⟨hformat, hgaps "<p>" " \n\n " "b/></p>" (char 'a') (char '<') rfl rfl rfl rfl⟩

end Tidy.Markup
