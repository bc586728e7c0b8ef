/-
# Tidy.Proofs.Width -- the width only scales the indentation

Every language is laid out as entries with a depth, and the width enters only when they are rendered. The entries are
anchored in every language: the first one is not indented, and no content starts with white space. So one list of
entries gives the text at all widths, and neither the verdict nor the message knows the width.

Where the text is trimmed after rendering, the white space can only be that after the colon of an empty value, which is
the end of the last content at every width.
-/

import Tidy.Proofs.Css.Reformat
import Tidy.Proofs.Json.Steps
import Tidy.Proofs.Markup.Reformat
import Tidy.Proofs.Script.Weaving

namespace Tidy

open CodePoint (char)

/-! ## Markup -/

namespace Markup

theorem solid_of_mem_splitTags {source line : Text} (h : line ∈ splitTags source) : Text.StartsSolid line := by
  obtain ⟨line', -, rfl⟩ := List.mem_map.mp (List.mem_filter.mp h).1
  exact Text.startsSolid_trim line'

theorem anchored_entries (source : Text) : Layout.Anchored (entries source) := by
  constructor
  · intro e he
    exact depth_head_indentFrom he
  · intro e he
    have hline : e.content ∈ splitTags source := by
      rw [← map_content_indentFrom 0 (splitTags source)]
      exact List.mem_map_of_mem he
    exact solid_of_mem_splitTags hline

theorem trim_format (width : Nat) {source : Text} (h : source.isBlank = false) :
    Text.trim (format width source) = format width source := by
  obtain ⟨-, hstarts, hends⟩ := (cut_format width h).solid
  exact Text.trim_of_solid hstarts hends

end Markup

/-! ## Scripts -/

namespace Script

/-- Nothing has been put on a line yet, or the first line has begun at depth zero. -/
def State.AtFirst (s : State) : Prop :=
  (s.items = [] ∧ s.stack = []) ∨ (s.items ≠ [] ∧ s.depth = 0)

/-- The first line is done and was not indented, or it is still to come. -/
def Leads (result : List Line × State) : Prop :=
  (∃ line lines, result.1 = line :: lines ∧ line.depth = 0) ∨ (result.1 = [] ∧ result.2.AtFirst)

variable {s : State}

theorem State.AtFirst.leads (h : s.AtFirst) : Leads ([], s) :=
  Or.inr ⟨rfl, h⟩

theorem State.AtFirst.write (h : s.AtFirst) (text : Text) (spaced attached : Bool) :
    (s.write text spaced attached).items ≠ [] ∧ (s.write text spaced attached).depth = 0 := by
  unfold State.write
  rcases h with ⟨hitems, hstack⟩ | ⟨hitems, hdepth⟩
  · rw [if_pos (by simp [hitems]), hstack]
    exact ⟨List.cons_ne_nil _ _, rfl⟩
  · rw [if_neg (by simpa using hitems)]
    exact ⟨by simp, hdepth⟩

theorem leads_line (hitems : s.items ≠ []) (hdepth : s.depth = 0) : Leads s.endLine := by
  rw [State.endLine, if_neg (by simpa using hitems)]
  exact Or.inl ⟨_, _, rfl, hdepth⟩

theorem State.AtFirst.leads_endLine (h : s.AtFirst) : Leads s.endLine := by
  rcases h with ⟨hitems, hstack⟩ | ⟨hitems, hdepth⟩
  · rw [State.endLine, if_pos (by simp [hitems])]
    exact Or.inr ⟨rfl, Or.inl ⟨hitems, hstack⟩⟩
  · exact leads_line hitems hdepth

theorem Leads.append {result : List Line × State} (h : Leads result) {next : State → List Line × State}
    (hnext : ∀ s : State, s.AtFirst → Leads (next s)) :
    Leads (result.1 ++ (next result.2).1, (next result.2).2) := by
  rcases h with ⟨line, lines, hlines, hdepth⟩ | ⟨hnone, hs⟩
  · refine Or.inl ⟨line, lines ++ (next result.2).1, ?_, hdepth⟩
    show result.1 ++ _ = _
    rw [hlines, List.cons_append]
  · rw [hnone]
    exact hnext _ hs

theorem State.AtFirst.leads_settle (h : s.AtFirst) (t : Token) : Leads (s.settle t) := by
  unfold State.settle
  split
  · split
    · exact Or.inr ⟨rfl, h⟩
    · split
      · exact Or.inr ⟨rfl, h⟩
      · exact State.AtFirst.leads_endLine (s := { s with afterClose := false }) h
  · exact h.leads

/-- Once something stands on the first line, the open brackets do not matter to it. -/
theorem leads_of_items (hitems : s.items ≠ []) (hdepth : s.depth = 0) : Leads ([], s) :=
  Or.inr ⟨rfl, Or.inr ⟨hitems, hdepth⟩⟩

/-- What closes a bracket finds none open before the first line. -/
theorem State.AtFirst.closed (h : s.AtFirst) {stack : List Mark} (hstack : s.stack = [] → stack = []) :
    { s with stack := stack }.AtFirst :=
  h.imp (fun hfirst => ⟨hfirst.1, hstack hfirst.2⟩) id

/-- A closing brace stands behind the end of the line, which may have been the first one. -/
theorem State.AtFirst.leads_closeBrace (h : s.AtFirst) : Leads (s.placeMark .closeBrace) := by
  have hclose : ∀ s : State, s.AtFirst → Leads ([],
      { { s with stack := closeBraces s.stack }.write [Mark.closeBrace.char] false false with afterClose := true }) := by
    intro s hs
    have hnone : s.stack = [] → closeBraces s.stack = [] := by
      intro hnil
      rw [hnil]
      rfl
    obtain ⟨hitems, hdepth⟩ := (hs.closed hnone).write [Mark.closeBrace.char] false false
    exact Or.inr ⟨rfl, Or.inr ⟨hitems, hdepth⟩⟩
  have hdone := h.leads_endLine.append hclose
  rw [List.append_nil] at hdone
  exact hdone

theorem State.AtFirst.leads_placeMark (h : s.AtFirst) (m : Mark) : Leads (s.placeMark m) := by
  have hwritten := h.write [m.char] false true
  have hmatching : ∀ o, s.stack = [] → closeMatching o s.stack = [] := by
    intro o hnil
    rw [hnil]
    rfl
  cases m with
  | openBrace =>
    obtain ⟨hitems, hdepth⟩ := h.write [Mark.openBrace.char] true false
    exact leads_line (s := (s.write [Mark.openBrace.char] true false).push .openBrace) hitems hdepth
  | closeBrace => exact h.leads_closeBrace
  | openParen =>
    obtain ⟨hitems, hdepth⟩ := h.write [Mark.openParen.char] false false
    exact leads_of_items (s := (s.write [Mark.openParen.char] false false).push .openParen) hitems hdepth
  | openBracket =>
    obtain ⟨hitems, hdepth⟩ := h.write [Mark.openBracket.char] false false
    exact leads_of_items (s := (s.write [Mark.openBracket.char] false false).push .openBracket) hitems hdepth
  | closeParen =>
    obtain ⟨hitems, hdepth⟩ := (h.closed (hmatching .openParen)).write [Mark.closeParen.char] false true
    exact leads_of_items hitems hdepth
  | closeBracket =>
    obtain ⟨hitems, hdepth⟩ := (h.closed (hmatching .openBracket)).write [Mark.closeBracket.char] false true
    exact leads_of_items hitems hdepth
  | semicolon =>
    unfold State.placeMark
    dsimp only
    split
    · exact Or.inr ⟨rfl, Or.inr hwritten⟩
    · exact leads_line hwritten.1 hwritten.2
  | comma =>
    unfold State.placeMark
    dsimp only
    split
    · exact leads_line hwritten.1 hwritten.2
    · exact Or.inr ⟨rfl, Or.inr hwritten⟩

theorem State.AtFirst.leads_place (h : s.AtFirst) (t : Token) : Leads (s.place t) := by
  cases t with
  | gap => exact Or.inr ⟨rfl, h⟩
  | lineComment text =>
    obtain ⟨hitems, hdepth⟩ := h.write (Text.trimEnd text) false false
    exact leads_line hitems hdepth
  | operator text => exact Or.inr ⟨rfl, Or.inr (h.write text true false)⟩
  | mark m => exact h.leads_placeMark m
  | strayQuote q => exact Or.inr ⟨rfl, Or.inr (h.write [q] false false)⟩
  | blockComment text => exact Or.inr ⟨rfl, Or.inr (h.write text false false)⟩
  | string text => exact Or.inr ⟨rfl, Or.inr (h.write text false false)⟩
  | step text => exact Or.inr ⟨rfl, Or.inr (h.write text false false)⟩
  | word text => exact Or.inr ⟨rfl, Or.inr (h.write text false false)⟩

theorem State.AtFirst.leads_step (h : s.AtFirst) (t : Token) : Leads (s.step t) := by
  unfold State.step
  split
  · exact h.leads_place t
  · exact (h.leads_settle t).append fun s hs => hs.leads_place t

/-- The first line of a run is not indented. -/
theorem State.AtFirst.depth_head (h : s.AtFirst) (ts : List Token) :
    ∀ line, (s.lines ts).head? = some line → line.depth = 0 := by
  induction ts generalizing s with
  | nil =>
    intro line hline
    rcases h.leads_endLine with ⟨first, lines, hlines, hdepth⟩ | ⟨hnone, -⟩
    · rw [State.lines, hlines] at hline
      obtain rfl := Option.some.inj hline
      exact hdepth
    · rw [State.lines, hnone] at hline
      cases hline
  | cons t ts ih =>
    intro line hline
    rcases h.leads_step t with ⟨first, lines, hlines, hdepth⟩ | ⟨hnone, hs⟩
    · rw [State.lines, hlines] at hline
      obtain rfl := Option.some.inj hline
      exact hdepth
    · rw [State.lines, hnone] at hline
      exact ih hs line hline

/-- Every line starts with what is shown of a token. -/
theorem SetIn.content_solid {lines : List Line} {ts : List Token} (h : SetIn lines ts) (hsolid : ∀ t ∈ ts, t.Solid) :
    ∀ line ∈ lines, line.content ≠ [] ∧ Text.StartsSolid line.content := by
  induction h with
  | nil => rintro line ⟨⟩
  | @cons line lines ts rest hne hcarries _ _ ih =>
    obtain ⟨hts, hrest⟩ := List.forall_mem_append.mp hsolid
    refine List.forall_mem_cons.mpr ⟨?_, ih hrest⟩
    obtain ⟨t, ts, rfl⟩ := List.exists_cons_of_ne_nil hne
    obtain ⟨item, items, hitems, htext, -⟩ := List.map_eq_cons_iff.mp hcarries.texts
    have hcontent : line.content = t.shown ++ items.flatMap Placed.flow := by
      rw [Line.content, hitems, List.flatMap_cons, hcarries.start item (by rw [hitems]; rfl), htext]
      rfl
    obtain ⟨hnonempty, hstarts, -⟩ := hts t List.mem_cons_self
    rw [hcontent]
    exact ⟨List.append_ne_nil_of_left_ne_nil hnonempty _, Text.startsSolid_append hnonempty hstarts _⟩

theorem solid_of_mem_entries {source : Text} {e : Entry} (h : e ∈ entries source) :
    e.content ≠ [] ∧ Text.StartsSolid e.content := by
  obtain ⟨line, hline, rfl⟩ := List.mem_map.mp h
  have hset : SetIn (lines source) ([] ++ (Token.all source).filter (!·.isGap)) := setIn_lines begun_nil _
  refine hset.content_solid ?_ line hline
  intro t ht
  obtain ⟨hmem, hgap⟩ := List.mem_filter.mp ht
  exact Token.solid_of_mem_all hmem (by simpa using hgap)

theorem anchored_entries (source : Text) : Layout.Anchored (entries source) := by
  refine ⟨?_, fun e he => (solid_of_mem_entries he).2⟩
  intro e he
  rw [entries, List.head?_map] at he
  obtain ⟨line, hline, rfl⟩ := Option.map_eq_some_iff.mp he
  exact State.AtFirst.depth_head (s := {}) (Or.inl ⟨rfl, rfl⟩) _ line hline

theorem format_eq_render (width : Nat) (source : Text) :
    format width source = Layout.render width (Layout.trimLast (entries source)) :=
  (anchored_entries source).trim_render (fun _ he => (solid_of_mem_entries (List.mem_of_mem_head? he)).1)
    (fun _ he => (solid_of_mem_entries (List.mem_of_getLast? he)).1) width

end Script

/-! ## Style sheets -/

namespace Css

/-- The pieces of a style sheet are those of parts. -/
theorem exists_parts (source : Text) :
    ∃ ps, Sheet ps ∧ gather [] (Token.all source) = ps.map Part.piece := by
  obtain ⟨-, hlexed⟩ := lexed_atoms source
  obtain ⟨ps, hps⟩ := exists_groups hlexed.wellFormed .nil
  refine ⟨ps, hps.sheet, ?_⟩
  rw [gather_eq_collect (Or.inl Text.endsSolid_nil)]
  exact hps.pieces

theorem startsSolid_normalizeDeclaration {t : Text} (hne : t ≠ []) (h : Text.StartsSolid t) :
    normalizeDeclaration t ≠ [] ∧ Text.StartsSolid (normalizeDeclaration t) := by
  rcases exists_first t with hname | ⟨name, c, value, rfl, hname, hc⟩
  · rw [normalizeDeclaration_of_name hname]
    exact ⟨hne, h⟩
  · rw [normalizeDeclaration_eq hname ((isNamePart_eq_false_iff c).mpr hc)]
    split
    · rename_i hcolon
      -- the name keeps its first code point
      have hstart : Text.StartsSolid name := Text.startsSolid_of_append h
      obtain ⟨htrim, htrimmed⟩ := trimName_of_startsSolid hcolon.2 hstart
      rw [htrim, List.append_assoc]
      exact ⟨List.append_ne_nil_of_left_ne_nil htrimmed _,
        Text.startsSolid_append htrimmed (Text.startsSolid_trimEnd hstart) _⟩
    · exact ⟨hne, h⟩

theorem startsSolid_declarationLine (depth : Nat) {t : Text} (hne : t ≠ []) (h : Text.StartsSolid t) (ended : Bool) :
    declarationLine depth t ended ≠ [] ∧ Text.StartsSolid (declarationLine depth t ended) := by
  obtain ⟨hbody, hstart⟩ : (if depth = 0 then t else normalizeDeclaration t) ≠ [] ∧
      Text.StartsSolid (if depth = 0 then t else normalizeDeclaration t) := by
    split
    · exact ⟨hne, h⟩
    · exact startsSolid_normalizeDeclaration hne h
  rw [declarationLine_eq]
  exact ⟨List.append_ne_nil_of_left_ne_nil hbody _, Text.startsSolid_append hbody hstart _⟩

theorem startsSolid_openingLine {selector : List Atom} (h : selector = [] ∨ Statement selector) :
    openingLine (textOf selector) ≠ [] ∧ Text.StartsSolid (openingLine (textOf selector)) := by
  rcases h with rfl | hselector
  · exact ⟨List.cons_ne_nil _ _, Text.startsSolid_of_head rfl rfl⟩
  · obtain ⟨hne, hstart, -⟩ := hselector.solid
    rw [openingLine, if_neg (by simpa using hne)]
    exact ⟨List.append_ne_nil_of_left_ne_nil hne _, Text.startsSolid_append hne hstart _⟩

/-- Every entry of a sheet but the empty lines starts with something solid. -/
theorem Sheet.solid_place {ps : List Part} (h : Sheet ps) (depth : Nat) :
    ∀ e ∈ place depth (ps.map Part.piece), e.content ≠ [] ∧ Text.StartsSolid e.content := by
  induction h generalizing depth with
  | nil => rintro e ⟨⟩
  | unended hb =>
    intro e he
    rw [List.mem_singleton.mp he]
    exact startsSolid_declarationLine depth hb.solid.1 hb.solid.2.1 false
  | @cons p ps hp hps ih =>
    cases p with
    | note t =>
      have hinner : (Atom.comment t).Inner := hp
      exact List.forall_mem_cons.mpr ⟨⟨hinner.solid.1, hinner.solid.2.1⟩, ih depth⟩
    | opening selector => exact List.forall_mem_cons.mpr ⟨startsSolid_openingLine hp, ih (depth + 1)⟩
    | closing =>
      exact List.forall_mem_cons.mpr ⟨⟨List.cons_ne_nil _ _, Text.startsSolid_of_head rfl rfl⟩, ih (depth - 1)⟩
    | declaration b ended =>
      have hb := hp.2.solid
      exact List.forall_mem_cons.mpr ⟨startsSolid_declarationLine depth hb.1 hb.2.1 ended, ih depth⟩

theorem depth_head_place (pieces : List Piece) : ∀ e, (place 0 pieces).head? = some e → e.depth = 0 := by
  intro e he
  cases pieces with
  | nil => cases he
  | cons p pieces =>
    cases p with
    | _ =>
      obtain rfl := Option.some.inj he
      rfl

theorem anchored_entries (source : Text) : Layout.Anchored (entries source) := by
  obtain ⟨ps, hsheet, hpieces⟩ := exists_parts source
  constructor
  · intro e he
    rw [entries, head?_separate] at he
    exact depth_head_place _ e he
  · intro e he
    rcases mem_separate he with hplaced | rfl
    · rw [hpieces] at hplaced
      exact (hsheet.solid_place 0 e hplaced).2
    · rintro c ⟨⟩

theorem format_eq_render (width : Nat) (source : Text) :
    format width source = Layout.render width (Layout.trimLast (entries source)) := by
  obtain ⟨ps, hsheet, hpieces⟩ := exists_parts source
  have hplaced : ∀ e ∈ place 0 (gather [] (Token.all source)), e.content ≠ [] := by
    rw [hpieces]
    exact fun e he => (hsheet.solid_place 0 e he).1
  refine (anchored_entries source).trim_render ?_ ?_ width
  · intro e he
    rw [entries, head?_separate] at he
    exact hplaced e (List.mem_of_mem_head? he)
  · intro e he
    rw [entries, getLast?_separate] at he
    exact hplaced e (List.mem_of_getLast? he)

end Css

/-! ## JSON -/

namespace Json

theorem Numeral.WellFormed.endsSolid {n : Numeral} (h : n.WellFormed) : Text.EndsSolid n.literal := by
  have hmarks : ∀ c ∈ numeralMarks, c.isBlank = false := by decide
  intro c hc
  rcases h.mem_literal (List.mem_of_getLast? hc) with hdigit | hmark
  · exact startsValue_not_blank (Or.inl hdigit)
  · exact hmarks c hmark

/-- A value does not end with white space. -/
theorem Spells.value_last {room : Nat} {t : Text} {v : Json} (h : Spells room t (.value v)) : Text.EndsSolid t := by
  have hclosed : ∀ (opening closing : CodePoint) (t : Text), closing.isBlank = false →
      Text.EndsSolid (opening :: (t ++ [closing])) := by
    intro opening closing t hclosing
    refine Text.endsSolid_of_getLast (c := closing) ?_ hclosing
    rw [← List.cons_append, List.getLast?_concat]
  cases h with
  | word hmem =>
    simp only [keywords, List.mem_cons, Prod.mk.injEq, List.not_mem_nil, or_false] at hmem
    rcases hmem with ⟨rfl, -⟩ | ⟨rfl, -⟩ | ⟨rfl, -⟩ <;> exact Text.endsSolid_of_getLast rfl rfl
  | number hn _ => exact hn.endsSolid
  | string => exact hclosed _ _ _ rfl
  | emptyArray => exact hclosed _ _ _ rfl
  | array => exact hclosed _ _ _ rfl
  | emptyObject => exact hclosed _ _ _ rfl
  | object => exact hclosed _ _ _ rfl

/-- The layout of a value has no white space around it. -/
theorem trim_render {room : Nat} {v : Json} (h : Writable room v) (width : Nat) :
    Text.trim (Layout.render width v.entries) = Layout.render width v.entries := by
  obtain ⟨t, hspells, hrender⟩ := laidOut h width 0 [] []
  obtain ⟨c, rest, ht, hc⟩ := hspells.value_head
  have hstarts : Text.StartsSolid t := Text.startsSolid_of_head (by rw [ht]; rfl) (startsValue_not_blank hc)
  have htext : Layout.render width v.entries = t := by
    rw [entries, hrender, List.nil_append, List.append_nil]
    rfl
  rw [htext, Text.trim_of_solid hstarts hspells.value_last]

theorem startsSolid_of_spells {room : Nat} {t : Text} {v : Json} (h : Spells room t (.value v)) (rest : Text) :
    Text.StartsSolid (t ++ rest) := by
  obtain ⟨c, more, rfl, hc⟩ := h.value_head
  exact Text.startsSolid_of_head rfl (startsValue_not_blank hc)

/-- What leads a value in a layout is nothing or a name. -/
def Leading (lead : Text) : Prop :=
  lead = [] ∨ (lead ≠ [] ∧ Text.StartsSolid lead)

theorem Leading.startsSolid {lead : Text} (h : Leading lead) {t : Text} (ht : Text.StartsSolid t) :
    Text.StartsSolid (lead ++ t) := by
  rcases h with rfl | ⟨hne, hstart⟩
  · exact ht
  · exact Text.startsSolid_append hne hstart t

theorem leading_name (name : Text) : Leading (writeString name ++ ": ") :=
  Or.inr ⟨List.cons_ne_nil _ _, Text.startsSolid_of_head rfl rfl⟩

/-- Every line starts with something solid. -/
theorem lined_startsSolid : Lined Leading (fun _ => True) Text.StartsSolid where
  unnamed := Or.inl rfl
  named := leading_name
  last := trivial
  comma := trivial
  join := by
    intro lead core trail hlead hcore _
    refine hlead.startsSolid ?_
    cases hcore with
    | mark hc =>
      refine Text.startsSolid_of_head rfl ?_
      simp only [List.mem_cons, List.not_mem_nil, or_false] at hc
      rcases hc with rfl | rfl | rfl | rfl <;> rfl
    | scalar hspells => exact startsSolid_of_spells hspells trail

theorem anchored_entries {room : Nat} {v : Json} (h : Writable room v) : Layout.Anchored v.entries := by
  refine ⟨?_, lined_startsSolid.all h 0 [] [] (Or.inl rfl) trivial⟩
  rw [entries]
  unfold entriesFrom
  split <;> (intro e he; obtain rfl := Option.some.inj he; rfl)

end Json

/-! ## The engine -/

namespace Engine

/-- What formatting a document that is not blank gives at all widths that there is room for: the same failure, or one
list of entries. -/
def Scales (language : Language) (source : Text) : Prop :=
  (∃ failure, ∀ width < Memory.word.limit, formatDocument .word language width source = .error failure) ∨
  ∃ entries, Layout.Anchored entries ∧ ∀ width < Memory.word.limit,
    formatDocument .word language width source = .ok (Layout.render width entries) ∧
      Text.trim (Layout.render width entries) = Layout.render width entries

theorem scales_json (source : Text) : Scales .json source := by
  cases hparse : Json.parse source with
  | error fault =>
    refine Or.inl ⟨.json fault, fun width _ => ?_⟩
    simp only [formatDocument, hparse]
  | ok v =>
    have hwritable := ((Json.parse_eq_ok_iff source v).mp hparse).writable
    refine Or.inr ⟨v.entries, Json.anchored_entries hwritable, fun width hwidth => ?_⟩
    refine ⟨?_, Json.trim_render hwritable width⟩
    simp only [formatDocument, hparse]
    exact Json.formatValue_eq hwidth v

theorem scales_markup {language : Language} {source : Text} (h : source.isBlank = false)
    (hlayout : ∀ width < Memory.word.limit,
      formatDocument .word language width source = .ok (Markup.format width source)) :
    Scales language source :=
  Or.inr ⟨Markup.entries source, Markup.anchored_entries source,
    fun width hwidth => ⟨hlayout width hwidth, Markup.trim_format width h⟩⟩

theorem scales_trimmed {language : Language} {source : Text} {entries : List Entry} (h : Layout.Anchored entries)
    {format : Nat → Text} (hformat : ∀ width, format width = Layout.render width (Layout.trimLast entries))
    (htrim : ∀ width, Text.trim (format width) = format width)
    (hlayout : ∀ width < Memory.word.limit, formatDocument .word language width source = .ok (format width)) :
    Scales language source := by
  refine Or.inr ⟨Layout.trimLast entries, h.trimLast, fun width hwidth => ?_⟩
  rw [← hformat width]
  exact ⟨hlayout width hwidth, htrim width⟩

theorem scales (language : Language) {source : Text} (h : source.isBlank = false) : Scales language source := by
  cases language with
  | json => exact scales_json source
  | typescript =>
    exact scales_trimmed (Script.anchored_entries source) (Script.format_eq_render · source)
      (fun width => Text.trim_trim _) fun width hwidth => laidOut_of_room hwidth (Script.format · source)
  | css =>
    exact scales_trimmed (Css.anchored_entries source) (Css.format_eq_render · source)
      (fun width => Text.trim_trim _) fun width hwidth => laidOut_of_room hwidth (Css.format · source)
  | html => exact scales_markup h fun width hwidth => laidOut_of_room hwidth (Markup.format · source)
  | xml =>
    cases hcheck : Xml.check (Text.trim source) with
    | error fault =>
      refine Or.inl ⟨.xml fault, fun width _ => ?_⟩
      simp only [formatDocument, hcheck]
    | ok =>
      refine scales_markup h fun width hwidth => ?_
      simp only [formatDocument, hcheck, Markup.format_trim]
      exact laidOut_of_room hwidth (Markup.format · source)

/-- The width only scales the indentation. At all widths a document is refused with one message, and that is the
verdict on it; or it is valid, and one list of entries, the first not indented and none starting with white space,
gives its text at every width by putting so many spaces a level before each entry, with nothing left to trim. -/
theorem format_scaled (language : Language) (source : Text) :
    (∃ message, validate language source = ⟨some message⟩ ∧
      ∀ width < Memory.word.limit, format .word language width source = ⟨source, some message⟩) ∨
    (validate language source = ⟨none⟩ ∧ ∃ entries, Layout.Anchored entries ∧
      ∀ width < Memory.word.limit, format .word language width source = ⟨Layout.render width entries, none⟩ ∧
        Text.trim (Layout.render width entries) = Layout.render width entries) := by
  have hdefault : defaultWidth < Memory.word.limit := by decide
  cases h : source.isBlank with
  | true =>
    refine Or.inr ⟨?_, [], ⟨by rintro e ⟨⟩, by rintro e ⟨⟩⟩, fun width _ => ⟨format_blank .word language width h, rfl⟩⟩
    rw [validate, format_blank .word language defaultWidth h]
  | false =>
    rcases scales language h with ⟨failure, hfailure⟩ | ⟨entries, hanchored, hentries⟩
    · refine Or.inl ⟨failure.message language source, ?_, fun width hwidth => format_error h (hfailure width hwidth)⟩
      rw [validate, format_error h (hfailure defaultWidth hdefault)]
    · refine Or.inr ⟨?_, entries, hanchored,
        fun width hwidth => ⟨format_ok h (hentries width hwidth).1, (hentries width hwidth).2⟩⟩
      rw [validate, format_ok h (hentries defaultWidth hdefault).1]

end Engine

end Tidy
