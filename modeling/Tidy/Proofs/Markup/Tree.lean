/-
# Tidy.Proofs.Markup.Tree -- the layout of markup that is a tree

The layout counts depth line by line and builds no tree. Where the markup is a forest of elements (`Element`), written
with any white space between its tags (`Spread`), it still gives the layout of the forest (`entriesOf`): the lines are
the tags (`splitTags_spread`), and the running depth is the depth in the tree (`indentFrom_tagsOf`). Attributes may hold
any mark but a `<`, so a `>` or a slash in them opens or closes nothing.
-/

import Tidy.Proofs.Markup.Spacing

namespace Tidy.Markup

open CodePoint (char)

/-! ## Elements -/

/-- The name of a tag, and its attributes as they are written. -/
structure Tag where
  name : Text
  attributes : Text
  named : name ≠ []
  nameParts : ∀ c ∈ name, isTagNamePart c = true
  /-- Attributes start with a space and end with a quote. -/
  quoted : attributes = [] ∨
    attributes.head? = some (char ' ') ∧ ∃ q, attributes.getLast? = some q ∧ (q = char '"' ∨ q = char '\'')
  plain : char '<' ∉ attributes
  single : CodePoint.newline ∉ attributes

namespace Tag

/-- What is written between the brackets. -/
def inside (tag : Tag) : Text := tag.name ++ tag.attributes

/-- The start tag. -/
def start (tag : Tag) : Text := char '<' :: (tag.inside ++ [char '>'])

/-- The tag of an element without content. -/
def alone (tag : Tag) : Text := char '<' :: (tag.inside ++ [char '/', char '>'])

/-- The end tag. -/
def stop (tag : Tag) : Text := char '<' :: char '/' :: (tag.name ++ [char '>'])

end Tag

/-- The text of an element that holds nothing else. -/
structure Content where
  text : Text
  solid : text.isBlank = false
  plain : char '<' ∉ text ∧ char '>' ∉ text
  single : CodePoint.newline ∉ text

/-- An element: without content, with a text, or with elements in it. -/
inductive Element where
  | alone (tag : Tag)
  | leaf (tag : Tag) (content : Content)
  | node (tag : Tag) (children : List Element)

/-- An element with a text, from its start tag to its end tag. -/
def Tag.around (tag : Tag) (content : Content) : Text :=
  tag.start ++ (content.text ++ tag.stop)

mutual

/-- The tags of an element in their order; an element with a text is in one piece. -/
def Element.tags : Element → List Text
  | .alone tag => [tag.alone]
  | .leaf tag content => [tag.around content]
  | .node tag children => tag.start :: (tagsOf children ++ [tag.stop])

/-- The tags of elements in their order. -/
def tagsOf : List Element → List Text
  | [] => []
  | element :: rest => element.tags ++ tagsOf rest

end

mutual

/-- The layout of an element at a depth. -/
def Element.entries (depth : Nat) : Element → List Entry
  | .alone tag => [⟨depth, tag.alone⟩]
  | .leaf tag content => [⟨depth, tag.around content⟩]
  | .node tag children => ⟨depth, tag.start⟩ :: (entriesOf (depth + 1) children ++ [⟨depth, tag.stop⟩])

/-- The layout of elements at a depth. -/
def entriesOf (depth : Nat) : List Element → List Entry
  | [] => []
  | element :: rest => element.entries depth ++ entriesOf depth rest

end

/-- The text is the tags, with white space or nothing around each. -/
inductive Spread : List Text → Text → Prop
  | nil {gap : Text} : gap.isBlank = true → Spread [] gap
  | cons {gap tag rest : Text} {tags : List Text} :
      gap.isBlank = true → Spread tags rest → Spread (tag :: tags) (gap ++ (tag ++ rest))

/-! ## What a tag is made of -/

theorem breakTags_of_plain {t : Text} (h : char '<' ∉ t) : breakTags t = t := by
  induction t with
  | nil => rfl
  | cons c t ih =>
    rw [List.mem_cons, not_or] at h
    have hahead : (Text.trimStart t).head? ≠ some (char '<') := by
      intro hhead
      exact h.2 ((List.dropWhile_suffix CodePoint.isBlank).subset (List.mem_of_head? hhead))
    rw [breakTags_cons, ih h.2, if_neg (fun hboth => hahead hboth.2)]

/-- A bracketed row without another opening bracket is one line. -/
theorem isLine_bracketed {body : Text} (hplain : char '<' ∉ body) (hsingle : CodePoint.newline ∉ body) :
    IsLine (char '<' :: (body ++ [char '>'])) where
  nonempty := List.cons_ne_nil _ _
  starts := Text.startsSolid_of_head rfl rfl
  ends := Text.endsSolid_of_getLast (c := char '>') (by simp [List.getLast?_cons]) rfl
  single := by
    simp only [List.mem_cons, List.mem_append, List.not_mem_nil, or_false, not_or]
    exact ⟨by decide, hsingle, by decide⟩
  whole := by
    have hrest : breakTags (body ++ [char '>']) = body ++ [char '>'] := by
      apply breakTags_of_plain
      simp only [List.mem_append, List.mem_singleton, not_or]
      exact ⟨hplain, by decide⟩
    rw [breakTags_cons, hrest, if_neg (fun hboth => absurd hboth.1 (by decide))]

namespace Tag

variable (tag : Tag)

theorem notMem_name {c : CodePoint} (h : isTagNamePart c = false) : c ∉ tag.name := by
  intro hmem
  rw [tag.nameParts c hmem] at h
  cases h

theorem notMem_inside : char '<' ∉ tag.inside ∧ CodePoint.newline ∉ tag.inside := by
  simp only [inside, List.mem_append, not_or]
  exact ⟨⟨tag.notMem_name (by decide +kernel), tag.plain⟩, tag.notMem_name (by decide +kernel), tag.single⟩

theorem isLine_start : IsLine tag.start :=
  isLine_bracketed tag.notMem_inside.1 tag.notMem_inside.2

theorem isLine_alone : IsLine tag.alone := by
  obtain ⟨hplain, hsingle⟩ := tag.notMem_inside
  have hline : IsLine (char '<' :: ((tag.inside ++ [char '/']) ++ [char '>'])) := by
    apply isLine_bracketed
    · simp only [List.mem_append, List.mem_singleton, not_or]
      exact ⟨hplain, by decide⟩
    · simp only [List.mem_append, List.mem_singleton, not_or]
      exact ⟨hsingle, by decide⟩
  rwa [List.append_assoc] at hline

theorem isLine_stop : IsLine tag.stop := by
  have hline : IsLine (char '<' :: ((char '/' :: tag.name) ++ [char '>'])) := by
    apply isLine_bracketed
    · simp only [List.mem_cons, not_or]
      exact ⟨by decide, tag.notMem_name (by decide +kernel)⟩
    · simp only [List.mem_cons, not_or]
      exact ⟨by decide, tag.notMem_name (by decide +kernel)⟩
  exact hline

/-- The text of an element keeps its tags on one line: it is between the `>` and the `<`. -/
theorem isLine_around (content : Content) : IsLine (tag.around content) := by
  obtain ⟨hstartne, hstarts, hstartends, hstartsingle, hstartwhole⟩ := tag.isLine_start
  obtain ⟨hstopne, -, hstopends, hstopsingle, hstopwhole⟩ := tag.isLine_stop
  have hbreak : breakTags (content.text ++ tag.stop) = content.text ++ tag.stop := by
    have hplain := content.plain.2
    generalize content.text = t at hplain
    induction t with
    | nil => exact hstopwhole
    | cons c t ih =>
      rw [List.mem_cons, not_or] at hplain
      rw [List.cons_append, breakTags_cons, ih hplain.2, if_neg (fun hboth => hplain.1 hboth.1.symm)]
  have hahead : (Text.trimStart (content.text ++ tag.stop)).head? ≠ some (char '<') := by
    rw [head?_trimStart_append content.solid]
    intro hhead
    exact content.plain.1 ((List.dropWhile_suffix CodePoint.isBlank).subset (List.mem_of_head? hhead))
  refine ⟨List.append_ne_nil_of_left_ne_nil hstartne _, Text.startsSolid_append hstartne hstarts _, ?_, ?_, ?_⟩
  · rw [around, ← List.append_assoc]
    exact Text.endsSolid_append hstopne hstopends
  · simp only [around, List.mem_append, not_or]
    exact ⟨hstartsingle, content.single, hstopsingle⟩
  · rw [around, breakTags_append hstartne hstartends hstartsingle hstartwhole, brokenAfter, hbreak,
      if_neg (fun hboth => hahead hboth.2)]

end Tag

/-- A line from an opening bracket to a closing one. -/
structure IsTagLine (line : Text) : Prop where
  isLine : IsLine line
  opens : line.head? = some (char '<')
  closes : line.getLast? = some (char '>')

theorem Tag.isTagLine_start (tag : Tag) : IsTagLine tag.start :=
  ⟨tag.isLine_start, rfl, by simp [start, List.getLast?_cons]⟩

theorem Tag.isTagLine_alone (tag : Tag) : IsTagLine tag.alone :=
  ⟨tag.isLine_alone, rfl, by simp [alone, List.getLast?_cons]⟩

theorem Tag.isTagLine_stop (tag : Tag) : IsTagLine tag.stop :=
  ⟨tag.isLine_stop, rfl, by simp [stop, List.getLast?_cons]⟩

theorem Tag.isTagLine_around (tag : Tag) (content : Content) : IsTagLine (tag.around content) := by
  refine ⟨tag.isLine_around content, rfl, ?_⟩
  rw [around, List.getLast?_append, List.getLast?_append, tag.isTagLine_stop.closes]
  rfl

mutual

theorem Element.isTagLine_tags (element : Element) : ∀ line ∈ element.tags, IsTagLine line := by
  cases element with
  | alone tag => exact List.forall_mem_singleton.mpr tag.isTagLine_alone
  | leaf tag content => exact List.forall_mem_singleton.mpr (tag.isTagLine_around content)
  | node tag children =>
    refine List.forall_mem_cons.mpr ⟨tag.isTagLine_start, List.forall_mem_append.mpr ⟨?_, ?_⟩⟩
    · exact isTagLine_tagsOf children
    · exact List.forall_mem_singleton.mpr tag.isTagLine_stop

theorem isTagLine_tagsOf (forest : List Element) : ∀ line ∈ tagsOf forest, IsTagLine line := by
  cases forest with
  | nil => exact List.forall_mem_nil _
  | cons element rest => exact List.forall_mem_append.mpr ⟨element.isTagLine_tags, isTagLine_tagsOf rest⟩

end

/-! ## The lines are the tags -/

/-- Tags with white space around them are cut at the white space. -/
theorem Spread.cut {tags : List Text} {source : Text} (h : Spread tags source)
    (htags : ∀ line ∈ tags, IsTagLine line) : tags = [] ∧ source.isBlank = true ∨
      ∃ lead body tail, lead.isBlank = true ∧ tail.isBlank = true ∧ source = lead ++ (body ++ tail) ∧
        body.head? = some (char '<') ∧ Cut body tags := by
  induction h with
  | nil hgap => exact Or.inl ⟨rfl, hgap⟩
  | @cons gap tag rest tags hgap _ ih =>
    right
    obtain ⟨htag, htags⟩ := List.forall_mem_cons.mp htags
    rcases ih htags with ⟨rfl, hblank⟩ | ⟨lead, body, tail, hlead, htail, rfl, hopens, hcut⟩
    · exact ⟨gap, tag, rest, hgap, hblank, rfl, htag.opens, .last htag.isLine⟩
    · refine ⟨gap, tag ++ (lead ++ body), tail, hgap, htail, by simp only [List.append_assoc], ?_, ?_⟩
      · rw [head?_append_of_ne_nil htag.isLine.nonempty, htag.opens]
      · exact .cons htag.isLine hlead (Or.inr ⟨htag.closes, hopens⟩) hcut

theorem splitTags_spread {tags : List Text} {source : Text} (h : Spread tags source)
    (htags : ∀ line ∈ tags, IsTagLine line) : splitTags source = tags := by
  rcases h.cut htags with ⟨rfl, hblank⟩ | ⟨lead, body, tail, hlead, htail, rfl, -, hcut⟩
  · exact splitTags_blank hblank
  · have htrim : Text.trim (lead ++ (body ++ tail)) = Text.trim body := by
      rw [Text.trim_append_of_isBlank hlead, Text.trim_append_tail htail]
    rw [← splitTags_trim, htrim, splitTags_trim, hcut.splitTags_eq]

/-! ## The running depth is the depth in the tree -/

theorem Text.hasBlock_append (before : Text) {part : Text} (hpart : part ≠ []) (after : Text) :
    Text.hasBlock part (before ++ (part ++ after)) = true := by
  induction before with
  | nil =>
    obtain ⟨c, part', rfl⟩ := List.exists_cons_of_ne_nil hpart
    rw [List.nil_append, List.cons_append, Text.hasBlock, ← List.cons_append, Xml.startsWith_append]
    rfl
  | cons c before ih => rw [List.cons_append, Text.hasBlock, ih, Bool.or_true]

/-- A block is not found where its first code point does not occur. -/
theorem Text.hasBlock_of_notMem {c : CodePoint} {t : Text} (h : c ∉ t) (part : Text) :
    Text.hasBlock (c :: part) t = false := by
  induction t with
  | nil => rfl
  | cons d t ih =>
    rw [List.mem_cons, not_or] at h
    have hstart : Text.startsWith (d :: t) (c :: part) = false := by
      rw [Text.startsWith, Text.after?, if_neg h.1]
      rfl
    rw [Text.hasBlock, hstart, ih h.2]
    rfl

namespace Tag

variable (tag : Tag)

/-- The first code point of a name is no mark that tells tags apart. -/
theorem exists_name : ∃ c name, tag.name = c :: name ∧ c ≠ char '/' ∧ c ≠ char '!' ∧ c ≠ char '?' := by
  obtain ⟨c, name, hname⟩ := List.exists_cons_of_ne_nil tag.named
  have hpart : isTagNamePart c = true := tag.nameParts c (by rw [hname]; exact List.mem_cons_self)
  have hne : ∀ d, isTagNamePart d = false → c ≠ d := by
    rintro d hd rfl
    rw [hpart] at hd
    cases hd
  exact ⟨c, name, hname, hne _ (by decide +kernel), hne _ (by decide +kernel), hne _ (by decide +kernel)⟩

/-- What follows the name does not belong to it. -/
theorem tagName_of_inside {c : CodePoint} (hc : isTagNamePart c = false) (rest : Text) :
    tagName (char '<' :: (tag.inside ++ c :: rest)) = tag.name := by
  rw [tagName, List.drop_succ_cons, List.drop_zero, inside, List.append_assoc,
    List.takeWhile_append_of_pos tag.nameParts]
  have hnone : (tag.attributes ++ c :: rest).takeWhile isTagNamePart = [] := by
    rcases tag.quoted with hnil | ⟨hspace, -⟩
    · rw [hnil, List.nil_append, List.takeWhile_cons_of_neg (by rw [hc]; exact Bool.false_ne_true)]
    · cases hattributes : tag.attributes with
      | nil => rw [hattributes] at hspace; cases hspace
      | cons d attributes =>
        rw [hattributes] at hspace
        obtain rfl : d = char ' ' := by injection hspace
        rw [List.cons_append, List.takeWhile_cons_of_neg (by decide +kernel)]
  rw [hnone, List.append_nil]

/-- A line that starts with a name is no end tag and no declaration. -/
theorem startsWith_inside (rest : Text) :
    Text.startsWith (char '<' :: (tag.inside ++ rest)) "<" = true ∧
      Text.startsWith (char '<' :: (tag.inside ++ rest)) "</" = false ∧
      Text.startsWith (char '<' :: (tag.inside ++ rest)) "<!" = false ∧
      Text.startsWith (char '<' :: (tag.inside ++ rest)) "<?" = false := by
  obtain ⟨c, name, hname, hslash, hmark, hquestion⟩ := tag.exists_name
  have hsecond : ∀ d, c ≠ d → Text.startsWith (char '<' :: (tag.inside ++ rest)) [char '<', d] = false := by
    intro d hd
    rw [inside, hname, Text.startsWith, Text.after?, if_pos rfl, List.cons_append, List.cons_append, Text.after?,
      if_neg hd.symm]
    rfl
  exact ⟨rfl, hsecond _ hslash, hsecond _ hmark, hsecond _ hquestion⟩

theorem isClosingTag_inside (rest : Text) : isClosingTag (char '<' :: (tag.inside ++ rest)) = false :=
  (tag.startsWith_inside rest).2.1

/-- A line that starts with a name opens the element, unless it ends it. -/
theorem opensElement_inside {c : CodePoint} (hc : isTagNamePart c = false) (rest : Text) :
    opensElement (char '<' :: (tag.inside ++ c :: rest)) =
      (!Text.endsWith (char '<' :: (tag.inside ++ c :: rest)) "/>" &&
        !Text.hasBlock tag.stop (char '<' :: (tag.inside ++ c :: rest))) := by
  obtain ⟨hopen, hslash, hmark, hquestion⟩ := tag.startsWith_inside (c :: rest)
  have hnamed : (tagName (char '<' :: (tag.inside ++ c :: rest))).isEmpty = false := by
    rw [tag.tagName_of_inside hc]
    simpa using tag.named
  have hstop : ("</" : Text) ++ tag.name ++ ">" = tag.stop := by
    rw [List.append_assoc]
    rfl
  rw [opensElement, hopen, hslash, hmark, hquestion, hnamed, tag.tagName_of_inside hc, hstop]
  cases Text.endsWith (char '<' :: (tag.inside ++ c :: rest)) "/>" <;> rfl

theorem endsWith_slash (line : Text) (c : CodePoint) :
    Text.endsWith (line ++ [c, char '>']) "/>" = decide (c = char '/') := by
  rw [Text.endsWith, List.reverse_append]
  show Text.startsWith (char '>' :: c :: line.reverse) [char '>', char '/'] = _
  rw [Text.startsWith, Text.after?, if_pos rfl, Text.after?]
  by_cases hc : c = char '/'
  · rw [if_pos hc.symm, decide_eq_true hc]
    rfl
  · rw [if_neg (fun h => hc h.symm), decide_eq_false hc]
    rfl

/-- What stands before the bracket of a start tag is a part of its name or a quote. -/
theorem exists_inside : ∃ before c, tag.inside = before ++ [c] ∧ c ≠ char '/' := by
  rcases tag.quoted with hnil | ⟨-, q, hq, hquote⟩
  · obtain ⟨before, c, hname⟩ := (List.eq_nil_or_concat' tag.name).resolve_left tag.named
    refine ⟨before, c, by rw [inside, hnil, List.append_nil, hname], ?_⟩
    rintro rfl
    exact tag.notMem_name (c := char '/') (by decide +kernel) (by rw [hname]; simp)
  · obtain ⟨before, hattributes⟩ := List.getLast?_eq_some_iff.mp hq
    refine ⟨tag.name ++ before, q, by rw [inside, hattributes, List.append_assoc], ?_⟩
    rcases hquote with rfl | rfl <;> decide

theorem opensElement_start : opensElement tag.start = true := by
  obtain ⟨before, c, hinside, hc⟩ := tag.exists_inside
  have hends : Text.endsWith tag.start "/>" = false := by
    have hline : tag.start = char '<' :: before ++ [c, char '>'] := by
      rw [start, hinside, List.append_assoc]
      rfl
    rw [hline, endsWith_slash, decide_eq_false hc]
  -- the end tag is not at the front, for a name starts there, and there is no other bracket
  have hblock : Text.hasBlock tag.stop tag.start = false := by
    have hrest : Text.hasBlock tag.stop (tag.inside ++ [char '>']) = false := by
      apply Text.hasBlock_of_notMem
      simp only [List.mem_append, List.mem_singleton, not_or]
      exact ⟨tag.notMem_inside.1, by decide⟩
    obtain ⟨d, name, hname, hslash, -⟩ := tag.exists_name
    have hfront : Text.startsWith tag.start tag.stop = false := by
      simp only [start, stop, inside, hname, List.cons_append]
      rw [Text.startsWith, Text.after?, if_pos rfl, Text.after?, if_neg hslash.symm]
      rfl
    rw [start] at hfront ⊢
    rw [Text.hasBlock, hfront, hrest]
    rfl
  have hopens := tag.opensElement_inside (c := char '>') (by decide +kernel) []
  rw [← start, hends, hblock] at hopens
  exact hopens

theorem opensElement_alone : opensElement tag.alone = false := by
  have hends : Text.endsWith tag.alone "/>" = true := by
    have hline : tag.alone = char '<' :: tag.inside ++ [char '/', char '>'] := rfl
    rw [hline, endsWith_slash]
    rfl
  have hopens := tag.opensElement_inside (c := char '/') (by decide +kernel) [char '>']
  rw [← alone, hends] at hopens
  exact hopens

theorem opensElement_around (content : Content) : opensElement (tag.around content) = false := by
  have hline : tag.around content = char '<' :: (tag.inside ++ char '>' :: (content.text ++ tag.stop)) := by
    rw [around, start, List.cons_append, List.append_assoc]
    rfl
  have hblock : Text.hasBlock tag.stop (tag.around content) = true := by
    have hfound := Text.hasBlock_append (tag.start ++ content.text) tag.isLine_stop.nonempty []
    rwa [List.append_nil, List.append_assoc] at hfound
  have hopens := tag.opensElement_inside (c := char '>') (by decide +kernel) (content.text ++ tag.stop)
  rw [← hline, hblock, Bool.not_true, Bool.and_false] at hopens
  exact hopens

theorem stop_steps : isClosingTag tag.stop = true ∧ opensElement tag.stop = false := ⟨rfl, rfl⟩

end Tag

mutual

/-- The tags of an element are indented as its layout says, and the depth after it is that before it. -/
theorem Element.indentFrom_tags (element : Element) (depth : Nat) (rest : List Text) :
    indentFrom depth (element.tags ++ rest) = element.entries depth ++ indentFrom depth rest := by
  cases element with
  | alone tag =>
    have hclosing : isClosingTag tag.alone = false := tag.isClosingTag_inside _
    show indentFrom depth (tag.alone :: rest) = _
    rw [indentFrom, hclosing, tag.opensElement_alone]
    rfl
  | leaf tag content =>
    have hclosing : isClosingTag (tag.around content) = false := by
      rw [Tag.around, Tag.start, List.cons_append, List.append_assoc]
      exact tag.isClosingTag_inside _
    show indentFrom depth (tag.around content :: rest) = _
    rw [indentFrom, hclosing, tag.opensElement_around]
    rfl
  | node tag children =>
    have hclosing : isClosingTag tag.start = false := tag.isClosingTag_inside _
    have hstop : indentFrom (depth + 1) (tag.stop :: rest) = ⟨depth, tag.stop⟩ :: indentFrom depth rest := by
      rw [indentFrom, tag.stop_steps.1, tag.stop_steps.2]
      rfl
    show indentFrom depth (tag.start :: (tagsOf children ++ [tag.stop] ++ rest)) = _
    rw [indentFrom, hclosing, tag.opensElement_start, List.append_assoc]
    show ⟨depth, tag.start⟩ :: indentFrom (depth + 1) (tagsOf children ++ (tag.stop :: rest)) = _
    rw [indentFrom_tagsOf children, hstop, Element.entries, List.cons_append, List.append_assoc]
    rfl

theorem indentFrom_tagsOf (forest : List Element) (depth : Nat) (rest : List Text) :
    indentFrom depth (tagsOf forest ++ rest) = entriesOf depth forest ++ indentFrom depth rest := by
  cases forest with
  | nil => rfl
  | cons element others =>
    rw [tagsOf, List.append_assoc, element.indentFrom_tags, indentFrom_tagsOf others, entriesOf, List.append_assoc]

end

/-! ## The layout of a forest -/

theorem entries_spread {forest : List Element} {source : Text} (h : Spread (tagsOf forest) source) :
    entries source = entriesOf 0 forest := by
  have hindent := indentFrom_tagsOf forest 0 []
  rw [List.append_nil] at hindent
  rw [entries, splitTags_spread h (isTagLine_tagsOf forest), hindent]
  exact List.append_nil _

/-- Markup that is a forest of elements, with any white space between its tags, is laid out as the forest: an element
without content or with a text on one line, the start tag and the end tag of any other on lines of their own, and
each line at its depth in the tree. -/
theorem format_spread (forest : List Element) (source : Text) (h : Spread (tagsOf forest) source) (width : Nat) :
    format width source = Layout.render width (entriesOf 0 forest) ∧
      ∀ memory : Memory, width < memory.limit →
        Engine.format memory .html width source = ⟨Layout.render width (entriesOf 0 forest), none⟩ ∧
        (Xml.check (Text.trim source) = .ok () →
          Engine.format memory .xml width source = ⟨Layout.render width (entriesOf 0 forest), none⟩) := by
  have hformat : format width source = Layout.render width (entriesOf 0 forest) := by
    rw [format, entries_spread h]
  refine ⟨hformat, ?_⟩
  intro memory hroom
  cases hblank : source.isBlank with
  | true =>
    have hnil : Layout.render width (entriesOf 0 forest) = [] := by
      rw [← entries_spread h, entries, splitTags_blank hblank]
      rfl
    rw [Engine.format_blank memory .html width hblank, Engine.format_blank memory .xml width hblank, hnil]
    exact ⟨rfl, fun _ => rfl⟩
  | false =>
    refine ⟨?_, ?_⟩
    · rw [format_html hroom hblank, hformat]
    · intro hcheck
      rw [Xml.format_xml hroom hblank hcheck, format_trim, hformat]

/-- A `>` and a slash in an attribute, an element of another name, and a text with spaces around it. -/
theorem format_spread_nested :
    let outer : Tag :=
      ⟨"a", " x='/>'", by decide, by decide +kernel, Or.inr ⟨rfl, char '\'', rfl, Or.inr rfl⟩, by decide, by decide⟩
    let inner : Tag := ⟨"ab", [], by decide, by decide +kernel, Or.inl rfl, by decide, by decide⟩
    let content : Content := ⟨" t ", rfl, by decide, by decide⟩
    Spread (tagsOf [.node outer [.alone inner, .leaf inner content]]) "<a x='/>'> \n<ab/><ab> t </ab>\n\n</a> " ∧
      Engine.format .word .xml 2 "<a x='/>'> \n<ab/><ab> t </ab>\n\n</a> " =
        ⟨"<a x='/>'>\n  <ab/>\n  <ab> t </ab>\n</a>", none⟩ := by
  intro outer inner content
  have hspread : Spread (tagsOf [.node outer [.alone inner, .leaf inner content]])
      "<a x='/>'> \n<ab/><ab> t </ab>\n\n</a> " :=
    @Spread.cons [] _ _ _ rfl (@Spread.cons " \n" _ _ _ rfl (@Spread.cons [] _ _ _ rfl
      (@Spread.cons "\n\n" _ _ _ rfl (@Spread.nil " " rfl))))
  have hcheck : Xml.check (Text.trim "<a x='/>'> \n<ab/><ab> t </ab>\n\n</a> ") = .ok () :=
    (@Xml.check_of_valid .word 2 _ rfl (by decide +kernel)).1
  exact ⟨hspread, ((format_spread _ _ hspread 2).2 .word (by decide)).2 hcheck⟩

end Tidy.Markup
