/-
# Tidy.Proofs.Css.Tree -- the layout of a style sheet that is a tree

The layout reads a flat row of tokens, with a depth and the text of a statement, and builds no tree. Where the sheet is
a list of comments and of blocks in blocks (`Item`), written with any white space between its parts (`Written`), it
still gives the layout of the tree (`layoutOf`): what is collected between two braces is what stands there in the tree
(`Written.place`), and the empty lines behind closing braces are those between neighbours (`separate_linesOf`).
-/

import Tidy.Proofs.Css.Phrase
import Tidy.Proofs.Width

namespace Tidy.Css

open CodePoint (char)

/-! ## Trees -/

/-- A comment, from its slash to its slash. -/
structure Note where
  text : Text
  closed : (Atom.comment text).WellFormed

/-- The name of a declaration, which has no colon and no parenthesis. -/
structure Name extends Phrase where
  parts : ∀ c ∈ textOf atoms, isNamePart c = true

/-- A comment, a declaration, or a block with items in it. -/
inductive Item where
  | comment (note : Note)
  | declaration (name : Name) (value : Phrase)
  | block (selector : Phrase) (items : List Item)

/-- The line of a declaration. -/
def Name.line (name : Name) (value : Phrase) : Text :=
  name.shown ++ (": " ++ (value.shown ++ ";"))

/-- The line that opens the block of a selector. -/
def Phrase.opening (selector : Phrase) : Text :=
  selector.shown ++ " \x7b"

/-- The empty line behind an item, where another one follows: blocks are set apart. -/
def Item.gap : Item → List Item → List Entry
  | .block _ _, _ :: _ => [Layout.emptyLine]
  | _, _ => []

mutual

/-- The layout of an item at a depth. -/
def Item.layout (depth : Nat) : Item → List Entry
  | .comment note => [⟨depth, note.text⟩]
  | .declaration name value => [⟨depth, name.line value⟩]
  | .block selector items => ⟨depth, selector.opening⟩ :: (layoutOf (depth + 1) items ++ [⟨depth, "\x7d"⟩])

/-- The layout of items at a depth. -/
def layoutOf (depth : Nat) : List Item → List Entry
  | [] => []
  | item :: rest => item.layout depth ++ (item.gap rest ++ layoutOf depth rest)

end

/-- The text is the items, with white space or nothing between all of their parts. Declarations stand `inside` of a
block only, and the last one of a block may be without its semicolon. -/
inductive Written : (inside : Bool) → List Item → Text → Prop
  | nil {inside : Bool} {gap : Text} : gap.isBlank = true → Written inside [] gap
  | comment {inside : Bool} {note : Note} {items : List Item} {gap rest : Text} :
      gap.isBlank = true → Written inside items rest →
      Written inside (.comment note :: items) (gap ++ (note.text ++ rest))
  | declaration {name : Name} {value : Phrase} {items : List Item} {gap before after last rest : Text} :
      gap.isBlank = true → before.isBlank = true → after.isBlank = true → last.isBlank = true →
      Written true items rest →
      Written true (.declaration name value :: items)
        (gap ++ (name.text ++ (before ++ (":" ++ (after ++ (value.text ++ (last ++ (";" ++ rest))))))))
  | unended {name : Name} {value : Phrase} {gap before after last : Text} :
      gap.isBlank = true → before.isBlank = true → after.isBlank = true → last.isBlank = true →
      Written true [.declaration name value]
        (gap ++ (name.text ++ (before ++ (":" ++ (after ++ (value.text ++ last))))))
  | block {inside : Bool} {selector : Phrase} {inner items : List Item} {gap before body rest : Text} :
      gap.isBlank = true → before.isBlank = true → Written true inner body → Written inside items rest →
      Written inside (.block selector inner :: items)
        (gap ++ (selector.text ++ (before ++ ("\x7b" ++ (body ++ ("\x7d" ++ rest))))))

/-! ## The lines of a tree -/

mutual

/-- The lines of an item at a depth, with no empty ones. -/
def Item.lines (depth : Nat) : Item → List Entry
  | .comment note => [⟨depth, note.text⟩]
  | .declaration name value => [⟨depth, name.line value⟩]
  | .block selector items => ⟨depth, selector.opening⟩ :: (linesOf (depth + 1) items ++ [⟨depth, closingLine⟩])

/-- The lines of items at a depth, with no empty ones. -/
def linesOf (depth : Nat) : List Item → List Entry
  | [] => []
  | item :: rest => item.lines depth ++ linesOf depth rest

end

/-! ## What is collected of a tree -/

theorem Name.parts_shown (name : Name) : ∀ c ∈ name.shown, isNamePart c = true := by
  intro c hc
  rcases mem_collapsed hc with rfl | hmem
  · rfl
  · exact name.parts c hmem

/-- One space or none before the colon, and after it, are put right by normalising. -/
theorem Name.normalizeDeclaration (name : Name) (value : Phrase) {spaces spaces' : Text}
    (h : spaces = [] ∨ spaces = [char ' ']) (h' : spaces' = [] ∨ spaces' = [char ' ']) :
    Css.normalizeDeclaration (name.shown ++ (spaces ++ char ':' :: (spaces' ++ value.shown))) =
      name.shown ++ (": " ++ value.shown) := by
  obtain ⟨hname, -, hnameend⟩ := name.solid_shown
  have hparts : ∀ c ∈ spaces, isNamePart c = true := by rcases h with rfl | rfl <;> decide
  have htrim : Text.trimEnd spaces = [] := by rcases h with rfl | rfl <;> rfl
  have hvalue : Text.trimStart (spaces' ++ value.shown) = value.shown := by
    rw [Text.trimStart_append_of_isBlank (isBlank_of_space h'),
      Text.trimStart_of_startsSolid value.solid_shown.2.1]
  rw [normalizeDeclaration_colon spaces (List.forall_mem_append.mpr ⟨name.parts_shown, hparts⟩) hname hnameend, htrim,
    hvalue, List.nil_append]

/-- A declaration is collected with its colon. -/
theorem Name.exists_declaration (name : Name) (value : Phrase) (before after last : Text) (rest : List Atom) :
    ∃ buffer, collect [] (name.atoms ++ (before.map .blank ++ .solid (char ':') ::
        (after.map .blank ++ (value.atoms ++ (last.map .blank ++ rest))))) = collect buffer rest ∧
      ∀ depth, depth ≠ 0 → place depth (flush buffer true) = [⟨depth, name.line value⟩] := by
  obtain ⟨hname, hstart, -⟩ := name.solid_shown
  obtain ⟨hvalue, -, hend⟩ := value.solid_shown
  obtain ⟨spaces, hspaces, hbefore⟩ := name.exists_collect [] before (.solid (char ':') ::
    (after.map .blank ++ (value.atoms ++ (last.map .blank ++ rest))))
  obtain ⟨spaces', hspaces', hafter⟩ := exists_collect_gap
    (List.append_ne_nil_of_right_ne_nil ([] ++ name.shown ++ spaces) (List.cons_ne_nil (char ':') []))
    (Text.endsSolid_append (List.cons_ne_nil _ _) (Text.endsSolid_of_getLast rfl rfl)) after
    (value.atoms ++ (last.map .blank ++ rest))
  obtain ⟨tail, htail, hlast⟩ :=
    value.exists_collect ([] ++ name.shown ++ spaces ++ [char ':'] ++ spaces') last rest
  have hbuffer : [] ++ name.shown ++ spaces ++ [char ':'] ++ spaces' ++ value.shown ++ tail =
      name.shown ++ (spaces ++ char ':' :: (spaces' ++ value.shown)) ++ tail := by
    simp only [List.append_assoc, List.cons_append, List.nil_append]
  refine ⟨name.shown ++ (spaces ++ char ':' :: (spaces' ++ value.shown)) ++ tail, ?_, ?_⟩
  · rw [hbefore, collect, hafter, hlast, hbuffer]
  · intro depth hdepth
    have hsolid : Text.EndsSolid (name.shown ++ (spaces ++ char ':' :: (spaces' ++ value.shown))) := by
      have hvalueend := Text.endsSolid_append (s := name.shown ++ (spaces ++ char ':' :: spaces')) hvalue hend
      simpa only [List.append_assoc, List.cons_append] using hvalueend
    rw [flush, Text.trim_append_tail (isBlank_of_space htail),
      Text.trim_of_solid (Text.startsSolid_append hname hstart _) hsolid, if_neg (by simp [hname]), place, place,
      declarationLine_eq, if_neg hdepth, name.normalizeDeclaration value hspaces hspaces', Name.line, List.append_assoc,
      List.append_assoc]
    rfl

/-- White space in front of an item is not collected. -/
theorem collect_atoms_gap {gap : Text} (h : Text.isBlank gap = true) (t : Text) :
    collect [] (atoms (gap ++ t)) = collect [] (atoms t) := by
  rw [atoms_gap h, collect_map_blank pad_nil]

theorem head?_cons_ne_star {c : CodePoint} (h : c ≠ char '*') (t : Text) : (c :: t).head? ≠ some (char '*') :=
  fun hstar => h (Option.some.inj hstar)

/-- White space and what is no star do not make a slash before them start a comment. -/
theorem head?_gap_append {gap t : Text} (h : Text.isBlank gap = true) (ht : t.head? ≠ some (char '*')) :
    (gap ++ t).head? ≠ some (char '*') := by
  cases gap with
  | nil => exact ht
  | cons c gap =>
    intro hstar
    obtain rfl := Option.some.inj hstar
    have hblank := List.all_eq_true.mp h (char '*') List.mem_cons_self
    exact absurd hblank (by decide)

/-- A declaration is read as it is written. -/
theorem Name.atoms_declaration (name : Name) (value : Phrase) {before after last : Text}
    (hbefore : Text.isBlank before = true) (hafter : Text.isBlank after = true) (hlast : Text.isBlank last = true)
    {rest : Text} (hrest : rest.head? ≠ some (char '*')) :
    atoms (name.text ++ (before ++ (":" ++ (after ++ (value.text ++ (last ++ rest)))))) =
      name.atoms ++ (before.map .blank ++ .solid (char ':') ::
        (after.map .blank ++ (value.atoms ++ (last.map .blank ++ atoms rest)))) := by
  have hcolon : ∀ t : Text, atoms (":" ++ t) = .solid (char ':') :: atoms t := fun t => atoms_word rfl t
  have hmark : ∀ t : Text, (":" ++ t).head? ≠ some (char '*') := head?_cons_ne_star (by decide : char ':' ≠ char '*')
  rw [name.atoms_append (head?_gap_append hbefore (hmark _)), atoms_gap hbefore, hcolon, atoms_gap hafter,
    value.atoms_append (head?_gap_append hlast hrest), atoms_gap hlast]

/-- The items of a sheet are placed as the lines of the tree, and then comes what is behind them. -/
theorem Written.place {inside : Bool} {items : List Item} {text : Text} (h : Written inside items text) {depth : Nat}
    (hdepth : inside = true → depth ≠ 0) {rest : Text} (hrest : inside = true → ∃ more, rest = char '}' :: more) :
    Css.place depth (collect [] (atoms (text ++ rest))) =
      linesOf depth items ++ Css.place depth (collect [] (atoms rest)) := by
  induction h generalizing depth rest with
  | nil hgap =>
    rw [collect_atoms_gap hgap]
    rfl
  | @comment _ note items gap text hgap _ ih =>
    have hnote : atoms (note.text ++ (text ++ rest)) = .comment note.text :: atoms (text ++ rest) :=
      atoms_text_append note.closed trivial
    rw [List.append_assoc, List.append_assoc, collect_atoms_gap hgap, hnote]
    exact congrArg (Entry.mk depth note.text :: ·) (ih hdepth hrest)
  | @declaration name value items gap before after last text hgap hbefore hafter hlast _ ih =>
    obtain ⟨buffer, hcollect, hplace⟩ :=
      name.exists_declaration value before after last (.semicolon :: atoms (text ++ rest))
    have hmark : (";" ++ (text ++ rest)).head? ≠ some (char '*') := head?_cons_ne_star (by decide : char ';' ≠ _) _
    have hsemicolon : atoms (";" ++ (text ++ rest)) = .semicolon :: atoms (text ++ rest) :=
      atoms_of_next (.semicolon rfl)
    simp only [List.append_assoc]
    rw [collect_atoms_gap hgap, name.atoms_declaration value hbefore hafter hlast hmark, hsemicolon, hcollect, collect,
      place_flush_append, hplace depth (hdepth rfl), ih hdepth hrest]
    rfl
  -- the brace that follows ends the declaration
  | @unended name value gap before after last hgap hbefore hafter hlast =>
    obtain ⟨more, rfl⟩ := hrest rfl
    obtain ⟨buffer, hcollect, hplace⟩ := name.exists_declaration value before after last (.closeBrace :: atoms more)
    have hmark : (char '}' :: more).head? ≠ some (char '*') := head?_cons_ne_star (by decide) more
    have hbrace : atoms (char '}' :: more) = .closeBrace :: atoms more := atoms_of_next (.closeBrace rfl)
    simp only [List.append_assoc]
    rw [collect_atoms_gap hgap, name.atoms_declaration value hbefore hafter hlast hmark, hbrace, hcollect, collect,
      place_flush_append, hplace depth (hdepth rfl)]
    rfl
  | @block inside selector inner items gap before body text hgap hbefore _ _ ihinner ih =>
    have hmark : ("\x7b" ++ (body ++ ("\x7d" ++ (text ++ rest)))).head? ≠ some (char '*') :=
      head?_cons_ne_star (by decide : char '{' ≠ _) _
    have hopen : atoms ("\x7b" ++ (body ++ ("\x7d" ++ (text ++ rest)))) =
        .openBrace :: atoms (body ++ ("\x7d" ++ (text ++ rest))) := atoms_of_next (.openBrace rfl)
    have hclose : atoms ("\x7d" ++ (text ++ rest)) = .closeBrace :: atoms (text ++ rest) :=
      atoms_of_next (.closeBrace rfl)
    have hopening : openingLine selector.shown = selector.opening := if_neg (by simpa using selector.solid_shown.1)
    -- the body of the block is deeper, and behind it stands the brace of the block
    have hdeeper : true = true → depth + 1 ≠ 0 := fun _ => Nat.succ_ne_zero depth
    have hbrace : true = true → ∃ more, ("\x7d" ++ (text ++ rest) : Text) = char '}' :: more :=
      fun _ => ⟨text ++ rest, rfl⟩
    have hbehind : Css.place (depth + 1) (collect [] (.closeBrace :: atoms (text ++ rest))) =
        ⟨depth, closingLine⟩ :: (linesOf depth items ++ Css.place depth (collect [] (atoms rest))) := by
      rw [← ih hdepth hrest]
      rfl
    simp only [List.append_assoc]
    rw [collect_atoms_gap hgap, selector.atoms_append (head?_gap_append hbefore hmark), atoms_gap hbefore, hopen,
      selector.collect_opening, Css.place, ihinner hdeeper hbrace, hclose, hbehind, hopening, linesOf, Item.lines]
    simp only [List.cons_append, List.append_assoc, List.nil_append]

theorem ne_closingLine {content : Text} {c : CodePoint} (h : content.getLast? = some c) (hc : c ≠ char '}') :
    content ≠ closingLine := by
  rintro rfl
  exact hc (Option.some.inj h).symm

theorem Name.getLast?_line (name : Name) (value : Phrase) : (name.line value).getLast? = some (char ';') := by
  rw [Name.line, List.getLast?_append, List.getLast?_append, List.getLast?_append]
  rfl

theorem Phrase.getLast?_opening (selector : Phrase) : selector.opening.getLast? = some (char '{') := by
  rw [Phrase.opening, List.getLast?_append]
  rfl

/-- The first line of an item closes nothing. -/
theorem Item.exists_first (item : Item) (depth : Nat) :
    ∃ first es, item.lines depth = first :: es ∧ first.content ≠ closingLine := by
  cases item with
  | comment note => exact ⟨_, [], rfl, ne_closingLine (getLast?_comment note.closed) (by decide)⟩
  | declaration name value => exact ⟨_, [], rfl, ne_closingLine (name.getLast?_line value) (by decide)⟩
  | block selector items => exact ⟨_, _, rfl, ne_closingLine selector.getLast?_opening (by decide)⟩

/-- The last line of an item closes something just where the item is a block. -/
theorem Item.exists_last (item : Item) (depth : Nat) : ∃ es last, item.lines depth = es ++ [last] ∧
    ∀ first : Entry, first.content ≠ closingLine → ∀ next rest, parting last first = item.gap (next :: rest) := by
  have hnone : ∀ {last : Entry}, last.content ≠ closingLine → ∀ first, parting last first = [] :=
    fun hlast first => if_neg fun hboth => hlast hboth.1
  cases item with
  | comment note =>
    have hnote := ne_closingLine (getLast?_comment note.closed) (by decide)
    exact ⟨[], _, rfl, fun first _ _ _ => hnone hnote first⟩
  | declaration name value =>
    have hline := ne_closingLine (name.getLast?_line value) (by decide)
    exact ⟨[], _, rfl, fun first _ _ _ => hnone hline first⟩
  | block selector items =>
    exact ⟨⟨depth, selector.opening⟩ :: linesOf (depth + 1) items, _, rfl, fun _ hfirst _ _ => if_pos ⟨rfl, hfirst⟩⟩

mutual

/-- Set apart, the lines of an item are its layout. -/
theorem Item.separate_lines (item : Item) (depth : Nat) : separate (item.lines depth) = item.layout depth := by
  cases item with
  | comment note => rfl
  | declaration name value => rfl
  | block selector items =>
    have hopening := ne_closingLine selector.getLast?_opening (by decide)
    rw [Item.lines, separate_cons_of_ne hopening, separate_concat_closing rfl, separate_linesOf items, Item.layout]
    rfl

theorem separate_linesOf (items : List Item) (depth : Nat) : separate (linesOf depth items) = layoutOf depth items := by
  cases items with
  | nil => rfl
  | cons item rest =>
    have hitem := item.separate_lines depth
    have hrest := separate_linesOf rest depth
    cases rest with
    | nil =>
      rw [linesOf, linesOf, List.append_nil, hitem, layoutOf, layoutOf]
      cases item <;> exact (List.append_nil _).symm
    | cons next others =>
      obtain ⟨first, fs, hfirst, hclosing⟩ := next.exists_first depth
      obtain ⟨es, last, hlast, hgap⟩ := item.exists_last depth
      rw [linesOf, hfirst, List.cons_append] at hrest
      rw [linesOf, linesOf, hfirst, hlast, List.append_assoc, List.singleton_append, List.cons_append, separate_append,
        ← hlast, hitem, hrest, hgap first hclosing next others]
      rfl

end

/-! ## The layout of a tree -/

mutual

/-- No line of an item has white space at its end. -/
theorem Item.endsSolid_lines (item : Item) (depth : Nat) : ∀ e ∈ item.lines depth, Text.EndsSolid e.content := by
  cases item with
  | comment note => exact List.forall_mem_singleton.mpr (Text.endsSolid_of_getLast (getLast?_comment note.closed) rfl)
  | declaration name value =>
    exact List.forall_mem_singleton.mpr (Text.endsSolid_of_getLast (name.getLast?_line value) rfl)
  | block selector items =>
    refine List.forall_mem_cons.mpr ⟨Text.endsSolid_of_getLast selector.getLast?_opening rfl, ?_⟩
    refine List.forall_mem_append.mpr ⟨endsSolid_linesOf items (depth + 1), ?_⟩
    exact List.forall_mem_singleton.mpr (Text.endsSolid_of_getLast (c := char '}') rfl rfl)

theorem endsSolid_linesOf (items : List Item) (depth : Nat) : ∀ e ∈ linesOf depth items, Text.EndsSolid e.content := by
  cases items with
  | nil => exact List.forall_mem_nil _
  | cons item rest =>
    exact List.forall_mem_append.mpr ⟨item.endsSolid_lines depth, endsSolid_linesOf rest depth⟩

end

theorem entries_written {items : List Item} {source : Text} (h : Written false items source) :
    entries source = separate (linesOf 0 items) := by
  have hplace : Css.place 0 (collect [] (atoms (source ++ []))) =
      linesOf 0 items ++ Css.place 0 (collect [] (atoms [])) := h.place Bool.noConfusion Bool.noConfusion
  rw [List.append_nil, atoms_nil] at hplace
  rw [entries_eq_collect, hplace]
  exact congrArg separate (List.append_nil _)

/-- A style sheet that is a tree of blocks, written with any white space between its parts and in its texts, is laid
out as the tree: the selector with its brace, each declaration, each comment and each closing brace on lines of their
own, at their depth in the tree, with an empty line between a block and what stands next to it. -/
theorem format_written (items : List Item) (source : Text) (h : Written false items source) (width : Nat) :
    format width source = Layout.render width (layoutOf 0 items) := by
  have hentries := entries_written h
  have hsolid : ∀ e ∈ entries source, Text.EndsSolid e.content := by
    intro e he
    rw [hentries] at he
    rcases mem_separate he with hline | rfl
    · exact endsSolid_linesOf items 0 e hline
    · exact Text.endsSolid_nil
  rw [format_eq_render, Layout.trimLast_of_endsSolid hsolid, hentries, separate_linesOf]

/-- A colon and a run of white space in a selector, a string with marks of the sheet in it, a slash that starts no
comment, and a declaration without its semicolon. -/
theorem format_written_nested : ∃ items,
    Written false items "/* t */a:b\n c\x7bx :\"\x7d;\"/ y;d\x7b\x7dz:0 \x7d\te\x7b\x7d" ∧
      format 2 "/* t */a:b\n c\x7bx :\"\x7d;\"/ y;d\x7b\x7dz:0 \x7d\te\x7b\x7d" =
        "/* t */\na:b c \x7b\n  x: \"\x7d;\"/ y;\n  d \x7b\n  \x7d\n\n  z: 0;\n\x7d\n\ne \x7b\n\x7d" := by
  let selector : Phrase :=
    { atoms := [.solid (char 'a'), .solid (char ':'), .solid (char 'b'), .blank CodePoint.newline, .blank (char ' '),
        .solid (char 'c')]
      plain := by
        simp only [List.forall_mem_cons]
        exact ⟨plain_of_word rfl, plain_of_word rfl, plain_of_word rfl, rfl, rfl, plain_of_word rfl,
          List.forall_mem_nil _⟩
      uncommented := by decide
      nonempty := List.cons_ne_nil _ _
      starts := Text.startsSolid_of_head rfl rfl
      ends := Text.endsSolid_of_getLast rfl rfl }
  let value : Phrase :=
    { atoms := [.string "\"\x7d;\"", .solid (char '/'), .blank (char ' '), .solid (char 'y')]
      plain := by
        simp only [List.forall_mem_cons]
        refine ⟨⟨char '"', "\x7d;", Or.inl rfl, rfl, rfl⟩, ⟨⟨rfl, ?_⟩, ?_⟩, rfl, plain_of_word rfl,
          List.forall_mem_nil _⟩
        · decide
        · decide
      uncommented := by decide
      nonempty := List.cons_ne_nil _ _
      starts := Text.startsSolid_of_head rfl rfl
      ends := Text.endsSolid_of_getLast rfl rfl }
  let letter (c : CodePoint) (hc : Token.isWordPart c = true) : Phrase :=
    .ofWord [c] (List.cons_ne_nil c []) (List.forall_mem_singleton.mpr hc)
  let name (c : CodePoint) (hc : Token.isWordPart c = true) (hpart : isNamePart c = true) : Name :=
    { letter c hc with parts := List.forall_mem_singleton.mpr hpart }
  have hnil : ∀ inside, Written inside [] [] := fun _ => @Written.nil _ [] rfl
  have hinner := @Written.declaration (name (char 'x') rfl rfl) value _ [] " " [] [] _ rfl rfl rfl rfl
    (@Written.block true (letter (char 'd') rfl) _ _ [] [] _ _ rfl rfl (hnil true)
      (@Written.unended (name (char 'z') rfl rfl) (letter (char '0') rfl) [] [] [] " " rfl rfl rfl rfl))
  have hwritten := @Written.comment false ⟨"/* t */", " t ", rfl, rfl⟩ _ [] _ rfl
    (@Written.block false selector _ _ [] [] _ _ rfl rfl hinner
      (@Written.block false (letter (char 'e') rfl) _ _ "\t" [] _ _ rfl rfl (hnil true) (hnil false)))
  exact ⟨_, hwritten, (format_written _ _ hwritten 2).trans (by decide +kernel)⟩

end Tidy.Css
