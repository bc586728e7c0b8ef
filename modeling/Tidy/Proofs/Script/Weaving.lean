/-
# Tidy.Proofs.Script.Weaving -- a formatted script is its tokens with spacing between them

Formatting loses, doubles and reorders nothing: the formatted script is made of the tokens of the source, in their
order, with spaces and line feeds between them (`Woven`). Of a line comment this says more, that a line feed stands
directly after it, so that no token falls into a comment.

The pass over the tokens keeps one invariant: the lines that are done and the line that has begun hold the tokens
that were read, and a line comment only stands at the end of a line that is done.
-/

import Tidy.Proofs.Layout
import Tidy.Proofs.Script.Tokens
import Tidy.Script.Layout

namespace Tidy.Script

open CodePoint (char)

/-- A text of spaces and line feeds. -/
def IsSpacing (t : Text) : Prop := ∀ c ∈ t, c = char ' ' ∨ c = CodePoint.newline

/-- What is shown of the tokens, in their order, with spacing between each two. The spacing after a line comment
begins with a line feed. -/
inductive Woven : List Token → Text → Prop
  | nil : Woven [] []
  | last (t : Token) : Woven [t] t.shown
  | cons {t next : Token} {rest : List Token} {spacing out : Text} :
      IsSpacing spacing → (t.isLineComment = true → spacing.head? = some CodePoint.newline) →
      Woven (next :: rest) out → Woven (t :: next :: rest) (t.shown ++ (spacing ++ out))

/-! ## The invariant of the pass -/

/-- The items are what is shown of the tokens, and no space stands before the first. -/
structure Carries (items : List Placed) (ts : List Token) : Prop where
  texts : items.map Placed.text = ts.map Token.shown
  start : ∀ item, items.head? = some item → item.spaced = false

/-- The tokens stand on the lines, in their order. A line comment stands at the end of its line. -/
inductive SetIn : List Line → List Token → Prop
  | nil : SetIn [] []
  | cons {line : Line} {lines : List Line} {ts rest : List Token} :
      ts ≠ [] → Carries line.items ts → (∀ t ∈ ts.dropLast, t.isLineComment = false) →
      SetIn lines rest → SetIn (line :: lines) (ts ++ rest)

/-- The line that has begun carries the tokens, and none of them is a line comment. -/
structure Begun (items : List Placed) (ts : List Token) : Prop extends Carries items ts where
  plain : ∀ t ∈ ts, t.isLineComment = false

/-- The lines that are done and the line that has begun hold the tokens. -/
def Keeps (result : List Line × State) (ts : List Token) : Prop :=
  ∃ done begun, SetIn result.1 done ∧ Begun result.2.items begun ∧ done ++ begun = ts

theorem SetIn.append {first second : List Line} {ts us : List Token} (h : SetIn first ts) (h' : SetIn second us) :
    SetIn (first ++ second) (ts ++ us) := by
  induction h with
  | nil => exact h'
  | cons hne hcarries hcomments _ ih =>
    rw [List.cons_append, List.append_assoc]
    exact .cons hne hcarries hcomments ih

theorem begun_nil : Begun [] [] := by
  refine ⟨⟨rfl, ?_⟩, ?_⟩
  · intro item hitem
    cases hitem
  · intro t ht
    cases ht

theorem Begun.keeps {s : State} {ts : List Token} (h : Begun s.items ts) : Keeps ([], s) ts :=
  ⟨[], ts, .nil, h, rfl⟩

/-- Keeping goes on from one operation to the next. -/
theorem Keeps.trans {result : List Line × State} {ts us : List Token} (h : Keeps result ts)
    (next : State → List Line × State)
    (hnext : ∀ begun, Begun result.2.items begun → Keeps (next result.2) (begun ++ us)) :
    Keeps (result.1 ++ (next result.2).1, (next result.2).2) (ts ++ us) := by
  obtain ⟨done, begun, hdone, hbegun, rfl⟩ := h
  obtain ⟨done', begun', hdone', hbegun', heq⟩ := hnext begun hbegun
  refine ⟨done ++ done', begun', hdone.append hdone', hbegun', ?_⟩
  rw [List.append_assoc, heq, List.append_assoc]

/-! ## One token -/

theorem Carries.eq_nil {ts : List Token} (h : Carries [] ts) : ts = [] :=
  List.map_eq_nil_iff.mp h.texts.symm

/-- Writing puts the token at the end of the line. -/
theorem carries_write {s : State} {ts : List Token} (h : Carries s.items ts) {t : Token} {text : Text}
    (ht : t.shown = text) (spaced attached : Bool) : Carries (s.write text spaced attached).items (ts ++ [t]) := by
  unfold State.write
  split
  · rename_i hempty
    rw [List.isEmpty_iff] at hempty
    rw [hempty] at h
    rw [h.eq_nil]
    refine ⟨by rw [← ht]; rfl, ?_⟩
    intro item hitem
    obtain rfl : (⟨false, text⟩ : Placed) = item := by injection hitem
    rfl
  · rename_i hempty
    refine ⟨?_, ?_⟩
    · rw [List.map_append, List.map_append, h.texts, ← ht]
      rfl
    · intro item hitem
      apply h.start
      cases hitems : s.items with
      | nil =>
        rw [hitems] at hempty
        exact absurd rfl hempty
      | cons first more =>
        rw [hitems] at hitem
        exact hitem

theorem begun_write {s : State} {ts : List Token} (h : Begun s.items ts) {t : Token} {text : Text}
    (ht : t.shown = text) (hcomment : t.isLineComment = false) (spaced attached : Bool) :
    Begun (s.write text spaced attached).items (ts ++ [t]) := by
  refine ⟨carries_write h.toCarries ht spaced attached, ?_⟩
  intro u hu
  rcases List.mem_append.mp hu with hu | hu
  · exact h.plain u hu
  · rw [List.mem_singleton.mp hu]
    exact hcomment

/-- A line that ends is a line of its tokens, and nothing has begun after it. -/
theorem keeps_endLine {s : State} {ts : List Token} (h : Carries s.items ts)
    (hcomments : ∀ t ∈ ts.dropLast, t.isLineComment = false) : Keeps s.endLine ts := by
  unfold State.endLine
  split
  · rename_i hempty
    rw [List.isEmpty_iff] at hempty
    rw [hempty] at h
    rw [h.eq_nil]
    exact ⟨[], [], .nil, by rw [hempty]; exact begun_nil, rfl⟩
  · rename_i hempty
    have hne : ts ≠ [] := by
      rintro rfl
      exact hempty (List.isEmpty_iff.mpr (List.map_eq_nil_iff.mp h.texts))
    refine ⟨ts ++ [], [], .cons hne h hcomments .nil, begun_nil, ?_⟩
    rw [List.append_nil, List.append_nil]

theorem Begun.keeps_endLine {s : State} {ts : List Token} (h : Begun s.items ts) : Keeps s.endLine ts :=
  Script.keeps_endLine h.toCarries fun t ht => h.plain t (List.dropLast_subset ts ht)

theorem keeps_settle {s : State} {ts : List Token} (h : Begun s.items ts) (t : Token) : Keeps (s.settle t) ts := by
  unfold State.settle
  split
  · dsimp only
    split
    · exact Begun.keeps h
    · split
      · exact Begun.keeps h
      · exact Begun.keeps_endLine h
  · exact Begun.keeps h

theorem keeps_placeMark {s : State} {ts : List Token} (h : Begun s.items ts) (m : Mark) :
    Keeps (s.placeMark m) (ts ++ [.mark m]) := by
  have hwrite : ∀ (s : State) {ts : List Token}, Begun s.items ts → ∀ spaced attached,
      Begun (s.write [m.char] spaced attached).items (ts ++ [.mark m]) :=
    fun _ _ hs spaced attached => begun_write (t := .mark m) hs rfl rfl spaced attached
  cases m with
  | openBrace => exact Begun.keeps_endLine (hwrite s h true false)
  | closeBrace =>
    -- the brace stands on a line of its own
    obtain ⟨done, begun, hdone, hbegun, rfl⟩ := h.keeps_endLine
    refine ⟨done, begun ++ [.mark .closeBrace], hdone, ?_, (List.append_assoc _ _ _).symm⟩
    exact hwrite { s.endLine.2 with stack := closeBraces s.endLine.2.stack } hbegun false false
  | openParen => exact Begun.keeps (hwrite s h false false)
  | openBracket => exact Begun.keeps (hwrite s h false false)
  | closeParen => exact Begun.keeps (hwrite { s with stack := closeMatching .openParen s.stack } h false true)
  | closeBracket => exact Begun.keeps (hwrite { s with stack := closeMatching .openBracket s.stack } h false true)
  | semicolon =>
    unfold State.placeMark
    dsimp only
    split
    · exact Begun.keeps (hwrite s h false true)
    · exact Begun.keeps_endLine (hwrite s h false true)
  | comma =>
    unfold State.placeMark
    dsimp only
    split
    · exact Begun.keeps_endLine (hwrite s h false true)
    · exact Begun.keeps (hwrite s h false true)

theorem keeps_place {s : State} {ts : List Token} (h : Begun s.items ts) {t : Token} (hgap : t.isGap = false) :
    Keeps (s.place t) (ts ++ [t]) := by
  cases t with
  | gap text => cases hgap
  | lineComment text =>
    -- the line ends with the comment
    refine keeps_endLine (carries_write (t := .lineComment text) h.toCarries rfl false false) ?_
    rw [List.dropLast_concat]
    exact h.plain
  | operator text => exact Begun.keeps (begun_write (t := .operator text) h rfl rfl true false)
  | mark m => exact keeps_placeMark h m
  | blockComment text => exact Begun.keeps (begun_write (t := .blockComment text) h rfl rfl false false)
  | string text => exact Begun.keeps (begun_write (t := .string text) h rfl rfl false false)
  | step text => exact Begun.keeps (begun_write (t := .step text) h rfl rfl false false)
  | word text => exact Begun.keeps (begun_write (t := .word text) h rfl rfl false false)
  | strayQuote q => exact Begun.keeps (begun_write (t := .strayQuote q) h rfl rfl false false)

/-- One token more is held after one step; white space is not. -/
theorem keeps_step {s : State} {ts : List Token} (h : Begun s.items ts) (t : Token) :
    Keeps (s.step t) (ts ++ [t].filter (!·.isGap)) := by
  unfold State.step
  cases hgap : t.isGap with
  | true =>
    rw [if_pos rfl, List.filter_cons_of_neg (by rw [hgap]; exact Bool.false_ne_true), List.filter_nil, List.append_nil]
    cases t with
    | gap text => exact Begun.keeps h
    | _ => cases hgap
  | false =>
    rw [if_neg Bool.false_ne_true, List.filter_cons_of_pos (by rw [hgap]; rfl), List.filter_nil]
    exact (keeps_settle h t).trans (fun s => s.place t) fun begun hbegun => keeps_place hbegun hgap

/-! ## The whole pass -/

/-- The lines hold what had begun and all tokens that follow, but for the white space. -/
theorem setIn_lines {s : State} {ts : List Token} (h : Begun s.items ts) (tokens : List Token) :
    SetIn (s.lines tokens) (ts ++ tokens.filter (!·.isGap)) := by
  induction tokens generalizing s ts with
  | nil =>
    obtain ⟨done, begun, hdone, hbegun, heq⟩ := h.keeps_endLine
    have hnone : s.endLine.2.items = [] := by
      unfold State.endLine
      split
      · rename_i hempty
        exact List.isEmpty_iff.mp hempty
      · rfl
    rw [hnone] at hbegun
    rw [hbegun.eq_nil, List.append_nil] at heq
    rw [List.filter_nil, List.append_nil, ← heq]
    exact hdone
  | cons t rest ih =>
    obtain ⟨done, begun, hdone, hbegun, heq⟩ := keeps_step h t
    have happend : ts ++ (t :: rest).filter (!·.isGap) = done ++ (begun ++ rest.filter (!·.isGap)) := by
      rw [← List.singleton_append, List.filter_append, ← List.append_assoc, ← heq, List.append_assoc]
    rw [happend]
    exact hdone.append (ih hbegun)

/-! ## Rendering -/

theorem isSpacing_spaces (n : Nat) : IsSpacing (Text.spaces n) := by
  intro c hc
  exact Or.inl (List.eq_of_mem_replicate hc)

theorem isSpacing_cons {c : CodePoint} {t : Text} (hc : c = char ' ' ∨ c = CodePoint.newline) (ht : IsSpacing t) :
    IsSpacing (c :: t) :=
  List.forall_mem_cons.mpr ⟨hc, ht⟩

/-- What stands behind a line: nothing, or a line feed, spacing and the tokens of the other lines. -/
def Follows (rest : List Token) (tail : Text) : Prop :=
  (rest = [] ∧ tail = []) ∨
    ∃ spacing out, rest ≠ [] ∧ tail = CodePoint.newline :: spacing ++ out ∧ IsSpacing spacing ∧ Woven rest out

theorem woven_last {rest : List Token} {tail : Text} (h : Follows rest tail) (t : Token) :
    Woven (t :: rest) (t.shown ++ tail) := by
  rcases h with ⟨rfl, rfl⟩ | ⟨spacing, out, hne, rfl, hspacing, hout⟩
  · rw [List.append_nil]
    exact .last t
  · cases rest with
    | nil => exact absurd rfl hne
    | cons next rest => exact .cons (isSpacing_cons (Or.inr rfl) hspacing) (fun _ => rfl) hout

/-- The text of an item: a space, if one stands before it, and the token. -/
def Placed.flow (item : Placed) : Text :=
  if item.spaced then char ' ' :: item.text else item.text

/-- The items of a line and what follows it, behind the space before the first item. -/
theorem woven_items {items : List Placed} {ts rest : List Token} {tail : Text} (hne : ts ≠ [])
    (htexts : items.map Placed.text = ts.map Token.shown) (hcomments : ∀ t ∈ ts.dropLast, t.isLineComment = false)
    (htail : Follows rest tail) :
    ∃ gap out, IsSpacing gap ∧ items.flatMap Placed.flow ++ tail = gap ++ out ∧ Woven (ts ++ rest) out ∧
      ((∀ item, items.head? = some item → item.spaced = false) → gap = []) := by
  induction ts generalizing items with
  | nil => exact absurd rfl hne
  | cons t ts ih =>
    cases items with
    | nil => cases htexts
    | cons item items =>
      rw [List.map_cons, List.map_cons, List.cons.injEq] at htexts
      obtain ⟨htext, htexts⟩ := htexts
      -- what follows the token on its line and behind it
      obtain ⟨out, hout, hflow⟩ : ∃ out, Woven (t :: (ts ++ rest)) (t.shown ++ out) ∧
          items.flatMap Placed.flow ++ tail = out := by
        cases ts with
        | nil =>
          rw [List.map_nil, List.map_eq_nil_iff] at htexts
          rw [htexts]
          exact ⟨tail, woven_last htail t, rfl⟩
        | cons next ts =>
          obtain ⟨gap, out, hgap, hflow, hout, -⟩ := ih (List.cons_ne_nil _ _) htexts
            fun u hu => hcomments u (by rw [List.dropLast_cons_cons]; exact List.mem_cons_of_mem _ hu)
          refine ⟨gap ++ out, .cons hgap ?_ hout, hflow⟩
          intro hline
          rw [hcomments t (by rw [List.dropLast_cons_cons]; exact List.mem_cons_self)] at hline
          cases hline
      rw [List.flatMap_cons, List.append_assoc, hflow, Placed.flow, htext]
      cases hspaced : item.spaced with
      | true =>
        refine ⟨[char ' '], _, isSpacing_spaces 1, rfl, hout, ?_⟩
        intro hstart
        rw [hstart item rfl] at hspaced
        cases hspaced
      | false => exact ⟨[], _, isSpacing_spaces 0, rfl, hout, fun _ => rfl⟩

theorem SetIn.eq_nil {lines : List Line} {ts : List Token} (h : SetIn lines ts) (hts : ts = []) : lines = [] := by
  cases h with
  | nil => rfl
  | cons hne _ _ _ => exact absurd (List.append_eq_nil_iff.mp hts).1 hne

theorem SetIn.lines_ne_nil {lines : List Line} {ts : List Token} (h : SetIn lines ts) (hne : ts ≠ []) : lines ≠ [] := by
  cases h with
  | nil => exact absurd rfl hne
  | cons _ _ _ _ => exact List.cons_ne_nil _ _

/-- Behind the indentation of the first line, rendered lines are their tokens, woven. -/
theorem woven_render (width : Nat) {lines : List Line} {ts : List Token} (h : SetIn lines ts) (hne : ts ≠ []) :
    ∃ indent out, Layout.render width (lines.map fun line => ⟨line.depth, line.content⟩) = Text.spaces indent ++ out ∧
      Woven ts out := by
  induction h with
  | nil => exact absurd rfl hne
  | @cons line lines ts rest hts hcarries hcomments hrest ih =>
    obtain ⟨tail, htail, hrender⟩ : ∃ tail, Follows rest tail ∧
        Layout.render width ((line :: lines).map fun line => ⟨line.depth, line.content⟩) =
          Text.spaces (width * line.depth) ++ (line.content ++ tail) := by
      by_cases hlast : rest = []
      · refine ⟨[], Or.inl ⟨hlast, rfl⟩, ?_⟩
        rw [hrest.eq_nil hlast, List.append_nil]
        rfl
      · obtain ⟨indent, out, hout, hwoven⟩ := ih hlast
        refine ⟨_, Or.inr ⟨Text.spaces indent, out, hlast, rfl, isSpacing_spaces indent, hwoven⟩, ?_⟩
        rw [List.map_cons, Layout.render_cons _ _ (by simpa using hrest.lines_ne_nil hlast), hout, Layout.line,
          List.append_assoc]
        rfl
    obtain ⟨gap, out, -, hflow, hwoven, hgap⟩ := woven_items hts hcarries.texts hcomments htail
    have hcontent : line.content ++ tail = gap ++ out := hflow
    rw [hgap hcarries.start, List.nil_append] at hcontent
    exact ⟨_, out, by rw [hrender, hcontent], hwoven⟩

/-! ## Nothing is trimmed -/

theorem Woven.solid {ts : List Token} {out : Text} (h : Woven ts out) (hsolid : ∀ t ∈ ts, t.Solid) :
    Text.StartsSolid out ∧ Text.EndsSolid out ∧ (ts ≠ [] → out ≠ []) := by
  induction h with
  | nil =>
    refine ⟨?_, Text.endsSolid_nil, fun hne => absurd rfl hne⟩
    intro c hc
    cases hc
  | last t =>
    have ht := hsolid t List.mem_cons_self
    exact ⟨ht.starts, ht.ends, fun _ => ht.nonempty⟩
  | @cons t next rest spacing out _ _ _ ih =>
    obtain ⟨ht, hrest⟩ := List.forall_mem_cons.mp hsolid
    obtain ⟨-, hends, hout⟩ := ih hrest
    refine ⟨Text.startsSolid_append ht.nonempty ht.starts _, ?_, ?_⟩
    · have hne : out ≠ [] := hout (List.cons_ne_nil _ _)
      exact Text.endsSolid_append (List.append_ne_nil_of_right_ne_nil _ hne) (Text.endsSolid_append hne hends)
    · intro _ hnil
      exact ht.nonempty (List.append_eq_nil_iff.mp hnil).1

/-- The tokens make up the source, and the formatted script is made of the same tokens, but for white space, with
spaces and line feeds between them and a line feed directly after each line comment that others follow. -/
theorem format_woven (width : Nat) (source : Text) :
    (Token.all source).flatMap Token.text = source ∧
      Woven ((Token.all source).filter (!·.isGap)) (format width source) := by
  refine ⟨Token.flatMap_text_all source, ?_⟩
  have hset : SetIn (lines source) ([] ++ (Token.all source).filter (!·.isGap)) := setIn_lines begun_nil _
  rw [List.nil_append] at hset
  have hsolid : ∀ t ∈ (Token.all source).filter (!·.isGap), t.Solid := by
    intro t ht
    obtain ⟨hmem, hgap⟩ := List.mem_filter.mp ht
    exact Token.solid_of_mem_all hmem (by simpa using hgap)
  by_cases hne : (Token.all source).filter (!·.isGap) = []
  · rw [hne] at hset ⊢
    have hformat : format width source = [] := by
      rw [format, entries, hset.eq_nil rfl]
      rfl
    rw [hformat]
    exact .nil
  · obtain ⟨indent, out, hrender, hwoven⟩ := woven_render width hset hne
    obtain ⟨hstarts, hends, -⟩ := hwoven.solid hsolid
    have hformat : format width source = out := by
      rw [format, entries, hrender, Text.trim_append_of_isBlank (Text.isBlank_spaces indent),
        Text.trim_of_solid hstarts hends]
    rw [hformat]
    exact hwoven

end Tidy.Script
