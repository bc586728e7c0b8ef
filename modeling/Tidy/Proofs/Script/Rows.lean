/-
# Tidy.Proofs.Script.Rows -- which tokens stand on which line

A row is a line of the layout together with the tokens that it shows, each in its place in the script. Where a token
stands is told by the state in which the pass comes to it: it starts a line if no line has begun once the way is clear,
and otherwise it continues the line of the token before it (`Fills`). One induction over the tokens shows this for all
lines (`seats_lines`); what is said elsewhere about indentation and spacing is read off the state at each token.
-/

import Tidy.Proofs.Place
import Tidy.Proofs.Script.Reformat

namespace Tidy.Script

open CodePoint (char)

/-! ## The state at a token -/

/-- The state after a list of tokens. -/
def State.after (s : State) (ts : List Token) : State :=
  ts.foldl (fun s t => (s.step t).2) s

theorem State.after_append (s : State) (ts us : List Token) : s.after (ts ++ us) = (s.after ts).after us :=
  List.foldl_append

/-- The state in which the pass comes to a token. -/
def reached (p : Place Token) : State :=
  State.after {} p.before

/-- The state in which the token is written. -/
def cleared (p : Place Token) : State :=
  ((reached p).clear p.item).2

/-- A token that continues its line, as it stands there. -/
def continued (p : Place Token) : Placed :=
  ⟨(reached p).spacedAt p.item, p.item.shown⟩

/-! ## Lines and their tokens -/

/-- The token `q` is the next one after `p`, and the line has not ended between them. -/
structure Adjoins (p q : Place Token) : Prop where
  next : ∃ gaps : List Token, (∀ g ∈ gaps, g.isGap = true) ∧ q.before = p.before ++ p.item :: gaps
  goesOn : (cleared q).items ≠ []

/-- The tokens in the places stand on the line of `p` behind it, as the items show. -/
inductive Continues : Place Token → List Placed → List (Place Token) → Prop
  | nil {p : Place Token} : Continues p [] []
  | cons {p q : Place Token} {items : List Placed} {qs : List (Place Token)} :
      Adjoins p q → Continues q items qs → Continues p (continued q :: items) (q :: qs)

/-- The line shows the tokens in the places: the first of them starts it, the others continue it. -/
inductive Fills : Line → List (Place Token) → Prop
  | intro {p : Place Token} {items : List Placed} {ps : List (Place Token)} :
      (cleared p).items = [] → Continues p items ps →
      Fills ⟨braces (cleared p).stack, ⟨false, p.item.shown⟩ :: items⟩ (p :: ps)

/-- The lines show the tokens in the places, in their order. -/
inductive Seats : List Line → List (Place Token) → Prop
  | nil : Seats [] []
  | cons {line : Line} {lines : List Line} {ps rest : List (Place Token)} :
      Fills line ps → Seats lines rest → Seats (line :: lines) (ps ++ rest)

/-! ## One step -/

namespace State

theorem settle_cases (s : State) (t : Token) :
    ((s.settle t).1 = s.begun ∧ (s.settle t).2.items = []) ∨
      ((s.settle t).1 = [] ∧ (s.settle t).2.items = s.items ∧ (s.settle t).2.depth = s.depth) := by
  unfold settle
  split
  · dsimp only
    split
    · exact Or.inr ⟨rfl, rfl, rfl⟩
    · split
      · exact Or.inr ⟨rfl, rfl, rfl⟩
      · exact Or.inl ⟨endLine_fst _, items_endLine _⟩
  · exact Or.inr ⟨rfl, rfl, rfl⟩

/-- Clearing the way ends the line that has begun, or leaves it. -/
theorem clear_cases (s : State) (t : Token) :
    ((s.clear t).1 = s.begun ∧ (s.clear t).2.items = []) ∨
      ((s.clear t).1 = [] ∧ (s.clear t).2.items = s.items ∧ (s.clear t).2.depth = s.depth) := by
  have hbegun : ∀ s' : State, s'.items = s.items → s'.depth = s.depth → s'.begun = s.begun := by
    intro s' hitems hdepth
    rw [begun, begun, hitems, hdepth]
  unfold clear close
  rcases settle_cases s t with ⟨hlines, hitems⟩ | ⟨hlines, hitems, hdepth⟩
  · -- no line is left to end
    have hnone : (s.settle t).2.endLine.1 = [] := by rw [endLine_fst, begun, hitems]; rfl
    left
    rw [hlines]
    split
    · exact ⟨by rw [hnone, List.append_nil], items_endLine _⟩
    all_goals exact ⟨List.append_nil _, hitems⟩
  · rw [hlines]
    split
    · exact Or.inl ⟨by rw [List.nil_append, endLine_fst, hbegun _ hitems hdepth], items_endLine _⟩
    all_goals exact Or.inr ⟨rfl, hitems, hdepth⟩

/-- A token that has been written ends its line, or stays at the end of it. -/
theorem finish_cases (s : State) (hs : s.items ≠ []) (t : Token) :
    ((s.finish t).1 = [⟨s.depth, s.items⟩] ∧ (s.finish t).2.items = []) ∨
      ((s.finish t).1 = [] ∧ (s.finish t).2.items = s.items ∧ (s.finish t).2.depth = s.depth) := by
  have hend : ∀ s' : State, s'.items = s.items → s'.depth = s.depth →
      s'.endLine.1 = [⟨s.depth, s.items⟩] ∧ s'.endLine.2.items = [] := by
    intro s' hitems hdepth
    rw [endLine_fst, begun, hitems, hdepth, if_neg (by simpa using hs)]
    exact ⟨rfl, items_endLine s'⟩
  unfold finish
  split
  · exact Or.inl (hend s rfl rfl)
  · exact Or.inr ⟨rfl, rfl, rfl⟩
  · exact Or.inl (hend (s.push .openBrace) rfl rfl)
  · exact Or.inr ⟨rfl, rfl, rfl⟩
  · exact Or.inr ⟨rfl, rfl, rfl⟩
  · exact Or.inr ⟨rfl, rfl, rfl⟩
  · split
    · exact Or.inr ⟨rfl, rfl, rfl⟩
    · exact Or.inl (hend s rfl rfl)
  · split
    · exact Or.inl (hend s rfl rfl)
    · exact Or.inr ⟨rfl, rfl, rfl⟩
  · exact Or.inr ⟨rfl, rfl, rfl⟩

end State

/-- A token that is written starts a line. -/
theorem written_start {p : Place Token} (h : (cleared p).items = []) :
    ((reached p).written p.item).items = [⟨false, p.item.shown⟩] ∧
      ((reached p).written p.item).depth = braces (cleared p).stack := by
  rw [State.written, State.write, ← cleared, h]
  exact ⟨rfl, rfl⟩

/-- A token that is written continues its line. -/
theorem written_continued {p : Place Token} (h : (cleared p).items ≠ []) :
    ((reached p).written p.item).items = (cleared p).items ++ [continued p] ∧
      ((reached p).written p.item).depth = (cleared p).depth := by
  rw [State.written, State.write, ← cleared, if_neg (by simpa using h)]
  exact ⟨rfl, rfl⟩

theorem items_written_ne_nil (s : State) (t : Token) : (s.written t).items ≠ [] := by
  obtain ⟨item, hlast, -⟩ := s.written_last t
  intro hnil
  rw [hnil] at hlast
  cases hlast

/-! ## All tokens -/

/-- The tokens of a list that are shown, in their places. -/
def shownPlaces (before ts : List Token) : List (Place Token) :=
  (places before ts).filter (!·.item.isGap)

theorem shownPlaces_cons (before : List Token) {t : Token} (h : t.isGap = false) (rest : List Token) :
    shownPlaces before (t :: rest) = ⟨before, t⟩ :: shownPlaces (before ++ [t]) rest := by
  rw [shownPlaces, places, List.filter_cons_of_pos (by simp [h]), ← shownPlaces]

/-- The line of the state goes on behind the token `p`, which is at its end, and other lines follow. -/
def GoesOn (p : Place Token) (s : State) (result : List Line) (qs : List (Place Token)) : Prop :=
  ∃ items ps lines rest, result = ⟨s.depth, s.items ++ items⟩ :: lines ∧ qs = ps ++ rest ∧ Continues p items ps ∧
    Seats lines rest

/-- After the tokens `before` the lines show the tokens `ts`: on lines of their own if none has begun, and otherwise
behind the last token that was shown. -/
structure FollowOn (before ts : List Token) : Prop where
  start : (State.after {} before).items = [] → Seats ((State.after {} before).lines ts) (shownPlaces before ts)
  goOn : ∀ p gaps, before = p.before ++ p.item :: gaps → (∀ g ∈ gaps, g.isGap = true) →
    (State.after {} before).items ≠ [] →
    GoesOn p (State.after {} before) ((State.after {} before).lines ts) (shownPlaces before ts)

theorem followOn_nil (before : List Token) : FollowOn before [] := by
  constructor
  · intro hnone
    rw [State.lines, State.endLine_fst, State.begun, hnone]
    exact .nil
  · intro p gaps _ _ hbegun
    rw [State.lines, State.endLine_fst, State.begun, if_neg (by simpa using hbegun)]
    exact ⟨[], [], [], [], by rw [List.append_nil], rfl, .nil, .nil⟩

/-- White space is on no line, and at most makes a space due. -/
theorem FollowOn.gap {before ts : List Token} {text : Text} (h : FollowOn (before ++ [.gap text]) ts) :
    FollowOn before (.gap text :: ts) := by
  have hafter : State.after {} (before ++ [.gap text]) = { State.after {} before with pending := true } :=
    State.after_append {} before [.gap text]
  obtain ⟨hstart, hgoOn⟩ := h
  rw [hafter] at hstart hgoOn
  constructor
  · exact hstart
  · intro p gaps hbefore hgaps hbegun
    refine hgoOn p (gaps ++ [.gap text]) (by rw [hbefore, List.append_assoc]; rfl) ?_ hbegun
    exact List.forall_mem_append.mpr ⟨hgaps, List.forall_mem_singleton.mpr rfl⟩

theorem after_concat (p : Place Token) (hgap : p.item.isGap = false) :
    State.after {} (p.before ++ [p.item]) = (((reached p).written p.item).finish p.item).2 := by
  rw [State.after_append]
  show ((reached p).step p.item).2 = _
  rw [State.step_eq _ hgap]

/-- The line of a token, from the token on. -/
theorem FollowOn.goesOn {p : Place Token} (hgap : p.item.isGap = false) {ts : List Token}
    (h : FollowOn (p.before ++ [p.item]) ts) :
    GoesOn p ((reached p).written p.item)
      ((((reached p).written p.item).finish p.item).1 ++ (((reached p).written p.item).finish p.item).2.lines ts)
      (shownPlaces (p.before ++ [p.item]) ts) := by
  obtain ⟨hstart, hgoOn⟩ := h
  rw [after_concat p hgap] at hstart hgoOn
  have hne := items_written_ne_nil (reached p) p.item
  rcases State.finish_cases _ hne p.item with ⟨hlines, hitems⟩ | ⟨hlines, hitems, hdepth⟩
  · refine ⟨[], [], _, _, ?_, rfl, .nil, hstart hitems⟩
    rw [hlines, List.append_nil]
    rfl
  · have hgoes := hgoOn p [] rfl (List.forall_mem_nil _) (by rwa [hitems])
    rw [GoesOn, hitems, hdepth] at hgoes
    rw [hlines]
    exact hgoes

/-- A token that starts a line stands in front of what goes on behind it. -/
theorem GoesOn.seats {p : Place Token} {result : List Line} {qs : List (Place Token)} (hstart : (cleared p).items = [])
    (h : GoesOn p ((reached p).written p.item) result qs) : Seats result (p :: qs) := by
  obtain ⟨items, ps, lines, rest, rfl, rfl, hcontinues, hseats⟩ := h
  obtain ⟨hitems, hdepth⟩ := written_start hstart
  rw [hitems, hdepth]
  exact .cons (.intro hstart hcontinues) hseats

/-- One more token: it starts a line or continues the one that has begun. -/
theorem FollowOn.shown {p : Place Token} (hgap : p.item.isGap = false) {ts : List Token}
    (h : FollowOn (p.before ++ [p.item]) ts) : FollowOn p.before (p.item :: ts) := by
  have hline := h.goesOn hgap
  have hresult : (reached p).lines (p.item :: ts) = ((reached p).clear p.item).1 ++
      ((((reached p).written p.item).finish p.item).1 ++ (((reached p).written p.item).finish p.item).2.lines ts) := by
    rw [State.lines, State.step_eq _ hgap, List.append_assoc]
  constructor
  · intro hnone
    have hclear : ((reached p).clear p.item).1 = [] ∧ (cleared p).items = [] := by
      rcases (reached p).clear_cases p.item with ⟨hdone, hitems⟩ | ⟨hdone, hitems, -⟩
      · exact ⟨hdone.trans (by rw [State.begun, reached, hnone]; rfl), hitems⟩
      · exact ⟨hdone, hitems.trans hnone⟩
    rw [← reached, hresult, hclear.1, shownPlaces_cons _ hgap]
    exact hline.seats hclear.2
  · intro p' gaps hbefore hgaps (hbegun : (reached p).items ≠ [])
    rw [← reached, hresult, shownPlaces_cons _ hgap]
    rcases (reached p).clear_cases p.item with ⟨hdone, hitems⟩ | ⟨hdone, hitems, hdepth⟩
    · rw [hdone, State.begun, if_neg (by simpa using hbegun)]
      exact ⟨[], [], _, _, by rw [List.append_nil]; rfl, rfl, .nil, hline.seats hitems⟩
    · have hgoes : (cleared p).items ≠ [] := by rwa [cleared, hitems]
      obtain ⟨items, ps, lines, rest, hlines, hplaces, hcontinues, hseats⟩ := hline
      obtain ⟨hwritten, hdepth'⟩ := written_continued hgoes
      have hadjoins : Adjoins p' p := ⟨⟨gaps, hgaps, hbefore⟩, hgoes⟩
      refine ⟨continued p :: items, p :: ps, lines, rest, ?_, ?_, .cons hadjoins hcontinues, hseats⟩
      · rw [hdone, hlines, hwritten, hdepth', cleared, hitems, hdepth, List.append_assoc]
        rfl
      · rw [hplaces]
        rfl

theorem followOn (before ts : List Token) : FollowOn before ts := by
  induction ts generalizing before with
  | nil => exact followOn_nil before
  | cons t ts ih =>
    cases hgap : t.isGap with
    | true =>
      cases t with
      | gap text => exact (ih _).gap
      | _ => cases hgap
    | false => exact FollowOn.shown (p := ⟨before, t⟩) hgap (ih _)

/-- The lines of a script show its tokens. -/
theorem seats_lines (source : Text) : Seats (lines source) (shownPlaces [] (Token.all source)) :=
  (followOn [] (Token.all source)).start rfl

/-! ## Rows -/

/-- A line with the tokens that it shows, in their places. -/
structure Row where
  line : Line
  places : List (Place Token)

/-- The lines with the tokens in the places: each line takes as many as it has items. -/
def rowsOf : List Line → List (Place Token) → List Row
  | [], _ => []
  | line :: lines, ps => ⟨line, ps.take line.items.length⟩ :: rowsOf lines (ps.drop line.items.length)

/-- The lines of a script with the tokens that they show. -/
def rows (source : Text) : List Row :=
  rowsOf (lines source) (shownPlaces [] (Token.all source))

/-- The rows are the lines of the script and hold its tokens in their order, each item of a line being what is shown of
its token. -/
structure Aligned (source : Text) (rows : List Row) : Prop where
  lines : rows.map Row.line = Script.lines source
  tokens : rows.flatMap Row.places = shownPlaces [] (Token.all source)
  shown : ∀ row ∈ rows, row.line.items.map Placed.text = row.places.map (·.item.shown)

theorem Continues.texts {p : Place Token} {items : List Placed} {qs : List (Place Token)} (h : Continues p items qs) :
    items.map Placed.text = qs.map (·.item.shown) := by
  induction h with
  | nil => rfl
  | cons _ _ ih => rw [List.map_cons, List.map_cons, ih]; rfl

theorem Fills.texts {line : Line} {ps : List (Place Token)} (h : Fills line ps) :
    line.items.map Placed.text = ps.map (·.item.shown) := by
  obtain ⟨-, hcontinues⟩ := h
  rw [List.map_cons, List.map_cons, hcontinues.texts]

theorem Fills.length {line : Line} {ps : List (Place Token)} (h : Fills line ps) :
    line.items.length = ps.length := by
  have hlength := congrArg List.length h.texts
  rwa [List.length_map, List.length_map] at hlength

theorem Seats.rowsOf {lines : List Line} {ps : List (Place Token)} (h : Seats lines ps) :
    (rowsOf lines ps).map Row.line = lines ∧ (Script.rowsOf lines ps).flatMap Row.places = ps ∧
      ∀ row ∈ Script.rowsOf lines ps, Fills row.line row.places := by
  induction h with
  | nil => exact ⟨rfl, rfl, List.forall_mem_nil _⟩
  | cons hfills _ ih =>
    obtain ⟨hlines, hplaces, hrows⟩ := ih
    rw [Script.rowsOf, hfills.length, List.take_left, List.drop_left]
    refine ⟨?_, ?_, List.forall_mem_cons.mpr ⟨hfills, hrows⟩⟩
    · rw [List.map_cons, hlines]
    · rw [List.flatMap_cons, hplaces]

theorem aligned_rows (source : Text) : Aligned source (rows source) := by
  obtain ⟨hlines, hplaces, hrows⟩ := (seats_lines source).rowsOf
  exact ⟨hlines, hplaces, fun row hrow => (hrows row hrow).texts⟩

theorem fills_of_mem_rows {source : Text} {row : Row} (h : row ∈ rows source) : Fills row.line row.places :=
  (seats_lines source).rowsOf.2.2 row h

/-- A token of a row is one of the script, and no white space. -/
theorem mem_of_mem_rows {source : Text} {row : Row} (h : row ∈ rows source) {p : Place Token} (hp : p ∈ row.places) :
    p.item ∈ Token.all source ∧ p.item.isGap = false := by
  have hshown : p ∈ shownPlaces [] (Token.all source) := by
    rw [← (aligned_rows source).tokens]
    exact List.mem_flatMap.mpr ⟨row, h, hp⟩
  obtain ⟨hmem, hgap⟩ := List.mem_filter.mp hshown
  exact ⟨item_mem_of_mem_places hmem, by simpa using hgap⟩

end Tidy.Script
