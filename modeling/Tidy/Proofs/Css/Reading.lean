/-
# Tidy.Proofs.Css.Reading -- what each token of a style sheet adds to its layout

The layout gathers all tokens into pieces, places the pieces and puts empty lines between them. Read token by token, a
sheet has a depth and the text of a statement that has begun (`Reading`), and each token adds its own entries
(`Reading.step`). Together these are the entries of the layout but for the empty ones (`place_eq_added`), so the
indentation of a line and the braces it has can be read off the tokens before it (`entries_lined`).
-/

import Tidy.Proofs.Css.Verbatim
import Tidy.Proofs.Place

namespace Tidy.Css

open CodePoint (char)

/-! ## One token after another -/

/-- What has been read of a sheet: the number of open blocks, and the statement that has begun. -/
structure Reading where
  depth : Nat := 0
  buffer : Text := []

namespace Reading

/-- The statement that has begun, as an entry of its own. -/
def flushed (r : Reading) (ended : Bool) : List Entry :=
  place r.depth (flush r.buffer ended)

/-- The statement goes on. -/
def goOn (r : Reading) (t : Text) : Reading :=
  { r with buffer := r.buffer ++ t }

/-- The entries that a token adds, and what has been read after it. -/
def step (r : Reading) : Token → List Entry × Reading
  | .gap _ => ([], if r.buffer.isEmpty then { r with buffer := [] } else r.goOn " ")
  | .comment t => if r.buffer.isEmpty then ([⟨r.depth, t⟩], { r with buffer := [] }) else ([], r.goOn t)
  | .openBrace => ([⟨r.depth, openingLine (Text.trim r.buffer)⟩], { depth := r.depth + 1 })
  | .closeBrace => (r.flushed true ++ [⟨r.depth - 1, closingLine⟩], { depth := r.depth - 1 })
  | .semicolon => (r.flushed true, { depth := r.depth })
  | .string t => ([], r.goOn t)
  | .word t => ([], r.goOn t)
  | .strayQuote mark => ([], r.goOn [mark])

/-- What has been read after all of the tokens. -/
def after (r : Reading) (ts : List Token) : Reading :=
  ts.foldl (fun r t => (r.step t).2) r

/-- The entries that are placed for the rest of a sheet. -/
def placed (r : Reading) (ts : List Token) : List Entry :=
  place r.depth (gather r.buffer ts)

/-- The entries of a token come before those of the rest. -/
theorem placed_cons (r : Reading) (t : Token) (ts : List Token) :
    r.placed (t :: ts) = (r.step t).1 ++ (r.step t).2.placed ts := by
  obtain ⟨depth, buffer⟩ := r
  cases t with
  | gap t | comment t =>
    rw [placed, gather, step]
    split <;> rfl
  | closeBrace =>
    rw [placed, gather, place_flush_append, step, List.append_assoc]
    rfl
  | semicolon => exact place_flush_append depth buffer true (gather [] ts)
  | _ => rfl

theorem after_concat (r : Reading) (ts : List Token) (t : Token) : r.after (ts ++ [t]) = ((r.after ts).step t).2 := by
  rw [after, List.foldl_append]
  rfl

end Reading

/-- What has been read before a token of a sheet. -/
def readBefore (p : Place Token) : Reading :=
  Reading.after {} p.before

/-- The entries that a token of a sheet adds. -/
def added (p : Place Token) : List Entry :=
  ((readBefore p).step p.item).1

/-- The entry of a statement that the sheet leaves without an end. -/
def unended (source : Text) : List Entry :=
  (Reading.after {} (Token.all source)).flushed false

theorem placed_eq_flatMap_added (before ts : List Token) : (Reading.after {} before).placed ts =
    (places before ts).flatMap added ++ (Reading.after {} (before ++ ts)).flushed false := by
  induction ts generalizing before with
  | nil =>
    rw [List.append_nil]
    rfl
  | cons t ts ih =>
    rw [Reading.placed_cons, ← Reading.after_concat, ih, places, List.flatMap_cons, List.append_assoc,
      List.append_assoc, List.singleton_append]
    rfl

theorem place_eq_added (source : Text) : place 0 (gather [] (Token.all source)) =
    (places [] (Token.all source)).flatMap added ++ unended source :=
  placed_eq_flatMap_added [] (Token.all source)

/-! ## Depth -/

theorem depthAfter_append (depth : Nat) (ts us : List Token) :
    depthAfter depth (ts ++ us) = depthAfter (depthAfter depth ts) us := by
  induction ts generalizing depth with
  | nil => rfl
  | cons t ts ih => cases t <;> exact ih _

theorem Reading.depth_step (r : Reading) (t : Token) : (r.step t).2.depth = depthAfter r.depth [t] := by
  cases t with
  | gap t | comment t =>
    rw [step]
    split <;> rfl
  | _ => rfl

theorem Reading.depth_after (r : Reading) (ts : List Token) : (r.after ts).depth = depthAfter r.depth ts := by
  induction ts generalizing r with
  | nil => rfl
  | cons t ts ih =>
    rw [← List.singleton_append, depthAfter_append, ← r.depth_step, ← ih]
    rfl

/-! ## The texts of tokens -/

/-- The atoms of the token are well formed, as they are for every token that is read. -/
def Token.Spelled (t : Token) : Prop :=
  ∀ a ∈ t.atoms, a.WellFormed

theorem Token.spelled_of_mem_all {source : Text} {t : Token} (h : t ∈ Token.all source) : t.Spelled := by
  intro a ha
  exact (lexed_atoms source).2.wellFormed a (List.mem_flatMap.mpr ⟨t, h, ha⟩)

/-- The text ends with something that is neither white space nor a brace. -/
def EndsPlain (t : Text) : Prop :=
  ∃ c, t.getLast? = some c ∧ c.isBlank = false ∧ c ≠ char '{' ∧ c ≠ char '}'

theorem endsPlain_of_comment {t : Text} (h : (Token.comment t).Spelled) : EndsPlain t :=
  ⟨char '/', getLast?_comment (h _ List.mem_cons_self), rfl, by decide, by decide⟩

theorem endsPlain_of_string {t : Text} (h : (Token.string t).Spelled) : EndsPlain t := by
  obtain ⟨q, inside, hquote, rfl, -⟩ := h _ List.mem_cons_self
  obtain ⟨hblank, hopen, hclose, -⟩ := wellFormed_of_quote hquote
  refine ⟨q, ?_, hblank, hopen, hclose⟩
  rw [List.getLast?_cons, List.getLast?_append]
  rfl

theorem endsPlain_of_word {t : Text} (h : (Token.word t).Spelled) (hne : t ≠ []) : EndsPlain t := by
  have hlast := List.getLast?_eq_some_getLast hne
  obtain ⟨hblank, hopen, hclose, -⟩ := h (.solid _) (List.mem_map_of_mem (List.mem_of_getLast? hlast))
  exact ⟨_, hlast, hblank, hopen, hclose⟩

/-- The text of a statement that has begun does not end with a brace. -/
def Unbraced (buffer : Text) : Prop :=
  ∀ c, (Text.trim buffer).getLast? = some c → c ≠ char '{' ∧ c ≠ char '}'

theorem unbraced_nil : Unbraced [] :=
  fun _ hc => nomatch hc

theorem EndsPlain.unbraced {t : Text} (h : EndsPlain t) (buffer : Text) : Unbraced (buffer ++ t) := by
  obtain ⟨d, hd, hblank, hopen, hclose⟩ := h
  intro c hc
  rw [Text.getLast?_trim_append hd hblank] at hc
  obtain rfl := Option.some.inj hc
  exact ⟨hopen, hclose⟩

theorem Unbraced.space {buffer : Text} (h : Unbraced buffer) : Unbraced (buffer ++ " ") := by
  rw [Unbraced, Text.trim_append_tail rfl]
  exact h

theorem Reading.unbraced_step {r : Reading} (h : Unbraced r.buffer) {t : Token} (ht : t.Spelled) :
    Unbraced (r.step t).2.buffer := by
  cases t with
  | gap t =>
    rw [step]
    split
    · exact unbraced_nil
    · exact h.space
  | comment t =>
    rw [step]
    split
    · exact unbraced_nil
    · exact (endsPlain_of_comment ht).unbraced r.buffer
  | string t => exact (endsPlain_of_string ht).unbraced r.buffer
  | word t =>
    by_cases hne : t = []
    · subst hne
      show Unbraced (r.buffer ++ [])
      rwa [List.append_nil]
    · exact (endsPlain_of_word ht hne).unbraced r.buffer
  | strayQuote mark =>
    obtain ⟨hblank, hopen, hclose, -⟩ := ht _ List.mem_cons_self
    exact EndsPlain.unbraced ⟨mark, rfl, hblank, hopen, hclose⟩ r.buffer
  | _ => exact unbraced_nil

theorem Reading.unbraced_after {r : Reading} (h : Unbraced r.buffer) {ts : List Token} (hts : ∀ t ∈ ts, t.Spelled) :
    Unbraced (r.after ts).buffer := by
  induction ts generalizing r with
  | nil => exact h
  | cons t ts ih =>
    obtain ⟨ht, hts⟩ := List.forall_mem_cons.mp hts
    exact ih (unbraced_step h ht) hts

/-! ## The entries of a token -/

/-- The line is not empty, it does not open a block, and it is not the end of one. -/
structure Braceless (content : Text) : Prop where
  nonempty : content ≠ []
  unopened : content.getLast? ≠ some (char '{')
  unclosed : content ≠ closingLine

theorem braceless_of_getLast {content : Text} {c : CodePoint} (h : content.getLast? = some c) (hopen : c ≠ char '{')
    (hclose : c ≠ char '}') : Braceless content where
  nonempty := by
    rintro rfl
    cases h
  unopened := by
    rw [h]
    exact fun heq => hopen (Option.some.inj heq)
  unclosed := by
    rintro rfl
    exact hclose (Option.some.inj h).symm

theorem braceless_declarationLine (depth : Nat) {buffer : Text} (hne : Text.trim buffer ≠ []) {ended : Bool}
    (h : ended = true ∨ Unbraced buffer) : Braceless (declarationLine depth (Text.trim buffer) ended) := by
  rw [declarationLine_eq]
  cases ended with
  | true =>
    refine braceless_of_getLast (c := char ';') ?_ (by decide) (by decide)
    rw [List.getLast?_append]
    rfl
  | false =>
    have hbuffer := h.resolve_left Bool.false_ne_true
    obtain ⟨d, hd⟩ : ∃ d, (Text.trim buffer).getLast? = some d := ⟨_, List.getLast?_eq_some_getLast hne⟩
    obtain ⟨hopen, hclose⟩ := hbuffer d hd
    show Braceless (_ ++ [])
    rw [List.append_nil]
    split
    · exact braceless_of_getLast hd hopen hclose
    · obtain ⟨s, tail, hnormal, rfl | rfl, hlast⟩ := normalizeDeclaration_end (Text.trim buffer)
      · rw [hnormal, List.append_nil]
        rcases hlast with hlast | hlast
        · exact braceless_of_getLast (hlast.trans hd) hopen hclose
        · exact braceless_of_getLast hlast (by decide) (by decide)
      · rw [hnormal]
        exact braceless_of_getLast List.getLast?_concat (by decide) (by decide)

/-- A declaration is no line with a brace of its own. -/
theorem Reading.braceless_flushed (r : Reading) {ended : Bool} (h : ended = true ∨ Unbraced r.buffer) :
    ∀ e ∈ r.flushed ended, Braceless e.content ∧ e.depth = r.depth := by
  intro e he
  rw [flushed, flush] at he
  split at he
  · cases he
  · rename_i hne
    obtain rfl := List.mem_singleton.mp he
    exact ⟨braceless_declarationLine r.depth (by simpa using hne) h, rfl⟩

/-- The line of a brace, if the token is one. -/
def Reading.braceLine (r : Reading) : Token → List Entry
  | .openBrace => [⟨r.depth, openingLine (Text.trim r.buffer)⟩]
  | .closeBrace => [⟨r.depth - 1, closingLine⟩]
  | _ => []

/-- The line of a brace comes last of all that the token adds, and the others have no brace of their own. -/
theorem Reading.step_entries (r : Reading) {t : Token} (ht : t.Spelled) : ∃ es, (r.step t).1 = es ++ r.braceLine t ∧
    ∀ e ∈ es, Braceless e.content ∧ e.depth = r.depth := by
  cases t with
  | gap t => exact ⟨[], rfl, List.forall_mem_nil _⟩
  | comment t =>
    obtain ⟨c, hc, -, hopen, hclose⟩ := endsPlain_of_comment ht
    rw [step]
    split
    · refine ⟨[⟨r.depth, t⟩], rfl, ?_⟩
      intro e he
      obtain rfl := List.mem_singleton.mp he
      exact ⟨braceless_of_getLast hc hopen hclose, rfl⟩
    · exact ⟨[], rfl, List.forall_mem_nil _⟩
  | closeBrace => exact ⟨r.flushed true, rfl, r.braceless_flushed (Or.inl rfl)⟩
  | semicolon => exact ⟨r.flushed true, (List.append_nil _).symm, r.braceless_flushed (Or.inl rfl)⟩
  | _ => exact ⟨[], rfl, List.forall_mem_nil _⟩

theorem getLast?_openingLine (selector : Text) : (openingLine selector).getLast? = some (char '{') := by
  rw [openingLine]
  split
  · rfl
  · rw [List.getLast?_append]
    rfl

/-- The entries that a token adds: the lines with braces are those of its own brace, and each is indented by the braces
before it, a closing one by itself too. -/
structure Yields (p : Place Token) (es : List Entry) : Prop where
  nonempty : ∀ e ∈ es, e.content ≠ []
  opens : es.countP (·.content.getLast? = some (char '{')) = if p.item = .openBrace then 1 else 0
  closes : es.countP (·.content = closingLine) = if p.item = .closeBrace then 1 else 0
  depth : ∀ e ∈ es, e.depth = depthAfter 0 (if e.content = closingLine then p.before ++ [p.item] else p.before)

theorem depth_readBefore (p : Place Token) : (readBefore p).depth = depthAfter 0 p.before :=
  Reading.depth_after {} p.before

theorem Yields.plain {p : Place Token} {es bs : List Entry}
    (hes : ∀ e ∈ es, Braceless e.content ∧ e.depth = depthAfter 0 p.before) (h : Yields p bs) :
    Yields p (es ++ bs) where
  nonempty := List.forall_mem_append.mpr ⟨fun e he => (hes e he).1.nonempty, h.nonempty⟩
  opens := by
    rw [List.countP_append, h.opens, List.countP_eq_zero.mpr, Nat.zero_add]
    exact fun e he => by simpa using (hes e he).1.unopened
  closes := by
    rw [List.countP_append, h.closes, List.countP_eq_zero.mpr, Nat.zero_add]
    exact fun e he => by simpa using (hes e he).1.unclosed
  depth := by
    refine List.forall_mem_append.mpr ⟨fun e he => ?_, h.depth⟩
    rw [if_neg (hes e he).1.unclosed, (hes e he).2]

theorem yields_nil {p : Place Token} (hopen : p.item ≠ .openBrace) (hclose : p.item ≠ .closeBrace) : Yields p [] where
  nonempty := List.forall_mem_nil _
  opens := by rw [if_neg hopen]; rfl
  closes := by rw [if_neg hclose]; rfl
  depth := List.forall_mem_nil _

theorem yields_opening (before : List Token) (selector : Text) :
    Yields ⟨before, .openBrace⟩ [⟨depthAfter 0 before, openingLine selector⟩] := by
  have hlast := getLast?_openingLine selector
  have hclosing : openingLine selector ≠ closingLine :=
    fun heq => absurd (hlast.symm.trans (congrArg List.getLast? heq)) (by decide)
  refine ⟨List.forall_mem_singleton.mpr ?_, ?_, ?_, List.forall_mem_singleton.mpr (by rw [if_neg hclosing])⟩
  · intro hnil
    exact absurd (hlast.symm.trans (congrArg List.getLast? hnil)) (by decide)
  · rw [List.countP_singleton, hlast]
    rfl
  · rw [List.countP_singleton, decide_eq_false hclosing]
    rfl

theorem yields_closing (before : List Token) :
    Yields ⟨before, .closeBrace⟩ [⟨depthAfter 0 before - 1, closingLine⟩] := by
  refine ⟨List.forall_mem_singleton.mpr (List.cons_ne_nil _ _), rfl, rfl, List.forall_mem_singleton.mpr ?_⟩
  rw [if_pos rfl, depthAfter_append]
  rfl

theorem yields_braceLine (p : Place Token) : Yields p ((readBefore p).braceLine p.item) := by
  have hdepth := depth_readBefore p
  obtain ⟨before, t⟩ := p
  cases t with
  | openBrace =>
    rw [Reading.braceLine, hdepth]
    exact yields_opening before _
  | closeBrace =>
    rw [Reading.braceLine, hdepth]
    exact yields_closing before
  | _ => exact yields_nil Token.noConfusion Token.noConfusion

theorem yields_added {p : Place Token} (hp : p.item.Spelled) : Yields p (added p) := by
  obtain ⟨es, hes, hplain⟩ := (readBefore p).step_entries hp
  rw [depth_readBefore] at hplain
  rw [added, hes]
  exact (yields_braceLine p).plain hplain

/-! ## The lines of a layout -/

theorem braceless_unended (source : Text) :
    ∀ e ∈ unended source, Braceless e.content ∧ e.depth = depthAfter 0 (Token.all source) := by
  have hbuffer : Unbraced (Reading.after {} (Token.all source)).buffer :=
    Reading.unbraced_after unbraced_nil fun t ht => Token.spelled_of_mem_all ht
  rw [← Reading.depth_after {} (Token.all source)]
  exact Reading.braceless_flushed _ (Or.inr hbuffer)

theorem yields_of_mem_places {source : Text} {p : Place Token} (h : p ∈ places [] (Token.all source)) :
    Yields p (added p) :=
  yields_added (Token.spelled_of_mem_all (item_mem_of_mem_places h))

theorem nonempty_of_mem_place (source : Text) :
    ∀ e ∈ place 0 (gather [] (Token.all source)), e.content ≠ [] := by
  rw [place_eq_added]
  refine List.forall_mem_append.mpr ⟨?_, fun e he => (braceless_unended source e he).1.nonempty⟩
  intro e he
  obtain ⟨p, hp, he⟩ := List.mem_flatMap.mp he
  exact (yields_of_mem_places hp).nonempty e he

/-- Every line of a layout that is not empty is added by one token, or by the statement that is left at the end, and it
is indented by the depth of braces there. An opening brace adds one line that ends with it, and a closing brace one that
is nothing else. An empty line stands between a line that closes a block and one that does not, and nowhere else, so
that there are three line feeds in a row only inside of strings and comments. -/
theorem entries_lined (width : Nat) (source : Text) :
    (entries source).filter (·.content ≠ []) = (places [] (Token.all source)).flatMap added ++ unended source ∧
      (∀ p ∈ places [] (Token.all source), Yields p (added p) ∧ ∀ e ∈ added p, Layout.line width e =
        Text.spaces (width * depthAfter 0 (if e.content = closingLine then p.before ++ [p.item] else p.before)) ++
          e.content) ∧
      (∀ e ∈ unended source, Braceless e.content ∧
        Layout.line width e = Text.spaces (width * depthAfter 0 (Token.all source)) ++ e.content) ∧
      (entries source).IsChain Parted ∧ (∀ e ∈ (entries source).head?, e.content ≠ []) ∧
      (∀ e ∈ (entries source).getLast?, e.content ≠ []) ∧
      ∀ before after, format width source = before ++ (threeBreaks ++ after) →
        ∃ earlier t later start stop, Token.all (format width source) = earlier ++ t :: later ∧ t.Enclosed ∧
          t.text = start ++ (threeBreaks ++ stop) ∧ before = earlier.flatMap Token.text ++ start := by
  have hnonempty := nonempty_of_mem_place source
  refine ⟨?_, ?_, ?_, isChain_separate hnonempty, ?_, ?_, fun before after h => format_unbroken width source h⟩
  · rw [entries, filter_separate hnonempty, place_eq_added]
  · intro p hp
    have hyields := yields_of_mem_places hp
    refine ⟨hyields, fun e he => ?_⟩
    rw [Layout.line, hyields.depth e he]
  · intro e he
    obtain ⟨hplain, hdepth⟩ := braceless_unended source e he
    exact ⟨hplain, by rw [Layout.line, hdepth]⟩
  · rw [entries, head?_separate]
    exact fun e he => hnonempty e (List.mem_of_mem_head? he)
  · rw [entries, getLast?_separate]
    exact fun e he => hnonempty e (List.mem_of_getLast? he)

end Tidy.Css
