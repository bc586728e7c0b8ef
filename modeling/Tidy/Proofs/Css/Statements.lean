/-
# Tidy.Proofs.Css.Statements -- what a statement is made of, and the space around its colon

The text of a statement has no white space at its ends and single spaces inside (`Statement`), and collecting its
atoms gives it back. Normalising a declaration is an edit of its atoms (`exists_respaced`): the space around its
colon is put in or taken out, be the colon an atom of its own or inside a string or a comment. A declaration that has
been normalised stays as it is.
-/

import Tidy.Proofs.Css.Edits
import Tidy.Proofs.Css.Punctuation

namespace Tidy.Css

open CodePoint (char)

/-! ## Statements -/

/-- The atoms that a statement is made of, apart from white space. -/
def Atom.Inner : Atom → Prop
  | solid c => (solid c).WellFormed
  | string t => (string t).WellFormed
  | comment t => (comment t).WellFormed
  | blank _ | openBrace | closeBrace | semicolon => False

/-- The atoms of a statement after its first one: single spaces, and none at the end. -/
inductive Run : List Atom → Prop
  | nil : Run []
  | inner {a : Atom} {as : List Atom} : a.Inner → Run as → Run (a :: as)
  | gap {a : Atom} {as : List Atom} : a.Inner → Run as → Run (.blank (char ' ') :: a :: as)

/-- The atoms of a statement. A comment in front would not belong to it. -/
inductive Statement : List Atom → Prop
  | intro {a : Atom} {as : List Atom} : a.Inner → (∀ t, a ≠ .comment t) → Run as → Statement (a :: as)

theorem Atom.Inner.solid {a : Atom} (h : a.Inner) :
    a.text ≠ [] ∧ Text.StartsSolid a.text ∧ Text.EndsSolid a.text := by
  cases a with
  | solid c => exact ⟨List.cons_ne_nil _ _, Text.startsSolid_of_head rfl h.1, Text.endsSolid_of_getLast rfl h.1⟩
  | string t =>
    obtain ⟨q, inside, hquote, rfl, -⟩ := h
    have hsolid := (wellFormed_of_quote hquote).1
    refine ⟨List.cons_ne_nil _ _, Text.startsSolid_of_head rfl hsolid, Text.endsSolid_of_getLast (c := q) ?_ hsolid⟩
    rw [Atom.text, List.getLast?_cons, List.getLast?_append]
    rfl
  | comment t =>
    have hend := Text.endsSolid_of_getLast (getLast?_comment h) rfl
    obtain ⟨inside, rfl, -⟩ := h
    exact ⟨List.cons_ne_nil _ _, Text.startsSolid_of_head rfl rfl, hend⟩
  | _ => exact absurd h id

theorem Run.append {as bs : List Atom} (has : Run as) (hbs : Run bs) : Run (as ++ bs) := by
  induction has with
  | nil => exact hbs
  | inner ha _ ih => exact .inner ha ih
  | gap ha _ ih => exact .gap ha ih

theorem Run.tail {a : Atom} {as : List Atom} (h : Run (a :: as)) (ha : a.Inner) : Run as := by
  cases h with
  | inner _ has => exact has
  | gap _ _ => exact absurd ha id

theorem Run.endsSolid {as : List Atom} (h : Run as) {buffer : Text} (hbuffer : Text.EndsSolid buffer) :
    Text.EndsSolid (buffer ++ textOf as) := by
  induction h generalizing buffer with
  | nil =>
    rw [textOf_nil, List.append_nil]
    exact hbuffer
  | inner ha _ ih =>
    rw [textOf_cons, ← List.append_assoc]
    exact ih (Text.endsSolid_append ha.solid.1 ha.solid.2.2)
  | gap ha _ ih =>
    rw [textOf_cons, textOf_cons, ← List.append_assoc, ← List.append_assoc]
    exact ih (Text.endsSolid_append ha.solid.1 ha.solid.2.2)

/-- The text of a statement has no white space at its ends. -/
theorem Statement.solid {as : List Atom} (h : Statement as) :
    textOf as ≠ [] ∧ Text.StartsSolid (textOf as) ∧ Text.EndsSolid (textOf as) := by
  obtain ⟨ha, -, has⟩ := h
  obtain ⟨hne, hstart, hend⟩ := ha.solid
  rw [textOf_cons]
  exact ⟨List.append_ne_nil_of_left_ne_nil hne _, Text.startsSolid_append hne hstart _, has.endsSolid hend⟩

theorem Statement.trim {as : List Atom} (h : Statement as) {tail : Text} (htail : Text.isBlank tail = true) :
    Text.trim (textOf as ++ tail) = textOf as := by
  rw [Text.trim_append_tail htail, Text.trim_of_solid h.solid.2.1 h.solid.2.2]

theorem Statement.flush {as : List Atom} (h : Statement as) {tail : Text} (htail : Text.isBlank tail = true)
    (ended : Bool) : flush (textOf as ++ tail) ended = [.declaration (textOf as) ended] := by
  rw [Css.flush, h.trim htail, if_neg]
  simpa using h.solid.1

/-! ## Collecting a statement -/

theorem collect_inner {a : Atom} (ha : a.Inner) {buffer : Text} (hbuffer : buffer = [] → ∀ t, a ≠ .comment t)
    (rest : List Atom) : collect buffer (a :: rest) = collect (buffer ++ a.text) rest := by
  cases a with
  | solid c => rfl
  | string t => rfl
  | comment t =>
    have hne : buffer ≠ [] := fun hnil => hbuffer hnil t rfl
    rw [collect, if_neg (by simpa using hne)]
    rfl
  | _ => exact absurd ha id

theorem collect_run {as : List Atom} (h : Run as) {buffer : Text} (hne : buffer ≠ [])
    (hbuffer : Text.EndsSolid buffer) (rest : List Atom) :
    collect buffer (as ++ rest) = collect (buffer ++ textOf as) rest := by
  induction h generalizing buffer with
  | nil => rw [textOf_nil, List.append_nil, List.nil_append]
  | @inner a as ha _ ih =>
    obtain ⟨hane, -, haend⟩ := ha.solid
    rw [List.cons_append, collect_inner ha (fun hnil => absurd hnil hne),
      ih (List.append_ne_nil_of_left_ne_nil hne _) (Text.endsSolid_append hane haend), textOf_cons, List.append_assoc]
  | @gap a as ha _ ih =>
    obtain ⟨hane, -, haend⟩ := ha.solid
    have hpadded : buffer ++ (" " : Text) ≠ [] := List.append_ne_nil_of_left_ne_nil hne _
    rw [List.cons_append, collect, pad_of_endsSolid hne hbuffer, List.cons_append,
      collect_inner ha (fun hnil => absurd hnil hpadded), ih (List.append_ne_nil_of_left_ne_nil hpadded _)
      (Text.endsSolid_append hane haend), textOf_cons, textOf_cons, List.append_assoc, List.append_assoc]
    rfl

theorem Statement.collect {as : List Atom} (h : Statement as) (rest : List Atom) :
    collect [] (as ++ rest) = collect (textOf as) rest := by
  obtain ⟨ha, hcomment, has⟩ := h
  obtain ⟨hne, -, hend⟩ := ha.solid
  rw [List.cons_append, collect_inner ha (fun _ => hcomment), List.nil_append, collect_run has hne hend, textOf_cons]

theorem isBlank_of_space {w : Text} (h : w = [] ∨ w = [char ' ']) : Text.isBlank w = true := by
  rcases h with rfl | rfl <;> rfl

/-- White space after something solid is one space or none. -/
theorem exists_collect_gap {buffer : Text} (hne : buffer ≠ []) (hend : Text.EndsSolid buffer) (w : Text)
    (rest : List Atom) : ∃ tail, (tail = [] ∨ tail = [char ' ']) ∧
      collect buffer (w.map .blank ++ rest) = collect (buffer ++ tail) rest := by
  cases w with
  | nil => exact ⟨[], Or.inl rfl, by rw [List.append_nil, List.map_nil, List.nil_append]⟩
  | cons c w =>
    refine ⟨[char ' '], Or.inr rfl, ?_⟩
    rw [collect_gap buffer hend, if_neg (by simpa using hne)]
    rfl

theorem Statement.collect_gap {as : List Atom} (h : Statement as) (w : Text) (rest : List Atom) :
    ∃ tail, Text.isBlank tail = true ∧
      Css.collect (textOf as) (w.map .blank ++ rest) = Css.collect (textOf as ++ tail) rest := by
  obtain ⟨tail, htail, hgap⟩ := exists_collect_gap h.solid.1 h.solid.2.2 w rest
  exact ⟨tail, isBlank_of_space htail, hgap⟩

/-! ## Normalising a text -/

theorem isNamePart_eq_false_iff (c : CodePoint) : isNamePart c = false ↔ c = char ':' ∨ c = char '(' := by
  rw [isNamePart, Bool.not_eq_false', Bool.or_eq_true, decide_eq_true_iff, decide_eq_true_iff]

/-- A text has a first code point that is no part of a name, or none. -/
theorem exists_first (t : Text) : (∀ c ∈ t, isNamePart c = true) ∨
    ∃ name c value, t = name ++ c :: value ∧ (∀ c ∈ name, isNamePart c = true) ∧ (c = char ':' ∨ c = char '(') := by
  induction t with
  | nil => exact Or.inl (List.forall_mem_nil _)
  | cons d t ih =>
    cases hd : isNamePart d with
    | false => exact Or.inr ⟨[], d, t, rfl, List.forall_mem_nil _, (isNamePart_eq_false_iff d).mp hd⟩
    | true =>
      rcases ih with hall | ⟨name, c, value, rfl, hname, hc⟩
      · exact Or.inl (List.forall_mem_cons.mpr ⟨hd, hall⟩)
      · exact Or.inr ⟨d :: name, c, value, rfl, List.forall_mem_cons.mpr ⟨hd, hname⟩, hc⟩

theorem normalizeDeclaration_of_name {t : Text} (h : ∀ c ∈ t, isNamePart c = true) : normalizeDeclaration t = t := by
  have hdrop : t.dropWhile isNamePart = [] := by
    rw [← List.append_nil t, List.dropWhile_append_of_pos h]
    rfl
  rw [normalizeDeclaration, hdrop]

theorem normalizeDeclaration_eq {name : Text} (h : ∀ c ∈ name, isNamePart c = true) {c : CodePoint}
    (hc : isNamePart c = false) (value : Text) :
    normalizeDeclaration (name ++ c :: value) =
      if c = char ':' ∧ name ≠ [] then trimName name ++ ": " ++ Text.trimStart value else name ++ c :: value := by
  have hneg : ¬ isNamePart c = true := by rw [hc]; exact Bool.false_ne_true
  have htake : (name ++ c :: value).takeWhile isNamePart = name := by
    rw [List.takeWhile_append_of_pos h, List.takeWhile_cons_of_neg hneg, List.append_nil]
  have hdrop : (name ++ c :: value).dropWhile isNamePart = c :: value := by
    rw [List.dropWhile_append_of_pos h, List.dropWhile_cons_of_neg hneg]
  rw [normalizeDeclaration, htake, hdrop]

/-- Before a parenthesis there is nothing to normalise. -/
theorem normalizeDeclaration_paren {name : Text} (h : ∀ c ∈ name, isNamePart c = true) (value : Text) :
    normalizeDeclaration (name ++ char '(' :: value) = name ++ char '(' :: value := by
  rw [normalizeDeclaration_eq h rfl, if_neg]
  exact fun hcolon => absurd hcolon.1 (by decide)

/-- The space around the colon. -/
theorem normalizeDeclaration_colon {name : Text} (more : Text) (h : ∀ c ∈ name ++ more, isNamePart c = true)
    (hne : name ≠ []) (hend : Text.EndsSolid name) (value : Text) :
    normalizeDeclaration (name ++ (more ++ char ':' :: value)) =
      name ++ (Text.trimEnd more ++ (": " ++ Text.trimStart value)) := by
  have htrim : trimName (name ++ more) = name ++ Text.trimEnd more := by
    rw [trimName, Text.trimEnd_append_of_endsSolid hend, if_neg]
    simp [hne]
  rw [← List.append_assoc, normalizeDeclaration_eq h rfl, if_pos ⟨rfl, List.append_ne_nil_of_left_ne_nil hne _⟩, htrim,
    List.append_assoc, List.append_assoc]

theorem trimName_of_startsSolid {name : Text} (hne : name ≠ []) (hstart : Text.StartsSolid name) :
    trimName name = Text.trimEnd name ∧ Text.trimEnd name ≠ [] := by
  cases name with
  | nil => exact absurd rfl hne
  | cons c name =>
    rw [trimName, Text.trimEnd_cons_of_solid (hstart c rfl)]
    exact ⟨rfl, List.cons_ne_nil _ _⟩

theorem unspaced_trimName (name : Text) : Text.unspaced (trimName name) = Text.unspaced name := by
  rw [trimName]
  split
  · rename_i hempty
    -- a name of white space alone keeps a part of it
    have hblank : Text.unspaced name = [] := by
      rw [← Text.unspaced_trimEnd, List.isEmpty_iff.mp hempty]
      rfl
    rw [Text.unspaced_eq_nil_iff] at hblank
    rw [Text.unspaced_of_isBlank hblank, Text.unspaced_of_isBlank]
    exact List.all_eq_true.mpr fun c hc => List.all_eq_true.mp hblank c (List.mem_of_mem_take hc)
  · exact Text.unspaced_trimEnd name

/-- A declaration with its colon in place, with or without the space at its end. -/
theorem normalizeDeclaration_respelled {name value : Text} (hname : ∀ c ∈ name, isNamePart c = true) (hne : name ≠ [])
    (hend : Text.EndsSolid name) (hvalue : Text.StartsSolid value ∧ Text.EndsSolid value) :
    normalizeDeclaration (Text.trimEnd (name ++ (": " ++ value))) = name ++ (": " ++ value) := by
  have hcolon : ∀ rest, normalizeDeclaration (name ++ char ':' :: rest) = name ++ (": " ++ Text.trimStart rest) :=
    normalizeDeclaration_colon [] (by rwa [List.append_nil]) hne hend
  cases value with
  | nil =>
    have hsolid : Text.EndsSolid (name ++ [char ':']) :=
      Text.endsSolid_append (List.cons_ne_nil _ _) (Text.endsSolid_of_getLast rfl rfl)
    have hsplit : name ++ ((": " : Text) ++ []) = name ++ [char ':'] ++ [char ' '] := by
      rw [List.append_nil, List.append_assoc]
      rfl
    rw [hsplit, Text.trimEnd_append_of_isBlank rfl, Text.trimEnd_of_endsSolid hsolid, hcolon, ← hsplit]
    rfl
  | cons c value =>
    have hsolid : Text.EndsSolid (name ++ (": " ++ c :: value)) :=
      Text.endsSolid_append (List.cons_ne_nil _ _) (Text.endsSolid_append (List.cons_ne_nil _ _) hvalue.2)
    have hspace : (": " : Text) ++ c :: value = char ':' :: (" " ++ c :: value) := rfl
    rw [Text.trimEnd_of_endsSolid hsolid, hspace, hcolon, Text.trimStart_append_of_isBlank rfl,
      Text.trimStart_of_startsSolid hvalue.1, hspace.symm]

/-- What has been normalised and trimmed normalises to the same. -/
theorem normalizeDeclaration_trimEnd {t : Text} (hstart : Text.StartsSolid t) (hend : Text.EndsSolid t) :
    normalizeDeclaration (Text.trimEnd (normalizeDeclaration t)) = normalizeDeclaration t := by
  have hsame : normalizeDeclaration t = t →
      normalizeDeclaration (Text.trimEnd (normalizeDeclaration t)) = normalizeDeclaration t := by
    intro ht
    rw [ht, Text.trimEnd_of_endsSolid hend, ht]
  rcases exists_first t with hall | ⟨name, c, value, rfl, hname, rfl | rfl⟩
  · exact hsame (normalizeDeclaration_of_name hall)
  · by_cases hne : name = []
    · -- a colon in front has no name before it and is left alone
      refine hsame ?_
      rw [normalizeDeclaration_eq hname rfl, if_neg (fun hcolon => hcolon.2 hne)]
    · have hnamestart : Text.StartsSolid name := by
        cases name with
        | nil => exact absurd rfl hne
        | cons d name => exact Text.startsSolid_of_head rfl (hstart d rfl)
      obtain ⟨htrim, htrimne⟩ := trimName_of_startsSolid hne hnamestart
      obtain ⟨tail, -, hsplit⟩ := Text.exists_trimEnd name
      obtain ⟨lead, -, hlead⟩ := Text.exists_trimStart value
      have hpart : ∀ c ∈ Text.trimEnd name, isNamePart c = true := by
        intro c hc
        refine hname c ?_
        rw [hsplit]
        exact List.mem_append_left _ hc
      have hvalue : Text.EndsSolid (Text.trimStart value) := by
        refine Text.endsSolid_of_append (s := name ++ char ':' :: lead) ?_
        rw [List.append_assoc, List.cons_append, ← hlead]
        exact hend
      rw [normalizeDeclaration_eq hname rfl, if_pos ⟨rfl, hne⟩, htrim, List.append_assoc]
      exact normalizeDeclaration_respelled hpart htrimne (Text.endsSolid_trimEnd name)
        ⟨Text.startsSolid_trimStart value, hvalue⟩
  · exact hsame (normalizeDeclaration_paren hname value)

/-- Normalising moves white space. -/
theorem unspaced_normalizeDeclaration (t : Text) : Text.unspaced (normalizeDeclaration t) = Text.unspaced t := by
  rcases exists_first t with hall | ⟨name, c, value, rfl, hname, hc⟩
  · rw [normalizeDeclaration_of_name hall]
  · rw [normalizeDeclaration_eq hname ((isNamePart_eq_false_iff c).mpr hc)]
    split
    · rename_i hcolon
      have hspace : Text.unspaced ": " = [char ':'] := rfl
      rw [Text.unspaced_append, Text.unspaced_append, Text.unspaced_trimStart, unspaced_trimName, hspace, hcolon.1,
        Text.unspaced_append, Text.unspaced_cons_solid rfl, List.append_assoc, List.singleton_append]
    · rfl

/-- A declaration that is normalised ends as it did before, or with its colon, and at most one space follows. -/
theorem normalizeDeclaration_end (t : Text) : ∃ s tail, normalizeDeclaration t = s ++ tail ∧
    (tail = [] ∨ tail = [char ' ']) ∧ (s.getLast? = t.getLast? ∨ s.getLast? = some (char ':')) := by
  have hsame : normalizeDeclaration t = t → ∃ s tail, normalizeDeclaration t = s ++ tail ∧
      (tail = [] ∨ tail = [char ' ']) ∧ (s.getLast? = t.getLast? ∨ s.getLast? = some (char ':')) :=
    fun ht => ⟨t, [], by rw [ht, List.append_nil], Or.inl rfl, Or.inl rfl⟩
  rcases exists_first t with hall | ⟨name, c, value, rfl, hname, hc⟩
  · exact hsame (normalizeDeclaration_of_name hall)
  · have hnormal := normalizeDeclaration_eq hname ((isNamePart_eq_false_iff c).mpr hc) value
    split at hnormal
    · rename_i hcolon
      obtain ⟨rfl, -⟩ := hcolon
      by_cases hvalue : Text.trimStart value = []
      · refine ⟨trimName name ++ [char ':'], [char ' '], ?_, Or.inr rfl, Or.inr List.getLast?_concat⟩
        rw [hnormal, hvalue, List.append_nil, List.append_assoc]
        rfl
      · obtain ⟨lead, -, hlead⟩ := Text.exists_trimStart value
        refine ⟨_, [], by rw [hnormal, List.append_nil], Or.inl rfl, Or.inl ?_⟩
        have hsplit : name ++ char ':' :: value = (name ++ char ':' :: lead) ++ Text.trimStart value := by
          rw [List.append_assoc, List.cons_append, ← hlead]
        have hlast : ∀ s : Text, (s ++ Text.trimStart value).getLast? = (Text.trimStart value).getLast? := by
          intro s
          rw [List.getLast?_append, List.getLast?_eq_some_getLast hvalue, Option.some_or]
        rw [hsplit, hlast, hlast]
    · exact hsame hnormal

theorem normalizeDeclaration_tail {t s tail : Text} (ht : Text.EndsSolid t) (hs : Text.EndsSolid s)
    (htail : Text.isBlank tail = true) (h : normalizeDeclaration t = s ++ tail) : tail = [] ∨ tail = [char ' '] := by
  obtain ⟨s', tail', hnormal, hspace, hlast⟩ := normalizeDeclaration_end t
  have hs' : Text.EndsSolid s' := by
    intro c hc
    rcases hlast with hlast | hlast
    · exact ht c (hlast ▸ hc)
    · rw [hlast] at hc
      obtain rfl := Option.some.inj hc
      rfl
  have htail' := isBlank_of_space hspace
  have hsame : s' = s := by
    have htrim := congrArg Text.trimEnd (hnormal.symm.trans h)
    rwa [Text.trimEnd_append_of_isBlank htail', Text.trimEnd_append_of_isBlank htail, Text.trimEnd_of_endsSolid hs',
      Text.trimEnd_of_endsSolid hs] at htrim
  rw [hnormal, hsame] at h
  rwa [← List.append_cancel_left h]

/-! ## Normalising whole tokens -/

/-- The token with its text normalised as if it were a declaration, if it is a string or a comment. -/
def Token.recolon : Token → Token
  | .string t => .string (normalizeDeclaration t)
  | .comment t => .comment (normalizeDeclaration t)
  | t => t

/-- The whole tokens of a declaration that is normalised: the first one with a colon or a parenthesis in it decides. The
space around a colon outside of strings and comments is not in the tokens. -/
def recolonDeclaration : List Token → List Token
  | [] => []
  | t :: ts => if t.text.all isNamePart then t :: recolonDeclaration ts else t.recolon :: ts

theorem recolonDeclaration_name {a : Atom} (ha : a.Inner) (h : ∀ c ∈ a.text, isNamePart c = true) (ts : List Token) :
    recolonDeclaration (a.whole ++ ts) = a.whole ++ recolonDeclaration ts := by
  have hall : a.text.all isNamePart = true := List.all_eq_true.mpr h
  cases a with
  | solid c => exact if_pos hall
  | string t => exact if_pos hall
  | comment t => exact if_pos hall
  | _ => exact absurd ha id

/-- The atom with the first colon or parenthesis: what stands in its place, and nothing after it, has changed. -/
theorem recolonDeclaration_first {a a' : Atom} (ha : a.Inner) (h : ¬ ∀ c ∈ a.text, isNamePart c = true)
    (ha' : a' = a ∨ Tinted a a') (htext : normalizeDeclaration a.text = a'.text) (ts : List Token) :
    recolonDeclaration (a.whole ++ ts) = a'.whole ++ ts := by
  have hall : ¬ a.text.all isNamePart = true := fun hall => h (List.all_eq_true.mp hall)
  have hstring : ∀ t, a = .string t → a'.whole = [.string a'.text] := by
    rintro t rfl
    rcases ha' with rfl | htinted
    · rfl
    · cases htinted
      rfl
  have hcomment : ∀ t, a = .comment t → a'.whole = [.comment a'.text] := by
    rintro t rfl
    rcases ha' with rfl | htinted
    · rfl
    · cases htinted
      rfl
  cases a with
  | solid c =>
    rcases ha' with rfl | htinted
    · exact if_neg hall
    · cases htinted
  | string t =>
    rw [hstring t rfl, ← htext]
    exact if_neg hall
  | comment t =>
    rw [hcomment t rfl, ← htext]
    exact if_neg hall
  | _ => exact absurd ha id

/-! ## Normalising atoms -/

/-- The atoms `as` of a declaration, of which `name` stands before them, are edited to `us` by normalising, up to
white space at the end. -/
structure Respaced (name : Text) (as us : List Atom) : Prop where
  run : Run us
  text : ∃ tail, Text.isBlank tail = true ∧ normalizeDeclaration (name ++ textOf as) = name ++ (textOf us ++ tail)
  edits : ∀ xs ys, (∀ reset, Edits reset xs ys) → ∀ reset, Edits reset (as ++ xs) (us ++ ys)
  whole : wholeOf us = recolonDeclaration (wholeOf as)

theorem Respaced.same {name : Text} {as : List Atom} (has : Run as)
    (h : normalizeDeclaration (name ++ textOf as) = name ++ textOf as)
    (hwhole : recolonDeclaration (wholeOf as) = wholeOf as) : Respaced name as as where
  run := has
  text := ⟨[], rfl, by rw [h, List.append_nil]⟩
  edits := fun _ _ hedits => Edits.keeps hedits as
  whole := hwhole.symm

theorem Respaced.cons {name : Text} {a : Atom} {as us : List Atom} (ha : a.Inner)
    (hname : ∀ c ∈ a.text, isNamePart c = true) (h : Respaced (name ++ a.text) as us) :
    Respaced name (a :: as) (a :: us) where
  run := .inner ha h.run
  text := by
    obtain ⟨tail, htail, htext⟩ := h.text
    refine ⟨tail, htail, ?_⟩
    rw [textOf_cons, textOf_cons, ← List.append_assoc, htext, List.append_assoc, List.append_assoc]
  edits := fun xs ys hedits _ => .keep (h.edits xs ys hedits _)
  whole := by rw [wholeOf_cons, wholeOf_cons, h.whole, recolonDeclaration_name ha hname]

theorem Respaced.gap {name : Text} {a : Atom} {as us : List Atom} (ha : a.Inner)
    (h : Respaced (name ++ [char ' ']) as (a :: us)) :
    Respaced name (.blank (char ' ') :: as) (.blank (char ' ') :: a :: us) where
  run := .gap ha (h.run.tail ha)
  text := by
    obtain ⟨tail, htail, htext⟩ := h.text
    refine ⟨tail, htail, ?_⟩
    rw [textOf_cons, textOf_cons, ← List.append_assoc]
    refine htext.trans ?_
    rw [List.append_assoc]
    rfl
  edits := fun xs ys hedits _ => .keep (h.edits xs ys hedits _)
  whole := h.whole

/-- The value after a colon gets one space before it. -/
theorem exists_value {as : List Atom} (has : Run as) : ∃ us, Run us ∧
    (∃ tail, Text.isBlank tail = true ∧ " " ++ Text.trimStart (textOf as) = textOf us ++ tail) ∧
    (∀ xs ys, (∀ reset, Edits reset xs ys) → Edits true (as ++ xs) (us ++ ys)) ∧ wholeOf us = wholeOf as := by
  cases has with
  -- without a value the space after the colon is at the end, and trimmed
  | nil => exact ⟨[], .nil, ⟨" ", rfl, rfl⟩, fun xs ys hedits => hedits true, rfl⟩
  | @inner a as ha has =>
    obtain ⟨hne, hstart, -⟩ := ha.solid
    refine ⟨.blank (char ' ') :: a :: as, .gap ha has, ⟨[], rfl, ?_⟩, ?_, rfl⟩
    · rw [textOf_cons, Text.trimStart_of_startsSolid (Text.startsSolid_append hne hstart _), List.append_nil]
      rfl
    · intro xs ys hedits
      exact .add rfl (Edits.keeps hedits (a :: as) true)
  | @gap a as ha has =>
    obtain ⟨hne, hstart, -⟩ := ha.solid
    refine ⟨.blank (char ' ') :: a :: as, .gap ha has, ⟨[], rfl, ?_⟩, ?_, rfl⟩
    · rw [textOf_cons, Text.trimStart_append_of_isBlank rfl, textOf_cons,
        Text.trimStart_of_startsSolid (Text.startsSolid_append hne hstart _), List.append_nil]
      rfl
    · intro xs ys hedits
      exact Edits.keeps hedits (.blank (char ' ') :: a :: as) true

theorem colon_inner : (Atom.solid (char ':')).Inner := ⟨rfl, by decide, by decide, by decide⟩

/-- A colon that is an atom of its own, and one after a space. -/
theorem exists_respaced_colon {name : Text} (hname : ∀ c ∈ name, isNamePart c = true) (hne : name ≠ [])
    (hend : Text.EndsSolid name) {as : List Atom} (has : Run as) :
    ∃ us, Respaced name (.solid (char ':') :: as) (.solid (char ':') :: us) ∧
      Respaced name (.blank (char ' ') :: .solid (char ':') :: as) (.solid (char ':') :: us) := by
  obtain ⟨us, hus, ⟨tail, htail, htext⟩, hedits, hsame⟩ := exists_value has
  have hwhole : wholeOf (.solid (char ':') :: us) = recolonDeclaration (wholeOf (.solid (char ':') :: as)) :=
    congrArg (Token.word [char ':'] :: ·) hsame
  have hspelled : ∀ more : Text, (∀ c ∈ more, isNamePart c = true) → Text.isBlank more = true →
      normalizeDeclaration (name ++ (more ++ char ':' :: textOf as)) = name ++ (char ':' :: textOf us ++ tail) := by
    intro more hmore hblank
    have hboth : ∀ c ∈ name ++ more, isNamePart c = true := List.forall_mem_append.mpr ⟨hname, hmore⟩
    rw [normalizeDeclaration_colon more hboth hne hend, Text.trimEnd_eq_nil hblank, List.nil_append]
    exact congrArg (fun t => name ++ char ':' :: t) htext
  refine ⟨us, ⟨.inner colon_inner hus, ⟨tail, htail, ?_⟩, ?_, hwhole⟩,
    ⟨.inner colon_inner hus, ⟨tail, htail, ?_⟩, ?_, hwhole⟩⟩
  · exact hspelled [] (List.forall_mem_nil _) rfl
  · intro xs ys hxs reset
    exact .keep (hedits xs ys hxs)
  · exact hspelled [char ' '] (by decide) rfl
  · -- the colon takes the place of the space, so nothing moves up to the name
    intro xs ys hxs reset
    exact .swap rfl rfl (.drop rfl (hedits xs ys hxs))

/-- Behind parts of a name, normalising makes the second text of the first and leaves what follows as it is. -/
def Normalizes (t t' : Text) : Prop :=
  ∀ name rest : Text, (∀ c ∈ name, isNamePart c = true) →
    normalizeDeclaration (name ++ (t ++ rest)) = name ++ (t' ++ rest)

/-- A parenthesis ends the search. -/
theorem normalizes_paren {before : Text} (hbefore : ∀ c ∈ before, isNamePart c = true) (value : Text) :
    Normalizes (before ++ char '(' :: value) (before ++ char '(' :: value) := by
  intro name rest hname
  have hparen := normalizeDeclaration_paren (List.forall_mem_append.mpr ⟨hname, hbefore⟩) (value ++ rest)
  simpa only [List.append_assoc, List.cons_append] using hparen

/-- The marks around something enclosed: parts of a name, and solid towards what is inside. -/
structure Fence (opening closing : Text) : Prop where
  opening_nonempty : opening ≠ []
  opening_parts : ∀ c ∈ opening, isNamePart c = true
  opening_ends : Text.EndsSolid opening
  closing_nonempty : closing ≠ []
  closing_parts : ∀ c ∈ closing, isNamePart c = true
  closing_starts : Text.StartsSolid closing

theorem fence_quote {q : CodePoint} (h : IsQuote q) : Fence [q] [q] := by
  have hpart : ∀ c ∈ [q], isNamePart c = true := by
    rcases h with rfl | rfl
    · decide
    · decide
  have hsolid := (wellFormed_of_quote h).1
  exact ⟨List.cons_ne_nil _ _, hpart, Text.endsSolid_of_getLast rfl hsolid, List.cons_ne_nil _ _, hpart,
    Text.startsSolid_of_head rfl hsolid⟩

theorem fence_comment : Fence [char '/', char '*'] [char '*', char '/'] :=
  ⟨List.cons_ne_nil _ _, by decide, Text.endsSolid_of_getLast rfl rfl, List.cons_ne_nil _ _, by decide,
    Text.startsSolid_of_head rfl rfl⟩

/-- A colon inside of something enclosed: the white space around it is replaced together with it. -/
theorem Fence.exists_tinted {opening closing : Text} (h : Fence opening closing) {before : Text}
    (hbefore : ∀ c ∈ before, isNamePart c = true) (value : Text) :
    ∃ start run run' stop, before ++ char ':' :: value = start ++ (run ++ stop) ∧ NeutralRun run ∧ NeutralRun run' ∧
      Normalizes (opening ++ (before ++ char ':' :: value ++ closing))
        (opening ++ (start ++ (run' ++ stop) ++ closing)) := by
  obtain ⟨tail, htail, hstart⟩ := Text.exists_trimEnd before
  obtain ⟨lead, hlead, hstop⟩ := Text.exists_trimStart value
  have hneutral : ∀ {t : Text}, Text.isBlank t = true → ∀ c ∈ t, Neutral c :=
    fun ht c hc => neutral_of_isBlank (List.all_eq_true.mp ht c hc)
  refine ⟨Text.trimEnd before, tail ++ char ':' :: lead, ": ", Text.trimStart value, ?_, ⟨?_, ?_⟩, ⟨?_, ?_⟩, ?_⟩
  · calc before ++ char ':' :: value
        = (Text.trimEnd before ++ tail) ++ char ':' :: (lead ++ Text.trimStart value) := by rw [← hstart, ← hstop]
      _ = _ := by simp only [List.append_assoc, List.cons_append]
  · simp
  · exact List.forall_mem_append.mpr ⟨hneutral htail, List.forall_mem_cons.mpr ⟨by decide, hneutral hlead⟩⟩
  · exact List.cons_ne_nil _ _
  · exact (by decide : ∀ c ∈ [char ':', char ' '], Neutral c)
  · intro name rest hname
    have hparts : ∀ c ∈ name ++ opening ++ before, isNamePart c = true :=
      List.forall_mem_append.mpr ⟨List.forall_mem_append.mpr ⟨hname, h.opening_parts⟩, hbefore⟩
    have hcolon := normalizeDeclaration_colon before hparts
      (List.append_ne_nil_of_right_ne_nil name h.opening_nonempty)
      (Text.endsSolid_append h.opening_nonempty h.opening_ends) (value ++ (closing ++ rest))
    rw [Text.trimStart_append_of_startsSolid
      (Text.startsSolid_append h.closing_nonempty h.closing_starts rest)] at hcolon
    simpa only [List.append_assoc, List.cons_append] using hcolon

/-- The first colon or parenthesis of something enclosed: there is none, or it is a colon, or a parenthesis. -/
theorem Fence.first {opening closing : Text} (h : Fence opening closing) (inside : Text) :
    (∀ c ∈ opening ++ (inside ++ closing), isNamePart c = true) ∨
      (∃ start run run' stop, inside = start ++ (run ++ stop) ∧ NeutralRun run ∧ NeutralRun run' ∧
        Normalizes (opening ++ (inside ++ closing)) (opening ++ (start ++ (run' ++ stop) ++ closing))) ∨
      Normalizes (opening ++ (inside ++ closing)) (opening ++ (inside ++ closing)) := by
  rcases exists_first inside with hall | ⟨before, c, value, rfl, hbefore, rfl | rfl⟩
  · exact Or.inl (List.forall_mem_append.mpr ⟨h.opening_parts, List.forall_mem_append.mpr ⟨hall, h.closing_parts⟩⟩)
  · exact Or.inr (Or.inl (h.exists_tinted hbefore value))
  · have hparen := normalizes_paren (List.forall_mem_append.mpr ⟨h.opening_parts, hbefore⟩) (value ++ closing)
    refine Or.inr (Or.inr ?_)
    simpa only [List.append_assoc, List.cons_append] using hparen

/-- The first colon or parenthesis of an atom: there is none, or it is the colon itself, or nothing after the atom
makes a difference. -/
theorem Atom.Inner.first {a : Atom} (ha : a.Inner) : (∀ c ∈ a.text, isNamePart c = true) ∨ a = .solid (char ':') ∨
    ∃ a', (a' = a ∨ Tinted a a') ∧ Normalizes a.text a'.text := by
  cases a with
  | solid c =>
    cases hc : isNamePart c with
    | true =>
      refine Or.inl ?_
      intro d hd
      rw [List.mem_singleton.mp hd, hc]
    | false =>
      rcases (isNamePart_eq_false_iff c).mp hc with rfl | rfl
      · exact Or.inr (Or.inl rfl)
      · exact Or.inr (Or.inr ⟨_, Or.inl rfl, normalizes_paren (List.forall_mem_nil _) []⟩)
  -- where the first mark is a colon, it and the white space around it are one neutral run
  | string t =>
    obtain ⟨q, inside, hquote, rfl, hsteps⟩ := ha
    rcases (fence_quote hquote).first inside with hall | ⟨start, run, run', stop, rfl, hrun, hrun', hnormal⟩ | hsame
    · exact Or.inl hall
    · exact Or.inr (Or.inr ⟨_, Or.inr (.string hquote hrun hrun' hsteps), hnormal⟩)
    · exact Or.inr (Or.inr ⟨_, Or.inl rfl, hsame⟩)
  | comment t =>
    obtain ⟨inside, rfl, hsteps⟩ := ha
    rcases fence_comment.first inside with hall | ⟨start, run, run', stop, rfl, hrun, hrun', hnormal⟩ | hsame
    · exact Or.inl hall
    · exact Or.inr (Or.inr ⟨_, Or.inr (.comment hrun hrun' hsteps), hnormal⟩)
    · exact Or.inr (Or.inr ⟨_, Or.inl rfl, hsame⟩)
  | _ => exact absurd ha id

/-- An atom that is tinted is still one of a statement, and of the same kind. -/
theorem Tinted.inner {a a' : Atom} (h : Tinted a a') :
    a'.Inner ∧ ((∀ t, a ≠ .comment t) → ∀ t, a' ≠ .comment t) := by
  have hwellFormed := h.wellFormed.2
  cases h with
  | string hquote hrun hrun' hsteps => exact ⟨hwellFormed, fun _ t heq => nomatch heq⟩
  | comment hrun hrun' hsteps => exact ⟨hwellFormed, fun hcomment => absurd rfl (hcomment _)⟩

/-- The first atom of a list, where it is not the colon itself. -/
theorem exists_respaced_inner {name : Text} (hname : ∀ c ∈ name, isNamePart c = true) {a : Atom} (ha : a.Inner)
    (hcolon : a ≠ .solid (char ':')) {as : List Atom} (has : Run as)
    (ih : ∀ name : Text, (∀ c ∈ name, isNamePart c = true) → name ≠ [] → Text.EndsSolid name →
      ∃ us, Respaced name as us) :
    ∃ a' us, (a' = a ∨ Tinted a a') ∧ Respaced name (a :: as) (a' :: us) := by
  obtain ⟨hne, -, hend⟩ := ha.solid
  by_cases hall : ∀ c ∈ a.text, isNamePart c = true
  · -- the atom belongs to the name
    obtain ⟨us, hus⟩ := ih (name ++ a.text) (List.forall_mem_append.mpr ⟨hname, hall⟩)
      (List.append_ne_nil_of_right_ne_nil name hne) (Text.endsSolid_append hne hend)
    exact ⟨a, us, Or.inl rfl, hus.cons ha hall⟩
  · -- the first colon or parenthesis is inside of the atom, and what follows stays
    obtain ⟨a', ha', hnormal⟩ := (ha.first.resolve_left hall).resolve_left hcolon
    have htext : normalizeDeclaration (name ++ textOf (a :: as)) = name ++ textOf (a' :: as) :=
      hnormal name (textOf as) hname
    have halone := hnormal [] [] (List.forall_mem_nil _)
    rw [List.nil_append, List.nil_append, List.append_nil, List.append_nil] at halone
    have hwhole := recolonDeclaration_first ha hall ha' halone (wholeOf as)
    refine ⟨a', as, ha', ?_⟩
    rcases ha' with rfl | htinted
    · exact .same (.inner ha has) htext hwhole
    · refine ⟨.inner htinted.inner.1 has, ⟨[], rfl, by rw [htext, List.append_nil]⟩, ?_, hwhole.symm⟩
      intro xs ys hedits reset
      exact .tint htinted (Edits.keeps hedits as true)

theorem exists_respaced_run {as : List Atom} (h : Run as) {name : Text} (hname : ∀ c ∈ name, isNamePart c = true)
    (hne : name ≠ []) (hend : Text.EndsSolid name) : ∃ us, Respaced name as us := by
  induction h generalizing name with
  | nil =>
    refine ⟨[], .same .nil ?_ rfl⟩
    rw [textOf_nil, List.append_nil, normalizeDeclaration_of_name hname]
  | @inner a as ha has ih =>
    by_cases hcolon : a = .solid (char ':')
    · subst hcolon
      obtain ⟨us, hus, -⟩ := exists_respaced_colon hname hne hend has
      exact ⟨_, hus⟩
    · obtain ⟨a', us, -, hus⟩ := exists_respaced_inner hname ha hcolon has (fun _ => ih)
      exact ⟨_, hus⟩
  | @gap a as ha has ih =>
    by_cases hcolon : a = .solid (char ':')
    · subst hcolon
      obtain ⟨us, -, hus⟩ := exists_respaced_colon hname hne hend has
      exact ⟨_, hus⟩
    · have hspace : ∀ c ∈ name ++ [char ' '], isNamePart c = true :=
        List.forall_mem_append.mpr ⟨hname, by decide⟩
      obtain ⟨a', us, ha', hus⟩ := exists_respaced_inner hspace ha hcolon has (fun _ => ih)
      refine ⟨_, hus.gap ?_⟩
      rcases ha' with rfl | htinted
      · exact ha
      · exact htinted.inner.1

/-- Normalising a declaration edits its atoms, up to white space at the end, and a second time it does the same. -/
theorem exists_respaced {as : List Atom} (h : Statement as) : ∃ us, Statement us ∧ Respaced [] as us ∧
    normalizeDeclaration (textOf us) = normalizeDeclaration (textOf as) := by
  have hedited : ∃ us, Statement us ∧ Respaced [] as us := by
    obtain @⟨a, as, ha, hcomment, has⟩ := h
    by_cases hcolon : a = .solid (char ':')
    · subst hcolon
      have hnil : ∀ c ∈ ([] : Text), isNamePart c = true := List.forall_mem_nil _
      exact ⟨_, .intro ha hcomment has, .same (.inner ha has) (normalizeDeclaration_eq hnil rfl (textOf as)) rfl⟩
    · obtain ⟨a', us, ha', hus⟩ := exists_respaced_inner (List.forall_mem_nil _) ha hcolon has
        (fun _ => exists_respaced_run has)
      refine ⟨_, ?_, hus⟩
      rcases ha' with rfl | htinted
      · exact .intro ha hcomment (hus.run.tail ha)
      · exact .intro htinted.inner.1 (htinted.inner.2 hcomment) (hus.run.tail htinted.inner.1)
  obtain ⟨us, hstatement, hus⟩ := hedited
  refine ⟨us, hstatement, hus, ?_⟩
  obtain ⟨tail, htail, htext⟩ := hus.text
  have htrim : Text.trimEnd (normalizeDeclaration (textOf as)) = textOf us := by
    rw [← List.nil_append (textOf as), htext, List.nil_append, Text.trimEnd_append_of_isBlank htail,
      Text.trimEnd_of_endsSolid hstatement.solid.2.2]
  rw [← htrim, normalizeDeclaration_trimEnd h.solid.2.1 h.solid.2.2]

end Tidy.Css
