/-
# Tidy.Proofs.Console.Markup -- which messages are shown as they are

An error is shown by a text with markup, and its message is put into that text as it stands. So a message is not shown
unaltered if a part of it reads as a tag, if a backslash in it stands before a bracket, or if it holds a control
character that is never shown; all other messages are (`error_unaltered_iff`). This is about messages in which no name
between colons is shown as an emoji, and in which every character has its own columns. The proof counts the opening
brackets and backslashes: reading a text with tags or escapes loses some of them, and nothing brings them back.
-/

import Tidy.Console
import Tidy.Proofs.Console.Wrap
import Mathlib.Data.List.TakeWhile

namespace Tidy.Console

open CodePoint (char)
open Text (Steady)

/-! ## Tags -/

/-- The text may stand between the brackets of a tag. -/
structure IsTag (tag : Text) : Prop where
  starts : ∃ c, tag.head? = some c ∧ startsTag c = true
  notOpened : char '[' ∉ tag
  notClosed : char ']' ∉ tag

/-- A tag with its brackets. -/
def bracketed (tag : Text) : Text :=
  char '[' :: (tag ++ [char ']'])

theorem tagAfter?_eq_some {t tag after : Text} (h : tagAfter? t = some (tag, after)) :
    IsTag tag ∧ t = tag ++ char ']' :: after := by
  unfold tagAfter? at h
  cases t with
  | nil => cases h
  | cons c rest =>
    dsimp only at h
    split at h
    · cases h
    · rename_i hstarts
      rw [Bool.not_eq_true, Bool.not_eq_false'] at hstarts
      generalize hbody : (rest.takeWhile fun x => !(x = char '[' || x = char ']')) = body at h
      have hfree : ∀ x ∈ body, x ≠ char '[' ∧ x ≠ char ']' := by
        intro x hx
        rw [← hbody] at hx
        simpa using List.mem_takeWhile_imp hx
      have hrest : rest = body ++ rest.drop body.length := by
        rw [← hbody]
        exact (List.prefix_iff_eq_append.mp (List.takeWhile_prefix _)).symm
      split at h
      · rename_i hdrop
        injection h with h
        obtain ⟨rfl, rfl⟩ := Prod.mk.inj h
        have hc : c ≠ char '[' ∧ c ≠ char ']' := by
          constructor <;> (rintro rfl; exact absurd hstarts (by decide))
        refine ⟨⟨⟨c, rfl, hstarts⟩, ?_, ?_⟩, ?_⟩
        · exact fun hmem => (List.mem_cons.mp hmem).elim (fun heq => hc.1 heq.symm) fun hmem => (hfree _ hmem).1 rfl
        · exact fun hmem => (List.mem_cons.mp hmem).elim (fun heq => hc.2 heq.symm) fun hmem => (hfree _ hmem).2 rfl
        · rw [List.cons_append, ← hdrop, ← hrest]
      · cases h

theorem tagAfter?_of_isTag {tag : Text} (h : IsTag tag) (after : Text) :
    tagAfter? (tag ++ char ']' :: after) = some (tag, after) := by
  obtain ⟨⟨c, hhead, hstarts⟩, hopened, hclosed⟩ := h
  cases tag with
  | nil => cases hhead
  | cons d body =>
    obtain rfl : d = c := by injection hhead
    have hbody : ((body ++ char ']' :: after).takeWhile fun x => !(x = char '[' || x = char ']')) = body := by
      rw [List.takeWhile_append_of_pos, List.takeWhile_cons_of_neg (by simp), List.append_nil]
      intro x hx
      have hopen : x ≠ char '[' := fun heq => hopened (heq ▸ List.mem_cons_of_mem _ hx)
      have hclose : x ≠ char ']' := fun heq => hclosed (heq ▸ List.mem_cons_of_mem _ hx)
      simp [hopen, hclose]
    unfold tagAfter?
    rw [List.cons_append]
    dsimp only
    rw [hstarts, hbody, List.drop_left]
    rfl

/-- A text that is kept in reverse ends with the backslashes at the start of what is kept. -/
theorem reverse_eq_slashes (before : Text) : before.reverse =
    (before.drop (before.takeWhile (· = char '\\')).length).reverse ++
      List.replicate (before.takeWhile (· = char '\\')).length (char '\\') := by
  have hbefore : before =
      before.takeWhile (· = char '\\') ++ before.drop (before.takeWhile (· = char '\\')).length :=
    (List.prefix_iff_eq_append.mp (List.takeWhile_prefix _)).symm
  have hall : ∀ c ∈ before.takeWhile (· = char '\\'), c = char '\\' := fun c hc => by
    simpa using List.mem_takeWhile_imp hc
  generalize before.takeWhile (· = char '\\') = slashes at hbefore hall ⊢
  conv => lhs; rw [hbefore, List.eq_replicate_iff.mpr ⟨rfl, hall⟩]
  rw [List.reverse_append, List.reverse_replicate, List.length_replicate]

theorem firstTag?_eq_some {before t : Text} {found : FoundTag} (h : firstTag? before t = some found) :
    IsTag found.tag ∧ before.reverse ++ t =
      found.before ++ (List.replicate found.slashes (char '\\') ++ (bracketed found.tag ++ found.after)) := by
  induction t generalizing before with
  | nil => cases h
  | cons c rest ih =>
    rw [firstTag?] at h
    split at h
    · rename_i tag after htag
      split at htag
      · rename_i hc
        obtain ⟨htag, hrest⟩ := tagAfter?_eq_some htag
        injection h with h
        subst h hc
        refine ⟨htag, ?_⟩
        rw [reverse_eq_slashes before, hrest, bracketed, List.append_assoc]
        simp
      · cases htag
    · obtain ⟨htag, heq⟩ := ih h
      refine ⟨htag, ?_⟩
      rw [← heq]
      simp

theorem firstTag?_eq_none_iff (before t : Text) :
    firstTag? before t = none ↔ ∀ tag, IsTag tag → ¬ bracketed tag <:+: t := by
  induction t generalizing before with
  | nil =>
    refine ⟨fun _ tag _ hpart => ?_, fun _ => rfl⟩
    exact List.cons_ne_nil _ _ (List.infix_nil.mp hpart)
  | cons c rest ih =>
    rw [firstTag?]
    cases htag : (if c = char '[' then tagAfter? rest else none) with
    | some found =>
      obtain ⟨tag, after⟩ := found
      refine ⟨nofun, fun h => ?_⟩
      split at htag
      · rename_i hc
        obtain ⟨hisTag, hrest⟩ := tagAfter?_eq_some htag
        refine absurd ?_ (h tag hisTag)
        rw [hc, hrest]
        exact ⟨[], after, by simp [bracketed]⟩
      · cases htag
    | none =>
      refine (ih (c :: before)).trans (forall_congr' fun tag => imp_congr_right fun hisTag => not_congr ?_)
      rw [List.infix_cons_iff]
      refine ⟨Or.inr, fun h => h.resolve_left ?_⟩
      rintro ⟨after, hafter⟩
      rw [bracketed, List.cons_append, List.append_assoc] at hafter
      obtain ⟨rfl, hrest⟩ := List.cons.inj hafter
      rw [if_pos rfl, ← hrest] at htag
      rw [List.singleton_append, tagAfter?_of_isTag hisTag] at htag
      cases htag

/-! ## What is left of brackets and backslashes -/

/-- Is the code point an opening bracket or a backslash? -/
def isSign (c : CodePoint) : Bool :=
  c = char '[' || c = char '\\'

/-- How many opening brackets and backslashes a text has. -/
def signs (t : Text) : Nat :=
  t.countP isSign

@[simp] theorem signs_nil : signs [] = 0 := rfl

@[simp] theorem signs_append (s t : Text) : signs (s ++ t) = signs s + signs t :=
  List.countP_append

@[simp] theorem signs_slashes (n : Nat) : signs (List.replicate n (char '\\')) = n := by
  rw [signs, List.countP_replicate]
  exact if_pos rfl

theorem signs_cons (c : CodePoint) (t : Text) : signs (c :: t) = signs [c] + signs t :=
  signs_append [c] t

theorem signs_bracketed (tag : Text) : 0 < signs (bracketed tag) := by
  rw [signs, bracketed, List.countP_cons_of_pos rfl]
  exact Nat.succ_pos _

/-- A backslash before a bracket. -/
def escapedBracket : Text := [char '\\', char '[']

theorem unescaped_of_no_escape {t : Text} (h : ¬ escapedBracket <:+: t) : unescaped t = t := by
  induction t with
  | nil => rfl
  | cons c rest ih =>
    have hrest : ¬ escapedBracket <:+: rest := fun hpart => h (hpart.trans (List.suffix_cons c rest).isInfix)
    rw [unescaped, if_neg, ih hrest]
    rintro ⟨rfl, hnext⟩
    cases rest with
    | nil => cases hnext
    | cons d rest =>
      obtain rfl : d = char '[' := by injection hnext
      exact h ⟨[], rest, rfl⟩

theorem signs_unescaped_le (t : Text) : signs (unescaped t) ≤ signs t := by
  induction t with
  | nil => exact Nat.le_refl 0
  | cons c rest ih =>
    rw [unescaped, signs_cons]
    split
    · omega
    · rw [signs_cons]
      omega

/-- Reading an escape loses its backslash. -/
theorem signs_unescaped_lt {t : Text} (h : escapedBracket <:+: t) : signs (unescaped t) < signs t := by
  induction t with
  | nil => exact absurd (List.infix_nil.mp h) (List.cons_ne_nil _ _)
  | cons c rest ih =>
    rw [unescaped, signs_cons]
    split
    · rename_i hescape
      obtain ⟨rfl, -⟩ := hescape
      have hle := signs_unescaped_le rest
      have hone : signs [char '\\'] = 1 := rfl
      omega
    · rename_i hplain
      rw [signs_cons]
      rcases List.infix_cons_iff.mp h with ⟨after, hafter⟩ | h
      · obtain ⟨rfl, rfl⟩ := List.cons.inj hafter
        exact absurd ⟨rfl, rfl⟩ hplain
      · have hlt := ih h
        omega

theorem unescaped_subset (t : Text) : unescaped t ⊆ t := by
  induction t with
  | nil => exact List.Subset.refl []
  | cons c rest ih =>
    rw [unescaped]
    split
    · exact List.subset_cons_of_subset c ih
    · exact List.cons_subset_cons c ih

/-- The text of a piece, if it is shown. -/
def Piece.shownText : Piece → Text
  | plain t => t
  | tag _ => []

/-- The text that pieces show. -/
def shownTexts (pieces : List Piece) : Text :=
  pieces.flatMap Piece.shownText

theorem shownTexts_untagged {limit : Nat} {t : Text} (h : firstTag? [] t = none) :
    shownTexts (parts (limit + 1) t) = unescaped t := by
  rw [parts, h]
  exact List.append_nil _

theorem shownTexts_tagged {limit : Nat} {t : Text} {found : FoundTag} (h : firstTag? [] t = some found) :
    shownTexts (parts (limit + 1) t) =
      unescaped found.before ++ (List.replicate (found.slashes / 2) (char '\\') ++
        ((if found.slashes % 2 = 0 then [] else bracketed found.tag) ++ shownTexts (parts limit found.after))) := by
  rw [parts, h]
  dsimp only
  split <;> rfl

/-- The pieces of a text show no code point that is not in it. -/
theorem shownTexts_parts_subset (limit : Nat) (t : Text) : shownTexts (parts limit t) ⊆ t := by
  induction limit generalizing t with
  | zero => exact List.nil_subset t
  | succ limit ih =>
    cases hfirst : firstTag? [] t with
    | none =>
      rw [shownTexts_untagged hfirst]
      exact unescaped_subset t
    | some found =>
      obtain ⟨-, heq⟩ := firstTag?_eq_some hfirst
      rw [List.reverse_nil, List.nil_append] at heq
      rw [shownTexts_tagged hfirst, heq]
      intro c hc
      rcases List.mem_append.mp hc with hc | hc
      · exact List.mem_append_left _ (unescaped_subset _ hc)
      · refine List.mem_append_right _ ?_
        rcases List.mem_append.mp hc with hc | hc
        · obtain ⟨hne, hc⟩ := List.mem_replicate.mp hc
          exact List.mem_append_left _ (List.mem_replicate.mpr ⟨by omega, hc⟩)
        · refine List.mem_append_right _ ?_
          rcases List.mem_append.mp hc with hc | hc
          · split at hc
            · cases hc
            · exact List.mem_append_left _ hc
          · exact List.mem_append_right _ (ih found.after hc)

/-- A tag is lost with its bracket, or with a backslash before it. -/
theorem signs_parts_lt {limit : Nat} {t : Text} {found : FoundTag} (hfirst : firstTag? [] t = some found)
    (hafter : signs (shownTexts (parts limit found.after)) ≤ signs found.after) :
    signs (shownTexts (parts (limit + 1) t)) < signs t := by
  obtain ⟨-, heq⟩ := firstTag?_eq_some hfirst
  rw [List.reverse_nil, List.nil_append] at heq
  have hbefore := signs_unescaped_le found.before
  have hbracket := signs_bracketed found.tag
  rw [shownTexts_tagged hfirst]
  conv => rhs; rw [heq]
  simp only [signs_append, signs_slashes]
  split
  · rw [signs_nil]
    omega
  · omega

theorem signs_parts_le (limit : Nat) (t : Text) : signs (shownTexts (parts limit t)) ≤ signs t := by
  induction limit generalizing t with
  | zero => exact Nat.zero_le _
  | succ limit ih =>
    cases hfirst : firstTag? [] t with
    | none =>
      rw [shownTexts_untagged hfirst]
      exact signs_unescaped_le t
    | some found => exact Nat.le_of_lt (signs_parts_lt hfirst (ih found.after))

/-- No part of the text reads as a tag or as an escape. -/
structure Unmarked (t : Text) : Prop where
  untagged : ∀ tag, IsTag tag → ¬ bracketed tag <:+: t
  unescaped : ¬ escapedBracket <:+: t

theorem parts_of_unmarked {t : Text} (h : Unmarked t) (limit : Nat) : parts (limit + 1) t = [.plain t] := by
  rw [parts, (firstTag?_eq_none_iff [] t).mpr h.untagged]
  dsimp only
  rw [unescaped_of_no_escape h.unescaped]

/-- A text that keeps its brackets and backslashes has neither tags nor escapes. -/
theorem unmarked_of_signs {limit : Nat} {t : Text} (h : signs t ≤ signs (shownTexts (parts (limit + 1) t))) :
    Unmarked t := by
  cases hfirst : firstTag? [] t with
  | some found => exact absurd (signs_parts_lt hfirst (signs_parts_le limit found.after)) (Nat.not_lt.mpr h)
  | none =>
    have huntagged := (firstTag?_eq_none_iff [] t).mp hfirst
    refine ⟨huntagged, fun hescaped => ?_⟩
    rw [shownTexts_untagged hfirst] at h
    exact absurd (signs_unescaped_lt hescaped) (Nat.not_lt.mpr h)

/-! ## The style of errors -/

/-- A word that does not list the parts of a colour names a colour, or is unknown. -/
theorem color_of_partless {word : Text} (h : enclosed? "rgb(" (Text.lower word) = none) :
    color word = .ok (Text.lower word) ∨ color word = .error .unknown := by
  unfold color
  dsimp only
  rw [h, Option.filter_none]
  exact ite_eq_or_eq _ _ _

section

variable {style : Style} {word : Text} {rest : List Text} (hon : Text.lower word ≠ "on")
  (hnot : Text.lower word ≠ "not") (hlink : Text.lower word ≠ "link")

include hon hnot hlink

theorem ofWords_attribute {name : Text} (h : attribute? (Text.lower word) = some name) :
    Style.ofWords style (word :: rest) = Style.ofWords (style.put name true) rest := by
  rw [Style.ofWords.eq_def]
  dsimp only
  rw [if_neg hon, if_neg hnot, if_neg hlink, h]

theorem ofWords_color (h : attribute? (Text.lower word) = none) :
    Style.ofWords style (word :: rest) =
      (color (Text.lower word)).bind fun color => Style.ofWords { style with color } rest := by
  rw [Style.ofWords.eq_def]
  dsimp only
  rw [if_neg hon, if_neg hnot, if_neg hlink, h]
  rfl

end

theorem normalName_of_ok {t : Text} {style : Style} (h : Style.ofText t = .ok style) :
    normalName t = .ok style.name := by
  rw [normalName, h]

theorem normalName_of_unknown {t : Text} (h : Style.ofText t = .error .unknown) :
    normalName t = .ok (Text.lower (Text.trim t)) := by
  rw [normalName, h]

theorem isNumberless_of_ok {t : Text} {style : Style} (h : Style.ofText t = .ok style) : isNumberless t = false := by
  rw [isNumberless, h]

theorem isNumberless_of_unknown {t : Text} (h : Style.ofText t = .error .unknown) : isNumberless t = false := by
  rw [isNumberless, h]

/-- What the style of errors writes: bold, and red if there is such a colour. -/
theorem ofText_boldRed :
    Style.ofText "bold red" = .ok { attributes := [("bold", true)], color := some "red" } ∨
      Style.ofText "bold red" = .error .unknown := by
  have htrim : ¬ Text.trim "bold red" = "none" := by decide
  have hwords : Style.wordsOf "bold red" = [Text.ofString "bold", Text.ofString "red"] := rfl
  rw [Style.ofText, if_neg htrim, hwords,
    @ofWords_attribute _ "bold" _ (by decide) (by decide) (by decide) "bold" (by decide),
    ofWords_color (by decide) (by decide) (by decide) (by decide)]
  rcases @color_of_partless (Text.lower "red") rfl with h | h
  · rw [h]
    exact Or.inl rfl
  · rw [h]
    exact Or.inr rfl

theorem normalName_boldRed : normalName "bold red" = .ok "bold red" := by
  rcases ofText_boldRed with h | h
  · have hname : Style.name { attributes := [("bold", true)], color := some "red" } = "bold red" := by decide
    rw [normalName_of_ok h, hname]
  · exact normalName_of_unknown h

theorem isNumberless_boldRed : isNumberless "bold red" = false :=
  ofText_boldRed.elim isNumberless_of_ok isNumberless_of_unknown

/-! ## Errors -/

/-- A limit above the length of the text is no limit. -/
theorem parts_congr_limit {m n : Nat} {t : Text} (hm : t.length < m) (hn : t.length < n) : parts m t = parts n t := by
  induction m generalizing n t with
  | zero => cases hm
  | succ m ih =>
    obtain ⟨n, rfl⟩ := Nat.exists_eq_succ_of_ne_zero (Nat.ne_zero_of_lt hn)
    rw [parts, parts]
    cases hfirst : firstTag? [] t with
    | none => rfl
    | some found =>
      obtain ⟨-, heq⟩ := firstTag?_eq_some hfirst
      have hlength := congrArg List.length heq
      simp only [List.reverse_nil, List.nil_append, List.length_append, bracketed, List.length_cons] at hlength
      dsimp only
      rw [ih (n := n) (by omega) (by omega)]

/-- The pieces of a message that stands behind a space. -/
def messagePieces (message : Text) : List Piece :=
  parts (message.length + 2) (char ' ' :: message)

/-- No name between colons in the message is shown as an emoji. -/
def NoEmoji (message : Text) : Prop :=
  ∀ t, Piece.plain t ∈ messagePieces message → showEmoji t = t

theorem parts_error (message : Text) :
    parts (("[bold red]Error:[/] " ++ message : Text).length + 1) ("[bold red]Error:[/] " ++ message) =
      .plain [] :: .plain [] :: .tag "bold red" :: .plain "Error:" :: .plain [] :: .tag "/" ::
        messagePieces message := by
  have hlength : ("[bold red]Error:[/] " ++ message : Text).length + 1 = message.length + 19 + 1 + 1 := by
    rw [List.length_append]
    exact congrArg (· + 1) (Nat.add_comm _ _)
  have hbold : firstTag? [] ("[bold red]Error:[/] " ++ message) =
      some ⟨[], 0, "bold red", "Error:[/] " ++ message⟩ := rfl
  have hclose : firstTag? [] ("Error:[/] " ++ message) = some ⟨"Error:", 0, "/", char ' ' :: message⟩ := rfl
  have hlimit := @parts_congr_limit (message.length + 19) (message.length + 2) (char ' ' :: message)
    (by rw [List.length_cons]; omega) (by rw [List.length_cons]; omega)
  rw [hlength, parts, hbold]
  dsimp only
  rw [parts, hclose]
  dsimp only
  rw [hlimit]
  rfl

theorem plainText_plain (opened : List Tag) (t : Text) (rest : List Piece) :
    plainText opened (.plain t :: rest) =
      (plainText opened rest).map fun plain => { plain with text := showEmoji t ++ plain.text } := by
  rw [plainText]
  cases plainText opened rest <;> rfl

theorem plainText_boldRed (opened : List Tag) (rest : List Piece) :
    plainText opened (.tag "bold red" :: rest) = plainText (⟨"bold red", none⟩ :: opened) rest := by
  have hname : tagName "bold red" = .ok "bold red" := by rw [tagName, normalName_boldRed]
  have htag : Tag.ofText "bold red" = ⟨char 'b' :: "old red", none⟩ := rfl
  rw [plainText, htag]
  show (tagName "bold red").bind _ = _
  rw [hname]
  rfl

theorem plainText_slash (rest : List Piece) :
    plainText [⟨"bold red", none⟩] (.tag "/" :: rest) =
      (plainText [] rest).map fun plain => { plain with styles := Text.ofString "bold red" :: plain.styles } := by
  have htag : Tag.ofText "/" = ⟨[char '/'], none⟩ := rfl
  have hclose : close [] [⟨"bold red", none⟩] = .ok (⟨"bold red", none⟩, []) := by
    rw [close]
    simp
  have hclosed : Tag.closed ⟨"bold red", none⟩ = .ok [Text.ofString "bold red"] := rfl
  have htrim : (Text.trim []).isEmpty = true := rfl
  rw [plainText, htag]
  dsimp only
  split
  · rename_i name hname
    obtain rfl : [] = name := (List.cons.inj hname).2
    simp only [if_pos htrim, bind, Except.bind, hclose, hclosed]
    cases plainText [] rest <;> rfl
  · rename_i hname
    exact absurd rfl (hname [])

theorem plainText_error (pieces : List Piece) :
    plainText [] (.plain [] :: .plain [] :: .tag "bold red" :: .plain "Error:" :: .plain [] :: .tag "/" :: pieces) =
      (plainText [] pieces).map fun plain =>
        ⟨Text.ofString "Error:" ++ plain.text, Text.ofString "bold red" :: plain.styles⟩ := by
  have hword : showEmoji "Error:" = "Error:" := rfl
  have hnothing : showEmoji [] = [] := rfl
  rw [plainText_plain, plainText_plain, plainText_boldRed, plainText_plain, plainText_plain, plainText_slash, hword,
    hnothing]
  cases plainText [] pieces <;> rfl

theorem withoutMarkup_of_ok {t : Text} {plain : Plain} (h : plainText [] (parts (t.length + 1) t) = .ok plain) :
    withoutMarkup t = if plain.styles.any isNumberless then .error .noNumber else .ok plain.text := by
  rw [withoutMarkup, h]
  rfl

theorem withoutMarkup_of_error {t : Text} {fault : MarkupFault}
    (h : plainText [] (parts (t.length + 1) t) = .error fault) : withoutMarkup t = .error fault := by
  rw [withoutMarkup, h]
  rfl

/-- The text of an error is read as the word for it, and then as the message. -/
theorem withoutMarkup_error (message : Text) :
    withoutMarkup ("[bold red]Error:[/] " ++ message) =
      (plainText [] (messagePieces message)).bind fun plain =>
        if plain.styles.any isNumberless then .error .noNumber else .ok ("Error:" ++ plain.text) := by
  have hplain := plainText_error (messagePieces message)
  rw [← parts_error] at hplain
  cases hmessage : plainText [] (messagePieces message) with
  | error fault =>
    rw [hmessage] at hplain
    exact withoutMarkup_of_error hplain
  | ok plain =>
    rw [hmessage] at hplain
    rw [withoutMarkup_of_ok hplain, List.any_cons, isNumberless_boldRed, Bool.false_or]
    rfl

theorem exists_of_bind_eq_ok {x : Except MarkupFault α} {f : α → Except MarkupFault β} {b : β}
    (h : (x >>= f) = .ok b) : ∃ a, x = .ok a ∧ f a = .ok b := by
  cases x with
  | error fault => cases h
  | ok a => exact ⟨a, rfl, h⟩

/-- What a tag does to the open tags and to the styles does not matter for the text. -/
theorem plainText_tag {opened : List Tag} {tag : Text} {rest : List Piece} {plain : Plain}
    (h : plainText opened (.tag tag :: rest) = .ok plain) :
    ∃ opened' inner, plainText opened' rest = .ok inner ∧ plain.text = inner.text := by
  rw [plainText] at h
  dsimp only at h
  split at h
  · split at h
    all_goals
      obtain ⟨name, -, h⟩ := exists_of_bind_eq_ok h
      obtain ⟨⟨closed, opened'⟩, -, h⟩ := exists_of_bind_eq_ok h
      obtain ⟨styles, -, h⟩ := exists_of_bind_eq_ok h
      obtain ⟨inner, hinner, h⟩ := exists_of_bind_eq_ok h
      injection h with h
      exact ⟨opened', inner, hinner, by rw [← h]⟩
  · obtain ⟨name, -, h⟩ := exists_of_bind_eq_ok h
    exact ⟨_, plain, h, rfl⟩

theorem text_plainText {pieces : List Piece} (hemoji : ∀ t, Piece.plain t ∈ pieces → showEmoji t = t)
    {opened : List Tag} {plain : Plain} (h : plainText opened pieces = .ok plain) : plain.text = shownTexts pieces := by
  induction pieces generalizing opened plain with
  | nil =>
    injection h with h
    rw [← h]
    rfl
  | cons piece rest ih =>
    have hrest : ∀ t, Piece.plain t ∈ rest → showEmoji t = t := fun t ht => hemoji t (List.mem_cons_of_mem _ ht)
    rw [shownTexts, List.flatMap_cons]
    cases piece with
    | plain t =>
      rw [plainText_plain, hemoji t List.mem_cons_self] at h
      cases hplain : plainText opened rest with
      | error fault =>
        rw [hplain] at h
        cases h
      | ok inner =>
        rw [hplain] at h
        injection h with h
        rw [← h]
        exact congrArg (t ++ ·) (ih hrest hplain)
    | tag t =>
      obtain ⟨opened', inner, hinner, htext⟩ := plainText_tag h
      exact htext.trans (ih hrest hinner)

/-! ## Messages -/

/-- What is shown is the word for an error and the message, but for white space. -/
def Unaltered (shown : Except MarkupFault Text) (message : Text) : Prop :=
  ∃ t, shown = .ok t ∧ Text.unspaced t = Text.unspaced ("Error: " ++ message)

/-- No part of the message reads as markup, and all of it can be shown. -/
structure Literal (message : Text) : Prop extends Unmarked message where
  visible : ∀ c ∈ message, isHidden c = true → c.isBlank = true

theorem infix_behind_space {c : CodePoint} (hc : c ≠ char ' ') {t message : Text} :
    c :: t <:+: char ' ' :: message ↔ c :: t <:+: message := by
  rw [List.infix_cons_iff]
  refine ⟨fun h => h.resolve_left ?_, Or.inr⟩
  rintro ⟨after, hafter⟩
  exact hc (List.cons.inj hafter).1

theorem unmarked_behind_space {message : Text} : Unmarked (char ' ' :: message) ↔ Unmarked message := by
  constructor <;> intro h
  · exact ⟨fun tag htag hpart => h.untagged tag htag ((infix_behind_space (by decide)).mpr hpart),
      fun hpart => h.unescaped ((infix_behind_space (by decide)).mpr hpart)⟩
  · exact ⟨fun tag htag hpart => h.untagged tag htag ((infix_behind_space (by decide)).mp hpart),
      fun hpart => h.unescaped ((infix_behind_space (by decide)).mp hpart)⟩

/-- No ink is hidden exactly if all hidden controls are white space. -/
theorem unspaced_filter_visible_iff (t : Text) :
    Text.unspaced (t.filter (!isHidden ·)) = Text.unspaced t ↔ ∀ c ∈ t, isHidden c = true → c.isBlank = true := by
  constructor
  · intro h c hc hhidden
    by_contra hsolid
    have hkept : c ∈ Text.unspaced (t.filter (!isHidden ·)) := by
      rw [h]
      exact List.mem_filter.mpr ⟨hc, by simpa using hsolid⟩
    have hshown := (List.mem_filter.mp (List.mem_filter.mp hkept).1).2
    rw [hhidden] at hshown
    cases hshown
  · intro h
    rw [Text.unspaced, Text.unspaced, List.filter_filter]
    refine List.filter_congr fun c hc => ?_
    cases hhidden : isHidden c with
    | true => rw [h c hc hhidden]; rfl
    | false => exact Bool.and_true _

theorem signs_filter {kept : CodePoint → Bool} (h : ∀ c, isSign c = true → kept c = true) (t : Text) :
    signs (t.filter kept) = signs t := by
  rw [signs, signs, List.countP_filter]
  refine List.countP_congr fun c _ => ?_
  rw [Bool.and_eq_true]
  exact and_iff_left_of_imp (h c)

theorem isSign_iff (c : CodePoint) : isSign c = true ↔ c = char '[' ∨ c = char '\\' := by
  rw [isSign, Bool.or_eq_true, decide_eq_true_iff, decide_eq_true_iff]

theorem signs_unspaced (t : Text) : signs (Text.unspaced t) = signs t :=
  signs_filter (fun c hc => by rcases (isSign_iff c).mp hc with rfl | rfl <;> rfl) t

theorem signs_filter_visible (t : Text) : signs (t.filter (!isHidden ·)) = signs t :=
  signs_filter (fun c hc => by rcases (isSign_iff c).mp hc with rfl | rfl <;> rfl) t

theorem error_eq_ok_iff {message t : Text} :
    error message = .ok t ↔ ∃ plain, plainText [] (messagePieces message) = .ok plain ∧
      plain.styles.any isNumberless = false ∧ t = shown ("Error:" ++ plain.text) := by
  rw [error, withoutMarkup_error]
  cases plainText [] (messagePieces message) with
  | error fault => exact ⟨nofun, nofun⟩
  | ok plain =>
    show (if plain.styles.any isNumberless then Except.error MarkupFault.noNumber
      else .ok ("Error:" ++ plain.text)).map shown = .ok t ↔ _
    cases hstyles : plain.styles.any isNumberless with
    | true => exact ⟨nofun, by rintro ⟨_, ⟨⟩, hfalse, -⟩; rw [hstyles] at hfalse; cases hfalse⟩
    | false =>
      constructor
      · intro h
        injection h with h
        exact ⟨plain, rfl, hstyles, h.symm⟩
      · rintro ⟨_, ⟨⟩, -, rfl⟩
        rfl

/-- What is shown of a steady text behind the word for an error. -/
theorem unspaced_shown_error {t : Text} (h : Steady t) :
    Text.unspaced (shown ("Error:" ++ t)) = "Error:" ++ Text.unspaced (t.filter (!isHidden ·)) := by
  have hword : Steady (Text.ofString "Error:") := ⟨by decide, by decide⟩
  rw [unspaced_shown (hword.append h), List.filter_append, Text.unspaced_append]
  rfl

/-- A message that is not marked up is shown with emoji for its codes. -/
theorem error_of_unmarked {message : Text} (h : Unmarked message) :
    error message = .ok (shown ("Error: " ++ showEmoji message)) := by
  have hpieces : messagePieces message = [.plain (char ' ' :: message)] :=
    parts_of_unmarked (unmarked_behind_space.mpr h) _
  refine error_eq_ok_iff.mpr ⟨⟨char ' ' :: showEmoji message, []⟩, ?_, rfl, rfl⟩
  rw [hpieces, plainText_plain]
  show Except.ok (Plain.mk (char ' ' :: showEmoji message ++ []) []) = _
  rw [List.append_nil]

/-- A message is shown unaltered exactly if no part of it reads as markup and all of it can be shown. -/
theorem error_unaltered_iff {message : Text} (hsteady : Steady message) (hemoji : NoEmoji message) :
    Unaltered (error message) message ↔ Literal message := by
  have hwanted : Text.unspaced ("Error: " ++ message) = "Error:" ++ Text.unspaced message := by
    rw [Text.unspaced_append]
    rfl
  have hspaced : Steady (char ' ' :: message) := Text.steady_cons.mpr ⟨by decide, by decide, hsteady⟩
  have hall : shownTexts [.plain (char ' ' :: message)] = char ' ' :: message := List.append_nil _
  constructor
  · rintro ⟨t, ht, hsame⟩
    obtain ⟨plain, hplain, -, rfl⟩ := error_eq_ok_iff.mp ht
    have htext := text_plainText hemoji hplain
    have hkept : plain.text ⊆ char ' ' :: message := by
      rw [htext]
      exact shownTexts_parts_subset _ _
    rw [unspaced_shown_error (hspaced.subset hkept), hwanted] at hsame
    have hink := List.append_cancel_left hsame
    -- as many brackets and backslashes are shown as the message has, so none was read as markup
    have hsigns : signs (char ' ' :: message) ≤ signs (shownTexts (messagePieces message)) := by
      have hcount := congrArg signs hink
      rw [signs_unspaced, signs_unspaced, signs_filter_visible, htext] at hcount
      rw [signs_cons, hcount]
      exact Nat.le_of_eq (Nat.zero_add _)
    have hunmarked := unmarked_of_signs hsigns
    rw [htext, messagePieces, parts_of_unmarked hunmarked, hall] at hink
    exact ⟨unmarked_behind_space.mp hunmarked, (unspaced_filter_visible_iff message).mp hink⟩
  · rintro ⟨hunmarked, hvisible⟩
    have hcodes : showEmoji (char ' ' :: message) = char ' ' :: message := by
      apply hemoji
      rw [messagePieces, parts_of_unmarked (unmarked_behind_space.mpr hunmarked)]
      exact List.mem_singleton_self _
    have hmessage : showEmoji message = message := (List.cons.inj hcodes).2
    refine ⟨_, error_of_unmarked hunmarked, ?_⟩
    rw [hmessage, hwanted]
    refine (unspaced_shown_error hspaced).trans (congrArg (Text.ofString "Error:" ++ ·) ?_)
    exact (unspaced_filter_visible_iff message).mpr hvisible

end Tidy.Console
