/-
# Tidy.Proofs.Json.Found -- what the JSON reader finds

The functions of the reader give back a value with a proof that the rest is shorter, or a fault. `found` forgets
the proof and the kind of the fault. One equation a function says what it finds in terms of what its parts find,
and all that is proved about the reader is proved from these equations.
-/

import Tidy.Proofs.Json.Grammar

namespace Tidy.Json

open CodePoint (char)

variable {α : Type} {s : Text}

/-- The value that was read and what follows it, if anything was read. -/
def found : Except Fault (Read α s) → Option (α × Text)
  | .ok r => some (r.value, r.rest)
  | .error _ => none

theorem found_ok (r : Read α s) : found (.ok r) = some (r.value, r.rest) := rfl

/-- What is left is shorter. -/
theorem length_of_found {x : Except Fault (Read α s)} {v : α} {rest : Text}
    (h : found x = some (v, rest)) : rest.length < s.length := by
  cases x with
  | error fault => cases h
  | ok r =>
    simp only [found, Option.some.injEq, Prod.mk.injEq] at h
    rw [← h.2]
    exact r.shorter

/-- What follows the next code point is shorter. -/
theorem length_skipGap_lt {s rest : Text} {c : CodePoint} (h : skipGap s = c :: rest) :
    (skipGap rest).length < s.length := by
  have hlength := length_skipGap_le s
  rw [h] at hlength
  exact Nat.lt_of_le_of_lt (length_skipGap_le rest) hlength

/-! ## Strings -/

/-- The code unit whose four digits stand at the start, where something has to follow. -/
def unitAt? : Text → Option (Nat × Text)
  | a :: b :: c :: d :: next :: rest => (hexNumber? a b c d).map fun n => (n, next :: rest)
  | _ => none

theorem readUnit?_map (t : Text) : (readUnit? t).map (fun r => (r.value, r.rest)) = unitAt? t := by
  unfold readUnit?
  split
  · rw [Option.map_map]
    rfl
  · rename_i hshort
    rw [unitAt?]
    · rfl
    · exact hshort

theorem found_readEscape (opening : Text) (e : CodePoint) (rest : Text) :
    found (readEscape opening (e :: rest)) =
      if e = char 'u' then
        (unitAt? rest).bind fun unit => (readPair unit.1 unit.2).toOption
      else (simpleEscape? e).map fun meant => (meant, rest) := by
  rw [readEscape, ← readUnit?_map]
  split
  · cases readUnit? rest with
    | none => rfl
    | some unit =>
      dsimp only [Option.map_some, Option.bind_some]
      split
      · rename_i fault hpair
        rw [hpair]
        rfl
      · rename_i c more hpair
        simp only [hpair]
        rfl
  · cases simpleEscape? e <;> rfl

theorem found_readString_nil (opening : Text) : found (readString opening []) = none := by
  rw [readString]
  rfl

theorem found_readString_cons (opening : Text) (c : CodePoint) (rest : Text) :
    found (readString opening (c :: rest)) =
      if c = char '"' then some ([], rest)
      else if c = char '\\' then
        (found (readEscape opening rest)).bind fun e =>
          (found (readString opening e.2)).map fun more => (e.1 :: more.1, more.2)
      else if c.toNat < 0x20 then none
      else (found (readString opening rest)).map fun more => (c :: more.1, more.2) := by
  rw [readString]
  split
  · rfl
  · split
    · cases readEscape opening rest with
      | error fault => rfl
      | ok e =>
        rw [found_ok, Option.bind_some]
        dsimp only
        cases readString opening e.rest <;> rfl
    · split
      · rfl
      · cases readString opening rest <;> rfl

/-! ## Values -/

theorem found_readScalar (s : Text) :
    found (readScalar .strict s) =
      match readWord? keywords s with
      | some (_, value, rest) => some (value, rest)
      | none =>
        if (readWord? constants s).isSome then none
        else (readNumeral? s).bind fun n => (n.1.value .strict).toOption.map fun v => (v, n.2) := by
  unfold readScalar
  split
  · rename_i hword
    simp only [hword]
    rfl
  · rename_i hword
    simp only [hword]
    split
    · rename_i hconstant
      simp only [hconstant]
      rfl
    · rename_i hconstant
      simp only [hconstant]
      split
      · rename_i n rest hnumeral
        simp only [hnumeral, Option.isSome_none, Bool.false_eq_true, if_false, Option.bind_some]
        cases n.value .strict <;> rfl
      · rename_i hnumeral
        simp only [hnumeral]
        rfl

theorem found_readScalar_word (d : Dialect) {s word rest : Text} {v : Json}
    (h : readWord? keywords s = some (word, v, rest)) : found (readScalar d s) = some (v, rest) := by
  unfold readScalar
  split
  · rename_i h'
    obtain ⟨rfl, rfl, rfl⟩ : word = _ ∧ v = _ ∧ rest = _ := by simpa using h.symm.trans h'
    rfl
  · rename_i h'
    rw [h] at h'
    cases h'

theorem found_readScalar_numeral (d : Dialect) {s rest : Text} {n : Numeral} (hkeyword : readWord? keywords s = none)
    (hconstant : readWord? constants s = none) (h : readNumeral? s = some (n, rest)) :
    found (readScalar d s) = (n.value d).toOption.map fun v => (v, rest) := by
  unfold readScalar
  split
  · rename_i h'
    rw [hkeyword] at h'
    cases h'
  · split
    · rename_i h'
      rw [hconstant] at h'
      cases h'
    · split
      · rename_i h'
        obtain ⟨rfl, rfl⟩ : n = _ ∧ rest = _ := by simpa using h.symm.trans h'
        cases n.value d <;> rfl
      · rename_i h'
        rw [h] at h'
        cases h'

/-- A number of JSON proper has the same value in every dialect. -/
theorem Numeral.value_of_strict (d : Dialect) {n : Numeral} {v : Json} (h : n.value .strict = .ok v) :
    n.value d = .ok v := by
  unfold Numeral.value at h ⊢
  split at h
  · rename_i hinteger
    rw [if_pos hinteger]
    exact h
  · rename_i hinteger
    rw [if_neg hinteger]
    dsimp only at h ⊢
    split at h
    · rename_i hfinite
      rw [if_pos]
      · exact h
      · simpa [Dialect.strict] using Or.inl hfinite
    · cases h

theorem found_readValue_nil (d : Dialect) (room : Nat) : found (readValue d room []) = none := by
  rw [readValue]
  rfl

theorem found_readValue_string (d : Dialect) (room : Nat) (rest : Text) :
    found (readValue d room (char '"' :: rest)) =
      (found (readString (char '"' :: rest) rest)).map fun r => (.str r.1, r.2) := by
  rw [readValue.eq_def]
  dsimp only
  rw [if_pos rfl]
  cases readString (char '"' :: rest) rest <;> rfl

/-- What an array or an object is behind its opening mark: nothing up to the closing mark, or what is inside. -/
def foundInside (close : CodePoint) (empty : Json) (whole : α → Json) (inside : Text → Option (α × Text)) (s : Text) :
    Option (Json × Text) :=
  match skipGap s with
  | [] => none
  | c :: more => if c = close then some (empty, more) else (inside (c :: more)).map fun r => (whole r.1, r.2)

theorem foundInside_eq_some {close : CodePoint} {empty v : Json} {whole : α → Json}
    {inside : Text → Option (α × Text)} {rest : Text} (h : foundInside close empty whole inside s = some (v, rest)) :
    (skipGap s = close :: rest ∧ v = empty) ∨ ∃ a, inside (skipGap s) = some (a, rest) ∧ v = whole a := by
  unfold foundInside at h
  split at h
  · cases h
  rename_i c more hskip
  rw [hskip]
  split at h
  · rename_i hc
    rw [Option.some.injEq, Prod.mk.injEq] at h
    obtain ⟨rfl, rfl⟩ := h
    exact Or.inl ⟨by rw [hc], rfl⟩
  · obtain ⟨⟨a, tail⟩, hinside, hpair⟩ := Option.map_eq_some_iff.mp h
    rw [Prod.mk.injEq] at hpair
    obtain ⟨rfl, rfl⟩ := hpair
    exact Or.inr ⟨a, hinside, rfl⟩

theorem found_readValue_array (d : Dialect) (room : Nat) (rest : Text) :
    found (readValue d (room + 1) (char '[' :: rest)) =
      foundInside (char ']') (.arr []) .arr (fun t => found (readItems d room t)) rest := by
  rw [readValue, if_neg (by decide), if_pos rfl, foundInside]
  dsimp only
  split
  · rename_i hs
    simp only [hs]
    rfl
  · rename_i c more hs
    simp only [hs]
    split
    · rfl
    · cases readItems d room (c :: more) <;> rfl

theorem found_readValue_object (d : Dialect) (room : Nat) (rest : Text) :
    found (readValue d (room + 1) (char '{' :: rest)) =
      foundInside (char '}') (.obj []) .ofMembers (fun t => found (readMembers d room t)) rest := by
  rw [readValue, if_neg (by decide), if_neg (by decide), if_pos rfl, foundInside]
  dsimp only
  split
  · rename_i hs
    simp only [hs]
    rfl
  · rename_i c more hs
    simp only [hs]
    split
    · rfl
    · cases readMembers d room (c :: more) <;> rfl

/-- No array or object is opened where there is no room. -/
theorem found_readValue_full (d : Dialect) {c : CodePoint} (hc : c = char '[' ∨ c = char '{') (rest : Text) :
    found (readValue d 0 (c :: rest)) = none := by
  rw [readValue.eq_def]
  rcases hc with rfl | rfl
  · rfl
  · rfl

theorem found_readValue_scalar (d : Dialect) (room : Nat) {c : CodePoint} (rest : Text)
    (hquote : c ≠ char '"') (harray : c ≠ char '[') (hobject : c ≠ char '{') :
    found (readValue d room (c :: rest)) = found (readScalar d (c :: rest)) := by
  rw [readValue.eq_def]
  dsimp only
  rw [if_neg hquote, if_neg harray, if_neg hobject]

/-- A row up to its closing mark: the first of it, and behind a comma what `others` finds. -/
def foundRow (close : CodePoint) (first : Option (α × Text)) (others : Text → Option (List α × Text)) :
    Option (List α × Text) :=
  first.bind fun one =>
    match skipGap one.2 with
    | [] => none
    | c :: rest =>
      if c = close then some ([one.1], rest)
      else if c = char ',' then (others (skipGap rest)).map fun more => (one.1 :: more.1, more.2)
      else none

theorem foundRow_last {close : CodePoint} {first : Option (α × Text)} {others : Text → Option (List α × Text)} {a : α}
    {after rest : Text} (hfirst : first = some (a, after)) (hafter : skipGap after = close :: rest) :
    foundRow close first others = some ([a], rest) := by
  rw [hfirst, foundRow, Option.bind_some, hafter]
  exact if_pos rfl

theorem foundRow_cons {close : CodePoint} (hclose : char ',' ≠ close) {first : Option (α × Text)}
    {others : Text → Option (List α × Text)} {a : α} {as : List α} {after more rest : Text}
    (hfirst : first = some (a, after)) (hafter : skipGap after = char ',' :: more)
    (hothers : others (skipGap more) = some (as, rest)) :
    foundRow close first others = some (a :: as, rest) := by
  rw [hfirst, foundRow, Option.bind_some, hafter]
  dsimp only
  rw [if_neg hclose, if_pos rfl, hothers, Option.map_some]

theorem foundRow_eq_some {close : CodePoint} {first : Option (α × Text)} {others : Text → Option (List α × Text)}
    {as : List α} {rest : Text} (h : foundRow close first others = some (as, rest)) :
    ∃ a after, first = some (a, after) ∧
      ((skipGap after = close :: rest ∧ as = [a]) ∨
        ∃ more bs, skipGap after = char ',' :: more ∧ others (skipGap more) = some (bs, rest) ∧ as = a :: bs) := by
  obtain ⟨⟨a, after⟩, hfirst, h⟩ := Option.bind_eq_some_iff.mp h
  refine ⟨a, after, hfirst, ?_⟩
  split at h
  · cases h
  rename_i c more hskip
  dsimp only at hskip h
  rw [hskip]
  split at h
  · rename_i hc
    rw [Option.some.injEq, Prod.mk.injEq] at h
    obtain ⟨rfl, rfl⟩ := h
    exact Or.inl ⟨by rw [hc], rfl⟩
  split at h
  · rename_i hc
    obtain ⟨⟨bs, last⟩, hothers, hpair⟩ := Option.map_eq_some_iff.mp h
    rw [Prod.mk.injEq] at hpair
    obtain ⟨rfl, rfl⟩ := hpair
    exact Or.inr ⟨more, bs, by rw [hc], hothers, rfl⟩
  · cases h

theorem found_readItems (d : Dialect) (room : Nat) (s : Text) :
    found (readItems d room s) =
      foundRow (char ']') (found (readValue d room s)) fun t => found (readItems d room t) := by
  rw [readItems, foundRow]
  cases readValue d room s with
  | error fault => rfl
  | ok item =>
    rw [found_ok, Option.bind_some]
    dsimp only
    split
    · rename_i hs
      simp only [hs]
      rfl
    · rename_i c rest hs
      simp only [hs]
      split
      · rfl
      · split
        · cases readItems d room (skipGap rest) <;> rfl
        · rfl

/-- The member at the start of a text, and what follows its value. -/
def foundMember (d : Dialect) (room : Nat) : Text → Option ((Text × Json) × Text)
  | [] => none
  | q :: inside =>
    if q = char '"' then
      (found (readString (q :: inside) inside)).bind fun name =>
        match skipGap name.2 with
        | [] => none
        | c :: after =>
          if c = char ':' then
            (found (readValue d room (skipGap after))).map fun value => ((name.1, value.1), value.2)
          else none
    else none

/-- Members are read as items are, with a member in place of a value. -/
theorem found_readMembers (d : Dialect) (room : Nat) (s : Text) :
    found (readMembers d room s) =
      foundRow (char '}') (foundMember d room s) fun t => found (readMembers d room t) := by
  -- each match of the reader carries a proof that its rest is shorter, so they are opened one by one
  rw [readMembers.eq_def, foundRow, foundMember.eq_def]
  cases s with
  | nil => rfl
  | cons q inside =>
    dsimp only
    split
    swap
    · rfl
    cases readString (q :: inside) inside with
    | error fault => rfl
    | ok name =>
      rw [found_ok, Option.bind_some]
      dsimp only
      split
      · rename_i hn
        simp only [hn]
        rfl
      rename_i c after hn
      simp only [hn]
      split
      swap
      · rfl
      cases readValue d room (skipGap after) with
      | error fault => rfl
      | ok value =>
        rw [found_ok, Option.map_some, Option.bind_some]
        dsimp only
        split
        · rename_i hv
          simp only [hv]
          rfl
        rename_i e rest hv
        simp only [hv]
        split
        · rfl
        split
        · cases readMembers d room (skipGap rest) <;> rfl
        · rfl

/-- Members start with a quotation mark. -/
theorem found_readMembers_ne_none {d : Dialect} {room : Nat} {s : Text}
    (h : found (readMembers d room s) ≠ none) : ∃ inside, s = char '"' :: inside := by
  rw [found_readMembers, foundRow, foundMember.eq_def] at h
  cases s with
  | nil => exact absurd rfl h
  | cons q inside =>
    dsimp only at h
    split at h
    · rename_i hq
      exact ⟨inside, by rw [hq]⟩
    · exact absurd rfl h

end Tidy.Json
