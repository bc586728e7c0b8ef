/-
# Tidy.Proofs.Json.Literals -- strings, numbers and words are read exactly

For each kind of literal two statements: what the grammar spells is read back in full, whatever follows it, and
what is read has been spelled by the grammar. A number may only be followed by something that cannot continue it.
-/

import Tidy.Proofs.Json.Found

namespace Tidy.Json

open CodePoint (char)

/-! ## Signs -/

/-- A code unit is spelled by an escape with four hexadecimal digits, and in no other way. -/
theorem SpellsSigns.unit_inv {t : Text} {n : Nat} {signs : List Sign} (h : SpellsSigns t (.unit n :: signs)) :
    ∃ a b c d rest, t = char '\\' :: char 'u' :: a :: b :: c :: d :: rest ∧
      hexNumber? a b c d = some n ∧ SpellsSigns rest signs := by
  cases h with
  | cons hsign hrest =>
    cases hsign with
    | unit hhex => exact ⟨_, _, _, _, _, rfl, hhex, hrest⟩

/-- An escape that starts with `u` spells a code unit. -/
theorem SpellsSigns.escape_u_inv {t : Text} {signs : List Sign}
    (h : SpellsSigns (char '\\' :: char 'u' :: t) signs) : ∃ n more, signs = .unit n :: more := by
  generalize hs : char '\\' :: char 'u' :: t = s at h
  cases h with
  | nil => cases hs
  | cons hsign hrest =>
    cases hsign with
    | plain _ _ hslash =>
      injection hs with hc
      exact absurd hc.symm hslash
    | short hescape =>
      injection hs with _ hs
      injection hs with he
      rw [← he] at hescape
      cases hescape
    | unit hhex => exact ⟨_, _, rfl⟩

/-- Do the signs start with the second half of the pair that `n` begins? -/
def Completes (n : Nat) (signs : List Sign) : Prop :=
  ∃ low more, signs = .unit low :: more ∧ CodePoint.isHigh n = true ∧ CodePoint.isLow low = true

theorem meaning_unit {n : Nat} {signs : List Sign} (h : ¬ Completes n signs) :
    meaning (.unit n :: signs) = CodePoint.ofNat n :: meaning signs := by
  cases signs with
  | nil => rfl
  | cons sign more =>
    cases sign with
    | point c => rfl
    | unit low =>
      rw [meaning, if_neg]
      rintro ⟨hhigh, hlow⟩
      exact h ⟨low, more, rfl, hhigh, hlow⟩

theorem meaning_pair {n low : Nat} {signs : List Sign} (hhigh : CodePoint.isHigh n = true)
    (hlow : CodePoint.isLow low = true) :
    meaning (.unit n :: .unit low :: signs) = CodePoint.ofPair n low :: meaning signs := by
  rw [meaning, if_pos ⟨hhigh, hlow⟩]

/-! ## Pairs of code units -/

theorem exists_next (tail rest : Text) : ∃ next after, tail ++ char '"' :: rest = next :: after := by
  cases tail with
  | nil => exact ⟨_, _, rfl⟩
  | cons x tail => exact ⟨_, _, rfl⟩

theorem unitAt?_eq {a b c d next : CodePoint} {rest : Text} {n : Nat} (h : hexNumber? a b c d = some n) :
    unitAt? (a :: b :: c :: d :: next :: rest) = some (n, next :: rest) := by
  rw [unitAt?, h]
  rfl

theorem unitAt?_inv {t rest : Text} {n : Nat} (h : unitAt? t = some (n, rest)) :
    ∃ a b c d, t = a :: b :: c :: d :: rest ∧ hexNumber? a b c d = some n ∧ rest ≠ [] := by
  unfold unitAt? at h
  split at h
  · rename_i a b c d next more
    obtain ⟨m, hm, heq⟩ := Option.map_eq_some_iff.mp h
    simp only [Prod.mk.injEq] at heq
    obtain ⟨rfl, rfl⟩ := heq
    exact ⟨a, b, c, d, rfl, hm, List.cons_ne_nil _ _⟩
  · cases h

theorem readUnit?_some {t rest : Text} {n : Nat} (h : unitAt? t = some (n, rest)) :
    ∃ unit, readUnit? t = some unit ∧ unit.value = n ∧ unit.rest = rest := by
  rw [← readUnit?_map] at h
  obtain ⟨unit, hunit, heq⟩ := Option.map_eq_some_iff.mp h
  simp only [Prod.mk.injEq] at heq
  exact ⟨unit, hunit, heq.1, heq.2⟩

theorem readPair_join {n low : Nat} {t rest : Text} (hhigh : CodePoint.isHigh n = true)
    (hlow : CodePoint.isLow low = true) (h : unitAt? t = some (low, rest)) :
    readPair n (char '\\' :: char 'u' :: t) = .ok (CodePoint.ofPair n low, rest) := by
  obtain ⟨unit, hunit, rfl, rfl⟩ := readUnit?_some h
  simp [readPair, hhigh, hunit, hlow]

theorem readPair_apart {n low : Nat} {t rest : Text} (hlow : ¬ CodePoint.isLow low = true)
    (h : unitAt? t = some (low, rest)) :
    readPair n (char '\\' :: char 'u' :: t) = .ok (CodePoint.ofNat n, char '\\' :: char 'u' :: t) := by
  obtain ⟨unit, hunit, rfl, rfl⟩ := readUnit?_some h
  simp [readPair, hunit, hlow]

theorem readPair_of_not_high {n : Nat} (rest : Text) (h : ¬ CodePoint.isHigh n = true) :
    readPair n rest = .ok (CodePoint.ofNat n, rest) := by
  unfold readPair
  rw [if_neg h]

theorem readPair_of_no_escape {n : Nat} {rest : Text}
    (h : ∀ more, rest ≠ char '\\' :: char 'u' :: more) : readPair n rest = .ok (CodePoint.ofNat n, rest) := by
  unfold readPair
  split
  · split
    · rename_i b u more
      rw [if_neg]
      rintro ⟨rfl, rfl⟩
      exact h more rfl
    · rfl
  · rfl

/-- The two ways in which a unit is read: joined with a low unit that follows it, or alone. -/
theorem readPair_inv {n : Nat} {rest more : Text} {c : CodePoint} (h : readPair n rest = .ok (c, more)) :
    (∃ t low, rest = char '\\' :: char 'u' :: t ∧ unitAt? t = some (low, more) ∧
        CodePoint.isHigh n = true ∧ CodePoint.isLow low = true ∧ c = CodePoint.ofPair n low) ∨
      (c = CodePoint.ofNat n ∧ more = rest ∧
        ∀ t low tail, rest = char '\\' :: char 'u' :: t → unitAt? t = some (low, tail) →
          ¬ (CodePoint.isHigh n = true ∧ CodePoint.isLow low = true)) := by
  by_cases hhigh : CodePoint.isHigh n = true
  · by_cases hescape : ∃ t, rest = char '\\' :: char 'u' :: t
    · -- a high unit looks at the escape after it, which has to be a unit
      obtain ⟨t, rfl⟩ := hescape
      cases hunit : unitAt? t with
      | none =>
        have hread : readUnit? t = none := by
          rw [← readUnit?_map, Option.map_eq_none_iff] at hunit
          exact hunit
        simp [readPair, hhigh, hread] at h
      | some found =>
        obtain ⟨low, tail⟩ := found
        by_cases hlow : CodePoint.isLow low = true
        · rw [readPair_join hhigh hlow hunit, Except.ok.injEq, Prod.mk.injEq] at h
          obtain ⟨rfl, rfl⟩ := h
          exact Or.inl ⟨t, low, rfl, hunit, hhigh, hlow, rfl⟩
        · rw [readPair_apart hlow hunit, Except.ok.injEq, Prod.mk.injEq] at h
          obtain ⟨rfl, rfl⟩ := h
          refine Or.inr ⟨rfl, rfl, ?_⟩
          intro t' low' tail' ht htail hboth
          injection ht with _ ht
          injection ht with _ ht
          rw [← ht, hunit] at htail
          cases htail
          exact hlow hboth.2
    · rw [readPair_of_no_escape fun t ht => hescape ⟨t, ht⟩, Except.ok.injEq, Prod.mk.injEq] at h
      obtain ⟨rfl, rfl⟩ := h
      exact Or.inr ⟨rfl, rfl, fun t _ _ ht _ _ => hescape ⟨t, ht⟩⟩
  · rw [readPair_of_not_high rest hhigh, Except.ok.injEq, Prod.mk.injEq] at h
    obtain ⟨rfl, rfl⟩ := h
    exact Or.inr ⟨rfl, rfl, fun _ _ _ _ _ hboth => hhigh hboth.1⟩

/-- After a unit, what follows it decides whether the two are joined. -/
theorem readPair_of_signs {n : Nat} {t : Text} {signs : List Sign} (h : SpellsSigns t signs)
    (hn : ¬ Completes n signs) (rest : Text) :
    readPair n (t ++ char '"' :: rest) = .ok (CodePoint.ofNat n, t ++ char '"' :: rest) := by
  by_cases hhigh : CodePoint.isHigh n = true
  · by_cases hescape : ∃ more, t ++ char '"' :: rest = char '\\' :: char 'u' :: more
    · -- The escape belongs to the signs, since the closing quote is no backslash.
      obtain ⟨more, hmore⟩ := hescape
      obtain ⟨t', rfl⟩ : ∃ t', t = char '\\' :: char 'u' :: t' := by
        rcases t with _ | ⟨x, _ | ⟨y, t'⟩⟩
        · simp at hmore
        · simp at hmore
        · simp only [List.cons_append, List.cons.injEq] at hmore
          exact ⟨t', by rw [hmore.1, hmore.2.1]⟩
      obtain ⟨low, signs', rfl⟩ := h.escape_u_inv
      obtain ⟨a, b, c, d, tail, ht, hhex, -⟩ := h.unit_inv
      simp only [List.cons.injEq, true_and] at ht
      subst ht
      obtain ⟨next, after, hafter⟩ := exists_next tail rest
      have hlow : ¬ CodePoint.isLow low = true := fun hlow => hn ⟨low, signs', rfl, hhigh, hlow⟩
      simp only [List.cons_append, hafter]
      exact readPair_apart hlow (unitAt?_eq hhex)
    · exact readPair_of_no_escape fun more hmore => hescape ⟨more, hmore⟩
  · exact readPair_of_not_high _ hhigh

/-! ## Strings -/

theorem found_readEscape_u {opening rest : Text} {n : Nat} {a b c d next : CodePoint}
    (h : hexNumber? a b c d = some n) :
    found (readEscape opening (char 'u' :: a :: b :: c :: d :: next :: rest)) =
      (readPair n (next :: rest)).toOption := by
  rw [found_readEscape, if_pos rfl, unitAt?_eq h]
  rfl

theorem found_readEscape_short {opening rest : Text} {e meant : CodePoint} (h : simpleEscape? e = some meant) :
    found (readEscape opening (e :: rest)) = some (meant, rest) := by
  have hu : e ≠ char 'u' := by
    rintro rfl
    cases h
  rw [found_readEscape, if_neg hu, h]
  rfl

/-- What a backslash spells is read before the rest of the string. -/
theorem found_readString_escape {opening t more : Text} {c : CodePoint}
    (h : found (readEscape opening t) = some (c, more)) :
    found (readString opening (char '\\' :: t)) =
      (found (readString opening more)).map fun r => (c :: r.1, r.2) := by
  rw [found_readString_cons, if_neg (by decide), if_pos rfl, h]
  rfl

/-- A unit that is not joined with what follows it is read alone. -/
theorem found_readString_unit {opening t rest : Text} {n : Nat} {signs : List Sign}
    (h : SpellsSigns t (.unit n :: signs)) (hn : ¬ Completes n signs)
    (ih : ∀ {t : Text}, SpellsSigns t signs →
      found (readString opening (t ++ char '"' :: rest)) = some (meaning signs, rest)) :
    found (readString opening (t ++ char '"' :: rest)) =
      some (CodePoint.ofNat n :: meaning signs, rest) := by
  obtain ⟨a, b, c, d, tail, rfl, hhex, htail⟩ := h.unit_inv
  have hpair := readPair_of_signs htail hn rest
  have hrest := ih htail
  obtain ⟨next, after, hafter⟩ := exists_next tail rest
  simp only [List.cons_append]
  rw [hafter] at hpair hrest ⊢
  have hescape : found (readEscape opening (char 'u' :: a :: b :: c :: d :: next :: after)) =
      some (CodePoint.ofNat n, next :: after) := by
    rw [found_readEscape_u hhex, hpair]
    rfl
  rw [found_readString_escape hescape, hrest]
  rfl

/-- A spelled string is read up to its closing quote. -/
theorem found_readString_of_spells (opening rest : Text) {signs : List Sign} {t : Text}
    (h : SpellsSigns t signs) :
    found (readString opening (t ++ char '"' :: rest)) = some (meaning signs, rest) := by
  fun_induction meaning signs generalizing t with
  | case1 =>
    cases h
    rw [List.nil_append, found_readString_cons, if_pos rfl]
  | case2 c signs ih =>
    cases h with
    | cons hsign hrest =>
      cases hsign with
      | plain hcontrol hquote hslash =>
        rw [List.append_assoc, List.singleton_append, found_readString_cons, if_neg hquote, if_neg hslash,
          if_neg (by omega), ih hrest]
        rfl
      | short hescape =>
        simp only [List.cons_append, List.nil_append]
        rw [found_readString_escape (found_readEscape_short hescape), ih hrest]
        rfl
  | case3 high low signs hboth ih =>
    -- two units that make a pair are read as one code point
    obtain ⟨a, b, c, d, t, rfl, hhex, ht⟩ := h.unit_inv
    obtain ⟨a', b', c', d', tail, rfl, hhex', htail⟩ := ht.unit_inv
    have hrest := ih htail
    obtain ⟨next, after, hafter⟩ := exists_next tail rest
    simp only [List.cons_append]
    rw [hafter] at hrest ⊢
    have hescape : found (readEscape opening (char 'u' :: a :: b :: c :: d :: char '\\' :: char 'u' ::
        a' :: b' :: c' :: d' :: next :: after)) = some (CodePoint.ofPair high low, next :: after) := by
      rw [found_readEscape_u hhex, readPair_join hboth.1 hboth.2 (unitAt?_eq hhex')]
      rfl
    rw [found_readString_escape hescape, hrest]
    rfl
  | case4 high low signs hnot ih =>
    -- a unit that makes no pair with the next one stands for itself
    apply found_readString_unit h _ ih
    rintro ⟨low', more, heq, hhigh, hlow⟩
    cases heq
    exact hnot ⟨hhigh, hlow⟩
  | case5 n signs hother ih =>
    apply found_readString_unit h _ ih
    rintro ⟨low, more, heq, -⟩
    exact hother low more heq

/-- What a backslash spells, before a rest that has been spelled. -/
theorem spells_escape {opening s tail t rest : Text} {e : CodePoint} {signs : List Sign}
    (h : found (readEscape opening s) = some (e, tail)) (ht : SpellsSigns t signs)
    (htail : tail = t ++ char '"' :: rest) :
    ∃ t' signs', SpellsSigns t' signs' ∧ meaning signs' = e :: meaning signs ∧
      char '\\' :: s = t' ++ char '"' :: rest := by
  cases s with
  | nil => cases h
  | cons c s =>
    rw [found_readEscape] at h
    split at h
    · rename_i hc
      obtain ⟨⟨n, more⟩, hunit, hpair⟩ := Option.bind_eq_some_iff.mp h
      obtain ⟨a, b, c', d, rfl, hhex, -⟩ := unitAt?_inv hunit
      have hpair : readPair n more = .ok (e, tail) := by
        cases hread : readPair n more with
        | error fault => rw [hread] at hpair; cases hpair
        | ok r =>
          rw [hread] at hpair
          injection hpair with hr
          rw [hr]
      rcases readPair_inv hpair with ⟨t', low, rfl, hlow, hhigh, hislow, he⟩ | ⟨he, hmore, halone⟩
      · -- two units joined
        obtain ⟨a', b', c'', d', rfl, hhex', -⟩ := unitAt?_inv hlow
        refine ⟨_, _, .cons (.unit hhex) (.cons (.unit hhex') ht), ?_, ?_⟩
        · rw [he, meaning_pair hhigh hislow]
        · rw [hc, htail]
          simp
      · -- one unit alone: the rest does not start with one that it would join
        rw [hmore] at htail
        refine ⟨_, _, .cons (.unit hhex) ht, he ▸ meaning_unit ?_, ?_⟩
        · rintro ⟨low, more', rfl, hhigh, hislow⟩
          obtain ⟨a', b', c'', d', tail', rfl, hhex', -⟩ := ht.unit_inv
          obtain ⟨next, after, hafter⟩ := exists_next tail' rest
          refine halone (a' :: b' :: c'' :: d' :: next :: after) low (next :: after) ?_
            (unitAt?_eq hhex') ⟨hhigh, hislow⟩
          rw [htail, ← hafter]
          rfl
        · rw [hc, htail]
          simp
    · obtain ⟨meant, hmeant, heq⟩ := Option.map_eq_some_iff.mp h
      simp only [Prod.mk.injEq] at heq
      obtain ⟨rfl, rfl⟩ := heq
      refine ⟨_, _, .cons (.short hmeant) ht, rfl, ?_⟩
      rw [htail]
      simp

/-- What is read as a string has been spelled. -/
theorem spells_of_found_readString {opening s rest v : Text}
    (h : found (readString opening s) = some (v, rest)) :
    ∃ t signs, SpellsSigns t signs ∧ meaning signs = v ∧ s = t ++ char '"' :: rest := by
  induction hs : s.length using Nat.strong_induction_on generalizing s v with
  | _ len ih =>
    subst hs
    cases s with
    | nil =>
      rw [found_readString_nil] at h
      cases h
    | cons c s =>
      rw [found_readString_cons] at h
      split at h
      · -- the closing quote
        rename_i hc
        simp only [Option.some.injEq, Prod.mk.injEq] at h
        obtain ⟨rfl, rfl⟩ := h
        exact ⟨[], [], .nil, rfl, by rw [hc]; rfl⟩
      · rename_i hquote
        split at h
        · rename_i hc
          obtain ⟨⟨e, tail⟩, he, hmap⟩ := Option.bind_eq_some_iff.mp h
          obtain ⟨⟨w, rest'⟩, hw, heq⟩ := Option.map_eq_some_iff.mp hmap
          simp only [Prod.mk.injEq] at heq
          obtain ⟨rfl, rfl⟩ := heq
          have hlen := length_of_found he
          obtain ⟨t, signs, ht, rfl, htail⟩ := ih tail.length (by simp only [List.length_cons]; omega) hw rfl
          subst hc
          exact spells_escape he ht htail
        · rename_i hslash
          split at h
          · cases h
          · rename_i hcontrol
            obtain ⟨⟨w, rest'⟩, hw, heq⟩ := Option.map_eq_some_iff.mp h
            simp only [Prod.mk.injEq] at heq
            obtain ⟨rfl, rfl⟩ := heq
            obtain ⟨t, signs, ht, rfl, rfl⟩ := ih s.length (by simp) hw rfl
            exact ⟨[c] ++ t, .point c :: signs, .cons (.plain (by omega) hquote hslash) ht, rfl, rfl⟩

/-! ## Numbers -/

/-- Nothing that could continue a row of digits. -/
def NoDigit (rest : Text) : Prop := ∀ c, rest.head? = some c → c.isAsciiDigit = false

/-- Nothing that could continue a number literal. -/
def Stops (rest : Text) : Prop :=
  ∀ c, rest.head? = some c →
    c.isAsciiDigit = false ∧ c ≠ char '.' ∧ ¬ (c = char 'e' ∨ c = char 'E')

theorem readDigits_append {digits rest : Text} (h : Text.IsDigits digits) (hrest : NoDigit rest) :
    readDigits (digits ++ rest) = (digits, rest) := by
  have htake : rest.takeWhile CodePoint.isAsciiDigit = [] ∧ rest.dropWhile CodePoint.isAsciiDigit = rest := by
    cases rest with
    | nil => exact ⟨rfl, rfl⟩
    | cons c rest => simp [hrest c rfl]
  rw [readDigits, List.takeWhile_append_of_pos h, List.dropWhile_append_of_pos h, htake.1, htake.2,
    List.append_nil]

theorem readDigits_spec (s : Text) :
    Text.IsDigits (readDigits s).1 ∧ s = (readDigits s).1 ++ (readDigits s).2 :=
  ⟨List.all_eq_true.mp List.all_takeWhile, List.takeWhile_append_dropWhile.symm⟩

/-- The spelling of a fraction part, with its point. -/
def fractionText (fraction : Text) : Text :=
  if fraction.isEmpty then [] else char '.' :: fraction

/-- The spelling of an exponent part. -/
def exponentText : Option (CodePoint × Text × Text) → Text
  | none => []
  | some (mark, sign, digits) => mark :: (sign ++ digits)

theorem Numeral.literal_eq (n : Numeral) :
    n.literal = (if n.negative then [char '-'] else []) ++
      (n.whole ++ (fractionText n.fraction ++ exponentText n.exponent)) := by
  unfold Numeral.literal fractionText exponentText
  simp only [List.append_assoc]
  rfl

/-- What may stand in a number besides digits. -/
def numeralMarks : List CodePoint := [char '+', char '-', char '.', char 'e', char 'E']

/-- A number is written with digits, signs, a point and a mark. -/
theorem Numeral.WellFormed.mem_literal {n : Numeral} (h : n.WellFormed) {c : CodePoint} (hc : c ∈ n.literal) :
    c.isAsciiDigit = true ∨ c ∈ numeralMarks := by
  rw [Numeral.literal_eq, List.mem_append, List.mem_append, List.mem_append] at hc
  rcases hc with hsign | hwhole | hfraction | hexponent
  · split at hsign
    · rw [List.mem_singleton.mp hsign]
      exact Or.inr (by decide)
    · cases hsign
  · rcases h.whole with hzero | ⟨-, -, hdigits⟩
    · rw [hzero] at hwhole
      rw [List.mem_singleton.mp hwhole]
      exact Or.inl rfl
    · exact Or.inl (hdigits c hwhole)
  · unfold fractionText at hfraction
    split at hfraction
    · cases hfraction
    · rcases List.mem_cons.mp hfraction with rfl | hdigit
      · exact Or.inr (by decide)
      · exact Or.inl (h.fraction c hdigit)
  · cases hshape : n.exponent with
    | none =>
      rw [hshape] at hexponent
      cases hexponent
    | some parts =>
      obtain ⟨mark, sign, digits⟩ := parts
      obtain ⟨hmark, hsign, -, hdigits⟩ := h.exponent mark sign digits hshape
      rw [hshape, exponentText, List.mem_cons, List.mem_append] at hexponent
      rcases hexponent with rfl | hin | hin
      · rcases hmark with rfl | rfl <;> exact Or.inr (by decide)
      · rcases hsign with rfl | rfl | rfl
        · cases hin
        · rw [List.mem_singleton.mp hin]
          exact Or.inr (by decide)
        · rw [List.mem_singleton.mp hin]
          exact Or.inr (by decide)
      · exact Or.inl (hdigits c hin)

theorem readWhole?_append {whole rest : Text} (h : IsWhole whole) (hrest : NoDigit rest) :
    readWhole? (whole ++ rest) = some (whole, rest) := by
  rcases h with rfl | ⟨hne, hzero, hdigits⟩
  · rfl
  · cases whole with
    | nil => exact absurd rfl hne
    | cons c digits =>
      have hc : c ≠ char '0' := fun hc => hzero (by rw [hc]; rfl)
      obtain ⟨hdigit, hdigits⟩ := Text.isDigits_cons.mp hdigits
      rw [List.cons_append, readWhole?, if_neg hc, if_pos hdigit, readDigits_append hdigits hrest]

theorem readWhole?_sound {s whole rest : Text} (h : readWhole? s = some (whole, rest)) :
    IsWhole whole ∧ s = whole ++ rest := by
  cases s with
  | nil => cases h
  | cons c s =>
    obtain ⟨hdigits, hs⟩ := readDigits_spec s
    rw [readWhole?] at h
    split at h
    · rename_i hc
      simp only [Option.some.injEq, Prod.mk.injEq] at h
      obtain ⟨rfl, rfl⟩ := h
      exact ⟨Or.inl (by rw [hc]), rfl⟩
    · rename_i hc
      split at h
      · rename_i hdigit
        simp only [Option.some.injEq, Prod.mk.injEq] at h
        obtain ⟨rfl, rfl⟩ := h
        refine ⟨Or.inr ⟨List.cons_ne_nil _ _, ?_, Text.isDigits_cons.mpr ⟨hdigit, hdigits⟩⟩, ?_⟩
        · intro hhead
          injection hhead with hhead
          exact hc hhead
        · rw [List.cons_append, ← hs]
      · cases h

theorem readFraction_append {fraction rest : Text} (h : Text.IsDigits fraction) (hrest : NoDigit rest)
    (hpoint : rest.head? ≠ some (char '.')) :
    readFraction (fractionText fraction ++ rest) = (fraction, rest) := by
  cases fraction with
  | nil =>
    show readFraction rest = ([], rest)
    rcases rest with _ | ⟨c, _ | ⟨d, rest⟩⟩
    · rfl
    · rfl
    · rw [readFraction, if_neg]
      rintro ⟨rfl, -⟩
      exact hpoint rfl
  | cons d digits =>
    have hd := (Text.isDigits_cons.mp h).1
    show readFraction (char '.' :: d :: (digits ++ rest)) = (d :: digits, rest)
    rw [readFraction, if_pos ⟨rfl, hd⟩]
    exact readDigits_append h hrest

theorem readFraction_sound (s : Text) :
    Text.IsDigits (readFraction s).1 ∧ s = fractionText (readFraction s).1 ++ (readFraction s).2 := by
  have hnone : Text.IsDigits [] ∧ s = fractionText [] ++ s := ⟨by simp [Text.IsDigits], rfl⟩
  unfold readFraction
  split
  · rename_i c d rest
    split
    · rename_i hpoint
      obtain ⟨hdigits, hs⟩ := readDigits_spec (d :: rest)
      refine ⟨hdigits, ?_⟩
      have hne : (readDigits (d :: rest)).1.isEmpty = false := by
        simp [readDigits, hpoint.2]
      rw [fractionText, hne, hpoint.1, if_neg (by decide), List.cons_append, ← hs]
    · exact hnone
  · exact hnone

theorem readSign_append {sign digits rest : Text} (h : IsSign sign) (hne : digits ≠ [])
    (hdigits : Text.IsDigits digits) :
    readSign (sign ++ (digits ++ rest)) = (sign, digits ++ rest) := by
  rcases h with rfl | rfl | rfl
  · cases digits with
    | nil => exact absurd rfl hne
    | cons d digits =>
      have hd := (Text.isDigits_cons.mp hdigits).1
      show readSign (d :: (digits ++ rest)) = ([], d :: (digits ++ rest))
      rw [readSign, if_neg]
      rintro (rfl | rfl) <;> cases hd
  · rfl
  · rfl

theorem readSign_sound (s : Text) : IsSign (readSign s).1 ∧ s = (readSign s).1 ++ (readSign s).2 := by
  unfold readSign
  split
  · exact ⟨Or.inl rfl, rfl⟩
  · split
    · rename_i hc
      rcases hc with rfl | rfl
      · exact ⟨Or.inr (Or.inl rfl), rfl⟩
      · exact ⟨Or.inr (Or.inr rfl), rfl⟩
    · exact ⟨Or.inl rfl, rfl⟩

theorem readExponent_append {e : Option (CodePoint × Text × Text)} {rest : Text} (h : IsExponent e)
    (hrest : Stops rest) : readExponent (exponentText e ++ rest) = (e, rest) := by
  match e with
  | none =>
    show readExponent rest = (none, rest)
    cases rest with
    | nil => rfl
    | cons c rest => rw [readExponent, if_neg (hrest c rfl).2.2]
  | some (mark, sign, digits) =>
    obtain ⟨hmark, hsign, hne, hdigits⟩ := h mark sign digits rfl
    show readExponent (mark :: (sign ++ digits ++ rest)) = (some (mark, sign, digits), rest)
    have hempty : digits.isEmpty = false := by simpa using hne
    rw [readExponent, if_pos hmark, List.append_assoc, readSign_append hsign hne hdigits]
    dsimp only
    rw [readDigits_append hdigits fun c hc => (hrest c hc).1, hempty]
    rfl

theorem readExponent_sound (s : Text) :
    IsExponent (readExponent s).1 ∧ s = exponentText (readExponent s).1 ++ (readExponent s).2 := by
  have hnone : IsExponent none ∧ s = exponentText none ++ s := ⟨by simp [IsExponent], rfl⟩
  unfold readExponent
  split
  · exact hnone
  · rename_i mark rest
    split
    · rename_i hmark
      obtain ⟨hsign, hs⟩ := readSign_sound rest
      obtain ⟨hdigits, hd⟩ := readDigits_spec (readSign rest).2
      dsimp only
      split
      · exact hnone
      · rename_i hne
        refine ⟨?_, ?_⟩
        · intro mark' sign' digits' heq
          simp only [Option.some.injEq, Prod.mk.injEq] at heq
          obtain ⟨rfl, rfl, rfl⟩ := heq
          exact ⟨hmark, hsign, by simpa using hne, hdigits⟩
        · show mark :: rest = mark :: ((readSign rest).1 ++ (readDigits (readSign rest).2).1 ++
            (readDigits (readSign rest).2).2)
          rw [List.append_assoc, ← hd, ← hs]
    · exact hnone

theorem noDigit_exponent {e : Option (CodePoint × Text × Text)} {rest : Text} (h : IsExponent e)
    (hrest : Stops rest) :
    NoDigit (exponentText e ++ rest) ∧ (exponentText e ++ rest).head? ≠ some (char '.') := by
  match e with
  | none =>
    refine ⟨fun c hc => (hrest c hc).1, fun hc => ?_⟩
    exact (hrest _ hc).2.1 rfl
  | some (mark, sign, digits) =>
    obtain ⟨hmark, -⟩ := h mark sign digits rfl
    refine ⟨fun c hc => ?_, fun hc => ?_⟩
    · obtain rfl : mark = c := by injection hc
      rcases hmark with rfl | rfl <;> rfl
    · obtain rfl : mark = char '.' := by injection hc
      rcases hmark with hmark | hmark <;> cases hmark

theorem noDigit_fraction (fraction : Text) {rest : Text} (hrest : NoDigit rest) :
    NoDigit (fractionText fraction ++ rest) := by
  cases fraction with
  | nil => exact hrest
  | cons d digits =>
    intro c hc
    obtain rfl : char '.' = c := by injection hc
    rfl

theorem isWhole_head {whole : Text} (h : IsWhole whole) :
    ∃ c rest, whole = c :: rest ∧ c.isAsciiDigit = true := by
  rcases h with rfl | ⟨hne, -, hdigits⟩
  · exact ⟨_, _, rfl, rfl⟩
  · cases whole with
    | nil => exact absurd rfl hne
    | cons c rest => exact ⟨c, rest, rfl, (Text.isDigits_cons.mp hdigits).1⟩

/-- A numeral from its whole part and what follows it. -/
def numeralFrom (negative : Bool) (w : Text × Text) : Numeral × Text :=
  (⟨negative, w.1, (readFraction w.2).1, (readExponent (readFraction w.2).2).1⟩,
    (readExponent (readFraction w.2).2).2)

theorem readNumeral?_minus (rest : Text) :
    readNumeral? (char '-' :: rest) = (readWhole? rest).map (numeralFrom true) := by
  unfold readNumeral?
  simp only [if_true]
  rfl

theorem readNumeral?_plain {s : Text} (h : s.head? ≠ some (char '-')) :
    readNumeral? s = (readWhole? s).map (numeralFrom false) := by
  unfold readNumeral?
  cases s with
  | nil => rfl
  | cons c rest =>
    have hc : c ≠ char '-' := fun hc => h (by rw [hc]; rfl)
    simp only [if_neg hc]
    rfl

theorem numeralFrom_append {negative : Bool} {whole fraction rest : Text}
    {exponent : Option (CodePoint × Text × Text)} (hfraction : Text.IsDigits fraction)
    (hexponent : IsExponent exponent) (hrest : Stops rest) :
    numeralFrom negative (whole, fractionText fraction ++ (exponentText exponent ++ rest)) =
      (⟨negative, whole, fraction, exponent⟩, rest) := by
  obtain ⟨hdigit, hpoint⟩ := noDigit_exponent hexponent hrest
  rw [numeralFrom, readFraction_append hfraction hdigit hpoint]
  dsimp only
  rw [readExponent_append hexponent hrest]

/-- A well-formed literal is read in full. -/
theorem readNumeral?_append {n : Numeral} {rest : Text} (h : n.WellFormed) (hrest : Stops rest) :
    readNumeral? (n.literal ++ rest) = some (n, rest) := by
  obtain ⟨negative, whole, fraction, exponent⟩ := n
  obtain ⟨hwhole, hfraction, hexponent⟩ := h
  dsimp only at hwhole hfraction hexponent
  have hread := readWhole?_append hwhole
    (noDigit_fraction fraction (noDigit_exponent hexponent hrest).1)
  rw [Numeral.literal_eq]
  simp only [List.append_assoc]
  cases negative with
  | true =>
    show readNumeral? (char '-' :: (whole ++ (fractionText fraction ++ (exponentText exponent ++ rest)))) = _
    rw [readNumeral?_minus, hread, Option.map_some, numeralFrom_append hfraction hexponent hrest]
  | false =>
    show readNumeral? (whole ++ (fractionText fraction ++ (exponentText exponent ++ rest))) = _
    rw [readNumeral?_plain, hread, Option.map_some, numeralFrom_append hfraction hexponent hrest]
    obtain ⟨c, digits, rfl, hc⟩ := isWhole_head hwhole
    intro hminus
    obtain rfl : c = char '-' := by injection hminus
    cases hc

/-- What is read as a number after its sign is a well-formed literal. -/
theorem numeralFrom_sound {negative : Bool} {s rest : Text} {n : Numeral}
    (h : (readWhole? s).map (numeralFrom negative) = some (n, rest)) :
    n.WellFormed ∧ (if negative then [char '-'] else []) ++ s = n.literal ++ rest := by
  obtain ⟨⟨whole, more⟩, hwhole, heq⟩ := Option.map_eq_some_iff.mp h
  obtain ⟨hw, hs⟩ := readWhole?_sound hwhole
  obtain ⟨hf, hmore⟩ := readFraction_sound more
  obtain ⟨he, hrest⟩ := readExponent_sound (readFraction more).2
  simp only [numeralFrom, Prod.mk.injEq] at heq
  obtain ⟨rfl, rfl⟩ := heq
  refine ⟨⟨hw, hf, he⟩, ?_⟩
  rw [Numeral.literal_eq]
  simp only [List.append_assoc]
  rw [← hrest, ← hmore, ← hs]

/-- What is read as a number is a well-formed literal. -/
theorem readNumeral?_sound {s rest : Text} {n : Numeral} (h : readNumeral? s = some (n, rest)) :
    n.WellFormed ∧ s = n.literal ++ rest := by
  by_cases hminus : s.head? = some (char '-')
  · obtain ⟨tail, rfl⟩ : ∃ tail, s = char '-' :: tail := by
      cases s with
      | nil => cases hminus
      | cons c tail =>
        injection hminus with hc
        exact ⟨tail, by rw [hc]⟩
    rw [readNumeral?_minus] at h
    exact numeralFrom_sound h
  · rw [readNumeral?_plain hminus] at h
    exact numeralFrom_sound h

/-! ## Words -/

theorem after?_sound {lead t rest : Text} (h : Text.after? lead t = some rest) : t = lead ++ rest := by
  induction lead generalizing t with
  | nil =>
    injection h
  | cons a lead ih =>
    cases t with
    | nil => cases h
    | cons c t =>
      rw [Text.after?] at h
      split at h
      · rename_i hc
        rw [List.cons_append, ← ih h, hc]
      · cases h

theorem readWord?_eq_none {table : List (Text × Json)} {s : Text}
    (h : ∀ entry ∈ table, Text.after? entry.1 s = none) : readWord? table s = none := by
  rw [readWord?, List.findSome?_eq_none_iff]
  rintro ⟨word, value⟩ hentry
  dsimp only
  rw [h (word, value) hentry]
  simp

theorem readWord?_sound {table : List (Text × Json)} {s w rest : Text} {v : Json}
    (h : readWord? table s = some (w, v, rest)) : (w, v) ∈ table ∧ s = w ++ rest := by
  obtain ⟨entry, hentry, heq⟩ := List.exists_of_findSome?_eq_some h
  dsimp only at heq
  split at heq
  · cases heq
  · obtain ⟨r, hr, htriple⟩ := Option.map_eq_some_iff.mp heq
    simp only [Prod.mk.injEq] at htriple
    obtain ⟨rfl, rfl, rfl⟩ := htriple
    exact ⟨hentry, after?_sound hr⟩

end Tidy.Json
