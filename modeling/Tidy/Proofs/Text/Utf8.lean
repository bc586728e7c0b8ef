/-
# Tidy.Proofs.Text.Utf8 -- what is written to a file is read from it

The UTF-8 form of a character has one to four bytes, and in each case its first byte tells how many follow, so that a
text is read back one character at a time (`ofUtf8_utf8Bytes`). A file is read with all line ends as line feeds; a text
that has no other line ends is read as it was written (`ofFile_of_toUtf8`).
-/

import Tidy.Directory
import Tidy.Proofs.Text.LineEnds
import Tidy.Proofs.Text.Whole

namespace Tidy.Text

/-! ## Bytes and their numbers -/

theorem toNat_toUInt8 {n : Nat} (h : n < 256) : n.toUInt8.toNat = n :=
  UInt8.toNat_ofNat_of_lt' h

theorem continuations?_eq (b : UInt8) : continuations? b =
    if b.toNat < 0x80 then some 0
    else if b.toNat < 0xC2 then none
    else if b.toNat < 0xE0 then some 1
    else if b.toNat < 0xF0 then some 2
    else if b.toNat < 0xF5 then some 3
    else none := by
  simp only [continuations?, UInt8.lt_iff_toNat_lt]
  rfl

theorem isContinuation_iff (b : UInt8) : isContinuation b = true ↔ 0x80 ≤ b.toNat ∧ b.toNat < 0xC0 := by
  simp only [isContinuation, Bool.and_eq_true, decide_eq_true_eq, UInt8.le_iff_toNat_le, UInt8.lt_iff_toNat_lt]
  rfl

theorem mayFollow_iff (first second : UInt8) : mayFollow first second = true ↔
    (0x80 ≤ second.toNat ∧ second.toNat < 0xC0) ∧ (first.toNat = 0xE0 → 0xA0 ≤ second.toNat) ∧
      (first.toNat = 0xED → second.toNat < 0xA0) ∧ (first.toNat = 0xF0 → 0x90 ≤ second.toNat) ∧
      (first.toNat = 0xF4 → second.toNat < 0x90) := by
  have hor : ∀ (k : UInt8) (p : Prop) [Decidable p], (first != k || decide p) = true ↔ (first.toNat = k.toNat → p) := by
    intro k p _
    rw [Bool.or_eq_true, decide_eq_true_eq, bne_iff_ne, UInt8.toNat_inj]
    by_cases hfirst : first = k <;> simp [hfirst]
  simp only [mayFollow, Bool.and_eq_true, isContinuation_iff, hor, UInt8.le_iff_toNat_le, UInt8.lt_iff_toNat_lt,
    and_assoc]
  rfl

/-- The bytes after the first one have six bits of the number each. -/
theorem toNat_trail (m : Nat) : (0x80 + m % 0x40).toUInt8.toNat = 0x80 + m % 0x40 :=
  toNat_toUInt8 (by omega)

theorem isContinuation_trail (m : Nat) : isContinuation (0x80 + m % 0x40).toUInt8 = true := by
  rw [isContinuation_iff, toNat_trail]
  omega

/-! ## One character -/

variable {n : Nat} (offset : Nat) (rest : List UInt8)

theorem ofUtf8From_one (h : n < 0x80) : ofUtf8From offset (utf8Bytes n ++ rest) =
    (ofUtf8From (offset + 1) rest).map (CodePoint.char (Char.ofNat n) :: ·) := by
  have hbyte : n.toUInt8.toNat = n := toNat_toUInt8 (by omega)
  have hlead : continuations? n.toUInt8 = some 0 := by
    rw [continuations?_eq, hbyte, if_pos h]
  rw [utf8Bytes, if_pos h, List.singleton_append, ofUtf8From, hlead]
  simp only [hbyte]
  rfl

theorem ofUtf8From_two (hlow : 0x80 ≤ n) (h : n < 0x800) : ofUtf8From offset (utf8Bytes n ++ rest) =
    (ofUtf8From (offset + 2) rest).map (CodePoint.char (Char.ofNat n) :: ·) := by
  have hfirst : (0xC0 + n / 0x40).toUInt8.toNat = 0xC0 + n / 0x40 := toNat_toUInt8 (by omega)
  have hsecond := toNat_trail n
  rw [utf8Bytes, if_neg (by omega), if_pos h]
  generalize (0xC0 + n / 0x40).toUInt8 = first at hfirst
  generalize (0x80 + n % 0x40).toUInt8 = second at hsecond
  have hlead : continuations? first = some 1 := by
    rw [continuations?_eq, hfirst, if_neg (by omega), if_neg (by omega), if_pos (by omega)]
  have hfollow : mayFollow first second = true := by
    rw [mayFollow_iff]
    omega
  have hnumber : utf8Number first [second] = n := by
    simp only [utf8Number, List.length_singleton, List.foldl_cons, List.foldl_nil, hfirst, hsecond]
    omega
  rw [List.cons_append, List.singleton_append, ofUtf8From, hlead]
  simp only [hfollow, hnumber]
  rfl

theorem ofUtf8From_three (hlow : 0x800 ≤ n) (h : n < 0x10000) (hsurrogate : n < 0xD800 ∨ 0xE000 ≤ n) :
    ofUtf8From offset (utf8Bytes n ++ rest) =
      (ofUtf8From (offset + 3) rest).map (CodePoint.char (Char.ofNat n) :: ·) := by
  have hfirst : (0xE0 + n / 0x1000).toUInt8.toNat = 0xE0 + n / 0x1000 := toNat_toUInt8 (by omega)
  have hsecond := toNat_trail (n / 0x40)
  have hthird := toNat_trail n
  have hthirdIs := isContinuation_trail n
  rw [utf8Bytes, if_neg (by omega), if_neg (by omega), if_pos h]
  -- from here on the bytes are known by their numbers only
  generalize (0xE0 + n / 0x1000).toUInt8 = first at hfirst
  generalize (0x80 + n / 0x40 % 0x40).toUInt8 = second at hsecond
  generalize (0x80 + n % 0x40).toUInt8 = third at hthird hthirdIs
  have hlead : continuations? first = some 2 := by
    rw [continuations?_eq, hfirst, if_neg (by omega), if_neg (by omega), if_neg (by omega), if_pos (by omega)]
  have hfollow : mayFollow first second = true := by
    rw [mayFollow_iff]
    omega
  have hnumber : utf8Number first [second, third] = n := by
    simp only [utf8Number, List.length_cons, List.length_nil, List.foldl_cons, List.foldl_nil, hfirst, hsecond, hthird]
    omega
  simp only [List.cons_append, List.nil_append]
  rw [ofUtf8From, hlead]
  simp only [hfollow, hthirdIs, hnumber]
  rfl

theorem ofUtf8From_four (hlow : 0x10000 ≤ n) (h : n < 0x110000) : ofUtf8From offset (utf8Bytes n ++ rest) =
    (ofUtf8From (offset + 4) rest).map (CodePoint.char (Char.ofNat n) :: ·) := by
  have hfirst : (0xF0 + n / 0x40000).toUInt8.toNat = 0xF0 + n / 0x40000 := toNat_toUInt8 (by omega)
  have hsecond := toNat_trail (n / 0x1000)
  have hthird := toNat_trail (n / 0x40)
  have hthirdIs := isContinuation_trail (n / 0x40)
  have hfourth := toNat_trail n
  have hfourthIs := isContinuation_trail n
  rw [utf8Bytes, if_neg (by omega), if_neg (by omega), if_neg (by omega)]
  generalize (0xF0 + n / 0x40000).toUInt8 = first at hfirst
  generalize (0x80 + n / 0x1000 % 0x40).toUInt8 = second at hsecond
  generalize (0x80 + n / 0x40 % 0x40).toUInt8 = third at hthird hthirdIs
  generalize (0x80 + n % 0x40).toUInt8 = fourth at hfourth hfourthIs
  have hlead : continuations? first = some 3 := by
    rw [continuations?_eq, hfirst, if_neg (by omega), if_neg (by omega), if_neg (by omega), if_neg (by omega),
      if_pos (by omega)]
  have hfollow : mayFollow first second = true := by
    rw [mayFollow_iff]
    omega
  have hnumber : utf8Number first [second, third, fourth] = n := by
    simp only [utf8Number, List.length_cons, List.length_nil, List.foldl_cons, List.foldl_nil, hfirst, hsecond, hthird,
      hfourth]
    omega
  simp only [List.cons_append, List.nil_append]
  rw [ofUtf8From, hlead]
  simp only [hfollow, hthirdIs, hfourthIs, hnumber]
  rfl

/-- The bytes of a character are read as the character. -/
theorem ofUtf8From_char (c : Char) : ∃ next, ofUtf8From offset (utf8Bytes c.toNat ++ rest) =
    (ofUtf8From next rest).map (CodePoint.char c :: ·) := by
  -- a character is no surrogate, which the form with three bytes needs
  have hvalid : c.toNat < 0xD800 ∨ 0xDFFF < c.toNat ∧ c.toNat < 0x110000 := c.valid
  have hchar : Char.ofNat c.toNat = c := Char.ofNat_toNat c
  rcases Nat.lt_or_ge c.toNat 0x80 with h | h
  · have hone := ofUtf8From_one offset rest h
    rw [hchar] at hone
    exact ⟨_, hone⟩
  rcases Nat.lt_or_ge c.toNat 0x800 with h' | h'
  · have htwo := ofUtf8From_two offset rest h h'
    rw [hchar] at htwo
    exact ⟨_, htwo⟩
  rcases Nat.lt_or_ge c.toNat 0x10000 with h'' | h''
  · have hthree := ofUtf8From_three offset rest h' h'' (by omega)
    rw [hchar] at hthree
    exact ⟨_, hthree⟩
  · have hfour := ofUtf8From_four offset rest h'' (by omega)
    rw [hchar] at hfour
    exact ⟨_, hfour⟩

/-! ## Texts -/

theorem ofUtf8From_utf8Bytes {t : Text} (h : t.hasSurrogate = false) :
    ofUtf8From offset (t.flatMap fun c => utf8Bytes c.toNat) = .ok t := by
  induction t generalizing offset with
  | nil => rfl
  | cons c t ih =>
    rw [hasSurrogate_cons, Bool.or_eq_false_iff] at h
    cases c with
    | surrogate unit => cases h.1
    | char c =>
      obtain ⟨next, hnext⟩ := ofUtf8From_char offset (t.flatMap fun c => utf8Bytes c.toNat) c
      rw [List.flatMap_cons]
      refine hnext.trans ?_
      rw [ih next h.2]
      rfl

/-- The bytes that a text is written as are read as the text. -/
theorem ofUtf8_of_toUtf8? {t : Text} {bytes : List UInt8} (h : toUtf8? t = some bytes) : ofUtf8 bytes = .ok t := by
  unfold toUtf8? at h
  split at h
  · cases h
  · rename_i hwhole
    obtain rfl := Option.some.inj h
    exact ofUtf8From_utf8Bytes 0 (by simpa using hwhole)

/-! ## Files -/

/-- A text that was read from a file has no line ends but line feeds. -/
theorem plainEnds_ofFile {content : List UInt8} {t : Text} (h : ofFile content = .ok t) : PlainEnds t := by
  unfold ofFile at h
  cases hread : ofUtf8 content with
  | error fault =>
    rw [hread] at h
    cases h
  | ok s =>
    rw [hread] at h
    obtain rfl := Except.ok.inj h
    exact plainEnds_unifyNewlines s

/-- A file that a text was written to is read as the text. -/
theorem ofFile_of_toUtf8? {t : Text} (h : PlainEnds t) {bytes : List UInt8} (hbytes : toUtf8? t = some bytes) :
    ofFile bytes = .ok t := by
  rw [ofFile, ofUtf8_of_toUtf8? hbytes]
  exact congrArg Except.ok (unifyNewlines_of_plainEnds h)

end Tidy.Text
