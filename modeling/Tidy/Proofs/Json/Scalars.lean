/-
# Tidy.Proofs.Json.Scalars -- what the writer writes for strings and numbers

The text that is written for a string, an integer or a finite floating point number spells that value. For
strings this is a fact about one code point at a time. For floating point numbers the digits that are written
read back as the number (`shortest_readsBack`), and each of the four notations of `decimalText` is a literal for
these digits.
-/

import Tidy.Json.Writer
import Tidy.Proofs.Json.Literals
import Tidy.Proofs.Number.ReadBack

namespace Tidy.Json

open CodePoint (char)

/-! ## Strings -/

theorem ofNat_toNat_of_lt {c : CodePoint} (h : c.toNat < 0x20) : CodePoint.ofNat c.toNat = c := by
  cases c with
  | char c =>
    have hvalid : c.toNat.isValidChar := c.valid
    show (CodePoint.ofNat? c.toNat).getD _ = _
    rw [CodePoint.ofNat?, if_pos hvalid, Option.getD_some, Char.ofNat_toNat]
  | surrogate u =>
    have hbig : 0xD800 ≤ (CodePoint.surrogate u).toNat := Nat.le_add_right _ _
    omega

theorem hex_of_lt : ∀ n < 0x20,
    Text.hex 4 n = [char '0', char '0', char (Nat.digitChar (n / 16)), char (Nat.digitChar (n % 16))] ∧
    hexNumber? (char '0') (char '0') (char (Nat.digitChar (n / 16))) (char (Nat.digitChar (n % 16))) = some n := by
  decide

/-- The sign that a code point is written as: control characters without a short escape go by their number. -/
theorem spellsSign_escaped (c : CodePoint) :
    SpellsSign (escaped c) (.point c) ∨ (c.toNat < 0x20 ∧ SpellsSign (escaped c) (.unit c.toNat)) := by
  unfold escaped
  split_ifs with hquote hslash hnewline hreturn htab hfeed hback hcontrol
  · exact Or.inl (.short (by rw [hquote]; rfl))
  · exact Or.inl (.short (by rw [hslash]; rfl))
  · exact Or.inl (.short (by rw [hnewline]; rfl))
  · exact Or.inl (.short (by rw [hreturn]; rfl))
  · exact Or.inl (.short (by rw [htab]; rfl))
  · have hc := ofNat_toNat_of_lt (c := c) (by omega)
    rw [hfeed] at hc
    exact Or.inl (.short (by rw [← hc]; rfl))
  · have hc := ofNat_toNat_of_lt (c := c) (by omega)
    rw [hback] at hc
    exact Or.inl (.short (by rw [← hc]; rfl))
  · obtain ⟨hhex, hnumber⟩ := hex_of_lt c.toNat hcontrol
    rw [hhex]
    exact Or.inr ⟨hcontrol, .unit hnumber⟩
  · exact Or.inl (.plain (by omega) hquote hslash)

/-- What stands between the quotes means the text. -/
theorem spellsSigns_escaped (t : Text) :
    ∃ signs, SpellsSigns (t.flatMap escaped) signs ∧ meaning signs = t := by
  induction t with
  | nil => exact ⟨[], .nil, rfl⟩
  | cons c t ih =>
    obtain ⟨signs, hsigns, hmeaning⟩ := ih
    rw [List.flatMap_cons]
    rcases spellsSign_escaped c with hpoint | ⟨hlt, hunit⟩
    · exact ⟨_, .cons hpoint hsigns, by rw [meaning, hmeaning]⟩
    · refine ⟨_, .cons hunit hsigns, ?_⟩
      rw [meaning_unit, ofNat_toNat_of_lt hlt, hmeaning]
      -- a control character is no half of a pair
      rintro ⟨low, more, -, hhigh, -⟩
      simp only [CodePoint.isHigh, Bool.and_eq_true, decide_eq_true_eq] at hhigh
      omega

theorem writeString_eq (t : Text) : writeString t = char '"' :: (t.flatMap escaped ++ [char '"']) := by
  simp only [writeString, Text.ofString]
  rfl

theorem spells_string (room : Nat) (t : Text) : Spells room (writeString t) (.value (.str t)) := by
  obtain ⟨signs, hsigns, hmeaning⟩ := spellsSigns_escaped t
  have hspells : Spells room _ _ := .string hsigns
  rw [hmeaning, ← writeString_eq] at hspells
  exact hspells

/-! ## Integers -/

theorem isWhole_ofNat (n : Nat) : IsWhole (Text.ofNat n) := by
  by_cases h : n = 0
  · rw [h]
    exact Or.inl rfl
  · exact Or.inr ⟨Text.ofNat_ne_nil n, Text.head_ofNat_ne_zero h, Text.isDigits_ofNat n⟩

theorem spells_int (room : Nat) {n : Int} (h : (Text.ofNat n.natAbs).length ≤ digitLimit) :
    Spells room (Text.ofInt n) (.value (.int n)) := by
  have hwell : ∀ negative k, (⟨negative, Text.ofNat k, [], none⟩ : Numeral).WellFormed := by
    intro negative k
    refine ⟨isWhole_ofNat k, ?_, ?_⟩
    · intro c hc
      cases hc
    · intro mark sign digits hnone
      cases hnone
  have hvalue : ∀ negative, (⟨negative, Text.ofNat n.natAbs, [], none⟩ : Numeral).value .strict =
      .ok (.int (if negative then -(n.natAbs : Int) else n.natAbs)) := by
    intro negative
    rw [Numeral.value, if_pos (by rfl), if_neg (Nat.not_lt.mpr h), Text.decimalValue_ofNat]
  have hspells : ∀ negative, Spells room _ _ := fun negative => .number (hwell negative _) (hvalue negative)
  cases n with
  | ofNat k =>
    have hplus := hspells false
    rw [Numeral.literal_eq] at hplus
    simpa [fractionText, exponentText, Text.ofInt] using hplus
  | negSucc k =>
    have hminus := hspells true
    have hint : -((Int.negSucc k).natAbs : Int) = Int.negSucc k := by omega
    rw [Numeral.literal_eq, if_pos rfl, if_pos rfl, hint] at hminus
    simpa [fractionText, exponentText, Text.ofInt] using hminus

/-! ## Floating point numbers -/

/-- The literal spells the decimal behind its sign, and reads as the decimal does. -/
structure Numeral.Writes (n : Numeral) (d : Decimal) : Prop where
  wellFormed : n.WellFormed
  unsigned : n.whole ++ (fractionText n.fraction ++ exponentText n.exponent) = Binary64.decimalText d
  isFloat : (n.fraction.isEmpty && n.exponent.isNone) = false
  code : Binary64.codeOfDecimal (Text.decimalValue (n.whole ++ n.fraction)) n.scale =
    Binary64.codeOfDecimal d.digits d.exponent

section Notations

variable {d : Decimal} {ds : Text}

/-- The digits follow a point and zeros: `0.00123`. -/
theorem writes_small (negative : Bool) (hds : ds = Text.ofNat d.digits) {k : Nat}
    (hk : (k : Int) = -(ds.length + d.exponent)) (hlt : k < 4) :
    ∃ n : Numeral, n.negative = negative ∧ n.Writes d := by
  have hpoint : (ds.length : Int) + d.exponent = -k := by omega
  refine ⟨⟨negative, [char '0'], List.replicate k (char '0') ++ ds, none⟩, rfl, ?_, ?_, ?_, ?_⟩
  · -- its parts are digits
    refine ⟨Or.inl rfl, Text.isDigits_append.mpr ⟨Text.isDigits_replicate_zero k, ?_⟩, ?_⟩
    · rw [hds]
      exact Text.isDigits_ofNat _
    · intro mark sign digits hnone
      cases hnone
  · -- it is spelled as the decimal is
    rw [Binary64.decimalText]
    dsimp only
    rw [← hds, if_pos (by omega), if_pos (by omega), hpoint, fractionText, if_neg, Int.neg_neg, Int.toNat_natCast]
    · simp [exponentText, Text.ofString]
    · simp [hds, Text.ofNat_ne_nil]
  · simp [hds, Text.ofNat_ne_nil]
  · -- zeros in front change neither the digits nor the scale
    have hvalue : Text.decimalValue ([char '0'] ++ (List.replicate k (char '0') ++ ds)) = d.digits := by
      rw [List.singleton_append, ← List.cons_append, ← List.replicate_succ, Text.decimalValue_append,
        Text.decimalValue_replicate_zero, hds, Text.decimalValue_ofNat]
      omega
    have hscale : (⟨negative, [char '0'], List.replicate k (char '0') ++ ds, none⟩ : Numeral).scale =
        d.exponent := by
      simp only [Numeral.scale, List.length_append, List.length_replicate]
      omega
    rw [hvalue, hscale]

/-- The digits are followed by zeros and a fraction of zero: `12300.0`. -/
theorem writes_large (negative : Bool) (hne : d.digits ≠ 0) (hds : ds = Text.ofNat d.digits) {k : Nat}
    (hk : d.exponent = k) (hle : ds.length + k ≤ 16) :
    ∃ n : Numeral, n.negative = negative ∧ n.Writes d := by
  have hpos : 0 < ds.length := by
    rw [hds]
    exact Text.length_ofNat_pos _
  refine ⟨⟨negative, ds ++ List.replicate k (char '0'), [char '0'], none⟩, rfl, ?_, ?_, rfl, ?_⟩
  · refine ⟨Or.inr ⟨?_, ?_, ?_⟩, ?_, ?_⟩
    · simp [hds, Text.ofNat_ne_nil]
    · rw [List.head?_append, Option.or_of_isSome, hds]
      · exact Text.head_ofNat_ne_zero hne
      · rw [hds]
        exact List.isSome_head?.mpr (Text.ofNat_ne_nil _)
    · refine Text.isDigits_append.mpr ⟨?_, Text.isDigits_replicate_zero k⟩
      rw [hds]
      exact Text.isDigits_ofNat _
    · exact Text.isDigits_replicate_zero 1
    · intro mark sign digits hnone
      cases hnone
  · rw [Binary64.decimalText]
    dsimp only
    have hzeros : ((ds.length : Int) + d.exponent).toNat - ds.length = k := by omega
    rw [← hds, if_pos (by omega), if_neg (by omega), if_pos (by omega), hzeros]
    simp [fractionText, exponentText, Text.ofString]
  · -- zeros at the end move the scale, and the number stays
    have hvalue : Text.decimalValue (ds ++ List.replicate k (char '0') ++ [char '0']) =
        d.digits * 10 ^ (k + 1) := by
      rw [List.append_assoc, ← List.replicate_succ', Text.decimalValue_append, Text.decimalValue_replicate_zero, hds,
        Text.decimalValue_ofNat, List.length_replicate]
      rfl
    have hscale : (⟨negative, ds ++ List.replicate k (char '0'), [char '0'], none⟩ : Numeral).scale =
        d.exponent - (k + 1 : Nat) := by
      simp only [Numeral.scale, List.length_singleton]
      omega
    rw [hvalue, hscale, Binary64.codeOfDecimal_shift]

/-- The point stands among the digits: `12.3`. -/
theorem writes_split (negative : Bool) (hne : d.digits ≠ 0) (hds : ds = Text.ofNat d.digits) {k : Nat}
    (hk : (k : Int) = ds.length + d.exponent) (hpos : 0 < k) (hlt : k < ds.length) (hle : k ≤ 16) :
    ∃ n : Numeral, n.negative = negative ∧ n.Writes d := by
  have hdigits : Text.IsDigits (ds.take k ++ ds.drop k) := by
    rw [List.take_append_drop, hds]
    exact Text.isDigits_ofNat _
  rw [Text.isDigits_append] at hdigits
  have hfraction : (ds.drop k).isEmpty = false := by
    rw [List.isEmpty_eq_false_iff, ← List.length_pos_iff, List.length_drop]
    omega
  refine ⟨⟨negative, ds.take k, ds.drop k, none⟩, rfl, ?_, ?_, ?_, ?_⟩
  · refine ⟨Or.inr ⟨?_, ?_, hdigits.1⟩, hdigits.2, ?_⟩
    · rw [← List.length_pos_iff, List.length_take]
      omega
    · rw [List.head?_take, if_neg hpos.ne', hds]
      exact Text.head_ofNat_ne_zero hne
    · intro mark sign digits hnone
      cases hnone
  · rw [Binary64.decimalText]
    dsimp only
    rw [← hds, if_pos (by omega), if_neg (by omega), if_neg (by omega), ← hk, Int.toNat_natCast, fractionText,
      hfraction]
    simp [exponentText, Text.ofString]
  · dsimp only
    rw [hfraction]
    rfl
  · have hscale : (⟨negative, ds.take k, ds.drop k, none⟩ : Numeral).scale = d.exponent := by
      simp only [Numeral.scale, List.length_drop]
      omega
    dsimp only
    rw [List.take_append_drop, hscale, hds, Text.decimalValue_ofNat]

/-- The sign of an exponent, which is always written. -/
def exponentSign (e : Int) : Text := if e < 0 then [char '-'] else [char '+']

/-- The digits of an exponent, padded to two, which its value does not show. -/
def exponentDigits (e : Int) : Text :=
  if (Text.ofNat e.natAbs).length < 2 then char '0' :: Text.ofNat e.natAbs else Text.ofNat e.natAbs

theorem isSign_exponentSign (e : Int) : IsSign (exponentSign e) := by
  unfold exponentSign
  split
  · exact Or.inr (Or.inr rfl)
  · exact Or.inr (Or.inl rfl)

theorem exponentDigits_ne_nil (e : Int) : exponentDigits e ≠ [] := by
  unfold exponentDigits
  split
  · exact List.cons_ne_nil _ _
  · exact Text.ofNat_ne_nil _

theorem isDigits_exponentDigits (e : Int) : Text.IsDigits (exponentDigits e) := by
  unfold exponentDigits
  split
  · exact Text.isDigits_cons.mpr ⟨rfl, Text.isDigits_ofNat e.natAbs⟩
  · exact Text.isDigits_ofNat e.natAbs

theorem decimalValue_exponentDigits (e : Int) : Text.decimalValue (exponentDigits e) = e.natAbs := by
  unfold exponentDigits
  split
  · have hzero : (char '0').asciiDigitValue = 0 := rfl
    rw [Text.decimalValue_cons, hzero, Text.decimalValue_ofNat]
    omega
  · exact Text.decimalValue_ofNat _

/-- A numeral with such an exponent stands for its digits at that exponent. -/
theorem scale_exponent (negative : Bool) (whole fraction : Text) (e : Int) :
    (⟨negative, whole, fraction, some (char 'e', exponentSign e, exponentDigits e)⟩ : Numeral).scale =
      e - fraction.length := by
  simp only [Numeral.scale, decimalValue_exponentDigits, exponentSign]
  by_cases hneg : e < 0
  · simp only [if_pos hneg, Text.ofString]
    rw [if_pos (by decide)]
    omega
  · simp only [if_neg hneg, Text.ofString]
    rw [if_neg (by decide)]
    omega

/-- One digit before the point and an exponent of at least two digits: `1.23e+45`. -/
theorem writes_exponent (negative : Bool) (hne : d.digits ≠ 0) (hds : ds = Text.ofNat d.digits) {e : Int}
    (he : e = ds.length + d.exponent - 1) (hout : ¬ (-4 < e + 1 ∧ e + 1 ≤ 16)) :
    ∃ n : Numeral, n.negative = negative ∧ n.Writes d := by
  have hpos : 0 < ds.length := by
    rw [hds]
    exact Text.length_ofNat_pos _
  have hdigits : Text.IsDigits (ds.take 1 ++ ds.drop 1) := by
    rw [List.take_append_drop, hds]
    exact Text.isDigits_ofNat _
  rw [Text.isDigits_append] at hdigits
  refine ⟨⟨negative, ds.take 1, ds.drop 1, some (char 'e', exponentSign e, exponentDigits e)⟩, rfl, ?_, ?_, ?_, ?_⟩
  · refine ⟨Or.inr ⟨?_, ?_, hdigits.1⟩, hdigits.2, ?_⟩
    · rw [← List.length_pos_iff, List.length_take]
      omega
    · rw [List.head?_take, if_neg (by decide), hds]
      exact Text.head_ofNat_ne_zero hne
    · rintro mark sign digits ⟨⟩
      exact ⟨Or.inl rfl, isSign_exponentSign e, exponentDigits_ne_nil e, isDigits_exponentDigits e⟩
  · rw [Binary64.decimalText]
    dsimp only
    rw [← hds, if_neg (by omega), ← he]
    simp only [fractionText, exponentText, exponentDigits, exponentSign, List.isEmpty_iff, List.drop_eq_nil_iff,
      List.append_assoc]
    split_ifs <;> rfl
  · simp
  · have hscale : e - (ds.drop 1).length = d.exponent := by
      rw [List.length_drop]
      omega
    dsimp only
    rw [List.take_append_drop, scale_exponent, hscale, hds, Text.decimalValue_ofNat]

end Notations

/-- Every decimal has a literal, which is its text. -/
theorem exists_writes (negative : Bool) {d : Decimal} (hne : d.digits ≠ 0) :
    ∃ n : Numeral, n.negative = negative ∧ n.Writes d := by
  have hpos := Text.length_ofNat_pos d.digits
  by_cases hpositional : -4 < ((Text.ofNat d.digits).length : Int) + d.exponent ∧
      ((Text.ofNat d.digits).length : Int) + d.exponent ≤ 16
  · by_cases hsmall : ((Text.ofNat d.digits).length : Int) + d.exponent ≤ 0
    · obtain ⟨k, hk⟩ := Int.eq_ofNat_of_zero_le
        (show 0 ≤ -(((Text.ofNat d.digits).length : Int) + d.exponent) by omega)
      exact writes_small negative rfl hk.symm (by omega)
    · by_cases hlarge : 0 ≤ d.exponent
      · obtain ⟨k, hk⟩ := Int.eq_ofNat_of_zero_le hlarge
        exact writes_large negative hne rfl hk (by omega)
      · obtain ⟨k, hk⟩ := Int.eq_ofNat_of_zero_le
          (show 0 ≤ ((Text.ofNat d.digits).length : Int) + d.exponent by omega)
        exact writes_split negative hne rfl hk.symm (by omega) (by omega) (by omega)
  · exact writes_exponent negative hne rfl rfl (by omega)

/-- The text of a finite number that is not zero is a literal for that number. -/
theorem toText_eq {x : Binary64} (hfinite : x.isFinite = true) (hzero : x.code ≠ 0) :
    x.toText = (if x.negative then [char '-'] else []) ++ Binary64.decimalText (Binary64.shortest x.code) := by
  simp only [Binary64.isFinite, decide_eq_true_eq] at hfinite
  have hnan : x.isNotANumber = false := by
    rw [Binary64.isNotANumber, decide_eq_false_iff_not]
    omega
  have hfin : x.isFinite = true := decide_eq_true hfinite
  have hz : x.isZero = false := decide_eq_false hzero
  rw [Binary64.toText, hnan, hfin, hz, if_neg Bool.false_ne_true]
  generalize Binary64.decimalText (Binary64.shortest x.code) = digits
  cases x.negative <;> rfl

theorem ofCode_self {x : Binary64} (hfinite : x.isFinite = true) : Binary64.ofCode x.negative x.code = x := by
  simp only [Binary64.isFinite, decide_eq_true_eq] at hfinite
  obtain ⟨negative, code, hlt⟩ := x
  simp only [Binary64.ofCode, Binary64.mk.injEq, true_and]
  exact Nat.min_eq_left hfinite.le

theorem value_of_float {n : Numeral} {x : Binary64} (hfloat : (n.fraction.isEmpty && n.exponent.isNone) = false)
    (hx : Binary64.ofDecimal n.negative (Text.decimalValue (n.whole ++ n.fraction)) n.scale = x)
    (hfinite : x.isFinite = true) : n.value .strict = .ok (.float x) := by
  rw [Numeral.value, hfloat, if_neg Bool.false_ne_true]
  dsimp only
  rw [hx, hfinite]
  rfl

theorem spells_float_zero (room : Nat) {x : Binary64} (hzero : x.code = 0) :
    Spells room x.toText (.value (.float x)) := by
  have hfinite : x.isFinite = true := by
    rw [Binary64.isFinite, hzero]
    decide
  have hself := ofCode_self hfinite
  rw [hzero] at hself
  have hwell : (⟨x.negative, [char '0'], [char '0'], none⟩ : Numeral).WellFormed := by
    refine ⟨Or.inl rfl, Text.isDigits_replicate_zero 1, ?_⟩
    intro mark sign digits hnone
    cases hnone
  have hvalue : (⟨x.negative, [char '0'], [char '0'], none⟩ : Numeral).value .strict = .ok (.float x) := by
    refine value_of_float rfl ?_ hfinite
    rw [Binary64.ofDecimal, Binary64.codeOfDecimal, if_pos (by rfl)]
    exact hself
  have hspells : Spells room _ _ := .number hwell hvalue
  have hnan : x.isNotANumber = false := by
    rw [Binary64.isNotANumber, hzero]
    decide
  have hz : x.isZero = true := decide_eq_true hzero
  have htext : (⟨x.negative, [char '0'], [char '0'], none⟩ : Numeral).literal = x.toText := by
    simp only [Numeral.literal, Binary64.toText, hnan, hfinite, hz]
    cases x.negative <;> rfl
  rw [htext] at hspells
  exact hspells

theorem spells_float (room : Nat) {x : Binary64} (hfinite : x.isFinite = true) :
    Spells room x.toText (.value (.float x)) := by
  by_cases hzero : x.code = 0
  · exact spells_float_zero room hzero
  have hlt : x.code < Binary64.infinityCode := by simpa [Binary64.isFinite] using hfinite
  obtain ⟨n, hnegative, hn⟩ := exists_writes x.negative (Binary64.shortest_digits_ne_zero hzero hlt)
  have hcode := hn.code.trans (Binary64.shortest_readsBack hzero hlt)
  have hvalue : n.value .strict = .ok (.float x) := by
    refine value_of_float hn.isFloat ?_ hfinite
    rw [Binary64.ofDecimal, hcode, hnegative, ofCode_self hfinite]
  have hspells : Spells room _ _ := .number hn.wellFormed hvalue
  rw [Numeral.literal_eq, hn.unsigned, hnegative, ← toText_eq hfinite hzero] at hspells
  exact hspells

end Tidy.Json
