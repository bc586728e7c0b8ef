/-
# Tidy.Proofs.Indent -- which options give a width

An option gives a width (`Gives`) if it is the word `tab` and the width of a tab is positive, if it is a numeral of a
positive number in decimal digits of any scripts, or if it is a positive number itself. Every other option is refused,
for a cause that depends on it alone and on the width of a tab (`Refused`). `resolve_decided` says that resolving an
option finds exactly these.

Digit-like characters, such as superscripts, pass the first check and are found out only when the numeral is read.
-/

import Mathlib.Data.List.TakeWhile
import Mathlib.Data.Nat.Digits.Defs
import Tidy.Indent
import Tidy.Proofs.Text.Lowercase

namespace Tidy

namespace CodePoint

theorem isSome_decimalValue? (c : CodePoint) : c.decimalValue?.isSome = c.inTable decimalRanges := by
  rw [decimalValue?, Option.isSome_map, Bool.eq_iff_iff, List.find?_isSome, inTable, List.any_eq_true]

theorem isDigitLike_of_decimal {c : CodePoint} (h : c.inTable decimalRanges = true) : c.isDigitLike = true := by
  rw [isDigitLike, h, Bool.true_or]

/-- The value of a decimal digit. -/
def digitValue (c : CodePoint) : Nat :=
  c.decimalValue?.getD 0

end CodePoint

namespace Indent

variable {t : Text} {tabWidth option : Value} {fault : Fault} {n : Nat}

/-! ## Numerals -/

/-- A numeral: some decimal digits of any scripts, and not too many. -/
structure IsNumeral (t : Text) : Prop where
  ne_nil : t ≠ []
  decimal : ∀ c ∈ t, c.inTable CodePoint.decimalRanges = true
  length_le : t.length ≤ digitLimit

/-- The number that a numeral writes in base ten, its last digit being that of the ones. -/
def numberOf (t : Text) : Nat :=
  Nat.ofDigits 10 (t.reverse.map CodePoint.digitValue)

/-- The decimal digits at the start. -/
def leadingDigits (t : Text) : Text :=
  t.takeWhile (·.inTable CodePoint.decimalRanges)

theorem numeralValue_eq (t : Text) : numeralValue t = numberOf t := by
  rw [numberOf, Nat.ofDigits_eq_foldr, List.foldr_map, List.foldr_reverse, numeralValue]
  congr 1
  funext n c
  show n * 10 + c.digitValue = c.digitValue + 10 * n
  omega

theorem readNumeral_eq (t : Text) : readNumeral t =
    if digitLimit < (leadingDigits t).length then .error (.tooManyDigits (leadingDigits t).length)
    else if (leadingDigits t).length < t.length then .error (.noNumeral t)
    else .ok (numberOf (leadingDigits t)) := by
  have hleading : (t.takeWhile fun c => c.decimalValue?.isSome) = leadingDigits t := by
    unfold leadingDigits
    congr 1
    funext c
    exact CodePoint.isSome_decimalValue? c
  rw [readNumeral, hleading, numeralValue_eq]

theorem leadingDigits_eq_self (h : ∀ c ∈ t, c.inTable CodePoint.decimalRanges = true) : leadingDigits t = t :=
  List.takeWhile_eq_self_iff.mpr h

/-- Something that is no digit ends the digits at the start. -/
theorem length_leadingDigits_lt {c : CodePoint} (hmem : c ∈ t) (hc : c.inTable CodePoint.decimalRanges = false) :
    (leadingDigits t).length < t.length := by
  have hle : (leadingDigits t).length ≤ t.length := (List.takeWhile_sublist _).length_le
  refine lt_of_le_of_ne hle fun hlength => ?_
  have hself : leadingDigits t = t := (List.takeWhile_prefix _).eq_of_length hlength
  have hdecimal := List.takeWhile_eq_self_iff.mp hself c hmem
  rw [hc] at hdecimal
  cases hdecimal

theorem readNumeral_of_isNumeral (h : IsNumeral t) : readNumeral t = .ok (numberOf t) := by
  have hself := leadingDigits_eq_self h.decimal
  rw [readNumeral_eq, hself, if_neg (Nat.not_lt.mpr h.length_le), if_neg (Nat.lt_irrefl _)]

theorem ne_tab_of_digitLike (h : ∀ c ∈ t, c.isDigitLike = true) : t ≠ tab := by
  rintro rfl
  have hletter := h 't' (by decide)
  revert hletter
  decide

theorem IsNumeral.digitLike (h : IsNumeral t) : ∀ c ∈ t, c.isDigitLike = true :=
  fun c hc => CodePoint.isDigitLike_of_decimal (h.decimal c hc)

/-! ## The options -/

/-- The word that a text is looked at as: without white space around it, and in lower case. -/
def wordOf (t : Text) : Text :=
  Text.lower (Text.trim t)

/-- A word is a word of its own. -/
theorem wordOf_wordOf (t : Text) : wordOf (wordOf t) = wordOf t :=
  Text.lower_trim_lower_trim t

/-- The value is a positive number. -/
def IsPositive (value : Value) : Prop :=
  ∃ n : Nat, 0 < n ∧ value = .int n

/-- The options that give a width, where a tab is as wide as `tabWidth` says. -/
inductive Gives (tabWidth : Value) : Value → Nat → Prop
  | tab {t : Text} {n : Nat} : wordOf t = tab → 0 < n → tabWidth = .int n → Gives tabWidth (.str t) n
  | numeral {t : Text} : IsNumeral (wordOf t) → 0 < numberOf (wordOf t) → Gives tabWidth (.str t) (numberOf (wordOf t))
  | number {n : Nat} : 0 < n → Gives tabWidth (.int n) n

/-- The options that give no width, with the cause. -/
inductive Refused (tabWidth : Value) : Value → Fault → Prop
  | unknown {t : Text} : wordOf t ≠ tab → (wordOf t = [] ∨ ∃ c ∈ wordOf t, c.isDigitLike = false) →
      Refused tabWidth (.str t) (.unknown t)
  | tooManyDigits {t : Text} : (∀ c ∈ wordOf t, c.isDigitLike = true) →
      digitLimit < (leadingDigits (wordOf t)).length →
      Refused tabWidth (.str t) (.tooManyDigits (leadingDigits (wordOf t)).length)
  | noNumeral {t : Text} : (∀ c ∈ wordOf t, c.isDigitLike = true) → (leadingDigits (wordOf t)).length ≤ digitLimit →
      (∃ c ∈ wordOf t, c.inTable CodePoint.decimalRanges = false) → Refused tabWidth (.str t) (.noNumeral (wordOf t))
  | zero {t : Text} : IsNumeral (wordOf t) → numberOf (wordOf t) = 0 →
      Refused tabWidth (.str t) (.notPositive (.int 0))
  | tab {t : Text} : wordOf t = tab → ¬ IsPositive tabWidth → Refused tabWidth (.str t) (.notPositive tabWidth)
  | other {option : Value} : (∀ t, option ≠ .str t) → ¬ IsPositive option →
      Refused tabWidth option (.notPositive option)

theorem width_of_pos (h : 0 < n) : width (.int n) = .ok n :=
  if_pos (Int.natCast_pos.mpr h)

theorem width_of_not_isPositive {value : Value} (h : ¬ IsPositive value) : width value = .error (.notPositive value) := by
  cases value with
  | int z =>
    apply if_neg
    intro hz
    exact h ⟨z.toNat, by omega, by rw [Int.toNat_of_nonneg hz.le]⟩
  | _ => rfl

theorem resolve_of_meaning {value : Value} (h : meaning option tabWidth = .ok value) :
    resolve option tabWidth = width value := by
  rw [resolve, h]
  rfl

theorem resolve_of_meaning_error (h : meaning option tabWidth = .error fault) :
    resolve option tabWidth = .error fault := by
  rw [resolve, h]
  rfl

theorem meaning_tab (h : wordOf t = tab) : meaning (.str t) tabWidth = .ok tabWidth :=
  if_pos h

/-- A word of digit-like characters is read as a numeral. -/
theorem meaning_digits (hne : wordOf t ≠ []) (h : ∀ c ∈ wordOf t, c.isDigitLike = true) :
    meaning (.str t) tabWidth =
      match readNumeral (wordOf t) with
      | .ok n => .ok (.int n)
      | .error fault => .error fault := by
  have hdigits : (!(wordOf t).isEmpty && (wordOf t).all CodePoint.isDigitLike) = true := by
    rw [Bool.and_eq_true, Bool.not_eq_true', List.isEmpty_eq_false_iff]
    exact ⟨hne, List.all_eq_true.mpr h⟩
  apply (if_neg (ne_tab_of_digitLike h)).trans
  apply (if_pos hdigits).trans
  show Except.map _ (readNumeral (wordOf t) >>= _) = _
  cases readNumeral (wordOf t) with
  | ok n => rfl
  | error fault => rfl

theorem meaning_unknown (htab : wordOf t ≠ tab) (h : wordOf t = [] ∨ ∃ c ∈ wordOf t, c.isDigitLike = false) :
    meaning (.str t) tabWidth = .error (.unknown t) := by
  have hdigits : ¬ (!(wordOf t).isEmpty && (wordOf t).all CodePoint.isDigitLike) = true := by
    rw [Bool.and_eq_true]
    rintro ⟨hne, hall⟩
    rcases h with hnil | ⟨c, hmem, hc⟩
    · rw [hnil] at hne
      cases hne
    · have hlike := List.all_eq_true.mp hall c hmem
      rw [hc] at hlike
      cases hlike
  exact (if_neg htab).trans (if_neg hdigits)

theorem meaning_other (h : ∀ t, option ≠ .str t) : meaning option tabWidth = .ok option := by
  cases option with
  | str t => exact absurd rfl (h t)
  | _ => rfl

theorem meaning_numeral (h : IsNumeral (wordOf t)) :
    meaning (.str t) tabWidth = .ok (.int (numberOf (wordOf t))) := by
  rw [meaning_digits h.ne_nil h.digitLike, readNumeral_of_isNumeral h]

theorem resolve_of_gives (h : Gives tabWidth option n) : resolve option tabWidth = .ok n := by
  cases h with
  | tab hword hn htab =>
    rw [resolve_of_meaning (meaning_tab hword), htab]
    exact width_of_pos hn
  | numeral hword hn =>
    rw [resolve_of_meaning (meaning_numeral hword)]
    exact width_of_pos hn
  | number hn =>
    rw [resolve_of_meaning (meaning_other fun t ht => by cases ht)]
    exact width_of_pos hn

theorem resolve_of_refused (h : Refused tabWidth option fault) : resolve option tabWidth = .error fault := by
  cases h with
  | unknown htab hword => exact resolve_of_meaning_error (meaning_unknown htab hword)
  | @tooManyDigits t hlike hlong =>
    apply resolve_of_meaning_error
    have hne : wordOf t ≠ [] := by
      intro hnil
      rw [hnil] at hlong
      cases hlong
    rw [meaning_digits hne hlike, readNumeral_eq, if_pos hlong]
  | @noNumeral t hlike hshort hforeign =>
    apply resolve_of_meaning_error
    obtain ⟨c, hmem, hc⟩ := hforeign
    have hne : wordOf t ≠ [] := List.ne_nil_of_mem hmem
    rw [meaning_digits hne hlike, readNumeral_eq, if_neg (Nat.not_lt.mpr hshort),
      if_pos (length_leadingDigits_lt hmem hc)]
  | zero hword hzero =>
    rw [resolve_of_meaning (meaning_numeral hword), hzero]
    rfl
  | tab hword htab =>
    rw [resolve_of_meaning (meaning_tab hword)]
    exact width_of_not_isPositive htab
  | other hoption hpositive =>
    rw [resolve_of_meaning (meaning_other hoption)]
    exact width_of_not_isPositive hpositive

/-- A text gives a width or is refused. -/
theorem str_gives_or_refused (tabWidth : Value) (t : Text) :
    (∃ n, Gives tabWidth (.str t) n) ∨ ∃ fault, Refused tabWidth (.str t) fault := by
  by_cases htab : wordOf t = tab
  · by_cases hpositive : IsPositive tabWidth
    · obtain ⟨n, hn, hwidth⟩ := hpositive
      exact Or.inl ⟨n, .tab htab hn hwidth⟩
    · exact Or.inr ⟨_, .tab htab hpositive⟩
  by_cases hlike : wordOf t ≠ [] ∧ ∀ c ∈ wordOf t, c.isDigitLike = true
  · obtain ⟨hne, hall⟩ := hlike
    by_cases hlong : digitLimit < (leadingDigits (wordOf t)).length
    · exact Or.inr ⟨_, .tooManyDigits hall hlong⟩
    by_cases hforeign : ∃ c ∈ wordOf t, c.inTable CodePoint.decimalRanges = false
    · exact Or.inr ⟨_, .noNumeral hall (Nat.not_lt.mp hlong) hforeign⟩
    -- all are decimal digits, so the word is a numeral
    have hdecimal : ∀ c ∈ wordOf t, c.inTable CodePoint.decimalRanges = true := by
      intro c hc
      by_contra hnot
      exact hforeign ⟨c, hc, Bool.eq_false_iff.mpr hnot⟩
    rw [leadingDigits_eq_self hdecimal] at hlong
    have hword : IsNumeral (wordOf t) := ⟨hne, hdecimal, Nat.not_lt.mp hlong⟩
    rcases Nat.eq_zero_or_pos (numberOf (wordOf t)) with hzero | hpos
    · exact Or.inr ⟨_, .zero hword hzero⟩
    · exact Or.inl ⟨_, .numeral hword hpos⟩
  · refine Or.inr ⟨_, .unknown htab ?_⟩
    by_cases hnil : wordOf t = []
    · exact Or.inl hnil
    · right
      by_contra hnone
      refine hlike ⟨hnil, fun c hc => ?_⟩
      by_contra hnot
      exact hnone ⟨c, hc, Bool.eq_false_iff.mpr hnot⟩

theorem gives_or_refused (tabWidth option : Value) :
    (∃ n, Gives tabWidth option n) ∨ ∃ fault, Refused tabWidth option fault := by
  by_cases hstr : ∃ t, option = .str t
  · obtain ⟨t, rfl⟩ := hstr
    exact str_gives_or_refused tabWidth t
  · have hoption : ∀ t, option ≠ .str t := fun t ht => hstr ⟨t, ht⟩
    by_cases hpositive : IsPositive option
    · obtain ⟨n, hn, rfl⟩ := hpositive
      exact Or.inl ⟨n, .number hn⟩
    · exact Or.inr ⟨_, .other hoption hpositive⟩

theorem gives_of_resolve (h : resolve option tabWidth = .ok n) : Gives tabWidth option n := by
  rcases gives_or_refused tabWidth option with ⟨m, hm⟩ | ⟨fault, hfault⟩
  · rw [resolve_of_gives hm] at h
    obtain rfl := Except.ok.inj h
    exact hm
  · rw [resolve_of_refused hfault] at h
    cases h

theorem refused_of_resolve (h : resolve option tabWidth = .error fault) : Refused tabWidth option fault := by
  rcases gives_or_refused tabWidth option with ⟨n, hn⟩ | ⟨fault', hfault'⟩
  · rw [resolve_of_gives hn] at h
    cases h
  · rw [resolve_of_refused hfault'] at h
    obtain rfl := Except.error.inj h
    exact hfault'

/-- Resolving an option gives a width exactly if the option gives it, and a fault exactly if the option is refused for
it; there is no third outcome. -/
theorem resolve_decided (option tabWidth : Value) :
    (∀ n, resolve option tabWidth = .ok n ↔ Gives tabWidth option n) ∧
      (∀ fault, resolve option tabWidth = .error fault ↔ Refused tabWidth option fault) ∧
      ((∀ n, ¬ Gives tabWidth option n) → ∃ fault, Refused tabWidth option fault) := by
  refine ⟨fun n => ⟨gives_of_resolve, resolve_of_gives⟩, fun fault => ⟨refused_of_resolve, resolve_of_refused⟩, ?_⟩
  intro hnone
  rcases gives_or_refused tabWidth option with ⟨n, hn⟩ | hrefused
  · exact absurd hn (hnone n)
  · exact hrefused

/-- A superscript is like a digit, but no numeral has one. -/
example : resolve (.str "2\u00B2") (.int 4) = .error (.noNumeral "2\u00B2") := rfl

end Indent

end Tidy
