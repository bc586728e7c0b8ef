/-
# Tidy.Proofs.Record -- what checks of fields let through

A field that is there is checked, one that may be left out has a value of its own then, and a record passes if all of its
fields do.
-/

import Tidy.Record.Field

namespace Tidy

namespace Check

theorem positive_eq_ok_iff (given : Value) (width : Nat) :
    positive given = .ok width ↔ ∃ n : Int, integer given = .ok n ∧ 0 < n ∧ n.toNat = width := by
  unfold positive
  cases integer given with
  | error problem => simp [bind, Except.bind]
  | ok n =>
    show (if 0 < n then Except.ok n.toNat else Except.error Problem.notPositive) = .ok width ↔ _
    by_cases hn : 0 < n
    · simp [hn]
    · simp [hn]

/-- A positive number is let through as it is. -/
theorem positive_of_pos {n : Nat} (h : 0 < n) : positive (.int n) = .ok n :=
  (positive_eq_ok_iff _ _).mpr ⟨n, rfl, Int.natCast_pos.mpr h, Int.toNat_natCast n⟩

theorem language_tag (language : Language) : Check.language (.str language.tag) = .ok language := by
  cases language <;> rfl

end Check

namespace Record

variable {α : Type} {record : Record} {name : Text} {value : Value}

theorem required_of_get? (h : record.get? name = some value) (check : Check α) :
    record.required name check =
      match check value with
      | .ok a => .ok a
      | .error problem => .error [⟨[name], problem⟩] := by
  cases hcheck : check value with
  | ok a => simp only [required, h, hcheck]
  | error problem => simp only [required, h, hcheck]

theorem optional_of_get? (h : record.get? name = some value) (check : Check α) (default : α) :
    record.optional name check default =
      match check value with
      | .ok a => .ok a
      | .error problem => .error [⟨[name], problem⟩] := by
  rw [optional, h]
  exact required_of_get? h check

/-- What a field holds that may be left out: its own value, or what the check makes of the given one. -/
theorem optional_eq_ok {check : Check α} {default a : α} (h : record.optional name check default = .ok a) :
    a = default ∨ ∃ value, check value = .ok a := by
  cases hget : record.get? name with
  | none =>
    rw [optional, hget] at h
    exact Or.inl (Except.ok.inj h).symm
  | some value =>
    rw [optional_of_get? hget] at h
    cases hcheck : check value with
    | ok b =>
      rw [hcheck] at h
      obtain rfl := Except.ok.inj h
      exact Or.inr ⟨value, hcheck⟩
    | error problem =>
      rw [hcheck] at h
      cases h

end Record

theorem Checked.both_eq_ok_iff {α β : Type} {first : Checked α} {second : Checked β} {a : α} {b : β} :
    first.both second = .ok (a, b) ↔ first = .ok a ∧ second = .ok b := by
  cases first <;> cases second <;> simp [Checked.both]

end Tidy
