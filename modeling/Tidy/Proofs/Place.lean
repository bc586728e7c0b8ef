/-
# Tidy.Proofs.Place -- the members of a list in their places

What a pass over a list does at one of its members is said about the member in its place, that is, together with what
stands before it. `places` lists all of these in their order.
-/

namespace Tidy

/-- A member of a list, with what stands before it in the list. -/
structure Place (α : Type) where
  before : List α
  item : α

variable {α : Type}

/-- The members of a list in their places, where `before` stands before the list. -/
def places (before : List α) : List α → List (Place α)
  | [] => []
  | a :: rest => ⟨before, a⟩ :: places (before ++ [a]) rest

theorem map_item_places (before items : List α) : (places before items).map Place.item = items := by
  induction items generalizing before with
  | nil => rfl
  | cons a rest ih => rw [places, List.map_cons, ih]

theorem item_mem_of_mem_places {p : Place α} {before items : List α} (h : p ∈ places before items) :
    p.item ∈ items := by
  rw [← map_item_places before items]
  exact List.mem_map_of_mem h

end Tidy
