import Mathlib.Data.Finset.Max

/-!
# Iterating a set in ascending order

A finite set over a linear order, visited from its least element on, as an
ordered set of a program is.
-/

namespace Foundation

variable {α : Type*} [LinearOrder α]

/-- The elements of a set of at most `size` elements in ascending order. -/
def ascendingWithin : Nat → Finset α → List α
  | 0, _ => []
  | size + 1, elements =>
      match elements.min with
      | none => []
      | some least => least :: ascendingWithin size (elements.erase least)

/-- The elements of a set in ascending order. -/
def ascending (elements : Finset α) : List α :=
  ascendingWithin elements.card elements

theorem mem_ascendingWithin
    {element : α} {size : Nat}
    {elements : Finset α}
    (bounded : elements.card ≤ size) :
    element ∈ ascendingWithin size elements ↔ element ∈ elements := by
  induction size generalizing elements with
  | zero =>
      rw [Finset.card_eq_zero.mp (by omega : elements.card = 0)]
      simp [ascendingWithin]
  | succ size ih =>
      rw [ascendingWithin]
      cases found : elements.min with
      | top =>
          rw [Finset.min_eq_top.mp found]
          simp
      | coe least =>
          have member : least ∈ elements := Finset.mem_of_min found
          have smaller : (elements.erase least).card ≤ size := by
            rw [Finset.card_erase_of_mem member]
            omega
          rw [List.mem_cons, ih smaller, Finset.mem_erase]
          by_cases same : element = least
          · simp [same, member]
          · simp [same]

@[simp] theorem mem_ascending
    {element : α} {elements : Finset α} :
    element ∈ ascending elements ↔ element ∈ elements :=
  mem_ascendingWithin (Nat.le_refl _)

theorem nodup_ascendingWithin
    {size : Nat} {elements : Finset α}
    (bounded : elements.card ≤ size) :
    (ascendingWithin size elements).Nodup := by
  induction size generalizing elements with
  | zero => exact List.nodup_nil
  | succ size ih =>
      rw [ascendingWithin]
      cases found : elements.min with
      | top => exact List.nodup_nil
      | coe least =>
          have member : least ∈ elements := Finset.mem_of_min found
          have smaller : (elements.erase least).card ≤ size := by
            rw [Finset.card_erase_of_mem member]
            omega
          rw [List.nodup_cons, mem_ascendingWithin smaller]
          exact ⟨Finset.notMem_erase least elements,
            ih smaller⟩

theorem nodup_ascending (elements : Finset α) :
    (ascending elements).Nodup :=
  nodup_ascendingWithin (Nat.le_refl _)

example : ascending ({5, 2, 9} : Finset Nat) = [2, 5, 9] := rfl

/-- What is made of each element stands once, under that element. -/
theorem filter_filterMap_ascending
    {β : Type*}
    (elements : Finset α) (make : α → Option β) (wanted : α) :
    ((ascending elements).filterMap fun element =>
        (make element).map fun value => (element, value)).filter
          (fun entry => entry.1 = wanted) =
      if wanted ∈ elements then
        ((make wanted).map fun value => (wanted, value)).toList
      else [] := by
  have keyed : ∀ keys : List α, keys.Nodup →
      (keys.filterMap fun element =>
        (make element).map fun value => (element, value)).filter
          (fun entry => entry.1 = wanted) =
        if wanted ∈ keys then
          ((make wanted).map fun value => (wanted, value)).toList
        else [] := by
    intro keys nodup
    induction keys with
    | nil => rfl
    | cons element keys ih =>
        obtain ⟨absent, rest⟩ := List.nodup_cons.mp nodup
        rw [List.filterMap_cons]
        by_cases same : element = wanted
        · rw [same] at absent ⊢
          have none := ih rest
          rw [if_neg absent] at none
          rw [if_pos List.mem_cons_self]
          cases made : make wanted with
          | none => exact none
          | some value =>
              dsimp only [Option.map_some]
              rw [List.filter_cons, if_pos (decide_eq_true rfl), none]
              rfl
        · have iff : wanted ∈ element :: keys ↔ wanted ∈ keys := by
            rw [List.mem_cons]
            exact or_iff_right (Ne.symm same)
          rw [if_congr iff rfl rfl, ← ih rest]
          cases made : make element with
          | none => rfl
          | some value =>
              dsimp only [Option.map_some]
              rw [List.filter_cons, if_neg]
              simpa using same
  rw [keyed _ (nodup_ascending elements)]
  exact if_congr mem_ascending rfl rfl

end Foundation
