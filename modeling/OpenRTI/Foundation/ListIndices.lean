import Mathlib.Data.Finset.Image
import Mathlib.Data.Finset.Range

/-!
# Indices of the elements with a property

A set of indices stands for the elements of a list that have a property.  The
lemmas follow the set when an element is appended and when one is erased, where
the indices behind it move up.
-/

namespace Foundation

variable {α : Type*}

/-- The indices of the elements with a property. -/
def indices (holds : α → Bool) (elements : List α) : Finset Nat :=
  (Finset.range elements.length).filter
    fun index => (elements[index]?.any holds) = true

variable {holds : α → Bool} {elements : List α} {index : Nat}

theorem mem_indices :
    index ∈ indices holds elements ↔
      ∃ element, elements[index]? = some element ∧ holds element = true := by
  rw [indices, Finset.mem_filter, Finset.mem_range]
  constructor
  · intro ⟨_, held⟩
    exact (Option.any_eq_true _ _).mp held
  · intro found
    obtain ⟨inside, _⟩ := List.getElem?_eq_some_iff.mp found.choose_spec.1
    exact ⟨inside, (Option.any_eq_true _ _).mpr found⟩

theorem indices_nonempty_iff :
    (indices holds elements).Nonempty ↔
      ∃ element ∈ elements, holds element = true := by
  constructor
  · intro ⟨index, member⟩
    obtain ⟨element, found, held⟩ := mem_indices.mp member
    exact ⟨element, List.mem_of_getElem? found, held⟩
  · intro ⟨element, member, held⟩
    obtain ⟨index, found⟩ := List.mem_iff_getElem?.mp member
    exact ⟨index, mem_indices.mpr ⟨element, found, held⟩⟩

/-- The index of an appended element is the former length. -/
theorem indices_concat
    (holds : α → Bool) (elements : List α) (element : α) :
    indices holds (elements ++ [element]) =
      if holds element = true then
        insert elements.length (indices holds elements)
      else indices holds elements := by
  ext index
  have appended : (elements ++ [element])[index]? =
      if index = elements.length then some element else elements[index]? := by
    grind
  rw [mem_indices, appended]
  have inside : index ∈ indices holds elements → index ≠ elements.length := by
    intro member same
    obtain ⟨other, found, _⟩ := mem_indices.mp member
    rw [same, List.getElem?_eq_none (le_refl _)] at found
    cases found
  split
  next last =>
    have absent : index ∉ indices holds elements := fun member =>
      inside member last
    split
    next held => simp [last, held]
    next notHeld =>
      refine iff_of_false ?_ absent
      rintro ⟨other, same, held⟩
      cases same
      exact notHeld held
  next different =>
    rw [← mem_indices]
    split
    · rw [Finset.mem_insert]
      exact ⟨Or.inr, fun member => member.resolve_left different⟩
    · rfl

/-- All elements have the property. -/
theorem indices_eq_range
    (all : ∀ element ∈ elements, holds element = true) :
    indices holds elements = Finset.range elements.length := by
  ext index
  rw [mem_indices, Finset.mem_range]
  constructor
  · intro ⟨element, found, _⟩
    exact (List.getElem?_eq_some_iff.mp found).1
  · intro inside
    exact ⟨elements[index], List.getElem?_eq_getElem inside,
      all _ (List.getElem_mem inside)⟩

/-! ## Erasing -/

/-- Remove an index and move the ones behind it up. -/
def eraseIndex (removed : Nat) (members : Finset Nat) : Finset Nat :=
  (members.erase removed).image
    fun index => if index < removed then index else index - 1

variable {removed : Nat} {members : Finset Nat}

theorem mem_eraseIndex :
    index ∈ eraseIndex removed members ↔
      (if index < removed then index else index + 1) ∈ members := by
  rw [eraseIndex, Finset.mem_image]
  constructor
  · rintro ⟨old, member, rfl⟩
    obtain ⟨different, member⟩ := Finset.mem_erase.mp member
    grind
  · intro member
    refine ⟨_, Finset.mem_erase.mpr ⟨?_, member⟩, ?_⟩
    · grind
    · grind

/-- The indices after an element is erased. -/
theorem indices_eraseIdx
    (holds : α → Bool) (elements : List α) (removed : Nat) :
    indices holds (elements.eraseIdx removed) =
      eraseIndex removed (indices holds elements) := by
  ext index
  rw [mem_eraseIndex, mem_indices, mem_indices, List.getElem?_eraseIdx]
  split <;> rfl

/-- Removing an index is all there is to do when none is behind it. -/
theorem eraseIndex_eq_erase
    (last : ∀ index ∈ members, index ≤ removed) :
    eraseIndex removed members = members.erase removed := by
  ext index
  rw [mem_eraseIndex, Finset.mem_erase]
  have bound := last index
  have next := last (index + 1)
  grind

end Foundation
