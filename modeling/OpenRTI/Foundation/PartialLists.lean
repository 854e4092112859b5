import Mathlib.Data.List.Forall2
import Mathlib.Tactic.Common

/-!
# Lists with unknown elements

A list whose elements are known only in part is extended by a list that has the
known elements in their places.  The operations on lists keep this relation.
Ranges of a list are read and overwritten.
-/

namespace Foundation

variable {α : Type*}

/-- One element extends another if it is the same or the other is unknown. -/
def ExtendsElement (stored known : Option α) : Prop :=
  ∀ value, known = some value → stored = some value

/-- A list has all elements that are known of another list of its length. -/
def Extends (stored known : List (Option α)) : Prop :=
  List.Forall₂ ExtendsElement stored known

theorem extendsElement_none (stored : Option α) :
    ExtendsElement stored none := nofun

variable {size : Nat}

namespace Extends

variable {stored stored' known known' : List (Option α)}

theorem refl (elements : List (Option α)) : Extends elements elements :=
  List.forall₂_same.mpr fun _ _ _ same => same

theorem trans
    {middle : List (Option α)}
    (first : Extends stored middle)
    (second : Extends middle known) : Extends stored known := by
  induction first generalizing known with
  | nil => exact second
  | cons same _ ih =>
      cases second with
      | cons same' rest =>
          exact .cons (fun value held => same value (same' value held))
            (ih rest)

theorem length_eq (extended : Extends stored known) :
    stored.length = known.length :=
  List.Forall₂.length_eq extended

theorem append
    (first : Extends stored known) (second : Extends stored' known') :
    Extends (stored ++ stored') (known ++ known') :=
  List.rel_append first second

theorem take (extended : Extends stored known) (size : Nat) :
    Extends (stored.take size) (known.take size) :=
  List.forall₂_take size extended

theorem drop (extended : Extends stored known) (size : Nat) :
    Extends (stored.drop size) (known.drop size) :=
  List.forall₂_drop size extended

theorem flatten
    {ι : Type*} {lists lists' : ι → List (Option α)}
    (extended : ∀ index, Extends (lists index) (lists' index))
    (indices : List ι) :
    Extends (indices.map lists).flatten (indices.map lists').flatten := by
  induction indices with
  | nil => exact .nil
  | cons index indices ih =>
      rw [List.map_cons, List.flatten_cons, List.map_cons, List.flatten_cons]
      exact (extended index).append ih

/-- Nothing is known of a list of unknown elements. -/
theorem replicate_none
    (length : stored.length = size) :
    Extends stored (List.replicate size none) := by
  induction stored generalizing size with
  | nil =>
      rw [← length]
      exact .nil
  | cons element stored ih =>
      rw [← length, List.length_cons, List.replicate_succ]
      exact .cons (extendsElement_none element) (ih rfl)

theorem getElem?_eq
    (extended : Extends stored known)
    {index : Nat} {value : α}
    (held : known[index]? = some (some value)) :
    stored[index]? = some (some value) := by
  induction extended generalizing index with
  | nil => exact held
  | cons same _ ih =>
      cases index with
      | zero =>
          rw [List.getElem?_cons_zero] at held ⊢
          rw [same value (Option.some.inj held)]
      | succ index =>
          rw [List.getElem?_cons_succ] at held ⊢
          exact ih held

end Extends

/-! ## Ranges -/

/-- The elements from an offset on. -/
def slice (offset size : Nat) (elements : List α) : List α :=
  (elements.drop offset).take size

/-- Replace the elements from an offset on. -/
def overwrite (offset : Nat) (values elements : List α) : List α :=
  elements.take offset ++ values ++ elements.drop (offset + values.length)

variable {offset : Nat} {elements : List α}

theorem length_slice
    (inside : offset + size ≤ elements.length) :
    (slice offset size elements).length = size := by
  rw [slice, List.length_take, List.length_drop]
  omega

@[simp] theorem slice_zero (offset : Nat) (elements : List α) :
    slice offset 0 elements = [] :=
  List.take_zero

theorem getElem?_slice
    (offset size index : Nat) (elements : List α) :
    (slice offset size elements)[index]? =
      if index < size then elements[offset + index]? else none := by
  rw [slice, List.getElem?_take, List.getElem?_drop]

theorem slice_slice
    {inner innerSize : Nat}
    (inside : inner + innerSize ≤ size) :
    slice inner innerSize (slice offset size elements) =
      slice (offset + inner) innerSize elements := by
  rw [slice, slice, slice, List.drop_take, List.drop_drop, List.take_take,
    Nat.min_eq_left (Nat.le_sub_of_add_le' inside)]

theorem slice_all
    (all : elements.length = size) :
    slice 0 size elements = elements := by
  rw [slice, List.drop_zero, ← all, List.take_length]

variable {values : List α}

theorem length_overwrite
    (inside : offset + values.length ≤ elements.length) :
    (overwrite offset values elements).length = elements.length := by
  rw [overwrite, List.length_append, List.length_append, List.length_take,
    List.length_drop]
  omega

theorem getElem?_overwrite
    (inside : offset ≤ elements.length)
    (index : Nat) :
    (overwrite offset values elements)[index]? =
      if index < offset then elements[index]?
      else if index < offset + values.length then values[index - offset]?
      else elements[index]? := by
  rw [overwrite, List.getElem?_append, List.getElem?_append, List.length_append,
    List.length_take, Nat.min_eq_left inside, List.getElem?_drop,
    List.getElem?_take]
  by_cases before : index < offset
  · rw [if_pos (by omega), if_pos before, if_pos before, if_pos before]
  · rw [if_neg before, if_neg before]
    split
    next => rfl
    next beyond =>
      congr 1
      omega

/-- What is written in a range is written in its list. -/
theorem slice_overwrite
    {inner : Nat}
    (within : inner + values.length ≤ size)
    (inside : offset + size ≤ elements.length) :
    slice offset size (overwrite (offset + inner) values elements) =
      overwrite inner values (slice offset size elements) := by
  apply List.ext_getElem?
  intro index
  have length := length_slice inside
  rw [getElem?_slice, getElem?_overwrite (by omega),
    getElem?_overwrite (by omega), getElem?_slice]
  by_cases within' : index < size
  · rw [if_pos within', if_pos within', Nat.add_sub_add_left]
    simp only [Nat.add_lt_add_iff_left, Nat.add_assoc]
  · rw [if_neg within', if_neg (by omega), if_neg (by omega), if_neg within']

/-- The values are read back. -/
theorem slice_overwrite_self
    (inside : offset ≤ elements.length) :
    slice offset values.length (overwrite offset values elements) = values := by
  rw [slice, overwrite, List.append_assoc, List.drop_left'
    (by rw [List.length_take]; omega), List.take_left' rfl]

theorem overwrite_end
    (atEnd : offset + values.length = elements.length) :
    overwrite offset values elements = elements.take offset ++ values := by
  rw [overwrite, atEnd, List.drop_length, List.append_nil]

/-- Cut a list off, or let unknown elements follow it. -/
def resized (size : Nat) (elements : List (Option α)) : List (Option α) :=
  elements.take size ++ List.replicate (size - elements.length) none

theorem length_resized (size : Nat) (elements : List (Option α)) :
    (resized size elements).length = size := by
  rw [resized, List.length_append, List.length_take, List.length_replicate]
  omega

variable {stored known : List (Option α)}

theorem Extends.resized
    (extended : Extends stored known)
    (size : Nat) : Extends (resized size stored) (resized size known) := by
  rw [Foundation.resized, Foundation.resized, extended.length_eq]
  exact (extended.take size).append (.refl _)

/-- A list of a size has the elements of another one as far as these go. -/
theorem extends_resized
    (length : stored.length = size)
    (same : stored.take known.length = known.take size) :
    Extends stored (resized size known) := by
  rw [resized, ← same]
  have split := List.take_append_drop known.length stored
  have rest : Extends (stored.drop known.length)
      (List.replicate (size - known.length) none) := by
    apply Extends.replicate_none
    rw [List.length_drop, length]
  have whole := (Extends.refl (stored.take known.length)).append rest
  rw [split] at whole
  exact whole

/-- Elements are appended by writing them behind the list. -/
theorem overwrite_resized
    {values : List (Option α)} :
    overwrite known.length values (resized (known.length + values.length) known)
      = known ++ values := by
  rw [overwrite_end (length_resized _ _).symm, resized,
    List.take_of_length_le (Nat.le_add_right _ _), List.take_left' rfl]

theorem Extends.overwrite
    {values knownValues : List (Option α)}
    (extended : Extends stored known)
    (extendedValues : Extends values knownValues) (offset : Nat) :
    Extends (overwrite offset values stored)
      (overwrite offset knownValues known) := by
  rw [Foundation.overwrite, Foundation.overwrite, extendedValues.length_eq]
  exact ((extended.take offset).append extendedValues).append
    (extended.drop _)

theorem Extends.slice
    (extended : Extends stored known) (offset size : Nat) :
    Extends (slice offset size stored) (slice offset size known) :=
  (extended.drop offset).take size

end Foundation
