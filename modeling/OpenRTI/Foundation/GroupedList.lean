import Mathlib.Data.List.Perm.Basic
import Mathlib.Data.List.TakeWhile
import Mathlib.Tactic.Common

/-!
# Lists grouped by a key

The iteration order of a hash map whose insertion puts a new element before the
first one with the same key, and at the end if there is none.  A lookup finds
the first element with a key.
-/

namespace Foundation

variable {α κ : Type*} [DecidableEq κ]

/-- Insert before the first element with the same key, or at the end. -/
def insertGrouped (key : α → κ) (value : α) : List α → List α
  | [] => [value]
  | first :: rest =>
      if key first = key value then value :: first :: rest
      else first :: insertGrouped key value rest

/-- Insert before the first element that a condition holds of, or at the end. -/
def insertBeforeFirst (found : α → Bool) (value : α) : List α → List α
  | [] => [value]
  | first :: rest =>
      if found first then value :: first :: rest
      else first :: insertBeforeFirst found value rest

omit [DecidableEq κ] in
theorem insertBeforeFirst_false (value : α) (elements : List α) :
    insertBeforeFirst (fun _ => false) value elements = elements ++ [value] := by
  induction elements with
  | nil => rfl
  | cons first rest ih =>
      rw [insertBeforeFirst, ih]
      rfl

theorem insertGrouped_eq
    (key : α → κ) (value : α) (elements : List α) :
    insertGrouped key value elements =
      insertBeforeFirst (fun element => key value = key element) value elements := by
  induction elements with
  | nil => rfl
  | cons first rest ih =>
      rw [insertGrouped, insertBeforeFirst, ih]
      by_cases same : key first = key value
      · simp [same]
      · simp [same, Ne.symm same]

omit [DecidableEq κ] in
/-- Where a list is split in front of the first element that a condition holds of. -/
theorem exists_split_find
    (found : α → Bool) (elements : List α) :
    ∃ front back, elements = front ++ back ∧
      (∀ element ∈ front, found element = false) ∧
      back.head? = elements.find? found ∧
      ∀ value, insertBeforeFirst found value elements = front ++ value :: back := by
  induction elements with
  | nil => exact ⟨[], [], rfl, by simp, rfl, fun _ => rfl⟩
  | cons first rest ih =>
      cases here : found first with
      | true =>
          exact ⟨[], first :: rest, rfl, by simp, by simp [here],
            fun value => by simp [insertBeforeFirst, here]⟩
      | false =>
          obtain ⟨front, back, split, passes, head, inserts⟩ := ih
          refine ⟨first :: front, back, by rw [split]; rfl, ?_, ?_, ?_⟩
          · intro element member
            obtain rfl | member := List.mem_cons.mp member
            · exact here
            · exact passes element member
          · rw [head, List.find?_cons, here]
          · intro value
            simp [insertBeforeFirst, here, inserts]

/-- The first element with a key. -/
def findGrouped (key : α → κ) (wanted : κ) (elements : List α) : Option α :=
  elements.find? fun element => key element = wanted

theorem insertGrouped_perm
    (key : α → κ) (value : α) (elements : List α) :
    (insertGrouped key value elements).Perm (value :: elements) := by
  induction elements with
  | nil => exact List.Perm.refl _
  | cons first rest ih =>
      rw [insertGrouped]
      split
      · exact List.Perm.refl _
      · exact (ih.cons first).trans (List.Perm.swap _ _ _)

variable {key : α → κ} {elements : List α}

@[simp] theorem mem_insertGrouped
    {value element : α} :
    element ∈ insertGrouped key value elements ↔
      element = value ∨ element ∈ elements := by
  rw [(insertGrouped_perm key value elements).mem_iff, List.mem_cons]

/-- The inserted element is the one found with its key. -/
theorem findGrouped_insertGrouped
    (key : α → κ) (value : α) (wanted : κ) (elements : List α) :
    findGrouped key wanted (insertGrouped key value elements) =
      if key value = wanted then some value
      else findGrouped key wanted elements := by
  induction elements with
  | nil =>
      by_cases same : key value = wanted <;>
        simp [insertGrouped, findGrouped, same]
  | cons first rest ih =>
      rw [findGrouped] at ih ⊢
      by_cases grouped : key first = key value
      · by_cases same : key value = wanted <;>
          simp [insertGrouped, findGrouped, grouped, same]
      · rw [insertGrouped, if_neg grouped, List.find?_cons, ih]
        by_cases same : key value = wanted
        · have other : key first ≠ wanted := fun equal =>
            grouped (equal.trans same.symm)
          simp [same, other]
        · simp [findGrouped, same, List.find?_cons]

theorem findGrouped_eq_some
    {wanted : κ} {found : α}
    (finds : findGrouped key wanted elements = some found) :
    found ∈ elements ∧ key found = wanted :=
  ⟨List.mem_of_find?_eq_some finds,
    by simpa using List.find?_some finds⟩

theorem findGrouped_eq_none
    {wanted : κ} :
    findGrouped key wanted elements = none ↔
      ∀ element ∈ elements, key element ≠ wanted := by
  simp [findGrouped]

/-- What is found with a key is found among the elements that a condition on the key
selects. -/
theorem findGrouped_filter
    {key : α → κ} {selects : κ → Bool}
    {wanted : κ}
    (selected : selects wanted = true)
    (elements : List α) :
    findGrouped key wanted (elements.filter fun element => selects (key element)) =
      findGrouped key wanted elements := by
  rw [findGrouped, List.find?_filter, findGrouped]
  congr 1
  funext element
  by_cases same : key element = wanted
  · simp [same, selected]
  · simp [same]

/-- An insertion into what a condition on the key selects. -/
theorem filter_insertGrouped
    (key : α → κ) (selects : κ → Bool) (value : α) (elements : List α) :
    (insertGrouped key value elements).filter (fun element => selects (key element)) =
      if selects (key value) then
        insertGrouped key value
          (elements.filter fun element => selects (key element))
      else elements.filter fun element => selects (key element) := by
  induction elements with
  | nil =>
      by_cases selected : selects (key value) = true
      · simp [insertGrouped, selected]
      · simp [insertGrouped, selected]
  | cons first rest ih =>
      rw [insertGrouped]
      by_cases here : key first = key value
      · by_cases selected : selects (key value) = true
        · simp [here, selected, insertGrouped]
        · simp [here, selected]
      · rw [if_neg here, List.filter_cons, ih, List.filter_cons]
        by_cases selected : selects (key value) = true
        · by_cases first : selects (key first) = true
          · simp [selected, first, insertGrouped, here]
          · simp [selected, first]
        · simp [selected]

/-- Elements with the same key stand together. -/
def Grouped (key : α → κ) (elements : List α) : Prop :=
  ∀ first middle last, [first, middle, last].Sublist elements →
    key first = key last → key middle = key first

omit [DecidableEq κ] in
theorem Grouped.sublist
    {fewer : List α}
    (grouped : Grouped key elements) (sublist : fewer.Sublist elements) :
    Grouped key fewer :=
  fun first middle last inside =>
    grouped first middle last (inside.trans sublist)

omit [DecidableEq κ] in
theorem Grouped.congr
    {other : α → κ}
    (grouped : Grouped key elements)
    (same : ∀ element ∈ elements, other element = key element) :
    Grouped other elements := by
  intro first middle last inside equal
  rw [same first (inside.subset (by simp)), same last (inside.subset (by simp))]
    at equal
  rw [same first (inside.subset (by simp)), same middle (inside.subset (by simp))]
  exact grouped first middle last inside equal

/-- What stands behind the inserted element is behind one with the same key, if it
does not have the key itself. -/
theorem pair_sublist_insertGrouped
    {value first last : α}
    (inside : [first, last].Sublist (insertGrouped key value elements)) :
    [first, last].Sublist elements ∨ key last = key value ∨
      first = value ∧
        ∃ other, key other = key value ∧ [other, last].Sublist elements := by
  induction elements with
  | nil =>
      have short := inside.length_le
      simp [insertGrouped] at short
  | cons head rest ih =>
      rw [insertGrouped] at inside
      split at inside
      · rename_i same
        cases inside with
        | cons _ inside => exact Or.inl inside
        | cons_cons _ inside =>
            obtain rfl | member := List.mem_cons.mp (List.singleton_sublist.mp inside)
            · exact Or.inr (Or.inl same)
            · exact Or.inr (Or.inr ⟨rfl, head, same,
                (List.singleton_sublist.mpr member).cons_cons head⟩)
      · cases inside with
        | cons _ inside =>
            obtain old | same | ⟨rfl, other, same, behind⟩ :=
              ih inside
            · exact Or.inl (old.cons head)
            · exact Or.inr (Or.inl same)
            · exact Or.inr (Or.inr ⟨rfl, other, same, behind.cons head⟩)
        | cons_cons _ inside =>
            obtain rfl | member :=
              mem_insertGrouped.mp (List.singleton_sublist.mp inside)
            · exact Or.inr (Or.inl rfl)
            · exact Or.inl ((List.singleton_sublist.mpr member).cons_cons first)

theorem Grouped.insertGrouped
    (grouped : Grouped key elements) (value : α) :
    Grouped key (insertGrouped key value elements) := by
  induction elements with
  | nil =>
      intro first middle last inside
      have short := inside.length_le
      simp [Foundation.insertGrouped] at short
  | cons head rest ih =>
      have groupedRest : Grouped key rest :=
        grouped.sublist (List.sublist_cons_self head rest)
      rw [Foundation.insertGrouped]
      split
      · rename_i same
        intro first middle last inside equal
        cases inside with
        | cons _ inside => exact grouped first middle last inside equal
        | cons_cons _ inside =>
            cases inside with
            | cons _ inside =>
                have ended := grouped head middle last (inside.cons_cons head)
                  (same.trans equal)
                exact ended.trans same
            | cons_cons _ inside => exact same
      · rename_i different
        intro first middle last inside equal
        cases inside with
        | cons _ inside =>
            exact ih groupedRest first middle last inside equal
        | cons_cons _ inside =>
            obtain old | same | ⟨rfl, other, same, behind⟩ :=
              pair_sublist_insertGrouped inside
            · exact grouped head middle last (old.cons_cons head) equal
            · exact absurd (equal.trans same) different
            · have ended := grouped head other last (behind.cons_cons head) equal
              exact same.symm.trans ended

/-- The elements with a key are one part of a grouped list, which starts with the one
that is found. -/
theorem Grouped.exists_split
    (grouped : Grouped key elements) (wanted : κ) :
    ∃ front group back, elements = front ++ (group ++ back) ∧
      (∀ element ∈ front, key element ≠ wanted) ∧
      (∀ element ∈ group, key element = wanted) ∧
      (∀ element ∈ back, key element ≠ wanted) ∧
      findGrouped key wanted elements = (group ++ back).head? := by
  obtain ⟨front, rest, split, passes, head, _⟩ :=
    exists_split_find (fun element => decide (key element = wanted)) elements
  have notFront : ∀ element ∈ front, key element ≠ wanted :=
    fun element member => of_decide_eq_false (passes element member)
  cases rest with
  | nil =>
      exact ⟨front, [], [], split, notFront, by simp, by simp, head.symm⟩
  | cons first rest =>
      have same : key first = wanted := by
        simpa using List.find?_some head.symm
      refine ⟨front, first :: rest.takeWhile (fun element => key element = wanted),
        rest.dropWhile (fun element => key element = wanted), ?_, notFront, ?_, ?_,
        head.symm⟩
      · rw [List.cons_append, List.takeWhile_append_dropWhile]
        exact split
      · intro element member
        obtain rfl | member := List.mem_cons.mp member
        · exact same
        · simpa using List.mem_takeWhile_imp member
      · intro element member equal
        -- The element would stand behind one with another key.
        cases dropped : rest.dropWhile fun element => key element = wanted with
        | nil => simp [dropped] at member
        | cons other later =>
            have different : ¬ key other = wanted := by
              have stops := List.head?_dropWhile_not
                (fun element => decide (key element = wanted)) rest
              rw [dropped] at stops
              simpa using stops
            rw [dropped] at member
            obtain rfl | behind := List.mem_cons.mp member
            · exact different equal
            · have suffix : (other :: later).Sublist rest := by
                rw [← dropped]
                exact List.dropWhile_sublist _
              have inside : [first, other, element].Sublist elements := by
                rw [split]
                exact ((((List.singleton_sublist.mpr behind).cons_cons other).trans
                  suffix).cons_cons first).trans (List.sublist_append_right _ _)
              have ended := grouped first other element inside
                (same.trans equal.symm)
              exact different (ended.trans same)

/-- Change the first element with a key. -/
def modifyGrouped
    (key : α → κ)
    (wanted : κ)
    (change : α → α) : List α → List α
  | [] => []
  | first :: rest =>
      if key first = wanted then change first :: rest
      else first :: modifyGrouped key wanted change rest

/-- A change that keeps the key changes what is found with that key, and nothing
else. -/
theorem findGrouped_modifyGrouped
    {change : α → α}
    (keeps : ∀ element, key (change element) = key element)
    (wanted other : κ) (elements : List α) :
    findGrouped key other (modifyGrouped key wanted change elements) =
      if other = wanted then (findGrouped key other elements).map change
      else findGrouped key other elements := by
  induction elements with
  | nil => simp [modifyGrouped, findGrouped]
  | cons first rest ih =>
      rw [findGrouped] at ih ⊢
      rw [modifyGrouped, findGrouped, List.find?_cons]
      by_cases here : key first = wanted
      · rw [if_pos here, List.find?_cons, keeps]
        by_cases same : other = wanted
        · simp [same, here]
        · have different : key first ≠ other := fun equal =>
            same (equal.symm.trans here)
          simp [same, different]
      · rw [if_neg here, List.find?_cons, ih]
        by_cases found : key first = other
        · have same : other ≠ wanted := fun equal =>
            here (found.trans equal)
          simp [found, same]
        · simp [found, findGrouped]

/-- An observation that the change keeps is kept of all elements. -/
theorem map_modifyGrouped
    {β : Type*} {key : α → κ}
    {wanted : κ} {change : α → α}
    {observe : α → β}
    (keeps : ∀ element, observe (change element) = observe element)
    (elements : List α) :
    (modifyGrouped key wanted change elements).map observe =
      elements.map observe := by
  induction elements with
  | nil => rfl
  | cons first rest ih =>
      rw [modifyGrouped]
      split
      · rw [List.map_cons, List.map_cons, keeps]
      · rw [List.map_cons, List.map_cons, ih]

end Foundation
