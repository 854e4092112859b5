import Mathlib.Data.List.Sort
import Mathlib.Order.Defs.LinearOrder
import Mathlib.Algebra.Order.BigOperators.Group.List
import Mathlib.Algebra.Order.Ring.Nat

/-!
# Ordered maps

A finite map over a linear order, kept as the list of its entries in strictly
increasing order of their keys.  The order is a field of the map, so an entry
is determined by its key and the first entry has the least key.  All changes
of one key are instances of `alter`.
-/

namespace Foundation

/-- Entries in strictly increasing order of their keys. -/
structure OrderedMap (κ α : Type*) [LinearOrder κ] where
  entries : List (κ × α)
  ordered : entries.Pairwise fun left right => left.1 < right.1

namespace OrderedMap

variable {κ α : Type*} [LinearOrder κ]

/-! ## Lists of entries -/

/-- The value at a key. -/
def findEntry (key : κ) : List (κ × α) → Option α
  | [] => none
  | (other, value) :: rest =>
      if key = other then some value else findEntry key rest

/-- Change what a list of ordered entries holds at one key. -/
def alterEntries
    (key : κ)
    (change : Option α → Option α) : List (κ × α) → List (κ × α)
  | [] => ((change none).map fun value => (key, value)).toList
  | (other, value) :: rest =>
      if key < other then
        ((change none).map fun inserted => (key, inserted)).toList ++
          (other, value) :: rest
      else if key = other then
        ((change (some value)).map fun changed => (key, changed)).toList ++
          rest
      else (other, value) :: alterEntries key change rest

variable {key : κ} {entries : List (κ × α)}

theorem findEntry_eq_none
    (absent : ∀ entry ∈ entries, entry.1 ≠ key) :
    findEntry key entries = none := by
  induction entries with
  | nil => rfl
  | cons entry rest ih =>
      rw [List.forall_mem_cons] at absent
      rw [findEntry, if_neg absent.1.symm, ih absent.2]

variable {value : α}

theorem findEntry_eq_some_iff
    (ordered : entries.Pairwise fun left right => left.1 < right.1) :
    findEntry key entries = some value ↔ (key, value) ∈ entries := by
  induction entries with
  | nil => simp [findEntry]
  | cons entry rest ih =>
      rw [List.pairwise_cons] at ordered
      by_cases same : key = entry.1
      · have absent : (key, value) ∉ rest := fun member =>
          (ordered.1 _ member).ne same.symm
        rw [same] at absent
        rw [findEntry, if_pos same, same, Option.some_inj, List.mem_cons,
          Prod.ext_iff, or_iff_left absent, and_iff_right rfl]
        exact eq_comm
      · rw [findEntry, if_neg same, ih ordered.2,
          List.mem_cons, Prod.ext_iff]
        simp [same]

theorem mem_alterEntries
    {change : Option α → Option α} {entry : κ × α}
    (member : entry ∈ alterEntries key change entries) :
    entry.1 = key ∨ entry ∈ entries := by
  induction entries with
  | nil =>
      simp only [alterEntries, Option.mem_toList, Option.map_eq_some_iff]
        at member
      grind
  | cons first rest ih =>
      simp only [alterEntries] at member
      split at member
      · simp only [List.mem_append, Option.mem_toList,
          Option.map_eq_some_iff] at member
        grind
      · split at member
        · simp only [List.mem_append, Option.mem_toList,
            Option.map_eq_some_iff] at member
          grind
        · grind

theorem alterEntries_ordered
    (key : κ) (change : Option α → Option α)
    (ordered : entries.Pairwise fun left right => left.1 < right.1) :
    (alterEntries key change entries).Pairwise
      fun left right => left.1 < right.1 := by
  induction entries with
  | nil => cases changed : change none <;> simp [alterEntries, changed]
  | cons first rest ih =>
      have firstLeast := (List.pairwise_cons.mp ordered).1
      have restOrdered := (List.pairwise_cons.mp ordered).2
      simp only [alterEntries]
      split
      next smaller =>
        cases changed : change none with
        | none => simpa using ordered
        | some value =>
            refine List.pairwise_cons.mpr ⟨?_, ordered⟩
            intro entry member
            rcases List.mem_cons.mp member with equal | later
            · rw [equal]
              exact smaller
            · exact smaller.trans (firstLeast entry later)
      next notSmaller =>
        split
        next same =>
          cases changed : change (some first.2) with
          | none => simpa using restOrdered
          | some value =>
              refine List.pairwise_cons.mpr ⟨?_, restOrdered⟩
              intro entry member
              rw [same]
              exact firstLeast entry member
        next different =>
          refine List.pairwise_cons.mpr
            ⟨?_, ih restOrdered⟩
          intro entry member
          rcases mem_alterEntries member with equal | later
          · rw [equal]
            exact lt_of_le_of_ne (not_lt.mp notSmaller) (Ne.symm different)
          · exact firstLeast entry later

theorem findEntry_alterEntries
    (key other : κ) (change : Option α → Option α)
    (ordered : entries.Pairwise fun left right => left.1 < right.1) :
    findEntry other (alterEntries key change entries) =
      if other = key then change (findEntry key entries)
      else findEntry other entries := by
  induction entries with
  | nil => cases changed : change none <;> simp [alterEntries, findEntry, changed]
  | cons first rest ih =>
      have firstLeast := (List.pairwise_cons.mp ordered).1
      have restOrdered := (List.pairwise_cons.mp ordered).2
      simp only [alterEntries]
      split
      next smaller =>
        have absent : findEntry key (first :: rest) = none := by
          refine findEntry_eq_none ?_
          intro entry member
          rcases List.mem_cons.mp member with equal | later
          · rw [equal]
            exact smaller.ne'
          · exact (smaller.trans (firstLeast entry later)).ne'
        cases changed : change none <;> grind [findEntry]
      next notSmaller =>
        split
        next same =>
          have absent : findEntry first.1 rest = none :=
            findEntry_eq_none fun entry member =>
              (firstLeast entry member).ne'
          cases changed : change (some first.2) <;> grind [findEntry]
        next different => grind [findEntry]

/-! ## Maps -/

/-- The map without entries. -/
def empty : OrderedMap κ α where
  entries := []
  ordered := List.Pairwise.nil

instance : EmptyCollection (OrderedMap κ α) := ⟨empty⟩

instance [DecidableEq α] : DecidableEq (OrderedMap κ α) := fun left right =>
  decidable_of_iff (left.entries = right.entries) (by
    cases left
    cases right
    simp)

/-- The value at a key. -/
def find? (map : OrderedMap κ α) (key : κ) : Option α :=
  findEntry key map.entries

/-- Change what the map holds at one key. -/
def alter
    (map : OrderedMap κ α)
    (key : κ)
    (change : Option α → Option α) : OrderedMap κ α where
  entries := alterEntries key change map.entries
  ordered := alterEntries_ordered key change map.ordered

/-- Enter a value at a key, whether or not the key has one. -/
def set (map : OrderedMap κ α) (key : κ) (value : α) : OrderedMap κ α :=
  map.alter key fun _ => some value

/-- Enter a value at a key that has none; a present value stays. -/
def insert (map : OrderedMap κ α) (key : κ) (value : α) : OrderedMap κ α :=
  map.alter key fun present => some (present.getD value)

/-- Remove a key. -/
def erase (map : OrderedMap κ α) (key : κ) : OrderedMap κ α :=
  map.alter key fun _ => none

/-- The entry with the least key. -/
def begin? (map : OrderedMap κ α) : Option (κ × α) :=
  map.entries.head?

def isEmpty (map : OrderedMap κ α) : Bool :=
  map.entries.isEmpty

/-- Apply a function to all values. -/
def mapValues (map : OrderedMap κ α) (change : α → β) : OrderedMap κ β where
  entries := map.entries.map fun entry => (entry.1, change entry.2)
  ordered := List.pairwise_map.mpr map.ordered

/-- Remove the first entries, as long as their values have a property. -/
def dropWhile (map : OrderedMap κ α) (holds : α → Bool) : OrderedMap κ α where
  entries := map.entries.dropWhile fun entry => holds entry.2
  ordered := map.ordered.sublist (List.dropWhile_sublist _)

@[simp] theorem find?_empty (key : κ) :
    (∅ : OrderedMap κ α).find? key = none := rfl

theorem find?_eq_some_iff
    {map : OrderedMap κ α} :
    map.find? key = some value ↔ (key, value) ∈ map.entries :=
  findEntry_eq_some_iff map.ordered

variable {left : OrderedMap κ α}

/-- A map is determined by what it holds at the keys. -/
theorem eq_of_find?
    {right : OrderedMap κ α}
    (same : ∀ key, left.find? key = right.find? key) :
    left = right := by
  have entries : left.entries = right.entries := by
    have : Std.Irrefl fun first second : κ × α => first.1 < second.1 :=
      ⟨fun entry => lt_irrefl entry.1⟩
    have : Std.Asymm fun first second : κ × α => first.1 < second.1 :=
      ⟨fun _ _ => lt_asymm⟩
    refine left.ordered.eq_of_mem_iff right.ordered ?_
    intro entry
    rw [← find?_eq_some_iff, ← find?_eq_some_iff, same]
  cases left
  cases right
  cases entries
  rfl

variable (map : OrderedMap κ α)

theorem find?_alter
    (key other : κ) (change : Option α → Option α) :
    (map.alter key change).find? other =
      if other = key then change (map.find? key) else map.find? other :=
  findEntry_alterEntries key other change map.ordered

@[simp] theorem find?_set
    (key other : κ) (value : α) :
    (map.set key value).find? other =
      if other = key then some value else map.find? other :=
  map.find?_alter key other _

theorem find?_set_self
    (key : κ) (value : α) :
    (map.set key value).find? key = some value := by
  rw [find?_set, if_pos rfl]

theorem find?_set_of_ne
    {other : κ}
    (different : other ≠ key)
    (map : OrderedMap κ α) (value : α) :
    (map.set key value).find? other = map.find? other := by
  rw [find?_set, if_neg different]

@[simp] theorem find?_insert
    (key other : κ) (value : α) :
    (map.insert key value).find? other =
      if other = key then some ((map.find? key).getD value)
      else map.find? other :=
  map.find?_alter key other _

@[simp] theorem find?_erase
    (key other : κ) :
    (map.erase key).find? other =
      if other = key then none else map.find? other :=
  map.find?_alter key other _

theorem findEntry_map
    (change : α → β) (key : κ) (entries : List (κ × α)) :
    findEntry key (entries.map fun entry => (entry.1, change entry.2)) =
      (findEntry key entries).map change := by
  induction entries with
  | nil => rfl
  | cons entry rest ih =>
      rw [List.map_cons, findEntry, findEntry, ih]
      by_cases same : key = entry.1
      · rw [if_pos same, if_pos same, Option.map_some]
      · rw [if_neg same, if_neg same]

theorem find?_mapValues
    (change : α → β) (key : κ) :
    (map.mapValues change).find? key = (map.find? key).map change :=
  findEntry_map change key map.entries

variable {first : κ × α}

/-- The first entry has the least key. -/
theorem begin?_le
    {map : OrderedMap κ α}
    (isFirst : map.begin? = some first)
    (found : map.find? key = some value) :
    first.1 ≤ key := by
  have member := find?_eq_some_iff.mp found
  obtain ⟨rest, entries⟩ := List.head?_eq_some_iff.mp isFirst
  have ordered := map.ordered
  rw [entries, List.pairwise_cons] at ordered
  rw [entries] at member
  rcases List.mem_cons.mp member with equal | later
  · exact (congrArg Prod.fst equal).ge
  · exact (ordered.1 _ later).le

/-- The first entry is an entry. -/
theorem find?_begin?
    {map : OrderedMap κ α}
    (isFirst : map.begin? = some first) :
    map.find? first.1 = some first.2 :=
  find?_eq_some_iff.mpr (List.mem_of_head? isFirst)

theorem begin?_eq_none_iff
    {map : OrderedMap κ α} :
    map.begin? = none ↔ ∀ key, map.find? key = none := by
  constructor
  · intro noFirst key
    rw [find?, List.head?_eq_none_iff.mp noFirst]
    rfl
  · intro absent
    cases first : map.begin? with
    | none => rfl
    | some entry => simpa [absent] using find?_begin? first

/-- The least key depends on the keys only. -/
theorem begin?_le_of_find?
    {right : OrderedMap κ β}
    (present : ∀ key, right.find? key ≠ none → left.find? key ≠ none)
    {second : κ × β}
    (isFirst : left.begin? = some first)
    (isSecond : right.begin? = some second) :
    first.1 ≤ second.1 := by
  have found := find?_begin? isSecond
  obtain ⟨value, held⟩ := Option.ne_none_iff_exists'.mp
    (present second.1 (by simp [found]))
  exact begin?_le isFirst held

theorem begin?_fst_congr
    {right : OrderedMap κ β}
    (same : ∀ key, left.find? key = none ↔ right.find? key = none) :
    left.begin?.map Prod.fst = right.begin?.map Prod.fst := by
  cases first : left.begin? with
  | none =>
      have absent := begin?_eq_none_iff.mp first
      rw [begin?_eq_none_iff.mpr fun key => (same key).mp (absent key)]
      rfl
  | some entry =>
      cases second : right.begin? with
      | none =>
          have absent := (same entry.1).mpr (begin?_eq_none_iff.mp second _)
          rw [find?_begin? first] at absent
          cases absent
      | some other =>
          have lower := begin?_le_of_find?
            (fun key => mt (same key).mp) first second
          have upper := begin?_le_of_find?
            (fun key => mt (same key).mpr) second first
          exact congrArg some (le_antisymm lower upper)

theorem isEmpty_iff
    {map : OrderedMap κ α} :
    map.isEmpty = true ↔ ∀ key, map.find? key = none := by
  rw [isEmpty, List.isEmpty_iff, ← begin?_eq_none_iff, begin?,
    List.head?_eq_none_iff]

/-! ## Sums over the entries -/

/-- The sum of the weights of all values. -/
def sum (map : OrderedMap κ α) (weight : α → Nat) : Nat :=
  (map.entries.map fun entry => weight entry.2).sum

/-- The weight of a value, where there is one. -/
def weightOf (weight : α → Nat) (value : Option α) : Nat :=
  value.elim 0 weight

@[simp] theorem weightOf_none (weight : α → Nat) :
    weightOf weight none = 0 := rfl

@[simp] theorem weightOf_some (weight : α → Nat) (value : α) :
    weightOf weight (some value) = weight value := rfl

@[simp] theorem sum_empty (weight : α → Nat) :
    (∅ : OrderedMap κ α).sum weight = 0 := rfl

variable (weight : α → Nat)

theorem sum_alterEntries
    (key : κ) (change : Option α → Option α)
    (ordered : entries.Pairwise fun left right => left.1 < right.1) :
    ((alterEntries key change entries).map fun entry => weight entry.2).sum +
        weightOf weight (findEntry key entries) =
      (entries.map fun entry => weight entry.2).sum +
        weightOf weight (change (findEntry key entries)) := by
  induction entries with
  | nil =>
      cases changed : change none <;>
        simp [alterEntries, findEntry, changed]
  | cons first rest ih =>
      have firstLeast := (List.pairwise_cons.mp ordered).1
      have restOrdered := (List.pairwise_cons.mp ordered).2
      simp only [alterEntries]
      split
      next smaller =>
        have absent : findEntry key (first :: rest) = none := by
          refine findEntry_eq_none ?_
          intro entry member
          rcases List.mem_cons.mp member with equal | later
          · rw [equal]
            exact smaller.ne'
          · exact (smaller.trans (firstLeast entry later)).ne'
        rw [absent]
        cases changed : change none <;> simp
        omega
      next notSmaller =>
        split
        next same =>
          rw [findEntry, if_pos same]
          cases changed : change (some first.2) <;> simp <;> omega
        next different =>
          simp only [findEntry, if_neg different, List.map_cons,
            List.sum_cons]
          have summed := ih restOrdered
          omega

/-- Changing one key changes the sum by what the key held and holds. -/
theorem sum_alter
    (key : κ) (change : Option α → Option α) :
    (map.alter key change).sum weight + weightOf weight (map.find? key) =
      map.sum weight + weightOf weight (change (map.find? key)) :=
  sum_alterEntries weight key change map.ordered

theorem sum_set
    (key : κ) (value : α) :
    (map.set key value).sum weight + weightOf weight (map.find? key) =
      map.sum weight + weight value :=
  map.sum_alter weight key _

theorem sum_erase
    (key : κ) :
    (map.erase key).sum weight + weightOf weight (map.find? key) =
      map.sum weight :=
  map.sum_alter weight key _

theorem sum_insert_le
    (key : κ) (value : α) :
    (map.insert key value).sum weight ≤ map.sum weight + weight value := by
  have summed := map.sum_alter weight key
    fun present => some (present.getD value)
  rw [insert]
  cases present : map.find? key with
  | none =>
      rw [present] at summed
      exact summed.le
  | some found =>
      rw [present] at summed
      simp only [Option.getD_some] at summed
      omega

/-- The weight of each value is part of the sum. -/
theorem weight_le_sum
    {map : OrderedMap κ α}
    (found : map.find? key = some value) :
    weight value ≤ map.sum weight :=
  List.le_sum_of_mem
    (List.mem_map.mpr ⟨_, find?_eq_some_iff.mp found, rfl⟩)

/-- Values without weight can be removed. -/
theorem sum_dropWhile
    (holds : α → Bool)
    (weightless : ∀ value, holds value = true → weight value = 0) :
    (map.dropWhile holds).sum weight = map.sum weight := by
  simp only [sum, dropWhile]
  induction map.entries with
  | nil => rfl
  | cons first rest ih =>
      rw [List.dropWhile_cons]
      split
      next dropped =>
        rw [ih, List.map_cons, List.sum_cons,
          weightless first.2 dropped, Nat.zero_add]
      next => rfl

theorem sum_mono
    {weight greater : α → Nat}
    (le : ∀ value, weight value ≤ greater value) :
    map.sum weight ≤ map.sum greater := by
  rw [sum, sum]
  induction map.entries with
  | nil => exact Nat.le_refl 0
  | cons first rest ih =>
      rw [List.map_cons, List.map_cons, List.sum_cons, List.sum_cons]
      exact Nat.add_le_add (le first.2) ih

theorem sum_mapValues
    (weight : β → Nat) (change : α → β) :
    (map.mapValues change).sum weight =
      map.sum fun value => weight (change value) := by
  rw [sum, mapValues, List.map_map]
  rfl

end OrderedMap
end Foundation
