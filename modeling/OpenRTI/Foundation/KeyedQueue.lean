import OpenRTI.Foundation.OrderedMap

/-!
# Queues ordered by a key

A map from keys to lists serves as a queue: values are appended to the list of
their key, and the first value of the least key is taken.  What such a queue
holds is read key by key, so that an empty list and a missing one are the same.
-/

namespace Foundation
namespace KeyedQueue

variable {κ α : Type*} [LinearOrder κ]

/-- The values queued at a key, oldest first. -/
def listAt (queue : OrderedMap κ (List α)) (key : κ) : List α :=
  (queue.find? key).getD []

theorem mem_entries_of_mem_listAt
    {queue : OrderedMap κ (List α)} {key : κ}
    {value : α}
    (member : value ∈ listAt queue key) :
    ∃ values, queue.find? key = some values ∧ value ∈ values := by
  unfold listAt at member
  cases found : queue.find? key with
  | none => simp [found] at member
  | some values =>
      rw [found] at member
      exact ⟨values, rfl, member⟩

variable (queue : OrderedMap κ (List α)) (key : κ)

/-- Appending a value at a key. -/
theorem listAt_append
    (other : κ) (value : α) :
    listAt
        (queue.alter key fun present => some (present.getD [] ++ [value]))
        other =
      listAt queue other ++ if other = key then [value] else [] := by
  unfold listAt
  rw [OrderedMap.find?_alter]
  split
  next same =>
    rw [same]
    rfl
  next => exact (List.append_nil _).symm

/-- Taking the first value of a key. -/
theorem listAt_tail
    (other : κ) (rest : List α) :
    listAt
        (queue.alter key fun _ => if rest.isEmpty then none else some rest)
        other =
      if other = key then rest else listAt queue other := by
  unfold listAt
  rw [OrderedMap.find?_alter]
  split
  next => cases rest <;> rfl
  next => rfl

theorem findEntry_map
    {β : Type*}
    (change : α → β) (key : κ) (entries : List (κ × α)) :
    OrderedMap.findEntry key
        (entries.map fun entry => (entry.1, change entry.2)) =
      (OrderedMap.findEntry key entries).map change := by
  induction entries with
  | nil => rfl
  | cons entry rest ih =>
      obtain ⟨other, value⟩ := entry
      simp only [List.map_cons, OrderedMap.findEntry]
      split
      · rfl
      · exact ih

/-- Dropping values from all lists. -/
theorem listAt_filter
    (keep : α → Bool) (key : κ) :
    listAt (queue.mapValues fun values => values.filter keep) key =
      (listAt queue key).filter keep := by
  have mapped := findEntry_map (fun values : List α => values.filter keep) key
    queue.entries
  unfold listAt OrderedMap.find? OrderedMap.mapValues
  rw [mapped]
  cases OrderedMap.findEntry key queue.entries <;> rfl

/-- Removing the empty lists in front removes no value. -/
theorem listAt_dropWhile_isEmpty :
    listAt (queue.dropWhile fun values => values.isEmpty) key =
      listAt queue key := by
  have kept : ∀ entries : List (κ × List α),
      (entries.Pairwise fun left right => left.1 < right.1) →
        (OrderedMap.findEntry key
          (entries.dropWhile fun entry => entry.2.isEmpty)).getD [] =
            (OrderedMap.findEntry key entries).getD [] := by
    intro entries ordered
    induction entries with
    | nil => rfl
    | cons entry rest ih =>
        obtain ⟨other, values⟩ := entry
        obtain ⟨above, restOrdered⟩ := List.pairwise_cons.mp ordered
        rw [List.dropWhile_cons]
        split
        next empty =>
          rw [ih restOrdered, OrderedMap.findEntry]
          split
          next same =>
            have absent : OrderedMap.findEntry key rest = none :=
              OrderedMap.findEntry_eq_none fun later member =>
                same ▸ (above later member).ne'
            rw [absent]
            exact (List.isEmpty_iff.mp empty).symm
          next => rfl
        next => rfl
  exact kept queue.entries queue.ordered

/-- The least key is at most every key with a value. -/
theorem begin?_le_of_mem
    {queue : OrderedMap κ (List α)} {first : κ × List α}
    (least : queue.begin? = some first)
    {key : κ} {value : α}
    (member : value ∈ listAt queue key) :
    first.1 ≤ key := by
  obtain ⟨values, found, -⟩ := mem_entries_of_mem_listAt member
  exact OrderedMap.begin?_le least found

theorem listAt_begin?
    {queue : OrderedMap κ (List α)} {first : κ × List α}
    (least : queue.begin? = some first) :
    listAt queue first.1 = first.2 := by
  rw [listAt, OrderedMap.find?_begin? least]
  rfl

/-- All queued values, in the order of their keys. -/
def values (queue : OrderedMap κ (List α)) : List α :=
  queue.entries.flatMap Prod.snd

/-- Values that are queued at one key only. -/
theorem filter_values
    (keep : α → Bool)
    (only :
      ∀ other value, value ∈ listAt queue other → keep value = true →
        other = key) :
    (values queue).filter keep = (listAt queue key).filter keep := by
  have filtered : ∀ entries : List (κ × List α),
      (entries.Pairwise fun left right => left.1 < right.1) →
      (∀ entry ∈ entries, ∀ value ∈ entry.2, keep value = true →
        entry.1 = key) →
      (entries.flatMap Prod.snd).filter keep =
        ((OrderedMap.findEntry key entries).getD []).filter keep := by
    intro entries ordered onlyKey
    induction entries with
    | nil => rfl
    | cons entry rest ih =>
        obtain ⟨other, queued⟩ := entry
        obtain ⟨above, restOrdered⟩ := List.pairwise_cons.mp ordered
        have restFiltered := ih restOrdered
          fun later member => onlyKey later (List.mem_cons_of_mem _ member)
        rw [List.flatMap_cons, List.filter_append, restFiltered,
          OrderedMap.findEntry]
        split
        next same =>
          have absent : OrderedMap.findEntry key rest = none :=
            OrderedMap.findEntry_eq_none fun later member =>
              same ▸ (above later member).ne'
          rw [absent]
          exact List.append_nil _
        next different =>
          have none : queued.filter keep = [] := by
            apply List.filter_eq_nil_iff.mpr
            intro value member kept
            exact different
              (onlyKey (other, queued) List.mem_cons_self value member kept).symm
          rw [none]
          rfl
  refine filtered queue.entries queue.ordered ?_
  intro entry member value queued kept
  refine only entry.1 value ?_ kept
  have found := OrderedMap.find?_eq_some_iff.mpr member
  rw [listAt, found]
  exact queued

end KeyedQueue
end Foundation
