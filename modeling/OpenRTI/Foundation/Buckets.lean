import OpenRTI.Foundation.MessageLog
import OpenRTI.Foundation.OrderedMap

/-!
# Lists collected under keys

An ordered map of lists to which values are appended one by one, and what a log
with one message for each entry of such a map has told last.
-/

namespace Foundation

namespace OrderedMap

variable {κ α τ : Type*} [LinearOrder κ]

/-- Append a value to the list under a key. -/
def pushBack
    (key : κ)
    (value : α)
    (map : OrderedMap κ (List α)) : OrderedMap κ (List α) :=
  map.alter key fun values => some (values.getD [] ++ [value])

/-- The list under a key, which is empty where there is none. -/
def bucket (map : OrderedMap κ (List α)) (key : κ) : List α :=
  (map.find? key).getD []

@[simp] theorem bucket_empty (key : κ) :
    (∅ : OrderedMap κ (List α)).bucket key = [] := rfl

@[simp] theorem bucket_pushBack
    (key wanted : κ) (value : α) (map : OrderedMap κ (List α)) :
    (map.pushBack key value).bucket wanted =
      if wanted = key then map.bucket key ++ [value]
      else map.bucket wanted := by
  rw [bucket, pushBack, find?_alter]
  split
  · rfl
  · rfl

/-- Append a value to the lists under some keys, one after the other. -/
def pushBackAll
    (keys : List κ)
    (value : α)
    (map : OrderedMap κ (List α)) : OrderedMap κ (List α) :=
  keys.foldl (fun map key => map.pushBack key value) map

theorem mem_bucket_pushBackAll
    {keys : List κ} {value element : α}
    {map : OrderedMap κ (List α)} {wanted : κ} :
    element ∈ (map.pushBackAll keys value).bucket wanted ↔
      element ∈ map.bucket wanted ∨ wanted ∈ keys ∧ element = value := by
  induction keys generalizing map with
  | nil => simp [pushBackAll]
  | cons key rest ih =>
      have step : map.pushBackAll (key :: rest) value =
          (map.pushBack key value).pushBackAll rest value := rfl
      rw [step, ih, bucket_pushBack, List.mem_cons]
      by_cases same : wanted = key
      · rw [if_pos same, List.mem_append, List.mem_singleton, same]
        tauto
      · rw [if_neg same]
        simp [same]

end OrderedMap

variable {κ α τ : Type*} [LinearOrder κ]

/-- If only the entry of one key tells anything, a log of the entries has told
last what that entry tells. -/
theorem lastTold_entries
    {tells : κ × α → Option τ} {key : κ}
    (silent : ∀ entry : κ × α, entry.1 ≠ key → tells entry = none)
    (known : τ) (map : OrderedMap κ α) :
    lastTold tells known map.entries =
      ((map.find? key).bind fun value => tells (key, value)).getD known := by
  obtain ⟨entries, ordered⟩ := map
  change lastTold tells known entries =
    ((OrderedMap.findEntry key entries).bind fun value =>
      tells (key, value)).getD known
  induction entries generalizing known with
  | nil => rfl
  | cons entry rest ih =>
      obtain ⟨other, value⟩ := entry
      rw [List.pairwise_cons] at ordered
      rw [lastTold_cons, OrderedMap.findEntry]
      by_cases same : key = other
      · -- The keys of the other entries are larger.
        have others : ∀ entry ∈ rest, tells entry = none := by
          intro entry member
          apply silent
          rw [same]
          exact (ordered.1 entry member).ne'
        rw [if_pos same, lastTold_of_silent others, same]
        rfl
      · rw [if_neg same, silent (other, value) (Ne.symm same)]
        exact ih known ordered.2

end Foundation
