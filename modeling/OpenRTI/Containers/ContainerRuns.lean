import OpenRTI.Containers.ContainerContents

/-!
# Runs of the containers

A client inserts elements that are not linked, and removes and deletes elements that
exist, in any order.  If each map has a bucket then all of these calls are defined and
the hooks stay intact.
-/

namespace OpenRTI
namespace Containers

open Foundation

variable {κ μ ε Key : Type*}
variable [DecidableEq κ] [DecidableEq μ] [DecidableEq ε] [DecidableEq Key]

namespace Contents

def perform (contents : Contents κ μ ε Key) :
    Containers.Call κ μ ε Key → Contents κ μ ε Key
  | .construct value key => contents.construct value key
  | .destroy value => contents.destroy value
  | .setKey value key => contents.setKey value key
  | .insert list place value => contents.insert list place value
  | .unlinkAt _ _ value => contents.unlink value
  | .unlink value => contents.unlink value
  | .eraseAt _ _ value => contents.destroy value
  | .swap list other => contents.swap list other
  | .insertMap map value => contents.insertMap map value
  | .unlinkMapAt _ _ value => contents.unlinkMap value
  | .unlinkMap value => contents.unlinkMap value
  | .eraseMapAt _ _ value => contents.destroy value

omit [DecidableEq κ] [DecidableEq μ] [DecidableEq ε] [DecidableEq Key] in
/-- What a client may call.  An element that is inserted or gets a new key is not
linked, and an iterator is to an element of its list or at the end. -/
def Permitted (contents : Contents κ μ ε Key) : Containers.Call κ μ ε Key → Prop
  | .construct value _ => value ∉ contents.elements
  | .destroy value => value ∈ contents.elements
  | .setKey value _ =>
      value ∈ contents.elements ∧ ∀ map, value ∉ contents.maps map
  | .insert list place value =>
      value ∈ contents.elements ∧ (∀ list, value ∉ contents.lists list) ∧
        (place = .head list ∨
          ∃ element ∈ contents.lists list, place = .element element)
  | .unlinkAt list _ value => value ∈ contents.lists list
  | .unlink value => value ∈ contents.elements
  | .eraseAt list _ value => value ∈ contents.lists list
  | .swap _ _ => True
  | .insertMap _ value =>
      value ∈ contents.elements ∧ ∀ map, value ∉ contents.maps map
  | .unlinkMapAt map _ value => value ∈ contents.maps map
  | .unlinkMap value => value ∈ contents.elements
  | .eraseMapAt map _ value => value ∈ contents.maps map

end Contents

/-- The states of a run, with the contents that they are to have. -/
inductive Reached (hashing : Hashing μ Key) :
    Containers κ μ ε Key → Contents κ μ ε Key → Prop
  | start (key : ε → Key) : Reached hashing (.initial key) (.initial key)
  | step
      {before after : Containers κ μ ε Key}
      {contents : Contents κ μ ε Key}
      {call : Containers.Call κ μ ε Key}
      (reached : Reached hashing before contents)
      (permitted : contents.Permitted call)
      (performed : before.perform hashing call = some after) :
      Reached hashing after (contents.perform call)

/-- The hooks are intact, all calls are defined, and the first element with a key is
found. -/
structure Correct
    (hashing : Hashing μ Key)
    (state : Containers κ μ ε Key)
    (contents : Contents κ μ ε Key) : Prop where
  intact : Intact hashing state contents
  performs : ∀ call, contents.Permitted call →
    (state.perform hashing call).isSome = true
  finds : ∀ map key, state.find hashing map key =
    some (HookRing.foundAt map (findGrouped contents.key key (contents.maps map)))

variable {hashing : Hashing μ Key}
variable {state : Containers κ μ ε Key} {contents : Contents κ μ ε Key}

omit [DecidableEq μ] [DecidableEq Key] in
theorem exists_index
    {map : μ}
    (positive : 0 < hashing.numBuckets map)
    (key : Key) :
    ∃ index, hashing.index map key = some index :=
  ⟨_, if_neg positive.ne'⟩

/-- A call that a client may make does what it is to do. -/
theorem Intact.perform
    (intact : Intact hashing state contents)
    (positive : ∀ map, 0 < hashing.numBuckets map)
    {call : Containers.Call κ μ ε Key}
    (permitted : contents.Permitted call) :
    ∃ after, state.perform hashing call = some after ∧
      Intact hashing after (contents.perform call) := by
  cases call with
  | construct value key => exact ⟨_, rfl, intact.construct permitted key⟩
  | destroy value => exact ⟨_, rfl, intact.destroy permitted⟩
  | setKey value key => exact intact.setKey permitted.1 permitted.2 key
  | insert list place value =>
      exact intact.insert permitted.1 permitted.2.1 permitted.2.2
  | unlinkAt list direction value =>
      obtain ⟨next, unlinked⟩ := intact.unlinkAt permitted direction
      refine ⟨_, ?_, intact.unlink (intact.list.exist list value permitted)⟩
      rw [Containers.perform, unlinked]
      rfl
  | unlink value => exact ⟨_, rfl, intact.unlink permitted⟩
  | eraseAt list direction value =>
      obtain ⟨next, erased⟩ := intact.eraseAt permitted direction
      refine ⟨_, ?_, intact.destroy (intact.list.exist list value permitted)⟩
      rw [Containers.perform, erased]
      rfl
  | swap list other => exact ⟨_, rfl, intact.swap list other⟩
  | insertMap map value =>
      obtain ⟨index, indexed⟩ :=
        exists_index (positive map) (contents.key value)
      exact intact.insertMap permitted.1 permitted.2 indexed
  | unlinkMapAt map direction value =>
      obtain ⟨next, unlinked⟩ := intact.unlinkMapAt permitted direction
      refine ⟨_, ?_, intact.unlinkMap (intact.totalList.exist map value permitted)⟩
      rw [Containers.perform, unlinked]
      rfl
  | unlinkMap value => exact ⟨_, rfl, intact.unlinkMap permitted⟩
  | eraseMapAt map direction value =>
      obtain ⟨next, erased⟩ := intact.eraseMapAt permitted direction
      refine ⟨_, ?_, intact.destroy (intact.totalList.exist map value permitted)⟩
      rw [Containers.perform, erased]
      rfl

/-- The hooks of all states of a run are intact. -/
theorem Reached.intact
    (reached : Reached hashing state contents)
    (positive : ∀ map, 0 < hashing.numBuckets map) :
    Intact hashing state contents := by
  induction reached with
  | start key => exact intact_initial key
  | step _ permitted performed ih =>
      obtain ⟨after, defined, intact⟩ :=
        ih.perform positive permitted
      cases performed.symm.trans defined
      exact intact

theorem Intact.correct
    (intact : Intact hashing state contents)
    (positive : ∀ map, 0 < hashing.numBuckets map) :
    Correct hashing state contents where
  intact := intact
  performs call permitted := by
    obtain ⟨after, defined, _⟩ := intact.perform positive permitted
    rw [defined]
    rfl
  finds map key := by
    obtain ⟨index, indexed⟩ := exists_index (positive map) key
    exact intact.find indexed

omit [DecidableEq κ] in
/-- Nothing is found in a map without buckets. -/
theorem find_of_not_positive
    {map : μ}
    (without : ¬ 0 < hashing.numBuckets map)
    (key : Key) (state : Containers κ μ ε Key) :
    state.find hashing map key = none := by
  rw [Containers.find, Containers.searchBucket, Hashing.index,
    if_pos (Nat.eq_zero_of_not_pos without)]
  rfl

end Containers
end OpenRTI
