import OpenRTI.Containers.IntrusiveList
import Mathlib.Data.Finset.Card

/-!
# Intrusive unordered maps

An element of a map has a key and two more hooks: one in the list of all elements of
the map, and one in the bucket for the hash of its key.  Insertion keeps elements with
equal keys together in both lists.  The elements here have also a hook for lists.
-/

namespace OpenRTI
namespace Containers

open Foundation (HookNode HookRing)

/-- The lists, the maps and the elements, with the keys of the elements. -/
structure Containers (κ μ ε Key : Type*) where
  list : HookRing (HookNode κ ε)
  totalList : HookRing (HookNode μ ε)
  bucketList : HookRing (HookNode (μ × Nat) ε)
  key : ε → Key
  elements : Finset ε

/-- What the maps are built with. -/
structure Hashing (μ Key : Type*) where
  hash : Key → Nat
  numBuckets : μ → Nat

/-- The copy constructor leaves the vector of buckets empty. -/
def Hashing.copied {μ Key : Type*} (hash : Key → Nat) : Hashing μ Key where
  hash := hash
  numBuckets _ := 0

/-- The bucket of a key.  A remainder by zero is undefined. -/
def Hashing.index
    {μ Key : Type*}
    (hashing : Hashing μ Key)
    (map : μ)
    (key : Key) : Option Nat :=
  if hashing.numBuckets map = 0 then none
  else some (hashing.hash key % hashing.numBuckets map)

namespace Containers

variable {κ μ ε Key : Type*}

/-- There are no elements at the start, and all lists and maps are empty. -/
def initial (key : ε → Key) : Containers κ μ ε Key where
  list := ⟨id, id⟩
  totalList := ⟨id, id⟩
  bucketList := ⟨id, id⟩
  key := key
  elements := ∅

variable [DecidableEq κ] [DecidableEq μ] [DecidableEq ε]

/-- A walk through the elements of a list ends. -/
def steps (state : Containers κ μ ε Key) : Nat :=
  state.elements.card + 1

/-! ## Elements -/

def construct
    (value : ε)
    (key : Key)
    (state : Containers κ μ ε Key) : Containers κ μ ε Key where
  list := state.list.clear (.element value)
  totalList := state.totalList.clear (.element value)
  bucketList := state.bucketList.clear (.element value)
  key := Function.update state.key value key
  elements := insert value state.elements

/-- The destructors of the hooks unlink them. -/
def destroy
    (value : ε)
    (state : Containers κ μ ε Key) : Containers κ μ ε Key where
  list := state.list.unlink (.element value)
  totalList := state.totalList.unlink (.element value)
  bucketList := state.bucketList.unlink (.element value)
  key := state.key
  elements := state.elements.erase value

/-- Whether an element is in a map. -/
def isLinkedMap
    (value : ε)
    (state : Containers κ μ ε Key) : Option Bool :=
  match isLinked (.element value) state.totalList,
      isLinked (.element value) state.bucketList with
  | some total, some bucket => if total = bucket then some total else none
  | _, _ => none

def setKey
    (value : ε)
    (key : Key)
    (state : Containers κ μ ε Key) : Option (Containers κ μ ε Key) :=
  match isLinkedMap value state with
  | some false => some { state with key := Function.update state.key value key }
  | _ => none

/-! ## Lists -/

def insert
    (place : HookNode κ ε)
    (value : ε)
    (state : Containers κ μ ε Key) : Option (Containers κ μ ε Key) :=
  (IntrusiveList.insert place value state.list).map fun list =>
    { state with list := list }

def unlinkAt
    (list : κ)
    (direction : Direction)
    (value : ε)
    (state : Containers κ μ ε Key) :
    Option (Containers κ μ ε Key × HookNode κ ε) :=
  (IntrusiveList.unlinkAt list direction value state.list).map fun result =>
    ({ state with list := result.1 }, result.2)

def unlink
    (value : ε)
    (state : Containers κ μ ε Key) : Containers κ μ ε Key :=
  { state with list := IntrusiveList.unlink value state.list }

/-- Remove the element of an iterator and delete it. -/
def eraseAt
    (list : κ)
    (direction : Direction)
    (value : ε)
    (state : Containers κ μ ε Key) :
    Option (Containers κ μ ε Key × HookNode κ ε) :=
  (IntrusiveList.behind list direction value state.list).map fun next =>
    (destroy value state, next)

def swap
    (list other : κ)
    (state : Containers κ μ ε Key) : Containers κ μ ε Key :=
  { state with list := IntrusiveList.swap list other state.list }

/-! ## Maps -/

section Maps

variable [DecidableEq Key] (hashing : Hashing μ Key)

/-- The first element in the bucket of a key that has the key, or its end. -/
def searchBucket
    (map : μ)
    (key : Key)
    (state : Containers κ μ ε Key) : Option (HookNode (μ × Nat) ε) :=
  (hashing.index map key).bind fun index =>
    state.bucketList.search
      (HookRing.endsAt (map, index) fun element => decide (key = state.key element))
      state.steps (IntrusiveList.begin (map, index) state.bucketList)

/-- The place in the list of all elements. -/
def totalPlace
    (map : μ)
    (place : HookNode (μ × Nat) ε)
    (state : Containers κ μ ε Key) : Option (HookNode μ ε) :=
  match place with
  | .head _ => some (IntrusiveList.finish map)
  | .element element => IntrusiveList.it element state.totalList

/-- First insert into the bucket, where entries with the same key are grouped, and
then into the list of all elements, also grouped by key. -/
def insertMap
    (map : μ)
    (value : ε)
    (state : Containers κ μ ε Key) : Option (Containers κ μ ε Key) :=
  (searchBucket hashing map (state.key value) state).bind fun place =>
    (IntrusiveList.insert place value state.bucketList).bind fun bucketList =>
      (totalPlace map place state).bind fun total =>
        (IntrusiveList.insert total value state.totalList).map fun totalList =>
          { state with totalList := totalList, bucketList := bucketList }

def unlinkMapAt
    (map : μ)
    (direction : Direction)
    (value : ε)
    (state : Containers κ μ ε Key) :
    Option (Containers κ μ ε Key × HookNode μ ε) :=
  let bucketList := IntrusiveList.unlink value state.bucketList
  (IntrusiveList.unlinkAt map direction value state.totalList).map fun result =>
    ({ state with totalList := result.1, bucketList := bucketList }, result.2)

def unlinkMap
    (value : ε)
    (state : Containers κ μ ε Key) : Containers κ μ ε Key :=
  { state with
    totalList := IntrusiveList.unlink value state.totalList
    bucketList := IntrusiveList.unlink value state.bucketList }

def eraseMapAt
    (map : μ)
    (direction : Direction)
    (value : ε)
    (state : Containers κ μ ε Key) :
    Option (Containers κ μ ε Key × HookNode μ ε) :=
  (IntrusiveList.behind map direction value state.totalList).map fun next =>
    (destroy value state, next)

def find
    (map : μ)
    (key : Key)
    (state : Containers κ μ ε Key) : Option (HookNode μ ε) :=
  (searchBucket hashing map key state).bind fun place =>
    totalPlace map place state

end Maps

/-! ## Calls -/

/-- What a client of the containers calls. -/
inductive Call (κ μ ε Key : Type*)
  | construct (value : ε) (key : Key)
  | destroy (value : ε)
  | setKey (value : ε) (key : Key)
  | insert (list : κ) (place : HookNode κ ε) (value : ε)
  | unlinkAt (list : κ) (direction : Direction) (value : ε)
  | unlink (value : ε)
  | eraseAt (list : κ) (direction : Direction) (value : ε)
  | swap (list other : κ)
  | insertMap (map : μ) (value : ε)
  | unlinkMapAt (map : μ) (direction : Direction) (value : ε)
  | unlinkMap (value : ε)
  | eraseMapAt (map : μ) (direction : Direction) (value : ε)

def perform
    [DecidableEq Key]
    (hashing : Hashing μ Key)
    (state : Containers κ μ ε Key) :
    Call κ μ ε Key → Option (Containers κ μ ε Key)
  | .construct value key => some (construct value key state)
  | .destroy value => some (destroy value state)
  | .setKey value key => setKey value key state
  | .insert _ place value => insert place value state
  | .unlinkAt list direction value =>
      (unlinkAt list direction value state).map Prod.fst
  | .unlink value => some (unlink value state)
  | .eraseAt list direction value =>
      (eraseAt list direction value state).map Prod.fst
  | .swap list other => some (swap list other state)
  | .insertMap map value => insertMap hashing map value state
  | .unlinkMapAt map direction value =>
      (unlinkMapAt map direction value state).map Prod.fst
  | .unlinkMap value => some (unlinkMap value state)
  | .eraseMapAt map direction value =>
      (eraseMapAt map direction value state).map Prod.fst

end Containers
end Containers
end OpenRTI
