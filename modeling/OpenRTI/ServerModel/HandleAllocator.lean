import Mathlib.Data.Finset.Max
import Mathlib.Data.Finset.Range
import OpenRTI.Foundation.FailingState

/-!
# Handle allocation

A handle allocator gives away the least handle that has been put back, or else
the next one never given away.  The bound is the value of the invalid handle.
-/

namespace OpenRTI
namespace ServerModel

/-- What is streamed into the text of an exception. -/
inductive StreamItem
  | string (text : String)
  | double (number : Rat)
  deriving DecidableEq

instance : Coe String StreamItem := ⟨.string⟩

/-- The text of an exception, as it is put together in a stream. -/
abbrev Reason := List StreamItem

/-- What ends a computation early: an exception of the source, or a step whose
behaviour the source leaves undefined. -/
inductive Failure
  | inconsistentFDD (reason : Reason)
  | messageError (reason : Reason)
  | resourceError (reason : Reason)
  | undefined
  deriving DecidableEq

/-- The handles from 0 to `invalid`, of which the last is the invalid one. -/
structure HandleAllocator (invalid : Nat) where
  handleSet : Finset Nat := ∅
  handle : Nat := 0
  deriving DecidableEq

namespace HandleAllocator

variable {invalid : Nat}

/-- The first handle of the ordered set, where there is one. -/
def begin (self : HandleAllocator invalid) : Option Nat :=
  self.handleSet.min

def get : EStateM Failure (HandleAllocator invalid) Nat := fun self =>
  match self.begin with
  | none =>
      if self.handle = invalid then
        .error (.resourceError ["Running out of handle values"]) self
      else .ok self.handle { self with handle := self.handle + 1 }
  | some handle =>
      .ok handle { self with handleSet := self.handleSet.erase handle }

def put
    (self : HandleAllocator invalid)
    (handle : Nat) : HandleAllocator invalid :=
  if handle = invalid then self
  else { self with handleSet := insert handle self.handleSet }

/-- Follow an allocation of the parent server.  What it has skipped is free.
The counter runs up to the handle before it is incremented once more. -/
def take
    (self : HandleAllocator invalid)
    (handle : Nat) : HandleAllocator invalid :=
  if handle = invalid then self
  else if handle ∈ self.handleSet then
    { self with handleSet := self.handleSet.erase handle }
  else
    { handleSet := self.handleSet ∪ Finset.range handle \ Finset.range self.handle
      handle := max self.handle handle + 1 }

/-- Handles given away and not put back. -/
def inUse (self : HandleAllocator invalid) : Finset Nat :=
  Finset.range self.handle \ self.handleSet

/-- Only handles that were given away are put back. -/
def Bounded (self : HandleAllocator invalid) : Prop :=
  ∀ handle ∈ self.handleSet, handle < self.handle

variable {self : HandleAllocator invalid} {handle : Nat}

theorem mem_inUse :
    handle ∈ self.inUse ↔
      handle < self.handle ∧ handle ∉ self.handleSet := by
  simp [inUse]

theorem begin_eq_none :
    self.begin = none ↔ self.handleSet = ∅ :=
  Finset.min_eq_top

variable {before after : HandleAllocator invalid}

/-- What `get` has done when it returns. -/
theorem get_eq_ok
    (got : get before = .ok handle after) :
    handle ∈ before.handleSet ∧
        after = { before with
          handleSet := before.handleSet.erase handle } ∨
      before.handleSet = ∅ ∧ handle = before.handle ∧
        after = { before with handle := before.handle + 1 } := by
  unfold get at got
  split at got
  next nothing =>
    split at got
    · cases got
    · injection got with first second
      exact Or.inr ⟨begin_eq_none.mp nothing, first.symm, second.symm⟩
  next least found =>
    injection got with first second
    subst first
    exact Or.inl ⟨Finset.mem_of_min found, second.symm⟩

/-- A handle is given away as long as not all are in use. -/
theorem exists_get_eq_ok
    (left : self.inUse.card < invalid) :
    ∃ handle after, get self = .ok handle after := by
  unfold get
  split
  next nothing =>
    split
    next last =>
      simp [inUse, begin_eq_none.mp nothing, last] at left
    · exact ⟨_, _, rfl⟩
  · exact ⟨_, _, rfl⟩

/-- A handle that is given away was not in use. -/
theorem notMem_inUse_of_get
    (got : get before = .ok handle after) :
    handle ∉ before.inUse := by
  rw [mem_inUse]
  rintro ⟨given, notPut⟩
  obtain ⟨put, _⟩ | ⟨_, rfl, _⟩ := get_eq_ok got
  · exact notPut put
  · exact Nat.lt_irrefl _ given

theorem Bounded.get
    (bounded : before.Bounded)
    (got : get before = .ok handle after) :
    after.Bounded := by
  obtain ⟨_, rfl⟩ | ⟨nothing, _, rfl⟩ := get_eq_ok got
  · intro other member
    exact bounded other (Finset.mem_of_mem_erase member)
  · intro other member
    rw [nothing] at member
    cases member

/-- The handle given away is in use, as are those that were. -/
theorem Bounded.inUse_get
    (bounded : before.Bounded)
    (got : HandleAllocator.get before = .ok handle after) :
    after.inUse = insert handle before.inUse := by
  ext other
  rw [Finset.mem_insert, mem_inUse, mem_inUse]
  obtain ⟨put, rfl⟩ | ⟨nothing, rfl, rfl⟩ := get_eq_ok got
  · have given := bounded handle put
    grind
  · grind

theorem Bounded.put
    (bounded : self.Bounded)
    (used : handle ∈ self.inUse) :
    (self.put handle).Bounded := by
  rw [mem_inUse] at used
  unfold HandleAllocator.put
  split
  · exact bounded
  · intro other member
    obtain rfl | member := Finset.mem_insert.mp member
    · exact used.1
    · exact bounded other member

theorem inUse_put
    (valid : handle ≠ invalid) :
    (self.put handle).inUse = self.inUse.erase handle := by
  ext other
  rw [Finset.mem_erase, mem_inUse, mem_inUse, HandleAllocator.put,
    if_neg valid]
  grind

/-- Putting a handle back leaves the others in use. -/
theorem mem_inUse_put
    {other : Nat}
    (used : other ∈ self.inUse)
    (different : other ≠ handle) :
    other ∈ (self.put handle).inUse := by
  by_cases valid : handle = invalid
  · rwa [HandleAllocator.put, if_pos valid]
  · rw [inUse_put valid]
    exact Finset.mem_erase.mpr ⟨different, used⟩

end HandleAllocator
end ServerModel
end OpenRTI
