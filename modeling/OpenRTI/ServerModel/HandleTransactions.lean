import OpenRTI.Foundation.TransitionSystem
import OpenRTI.ServerModel.HandleAllocator

/-!
# Allocation transactions

A server that follows another one mixes the handles it gives away with those it
is told.  A candidate holds a handle until the allocation is known to succeed,
and puts it back otherwise.
-/

namespace OpenRTI
namespace ServerModel

open Foundation

variable {handle asked : Nat}

namespace HandleAllocator

variable {invalid : Nat}

def getOrTake (handle : Nat) :
    EStateM Failure (HandleAllocator invalid) Nat := fun self =>
  if handle = invalid then get self else .ok handle (self.take handle)

/-- Whether any handle is in use. -/
def used (self : HandleAllocator invalid) : Bool :=
  self.handleSet.card < self.handle

/-- Whether no handle is left to give away. -/
def empty (self : HandleAllocator invalid) : Bool :=
  self.handleSet = ∅ ∧ self.handle = invalid

/-- An open transaction.  Its handle is the invalid one once it is taken. -/
structure Candidate (invalid : Nat) where
  handle : Nat
  deriving DecidableEq

namespace Candidate

/-- Open a transaction for a handle, or for the next one to give away. -/
def new (handle : Nat) :
    EStateM Failure (HandleAllocator invalid) (Candidate invalid) :=
  fun self =>
    if handle ≠ invalid then .ok ⟨handle⟩ (self.take handle)
    else
      match HandleAllocator.get self with
      | .ok handle after => .ok ⟨handle⟩ after
      | .error failure after => .error failure after

def get (self : Candidate invalid) : Nat := self.handle

/-- Close the transaction and return its handle. -/
def take (self : Candidate invalid) : Nat × Candidate invalid :=
  (self.handle, ⟨invalid⟩)

/-- The handle of a transaction that is still open is put back. -/
def destroy
    (self : Candidate invalid)
    (allocator : HandleAllocator invalid) : HandleAllocator invalid :=
  if self.handle ≠ invalid then allocator.put self.handle else allocator

end Candidate

/-! ## Single operations -/

/-- Only the counter's last value is not a handle. -/
def Counted (self : HandleAllocator invalid) : Prop :=
  self.handle ≤ invalid

variable {self : HandleAllocator invalid}

theorem Bounded.take
    (bounded : self.Bounded) (handle : Nat) :
    (self.take handle).Bounded := by
  intro other member
  unfold HandleAllocator.take at member ⊢
  split
  next isInvalid =>
    rw [if_pos isInvalid] at member
    exact bounded other member
  next valid =>
    rw [if_neg valid] at member
    split
    next free =>
      rw [if_pos free] at member
      exact bounded other (Finset.mem_of_mem_erase member)
    next notFree =>
      rw [if_neg notFree] at member
      rcases Finset.mem_union.mp member with before | skipped
      · have lower := bounded other before
        dsimp only
        omega
      · have lower := Finset.mem_range.mp (Finset.mem_sdiff.mp skipped).1
        dsimp only
        omega

/-- A handle that was not in use is the only one that gets in use. -/
theorem Bounded.inUse_take
    (bounded : self.Bounded)
    (valid : handle ≠ invalid)
    (notUsed : handle ∉ self.inUse) :
    (self.take handle).inUse = insert handle self.inUse := by
  rw [mem_inUse] at notUsed
  ext other
  rw [Finset.mem_insert, mem_inUse, mem_inUse, HandleAllocator.take,
    if_neg valid]
  split
  next free =>
    have given := bounded handle free
    grind
  next notFree =>
    have beyond : self.handle ≤ handle := by
      by_contra below
      exact notUsed ⟨not_le.mp below, notFree⟩
    rw [max_eq_right beyond]
    simp only [Finset.mem_union, Finset.mem_sdiff, Finset.mem_range]
    have given := bounded other
    grind

theorem Counted.take
    (counted : self.Counted)
    (inRange : handle ≤ invalid)
    (notUsed : handle ∉ self.inUse) :
    (self.take handle).Counted := by
  rw [mem_inUse] at notUsed
  unfold HandleAllocator.take Counted
  split
  next => exact counted
  next valid =>
    split
    next => exact counted
    next notFree =>
      have beyond : self.handle ≤ handle := by
        by_contra below
        exact notUsed ⟨not_le.mp below, notFree⟩
      dsimp only
      omega

variable {before after : HandleAllocator invalid}

theorem Counted.get
    (counted : before.Counted)
    (got : HandleAllocator.get before = .ok handle after) :
    after.Counted := by
  unfold HandleAllocator.get at got
  unfold Counted at counted ⊢
  split at got
  next =>
    split at got
    next => cases got
    next left =>
      injection got with first second
      rw [← second]
      dsimp only
      omega
  next =>
    injection got with first second
    rw [← second]
    exact counted

theorem Counted.put
    (counted : self.Counted) (handle : Nat) :
    (self.put handle).Counted := by
  unfold HandleAllocator.put
  split
  · exact counted
  · exact counted

/-- A handle that is given away is a valid one. -/
theorem get_lt_invalid
    (bounded : before.Bounded) (counted : before.Counted)
    (got : HandleAllocator.get before = .ok handle after) :
    handle < invalid := by
  have within := counted.get got
  have used : handle ∈ after.inUse := by
    rw [bounded.inUse_get got]
    exact Finset.mem_insert_self _ _
  exact lt_of_lt_of_le (mem_inUse.mp used).1 within

/-- As many handles are in use as are counted and not put back. -/
theorem Bounded.used_iff
    (bounded : self.Bounded) :
    self.used = true ↔ self.inUse.Nonempty := by
  have subset : self.handleSet ⊆ Finset.range self.handle := by
    intro handle member
    exact Finset.mem_range.mpr (bounded handle member)
  have counts := Finset.card_sdiff_add_card_eq_card subset
  rw [Finset.card_range] at counts
  rw [← Finset.card_pos, inUse, used, decide_eq_true_iff]
  omega

variable {failure : Failure}

/-- A call that throws leaves the allocator as it was. -/
theorem get_eq_error
    (thrown : HandleAllocator.get before = .error failure after) :
    after = before := by
  unfold HandleAllocator.get at thrown
  split at thrown
  next =>
    split at thrown
    next => injection thrown with _ same; exact same.symm
    next => cases thrown
  next => cases thrown

theorem getOrTake_eq_error
    (thrown : HandleAllocator.getOrTake asked before = .error failure after) :
    after = before := by
  unfold HandleAllocator.getOrTake at thrown
  split at thrown
  next => exact get_eq_error thrown
  next => cases thrown

theorem Candidate.new_eq_error
    (thrown : Candidate.new asked before = .error failure after) :
    after = before := by
  unfold Candidate.new at thrown
  split at thrown
  next => cases thrown
  next =>
    split at thrown
    next => cases thrown
    next failure allocator got =>
      injection thrown with _ same
      rw [← same]
      exact get_eq_error got

/-- A handle that is given away belongs to no one else. -/
structure Gave
    (before : HandleAllocator invalid)
    (handle : Nat)
    (after : HandleAllocator invalid) : Prop where
  bounded : after.Bounded
  counted : after.Counted
  fresh : handle ∉ before.inUse
  valid : handle ≠ invalid
  inUse : after.inUse = insert handle before.inUse

theorem Gave.get
    (bounded : before.Bounded) (counted : before.Counted)
    (got : HandleAllocator.get before = .ok handle after) :
    Gave before handle after where
  bounded := bounded.get got
  counted := counted.get got
  fresh := notMem_inUse_of_get got
  valid := (get_lt_invalid bounded counted got).ne
  inUse := bounded.inUse_get got

theorem Gave.take
    (bounded : self.Bounded) (counted : self.Counted)
    (inRange : handle ≤ invalid)
    (fresh : handle ∉ self.inUse)
    (valid : handle ≠ invalid) :
    Gave self handle (self.take handle) where
  bounded := bounded.take handle
  counted := counted.take inRange fresh
  fresh := fresh
  valid := valid
  inUse := bounded.inUse_take valid fresh

/-- Following an allocation gives away the handle asked for, and the invalid
one stands for any. -/
theorem Gave.getOrTake
    (bounded : before.Bounded) (counted : before.Counted)
    (inRange : asked ≤ invalid)
    (fresh : asked ∉ before.inUse)
    (got : HandleAllocator.getOrTake asked before = .ok handle after) :
    Gave before handle after := by
  unfold HandleAllocator.getOrTake at got
  split at got
  next => exact Gave.get bounded counted got
  next valid =>
    injection got with first second
    subst first second
    exact Gave.take bounded counted inRange fresh valid

/-- So does opening a transaction. -/
theorem Gave.new
    {before after : HandleAllocator invalid} {asked : Nat}
    {candidate : Candidate invalid}
    (bounded : before.Bounded) (counted : before.Counted)
    (inRange : asked ≤ invalid)
    (fresh : asked ∉ before.inUse)
    (opened : Candidate.new asked before = .ok candidate after) :
    Gave before candidate.handle after := by
  unfold Candidate.new at opened
  split at opened
  next valid =>
    injection opened with first second
    subst first second
    exact Gave.take bounded counted inRange fresh valid
  next =>
    split at opened
    next handle allocator got =>
      injection opened with first second
      subst first second
      exact Gave.get bounded counted got
    next => cases opened

/-- Abandoning a transaction at once undoes its opening. -/
theorem Gave.inUse_destroy
    {candidate : Candidate invalid}
    (gave : Gave before candidate.handle after) :
    (candidate.destroy after).inUse = before.inUse := by
  rw [Candidate.destroy, if_pos gave.valid, inUse_put gave.valid, gave.inUse]
  exact Finset.erase_insert gave.fresh

end HandleAllocator

/-! ## Runs -/

open HandleAllocator

/-- An allocator with the handles its users hold.  The handle of an open
transaction belongs to the transaction. -/
structure Allocation (invalid : Nat) where
  allocator : HandleAllocator invalid := {}
  given : Finset Nat := ∅
  candidates : Finset (Candidate invalid) := ∅
  deriving DecidableEq

namespace Allocation

variable {invalid : Nat}

/-- Handles of the open transactions. -/
def held (self : Allocation invalid) : Finset Nat :=
  self.candidates.image Candidate.handle

/-- The handles in use. -/
def inUse (self : Allocation invalid) : Finset Nat :=
  self.given ∪ self.held

/-- The calls of a user. -/
inductive Call (invalid : Nat)
  | get
  | take (handle : Nat)
  | getOrTake (handle : Nat)
  | put (handle : Nat)
  | openCandidate (handle : Nat)
  | takeCandidate (candidate : Candidate invalid)
  | abandonCandidate (candidate : Candidate invalid)

/-- Only handles that are not in use are asked for, and only handles that the
caller holds are put back. -/
def admits (self : Allocation invalid) : Call invalid → Bool
  | .get => true
  | .take handle => handle ≤ invalid ∧ handle ∉ self.inUse
  | .getOrTake handle => handle ≤ invalid ∧ handle ∉ self.inUse
  | .put handle => handle = invalid ∨ handle ∈ self.given
  | .openCandidate handle => handle ≤ invalid ∧ handle ∉ self.inUse
  | .takeCandidate candidate => candidate ∈ self.candidates
  | .abandonCandidate candidate => candidate ∈ self.candidates

/-- What a call does to the allocator and to the handles in use.  A call that
throws gives no handle away. -/
def call (self : Allocation invalid) : Call invalid → Allocation invalid
  | .get =>
      match HandleAllocator.get self.allocator with
      | .ok handle allocator =>
          { self with allocator, given := insert handle self.given }
      | .error _ allocator => { self with allocator }
  | .take handle =>
      { self with
        allocator := self.allocator.take handle
        given := if handle = invalid then self.given
          else insert handle self.given }
  | .getOrTake asked =>
      match HandleAllocator.getOrTake asked self.allocator with
      | .ok handle allocator =>
          { self with allocator, given := insert handle self.given }
      | .error _ allocator => { self with allocator }
  | .put handle =>
      { self with
        allocator := self.allocator.put handle
        given := self.given.erase handle }
  | .openCandidate asked =>
      match Candidate.new asked self.allocator with
      | .ok candidate allocator =>
          { self with
            allocator, candidates := insert candidate self.candidates }
      | .error _ allocator => { self with allocator }
  | .takeCandidate candidate =>
      -- the closed transaction is destroyed some time later
      { allocator := candidate.take.2.destroy self.allocator
        given := insert candidate.take.1 self.given
        candidates := self.candidates.erase candidate }
  | .abandonCandidate candidate =>
      { self with
        allocator := candidate.destroy self.allocator
        candidates := self.candidates.erase candidate }

/-- All calls, in any order. -/
def system (invalid : Nat) :
    TransitionSystem (Allocation invalid) (Call invalid) where
  initial := {}
  next self input := if self.admits input then some (self.call input) else none

/-- The allocator knows the handles in use, and each has one holder. -/
structure Consistent (allocation : Allocation invalid) : Prop where
  bounded : allocation.allocator.Bounded
  counted : allocation.allocator.Counted
  inUse : allocation.allocator.inUse = allocation.inUse
  single : Disjoint allocation.given allocation.held
  valid : invalid ∉ allocation.inUse

variable {self : Allocation invalid}

/-! ### Handles in use -/

theorem mem_inUse :
    handle ∈ self.inUse ↔ handle ∈ self.given ∨ handle ∈ self.held :=
  Finset.mem_union

theorem handle_injective :
    Function.Injective (@Candidate.handle invalid) := by
  intro first second same
  cases first
  cases second
  exact congrArg Candidate.mk same

variable {candidate : Candidate invalid}

theorem mem_held
    (opened : candidate ∈ self.candidates) :
    candidate.handle ∈ self.held :=
  Finset.mem_image_of_mem _ opened

theorem image_erase
    (candidates : Finset (Candidate invalid))
    (candidate : Candidate invalid) :
    (candidates.erase candidate).image Candidate.handle =
      (candidates.image Candidate.handle).erase candidate.handle :=
  Finset.image_erase handle_injective candidates candidate

/-! ### One call -/

theorem consistent_initial : (system invalid).initial.Consistent where
  bounded := by
    intro handle member
    exact absurd member (Finset.notMem_empty handle)
  counted := Nat.zero_le invalid
  inUse := rfl
  single := Finset.disjoint_empty_left _
  valid := Finset.notMem_empty invalid

variable {allocator : HandleAllocator invalid}

namespace Consistent

section

variable (consistent : self.Consistent)
include consistent

theorem fresh_iff :
    handle ∉ self.allocator.inUse ↔ handle ∉ self.given ∧ handle ∉ self.held := by
  rw [consistent.inUse, mem_inUse, not_or]

/-- A call returns a handle to its caller. -/
theorem give
    (gave : Gave self.allocator handle allocator) :
    ({ self with
      allocator, given := insert handle self.given }
        : Allocation invalid).Consistent where
  bounded := gave.bounded
  counted := gave.counted
  inUse := by
    rw [gave.inUse, consistent.inUse]
    exact (Finset.insert_union _ _ _).symm
  single := by
    have fresh := consistent.fresh_iff.mp gave.fresh
    exact Finset.disjoint_insert_left.mpr ⟨fresh.2, consistent.single⟩
  valid := by
    have before := consistent.valid
    have different := gave.valid
    simp only [mem_inUse, held] at before ⊢
    grind

/-- A transaction is opened. -/
theorem hold
    (gave : Gave self.allocator candidate.handle allocator) :
    ({ self with
      allocator, candidates := insert candidate self.candidates }
        : Allocation invalid).Consistent where
  bounded := gave.bounded
  counted := gave.counted
  inUse := by
    rw [gave.inUse, consistent.inUse, Allocation.inUse, Allocation.inUse,
      Allocation.held, Allocation.held, Finset.image_insert,
      Finset.union_insert]
  single := by
    have fresh := consistent.fresh_iff.mp gave.fresh
    rw [held, Finset.image_insert]
    exact Finset.disjoint_insert_right.mpr ⟨fresh.1, consistent.single⟩
  valid := by
    have before := consistent.valid
    have different := gave.valid
    simp only [mem_inUse, held, Finset.image_insert] at before ⊢
    grind

/-- A handle in use is put back by its holder. -/
theorem bounded_put
    (used : handle ∈ self.inUse) :
    (self.allocator.put handle).Bounded := by
  rw [← consistent.inUse] at used
  exact consistent.bounded.put used

theorem inUse_put
    (used : handle ∈ self.inUse) :
    (self.allocator.put handle).inUse = self.inUse.erase handle := by
  have valid : handle ≠ invalid := by
    intro same
    rw [same] at used
    exact consistent.valid used
  rw [HandleAllocator.inUse_put valid, consistent.inUse]

theorem put
    (used : handle ∈ self.given) :
    ({ self with
      allocator := self.allocator.put handle
      given := self.given.erase handle } : Allocation invalid).Consistent where
  bounded := consistent.bounded_put (mem_inUse.mpr (Or.inl used))
  counted := consistent.counted.put handle
  inUse := by
    have apart := Finset.disjoint_left.mp consistent.single used
    rw [consistent.inUse_put (mem_inUse.mpr (Or.inl used)), Allocation.inUse,
      Finset.erase_union_distrib, Finset.erase_eq_of_notMem apart]
    rfl
  single := Finset.disjoint_of_subset_left (Finset.erase_subset _ _)
    consistent.single
  valid := by
    have before := consistent.valid
    simp only [mem_inUse, held] at before ⊢
    grind

/-- The holder of a transaction's handle is its caller from now on. -/
theorem takeCandidate
    (opened : candidate ∈ self.candidates) :
    (self.call (.takeCandidate candidate)).Consistent := by
  have closed : candidate.take.2.destroy self.allocator = self.allocator :=
    if_neg fun different => different rfl
  have held := mem_held opened
  have same :
      (self.call (.takeCandidate candidate)).inUse = self.inUse := by
    rw [Allocation.inUse, Allocation.held, call, image_erase]
    change insert candidate.handle self.given ∪
      self.held.erase candidate.handle = self.given ∪ self.held
    grind
  refine ⟨?_, ?_, ?_, ?_, ?_⟩
  · rw [call, closed]
    exact consistent.bounded
  · rw [call, closed]
    exact consistent.counted
  · rw [same, call, closed]
    exact consistent.inUse
  · have single := consistent.single
    rw [Allocation.held, call, image_erase]
    change Disjoint (insert candidate.handle self.given)
      (self.held.erase candidate.handle)
    rw [Finset.disjoint_left] at single ⊢
    grind
  · rw [same]
    exact consistent.valid

/-- An abandoned transaction puts back its own handle only. -/
theorem inUse_abandonCandidate
    (opened : candidate ∈ self.candidates) :
    (self.call (.abandonCandidate candidate)).inUse =
      self.inUse.erase candidate.handle := by
  have apart := Finset.disjoint_right.mp consistent.single (mem_held opened)
  rw [Allocation.inUse, Allocation.held, Allocation.call, image_erase,
    Allocation.inUse, Finset.erase_union_distrib,
    Finset.erase_eq_of_notMem apart]
  rfl

/-- The handle of an abandoned transaction is put back. -/
theorem abandonCandidate
    (opened : candidate ∈ self.candidates) :
    (self.call (.abandonCandidate candidate)).Consistent := by
  have used := mem_inUse.mpr (Or.inr (mem_held opened))
  have valid : candidate.handle ≠ invalid := by
    intro same
    rw [same] at used
    exact consistent.valid used
  have put : candidate.destroy self.allocator =
      self.allocator.put candidate.handle := if_pos valid
  have erased := consistent.inUse_abandonCandidate opened
  refine ⟨?_, ?_, ?_, ?_, ?_⟩
  · rw [call, put]
    exact consistent.bounded_put used
  · rw [call, put]
    exact consistent.counted.put _
  · rw [erased, call, put]
    exact consistent.inUse_put used
  · rw [Allocation.held, call, image_erase]
    exact Finset.disjoint_of_subset_right (Finset.erase_subset _ _)
      consistent.single
  · rw [erased]
    intro member
    exact consistent.valid (Finset.mem_of_mem_erase member)


/-- A handle that is not in use is asked for. -/
theorem notMem_allocator
    (fresh : handle ∉ self.inUse) :
    handle ∉ self.allocator.inUse := by
  rwa [consistent.inUse]

theorem take
    (inRange : handle ≤ invalid)
    (fresh : handle ∉ self.inUse) :
    (self.call (.take handle)).Consistent := by
  rw [call]
  by_cases valid : handle = invalid
  · have nothing : self.allocator.take handle = self.allocator := if_pos valid
    rw [if_pos valid, nothing]
    exact consistent
  · rw [if_neg valid]
    exact consistent.give (Gave.take consistent.bounded consistent.counted
      inRange (consistent.notMem_allocator fresh) valid)

theorem call
    {input : Call invalid}
    (admitted : self.admits input = true) :
    (self.call input).Consistent := by
  have bounded := consistent.bounded
  have counted := consistent.counted
  cases input with
  | get =>
      rw [Allocation.call]
      split
      next got => exact consistent.give (Gave.get bounded counted got)
      next thrown =>
        rw [get_eq_error thrown]
        exact consistent
  | take handle =>
      obtain ⟨inRange, fresh⟩ := of_decide_eq_true admitted
      exact consistent.take inRange fresh
  | getOrTake asked =>
      obtain ⟨inRange, fresh⟩ := of_decide_eq_true admitted
      have free := consistent.notMem_allocator fresh
      rw [Allocation.call]
      split
      next got =>
        exact consistent.give (Gave.getOrTake bounded counted inRange free got)
      next thrown =>
        rw [getOrTake_eq_error thrown]
        exact consistent
  | put handle =>
      rcases of_decide_eq_true admitted with rfl | used
      · have unused : handle ∉ self.given := fun member =>
          consistent.valid (mem_inUse.mpr (Or.inl member))
        have nothing : self.allocator.put handle = self.allocator := if_pos rfl
        rw [Allocation.call, nothing, Finset.erase_eq_of_notMem unused]
        exact consistent
      · exact consistent.put used
  | openCandidate asked =>
      obtain ⟨inRange, fresh⟩ := of_decide_eq_true admitted
      have free := consistent.notMem_allocator fresh
      rw [Allocation.call]
      split
      next got =>
        exact consistent.hold (Gave.new bounded counted inRange free got)
      next thrown =>
        rw [Candidate.new_eq_error thrown]
        exact consistent
  | takeCandidate candidate =>
      exact consistent.takeCandidate (of_decide_eq_true admitted)
  | abandonCandidate candidate =>
      exact consistent.abandonCandidate (of_decide_eq_true admitted)

end

end Consistent

theorem Reachable.consistent
    (reachable : (system invalid).Reachable self) :
    self.Consistent := by
  refine TransitionSystem.Reachable.invariant Consistent consistent_initial ?_
    reachable
  intro before input after consistent stepped
  rw [system] at stepped
  dsimp only at stepped
  split at stepped
  next admitted =>
    injection stepped with same
    rw [← same]
    exact consistent.call admitted
  next => cases stepped

/-! ### Results over all runs -/

/-- A transaction takes a handle that was not in use. -/
theorem Consistent.openCandidate
    (consistent : self.Consistent)
    (admitted : self.admits (.openCandidate asked) = true)
    (opened : Candidate.new asked self.allocator = .ok candidate allocator) :
    candidate.handle ∉ self.inUse ∧
      (self.call (.openCandidate asked)).inUse =
        insert candidate.handle self.inUse ∧
      (candidate.destroy allocator).inUse = self.inUse := by
  obtain ⟨inRange, fresh⟩ := of_decide_eq_true admitted
  have gave := Gave.new consistent.bounded consistent.counted inRange
    (consistent.notMem_allocator fresh) opened
  have unused := gave.fresh
  rw [consistent.inUse] at unused
  refine ⟨unused, ?_, ?_⟩
  · rw [Allocation.call, opened, Allocation.inUse, Allocation.inUse,
      Allocation.held, Allocation.held, Finset.image_insert,
      Finset.union_insert]
  · rw [gave.inUse_destroy, consistent.inUse]

/-- The allocator knows the handles in use after any calls, gives away none of
them, and counts no further than the invalid handle.  An abandoned transaction
puts back the handle that it took, which was not in use, and no other. -/
theorem handles_consistent
    {self : Allocation invalid}
    (reachable : (system invalid).Reachable self) :
    self.inUse =
        Finset.range self.allocator.handle \ self.allocator.handleSet ∧
      (self.allocator.used = true ↔ self.inUse.Nonempty) ∧
      self.allocator.handle ≤ invalid ∧
      (∀ handle allocator,
        HandleAllocator.get self.allocator = .ok handle allocator →
          handle ∉ self.inUse ∧ handle < invalid ∧
            allocator.handle ≤ invalid) ∧
      (∀ asked candidate allocator,
        self.admits (.openCandidate asked) = true →
        Candidate.new asked self.allocator = .ok candidate allocator →
          candidate.handle ∉ self.inUse ∧
            (self.call (.openCandidate asked)).inUse =
              insert candidate.handle self.inUse ∧
            (candidate.destroy allocator).inUse = self.inUse) ∧
      ∀ candidate ∈ self.candidates,
        (self.call (.abandonCandidate candidate)).inUse =
          self.inUse.erase candidate.handle := by
  have consistent := Reachable.consistent reachable
  have known := consistent.inUse
  have bounded := consistent.bounded
  have counted := consistent.counted
  refine ⟨known.symm, ?_, counted, ?_, ?_, ?_⟩
  · rw [← known]
    exact bounded.used_iff
  · intro handle allocator got
    have fresh := notMem_inUse_of_get got
    rw [known] at fresh
    exact ⟨fresh, get_lt_invalid bounded counted got, counted.get got⟩
  · intro asked candidate allocator admitted opened
    exact consistent.openCandidate admitted opened
  · intro candidate opened
    exact consistent.inUse_abandonCandidate opened

/-- A follower whose parent has skipped handles, with one transaction that is
taken and one that is abandoned. -/
def following : List (Call 4294967295) :=
  [.take 3, .get, .openCandidate 4294967295, .openCandidate 7,
    .takeCandidate ⟨1⟩, .put 3, .openCandidate 4294967295,
    .abandonCandidate ⟨7⟩]

theorem handles_consistent_following :
    ∃ final : Allocation 4294967295,
      (system 4294967295).run {} following = some final ∧
        final.inUse = {0, 1, 2} ∧
        final.inUse =
          Finset.range final.allocator.handle \ final.allocator.handleSet ∧
        ∀ handle allocator,
          HandleAllocator.get final.allocator = .ok handle allocator →
            handle ∉ final.inUse := by
  refine ⟨_, rfl, by decide, ?_⟩
  have consistent := handles_consistent
    (TransitionSystem.reachable_of_run following rfl)
  refine ⟨consistent.1, ?_⟩
  intro handle allocator got
  exact (consistent.2.2.2.1 handle allocator got).1

end Allocation
end ServerModel
end OpenRTI
