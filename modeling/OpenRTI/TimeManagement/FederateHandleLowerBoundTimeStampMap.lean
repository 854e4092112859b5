import OpenRTI.Foundation.OrderedMap
import OpenRTI.TimeManagement.LogicalTime

/-!
# The lower bounds of the other federates

For each time regulating federate the map holds the bounds that federate has
committed for time advances and for next message requests.  Two count maps
hold how many federates have committed each time, so that the least committed
time is at hand; the map carries the proof that every commit is counted.
-/

namespace OpenRTI
namespace TimeManagement

open Foundation

/-- The value of a federate handle. -/
abbrev FederateHandle := Nat

/-- The handle that a federate has before it has joined. -/
def FederateHandle.invalid : FederateHandle := 2 ^ 32 - 1

def FederateHandle.valid (federateHandle : FederateHandle) : Bool :=
  federateHandle ≠ FederateHandle.invalid

variable {T : Type*} [LinearOrder T]

/-- For each committed time the positive number of federates that committed
it. -/
structure LogicalTimeFederateCountMap (T : Type*) [LinearOrder T] where
  countMap : OrderedMap T Nat
  positive :
    ∀ logicalTime count,
      countMap.find? logicalTime = some count → 0 < count

namespace LogicalTimeFederateCountMap

/-- Number of federates that committed a time. -/
def count (self : LogicalTimeFederateCountMap T) (logicalTime : T) : Nat :=
  (self.countMap.find? logicalTime).getD 0

def empty (self : LogicalTimeFederateCountMap T) : Bool :=
  self.countMap.isEmpty

/-- The least committed time. -/
def begin? (self : LogicalTimeFederateCountMap T) : Option T :=
  self.countMap.begin?.map Prod.fst

instance : EmptyCollection (LogicalTimeFederateCountMap T) where
  emptyCollection := ⟨∅, by simp⟩

instance : DecidableEq (LogicalTimeFederateCountMap T) := fun left right =>
  decidable_of_iff (left.countMap = right.countMap) (by
    cases left
    cases right
    simp)

/-- Increment the count of a time, which is entered if it is new. -/
def insert
    (self : LogicalTimeFederateCountMap T)
    (logicalTime : T) : LogicalTimeFederateCountMap T where
  countMap := self.countMap.alter logicalTime fun present =>
    some (present.getD 0 + 1)
  positive := by
    intro other count found
    rw [OrderedMap.find?_alter] at found
    split at found
    · cases found
      omega
    · exact self.positive other count found

/-- Decrement the count of a time, which is removed when none is left. -/
def decrement
    (self : LogicalTimeFederateCountMap T)
    (logicalTime : T) : LogicalTimeFederateCountMap T where
  countMap := self.countMap.alter logicalTime fun present =>
    present.bind fun count => if count - 1 ≠ 0 then some (count - 1) else none
  positive := by
    intro other count found
    rw [OrderedMap.find?_alter] at found
    split at found
    · obtain ⟨before, _, changed⟩ := Option.bind_eq_some_iff.mp found
      split at changed
      · cases changed
        omega
      · cases changed
    · exact self.positive other count found

/-- Whether removing one federate from a time removes the least time. -/
def isFirstLogicalTime
    (self : LogicalTimeFederateCountMap T)
    (logicalTime : T) : Bool :=
  self.count logicalTime - 1 = 0 ∧ self.begin? = some logicalTime

/-- Move one federate to another time and return whether that removed the
least time. -/
def move
    (self : LogicalTimeFederateCountMap T)
    (oldTime logicalTime : T) : LogicalTimeFederateCountMap T × Bool :=
  if logicalTime = oldTime then (self, false)
  else
    let inserted := self.insert logicalTime
    (inserted.decrement oldTime, inserted.isFirstLogicalTime oldTime)

/-- Remove one federate from a time and return whether that removed the least
time. -/
def erase
    (self : LogicalTimeFederateCountMap T)
    (logicalTime : T) : LogicalTimeFederateCountMap T × Bool :=
  (self.decrement logicalTime, self.isFirstLogicalTime logicalTime)

@[simp] theorem count_empty (logicalTime : T) :
    (∅ : LogicalTimeFederateCountMap T).count logicalTime = 0 := rfl

variable (self : LogicalTimeFederateCountMap T)

theorem count_insert
    (logicalTime other : T) :
    (self.insert logicalTime).count other =
      self.count other + if other = logicalTime then 1 else 0 := by
  rw [count, insert, OrderedMap.find?_alter]
  split
  next same =>
    rw [same]
    rfl
  next => rfl

theorem count_decrement
    (logicalTime other : T) :
    (self.decrement logicalTime).count other =
      self.count other - if other = logicalTime then 1 else 0 := by
  rw [count, decrement, OrderedMap.find?_alter]
  split
  next same =>
    rw [same, count]
    cases present : self.countMap.find? logicalTime with
    | none => rfl
    | some count =>
        simp only [Option.bind_some, Option.getD_some]
        split <;> simp
        omega
  next => rfl

/-- Moving a counted federate changes the counts of the two times. -/
theorem count_move
    (oldTime logicalTime other : T)
    (counted : 0 < self.count oldTime) :
    (self.move oldTime logicalTime).1.count other +
        (if other = oldTime then 1 else 0) =
      self.count other + if other = logicalTime then 1 else 0 := by
  unfold move
  split
  next same => rw [same]
  next different =>
    simp only [count_decrement, count_insert]
    by_cases old : other = oldTime
    · rw [old] at *
      split <;> omega
    · rw [if_neg old]
      omega

variable {self : LogicalTimeFederateCountMap T}

/-- The least time is at most every counted time. -/
theorem begin?_le
    {least logicalTime : T}
    (isLeast : self.begin? = some least)
    (counted : 0 < self.count logicalTime) :
    least ≤ logicalTime := by
  obtain ⟨first, isFirst, equal⟩ := Option.map_eq_some_iff.mp isLeast
  rw [count] at counted
  cases found : self.countMap.find? logicalTime with
  | none => simp [found] at counted
  | some count =>
      rw [← equal]
      exact OrderedMap.begin?_le isFirst found

/-- A map that counts some time has a least time. -/
theorem begin?_ne_none
    {logicalTime : T}
    (counted : 0 < self.count logicalTime) :
    self.begin? ≠ none := by
  intro noLeast
  have absent := OrderedMap.begin?_eq_none_iff.mp
    (Option.map_eq_none_iff.mp noLeast) logicalTime
  simp [count, absent] at counted

/-- The least time is counted. -/
theorem count_begin?
    {least : T}
    (isLeast : self.begin? = some least) :
    0 < self.count least := by
  obtain ⟨first, isFirst, equal⟩ := Option.map_eq_some_iff.mp isLeast
  have found := OrderedMap.find?_begin? isFirst
  rw [count, ← equal, found]
  exact self.positive first.1 first.2 found

end LogicalTimeFederateCountMap

/-- What one federate has committed. -/
structure Commit (T : Type*) where
  timeAdvanceCommit : T
  nextMessageCommit : T
  /-- The commit id of this federate seen last. -/
  commitId : Unsigned
  /-- Our own commit id that this federate is known to have received. -/
  federateIsWaitingForCommitId : Unsigned
  federateIsLocked : Bool
  deriving DecidableEq

namespace Commit

/-- A federate that has committed more for next message requests than for time
advances has such a request pending. -/
def isInNextMessageMode (self : Commit T) : Bool :=
  self.timeAdvanceCommit ≠ self.nextMessageCommit

/-- The commit of a federate after a further commit; a federate that leaves the
next message mode is no longer locked. -/
def update
    (self : Commit T)
    (logicalTime : T)
    (commitType : LowerBoundTimeStampCommitType)
    (commitId : Unsigned) : Commit T :=
  let moved : Commit T :=
    { self with
      timeAdvanceCommit :=
        if commitType.timeAdvance then logicalTime else self.timeAdvanceCommit
      nextMessageCommit :=
        if commitType.nextMessage then logicalTime else self.nextMessageCommit
      commitId := commitId }
  { moved with
    federateIsLocked := moved.isInNextMessageMode && self.federateIsLocked }

end Commit

/-- One for a commit of the given time, else zero. -/
def committedAt
    (time : Commit T → T)
    (logicalTime : T)
    (commit : Commit T) : Nat :=
  if logicalTime = time commit then 1 else 0

/-- The commits of the known time regulating federates; every commit is counted
in the two count maps. -/
structure FederateHandleLowerBoundTimeStampMap
    (T : Type*) [LinearOrder T] where
  timeAdvanceLogicalTimeFederateCountMap : LogicalTimeFederateCountMap T
  nextMessageLogicalTimeFederateCountMap : LogicalTimeFederateCountMap T
  federateHandleCommitMap : OrderedMap FederateHandle (Commit T)
  timeAdvanceCounted :
    ∀ logicalTime,
      federateHandleCommitMap.sum (committedAt (·.timeAdvanceCommit)
          logicalTime) ≤
        timeAdvanceLogicalTimeFederateCountMap.count logicalTime
  nextMessageCounted :
    ∀ logicalTime,
      federateHandleCommitMap.sum (committedAt (·.nextMessageCommit)
          logicalTime) ≤
        nextMessageLogicalTimeFederateCountMap.count logicalTime

namespace FederateHandleLowerBoundTimeStampMap

instance : EmptyCollection (FederateHandleLowerBoundTimeStampMap T) where
  emptyCollection :=
    { timeAdvanceLogicalTimeFederateCountMap := ∅
      nextMessageLogicalTimeFederateCountMap := ∅
      federateHandleCommitMap := ∅
      timeAdvanceCounted := fun _ => le_refl 0
      nextMessageCounted := fun _ => le_refl 0 }

instance [DecidableEq T] :
    DecidableEq (FederateHandleLowerBoundTimeStampMap T) :=
  fun left right =>
    decidable_of_iff
      (left.timeAdvanceLogicalTimeFederateCountMap =
          right.timeAdvanceLogicalTimeFederateCountMap ∧
        left.nextMessageLogicalTimeFederateCountMap =
          right.nextMessageLogicalTimeFederateCountMap ∧
        left.federateHandleCommitMap = right.federateHandleCommitMap) (by
      cases left
      cases right
      simp)

/-- What a federate has committed. -/
def find?
    (self : FederateHandleLowerBoundTimeStampMap T)
    (federateHandle : FederateHandle) : Option (Commit T) :=
  self.federateHandleCommitMap.find? federateHandle

/-! ## Changes -/

/-- Enter a federate with its first bounds. -/
def insert
    (self : FederateHandleLowerBoundTimeStampMap T)
    (federateHandle : FederateHandle)
    (logicalTime nextMessageTime : T)
    (commitId beforeOwnCommitId : Unsigned) :
    FederateHandleLowerBoundTimeStampMap T where
  timeAdvanceLogicalTimeFederateCountMap :=
    self.timeAdvanceLogicalTimeFederateCountMap.insert logicalTime
  nextMessageLogicalTimeFederateCountMap :=
    self.nextMessageLogicalTimeFederateCountMap.insert nextMessageTime
  federateHandleCommitMap :=
    self.federateHandleCommitMap.insert federateHandle
      { timeAdvanceCommit := logicalTime
        nextMessageCommit := nextMessageTime
        commitId := commitId
        federateIsWaitingForCommitId := beforeOwnCommitId
        federateIsLocked := false }
  timeAdvanceCounted := by
    intro other
    refine (OrderedMap.sum_insert_le _ _ _ _).trans ?_
    rw [LogicalTimeFederateCountMap.count_insert]
    have counted := self.timeAdvanceCounted other
    exact Nat.add_le_add_right counted _
  nextMessageCounted := by
    intro other
    refine (OrderedMap.sum_insert_le _ _ _ _).trans ?_
    rw [LogicalTimeFederateCountMap.count_insert]
    have counted := self.nextMessageCounted other
    exact Nat.add_le_add_right counted _

variable {commits : OrderedMap FederateHandle (Commit T)}
variable {counts : LogicalTimeFederateCountMap T} {time : Commit T → T}
variable {federateHandle : FederateHandle}

/-- A committed time is counted. -/
theorem counted_pos
    {commit : Commit T}
    (counted : ∀ logicalTime,
      commits.sum (committedAt time logicalTime) ≤ counts.count logicalTime)
    (found : commits.find? federateHandle = some commit) :
    0 < counts.count (time commit) := by
  have weight := OrderedMap.weight_le_sum
    (committedAt time (time commit)) found
  rw [committedAt, if_pos rfl] at weight
  exact lt_of_lt_of_le weight (counted (time commit))

/-- Counts of a time that some federate leaves still cover the others. -/
theorem counted_decrement
    {commit : Commit T}
    (counted : ∀ logicalTime,
      commits.sum (committedAt time logicalTime) ≤ counts.count logicalTime)
    (found : commits.find? federateHandle = some commit)
    (logicalTime : T) :
    (commits.erase federateHandle).sum (committedAt time logicalTime) ≤
      (counts.decrement (time commit)).count logicalTime := by
  have erased := commits.sum_erase (committedAt time logicalTime)
    federateHandle
  have bound := counted logicalTime
  rw [found, OrderedMap.weightOf_some, committedAt] at erased
  rw [LogicalTimeFederateCountMap.count_decrement]
  omega

/-- Counts of a time that some federate moves to still cover all federates. -/
theorem counted_move
    {commit changed : Commit T}
    (counted : ∀ logicalTime,
      commits.sum (committedAt time logicalTime) ≤ counts.count logicalTime)
    (found : commits.find? federateHandle = some commit)
    (logicalTime : T) :
    (commits.set federateHandle changed).sum (committedAt time logicalTime) ≤
      (counts.move (time commit) (time changed)).1.count logicalTime := by
  have entered := commits.sum_set (committedAt time logicalTime)
    federateHandle changed
  have moved := counts.count_move (time commit) (time changed) logicalTime
    (counted_pos counted found)
  have bound := counted logicalTime
  rw [found, OrderedMap.weightOf_some, committedAt, committedAt] at entered
  omega

/-- Change a known federate's commit, moving it in the two count maps. -/
def setCommit
    (self : FederateHandleLowerBoundTimeStampMap T)
    (federateHandle : FederateHandle)
    (commit changed : Commit T)
    (found : self.find? federateHandle = some commit) :
    FederateHandleLowerBoundTimeStampMap T where
  timeAdvanceLogicalTimeFederateCountMap :=
    (self.timeAdvanceLogicalTimeFederateCountMap.move
      commit.timeAdvanceCommit changed.timeAdvanceCommit).1
  nextMessageLogicalTimeFederateCountMap :=
    (self.nextMessageLogicalTimeFederateCountMap.move
      commit.nextMessageCommit changed.nextMessageCommit).1
  federateHandleCommitMap :=
    self.federateHandleCommitMap.set federateHandle changed
  timeAdvanceCounted := counted_move self.timeAdvanceCounted found
  nextMessageCounted := counted_move self.nextMessageCounted found

/-- Remove a federate and return whether that removed a least time. -/
def erase
    (self : FederateHandleLowerBoundTimeStampMap T)
    (federateHandle : FederateHandle) :
    FederateHandleLowerBoundTimeStampMap T × Bool :=
  match found : self.find? federateHandle with
  | none => (self, false)
  | some commit =>
      ({ timeAdvanceLogicalTimeFederateCountMap :=
          (self.timeAdvanceLogicalTimeFederateCountMap.erase
            commit.timeAdvanceCommit).1
         nextMessageLogicalTimeFederateCountMap :=
          (self.nextMessageLogicalTimeFederateCountMap.erase
            commit.nextMessageCommit).1
         federateHandleCommitMap :=
          self.federateHandleCommitMap.erase federateHandle
         timeAdvanceCounted :=
          counted_decrement self.timeAdvanceCounted found
         nextMessageCounted :=
          counted_decrement self.nextMessageCounted found },
        (self.timeAdvanceLogicalTimeFederateCountMap.erase
            commit.timeAdvanceCommit).2 ||
          (self.nextMessageLogicalTimeFederateCountMap.erase
            commit.nextMessageCommit).2)

/-- Take over a commit of a federate.  Returns whether it removed the least
time advance commit, and whether it has a new commit id.  There is no result
for a federate without an entry, where the source uses an end iterator. -/
def commit
    (self : FederateHandleLowerBoundTimeStampMap T)
    (federateHandle : FederateHandle)
    (logicalTime : T)
    (commitType : LowerBoundTimeStampCommitType)
    (commitId : Unsigned) :
    Option (FederateHandleLowerBoundTimeStampMap T × Bool × Bool) :=
  match found : self.find? federateHandle with
  | none => none
  | some commit =>
      some
        (self.setCommit federateHandle commit
            (commit.update logicalTime commitType commitId) found,
          commitType.timeAdvance &&
            (self.timeAdvanceLogicalTimeFederateCountMap.move
              commit.timeAdvanceCommit logicalTime).2,
          commit.commitId ≠ commitId)

/-- Note the own commit id that a federate has received. -/
def setFederateWaitCommitId
    (self : FederateHandleLowerBoundTimeStampMap T)
    (federateHandle : FederateHandle)
    (commitId : Unsigned) : FederateHandleLowerBoundTimeStampMap T :=
  match found : self.find? federateHandle with
  | none => self
  | some commit =>
      self.setCommit federateHandle commit
        { commit with federateIsWaitingForCommitId := commitId } found

/-- Note whether a federate is locked by its next message request. -/
def setFederateLockedByNextMessage
    (self : FederateHandleLowerBoundTimeStampMap T)
    (federateHandle : FederateHandle)
    (locked : Bool) : FederateHandleLowerBoundTimeStampMap T :=
  match found : self.find? federateHandle with
  | none => self
  | some commit =>
      self.setCommit federateHandle commit
        { commit with federateIsLocked := locked } found

/-! ## What the changes leave in the table -/

theorem find?_insert
    (self : FederateHandleLowerBoundTimeStampMap T)
    (federateHandle other : FederateHandle)
    (logicalTime nextMessageTime : T)
    (commitId beforeOwnCommitId : Unsigned) :
    (self.insert federateHandle logicalTime nextMessageTime commitId
        beforeOwnCommitId).find? other =
      if other = federateHandle then
        some ((self.find? federateHandle).getD
          ⟨logicalTime, nextMessageTime, commitId, beforeOwnCommitId, false⟩)
      else self.find? other :=
  OrderedMap.find?_insert ..

theorem find?_setCommit
    {self : FederateHandleLowerBoundTimeStampMap T} {commit : Commit T}
    (found : self.find? federateHandle = some commit)
    (changed : Commit T) (other : FederateHandle) :
    (self.setCommit federateHandle commit changed found).find? other =
      if other = federateHandle then some changed else self.find? other :=
  OrderedMap.find?_set ..

/-- Erasing a federate that is not known changes nothing. -/
theorem find?_erase
    (self : FederateHandleLowerBoundTimeStampMap T)
    (federateHandle other : FederateHandle) :
    (self.erase federateHandle).1.find? other =
      if other = federateHandle then none else self.find? other := by
  unfold FederateHandleLowerBoundTimeStampMap.erase
  split
  next absent =>
    split
    next same => rw [same, absent]
    next => rfl
  next => exact OrderedMap.find?_erase ..

/-! ## Questions -/

def empty (self : FederateHandleLowerBoundTimeStampMap T) : Bool :=
  self.timeAdvanceLogicalTimeFederateCountMap.empty

/-- The least bound for time advances, where there is a regulating federate. -/
def getGALT (self : FederateHandleLowerBoundTimeStampMap T) : Option T :=
  self.timeAdvanceLogicalTimeFederateCountMap.begin?

/-- The least bound for next message requests. -/
def getNextMessageGALT
    (self : FederateHandleLowerBoundTimeStampMap T) : Option T :=
  self.nextMessageLogicalTimeFederateCountMap.begin?

/-- Whether a time with its second component stays within a least bound. -/
def staysWithin
    (least : Option T)
    (logicalTime : T)
    (second : Int) : Bool :=
  match least with
  | none => true
  | some bound =>
      if 0 < second then logicalTime < bound else logicalTime ≤ bound

def canAdvanceTo
    (self : FederateHandleLowerBoundTimeStampMap T)
    (logicalTime : T)
    (second : Int) : Bool :=
  staysWithin self.getGALT logicalTime second

def canAdvanceToNextMessage
    (self : FederateHandleLowerBoundTimeStampMap T)
    (logicalTime : T)
    (second : Int) : Bool :=
  staysWithin self.getNextMessageGALT logicalTime second

/-- Whether the least time advance commit is below every next message
commit. -/
def getConstrainedByNextMessage
    (self : FederateHandleLowerBoundTimeStampMap T) : Bool :=
  match self.getGALT, self.getNextMessageGALT with
  | some galt, some nextMessageGALT => galt < nextMessageGALT
  | _, _ => false

/-- Whether all federates that hold back the time advance, being in next
message mode, satisfy a condition. -/
def allHoldingBack
    (self : FederateHandleLowerBoundTimeStampMap T)
    (condition : Commit T → Bool) : Bool :=
  match self.getNextMessageGALT with
  | none => false
  | some nextMessageGALT =>
      self.getConstrainedByNextMessage &&
        self.federateHandleCommitMap.entries.all fun entry =>
          nextMessageGALT ≤ entry.2.timeAdvanceCommit ||
            !entry.2.isInNextMessageMode || condition entry.2

def getLockedByNextMessage
    (self : FederateHandleLowerBoundTimeStampMap T)
    (commitId : Unsigned) : Bool :=
  self.allHoldingBack fun commit =>
    commit.federateIsWaitingForCommitId = commitId

def getIsSafeToAdvanceToNextMessage
    (self : FederateHandleLowerBoundTimeStampMap T)
    (commitId : Unsigned) : Bool :=
  self.allHoldingBack fun commit =>
    commit.federateIsWaitingForCommitId = commitId && commit.federateIsLocked

/-- The federates in next message mode, with the commit id seen last. -/
def getNextMessageFederateHandleList
    (self : FederateHandleLowerBoundTimeStampMap T) :
    List (FederateHandle × Unsigned) :=
  (self.federateHandleCommitMap.entries.filter
      fun entry => entry.2.isInNextMessageMode).map
    fun entry => (entry.1, entry.2.commitId)

end FederateHandleLowerBoundTimeStampMap
end TimeManagement
end OpenRTI
