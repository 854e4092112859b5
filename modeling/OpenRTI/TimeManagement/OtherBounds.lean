import OpenRTI.TimeManagement.CommitEffects

/-!
# The bounds of the other federates

What the other federates hold back, as lists of times and commits.  A message
that moves or removes the times of one federate changes the lists as stated
here, without reference to the count maps, and the least bounds and the lock of
the next message requests are read off the lists.
-/

namespace OpenRTI
namespace TimeManagement

open Foundation

variable {T : Type*} [LinearOrder T]

variable {logicalTime : T}

namespace LogicalTimeFederateCountMap

/-- The times that some federate has committed. -/
def times (self : LogicalTimeFederateCountMap T) : List T :=
  self.countMap.entries.map Prod.fst

/-- The times that are left without one of the federates at a time. -/
def timesWithout
    (self : LogicalTimeFederateCountMap T)
    (oldTime : T) : List T :=
  self.times.filter fun logicalTime =>
    logicalTime ≠ oldTime || 1 < self.count oldTime

variable {self : LogicalTimeFederateCountMap T}

theorem mem_times :
    logicalTime ∈ self.times ↔ 0 < self.count logicalTime := by
  rw [times, List.mem_map, count]
  constructor
  · rintro ⟨⟨_, count⟩, member, rfl⟩
    have found := OrderedMap.find?_eq_some_iff.mpr member
    rw [found]
    exact self.positive _ count found
  · intro counted
    cases found : self.countMap.find? logicalTime with
    | none => simp [found] at counted
    | some count =>
        exact ⟨(logicalTime, count),
          OrderedMap.find?_eq_some_iff.mp found, rfl⟩

theorem mem_timesWithout
    {oldTime : T} :
    logicalTime ∈ self.timesWithout oldTime ↔
      0 < (self.decrement oldTime).count logicalTime := by
  rw [timesWithout, List.mem_filter, mem_times, count_decrement,
    Bool.or_eq_true, decide_eq_true_iff, decide_eq_true_iff]
  by_cases same : logicalTime = oldTime
  · subst same
    simp
    omega
  · simp [same]

theorem mem_cons_timesWithout
    {oldTime newTime : T}
    (counted : 0 < self.count oldTime) :
    logicalTime ∈ newTime :: self.timesWithout oldTime ↔
      0 < (self.move oldTime newTime).1.count logicalTime := by
  have moved := self.count_move oldTime newTime logicalTime counted
  rw [List.mem_cons, mem_timesWithout, count_decrement]
  by_cases old : logicalTime = oldTime
  · subst old
    rw [if_pos rfl] at moved ⊢
    by_cases new : logicalTime = newTime
    · rw [if_pos new] at moved
      refine iff_of_true (.inl new) ?_
      omega
    · rw [if_neg new] at moved
      rw [or_iff_right new]
      omega
  · rw [if_neg old] at moved ⊢
    by_cases new : logicalTime = newTime
    · rw [if_pos new] at moved
      refine iff_of_true (.inl new) ?_
      omega
    · rw [if_neg new] at moved
      rw [or_iff_right new]
      omega

/-- A property that is handed down to smaller times holds of the least time if
it holds of any. -/
theorem begin?_any_iff
    {logicalTimes : List T}
    (lists : ∀ logicalTime,
      logicalTime ∈ logicalTimes ↔ 0 < self.count logicalTime)
    (holds : T → Bool)
    (downward : ∀ lower upper, lower ≤ upper →
      holds upper = true → holds lower = true) :
    self.begin?.any holds = logicalTimes.any holds := by
  rw [Bool.eq_iff_iff, List.any_eq_true]
  cases first : self.begin? with
  | none =>
      rw [Option.any_none]
      refine iff_of_false Bool.false_ne_true ?_
      rintro ⟨logicalTime, member, _⟩
      exact begin?_ne_none ((lists logicalTime).mp member) first
  | some least =>
      rw [Option.any_some]
      constructor
      · intro held
        exact ⟨least, (lists least).mpr (count_begin? first), held⟩
      · rintro ⟨logicalTime, member, held⟩
        exact downward least logicalTime
          (begin?_le first ((lists logicalTime).mp member)) held

end LogicalTimeFederateCountMap

/-- What the other federates hold: the times that are committed for time
advances and for next message requests, and the commits. -/
structure OtherBounds (T : Type*) where
  timeAdvance : List T
  nextMessage : List T
  commits : List (Commit T)

namespace OtherBounds

/-- All federates that hold back the time advance know our last commit and wait
for it in a next message request. -/
def safeToAdvanceToNextMessage
    (self : OtherBounds T)
    (commitId : Unsigned) : Bool :=
  self.nextMessage ≠ [] &&
    (self.timeAdvance.any fun timeAdvance =>
      self.nextMessage.all fun nextMessage => timeAdvance < nextMessage) &&
    self.commits.all fun commit =>
      (self.nextMessage.any fun nextMessage =>
          nextMessage ≤ commit.timeAdvanceCommit) ||
        !commit.isInNextMessageMode ||
        (commit.federateIsWaitingForCommitId = commitId &&
          commit.federateIsLocked)

/-- The times that a pending next message request is compared with. -/
def holdingBack
    (self : OtherBounds T)
    (commitId : Unsigned) : List T :=
  if self.safeToAdvanceToNextMessage commitId then self.nextMessage
  else self.timeAdvance

/-- The lists are those of a bound map. -/
structure Describes
    (others : OtherBounds T)
    (bounds : FederateHandleLowerBoundTimeStampMap T) : Prop where
  timeAdvance :
    ∀ logicalTime,
      logicalTime ∈ others.timeAdvance ↔
        0 < bounds.timeAdvanceLogicalTimeFederateCountMap.count logicalTime
  nextMessage :
    ∀ logicalTime,
      logicalTime ∈ others.nextMessage ↔
        0 < bounds.nextMessageLogicalTimeFederateCountMap.count logicalTime
  commits :
    ∀ commit,
      commit ∈ others.commits ↔
        ∃ federateHandle, bounds.find? federateHandle = some commit

section Least

variable
  {others : OtherBounds T}
  {bounds : FederateHandleLowerBoundTimeStampMap T}
  (describes : others.Describes bounds)

include describes

/-- A least bound has a property that is handed down exactly if some time of the
list has it. -/
theorem Describes.getGALT_any
    (holds : T → Bool)
    (downward : ∀ lower upper, lower ≤ upper →
      holds upper = true → holds lower = true) :
    bounds.getGALT.any holds = others.timeAdvance.any holds :=
  LogicalTimeFederateCountMap.begin?_any_iff describes.timeAdvance holds
    downward

theorem Describes.getNextMessageGALT_any
    (holds : T → Bool)
    (downward : ∀ lower upper, lower ≤ upper →
      holds upper = true → holds lower = true) :
    bounds.getNextMessageGALT.any holds = others.nextMessage.any holds :=
  LogicalTimeFederateCountMap.begin?_any_iff describes.nextMessage holds
    downward

/-- There is a least next message bound if some time is listed. -/
theorem Describes.getNextMessageGALT_eq_none_iff :
    bounds.getNextMessageGALT = none ↔ others.nextMessage = [] := by
  have listed := describes.getNextMessageGALT_any (fun _ => true)
    fun _ _ _ _ => rfl
  cases least : bounds.getNextMessageGALT <;>
    cases times : others.nextMessage <;>
    simp_all

/-- The least next message bound is at most a time if some listed one is. -/
theorem Describes.nextMessageGALT_le_iff
    {least : T}
    (isLeast : bounds.getNextMessageGALT = some least)
    (logicalTime : T) :
    (others.nextMessage.any fun nextMessage => nextMessage ≤ logicalTime) =
      decide (least ≤ logicalTime) := by
  have listed := describes.getNextMessageGALT_any
    (fun nextMessage => nextMessage ≤ logicalTime)
    fun lower upper ordered held =>
      decide_eq_true (ordered.trans (of_decide_eq_true held))
  rw [← listed, isLeast]
  rfl

/-- A time is below the least next message bound if it is below all of them. -/
theorem Describes.lt_nextMessageGALT_iff
    {least : T}
    (isLeast : bounds.getNextMessageGALT = some least)
    (logicalTime : T) :
    (others.nextMessage.all fun nextMessage => logicalTime < nextMessage) =
      decide (logicalTime < least) := by
  have reached := describes.nextMessageGALT_le_iff isLeast logicalTime
  have negated := congrArg not reached
  rw [List.not_any_eq_all_not] at negated
  simpa only [not_le, ← decide_not] using negated

/-- The commits of the list are those of the map. -/
theorem Describes.all_commits (holds : Commit T → Bool) :
    others.commits.all holds =
      bounds.federateHandleCommitMap.entries.all fun entry => holds entry.2 := by
  rw [Bool.eq_iff_iff, List.all_eq_true, List.all_eq_true]
  constructor
  · intro all entry member
    apply all
    exact (describes.commits entry.2).mpr
      ⟨entry.1, OrderedMap.find?_eq_some_iff.mpr member⟩
  · intro all commit member
    obtain ⟨federateHandle, found⟩ := (describes.commits commit).mp member
    exact all (federateHandle, commit) (OrderedMap.find?_eq_some_iff.mp found)

theorem Describes.getIsSafeToAdvanceToNextMessage_eq
    (commitId : Unsigned) :
    bounds.getIsSafeToAdvanceToNextMessage commitId =
      others.safeToAdvanceToNextMessage commitId := by
  unfold FederateHandleLowerBoundTimeStampMap.getIsSafeToAdvanceToNextMessage
    FederateHandleLowerBoundTimeStampMap.allHoldingBack
    FederateHandleLowerBoundTimeStampMap.getConstrainedByNextMessage
    safeToAdvanceToNextMessage
  have empty := describes.getNextMessageGALT_eq_none_iff
  cases least : bounds.getNextMessageGALT with
  | none =>
      rw [empty.mp least]
      rfl
  | some nextMessageGALT =>
      have present : decide (others.nextMessage ≠ []) = true := by
        refine decide_eq_true fun nothing => ?_
        rw [empty.mpr nothing] at least
        cases least
      have below := describes.lt_nextMessageGALT_iff least
      have reached := describes.nextMessageGALT_le_iff least
      have galt := describes.getGALT_any (fun galt => galt < nextMessageGALT)
        fun lower upper ordered held =>
          decide_eq_true (ordered.trans_lt (of_decide_eq_true held))
      simp only [below, reached, ← galt, present, Bool.true_and,
        describes.all_commits]
      cases bounds.getGALT <;> rfl

end Least

end OtherBounds

/-! ## After a message -/

namespace FederateHandleLowerBoundTimeStampMap

open LogicalTimeFederateCountMap

variable (self : FederateHandleLowerBoundTimeStampMap T)

/-- The commits of all federates but one. -/
def commitsWithout (federateHandle : FederateHandle) : List (Commit T) :=
  (self.federateHandleCommitMap.entries.filter fun entry =>
    entry.1 ≠ federateHandle).map Prod.snd

/-- What the federates hold. -/
def others : OtherBounds T where
  timeAdvance := self.timeAdvanceLogicalTimeFederateCountMap.times
  nextMessage := self.nextMessageLogicalTimeFederateCountMap.times
  commits := self.federateHandleCommitMap.entries.map Prod.snd

/-- What the federates hold without one of them. -/
def othersWithout (federateHandle : FederateHandle) : OtherBounds T :=
  match self.find? federateHandle with
  | none => self.others
  | some commit =>
      { timeAdvance :=
          self.timeAdvanceLogicalTimeFederateCountMap.timesWithout
            commit.timeAdvanceCommit
        nextMessage :=
          self.nextMessageLogicalTimeFederateCountMap.timesWithout
            commit.nextMessageCommit
        commits := self.commitsWithout federateHandle }

/-- What the federates hold once one of them has another commit. -/
def othersWith
    (federateHandle : FederateHandle)
    (change : Commit T → Commit T) : OtherBounds T :=
  match self.find? federateHandle with
  | none => self.others
  | some commit =>
      { timeAdvance :=
          (change commit).timeAdvanceCommit ::
            self.timeAdvanceLogicalTimeFederateCountMap.timesWithout
              commit.timeAdvanceCommit
        nextMessage :=
          (change commit).nextMessageCommit ::
            self.nextMessageLogicalTimeFederateCountMap.timesWithout
              commit.nextMessageCommit
        commits := change commit :: self.commitsWithout federateHandle }

variable {self}

variable {federateHandle : FederateHandle} {commit : Commit T}

theorem mem_commitsWithout :
    commit ∈ self.commitsWithout federateHandle ↔
      ∃ other, other ≠ federateHandle ∧ self.find? other = some commit := by
  rw [commitsWithout, List.mem_map]
  constructor
  · rintro ⟨entry, member, rfl⟩
    obtain ⟨member, different⟩ := List.mem_filter.mp member
    exact ⟨entry.1, of_decide_eq_true different,
      OrderedMap.find?_eq_some_iff.mpr member⟩
  · intro ⟨other, different, found⟩
    refine ⟨(other, commit), List.mem_filter.mpr ⟨?_, ?_⟩, rfl⟩
    · exact OrderedMap.find?_eq_some_iff.mp found
    · exact decide_eq_true different

theorem describes_others : self.others.Describes self where
  timeAdvance _ := mem_times
  nextMessage _ := mem_times
  commits commit := by
    rw [others, List.mem_map]
    constructor
    · rintro ⟨entry, member, rfl⟩
      exact ⟨entry.1, OrderedMap.find?_eq_some_iff.mpr member⟩
    · intro ⟨federateHandle, found⟩
      exact ⟨(federateHandle, commit),
        OrderedMap.find?_eq_some_iff.mp found, rfl⟩

theorem erase_of_absent
    (absent : self.find? federateHandle = none) :
    self.erase federateHandle = (self, false) := by
  unfold FederateHandleLowerBoundTimeStampMap.erase
  split
  next => rfl
  next found =>
    rw [absent] at found
    cases found

theorem erase_counts
    (found : self.find? federateHandle = some commit) :
    (self.erase federateHandle).1.timeAdvanceLogicalTimeFederateCountMap =
        self.timeAdvanceLogicalTimeFederateCountMap.decrement
          commit.timeAdvanceCommit ∧
      (self.erase federateHandle).1.nextMessageLogicalTimeFederateCountMap =
        self.nextMessageLogicalTimeFederateCountMap.decrement
          commit.nextMessageCommit := by
  unfold FederateHandleLowerBoundTimeStampMap.erase
  split
  next absent =>
    rw [absent] at found
    cases found
  next other held =>
    rw [found] at held
    cases held
    exact ⟨rfl, rfl⟩

theorem describes_othersWithout (federateHandle : FederateHandle) :
    (self.othersWithout federateHandle).Describes
      (self.erase federateHandle).1 := by
  unfold othersWithout
  cases found : self.find? federateHandle with
  | none =>
      rw [erase_of_absent found]
      exact describes_others
  | some commit =>
      obtain ⟨timeAdvance, nextMessage⟩ := erase_counts found
      refine ⟨?_, ?_, ?_⟩
      · intro logicalTime
        rw [timeAdvance]
        exact mem_timesWithout
      · intro logicalTime
        rw [nextMessage]
        exact mem_timesWithout
      · intro other
        dsimp only
        rw [mem_commitsWithout]
        simp only [find?_erase]
        refine exists_congr fun handle => ?_
        by_cases same : handle = federateHandle
        · simp [same]
        · simp [same]

theorem describes_othersWith
    (found : self.find? federateHandle = some commit)
    (change : Commit T → Commit T) :
    (self.othersWith federateHandle change).Describes
      (self.setCommit federateHandle commit (change commit) found) := by
  unfold othersWith
  rw [found]
  refine ⟨?_, ?_, ?_⟩
  · intro logicalTime
    exact mem_cons_timesWithout (counted_pos self.timeAdvanceCounted found)
  · intro logicalTime
    exact mem_cons_timesWithout (counted_pos self.nextMessageCounted found)
  · intro other
    dsimp only
    rw [List.mem_cons, mem_commitsWithout]
    simp only [find?_setCommit]
    constructor
    · rintro (rfl | ⟨handle, different, held⟩)
      · exact ⟨federateHandle, if_pos rfl⟩
      · exact ⟨handle, (if_neg different).trans held⟩
    · intro ⟨handle, held⟩
      split at held
      next => 
        injection held with same
        exact .inl same.symm
      next different => exact .inr ⟨handle, different, held⟩

theorem describes_commit
    {commitType : LowerBoundTimeStampCommitType} {commitId : Unsigned}
    {result : FederateHandleLowerBoundTimeStampMap T × Bool × Bool}
    (committed :
      self.commit federateHandle logicalTime commitType commitId =
        some result) :
    (self.othersWith federateHandle fun commit =>
      commit.update logicalTime commitType commitId).Describes result.1 := by
  unfold FederateHandleLowerBoundTimeStampMap.commit at committed
  split at committed
  next => cases committed
  next commit found =>
    injection committed with same
    rw [← same]
    exact describes_othersWith found _

theorem othersWith_of_absent
    (absent : self.find? federateHandle = none)
    (change : Commit T → Commit T) :
    self.othersWith federateHandle change = self.others := by
  rw [othersWith, absent]

theorem describes_setFederateWaitCommitId
    (federateHandle : FederateHandle) (commitId : Unsigned) :
    (self.othersWith federateHandle fun commit =>
      { commit with federateIsWaitingForCommitId := commitId }).Describes
      (self.setFederateWaitCommitId federateHandle commitId) := by
  unfold setFederateWaitCommitId
  split
  next absent =>
    rw [othersWith_of_absent absent]
    exact describes_others
  next found => exact describes_othersWith found _

theorem describes_setFederateLockedByNextMessage
    (federateHandle : FederateHandle) (locked : Bool) :
    (self.othersWith federateHandle fun commit =>
      { commit with federateIsLocked := locked }).Describes
      (self.setFederateLockedByNextMessage federateHandle locked) := by
  unfold setFederateLockedByNextMessage
  split
  next absent =>
    rw [othersWith_of_absent absent]
    exact describes_others
  next found => exact describes_othersWith found _

end FederateHandleLowerBoundTimeStampMap
end TimeManagement
end OpenRTI
