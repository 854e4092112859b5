import OpenRTI.TimeManagement.OtherBounds
import OpenRTI.TimeManagement.PendingTimeGuard

/-!
# When the check of a pending request stays within the pending time

The check of a pending next message request commits the pending time plus the
lookahead, unless some other federate holds the advance back.  What the check
commits stays within the pending time exactly if what is committed already
does, and either the lookahead does not lead beyond the pending time or some
other federate holds a bound that the lookahead does not lead beyond it.
-/

namespace OpenRTI
namespace TimeManagement

open Foundation

namespace TemplateTimeManagement

/-- Sends are compared with the pending time of a next message request. -/
def comparesWithPending (self : TemplateTimeManagement) : Bool :=
  self.allowPendingTimeInNextMessageRequest &&
    self.getTimeRegulationEnabled && self.getIsAnyNextMessageMode

/-- If a grant is checked, the lookahead does not lead from the pending time, or
from some bound that holds the advance back, beyond the pending time. -/
def advanceWithin
    (self : TemplateTimeManagement)
    (pending : LogicalTimePair)
    (isChecked : Bool)
    (holdingBack : List Int) : Bool :=
  !isChecked || self.lowerBoundAt pending.first ≤ pending.toLogicalTime ||
    holdingBack.any fun bound =>
      self.lowerBoundAt bound ≤ pending.toLogicalTime

/-- What is committed is within a pending time, and if a grant is checked it
stays so. -/
def committedWithin
    (self : TemplateTimeManagement)
    (pending : LogicalTimePair)
    (isChecked : Bool)
    (holdingBack : List Int) : Bool :=
  self.committedOutboundLowerBoundTimeStamp ≤ pending.toLogicalTime &&
    self.advanceWithin pending isChecked holdingBack

/-- The pending time of a next message request: the requested time, or the least
queued time stamp if the federate is constrained and that is earlier. -/
def requestedPending
    (self : TemplateTimeManagement)
    (logicalTime : Int)
    (mode : TimeAdvanceMode) : LogicalTimePair :=
  let requested :=
    max self.logicalTime
      ⟨logicalTime,
        getPendingTimeSecondField { self with timeAdvanceMode := mode }⟩
  ⟨self.nextMessageTime requested.first, requested.second⟩

/-- A time stamped message that is queued while a next message request of a
constrained federate is pending, and that lowers the pending time. -/
def lowersPending
    (self : TemplateTimeManagement)
    (timeStamp : Int) : Bool :=
  self.getIsAnyNextMessageMode && self.getTimeConstrainedEnabled &&
    self.logicalTime ≤ ⟨timeStamp, 1⟩ &&
    timeStamp < self.pendingLogicalTime.first

/-- The commit id after a commit for next message requests at a logical time; a
new bound beyond the one for time advances has a new id. -/
def nextMessageCommitId
    (self : TemplateTimeManagement)
    (logicalTime : Int) : Unsigned :=
  let bound :=
    max (self.lowerBoundAt logicalTime)
      self.committedOutboundLowerBoundTimeStamp
  if self.committedNextMessageLowerBoundTimeStamp ≠ bound ∧
      self.committedOutboundLowerBoundTimeStamp ≠ bound then
    self.commitId + 1
  else self.commitId

/-- The commit id once the pending time is lowered. -/
def commitIdLoweredTo
    (self : TemplateTimeManagement)
    (timeStamp : Int) : Unsigned :=
  if self.timeAdvanceToBeScheduled then self.nextMessageCommitId timeStamp
  else self.commitId

/-- What the other federates hold after a message that changes it; none for the
messages that do not. -/
def othersAfter (self : TemplateTimeManagement) :
    Message → Option (OtherBounds Int)
  | .resignFederateNotify federateHandle
  | .disableTimeRegulationRequest federateHandle =>
      some (self.federateLowerBoundMap.othersWithout federateHandle)
  | .commitLowerBoundTimeStamp federateHandle timeStamp commitType commitId =>
      some
        (self.federateLowerBoundMap.othersWith federateHandle fun commit =>
          commit.update timeStamp commitType commitId)
  | .commitLowerBoundTimeStampResponse _ sending commitId =>
      some
        (self.federateLowerBoundMap.othersWith sending fun commit =>
          { commit with federateIsWaitingForCommitId := commitId })
  | .lockedByNextMessageRequest sending locked =>
      some
        (self.federateLowerBoundMap.othersWith sending fun commit =>
          { commit with federateIsLocked := locked })
  | _ => none

/-- The condition on a check of the pending request against what the other
federates hold. -/
def checkKeepsWithin
    (self : TemplateTimeManagement)
    (others : OtherBounds Int) : Bool :=
  !self.comparesWithPending ||
    self.advanceWithin self.pendingLogicalTime self.timeAdvanceToBeScheduled
      (others.holdingBack self.commitId)

/-- The condition on a time stamped message, which can lower the pending
time. -/
def loweringKeepsWithin
    (self : TemplateTimeManagement)
    (timeStamp : Int) : Bool :=
  !self.lowersPending timeStamp || !self.comparesWithPending ||
    self.committedWithin ⟨timeStamp, self.pendingLogicalTime.second⟩
      self.timeAdvanceToBeScheduled
      (self.federateLowerBoundMap.others.holdingBack
        (self.commitIdLoweredTo timeStamp))

/-- The condition on a message: one that lowers the pending time, or that
changes what the others hold. -/
def messageKeepsWithin (self : TemplateTimeManagement) : Message → Bool
  | .timeStamped message => self.loweringKeepsWithin message.timeStamp
  | message => (self.othersAfter message).all self.checkKeepsWithin

/-- The condition on a call: a next message request, and switching the option
on while one is pending. -/
def callKeepsWithin (self : TemplateTimeManagement) :
    Ambassador.Call → Bool
  | .timeAdvanceRequest logicalTime mode =>
      match mode with
      | .nextMessageRequest | .nextMessageRequestAvailable =>
          !(self.allowPendingTimeInNextMessageRequest &&
              self.getTimeRegulationEnabled) ||
            committedWithin
              { self with timeAdvanceMode := mode.toTimeAdvanceMode }
              (self.requestedPending logicalTime mode.toTimeAdvanceMode)
              self.getTimeConstrainedEnabled
              self.federateLowerBoundMap.others.timeAdvance
      | _ => true
  | .allowPendingTimeInNextMessageRequest =>
      !(self.getTimeRegulationEnabled && self.getIsAnyNextMessageMode) ||
        self.committedOutboundLowerBoundTimeStamp ≤
          self.pendingLogicalTime.toLogicalTime
  | _ => true

variable (self : TemplateTimeManagement)

/-! ## What the check commits -/

theorem lowerBoundAt_min
    (left right : Int) :
    self.lowerBoundAt (min left right) =
      min (self.lowerBoundAt left) (self.lowerBoundAt right) :=
  Monotone.map_min fun _ _ ordered => self.lowerBoundAt_mono ordered

/-- The check commits up to the pending time or the least bound, whichever is
earlier. -/
theorem advanceCommittedByCheck_le_iff
    (allowNextMessage : Bool) (limit : Int) :
    self.lowerBoundAt (self.advanceCommittedByCheck allowNextMessage) ≤ limit ↔
      self.lowerBoundAt self.pendingLogicalTime.first ≤ limit ∨
        (if allowNextMessage && self.getIsSafeToAdvanceToNextMessage then
            self.federateLowerBoundMap.getNextMessageGALT
          else self.federateLowerBoundMap.getGALT).any
          (fun bound => self.lowerBoundAt bound ≤ limit) = true := by
  rw [advanceCommittedByCheck]
  generalize (if allowNextMessage && self.getIsSafeToAdvanceToNextMessage then
      self.federateLowerBoundMap.getNextMessageGALT
    else self.federateLowerBoundMap.getGALT) = least
  cases least with
  | none => simp
  | some bound =>
      dsimp only
      rw [lowerBoundAt_min, min_le_iff, Option.any_some, decide_eq_true_iff]

/-- Sends that are not compared with the pending time are covered. -/
theorem covered_pendingTimeGuardAt
    (committed : Int) :
    (self.pendingTimeGuardAt committed).covered =
      (!self.comparesWithPending ||
        committed ≤ self.pendingLogicalTime.toLogicalTime) := by
  rw [comparesWithPending, Bool.and_assoc]
  rfl

/-- The least bound that the check compares with, among the bounds that hold the
advance back. -/
theorem leastChecked_any
    {self : TemplateTimeManagement} {others : OtherBounds Int}
    (describes : others.Describes self.federateLowerBoundMap)
    (nextMessage : self.getIsAnyNextMessageMode = true)
    (allowNextMessage : Bool) (limit : Int) :
    (if allowNextMessage && self.getIsSafeToAdvanceToNextMessage then
        self.federateLowerBoundMap.getNextMessageGALT
      else self.federateLowerBoundMap.getGALT).any
        (fun bound => self.lowerBoundAt bound ≤ limit) =
      (if allowNextMessage then others.holdingBack self.commitId
        else others.timeAdvance).any
        fun bound => self.lowerBoundAt bound ≤ limit := by
  have downward : ∀ lower upper, lower ≤ upper →
      decide (self.lowerBoundAt upper ≤ limit) = true →
      decide (self.lowerBoundAt lower ≤ limit) = true := by
    intro lower upper ordered within
    exact decide_eq_true
      ((self.lowerBoundAt_mono ordered).trans (of_decide_eq_true within))
  have timeAdvance := describes.getGALT_any _ downward
  have nextMessageTimes := describes.getNextMessageGALT_any _ downward
  have safe := describes.getIsSafeToAdvanceToNextMessage_eq self.commitId
  rw [getIsSafeToAdvanceToNextMessage, nextMessage, Bool.true_and, safe,
    OtherBounds.holdingBack]
  cases allowNextMessage with
  | false => exact timeAdvance
  | true =>
      cases others.safeToAdvanceToNextMessage self.commitId with
      | false => exact timeAdvance
      | true => exact nextMessageTimes

/-- What the check commits stays within the pending time exactly if what is
committed stays there. -/
theorem covers_committedByCheck
    {self : TemplateTimeManagement} {others : OtherBounds Int}
    (describes : others.Describes self.federateLowerBoundMap)
    (allowNextMessage : Bool) :
    (self.pendingTimeGuardAt
        (self.committedByCheck allowNextMessage)).covered =
      (!self.comparesWithPending ||
        self.committedWithin self.pendingLogicalTime
          self.timeAdvanceToBeScheduled
          (if allowNextMessage then others.holdingBack self.commitId
            else others.timeAdvance)) := by
  rw [covered_pendingTimeGuardAt]
  cases compares : self.comparesWithPending with
  | false => rfl
  | true =>
      rw [comparesWithPending, Bool.and_eq_true, Bool.and_eq_true] at compares
      obtain ⟨⟨_, enabled⟩, nextMessage⟩ := compares
      have checked := leastChecked_any describes nextMessage allowNextMessage
        self.pendingLogicalTime.toLogicalTime
      rw [Bool.not_true, Bool.false_or, Bool.false_or, committedWithin,
        advanceWithin, committedByCheck, enabled, nextMessage, Bool.and_true, Bool.and_true,
        ← checked]
      cases self.timeAdvanceToBeScheduled with
      | false => simp
      | true =>
          rw [if_pos rfl, Bool.eq_iff_iff, decide_eq_true_iff, max_le_iff,
            advanceCommittedByCheck_le_iff]
          simp only [Bool.not_true, Bool.false_or, Bool.and_eq_true,
            Bool.or_eq_true, decide_eq_true_iff]
          exact and_comm

variable (logicalTime : Int)

/-! ## Messages that lower the pending time -/

/-- A commit for next message requests, with its id. -/
theorem sendNextMessageCommit_eq :
    ∃ bound messages,
      self.sendCommitLowerBoundTimeStampLookaheadIfChanged logicalTime
          self.targetLookahead .nextMessageCommit =
        self.withCommit ⟨self.committedOutboundLowerBoundTimeStamp, bound⟩
          (self.nextMessageCommitId logicalTime) messages := by
  have within := le_max_right (self.lowerBoundAt logicalTime)
    self.committedOutboundLowerBoundTimeStamp
  rw [sendCommitLowerBoundTimeStampLookaheadIfChanged_eq, nextMessageCommitId]
  revert within
  generalize max (self.lowerBoundAt logicalTime)
    self.committedOutboundLowerBoundTimeStamp = bound
  intro within
  rw [sendCommitLowerBoundTimeStampIfChanged, if_neg (not_lt.mpr within)]
  by_cases same : self.committedNextMessageLowerBoundTimeStamp = bound
  · refine ⟨bound, [], ?_⟩
    rw [if_neg (not_and_of_not_left _ (not_not_intro same)), ← same]
    simp [changedCommitType, LowerBoundTimeStampCommitType.nextMessageCommit,
      withCommit]
  · have isNew : self.committedNextMessageLowerBoundTimeStamp ≠ bound ∧
        self.committedOutboundLowerBoundTimeStamp ≠ bound ↔
        LowerBoundTimeStampCommitType.nextMessageCommit.nextMessage = true ∧
          self.committedOutboundLowerBoundTimeStamp ≠ bound :=
      and_congr_left fun _ => iff_of_true same rfl
    have changed : self.changedCommitType bound .nextMessageCommit =
        .nextMessageCommit := by
      simp [changedCommitType, same,
        LowerBoundTimeStampCommitType.nextMessageCommit]
    rw [changed, if_neg (by decide), if_congr isNew rfl rfl]
    exact ⟨bound, _, rfl⟩

/-- Where what is committed is within the pending time, only what the check
commits matters. -/
theorem committedWithin_of_covered
    {self : TemplateTimeManagement}
    (covered : self.pendingTimeGuard.covered = true)
    (others : OtherBounds Int) :
    (!self.comparesWithPending ||
        self.committedWithin self.pendingLogicalTime
          self.timeAdvanceToBeScheduled
          (others.holdingBack self.commitId)) =
      self.checkKeepsWithin others := by
  rw [checkKeepsWithin]
  cases compares : self.comparesWithPending with
  | false => rfl
  | true =>
      have within := self.covered_pendingTimeGuardAt
        self.committedOutboundLowerBoundTimeStamp
      rw [compares] at within
      have isWithin : decide (self.committedOutboundLowerBoundTimeStamp ≤
          self.pendingLogicalTime.toLogicalTime) = true :=
        within.symm.trans covered
      rw [committedWithin, isWithin, Bool.true_and]

/-! ## Requests -/

/-- The pending time of a request after it is limited. -/
theorem limitRequest_prepareTimeAdvance
    (mode : TimeAdvanceMode) :
    ∃ outbound last lookahead,
      (self.prepareTimeAdvance logicalTime mode).limitRequest =
        { self with
          timeAdvanceMode := mode
          pendingLogicalTime := self.requestedPending logicalTime mode
          outboundLowerBoundTimeStamp := outbound
          lastOutboundLowerBoundTimeStamp := last
          currentLookahead := lookahead
          timeAdvanceToBeScheduled := self.getTimeConstrainedEnabled } := by
  obtain ⟨outbound, last, lookahead, equal, -⟩ :=
    self.prepareTimeAdvance_eq logicalTime mode
  refine ⟨outbound, last, lookahead, ?_⟩
  rw [equal, limitRequest]
  split
  next constrained =>
    have same : self.getTimeConstrainedEnabled = true := constrained
    rw [limitPendingLogicalTime_withPending constrained, same]
    rfl
  next free =>
    have same : self.getTimeConstrainedEnabled = false :=
      eq_false_of_ne_true free
    rw [requestedPending, nextMessageTime, if_neg (ne_true_of_eq_false same),
      same]
    rfl

/-- A next message request keeps what is committed within the pending time
exactly if it meets the condition. -/
theorem covers_limitRequest
    {mode : TimeAdvanceMode}
    (nextMessage :
      mode = .nextMessageRequest ∨ mode = .nextMessageRequestAvailable) :
    let limited := (self.prepareTimeAdvance logicalTime mode).limitRequest
    (limited.pendingTimeGuardAt (limited.committedByCheck false)).covered =
      (!(self.allowPendingTimeInNextMessageRequest &&
          self.getTimeRegulationEnabled) ||
        committedWithin { self with timeAdvanceMode := mode }
          (self.requestedPending logicalTime mode)
          self.getTimeConstrainedEnabled
          self.federateLowerBoundMap.others.timeAdvance) := by
  obtain ⟨outbound, last, lookahead, equal⟩ :=
    self.limitRequest_prepareTimeAdvance logicalTime mode
  dsimp only
  rw [equal, covers_committedByCheck
    FederateHandleLowerBoundTimeStampMap.describes_others]
  have isMode : ∀ requested : TemplateTimeManagement,
      requested.timeAdvanceMode = mode →
        requested.getIsAnyNextMessageMode = true := by
    intro requested isRequested
    rw [getIsAnyNextMessageMode, isRequested]
    rcases nextMessage with rfl | rfl
    · rfl
    · rfl
  rw [comparesWithPending, isMode _ rfl, Bool.and_true]
  rfl

end TemplateTimeManagement
end TimeManagement
end OpenRTI
