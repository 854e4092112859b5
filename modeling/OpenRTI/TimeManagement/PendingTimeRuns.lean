import OpenRTI.TimeManagement.PendingTimeCondition

/-!
# Sending from the pending time in every run

Each step is followed in the view of the pending time guard.  A step keeps the
committed bound within the pending time exactly if it meets a condition on the
state before it, and so do all runs of such steps.
-/

namespace OpenRTI
namespace TimeManagement

open Foundation

variable {self after : TemplateTimeManagement}

namespace TemplateTimeManagement

/-! ## Messages -/

def withBounds
    (self : TemplateTimeManagement)
    (federateLowerBoundMap : FederateHandleLowerBoundTimeStampMap Int) :
    TemplateTimeManagement :=
  { self with federateLowerBoundMap := federateLowerBoundMap }

/-- The view and what is covered after a step. -/
def Follows (after : TemplateTimeManagement) (covered : Bool) : Prop :=
  after.pendingTimeGuard.Regular ∧ after.pendingTimeGuard.covered = covered

/-- Where the view keeps its times, it stays regular and covered. -/
theorem follows_of_eq
    (regular : self.pendingTimeGuard.Regular)
    (covered : self.pendingTimeGuard.covered = true)
    (same : after.pendingTimeGuard = self.pendingTimeGuard) :
    after.Follows true := by
  rw [Follows, same]
  exact ⟨regular, covered⟩

/-- Checking the pending request commits within the view. -/
theorem checkForPendingTimeAdvance_follows
    {self : TemplateTimeManagement}
    (regular : self.pendingTimeGuard.Regular)
    {others : OtherBounds Int}
    (describes : others.Describes self.federateLowerBoundMap) :
    (self.checkForPendingTimeAdvance true).Follows
      (!self.comparesWithPending ||
        self.committedWithin self.pendingLogicalTime
          self.timeAdvanceToBeScheduled
          (others.holdingBack self.commitId)) := by
  rw [Follows, pendingTimeGuard_checkForPendingTimeAdvance]
  exact ⟨regular.withTimes regular.logicalTimeNonneg regular.pendingNonneg _,
    covers_committedByCheck describes true⟩

/-- The check after the bounds of the others have changed. -/
theorem checkChangedBounds_follows
    {self : TemplateTimeManagement}
    (regular : self.pendingTimeGuard.Regular)
    (covered : self.pendingTimeGuard.covered = true)
    {others : OtherBounds Int}
    (describes : others.Describes self.federateLowerBoundMap)
    (previousLockedByNextMessage : Bool) :
    (self.sendLockedByNextMessageRequestIfChanged previousLockedByNextMessage
      |>.checkForPendingTimeAdvance true).Follows
      (self.checkKeepsWithin others) := by
  rw [← committedWithin_of_covered covered]
  unfold sendLockedByNextMessageRequestIfChanged
  split
  next =>
    exact @checkForPendingTimeAdvance_follows
      (self.sendLockedByNextMessageRequest self.getLockedByNextMessage) regular
      others describes
  next => exact checkForPendingTimeAdvance_follows regular describes

variable {federateHandle : FederateHandle} {timeStamp : Int}

section

variable (regular : self.pendingTimeGuard.Regular)
include regular

theorem acceptCommitLowerBoundTimeStamp_follows
    (covered : self.pendingTimeGuard.covered = true)
    {commitType : LowerBoundTimeStampCommitType} {commitId : Unsigned}
    (accepted :
      self.acceptCommitLowerBoundTimeStamp federateHandle timeStamp commitType
        commitId = some after) :
    after.Follows
      (self.messageKeepsWithin
        (.commitLowerBoundTimeStamp federateHandle timeStamp commitType
          commitId)) := by
  obtain ⟨result, found, equal⟩ := Option.map_eq_some_iff.mp accepted
  have describes : (self.federateLowerBoundMap.othersWith federateHandle
      fun commit => commit.update timeStamp commitType commitId).Describes
      (self.withBounds result.1).federateLowerBoundMap :=
    FederateHandleLowerBoundTimeStampMap.describes_commit found
  have entered : (self.withBounds result.1).pendingTimeGuard.Regular :=
    regular
  rw [← equal]
  dsimp only
  split
  next =>
    unfold sendCommitLowerBoundTimeStampResponse
    split
    next => exact checkChangedBounds_follows entered covered describes _
    next =>
      exact @checkChangedBounds_follows
        ((self.withBounds result.1).send
          (.commitLowerBoundTimeStampResponse federateHandle
            self.federateHandle commitId)) entered covered _ describes _
  next => exact checkChangedBounds_follows entered covered describes _

/-- The check of a pending time that was lowered to a time stamp. -/
theorem checkLoweredPending_follows :
    ((if self.timeAdvanceToBeScheduled && self.getTimeRegulationEnabled then
        self.sendCommitLowerBoundTimeStampLookaheadIfChanged
          self.pendingLogicalTime.first self.targetLookahead
          .nextMessageCommit
      else self).checkForPendingTimeAdvance true).Follows
      (!self.comparesWithPending ||
        self.committedWithin self.pendingLogicalTime
          self.timeAdvanceToBeScheduled
          (self.federateLowerBoundMap.others.holdingBack
            (self.commitIdLoweredTo self.pendingLogicalTime.first))) := by
  have known := @FederateHandleLowerBoundTimeStampMap.describes_others _ _
    self.federateLowerBoundMap
  split
  next commits =>
    rw [Bool.and_eq_true] at commits
    rw [commitIdLoweredTo, if_pos commits.1]
    obtain ⟨bound, messages, equal⟩ :=
      self.sendNextMessageCommit_eq self.pendingLogicalTime.first
    rw [equal]
    exact @checkForPendingTimeAdvance_follows
      (self.withCommit ⟨self.committedOutboundLowerBoundTimeStamp, bound⟩
        (self.nextMessageCommitId self.pendingLogicalTime.first) messages)
      regular _ known
  next notCommits =>
    have follows := checkForPendingTimeAdvance_follows regular known
    rw [commitIdLoweredTo]
    cases scheduled : self.timeAdvanceToBeScheduled with
    | false =>
        rw [scheduled] at follows
        exact follows
    | true =>
        have disabled : self.comparesWithPending = false := by
          rw [scheduled, Bool.true_and] at notCommits
          rw [comparesWithPending, eq_false_of_ne_true notCommits,
            Bool.and_false, Bool.false_and]
        rw [disabled] at follows ⊢
        exact follows

/-- A message that lowers the pending time makes it be checked again. -/
theorem queueTimeStampedMessage_follows
    (covered : self.pendingTimeGuard.covered = true)
    (message : TimeStampedMessage) :
    (self.queueTimeStampedMessage message).Follows
      (self.loweringKeepsWithin message.timeStamp) := by
  have queued :
      (self.queueMessage ⟨message.timeStamp, -1⟩
        (.timeStamped message)).pendingTimeGuard = self.pendingTimeGuard :=
    self.pendingTimeGuard_queueMessage _ (by simp)
  unfold queueTimeStampedMessage
  split
  next dropped =>
    rw [Bool.and_eq_true, decide_eq_true_eq] at dropped
    have kept : self.lowersPending message.timeStamp = false := by
      simp [lowersPending, dropped.2]
    rw [loweringKeepsWithin, kept]
    exact follows_of_eq regular covered rfl
  next arrived =>
    unfold reconsiderPendingTime
    split
    next mode =>
      have nextMessage := Bool.and_eq_true _ _ ▸ mode
      have ahead : self.logicalTime ≤ ⟨message.timeStamp, 1⟩ := by
        refine not_lt.mp fun before => arrived ?_
        rw [Bool.and_eq_true]
        exact ⟨nextMessage.2, decide_eq_true before⟩
      split
      next below =>
        have reached : (self.queueMessage ⟨message.timeStamp, -1⟩
            (.timeStamped message)).logicalTime.first ≤
            message.timeStamp := by
          rw [LogicalTimePair.le_iff] at ahead
          change self.logicalTime.first ≤ message.timeStamp
          dsimp only at ahead
          omega
        have lowers : self.lowersPending message.timeStamp = true := by
          simp only [lowersPending, Bool.and_eq_true, decide_eq_true_eq]
          exact ⟨⟨nextMessage, ahead⟩, below⟩
        have lowered :
            (self.queueMessage ⟨message.timeStamp, -1⟩ (.timeStamped message)
              |>.withPending ⟨message.timeStamp,
                self.pendingLogicalTime.second⟩).pendingTimeGuard.Regular :=
          withPending_regular (queued ▸ regular) regular.pendingNonneg
        rw [loweringKeepsWithin, lowers, Bool.not_true, Bool.false_or]
        dsimp only
        rw [if_pos reached]
        exact checkLoweredPending_follows lowered
      next notBelow =>
        have kept : self.lowersPending message.timeStamp = false := by
          refine eq_false_of_ne_true fun lowers => notBelow ?_
          simp only [lowersPending, Bool.and_eq_true, decide_eq_true_eq]
            at lowers
          exact lowers.2
        rw [loweringKeepsWithin, kept]
        exact follows_of_eq regular covered queued
    next otherMode =>
      have kept : self.lowersPending message.timeStamp = false := by
        refine eq_false_of_ne_true fun lowers => otherMode ?_
        simp only [lowersPending, Bool.and_eq_true] at lowers
        exact Bool.and_eq_true _ _ ▸ lowers.1.1
      rw [loweringKeepsWithin, kept]
      exact follows_of_eq regular covered queued

end

theorem pendingTimeGuard_queueTimeRegulationEnabled
    (self : TemplateTimeManagement) (logicalTimePair : LogicalTimePair) :
    (self.queueMessage logicalTimePair
        .timeRegulationEnabled).pendingTimeGuard =
      { self.pendingTimeGuard with
        enabledQueued := self.pendingTimeGuard.enabledQueued + 1 } := by
  have queued := self.queued_queueMessage logicalTimePair
    .timeRegulationEnabled .timeRegulationEnabled
  rw [if_pos rfl] at queued
  exact PendingTimeGuard.ext rfl rfl rfl rfl rfl rfl rfl queued

/-- The answers keep the second component of the pending time nonnegative. -/
theorem correctTimeRegulations_pending
    (self : TemplateTimeManagement)
    (nonneg : 0 ≤ self.pendingLogicalTime.second)
    (answers : List (FederateHandle × Int)) :
    ∃ outbound pending,
      0 ≤ pending.second ∧
        answers.foldl (fun self entry => self.correctTimeRegulation entry.2)
            self =
          { self with
            outboundLowerBoundTimeStamp := outbound
            pendingLogicalTime := pending } := by
  induction answers generalizing self with
  | nil => exact ⟨_, _, nonneg, rfl⟩
  | cons answer rest ih =>
      rw [List.foldl_cons]
      unfold correctTimeRegulation
      split
      next => exact ih self nonneg
      next =>
        exact ih _
          (LogicalTimePair.max_second_nonneg nonneg (le_refl 0))

section

variable (regular : self.pendingTimeGuard.Regular)
include regular

/-- Once all answers are there the view is still regular, and time regulation
is still to be enabled. -/
theorem checkTimeRegulationEnabled_follows
    (covered : self.pendingTimeGuard.covered = true)
    (noneQueued : self.pendingTimeGuard.enabledQueued = 0) :
    self.checkTimeRegulationEnabled.Follows true ∧
      self.checkTimeRegulationEnabled.timeRegulationMode =
        self.timeRegulationMode := by
  unfold checkTimeRegulationEnabled
  split
  next => exact ⟨⟨regular, covered⟩, rfl⟩
  next enabling =>
    split
    next => exact ⟨⟨regular, covered⟩, rfl⟩
    next answered =>
      have isEnabling :
          self.timeRegulationMode = .timeRegulationEnablePending := by
        simpa [getTimeRegulationEnablePending] using enabling
      have isAnswered : self.timeRegulationEnableFederateHandleSet = ∅ :=
        not_not.mp answered
      obtain ⟨outbound, pending, nonneg, equal⟩ :=
        self.correctTimeRegulations_pending regular.pendingNonneg
          self.timeRegulationEnableFederateHandleTimeStampMap.entries
      have notEnabled :
          self.timeRegulationMode ≠ .timeRegulationEnabled := by
        simp [isEnabling]
      dsimp only
      rw [equal]
      refine ⟨⟨?_, PendingTimeGuard.covered_of_disabled notEnabled⟩, rfl⟩
      rw [pendingTimeGuard_queueTimeRegulationEnabled]
      exact regular.answered isEnabling
        (decide_eq_false (not_not.mpr isAnswered)) noneQueued nonneg
        outbound.first

theorem waiting_of_mem
    (waiting :
      federateHandle ∈ self.timeRegulationEnableFederateHandleSet) :
    self.pendingTimeGuard.enabledQueued = 0 :=
  regular.noneQueued
    (.inr (decide_eq_true (Finset.ne_empty_of_mem waiting)))

theorem acceptJoinFederateNotify_follows
    (covered : self.pendingTimeGuard.covered = true)
    (federateHandle : FederateHandle) :
    (self.acceptJoinFederateNotify federateHandle).Follows true := by
  unfold acceptJoinFederateNotify
  dsimp only
  split
  next waiting =>
    exact ⟨regular.withRegulation (waiting_of_mem regular waiting) _
      regular.enabling _, covered⟩
  next => exact ⟨regular, covered⟩

end

/-- Unless time regulation is enabled the bounds of the others do not matter. -/
theorem checkKeepsWithin_of_disabled
    (disabled : self.timeRegulationMode ≠ .timeRegulationEnabled)
    (others : OtherBounds Int) :
    self.checkKeepsWithin others = true := by
  have notEnabled : self.getTimeRegulationEnabled = false :=
    decide_eq_false disabled
  rw [checkKeepsWithin, comparesWithPending, notEnabled, Bool.and_false,
    Bool.false_and]
  rfl

theorem checkTimeRegulationEnabled_of_settled
    (settled : self.timeRegulationMode ≠ .timeRegulationEnablePending) :
    self.checkTimeRegulationEnabled = self := by
  simp [checkTimeRegulationEnabled, getTimeRegulationEnablePending, settled]

/-- The state without a federate, before it is checked who is waited for. -/
def withoutFederate
    (self : TemplateTimeManagement)
    (federateHandle : FederateHandle)
    (waiting : Finset FederateHandle) : TemplateTimeManagement :=
  { self with
    federateLowerBoundMap :=
      (self.federateLowerBoundMap.erase federateHandle).1
    timeRegulationEnableFederateHandleTimeStampMap :=
      self.timeRegulationEnableFederateHandleTimeStampMap.erase federateHandle
    timeRegulationEnableFederateHandleSet := waiting }

/-- The check without a federate, whose answer may have been awaited. -/
theorem checkWithoutFederate_follows
    (regular : self.pendingTimeGuard.Regular)
    (covered : self.pendingTimeGuard.covered = true)
    (waiting :
      federateHandle ∈ self.timeRegulationEnableFederateHandleSet)
    (handles : Finset FederateHandle) (previousLockedByNextMessage : Bool) :
    ((self.withoutFederate federateHandle handles).checkTimeRegulationEnabled
      |>.sendLockedByNextMessageRequestIfChanged previousLockedByNextMessage
      |>.checkForPendingTimeAdvance true).Follows
      (self.checkKeepsWithin
        (self.federateLowerBoundMap.othersWithout federateHandle)) := by
  have noneQueued := waiting_of_mem regular waiting
  have removed : (self.withoutFederate federateHandle
      handles).pendingTimeGuard.Regular :=
    regular.withRegulation noneQueued _ regular.enabling _
  by_cases pending :
      self.timeRegulationMode = .timeRegulationEnablePending
  · obtain ⟨checked, mode⟩ :=
      checkTimeRegulationEnabled_follows removed covered noneQueued
    have disabled :
        self.timeRegulationMode ≠ .timeRegulationEnabled := by
      simp [pending]
    have follows := checkChangedBounds_follows checked.1 checked.2
      FederateHandleLowerBoundTimeStampMap.describes_others
      previousLockedByNextMessage
    rw [checkKeepsWithin_of_disabled (mode.trans_ne disabled)] at follows
    rwa [checkKeepsWithin_of_disabled disabled]
  · have settled : (self.withoutFederate federateHandle
        handles).checkTimeRegulationEnabled =
        self.withoutFederate federateHandle handles :=
      checkTimeRegulationEnabled_of_settled pending
    rw [settled]
    exact checkChangedBounds_follows removed covered
      (FederateHandleLowerBoundTimeStampMap.describes_othersWithout
        federateHandle)
      previousLockedByNextMessage

theorem acceptResignFederateNotify_follows
    (regular : self.pendingTimeGuard.Regular)
    (covered : self.pendingTimeGuard.covered = true)
    (federateHandle : FederateHandle) :
    (self.acceptResignFederateNotify federateHandle).Follows
      (self.checkKeepsWithin
        (self.federateLowerBoundMap.othersWithout federateHandle)) := by
  unfold acceptResignFederateNotify removeFederateFromTimeManagement
  dsimp only
  split
  next waiting =>
    exact checkWithoutFederate_follows regular covered waiting _ _
  next =>
    have removed : (self.withoutFederate federateHandle
        self.timeRegulationEnableFederateHandleSet).pendingTimeGuard.Regular :=
      regular
    exact checkChangedBounds_follows removed covered
      (FederateHandleLowerBoundTimeStampMap.describes_othersWithout
        federateHandle)
      self.getLockedByNextMessage

def withWaiting
    (self : TemplateTimeManagement)
    (waiting : Finset FederateHandle) : TemplateTimeManagement :=
  { self with timeRegulationEnableFederateHandleSet := waiting }

section

variable (regular : self.pendingTimeGuard.Regular)
include regular

theorem acceptEnableTimeRegulationRequest_follows
    (covered : self.pendingTimeGuard.covered = true)
    {commitId : Unsigned}
    (expected :
      self.expects
        (.enableTimeRegulationRequest federateHandle timeStamp commitId) =
          true) :
    (self.acceptEnableTimeRegulationRequest federateHandle timeStamp
      commitId).Follows true := by
  unfold acceptEnableTimeRegulationRequest
  split
  next own =>
    split
    next => exact ⟨regular, covered⟩
    next pending =>
      have awaited :
          federateHandle ∈ self.timeRegulationEnableFederateHandleSet := by
        simpa [expects, own, pending] using expected
      have noneQueued := waiting_of_mem regular awaited
      have waiting : (self.withWaiting
          (self.timeRegulationEnableFederateHandleSet.erase
            self.federateHandle)).pendingTimeGuard.Regular :=
        regular.withRegulation noneQueued _ regular.enabling _
      exact (checkTimeRegulationEnabled_follows waiting covered noneQueued).1
  next =>
    dsimp only
    refine follows_of_eq regular covered ?_
    rw [pendingTimeGuard_sendLockedByNextMessageRequestIfChanged]
    split <;> rfl

theorem acceptEnableTimeRegulationResponse_follows
    (covered : self.pendingTimeGuard.covered = true)
    {responding : FederateHandle} {timeStampValid : Bool}
    (expected :
      self.expects
        (.enableTimeRegulationResponse federateHandle responding timeStamp
          timeStampValid) = true) :
    (self.acceptEnableTimeRegulationResponse responding timeStamp
      timeStampValid).Follows true := by
  unfold acceptEnableTimeRegulationResponse
  split
  next => exact ⟨regular, covered⟩
  next pending =>
    have awaited :
        responding ∈ self.timeRegulationEnableFederateHandleSet := by
      simpa [expects, pending] using expected
    have noneQueued := waiting_of_mem regular awaited
    have answered := regular.withRegulation noneQueued self.timeRegulationMode
      regular.enabling
      (decide (self.timeRegulationEnableFederateHandleSet.erase responding ≠
        ∅))
    refine (checkTimeRegulationEnabled_follows ?_ ?_ ?_).1
    · rw [pendingTimeGuard_sendLockedByNextMessageRequestIfChanged]
      exact answered
    · rw [pendingTimeGuard_sendLockedByNextMessageRequestIfChanged]
      exact covered
    · rw [pendingTimeGuard_sendLockedByNextMessageRequestIfChanged]
      exact noneQueued

/-- What a message leaves covered. -/
theorem acceptInternalMessage_follows
    (covered : self.pendingTimeGuard.covered = true)
    {message : Message}
    (expected : self.expects message = true)
    (accepted : self.acceptInternalMessage message = some after) :
    after.Follows (self.messageKeepsWithin message) := by
  cases message with
  | commitLowerBoundTimeStamp federateHandle timeStamp commitType commitId =>
      exact acceptCommitLowerBoundTimeStamp_follows regular covered accepted
  | joinFederationExecutionResponse federateHandle =>
      cases accepted
      exact ⟨regular, covered⟩
  | joinFederateNotify federateHandle =>
      cases accepted
      exact acceptJoinFederateNotify_follows regular covered federateHandle
  | resignFederateNotify federateHandle =>
      cases accepted
      exact acceptResignFederateNotify_follows regular covered federateHandle
  | enableTimeRegulationRequest federateHandle timeStamp commitId =>
      cases accepted
      exact acceptEnableTimeRegulationRequest_follows regular covered expected
  | enableTimeRegulationResponse federateHandle responding timeStamp valid =>
      cases accepted
      exact acceptEnableTimeRegulationResponse_follows regular covered expected
  | disableTimeRegulationRequest federateHandle =>
      cases accepted
      have entered : (self.withBounds (self.federateLowerBoundMap.erase
          federateHandle).1).pendingTimeGuard.Regular := regular
      exact checkChangedBounds_follows entered covered
        (FederateHandleLowerBoundTimeStampMap.describes_othersWithout
          federateHandle) _
  | enableTimeConstrainedNotify federateHandle =>
      cases accepted
      exact ⟨regular, covered⟩
  | disableTimeConstrainedNotify federateHandle =>
      cases accepted
      exact ⟨regular, covered⟩
  | commitLowerBoundTimeStampResponse federateHandle sending commitId =>
      cases accepted
      have entered : (self.withBounds
          (self.federateLowerBoundMap.setFederateWaitCommitId sending
            commitId)).pendingTimeGuard.Regular := regular
      exact checkChangedBounds_follows entered covered
        (FederateHandleLowerBoundTimeStampMap.describes_setFederateWaitCommitId
          sending commitId) _
  | lockedByNextMessageRequest sending locked =>
      cases accepted
      have entered : (self.withBounds
          (self.federateLowerBoundMap.setFederateLockedByNextMessage sending
            locked)).pendingTimeGuard.Regular := regular
      exact checkChangedBounds_follows entered covered
        (FederateHandleLowerBoundTimeStampMap.describes_setFederateLockedByNextMessage
          sending locked) _
  | timeStamped stamped =>
      cases accepted
      exact queueTimeStampedMessage_follows regular covered stamped
  | receiveOrder message =>
      cases accepted
      exact ⟨regular, covered⟩

/-! ## Calls and callbacks -/

theorem enableTimeRegulationAt_follows
    (disabled : self.timeRegulationMode = .timeRegulationDisabled)
    (granted : self.timeAdvanceMode = .timeAdvanceGranted)
    (logicalTime lookahead : Int) :
    (self.enableTimeRegulationAt logicalTime lookahead).Follows true := by
  have noneQueued := regular.noneQueued
    (.inl (disabled.trans_ne (by simp)))
  have nonneg : 0 ≤ (max self.logicalTime ⟨logicalTime, 0⟩).second :=
    LogicalTimePair.max_second_nonneg regular.logicalTimeNonneg (le_refl 0)
  have enabling := (regular.withRegulation noneQueued
    .timeRegulationEnablePending (fun _ => granted)
    (decide (Insert.insert self.federateHandle
      (self.timeRegulationEnableFederateHandleSet ∪
        self.federateHandleSet) ≠ ∅))).withTimes
    regular.logicalTimeNonneg nonneg
    ((max self.logicalTime ⟨logicalTime, 0⟩).first + lookahead)
  unfold enableTimeRegulationAt
  dsimp only
  rw [Follows, pendingTimeGuard_sendCommitLowerBoundTimeStampResponses]
  exact ⟨enabling, PendingTimeGuard.covered_of_granted granted⟩

theorem timeAdvanceRequest_follows
    (notPending :
      self.timeRegulationMode ≠ .timeRegulationEnablePending)
    (logicalTime : Int) (mode : Ambassador.RequestMode) :
    (self.timeAdvanceRequest logicalTime mode.toTimeAdvanceMode).Follows
      (self.callKeepsWithin (.timeAdvanceRequest logicalTime mode)) := by
  refine ⟨timeAdvanceRequest_regular regular notPending _ _, ?_⟩
  have isMode : (self.prepareTimeAdvance logicalTime
      mode.toTimeAdvanceMode).pendingTimeGuard.timeAdvanceMode =
      mode.toTimeAdvanceMode :=
    self.prepareTimeAdvance_timeAdvanceMode logicalTime mode.toTimeAdvanceMode
  have advanced : ∀ {committed : Int},
      mode.toTimeAdvanceMode ≠ .nextMessageRequest →
        mode.toTimeAdvanceMode ≠ .nextMessageRequestAvailable →
          ((self.prepareTimeAdvance logicalTime
            mode.toTimeAdvanceMode).pendingTimeGuardAt committed).covered =
            true :=
    fun notNextMessage notAvailable =>
      PendingTimeGuard.covered_of_otherMode (isMode.trans_ne notNextMessage)
        (isMode.trans_ne notAvailable)
  cases mode with
  | nextMessageRequest =>
      exact (congrArg PendingTimeGuard.covered
        (pendingTimeGuard_requestNextMessage _)).trans
        (self.covers_limitRequest logicalTime (.inl rfl))
  | nextMessageRequestAvailable =>
      exact (congrArg PendingTimeGuard.covered
        (pendingTimeGuard_requestNextMessage _)).trans
        (self.covers_limitRequest logicalTime (.inr rfl))
  | timeAdvanceRequest =>
      obtain ⟨committed, equal⟩ := pendingTimeGuard_requestTimeAdvance
        (self.prepareTimeAdvance logicalTime .timeAdvanceRequest)
      exact (congrArg PendingTimeGuard.covered equal).trans
        (advanced (by decide) (by decide))
  | timeAdvanceRequestAvailable =>
      obtain ⟨committed, equal⟩ := pendingTimeGuard_requestTimeAdvance
        (self.prepareTimeAdvance logicalTime .timeAdvanceRequestAvailable)
      exact (congrArg PendingTimeGuard.covered equal).trans
        (advanced (by decide) (by decide))
  | flushQueueRequest =>
      obtain ⟨pending, committed, -, equal⟩ :=
        pendingTimeGuard_requestFlushQueue
          (prepareTimeAdvance_regular regular notPending logicalTime
            .flushQueueRequest)
      exact (congrArg PendingTimeGuard.covered equal).trans
        (PendingTimeGuard.covered_of_otherMode (isMode.trans_ne (by decide))
          (isMode.trans_ne (by decide)))

theorem modifyLookahead_follows
    (granted : self.timeAdvanceMode = .timeAdvanceGranted)
    (lookahead : Int) :
    (self.modifyLookahead lookahead).Follows true := by
  have modified :=
    pendingTimeGuard_setOutboundLowerTimeStampAndCurrentLookahead
      { self with
        targetLookahead := lookahead
        lastOutboundLowerBoundTimeStamp := self.outboundLowerBoundTimeStamp }
      self.logicalTime.first self.outboundLowerBoundTimeStamp
  unfold modifyLookahead
  dsimp only
  rw [sendCommitLowerBoundTimeStampPairIfChanged_eq]
  obtain ⟨committed, equal⟩ :=
    pendingTimeGuard_sendCommitLowerBoundTimeStampIfChanged _ _ _
  rw [Follows, equal, pendingTimeGuardAt_congr modified]
  exact ⟨regular.withTimes regular.logicalTimeNonneg regular.pendingNonneg _,
    PendingTimeGuard.covered_of_granted granted⟩

/-- What is delivered to the own federate is not below the time that sends are
compared with. -/
theorem queueTimeStampedMessage_follows_of_allowed
    (covered : self.pendingTimeGuard.covered = true)
    {message : TimeStampedMessage}
    (allowed :
      self.logicalTimeAlreadyPassedReason message.timeStamp = none) :
    (self.queueTimeStampedMessage message).Follows true := by
  have follows := queueTimeStampedMessage_follows regular covered message
  suffices kept : self.loweringKeepsWithin message.timeStamp = true by
    rwa [kept] at follows
  by_contra exceeds
  simp only [loweringKeepsWithin, lowersPending, comparesWithPending,
    Bool.or_eq_true, Bool.not_eq_true', not_or, Bool.not_eq_false,
    Bool.and_eq_true, decide_eq_true_eq] at exceeds
  obtain ⟨⟨⟨_, below⟩, ⟨optionOn, _⟩, nextMessage⟩, _⟩ := exceeds
  rw [logicalTimeAlreadyPassedReason_eq_none, sendBound, optionOn,
    nextMessage, Bool.true_and, if_pos rfl] at allowed
  have reached := (SendGuard.not_passed_iff self.pendingLogicalTime
    regular.pendingNonneg _).mp allowed
  have first := self.pendingLogicalTime.first_le_toLogicalTime
  omega

theorem sendWithTimeStamp_follows
    (covered : self.pendingTimeGuard.covered = true)
    (orderType : OrderType)
    (objectInstanceHandle : Option ObjectInstanceHandle)
    {deliverToSelf : Bool}
    (allowed :
      self.timeRegulationMode = .timeRegulationEnabled →
        deliverToSelf = true →
          self.logicalTimeAlreadyPassedReason timeStamp = none) :
    (Ambassador.sendWithTimeStamp self timeStamp orderType
      objectInstanceHandle deliverToSelf).Follows true := by
  unfold Ambassador.sendWithTimeStamp
  split
  next enabled =>
    dsimp only
    rw [Follows, pendingTimeGuard_send]
    split
    next toSelf =>
      exact queueTimeStampedMessage_follows_of_allowed regular covered
        (allowed (of_decide_eq_true enabled) toSelf)
    next => exact ⟨regular, covered⟩
  next =>
    dsimp only
    rw [Follows, pendingTimeGuard_send]
    split
    · exact ⟨regular, covered⟩
    · exact ⟨regular, covered⟩

theorem call_follows
    (covered : self.pendingTimeGuard.covered = true)
    {service : Ambassador.Call}
    (called : Ambassador.call self service = .ok after) :
    after.Follows (self.callKeepsWithin service) := by
  cases service with
  | enableTimeRegulation lookahead =>
      obtain ⟨disabled, granted, -, equal⟩ :=
        Ambassador.enableTimeRegulation_ok called
      rw [equal]
      exact enableTimeRegulationAt_follows regular disabled granted _ _
  | enableTimeRegulationAt logicalTime lookahead =>
      obtain ⟨disabled, granted, -, -, equal⟩ :=
        Ambassador.enableTimeRegulationAt_ok called
      rw [equal]
      exact enableTimeRegulationAt_follows regular disabled granted _ _
  | disableTimeRegulation =>
      obtain ⟨enabled, equal⟩ := Ambassador.disableTimeRegulation_ok called
      have noneQueued := regular.noneQueued
        (.inl (enabled.trans_ne (by simp)))
      have disabled := (regular.withRegulation noneQueued
        .timeRegulationDisabled (fun pending => by cases pending)
        self.pendingTimeGuard.waiting).withTimes regular.logicalTimeNonneg
        regular.pendingNonneg LogicalTimeFactory.initialLogicalTime
      have notEnabled : TimeRegulationMode.timeRegulationDisabled ≠
          .timeRegulationEnabled := by simp
      rw [equal]
      exact ⟨disabled, PendingTimeGuard.covered_of_disabled notEnabled⟩
  | enableTimeConstrained =>
      obtain ⟨-, granted, equal⟩ := Ambassador.enableTimeConstrained_ok called
      have pending : (self.withPending
          ⟨self.logicalTime.first, 0⟩).pendingTimeGuard.Regular :=
        withPending_regular regular (le_refl 0)
      have view : self.enableTimeConstrained.pendingTimeGuard =
          (self.withPending
            ⟨self.logicalTime.first, 0⟩).pendingTimeGuard := by
        have other : QueuedMessage.timeConstrainedEnabled ≠
            .timeRegulationEnabled := by simp
        unfold enableTimeConstrained
        dsimp only
        rw [pendingTimeGuard_send, pendingTimeGuard_queueMessage _ _ other]
        rfl
      rw [equal, Follows, view]
      exact ⟨pending, PendingTimeGuard.covered_of_granted granted⟩
  | disableTimeConstrained =>
      obtain ⟨-, equal⟩ := Ambassador.disableTimeConstrained_ok called
      rw [equal]
      exact ⟨regular, covered⟩
  | timeAdvanceRequest logicalTime mode =>
      obtain ⟨-, -, notPending, -, equal⟩ :=
        Ambassador.timeAdvanceRequest_ok called
      rw [equal]
      exact timeAdvanceRequest_follows regular notPending logicalTime mode
  | modifyLookahead lookahead =>
      obtain ⟨-, -, granted, -, equal⟩ := Ambassador.modifyLookahead_ok called
      rw [equal]
      exact modifyLookahead_follows regular granted lookahead
  | enableAsynchronousDelivery =>
      obtain ⟨-, equal⟩ := Ambassador.enableAsynchronousDelivery_ok called
      rw [equal]
      exact ⟨regular, covered⟩
  | disableAsynchronousDelivery =>
      obtain ⟨-, equal⟩ := Ambassador.disableAsynchronousDelivery_ok called
      rw [equal]
      exact ⟨regular, covered⟩
  | allowPendingTimeInNextMessageRequest =>
      obtain ⟨-, equal⟩ :=
        Ambassador.allowPendingTimeInNextMessageRequest_ok called
      rw [equal]
      refine ⟨⟨regular.logicalTimeNonneg, regular.pendingNonneg,
        regular.queuedOnce, regular.queuedWhilePending, regular.enabling⟩, ?_⟩
      exact covered_pendingTimeGuardAt
        { self with allowPendingTimeInNextMessageRequest := true }
        self.committedOutboundLowerBoundTimeStamp
  | disallowPendingTimeInNextMessageRequest =>
      obtain ⟨-, equal⟩ :=
        Ambassador.disallowPendingTimeInNextMessageRequest_ok called
      rw [equal]
      exact ⟨⟨regular.logicalTimeNonneg, regular.pendingNonneg,
        regular.queuedOnce, regular.queuedWhilePending, regular.enabling⟩,
        rfl⟩
  | sendTimeStampedMessage timeStamp orderType objectInstanceHandle
      deliverToSelf =>
      obtain ⟨allowed, equal⟩ := Ambassador.sendTimeStampedMessage_ok called
      rw [equal]
      exact sendWithTimeStamp_follows regular covered _ _
        fun enabled _ => allowed enabled
  | deleteObjectInstance timeStamp orderType objectInstanceHandle =>
      obtain ⟨-, equal⟩ := Ambassador.deleteObjectInstance_ok called
      rw [equal]
      exact sendWithTimeStamp_follows regular covered _ _
        fun _ toSelf => absurd toSelf Bool.false_ne_true

end

theorem pendingTimeGuard_checkForPendingFlushQueue
    (self : TemplateTimeManagement) :
    self.checkForPendingFlushQueue.pendingTimeGuard =
      self.pendingTimeGuard := by
  unfold checkForPendingFlushQueue
  split
  · exact pendingTimeGuard_queueMessage _ _ (by simp)
  · rfl

theorem pendingTimeGuard_cleanOldestMessageLists
    (self : TemplateTimeManagement) :
    self.cleanOldestMessageLists.pendingTimeGuard =
      self.pendingTimeGuard := by
  have kept := congrArg SendGuard.enabledQueued
    self.checkForPendingFlushQueue.sendGuard_dropEmptyLists
  unfold cleanOldestMessageLists
  dsimp only
  rw [pendingTimeGuard_checkForPendingFlushQueue]
  refine Eq.trans ?_ self.pendingTimeGuard_checkForPendingFlushQueue
  exact PendingTimeGuard.ext rfl rfl rfl rfl rfl rfl rfl kept

theorem pendingTimeGuard_popTimeStampOrderMessage
    {message : QueuedMessage}
    (popped : self.popTimeStampOrderMessage = (after, some message)) :
    self.pendingTimeGuard =
      { after.pendingTimeGuard with
        enabledQueued := after.pendingTimeGuard.enabledQueued +
          if message = .timeRegulationEnabled then 1 else 0 } := by
  have counted := congrArg SendGuard.enabledQueued
    (sendGuard_popTimeStampOrderMessage popped)
  unfold popTimeStampOrderMessage at popped
  split at popped
  next =>
    split at popped
    next =>
      cases popped
      exact PendingTimeGuard.ext rfl rfl rfl rfl rfl rfl rfl counted
    next => cases popped
  next => cases popped

section

variable (regular : self.pendingTimeGuard.Regular)
include regular

/-- Dispatching a message that was taken off the queue keeps the view
covered. -/
theorem acceptCallbackMessage_follows
    {popped : TemplateTimeManagement} {message : QueuedMessage}
    (covered : self.pendingTimeGuard.covered = true)
    (view :
      self.pendingTimeGuard =
        { popped.pendingTimeGuard with
          enabledQueued := popped.pendingTimeGuard.enabledQueued +
            if message = .timeRegulationEnabled then 1 else 0 }) :
    (popped.acceptCallbackMessage message).Follows true := by
  rw [view] at regular covered
  cases message with
  | timeStamped message => exact ⟨regular, covered⟩
  | receiveOrder message => exact ⟨regular, covered⟩
  | timeConstrainedEnabled =>
      exact ⟨regular.withTimes regular.pendingNonneg regular.pendingNonneg _,
        covered⟩
  | timeRegulationEnabled =>
      obtain ⟨enabled, granted⟩ := regular.enabled (Nat.succ_pos _)
      exact ⟨enabled, PendingTimeGuard.covered_of_granted granted⟩
  | timeAdvanceGranted =>
      have granted : popped.acceptTimeAdvanceGranted.pendingTimeGuard =
          { popped.pendingTimeGuard with
            logicalTime := popped.pendingLogicalTime
            timeAdvanceMode := .timeAdvanceGranted } := by
        unfold acceptTimeAdvanceGranted
        dsimp only
        split
        · exact congrArg
            (fun guard : PendingTimeGuard =>
              { guard with
                logicalTime := guard.pending
                timeAdvanceMode := .timeAdvanceGranted })
            (popped.pendingTimeGuard_setOutboundLowerTimeStampAndCurrentLookahead
              _ _)
        · rfl
      refine ⟨?_, ?_⟩
      · rw [acceptCallbackMessage, granted]
        exact (regular.withTimes regular.pendingNonneg regular.pendingNonneg
          _).withMode _ fun _ => rfl
      · rw [acceptCallbackMessage, granted]
        exact PendingTimeGuard.covered_of_granted rfl

theorem dispatchCallback_follows
    (covered : self.pendingTimeGuard.covered = true) :
    self.dispatchCallback.1.Follows true := by
  have cleaned := self.pendingTimeGuard_cleanOldestMessageLists
  unfold dispatchCallback
  split
  next => exact ⟨regular, covered⟩
  next =>
    cases popped :
        self.cleanOldestMessageLists.popTimeStampOrderMessage with
    | mk after taken =>
        cases taken with
        | none =>
            rw [popTimeStampOrderMessage_eq_of_none popped]
            exact follows_of_eq regular covered cleaned
        | some message =>
            exact acceptCallbackMessage_follows (cleaned ▸ regular)
              (cleaned ▸ covered)
              (pendingTimeGuard_popTimeStampOrderMessage popped)

theorem callbackMessageAvailable_follows
    (covered : self.pendingTimeGuard.covered = true) :
    self.callbackMessageAvailable.1.Follows true := by
  have cleaned := self.pendingTimeGuard_cleanOldestMessageLists
  unfold callbackMessageAvailable
  split
  · exact ⟨regular, covered⟩
  · dsimp only
    split
    · exact follows_of_eq regular covered cleaned
    · exact follows_of_eq regular covered cleaned

theorem eraseMessagesForObjectInstance_follows
    (covered : self.pendingTimeGuard.covered = true)
    (objectInstanceHandle : ObjectInstanceHandle) :
    (self.eraseMessagesForObjectInstance objectInstanceHandle).Follows
      true := by
  have kept := congrArg SendGuard.enabledQueued
    (self.sendGuard_eraseMessagesForObjectInstance objectInstanceHandle)
  exact follows_of_eq regular covered
    (PendingTimeGuard.ext rfl rfl rfl rfl rfl rfl rfl kept)

theorem setNotificationHandle_follows
    (covered : self.pendingTimeGuard.covered = true)
    (notificationHandle : Option NotificationHandle) :
    (self.setNotificationHandle notificationHandle).Follows true := by
  unfold setNotificationHandle
  dsimp only
  split
  · exact ⟨regular, covered⟩
  · exact ⟨regular, covered⟩

end

end TemplateTimeManagement

/-! ## Runs -/

namespace FederateInput

/-- The condition on a step.  Only next message requests, switching the option
on and messages can lead beyond the pending time that sends are compared
with. -/
def keepsWithinPending (self : TemplateTimeManagement) : FederateInput → Bool
  | .call service => self.callKeepsWithin service
  | .receive message => self.messageKeepsWithin message
  | _ => true

end FederateInput

namespace TemplateTimeManagement

theorem new_regular : new.pendingTimeGuard.Regular where
  logicalTimeNonneg := le_refl 0
  pendingNonneg := le_refl 0
  queuedOnce := Nat.zero_le 1
  queuedWhilePending := fun queued => absurd queued (lt_irrefl 0)
  enabling := fun pending => by cases pending

/-- A step covers what is committed exactly if it meets the condition. -/
theorem apply_follows
    (regular : self.pendingTimeGuard.Regular)
    (covered : self.pendingTimeGuard.covered = true)
    {input : FederateInput}
    (expected : input.expected self = true)
    (stepped : input.apply self = some after) :
    after.Follows (input.keepsWithinPending self) := by
  cases input with
  | call service =>
      exact call_follows regular covered
        (FederateInput.apply_call_eq_some.mp stepped).2
  | receive message =>
      exact acceptInternalMessage_follows regular covered expected stepped
  | dispatchCallback =>
      cases stepped
      exact dispatchCallback_follows regular covered
  | callbackMessageAvailable =>
      cases stepped
      exact callbackMessageAvailable_follows regular covered
  | eraseMessagesForObjectInstance objectInstanceHandle =>
      cases stepped
      exact eraseMessagesForObjectInstance_follows regular covered _
  | setNotificationHandle notificationHandle =>
      cases stepped
      exact setNotificationHandle_follows regular covered _

/-- In runs of steps that meet the condition the view stays covered. -/
theorem federate_follows
    (reachable :
      federate.ReachableUnder
        (fun before input => input.keepsWithinPending before = true) self) :
    self.Follows true := by
  refine TransitionSystem.ReachableUnder.invariant
    (fun state => state.Follows true) ⟨new_regular, rfl⟩ ?_ reachable
  intro before input after follows keeps stepped
  obtain ⟨expected, stepped⟩ :=
    TransitionSystem.restrict_next_eq_some.mp stepped
  exact keeps ▸ apply_follows follows.1 follows.2 expected stepped

/-- While sends are compared with the pending time, exactly the time stamps
from its least allowed time on are let through. -/
theorem allowed_iff_of_sendsFromPending
    (regular : self.pendingTimeGuard.Regular)
    (optionOn : self.allowPendingTimeInNextMessageRequest = true)
    (nextMessage : self.getIsAnyNextMessageMode = true)
    (timeStamp : Int) :
    self.logicalTimeAlreadyPassedReason timeStamp = none ↔
      self.pendingLogicalTime.toLogicalTime ≤ timeStamp := by
  rw [logicalTimeAlreadyPassedReason_eq_none, sendBound, optionOn, nextMessage,
    Bool.true_and, if_pos rfl]
  exact SendGuard.not_passed_iff _ regular.pendingNonneg timeStamp

/-- As long as every step keeps what is committed within the pending time, a
time regulating federate with the option switched on and a next message request
pending sends nothing below its committed bound.  The first step that does not
lets through a time stamp below it. -/
theorem committed_le_sent_from_pending
    (self : TemplateTimeManagement)
    (reachable :
      federate.ReachableUnder
        (fun before input => input.keepsWithinPending before = true) self) :
    (self.timeRegulationMode = .timeRegulationEnabled →
        self.allowPendingTimeInNextMessageRequest = true →
        self.getIsAnyNextMessageMode = true →
        ∀ timeStamp, self.logicalTimeAlreadyPassedReason timeStamp = none →
          self.committedOutboundLowerBoundTimeStamp ≤ timeStamp) ∧
      ∀ input after, federate.next self input = some after →
        input.keepsWithinPending self = false →
          after.timeRegulationMode = .timeRegulationEnabled ∧
            after.allowPendingTimeInNextMessageRequest = true ∧
            after.getIsAnyNextMessageMode = true ∧
            ∃ timeStamp,
              after.logicalTimeAlreadyPassedReason timeStamp = none ∧
                timeStamp < after.committedOutboundLowerBoundTimeStamp := by
  obtain ⟨regular, covered⟩ := federate_follows reachable
  refine ⟨?_, ?_⟩
  · intro enabled optionOn nextMessage timeStamp allowed
    have sends : self.pendingTimeGuard.sendsFromPending = true := by
      simp only [PendingTimeGuard.sendsFromPending, Bool.and_eq_true]
      exact ⟨optionOn, decide_eq_true enabled, nextMessage⟩
    rw [PendingTimeGuard.covered, sends, Bool.not_true, Bool.false_or,
      decide_eq_true_eq] at covered
    exact covered.trans
      ((allowed_iff_of_sendsFromPending regular optionOn nextMessage
        timeStamp).mp allowed)
  · intro input after stepped exceeds
    obtain ⟨expected, stepped⟩ :=
      TransitionSystem.restrict_next_eq_some.mp stepped
    obtain ⟨afterRegular, notCovered⟩ :=
      apply_follows regular covered expected stepped
    rw [exceeds, PendingTimeGuard.covered, Bool.or_eq_false_iff,
      Bool.not_eq_false', PendingTimeGuard.sendsFromPending, Bool.and_eq_true,
      Bool.and_eq_true, decide_eq_false_iff_not, not_le] at notCovered
    obtain ⟨⟨optionOn, enabled, nextMessage⟩, below⟩ := notCovered
    refine ⟨of_decide_eq_true enabled, optionOn, nextMessage,
      after.pendingLogicalTime.toLogicalTime, ?_, below⟩
    exact (allowed_iff_of_sendsFromPending afterRegular optionOn nextMessage
      _).mpr (le_refl _)

/-- A federate becomes time constrained and, with a lookahead, time regulating,
switches the option on and requests the next message up to 10. -/
def nextMessageRun (lookahead : Int) : List FederateInput :=
  [.receive (.joinFederationExecutionResponse 1),
    .call .enableTimeConstrained,
    .dispatchCallback,
    .call (.enableTimeRegulation lookahead),
    .receive (.enableTimeRegulationRequest 1 lookahead (-17)),
    .dispatchCallback,
    .call .allowPendingTimeInNextMessageRequest,
    .call (.timeAdvanceRequest 10 .nextMessageRequest)]

/-- With a lookahead of 1 the bound 11 is committed, and 11 is the least time
stamp that is let through. -/
theorem committed_le_sent_from_pending_lookahead_one :
    ∃ self, federate.run .new (nextMessageRun 1) = some self ∧
      self.committedOutboundLowerBoundTimeStamp = 11 ∧
      self.logicalTimeAlreadyPassedReason 11 = none ∧
      ∀ timeStamp, self.logicalTimeAlreadyPassedReason timeStamp = none →
        self.committedOutboundLowerBoundTimeStamp ≤ timeStamp := by
  have reachable : (federate.restrict fun before input =>
      input.keepsWithinPending before).Reachable _ :=
    TransitionSystem.reachable_of_run (nextMessageRun 1) rfl
  exact ⟨_, rfl, rfl, by decide,
    (committed_le_sent_from_pending _
      (TransitionSystem.reachableUnder_of_restrict reachable)).1 rfl rfl rfl⟩

/-- With a lookahead of 5 the bound 15 is committed, but 12 is let through. -/
theorem committed_le_sent_from_pending_fails_lookahead_five :
    ∃ self, federate.Reachable self ∧
      self.timeRegulationMode = .timeRegulationEnabled ∧
      self.allowPendingTimeInNextMessageRequest = true ∧
      self.getIsAnyNextMessageMode = true ∧
      self.logicalTimeAlreadyPassedReason 12 = none ∧
      12 < self.committedOutboundLowerBoundTimeStamp :=
  ⟨_, TransitionSystem.reachable_of_run (nextMessageRun 5) rfl, rfl, rfl, rfl,
    by decide, by decide⟩

end TemplateTimeManagement
end TimeManagement
end OpenRTI
