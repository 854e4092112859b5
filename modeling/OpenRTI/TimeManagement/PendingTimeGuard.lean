import OpenRTI.TimeManagement.SendGuardRuns

/-!
# Sending from the pending time

With the option switched on, sends are compared with the pending time of a next
message request instead of the outbound bound.  The bound that is committed
while the request is pending contains the lookahead, so it can exceed the
pending time; this module determines the steps that make it do so.
-/

namespace OpenRTI
namespace TimeManagement

open Foundation

/-! ## What the check of a pending request commits -/

namespace TemplateTimeManagement

/-- The logical time up to which the check of a pending next message request
commits: the pending time, or the least bound of the other federates. -/
def advanceCommittedByCheck
    (self : TemplateTimeManagement)
    (allowNextMessage : Bool) : Int :=
  match
    (if allowNextMessage && self.getIsSafeToAdvanceToNextMessage then
      self.federateLowerBoundMap.getNextMessageGALT
    else self.federateLowerBoundMap.getGALT) with
  | none => self.pendingLogicalTime.first
  | some bound => min self.pendingLogicalTime.first bound

/-- What is committed for time advances after the check. -/
def committedByCheck
    (self : TemplateTimeManagement)
    (allowNextMessage : Bool) : Int :=
  if self.timeAdvanceToBeScheduled && self.getIsAnyNextMessageMode &&
      self.getTimeRegulationEnabled then
    max (self.lowerBoundAt (self.advanceCommittedByCheck allowNextMessage))
      self.committedOutboundLowerBoundTimeStamp
  else self.committedOutboundLowerBoundTimeStamp

end TemplateTimeManagement

/-! ## The view -/

/-- The part of time management that decides what may be sent while a next
message request is pending. -/
@[ext]
structure PendingTimeGuard where
  allowPendingTimeInNextMessageRequest : Bool
  timeRegulationMode : TimeRegulationMode
  timeAdvanceMode : TimeAdvanceMode
  logicalTime : LogicalTimePair
  pending : LogicalTimePair
  committed : Int
  /-- Some federate has not yet answered the request for time regulation. -/
  waiting : Bool
  /-- Number of queued callbacks that enable time regulation. -/
  enabledQueued : Nat

variable {pending : LogicalTimePair}

namespace PendingTimeGuard

/-- Sends are compared with the pending time. -/
def sendsFromPending (guard : PendingTimeGuard) : Bool :=
  guard.allowPendingTimeInNextMessageRequest &&
    (guard.timeRegulationMode = .timeRegulationEnabled &&
      (guard.timeAdvanceMode = .nextMessageRequest ||
        guard.timeAdvanceMode = .nextMessageRequestAvailable))

/-- What is committed does not exceed a pending time that sends are compared
with. -/
def covered (guard : PendingTimeGuard) : Bool :=
  !guard.sendsFromPending || guard.committed ≤ guard.pending.toLogicalTime

/-- What holds of the view in every reachable state. -/
structure Regular (guard : PendingTimeGuard) : Prop where
  logicalTimeNonneg : 0 ≤ guard.logicalTime.second
  pendingNonneg : 0 ≤ guard.pending.second
  queuedOnce : guard.enabledQueued ≤ 1
  queuedWhilePending :
    0 < guard.enabledQueued →
      guard.timeRegulationMode = .timeRegulationEnablePending ∧
        guard.waiting = false
  enabling :
    guard.timeRegulationMode = .timeRegulationEnablePending →
      guard.timeAdvanceMode = .timeAdvanceGranted

variable {guard : PendingTimeGuard}

/-- Without time regulation, without the option and without a next message
request, sends are not compared with the pending time. -/
theorem covered_of_disabled
    (disabled : guard.timeRegulationMode ≠ .timeRegulationEnabled) :
    guard.covered = true := by
  simp [covered, sendsFromPending, disabled]

theorem covered_of_otherMode
    (notNextMessage : guard.timeAdvanceMode ≠ .nextMessageRequest)
    (notAvailable : guard.timeAdvanceMode ≠ .nextMessageRequestAvailable) :
    guard.covered = true := by
  simp [covered, sendsFromPending, notNextMessage, notAvailable]

theorem covered_of_granted
    (granted : guard.timeAdvanceMode = .timeAdvanceGranted) :
    guard.covered = true :=
  covered_of_otherMode (granted.trans_ne (by simp))
    (granted.trans_ne (by simp))

section

variable (regular : guard.Regular)
include regular

/-- Neither the times nor the committed bound matter for the callback that
enables time regulation. -/
theorem Regular.withTimes
    {logicalTime : LogicalTimePair}
    (logicalTimeNonneg : 0 ≤ logicalTime.second)
    (pendingNonneg : 0 ≤ pending.second)
    (committed : Int) :
    Regular
      { guard with
        logicalTime := logicalTime
        pending := pending
        committed := committed } where
  logicalTimeNonneg := logicalTimeNonneg
  pendingNonneg := pendingNonneg
  queuedOnce := regular.queuedOnce
  queuedWhilePending := regular.queuedWhilePending
  enabling := regular.enabling

/-- Unless time regulation is being enabled, the advance mode can change. -/
theorem Regular.withMode
    (mode : TimeAdvanceMode)
    (settled :
      guard.timeRegulationMode = .timeRegulationEnablePending →
        mode = .timeAdvanceGranted) :
    Regular { guard with timeAdvanceMode := mode } where
  logicalTimeNonneg := regular.logicalTimeNonneg
  pendingNonneg := regular.pendingNonneg
  queuedOnce := regular.queuedOnce
  queuedWhilePending := regular.queuedWhilePending
  enabling := settled

/-- As long as no callback is queued, who is waited for can change, and time
regulation can be requested or disabled. -/
theorem Regular.withRegulation
    (noneQueued : guard.enabledQueued = 0)
    (mode : TimeRegulationMode)
    (granted :
      mode = .timeRegulationEnablePending →
        guard.timeAdvanceMode = .timeAdvanceGranted)
    (waiting : Bool) :
    Regular
      { guard with timeRegulationMode := mode, waiting := waiting } where
  logicalTimeNonneg := regular.logicalTimeNonneg
  pendingNonneg := regular.pendingNonneg
  queuedOnce := regular.queuedOnce
  queuedWhilePending := fun queued => by
    simp [noneQueued] at queued
  enabling := granted

/-- Once all federates have answered the callback is queued. -/
theorem Regular.answered
    (enabling : guard.timeRegulationMode = .timeRegulationEnablePending)
    (answered : guard.waiting = false)
    (noneQueued : guard.enabledQueued = 0)
    (pendingNonneg : 0 ≤ pending.second)
    (committed : Int) :
    Regular
      { guard with
        pending := pending
        committed := committed
        enabledQueued := guard.enabledQueued + 1 } where
  logicalTimeNonneg := regular.logicalTimeNonneg
  pendingNonneg := pendingNonneg
  queuedOnce := by
    simp [noneQueued]
  queuedWhilePending := fun _ => ⟨enabling, answered⟩
  enabling := regular.enabling

/-- Dispatching the callback enables time regulation. -/
theorem Regular.enabled
    (queued : 0 < guard.enabledQueued) :
    Regular
        { guard with
          timeRegulationMode := .timeRegulationEnabled
          logicalTime := guard.pending
          enabledQueued := guard.enabledQueued - 1 } ∧
      guard.timeAdvanceMode = .timeAdvanceGranted := by
  have once := regular.queuedOnce
  obtain ⟨pending, -⟩ := regular.queuedWhilePending queued
  refine ⟨?_, regular.enabling pending⟩
  exact
    { logicalTimeNonneg := regular.pendingNonneg
      pendingNonneg := regular.pendingNonneg
      queuedOnce := by
        dsimp only
        omega
      queuedWhilePending := fun queued => by
        dsimp only at queued
        omega
      enabling := fun pending => by cases pending }

theorem Regular.noneQueued
    (settled :
      guard.timeRegulationMode ≠ .timeRegulationEnablePending ∨
        guard.waiting = true) :
    guard.enabledQueued = 0 := by
  refine Nat.eq_zero_of_not_pos fun queued => ?_
  obtain ⟨pending, answered⟩ := regular.queuedWhilePending queued
  rcases settled with notPending | waiting
  · exact notPending pending
  · simp [answered] at waiting

end

end PendingTimeGuard

namespace TemplateTimeManagement

def pendingTimeGuard (self : TemplateTimeManagement) : PendingTimeGuard where
  allowPendingTimeInNextMessageRequest :=
    self.allowPendingTimeInNextMessageRequest
  timeRegulationMode := self.timeRegulationMode
  timeAdvanceMode := self.timeAdvanceMode
  logicalTime := self.logicalTime
  pending := self.pendingLogicalTime
  committed := self.committedOutboundLowerBoundTimeStamp
  waiting := self.timeRegulationEnableFederateHandleSet ≠ ∅
  enabledQueued := self.queued .timeRegulationEnabled

/-- The view with another committed bound. -/
def pendingTimeGuardAt
    (self : TemplateTimeManagement)
    (committed : Int) : PendingTimeGuard :=
  { self.pendingTimeGuard with committed := committed }

theorem pendingTimeGuardAt_congr
    {self other : TemplateTimeManagement}
    (same : other.pendingTimeGuard = self.pendingTimeGuard)
    (committed : Int) :
    other.pendingTimeGuardAt committed = self.pendingTimeGuardAt committed := by
  rw [pendingTimeGuardAt, same]
  rfl

variable (self : TemplateTimeManagement)

@[simp] theorem pendingTimeGuard_send
    (message : Message) :
    (self.send message).pendingTimeGuard = self.pendingTimeGuard := rfl

theorem pendingTimeGuard_queueMessage
    (logicalTimePair : LogicalTimePair)
    {message : QueuedMessage}
    (different : message ≠ .timeRegulationEnabled) :
    (self.queueMessage logicalTimePair message).pendingTimeGuard =
      self.pendingTimeGuard := by
  have queued := self.queued_queueMessage logicalTimePair message
    .timeRegulationEnabled
  rw [if_neg different, Nat.add_zero] at queued
  exact PendingTimeGuard.ext rfl rfl rfl rfl rfl rfl rfl queued

theorem pendingTimeGuard_of_commits
    {self after : TemplateTimeManagement} {bounds : CommittedBounds}
    (commits : self.Commits after bounds) :
    after.pendingTimeGuard = self.pendingTimeGuardAt bounds.timeAdvance := by
  obtain ⟨commitId, messages, equal, -⟩ := commits
  rw [equal]
  rfl

@[simp] theorem pendingTimeGuard_sendLockedByNextMessageRequestIfChanged
    (previous : Bool) :
    (self.sendLockedByNextMessageRequestIfChanged
      previous).pendingTimeGuard = self.pendingTimeGuard := by
  unfold sendLockedByNextMessageRequestIfChanged
  split <;> rfl

@[simp] theorem pendingTimeGuard_sendCommitLowerBoundTimeStampResponse
    (federateHandle : FederateHandle) (commitId : Unsigned) :
    (self.sendCommitLowerBoundTimeStampResponse federateHandle
      commitId).pendingTimeGuard = self.pendingTimeGuard := by
  unfold sendCommitLowerBoundTimeStampResponse
  split <;> rfl

@[simp] theorem pendingTimeGuard_sendCommitLowerBoundTimeStampResponses :
    self.sendCommitLowerBoundTimeStampResponses.pendingTimeGuard =
      self.pendingTimeGuard := by
  unfold sendCommitLowerBoundTimeStampResponses
  induction self.federateLowerBoundMap.getNextMessageFederateHandleList
    generalizing self with
  | nil => rfl
  | cons entry rest ih =>
      rw [List.foldl_cons, ih,
        pendingTimeGuard_sendCommitLowerBoundTimeStampResponse]

/-- A time that stays within the least bound, or else that bound. -/
theorem min_of_staysWithin
    {least : Option Int} {logicalTime : Int} :
    (match least with
      | none => logicalTime
      | some bound => min logicalTime bound) =
      if FederateHandleLowerBoundTimeStampMap.staysWithin least logicalTime 0
      then logicalTime
      else least.getD logicalTime := by
  cases least with
  | none => rfl
  | some bound =>
      simp only [FederateHandleLowerBoundTimeStampMap.staysWithin,
        lt_irrefl, if_false, decide_eq_true_eq, Option.getD_some]
      rw [min_def]

/-- The commit of a check that grants the request, or of one that is held back
by the least bound. -/
theorem pendingTimeGuard_advanceOrCommit
    (least : Option Int) :
    (self.advanceOrCommit
        (FederateHandleLowerBoundTimeStampMap.staysWithin least
          self.pendingLogicalTime.first 0) least).pendingTimeGuard =
      self.pendingTimeGuardAt
        (if self.getTimeRegulationEnabled then
          max
            (self.lowerBoundAt
              (match least with
                | none => self.pendingLogicalTime.first
                | some bound => min self.pendingLogicalTime.first bound))
            self.committedOutboundLowerBoundTimeStamp
        else self.committedOutboundLowerBoundTimeStamp) := by
  have scheduled : self.scheduleTimeAdvanceGranted.pendingTimeGuard =
      self.pendingTimeGuard :=
    pendingTimeGuard_queueMessage _ _ (by simp)
  rw [min_of_staysWithin]
  unfold advanceOrCommit
  split
  next =>
    dsimp only
    by_cases enabled : self.getTimeRegulationEnabled = true
    · have scheduledEnabled :
          self.scheduleTimeAdvanceGranted.getTimeRegulationEnabled = true :=
        enabled
      rw [if_pos scheduledEnabled, if_pos enabled,
        pendingTimeGuard_of_commits
          (sendCommitLowerBoundTimeStampLookaheadIfChanged_commits _ _ _),
        pendingTimeGuardAt, scheduled]
      rfl
    · have scheduledDisabled :
          ¬ self.scheduleTimeAdvanceGranted.getTimeRegulationEnabled = true :=
        enabled
      rw [if_neg scheduledDisabled, if_neg enabled, scheduled]
      rfl
  next blocked =>
    split
    next =>
      cases bounded : least with
      | none =>
          rw [bounded] at blocked
          exact absurd rfl blocked
      | some bound =>
          exact pendingTimeGuard_of_commits
            (self.sendCommitLowerBoundTimeStampLookaheadIfChanged_commits
              bound .timeAdvanceCommit)
    next => rfl

/-- The check changes the view by what it commits. -/
theorem pendingTimeGuard_checkForPendingTimeAdvance
    (allowNextMessage : Bool) :
    (self.checkForPendingTimeAdvance allowNextMessage).pendingTimeGuard =
      self.pendingTimeGuardAt (self.committedByCheck allowNextMessage) := by
  unfold checkForPendingTimeAdvance committedByCheck
  cases self.timeAdvanceToBeScheduled with
  | false => rfl
  | true =>
      simp only [Bool.not_true, Bool.false_eq_true, if_false, Bool.true_and]
      cases nextMessage : self.getIsAnyNextMessageMode with
      | false => rfl
      | true =>
          simp only [if_true, Bool.true_and, advanceCommittedByCheck]
          split
          next => exact self.pendingTimeGuard_advanceOrCommit _
          next => exact self.pendingTimeGuard_advanceOrCommit _

/-! ## Requests -/

/-- A commit for next message requests leaves what the check commits, where the
check does not look at the next message bounds of the others. -/
theorem committedByCheck_of_commits
    {self after : TemplateTimeManagement} {bounds : CommittedBounds}
    (commits : self.Commits after bounds)
    (sameTimeAdvance :
      bounds.timeAdvance = self.committedOutboundLowerBoundTimeStamp) :
    after.committedByCheck false = self.committedByCheck false := by
  obtain ⟨commitId, messages, equal, -⟩ := commits
  rw [equal]
  unfold committedByCheck
  simp only [withCommit, sameTimeAdvance]
  rfl

/-- Whether the grant is left to be scheduled by the check. -/
def toBeScheduled
    (self : TemplateTimeManagement)
    (scheduled : Bool) : TemplateTimeManagement :=
  { self with timeAdvanceToBeScheduled := scheduled }

/-- The pending time after a next message request, before it is checked; only a
constrained federate leaves the grant to the check. -/
def limitRequest (self : TemplateTimeManagement) : TemplateTimeManagement :=
  if self.getTimeConstrainedEnabled then
    self.limitPendingLogicalTime.toBeScheduled true
  else self.toBeScheduled false

variable (logicalTime : Int)

theorem pendingTimeGuard_nextMessageCommit :
    (self.sendCommitLowerBoundTimeStampLookaheadIfChanged logicalTime
      self.targetLookahead .nextMessageCommit).pendingTimeGuard =
      self.pendingTimeGuard :=
  pendingTimeGuard_of_commits
    (self.sendCommitLowerBoundTimeStampLookaheadIfChanged_commits logicalTime
      .nextMessageCommit)

theorem pendingTimeGuard_requestNextMessage (self : TemplateTimeManagement) :
    self.requestNextMessage.pendingTimeGuard =
      self.limitRequest.pendingTimeGuardAt
        (self.limitRequest.committedByCheck false) := by
  unfold requestNextMessage limitRequest
  split
  next =>
    have marked : ({ self.limitPendingLogicalTime with
        timeAdvanceToBeScheduled := true } : TemplateTimeManagement) =
        self.limitPendingLogicalTime.toBeScheduled true := rfl
    dsimp only
    rw [marked, pendingTimeGuard_checkForPendingTimeAdvance]
    split
    next =>
      have commits := (self.limitPendingLogicalTime.toBeScheduled
        true).sendCommitLowerBoundTimeStampLookaheadIfChanged_commits
          self.limitPendingLogicalTime.pendingLogicalTime.first
          .nextMessageCommit
      refine (pendingTimeGuardAt_congr
        (pendingTimeGuard_of_commits commits) _).trans ?_
      exact congrArg (pendingTimeGuardAt _)
        (committedByCheck_of_commits commits rfl)
    next => rfl
  next =>
    dsimp only
    rw [pendingTimeGuard_queueMessage _ _ (by simp)]
    split
    next => exact self.pendingTimeGuard_nextMessageCommit _
    next => rfl

theorem pendingTimeGuard_setOutboundLowerTimeStampAndCurrentLookahead
    (last : LogicalTimePair) :
    (self.setOutboundLowerTimeStampAndCurrentLookahead logicalTime
      last).pendingTimeGuard = self.pendingTimeGuard := by
  unfold setOutboundLowerTimeStampAndCurrentLookahead
  dsimp only
  split <;> rfl

theorem pendingTimeGuard_prepareTimeAdvance
    (mode : TimeAdvanceMode) :
    (self.prepareTimeAdvance logicalTime mode).pendingTimeGuard =
      { self.pendingTimeGuard with
        timeAdvanceMode := mode
        pending :=
          (self.prepareTimeAdvance logicalTime mode).pendingLogicalTime } := by
  rw [prepareTimeAdvance_pendingLogicalTime]
  unfold prepareTimeAdvance
  dsimp only
  split
  · exact pendingTimeGuard_setOutboundLowerTimeStampAndCurrentLookahead _ _ _
  · rfl

theorem prepareTimeAdvance_regular
    {self : TemplateTimeManagement}
    (regular : self.pendingTimeGuard.Regular)
    (notPending :
      self.timeRegulationMode ≠ .timeRegulationEnablePending)
    (logicalTime : Int) (mode : TimeAdvanceMode) :
    (self.prepareTimeAdvance logicalTime
      mode).pendingTimeGuard.Regular := by
  rw [pendingTimeGuard_prepareTimeAdvance]
  have nonneg : 0 ≤ (self.prepareTimeAdvance logicalTime
      mode).pendingLogicalTime.second := by
    rw [prepareTimeAdvance_pendingLogicalTime]
    refine LogicalTimePair.max_second_nonneg regular.logicalTimeNonneg ?_
    simp only [getPendingTimeSecondField]
    grind
  exact (regular.withTimes regular.logicalTimeNonneg nonneg _).withMode mode
    fun pending => absurd pending notPending

/-- Whatever is committed with a bound, the view changes by that bound only. -/
theorem pendingTimeGuard_sendCommitLowerBoundTimeStampIfChanged
    (commitType : LowerBoundTimeStampCommitType) :
    ∃ committed,
      (self.sendCommitLowerBoundTimeStampIfChanged logicalTime
        commitType).pendingTimeGuard = self.pendingTimeGuardAt committed := by
  unfold sendCommitLowerBoundTimeStampIfChanged
  dsimp only
  split
  · exact ⟨_, rfl⟩
  · split
    · exact ⟨_, rfl⟩
    · exact ⟨_, rfl⟩

theorem pendingTimeGuard_requestTimeAdvance (self : TemplateTimeManagement) :
    ∃ committed,
      self.requestTimeAdvance.pendingTimeGuard =
        self.pendingTimeGuardAt committed := by
  unfold requestTimeAdvance
  dsimp only
  rw [pendingTimeGuard_queueMessage _ _ (by simp)]
  split
  · rw [sendCommitLowerBoundTimeStampPairIfChanged_eq]
    exact self.pendingTimeGuard_sendCommitLowerBoundTimeStampIfChanged _ _
  · exact ⟨_, rfl⟩

theorem pendingTimeGuard_scheduleFlushQueue (self : TemplateTimeManagement) :
    ∃ committed,
      self.scheduleFlushQueue.pendingTimeGuard =
        self.pendingTimeGuardAt committed := by
  have scheduled : ∀ after : TemplateTimeManagement,
      (if after.getTimeConstrainedEnabled then
          { after with timeAdvanceToBeScheduled := true }
        else
          after.queueMessage after.pendingLogicalTime
            .timeAdvanceGranted).pendingTimeGuard =
        after.pendingTimeGuard := by
    intro after
    split
    · rfl
    · exact pendingTimeGuard_queueMessage _ _ (by simp)
  unfold scheduleFlushQueue
  rw [scheduled]
  split
  · exact self.pendingTimeGuard_sendCommitLowerBoundTimeStampIfChanged _ _
  · exact ⟨_, rfl⟩

theorem withPending_regular
    {self : TemplateTimeManagement}
    (regular : self.pendingTimeGuard.Regular)
    (nonneg : 0 ≤ pending.second) :
    (self.withPending pending).pendingTimeGuard.Regular :=
  regular.withTimes regular.logicalTimeNonneg nonneg _

theorem limitPendingLogicalTime_regular
    {self : TemplateTimeManagement}
    (regular : self.pendingTimeGuard.Regular) :
    self.limitPendingLogicalTime.pendingTimeGuard.Regular := by
  obtain ⟨first, -, equal⟩ := self.limitPendingLogicalTime_eq
  rw [equal]
  exact withPending_regular regular regular.pendingNonneg

/-- Bounding the pending time sets it to one that is regular too. -/
theorem boundPendingLogicalTime_withPending
    {self : TemplateTimeManagement}
    (regular : self.pendingTimeGuard.Regular) :
    ∃ pending : LogicalTimePair, 0 ≤ pending.second ∧
      self.boundPendingLogicalTime = self.withPending pending := by
  unfold boundPendingLogicalTime
  split
  · split
    · exact ⟨_, regular.pendingNonneg, rfl⟩
    · refine ⟨_, ?_, rfl⟩
      exact LogicalTimePair.max_second_nonneg regular.logicalTimeNonneg
        regular.pendingNonneg
  · exact ⟨_, regular.pendingNonneg, rfl⟩

theorem pendingTimeGuard_requestFlushQueue
    {self : TemplateTimeManagement}
    (regular : self.pendingTimeGuard.Regular) :
    ∃ (pending : LogicalTimePair) (committed : Int), 0 ≤ pending.second ∧
      self.requestFlushQueue.pendingTimeGuard =
        (self.withPending pending).pendingTimeGuardAt committed := by
  have limited : ∃ first,
      (if self.getTimeConstrainedEnabled then self.limitPendingLogicalTime
        else self) =
        self.withPending ⟨first, self.pendingLogicalTime.second⟩ := by
    split
    · obtain ⟨first, -, equal⟩ := self.limitPendingLogicalTime_eq
      exact ⟨first, equal⟩
    · exact ⟨_, rfl⟩
  obtain ⟨first, limitedEqual⟩ := limited
  have limitedRegular : (self.withPending
      ⟨first, self.pendingLogicalTime.second⟩).pendingTimeGuard.Regular :=
    withPending_regular regular regular.pendingNonneg
  obtain ⟨pending, nonneg, boundedEqual⟩ :=
    boundPendingLogicalTime_withPending limitedRegular
  obtain ⟨committed, equal⟩ := pendingTimeGuard_scheduleFlushQueue
    (self.withPending pending)
  refine ⟨pending, committed, nonneg, ?_⟩
  unfold requestFlushQueue
  dsimp only
  rw [limitedEqual, boundedEqual]
  exact equal

theorem requestNextMessage_regular
    {self : TemplateTimeManagement}
    (regular : self.pendingTimeGuard.Regular) :
    self.requestNextMessage.pendingTimeGuard.Regular := by
  have limited : self.limitRequest.pendingTimeGuard.Regular := by
    unfold limitRequest
    split
    · exact limitPendingLogicalTime_regular regular
    · exact regular
  rw [pendingTimeGuard_requestNextMessage]
  exact limited.withTimes limited.logicalTimeNonneg limited.pendingNonneg _

theorem timeAdvanceRequest_regular
    {self : TemplateTimeManagement}
    (regular : self.pendingTimeGuard.Regular)
    (notPending :
      self.timeRegulationMode ≠ .timeRegulationEnablePending)
    (logicalTime : Int) (mode : TimeAdvanceMode) :
    (self.timeAdvanceRequest logicalTime
      mode).pendingTimeGuard.Regular := by
  have prepared := prepareTimeAdvance_regular regular notPending logicalTime
    mode
  obtain ⟨committed, advanced⟩ := pendingTimeGuard_requestTimeAdvance
    (self.prepareTimeAdvance logicalTime mode)
  have advancedRegular :
      (self.prepareTimeAdvance logicalTime
        mode).requestTimeAdvance.pendingTimeGuard.Regular := by
    rw [advanced]
    exact prepared.withTimes prepared.logicalTimeNonneg
      prepared.pendingNonneg _
  cases mode with
  | timeAdvanceGranted => exact prepared
  | timeAdvanceRequest => exact advancedRegular
  | timeAdvanceRequestAvailable => exact advancedRegular
  | nextMessageRequest => exact requestNextMessage_regular prepared
  | nextMessageRequestAvailable => exact requestNextMessage_regular prepared
  | flushQueueRequest =>
      obtain ⟨pending, committed, nonneg, flushed⟩ :=
        pendingTimeGuard_requestFlushQueue prepared
      exact flushed ▸ prepared.withTimes prepared.logicalTimeNonneg nonneg _

end TemplateTimeManagement
end TimeManagement
end OpenRTI
