import OpenRTI.TimeManagement.DeliveryQueue
import OpenRTI.TimeManagement.SendGuardOperations

/-!
# Operations on the queue of callbacks

What each operation of time management does to the view `DeliveryQueue`, and
that all of them keep its invariant.
-/

namespace OpenRTI
namespace TimeManagement
namespace TemplateTimeManagement

open Foundation
open DeliveryQueue

/-- The view of the queue of callbacks. -/
def deliveryQueue (self : TemplateTimeManagement) : DeliveryQueue where
  messagesAt := KeyedQueue.listAt self.logicalTimeMessageListMap
  grants := self.queued .timeAdvanceGranted
  pending := self.pendingLogicalTime
  current := self.logicalTime
  timeAdvanceMode := self.timeAdvanceMode
  timeRegulationMode := self.timeRegulationMode
  timeConstrainedMode := self.timeConstrainedMode
  galt := self.federateLowerBoundMap.getGALT
  scheduled := self.timeAdvanceToBeScheduled

variable {self : TemplateTimeManagement} {message : QueuedMessage}

theorem not_mem_of_queued_eq_zero
    (noneQueued : self.queued message = 0)
    (pair : LogicalTimePair) :
    message ∉ self.deliveryQueue.messagesAt pair := by
  intro member
  obtain ⟨messages, found, member⟩ :=
    KeyedQueue.mem_entries_of_mem_listAt member
  have weight := OrderedMap.weight_le_sum
    (fun messages : List QueuedMessage => messages.count message) found
  have positive := List.count_pos_iff.mpr member
  unfold queued at noneQueued
  omega

/-! ## Sending and queueing -/

@[simp] theorem deliveryQueue_send
    (self : TemplateTimeManagement) (message : Message) :
    (self.send message).deliveryQueue = self.deliveryQueue := rfl

@[simp] theorem deliveryQueue_withPending
    (self : TemplateTimeManagement) (pending : LogicalTimePair) :
    (self.withPending pending).deliveryQueue =
      { self.deliveryQueue with pending := pending } := rfl

theorem deliveryQueue_queueMessage
    (self : TemplateTimeManagement) (pair : LogicalTimePair)
    (message : QueuedMessage) :
    (self.queueMessage pair message).deliveryQueue =
      self.deliveryQueue.enqueue pair message := by
  have queuedAt :
      KeyedQueue.listAt
          (self.queueMessage pair message).logicalTimeMessageListMap =
        (self.deliveryQueue.enqueue pair message).messagesAt := by
    funext other
    have appended := KeyedQueue.listAt_append
      self.logicalTimeMessageListMap pair other message
    refine appended.trans ?_
    unfold enqueue
    dsimp only
    by_cases same : other = pair
    · rw [if_pos same, if_pos same]
      rfl
    · rw [if_neg same, if_neg same]
      rfl
  exact DeliveryQueue.ext queuedAt
    (self.queued_queueMessage pair message _) rfl rfl rfl rfl rfl rfl rfl

theorem deliveryQueue_scheduleTimeAdvanceGranted
    (self : TemplateTimeManagement) :
    self.scheduleTimeAdvanceGranted.deliveryQueue =
      self.deliveryQueue.scheduleGrant := by
  unfold scheduleTimeAdvanceGranted
  rw [deliveryQueue_queueMessage]
  rfl

@[simp] theorem deliveryQueue_sendCommitLowerBoundTimeStampIfChanged
    (self : TemplateTimeManagement) (logicalTime : Int)
    (commitType : LowerBoundTimeStampCommitType) :
    (self.sendCommitLowerBoundTimeStampIfChanged logicalTime
      commitType).deliveryQueue = self.deliveryQueue := by
  unfold sendCommitLowerBoundTimeStampIfChanged
  dsimp only
  split
  · rfl
  · split <;> rfl

@[simp] theorem deliveryQueue_sendCommitLowerBoundTimeStampPairIfChanged
    (self : TemplateTimeManagement) (logicalTimePair : LogicalTimePair)
    (commitType : LowerBoundTimeStampCommitType) :
    (self.sendCommitLowerBoundTimeStampPairIfChanged logicalTimePair
      commitType).deliveryQueue = self.deliveryQueue := by
  rw [sendCommitLowerBoundTimeStampPairIfChanged_eq,
    deliveryQueue_sendCommitLowerBoundTimeStampIfChanged]

@[simp] theorem deliveryQueue_sendCommitLowerBoundTimeStampLookaheadIfChanged
    (self : TemplateTimeManagement) (logicalTime lookahead : Int)
    (commitType : LowerBoundTimeStampCommitType) :
    (self.sendCommitLowerBoundTimeStampLookaheadIfChanged logicalTime
      lookahead commitType).deliveryQueue = self.deliveryQueue :=
  self.deliveryQueue_sendCommitLowerBoundTimeStampIfChanged _ _

@[simp] theorem deliveryQueue_sendCommitLowerBoundTimeStampResponse
    (self : TemplateTimeManagement) (federateHandle : FederateHandle)
    (commitId : Unsigned) :
    (self.sendCommitLowerBoundTimeStampResponse federateHandle
      commitId).deliveryQueue = self.deliveryQueue := by
  unfold sendCommitLowerBoundTimeStampResponse
  split <;> rfl

@[simp] theorem deliveryQueue_sendCommitLowerBoundTimeStampResponses
    (self : TemplateTimeManagement) :
    self.sendCommitLowerBoundTimeStampResponses.deliveryQueue =
      self.deliveryQueue := by
  unfold sendCommitLowerBoundTimeStampResponses
  induction self.federateLowerBoundMap.getNextMessageFederateHandleList
    generalizing self with
  | nil => rfl
  | cons entry rest ih =>
      rw [List.foldl_cons, ih,
        deliveryQueue_sendCommitLowerBoundTimeStampResponse]

@[simp] theorem deliveryQueue_sendLockedByNextMessageRequestIfChanged
    (self : TemplateTimeManagement) (previous : Bool) :
    (self.sendLockedByNextMessageRequestIfChanged previous).deliveryQueue =
      self.deliveryQueue := by
  unfold sendLockedByNextMessageRequestIfChanged
  split <;> rfl

/-! ## Pending advances -/

theorem advanceOrCommit_checked
    (scheduled : self.timeAdvanceToBeScheduled = true)
    (canAdvance : Bool) (galt : Option Int) :
    Checked self.deliveryQueue
      (self.advanceOrCommit canAdvance galt).deliveryQueue := by
  unfold advanceOrCommit
  dsimp only
  split
  · have granted := @Checked.granted self.deliveryQueue scheduled
    rw [← deliveryQueue_scheduleTimeAdvanceGranted] at granted
    split
    · rwa [deliveryQueue_sendCommitLowerBoundTimeStampLookaheadIfChanged]
    · exact granted
  · split
    · cases galt with
      | none => exact .unchanged
      | some bound =>
          dsimp only
          rw [deliveryQueue_sendCommitLowerBoundTimeStampLookaheadIfChanged]
          exact .unchanged
    · exact .unchanged

theorem checkForPendingTimeAdvance_checked
    (self : TemplateTimeManagement) (allowNextMessage : Bool) :
    Checked self.deliveryQueue
      (self.checkForPendingTimeAdvance allowNextMessage).deliveryQueue := by
  unfold checkForPendingTimeAdvance
  split
  next => exact .unchanged
  next scheduled =>
    rw [Bool.not_eq_true', Bool.not_eq_false] at scheduled
    split
    · split
      · exact advanceOrCommit_checked scheduled _ _
      · exact advanceOrCommit_checked scheduled _ _
    · exact .unchanged

theorem checkForPendingFlushQueue_checked (self : TemplateTimeManagement) :
    Checked self.deliveryQueue
      self.checkForPendingFlushQueue.deliveryQueue := by
  unfold checkForPendingFlushQueue
  split
  next flush =>
    rw [deliveryQueue_scheduleTimeAdvanceGranted]
    rw [Bool.and_eq_true, Bool.and_eq_true] at flush
    exact .granted flush.2
  next => exact .unchanged

/-! ## Requests -/

theorem getPendingTimeSecondField_nonneg (self : TemplateTimeManagement) :
    0 ≤ self.getPendingTimeSecondField := by
  unfold getPendingTimeSecondField
  grind

@[simp] theorem deliveryQueue_setOutboundLowerTimeStampAndCurrentLookahead
    (self : TemplateTimeManagement) (logicalTime : Int)
    (last : LogicalTimePair) :
    (self.setOutboundLowerTimeStampAndCurrentLookahead logicalTime
      last).deliveryQueue = self.deliveryQueue := by
  unfold setOutboundLowerTimeStampAndCurrentLookahead
  dsimp only
  split <;> rfl

/-- The shared part of the requests sets the mode and the pending time. -/
theorem deliveryQueue_prepareTimeAdvance
    (current : 0 ≤ self.logicalTime.second)
    (logicalTime : Int) (mode : TimeAdvanceMode) :
    ∃ pending : LogicalTimePair, 0 ≤ pending.second ∧
      (self.prepareTimeAdvance logicalTime mode).deliveryQueue =
        { self.deliveryQueue with
          timeAdvanceMode := mode
          pending := pending } := by
  have nonneg := getPendingTimeSecondField_nonneg
    { self with timeAdvanceMode := mode }
  refine ⟨max self.logicalTime ⟨logicalTime, _⟩,
    LogicalTimePair.max_second_nonneg current nonneg, ?_⟩
  unfold prepareTimeAdvance
  dsimp only
  split
  · rw [deliveryQueue_setOutboundLowerTimeStampAndCurrentLookahead]
    rfl
  · rfl

theorem deliveryQueue_requestTimeAdvance (self : TemplateTimeManagement) :
    self.requestTimeAdvance.deliveryQueue =
      self.deliveryQueue.enqueue self.deliveryQueue.pending
        .timeAdvanceGranted := by
  have committed :
      (if self.getTimeRegulationEnabled then
        self.sendCommitLowerBoundTimeStampPairIfChanged
          self.outboundLowerBoundTimeStamp .timeAdvanceAndNextMessageCommit
      else self).deliveryQueue = self.deliveryQueue := by
    split
    · exact self.deliveryQueue_sendCommitLowerBoundTimeStampPairIfChanged _ _
    · rfl
  unfold requestTimeAdvance
  dsimp only
  rw [deliveryQueue_queueMessage, committed]
  exact congrArg
    (fun view : DeliveryQueue =>
      self.deliveryQueue.enqueue view.pending .timeAdvanceGranted)
    committed

/-- A next message request leaves its grant to be scheduled and then checks
it; without being constrained the grant is queued. -/
theorem deliveryQueue_requestNextMessage (self : TemplateTimeManagement) :
    (∃ first,
      (first = self.pendingLogicalTime.first ∨
        self.getTimeConstrainedEnabled = true ∧
          self.getLeastIncomingTimestamp = some first) ∧
      Checked
        { self.deliveryQueue with
          pending := ⟨first, self.deliveryQueue.pending.second⟩
          scheduled := true }
        self.requestNextMessage.deliveryQueue) ∨
      self.requestNextMessage.deliveryQueue =
        self.deliveryQueue.enqueue self.deliveryQueue.pending
          .timeAdvanceGranted := by
  unfold requestNextMessage
  split
  next constrained =>
    left
    obtain ⟨first, -, equal⟩ := self.limitPendingLogicalTime_eq
    have least := self.limitPendingLogicalTime_first
    rw [equal] at least
    refine ⟨first, least.imp_right fun found => ⟨constrained, found⟩, ?_⟩
    dsimp only
    rw [equal]
    have committed :
        (if ({ self.withPending ⟨first, self.pendingLogicalTime.second⟩ with
              timeAdvanceToBeScheduled := true } :
              TemplateTimeManagement).getTimeRegulationEnabled then
          sendCommitLowerBoundTimeStampLookaheadIfChanged
            { self.withPending ⟨first, self.pendingLogicalTime.second⟩ with
              timeAdvanceToBeScheduled := true }
            first self.targetLookahead .nextMessageCommit
        else
          { self.withPending ⟨first, self.pendingLogicalTime.second⟩ with
            timeAdvanceToBeScheduled := true }).deliveryQueue =
          { self.deliveryQueue with
            pending := ⟨first, self.deliveryQueue.pending.second⟩
            scheduled := true } := by
      split
      · rw [deliveryQueue_sendCommitLowerBoundTimeStampLookaheadIfChanged]
        rfl
      · rfl
    rw [← committed]
    exact checkForPendingTimeAdvance_checked _ false
  next =>
    right
    have committed :
        (if self.getTimeRegulationEnabled && self.timeAdvanceToBeScheduled then
          self.sendCommitLowerBoundTimeStampLookaheadIfChanged
            self.pendingLogicalTime.first self.targetLookahead
            .nextMessageCommit
        else self).deliveryQueue = self.deliveryQueue := by
      split
      · rw [deliveryQueue_sendCommitLowerBoundTimeStampLookaheadIfChanged]
      · rfl
    dsimp only
    rw [deliveryQueue_queueMessage, committed]
    exact congrArg
      (fun view : DeliveryQueue =>
        self.deliveryQueue.enqueue view.pending .timeAdvanceGranted)
      committed

theorem deliveryQueue_boundPendingLogicalTime
    {self : TemplateTimeManagement}
    (current : 0 ≤ self.logicalTime.second)
    (nonneg : 0 ≤ self.pendingLogicalTime.second) :
    ∃ pending : LogicalTimePair, 0 ≤ pending.second ∧
      self.boundPendingLogicalTime.deliveryQueue =
        { self.deliveryQueue with pending := pending } := by
  unfold boundPendingLogicalTime
  split
  · cases self.federateLowerBoundMap.getGALT with
    | none => exact ⟨_, nonneg, rfl⟩
    | some galt =>
        exact ⟨max self.logicalTime ⟨galt, self.pendingLogicalTime.second⟩,
          LogicalTimePair.max_second_nonneg current nonneg, rfl⟩
  · exact ⟨_, nonneg, rfl⟩

/-- The grant of a flush queue request is left to be scheduled where the
federate is constrained, else queued. -/
theorem deliveryQueue_scheduleFlushQueue (self : TemplateTimeManagement) :
    self.scheduleFlushQueue.deliveryQueue =
        { self.deliveryQueue with scheduled := true } ∨
      self.scheduleFlushQueue.deliveryQueue =
        self.deliveryQueue.enqueue self.deliveryQueue.pending
          .timeAdvanceGranted := by
  have scheduled : ∀ after : TemplateTimeManagement,
      (if after.getTimeConstrainedEnabled then
        { after with timeAdvanceToBeScheduled := true }
      else
        after.queueMessage after.pendingLogicalTime
          .timeAdvanceGranted).deliveryQueue =
          { after.deliveryQueue with scheduled := true } ∨
        (if after.getTimeConstrainedEnabled then
          { after with timeAdvanceToBeScheduled := true }
        else
          after.queueMessage after.pendingLogicalTime
            .timeAdvanceGranted).deliveryQueue =
          after.deliveryQueue.enqueue after.deliveryQueue.pending
            .timeAdvanceGranted := by
    intro after
    split
    · exact .inl rfl
    · exact .inr (after.deliveryQueue_queueMessage _ _)
  have committed : ∀ logicalTime,
      (if self.getTimeRegulationEnabled then
        self.sendCommitLowerBoundTimeStampIfChanged logicalTime
          .timeAdvanceAndNextMessageCommit
      else self).deliveryQueue = self.deliveryQueue := by
    intro logicalTime
    split
    · exact self.deliveryQueue_sendCommitLowerBoundTimeStampIfChanged _ _
    · rfl
  have either := scheduled
    (if self.getTimeRegulationEnabled then
      self.sendCommitLowerBoundTimeStampIfChanged
        (max (self.pendingLogicalTime.first + self.targetLookahead)
          self.committedOutboundLowerBoundTimeStamp)
        .timeAdvanceAndNextMessageCommit
    else self)
  rwa [committed] at either

theorem requestFlushQueue_advances
    {prepared : TemplateTimeManagement} {mode : TimeAdvanceMode}
    {pending : LogicalTimePair}
    (current : 0 ≤ prepared.logicalTime.second)
    (nonneg : 0 ≤ pending.second)
    (equal :
      prepared.deliveryQueue =
        { self.deliveryQueue with
          timeAdvanceMode := mode
          pending := pending }) :
    Advances self.deliveryQueue mode
      prepared.requestFlushQueue.deliveryQueue := by
  have pendingEqual : prepared.pendingLogicalTime = pending :=
    congrArg DeliveryQueue.pending equal
  have limited : ∃ first,
      (if prepared.getTimeConstrainedEnabled then
        prepared.limitPendingLogicalTime
      else prepared) = prepared.withPending ⟨first, pending.second⟩ := by
    rw [← pendingEqual]
    split
    · obtain ⟨first, -, limited⟩ := prepared.limitPendingLogicalTime_eq
      exact ⟨first, limited⟩
    · exact ⟨_, rfl⟩
  obtain ⟨first, limited⟩ := limited
  obtain ⟨bound, boundNonneg, bounded⟩ :=
    @deliveryQueue_boundPendingLogicalTime
      (prepared.withPending ⟨first, pending.second⟩) current nonneg
  rw [deliveryQueue_withPending, equal] at bounded
  unfold requestFlushQueue
  dsimp only
  rw [limited]
  rcases deliveryQueue_scheduleFlushQueue
    (prepared.withPending ⟨first, pending.second⟩).boundPendingLogicalTime
    with scheduled | granted
  · rw [scheduled, bounded]
    exact .scheduled bound boundNonneg
  · rw [granted, bounded]
    exact .queued bound boundNonneg

theorem timeAdvanceRequest_advances
    (regular : self.deliveryQueue.Regular)
    (granted : self.timeAdvanceMode = .timeAdvanceGranted)
    (logicalTime : Int) (mode : Ambassador.RequestMode) :
    Advances self.deliveryQueue mode.toTimeAdvanceMode
      (self.timeAdvanceRequest logicalTime
        mode.toTimeAdvanceMode).deliveryQueue := by
  obtain ⟨-, notScheduled⟩ := regular.settled granted
  obtain ⟨pending, nonneg, prepared⟩ :=
    self.deliveryQueue_prepareTimeAdvance regular.currentNonneg logicalTime
      mode.toTimeAdvanceMode
  have advance :
      Advances self.deliveryQueue mode.toTimeAdvanceMode
        (self.prepareTimeAdvance logicalTime
          mode.toTimeAdvanceMode).requestTimeAdvance.deliveryQueue := by
    rw [deliveryQueue_requestTimeAdvance, prepared]
    exact .queued pending nonneg
  have nextMessage :
      Advances self.deliveryQueue mode.toTimeAdvanceMode
        (self.prepareTimeAdvance logicalTime
          mode.toTimeAdvanceMode).requestNextMessage.deliveryQueue := by
    rcases deliveryQueue_requestNextMessage
      (self.prepareTimeAdvance logicalTime mode.toTimeAdvanceMode)
      with ⟨first, -, checked⟩ | queued
    · rw [prepared] at checked
      exact @Advances.checked _ _ _ _ ⟨first, pending.second⟩ nonneg
        notScheduled rfl checked
    · rw [queued, prepared]
      exact .queued pending nonneg
  unfold timeAdvanceRequest
  cases mode with
  | timeAdvanceRequest => exact advance
  | timeAdvanceRequestAvailable => exact advance
  | nextMessageRequest => exact nextMessage
  | nextMessageRequestAvailable => exact nextMessage
  | flushQueueRequest =>
      refine requestFlushQueue_advances ?_ nonneg prepared
      rw [prepareTimeAdvance_logicalTime]
      exact regular.currentNonneg

/-! ## Messages -/

/-- After a message is queued the pending time is only lowered, to its time
stamp. -/
theorem reconsiderPendingTime_checked
    (self : TemplateTimeManagement) (logicalTimePair : LogicalTimePair) :
    ∃ first, first ≤ self.pendingLogicalTime.first ∧
      (first = self.pendingLogicalTime.first ∨
        first = logicalTimePair.first) ∧
      Checked
        { self.deliveryQueue with
          pending := ⟨first, self.deliveryQueue.pending.second⟩ }
        (self.reconsiderPendingTime logicalTimePair).deliveryQueue := by
  unfold reconsiderPendingTime
  split
  next =>
    split
    next below =>
      dsimp only
      have limited : ∃ first, first ≤ self.pendingLogicalTime.first ∧
          (first = self.pendingLogicalTime.first ∨
            first = logicalTimePair.first) ∧
          (if self.logicalTime.first ≤ logicalTimePair.first then
            { self with
              pendingLogicalTime :=
                ⟨logicalTimePair.first, self.pendingLogicalTime.second⟩ }
          else self) =
            self.withPending ⟨first, self.pendingLogicalTime.second⟩ := by
        split
        · exact ⟨_, below.le, .inr rfl, rfl⟩
        · exact ⟨_, le_refl _, .inl rfl, rfl⟩
      obtain ⟨first, lower, either, equal⟩ := limited
      refine ⟨first, lower, either, ?_⟩
      rw [equal]
      have committed :
          (if (self.withPending
                ⟨first, self.pendingLogicalTime.second⟩).timeAdvanceToBeScheduled &&
              (self.withPending
                ⟨first, self.pendingLogicalTime.second⟩).getTimeRegulationEnabled
            then
              (self.withPending
                ⟨first, self.pendingLogicalTime.second⟩)
                |>.sendCommitLowerBoundTimeStampLookaheadIfChanged
                  (self.withPending
                    ⟨first,
                      self.pendingLogicalTime.second⟩).pendingLogicalTime.first
                  (self.withPending
                    ⟨first, self.pendingLogicalTime.second⟩).targetLookahead
                  .nextMessageCommit
            else
              self.withPending
                ⟨first, self.pendingLogicalTime.second⟩).deliveryQueue =
            { self.deliveryQueue with
              pending := ⟨first, self.deliveryQueue.pending.second⟩ } := by
        split
        · rw [deliveryQueue_sendCommitLowerBoundTimeStampLookaheadIfChanged]
          rfl
        · rfl
      rw [← committed]
      exact checkForPendingTimeAdvance_checked _ true
    next => exact ⟨_, le_refl _, .inl rfl, .unchanged⟩
  next => exact ⟨_, le_refl _, .inl rfl, .unchanged⟩

/-- A message is dropped, or queued at its time stamp. -/
theorem queueTimeStampedMessage_cases
    (self : TemplateTimeManagement) (message : TimeStampedMessage) :
    self.queueTimeStampedMessage message = self ∨
      ∃ first, first ≤ self.pendingLogicalTime.first ∧
        (first = self.pendingLogicalTime.first ∨ first = message.timeStamp) ∧
        Checked
          { self.deliveryQueue.enqueue ⟨message.timeStamp, -1⟩
              (.timeStamped message) with
            pending := ⟨first, self.deliveryQueue.pending.second⟩ }
          (self.queueTimeStampedMessage message).deliveryQueue := by
  unfold queueTimeStampedMessage
  split
  · exact .inl rfl
  · right
    obtain ⟨first, lower, either, checked⟩ := reconsiderPendingTime_checked
      (self.queueMessage ⟨message.timeStamp, -1⟩ (.timeStamped message))
      ⟨message.timeStamp, -1⟩
    rw [deliveryQueue_queueMessage] at checked
    exact ⟨first, lower, either, checked⟩

theorem queueTimeStampedMessage_regularQueue
    (regular : self.deliveryQueue.Regular) (message : TimeStampedMessage) :
    (self.queueTimeStampedMessage message).deliveryQueue.Regular := by
  rcases self.queueTimeStampedMessage_cases message
    with dropped | ⟨first, lower, -, checked⟩
  · rw [dropped]
    exact regular
  · have queued : (self.deliveryQueue.enqueue ⟨message.timeStamp, -1⟩
        (.timeStamped message)).Regular := by
      apply regular.enqueue
      · intro same
        cases same
      · intro other same
        cases same
        rfl
    have ordered :
        (⟨first, self.pendingLogicalTime.second⟩ : LogicalTimePair) ≤
          self.pendingLogicalTime := by
      rw [LogicalTimePair.le_iff]
      rcases lower.lt_or_eq with below | same
      · exact .inl below
      · exact .inr ⟨same, le_refl _⟩
    have lowered := @Regular.lower _ queued
      ⟨first, self.pendingLogicalTime.second⟩ regular.pendingNonneg ordered
    exact lowered.checked checked

/-- The answers of the other federates only change the pending time. -/
theorem correctTimeRegulations_deliveryQueue
    (nonneg : 0 ≤ self.pendingLogicalTime.second)
    (answers : List (FederateHandle × Int)) :
    ∃ pending : LogicalTimePair, 0 ≤ pending.second ∧
      (answers.foldl (fun self entry => self.correctTimeRegulation entry.2)
        self).deliveryQueue = { self.deliveryQueue with pending := pending } := by
  induction answers generalizing self with
  | nil => exact ⟨_, nonneg, rfl⟩
  | cons answer rest ih =>
      rw [List.foldl_cons]
      unfold correctTimeRegulation
      split
      · exact ih nonneg
      · exact @ih
          { self with
            outboundLowerBoundTimeStamp := ⟨answer.2, 0⟩
            pendingLogicalTime :=
              max self.pendingLogicalTime
                ⟨answer.2 - self.currentLookahead, 0⟩ }
          (LogicalTimePair.max_second_nonneg nonneg (le_refl 0))

/-- While no advance is pending no grant is queued. -/
theorem noGrant_of_granted
    (regular : self.deliveryQueue.Regular)
    (granted : self.timeAdvanceMode = .timeAdvanceGranted)
    (pair : LogicalTimePair) :
    QueuedMessage.timeAdvanceGranted ∉ self.deliveryQueue.messagesAt pair :=
  not_mem_of_queued_eq_zero (regular.settled granted).1 pair

theorem checkTimeRegulationEnabled_regularQueue
    (regular : self.deliveryQueue.Regular) :
    self.checkTimeRegulationEnabled.deliveryQueue.Regular := by
  unfold checkTimeRegulationEnabled
  split
  next => exact regular
  next enabling =>
    split
    next => exact regular
    next =>
      have isEnabling :
          self.timeRegulationMode = .timeRegulationEnablePending := by
        simpa [getTimeRegulationEnablePending] using enabling
      have noGrant := noGrant_of_granted regular (regular.enabling isEnabling)
      obtain ⟨pending, nonneg, corrected⟩ :=
        correctTimeRegulations_deliveryQueue regular.pendingNonneg
          self.timeRegulationEnableFederateHandleTimeStampMap.entries
      dsimp only
      rw [deliveryQueue_queueMessage]
      apply Regular.enqueue
      · have moved := regular.withPending noGrant nonneg
        rw [← corrected] at moved
        exact moved
      · intro same
        cases same
      · intro stamped same
        cases same

/-- The bounds of another federate changed. -/
theorem checkChangedBounds_regularQueue
    (regular : self.deliveryQueue.Regular)
    (bounds : FederateHandleLowerBoundTimeStampMap Int) (previous : Bool) :
    ({ self with federateLowerBoundMap := bounds }
        |>.sendLockedByNextMessageRequestIfChanged previous
        |>.checkForPendingTimeAdvance true).deliveryQueue.Regular := by
  apply Regular.checked _ (checkForPendingTimeAdvance_checked _ true)
  rw [deliveryQueue_sendLockedByNextMessageRequestIfChanged]
  exact regular.withGALT _

theorem acceptJoinFederateNotify_regularQueue
    (regular : self.deliveryQueue.Regular)
    (federateHandle : FederateHandle) :
    (self.acceptJoinFederateNotify
      federateHandle).deliveryQueue.Regular := by
  unfold acceptJoinFederateNotify
  dsimp only
  split
  · exact regular
  · exact regular

theorem removeFederateFromTimeManagement_regularQueue
    (regular : self.deliveryQueue.Regular)
    (federateHandle : FederateHandle) :
    (self.removeFederateFromTimeManagement
      federateHandle).deliveryQueue.Regular := by
  have erased := regular.withGALT
    (self.federateLowerBoundMap.erase federateHandle).1.getGALT
  unfold removeFederateFromTimeManagement
  dsimp only
  apply Regular.checked _ (checkForPendingTimeAdvance_checked _ true)
  rw [deliveryQueue_sendLockedByNextMessageRequestIfChanged]
  split
  · exact checkTimeRegulationEnabled_regularQueue erased
  · exact erased

theorem acceptEnableTimeRegulationRequest_regularQueue
    (regular : self.deliveryQueue.Regular) (federateHandle : FederateHandle)
    (timeStamp : Int) (commitId : Unsigned) :
    (self.acceptEnableTimeRegulationRequest federateHandle timeStamp
      commitId).deliveryQueue.Regular := by
  unfold acceptEnableTimeRegulationRequest
  split
  · split
    · exact regular
    · exact checkTimeRegulationEnabled_regularQueue regular
  · dsimp only
    rw [deliveryQueue_sendLockedByNextMessageRequestIfChanged]
    split
    · exact regular.withGALT _
    · exact regular.withGALT _

theorem acceptEnableTimeRegulationResponse_regularQueue
    (regular : self.deliveryQueue.Regular)
    (respondingFederateHandle : FederateHandle) (timeStamp : Int)
    (timeStampValid : Bool) :
    (self.acceptEnableTimeRegulationResponse respondingFederateHandle timeStamp
      timeStampValid).deliveryQueue.Regular := by
  unfold acceptEnableTimeRegulationResponse
  split
  · exact regular
  · apply checkTimeRegulationEnabled_regularQueue
    rw [deliveryQueue_sendLockedByNextMessageRequestIfChanged]
    exact regular

variable {after : TemplateTimeManagement}

theorem acceptCommitLowerBoundTimeStamp_regularQueue
    (regular : self.deliveryQueue.Regular)
    {federateHandle : FederateHandle} {timeStamp : Int}
    {commitType : LowerBoundTimeStampCommitType} {commitId : Unsigned}
    (accepted :
      self.acceptCommitLowerBoundTimeStamp federateHandle timeStamp commitType
        commitId = some after) :
    after.deliveryQueue.Regular := by
  obtain ⟨result, -, rfl⟩ := Option.map_eq_some_iff.mp accepted
  dsimp only
  apply Regular.checked _ (checkForPendingTimeAdvance_checked _ true)
  rw [deliveryQueue_sendLockedByNextMessageRequestIfChanged]
  split
  · rw [deliveryQueue_sendCommitLowerBoundTimeStampResponse]
    exact regular.withGALT _
  · exact regular.withGALT _

theorem acceptInternalMessage_regularQueue
    (regular : self.deliveryQueue.Regular)
    {message : Message}
    (accepted : self.acceptInternalMessage message = some after) :
    after.deliveryQueue.Regular := by
  cases message with
  | joinFederationExecutionResponse federateHandle =>
      cases accepted
      exact regular
  | joinFederateNotify federateHandle =>
      cases accepted
      exact acceptJoinFederateNotify_regularQueue regular _
  | resignFederateNotify federateHandle =>
      cases accepted
      exact removeFederateFromTimeManagement_regularQueue regular _
  | enableTimeRegulationRequest federateHandle timeStamp commitId =>
      cases accepted
      exact acceptEnableTimeRegulationRequest_regularQueue regular _ _ _
  | enableTimeRegulationResponse _ responding timeStamp valid =>
      cases accepted
      exact acceptEnableTimeRegulationResponse_regularQueue regular _ _ _
  | disableTimeRegulationRequest federateHandle =>
      cases accepted
      exact checkChangedBounds_regularQueue regular _ _
  | enableTimeConstrainedNotify _ =>
      cases accepted
      exact regular
  | disableTimeConstrainedNotify _ =>
      cases accepted
      exact regular
  | commitLowerBoundTimeStamp federateHandle timeStamp commitType commitId =>
      exact acceptCommitLowerBoundTimeStamp_regularQueue regular accepted
  | commitLowerBoundTimeStampResponse _ sending commitId =>
      cases accepted
      exact checkChangedBounds_regularQueue regular _ _
  | lockedByNextMessageRequest sending locked =>
      cases accepted
      exact checkChangedBounds_regularQueue regular _ _
  | timeStamped message =>
      cases accepted
      exact queueTimeStampedMessage_regularQueue regular message
  | receiveOrder message =>
      cases accepted
      exact regular

/-! ## Callbacks -/

theorem deliveryQueue_dropEmptyLists (self : TemplateTimeManagement) :
    ({ self with
        logicalTimeMessageListMap :=
          self.logicalTimeMessageListMap.dropWhile fun messages =>
            messages.isEmpty } : TemplateTimeManagement).deliveryQueue =
      self.deliveryQueue := by
  have queuedAt :
      KeyedQueue.listAt
          (self.logicalTimeMessageListMap.dropWhile fun messages =>
            messages.isEmpty) =
        KeyedQueue.listAt self.logicalTimeMessageListMap := by
    funext pair
    exact KeyedQueue.listAt_dropWhile_isEmpty _ pair
  have counted := self.logicalTimeMessageListMap.sum_dropWhile
    (fun messages => messages.count .timeAdvanceGranted)
    (fun messages => messages.isEmpty)
    (by simp +contextual)
  exact DeliveryQueue.ext queuedAt counted rfl rfl rfl rfl rfl rfl rfl

/-- Cleaning the queue checks a pending flush queue request twice. -/
theorem cleanOldestMessageLists_checked (self : TemplateTimeManagement) :
    ∃ view, Checked self.deliveryQueue view ∧
      Checked view self.cleanOldestMessageLists.deliveryQueue := by
  refine ⟨_, self.checkForPendingFlushQueue_checked, ?_⟩
  rw [← deliveryQueue_dropEmptyLists]
  exact checkForPendingFlushQueue_checked _

theorem cleanOldestMessageLists_regularQueue
    (regular : self.deliveryQueue.Regular) :
    self.cleanOldestMessageLists.deliveryQueue.Regular := by
  obtain ⟨view, first, second⟩ := self.cleanOldestMessageLists_checked
  exact (regular.checked first).checked second

/-- The message that is taken off the queue is the first one of the least time
pair, which permits it. -/
theorem popTimeStampOrderMessage_some
    {popped : TemplateTimeManagement}
    (taken : self.popTimeStampOrderMessage = (popped, some message)) :
    ∃ pair rest,
      self.logicalTimeMessageListMap.begin? = some (pair, message :: rest) ∧
        self.timeStampOrderMessagesPermitted pair = true ∧
        popped =
          { self with
            logicalTimeMessageListMap :=
              self.logicalTimeMessageListMap.alter pair fun _ =>
                if rest.isEmpty then none else some rest } := by
  unfold popTimeStampOrderMessage at taken
  split at taken
  next pair first rest least =>
    split at taken
    next permitted =>
      cases taken
      exact ⟨pair, rest, least, permitted, rfl⟩
    next => cases taken
  next => cases taken

/-- The queue after its first message is taken. -/
theorem deliveryQueue_taken
    {pair : LogicalTimePair} {rest : List QueuedMessage}
    (least :
      self.logicalTimeMessageListMap.begin? = some (pair, message :: rest)) :
    ∃ grants,
      self.queued .timeAdvanceGranted =
          grants + (if message = .timeAdvanceGranted then 1 else 0) ∧
        ({ self with
            logicalTimeMessageListMap :=
              self.logicalTimeMessageListMap.alter pair fun _ =>
                if rest.isEmpty then none else some rest } :
            TemplateTimeManagement).deliveryQueue =
          { self.deliveryQueue with
            messagesAt := fun other =>
              if other = pair then rest else self.deliveryQueue.messagesAt other
            grants := grants } := by
  have queuedAt :
      KeyedQueue.listAt
          (self.logicalTimeMessageListMap.alter pair fun _ =>
            if rest.isEmpty then none else some rest) =
        fun other =>
          if other = pair then rest
          else self.deliveryQueue.messagesAt other := by
    funext other
    refine (KeyedQueue.listAt_tail _ pair other rest).trans ?_
    by_cases same : other = pair
    · rw [if_pos same, if_pos same]
    · rw [if_neg same, if_neg same]
      rfl
  have found := OrderedMap.find?_begin? least
  have summed := self.logicalTimeMessageListMap.sum_alter
    (fun messages => messages.count .timeAdvanceGranted) pair
    fun _ => if rest.isEmpty then none else some rest
  have remaining : OrderedMap.weightOf
      (fun messages => messages.count QueuedMessage.timeAdvanceGranted)
      (if rest.isEmpty then none else some rest) =
      rest.count .timeAdvanceGranted := by
    cases rest <;> rfl
  rw [found, remaining, OrderedMap.weightOf_some, List.count_cons] at summed
  simp only [beq_iff_eq] at summed
  have counted : self.queued .timeAdvanceGranted =
      (self.logicalTimeMessageListMap.alter pair
        fun _ => if rest.isEmpty then none else some rest).sum
        (fun messages => messages.count .timeAdvanceGranted) +
        if message = .timeAdvanceGranted then 1 else 0 := by
    rw [queued]
    omega
  exact ⟨_, counted,
    DeliveryQueue.ext queuedAt rfl rfl rfl rfl rfl rfl rfl rfl⟩

theorem deliveryQueue_acceptTimeAdvanceGranted
    (self : TemplateTimeManagement) :
    self.acceptTimeAdvanceGranted.deliveryQueue =
      { self.deliveryQueue with
        current := self.deliveryQueue.pending
        timeAdvanceMode := .timeAdvanceGranted } := by
  unfold acceptTimeAdvanceGranted
  dsimp only
  split
  · have corrected :=
      self.deliveryQueue_setOutboundLowerTimeStampAndCurrentLookahead
        self.pendingLogicalTime.first self.lastOutboundLowerBoundTimeStamp
    exact congrArg
      (fun view : DeliveryQueue =>
        { view with
          current := view.pending
          timeAdvanceMode := .timeAdvanceGranted })
      corrected
  · rfl

/-- The granted time is the pending one. -/
theorem queryLogicalTime_acceptTimeAdvanceGranted
    (self : TemplateTimeManagement) :
    self.acceptTimeAdvanceGranted.queryLogicalTime =
      self.pendingLogicalTime.first :=
  congrArg (fun view => view.current.first)
    self.deliveryQueue_acceptTimeAdvanceGranted

/-- A message that is taken off the queue takes effect. -/
theorem acceptCallbackMessage_regularQueue
    {popped : TemplateTimeManagement}
    (regular : self.deliveryQueue.Regular)
    (taken : self.popTimeStampOrderMessage = (popped, some message)) :
    (popped.acceptCallbackMessage message).deliveryQueue.Regular := by
  obtain ⟨pair, rest, least, -, equal⟩ := popTimeStampOrderMessage_some taken
  obtain ⟨grants, counted, view⟩ := deliveryQueue_taken least
  rw [← equal] at view
  have removed : ∀ other queued,
      queued ∈ (if other = pair then rest
        else self.deliveryQueue.messagesAt other) →
        queued ∈ self.deliveryQueue.messagesAt other := by
    intro other queued member
    split at member
    next same =>
      rw [same]
      have first := KeyedQueue.listAt_begin? least
      change queued ∈ KeyedQueue.listAt self.logicalTimeMessageListMap pair
      rw [first]
      exact List.mem_cons_of_mem _ member
    next => exact member
  have kept : message ≠ .timeAdvanceGranted →
      DeliveryQueue.Regular
        { self.deliveryQueue with
          messagesAt := fun other =>
            if other = pair then rest else self.deliveryQueue.messagesAt other
          grants := grants } := by
    intro other
    rw [if_neg other, Nat.add_zero] at counted
    rw [← counted]
    exact regular.removed removed
  cases message with
  | timeStamped stamped =>
      change popped.deliveryQueue.Regular
      rw [view]
      exact kept QueuedMessage.noConfusion
  | receiveOrder received =>
      change popped.deliveryQueue.Regular
      rw [view]
      exact kept QueuedMessage.noConfusion
  | timeConstrainedEnabled =>
      have enabled := (kept QueuedMessage.noConfusion).withCurrent
        |>.withConstrained .timeConstrainedEnabled
      rw [← view] at enabled
      exact enabled
  | timeRegulationEnabled =>
      have enabled := (kept QueuedMessage.noConfusion).withCurrent
        |>.withRegulation .timeRegulationEnabled
          TimeRegulationMode.noConfusion
      rw [← view] at enabled
      exact enabled
  | timeAdvanceGranted =>
      rw [if_pos rfl] at counted
      change popped.acceptTimeAdvanceGranted.deliveryQueue.Regular
      rw [deliveryQueue_acceptTimeAdvanceGranted, view]
      refine @Regular.granted self.deliveryQueue _ grants ?_ removed
      rw [← counted]
      exact regular

theorem dispatchCallback_regularQueue
    (regular : self.deliveryQueue.Regular) :
    self.dispatchCallback.1.deliveryQueue.Regular := by
  have cleaned := cleanOldestMessageLists_regularQueue regular
  rcases self.dispatchCallback_cases with
    ⟨message, rest, -, -, delivered⟩ | none | ⟨popped, message, taken, accepted⟩
  · rw [delivered]
    exact regular
  · rw [none]
    exact cleaned
  · rw [accepted]
    exact acceptCallbackMessage_regularQueue cleaned taken

theorem callbackMessageAvailable_regularQueue
    (regular : self.deliveryQueue.Regular) :
    self.callbackMessageAvailable.1.deliveryQueue.Regular := by
  have cleaned := cleanOldestMessageLists_regularQueue regular
  unfold callbackMessageAvailable
  split
  · exact regular
  · dsimp only
    split
    · exact cleaned
    · exact cleaned

theorem deliveryQueue_eraseMessagesForObjectInstance
    (self : TemplateTimeManagement)
    (objectInstanceHandle : ObjectInstanceHandle) :
    (self.eraseMessagesForObjectInstance objectInstanceHandle).deliveryQueue =
      { self.deliveryQueue with
        messagesAt := fun pair =>
          (self.deliveryQueue.messagesAt pair).filter fun message =>
            message.getObjectInstanceHandleForMessage ≠
              some objectInstanceHandle } := by
  have queuedAt :
      KeyedQueue.listAt
          (self.logicalTimeMessageListMap.mapValues fun messages =>
            messages.filter fun message =>
              message.getObjectInstanceHandleForMessage ≠
                some objectInstanceHandle) =
        fun pair =>
          (self.deliveryQueue.messagesAt pair).filter fun message =>
            message.getObjectInstanceHandleForMessage ≠
              some objectInstanceHandle := by
    funext pair
    exact KeyedQueue.listAt_filter _ _ pair
  have counted :
      (self.eraseMessagesForObjectInstance objectInstanceHandle).queued
          .timeAdvanceGranted =
        self.queued .timeAdvanceGranted := by
    unfold queued eraseMessagesForObjectInstance
    rw [OrderedMap.sum_mapValues]
    simp [List.count_filter,
      QueuedMessage.getObjectInstanceHandleForMessage]
  exact DeliveryQueue.ext queuedAt counted rfl rfl rfl rfl rfl rfl rfl

theorem deliveryQueue_setNotificationHandle
    (self : TemplateTimeManagement)
    (notificationHandle : Option NotificationHandle) :
    (self.setNotificationHandle notificationHandle).deliveryQueue =
      self.deliveryQueue := by
  unfold setNotificationHandle
  dsimp only
  split <;> rfl

/-! ## Calls -/

theorem enableTimeRegulationAt_regularQueue
    (regular : self.deliveryQueue.Regular)
    (granted : self.timeAdvanceMode = .timeAdvanceGranted)
    (logicalTime lookahead : Int) :
    (self.enableTimeRegulationAt logicalTime
      lookahead).deliveryQueue.Regular := by
  have pending := regular.withPending (noGrant_of_granted regular granted)
    (LogicalTimePair.max_second_nonneg regular.currentNonneg
      (le_refl (⟨logicalTime, 0⟩ : LogicalTimePair).second))
  have enabling := pending.withRegulation .timeRegulationEnablePending
    fun _ => granted
  unfold enableTimeRegulationAt
  dsimp only
  rw [deliveryQueue_sendCommitLowerBoundTimeStampResponses,
    deliveryQueue_send]
  exact enabling

theorem enableTimeConstrained_regularQueue
    (regular : self.deliveryQueue.Regular)
    (granted : self.timeAdvanceMode = .timeAdvanceGranted) :
    self.enableTimeConstrained.deliveryQueue.Regular := by
  have pending := @Regular.withPending _ regular
    (noGrant_of_granted regular granted) ⟨self.logicalTime.first, 0⟩
    (le_refl 0)
  unfold enableTimeConstrained
  dsimp only
  rw [deliveryQueue_send, deliveryQueue_queueMessage]
  apply Regular.enqueue
  · exact pending.withConstrained .timeConstrainedEnablePending
  · intro same
    cases same
  · intro stamped same
    cases same

theorem timeAdvanceRequest_regularQueue
    (regular : self.deliveryQueue.Regular)
    (granted : self.timeAdvanceMode = .timeAdvanceGranted)
    (notEnabling : self.timeRegulationMode ≠ .timeRegulationEnablePending)
    (logicalTime : Int) (mode : Ambassador.RequestMode) :
    (self.timeAdvanceRequest logicalTime
      mode.toTimeAdvanceMode).deliveryQueue.Regular := by
  refine regular.advances granted notEnabling
    (noGrant_of_granted regular granted) ?_
    (timeAdvanceRequest_advances regular granted logicalTime mode)
  cases mode <;> exact TimeAdvanceMode.noConfusion

@[simp] theorem deliveryQueue_modifyLookahead
    (self : TemplateTimeManagement) (lookahead : Int) :
    (self.modifyLookahead lookahead).deliveryQueue = self.deliveryQueue := by
  unfold modifyLookahead
  dsimp only
  rw [deliveryQueue_sendCommitLowerBoundTimeStampPairIfChanged,
    deliveryQueue_setOutboundLowerTimeStampAndCurrentLookahead]
  rfl

/-- Sending queues a message that is delivered to the federate itself. -/
theorem sendWithTimeStamp_regularQueue
    (regular : self.deliveryQueue.Regular) (timeStamp : Int)
    (orderType : OrderType)
    (objectInstanceHandle : Option ObjectInstanceHandle)
    (deliverToSelf : Bool) :
    (Ambassador.sendWithTimeStamp self timeStamp orderType
      objectInstanceHandle deliverToSelf).deliveryQueue.Regular := by
  unfold Ambassador.sendWithTimeStamp
  split
  · dsimp only
    rw [deliveryQueue_send]
    split
    · exact queueTimeStampedMessage_regularQueue regular _
    · exact regular
  · dsimp only
    rw [deliveryQueue_send]
    split
    · exact regular
    · exact regular

theorem call_regularQueue
    (regular : self.deliveryQueue.Regular)
    {service : Ambassador.Call}
    (called : Ambassador.call self service = .ok after) :
    after.deliveryQueue.Regular := by
  cases service with
  | enableTimeRegulation lookahead =>
      obtain ⟨-, granted, -, equal⟩ := Ambassador.enableTimeRegulation_ok called
      rw [equal]
      exact enableTimeRegulationAt_regularQueue regular granted _ _
  | enableTimeRegulationAt logicalTime lookahead =>
      obtain ⟨-, granted, -, -, equal⟩ :=
        Ambassador.enableTimeRegulationAt_ok called
      rw [equal]
      exact enableTimeRegulationAt_regularQueue regular granted _ _
  | disableTimeRegulation =>
      obtain ⟨-, equal⟩ := Ambassador.disableTimeRegulation_ok called
      rw [equal]
      exact regular.withRegulation .timeRegulationDisabled
        TimeRegulationMode.noConfusion
  | enableTimeConstrained =>
      obtain ⟨-, granted, equal⟩ := Ambassador.enableTimeConstrained_ok called
      rw [equal]
      exact enableTimeConstrained_regularQueue regular granted
  | disableTimeConstrained =>
      obtain ⟨-, equal⟩ := Ambassador.disableTimeConstrained_ok called
      rw [equal]
      exact regular.withConstrained .timeConstrainedDisabled
  | timeAdvanceRequest logicalTime mode =>
      obtain ⟨-, granted, notEnabling, -, equal⟩ :=
        Ambassador.timeAdvanceRequest_ok called
      rw [equal]
      exact timeAdvanceRequest_regularQueue regular granted notEnabling _ mode
  | modifyLookahead lookahead =>
      obtain ⟨-, -, -, -, equal⟩ := Ambassador.modifyLookahead_ok called
      rw [equal, deliveryQueue_modifyLookahead]
      exact regular
  | enableAsynchronousDelivery =>
      obtain ⟨-, equal⟩ := Ambassador.enableAsynchronousDelivery_ok called
      rw [equal]
      exact regular
  | disableAsynchronousDelivery =>
      obtain ⟨-, equal⟩ := Ambassador.disableAsynchronousDelivery_ok called
      rw [equal]
      exact regular
  | allowPendingTimeInNextMessageRequest =>
      obtain ⟨-, equal⟩ :=
        Ambassador.allowPendingTimeInNextMessageRequest_ok called
      rw [equal]
      exact regular
  | disallowPendingTimeInNextMessageRequest =>
      obtain ⟨-, equal⟩ :=
        Ambassador.disallowPendingTimeInNextMessageRequest_ok called
      rw [equal]
      exact regular
  | sendTimeStampedMessage timeStamp orderType objectInstanceHandle
      deliverToSelf =>
      obtain ⟨-, equal⟩ := Ambassador.sendTimeStampedMessage_ok called
      rw [equal]
      exact sendWithTimeStamp_regularQueue regular _ _ _ _
  | deleteObjectInstance timeStamp orderType objectInstanceHandle =>
      obtain ⟨-, equal⟩ := Ambassador.deleteObjectInstance_ok called
      rw [equal]
      exact sendWithTimeStamp_regularQueue regular _ _ _ _

/-! ## Runs -/

/-- The runs of one federate, whatever messages it receives. -/
def unrestrictedFederate :
    TransitionSystem TemplateTimeManagement FederateInput :=
  ⟨.new, FederateInput.apply⟩

theorem new_regularQueue : new.deliveryQueue.Regular where
  pendingNonneg := le_refl 0
  currentNonneg := le_refl 0
  stampedAt := fun _ _ queued => absurd queued List.not_mem_nil
  grantAt := fun _ queued => absurd queued List.not_mem_nil
  oneGrant := rfl
  enabling := TimeRegulationMode.noConfusion

theorem apply_regularQueue
    (regular : self.deliveryQueue.Regular)
    {input : FederateInput}
    (stepped : input.apply self = some after) :
    after.deliveryQueue.Regular := by
  cases input with
  | call service =>
      exact call_regularQueue regular
        (FederateInput.apply_call_eq_some.mp stepped).2
  | receive message => exact acceptInternalMessage_regularQueue regular stepped
  | dispatchCallback =>
      cases stepped
      exact dispatchCallback_regularQueue regular
  | callbackMessageAvailable =>
      cases stepped
      exact callbackMessageAvailable_regularQueue regular
  | eraseMessagesForObjectInstance objectInstanceHandle =>
      cases stepped
      rw [deliveryQueue_eraseMessagesForObjectInstance]
      exact regular.removed fun _ _ kept => (List.mem_filter.mp kept).1
  | setNotificationHandle notificationHandle =>
      cases stepped
      rw [deliveryQueue_setNotificationHandle]
      exact regular

/-- In every run there is one grant for a pending advance, and none is queued
before the pending time. -/
theorem federate_regularQueue
    (reachable : unrestrictedFederate.Reachable self) :
    self.deliveryQueue.Regular := by
  refine TransitionSystem.Reachable.invariant
    (fun state => state.deliveryQueue.Regular) new_regularQueue ?_ reachable
  intro before input after regular stepped
  exact apply_regularQueue regular stepped

end TemplateTimeManagement
end TimeManagement
end OpenRTI
