import OpenRTI.TimeManagement.SendGuardOperations

/-!
# Messages and callbacks keep the send guard's invariant

A message from another federate can lower the pending time of a next message
request.  `LowersBelowCommitted` is the one case in which the grant then takes
the outbound bound below what is committed; every other message, and every
callback, keeps the invariant of the send guard.
-/

namespace OpenRTI
namespace TimeManagement
namespace TemplateTimeManagement

open Foundation

/-! ## Messages -/

/-- Queueing a message with this time stamp takes the pending time of a next
message request below what the federate has already committed for it. -/
def LowersBelowCommitted
    (self : TemplateTimeManagement)
    (timeStamp : Int) : Prop :=
  self.timeRegulationMode = .timeRegulationEnabled ∧
    self.getIsAnyNextMessageMode = true ∧
    self.getTimeConstrainedEnabled = true ∧
    self.logicalTime.first ≤ timeStamp ∧
    timeStamp < self.pendingLogicalTime.first ∧
    max self.lastOutboundLowerBoundTimeStamp.toLogicalTime
        (self.lowerBoundAt timeStamp) <
      self.committedOutboundLowerBoundTimeStamp

instance (self : TemplateTimeManagement) (timeStamp : Int) :
    Decidable (self.LowersBelowCommitted timeStamp) := by
  unfold LowersBelowCommitted
  infer_instance

variable {self : TemplateTimeManagement}

theorem reconsiderPendingTime_consistent
    (consistent : self.sendGuard.Consistent)
    {logicalTimePair : LogicalTimePair}
    (covered : ¬ self.LowersBelowCommitted logicalTimePair.first) :
    (self.reconsiderPendingTime
      logicalTimePair).sendGuard.Consistent := by
  unfold reconsiderPendingTime
  split
  next mode =>
    rw [Bool.and_eq_true] at mode
    have early := early_of_nextMessageMode mode.1
    split
    next below =>
      dsimp only
      have limited : ∃ first, first ≤ self.pendingLogicalTime.first ∧
          (if self.logicalTime.first ≤ logicalTimePair.first then
            { self with
              pendingLogicalTime :=
                ⟨logicalTimePair.first, self.pendingLogicalTime.second⟩ }
          else self) =
            self.withPending ⟨first, self.pendingLogicalTime.second⟩ ∧
          (self.withPending
            ⟨first,
              self.pendingLogicalTime.second⟩).sendGuard.Consistent := by
        split
        next ahead =>
          refine ⟨_, below.le, rfl, consistent.lowerPending below.le ?_⟩
          intro enabled _
          by_contra exceeds
          refine covered ⟨enabled, mode.1, mode.2, ahead, below, ?_⟩
          rw [boundAt_sendGuard] at exceeds
          exact not_le.mp exceeds
        next => exact ⟨_, le_refl _, rfl, consistent⟩
      obtain ⟨first, lower, equal, lowered⟩ := limited
      rw [equal]
      refine checkForPendingTimeAdvance_consistent ?_ true
      split
      next committing =>
        rw [Bool.and_eq_true] at committing
        exact sendCommitLookahead_consistent lowered
          (of_decide_eq_true committing.2) early (le_refl first) _
      next => exact lowered
    next => exact consistent
  next => exact consistent

theorem queueTimeStampedMessage_consistent
    (consistent : self.sendGuard.Consistent)
    {message : TimeStampedMessage}
    (covered : ¬ self.LowersBelowCommitted message.timeStamp) :
    (self.queueTimeStampedMessage message).sendGuard.Consistent := by
  unfold queueTimeStampedMessage
  split
  · exact consistent
  · exact reconsiderPendingTime_consistent
      (queueMessage_consistent consistent _ (by simp)) covered

variable {timeStamp : Int}

/-- A time stamp that the guard lets through is not below the pending time. -/
theorem not_lowersBelowCommitted_of_not_passed
    (consistent : self.sendGuard.Consistent)
    {bound : LogicalTimePair}
    (isBound :
      bound = self.outboundLowerBoundTimeStamp ∨
        bound = self.pendingLogicalTime)
    (allowed : passed bound timeStamp = false) :
    ¬ self.LowersBelowCommitted timeStamp := by
  rintro ⟨enabled, nextMessage, -, -, below, -⟩
  have reached : bound.first ≤ timeStamp := by
    unfold passed at allowed
    split at allowed <;> simp at allowed <;> omega
  rcases isBound with isOutbound | isPending
  · -- The outbound bound is raised to what the pending time allows.
    have within := (le_max_right _ _).trans
      (consistent.withinGranted enabled
        (early_of_nextMessageMode nextMessage)).1
    have lookahead := consistent.lookaheadNonneg
    have second := self.getOutboundLowerTimeStampSecondField_cases
      self.targetLookahead
    have nonneg := consistent.outboundNonneg
    rw [boundAt_sendGuard, lowerBoundAt] at within
    rw [isOutbound] at allowed
    have reachedBound := (SendGuard.not_passed_iff _ nonneg timeStamp).mp
      allowed
    change _ ≤ self.outboundLowerBoundTimeStamp.toLogicalTime at within
    change self.outboundLowerBoundTimeStamp.toLogicalTime ≤ _ at reachedBound
    change 0 ≤ self.targetLookahead at lookahead
    change self.pendingLogicalTime.first + self.targetLookahead + _ ≤ _
      at within
    omega
  · rw [isPending] at reached
    omega

theorem not_lowersBelowCommitted_of_allowed
    (consistent : self.sendGuard.Consistent)
    (allowed : self.logicalTimeAlreadyPassedReason timeStamp = none) :
    ¬ self.LowersBelowCommitted timeStamp := by
  rw [logicalTimeAlreadyPassedReason_eq_none] at allowed
  refine not_lowersBelowCommitted_of_not_passed consistent ?_ allowed
  unfold sendBound
  split
  · exact .inr rfl
  · exact .inl rfl

/-- The answers only raise the outbound bound. -/
theorem correctTimeRegulations_eq
    (self : TemplateTimeManagement)
    (second : self.outboundLowerBoundTimeStamp.second = 0)
    (answers : List (FederateHandle × Int)) :
    ∃ bound pending,
      answers.foldl (fun self entry => self.correctTimeRegulation entry.2)
          self =
        { self with
          outboundLowerBoundTimeStamp := ⟨bound, 0⟩
          pendingLogicalTime := pending } ∧
        self.outboundLowerBoundTimeStamp.first ≤ bound ∧
        ∀ answer ∈ answers, answer.2 ≤ bound := by
  induction answers generalizing self with
  | nil =>
      refine ⟨self.outboundLowerBoundTimeStamp.first, self.pendingLogicalTime,
        ?_, le_refl _, by simp⟩
      rw [← second]
      rfl
  | cons answer rest ih =>
      rw [List.foldl_cons]
      unfold correctTimeRegulation
      split
      next covered =>
        obtain ⟨bound, pending, equal, raised, all⟩ :=
          ih self second
        refine ⟨bound, pending, equal, raised, ?_⟩
        intro other member
        rcases List.mem_cons.mp member with same | later
        · rw [same]
          exact covered.trans raised
        · exact all other later
      next above =>
        obtain ⟨bound, pending, equal, raised, all⟩ :=
          ih
            { self with
              outboundLowerBoundTimeStamp := ⟨answer.2, 0⟩
              pendingLogicalTime :=
                max self.pendingLogicalTime
                  ⟨answer.2 - self.currentLookahead, 0⟩ } rfl
        refine ⟨bound, pending, equal, (not_le.mp above).le.trans raised, ?_⟩
        intro other member
        rcases List.mem_cons.mp member with same | later
        · rw [same]
          exact raised
        · exact all other later

theorem sendGuard_sendCommitLowerBoundTimeStamp
    (self : TemplateTimeManagement) (logicalTime : Int) :
    (self.sendCommitLowerBoundTimeStamp logicalTime
        .timeAdvanceAndNextMessageCommit).sendGuard =
      { self.sendGuard with
        committed := logicalTime
        told := some logicalTime } := by
  have told :
      lastTimeAdvanceCommit
          (self.sendCommitLowerBoundTimeStamp logicalTime
            .timeAdvanceAndNextMessageCommit).sent =
        some logicalTime :=
    lastTimeAdvanceCommit_append_singleton self.sent _
  rw [← told]
  rfl

theorem checkTimeRegulationEnabled_consistent
    (consistent : self.sendGuard.Consistent)
    (noneQueued : self.sendGuard.enabledQueued = 0) :
    self.checkTimeRegulationEnabled.sendGuard.Consistent := by
  unfold checkTimeRegulationEnabled
  split
  next => exact consistent
  next enabling =>
    split
    next => exact consistent
    next answered =>
      have isEnabling :
          self.timeRegulationMode = .timeRegulationEnablePending := by
        simpa [getTimeRegulationEnablePending] using enabling
      have isAnswered : self.timeRegulationEnableFederateHandleSet = ∅ :=
        not_not.mp answered
      obtain ⟨bound, pending, equal, raised, -⟩ :=
        self.correctTimeRegulations_eq (consistent.enabling isEnabling).2.1
          self.timeRegulationEnableFederateHandleTimeStampMap.entries
      dsimp only
      rw [equal, sendGuard_queueMessage]
      have nobodyWaits : self.sendGuard.waiting = false :=
        decide_eq_false (not_not.mpr isAnswered)
      rw [sendGuard_sendCommitLowerBoundTimeStamp]
      exact consistent.answered isEnabling nobodyWaits noneQueued
        pending.first bound

variable {federateHandle : FederateHandle}

/-! ## Joining and resigning federates -/

section

variable (consistent : self.sendGuard.Consistent)
include consistent

/-- As long as an answer is missing the callback that enables time regulation
is not queued. -/
theorem noneQueued_of_waiting
    (waiting :
      federateHandle ∈ self.timeRegulationEnableFederateHandleSet) :
    self.sendGuard.enabledQueued = 0 := by
  refine Nat.eq_zero_of_not_pos fun queued => ?_
  have nobodyWaits := (consistent.queuedWhilePending queued).2.1
  have empty : self.timeRegulationEnableFederateHandleSet = ∅ :=
    not_not.mp (of_decide_eq_false nobodyWaits)
  simp [empty] at waiting

theorem acceptJoinFederateNotify_consistent
    (federateHandle : FederateHandle) :
    (self.acceptJoinFederateNotify federateHandle).sendGuard.Consistent := by
  unfold acceptJoinFederateNotify
  dsimp only
  split
  next waiting =>
    exact consistent.answer (noneQueued_of_waiting consistent waiting) _
  next => exact consistent

theorem removeFederateFromTimeManagement_consistent
    (federateHandle : FederateHandle) :
    (self.removeFederateFromTimeManagement
      federateHandle).sendGuard.Consistent := by
  unfold removeFederateFromTimeManagement
  dsimp only
  refine checkForPendingTimeAdvance_consistent ?_ true
  rw [sendGuard_sendLockedByNextMessageRequestIfChanged]
  split
  next waiting =>
    have noneQueued := noneQueued_of_waiting consistent waiting
    exact checkTimeRegulationEnabled_consistent
      (consistent.answer noneQueued _) noneQueued
  next => exact consistent

theorem acceptResignFederateNotify_consistent
    (federateHandle : FederateHandle) :
    (self.acceptResignFederateNotify
      federateHandle).sendGuard.Consistent :=
  removeFederateFromTimeManagement_consistent consistent federateHandle

end

/-! ## Requests and answers -/

/-- What the other federates send: the answers to a request for time regulation
only while they are awaited, and no time stamp below their least bound. -/
def expects (self : TemplateTimeManagement) : Message → Bool
  | .enableTimeRegulationRequest federateHandle _ _ =>
      self.federateHandle ≠ federateHandle ||
        !self.getTimeRegulationEnablePending ||
        federateHandle ∈ self.timeRegulationEnableFederateHandleSet
  | .enableTimeRegulationResponse _ responding _ _ =>
      !self.getTimeRegulationEnablePending ||
        responding ∈ self.timeRegulationEnableFederateHandleSet
  | .timeStamped message =>
      self.federateLowerBoundMap.getGALT.all fun galt =>
        galt ≤ message.timeStamp
  | _ => true

section

variable (consistent : self.sendGuard.Consistent)
include consistent

theorem acceptEnableTimeRegulationRequest_consistent
    (federateHandle : FederateHandle) (timeStamp : Int)
    (commitId : Unsigned)
    (expected :
      self.expects
        (.enableTimeRegulationRequest federateHandle timeStamp commitId) =
          true) :
    (self.acceptEnableTimeRegulationRequest federateHandle timeStamp
      commitId).sendGuard.Consistent := by
  unfold acceptEnableTimeRegulationRequest
  split
  next own =>
    split
    next => exact consistent
    next pending =>
      have awaited :
          federateHandle ∈ self.timeRegulationEnableFederateHandleSet := by
        simpa [expects, own, pending] using expected
      have noneQueued := noneQueued_of_waiting consistent awaited
      exact checkTimeRegulationEnabled_consistent
        (consistent.answer noneQueued _) noneQueued
  next =>
    dsimp only
    rw [sendGuard_sendLockedByNextMessageRequestIfChanged]
    split
    · change (self.send _).sendGuard.Consistent
      rwa [sendGuard_send _ rfl]
    · exact consistent

theorem acceptEnableTimeRegulationResponse_consistent
    (responding : FederateHandle) (timeStamp : Int) (timeStampValid : Bool)
    (expected :
      self.expects
        (.enableTimeRegulationResponse federateHandle responding timeStamp
          timeStampValid) = true) :
    (self.acceptEnableTimeRegulationResponse responding timeStamp
      timeStampValid).sendGuard.Consistent := by
  unfold acceptEnableTimeRegulationResponse
  split
  next => exact consistent
  next pending =>
    have awaited :
        responding ∈ self.timeRegulationEnableFederateHandleSet := by
      simpa [expects, pending] using expected
    have noneQueued := noneQueued_of_waiting consistent awaited
    refine checkTimeRegulationEnabled_consistent ?_ ?_
    · rw [sendGuard_sendLockedByNextMessageRequestIfChanged]
      exact consistent.answer noneQueued _
    · rw [sendGuard_sendLockedByNextMessageRequestIfChanged]
      exact noneQueued

/-- Changes of the other federates' bounds do not touch the view before the
pending time advance is checked. -/
theorem checkChangedBounds_consistent
    (federateLowerBoundMap : FederateHandleLowerBoundTimeStampMap Int)
    (previousLockedByNextMessage : Bool) :
    ({ self with federateLowerBoundMap := federateLowerBoundMap }
      |>.sendLockedByNextMessageRequestIfChanged previousLockedByNextMessage
      |>.checkForPendingTimeAdvance true).sendGuard.Consistent := by
  refine checkForPendingTimeAdvance_consistent ?_ true
  rw [sendGuard_sendLockedByNextMessageRequestIfChanged]
  exact consistent

end

variable {after : TemplateTimeManagement}

section

variable (consistent : self.sendGuard.Consistent)
include consistent

theorem acceptCommitLowerBoundTimeStamp_consistent
    {commitType : LowerBoundTimeStampCommitType} {commitId : Unsigned}
    (accepted :
      self.acceptCommitLowerBoundTimeStamp federateHandle timeStamp commitType
        commitId = some after) :
    after.sendGuard.Consistent := by
  obtain ⟨result, -, equal⟩ := Option.map_eq_some_iff.mp accepted
  rw [← equal]
  refine checkForPendingTimeAdvance_consistent ?_ true
  rw [sendGuard_sendLockedByNextMessageRequestIfChanged]
  split
  · rw [sendGuard_sendCommitLowerBoundTimeStampResponse]
    exact consistent
  · exact consistent

/-- Every message but one that lowers the pending time too far keeps the
invariant. -/
theorem acceptInternalMessage_consistent
    {message : Message}
    (expected : self.expects message = true)
    (covered :
      ∀ stamped, message = .timeStamped stamped →
        ¬ self.LowersBelowCommitted stamped.timeStamp)
    (accepted : self.acceptInternalMessage message = some after) :
    after.sendGuard.Consistent := by
  cases message with
  | commitLowerBoundTimeStamp federateHandle timeStamp commitType commitId =>
      exact acceptCommitLowerBoundTimeStamp_consistent consistent accepted
  | joinFederationExecutionResponse federateHandle =>
      cases accepted
      exact consistent
  | joinFederateNotify federateHandle =>
      cases accepted
      exact acceptJoinFederateNotify_consistent consistent federateHandle
  | resignFederateNotify federateHandle =>
      cases accepted
      exact acceptResignFederateNotify_consistent consistent federateHandle
  | enableTimeRegulationRequest federateHandle timeStamp commitId =>
      cases accepted
      exact acceptEnableTimeRegulationRequest_consistent consistent _ _ _
        expected
  | enableTimeRegulationResponse federateHandle responding timeStamp valid =>
      cases accepted
      exact acceptEnableTimeRegulationResponse_consistent consistent _ _ _
        expected
  | disableTimeRegulationRequest federateHandle =>
      cases accepted
      exact checkChangedBounds_consistent consistent _ _
  | enableTimeConstrainedNotify federateHandle =>
      cases accepted
      exact consistent
  | disableTimeConstrainedNotify federateHandle =>
      cases accepted
      exact consistent
  | commitLowerBoundTimeStampResponse federateHandle sending commitId =>
      cases accepted
      exact checkChangedBounds_consistent consistent _ _
  | lockedByNextMessageRequest sending locked =>
      cases accepted
      exact checkChangedBounds_consistent consistent _ _
  | timeStamped stamped =>
      cases accepted
      exact queueTimeStampedMessage_consistent consistent
        (covered stamped rfl)
  | receiveOrder message =>
      cases accepted
      exact consistent

/-! ## Callbacks -/

theorem checkForPendingFlushQueue_consistent :
    self.checkForPendingFlushQueue.sendGuard.Consistent := by
  unfold checkForPendingFlushQueue
  split
  · exact queueMessage_consistent consistent _ (by simp)
  · exact consistent

end

/-- Erasing empty lists removes no message. -/
theorem sendGuard_dropEmptyLists (self : TemplateTimeManagement) :
    ({ self with
      logicalTimeMessageListMap :=
        self.logicalTimeMessageListMap.dropWhile fun messages =>
          messages.isEmpty } : TemplateTimeManagement).sendGuard =
      self.sendGuard := by
  have kept := self.logicalTimeMessageListMap.sum_dropWhile
    (fun messages => messages.count .timeRegulationEnabled)
    (fun messages => messages.isEmpty)
    (by simp +contextual)
  exact SendGuard.ext rfl rfl rfl rfl rfl rfl rfl rfl kept rfl

theorem cleanOldestMessageLists_consistent
    (consistent : self.sendGuard.Consistent) :
    self.cleanOldestMessageLists.sendGuard.Consistent := by
  refine checkForPendingFlushQueue_consistent ?_
  rw [sendGuard_dropEmptyLists]
  exact checkForPendingFlushQueue_consistent consistent

/-- Where no message is taken off the queue nothing changes. -/
theorem popTimeStampOrderMessage_eq_of_none
    (popped : self.popTimeStampOrderMessage = (after, none)) :
    after = self := by
  unfold popTimeStampOrderMessage at popped
  split at popped
  · split at popped <;> cases popped
    rfl
  · cases popped
    rfl

/-- Taking a message off the queue lowers its number by one. -/
theorem sendGuard_popTimeStampOrderMessage
    {message : QueuedMessage}
    (popped : self.popTimeStampOrderMessage = (after, some message)) :
    self.sendGuard =
      { after.sendGuard with
        enabledQueued := after.sendGuard.enabledQueued +
          if message = .timeRegulationEnabled then 1 else 0 } := by
  unfold popTimeStampOrderMessage at popped
  split at popped
  next pair first rest least =>
    split at popped
    next =>
      cases popped
      have found := OrderedMap.find?_begin? least
      have summed := self.logicalTimeMessageListMap.sum_alter
        (fun messages => messages.count .timeRegulationEnabled) pair
        fun _ => if rest.isEmpty then none else some rest
      have remaining : OrderedMap.weightOf
          (fun messages => messages.count QueuedMessage.timeRegulationEnabled)
          (if rest.isEmpty then none else some rest) =
          rest.count .timeRegulationEnabled := by
        cases rest <;> rfl
      rw [found, remaining, OrderedMap.weightOf_some, List.count_cons]
        at summed
      simp only [beq_iff_eq] at summed
      have counted : self.queued .timeRegulationEnabled =
          (self.logicalTimeMessageListMap.alter pair
            fun _ => if rest.isEmpty then none else some rest).sum
            (fun messages => messages.count .timeRegulationEnabled) +
            if message = .timeRegulationEnabled then 1 else 0 := by
        rw [queued]
        omega
      exact SendGuard.ext rfl rfl rfl rfl rfl rfl rfl rfl counted rfl
    next => cases popped
  next => cases popped

theorem sendGuard_acceptTimeAdvanceGranted (self : TemplateTimeManagement) :
    self.acceptTimeAdvanceGranted.sendGuard =
      { self.sendGuard with
        timeAdvanceMode := .timeAdvanceGranted
        outbound :=
          if self.sendGuard.early = true ∧
              self.sendGuard.timeRegulationMode = .timeRegulationEnabled then
            self.sendGuard.advanceOutbound self.sendGuard.pending
              self.sendGuard.lastOutbound
          else self.sendGuard.outbound } := by
  unfold acceptTimeAdvanceGranted
  dsimp only
  split
  next corrected =>
    rw [Bool.and_eq_true] at corrected
    have early : self.sendGuard.early = true := corrected.1
    have enabled :
        self.sendGuard.timeRegulationMode = .timeRegulationEnabled :=
      of_decide_eq_true corrected.2
    rw [if_pos ⟨early, enabled⟩]
    have view := self.sendGuard_setOutboundLowerTimeStampAndCurrentLookahead
      self.pendingLogicalTime.first self.lastOutboundLowerBoundTimeStamp
    exact congrArg
      (fun guard : SendGuard =>
        { guard with timeAdvanceMode := .timeAdvanceGranted })
      view
  next notCorrected =>
    rw [if_neg]
    · rfl
    · rintro ⟨early, enabled⟩
      exact notCorrected
        (Bool.and_eq_true _ _ ▸ ⟨early, decide_eq_true enabled⟩)

section

variable (consistent : self.sendGuard.Consistent)
include consistent

theorem acceptCallbackMessage_consistent
    {popped : TemplateTimeManagement} {message : QueuedMessage}
    (view :
      self.sendGuard =
        { popped.sendGuard with
          enabledQueued := popped.sendGuard.enabledQueued +
            if message = .timeRegulationEnabled then 1 else 0 }) :
    (popped.acceptCallbackMessage message).sendGuard.Consistent := by
  rw [view] at consistent
  cases message with
  | timeConstrainedEnabled => exact consistent
  | timeStamped message => exact consistent
  | receiveOrder message => exact consistent
  | timeRegulationEnabled =>
      exact consistent.enabled (Nat.succ_pos _)
  | timeAdvanceGranted =>
      change popped.acceptTimeAdvanceGranted.sendGuard.Consistent
      rw [sendGuard_acceptTimeAdvanceGranted]
      exact consistent.grant

theorem dispatchCallback_consistent :
    self.dispatchCallback.1.sendGuard.Consistent := by
  unfold dispatchCallback
  split
  next message rest permitted received =>
    exact consistent
  next =>
    have cleaned := cleanOldestMessageLists_consistent consistent
    cases popped :
        self.cleanOldestMessageLists.popTimeStampOrderMessage with
    | mk after taken =>
        cases taken with
        | none =>
            rw [popTimeStampOrderMessage_eq_of_none popped]
            exact cleaned
        | some message =>
            exact acceptCallbackMessage_consistent cleaned
              (sendGuard_popTimeStampOrderMessage popped)

theorem callbackMessageAvailable_consistent :
    self.callbackMessageAvailable.1.sendGuard.Consistent := by
  have cleaned := cleanOldestMessageLists_consistent consistent
  unfold callbackMessageAvailable
  split
  · exact consistent
  · dsimp only
    split
    · exact cleaned
    · exact cleaned

end

theorem sendGuard_eraseMessagesForObjectInstance
    (self : TemplateTimeManagement)
    (objectInstanceHandle : ObjectInstanceHandle) :
    (self.eraseMessagesForObjectInstance objectInstanceHandle).sendGuard =
      self.sendGuard := by
  have kept :
      (self.eraseMessagesForObjectInstance objectInstanceHandle).queued
          .timeRegulationEnabled =
        self.queued .timeRegulationEnabled := by
    unfold queued eraseMessagesForObjectInstance
    rw [OrderedMap.sum_mapValues]
    simp [List.count_filter,
      QueuedMessage.getObjectInstanceHandleForMessage]
  exact SendGuard.ext rfl rfl rfl rfl rfl rfl rfl rfl kept rfl

section

variable (consistent : self.sendGuard.Consistent)
include consistent

theorem eraseMessagesForObjectInstance_consistent
    (objectInstanceHandle : ObjectInstanceHandle) :
    (self.eraseMessagesForObjectInstance
      objectInstanceHandle).sendGuard.Consistent := by
  rwa [sendGuard_eraseMessagesForObjectInstance]

theorem setNotificationHandle_consistent
    (notificationHandle : Option NotificationHandle) :
    (self.setNotificationHandle
      notificationHandle).sendGuard.Consistent := by
  unfold setNotificationHandle
  dsimp only
  split
  · exact consistent
  · exact consistent

/-! ## Sending -/

theorem sendWithTimeStamp_consistent
    (timeStamp : Int) (orderType : OrderType)
    (objectInstanceHandle : Option ObjectInstanceHandle)
    (deliverToSelf : Bool)
    (covered : deliverToSelf = true → ¬ self.LowersBelowCommitted timeStamp) :
    (Ambassador.sendWithTimeStamp self timeStamp orderType
      objectInstanceHandle deliverToSelf).sendGuard.Consistent := by
  unfold Ambassador.sendWithTimeStamp
  split
  · dsimp only
    rw [sendGuard_send _ rfl]
    split
    next toSelf =>
      exact queueTimeStampedMessage_consistent consistent (covered toSelf)
    next => exact consistent
  · dsimp only
    rw [sendGuard_send _ rfl]
    split
    · exact consistent
    · exact consistent

end

end TemplateTimeManagement
end TimeManagement
end OpenRTI
