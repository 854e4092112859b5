import OpenRTI.TimeManagement.SendGuardMessages

/-!
# The last and the current outbound bound

Changing the lookahead expects the bound kept for a grant to be the current
one.  This module keeps the two bounds, and the answers that may raise the
current one while time regulation is enabled, in a view, `OutboundLevel`.  Most
operations leave the view as it is; the others change it in ways that keep the
bounds level unless they raise the current bound alone.
-/

namespace OpenRTI
namespace TimeManagement

open Foundation

/-- The part of time management that decides whether the bounds are level. -/
@[ext]
structure OutboundLevel where
  timeRegulationMode : TimeRegulationMode
  timeAdvanceMode : TimeAdvanceMode
  outbound : LogicalTimePair
  lastOutbound : LogicalTimePair
  /-- Some federate has not yet answered the request for time regulation. -/
  waiting : Bool
  /-- The logical times answered so far. -/
  answers : List (FederateHandle × Int)

namespace OutboundLevel

/-- A next message or flush queue request is pending. -/
def early (view : OutboundLevel) : Bool :=
  view.timeAdvanceMode = .nextMessageRequest ||
    view.timeAdvanceMode = .nextMessageRequestAvailable ||
    view.timeAdvanceMode = .flushQueueRequest

/-- The bounds are level unless a pending grant is still to lower the current
one, and no answer raises it. -/
structure Level (view : OutboundLevel) : Prop where
  bounds :
    view.timeRegulationMode ≠ .timeRegulationDisabled →
      view.early = false → view.lastOutbound = view.outbound
  /-- Answers are collected only while time regulation is being enabled. -/
  enabling :
    view.waiting = true →
      view.timeRegulationMode = .timeRegulationEnablePending
  answered : view.waiting = false → view.answers = []
  covered : ∀ answer ∈ view.answers, answer.2 ≤ view.outbound.first

variable {view : OutboundLevel}

section

variable (level : view.Level)
include level

/-- While time regulation is not being enabled there is no answer. -/
theorem Level.covered_of_notPending
    (notPending :
      view.timeRegulationMode ≠ .timeRegulationEnablePending)
    (bound : Int) :
    ∀ answer ∈ view.answers, answer.2 ≤ bound := by
  have notWaiting : view.waiting = false := by
    by_contra waiting
    exact notPending (level.enabling (eq_true_of_ne_false waiting))
  intro answer member
  simp [level.answered notWaiting] at member

/-- Requesting time regulation starts both bounds at the same time. -/
theorem Level.enable
    (disabled : view.timeRegulationMode = .timeRegulationDisabled)
    (bound : LogicalTimePair) :
    Level
      { view with
        timeRegulationMode := .timeRegulationEnablePending
        outbound := bound
        lastOutbound := bound
        waiting := true } where
  bounds := fun _ _ => rfl
  enabling := fun _ => rfl
  answered := fun waiting => by cases waiting
  covered := level.covered_of_notPending (by simp [disabled]) _

/-- Disabling time regulation takes both bounds back. -/
theorem Level.disable
    (enabled : view.timeRegulationMode = .timeRegulationEnabled)
    (bound : LogicalTimePair) :
    Level
      { view with
        timeRegulationMode := .timeRegulationDisabled
        outbound := bound
        lastOutbound := bound } where
  bounds := fun _ _ => rfl
  enabling := fun waiting => by
    have pending := level.enabling waiting
    rw [enabled] at pending
    cases pending
  answered := level.answered
  covered := level.covered_of_notPending (by simp [enabled]) _

/-- A request keeps the bound from before for the grant. -/
theorem Level.advance
    {mode : TimeAdvanceMode} {outbound : LogicalTimePair}
    (raised : view.outbound ≤ outbound)
    (notRaised :
      early { view with timeAdvanceMode := mode } = false →
        outbound = view.outbound) :
    Level
      { view with
        timeAdvanceMode := mode
        outbound := outbound
        lastOutbound := view.outbound } where
  bounds := fun _ settled => (notRaised settled).symm
  enabling := level.enabling
  answered := level.answered
  covered := by
    intro answer member
    have covered := level.covered answer member
    rw [LogicalTimePair.le_iff] at raised
    dsimp only
    omega

/-- The grant takes the current bound back to the last one. -/
theorem Level.grant
    (enabled : view.timeRegulationMode = .timeRegulationEnabled) :
    Level
      { view with
        timeAdvanceMode := .timeAdvanceGranted
        outbound := view.lastOutbound } where
  bounds := fun _ _ => rfl
  enabling := level.enabling
  answered := level.answered
  covered := level.covered_of_notPending (by simp [enabled]) _

/-- Where the grant corrects nothing the bounds were level before. -/
theorem Level.grantLevel
    (settled :
      view.timeRegulationMode ≠ .timeRegulationDisabled →
        view.early = false) :
    Level { view with timeAdvanceMode := .timeAdvanceGranted } where
  bounds := fun regulating _ => level.bounds regulating (settled regulating)
  enabling := level.enabling
  answered := level.answered
  covered := level.covered

end

/-- Once all federates have answered the answers are done with. -/
theorem Level.complete
    (pending : view.timeRegulationMode = .timeRegulationEnablePending)
    (bounds : view.lastOutbound = view.outbound)
    (covered : ∀ answer ∈ view.answers, answer.2 ≤ view.outbound.first)
    (answered : view.waiting = false → view.answers = []) :
    view.Level where
  bounds := fun _ _ => bounds
  enabling := fun _ => pending
  answered := answered
  covered := covered

/-- Dispatching the callback that enables time regulation. -/
theorem Level.enabled
    (level : view.Level)
    (pending : view.timeRegulationMode = .timeRegulationEnablePending)
    (notWaiting : view.waiting = false) :
    Level { view with timeRegulationMode := .timeRegulationEnabled } where
  bounds := fun _ settled =>
    level.bounds (by simp [pending]) settled
  enabling := fun waiting => by
    dsimp only at waiting
    simp [notWaiting] at waiting
  answered := level.answered
  covered := level.covered

/-- Without time regulation the mode of the pending advance does not matter. -/
theorem Level.advanceDisabled
    (level : view.Level)
    (disabled : view.timeRegulationMode = .timeRegulationDisabled)
    (mode : TimeAdvanceMode) :
    Level { view with timeAdvanceMode := mode } where
  bounds := fun enabled => absurd disabled enabled
  enabling := level.enabling
  answered := level.answered
  covered := level.covered

end OutboundLevel

namespace TemplateTimeManagement

/-- The view of the two bounds. -/
def outboundLevel (self : TemplateTimeManagement) : OutboundLevel where
  timeRegulationMode := self.timeRegulationMode
  timeAdvanceMode := self.timeAdvanceMode
  outbound := self.outboundLowerBoundTimeStamp
  lastOutbound := self.lastOutboundLowerBoundTimeStamp
  waiting := self.timeRegulationEnableFederateHandleSet ≠ ∅
  answers := self.timeRegulationEnableFederateHandleTimeStampMap.entries

variable (self : TemplateTimeManagement) (logicalTimePair : LogicalTimePair)

/-! ## Operations that leave the view as it is -/

@[simp] theorem outboundLevel_queueMessage
    (message : QueuedMessage) :
    (self.queueMessage logicalTimePair message).outboundLevel =
      self.outboundLevel := rfl

@[simp] theorem outboundLevel_send
    (message : Message) :
    (self.send message).outboundLevel = self.outboundLevel := rfl

@[simp] theorem outboundLevel_withPending
    (pending : LogicalTimePair) :
    (self.withPending pending).outboundLevel = self.outboundLevel := rfl

variable (logicalTime : Int) (commitType : LowerBoundTimeStampCommitType)

@[simp] theorem outboundLevel_sendCommitLowerBoundTimeStampIfChanged :
    (self.sendCommitLowerBoundTimeStampIfChanged logicalTime
      commitType).outboundLevel = self.outboundLevel := by
  unfold sendCommitLowerBoundTimeStampIfChanged
  dsimp only
  split
  · rfl
  · split <;> rfl

@[simp] theorem outboundLevel_sendCommitLowerBoundTimeStampPairIfChanged :
    (self.sendCommitLowerBoundTimeStampPairIfChanged logicalTimePair
      commitType).outboundLevel = self.outboundLevel := by
  rw [sendCommitLowerBoundTimeStampPairIfChanged_eq,
    outboundLevel_sendCommitLowerBoundTimeStampIfChanged]

@[simp] theorem outboundLevel_sendCommitLowerBoundTimeStampLookaheadIfChanged
    (lookahead : Int) (commitType : LowerBoundTimeStampCommitType) :
    (self.sendCommitLowerBoundTimeStampLookaheadIfChanged logicalTime
      lookahead commitType).outboundLevel = self.outboundLevel :=
  self.outboundLevel_sendCommitLowerBoundTimeStampIfChanged _ _

@[simp] theorem outboundLevel_sendCommitLowerBoundTimeStampResponse
    (federateHandle : FederateHandle) (commitId : Unsigned) :
    (self.sendCommitLowerBoundTimeStampResponse federateHandle
      commitId).outboundLevel = self.outboundLevel := by
  unfold sendCommitLowerBoundTimeStampResponse
  split <;> rfl

@[simp] theorem outboundLevel_sendCommitLowerBoundTimeStampResponses :
    self.sendCommitLowerBoundTimeStampResponses.outboundLevel =
      self.outboundLevel := by
  unfold sendCommitLowerBoundTimeStampResponses
  induction self.federateLowerBoundMap.getNextMessageFederateHandleList
    generalizing self with
  | nil => rfl
  | cons entry rest ih =>
      rw [List.foldl_cons, ih,
        outboundLevel_sendCommitLowerBoundTimeStampResponse]

@[simp] theorem outboundLevel_sendLockedByNextMessageRequestIfChanged
    (previous : Bool) :
    (self.sendLockedByNextMessageRequestIfChanged previous).outboundLevel =
      self.outboundLevel := by
  unfold sendLockedByNextMessageRequestIfChanged
  split <;> rfl

@[simp] theorem outboundLevel_advanceOrCommit
    (canAdvance : Bool) (galt : Option Int) :
    (self.advanceOrCommit canAdvance galt).outboundLevel =
      self.outboundLevel := by
  unfold advanceOrCommit
  dsimp only
  split
  · split
    · rw [outboundLevel_sendCommitLowerBoundTimeStampLookaheadIfChanged]
      rfl
    · rfl
  · split
    · cases galt with
      | none => rfl
      | some bound =>
          exact
            self.outboundLevel_sendCommitLowerBoundTimeStampLookaheadIfChanged
              _ _ _
    · rfl

@[simp] theorem outboundLevel_checkForPendingTimeAdvance
    (allowNextMessage : Bool) :
    (self.checkForPendingTimeAdvance allowNextMessage).outboundLevel =
      self.outboundLevel := by
  unfold checkForPendingTimeAdvance
  split
  · rfl
  · split
    · split
      · exact self.outboundLevel_advanceOrCommit _ _
      · exact self.outboundLevel_advanceOrCommit _ _
    · rfl

@[simp] theorem outboundLevel_checkForPendingFlushQueue :
    self.checkForPendingFlushQueue.outboundLevel = self.outboundLevel := by
  unfold checkForPendingFlushQueue
  split <;> rfl

@[simp] theorem outboundLevel_cleanOldestMessageLists :
    self.cleanOldestMessageLists.outboundLevel = self.outboundLevel := by
  unfold cleanOldestMessageLists
  rw [outboundLevel_checkForPendingFlushQueue]
  exact self.outboundLevel_checkForPendingFlushQueue

@[simp] theorem outboundLevel_popTimeStampOrderMessage :
    self.popTimeStampOrderMessage.1.outboundLevel = self.outboundLevel := by
  unfold popTimeStampOrderMessage
  split
  · split <;> rfl
  · rfl

@[simp] theorem outboundLevel_callbackMessageAvailable :
    self.callbackMessageAvailable.1.outboundLevel = self.outboundLevel := by
  unfold callbackMessageAvailable
  split
  · rfl
  · dsimp only
    split <;> exact self.outboundLevel_cleanOldestMessageLists

@[simp] theorem outboundLevel_setNotificationHandle
    (notificationHandle : Option NotificationHandle) :
    (self.setNotificationHandle notificationHandle).outboundLevel =
      self.outboundLevel := by
  unfold setNotificationHandle
  dsimp only
  split <;> rfl

@[simp] theorem outboundLevel_limitPendingLogicalTime :
    self.limitPendingLogicalTime.outboundLevel = self.outboundLevel := by
  obtain ⟨first, -, equal⟩ := self.limitPendingLogicalTime_eq
  rw [equal, outboundLevel_withPending]

@[simp] theorem outboundLevel_boundPendingLogicalTime :
    self.boundPendingLogicalTime.outboundLevel = self.outboundLevel := by
  unfold boundPendingLogicalTime
  split
  · cases self.federateLowerBoundMap.getGALT <;> rfl
  · rfl

@[simp] theorem outboundLevel_requestTimeAdvance :
    self.requestTimeAdvance.outboundLevel = self.outboundLevel := by
  unfold requestTimeAdvance
  rw [outboundLevel_queueMessage]
  split
  · exact self.outboundLevel_sendCommitLowerBoundTimeStampPairIfChanged _ _
  · rfl

@[simp] theorem outboundLevel_requestNextMessage :
    self.requestNextMessage.outboundLevel = self.outboundLevel := by
  have limited :
      ({ self.limitPendingLogicalTime with
        timeAdvanceToBeScheduled := true } :
          TemplateTimeManagement).outboundLevel = self.outboundLevel :=
    self.outboundLevel_limitPendingLogicalTime
  unfold requestNextMessage
  split
  · dsimp only
    rw [outboundLevel_checkForPendingTimeAdvance]
    split
    · rwa [outboundLevel_sendCommitLowerBoundTimeStampLookaheadIfChanged]
    · exact limited
  · dsimp only
    rw [outboundLevel_queueMessage]
    split
    · rw [outboundLevel_sendCommitLowerBoundTimeStampLookaheadIfChanged]
    · rfl

@[simp] theorem outboundLevel_scheduleFlushQueue :
    self.scheduleFlushQueue.outboundLevel = self.outboundLevel := by
  have committed : ∀ logicalTime,
      (if self.getTimeRegulationEnabled then
        self.sendCommitLowerBoundTimeStampIfChanged logicalTime
          .timeAdvanceAndNextMessageCommit
      else self).outboundLevel = self.outboundLevel := by
    intro logicalTime
    split
    · exact self.outboundLevel_sendCommitLowerBoundTimeStampIfChanged _ _
    · rfl
  have scheduled : ∀ after : TemplateTimeManagement,
      (if after.getTimeConstrainedEnabled then
        { after with timeAdvanceToBeScheduled := true }
      else
        after.queueMessage after.pendingLogicalTime
          .timeAdvanceGranted).outboundLevel = after.outboundLevel := by
    intro after
    split <;> rfl
  exact (scheduled _).trans (committed _)

@[simp] theorem outboundLevel_requestFlushQueue :
    self.requestFlushQueue.outboundLevel = self.outboundLevel := by
  unfold requestFlushQueue
  dsimp only
  rw [outboundLevel_scheduleFlushQueue, outboundLevel_boundPendingLogicalTime]
  split
  · exact self.outboundLevel_limitPendingLogicalTime
  · rfl

@[simp] theorem outboundLevel_reconsiderPendingTime :
    (self.reconsiderPendingTime logicalTimePair).outboundLevel =
      self.outboundLevel := by
  have limited : ∃ first,
      (if self.logicalTime.first ≤ logicalTimePair.first then
        { self with
          pendingLogicalTime :=
            ⟨logicalTimePair.first, self.pendingLogicalTime.second⟩ }
      else self) =
        self.withPending ⟨first, self.pendingLogicalTime.second⟩ := by
    split
    · exact ⟨_, rfl⟩
    · exact ⟨_, rfl⟩
  obtain ⟨first, equal⟩ := limited
  unfold reconsiderPendingTime
  split
  · split
    · dsimp only
      rw [equal, outboundLevel_checkForPendingTimeAdvance]
      split
      · rw [outboundLevel_sendCommitLowerBoundTimeStampLookaheadIfChanged,
          outboundLevel_withPending]
      · exact self.outboundLevel_withPending _
    · rfl
  · rfl

@[simp] theorem outboundLevel_queueTimeStampedMessage
    (message : TimeStampedMessage) :
    (self.queueTimeStampedMessage message).outboundLevel =
      self.outboundLevel := by
  unfold queueTimeStampedMessage
  split
  · rfl
  · rw [outboundLevel_reconsiderPendingTime, outboundLevel_queueMessage]

@[simp] theorem outboundLevel_sendWithTimeStamp
    (timeStamp : Int) (orderType : OrderType)
    (objectInstanceHandle : Option ObjectInstanceHandle)
    (deliverToSelf : Bool) :
    (Ambassador.sendWithTimeStamp self timeStamp orderType
      objectInstanceHandle deliverToSelf).outboundLevel =
      self.outboundLevel := by
  unfold Ambassador.sendWithTimeStamp
  split
  · dsimp only
    rw [outboundLevel_send]
    split
    · exact self.outboundLevel_queueTimeStampedMessage _
    · rfl
  · dsimp only
    rw [outboundLevel_send]
    split <;> rfl

/-! ## Requests and grants -/

/-- The bound that an advance to a logical time asks for. -/
def requestedBound
    (self : TemplateTimeManagement)
    (logicalTime : Int) : LogicalTimePair :=
  ⟨logicalTime + self.targetLookahead,
    self.getOutboundLowerTimeStampSecondField self.targetLookahead⟩

/-- The send guard's view decides the requested bound. -/
theorem requestedBound_eq :
    self.requestedBound logicalTime =
      ⟨logicalTime + self.sendGuard.lookahead, self.sendGuard.second⟩ := by
  rw [second_sendGuard]
  rfl

theorem outboundLevel_setOutboundLowerTimeStampAndCurrentLookahead
    (last : LogicalTimePair) :
    (self.setOutboundLowerTimeStampAndCurrentLookahead logicalTime
        last).outboundLevel =
      { self.outboundLevel with
        outbound := max (self.requestedBound logicalTime) last } := by
  unfold setOutboundLowerTimeStampAndCurrentLookahead
  dsimp only
  split
  next below =>
    have chosen : max (self.requestedBound logicalTime) last = last :=
      max_eq_right below.le
    rw [chosen]
    rfl
  next notBelow =>
    have chosen : max (self.requestedBound logicalTime) last =
        self.requestedBound logicalTime :=
      max_eq_left (not_lt.mp notBelow)
    rw [chosen]
    rfl

variable {self : TemplateTimeManagement}

theorem prepareTimeAdvance_level
    (level : self.outboundLevel.Level)
    (notPending : self.timeRegulationMode ≠ .timeRegulationEnablePending)
    (logicalTime : Int) (mode : TimeAdvanceMode)
    (notRaised :
      self.timeRegulationMode = .timeRegulationEnabled →
        OutboundLevel.early
            { self.outboundLevel with timeAdvanceMode := mode } = false →
          requestedBound { self with timeAdvanceMode := mode } logicalTime ≤
            self.outboundLowerBoundTimeStamp) :
    (self.prepareTimeAdvance logicalTime mode).outboundLevel.Level := by
  unfold prepareTimeAdvance
  dsimp only
  split
  next enabled =>
    rw [outboundLevel_setOutboundLowerTimeStampAndCurrentLookahead]
    refine level.advance (le_max_right _ _) fun settled => ?_
    exact max_eq_right (notRaised (of_decide_eq_true enabled) settled)
  next notEnabled =>
    refine level.advanceDisabled ?_ mode
    have notIsEnabled : self.timeRegulationMode ≠ .timeRegulationEnabled :=
      fun enabled => notEnabled (decide_eq_true enabled)
    change self.timeRegulationMode = _
    cases mode : self.timeRegulationMode <;> simp_all

theorem outboundLevel_timeAdvanceRequest
    (self : TemplateTimeManagement) (logicalTime : Int)
    (mode : TimeAdvanceMode) :
    (self.timeAdvanceRequest logicalTime mode).outboundLevel =
      (self.prepareTimeAdvance logicalTime mode).outboundLevel := by
  unfold timeAdvanceRequest
  cases mode with
  | timeAdvanceGranted => rfl
  | timeAdvanceRequest => exact outboundLevel_requestTimeAdvance _
  | timeAdvanceRequestAvailable => exact outboundLevel_requestTimeAdvance _
  | nextMessageRequest => exact outboundLevel_requestNextMessage _
  | nextMessageRequestAvailable => exact outboundLevel_requestNextMessage _
  | flushQueueRequest => exact outboundLevel_requestFlushQueue _

theorem modifyLookahead_level
    (level : self.outboundLevel.Level)
    {lookahead : Int}
    (notRaised :
      requestedBound { self with targetLookahead := lookahead }
          self.logicalTime.first ≤ self.outboundLowerBoundTimeStamp) :
    (self.modifyLookahead lookahead).outboundLevel.Level := by
  unfold modifyLookahead
  dsimp only
  rw [outboundLevel_sendCommitLowerBoundTimeStampPairIfChanged,
    outboundLevel_setOutboundLowerTimeStampAndCurrentLookahead]
  exact level.advance (le_max_right _ _) fun _ => max_eq_right notRaised

/-- A grant that does not raise the bound takes it back to the last one. -/
theorem acceptTimeAdvanceGranted_level
    (granted :
      self.timeRegulationMode = .timeRegulationEnablePending →
        self.timeAdvanceMode = .timeAdvanceGranted)
    (level : self.outboundLevel.Level)
    (notRaised :
      self.outboundLevel.early = true →
        self.timeRegulationMode = .timeRegulationEnabled →
          self.requestedBound self.pendingLogicalTime.first ≤
            self.lastOutboundLowerBoundTimeStamp) :
    self.acceptTimeAdvanceGranted.outboundLevel.Level := by
  unfold acceptTimeAdvanceGranted
  dsimp only
  split
  next corrected =>
    rw [Bool.and_eq_true] at corrected
    have enabled : self.timeRegulationMode = .timeRegulationEnabled :=
      of_decide_eq_true corrected.2
    have view :=
      self.outboundLevel_setOutboundLowerTimeStampAndCurrentLookahead
        self.pendingLogicalTime.first self.lastOutboundLowerBoundTimeStamp
    rw [max_eq_right (notRaised corrected.1 enabled)] at view
    have after := congrArg
      (fun view : OutboundLevel =>
        { view with timeAdvanceMode := .timeAdvanceGranted }) view
    exact Eq.mpr (congrArg OutboundLevel.Level after) (level.grant enabled)
  next notCorrected =>
    refine level.grantLevel fun regulating => ?_
    by_contra early
    have isEarly : self.outboundLevel.early = true :=
      eq_true_of_ne_false early
    have notEnabled : self.timeRegulationMode ≠ .timeRegulationEnabled :=
      fun enabled => notCorrected
        (Bool.and_eq_true _ _ ▸ ⟨isEarly, decide_eq_true enabled⟩)
    cases mode : self.timeRegulationMode with
    | timeRegulationDisabled => exact regulating mode
    | timeRegulationEnabled => exact notEnabled mode
    | timeRegulationEnablePending =>
        simp [OutboundLevel.early, outboundLevel, granted mode] at isEarly

theorem sendGuard_checkForPendingFlushQueue (self : TemplateTimeManagement) :
    self.checkForPendingFlushQueue.sendGuard = self.sendGuard := by
  unfold checkForPendingFlushQueue
  split
  · exact self.sendGuard_queueMessage self.pendingLogicalTime
      .timeAdvanceGranted
  · rfl

theorem sendGuard_cleanOldestMessageLists (self : TemplateTimeManagement) :
    self.cleanOldestMessageLists.sendGuard = self.sendGuard := by
  unfold cleanOldestMessageLists
  rw [sendGuard_checkForPendingFlushQueue, sendGuard_dropEmptyLists,
    sendGuard_checkForPendingFlushQueue]

variable {after : TemplateTimeManagement}

/-- Taking a message off the queue does not change what its grant asks for. -/
theorem requestedBound_of_popped
    {message : QueuedMessage}
    (popped :
      self.cleanOldestMessageLists.popTimeStampOrderMessage =
        (after, some message)) :
    after.requestedBound after.pendingLogicalTime.first =
      self.requestedBound self.pendingLogicalTime.first := by
  have view := sendGuard_popTimeStampOrderMessage popped
  rw [sendGuard_cleanOldestMessageLists] at view
  have pending : self.pendingLogicalTime.first =
      after.pendingLogicalTime.first := congrArg SendGuard.pending view
  rw [requestedBound_eq, requestedBound_eq, view, pending]
  rfl

theorem dispatchCallback_level
    (consistent : self.sendGuard.Consistent)
    (level : self.outboundLevel.Level)
    (notRaised :
      self.dispatchCallback.2 = some .timeAdvanceGranted →
        self.outboundLevel.early = true →
          self.timeRegulationMode = .timeRegulationEnabled →
            self.requestedBound self.pendingLogicalTime.first ≤
              self.lastOutboundLowerBoundTimeStamp) :
    self.dispatchCallback.1.outboundLevel.Level := by
  rcases self.dispatchCallback_cases with
    ⟨message, rest, -, -, equal⟩ | equal | ⟨popped, message, taken, equal⟩
  · rw [equal]
    exact level
  · rw [equal, outboundLevel_cleanOldestMessageLists]
    exact level
  · have view : popped.outboundLevel = self.outboundLevel := by
      have poppedView :=
        self.cleanOldestMessageLists.outboundLevel_popTimeStampOrderMessage
      rwa [taken, outboundLevel_cleanOldestMessageLists] at poppedView
    have guard := sendGuard_popTimeStampOrderMessage taken
    rw [sendGuard_cleanOldestMessageLists] at guard
    have mode : popped.timeRegulationMode = self.timeRegulationMode :=
      congrArg OutboundLevel.timeRegulationMode view
    rw [equal] at notRaised ⊢
    cases message with
    | timeConstrainedEnabled => exact view ▸ level
    | timeStamped message => exact view ▸ level
    | receiveOrder message => exact view ▸ level
    | timeRegulationEnabled =>
        rw [guard] at consistent
        obtain ⟨pending, notWaiting, -⟩ :=
          consistent.queuedWhilePending (Nat.succ_pos _)
        exact (view ▸ level).enabled pending notWaiting
    | timeAdvanceGranted =>
        refine acceptTimeAdvanceGranted_level ?_ (view ▸ level) ?_
        · intro pending
          exact (congrArg OutboundLevel.timeAdvanceMode view).trans
            (consistent.enabling (mode.symm.trans pending)).1
        · intro early enabled
          rw [requestedBound_of_popped taken]
          exact (notRaised rfl (view ▸ early)
            (mode.symm.trans enabled)).trans
            (congrArg OutboundLevel.lastOutbound view).ge

/-! ## Enabling time regulation -/

theorem enableTimeRegulationAt_level
    (level : self.outboundLevel.Level)
    (disabled : self.timeRegulationMode = .timeRegulationDisabled)
    (logicalTime lookahead : Int) :
    (self.enableTimeRegulationAt logicalTime
      lookahead).outboundLevel.Level := by
  unfold enableTimeRegulationAt
  dsimp only
  rw [outboundLevel_sendCommitLowerBoundTimeStampResponses,
    outboundLevel_send]
  have waiting : decide
      (Insert.insert self.federateHandle
        (self.timeRegulationEnableFederateHandleSet ∪
          self.federateHandleSet) ≠ ∅) = true :=
    decide_eq_true (Finset.insert_ne_empty _ _)
  have enabling := level.enable disabled
    ⟨(max self.logicalTime ⟨logicalTime, 0⟩).first + lookahead, 0⟩
  rw [← waiting] at enabling
  exact enabling

/-- While time regulation is being enabled no advance is pending. -/
theorem bounds_of_enabling
    (consistent : self.sendGuard.Consistent)
    (level : self.outboundLevel.Level)
    (pending : self.timeRegulationMode = .timeRegulationEnablePending) :
    self.lastOutboundLowerBoundTimeStamp =
      self.outboundLowerBoundTimeStamp := by
  have granted : self.timeAdvanceMode = .timeAdvanceGranted :=
    (consistent.enabling pending).1
  apply level.bounds
  · simp [outboundLevel, pending]
  · simp [OutboundLevel.early, outboundLevel, granted]

/-- Answers that are covered correct nothing. -/
theorem correctTimeRegulations_covered
    (self : TemplateTimeManagement) (answers : List (FederateHandle × Int))
    (covered :
      ∀ answer ∈ answers,
        answer.2 ≤ self.outboundLowerBoundTimeStamp.first) :
    answers.foldl (fun self entry => self.correctTimeRegulation entry.2)
      self = self := by
  induction answers with
  | nil => rfl
  | cons answer rest ih =>
      have first : self.correctTimeRegulation answer.2 = self :=
        if_pos (covered answer (List.mem_cons_self ..))
      rw [List.foldl_cons, first]
      exact ih fun other member =>
        covered other (List.mem_cons_of_mem _ member)

theorem checkTimeRegulationEnabled_level
    (pending : self.timeRegulationMode = .timeRegulationEnablePending)
    (bounds :
      self.lastOutboundLowerBoundTimeStamp =
        self.outboundLowerBoundTimeStamp)
    (covered :
      ∀ answer ∈ self.outboundLevel.answers,
        answer.2 ≤ self.outboundLowerBoundTimeStamp.first) :
    self.checkTimeRegulationEnabled.outboundLevel.Level := by
  unfold checkTimeRegulationEnabled
  split
  next notPending =>
    simp [getTimeRegulationEnablePending, pending] at notPending
  next =>
    split
    next waiting =>
      refine .complete pending bounds covered fun notWaiting => ?_
      exact absurd waiting (of_decide_eq_false notWaiting)
    next answered =>
      dsimp only
      rw [self.correctTimeRegulations_covered
          self.timeRegulationEnableFederateHandleTimeStampMap.entries covered,
        outboundLevel_queueMessage]
      exact .complete pending bounds (by intro answer member; cases member)
        fun _ => rfl

variable {federateHandle : FederateHandle}

/-- A federate is waited for only while time regulation is being enabled. -/
theorem enabling_of_mem
    (level : self.outboundLevel.Level)
    (member :
      federateHandle ∈ self.timeRegulationEnableFederateHandleSet) :
    self.timeRegulationMode = .timeRegulationEnablePending :=
  level.enabling (decide_eq_true (Finset.ne_empty_of_mem member))

theorem acceptJoinFederateNotify_level
    (level : self.outboundLevel.Level) (federateHandle : FederateHandle) :
    (self.acceptJoinFederateNotify federateHandle).outboundLevel.Level := by
  unfold acceptJoinFederateNotify
  dsimp only
  split
  next waiting =>
    exact
      { bounds := level.bounds
        enabling := fun _ => enabling_of_mem level waiting
        answered := fun notWaiting =>
          absurd (Finset.insert_ne_empty _ _) (of_decide_eq_false notWaiting)
        covered := level.covered }
  next => exact level

/-- What is left of the answers was among them before. -/
theorem mem_entries_of_mem_erase
    {answers : OrderedMap FederateHandle Int}
    {answer : FederateHandle × Int}
    (member : answer ∈ (answers.erase federateHandle).entries) :
    answer ∈ answers.entries := by
  have found := OrderedMap.find?_eq_some_iff.mpr member
  rw [OrderedMap.find?_erase] at found
  split at found
  · cases found
  · exact OrderedMap.find?_eq_some_iff.mp found

section

variable (consistent : self.sendGuard.Consistent)
include consistent

theorem removeFederateFromTimeManagement_level
    (level : self.outboundLevel.Level) (federateHandle : FederateHandle) :
    (self.removeFederateFromTimeManagement
      federateHandle).outboundLevel.Level := by
  unfold removeFederateFromTimeManagement
  dsimp only
  rw [outboundLevel_checkForPendingTimeAdvance,
    outboundLevel_sendLockedByNextMessageRequestIfChanged]
  have covered : ∀ answer ∈
      (self.timeRegulationEnableFederateHandleTimeStampMap.erase
        federateHandle).entries,
      answer.2 ≤ self.outboundLowerBoundTimeStamp.first := by
    intro answer member
    exact level.covered answer (mem_entries_of_mem_erase member)
  split
  next waiting =>
    have pending := enabling_of_mem level waiting
    have bounds := bounds_of_enabling consistent level pending
    exact checkTimeRegulationEnabled_level pending bounds covered
  next =>
    exact
      { bounds := level.bounds
        enabling := level.enabling
        answered := fun notWaiting => by
          have noAnswer :
              self.timeRegulationEnableFederateHandleTimeStampMap.entries =
                [] := level.answered notWaiting
          apply List.eq_nil_iff_forall_not_mem.mpr
          intro answer member
          have before := mem_entries_of_mem_erase member
          rw [noAnswer] at before
          exact List.not_mem_nil before
        covered := covered }

theorem acceptEnableTimeRegulationRequest_level
    (level : self.outboundLevel.Level) (federateHandle : FederateHandle)
    (timeStamp : Int) (commitId : Unsigned) :
    (self.acceptEnableTimeRegulationRequest federateHandle timeStamp
      commitId).outboundLevel.Level := by
  unfold acceptEnableTimeRegulationRequest
  split
  next =>
    split
    next => exact level
    next enabling =>
      have pending :
          self.timeRegulationMode = .timeRegulationEnablePending := by
        simpa [getTimeRegulationEnablePending] using enabling
      have bounds := bounds_of_enabling consistent level pending
      exact checkTimeRegulationEnabled_level pending bounds level.covered
  next =>
    dsimp only
    rw [outboundLevel_sendLockedByNextMessageRequestIfChanged]
    split <;> exact level

/-- An answer within the current bound keeps the bounds level. -/
theorem acceptEnableTimeRegulationResponse_level
    (level : self.outboundLevel.Level) (responding : FederateHandle)
    (timeStamp : Int) (timeStampValid : Bool)
    (notRaised :
      self.getTimeRegulationEnablePending = true → timeStampValid = true →
        timeStamp ≤ self.outboundLowerBoundTimeStamp.first) :
    (self.acceptEnableTimeRegulationResponse responding timeStamp
      timeStampValid).outboundLevel.Level := by
  unfold acceptEnableTimeRegulationResponse
  split
  next => exact level
  next notNotEnabling =>
    have enabling : self.getTimeRegulationEnablePending = true := by
      simpa using notNotEnabling
    have pending : self.timeRegulationMode = .timeRegulationEnablePending :=
      of_decide_eq_true enabling
    have covered : ∀ answer ∈
        (if timeStampValid then
          self.timeRegulationEnableFederateHandleTimeStampMap.set responding
            timeStamp
        else self.timeRegulationEnableFederateHandleTimeStampMap).entries,
        answer.2 ≤ self.outboundLowerBoundTimeStamp.first := by
      intro answer member
      split at member
      next valid =>
        have found := OrderedMap.find?_eq_some_iff.mpr member
        rw [OrderedMap.find?_set] at found
        split at found
        · cases found
          exact notRaised enabling valid
        · exact level.covered answer (OrderedMap.find?_eq_some_iff.mp found)
      next => exact level.covered answer member
    have view := outboundLevel_sendLockedByNextMessageRequestIfChanged
      { self with
        timeRegulationEnableFederateHandleTimeStampMap :=
          if timeStampValid then
            self.timeRegulationEnableFederateHandleTimeStampMap.set responding
              timeStamp
          else self.timeRegulationEnableFederateHandleTimeStampMap
        timeRegulationEnableFederateHandleSet :=
          self.timeRegulationEnableFederateHandleSet.erase responding }
      self.getLockedByNextMessage
    have outbound := congrArg OutboundLevel.outbound view
    have bounds := bounds_of_enabling consistent level pending
    refine checkTimeRegulationEnabled_level
      ((congrArg OutboundLevel.timeRegulationMode view).trans pending)
      ((congrArg OutboundLevel.lastOutbound view).trans
        (bounds.trans outbound.symm)) ?_
    intro answer member
    rw [view] at member
    exact (covered answer member).trans
      (congrArg LogicalTimePair.first outbound).ge

/-- Every message but an answer above the current bound keeps the bounds
level. -/
theorem acceptInternalMessage_level
    (level : self.outboundLevel.Level)
    {message : Message}
    (notRaised :
      ∀ federateHandle responding timeStamp,
        message = .enableTimeRegulationResponse federateHandle responding
            timeStamp true →
          self.getTimeRegulationEnablePending = true →
            timeStamp ≤ self.outboundLowerBoundTimeStamp.first)
    (accepted : self.acceptInternalMessage message = some after) :
    after.outboundLevel.Level := by
  cases message with
  | joinFederationExecutionResponse federateHandle =>
      cases accepted
      exact level
  | joinFederateNotify federateHandle =>
      cases accepted
      exact acceptJoinFederateNotify_level level federateHandle
  | resignFederateNotify federateHandle =>
      cases accepted
      exact removeFederateFromTimeManagement_level consistent level
        federateHandle
  | enableTimeRegulationRequest federateHandle timeStamp commitId =>
      cases accepted
      exact acceptEnableTimeRegulationRequest_level consistent level _ _ _
  | enableTimeRegulationResponse federateHandle responding timeStamp valid =>
      cases accepted
      refine acceptEnableTimeRegulationResponse_level consistent level _ _ _ ?_
      intro enabling isValid
      rw [isValid] at notRaised
      exact notRaised _ _ _ rfl enabling
  | disableTimeRegulationRequest federateHandle =>
      cases accepted
      unfold acceptDisableTimeRegulationRequest
      rwa [outboundLevel_checkForPendingTimeAdvance,
        outboundLevel_sendLockedByNextMessageRequestIfChanged]
  | enableTimeConstrainedNotify federateHandle =>
      cases accepted
      exact level
  | disableTimeConstrainedNotify federateHandle =>
      cases accepted
      exact level
  | commitLowerBoundTimeStamp federateHandle timeStamp commitType commitId =>
      obtain ⟨result, -, equal⟩ := Option.map_eq_some_iff.mp accepted
      rw [← equal, outboundLevel_checkForPendingTimeAdvance,
        outboundLevel_sendLockedByNextMessageRequestIfChanged]
      split
      · rwa [outboundLevel_sendCommitLowerBoundTimeStampResponse]
      · exact level
  | commitLowerBoundTimeStampResponse federateHandle sending commitId =>
      cases accepted
      unfold acceptCommitLowerBoundTimeStampResponse
      rwa [outboundLevel_checkForPendingTimeAdvance,
        outboundLevel_sendLockedByNextMessageRequestIfChanged]
  | lockedByNextMessageRequest sending locked =>
      cases accepted
      unfold acceptLockedByNextMessageRequest
      rwa [outboundLevel_checkForPendingTimeAdvance,
        outboundLevel_sendLockedByNextMessageRequestIfChanged]
  | timeStamped stamped =>
      cases accepted
      rwa [outboundLevel_queueTimeStampedMessage]
  | receiveOrder message =>
      cases accepted
      exact level

end

end TemplateTimeManagement
end TimeManagement
end OpenRTI
