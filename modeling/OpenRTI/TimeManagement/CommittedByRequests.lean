import OpenRTI.TimeManagement.CommitEffects

/-!
# What the requests commit

For each mode of a time advance request the bounds that it commits, from the
state before it.  What is committed is also told: the commits among the messages
that the request sends lead the others from the bounds that were committed
before to those that are now.
-/

namespace OpenRTI
namespace TimeManagement

/-! ## What messages tell -/

/-- The bounds of a federate after a message to the others. -/
def CommittedBounds.tell
    (federateHandle : FederateHandle)
    (bounds : CommittedBounds) : Message → CommittedBounds
  | .commitLowerBoundTimeStamp sending logicalTime commitType _ =>
      if sending = federateHandle then bounds.commit logicalTime commitType
      else bounds
  | _ => bounds

theorem CommitMessages.foldl_tell
    {federateHandle : FederateHandle} {before after : CommittedBounds}
    {messages : List Message}
    (told : CommitMessages federateHandle before after messages) :
    messages.foldl (CommittedBounds.tell federateHandle) before = after := by
  cases told with
  | none => rfl
  | one logicalTime commitType commitId advances =>
      rw [List.foldl_cons, List.foldl_nil, CommittedBounds.tell, if_pos rfl]

namespace TemplateTimeManagement

/-- The federate has committed the given bounds, and what it has sent since the
state before tells them. -/
def TellsBounds
    (self after : TemplateTimeManagement)
    (bounds : CommittedBounds) : Prop :=
  after.committedBounds = bounds ∧
    ∃ messages, after.sent = self.sent ++ messages ∧
      messages.foldl (CommittedBounds.tell self.federateHandle)
        self.committedBounds = bounds

section

variable {self after : TemplateTimeManagement} {bounds : CommittedBounds}

theorem tellsBounds_self (self : TemplateTimeManagement) :
    self.TellsBounds self self.committedBounds :=
  ⟨rfl, [], (List.append_nil _).symm, rfl⟩

theorem Commits.tellsBounds (commits : self.Commits after bounds) :
    self.TellsBounds after bounds := by
  obtain ⟨commitId, messages, rfl, told⟩ := commits
  exact ⟨rfl, messages, rfl, told.foldl_tell⟩

/-- What is committed later is told later. -/
theorem TellsBounds.trans
    {between : TemplateTimeManagement} {earlier : CommittedBounds}
    (first : self.TellsBounds between earlier)
    (same : between.federateHandle = self.federateHandle)
    (second : between.TellsBounds after bounds) :
    self.TellsBounds after bounds := by
  obtain ⟨committed, firstMessages, firstSent, firstTold⟩ := first
  obtain ⟨isCommitted, secondMessages, secondSent, secondTold⟩ := second
  refine ⟨isCommitted, firstMessages ++ secondMessages, ?_, ?_⟩
  · rw [secondSent, firstSent, List.append_assoc]
  · rw [List.foldl_append, firstTold, ← committed, ← same]
    exact secondTold

/-- A commit that is not below what is committed for time advances. -/
theorem sendCommitLowerBoundTimeStampIfChanged_tellsBounds
    (self : TemplateTimeManagement) (logicalTime : Int)
    (commitType : LowerBoundTimeStampCommitType) :
    self.TellsBounds
      (self.sendCommitLowerBoundTimeStampIfChanged logicalTime commitType)
      (if self.committedOutboundLowerBoundTimeStamp ≤ logicalTime then
        self.committedBounds.commit logicalTime commitType
      else self.committedBounds) := by
  split
  next advances =>
    exact (self.sendCommitLowerBoundTimeStampIfChanged_commits logicalTime
      commitType advances).tellsBounds
  next below =>
    have skipped : self.sendCommitLowerBoundTimeStampIfChanged logicalTime
        commitType = self := by
      rw [sendCommitLowerBoundTimeStampIfChanged, if_pos (not_le.mp below)]
    rw [skipped]
    exact self.tellsBounds_self

end

/-! ## The requests -/

/-- A logical time, but not beyond a least bound. -/
def limitedBy (least : Option Int) (logicalTime : Int) : Int :=
  match least with
  | none => logicalTime
  | some bound => min bound logicalTime

/-- The time that a next message request of a constrained federate commits its
lookahead for at once: as far as the others have committed. -/
def nextMessageAdvance
    (self : TemplateTimeManagement)
    (logicalTime : Int) : Int :=
  limitedBy self.federateLowerBoundMap.getGALT
    (self.nextMessageTime logicalTime)

/-- The time that a flush queue request advances to: the least queued time stamp
or the least bound of the others, if that is earlier. -/
def flushQueueTime
    (self : TemplateTimeManagement)
    (logicalTime : Int) : Int :=
  if self.getTimeConstrainedEnabled then
    match self.federateLowerBoundMap.getGALT with
    | none => self.nextMessageTime logicalTime
    | some galt =>
        if galt < self.nextMessageTime logicalTime then
          max self.logicalTime.first galt
        else self.nextMessageTime logicalTime
  else logicalTime

/-- The bounds that a next message request commits.  Only a federate that is
constrained, or has an advance left to be scheduled, commits any. -/
def committedByNextMessage
    (limit : Int → Int)
    (self requested : TemplateTimeManagement)
    (logicalTime : Int) : CommittedBounds :=
  let committed := self.committedOutboundLowerBoundTimeStamp
  let nextMessage :=
    max (limit (requested.lowerBoundAt (self.nextMessageTime logicalTime)))
      committed
  if self.getTimeConstrainedEnabled then
    ⟨max
        (limit
          (requested.lowerBoundAt (self.nextMessageAdvance logicalTime)))
        committed,
      nextMessage⟩
  else if self.timeAdvanceToBeScheduled then ⟨committed, nextMessage⟩
  else self.committedBounds

/-- The bounds that a time advance request commits.  Sums of times and lookaheads
are limited as the additions do. -/
def committedByRequest
    (limit : Int → Int)
    (self : TemplateTimeManagement)
    (logicalTime : Int)
    (mode : Ambassador.RequestMode) : CommittedBounds :=
  let requested := { self with timeAdvanceMode := mode.toTimeAdvanceMode }
  let committed := self.committedOutboundLowerBoundTimeStamp
  if self.getTimeRegulationEnabled then
    match mode with
    | .timeAdvanceRequest | .timeAdvanceRequestAvailable =>
        let bound :=
          max (limit (requested.lowerBoundAt logicalTime))
            (limit self.outboundLowerBoundTimeStamp.toLogicalTime)
        if committed ≤ bound then ⟨bound, bound⟩ else self.committedBounds
    | .nextMessageRequest | .nextMessageRequestAvailable =>
        committedByNextMessage limit self requested logicalTime
    | .flushQueueRequest =>
        let bound :=
          max
            (limit (self.flushQueueTime logicalTime + self.targetLookahead))
            committed
        ⟨bound, bound⟩
  else self.committedBounds

section

variable (self : TemplateTimeManagement)

/-- What stays within a least bound is not limited by it. -/
theorem limitedBy_eq (least : Option Int) (logicalTime : Int) :
    limitedBy least logicalTime =
      if FederateHandleLowerBoundTimeStampMap.staysWithin least logicalTime 0
      then logicalTime
      else least.getD logicalTime := by
  cases least with
  | none => rfl
  | some bound =>
      simp only [FederateHandleLowerBoundTimeStampMap.staysWithin,
        lt_irrefl, if_false, decide_eq_true_eq, Option.getD_some, limitedBy]
      rw [min_comm, min_def]

theorem requestTimeAdvance_tellsBounds :
    self.TellsBounds self.requestTimeAdvance
      (if self.getTimeRegulationEnabled then
        let bound := self.outboundLowerBoundTimeStamp.toLogicalTime
        if self.committedOutboundLowerBoundTimeStamp ≤ bound then
          ⟨bound, bound⟩
        else self.committedBounds
      else self.committedBounds) := by
  unfold requestTimeAdvance
  dsimp only
  split
  next =>
    rw [sendCommitLowerBoundTimeStampPairIfChanged_eq]
    exact self.sendCommitLowerBoundTimeStampIfChanged_tellsBounds
      self.outboundLowerBoundTimeStamp.toLogicalTime
      .timeAdvanceAndNextMessageCommit
  next => exact self.tellsBounds_self

/-- A grant commits for time advances and next message requests, and a request
that is held back commits the least bound for time advances. -/
theorem advanceOrCommit_tellsBounds (least : Option Int) :
    self.TellsBounds
      (self.advanceOrCommit
        (FederateHandleLowerBoundTimeStampMap.staysWithin least
          self.pendingLogicalTime.first 0) least)
      (if self.getTimeRegulationEnabled then
        ⟨max
            (self.lowerBoundAt
              (limitedBy least self.pendingLogicalTime.first))
            self.committedOutboundLowerBoundTimeStamp,
          if FederateHandleLowerBoundTimeStampMap.staysWithin least
              self.pendingLogicalTime.first 0 then
            max (self.lowerBoundAt self.pendingLogicalTime.first)
              self.committedOutboundLowerBoundTimeStamp
          else self.committedNextMessageLowerBoundTimeStamp⟩
      else self.committedBounds) := by
  rw [limitedBy_eq]
  unfold advanceOrCommit
  split
  next within =>
    dsimp only
    by_cases enabled : self.getTimeRegulationEnabled = true
    · have scheduledEnabled :
          self.scheduleTimeAdvanceGranted.getTimeRegulationEnabled = true :=
        enabled
      rw [if_pos scheduledEnabled, if_pos enabled]
      exact (sendCommitLowerBoundTimeStampLookaheadIfChanged_commits
        self.scheduleTimeAdvanceGranted self.pendingLogicalTime.first
        .timeAdvanceAndNextMessageCommit).tellsBounds
    · have scheduledDisabled :
          ¬ self.scheduleTimeAdvanceGranted.getTimeRegulationEnabled = true :=
        enabled
      rw [if_neg scheduledDisabled, if_neg enabled]
      exact self.tellsBounds_self
  next blocked =>
    split
    next =>
      cases bounded : least with
      | none =>
          rw [bounded] at blocked
          exact absurd rfl blocked
      | some bound =>
          exact (self.sendCommitLowerBoundTimeStampLookaheadIfChanged_commits
            bound .timeAdvanceCommit).tellsBounds
    next => exact self.tellsBounds_self

/-- The check of a next message request whose grant is to be scheduled. -/
theorem checkForPendingTimeAdvance_eq_advanceOrCommit
    {self : TemplateTimeManagement}
    (scheduled : self.timeAdvanceToBeScheduled = true)
    (nextMessage : self.getIsAnyNextMessageMode = true) :
    self.checkForPendingTimeAdvance false =
      self.advanceOrCommit
        (FederateHandleLowerBoundTimeStampMap.staysWithin
          self.federateLowerBoundMap.getGALT self.pendingLogicalTime.first 0)
        self.federateLowerBoundMap.getGALT := by
  unfold checkForPendingTimeAdvance
  rw [scheduled, nextMessage]
  rfl

/-- The check of a next message request that has committed its pending time for
next message requests. -/
theorem checkForPendingTimeAdvance_tellsBounds
    {self : TemplateTimeManagement}
    (scheduled : self.timeAdvanceToBeScheduled = true)
    (nextMessage : self.getIsAnyNextMessageMode = true)
    (enabled : self.getTimeRegulationEnabled = true)
    (committed :
      self.committedNextMessageLowerBoundTimeStamp =
        max (self.lowerBoundAt self.pendingLogicalTime.first)
          self.committedOutboundLowerBoundTimeStamp) :
    self.TellsBounds (self.checkForPendingTimeAdvance false)
      ⟨max
          (self.lowerBoundAt
            (limitedBy self.federateLowerBoundMap.getGALT
              self.pendingLogicalTime.first))
          self.committedOutboundLowerBoundTimeStamp,
        max (self.lowerBoundAt self.pendingLogicalTime.first)
          self.committedOutboundLowerBoundTimeStamp⟩ := by
  have told := self.advanceOrCommit_tellsBounds
    self.federateLowerBoundMap.getGALT
  rw [checkForPendingTimeAdvance_eq_advanceOrCommit scheduled nextMessage]
  rwa [if_pos enabled, committed, ite_self] at told

/-- A limited next message request commits for next message requests, and is
checked then. -/
theorem limitedRequest_tellsBounds
    {self : TemplateTimeManagement}
    (scheduled : self.timeAdvanceToBeScheduled = true)
    (nextMessage : self.getIsAnyNextMessageMode = true) :
    self.TellsBounds
      ((if self.getTimeRegulationEnabled then
          self.sendCommitLowerBoundTimeStampLookaheadIfChanged
            self.pendingLogicalTime.first self.targetLookahead
            .nextMessageCommit
        else self).checkForPendingTimeAdvance false)
      (if self.getTimeRegulationEnabled then
        ⟨max
            (self.lowerBoundAt
              (limitedBy self.federateLowerBoundMap.getGALT
                self.pendingLogicalTime.first))
            self.committedOutboundLowerBoundTimeStamp,
          max (self.lowerBoundAt self.pendingLogicalTime.first)
            self.committedOutboundLowerBoundTimeStamp⟩
      else self.committedBounds) := by
  split
  next enabled =>
    have commits := self.sendCommitLowerBoundTimeStampLookaheadIfChanged_commits
      self.pendingLogicalTime.first .nextMessageCommit
    have first := commits.tellsBounds
    obtain ⟨commitId, messages, equal, -⟩ := commits
    rw [equal] at first ⊢
    refine first.trans rfl ?_
    exact @checkForPendingTimeAdvance_tellsBounds
      (self.withCommit (self.committedBounds.commit
        (max (self.lowerBoundAt self.pendingLogicalTime.first)
          self.committedOutboundLowerBoundTimeStamp)
        .nextMessageCommit) commitId messages)
      scheduled nextMessage enabled rfl
  next notEnabled =>
    have told := self.advanceOrCommit_tellsBounds
      self.federateLowerBoundMap.getGALT
    rw [checkForPendingTimeAdvance_eq_advanceOrCommit scheduled nextMessage]
    rwa [if_neg notEnabled] at told

theorem requestNextMessage_tellsBounds
    {self : TemplateTimeManagement}
    (nextMessage : self.getIsAnyNextMessageMode = true) :
    self.TellsBounds self.requestNextMessage
      (if self.getTimeRegulationEnabled then
        let bound :=
          max
            (self.lowerBoundAt
              (self.nextMessageTime self.pendingLogicalTime.first))
            self.committedOutboundLowerBoundTimeStamp
        if self.getTimeConstrainedEnabled then
          ⟨max
              (self.lowerBoundAt
                (self.nextMessageAdvance self.pendingLogicalTime.first))
              self.committedOutboundLowerBoundTimeStamp,
            bound⟩
        else if self.timeAdvanceToBeScheduled then
          ⟨self.committedOutboundLowerBoundTimeStamp, bound⟩
        else self.committedBounds
      else self.committedBounds) := by
  unfold requestNextMessage
  split
  next constrained =>
    rw [limitPendingLogicalTime_withPending constrained]
    exact @limitedRequest_tellsBounds
      { self.withPending
          ⟨self.nextMessageTime self.pendingLogicalTime.first,
            self.pendingLogicalTime.second⟩ with
        timeAdvanceToBeScheduled := true } rfl nextMessage
  next notConstrained =>
    rw [nextMessageTime, if_neg notConstrained]
    split
    next commits =>
      rw [Bool.and_eq_true] at commits
      rw [if_pos commits.1, if_pos commits.2]
      exact (self.sendCommitLowerBoundTimeStampLookaheadIfChanged_commits
        self.pendingLogicalTime.first .nextMessageCommit).tellsBounds
    next notCommits =>
      have unchanged := self.tellsBounds_self
      cases enabled : self.getTimeRegulationEnabled with
      | false => exact unchanged
      | true =>
          cases scheduled : self.timeAdvanceToBeScheduled with
          | false => exact unchanged
          | true =>
              rw [enabled, scheduled] at notCommits
              exact absurd rfl notCommits

/-- A pending time that can not be advanced to is lowered to the least bound, but
not below the logical time. -/
theorem boundPendingLogicalTime_first
    (constrained : self.getTimeConstrainedEnabled = true) :
    self.boundPendingLogicalTime.pendingLogicalTime.first =
      match self.federateLowerBoundMap.getGALT with
      | none => self.pendingLogicalTime.first
      | some galt =>
          if galt < self.pendingLogicalTime.first then
            max self.logicalTime.first galt
          else self.pendingLogicalTime.first := by
  unfold boundPendingLogicalTime canAdvanceTo
    FederateHandleLowerBoundTimeStampMap.canAdvanceTo
  rw [constrained, Bool.true_and]
  cases least : self.federateLowerBoundMap.getGALT with
  | none => rfl
  | some galt =>
      simp only [FederateHandleLowerBoundTimeStampMap.staysWithin, lt_irrefl,
        if_false, Bool.not_eq_true', decide_eq_false_iff_not, not_le]
      split
      next =>
        exact LogicalTimePair.max_first self.logicalTime
          ⟨galt, self.pendingLogicalTime.second⟩
      next => rfl

/-- The pending time of a flush queue request. -/
theorem flushQueuePending_first :
    (if self.getTimeConstrainedEnabled then self.limitPendingLogicalTime
      else self).boundPendingLogicalTime.pendingLogicalTime.first =
      self.flushQueueTime self.pendingLogicalTime.first := by
  rw [flushQueueTime]
  split
  next constrained =>
    rw [limitPendingLogicalTime_withPending constrained]
    exact boundPendingLogicalTime_first _ constrained
  next notConstrained =>
    rw [boundPendingLogicalTime, eq_false_of_ne_true notConstrained]
    rfl

/-- Limiting and bounding the pending time of a flush queue request changes
nothing else. -/
theorem flushQueuePending_eq :
    ∃ pending,
      (if self.getTimeConstrainedEnabled then self.limitPendingLogicalTime
        else self).boundPendingLogicalTime = self.withPending pending := by
  have limited : ∃ pending,
      (if self.getTimeConstrainedEnabled then self.limitPendingLogicalTime
        else self) = self.withPending pending := by
    split
    next =>
      obtain ⟨first, -, equal⟩ := self.limitPendingLogicalTime_eq
      exact ⟨_, equal⟩
    next => exact ⟨self.pendingLogicalTime, rfl⟩
  obtain ⟨pending, equal⟩ := limited
  rw [equal]
  unfold boundPendingLogicalTime
  split
  next =>
    split
    next => exact ⟨pending, rfl⟩
    next => exact ⟨_, rfl⟩
  next => exact ⟨pending, rfl⟩

theorem scheduleFlushQueue_tellsBounds :
    self.TellsBounds self.scheduleFlushQueue
      (if self.getTimeRegulationEnabled then
        let bound :=
          max (self.pendingLogicalTime.first + self.targetLookahead)
            self.committedOutboundLowerBoundTimeStamp
        ⟨bound, bound⟩
      else self.committedBounds) := by
  have scheduled : ∀ {committed : TemplateTimeManagement}
      {bounds : CommittedBounds},
      self.TellsBounds committed bounds →
        self.TellsBounds
          (if committed.getTimeConstrainedEnabled then
            { committed with timeAdvanceToBeScheduled := true }
          else
            committed.queueMessage committed.pendingLogicalTime
              .timeAdvanceGranted) bounds := by
    intro committed bounds told
    split
    next => exact told
    next => exact told
  unfold scheduleFlushQueue
  apply scheduled
  split
  next =>
    exact (self.sendCommitLowerBoundTimeStampIfChanged_commits _
      .timeAdvanceAndNextMessageCommit (le_max_right _ _)).tellsBounds
  next => exact self.tellsBounds_self

theorem requestFlushQueue_tellsBounds :
    self.TellsBounds self.requestFlushQueue
      (if self.getTimeRegulationEnabled then
        let bound :=
          max
            (self.flushQueueTime self.pendingLogicalTime.first +
              self.targetLookahead)
            self.committedOutboundLowerBoundTimeStamp
        ⟨bound, bound⟩
      else self.committedBounds) := by
  have first := self.flushQueuePending_first
  obtain ⟨pending, equal⟩ := self.flushQueuePending_eq
  unfold requestFlushQueue
  dsimp only
  rw [equal] at first ⊢
  rw [← first]
  exact (self.withPending pending).scheduleFlushQueue_tellsBounds

end

/-- The bound that an advance allows with the requested lookahead, as a logical
time. -/
theorem lowerBoundAt_eq_toLogicalTime
    (self : TemplateTimeManagement) (logicalTime : Int) :
    LogicalTimePair.toLogicalTime
        ⟨logicalTime + self.targetLookahead,
          self.getOutboundLowerTimeStampSecondField self.targetLookahead⟩ =
      self.lowerBoundAt logicalTime := by
  rw [LogicalTimePair.toLogicalTime_eq, lowerBoundAt]
  dsimp only
  rcases self.getOutboundLowerTimeStampSecondField_cases
    self.targetLookahead with second | second
  · simp [second]
  · simp [second]

/-- A time advance request commits its bounds and tells them. -/
theorem timeAdvanceRequest_tellsBounds
    {self : TemplateTimeManagement} {logicalTime : Int}
    (ahead : self.logicalTime.first ≤ logicalTime)
    (mode : Ambassador.RequestMode) :
    self.TellsBounds
      (self.timeAdvanceRequest logicalTime mode.toTimeAdvanceMode)
      (committedByRequest id self logicalTime mode) := by
  have pending :
      (self.prepareTimeAdvance logicalTime
        mode.toTimeAdvanceMode).pendingLogicalTime.first = logicalTime := by
    rw [prepareTimeAdvance_pendingLogicalTime]
    exact max_first_of_le ahead
  obtain ⟨outbound, last, lookahead, equal, isOutbound⟩ :=
    self.prepareTimeAdvance_eq logicalTime mode.toTimeAdvanceMode
  have bound : self.getTimeRegulationEnabled = true →
      outbound.toLogicalTime =
        max
          (TemplateTimeManagement.lowerBoundAt
            { self with timeAdvanceMode := mode.toTimeAdvanceMode }
            logicalTime)
          self.outboundLowerBoundTimeStamp.toLogicalTime := by
    intro enabled
    rw [isOutbound enabled, LogicalTimePair.toLogicalTime_max]
    exact congrArg (max · _) (lowerBoundAt_eq_toLogicalTime
      { self with timeAdvanceMode := mode.toTimeAdvanceMode } logicalTime)
  rw [equal] at pending
  unfold timeAdvanceRequest committedByRequest
  rw [equal]
  generalize max self.logicalTime _ = requested at pending ⊢
  have isPending : requested.first = logicalTime := pending
  subst isPending
  let prepared := self.withRequest mode.toTimeAdvanceMode requested outbound
    last lookahead
  have advance : self.TellsBounds prepared.requestTimeAdvance
      (if self.getTimeRegulationEnabled then
        let bound :=
          max
            (TemplateTimeManagement.lowerBoundAt
              { self with timeAdvanceMode := mode.toTimeAdvanceMode }
              requested.first)
            self.outboundLowerBoundTimeStamp.toLogicalTime
        if self.committedOutboundLowerBoundTimeStamp ≤ bound then
          ⟨bound, bound⟩
        else self.committedBounds
      else self.committedBounds) := by
    have told := prepared.requestTimeAdvance_tellsBounds
    by_cases enabled : self.getTimeRegulationEnabled = true
    · have same : prepared.getTimeRegulationEnabled = true := enabled
      have isBound : prepared.outboundLowerBoundTimeStamp.toLogicalTime = _ :=
        bound enabled
      rw [if_pos same, isBound] at told
      rw [if_pos enabled]
      exact told
    · have same : ¬ prepared.getTimeRegulationEnabled = true := enabled
      rw [if_neg same] at told
      rw [if_neg enabled]
      exact told
  cases mode with
  | timeAdvanceRequest => exact advance
  | timeAdvanceRequestAvailable => exact advance
  | nextMessageRequest =>
      exact @requestNextMessage_tellsBounds prepared rfl
  | nextMessageRequestAvailable =>
      exact @requestNextMessage_tellsBounds prepared rfl
  | flushQueueRequest => exact prepared.requestFlushQueue_tellsBounds

end TemplateTimeManagement
end TimeManagement
end OpenRTI
