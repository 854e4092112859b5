import OpenRTI.TimeManagement.SendGuard

/-!
# The operations keep the send guard's invariant

Each operation of time management changes the view of the send guard in one of
the ways that keep its invariant.
-/

namespace OpenRTI
namespace TimeManagement
namespace TemplateTimeManagement

open Foundation

variable {self : TemplateTimeManagement}

/-! ## Committing -/

/-- A commit that stays within the view's bounds keeps the invariant. -/
theorem Commits.consistent
    {after : TemplateTimeManagement} {bounds : CommittedBounds}
    (commits : self.Commits after bounds)
    (consistent : self.sendGuard.Consistent)
    (enabled : self.timeRegulationMode = .timeRegulationEnabled)
    (withinOutbound :
      bounds.timeAdvance ≤ self.outboundLowerBoundTimeStamp.toLogicalTime)
    (withinGranted :
      self.sendGuard.early = true →
        bounds.timeAdvance ≤ self.sendGuard.granted) :
    after.sendGuard.Consistent := by
  obtain ⟨equal, told⟩ := sendGuard_of_commits commits
  rw [equal]
  exact consistent.commit enabled (told (consistent.toldCommitted enabled))
    withinOutbound withinGranted

variable {logicalTime : Int}

section

variable (consistent : self.sendGuard.Consistent)
include consistent

/-- Committing what an advance to at most the pending time allows. -/
theorem sendCommitLookahead_consistent
    (enabled : self.timeRegulationMode = .timeRegulationEnabled)
    (early : self.sendGuard.early = true)
    (notBeyond : logicalTime ≤ self.pendingLogicalTime.first)
    (commitType : LowerBoundTimeStampCommitType) :
    (self.sendCommitLowerBoundTimeStampLookaheadIfChanged logicalTime
      self.targetLookahead commitType).sendGuard.Consistent := by
  have commits := self.sendCommitLowerBoundTimeStampLookaheadIfChanged_commits
    logicalTime commitType
  have bounds := consistent.withinGranted enabled early
  have within : self.sendGuard.boundAt logicalTime ≤ self.sendGuard.granted :=
    (self.sendGuard.boundAt_mono notBeyond).trans (le_max_right _ _)
  have timeAdvance :
      (self.committedBounds.commit
        (max (self.lowerBoundAt logicalTime)
          self.committedOutboundLowerBoundTimeStamp) commitType).timeAdvance ≤
        self.sendGuard.granted := by
    simp only [CommittedBounds.commit, committedBounds]
    split
    · exact max_le (self.boundAt_sendGuard logicalTime ▸ within) bounds.2
    · exact bounds.2
  exact commits.consistent consistent enabled (timeAdvance.trans bounds.1)
    fun _ => timeAdvance

/-- Queueing anything but the callback that enables time regulation keeps the
invariant. -/
theorem queueMessage_consistent
    (logicalTimePair : LogicalTimePair)
    {message : QueuedMessage}
    (different : message ≠ .timeRegulationEnabled) :
    (self.queueMessage logicalTimePair message).sendGuard.Consistent := by
  simpa [different] using consistent

theorem advanceOrCommit_consistent
    (early : self.sendGuard.early = true)
    {canAdvance : Bool} {galt : Option Int}
    (heldBack :
      canAdvance = false →
        ∀ bound, galt = some bound → bound ≤ self.pendingLogicalTime.first) :
    (self.advanceOrCommit canAdvance galt).sendGuard.Consistent := by
  cases canAdvance with
  | true =>
      have scheduled : self.scheduleTimeAdvanceGranted.sendGuard.Consistent :=
        queueMessage_consistent consistent _ (by simp)
      simp only [advanceOrCommit, if_true]
      split
      next enabled =>
        exact sendCommitLookahead_consistent scheduled
          (of_decide_eq_true enabled) early (le_refl _) _
      next => exact scheduled
  | false =>
      simp only [advanceOrCommit, Bool.false_eq_true, if_false]
      split
      next enabled =>
        cases least : galt with
        | none => exact consistent
        | some bound =>
            exact sendCommitLookahead_consistent consistent
              (of_decide_eq_true enabled) early (heldBack rfl bound least) _
      next => exact consistent

theorem checkForPendingTimeAdvance_consistent
    (allowNextMessage : Bool) :
    (self.checkForPendingTimeAdvance
      allowNextMessage).sendGuard.Consistent := by
  unfold checkForPendingTimeAdvance
  split
  next => exact consistent
  next =>
    split
    next nextMessage =>
      have early := early_of_nextMessageMode nextMessage
      split
      · exact advanceOrCommit_consistent consistent early
          fun blocked _ => heldBack_of_staysWithin blocked
      · exact advanceOrCommit_consistent consistent early
          fun blocked _ => heldBack_of_staysWithin blocked
    next => exact consistent

end

theorem advanceOutbound_sendGuard
    (self : TemplateTimeManagement) (logicalTime : Int)
    (last : LogicalTimePair) :
    self.sendGuard.advanceOutbound logicalTime last =
      max
        ⟨logicalTime + self.targetLookahead,
          self.getOutboundLowerTimeStampSecondField self.targetLookahead⟩
        last := by
  rw [SendGuard.advanceOutbound, second_sendGuard]
  rfl

@[simp] theorem sendGuard_setOutboundLowerTimeStampAndCurrentLookahead
    (self : TemplateTimeManagement) (logicalTime : Int)
    (last : LogicalTimePair) :
    (self.setOutboundLowerTimeStampAndCurrentLookahead logicalTime
        last).sendGuard =
      { self.sendGuard with
        outbound := self.sendGuard.advanceOutbound logicalTime last } := by
  rw [advanceOutbound_sendGuard]
  unfold setOutboundLowerTimeStampAndCurrentLookahead
  dsimp only
  split
  next below =>
    rw [max_eq_right below.le]
    rfl
  next notBelow =>
    rw [max_eq_left (not_lt.mp notBelow)]
    rfl

section

variable (consistent : self.sendGuard.Consistent)
include consistent

/-- Committing the outbound bound keeps the invariant while no request is
pending whose grant lowers it. -/
theorem sendCommitOutbound_consistent
    (enabled : self.timeRegulationMode = .timeRegulationEnabled)
    (settled : self.sendGuard.early = false) :
    (self.sendCommitLowerBoundTimeStampPairIfChanged
      self.outboundLowerBoundTimeStamp
      .timeAdvanceAndNextMessageCommit).sendGuard.Consistent := by
  rw [sendCommitLowerBoundTimeStampPairIfChanged_eq]
  refine (self.sendCommitLowerBoundTimeStampIfChanged_commits _ _
    (consistent.withinOutbound enabled)).consistent consistent enabled
    (le_refl _) ?_
  intro early
  rw [settled] at early
  cases early

/-! ## Calls -/

theorem enableTimeRegulationAt_consistent
    (disabled : self.timeRegulationMode = .timeRegulationDisabled)
    (granted : self.timeAdvanceMode = .timeAdvanceGranted)
    (logicalTime : Int)
    {lookahead : Int}
    (lookaheadNonneg : 0 ≤ lookahead) :
    (self.enableTimeRegulationAt logicalTime
      lookahead).sendGuard.Consistent := by
  unfold enableTimeRegulationAt
  dsimp only
  rw [sendGuard_sendCommitLowerBoundTimeStampResponses,
    sendGuard_send _ rfl]
  have waiting : decide
      (Insert.insert self.federateHandle
        (self.timeRegulationEnableFederateHandleSet ∪
          self.federateHandleSet) ≠ ∅) = true :=
    decide_eq_true (Finset.insert_ne_empty _ _)
  have enabling := consistent.enable disabled granted lookaheadNonneg
    (max self.logicalTime ⟨logicalTime, 0⟩).first
    ((max self.logicalTime ⟨logicalTime, 0⟩).first + lookahead)
  rw [← waiting] at enabling
  exact enabling

theorem disableTimeRegulation_consistent
    (enabled : self.timeRegulationMode = .timeRegulationEnabled) :
    self.disableTimeRegulation.sendGuard.Consistent := by
  unfold disableTimeRegulation
  rw [sendGuard_send _ rfl]
  exact consistent.disable enabled LogicalTimeFactory.initialLogicalTime

theorem enableTimeConstrained_consistent
    (granted : self.timeAdvanceMode = .timeAdvanceGranted) :
    self.enableTimeConstrained.sendGuard.Consistent := by
  have settled : self.sendGuard.early = false := by
    simp [SendGuard.early, sendGuard, granted]
  unfold enableTimeConstrained
  rw [sendGuard_send _ rfl]
  refine queueMessage_consistent ?_ _ (by simp)
  refine consistent.setPending ?_ ?_
  · intro _ early
    rw [settled] at early
    cases early
  · intro _ early
    rw [settled] at early
    cases early

theorem disableTimeConstrained_consistent :
    self.disableTimeConstrained.sendGuard.Consistent := by
  unfold disableTimeConstrained
  rw [sendGuard_send _ rfl]
  exact consistent

/-- A request keeps the invariant.  What is committed before it is covered by
the bound that is kept for the grant. -/
theorem prepareTimeAdvance_consistent
    (notPending :
      self.timeRegulationMode ≠ .timeRegulationEnablePending)
    (ahead : self.logicalTime.first ≤ logicalTime)
    (mode : TimeAdvanceMode) :
    (self.prepareTimeAdvance logicalTime mode).sendGuard.Consistent := by
  unfold prepareTimeAdvance
  dsimp only
  split
  next enabled =>
    have isEnabled : self.timeRegulationMode = .timeRegulationEnabled :=
      of_decide_eq_true enabled
    rw [sendGuard_setOutboundLowerTimeStampAndCurrentLookahead]
    exact consistent.advance isEnabled mode consistent.lookaheadNonneg rfl
      fun _ => (max_first_of_le ahead).le
  next notEnabled =>
    have disabled : self.timeRegulationMode = .timeRegulationDisabled := by
      have notIsEnabled : self.timeRegulationMode ≠ .timeRegulationEnabled :=
        fun enabled => notEnabled (decide_eq_true enabled)
      cases mode : self.timeRegulationMode <;> simp_all
    exact consistent.advanceDisabled disabled mode _

/-- After a request the bound kept for the grant covers what is committed. -/
theorem prepareTimeAdvance_covered
    (logicalTime : Int) (mode : TimeAdvanceMode)
    (enabled :
      (self.prepareTimeAdvance logicalTime mode).sendGuard.timeRegulationMode =
        .timeRegulationEnabled) :
    (self.prepareTimeAdvance logicalTime mode).sendGuard.committed ≤
      (self.prepareTimeAdvance logicalTime
        mode).sendGuard.lastOutbound.toLogicalTime := by
  unfold prepareTimeAdvance at enabled ⊢
  dsimp only at enabled ⊢
  split
  next isEnabled =>
    rw [sendGuard_setOutboundLowerTimeStampAndCurrentLookahead]
    exact consistent.withinOutbound (of_decide_eq_true isEnabled)
  next notEnabled =>
    rw [if_neg notEnabled] at enabled
    exact absurd (decide_eq_true enabled) notEnabled

theorem requestTimeAdvance_consistent
    (settled : self.sendGuard.early = false) :
    self.requestTimeAdvance.sendGuard.Consistent := by
  unfold requestTimeAdvance
  refine queueMessage_consistent ?_ _ (by simp)
  split
  next enabled =>
    exact sendCommitOutbound_consistent consistent (of_decide_eq_true enabled)
      settled
  next => exact consistent

theorem requestNextMessage_consistent
    (early : self.sendGuard.early = true)
    (covered :
      self.timeRegulationMode = .timeRegulationEnabled →
        self.sendGuard.committed ≤
          self.sendGuard.lastOutbound.toLogicalTime) :
    self.requestNextMessage.sendGuard.Consistent := by
  unfold requestNextMessage
  split
  next constrained =>
    refine checkForPendingTimeAdvance_consistent ?_ false
    obtain ⟨first, lower, equal⟩ := self.limitPendingLogicalTime_eq
    rw [equal]
    have lowered :
        ({ self.withPending ⟨first, self.pendingLogicalTime.second⟩ with
          timeAdvanceToBeScheduled := true } :
            TemplateTimeManagement).sendGuard.Consistent :=
      consistent.lowerPending lower fun enabled _ =>
        (covered enabled).trans (le_max_left _ _)
    dsimp only
    split
    next enabled =>
      exact sendCommitLookahead_consistent lowered
        (of_decide_eq_true enabled) early (le_refl first) _
    next => exact lowered
  next notConstrained =>
    refine queueMessage_consistent ?_ _ (by simp)
    split
    next committing =>
      rw [Bool.and_eq_true] at committing
      exact sendCommitLookahead_consistent consistent
        (of_decide_eq_true committing.1) early (le_refl _) _
    next => exact consistent

/-- A flush queue request commits what its pending time allows. -/
theorem scheduleFlushQueue_consistent
    (early : self.sendGuard.early = true) :
    self.scheduleFlushQueue.sendGuard.Consistent := by
  have committed : (if self.getTimeRegulationEnabled then
      self.sendCommitLowerBoundTimeStampIfChanged
        (max (self.pendingLogicalTime.first + self.targetLookahead)
          self.committedOutboundLowerBoundTimeStamp)
        .timeAdvanceAndNextMessageCommit
      else self).sendGuard.Consistent := by
    split
    next enabled =>
      have isEnabled : self.timeRegulationMode = .timeRegulationEnabled :=
        of_decide_eq_true enabled
      have bounds := consistent.withinGranted isEnabled early
      have allowed : self.pendingLogicalTime.first + self.targetLookahead ≤
          self.sendGuard.boundAt self.pendingLogicalTime.first := by
        rw [boundAt_sendGuard, lowerBoundAt]
        rcases self.getOutboundLowerTimeStampSecondField_cases
          self.targetLookahead with second | second <;> omega
      have below : max (self.pendingLogicalTime.first + self.targetLookahead)
          self.committedOutboundLowerBoundTimeStamp ≤
          self.sendGuard.granted :=
        max_le (allowed.trans (le_max_right _ _)) bounds.2
      exact (sendCommitLowerBoundTimeStampIfChanged_commits _ _ _
        (le_max_right _ _)).consistent consistent isEnabled
        (below.trans bounds.1) fun _ => below
    next => exact consistent
  have scheduled : ∀ after : TemplateTimeManagement,
      after.sendGuard.Consistent →
        (if after.getTimeConstrainedEnabled then
          { after with timeAdvanceToBeScheduled := true }
        else
          after.queueMessage after.pendingLogicalTime
            .timeAdvanceGranted).sendGuard.Consistent := by
    intro after afterConsistent
    split
    · exact afterConsistent
    · exact queueMessage_consistent afterConsistent _ (by simp)
  exact scheduled _ committed

/-- The pending time of a flush queue request stays within the requested
time. -/
theorem requestFlushQueue_consistent
    (early : self.sendGuard.early = true)
    (ahead : self.logicalTime.first ≤ self.pendingLogicalTime.first)
    (covered :
      self.timeRegulationMode = .timeRegulationEnabled →
        self.sendGuard.committed ≤
          self.sendGuard.lastOutbound.toLogicalTime) :
    self.requestFlushQueue.sendGuard.Consistent := by
  have limited : ∃ first, first ≤ self.pendingLogicalTime.first ∧
      (if self.getTimeConstrainedEnabled then self.limitPendingLogicalTime
        else self) =
        self.withPending ⟨first, self.pendingLogicalTime.second⟩ := by
    split
    · exact self.limitPendingLogicalTime_eq
    · exact ⟨_, le_refl _, rfl⟩
  obtain ⟨first, lower, limitedEqual⟩ := limited
  obtain ⟨pair, within, boundedEqual⟩ :=
    (self.withPending ⟨first, _⟩).boundPendingLogicalTime_eq lower ahead
  unfold requestFlushQueue
  dsimp only
  rw [limitedEqual, boundedEqual]
  refine scheduleFlushQueue_consistent ?_ early
  exact consistent.setPending
    (fun enabled _ =>
      ((self.sendGuard.boundAt_mono within).trans (le_max_right _ _)).trans
        (consistent.withinGranted enabled early).1)
    fun enabled _ => (covered enabled).trans (le_max_left _ _)

/-- Every request that the ambassador lets through keeps the invariant. -/
theorem timeAdvanceRequest_consistent
    (notPending :
      self.timeRegulationMode ≠ .timeRegulationEnablePending)
    (ahead : self.logicalTime.first ≤ logicalTime)
    (mode : Ambassador.RequestMode) :
    (self.timeAdvanceRequest logicalTime
      mode.toTimeAdvanceMode).sendGuard.Consistent := by
  have prepared := prepareTimeAdvance_consistent consistent notPending ahead
    mode.toTimeAdvanceMode
  have covered := prepareTimeAdvance_covered consistent logicalTime
    mode.toTimeAdvanceMode
  cases mode with
  | timeAdvanceRequest =>
      exact requestTimeAdvance_consistent prepared
        (by simp [SendGuard.early, sendGuard,
          Ambassador.RequestMode.toTimeAdvanceMode])
  | timeAdvanceRequestAvailable =>
      exact requestTimeAdvance_consistent prepared
        (by simp [SendGuard.early, sendGuard,
          Ambassador.RequestMode.toTimeAdvanceMode])
  | nextMessageRequest =>
      exact requestNextMessage_consistent prepared
        (by simp [SendGuard.early, sendGuard,
          Ambassador.RequestMode.toTimeAdvanceMode]) covered
  | nextMessageRequestAvailable =>
      exact requestNextMessage_consistent prepared
        (by simp [SendGuard.early, sendGuard,
          Ambassador.RequestMode.toTimeAdvanceMode]) covered
  | flushQueueRequest =>
      refine requestFlushQueue_consistent prepared
        (by simp [SendGuard.early, sendGuard,
          Ambassador.RequestMode.toTimeAdvanceMode]) ?_ covered
      rw [prepareTimeAdvance_logicalTime,
        prepareTimeAdvance_pendingLogicalTime, max_first_of_le ahead]
      exact ahead

theorem modifyLookahead_consistent
    (enabled : self.timeRegulationMode = .timeRegulationEnabled)
    (granted : self.timeAdvanceMode = .timeAdvanceGranted)
    {lookahead : Int}
    (lookaheadNonneg : 0 ≤ lookahead) :
    (self.modifyLookahead lookahead).sendGuard.Consistent := by
  have view := sendGuard_setOutboundLowerTimeStampAndCurrentLookahead
    { self with
      targetLookahead := lookahead
      lastOutboundLowerBoundTimeStamp := self.outboundLowerBoundTimeStamp }
    self.logicalTime.first self.outboundLowerBoundTimeStamp
  have settled : self.sendGuard.early = false := by
    simp [SendGuard.early, sendGuard, granted]
  refine sendCommitOutbound_consistent ?_ ?_ ?_
  · rw [view]
    refine consistent.advance enabled self.timeAdvanceMode lookaheadNonneg rfl
      fun early => ?_
    exact absurd (settled.symm.trans early) Bool.false_ne_true
  · exact (congrArg SendGuard.timeRegulationMode view).trans enabled
  · rw [view]
    exact settled

end

end TemplateTimeManagement
end TimeManagement
end OpenRTI
