import OpenRTI.TimeManagement.OutboundLevel
import OpenRTI.TimeManagement.SendGuardRuns

/-!
# Changing the lookahead in every run

`modifyLookahead` asserts that the bound kept for a grant is the current one,
that what is committed is within the current bound, and that the lookahead in
effect is not below the requested one.  The last two hold in every run in which
nothing is sent below what is committed.  The first holds as long as no step
raises the current bound and leaves the last one behind.
-/

namespace OpenRTI
namespace TimeManagement

open Foundation
open TemplateTimeManagement

namespace TemplateTimeManagement

/-! ## The assertions -/

/-- The assertions at the end of `setOutboundLowerTimeStampAndCurrentLookahead`,
on the state it leaves. -/
def outboundLowerTimeStampAsserted (self : TemplateTimeManagement) : Prop :=
  (!self.getTimeRegulationEnabled ||
      self.committedOutboundLowerBoundTimeStamp ≤
        self.outboundLowerBoundTimeStamp.toLogicalTime) = true ∧
    self.targetLookahead ≤ self.currentLookahead

/-- The assertions of `modifyLookahead` after those on the modes, with those of
the function it calls. -/
def modifyLookaheadAsserted
    (self : TemplateTimeManagement)
    (lookahead : Int) : Prop :=
  LogicalTimeFactory.zeroLogicalTimeInterval ≤ lookahead ∧
    self.lastOutboundLowerBoundTimeStamp = self.outboundLowerBoundTimeStamp ∧
    ({ self with
      targetLookahead := lookahead
      lastOutboundLowerBoundTimeStamp := self.outboundLowerBoundTimeStamp }
      |>.setOutboundLowerTimeStampAndCurrentLookahead self.logicalTime.first
        self.outboundLowerBoundTimeStamp).outboundLowerTimeStampAsserted

/-- The lookahead in effect is never below the requested one. -/
theorem targetLookahead_le_currentLookahead
    (self : TemplateTimeManagement) (logicalTime : Int)
    (last : LogicalTimePair) :
    (self.setOutboundLowerTimeStampAndCurrentLookahead logicalTime
        last).targetLookahead ≤
      (self.setOutboundLowerTimeStampAndCurrentLookahead logicalTime
        last).currentLookahead := by
  unfold setOutboundLowerTimeStampAndCurrentLookahead
  dsimp only
  split
  next below =>
    rw [LogicalTimePair.lt_iff] at below
    dsimp only at below ⊢
    apply le_min
    · omega
    · exact le_refl _
  next => exact le_refl _

theorem outboundLowerTimeStampAsserted_of_within
    {self : TemplateTimeManagement} {logicalTime : Int}
    {last : LogicalTimePair}
    (within :
      self.timeRegulationMode = .timeRegulationEnabled →
        self.committedOutboundLowerBoundTimeStamp ≤ last.toLogicalTime) :
    (self.setOutboundLowerTimeStampAndCurrentLookahead logicalTime
      last).outboundLowerTimeStampAsserted := by
  have view := self.sendGuard_setOutboundLowerTimeStampAndCurrentLookahead
    logicalTime last
  have mode := congrArg SendGuard.timeRegulationMode view
  have committed := congrArg SendGuard.committed view
  have outbound := congrArg SendGuard.outbound view
  refine ⟨?_, self.targetLookahead_le_currentLookahead logicalTime last⟩
  rw [Bool.or_eq_true, Bool.not_eq_true', decide_eq_true_eq]
  by_cases enabled : self.timeRegulationMode = .timeRegulationEnabled
  · right
    calc _ = self.committedOutboundLowerBoundTimeStamp := committed
      _ ≤ last.toLogicalTime := within enabled
      _ ≤ max (self.sendGuard.boundAt logicalTime) last.toLogicalTime :=
        le_max_right _ _
      _ = (self.sendGuard.advanceOutbound logicalTime last).toLogicalTime :=
        (self.sendGuard.toLogicalTime_advanceOutbound logicalTime last).symm
      _ = _ := (congrArg LogicalTimePair.toLogicalTime outbound).symm
  · left
    exact decide_eq_false fun isEnabled => enabled (mode.symm.trans isEnabled)

theorem outboundLowerBoundTimeStamp_le_modifyLookahead
    (self : TemplateTimeManagement) (lookahead : Int) :
    self.outboundLowerBoundTimeStamp ≤
      (self.modifyLookahead lookahead).outboundLowerBoundTimeStamp := by
  have view : (self.modifyLookahead lookahead).outboundLevel =
      { self.outboundLevel with
        outbound :=
          max
            (requestedBound { self with targetLookahead := lookahead }
              self.logicalTime.first)
            self.outboundLowerBoundTimeStamp
        lastOutbound := self.outboundLowerBoundTimeStamp } := by
    unfold modifyLookahead
    dsimp only
    rw [outboundLevel_sendCommitLowerBoundTimeStampPairIfChanged,
      outboundLevel_setOutboundLowerTimeStampAndCurrentLookahead]
    rfl
  exact (le_max_right _ _).trans (congrArg OutboundLevel.outbound view).ge

end TemplateTimeManagement

namespace FederateInput

/-- The step raises the current bound alone: a time advance request, a grant
that corrects the bound, a change of the lookahead, or an answer to a request
for time regulation. -/
def raisesOutbound (self : TemplateTimeManagement) : FederateInput → Bool
  | .call (.timeAdvanceRequest logicalTime mode) =>
      self.getTimeRegulationEnabled &&
        (mode = .timeAdvanceRequest || mode = .timeAdvanceRequestAvailable) &&
        self.outboundLowerBoundTimeStamp <
          requestedBound
            { self with timeAdvanceMode := mode.toTimeAdvanceMode }
            logicalTime
  | .call (.modifyLookahead lookahead) =>
      self.outboundLowerBoundTimeStamp <
        requestedBound { self with targetLookahead := lookahead }
          self.logicalTime.first
  | .dispatchCallback =>
      self.dispatchCallback.2 = some .timeAdvanceGranted &&
        self.getTimeRegulationEnabled &&
        (self.getIsAnyNextMessageMode || self.getFlushQueueMode) &&
        self.lastOutboundLowerBoundTimeStamp <
          self.requestedBound self.pendingLogicalTime.first
  | .receive (.enableTimeRegulationResponse _ _ timeStamp timeStampValid) =>
      self.getTimeRegulationEnablePending && timeStampValid &&
        self.outboundLowerBoundTimeStamp.first < timeStamp
  | _ => false

end FederateInput

namespace TemplateTimeManagement

/-! ## Steps -/

theorem new_level : new.outboundLevel.Level where
  bounds := fun _ _ => rfl
  enabling := fun waiting => by cases waiting
  answered := fun _ => rfl
  covered := fun _ member => by cases member

theorem call_level
    {self after : TemplateTimeManagement}
    (level : self.outboundLevel.Level)
    {service : Ambassador.Call}
    (notRaised :
      FederateInput.raisesOutbound self (.call service) = false)
    (called : Ambassador.call self service = .ok after) :
    after.outboundLevel.Level := by
  cases service with
  | enableTimeRegulation lookahead =>
      obtain ⟨disabled, -, -, equal⟩ :=
        Ambassador.enableTimeRegulation_ok called
      rw [equal]
      exact enableTimeRegulationAt_level level disabled _ _
  | enableTimeRegulationAt logicalTime lookahead =>
      obtain ⟨disabled, -, -, -, equal⟩ :=
        Ambassador.enableTimeRegulationAt_ok called
      rw [equal]
      exact enableTimeRegulationAt_level level disabled _ _
  | disableTimeRegulation =>
      obtain ⟨enabled, equal⟩ := Ambassador.disableTimeRegulation_ok called
      rw [equal]
      exact level.disable enabled _
  | enableTimeConstrained =>
      obtain ⟨-, -, equal⟩ := Ambassador.enableTimeConstrained_ok called
      rw [equal]
      exact level
  | disableTimeConstrained =>
      obtain ⟨-, equal⟩ := Ambassador.disableTimeConstrained_ok called
      rw [equal]
      exact level
  | timeAdvanceRequest logicalTime mode =>
      obtain ⟨-, -, notPending, -, equal⟩ :=
        Ambassador.timeAdvanceRequest_ok called
      rw [equal, outboundLevel_timeAdvanceRequest]
      refine prepareTimeAdvance_level level notPending _ _ ?_
      intro enabled settled
      have isEnabled : self.getTimeRegulationEnabled = true :=
        decide_eq_true enabled
      have notEarly : (decide (mode = .timeAdvanceRequest) ||
          decide (mode = .timeAdvanceRequestAvailable)) = true := by
        cases mode with
        | timeAdvanceRequest | timeAdvanceRequestAvailable => rfl
        | nextMessageRequest | nextMessageRequestAvailable
        | flushQueueRequest => cases settled
      rw [FederateInput.raisesOutbound, isEnabled, notEarly, Bool.true_and,
        Bool.true_and] at notRaised
      exact not_lt.mp (of_decide_eq_false notRaised)
  | modifyLookahead lookahead =>
      obtain ⟨-, -, -, -, equal⟩ := Ambassador.modifyLookahead_ok called
      rw [equal]
      apply modifyLookahead_level level
      simpa [FederateInput.raisesOutbound] using notRaised
  | enableAsynchronousDelivery =>
      obtain ⟨_, equal⟩ := Ambassador.enableAsynchronousDelivery_ok called
      rw [equal]
      exact level
  | disableAsynchronousDelivery =>
      obtain ⟨_, equal⟩ := Ambassador.disableAsynchronousDelivery_ok called
      rw [equal]
      exact level
  | allowPendingTimeInNextMessageRequest =>
      obtain ⟨_, equal⟩ :=
        Ambassador.allowPendingTimeInNextMessageRequest_ok called
      rw [equal]
      exact level
  | disallowPendingTimeInNextMessageRequest =>
      obtain ⟨_, equal⟩ :=
        Ambassador.disallowPendingTimeInNextMessageRequest_ok called
      rw [equal]
      exact level
  | sendTimeStampedMessage timeStamp orderType objectInstanceHandle
      deliverToSelf =>
      obtain ⟨-, equal⟩ := Ambassador.sendTimeStampedMessage_ok called
      rwa [equal, outboundLevel_sendWithTimeStamp]
  | deleteObjectInstance timeStamp orderType objectInstanceHandle =>
      obtain ⟨-, equal⟩ := Ambassador.deleteObjectInstance_ok called
      rwa [equal, outboundLevel_sendWithTimeStamp]

/-- Every input that does not raise the current bound alone keeps the bounds
level. -/
theorem apply_level
    {self after : TemplateTimeManagement}
    (consistent : self.sendGuard.Consistent)
    (level : self.outboundLevel.Level)
    {input : FederateInput}
    (notRaised : input.raisesOutbound self = false)
    (stepped : input.apply self = some after) :
    after.outboundLevel.Level := by
  cases input with
  | call service =>
      exact call_level level notRaised
        (FederateInput.apply_call_eq_some.mp stepped).2
  | receive message =>
      refine acceptInternalMessage_level consistent level ?_ stepped
      rintro federateHandle responding timeStamp rfl enabling
      simpa [FederateInput.raisesOutbound, enabling] using notRaised
  | dispatchCallback =>
      cases stepped
      apply dispatchCallback_level consistent level
      intro granted early enabled
      have isEnabled : self.getTimeRegulationEnabled = true :=
        decide_eq_true enabled
      have isEarly :
          (self.getIsAnyNextMessageMode || self.getFlushQueueMode) = true :=
        early
      simpa [FederateInput.raisesOutbound, granted, isEnabled, isEarly]
        using notRaised
  | callbackMessageAvailable =>
      cases stepped
      rwa [outboundLevel_callbackMessageAvailable]
  | eraseMessagesForObjectInstance objectInstanceHandle =>
      cases stepped
      exact level
  | setNotificationHandle notificationHandle =>
      cases stepped
      rwa [outboundLevel_setNotificationHandle]

/-- The steps that keep what is committed within the current bound and do not
raise that bound alone. -/
def keepsLevel
    (before : TemplateTimeManagement)
    (input : FederateInput) : Bool :=
  !input.lowersBelowCommitted before && !input.raisesOutbound before

theorem federate_level
    {self : TemplateTimeManagement}
    (reachable :
      federate.ReachableUnder
        (fun before input => keepsLevel before input = true) self) :
    self.sendGuard.Consistent ∧ self.outboundLevel.Level := by
  refine TransitionSystem.ReachableUnder.invariant
    (fun state => state.sendGuard.Consistent ∧ state.outboundLevel.Level)
    ⟨new_consistent, new_level⟩ ?_ reachable
  rintro before input after ⟨consistent, level⟩ keeps stepped
  rw [keepsLevel, Bool.and_eq_true, Bool.not_eq_true', Bool.not_eq_true']
    at keeps
  obtain ⟨expected, stepped⟩ :=
    TransitionSystem.restrict_next_eq_some.mp stepped
  exact ⟨apply_consistent consistent expected keeps.1 stepped,
    apply_level consistent level keeps.2 stepped⟩

/-- In every run whose steps neither lower the pending time below what is
committed nor raise the current bound alone, all assertions hold when the
lookahead is changed, and the bound for sending is not lowered. -/
theorem modifyLookahead_asserted
    (self : TemplateTimeManagement)
    (reachable :
      federate.ReachableUnder
        (fun before input => keepsLevel before input = true) self)
    (enabled : self.getTimeRegulationEnabled = true)
    (notAdvancing : self.getTimeAdvancePending = false)
    (lookahead : Int)
    (positive : LogicalTimeFactory.isPositiveTimeInterval lookahead = true) :
    self.modifyLookaheadAsserted lookahead ∧
      self.outboundLowerBoundTimeStamp ≤
        (self.modifyLookahead lookahead).outboundLowerBoundTimeStamp := by
  obtain ⟨consistent, level⟩ := federate_level reachable
  have isEnabled : self.timeRegulationMode = .timeRegulationEnabled :=
    of_decide_eq_true enabled
  have granted : self.timeAdvanceMode = .timeAdvanceGranted := by
    simpa [getTimeAdvancePending] using notAdvancing
  refine ⟨⟨of_decide_eq_true positive, ?_, ?_⟩,
    self.outboundLowerBoundTimeStamp_le_modifyLookahead lookahead⟩
  · apply level.bounds
    · simp [outboundLevel, isEnabled]
    · simp [OutboundLevel.early, outboundLevel, granted]
  · exact outboundLowerTimeStampAsserted_of_within fun _ =>
      consistent.withinOutbound isEnabled

/-- A run in which the federate advances to 10 with a time advance request. -/
def advancedRun : List FederateInput :=
  [.receive (.joinFederateNotify 1),
    .receive (.joinFederationExecutionResponse 1),
    .call (.enableTimeRegulation 1),
    .receive (.enableTimeRegulationRequest 1 1 (-17)),
    .dispatchCallback,
    .call (.timeAdvanceRequest 10 .timeAdvanceRequest),
    .dispatchCallback]

theorem modifyLookahead_asserted_fails :
    ∃ self, federate.Reachable self ∧
      self.getTimeRegulationEnabled = true ∧
      self.getTimeAdvancePending = false ∧
      self.getTimeConstrainedEnablePending = false ∧
      ¬ ∀ lookahead,
        LogicalTimeFactory.isPositiveTimeInterval lookahead = true →
          self.modifyLookaheadAsserted lookahead :=
  ⟨_, TransitionSystem.reachable_of_run advancedRun rfl, rfl, rfl, rfl,
    fun asserted => absurd (asserted 2 rfl).2.1 (by decide)⟩

/-- A run in which a smaller lookahead leaves room for an advance to 3. -/
def loweredLookaheadRun : List FederateInput :=
  [.receive (.joinFederateNotify 1),
    .receive (.joinFederationExecutionResponse 1),
    .call (.enableTimeRegulation 5),
    .receive (.enableTimeRegulationRequest 1 5 (-17)),
    .dispatchCallback,
    .call (.modifyLookahead 1),
    .call (.timeAdvanceRequest 3 .timeAdvanceRequest),
    .dispatchCallback]

theorem modifyLookahead_asserted_after_advance :
    ∃ self, federate.run .new loweredLookaheadRun = some self ∧
      self.logicalTime.first = 3 ∧ self.modifyLookaheadAsserted 2 := by
  have reachable : (federate.restrict keepsLevel).Reachable _ :=
    TransitionSystem.reachable_of_run loweredLookaheadRun rfl
  exact ⟨_, rfl, rfl,
    (modifyLookahead_asserted _
      (TransitionSystem.reachableUnder_of_restrict reachable) rfl rfl 2 rfl).1⟩

end TemplateTimeManagement
end TimeManagement
end OpenRTI
