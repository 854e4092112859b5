import OpenRTI.TimeManagement.SendGuardMessages

/-!
# The send guard in every run

A federate is run from its construction by calls, messages and callbacks.  As
long as no message lowers the pending time of a next message request below what
is already committed for it, nothing is sent below a committed bound.
-/

namespace OpenRTI
namespace TimeManagement

open Foundation
open TemplateTimeManagement

namespace FederateInput

/-- Inputs that fit the protocol. -/
def expected (self : TemplateTimeManagement) : FederateInput → Bool
  | .receive message => self.expects message
  | _ => true

/-- The input lowers the pending time of a next message request below what is
committed. -/
def lowersBelowCommitted (self : TemplateTimeManagement) :
    FederateInput → Bool
  | .receive (.timeStamped message) =>
      self.LowersBelowCommitted message.timeStamp
  | _ => false

end FederateInput

/-- The runs of one federate. -/
def federate : TransitionSystem TemplateTimeManagement FederateInput :=
  TransitionSystem.restrict ⟨.new, FederateInput.apply⟩ FederateInput.expected

namespace TemplateTimeManagement

theorem new_consistent : new.sendGuard.Consistent where
  lookaheadNonneg := le_refl 0
  outboundNonneg := le_refl 0
  lastOutboundNonneg := le_refl 0
  queuedOnce := Nat.zero_le 1
  queuedWhilePending := fun queued => absurd queued (lt_irrefl 0)
  enabling := fun pending => by cases pending
  toldCommitted := fun enabled => by cases enabled
  withinOutbound := fun enabled => by cases enabled
  withinGranted := fun enabled => by cases enabled

theorem call_consistent
    {self after : TemplateTimeManagement}
    (consistent : self.sendGuard.Consistent)
    {service : Ambassador.Call}
    (called : Ambassador.call self service = .ok after) :
    after.sendGuard.Consistent := by
  cases service with
  | enableTimeRegulation lookahead =>
      obtain ⟨disabled, granted, positive, equal⟩ :=
        Ambassador.enableTimeRegulation_ok called
      rw [equal]
      exact enableTimeRegulationAt_consistent consistent disabled granted _
        positive
  | enableTimeRegulationAt logicalTime lookahead =>
      obtain ⟨disabled, granted, -, positive, equal⟩ :=
        Ambassador.enableTimeRegulationAt_ok called
      rw [equal]
      exact enableTimeRegulationAt_consistent consistent disabled granted _
        positive
  | disableTimeRegulation =>
      obtain ⟨enabled, equal⟩ := Ambassador.disableTimeRegulation_ok called
      rw [equal]
      exact disableTimeRegulation_consistent consistent enabled
  | enableTimeConstrained =>
      obtain ⟨-, granted, equal⟩ := Ambassador.enableTimeConstrained_ok called
      rw [equal]
      exact enableTimeConstrained_consistent consistent granted
  | disableTimeConstrained =>
      obtain ⟨-, equal⟩ := Ambassador.disableTimeConstrained_ok called
      rw [equal]
      exact disableTimeConstrained_consistent consistent
  | timeAdvanceRequest logicalTime mode =>
      obtain ⟨ahead, -, notPending, -, equal⟩ :=
        Ambassador.timeAdvanceRequest_ok called
      rw [equal]
      exact timeAdvanceRequest_consistent consistent notPending ahead mode
  | modifyLookahead lookahead =>
      obtain ⟨enabled, positive, granted, -, equal⟩ :=
        Ambassador.modifyLookahead_ok called
      rw [equal]
      exact modifyLookahead_consistent consistent enabled granted positive
  | enableAsynchronousDelivery =>
      obtain ⟨_, equal⟩ := Ambassador.enableAsynchronousDelivery_ok called
      rw [equal]
      exact consistent
  | disableAsynchronousDelivery =>
      obtain ⟨_, equal⟩ := Ambassador.disableAsynchronousDelivery_ok called
      rw [equal]
      exact consistent
  | allowPendingTimeInNextMessageRequest =>
      obtain ⟨_, equal⟩ :=
        Ambassador.allowPendingTimeInNextMessageRequest_ok called
      rw [equal]
      exact consistent
  | disallowPendingTimeInNextMessageRequest =>
      obtain ⟨_, equal⟩ :=
        Ambassador.disallowPendingTimeInNextMessageRequest_ok called
      rw [equal]
      exact consistent
  | sendTimeStampedMessage timeStamp orderType objectInstanceHandle
      deliverToSelf =>
      obtain ⟨allowed, equal⟩ := Ambassador.sendTimeStampedMessage_ok called
      rw [equal]
      refine sendWithTimeStamp_consistent consistent _ _ _ _ fun _ lowers => ?_
      exact not_lowersBelowCommitted_of_allowed consistent
        (allowed lowers.1) lowers
  | deleteObjectInstance timeStamp orderType objectInstanceHandle =>
      obtain ⟨-, equal⟩ := Ambassador.deleteObjectInstance_ok called
      rw [equal]
      exact sendWithTimeStamp_consistent consistent _ _ _ _
        fun toSelf => absurd toSelf Bool.false_ne_true

/-- Every input but a message that lowers the pending time too far keeps the
invariant of the send guard. -/
theorem apply_consistent
    {self after : TemplateTimeManagement}
    (consistent : self.sendGuard.Consistent)
    {input : FederateInput}
    (expected : input.expected self = true)
    (covered : input.lowersBelowCommitted self = false)
    (stepped : input.apply self = some after) :
    after.sendGuard.Consistent := by
  cases input with
  | call service =>
      exact call_consistent consistent
        (FederateInput.apply_call_eq_some.mp stepped).2
  | receive message =>
      refine acceptInternalMessage_consistent consistent expected ?_ stepped
      rintro stamped rfl
      simpa [FederateInput.lowersBelowCommitted] using covered
  | dispatchCallback =>
      cases stepped
      exact dispatchCallback_consistent consistent
  | callbackMessageAvailable =>
      cases stepped
      exact callbackMessageAvailable_consistent consistent
  | eraseMessagesForObjectInstance objectInstanceHandle =>
      cases stepped
      exact eraseMessagesForObjectInstance_consistent consistent _
  | setNotificationHandle notificationHandle =>
      cases stepped
      exact setNotificationHandle_consistent consistent _

theorem federate_consistent
    {self : TemplateTimeManagement}
    (reachable :
      federate.ReachableUnder
        (fun before input => input.lowersBelowCommitted before = false)
        self) :
    self.sendGuard.Consistent := by
  refine TransitionSystem.ReachableUnder.invariant
    (fun state => state.sendGuard.Consistent) new_consistent ?_ reachable
  intro before input after consistent covered stepped
  obtain ⟨expected, stepped⟩ :=
    TransitionSystem.restrict_next_eq_some.mp stepped
  exact apply_consistent consistent expected covered stepped

/-- In every run in which no message lowers the pending time below what is
committed, a time regulating federate sends nothing below the last bound it
has told the others. -/
theorem committed_le_sent
    (self : TemplateTimeManagement)
    (reachable :
      federate.ReachableUnder
        (fun before input => input.lowersBelowCommitted before = false)
        self)
    (enabled : self.timeRegulationMode = .timeRegulationEnabled) :
    self.committedOutboundLowerBoundTimeStamp ≤
        self.outboundLowerBoundTimeStamp.toLogicalTime ∧
      ∃ told, lastTimeAdvanceCommit self.sent = some told ∧
        (∀ timeStamp, self.logicalTimeAlreadyPassed timeStamp = false →
          told ≤ timeStamp) ∧
        (self.allowPendingTimeInNextMessageRequest = false →
          ∀ timeStamp, self.logicalTimeAlreadyPassedReason timeStamp = none →
            told ≤ timeStamp) := by
  have consistent := federate_consistent reachable
  have within := consistent.withinOutbound enabled
  have notBelow : ∀ timeStamp,
      self.logicalTimeAlreadyPassed timeStamp = false →
        self.committedOutboundLowerBoundTimeStamp ≤ timeStamp :=
    fun timeStamp allowed =>
      within.trans ((SendGuard.not_passed_iff _ consistent.outboundNonneg
        timeStamp).mp allowed)
  refine ⟨within, _, consistent.toldCommitted enabled, notBelow, ?_⟩
  intro optionOff timeStamp allowed
  refine notBelow timeStamp ?_
  rw [logicalTimeAlreadyPassedReason_eq_none, sendBound, optionOff] at allowed
  exact allowed

/-- A run in which a message lowers the pending time too far.  Federate 2 has
committed 4 for next message requests and is locked, so that federate 1
commits 5 early; a message at 2 then takes its grant back to 2. -/
def loweredRun : List FederateInput :=
  [.receive (.joinFederateNotify 2),
    .receive (.enableTimeRegulationRequest 2 0 7),
    .receive (.joinFederationExecutionResponse 1),
    .call .enableTimeConstrained,
    .dispatchCallback,
    .call (.enableTimeRegulation 1),
    .receive (.enableTimeRegulationRequest 1 1 (-17)),
    .receive (.enableTimeRegulationResponse 1 2 1 true),
    .dispatchCallback,
    .receive (.commitLowerBoundTimeStamp 2 4 .nextMessageCommit 8),
    .call (.timeAdvanceRequest 10 .nextMessageRequest),
    .receive (.commitLowerBoundTimeStampResponse 1 2 (-16)),
    .receive (.lockedByNextMessageRequest 2 true),
    .receive (.timeStamped ⟨2, 2, none⟩),
    .receive (.commitLowerBoundTimeStamp 2 4 .timeAdvanceCommit 8),
    .dispatchCallback,
    .dispatchCallback]

theorem committed_le_sent_fails_lowered :
    ∃ self, federate.Reachable self ∧
      self.allowPendingTimeInNextMessageRequest = false ∧
      self.timeRegulationMode = .timeRegulationEnabled ∧
      self.outboundLowerBoundTimeStamp.toLogicalTime <
        self.committedOutboundLowerBoundTimeStamp ∧
      self.logicalTimeAlreadyPassed 3 = false ∧
      lastTimeAdvanceCommit self.sent = some 5 :=
  ⟨_, TransitionSystem.reachable_of_run loweredRun rfl, rfl, rfl, by decide,
    rfl, rfl⟩

/-- Up to the message the run meets the condition: 5 is committed early, and
nothing below 11 is sent. -/
theorem committed_le_sent_early :
    ∃ self told, federate.run .new (loweredRun.take 13) = some self ∧
      lastTimeAdvanceCommit self.sent = some told ∧ told = 5 ∧
      self.outboundLowerBoundTimeStamp.toLogicalTime = 11 ∧
      ∀ timeStamp, self.logicalTimeAlreadyPassed timeStamp = false →
        told ≤ timeStamp := by
  have reachable : (federate.restrict fun before input =>
      !input.lowersBelowCommitted before).Reachable _ :=
    TransitionSystem.reachable_of_run (loweredRun.take 13) rfl
  obtain ⟨-, told, isTold, notBelow, -⟩ := committed_le_sent _
    ((TransitionSystem.reachableUnder_of_restrict reachable).mono
      fun _ _ covered => by simpa using covered) rfl
  exact ⟨_, told, rfl, isTold, Option.some.inj (isTold.symm.trans rfl), rfl,
    notBelow⟩

end TemplateTimeManagement
end TimeManagement
end OpenRTI
