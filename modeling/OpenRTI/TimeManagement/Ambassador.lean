import OpenRTI.Foundation.TransitionSystem
import OpenRTI.TimeManagement.Operations
import OpenRTI.Types

/-!
# The ambassador's time management services

The calls of a joined federate with the checks of the ambassador, each of which
throws before anything is changed.  A federate is run by its calls, the
messages it receives and the callbacks it dispatches.
-/

namespace OpenRTI
namespace TimeManagement

inductive AmbassadorException
  | timeRegulationAlreadyEnabled
  | requestForTimeRegulationPending
  | timeRegulationIsNotEnabled
  | timeConstrainedAlreadyEnabled
  | requestForTimeConstrainedPending
  | timeConstrainedIsNotEnabled
  | inTimeAdvancingState
  | invalidLookahead (reason : String)
  | invalidLogicalTime (reason : String)
  | logicalTimeAlreadyPassed (reason : String)
  | asynchronousDeliveryAlreadyEnabled
  | asynchronousDeliveryAlreadyDisabled
  | allowPendingTimeInNextMessageRequestAlreadyEnabled
  | allowPendingTimeInNextMessageRequestAlreadyDisabled
  deriving DecidableEq

namespace Ambassador

/-- The state after a call, or the exception thrown. -/
abbrev Result := Except AmbassadorException TemplateTimeManagement

def enableTimeRegulation
    (self : TemplateTimeManagement)
    (lookahead : Int) : Result :=
  if self.getTimeRegulationEnabled then .error .timeRegulationAlreadyEnabled
  else if self.getTimeRegulationEnablePending then
    .error .requestForTimeRegulationPending
  else if self.getTimeAdvancePending then .error .inTimeAdvancingState
  else if !LogicalTimeFactory.isPositiveTimeInterval lookahead then
    .error (.invalidLookahead (toString lookahead))
  else .ok (self.enableTimeRegulation lookahead)

/-- The variant with a logical time to become time regulating at. -/
def enableTimeRegulationAt
    (self : TemplateTimeManagement)
    (logicalTime lookahead : Int) : Result :=
  if self.getTimeRegulationEnabled then .error .timeRegulationAlreadyEnabled
  else if self.getTimeRegulationEnablePending then
    .error .requestForTimeRegulationPending
  else if self.getTimeAdvancePending then .error .inTimeAdvancingState
  else if self.isLogicalTimeInThePast logicalTime then
    .error (.invalidLogicalTime (toString logicalTime))
  else if !LogicalTimeFactory.isPositiveTimeInterval lookahead then
    .error (.invalidLookahead (toString lookahead))
  else .ok (self.enableTimeRegulationAt logicalTime lookahead)

def disableTimeRegulation (self : TemplateTimeManagement) : Result :=
  if !self.getTimeRegulationEnabled then .error .timeRegulationIsNotEnabled
  else .ok self.disableTimeRegulation

def enableTimeConstrained (self : TemplateTimeManagement) : Result :=
  if self.getTimeConstrainedEnabled then
    .error .timeConstrainedAlreadyEnabled
  else if self.getTimeConstrainedEnablePending then
    .error .requestForTimeConstrainedPending
  else if self.getTimeAdvancePending then .error .inTimeAdvancingState
  else .ok self.enableTimeConstrained

def disableTimeConstrained (self : TemplateTimeManagement) : Result :=
  if !self.getTimeConstrainedEnabled then .error .timeConstrainedIsNotEnabled
  else .ok self.disableTimeConstrained

/-- The modes in which a time advance is requested. -/
inductive RequestMode
  | timeAdvanceRequest
  | timeAdvanceRequestAvailable
  | nextMessageRequest
  | nextMessageRequestAvailable
  | flushQueueRequest
  deriving DecidableEq

def RequestMode.toTimeAdvanceMode : RequestMode → TimeAdvanceMode
  | .timeAdvanceRequest => .timeAdvanceRequest
  | .timeAdvanceRequestAvailable => .timeAdvanceRequestAvailable
  | .nextMessageRequest => .nextMessageRequest
  | .nextMessageRequestAvailable => .nextMessageRequestAvailable
  | .flushQueueRequest => .flushQueueRequest

/-- The five services that request a time advance. -/
def timeAdvanceRequest
    (self : TemplateTimeManagement)
    (logicalTime : Int)
    (mode : RequestMode) : Result :=
  if self.isLogicalTimeInThePast logicalTime then
    .error (.logicalTimeAlreadyPassed (toString logicalTime))
  else if self.getTimeAdvancePending then .error .inTimeAdvancingState
  else if self.getTimeRegulationEnablePending then
    .error .requestForTimeRegulationPending
  else if self.getTimeConstrainedEnablePending then
    .error .requestForTimeConstrainedPending
  else .ok (self.timeAdvanceRequest logicalTime mode.toTimeAdvanceMode)

def modifyLookahead
    (self : TemplateTimeManagement)
    (lookahead : Int) : Result :=
  if !self.getTimeRegulationEnabled then .error .timeRegulationIsNotEnabled
  else if !LogicalTimeFactory.isPositiveTimeInterval lookahead then
    .error (.invalidLookahead (toString lookahead))
  else if self.getTimeAdvancePending ||
      self.getTimeConstrainedEnablePending then
    .error .inTimeAdvancingState
  else .ok (self.modifyLookahead lookahead)

def enableAsynchronousDelivery (self : TemplateTimeManagement) : Result :=
  if self.asynchronousDeliveryEnabled then
    .error .asynchronousDeliveryAlreadyEnabled
  else .ok { self with asynchronousDeliveryEnabled := true }

def disableAsynchronousDelivery (self : TemplateTimeManagement) : Result :=
  if !self.asynchronousDeliveryEnabled then
    .error .asynchronousDeliveryAlreadyDisabled
  else .ok { self with asynchronousDeliveryEnabled := false }

def allowPendingTimeInNextMessageRequest
    (self : TemplateTimeManagement) : Result :=
  if self.allowPendingTimeInNextMessageRequest then
    .error .allowPendingTimeInNextMessageRequestAlreadyEnabled
  else .ok { self with allowPendingTimeInNextMessageRequest := true }

def disallowPendingTimeInNextMessageRequest
    (self : TemplateTimeManagement) : Result :=
  if !self.allowPendingTimeInNextMessageRequest then
    .error .allowPendingTimeInNextMessageRequestAlreadyDisabled
  else .ok { self with allowPendingTimeInNextMessageRequest := false }

/-- The part of sending that updates, interactions and deletions share: the
message goes out in time stamp order only while time regulation is enabled. -/
def sendWithTimeStamp
    (self : TemplateTimeManagement)
    (timeStamp : Int)
    (orderType : OrderType)
    (objectInstanceHandle : Option ObjectInstanceHandle)
    (deliverToSelf : Bool) : TemplateTimeManagement :=
  match self.getTimeRegulationEnabled, orderType with
  | true, .timestamp =>
      let message : TimeStampedMessage :=
        ⟨self.federateHandle, timeStamp, objectInstanceHandle⟩
      let queued :=
        if deliverToSelf then self.queueTimeStampedMessage message else self
      queued.send (.timeStamped message)
  | _, _ =>
      let message : ReceiveOrderMessage :=
        ⟨self.federateHandle, objectInstanceHandle⟩
      let queued :=
        if deliverToSelf then self.queueReceiveOrderMessage message else self
      queued.send (.receiveOrder message)

/-- Update attribute values or send an interaction with a time stamp. -/
def sendTimeStampedMessage
    (self : TemplateTimeManagement)
    (timeStamp : Int)
    (orderType : OrderType)
    (objectInstanceHandle : Option ObjectInstanceHandle)
    (deliverToSelf : Bool) : Result :=
  match self.getTimeRegulationEnabled,
      self.logicalTimeAlreadyPassedReason timeStamp with
  | true, some reason => .error (.invalidLogicalTime reason)
  | _, _ =>
      .ok (sendWithTimeStamp self timeStamp orderType objectInstanceHandle
        deliverToSelf)

/-- Delete an object instance with a time stamp. -/
def deleteObjectInstance
    (self : TemplateTimeManagement)
    (timeStamp : Int)
    (orderType : OrderType)
    (objectInstanceHandle : ObjectInstanceHandle) : Result :=
  if self.getTimeRegulationEnabled &&
      self.logicalTimeAlreadyPassed timeStamp then
    .error (.invalidLogicalTime (toString timeStamp))
  else
    .ok (sendWithTimeStamp self timeStamp orderType
      (some objectInstanceHandle) false)

/-- A call of a time management service, or of one that sends. -/
inductive Call
  | enableTimeRegulation (lookahead : Int)
  | enableTimeRegulationAt (logicalTime lookahead : Int)
  | disableTimeRegulation
  | enableTimeConstrained
  | disableTimeConstrained
  | timeAdvanceRequest (logicalTime : Int) (mode : RequestMode)
  | modifyLookahead (lookahead : Int)
  | enableAsynchronousDelivery
  | disableAsynchronousDelivery
  | allowPendingTimeInNextMessageRequest
  | disallowPendingTimeInNextMessageRequest
  | sendTimeStampedMessage
      (timeStamp : Int)
      (orderType : OrderType)
      (objectInstanceHandle : Option ObjectInstanceHandle)
      (deliverToSelf : Bool)
  | deleteObjectInstance
      (timeStamp : Int)
      (orderType : OrderType)
      (objectInstanceHandle : ObjectInstanceHandle)
  deriving DecidableEq

def call (self : TemplateTimeManagement) : Call → Result
  | .enableTimeRegulation lookahead => enableTimeRegulation self lookahead
  | .enableTimeRegulationAt logicalTime lookahead =>
      enableTimeRegulationAt self logicalTime lookahead
  | .disableTimeRegulation => disableTimeRegulation self
  | .enableTimeConstrained => enableTimeConstrained self
  | .disableTimeConstrained => disableTimeConstrained self
  | .timeAdvanceRequest logicalTime mode =>
      timeAdvanceRequest self logicalTime mode
  | .modifyLookahead lookahead => modifyLookahead self lookahead
  | .enableAsynchronousDelivery => enableAsynchronousDelivery self
  | .disableAsynchronousDelivery => disableAsynchronousDelivery self
  | .allowPendingTimeInNextMessageRequest =>
      allowPendingTimeInNextMessageRequest self
  | .disallowPendingTimeInNextMessageRequest =>
      disallowPendingTimeInNextMessageRequest self
  | .sendTimeStampedMessage timeStamp orderType objectInstanceHandle
      deliverToSelf =>
      sendTimeStampedMessage self timeStamp orderType objectInstanceHandle
        deliverToSelf
  | .deleteObjectInstance timeStamp orderType objectInstanceHandle =>
      deleteObjectInstance self timeStamp orderType objectInstanceHandle

/-! ## What the calls check -/

section

variable {self after : TemplateTimeManagement}

theorem timeRegulationDisabled_of_not
    (notEnabled : ¬ self.getTimeRegulationEnabled = true)
    (notPending : ¬ self.getTimeRegulationEnablePending = true) :
    self.timeRegulationMode = .timeRegulationDisabled := by
  simp only [TemplateTimeManagement.getTimeRegulationEnabled,
    TemplateTimeManagement.getTimeRegulationEnablePending,
    decide_eq_true_eq] at notEnabled notPending
  cases mode : self.timeRegulationMode <;> simp_all

theorem timeAdvanceGranted_of_not
    (notAdvancing : ¬ self.getTimeAdvancePending = true) :
    self.timeAdvanceMode = .timeAdvanceGranted := by
  simpa [TemplateTimeManagement.getTimeAdvancePending] using notAdvancing

variable {logicalTime lookahead : Int}

theorem enableTimeRegulationAt_ok
    (called :
      Ambassador.enableTimeRegulationAt self logicalTime lookahead =
        .ok after) :
    self.timeRegulationMode = .timeRegulationDisabled ∧
      self.timeAdvanceMode = .timeAdvanceGranted ∧
      self.logicalTime.first ≤ logicalTime ∧ 0 ≤ lookahead ∧
      after = self.enableTimeRegulationAt logicalTime lookahead := by
  unfold Ambassador.enableTimeRegulationAt at called
  split at called
  · cases called
  next notEnabled =>
  split at called
  · cases called
  next notPending =>
  split at called
  · cases called
  next notAdvancing =>
  split at called
  · cases called
  next notPast =>
  split at called
  · cases called
  next positive =>
  cases called
  refine ⟨timeRegulationDisabled_of_not notEnabled notPending,
    timeAdvanceGranted_of_not notAdvancing, ?_, ?_, rfl⟩
  · simpa [TemplateTimeManagement.isLogicalTimeInThePast] using notPast
  · simpa [LogicalTimeFactory.isPositiveTimeInterval] using positive

theorem enableTimeRegulation_ok
    (called : Ambassador.enableTimeRegulation self lookahead = .ok after) :
    self.timeRegulationMode = .timeRegulationDisabled ∧
      self.timeAdvanceMode = .timeAdvanceGranted ∧ 0 ≤ lookahead ∧
      after = self.enableTimeRegulation lookahead := by
  unfold Ambassador.enableTimeRegulation at called
  split at called
  · cases called
  next notEnabled =>
  split at called
  · cases called
  next notPending =>
  split at called
  · cases called
  next notAdvancing =>
  split at called
  · cases called
  next positive =>
  cases called
  refine ⟨timeRegulationDisabled_of_not notEnabled notPending,
    timeAdvanceGranted_of_not notAdvancing, ?_, rfl⟩
  simpa [LogicalTimeFactory.isPositiveTimeInterval] using positive

theorem disableTimeRegulation_ok
    (called : Ambassador.disableTimeRegulation self = .ok after) :
    self.timeRegulationMode = .timeRegulationEnabled ∧
      after = self.disableTimeRegulation := by
  unfold Ambassador.disableTimeRegulation at called
  split at called
  · cases called
  next enabled =>
  cases called
  refine ⟨?_, rfl⟩
  simpa [TemplateTimeManagement.getTimeRegulationEnabled] using enabled

theorem enableTimeConstrained_ok
    (called : Ambassador.enableTimeConstrained self = .ok after) :
    self.timeConstrainedMode = .timeConstrainedDisabled ∧
      self.timeAdvanceMode = .timeAdvanceGranted ∧
      after = self.enableTimeConstrained := by
  unfold Ambassador.enableTimeConstrained at called
  split at called
  · cases called
  next notEnabled =>
  split at called
  · cases called
  next notPending =>
  split at called
  · cases called
  next notAdvancing =>
  cases called
  refine ⟨?_, timeAdvanceGranted_of_not notAdvancing, rfl⟩
  simp only [TemplateTimeManagement.getTimeConstrainedEnabled,
    TemplateTimeManagement.getTimeConstrainedEnablePending,
    decide_eq_true_eq] at notEnabled notPending
  cases mode : self.timeConstrainedMode <;> simp_all

theorem disableTimeConstrained_ok
    (called : Ambassador.disableTimeConstrained self = .ok after) :
    self.timeConstrainedMode = .timeConstrainedEnabled ∧
      after = self.disableTimeConstrained := by
  unfold Ambassador.disableTimeConstrained at called
  split at called
  · cases called
  next enabled =>
  cases called
  refine ⟨?_, rfl⟩
  simpa [TemplateTimeManagement.getTimeConstrainedEnabled] using enabled

theorem timeAdvanceRequest_ok
    {mode : RequestMode}
    (called :
      Ambassador.timeAdvanceRequest self logicalTime mode = .ok after) :
    self.logicalTime.first ≤ logicalTime ∧
      self.timeAdvanceMode = .timeAdvanceGranted ∧
      self.timeRegulationMode ≠ .timeRegulationEnablePending ∧
      self.timeConstrainedMode ≠ .timeConstrainedEnablePending ∧
      after = self.timeAdvanceRequest logicalTime mode.toTimeAdvanceMode := by
  unfold Ambassador.timeAdvanceRequest at called
  split at called
  · cases called
  next notPast =>
  split at called
  · cases called
  next notAdvancing =>
  split at called
  · cases called
  next notPending =>
  split at called
  · cases called
  next notConstrainedPending =>
  cases called
  refine ⟨?_, timeAdvanceGranted_of_not notAdvancing, ?_, ?_, rfl⟩
  · simpa [TemplateTimeManagement.isLogicalTimeInThePast] using notPast
  · simpa [TemplateTimeManagement.getTimeRegulationEnablePending]
      using notPending
  · simpa [TemplateTimeManagement.getTimeConstrainedEnablePending]
      using notConstrainedPending

theorem modifyLookahead_ok
    (called : Ambassador.modifyLookahead self lookahead = .ok after) :
    self.timeRegulationMode = .timeRegulationEnabled ∧ 0 ≤ lookahead ∧
      self.timeAdvanceMode = .timeAdvanceGranted ∧
      self.timeConstrainedMode ≠ .timeConstrainedEnablePending ∧
      after = self.modifyLookahead lookahead := by
  unfold Ambassador.modifyLookahead at called
  split at called
  · cases called
  next enabled =>
  split at called
  · cases called
  next positive =>
  split at called
  · cases called
  next settled =>
  cases called
  rw [Bool.or_eq_true, not_or] at settled
  refine ⟨?_, ?_, timeAdvanceGranted_of_not settled.1, ?_, rfl⟩
  · simpa [TemplateTimeManagement.getTimeRegulationEnabled] using enabled
  · simpa [LogicalTimeFactory.isPositiveTimeInterval] using positive
  · simpa [TemplateTimeManagement.getTimeConstrainedEnablePending]
      using settled.2

theorem enableAsynchronousDelivery_ok
    (called : Ambassador.enableAsynchronousDelivery self = .ok after) :
    self.asynchronousDeliveryEnabled = false ∧
      after = { self with asynchronousDeliveryEnabled := true } := by
  unfold Ambassador.enableAsynchronousDelivery at called
  split at called
  · cases called
  next disabled =>
  cases called
  exact ⟨eq_false_of_ne_true disabled, rfl⟩

theorem disableAsynchronousDelivery_ok
    (called : Ambassador.disableAsynchronousDelivery self = .ok after) :
    self.asynchronousDeliveryEnabled = true ∧
      after = { self with asynchronousDeliveryEnabled := false } := by
  unfold Ambassador.disableAsynchronousDelivery at called
  split at called
  · cases called
  next enabled =>
  cases called
  exact ⟨by simpa using enabled, rfl⟩

theorem allowPendingTimeInNextMessageRequest_ok
    (called :
      Ambassador.allowPendingTimeInNextMessageRequest self = .ok after) :
    self.allowPendingTimeInNextMessageRequest = false ∧
      after = { self with allowPendingTimeInNextMessageRequest := true } := by
  unfold Ambassador.allowPendingTimeInNextMessageRequest at called
  split at called
  · cases called
  next disallowed =>
  cases called
  exact ⟨eq_false_of_ne_true disallowed, rfl⟩

theorem disallowPendingTimeInNextMessageRequest_ok
    (called :
      Ambassador.disallowPendingTimeInNextMessageRequest self = .ok after) :
    self.allowPendingTimeInNextMessageRequest = true ∧
      after = { self with allowPendingTimeInNextMessageRequest := false } := by
  unfold Ambassador.disallowPendingTimeInNextMessageRequest at called
  split at called
  · cases called
  next allowed =>
  cases called
  exact ⟨by simpa using allowed, rfl⟩

variable {timeStamp : Int} {orderType : OrderType}

/-- While time regulation is enabled only time stamps that the guard lets
through are sent. -/
theorem sendTimeStampedMessage_ok
    {objectInstanceHandle : Option ObjectInstanceHandle}
    {deliverToSelf : Bool}
    (called :
      Ambassador.sendTimeStampedMessage self timeStamp orderType
        objectInstanceHandle deliverToSelf = .ok after) :
    (self.timeRegulationMode = .timeRegulationEnabled →
        self.logicalTimeAlreadyPassedReason timeStamp = none) ∧
      after = Ambassador.sendWithTimeStamp self timeStamp orderType
        objectInstanceHandle deliverToSelf := by
  unfold Ambassador.sendTimeStampedMessage at called
  split at called
  next => cases called
  next notPassed =>
    cases called
    refine ⟨fun enabled => ?_, rfl⟩
    cases reason : self.logicalTimeAlreadyPassedReason timeStamp with
    | none => rfl
    | some text =>
        exact absurd reason (notPassed text (decide_eq_true enabled))

theorem deleteObjectInstance_ok
    {objectInstanceHandle : ObjectInstanceHandle}
    (called :
      Ambassador.deleteObjectInstance self timeStamp orderType
        objectInstanceHandle = .ok after) :
    (self.timeRegulationMode = .timeRegulationEnabled →
        self.logicalTimeAlreadyPassed timeStamp = false) ∧
      after = Ambassador.sendWithTimeStamp self timeStamp orderType
        (some objectInstanceHandle) false := by
  unfold Ambassador.deleteObjectInstance at called
  split at called
  · cases called
  next notPassed =>
  cases called
  refine ⟨fun enabled => ?_, rfl⟩
  simpa [TemplateTimeManagement.getTimeRegulationEnabled, enabled]
    using notPassed

end

end Ambassador

/-! ## Running one federate -/

/-- What can happen to a federate. -/
inductive FederateInput
  | call (service : Ambassador.Call)
  | receive (message : Message)
  | dispatchCallback
  | callbackMessageAvailable
  | eraseMessagesForObjectInstance
      (objectInstanceHandle : ObjectInstanceHandle)
  | setNotificationHandle (notificationHandle : Option NotificationHandle)
  deriving DecidableEq

namespace FederateInput

/-- The state after an input; none where a call throws, and before the federate
has joined. -/
def apply (self : TemplateTimeManagement) :
    FederateInput → Option TemplateTimeManagement
  | .call service =>
      if FederateHandle.valid self.federateHandle then
        match Ambassador.call self service with
        | .error _ => none
        | .ok after => some after
      else none
  | .receive message => self.acceptInternalMessage message
  | .dispatchCallback => some self.dispatchCallback.1
  | .callbackMessageAvailable => some self.callbackMessageAvailable.1
  | .eraseMessagesForObjectInstance objectInstanceHandle =>
      some (self.eraseMessagesForObjectInstance objectInstanceHandle)
  | .setNotificationHandle notificationHandle =>
      some (self.setNotificationHandle notificationHandle)

theorem apply_call_eq_some
    {self after : TemplateTimeManagement} {service : Ambassador.Call} :
    apply self (.call service) = some after ↔
      FederateHandle.valid self.federateHandle = true ∧
        Ambassador.call self service = .ok after := by
  simp only [apply]
  cases Ambassador.call self service <;> simp

end FederateInput
end TimeManagement
end OpenRTI
