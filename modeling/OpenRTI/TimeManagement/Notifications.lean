import OpenRTI.Foundation.KeyedQueue
import OpenRTI.TimeManagement.SendGuardMessages

/-!
# Signals to the notification handle

Whoever waits for callbacks sets a notification handle.  This module keeps the
queued messages, the handle and its signals in a view, `Notifications`.  Every
operation that queues a message signals the handle behind it, whatever else the
operation does.
-/

namespace OpenRTI
namespace TimeManagement

open Foundation

/-- The part of time management that tells about queued messages. -/
structure Notifications where
  messages : List QueuedMessage
  notificationHandle : Option NotificationHandle
  signalled : List NotificationHandle

namespace Notifications

/-- Signals to the handle, where one is set. -/
def signals (view : Notifications) (times : Nat) : List NotificationHandle :=
  (List.replicate times view.notificationHandle.toList).flatten

theorem signals_of_handle
    {view : Notifications} {handle : NotificationHandle}
    (isSet : view.notificationHandle = some handle)
    (times : Nat) :
    view.signals times = List.replicate times handle := by
  rw [signals, isSet]
  induction times with
  | zero => rfl
  | succ times ih =>
      rw [List.replicate_succ, List.flatten_cons, ih]
      rfl

/-- The handle stays, and is signalled unless no messages are added. -/
structure Tells (view after : Notifications) : Prop where
  notificationHandle : after.notificationHandle = view.notificationHandle
  signalled : ∃ times,
    after.signalled = view.signalled ++ view.signals times ∧
      (times = 0 →
        ∀ message, after.messages.count message ≤ view.messages.count message)

theorem Tells.refl (view : Notifications) : view.Tells view where
  notificationHandle := rfl
  signalled :=
    ⟨0, (List.append_nil view.signalled).symm, fun _ _ => Nat.le_refl _⟩

theorem Tells.trans
    {view between after : Notifications}
    (first : view.Tells between) (second : between.Tells after) :
    view.Tells after where
  notificationHandle :=
    second.notificationHandle.trans first.notificationHandle
  signalled := by
    obtain ⟨times, signalled, added⟩ := first.signalled
    obtain ⟨further, later, addedLater⟩ := second.signalled
    refine ⟨times + further, ?_, ?_⟩
    · rw [later, signalled, signals, signals, signals,
        first.notificationHandle, List.append_assoc, ← List.flatten_append,
        List.replicate_append_replicate]
    · intro silent message
      exact Nat.le_trans (addedLater (by omega) message)
        (added (by omega) message)

/-- Messages can be removed without a signal. -/
theorem Tells.removed
    {view : Notifications} {messages : List QueuedMessage}
    (fewer : ∀ message, messages.count message ≤ view.messages.count message) :
    view.Tells { view with messages := messages } where
  notificationHandle := rfl
  signalled := ⟨0, (List.append_nil view.signalled).symm, fun _ => fewer⟩

/-- The handle is signalled behind whatever is added. -/
theorem Tells.signalled_after
    (view : Notifications) (messages : List QueuedMessage) :
    view.Tells
      { view with
        messages := messages
        signalled := view.signalled ++ view.notificationHandle.toList } where
  notificationHandle := rfl
  signalled := by
    refine ⟨1, ?_, fun silent => absurd silent Nat.one_ne_zero⟩
    rw [signals, List.replicate_one, List.flatten_singleton]

end Notifications

namespace TemplateTimeManagement

open Notifications

/-- All queued messages, those in the order they were received in first. -/
def queuedMessages (self : TemplateTimeManagement) : List QueuedMessage :=
  self.receiveOrderMessages.map .receiveOrder ++
    KeyedQueue.values self.logicalTimeMessageListMap

/-- The view of the notifications. -/
def notifications (self : TemplateTimeManagement) : Notifications where
  messages := self.queuedMessages
  notificationHandle := self.notificationHandle
  signalled := self.signalled

/-- An operation only adds messages with a signal behind them. -/
def Tells (self after : TemplateTimeManagement) : Prop :=
  self.notifications.Tells after.notifications

variable {after self : TemplateTimeManagement}

theorem Tells.unchanged
    (same : after.notifications = self.notifications) :
    self.Tells after := by
  rw [Tells, same]
  exact .refl _

theorem Tells.refl (self : TemplateTimeManagement) : self.Tells self :=
  Notifications.Tells.refl _

theorem Tells.trans
    {between : TemplateTimeManagement}
    (first : self.Tells between) (second : between.Tells after) :
    self.Tells after :=
  Notifications.Tells.trans first second

variable (self : TemplateTimeManagement) (logicalTimePair : LogicalTimePair)
variable (message : QueuedMessage)

/-! ## Queueing and sending -/

theorem queueMessage_tells :
    self.Tells (self.queueMessage logicalTimePair message) :=
  .signalled_after self.notifications _

theorem queueReceiveOrderMessage_tells
    (message : ReceiveOrderMessage) :
    self.Tells (self.queueReceiveOrderMessage message) :=
  .signalled_after self.notifications _

variable (logicalTime : Int) (commitType : LowerBoundTimeStampCommitType)

@[simp] theorem notifications_sendCommitLowerBoundTimeStampIfChanged :
    (self.sendCommitLowerBoundTimeStampIfChanged logicalTime
      commitType).notifications = self.notifications := by
  unfold sendCommitLowerBoundTimeStampIfChanged
  dsimp only
  split
  · rfl
  · split <;> rfl

@[simp] theorem notifications_sendCommitLowerBoundTimeStampPairIfChanged :
    (self.sendCommitLowerBoundTimeStampPairIfChanged logicalTimePair
      commitType).notifications = self.notifications := by
  unfold sendCommitLowerBoundTimeStampPairIfChanged
  split
  · exact self.notifications_sendCommitLowerBoundTimeStampIfChanged _ _
  · exact self.notifications_sendCommitLowerBoundTimeStampIfChanged _ _

variable (lookahead : Int)

@[simp] theorem notifications_sendCommitLowerBoundTimeStampLookaheadIfChanged
    (commitType : LowerBoundTimeStampCommitType) :
    (self.sendCommitLowerBoundTimeStampLookaheadIfChanged logicalTime
      lookahead commitType).notifications = self.notifications :=
  self.notifications_sendCommitLowerBoundTimeStampIfChanged _ _

variable (federateHandle : FederateHandle)

@[simp] theorem notifications_sendCommitLowerBoundTimeStampResponse
    (commitId : Unsigned) :
    (self.sendCommitLowerBoundTimeStampResponse federateHandle
      commitId).notifications = self.notifications := by
  unfold sendCommitLowerBoundTimeStampResponse
  split <;> rfl

@[simp] theorem notifications_sendCommitLowerBoundTimeStampResponses :
    self.sendCommitLowerBoundTimeStampResponses.notifications =
      self.notifications := by
  unfold sendCommitLowerBoundTimeStampResponses
  induction self.federateLowerBoundMap.getNextMessageFederateHandleList
    generalizing self with
  | nil => rfl
  | cons entry rest ih =>
      rw [List.foldl_cons, ih,
        notifications_sendCommitLowerBoundTimeStampResponse]

@[simp] theorem notifications_sendLockedByNextMessageRequestIfChanged
    (previous : Bool) :
    (self.sendLockedByNextMessageRequestIfChanged previous).notifications =
      self.notifications := by
  unfold sendLockedByNextMessageRequestIfChanged
  split <;> rfl

@[simp] theorem notifications_setOutboundLowerTimeStampAndCurrentLookahead
    (last : LogicalTimePair) :
    (self.setOutboundLowerTimeStampAndCurrentLookahead logicalTime
      last).notifications = self.notifications := by
  unfold setOutboundLowerTimeStampAndCurrentLookahead
  dsimp only
  split <;> rfl

/-! ## Pending advances -/

theorem scheduleTimeAdvanceGranted_tells (self : TemplateTimeManagement) :
    self.Tells self.scheduleTimeAdvanceGranted :=
  queueMessage_tells { self with timeAdvanceToBeScheduled := false } _ _

theorem advanceOrCommit_tells
    (canAdvance : Bool) (galt : Option Int) :
    self.Tells (self.advanceOrCommit canAdvance galt) := by
  unfold advanceOrCommit
  dsimp only
  split
  · apply self.scheduleTimeAdvanceGranted_tells.trans
    apply Tells.unchanged
    split
    · rw [notifications_sendCommitLowerBoundTimeStampLookaheadIfChanged]
    · rfl
  · apply Tells.unchanged
    split
    · cases galt with
      | none => rfl
      | some bound =>
          exact self.notifications_sendCommitLowerBoundTimeStampIfChanged _ _
    · rfl

theorem checkForPendingTimeAdvance_tells
    (allowNextMessage : Bool) :
    self.Tells (self.checkForPendingTimeAdvance allowNextMessage) := by
  unfold checkForPendingTimeAdvance
  split
  · exact .refl self
  · split
    · split
      · exact self.advanceOrCommit_tells _ _
      · exact self.advanceOrCommit_tells _ _
    · exact .refl self

theorem checkForPendingFlushQueue_tells (self : TemplateTimeManagement) :
    self.Tells self.checkForPendingFlushQueue := by
  unfold checkForPendingFlushQueue
  split
  · exact self.scheduleTimeAdvanceGranted_tells
  · exact .refl self

/-- The pending advance is checked after a change of something else. -/
theorem Tells.checked
    {self changed : TemplateTimeManagement}
    (same : changed.notifications = self.notifications)
    (previous : Bool) :
    self.Tells
      (changed.sendLockedByNextMessageRequestIfChanged previous
        |>.checkForPendingTimeAdvance true) := by
  apply Tells.trans (Tells.unchanged same)
  apply Tells.trans (Tells.unchanged
    (changed.notifications_sendLockedByNextMessageRequestIfChanged previous))
  exact checkForPendingTimeAdvance_tells _ true

theorem Tells.boundsChanged
    (bounds : FederateHandleLowerBoundTimeStampMap Int) (previous : Bool) :
    self.Tells
      ({ self with federateLowerBoundMap := bounds }
        |>.sendLockedByNextMessageRequestIfChanged previous
        |>.checkForPendingTimeAdvance true) :=
  @Tells.checked self { self with federateLowerBoundMap := bounds } rfl previous

variable (mode : TimeAdvanceMode)

/-! ## Requests -/

theorem notifications_prepareTimeAdvance :
    (self.prepareTimeAdvance logicalTime mode).notifications =
      self.notifications := by
  unfold prepareTimeAdvance
  dsimp only
  split
  · rw [notifications_setOutboundLowerTimeStampAndCurrentLookahead]
    rfl
  · rfl

theorem requestTimeAdvance_tells (self : TemplateTimeManagement) :
    self.Tells self.requestTimeAdvance := by
  unfold requestTimeAdvance
  dsimp only
  apply Tells.trans _ (queueMessage_tells _ _ _)
  apply Tells.unchanged
  split
  · exact self.notifications_sendCommitLowerBoundTimeStampPairIfChanged _ _
  · rfl

theorem notifications_limitPendingLogicalTime (self : TemplateTimeManagement) :
    self.limitPendingLogicalTime.notifications = self.notifications := by
  unfold limitPendingLogicalTime
  split
  · rfl
  · split <;> rfl

theorem requestNextMessage_tells (self : TemplateTimeManagement) :
    self.Tells self.requestNextMessage := by
  unfold requestNextMessage
  dsimp only
  split
  · apply Tells.trans _ (checkForPendingTimeAdvance_tells _ false)
    apply Tells.unchanged
    split
    · rw [notifications_sendCommitLowerBoundTimeStampLookaheadIfChanged]
      exact self.notifications_limitPendingLogicalTime
    · exact self.notifications_limitPendingLogicalTime
  · apply Tells.trans _ (queueMessage_tells _ _ _)
    apply Tells.unchanged
    split
    · exact self.notifications_sendCommitLowerBoundTimeStampIfChanged _ _
    · rfl

theorem notifications_boundPendingLogicalTime (self : TemplateTimeManagement) :
    self.boundPendingLogicalTime.notifications = self.notifications := by
  unfold boundPendingLogicalTime
  split
  · split <;> rfl
  · rfl

theorem scheduleFlushQueue_tells (self : TemplateTimeManagement) :
    self.Tells self.scheduleFlushQueue := by
  have scheduled : ∀ committed : TemplateTimeManagement,
      committed.Tells
        (if committed.getTimeConstrainedEnabled then
          { committed with timeAdvanceToBeScheduled := true }
        else
          committed.queueMessage committed.pendingLogicalTime
            .timeAdvanceGranted) := by
    intro committed
    split
    · exact Tells.unchanged rfl
    · exact queueMessage_tells _ _ _
  unfold scheduleFlushQueue
  dsimp only
  apply Tells.trans _ (scheduled _)
  apply Tells.unchanged
  split
  · exact self.notifications_sendCommitLowerBoundTimeStampIfChanged _ _
  · rfl

theorem requestFlushQueue_tells (self : TemplateTimeManagement) :
    self.Tells self.requestFlushQueue := by
  unfold requestFlushQueue
  dsimp only
  apply Tells.trans _ (scheduleFlushQueue_tells _)
  apply Tells.unchanged
  rw [notifications_boundPendingLogicalTime]
  split
  · exact self.notifications_limitPendingLogicalTime
  · rfl

theorem timeAdvanceRequest_tells :
    self.Tells (self.timeAdvanceRequest logicalTime mode) := by
  apply Tells.trans
    (Tells.unchanged (self.notifications_prepareTimeAdvance logicalTime mode))
  unfold timeAdvanceRequest
  cases mode with
  | timeAdvanceGranted => exact .refl _
  | timeAdvanceRequest => exact requestTimeAdvance_tells _
  | timeAdvanceRequestAvailable => exact requestTimeAdvance_tells _
  | nextMessageRequest => exact requestNextMessage_tells _
  | nextMessageRequestAvailable => exact requestNextMessage_tells _
  | flushQueueRequest => exact requestFlushQueue_tells _

/-! ## Messages -/

theorem reconsiderPendingTime_tells :
    self.Tells (self.reconsiderPendingTime logicalTimePair) := by
  have committed : ∀ limited : TemplateTimeManagement,
      limited.Tells
        ((if limited.timeAdvanceToBeScheduled &&
            limited.getTimeRegulationEnabled then
          limited.sendCommitLowerBoundTimeStampLookaheadIfChanged
            limited.pendingLogicalTime.first limited.targetLookahead
            .nextMessageCommit
        else limited).checkForPendingTimeAdvance true) := by
    intro limited
    apply Tells.trans _ (checkForPendingTimeAdvance_tells _ true)
    apply Tells.unchanged
    split
    · exact limited.notifications_sendCommitLowerBoundTimeStampIfChanged _ _
    · rfl
  unfold reconsiderPendingTime
  split
  · split
    · apply Tells.trans _ (committed _)
      apply Tells.unchanged
      split <;> rfl
    · exact .refl self
  · exact .refl self

theorem queueTimeStampedMessage_tells
    (message : TimeStampedMessage) :
    self.Tells (self.queueTimeStampedMessage message) := by
  unfold queueTimeStampedMessage
  split
  · exact .refl self
  · exact (self.queueMessage_tells _ _).trans (reconsiderPendingTime_tells _ _)

theorem notifications_correctTimeRegulations
    (answers : List (FederateHandle × Int)) :
    (answers.foldl (fun self entry => self.correctTimeRegulation entry.2)
      self).notifications = self.notifications := by
  induction answers generalizing self with
  | nil => rfl
  | cons answer rest ih =>
      rw [List.foldl_cons, ih, correctTimeRegulation]
      split <;> rfl

theorem checkTimeRegulationEnabled_tells (self : TemplateTimeManagement) :
    self.Tells self.checkTimeRegulationEnabled := by
  unfold checkTimeRegulationEnabled
  dsimp only
  split
  · exact .refl self
  · split
    · exact .refl self
    · apply Tells.trans _ (queueMessage_tells _ _ _)
      exact Tells.unchanged (self.notifications_correctTimeRegulations _)

theorem acceptJoinFederateNotify_tells
    (self : TemplateTimeManagement) (federateHandle : FederateHandle) :
    self.Tells (self.acceptJoinFederateNotify federateHandle) := by
  apply Tells.unchanged
  unfold acceptJoinFederateNotify
  dsimp only
  split <;> rfl

theorem removeFederateFromTimeManagement_tells :
    self.Tells (self.removeFederateFromTimeManagement federateHandle) := by
  unfold removeFederateFromTimeManagement
  dsimp only
  apply Tells.trans _ (Tells.checked rfl _)
  split
  · apply Tells.trans _ (checkTimeRegulationEnabled_tells _)
    exact Tells.unchanged rfl
  · exact Tells.unchanged rfl

variable (timeStamp : Int)

theorem acceptEnableTimeRegulationRequest_tells
    (commitId : Unsigned) :
    self.Tells
      (self.acceptEnableTimeRegulationRequest federateHandle timeStamp
        commitId) := by
  unfold acceptEnableTimeRegulationRequest
  dsimp only
  split
  · split
    · exact .refl self
    · apply Tells.trans _ (checkTimeRegulationEnabled_tells _)
      exact Tells.unchanged rfl
  · apply Tells.unchanged
    rw [notifications_sendLockedByNextMessageRequestIfChanged]
    split <;> rfl

theorem acceptEnableTimeRegulationResponse_tells
    (respondingFederateHandle : FederateHandle) (timeStamp : Int)
    (timeStampValid : Bool) :
    self.Tells
      (self.acceptEnableTimeRegulationResponse respondingFederateHandle
        timeStamp timeStampValid) := by
  unfold acceptEnableTimeRegulationResponse
  split
  · exact .refl self
  · apply Tells.trans _ (checkTimeRegulationEnabled_tells _)
    apply Tells.unchanged
    rw [notifications_sendLockedByNextMessageRequestIfChanged]
    rfl

theorem acceptCommitLowerBoundTimeStamp_tells
    {self : TemplateTimeManagement} {federateHandle : FederateHandle}
    {timeStamp : Int} {commitType : LowerBoundTimeStampCommitType}
    {commitId : Unsigned}
    (accepted :
      self.acceptCommitLowerBoundTimeStamp federateHandle timeStamp commitType
        commitId = some after) :
    self.Tells after := by
  obtain ⟨result, -, equal⟩ := Option.map_eq_some_iff.mp accepted
  rw [← equal]
  apply Tells.checked
  split
  · rw [notifications_sendCommitLowerBoundTimeStampResponse]
    rfl
  · rfl

theorem acceptInternalMessage_tells
    {self after : TemplateTimeManagement} {message : Message}
    (accepted : self.acceptInternalMessage message = some after) :
    self.Tells after := by
  cases message with
  | joinFederationExecutionResponse federateHandle =>
      cases accepted
      exact Tells.unchanged rfl
  | joinFederateNotify federateHandle =>
      cases accepted
      exact self.acceptJoinFederateNotify_tells federateHandle
  | resignFederateNotify federateHandle =>
      cases accepted
      apply (self.removeFederateFromTimeManagement_tells federateHandle).trans
      exact Tells.unchanged rfl
  | enableTimeRegulationRequest federateHandle timeStamp commitId =>
      cases accepted
      exact self.acceptEnableTimeRegulationRequest_tells _ _ _
  | enableTimeRegulationResponse _ responding timeStamp valid =>
      cases accepted
      exact self.acceptEnableTimeRegulationResponse_tells _ _ _
  | disableTimeRegulationRequest federateHandle =>
      cases accepted
      exact .boundsChanged self _ _
  | enableTimeConstrainedNotify _ =>
      cases accepted
      exact .refl self
  | disableTimeConstrainedNotify _ =>
      cases accepted
      exact .refl self
  | commitLowerBoundTimeStamp federateHandle timeStamp commitType commitId =>
      exact acceptCommitLowerBoundTimeStamp_tells accepted
  | commitLowerBoundTimeStampResponse _ sending commitId =>
      cases accepted
      exact .boundsChanged self _ _
  | lockedByNextMessageRequest sending locked =>
      cases accepted
      exact .boundsChanged self _ _
  | timeStamped message =>
      cases accepted
      exact self.queueTimeStampedMessage_tells message
  | receiveOrder message =>
      cases accepted
      exact self.queueReceiveOrderMessage_tells message

/-! ## Callbacks -/

/-- How often a message is queued. -/
theorem count_queuedMessages :
    self.queuedMessages.count message =
      (self.receiveOrderMessages.map QueuedMessage.receiveOrder).count
          message +
        self.queued message := by
  rw [queuedMessages, List.count_append, KeyedQueue.values, List.count_flatMap]
  rfl

/-- Time stamped messages are removed without a signal. -/
theorem Tells.taken
    {self : TemplateTimeManagement}
    {messages : OrderedMap LogicalTimePair (List QueuedMessage)}
    (fewer : ∀ message,
      (messages.sum fun values => values.count message) ≤
        self.queued message) :
    self.Tells { self with logicalTimeMessageListMap := messages } := by
  apply @Notifications.Tells.removed self.notifications
  intro message
  have counted := count_queuedMessages
    { self with logicalTimeMessageListMap := messages } message
  have before := self.count_queuedMessages message
  have least := fewer message
  unfold queued at counted
  change (queuedMessages _).count message ≤ self.queuedMessages.count message
  rw [counted, before]
  exact Nat.add_le_add_left least _

theorem cleanOldestMessageLists_tells (self : TemplateTimeManagement) :
    self.Tells self.cleanOldestMessageLists := by
  unfold cleanOldestMessageLists
  dsimp only
  apply Tells.trans _ (checkForPendingFlushQueue_tells _)
  apply self.checkForPendingFlushQueue_tells.trans
  apply Tells.taken
  intro message
  apply Nat.le_of_eq
  apply OrderedMap.sum_dropWhile
  intro values empty
  rw [List.isEmpty_iff.mp empty]
  rfl

theorem popTimeStampOrderMessage_tells (self : TemplateTimeManagement) :
    self.Tells self.popTimeStampOrderMessage.1 := by
  unfold popTimeStampOrderMessage
  split
  next pair message rest least =>
    split
    next =>
      apply Tells.taken
      intro other
      have summed := self.logicalTimeMessageListMap.sum_alter
        (fun values => values.count other) pair
        fun _ => if rest.isEmpty then none else some rest
      rw [OrderedMap.find?_begin? least, OrderedMap.weightOf_some,
        List.count_cons] at summed
      have remaining : OrderedMap.weightOf
          (fun values : List QueuedMessage => values.count other)
          (if rest.isEmpty then none else some rest) = rest.count other := by
        cases rest <;> rfl
      unfold queued
      omega
    next => exact .refl self
  next => exact .refl self

theorem notifications_acceptCallbackMessage :
    (self.acceptCallbackMessage message).notifications =
      self.notifications := by
  cases message with
  | timeAdvanceGranted =>
      have corrected :
          (if (self.getIsAnyNextMessageMode || self.getFlushQueueMode) &&
              self.getTimeRegulationEnabled then
            self.setOutboundLowerTimeStampAndCurrentLookahead
              self.pendingLogicalTime.first
              self.lastOutboundLowerBoundTimeStamp
          else self).notifications = self.notifications := by
        split
        · exact
            self.notifications_setOutboundLowerTimeStampAndCurrentLookahead _ _
        · rfl
      exact corrected
  | _ => rfl

theorem dispatchCallback_tells (self : TemplateTimeManagement) :
    self.Tells self.dispatchCallback.1 := by
  unfold dispatchCallback
  split
  next message rest _ received =>
    apply Tells.trans _
      (Tells.unchanged (notifications_acceptCallbackMessage _ _))
    apply @Notifications.Tells.removed self.notifications
    intro other
    change (queuedMessages _).count other ≤ self.queuedMessages.count other
    rw [count_queuedMessages, count_queuedMessages, received, List.map_cons,
      List.count_cons]
    exact Nat.add_le_add_right (Nat.le_add_right _ _) _
  next =>
    have popped := self.cleanOldestMessageLists_tells.trans
      (popTimeStampOrderMessage_tells _)
    dsimp only
    split
    · exact popped
    · exact popped.trans
        (Tells.unchanged (notifications_acceptCallbackMessage _ _))

theorem callbackMessageAvailable_tells (self : TemplateTimeManagement) :
    self.Tells self.callbackMessageAvailable.1 := by
  unfold callbackMessageAvailable
  split
  · exact .refl self
  · dsimp only
    split
    · exact self.cleanOldestMessageLists_tells
    · exact self.cleanOldestMessageLists_tells

theorem eraseMessagesForObjectInstance_tells
    (objectInstanceHandle : ObjectInstanceHandle) :
    self.Tells (self.eraseMessagesForObjectInstance objectInstanceHandle) := by
  apply @Notifications.Tells.removed self.notifications
  intro message
  change (queuedMessages _).count message ≤ self.queuedMessages.count message
  rw [count_queuedMessages, count_queuedMessages]
  apply Nat.add_le_add
  · exact (List.filter_sublist.map _).count_le message
  · unfold queued
    rw [eraseMessagesForObjectInstance]
    dsimp only
    rw [OrderedMap.sum_mapValues]
    apply OrderedMap.sum_mono
    intro values
    exact List.filter_sublist.count_le message

/-! ## Calls -/

theorem enableTimeRegulationAt_tells :
    self.Tells (self.enableTimeRegulationAt logicalTime lookahead) := by
  apply Tells.unchanged
  unfold enableTimeRegulationAt
  dsimp only
  rw [notifications_sendCommitLowerBoundTimeStampResponses]
  rfl

theorem enableTimeConstrained_tells (self : TemplateTimeManagement) :
    self.Tells self.enableTimeConstrained :=
  queueMessage_tells
    { self with
      timeConstrainedMode := .timeConstrainedEnablePending
      pendingLogicalTime := ⟨self.logicalTime.first, 0⟩ }
    _ _

theorem modifyLookahead_tells :
    self.Tells (self.modifyLookahead lookahead) := by
  apply Tells.unchanged
  unfold modifyLookahead
  dsimp only
  rw [notifications_sendCommitLowerBoundTimeStampPairIfChanged,
    notifications_setOutboundLowerTimeStampAndCurrentLookahead]
  rfl

theorem sendWithTimeStamp_tells
    (orderType : OrderType)
    (objectInstanceHandle : Option ObjectInstanceHandle)
    (deliverToSelf : Bool) :
    self.Tells
      (Ambassador.sendWithTimeStamp self timeStamp orderType
        objectInstanceHandle deliverToSelf) := by
  unfold Ambassador.sendWithTimeStamp
  dsimp only
  split
  · apply Tells.trans _ (Tells.unchanged rfl)
    split
    · exact self.queueTimeStampedMessage_tells _
    · exact .refl self
  · apply Tells.trans _ (Tells.unchanged rfl)
    split
    · exact self.queueReceiveOrderMessage_tells _
    · exact .refl self

theorem call_tells
    {self : TemplateTimeManagement} {service : Ambassador.Call}
    (called : Ambassador.call self service = .ok after) :
    self.Tells after := by
  cases service with
  | enableTimeRegulation lookahead =>
      obtain ⟨-, -, -, equal⟩ := Ambassador.enableTimeRegulation_ok called
      rw [equal]
      exact self.enableTimeRegulationAt_tells _ _
  | enableTimeRegulationAt logicalTime lookahead =>
      obtain ⟨-, -, -, -, equal⟩ := Ambassador.enableTimeRegulationAt_ok called
      rw [equal]
      exact self.enableTimeRegulationAt_tells _ _
  | disableTimeRegulation =>
      obtain ⟨-, equal⟩ := Ambassador.disableTimeRegulation_ok called
      rw [equal]
      exact Tells.unchanged rfl
  | enableTimeConstrained =>
      obtain ⟨-, -, equal⟩ := Ambassador.enableTimeConstrained_ok called
      rw [equal]
      exact self.enableTimeConstrained_tells
  | disableTimeConstrained =>
      obtain ⟨-, equal⟩ := Ambassador.disableTimeConstrained_ok called
      rw [equal]
      exact Tells.unchanged rfl
  | timeAdvanceRequest logicalTime mode =>
      obtain ⟨-, -, -, -, equal⟩ := Ambassador.timeAdvanceRequest_ok called
      rw [equal]
      exact self.timeAdvanceRequest_tells _ _
  | modifyLookahead lookahead =>
      obtain ⟨-, -, -, -, equal⟩ := Ambassador.modifyLookahead_ok called
      rw [equal]
      exact self.modifyLookahead_tells lookahead
  | enableAsynchronousDelivery =>
      obtain ⟨-, equal⟩ := Ambassador.enableAsynchronousDelivery_ok called
      rw [equal]
      exact Tells.unchanged rfl
  | disableAsynchronousDelivery =>
      obtain ⟨-, equal⟩ := Ambassador.disableAsynchronousDelivery_ok called
      rw [equal]
      exact Tells.unchanged rfl
  | allowPendingTimeInNextMessageRequest =>
      obtain ⟨-, equal⟩ :=
        Ambassador.allowPendingTimeInNextMessageRequest_ok called
      rw [equal]
      exact Tells.unchanged rfl
  | disallowPendingTimeInNextMessageRequest =>
      obtain ⟨-, equal⟩ :=
        Ambassador.disallowPendingTimeInNextMessageRequest_ok called
      rw [equal]
      exact Tells.unchanged rfl
  | sendTimeStampedMessage timeStamp orderType objectInstanceHandle
      deliverToSelf =>
      obtain ⟨-, equal⟩ := Ambassador.sendTimeStampedMessage_ok called
      rw [equal]
      exact self.sendWithTimeStamp_tells _ _ _ _
  | deleteObjectInstance timeStamp orderType objectInstanceHandle =>
      obtain ⟨-, equal⟩ := Ambassador.deleteObjectInstance_ok called
      rw [equal]
      exact self.sendWithTimeStamp_tells _ _ _ _

end TemplateTimeManagement
end TimeManagement
end OpenRTI
