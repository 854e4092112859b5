import OpenRTI.Foundation.DeliveryOrder
import OpenRTI.TimeManagement.DeliveryOperations

/-!
# Time stamp ordered delivery

A time constrained federate is followed while it requests time advances other
than flush queue requests.  Messages arrive that are not below the least bound
of the other federates, whose commits only raise that bound.  The time stamped
messages are then delivered in the order of their time stamps, none beyond the
pending time, and a grant leaves none behind.
-/

namespace OpenRTI
namespace TimeManagement

open Foundation

namespace FederateInput

/-- The time stamped message that an input brings in: one from the server, or
one that the federate sends to itself. -/
def arrival (self : TemplateTimeManagement) :
    FederateInput → Option TimeStampedMessage
  | .receive (.timeStamped message) => some message
  | .call (.sendTimeStampedMessage timeStamp orderType objectInstanceHandle
      deliverToSelf) =>
      if self.getTimeRegulationEnabled && orderType = .timestamp &&
          deliverToSelf then
        some ⟨self.federateHandle, timeStamp, objectInstanceHandle⟩
      else none
  | _ => none

/-- The time stamped message that an input delivers. -/
def delivery (self : TemplateTimeManagement) :
    FederateInput → Option TimeStampedMessage
  | .dispatchCallback =>
      self.dispatchCallback.2.bind QueuedMessage.timeStamped?
  | _ => none

/-- A commit does not take back what its sender has committed for time
advances. -/
def keepsCommit
    (self : TemplateTimeManagement)
    (federateHandle : FederateHandle)
    (timeStamp : Int)
    (commitType : LowerBoundTimeStampCommitType) : Bool :=
  !commitType.timeAdvance ||
    (self.federateLowerBoundMap.find? federateHandle).all fun commit =>
      commit.timeAdvanceCommit ≤ timeStamp

/-- What goes on while a constrained federate advances: messages and commits of
the other federates, requests other than flush queue requests, and callbacks.
No message arrives below the least bound of the other federates; without one
that bound is infinite. -/
def advancing
    (self : TemplateTimeManagement)
    (input : FederateInput) : Bool :=
  (match input with
    | .call (.timeAdvanceRequest _ mode) => mode ≠ .flushQueueRequest
    | .call (.modifyLookahead _) => true
    | .call .enableAsynchronousDelivery => true
    | .call .disableAsynchronousDelivery => true
    | .call .allowPendingTimeInNextMessageRequest => true
    | .call .disallowPendingTimeInNextMessageRequest => true
    | .call (.sendTimeStampedMessage _ _ _ _) => true
    | .call (.deleteObjectInstance _ _ _) => true
    | .call _ => false
    | .receive (.commitLowerBoundTimeStamp federateHandle timeStamp commitType
        _) => keepsCommit self federateHandle timeStamp commitType
    | .receive (.commitLowerBoundTimeStampResponse _ _ _) => true
    | .receive (.lockedByNextMessageRequest _ _) => true
    | .receive (.timeStamped _) => true
    | .receive (.receiveOrder _) => true
    | .receive _ => false
    | _ => true) &&
  (input.arrival self).all fun message =>
    self.federateLowerBoundMap.getGALT.any fun galt =>
      galt ≤ message.timeStamp

end FederateInput

/-- A federate with the time stamped messages that have arrived and those that
have been delivered. -/
structure DeliveryState where
  federate : TemplateTimeManagement
  arrived : List TimeStampedMessage
  delivered : List TimeStampedMessage

/-- The messages that are queued, in the order of the queue. -/
def TemplateTimeManagement.queuedTimeStamped
    (self : TemplateTimeManagement) : List TimeStampedMessage :=
  (KeyedQueue.values self.logicalTimeMessageListMap).filterMap
    QueuedMessage.timeStamped?

/-- The runs of an advancing federate from a state on. -/
def timeStampOrder (start : TemplateTimeManagement) :
    TransitionSystem DeliveryState FederateInput where
  initial := ⟨start, start.queuedTimeStamped, []⟩
  next state input :=
    if input.advancing state.federate then
      (input.apply state.federate).map fun after =>
        ⟨after, state.arrived ++ (input.arrival state.federate).toList,
          state.delivered ++ (input.delivery state.federate).toList⟩
    else none

variable {bounds : FederateHandleLowerBoundTimeStampMap Int}
variable {federateHandle : FederateHandle}

/-! ## The least bound only rises -/

namespace FederateHandleLowerBoundTimeStampMap

/-- A commit that is not lowered does not lower the least bound. -/
theorem le_getGALT_setCommit
    {commit changed : Commit Int}
    (found : bounds.find? federateHandle = some commit)
    (raised : commit.timeAdvanceCommit ≤ changed.timeAdvanceCommit) :
    DeliveryOrder.Rises bounds.getGALT
      (bounds.setCommit federateHandle commit changed found).getGALT := by
  have leastOf : ∀ logicalTime,
      0 < bounds.timeAdvanceLogicalTimeFederateCountMap.count logicalTime →
      ∃ galt, bounds.getGALT = some galt ∧ galt ≤ logicalTime := by
    intro logicalTime counted
    cases least : bounds.getGALT with
    | none =>
        exact absurd least
          (LogicalTimeFederateCountMap.begin?_ne_none counted)
    | some galt =>
        exact ⟨galt, rfl, LogicalTimeFederateCountMap.begin?_le least counted⟩
  have old := counted_pos bounds.timeAdvanceCounted found
  intro galt moved
  have counted := LogicalTimeFederateCountMap.count_begin? moved
  have counts :=
    bounds.timeAdvanceLogicalTimeFederateCountMap.count_move
      commit.timeAdvanceCommit changed.timeAdvanceCommit galt old
  by_cases before :
      0 < bounds.timeAdvanceLogicalTimeFederateCountMap.count galt
  · exact leastOf galt before
  · have isNew : galt = changed.timeAdvanceCommit := by
      by_contra different
      rw [if_neg different] at counts
      change 0 < ((bounds.timeAdvanceLogicalTimeFederateCountMap.move
        commit.timeAdvanceCommit changed.timeAdvanceCommit).1).count galt
        at counted
      omega
    obtain ⟨least, isLeast, lower⟩ := leastOf _ old
    exact ⟨least, isLeast, isNew ▸ lower.trans raised⟩

end FederateHandleLowerBoundTimeStampMap

variable {view : DeliveryQueue}

/-! ## Steps that deliver nothing -/

namespace DeliveryQueue

/-- Nothing arrives and nothing is delivered: messages may be lost and the
bound may rise. -/
structure Quiet (view after : DeliveryQueue) : Prop where
  fewer :
    ∀ timeStamp,
      (after.timeStampedAt timeStamp).Sublist (view.timeStampedAt timeStamp)
  timeConstrainedMode : after.timeConstrainedMode = view.timeConstrainedMode
  notFlushQueue :
    view.timeAdvanceMode ≠ .flushQueueRequest →
      after.timeAdvanceMode ≠ .flushQueueRequest
  rises : DeliveryOrder.Rises view.galt after.galt

theorem Quiet.refl (view : DeliveryQueue) : view.Quiet view where
  fewer := fun _ => List.Sublist.refl _
  timeConstrainedMode := rfl
  notFlushQueue := id
  rises := .refl _

variable {after : DeliveryQueue}

theorem Quiet.trans
    {middle : DeliveryQueue}
    (first : view.Quiet middle) (second : middle.Quiet after) :
    view.Quiet after where
  fewer := fun timeStamp =>
    (second.fewer timeStamp).trans (first.fewer timeStamp)
  timeConstrainedMode :=
    second.timeConstrainedMode.trans first.timeConstrainedMode
  notFlushQueue := fun notFlush =>
    second.notFlushQueue (first.notFlushQueue notFlush)
  rises := first.rises.trans second.rises

theorem Checked.quiet
    (checked : Checked view after) :
    view.Quiet after := by
  cases checked with
  | unchanged => exact .refl view
  | granted =>
      refine ⟨fun timeStamp => ?_, rfl, id, .refl _⟩
      have same : view.scheduleGrant.timeStampedAt = view.timeStampedAt :=
        timeStampedAt_enqueue_of_none rfl
      rw [same]

theorem Advances.quiet
    {mode : TimeAdvanceMode}
    (notFlush : mode ≠ .flushQueueRequest)
    (advances : Advances view mode after) :
    view.Quiet after := by
  cases advances with
  | queued pending nonneg =>
      refine ⟨fun timeStamp => ?_, rfl, fun _ => notFlush, .refl _⟩
      rw [timeStampedAt_enqueue_of_none rfl]
      exact List.Sublist.refl _
  | scheduled pending nonneg =>
      exact ⟨fun _ => List.Sublist.refl _, rfl, fun _ => notFlush, .refl _⟩

/-- The bounds of the other federates rise, and the pending advance is
checked. -/
theorem Checked.quiet_of_rises
    {view after : DeliveryQueue} {galt : Option Int}
    (rises : DeliveryOrder.Rises view.galt galt)
    (checked : Checked { view with galt := galt } after) :
    view.Quiet after := by
  have risen : view.Quiet { view with galt := galt } :=
    ⟨fun _ => List.Sublist.refl _, rfl, id, rises⟩
  exact risen.trans checked.quiet

end DeliveryQueue

variable {after self : TemplateTimeManagement} {timeStamp : Int}
variable {message : TimeStampedMessage}

namespace TemplateTimeManagement

open DeliveryQueue

theorem checkChangedBounds_quiet
    (rises :
      DeliveryOrder.Rises self.federateLowerBoundMap.getGALT bounds.getGALT)
    (previous : Bool) :
    self.deliveryQueue.Quiet
      ({ self with federateLowerBoundMap := bounds }
        |>.sendLockedByNextMessageRequestIfChanged previous
        |>.checkForPendingTimeAdvance true).deliveryQueue := by
  have checked := checkForPendingTimeAdvance_checked
    ({ self with federateLowerBoundMap := bounds }
      |>.sendLockedByNextMessageRequestIfChanged previous) true
  rw [deliveryQueue_sendLockedByNextMessageRequestIfChanged] at checked
  exact @Checked.quiet_of_rises self.deliveryQueue _ bounds.getGALT rises
    checked

theorem acceptCommitLowerBoundTimeStamp_quiet
    {commitType : LowerBoundTimeStampCommitType} {commitId : Unsigned}
    (keeps :
      FederateInput.keepsCommit self federateHandle timeStamp commitType =
        true)
    (accepted :
      self.acceptCommitLowerBoundTimeStamp federateHandle timeStamp commitType
        commitId = some after) :
    self.deliveryQueue.Quiet after.deliveryQueue := by
  obtain ⟨result, committed, equal⟩ := Option.map_eq_some_iff.mp accepted
  have rises :
      DeliveryOrder.Rises self.federateLowerBoundMap.getGALT
        result.1.getGALT := by
    unfold FederateHandleLowerBoundTimeStampMap.commit at committed
    split at committed
    next => cases committed
    next commit found =>
      cases committed
      apply FederateHandleLowerBoundTimeStampMap.le_getGALT_setCommit found
      change _ ≤ if commitType.timeAdvance then timeStamp
        else commit.timeAdvanceCommit
      split
      next advances =>
        simpa [FederateInput.keepsCommit, advances, found] using keeps
      next => exact le_refl _
  have responded : ∀ before : TemplateTimeManagement,
      (if result.2.2 then
        before.sendCommitLowerBoundTimeStampResponse federateHandle commitId
      else before).deliveryQueue = before.deliveryQueue := by
    intro before
    split
    · rw [deliveryQueue_sendCommitLowerBoundTimeStampResponse]
    · rfl
  have checked := checkForPendingTimeAdvance_checked
    ((if result.2.2 then
        sendCommitLowerBoundTimeStampResponse
          { self with federateLowerBoundMap := result.1 } federateHandle
          commitId
      else { self with federateLowerBoundMap := result.1 })
      |>.sendLockedByNextMessageRequestIfChanged self.getLockedByNextMessage)
    true
  rw [deliveryQueue_sendLockedByNextMessageRequestIfChanged, responded]
    at checked
  rw [← equal]
  exact @Checked.quiet_of_rises self.deliveryQueue _ result.1.getGALT rises
    checked

theorem acceptCommitLowerBoundTimeStampResponse_quiet
    (self : TemplateTimeManagement) (sendingFederateHandle : FederateHandle)
    (commitId : Unsigned) :
    self.deliveryQueue.Quiet
      (self.acceptCommitLowerBoundTimeStampResponse sendingFederateHandle
        commitId).deliveryQueue := by
  apply checkChangedBounds_quiet
  unfold FederateHandleLowerBoundTimeStampMap.setFederateWaitCommitId
  split
  · exact .refl _
  next commit found =>
    exact FederateHandleLowerBoundTimeStampMap.le_getGALT_setCommit found
      (le_refl _)

theorem acceptLockedByNextMessageRequest_quiet
    (self : TemplateTimeManagement) (sendingFederateHandle : FederateHandle)
    (lockedByNextMessage : Bool) :
    self.deliveryQueue.Quiet
      (self.acceptLockedByNextMessageRequest sendingFederateHandle
        lockedByNextMessage).deliveryQueue := by
  apply checkChangedBounds_quiet
  unfold FederateHandleLowerBoundTimeStampMap.setFederateLockedByNextMessage
  split
  · exact .refl _
  next commit found =>
    exact FederateHandleLowerBoundTimeStampMap.le_getGALT_setCommit found
      (le_refl _)

theorem cleanOldestMessageLists_quiet (self : TemplateTimeManagement) :
    self.deliveryQueue.Quiet self.cleanOldestMessageLists.deliveryQueue := by
  obtain ⟨view, first, second⟩ := self.cleanOldestMessageLists_checked
  exact first.quiet.trans second.quiet

theorem callbackMessageAvailable_quiet (self : TemplateTimeManagement) :
    self.deliveryQueue.Quiet
      self.callbackMessageAvailable.1.deliveryQueue := by
  unfold callbackMessageAvailable
  split
  · exact .refl _
  · dsimp only
    split
    · exact self.cleanOldestMessageLists_quiet
    · exact self.cleanOldestMessageLists_quiet

theorem eraseMessagesForObjectInstance_quiet
    (self : TemplateTimeManagement)
    (objectInstanceHandle : ObjectInstanceHandle) :
    self.deliveryQueue.Quiet
      (self.eraseMessagesForObjectInstance
        objectInstanceHandle).deliveryQueue := by
  rw [deliveryQueue_eraseMessagesForObjectInstance]
  refine ⟨fun timeStamp => ?_, rfl, id, .refl _⟩
  exact List.filter_sublist.filterMap _

/-- A call that sends nothing to the federate itself. -/
theorem call_quiet
    (regular : self.deliveryQueue.Regular)
    {service : Ambassador.Call}
    (advancing : FederateInput.advancing self (.call service) = true)
    (noArrival : FederateInput.arrival self (.call service) = none)
    (called : Ambassador.call self service = .ok after) :
    self.deliveryQueue.Quiet after.deliveryQueue := by
  cases service with
  | enableTimeRegulation lookahead => cases advancing
  | enableTimeRegulationAt logicalTime lookahead => cases advancing
  | disableTimeRegulation => cases advancing
  | enableTimeConstrained => cases advancing
  | disableTimeConstrained => cases advancing
  | timeAdvanceRequest logicalTime mode =>
      obtain ⟨-, granted, -, -, equal⟩ :=
        Ambassador.timeAdvanceRequest_ok called
      rw [equal]
      refine Advances.quiet ?_
        (timeAdvanceRequest_advances regular granted logicalTime mode)
      intro flush
      cases mode <;> cases flush
      cases advancing
  | modifyLookahead lookahead =>
      obtain ⟨-, -, -, -, equal⟩ := Ambassador.modifyLookahead_ok called
      rw [equal, deliveryQueue_modifyLookahead]
      exact .refl _
  | enableAsynchronousDelivery =>
      obtain ⟨-, equal⟩ := Ambassador.enableAsynchronousDelivery_ok called
      rw [equal]
      exact .refl _
  | disableAsynchronousDelivery =>
      obtain ⟨-, equal⟩ := Ambassador.disableAsynchronousDelivery_ok called
      rw [equal]
      exact .refl _
  | allowPendingTimeInNextMessageRequest =>
      obtain ⟨-, equal⟩ :=
        Ambassador.allowPendingTimeInNextMessageRequest_ok called
      rw [equal]
      exact .refl _
  | disallowPendingTimeInNextMessageRequest =>
      obtain ⟨-, equal⟩ :=
        Ambassador.disallowPendingTimeInNextMessageRequest_ok called
      rw [equal]
      exact .refl _
  | sendTimeStampedMessage timeStamp orderType objectInstanceHandle
      deliverToSelf =>
      obtain ⟨-, equal⟩ := Ambassador.sendTimeStampedMessage_ok called
      rw [equal]
      unfold Ambassador.sendWithTimeStamp
      split
      next enabled =>
        cases deliverToSelf with
        | true => simp [FederateInput.arrival, enabled] at noArrival
        | false => exact .refl _
      next =>
        cases deliverToSelf <;> exact .refl _
  | deleteObjectInstance timeStamp orderType objectInstanceHandle =>
      obtain ⟨-, equal⟩ := Ambassador.deleteObjectInstance_ok called
      rw [equal]
      unfold Ambassador.sendWithTimeStamp
      split <;> exact .refl _

theorem acceptInternalMessage_quiet
    {message : Message}
    (advancing : FederateInput.advancing self (.receive message) = true)
    (noArrival : FederateInput.arrival self (.receive message) = none)
    (accepted : self.acceptInternalMessage message = some after) :
    self.deliveryQueue.Quiet after.deliveryQueue := by
  unfold FederateInput.advancing at advancing
  have allowed := (Bool.and_eq_true _ _ ▸ advancing).1
  cases message with
  | joinFederationExecutionResponse federateHandle => cases allowed
  | joinFederateNotify federateHandle => cases allowed
  | resignFederateNotify federateHandle => cases allowed
  | enableTimeRegulationRequest federateHandle timeStamp commitId =>
      cases allowed
  | enableTimeRegulationResponse _ responding timeStamp valid => cases allowed
  | disableTimeRegulationRequest federateHandle => cases allowed
  | enableTimeConstrainedNotify _ => cases allowed
  | disableTimeConstrainedNotify _ => cases allowed
  | commitLowerBoundTimeStamp federateHandle timeStamp commitType commitId =>
      exact acceptCommitLowerBoundTimeStamp_quiet allowed accepted
  | commitLowerBoundTimeStampResponse _ sending commitId =>
      cases accepted
      exact self.acceptCommitLowerBoundTimeStampResponse_quiet _ _
  | lockedByNextMessageRequest sending locked =>
      cases accepted
      exact self.acceptLockedByNextMessageRequest_quiet _ _
  | timeStamped message => cases noArrival
  | receiveOrder message =>
      cases accepted
      exact .refl _

/-- The input that brings in a message queues it. -/
theorem deliveryQueue_of_arrival
    {input : FederateInput}
    (arrival : input.arrival self = some message)
    (stepped : input.apply self = some after) :
    after.deliveryQueue =
      (self.queueTimeStampedMessage message).deliveryQueue := by
  unfold FederateInput.arrival at arrival
  split at arrival
  next received =>
    cases arrival
    cases stepped
    rfl
  next timeStamp orderType objectInstanceHandle deliverToSelf =>
    split at arrival
    next toSelf =>
      cases arrival
      rw [Bool.and_eq_true, Bool.and_eq_true] at toSelf
      obtain ⟨⟨enabled, isTimeStamp⟩, toSelf⟩ := toSelf
      obtain ⟨-, called⟩ := FederateInput.apply_call_eq_some.mp stepped
      obtain ⟨-, equal⟩ := Ambassador.sendTimeStampedMessage_ok called
      rw [equal, of_decide_eq_true isTimeStamp, toSelf]
      unfold Ambassador.sendWithTimeStamp
      rw [enabled]
      rfl
    next => cases arrival
  next => cases arrival

end TemplateTimeManagement

/-! ## Delivery -/

namespace DeliveryState

open DeliveryQueue
open TemplateTimeManagement

/-- The queue of time stamped messages with its history. -/
def order (state : DeliveryState) :
    DeliveryOrder Int TimeStampedMessage where
  queuedAt := state.federate.deliveryQueue.timeStampedAt
  bound := state.federate.deliveryQueue.galt
  arrived := state.arrived
  delivered := state.delivered

/-- A time constrained federate that advances, other than by a flush queue
request. -/
structure Delivering (state : DeliveryState) : Prop where
  regular : state.federate.deliveryQueue.Regular
  constrained :
    state.federate.deliveryQueue.timeConstrainedMode = .timeConstrainedEnabled
  notFlushQueue :
    state.federate.deliveryQueue.timeAdvanceMode ≠ .flushQueueRequest
  ordered : state.order.Ordered TimeStampedMessage.timeStamp

variable {state : DeliveryState}

/-- A step that delivers nothing. -/
theorem Delivering.quiet
    (delivering : state.Delivering) (regular : after.deliveryQueue.Regular)
    (quiet : state.federate.deliveryQueue.Quiet after.deliveryQueue) :
    Delivering { state with federate := after } where
  regular := regular
  constrained := quiet.timeConstrainedMode.trans delivering.constrained
  notFlushQueue := quiet.notFlushQueue delivering.notFlushQueue
  ordered := delivering.ordered.change quiet.fewer quiet.rises

/-- A message arrives. -/
theorem Delivering.arrive
    (delivering : state.Delivering)
    {galt : Int}
    (least : state.federate.deliveryQueue.galt = some galt)
    (above : galt ≤ message.timeStamp)
    (equal :
      after.deliveryQueue =
        (state.federate.queueTimeStampedMessage message).deliveryQueue) :
    Delivering
      { state with
        federate := after
        arrived := state.arrived ++ [message] } := by
  have regular :=
    queueTimeStampedMessage_regularQueue delivering.regular message
  rw [← equal] at regular
  rcases state.federate.queueTimeStampedMessage_cases message
    with dropped | ⟨first, -, -, checked⟩
  · rw [dropped] at equal
    have kept := delivering.quiet regular (equal ▸ Quiet.refl _)
    exact
      { regular := regular
        constrained := kept.constrained
        notFlushQueue := kept.notFlushQueue
        ordered := kept.ordered.drop message }
  · have arrived := delivering.ordered.arrive least above
    have queued :
        (fun timeStamp =>
          state.federate.deliveryQueue.timeStampedAt timeStamp ++
            if timeStamp = message.timeStamp then [message] else []) =
          (state.federate.deliveryQueue.enqueue ⟨message.timeStamp, -1⟩
            (.timeStamped message)).timeStampedAt :=
      funext fun timeStamp =>
        (timeStampedAt_enqueue _ message timeStamp).symm
    change DeliveryOrder.Ordered _ ⟨fun timeStamp =>
      state.federate.deliveryQueue.timeStampedAt timeStamp ++
        if timeStamp = message.timeStamp then [message] else [], _, _, _⟩
      at arrived
    rw [queued] at arrived
    have quiet := checked.quiet
    rw [← equal] at quiet
    exact
      { regular := regular
        constrained :=
          quiet.timeConstrainedMode.trans delivering.constrained
        notFlushQueue := quiet.notFlushQueue delivering.notFlushQueue
        ordered := arrived.change quiet.fewer quiet.rises }

variable {pair : LogicalTimePair}

/-- Where the federate is, messages at a time pair are permitted only up to the
pending time and the least bound. -/
theorem permitted_of_constrained
    (constrained : self.timeConstrainedMode = .timeConstrainedEnabled)
    (notFlush : self.timeAdvanceMode ≠ .flushQueueRequest)
    (permitted : self.timeStampOrderMessagesPermitted pair = true) :
    pair ≤ self.pendingLogicalTime ∧ self.canAdvanceTo pair = true := by
  unfold timeStampOrderMessagesPermitted at permitted
  have notFlushMode : self.getFlushQueueMode = false :=
    decide_eq_false notFlush
  have enabled : self.getTimeConstrainedEnabledOrPending = true := by
    unfold getTimeConstrainedEnabledOrPending
    rw [constrained]
    rfl
  rw [notFlushMode, enabled] at permitted
  change (if self.pendingLogicalTime < pair then false
    else self.canAdvanceTo pair) = true at permitted
  split at permitted
  · cases permitted
  next notBeyond => exact ⟨not_lt.mp notBeyond, permitted⟩

variable {message : QueuedMessage}

/-- A message that is not a time stamped one leaves those as they are. -/
theorem timeStampedAt_taken
    {rest : List QueuedMessage}
    (first : view.messagesAt pair = message :: rest)
    (grants : Nat) (timeStamp : Int) :
    List.Sublist
      (timeStampedAt
        { view with
          messagesAt := fun other =>
            if other = pair then rest else view.messagesAt other
          grants := grants }
        timeStamp)
      (view.timeStampedAt timeStamp) := by
  unfold timeStampedAt
  dsimp only
  apply List.Sublist.filterMap
  split
  next same =>
    rw [same, first]
    exact List.sublist_cons_self _ _
  next => exact List.Sublist.refl _

variable {popped : TemplateTimeManagement}

/-- A message that is not a time stamped one takes effect. -/
theorem acceptCallbackMessage_quiet
    (constrained : self.timeConstrainedMode = .timeConstrainedEnabled)
    (taken : self.popTimeStampOrderMessage = (popped, some message))
    (other : message.timeStamped? = none) :
    self.deliveryQueue.Quiet
      (popped.acceptCallbackMessage message).deliveryQueue := by
  obtain ⟨pair, rest, least, -, equal⟩ := popTimeStampOrderMessage_some taken
  obtain ⟨grants, -, view⟩ := deliveryQueue_taken least
  rw [← equal] at view
  have first : self.deliveryQueue.messagesAt pair = message :: rest :=
    KeyedQueue.listAt_begin? least
  have quiet : self.deliveryQueue.Quiet popped.deliveryQueue := by
    rw [view]
    exact ⟨timeStampedAt_taken first grants, rfl, id, .refl _⟩
  cases message with
  | timeStamped stamped => cases other
  | receiveOrder received => exact quiet
  | timeConstrainedEnabled =>
      exact ⟨quiet.fewer, constrained.symm, quiet.notFlushQueue, quiet.rises⟩
  | timeRegulationEnabled =>
      exact ⟨quiet.fewer, quiet.timeConstrainedMode, quiet.notFlushQueue,
        quiet.rises⟩
  | timeAdvanceGranted =>
      change self.deliveryQueue.Quiet
        popped.acceptTimeAdvanceGranted.deliveryQueue
      rw [deliveryQueue_acceptTimeAdvanceGranted]
      exact ⟨quiet.fewer, quiet.timeConstrainedMode,
        fun _ => TimeAdvanceMode.noConfusion, quiet.rises⟩

/-- A time stamped message is taken off the queue. -/
theorem Delivering.deliver
    (delivering : state.Delivering)
    {message : TimeStampedMessage}
    (taken :
      state.federate.popTimeStampOrderMessage =
        (popped, some (.timeStamped message))) :
    Delivering
      { state with
        federate := popped
        delivered := state.delivered ++ [message] } := by
  have regular := acceptCallbackMessage_regularQueue delivering.regular taken
  obtain ⟨pair, rest, least, permitted, equal⟩ :=
    popTimeStampOrderMessage_some taken
  obtain ⟨grants, -, view⟩ := deliveryQueue_taken least
  rw [← equal] at view
  have first :
      state.federate.deliveryQueue.messagesAt pair =
        .timeStamped message :: rest :=
    KeyedQueue.listAt_begin? least
  have isPair : pair = ⟨message.timeStamp, -1⟩ := by
    apply delivering.regular.stampedAt pair message
    rw [first]
    exact List.mem_cons_self
  have queued :
      state.federate.deliveryQueue.timeStampedAt message.timeStamp =
        message :: rest.filterMap QueuedMessage.timeStamped? := by
    unfold timeStampedAt
    rw [← isPair, first]
    rfl
  have ordered := delivering.ordered.deliver queued ?_ ?_
  · have remaining :
        (fun other =>
          if other = message.timeStamp then
            rest.filterMap QueuedMessage.timeStamped?
          else state.federate.deliveryQueue.timeStampedAt other) =
          popped.deliveryQueue.timeStampedAt := by
      rw [view]
      funext other
      unfold timeStampedAt
      dsimp only
      by_cases same : other = message.timeStamp
      · rw [if_pos same, if_pos (by rw [same, isPair])]
      · rw [if_neg same, if_neg]
        intro samePair
        rw [isPair] at samePair
        exact same (congrArg LogicalTimePair.first samePair)
    change DeliveryOrder.Ordered _ ⟨fun other =>
      if other = message.timeStamp then
        rest.filterMap QueuedMessage.timeStamped?
      else state.federate.deliveryQueue.timeStampedAt other, _, _, _⟩
      at ordered
    rw [remaining] at ordered
    exact
      { regular := regular
        constrained := view ▸ delivering.constrained
        notFlushQueue := view ▸ delivering.notFlushQueue
        ordered :=
          ordered.change (fun _ => List.Sublist.refl _) (view ▸ .refl _) }
  · intro other later member
    have below := KeyedQueue.begin?_le_of_mem least
      (mem_timeStampedAt.mp member)
    rw [isPair, LogicalTimePair.le_iff] at below
    dsimp only at below
    omega
  · have within := (permitted_of_constrained delivering.constrained
      delivering.notFlushQueue permitted).2
    rw [isPair, canAdvanceTo] at within
    intro galt isBound
    change state.federate.federateLowerBoundMap.getGALT = some galt at isBound
    rw [FederateHandleLowerBoundTimeStampMap.canAdvanceTo, isBound] at within
    exact of_decide_eq_true within

theorem Delivering.dispatch
    (delivering : state.Delivering) :
    Delivering
      { state with
        federate := state.federate.dispatchCallback.1
        delivered := state.delivered ++
          (FederateInput.delivery state.federate .dispatchCallback).toList } := by
  have cleaned := delivering.quiet
    (cleanOldestMessageLists_regularQueue delivering.regular)
    state.federate.cleanOldestMessageLists_quiet
  unfold FederateInput.delivery
  rcases state.federate.dispatchCallback_cases with
    ⟨message, rest, -, -, delivered⟩ | none | ⟨popped, message, taken, accepted⟩
  · rw [delivered]
    change Delivering ⟨_, _, state.delivered ++ []⟩
    rw [List.append_nil]
    exact delivering.quiet delivering.regular (.refl _)
  · rw [none]
    change Delivering ⟨_, _, state.delivered ++ []⟩
    rw [List.append_nil]
    exact cleaned
  · rw [accepted]
    cases stamped : message.timeStamped? with
    | none =>
        change Delivering
          ⟨_, _, state.delivered ++ message.timeStamped?.toList⟩
        rw [stamped]
        change Delivering ⟨_, _, state.delivered ++ []⟩
        rw [List.append_nil]
        exact cleaned.quiet
          (acceptCallbackMessage_regularQueue cleaned.regular taken)
          (acceptCallbackMessage_quiet cleaned.constrained taken stamped)
    | some timeStamped =>
        rw [QueuedMessage.timeStamped?_eq_some.mp stamped] at taken ⊢
        exact cleaned.deliver taken

/-- Every step keeps the order of delivery. -/
theorem Delivering.step
    {before after : DeliveryState} {start : TemplateTimeManagement}
    {input : FederateInput}
    (delivering : before.Delivering)
    (stepped : (timeStampOrder start).next before input = some after) :
    after.Delivering := by
  unfold timeStampOrder at stepped
  dsimp only at stepped
  split at stepped
  next advancing =>
    obtain ⟨next, applied, equal⟩ := Option.map_eq_some_iff.mp stepped
    rw [← equal]
    have regular := apply_regularQueue delivering.regular applied
    cases arrives : input.arrival before.federate with
    | some message =>
        have notDispatched : input.delivery before.federate = none := by
          cases input with
          | dispatchCallback => cases arrives
          | _ => rfl
        rw [notDispatched]
        have allowed := advancing
        unfold FederateInput.advancing at allowed
        rw [Bool.and_eq_true, arrives] at allowed
        change Delivering ⟨_, _, before.delivered ++ []⟩
        rw [List.append_nil]
        obtain ⟨galt, least, above⟩ := (Option.any_eq_true _ _).mp allowed.2
        exact delivering.arrive least (of_decide_eq_true above)
          (deliveryQueue_of_arrival arrives applied)
    | none =>
        change Delivering ⟨_, before.arrived ++ [], _⟩
        rw [List.append_nil]
        have quiet : input.delivery before.federate = none →
            before.federate.deliveryQueue.Quiet next.deliveryQueue →
            Delivering
              { before with
                federate := next
                delivered := before.delivered ++
                  (input.delivery before.federate).toList } := by
          intro noDelivery quiet
          rw [noDelivery]
          change Delivering ⟨_, _, before.delivered ++ []⟩
          rw [List.append_nil]
          exact delivering.quiet regular quiet
        cases input with
        | dispatchCallback =>
            cases applied
            exact delivering.dispatch
        | call service =>
            exact quiet rfl (call_quiet delivering.regular advancing arrives
              (FederateInput.apply_call_eq_some.mp applied).2)
        | receive message =>
            exact quiet rfl
              (acceptInternalMessage_quiet advancing arrives applied)
        | callbackMessageAvailable =>
            cases applied
            exact quiet rfl (callbackMessageAvailable_quiet _)
        | eraseMessagesForObjectInstance objectInstanceHandle =>
            cases applied
            exact quiet rfl (eraseMessagesForObjectInstance_quiet _ _)
        | setNotificationHandle notificationHandle =>
            cases applied
            refine quiet rfl ?_
            rw [deliveryQueue_setNotificationHandle]
            exact .refl _
  next => cases stepped

/-- The queued messages of a time stamp, in the order of the queue. -/
theorem filter_queuedTimeStamped
    (regular : self.deliveryQueue.Regular) (timeStamp : Int) :
    (self.queuedTimeStamped.filter fun message =>
        message.timeStamp = timeStamp) =
      self.deliveryQueue.timeStampedAt timeStamp := by
  have filtered := KeyedQueue.filter_values self.logicalTimeMessageListMap
    ⟨timeStamp, -1⟩
    (fun queued =>
      queued.timeStamped?.any fun message => message.timeStamp = timeStamp)
    (by
      intro pair queued member kept
      cases stamped : queued.timeStamped? with
      | none => simp [stamped] at kept
      | some message =>
          rw [QueuedMessage.timeStamped?_eq_some.mp stamped] at member
          rw [stamped] at kept
          rw [regular.stampedAt pair message member, of_decide_eq_true kept])
  have swap : ∀ queue : List QueuedMessage,
      ((queue.filterMap QueuedMessage.timeStamped?).filter fun message =>
        message.timeStamp = timeStamp) =
        (queue.filter fun queued =>
          queued.timeStamped?.any fun message =>
            message.timeStamp = timeStamp).filterMap
          QueuedMessage.timeStamped? := by
    intro queue
    rw [List.filter_filterMap, List.filterMap_filter]
    congr 1
    funext queued
    cases queued.timeStamped? with
    | none => rfl
    | some message => by_cases same : message.timeStamp = timeStamp <;> simp [same]
  rw [queuedTimeStamped, swap, filtered, ← swap]
  apply List.filter_eq_self.mpr
  intro message member
  have pair := regular.stampedAt ⟨timeStamp, -1⟩ message
    (mem_timeStampedAt.mp member)
  exact decide_eq_true (congrArg LogicalTimePair.first pair).symm

theorem delivering_start
    {start : TemplateTimeManagement}
    (reachable : unrestrictedFederate.Reachable start)
    (constrained : start.timeConstrainedMode = .timeConstrainedEnabled)
    (notFlushQueue : start.timeAdvanceMode ≠ .flushQueueRequest) :
    (timeStampOrder start).initial.Delivering := by
  have regular := federate_regularQueue reachable
  refine ⟨regular, constrained, notFlushQueue, ?_⟩
  apply DeliveryOrder.ordered_of_queued
  · intro timeStamp message member
    have pair := regular.stampedAt ⟨timeStamp, -1⟩ message
      (mem_timeStampedAt.mp member)
    exact (congrArg LogicalTimePair.first pair).symm
  · intro timeStamp
    exact (filter_queuedTimeStamped regular timeStamp).symm

/-- The pending time is not changed by cleaning the queue. -/
theorem pending_cleanOldestMessageLists (self : TemplateTimeManagement) :
    self.cleanOldestMessageLists.pendingLogicalTime =
      self.pendingLogicalTime := by
  obtain ⟨view, first, second⟩ := self.cleanOldestMessageLists_checked
  exact second.pending.trans first.pending

/-- A message that is dispatched from the queue is the first one of the least
time pair, which is within the pending time. -/
theorem Delivering.dispatched
    (delivering : state.Delivering)
    (notReceived : ∀ received, message ≠ .receiveOrder received)
    (dispatched : state.federate.dispatchCallback = (after, some message)) :
    ∃ (view : DeliveryQueue) (pair : LogicalTimePair)
      (popped : TemplateTimeManagement),
      view.Regular ∧ view.pending = state.federate.pendingLogicalTime ∧
        message ∈ view.messagesAt pair ∧ pair ≤ view.pending ∧
        (∀ other queued, queued ∈ view.messagesAt other → pair ≤ other) ∧
        after = popped.acceptCallbackMessage message ∧
        popped.deliveryQueue.pending = view.pending ∧
        ∀ timeStamp,
          (popped.deliveryQueue.timeStampedAt timeStamp).Sublist
            (view.timeStampedAt timeStamp) := by
  have cleaned := delivering.quiet
    (cleanOldestMessageLists_regularQueue delivering.regular)
    state.federate.cleanOldestMessageLists_quiet
  rcases state.federate.dispatchCallback_cases with
    ⟨received, rest, -, -, other⟩ | other | ⟨popped, queued, taken, accepted⟩
  · rw [other] at dispatched
    cases dispatched
    exact absurd rfl (notReceived received)
  · rw [other] at dispatched
    cases dispatched
  · rw [accepted] at dispatched
    cases dispatched
    obtain ⟨pair, rest, least, permitted, equal⟩ :=
      popTimeStampOrderMessage_some taken
    obtain ⟨grants, -, view⟩ := deliveryQueue_taken least
    rw [← equal] at view
    have first :
        state.federate.cleanOldestMessageLists.deliveryQueue.messagesAt pair =
          message :: rest :=
      KeyedQueue.listAt_begin? least
    have within := permitted_of_constrained cleaned.constrained
      cleaned.notFlushQueue permitted
    refine ⟨state.federate.cleanOldestMessageLists.deliveryQueue, pair, popped,
      cleaned.regular, pending_cleanOldestMessageLists state.federate, ?_,
      within.1, ?_, rfl, ?_, ?_⟩
    · rw [first]
      exact List.mem_cons_self
    · intro other queued member
      exact KeyedQueue.begin?_le_of_mem least member
    · rw [view]
    · rw [view]
      exact timeStampedAt_taken first grants

/-- What is dispatched is within the pending time. -/
theorem Delivering.message_le_pending
    (delivering : state.Delivering)
    {message : TimeStampedMessage}
    (dispatched :
      state.federate.dispatchCallback = (after, some (.timeStamped message))) :
    message.timeStamp ≤ state.federate.pendingLogicalTime.first := by
  obtain ⟨view, pair, popped, regular, pending, member, within, -⟩ :=
    delivering.dispatched (fun _ => QueuedMessage.noConfusion) dispatched
  rw [regular.stampedAt pair message member, pending,
    LogicalTimePair.le_iff] at within
  dsimp only at within
  omega

/-- A grant leaves no message queued up to the granted time. -/
theorem Delivering.granted_lt_message
    (delivering : state.Delivering)
    (dispatched :
      state.federate.dispatchCallback = (after, some .timeAdvanceGranted))
    {message : TimeStampedMessage}
    (queued : message ∈ after.deliveryQueue.timeStampedAt timeStamp) :
    after.queryLogicalTime < message.timeStamp := by
  obtain ⟨view, pair, popped, regular, -, member, within, least, accepted,
    pending, fewer⟩ :=
      delivering.dispatched (fun _ => QueuedMessage.noConfusion) dispatched
  have equal : after = popped.acceptTimeAdvanceGranted := accepted
  have afterView := popped.deliveryQueue_acceptTimeAdvanceGranted
  rw [← equal] at afterView
  have current : after.queryLogicalTime = view.pending.first := by
    rw [equal, queryLogicalTime_acceptTimeAdvanceGranted, ← pending]
    rfl
  rw [afterView] at queued
  have remains := mem_timeStampedAt.mp ((fewer timeStamp).mem queued)
  -- The grant is queued at the pending time, which is then the least pair.
  have isPending : pair = view.pending :=
    le_antisymm within (regular.grantAt pair member)
  have stamped := regular.stampedAt ⟨timeStamp, -1⟩ message remains
  have ordered := least ⟨timeStamp, -1⟩ _ remains
  have nonneg := regular.pendingNonneg
  rw [isPending, stamped, LogicalTimePair.le_iff] at ordered
  rw [current]
  dsimp only at ordered
  omega

/-- From any state of a time constrained federate on, as long as it makes no
flush queue request: time stamped messages are delivered in the order of their
time stamps, those of one time stamp in the order of their arrival, none beyond
the pending time, and a grant leaves no message queued up to the granted
time. -/
theorem timeStampOrder_delivered
    {start : TemplateTimeManagement}
    (reachable : unrestrictedFederate.Reachable start)
    (constrained : start.timeConstrainedMode = .timeConstrainedEnabled)
    (notFlushQueue : start.timeAdvanceMode ≠ .flushQueueRequest)
    {state : DeliveryState}
    (run : (timeStampOrder start).Reachable state) :
    (state.delivered.Pairwise fun earlier later =>
        earlier.timeStamp ≤ later.timeStamp) ∧
      (∀ timeStamp,
        List.Sublist
          (state.delivered.filter fun message =>
            message.timeStamp = timeStamp)
          (state.arrived.filter fun message =>
            message.timeStamp = timeStamp)) ∧
      ∀ after queued,
        state.federate.dispatchCallback = (after, some queued) →
          (∀ message, queued = .timeStamped message →
            message.timeStamp ≤ state.federate.pendingLogicalTime.first) ∧
          (queued = .timeAdvanceGranted →
            ∀ message ∈ after.queuedTimeStamped,
              after.queryLogicalTime < message.timeStamp) := by
  have delivering : state.Delivering := by
    refine TransitionSystem.Reachable.invariant Delivering
      (delivering_start reachable constrained notFlushQueue) ?_ run
    intro before input after delivering stepped
    exact delivering.step stepped
  refine ⟨delivering.ordered.sorted, delivering.ordered.sublist_arrived, ?_⟩
  intro after queued dispatched
  constructor
  · rintro message rfl
    exact delivering.message_le_pending dispatched
  · rintro rfl message member
    have regular := dispatchCallback_regularQueue delivering.regular
    rw [dispatched] at regular
    have remains :
        message ∈ after.deliveryQueue.timeStampedAt message.timeStamp := by
      rw [← filter_queuedTimeStamped regular]
      exact List.mem_filter.mpr ⟨member, decide_eq_true rfl⟩
    exact delivering.granted_lt_message dispatched remains

/-- A federate becomes time constrained beside a regulating one. -/
def constrainedRun : List FederateInput :=
  [.receive (.joinFederationExecutionResponse 1),
    .receive (.enableTimeRegulationRequest 2 5 (-17)),
    .call .enableTimeConstrained,
    .dispatchCallback]

/-- Messages that arrive out of order, before an advance to 8. -/
def advanceRun : List FederateInput :=
  [.receive (.timeStamped ⟨2, 7, none⟩),
    .receive (.timeStamped ⟨2, 6, some 3⟩),
    .receive (.timeStamped ⟨2, 6, none⟩),
    .call (.timeAdvanceRequest 8 .timeAdvanceRequest),
    .receive (.commitLowerBoundTimeStamp 2 20
      .timeAdvanceAndNextMessageCommit (-17)),
    .dispatchCallback,
    .dispatchCallback,
    .dispatchCallback]

theorem timeStampOrder_delivered_to_grant :
    ∃ start state,
      unrestrictedFederate.run .new constrainedRun = some start ∧
        (timeStampOrder start).run (timeStampOrder start).initial advanceRun =
          some state ∧
        state.delivered = [⟨2, 6, some 3⟩, ⟨2, 6, none⟩, ⟨2, 7, none⟩] ∧
        (state.delivered.Pairwise fun earlier later =>
          earlier.timeStamp ≤ later.timeStamp) ∧
        state.federate.dispatchCallback.2 = some .timeAdvanceGranted ∧
        ∀ message ∈ state.federate.dispatchCallback.1.queuedTimeStamped,
          state.federate.dispatchCallback.1.queryLogicalTime <
            message.timeStamp := by
  refine ⟨_, _, rfl, rfl, rfl, ?_⟩
  have reachable : unrestrictedFederate.Reachable _ :=
    TransitionSystem.reachable_of_run constrainedRun rfl
  have ordered := timeStampOrder_delivered reachable rfl (by decide)
    (TransitionSystem.reachable_of_run advanceRun rfl)
  exact ⟨ordered.1, rfl, (ordered.2.2 _ _ rfl).2 rfl⟩

end DeliveryState

end TimeManagement
end OpenRTI
