import OpenRTI.TimeManagement.DeliveryRuns

/-!
# Next message requests

A next message request is granted before the requested time only where a time
stamped message is delivered with that time stamp.  This needs that the first
list of the queue is not one whose messages were all erased: a request looks at
its time without looking at what is left of it.
-/

namespace OpenRTI
namespace TimeManagement

open Foundation

/-! ## What a next message request waits for -/

/-- A next message request is pending. -/
def TimeAdvanceMode.isAnyNextMessage (mode : TimeAdvanceMode) : Bool :=
  mode = .nextMessageRequest || mode = .nextMessageRequestAvailable

variable {view : DeliveryQueue} {message : QueuedMessage} {requested : Int}
variable {delivered : List TimeStampedMessage}

namespace DeliveryQueue

/-- Below the requested time, a message with the pending time is queued or has
been delivered since the request. -/
def StopsAtMessage
    (view : DeliveryQueue)
    (requested : Int)
    (delivered : List TimeStampedMessage) : Prop :=
  view.timeAdvanceMode.isAnyNextMessage = true →
    view.pending.first < requested →
      view.timeStampedAt view.pending.first ≠ [] ∨
        ∃ message ∈ delivered, message.timeStamp = view.pending.first

/-- No time stamped message is lost, and what a pending advance waits for stays
as it is. -/
structure Stable (view after : DeliveryQueue) : Prop where
  timeAdvanceMode : after.timeAdvanceMode = view.timeAdvanceMode
  pending :
    view.timeAdvanceMode ≠ .timeAdvanceGranted →
      after.pending.first = view.pending.first
  kept :
    ∀ timeStamp, after.timeStampedAt timeStamp = view.timeStampedAt timeStamp

theorem Stable.refl (view : DeliveryQueue) : view.Stable view where
  timeAdvanceMode := rfl
  pending := fun _ => rfl
  kept := fun _ => rfl

variable {after : DeliveryQueue}

theorem Stable.trans
    {middle : DeliveryQueue}
    (first : view.Stable middle) (second : middle.Stable after) :
    view.Stable after where
  timeAdvanceMode := second.timeAdvanceMode.trans first.timeAdvanceMode
  pending := by
    intro advancing
    have still : middle.timeAdvanceMode ≠ .timeAdvanceGranted := by
      rwa [first.timeAdvanceMode]
    exact (second.pending still).trans (first.pending advancing)
  kept := fun timeStamp =>
    (second.kept timeStamp).trans (first.kept timeStamp)

/-- While no advance is pending the pending time can change. -/
theorem Stable.of_granted
    (granted : view.timeAdvanceMode = .timeAdvanceGranted)
    (timeAdvanceMode : after.timeAdvanceMode = view.timeAdvanceMode)
    (kept :
      ∀ timeStamp,
        after.timeStampedAt timeStamp = view.timeStampedAt timeStamp) :
    view.Stable after where
  timeAdvanceMode := timeAdvanceMode
  pending := fun advancing => absurd granted advancing
  kept := kept

/-- Another message than a time stamped one is queued. -/
theorem stable_enqueue
    (pair : LogicalTimePair)
    (other : message.timeStamped? = none) :
    view.Stable (view.enqueue pair message) where
  timeAdvanceMode := rfl
  pending := fun _ => rfl
  kept := congrFun (timeStampedAt_enqueue_of_none other)

theorem Checked.stable
    (checked : Checked view after) :
    view.Stable after := by
  cases checked with
  | unchanged => exact .refl view
  | granted =>
      have unscheduled : view.Stable { view with scheduled := false } :=
        ⟨rfl, fun _ => rfl, fun _ => rfl⟩
      exact unscheduled.trans (stable_enqueue _ rfl)

theorem StopsAtMessage.stable
    (stops : view.StopsAtMessage requested delivered)
    (stable : view.Stable after) :
    after.StopsAtMessage requested delivered := by
  intro nextMessage below
  rw [stable.timeAdvanceMode] at nextMessage
  have advancing : view.timeAdvanceMode ≠ .timeAdvanceGranted := by
    intro granted
    rw [granted] at nextMessage
    cases nextMessage
  rw [stable.pending advancing] at below ⊢
  rw [stable.kept]
  exact stops nextMessage below

/-- Nothing is claimed unless a next message request is pending. -/
theorem stopsAtMessage_of_not
    (other : view.timeAdvanceMode.isAnyNextMessage = false)
    (requested : Int) (delivered : List TimeStampedMessage) :
    view.StopsAtMessage requested delivered := by
  intro nextMessage
  rw [other] at nextMessage
  cases nextMessage

/-- A message arrives, and the pending time is lowered to its time stamp or
stays as it is. -/
theorem StopsAtMessage.arrive
    (stops : view.StopsAtMessage requested delivered)
    {message : TimeStampedMessage} {first : Int}
    (either : first = view.pending.first ∨ first = message.timeStamp) :
    StopsAtMessage
      { view.enqueue ⟨message.timeStamp, -1⟩ (.timeStamped message) with
        pending := ⟨first, view.pending.second⟩ }
      requested delivered := by
  intro nextMessage below
  have queued := timeStampedAt_enqueue view message first
  change (timeStampedAt (view.enqueue _ _) first ≠ [] ∨ _)
  rw [queued]
  rcases either with same | lowered
  · rw [same] at below ⊢
    refine (stops nextMessage below).imp_left fun some => ?_
    intro none
    exact some (List.append_eq_nil_iff.mp none).1
  · left
    rw [if_pos lowered]
    simp

end DeliveryQueue

variable {logicalTime : Int}

/-! ## Operations that lose no message -/

namespace TemplateTimeManagement

open DeliveryQueue

variable {self : TemplateTimeManagement}

theorem correctTimeRegulations_stable
    (regular : self.deliveryQueue.Regular)
    (granted : self.timeAdvanceMode = .timeAdvanceGranted) :
    self.deliveryQueue.Stable
      (self.timeRegulationEnableFederateHandleTimeStampMap.entries.foldl
        (fun self entry => self.correctTimeRegulation entry.2)
        self).deliveryQueue := by
  obtain ⟨pending, -, corrected⟩ :=
    correctTimeRegulations_deliveryQueue regular.pendingNonneg
      self.timeRegulationEnableFederateHandleTimeStampMap.entries
  rw [corrected]
  exact .of_granted granted rfl fun _ => rfl

/-- Time regulation is enabled only while no advance is pending. -/
theorem checkTimeRegulationEnabled_stable
    (regular : view.Regular)
    (same : self.deliveryQueue = view) :
    view.Stable self.checkTimeRegulationEnabled.deliveryQueue := by
  rw [← same] at regular ⊢
  unfold checkTimeRegulationEnabled
  split
  next => exact .refl _
  next enabling =>
    split
    next => exact .refl _
    next =>
      have isEnabling :
          self.timeRegulationMode = .timeRegulationEnablePending := by
        simpa [getTimeRegulationEnablePending] using enabling
      dsimp only
      rw [deliveryQueue_queueMessage]
      apply Stable.trans _ (stable_enqueue _ rfl)
      exact correctTimeRegulations_stable regular (regular.enabling isEnabling)

/-- The bounds of another federate changed. -/
theorem checkChangedBounds_stable
    (self : TemplateTimeManagement)
    (bounds : FederateHandleLowerBoundTimeStampMap Int) (previous : Bool) :
    self.deliveryQueue.Stable
      ({ self with federateLowerBoundMap := bounds }
        |>.sendLockedByNextMessageRequestIfChanged previous
        |>.checkForPendingTimeAdvance true).deliveryQueue := by
  have checked := checkForPendingTimeAdvance_checked
    ({ self with federateLowerBoundMap := bounds }
      |>.sendLockedByNextMessageRequestIfChanged previous) true
  rw [deliveryQueue_sendLockedByNextMessageRequestIfChanged] at checked
  have changed : self.deliveryQueue.Stable
      ({ self with federateLowerBoundMap := bounds } :
        TemplateTimeManagement).deliveryQueue :=
    ⟨rfl, fun _ => rfl, fun _ => rfl⟩
  exact changed.trans checked.stable

theorem acceptJoinFederateNotify_stable
    (self : TemplateTimeManagement) (federateHandle : FederateHandle) :
    self.deliveryQueue.Stable
      (self.acceptJoinFederateNotify federateHandle).deliveryQueue := by
  unfold acceptJoinFederateNotify
  dsimp only
  split
  · exact .refl _
  · exact .refl _

section

variable (regular : self.deliveryQueue.Regular)
include regular

theorem removeFederateFromTimeManagement_stable
    (federateHandle : FederateHandle) :
    self.deliveryQueue.Stable
      (self.removeFederateFromTimeManagement federateHandle).deliveryQueue := by
  have erased := regular.withGALT
    (self.federateLowerBoundMap.erase federateHandle).1.getGALT
  unfold removeFederateFromTimeManagement
  dsimp only
  apply Stable.trans _ (checkForPendingTimeAdvance_checked _ true).stable
  rw [deliveryQueue_sendLockedByNextMessageRequestIfChanged]
  have changed : self.deliveryQueue.Stable
      { self.deliveryQueue with
        galt := (self.federateLowerBoundMap.erase federateHandle).1.getGALT } :=
    ⟨rfl, fun _ => rfl, fun _ => rfl⟩
  split
  · exact changed.trans (checkTimeRegulationEnabled_stable erased rfl)
  · exact changed

theorem acceptEnableTimeRegulationRequest_stable
    (federateHandle : FederateHandle) (timeStamp : Int)
    (commitId : Unsigned) :
    self.deliveryQueue.Stable
      (self.acceptEnableTimeRegulationRequest federateHandle timeStamp
        commitId).deliveryQueue := by
  unfold acceptEnableTimeRegulationRequest
  split
  · split
    · exact .refl _
    · exact checkTimeRegulationEnabled_stable regular rfl
  · dsimp only
    rw [deliveryQueue_sendLockedByNextMessageRequestIfChanged]
    split
    · exact ⟨rfl, fun _ => rfl, fun _ => rfl⟩
    · exact ⟨rfl, fun _ => rfl, fun _ => rfl⟩

theorem acceptEnableTimeRegulationResponse_stable
    (respondingFederateHandle : FederateHandle) (timeStamp : Int)
    (timeStampValid : Bool) :
    self.deliveryQueue.Stable
      (self.acceptEnableTimeRegulationResponse respondingFederateHandle
        timeStamp timeStampValid).deliveryQueue := by
  unfold acceptEnableTimeRegulationResponse
  split
  · exact .refl _
  · apply checkTimeRegulationEnabled_stable regular
    rw [deliveryQueue_sendLockedByNextMessageRequestIfChanged]
    rfl

end

variable {after : TemplateTimeManagement}

theorem acceptCommitLowerBoundTimeStamp_stable
    {federateHandle : FederateHandle} {timeStamp : Int}
    {commitType : LowerBoundTimeStampCommitType} {commitId : Unsigned}
    (accepted :
      self.acceptCommitLowerBoundTimeStamp federateHandle timeStamp commitType
        commitId = some after) :
    self.deliveryQueue.Stable after.deliveryQueue := by
  obtain ⟨result, -, rfl⟩ := Option.map_eq_some_iff.mp accepted
  dsimp only
  apply Stable.trans _ (checkForPendingTimeAdvance_checked _ true).stable
  rw [deliveryQueue_sendLockedByNextMessageRequestIfChanged]
  split
  · rw [deliveryQueue_sendCommitLowerBoundTimeStampResponse]
    exact ⟨rfl, fun _ => rfl, fun _ => rfl⟩
  · exact ⟨rfl, fun _ => rfl, fun _ => rfl⟩

/-- A message from the server that brings in no time stamped one. -/
theorem acceptInternalMessage_stable
    (regular : self.deliveryQueue.Regular)
    {message : Message}
    (noArrival : FederateInput.arrival self (.receive message) = none)
    (accepted : self.acceptInternalMessage message = some after) :
    self.deliveryQueue.Stable after.deliveryQueue := by
  cases message with
  | joinFederationExecutionResponse federateHandle =>
      cases accepted
      exact .refl _
  | joinFederateNotify federateHandle =>
      cases accepted
      exact self.acceptJoinFederateNotify_stable _
  | resignFederateNotify federateHandle =>
      cases accepted
      exact removeFederateFromTimeManagement_stable regular _
  | enableTimeRegulationRequest federateHandle timeStamp commitId =>
      cases accepted
      exact acceptEnableTimeRegulationRequest_stable regular _ _ _
  | enableTimeRegulationResponse _ responding timeStamp valid =>
      cases accepted
      exact acceptEnableTimeRegulationResponse_stable regular _ _ _
  | disableTimeRegulationRequest federateHandle =>
      cases accepted
      exact self.checkChangedBounds_stable _ _
  | enableTimeConstrainedNotify _ =>
      cases accepted
      exact .refl _
  | disableTimeConstrainedNotify _ =>
      cases accepted
      exact .refl _
  | commitLowerBoundTimeStamp federateHandle timeStamp commitType commitId =>
      exact acceptCommitLowerBoundTimeStamp_stable accepted
  | commitLowerBoundTimeStampResponse _ sending commitId =>
      cases accepted
      exact self.checkChangedBounds_stable _ _
  | lockedByNextMessageRequest sending locked =>
      cases accepted
      exact self.checkChangedBounds_stable _ _
  | timeStamped message => cases noArrival
  | receiveOrder message =>
      cases accepted
      exact .refl _

theorem cleanOldestMessageLists_stable (self : TemplateTimeManagement) :
    self.deliveryQueue.Stable self.cleanOldestMessageLists.deliveryQueue := by
  obtain ⟨view, first, second⟩ := self.cleanOldestMessageLists_checked
  exact first.stable.trans second.stable

theorem callbackMessageAvailable_stable (self : TemplateTimeManagement) :
    self.deliveryQueue.Stable
      self.callbackMessageAvailable.1.deliveryQueue := by
  unfold callbackMessageAvailable
  split
  · exact .refl _
  · dsimp only
    split
    · exact self.cleanOldestMessageLists_stable
    · exact self.cleanOldestMessageLists_stable

theorem enableTimeConstrained_stable
    (granted : self.timeAdvanceMode = .timeAdvanceGranted) :
    self.deliveryQueue.Stable self.enableTimeConstrained.deliveryQueue := by
  unfold enableTimeConstrained
  dsimp only
  rw [deliveryQueue_send, deliveryQueue_queueMessage]
  apply Stable.trans _ (stable_enqueue _ rfl)
  exact .of_granted granted rfl fun _ => rfl

theorem enableTimeRegulationAt_stable
    (granted : self.timeAdvanceMode = .timeAdvanceGranted)
    (logicalTime lookahead : Int) :
    self.deliveryQueue.Stable
      (self.enableTimeRegulationAt logicalTime lookahead).deliveryQueue := by
  unfold enableTimeRegulationAt
  dsimp only
  rw [deliveryQueue_sendCommitLowerBoundTimeStampResponses,
    deliveryQueue_send]
  exact .of_granted granted rfl fun _ => rfl

/-! ## Requests -/

/-- What a next message request is limited by: the first list of the queue,
which may have been emptied. -/
theorem requestNextMessage_stops
    {prepared : TemplateTimeManagement} {mode : TimeAdvanceMode}
    {pending : LogicalTimePair}
    (equal :
      prepared.deliveryQueue =
        { self.deliveryQueue with
          timeAdvanceMode := mode
          pending := pending })
    (isRequested : pending.first = requested)
    (first :
      prepared.getTimeConstrainedEnabled = true →
        ∀ least, prepared.getLeastIncomingTimestamp = some least →
          least < requested → self.deliveryQueue.timeStampedAt least ≠ []) :
    prepared.requestNextMessage.deliveryQueue.StopsAtMessage requested [] := by
  have pendingEqual : prepared.pendingLogicalTime = pending :=
    congrArg DeliveryQueue.pending equal
  rcases deliveryQueue_requestNextMessage prepared
    with ⟨limit, either, checked⟩ | queued
  · refine StopsAtMessage.stable ?_ checked.stable
    rw [equal]
    intro _ below
    rcases either with same | ⟨constrained, least⟩
    · rw [pendingEqual, isRequested] at same
      exact absurd below (same ▸ lt_irrefl _)
    · exact .inl (first constrained limit least below)
  · rw [queued]
    refine StopsAtMessage.stable ?_ (stable_enqueue _ rfl)
    rw [equal]
    intro _ below
    exact absurd below (isRequested ▸ lt_irrefl _)

/-- The first list of the queue is not before a logical time, or holds a time
stamped message. -/
def firstListHolds (self : TemplateTimeManagement) (logicalTime : Int) : Bool :=
  match self.logicalTimeMessageListMap.begin? with
  | none => true
  | some (logicalTimePair, messages) =>
      logicalTime ≤ logicalTimePair.first ||
        messages.any fun queued => queued.timeStamped?.isSome

theorem timeStampedAt_of_firstListHolds
    (regular : self.deliveryQueue.Regular)
    {least : Int}
    (holds : self.firstListHolds logicalTime = true)
    (isLeast : self.getLeastIncomingTimestamp = some least)
    (below : least < logicalTime) :
    self.deliveryQueue.timeStampedAt least ≠ [] := by
  obtain ⟨⟨pair, messages⟩, begin?, isFirst⟩ := Option.map_eq_some_iff.mp isLeast
  dsimp only at isFirst
  rw [firstListHolds, begin?] at holds
  dsimp only at holds
  rw [isFirst, decide_eq_false (not_le.mpr below), Bool.false_or,
    List.any_eq_true] at holds
  obtain ⟨queued, member, stamped⟩ := holds
  obtain ⟨message, isStamped⟩ := Option.isSome_iff_exists.mp stamped
  rw [QueuedMessage.timeStamped?_eq_some.mp isStamped] at member
  have atPair : QueuedMessage.timeStamped message ∈
      self.deliveryQueue.messagesAt pair := by
    change _ ∈ KeyedQueue.listAt self.logicalTimeMessageListMap pair
    rwa [KeyedQueue.listAt_begin? begin?]
  have isPair := regular.stampedAt pair message atPair
  rw [isPair] at atPair isFirst
  rw [← isFirst]
  exact List.ne_nil_of_mem (mem_timeStampedAt.mpr atPair)

theorem timeAdvanceRequest_stops
    (regular : self.deliveryQueue.Regular)
    (granted : self.timeAdvanceMode = .timeAdvanceGranted)
    (current : self.logicalTime.first ≤ logicalTime)
    {mode : Ambassador.RequestMode}
    (holds :
      self.getTimeConstrainedEnabled = true →
        mode.toTimeAdvanceMode.isAnyNextMessage = true →
          self.firstListHolds logicalTime = true) :
    (self.timeAdvanceRequest logicalTime
      mode.toTimeAdvanceMode).deliveryQueue.StopsAtMessage logicalTime [] := by
  have isMode := (timeAdvanceRequest_advances regular granted logicalTime
    mode).timeAdvanceMode
  obtain ⟨pending, -, prepared⟩ :=
    self.deliveryQueue_prepareTimeAdvance regular.currentNonneg logicalTime
      mode.toTimeAdvanceMode
  have isRequested : pending.first = logicalTime := by
    have isPending := congrArg DeliveryQueue.pending prepared
    change (self.prepareTimeAdvance _ _).pendingLogicalTime = pending at isPending
    rw [← isPending, prepareTimeAdvance_pendingLogicalTime]
    exact max_first_of_le current
  have nextMessage :
      mode.toTimeAdvanceMode.isAnyNextMessage = true →
        (self.prepareTimeAdvance logicalTime mode.toTimeAdvanceMode
          ).requestNextMessage.deliveryQueue.StopsAtMessage logicalTime [] := by
    intro isNext
    apply requestNextMessage_stops prepared isRequested
    intro constrained least isLeast below
    unfold getTimeConstrainedEnabled at constrained
    rw [prepareTimeAdvance_timeConstrainedMode] at constrained
    unfold getLeastIncomingTimestamp at isLeast
    rw [prepareTimeAdvance_logicalTimeMessageListMap] at isLeast
    exact timeStampedAt_of_firstListHolds regular (holds constrained isNext)
      isLeast below
  cases mode with
  | timeAdvanceRequest =>
      exact stopsAtMessage_of_not (congrArg _ isMode) _ _
  | timeAdvanceRequestAvailable =>
      exact stopsAtMessage_of_not (congrArg _ isMode) _ _
  | nextMessageRequest => exact nextMessage rfl
  | nextMessageRequestAvailable => exact nextMessage rfl
  | flushQueueRequest =>
      exact stopsAtMessage_of_not (congrArg _ isMode) _ _

/-- A message that arrives. -/
theorem queueTimeStampedMessage_stops
    (stops : self.deliveryQueue.StopsAtMessage requested delivered)
    (message : TimeStampedMessage) :
    (self.queueTimeStampedMessage message).deliveryQueue.StopsAtMessage
      requested delivered := by
  rcases self.queueTimeStampedMessage_cases message
    with dropped | ⟨first, -, either, checked⟩
  · rwa [dropped]
  · exact (stops.arrive either).stable checked.stable

theorem sendWithTimeStamp_stops
    (stops : self.deliveryQueue.StopsAtMessage requested delivered)
    (timeStamp : Int) (orderType : OrderType)
    (objectInstanceHandle : Option ObjectInstanceHandle)
    (deliverToSelf : Bool) :
    (Ambassador.sendWithTimeStamp self timeStamp orderType objectInstanceHandle
      deliverToSelf).deliveryQueue.StopsAtMessage requested delivered := by
  unfold Ambassador.sendWithTimeStamp
  split
  · dsimp only
    rw [deliveryQueue_send]
    split
    · exact queueTimeStampedMessage_stops stops _
    · exact stops
  · dsimp only
    rw [deliveryQueue_send]
    split
    · exact stops
    · exact stops

variable {popped : TemplateTimeManagement}

/-! ## Callbacks -/

/-- Taking another message than a time stamped one off the queue. -/
theorem taken_stable
    (taken : self.popTimeStampOrderMessage = (popped, some message))
    (other : message.timeStamped? = none) :
    self.deliveryQueue.Stable popped.deliveryQueue := by
  obtain ⟨pair, rest, least, -, equal⟩ := popTimeStampOrderMessage_some taken
  obtain ⟨grants, -, view⟩ := deliveryQueue_taken least
  rw [← equal] at view
  have first : self.deliveryQueue.messagesAt pair = message :: rest :=
    KeyedQueue.listAt_begin? least
  rw [view]
  refine ⟨rfl, fun _ => rfl, fun timeStamp => ?_⟩
  unfold timeStampedAt
  dsimp only
  split
  next same => rw [same, first, List.filterMap_cons, other]
  next => rfl

section

variable (regular : self.deliveryQueue.Regular)
include regular

/-- A time stamped message is taken off the queue and delivered. -/
theorem StopsAtMessage.deliver
    (stops : self.deliveryQueue.StopsAtMessage requested delivered)
    {message : TimeStampedMessage}
    (taken :
      self.popTimeStampOrderMessage = (popped, some (.timeStamped message))) :
    popped.deliveryQueue.StopsAtMessage requested (delivered ++ [message]) := by
  obtain ⟨pair, rest, least, -, equal⟩ := popTimeStampOrderMessage_some taken
  obtain ⟨grants, -, view⟩ := deliveryQueue_taken least
  rw [← equal] at view
  have isPair : pair = ⟨message.timeStamp, -1⟩ := by
    apply regular.stampedAt pair message
    have first := KeyedQueue.listAt_begin? least
    change KeyedQueue.listAt self.logicalTimeMessageListMap pair = _ at first
    change _ ∈ KeyedQueue.listAt self.logicalTimeMessageListMap pair
    rw [first]
    exact List.mem_cons_self
  rw [view]
  intro nextMessage below
  dsimp only at nextMessage below ⊢
  by_cases same : message.timeStamp = self.deliveryQueue.pending.first
  · exact .inr ⟨message, List.mem_append_right _ (List.mem_singleton_self _), same⟩
  · refine (stops nextMessage below).imp (fun some => ?_) fun earlier => ?_
    · have different :
          (⟨self.deliveryQueue.pending.first, -1⟩ : LogicalTimePair) ≠ pair := by
        intro samePair
        rw [isPair] at samePair
        exact same (congrArg LogicalTimePair.first samePair).symm
      unfold timeStampedAt at some ⊢
      dsimp only
      rwa [if_neg different]
    · obtain ⟨before, member, stamp⟩ := earlier
      exact ⟨before, List.mem_append_left _ member, stamp⟩

theorem acceptCallbackMessage_stops
    (stops : self.deliveryQueue.StopsAtMessage requested delivered)
    (taken : self.popTimeStampOrderMessage = (popped, some message)) :
    (popped.acceptCallbackMessage message).deliveryQueue.StopsAtMessage
      requested (delivered ++ message.timeStamped?.toList) := by
  cases message with
  | timeStamped stamped => exact StopsAtMessage.deliver regular stops taken
  | receiveOrder received =>
      change StopsAtMessage _ _ (delivered ++ [])
      rw [List.append_nil]
      exact stops.stable (taken_stable taken rfl)
  | timeConstrainedEnabled =>
      change StopsAtMessage _ _ (delivered ++ [])
      rw [List.append_nil]
      have accepted : popped.deliveryQueue.Stable
          popped.acceptTimeConstrainedEnabled.deliveryQueue :=
        ⟨rfl, fun _ => rfl, fun _ => rfl⟩
      exact stops.stable ((taken_stable taken rfl).trans accepted)
  | timeRegulationEnabled =>
      change StopsAtMessage _ _ (delivered ++ [])
      rw [List.append_nil]
      have accepted : popped.deliveryQueue.Stable
          popped.acceptTimeRegulationEnabled.deliveryQueue :=
        ⟨rfl, fun _ => rfl, fun _ => rfl⟩
      exact stops.stable ((taken_stable taken rfl).trans accepted)
  | timeAdvanceGranted =>
      change StopsAtMessage popped.acceptTimeAdvanceGranted.deliveryQueue _ _
      rw [deliveryQueue_acceptTimeAdvanceGranted]
      exact stopsAtMessage_of_not rfl _ _

theorem dispatchCallback_stops
    (stops : self.deliveryQueue.StopsAtMessage requested delivered) :
    self.dispatchCallback.1.deliveryQueue.StopsAtMessage requested
      (delivered ++
        (FederateInput.delivery self .dispatchCallback).toList) := by
  have cleaned := stops.stable self.cleanOldestMessageLists_stable
  unfold FederateInput.delivery
  rcases self.dispatchCallback_cases with
    ⟨message, rest, -, -, received⟩ | none | ⟨popped, message, taken, accepted⟩
  · rw [received]
    change StopsAtMessage _ _ (delivered ++ [])
    rw [List.append_nil]
    exact stops
  · rw [none]
    change StopsAtMessage _ _ (delivered ++ [])
    rw [List.append_nil]
    exact cleaned
  · rw [accepted]
    exact acceptCallbackMessage_stops
      (cleanOldestMessageLists_regularQueue regular) cleaned taken

/-- A grant that comes before the requested time follows a message. -/
theorem granted_stops
    (stops : self.deliveryQueue.StopsAtMessage requested delivered)
    (nextMessage : self.getIsAnyNextMessageMode = true)
    (dispatched : self.dispatchCallback = (after, some .timeAdvanceGranted))
    (early : after.queryLogicalTime < requested) :
    ∃ message ∈ delivered, message.timeStamp = after.queryLogicalTime := by
  have cleanedStable := self.cleanOldestMessageLists_stable
  have cleaned := stops.stable cleanedStable
  have cleanedRegular := cleanOldestMessageLists_regularQueue regular
  rcases self.dispatchCallback_cases with
    ⟨message, rest, -, -, received⟩ | none | ⟨popped, message, taken, accepted⟩
  · rw [received] at dispatched
    cases dispatched
  · rw [none] at dispatched
    cases dispatched
  · rw [accepted] at dispatched
    cases dispatched
    obtain ⟨pair, rest, least, -, equal⟩ := popTimeStampOrderMessage_some taken
    have current : (popped.acceptCallbackMessage .timeAdvanceGranted
        ).queryLogicalTime =
          self.cleanOldestMessageLists.deliveryQueue.pending.first := by
      refine popped.queryLogicalTime_acceptTimeAdvanceGranted.trans ?_
      rw [equal]
      rfl
    rw [current] at early ⊢
    have isNext : TimeAdvanceMode.isAnyNextMessage
        self.cleanOldestMessageLists.deliveryQueue.timeAdvanceMode = true := by
      rw [cleanedStable.timeAdvanceMode]
      exact nextMessage
    refine (cleaned isNext early).resolve_left ?_
    -- The grant is queued behind the messages at the pending time.
    intro some
    obtain ⟨message, member⟩ := List.exists_mem_of_ne_nil _ some
    have ahead := KeyedQueue.begin?_le_of_mem least
      (mem_timeStampedAt.mp member)
    have isFirst := KeyedQueue.listAt_begin? least
    have behind := cleanedRegular.grantAt pair (by
      change _ ∈ KeyedQueue.listAt _ pair
      dsimp only at isFirst
      rw [isFirst]
      exact List.mem_cons_self)
    have ordered := behind.trans ahead
    have nonneg := cleanedRegular.pendingNonneg
    rw [LogicalTimePair.le_iff] at ordered
    dsimp only at ordered
    omega

end

/-- Erasing keeps a message with the pending time, if one is needed. -/
theorem eraseMessagesForObjectInstance_stops
    {objectInstanceHandle : ObjectInstanceHandle}
    (remains :
      self.timeAdvanceMode.isAnyNextMessage = true →
        self.pendingLogicalTime.first < requested →
          (∃ message ∈ self.deliveryQueue.timeStampedAt
              self.pendingLogicalTime.first,
            message.objectInstanceHandle ≠ some objectInstanceHandle) ∨
          ∃ message ∈ delivered,
            message.timeStamp = self.pendingLogicalTime.first) :
    (self.eraseMessagesForObjectInstance
      objectInstanceHandle).deliveryQueue.StopsAtMessage requested
        delivered := by
  rw [deliveryQueue_eraseMessagesForObjectInstance]
  intro nextMessage below
  refine (remains nextMessage below).imp_left ?_
  rintro ⟨message, member, other⟩
  apply @List.ne_nil_of_mem _ message
  apply mem_timeStampedAt.mpr
  exact List.mem_filter.mpr
    ⟨mem_timeStampedAt.mp member, decide_eq_true other⟩

/-- A call that requests no time advance. -/
theorem call_stops
    (stops : self.deliveryQueue.StopsAtMessage requested delivered)
    {service : Ambassador.Call}
    (other : ∀ logicalTime mode, service ≠ .timeAdvanceRequest logicalTime mode)
    (called : Ambassador.call self service = .ok after) :
    after.deliveryQueue.StopsAtMessage requested delivered := by
  cases service with
  | enableTimeRegulation lookahead =>
      obtain ⟨-, granted, -, equal⟩ := Ambassador.enableTimeRegulation_ok called
      rw [equal]
      exact stops.stable (enableTimeRegulationAt_stable granted _ _)
  | enableTimeRegulationAt logicalTime lookahead =>
      obtain ⟨-, granted, -, -, equal⟩ :=
        Ambassador.enableTimeRegulationAt_ok called
      rw [equal]
      exact stops.stable (enableTimeRegulationAt_stable granted _ _)
  | disableTimeRegulation =>
      obtain ⟨-, equal⟩ := Ambassador.disableTimeRegulation_ok called
      rw [equal]
      exact stops.stable ⟨rfl, fun _ => rfl, fun _ => rfl⟩
  | enableTimeConstrained =>
      obtain ⟨-, granted, equal⟩ := Ambassador.enableTimeConstrained_ok called
      rw [equal]
      exact stops.stable (enableTimeConstrained_stable granted)
  | disableTimeConstrained =>
      obtain ⟨-, equal⟩ := Ambassador.disableTimeConstrained_ok called
      rw [equal]
      exact stops.stable ⟨rfl, fun _ => rfl, fun _ => rfl⟩
  | timeAdvanceRequest logicalTime mode => exact absurd rfl (other _ _)
  | modifyLookahead lookahead =>
      obtain ⟨-, -, -, -, equal⟩ := Ambassador.modifyLookahead_ok called
      rwa [equal, deliveryQueue_modifyLookahead]
  | enableAsynchronousDelivery =>
      obtain ⟨-, equal⟩ := Ambassador.enableAsynchronousDelivery_ok called
      rw [equal]
      exact stops
  | disableAsynchronousDelivery =>
      obtain ⟨-, equal⟩ := Ambassador.disableAsynchronousDelivery_ok called
      rw [equal]
      exact stops
  | allowPendingTimeInNextMessageRequest =>
      obtain ⟨-, equal⟩ :=
        Ambassador.allowPendingTimeInNextMessageRequest_ok called
      rw [equal]
      exact stops
  | disallowPendingTimeInNextMessageRequest =>
      obtain ⟨-, equal⟩ :=
        Ambassador.disallowPendingTimeInNextMessageRequest_ok called
      rw [equal]
      exact stops
  | sendTimeStampedMessage timeStamp orderType objectInstanceHandle
      deliverToSelf =>
      obtain ⟨-, equal⟩ := Ambassador.sendTimeStampedMessage_ok called
      rw [equal]
      exact sendWithTimeStamp_stops stops _ _ _ _
  | deleteObjectInstance timeStamp orderType objectInstanceHandle =>
      obtain ⟨-, equal⟩ := Ambassador.deleteObjectInstance_ok called
      rw [equal]
      exact sendWithTimeStamp_stops stops _ _ _ _

theorem acceptInternalMessage_stops
    (regular : self.deliveryQueue.Regular)
    (stops : self.deliveryQueue.StopsAtMessage requested delivered)
    {message : Message}
    (accepted : self.acceptInternalMessage message = some after) :
    after.deliveryQueue.StopsAtMessage requested delivered := by
  cases arrives : FederateInput.arrival self (.receive message) with
  | some arrived =>
      have queued := deliveryQueue_of_arrival arrives accepted
      rw [queued]
      exact queueTimeStampedMessage_stops stops arrived
  | none => exact stops.stable (acceptInternalMessage_stable regular arrives accepted)

end TemplateTimeManagement

/-! ## Runs -/

/-- A federate with the time of its last request, and the time stamped messages
that were delivered since. -/
structure NextMessageState where
  federate : TemplateTimeManagement
  requested : Int
  delivered : List TimeStampedMessage

namespace NextMessageState

open DeliveryQueue
open TemplateTimeManagement

def after
    (state : NextMessageState)
    (federate : TemplateTimeManagement) :
    FederateInput → NextMessageState
  | .call (.timeAdvanceRequest logicalTime _) => ⟨federate, logicalTime, []⟩
  | .dispatchCallback =>
      { state with
        federate := federate
        delivered := state.delivered ++
          (FederateInput.delivery state.federate .dispatchCallback).toList }
  | _ => { state with federate := federate }

/-- The runs of one federate, whatever messages it receives. -/
def system : TransitionSystem NextMessageState FederateInput where
  initial := ⟨.new, 0, []⟩
  next state input :=
    (input.apply state.federate).map fun federate =>
      state.after federate input

/-- A next message request finds no emptied list in front of the queue, and
while it is pending before the requested time, erasing leaves a message with
the pending time unless one has been delivered. -/
def keepsMessage (state : NextMessageState) : FederateInput → Bool
  | .call (.timeAdvanceRequest logicalTime mode) =>
      !state.federate.getTimeConstrainedEnabled ||
        !mode.toTimeAdvanceMode.isAnyNextMessage ||
        state.federate.firstListHolds logicalTime
  | .eraseMessagesForObjectInstance objectInstanceHandle =>
      let pending := state.federate.pendingLogicalTime.first
      !state.federate.getIsAnyNextMessageMode ||
        state.requested ≤ pending ||
        (state.federate.deliveryQueue.timeStampedAt pending).any
          (fun message =>
            message.objectInstanceHandle ≠ some objectInstanceHandle) ||
        state.delivered.any fun message => message.timeStamp = pending
  | _ => true

/-- What holds in every state of these runs. -/
structure Stops (state : NextMessageState) : Prop where
  regular : state.federate.deliveryQueue.Regular
  atMessage :
    state.federate.deliveryQueue.StopsAtMessage state.requested state.delivered

theorem after_call
    {service : Ambassador.Call}
    (other : ∀ logicalTime mode, service ≠ .timeAdvanceRequest logicalTime mode)
    (state : NextMessageState) (federate : TemplateTimeManagement) :
    state.after federate (.call service) =
      { state with federate := federate } := by
  cases service with
  | timeAdvanceRequest logicalTime mode => exact absurd rfl (other _ _)
  | _ => rfl

/-- What the condition says of a request. -/
theorem firstListHolds_of_keepsMessage
    {state : NextMessageState} {mode : Ambassador.RequestMode}
    (keeps :
      state.keepsMessage (.call (.timeAdvanceRequest logicalTime mode)) = true)
    (constrained : state.federate.getTimeConstrainedEnabled = true)
    (isNext : mode.toTimeAdvanceMode.isAnyNextMessage = true) :
    state.federate.firstListHolds logicalTime = true := by
  rw [keepsMessage, constrained, isNext] at keeps
  exact keeps

/-- What the condition says of erasing. -/
theorem remains_of_keepsMessage
    {state : NextMessageState} {objectInstanceHandle : ObjectInstanceHandle}
    (keeps :
      state.keepsMessage
        (.eraseMessagesForObjectInstance objectInstanceHandle) = true)
    (isNext : state.federate.getIsAnyNextMessageMode = true)
    (below : state.federate.pendingLogicalTime.first < state.requested) :
    (∃ message ∈ state.federate.deliveryQueue.timeStampedAt
        state.federate.pendingLogicalTime.first,
      message.objectInstanceHandle ≠ some objectInstanceHandle) ∨
    ∃ message ∈ state.delivered,
      message.timeStamp = state.federate.pendingLogicalTime.first := by
  rw [keepsMessage, isNext] at keeps
  simp only [Bool.not_true, Bool.false_or, Bool.or_eq_true, List.any_eq_true,
    decide_eq_true_eq] at keeps
  rcases keeps with (beyond | queued) | earlier
  · exact absurd below (not_lt.mpr beyond)
  · exact .inl queued
  · exact .inr earlier

theorem Stops.step
    {before next : NextMessageState} {input : FederateInput}
    (stops : before.Stops)
    (keeps : before.keepsMessage input = true)
    (stepped : system.next before input = some next) :
    next.Stops := by
  obtain ⟨federate, applied, equal⟩ := Option.map_eq_some_iff.mp stepped
  have regular := apply_regularQueue stops.regular applied
  rw [← equal]
  cases input with
  | call service =>
      obtain ⟨-, called⟩ := FederateInput.apply_call_eq_some.mp applied
      by_cases requests : ∃ logicalTime mode,
          service = .timeAdvanceRequest logicalTime mode
      · obtain ⟨logicalTime, mode, isRequest⟩ := requests
        rw [isRequest] at called keeps ⊢
        obtain ⟨current, granted, -, -, after⟩ :=
          Ambassador.timeAdvanceRequest_ok called
        refine ⟨regular, ?_⟩
        change federate.deliveryQueue.StopsAtMessage logicalTime []
        rw [after]
        exact timeAdvanceRequest_stops stops.regular granted current
          (firstListHolds_of_keepsMessage keeps)
      · have other : ∀ logicalTime mode,
            service ≠ .timeAdvanceRequest logicalTime mode :=
          fun logicalTime mode same => requests ⟨logicalTime, mode, same⟩
        rw [after_call other]
        exact ⟨regular, call_stops stops.atMessage other called⟩
  | receive message =>
      exact ⟨regular,
        acceptInternalMessage_stops stops.regular stops.atMessage applied⟩
  | dispatchCallback =>
      cases applied
      exact ⟨regular, dispatchCallback_stops stops.regular stops.atMessage⟩
  | callbackMessageAvailable =>
      cases applied
      exact ⟨regular,
        stops.atMessage.stable (callbackMessageAvailable_stable _)⟩
  | eraseMessagesForObjectInstance objectInstanceHandle =>
      cases applied
      exact ⟨regular,
        eraseMessagesForObjectInstance_stops (remains_of_keepsMessage keeps)⟩
  | setNotificationHandle notificationHandle =>
      cases applied
      refine ⟨regular, ?_⟩
      change StopsAtMessage (setNotificationHandle _ _).deliveryQueue _ _
      rw [deliveryQueue_setNotificationHandle]
      exact stops.atMessage

theorem stops_initial : system.initial.Stops where
  regular := new_regularQueue
  atMessage := stopsAtMessage_of_not rfl _ _

/-- In every run in which no next message request finds an emptied list in front
of the queue, and none has its messages erased while it is pending, a grant
before the requested time follows the delivery of a message with that time. -/
theorem nextMessage_stops
    {state : NextMessageState}
    (reachable : system.ReachableUnder
      (fun before input => before.keepsMessage input = true) state)
    (nextMessage : state.federate.getIsAnyNextMessageMode = true)
    {after : TemplateTimeManagement}
    (dispatched :
      state.federate.dispatchCallback = (after, some .timeAdvanceGranted))
    (early : after.queryLogicalTime < state.requested) :
    ∃ message ∈ state.delivered,
      message.timeStamp = after.queryLogicalTime := by
  have stops : state.Stops := by
    refine TransitionSystem.ReachableUnder.invariant Stops stops_initial ?_
      reachable
    intro before input next stops keeps stepped
    exact stops.step keeps stepped
  exact granted_stops stops.regular stops.atMessage nextMessage dispatched early

/-- A next message request to 8 while a message with time stamp 6 is queued. -/
def nextMessageRun : List FederateInput :=
  DeliveryState.constrainedRun ++
    [.receive (.timeStamped ⟨2, 6, some 3⟩),
      .call (.timeAdvanceRequest 8 .nextMessageRequest),
      .receive (.commitLowerBoundTimeStamp 2 20
        .timeAdvanceAndNextMessageCommit (-17)),
      .dispatchCallback]

theorem nextMessage_stops_at_six :
    ∃ state, (system.restrict keepsMessage).run system.initial nextMessageRun =
        some state ∧
      state.federate.dispatchCallback.2 = some .timeAdvanceGranted ∧
      state.federate.dispatchCallback.1.queryLogicalTime = 6 ∧
      state.requested = 8 ∧
      ∃ message ∈ state.delivered,
        message.timeStamp =
          state.federate.dispatchCallback.1.queryLogicalTime := by
  refine ⟨_, rfl, rfl, rfl, rfl, ?_⟩
  have reachable : (system.restrict keepsMessage).Reachable _ :=
    TransitionSystem.reachable_of_run nextMessageRun rfl
  exact nextMessage_stops
    (TransitionSystem.reachableUnder_of_restrict reachable) rfl rfl (by decide)

/-- The same request after the message was erased. -/
def erasedRun : List FederateInput :=
  DeliveryState.constrainedRun ++
    [.receive (.timeStamped ⟨2, 6, some 3⟩),
      .eraseMessagesForObjectInstance 3,
      .call (.timeAdvanceRequest 8 .nextMessageRequest),
      .receive (.commitLowerBoundTimeStamp 2 20
        .timeAdvanceAndNextMessageCommit (-17))]

/-- The emptied list shortens the advance to 6. -/
theorem nextMessage_stops_fails :
    ¬∀ state : NextMessageState, system.Reachable state →
      state.federate.getIsAnyNextMessageMode = true →
      ∀ after,
        state.federate.dispatchCallback = (after, some .timeAdvanceGranted) →
        after.queryLogicalTime < state.requested →
        ∃ message ∈ state.delivered,
          message.timeStamp = after.queryLogicalTime := by
  intro every
  have reachable : system.Reachable _ :=
    TransitionSystem.reachable_of_run erasedRun rfl
  obtain ⟨message, member, -⟩ := every _ reachable rfl _ rfl (by decide)
  cases member

end NextMessageState

end TimeManagement
end OpenRTI
