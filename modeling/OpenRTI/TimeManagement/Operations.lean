import OpenRTI.TimeManagement.TemplateTimeManagement

/-!
# Operations of time management

The calls of the federate, the messages from the other federates, and the
callbacks that take effect when they are dispatched.
-/

namespace OpenRTI
namespace TimeManagement
namespace TemplateTimeManagement

open Foundation

/-! ## Pending time advances -/

/-- Queue the grant of the pending time advance. -/
def scheduleTimeAdvanceGranted
    (self : TemplateTimeManagement) : TemplateTimeManagement :=
  queueMessage { self with timeAdvanceToBeScheduled := false }
    self.pendingLogicalTime .timeAdvanceGranted

/-- Grant the pending next message request, or commit the least bound of the
other federates where it can not be granted yet. -/
def advanceOrCommit
    (self : TemplateTimeManagement)
    (canAdvance : Bool)
    (galt : Option Int) : TemplateTimeManagement :=
  if canAdvance then
    let scheduled := self.scheduleTimeAdvanceGranted
    if scheduled.getTimeRegulationEnabled then
      scheduled.sendCommitLowerBoundTimeStampLookaheadIfChanged
        scheduled.pendingLogicalTime.first scheduled.targetLookahead
        .timeAdvanceAndNextMessageCommit
    else scheduled
  else if self.getTimeRegulationEnabled then
    match galt with
    | none => self
    | some bound =>
        self.sendCommitLowerBoundTimeStampLookaheadIfChanged bound
          self.targetLookahead .timeAdvanceCommit
  else self

/-- See whether the pending next message request can be granted. -/
def checkForPendingTimeAdvance
    (self : TemplateTimeManagement)
    (allowNextMessage : Bool) : TemplateTimeManagement :=
  if !self.timeAdvanceToBeScheduled then self
  else if self.getIsAnyNextMessageMode then
    if allowNextMessage && self.getIsSafeToAdvanceToNextMessage then
      self.advanceOrCommit
        (self.canAdvanceToNextMessage ⟨self.pendingLogicalTime.first, 0⟩)
        self.federateLowerBoundMap.getNextMessageGALT
    else
      self.advanceOrCommit
        (self.canAdvanceTo ⟨self.pendingLogicalTime.first, 0⟩)
        self.federateLowerBoundMap.getGALT
  else self

/-- Queue the grant of a flush queue request once the queue is empty. -/
def checkForPendingFlushQueue
    (self : TemplateTimeManagement) : TemplateTimeManagement :=
  if self.logicalTimeMessageListMap.isEmpty && self.getFlushQueueMode &&
      self.timeAdvanceToBeScheduled then
    self.scheduleTimeAdvanceGranted
  else self

/-! ## Calls of the federate -/

def enableTimeRegulationAt
    (self : TemplateTimeManagement)
    (logicalTime lookahead : Int) : TemplateTimeManagement :=
  let pendingLogicalTime := max self.logicalTime ⟨logicalTime, 0⟩
  let outbound : LogicalTimePair := ⟨pendingLogicalTime.first + lookahead, 0⟩
  let pending :=
    { self with
      timeRegulationMode := .timeRegulationEnablePending
      currentLookahead := lookahead
      targetLookahead := lookahead
      pendingLogicalTime := pendingLogicalTime
      outboundLowerBoundTimeStamp := outbound
      lastOutboundLowerBoundTimeStamp := outbound
      committedOutboundLowerBoundTimeStamp := outbound.first
      committedNextMessageLowerBoundTimeStamp := outbound.first
      -- The own handle stands for the request that loops back from the root
      -- server, in order with the federates that join.
      timeRegulationEnableFederateHandleSet :=
        Insert.insert self.federateHandle
          (self.timeRegulationEnableFederateHandleSet ∪
            self.federateHandleSet) }
  let requested := pending.send
    (.enableTimeRegulationRequest self.federateHandle outbound.first
      self.commitId)
  requested.sendCommitLowerBoundTimeStampResponses

def enableTimeRegulation
    (self : TemplateTimeManagement)
    (lookahead : Int) : TemplateTimeManagement :=
  self.enableTimeRegulationAt self.logicalTime.first lookahead

def disableTimeRegulation
    (self : TemplateTimeManagement) : TemplateTimeManagement :=
  let initial : LogicalTimePair := ⟨LogicalTimeFactory.initialLogicalTime, 0⟩
  send
    { self with
      timeRegulationMode := .timeRegulationDisabled
      currentLookahead := self.targetLookahead
      outboundLowerBoundTimeStamp := initial
      lastOutboundLowerBoundTimeStamp := initial
      committedOutboundLowerBoundTimeStamp := initial.first
      committedNextMessageLowerBoundTimeStamp := initial.first }
    (.disableTimeRegulationRequest self.federateHandle)

def enableTimeConstrained
    (self : TemplateTimeManagement) : TemplateTimeManagement :=
  let pendingLogicalTime : LogicalTimePair := ⟨self.logicalTime.first, 0⟩
  let pending := queueMessage
    { self with
      timeConstrainedMode := .timeConstrainedEnablePending
      pendingLogicalTime := pendingLogicalTime }
    pendingLogicalTime .timeConstrainedEnabled
  pending.send (.enableTimeConstrainedNotify self.federateHandle)

def disableTimeConstrained
    (self : TemplateTimeManagement) : TemplateTimeManagement :=
  send { self with timeConstrainedMode := .timeConstrainedDisabled }
    (.disableTimeConstrainedNotify self.federateHandle)

def getPendingTimeSecondField (self : TemplateTimeManagement) : Int :=
  if !self.getTimeConstrainedEnabled then 0
  else if self.getIsAnyAvailableMode then 0
  else 1

/-- Set the lower bound for sending to what advancing to a logical time allows
with the requested lookahead, but not below an earlier bound. -/
def setOutboundLowerTimeStampAndCurrentLookahead
    (self : TemplateTimeManagement)
    (logicalTime : Int)
    (lastOutboundLowerBoundTimeStamp : LogicalTimePair) :
    TemplateTimeManagement :=
  let outbound : LogicalTimePair :=
    ⟨logicalTime + self.targetLookahead,
      self.getOutboundLowerTimeStampSecondField self.targetLookahead⟩
  if outbound < lastOutboundLowerBoundTimeStamp then
    { self with
      currentLookahead :=
        min (lastOutboundLowerBoundTimeStamp.first - logicalTime)
          self.targetLookahead
      outboundLowerBoundTimeStamp := lastOutboundLowerBoundTimeStamp }
  else
    { self with
      currentLookahead := self.targetLookahead
      outboundLowerBoundTimeStamp := outbound }

/-- Lower the pending time to the least queued message, if that is below. -/
def limitPendingLogicalTime
    (self : TemplateTimeManagement) : TemplateTimeManagement :=
  match self.getLeastIncomingTimestamp with
  | none => self
  | some timeStamp =>
      if timeStamp < self.pendingLogicalTime.first then
        { self with
          pendingLogicalTime := ⟨timeStamp, self.pendingLogicalTime.second⟩ }
      else self

/-- The part of `timeAdvanceRequest` that all modes share: the pending time and
the lower bound for sending. -/
def prepareTimeAdvance
    (self : TemplateTimeManagement)
    (logicalTime : Int)
    (timeAdvanceMode : TimeAdvanceMode) : TemplateTimeManagement :=
  let requested := { self with timeAdvanceMode := timeAdvanceMode }
  let pending :=
    { requested with
      pendingLogicalTime :=
        max self.logicalTime
          ⟨logicalTime, requested.getPendingTimeSecondField⟩ }
  if pending.getTimeRegulationEnabled then
    { pending with
      lastOutboundLowerBoundTimeStamp := self.outboundLowerBoundTimeStamp }
      |>.setOutboundLowerTimeStampAndCurrentLookahead logicalTime
        self.outboundLowerBoundTimeStamp
  else pending

/-- The part of `timeAdvanceRequest` for the time advance requests. -/
def requestTimeAdvance
    (self : TemplateTimeManagement) : TemplateTimeManagement :=
  let committed :=
    if self.getTimeRegulationEnabled then
      self.sendCommitLowerBoundTimeStampPairIfChanged
        self.outboundLowerBoundTimeStamp .timeAdvanceAndNextMessageCommit
    else self
  committed.queueMessage committed.pendingLogicalTime .timeAdvanceGranted

/-- The part of `timeAdvanceRequest` for the next message requests. -/
def requestNextMessage
    (self : TemplateTimeManagement) : TemplateTimeManagement :=
  if self.getTimeConstrainedEnabled then
    let limited :=
      { self.limitPendingLogicalTime with timeAdvanceToBeScheduled := true }
    let committed :=
      if limited.getTimeRegulationEnabled then
        limited.sendCommitLowerBoundTimeStampLookaheadIfChanged
          limited.pendingLogicalTime.first limited.targetLookahead
          .nextMessageCommit
      else limited
    committed.checkForPendingTimeAdvance false
  else
    -- Without being constrained nothing is committed unless a grant of an
    -- earlier request was left to be scheduled.
    let committed :=
      if self.getTimeRegulationEnabled && self.timeAdvanceToBeScheduled then
        self.sendCommitLowerBoundTimeStampLookaheadIfChanged
          self.pendingLogicalTime.first self.targetLookahead
          .nextMessageCommit
      else self
    committed.queueMessage committed.pendingLogicalTime .timeAdvanceGranted

/-- Lower the pending time to the least bound of the other federates, if it can
not be advanced to. -/
def boundPendingLogicalTime
    (self : TemplateTimeManagement) : TemplateTimeManagement :=
  if self.getTimeConstrainedEnabled &&
      !self.canAdvanceTo ⟨self.pendingLogicalTime.first, 0⟩ then
    match self.federateLowerBoundMap.getGALT with
    | none => self
    | some galt =>
        { self with
          pendingLogicalTime :=
            max self.logicalTime ⟨galt, self.pendingLogicalTime.second⟩ }
  else self

/-- Commit what the pending time of a flush queue request allows, and leave the
grant to be queued once the queue is empty. -/
def scheduleFlushQueue
    (self : TemplateTimeManagement) : TemplateTimeManagement :=
  let committed :=
    if self.getTimeRegulationEnabled then
      self.sendCommitLowerBoundTimeStampIfChanged
        (max (self.pendingLogicalTime.first + self.targetLookahead)
          self.committedOutboundLowerBoundTimeStamp)
        .timeAdvanceAndNextMessageCommit
    else self
  if committed.getTimeConstrainedEnabled then
    { committed with timeAdvanceToBeScheduled := true }
  else committed.queueMessage committed.pendingLogicalTime .timeAdvanceGranted

/-- The part of `timeAdvanceRequest` for the flush queue request. -/
def requestFlushQueue
    (self : TemplateTimeManagement) : TemplateTimeManagement :=
  let limited :=
    if self.getTimeConstrainedEnabled then self.limitPendingLogicalTime
    else self
  limited.boundPendingLogicalTime.scheduleFlushQueue

/-- A time advance to a logical time.  The messages that have arrived are
accepted before a flush queue request. -/
def timeAdvanceRequest
    (self : TemplateTimeManagement)
    (logicalTime : Int)
    (timeAdvanceMode : TimeAdvanceMode) : TemplateTimeManagement :=
  let prepared := self.prepareTimeAdvance logicalTime timeAdvanceMode
  match timeAdvanceMode with
  | .timeAdvanceRequest => prepared.requestTimeAdvance
  | .timeAdvanceRequestAvailable => prepared.requestTimeAdvance
  | .nextMessageRequest => prepared.requestNextMessage
  | .nextMessageRequestAvailable => prepared.requestNextMessage
  | .flushQueueRequest => prepared.requestFlushQueue
  | .timeAdvanceGranted => prepared

def queryGALT (self : TemplateTimeManagement) : Option Int :=
  if self.federateLowerBoundMap.empty then none
  else self.federateLowerBoundMap.getGALT

def queryLogicalTime (self : TemplateTimeManagement) : Int :=
  self.logicalTime.first

/-- The least time stamp that may still be delivered. -/
def queryLITS (self : TemplateTimeManagement) : Option Int :=
  match self.getLeastIncomingTimestamp, self.queryGALT with
  | none, galt => galt
  | some timeStamp, none => some timeStamp
  | some timeStamp, some galt =>
      some (if galt < timeStamp then galt else timeStamp)

def modifyLookahead
    (self : TemplateTimeManagement)
    (lookahead : Int) : TemplateTimeManagement :=
  let modified :=
    { self with
      targetLookahead := lookahead
      lastOutboundLowerBoundTimeStamp := self.outboundLowerBoundTimeStamp }
      |>.setOutboundLowerTimeStampAndCurrentLookahead self.logicalTime.first
        self.outboundLowerBoundTimeStamp
  modified.sendCommitLowerBoundTimeStampPairIfChanged
    modified.outboundLowerBoundTimeStamp .timeAdvanceAndNextMessageCommit

def queryLookahead (self : TemplateTimeManagement) : Int :=
  self.currentLookahead

/-! ## Enabling time regulation -/

/-- Take over the logical time another federate answered with. -/
def correctTimeRegulation
    (self : TemplateTimeManagement)
    (logicalTime : Int) : TemplateTimeManagement :=
  if logicalTime ≤ self.outboundLowerBoundTimeStamp.first then self
  else
    { self with
      outboundLowerBoundTimeStamp := ⟨logicalTime, 0⟩
      pendingLogicalTime :=
        max self.pendingLogicalTime ⟨logicalTime - self.currentLookahead, 0⟩ }

/-- Once all federates have answered, commit the resulting lower bound and
queue the callback. -/
def checkTimeRegulationEnabled
    (self : TemplateTimeManagement) : TemplateTimeManagement :=
  if !self.getTimeRegulationEnablePending then self
  else if self.timeRegulationEnableFederateHandleSet ≠ ∅ then self
  else
    let corrected :=
      self.timeRegulationEnableFederateHandleTimeStampMap.entries.foldl
        (fun self entry => self.correctTimeRegulation entry.2) self
    let cleared :=
      { corrected with timeRegulationEnableFederateHandleTimeStampMap := ∅ }
    let committed := cleared.sendCommitLowerBoundTimeStamp
      cleared.outboundLowerBoundTimeStamp.first
      .timeAdvanceAndNextMessageCommit
    committed.queueMessage committed.pendingLogicalTime .timeRegulationEnabled

/-! ## Messages from the server -/

/-- The response that ends the snapshot of the federation tells the federate
its handle. -/
def acceptJoinFederationExecutionResponse
    (self : TemplateTimeManagement)
    (federateHandle : FederateHandle) : TemplateTimeManagement :=
  { self with federateHandle := federateHandle }

def acceptJoinFederateNotify
    (self : TemplateTimeManagement)
    (federateHandle : FederateHandle) : TemplateTimeManagement :=
  let joined :=
    { self with
      federateHandleSet := Insert.insert federateHandle self.federateHandleSet }
  -- As long as the own request has not looped back, a federate that joins will
  -- get the request and answer it.
  if self.federateHandle ∈ self.timeRegulationEnableFederateHandleSet then
    { joined with
      timeRegulationEnableFederateHandleSet :=
        Insert.insert federateHandle
          self.timeRegulationEnableFederateHandleSet }
  else joined

def removeFederateFromTimeManagement
    (self : TemplateTimeManagement)
    (federateHandle : FederateHandle) : TemplateTimeManagement :=
  let previousLockedByNextMessage := self.getLockedByNextMessage
  let erased :=
    { self with
      federateLowerBoundMap :=
        (self.federateLowerBoundMap.erase federateHandle).1
      timeRegulationEnableFederateHandleTimeStampMap :=
        self.timeRegulationEnableFederateHandleTimeStampMap.erase
          federateHandle }
  let checked :=
    if federateHandle ∈ self.timeRegulationEnableFederateHandleSet then
      { erased with
        timeRegulationEnableFederateHandleSet :=
          self.timeRegulationEnableFederateHandleSet.erase federateHandle }
        |>.checkTimeRegulationEnabled
    else erased
  checked.sendLockedByNextMessageRequestIfChanged previousLockedByNextMessage
    |>.checkForPendingTimeAdvance true

def acceptResignFederateNotify
    (self : TemplateTimeManagement)
    (federateHandle : FederateHandle) : TemplateTimeManagement :=
  let removed := self.removeFederateFromTimeManagement federateHandle
  { removed with
    federateHandleSet := removed.federateHandleSet.erase federateHandle }

/-- The logical time a federate answers a request for time regulation with: one
that does not let messages arrive before its own pending time. -/
def timeRegulationResponseTime
    (self : TemplateTimeManagement)
    (logicalTime : Int) : Int :=
  if 0 < self.pendingLogicalTime.second then
    if logicalTime ≤ self.pendingLogicalTime.first then
      LogicalTimeFactory.nextAfter self.pendingLogicalTime.first
    else logicalTime
  else if logicalTime < self.pendingLogicalTime.first then
    self.pendingLogicalTime.first
  else logicalTime

def acceptEnableTimeRegulationRequest
    (self : TemplateTimeManagement)
    (federateHandle : FederateHandle)
    (timeStamp : Int)
    (commitId : Unsigned) : TemplateTimeManagement :=
  if self.federateHandle = federateHandle then
    -- The own request, looped back from the root server.
    if !self.getTimeRegulationEnablePending then self
    else
      { self with
        timeRegulationEnableFederateHandleSet :=
          self.timeRegulationEnableFederateHandleSet.erase
            self.federateHandle }
        |>.checkTimeRegulationEnabled
  else
    let valid := FederateHandle.valid self.federateHandle
    let logicalTime :=
      if valid && self.getTimeConstrainedEnabledOrPending then
        self.timeRegulationResponseTime timeStamp
      else timeStamp
    let responded :=
      if valid then
        self.send
          (.enableTimeRegulationResponse federateHandle self.federateHandle
            logicalTime self.getTimeConstrainedEnabledOrPending)
      else self
    { responded with
      federateLowerBoundMap :=
        self.federateLowerBoundMap.insert federateHandle logicalTime
          logicalTime commitId (self.commitId - 1) }
      |>.sendLockedByNextMessageRequestIfChanged self.getLockedByNextMessage

def acceptEnableTimeRegulationResponse
    (self : TemplateTimeManagement)
    (respondingFederateHandle : FederateHandle)
    (timeStamp : Int)
    (timeStampValid : Bool) : TemplateTimeManagement :=
  if !self.getTimeRegulationEnablePending then self
  else
    -- Neither change affects being locked by a next message request.
    { self with
      timeRegulationEnableFederateHandleTimeStampMap :=
        if timeStampValid then
          self.timeRegulationEnableFederateHandleTimeStampMap.set
            respondingFederateHandle timeStamp
        else self.timeRegulationEnableFederateHandleTimeStampMap
      timeRegulationEnableFederateHandleSet :=
        self.timeRegulationEnableFederateHandleSet.erase
          respondingFederateHandle }
      |>.sendLockedByNextMessageRequestIfChanged self.getLockedByNextMessage
      |>.checkTimeRegulationEnabled

def acceptDisableTimeRegulationRequest
    (self : TemplateTimeManagement)
    (federateHandle : FederateHandle) : TemplateTimeManagement :=
  { self with
    federateLowerBoundMap :=
      (self.federateLowerBoundMap.erase federateHandle).1 }
    |>.sendLockedByNextMessageRequestIfChanged self.getLockedByNextMessage
    |>.checkForPendingTimeAdvance true

/-- There is no result for a commit of a federate that has no entry. -/
def acceptCommitLowerBoundTimeStamp
    (self : TemplateTimeManagement)
    (federateHandle : FederateHandle)
    (timeStamp : Int)
    (commitType : LowerBoundTimeStampCommitType)
    (commitId : Unsigned) : Option TemplateTimeManagement :=
  (self.federateLowerBoundMap.commit federateHandle timeStamp commitType
    commitId).map fun result =>
      let committed := { self with federateLowerBoundMap := result.1 }
      let responded :=
        if result.2.2 then
          committed.sendCommitLowerBoundTimeStampResponse federateHandle
            commitId
        else committed
      responded.sendLockedByNextMessageRequestIfChanged
          self.getLockedByNextMessage
        |>.checkForPendingTimeAdvance true

def acceptCommitLowerBoundTimeStampResponse
    (self : TemplateTimeManagement)
    (sendingFederateHandle : FederateHandle)
    (commitId : Unsigned) : TemplateTimeManagement :=
  { self with
    federateLowerBoundMap :=
      self.federateLowerBoundMap.setFederateWaitCommitId
        sendingFederateHandle commitId }
    |>.sendLockedByNextMessageRequestIfChanged self.getLockedByNextMessage
    |>.checkForPendingTimeAdvance true

def acceptLockedByNextMessageRequest
    (self : TemplateTimeManagement)
    (sendingFederateHandle : FederateHandle)
    (lockedByNextMessage : Bool) : TemplateTimeManagement :=
  { self with
    federateLowerBoundMap :=
      self.federateLowerBoundMap.setFederateLockedByNextMessage
        sendingFederateHandle lockedByNextMessage }
    |>.sendLockedByNextMessageRequestIfChanged self.getLockedByNextMessage
    |>.checkForPendingTimeAdvance true

/-- After a message is queued, a pending next message request does not go
beyond it. -/
def reconsiderPendingTime
    (self : TemplateTimeManagement)
    (logicalTimePair : LogicalTimePair) : TemplateTimeManagement :=
  if self.getIsAnyNextMessageMode && self.getTimeConstrainedEnabled then
    if logicalTimePair.first < self.pendingLogicalTime.first then
      let limited :=
        if self.logicalTime.first ≤ logicalTimePair.first then
          { self with
            pendingLogicalTime :=
              ⟨logicalTimePair.first, self.pendingLogicalTime.second⟩ }
        else self
      let committed :=
        if limited.timeAdvanceToBeScheduled &&
            limited.getTimeRegulationEnabled then
          limited.sendCommitLowerBoundTimeStampLookaheadIfChanged
            limited.pendingLogicalTime.first limited.targetLookahead
            .nextMessageCommit
        else limited
      committed.checkForPendingTimeAdvance true
    else self
  else self

/-- Queue a time stamped message, from another federate or from this one.  A
message below what is granted is dropped. -/
def queueTimeStampedMessage
    (self : TemplateTimeManagement)
    (message : TimeStampedMessage) : TemplateTimeManagement :=
  if self.getTimeConstrainedEnabled &&
      (⟨message.timeStamp, 1⟩ : LogicalTimePair) < self.logicalTime then
    self
  else
    self.queueMessage ⟨message.timeStamp, -1⟩ (.timeStamped message)
      |>.reconsiderPendingTime ⟨message.timeStamp, -1⟩

/-- Accept a message from the server.  The notifications about constrained
federates are ignored. -/
def acceptInternalMessage
    (self : TemplateTimeManagement) :
    Message → Option TemplateTimeManagement
  | .joinFederationExecutionResponse federateHandle =>
      some (self.acceptJoinFederationExecutionResponse federateHandle)
  | .joinFederateNotify federateHandle =>
      some (self.acceptJoinFederateNotify federateHandle)
  | .resignFederateNotify federateHandle =>
      some (self.acceptResignFederateNotify federateHandle)
  | .enableTimeRegulationRequest federateHandle timeStamp commitId =>
      some (self.acceptEnableTimeRegulationRequest federateHandle timeStamp
        commitId)
  | .enableTimeRegulationResponse _ responding timeStamp valid =>
      some (self.acceptEnableTimeRegulationResponse responding timeStamp valid)
  | .disableTimeRegulationRequest federateHandle =>
      some (self.acceptDisableTimeRegulationRequest federateHandle)
  | .enableTimeConstrainedNotify _ => some self
  | .disableTimeConstrainedNotify _ => some self
  | .commitLowerBoundTimeStamp federateHandle timeStamp commitType commitId =>
      self.acceptCommitLowerBoundTimeStamp federateHandle timeStamp commitType
        commitId
  | .commitLowerBoundTimeStampResponse _ sending commitId =>
      some (self.acceptCommitLowerBoundTimeStampResponse sending commitId)
  | .lockedByNextMessageRequest sending locked =>
      some (self.acceptLockedByNextMessageRequest sending locked)
  | .timeStamped message => some (self.queueTimeStampedMessage message)
  | .receiveOrder message => some (self.queueReceiveOrderMessage message)

/-- Remove the queued messages for an object instance; a list that gets empty
stays in the map. -/
def eraseMessagesForObjectInstance
    (self : TemplateTimeManagement)
    (objectInstanceHandle : ObjectInstanceHandle) : TemplateTimeManagement :=
  let keep := fun message : QueuedMessage =>
    message.getObjectInstanceHandleForMessage ≠ some objectInstanceHandle
  { self with
    logicalTimeMessageListMap :=
      self.logicalTimeMessageListMap.mapValues fun messages =>
        messages.filter keep
    receiveOrderMessages :=
      self.receiveOrderMessages.filter fun message =>
        keep (.receiveOrder message) }

def setNotificationHandle
    (self : TemplateTimeManagement)
    (notificationHandle : Option NotificationHandle) :
    TemplateTimeManagement :=
  let changed := { self with notificationHandle := notificationHandle }
  let havePendingMessages :=
    !self.receiveOrderMessages.isEmpty ||
      self.logicalTimeMessageListMap.entries.any fun entry =>
        entry.2.isEmpty
  if havePendingMessages then changed.signal else changed

/-! ## Callbacks -/

def receiveOrderMessagesPermitted (self : TemplateTimeManagement) : Bool :=
  !self.getTimeConstrainedEnabled || self.asynchronousDeliveryEnabled ||
    self.getTimeAdvancePending

/-- Whether messages queued at a time pair may be delivered. -/
def timeStampOrderMessagesPermitted
    (self : TemplateTimeManagement)
    (logicalTimePair : LogicalTimePair) : Bool :=
  if self.getFlushQueueMode then true
  else if !self.getTimeConstrainedEnabledOrPending then true
  else if self.pendingLogicalTime < logicalTimePair then false
  else self.canAdvanceTo logicalTimePair

def acceptTimeConstrainedEnabled
    (self : TemplateTimeManagement) : TemplateTimeManagement :=
  { self with
    timeConstrainedMode := .timeConstrainedEnabled
    logicalTime := self.pendingLogicalTime }

def acceptTimeRegulationEnabled
    (self : TemplateTimeManagement) : TemplateTimeManagement :=
  { self with
    timeRegulationMode := .timeRegulationEnabled
    logicalTime := self.pendingLogicalTime }

def acceptTimeAdvanceGranted
    (self : TemplateTimeManagement) : TemplateTimeManagement :=
  -- The bound for sending is what the requested time allowed; correct it back
  -- to what the granted time allows.
  let corrected :=
    if (self.getIsAnyNextMessageMode || self.getFlushQueueMode) &&
        self.getTimeRegulationEnabled then
      self.setOutboundLowerTimeStampAndCurrentLookahead
        self.pendingLogicalTime.first self.lastOutboundLowerBoundTimeStamp
    else self
  { corrected with
    logicalTime := corrected.pendingLogicalTime
    timeAdvanceMode := .timeAdvanceGranted }

/-- What dispatching a queued message does to time management. -/
def acceptCallbackMessage
    (self : TemplateTimeManagement) :
    QueuedMessage → TemplateTimeManagement
  | .timeConstrainedEnabled => self.acceptTimeConstrainedEnabled
  | .timeRegulationEnabled => self.acceptTimeRegulationEnabled
  | .timeAdvanceGranted => self.acceptTimeAdvanceGranted
  | .timeStamped _ => self
  | .receiveOrder _ => self

/-- Erase the empty lists at the front of the queue.  Only before the first and
after the last of them can the queue be empty, so that the grant of a flush
queue request is considered there. -/
def cleanOldestMessageLists
    (self : TemplateTimeManagement) : TemplateTimeManagement :=
  let checked := self.checkForPendingFlushQueue
  { checked with
    logicalTimeMessageListMap :=
      checked.logicalTimeMessageListMap.dropWhile fun messages =>
        messages.isEmpty }
    |>.checkForPendingFlushQueue

/-- Take the first message off the queue of time stamped messages. -/
def popTimeStampOrderMessage
    (self : TemplateTimeManagement) :
    TemplateTimeManagement × Option QueuedMessage :=
  match self.logicalTimeMessageListMap.begin? with
  | some (logicalTimePair, message :: rest) =>
      if self.timeStampOrderMessagesPermitted logicalTimePair then
        ({ self with
            logicalTimeMessageListMap :=
              self.logicalTimeMessageListMap.alter logicalTimePair fun _ =>
                if rest.isEmpty then none else some rest },
          some message)
      else (self, none)
  | _ => (self, none)

/-- Dispatch one callback message and return it, where one is permitted. -/
def dispatchCallback
    (self : TemplateTimeManagement) :
    TemplateTimeManagement × Option QueuedMessage :=
  match self.receiveOrderMessagesPermitted, self.receiveOrderMessages with
  | true, message :: rest =>
      ({ self with receiveOrderMessages := rest }
          |>.acceptCallbackMessage (.receiveOrder message),
        some (.receiveOrder message))
  | _, _ =>
      let popped := self.cleanOldestMessageLists.popTimeStampOrderMessage
      match popped.2 with
      | none => popped
      | some message =>
          (popped.1.acceptCallbackMessage message, some message)

/-- What a dispatch does: it delivers a receive order message, finds nothing to
deliver, or takes a message off the cleaned queue. -/
theorem dispatchCallback_cases (self : TemplateTimeManagement) :
    (∃ message rest, self.receiveOrderMessagesPermitted = true ∧
        self.receiveOrderMessages = message :: rest ∧
        self.dispatchCallback =
          ({ self with receiveOrderMessages := rest },
            some (.receiveOrder message))) ∨
      self.dispatchCallback = (self.cleanOldestMessageLists, none) ∨
      ∃ popped message,
        self.cleanOldestMessageLists.popTimeStampOrderMessage =
            (popped, some message) ∧
          self.dispatchCallback =
            (popped.acceptCallbackMessage message, some message) := by
  unfold dispatchCallback
  split
  next message rest permitted received =>
    exact .inl ⟨message, rest, permitted, received, rfl⟩
  next =>
    right
    unfold popTimeStampOrderMessage
    split
    next pair message rest least =>
      split
      · exact .inr ⟨_, message, rfl, rfl⟩
      · exact .inl rfl
    next => exact .inl rfl

/-- Whether a callback message can be dispatched. -/
def callbackMessageAvailable
    (self : TemplateTimeManagement) : TemplateTimeManagement × Bool :=
  if self.receiveOrderMessagesPermitted &&
      !self.receiveOrderMessages.isEmpty then
    (self, true)
  else
    let cleaned := self.cleanOldestMessageLists
    match cleaned.logicalTimeMessageListMap.begin? with
    | none => (cleaned, false)
    | some (logicalTimePair, _) =>
        (cleaned, cleaned.timeStampOrderMessagesPermitted logicalTimePair)

end TemplateTimeManagement
end TimeManagement
end OpenRTI
