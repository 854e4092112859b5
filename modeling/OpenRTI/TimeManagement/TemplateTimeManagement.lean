import Mathlib.Data.Finset.Basic
import OpenRTI.TimeManagement.Messages

/-!
# Time management of one federate

The state of a federate's time management and the operations on it, for the
integer time factory.  What an operation sends through the ambassador is
appended to `sent`; whoever runs the federate takes the messages from there.
The checks of the ambassador are not part of these operations.
-/

namespace OpenRTI
namespace TimeManagement

open Foundation

inductive TimeRegulationMode
  | timeRegulationDisabled
  | timeRegulationEnablePending
  | timeRegulationEnabled
  deriving DecidableEq

inductive TimeConstrainedMode
  | timeConstrainedDisabled
  | timeConstrainedEnablePending
  | timeConstrainedEnabled
  deriving DecidableEq

inductive TimeAdvanceMode
  | timeAdvanceGranted
  | timeAdvanceRequest
  | timeAdvanceRequestAvailable
  | nextMessageRequest
  | nextMessageRequestAvailable
  | flushQueueRequest
  deriving DecidableEq

abbrev NotificationHandle := Nat

structure TemplateTimeManagement where
  /-- The federate's handle, and the federates it knows of. -/
  federateHandle : FederateHandle
  federateHandleSet : Finset FederateHandle
  /-- Messages sent through the ambassador, oldest first. -/
  sent : List Message
  timeRegulationMode : TimeRegulationMode
  timeConstrainedMode : TimeConstrainedMode
  timeAdvanceMode : TimeAdvanceMode
  asynchronousDeliveryEnabled : Bool
  allowPendingTimeInNextMessageRequest : Bool
  /-- The current logical time, which inbound messages must not go below. -/
  logicalTime : LogicalTimePair
  /-- The logical time of a pending time advance. -/
  pendingLogicalTime : LogicalTimePair
  /-- The smallest logical time allowed for sending messages. -/
  outboundLowerBoundTimeStamp : LogicalTimePair
  lastOutboundLowerBoundTimeStamp : LogicalTimePair
  committedOutboundLowerBoundTimeStamp : Int
  committedNextMessageLowerBoundTimeStamp : Int
  currentLookahead : Int
  targetLookahead : Int
  federateLowerBoundMap : FederateHandleLowerBoundTimeStampMap Int
  /-- The federates to wait for while enabling time regulation. -/
  timeRegulationEnableFederateHandleSet : Finset FederateHandle
  timeRegulationEnableFederateHandleTimeStampMap :
    OrderedMap FederateHandle Int
  /-- A time advance is pending whose grant is not yet queued. -/
  timeAdvanceToBeScheduled : Bool
  commitId : Unsigned
  logicalTimeMessageListMap : OrderedMap LogicalTimePair (List QueuedMessage)
  receiveOrderMessages : List ReceiveOrderMessage
  notificationHandle : Option NotificationHandle
  /-- The notification handles signalled so far, oldest first. -/
  signalled : List NotificationHandle
  deriving DecidableEq

namespace TemplateTimeManagement

/-- The state on construction, for a federate that has not joined. -/
def new : TemplateTimeManagement where
  federateHandle := FederateHandle.invalid
  federateHandleSet := ∅
  sent := []
  timeRegulationMode := .timeRegulationDisabled
  timeConstrainedMode := .timeConstrainedDisabled
  timeAdvanceMode := .timeAdvanceGranted
  asynchronousDeliveryEnabled := false
  allowPendingTimeInNextMessageRequest := false
  logicalTime := ⟨LogicalTimeFactory.initialLogicalTime, 0⟩
  pendingLogicalTime := ⟨LogicalTimeFactory.initialLogicalTime, 0⟩
  outboundLowerBoundTimeStamp := ⟨LogicalTimeFactory.initialLogicalTime, 0⟩
  lastOutboundLowerBoundTimeStamp :=
    ⟨LogicalTimeFactory.initialLogicalTime, 0⟩
  committedOutboundLowerBoundTimeStamp :=
    LogicalTimeFactory.initialLogicalTime
  committedNextMessageLowerBoundTimeStamp :=
    LogicalTimeFactory.initialLogicalTime
  currentLookahead := LogicalTimeFactory.zeroLogicalTimeInterval
  targetLookahead := LogicalTimeFactory.zeroLogicalTimeInterval
  federateLowerBoundMap := ∅
  timeRegulationEnableFederateHandleSet := ∅
  timeRegulationEnableFederateHandleTimeStampMap := ∅
  timeAdvanceToBeScheduled := false
  commitId := -17
  logicalTimeMessageListMap := ∅
  receiveOrderMessages := []
  notificationHandle := none
  signalled := []

/-! ## Modes -/

def getTimeRegulationDisabled (self : TemplateTimeManagement) : Bool :=
  self.timeRegulationMode = .timeRegulationDisabled

def getTimeRegulationEnabled (self : TemplateTimeManagement) : Bool :=
  self.timeRegulationMode = .timeRegulationEnabled

def getTimeRegulationEnablePending (self : TemplateTimeManagement) : Bool :=
  self.timeRegulationMode = .timeRegulationEnablePending

def getTimeConstrainedEnabled (self : TemplateTimeManagement) : Bool :=
  self.timeConstrainedMode = .timeConstrainedEnabled

def getTimeConstrainedEnablePending (self : TemplateTimeManagement) : Bool :=
  self.timeConstrainedMode = .timeConstrainedEnablePending

def getTimeConstrainedEnabledOrPending
    (self : TemplateTimeManagement) : Bool :=
  self.timeConstrainedMode ≠ .timeConstrainedDisabled

def getTimeAdvancePending (self : TemplateTimeManagement) : Bool :=
  self.timeAdvanceMode ≠ .timeAdvanceGranted

def getFlushQueueMode (self : TemplateTimeManagement) : Bool :=
  self.timeAdvanceMode = .flushQueueRequest

def getIsAnyAdvanceRequest (self : TemplateTimeManagement) : Bool :=
  self.timeAdvanceMode = .timeAdvanceRequest ||
    self.timeAdvanceMode = .timeAdvanceRequestAvailable

def getIsAnyAvailableMode (self : TemplateTimeManagement) : Bool :=
  self.timeAdvanceMode = .timeAdvanceRequestAvailable ||
    self.timeAdvanceMode = .nextMessageRequestAvailable ||
    self.timeAdvanceMode = .flushQueueRequest

def getIsAnyNextMessageMode (self : TemplateTimeManagement) : Bool :=
  self.timeAdvanceMode = .nextMessageRequest ||
    self.timeAdvanceMode = .nextMessageRequestAvailable

/-! ## The send guard -/

/-- Whether a logical time is below the current one. -/
def isLogicalTimeInThePast
    (self : TemplateTimeManagement)
    (logicalTime : Int) : Bool :=
  logicalTime < self.logicalTime.first

/-- Whether a logical time is excluded by a lower bound. -/
def passed (bound : LogicalTimePair) (logicalTime : Int) : Bool :=
  if bound.second ≠ 0 then logicalTime ≤ bound.first
  else logicalTime < bound.first

/-- Whether a message must not be sent with a time stamp. -/
def logicalTimeAlreadyPassed
    (self : TemplateTimeManagement)
    (logicalTime : Int) : Bool :=
  passed self.outboundLowerBoundTimeStamp logicalTime

/-- The bound that sends are compared with: with the option switched on, the
pending time of a next message request. -/
def sendBound (self : TemplateTimeManagement) : LogicalTimePair :=
  if self.allowPendingTimeInNextMessageRequest &&
      self.getIsAnyNextMessageMode then
    self.pendingLogicalTime
  else self.outboundLowerBoundTimeStamp

/-- The variant that sends use.  Where it excludes a time stamp it gives the
reason. -/
def logicalTimeAlreadyPassedReason
    (self : TemplateTimeManagement)
    (logicalTime : Int) : Option String :=
  let bound := self.sendBound
  if passed bound logicalTime then
    some (toString logicalTime ++
      (if bound.second ≠ 0 then " <= " else " < ") ++ toString bound.first)
  else none

theorem logicalTimeAlreadyPassedReason_eq_none
    (self : TemplateTimeManagement) (logicalTime : Int) :
    self.logicalTimeAlreadyPassedReason logicalTime = none ↔
      passed self.sendBound logicalTime = false := by
  simp [logicalTimeAlreadyPassedReason]

/-! ## Sending and queueing -/

def send
    (self : TemplateTimeManagement)
    (message : Message) : TemplateTimeManagement :=
  { self with sent := self.sent ++ [message] }

/-- Signal the notification handle, where one is set. -/
def signal (self : TemplateTimeManagement) : TemplateTimeManagement :=
  { self with signalled := self.signalled ++ self.notificationHandle.toList }

/-- Queue a message at a time pair for a callback. -/
def queueMessage
    (self : TemplateTimeManagement)
    (logicalTimePair : LogicalTimePair)
    (message : QueuedMessage) : TemplateTimeManagement :=
  signal
    { self with
      logicalTimeMessageListMap :=
        self.logicalTimeMessageListMap.alter logicalTimePair fun present =>
          some (present.getD [] ++ [message]) }

def queueReceiveOrderMessage
    (self : TemplateTimeManagement)
    (message : ReceiveOrderMessage) : TemplateTimeManagement :=
  signal
    { self with
      receiveOrderMessages := self.receiveOrderMessages ++ [message] }

/-- The least logical time that a message is queued at. -/
def getLeastIncomingTimestamp (self : TemplateTimeManagement) : Option Int :=
  self.logicalTimeMessageListMap.begin?.map fun entry => entry.1.first

def canAdvanceTo
    (self : TemplateTimeManagement)
    (logicalTimePair : LogicalTimePair) : Bool :=
  self.federateLowerBoundMap.canAdvanceTo
    logicalTimePair.first logicalTimePair.second

def canAdvanceToNextMessage
    (self : TemplateTimeManagement)
    (logicalTimePair : LogicalTimePair) : Bool :=
  self.federateLowerBoundMap.canAdvanceToNextMessage
    logicalTimePair.first logicalTimePair.second

def getLockedByNextMessage (self : TemplateTimeManagement) : Bool :=
  self.getTimeConstrainedEnabled && self.getIsAnyNextMessageMode &&
    self.federateLowerBoundMap.getLockedByNextMessage self.commitId

def getIsSafeToAdvanceToNextMessage (self : TemplateTimeManagement) : Bool :=
  self.getIsAnyNextMessageMode &&
    self.federateLowerBoundMap.getIsSafeToAdvanceToNextMessage self.commitId

/-! ## Committing lower bounds -/

/-- Commit a lower bound and tell the other federates. -/
def sendCommitLowerBoundTimeStamp
    (self : TemplateTimeManagement)
    (logicalTime : Int)
    (commitType : LowerBoundTimeStampCommitType) : TemplateTimeManagement :=
  let timeAdvance :=
    if commitType.timeAdvance then logicalTime
    else self.committedOutboundLowerBoundTimeStamp
  let nextMessage :=
    if commitType.nextMessage then logicalTime
    else self.committedNextMessageLowerBoundTimeStamp
  let commitId :=
    if commitType.nextMessage ∧ timeAdvance ≠ nextMessage then
      self.commitId + 1
    else self.commitId
  send
    { self with
      committedOutboundLowerBoundTimeStamp := timeAdvance
      committedNextMessageLowerBoundTimeStamp := nextMessage
      commitId := commitId }
    (.commitLowerBoundTimeStamp self.federateHandle logicalTime commitType
      commitId)

/-- The parts of a commit that change what is committed. -/
def changedCommitType
    (self : TemplateTimeManagement)
    (logicalTime : Int)
    (commitType : LowerBoundTimeStampCommitType) :
    LowerBoundTimeStampCommitType where
  timeAdvance := commitType.timeAdvance &&
    self.committedOutboundLowerBoundTimeStamp < logicalTime
  nextMessage := commitType.nextMessage &&
    self.committedNextMessageLowerBoundTimeStamp ≠ logicalTime

/-- Commit those parts of a lower bound that change what is committed. -/
def sendCommitLowerBoundTimeStampIfChanged
    (self : TemplateTimeManagement)
    (logicalTime : Int)
    (commitType : LowerBoundTimeStampCommitType) : TemplateTimeManagement :=
  let changed := self.changedCommitType logicalTime commitType
  if logicalTime < self.committedOutboundLowerBoundTimeStamp then self
  else if !changed.timeAdvance && !changed.nextMessage then self
  else self.sendCommitLowerBoundTimeStamp logicalTime changed

/-- Commit a lower bound that is given as a pair. -/
def sendCommitLowerBoundTimeStampPairIfChanged
    (self : TemplateTimeManagement)
    (logicalTimePair : LogicalTimePair)
    (commitType : LowerBoundTimeStampCommitType) : TemplateTimeManagement :=
  if 0 < logicalTimePair.second then
    self.sendCommitLowerBoundTimeStampIfChanged
      (LogicalTimeFactory.nextAfter logicalTimePair.first) commitType
  else
    self.sendCommitLowerBoundTimeStampIfChanged logicalTimePair.first
      commitType

/-- Whether a lower bound for messages excludes equality. -/
def getOutboundLowerTimeStampSecondField
    (self : TemplateTimeManagement)
    (lookahead : Int) : Int :=
  if !self.getTimeRegulationEnabled then 0
  else if self.getIsAnyAvailableMode then 0
  else if LogicalTimeFactory.isZeroTimeInterval lookahead then 1
  else 0

/-- Commit the lower bound that follows from advancing to a logical time with
a lookahead, but nothing below what is committed. -/
def sendCommitLowerBoundTimeStampLookaheadIfChanged
    (self : TemplateTimeManagement)
    (logicalTime lookahead : Int)
    (commitType : LowerBoundTimeStampCommitType) : TemplateTimeManagement :=
  let logicalTimePlusLookahead := logicalTime + lookahead
  let logicalTimePlusLookahead :=
    if self.getOutboundLowerTimeStampSecondField lookahead ≠ 0 then
      LogicalTimeFactory.nextAfter logicalTimePlusLookahead
    else logicalTimePlusLookahead
  self.sendCommitLowerBoundTimeStampIfChanged
    (max logicalTimePlusLookahead self.committedOutboundLowerBoundTimeStamp)
    commitType

/-- Tell a federate which of its commits has arrived here. -/
def sendCommitLowerBoundTimeStampResponse
    (self : TemplateTimeManagement)
    (federateHandle : FederateHandle)
    (commitId : Unsigned) : TemplateTimeManagement :=
  if !FederateHandle.valid self.federateHandle then self
  else
    self.send
      (.commitLowerBoundTimeStampResponse federateHandle self.federateHandle
        commitId)

/-- Tell all federates in next message mode which commit has arrived here. -/
def sendCommitLowerBoundTimeStampResponses
    (self : TemplateTimeManagement) : TemplateTimeManagement :=
  self.federateLowerBoundMap.getNextMessageFederateHandleList.foldl
    (fun self entry =>
      self.sendCommitLowerBoundTimeStampResponse entry.1 entry.2)
    self

def sendLockedByNextMessageRequest
    (self : TemplateTimeManagement)
    (lockedByNextMessage : Bool) : TemplateTimeManagement :=
  self.send
    (.lockedByNextMessageRequest self.federateHandle lockedByNextMessage)

/-- Tell the other federates when being locked differs from before. -/
def sendLockedByNextMessageRequestIfChanged
    (self : TemplateTimeManagement)
    (previousLockedByNextMessage : Bool) : TemplateTimeManagement :=
  if previousLockedByNextMessage ≠ self.getLockedByNextMessage then
    self.sendLockedByNextMessageRequest self.getLockedByNextMessage
  else self

end TemplateTimeManagement
end TimeManagement
end OpenRTI
