import OpenRTI.TimeManagement.CommitEffects

/-!
# Integer times of 64 bits

The integer time factory computes with `int64_t`, while the operations of time
management are modelled over unbounded integers.  Here the operations that add
lookaheads to logical times take their additions as a parameter: the plain ones
of the time factory, which have no result where they overflow, or the
saturating ones of the public time type.  As long as no sum exceeds the final
time both agree with the unbounded model.
-/

namespace OpenRTI
namespace TimeManagement

/-! ## Representable times -/

namespace Integer64

def minValue : Int := -2 ^ 63

def maxValue : Int := 2 ^ 63 - 1

/-- The values of `int64_t`. -/
def Representable (value : Int) : Prop :=
  minValue ≤ value ∧ value ≤ maxValue

instance (value : Int) : Decidable (Representable value) := by
  unfold Representable
  infer_instance

end Integer64

/-- The addition of an interval to the public time type, which saturates. -/
def HLAinteger64Time.plus (value interval : Int) : Int :=
  if 0 < interval then
    if Integer64.maxValue - interval < value then Integer64.maxValue
    else value + interval
  else if interval < 0 then
    if value < Integer64.minValue - interval then Integer64.minValue
    else value + interval
  else value

theorem HLAinteger64Time.plus_eq_min
    {value interval : Int}
    (representable : Integer64.Representable value)
    (nonneg : 0 ≤ interval) :
    HLAinteger64Time.plus value interval =
      min (value + interval) Integer64.maxValue := by
  have above := representable.2
  unfold HLAinteger64Time.plus
  split
  · split <;> omega
  · split <;> omega

/-- The additions that time management performs on logical times. -/
structure TimeArithmetic where
  /-- A logical time plus an interval, `+=`. -/
  add : Int → Int → Option Int
  nextAfter : Int → Option Int

namespace TimeArithmetic

open Integer64
open TemplateTimeManagement

/-- The plain additions of the time factory; there is no result where they
overflow. -/
def int64 : TimeArithmetic where
  add logicalTime interval :=
    if Representable (logicalTime + interval) then
      some (logicalTime + interval)
    else none
  nextAfter logicalTime :=
    if Representable (logicalTime + 1) then some (logicalTime + 1) else none

/-- The additions of the public time type. -/
def saturating : TimeArithmetic where
  add logicalTime interval :=
    some (HLAinteger64Time.plus logicalTime interval)
  nextAfter logicalTime := some (HLAinteger64Time.plus logicalTime 1)

/-- Additions that are exact up to the final time. -/
structure Exact (arithmetic : TimeArithmetic) : Prop where
  add :
    ∀ {logicalTime interval : Int}, Representable logicalTime →
      0 ≤ interval → logicalTime + interval ≤ Integer64.maxValue →
        arithmetic.add logicalTime interval = some (logicalTime + interval)
  nextAfter :
    ∀ {logicalTime : Int}, Representable logicalTime →
      logicalTime + 1 ≤ Integer64.maxValue →
        arithmetic.nextAfter logicalTime = some (logicalTime + 1)

theorem exact_int64 : int64.Exact where
  add := by
    intro logicalTime interval representable nonneg within
    have below := representable.1
    apply if_pos
    exact ⟨by omega, within⟩
  nextAfter := by
    intro logicalTime representable within
    have below := representable.1
    apply if_pos
    exact ⟨by omega, within⟩

theorem exact_saturating : saturating.Exact where
  add := by
    intro logicalTime interval representable nonneg within
    apply congrArg some
    rw [HLAinteger64Time.plus_eq_min representable nonneg]
    exact min_eq_left within
  nextAfter := by
    intro logicalTime representable within
    apply congrArg some
    rw [HLAinteger64Time.plus_eq_min representable Int.one_nonneg]
    exact min_eq_left within

theorem int64_add_eq_none
    {logicalTime interval : Int}
    (exceeds : Integer64.maxValue < logicalTime + interval) :
    int64.add logicalTime interval = none := by
  apply if_neg
  rintro ⟨-, within⟩
  omega

theorem int64_nextAfter_eq_none
    {logicalTime : Int}
    (exceeds : Integer64.maxValue < logicalTime + 1) :
    int64.nextAfter logicalTime = none := by
  apply if_neg
  rintro ⟨-, within⟩
  omega

/-! ## The operations -/

section

variable (arithmetic : TimeArithmetic) (self : TemplateTimeManagement)

def sendCommitLowerBoundTimeStampPairIfChanged
    (logicalTimePair : LogicalTimePair)
    (commitType : LowerBoundTimeStampCommitType) :
    Option TemplateTimeManagement :=
  if 0 < logicalTimePair.second then
    (arithmetic.nextAfter logicalTimePair.first).map fun logicalTime =>
      self.sendCommitLowerBoundTimeStampIfChanged logicalTime commitType
  else
    some (self.sendCommitLowerBoundTimeStampIfChanged logicalTimePair.first
      commitType)

def sendCommitLowerBoundTimeStampLookaheadIfChanged
    (logicalTime lookahead : Int)
    (commitType : LowerBoundTimeStampCommitType) :
    Option TemplateTimeManagement := do
  let logicalTimePlusLookahead ← arithmetic.add logicalTime lookahead
  let logicalTimePlusLookahead ←
    if self.getOutboundLowerTimeStampSecondField lookahead ≠ 0 then
      arithmetic.nextAfter logicalTimePlusLookahead
    else some logicalTimePlusLookahead
  some (self.sendCommitLowerBoundTimeStampIfChanged
    (max logicalTimePlusLookahead
      self.committedOutboundLowerBoundTimeStamp)
    commitType)

/-- Only the addition is checked.  The difference in the first case is between
a later and an earlier time. -/
def setOutboundLowerTimeStampAndCurrentLookahead
    (logicalTime : Int)
    (lastOutboundLowerBoundTimeStamp : LogicalTimePair) :
    Option TemplateTimeManagement := do
  let first ← arithmetic.add logicalTime self.targetLookahead
  let outbound : LogicalTimePair :=
    ⟨first, self.getOutboundLowerTimeStampSecondField self.targetLookahead⟩
  if outbound < lastOutboundLowerBoundTimeStamp then
    some
      { self with
        currentLookahead :=
          min (lastOutboundLowerBoundTimeStamp.first - logicalTime)
            self.targetLookahead
        outboundLowerBoundTimeStamp := lastOutboundLowerBoundTimeStamp }
  else
    some
      { self with
        currentLookahead := self.targetLookahead
        outboundLowerBoundTimeStamp := outbound }

def enableTimeRegulationAt
    (logicalTime lookahead : Int) : Option TemplateTimeManagement := do
  let pendingLogicalTime := max self.logicalTime ⟨logicalTime, 0⟩
  let first ← arithmetic.add pendingLogicalTime.first lookahead
  let outbound : LogicalTimePair := ⟨first, 0⟩
  let pending :=
    { self with
      timeRegulationMode := .timeRegulationEnablePending
      currentLookahead := lookahead
      targetLookahead := lookahead
      pendingLogicalTime := pendingLogicalTime
      outboundLowerBoundTimeStamp := outbound
      lastOutboundLowerBoundTimeStamp := outbound
      committedOutboundLowerBoundTimeStamp := outbound.first
      committedNextMessageLowerBoundTimeStamp := outbound.first
      timeRegulationEnableFederateHandleSet :=
        Insert.insert self.federateHandle
          (self.timeRegulationEnableFederateHandleSet ∪
            self.federateHandleSet) }
  let requested := pending.send
    (.enableTimeRegulationRequest self.federateHandle outbound.first
      self.commitId)
  some requested.sendCommitLowerBoundTimeStampResponses

def advanceOrCommit
    (canAdvance : Bool)
    (galt : Option Int) : Option TemplateTimeManagement :=
  if canAdvance then
    let scheduled := self.scheduleTimeAdvanceGranted
    if scheduled.getTimeRegulationEnabled then
      arithmetic.sendCommitLowerBoundTimeStampLookaheadIfChanged scheduled
        scheduled.pendingLogicalTime.first scheduled.targetLookahead
        .timeAdvanceAndNextMessageCommit
    else some scheduled
  else if self.getTimeRegulationEnabled then
    match galt with
    | none => some self
    | some bound =>
        arithmetic.sendCommitLowerBoundTimeStampLookaheadIfChanged self bound
          self.targetLookahead .timeAdvanceCommit
  else some self

def checkForPendingTimeAdvance
    (allowNextMessage : Bool) : Option TemplateTimeManagement :=
  if !self.timeAdvanceToBeScheduled then some self
  else if self.getIsAnyNextMessageMode then
    if allowNextMessage && self.getIsSafeToAdvanceToNextMessage then
      arithmetic.advanceOrCommit self
        (self.canAdvanceToNextMessage ⟨self.pendingLogicalTime.first, 0⟩)
        self.federateLowerBoundMap.getNextMessageGALT
    else
      arithmetic.advanceOrCommit self
        (self.canAdvanceTo ⟨self.pendingLogicalTime.first, 0⟩)
        self.federateLowerBoundMap.getGALT
  else some self

def prepareTimeAdvance
    (logicalTime : Int)
    (timeAdvanceMode : TimeAdvanceMode) : Option TemplateTimeManagement :=
  let requested := { self with timeAdvanceMode := timeAdvanceMode }
  let pending :=
    { requested with
      pendingLogicalTime :=
        max self.logicalTime
          ⟨logicalTime, requested.getPendingTimeSecondField⟩ }
  if pending.getTimeRegulationEnabled then
    arithmetic.setOutboundLowerTimeStampAndCurrentLookahead
      { pending with
        lastOutboundLowerBoundTimeStamp := self.outboundLowerBoundTimeStamp }
      logicalTime self.outboundLowerBoundTimeStamp
  else some pending

def requestTimeAdvance : Option TemplateTimeManagement := do
  let committed ←
    if self.getTimeRegulationEnabled then
      arithmetic.sendCommitLowerBoundTimeStampPairIfChanged self
        self.outboundLowerBoundTimeStamp .timeAdvanceAndNextMessageCommit
    else some self
  some (committed.queueMessage committed.pendingLogicalTime
    .timeAdvanceGranted)

def requestNextMessage : Option TemplateTimeManagement :=
  if self.getTimeConstrainedEnabled then do
    let limited :=
      { self.limitPendingLogicalTime with timeAdvanceToBeScheduled := true }
    let committed ←
      if limited.getTimeRegulationEnabled then
        arithmetic.sendCommitLowerBoundTimeStampLookaheadIfChanged limited
          limited.pendingLogicalTime.first limited.targetLookahead
          .nextMessageCommit
      else some limited
    arithmetic.checkForPendingTimeAdvance committed false
  else do
    let committed ←
      if self.getTimeRegulationEnabled && self.timeAdvanceToBeScheduled then
        arithmetic.sendCommitLowerBoundTimeStampLookaheadIfChanged self
          self.pendingLogicalTime.first self.targetLookahead
          .nextMessageCommit
      else some self
    some (committed.queueMessage committed.pendingLogicalTime
      .timeAdvanceGranted)

def scheduleFlushQueue : Option TemplateTimeManagement := do
  let committed ←
    if self.getTimeRegulationEnabled then
      (arithmetic.add self.pendingLogicalTime.first
        self.targetLookahead).map fun logicalTime =>
          self.sendCommitLowerBoundTimeStampIfChanged
            (max logicalTime self.committedOutboundLowerBoundTimeStamp)
            .timeAdvanceAndNextMessageCommit
    else some self
  if committed.getTimeConstrainedEnabled then
    some { committed with timeAdvanceToBeScheduled := true }
  else
    some (committed.queueMessage committed.pendingLogicalTime
      .timeAdvanceGranted)

def requestFlushQueue : Option TemplateTimeManagement :=
  let limited :=
    if self.getTimeConstrainedEnabled then self.limitPendingLogicalTime
    else self
  arithmetic.scheduleFlushQueue limited.boundPendingLogicalTime

def timeAdvanceRequest
    (logicalTime : Int)
    (timeAdvanceMode : TimeAdvanceMode) : Option TemplateTimeManagement := do
  let prepared ←
    arithmetic.prepareTimeAdvance self logicalTime timeAdvanceMode
  match timeAdvanceMode with
  | .timeAdvanceRequest => arithmetic.requestTimeAdvance prepared
  | .timeAdvanceRequestAvailable => arithmetic.requestTimeAdvance prepared
  | .nextMessageRequest => arithmetic.requestNextMessage prepared
  | .nextMessageRequestAvailable => arithmetic.requestNextMessage prepared
  | .flushQueueRequest => arithmetic.requestFlushQueue prepared
  | .timeAdvanceGranted => some prepared

end

end TimeArithmetic
end TimeManagement
end OpenRTI
