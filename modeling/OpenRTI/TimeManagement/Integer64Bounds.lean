import OpenRTI.TimeManagement.CommittedByRequests
import OpenRTI.TimeManagement.Integer64Time
import OpenRTI.TimeManagement.SendGuardRuns

/-!
# Bounds of 64 bits

The plain additions of the time factory and the saturating ones of the public
time type agree exactly where no sum exceeds the final time.  Each operation
that adds is described twice: where its sums fit it is the operation of the
unbounded model, and commits and tells the bounds that the saturating additions
give; where one of them does not the plain addition overflows.
-/

namespace OpenRTI
namespace TimeManagement

variable {logicalTime lookahead : Int}

namespace TimeArithmetic

open Foundation
open Integer64
open TemplateTimeManagement

/-! ## Where the additions are exact -/

section

variable {arithmetic : TimeArithmetic} {self : TemplateTimeManagement}

variable {logicalTimePair : LogicalTimePair}

theorem sendCommitLowerBoundTimeStampPairIfChanged_eq
    (exact : arithmetic.Exact)
    (representable : Representable logicalTimePair.first)
    (within : logicalTimePair.toLogicalTime ≤ Integer64.maxValue)
    (commitType : LowerBoundTimeStampCommitType) :
    arithmetic.sendCommitLowerBoundTimeStampPairIfChanged self logicalTimePair
        commitType =
      some (self.sendCommitLowerBoundTimeStampPairIfChanged logicalTimePair
        commitType) := by
  rw [LogicalTimePair.toLogicalTime_eq] at within
  unfold sendCommitLowerBoundTimeStampPairIfChanged
    TemplateTimeManagement.sendCommitLowerBoundTimeStampPairIfChanged
  split
  next excluded =>
    rw [if_pos excluded] at within
    rw [exact.nextAfter representable within]
    rfl
  next => rfl

theorem sendCommitLowerBoundTimeStampPairIfChanged_eq_none
    (representable : Representable logicalTimePair.first)
    (exceeds : Integer64.maxValue < logicalTimePair.toLogicalTime)
    (commitType : LowerBoundTimeStampCommitType) :
    int64.sendCommitLowerBoundTimeStampPairIfChanged self logicalTimePair
      commitType = none := by
  have above := representable.2
  rw [LogicalTimePair.toLogicalTime_eq] at exceeds
  unfold sendCommitLowerBoundTimeStampPairIfChanged
  split
  next excluded =>
    rw [if_pos excluded] at exceeds
    rw [int64_nextAfter_eq_none exceeds]
    rfl
  next notExcluded =>
    rw [if_neg notExcluded] at exceeds
    omega

theorem sendCommitLowerBoundTimeStampLookaheadIfChanged_eq
    (exact : arithmetic.Exact)
    {logicalTime : Int}
    (representable : Representable logicalTime)
    (nonneg : 0 ≤ self.targetLookahead)
    (within : self.lowerBoundAt logicalTime ≤ Integer64.maxValue)
    (commitType : LowerBoundTimeStampCommitType) :
    arithmetic.sendCommitLowerBoundTimeStampLookaheadIfChanged self
        logicalTime self.targetLookahead commitType =
      some (self.sendCommitLowerBoundTimeStampLookaheadIfChanged logicalTime
        self.targetLookahead commitType) := by
  have below := representable.1
  have second := self.getOutboundLowerTimeStampSecondField_cases
    self.targetLookahead
  unfold lowerBoundAt at within
  have added : arithmetic.add logicalTime self.targetLookahead =
      some (logicalTime + self.targetLookahead) :=
    exact.add representable nonneg (by omega)
  unfold sendCommitLowerBoundTimeStampLookaheadIfChanged
    TemplateTimeManagement.sendCommitLowerBoundTimeStampLookaheadIfChanged
  rw [added, Option.bind_eq_bind, Option.bind_some]
  split
  next =>
    have next : arithmetic.nextAfter (logicalTime + self.targetLookahead) =
        some (logicalTime + self.targetLookahead + 1) :=
      exact.nextAfter ⟨by omega, by omega⟩ (by omega)
    rw [next]
    rfl
  next => rfl

theorem sendCommitLowerBoundTimeStampLookaheadIfChanged_eq_none
    {logicalTime : Int}
    (exceeds : Integer64.maxValue < self.lowerBoundAt logicalTime)
    (commitType : LowerBoundTimeStampCommitType) :
    int64.sendCommitLowerBoundTimeStampLookaheadIfChanged self logicalTime
      self.targetLookahead commitType = none := by
  unfold lowerBoundAt at exceeds
  unfold sendCommitLowerBoundTimeStampLookaheadIfChanged
  cases added : int64.add logicalTime self.targetLookahead with
  | none => rfl
  | some sum =>
      have exactly : sum = logicalTime + self.targetLookahead ∧
          sum ≤ Integer64.maxValue := by
        unfold int64 at added
        dsimp only at added
        split at added
        next representable =>
          cases added
          exact ⟨rfl, representable.2⟩
        next => cases added
      have second := self.getOutboundLowerTimeStampSecondField_cases
        self.targetLookahead
      rw [Option.bind_eq_bind, Option.bind_some]
      split
      next =>
        rw [int64_nextAfter_eq_none (by omega)]
        rfl
      next => omega

theorem setOutboundLowerTimeStampAndCurrentLookahead_eq
    (exact : arithmetic.Exact) (representable : Representable logicalTime)
    (nonneg : 0 ≤ self.targetLookahead)
    (within : logicalTime + self.targetLookahead ≤ Integer64.maxValue)
    (last : LogicalTimePair) :
    arithmetic.setOutboundLowerTimeStampAndCurrentLookahead self logicalTime
        last =
      some (self.setOutboundLowerTimeStampAndCurrentLookahead logicalTime
        last) := by
  unfold setOutboundLowerTimeStampAndCurrentLookahead
    TemplateTimeManagement.setOutboundLowerTimeStampAndCurrentLookahead
  rw [exact.add representable nonneg within, Option.bind_eq_bind,
    Option.bind_some]
  dsimp only
  split <;> rfl

theorem setOutboundLowerTimeStampAndCurrentLookahead_eq_none
    (exceeds : Integer64.maxValue < logicalTime + self.targetLookahead)
    (last : LogicalTimePair) :
    int64.setOutboundLowerTimeStampAndCurrentLookahead self logicalTime
      last = none := by
  unfold setOutboundLowerTimeStampAndCurrentLookahead
  rw [int64_add_eq_none exceeds]
  rfl

theorem enableTimeRegulationAt_eq
    (exact : arithmetic.Exact) (representable : Representable logicalTime)
    (ahead : self.logicalTime.first ≤ logicalTime)
    (nonneg : 0 ≤ lookahead)
    (within : logicalTime + lookahead ≤ Integer64.maxValue) :
    arithmetic.enableTimeRegulationAt self logicalTime lookahead =
      some (self.enableTimeRegulationAt logicalTime lookahead) := by
  have pending : (max self.logicalTime ⟨logicalTime, 0⟩).first =
      logicalTime := max_first_of_le ahead
  have added := exact.add representable nonneg within
  rw [← pending] at added
  unfold enableTimeRegulationAt TemplateTimeManagement.enableTimeRegulationAt
  dsimp only
  rw [added]
  rfl

theorem enableTimeRegulationAt_eq_none
    (ahead : self.logicalTime.first ≤ logicalTime)
    (exceeds : Integer64.maxValue < logicalTime + lookahead) :
    int64.enableTimeRegulationAt self logicalTime lookahead = none := by
  have pending : (max self.logicalTime ⟨logicalTime, 0⟩).first =
      logicalTime := max_first_of_le ahead
  unfold enableTimeRegulationAt
  dsimp only
  rw [pending, int64_add_eq_none exceeds]
  rfl

theorem advanceOrCommit_eq
    (exact : arithmetic.Exact)
    (nonneg : 0 ≤ self.targetLookahead)
    (pending : Representable self.pendingLogicalTime.first)
    (within :
      self.getTimeRegulationEnabled = true →
        self.lowerBoundAt self.pendingLogicalTime.first ≤
          Integer64.maxValue)
    {canAdvance : Bool} {galt : Option Int}
    (heldBack :
      canAdvance = false →
        ∀ bound, galt = some bound →
          Representable bound ∧ bound ≤ self.pendingLogicalTime.first) :
    arithmetic.advanceOrCommit self canAdvance galt =
      some (self.advanceOrCommit canAdvance galt) := by
  unfold advanceOrCommit TemplateTimeManagement.advanceOrCommit
  cases canAdvance with
  | true =>
      simp only [if_true]
      split
      next enabled =>
        exact @sendCommitLowerBoundTimeStampLookaheadIfChanged_eq arithmetic
          self.scheduleTimeAdvanceGranted exact _ pending nonneg
          (within enabled) _
      next => rfl
  | false =>
      simp only [Bool.false_eq_true, if_false]
      split
      next enabled =>
        cases galt with
        | none => rfl
        | some bound =>
            obtain ⟨representable, notBeyond⟩ := heldBack rfl bound rfl
            exact sendCommitLowerBoundTimeStampLookaheadIfChanged_eq exact
              representable nonneg
              ((self.lowerBoundAt_mono notBeyond).trans (within enabled)) _
      next => rfl

/-- Without being safe for the next message only the least bound of the other
federates is looked at. -/
theorem checkForPendingTimeAdvance_eq
    (exact : arithmetic.Exact)
    (nonneg : 0 ≤ self.targetLookahead)
    (pending : Representable self.pendingLogicalTime.first)
    (within :
      self.getTimeRegulationEnabled = true →
        self.lowerBoundAt self.pendingLogicalTime.first ≤
          Integer64.maxValue)
    (galt :
      ∀ bound, self.federateLowerBoundMap.getGALT = some bound →
        Representable bound) :
    arithmetic.checkForPendingTimeAdvance self false =
      some (self.checkForPendingTimeAdvance false) := by
  unfold checkForPendingTimeAdvance
    TemplateTimeManagement.checkForPendingTimeAdvance
  split
  next => rfl
  next =>
    split
    next =>
      simp only [Bool.false_and, Bool.false_eq_true, if_false]
      apply advanceOrCommit_eq exact nonneg pending within
      intro blocked bound least
      exact ⟨galt bound least, heldBack_of_staysWithin blocked least⟩
    next => rfl

theorem requestTimeAdvance_eq
    (exact : arithmetic.Exact)
    (within :
      self.getTimeRegulationEnabled = true →
        Representable self.outboundLowerBoundTimeStamp.first ∧
          self.outboundLowerBoundTimeStamp.toLogicalTime ≤
            Integer64.maxValue) :
    arithmetic.requestTimeAdvance self = some self.requestTimeAdvance := by
  unfold requestTimeAdvance TemplateTimeManagement.requestTimeAdvance
  split
  next enabled =>
    rw [sendCommitLowerBoundTimeStampPairIfChanged_eq exact
      (within enabled).1 (within enabled).2]
    rfl
  next => rfl

theorem requestNextMessage_eq
    (exact : arithmetic.Exact)
    (nonneg : 0 ≤ self.targetLookahead)
    (pending : Representable self.pendingLogicalTime.first)
    (limited :
      Representable self.limitPendingLogicalTime.pendingLogicalTime.first)
    (galt :
      ∀ bound, self.federateLowerBoundMap.getGALT = some bound →
        Representable bound)
    (within :
      self.getTimeRegulationEnabled = true →
        (self.getTimeConstrainedEnabled = true →
            self.lowerBoundAt
                self.limitPendingLogicalTime.pendingLogicalTime.first ≤
              Integer64.maxValue) ∧
          (self.getTimeConstrainedEnabled = false →
            self.timeAdvanceToBeScheduled = true →
              self.lowerBoundAt self.pendingLogicalTime.first ≤
                Integer64.maxValue)) :
    arithmetic.requestNextMessage self = some self.requestNextMessage := by
  obtain ⟨first, -, equal⟩ := self.limitPendingLogicalTime_eq
  rw [equal] at limited within
  unfold requestNextMessage TemplateTimeManagement.requestNextMessage
  split
  next constrained =>
    dsimp only
    rw [equal]
    split
    next enabled =>
      have bounded := (within enabled).1 constrained
      have sent := @sendCommitLowerBoundTimeStampLookaheadIfChanged_eq
        arithmetic
        { self.withPending ⟨first, self.pendingLogicalTime.second⟩ with
          timeAdvanceToBeScheduled := true }
        exact _ limited nonneg bounded .nextMessageCommit
      obtain ⟨commitId, messages, committed, -⟩ :=
        sendCommitLowerBoundTimeStampLookaheadIfChanged_commits
          { self.withPending ⟨first, self.pendingLogicalTime.second⟩ with
            timeAdvanceToBeScheduled := true }
          first .nextMessageCommit
      rw [sent, Option.bind_eq_bind, Option.bind_some]
      dsimp only [withPending] at committed ⊢
      rw [committed]
      exact checkForPendingTimeAdvance_eq exact nonneg limited
        (fun _ => bounded) galt
    next notEnabled =>
      rw [Option.bind_eq_bind, Option.bind_some]
      exact checkForPendingTimeAdvance_eq exact nonneg limited
        (fun enabled => absurd enabled notEnabled) galt
  next notConstrained =>
    split
    next committing =>
      rw [Bool.and_eq_true] at committing
      have bounded := (within committing.1).2
        (eq_false_of_ne_true notConstrained) committing.2
      rw [sendCommitLowerBoundTimeStampLookaheadIfChanged_eq exact pending
        nonneg bounded]
      rfl
    next => rfl

theorem scheduleFlushQueue_eq
    (exact : arithmetic.Exact)
    (nonneg : 0 ≤ self.targetLookahead)
    (pending : Representable self.pendingLogicalTime.first)
    (within :
      self.getTimeRegulationEnabled = true →
        self.pendingLogicalTime.first + self.targetLookahead ≤
          Integer64.maxValue) :
    arithmetic.scheduleFlushQueue self = some self.scheduleFlushQueue := by
  unfold scheduleFlushQueue TemplateTimeManagement.scheduleFlushQueue
  have scheduled : ∀ committed : TemplateTimeManagement,
      (if committed.getTimeConstrainedEnabled then
        some { committed with timeAdvanceToBeScheduled := true }
      else
        some (committed.queueMessage committed.pendingLogicalTime
          .timeAdvanceGranted)) =
        some (if committed.getTimeConstrainedEnabled then
          { committed with timeAdvanceToBeScheduled := true }
        else
          committed.queueMessage committed.pendingLogicalTime
            .timeAdvanceGranted) := by
    intro committed
    split <;> rfl
  split
  next enabled =>
    rw [exact.add pending nonneg (within enabled)]
    exact scheduled _
  next => exact scheduled _

theorem requestTimeAdvance_eq_none
    (outbound : Representable self.outboundLowerBoundTimeStamp.first)
    (enabled : self.getTimeRegulationEnabled = true)
    (exceeds :
      Integer64.maxValue < self.outboundLowerBoundTimeStamp.toLogicalTime) :
    int64.requestTimeAdvance self = none := by
  unfold requestTimeAdvance
  rw [if_pos enabled,
    sendCommitLowerBoundTimeStampPairIfChanged_eq_none outbound exceeds]
  rfl

theorem requestNextMessage_eq_none
    (enabled : self.getTimeRegulationEnabled = true)
    (exceeds :
      self.getTimeConstrainedEnabled = true ∧
          Integer64.maxValue <
            self.lowerBoundAt
              self.limitPendingLogicalTime.pendingLogicalTime.first ∨
        self.getTimeConstrainedEnabled = false ∧
          self.timeAdvanceToBeScheduled = true ∧
          Integer64.maxValue <
            self.lowerBoundAt self.pendingLogicalTime.first) :
    int64.requestNextMessage self = none := by
  obtain ⟨first, -, equal⟩ := self.limitPendingLogicalTime_eq
  rw [equal] at exceeds
  unfold requestNextMessage
  rcases exceeds with ⟨constrained, exceeds⟩ | ⟨free, scheduled, exceeds⟩
  · rw [if_pos constrained]
    have sent := @sendCommitLowerBoundTimeStampLookaheadIfChanged_eq_none
      { self.withPending ⟨first, self.pendingLogicalTime.second⟩ with
        timeAdvanceToBeScheduled := true }
      _ exceeds .nextMessageCommit
    dsimp only at sent ⊢
    rw [equal]
    split
    next =>
      rw [sent]
      rfl
    next notEnabled => exact absurd enabled notEnabled
  · have both :
        (self.getTimeRegulationEnabled && self.timeAdvanceToBeScheduled) =
          true := by
      rw [enabled, scheduled]
      rfl
    rw [if_neg (ne_true_of_eq_false free), if_pos both,
      sendCommitLowerBoundTimeStampLookaheadIfChanged_eq_none exceeds]
    rfl

end

/-! ## Requests -/

end TimeArithmetic

variable {prepared : TemplateTimeManagement}

namespace TemplateTimeManagement

open Integer64

/-- The times that a request reads are values of `int64_t`. -/
structure Integer64State (state : TemplateTimeManagement) : Prop where
  logicalTime : Representable state.logicalTime.first
  outbound : Representable state.outboundLowerBoundTimeStamp.first
  leastIncoming :
    ∀ timeStamp, state.getLeastIncomingTimestamp = some timeStamp →
      Representable timeStamp
  galt :
    ∀ bound, state.federateLowerBoundMap.getGALT = some bound →
      Representable bound

/-- Without queued messages and other federates only the federate's own times
matter. -/
theorem integer64State_of_alone
    {self : TemplateTimeManagement}
    (logicalTime : Representable self.logicalTime.first)
    (outbound : Representable self.outboundLowerBoundTimeStamp.first)
    (noMessage : self.getLeastIncomingTimestamp = none)
    (noFederate : self.federateLowerBoundMap.getGALT = none) :
    self.Integer64State where
  logicalTime := logicalTime
  outbound := outbound
  leastIncoming := by
    intro timeStamp least
    rw [noMessage] at least
    cases least
  galt := by
    intro bound least
    rw [noFederate] at least
    cases least

/-- The sums that a request computes do not exceed the final time: the
requested time plus the lookahead, and the bound it commits. -/
def RequestFits
    (self : TemplateTimeManagement)
    (logicalTime : Int)
    (mode : Ambassador.RequestMode) : Prop :=
  let requested := { self with timeAdvanceMode := mode.toTimeAdvanceMode }
  self.getTimeRegulationEnabled = true →
    logicalTime + self.targetLookahead ≤ Integer64.maxValue ∧
      match mode with
      | .timeAdvanceRequest | .timeAdvanceRequestAvailable =>
          requested.lowerBoundAt logicalTime ≤ Integer64.maxValue ∧
            self.outboundLowerBoundTimeStamp.toLogicalTime ≤
              Integer64.maxValue
      | .nextMessageRequest | .nextMessageRequestAvailable =>
          self.getTimeConstrainedEnabled = true ∨
              self.timeAdvanceToBeScheduled = true →
            requested.lowerBoundAt (self.nextMessageTime logicalTime) ≤
              Integer64.maxValue
      | .flushQueueRequest => True

/-- The pending time of a request is representable also where it is limited to
the least queued message. -/
theorem limited_prepareTimeAdvance
    {self : TemplateTimeManagement}
    (state : self.Integer64State)
    (representable : Representable logicalTime)
    (pending : prepared.pendingLogicalTime.first = logicalTime)
    (queue :
      prepared.logicalTimeMessageListMap = self.logicalTimeMessageListMap) :
    Representable
        prepared.limitPendingLogicalTime.pendingLogicalTime.first ∧
      (self.getTimeConstrainedEnabled = true →
        prepared.limitPendingLogicalTime.pendingLogicalTime.first =
          self.nextMessageTime logicalTime) := by
  have least : prepared.getLeastIncomingTimestamp =
      self.getLeastIncomingTimestamp := by
    rw [getLeastIncomingTimestamp, queue]
    rfl
  unfold limitPendingLogicalTime nextMessageTime
  rw [least]
  cases incoming : self.getLeastIncomingTimestamp with
  | none =>
      refine ⟨pending ▸ representable, fun constrained => ?_⟩
      rw [if_pos constrained]
      exact pending
  | some timeStamp =>
      dsimp only
      split
      next below =>
        refine ⟨state.leastIncoming _ incoming, fun constrained => ?_⟩
        rw [if_pos constrained]
        rw [pending] at below
        exact (min_eq_left below.le).symm
      next notBelow =>
        refine ⟨pending ▸ representable, fun constrained => ?_⟩
        rw [if_pos constrained]
        rw [pending] at notBelow
        exact pending.trans (min_eq_right (not_lt.mp notBelow)).symm

/-- Where the pending time is bounded it is the current time or the least bound
of the other federates. -/
theorem boundPendingLogicalTime_representable
    {self : TemplateTimeManagement}
    (logicalTime : Representable self.logicalTime.first)
    (pending : Representable self.pendingLogicalTime.first)
    (galt :
      ∀ bound, self.federateLowerBoundMap.getGALT = some bound →
        Representable bound) :
    Representable
      self.boundPendingLogicalTime.pendingLogicalTime.first := by
  unfold boundPendingLogicalTime
  split
  next =>
    cases least : self.federateLowerBoundMap.getGALT with
    | none => exact pending
    | some bound =>
        dsimp only
        rcases max_choice self.logicalTime
          ⟨bound, self.pendingLogicalTime.second⟩ with chosen | chosen
        · rwa [chosen]
        · rw [chosen]
          exact galt bound least
  next => exact pending

end TemplateTimeManagement

namespace TimeArithmetic

open Foundation
open Integer64
open TemplateTimeManagement

/-- Both additions give the same result, the plain ones do not overflow, and the
result is as described. -/
def SaturatesTo
    (operation : TimeArithmetic → Option TemplateTimeManagement)
    (result : TemplateTimeManagement → Prop) : Prop :=
  ∃ after, operation int64 = some after ∧ operation saturating = some after ∧
    result after

variable {operation : TimeArithmetic → Option TemplateTimeManagement}
variable {result : TemplateTimeManagement → Prop}
variable {after : TemplateTimeManagement}

theorem saturatesTo_of_exact
    (exactly :
      ∀ arithmetic, arithmetic.Exact → operation arithmetic = some after)
    (isResult : result after) :
    SaturatesTo operation result :=
  ⟨after, exactly int64 exact_int64, exactly saturating exact_saturating,
    isResult⟩

theorem not_saturatesTo_of_none
    (overflows : operation int64 = none) :
    ¬ SaturatesTo operation result := by
  rintro ⟨after, plain, -⟩
  rw [overflows] at plain
  cases plain

section

variable {arithmetic : TimeArithmetic} {self : TemplateTimeManagement}

theorem prepareTimeAdvance_eq
    (exact : arithmetic.Exact)
    (nonneg : 0 ≤ self.targetLookahead)
    (representable : Representable logicalTime) (mode : TimeAdvanceMode)
    (within :
      self.getTimeRegulationEnabled = true →
        logicalTime + self.targetLookahead ≤ Integer64.maxValue) :
    arithmetic.prepareTimeAdvance self logicalTime mode =
      some (self.prepareTimeAdvance logicalTime mode) := by
  unfold prepareTimeAdvance TemplateTimeManagement.prepareTimeAdvance
  dsimp only
  split
  next enabled =>
    apply setOutboundLowerTimeStampAndCurrentLookahead_eq exact representable
    · exact nonneg
    · exact within enabled
  next => rfl

theorem prepareTimeAdvance_eq_none
    (mode : TimeAdvanceMode)
    (enabled : self.getTimeRegulationEnabled = true)
    (exceeds :
      Integer64.maxValue < logicalTime + self.targetLookahead) :
    int64.prepareTimeAdvance self logicalTime mode = none := by
  unfold prepareTimeAdvance
  dsimp only
  split
  next =>
    apply setOutboundLowerTimeStampAndCurrentLookahead_eq_none
    exact exceeds
  next notEnabled => exact absurd enabled notEnabled

/-- What a request has prepared, as far as the second part of it adds. -/
structure Prepared
    (before prepared : TemplateTimeManagement)
    (logicalTime : Int)
    (mode : TimeAdvanceMode) : Prop where
  regulating :
    prepared.getTimeRegulationEnabled = before.getTimeRegulationEnabled
  constrained :
    prepared.getTimeConstrainedEnabled = before.getTimeConstrainedEnabled
  lookahead : prepared.targetLookahead = before.targetLookahead
  scheduled :
    prepared.timeAdvanceToBeScheduled = before.timeAdvanceToBeScheduled
  current : prepared.logicalTime = before.logicalTime
  pending : prepared.pendingLogicalTime.first = logicalTime
  queue :
    prepared.logicalTimeMessageListMap = before.logicalTimeMessageListMap
  bounds : prepared.federateLowerBoundMap = before.federateLowerBoundMap
  lowerBoundAt :
    ∀ time,
      prepared.lowerBoundAt time =
        TemplateTimeManagement.lowerBoundAt
          { before with timeAdvanceMode := mode } time
  outbound :
    before.getTimeRegulationEnabled = true →
      prepared.outboundLowerBoundTimeStamp.first =
          logicalTime + before.targetLookahead ∨
        prepared.outboundLowerBoundTimeStamp.first =
          before.outboundLowerBoundTimeStamp.first
  toLogicalTime :
    before.getTimeRegulationEnabled = true →
      prepared.outboundLowerBoundTimeStamp.toLogicalTime =
        max
          (TemplateTimeManagement.lowerBoundAt
            { before with timeAdvanceMode := mode } logicalTime)
          before.outboundLowerBoundTimeStamp.toLogicalTime

theorem prepareTimeAdvance_prepared
    (ahead : self.logicalTime.first ≤ logicalTime)
    (mode : TimeAdvanceMode) :
    Prepared self (self.prepareTimeAdvance logicalTime mode) logicalTime
      mode := by
  have pending :
      (self.prepareTimeAdvance logicalTime mode).pendingLogicalTime.first =
        logicalTime := by
    rw [prepareTimeAdvance_pendingLogicalTime]
    exact max_first_of_le ahead
  obtain ⟨outbound, last, lookahead, equal, isOutbound⟩ :=
    self.prepareTimeAdvance_eq logicalTime mode
  rw [equal] at pending ⊢
  refine ⟨rfl, rfl, rfl, rfl, rfl, pending, rfl, rfl, fun _ => rfl, ?_, ?_⟩
  · intro enabled
    change outbound.first = _ ∨ outbound.first = _
    rw [isOutbound enabled]
    rcases max_choice
      (⟨logicalTime + self.targetLookahead, _⟩ : LogicalTimePair)
      self.outboundLowerBoundTimeStamp with chosen | chosen
    · left
      rw [chosen]
    · right
      rw [chosen]
  · intro enabled
    change outbound.toLogicalTime = _
    rw [isOutbound enabled, LogicalTimePair.toLogicalTime_max]
    exact congrArg (max · _) (lowerBoundAt_eq_toLogicalTime
      { self with timeAdvanceMode := mode } logicalTime)

variable {mode : TimeAdvanceMode}

/-- The bound of a request is representable where the requested sum is. -/
theorem Prepared.outbound_representable
    (isPrepared : Prepared self prepared logicalTime mode)
    (state : self.Integer64State)
    (nonneg : 0 ≤ self.targetLookahead)
    (representable : Representable logicalTime)
    (enabled : self.getTimeRegulationEnabled = true)
    (within :
      logicalTime + self.targetLookahead ≤ Integer64.maxValue) :
    Representable prepared.outboundLowerBoundTimeStamp.first := by
  have below := representable.1
  rcases isPrepared.outbound enabled with isSum | isEarlier
  · rw [isSum]
    exact ⟨by omega, within⟩
  · rw [isEarlier]
    exact state.outbound

theorem requestTimeAdvance_prepared_eq
    (exact : arithmetic.Exact) (state : self.Integer64State)
    (nonneg : 0 ≤ self.targetLookahead)
    (isPrepared : Prepared self prepared logicalTime mode)
    (representable : Representable logicalTime)
    (fits :
      self.getTimeRegulationEnabled = true →
        logicalTime + self.targetLookahead ≤ Integer64.maxValue ∧
          TemplateTimeManagement.lowerBoundAt
              { self with timeAdvanceMode := mode } logicalTime ≤
            Integer64.maxValue ∧
          self.outboundLowerBoundTimeStamp.toLogicalTime ≤
            Integer64.maxValue) :
    arithmetic.requestTimeAdvance prepared =
      some prepared.requestTimeAdvance := by
  apply requestTimeAdvance_eq exact
  intro preparedEnabled
  have enabled := isPrepared.regulating.symm.trans preparedEnabled
  obtain ⟨sum, requested, earlier⟩ := fits enabled
  refine ⟨isPrepared.outbound_representable state nonneg representable enabled
    sum, ?_⟩
  rw [isPrepared.toLogicalTime enabled]
  exact max_le requested earlier

theorem requestNextMessage_prepared_eq
    (exact : arithmetic.Exact) (state : self.Integer64State)
    (nonneg : 0 ≤ self.targetLookahead)
    (isPrepared : Prepared self prepared logicalTime mode)
    (representable : Representable logicalTime)
    (fits :
      self.getTimeRegulationEnabled = true →
        self.getTimeConstrainedEnabled = true ∨
            self.timeAdvanceToBeScheduled = true →
          TemplateTimeManagement.lowerBoundAt
              { self with timeAdvanceMode := mode }
              (self.nextMessageTime logicalTime) ≤
            Integer64.maxValue) :
    arithmetic.requestNextMessage prepared =
      some prepared.requestNextMessage := by
  obtain ⟨limited, isLimited⟩ := limited_prepareTimeAdvance state representable
    isPrepared.pending isPrepared.queue
  apply requestNextMessage_eq exact _ _ limited
  · intro bound least
    rw [isPrepared.bounds] at least
    exact state.galt bound least
  · intro preparedEnabled
    have within := fits (isPrepared.regulating.symm.trans preparedEnabled)
    rw [isPrepared.constrained, isPrepared.scheduled]
    constructor
    · intro constrained
      rw [isPrepared.lowerBoundAt, isLimited constrained]
      exact within (.inl constrained)
    · intro free scheduled
      have time : self.nextMessageTime logicalTime = logicalTime := by
        rw [nextMessageTime, if_neg (ne_true_of_eq_false free)]
      rw [time] at within
      rw [isPrepared.lowerBoundAt, isPrepared.pending]
      exact within (.inr scheduled)
  · rwa [isPrepared.lookahead]
  · rwa [isPrepared.pending]

theorem requestFlushQueue_prepared_eq
    (exact : arithmetic.Exact) (state : self.Integer64State)
    (nonneg : 0 ≤ self.targetLookahead)
    (isPrepared : Prepared self prepared logicalTime mode)
    (representable : Representable logicalTime)
    (ahead : self.logicalTime.first ≤ logicalTime)
    (fits :
      self.getTimeRegulationEnabled = true →
        logicalTime + self.targetLookahead ≤ Integer64.maxValue) :
    arithmetic.requestFlushQueue prepared =
      some prepared.requestFlushQueue := by
  obtain ⟨limited, -⟩ := limited_prepareTimeAdvance state representable
    isPrepared.pending isPrepared.queue
  have chosen : ∃ first, first ≤ logicalTime ∧ Representable first ∧
      (if prepared.getTimeConstrainedEnabled then
        prepared.limitPendingLogicalTime
      else prepared) =
        prepared.withPending
          ⟨first, prepared.pendingLogicalTime.second⟩ := by
    split
    · obtain ⟨first, lower, equal⟩ := prepared.limitPendingLogicalTime_eq
      rw [equal] at limited
      rw [isPrepared.pending] at lower
      exact ⟨first, lower, limited, equal⟩
    · exact ⟨_, le_refl _, representable, by rw [← isPrepared.pending]; rfl⟩
  obtain ⟨first, lower, firstRepresentable, equal⟩ := chosen
  have pending := @boundPendingLogicalTime_representable
    (prepared.withPending ⟨first, prepared.pendingLogicalTime.second⟩)
    (isPrepared.current ▸ state.logicalTime) firstRepresentable
    (isPrepared.bounds ▸ state.galt)
  obtain ⟨pair, within, bounded⟩ := @boundPendingLogicalTime_eq
    (prepared.withPending ⟨first, prepared.pendingLogicalTime.second⟩)
    logicalTime lower (isPrepared.current ▸ ahead)
  rw [bounded] at pending
  unfold requestFlushQueue TemplateTimeManagement.requestFlushQueue
  dsimp only
  rw [equal, bounded]
  apply scheduleFlushQueue_eq exact
  · exact isPrepared.lookahead ▸ nonneg
  · exact pending
  · intro enabled
    have sum := fits (isPrepared.regulating.symm.trans enabled)
    rw [← isPrepared.lookahead] at sum
    exact (Int.add_le_add_right within _).trans sum

variable {mode : Ambassador.RequestMode}

theorem timeAdvanceRequest_eq
    (exact : arithmetic.Exact) (state : self.Integer64State)
    (nonneg : 0 ≤ self.targetLookahead)
    (representable : Representable logicalTime)
    (ahead : self.logicalTime.first ≤ logicalTime)
    (fits : self.RequestFits logicalTime mode) :
    arithmetic.timeAdvanceRequest self logicalTime mode.toTimeAdvanceMode =
      some (self.timeAdvanceRequest logicalTime mode.toTimeAdvanceMode) := by
  have isPrepared :=
    prepareTimeAdvance_prepared ahead mode.toTimeAdvanceMode
  unfold timeAdvanceRequest TemplateTimeManagement.timeAdvanceRequest
  rw [prepareTimeAdvance_eq exact nonneg representable _
    fun enabled => (fits enabled).1, Option.bind_eq_bind, Option.bind_some]
  cases mode with
  | timeAdvanceRequest =>
      exact requestTimeAdvance_prepared_eq exact state nonneg isPrepared
        representable fits
  | timeAdvanceRequestAvailable =>
      exact requestTimeAdvance_prepared_eq exact state nonneg isPrepared
        representable fits
  | nextMessageRequest =>
      exact requestNextMessage_prepared_eq exact state nonneg isPrepared
        representable fun enabled => (fits enabled).2
  | nextMessageRequestAvailable =>
      exact requestNextMessage_prepared_eq exact state nonneg isPrepared
        representable fun enabled => (fits enabled).2
  | flushQueueRequest =>
      exact requestFlushQueue_prepared_eq exact state nonneg isPrepared
        representable ahead fun enabled => (fits enabled).1

/-! ## Where an addition overflows -/

theorem requestTimeAdvance_prepared_eq_none
    (state : self.Integer64State)
    (nonneg : 0 ≤ self.targetLookahead)
    {mode : TimeAdvanceMode}
    (isPrepared : Prepared self prepared logicalTime mode)
    (representable : Representable logicalTime)
    (enabled : self.getTimeRegulationEnabled = true)
    (sum : logicalTime + self.targetLookahead ≤ Integer64.maxValue)
    (exceeds :
      ¬ (TemplateTimeManagement.lowerBoundAt
              { self with timeAdvanceMode := mode } logicalTime ≤
            Integer64.maxValue ∧
          self.outboundLowerBoundTimeStamp.toLogicalTime ≤
            Integer64.maxValue)) :
    int64.requestTimeAdvance prepared = none := by
  apply requestTimeAdvance_eq_none
  · exact isPrepared.outbound_representable state nonneg representable enabled
      sum
  · exact isPrepared.regulating.trans enabled
  · rw [isPrepared.toLogicalTime enabled]
    by_contra within
    exact exceeds (max_le_iff.mp (not_lt.mp within))

theorem requestNextMessage_prepared_eq_none
    (state : self.Integer64State)
    {mode : TimeAdvanceMode}
    (isPrepared : Prepared self prepared logicalTime mode)
    (representable : Representable logicalTime)
    (enabled : self.getTimeRegulationEnabled = true)
    (exceeds :
      ¬ (self.getTimeConstrainedEnabled = true ∨
            self.timeAdvanceToBeScheduled = true →
          TemplateTimeManagement.lowerBoundAt
              { self with timeAdvanceMode := mode }
              (self.nextMessageTime logicalTime) ≤
            Integer64.maxValue)) :
    int64.requestNextMessage prepared = none := by
  obtain ⟨-, isLimited⟩ := limited_prepareTimeAdvance state representable
    isPrepared.pending isPrepared.queue
  obtain ⟨commits, above⟩ := Classical.not_imp.mp exceeds
  rw [not_le] at above
  apply requestNextMessage_eq_none (isPrepared.regulating.trans enabled)
  rw [isPrepared.constrained, isPrepared.scheduled, isPrepared.lowerBoundAt,
    isPrepared.lowerBoundAt, isPrepared.pending]
  cases constrained : self.getTimeConstrainedEnabled with
  | true =>
      left
      rw [isLimited constrained]
      exact ⟨rfl, above⟩
  | false =>
      right
      have time : self.nextMessageTime logicalTime = logicalTime := by
        rw [nextMessageTime, if_neg (ne_true_of_eq_false constrained)]
      rw [time] at above
      rw [constrained] at commits
      exact ⟨rfl, commits.resolve_left Bool.false_ne_true, above⟩

theorem timeAdvanceRequest_eq_none
    (state : self.Integer64State)
    (nonneg : 0 ≤ self.targetLookahead)
    (representable : Representable logicalTime)
    (ahead : self.logicalTime.first ≤ logicalTime)
    (exceeds : ¬ self.RequestFits logicalTime mode) :
    int64.timeAdvanceRequest self logicalTime mode.toTimeAdvanceMode =
      none := by
  obtain ⟨enabled, notFits⟩ := Classical.not_imp.mp exceeds
  have isPrepared :=
    prepareTimeAdvance_prepared ahead mode.toTimeAdvanceMode
  unfold timeAdvanceRequest
  by_cases sum : logicalTime + self.targetLookahead ≤ Integer64.maxValue
  · have bound := fun fits => notFits ⟨sum, fits⟩
    rw [prepareTimeAdvance_eq exact_int64 nonneg representable _
      fun _ => sum, Option.bind_eq_bind, Option.bind_some]
    cases mode with
    | timeAdvanceRequest =>
        exact requestTimeAdvance_prepared_eq_none state nonneg isPrepared
          representable enabled sum bound
    | timeAdvanceRequestAvailable =>
        exact requestTimeAdvance_prepared_eq_none state nonneg isPrepared
          representable enabled sum bound
    | nextMessageRequest =>
        exact requestNextMessage_prepared_eq_none state isPrepared
          representable enabled bound
    | nextMessageRequestAvailable =>
        exact requestNextMessage_prepared_eq_none state isPrepared
          representable enabled bound
    | flushQueueRequest => exact absurd trivial bound
  · rw [prepareTimeAdvance_eq_none _ enabled (not_le.mp sum)]
    rfl

/-! ## The bounds that are committed -/

/-- A sum of the public time type. -/
def saturated (sum : Int) : Int := min sum Integer64.maxValue

theorem saturated_eq
    {sum : Int}
    (within : sum ≤ Integer64.maxValue) :
    saturated sum = sum :=
  min_eq_left within

theorem limitedBy_le (least : Option Int) (logicalTime : Int) :
    limitedBy least logicalTime ≤ logicalTime := by
  cases least with
  | none => exact le_refl _
  | some bound => exact min_le_right _ _

theorem nextMessageTime_le
    (self : TemplateTimeManagement) (logicalTime : Int) :
    self.nextMessageTime logicalTime ≤ logicalTime := by
  unfold nextMessageTime
  split
  next =>
    cases self.getLeastIncomingTimestamp with
    | none => exact le_refl _
    | some timeStamp => exact min_le_right _ _
  next => exact le_refl _

theorem flushQueueTime_le
    (ahead : self.logicalTime.first ≤ logicalTime) :
    self.flushQueueTime logicalTime ≤ logicalTime := by
  have beyond := nextMessageTime_le self logicalTime
  unfold flushQueueTime
  split
  next =>
    cases self.federateLowerBoundMap.getGALT with
    | none => exact beyond
    | some galt =>
        dsimp only
        split
        next below => exact max_le ahead (below.le.trans beyond)
        next => exact beyond
  next => exact le_refl _

/-- The bounds of a next message request whose later bound fits. -/
theorem committedByNextMessage_saturated
    {requested : TemplateTimeManagement}
    (fits :
      self.getTimeConstrainedEnabled = true ∨
          self.timeAdvanceToBeScheduled = true →
        requested.lowerBoundAt (self.nextMessageTime logicalTime) ≤
          Integer64.maxValue) :
    committedByNextMessage saturated self requested logicalTime =
      committedByNextMessage id self requested logicalTime := by
  unfold committedByNextMessage
  split
  next constrained =>
    have later := fits (.inl constrained)
    have earlier : requested.lowerBoundAt (self.nextMessageAdvance logicalTime) ≤
        Integer64.maxValue :=
      (requested.lowerBoundAt_mono (limitedBy_le _ _)).trans later
    rw [saturated_eq later, saturated_eq earlier]
    rfl
  next =>
    split
    next scheduled =>
      rw [saturated_eq (fits (.inr scheduled))]
      rfl
    next => rfl

/-- A request that fits commits what it commits with unbounded sums. -/
theorem committedByRequest_saturated
    (ahead : self.logicalTime.first ≤ logicalTime)
    (fits : self.RequestFits logicalTime mode) :
    committedByRequest saturated self logicalTime mode =
      committedByRequest id self logicalTime mode := by
  unfold committedByRequest
  split
  next enabled =>
    obtain ⟨sum, bound⟩ := fits enabled
    cases mode with
    | timeAdvanceRequest =>
        dsimp only
        rw [saturated_eq bound.1, saturated_eq bound.2]
        rfl
    | timeAdvanceRequestAvailable =>
        dsimp only
        rw [saturated_eq bound.1, saturated_eq bound.2]
        rfl
    | nextMessageRequest => exact committedByNextMessage_saturated bound
    | nextMessageRequestAvailable =>
        exact committedByNextMessage_saturated bound
    | flushQueueRequest =>
        have beyond := flushQueueTime_le ahead
        have within : self.flushQueueTime logicalTime + self.targetLookahead ≤
            Integer64.maxValue := by
          omega
        dsimp only
        rw [saturated_eq within]
        rfl
  next => rfl

/-- The answers to the other federates' commits are only sent. -/
theorem sendCommitLowerBoundTimeStampResponses_eq
    (self : TemplateTimeManagement) :
    ∃ responses,
      self.sendCommitLowerBoundTimeStampResponses =
        { self with sent := self.sent ++ responses } := by
  unfold sendCommitLowerBoundTimeStampResponses
  induction self.federateLowerBoundMap.getNextMessageFederateHandleList
    generalizing self with
  | nil => exact ⟨[], by rw [List.append_nil]; rfl⟩
  | cons entry rest ih =>
      have answered : ∃ response,
          self.sendCommitLowerBoundTimeStampResponse entry.1 entry.2 =
            { self with sent := self.sent ++ response } := by
        unfold sendCommitLowerBoundTimeStampResponse
        split
        next => exact ⟨[], by rw [List.append_nil]⟩
        next => exact ⟨_, rfl⟩
      obtain ⟨response, first⟩ := answered
      obtain ⟨responses, others⟩ :=
        ih { self with sent := self.sent ++ response }
      refine ⟨response ++ responses, ?_⟩
      rw [List.foldl_cons, first, others, List.append_assoc]

/-- A federate that becomes time regulating has committed the given bound, and
requests it first. -/
def RequestsRegulation
    (self after : TemplateTimeManagement)
    (bound : Int) : Prop :=
  after.committedBounds = ⟨bound, bound⟩ ∧
    after.outboundLowerBoundTimeStamp = ⟨bound, 0⟩ ∧
    ∃ responses,
      after.sent =
        self.sent ++
          .enableTimeRegulationRequest self.federateHandle bound
            self.commitId ::
          responses

theorem enableTimeRegulationAt_requestsRegulation
    (ahead : self.logicalTime.first ≤ logicalTime) :
    RequestsRegulation self (self.enableTimeRegulationAt logicalTime lookahead)
      (logicalTime + lookahead) := by
  have pending : (max self.logicalTime ⟨logicalTime, 0⟩).first =
      logicalTime := max_first_of_le ahead
  unfold TemplateTimeManagement.enableTimeRegulationAt
  dsimp only
  rw [pending]
  generalize requested : TemplateTimeManagement.send _ _ = sending
  obtain ⟨responses, equal⟩ :=
    sendCommitLowerBoundTimeStampResponses_eq sending
  rw [equal, ← requested]
  exact ⟨rfl, rfl, responses, List.append_assoc _ _ _⟩

/-- The outbound bound is the given one, but not below the last, and nothing is
committed yet. -/
def EntersOutbound
    (self after : TemplateTimeManagement)
    (bound last : LogicalTimePair) : Prop :=
  after.outboundLowerBoundTimeStamp = max bound last ∧
    self.TellsBounds after self.committedBounds

theorem setOutboundLowerTimeStampAndCurrentLookahead_entersOutbound
    (self : TemplateTimeManagement) (logicalTime : Int)
    (last : LogicalTimePair) :
    EntersOutbound self
      (self.setOutboundLowerTimeStampAndCurrentLookahead logicalTime last)
      ⟨logicalTime + self.targetLookahead,
        self.getOutboundLowerTimeStampSecondField self.targetLookahead⟩
      last := by
  unfold TemplateTimeManagement.setOutboundLowerTimeStampAndCurrentLookahead
  dsimp only
  split
  next below =>
    exact ⟨(max_eq_right below.le).symm, self.tellsBounds_self⟩
  next notBelow =>
    exact ⟨(max_eq_left (not_lt.mp notBelow)).symm, self.tellsBounds_self⟩

/-! ## The plain additions and the saturating ones -/

theorem saturatesTo_iff
    {fits : Prop}
    (exactly :
      fits → ∀ arithmetic, arithmetic.Exact →
        operation arithmetic = some after)
    (isResult : fits → result after)
    (overflows : ¬ fits → operation int64 = none) :
    SaturatesTo operation result ↔ fits := by
  constructor
  · intro saturates
    by_contra notFits
    exact not_saturatesTo_of_none (overflows notFits) saturates
  · intro holds
    exact saturatesTo_of_exact (exactly holds) (isResult holds)

/-- What the saturating additions commit for a time and a lookahead. -/
theorem saturating_sendCommitLowerBoundTimeStampLookaheadIfChanged
    (representable : Representable logicalTime)
    (nonneg : 0 ≤ self.targetLookahead)
    (commitType : LowerBoundTimeStampCommitType) :
    saturating.sendCommitLowerBoundTimeStampLookaheadIfChanged self
        logicalTime self.targetLookahead commitType =
      some (self.sendCommitLowerBoundTimeStampIfChanged
        (max (saturated (self.lowerBoundAt logicalTime))
          self.committedOutboundLowerBoundTimeStamp)
        commitType) := by
  have below := representable.1
  have sum := HLAinteger64Time.plus_eq_min representable nonneg
  unfold sendCommitLowerBoundTimeStampLookaheadIfChanged saturating saturated
    lowerBoundAt
  rw [Option.bind_eq_bind, Option.bind_some, sum]
  rcases self.getOutboundLowerTimeStampSecondField_cases
    self.targetLookahead with second | second
  · simp [second]
  · have bounded : Representable
        (min (logicalTime + self.targetLookahead) Integer64.maxValue) := by
      have ordered : Integer64.minValue ≤ Integer64.maxValue := by decide
      exact ⟨le_min (by omega) ordered, min_le_right _ _⟩
    have next := HLAinteger64Time.plus_eq_min bounded Int.one_nonneg
    have joined :
        min (min (logicalTime + self.targetLookahead) Integer64.maxValue + 1)
            Integer64.maxValue =
          min (logicalTime + self.targetLookahead + 1)
            Integer64.maxValue := by
      omega
    simp [second, next, joined]

/-- An advance whose bound fits commits the saturated bound. -/
theorem sendCommitLowerBoundTimeStampLookaheadIfChanged_tellsBounds
    (representable : Representable logicalTime)
    (nonneg : 0 ≤ self.targetLookahead)
    (within : self.lowerBoundAt logicalTime ≤ Integer64.maxValue)
    (commitType : LowerBoundTimeStampCommitType) :
    self.TellsBounds
      (self.sendCommitLowerBoundTimeStampLookaheadIfChanged logicalTime
        self.targetLookahead commitType)
      (self.committedBounds.commit
        (max (saturated (self.lowerBoundAt logicalTime))
          self.committedOutboundLowerBoundTimeStamp)
        commitType) := by
  have result := saturating_sendCommitLowerBoundTimeStampLookaheadIfChanged
    representable nonneg commitType
  rw [sendCommitLowerBoundTimeStampLookaheadIfChanged_eq exact_saturating
    representable nonneg within, Option.some_inj] at result
  rw [result]
  exact (self.sendCommitLowerBoundTimeStampIfChanged_commits _ commitType
    (le_max_right _ _)).tellsBounds

/-- For every state, logical time, lookahead and mode the plain additions of
the requests and of the functions that compute their bounds do not overflow,
give what the saturating ones give and commit and tell the saturated bounds,
exactly where the sums do not exceed the final time. -/
theorem bounds_saturate
    (self : TemplateTimeManagement)
    (state : self.Integer64State)
    (nonneg : 0 ≤ self.targetLookahead)
    (logicalTime : Int)
    (representable : Representable logicalTime)
    (ahead : self.logicalTime.first ≤ logicalTime) :
    (∀ lookahead, 0 ≤ lookahead →
      (SaturatesTo
          (fun arithmetic =>
            arithmetic.enableTimeRegulationAt self logicalTime lookahead)
          (fun after =>
            RequestsRegulation self after
              (saturated (logicalTime + lookahead))) ↔
        logicalTime + lookahead ≤ Integer64.maxValue)) ∧
    (∀ mode : Ambassador.RequestMode,
      SaturatesTo
          (fun arithmetic =>
            arithmetic.timeAdvanceRequest self logicalTime
              mode.toTimeAdvanceMode)
          (fun after =>
            self.TellsBounds after
              (committedByRequest saturated self logicalTime mode)) ↔
        self.RequestFits logicalTime mode) ∧
    (∀ last,
      SaturatesTo
          (fun arithmetic =>
            arithmetic.setOutboundLowerTimeStampAndCurrentLookahead self
              logicalTime last)
          (fun after =>
            EntersOutbound self after
              ⟨saturated (logicalTime + self.targetLookahead),
                self.getOutboundLowerTimeStampSecondField
                  self.targetLookahead⟩
              last) ↔
        logicalTime + self.targetLookahead ≤ Integer64.maxValue) ∧
    (∀ commitType,
      SaturatesTo
          (fun arithmetic =>
            arithmetic.sendCommitLowerBoundTimeStampLookaheadIfChanged self
              logicalTime self.targetLookahead commitType)
          (fun after =>
            self.TellsBounds after
              (self.committedBounds.commit
                (max (saturated (self.lowerBoundAt logicalTime))
                  self.committedOutboundLowerBoundTimeStamp)
                commitType)) ↔
        self.lowerBoundAt logicalTime ≤ Integer64.maxValue) ∧
    (∀ second commitType,
      SaturatesTo
          (fun arithmetic =>
            arithmetic.sendCommitLowerBoundTimeStampPairIfChanged self
              ⟨logicalTime, second⟩ commitType)
          (fun after =>
            let bound :=
              saturated (LogicalTimePair.toLogicalTime ⟨logicalTime, second⟩)
            self.TellsBounds after
              (if self.committedOutboundLowerBoundTimeStamp ≤ bound then
                self.committedBounds.commit bound commitType
              else self.committedBounds)) ↔
        LogicalTimePair.toLogicalTime ⟨logicalTime, second⟩ ≤
          Integer64.maxValue) := by
  refine ⟨?_, ?_, ?_, ?_, ?_⟩
  · intro lookahead lookaheadNonneg
    apply saturatesTo_iff
    · intro within arithmetic exact
      exact enableTimeRegulationAt_eq exact representable ahead
        lookaheadNonneg within
    · intro within
      rw [saturated_eq within]
      exact enableTimeRegulationAt_requestsRegulation ahead
    · intro exceeds
      exact enableTimeRegulationAt_eq_none ahead (not_le.mp exceeds)
  · intro mode
    apply saturatesTo_iff
    · intro fits arithmetic exact
      exact timeAdvanceRequest_eq exact state nonneg representable ahead fits
    · intro fits
      rw [committedByRequest_saturated ahead fits]
      exact timeAdvanceRequest_tellsBounds ahead mode
    · intro exceeds
      exact timeAdvanceRequest_eq_none state nonneg representable ahead exceeds
  · intro last
    apply saturatesTo_iff
    · intro within arithmetic exact
      exact setOutboundLowerTimeStampAndCurrentLookahead_eq exact
        representable nonneg within last
    · intro within
      rw [saturated_eq within]
      exact setOutboundLowerTimeStampAndCurrentLookahead_entersOutbound self
        logicalTime last
    · intro exceeds
      exact setOutboundLowerTimeStampAndCurrentLookahead_eq_none
        (not_le.mp exceeds) last
  · intro commitType
    apply saturatesTo_iff
    · intro within arithmetic exact
      exact sendCommitLowerBoundTimeStampLookaheadIfChanged_eq exact
        representable nonneg within commitType
    · intro within
      exact sendCommitLowerBoundTimeStampLookaheadIfChanged_tellsBounds
        representable nonneg within commitType
    · intro exceeds
      exact sendCommitLowerBoundTimeStampLookaheadIfChanged_eq_none
        (not_le.mp exceeds) commitType
  · intro second commitType
    apply saturatesTo_iff
    · intro within arithmetic exact
      exact sendCommitLowerBoundTimeStampPairIfChanged_eq exact
        representable within commitType
    · intro within
      rw [saturated_eq within,
        TemplateTimeManagement.sendCommitLowerBoundTimeStampPairIfChanged_eq]
      exact self.sendCommitLowerBoundTimeStampIfChanged_tellsBounds _
        commitType
    · intro exceeds
      exact sendCommitLowerBoundTimeStampPairIfChanged_eq_none
        representable (not_le.mp exceeds) commitType

end

/-- A federate becomes time regulating with a lookahead of 1. -/
def regulatingRun : List FederateInput :=
  [.receive (.joinFederateNotify 1),
    .receive (.joinFederationExecutionResponse 1),
    .call (.enableTimeRegulation 1),
    .receive (.enableTimeRegulationRequest 1 1 (-17)),
    .dispatchCallback]

/-- A request to the final time overflows, whatever it should result in. -/
theorem bounds_saturate_fails :
    ∃ self, federate.Reachable self ∧
      self.logicalTime.first = 0 ∧ self.targetLookahead = 1 ∧
      ∀ result,
        ¬ SaturatesTo
          (fun arithmetic =>
            arithmetic.timeAdvanceRequest self Integer64.maxValue
              .timeAdvanceRequest)
          result := by
  refine ⟨_, TransitionSystem.reachable_of_run regulatingRun rfl, rfl, rfl, ?_⟩
  intro result
  exact not_saturatesTo_of_none (by rfl)

/-- A request to one before the final time does not, and commits the final
time. -/
theorem bounds_saturate_before_final :
    ∃ self, federate.run .new regulatingRun = some self ∧
      SaturatesTo
        (fun arithmetic =>
          arithmetic.timeAdvanceRequest self (Integer64.maxValue - 1)
            .timeAdvanceRequest)
        (fun after =>
          self.TellsBounds after ⟨Integer64.maxValue, Integer64.maxValue⟩) := by
  refine ⟨_, rfl, ?_⟩
  refine ((bounds_saturate _ ?_ ?_ (Integer64.maxValue - 1) ?_ ?_).2.1
    .timeAdvanceRequest).mpr ?_
  · exact integer64State_of_alone (by decide) (by decide) rfl rfl
  · decide
  · decide
  · decide
  · exact fun _ => ⟨by decide, by decide, by decide⟩

end TimeArithmetic
end TimeManagement
end OpenRTI
