import OpenRTI.TimeManagement.Ambassador

/-!
# What committing a lower bound does

Each of the commit operations is described once, as the change of the
committed bounds and the messages it sends.
-/

namespace OpenRTI
namespace TimeManagement

/-- A pair of bounds that a federate has committed. -/
@[ext]
structure CommittedBounds where
  timeAdvance : Int
  nextMessage : Int
  deriving DecidableEq

namespace CommittedBounds

/-- The bounds after a further commit. -/
def commit
    (self : CommittedBounds)
    (logicalTime : Int)
    (commitType : LowerBoundTimeStampCommitType) : CommittedBounds where
  timeAdvance :=
    if commitType.timeAdvance then logicalTime else self.timeAdvance
  nextMessage :=
    if commitType.nextMessage then logicalTime else self.nextMessage

end CommittedBounds

/-- Messages that take the receivers' bounds for a federate from one pair to
another: none, or one commit that does not lower the bound for time
advances. -/
inductive CommitMessages (federateHandle : FederateHandle) :
    CommittedBounds → CommittedBounds → List Message → Prop
  | none (bounds : CommittedBounds) :
      CommitMessages federateHandle bounds bounds []
  | one
      (bounds : CommittedBounds)
      (logicalTime : Int)
      (commitType : LowerBoundTimeStampCommitType)
      (commitId : Unsigned)
      (advances : bounds.timeAdvance ≤ logicalTime) :
      CommitMessages federateHandle bounds
        (bounds.commit logicalTime commitType)
        [.commitLowerBoundTimeStamp federateHandle logicalTime commitType
          commitId]

namespace TemplateTimeManagement

/-- What this federate has committed. -/
def committedBounds (self : TemplateTimeManagement) : CommittedBounds where
  timeAdvance := self.committedOutboundLowerBoundTimeStamp
  nextMessage := self.committedNextMessageLowerBoundTimeStamp

/-- Enter committed bounds, with the messages that tell them. -/
def withCommit
    (self : TemplateTimeManagement)
    (bounds : CommittedBounds)
    (commitId : Unsigned)
    (messages : List Message) : TemplateTimeManagement :=
  { self with
    committedOutboundLowerBoundTimeStamp := bounds.timeAdvance
    committedNextMessageLowerBoundTimeStamp := bounds.nextMessage
    commitId := commitId
    sent := self.sent ++ messages }

@[simp] theorem withCommit_self (self : TemplateTimeManagement) :
    self.withCommit self.committedBounds self.commitId [] = self := by
  simp [withCommit, committedBounds]

/-- An operation that commits the given bounds and tells them. -/
def Commits
    (self after : TemplateTimeManagement)
    (bounds : CommittedBounds) : Prop :=
  ∃ commitId messages,
    after = self.withCommit bounds commitId messages ∧
      CommitMessages self.federateHandle self.committedBounds bounds messages

theorem commits_self (self : TemplateTimeManagement) :
    self.Commits self self.committedBounds :=
  ⟨self.commitId, [], self.withCommit_self.symm, .none _⟩

variable (self : TemplateTimeManagement) (logicalTime : Int)
variable (commitType : LowerBoundTimeStampCommitType)

section

variable (advances : self.committedOutboundLowerBoundTimeStamp ≤ logicalTime)
include advances

/-- The plain commit sets the bounds its type names. -/
theorem sendCommitLowerBoundTimeStamp_commits :
    self.Commits (self.sendCommitLowerBoundTimeStamp logicalTime commitType)
      (self.committedBounds.commit logicalTime commitType) :=
  ⟨_, _, rfl, .one _ _ _ _ advances⟩

/-- The parts of a commit that change nothing can be left out. -/
theorem commit_changedCommitType :
    self.committedBounds.commit logicalTime
        (self.changedCommitType logicalTime commitType) =
      self.committedBounds.commit logicalTime commitType := by
  ext
  · simp only [CommittedBounds.commit, committedBounds, changedCommitType]
    grind
  · simp only [CommittedBounds.commit, committedBounds, changedCommitType]
    grind

theorem sendCommitLowerBoundTimeStampIfChanged_commits :
    self.Commits
      (self.sendCommitLowerBoundTimeStampIfChanged logicalTime commitType)
      (self.committedBounds.commit logicalTime commitType) := by
  rw [← self.commit_changedCommitType logicalTime commitType advances]
  unfold sendCommitLowerBoundTimeStampIfChanged
  rw [if_neg (not_lt.mpr advances)]
  split
  next unchanged =>
    rw [Bool.and_eq_true, Bool.not_eq_true', Bool.not_eq_true'] at unchanged
    have same : self.committedBounds.commit logicalTime
        (self.changedCommitType logicalTime commitType) =
        self.committedBounds := by
      simp [CommittedBounds.commit, unchanged.1, unchanged.2]
    rw [same]
    exact self.commits_self
  next =>
    exact self.sendCommitLowerBoundTimeStamp_commits logicalTime _ advances

end

/-- The smallest time stamp allowed after advancing to a logical time with the
requested lookahead. -/
def lowerBoundAt
    (self : TemplateTimeManagement)
    (logicalTime : Int) : Int :=
  logicalTime + self.targetLookahead +
    self.getOutboundLowerTimeStampSecondField self.targetLookahead

theorem getOutboundLowerTimeStampSecondField_cases
    (lookahead : Int) :
    self.getOutboundLowerTimeStampSecondField lookahead = 0 ∨
      self.getOutboundLowerTimeStampSecondField lookahead = 1 := by
  unfold getOutboundLowerTimeStampSecondField
  grind

theorem lowerBoundAt_mono
    {left right : Int}
    (ordered : left ≤ right) :
    self.lowerBoundAt left ≤ self.lowerBoundAt right := by
  unfold lowerBoundAt
  omega

/-- An advance to a logical time commits the bound there, but nothing below what
is committed. -/
theorem sendCommitLowerBoundTimeStampLookaheadIfChanged_eq
    (self : TemplateTimeManagement) (logicalTime : Int)
    (commitType : LowerBoundTimeStampCommitType) :
    self.sendCommitLowerBoundTimeStampLookaheadIfChanged logicalTime
        self.targetLookahead commitType =
      self.sendCommitLowerBoundTimeStampIfChanged
        (max (self.lowerBoundAt logicalTime)
          self.committedOutboundLowerBoundTimeStamp)
        commitType := by
  have bound : (if self.getOutboundLowerTimeStampSecondField
        self.targetLookahead ≠ 0 then
        LogicalTimeFactory.nextAfter (logicalTime + self.targetLookahead)
      else logicalTime + self.targetLookahead) =
      self.lowerBoundAt logicalTime := by
    rw [lowerBoundAt, LogicalTimeFactory.nextAfter]
    rcases self.getOutboundLowerTimeStampSecondField_cases
      self.targetLookahead with second | second <;> simp [second]
  rw [sendCommitLowerBoundTimeStampLookaheadIfChanged, bound]

/-- What an advance to a logical time commits. -/
theorem sendCommitLowerBoundTimeStampLookaheadIfChanged_commits :
    self.Commits
      (self.sendCommitLowerBoundTimeStampLookaheadIfChanged logicalTime
        self.targetLookahead commitType)
      (self.committedBounds.commit
        (max (self.lowerBoundAt logicalTime)
          self.committedOutboundLowerBoundTimeStamp)
        commitType) := by
  rw [sendCommitLowerBoundTimeStampLookaheadIfChanged_eq]
  exact self.sendCommitLowerBoundTimeStampIfChanged_commits _ _
    (le_max_right _ _)

/-- What committing a bound given as a pair commits. -/
theorem sendCommitLowerBoundTimeStampPairIfChanged_eq
    (logicalTimePair : LogicalTimePair)
    (commitType : LowerBoundTimeStampCommitType) :
    self.sendCommitLowerBoundTimeStampPairIfChanged logicalTimePair
        commitType =
      self.sendCommitLowerBoundTimeStampIfChanged
        logicalTimePair.toLogicalTime commitType := by
  unfold sendCommitLowerBoundTimeStampPairIfChanged
  rw [LogicalTimePair.toLogicalTime]
  split <;> rfl

/-! ## Changes of the pending time -/

def withPending
    (self : TemplateTimeManagement)
    (pending : LogicalTimePair) : TemplateTimeManagement :=
  { self with pendingLogicalTime := pending }

/-- A federate that can not advance is held back by the least bound. -/
theorem heldBack_of_staysWithin
    {least : Option Int} {logicalTime bound : Int}
    (blocked :
      FederateHandleLowerBoundTimeStampMap.staysWithin least logicalTime 0 =
        false)
    (isLeast : least = some bound) :
    bound ≤ logicalTime := by
  rw [isLeast] at blocked
  simp [FederateHandleLowerBoundTimeStampMap.staysWithin] at blocked
  omega

/-- The time that a request sets as pending is the requested one. -/
theorem max_first_of_le
    {current : LogicalTimePair} {logicalTime second : Int}
    (ahead : current.first ≤ logicalTime) :
    (max current ⟨logicalTime, second⟩).first = logicalTime := by
  rw [LogicalTimePair.max_first]
  exact max_eq_right ahead

/-- Limiting the pending time only lowers it. -/
theorem limitPendingLogicalTime_eq (self : TemplateTimeManagement) :
    ∃ first, first ≤ self.pendingLogicalTime.first ∧
      self.limitPendingLogicalTime =
        self.withPending ⟨first, self.pendingLogicalTime.second⟩ := by
  unfold limitPendingLogicalTime
  split
  · exact ⟨_, le_refl _, rfl⟩
  · split
    next below => exact ⟨_, below.le, rfl⟩
    next => exact ⟨_, le_refl _, rfl⟩

/-- The pending time is limited by the first list of the queue, whether or not
it is empty. -/
theorem limitPendingLogicalTime_first (self : TemplateTimeManagement) :
    self.limitPendingLogicalTime.pendingLogicalTime.first =
        self.pendingLogicalTime.first ∨
      self.getLeastIncomingTimestamp =
        some self.limitPendingLogicalTime.pendingLogicalTime.first := by
  unfold limitPendingLogicalTime
  split
  next => exact .inl rfl
  next timeStamp least =>
    split
    · exact .inr least
    · exact .inl rfl

/-- Bounding the pending time does not take it beyond the requested time. -/
theorem boundPendingLogicalTime_eq
    {self : TemplateTimeManagement} {limit : Int}
    (pending : self.pendingLogicalTime.first ≤ limit)
    (current : self.logicalTime.first ≤ limit) :
    ∃ pair : LogicalTimePair, pair.first ≤ limit ∧
      self.boundPendingLogicalTime = self.withPending pair := by
  unfold boundPendingLogicalTime
  split
  next blocked =>
    rw [Bool.and_eq_true, Bool.not_eq_true'] at blocked
    cases least : self.federateLowerBoundMap.getGALT with
    | none => exact ⟨_, pending, rfl⟩
    | some galt =>
        refine ⟨_, ?_, rfl⟩
        have heldBack := heldBack_of_staysWithin blocked.2 least
        rcases max_choice self.logicalTime
          ⟨galt, self.pendingLogicalTime.second⟩ with chosen | chosen
        · rwa [chosen]
        · rw [chosen]
          exact heldBack.trans pending
  next => exact ⟨_, pending, rfl⟩

variable (mode : TimeAdvanceMode)

/-! ## The shared part of the requests -/

@[simp] theorem prepareTimeAdvance_timeAdvanceMode :
    (self.prepareTimeAdvance logicalTime mode).timeAdvanceMode = mode := by
  unfold prepareTimeAdvance setOutboundLowerTimeStampAndCurrentLookahead
  dsimp only
  split
  · split <;> rfl
  · rfl

@[simp] theorem prepareTimeAdvance_logicalTime :
    (self.prepareTimeAdvance logicalTime mode).logicalTime =
      self.logicalTime := by
  unfold prepareTimeAdvance setOutboundLowerTimeStampAndCurrentLookahead
  dsimp only
  split
  · split <;> rfl
  · rfl

@[simp] theorem prepareTimeAdvance_timeConstrainedMode :
    (self.prepareTimeAdvance logicalTime mode).timeConstrainedMode =
      self.timeConstrainedMode := by
  unfold prepareTimeAdvance setOutboundLowerTimeStampAndCurrentLookahead
  dsimp only
  split
  · split <;> rfl
  · rfl

@[simp] theorem prepareTimeAdvance_logicalTimeMessageListMap :
    (self.prepareTimeAdvance logicalTime mode).logicalTimeMessageListMap =
      self.logicalTimeMessageListMap := by
  unfold prepareTimeAdvance setOutboundLowerTimeStampAndCurrentLookahead
  dsimp only
  split
  · split <;> rfl
  · rfl

@[simp] theorem prepareTimeAdvance_pendingLogicalTime :
    (self.prepareTimeAdvance logicalTime mode).pendingLogicalTime =
      max self.logicalTime
        ⟨logicalTime,
          ({ self with timeAdvanceMode := mode } :
            TemplateTimeManagement).getPendingTimeSecondField⟩ := by
  unfold prepareTimeAdvance setOutboundLowerTimeStampAndCurrentLookahead
  dsimp only
  split
  · split <;> rfl
  · rfl

/-- The time that a next message request commits its lookahead for. -/
def nextMessageTime
    (self : TemplateTimeManagement)
    (logicalTime : Int) : Int :=
  if self.getTimeConstrainedEnabled then
    match self.getLeastIncomingTimestamp with
    | none => logicalTime
    | some timeStamp => min timeStamp logicalTime
  else logicalTime

/-- A constrained federate limits its pending time to the least queued time
stamp. -/
theorem limitPendingLogicalTime_withPending
    {self : TemplateTimeManagement}
    (constrained : self.getTimeConstrainedEnabled = true) :
    self.limitPendingLogicalTime =
      self.withPending
        ⟨self.nextMessageTime self.pendingLogicalTime.first,
          self.pendingLogicalTime.second⟩ := by
  unfold limitPendingLogicalTime nextMessageTime
  rw [if_pos constrained]
  cases self.getLeastIncomingTimestamp with
  | none => rfl
  | some timeStamp =>
      dsimp only
      split
      next below => rw [min_eq_left below.le, withPending]
      next notBelow => rw [min_eq_right (not_lt.mp notBelow), withPending]

/-- What a request prepares: the mode, the pending time and the bounds for
sending. -/
def withRequest
    (self : TemplateTimeManagement)
    (mode : TimeAdvanceMode)
    (pending outbound last : LogicalTimePair)
    (lookahead : Int) : TemplateTimeManagement :=
  { self with
    timeAdvanceMode := mode
    pendingLogicalTime := pending
    outboundLowerBoundTimeStamp := outbound
    lastOutboundLowerBoundTimeStamp := last
    currentLookahead := lookahead }

/-- A request changes the mode, the pending time and the bounds for sending. -/
theorem prepareTimeAdvance_eq :
    ∃ outbound last lookahead,
      self.prepareTimeAdvance logicalTime mode =
          self.withRequest mode
            (max self.logicalTime
              ⟨logicalTime,
                getPendingTimeSecondField
                  { self with timeAdvanceMode := mode }⟩)
            outbound last lookahead ∧
        (self.getTimeRegulationEnabled = true →
          outbound =
            max
              ⟨logicalTime + self.targetLookahead,
                getOutboundLowerTimeStampSecondField
                  { self with timeAdvanceMode := mode }
                  self.targetLookahead⟩
              self.outboundLowerBoundTimeStamp) := by
  unfold prepareTimeAdvance setOutboundLowerTimeStampAndCurrentLookahead
  dsimp only
  split
  next =>
    split
    next below =>
      refine ⟨_, _, _, rfl, fun _ => ?_⟩
      exact (max_eq_right below.le).symm
    next notBelow =>
      refine ⟨_, _, _, rfl, fun _ => ?_⟩
      exact (max_eq_left (not_lt.mp notBelow)).symm
  next notEnabled =>
    exact ⟨_, _, _, rfl, fun enabled => absurd enabled notEnabled⟩

end TemplateTimeManagement
end TimeManagement
end OpenRTI
