import OpenRTI.TimeManagement.CommitEffects

/-!
# The send guard and the committed bound

What a federate may send is decided by its outbound lower bound; what it has
promised is its committed bound.  This module keeps the two apart from the rest
of time management in a view, `SendGuard`, and follows the view through every
operation.  While a next message or flush queue request is pending the outbound
bound is raised to what the requested time allows, and the grant lowers it
again; the invariant therefore relates the committed bound to what the grant
will leave.
-/

namespace OpenRTI
namespace TimeManagement

open Foundation

/-! ## What a federate has told the others -/

/-- The time of a commit that covers time advances. -/
def Message.timeAdvanceCommit? : Message → Option Int
  | .commitLowerBoundTimeStamp _ timeStamp commitType _ =>
      if commitType.timeAdvance then some timeStamp else none
  | _ => none

/-- The last commit for time advances among the messages. -/
def lastTimeAdvanceCommit (messages : List Message) : Option Int :=
  (messages.filterMap Message.timeAdvanceCommit?).getLast?

@[simp] theorem lastTimeAdvanceCommit_append_singleton
    (messages : List Message) (message : Message) :
    lastTimeAdvanceCommit (messages ++ [message]) =
      message.timeAdvanceCommit?.or (lastTimeAdvanceCommit messages) := by
  cases commit : message.timeAdvanceCommit? <;>
    simp [lastTimeAdvanceCommit, List.filterMap_append, commit]

theorem CommitMessages.lastTimeAdvanceCommit
    {federateHandle : FederateHandle} {before after : CommittedBounds}
    {messages : List Message}
    (told : CommitMessages federateHandle before after messages)
    {earlier : List Message}
    (current :
      lastTimeAdvanceCommit earlier = some before.timeAdvance) :
    TimeManagement.lastTimeAdvanceCommit (earlier ++ messages) =
      some after.timeAdvance := by
  cases told with
  | none => rwa [List.append_nil]
  | one logicalTime commitType commitId advances =>
      rw [lastTimeAdvanceCommit_append_singleton, current,
        Message.timeAdvanceCommit?, CommittedBounds.commit]
      cases commitType.timeAdvance <;> rfl

/-! ## The view -/

/-- The part of time management that decides what may be sent. -/
@[ext]
structure SendGuard where
  timeRegulationMode : TimeRegulationMode
  timeAdvanceMode : TimeAdvanceMode
  /-- The logical time that is waited for. -/
  pending : Int
  outbound : LogicalTimePair
  lastOutbound : LogicalTimePair
  committed : Int
  lookahead : Int
  /-- Some federate has not yet answered the request for time regulation. -/
  waiting : Bool
  /-- Number of queued callbacks that enable time regulation. -/
  enabledQueued : Nat
  /-- The last commit for time advances told to the others. -/
  told : Option Int

namespace SendGuard

/-- A next message or flush queue request is pending. -/
def early (guard : SendGuard) : Bool :=
  guard.timeAdvanceMode = .nextMessageRequest ||
    guard.timeAdvanceMode = .nextMessageRequestAvailable ||
    guard.timeAdvanceMode = .flushQueueRequest

/-- Whether the bound at a logical time excludes equality. -/
def second (guard : SendGuard) : Int :=
  if guard.timeRegulationMode ≠ .timeRegulationEnabled then 0
  else if guard.timeAdvanceMode = .timeAdvanceRequestAvailable ∨
      guard.timeAdvanceMode = .nextMessageRequestAvailable ∨
      guard.timeAdvanceMode = .flushQueueRequest then 0
  else if guard.lookahead = 0 then 1
  else 0

/-- The smallest time stamp allowed after advancing to a logical time. -/
def boundAt (guard : SendGuard) (logicalTime : Int) : Int :=
  logicalTime + guard.lookahead + guard.second

/-- What a grant at the pending time leaves of the outbound bound. -/
def granted (guard : SendGuard) : Int :=
  max guard.lastOutbound.toLogicalTime (guard.boundAt guard.pending)

/-- The invariant of the view. -/
structure Consistent (guard : SendGuard) : Prop where
  lookaheadNonneg : 0 ≤ guard.lookahead
  outboundNonneg : 0 ≤ guard.outbound.second
  lastOutboundNonneg : 0 ≤ guard.lastOutbound.second
  /-- The callback that enables time regulation is queued at most once, and
  only after every federate has answered. -/
  queuedOnce : guard.enabledQueued ≤ 1
  queuedWhilePending :
    0 < guard.enabledQueued →
      guard.timeRegulationMode = .timeRegulationEnablePending ∧
        guard.waiting = false ∧ guard.told = some guard.committed
  /-- While time regulation is being enabled nothing else is requested. -/
  enabling :
    guard.timeRegulationMode = .timeRegulationEnablePending →
      guard.timeAdvanceMode = .timeAdvanceGranted ∧
        guard.outbound.second = 0 ∧ guard.committed ≤ guard.outbound.first
  toldCommitted :
    guard.timeRegulationMode = .timeRegulationEnabled →
      guard.told = some guard.committed
  /-- The committed bound is within the outbound bound. -/
  withinOutbound :
    guard.timeRegulationMode = .timeRegulationEnabled →
      guard.committed ≤ guard.outbound.toLogicalTime
  /-- It stays there when a pending grant lowers the outbound bound. -/
  withinGranted :
    guard.timeRegulationMode = .timeRegulationEnabled →
      guard.early = true →
        guard.granted ≤ guard.outbound.toLogicalTime ∧
          guard.committed ≤ guard.granted

theorem second_cases (guard : SendGuard) :
    guard.second = 0 ∨ guard.second = 1 := by
  unfold second
  grind

theorem boundAt_mono
    (guard : SendGuard)
    {left right : Int}
    (ordered : left ≤ right) :
    guard.boundAt left ≤ guard.boundAt right := by
  unfold boundAt
  omega

/-- A time stamp passes a bound exactly if it reaches the bound's least
allowed time. -/
theorem not_passed_iff
    (bound : LogicalTimePair)
    (nonneg : 0 ≤ bound.second)
    (logicalTime : Int) :
    TemplateTimeManagement.passed bound logicalTime = false ↔
      bound.toLogicalTime ≤ logicalTime := by
  rw [LogicalTimePair.toLogicalTime_eq, TemplateTimeManagement.passed]
  grind

variable {guard : SendGuard}

/-! ## Changes of the view that keep the invariant -/

/-- Committing up to what the pending grant leaves keeps the invariant. -/
theorem Consistent.commit
    (consistent : guard.Consistent)
    {committed : Int} {told : Option Int}
    (enabled : guard.timeRegulationMode = .timeRegulationEnabled)
    (isTold : told = some committed)
    (withinOutbound : committed ≤ guard.outbound.toLogicalTime)
    (withinGranted : guard.early = true → committed ≤ guard.granted) :
    Consistent { guard with committed := committed, told := told } where
  lookaheadNonneg := consistent.lookaheadNonneg
  outboundNonneg := consistent.outboundNonneg
  lastOutboundNonneg := consistent.lastOutboundNonneg
  queuedOnce := consistent.queuedOnce
  queuedWhilePending := fun queued =>
    ⟨(consistent.queuedWhilePending queued).1,
      (consistent.queuedWhilePending queued).2.1, isTold⟩
  enabling := fun pending => by
    simp [enabled] at pending
  toldCommitted := fun _ => isTold
  withinOutbound := fun _ => withinOutbound
  withinGranted := fun isEnabled isEarly =>
    ⟨(consistent.withinGranted isEnabled isEarly).1, withinGranted isEarly⟩

/-- Requesting time regulation promises exactly the outbound bound. -/
theorem Consistent.enable
    (consistent : guard.Consistent)
    (disabled : guard.timeRegulationMode = .timeRegulationDisabled)
    (granted : guard.timeAdvanceMode = .timeAdvanceGranted)
    {lookahead : Int}
    (lookaheadNonneg : 0 ≤ lookahead)
    (pending bound : Int) :
    Consistent
      { guard with
        timeRegulationMode := .timeRegulationEnablePending
        pending := pending
        outbound := ⟨bound, 0⟩
        lastOutbound := ⟨bound, 0⟩
        committed := bound
        lookahead := lookahead
        waiting := true } where
  lookaheadNonneg := lookaheadNonneg
  outboundNonneg := le_refl 0
  lastOutboundNonneg := le_refl 0
  queuedOnce := consistent.queuedOnce
  queuedWhilePending := fun queued => by
    have pending := (consistent.queuedWhilePending queued).1
    simp [disabled] at pending
  enabling := fun _ => ⟨granted, rfl, le_refl bound⟩
  toldCommitted := fun enabled => by cases enabled
  withinOutbound := fun enabled => by cases enabled
  withinGranted := fun enabled => by cases enabled

/-- Disabling time regulation promises nothing. -/
theorem Consistent.disable
    (consistent : guard.Consistent)
    (enabled : guard.timeRegulationMode = .timeRegulationEnabled)
    (bound : Int) :
    Consistent
      { guard with
        timeRegulationMode := .timeRegulationDisabled
        outbound := ⟨bound, 0⟩
        lastOutbound := ⟨bound, 0⟩
        committed := bound } where
  lookaheadNonneg := consistent.lookaheadNonneg
  outboundNonneg := le_refl 0
  lastOutboundNonneg := le_refl 0
  queuedOnce := consistent.queuedOnce
  queuedWhilePending := fun queued => by
    have pending := (consistent.queuedWhilePending queued).1
    simp [enabled] at pending
  enabling := fun pending => by cases pending
  toldCommitted := fun enabled => by cases enabled
  withinOutbound := fun enabled => by cases enabled
  withinGranted := fun enabled => by cases enabled

variable {pending : Int}

/-- The pending time can be set where the pending grant then still covers what
is committed. -/
theorem Consistent.setPending
    (consistent : guard.Consistent)
    (withinOutbound :
      guard.timeRegulationMode = .timeRegulationEnabled →
        guard.early = true →
          guard.boundAt pending ≤ guard.outbound.toLogicalTime)
    (withinGranted :
      guard.timeRegulationMode = .timeRegulationEnabled →
        guard.early = true →
          guard.committed ≤
            max guard.lastOutbound.toLogicalTime (guard.boundAt pending)) :
    Consistent { guard with pending := pending } where
  lookaheadNonneg := consistent.lookaheadNonneg
  outboundNonneg := consistent.outboundNonneg
  lastOutboundNonneg := consistent.lastOutboundNonneg
  queuedOnce := consistent.queuedOnce
  queuedWhilePending := consistent.queuedWhilePending
  enabling := consistent.enabling
  toldCommitted := consistent.toldCommitted
  withinOutbound := consistent.withinOutbound
  withinGranted := fun enabled early =>
    ⟨max_le
        ((le_max_left _ _).trans (consistent.withinGranted enabled early).1)
        (withinOutbound enabled early),
      withinGranted enabled early⟩

/-- Lowering the pending time needs the second condition only. -/
theorem Consistent.lowerPending
    (consistent : guard.Consistent)
    (lower : pending ≤ guard.pending)
    (withinGranted :
      guard.timeRegulationMode = .timeRegulationEnabled →
        guard.early = true →
          guard.committed ≤
            max guard.lastOutbound.toLogicalTime (guard.boundAt pending)) :
    Consistent { guard with pending := pending } :=
  consistent.setPending
    (fun enabled early =>
      ((guard.boundAt_mono lower).trans (le_max_right _ _)).trans
        (consistent.withinGranted enabled early).1)
    withinGranted

/-- The outbound bound after an advance to a logical time with a lookahead. -/
def advanceOutbound
    (guard : SendGuard)
    (logicalTime : Int)
    (last : LogicalTimePair) : LogicalTimePair :=
  max ⟨logicalTime + guard.lookahead, guard.second⟩ last

theorem toLogicalTime_advanceOutbound
    (guard : SendGuard) (logicalTime : Int) (last : LogicalTimePair) :
    (guard.advanceOutbound logicalTime last).toLogicalTime =
      max (guard.boundAt logicalTime) last.toLogicalTime := by
  rw [advanceOutbound, LogicalTimePair.toLogicalTime_max,
    LogicalTimePair.toLogicalTime_eq, boundAt]
  rcases guard.second_cases with second | second <;> simp [second]

theorem advanceOutbound_second_nonneg
    (guard : SendGuard) (logicalTime : Int)
    {last : LogicalTimePair}
    (nonneg : 0 ≤ last.second) :
    0 ≤ (guard.advanceOutbound logicalTime last).second := by
  rcases max_choice
    (⟨logicalTime + guard.lookahead, guard.second⟩ : LogicalTimePair)
    last with chosen | chosen
  · rw [advanceOutbound, chosen]
    rcases guard.second_cases with second | second <;> simp [second]
  · rwa [advanceOutbound, chosen]

section

variable (consistent : guard.Consistent)
include consistent

/-- Without time regulation the pending time advance does not matter. -/
theorem Consistent.advanceDisabled
    (disabled : guard.timeRegulationMode = .timeRegulationDisabled)
    (mode : TimeAdvanceMode) (pending : Int) :
    Consistent
      { guard with timeAdvanceMode := mode, pending := pending } where
  lookaheadNonneg := consistent.lookaheadNonneg
  outboundNonneg := consistent.outboundNonneg
  lastOutboundNonneg := consistent.lastOutboundNonneg
  queuedOnce := consistent.queuedOnce
  queuedWhilePending := consistent.queuedWhilePending
  enabling := fun pending => by
    simp [disabled] at pending
  toldCommitted := consistent.toldCommitted
  withinOutbound := consistent.withinOutbound
  withinGranted := fun enabled => by
    simp [disabled] at enabled

/-- Advancing raises the outbound bound to what the requested time allows, and
keeps the bound from before for the grant. -/
theorem Consistent.advance
    (enabled : guard.timeRegulationMode = .timeRegulationEnabled)
    (mode : TimeAdvanceMode)
    {lookahead : Int}
    (lookaheadNonneg : 0 ≤ lookahead)
    {logicalTime : Int} {requested : SendGuard}
    (requestedEqual :
      requested =
        { guard with
          timeAdvanceMode := mode
          pending := pending
          lookahead := lookahead
          lastOutbound := guard.outbound })
    (notBeyond : requested.early = true → pending ≤ logicalTime) :
    Consistent
      { requested with
        outbound := requested.advanceOutbound logicalTime guard.outbound } := by
  have committed := consistent.withinOutbound enabled
  have raised := requested.toLogicalTime_advanceOutbound logicalTime
    guard.outbound
  have ordered : requested.early = true →
      requested.boundAt pending ≤ requested.boundAt logicalTime :=
    fun early => requested.boundAt_mono (notBeyond early)
  have noneQueued : ¬ 0 < guard.enabledQueued := fun queued => by
    have pending := (consistent.queuedWhilePending queued).1
    simp [enabled] at pending
  subst requestedEqual
  exact
    { lookaheadNonneg := lookaheadNonneg
      outboundNonneg :=
        advanceOutbound_second_nonneg _ _ consistent.outboundNonneg
      lastOutboundNonneg := consistent.outboundNonneg
      queuedOnce := consistent.queuedOnce
      queuedWhilePending := fun queued => absurd queued noneQueued
      enabling := fun pending => by
        simp [enabled] at pending
      toldCommitted := consistent.toldCommitted
      withinOutbound := fun _ => by
        rw [raised]
        exact committed.trans (le_max_right _ _)
      withinGranted := fun _ early => by
        rw [raised]
        exact ⟨max_le (le_max_right _ _)
            ((ordered early).trans (le_max_left _ _)),
          committed.trans (le_max_left _ _)⟩ }

/-- The grant lowers the outbound bound to what the pending time allows. -/
theorem Consistent.grant :
    Consistent
      { guard with
        timeAdvanceMode := .timeAdvanceGranted
        outbound :=
          if guard.early = true ∧
              guard.timeRegulationMode = .timeRegulationEnabled then
            guard.advanceOutbound guard.pending guard.lastOutbound
          else guard.outbound } where
  lookaheadNonneg := consistent.lookaheadNonneg
  outboundNonneg := by
    dsimp only
    split
    · exact advanceOutbound_second_nonneg _ _ consistent.lastOutboundNonneg
    · exact consistent.outboundNonneg
  lastOutboundNonneg := consistent.lastOutboundNonneg
  queuedOnce := consistent.queuedOnce
  queuedWhilePending := consistent.queuedWhilePending
  enabling := fun pending => by
    have enabling := consistent.enabling pending
    have notEnabled :
        guard.timeRegulationMode ≠ .timeRegulationEnabled := by
      intro enabled
      simp [enabled] at pending
    simpa [notEnabled] using enabling.2
  toldCommitted := consistent.toldCommitted
  withinOutbound := fun enabled => by
    dsimp only at enabled ⊢
    by_cases early : guard.early = true
    · rw [if_pos ⟨early, enabled⟩, toLogicalTime_advanceOutbound, max_comm]
      exact (consistent.withinGranted enabled early).2
    · rw [if_neg (fun both => early both.1)]
      exact consistent.withinOutbound enabled
  withinGranted := fun _ early => by
    simp [SendGuard.early] at early

/-- Before the callback is queued it does not matter who has answered. -/
theorem Consistent.answer
    (noneQueued : guard.enabledQueued = 0)
    (waiting : Bool) :
    Consistent { guard with waiting := waiting } where
  lookaheadNonneg := consistent.lookaheadNonneg
  outboundNonneg := consistent.outboundNonneg
  lastOutboundNonneg := consistent.lastOutboundNonneg
  queuedOnce := consistent.queuedOnce
  queuedWhilePending := fun queued => by
    simp [noneQueued] at queued
  enabling := consistent.enabling
  toldCommitted := consistent.toldCommitted
  withinOutbound := consistent.withinOutbound
  withinGranted := consistent.withinGranted

/-- Once all federates have answered, exactly the outbound bound is committed
and the callback is queued. -/
theorem Consistent.answered
    (enabling : guard.timeRegulationMode = .timeRegulationEnablePending)
    (answered : guard.waiting = false)
    (noneQueued : guard.enabledQueued = 0)
    (pending bound : Int) :
    Consistent
      { guard with
        pending := pending
        outbound := ⟨bound, 0⟩
        committed := bound
        enabledQueued := guard.enabledQueued + 1
        told := some bound } where
  lookaheadNonneg := consistent.lookaheadNonneg
  outboundNonneg := le_refl 0
  lastOutboundNonneg := consistent.lastOutboundNonneg
  queuedOnce := by
    simp [noneQueued]
  queuedWhilePending := fun _ => ⟨enabling, answered, rfl⟩
  enabling := fun _ =>
    ⟨(consistent.enabling enabling).1, rfl, le_refl bound⟩
  toldCommitted := fun enabled => by
    simp [enabling] at enabled
  withinOutbound := fun enabled => by
    simp [enabling] at enabled
  withinGranted := fun enabled => by
    simp [enabling] at enabled

/-- Dispatching the callback that enables time regulation. -/
theorem Consistent.enabled
    (queued : 0 < guard.enabledQueued) :
    Consistent
      { guard with
        timeRegulationMode := .timeRegulationEnabled
        enabledQueued := guard.enabledQueued - 1 } := by
  have once := consistent.queuedOnce
  obtain ⟨pending, answered, told⟩ := consistent.queuedWhilePending queued
  obtain ⟨granted, second, committed⟩ := consistent.enabling pending
  exact
    { lookaheadNonneg := consistent.lookaheadNonneg
      outboundNonneg := consistent.outboundNonneg
      lastOutboundNonneg := consistent.lastOutboundNonneg
      queuedOnce := by
        dsimp only
        omega
      queuedWhilePending := fun queued => by
        dsimp only at queued
        omega
      enabling := fun pending => by cases pending
      toldCommitted := fun _ => told
      withinOutbound := fun _ =>
        committed.trans guard.outbound.first_le_toLogicalTime
      withinGranted := fun _ early => by
        simp [SendGuard.early, granted] at early }

end

end SendGuard

namespace TemplateTimeManagement

/-- Number of queued messages of one kind. -/
def queued (self : TemplateTimeManagement) (message : QueuedMessage) : Nat :=
  self.logicalTimeMessageListMap.sum fun messages => messages.count message

/-- The view of the send guard. -/
def sendGuard (self : TemplateTimeManagement) : SendGuard where
  timeRegulationMode := self.timeRegulationMode
  timeAdvanceMode := self.timeAdvanceMode
  pending := self.pendingLogicalTime.first
  outbound := self.outboundLowerBoundTimeStamp
  lastOutbound := self.lastOutboundLowerBoundTimeStamp
  committed := self.committedOutboundLowerBoundTimeStamp
  lookahead := self.targetLookahead
  waiting := self.timeRegulationEnableFederateHandleSet ≠ ∅
  enabledQueued := self.queued .timeRegulationEnabled
  told := lastTimeAdvanceCommit self.sent

@[simp] theorem second_sendGuard (self : TemplateTimeManagement) :
    self.sendGuard.second =
      self.getOutboundLowerTimeStampSecondField self.targetLookahead := by
  simp only [SendGuard.second, sendGuard, getOutboundLowerTimeStampSecondField,
    getTimeRegulationEnabled, getIsAnyAvailableMode,
    LogicalTimeFactory.isZeroTimeInterval]
  grind

variable (self : TemplateTimeManagement)

@[simp] theorem boundAt_sendGuard
    (logicalTime : Int) :
    self.sendGuard.boundAt logicalTime = self.lowerBoundAt logicalTime := by
  rw [SendGuard.boundAt, second_sendGuard]
  rfl

theorem early_of_nextMessageMode
    {self : TemplateTimeManagement}
    (nextMessage : self.getIsAnyNextMessageMode = true) :
    self.sendGuard.early = true := by
  unfold getIsAnyNextMessageMode at nextMessage
  simp [SendGuard.early, sendGuard] at nextMessage ⊢
  tauto

theorem queued_queueMessage
    (logicalTimePair : LogicalTimePair) (message other : QueuedMessage) :
    (self.queueMessage logicalTimePair message).queued other =
      self.queued other + if message = other then 1 else 0 := by
  have summed := self.logicalTimeMessageListMap.sum_alter
    (fun messages => messages.count other) logicalTimePair
    fun present => some (present.getD [] ++ [message])
  rw [queued, queueMessage, signal, queued]
  cases present : self.logicalTimeMessageListMap.find? logicalTimePair <;>
    simp [present, List.count_append, List.count_singleton, beq_iff_eq]
      at summed ⊢ <;>
    omega

/-- Queueing a message changes the view only for the callback that enables time
regulation. -/
@[simp] theorem sendGuard_queueMessage
    (logicalTimePair : LogicalTimePair) (message : QueuedMessage) :
    (self.queueMessage logicalTimePair message).sendGuard =
      { self.sendGuard with
        enabledQueued := self.sendGuard.enabledQueued +
          if message = .timeRegulationEnabled then 1 else 0 } := by
  ext <;> try rfl
  exact self.queued_queueMessage logicalTimePair message _

/-- Only commits change what is told. -/
theorem sendGuard_send
    {message : Message}
    (noCommit : message.timeAdvanceCommit? = none) :
    (self.send message).sendGuard = self.sendGuard := by
  have told : lastTimeAdvanceCommit (self.sent ++ [message]) =
      lastTimeAdvanceCommit self.sent := by simp [noCommit]
  change { self.sendGuard with
    told := lastTimeAdvanceCommit (self.sent ++ [message]) } = self.sendGuard
  rw [told]
  rfl

theorem sendGuard_sendLockedByNextMessageRequestIfChanged
    (previous : Bool) :
    (self.sendLockedByNextMessageRequestIfChanged previous).sendGuard =
      self.sendGuard := by
  unfold sendLockedByNextMessageRequestIfChanged
  split
  · exact self.sendGuard_send rfl
  · rfl

theorem sendGuard_sendCommitLowerBoundTimeStampResponse
    (federateHandle : FederateHandle) (commitId : Unsigned) :
    (self.sendCommitLowerBoundTimeStampResponse federateHandle
      commitId).sendGuard = self.sendGuard := by
  unfold sendCommitLowerBoundTimeStampResponse
  split
  · rfl
  · exact self.sendGuard_send rfl

theorem sendGuard_sendCommitLowerBoundTimeStampResponses :
    self.sendCommitLowerBoundTimeStampResponses.sendGuard =
      self.sendGuard := by
  unfold sendCommitLowerBoundTimeStampResponses
  induction self.federateLowerBoundMap.getNextMessageFederateHandleList
    generalizing self with
  | nil => rfl
  | cons entry rest ih =>
      rw [List.foldl_cons, ih,
        sendGuard_sendCommitLowerBoundTimeStampResponse]

/-- A commit changes the committed bound of the view and what is told. -/
theorem sendGuard_of_commits
    {self after : TemplateTimeManagement} {bounds : CommittedBounds}
    (commits : self.Commits after bounds) :
    after.sendGuard =
        { self.sendGuard with
          committed := bounds.timeAdvance
          told := after.sendGuard.told } ∧
      (self.sendGuard.told = some self.sendGuard.committed →
        after.sendGuard.told = some bounds.timeAdvance) := by
  obtain ⟨commitId, messages, equal, told⟩ := commits
  rw [equal]
  exact ⟨rfl, told.lastTimeAdvanceCommit⟩

end TemplateTimeManagement
end TimeManagement
end OpenRTI
