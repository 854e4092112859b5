import OpenRTI.Foundation.KeyedQueue
import OpenRTI.TimeManagement.SendGuardMessages

/-!
# The queue of callbacks

Time stamped messages and grants are queued in one map, ordered by pairs: a
message at its time stamp and `-1`, a grant at the pending time.  This module
keeps the queue and what decides about its messages in a view, `DeliveryQueue`.
Its invariant is that there is one grant for a pending advance, either queued
or still to be scheduled, and none before the pending time.
-/

namespace OpenRTI
namespace TimeManagement

open Foundation

/-- The time stamped message that is queued, if one is. -/
def QueuedMessage.timeStamped? : QueuedMessage → Option TimeStampedMessage
  | .timeStamped message => some message
  | _ => none

@[simp] theorem QueuedMessage.timeStamped?_eq_some
    {queued : QueuedMessage} {message : TimeStampedMessage} :
    queued.timeStamped? = some message ↔ queued = .timeStamped message := by
  cases queued <;> simp [timeStamped?]

/-- The part of time management that schedules callbacks. -/
@[ext]
structure DeliveryQueue where
  messagesAt : LogicalTimePair → List QueuedMessage
  /-- Number of queued grants. -/
  grants : Nat
  pending : LogicalTimePair
  current : LogicalTimePair
  timeAdvanceMode : TimeAdvanceMode
  timeRegulationMode : TimeRegulationMode
  timeConstrainedMode : TimeConstrainedMode
  galt : Option Int
  /-- A grant is still to be scheduled. -/
  scheduled : Bool

namespace DeliveryQueue

/-- The messages queued with a time stamp, oldest first. -/
def timeStampedAt
    (view : DeliveryQueue)
    (timeStamp : Int) : List TimeStampedMessage :=
  (view.messagesAt ⟨timeStamp, -1⟩).filterMap QueuedMessage.timeStamped?

variable {view : DeliveryQueue}

theorem mem_timeStampedAt
    {timeStamp : Int} {message : TimeStampedMessage} :
    message ∈ view.timeStampedAt timeStamp ↔
      QueuedMessage.timeStamped message ∈
        view.messagesAt ⟨timeStamp, -1⟩ := by
  simp [timeStampedAt]

/-- Append a message at a time pair. -/
def enqueue
    (view : DeliveryQueue)
    (pair : LogicalTimePair)
    (message : QueuedMessage) : DeliveryQueue :=
  { view with
    messagesAt := fun other =>
      view.messagesAt other ++ if other = pair then [message] else []
    grants :=
      view.grants + if message = .timeAdvanceGranted then 1 else 0 }

variable {message : QueuedMessage} {pair : LogicalTimePair}

theorem mem_enqueue
    {other : LogicalTimePair} {queued : QueuedMessage} :
    queued ∈ (view.enqueue pair message).messagesAt other ↔
      queued ∈ view.messagesAt other ∨ other = pair ∧ queued = message := by
  unfold enqueue
  dsimp only
  rw [List.mem_append]
  split
  next same => simp [same]
  next different => simp [different]

/-- Other messages than time stamped ones can be queued anywhere. -/
theorem timeStampedAt_enqueue_of_none
    (other : message.timeStamped? = none) :
    (view.enqueue pair message).timeStampedAt = view.timeStampedAt := by
  funext timeStamp
  unfold timeStampedAt enqueue
  dsimp only
  rw [List.filterMap_append]
  split
  · simp [other]
  · exact List.append_nil _

theorem timeStampedAt_enqueue
    (view : DeliveryQueue) (message : TimeStampedMessage)
    (timeStamp : Int) :
    (view.enqueue ⟨message.timeStamp, -1⟩
        (.timeStamped message)).timeStampedAt timeStamp =
      view.timeStampedAt timeStamp ++
        if timeStamp = message.timeStamp then [message] else [] := by
  unfold timeStampedAt enqueue
  dsimp only
  rw [List.filterMap_append]
  by_cases same : timeStamp = message.timeStamp
  · simp [same, QueuedMessage.timeStamped?]
  · simp [same]

/-- Schedule the grant of the pending advance. -/
def scheduleGrant (view : DeliveryQueue) : DeliveryQueue :=
  enqueue { view with scheduled := false } view.pending .timeAdvanceGranted

/-- What the checks of a pending advance can do. -/
inductive Checked (view : DeliveryQueue) : DeliveryQueue → Prop
  | unchanged : Checked view view
  | granted (scheduled : view.scheduled = true) :
      Checked view view.scheduleGrant

variable {after : DeliveryQueue}

theorem Checked.pending
    (checked : Checked view after) :
    after.pending = view.pending := by
  cases checked <;> rfl

/-- What requesting an advance can do: the grant is queued at the new pending
time, or left to be scheduled. -/
inductive Advances
    (view : DeliveryQueue)
    (mode : TimeAdvanceMode) : DeliveryQueue → Prop
  | queued (pending : LogicalTimePair) (nonneg : 0 ≤ pending.second) :
      Advances view mode
        (enqueue { view with timeAdvanceMode := mode, pending := pending }
          pending .timeAdvanceGranted)
  | scheduled (pending : LogicalTimePair) (nonneg : 0 ≤ pending.second) :
      Advances view mode
        { view with
          timeAdvanceMode := mode
          pending := pending
          scheduled := true }

theorem Advances.timeAdvanceMode
    {mode : TimeAdvanceMode}
    (advances : Advances view mode after) :
    after.timeAdvanceMode = mode := by
  cases advances <;> rfl

/-- Checking the advance that was requested. -/
theorem Advances.checked
    {view requested after : DeliveryQueue} {mode : TimeAdvanceMode}
    {pending : LogicalTimePair}
    (nonneg : 0 ≤ pending.second)
    (notScheduled : view.scheduled = false)
    (left :
      requested =
        { view with
          timeAdvanceMode := mode
          pending := pending
          scheduled := true })
    (checked : Checked requested after) :
    Advances view mode after := by
  cases checked with
  | unchanged =>
      rw [left]
      exact .scheduled pending nonneg
  | granted =>
      have same : requested.scheduleGrant =
          enqueue { view with timeAdvanceMode := mode, pending := pending }
            pending .timeAdvanceGranted := by
        rw [left, scheduleGrant]
        simp only [enqueue, notScheduled]
      rw [same]
      exact .queued pending nonneg

/-- What holds of the view in every reachable state. -/
structure Regular (view : DeliveryQueue) : Prop where
  pendingNonneg : 0 ≤ view.pending.second
  currentNonneg : 0 ≤ view.current.second
  /-- A time stamped message is queued at its time stamp, before a grant at
  the same time. -/
  stampedAt :
    ∀ pair message, QueuedMessage.timeStamped message ∈ view.messagesAt pair →
      pair = ⟨message.timeStamp, -1⟩
  /-- The pending time is never beyond a queued grant. -/
  grantAt :
    ∀ pair, QueuedMessage.timeAdvanceGranted ∈ view.messagesAt pair →
      view.pending ≤ pair
  /-- There is one grant for a pending advance. -/
  oneGrant :
    view.grants + view.scheduled.toNat =
      if view.timeAdvanceMode = .timeAdvanceGranted then 0 else 1
  enabling :
    view.timeRegulationMode = .timeRegulationEnablePending →
      view.timeAdvanceMode = .timeAdvanceGranted

theorem Regular.settled
    (regular : view.Regular)
    (granted : view.timeAdvanceMode = .timeAdvanceGranted) :
    view.grants = 0 ∧ view.scheduled = false := by
  have one := regular.oneGrant
  rw [if_pos granted] at one
  refine ⟨by omega, ?_⟩
  cases scheduled : view.scheduled with
  | false => rfl
  | true =>
      rw [scheduled] at one
      cases one

/-- While a grant is still to be scheduled none is queued. -/
theorem Regular.advancing_of_scheduled
    (regular : view.Regular)
    (scheduled : view.scheduled = true) :
    view.timeAdvanceMode ≠ .timeAdvanceGranted ∧ view.grants = 0 := by
  have one := regular.oneGrant
  rw [scheduled] at one
  constructor
  · intro granted
    rw [if_pos granted] at one
    cases one
  · split at one
    · cases one
    · exact Nat.succ.inj one

theorem Regular.scheduleGrant
    (regular : view.Regular)
    (scheduled : view.scheduled = true) :
    view.scheduleGrant.Regular where
  pendingNonneg := regular.pendingNonneg
  currentNonneg := regular.currentNonneg
  stampedAt := by
    intro pair message queued
    rcases mem_enqueue.mp queued with before | ⟨-, different⟩
    · exact regular.stampedAt pair message before
    · cases different
  grantAt := by
    intro pair queued
    rcases mem_enqueue.mp queued with before | ⟨same, -⟩
    · exact regular.grantAt pair before
    · rw [same]
      exact le_refl _
  oneGrant := by
    obtain ⟨advancing, noGrant⟩ := regular.advancing_of_scheduled scheduled
    have counted : view.scheduleGrant.grants = 1 := by
      rw [DeliveryQueue.scheduleGrant, enqueue, if_pos rfl]
      exact congrArg Nat.succ noGrant
    have mode : view.scheduleGrant.timeAdvanceMode = view.timeAdvanceMode := rfl
    rw [counted, mode, if_neg advancing]
    rfl
  enabling := regular.enabling

theorem Regular.checked
    {view after : DeliveryQueue}
    (regular : view.Regular) (checked : Checked view after) :
    after.Regular := by
  cases checked with
  | unchanged => exact regular
  | granted scheduled => exact regular.scheduleGrant scheduled

/-- Any other message can be queued where it belongs. -/
theorem Regular.enqueue
    (regular : view.Regular)
    (noGrant : message ≠ .timeAdvanceGranted)
    (stamped :
      ∀ timeStamped, message = .timeStamped timeStamped →
        pair = ⟨timeStamped.timeStamp, -1⟩) :
    (view.enqueue pair message).Regular where
  pendingNonneg := regular.pendingNonneg
  currentNonneg := regular.currentNonneg
  stampedAt := by
    intro other timeStamped queued
    rcases mem_enqueue.mp queued with before | ⟨same, equal⟩
    · exact regular.stampedAt other timeStamped before
    · exact same.trans (stamped timeStamped equal.symm)
  grantAt := by
    intro other queued
    rcases mem_enqueue.mp queued with before | ⟨-, equal⟩
    · exact regular.grantAt other before
    · exact absurd equal.symm noGrant
  oneGrant := by
    have counted : (view.enqueue pair message).grants = view.grants := by
      rw [DeliveryQueue.enqueue, if_neg noGrant, Nat.add_zero]
    rw [counted]
    exact regular.oneGrant
  enabling := regular.enabling

/-- The pending time of an advance can be lowered. -/
theorem Regular.lower
    {view : DeliveryQueue}
    (regular : view.Regular)
    {pending : LogicalTimePair}
    (nonneg : 0 ≤ pending.second)
    (lower : pending ≤ view.pending) :
    Regular { view with pending := pending } where
  pendingNonneg := nonneg
  currentNonneg := regular.currentNonneg
  stampedAt := regular.stampedAt
  grantAt := fun pair queued => lower.trans (regular.grantAt pair queued)
  oneGrant := regular.oneGrant
  enabling := regular.enabling

/-- As long as no grant is queued the pending time can change. -/
theorem Regular.withPending
    {view : DeliveryQueue}
    (regular : view.Regular)
    (noGrant :
      ∀ pair, QueuedMessage.timeAdvanceGranted ∉ view.messagesAt pair)
    {pending : LogicalTimePair}
    (nonneg : 0 ≤ pending.second) :
    Regular { view with pending := pending } where
  pendingNonneg := nonneg
  currentNonneg := regular.currentNonneg
  stampedAt := regular.stampedAt
  grantAt := fun pair queued => absurd queued (noGrant pair)
  oneGrant := regular.oneGrant
  enabling := regular.enabling

/-- Time regulation is requested only while no advance is pending. -/
theorem Regular.withRegulation
    (regular : view.Regular) (mode : TimeRegulationMode)
    (settled :
      mode = .timeRegulationEnablePending →
        view.timeAdvanceMode = .timeAdvanceGranted) :
    Regular { view with timeRegulationMode := mode } where
  pendingNonneg := regular.pendingNonneg
  currentNonneg := regular.currentNonneg
  stampedAt := regular.stampedAt
  grantAt := regular.grantAt
  oneGrant := regular.oneGrant
  enabling := settled

theorem Regular.withConstrained
    (regular : view.Regular) (mode : TimeConstrainedMode) :
    Regular { view with timeConstrainedMode := mode } where
  pendingNonneg := regular.pendingNonneg
  currentNonneg := regular.currentNonneg
  stampedAt := regular.stampedAt
  grantAt := regular.grantAt
  oneGrant := regular.oneGrant
  enabling := regular.enabling

theorem Regular.withGALT
    (regular : view.Regular) (galt : Option Int) :
    Regular { view with galt := galt } where
  pendingNonneg := regular.pendingNonneg
  currentNonneg := regular.currentNonneg
  stampedAt := regular.stampedAt
  grantAt := regular.grantAt
  oneGrant := regular.oneGrant
  enabling := regular.enabling

/-- A callback takes over the pending time. -/
theorem Regular.withCurrent
    (regular : view.Regular) :
    Regular { view with current := view.pending } where
  pendingNonneg := regular.pendingNonneg
  currentNonneg := regular.pendingNonneg
  stampedAt := regular.stampedAt
  grantAt := regular.grantAt
  oneGrant := regular.oneGrant
  enabling := regular.enabling

/-- Messages other than grants can be removed. -/
theorem Regular.removed
    {view : DeliveryQueue}
    (regular : view.Regular)
    {messagesAt : LogicalTimePair → List QueuedMessage}
    (removed :
      ∀ pair message, message ∈ messagesAt pair →
        message ∈ view.messagesAt pair) :
    Regular { view with messagesAt := messagesAt } where
  pendingNonneg := regular.pendingNonneg
  currentNonneg := regular.currentNonneg
  stampedAt := fun pair message queued =>
    regular.stampedAt pair message (removed pair _ queued)
  grantAt := fun pair queued => regular.grantAt pair (removed pair _ queued)
  oneGrant := regular.oneGrant
  enabling := regular.enabling

/-- Dispatching the grant ends the advance. -/
theorem Regular.granted
    {view : DeliveryQueue}
    {messagesAt : LogicalTimePair → List QueuedMessage} {grants : Nat}
    (regular :
      Regular { view with grants := grants + 1 })
    (removed :
      ∀ pair message, message ∈ messagesAt pair →
        message ∈ view.messagesAt pair) :
    Regular
      { view with
        messagesAt := messagesAt
        grants := grants
        current := view.pending
        timeAdvanceMode := .timeAdvanceGranted } where
  pendingNonneg := regular.pendingNonneg
  currentNonneg := regular.pendingNonneg
  stampedAt := fun pair message queued =>
    regular.stampedAt pair message (removed pair _ queued)
  grantAt := fun pair queued => regular.grantAt pair (removed pair _ queued)
  oneGrant := by
    have one := regular.oneGrant
    dsimp only at one ⊢
    rw [if_pos rfl]
    split at one <;> omega
  enabling := fun _ => rfl

/-- A request is made only while no advance is pending. -/
theorem Regular.advances
    {mode : TimeAdvanceMode}
    (regular : view.Regular)
    (granted : view.timeAdvanceMode = .timeAdvanceGranted)
    (notEnabling : view.timeRegulationMode ≠ .timeRegulationEnablePending)
    (noGrant :
      ∀ pair, QueuedMessage.timeAdvanceGranted ∉ view.messagesAt pair)
    (requests : mode ≠ .timeAdvanceGranted)
    (advances : Advances view mode after) :
    after.Regular := by
  obtain ⟨noGrants, notScheduled⟩ := regular.settled granted
  have left : ∀ pending : LogicalTimePair, 0 ≤ pending.second →
      Regular
        { view with
          timeAdvanceMode := mode
          pending := pending
          scheduled := true } := by
    intro pending nonneg
    exact
      { pendingNonneg := nonneg
        currentNonneg := regular.currentNonneg
        stampedAt := regular.stampedAt
        grantAt := fun pair queued => absurd queued (noGrant pair)
        oneGrant := by
          dsimp only
          rw [noGrants, if_neg requests]
          rfl
        enabling := fun pending => absurd pending notEnabling }
  cases advances with
  | scheduled pending nonneg => exact left pending nonneg
  | queued pending nonneg =>
      have scheduled := (left pending nonneg).scheduleGrant rfl
      have same :
          DeliveryQueue.scheduleGrant
              { view with
                timeAdvanceMode := mode
                pending := pending
                scheduled := true } =
            DeliveryQueue.enqueue
              { view with timeAdvanceMode := mode, pending := pending }
              pending .timeAdvanceGranted := by
        simp only [DeliveryQueue.scheduleGrant, DeliveryQueue.enqueue,
          notScheduled]
      rwa [same] at scheduled

end DeliveryQueue
end TimeManagement
end OpenRTI
