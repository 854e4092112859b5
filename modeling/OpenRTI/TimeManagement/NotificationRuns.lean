import OpenRTI.TimeManagement.Ambassador
import OpenRTI.TimeManagement.Notifications

/-!
# No message is missed

A federate is run with a history of what was queued, of the handles that were
set and of the signals to them.  As long as a handle is set where the queue has
an empty list if and only if it has a message, the handle that is set has been
signalled behind every queued message.
-/

namespace OpenRTI
namespace TimeManagement

open Foundation

inductive NotificationEvent
  | queued (message : QueuedMessage)
  | handleSet (notificationHandle : Option NotificationHandle)
  | signalled (notificationHandle : NotificationHandle)
  deriving DecidableEq

namespace TemplateTimeManagement

/-- The messages that are in the queue after a step and were not before. -/
def newMessages (self after : TemplateTimeManagement) : List QueuedMessage :=
  after.queuedMessages.diff self.queuedMessages

def newSignals
    (self after : TemplateTimeManagement) : List NotificationHandle :=
  after.signalled.drop self.signalled.length

/-- What a step adds to the history.  The signals of a call follow what it
queues or sets. -/
def events
    (self after : TemplateTimeManagement)
    (input : FederateInput) : List NotificationEvent :=
  (match input with
    | .setNotificationHandle notificationHandle =>
        [.handleSet notificationHandle]
    | _ => (self.newMessages after).map .queued) ++
    (self.newSignals after).map .signalled

/-- A list of time stamped messages is empty. -/
def hasEmptyList (self : TemplateTimeManagement) : Bool :=
  self.logicalTimeMessageListMap.entries.any fun entry => entry.2.isEmpty

/-- A time stamped message is queued. -/
def hasFilledList (self : TemplateTimeManagement) : Bool :=
  self.logicalTimeMessageListMap.entries.any fun entry => !entry.2.isEmpty

/-- A handle is set while a receive order message is queued, or where there is
an empty list if and only if there is one with a message. -/
def findsMessages (self : TemplateTimeManagement) : FederateInput → Bool
  | .setNotificationHandle (some _) =>
      !self.receiveOrderMessages.isEmpty ||
        self.hasEmptyList = self.hasFilledList
  | _ => true

theorem hasFilledList_iff (self : TemplateTimeManagement) :
    self.hasFilledList = true ↔
      KeyedQueue.values self.logicalTimeMessageListMap ≠ [] := by
  rw [hasFilledList, KeyedQueue.values, Ne, List.flatMap_eq_nil_iff,
    List.any_eq_true]
  constructor
  · rintro ⟨entry, member, filled⟩ allEmpty
    rw [allEmpty entry member] at filled
    cases filled
  · intro notEmpty
    by_contra noneFilled
    apply notEmpty
    intro entry member
    by_contra filled
    apply noneFilled
    refine ⟨entry, member, ?_⟩
    rw [Bool.not_eq_true', ← Bool.not_eq_true, List.isEmpty_iff]
    exact filled

/-- Under the condition a handle is signalled at once if and only if there is a
message. -/
theorem setNotificationHandle_signals
    {self : TemplateTimeManagement}
    {notificationHandle : NotificationHandle}
    (finds :
      self.findsMessages (.setNotificationHandle (some notificationHandle)) =
        true) :
    (self.setNotificationHandle (some notificationHandle)).signalled =
      self.signalled ++
        if self.queuedMessages = [] then [] else [notificationHandle] := by
  have empty : self.queuedMessages = [] ↔
      self.receiveOrderMessages = [] ∧ self.hasFilledList = false := by
    rw [queuedMessages, List.append_eq_nil_iff, List.map_eq_nil_iff,
      ← Bool.not_eq_true, hasFilledList_iff, not_not]
  rw [findsMessages, Bool.or_eq_true, decide_eq_true_eq] at finds
  unfold setNotificationHandle
  dsimp only
  by_cases received : self.receiveOrderMessages = []
  · have same : self.hasEmptyList = self.hasFilledList := by
      refine finds.resolve_left ?_
      rw [received]
      exact Bool.false_ne_true
    have looked : (self.logicalTimeMessageListMap.entries.any fun entry =>
        entry.2.isEmpty) = self.hasFilledList := same
    rw [received, List.isEmpty_nil, Bool.not_true, Bool.false_or, looked]
    cases filled : self.hasFilledList with
    | true =>
        have some : ¬self.queuedMessages = [] := by
          rw [empty, filled]
          exact fun both => Bool.false_ne_true both.2.symm
        rw [if_neg some]
        rfl
    | false =>
        rw [if_pos (empty.mpr ⟨received, filled⟩), List.append_nil]
        rfl
  · have some : ¬self.queuedMessages = [] := by
      rw [empty]
      exact fun both => received both.1
    have pending : (!self.receiveOrderMessages.isEmpty) = true := by
      rw [Bool.not_eq_true', ← Bool.not_eq_true, List.isEmpty_iff]
      exact received
    rw [pending, Bool.true_or, if_neg some]
    rfl

variable (self : TemplateTimeManagement)
variable (notificationHandle : Option NotificationHandle)

theorem queuedMessages_setNotificationHandle :
    (self.setNotificationHandle notificationHandle).queuedMessages =
      self.queuedMessages := by
  unfold setNotificationHandle
  dsimp only
  split <;> rfl

theorem notificationHandle_setNotificationHandle :
    (self.setNotificationHandle notificationHandle).notificationHandle =
      notificationHandle := by
  unfold setNotificationHandle
  dsimp only
  split <;> rfl

end TemplateTimeManagement

open TemplateTimeManagement

/-- A federate with the history of its notifications. -/
structure NotificationState where
  federate : TemplateTimeManagement
  history : List NotificationEvent

namespace NotificationState

/-- The runs of one federate, whatever it is told. -/
def system : TransitionSystem NotificationState FederateInput where
  initial := ⟨.new, []⟩
  next state input :=
    (input.apply state.federate).map fun federate =>
      ⟨federate, state.history ++ state.federate.events federate input⟩

/-- The handle that is set has been signalled behind every queued message, and
since it was set. -/
def NoLostWakeup (state : NotificationState) : Prop :=
  ∀ notificationHandle message,
    state.federate.notificationHandle = some notificationHandle →
    message ∈ state.federate.queuedMessages →
    ∃ earlier later,
      state.history = earlier ++ .signalled notificationHandle :: later ∧
        .queued message ∉ later ∧
        ∀ other, .handleSet other ∉ later

/-- A handle is not signalled when it is set while nothing is queued. -/
def NoIdleSignal (state : NotificationState) (input : FederateInput) : Prop :=
  ∀ notificationHandle,
    input = .setNotificationHandle (some notificationHandle) →
    state.federate.queuedMessages = [] →
    (state.federate.setNotificationHandle
      (some notificationHandle)).signalled = state.federate.signalled

variable {state : NotificationState}

/-- A step that only adds messages with a signal behind them. -/
theorem NoLostWakeup.tells
    (told : state.NoLostWakeup)
    {after : TemplateTimeManagement}
    (tells : state.federate.Tells after) :
    NoLostWakeup
      ⟨after,
        state.history ++
          ((state.federate.newMessages after).map .queued ++
            (state.federate.newSignals after).map .signalled)⟩ := by
  intro notificationHandle message isSet member
  have before : state.federate.notificationHandle = some notificationHandle :=
    tells.notificationHandle.symm.trans isSet
  obtain ⟨times, signalled, added⟩ := tells.signalled
  have signals : state.federate.newSignals after =
      List.replicate times notificationHandle := by
    rw [newSignals]
    change List.drop _ (notifications after).signalled = _
    rw [signalled]
    exact (List.drop_left).trans
      (@Notifications.signals_of_handle state.federate.notifications _ before
        times)
  cases times with
  | zero =>
      have fewer := added rfl
      have present : message ∈ state.federate.queuedMessages :=
        List.count_pos_iff.mp
          ((List.count_pos_iff.mpr member).trans_le (fewer message))
      have nothing : state.federate.newMessages after = [] := by
        rw [newMessages]
        apply List.eq_nil_iff_forall_not_mem.mpr
        intro other isNew
        have more := List.count_pos_iff.mpr isNew
        have least : after.queuedMessages.count other ≤
            state.federate.queuedMessages.count other := fewer other
        rw [List.count_diff] at more
        omega
      rw [signals, nothing]
      rw [List.map_nil, List.replicate_zero, List.map_nil, List.append_nil,
        List.append_nil]
      exact told notificationHandle message before present
  | succ times =>
      refine ⟨state.history ++ (state.federate.newMessages after).map .queued,
        List.replicate times (.signalled notificationHandle), ?_, ?_, ?_⟩
      · dsimp only
        rw [signals, List.map_replicate, List.replicate_succ,
          List.append_assoc]
      · intro later
        cases List.eq_of_mem_replicate later
      · intro other later
        cases List.eq_of_mem_replicate later

/-- Setting a handle under the condition. -/
theorem NoLostWakeup.handleSet
    {notificationHandle : Option NotificationHandle}
    (finds :
      state.federate.findsMessages
        (.setNotificationHandle notificationHandle) = true) :
    NoLostWakeup
      ⟨state.federate.setNotificationHandle notificationHandle,
        state.history ++
          state.federate.events
            (state.federate.setNotificationHandle notificationHandle)
            (.setNotificationHandle notificationHandle)⟩ := by
  intro handle message isSet member
  have isSome : notificationHandle = some handle :=
    (notificationHandle_setNotificationHandle _ _).symm.trans isSet
  subst isSome
  have some : ¬state.federate.queuedMessages = [] := by
    intro nothing
    have queued : message ∈ state.federate.queuedMessages := by
      rw [← state.federate.queuedMessages_setNotificationHandle (some handle)]
      exact member
    rw [nothing] at queued
    cases queued
  refine ⟨state.history ++ [.handleSet (.some handle)], [], ?_,
    List.not_mem_nil, fun _ => List.not_mem_nil⟩
  have signals : state.federate.newSignals
      (state.federate.setNotificationHandle (.some handle)) = [handle] := by
    rw [newSignals, setNotificationHandle_signals finds, if_neg some]
    exact List.drop_left
  dsimp only
  rw [events, signals, List.append_assoc]
  rfl

theorem NoLostWakeup.step
    {before after : NotificationState} {input : FederateInput}
    (told : before.NoLostWakeup)
    (finds : before.federate.findsMessages input = true)
    (stepped : system.next before input = some after) :
    after.NoLostWakeup := by
  obtain ⟨federate, applied, equal⟩ := Option.map_eq_some_iff.mp stepped
  rw [← equal]
  cases input with
  | call service => exact told.tells (call_tells
      (FederateInput.apply_call_eq_some.mp applied).2)
  | receive message => exact told.tells (acceptInternalMessage_tells applied)
  | dispatchCallback =>
      cases applied
      exact told.tells (dispatchCallback_tells _)
  | callbackMessageAvailable =>
      cases applied
      exact told.tells (callbackMessageAvailable_tells _)
  | eraseMessagesForObjectInstance objectInstanceHandle =>
      cases applied
      exact told.tells (eraseMessagesForObjectInstance_tells _ _)
  | setNotificationHandle notificationHandle =>
      cases applied
      exact NoLostWakeup.handleSet finds

theorem noLostWakeup_initial : system.initial.NoLostWakeup := by
  intro notificationHandle message isSet
  cases isSet

/-- In every run in which a handle is only set where there is an empty list if
and only if there is a message, no message is missed, and no handle is signalled
for nothing when it is set. -/
theorem noLostWakeup
    {state : NotificationState}
    (reachable : system.ReachableUnder
      (fun before input => before.federate.findsMessages input = true) state) :
    state.NoLostWakeup ∧
      ∀ input, state.federate.findsMessages input = true →
        state.NoIdleSignal input := by
  constructor
  · refine TransitionSystem.ReachableUnder.invariant NoLostWakeup
      noLostWakeup_initial ?_ reachable
    intro before input after told finds stepped
    exact told.step finds stepped
  · intro input finds notificationHandle isSet nothing
    subst isSet
    rw [setNotificationHandle_signals finds, if_pos nothing, List.append_nil]

/-- A message is queued for a handle that is set. -/
def signalledRun : List FederateInput :=
  [.setNotificationHandle (some 1), .receive (.timeStamped ⟨2, 6, some 3⟩)]

theorem noLostWakeup_signalled :
    ∃ state, (system.restrict fun before input =>
        before.federate.findsMessages input).run system.initial signalledRun =
          some state ∧
      state.federate.queuedMessages ≠ [] ∧
      state.NoLostWakeup := by
  refine ⟨_, rfl, by decide, ?_⟩
  have reachable : (system.restrict fun before input =>
      before.federate.findsMessages input).Reachable _ :=
    TransitionSystem.reachable_of_run signalledRun rfl
  exact (noLostWakeup
    (TransitionSystem.reachableUnder_of_restrict reachable)).1

/-- The handle is set after the message was queued. -/
def missedRun : List FederateInput :=
  [.receive (.timeStamped ⟨2, 6, some 3⟩), .setNotificationHandle (some 1)]

/-- A handle that is set while a time stamped message is queued is not
signalled. -/
theorem noLostWakeup_fails :
    ¬∀ state, system.Reachable state →
      state.NoLostWakeup ∧ ∀ input, state.NoIdleSignal input := by
  intro every
  have reachable : system.Reachable _ :=
    TransitionSystem.reachable_of_run missedRun rfl
  obtain ⟨earlier, later, history, -⟩ := (every _ reachable).1 1
    (.timeStamped ⟨2, 6, some 3⟩) rfl (by decide)
  have signalled : NotificationEvent.signalled 1 ∈
      earlier ++ .signalled 1 :: later :=
    List.mem_append_right _ List.mem_cons_self
  rw [← history] at signalled
  exact absurd signalled (by decide)

end NotificationState
end TimeManagement
end OpenRTI
