import Mathlib.Data.Finset.Max
import Mathlib.Data.List.Chain
import Mathlib.Tactic.Common
import OpenRTI.Foundation.TransitionSystem

/-!
# Publication and subscription state of a server node

`BroadcastConnectHandleSet` is the set of connects that publish, or subscribe
to, one entity at a server node.  Each change returns what the node has to tell
its other connects.  `PublishSubscribe` pairs two such sets.

The last part carries the returned propagations out and states what the
connects of the node have been told.
-/

namespace OpenRTI
namespace ServerModel

/-- A valid connect handle; an invalid one is `none` where the source has one. -/
abbrev ConnectHandle := Nat

/-- A `std::set` of connect handles. -/
abbrev ConnectHandleSet := Finset ConnectHandle

inductive PropagationType
  | propagateBroadcast
  | propagateSend
  | propagateNone
  deriving DecidableEq

inductive PublicationType
  | unpublished
  | published
  deriving DecidableEq

inductive SubscriptionType
  | unsubscribed
  | subscribedPassive
  | subscribedActive
  deriving DecidableEq

abbrev PropagationTypeConnectHandlePair :=
  PropagationType × Option ConnectHandle

/-- The first handle of the ordered set, where there is one. -/
def ConnectHandleSet.begin (connectHandleSet : ConnectHandleSet) :
    Option ConnectHandle :=
  connectHandleSet.min

theorem ConnectHandleSet.begin_of_card_eq_one
    {connectHandleSet : ConnectHandleSet}
    (size : connectHandleSet.card = 1) :
    ∃ exclusive,
      connectHandleSet = {exclusive} ∧
        ConnectHandleSet.begin connectHandleSet = some exclusive := by
  obtain ⟨exclusive, equal⟩ := Finset.card_eq_one.mp size
  refine ⟨exclusive, equal, ?_⟩
  rw [ConnectHandleSet.begin, equal, Finset.min_singleton]
  rfl

structure BroadcastConnectHandleSet where
  connectHandleSet : ConnectHandleSet := ∅
  deriving DecidableEq

namespace BroadcastConnectHandleSet

/-- Insert a connect and return what to tell the other connects. -/
def insert
    (self : BroadcastConnectHandleSet)
    (connectHandle : ConnectHandle) :
    BroadcastConnectHandleSet × PropagationTypeConnectHandlePair :=
  let previousExclusiveConnectHandle :=
    if self.connectHandleSet.card = 1 then
      ConnectHandleSet.begin self.connectHandleSet
    else none
  if connectHandle ∈ self.connectHandleSet then
    (self, .propagateNone, none)
  else
    ({ connectHandleSet :=
        Insert.insert connectHandle self.connectHandleSet },
      match self.connectHandleSet.card with
      | 0 => (.propagateBroadcast, none)
      | 1 => (.propagateSend, previousExclusiveConnectHandle)
      | _ => (.propagateNone, none))

/-- Erase a connect and return what to tell the other connects. -/
def erase
    (self : BroadcastConnectHandleSet)
    (connectHandle : ConnectHandle) :
    BroadcastConnectHandleSet × PropagationTypeConnectHandlePair :=
  if connectHandle ∉ self.connectHandleSet then
    (self, .propagateNone, none)
  else
    let remaining := self.connectHandleSet.erase connectHandle
    ({ connectHandleSet := remaining },
      match remaining.card with
      | 0 => (.propagateBroadcast, none)
      | 1 => (.propagateSend, ConnectHandleSet.begin remaining)
      | _ => (.propagateNone, none))

def empty (self : BroadcastConnectHandleSet) : Bool :=
  self.connectHandleSet = ∅

def contains
    (self : BroadcastConnectHandleSet)
    (connectHandle : ConnectHandle) : Bool :=
  connectHandle ∈ self.connectHandleSet

/-- Whether the set holds a connect other than the given one. -/
def containsMoreThan
    (self : BroadcastConnectHandleSet)
    (connectHandle : ConnectHandle) : Bool :=
  if 1 < self.connectHandleSet.card then true
  else
    self.connectHandleSet.card = 1 ∧
      ConnectHandleSet.begin self.connectHandleSet ≠ some connectHandle

variable (self : BroadcastConnectHandleSet)

/-- `containsMoreThan` says what its name says. -/
theorem containsMoreThan_iff
    (connectHandle : ConnectHandle) :
    self.containsMoreThan connectHandle = true ↔
      ∃ other ∈ self.connectHandleSet, other ≠ connectHandle := by
  unfold containsMoreThan
  by_cases several : 1 < self.connectHandleSet.card
  · simpa [several] using Finset.exists_mem_ne several connectHandle
  · by_cases size : self.connectHandleSet.card = 1
    · obtain ⟨exclusive, equal, first⟩ :=
        ConnectHandleSet.begin_of_card_eq_one size
      rw [first, equal]
      simp
    · have none : self.connectHandleSet = ∅ :=
        Finset.card_eq_zero.mp (by omega)
      simp [none]

theorem insert_of_mem
    {self : BroadcastConnectHandleSet} {connectHandle : ConnectHandle}
    (present : connectHandle ∈ self.connectHandleSet) :
    self.insert connectHandle = (self, .propagateNone, none) := by
  simp [insert, present]

theorem erase_of_notMem
    {self : BroadcastConnectHandleSet} {connectHandle : ConnectHandle}
    (absent : connectHandle ∉ self.connectHandleSet) :
    self.erase connectHandle = (self, .propagateNone, none) := by
  simp [erase, absent]

@[simp] theorem insert_connectHandleSet
    (connectHandle : ConnectHandle) :
    (self.insert connectHandle).1.connectHandleSet =
      Insert.insert connectHandle self.connectHandleSet := by
  by_cases present : connectHandle ∈ self.connectHandleSet
  · rw [insert_of_mem present, Finset.insert_eq_of_mem present]
  · simp [insert, present]

@[simp] theorem erase_connectHandleSet
    (connectHandle : ConnectHandle) :
    (self.erase connectHandle).1.connectHandleSet =
      self.connectHandleSet.erase connectHandle := by
  by_cases present : connectHandle ∈ self.connectHandleSet
  · simp [erase, present]
  · rw [erase_of_notMem present, Finset.erase_eq_of_notMem present]

end BroadcastConnectHandleSet

/-- Publishing and subscribed connects of one entity. -/
structure PublishSubscribe where
  publishedConnects : BroadcastConnectHandleSet := {}
  subscribedConnects : BroadcastConnectHandleSet := {}
  activeSubscribedConnects : BroadcastConnectHandleSet := {}
  /-- Includes the connects subscribed to the entity at a base class. -/
  cumulativeSubscribedConnectHandleSet : ConnectHandleSet := ∅
  deriving DecidableEq

namespace PublishSubscribe

def setPublicationType
    (self : PublishSubscribe)
    (connectHandle : ConnectHandle)
    (publicationType : PublicationType) :
    PublishSubscribe × PropagationTypeConnectHandlePair :=
  let changed :=
    if publicationType = .published then
      self.publishedConnects.insert connectHandle
    else self.publishedConnects.erase connectHandle
  ({ self with publishedConnects := changed.1 }, changed.2)

def getPublicationType
    (self : PublishSubscribe)
    (connectHandle : ConnectHandle) : PublicationType :=
  if self.publishedConnects.contains connectHandle then .published
  else .unpublished

/-- Only the set of all subscribed connects is maintained: an active
subscription is entered like a passive one. -/
def setSubscriptionType
    (self : PublishSubscribe)
    (connectHandle : ConnectHandle)
    (subscriptionType : SubscriptionType) :
    PublishSubscribe × PropagationTypeConnectHandlePair :=
  let changed :=
    if subscriptionType ≠ .unsubscribed then
      self.subscribedConnects.insert connectHandle
    else self.subscribedConnects.erase connectHandle
  ({ self with subscribedConnects := changed.1 }, changed.2)

def getSubscriptionType
    (self : PublishSubscribe)
    (connectHandle : ConnectHandle) : SubscriptionType :=
  if self.activeSubscribedConnects.contains connectHandle then
    .subscribedActive
  else if self.subscribedConnects.contains connectHandle then
    .subscribedPassive
  else .unsubscribed

def getSubscriptionTypeToConnect
    (self : PublishSubscribe)
    (connectHandle : ConnectHandle) : SubscriptionType :=
  if self.activeSubscribedConnects.containsMoreThan connectHandle then
    .subscribedActive
  else if self.subscribedConnects.containsMoreThan connectHandle then
    .subscribedPassive
  else .unsubscribed

/-- Enter or remove a connect of the cumulative set and return whether that
changed the set. -/
def updateCumulativeSubscribedConnectHandleSet
    (self : PublishSubscribe)
    (connectHandle : ConnectHandle)
    (subscribe : Bool) : PublishSubscribe × Bool :=
  let cumulative := self.cumulativeSubscribedConnectHandleSet
  if subscribe then
    ({ self with
        cumulativeSubscribedConnectHandleSet :=
          Insert.insert connectHandle cumulative },
      connectHandle ∉ cumulative)
  else
    ({ self with
        cumulativeSubscribedConnectHandleSet :=
          cumulative.erase connectHandle },
      connectHandle ∈ cumulative)

/-- Whether a connect is subscribed to the entity itself. -/
def isSubscribed
    (connectHandle : ConnectHandle)
    (self : PublishSubscribe) : Bool :=
  self.getSubscriptionType connectHandle ≠ .unsubscribed

/-- Whether a connect is subscribed to the entity itself or at a base class. -/
def isCumulativelySubscribed
    (connectHandle : ConnectHandle)
    (self : PublishSubscribe) : Bool :=
  connectHandle ∈ self.cumulativeSubscribedConnectHandleSet

variable {other : ConnectHandle}

theorem getSubscriptionType_setSubscriptionType_of_ne
    {connectHandle : ConnectHandle}
    (different : other ≠ connectHandle)
    (subscriptionType : SubscriptionType) (self : PublishSubscribe) :
    (self.setSubscriptionType connectHandle subscriptionType).1.getSubscriptionType
        other = self.getSubscriptionType other := by
  have same : (self.setSubscriptionType connectHandle
      subscriptionType).1.subscribedConnects.contains other =
        self.subscribedConnects.contains other := by
    rw [setSubscriptionType]
    cases subscriptionType <;>
      simp [BroadcastConnectHandleSet.contains, different]
  have active : (self.setSubscriptionType connectHandle
      subscriptionType).1.activeSubscribedConnects =
        self.activeSubscribedConnects := rfl
  rw [getSubscriptionType, getSubscriptionType, active, same]

theorem getSubscriptionType_setSubscriptionType_ne
    {connectHandle : ConnectHandle} {subscriptionType : SubscriptionType}
    (subscribes : subscriptionType ≠ .unsubscribed)
    (self : PublishSubscribe) :
    (self.setSubscriptionType connectHandle subscriptionType).1.getSubscriptionType
        connectHandle ≠ .unsubscribed := by
  have present : (self.setSubscriptionType connectHandle
      subscriptionType).1.subscribedConnects.contains connectHandle = true := by
    rw [setSubscriptionType, if_pos subscribes]
    simp [BroadcastConnectHandleSet.contains]
  rw [getSubscriptionType, present]
  split
  · simp
  · simp

/-- An update says whether it changes what the connect has cumulatively. -/
theorem updateCumulativeSubscribedConnectHandleSet_snd
    (connectHandle : ConnectHandle) (subscribe : Bool)
    (self : PublishSubscribe) :
    (self.updateCumulativeSubscribedConnectHandleSet connectHandle subscribe).2 =
      (self.isCumulativelySubscribed connectHandle != subscribe) := by
  rw [updateCumulativeSubscribedConnectHandleSet, isCumulativelySubscribed]
  cases subscribe <;> simp

theorem isCumulativelySubscribed_update
    (connectHandle : ConnectHandle) (subscribe : Bool)
    (self : PublishSubscribe) :
    (self.updateCumulativeSubscribedConnectHandleSet connectHandle
      subscribe).1.isCumulativelySubscribed connectHandle = subscribe := by
  rw [updateCumulativeSubscribedConnectHandleSet, isCumulativelySubscribed]
  cases subscribe <;> simp

theorem isCumulativelySubscribed_update_of_ne
    {connectHandle : ConnectHandle}
    (different : other ≠ connectHandle)
    (subscribe : Bool) (self : PublishSubscribe) :
    (self.updateCumulativeSubscribedConnectHandleSet connectHandle
        subscribe).1.isCumulativelySubscribed other =
      self.isCumulativelySubscribed other := by
  rw [updateCumulativeSubscribedConnectHandleSet, isCumulativelySubscribed,
    isCumulativelySubscribed]
  cases subscribe <;> simp [different]

@[simp] theorem isSubscribed_update
    (connectHandle other : ConnectHandle) (subscribe : Bool)
    (self : PublishSubscribe) :
    (self.updateCumulativeSubscribedConnectHandleSet connectHandle
      subscribe).1.isSubscribed other = self.isSubscribed other := by
  rw [updateCumulativeSubscribedConnectHandleSet]
  cases subscribe with
  | false => rfl
  | true => rfl

theorem isSubscribed_setSubscriptionType_of_ne
    {connectHandle : ConnectHandle}
    (different : other ≠ connectHandle)
    (subscriptionType : SubscriptionType) (self : PublishSubscribe) :
    (self.setSubscriptionType connectHandle subscriptionType).1.isSubscribed other =
      self.isSubscribed other := by
  rw [isSubscribed, getSubscriptionType_setSubscriptionType_of_ne different,
    isSubscribed]

end PublishSubscribe

/-! ## What the connects of a node have been told

The node carries each returned propagation out: it tells every connect of the
node, one of them, or none that the entity is now in use, or no longer is.
-/

/-- A change of the set by one of the node's connects. -/
inductive ConnectChange
  | insert (connectHandle : ConnectHandle)
  | erase (connectHandle : ConnectHandle)
  deriving DecidableEq

namespace ConnectChange

def connectHandle : ConnectChange → ConnectHandle
  | .insert connectHandle => connectHandle
  | .erase connectHandle => connectHandle

/-- What the message about a change says. -/
def value : ConnectChange → Bool
  | .insert _ => true
  | .erase _ => false

def apply
    (change : ConnectChange)
    (set : BroadcastConnectHandleSet) :
    BroadcastConnectHandleSet × PropagationTypeConnectHandlePair :=
  match change with
  | .insert connectHandle => set.insert connectHandle
  | .erase connectHandle => set.erase connectHandle

end ConnectChange

/-- A set at a node, and for each connect the values it has been told, oldest
first. -/
structure NeighbourKnowledge where
  set : BroadcastConnectHandleSet
  told : ConnectHandle → List Bool

namespace NeighbourKnowledge

/-- Whether a propagation reaches a connect of the node. -/
def reaches
    (changing : ConnectHandle)
    (propagation : PropagationTypeConnectHandlePair)
    (connectHandle : ConnectHandle) : Bool :=
  match propagation.1 with
  | .propagateBroadcast => connectHandle ≠ changing
  | .propagateSend => propagation.2 = some connectHandle
  | .propagateNone => false

/-- Apply a change and carry its propagation out. -/
def change
    (self : NeighbourKnowledge)
    (input : ConnectChange) : NeighbourKnowledge :=
  let result := input.apply self.set
  { set := result.1
    told := fun connectHandle =>
      if reaches input.connectHandle result.2 connectHandle then
        self.told connectHandle ++ [input.value]
      else self.told connectHandle }

/-- Inserting a connect tells exactly those that now see somebody else. -/
theorem reaches_insert
    (set : BroadcastConnectHandleSet)
    (changing connectHandle : ConnectHandle) :
    reaches changing (set.insert changing).2 connectHandle = true ↔
      set.containsMoreThan connectHandle = false ∧
        (set.insert changing).1.containsMoreThan connectHandle = true := by
  rw [← Bool.not_eq_true, BroadcastConnectHandleSet.containsMoreThan_iff,
    BroadcastConnectHandleSet.containsMoreThan_iff,
    BroadcastConnectHandleSet.insert_connectHandleSet]
  by_cases present : changing ∈ set.connectHandleSet
  · rw [BroadcastConnectHandleSet.insert_of_mem present,
      Finset.insert_eq_of_mem present]
    simp [reaches]
  rw [Finset.exists_mem_insert]
  rcases size : set.connectHandleSet.card with _ | _ | _
  · have nobody := Finset.card_eq_zero.mp size
    have told : (set.insert changing).2 = (.propagateBroadcast, none) := by
      simp [BroadcastConnectHandleSet.insert, nobody]
    rw [told, nobody]
    simpa [reaches] using ne_comm
  · obtain ⟨exclusive, equal, first⟩ :=
      ConnectHandleSet.begin_of_card_eq_one size
    have distinct : changing ≠ exclusive := by
      simpa [equal] using present
    have told : (set.insert changing).2 =
        (.propagateSend, some exclusive) := by
      simp [BroadcastConnectHandleSet.insert, present, size, first]
    rw [told, equal]
    simp only [reaches, Finset.mem_singleton, exists_eq_left]
    grind
  · -- Somebody else was and is there for everyone, and nobody is told.
    have other := Finset.exists_mem_ne
      (show 1 < set.connectHandleSet.card by omega) connectHandle
    have told : (set.insert changing).2 = (.propagateNone, none) := by
      simp [BroadcastConnectHandleSet.insert, present, size]
    rw [told]
    simp [reaches, other]

/-- Erasing a connect tells exactly those that no longer see anybody else. -/
theorem reaches_erase
    (set : BroadcastConnectHandleSet)
    (changing connectHandle : ConnectHandle) :
    reaches changing (set.erase changing).2 connectHandle = true ↔
      set.containsMoreThan connectHandle = true ∧
        (set.erase changing).1.containsMoreThan connectHandle = false := by
  rw [← Bool.not_eq_true, BroadcastConnectHandleSet.containsMoreThan_iff,
    BroadcastConnectHandleSet.containsMoreThan_iff,
    BroadcastConnectHandleSet.erase_connectHandleSet]
  by_cases present : changing ∈ set.connectHandleSet
  swap
  · rw [BroadcastConnectHandleSet.erase_of_notMem present,
      Finset.erase_eq_of_notMem present]
    simp [reaches]
  -- What is left after the change, and the connect that left.
  obtain ⟨remaining, remainingValue⟩ :
      ∃ remaining, remaining = set.connectHandleSet.erase changing := ⟨_, rfl⟩
  have before : set.connectHandleSet = Insert.insert changing remaining := by
    rw [remainingValue, Finset.insert_erase present]
  rw [← remainingValue, before, Finset.exists_mem_insert]
  rcases size : remaining.card with _ | _ | _
  · have nobody := Finset.card_eq_zero.mp size
    have told : (set.erase changing).2 = (.propagateBroadcast, none) := by
      simp [BroadcastConnectHandleSet.erase, present, ← remainingValue, size]
    rw [told, nobody]
    simpa [reaches] using ne_comm
  · obtain ⟨exclusive, equal, first⟩ :=
      ConnectHandleSet.begin_of_card_eq_one size
    have distinct : exclusive ≠ changing := by
      have member : exclusive ∈ set.connectHandleSet.erase changing := by
        simp [← remainingValue, equal]
      exact Finset.ne_of_mem_erase member
    have told : (set.erase changing).2 =
        (.propagateSend, some exclusive) := by
      simp [BroadcastConnectHandleSet.erase, present, ← remainingValue, size,
        first]
    rw [told, equal]
    simp only [reaches, Finset.mem_singleton, exists_eq_left]
    grind
  · have other := Finset.exists_mem_ne
      (show 1 < remaining.card by omega) connectHandle
    have told : (set.erase changing).2 = (.propagateNone, none) := by
      simp [BroadcastConnectHandleSet.erase, present, ← remainingValue, size]
    rw [told]
    simp [reaches, other]

variable (self : NeighbourKnowledge) (input : ConnectChange)

/-- A change tells a connect something exactly when `containsMoreThan` changes
for it, and then tells it the new value. -/
theorem reaches_change_iff
    (connectHandle : ConnectHandle) :
    reaches input.connectHandle (input.apply self.set).2 connectHandle =
        true ↔
      self.set.containsMoreThan connectHandle = !input.value ∧
        (self.change input).set.containsMoreThan connectHandle =
          input.value := by
  cases input with
  | insert changing => exact reaches_insert self.set changing connectHandle
  | erase changing => exact reaches_erase self.set changing connectHandle

/-- A change takes `containsMoreThan` to the value it tells, or leaves it. -/
theorem containsMoreThan_change
    (connectHandle : ConnectHandle)
    (before : self.set.containsMoreThan connectHandle = input.value) :
    (self.change input).set.containsMoreThan connectHandle = input.value := by
  cases input with
  | insert changing =>
      rw [ConnectChange.value,
        BroadcastConnectHandleSet.containsMoreThan_iff] at *
      obtain ⟨other, member, distinct⟩ := before
      refine ⟨other, ?_, distinct⟩
      simp [change, ConnectChange.apply, member]
  | erase changing =>
      rw [ConnectChange.value, ← Bool.not_eq_true,
        BroadcastConnectHandleSet.containsMoreThan_iff] at *
      rintro ⟨other, member, distinct⟩
      refine before ⟨other, ?_, distinct⟩
      simp only [change, ConnectChange.apply,
        BroadcastConnectHandleSet.erase_connectHandleSet] at member
      exact Finset.mem_of_mem_erase member

/-- The log of a connect grows exactly when `containsMoreThan` changes for it,
and by the new value. -/
theorem told_change
    (connectHandle : ConnectHandle) :
    (self.change input).told connectHandle =
      if (self.change input).set.containsMoreThan connectHandle =
          self.set.containsMoreThan connectHandle then
        self.told connectHandle
      else
        self.told connectHandle ++
          [(self.change input).set.containsMoreThan connectHandle] := by
  have reached := self.reaches_change_iff input connectHandle
  have kept := self.containsMoreThan_change input connectHandle
  rw [show (self.change input).told connectHandle =
    if reaches input.connectHandle (input.apply self.set).2 connectHandle then
      self.told connectHandle ++ [input.value]
    else self.told connectHandle from rfl]
  cases before : self.set.containsMoreThan connectHandle <;>
    cases after : (self.change input).set.containsMoreThan connectHandle <;>
    cases value : input.value <;>
    simp_all

/-- The node with a fixed set of connects, of which each may change the set. -/
def system
    (connects : ConnectHandleSet) :
    Foundation.TransitionSystem NeighbourKnowledge ConnectChange where
  initial := { set := {}, told := fun _ => [] }
  next self input :=
    if input.connectHandle ∈ connects then some (self.change input)
    else none

/-- The last value a connect has been told, at first that nobody is there. -/
def lastTold
    (self : NeighbourKnowledge)
    (connectHandle : ConnectHandle) : Bool :=
  (self.told connectHandle).getLastD false

/-- What a node keeps true of every connect: the last value told is the value
`containsMoreThan` has, and each value told differs from the one before. -/
def Exact
    (self : NeighbourKnowledge)
    (connectHandle : ConnectHandle) : Prop :=
  self.lastTold connectHandle = self.set.containsMoreThan connectHandle ∧
    List.IsChain (· ≠ ·) (false :: self.told connectHandle)

theorem Exact.initial (connectHandle : ConnectHandle) :
    Exact { set := {}, told := fun _ => [] } connectHandle := by
  simp [Exact, lastTold, BroadcastConnectHandleSet.containsMoreThan]

/-- Every change keeps the knowledge of every connect exact. -/
theorem Exact.change
    {self : NeighbourKnowledge} {connectHandle : ConnectHandle}
    (exact : self.Exact connectHandle) (input : ConnectChange) :
    (self.change input).Exact connectHandle := by
  obtain ⟨last, alternating⟩ := exact
  by_cases same : (self.change input).set.containsMoreThan connectHandle =
      self.set.containsMoreThan connectHandle
  · have log := self.told_change input connectHandle
    rw [if_pos same] at log
    exact ⟨by rw [lastTold, log, same]; exact last, by rwa [log]⟩
  · have log := self.told_change input connectHandle
    rw [if_neg same] at log
    refine ⟨by simp [lastTold, log], ?_⟩
    rw [log, ← List.cons_append, List.isChain_append]
    refine ⟨alternating, List.isChain_singleton _, ?_⟩
    intro previous previousLast next nextFirst
    have previousValue : previous = self.lastTold connectHandle := by
      rw [Option.mem_def, List.getLast?_cons] at previousLast
      rw [lastTold, List.getLastD_eq_getLast?]
      exact (Option.some.inj previousLast).symm
    simp only [List.head?_cons, Option.mem_def, Option.some.injEq] at nextFirst
    rw [previousValue, last, ← nextFirst]
    exact Ne.symm same

/-- In every run, each connect of the node has been told last whether some
other connect is in the set, and never the same value twice in a row. -/
theorem neighbourKnowledge_exact
    (connects : ConnectHandleSet)
    (self : NeighbourKnowledge)
    (reachable : (system connects).Reachable self)
    (connectHandle : ConnectHandle) :
    self.lastTold connectHandle = self.set.containsMoreThan connectHandle ∧
      List.IsChain (· ≠ ·) (false :: self.told connectHandle) := by
  refine Foundation.TransitionSystem.Reachable.invariant
    (fun state => state.Exact connectHandle)
    (Exact.initial connectHandle) ?_ reachable
  intro before input after exact stepped
  simp only [system] at stepped
  split at stepped
  · cases stepped
    exact exact.change input
  · cases stepped

/-- Connect 2 of three is told of connect 1, and that it is alone again. -/
theorem neighbourKnowledge_exact_alone_again :
    ∃ final,
      (system {1, 2, 3}).run (system {1, 2, 3}).initial
          [.insert 1, .insert 2, .erase 1] = some final ∧
        final.told 2 = [true, false] ∧
        final.lastTold 2 = final.set.containsMoreThan 2 ∧
        List.IsChain (· ≠ ·) (false :: final.told 2) :=
  ⟨_, rfl, rfl,
    neighbourKnowledge_exact {1, 2, 3} _
      (Foundation.TransitionSystem.reachable_of_run
        [.insert 1, .insert 2, .erase 1] rfl) 2⟩

end NeighbourKnowledge
end ServerModel
end OpenRTI
