import OpenRTI.ServerNode.SubscriptionKnowledge

/-!
# What a server node has recorded

The publications and subscriptions that a node keeps for its connects are those
of the last messages of each connect about each attribute.  What the node tells
its connects is therefore a function of the messages that it has received.
-/

namespace OpenRTI
namespace ServerModel
namespace PublishSubscribe

/-- Whether a connect publishes, and whether it subscribes. -/
def recorded
    (self : PublishSubscribe)
    (connectHandle : ConnectHandle) : Bool × Bool :=
  (self.publishedConnects.contains connectHandle,
    self.subscribedConnects.contains connectHandle)

variable (self : PublishSubscribe) (changing connectHandle : ConnectHandle)

@[simp] theorem recorded_declared : self.declared.recorded = self.recorded := rfl

theorem recorded_setPublicationType (publicationType : PublicationType) :
    (self.setPublicationType changing publicationType).1.recorded
        connectHandle =
      (if connectHandle = changing then decide (publicationType = .published)
        else (self.recorded connectHandle).1,
        (self.recorded connectHandle).2) := by
  rw [recorded, contains_setPublicationType]
  rfl

theorem recorded_setSubscriptionType (subscriptionType : SubscriptionType) :
    (self.setSubscriptionType changing subscriptionType).1.recorded
        connectHandle =
      ((self.recorded connectHandle).1,
        if connectHandle = changing then
          decide (subscriptionType ≠ .unsubscribed)
        else (self.recorded connectHandle).2) := by
  rw [recorded, recorded, setSubscriptionType]
  split
  · next subscribes => simp [BroadcastConnectHandleSet.contains, subscribes]
  · next subscribes => simp [BroadcastConnectHandleSet.contains, subscribes]

end PublishSubscribe
end ServerModel

namespace ServerNode

open Foundation
open ServerModel

namespace ObjectServer

variable {before between after : ObjectServer}
variable {objectClassHandle : ObjectClassHandle}
variable {attributeHandles : List AttributeHandle}
variable {change : PublishSubscribe → PublishSubscribe}

/-- What is declared about the listed attributes of a class has changed, and
nothing else that is declared. -/
def Changes
    (objectClassHandle : ObjectClassHandle)
    (attributeHandles : List AttributeHandle)
    (change : PublishSubscribe → PublishSubscribe)
    (before after : ObjectServer) : Prop :=
  ∀ otherClass other,
    (after.publishSubscribe? otherClass other).map .declared =
      (before.publishSubscribe? otherClass other).map fun old =>
        if otherClass = objectClassHandle ∧ other ∈ attributeHandles then
          change old.declared
        else old.declared

theorem Changes.of_absent
    (absent : ∀ attributeHandle ∈ attributeHandles,
      before.publishSubscribe? objectClassHandle attributeHandle = none) :
    before.Changes objectClassHandle attributeHandles change before := by
  intro otherClass other
  by_cases here : otherClass = objectClassHandle ∧ other ∈ attributeHandles
  · rw [here.1, absent other here.2]
    rfl
  · simp only [if_neg here]

theorem Changes.of_some
    {attributeHandle : AttributeHandle}
    {publishSubscribe changed : PublishSubscribe}
    (found : before.publishSubscribe? objectClassHandle attributeHandle =
      some publishSubscribe)
    (same : changed.declared = change publishSubscribe.declared) :
    before.Changes objectClassHandle [attributeHandle] change
      (before.modifyClassAttribute objectClassHandle attributeHandle
        fun _ => changed) := by
  intro otherClass other
  rw [publishSubscribe?_modifyClassAttribute]
  simp only [List.mem_singleton]
  split
  · next here =>
      rw [here.1, here.2, found]
      exact congrArg some same
  · rfl

/-- A change that makes no difference the second time may be entered again. -/
theorem Changes.trans
    (again : ∀ self, change (change self) = change self)
    {attributeHandle : AttributeHandle}
    (first : before.Changes objectClassHandle [attributeHandle] change between)
    (later : between.Changes objectClassHandle attributeHandles change after) :
    before.Changes objectClassHandle (attributeHandle :: attributeHandles)
      change after := by
  intro otherClass other
  have declared := first otherClass other
  rw [later]
  generalize before.publishSubscribe? otherClass other = old at declared ⊢
  cases old with
  | none =>
      rw [Option.map_none, Option.map_eq_none_iff] at declared
      rw [declared, Option.map_none, Option.map_none]
  | some old =>
      rw [Option.map_some, Option.map_eq_some_iff] at declared
      obtain ⟨held, found, declared⟩ := declared
      simp only [found, Option.map_some, declared, List.mem_cons,
        List.not_mem_nil, or_false]
      grind

theorem Changes.foldl
    {σ : Type} {server : σ → ObjectServer}
    {step : σ → AttributeHandle → σ}
    (again : ∀ self, change (change self) = change self)
    (steps : ∀ state attributeHandle, (server state).Changes objectClassHandle
      [attributeHandle] change (server (step state attributeHandle)))
    (attributeHandles : List AttributeHandle) (state : σ) :
    (server state).Changes objectClassHandle attributeHandles change
      (server (attributeHandles.foldl step state)) := by
  induction attributeHandles generalizing state with
  | nil =>
      apply Changes.of_absent
      intro attributeHandle member
      cases member
  | cons attributeHandle rest ih =>
      rw [List.foldl_cons]
      exact Changes.trans again (steps state attributeHandle) (ih _)

/-- What is sent changes nothing that is declared. -/
theorem Changes.sent
    (changes : before.Changes objectClassHandle attributeHandles change
      between)
    (same : after.objectClasses = between.objectClasses) :
    before.Changes objectClassHandle attributeHandles change after := by
  intro otherClass other
  rw [← changes, publishSubscribe?, publishSubscribe?, same]

theorem Changes.unknown
    (unknown : (before.getObjectClass objectClassHandle).isNone) :
    before.Changes objectClassHandle attributeHandles change before := by
  apply Changes.of_absent
  intro attributeHandle _
  rw [getObjectClass, Option.isNone_iff_eq_none, Option.map_eq_none_iff]
    at unknown
  rw [publishSubscribe?, ObjectClassTable.publishSubscribe?, unknown]
  rfl

/-! ## The messages -/

section

variable (connectHandle : ConnectHandle)
include connectHandle

theorem changes_changePublication
    (publicationType : PublicationType) (self : PublicationChange)
    (attributeHandle : AttributeHandle) :
    self.server.Changes objectClassHandle [attributeHandle]
      (fun publishSubscribe => (publishSubscribe.setPublicationType
        connectHandle publicationType).1)
      (self.changeAttribute connectHandle objectClassHandle publicationType
        attributeHandle).server := by
  rw [PublicationChange.changeAttribute]
  split
  · next unknown =>
      apply Changes.of_absent
      intro other member
      rwa [List.mem_singleton.mp member]
  · next publishSubscribe found =>
      have answered : ∀ (subscriptionType : SubscriptionType)
          (change : PublicationChange),
          (change.answer attributeHandle subscriptionType).server =
            change.server := by
        intro subscriptionType change
        cases subscriptionType <;> rfl
      rw [answered, PublicationChange.note_server]
      exact Changes.of_some found rfl

theorem changes_changeSubscription
    (subscriptionType : SubscriptionType) (self : SubscriptionChange)
    (attributeHandle : AttributeHandle) :
    self.server.Changes objectClassHandle [attributeHandle]
      (fun publishSubscribe => (publishSubscribe.setSubscriptionType
        connectHandle subscriptionType).1)
      (self.changeAttribute connectHandle objectClassHandle subscriptionType
        attributeHandle).server := by
  rw [SubscriptionChange.changeAttribute]
  split
  · next unknown =>
      apply Changes.of_absent
      intro other member
      rwa [List.mem_singleton.mp member]
  · next publishSubscribe found =>
      have entered : self.server.Changes objectClassHandle [attributeHandle]
          (fun publishSubscribe => (publishSubscribe.setSubscriptionType
            connectHandle subscriptionType).1)
          (self.server.modifyClassAttribute objectClassHandle
            attributeHandle fun _ => (publishSubscribe.setSubscriptionType
              connectHandle subscriptionType).1) :=
        Changes.of_some found rfl
      intro otherClass other
      dsimp only
      rw [updateCumulativeSubscription_eq]
      exact (ObjectClassTable.declared_updateCumulativeSubscription _ _ _ _ _
        _).trans (entered otherClass other)

@[simp] theorem answerPublication_objectClasses
    (publicationType : PublicationType)
    (subscriptionType : SubscriptionType)
    (attributeHandles : List AttributeHandle) (self : ObjectServer) :
    (self.answerPublication connectHandle objectClassHandle publicationType
      subscriptionType attributeHandles).objectClasses =
        self.objectClasses := by
  rw [answerPublication]
  split
  · rfl
  · rw [send_eq_sendAll, sendAll_objectClasses]

theorem changes_publication
    (publicationType : PublicationType) (self : ObjectServer) :
    self.Changes objectClassHandle attributeHandles
      (fun publishSubscribe => (publishSubscribe.setPublicationType
        connectHandle publicationType).1)
      (self.acceptChangeObjectClassPublication connectHandle
        objectClassHandle attributeHandles publicationType) := by
  rw [acceptChangeObjectClassPublication]
  split
  · next unknown => exact Changes.unknown unknown
  · dsimp only
    obtain ⟨messages, _, propagated⟩ := PublicationChange.propagate_eq
      (attributeHandles.foldl (PublicationChange.changeAttribute
        connectHandle objectClassHandle publicationType) { server := self })
      connectHandle objectClassHandle publicationType
    rw [propagated]
    refine Changes.sent (Changes.foldl ?_
      (changes_changePublication connectHandle publicationType)
      attributeHandles { server := self }) (by simp)
    intro publishSubscribe
    simp only [PublishSubscribe.setPublicationType]
    split
    · simp [BroadcastConnectHandleSet.insert]
      grind
    · simp [BroadcastConnectHandleSet.erase]
      grind

theorem introduceAll_objectClasses
    (objectInstanceHandles : List ObjectInstanceHandle)
    (self : ObjectServer) :
    (objectInstanceHandles.foldl (ObjectServer.introduce connectHandle)
      self).objectClasses = self.objectClasses := by
  induction objectInstanceHandles generalizing self with
  | nil => rfl
  | cons objectInstanceHandle rest ih =>
      rw [List.foldl_cons, ih, introduce]
      split
      · rfl
      · split
        · rfl
        · rw [send_eq_sendAll, sendAll_objectClasses]
          rfl

theorem changes_subscription
    (subscriptionType : SubscriptionType) (self : ObjectServer) :
    self.Changes objectClassHandle attributeHandles
      (fun publishSubscribe => (publishSubscribe.setSubscriptionType
        connectHandle subscriptionType).1)
      (self.acceptChangeObjectClassSubscription connectHandle
        objectClassHandle attributeHandles subscriptionType) := by
  rw [acceptChangeObjectClassSubscription]
  split
  · next unknown => exact Changes.unknown unknown
  · dsimp only
    refine Changes.sent (Changes.foldl ?_
      (changes_changeSubscription connectHandle subscriptionType)
      attributeHandles { server := self }) ?_
    · intro publishSubscribe
      simp only [PublishSubscribe.setSubscriptionType]
      split
      · simp [BroadcastConnectHandleSet.insert]
        grind
      · simp [BroadcastConnectHandleSet.erase]
        grind
    · split
      · rw [sendEach, sendAll_objectClasses]
      · rw [introduceAll_objectClasses, sendEach, sendAll_objectClasses]

end

end ObjectServer

/-! ## What the messages say -/

namespace ObjectClassDeclaration

variable (connectHandle : ConnectHandle)
variable (objectClassHandle : ObjectClassHandle)
variable (attributeHandle : AttributeHandle)

/-- What a message says about whether a connect publishes an attribute. -/
def publishes : ObjectClassDeclaration → Option Bool
  | .changeObjectClassPublication other otherClass attributeHandles
      publicationType =>
      if objectClassHandle = otherClass ∧
          attributeHandle ∈ attributeHandles ∧ connectHandle = other then
        some (publicationType = .published)
      else none
  | .changeObjectClassSubscription _ _ _ _ => none

/-- What a message says about whether a connect subscribes to an attribute. -/
def subscribes : ObjectClassDeclaration → Option Bool
  | .changeObjectClassPublication _ _ _ _ => none
  | .changeObjectClassSubscription other otherClass attributeHandles
      subscriptionType =>
      if objectClassHandle = otherClass ∧
          attributeHandle ∈ attributeHandles ∧ connectHandle = other then
        some (subscriptionType ≠ .unsubscribed)
      else none

end ObjectClassDeclaration

namespace ObjectServer

open ObjectClassDeclaration (publishes subscribes)

variable {self initial : ObjectServer} {publishSubscribe : PublishSubscribe}
variable {objectClassHandle : ObjectClassHandle}
variable {attributeHandle : AttributeHandle}

theorem Changes.recorded
    {before after : ObjectServer}
    {change : PublishSubscribe → PublishSubscribe}
    {otherClass : ObjectClassHandle}
    {attributeHandles : List AttributeHandle}
    (changes : before.Changes objectClassHandle attributeHandles change after)
    (found : after.publishSubscribe? otherClass attributeHandle =
      some publishSubscribe) :
    ∃ old, before.publishSubscribe? otherClass attributeHandle = some old ∧
      publishSubscribe.recorded =
        if otherClass = objectClassHandle ∧
            attributeHandle ∈ attributeHandles then
          (change old.declared).recorded
        else old.recorded := by
  have declared := changes otherClass attributeHandle
  rw [found, Option.map_some, eq_comm, Option.map_eq_some_iff] at declared
  obtain ⟨old, foundOld, same⟩ := declared
  have recorded : publishSubscribe.recorded =
      publishSubscribe.declared.recorded := rfl
  refine ⟨old, foundOld, ?_⟩
  rw [recorded, ← same, apply_ite PublishSubscribe.recorded]
  rfl

/-- A message leaves what it says, and else what was declared before. -/
theorem recorded_apply
    (declaration : ObjectClassDeclaration)
    (found : (declaration.apply self).publishSubscribe? objectClassHandle
      attributeHandle = some publishSubscribe) :
    ∃ old,
      self.publishSubscribe? objectClassHandle attributeHandle = some old ∧
        ∀ connectHandle, publishSubscribe.recorded connectHandle =
          ((declaration.publishes connectHandle objectClassHandle
              attributeHandle).getD (old.recorded connectHandle).1,
            (declaration.subscribes connectHandle objectClassHandle
              attributeHandle).getD (old.recorded connectHandle).2) := by
  cases declaration with
  | changeObjectClassPublication other otherClass attributeHandles
      publicationType =>
      obtain ⟨old, foundOld, recorded⟩ :=
        (changes_publication other publicationType self).recorded found
      refine ⟨old, foundOld, fun connectHandle => ?_⟩
      rw [recorded, publishes, subscribes]
      split
      · next here =>
          rw [PublishSubscribe.recorded_setPublicationType]
          by_cases same : connectHandle = other
          · simp [here, same]
          · simp [same]
      · next elsewhere =>
          rw [if_neg fun here => elsewhere ⟨here.1, here.2.1⟩]
          rfl
  | changeObjectClassSubscription other otherClass attributeHandles
      subscriptionType =>
      obtain ⟨old, foundOld, recorded⟩ :=
        (changes_subscription other subscriptionType self).recorded found
      refine ⟨old, foundOld, fun connectHandle => ?_⟩
      rw [recorded, publishes, subscribes]
      split
      · next here =>
          rw [PublishSubscribe.recorded_setSubscriptionType]
          by_cases same : connectHandle = other
          · simp [here, same]
          · simp [same]
      · next elsewhere =>
          rw [if_neg fun here => elsewhere ⟨here.1, here.2.1⟩]
          rfl

/-- After a run the node keeps for each connect what its last messages have
said. -/
theorem recorded_of_run
    (fresh : initial.Fresh)
    {messages : List ObjectClassDeclaration}
    (ran : (declarations initial).run initial messages = some self)
    (found : self.publishSubscribe? objectClassHandle attributeHandle =
      some publishSubscribe)
    (connectHandle : ConnectHandle) :
    publishSubscribe.recorded connectHandle =
      (lastTold (publishes connectHandle objectClassHandle attributeHandle)
          false messages,
        lastTold (subscribes connectHandle objectClassHandle attributeHandle)
          false messages) := by
  induction messages using List.reverseRecOn generalizing self
      publishSubscribe with
  | nil =>
      cases ran
      rw [fresh.publishSubscribe?_eq found]
      rfl
  | append_singleton messages message ih =>
      rw [TransitionSystem.run_concat] at ran
      obtain ⟨before, past, stepped⟩ := Option.bind_eq_some_iff.mp ran
      simp only [declarations] at stepped
      split at stepped
      · cases stepped
        obtain ⟨old, foundOld, recorded⟩ := recorded_apply message found
        rw [recorded, ih past foundOld, lastTold_concat, lastTold_concat]
      · cases stepped

/-- What the node has told a connect last is settled by the last messages of the
connects: it is told of subscriptions exactly if it has said last that it
publishes the attribute, and another one that it subscribes to it. -/
theorem told_iff_lastTold
    (fresh : initial.Fresh)
    {messages : List ObjectClassDeclaration}
    (ran : (declarations initial).run initial messages = some self)
    {connectHandle : ConnectHandle}
    (known : connectHandle ∈ self.connectHandles)
    (found : self.publishSubscribe? objectClassHandle attributeHandle =
      some publishSubscribe) :
    self.told connectHandle objectClassHandle attributeHandle = true ↔
      lastTold (publishes connectHandle objectClassHandle attributeHandle)
          false messages = true ∧
        ∃ other, other ≠ connectHandle ∧
          lastTold (subscribes other objectClassHandle attributeHandle)
            false messages = true := by
  have exact := fresh.exact_of_reachable
    (TransitionSystem.reachable_of_run messages ran)
  have recorded := fun other =>
    Prod.mk.inj (recorded_of_run fresh ran found other)
  rw [(exact _ _ _ found).2 connectHandle known, PublishSubscribe.isWanted,
    Bool.and_eq_true, BroadcastConnectHandleSet.containsMoreThan_iff,
    (recorded connectHandle).1]
  refine and_congr_right fun _ => exists_congr fun other => ?_
  rw [← (recorded other).2, BroadcastConnectHandleSet.contains,
    decide_eq_true_iff, and_comm]

end ObjectServer
end ServerNode
end OpenRTI
