import OpenRTI.Foundation.TransitionSystem
import OpenRTI.ServerNode.ObjectServer

/-!
# What publishers know about subscriptions

A server node tells a connect about the subscriptions to an attribute while the
connect publishes it.  What the connect has been told last is whether it
publishes the attribute and somebody else subscribes to it.
-/

namespace OpenRTI
namespace ServerModel
namespace PublishSubscribe

open NeighbourKnowledge (reaches)

/-- Whether a connect publishes what another one subscribes to. -/
def isWanted
    (connectHandle : ConnectHandle)
    (self : PublishSubscribe) : Bool :=
  self.publishedConnects.contains connectHandle &&
    self.subscribedConnects.containsMoreThan connectHandle

theorem isWanted_of_declared
    {self other : PublishSubscribe}
    (same : self.declared = other.declared)
    (connectHandle : ConnectHandle) :
    self.isWanted connectHandle = other.isWanted connectHandle := by
  have published : self.publishedConnects = other.publishedConnects :=
    congrArg (·.publishedConnects) same
  have subscribed : self.subscribedConnects = other.subscribedConnects :=
    congrArg (·.subscribedConnects) same
  rw [isWanted, isWanted, published, subscribed]

theorem isWanted_iff
    {self : PublishSubscribe}
    (nobodyActive : self.activeSubscribedConnects = {})
    (connectHandle : ConnectHandle) :
    self.isWanted connectHandle = true ↔
      self.getPublicationType connectHandle = .published ∧
        ∃ other, other ≠ connectHandle ∧
          self.getSubscriptionType other ≠ .unsubscribed := by
  rw [isWanted, Bool.and_eq_true,
    BroadcastConnectHandleSet.containsMoreThan_iff]
  refine and_congr ?_ (exists_congr fun other => ?_)
  · rw [getPublicationType]
    split
    · next publishes => simp [publishes]
    · next publishes => simp [publishes]
  · rw [getSubscriptionType, nobodyActive, and_comm]
    simp [BroadcastConnectHandleSet.contains]

theorem contains_setPublicationType
    (self : PublishSubscribe) (changing connectHandle : ConnectHandle)
    (publicationType : PublicationType) :
    (self.setPublicationType changing
        publicationType).1.publishedConnects.contains connectHandle =
      if connectHandle = changing then
        decide (publicationType = .published)
      else self.publishedConnects.contains connectHandle := by
  cases publicationType with
  | unpublished =>
      simp [setPublicationType, BroadcastConnectHandleSet.contains]
  | published =>
      simp [setPublicationType, BroadcastConnectHandleSet.contains]

/-- A subscription change gives a connect that it reaches the new answer to
whether another one is subscribed, and leaves that of the others. -/
theorem containsMoreThan_setSubscriptionType
    (self : PublishSubscribe) (changing connectHandle : ConnectHandle)
    (subscriptionType : SubscriptionType) :
    (self.setSubscriptionType changing
        subscriptionType).1.subscribedConnects.containsMoreThan
          connectHandle =
      if reaches changing (self.setSubscriptionType changing
          subscriptionType).2 connectHandle then
        decide (subscriptionType ≠ .unsubscribed)
      else self.subscribedConnects.containsMoreThan connectHandle := by
  have change : ∀ input : ConnectChange,
      input.connectHandle = changing →
      (input.apply self.subscribedConnects).1.containsMoreThan
          connectHandle =
        if reaches changing (input.apply self.subscribedConnects).2
            connectHandle then
          input.value
        else self.subscribedConnects.containsMoreThan connectHandle := by
    rintro input rfl
    have reached := NeighbourKnowledge.reaches_change_iff
      { set := self.subscribedConnects, told := fun _ => [] } input
      connectHandle
    have kept := NeighbourKnowledge.containsMoreThan_change
      { set := self.subscribedConnects, told := fun _ => [] } input
      connectHandle
    simp only [NeighbourKnowledge.change] at reached kept
    split
    · next reaching => exact (reached.mp reaching).2
    · next missed =>
        rw [reached] at missed
        cases value : input.value <;>
          cases before :
            self.subscribedConnects.containsMoreThan connectHandle <;>
          simp_all
  cases subscriptionType with
  | unsubscribed => exact change (.erase changing) rfl
  | subscribedPassive => exact change (.insert changing) rfl
  | subscribedActive => exact change (.insert changing) rfl

end PublishSubscribe
end ServerModel

namespace ServerNode

open Foundation
open ServerModel
open NeighbourKnowledge (reaches)

/-- What a message tells a connect about the subscriptions to an attribute. -/
def subscriptionTold
    (connectHandle : ConnectHandle)
    (objectClassHandle : ObjectClassHandle)
    (attributeHandle : AttributeHandle) :
    ConnectHandle × ObjectMessage → Option Bool
  | (other, .changeObjectClassSubscription otherClass attributeHandles
      subscriptionType) =>
      if other = connectHandle ∧ otherClass = objectClassHandle ∧
          attributeHandle ∈ attributeHandles then
        some (subscriptionType ≠ .unsubscribed)
      else none
  | _ => none

theorem subscriptionTold_of_ne
    {connectHandle : ConnectHandle} {sent : ConnectHandle × ObjectMessage}
    (elsewhere : sent.1 ≠ connectHandle)
    (objectClassHandle : ObjectClassHandle)
    (attributeHandle : AttributeHandle) :
    subscriptionTold connectHandle objectClassHandle attributeHandle sent =
      none := by
  obtain ⟨other, message⟩ := sent
  cases message with
  | changeObjectClassSubscription =>
      exact if_neg fun both => elsewhere both.1
  | _ => rfl

variable {self : ObjectServer} {objectClassHandle : ObjectClassHandle}
variable {attributeHandle : AttributeHandle}
variable {publishSubscribe : PublishSubscribe} {initial : ObjectServer}

namespace ObjectServer

/-- What a connect has been told last about the subscriptions to an attribute,
at first that there are none. -/
def told
    (self : ObjectServer)
    (connectHandle : ConnectHandle)
    (objectClassHandle : ObjectClassHandle)
    (attributeHandle : AttributeHandle) : Bool :=
  lastTold (subscriptionTold connectHandle objectClassHandle attributeHandle)
    false self.sent

/-! ## What sending tells -/

/-- Sending appends to what was sent. -/
theorem sendAll_eq
    (messages : List (ConnectHandle × ObjectMessage))
    (self : ObjectServer) :
    self.sendAll messages =
      { self with
        sent := self.sent ++ messages.filter fun message =>
          message.1 ∈ self.connectHandles } := by
  induction messages generalizing self with
  | nil =>
      rw [List.filter_nil, List.append_nil]
      rfl
  | cons message rest ih =>
      rw [sendAll, List.foldl_cons, ← sendAll, ih, send]
      split
      · next known => simp [known]
      · next unknown => simp [unknown]

theorem send_eq_sendAll
    (connectHandle : ConnectHandle) (message : ObjectMessage)
    (self : ObjectServer) :
    self.send connectHandle message =
      self.sendAll [(connectHandle, message)] := rfl

/-- Sending tells the connects of the node what the messages tell. -/
theorem told_sendAll
    {connectHandle : ConnectHandle}
    (known : connectHandle ∈ self.connectHandles)
    (messages : List (ConnectHandle × ObjectMessage))
    (objectClassHandle : ObjectClassHandle)
    (attributeHandle : AttributeHandle) :
    (self.sendAll messages).told connectHandle objectClassHandle
        attributeHandle =
      lastTold
        (subscriptionTold connectHandle objectClassHandle attributeHandle)
        (self.told connectHandle objectClassHandle attributeHandle)
        messages := by
  rw [told, sendAll_eq, lastTold_append, lastTold_filter]
  · rfl
  · intro message dropped
    apply subscriptionTold_of_ne
    rintro rfl
    simp [known] at dropped

theorem sendAll_append
    (messages more : List (ConnectHandle × ObjectMessage))
    (self : ObjectServer) :
    self.sendAll (messages ++ more) =
      (self.sendAll messages).sendAll more :=
  List.foldl_append

@[simp] theorem sendAll_objectClasses
    (messages : List (ConnectHandle × ObjectMessage))
    (self : ObjectServer) :
    (self.sendAll messages).objectClasses = self.objectClasses := by
  rw [sendAll_eq]

@[simp] theorem sendAll_connectHandles
    (messages : List (ConnectHandle × ObjectMessage))
    (self : ObjectServer) :
    (self.sendAll messages).connectHandles = self.connectHandles := by
  rw [sendAll_eq]

theorem told_sendAll_of_silent
    {connectHandle : ConnectHandle}
    (known : connectHandle ∈ self.connectHandles)
    {messages : List (ConnectHandle × ObjectMessage)}
    (silent : ∀ message ∈ messages, subscriptionTold connectHandle
      objectClassHandle attributeHandle message = none) :
    (self.sendAll messages).told connectHandle objectClassHandle
        attributeHandle =
      self.told connectHandle objectClassHandle attributeHandle := by
  rw [told_sendAll known, lastTold_of_silent silent]

/-- A message for each entry of a map tells a connect about the attributes in
its entry. -/
theorem told_sendEach
    {connectHandle : ConnectHandle}
    (known : connectHandle ∈ self.connectHandles)
    (sendAttributeHandlesMap :
      OrderedMap ConnectHandle (List AttributeHandle))
    (subscriptionType : SubscriptionType)
    (objectClassHandle otherClass : ObjectClassHandle)
    (attributeHandle : AttributeHandle) :
    (self.sendEach sendAttributeHandlesMap fun handles =>
        .changeObjectClassSubscription objectClassHandle handles
          subscriptionType).told connectHandle otherClass attributeHandle =
      if otherClass = objectClassHandle ∧
          attributeHandle ∈ sendAttributeHandlesMap.bucket connectHandle then
        decide (subscriptionType ≠ .unsubscribed)
      else self.told connectHandle otherClass attributeHandle := by
  rw [sendEach, told_sendAll known, lastTold_map, lastTold_entries]
  swap
  · intro entry elsewhere
    exact subscriptionTold_of_ne elsewhere _ _
  · rw [OrderedMap.bucket]
    cases sendAttributeHandlesMap.find? connectHandle with
    | none => simp
    | some handles =>
        simp only [Option.bind_some, Option.getD_some, subscriptionTold,
          true_and]
        by_cases same : objectClassHandle = otherClass
        · by_cases listed : attributeHandle ∈ handles <;>
            simp [same, listed]
        · simp [same, Ne.symm same]

/-! ## What the node wants its connects to know -/

/-- A record of what the connects were told is right if it says of each connect
and attribute whether the connect publishes it and another one subscribes to
it. -/
def Wants
    (self : ObjectServer)
    (record : ConnectHandle → ObjectClassHandle → AttributeHandle → Bool) :
    Prop :=
  ∀ objectClassHandle attributeHandle publishSubscribe,
    self.publishSubscribe? objectClassHandle attributeHandle =
        some publishSubscribe →
      publishSubscribe.activeSubscribedConnects = {} ∧
        ∀ connectHandle ∈ self.connectHandles,
          record connectHandle objectClassHandle attributeHandle =
            publishSubscribe.isWanted connectHandle

/-- A record stays right while it is kept for the attributes whose declarations
are kept. -/
theorem Wants.step
    {before after : ObjectServer}
    {record record' :
      ConnectHandle → ObjectClassHandle → AttributeHandle → Bool}
    (wants : before.Wants record)
    (connects : after.connectHandles = before.connectHandles)
    (kept : ∀ objectClassHandle attributeHandle publishSubscribe,
      after.publishSubscribe? objectClassHandle attributeHandle =
          some publishSubscribe →
        (∃ old,
          before.publishSubscribe? objectClassHandle attributeHandle =
              some old ∧
            publishSubscribe.declared = old.declared ∧
            ∀ connectHandle ∈ before.connectHandles,
              record' connectHandle objectClassHandle attributeHandle =
                record connectHandle objectClassHandle attributeHandle) ∨
        publishSubscribe.activeSubscribedConnects = {} ∧
          ∀ connectHandle ∈ before.connectHandles,
            record' connectHandle objectClassHandle attributeHandle =
              publishSubscribe.isWanted connectHandle) :
    after.Wants record' := by
  intro objectClassHandle attributeHandle publishSubscribe found
  rw [connects]
  obtain ⟨old, foundOld, same, recorded⟩ | changed := kept _ _ _ found
  · obtain ⟨nobodyActive, wanted⟩ := wants _ _ _ foundOld
    have active : publishSubscribe.activeSubscribedConnects =
        old.activeSubscribedConnects :=
      congrArg (·.activeSubscribedConnects) same
    refine ⟨active.trans nobodyActive, fun connectHandle known => ?_⟩
    rw [recorded connectHandle known, wanted connectHandle known,
      PublishSubscribe.isWanted_of_declared same]
  · exact changed

/-- What is sent only changes what was told. -/
theorem Wants.sent
    {before after : ObjectServer}
    {record record' :
      ConnectHandle → ObjectClassHandle → AttributeHandle → Bool}
    (wants : before.Wants record)
    (classes : after.objectClasses = before.objectClasses)
    (connects : after.connectHandles = before.connectHandles)
    (recorded : ∀ connectHandle ∈ before.connectHandles,
      ∀ objectClassHandle attributeHandle,
        record' connectHandle objectClassHandle attributeHandle =
          record connectHandle objectClassHandle attributeHandle) :
    after.Wants record' := by
  apply wants.step connects
  intro objectClassHandle attributeHandle publishSubscribe found
  rw [ObjectServer.publishSubscribe?, classes] at found
  exact Or.inl ⟨publishSubscribe, found, rfl, fun connectHandle known =>
    recorded connectHandle known _ _⟩

@[simp] theorem publishSubscribe?_modifyClassAttribute
    (objectClassHandle otherClass : ObjectClassHandle)
    (attributeHandle other : AttributeHandle)
    (change : PublishSubscribe → PublishSubscribe) (self : ObjectServer) :
    (self.modifyClassAttribute objectClassHandle attributeHandle
        change).publishSubscribe? otherClass other =
      if otherClass = objectClassHandle ∧ other = attributeHandle then
        (self.publishSubscribe? otherClass other).map change
      else self.publishSubscribe? otherClass other :=
  ObjectClassTable.publishSubscribe?_modifyClassAttribute _ _ _ _ _ _

@[simp] theorem modifyClassAttribute_connectHandles
    (objectClassHandle : ObjectClassHandle)
    (attributeHandle : AttributeHandle)
    (change : PublishSubscribe → PublishSubscribe) (self : ObjectServer) :
    (self.modifyClassAttribute objectClassHandle attributeHandle
      change).connectHandles = self.connectHandles := rfl

@[simp] theorem told_modifyClassAttribute
    (objectClassHandle : ObjectClassHandle)
    (attributeHandle : AttributeHandle)
    (change : PublishSubscribe → PublishSubscribe) (self : ObjectServer) :
    (self.modifyClassAttribute objectClassHandle attributeHandle
      change).told = self.told := rfl

theorem updateInstancesOf_eq
    (connectHandle : ConnectHandle) (attributeHandle : AttributeHandle)
    (changes : List (ObjectClass × Bool))
    (updated : ObjectServer × List ObjectInstanceHandle) :
    (changes.foldl (updateInstancesOf connectHandle attributeHandle)
        updated).1 =
      { updated.1 with
        objectInstances := (changes.foldl
          (updateInstancesOf connectHandle attributeHandle)
          updated).1.objectInstances } := by
  induction changes generalizing updated with
  | nil => rfl
  | cons change rest ih =>
      rw [List.foldl_cons, ih]
      rfl

/-- An update of the cumulative subscriptions touches the classes and the
instances only. -/
theorem updateCumulativeSubscription_eq
    (objectClassHandle : ObjectClassHandle) (connectHandle : ConnectHandle)
    (attributeHandle : AttributeHandle) (self : ObjectServer) :
    (self.updateCumulativeSubscription objectClassHandle connectHandle
        attributeHandle).1 =
      { self with
        objectClasses := self.objectClasses.updateCumulativeSubscription
          objectClassHandle connectHandle attributeHandle
        objectInstances := (self.updateCumulativeSubscription
          objectClassHandle connectHandle
          attributeHandle).1.objectInstances } := by
  rw [updateCumulativeSubscription, updateInstancesOf_eq]

@[simp] theorem updateCumulativeSubscription_connectHandles
    (objectClassHandle : ObjectClassHandle) (connectHandle : ConnectHandle)
    (attributeHandle : AttributeHandle) (self : ObjectServer) :
    (self.updateCumulativeSubscription objectClassHandle connectHandle
      attributeHandle).1.connectHandles = self.connectHandles := by
  rw [updateCumulativeSubscription_eq]

@[simp] theorem told_updateCumulativeSubscription
    (objectClassHandle : ObjectClassHandle) (connectHandle : ConnectHandle)
    (attributeHandle : AttributeHandle) (self : ObjectServer) :
    (self.updateCumulativeSubscription objectClassHandle connectHandle
      attributeHandle).1.told = self.told := by
  rw [updateCumulativeSubscription_eq]
  rfl

/-- An update of the cumulative subscriptions leaves what is declared. -/
theorem declared_updateCumulativeSubscription
    {otherClass : ObjectClassHandle} {connectHandle : ConnectHandle}
    {other : AttributeHandle}
    (found : (self.updateCumulativeSubscription objectClassHandle
        connectHandle attributeHandle).1.publishSubscribe? otherClass other =
      some publishSubscribe) :
    ∃ old, self.publishSubscribe? otherClass other = some old ∧
      publishSubscribe.declared = old.declared := by
  rw [updateCumulativeSubscription_eq] at found
  have same := self.objectClasses.declared_updateCumulativeSubscription
    objectClassHandle otherClass connectHandle attributeHandle other
  rw [show (self.objectClasses.updateCumulativeSubscription objectClassHandle
    connectHandle attributeHandle).publishSubscribe? otherClass other =
      some publishSubscribe from found, Option.map_some] at same
  obtain ⟨old, before, declared⟩ := Option.map_eq_some_iff.mp same.symm
  exact ⟨old, before, declared.symm⟩

/-! ## A publication of one attribute -/

namespace PublicationChange

/-- What will have been told when the publisher has been answered. -/
def record
    (connectHandle : ConnectHandle)
    (objectClassHandle : ObjectClassHandle)
    (publicationType : PublicationType)
    (self : PublicationChange)
    (other : ConnectHandle)
    (otherClass : ObjectClassHandle)
    (attributeHandle : AttributeHandle) : Bool :=
  if other = connectHandle ∧ otherClass = objectClassHandle ∧
      attributeHandle ∈ self.passiveSubscribeAttributeHandles then
    publicationType = .published
  else self.server.told other otherClass attributeHandle

/-- What the change of a publication is carried out with. -/
structure Keeps
    (initial : ObjectServer)
    (connectHandle : ConnectHandle)
    (objectClassHandle : ObjectClassHandle)
    (publicationType : PublicationType)
    (change : PublicationChange) : Prop where
  connects : change.server.connectHandles = initial.connectHandles
  nobodyActive : change.activeSubscribeAttributeHandles = []
  wants : change.server.Wants
    (change.record connectHandle objectClassHandle publicationType)

@[simp] theorem note_server
    (attributeHandle : AttributeHandle)
    (propagation : PropagationTypeConnectHandlePair)
    (self : PublicationChange) :
    (self.note attributeHandle propagation).server = self.server := by
  unfold note
  split <;> rfl

@[simp] theorem note_passiveSubscribeAttributeHandles
    (attributeHandle : AttributeHandle)
    (propagation : PropagationTypeConnectHandlePair)
    (self : PublicationChange) :
    (self.note attributeHandle
        propagation).passiveSubscribeAttributeHandles =
      self.passiveSubscribeAttributeHandles := by
  unfold note
  split <;> rfl

@[simp] theorem note_activeSubscribeAttributeHandles
    (attributeHandle : AttributeHandle)
    (propagation : PropagationTypeConnectHandlePair)
    (self : PublicationChange) :
    (self.note attributeHandle propagation).activeSubscribeAttributeHandles =
      self.activeSubscribeAttributeHandles := by
  unfold note
  split <;> rfl

/-- Where nobody subscribes actively, the publisher is answered if another
connect subscribes. -/
theorem answer_eq
    (nobodyActive : publishSubscribe.activeSubscribedConnects = {})
    (connectHandle : ConnectHandle) (attributeHandle : AttributeHandle)
    (self : PublicationChange) :
    self.answer attributeHandle
        (publishSubscribe.getSubscriptionTypeToConnect connectHandle) =
      { self with
        passiveSubscribeAttributeHandles :=
          self.passiveSubscribeAttributeHandles ++
            if publishSubscribe.subscribedConnects.containsMoreThan
                connectHandle then
              [attributeHandle]
            else [] } := by
  have nobody : ({} : BroadcastConnectHandleSet).containsMoreThan
      connectHandle = false := rfl
  rw [PublishSubscribe.getSubscriptionTypeToConnect, nobodyActive, nobody]
  cases publishSubscribe.subscribedConnects.containsMoreThan connectHandle
  · simp [answer]
  · simp [answer]

theorem Keeps.changeAttribute
    {connectHandle : ConnectHandle} {publicationType : PublicationType}
    {self : PublicationChange}
    (keeps : self.Keeps initial connectHandle objectClassHandle
      publicationType)
    (attributeHandle : AttributeHandle) :
    (self.changeAttribute connectHandle objectClassHandle publicationType
      attributeHandle).Keeps initial connectHandle objectClassHandle
        publicationType := by
  rw [PublicationChange.changeAttribute]
  split
  · exact keeps
  · next publishSubscribe found =>
      obtain ⟨nobodyActive, wanted⟩ := keeps.wants _ _ _ found
      have stillNobody : (publishSubscribe.setPublicationType connectHandle
          publicationType).1.activeSubscribedConnects = {} := nobodyActive
      have subscribed : (publishSubscribe.setPublicationType connectHandle
          publicationType).1.subscribedConnects =
            publishSubscribe.subscribedConnects := rfl
      rw [answer_eq stillNobody, subscribed]
      constructor
      · simpa using keeps.connects
      · simpa using keeps.nobodyActive
      · refine keeps.wants.step (by simp) ?_
        intro otherClass other changed foundAfter
        simp only [note_server, publishSubscribe?_modifyClassAttribute]
          at foundAfter
        by_cases here : otherClass = objectClassHandle ∧
            other = attributeHandle
        · obtain ⟨rfl, rfl⟩ := here
          rw [if_pos ⟨rfl, rfl⟩, found, Option.map_some] at foundAfter
          cases foundAfter
          refine Or.inr ⟨stillNobody, fun target known => ?_⟩
          have before := wanted target known
          rw [PublishSubscribe.isWanted] at before ⊢
          rw [PublishSubscribe.contains_setPublicationType, subscribed]
          simp only [record, note_server, told_modifyClassAttribute,
            note_passiveSubscribeAttributeHandles, List.mem_append,
            true_and] at before ⊢
          by_cases publisher : target = connectHandle
          · rw [publisher] at before ⊢
            cases others : publishSubscribe.subscribedConnects.containsMoreThan
                connectHandle with
            | true => simp
            | false => simpa [others] using before
          · simpa [publisher] using before
        · rw [if_neg here] at foundAfter
          refine Or.inl ⟨changed, foundAfter, rfl, fun target known => ?_⟩
          simp only [record, note_server, told_modifyClassAttribute,
            note_passiveSubscribeAttributeHandles, List.mem_append]
          refine if_congr ?_ rfl rfl
          refine and_congr_right fun _ => and_congr_right fun inClass =>
            or_iff_left ?_
          intro listed
          split at listed
          · exact here ⟨inClass, List.mem_singleton.mp listed⟩
          · cases listed

theorem Keeps.changeAttributes
    {connectHandle : ConnectHandle} {publicationType : PublicationType}
    {self : PublicationChange}
    (keeps : self.Keeps initial connectHandle objectClassHandle
      publicationType)
    (attributeHandles : List AttributeHandle) :
    (attributeHandles.foldl (PublicationChange.changeAttribute connectHandle
      objectClassHandle publicationType) self).Keeps initial connectHandle
        objectClassHandle publicationType := by
  induction attributeHandles generalizing self with
  | nil => exact keeps
  | cons attributeHandle rest ih =>
      rw [List.foldl_cons]
      exact ih (keeps.changeAttribute attributeHandle)

end PublicationChange

/-- What a change of a publication sends to others than the publisher. -/
theorem PublicationChange.propagate_eq
    (change : PublicationChange) (connectHandle : ConnectHandle)
    (objectClassHandle : ObjectClassHandle)
    (publicationType : PublicationType) :
    ∃ messages : List (ConnectHandle × ObjectMessage),
      (∀ message ∈ messages, ∀ other otherClass attributeHandle,
        subscriptionTold other otherClass attributeHandle message = none) ∧
      ((if change.broadcastAttributeHandles.isEmpty then change.server
        else change.server.broadcast connectHandle
          (.changeObjectClassPublication objectClassHandle
            change.broadcastAttributeHandles publicationType)).sendEach
        change.sendAttributeHandlesMap fun handles =>
          .changeObjectClassPublication objectClassHandle handles
            publicationType) =
        change.server.sendAll messages := by
  refine ⟨(if change.broadcastAttributeHandles.isEmpty then []
      else (ascending (change.server.connectHandles.erase
        connectHandle)).map fun other =>
          (other, .changeObjectClassPublication objectClassHandle
            change.broadcastAttributeHandles publicationType)) ++
      change.sendAttributeHandlesMap.entries.map fun entry =>
        (entry.1, .changeObjectClassPublication objectClassHandle entry.2
          publicationType), ?_, ?_⟩
  · intro message member other otherClass attributeHandle
    rw [List.mem_append] at member
    obtain member | member := member
    · split at member
      · cases member
      · obtain ⟨_, _, rfl⟩ := List.mem_map.mp member
        rfl
    · obtain ⟨_, _, rfl⟩ := List.mem_map.mp member
      rfl
  · rw [sendAll_append, sendEach]
    split
    · rfl
    · rfl

/-- The node has told its connects what it wants them to know. -/
abbrev Exact (self : ObjectServer) : Prop :=
  self.Wants self.told

theorem told_answerPublication
    {other : ConnectHandle}
    (known : other ∈ self.connectHandles)
    (connectHandle : ConnectHandle)
    (objectClassHandle otherClass : ObjectClassHandle)
    (publicationType : PublicationType)
    (attributeHandles : List AttributeHandle)
    (attributeHandle : AttributeHandle) :
    (self.answerPublication connectHandle objectClassHandle publicationType
        .subscribedPassive attributeHandles).told other otherClass
          attributeHandle =
      if other = connectHandle ∧ otherClass = objectClassHandle ∧
          attributeHandle ∈ attributeHandles then
        decide (publicationType = .published)
      else self.told other otherClass attributeHandle := by
  rw [answerPublication]
  split
  · next nothing =>
      rw [List.isEmpty_iff] at nothing
      simp [nothing]
  · rw [send_eq_sendAll, told_sendAll known, lastTold_cons, lastTold_nil,
      subscriptionTold]
    by_cases here : connectHandle = other ∧ objectClassHandle = otherClass ∧
        attributeHandle ∈ attributeHandles
    · obtain ⟨rfl, rfl, listed⟩ := here
      cases publicationType <;> simp [listed]
    · rw [if_neg here, if_neg]
      · rfl
      · rintro ⟨rfl, rfl, listed⟩
        exact here ⟨rfl, rfl, listed⟩

/-- A publication keeps the connects informed. -/
theorem Exact.publication
    (exact : self.Exact) (connectHandle : ConnectHandle)
    (objectClassHandle : ObjectClassHandle)
    (attributeHandles : List AttributeHandle)
    (publicationType : PublicationType) :
    (self.acceptChangeObjectClassPublication connectHandle objectClassHandle
      attributeHandles publicationType).Exact := by
  rw [acceptChangeObjectClassPublication]
  split
  · exact exact
  · have start : ({ server := self } : PublicationChange).Keeps self
        connectHandle objectClassHandle publicationType := by
      refine ⟨rfl, rfl, exact.sent rfl rfl ?_⟩
      intro other _ otherClass attributeHandle
      simp [PublicationChange.record]
    have keeps := start.changeAttributes attributeHandles
    generalize attributeHandles.foldl (PublicationChange.changeAttribute
      connectHandle objectClassHandle publicationType) { server := self } =
        change at keeps
    dsimp only
    have nobody : ∀ server : ObjectServer,
        server.answerPublication connectHandle objectClassHandle
          publicationType .subscribedActive
          change.activeSubscribeAttributeHandles = server := by
      intro server
      rw [keeps.nobodyActive]
      rfl
    rw [nobody]
    -- Publications tell nothing about subscriptions.
    obtain ⟨messages, silent, propagated⟩ :=
      change.propagate_eq connectHandle objectClassHandle publicationType
    rw [propagated]
    refine keeps.wants.sent ?_ ?_ ?_
    · rw [answerPublication]
      split
      · rw [sendAll_objectClasses]
      · rw [send_eq_sendAll, sendAll_objectClasses, sendAll_objectClasses]
    · rw [answerPublication]
      split
      · rw [sendAll_connectHandles]
      · rw [send_eq_sendAll, sendAll_connectHandles, sendAll_connectHandles]
    · intro other known otherClass attributeHandle
      rw [told_answerPublication (by rwa [sendAll_connectHandles]),
        told_sendAll_of_silent known (silent · · _ _ _)]
      rfl

/-! ## A subscription to one attribute -/

namespace SubscriptionChange

/-- What will have been told when the change has been propagated. -/
def record
    (objectClassHandle : ObjectClassHandle)
    (subscriptionType : SubscriptionType)
    (self : SubscriptionChange)
    (connectHandle : ConnectHandle)
    (otherClass : ObjectClassHandle)
    (attributeHandle : AttributeHandle) : Bool :=
  if otherClass = objectClassHandle ∧
      attributeHandle ∈
        self.sendAttributeHandlesMap.bucket connectHandle then
    subscriptionType ≠ .unsubscribed
  else self.server.told connectHandle otherClass attributeHandle

/-- The publishers that a change reaches are told. -/
theorem mem_targets
    {connectHandle other : ConnectHandle}
    {propagation : PropagationTypeConnectHandlePair} :
    other ∈ targets connectHandle publishSubscribe propagation ↔
      publishSubscribe.publishedConnects.contains other = true ∧
        reaches connectHandle propagation other = true := by
  obtain ⟨propagationType, second⟩ := propagation
  cases propagationType with
  | propagateBroadcast =>
      simp [targets, reaches, BroadcastConnectHandleSet.contains]
  | propagateSend =>
      cases second with
      | none => simp [targets, reaches]
      | some target =>
          simp only [targets, reaches, PublishSubscribe.getPublicationType]
          by_cases publishes :
              publishSubscribe.publishedConnects.contains target = true
          · simp [publishes]
            grind
          · simp [publishes]
            grind
  | propagateNone => simp [targets, reaches]

theorem wants_changeAttribute
    {self : SubscriptionChange} {connectHandle : ConnectHandle}
    {subscriptionType : SubscriptionType}
    (wants : self.server.Wants
      (self.record objectClassHandle subscriptionType))
    (attributeHandle : AttributeHandle) :
    (self.changeAttribute connectHandle objectClassHandle subscriptionType
      attributeHandle).server.Wants
        ((self.changeAttribute connectHandle objectClassHandle
          subscriptionType attributeHandle).record objectClassHandle
            subscriptionType) := by
  rw [changeAttribute]
  split
  · exact wants
  · next publishSubscribe found =>
      obtain ⟨nobodyActive, wanted⟩ := wants _ _ _ found
      refine wants.step (by simp) ?_
      · intro otherClass other after foundAfter
        obtain ⟨changed, foundChanged, declared⟩ :=
          declared_updateCumulativeSubscription foundAfter
        rw [publishSubscribe?_modifyClassAttribute] at foundChanged
        by_cases here : otherClass = objectClassHandle ∧
            other = attributeHandle
        · obtain ⟨rfl, rfl⟩ := here
          rw [if_pos ⟨rfl, rfl⟩, found, Option.map_some] at foundChanged
          cases foundChanged
          have active : after.activeSubscribedConnects =
              publishSubscribe.activeSubscribedConnects :=
            congrArg (·.activeSubscribedConnects) declared
          refine Or.inr ⟨active.trans nobodyActive, fun target known => ?_⟩
          have before := wanted target known
          rw [PublishSubscribe.isWanted_of_declared declared]
          simp only [record, told_updateCumulativeSubscription,
            told_modifyClassAttribute, OrderedMap.mem_bucket_pushBackAll,
            mem_targets, true_and, and_true,
            PublishSubscribe.isWanted] at before ⊢
          rw [PublishSubscribe.containsMoreThan_setSubscriptionType]
          have published : (publishSubscribe.setSubscriptionType
              connectHandle subscriptionType).1.publishedConnects =
                publishSubscribe.publishedConnects := rfl
          rw [published]
          by_cases publishes :
              publishSubscribe.publishedConnects.contains target = true
          · by_cases reached : reaches connectHandle
                (publishSubscribe.setSubscriptionType connectHandle
                  subscriptionType).2 target = true
            · simp [publishes, reached]
            · simpa [publishes, reached] using before
          · simpa [publishes] using before
        · rw [if_neg here] at foundChanged
          refine Or.inl ⟨changed, foundChanged, declared,
            fun target known => ?_⟩
          simp only [record, told_updateCumulativeSubscription,
            told_modifyClassAttribute, OrderedMap.mem_bucket_pushBackAll]
          refine if_congr ?_ rfl rfl
          refine and_congr_right fun inClass => or_iff_left ?_
          rintro ⟨_, same⟩
          exact here ⟨inClass, same⟩

theorem wants_changeAttributes
    {self : SubscriptionChange} {connectHandle : ConnectHandle}
    {objectClassHandle : ObjectClassHandle}
    {subscriptionType : SubscriptionType}
    (wants : self.server.Wants
      (self.record objectClassHandle subscriptionType))
    (attributeHandles : List AttributeHandle) :
    (attributeHandles.foldl (SubscriptionChange.changeAttribute connectHandle
      objectClassHandle subscriptionType) self).server.Wants
        ((attributeHandles.foldl (SubscriptionChange.changeAttribute
          connectHandle objectClassHandle subscriptionType) self).record
            objectClassHandle subscriptionType) := by
  induction attributeHandles generalizing self with
  | nil => exact wants
  | cons attributeHandle rest ih =>
      rw [List.foldl_cons]
      exact ih (wants_changeAttribute wants attributeHandle)

end SubscriptionChange

/-- To introduce an instance tells nothing about subscriptions. -/
theorem Exact.introduce
    (exact : self.Exact) (connectHandle : ConnectHandle)
    (objectInstanceHandle : ObjectInstanceHandle) :
    (ObjectServer.introduce connectHandle self
      objectInstanceHandle).Exact := by
  rw [ObjectServer.introduce]
  split
  · exact exact
  · split
    · exact exact
    · rw [send_eq_sendAll]
      refine Wants.sent exact ?_ ?_ ?_
      · rw [sendAll_objectClasses]
        rfl
      · rw [sendAll_connectHandles]
        rfl
      · intro other known otherClass attributeHandle
        rw [told_sendAll_of_silent (by exact known)]
        · rfl
        · intro message member
          rw [List.mem_singleton.mp member]
          rfl

theorem Exact.introduceAll
    (exact : self.Exact) (connectHandle : ConnectHandle)
    (objectInstanceHandles : List ObjectInstanceHandle) :
    (objectInstanceHandles.foldl (ObjectServer.introduce connectHandle)
      self).Exact := by
  induction objectInstanceHandles generalizing self with
  | nil => exact exact
  | cons objectInstanceHandle rest ih =>
      rw [List.foldl_cons]
      apply ih
      exact exact.introduce connectHandle objectInstanceHandle

/-- A subscription keeps the connects informed. -/
theorem Exact.subscription
    (exact : self.Exact) (connectHandle : ConnectHandle)
    (objectClassHandle : ObjectClassHandle)
    (attributeHandles : List AttributeHandle)
    (subscriptionType : SubscriptionType) :
    (self.acceptChangeObjectClassSubscription connectHandle
      objectClassHandle attributeHandles subscriptionType).Exact := by
  rw [acceptChangeObjectClassSubscription]
  split
  · exact exact
  · have start : self.Wants (SubscriptionChange.record objectClassHandle
        subscriptionType { server := self }) := by
      refine exact.sent rfl rfl ?_
      intro other _ otherClass attributeHandle
      simp [SubscriptionChange.record]
    have wants := @SubscriptionChange.wants_changeAttributes { server := self }
      connectHandle objectClassHandle subscriptionType start attributeHandles
    generalize attributeHandles.foldl (SubscriptionChange.changeAttribute
      connectHandle objectClassHandle subscriptionType) { server := self } =
        change at wants
    dsimp only
    have propagated : (change.server.sendEach change.sendAttributeHandlesMap
        fun handles => .changeObjectClassSubscription objectClassHandle
          handles subscriptionType).Exact := by
      refine wants.sent ?_ ?_ ?_
      · rw [sendEach, sendAll_objectClasses]
      · rw [sendEach, sendAll_connectHandles]
      · intro other known otherClass attributeHandle
        rw [told_sendEach known]
        rfl
    split
    · exact propagated
    · exact propagated.introduceAll connectHandle _

end ObjectServer

/-! ## Runs -/

/-- The messages by which a connect declares what it publishes and subscribes
to. -/
inductive ObjectClassDeclaration
  | changeObjectClassPublication
      (connectHandle : ConnectHandle)
      (objectClassHandle : ObjectClassHandle)
      (attributeHandles : List AttributeHandle)
      (publicationType : PublicationType)
  | changeObjectClassSubscription
      (connectHandle : ConnectHandle)
      (objectClassHandle : ObjectClassHandle)
      (attributeHandles : List AttributeHandle)
      (subscriptionType : SubscriptionType)
  deriving DecidableEq

namespace ObjectClassDeclaration

def connectHandle : ObjectClassDeclaration → ConnectHandle
  | .changeObjectClassPublication connectHandle _ _ _ => connectHandle
  | .changeObjectClassSubscription connectHandle _ _ _ => connectHandle

def apply
    (self : ObjectServer) : ObjectClassDeclaration → ObjectServer
  | .changeObjectClassPublication connectHandle objectClassHandle
      attributeHandles publicationType =>
      self.acceptChangeObjectClassPublication connectHandle
        objectClassHandle attributeHandles publicationType
  | .changeObjectClassSubscription connectHandle objectClassHandle
      attributeHandles subscriptionType =>
      self.acceptChangeObjectClassSubscription connectHandle
        objectClassHandle attributeHandles subscriptionType

end ObjectClassDeclaration

namespace ObjectServer

/-- A node with its object classes, of which nobody has published or subscribed
to anything. -/
structure Fresh (server : ObjectServer) : Prop where
  undeclared : ∀ objectClass ∈ server.objectClasses.classes.values,
    ∀ classAttribute ∈ objectClass.classAttributes,
      classAttribute.publishSubscribe = {}
  sent : server.sent = []

/-- The node over the declarations of its connects. -/
def declarations
    (initial : ObjectServer) :
    TransitionSystem ObjectServer ObjectClassDeclaration where
  initial := initial
  next self declaration :=
    if declaration.connectHandle ∈ self.connectHandles then
      some (declaration.apply self)
    else none

theorem Fresh.publishSubscribe?_eq
    (fresh : self.Fresh)
    (found : self.publishSubscribe? objectClassHandle attributeHandle =
      some publishSubscribe) :
    publishSubscribe = {} := by
  obtain ⟨node, foundClass, foundAttribute⟩ :=
    Option.bind_eq_some_iff.mp found
  obtain ⟨classAttribute, here, rfl⟩ :=
    Option.map_eq_some_iff.mp foundAttribute
  have member : node.2 ∈ self.objectClasses.classes.values :=
    List.mem_map_of_mem (Forest.find?_eq_some foundClass).1
  exact fresh.undeclared node.2 member classAttribute
    (findGrouped_eq_some here).1

theorem Fresh.exact
    (fresh : self.Fresh) :
    self.Exact := by
  intro objectClassHandle attributeHandle publishSubscribe found
  rw [fresh.publishSubscribe?_eq found]
  refine ⟨rfl, fun connectHandle _ => ?_⟩
  rw [told, fresh.sent]
  rfl

theorem Fresh.exact_of_reachable
    (fresh : initial.Fresh)
    (reachable : (declarations initial).Reachable self) :
    self.Exact := by
  refine TransitionSystem.Reachable.invariant Exact fresh.exact ?_ reachable
  intro before declaration after exact stepped
  simp only [declarations] at stepped
  split at stepped
  · cases stepped
    cases declaration with
    | changeObjectClassPublication => exact exact.publication _ _ _ _
    | changeObjectClassSubscription => exact exact.subscription _ _ _ _
  · cases stepped

/-- In every run, a connect that has been told last that an attribute is
subscribed publishes it, and another connect is subscribed to it; and the other
way round. -/
theorem told_subscribed_iff
    {initial self : ObjectServer}
    (fresh : initial.Fresh)
    (reachable : (declarations initial).Reachable self)
    {connectHandle : ConnectHandle}
    (known : connectHandle ∈ self.connectHandles)
    {objectClassHandle : ObjectClassHandle}
    {attributeHandle : AttributeHandle}
    {publishSubscribe : PublishSubscribe}
    (found : self.publishSubscribe? objectClassHandle attributeHandle =
      some publishSubscribe) :
    self.told connectHandle objectClassHandle attributeHandle = true ↔
      publishSubscribe.getPublicationType connectHandle = .published ∧
        ∃ other, other ≠ connectHandle ∧
          publishSubscribe.getSubscriptionType other ≠ .unsubscribed := by
  obtain ⟨nobodyActive, wanted⟩ :=
    fresh.exact_of_reachable reachable _ _ _ found
  rw [wanted connectHandle known]
  exact PublishSubscribe.isWanted_iff nobodyActive connectHandle

/-- A node of three connects with one class of two attributes. -/
def threeConnects : ObjectServer where
  objectClasses :=
    { classes := .cons
        { objectClassHandle := 0
          name := ["HLAobjectRoot"]
          classAttributes :=
            [{ attributeHandle := 0, definedBy := 0, name := "a" },
              { attributeHandle := 1, definedBy := 0, name := "b" }] }
        .nil .nil }
  connectHandles := {1, 2, 3}

theorem threeConnects_fresh : threeConnects.Fresh where
  undeclared := by decide
  sent := rfl

/-- Two connects publish and subscribe to both attributes.  One of them stops
subscribing to one, the other one stops publishing the other one. -/
def crossedDeclarations : List ObjectClassDeclaration :=
  [.changeObjectClassSubscription 1 0 [0, 1] .subscribedActive,
    .changeObjectClassPublication 2 0 [1, 0] .published,
    .changeObjectClassPublication 1 0 [0, 1] .published,
    .changeObjectClassSubscription 2 0 [0, 1] .subscribedPassive,
    .changeObjectClassSubscription 1 0 [1] .unsubscribed,
    .changeObjectClassPublication 2 0 [0] .unpublished]

/-- Whoever does not publish any longer is told that nobody subscribes. -/
theorem told_subscribed_iff_crossed :
    ∃ final publishSubscribe,
      (declarations threeConnects).run threeConnects crossedDeclarations =
          some final ∧
        final.publishSubscribe? 0 0 = some publishSubscribe ∧
        publishSubscribe.getSubscriptionType 1 ≠ .unsubscribed ∧
        publishSubscribe.getPublicationType 2 = .unpublished ∧
        final.told 2 0 0 = false ∧
        final.told 2 0 1 = false ∧
        final.told 1 0 0 = true ∧
        (final.told 2 0 0 = true ↔
          publishSubscribe.getPublicationType 2 = .published ∧
            ∃ other, other ≠ 2 ∧
              publishSubscribe.getSubscriptionType other ≠
                .unsubscribed) := by
  have reachable : (declarations threeConnects).Reachable _ :=
    TransitionSystem.reachable_of_run crossedDeclarations rfl
  refine ⟨_, _, rfl, rfl, by decide, by decide, by decide, by decide,
    by decide, ?_⟩
  exact told_subscribed_iff threeConnects_fresh reachable (by decide) rfl

end ObjectServer
end ServerNode
end OpenRTI
