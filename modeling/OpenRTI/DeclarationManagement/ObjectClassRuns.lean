import OpenRTI.DeclarationManagement.ObjectClassCalls
import OpenRTI.Foundation.MessageLog

/-!
# What the server has been told of the declarations

The last type sent for an attribute is the effective type of the federate, over
all sequences of calls but for one slip: unsubscribing attribute 0 tells the
server that it is unsubscribed where a passive subscription of the class has
become effective.
-/

namespace OpenRTI
namespace DeclarationManagement

open Foundation
open Foundation.FailingState (except_bind_eq_ok)
open ServerModel (AttributeHandle ObjectClassHandle PublicationType
  SubscriptionType)

/-- The publication a message tells for an attribute. -/
def AmbassadorMessage.publicationOf
    (objectClassHandle : ObjectClassHandle)
    (attributeHandle : AttributeHandle) :
    AmbassadorMessage → Option PublicationType
  | .changeObjectClassPublication told publicationType attributeHandles =>
      if told = objectClassHandle ∧ attributeHandle ∈ attributeHandles then
        some publicationType
      else none
  | _ => none

/-- The subscription a message tells for an attribute. -/
def AmbassadorMessage.subscriptionOf
    (objectClassHandle : ObjectClassHandle)
    (attributeHandle : AttributeHandle) :
    AmbassadorMessage → Option SubscriptionType
  | .changeObjectClassSubscription told subscriptionType attributeHandles =>
      if told = objectClassHandle ∧ attributeHandle ∈ attributeHandles then
        some subscriptionType
      else none
  | _ => none

namespace ObjectClass

/-- The last publication sent for each attribute is the effective one. -/
def PublicationTold
    (sent : List AmbassadorMessage)
    (objectClassHandle : ObjectClassHandle)
    (self : ObjectClass) : Prop :=
  ∀ attributeHandle,
    lastTold (AmbassadorMessage.publicationOf objectClassHandle
        attributeHandle) .unpublished sent =
      self.getEffectiveAttributePublicationType attributeHandle

/-- The last subscription sent for each attribute is the effective one. -/
def SubscriptionTold
    (sent : List AmbassadorMessage)
    (objectClassHandle : ObjectClassHandle)
    (self : ObjectClass) : Prop :=
  ∀ attributeHandle,
    lastTold (AmbassadorMessage.subscriptionOf objectClassHandle
        attributeHandle) .unsubscribed sent =
      self.getEffectiveAttributeSubscriptionType attributeHandle

end ObjectClass

variable {self after : Ambassador}

namespace Ambassador

/-- The object class of a handle, where there is a joined federate. -/
def objectClass?
    (self : Ambassador)
    (objectClassHandle : ObjectClassHandle) : Option ObjectClass :=
  self.federate.bind fun federate => federate.getObjectClass objectClassHandle

/-- The last types sent for each attribute of each class are the effective
ones. -/
def Told (self : Ambassador) : Prop :=
  ∀ objectClassHandle objectClass,
    self.objectClass? objectClassHandle = some objectClass →
    objectClass.PublicationTold self.sent objectClassHandle ∧
      objectClass.SubscriptionTold self.sent objectClassHandle

/-- Nothing is declared and nothing has been sent. -/
structure Fresh (ambassador : Ambassador) : Prop where
  sent : ambassador.sent = []
  declared : ∀ objectClassHandle objectClass,
    ambassador.objectClass? objectClassHandle = some objectClass →
    objectClass.publication = .initial ∧ objectClass.subscription = .initial

theorem Fresh.told
    (fresh : self.Fresh) :
    self.Told := by
  intro objectClassHandle objectClass found
  obtain ⟨publication, subscription⟩ := fresh.declared _ _ found
  rw [fresh.sent]
  constructor
  · intro attributeHandle
    rw [ObjectClass.getEffectiveAttributePublicationType, publication]
    by_cases zero : attributeHandle = 0 <;>
      simp [DeclaredTypes.effectiveAttributeType, DeclaredTypes.initial, zero]
      <;> rfl
  · intro attributeHandle
    rw [ObjectClass.getEffectiveAttributeSubscriptionType, subscription]
    by_cases zero : attributeHandle = 0 <;>
      simp [DeclaredTypes.effectiveAttributeType, DeclaredTypes.initial, zero]
      <;> rfl

variable {objectClassHandle : ObjectClassHandle} {federate : Federate}
variable {objectClass : ObjectClass}

/-! ## What the parts of a call do -/

theorem getObjectClass_ok
    (found : self.getObjectClass objectClassHandle =
      .ok (federate, objectClass)) :
    self.federate = some federate ∧
      federate.getObjectClass objectClassHandle = some objectClass := by
  rw [getObjectClass] at found
  split at found
  · cases found
  · split at found
    · cases found
    · next federate' joined =>
        split at found
        · cases found
        · next objectClass' known =>
            cases found
            exact ⟨joined, known⟩

theorem objectClass?_withObjectClass
    (found : self.getObjectClass objectClassHandle =
      .ok (federate, objectClass))
    (changed : ObjectClass) (other : ObjectClassHandle) :
    (self.withObjectClass federate objectClassHandle changed).objectClass?
        other =
      if other = objectClassHandle then some changed
      else self.objectClass? other := by
  obtain ⟨joined, known⟩ := getObjectClass_ok found
  rw [Federate.getObjectClass, Option.join_eq_some_iff,
    List.getElem?_eq_some_iff] at known
  obtain ⟨inBounds, _⟩ := known
  rw [objectClass?, objectClass?, joined]
  simp only [withObjectClass, Federate.withObjectClass, Option.bind_some,
    Federate.getObjectClass]
  by_cases here : other = objectClassHandle
  · rw [here, if_pos rfl, List.getElem?_set_self inBounds]
    rfl
  · rw [if_neg here, List.getElem?_set_ne (Ne.symm here)]

theorem sent_sendPublication
    (objectClassHandle other : ObjectClassHandle)
    (publicationType : PublicationType)
    (attributeHandles : List AttributeHandle) (self : Ambassador)
    (attributeHandle : AttributeHandle) :
    lastTold (AmbassadorMessage.publicationOf other attributeHandle)
        .unpublished
        (self.sendPublication objectClassHandle publicationType
          attributeHandles).sent =
      if objectClassHandle = other ∧ attributeHandle ∈ attributeHandles then
        publicationType
      else lastTold (AmbassadorMessage.publicationOf other attributeHandle)
        .unpublished self.sent := by
  rw [sendPublication]
  cases attributeHandles with
  | nil => simp
  | cons first rest =>
      simp only [List.isEmpty_cons, Bool.false_eq_true, if_false, send,
        lastTold_concat, AmbassadorMessage.publicationOf]
      split <;> rfl

theorem sent_sendPublication_subscription
    (objectClassHandle other : ObjectClassHandle)
    (publicationType : PublicationType)
    (attributeHandles : List AttributeHandle) (self : Ambassador)
    (attributeHandle : AttributeHandle) :
    lastTold (AmbassadorMessage.subscriptionOf other attributeHandle)
        .unsubscribed
        (self.sendPublication objectClassHandle publicationType
          attributeHandles).sent =
      lastTold (AmbassadorMessage.subscriptionOf other attributeHandle)
        .unsubscribed self.sent := by
  rw [sendPublication]
  split
  · rfl
  · exact lastTold_concat _ _ _ _

theorem sent_sendSubscription
    (objectClassHandle other : ObjectClassHandle)
    (subscriptionType : SubscriptionType)
    (attributeHandles : List AttributeHandle) (self : Ambassador)
    (attributeHandle : AttributeHandle) :
    lastTold (AmbassadorMessage.subscriptionOf other attributeHandle)
        .unsubscribed
        (self.sendSubscription objectClassHandle subscriptionType
          attributeHandles).sent =
      if objectClassHandle = other ∧ attributeHandle ∈ attributeHandles then
        subscriptionType
      else lastTold (AmbassadorMessage.subscriptionOf other attributeHandle)
        .unsubscribed self.sent := by
  rw [sendSubscription]
  cases attributeHandles with
  | nil => simp
  | cons first rest =>
      simp only [List.isEmpty_cons, Bool.false_eq_true, if_false, send,
        lastTold_concat, AmbassadorMessage.subscriptionOf]
      split <;> rfl

theorem sent_sendSubscription_publication
    (objectClassHandle other : ObjectClassHandle)
    (subscriptionType : SubscriptionType)
    (attributeHandles : List AttributeHandle) (self : Ambassador)
    (attributeHandle : AttributeHandle) :
    lastTold (AmbassadorMessage.publicationOf other attributeHandle)
        .unpublished
        (self.sendSubscription objectClassHandle subscriptionType
          attributeHandles).sent =
      lastTold (AmbassadorMessage.publicationOf other attributeHandle)
        .unpublished self.sent := by
  rw [sendSubscription]
  split
  · rfl
  · exact lastTold_concat _ _ _ _

@[simp] theorem objectClass?_sendPublication
    (objectClassHandle other : ObjectClassHandle)
    (publicationType : PublicationType)
    (attributeHandles : List AttributeHandle) (self : Ambassador) :
    (self.sendPublication objectClassHandle publicationType
        attributeHandles).objectClass? other =
      self.objectClass? other := by
  rw [sendPublication]
  split <;> rfl

@[simp] theorem objectClass?_sendSubscription
    (objectClassHandle other : ObjectClassHandle)
    (subscriptionType : SubscriptionType)
    (attributeHandles : List AttributeHandle) (self : Ambassador) :
    (self.sendSubscription objectClassHandle subscriptionType
        attributeHandles).objectClass? other =
      self.objectClass? other := by
  rw [sendSubscription]
  split <;> rfl

/-- Telling something about one class is exact if it is for that class. -/
theorem told_iff_of_objectClass
    (told : self.Told)
    {changed : ObjectClass}
    (classes : ∀ other, after.objectClass? other =
      if other = objectClassHandle then some changed
      else self.objectClass? other)
    (publication : ∀ other ≠ objectClassHandle, ∀ attributeHandle,
      lastTold (AmbassadorMessage.publicationOf other attributeHandle)
          .unpublished after.sent =
        lastTold (AmbassadorMessage.publicationOf other attributeHandle)
          .unpublished self.sent)
    (subscription : ∀ other ≠ objectClassHandle, ∀ attributeHandle,
      lastTold (AmbassadorMessage.subscriptionOf other attributeHandle)
          .unsubscribed after.sent =
        lastTold (AmbassadorMessage.subscriptionOf other attributeHandle)
          .unsubscribed self.sent) :
    after.Told ↔
      changed.PublicationTold after.sent objectClassHandle ∧
        changed.SubscriptionTold after.sent objectClassHandle := by
  constructor
  · intro afterTold
    exact afterTold objectClassHandle changed
      (by rw [classes, if_pos rfl])
  · intro changedTold other otherClass otherFound
    rw [classes] at otherFound
    by_cases same : other = objectClassHandle
    · rw [if_pos same] at otherFound
      cases otherFound
      rw [same]
      exact changedTold
    · rw [if_neg same] at otherFound
      obtain ⟨publicationTold, subscriptionTold⟩ := told _ _ otherFound
      constructor
      · intro attributeHandle
        rw [publication other same]
        exact publicationTold attributeHandle
      · intro attributeHandle
        rw [subscription other same]
        exact subscriptionTold attributeHandle

/-- Telling the publication of some attributes of a class is exact if these
have changed to the type told. -/
theorem told_sendPublication_iff
    (told : self.Told)
    (found : self.getObjectClass objectClassHandle =
      .ok (federate, objectClass))
    {publicationType : PublicationType}
    {changed : DeclaredTypes PublicationType × List AttributeHandle} :
    ((self.withObjectClass federate objectClassHandle
        { objectClass with publication := changed.1 }).sendPublication
          objectClassHandle publicationType changed.2).Told ↔
      DeclaredTypes.Tells publicationType objectClass.publication
        changed := by
  obtain ⟨joined, known⟩ := getObjectClass_ok found
  obtain ⟨publicationTold, subscriptionTold⟩ := told objectClassHandle
    objectClass (by rw [objectClass?, joined]; exact known)
  have classes := objectClass?_withObjectClass found
    { objectClass with publication := changed.1 }
  simp only [← objectClass?_sendPublication objectClassHandle _
    publicationType changed.2 (self.withObjectClass _ _ _)] at classes
  rw [told_iff_of_objectClass told classes]
  · rw [and_iff_left]
    · apply forall_congr'
      intro attributeHandle
      rw [sent_sendPublication, eq_comm]
      simp only [true_and]
      rw [show lastTold _ _ (self.withObjectClass federate objectClassHandle
        { objectClass with publication := changed.1 }).sent = _ from
          publicationTold attributeHandle]
      rfl
    · intro attributeHandle
      rw [sent_sendPublication_subscription]
      exact subscriptionTold attributeHandle
  · intro other elsewhere attributeHandle
    rw [sent_sendPublication, if_neg fun both => elsewhere both.1.symm]
    rfl
  · intro other _ attributeHandle
    exact sent_sendPublication_subscription _ _ _ _ _ _

/-- Telling the subscription of some attributes of a class is exact if these
have changed to the type told. -/
theorem told_sendSubscription_iff
    (told : self.Told)
    (found : self.getObjectClass objectClassHandle =
      .ok (federate, objectClass))
    {subscriptionType : SubscriptionType}
    {changed : DeclaredTypes SubscriptionType × List AttributeHandle} :
    ((self.withObjectClass federate objectClassHandle
        { objectClass with subscription := changed.1 }).sendSubscription
          objectClassHandle subscriptionType changed.2).Told ↔
      DeclaredTypes.Tells subscriptionType objectClass.subscription
        changed := by
  obtain ⟨joined, known⟩ := getObjectClass_ok found
  obtain ⟨publicationTold, subscriptionTold⟩ := told objectClassHandle
    objectClass (by rw [objectClass?, joined]; exact known)
  have classes := objectClass?_withObjectClass found
    { objectClass with subscription := changed.1 }
  simp only [← objectClass?_sendSubscription objectClassHandle _
    subscriptionType changed.2 (self.withObjectClass _ _ _)] at classes
  rw [told_iff_of_objectClass told classes]
  · rw [and_iff_right]
    · apply forall_congr'
      intro attributeHandle
      rw [sent_sendSubscription, eq_comm]
      simp only [true_and]
      rw [show lastTold _ _ (self.withObjectClass federate objectClassHandle
        { objectClass with subscription := changed.1 }).sent = _ from
          subscriptionTold attributeHandle]
      rfl
    · intro attributeHandle
      rw [sent_sendSubscription_publication]
      exact publicationTold attributeHandle
  · intro other _ attributeHandle
    exact sent_sendSubscription_publication _ _ _ _ _ _
  · intro other elsewhere attributeHandle
    rw [sent_sendSubscription, if_neg fun both => elsewhere both.1.symm]
    rfl

/-- Neither callbacks nor releases of instances tell anything about types. -/
theorem told_queueCallback
    {message : RegistrationForObjectClassMessage} :
    (self.queueCallback message).Told ↔ self.Told := Iff.rfl

theorem told_releaseObjectInstances :
    (self.releaseObjectInstances objectClassHandle).Told ↔ self.Told := by
  rw [releaseObjectInstances]
  cases joined : self.federate with
  | none => rfl
  | some federate =>
      have classes : ∀ other,
          Ambassador.objectClass? { self with
            federate := some { federate with
              objectInstances := federate.objectInstances.filter
                fun objectInstance =>
                  !Federate.isReleased objectClassHandle objectInstance }
            sent := self.sent ++
              (federate.objectInstances.filter
                (Federate.isReleased objectClassHandle)).map
                  fun objectInstance =>
                    .releaseMultipleObjectInstanceNameHandlePairs
                      [objectInstance.objectInstanceHandle] } other =
            self.objectClass? other := by
        intro other
        rw [objectClass?, objectClass?, joined]
        rfl
      simp only [Told, classes, ObjectClass.PublicationTold,
        ObjectClass.SubscriptionTold, lastTold_append]
      have silent : ∀ {τ : Type}
          (tells : AmbassadorMessage → Option τ) (known : τ),
          (∀ handles, tells
            (.releaseMultipleObjectInstanceNameHandlePairs handles) = none) →
          lastTold tells known ((federate.objectInstances.filter
            (Federate.isReleased objectClassHandle)).map fun objectInstance =>
              .releaseMultipleObjectInstanceNameHandlePairs
                [objectInstance.objectInstanceHandle]) = known := by
        intro τ tells known silent
        apply lastTold_of_silent
        intro message member
        obtain ⟨objectInstance, _, rfl⟩ := List.mem_map.mp member
        exact silent _
      simp only [silent (AmbassadorMessage.publicationOf _ _) _
          fun _ => rfl,
        silent (AmbassadorMessage.subscriptionOf _ _) _ fun _ => rfl]

variable {attributeHandles : List AttributeHandle}

/-! ## What the calls do -/

theorem checkAttributes_ok :
    checkAttributes objectClass attributeHandles = .ok () ↔
      attributeHandles.all objectClass.getAttribute = true := by
  induction attributeHandles with
  | nil => simp [checkAttributes]
  | cons attributeHandle rest ih =>
      rw [checkAttributes, List.all_cons]
      split
      · next known => rw [ih, known, Bool.true_and]
      · next unknown => simp [unknown]

theorem checkAttributeZero_ok
    (checked : checkAttributeZero objectClass = .ok ()) :
    0 < objectClass.getNumAttributes := by
  rw [checkAttributeZero] at checked
  split at checked
  · next known =>
      rw [ObjectClass.getNumAttributes]
      apply Nat.pos_of_ne_zero
      intro empty
      rw [ObjectClass.getAttribute, List.length_eq_zero_iff.mp empty]
        at known
      cases known
  · cases checked

theorem declarable_published :
    DeclaredTypes.Declarable PublicationType.published := by
  intro inner outer above further
  cases inner <;> cases outer <;> revert above further <;> decide

theorem declarable_subscribed (active : Bool) :
    DeclaredTypes.Declarable
      (if active then SubscriptionType.subscribedActive
        else SubscriptionType.subscribedPassive) := by
  intro inner outer above further
  cases active <;> cases inner <;> cases outer <;> revert above further <;>
    decide

/-- Withdrawing the publication of attributes never uncovers anything. -/
theorem covers_unpublished
    (self : DeclaredTypes PublicationType)
    (attributeHandles : List AttributeHandle) :
    self.Covers .unpublished attributeHandles := by
  intro _
  cases self.ofClass with
  | unpublished => exact Or.inl le_rfl
  | published =>
      right
      cases self.ofAttribute 0 <;> decide

theorem told_publishObjectClassAttributes
    (told : self.Told)
    (ran : self.publishObjectClassAttributes objectClassHandle
      attributeHandles = .ok after) :
    after.Told := by
  simp only [publishObjectClassAttributes, except_bind_eq_ok] at ran
  obtain ⟨⟨federate, objectClass⟩, found, _, _, _, _, ran⟩ := ran
  cases ran
  have exact := (told_sendPublication_iff told found).mpr
    (DeclaredTypes.declare_tells declarable_published attributeHandles
      objectClass.publication)
  split
  · exact told_queueCallback.mpr exact
  · exact exact

theorem told_unpublishObjectClass
    (told : self.Told)
    (ran : self.unpublishObjectClass objectClassHandle = .ok after) :
    after.Told := by
  simp only [unpublishObjectClass, except_bind_eq_ok] at ran
  obtain ⟨⟨federate, objectClass⟩, found, _, zero, _, _, ran⟩ := ran
  cases ran
  exact (told_sendPublication_iff told found).mpr
    (DeclaredTypes.withdraw_tells (checkAttributeZero_ok zero)
      objectClass.publication)

theorem told_unpublishObjectClassAttributes
    (told : self.Told)
    (ran : self.unpublishObjectClassAttributes objectClassHandle
      attributeHandles = .ok after) :
    after.Told := by
  simp only [unpublishObjectClassAttributes, except_bind_eq_ok] at ran
  obtain ⟨⟨federate, objectClass⟩, found, _, _, ran⟩ := ran
  cases ran
  exact (told_sendPublication_iff told found).mpr
    (DeclaredTypes.setAttributeTypes_tells (covers_unpublished _ _))

theorem told_subscribeObjectClassAttributes
    (told : self.Told)
    {active : Bool} {updateRateDesignator : String}
    (ran : self.subscribeObjectClassAttributes objectClassHandle
      attributeHandles active updateRateDesignator = .ok after) :
    after.Told := by
  simp only [subscribeObjectClassAttributes, except_bind_eq_ok] at ran
  obtain ⟨⟨federate, objectClass⟩, found, _, _, ran⟩ := ran
  split at ran
  · cases ran
  · dsimp only at ran
    split at ran
    · cases ran
    · simp only [except_bind_eq_ok] at ran
      obtain ⟨_, _, ran⟩ := ran
      cases ran
      exact (told_sendSubscription_iff told found).mpr
        (DeclaredTypes.declare_tells (declarable_subscribed active)
          attributeHandles objectClass.subscription)

theorem told_unsubscribeObjectClass
    (told : self.Told)
    (ran : self.unsubscribeObjectClass objectClassHandle = .ok after) :
    after.Told := by
  simp only [unsubscribeObjectClass, except_bind_eq_ok] at ran
  obtain ⟨⟨federate, objectClass⟩, found, _, zero, _, _, ran⟩ := ran
  cases ran
  have exact := (told_sendSubscription_iff told found).mpr
    (DeclaredTypes.withdraw_tells (checkAttributeZero_ok zero)
      objectClass.subscription)
  split
  · exact exact
  · exact told_releaseObjectInstances.mpr exact

/-- Unsubscribing attributes is told exactly unless it uncovers a subscription
of the class. -/
theorem told_unsubscribeObjectClassAttributes_iff
    (told : self.Told)
    (ran : self.unsubscribeObjectClassAttributes objectClassHandle
      attributeHandles = .ok after) :
    ∃ federate objectClass,
      self.getObjectClass objectClassHandle = .ok (federate, objectClass) ∧
        attributeHandles.all objectClass.getAttribute = true ∧
        (after.Told ↔ objectClass.subscription.Covers .unsubscribed
          attributeHandles) := by
  simp only [unsubscribeObjectClassAttributes, except_bind_eq_ok] at ran
  obtain ⟨⟨federate, objectClass⟩, found, _, checked, ran⟩ := ran
  refine ⟨federate, objectClass, found, checkAttributes_ok.mp checked, ?_⟩
  rw [← DeclaredTypes.setAttributeTypes_tells_iff,
    ← told_sendSubscription_iff told found]
  split at ran
  · cases ran
    rfl
  · simp only [except_bind_eq_ok] at ran
    obtain ⟨_, _, ran⟩ := ran
    cases ran
    split
    · exact told_releaseObjectInstances
    · rfl

end Ambassador

/-- The call unsubscribes attribute 0, which is subscribed actively while its
class is subscribed passively. -/
def DeclarationCall.uncovers (self : Ambassador) : DeclarationCall → Bool
  | .unsubscribeObjectClassAttributes objectClassHandle attributeHandles =>
      match self.getObjectClass objectClassHandle with
      | .error _ => false
      | .ok (_, objectClass) =>
          attributeHandles.all objectClass.getAttribute &&
            attributeHandles.contains 0 &&
            objectClass.subscription.ofClass = .subscribedPassive &&
            objectClass.subscription.ofAttribute 0 = .subscribedActive
  | _ => false

namespace DeclarationCall

theorem covers_unsubscribed_iff
    (self : DeclaredTypes SubscriptionType)
    (attributeHandles : List AttributeHandle) :
    self.Covers .unsubscribed attributeHandles ↔
      ¬ (attributeHandles.contains 0 = true ∧
        self.ofClass = .subscribedPassive ∧
        self.ofAttribute 0 = .subscribedActive) := by
  rw [DeclaredTypes.Covers, List.contains_iff_mem, not_and]
  apply imp_congr_right
  intro _
  cases self.ofClass <;> cases self.ofAttribute 0 <;> decide

/-- A call that succeeds is told exactly unless it uncovers a subscription of
the class. -/
theorem told_iff
    (told : self.Told)
    {call : DeclarationCall}
    (ran : call.apply self = .ok after) :
    after.Told ↔ call.uncovers self = false := by
  cases call with
  | publishObjectClassAttributes =>
      exact iff_of_true
        (Ambassador.told_publishObjectClassAttributes told ran) rfl
  | unpublishObjectClass =>
      exact iff_of_true (Ambassador.told_unpublishObjectClass told ran) rfl
  | unpublishObjectClassAttributes =>
      exact iff_of_true
        (Ambassador.told_unpublishObjectClassAttributes told ran) rfl
  | subscribeObjectClassAttributes =>
      exact iff_of_true
        (Ambassador.told_subscribeObjectClassAttributes told ran) rfl
  | unsubscribeObjectClass =>
      exact iff_of_true (Ambassador.told_unsubscribeObjectClass told ran) rfl
  | unsubscribeObjectClassAttributes objectClassHandle attributeHandles =>
      obtain ⟨federate, objectClass, found, checked, exact⟩ :=
        Ambassador.told_unsubscribeObjectClassAttributes_iff told ran
      rw [exact, covers_unsubscribed_iff, uncovers, found]
      simp only [checked, Bool.true_and]
      rw [← Bool.not_eq_true, Bool.and_eq_true, Bool.and_eq_true,
        decide_eq_true_eq, decide_eq_true_eq, and_assoc]

end DeclarationCall

namespace Ambassador

/-- In every run without a call that unsubscribes an active attribute 0 of a
passively subscribed class, the last type sent for each attribute of each class
is the effective one.  After such a call that returns it is not. -/
theorem lastTold_effective
    {initial self : Ambassador}
    (fresh : initial.Fresh)
    (reachable : (system initial).ReachableUnder
      (fun before call => call.uncovers before = false) self) :
    (∀ objectClassHandle objectClass,
        self.objectClass? objectClassHandle = some objectClass →
        ∀ attributeHandle,
          lastTold (AmbassadorMessage.publicationOf objectClassHandle
              attributeHandle) .unpublished self.sent =
            objectClass.getEffectiveAttributePublicationType
              attributeHandle ∧
          lastTold (AmbassadorMessage.subscriptionOf objectClassHandle
              attributeHandle) .unsubscribed self.sent =
            objectClass.getEffectiveAttributeSubscriptionType
              attributeHandle) ∧
      ∀ (call : DeclarationCall) (after : Ambassador),
        call.apply self = .ok after →
        call.uncovers self = true → ¬ after.Told := by
  have told : self.Told := by
    refine TransitionSystem.ReachableUnder.invariant Told fresh.told ?_
      reachable
    intro before call after beforeTold covers stepped
    simp only [system] at stepped
    split at stepped
    · next ran =>
        cases stepped
        exact (DeclarationCall.told_iff beforeTold ran).mpr covers
    · cases stepped
    · cases stepped
      exact beforeTold
  refine ⟨?_, ?_⟩
  · intro objectClassHandle objectClass found attributeHandle
    obtain ⟨publication, subscription⟩ := told _ _ found
    exact ⟨publication attributeHandle, subscription attributeHandle⟩
  · intro call after ran uncovers
    rw [DeclarationCall.told_iff told ran, uncovers]
    exact Bool.noConfusion

/-- A federate with one class of two attributes. -/
def twoAttributes : Ambassador where
  isConnected := true
  federate := some { objectClassVector := [some { attributeVector := [true,
    true] }] }

theorem twoAttributes_fresh : twoAttributes.Fresh where
  sent := rfl
  declared := by
    intro objectClassHandle objectClass found
    cases objectClassHandle with
    | zero =>
        cases found
        exact ⟨rfl, rfl⟩
    | succ objectClassHandle => cases found

/-- Attribute 0 is subscribed actively and the class passively. -/
def uncoveringCalls : List DeclarationCall :=
  [.subscribeObjectClassAttributes 0 [1, 0] true "",
    .subscribeObjectClassAttributes 0 [1] false ""]

/-- Both attributes are known to be subscribed as the federate has them. -/
theorem lastTold_effective_two_attributes :
    ∃ final objectClass,
      (system twoAttributes).run twoAttributes uncoveringCalls =
          some final ∧
        final.objectClass? 0 = some objectClass ∧
        objectClass.getEffectiveAttributeSubscriptionType 0 =
          .subscribedActive ∧
        objectClass.getEffectiveAttributeSubscriptionType 1 =
          .subscribedPassive ∧
        ∀ attributeHandle,
          lastTold (AmbassadorMessage.subscriptionOf 0 attributeHandle)
              .unsubscribed final.sent =
            objectClass.getEffectiveAttributeSubscriptionType
              attributeHandle := by
  have reachable : ((system twoAttributes).restrict fun before call =>
      !call.uncovers before).Reachable _ :=
    TransitionSystem.reachable_of_run uncoveringCalls rfl
  refine ⟨_, _, rfl, rfl, by decide, by decide, ?_⟩
  intro attributeHandle
  have exact := (lastTold_effective twoAttributes_fresh
    ((TransitionSystem.reachableUnder_of_restrict reachable).mono
      fun _ _ covers => by simpa using covers)).1 0 _ rfl attributeHandle
  exact exact.2

/-- When attribute 0 is unsubscribed, the server is told so while the passive
subscription of the class is effective. -/
theorem lastTold_effective_fails_uncovered :
    ∃ final objectClass,
      (system twoAttributes).Reachable final ∧
        final.objectClass? 0 = some objectClass ∧
        lastTold (AmbassadorMessage.subscriptionOf 0 0) .unsubscribed
          final.sent = .unsubscribed ∧
        objectClass.getEffectiveAttributeSubscriptionType 0 =
          .subscribedPassive :=
  ⟨_, _, TransitionSystem.reachable_of_run
      (uncoveringCalls ++ [.unsubscribeObjectClassAttributes 0 [0]]) rfl,
    rfl, by decide, by decide⟩

end Ambassador
end DeclarationManagement
end OpenRTI
