import OpenRTI.Foundation.Inheritance
import OpenRTI.ServerModel.AttributeHandleRuns
import OpenRTI.ServerModel.CumulativeSubscription

/-!
# Inherited subscriptions of object classes

A class has the attributes of its base class, and a connect that is subscribed to an
attribute there, or at a base class of that, is in the cumulative set of the class.  A
change of a subscription keeps this, and so does a new attribute.  A new class starts
with empty cumulative sets.
-/

namespace OpenRTI
namespace ServerModel

open Foundation

namespace ObjectClass

variable {connectHandle : ConnectHandle} {attributeHandle : AttributeHandle}

/-- Whether a connect is subscribed to an attribute at the class itself. -/
def isSubscribed
    (connectHandle : ConnectHandle)
    (attributeHandle : AttributeHandle)
    (self : ObjectClass) : Bool :=
  (self.publishSubscribe? attributeHandle).any
    (PublishSubscribe.isSubscribed connectHandle)

theorem isCumulativelySubscribed_eq (self : ObjectClass) :
    self.isCumulativelySubscribed connectHandle attributeHandle =
      (self.publishSubscribe? attributeHandle).any
        (PublishSubscribe.isCumulativelySubscribed connectHandle) := rfl

/-- Whether the class has an attribute. -/
def hasAttribute (attributeHandle : AttributeHandle) (self : ObjectClass) : Bool :=
  (self.publishSubscribe? attributeHandle).isSome

theorem publishSubscribe?_eq_none
    {self : ObjectClass}
    (absent : self.hasAttribute attributeHandle = false) :
    self.publishSubscribe? attributeHandle = none := by
  rw [hasAttribute, Option.isSome_eq_false_iff, Option.isNone_iff_eq_none] at absent
  exact absent

theorem hasAttribute_iff (self : ObjectClass) :
    self.hasAttribute attributeHandle = true ↔
      attributeHandle ∈ self.classAttributes.map ClassAttribute.attributeHandle := by
  rw [hasAttribute, publishSubscribe?, Option.isSome_map, Option.isSome_iff_exists,
    List.mem_map]
  constructor
  · rintro ⟨classAttribute, found⟩
    exact ⟨classAttribute, findGrouped_eq_some found⟩
  · rintro ⟨classAttribute, member, same⟩
    cases found : self.getClassAttribute attributeHandle with
    | none => exact absurd same (findGrouped_eq_none.mp found classAttribute member)
    | some other => exact ⟨other, rfl⟩

/-- Two classes are the same apart from what is declared for their attributes. -/
structure SameAttributes (first second : ObjectClass) : Prop where
  objectClassHandle : second.objectClassHandle = first.objectClassHandle
  name : second.name = first.name
  handles : second.classAttributes.map ClassAttribute.attributeHandle =
    first.classAttributes.map ClassAttribute.attributeHandle
  attributeNames : second.attributeNames = first.attributeNames

variable {first second : ObjectClass}

theorem SameAttributes.length_definitions
    (same : SameAttributes first second) :
    second.attributeDefinitions.length = first.attributeDefinitions.length := by
  have length := congrArg List.length same.attributeNames
  rw [ObjectClass.attributeNames, ObjectClass.attributeNames, List.length_map,
    List.length_map] at length
  exact length

theorem SameAttributes.hasAttribute
    (same : SameAttributes first second)
    (attributeHandle : AttributeHandle) :
    second.hasAttribute attributeHandle = first.hasAttribute attributeHandle := by
  rw [Bool.eq_iff_iff, hasAttribute_iff, hasAttribute_iff, same.handles]

end ObjectClass

namespace ObjectClassTable

open ObjectClass

/-- Every class has the attributes of its base class. -/
def InheritsAttributes (table : ObjectClassTable) : Prop :=
  ∀ node ∈ table.classes.nodes, ∀ parent ∈ node.1.head?, ∀ attributeHandle,
    parent.hasAttribute attributeHandle = true →
      node.2.hasAttribute attributeHandle = true

/-- Every class has the attributes of its base class, and the subscriptions to them. -/
structure InheritsSubscriptions (table : ObjectClassTable) : Prop where
  attributes : table.InheritsAttributes
  totals : ∀ connectHandle attributeHandle,
    table.classes.Inherits (isSubscribed connectHandle attributeHandle)
      (isCumulativelySubscribed connectHandle attributeHandle)

theorem InheritsSubscriptions.initial : InheritsSubscriptions {} where
  attributes _ member := by cases member
  totals _ _ _ member := by cases member

variable {self : ObjectClassTable}

variable {change : List ObjectClass → ObjectClass → ObjectClass}

/-- A change that keeps the attributes of all classes keeps that they are inherited. -/
theorem InheritsAttributes.mapNodes
    (inherits : self.InheritsAttributes)
    (same : ∀ ancestors objectClass,
      SameAttributes objectClass (change ancestors objectClass)) :
    InheritsAttributes { self with classes := self.classes.mapNodes change } := by
  intro changed changedMember parent above attributeHandle
  rw [Forest.nodes_mapNodes] at changedMember
  obtain ⟨⟨ancestors, objectClass⟩, member, rfl⟩ := List.mem_map.mp changedMember
  cases ancestors with
  | nil => cases above
  | cons first rest =>
      rw [Forest.mapAncestors_cons, List.head?_cons, Option.mem_some_iff] at above
      rw [← above, (same _ _).hasAttribute, (same _ _).hasAttribute]
      exact inherits _ member first rfl attributeHandle

theorem Regular.mapNodes
    (regular : self.Regular)
    (same : ∀ ancestors objectClass,
      SameAttributes objectClass (change ancestors objectClass)) :
    Regular { self with classes := self.classes.mapNodes change } where
  tree := regular.tree.mapNodes
    (fun ancestors objectClass => (same ancestors objectClass).objectClassHandle)
    fun ancestors objectClass => (same ancestors objectClass).name
  definitions := by
    intro changed value
    obtain ⟨changedAncestors, changedMember⟩ := Forest.mem_values.mp value
    rw [Forest.nodes_mapNodes] at changedMember
    obtain ⟨⟨ancestors, objectClass⟩, member, equal⟩ := List.mem_map.mp changedMember
    obtain ⟨rfl, rfl⟩ := Prod.mk.inj equal
    rw [(same ancestors objectClass).attributeNames]
    exact regular.definitions _ (ClassTree.mem_values_of_mem_nodes member)

/-! ## Changes of subscriptions -/

theorem sameAttributes_modifyClassAttribute
    (attributeHandle : AttributeHandle)
    (change : PublishSubscribe → PublishSubscribe)
    (objectClass : ObjectClass) :
    SameAttributes objectClass
      (objectClass.modifyClassAttribute attributeHandle change) where
  objectClassHandle := rfl
  name := rfl
  handles := by
    rw [ObjectClass.modifyClassAttribute]
    apply @map_modifyGrouped ClassAttribute AttributeHandle
    intro classAttribute
    rfl
  attributeNames := rfl

variable {observe : PublishSubscribe → Bool} {other : AttributeHandle}

/-- Observations that a change of an attribute keeps. -/
theorem any_modifyClassAttribute
    {change : PublishSubscribe → PublishSubscribe}
    {attributeHandle : AttributeHandle}
    (keeps : other = attributeHandle → ∀ publishSubscribe,
      observe (change publishSubscribe) = observe publishSubscribe)
    (objectClass : ObjectClass) :
    ((objectClass.modifyClassAttribute attributeHandle change).publishSubscribe?
        other).any observe =
      (objectClass.publishSubscribe? other).any observe := by
  rw [ObjectClass.publishSubscribe?_modifyClassAttribute]
  split
  next same =>
    cases objectClass.publishSubscribe? other with
    | none => rfl
    | some publishSubscribe => exact keeps same publishSubscribe
  next => rfl

/-- A connect changes its subscription to an attribute at a class. -/
def changeSubscription
    (objectClassHandle : ObjectClassHandle)
    (attributeHandle : AttributeHandle)
    (connectHandle : ConnectHandle)
    (subscriptionType : SubscriptionType)
    (self : ObjectClassTable) : ObjectClassTable :=
  match self.publishSubscribe? objectClassHandle attributeHandle with
  | none => self
  | some _ =>
      (self.modifyClassAttribute objectClassHandle attributeHandle fun publishSubscribe =>
        (publishSubscribe.setSubscriptionType connectHandle
          subscriptionType).1).updateCumulativeSubscription objectClassHandle
            connectHandle attributeHandle

section ChangeSubscription

variable {objectClassHandle : ObjectClassHandle}
variable {attributeHandle : AttributeHandle} {connectHandle : ConnectHandle}

/-- What an update of the cumulative subscriptions passes down the tree. -/
theorem passesTotal_subscription
    (connectHandle : ConnectHandle) (attributeHandle : AttributeHandle) :
    Forest.PassesTotal (isSubscribed connectHandle attributeHandle)
      (isCumulativelySubscribed connectHandle attributeHandle)
      (hasAttribute attributeHandle)
      (passesSubscription connectHandle attributeHandle)
      (ObjectClass.updateCumulativeSubscription connectHandle attributeHandle)
      (parentSubscribed connectHandle attributeHandle) where
  passes_present signal objectClass present := by
    obtain ⟨publishSubscribe, found⟩ := Option.isSome_iff_exists.mp present
    rw [passesSubscription, isCumulativelySubscribed_eq, isSubscribed, found,
      Option.bind_some, Option.any_some, Option.any_some]
    change (if (publishSubscribe.updateCumulativeSubscribedConnectHandleSet
        connectHandle (signal || publishSubscribe.isSubscribed connectHandle)).2 then
      some (signal || publishSubscribe.isSubscribed connectHandle) else none) = _
    rw [PublishSubscribe.updateCumulativeSubscribedConnectHandleSet_snd]
    by_cases same : publishSubscribe.isCumulativelySubscribed connectHandle =
        (signal || publishSubscribe.isSubscribed connectHandle)
    · simp [same]
    · rw [if_neg same, if_pos (by simpa using same)]
  passes_absent signal objectClass absent := by
    rw [passesSubscription, publishSubscribe?_eq_none absent]
    rfl
  total_absent objectClass absent := by
    rw [isCumulativelySubscribed, publishSubscribe?_eq_none absent]
    rfl
  own_absent objectClass absent := by
    rw [isSubscribed, publishSubscribe?_eq_none absent]
    rfl
  own_change signal objectClass :=
    any_modifyClassAttribute
      (fun _ publishSubscribe => publishSubscribe.isSubscribed_update _ _ _) objectClass
  total_change signal objectClass present := by
    obtain ⟨publishSubscribe, found⟩ := Option.isSome_iff_exists.mp present
    rw [isCumulativelySubscribed_eq, ObjectClass.updateCumulativeSubscription,
      ObjectClass.publishSubscribe?_modifyClassAttribute, if_pos rfl, found]
    exact publishSubscribe.isCumulativelySubscribed_update connectHandle signal
  start_eq _ := rfl

/-- What a change of a subscription makes of a class. -/
def declare
    (objectClassHandle : ObjectClassHandle)
    (attributeHandle : AttributeHandle)
    (connectHandle : ConnectHandle)
    (subscriptionType : SubscriptionType)
    (_ : List ObjectClass)
    (objectClass : ObjectClass) : ObjectClass :=
  if objectClass.objectClassHandle = objectClassHandle then
    objectClass.modifyClassAttribute attributeHandle fun publishSubscribe =>
      (publishSubscribe.setSubscriptionType connectHandle subscriptionType).1
  else objectClass

theorem sameAttributes_declare
    (subscriptionType : SubscriptionType) (ancestors : List ObjectClass)
    (objectClass : ObjectClass) :
    SameAttributes objectClass
      (declare objectClassHandle attributeHandle connectHandle subscriptionType
        ancestors objectClass) := by
  rw [declare]
  split
  · exact sameAttributes_modifyClassAttribute _ _ objectClass
  · exact ⟨rfl, rfl, rfl, rfl⟩

theorem isSubscribed_declare
    {otherConnect : ConnectHandle} {other : AttributeHandle}
    {subscriptionType : SubscriptionType} {objectClass : ObjectClass}
    (different : objectClass.objectClassHandle = objectClassHandle →
      other = attributeHandle → otherConnect ≠ connectHandle)
    (ancestors : List ObjectClass) :
    (declare objectClassHandle attributeHandle connectHandle subscriptionType
        ancestors objectClass).isSubscribed otherConnect other =
      objectClass.isSubscribed otherConnect other := by
  rw [declare]
  split
  next here =>
    apply any_modifyClassAttribute
    intro same publishSubscribe
    exact publishSubscribe.isSubscribed_setSubscriptionType_of_ne (different here same)
      subscriptionType
  next => rfl

theorem isCumulativelySubscribed_declare
    (otherConnect : ConnectHandle) (other : AttributeHandle)
    (subscriptionType : SubscriptionType) (ancestors : List ObjectClass)
    (objectClass : ObjectClass) :
    (declare objectClassHandle attributeHandle connectHandle subscriptionType
        ancestors objectClass).isCumulativelySubscribed otherConnect other =
      objectClass.isCumulativelySubscribed otherConnect other := by
  rw [declare]
  split
  · rw [isCumulativelySubscribed_eq, isCumulativelySubscribed_eq]
    apply any_modifyClassAttribute
    intro _ publishSubscribe
    rfl
  · rfl

/-- What the update of the cumulative subscriptions of one connect to one attribute
makes of a class. -/
abbrev updated
    (objectClassHandle : ObjectClassHandle)
    (attributeHandle : AttributeHandle)
    (connectHandle : ConnectHandle) : List ObjectClass → ObjectClass → ObjectClass :=
  Forest.propagated (passesSubscription connectHandle attributeHandle)
    (ObjectClass.updateCumulativeSubscription connectHandle attributeHandle)
    (fun objectClass => objectClass.objectClassHandle = objectClassHandle)
    (parentSubscribed connectHandle attributeHandle)

theorem sameAttributes_updated
    (ancestors : List ObjectClass) (objectClass : ObjectClass) :
    SameAttributes objectClass
      (updated objectClassHandle attributeHandle connectHandle ancestors
        objectClass) := by
  rw [updated, Forest.propagated]
  split
  · exact ⟨rfl, rfl, rfl, rfl⟩
  · exact sameAttributes_modifyClassAttribute _ _ objectClass

/-- What other connects have, and for other attributes, is the same. -/
theorem any_updated
    (keeps : other = attributeHandle → ∀ subscribe (publishSubscribe : PublishSubscribe),
      observe (publishSubscribe.updateCumulativeSubscribedConnectHandleSet connectHandle
        subscribe).1 = observe publishSubscribe)
    (ancestors : List ObjectClass) (objectClass : ObjectClass) :
    ((updated objectClassHandle attributeHandle connectHandle ancestors
        objectClass).publishSubscribe? other).any observe =
      (objectClass.publishSubscribe? other).any observe := by
  rw [updated, Forest.propagated]
  split
  · rfl
  · exact any_modifyClassAttribute (fun same => keeps same _) objectClass

theorem changeSubscription_of_isSome
    (subscriptionType : SubscriptionType)
    (present : (self.publishSubscribe? objectClassHandle attributeHandle).isSome =
      true) :
    self.changeSubscription objectClassHandle attributeHandle connectHandle
        subscriptionType =
      { self with
        classes := (self.classes.mapNodes (declare objectClassHandle attributeHandle
          connectHandle subscriptionType)).mapNodes
            (updated objectClassHandle attributeHandle connectHandle) } := by
  obtain ⟨publishSubscribe, found⟩ := Option.isSome_iff_exists.mp present
  rw [changeSubscription, found]
  exact classes_updateCumulativeSubscription _ _ _ _

/-- A change of a subscription keeps that the subscriptions are inherited. -/
theorem InheritsSubscriptions.changeSubscription
    (inherits : self.InheritsSubscriptions) (regular : self.Regular)
    (objectClassHandle : ObjectClassHandle)
    (attributeHandle : AttributeHandle) (connectHandle : ConnectHandle)
    (subscriptionType : SubscriptionType) :
    (self.changeSubscription objectClassHandle attributeHandle connectHandle
        subscriptionType).InheritsSubscriptions ∧
      (self.changeSubscription objectClassHandle attributeHandle connectHandle
        subscriptionType).Regular := by
  cases present : (self.publishSubscribe? objectClassHandle attributeHandle).isSome with
  | false =>
      have absent : self.publishSubscribe? objectClassHandle attributeHandle = none := by
        rw [Option.isSome_eq_false_iff, Option.isNone_iff_eq_none] at present
        exact present
      rw [ObjectClassTable.changeSubscription, absent]
      exact ⟨inherits, regular⟩
  | true =>
      rw [changeSubscription_of_isSome subscriptionType present]
      have declared := inherits.attributes.mapNodes
        (@sameAttributes_declare objectClassHandle attributeHandle connectHandle
          subscriptionType)
      have declaredRegular := regular.mapNodes
        (@sameAttributes_declare objectClassHandle attributeHandle connectHandle
          subscriptionType)
      have attributes := declared.mapNodes
        (@sameAttributes_updated objectClassHandle attributeHandle connectHandle)
      refine ⟨⟨attributes, ?_⟩, declaredRegular.mapNodes
        (@sameAttributes_updated objectClassHandle attributeHandle connectHandle)⟩
      intro otherConnect other
      by_cases concerned : other = attributeHandle ∧ otherConnect = connectHandle
      · obtain ⟨rfl, rfl⟩ := concerned
        refine (passesTotal_subscription otherConnect other).inherits ?_ ?_ ?_
        · intro node member parent above
          exact declared node member parent above other
        · rintro ⟨ancestors, objectClass⟩ member here
          have outside := declaredRegular.tree.handle_notMem_ancestors member
          rw [of_decide_eq_true here] at outside
          simpa using outside
        · intro changed changedMember elsewhere
          rw [Forest.nodes_mapNodes] at changedMember
          obtain ⟨⟨ancestors, objectClass⟩, member, rfl⟩ :=
            List.mem_map.mp changedMember
          dsimp only at elsewhere ⊢
          rw [(sameAttributes_declare subscriptionType ancestors
            objectClass).objectClassHandle, decide_eq_false_iff_not] at elsewhere
          rw [isCumulativelySubscribed_declare,
            isSubscribed_declare (fun here => absurd here elsewhere),
            inherits.totals otherConnect other _ member]
          cases ancestors with
          | nil => rfl
          | cons parent further =>
              rw [Forest.mapAncestors_cons, List.head?_cons, List.head?_cons,
                Option.any_some, Option.any_some, isCumulativelySubscribed_declare]
      · have different : other = attributeHandle → otherConnect ≠ connectHandle :=
          fun same equal => concerned ⟨same, equal⟩
        have afterDeclared := (inherits.totals otherConnect other).mapNodes
          (fun ancestors objectClass =>
            @isSubscribed_declare objectClassHandle attributeHandle connectHandle
              otherConnect other subscriptionType objectClass (fun _ => different)
              ancestors)
          (isCumulativelySubscribed_declare otherConnect other subscriptionType)
        refine afterDeclared.mapNodes (any_updated ?_) (any_updated ?_)
        · intro _ subscribe publishSubscribe
          exact publishSubscribe.isSubscribed_update connectHandle otherConnect subscribe
        · intro same subscribe publishSubscribe
          exact publishSubscribe.isCumulativelySubscribed_update_of_ne (different same)
            subscribe

end ChangeSubscription

end ObjectClassTable
end ServerModel
end OpenRTI
