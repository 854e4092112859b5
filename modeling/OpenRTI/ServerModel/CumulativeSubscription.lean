import OpenRTI.ServerModel.ObjectClassTree

/-!
# Cumulative subscriptions of object classes

A connect that subscribes to an attribute at a class is subscribed to it
cumulatively at that class and all classes derived from it.  A change is passed
down the tree and stops at the classes where nothing changes.
-/

namespace OpenRTI
namespace ServerModel

open Foundation

namespace PublishSubscribe

/-- The state without what follows from the subscriptions at other classes. -/
def declared (self : PublishSubscribe) : PublishSubscribe :=
  { self with cumulativeSubscribedConnectHandleSet := ∅ }

@[simp] theorem declared_updateCumulativeSubscribedConnectHandleSet
    (self : PublishSubscribe) (connectHandle : ConnectHandle)
    (subscribe : Bool) :
    (self.updateCumulativeSubscribedConnectHandleSet connectHandle
      subscribe).1.declared = self.declared := by
  cases subscribe <;> rfl

end PublishSubscribe

namespace ObjectClass

/-- Change the publications and subscriptions of an attribute. -/
def modifyClassAttribute
    (attributeHandle : AttributeHandle)
    (change : PublishSubscribe → PublishSubscribe)
    (self : ObjectClass) : ObjectClass :=
  { self with
    classAttributes :=
      modifyGrouped ClassAttribute.attributeHandle attributeHandle
        (fun classAttribute =>
          { classAttribute with
            publishSubscribe := change classAttribute.publishSubscribe })
        self.classAttributes }

/-- The publications and subscriptions of an attribute. -/
def publishSubscribe?
    (self : ObjectClass)
    (attributeHandle : AttributeHandle) : Option PublishSubscribe :=
  (self.getClassAttribute attributeHandle).map ClassAttribute.publishSubscribe

theorem publishSubscribe?_modifyClassAttribute
    (attributeHandle other : AttributeHandle)
    (change : PublishSubscribe → PublishSubscribe) (self : ObjectClass) :
    (self.modifyClassAttribute attributeHandle change).publishSubscribe?
        other =
      if other = attributeHandle then
        (self.publishSubscribe? other).map change
      else self.publishSubscribe? other := by
  rw [publishSubscribe?, publishSubscribe?, getClassAttribute,
    getClassAttribute, modifyClassAttribute, findGrouped_modifyGrouped]
  · split
    · rw [Option.map_map, Option.map_map]
      rfl
    · rfl
  · intro classAttribute
    rfl

/-- Whether a connect is subscribed to an attribute at a class or at one of its
base classes. -/
def isCumulativelySubscribed
    (connectHandle : ConnectHandle)
    (attributeHandle : AttributeHandle)
    (self : ObjectClass) : Bool :=
  (self.publishSubscribe? attributeHandle).any fun publishSubscribe =>
    connectHandle ∈ publishSubscribe.cumulativeSubscribedConnectHandleSet

theorem publishSubscribe?_map_modifyClassAttribute
    {γ : Type} {observe : PublishSubscribe → γ}
    {change : PublishSubscribe → PublishSubscribe}
    (keeps : ∀ publishSubscribe,
      observe (change publishSubscribe) = observe publishSubscribe)
    (attributeHandle other : AttributeHandle) (self : ObjectClass) :
    ((self.modifyClassAttribute attributeHandle change).publishSubscribe?
        other).map observe =
      (self.publishSubscribe? other).map observe := by
  rw [publishSubscribe?_modifyClassAttribute]
  split
  · rw [Option.map_map]
    congr 1
    funext publishSubscribe
    exact keeps publishSubscribe
  · rfl

/-- What a class passes on to the classes derived from it when its base class
passes a subscription on.  A class without the attribute, which the source
takes not to exist, passes nothing on. -/
def passesSubscription
    (connectHandle : ConnectHandle)
    (attributeHandle : AttributeHandle)
    (subscribe : Bool)
    (self : ObjectClass) : Option Bool :=
  (self.publishSubscribe? attributeHandle).bind fun publishSubscribe =>
    let subscribe := subscribe ||
      publishSubscribe.getSubscriptionType connectHandle ≠ .unsubscribed
    if (publishSubscribe.updateCumulativeSubscribedConnectHandleSet
        connectHandle subscribe).2 then
      some subscribe
    else none

/-- Enter a connect in the cumulative set of an attribute, or remove it. -/
def updateCumulativeSubscription
    (connectHandle : ConnectHandle)
    (attributeHandle : AttributeHandle)
    (subscribe : Bool) : ObjectClass → ObjectClass :=
  modifyClassAttribute attributeHandle fun publishSubscribe =>
    (publishSubscribe.updateCumulativeSubscribedConnectHandleSet
      connectHandle subscribe).1

/-- Whether the base class passes a subscription on. -/
def parentSubscribed
    (connectHandle : ConnectHandle)
    (attributeHandle : AttributeHandle)
    (ancestors : List ObjectClass) : Bool :=
  ancestors.head?.any
    (isCumulativelySubscribed connectHandle attributeHandle)

end ObjectClass

namespace ObjectClassTable

/-- Change the publications and subscriptions of an attribute at a class. -/
def modifyClassAttribute
    (objectClassHandle : ObjectClassHandle)
    (attributeHandle : AttributeHandle)
    (change : PublishSubscribe → PublishSubscribe)
    (self : ObjectClassTable) : ObjectClassTable :=
  { self with
    classes := self.classes.mapNodes fun _ objectClass =>
      if objectClass.objectClassHandle = objectClassHandle then
        objectClass.modifyClassAttribute attributeHandle change
      else objectClass }

/-- Bring the cumulative subscriptions up to date after a connect has changed
its subscription at a class. -/
def updateCumulativeSubscription
    (objectClassHandle : ObjectClassHandle)
    (connectHandle : ConnectHandle)
    (attributeHandle : AttributeHandle)
    (self : ObjectClassTable) : ObjectClassTable :=
  { self with
    classes := self.classes.propagateFrom
      (ObjectClass.passesSubscription connectHandle attributeHandle)
      (ObjectClass.updateCumulativeSubscription connectHandle
        attributeHandle)
      (fun objectClass => objectClass.objectClassHandle = objectClassHandle)
      (ObjectClass.parentSubscribed connectHandle attributeHandle) [] }

/-- The classes whose cumulative subscription changes with a subscription at a
class, and whether the connect is subscribed there afterwards. -/
def changedClasses
    (objectClassHandle : ObjectClassHandle)
    (connectHandle : ConnectHandle)
    (attributeHandle : AttributeHandle)
    (self : ObjectClassTable) : List (ObjectClass × Bool) :=
  self.classes.visitedFrom
    (ObjectClass.passesSubscription connectHandle attributeHandle)
    (fun objectClass => objectClass.objectClassHandle = objectClassHandle)
    (ObjectClass.parentSubscribed connectHandle attributeHandle) []

/-- The publications and subscriptions of an attribute at a class. -/
def publishSubscribe?
    (self : ObjectClassTable)
    (objectClassHandle : ObjectClassHandle)
    (attributeHandle : AttributeHandle) : Option PublishSubscribe :=
  (self.findHandle objectClassHandle).bind fun node =>
    node.2.publishSubscribe? attributeHandle

/-- The class of a handle after a map that keeps the handles. -/
theorem findHandle_mapNodes
    {change : List ObjectClass → ObjectClass → ObjectClass}
    (keeps : ∀ ancestors objectClass,
      (change ancestors objectClass).objectClassHandle =
        objectClass.objectClassHandle)
    (self : ObjectClassTable) (objectClassHandle : ObjectClassHandle) :
    ({ self with classes := self.classes.mapNodes change } :
        ObjectClassTable).findHandle objectClassHandle =
      (self.findHandle objectClassHandle).map fun node =>
        (Forest.mapAncestors change node.1, change node.1 node.2) := by
  apply Forest.find?_mapNodes
  intro ancestors objectClass
  rw [keeps]

theorem publishSubscribe?_modifyClassAttribute
    (objectClassHandle otherClass : ObjectClassHandle)
    (attributeHandle other : AttributeHandle)
    (change : PublishSubscribe → PublishSubscribe)
    (self : ObjectClassTable) :
    (self.modifyClassAttribute objectClassHandle attributeHandle
        change).publishSubscribe? otherClass other =
      if otherClass = objectClassHandle ∧ other = attributeHandle then
        (self.publishSubscribe? otherClass other).map change
      else self.publishSubscribe? otherClass other := by
  rw [publishSubscribe?, modifyClassAttribute, findHandle_mapNodes,
    publishSubscribe?]
  swap
  · intro ancestors objectClass
    split
    · rfl
    · rfl
  cases here : self.findHandle otherClass with
  | none => simp
  | some node =>
      have same : node.2.objectClassHandle = otherClass := by
        simpa using (Forest.find?_eq_some here).2
      simp only [Option.map_some, Option.bind_some, same]
      by_cases inClass : otherClass = objectClassHandle
      · rw [if_pos inClass, ObjectClass.publishSubscribe?_modifyClassAttribute]
        simp [inClass]
      · rw [if_neg inClass, if_neg (fun both => inClass both.1)]

theorem classes_updateCumulativeSubscription
    (objectClassHandle : ObjectClassHandle) (connectHandle : ConnectHandle)
    (attributeHandle : AttributeHandle) (self : ObjectClassTable) :
    (self.updateCumulativeSubscription objectClassHandle connectHandle
        attributeHandle) =
      { self with
        classes := self.classes.mapNodes (Forest.propagated
          (ObjectClass.passesSubscription connectHandle attributeHandle)
          (ObjectClass.updateCumulativeSubscription connectHandle
            attributeHandle)
          (fun objectClass =>
            objectClass.objectClassHandle = objectClassHandle)
          (ObjectClass.parentSubscribed connectHandle attributeHandle)) } := by
  rw [updateCumulativeSubscription, Forest.propagateFrom_eq_mapBelow rfl]

/-- An update of the cumulative subscriptions leaves what is declared. -/
theorem declared_updateCumulativeSubscription
    (objectClassHandle otherClass : ObjectClassHandle)
    (connectHandle : ConnectHandle)
    (attributeHandle other : AttributeHandle) (self : ObjectClassTable) :
    ((self.updateCumulativeSubscription objectClassHandle connectHandle
        attributeHandle).publishSubscribe? otherClass other).map
          PublishSubscribe.declared =
      (self.publishSubscribe? otherClass other).map
        PublishSubscribe.declared := by
  rw [classes_updateCumulativeSubscription, publishSubscribe?,
    findHandle_mapNodes, publishSubscribe?]
  · cases self.findHandle otherClass with
    | none => rfl
    | some node =>
        simp only [Option.map_some, Option.bind_some, Forest.propagated]
        split
        · rfl
        · apply ObjectClass.publishSubscribe?_map_modifyClassAttribute
          intro publishSubscribe
          exact PublishSubscribe.declared_updateCumulativeSubscribedConnectHandleSet
            publishSubscribe connectHandle _
  · intro ancestors objectClass
    rw [Forest.propagated]
    split
    · rfl
    · rfl

end ObjectClassTable
end ServerModel
end OpenRTI
