import OpenRTI.Foundation.OrderedSet
import OpenRTI.ServerModel.ObjectClass

/-!
# Object instances

An object instance is known at a server node by its handle and name while some
connect references it.  Once it has been inserted it belongs to an object class,
and each of its attributes has the connects that receive its updates and the
connect it is owned by.
-/

namespace OpenRTI
namespace ServerModel

open Foundation

abbrev FederateHandle := Nat

abbrev ObjectInstanceHandle := Nat

structure InstanceAttribute where
  attributeHandle : AttributeHandle
  receivingConnects : ConnectHandleSet
  ownerConnectHandle : Option ConnectHandle := none
  ownerFederate : Option FederateHandle := none
  deriving DecidableEq

namespace InstanceAttribute

/-- Follow a subscription change of a connect at the class.  A connect that no
longer subscribes to attribute 0 keeps receiving it, since the instance may be
on its way to it. -/
def updateReceivingConnects
    (connectHandle : ConnectHandle)
    (subscribe : Bool)
    (self : InstanceAttribute) : InstanceAttribute :=
  if self.ownerConnectHandle = some connectHandle then self
  else if subscribe then
    { self with
      receivingConnects := insert connectHandle self.receivingConnects }
  else if self.attributeHandle = 0 then self
  else
    { self with
      receivingConnects := self.receivingConnects.erase connectHandle }

/-- Whether a subscription change makes a connect receive attribute 0, so that
the instance is new to it. -/
def isNewTo
    (connectHandle : ConnectHandle)
    (subscribe : Bool)
    (self : InstanceAttribute) : Bool :=
  subscribe && self.attributeHandle = 0 &&
    self.ownerConnectHandle ≠ some connectHandle &&
      connectHandle ∉ self.receivingConnects

end InstanceAttribute

/-- The owner of an attribute, as messages tell it. -/
structure AttributeState where
  attributeHandle : AttributeHandle
  ownerFederate : Option FederateHandle := none
  deriving DecidableEq

/-- The connects that reference the instance are kept in the order in which they
came to reference it. -/
structure ObjectInstance where
  objectInstanceHandle : ObjectInstanceHandle
  name : String
  objectClassHandle : Option ObjectClassHandle := none
  instanceAttributes : List InstanceAttribute := []
  connectHandles : List ConnectHandle := []
  publishSubscribe : PublishSubscribe := {}
  deriving DecidableEq

namespace ObjectInstance

def getInstanceAttribute
    (self : ObjectInstance)
    (attributeHandle : AttributeHandle) : Option InstanceAttribute :=
  findGrouped InstanceAttribute.attributeHandle attributeHandle
    self.instanceAttributes

def modifyInstanceAttribute
    (attributeHandle : AttributeHandle)
    (change : InstanceAttribute → InstanceAttribute)
    (self : ObjectInstance) : ObjectInstance :=
  { self with
    instanceAttributes :=
      modifyGrouped InstanceAttribute.attributeHandle attributeHandle change
        self.instanceAttributes }

/-- Reference the instance at a connect, unless it is referenced there. -/
def reference
    (connectHandle : ConnectHandle)
    (self : ObjectInstance) : ObjectInstance :=
  if connectHandle ∈ self.connectHandles then self
  else { self with connectHandles := self.connectHandles ++ [connectHandle] }

def setSubscriptionType
    (connectHandle : ConnectHandle)
    (subscriptionType : SubscriptionType)
    (self : ObjectInstance) : ObjectInstance :=
  { self with
    publishSubscribe :=
      (self.publishSubscribe.setSubscriptionType connectHandle
        subscriptionType).1 }

/-- The owners of all attributes. -/
def attributeStateVector (self : ObjectInstance) : List AttributeState :=
  self.instanceAttributes.map fun instanceAttribute =>
    { attributeHandle := instanceAttribute.attributeHandle
      ownerFederate := instanceAttribute.ownerFederate }

/-- Follow a subscription change of a connect at the class for one
attribute. -/
def updateReceivingConnects
    (connectHandle : ConnectHandle)
    (attributeHandle : AttributeHandle)
    (subscribe : Bool)
    (self : ObjectInstance) : ObjectInstance :=
  self.modifyInstanceAttribute attributeHandle
    (InstanceAttribute.updateReceivingConnects connectHandle subscribe)

/-- Whether a subscription change for one attribute makes the instance new to a
connect. -/
def isNewTo
    (connectHandle : ConnectHandle)
    (attributeHandle : AttributeHandle)
    (subscribe : Bool)
    (self : ObjectInstance) : Bool :=
  (self.getInstanceAttribute attributeHandle).any
    (InstanceAttribute.isNewTo connectHandle subscribe)

end ObjectInstance
end ServerModel
end OpenRTI
