import OpenRTI.Foundation.Buckets
import OpenRTI.ServerModel.CumulativeSubscription
import OpenRTI.ServerModel.ObjectInstance

/-!
# Objects at a server node

The part of a federation at a server node that is about object classes and
object instances: what the node keeps about them, and what it does when a
connect publishes or subscribes to attributes of a class.

Registering, updating and deleting instances is left out, and so is what the
node does about interactions, regions and time.
-/

namespace OpenRTI
namespace ServerNode

open Foundation
open ServerModel

structure InsertObjectInstanceMessage where
  objectInstanceHandle : ObjectInstanceHandle
  objectClassHandle : ObjectClassHandle
  name : String
  attributeStateVector : List AttributeState
  deriving DecidableEq

/-- The messages that declarations make a server node send. -/
inductive ObjectMessage
  | changeObjectClassPublication
      (objectClassHandle : ObjectClassHandle)
      (attributeHandles : List AttributeHandle)
      (publicationType : PublicationType)
  | changeObjectClassSubscription
      (objectClassHandle : ObjectClassHandle)
      (attributeHandles : List AttributeHandle)
      (subscriptionType : SubscriptionType)
  | insertObjectInstance (message : InsertObjectInstanceMessage)
  deriving DecidableEq

/-- The object instances stand in the order in which they were given their
class, those without a class anywhere.  The root has no parent connect. -/
structure ObjectServer where
  objectClasses : ObjectClassTable := {}
  objectInstances : List ObjectInstance := []
  connectHandles : ConnectHandleSet := ∅
  parentConnectHandle : Option ConnectHandle := none
  sent : List (ConnectHandle × ObjectMessage) := []
  deriving DecidableEq

namespace ObjectServer

def isParentConnect
    (self : ObjectServer)
    (connectHandle : ConnectHandle) : Bool :=
  self.parentConnectHandle = some connectHandle

def getObjectClass
    (self : ObjectServer)
    (objectClassHandle : ObjectClassHandle) : Option ObjectClass :=
  (self.objectClasses.findHandle objectClassHandle).map Prod.snd

/-- The publications and subscriptions of an attribute at a class. -/
def publishSubscribe?
    (self : ObjectServer)
    (objectClassHandle : ObjectClassHandle)
    (attributeHandle : AttributeHandle) : Option PublishSubscribe :=
  self.objectClasses.publishSubscribe? objectClassHandle attributeHandle

def getObjectInstance
    (self : ObjectServer)
    (objectInstanceHandle : ObjectInstanceHandle) : Option ObjectInstance :=
  self.objectInstances.find? fun objectInstance =>
    objectInstance.objectInstanceHandle = objectInstanceHandle

/-! ## Sending -/

/-- Send a message to a connect.  One that the node does not have gets
nothing. -/
def send
    (connectHandle : ConnectHandle)
    (message : ObjectMessage)
    (self : ObjectServer) : ObjectServer :=
  if connectHandle ∈ self.connectHandles then
    { self with sent := self.sent ++ [(connectHandle, message)] }
  else self

/-- Send messages to connects, one after the other. -/
def sendAll
    (messages : List (ConnectHandle × ObjectMessage))
    (self : ObjectServer) : ObjectServer :=
  messages.foldl (fun self message => self.send message.1 message.2) self

/-- Send a message to all connects but the one it comes from. -/
def broadcast
    (connectHandle : ConnectHandle)
    (message : ObjectMessage)
    (self : ObjectServer) : ObjectServer :=
  self.sendAll ((ascending (self.connectHandles.erase connectHandle)).map
    fun other => (other, message))

/-- Send a message to each connect of a map, made of what the map holds for
it. -/
def sendEach
    (sendAttributeHandlesMap : OrderedMap ConnectHandle (List AttributeHandle))
    (make : List AttributeHandle → ObjectMessage)
    (self : ObjectServer) : ObjectServer :=
  self.sendAll (sendAttributeHandlesMap.entries.map fun entry =>
    (entry.1, make entry.2))

/-! ## Publication -/

def modifyClassAttribute
    (objectClassHandle : ObjectClassHandle)
    (attributeHandle : AttributeHandle)
    (change : PublishSubscribe → PublishSubscribe)
    (self : ObjectServer) : ObjectServer :=
  { self with
    objectClasses := self.objectClasses.modifyClassAttribute objectClassHandle
      attributeHandle change }

/-- The server while a publication of several attributes is entered, and what is
to be told to whom about it. -/
structure PublicationChange where
  server : ObjectServer
  broadcastAttributeHandles : List AttributeHandle := []
  sendAttributeHandlesMap : OrderedMap ConnectHandle (List AttributeHandle) := ∅
  passiveSubscribeAttributeHandles : List AttributeHandle := []
  activeSubscribeAttributeHandles : List AttributeHandle := []

namespace PublicationChange

/-- Note to whom the change of one attribute is to be propagated. -/
def note
    (attributeHandle : AttributeHandle)
    (propagation : PropagationTypeConnectHandlePair)
    (self : PublicationChange) : PublicationChange :=
  match propagation with
  | (.propagateBroadcast, _) =>
      { self with
        broadcastAttributeHandles :=
          self.broadcastAttributeHandles ++ [attributeHandle] }
  | (.propagateSend, some connectHandle) =>
      { self with
        sendAttributeHandlesMap :=
          self.sendAttributeHandlesMap.pushBack connectHandle
            attributeHandle }
  | _ => self

/-- Note how the publisher of one attribute is to be answered. -/
def answer
    (attributeHandle : AttributeHandle)
    (subscriptionType : SubscriptionType)
    (self : PublicationChange) : PublicationChange :=
  match subscriptionType with
  | .unsubscribed => self
  | .subscribedPassive =>
      { self with
        passiveSubscribeAttributeHandles :=
          self.passiveSubscribeAttributeHandles ++ [attributeHandle] }
  | .subscribedActive =>
      { self with
        activeSubscribeAttributeHandles :=
          self.activeSubscribeAttributeHandles ++ [attributeHandle] }

def changeAttribute
    (connectHandle : ConnectHandle)
    (objectClassHandle : ObjectClassHandle)
    (publicationType : PublicationType)
    (self : PublicationChange)
    (attributeHandle : AttributeHandle) : PublicationChange :=
  match self.server.publishSubscribe? objectClassHandle attributeHandle with
  | none => self
  | some publishSubscribe =>
      let changed := publishSubscribe.setPublicationType connectHandle
        publicationType
      ({ self with
        server := self.server.modifyClassAttribute objectClassHandle
          attributeHandle fun _ => changed.1 }
        |>.note attributeHandle changed.2).answer attributeHandle
          (changed.1.getSubscriptionTypeToConnect connectHandle)

end PublicationChange

/-- Tell a publisher about the subscriptions to what it publishes, or that it no
longer needs to know. -/
def answerPublication
    (connectHandle : ConnectHandle)
    (objectClassHandle : ObjectClassHandle)
    (publicationType : PublicationType)
    (subscriptionType : SubscriptionType)
    (attributeHandles : List AttributeHandle)
    (self : ObjectServer) : ObjectServer :=
  if attributeHandles.isEmpty then self
  else self.send connectHandle (.changeObjectClassSubscription
    objectClassHandle attributeHandles
    (if publicationType = .published then subscriptionType
    else .unsubscribed))

def acceptChangeObjectClassPublication
    (connectHandle : ConnectHandle)
    (objectClassHandle : ObjectClassHandle)
    (attributeHandles : List AttributeHandle)
    (publicationType : PublicationType)
    (self : ObjectServer) : ObjectServer :=
  if (self.getObjectClass objectClassHandle).isNone then self
  else
    let change := attributeHandles.foldl
      (PublicationChange.changeAttribute connectHandle objectClassHandle
        publicationType) { server := self }
    let propagated :=
      if change.broadcastAttributeHandles.isEmpty then change.server
      else change.server.broadcast connectHandle
        (.changeObjectClassPublication objectClassHandle
          change.broadcastAttributeHandles publicationType)
    (propagated.sendEach change.sendAttributeHandlesMap fun handles =>
        .changeObjectClassPublication objectClassHandle handles
          publicationType)
      |>.answerPublication connectHandle objectClassHandle publicationType
        .subscribedPassive change.passiveSubscribeAttributeHandles
      |>.answerPublication connectHandle objectClassHandle publicationType
        .subscribedActive change.activeSubscribeAttributeHandles

/-! ## Subscription -/

/-- The instances of a class follow a subscription change there.  The second
part are the instances that are new to the connect. -/
def updateInstancesOf
    (connectHandle : ConnectHandle)
    (attributeHandle : AttributeHandle)
    (updated : ObjectServer × List ObjectInstanceHandle)
    (changed : ObjectClass × Bool) :
    ObjectServer × List ObjectInstanceHandle :=
  let isInstance := fun objectInstance : ObjectInstance =>
    objectInstance.objectClassHandle = some changed.1.objectClassHandle
  ({ updated.1 with
    objectInstances := updated.1.objectInstances.map fun objectInstance =>
      if isInstance objectInstance then
        objectInstance.updateReceivingConnects connectHandle attributeHandle
          changed.2
      else objectInstance },
    updated.2 ++ (updated.1.objectInstances.filter fun objectInstance =>
      isInstance objectInstance && objectInstance.isNewTo connectHandle
        attributeHandle changed.2).map ObjectInstance.objectInstanceHandle)

/-- Bring the cumulative subscriptions and the connects that receive the
attributes of instances up to date after a connect has changed its subscription
at a class. -/
def updateCumulativeSubscription
    (objectClassHandle : ObjectClassHandle)
    (connectHandle : ConnectHandle)
    (attributeHandle : AttributeHandle)
    (self : ObjectServer) : ObjectServer × List ObjectInstanceHandle :=
  (self.objectClasses.changedClasses objectClassHandle connectHandle
    attributeHandle).foldl (updateInstancesOf connectHandle attributeHandle)
    ({ self with
      objectClasses := self.objectClasses.updateCumulativeSubscription
        objectClassHandle connectHandle attributeHandle }, [])

/-- The server while a subscription to several attributes is entered, what is to
be told to which publishers, and the instances that are new to the
subscriber. -/
structure SubscriptionChange where
  server : ObjectServer
  sendAttributeHandlesMap : OrderedMap ConnectHandle (List AttributeHandle) := ∅
  objectInstanceList : List ObjectInstanceHandle := []

namespace SubscriptionChange

/-- The publishers of an attribute to which a change of its subscriptions is to
be propagated. -/
def targets
    (connectHandle : ConnectHandle)
    (publishSubscribe : PublishSubscribe) :
    PropagationTypeConnectHandlePair → List ConnectHandle
  | (.propagateBroadcast, _) =>
      (ascending publishSubscribe.publishedConnects.connectHandleSet).filter
        (· ≠ connectHandle)
  | (.propagateSend, some other) =>
      if publishSubscribe.getPublicationType other = .published then [other]
      else []
  | _ => []

def changeAttribute
    (connectHandle : ConnectHandle)
    (objectClassHandle : ObjectClassHandle)
    (subscriptionType : SubscriptionType)
    (self : SubscriptionChange)
    (attributeHandle : AttributeHandle) : SubscriptionChange :=
  match self.server.publishSubscribe? objectClassHandle attributeHandle with
  | none => self
  | some publishSubscribe =>
      let changed := publishSubscribe.setSubscriptionType connectHandle
        subscriptionType
      let updated := (self.server.modifyClassAttribute objectClassHandle
        attributeHandle fun _ => changed.1).updateCumulativeSubscription
          objectClassHandle connectHandle attributeHandle
      { server := updated.1
        sendAttributeHandlesMap :=
          self.sendAttributeHandlesMap.pushBackAll
            (targets connectHandle changed.1 changed.2) attributeHandle
        objectInstanceList := self.objectInstanceList ++ updated.2 }

end SubscriptionChange

def modifyObjectInstance
    (objectInstanceHandle : ObjectInstanceHandle)
    (change : ObjectInstance → ObjectInstance)
    (self : ObjectServer) : ObjectServer :=
  { self with
    objectInstances := self.objectInstances.map fun objectInstance =>
      if objectInstance.objectInstanceHandle = objectInstanceHandle then
        change objectInstance
      else objectInstance }

/-- Make an instance known to a connect that has come to subscribe to it. -/
def introduce
    (connectHandle : ConnectHandle)
    (self : ObjectServer)
    (objectInstanceHandle : ObjectInstanceHandle) : ObjectServer :=
  match self.getObjectInstance objectInstanceHandle with
  | none => self
  | some objectInstance =>
      match objectInstance.objectClassHandle with
      | none => self
      | some objectClassHandle =>
          (self.modifyObjectInstance objectInstanceHandle
            fun objectInstance =>
              let subscribed := objectInstance.setSubscriptionType
                connectHandle .subscribedPassive
              if self.isParentConnect connectHandle then subscribed
              else subscribed.reference connectHandle).send connectHandle
            (.insertObjectInstance
              { objectInstanceHandle := objectInstanceHandle
                objectClassHandle := objectClassHandle
                name := objectInstance.name
                attributeStateVector :=
                  objectInstance.attributeStateVector })

def acceptChangeObjectClassSubscription
    (connectHandle : ConnectHandle)
    (objectClassHandle : ObjectClassHandle)
    (attributeHandles : List AttributeHandle)
    (subscriptionType : SubscriptionType)
    (self : ObjectServer) : ObjectServer :=
  if (self.getObjectClass objectClassHandle).isNone then self
  else
    let change := attributeHandles.foldl
      (SubscriptionChange.changeAttribute connectHandle objectClassHandle
        subscriptionType) { server := self }
    let propagated := change.server.sendEach change.sendAttributeHandlesMap
      fun handles => .changeObjectClassSubscription objectClassHandle handles
        subscriptionType
    if subscriptionType = .unsubscribed then propagated
    else change.objectInstanceList.foldl (introduce connectHandle) propagated

end ObjectServer
end ServerNode
end OpenRTI
