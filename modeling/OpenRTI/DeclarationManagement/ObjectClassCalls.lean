import OpenRTI.DeclarationManagement.DeclaredTypes
import OpenRTI.Foundation.TransitionSystem

/-!
# Declaration management of object classes

The calls of the ambassador that publish and subscribe object classes and their
attributes.  A call checks its arguments, changes the declared types of the
class and tells the server the one type of all attributes that have changed.

What the server has been told last is compared with the effective types of the
federate, over all sequences of calls.
-/

namespace OpenRTI
namespace DeclarationManagement

open Foundation
open ServerModel (AttributeHandle ObjectClassHandle PublicationType
  SubscriptionType)

abbrev ObjectInstanceHandle := Nat

/-- An object class of the federate.  The declared types count for the entries
that are set in the vector of attributes. -/
structure ObjectClass where
  attributeVector : List Bool
  publication : DeclaredTypes PublicationType := .initial
  subscription : DeclaredTypes SubscriptionType := .initial

namespace ObjectClass

def getAttribute
    (self : ObjectClass)
    (attributeHandle : AttributeHandle) : Bool :=
  self.attributeVector.getD attributeHandle false

def getNumAttributes (self : ObjectClass) : Nat :=
  self.attributeVector.length

def getEffectiveAttributeSubscriptionType
    (self : ObjectClass) : AttributeHandle → SubscriptionType :=
  self.subscription.effectiveAttributeType

def getEffectiveSubscriptionType (self : ObjectClass) : SubscriptionType :=
  self.subscription.effectiveType

def getEffectiveAttributePublicationType
    (self : ObjectClass) : AttributeHandle → PublicationType :=
  self.publication.effectiveAttributeType

end ObjectClass

structure ObjectInstance where
  objectInstanceHandle : ObjectInstanceHandle
  objectClassHandle : ObjectClassHandle
  isOwnedByFederate : Bool

/-- The part of a joined federate that the declarations read and change.  Of an
update rate only matters whether it is negative. -/
structure Federate where
  objectClassVector : List (Option ObjectClass)
  objectInstances : List ObjectInstance := []
  objectClassRelevanceAdvisorySwitchEnabled : Bool := true
  nonnegativeUpdateRates : List String := []

/-- What the ambassador sends to the server. -/
inductive AmbassadorMessage
  | changeObjectClassPublication
      (objectClassHandle : ObjectClassHandle)
      (publicationType : PublicationType)
      (attributeHandles : List AttributeHandle)
  | changeObjectClassSubscription
      (objectClassHandle : ObjectClassHandle)
      (subscriptionType : SubscriptionType)
      (attributeHandles : List AttributeHandle)
  | releaseMultipleObjectInstanceNameHandlePairs
      (objectInstanceHandles : List ObjectInstanceHandle)
  deriving DecidableEq

/-- The callback message that the registration for an object class starts. -/
structure RegistrationForObjectClassMessage where
  objectClassHandle : ObjectClassHandle
  start : Bool
  deriving DecidableEq

/-- The exceptions of the calls.  `undefined` stands for an access to an
attribute that the vector of attributes does not have. -/
inductive AmbassadorFailure
  | notConnected
  | federateNotExecutionMember
  | objectClassNotDefined (objectClassHandle : ObjectClassHandle)
  | attributeNotDefined (attributeHandle : AttributeHandle)
  | invalidUpdateRateDesignator (updateRateDesignator : String)
  | rtiInternalError (reason : String)
  | undefined
  deriving DecidableEq

structure Ambassador where
  isConnected : Bool
  federate : Option Federate
  sent : List AmbassadorMessage := []
  callbacks : List RegistrationForObjectClassMessage := []

namespace Federate

def getObjectClass
    (self : Federate)
    (objectClassHandle : ObjectClassHandle) : Option ObjectClass :=
  (self.objectClassVector[objectClassHandle]?).join

/-- The federate with another state of an object class. -/
def withObjectClass
    (objectClassHandle : ObjectClassHandle)
    (objectClass : ObjectClass)
    (self : Federate) : Federate :=
  { self with
    objectClassVector :=
      self.objectClassVector.set objectClassHandle (some objectClass) }

/-- Whether an instance of the class is to be released when the class is no
longer subscribed. -/
def isReleased
    (objectClassHandle : ObjectClassHandle)
    (objectInstance : ObjectInstance) : Bool :=
  objectInstance.objectClassHandle = objectClassHandle &&
    !objectInstance.isOwnedByFederate

end Federate

namespace Ambassador

def send
    (message : AmbassadorMessage)
    (self : Ambassador) : Ambassador :=
  { self with sent := self.sent ++ [message] }

def queueCallback
    (message : RegistrationForObjectClassMessage)
    (self : Ambassador) : Ambassador :=
  { self with callbacks := self.callbacks ++ [message] }

/-- The checks all calls make, and what they find. -/
def getObjectClass
    (self : Ambassador)
    (objectClassHandle : ObjectClassHandle) :
    Except AmbassadorFailure (Federate × ObjectClass) :=
  if !self.isConnected then .error .notConnected
  else
    match self.federate with
    | none => .error .federateNotExecutionMember
    | some federate =>
        match federate.getObjectClass objectClassHandle with
        | none => .error (.objectClassNotDefined objectClassHandle)
        | some objectClass => .ok (federate, objectClass)

def checkAttributes (objectClass : ObjectClass) :
    List AttributeHandle → Except AmbassadorFailure Unit
  | [] => .ok ()
  | attributeHandle :: rest =>
      if objectClass.getAttribute attributeHandle then
        checkAttributes objectClass rest
      else .error (.attributeNotDefined attributeHandle)

/-- The type of a class is compared with that of attribute 0, which the class
has to have. -/
def checkAttributeZero (objectClass : ObjectClass) :
    Except AmbassadorFailure Unit :=
  if objectClass.getAttribute 0 then .ok () else .error .undefined

/-- A call for all attributes of a class needs all entries to be set. -/
def checkAllAttributes (objectClass : ObjectClass) :
    Except AmbassadorFailure Unit :=
  if objectClass.attributeVector.all id then .ok () else .error .undefined

/-- The ambassador with another state of an object class. -/
def withObjectClass
    (federate : Federate)
    (objectClassHandle : ObjectClassHandle)
    (objectClass : ObjectClass)
    (self : Ambassador) : Ambassador :=
  { self with
    federate := some (federate.withObjectClass objectClassHandle
      objectClass) }

/-- Send the publication of attributes, where there are any. -/
def sendPublication
    (objectClassHandle : ObjectClassHandle)
    (publicationType : PublicationType)
    (attributeHandles : List AttributeHandle)
    (self : Ambassador) : Ambassador :=
  if attributeHandles.isEmpty then self
  else self.send (.changeObjectClassPublication objectClassHandle
    publicationType attributeHandles)

/-- Send the subscription of attributes, where there are any. -/
def sendSubscription
    (objectClassHandle : ObjectClassHandle)
    (subscriptionType : SubscriptionType)
    (attributeHandles : List AttributeHandle)
    (self : Ambassador) : Ambassador :=
  if attributeHandles.isEmpty then self
  else self.send (.changeObjectClassSubscription objectClassHandle
    subscriptionType attributeHandles)

/-- Forget the instances of a class that the federate does not own, and release
each of them at the server. -/
def releaseObjectInstances
    (objectClassHandle : ObjectClassHandle)
    (self : Ambassador) : Ambassador :=
  match self.federate with
  | none => self
  | some federate =>
      { self with
        federate := some { federate with
          objectInstances := federate.objectInstances.filter
            fun objectInstance =>
              !Federate.isReleased objectClassHandle objectInstance }
        sent := self.sent ++
          (federate.objectInstances.filter
            (Federate.isReleased objectClassHandle)).map
              fun objectInstance =>
                .releaseMultipleObjectInstanceNameHandlePairs
                  [objectInstance.objectInstanceHandle] }

def publishObjectClassAttributes
    (objectClassHandle : ObjectClassHandle)
    (attributeHandles : List AttributeHandle)
    (self : Ambassador) : Except AmbassadorFailure Ambassador := do
  let (federate, objectClass) ← self.getObjectClass objectClassHandle
  checkAttributes objectClass attributeHandles
  checkAttributeZero objectClass
  let freshPublished := (objectClass.publication.setType .published).2
  let changed := objectClass.publication.declare .published attributeHandles
  let told := (self.withObjectClass federate objectClassHandle
    { objectClass with publication := changed.1 }).sendPublication
      objectClassHandle .published changed.2
  return if freshPublished &&
      federate.objectClassRelevanceAdvisorySwitchEnabled then
    told.queueCallback
      { objectClassHandle := objectClassHandle, start := true }
  else told

def unpublishObjectClass
    (objectClassHandle : ObjectClassHandle)
    (self : Ambassador) : Except AmbassadorFailure Ambassador := do
  let (federate, objectClass) ← self.getObjectClass objectClassHandle
  checkAttributeZero objectClass
  checkAllAttributes objectClass
  let changed := objectClass.publication.withdraw objectClass.getNumAttributes
  return (self.withObjectClass federate objectClassHandle
    { objectClass with publication := changed.1 }).sendPublication
      objectClassHandle .unpublished changed.2

def unpublishObjectClassAttributes
    (objectClassHandle : ObjectClassHandle)
    (attributeHandles : List AttributeHandle)
    (self : Ambassador) : Except AmbassadorFailure Ambassador := do
  let (federate, objectClass) ← self.getObjectClass objectClassHandle
  checkAttributes objectClass attributeHandles
  let changed :=
    objectClass.publication.setAttributeTypes .unpublished attributeHandles
  return (self.withObjectClass federate objectClassHandle
    { objectClass with publication := changed.1 }).sendPublication
      objectClassHandle .unpublished changed.2

def subscribeObjectClassAttributes
    (objectClassHandle : ObjectClassHandle)
    (attributeHandles : List AttributeHandle)
    (active : Bool)
    (updateRateDesignator : String)
    (self : Ambassador) : Except AmbassadorFailure Ambassador := do
  let (federate, objectClass) ← self.getObjectClass objectClassHandle
  checkAttributes objectClass attributeHandles
  if updateRateDesignator ≠ "" &&
      !federate.nonnegativeUpdateRates.contains updateRateDesignator then
    throw (.invalidUpdateRateDesignator updateRateDesignator)
  if updateRateDesignator ≠ "" then
    throw (.rtiInternalError
      "Non trivial update rate designators are not implemented yet!")
  checkAttributeZero objectClass
  let subscriptionType :=
    if active then .subscribedActive else .subscribedPassive
  let changed :=
    objectClass.subscription.declare subscriptionType attributeHandles
  return (self.withObjectClass federate objectClassHandle
    { objectClass with subscription := changed.1 }).sendSubscription
      objectClassHandle subscriptionType changed.2

def unsubscribeObjectClass
    (objectClassHandle : ObjectClassHandle)
    (self : Ambassador) : Except AmbassadorFailure Ambassador := do
  let (federate, objectClass) ← self.getObjectClass objectClassHandle
  checkAttributeZero objectClass
  checkAllAttributes objectClass
  let changed := objectClass.subscription.withdraw objectClass.getNumAttributes
  let told := (self.withObjectClass federate objectClassHandle
    { objectClass with subscription := changed.1 }).sendSubscription
      objectClassHandle .unsubscribed changed.2
  return if changed.2.isEmpty then told
  else told.releaseObjectInstances objectClassHandle

def unsubscribeObjectClassAttributes
    (objectClassHandle : ObjectClassHandle)
    (attributeHandles : List AttributeHandle)
    (self : Ambassador) : Except AmbassadorFailure Ambassador := do
  let (federate, objectClass) ← self.getObjectClass objectClassHandle
  checkAttributes objectClass attributeHandles
  let changed :=
    objectClass.subscription.setAttributeTypes .unsubscribed attributeHandles
  let told := (self.withObjectClass federate objectClassHandle
    { objectClass with subscription := changed.1 }).sendSubscription
      objectClassHandle .unsubscribed changed.2
  if changed.2.isEmpty then return told
  checkAttributeZero objectClass
  return if changed.1.effectiveType = .unsubscribed then
    told.releaseObjectInstances objectClassHandle
  else told

end Ambassador

/-- The calls of declaration management for object classes. -/
inductive DeclarationCall
  | publishObjectClassAttributes
      (objectClassHandle : ObjectClassHandle)
      (attributeHandles : List AttributeHandle)
  | unpublishObjectClass (objectClassHandle : ObjectClassHandle)
  | unpublishObjectClassAttributes
      (objectClassHandle : ObjectClassHandle)
      (attributeHandles : List AttributeHandle)
  | subscribeObjectClassAttributes
      (objectClassHandle : ObjectClassHandle)
      (attributeHandles : List AttributeHandle)
      (active : Bool)
      (updateRateDesignator : String)
  | unsubscribeObjectClass (objectClassHandle : ObjectClassHandle)
  | unsubscribeObjectClassAttributes
      (objectClassHandle : ObjectClassHandle)
      (attributeHandles : List AttributeHandle)
  deriving DecidableEq

def DeclarationCall.apply
    (self : Ambassador) :
    DeclarationCall → Except AmbassadorFailure Ambassador
  | .publishObjectClassAttributes objectClassHandle attributeHandles =>
      self.publishObjectClassAttributes objectClassHandle attributeHandles
  | .unpublishObjectClass objectClassHandle =>
      self.unpublishObjectClass objectClassHandle
  | .unpublishObjectClassAttributes objectClassHandle attributeHandles =>
      self.unpublishObjectClassAttributes objectClassHandle attributeHandles
  | .subscribeObjectClassAttributes objectClassHandle attributeHandles active
      updateRateDesignator =>
      self.subscribeObjectClassAttributes objectClassHandle attributeHandles
        active updateRateDesignator
  | .unsubscribeObjectClass objectClassHandle =>
      self.unsubscribeObjectClass objectClassHandle
  | .unsubscribeObjectClassAttributes objectClassHandle attributeHandles =>
      self.unsubscribeObjectClassAttributes objectClassHandle attributeHandles

namespace Ambassador

/-- The ambassador over its calls.  A call that throws changes nothing. -/
def system
    (initial : Ambassador) :
    TransitionSystem Ambassador DeclarationCall where
  initial := initial
  next self call :=
    match call.apply self with
    | .ok after => some after
    | .error .undefined => none
    | .error _ => some self

end Ambassador
end DeclarationManagement
end OpenRTI
