import OpenRTI.ServerModel.InteractionFilterUpdates

/-!
# Subscriptions to interaction classes

A server node changes the subscription of a connect to an interaction class and its
filters, and forwards the message to connects that publish the class.  An
unsubscription with values only removes a filter.

The class is taken alone: whether the connect is subscribed to a base class is an
input, and the metrics of the federates are left out.
-/

namespace OpenRTI
namespace ServerModel
namespace FilteredInteractionClass

/-- Change what the class has for publication and subscription. -/
def withPublishSubscribe
    (publishSubscribe : PublishSubscribe)
    (self : FilteredInteractionClass) : FilteredInteractionClass :=
  { self with publishSubscribe := publishSubscribe }

def setSubscriptionType
    (connectHandle : ConnectHandle)
    (subscriptionType : SubscriptionType)
    (self : FilteredInteractionClass) :
    FilteredInteractionClass × PropagationTypeConnectHandlePair :=
  let changed :=
    self.publishSubscribe.setSubscriptionType connectHandle subscriptionType
  (self.withPublishSubscribe changed.1, changed.2)

def updateCumulativeSubscription
    (connectHandle : ConnectHandle)
    (parentSubscribed : Bool)
    (self : FilteredInteractionClass) : FilteredInteractionClass :=
  self.withPublishSubscribe
    (self.publishSubscribe.updateCumulativeSubscribedConnectHandleSet connectHandle
      (parentSubscribed || self.getSubscriptionType connectHandle ≠ .unsubscribed)).1

/-- The filters of a connect, as values for all parameters that filters name. -/
def getParameterFilters
    (connectHandle : ConnectHandle)
    (self : FilteredInteractionClass) : List (List ParameterValue) :=
  match self.parameterFiltersByConnect.find? connectHandle with
  | none => []
  | some parameterFilterValues =>
      parameterFilterValues.impl.map fun parameterTuple =>
        List.zipWith ParameterValue.mk self.parameterFilterKeyPrototype parameterTuple

end FilteredInteractionClass
end ServerModel

namespace ServerNode

open Foundation
open ServerModel

structure ChangeInteractionClassSubscriptionMessage where
  subscriptionType : SubscriptionType
  parameterFilterValues : List ParameterValue
  deriving DecidableEq

/-- What a message changes, and what is to be propagated. -/
structure SubscriptionChange where
  interactionClass : FilteredInteractionClass
  filterChanged : Bool
  propagation : PropagationTypeConnectHandlePair

/-- Unsubscribe with filter: remove the filter, and the subscription if the connect
has no entry left.  Unsubscribe completely: clear the filters of the connect. -/
def unsubscribe
    (connectHandle : ConnectHandle)
    (parameterFilterValues : List ParameterValue)
    (interactionClass : FilteredInteractionClass) : Option SubscriptionChange :=
  if parameterFilterValues ≠ [] then
    (interactionClass.updateParameterFilterValues connectHandle parameterFilterValues
      true).map fun updated =>
        if updated.1.hasFilterSubscriptions connectHandle = false then
          let changed := updated.1.setSubscriptionType connectHandle .unsubscribed
          ⟨changed.1, updated.2, changed.2⟩
        else ⟨updated.1, updated.2, .propagateBroadcast, none⟩
  else
    let cleared := interactionClass.clearParameterFilters connectHandle
    let changed := cleared.1.setSubscriptionType connectHandle .unsubscribed
    some ⟨changed.1, cleared.2, changed.2⟩

/-- Subscribe.  Values, or filters that there are, make it a filtered subscription. -/
def subscribe
    (connectHandle : ConnectHandle)
    (subscriptionType : SubscriptionType)
    (parameterFilterValues : List ParameterValue)
    (interactionClass : FilteredInteractionClass) : Option SubscriptionChange :=
  let updated :=
    if parameterFilterValues ≠ [] ∨
        interactionClass.getParameterFilters connectHandle ≠ [] then
      interactionClass.updateParameterFilterValues connectHandle
        parameterFilterValues false
    else some (interactionClass, false)
  updated.map fun updated =>
    let changed := updated.1.setSubscriptionType connectHandle subscriptionType
    ⟨changed.1, updated.2, changed.2⟩

/-- The connects that a message is forwarded to. -/
def SubscriptionChange.receivers
    (connectHandle : ConnectHandle)
    (self : SubscriptionChange) : ConnectHandleSet :=
  let publishing :=
    self.interactionClass.publishSubscribe.publishedConnects.connectHandleSet.erase
      connectHandle
  match self.propagation with
  | (.propagateBroadcast, _) => publishing
  | (.propagateSend, receiver) => receiver.elim ∅ fun receiver => {receiver}
  | (.propagateNone, _) =>
      -- This must still be forwarded when the filter has changed.
      if self.filterChanged then publishing else ∅

/-- The class after a message, and the connects that the message is forwarded to. -/
def acceptChangeInteractionClassSubscription
    (connectHandle : ConnectHandle)
    (message : ChangeInteractionClassSubscriptionMessage)
    (parentSubscribed : Bool)
    (interactionClass : FilteredInteractionClass) :
    Option (FilteredInteractionClass × ConnectHandleSet) :=
  let change :=
    if message.subscriptionType = .unsubscribed then
      unsubscribe connectHandle message.parameterFilterValues interactionClass
    else
      subscribe connectHandle message.subscriptionType
        message.parameterFilterValues interactionClass
  change.map fun change =>
    (change.interactionClass.updateCumulativeSubscription connectHandle
      parentSubscribed, change.receivers connectHandle)

end ServerNode
end OpenRTI
