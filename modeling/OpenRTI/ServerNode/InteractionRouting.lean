import OpenRTI.Foundation.OrderedSet
import OpenRTI.ServerModel.InteractionFilters

/-!
# Routing of interactions

A server node sends an interaction to the connects that are subscribed to its
class or to one of the base classes, for the nearest one of these classes.  The
filters of a connect are looked at only where that is the class of the
interaction itself.

The metrics that a node keeps for its federates are left out.
-/

namespace OpenRTI
namespace ServerNode

open Foundation
open ServerModel

structure InteractionMessage where
  federateHandle : Nat
  interactionClassHandle : InteractionClassHandle
  transportationType : TransportationType := .reliable
  tag : VariableLengthData := []
  parameterValues : List ParameterValue
  deriving DecidableEq

structure TimeStampedInteractionMessage extends InteractionMessage where
  orderType : OrderType := .timestamp
  timeStamp : VariableLengthData
  messageRetractionHandle : Nat
  deriving DecidableEq

/-- The interactions that a server node sends. -/
inductive RoutedMessage
  | interaction (message : InteractionMessage)
  | timeStampedInteraction (message : TimeStampedInteractionMessage)
  deriving DecidableEq

/-- What plain and time stamped interactions have in common. -/
def RoutedMessage.toInteractionMessage : RoutedMessage → InteractionMessage
  | interaction message => message
  | timeStampedInteraction message => message.toInteractionMessage

/-- The part of a server node that is about interactions. -/
structure InteractionServer where
  interactionClasses : Forest FilteredInteractionClass := .nil
  connectHandles : ConnectHandleSet := ∅
  sent : List (ConnectHandle × RoutedMessage) := []

/-- The values of the parameters that a class has. -/
def parameterValuesIn
    (interactionClass : FilteredInteractionClass)
    (parameterValues : List ParameterValue) : List ParameterValue :=
  parameterValues.filter fun parameterValue =>
    (interactionClass.getClassParameter
      parameterValue.parameterHandle).isSome

/-- The message for the subscribers of a base class. -/
def InteractionMessage.forClass
    (self : InteractionMessage)
    (interactionClass : FilteredInteractionClass) : InteractionMessage where
  federateHandle := self.federateHandle
  transportationType := self.transportationType
  tag := self.tag
  parameterValues := parameterValuesIn interactionClass self.parameterValues
  interactionClassHandle := interactionClass.interactionClassHandle

/-- The time stamped message for the subscribers of a base class. -/
def TimeStampedInteractionMessage.forClass
    (self : TimeStampedInteractionMessage)
    (interactionClass : FilteredInteractionClass) :
    TimeStampedInteractionMessage where
  federateHandle := self.federateHandle
  orderType := self.orderType
  transportationType := self.transportationType
  tag := self.tag
  timeStamp := self.timeStamp
  messageRetractionHandle := self.messageRetractionHandle
  parameterValues := parameterValuesIn interactionClass self.parameterValues
  interactionClassHandle := interactionClass.interactionClassHandle

def RoutedMessage.forClass
    (interactionClass : FilteredInteractionClass) :
    RoutedMessage → RoutedMessage
  | interaction message => interaction (message.forClass interactionClass)
  | timeStampedInteraction message =>
      timeStampedInteraction (message.forClass interactionClass)

/-- Go up to the nearest base class that a connect is subscribed to. -/
def messageForBaseClass
    (message : RoutedMessage)
    (subscriberConnectHandle : ConnectHandle) :
    List FilteredInteractionClass → Option RoutedMessage
  | [] => none
  | currentInteractionClass :: parents =>
      if currentInteractionClass.getSubscriptionType subscriberConnectHandle ≠
          .unsubscribed then
        some (message.forClass currentInteractionClass)
      else messageForBaseClass message subscriberConnectHandle parents

/-- What a connect gets of an interaction.  Only the first class of the way up
is the class of the interaction itself. -/
def messageFor
    (message : RoutedMessage)
    (interactionClass : FilteredInteractionClass)
    (parents : List FilteredInteractionClass)
    (subscriberConnectHandle : ConnectHandle) : Option RoutedMessage :=
  if interactionClass.getSubscriptionType subscriberConnectHandle ≠
      .unsubscribed then
    if interactionClass.isMatching subscriberConnectHandle
        message.toInteractionMessage.parameterValues then
      some message
    else none
  else messageForBaseClass message subscriberConnectHandle parents

namespace InteractionServer

def getInteractionClass
    (self : InteractionServer)
    (interactionClassHandle : InteractionClassHandle) :
    Option (List FilteredInteractionClass × FilteredInteractionClass) :=
  self.interactionClasses.find? fun interactionClass =>
    interactionClass.interactionClassHandle = interactionClassHandle

/-- Send a message to a connect.  One that the node does not have gets
nothing. -/
def send
    (connectHandle : ConnectHandle)
    (message : RoutedMessage)
    (self : InteractionServer) : InteractionServer :=
  if connectHandle ∈ self.connectHandles then
    { self with sent := self.sent ++ [(connectHandle, message)] }
  else self

/-- Send what a connect gets of an interaction, unless it comes from there. -/
def routeTo
    (connectHandle : ConnectHandle)
    (message : RoutedMessage)
    (interactionClass : FilteredInteractionClass)
    (parents : List FilteredInteractionClass)
    (self : InteractionServer)
    (subscriberConnectHandle : ConnectHandle) : InteractionServer :=
  if subscriberConnectHandle = connectHandle then self
  else
    match messageFor message interactionClass parents
      subscriberConnectHandle with
    | none => self
    | some message => self.send subscriberConnectHandle message

/-- Send to all subscribed connects except the originating one. -/
def route
    (connectHandle : ConnectHandle)
    (message : RoutedMessage)
    (interactionClass : FilteredInteractionClass)
    (parents : List FilteredInteractionClass)
    (self : InteractionServer) : InteractionServer :=
  (ascending
    interactionClass.publishSubscribe.cumulativeSubscribedConnectHandleSet).foldl
      (routeTo connectHandle message interactionClass parents) self

def acceptInteractionMessage
    (connectHandle : ConnectHandle)
    (message : InteractionMessage)
    (self : InteractionServer) : Except String InteractionServer :=
  match self.getInteractionClass message.interactionClassHandle with
  | none =>
      .error "Received InteractionMessage for unknown interaction class!"
  | some (parents, interactionClass) =>
      .ok (self.route connectHandle (.interaction message) interactionClass
        parents)

def acceptTimeStampedInteractionMessage
    (connectHandle : ConnectHandle)
    (message : TimeStampedInteractionMessage)
    (self : InteractionServer) : Except String InteractionServer :=
  match self.getInteractionClass message.interactionClassHandle with
  | none =>
      .error
        "Received TimeStampedInteractionMessage for unknown interaction class!"
  | some (parents, interactionClass) =>
      .ok (self.route connectHandle (.timeStampedInteraction message)
        interactionClass parents)

/-! ## What is sent -/

section

variable
  (connectHandle : ConnectHandle)
  (message : RoutedMessage)
  (interactionClass : FilteredInteractionClass)
  (parents : List FilteredInteractionClass)

/-- What the node sends to a connect. -/
def deliveryTo
    (connectHandles : ConnectHandleSet)
    (receiver : ConnectHandle) : Option RoutedMessage :=
  if receiver = connectHandle ∨ receiver ∉ connectHandles then none
  else messageFor message interactionClass parents receiver

/-- What the node sends for an interaction. -/
def deliveries (self : InteractionServer) :
    List (ConnectHandle × RoutedMessage) :=
  (ascending
    interactionClass.publishSubscribe.cumulativeSubscribedConnectHandleSet
    ).filterMap fun receiver =>
      (deliveryTo connectHandle message interactionClass parents
        self.connectHandles receiver).map fun message => (receiver, message)

theorem routeTo_eq (self : InteractionServer) (receiver : ConnectHandle) :
    routeTo connectHandle message interactionClass parents self receiver =
      { self with
        sent := self.sent ++
          ((deliveryTo connectHandle message interactionClass parents
            self.connectHandles receiver).map
              fun message => (receiver, message)).toList } := by
  rw [routeTo, deliveryTo]
  by_cases origin : receiver = connectHandle
  · rw [if_pos origin, if_pos (Or.inl origin), Option.map_none,
      Option.toList_none, List.append_nil]
  · rw [if_neg origin]
    cases messageFor message interactionClass parents receiver with
    | none =>
        rw [ite_self, Option.map_none, Option.toList_none, List.append_nil]
    | some message =>
        by_cases known : receiver ∈ self.connectHandles
        · have included :
              ¬(receiver = connectHandle ∨ receiver ∉ self.connectHandles) :=
            not_or.mpr ⟨origin, not_not_intro known⟩
          rw [if_neg included]
          exact if_pos known
        · rw [if_pos (Or.inr known), Option.map_none, Option.toList_none,
            List.append_nil]
          exact if_neg known

theorem route_eq (self : InteractionServer) :
    self.route connectHandle message interactionClass parents =
      { self with
        sent := self.sent ++
          deliveries connectHandle message interactionClass parents self } := by
  rw [route, deliveries]
  generalize ascending
    interactionClass.publishSubscribe.cumulativeSubscribedConnectHandleSet =
      receivers
  induction receivers generalizing self with
  | nil => rw [List.foldl_nil, List.filterMap_nil, List.append_nil]
  | cons receiver receivers ih =>
      rw [List.foldl_cons, routeTo_eq, ih,
        List.filterMap_cons]
      dsimp only
      rw [List.append_assoc]
      cases deliveryTo connectHandle message interactionClass parents
        self.connectHandles receiver <;> rfl

/-- What a connect is sent. -/
theorem filter_deliveries
    (self : InteractionServer) (receiver : ConnectHandle) :
    (deliveries connectHandle message interactionClass parents self).filter
        (fun delivery => delivery.1 = receiver) =
      if receiver ∈
          interactionClass.publishSubscribe.cumulativeSubscribedConnectHandleSet
        then
        ((deliveryTo connectHandle message interactionClass parents
          self.connectHandles receiver).map
            fun message => (receiver, message)).toList
      else [] := by
  rw [deliveries, filter_filterMap_ascending]

end

/-! ## The nearest subscribed class -/

/-- The first class of the way up that a connect is subscribed to. -/
def nearestSubscribed
    (receiver : ConnectHandle)
    (classes : List FilteredInteractionClass) :
    Option FilteredInteractionClass :=
  classes.find? fun interactionClass =>
    interactionClass.getSubscriptionType receiver ≠ .unsubscribed

/-- The message that the filters at the nearest subscribed class let pass. -/
def messageForNearest
    (message : RoutedMessage)
    (classes : List FilteredInteractionClass)
    (receiver : ConnectHandle) : Option RoutedMessage :=
  (nearestSubscribed receiver classes).bind fun nearest =>
    if nearest.passesFilters receiver
        message.toInteractionMessage.parameterValues then
      some (message.forClass nearest)
    else none

/-- The filters and the parameters at the nearest subscribed class are of no
consequence where they are not looked at: if the filters at the class of the
interaction let it pass, all its parameters are those of the class, and the
filters at a base class let it pass. -/
def NothingOverlooked
    (interactionClass : FilteredInteractionClass)
    (parents : List FilteredInteractionClass)
    (parameterValues : List ParameterValue)
    (receiver : ConnectHandle) : Prop :=
  if interactionClass.getSubscriptionType receiver ≠ .unsubscribed then
    interactionClass.passesFilters receiver parameterValues = true →
      parameterValuesIn interactionClass parameterValues = parameterValues
  else
    ∀ nearest, nearestSubscribed receiver parents = some nearest →
      nearest.passesFilters receiver parameterValues = true

/-- The filters that are looked up, those of a connect subscribed to the class
of the interaction, are indexed. -/
def LookupIndexed
    (interactionClass : FilteredInteractionClass)
    (receiver : ConnectHandle) : Prop :=
  interactionClass.getSubscriptionType receiver ≠ .unsubscribed →
    interactionClass.FiltersIndexed receiver

theorem messageForBaseClass_eq
    (message : RoutedMessage) (receiver : ConnectHandle)
    (parents : List FilteredInteractionClass) :
    messageForBaseClass message receiver parents =
      (nearestSubscribed receiver parents).map message.forClass := by
  induction parents with
  | nil => rfl
  | cons current parents ih =>
      rw [messageForBaseClass, nearestSubscribed, List.find?_cons]
      by_cases subscribed :
          current.getSubscriptionType receiver ≠ .unsubscribed
      · rw [if_pos subscribed, decide_eq_true subscribed]
        rfl
      · rw [if_neg subscribed, decide_eq_false subscribed, ih]
        rfl

variable {message : RoutedMessage} {interactionClass : FilteredInteractionClass}

/-- The message is the one for its class if the class has all parameters. -/
theorem forClass_eq_self_iff
    (isClass :
      interactionClass.interactionClassHandle =
        message.toInteractionMessage.interactionClassHandle) :
    message.forClass interactionClass = message ↔
      parameterValuesIn interactionClass
          message.toInteractionMessage.parameterValues =
        message.toInteractionMessage.parameterValues := by
  constructor
  · intro same
    have parameters := congrArg
      (fun message => message.toInteractionMessage.parameterValues) same
    cases message with
    | interaction message => exact parameters
    | timeStampedInteraction message => exact parameters
  · intro parameters
    cases message with
    | interaction message =>
        rw [RoutedMessage.forClass, InteractionMessage.forClass, isClass]
        exact congrArg (fun parameterValues =>
          RoutedMessage.interaction { message with parameterValues }) parameters
    | timeStampedInteraction message =>
        rw [RoutedMessage.forClass, TimeStampedInteractionMessage.forClass,
          isClass]
        exact congrArg (fun parameterValues =>
          RoutedMessage.timeStampedInteraction
            { message with parameterValues }) parameters

/-- Of the filters at a base class none is asked, so that a connect gets what
the nearest base class lets pass only if its filters let the interaction
pass. -/
theorem messageForBaseClass_eq_iff
    (message : RoutedMessage) (receiver : ConnectHandle)
    (parents : List FilteredInteractionClass) :
    messageForBaseClass message receiver parents =
        messageForNearest message parents receiver ↔
      ∀ nearest, nearestSubscribed receiver parents = some nearest →
        nearest.passesFilters receiver
          message.toInteractionMessage.parameterValues = true := by
  rw [messageForBaseClass_eq, messageForNearest]
  cases nearestSubscribed receiver parents with
  | none => simp
  | some nearest =>
      cases passes : nearest.passesFilters receiver
          message.toInteractionMessage.parameterValues <;>
        simp [passes]

/-- The way up starts at the class of the interaction. -/
theorem messageForNearest_cons
    (message : RoutedMessage) (interactionClass : FilteredInteractionClass)
    (parents : List FilteredInteractionClass) (receiver : ConnectHandle) :
    messageForNearest message (interactionClass :: parents) receiver =
      if interactionClass.getSubscriptionType receiver ≠ .unsubscribed then
        if interactionClass.passesFilters receiver
            message.toInteractionMessage.parameterValues then
          some (message.forClass interactionClass)
        else none
      else messageForNearest message parents receiver := by
  rw [messageForNearest, nearestSubscribed, List.find?_cons]
  by_cases subscribed :
      interactionClass.getSubscriptionType receiver ≠ .unsubscribed
  · rw [if_pos subscribed, decide_eq_true subscribed]
    rfl
  · rw [if_neg subscribed, decide_eq_false subscribed]
    rfl

section Overlooked

variable
  {message : RoutedMessage}
  {interactionClass : FilteredInteractionClass}
  (isClass :
    interactionClass.interactionClassHandle =
      message.toInteractionMessage.interactionClassHandle)
  {parents : List FilteredInteractionClass}
  {receiver : ConnectHandle}

include isClass

/-- A connect that gets what the nearest subscribed class lets pass has nothing
overlooked. -/
theorem nothingOverlooked_of_messageFor_eq
    (gets :
      messageFor message interactionClass parents receiver =
        messageForNearest message (interactionClass :: parents) receiver) :
    NothingOverlooked interactionClass parents
      message.toInteractionMessage.parameterValues receiver := by
  rw [messageForNearest_cons, messageFor] at gets
  rw [NothingOverlooked]
  split at gets
  next subscribed =>
    rw [if_pos subscribed]
    intro passes
    rw [if_pos passes] at gets
    split at gets
    next =>
      injection gets with same
      exact (forClass_eq_self_iff isClass).mp same.symm
    next => cases gets
  next notSubscribed =>
    rw [if_neg notSubscribed]
    exact (messageForBaseClass_eq_iff message receiver parents).mp gets

/-- With the filters indexed that are looked up, and nothing overlooked, a
connect gets what the nearest subscribed class lets pass. -/
theorem messageFor_eq_of_nothingOverlooked
    (indexed : LookupIndexed interactionClass receiver)
    (nothing :
      NothingOverlooked interactionClass parents
        message.toInteractionMessage.parameterValues receiver) :
    messageFor message interactionClass parents receiver =
      messageForNearest message (interactionClass :: parents) receiver := by
  rw [messageForNearest_cons, messageFor]
  rw [NothingOverlooked] at nothing
  split
  next subscribed =>
    rw [if_pos subscribed] at nothing
    have looked := FilteredInteractionClass.isMatching_eq_passesFilters
      (indexed subscribed) message.toInteractionMessage.parameterValues
    rw [looked]
    split
    next passes =>
      rw [(forClass_eq_self_iff isClass).mpr (nothing passes)]
    next => rfl
  next notSubscribed =>
    rw [if_neg notSubscribed] at nothing
    exact (messageForBaseClass_eq_iff message receiver parents).mpr nothing

end Overlooked

/-! ## Routing -/

/-- The cumulative set of a class has all connects that are subscribed to it or
to one of its base classes. -/
def CompleteCumulativeSet
    (interactionClass : FilteredInteractionClass)
    (parents : List FilteredInteractionClass) : Prop :=
  ∀ current ∈ interactionClass :: parents, ∀ receiver,
    current.getSubscriptionType receiver ≠ .unsubscribed →
      receiver ∈
        interactionClass.publishSubscribe.cumulativeSubscribedConnectHandleSet

/-- Each connect but the originating one is sent exactly what its nearest
subscribed class lets pass, and no other connect is sent anything. -/
def SentToNearest
    (self : InteractionServer)
    (connectHandle : ConnectHandle)
    (message : RoutedMessage)
    (classes : List FilteredInteractionClass)
    (sent : List (ConnectHandle × RoutedMessage)) : Prop :=
  ∀ receiver,
    sent.filter (fun delivery => delivery.1 = receiver) =
      if receiver ∈ self.connectHandles ∧ receiver ≠ connectHandle then
        ((messageForNearest message classes receiver).map
          fun message => (receiver, message)).toList
      else []

/-- What a delivery selects: the connect, the class and the parameters. -/
def selection (delivery : ConnectHandle × RoutedMessage) :
    ConnectHandle × InteractionClassHandle × List ParameterValue :=
  (delivery.1, delivery.2.toInteractionMessage.interactionClassHandle,
    delivery.2.toInteractionMessage.parameterValues)

/-- An interaction and the same one with a time stamp are both routed by the
nearest subscribed class, and select the same. -/
def RoutedByNearest
    (self : InteractionServer)
    (connectHandle : ConnectHandle)
    (message : TimeStampedInteractionMessage)
    (classes : List FilteredInteractionClass) : Prop :=
  ∃ plain timeStamped,
    self.acceptInteractionMessage connectHandle message.toInteractionMessage =
        .ok { self with sent := self.sent ++ plain } ∧
      self.acceptTimeStampedInteractionMessage connectHandle message =
        .ok { self with sent := self.sent ++ timeStamped } ∧
      self.SentToNearest connectHandle
        (.interaction message.toInteractionMessage) classes plain ∧
      self.SentToNearest connectHandle (.timeStampedInteraction message)
        classes timeStamped ∧
      plain.map selection = timeStamped.map selection

variable {parents : List FilteredInteractionClass}

theorem nearestSubscribed_eq_none
    (complete : CompleteCumulativeSet interactionClass parents)
    {receiver : ConnectHandle}
    (absent :
      receiver ∉
        interactionClass.publishSubscribe.cumulativeSubscribedConnectHandleSet) :
    nearestSubscribed receiver (interactionClass :: parents) = none := by
  rw [nearestSubscribed, List.find?_eq_none]
  intro current member subscribed
  exact absent (complete current member receiver (of_decide_eq_true subscribed))

/-- A connect that is not subscribed at all gets nothing. -/
theorem messageFor_eq_none
    {receiver : ConnectHandle}
    (none : nearestSubscribed receiver (interactionClass :: parents) = none) :
    messageFor message interactionClass parents receiver = Option.none := by
  rw [nearestSubscribed, List.find?_cons] at none
  split at none
  next => cases none
  next notSubscribed =>
    rw [messageFor, if_neg (of_decide_eq_false notSubscribed),
      messageForBaseClass_eq, nearestSubscribed, none]
    rfl

variable {self : InteractionServer}

/-- What is sent goes to the nearest class exactly if each connect but the
originating one gets what that class lets pass. -/
theorem sentToNearest_iff
    {connectHandle : ConnectHandle}
    (complete : CompleteCumulativeSet interactionClass parents) :
    self.SentToNearest connectHandle message (interactionClass :: parents)
        (deliveries connectHandle message interactionClass parents self) ↔
      ∀ receiver ∈ self.connectHandles, receiver ≠ connectHandle →
        messageFor message interactionClass parents receiver =
          messageForNearest message (interactionClass :: parents) receiver := by
  have sentTo : ∀ receiver ∈ self.connectHandles, receiver ≠ connectHandle →
      (deliveries connectHandle message interactionClass parents self).filter
          (fun delivery => delivery.1 = receiver) =
        ((messageFor message interactionClass parents receiver).map
          fun message => (receiver, message)).toList := by
    intro receiver known other
    rw [filter_deliveries, deliveryTo,
      if_neg (not_or.mpr ⟨other, not_not_intro known⟩)]
    split
    next => rfl
    next absent =>
      rw [messageFor_eq_none (nearestSubscribed_eq_none complete absent)]
      rfl
  constructor
  · intro routed receiver known other
    have sent := routed receiver
    rw [if_pos ⟨known, other⟩, sentTo receiver known other] at sent
    cases gets : messageFor message interactionClass parents receiver <;>
      cases nearest :
        messageForNearest message (interactionClass :: parents) receiver <;>
      simp_all
  · intro gets receiver
    split
    next included =>
      rw [sentTo receiver included.1 included.2,
        gets receiver included.1 included.2]
    next excluded =>
      have out : receiver = connectHandle ∨ receiver ∉ self.connectHandles := by
        by_contra included
        rw [not_or, not_not] at included
        exact excluded ⟨included.2, included.1⟩
      rw [filter_deliveries, deliveryTo, if_pos out]
      exact ite_self _

theorem map_selection_messageForBaseClass
    (message : TimeStampedInteractionMessage) (receiver : ConnectHandle)
    (parents : List FilteredInteractionClass) :
    (messageForBaseClass (.interaction message.toInteractionMessage) receiver
        parents).map (fun message => selection (receiver, message)) =
      (messageForBaseClass (.timeStampedInteraction message) receiver
        parents).map (fun message => selection (receiver, message)) := by
  rw [messageForBaseClass_eq, messageForBaseClass_eq, Option.map_map,
    Option.map_map]
  rfl

theorem map_selection_messageFor
    (message : TimeStampedInteractionMessage)
    (interactionClass : FilteredInteractionClass)
    (parents : List FilteredInteractionClass) (receiver : ConnectHandle) :
    (messageFor (.interaction message.toInteractionMessage) interactionClass
        parents receiver).map (fun message => selection (receiver, message)) =
      (messageFor (.timeStampedInteraction message) interactionClass
        parents receiver).map (fun message => selection (receiver, message)) := by
  rw [messageFor, messageFor]
  by_cases subscribed :
      interactionClass.getSubscriptionType receiver ≠ .unsubscribed
  · rw [if_pos subscribed, if_pos subscribed]
    let plain := RoutedMessage.interaction message.toInteractionMessage
    let timeStamped := RoutedMessage.timeStampedInteraction message
    have same : plain.toInteractionMessage = timeStamped.toInteractionMessage :=
      rfl
    by_cases matching :
        interactionClass.isMatching receiver
          plain.toInteractionMessage.parameterValues = true
    · rw [if_pos matching, if_pos (same ▸ matching)]
      rfl
    · rw [if_neg matching, if_neg (same ▸ matching)]
  · rw [if_neg subscribed, if_neg subscribed]
    exact map_selection_messageForBaseClass message receiver parents

/-- The plain and the time stamped messages for a connect select the same. -/
theorem selection_deliveries
    (self : InteractionServer) (connectHandle : ConnectHandle)
    (message : TimeStampedInteractionMessage)
    (interactionClass : FilteredInteractionClass)
    (parents : List FilteredInteractionClass) :
    (deliveries connectHandle (.interaction message.toInteractionMessage)
        interactionClass parents self).map selection =
      (deliveries connectHandle (.timeStampedInteraction message)
        interactionClass parents self).map selection := by
  rw [deliveries, deliveries, List.map_filterMap, List.map_filterMap]
  congr 1
  funext receiver
  rw [deliveryTo, deliveryTo, Option.map_map, Option.map_map]
  split
  next => rfl
  next =>
    exact map_selection_messageFor message interactionClass parents receiver

theorem acceptInteractionMessage_eq
    {message : InteractionMessage}
    (found :
      self.getInteractionClass message.interactionClassHandle =
        some (parents, interactionClass))
    (connectHandle : ConnectHandle) :
    self.acceptInteractionMessage connectHandle message =
      .ok { self with
        sent := self.sent ++
          deliveries connectHandle (.interaction message) interactionClass
            parents self } := by
  rw [acceptInteractionMessage, found]
  dsimp only
  rw [route_eq]

theorem acceptTimeStampedInteractionMessage_eq
    {message : TimeStampedInteractionMessage}
    (found :
      self.getInteractionClass message.interactionClassHandle =
        some (parents, interactionClass))
    (connectHandle : ConnectHandle) :
    self.acceptTimeStampedInteractionMessage connectHandle message =
      .ok { self with
        sent := self.sent ++
          deliveries connectHandle (.timeStampedInteraction message)
            interactionClass parents self } := by
  rw [acceptTimeStampedInteractionMessage, found]
  dsimp only
  rw [route_eq]

theorem interactionClassHandle_of_getInteractionClass
    {interactionClassHandle : InteractionClassHandle}
    (found :
      self.getInteractionClass interactionClassHandle =
        some (parents, interactionClass)) :
    interactionClass.interactionClassHandle = interactionClassHandle :=
  of_decide_eq_true (Forest.find?_eq_some found).2

/-- A class with one parameter, subscribed by one connect. -/
def filteredClass
    (filter : VariableLengthData) : FilteredInteractionClass where
  interactionClassHandle := 1
  name := ["Report"]
  classParameters := [{ parameterHandle := 7, definedBy := 1, name := "kind" }]
  publishSubscribe :=
    { subscribedConnects := { connectHandleSet := {5} }
      cumulativeSubscribedConnectHandleSet := {5} }
  parameterFilterKeyPrototype := [7]
  parameterFiltersByConnect :=
    (∅ : OrderedMap ConnectHandle VariableLengthDataTupleSet).insert 5
      (({} : VariableLengthDataTupleSet).insert [filter])

/-- A class below it, with one more parameter that two connects have filters
for. -/
def derivedClass : FilteredInteractionClass where
  interactionClassHandle := 2
  name := ["Report", "Status"]
  classParameters :=
    [{ parameterHandle := 7, definedBy := 1, name := "kind" },
      { parameterHandle := 8, definedBy := 2, name := "status" }]
  publishSubscribe :=
    { subscribedConnects := { connectHandleSet := {6, 7} }
      cumulativeSubscribedConnectHandleSet := {5, 6, 7} }
  parameterFilterKeyPrototype := [8]
  parameterFiltersByConnect :=
    ((∅ : OrderedMap ConnectHandle VariableLengthDataTupleSet).insert 6
      (({} : VariableLengthDataTupleSet).insert [[1]])).insert 7
        (({} : VariableLengthDataTupleSet).insert [[2]])

def filteredServer (filter : VariableLengthData) : InteractionServer where
  interactionClasses :=
    .cons (filteredClass filter) (.cons derivedClass .nil .nil) .nil
  connectHandles := {4, 5, 6, 7}

def statusReport : TimeStampedInteractionMessage where
  federateHandle := 3
  interactionClassHandle := 2
  parameterValues :=
    [{ parameterHandle := 7, value := [66] },
      { parameterHandle := 8, value := [1] }]
  timeStamp := [0]
  messageRetractionHandle := 9

theorem completeCumulativeSet_derivedClass (filter : VariableLengthData) :
    CompleteCumulativeSet derivedClass [filteredClass filter] := by
  intro current member receiver subscribed
  rw [List.mem_cons, List.mem_singleton] at member
  rcases member with isDerived | isFiltered
  · rw [isDerived] at subscribed
    simp [FilteredInteractionClass.getSubscriptionType, derivedClass,
      PublishSubscribe.getSubscriptionType,
      BroadcastConnectHandleSet.contains] at subscribed ⊢
    tauto
  · rw [isFiltered] at subscribed
    simp [FilteredInteractionClass.getSubscriptionType, filteredClass,
      PublishSubscribe.getSubscriptionType,
      BroadcastConnectHandleSet.contains] at subscribed
    simp [derivedClass, subscribed]

/-- The filters of the class of the report are indexed. -/
theorem filtersIndexed_derivedClass (receiver : ConnectHandle) :
    derivedClass.FiltersIndexed receiver := by
  have single : ∀ value : VariableLengthData,
      (({} : VariableLengthDataTupleSet).insert [value]).Indexed :=
    fun value => VariableLengthDataTupleSet.Indexed.empty.insert
      (Nat.zero_le _)
  intro filters held
  have stored := OrderedMap.find?_eq_some_iff.mp held
  rcases List.mem_cons.mp stored with isSix | isOther
  · cases isSix
    exact ⟨single [1], by decide⟩
  · cases List.mem_singleton.mp isOther
    exact ⟨single [2], by decide⟩

end InteractionServer

end ServerNode
end OpenRTI
