import OpenRTI.Foundation.TransitionSystem
import OpenRTI.ServerModel.Federation
import OpenRTI.ServerModel.ObjectInstance

/-!
# Synchronization points at the root server

The root server keeps a synchronization point for each registered label, with
the federates it waits for and those that have achieved it.  A point is
completed where the achievement of a federate leaves nobody to wait for.

A federate that joins may extend the object model.  Of joining and resigning,
time management and the messages that are not about synchronization points are
left out here.
-/

namespace OpenRTI
namespace ServerNode

open Foundation
open ServerModel

structure Federate where
  federateHandle : FederateHandle
  name : String
  connectHandle : ConnectHandle
  isInternal : Bool
  resignPending : Bool := false
  deriving DecidableEq

/-- A registered label.  Both lists are maps by the federate handle, in the
order of insertion. -/
structure Synchronization where
  label : String
  tag : VariableLengthData := []
  addJoiningFederates : Bool
  waitingFederates : List FederateHandle := []
  achievedFederates : List (FederateHandle × Bool) := []
  deriving DecidableEq

namespace Synchronization

def getIsWaitingFor
    (self : Synchronization)
    (federateHandle : FederateHandle) : Bool :=
  self.waitingFederates.contains federateHandle

/-- Internal federates and those about to resign are not waited for. -/
def accepts (federate : Federate) : Bool :=
  !federate.resignPending && !federate.isInternal

def insert
    (federate : Federate)
    (self : Synchronization) : Synchronization :=
  if accepts federate then
    { self with
      waitingFederates := self.waitingFederates ++
        [federate.federateHandle] }
  else self

def achieved
    (self : Synchronization)
    (pair : FederateHandle × Bool) : Synchronization :=
  if self.getIsWaitingFor pair.1 then
    { self with
      waitingFederates := self.waitingFederates.erase pair.1
      achievedFederates := self.achievedFederates ++ [pair] }
  else self

/-- The entries of a federate go with it. -/
def removeFederate
    (federateHandle : FederateHandle)
    (self : Synchronization) : Synchronization :=
  { self with
    waitingFederates := self.waitingFederates.filter (· ≠ federateHandle)
    achievedFederates :=
      self.achievedFederates.filter fun pair => pair.1 ≠ federateHandle }

end Synchronization

inductive RegisterFederationSynchronizationPointResponseType
  | success
  | labelNotUnique
  deriving DecidableEq

/-- The messages about synchronization points that the root server sends. -/
inductive SynchronizationMessage
  | registerFederationSynchronizationPointResponse
      (label : String)
      (federateHandle : FederateHandle)
      (responseType : RegisterFederationSynchronizationPointResponseType)
  | announceSynchronizationPoint
      (label : String)
      (tag : VariableLengthData)
      (addJoiningFederates : Bool)
      (federateHandles : List FederateHandle)
  | federationSynchronized
      (label : String)
      (federateHandleBoolPairs : List (FederateHandle × Bool))
  deriving DecidableEq

/-- What has happened to the synchronization points.  The server does not look
at this. -/
inductive SynchronizationEvent
  | registered (label : String)
  | inserted (label : String) (federateHandle : FederateHandle)
  | achieved (label : String) (federateHandle : FederateHandle)
  | resigned (federateHandle : FederateHandle)
  | synchronized (label : String)
  deriving DecidableEq

/-- The root server of a federation.  The history has the latest event first. -/
structure RootServer where
  federation : Federation := {}
  federates : List Federate := []
  federateHandleAllocator : HandleAllocator invalidHandle := {}
  connectHandles : List ConnectHandle := []
  synchronizations : List Synchronization := []
  sent : List (List ConnectHandle × SynchronizationMessage) := []
  history : List SynchronizationEvent := []

namespace RootServer

def getFederate
    (self : RootServer)
    (federateHandle : FederateHandle) : Option Federate :=
  self.federates.find? fun federate =>
    federate.federateHandle = federateHandle

def isFederateNameInUse (self : RootServer) (name : String) : Bool :=
  self.federates.any fun federate => federate.name = name

def findLabel
    (self : RootServer)
    (label : String) : Option Synchronization :=
  self.synchronizations.find? fun synchronization =>
    synchronization.label = label

/-- Send a message to each of some connects. -/
def send
    (connectHandles : List ConnectHandle)
    (message : SynchronizationMessage)
    (self : RootServer) : RootServer :=
  { self with sent := self.sent ++ [(connectHandles, message)] }

def record
    (events : List SynchronizationEvent)
    (self : RootServer) : RootServer :=
  { self with history := events.reverse ++ self.history }

/-- The connects of federates, each once. -/
def connectsOf
    (self : RootServer)
    (federateHandles : List FederateHandle) : List ConnectHandle :=
  ((federateHandles.filterMap self.getFederate).map
    Federate.connectHandle).dedup

/-! ## Registration -/

/-- The new point, waiting for the federates of a list, or for all where the
list is empty. -/
def newSynchronization
    (label : String)
    (tag : VariableLengthData)
    (federateHandles : List FederateHandle)
    (self : RootServer) : Synchronization :=
  let federates :=
    if federateHandles.isEmpty then self.federates
    else federateHandles.filterMap self.getFederate
  federates.foldl (fun synchronization federate =>
      synchronization.insert federate)
    { label := label
      tag := tag
      addJoiningFederates := federateHandles.isEmpty }

/-- Announce a point at each connect to the federates there. -/
def announce
    (synchronization : Synchronization) :
    List ConnectHandle → RootServer → RootServer
  | [], self => self
  | connectHandle :: rest, self =>
      let federateHandles :=
        ((self.federates.filter fun federate =>
          federate.connectHandle = connectHandle).map
            Federate.federateHandle).filter synchronization.getIsWaitingFor
      announce synchronization rest
        (if federateHandles.isEmpty then self
        else self.send [connectHandle]
          (.announceSynchronizationPoint synchronization.label
            synchronization.tag synchronization.addJoiningFederates
            federateHandles))

def insertSynchronization
    (synchronization : Synchronization)
    (self : RootServer) : RootServer :=
  ({ self with
    synchronizations := self.synchronizations ++ [synchronization] } :
      RootServer).record
    (.registered synchronization.label ::
      synchronization.waitingFederates.map
        (.inserted synchronization.label))

def acceptRegisterFederationSynchronizationPoint
    (connectHandle : ConnectHandle)
    (label : String)
    (tag : VariableLengthData)
    (federateHandle : FederateHandle)
    (federateHandles : List FederateHandle)
    (self : RootServer) : Except Failure RootServer :=
  if label = "" then
    .error (.messageError
      ["Received empty label in RegisterFederationSynchronizationPointMessage!"])
  else if (self.findLabel label).isSome then
    .ok (self.send [connectHandle]
      (.registerFederationSynchronizationPointResponse label federateHandle
        .labelNotUnique))
  else
    let synchronization := self.newSynchronization label tag federateHandles
    -- Entering a federate twice fails an assertion.
    if ¬ synchronization.waitingFederates.Nodup then .error .undefined
    else .ok (((self.insertSynchronization synchronization).send [connectHandle]
      (.registerFederationSynchronizationPointResponse label federateHandle
        .success)).announce synchronization self.connectHandles)

/-! ## Achievement -/

/-- Complete a point: tell its federates and remove it. -/
def complete
    (synchronization : Synchronization)
    (self : RootServer) : RootServer :=
  ({ self with
    synchronizations := self.synchronizations.filter fun other =>
      other.label ≠ synchronization.label } : RootServer).send
    (self.connectsOf (synchronization.achievedFederates.map Prod.fst))
    (.federationSynchronized synchronization.label
      synchronization.achievedFederates)
  |>.record [.synchronized synchronization.label]

/-- Replace a point by another state of it. -/
def withSynchronization
    (synchronization : Synchronization)
    (self : RootServer) : RootServer :=
  { self with
    synchronizations := self.synchronizations.map fun other =>
      if other.label = synchronization.label then synchronization
      else other }

def acceptSynchronizationPointAchieved
    (label : String)
    (federateHandleBoolPairs : List (FederateHandle × Bool))
    (self : RootServer) : Except Failure RootServer :=
  match self.findLabel label with
  | none =>
      .error (.messageError
        ["SynchronizationPointAchievedMessage for unknown label!"])
  | some synchronization =>
      let achieved := federateHandleBoolPairs.foldl Synchronization.achieved
        synchronization
      let recorded := self.record
        (federateHandleBoolPairs.map fun pair => .achieved label pair.1)
      .ok (if achieved.waitingFederates.isEmpty then
          recorded.complete achieved
        else recorded.withSynchronization achieved)

/-! ## Joining and resigning -/

/-- Extend the points that take joining federates, one after the other. -/
def extendSynchronizations
    (federate : Federate) :
    List Synchronization → RootServer → RootServer
  | [], self => self
  | synchronization :: rest, self =>
      extendSynchronizations federate rest
        (if synchronization.addJoiningFederates && !federate.isInternal then
          ((self.withSynchronization
              (synchronization.insert federate)).record
            (if Synchronization.accepts federate then
              [.inserted synchronization.label federate.federateHandle]
            else [])).send self.connectHandles
              (.announceSynchronizationPoint synchronization.label
                synchronization.tag synchronization.addJoiningFederates
                [federate.federateHandle])
        else self)

/-- The name of a federate that joins without one. -/
def federateName
    (name : String)
    (federateHandle : FederateHandle) : String :=
  if name = "" then "HLAfederate" ++ toString federateHandle else name

/-- Enter a federate and the connect it joined through. -/
def insertFederate
    (federate : Federate)
    (federateHandleAllocator : HandleAllocator invalidHandle)
    (self : RootServer) : RootServer :=
  { self with
    federates := self.federates ++ [federate]
    federateHandleAllocator := federateHandleAllocator
    connectHandles :=
      if self.connectHandles.contains federate.connectHandle then
        self.connectHandles
      else self.connectHandles ++ [federate.connectHandle] }

/-- Let a federate join once its modules are in.  It is left out where the
handles have run out. -/
def joinFederate
    (connectHandle : ConnectHandle)
    (name : String)
    (isInternal : Bool)
    (self : RootServer) : RootServer :=
  match HandleAllocator.get self.federateHandleAllocator with
  | .error _ _ => self
  | .ok federateHandle federateHandleAllocator =>
      let federate : Federate :=
        { federateHandle := federateHandle
          name := federateName name federateHandle
          connectHandle := connectHandle
          isInternal := isInternal }
      (self.insertFederate federate
        federateHandleAllocator).extendSynchronizations federate
          self.synchronizations

/-- The server with another object model. -/
def withFederation
    (federation : Federation)
    (self : RootServer) : RootServer :=
  { self with federation := federation }

def acceptJoinFederationExecutionRequest
    (connectHandle : ConnectHandle)
    (name : String)
    (isInternal : Bool)
    (stringModules : List FOMStringModule2)
    (self : RootServer) : Except Failure RootServer :=
  if name ≠ "" && self.isFederateNameInUse name then .ok self
  else
    match Federation.insertModules [] stringModules self.federation with
    | .error .undefined _ => .error .undefined
    | .error _ federation => .ok (self.withFederation federation)
    | .ok _ federation =>
        .ok ((self.withFederation federation).joinFederate connectHandle name
          isInternal)

/-- Let a federate achieve each of some points without success. -/
def achieveAll
    (federateHandle : FederateHandle) :
    List String → RootServer → Except Failure RootServer
  | [], self => .ok self
  | label :: rest, self =>
      (self.acceptSynchronizationPointAchieved label
        [(federateHandle, false)]).bind (achieveAll federateHandle rest)

/-- The labels of the points that wait for a federate, once for each entry. -/
def waitingLabels
    (federateHandle : FederateHandle)
    (self : RootServer) : List String :=
  self.synchronizations.flatMap fun synchronization =>
    List.replicate
      (synchronization.waitingFederates.count federateHandle)
      synchronization.label

def setResignPending
    (federateHandle : FederateHandle)
    (self : RootServer) : RootServer :=
  { self with
    federates := self.federates.map fun federate =>
      if federate.federateHandle = federateHandle then
        { federate with resignPending := true }
      else federate }

def eraseFederate
    (federateHandle : FederateHandle)
    (self : RootServer) : RootServer :=
  ({ self with
    federates := self.federates.filter fun federate =>
      federate.federateHandle ≠ federateHandle
    federateHandleAllocator :=
      self.federateHandleAllocator.put federateHandle
    synchronizations := self.synchronizations.map
      (Synchronization.removeFederate federateHandle) } :
        RootServer).record [.resigned federateHandle]

def acceptResignFederationExecutionRequest
    (federateHandle : FederateHandle)
    (self : RootServer) : Except Failure RootServer :=
  match self.getFederate federateHandle with
  | none =>
      .error (.messageError
        ["Received ResignFederationExecutionRequestMessage for invalid " ++
          "federate handle!"])
  | some federate =>
      if federate.resignPending then .ok self
      else
        let pending := self.setResignPending federateHandle
        (pending.achieveAll federateHandle
          (pending.waitingLabels federateHandle)).map
            (eraseFederate federateHandle)

end RootServer

/-- The messages that joining federates, resigning federates and federates that
use synchronization points send to the root server. -/
inductive RootServerInput
  | joinFederationExecutionRequest
      (connectHandle : ConnectHandle)
      (name : String)
      (isInternal : Bool)
      (stringModules : List FOMStringModule2)
  | resignFederationExecutionRequest (federateHandle : FederateHandle)
  | registerFederationSynchronizationPoint
      (connectHandle : ConnectHandle)
      (label : String)
      (tag : VariableLengthData)
      (federateHandle : FederateHandle)
      (federateHandles : List FederateHandle)
  | synchronizationPointAchieved
      (label : String)
      (federateHandleBoolPairs : List (FederateHandle × Bool))

namespace RootServer

def accept (self : RootServer) : RootServerInput → Except Failure RootServer
  | .joinFederationExecutionRequest connectHandle name isInternal
      stringModules =>
      self.acceptJoinFederationExecutionRequest connectHandle name isInternal
        stringModules
  | .resignFederationExecutionRequest federateHandle =>
      self.acceptResignFederationExecutionRequest federateHandle
  | .registerFederationSynchronizationPoint connectHandle label tag
      federateHandle federateHandles =>
      self.acceptRegisterFederationSynchronizationPoint connectHandle label
        tag federateHandle federateHandles
  | .synchronizationPointAchieved label federateHandleBoolPairs =>
      self.acceptSynchronizationPointAchieved label federateHandleBoolPairs

/-- The root server over its messages.  A message at which it throws changes
nothing. -/
def system : TransitionSystem RootServer RootServerInput where
  initial := {}
  next self input :=
    match self.accept input with
    | .ok after => some after
    | .error .undefined => none
    | .error _ => some self

end RootServer
end ServerNode
end OpenRTI
