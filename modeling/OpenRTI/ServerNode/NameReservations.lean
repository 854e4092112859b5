import OpenRTI.Foundation.TransitionSystem
import OpenRTI.ServerModel.InteractionClass
import OpenRTI.ServerModel.ObjectInstance

/-!
# Reservations of object instance names and handles

The root server gives handles and names of object instances away, and references
them for the connect the request came through.  Each server node on the way back
references them for the connect the federate is reached through, until they are
released or the connect goes.

This is a server node and the root, each with federates.  Object instances are
not registered.  Joining is one step of both sides, and the federates of the
node are connected to the node itself.  What the sides tell each other about
other federates is left out, as is shutting down a federation.
-/

namespace OpenRTI
namespace ServerNode

open Foundation
open ServerModel

abbrev ObjectInstanceHandleNamePair := ObjectInstanceHandle × String

/-- An object instance that has no class yet, with the connects that reference
it. -/
structure ReservedObjectInstance where
  objectInstanceHandle : ObjectInstanceHandle
  name : String
  connectHandles : List ConnectHandle
  deriving DecidableEq

structure ReservingFederate where
  federateHandle : FederateHandle
  federationConnect : Option ConnectHandle
  resignPending : Bool := false
  deriving DecidableEq

inductive ReservationMessage
  | objectInstanceHandlesRequest
      (federateHandle : FederateHandle)
      (count : Nat)
  | objectInstanceHandlesResponse
      (federateHandle : FederateHandle)
      (pairs : List ObjectInstanceHandleNamePair)
  | reserveObjectInstanceNameRequest
      (federateHandle : FederateHandle)
      (name : String)
      (isInternal : Bool)
  | reserveObjectInstanceNameResponse
      (federateHandle : FederateHandle)
      (pair : ObjectInstanceHandleNamePair)
      (success : Bool)
  | reserveMultipleObjectInstanceNameRequest
      (federateHandle : FederateHandle)
      (nameList : List String)
  | reserveMultipleObjectInstanceNameResponse
      (federateHandle : FederateHandle)
      (pairs : List ObjectInstanceHandleNamePair)
      (success : Bool)
  | releaseMultipleObjectInstanceNameHandlePairs
      (objectInstanceHandles : List ObjectInstanceHandle)
  | resignFederationExecutionRequest (federateHandle : FederateHandle)
  | resignFederateNotify (federateHandle : FederateHandle)
  deriving DecidableEq

/-- A server with what is on its way from it, the oldest message first. -/
structure ReservationServer where
  isRootServer : Bool
  objectInstances : List ReservedObjectInstance := []
  objectInstanceHandleAllocator : HandleAllocator invalidHandle := {}
  federates : List ReservingFederate := []
  toParent : List ReservationMessage := []
  toConnect : ConnectHandle → List ReservationMessage := fun _ => []

namespace ReservationServer

/-- A handler may throw.  What it has changed before stays changed. -/
abbrev Handler (α : Type) := EStateM Failure ReservationServer α

def getFederate
    (self : ReservationServer)
    (federateHandle : FederateHandle) : Option ReservingFederate :=
  self.federates.find? fun federate =>
    federate.federateHandle = federateHandle

def getObjectInstance
    (self : ReservationServer)
    (objectInstanceHandle : ObjectInstanceHandle) :
    Option ReservedObjectInstance :=
  self.objectInstances.find? fun objectInstance =>
    objectInstance.objectInstanceHandle = objectInstanceHandle

def isObjectInstanceNameInUse
    (self : ReservationServer)
    (name : String) : Bool :=
  self.objectInstances.any fun objectInstance => objectInstance.name = name

def sendToParent
    (message : ReservationMessage)
    (self : ReservationServer) : ReservationServer :=
  { self with toParent := self.toParent ++ [message] }

def send
    (connectHandle : ConnectHandle)
    (message : ReservationMessage)
    (self : ReservationServer) : ReservationServer :=
  { self with
    toConnect := Function.update self.toConnect connectHandle
      (self.toConnect connectHandle ++ [message]) }

/-! ## Object instances -/

/-- The name of an object instance that is inserted without a name. -/
def nameOr
    (objectInstanceHandle : ObjectInstanceHandle)
    (name : String) : String :=
  if name = "" then "HLAobjectInstance" ++ toString objectInstanceHandle
  else name

/-- A new object instance that a connect references. -/
def reserved
    (connectHandle : ConnectHandle)
    (pair : ObjectInstanceHandleNamePair) : ReservedObjectInstance where
  objectInstanceHandle := pair.1
  name := nameOr pair.1 pair.2
  connectHandles := [connectHandle]

/-- Insert an object instance and reference it. -/
def enterObjectInstance
    (connectHandle : ConnectHandle)
    (pair : ObjectInstanceHandleNamePair)
    (self : ReservationServer) : ReservationServer :=
  { self with
    objectInstances := self.objectInstances ++ [reserved connectHandle pair] }

/-- Insert an object instance that the parent has given the handle. -/
def takeObjectInstance
    (connectHandle : ConnectHandle)
    (pair : ObjectInstanceHandleNamePair)
    (self : ReservationServer) : ReservationServer :=
  { self with
    objectInstanceHandleAllocator :=
      self.objectInstanceHandleAllocator.take pair.1 }.enterObjectInstance
    connectHandle pair

def takeObjectInstances
    (connectHandle : ConnectHandle)
    (pairs : List ObjectInstanceHandleNamePair)
    (self : ReservationServer) : ReservationServer :=
  pairs.foldl (fun self pair => self.takeObjectInstance connectHandle pair) self

/-- Insert an object instance with a new handle. -/
def allocateObjectInstance
    (connectHandle : ConnectHandle)
    (name : String) : Handler ObjectInstanceHandleNamePair := fun self =>
  match HandleAllocator.get self.objectInstanceHandleAllocator with
  | .ok objectInstanceHandle objectInstanceHandleAllocator =>
      .ok (objectInstanceHandle, nameOr objectInstanceHandle name)
        ({ self with objectInstanceHandleAllocator }.enterObjectInstance
          connectHandle (objectInstanceHandle, name))
  | .error failure objectInstanceHandleAllocator =>
      .error failure { self with objectInstanceHandleAllocator }

def allocateObjectInstances
    (connectHandle : ConnectHandle) :
    List String → Handler (List ObjectInstanceHandleNamePair)
  | [] => pure []
  | name :: rest => do
      let pair ← allocateObjectInstance connectHandle name
      let pairs ← allocateObjectInstances connectHandle rest
      pure (pair :: pairs)

def eraseObjectInstance
    (objectInstanceHandle : ObjectInstanceHandle)
    (self : ReservationServer) : ReservationServer :=
  { self with
    objectInstances := self.objectInstances.filter fun objectInstance =>
      objectInstance.objectInstanceHandle ≠ objectInstanceHandle
    objectInstanceHandleAllocator :=
      self.objectInstanceHandleAllocator.put objectInstanceHandle }

/-- Remove a reference of a connect. -/
def unreference
    (connectHandle : ConnectHandle)
    (objectInstanceHandle : ObjectInstanceHandle)
    (self : ReservationServer) : ReservationServer :=
  { self with
    objectInstances := self.objectInstances.map fun objectInstance =>
      if objectInstance.objectInstanceHandle = objectInstanceHandle then
        { objectInstance with
          connectHandles := objectInstance.connectHandles.erase connectHandle }
      else objectInstance }

/-! ## Requests and responses -/

/-- Handles are given away by the root. -/
def acceptObjectInstanceHandlesRequest
    (connectHandle : ConnectHandle)
    (federateHandle : FederateHandle)
    (count : Nat) : Handler Unit := do
  if (← get).isRootServer then
    let pairs ← allocateObjectInstances connectHandle (List.replicate count "")
    modify (send connectHandle
      (.objectInstanceHandlesResponse federateHandle pairs))
  else
    modify (sendToParent (.objectInstanceHandlesRequest federateHandle count))

def acceptReserveObjectInstanceNameRequest
    (federateHandle : FederateHandle)
    (name : String)
    (isInternal : Bool) : Handler Unit := do
  match (← get).getFederate federateHandle with
  | none =>
      throw (.messageError ["Got ReserveObjectInstanceNameRequestMessage for " ++
        "an unknown federate!"])
  | some federate =>
      if !isInternal && "HLA".toList.isPrefixOf name.toList then
        throw (.messageError ["Got ReserveObjectInstanceNameRequestMessage " ++
          "with name starting with HLA."])
      else if (← get).isRootServer then
        match federate.federationConnect with
        | none => throw .undefined
        | some connectHandle =>
            if (← get).isObjectInstanceNameInUse name then
              modify (send connectHandle
                (.reserveObjectInstanceNameResponse federateHandle
                  (invalidHandle, name) false))
            else
              let pair ← allocateObjectInstance connectHandle name
              modify (send connectHandle
                (.reserveObjectInstanceNameResponse federateHandle pair true))
      else
        modify (sendToParent
          (.reserveObjectInstanceNameRequest federateHandle name isInternal))

/-- Either all names are reserved or none. -/
def acceptReserveMultipleObjectInstanceNameRequest
    (federateHandle : FederateHandle)
    (nameList : List String) : Handler Unit := do
  match (← get).getFederate federateHandle with
  | none =>
      throw (.messageError ["Got " ++
        "ReserveMultipleObjectInstanceNameRequestMessage for an unknown " ++
        "federate!"])
  | some federate =>
      if nameList.any fun name => "HLA".toList.isPrefixOf name.toList then
        throw (.messageError [
          "ReserveMultipleObjectInstanceNameRequestMessage with name " ++
            "starting with HLA."])
      else if (← get).isRootServer then
        match federate.federationConnect with
        | none => throw .undefined
        | some connectHandle =>
            if nameList.any (← get).isObjectInstanceNameInUse then
              modify (send connectHandle
                (.reserveMultipleObjectInstanceNameResponse federateHandle
                  (nameList.map fun name => (invalidHandle, name)) false))
            else
              let pairs ← allocateObjectInstances connectHandle nameList
              modify (send connectHandle
                (.reserveMultipleObjectInstanceNameResponse federateHandle
                  ((pairs.map Prod.fst).zip nameList) true))
      else
        modify (sendToParent
          (.reserveMultipleObjectInstanceNameRequest federateHandle nameList))

/-- Reference what the root has given away, and pass the response on.  The
federate may have resigned or died in between.  Then the response is ignored. -/
def acceptResponse
    (federateHandle : FederateHandle)
    (unknown : String)
    (pairs : List ObjectInstanceHandleNamePair)
    (message : ReservationMessage) : Handler Unit := do
  match (← get).getFederate federateHandle with
  | none => throw (.messageError [unknown])
  | some federate =>
      match federate.federationConnect, federate.resignPending with
      | some connectHandle, false =>
          modify (takeObjectInstances connectHandle pairs)
          modify (send connectHandle message)
      | _, _ => pure ()

def acceptObjectInstanceHandlesResponse
    (federateHandle : FederateHandle)
    (pairs : List ObjectInstanceHandleNamePair) : Handler Unit :=
  acceptResponse federateHandle
    "Got ObjectInstanceHandlesResponseMessage for an unknown federate!" pairs
    (.objectInstanceHandlesResponse federateHandle pairs)

def acceptReserveObjectInstanceNameResponse
    (federateHandle : FederateHandle)
    (pair : ObjectInstanceHandleNamePair)
    (success : Bool) : Handler Unit :=
  acceptResponse federateHandle
    "Got ReserveObjectInstanceNameResponseMessage for an unknown federate!"
    (if success then [pair] else [])
    (.reserveObjectInstanceNameResponse federateHandle pair success)

def acceptReserveMultipleObjectInstanceNameResponse
    (federateHandle : FederateHandle)
    (pairs : List ObjectInstanceHandleNamePair)
    (success : Bool) : Handler Unit :=
  acceptResponse federateHandle
    ("Got ReserveMultipleObjectInstanceNameResponseMessage for an unknown " ++
      "federate!")
    (if success then pairs else [])
    (.reserveMultipleObjectInstanceNameResponse federateHandle pairs success)

/-! ## Releasing -/

/-- Release references of a connect.  The object instances that nobody
references any more are erased; these are returned. -/
def releaseObjectInstances
    (connectHandle : ConnectHandle) :
    List ObjectInstanceHandle → Handler (List ObjectInstanceHandle)
  | [] => pure []
  | objectInstanceHandle :: rest => do
      match (← get).getObjectInstance objectInstanceHandle with
      | none =>
          throw (.messageError ["Got " ++
            "ReleaseMultipleObjectInstanceNameHandlePairsMessage for an " ++
            "unknown object instance!"])
      | some objectInstance =>
          if connectHandle ∉ objectInstance.connectHandles then
            throw .undefined
          else if (objectInstance.connectHandles.erase
              connectHandle).isEmpty then
            modify (eraseObjectInstance objectInstanceHandle)
            let released ← releaseObjectInstances connectHandle rest
            pure (objectInstanceHandle :: released)
          else
            modify (unreference connectHandle objectInstanceHandle)
            releaseObjectInstances connectHandle rest

/-- What nobody references any more is released at the parent. -/
def sendReleased
    (released : List ObjectInstanceHandle)
    (self : ReservationServer) : ReservationServer :=
  if self.isRootServer || released.isEmpty then self
  else
    self.sendToParent (.releaseMultipleObjectInstanceNameHandlePairs released)

def acceptReleaseMultipleObjectInstanceNameHandlePairs
    (connectHandle : ConnectHandle)
    (objectInstanceHandles : List ObjectInstanceHandle) : Handler Unit := do
  let released ← releaseObjectInstances connectHandle objectInstanceHandles
  modify (sendReleased released)

/-! ## Resigning -/

def eraseFederate
    (federateHandle : FederateHandle)
    (self : ReservationServer) : ReservationServer :=
  { self with
    federates := self.federates.filter fun federate =>
      federate.federateHandle ≠ federateHandle }

def setResignPending
    (federateHandle : FederateHandle)
    (self : ReservationServer) : ReservationServer :=
  { self with
    federates := self.federates.map fun federate =>
      if federate.federateHandle = federateHandle then
        { federate with resignPending := true }
      else federate }

def acceptResignFederationExecutionRequest
    (connectHandle : ConnectHandle)
    (federateHandle : FederateHandle) : Handler Unit := do
  match (← get).getFederate federateHandle with
  | none =>
      throw (.messageError ["Received " ++
        "ResignFederationExecutionRequestMessage for invalid federate handle!"])
  | some federate =>
      if federate.resignPending then pure ()
      else
        modify (setResignPending federateHandle)
        if (← get).isRootServer then
          modify (send connectHandle (.resignFederateNotify federateHandle))
          modify (eraseFederate federateHandle)
        else
          modify (sendToParent
            (.resignFederationExecutionRequest federateHandle))

def acceptResignFederateNotify (federateHandle : FederateHandle) :
    Handler Unit := do
  match (← get).getFederate federateHandle with
  | none =>
      throw (.messageError ["Received ResignFederateNotify for unknown " ++
        "federate!"])
  | some _ => modify (eraseFederate federateHandle)

/-- The object instances that a connect references. -/
def referencedBy
    (self : ReservationServer)
    (connectHandle : ConnectHandle) : List ObjectInstanceHandle :=
  (self.objectInstances.filter fun objectInstance =>
    connectHandle ∈ objectInstance.connectHandles).map
      ReservedObjectInstance.objectInstanceHandle

/-- Remove a federate from its connect. -/
def disconnectFederate
    (federateHandle : FederateHandle)
    (self : ReservationServer) : ReservationServer :=
  { self with
    federates := self.federates.map fun federate =>
      if federate.federateHandle = federateHandle then
        { federate with federationConnect := none }
      else federate }

def resignFederates
    (connectHandle : ConnectHandle) : List FederateHandle → Handler Unit
  | [] => pure ()
  | federateHandle :: rest => do
      modify (disconnectFederate federateHandle)
      acceptResignFederationExecutionRequest connectHandle federateHandle
      resignFederates connectHandle rest

/-- The federates behind a connect. -/
def federatesAt
    (self : ReservationServer)
    (connectHandle : ConnectHandle) : List FederateHandle :=
  (self.federates.filter fun federate =>
    federate.federationConnect = some connectHandle).map
      ReservingFederate.federateHandle

/-- All object references of a connect are released, and its federates
resign. -/
def resignConnect (connectHandle : ConnectHandle) : Handler Unit := do
  let released ← releaseObjectInstances connectHandle
    ((← get).referencedBy connectHandle)
  modify (sendReleased released)
  resignFederates connectHandle ((← get).federatesAt connectHandle)

/-- A federate has joined through a connect and not resigned. -/
def isJoinedAt
    (self : ReservationServer)
    (connectHandle : ConnectHandle) : Prop :=
  ∃ federate ∈ self.federates,
    federate.federationConnect = some connectHandle ∧
      federate.resignPending = false

/-! ## Dispatch -/

def accept
    (connectHandle : ConnectHandle) : ReservationMessage → Handler Unit
  | .objectInstanceHandlesRequest federateHandle count =>
      acceptObjectInstanceHandlesRequest connectHandle federateHandle count
  | .objectInstanceHandlesResponse federateHandle pairs =>
      acceptObjectInstanceHandlesResponse federateHandle pairs
  | .reserveObjectInstanceNameRequest federateHandle name isInternal =>
      acceptReserveObjectInstanceNameRequest federateHandle name isInternal
  | .reserveObjectInstanceNameResponse federateHandle pair success =>
      acceptReserveObjectInstanceNameResponse federateHandle pair success
  | .reserveMultipleObjectInstanceNameRequest federateHandle nameList =>
      acceptReserveMultipleObjectInstanceNameRequest federateHandle nameList
  | .reserveMultipleObjectInstanceNameResponse federateHandle pairs success =>
      acceptReserveMultipleObjectInstanceNameResponse federateHandle pairs
        success
  | .releaseMultipleObjectInstanceNameHandlePairs objectInstanceHandles =>
      acceptReleaseMultipleObjectInstanceNameHandlePairs connectHandle
        objectInstanceHandles
  | .resignFederationExecutionRequest federateHandle =>
      acceptResignFederationExecutionRequest connectHandle federateHandle
  | .resignFederateNotify federateHandle =>
      acceptResignFederateNotify federateHandle

end ReservationServer

/-! ## A node and the root -/

/-- The root reaches the node through the connect 0. -/
structure ReservationPath where
  server : ReservationServer := { isRootServer := false }
  root : ReservationServer := { isRootServer := true }

inductive Side
  | node
  | root
  deriving DecidableEq

/-- What may happen next at one of the sides: a federate joins through a
connect, sends a message or resigns with its connect; or a side takes the oldest
message of the other side. -/
inductive ReservationInput
  | joinFederationExecution
      (side : Side)
      (federateHandle : FederateHandle)
      (connectHandle : ConnectHandle)
  | sendMessage
      (side : Side)
      (federateHandle : FederateHandle)
      (message : ReservationMessage)
  | resignConnect (side : Side) (connectHandle : ConnectHandle)
  | deliver (side : Side)
  deriving DecidableEq

namespace ReservationPath

open ReservationServer

def serverOf (self : ReservationPath) : Side → ReservationServer
  | .node => self.server
  | .root => self.root

def set
    (side : Side)
    (server : ReservationServer)
    (self : ReservationPath) : ReservationPath :=
  match side with
  | .node => { self with server }
  | .root => { self with root := server }

/-- Run a handler of a side.  An exception is reported, and the side goes on. -/
def handle
    (side : Side)
    (handler : Handler Unit)
    (self : ReservationPath) : Except Failure ReservationPath :=
  match handler (self.serverOf side) with
  | .ok _ after => .ok (self.set side after)
  | .error .undefined _ => .error .undefined
  | .error _ after => .ok (self.set side after)

/-- A child connect, which at the root is not the one of the node. -/
def isOther (side : Side) (connectHandle : ConnectHandle) : Bool :=
  side = .node || connectHandle ≠ 0

def join
    (federateHandle : FederateHandle)
    (connectHandle : ConnectHandle)
    (server : ReservationServer) : ReservationServer :=
  { server with
    federates := server.federates ++
      [{ federateHandle, federationConnect := some connectHandle }] }

/-- The connect of a federate that has not resigned. -/
def connectOf
    (server : ReservationServer)
    (federateHandle : FederateHandle) : Option ConnectHandle :=
  match server.getFederate federateHandle with
  | none => none
  | some federate =>
      if federate.resignPending then none else federate.federationConnect

/-- What a federate may send: requests of its own, and releases of what its
connect references. -/
def mayBeSent
    (server : ReservationServer)
    (federateHandle : FederateHandle)
    (connectHandle : ConnectHandle) : ReservationMessage → Bool
  | .objectInstanceHandlesRequest other _ => other = federateHandle
  | .reserveObjectInstanceNameRequest other _ _ => other = federateHandle
  | .reserveMultipleObjectInstanceNameRequest other _ => other = federateHandle
  | .releaseMultipleObjectInstanceNameHandlePairs objectInstanceHandles =>
      objectInstanceHandles.Nodup &&
        objectInstanceHandles.all fun objectInstanceHandle =>
          objectInstanceHandle ∈ server.referencedBy connectHandle
  | _ => false

/-- One step, where it is possible.  A federate that joins at the node joins at
the root too, which reaches it through the node. -/
def step
    (self : ReservationPath) :
    ReservationInput → Option (Except Failure ReservationPath)
  | .joinFederationExecution side federateHandle connectHandle =>
      if isOther side connectHandle &&
          (self.server.getFederate federateHandle).isNone &&
          (self.root.getFederate federateHandle).isNone then
        match side with
        | .node =>
            some (.ok
              { server := join federateHandle connectHandle self.server
                root := join federateHandle 0 self.root })
        | .root =>
            some (.ok
              { self with root := join federateHandle connectHandle self.root })
      else none
  | .sendMessage side federateHandle message =>
      match connectOf (self.serverOf side) federateHandle with
      | none => none
      | some connectHandle =>
          if isOther side connectHandle &&
              mayBeSent (self.serverOf side) federateHandle connectHandle message then
            some (self.handle side (accept connectHandle message))
          else none
  | .resignConnect side connectHandle =>
      if isOther side connectHandle then
        some (self.handle side (ReservationServer.resignConnect connectHandle))
      else none
  | .deliver .root =>
      match self.server.toParent with
      | [] => none
      | message :: rest =>
          some
            ({ self with server := { self.server with toParent := rest } }.handle
              .root (accept 0 message))
  | .deliver .node =>
      match self.root.toConnect 0 with
      | [] => none
      | message :: rest =>
          some
            ({ self with
                root :=
                  { self.root with
                    toConnect :=
                      Function.update self.root.toConnect 0 rest } }.handle
              .node (accept 0 message))

def system : TransitionSystem ReservationPath ReservationInput where
  initial := {}
  next self input :=
    match self.step input with
    | some (.ok after) => some after
    | _ => none

/-- What a response gives away. -/
def granted : ReservationMessage → List ObjectInstanceHandleNamePair
  | .objectInstanceHandlesResponse _ pairs => pairs
  | .reserveObjectInstanceNameResponse _ pair true => [pair]
  | .reserveMultipleObjectInstanceNameResponse _ pairs true => pairs
  | _ => []

/-- The federate that a response is for. -/
def receiver : ReservationMessage → Option FederateHandle
  | .objectInstanceHandlesResponse federateHandle _ => some federateHandle
  | .reserveObjectInstanceNameResponse federateHandle _ _ => some federateHandle
  | .reserveMultipleObjectInstanceNameResponse federateHandle _ _ =>
      some federateHandle
  | _ => none

/-- How many object instances a request asks for. -/
def wanted : ReservationMessage → Nat
  | .objectInstanceHandlesRequest _ count => count
  | .reserveObjectInstanceNameRequest _ _ _ => 1
  | .reserveMultipleObjectInstanceNameRequest _ nameList => nameList.length
  | _ => 0

/-- There are as many handles left at the root as a request asks for. -/
def isLeft (self : ReservationPath) (message : ReservationMessage) : Bool :=
  self.root.objectInstanceHandleAllocator.inUse.card + wanted message ≤
    invalidHandle

/-- No step loses a reservation: a response that gives something away finds its
federate, and the root does not run out of handles. -/
def losesNone (self : ReservationPath) : ReservationInput → Bool
  | .deliver .node =>
      match self.root.toConnect 0 with
      | [] => true
      | message :: _ =>
          (granted message).isEmpty ||
            (receiver message).any fun federateHandle =>
              (connectOf self.server federateHandle).isSome
  | .deliver .root => self.server.toParent.head?.all self.isLeft
  | .sendMessage .root _ message => self.isLeft message
  | _ => true

/-- All messages are delivered. -/
def Quiet (self : ReservationPath) : Prop :=
  self.server.toParent = [] ∧ self.root.toConnect 0 = []

end ReservationPath
end ServerNode
end OpenRTI
