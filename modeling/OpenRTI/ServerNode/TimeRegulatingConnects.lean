import Mathlib.Data.Finset.Insert
import OpenRTI.Foundation.TransitionSystem
import OpenRTI.ServerModel.HandleAllocator
import OpenRTI.ServerModel.ObjectInstance

/-!
# Time regulating federates at a server node

A server node below the root keeps the connects behind which there are time
regulating federates, and for each of them these federates.  A federate is
entered when its request comes back from the parent, and goes when it disables
time regulation, resigns or loses its connect.

Of the rest of the node only joining and resigning is here.  Both are restricted
to federates: what a federate leaves behind elsewhere, shutting down a
federation, and the names of the federates are left out.  Federates, connects
and what is linked are functions and lists by their handles.
-/

namespace OpenRTI
namespace ServerNode

open Foundation
open ServerModel

/-- A federate as a server node knows it.  It has no connect any more if it has
resigned or the connect has been lost. -/
structure RegulatingFederate where
  federationConnect : Option ConnectHandle := none
  resignPending : Bool := false
  isTimeRegulating : Bool := false
  timeAdvanceTimeStamp : VariableLengthData := []
  nextMessageTimeStamp : VariableLengthData := []
  commitId : Nat := 0
  deriving DecidableEq

/-- A connect with the federates behind it. -/
structure RegulatingConnect where
  federateList : List FederateHandle := []
  timeRegulatingFederateList : List FederateHandle := []
  deriving DecidableEq

inductive RegulationMessage
  | joinFederationExecutionRequest
  | joinFederationExecutionResponse (federateHandle : FederateHandle)
  | joinFederateNotify (federateHandle : FederateHandle)
  | resignFederationExecutionRequest (federateHandle : FederateHandle)
  | resignFederateNotify (federateHandle : FederateHandle)
  | enableTimeRegulationRequest
      (federateHandle : FederateHandle)
      (timeStamp : VariableLengthData)
      (commitId : Nat)
  | disableTimeRegulationRequest (federateHandle : FederateHandle)
  deriving DecidableEq

/-- Which children a message is sent to. -/
inductive Children
  | only (connectHandle : ConnectHandle)
  | allBut (connectHandle : Option ConnectHandle)
  deriving DecidableEq

/-- What is sent to the parent is in a channel, with the oldest message first.
What is sent to the children is only noted. -/
structure RegulationServer where
  parentConnectHandle : ConnectHandle := 0
  federates : FederateHandle → Option RegulatingFederate := fun _ => none
  connects : ConnectHandle → Option RegulatingConnect :=
    Function.update (fun _ => none) 0 (some {})
  timeRegulatingFederationConnectList : List ConnectHandle := []
  pendingMessageList : List (Option ConnectHandle) := []
  toParent : List RegulationMessage := []
  toChildren : List (Children × RegulationMessage) := []

namespace RegulationServer

/-- A handler may throw.  What it has changed before stays changed. -/
abbrev Handler := EStateM Failure RegulationServer Unit

/-! ## Federates and connects -/

def modifyFederate
    (federateHandle : FederateHandle)
    (change : RegulatingFederate → RegulatingFederate)
    (self : RegulationServer) : RegulationServer :=
  { self with
    federates := Function.update self.federates federateHandle
      ((self.federates federateHandle).map change) }

def modifyConnect
    (connectHandle : ConnectHandle)
    (change : RegulatingConnect → RegulatingConnect)
    (self : RegulationServer) : RegulationServer :=
  { self with
    connects := Function.update self.connects connectHandle
      ((self.connects connectHandle).map change) }

/-- The connect a federate is reached through. -/
def connectOf
    (self : RegulationServer)
    (federateHandle : FederateHandle) : Option ConnectHandle :=
  (self.federates federateHandle).bind RegulatingFederate.federationConnect

/-- The federates behind a connect. -/
def federatesAt
    (self : RegulationServer)
    (connectHandle : ConnectHandle) : List FederateHandle :=
  ((self.connects connectHandle).map RegulatingConnect.federateList).getD []

/-- The time regulating federates behind a connect. -/
def timeRegulatingFederatesAt
    (self : RegulationServer)
    (connectHandle : ConnectHandle) : List FederateHandle :=
  ((self.connects connectHandle).map
    RegulatingConnect.timeRegulatingFederateList).getD []

def isTimeRegulating
    (self : RegulationServer)
    (federateHandle : FederateHandle) : Bool :=
  (self.federates federateHandle).any RegulatingFederate.isTimeRegulating

/-! ## Sending -/

def sendToParent
    (message : RegulationMessage)
    (self : RegulationServer) : RegulationServer :=
  { self with toParent := self.toParent ++ [message] }

def sendToChildren
    (children : Children)
    (message : RegulationMessage)
    (self : RegulationServer) : RegulationServer :=
  { self with toChildren := self.toChildren ++ [(children, message)] }

/-- Send a message to all connects but one. -/
def broadcast
    (connectHandle : ConnectHandle)
    (message : RegulationMessage)
    (self : RegulationServer) : RegulationServer :=
  if connectHandle = self.parentConnectHandle then
    self.sendToChildren (.allBut (some connectHandle)) message
  else
    (self.sendToChildren (.allBut (some connectHandle)) message).sendToParent
      message

/-! ## Linking -/

/-- Link a federate as time regulating at a connect, and the connect if it is
not linked yet. -/
def linkTimeRegulating
    (connectHandle : ConnectHandle)
    (federateHandle : FederateHandle)
    (self : RegulationServer) : RegulationServer :=
  let connected : RegulationServer :=
    { self with
      timeRegulatingFederationConnectList :=
        if connectHandle ∈ self.timeRegulatingFederationConnectList then
          self.timeRegulatingFederationConnectList
        else self.timeRegulatingFederationConnectList ++ [connectHandle] }
  (connected.modifyConnect connectHandle fun connect =>
    { connect with
      timeRegulatingFederateList :=
        connect.timeRegulatingFederateList ++ [federateHandle] }).modifyFederate
    federateHandle fun federate => { federate with isTimeRegulating := true }

/-- Unlink a federate from the time regulating ones of a connect. -/
def unlinkFederate
    (connectHandle : ConnectHandle)
    (federateHandle : FederateHandle)
    (self : RegulationServer) : RegulationServer :=
  (self.modifyConnect connectHandle fun connect =>
    { connect with
      timeRegulatingFederateList :=
        connect.timeRegulatingFederateList.filter (· ≠ federateHandle)
      }).modifyFederate
    federateHandle fun federate => { federate with isTimeRegulating := false }

def unlinkConnect
    (connectHandle : ConnectHandle)
    (self : RegulationServer) : RegulationServer :=
  { self with
    timeRegulatingFederationConnectList :=
      self.timeRegulatingFederationConnectList.filter (· ≠ connectHandle) }

def unlinkTimeRegulating
    (connectHandle : ConnectHandle)
    (federateHandle : FederateHandle)
    (self : RegulationServer) : RegulationServer :=
  let unlinked := self.unlinkFederate connectHandle federateHandle
  if (unlinked.timeRegulatingFederatesAt connectHandle).isEmpty then
    unlinked.unlinkConnect connectHandle
  else unlinked

/-- A null connect is dereferenced. -/
def insertTimeRegulating (federateHandle : FederateHandle) : Handler := do
  match (← get).connectOf federateHandle with
  | none => throw .undefined
  | some connectHandle =>
      modify (linkTimeRegulating connectHandle federateHandle)

def eraseTimeRegulating (federateHandle : FederateHandle) : Handler := do
  match (← get).connectOf federateHandle with
  | none => throw .undefined
  | some connectHandle =>
      modify (unlinkTimeRegulating connectHandle federateHandle)

/-- Remove a federate from time management and tell the others. -/
def stopTimeRegulating
    (connectHandle : ConnectHandle)
    (federateHandle : FederateHandle) : Handler := do
  if (← get).isTimeRegulating federateHandle then
    eraseTimeRegulating federateHandle
    modify (broadcast connectHandle
      (.disableTimeRegulationRequest federateHandle))

/-! ## Joining and going -/

def getOrInsertConnect
    (connectHandle : ConnectHandle)
    (self : RegulationServer) : RegulationServer :=
  { self with
    connects := Function.update self.connects connectHandle
      (some ((self.connects connectHandle).getD {})) }

/-- Enter a federate and put it behind a connect. -/
def connectFederate
    (connectHandle : ConnectHandle)
    (federateHandle : FederateHandle)
    (self : RegulationServer) : RegulationServer :=
  ({ self with
    federates := Function.update self.federates federateHandle
      (some { federationConnect := some connectHandle }) } :
      RegulationServer).modifyConnect connectHandle fun connect =>
    { connect with
      federateList := connect.federateList ++ [federateHandle] }

/-- Enter a federate.  It is resigning from the start if its connect is no
longer there. -/
def insertFederate
    (connectHandle : Option ConnectHandle)
    (federateHandle : FederateHandle)
    (self : RegulationServer) : RegulationServer :=
  match connectHandle.filter fun handle => (self.connects handle).isSome with
  | some handle => self.connectFederate handle federateHandle
  | none =>
      { self with
        federates := Function.update self.federates federateHandle
          (some { resignPending := true }) }

/-- Remove a federate from what is behind a connect. -/
def unlinkFromConnect
    (connectHandle : ConnectHandle)
    (federateHandle : FederateHandle)
    (self : RegulationServer) : RegulationServer :=
  (self.modifyConnect connectHandle fun connect =>
    { connect with
      federateList :=
        connect.federateList.filter (· ≠ federateHandle) }).modifyFederate
    federateHandle fun federate => { federate with federationConnect := none }

/-- Remove a federate from its connect. -/
def disconnectFederate
    (federateHandle : FederateHandle)
    (self : RegulationServer) : RegulationServer :=
  match self.connectOf federateHandle with
  | none => self
  | some connectHandle => self.unlinkFromConnect connectHandle federateHandle

def forgetFederate
    (federateHandle : FederateHandle)
    (self : RegulationServer) : RegulationServer :=
  { self with
    federates := Function.update self.federates federateHandle none }

def eraseFederate (federateHandle : FederateHandle) : Handler := do
  if (← get).isTimeRegulating federateHandle then
    eraseTimeRegulating federateHandle
  modify (disconnectFederate federateHandle)
  modify (forgetFederate federateHandle)

/-- The connect has no federates any more. -/
def eraseConnect
    (connectHandle : ConnectHandle)
    (self : RegulationServer) : RegulationServer :=
  { self with
    connects := Function.update self.connects connectHandle none
    timeRegulatingFederationConnectList :=
      self.timeRegulatingFederationConnectList.filter (· ≠ connectHandle) }

/-! ## Messages -/

/-- The request passes a node on its way up and is taken note of on its way
back. -/
def acceptEnableTimeRegulationRequest
    (connectHandle : ConnectHandle)
    (federateHandle : FederateHandle)
    (timeStamp : VariableLengthData)
    (commitId : Nat) : Handler := do
  match (← get).federates federateHandle with
  | none =>
      throw (.messageError ["EnableTimeRegulationRequestMessage from unknown " ++
        "Federate!"])
  | some federate =>
      if connectHandle = (← get).parentConnectHandle then
        if federate.isTimeRegulating then
          throw (.messageError ["EnableTimeRegulationRequestMessage for " ++
            "already time regulating federate!"])
        else
          insertTimeRegulating federateHandle
          modify (modifyFederate federateHandle fun federate =>
            { federate with
              timeAdvanceTimeStamp := timeStamp
              nextMessageTimeStamp := timeStamp
              commitId := commitId })
          modify (sendToChildren (.allBut none)
            (.enableTimeRegulationRequest federateHandle timeStamp commitId))
      else
        modify (sendToParent
          (.enableTimeRegulationRequest federateHandle timeStamp commitId))

def acceptDisableTimeRegulationRequest
    (connectHandle : ConnectHandle)
    (federateHandle : FederateHandle) : Handler := do
  match (← get).federates federateHandle with
  | none =>
      throw (.messageError ["DisableTimeRegulationRequestMessage from " ++
        "unknown Federate!"])
  | some federate =>
      if federate.isTimeRegulating then
        modify (broadcast connectHandle
          (.disableTimeRegulationRequest federateHandle))
        eraseTimeRegulating federateHandle
      else
        throw (.messageError ["DisableTimeRegulationRequestMessage for non " ++
          "time regulating Federate!"])

/-- The connect of the oldest request gets the federate, if it is still there.
Otherwise a resign request is made up for the parent connect, from which it is
not accepted. -/
def acceptJoinFederationExecutionResponse
    (federateHandle : FederateHandle) : Handler := do
  match (← get).pendingMessageList with
  | [] =>
      throw (.messageError ["No pending JoinFederationExecutionResponseMessage!"])
  | some connectHandle :: rest =>
      modify (getOrInsertConnect connectHandle)
      modify (insertFederate (some connectHandle) federateHandle)
      modify (sendToChildren (.allBut (some connectHandle))
        (.joinFederateNotify federateHandle))
      modify (sendToChildren (.only connectHandle)
        (.joinFederationExecutionResponse federateHandle))
      modify fun self => { self with pendingMessageList := rest }
  | none :: rest =>
      modify (insertFederate none federateHandle)
      modify (sendToChildren (.allBut none) (.joinFederateNotify federateHandle))
      modify fun self => { self with pendingMessageList := rest }
      throw (.messageError ["Received " ++
        "ResignFederationExecutionLeafRequestMessage " ++
        "through the parent connect!"])

def acceptJoinFederateNotify
    (connectHandle : ConnectHandle)
    (federateHandle : FederateHandle) : Handler := do
  if ((← get).federates federateHandle).isSome then
    throw (.messageError ["Received JoinFederateNotify for already known " ++
      "federate!"])
  else
    modify (insertFederate (some connectHandle) federateHandle)
    modify (sendToChildren (.allBut none) (.joinFederateNotify federateHandle))

/-- A federate that resigns is no longer time regulating.  It goes when the
parent has confirmed that. -/
def acceptResignFederationExecutionRequest
    (connectHandle : ConnectHandle)
    (federateHandle : FederateHandle) : Handler := do
  match (← get).federates federateHandle with
  | none =>
      throw (.messageError ["Received " ++
        "ResignFederationExecutionRequestMessage for invalid federate handle!"])
  | some federate =>
      if federate.resignPending then pure ()
      else
        modify (modifyFederate federateHandle fun federate =>
          { federate with resignPending := true })
        stopTimeRegulating connectHandle federateHandle
        modify (sendToParent (.resignFederationExecutionRequest federateHandle))

def acceptResignFederateNotify (federateHandle : FederateHandle) : Handler := do
  if ((← get).federates federateHandle).isSome then
    modify (sendToChildren (.allBut none) (.resignFederateNotify federateHandle))
    eraseFederate federateHandle
  else
    throw (.messageError ["Received ResignFederateNotify for unknown " ++
      "federate!"])

/-! ## Losing a connect -/

/-- Resign a federate whose connect goes. -/
def resignFederate
    (connectHandle : ConnectHandle)
    (federateHandle : FederateHandle) : Handler := do
  stopTimeRegulating connectHandle federateHandle
  modify (disconnectFederate federateHandle)
  acceptResignFederationExecutionRequest connectHandle federateHandle

def resignFederates
    (connectHandle : ConnectHandle) : List FederateHandle → Handler
  | [] => pure ()
  | federateHandle :: rest => do
      resignFederate connectHandle federateHandle
      resignFederates connectHandle rest

def resignConnect (connectHandle : ConnectHandle) : Handler := do
  resignFederates connectHandle ((← get).federatesAt connectHandle)

/-- Requests of the connect that are still to be answered are for nobody
then. -/
def removeConnect (connectHandle : ConnectHandle) : Handler := do
  if ((← get).connects connectHandle).isSome then
    resignConnect connectHandle
    modify (eraseConnect connectHandle)
  modify fun self =>
    { self with
      pendingMessageList := self.pendingMessageList.map fun pending =>
        if pending = some connectHandle then none else pending }

end RegulationServer

/-! ## The root -/

/-- A federate as the root knows it: whether it has joined through the server
node, and whether it is time regulating. -/
structure RootFederate where
  below : Bool
  isTimeRegulating : Bool := false
  deriving DecidableEq

/-- A server node and the root.  The nodes between them pass messages on in
order and are left out, as is what the root exchanges with other nodes. -/
structure RegulationPath where
  server : RegulationServer := {}
  root : FederateHandle → Option RootFederate := fun _ => none
  fromParent : List RegulationMessage := []

namespace RegulationPath

/-- What the root makes of a message of the server node, or of a message from
elsewhere, and what it sends to the server node.  A handle is given away to
whom joins.  A message that it does not expect is dropped. -/
def acceptAtRoot
    (below : Bool)
    (fresh : FederateHandle)
    (root : FederateHandle → Option RootFederate) :
    RegulationMessage →
      (FederateHandle → Option RootFederate) × List RegulationMessage
  | .joinFederationExecutionRequest =>
      (Function.update root fresh (some { below }),
        [if below then .joinFederationExecutionResponse fresh
          else .joinFederateNotify fresh])
  | .enableTimeRegulationRequest federateHandle timeStamp commitId =>
      match root federateHandle with
      | none => (root, [])
      | some federate =>
          if federate.isTimeRegulating then (root, [])
          else
            (Function.update root federateHandle
                (some { federate with isTimeRegulating := true }),
              [.enableTimeRegulationRequest federateHandle timeStamp commitId])
  | .disableTimeRegulationRequest federateHandle =>
      match root federateHandle with
      | none => (root, [])
      | some federate =>
          if federate.isTimeRegulating then
            (Function.update root federateHandle
                (some { federate with isTimeRegulating := false }),
              if below then [] else [.disableTimeRegulationRequest federateHandle])
          else (root, [])
  | .resignFederationExecutionRequest federateHandle =>
      match root federateHandle with
      | none => (root, [])
      | some federate =>
          (Function.update root federateHandle none,
            (if federate.isTimeRegulating && !below then
              [.disableTimeRegulationRequest federateHandle] else []) ++
              [.resignFederateNotify federateHandle])
  | _ => (root, [])

end RegulationPath

/-- What may happen next: a request of a connect or of a federate, a message of
a federate elsewhere that reaches the root, the loss of a connect, or the
delivery of the oldest message of a channel. -/
inductive RegulationInput
  | joinFederationExecutionRequest (connectHandle : ConnectHandle)
  | enableTimeRegulationRequest
      (federateHandle : FederateHandle)
      (timeStamp : VariableLengthData)
      (commitId : Nat)
  | disableTimeRegulationRequest (federateHandle : FederateHandle)
  | resignFederationExecutionRequest (federateHandle : FederateHandle)
  | resignFederationExecutionLeafRequest (federateHandle : FederateHandle)
  | removeConnect (connectHandle : ConnectHandle)
  | elsewhere (fresh : FederateHandle) (message : RegulationMessage)
  | deliverToParent (fresh : FederateHandle)
  | deliverFromParent
  deriving DecidableEq

namespace RegulationPath

open RegulationServer

/-- Run a handler of the server node. -/
def handle
    (handler : Handler)
    (self : RegulationPath) : Except Failure RegulationPath :=
  match handler self.server with
  | .ok _ server => .ok { self with server }
  | .error (.messageError _) server => .ok { self with server }
  | .error failure _ => .error failure

/-- The child connect of a federate that has not resigned. -/
def senderOf
    (self : RegulationPath)
    (federateHandle : FederateHandle) : Option ConnectHandle :=
  match self.server.federates federateHandle with
  | none => none
  | some federate =>
      if federate.resignPending then none
      else
        federate.federationConnect.filter
          (· ≠ self.server.parentConnectHandle)

/-- A message that comes from the parent. -/
def acceptFromParent : RegulationMessage → Handler
  | .joinFederationExecutionRequest =>
      throw (.messageError ["Received JoinFederationExecutionRequestMessage " ++
        "through the parent connect!"])
  | .joinFederationExecutionResponse federateHandle =>
      acceptJoinFederationExecutionResponse federateHandle
  | .joinFederateNotify federateHandle => do
      acceptJoinFederateNotify (← get).parentConnectHandle federateHandle
  | .resignFederationExecutionRequest _ =>
      throw (.messageError ["Received " ++
        "ResignFederationExecutionRequestMessage through the parent connect!"])
  | .resignFederateNotify federateHandle =>
      acceptResignFederateNotify federateHandle
  | .enableTimeRegulationRequest federateHandle timeStamp commitId => do
      acceptEnableTimeRegulationRequest (← get).parentConnectHandle
        federateHandle timeStamp commitId
  | .disableTimeRegulationRequest federateHandle => do
      acceptDisableTimeRegulationRequest (← get).parentConnectHandle
        federateHandle

/-- Whether a message that reaches the root from elsewhere may do so: a handle
is given away once, and a federate sends where it has joined. -/
def comesFromElsewhere
    (fresh : FederateHandle)
    (root : FederateHandle → Option RootFederate) : RegulationMessage → Bool
  | .joinFederationExecutionRequest => (root fresh).isNone
  | .enableTimeRegulationRequest federateHandle _ _ =>
      (root federateHandle).any fun federate => !federate.below
  | .disableTimeRegulationRequest federateHandle =>
      (root federateHandle).any fun federate => !federate.below
  | .resignFederationExecutionRequest federateHandle =>
      (root federateHandle).any fun federate => !federate.below
  | _ => false

/-- One step, where it is possible.  Only an undefined step fails: a message
error is reported and the node goes on. -/
def step
    (self : RegulationPath) :
    RegulationInput → Option (Except Failure RegulationPath)
  | .joinFederationExecutionRequest connectHandle =>
      if connectHandle = self.server.parentConnectHandle then none
      else
        some (.ok
          { self with
            server :=
              ({ self.server with
                pendingMessageList :=
                  self.server.pendingMessageList ++ [some connectHandle] } :
                RegulationServer).sendToParent
                  .joinFederationExecutionRequest })
  | .enableTimeRegulationRequest federateHandle timeStamp commitId =>
      (self.senderOf federateHandle).map fun connectHandle =>
        self.handle (acceptEnableTimeRegulationRequest connectHandle
          federateHandle timeStamp commitId)
  | .disableTimeRegulationRequest federateHandle =>
      (self.senderOf federateHandle).map fun connectHandle =>
        self.handle (acceptDisableTimeRegulationRequest connectHandle
          federateHandle)
  | .resignFederationExecutionRequest federateHandle =>
      (self.senderOf federateHandle).map fun connectHandle =>
        self.handle (acceptResignFederationExecutionRequest connectHandle
          federateHandle)
  | .resignFederationExecutionLeafRequest federateHandle =>
      ((self.senderOf federateHandle).filter fun connectHandle =>
        self.server.federatesAt connectHandle = [federateHandle]).map
          fun connectHandle => self.handle (resignConnect connectHandle)
  | .removeConnect connectHandle =>
      if connectHandle = self.server.parentConnectHandle then none
      else some (self.handle (removeConnect connectHandle))
  | .elsewhere fresh message =>
      if comesFromElsewhere fresh self.root message then
        some (.ok
          { self with
            root := (acceptAtRoot false fresh self.root message).1
            fromParent := self.fromParent ++
              (acceptAtRoot false fresh self.root message).2 })
      else none
  | .deliverToParent fresh =>
      match self.server.toParent with
      | [] => none
      | message :: rest =>
          if (self.root fresh).isSome then none
          else
            some (.ok
              { server := { self.server with toParent := rest }
                root := (acceptAtRoot true fresh self.root message).1
                fromParent := self.fromParent ++
                  (acceptAtRoot true fresh self.root message).2 })
  | .deliverFromParent =>
      match self.fromParent with
      | [] => none
      | message :: rest =>
          some ({ self with fromParent := rest }.handle
            (acceptFromParent message))

/-- The node and the root, until the behaviour is undefined. -/
def system : TransitionSystem RegulationPath RegulationInput where
  initial := {}
  next self input :=
    match self.step input with
    | some (.ok after) => some after
    | _ => none

/-- A request of a federate to become time regulating. -/
def isEnableOf (federateHandle : FederateHandle) : RegulationMessage → Bool
  | .enableTimeRegulationRequest other _ _ => other = federateHandle
  | _ => false

/-- Whether the request of a federate is on its way to the root and back. -/
def isEnabling
    (self : RegulationPath)
    (federateHandle : FederateHandle) : Bool :=
  (self.server.toParent ++ self.fromParent).any (isEnableOf federateHandle)

/-- A federate loses its connect only if its request is not on its way. -/
def losesNone (self : RegulationPath) : RegulationInput → Bool
  | .resignFederationExecutionLeafRequest federateHandle =>
      !self.isEnabling federateHandle
  | .removeConnect connectHandle =>
      (self.server.federatesAt connectHandle).all fun federateHandle =>
        !self.isEnabling federateHandle
  | _ => true

end RegulationPath
end ServerNode
end OpenRTI
