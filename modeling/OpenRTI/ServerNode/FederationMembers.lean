import OpenRTI.Foundation.OrderedMap
import OpenRTI.Foundation.TransitionSystem
import Mathlib.Logic.Function.Basic

/-!
# The federates in the server nodes

The root server knows which federates have joined a federation execution.  It tells the
server nodes below it that take part, and each one of these its children.  A server node
that starts to take part gets all of what there is so far.  When the last federate behind a
connect has resigned, everything is withdrawn from that server node.

This is one federation execution in a tree of server nodes.  Which child a join response is
for is known from the pending requests, here it is an input.
-/

namespace OpenRTI
namespace ServerNode

open Foundation (OrderedMap)

/-- What is told about a federate.  A name is the list of its characters. -/
structure FederateInformation where
  federateName : List Char
  federateType : String
  deriving DecidableEq

/-- A federate, and the child connect that it is reached through, none for the parent
connect. -/
structure MemberFederate extends FederateInformation where
  connect : Option Nat
  deriving DecidableEq

/-- Messages of a server node to a child.  A join response here is a successful one. -/
inductive MembershipMessage
  | insertFederationExecution
  | joinFederateNotify (federateHandle : Nat) (federate : FederateInformation)
  | joinFederationExecutionResponse
      (federateHandle : Nat)
      (federate : FederateInformation)
  | resignFederateNotify (federateHandle : Nat)
  | eraseFederationExecution
  deriving DecidableEq

def MembershipMessage.isJoinResponse : MembershipMessage → Bool
  | joinFederationExecutionResponse _ _ => true
  | _ => false

/-- The federation execution in a server node. -/
structure MemberServer where
  /-- It is found by its name. -/
  named : Bool
  federates : OrderedMap Nat MemberFederate
  /-- The connects of the children that take part, and if they are active. -/
  connects : OrderedMap Nat Bool
  deriving DecidableEq

/-- The federation execution, and what is on the way to the server nodes below. -/
structure MemberState where
  server : MemberServer
  queue : Nat → List MembershipMessage

namespace MemberState

def getActive (number : Nat) (self : MemberState) : Bool :=
  self.server.connects.find? number = some true

def getHasFederates (number : Nat) (self : MemberState) : Bool :=
  self.server.federates.entries.any fun entry => entry.2.connect = some number

def hasJoinedChildren (self : MemberState) : Bool :=
  self.server.federates.entries.any fun entry => entry.2.connect.isSome

def isFederateNameInUse (name : List Char) (self : MemberState) : Bool :=
  self.server.federates.entries.any fun entry => entry.2.federateName = name

/-- Only what is sent to an active connect gets on the way. -/
def send
    (number : Nat)
    (messages : List MembershipMessage)
    (self : MemberState) : MemberState :=
  if self.getActive number then
    { self with
      queue := Function.update self.queue number (self.queue number ++ messages) }
  else self

/-- Forward a response, whether the connect is active or not. -/
def forward
    (number : Nat)
    (message : MembershipMessage)
    (self : MemberState) : MemberState :=
  { self with
    queue := Function.update self.queue number (self.queue number ++ [message]) }

/-- Send to all children but one. -/
def broadcastToChildren
    (except : Option Nat)
    (message : MembershipMessage)
    (self : MemberState) : MemberState :=
  { self with
    queue := fun number =>
      if self.getActive number ∧ some number ≠ except then
        self.queue number ++ [message]
      else self.queue number }

def getOrInsertConnect (number : Nat) (self : MemberState) : MemberState :=
  if (self.server.connects.find? number).isSome then self
  else
    { self with
      server.connects := self.server.connects.set number false }

def setActive (number : Nat) (active : Bool) (self : MemberState) : MemberState :=
  { self with
    server.connects := self.server.connects.set number active }

/-- Tell a child about the federates that are not behind it. -/
def pushFederation (number : Nat) (self : MemberState) : MemberState :=
  if self.getActive number then self
  else
    (self.setActive number true).send number
      (.insertFederationExecution ::
        (self.server.federates.entries.filter fun entry =>
          entry.2.connect ≠ some number).map fun entry =>
            .joinFederateNotify entry.1 entry.2.toFederateInformation)

/-- The federate and its name must not be known. -/
def insertFederate
    (federateHandle : Nat)
    (federate : MemberFederate)
    (self : MemberState) : Option MemberState :=
  if (self.server.federates.find? federateHandle).isSome ∨
      self.isFederateNameInUse federate.federateName then
    none
  else
    some { self with
      server.federates := self.server.federates.set federateHandle federate }

def eraseFederate (federateHandle : Nat) (self : MemberState) : MemberState :=
  { self with
    server.federates := self.server.federates.erase federateHandle }

/-- Withdraw everything from a child that no federate is behind. -/
def eraseFederationExecutionAtConnect
    (number : Nat)
    (self : MemberState) : Option MemberState :=
  match self.server.connects.find? number with
  | none => some self
  | some _ =>
      if self.getHasFederates number then none
      else
        some ((self.send number
          ((self.server.federates.entries.map fun entry =>
            .resignFederateNotify entry.1) ++
              [.eraseFederationExecution])).setActive number false)

def broadcastEraseFederationExecution (self : MemberState) : Option MemberState :=
  self.server.connects.entries.foldlM
    (fun self entry => self.eraseFederationExecutionAtConnect entry.1) self

/-! ## Messages of the parent -/

def acceptJoinFederateNotify
    (federateHandle : Nat)
    (federate : FederateInformation)
    (self : MemberState) : Option MemberState :=
  (self.insertFederate federateHandle ⟨federate, none⟩).map
    (broadcastToChildren none (.joinFederateNotify federateHandle federate))

def acceptJoinFederationExecutionResponse
    (requestConnect : Nat)
    (federateHandle : Nat)
    (federate : FederateInformation)
    (self : MemberState) : Option MemberState :=
  let pushed :=
    (self.getOrInsertConnect requestConnect).pushFederation requestConnect
  (pushed.insertFederate federateHandle ⟨federate, some requestConnect⟩).map
    fun self =>
      (self.broadcastToChildren (some requestConnect)
        (.joinFederateNotify federateHandle federate)).forward requestConnect
          (.joinFederationExecutionResponse federateHandle federate)

def acceptResignFederateNotify
    (federateHandle : Nat)
    (self : MemberState) : Option MemberState :=
  match self.server.federates.find? federateHandle with
  | none => none
  | some federate =>
      let self := (self.broadcastToChildren none
        (.resignFederateNotify federateHandle)).eraseFederate federateHandle
      match federate.connect with
      | none => some self
      | some number =>
          if self.getActive number ∧ ¬ self.getHasFederates number then
            self.eraseFederationExecutionAtConnect number
          else some self

/-- The name is withdrawn, or all if no child takes part. -/
def eraseFederationExecution
    (self : MemberState) :
    Option (Option MemberServer × (Nat → List MembershipMessage)) :=
  if self.server.connects.isEmpty then
    if self.hasJoinedChildren then none else some (none, self.queue)
  else
    self.broadcastEraseFederationExecution.bind fun self =>
      if self.hasJoinedChildren then none
      else some (some { self.server with named := false }, self.queue)

/-! ## Requests of a child -/

def acceptShutdownFederationExecution
    (number : Nat)
    (self : MemberState) : Option MemberState :=
  match self.server.connects.find? number with
  | none => some self
  | some active =>
      if self.getHasFederates number then some self
      else if ¬ active then some self
      else self.eraseFederationExecutionAtConnect number

/-- A child does not take part any more. -/
def acceptReleaseFederationHandle
    (number : Nat)
    (self : MemberState) :
    Option (Option MemberServer × (Nat → List MembershipMessage)) :=
  match self.server.connects.find? number with
  | none => some (some self.server, self.queue)
  | some active =>
      if active then some (some self.server, self.queue)
      else if self.getHasFederates number then none
      else
        let server :=
          { self.server with connects := self.server.connects.erase number }
        if server.connects.isEmpty ∧ ¬ server.named then
          if self.hasJoinedChildren then none else some (none, self.queue)
        else some (some server, self.queue)

/-! ## The root server -/

/-- A federate joins in the root server. -/
def acceptJoinFederationExecutionRequest
    (number federateHandle : Nat)
    (federate : FederateInformation)
    (self : MemberState) : Option MemberState :=
  (self.insertFederate federateHandle ⟨federate, some number⟩).map fun self =>
    (((self.getOrInsertConnect number).pushFederation number).send number
      [.joinFederationExecutionResponse federateHandle federate]).broadcastToChildren
        (some number) (.joinFederateNotify federateHandle federate)

/-- A federate resigns in the root server. -/
def acceptResignFederationExecutionRequest
    (number federateHandle : Nat)
    (self : MemberState) : Option MemberState :=
  let self := (self.broadcastToChildren none
    (.resignFederateNotify federateHandle)).eraseFederate federateHandle
  if (self.server.connects.find? number).isSome ∧ ¬ self.getHasFederates number then
    self.eraseFederationExecutionAtConnect number
  else some self

end MemberState

/-! ## The tree of server nodes -/

/-- The server node that is above another one.  The root server is 0. -/
structure ServerTopology where
  parent : Nat → Nat
  parent_lt : ∀ number, 0 < number → parent number < number

/-- The federation execution in all server nodes. -/
structure MemberTree where
  server : Nat → Option MemberServer
  /-- What is on the way to each one from the server node above it. -/
  queue : Nat → List MembershipMessage
  /-- A message has been refused with an exception, or an assertion has failed. -/
  failed : Bool

inductive MemberInput
  | createFederationExecution
  | destroyFederationExecution
  | join
      (number federateHandle : Nat)
      (federateName : List Char)
      (federateType : String)
  | resign (number federateHandle : Nat)
  /-- A message comes in; a join response is for the given child. -/
  | receive (number requestConnect : Nat)
  | shutdownFederationExecution (number : Nat)
  | releaseFederationHandle (number : Nat)

namespace MemberTree

def initial : MemberTree where
  server := fun _ => none
  queue := fun _ => []
  failed := false

/-- What a server node does with its federation execution. -/
def replace
    (number : Nat)
    (result : Option (Option MemberServer × (Nat → List MembershipMessage)))
    (self : MemberTree) : MemberTree :=
  match result with
  | none => { self with failed := true }
  | some (server, queue) =>
      { self with server := Function.update self.server number server, queue }

/-- What a server node does with its federation execution, which it keeps. -/
def change
    (number : Nat)
    (result : Option MemberState)
    (self : MemberTree) : MemberTree :=
  self.replace number (result.map fun state => (some state.server, state.queue))

/-- A message of the parent comes in. -/
def accept
    (number requestConnect : Nat)
    (message : MembershipMessage)
    (self : MemberTree) : MemberTree :=
  match message, self.server number with
  | .insertFederationExecution, none =>
      self.replace number (some (some ⟨true, ∅, ∅⟩, self.queue))
  | .insertFederationExecution, some server =>
      if server.named then { self with failed := true }
      else self.replace number (some (some { server with named := true }, self.queue))
  | .joinFederateNotify federateHandle federate, some server =>
      self.change number (MemberState.acceptJoinFederateNotify federateHandle
        federate ⟨server, self.queue⟩)
  | .joinFederationExecutionResponse federateHandle federate, some server =>
      self.change number (MemberState.acceptJoinFederationExecutionResponse
        requestConnect federateHandle federate ⟨server, self.queue⟩)
  | .resignFederateNotify federateHandle, some server =>
      self.change number (MemberState.acceptResignFederateNotify federateHandle
        ⟨server, self.queue⟩)
  | .eraseFederationExecution, some server =>
      self.replace number (MemberState.eraseFederationExecution
        ⟨server, self.queue⟩)
  | _, none => { self with failed := true }

def reservedName (federateHandle : Nat) : List Char :=
  "HLAfederate".toList ++ Nat.toDigits 10 federateHandle

/-- The name that a federate gets. -/
def federateName (requested : List Char) (federateHandle : Nat) : List Char :=
  if requested = [] then reservedName federateHandle else requested

def next
    (topology : ServerTopology)
    (self : MemberTree) :
    MemberInput → Option MemberTree
  | .createFederationExecution =>
      if (self.server 0).isNone then
        some { self with
          server := Function.update self.server 0 (some ⟨true, ∅, ∅⟩) }
      else none
  | .destroyFederationExecution =>
      match self.server 0 with
      | some server =>
          if server.named ∧ server.federates.isEmpty then
            some (self.replace 0 (MemberState.eraseFederationExecution
              ⟨server, self.queue⟩))
          else none
      | none => none
  | .join number federateHandle requested federateType =>
      match self.server 0 with
      | some server =>
          -- A request with such a name is refused with an exception.
          if 0 < number ∧ topology.parent number = 0 ∧ server.named ∧
              requested.take 3 ≠ "HLA".toList ∧
              (server.federates.find? federateHandle).isNone ∧
              ¬ (requested ≠ [] ∧ MemberState.isFederateNameInUse requested
                ⟨server, self.queue⟩) then
            some (self.change 0 (MemberState.acceptJoinFederationExecutionRequest
              number federateHandle
              ⟨federateName requested federateHandle, federateType⟩
              ⟨server, self.queue⟩))
          else none
      | none => none
  | .resign number federateHandle =>
      match self.server 0 with
      | some server =>
          if 0 < number ∧ topology.parent number = 0 ∧
              (server.federates.find? federateHandle).isSome then
            some (self.change 0 (MemberState.acceptResignFederationExecutionRequest
              number federateHandle ⟨server, self.queue⟩))
          else none
      | none => none
  | .receive number requestConnect =>
      match self.queue number with
      | message :: queue =>
          if 0 < number ∧ (message.isJoinResponse →
              0 < requestConnect ∧ topology.parent requestConnect = number) then
            some ({ self with
              queue := Function.update self.queue number queue
              }.accept number requestConnect message)
          else none
      | [] => none
  | .shutdownFederationExecution number =>
      match self.server (topology.parent number) with
      | some server =>
          if 0 < number then
            some (self.change (topology.parent number)
              (MemberState.acceptShutdownFederationExecution number
                ⟨server, self.queue⟩))
          else none
      | none => none
  | .releaseFederationHandle number =>
      match self.server (topology.parent number) with
      | some server =>
          if 0 < number then
            some (self.replace (topology.parent number)
              (MemberState.acceptReleaseFederationHandle number
                ⟨server, self.queue⟩))
          else none
      | none => none

/-- One federation execution in a tree of server nodes, that does not exist initially. -/
def system (topology : ServerTopology) :
    Foundation.TransitionSystem MemberTree MemberInput where
  initial := initial
  next := next topology

end MemberTree

end ServerNode
end OpenRTI
