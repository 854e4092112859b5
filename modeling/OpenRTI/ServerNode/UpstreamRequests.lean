import OpenRTI.Foundation.TransitionSystem
import Mathlib.Logic.Function.Basic

/-!
# Requests to the root server

Requests to create, destroy, enumerate and join federation executions are answered by the
root server.  Each server node on the way remembers the requests that it has sent to its
parent, and where they came from.  A response does not tell what it responds to: it goes to
where the first one of these requests came from.  A server node that loses its parent is
the root from then on and answers the requests itself.

This is a tree of server nodes with clients, where connections can come and break at any
time, and where other messages change what a server node knows at any time.  A response is
paired with the request that it has been made for.
-/

namespace OpenRTI
namespace ServerNode

/-- A connection of a server node or client to a server node above it. -/
structure UpstreamConnect (ρ τ : Type) where
  server : Nat
  /-- What is sent comes in. -/
  alive : Bool
  /-- The server node has the connect. -/
  inServer : Bool
  /-- The connect is the parent connect. -/
  isParent : Bool
  upstream : List ρ
  downstream : List (ρ × τ)

/-- The server nodes and clients, by numbers in the order in which they have been
started. -/
structure ServerTree (σ ρ τ : Type) where
  connect : Nat → Option (UpstreamConnect ρ τ)
  node : Nat → σ
  /-- The requests that need a response from the root server, and the connects they came
  from, none if that connect is lost. -/
  pendingMessageList : Nat → List (Option Nat × ρ)
  asked : Nat → List ρ
  answered : Nat → List (ρ × τ)
  /-- A message has ended with an exception.  What is done after that is not modelled. -/
  messageError : Bool

/-- What a root server does with a request: it sends any number of responses, and may end
with an exception. -/
structure RootReply (σ τ : Type) where
  responses : List τ
  node : σ
  thrown : Bool

/-- The one response that the other server nodes rely on. -/
def RootReply.isSingle {σ τ : Type} (self : RootReply σ τ) : Bool :=
  self.responses.length == 1 && !self.thrown

/-- What a server node does with a response besides passing it on.  It may refuse it with
an exception, or end with one when it has passed it on. -/
inductive ResponseEffect (σ : Type)
  | refused
  | passedOn (node : σ)
  | failed (node : σ)

def ResponseEffect.isPassedOn {σ : Type} : ResponseEffect σ → Bool
  | passedOn _ => true
  | _ => false

/-- Which ones are server nodes, what a root server does with a request, and what the others
do with a response, where the connect that asked is still there or not. -/
structure ServerNodes (σ ρ τ : Type) where
  isServer : Nat → Bool
  acceptAsRoot : ρ → σ → RootReply σ τ
  acceptResponse : Bool → τ → σ → ResponseEffect σ

namespace ServerTree

variable {σ ρ τ : Type}

def initial (node : Nat → σ) : ServerTree σ ρ τ where
  connect := fun _ => none
  node := node
  pendingMessageList := fun _ => []
  asked := fun _ => []
  answered := fun _ => []
  messageError := false

def isRootServer (self : ServerTree σ ρ τ) (number : Nat) : Bool :=
  (self.connect number).all fun connect => !connect.isParent

/-- Change a connect. -/
def changeConnect
    (number : Nat)
    (change : UpstreamConnect ρ τ → UpstreamConnect ρ τ)
    (self : ServerTree σ ρ τ) : ServerTree σ ρ τ :=
  { self with
    connect := Function.update self.connect number
      ((self.connect number).map change) }

/-- Send a response to a child. -/
def send
    (number : Nat)
    (response : ρ × τ)
    (self : ServerTree σ ρ τ) : ServerTree σ ρ τ :=
  self.changeConnect number fun connect =>
    if connect.alive then
      { connect with downstream := connect.downstream ++ [response] }
    else connect

/-- Send a request to the parent. -/
def sendToParent
    (number : Nat)
    (request : ρ)
    (self : ServerTree σ ρ τ) : ServerTree σ ρ τ :=
  self.changeConnect number fun connect =>
    if connect.alive then
      { connect with upstream := connect.upstream ++ [request] }
    else connect

/-- The root server responds at once. -/
def acceptAsRoot
    (nodes : ServerNodes σ ρ τ)
    (server number : Nat)
    (request : ρ)
    (self : ServerTree σ ρ τ) : ServerTree σ ρ τ :=
  let reply := nodes.acceptAsRoot request (self.node server)
  reply.responses.foldl (fun self response => self.send number (request, response))
    { self with
      node := Function.update self.node server reply.node
      messageError := self.messageError || reply.thrown }

def setPendingMessageList
    (server : Nat)
    (pendingMessageList : List (Option Nat × ρ))
    (self : ServerTree σ ρ τ) : ServerTree σ ρ τ :=
  { self with
    pendingMessageList :=
      Function.update self.pendingMessageList server pendingMessageList }

/-- Remember a request and ask the parent, or process it in the root server. -/
def forwardUpstreamMessage
    (nodes : ServerNodes σ ρ τ)
    (server number : Nat)
    (request : ρ)
    (self : ServerTree σ ρ τ) : ServerTree σ ρ τ :=
  if self.isRootServer server then self.acceptAsRoot nodes server number request
  else
    (self.setPendingMessageList server
      (self.pendingMessageList server ++ [(some number, request)])).sendToParent
        server request

/-- Send a response to where its request came from. -/
def answerTo
    (origin : Option Nat)
    (response : ρ × τ)
    (self : ServerTree σ ρ τ) : ServerTree σ ρ τ :=
  match origin with
  | some number => self.send number response
  | none => self

/-- Respond to the first one of the pending requests. -/
def forwardDownstreamMessage
    (nodes : ServerNodes σ ρ τ)
    (server : Nat)
    (response : ρ × τ)
    (self : ServerTree σ ρ τ) : ServerTree σ ρ τ :=
  match self.pendingMessageList server with
  | [] => { self with messageError := true }
  | (origin, _) :: rest =>
      match nodes.acceptResponse origin.isSome response.2 (self.node server) with
      | .refused => { self with messageError := true }
      | .passedOn node =>
          ({ self with node := Function.update self.node server node }.answerTo
            origin response).setPendingMessageList server rest
      | .failed node =>
          { ({ self with node := Function.update self.node server node }.answerTo
              origin response).setPendingMessageList server rest with
            messageError := true }

/-- The server node loses a child: it does not respond to it any more, but keeps track of
the responses. -/
def removeChildConnect
    (number : Nat)
    (connect : UpstreamConnect ρ τ)
    (self : ServerTree σ ρ τ) : ServerTree σ ρ τ :=
  (self.changeConnect number fun connect =>
    { connect with inServer := false, upstream := [] }).setPendingMessageList
      connect.server
      ((self.pendingMessageList connect.server).map fun entry =>
        if entry.1 = some number then (none, entry.2) else entry)

/-- Process the pending requests again. -/
def replay
    (nodes : ServerNodes σ ρ τ)
    (server : Nat)
    (entries : List (Option Nat × ρ))
    (self : ServerTree σ ρ τ) : ServerTree σ ρ τ :=
  entries.foldl
    (fun self entry =>
      match entry.1 with
      | some number => self.forwardUpstreamMessage nodes server number entry.2
      | none => self) self

/-- The server node loses its parent: it is the parent now. -/
def removeParentConnect
    (nodes : ServerNodes σ ρ τ)
    (server : Nat)
    (self : ServerTree σ ρ τ) : ServerTree σ ρ τ :=
  ((self.changeConnect server fun connect =>
    { connect with isParent := false, downstream := [] }).replay nodes server
      (self.pendingMessageList server)).setPendingMessageList server []

end ServerTree

/-- What happens in a tree of server nodes. -/
inductive ServerTreeInput (σ ρ : Type)
  | insertConnect (number server : Nat)
  | ask (number : Nat) (request : ρ)
  | receiveRequest (number : Nat)
  | receiveResponse (number : Nat)
  /-- A connection breaks; some of what is on the way still comes in. -/
  | break (number upstream downstream : Nat)
  | removeChildConnect (number : Nat)
  | removeParentConnect (number : Nat)
  /-- Another message changes what a server node knows. -/
  | changeNode (number : Nat) (node : σ)

namespace ServerTree

variable {σ ρ τ : Type}

/-- One step.  A server node or client connects once, to a server node that has been
started before. -/
def next
    (nodes : ServerNodes σ ρ τ)
    (self : ServerTree σ ρ τ) :
    ServerTreeInput σ ρ → Option (ServerTree σ ρ τ)
  | .insertConnect number server =>
      if (self.connect number).isNone ∧ server < number ∧ nodes.isServer server then
        some { self with
          connect := Function.update self.connect number
            (some ⟨server, true, true, true, [], []⟩) }
      else none
  | .ask number request =>
      if ¬ nodes.isServer number ∧ ¬ self.isRootServer number then
        some ({ self with
          asked := Function.update self.asked number
            (self.asked number ++ [request]) }.sendToParent number request)
      else none
  | .receiveRequest number =>
      match self.connect number with
      | some ⟨server, alive, true, isParent, request :: upstream, downstream⟩ =>
          some ({ self with
            connect := Function.update self.connect number
              (some ⟨server, alive, true, isParent, upstream, downstream⟩)
            }.forwardUpstreamMessage nodes server number request)
      | _ => none
  | .receiveResponse number =>
      match self.connect number with
      | some ⟨server, alive, inServer, true, upstream, response :: downstream⟩ =>
          let self := { self with
            connect := Function.update self.connect number
              (some ⟨server, alive, inServer, true, upstream, downstream⟩) }
          some
            (if nodes.isServer number then
              self.forwardDownstreamMessage nodes number response
            else
              { self with
                answered := Function.update self.answered number
                  (self.answered number ++ [response]) })
      | _ => none
  | .break number upstream downstream =>
      some (self.changeConnect number fun connect =>
        { connect with
          alive := false
          upstream := connect.upstream.take upstream
          downstream := connect.downstream.take downstream })
  | .removeChildConnect number =>
      match self.connect number with
      | some connect =>
          if ¬ connect.alive ∧ connect.inServer then
            some (self.removeChildConnect number connect)
          else none
      | none => none
  | .removeParentConnect number =>
      match self.connect number with
      | some connect =>
          if ¬ connect.alive ∧ connect.isParent then
            some (self.removeParentConnect nodes number)
          else none
      | none => none
  | .changeNode number node =>
      some { self with node := Function.update self.node number node }

/-- A new root server sends one response to each one of the pending requests. -/
def repliesOnce (nodes : ServerNodes σ ρ τ) : List (Option Nat × ρ) → σ → Bool
  | [], _ => true
  | (none, _) :: rest, node => repliesOnce nodes rest node
  | (some _, request) :: rest, node =>
      let reply := nodes.acceptAsRoot request node
      reply.isSingle && repliesOnce nodes rest reply.node

/-- A response is taken by a server node that remembers such a request. -/
def takesResponse
    (nodes : ServerNodes σ ρ τ)
    (entries : List (Option Nat × ρ))
    (response : τ)
    (node : σ) : Bool :=
  match entries with
  | [] => true
  | (origin, _) :: _ =>
      (nodes.acceptResponse origin.isSome response node).isPassedOn

/-- Each request that a root server processes in a step gets one response, and a response
that comes in to a server node is taken. -/
def answersOnce
    (nodes : ServerNodes σ ρ τ)
    (self : ServerTree σ ρ τ) :
    ServerTreeInput σ ρ → Bool
  | .receiveRequest number =>
      match self.connect number with
      | some ⟨server, _, _, _, request :: _, _⟩ =>
          !self.isRootServer server ||
            (nodes.acceptAsRoot request (self.node server)).isSingle
      | _ => true
  | .receiveResponse number =>
      match self.connect number with
      | some ⟨_, _, _, _, _, response :: _⟩ =>
          !nodes.isServer number ||
            takesResponse nodes (self.pendingMessageList number) response.2
              (self.node number)
      | _ => true
  | .removeParentConnect number =>
      repliesOnce nodes (self.pendingMessageList number) (self.node number)
  | _ => true

/-- The tree of server nodes, which are all alone initially. -/
def system
    (nodes : ServerNodes σ ρ τ)
    (node : Nat → σ) :
    Foundation.TransitionSystem (ServerTree σ ρ τ) (ServerTreeInput σ ρ) where
  initial := initial node
  next := next nodes

end ServerTree

end ServerNode
end OpenRTI
