import OpenRTI.Connecting.InitialProtocols
import OpenRTI.DataStream.OptionMapRoundTrip
import OpenRTI.Foundation.TransitionSystem

/-!
# Servers that connect to each other

Any server may connect to any other one, while it is connected to itself, renamed or
stopped.  The options travel as octets: an end reads them buffer by buffer, and leaves
what has not come in yet to a later step.
-/

namespace OpenRTI
namespace Connecting

open Foundation (Octet OrderedMap)
open DataStream (OctetString StringList StringStringListMap PacketFailure
  PacketResult readPacket)

/-! ## One end -/

/-- The buffers that are full, and the size of the one that is to be filled. -/
structure Incoming where
  buffers : List (List Octet)
  awaited : Nat
  deriving DecidableEq

namespace Incoming

/-- Space for the initial header. -/
def initial : Incoming where
  buffers := []
  awaited := 12

/-- Fill the buffer with the first octets that are in flight, and read the packet. -/
def read (self : Incoming) (inFlight : List Octet) :
    Option (Except PacketFailure (Incoming ⊕ StringStringListMap) × List Octet) :=
  if self.awaited ≤ inFlight.length then
    let buffers := self.buffers ++ [inFlight.take self.awaited]
    let result :=
      match readPacket buffers with
      | .error failure => .error failure
      | .ok (.addScratchReadBuffer size) => .ok (.inl ⟨buffers, size⟩)
      | .ok (.readOptionMap optionMap) => .ok (.inr optionMap)
    some (result, inFlight.drop self.awaited)
  else none

end Incoming

/-- The octets of the header and of the body. -/
def octetsOf (optionMap : StringStringListMap) : List Octet :=
  (DataStream.writeOptionMap optionMap).1 ++ (DataStream.writeOptionMap optionMap).2

inductive ServerPhase
  | reading (incoming : Incoming)
  | answered (answer : InitialServerStreamProtocol.Answer)

inductive ClientPhase
  | reading (incoming : Incoming)
  | connected (followup : Followup)
  | failed (failure : Failure)

/-! ## Connections -/

/-- Both ends of a connection, and what is in flight to each of them. -/
structure Connection (ι : Type) where
  client : ι
  server : ι
  compress : Bool
  toServer : List Octet
  toClient : List Octet
  serverPhase : ServerPhase
  clientPhase : ClientPhase

/-- The server configured options of a client. -/
def configuredOptions (compress : Bool) : StringStringListMap :=
  (∅ : StringStringListMap).set (text "compression")
    (if compress then [text "zlib", text "lzma"] else [text "no"])

namespace Connection

variable {ι : Type}

/-- What a client writes first. -/
def request (builds : ι → Build) (self : Connection ι) : StringStringListMap :=
  InitialClientStreamProtocol.setConnectOptions (builds self.client)
    (configuredOptions self.compress)

/-- The socket is connected, and the client has written its options. -/
def connectParentStreamServer
    (builds : ι → Build)
    (client server : ι)
    (compress : Bool) : Connection ι where
  client := client
  server := server
  compress := compress
  toServer := octetsOf (InitialClientStreamProtocol.setConnectOptions
    (builds client) (configuredOptions compress))
  toClient := []
  serverPhase := .reading .initial
  clientPhase := .reading .initial

/-- The server reads a buffer, and answers once the options are complete. -/
def serverReads
    (build : Build)
    (server : Server)
    (self : Connection ι) : Option (Connection ι × Server) :=
  match self.serverPhase with
  | .answered _ => none
  | .reading incoming =>
      (incoming.read self.toServer).map fun (result, toServer) =>
        let self := { self with toServer }
        match result with
        | .error failure =>
            ({ self with serverPhase := .answered (.failed (.packet failure)) },
              server)
        | .ok (.inl incoming) =>
            ({ self with serverPhase := .reading incoming }, server)
        | .ok (.inr optionMap) =>
            let (answer, server) :=
              InitialServerStreamProtocol.readOptionMap build optionMap server
            ({ self with
                serverPhase := .answered answer
                toClient := self.toClient ++
                  (answer.written.map octetsOf).getD [] }, server)

/-- The client reads a buffer, and is done once the options are complete, whether it
is connected or not. -/
def clientReads
    (build : Build)
    (server : Server)
    (self : Connection ι) : Option (Connection ι × Server) :=
  match self.clientPhase with
  | .connected _ | .failed _ => none
  | .reading incoming =>
      (incoming.read self.toClient).map fun (result, toClient) =>
        let self := { self with toClient }
        match result with
        | .error failure =>
            ({ self with clientPhase := .failed (.packet failure) },
              { server with done := true })
        | .ok (.inl incoming) =>
            ({ self with clientPhase := .reading incoming }, server)
        | .ok (.inr optionMap) =>
            match InitialClientStreamProtocol.readOptionMap build optionMap
                server with
            | (.error failure, server) =>
                ({ self with clientPhase := .failed failure },
                  { server with done := true })
            | (.ok followup, server) =>
                ({ self with clientPhase := .connected followup },
                  { server with done := true })

end Connection

/-! ## All servers -/

structure Network (ι : Type) where
  servers : ι → Server
  connections : List (Connection ι)

inductive NetworkInput (ι : Type)
  | setServerName (server : ι) (serverName : OctetString)
  | setPreferCompression (server : ι) (preferCompression : Bool)
  | setDone (server : ι) (done : Bool)
  | connectParentStreamServer (client server : ι) (compress : Bool)
  | serverReads (position : Nat)
  | clientReads (position : Nat)

namespace Network

variable {ι : Type} [DecidableEq ι]

def initial : Network ι where
  servers _ := .new
  connections := []

def changeOptions
    (server : ι)
    (change : ServerOptions → ServerOptions)
    (self : Network ι) : Network ι :=
  let changed := self.servers server
  { self with
    servers := Function.update self.servers server
      { changed with serverOptions := change changed.serverOptions } }

/-- The connection at a position takes a step, with the server at one of its ends. -/
def atPosition
    (position : Nat)
    (endOf : Connection ι → ι)
    (reads : Connection ι → Server → Option (Connection ι × Server))
    (self : Network ι) : Option (Network ι) :=
  self.connections[position]?.bind fun connection =>
    (reads connection (self.servers (endOf connection))).map
      fun (changed, server) =>
        { servers := Function.update self.servers (endOf connection) server
          connections := self.connections.set position changed }

def next
    (builds : ι → Build)
    (self : Network ι) : NetworkInput ι → Option (Network ι)
  | .setServerName server serverName =>
      some (self.changeOptions server (·.setServerName serverName))
  | .setPreferCompression server preferCompression =>
      some (self.changeOptions server ({ · with preferCompression }))
  | .setDone server done =>
      some { self with
        servers := Function.update self.servers server
          { self.servers server with done } }
  | .connectParentStreamServer client server compress =>
      some { self with
        connections := self.connections ++
          [.connectParentStreamServer builds client server compress] }
  | .serverReads position =>
      self.atPosition position Connection.server fun connection server =>
        connection.serverReads (builds connection.server) server
  | .clientReads position =>
      self.atPosition position Connection.client fun connection server =>
        connection.clientReads (builds connection.client) server

def system (builds : ι → Build) :
    Foundation.TransitionSystem (Network ι) (NetworkInput ι) where
  initial := initial
  next := next builds

end Network

end Connecting
end OpenRTI
