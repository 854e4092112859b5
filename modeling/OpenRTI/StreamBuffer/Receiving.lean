import OpenRTI.StreamBuffer.Sending

/-!
# Receiving of buffers

The input side of a stream buffer protocol, beside its output side.  A packet is read
into a list of buffers as the bytes of the socket come in.  When all buffers are full the
packet is given to the protocol, which asks for further buffers or is done with it.  Both
sides take their scratch buffers from one pool.
-/

namespace OpenRTI
namespace StreamBuffer

open Foundation (Octet)

/-! ## The protocol that is fed -/

/-- A buffer that is asked for. -/
inductive ReadRequest
  | addReadBuffer (size : Nat)
  | addScratchReadBuffer (size : Nat)
  deriving DecidableEq

def ReadRequest.size : ReadRequest → Nat
  | addReadBuffer size | addScratchReadBuffer size => size

/-- What a protocol does for the reading of packets. -/
structure PacketReader (σ ε : Type) where
  /-- Given whether the input buffer is complete. -/
  getEnableRead : Bool → Bool
  /-- The buffers are full. -/
  readPacket : List (List Octet) → σ → Except ε (List ReadRequest × σ)
  /-- What is done after the buffers are asked for, given whether the input buffer is
  complete. -/
  finish : Bool → σ → σ

/-! ## The protocol with its buffers -/

/-- Where the loop of read stands. -/
inductive ReadPoint
  | outside
  | receiving
  | parsing
  | thrown
  | aborted
  deriving DecidableEq

/-- Both sides of the protocol, what the packets are read into, and the bytes that the
socket has delivered. -/
structure ProtocolState (σ : Type) extends OutputState where
  inputBuffer : List Nat
  inputIterator : ByteIterator Nat
  inputScratchBufferList : List Nat
  reader : σ
  received : List Octet
  readPoint : ReadPoint

namespace ProtocolState

variable {σ ε : Type}

def initial (reader : σ) : ProtocolState σ where
  toOutputState := .initial
  inputBuffer := []
  inputIterator := .byteEnd
  inputScratchBufferList := []
  reader := reader
  received := []
  readPoint := .outside

def getInputBufferComplete (self : ProtocolState σ) : Bool :=
  self.inputIterator = .byteEnd

/-- The data in a node is resized; the bytes that are new in it are some bytes. -/
def resized (size : Nat) (value : List Octet) : List Octet :=
  value.take size ++ List.replicate (size - value.length) 0

/-- Append a node with a data to the input buffer. -/
def appendInput
    (node : Nat)
    (value : List Octet)
    (self : ProtocolState σ) : ProtocolState σ :=
  { self with
    contents := Function.update self.contents node value
    inputBuffer := self.inputBuffer ++ [node] }

def addReadBuffer (size : Nat) (self : ProtocolState σ) : ProtocolState σ :=
  let node := self.nextNode
  { self.appendInput node (resized size []) with
    nextNode := self.nextNode + 1
    inputIterator :=
      if self.inputIterator = .byteEnd then ⟨some node, 0⟩
      else self.inputIterator }

/-- Append a node to the buffer, and an iterator to it to the scratch list. -/
def spliceScratchInput
    (node size : Nat)
    (self : ProtocolState σ) : ProtocolState σ :=
  { self.appendInput node (resized size (self.contents node)) with
    inputIterator :=
      if self.inputIterator.listIterator = none then ⟨some node, 0⟩
      else self.inputIterator
    inputScratchBufferList := self.inputScratchBufferList ++ [node]
    iteratorPool := self.iteratorPool.tail }

/-- A node is taken from the pool, or it is a new one, which is empty. -/
def addScratchReadBuffer
    (size : Nat)
    (self : ProtocolState σ) : ProtocolState σ :=
  match self.scratchPool with
  | node :: scratchPool =>
      { self with scratchPool }.spliceScratchInput node size
  | [] =>
      { self with
        contents := Function.update self.contents self.nextNode []
        nextNode := self.nextNode + 1 }.spliceScratchInput self.nextNode size

/-- Ask for buffers one after the other.  An empty one fails the assertion. -/
def request : List ReadRequest → ProtocolState σ → Option (ProtocolState σ)
  | [], self => some self
  | .addReadBuffer size :: requests, self =>
      if size = 0 then none else request requests (self.addReadBuffer size)
  | .addScratchReadBuffer size :: requests, self =>
      if size = 0 then none
      else request requests (self.addScratchReadBuffer size)

/-- Give the nodes of the scratch buffers to the pool. -/
def recycleInput (self : ProtocolState σ) : ProtocolState σ :=
  self.inputScratchBufferList.foldl
    (fun self node =>
      { self with
        scratchPool := self.scratchPool ++ [node]
        inputBuffer := self.inputBuffer.erase node }) self

/-- The packet is read, reset the state. -/
def clearInput (self : ProtocolState σ) : ProtocolState σ :=
  { self.recycleInput with
    iteratorPool := self.iteratorPool ++ self.inputScratchBufferList
    inputScratchBufferList := []
    inputBuffer := []
    inputIterator := .byteBegin [] }

/-- The head of the loop that receives. -/
def receiveLoop (self : ProtocolState σ) : ProtocolState σ :=
  { self with
    readPoint := if self.inputIterator = .byteEnd then .parsing else .receiving }

/-- The head of the loop of read. -/
def readLoop
    (packetReader : PacketReader σ ε)
    (self : ProtocolState σ) : ProtocolState σ :=
  if packetReader.getEnableRead self.getInputBufferComplete then self.receiveLoop
  else { self with readPoint := .outside }

/-- The input buffer is full. -/
def readPacket
    (packetReader : PacketReader σ ε)
    (self : ProtocolState σ) : ProtocolState σ :=
  match packetReader.readPacket (self.inputBuffer.map self.contents)
      self.reader with
  | .error _ => { self with readPoint := .thrown }
  | .ok (requests, reader) =>
      match { self with reader }.request requests with
      | none => { self with readPoint := .aborted }
      | some self =>
          let self := { self with
            reader := packetReader.finish self.getInputBufferComplete self.reader }
          if self.inputIterator = .byteEnd then
            self.clearInput.readLoop packetReader
          else self.readLoop packetReader

/-- Store bytes in the nodes, from an offset in the first one on. -/
def store :
    List Nat → Nat → List Octet → (Nat → List Octet) → Nat → List Octet
  | [], _, _, contents => contents
  | node :: nodes, offset, data, contents =>
      let value := contents node
      let part := data.take (value.length - offset)
      store nodes 0 (data.drop (value.length - offset))
        (Function.update contents node
          (value.take offset ++ part ++ value.drop (offset + part.length)))

/-- The number of bytes that the socket may deliver. -/
def room (self : ProtocolState σ) : Nat :=
  (self.inputIterator.bytes self.contents self.inputBuffer).length

/-- The socket delivers bytes. -/
def receive (data : List Octet) (self : ProtocolState σ) : ProtocolState σ :=
  let self := { self with
    contents := store (self.inputIterator.nodes self.inputBuffer)
      self.inputIterator.offset data self.contents
    received := self.received ++ data }
  match self.inputIterator.increment self.size self.inputBuffer data.length with
  | .error _ => { self with readPoint := .aborted }
  | .ok iterator =>
      { self with
        inputIterator := iterator.skipEmptyChunks self.size self.inputBuffer
        }.receiveLoop

end ProtocolState

inductive RecvResult
  | wouldBlock
  | endOfFile
  | received (data : List Octet)

/-- What the protocol is called with, what it gets from the socket, and the steps that
it takes by itself. -/
inductive ProtocolInput
  | output (input : WriteInput)
  | read
  | recv (result : RecvResult)
  | readPacket

namespace ProtocolState

variable {σ ε : Type}

/-- One step of the protocol.  There is none for an input that is not asked for.  At the
end of the file the socket is closed. -/
def next
    (packetReader : PacketReader σ ε)
    (self : ProtocolState σ) : ProtocolInput → Option (ProtocolState σ)
  | .output input =>
      (self.toOutputState.next input).map fun toOutputState =>
        { self with toOutputState }
  | .read =>
      match self.readPoint with
      | .outside => some (self.readLoop packetReader)
      | _ => none
  | .recv result =>
      match self.readPoint with
      | .receiving =>
          match result with
          | .wouldBlock | .endOfFile => some { self with readPoint := .outside }
          | .received data =>
              if data ≠ [] ∧ data.length ≤ self.room then
                some (self.receive data)
              else none
      | _ => none
  | .readPacket =>
      match self.readPoint with
      | .parsing => some (self.readPacket packetReader)
      | _ => none

/-- The protocol with a socket. -/
def system (packetReader : PacketReader σ ε) (reader : σ) :
    Foundation.TransitionSystem (ProtocolState σ) ProtocolInput where
  initial := initial reader
  next := next packetReader

end ProtocolState

end StreamBuffer
end OpenRTI
