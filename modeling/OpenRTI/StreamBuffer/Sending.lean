import OpenRTI.StreamBuffer.ByteIterator
import OpenRTI.Foundation.Octets
import OpenRTI.Foundation.TransitionSystem
import Mathlib.Logic.Function.Basic

/-!
# Sending of buffers

The output side of a stream buffer protocol.  Packets are written to a list of
buffers, which is sent as far as the socket accepts it.  A buffer that is empty when
it is added can be filled in later, and its node is used again when all is sent.
The asserts are compiled in.
-/

namespace OpenRTI
namespace StreamBuffer

open Foundation (Octet)

/-! ## Packets -/

/-- What the writing of a packet does: add a buffer with a value, add a scratch
buffer, fill a scratch buffer that the packet has added. -/
inductive WriteOperation
  | addWriteBuffer (value : List Octet)
  | addScratchWriteBuffer
  | fill (scratch : Nat) (value : List Octet)

/-- What a scratch buffer is filled with last. -/
def lastFill (scratch : Nat) : List WriteOperation → Option (List Octet)
  | [] => none
  | .fill other value :: operations =>
      (lastFill scratch operations).or
        (if other = scratch then some value else none)
  | .addWriteBuffer _ :: operations
  | .addScratchWriteBuffer :: operations => lastFill scratch operations

/-- The buffers of a packet in order, if the packet has added some scratch buffers
already. -/
def packetBuffers (scratch : Nat) : List WriteOperation → List (List Octet)
  | [] => []
  | .addWriteBuffer value :: operations =>
      value :: packetBuffers scratch operations
  | .addScratchWriteBuffer :: operations =>
      (lastFill scratch operations).getD [] ::
        packetBuffers (scratch + 1) operations
  | .fill _ _ :: operations => packetBuffers scratch operations

/-- The bytes of a packet. -/
def packetBytes (operations : List WriteOperation) : List Octet :=
  (packetBuffers 0 operations).flatten

/-! ## The protocol -/

/-- Where the loop of write stands. -/
inductive WritePoint
  /-- Outside of a call.  The last call has ended because there was nothing more to
  send, or for another reason. -/
  | outside (finished : Bool)
  | enabling
  | starting
  | writing (kMaxBufferSize bytesSoFar : Int) (numElements : Nat)
  | filling (kMaxBufferSize bytesSoFar : Int) (numElements : Nat)
  | sending
  | aborted
  deriving DecidableEq

/-- The nodes of the lists and what they hold, and the bytes that the socket has
accepted. -/
structure OutputState where
  contents : Nat → List Octet
  nextNode : Nat
  outputBuffer : List Nat
  outputIterator : ByteIterator Nat
  outputScratchBufferList : List Nat
  iteratorPool : List Nat
  scratchPool : List Nat
  accepted : List Octet
  point : WritePoint

namespace OutputState

def initial : OutputState where
  contents := fun _ => []
  nextNode := 0
  outputBuffer := []
  outputIterator := .byteEnd
  outputScratchBufferList := []
  iteratorPool := []
  scratchPool := []
  accepted := []
  point := .outside false

/-- The size of the data in a node. -/
def size (self : OutputState) (node : Nat) : Nat :=
  (self.contents node).length

def setContents
    (node : Nat)
    (value : List Octet)
    (self : OutputState) : OutputState :=
  { self with contents := Function.update self.contents node value }

def addWriteBuffer (value : List Octet) (self : OutputState) : OutputState :=
  if value = [] then self
  else
    let node := self.nextNode
    { self.setContents node value with
      nextNode := self.nextNode + 1
      outputIterator :=
        if self.outputIterator = .byteEnd then ⟨some node, 0⟩
        else self.outputIterator
      outputBuffer := self.outputBuffer ++ [node] }

/-- Append a node to the buffer, and an iterator to it to the scratch list. -/
def spliceScratch (node : Nat) (self : OutputState) : OutputState :=
  { self.setContents node [] with
    outputIterator :=
      if self.outputIterator.listIterator = none then ⟨some node, 0⟩
      else self.outputIterator
    outputBuffer := self.outputBuffer ++ [node]
    outputScratchBufferList := self.outputScratchBufferList ++ [node]
    iteratorPool := self.iteratorPool.tail }

/-- A node is taken from the pool, or it is a new one. -/
def addScratchWriteBuffer (self : OutputState) : OutputState × Nat :=
  match self.scratchPool with
  | node :: scratchPool =>
      ({ self with scratchPool }.spliceScratch node, node)
  | [] =>
      ({ self with nextNode := self.nextNode + 1 }.spliceScratch self.nextNode,
        self.nextNode)

/-- Write a packet, with the scratch buffers that it has added so far.  A packet
fills no others. -/
def writePacket :
    List WriteOperation → List Nat → OutputState → Option OutputState
  | [], _, self => some self
  | .addWriteBuffer value :: operations, scratch, self =>
      writePacket operations scratch (self.addWriteBuffer value)
  | .addScratchWriteBuffer :: operations, scratch, self =>
      writePacket operations (scratch ++ [self.addScratchWriteBuffer.2])
        self.addScratchWriteBuffer.1
  | .fill index value :: operations, scratch, self =>
      (scratch[index]?).bind fun node =>
        writePacket operations scratch (self.setContents node value)

def getOutputBufferComplete (self : OutputState) : Bool :=
  self.outputIterator = .byteEnd

/-- Give the nodes of the scratch buffers to the pool. -/
def recycle (self : OutputState) : OutputState :=
  self.outputScratchBufferList.foldl
    (fun self node =>
      { self with
        scratchPool := self.scratchPool ++ [node]
        outputBuffer := self.outputBuffer.erase node }) self

/-- The packet is sent, reset the state. -/
def finishPacket (self : OutputState) : OutputState :=
  { self.recycle with
    iteratorPool := self.iteratorPool ++ self.outputScratchBufferList
    outputScratchBufferList := []
    outputBuffer := []
    outputIterator := .byteBegin [] }

/-- The head of the loop of write: there are bytes to send, or it is asked whether
there is more to send. -/
def loop (self : OutputState) : OutputState :=
  { self with
    point := if self.getOutputBufferComplete then .enabling else .starting }

/-- The head of the loop that sends. -/
def sendLoop (self : OutputState) : OutputState :=
  if self.outputIterator = .byteEnd then self.finishPacket.loop
  else { self with point := .sending }

/-- The bytes that are offered to the socket. -/
def offered (self : OutputState) : List Octet :=
  self.outputIterator.bytes self.contents self.outputBuffer

/-- The socket accepts a number of bytes. -/
def sent (count : Nat) (self : OutputState) : OutputState :=
  let self := { self with accepted := self.accepted ++ self.offered.take count }
  match self.outputIterator.increment self.size self.outputBuffer count with
  | .error _ => { self with point := .aborted }
  | .ok iterator =>
      { self with
        outputIterator := iterator.skipEmptyChunks self.size self.outputBuffer
        }.sendLoop

end OutputState

inductive SendResult
  | error
  | wouldBlock
  | sent (count : Nat)

/-- What the protocol is called with, and what it gets from the calls it makes. -/
inductive WriteInput
  | add (operations : List WriteOperation)
  | write
  | getMoreToSend (more : Bool)
  | sendBufferSize (size : Int)
  | writePacket (operations : List WriteOperation)
  | send (result : SendResult)

namespace OutputState

/-- The sizes of the buffers from an index on. -/
def sizesFrom (numElements : Nat) (self : OutputState) : Int :=
  ((self.outputBuffer.drop numElements).map self.size).sum

/-- One step of write.  Buffers can also be added outside of it.  There is none for
an input that is not asked for. -/
def next (self : OutputState) : WriteInput → Option OutputState
  | .add operations =>
      match self.point with
      | .outside _ =>
          (self.writePacket operations []).map fun after =>
            { after with point := .outside false }
      | _ => none
  | .write =>
      match self.point with
      | .outside _ => some self.loop
      | _ => none
  | .getMoreToSend more =>
      match self.point with
      | .enabling =>
          some { self with point := if more then .starting else .outside true }
      | .filling kMaxBufferSize bytesSoFar numElements =>
          if more ∧ bytesSoFar < kMaxBufferSize then
            some { self with
              point := .writing kMaxBufferSize bytesSoFar numElements }
          else some self.sendLoop
      | _ => none
  | .sendBufferSize kMaxBufferSize =>
      match self.point with
      | .starting =>
          some { self with
            point :=
              if self.outputBuffer = [] then
                .writing kMaxBufferSize 0 self.outputBuffer.length
              else .filling kMaxBufferSize 0 self.outputBuffer.length }
      | _ => none
  | .writePacket operations =>
      match self.point with
      | .writing kMaxBufferSize bytesSoFar numElements =>
          (self.writePacket operations []).map fun after =>
            { after with
              point := .filling kMaxBufferSize
                (bytesSoFar + after.sizesFrom numElements)
                after.outputBuffer.length }
      | _ => none
  | .send result =>
      match self.point with
      | .sending =>
          match result with
          | .error | .wouldBlock => some { self with point := .outside false }
          | .sent count =>
              if 0 < count ∧ count ≤ self.offered.length then
                some (self.sent count)
              else none
      | _ => none

/-- The protocol with a socket. -/
def system : Foundation.TransitionSystem OutputState WriteInput where
  initial := initial
  next := next

end OutputState

/-- The bytes of all buffers that have been added. -/
def added (bytes : List Octet) : WriteInput → List Octet
  | .add operations | .writePacket operations => bytes ++ packetBytes operations
  | .write | .getMoreToSend _ | .sendBufferSize _ | .send _ => bytes

end StreamBuffer
end OpenRTI
