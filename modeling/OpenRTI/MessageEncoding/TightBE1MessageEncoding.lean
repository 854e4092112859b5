import OpenRTI.MessageEncoding.MessageTypes
import OpenRTI.StreamBuffer.Receiving

/-!
# The encoding of messages

A packet is a header with the size of the body, the body, which is the number of the
message and its fields, and the buffers with the data of the fields.
-/

namespace OpenRTI
namespace MessageEncoding

open Foundation (Octet)
open DataStream
open StreamBuffer (WriteOperation ReadRequest PacketReader)

/-! ## Messages -/

/-- The fields of a message, as a structure. -/
def MessageType.structure (self : MessageType) : DataType := .struct self.fields

structure Message where
  type : MessageType
  fields : type.structure.Value

/-- The messages for which there is a function that reads the buffers. -/
def MessageType.hasPayload : MessageType → Bool
  | registerFederationSynchronizationPoint | announceSynchronizationPoint
  | enableTimeRegulationRequest | enableTimeRegulationResponse
  | commitLowerBoundTimeStamp | changeInteractionClassSubscription
  | interaction | timeStampedInteraction | deleteObjectInstance
  | timeStampedDeleteObjectInstance | attributeUpdate
  | timeStampedAttributeUpdate | requestAttributeUpdate
  | requestClassAttributeUpdate => true
  | _ => false

/-! ## Writing -/

/-- The stream of the body of a message. -/
def encodeBody
    (opCode : UnsignedType.uint16.Value)
    (message : Message) : EncodeStream :=
  message.type.structure.write message.fields
    (EncodeStream.new.modify fun stream => stream.writeCompressed opCode)

/-- The size of the body as a `uint32_t`. -/
def encodeHeader (encodeStream : EncodeStream) : List Octet :=
  (EncodeDataStream.new.writeUInt32BE
    (BitVec.ofNat 32 encodeStream.variableLengthData.length)).variableLengthData

/-- What writing a message does.  The header is filled in when the body is written. -/
def writeMessage (message : Message) : Except Failure (List WriteOperation) :=
  match message.type.opCode with
  | none =>
      .error (.rtiInternalError "Invalid message dispatched to encoding!")
  | some opCode =>
      let encodeStream := encodeBody opCode message
      .ok ([.addScratchWriteBuffer, .addScratchWriteBuffer] ++
        encodeStream.writeBuffers.map .addWriteBuffer ++
        [.fill 1 encodeStream.variableLengthData,
          .fill 0 (encodeHeader encodeStream)])

/-! ## Reading -/

/-- The message that is being read, and the messages that have been sent on. -/
structure TightBE1MessageEncoding where
  message : Option Message
  sent : List Message

namespace TightBE1MessageEncoding

/-- The number of a message with an unknown number is read and nothing else. -/
def decodeBody
    (variableLengthData : List Octet)
    (self : TightBE1MessageEncoding) :
    Except Failure (List ReadRequest × TightBE1MessageEncoding) := do
  let (opcode, decodeStream) ←
    DecodeDataStream.readCompressed .uint16 ⟨variableLengthData, 0⟩
  match MessageType.ofOpCode opcode with
  | none => .ok ([], self)
  | some type =>
      let (fields, decodeStream) ← type.structure.read ⟨decodeStream, []⟩
      .ok (decodeStream.readBuffers.map .addReadBuffer,
        { self with message := some ⟨type, fields⟩ })

/-- The number is read once more.  It is undefined to take the message for one of another
type. -/
def decodePayload
    (variableLengthData : List Octet)
    (buffers : List (List Octet))
    (self : TightBE1MessageEncoding) :
    Except Failure TightBE1MessageEncoding := do
  let (opcode, _) ←
    DecodeDataStream.readCompressed .uint16 ⟨variableLengthData, 0⟩
  match MessageType.ofOpCode opcode, self.message with
  | none, _ => .ok self
  | some type, none => if type.hasPayload then .error .undefined else .ok self
  | some type, some message =>
      if !type.hasPayload then .ok self
      else if message.type ≠ type then .error .undefined
      else do
        let (fields, _) ←
          message.type.structure.readPayload message.fields buffers
        .ok { self with message := some ⟨message.type, fields⟩ }

/-- The buffers that are filled so far. -/
def readPacket :
    List (List Octet) → TightBE1MessageEncoding →
      Except Failure (List ReadRequest × TightBE1MessageEncoding)
  | [], self => .ok ([.addScratchReadBuffer 4], self)
  | [header], self => do
      let (size, _) ← DecodeDataStream.readUInt32BE ⟨header, 0⟩
      .ok ([.addScratchReadBuffer size.toNat], self)
  | [_, body], self => self.decodeBody body
  | _ :: body :: payload, self => do
      let self ← self.decodePayload body payload
      .ok ([], self)

/-- A message that is complete is sent on. -/
def finish
    (complete : Bool)
    (self : TightBE1MessageEncoding) : TightBE1MessageEncoding :=
  match complete, self.message with
  | true, some message => ⟨none, self.sent ++ [message]⟩
  | _, _ => self

/-- Reading is always enabled. -/
def packetReader : PacketReader TightBE1MessageEncoding Failure where
  getEnableRead _ := true
  readPacket := readPacket
  finish := finish

end TightBE1MessageEncoding

end MessageEncoding
end OpenRTI
