import OpenRTI.MessageEncoding.TightBE1MessageEncoding
import OpenRTI.MessageEncoding.DataTypeRoundTrip
import OpenRTI.StreamBuffer.ReceivingRuns

/-!
# Round trip of packets

The packet of a message is read to the message, for all messages that have a number and
of which the size of the body fits into the header.  So a stream of packets is read to
the messages in order.
-/

namespace OpenRTI
namespace MessageEncoding

open Foundation (Octet Assembly)
open Foundation.Octets
open Foundation.FailingState (except_bind_eq_ok)
open DataStream
open StreamBuffer (WriteOperation ReadRequest ProtocolState ProtocolInput InStep
  packetBuffers packetBytes lastFill)

/-! ## Data of fields -/

theorem Sized.nil_notMem_buffers (value : Sized Octet) : [] ∉ value.buffers := by
  rw [Sized.buffers]
  split
  · exact List.not_mem_nil
  next filled =>
    rw [List.mem_singleton]
    exact fun same => filled same.symm

theorem Sized.val_eq_nil
    {value : Sized Octet}
    (without : value.buffers = []) :
    value.val = [] := by
  rw [Sized.buffers] at without
  split at without
  next nothing => exact nothing
  next => cases without

namespace DataType

/-- Whether there can be data in the values of a type. -/
def hasData : DataType → Bool
  | variableLengthData => true
  | pair first second => first.hasData || second.hasData
  | vector element => element.hasData
  | derived _ own => own.hasData
  | scalar _ | bool | double | enum _ _ _ | empty | set _ | map _ _ => false

variable {type : DataType}

theorem payload_eq_nil
    (without : type.hasData = false)
    (value : type.Value) :
    type.payload value = [] := by
  induction type with
  | variableLengthData => cases without
  | pair first second firstHypothesis secondHypothesis =>
      obtain ⟨firstWithout, secondWithout⟩ := Bool.or_eq_false_iff.mp without
      rw [payload, firstHypothesis firstWithout, secondHypothesis secondWithout]
      rfl
  | vector element ih =>
      apply List.flatMap_eq_nil_iff.mpr
      intro entry _
      exact ih without entry
  | derived base own baseHypothesis ownHypothesis =>
      exact ownHypothesis without value.2
  | scalar | bool | double | enum | empty | set | map => rfl

/-- No empty buffer is added. -/
theorem nil_notMem_payload
    (type : DataType) (value : type.Value) :
    [] ∉ type.payload value := by
  induction type with
  | variableLengthData => exact Sized.nil_notMem_buffers value
  | pair first second firstHypothesis secondHypothesis =>
      rw [payload, List.mem_append, not_or]
      exact ⟨firstHypothesis value.1, secondHypothesis value.2⟩
  | vector element ih =>
      intro member
      obtain ⟨entry, _, inside⟩ := List.mem_flatMap.mp member
      exact ih entry inside
  | derived base own baseHypothesis ownHypothesis =>
      exact ownHypothesis value.2
  | scalar | bool | double | enum | empty | set | map => exact List.not_mem_nil

/-- A value without data is read with the body. -/
theorem blank_eq_received
    {value : type.Value}
    (without : type.payload value = []) :
    type.blank value = type.received value := by
  induction type with
  | variableLengthData => exact Sized.blank_eq_self (Sized.val_eq_nil without)
  | pair first second firstHypothesis secondHypothesis =>
      obtain ⟨firstWithout, secondWithout⟩ := List.append_eq_nil_iff.mp without
      exact Prod.ext (firstHypothesis firstWithout) (secondHypothesis secondWithout)
  | vector element ih =>
      apply Subtype.ext
      apply List.map_congr_left
      intro entry member
      exact ih (List.flatMap_eq_nil_iff.mp without entry member)
  | derived base own baseHypothesis ownHypothesis =>
      exact congrArg (Prod.mk base.initial) (ownHypothesis without)
  | scalar | bool | double | enum | empty | set | map => rfl

end DataType

/-- There is a function that reads the buffers of all messages with data. -/
theorem MessageType.hasData_structure (type : MessageType) :
    type.structure.hasData = type.hasPayload := by
  cases type <;> rfl

/-- Only the modules of one message inherit from others. -/
theorem MessageType.isPlain_structure
    {type : MessageType}
    (different : type ≠ .insertModules2) :
    type.structure.isPlain = true := by
  cases type with
  | insertModules2 => exact absurd rfl different
  | _ => rfl

/-! ## Packets -/

namespace Message

/-- The octets of the body. -/
def octets (opCode : UnsignedType.uint16.Value) (self : Message) : List Octet :=
  groups opCode.val ++ self.type.structure.octets self.fields

/-- The data of the fields. -/
def payload (self : Message) : List (List Octet) :=
  self.type.structure.payload self.fields

/-- The message before its data is filled in. -/
def blank (self : Message) : Message :=
  ⟨self.type, self.type.structure.blank self.fields⟩

/-- The message as it is received. -/
def received (self : Message) : Message :=
  ⟨self.type, self.type.structure.received self.fields⟩

/-- A message has a number, and the size of its body is a `uint32_t`. -/
def Sendable (self : Message) : Prop :=
  ∃ opCode, self.type.opCode = some opCode ∧
    (self.octets opCode).length < 2 ^ 32

/-- The bytes of the packet of a message, none if writing it throws. -/
def bytes (self : Message) : List Octet :=
  match writeMessage self with
  | .error _ => []
  | .ok operations => packetBytes operations

/-- A message of another type than `insertModules2` is received as it is sent. -/
theorem received_eq_self
    {message : Message}
    (different : message.type ≠ .insertModules2) :
    message.received = message := by
  cases message with
  | mk type fields =>
      exact congrArg (Message.mk type)
        (DataType.received_eq_self (MessageType.isPlain_structure different) fields)

end Message

theorem encodeBody_encoded
    (opCode : UnsignedType.uint16.Value) (message : Message) :
    (encodeBody opCode message).Encoded (message.octets opCode)
      message.payload := by
  have number : (EncodeStream.new.modify fun stream =>
      stream.writeCompressed opCode).Encoded (groups opCode.val) [] :=
    ⟨EncodeDataStream.written_new.writeCompressed opCode, rfl⟩
  exact message.type.structure.write_encoded message.fields _ _ _ number

theorem encodeHeader_eq
    (opCode : UnsignedType.uint16.Value) (message : Message) :
    encodeHeader (encodeBody opCode message) =
      bigEndian 4 (BitVec.ofNat 32 (message.octets opCode).length).toNat := by
  rw [encodeHeader, (encodeBody_encoded opCode message).written.1]
  exact (EncodeDataStream.written_new.writeUInt32BE _).1

variable (scratch : Nat) (buffers : List (List Octet))
variable (operations : List WriteOperation)

/-- Buffers that are added are in the packet as they are. -/
theorem packetBuffers_map_append :
    packetBuffers scratch (buffers.map .addWriteBuffer ++ operations) =
      buffers ++ packetBuffers scratch operations := by
  induction buffers with
  | nil => rfl
  | cons buffer buffers ih =>
      exact congrArg (buffer :: ·) ih

theorem lastFill_map_append :
    lastFill scratch (buffers.map .addWriteBuffer ++ operations) =
      lastFill scratch operations := by
  induction buffers with
  | nil => rfl
  | cons buffer buffers ih => exact ih

/-- The packet is the header, the body and the buffers. -/
theorem writeMessage_eq_ok
    {message : Message} {opCode : UnsignedType.uint16.Value}
    (numbered : message.type.opCode = some opCode) :
    ∃ operations, writeMessage message = .ok operations ∧
      packetBuffers 0 operations =
        [bigEndian 4 (BitVec.ofNat 32 (message.octets opCode).length).toNat,
          message.octets opCode] ++ message.payload := by
  have encoded := encodeBody_encoded opCode message
  rw [writeMessage, numbered]
  refine ⟨_, rfl, ?_⟩
  rw [List.append_assoc, List.cons_append, List.cons_append, List.nil_append,
    packetBuffers, packetBuffers, lastFill, lastFill_map_append,
    lastFill_map_append, packetBuffers_map_append, encodeHeader_eq, encoded.added,
    encoded.written.1]
  simp [lastFill, packetBuffers]

/-! ## Reading -/

namespace TightBE1MessageEncoding

variable {message : Message} {opCode : UnsignedType.uint16.Value}

theorem readCompressed_octets
    (opCode : UnsignedType.uint16.Value) (message : Message) :
    DecodeDataStream.readCompressed .uint16 ⟨message.octets opCode, 0⟩ =
      .ok (opCode,
        ⟨message.octets opCode, (groups opCode.val).length⟩) := by
  have takes := DecodeDataStream.readCompressed_takes opCode []
    (message.type.structure.octets message.fields)
  rw [List.nil_append, List.length_nil, Nat.zero_add] at takes
  exact takes

/-- The body asks for the buffers and leaves the data blank. -/
theorem decodeBody_eq
    (numbered : message.type.opCode = some opCode)
    (self : TightBE1MessageEncoding) :
    self.decodeBody (message.octets opCode) =
      .ok ((message.payload.map List.length).map .addReadBuffer,
        { self with message := some message.blank }) := by
  have read := message.type.structure.read_takes message.fields
    (groups opCode.val) [] []
  rw [List.append_nil, List.nil_append] at read
  rw [decodeBody]
  refine except_bind_eq_ok.mpr ⟨_, readCompressed_octets opCode message, ?_⟩
  dsimp only
  rw [MessageType.ofOpCode_eq_some numbered]
  exact except_bind_eq_ok.mpr ⟨_, read, rfl⟩

/-- The buffers fill in the data. -/
theorem decodePayload_eq
    (numbered : message.type.opCode = some opCode)
    (filled : message.payload ≠ [])
    (sent : List Message) :
    decodePayload (message.octets opCode) message.payload
        ⟨some message.blank, sent⟩ =
      .ok ⟨some message.received, sent⟩ := by
  have hasPayload : message.type.hasPayload = true := by
    rw [← MessageType.hasData_structure]
    by_contra without
    exact filled (DataType.payload_eq_nil (Bool.eq_false_iff.mpr without) _)
  have read := message.type.structure.readPayload_takes message.fields []
  rw [List.append_nil] at read
  rw [decodePayload]
  refine except_bind_eq_ok.mpr ⟨_, readCompressed_octets opCode message, ?_⟩
  dsimp only
  rw [MessageType.ofOpCode_eq_some numbered]
  dsimp only
  rw [if_neg (by rw [hasPayload]; decide), if_neg fun different => different rfl]
  exact except_bind_eq_ok.mpr ⟨_, read, rfl⟩

theorem readPacket_header
    {size : Nat}
    (small : size < 2 ^ 32)
    (self : TightBE1MessageEncoding) :
    packetReader.readPacket [bigEndian 4 size] self =
      .ok ([.addScratchReadBuffer size], self) := by
  have read := DecodeDataStream.readUInt32BE_takes (BitVec.ofNat 32 size) [] [] rfl
  rw [List.nil_append, List.append_nil, toNat_ofNat_of_lt small] at read
  refine except_bind_eq_ok.mpr ⟨_, read, ?_⟩
  dsimp only
  rw [toNat_ofNat_of_lt small]

theorem readPacket_payload
    (header : List Octet)
    (numbered : message.type.opCode = some opCode)
    (filled : message.payload ≠ [])
    (sent : List Message) :
    packetReader.readPacket
        (header :: message.octets opCode :: message.payload)
        ⟨some message.blank, sent⟩ =
      .ok ([], ⟨some message.received, sent⟩) := by
  have decoded := decodePayload_eq numbered filled sent
  cases payload : message.payload with
  | nil => exact absurd payload filled
  | cons buffer buffers =>
      rw [payload] at decoded
      exact except_bind_eq_ok.mpr ⟨_, decoded, rfl⟩

theorem octets_ne_nil
    (opCode : UnsignedType.uint16.Value) (message : Message) :
    message.octets opCode ≠ [] := by
  rw [Message.octets, groups]
  split
  · exact List.cons_ne_nil _ _
  · exact List.cons_ne_nil _ _

variable {body : List Octet}

/-- The header and the body come in. -/
theorem reads_body
    (some : body ≠ [])
    (small : body.length < 2 ^ 32)
    (self : TightBE1MessageEncoding) :
    Assembly.Reads packetReader.consumer (.start self)
      (bigEndian 4 body.length ++ body)
      (.ofPieces [bigEndian 4 body.length, body] self) := by
  let header := bigEndian 4 body.length
  have asksHeader : Assembly.Reads packetReader.consumer (.start self)
      [header].flatten (.ofPieces [header] self) := by
    have asked : packetReader.readPacket [] self =
        .ok ([.addScratchReadBuffer 4], self) := rfl
    apply @Assembly.Reads.further _ _ _ packetReader.consumer [] [header]
    · exact packetReader.consume_eq_ok asked
    · exact List.cons_ne_nil _ _
    · intro member
      have same := congrArg List.length (List.mem_singleton.mp member)
      rw [length_bigEndian] at same
      cases same
  have asksBody : Assembly.Reads packetReader.consumer
      (.ofPieces [header] self) [body].flatten (.ofPieces [header, body] self) := by
    apply @Assembly.Reads.further _ _ _ packetReader.consumer [header]
    · exact packetReader.consume_eq_ok (readPacket_header small self)
    · exact List.cons_ne_nil _ _
    · intro member
      exact some (List.mem_singleton.mp member).symm
  have both := asksHeader.trans asksBody
  rw [List.flatten_singleton, List.flatten_singleton] at both
  exact both

/-- A packet is read to its message, which is sent on. -/
theorem reads_bytes
    (sendable : message.Sendable) (sent : List Message) :
    Assembly.Reads packetReader.consumer (.start ⟨none, sent⟩) message.bytes
      (.start ⟨none, sent ++ [message.received]⟩) := by
  obtain ⟨opCode, numbered, small⟩ := sendable
  obtain ⟨operations, written, buffers⟩ := writeMessage_eq_ok numbered
  let header := bigEndian 4 (message.octets opCode).length
  have body := reads_body (octets_ne_nil opCode message) small ⟨none, sent⟩
  have readsBody : packetReader.readPacket [header, message.octets opCode]
      ⟨none, sent⟩ =
      .ok ((message.payload.map List.length).map .addReadBuffer,
        ⟨some message.blank, sent⟩) :=
    decodeBody_eq numbered ⟨none, sent⟩
  rw [Message.bytes, written]
  change Assembly.Reads _ _ (packetBuffers 0 operations).flatten _
  rw [buffers, toNat_ofNat_of_lt small, List.flatten_append, List.flatten_cons,
    List.flatten_singleton]
  apply body.trans
  by_cases without : message.payload = []
  · have received : message.blank = message.received :=
      congrArg (Message.mk message.type) (DataType.blank_eq_received without)
    rw [without, received] at readsBody
    rw [without]
    exact Assembly.Reads.finished (packetReader.consume_eq_ok readsBody)
  · have asksPayload : Assembly.Reads packetReader.consumer
        (.ofPieces [header, message.octets opCode] ⟨none, sent⟩)
        message.payload.flatten
        (.ofPieces (header :: message.octets opCode :: message.payload)
          ⟨some message.blank, sent⟩) := by
      apply @Assembly.Reads.further _ _ _ packetReader.consumer
        [header, message.octets opCode]
      · have asks := packetReader.consume_eq_ok readsBody
        have unfinished : ((message.payload.map List.length).map
            ReadRequest.addReadBuffer).isEmpty = false := by
          simpa using without
        rw [unfinished, List.map_map] at asks
        have sizes : ReadRequest.size ∘ ReadRequest.addReadBuffer = id := rfl
        rw [sizes, List.map_id] at asks
        exact asks
      · exact without
      · exact DataType.nil_notMem_payload _ _
    have readsPayload := readPacket_payload header numbered without sent
    have finished := asksPayload.trans
      (Assembly.Reads.finished (packetReader.consume_eq_ok readsPayload))
    rw [List.append_nil] at finished
    exact finished

/-! ## Streams -/

/-- What is in a stream: packets of messages, and packets with a number that is not
known, as a later version may send them. -/
inductive Packet
  | message (message : Message)
  | unknown (body : List Octet)

namespace Packet

/-- The body of an unknown packet begins with a number, which is all of it that is
looked at. -/
def Sendable : Packet → Prop
  | .message message => message.Sendable
  | .unknown body => body.length < 2 ^ 32 ∧
      ∃ opcode decodeStream,
        DecodeDataStream.readCompressed .uint16 ⟨body, 0⟩ =
          .ok (opcode, decodeStream) ∧
        MessageType.ofOpCode opcode = none

def bytes : Packet → List Octet
  | .message message => message.bytes
  | .unknown body => bigEndian 4 body.length ++ body

def received : Packet → Option Message
  | .message message => some message.received
  | .unknown _ => none

end Packet

/-- A packet with an unknown number is skipped. -/
theorem reads_unknown
    (sendable : (Packet.unknown body).Sendable) (sent : List Message) :
    Assembly.Reads packetReader.consumer (.start ⟨none, sent⟩)
      (Packet.unknown body).bytes (.start ⟨none, sent⟩) := by
  obtain ⟨small, opcode, decodeStream, read, unknown⟩ := sendable
  have filled : body ≠ [] := by
    rintro rfl
    cases read
  have skipped : packetReader.readPacket [bigEndian 4 body.length, body]
      ⟨none, sent⟩ = .ok ([], ⟨none, sent⟩) := by
    refine except_bind_eq_ok.mpr ⟨_, read, ?_⟩
    dsimp only
    rw [unknown]
  have finished := (reads_body filled small ⟨none, sent⟩).trans
    (Assembly.Reads.finished (packetReader.consume_eq_ok skipped))
  rw [List.append_nil] at finished
  exact finished

/-- What has been sent on after some packets. -/
def after (past : List Packet) : TightBE1MessageEncoding :=
  ⟨none, past.filterMap Packet.received⟩

variable {packets : List Packet}

theorem reads_packets
    (sendable : ∀ packet ∈ packets, packet.Sendable) :
    Assembly.Reads packetReader.consumer (.start (after []))
      (packets.flatMap Packet.bytes) (.start (after packets)) := by
  apply @Assembly.Reads.packets _ _ _ packetReader.consumer Packet Packet.bytes
    after
  intro past packet member
  cases packet with
  | message message =>
      have same : after (past ++ [.message message]) =
          ⟨none, (after past).sent ++ [message.received]⟩ :=
        congrArg (mk none) List.filterMap_append
      rw [same]
      exact reads_bytes (sendable _ member) (after past).sent
  | unknown body =>
      have same : after (past ++ [.unknown body]) = after past := by
        rw [after, List.filterMap_append]
        exact congrArg (mk none) (List.append_nil _)
      rw [same]
      exact reads_unknown (sendable _ member) (after past).sent

/-- The header of the next packet is waited for. -/
def waiting (self : TightBE1MessageEncoding) :
    Assembly Octet TightBE1MessageEncoding :=
  ⟨[4], [], self⟩

theorem reads_waiting (self : TightBE1MessageEncoding) :
    Assembly.Reads packetReader.consumer (.start self) [] (waiting self) :=
  .consume rfl rfl (.done _)

theorem sent_readPacket
    {buffers : List (List Octet)} {before after : TightBE1MessageEncoding}
    {requests : List ReadRequest}
    (read : readPacket buffers before = .ok (requests, after)) :
    after.sent = before.sent := by
  rw [readPacket.eq_def] at read
  split at read
  next => cases read; rfl
  next =>
    obtain ⟨_, _, returned⟩ := except_bind_eq_ok.mp read
    cases returned
    rfl
  next =>
    obtain ⟨value, _, decoded⟩ := except_bind_eq_ok.mp read
    dsimp only at decoded
    split at decoded
    · cases decoded
      rfl
    · obtain ⟨_, _, returned⟩ := except_bind_eq_ok.mp decoded
      cases returned
      rfl
  next =>
    obtain ⟨between, decoded, returned⟩ := except_bind_eq_ok.mp read
    cases returned
    obtain ⟨value, _, decoded⟩ := except_bind_eq_ok.mp decoded
    dsimp only at decoded
    split at decoded
    · cases decoded
      rfl
    · split at decoded
      · cases decoded
      · cases decoded
        rfl
    · split at decoded
      · cases decoded
        rfl
      · split at decoded
        · cases decoded
        · obtain ⟨_, _, returned⟩ := except_bind_eq_ok.mp decoded
          cases returned
          rfl

theorem sent_finish (complete : Bool) (self : TightBE1MessageEncoding) :
    self.sent <+: (finish complete self).sent := by
  rw [finish.eq_def]
  split
  · exact List.prefix_append _ _
  · exact List.prefix_rfl

/-- Reading sends on further messages and takes none back. -/
theorem sent_prefix
    {first last : Assembly Octet TightBE1MessageEncoding}
    {bytes : List Octet}
    (reads : Assembly.Reads packetReader.consumer first bytes last) :
    first.state.sent <+: last.state.sent := by
  refine reads.invariant (first.state.sent <+: ·.state.sent) ?_ ?_
    List.prefix_rfl
  · exact fun _ _ => id
  · intro before next holds consumed
    obtain ⟨requests, reader, read, same⟩ :=
      StreamBuffer.PacketReader.exists_of_consume consumed
    rw [same]
    rw [← sent_readPacket read] at holds
    exact holds.trans (sent_finish _ reader)

/-- What a protocol has come to that has received a part of some packets. -/
structure HasRead
    (state : ProtocolState TightBE1MessageEncoding)
    (packets : List Packet) : Prop where
  notThrown : state.readPoint ≠ .thrown
  notAborted : state.readPoint ≠ .aborted
  sent : state.reader.sent <+: packets.filterMap Packet.received
  /-- What the modules of one message inherit is lost, and nothing else. -/
  unchanged : ∀ message, .message message ∈ packets →
    message.type ≠ .insertModules2 → message.received = message
  all : state.received = packets.flatMap Packet.bytes →
    state.getInputBufferComplete = false →
    state.reader = after packets ∧ state.held = []

theorem hasRead_of_inStep
    {state : ProtocolState TightBE1MessageEncoding} {added : List Octet}
    (inStep : InStep packetReader (after []) state added)
    (sendable : ∀ packet ∈ packets, packet.Sendable)
    (begins : state.received <+: packets.flatMap Packet.bytes) :
    HasRead state packets := by
  obtain ⟨assembly, reads, assembles, stopped⟩ := inStep.input
  have whole := (reads_packets sendable).trans (reads_waiting (after packets))
  have ends : (waiting (after packets)).Waiting := Nat.zero_lt_succ 3
  rw [List.append_nil] at whole
  obtain ⟨rest, same⟩ := begins
  rw [← same] at whole
  refine ⟨?_, ?_, ?_, fun _ _ => Message.received_eq_self, ?_⟩
  · intro thrown
    rw [thrown] at stopped
    obtain ⟨full, failure, failed⟩ := stopped
    exact reads.consume_ne_error whole ends full _ failed
  · intro aborted
    rw [aborted] at stopped
    exact reads.consume_ne_error whole ends stopped.1 _ stopped.2
  · rw [← assembles.reader]
    exact sent_prefix (reads.resume whole ends)
  · intro all waits
    have nothing : rest = [] := by
      rw [all] at same
      exact List.append_right_eq_self.mp same
    rw [nothing, List.append_nil] at whole
    have equal : assembly = waiting (after packets) :=
      reads.unique whole
        (assembles.waiting_iff.mpr (of_decide_eq_false waits)) ends
    rw [← assembles.reader, assembles.held_eq, equal]
    exact ⟨rfl, rfl⟩

/-- A stream of packets is read to their messages, each once and in order, however the
bytes come in and whatever is written meanwhile.  Packets with an unknown number are
skipped, and what the modules of `insertModules2` inherit is not read. -/
theorem hasRead_run
    {inputs : List ProtocolInput}
    {final : ProtocolState TightBE1MessageEncoding}
    {packets : List Packet}
    (ran : (ProtocolState.system packetReader (after [])).run
      (.initial (after [])) inputs = some final)
    (sendable : ∀ packet ∈ packets, packet.Sendable)
    (begins : final.received <+: packets.flatMap Packet.bytes) :
    HasRead final packets :=
  hasRead_of_inStep (StreamBuffer.inStep_run ran) sendable begins

/-- A message with a tag of two octets. -/
def deletion : Message where
  type := .deleteObjectInstance
  fields :=
    ((⟨3, by decide⟩ : UnsignedType.uint16.Value),
      (⟨1, by decide⟩ : UnsignedType.uint32.Value),
      (⟨200, by decide⟩ : UnsignedType.uint32.Value),
      (⟨[0x62, 0x63], by decide⟩ : Sized Octet), ())

/-- The packet of the message, and a packet with an unknown number, in parts. -/
def deletionInputs : List ProtocolInput :=
  [.read, .readPacket, .recv (.received [0, 0, 0]), .recv (.received [6]),
    .readPacket, .recv (.received [91, 3, 1, 200]), .recv (.received [1, 2]),
    .readPacket, .recv (.received [0x62]), .recv .wouldBlock, .read,
    .recv (.received [0x63]), .readPacket, .readPacket,
    .recv (.received [0, 0, 0, 2]), .readPacket, .recv (.received [120, 9]),
    .readPacket, .readPacket]

theorem hasRead_run_deletion :
    ∃ final,
      (ProtocolState.system packetReader (after [])).run (.initial (after []))
          deletionInputs = some final ∧
        final.reader.sent = [deletion] := by
  let run := (ProtocolState.system packetReader (after [])).run
    (.initial (after [])) deletionInputs
  let packets : List Packet := [.message deletion, .unknown [120, 9]]
  have received : run.map (fun final => (final.received,
      final.getInputBufferComplete)) = some (packets.flatMap Packet.bytes, false) := by
    decide +kernel
  obtain ⟨final, ran, same⟩ := Option.map_eq_some_iff.mp received
  obtain ⟨all, waits⟩ := Prod.mk.inj same
  have sendable : ∀ packet ∈ packets, packet.Sendable := by
    intro packet member
    obtain rfl | rfl : packet = .message deletion ∨ packet = .unknown [120, 9] := by
      simpa [packets] using member
    · exact ⟨91, rfl, by decide +kernel⟩
    · exact ⟨by decide, 120, ⟨[120, 9], 1⟩, rfl, rfl⟩
  have hasRead := hasRead_run ran sendable (all ▸ List.prefix_rfl)
  refine ⟨final, ran, ?_⟩
  rw [(hasRead.all all waits).1]
  rfl

end TightBE1MessageEncoding

end MessageEncoding
end OpenRTI
