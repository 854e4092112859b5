import OpenRTI.MessageEncoding.PacketRoundTrip
import OpenRTI.StreamBuffer.FilledBuffers

/-!
# Connections

Two protocols that are joined by two streams of bytes.  Each one takes the messages to
send from the queue of its connect.  Whatever the order of the calls, and however the
streams cut the bytes, the messages arrive in order, each once.
-/

namespace OpenRTI
namespace MessageEncoding

open Foundation (Octet)
open DataStream (Failure)
open StreamBuffer (ProtocolState ProtocolInput SendResult RecvResult Intact
  packetBuffers packetBytes)
open TightBE1MessageEncoding (packetReader after)

/-! ## One end -/

/-- A protocol, the messages in the queue of its connect, the messages that have been
written, and all that have been put into the queue. -/
structure Endpoint where
  protocol : ProtocolState TightBE1MessageEncoding
  queue : List Message
  written : List Message
  posted : List Message

/-- A message is put into the queue, or a step of the protocol. -/
inductive EndpointInput
  | post (message : Message)
  | write
  | getMoreToSend
  | sendBufferSize (size : Int)
  | writePacket
  | send (result : SendResult)
  | read
  | recv (result : RecvResult)
  | readPacket

namespace Endpoint

def initial : Endpoint where
  protocol := .initial (after [])
  queue := []
  written := []
  posted := []

/-- A step of the protocol. -/
def step (self : Endpoint) (input : ProtocolInput) : Option Endpoint :=
  (self.protocol.next packetReader input).map fun protocol =>
    { self with protocol }

/-- There is more to send as long as the queue is not empty.  A message that cannot be
written ends the connection. -/
def next (self : Endpoint) : EndpointInput → Option Endpoint
  | .post message =>
      some { self with
        queue := self.queue ++ [message]
        posted := self.posted ++ [message] }
  | .write => self.step (.output .write)
  | .getMoreToSend =>
      self.step (.output (.getMoreToSend (!self.queue.isEmpty)))
  | .sendBufferSize size => self.step (.output (.sendBufferSize size))
  | .writePacket =>
      match self.queue with
      | [] => self.step (.output (.writePacket []))
      | message :: queue =>
          match writeMessage message with
          | .error _ => none
          | .ok operations =>
              { self with
                queue
                written := self.written ++ [message]
                }.step (.output (.writePacket operations))
  | .send result => self.step (.output (.send result))
  | .read => self.step .read
  | .recv result => self.step (.recv result)
  | .readPacket => self.step .readPacket

/-- The bytes that the socket accepts with an input. -/
def transferred (self : Endpoint) : EndpointInput → List Octet
  | .send result => self.protocol.transferred (.output (.send result))
  | _ => []

end Endpoint

/-- The bytes that an input delivers. -/
def EndpointInput.receivedBytes : EndpointInput → List Octet
  | .recv result => (ProtocolInput.recv result).receivedBytes
  | _ => []

/-- Only messages that can be sent are put into the queue. -/
def EndpointInput.Sendable : EndpointInput → Prop
  | .post message => message.Sendable
  | _ => True

/-! ## Both ends -/

inductive Side
  | client
  | server
  deriving DecidableEq

def Side.other : Side → Side
  | client => server
  | server => client

/-- Both ends, and the bytes on the way to each. -/
structure Connection where
  endpoint : Side → Endpoint
  inFlight : Side → List Octet

namespace Connection

/-- A step of one end.  It receives the next bytes that are on the way to it. -/
def next (self : Connection) : Side × EndpointInput → Option Connection
  | (side, input) =>
      if input.receivedBytes <+: self.inFlight side then
        ((self.endpoint side).next input).map fun endpoint =>
          { endpoint := Function.update self.endpoint side endpoint
            inFlight :=
              Function.update
                (Function.update self.inFlight side
                  ((self.inFlight side).drop input.receivedBytes.length))
                side.other
                (self.inFlight side.other ++
                  (self.endpoint side).transferred input) }
      else none

def system : Foundation.TransitionSystem Connection (Side × EndpointInput) where
  initial := ⟨fun _ => .initial, fun _ => []⟩
  next := next

end Connection

/-! ## Invariant of one end -/

/-- What has been written is in the output buffer or has been accepted. -/
structure Endpoint.Sound (endpoint : Endpoint) : Prop where
  intact : Intact packetReader (after []) endpoint.protocol
    (endpoint.written.flatMap Message.bytes)
  posted : endpoint.posted = endpoint.written ++ endpoint.queue
  sendable : ∀ message ∈ endpoint.posted, message.Sendable

variable {before final : Endpoint}

theorem Endpoint.sound_initial : Endpoint.initial.Sound where
  intact := StreamBuffer.intact_initial _
  posted := rfl
  sendable := fun _ absent => absurd absent List.not_mem_nil

/-- The packet of a message that can be sent has no empty buffer. -/
theorem exists_writeMessage
    {message : Message}
    (sendable : message.Sendable) :
    ∃ operations, writeMessage message = .ok operations ∧
      [] ∉ packetBuffers 0 operations ∧
      packetBytes operations = message.bytes := by
  obtain ⟨opCode, numbered, _⟩ := sendable
  obtain ⟨operations, written, buffers⟩ := writeMessage_eq_ok numbered
  refine ⟨operations, written, ?_, ?_⟩
  · rw [buffers, List.mem_append, not_or]
    refine ⟨?_, DataType.nil_notMem_payload _ _⟩
    intro member
    obtain header | body := List.mem_cons.mp member
    · have same := congrArg List.length header
      rw [Foundation.Octets.length_bigEndian] at same
      cases same
    · exact TightBE1MessageEncoding.octets_ne_nil opCode message
        (List.mem_singleton.mp body).symm
  · rw [Message.bytes, written]

/-- What one step of an end moves. -/
structure Endpoint.Moves
    (before after : Endpoint)
    (input : EndpointInput) : Prop where
  sound : after.Sound
  accepted : after.protocol.accepted =
    before.protocol.accepted ++ before.transferred input
  received : after.protocol.received =
    before.protocol.received ++ input.receivedBytes

/-- A step of the protocol that writes no packet. -/
theorem Endpoint.Sound.step
    {input : ProtocolInput}
    (sound : before.Sound)
    (noEmpty : ∀ output, input = .output output → output.NoEmptyBuffer)
    (noBytes : StreamBuffer.addedBytes (before.written.flatMap Message.bytes)
      input = before.written.flatMap Message.bytes)
    (stepped : before.step input = some final) :
    final.Sound ∧
      final.protocol.accepted =
        before.protocol.accepted ++ before.protocol.transferred input ∧
      final.protocol.received =
        before.protocol.received ++ input.receivedBytes := by
  obtain ⟨protocol, moved, rfl⟩ := Option.map_eq_some_iff.mp stepped
  have kept := sound.intact.next noEmpty moved
  rw [noBytes] at kept
  exact ⟨⟨kept.1, sound.posted, sound.sendable⟩, kept.2⟩

theorem Endpoint.Sound.next
    {input : EndpointInput}
    (sound : before.Sound) (sendable : input.Sendable)
    (stepped : before.next input = some final) :
    before.Moves final input := by
  cases input with
  | post message =>
      cases stepped
      refine ⟨⟨sound.intact, ?_, ?_⟩, (List.append_nil _).symm,
        (List.append_nil _).symm⟩
      · change before.posted ++ [message] =
          before.written ++ (before.queue ++ [message])
        rw [sound.posted, List.append_assoc]
      · intro other member
        obtain old | new := List.mem_append.mp member
        · exact sound.sendable other old
        · obtain rfl := List.mem_singleton.mp new
          exact sendable
  | writePacket =>
      rw [Endpoint.next] at stepped
      split at stepped
      next =>
        have moved := sound.step
          (by
            rintro output ⟨⟩
            exact List.not_mem_nil)
          (List.append_nil _) stepped
        exact ⟨moved.1, moved.2.1, moved.2.2⟩
      next message queue head =>
        have posted := sound.posted
        rw [head] at posted
        have member : message ∈ before.posted := by
          rw [posted]
          exact List.mem_append_right _ List.mem_cons_self
        obtain ⟨operations, written, noEmpty, same⟩ :=
          exists_writeMessage (sound.sendable message member)
        rw [written] at stepped
        obtain ⟨protocol, moved, rfl⟩ := Option.map_eq_some_iff.mp stepped
        have kept := sound.intact.next
          (by
            rintro output ⟨⟩
            exact noEmpty)
          moved
        have bytes : StreamBuffer.addedBytes
            (before.written.flatMap Message.bytes)
            (.output (.writePacket operations)) =
              (before.written ++ [message]).flatMap Message.bytes := by
          change _ ++ packetBytes operations = _
          rw [same, List.flatMap_append, List.flatMap_singleton]
        rw [bytes] at kept
        refine ⟨⟨kept.1, ?_, sound.sendable⟩, kept.2.1, kept.2.2⟩
        change before.posted = (before.written ++ [message]) ++ queue
        rw [posted, List.append_assoc, List.singleton_append]
  | write | getMoreToSend | sendBufferSize | send =>
      have moved := sound.step
        (by
          rintro output ⟨⟩
          trivial)
        rfl stepped
      exact ⟨moved.1, moved.2.1, moved.2.2⟩
  | read | recv | readPacket =>
      have moved := sound.step (fun _ => ProtocolInput.noConfusion) rfl stepped
      exact ⟨moved.1, moved.2.1, moved.2.2⟩

/-! ## Invariant of both ends -/

/-- Both ends are sound, and what one has sent the other one has received or is on the
way to it. -/
structure Connection.Sound (connection : Connection) : Prop where
  endpoint : ∀ side, (connection.endpoint side).Sound
  inFlight : ∀ side, (connection.endpoint side.other).protocol.accepted =
    (connection.endpoint side).protocol.received ++ connection.inFlight side

/-- Only messages that can be sent are put into a queue. -/
def Connection.SendsSendable (_ : Connection) (input : Side × EndpointInput) :
    Prop :=
  input.2.Sendable

theorem Side.other_ne (side : Side) : side.other ≠ side := by
  cases side <;> exact Side.noConfusion

theorem Side.other_other (side : Side) : side.other.other = side := by
  cases side <;> rfl

theorem Side.eq_or_eq_other (side other : Side) :
    other = side ∨ other = side.other := by
  cases side <;> cases other <;> simp [Side.other]

theorem Connection.Sound.next
    {first second : Connection} {side : Side}
    {input : EndpointInput}
    (sound : first.Sound) (sendable : input.Sendable)
    (stepped : first.next (side, input) = some second) :
    second.Sound := by
  rw [Connection.next] at stepped
  split at stepped
  next delivers =>
    obtain ⟨endpoint, moved, rfl⟩ := Option.map_eq_some_iff.mp stepped
    have moves := (sound.endpoint side).next sendable moved
    obtain ⟨rest, begins⟩ := delivers
    have different := side.other_ne
    refine ⟨?_, ?_⟩
    · intro other
      obtain rfl | rfl := side.eq_or_eq_other other
      · dsimp only
        rw [Function.update_self]
        exact moves.sound
      · dsimp only
        rw [Function.update_of_ne different]
        exact sound.endpoint side.other
    · intro other
      obtain rfl | rfl := side.eq_or_eq_other other
      · have before := sound.inFlight other
        dsimp only
        rw [Function.update_of_ne different, Function.update_self,
          Function.update_of_ne different.symm, Function.update_self,
          moves.received, before, ← begins, List.drop_left, List.append_assoc]
      · have before := sound.inFlight side.other
        rw [side.other_other] at before
        dsimp only
        rw [side.other_other, Function.update_self, Function.update_of_ne different,
          Function.update_self, moves.accepted, before, List.append_assoc]
  next => cases stepped

theorem Connection.sound_of_reachable
    {connection : Connection}
    (reachable : Connection.system.ReachableUnder Connection.SendsSendable
      connection) :
    connection.Sound := by
  refine reachable.invariant Connection.Sound ?_ ?_
  · exact ⟨fun _ => Endpoint.sound_initial, fun _ => rfl⟩
  · rintro before ⟨side, input⟩ final sound sendable stepped
    exact sound.next sendable stepped

/-! ## Delivery -/

/-- What one end has got of the messages that the other end was to send. -/
structure Delivers
    (sender receiver : Endpoint)
    (inFlight : List Octet) : Prop where
  /-- No assertion fails and no exception is thrown. -/
  notAborted : sender.protocol.point ≠ .aborted
  notThrown : receiver.protocol.readPoint ≠ .thrown
  readNotAborted : receiver.protocol.readPoint ≠ .aborted
  /-- No message is lost in between, changed, doubled or overtaken. -/
  sent : receiver.protocol.reader.sent <+: sender.posted.map Message.received
  /-- What the modules of one message inherit is lost. -/
  unchanged : ∀ message ∈ sender.posted, message.type ≠ .insertModules2 →
    message.received = message
  /-- All messages have arrived when the sender has nothing to write, nothing is on the
  way and the receiver waits for more. -/
  all : sender.queue = [] → sender.protocol.getOutputBufferComplete = true →
    inFlight = [] → receiver.protocol.getInputBufferComplete = false →
    receiver.protocol.reader.sent = sender.posted.map Message.received

theorem filterMap_received (messages : List Message) :
    (messages.map TightBE1MessageEncoding.Packet.message).filterMap
      TightBE1MessageEncoding.Packet.received = messages.map Message.received := by
  rw [List.filterMap_map]
  exact congrFun (@List.filterMap_eq_map _ _ Message.received) messages

/-- In every state that a connection comes to, by any calls at both ends and with the
bytes cut in any way, the messages that one end has received are the first ones of those
that the other end was to send, each once and in order. -/
theorem delivers_of_reachable
    {connection : Connection}
    (reachable : Connection.system.ReachableUnder Connection.SendsSendable
      connection)
    (side : Side) :
    Delivers (connection.endpoint side.other) (connection.endpoint side)
      (connection.inFlight side) := by
  have sound := Connection.sound_of_reachable reachable
  have sender := sound.endpoint side.other
  have receiver := sound.endpoint side
  have inFlight := sound.inFlight side
  generalize connection.endpoint side.other = first,
    connection.endpoint side = second at sender receiver inFlight
  have kept := sender.intact.inStep.output.resolve_right sender.intact.notAborted
  have offered := kept.1.offered_eq
  rw [inFlight, List.append_assoc] at offered
  let packets := first.written.map TightBE1MessageEncoding.Packet.message
  have bytes : packets.flatMap TightBE1MessageEncoding.Packet.bytes =
      first.written.flatMap Message.bytes := List.flatMap_map _ _ _
  have sendable : ∀ packet ∈ packets, packet.Sendable := by
    intro packet member
    obtain ⟨message, written, rfl⟩ := List.mem_map.mp member
    apply sender.sendable message
    rw [sender.posted]
    exact List.mem_append_left _ written
  have hasRead := TightBE1MessageEncoding.hasRead_of_inStep
    receiver.intact.inStep sendable (bytes ▸ ⟨_, offered⟩)
  have sent := hasRead.sent
  rw [filterMap_received] at sent
  refine ⟨sender.intact.notAborted, hasRead.notThrown, hasRead.notAborted, ?_,
    fun _ _ => Message.received_eq_self, ?_⟩
  · rw [sender.posted, List.map_append]
    exact sent.trans (List.prefix_append _ _)
  · intro queue complete nothing waits
    have atEnd : first.protocol.outputIterator = .byteEnd :=
      of_decide_eq_true complete
    have none : first.protocol.offered = [] := by
      have all := kept.1.accepted_eq atEnd
      have some := kept.1.offered_eq
      rw [all] at some
      exact List.append_right_eq_self.mp some
    rw [nothing, none, List.append_nil, List.append_nil] at offered
    rw [(hasRead.all (offered.trans bytes.symm) waits).1, sender.posted, queue,
      List.append_nil]
    exact filterMap_received first.written

/-- The server sends one message, the client receives it in parts. -/
def deletionCalls : List (Side × EndpointInput) :=
  [(.client, .read), (.client, .readPacket),
    (.server, .post TightBE1MessageEncoding.deletion), (.server, .write),
    (.server, .getMoreToSend), (.server, .sendBufferSize 100),
    (.server, .writePacket), (.server, .getMoreToSend),
    (.server, .send (.sent 5)), (.client, .recv (.received [0, 0, 0])),
    (.client, .recv (.received [6])), (.client, .readPacket),
    (.client, .recv (.received [91])), (.server, .send (.sent 7)),
    (.server, .getMoreToSend), (.client, .recv .wouldBlock), (.client, .read),
    (.client, .recv (.received [3, 1, 200, 1, 2])), (.client, .readPacket),
    (.client, .recv (.received [0x62, 0x63])), (.client, .readPacket),
    (.client, .readPacket)]

theorem delivers_of_reachable_deletion :
    ∃ connection,
      Connection.system.run Connection.system.initial deletionCalls =
          some connection ∧
        (connection.endpoint .client).protocol.reader.sent =
          (connection.endpoint .server).posted.map Message.received ∧
        (connection.endpoint .server).posted.length = 1 := by
  have observed : (Connection.system.run Connection.system.initial
      deletionCalls).map (fun connection =>
        ((connection.endpoint .server).queue.length,
          (connection.endpoint .server).protocol.getOutputBufferComplete,
          connection.inFlight .client,
          (connection.endpoint .client).protocol.getInputBufferComplete,
          (connection.endpoint .server).posted.length)) =
      some (0, true, [], false, 1) := by
    decide +kernel
  obtain ⟨connection, ran, same⟩ := Option.map_eq_some_iff.mp observed
  simp only [Prod.mk.injEq] at same
  obtain ⟨queue, complete, nothing, waits, posted⟩ := same
  have sendable : TightBE1MessageEncoding.deletion.Sendable :=
    ⟨91, rfl, by decide +kernel⟩
  have admitted : ∀ input ∈ deletionCalls, input.2.Sendable := by
    simpa [deletionCalls, EndpointInput.Sendable] using sendable
  have reachable : Connection.system.ReachableUnder Connection.SendsSendable
      connection :=
    .run .initial (fun input member _ => admitted input member) ran
  exact ⟨connection, ran,
    (delivers_of_reachable reachable .client).all (List.eq_nil_of_length_eq_zero queue)
      complete nothing waits, posted⟩

end MessageEncoding
end OpenRTI
