import OpenRTI.StreamBuffer.ReceivingRuns

/-!
# Packets without empty buffers

As long as no packet has an empty buffer none is in the output buffer, so that no
assertion fails, whatever number of bytes the socket accepts.
-/

namespace OpenRTI
namespace StreamBuffer

open Foundation (Octet)

/-- No buffer that is sent is empty. -/
def Filled (state : OutputState) : Prop :=
  ∀ node ∈ state.outputBuffer, state.contents node ≠ []

variable {state before after : OutputState} {bytes : List Octet}

/-- The socket accepts a number of bytes that can be accepted without a failure. -/
theorem Kept.admits
    {input : WriteInput}
    (kept : Kept before bytes) (filled : Filled before)
    (stepped : before.next input = some after) :
    Admits before input := by
  by_contra refused
  obtain ⟨count, rfl, broken⟩ := exists_of_not_admits refused
  obtain ⟨offered, _⟩ := next_sent stepped
  apply broken
  obtain ⟨nodes, ends, at_, _⟩ := kept.1.behind
  have nodup := (List.nodup_append.mp kept.1.linked.nodup).1
  have nodes_eq := ByteIterator.nodes_eq nodup ends at_
  have sized : ∀ node ∈ nodes, (before.contents node).length ≠ 0 :=
    fun node member empty => filled node (ends.subset member)
      (List.eq_nil_of_length_eq_zero empty)
  rw [OutputState.offered, ByteIterator.bytes, nodes_eq] at offered
  rw [ByteIterator.unbroken, nodes_eq]
  exact offered.trans_eq (unbrokenFrom_eq sized).symm

/-- The nodes that a packet appends hold its buffers. -/
theorem contents_writePacket
    {operations : List WriteOperation} {scratch : List Nat}
    (linked : Linked before) (distinct : scratch.Nodup)
    (members : ∀ node ∈ scratch, node ∈ before.outputBuffer)
    (written : before.writePacket operations scratch = some after) :
    ∀ node ∈ after.outputBuffer, node ∈ before.outputBuffer ∨
      after.contents node ∈ packetBuffers scratch.length operations := by
  induction operations generalizing scratch before with
  | nil =>
      cases written
      exact fun node => Or.inl
  | cons operation operations ih =>
      intro node member
      cases operation with
      | addWriteBuffer value =>
          rw [OutputState.writePacket] at written
          by_cases empty : value = []
          · rw [OutputState.addWriteBuffer, if_pos empty] at written
            exact (ih linked distinct members written node
              member).imp_right (List.mem_cons_of_mem _)
          · have appends := appends_addWriteBuffer linked empty
            have membersNext : ∀ other ∈ scratch,
                other ∈ (before.addWriteBuffer value).outputBuffer := by
              intro other inside
              rw [appends.outputBuffer]
              exact List.mem_append_left _ (members other inside)
            obtain old | new := ih appends.linked distinct
              membersNext written node member
            · rw [appends.outputBuffer] at old
              refine (List.mem_append.mp old).imp_right fun last => ?_
              obtain rfl := List.mem_singleton.mp last
              obtain ⟨nodes, writes⟩ :=
                writes_writePacket appends.linked distinct membersNext written
              rw [writes.others _ (appends.outputBuffer ▸ old)
                fun inside => appends.absent (members _ inside),
                appends.contents, Function.update_self]
              exact List.mem_cons_self
            · exact Or.inr (List.mem_cons_of_mem _ new)
      | addScratchWriteBuffer =>
          rw [OutputState.writePacket] at written
          have appends := appends_addScratchWriteBuffer linked
          generalize before.addScratchWriteBuffer = added at appends written
          obtain ⟨between, scratchNode⟩ := added
          dsimp only at appends written
          have membersNext : ∀ other ∈ scratch ++ [scratchNode],
              other ∈ between.outputBuffer := by
            intro other inside
            rw [appends.outputBuffer]
            obtain old | new := List.mem_append.mp inside
            · exact List.mem_append_left _ (members other old)
            · exact List.mem_append_right _ new
          have distinctNext : (scratch ++ [scratchNode]).Nodup := by
            have absent : scratchNode ∉ scratch :=
              fun inside => appends.absent (members _ inside)
            grind
          obtain old | new := ih appends.linked distinctNext
            membersNext written node member
          · rw [appends.outputBuffer] at old
            refine (List.mem_append.mp old).imp_right fun last => ?_
            obtain rfl := List.mem_singleton.mp last
            obtain ⟨nodes, writes⟩ := writes_writePacket appends.linked
              distinctNext membersNext written
            rw [writes.filled scratch.length node (by simp), appends.contents,
              Function.update_self]
            exact List.mem_cons_self
          · rw [List.length_append] at new
            exact Or.inr (List.mem_cons_of_mem _ new)
      | fill index value =>
          rw [OutputState.writePacket] at written
          obtain ⟨other, found, written⟩ := Option.bind_eq_some_iff.mp written
          exact @ih (before.setContents other value) scratch
            { linked with } distinct members written node member

/-- A packet without an empty buffer. -/
def WriteInput.NoEmptyBuffer : WriteInput → Prop
  | .add operations | .writePacket operations => [] ∉ packetBuffers 0 operations
  | .write | .getMoreToSend _ | .sendBufferSize _ | .send _ => True

theorem Filled.writePacket
    {operations : List WriteOperation}
    (filled : Filled before) (linked : Linked before)
    (noEmpty : [] ∉ packetBuffers 0 operations)
    (written : before.writePacket operations [] = some after) :
    Filled after := by
  have nothing : ∀ node ∈ ([] : List Nat), node ∈ before.outputBuffer :=
    fun _ absent => absurd absent List.not_mem_nil
  intro node member empty
  obtain old | new := contents_writePacket linked List.nodup_nil nothing written
    node member
  · obtain ⟨nodes, writes⟩ :=
      writes_writePacket linked List.nodup_nil nothing written
    rw [writes.others node old List.not_mem_nil] at empty
    exact filled node old empty
  · rw [empty] at new
    exact noEmpty new

theorem Filled.sendLoop (filled : Filled state) : Filled state.sendLoop := by
  rw [OutputState.sendLoop]
  split
  · exact fun node absent => absurd absent List.not_mem_nil
  · exact filled

theorem accepted_sendLoop (state : OutputState) :
    state.sendLoop.accepted = state.accepted := by
  rw [OutputState.sendLoop]
  split
  · exact (scratchPool_recycle state).2.2.1
  · rfl

/-- The bytes that the socket accepts with an input. -/
def OutputState.transferred (state : OutputState) : WriteInput → List Octet
  | .send (.sent count) => state.offered.take count
  | _ => []

/-- What one step of the output side does to the buffers and to the accepted bytes. -/
theorem Filled.next
    {input : WriteInput}
    (filled : Filled before) (linked : Linked before)
    (noEmpty : input.NoEmptyBuffer)
    (stepped : before.next input = some after) :
    Filled after ∧
      after.accepted = before.accepted ++ before.transferred input := by
  have nothing : ∀ node ∈ ([] : List Nat), node ∈ before.outputBuffer :=
    fun _ absent => absurd absent List.not_mem_nil
  have same : before.accepted = before.accepted ++ [] :=
    (List.append_nil _).symm
  cases input with
  | add operations =>
      rw [OutputState.next] at stepped
      split at stepped
      next =>
        obtain ⟨between, written, rfl⟩ := Option.map_eq_some_iff.mp stepped
        obtain ⟨nodes, writes⟩ :=
          writes_writePacket linked List.nodup_nil nothing written
        have filledBetween := filled.writePacket linked noEmpty written
        exact ⟨filledBetween, writes.accepted.trans same⟩
      next => cases stepped
  | write =>
      rw [OutputState.next] at stepped
      split at stepped
      next =>
        cases stepped
        exact ⟨filled, same⟩
      next => cases stepped
  | getMoreToSend more =>
      rw [OutputState.next] at stepped
      split at stepped
      next =>
        cases stepped
        exact ⟨filled, same⟩
      next =>
        split at stepped
        · cases stepped
          exact ⟨filled, same⟩
        · cases stepped
          exact ⟨filled.sendLoop, (accepted_sendLoop before).trans same⟩
      next => cases stepped
  | sendBufferSize kMaxBufferSize =>
      rw [OutputState.next] at stepped
      split at stepped
      next =>
        cases stepped
        exact ⟨filled, same⟩
      next => cases stepped
  | writePacket operations =>
      rw [OutputState.next] at stepped
      split at stepped
      next =>
        obtain ⟨between, written, rfl⟩ := Option.map_eq_some_iff.mp stepped
        obtain ⟨nodes, writes⟩ :=
          writes_writePacket linked List.nodup_nil nothing written
        have filledBetween := filled.writePacket linked noEmpty written
        exact ⟨filledBetween, writes.accepted.trans same⟩
      next => cases stepped
  | send result =>
      cases result with
      | error | wouldBlock =>
          rw [OutputState.next] at stepped
          split at stepped
          next =>
            cases stepped
            exact ⟨filled, same⟩
          next => cases stepped
      | sent count =>
          obtain ⟨_, rfl⟩ := next_sent stepped
          rw [OutputState.sent]
          dsimp only
          split
          · exact ⟨filled, rfl⟩
          · refine ⟨Filled.sendLoop ?_, accepted_sendLoop _⟩
            exact filled

/-- The input side leaves the buffers of the output side as they are. -/
theorem Filled.keep
    (filled : Filled before) (keeps : KeepsOutput before after) :
    Filled after := by
  intro node member
  rw [keeps.outputBuffer] at member
  rw [keeps.contents node member]
  exact filled node member

/-! ## Both sides -/

section Protocol

variable {σ ε : Type} {packetReader : PacketReader σ ε} {reader : σ}
variable {first second : ProtocolState σ}

/-- The bytes that the socket accepts with an input of the protocol. -/
def ProtocolState.transferred (state : ProtocolState σ) :
    ProtocolInput → List Octet
  | .output input => state.toOutputState.transferred input
  | .read | .recv _ | .readPacket => []

/-- Both sides are in step, no buffer is empty and no assertion of the output side has
failed. -/
structure Intact
    (packetReader : PacketReader σ ε)
    (reader : σ)
    (state : ProtocolState σ)
    (bytes : List Octet) : Prop where
  inStep : InStep packetReader reader state bytes
  filled : Filled state.toOutputState
  notAborted : state.point ≠ .aborted

theorem intact_initial (reader : σ) :
    Intact packetReader reader (.initial reader) [] where
  inStep := inStep_initial reader
  filled := fun _ absent => absurd absent List.not_mem_nil
  notAborted := WritePoint.noConfusion

/-- A step keeps all, and moves the bytes between the sockets and the buffers. -/
theorem Intact.next
    {input : ProtocolInput}
    (intact : Intact packetReader reader first bytes)
    (noEmpty : ∀ output, input = .output output → output.NoEmptyBuffer)
    (stepped : first.next packetReader input = some second) :
    Intact packetReader reader second (addedBytes bytes input) ∧
      second.accepted = first.accepted ++ first.transferred input ∧
      second.received = first.received ++ input.receivedBytes := by
  have inStep := intact.inStep.next stepped
  cases input with
  | output input =>
      have kept := intact.inStep.output.resolve_right intact.notAborted
      rw [ProtocolState.next] at stepped
      obtain ⟨output, moved, rfl⟩ := Option.map_eq_some_iff.mp stepped
      have filled := intact.filled.next kept.1.linked (noEmpty input rfl) moved
      have keptAfter := kept.next (kept.admits intact.filled moved) moved
      exact ⟨⟨inStep, filled.1, keptAfter.lossless.asserted⟩, filled.2,
        (List.append_nil _).symm⟩
  | read | recv | readPacket =>
      obtain ⟨keeps, received, _⟩ :=
        intact.inStep.goesOn (fun _ => ProtocolInput.noConfusion) stepped
      refine ⟨⟨inStep, intact.filled.keep keeps, ?_⟩, ?_, received⟩
      · rw [keeps.point]
        exact intact.notAborted
      · rw [keeps.accepted]
        exact (List.append_nil _).symm

end Protocol

end StreamBuffer
end OpenRTI
