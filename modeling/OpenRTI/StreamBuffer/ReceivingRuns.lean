import OpenRTI.StreamBuffer.ReceivingBuffers
import OpenRTI.Foundation.Reassembly

/-!
# Runs of the receiving of buffers

The bytes in the nodes up to the input iterator are what has come in of the packet that is
being read.  So what the protocol is given is what a consumer of the stream is given,
however the socket cuts the stream and whatever is written meanwhile.
-/

namespace OpenRTI
namespace StreamBuffer

open Foundation (Octet Assembly Consumer)

section Runs

variable {σ ε : Type}

/-! ## The packet that is read -/

/-- A protocol as the consumer of a stream. -/
def PacketReader.consumer (packetReader : PacketReader σ ε) :
    Consumer Octet σ ε where
  consume buffers reader :=
    match packetReader.readPacket buffers reader with
    | .error failure => .error failure
    | .ok (requests, reader) =>
        .ok (requests.map ReadRequest.size,
          packetReader.finish requests.isEmpty reader)

theorem PacketReader.consume_eq_ok
    {packetReader : PacketReader σ ε} {buffers : List (List Octet)}
    {requests : List ReadRequest} {before after : σ}
    (read : packetReader.readPacket buffers before = .ok (requests, after)) :
    packetReader.consumer.consume buffers before =
      .ok (requests.map ReadRequest.size,
        packetReader.finish requests.isEmpty after) := by
  rw [consumer]
  dsimp only
  rw [read]

/-- What a consumer that goes on has read. -/
theorem PacketReader.exists_of_consume
    {packetReader : PacketReader σ ε} {before after : Assembly Octet σ}
    (consumed : before.consume packetReader.consumer = .ok after) :
    ∃ requests reader,
      packetReader.readPacket before.pieces before.state =
          .ok (requests, reader) ∧
        after.state = packetReader.finish requests.isEmpty reader := by
  rw [Assembly.consume, consumer] at consumed
  dsimp only at consumed
  cases read : packetReader.readPacket before.pieces before.state with
  | error failure =>
      rw [read] at consumed
      cases consumed
  | ok value =>
      obtain ⟨requests, reader⟩ := value
      refine ⟨requests, reader, rfl, ?_⟩
      rw [read] at consumed
      dsimp only at consumed
      split at consumed
      · cases consumed
      · cases consumed
        rw [Assembly.proceed]
        split
        · rfl
        · rfl

/-- The nodes of the input buffer hold what has come in of the packet. -/
structure Assembles
    (state : ProtocolState σ)
    (assembly : Assembly Octet σ) : Prop where
  apart : Apart state
  filled : ∀ node ∈ state.inputBuffer, state.size node ≠ 0
  sizes : assembly.sizes = state.inputBuffer.map state.size
  reader : assembly.state = state.reader
  behind : ∃ nodes, nodes <:+ state.inputBuffer ∧
    state.inputIterator.At state.size nodes ∧
    state.inputBuffer.flatMap state.contents = assembly.elements ++
      ByteIterator.bytesFrom state.contents nodes state.inputIterator.offset

variable {packetReader : PacketReader σ ε}
variable {state before after : ProtocolState σ} {assembly : Assembly Octet σ}

variable {nodes : List Nat} {contents : Nat → List Octet}

/-- The number of bytes in nodes without an empty one. -/
theorem unbrokenFrom_eq
    {offset : Nat}
    (filled : ∀ node ∈ nodes, (contents node).length ≠ 0) :
    ByteIterator.unbrokenFrom (fun node => (contents node).length) nodes offset =
      (ByteIterator.bytesFrom contents nodes offset).length := by
  have whole : nodes.takeWhile (fun node => (contents node).length ≠ 0) =
      nodes := by
    apply List.takeWhile_eq_self_iff.mpr
    intro node member
    exact decide_eq_true (filled node member)
  rw [ByteIterator.unbrokenFrom, whole, ByteIterator.bytesFrom,
    List.length_drop, List.length_flatMap]

/-- There are bytes behind an iterator that is at a node. -/
theorem bytesFrom_eq_nil_iff
    {iterator : ByteIterator Nat}
    (filled : ∀ node ∈ nodes, (contents node).length ≠ 0)
    (at_ : iterator.At (fun node => (contents node).length) nodes) :
    ByteIterator.bytesFrom contents nodes iterator.offset = [] ↔
      iterator = .byteEnd := by
  rw [ByteIterator.at_end_iff at_]
  constructor
  · intro none
    cases nodes with
    | nil => rfl
    | cons node nodes =>
        rw [ByteIterator.bytesFrom_cons] at none
        have part := List.drop_eq_nil_iff.mp (List.append_eq_nil_iff.mp none).1
        have some := filled node List.mem_cons_self
        obtain start | ⟨other, same, below⟩ := at_.offset
        · omega
        · cases same
          omega
  · rintro rfl
    exact List.drop_nil

theorem Assembles.length_eq (assembles : Assembles state assembly) :
    assembly.sizes.sum = assembly.elements.length +
      (state.inputIterator.bytes state.contents state.inputBuffer).length := by
  obtain ⟨nodes, ends, at_, same⟩ := assembles.behind
  have nodup := (List.nodup_append.mp assembles.apart.nodup).1
  rw [ByteIterator.bytes, ByteIterator.nodes_eq nodup ends at_,
    ← List.length_append, ← same, List.length_flatMap, assembles.sizes]
  rfl

theorem Assembles.full_iff (assembles : Assembles state assembly) :
    assembly.Full ↔ state.inputIterator = .byteEnd := by
  obtain ⟨nodes, ends, at_, same⟩ := assembles.behind
  have nodup := (List.nodup_append.mp assembles.apart.nodup).1
  rw [← bytesFrom_eq_nil_iff
      (fun node member => assembles.filled node (ends.subset member)) at_,
    Assembly.Full, assembles.length_eq, ByteIterator.bytes,
    ByteIterator.nodes_eq nodup ends at_, ← List.length_eq_zero_iff]
  omega

theorem Assembles.waiting_iff (assembles : Assembles state assembly) :
    assembly.Waiting ↔ state.inputIterator ≠ .byteEnd := by
  rw [Ne, ← assembles.full_iff, Assembly.Waiting, Assembly.Full,
    assembles.length_eq]
  omega

/-- The buffers are given to the protocol when they are full. -/
theorem Assembles.pieces_eq
    (assembles : Assembles state assembly)
    (atEnd : state.inputIterator = .byteEnd) :
    assembly.pieces = state.inputBuffer.map state.contents := by
  obtain ⟨nodes, ends, at_, same⟩ := assembles.behind
  have none := (bytesFrom_eq_nil_iff
    (fun node member => assembles.filled node (ends.subset member)) at_).mpr atEnd
  rw [none, List.append_nil, List.flatMap_def] at same
  rw [Assembly.pieces, assembles.sizes, ← same]
  have sizes : state.inputBuffer.map state.size =
      (state.inputBuffer.map state.contents).map List.length := by
    rw [List.map_map]
    rfl
  rw [sizes, Assembly.splitLengths_flatten]

/-! ## Steps -/

/-- Where the loop of read stands. -/
def Stopped
    (packetReader : PacketReader σ ε)
    (readPoint : ReadPoint)
    (assembly : Assembly Octet σ) : Prop :=
  match readPoint with
  | .outside => True
  | .receiving => assembly.Waiting
  | .parsing => assembly.Full
  | .thrown => assembly.Full ∧ ∃ failure,
      assembly.consume packetReader.consumer = .error (.failure failure)
  | .aborted => assembly.Full ∧
      assembly.consume packetReader.consumer = .error .emptyPiece

/-- The protocol goes on from one packet that it assembles to another one with some
bytes. -/
structure GoesOn
    (packetReader : PacketReader σ ε)
    (before after : ProtocolState σ)
    (assembly : Assembly Octet σ)
    (bytes : List Octet) : Prop where
  keeps : KeepsOutput before.toOutputState after.toOutputState
  received : after.received = before.received ++ bytes
  reads : ∃ final, Assembly.Reads packetReader.consumer assembly bytes final ∧
    Assembles after final ∧ Stopped packetReader after.readPoint final

theorem Assembles.at_point
    (assembles : Assembles state assembly) (readPoint : ReadPoint) :
    Assembles { state with readPoint } assembly :=
  { assembles with apart := { assembles.apart with } }

theorem Assembles.receiveLoop (assembles : Assembles state assembly) :
    Assembles state.receiveLoop assembly ∧
      Stopped packetReader state.receiveLoop.readPoint assembly := by
  refine ⟨assembles.at_point _, ?_⟩
  rw [ProtocolState.receiveLoop]
  dsimp only
  split
  next atEnd => exact assembles.full_iff.mpr atEnd
  next more => exact assembles.waiting_iff.mpr more

theorem Assembles.readLoop (assembles : Assembles state assembly) :
    Assembles (state.readLoop packetReader) assembly ∧
      Stopped packetReader (state.readLoop packetReader).readPoint assembly := by
  rw [ProtocolState.readLoop]
  split
  · exact assembles.receiveLoop
  · exact ⟨assembles.at_point _, trivial⟩

theorem keepsOutput_readLoop (state : ProtocolState σ) :
    KeepsOutput state.toOutputState
      (state.readLoop packetReader).toOutputState ∧
      (state.readLoop packetReader).received = state.received := by
  rw [ProtocolState.readLoop]
  split
  · exact ⟨KeepsOutput.refl _, rfl⟩
  · exact ⟨KeepsOutput.refl _, rfl⟩

/-- The output side takes a step. -/
theorem Assembles.frames
    {output : OutputState}
    (assembles : Assembles state assembly)
    (frames : Frames state.toOutputState output) (linked : Linked output) :
    Assembles { state with toOutputState := output } assembly := by
  have nodup := assembles.apart.nodup
  have apart := List.nodup_append.mp nodup
  have fresh := assembles.apart.fresh
  have contents : ∀ node ∈ state.inputBuffer,
      output.contents node = state.contents node := by
    intro node member
    apply frames.contents node _ (fresh node member)
    intro other
    exact apart.2.2 node member node other rfl
  have size : ∀ node ∈ state.inputBuffer, output.size node = state.size node :=
    fun node member => congrArg List.length (contents node member)
  refine ⟨⟨linked, ?_, ?_, assembles.apart.scratch, assembles.apart.atEnd⟩, ?_,
    ?_, assembles.reader, ?_⟩
  · refine List.nodup_append.mpr ⟨apart.1, linked.nodup, ?_⟩
    intro node member other otherMember same
    subst same
    obtain old | new := frames.owned node otherMember
    · exact apart.2.2 node member node old rfl
    · have below := fresh node member
      omega
  · intro node member
    exact (fresh node member).trans_le frames.nextNode
  · intro node member
    change output.size node ≠ 0
    rw [size node member]
    exact assembles.filled node member
  · rw [assembles.sizes]
    exact (List.map_congr_left size).symm
  · obtain ⟨nodes, ends, at_, same⟩ := assembles.behind
    refine ⟨nodes, ends, ⟨at_.listIterator, at_.offset.imp_right ?_⟩, ?_⟩
    · rintro ⟨node, head, below⟩
      refine ⟨node, head, ?_⟩
      change _ < output.size node
      rw [size node (ends.subset (List.mem_of_mem_head? head))]
      exact below
    · change state.inputBuffer.flatMap output.contents = assembly.elements ++
        ByteIterator.bytesFrom output.contents nodes state.inputIterator.offset
      rw [List.flatMap_congr contents, same, ByteIterator.bytesFrom,
        ByteIterator.bytesFrom,
        List.flatMap_congr fun node member => contents node (ends.subset member)]

/-- The socket delivers bytes that there is room for. -/
theorem Assembles.receive
    {data : List Octet}
    (assembles : Assembles state assembly)
    (fits : data.length ≤ state.room) :
    GoesOn packetReader state (state.receive data) assembly data := by
  have full := assembles.length_eq
  obtain ⟨nodes, ends, at_, same⟩ := assembles.behind
  have apart := assembles.apart
  have nodup := List.nodup_append.mp apart.nodup
  have nodes_eq := ByteIterator.nodes_eq nodup.1 ends at_
  rw [ProtocolState.room] at fits
  have room := fits
  rw [ByteIterator.bytes, nodes_eq] at room
  obtain ⟨lengths, others, stored⟩ :=
    store_spec (ends.sublist.nodup nodup.1) at_.offset room
  generalize held : ProtocolState.store nodes state.inputIterator.offset data
    state.contents = contents at lengths others stored
  have lengths : ∀ node, (contents node).length = state.size node := lengths
  have size : (fun node => (contents node).length) = state.size := funext lengths
  have filled : ∀ node ∈ nodes, (state.contents node).length ≠ 0 :=
    fun node member => assembles.filled node (ends.subset member)
  obtain ⟨iterator, rest, incremented, endsRest, atRest, left⟩ :=
    ByteIterator.incrementFrom_ok lengths at_.offset (by
        change data.length ≤ ByteIterator.unbrokenFrom
          (fun node => (state.contents node).length) nodes _
        rw [unbrokenFrom_eq filled]
        exact room)
  obtain ⟨skipped, endsSkipped, atSkipped, leftSkipped⟩ :=
    ByteIterator.skipEmptyChunks_spec lengths nodup.1 (endsRest.trans ends)
      atRest
  let after := { state with
    contents
    received := state.received ++ data
    inputIterator := iterator.skipEmptyChunks state.size state.inputBuffer }
  have received : state.receive data = after.receiveLoop := by
    have moved : ByteIterator.increment
        { state with contents, received := state.received ++ data }.size
        state.inputBuffer data.length state.inputIterator = .ok iterator := by
      change ByteIterator.increment (fun node => (contents node).length) _ _ _ = _
      rw [size, ByteIterator.increment, nodes_eq]
      exact incremented
    rw [ProtocolState.receive, nodes_eq, held]
    dsimp only
    rw [moved]
    dsimp only
    change ({ state with
      contents
      received := state.received ++ data
      inputIterator := iterator.skipEmptyChunks
        (fun node => (contents node).length) state.inputBuffer
      } : ProtocolState σ).receiveLoop = _
    rw [size]
  have outputs : ∀ node ∈ state.outputBuffer,
      contents node = state.contents node := by
    intro node member
    apply others
    intro input
    exact nodup.2.2 node (ends.subset input) node
      (List.mem_append_left _ member) rfl
  have assemblesAfter : Assembles after (assembly.append data) := by
    refine ⟨{ apart with linked := { apart.linked with }, atEnd := ?_ }, ?_, ?_,
      assembles.reader, skipped, endsSkipped, ?_, ?_⟩
    · intro none
      have nothing : skipped = [] :=
        List.head?_eq_none_iff.mp (atSkipped.listIterator.symm.trans none)
      exact congrArg ByteIterator.offset
        ((ByteIterator.at_end_iff atSkipped).mpr nothing)
    · intro node member
      change (contents node).length ≠ 0
      rw [lengths]
      exact assembles.filled node member
    · change assembly.sizes = state.inputBuffer.map _
      rw [assembles.sizes]
      exact congrArg (List.map · state.inputBuffer) size.symm
    · change ByteIterator.At (fun node => (contents node).length) _ _
      rw [size]
      exact atSkipped
    · change state.inputBuffer.flatMap contents =
        (assembly.elements ++ data) ++
          ByteIterator.bytesFrom contents skipped _
      obtain ⟨front, whole⟩ := ends
      have apartFront : ∀ node ∈ front, contents node = state.contents node := by
        intro node member
        apply others
        intro inside
        have distinct := nodup.1
        rw [← whole] at distinct
        exact (List.nodup_append.mp distinct).2.2 node member node inside rfl
      have below : state.inputIterator.offset ≤
          (nodes.flatMap state.contents).length := by
        obtain start | ⟨node, head, below⟩ := at_.offset
        · rw [start]
          exact Nat.zero_le _
        · obtain ⟨more, rfl⟩ := List.head?_eq_some_iff.mp head
          rw [List.flatMap_cons, List.length_append]
          change _ < (state.contents node).length at below
          omega
      have elements : assembly.elements = front.flatMap state.contents ++
          (nodes.flatMap state.contents).take state.inputIterator.offset := by
        rw [← whole, List.flatMap_append,
          ← List.take_append_drop state.inputIterator.offset
            (nodes.flatMap state.contents), ← List.append_assoc] at same
        exact (List.append_cancel_right same).symm
      have start : ((nodes.flatMap state.contents).take
          state.inputIterator.offset).length = state.inputIterator.offset :=
        List.length_take_of_le below
      have dropped : ByteIterator.bytesFrom contents skipped
          (iterator.skipEmptyChunks state.size state.inputBuffer).offset =
          (ByteIterator.bytesFrom state.contents nodes
            state.inputIterator.offset).drop data.length := by
        have behind : ByteIterator.bytesFrom contents nodes
            state.inputIterator.offset = data ++
              (ByteIterator.bytesFrom state.contents nodes
                state.inputIterator.offset).drop data.length := by
          change (nodes.flatMap contents).drop _ = _
          rw [stored, List.append_assoc, List.drop_left' start]
        rw [leftSkipped, left, behind, List.drop_left]
      rw [dropped, ← whole, List.flatMap_append, List.flatMap_congr apartFront,
        stored, elements]
      simp only [List.append_assoc]
  rw [received]
  refine ⟨⟨rfl, rfl, rfl, rfl, rfl, outputs⟩, rfl, assembly.append data, ?_, ?_⟩
  · apply Assembly.Reads.append
    rw [full]
    omega
  · exact assemblesAfter.receiveLoop

/-- With no bytes the protocol assembles the start of a packet. -/
theorem Clears.assembles (clears : Clears before after) :
    Assembles after (.start after.reader) := by
  refine ⟨clears.apart, ?_, ?_, rfl, [], List.nil_suffix, ?_, ?_⟩
  · intro node member
    rw [clears.inputBuffer] at member
    exact absurd member List.not_mem_nil
  · rw [clears.inputBuffer]
    rfl
  · rw [clears.inputIterator]
    exact ⟨rfl, Or.inl rfl⟩
  · rw [clears.inputBuffer, clears.inputIterator]
    rfl

/-- The buffers that are appended are the further pieces of the packet. -/
theorem Assembles.appendsInput
    {sizes : List Nat}
    (assembles : Assembles before assembly)
    (atEnd : before.inputIterator = .byteEnd)
    (appends : AppendsInput before after nodes sizes)
    (filled : 0 ∉ sizes) :
    Assembles after
      ⟨assembly.sizes ++ sizes, assembly.elements, before.reader⟩ := by
  have same : ∀ node ∈ before.inputBuffer, after.size node = before.size node :=
    fun node member => congrArg List.length (appends.contents node member)
  have iterator : after.inputIterator = .byteBegin nodes := by
    rw [appends.inputIterator, if_pos atEnd]
  refine ⟨appends.apart, ?_, ?_, appends.reader.symm, nodes, ?_, ?_, ?_⟩
  · intro node member
    rw [appends.inputBuffer] at member
    obtain old | new := List.mem_append.mp member
    · rw [same node old]
      exact assembles.filled node old
    · intro empty
      apply filled
      rw [← appends.sizes, ← empty]
      exact List.mem_map_of_mem new
  · rw [appends.inputBuffer, List.map_append, appends.sizes,
      List.map_congr_left same, ← assembles.sizes]
  · rw [appends.inputBuffer]
    exact List.suffix_append _ _
  · rw [iterator]
    exact ⟨rfl, Or.inl rfl⟩
  · obtain ⟨rest, ends, at_, elements⟩ := assembles.behind
    have none := (bytesFrom_eq_nil_iff
      (fun node member => assembles.filled node (ends.subset member)) at_).mpr
        atEnd
    rw [none, List.append_nil] at elements
    rw [appends.inputBuffer, List.flatMap_append,
      List.flatMap_congr appends.contents, elements, iterator]
    rfl

/-- All buffers are full. -/
theorem Assembles.readPacket
    (assembles : Assembles state assembly) (full : assembly.Full) :
    GoesOn packetReader state (state.readPacket packetReader) assembly [] := by
  have atEnd := assembles.full_iff.mp full
  have pieces := assembles.pieces_eq atEnd
  have stop (stop : ReadPoint)
      (stopped : Stopped packetReader stop assembly) :
      GoesOn packetReader state { state with readPoint := stop } assembly [] :=
    ⟨KeepsOutput.refl _, (List.append_nil _).symm, assembly, .done assembly,
      assembles.at_point stop, stopped⟩
  rw [ProtocolState.readPacket]
  cases result : packetReader.readPacket (state.inputBuffer.map state.contents)
      state.reader with
  | error failure =>
      refine stop .thrown ⟨full, failure, ?_⟩
      rw [Assembly.consume, pieces, assembles.reader, PacketReader.consumer]
      dsimp only
      rw [result]
  | ok value =>
      obtain ⟨requests, reader⟩ := value
      have consumed : assembly.consume packetReader.consumer =
          if 0 ∈ requests.map ReadRequest.size then .error .emptyPiece
          else .ok (assembly.proceed (requests.map ReadRequest.size)
            (packetReader.finish requests.isEmpty reader)) := by
        rw [Assembly.consume, pieces, assembles.reader,
          PacketReader.consume_eq_ok result]
      dsimp only
      have started : Assembles { state with reader }
          { assembly with state := reader } :=
        { assembles with
          apart := { assembles.apart with }
          reader := rfl }
      obtain ⟨empty, refused⟩ | ⟨filled, between, nodes, requested, appends⟩ :=
        request_spec started.apart
      · rw [refused]
        rw [if_pos empty] at consumed
        exact stop .aborted ⟨full, consumed⟩
      · rw [requested]
        rw [if_neg filled] at consumed
        have assembled := started.appendsInput atEnd appends filled
        have iterator : between.inputIterator = .byteBegin nodes := by
          rw [appends.inputIterator, if_pos atEnd]
        have iff : between.inputIterator = .byteEnd ↔ requests = [] := by
          rw [← List.map_eq_nil_iff, ← appends.sizes, List.map_eq_nil_iff,
            iterator, ByteIterator.byteBegin, ByteIterator.byteEnd,
            ByteIterator.mk.injEq, List.head?_eq_none_iff]
          exact and_iff_left rfl
        have complete : between.getInputBufferComplete = requests.isEmpty := by
          rw [ProtocolState.getInputBufferComplete, Bool.eq_iff_iff,
            decide_eq_true_iff, List.isEmpty_iff]
          exact iff
        dsimp only
        rw [complete, appends.reader]
        dsimp only
        let finished := { between with
          reader := packetReader.finish requests.isEmpty reader }
        have apart : Apart finished := { appends.apart with }
        have keeps : KeepsOutput state.toOutputState finished.toOutputState :=
          appends.keeps
        have received : finished.received = state.received := appends.received
        change GoesOn packetReader state
          (if between.inputIterator = .byteEnd then
            finished.clearInput.readLoop packetReader
          else finished.readLoop packetReader) assembly []
        by_cases empty : requests = []
        · rw [if_pos (iff.mpr empty)]
          have clears := clears_clearInput apart
          have loop := @keepsOutput_readLoop _ _ packetReader finished.clearInput
          refine ⟨(keeps.trans clears.keeps).trans loop.1, ?_,
            .start finished.reader, ?_, ?_⟩
          · rw [loop.2, clears.received, received, List.append_nil]
          · apply Assembly.Reads.consume full consumed
            rw [Assembly.proceed, if_pos (List.map_eq_nil_iff.mpr empty)]
            exact .done _
          · rw [← clears.reader]
            exact clears.assembles.readLoop
        · rw [if_neg (mt iff.mp empty)]
          have loop := @keepsOutput_readLoop _ _ packetReader finished
          have assembledNext : Assembles finished
              ⟨assembly.sizes ++ requests.map ReadRequest.size,
                assembly.elements, finished.reader⟩ :=
            { assembled with
              apart
              reader := rfl }
          refine ⟨keeps.trans loop.1, ?_, _, ?_, assembledNext.readLoop⟩
          · rw [loop.2, received, List.append_nil]
          · apply Assembly.Reads.consume full consumed
            rw [Assembly.proceed, if_neg (mt List.map_eq_nil_iff.mp empty)]
            exact .done _

/-! ## Runs -/

/-- The bytes of all buffers that have been added to the output side. -/
def addedBytes (bytes : List Octet) : ProtocolInput → List Octet
  | .output input => added bytes input
  | .read | .recv _ | .readPacket => bytes

/-- The bytes that an input delivers. -/
def ProtocolInput.receivedBytes : ProtocolInput → List Octet
  | .recv (.received data) => data
  | .output _ | .read | .recv .wouldBlock | .recv .endOfFile | .readPacket => []

/-- The output side keeps the bytes that have been added unless an assertion of it has
failed, and the input side has read the bytes that have been received. -/
structure InStep
    (packetReader : PacketReader σ ε)
    (reader : σ)
    (state : ProtocolState σ)
    (bytes : List Octet) : Prop where
  output : Kept state.toOutputState bytes ∨ state.point = .aborted
  input : ∃ assembly,
    Assembly.Reads packetReader.consumer (.start reader) state.received
      assembly ∧
    Assembles state assembly ∧ Stopped packetReader state.readPoint assembly

theorem point_sendLoop (state : OutputState) :
    state.sendLoop.point ≠ .aborted := by
  rw [OutputState.sendLoop]
  split
  · change (if state.finishPacket.getOutputBufferComplete then WritePoint.enabling
      else .starting) ≠ _
    split
    · exact WritePoint.noConfusion
    · exact WritePoint.noConfusion
  · exact WritePoint.noConfusion

variable {bytes : List Octet}

/-- A step of the output side keeps its nodes apart, also where an assertion fails. -/
theorem Kept.next_or_aborted
    {before after : OutputState} {input : WriteInput}
    (kept : Kept before bytes)
    (stepped : before.next input = some after) :
    Linked after ∧ (Kept after (added bytes input) ∨ after.point = .aborted) := by
  by_cases admits : Admits before input
  · have keeps := kept.next admits stepped
    exact ⟨keeps.1.linked, Or.inl keeps⟩
  · obtain ⟨count, rfl, broken⟩ := exists_of_not_admits admits
    obtain ⟨offered, rfl⟩ := next_sent stepped
    have aborted := kept.1.sent_aborted offered broken
    refine ⟨?_, Or.inr aborted⟩
    rw [OutputState.sent] at aborted ⊢
    dsimp only at aborted ⊢
    split at aborted
    · exact { kept.1.linked with }
    · exact absurd aborted (point_sendLoop _)

variable {input : ProtocolInput}

/-- A step of the input side goes on with the bytes that are received. -/
theorem Assembles.next
    (assembles : Assembles before assembly)
    (stopped : Stopped packetReader before.readPoint assembly)
    (ofInput : ∀ output, input ≠ .output output)
    (stepped : before.next packetReader input = some after) :
    GoesOn packetReader before after assembly input.receivedBytes := by
  cases input with
  | output input => exact absurd rfl (ofInput input)
  | read =>
      rw [ProtocolState.next] at stepped
      split at stepped
      next =>
        cases stepped
        have loop := @keepsOutput_readLoop _ _ packetReader before
        refine ⟨loop.1, ?_, assembly, .done assembly, assembles.readLoop⟩
        rw [loop.2]
        exact (List.append_nil _).symm
      next => cases stepped
  | recv result =>
      cases result with
      | wouldBlock | endOfFile =>
          rw [ProtocolState.next] at stepped
          split at stepped
          next =>
            cases stepped
            exact ⟨KeepsOutput.refl _, (List.append_nil _).symm, assembly,
              .done assembly, assembles.at_point _, trivial⟩
          next => cases stepped
      | received data =>
          rw [ProtocolState.next] at stepped
          split at stepped
          next =>
            split at stepped
            next fits =>
              cases stepped
              exact assembles.receive fits.2
            next => cases stepped
          next => cases stepped
  | readPacket =>
      rw [ProtocolState.next] at stepped
      split at stepped
      next point =>
        cases stepped
        rw [point] at stopped
        exact assembles.readPacket stopped
      next => cases stepped

variable {reader : σ}

/-- A step of the input side leaves the output side alone. -/
theorem InStep.goesOn
    (inStep : InStep packetReader reader before bytes)
    (ofInput : ∀ output, input ≠ .output output)
    (stepped : before.next packetReader input = some after) :
    KeepsOutput before.toOutputState after.toOutputState ∧
      after.received = before.received ++ input.receivedBytes ∧
      InStep packetReader reader after bytes := by
  obtain ⟨assembly, reads, assembles, stopped⟩ := inStep.input
  have goesOn := assembles.next stopped ofInput stepped
  obtain ⟨final, further, assemblesAfter, stoppedAfter⟩ := goesOn.reads
  refine ⟨goesOn.keeps, goesOn.received, ?_, final, ?_, assemblesAfter,
    stoppedAfter⟩
  · obtain kept | aborted := inStep.output
    · exact Or.inl (kept.keep goesOn.keeps assemblesAfter.apart.linked)
    · exact Or.inr (goesOn.keeps.point.trans aborted)
  · rw [goesOn.received]
    exact reads.trans further

theorem InStep.next
    (inStep : InStep packetReader reader before bytes)
    (stepped : before.next packetReader input = some after) :
    InStep packetReader reader after (addedBytes bytes input) := by
  cases input with
  | output input =>
      obtain ⟨assembly, reads, assembles, stopped⟩ := inStep.input
      rw [ProtocolState.next] at stepped
      obtain ⟨output, moved, rfl⟩ := Option.map_eq_some_iff.mp stepped
      obtain kept | aborted := inStep.output
      · obtain ⟨linked, keeps⟩ := kept.next_or_aborted moved
        exact ⟨keeps, assembly, reads,
          assembles.frames (frames_next kept.1.linked moved) linked, stopped⟩
      · rw [OutputState.next.eq_def, aborted] at moved
        cases input with
        | add | write | getMoreToSend | sendBufferSize | writePacket | send =>
            cases moved
  | read | recv | readPacket =>
      exact (inStep.goesOn (fun _ => ProtocolInput.noConfusion) stepped).2.2

theorem inStep_initial (reader : σ) :
    InStep packetReader reader (.initial reader) [] := by
  refine ⟨Or.inl ⟨⟨Linked.initial, [], List.suffix_rfl, ⟨rfl, Or.inl rfl⟩, rfl⟩,
    trivial⟩, .start reader, .done _, ?_, trivial⟩
  refine ⟨⟨Linked.initial, List.nodup_nil, ?_, List.Sublist.refl [],
    fun _ => rfl⟩, ?_, rfl, rfl, [], List.suffix_rfl, ⟨rfl, Or.inl rfl⟩, rfl⟩
  · exact fun _ absent => absurd absent List.not_mem_nil
  · exact fun _ absent => absurd absent List.not_mem_nil

/-- A run reads what it receives, and keeps what it adds. -/
theorem inStep_run
    {inputs : List ProtocolInput} {final : ProtocolState σ}
    (ran : (ProtocolState.system packetReader reader).run (.initial reader)
      inputs = some final) :
    InStep packetReader reader final (inputs.foldl addedBytes []) := by
  induction inputs using List.reverseRecOn generalizing final with
  | nil =>
      cases ran
      exact inStep_initial reader
  | append_singleton inputs input ih =>
      rw [Foundation.TransitionSystem.run_concat] at ran
      obtain ⟨before, ran, stepped⟩ := Option.bind_eq_some_iff.mp ran
      rw [List.foldl_append]
      exact (ih ran).next stepped

/-! ## Bytes and how they come in -/

/-- The bytes in front of the input iterator. -/
def ProtocolState.held (state : ProtocolState σ) : List Octet :=
  let bytes := state.inputBuffer.flatMap state.contents
  bytes.take (bytes.length - state.room)

theorem Assembles.held_eq (assembles : Assembles state assembly) :
    state.held = assembly.elements := by
  obtain ⟨nodes, ends, at_, same⟩ := assembles.behind
  have nodup := (List.nodup_append.mp assembles.apart.nodup).1
  have room : state.room = (ByteIterator.bytesFrom state.contents nodes
      state.inputIterator.offset).length := by
    rw [ProtocolState.room, ByteIterator.bytes,
      ByteIterator.nodes_eq nodup ends at_]
  rw [ProtocolState.held, same, room, List.length_append, Nat.add_sub_cancel,
    List.take_left]

/-- Where a protocol has come to does not depend on how the bytes come in, nor on what
is written meanwhile.  If some bytes lead one run to wait for more, then no run that
has received a part of them has failed, and a run that has received all of them and
waits for more holds the same packet. -/
theorem read_eq
    {reader : σ}
    {firstInputs secondInputs : List ProtocolInput}
    {first second : ProtocolState σ}
    (firstRan : (ProtocolState.system packetReader reader).run
      (.initial reader) firstInputs = some first)
    (secondRan : (ProtocolState.system packetReader reader).run
      (.initial reader) secondInputs = some second)
    (waits : first.getInputBufferComplete = false)
    (begins : second.received <+: first.received) :
    second.readPoint ≠ .thrown ∧ second.readPoint ≠ .aborted ∧
      (second.received = first.received →
        second.getInputBufferComplete = false →
        second.reader = first.reader ∧
          second.inputBuffer.map second.size = first.inputBuffer.map first.size ∧
          second.held = first.held) := by
  obtain ⟨firstAssembly, firstReads, firstAssembles, _⟩ :=
    (inStep_run firstRan).input
  obtain ⟨secondAssembly, secondReads, secondAssembles, stopped⟩ :=
    (inStep_run secondRan).input
  have waiting : firstAssembly.Waiting :=
    firstAssembles.waiting_iff.mpr (of_decide_eq_false waits)
  obtain ⟨rest, whole⟩ := begins
  have goesOn (stop : Consumer.Stop ε) (full : secondAssembly.Full) :
      secondAssembly.consume packetReader.consumer ≠ .error stop :=
    secondReads.consume_ne_error (whole ▸ firstReads) waiting full stop
  refine ⟨?_, ?_, ?_⟩
  · intro thrown
    rw [thrown] at stopped
    obtain ⟨full, failure, failed⟩ := stopped
    exact goesOn _ full failed
  · intro aborted
    rw [aborted] at stopped
    exact goesOn _ stopped.1 stopped.2
  · intro same waitsToo
    have secondWaiting : secondAssembly.Waiting :=
      secondAssembles.waiting_iff.mpr (of_decide_eq_false waitsToo)
    have equal : secondAssembly = firstAssembly :=
      (same ▸ secondReads).unique firstReads secondWaiting waiting
    refine ⟨?_, ?_, ?_⟩
    · rw [← secondAssembles.reader, ← firstAssembles.reader, equal]
    · rw [← secondAssembles.sizes, ← firstAssembles.sizes, equal]
    · rw [secondAssembles.held_eq, firstAssembles.held_eq, equal]

end Runs

/-- Packets of a number of octets and that many octets. -/
def countedPackets : PacketReader (List (List Octet)) Failure where
  getEnableRead _ := true
  readPacket
    | [], packets => .ok ([.addScratchReadBuffer 1], packets)
    | [count], packets =>
        .ok ([.addReadBuffer (count.headD 0).toNat], packets)
    | _ :: bodies, packets => .ok ([], packets ++ bodies)
  finish _ packets := packets

/-- A packet of two octets that come in together. -/
def together : List ProtocolInput :=
  [.read, .readPacket, .recv (.received [2]), .readPacket,
    .recv (.received [7, 8]), .readPacket, .readPacket]

/-- The two octets come in one by one, with a call that adds a buffer in between. -/
def oneByOne : List ProtocolInput :=
  [.read, .readPacket, .recv (.received [2]), .readPacket,
    .recv (.received [7]), .recv .wouldBlock,
    .output (.add [.addScratchWriteBuffer, .fill 0 [5]]), .read,
    .recv (.received [8]), .readPacket, .readPacket]

theorem read_eq_counted :
    ∃ first second,
      (ProtocolState.system countedPackets []).run (.initial []) together =
          some first ∧
        (ProtocolState.system countedPackets []).run (.initial []) oneByOne =
          some second ∧
        first.reader = [[7, 8]] ∧ second.reader = first.reader := by
  have firstRan : (ProtocolState.system countedPackets []).run (.initial [])
      together = some _ := rfl
  have secondRan : (ProtocolState.system countedPackets []).run (.initial [])
      oneByOne = some _ := rfl
  have same := read_eq firstRan secondRan rfl List.prefix_rfl
  exact ⟨_, _, firstRan, secondRan, rfl, (same.2.2 rfl rfl).1⟩

end StreamBuffer
end OpenRTI
