import OpenRTI.StreamBuffer.Sending

/-!
# Runs of the sending of buffers

The bytes that the socket has accepted and those that are behind the output iterator
are the bytes that have been added, in order.  This is kept as long as the socket
accepts no bytes from behind an empty buffer.
-/

namespace OpenRTI
namespace StreamBuffer

open Foundation (Octet)

/-! ## Nodes -/

/-- A node is in one place, and the scratch buffers are nodes of the buffer. -/
structure Linked (state : OutputState) : Prop where
  nodup : (state.outputBuffer ++ state.scratchPool).Nodup
  fresh : ∀ node ∈ state.outputBuffer ++ state.scratchPool,
    node < state.nextNode
  scratch : state.outputScratchBufferList.Sublist state.outputBuffer
  atEnd : state.outputIterator.listIterator = none →
    state.outputIterator.offset = 0

/-- A node with a value is appended to the buffer. -/
structure Appends
    (before after : OutputState)
    (node : Nat)
    (value : List Octet) : Prop where
  linked : Linked after
  absent : node ∉ before.outputBuffer
  outputBuffer : after.outputBuffer = before.outputBuffer ++ [node]
  contents : after.contents = Function.update before.contents node value
  outputIterator : after.outputIterator =
    if before.outputIterator = .byteEnd then ⟨some node, 0⟩
    else before.outputIterator
  accepted : after.accepted = before.accepted
  point : after.point = before.point

variable {state : OutputState}

theorem Linked.listIterator_eq_none_iff (linked : Linked state) :
    state.outputIterator.listIterator = none ↔
      state.outputIterator = .byteEnd := by
  constructor
  · intro atEnd
    have start := linked.atEnd atEnd
    cases iterator : state.outputIterator
    rw [iterator] at atEnd start
    cases atEnd
    cases start
    rfl
  · intro same
    rw [same]
    rfl

/-- A new first node stands for itself if there has been none. -/
theorem listIterator_ite
    {node : Nat} {iterator : ByteIterator Nat}
    (atEnd : iterator.listIterator = none → iterator.offset = 0) :
    (if iterator = .byteEnd then ⟨some node, 0⟩ else iterator :
        ByteIterator Nat).listIterator = none →
      (if iterator = .byteEnd then ⟨some node, 0⟩ else iterator :
        ByteIterator Nat).offset = 0 := by
  split
  · intro absent
    cases absent
  · exact atEnd

theorem appends_addWriteBuffer
    (linked : Linked state)
    {value : List Octet}
    (filled : value ≠ []) :
    Appends state (state.addWriteBuffer value) state.nextNode value := by
  have fresh : ∀ node ∈ state.outputBuffer ++ state.scratchPool,
      node ≠ state.nextNode := fun node member =>
    Nat.ne_of_lt (linked.fresh node member)
  have absent : state.nextNode ∉ state.outputBuffer := fun member =>
    fresh _ (List.mem_append_left _ member) rfl
  have absentPool : state.nextNode ∉ state.scratchPool := fun member =>
    fresh _ (List.mem_append_right _ member) rfl
  rw [OutputState.addWriteBuffer, if_neg filled]
  refine ⟨⟨?_, ?_, ?_, ?_⟩, absent, rfl, rfl, rfl, rfl, rfl⟩
  · have nodup := linked.nodup
    change ((state.outputBuffer ++ [state.nextNode]) ++ state.scratchPool).Nodup
    grind
  · intro node member
    have below := linked.fresh node
    change node < state.nextNode + 1
    change node ∈ (state.outputBuffer ++ [state.nextNode]) ++ state.scratchPool
      at member
    grind
  · exact linked.scratch.trans (List.sublist_append_left _ _)
  · exact listIterator_ite linked.atEnd

/-- A node is spliced that was in the pool or is a new one. -/
theorem appends_spliceScratch
    {before : OutputState} {node : Nat}
    (nodup : (before.outputBuffer ++ [node] ++ before.scratchPool).Nodup)
    (fresh : ∀ other ∈ before.outputBuffer ++ [node] ++ before.scratchPool,
      other < before.nextNode)
    (scratch : before.outputScratchBufferList.Sublist before.outputBuffer)
    (atEnd : before.outputIterator.listIterator = none ↔
      before.outputIterator = .byteEnd) :
    Appends before (before.spliceScratch node) node [] := by
  have absent : node ∉ before.outputBuffer := by
    grind
  have same : (if before.outputIterator.listIterator = none then ⟨some node, 0⟩
      else before.outputIterator : ByteIterator Nat) =
      if before.outputIterator = .byteEnd then ⟨some node, 0⟩
      else before.outputIterator := by
    simp only [atEnd]
  refine ⟨⟨nodup, fresh, ?_, ?_⟩, absent, rfl, rfl, same, rfl, rfl⟩
  · exact scratch.append (List.Sublist.refl [node])
  · change (if before.outputIterator.listIterator = none then ⟨some node, 0⟩
      else before.outputIterator : ByteIterator Nat).listIterator = none → _
    rw [same]
    change _ → (if before.outputIterator.listIterator = none then ⟨some node, 0⟩
      else before.outputIterator : ByteIterator Nat).offset = 0
    rw [same]
    apply listIterator_ite
    intro none
    rw [atEnd.mp none]
    rfl

theorem appends_addScratchWriteBuffer (linked : Linked state) :
    Appends state state.addScratchWriteBuffer.1
      state.addScratchWriteBuffer.2 [] := by
  have nodup := linked.nodup
  have fresh := linked.fresh
  rw [OutputState.addScratchWriteBuffer]
  cases pool : state.scratchPool with
  | cons node scratchPool =>
      rw [pool] at nodup fresh
      have appends := @appends_spliceScratch { state with scratchPool } node
        (by simpa using nodup) (by simpa using fresh) linked.scratch
        linked.listIterator_eq_none_iff
      exact { appends with }
  | nil =>
      rw [pool] at nodup fresh
      have appends := @appends_spliceScratch
        { state with nextNode := state.nextNode + 1, scratchPool := [] }
        state.nextNode
        (by
          change (state.outputBuffer ++ [state.nextNode] ++ []).Nodup
          grind)
        (by
          change ∀ other ∈ state.outputBuffer ++ [state.nextNode] ++ [],
            other < state.nextNode + 1
          grind)
        linked.scratch linked.listIterator_eq_none_iff
      exact { appends with }

/-! ## Packets -/

/-- The nodes that a packet appends hold its buffers, the scratch buffers that it
has added before are filled, and all else stays. -/
structure Writes
    (before after : OutputState)
    (scratch : List Nat)
    (operations : List WriteOperation)
    (nodes : List Nat) : Prop where
  linked : Linked after
  outputBuffer : after.outputBuffer = before.outputBuffer ++ nodes
  outputIterator : after.outputIterator =
    if before.outputIterator = .byteEnd then .byteBegin nodes
    else before.outputIterator
  bytes : nodes.flatMap after.contents =
    (packetBuffers scratch.length operations).flatten
  filled : ∀ index node, scratch[index]? = some node →
    after.contents node =
      (lastFill index operations).getD (before.contents node)
  others : ∀ node ∈ before.outputBuffer, node ∉ scratch →
    after.contents node = before.contents node
  accepted : after.accepted = before.accepted
  point : after.point = before.point

variable {after : OutputState} {operations : List WriteOperation}

/-- What is written after a node has been appended. -/
theorem Appends.writes
    {before between : OutputState} {node : Nat}
    {value content : List Octet} {scratch scratchAfter nodes : List Nat}
    {operation : WriteOperation}
    (appends : Appends before between node value)
    (writes : Writes between after scratchAfter operations nodes)
    (members : ∀ other ∈ scratch, other ∈ before.outputBuffer)
    (held : after.contents node = content)
    (buffers : packetBuffers scratch.length (operation :: operations) =
      content :: packetBuffers scratchAfter.length operations)
    (fills : ∀ index, lastFill index (operation :: operations) =
      lastFill index operations)
    (same : ∀ (index other : Nat), scratch[index]? = some other →
      scratchAfter[index]? = some other)
    (added : ∀ other ∈ scratchAfter, other ∈ scratch ∨ other = node) :
    Writes before after scratch (operation :: operations) (node :: nodes) where
  linked := writes.linked
  outputBuffer := by
    rw [writes.outputBuffer, appends.outputBuffer, List.append_assoc,
      List.singleton_append]
  outputIterator := by
    rw [writes.outputIterator, appends.outputIterator]
    by_cases atEnd : before.outputIterator = .byteEnd
    · rw [if_pos atEnd, if_pos atEnd, if_neg (by simp [ByteIterator.byteEnd])]
      rfl
    · rw [if_neg atEnd, if_neg atEnd, if_neg atEnd]
  bytes := by
    rw [List.flatMap_cons, held, writes.bytes, buffers, List.flatten_cons]
  filled := by
    intro index other found
    have different : other ≠ node := by
      intro equal
      exact appends.absent
        (equal ▸ members other (List.mem_of_getElem? found))
    rw [writes.filled index other (same index other found), fills,
      appends.contents, Function.update_of_ne different]
  others := by
    intro other member notScratch
    have different : other ≠ node := fun equal =>
      appends.absent (equal ▸ member)
    rw [writes.others other
        (appends.outputBuffer ▸ List.mem_append_left _ member)
        fun inside => (added other inside).elim notScratch different,
      appends.contents, Function.update_of_ne different]
  accepted := writes.accepted.trans appends.accepted
  point := writes.point.trans appends.point

theorem writes_writePacket
    {scratch : List Nat} {before : OutputState}
    (linked : Linked before) (distinct : scratch.Nodup)
    (members : ∀ node ∈ scratch, node ∈ before.outputBuffer)
    (written : before.writePacket operations scratch = some after) :
    ∃ nodes, Writes before after scratch operations nodes := by
  induction operations generalizing scratch before with
  | nil =>
      cases written
      refine ⟨[], linked, (List.append_nil _).symm, ?_, rfl, ?_, ?_, rfl, rfl⟩
      · split
        next atEnd => exact atEnd
        next => rfl
      · intro index node found
        rfl
      · intro node member notScratch
        rfl
  | cons operation operations ih =>
      cases operation with
      | addWriteBuffer value =>
          rw [OutputState.writePacket] at written
          by_cases empty : value = []
          · rw [OutputState.addWriteBuffer, if_pos empty] at written
            obtain ⟨nodes, writes⟩ :=
              ih linked distinct members written
            refine ⟨nodes, { writes with bytes := ?_ }⟩
            rw [writes.bytes, packetBuffers, empty, List.flatten_cons,
              List.nil_append]
          · have appends := appends_addWriteBuffer linked empty
            have membersAfter : ∀ node ∈ scratch,
                node ∈ (before.addWriteBuffer value).outputBuffer := by
              intro node member
              rw [appends.outputBuffer]
              exact List.mem_append_left _ (members node member)
            obtain ⟨nodes, writes⟩ := ih appends.linked
              distinct membersAfter written
            refine ⟨_, appends.writes writes members ?_ rfl
              (fun index => rfl) (fun _ _ found => found)
              fun _ member => Or.inl member⟩
            rw [writes.others before.nextNode
                (by rw [appends.outputBuffer]; simp)
                fun member => appends.absent (members _ member),
              appends.contents, Function.update_self]
      | addScratchWriteBuffer =>
          rw [OutputState.writePacket] at written
          have appends := appends_addScratchWriteBuffer linked
          have notMember : before.addScratchWriteBuffer.2 ∉ scratch :=
            fun member => appends.absent (members _ member)
          have membersAfter : ∀ node ∈
              scratch ++ [before.addScratchWriteBuffer.2],
              node ∈ before.addScratchWriteBuffer.1.outputBuffer := by
            intro node member
            rw [appends.outputBuffer]
            obtain old | new := List.mem_append.mp member
            · exact List.mem_append_left _ (members node old)
            · exact List.mem_append_right _ new
          obtain ⟨nodes, writes⟩ := ih appends.linked
            (by grind) membersAfter written
          have held := writes.filled scratch.length
            before.addScratchWriteBuffer.2 (by simp)
          rw [appends.contents, Function.update_self] at held
          refine ⟨_, appends.writes writes members held ?_
            (fun index => rfl) ?_ ?_⟩
          · rw [packetBuffers, List.length_append]
            rfl
          · intro index other found
            rw [List.getElem?_append_left
              (List.getElem?_eq_some_iff.mp found).1]
            exact found
          · intro other member
            simpa using member
      | fill index value =>
          rw [OutputState.writePacket] at written
          obtain ⟨node, found, written⟩ := Option.bind_eq_some_iff.mp written
          obtain ⟨nodes, writes⟩ := @ih scratch
            (before.setContents node value) { linked with } distinct members
            written
          refine ⟨nodes, { writes with bytes := ?_, filled := ?_, others := ?_ }⟩
          · exact writes.bytes
          · intro other otherNode otherFound
            rw [writes.filled other otherNode otherFound, lastFill]
            change (lastFill other operations).getD
              (Function.update before.contents node value otherNode) = _
            by_cases same : index = other
            · subst same
              cases found.symm.trans otherFound
              rw [if_pos rfl, Function.update_self]
              cases lastFill index operations <;> rfl
            · have different : otherNode ≠ node := by
                intro equal
                subst equal
                exact same ((List.getElem?_inj
                  (List.getElem?_eq_some_iff.mp found).1
                  distinct).mp (found.trans otherFound.symm))
              rw [if_neg same, Function.update_of_ne different, Option.or_none]
          · intro other member notScratch
            rw [writes.others other member notScratch]
            apply Function.update_of_ne
            intro equal
            subst equal
            exact notScratch (List.mem_of_getElem? found)

/-! ## Invariant -/

/-- The bytes that have been accepted and those behind the output iterator are the
bytes that have been added. -/
structure Sends (state : OutputState) (bytes : List Octet) : Prop where
  linked : Linked state
  behind : ∃ nodes, nodes <:+ state.outputBuffer ∧
    state.outputIterator.At state.size nodes ∧
    state.accepted ++ ByteIterator.bytesFrom state.contents nodes
      state.outputIterator.offset = bytes

variable {bytes : List Octet}

/-- At the end of the buffer all has been accepted. -/
theorem Sends.accepted_eq
    (sends : Sends state bytes)
    (atEnd : state.outputIterator = .byteEnd) :
    state.accepted = bytes := by
  obtain ⟨nodes, _, at_, same⟩ := sends.behind
  rw [(ByteIterator.at_end_iff at_).mp atEnd, ByteIterator.bytesFrom,
    List.flatMap_nil, List.drop_nil, List.append_nil] at same
  exact same

theorem Sends.offered_eq
    (sends : Sends state bytes) :
    state.accepted ++ state.offered = bytes := by
  obtain ⟨nodes, ends, at_, same⟩ := sends.behind
  have nodup := (List.nodup_append.mp sends.linked.nodup).1
  rw [OutputState.offered, ByteIterator.bytes,
    ByteIterator.nodes_eq nodup ends at_]
  exact same

theorem bytesFrom_append
    {contents : Nat → List Octet} {size : Nat → Nat}
    (sized : ∀ node, (contents node).length = size node)
    {iterator : ByteIterator Nat} {first : List Nat}
    (at_ : iterator.At size first) (second : List Nat) :
    ByteIterator.bytesFrom contents (first ++ second) iterator.offset =
      ByteIterator.bytesFrom contents first iterator.offset ++
        second.flatMap contents := by
  rw [ByteIterator.bytesFrom, List.flatMap_append,
    List.drop_append_of_le_length]
  · rfl
  · obtain start | ⟨node, head, below⟩ := at_.offset
    · rw [start]
      exact Nat.zero_le _
    · cases first with
      | nil => cases head
      | cons other first =>
          cases head
          rw [List.flatMap_cons, List.length_append, sized]
          omega

/-- A packet adds its bytes behind those that are not yet accepted. -/
theorem Sends.writePacket
    (sends : Sends state bytes)
    (written : state.writePacket operations [] = some after) :
    Sends after (bytes ++ packetBytes operations) := by
  obtain ⟨nodes, writes⟩ := writes_writePacket sends.linked List.nodup_nil
    (fun _ absent => absurd absent List.not_mem_nil) written
  refine ⟨writes.linked, ?_⟩
  obtain ⟨first, ends, at_, same⟩ := sends.behind
  have kept : ∀ node ∈ first, after.contents node = state.contents node :=
    fun node member => writes.others node (ends.subset member)
      List.not_mem_nil
  have added : nodes.flatMap after.contents = packetBytes operations :=
    writes.bytes
  have at_ : state.outputIterator.At after.size first := by
    refine ⟨at_.listIterator, at_.offset.imp_right ?_⟩
    rintro ⟨node, head, below⟩
    refine ⟨node, head, ?_⟩
    rw [OutputState.size, kept node (List.mem_of_mem_head? head)]
    exact below
  have offset : after.outputIterator.offset = state.outputIterator.offset := by
    rw [writes.outputIterator]
    split
    next atEnd => rw [atEnd]; rfl
    next => rfl
  refine ⟨first ++ nodes, ?_, ?_, ?_⟩
  · rw [writes.outputBuffer]
    obtain ⟨front, whole⟩ := ends
    exact ⟨front, by rw [← whole, List.append_assoc]⟩
  · rw [writes.outputIterator]
    split
    next atEnd =>
      rw [(ByteIterator.at_end_iff at_).mp atEnd]
      exact ⟨rfl, Or.inl rfl⟩
    next different =>
      cases first with
      | nil => exact absurd ((ByteIterator.at_end_iff at_).mpr rfl) different
      | cons node first => exact ⟨at_.listIterator, at_.offset⟩
  · have before : ByteIterator.bytesFrom after.contents first
        state.outputIterator.offset =
          ByteIterator.bytesFrom state.contents first
            state.outputIterator.offset := by
      rw [ByteIterator.bytesFrom, List.flatMap_congr kept]
      rfl
    rw [offset, bytesFrom_append (fun _ => rfl) at_ nodes, before, added,
      writes.accepted, ← List.append_assoc, same]

/-! ## Resetting -/

theorem scratchPool_recycle (state : OutputState) :
    state.recycle.scratchPool =
        state.scratchPool ++ state.outputScratchBufferList ∧
      state.recycle.nextNode = state.nextNode ∧
      state.recycle.accepted = state.accepted ∧
      state.recycle.point = state.point := by
  suffices ∀ (nodes : List Nat) (state : OutputState),
      let after := nodes.foldl (fun state node =>
        { state with
          scratchPool := state.scratchPool ++ [node]
          outputBuffer := state.outputBuffer.erase node }) state
      after.scratchPool = state.scratchPool ++ nodes ∧
        after.nextNode = state.nextNode ∧
        after.accepted = state.accepted ∧ after.point = state.point from
    this state.outputScratchBufferList state
  intro nodes
  induction nodes with
  | nil => exact fun state => ⟨(List.append_nil _).symm, rfl, rfl, rfl⟩
  | cons node nodes ih =>
      intro state
      obtain ⟨pool, rest⟩ := ih
        { state with
          scratchPool := state.scratchPool ++ [node]
          outputBuffer := state.outputBuffer.erase node }
      refine ⟨pool.trans ?_, rest⟩
      change (state.scratchPool ++ [node]) ++ nodes = _
      rw [List.append_assoc]
      rfl

theorem Sends.finishPacket
    (sends : Sends state bytes)
    (atEnd : state.outputIterator = .byteEnd) :
    Sends state.finishPacket bytes := by
  obtain ⟨pool, nextNode, accepted, _⟩ := scratchPool_recycle state
  have nodup := sends.linked.nodup
  have fresh := sends.linked.fresh
  have members : ∀ node ∈ state.outputScratchBufferList,
      node ∈ state.outputBuffer := fun _ => (sends.linked.scratch.subset ·)
  have distinct := sends.linked.scratch.nodup (List.nodup_append.mp nodup).1
  refine ⟨⟨?_, ?_, List.Sublist.refl [], fun _ => rfl⟩,
    [], List.suffix_rfl, ⟨rfl, Or.inl rfl⟩, ?_⟩
  · change state.recycle.scratchPool.Nodup
    rw [pool]
    grind
  · change ∀ node ∈ state.recycle.scratchPool, node < state.recycle.nextNode
    rw [pool, nextNode]
    intro node member
    obtain pooled | scratch := List.mem_append.mp member
    · exact fresh node (List.mem_append_right _ pooled)
    · exact fresh node (List.mem_append_left _ (members node scratch))
  · change state.recycle.accepted ++ [] = bytes
    rw [accepted, List.append_nil]
    exact sends.accepted_eq atEnd

/-! ## Steps -/

/-- At a point where all is sent there is nothing behind the output iterator. -/
def Stands (state : OutputState) : Prop :=
  match state.point with
  | .aborted => False
  | .outside true | .enabling => state.outputIterator = .byteEnd
  | _ => True

/-- The state of a run that has added the bytes and has not failed. -/
def Kept (state : OutputState) (bytes : List Octet) : Prop :=
  Sends state bytes ∧ Stands state

theorem Sends.at_point
    (sends : Sends state bytes) (point : WritePoint) :
    Sends { state with point } bytes :=
  ⟨{ sends.linked with }, sends.behind⟩

theorem Sends.loop
    (sends : Sends state bytes) :
    Kept state.loop bytes := by
  refine ⟨sends.at_point _, ?_⟩
  unfold Stands OutputState.loop OutputState.getOutputBufferComplete
  by_cases complete : state.outputIterator = .byteEnd
  · simp [complete]
  · simp [complete]

theorem Sends.sendLoop
    (sends : Sends state bytes) :
    Kept state.sendLoop bytes := by
  rw [OutputState.sendLoop]
  split
  next atEnd => exact (sends.finishPacket atEnd).loop
  next => exact ⟨sends.at_point _, trivial⟩

/-- No bytes are accepted from behind an empty buffer. -/
def Admits (state : OutputState) : WriteInput → Prop
  | .send (.sent count) =>
      count ≤ state.outputIterator.unbroken state.size state.outputBuffer
  | _ => True

theorem exists_of_not_admits
    {input : WriteInput}
    (refused : ¬ Admits state input) :
    ∃ count, input = .send (.sent count) ∧
      ¬ count ≤ state.outputIterator.unbroken state.size state.outputBuffer := by
  cases input with
  | send result =>
      cases result with
      | error | wouldBlock => exact absurd trivial refused
      | sent count => exact ⟨count, rfl, refused⟩
  | add | write | getMoreToSend | sendBufferSize | writePacket =>
      exact absurd trivial refused

variable {count : Nat}

theorem Sends.sent
    (sends : Sends state bytes)
    (unbroken : count ≤
      state.outputIterator.unbroken state.size state.outputBuffer) :
    Kept (state.sent count) bytes := by
  have offered := sends.offered_eq
  obtain ⟨nodes, ends, at_, same⟩ := sends.behind
  have nodup := (List.nodup_append.mp sends.linked.nodup).1
  have nodes_eq := ByteIterator.nodes_eq nodup ends at_
  have sized : ∀ node, (state.contents node).length = state.size node :=
    fun _ => rfl
  rw [ByteIterator.unbroken, nodes_eq] at unbroken
  obtain ⟨iterator, after, incremented, endsAfter, atAfter, left⟩ :=
    ByteIterator.incrementFrom_ok sized at_.offset unbroken
  obtain ⟨skipped, endsSkipped, atSkipped, leftSkipped⟩ :=
    ByteIterator.skipEmptyChunks_spec sized nodup (endsAfter.trans ends)
      atAfter
  have moved : ∀ accepted, state.outputIterator.increment
      { state with accepted }.size state.outputBuffer count =
        .ok iterator := by
    intro accepted
    rw [ByteIterator.increment, nodes_eq]
    exact incremented
  let after := { state with
    accepted := state.accepted ++ state.offered.take count
    outputIterator := iterator.skipEmptyChunks state.size state.outputBuffer }
  have sent : state.sent count = after.sendLoop := by
    simp only [OutputState.sent, moved]
    rfl
  rw [sent]
  apply Sends.sendLoop
  refine ⟨{ sends.linked with atEnd := ?_ }, skipped, endsSkipped, atSkipped, ?_⟩
  · intro none
    have nothing : skipped = [] :=
      List.head?_eq_none_iff.mp (atSkipped.listIterator.symm.trans none)
    exact congrArg ByteIterator.offset
      ((ByteIterator.at_end_iff atSkipped).mpr nothing)
  · change state.accepted ++ state.offered.take count ++
      ByteIterator.bytesFrom state.contents skipped _ = bytes
    rw [leftSkipped, left, ← offered, List.append_assoc]
    congr 1
    rw [OutputState.offered, ByteIterator.bytes, nodes_eq]
    exact List.take_append_drop count _

/-- Where bytes are accepted from behind an empty buffer, the assertion fails. -/
theorem Sends.sent_aborted
    (sends : Sends state bytes)
    (offered : count ≤ state.offered.length)
    (broken : ¬ count ≤
      state.outputIterator.unbroken state.size state.outputBuffer) :
    (state.sent count).point = .aborted := by
  obtain ⟨nodes, ends, at_, same⟩ := sends.behind
  have nodup := (List.nodup_append.mp sends.linked.nodup).1
  have nodes_eq := ByteIterator.nodes_eq nodup ends at_
  rw [ByteIterator.unbroken, nodes_eq] at broken
  rw [OutputState.offered, ByteIterator.bytes, nodes_eq] at offered
  have failed := ByteIterator.incrementFrom_fails
    (fun node => (rfl : (state.contents node).length = state.size node))
    (Nat.lt_of_not_le broken) offered
  have moved : ∀ accepted, state.outputIterator.increment
      { state with accepted }.size state.outputBuffer count =
        .error .assertion := by
    intro accepted
    rw [ByteIterator.increment, nodes_eq]
    exact failed
  simp only [OutputState.sent, moved]

theorem next_sent
    (stepped : state.next (.send (.sent count)) = some after) :
    count ≤ state.offered.length ∧ state.sent count = after := by
  rw [OutputState.next] at stepped
  split at stepped
  next =>
    change (if _ then _ else _) = _ at stepped
    split at stepped
    next offered => exact ⟨offered.2, Option.some.inj stepped⟩
    next => cases stepped
  next => cases stepped

/-- A step that meets the condition keeps what has been accepted and what is behind
the output iterator in step with what has been added. -/
theorem Kept.next
    {input : WriteInput}
    (kept : Kept state bytes) (admits : Admits state input)
    (stepped : state.next input = some after) :
    Kept after (added bytes input) := by
  obtain ⟨sends, stands⟩ := kept
  cases input with
  | add operations =>
      rw [OutputState.next] at stepped
      split at stepped
      next =>
        obtain ⟨state', written, rfl⟩ := Option.map_eq_some_iff.mp stepped
        exact ⟨(sends.writePacket written).at_point _, trivial⟩
      next => cases stepped
  | write =>
      rw [OutputState.next] at stepped
      split at stepped
      next =>
        cases stepped
        exact sends.loop
      next => cases stepped
  | getMoreToSend more =>
      rw [OutputState.next] at stepped
      split at stepped
      next standing =>
        cases stepped
        refine ⟨sends.at_point _, ?_⟩
        unfold Stands at stands
        rw [standing] at stands
        cases more with
        | true => trivial
        | false => exact stands
      next =>
        split at stepped
        · cases stepped
          exact ⟨sends.at_point _, trivial⟩
        · cases stepped
          exact sends.sendLoop
      next => cases stepped
  | sendBufferSize kMaxBufferSize =>
      rw [OutputState.next] at stepped
      split at stepped
      next =>
        cases stepped
        refine ⟨sends.at_point _, ?_⟩
        unfold Stands
        by_cases empty : state.outputBuffer = []
        · simp [empty]
        · simp [empty]
      next => cases stepped
  | writePacket operations =>
      rw [OutputState.next] at stepped
      split at stepped
      next =>
        obtain ⟨state', written, rfl⟩ := Option.map_eq_some_iff.mp stepped
        exact ⟨(sends.writePacket written).at_point _, trivial⟩
      next => cases stepped
  | send result =>
      cases result with
      | error | wouldBlock =>
          rw [OutputState.next] at stepped
          split at stepped
          next =>
            cases stepped
            exact ⟨sends.at_point _, trivial⟩
          next => cases stepped
      | sent count =>
          obtain ⟨_, rfl⟩ := next_sent stepped
          exact sends.sent admits

/-- What the socket has accepted is the start of what has been added, and all of it
when there is nothing more to send, and no assertion has failed. -/
structure Lossless (state : OutputState) (bytes : List Octet) : Prop where
  asserted : state.point ≠ .aborted
  accepted : state.accepted <+: bytes
  finished : state.point = .outside true → state.accepted = bytes

theorem Kept.lossless
    (kept : Kept state bytes) :
    Lossless state bytes := by
  obtain ⟨sends, stands⟩ := kept
  refine ⟨?_, ⟨state.offered, sends.offered_eq⟩, ?_⟩
  · intro aborted
    unfold Stands at stands
    rw [aborted] at stands
    exact stands
  · intro finished
    unfold Stands at stands
    rw [finished] at stands
    exact sends.accepted_eq stands

theorem Linked.initial : Linked .initial where
  nodup := List.nodup_nil
  fresh := fun _ absent => absurd absent List.not_mem_nil
  scratch := List.Sublist.refl []
  atEnd := fun _ => rfl

/-- In all states of a run what the socket has accepted is the start of what has been
added, in order, and all of it when there is nothing more to send, and no assertion
fails, exactly if the socket accepts no bytes from behind an empty buffer. -/
theorem lossless_iff (inputs : List WriteInput) :
    (∀ past, past <+: inputs → ∀ after,
      OutputState.system.run .initial past = some after →
      Lossless after (past.foldl added [])) ↔
      ∀ past input before,
        past ++ [input] <+: inputs →
        OutputState.system.run .initial past = some before →
        (OutputState.next before input).isSome →
        Admits before input := by
  let kept (state : Option OutputState) bytes :=
    ∀ after, state = some after → Kept after bytes
  let good (state : Option OutputState) bytes :=
    ∀ after, state = some after → Lossless after bytes
  let admits (before : OutputState) input :=
    (OutputState.next before input).isSome → Admits before input
  refine @Foundation.TransitionSystem.good_iff_admits _ _ _
    OutputState.system added [] kept good admits ?_ ?_ ?_ ?_ inputs
  · rintro after same
    cases same
    exact ⟨⟨Linked.initial, [], List.suffix_rfl, ⟨rfl, Or.inl rfl⟩, rfl⟩,
      trivial⟩
  · intro state bytes keeps after same
    exact (keeps after same).lossless
  · intro state bytes input keeps admitted after stepped
    obtain ⟨before, same, stepped⟩ := Option.bind_eq_some_iff.mp stepped
    exact (keeps before same).next
      (admitted before same (Option.isSome_of_eq_some stepped)) stepped
  · intro before bytes input keeps refused lossless
    obtain ⟨stepped, refused⟩ := Classical.not_imp.mp refused
    obtain ⟨after, stepped⟩ := Option.isSome_iff_exists.mp stepped
    obtain ⟨count, rfl, broken⟩ := exists_of_not_admits refused
    obtain ⟨offered, rfl⟩ := next_sent stepped
    exact (lossless _ stepped).asserted
      ((keeps before rfl).1.sent_aborted offered broken)

/-- A packet of a scratch buffer that stays empty and of a buffer of one byte, which
is sent. -/
def emptyScratch : List WriteInput :=
  [.write, .getMoreToSend true, .sendBufferSize 100,
    .writePacket [.addScratchWriteBuffer, .addWriteBuffer [1]],
    .getMoreToSend false, .send (.sent 1)]

/-- The assertion fails when the byte is accepted. -/
theorem lossless_fails :
    ¬ ∀ past, past <+: emptyScratch → ∀ after,
      OutputState.system.run .initial past = some after →
      Lossless after (past.foldl added []) := by
  intro holds
  exact (holds emptyScratch List.prefix_rfl _ rfl).asserted rfl

end StreamBuffer
end OpenRTI
