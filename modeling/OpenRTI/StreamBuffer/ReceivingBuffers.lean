import OpenRTI.StreamBuffer.Receiving
import OpenRTI.StreamBuffer.SendingRuns

/-!
# Buffers of both sides

The nodes of the input buffer, of the output buffer and of the pool are apart.  So what
the input side does is not seen by the output side, and the other way round.
-/

namespace OpenRTI
namespace StreamBuffer

open Foundation (Octet)

/-! ## Storing -/

/-- What is written over the end of a list and the beginning of the next one. -/
theorem overwrite_append
    {β : Type} {value : List β}
    {offset : Nat}
    (below : offset ≤ value.length)
    (data rest : List β) :
    value.take offset ++ data.take (value.length - offset) ++
        value.drop (offset + (data.take (value.length - offset)).length) ++
        (data.drop (value.length - offset) ++
          rest.drop (data.drop (value.length - offset)).length) =
      (value ++ rest).take offset ++ data ++
        ((value ++ rest).drop offset).drop data.length := by
  rw [List.take_append_of_le_length below, List.drop_append_of_le_length below,
    List.drop_append, List.length_drop, List.drop_drop, List.length_drop,
    List.length_take]
  by_cases fits : data.length ≤ value.length - offset
  · rw [List.take_of_length_le fits, List.drop_of_length_le fits,
      Nat.min_eq_right fits, Nat.sub_eq_zero_of_le fits]
    simp
  · have more := Nat.le_of_not_le fits
    have past : value.drop (offset + (value.length - offset)) = [] :=
      List.drop_of_length_le (by omega)
    have passed : value.drop (offset + data.length) = [] :=
      List.drop_of_length_le (by omega)
    rw [Nat.min_eq_left more, past, passed, List.append_nil, List.nil_append,
      List.append_assoc, List.append_assoc]
    rw [← List.append_assoc (data.take _), List.take_append_drop]

/-- The bytes that come in are stored from the offset in the first node on.  The
induction is on the nodes. -/
theorem store_spec
    {nodes : List Nat} {offset : Nat}
    {data : List Octet} {contents : Nat → List Octet}
    (nodup : nodes.Nodup)
    (inside : offset = 0 ∨
      ∃ node ∈ nodes.head?, offset < (contents node).length)
    (room : data.length ≤
      (ByteIterator.bytesFrom contents nodes offset).length) :
    (∀ node, (ProtocolState.store nodes offset data contents node).length =
        (contents node).length) ∧
      (∀ node, node ∉ nodes →
        ProtocolState.store nodes offset data contents node = contents node) ∧
      nodes.flatMap (ProtocolState.store nodes offset data contents) =
        (nodes.flatMap contents).take offset ++ data ++
          (ByteIterator.bytesFrom contents nodes offset).drop data.length := by
  induction nodes generalizing offset data contents with
  | nil =>
      have none : data = [] := by
        rw [ByteIterator.bytesFrom, List.flatMap_nil, List.drop_nil] at room
        exact List.eq_nil_of_length_eq_zero (Nat.le_zero.mp room)
      rw [none]
      refine ⟨fun _ => rfl, fun _ _ => rfl, ?_⟩
      simp [ByteIterator.bytesFrom]
  | cons node rest ih =>
      obtain ⟨absent, restNodup⟩ := List.nodup_cons.mp nodup
      have below : offset ≤ (contents node).length := by
        obtain start | ⟨other, same, below⟩ := inside
        · omega
        · cases same
          exact below.le
      let value := contents node
      let part := data.take (value.length - offset)
      let after := Function.update contents node
        (value.take offset ++ part ++ value.drop (offset + part.length))
      have partLength : part.length ≤ value.length - offset :=
        List.length_take_le _ _
      have afterLength : ∀ other, (after other).length =
          (contents other).length := by
        intro other
        by_cases same : other = node
        · subst same
          change (Function.update contents other _ other).length = _
          rw [Function.update_self]
          simp only [List.length_append, List.length_take, List.length_drop]
          change _ = value.length
          have := below
          change offset ≤ value.length at this
          omega
        · change (Function.update contents node _ other).length = _
          rw [Function.update_of_ne same]
      have afterRest : ∀ other ∈ rest, after other = contents other := by
        intro other member
        apply Function.update_of_ne
        exact fun same => absent (same ▸ member)
      have restBytes : rest.flatMap after = rest.flatMap contents :=
        List.flatMap_congr afterRest
      rw [ByteIterator.bytesFrom_cons, Nat.sub_eq_zero_of_le below,
        List.length_append, List.length_drop] at room
      obtain ⟨lengths, others, stored⟩ := @ih 0
        (data.drop (value.length - offset)) after restNodup (Or.inl rfl) (by
          rw [ByteIterator.bytesFrom, restBytes, List.length_drop]
          change data.length ≤ value.length - offset + _ at room
          rw [ByteIterator.bytesFrom] at room
          omega)
      refine ⟨fun other => (lengths other).trans (afterLength other), ?_, ?_⟩
      · intro other notMember
        obtain ⟨different, notRest⟩ := not_or.mp
          (mt List.mem_cons.mpr notMember)
        exact (others other notRest).trans (Function.update_of_ne different _ _)
      · have head : ProtocolState.store (node :: rest) offset data contents
            node = value.take offset ++ part ++
              value.drop (offset + part.length) :=
          (others node absent).trans (Function.update_self _ _ _)
        have tail : rest.flatMap
            (ProtocolState.store (node :: rest) offset data contents) =
            data.drop (value.length - offset) ++
              (rest.flatMap contents).drop
                (data.drop (value.length - offset)).length := by
          refine stored.trans ?_
          rw [ByteIterator.bytesFrom, restBytes, List.take_zero,
            List.nil_append, List.drop_zero]
        rw [List.flatMap_cons, head, tail, ByteIterator.bytesFrom,
          List.flatMap_cons]
        exact overwrite_append below data (rest.flatMap contents)

/-! ## What the output side leaves alone -/

/-- The nodes of the output side stay, or are new ones, and the data in all others
stays. -/
structure Frames (before after : OutputState) : Prop where
  nextNode : before.nextNode ≤ after.nextNode
  owned : ∀ node ∈ after.outputBuffer ++ after.scratchPool,
    node ∈ before.outputBuffer ++ before.scratchPool ∨ before.nextNode ≤ node
  contents : ∀ node, node ∉ before.outputBuffer ++ before.scratchPool →
    node < before.nextNode → after.contents node = before.contents node

theorem Frames.refl (state : OutputState) : Frames state state :=
  ⟨Nat.le_refl _, fun _ => Or.inl, fun _ _ _ => rfl⟩

variable {before after : OutputState}

theorem Frames.trans
    {between : OutputState}
    (first : Frames before between) (second : Frames between after) :
    Frames before after where
  nextNode := first.nextNode.trans second.nextNode
  owned := by
    intro node member
    obtain old | new := second.owned node member
    · exact first.owned node old
    · exact Or.inr (first.nextNode.trans new)
  contents := by
    intro node absent old
    have stillAbsent : node ∉ between.outputBuffer ++ between.scratchPool := by
      intro member
      obtain inside | new := first.owned node member
      · exact absent inside
      · omega
    rw [second.contents node stillAbsent (old.trans_le first.nextNode),
      first.contents node absent old]

variable {state : OutputState} {node : Nat}

/-- The data in a node of the output side is set. -/
theorem frames_setContents
    (member : node ∈ state.outputBuffer)
    (value : List Octet) :
    Frames state (state.setContents node value) where
  nextNode := Nat.le_refl _
  owned := fun _ => Or.inl
  contents := by
    intro other absent _
    apply Function.update_of_ne
    intro same
    subst same
    exact absent (List.mem_append_left _ member)

theorem frames_addWriteBuffer (state : OutputState) (value : List Octet) :
    Frames state (state.addWriteBuffer value) := by
  rw [OutputState.addWriteBuffer]
  split
  · exact Frames.refl state
  · refine ⟨Nat.le_succ _, ?_, ?_⟩
    · intro node member
      change node ∈ (state.outputBuffer ++ [state.nextNode]) ++ state.scratchPool
        at member
      grind
    · intro node _ old
      exact Function.update_of_ne (Nat.ne_of_lt old) _ _

theorem frames_addScratchWriteBuffer (state : OutputState) :
    Frames state state.addScratchWriteBuffer.1 := by
  rw [OutputState.addScratchWriteBuffer]
  cases pool : state.scratchPool with
  | cons node scratchPool =>
      refine ⟨Nat.le_refl _, ?_, ?_⟩
      · intro other member
        change other ∈ (state.outputBuffer ++ [node]) ++ scratchPool at member
        grind
      · intro other absent _
        apply Function.update_of_ne
        grind
  | nil =>
      refine ⟨Nat.le_succ _, ?_, ?_⟩
      · intro other member
        change other ∈ (state.outputBuffer ++ [state.nextNode]) ++ [] at member
        grind
      · intro other _ old
        exact Function.update_of_ne (Nat.ne_of_lt old) _ _

/-- A packet fills the scratch buffers that it has added. -/
theorem frames_writePacket
    {operations : List WriteOperation} {scratch : List Nat}
    {before after : OutputState}
    (linked : Linked before)
    (members : ∀ node ∈ scratch, node ∈ before.outputBuffer)
    (written : before.writePacket operations scratch = some after) :
    Frames before after := by
  induction operations generalizing scratch before with
  | nil =>
      cases written
      exact Frames.refl _
  | cons operation operations ih =>
      cases operation with
      | addWriteBuffer value =>
          rw [OutputState.writePacket] at written
          by_cases empty : value = []
          · rw [OutputState.addWriteBuffer, if_pos empty] at written
            exact ih linked members written
          · have appends := appends_addWriteBuffer linked empty
            apply (frames_addWriteBuffer before value).trans
            apply ih appends.linked _ written
            intro node member
            rw [appends.outputBuffer]
            exact List.mem_append_left _ (members node member)
      | addScratchWriteBuffer =>
          rw [OutputState.writePacket] at written
          have appends := appends_addScratchWriteBuffer linked
          apply (frames_addScratchWriteBuffer before).trans
          apply ih appends.linked _ written
          intro node member
          rw [appends.outputBuffer]
          obtain old | new := List.mem_append.mp member
          · exact List.mem_append_left _ (members node old)
          · exact List.mem_append_right _ new
      | fill index value =>
          rw [OutputState.writePacket] at written
          obtain ⟨node, found, written⟩ := Option.bind_eq_some_iff.mp written
          have member := members node (List.mem_of_getElem? found)
          apply (frames_setContents member value).trans
          exact @ih scratch (before.setContents node value)
            { linked with } members written

theorem contents_recycle (state : OutputState) :
    state.recycle.contents = state.contents := by
  rw [OutputState.recycle]
  generalize state.outputScratchBufferList = nodes
  induction nodes generalizing state with
  | nil => rfl
  | cons node nodes ih =>
      rw [List.foldl_cons, ih]

theorem frames_finishPacket
    (scratch : state.outputScratchBufferList.Sublist state.outputBuffer) :
    Frames state state.finishPacket := by
  obtain ⟨pool, nextNode, _⟩ := scratchPool_recycle state
  refine ⟨nextNode.symm.le, ?_, ?_⟩
  · intro node member
    change node ∈ [] ++ state.recycle.scratchPool at member
    rw [pool, List.nil_append] at member
    obtain pooled | used := List.mem_append.mp member
    · exact Or.inl (List.mem_append_right _ pooled)
    · exact Or.inl (List.mem_append_left _ (scratch.subset used))
  · intro node _ _
    exact congrFun (contents_recycle state) node

theorem frames_sendLoop
    {state : OutputState}
    (scratch : state.outputScratchBufferList.Sublist state.outputBuffer) :
    Frames state state.sendLoop := by
  rw [OutputState.sendLoop]
  split
  · exact { frames_finishPacket scratch with }
  · exact { Frames.refl state with }

theorem frames_sent
    (scratch : state.outputScratchBufferList.Sublist state.outputBuffer)
    (count : Nat) :
    Frames state (state.sent count) := by
  rw [OutputState.sent]
  dsimp only
  split
  · exact { Frames.refl state with }
  · next iterator _ =>
    let between := { state with
      accepted := state.accepted ++ state.offered.take count
      outputIterator := iterator.skipEmptyChunks state.size state.outputBuffer }
    exact { @frames_sendLoop between scratch with }

/-- No step of the output side touches a node that is not its own. -/
theorem frames_next
    {input : WriteInput}
    (linked : Linked before)
    (stepped : before.next input = some after) :
    Frames before after := by
  have nothing : ∀ node ∈ ([] : List Nat), node ∈ before.outputBuffer :=
    fun _ absent => absurd absent List.not_mem_nil
  have same := Frames.refl before
  cases input with
  | add operations =>
      rw [OutputState.next] at stepped
      split at stepped
      next =>
        obtain ⟨between, written, rfl⟩ := Option.map_eq_some_iff.mp stepped
        exact { frames_writePacket linked nothing written with }
      next => cases stepped
  | write =>
      rw [OutputState.next] at stepped
      split at stepped
      next =>
        cases stepped
        exact { same with }
      next => cases stepped
  | getMoreToSend more =>
      rw [OutputState.next] at stepped
      split at stepped
      next =>
        cases stepped
        exact { same with }
      next =>
        split at stepped
        · cases stepped
          exact { same with }
        · cases stepped
          exact frames_sendLoop linked.scratch
      next => cases stepped
  | sendBufferSize kMaxBufferSize =>
      rw [OutputState.next] at stepped
      split at stepped
      next =>
        cases stepped
        exact { same with }
      next => cases stepped
  | writePacket operations =>
      rw [OutputState.next] at stepped
      split at stepped
      next =>
        obtain ⟨between, written, rfl⟩ := Option.map_eq_some_iff.mp stepped
        exact { frames_writePacket linked nothing written with }
      next => cases stepped
  | send result =>
      cases result with
      | error | wouldBlock =>
          rw [OutputState.next] at stepped
          split at stepped
          next =>
            cases stepped
            exact { same with }
          next => cases stepped
      | sent count =>
          obtain ⟨_, rfl⟩ := next_sent stepped
          exact frames_sent linked.scratch count

/-! ## What the input side leaves alone -/

/-- The output side is the same, and so is the data in its buffer. -/
structure KeepsOutput (before after : OutputState) : Prop where
  outputBuffer : after.outputBuffer = before.outputBuffer
  outputIterator : after.outputIterator = before.outputIterator
  outputScratchBufferList :
    after.outputScratchBufferList = before.outputScratchBufferList
  accepted : after.accepted = before.accepted
  point : after.point = before.point
  contents : ∀ node ∈ before.outputBuffer,
    after.contents node = before.contents node

theorem KeepsOutput.refl (state : OutputState) : KeepsOutput state state :=
  ⟨rfl, rfl, rfl, rfl, rfl, fun _ _ => rfl⟩

theorem KeepsOutput.trans
    {between : OutputState}
    (first : KeepsOutput before between)
    (second : KeepsOutput between after) :
    KeepsOutput before after where
  outputBuffer := second.outputBuffer.trans first.outputBuffer
  outputIterator := second.outputIterator.trans first.outputIterator
  outputScratchBufferList :=
    second.outputScratchBufferList.trans first.outputScratchBufferList
  accepted := second.accepted.trans first.accepted
  point := second.point.trans first.point
  contents := by
    intro node member
    rw [second.contents node (first.outputBuffer ▸ member),
      first.contents node member]

/-- What is behind the output iterator stays behind it. -/
theorem Kept.keep
    {bytes : List Octet}
    (kept : Kept before bytes) (keeps : KeepsOutput before after)
    (linked : Linked after) :
    Kept after bytes := by
  obtain ⟨sends, stands⟩ := kept
  obtain ⟨nodes, ends, at_, same⟩ := sends.behind
  have contents : ∀ node ∈ nodes, after.contents node = before.contents node :=
    fun node member => keeps.contents node (ends.subset member)
  refine ⟨⟨linked, nodes, ?_, ?_, ?_⟩, ?_⟩
  · rw [keeps.outputBuffer]
    exact ends
  · rw [keeps.outputIterator]
    refine ⟨at_.listIterator, at_.offset.imp_right ?_⟩
    rintro ⟨node, head, below⟩
    refine ⟨node, head, ?_⟩
    rw [OutputState.size, contents node (List.mem_of_mem_head? head)]
    exact below
  · rw [keeps.accepted, keeps.outputIterator, ByteIterator.bytesFrom,
      List.flatMap_congr contents]
    exact same
  · unfold Stands at stands ⊢
    rw [keeps.point, keeps.outputIterator]
    exact stands

/-! ## Asking for buffers -/

section Input

variable {σ : Type}

/-- A node is in one place, and the scratch buffers are nodes of the input buffer. -/
structure Apart (state : ProtocolState σ) : Prop where
  linked : Linked state.toOutputState
  nodup : (state.inputBuffer ++
    (state.outputBuffer ++ state.scratchPool)).Nodup
  fresh : ∀ node ∈ state.inputBuffer, node < state.nextNode
  scratch : state.inputScratchBufferList.Sublist state.inputBuffer
  atEnd : state.inputIterator.listIterator = none →
    state.inputIterator.offset = 0

/-- Nodes are appended to the input buffer, with data of given sizes. -/
structure AppendsInput
    (before after : ProtocolState σ)
    (nodes sizes : List Nat) : Prop where
  apart : Apart after
  keeps : KeepsOutput before.toOutputState after.toOutputState
  inputBuffer : after.inputBuffer = before.inputBuffer ++ nodes
  sizes : nodes.map after.size = sizes
  contents : ∀ node ∈ before.inputBuffer,
    after.contents node = before.contents node
  inputIterator : after.inputIterator =
    if before.inputIterator = .byteEnd then .byteBegin nodes
    else before.inputIterator
  reader : after.reader = before.reader
  received : after.received = before.received
  readPoint : after.readPoint = before.readPoint

variable {before between after : ProtocolState σ}

theorem nodup_append_fresh
    {first second : List Nat}
    (nodup : (first ++ second).Nodup)
    (fresh : node ∉ first ++ second) :
    (first ++ [node] ++ second).Nodup := by
  rw [List.append_assoc, List.singleton_append]
  exact List.perm_middle.nodup_iff.mpr (List.nodup_cons.mpr ⟨fresh, nodup⟩)

theorem AppendsInput.refl (apart : Apart before) :
    AppendsInput before before [] [] where
  apart := apart
  keeps := KeepsOutput.refl _
  inputBuffer := (List.append_nil _).symm
  sizes := rfl
  contents := fun _ _ => rfl
  inputIterator := by
    split
    next atEnd => exact atEnd
    next => rfl
  reader := rfl
  received := rfl
  readPoint := rfl

theorem AppendsInput.trans
    {size : Nat} {nodes sizes : List Nat}
    (first : AppendsInput before between [node] [size])
    (second : AppendsInput between after nodes sizes) :
    AppendsInput before after (node :: nodes) (size :: sizes) where
  apart := second.apart
  keeps := first.keeps.trans second.keeps
  inputBuffer := by
    rw [second.inputBuffer, first.inputBuffer, List.append_assoc,
      List.singleton_append]
  sizes := by
    have member : node ∈ between.inputBuffer := by
      rw [first.inputBuffer]
      exact List.mem_append_right _ List.mem_cons_self
    have sized := List.singleton_inj.mp first.sizes
    rw [List.map_cons, second.sizes, OutputState.size,
      second.contents node member]
    exact congrArg (· :: sizes) sized
  contents := by
    intro other member
    rw [second.contents other (by
        rw [first.inputBuffer]
        exact List.mem_append_left _ member),
      first.contents other member]
  inputIterator := by
    rw [second.inputIterator, first.inputIterator]
    by_cases atEnd : before.inputIterator = .byteEnd
    · rw [if_pos atEnd, if_pos atEnd,
        if_neg (by simp [ByteIterator.byteBegin, ByteIterator.byteEnd])]
      rfl
    · rw [if_neg atEnd, if_neg atEnd, if_neg atEnd]
  reader := second.reader.trans first.reader
  received := second.received.trans first.received
  readPoint := second.readPoint.trans first.readPoint

@[simp] theorem length_resized (size : Nat) (value : List Octet) :
    (ProtocolState.resized size value).length = size := by
  rw [ProtocolState.resized, List.length_append, List.length_take,
    List.length_replicate]
  omega

theorem appendsInput_addReadBuffer
    (apart : Apart before) (size : Nat) :
    AppendsInput before (before.addReadBuffer size) [before.nextNode] [size] := by
  have fresh : ∀ node ∈ before.inputBuffer ++
      (before.outputBuffer ++ before.scratchPool), node < before.nextNode := by
    intro node member
    obtain input | output := List.mem_append.mp member
    · exact apart.fresh node input
    · exact apart.linked.fresh node output
  have other : ∀ node, node < before.nextNode →
      (before.addReadBuffer size).contents node = before.contents node :=
    fun node old => Function.update_of_ne (Nat.ne_of_lt old) _ _
  refine ⟨⟨?_, ?_, ?_, ?_, ?_⟩, ⟨rfl, rfl, rfl, rfl, rfl, ?_⟩, rfl, ?_, ?_, rfl,
    rfl, rfl, rfl⟩
  · refine { apart.linked with fresh := ?_ }
    intro node member
    exact (apart.linked.fresh node member).trans (Nat.lt_succ_self _)
  · exact nodup_append_fresh apart.nodup fun member =>
      Nat.lt_irrefl _ (fresh _ member)
  · intro node member
    change node ∈ before.inputBuffer ++ [before.nextNode] at member
    change node < before.nextNode + 1
    have old := apart.fresh node
    grind
  · exact apart.scratch.trans (List.sublist_append_left _ _)
  · exact listIterator_ite apart.atEnd
  · intro node member
    exact other node (fresh node (List.mem_append_right _
      (List.mem_append_left _ member)))
  · change [(Function.update before.contents before.nextNode _
      before.nextNode).length] = [size]
    rw [Function.update_self, length_resized]
  · intro node member
    exact other node (fresh node (List.mem_append_left _ member))

/-- A node is spliced that was in the pool or is a new one. -/
theorem appendsInput_spliceScratchInput
    {node : Nat}
    (nodup : (before.inputBuffer ++ [node] ++
      (before.outputBuffer ++ before.scratchPool)).Nodup)
    (fresh : ∀ other ∈ before.inputBuffer ++ [node], other < before.nextNode)
    (linked : Linked before.toOutputState)
    (scratch : before.inputScratchBufferList.Sublist before.inputBuffer)
    (atEnd : before.inputIterator.listIterator = none →
      before.inputIterator.offset = 0)
    (size : Nat) :
    AppendsInput before (before.spliceScratchInput node size) [node] [size] := by
  have absent : node ∉ before.inputBuffer ∧ node ∉ before.outputBuffer := by
    grind
  have same : (if before.inputIterator.listIterator = none then ⟨some node, 0⟩
      else before.inputIterator : ByteIterator Nat) =
      if before.inputIterator = .byteEnd then ⟨some node, 0⟩
      else before.inputIterator := by
    have iff : before.inputIterator.listIterator = none ↔
        before.inputIterator = .byteEnd := by
      constructor
      · intro none
        have start := atEnd none
        cases iterator : before.inputIterator
        rw [iterator] at none start
        cases none
        cases start
        rfl
      · intro isEnd
        rw [isEnd]
        rfl
    simp only [iff]
  have other : ∀ old, old ≠ node →
      (before.spliceScratchInput node size).contents old =
        before.contents old :=
    fun old different => Function.update_of_ne different _ _
  refine ⟨⟨{ linked with }, nodup, fresh, ?_, ?_⟩,
    ⟨rfl, rfl, rfl, rfl, rfl, ?_⟩, rfl, ?_, ?_, same, rfl, rfl, rfl⟩
  · exact scratch.append (List.Sublist.refl [node])
  · change (if before.inputIterator.listIterator = none then ⟨some node, 0⟩
      else before.inputIterator : ByteIterator Nat).listIterator = none → _
    rw [same]
    change _ → (if before.inputIterator.listIterator = none then ⟨some node, 0⟩
      else before.inputIterator : ByteIterator Nat).offset = 0
    rw [same]
    exact listIterator_ite atEnd
  · intro old member
    exact other old fun equal => absent.2 (equal ▸ member)
  · change [(Function.update before.contents node _ node).length] = [size]
    rw [Function.update_self, length_resized]
  · intro old member
    exact other old fun equal => absent.1 (equal ▸ member)

theorem appendsInput_addScratchReadBuffer
    (apart : Apart before) (size : Nat) :
    ∃ node, AppendsInput before (before.addScratchReadBuffer size) [node]
      [size] := by
  have nodup := apart.nodup
  have fresh := apart.fresh
  have linked := apart.linked
  have output := linked.fresh
  rw [ProtocolState.addScratchReadBuffer]
  cases pool : before.scratchPool with
  | cons node scratchPool =>
      rw [pool] at nodup output
      have linkedPool : Linked { before with scratchPool }.toOutputState := by
        refine { linked with nodup := ?_, fresh := ?_ }
        · change (before.outputBuffer ++ scratchPool).Nodup
          grind
        · intro other member
          exact output other (by
            change other ∈ before.outputBuffer ++ scratchPool at member
            grind)
      have appends := @appendsInput_spliceScratchInput σ
        { before with scratchPool } node
        (by
          change (before.inputBuffer ++ [node] ++
            (before.outputBuffer ++ scratchPool)).Nodup
          grind)
        (by
          change ∀ other ∈ before.inputBuffer ++ [node],
            other < before.nextNode
          grind)
        linkedPool apart.scratch apart.atEnd size
      exact ⟨node, { appends with keeps := { appends.keeps with } }⟩
  | nil =>
      rw [pool] at nodup output
      let cleared := { before with
        scratchPool := []
        contents := Function.update before.contents before.nextNode []
        nextNode := before.nextNode + 1 }
      have cleared_contents : ∀ node, node < before.nextNode →
          cleared.contents node = before.contents node :=
        fun node old => Function.update_of_ne (Nat.ne_of_lt old) _ _
      have linkedNext : Linked cleared.toOutputState := by
        refine { linked with nodup := ?_, fresh := ?_ }
        · change (before.outputBuffer ++ []).Nodup
          grind
        · intro other member
          have below := output other member
          change other < before.nextNode + 1
          omega
      have appends := @appendsInput_spliceScratchInput σ cleared before.nextNode
        (by
          change (before.inputBuffer ++ [before.nextNode] ++
            (before.outputBuffer ++ [])).Nodup
          grind)
        (by
          change ∀ other ∈ before.inputBuffer ++ [before.nextNode],
            other < before.nextNode + 1
          grind)
        linkedNext apart.scratch apart.atEnd size
      refine ⟨before.nextNode,
        { appends with keeps := { appends.keeps with contents := ?_ }
                       contents := ?_ }⟩
      · intro node member
        rw [appends.keeps.contents node member]
        exact cleared_contents node (output node
          (List.mem_append_left _ member))
      · intro node member
        rw [appends.contents node member]
        exact cleared_contents node (fresh node member)

/-- Buffers are appended unless an empty one is asked for. -/
theorem request_spec
    {requests : List ReadRequest}
    (apart : Apart before) :
    (0 ∈ requests.map ReadRequest.size ∧ before.request requests = none) ∨
      0 ∉ requests.map ReadRequest.size ∧
        ∃ after nodes, before.request requests = some after ∧
          AppendsInput before after nodes (requests.map ReadRequest.size) := by
  induction requests generalizing before with
  | nil =>
      exact Or.inr ⟨List.not_mem_nil, before, [], rfl, AppendsInput.refl apart⟩
  | cons request requests ih =>
      by_cases empty : request.size = 0
      · refine Or.inl ⟨?_, ?_⟩
        · rw [List.map_cons, empty]
          exact List.mem_cons_self
        · cases request with
          | addReadBuffer size | addScratchReadBuffer size =>
              rw [ProtocolState.request]
              exact if_pos empty
      · have first : ∃ between node,
            before.request (request :: requests) = between.request requests ∧
              AppendsInput before between [node] [request.size] := by
          cases request with
          | addReadBuffer size =>
              refine ⟨before.addReadBuffer size, before.nextNode, ?_,
                appendsInput_addReadBuffer apart size⟩
              rw [ProtocolState.request]
              exact if_neg empty
          | addScratchReadBuffer size =>
              obtain ⟨node, appends⟩ :=
                appendsInput_addScratchReadBuffer apart size
              refine ⟨before.addScratchReadBuffer size, node, ?_, appends⟩
              rw [ProtocolState.request]
              exact if_neg empty
        obtain ⟨between, node, equal, appends⟩ := first
        rw [equal, List.map_cons]
        obtain ⟨member, none⟩ | ⟨absent, after, nodes, some, rest⟩ :=
          ih appends.apart
        · exact Or.inl ⟨List.mem_cons_of_mem _ member, none⟩
        · refine Or.inr ⟨?_, after, node :: nodes, some, appends.trans rest⟩
          rw [List.mem_cons, not_or]
          exact ⟨fun same => empty same.symm, absent⟩

/-! ## Being done with a packet -/

/-- The nodes of the scratch buffers go to the pool. -/
theorem recycleInput_spec (state : ProtocolState σ) :
    ∃ inputBuffer, state.recycleInput =
      { state with
        scratchPool := state.scratchPool ++ state.inputScratchBufferList
        inputBuffer } := by
  suffices given : ∀ nodes (self : ProtocolState σ),
      ∃ inputBuffer, nodes.foldl (fun self node =>
          { self with
            scratchPool := self.scratchPool ++ [node]
            inputBuffer := self.inputBuffer.erase node }) self =
        { self with scratchPool := self.scratchPool ++ nodes, inputBuffer } from
    given state.inputScratchBufferList state
  intro nodes
  induction nodes with
  | nil =>
      intro self
      refine ⟨self.inputBuffer, ?_⟩
      rw [List.append_nil]
      rfl
  | cons node nodes ih =>
      intro self
      obtain ⟨inputBuffer, same⟩ := ih
        { self with
          scratchPool := self.scratchPool ++ [node]
          inputBuffer := self.inputBuffer.erase node }
      refine ⟨inputBuffer, ?_⟩
      rw [List.foldl_cons, same]
      dsimp only
      rw [List.append_assoc, List.singleton_append]

/-- The input side is empty afterwards. -/
structure Clears (before after : ProtocolState σ) : Prop where
  apart : Apart after
  keeps : KeepsOutput before.toOutputState after.toOutputState
  inputBuffer : after.inputBuffer = []
  inputIterator : after.inputIterator = .byteEnd
  reader : after.reader = before.reader
  received : after.received = before.received

theorem clears_clearInput (apart : Apart before) :
    Clears before before.clearInput := by
  obtain ⟨inputBuffer, same⟩ := recycleInput_spec before
  have nodup := apart.nodup
  have scratch := apart.scratch
  have members : ∀ node ∈ before.inputScratchBufferList,
      node ∈ before.inputBuffer := fun _ => (scratch.subset ·)
  have distinct : before.inputScratchBufferList.Nodup :=
    scratch.nodup (List.nodup_append.mp nodup).1
  rw [ProtocolState.clearInput, same]
  refine ⟨⟨{ apart.linked with nodup := ?_, fresh := ?_ }, ?_, ?_,
      List.Sublist.refl [], fun _ => rfl⟩,
    ⟨rfl, rfl, rfl, rfl, rfl, fun _ _ => rfl⟩, rfl, rfl, rfl, rfl⟩
  · change (before.outputBuffer ++
      (before.scratchPool ++ before.inputScratchBufferList)).Nodup
    grind
  · intro node member
    change node < before.nextNode
    have input := apart.fresh node
    have output := apart.linked.fresh node
    change node ∈ before.outputBuffer ++
      (before.scratchPool ++ before.inputScratchBufferList) at member
    grind
  · change ([] ++ (before.outputBuffer ++
      (before.scratchPool ++ before.inputScratchBufferList))).Nodup
    grind
  · intro node absent
    exact absurd absent List.not_mem_nil

end Input

end StreamBuffer
end OpenRTI
