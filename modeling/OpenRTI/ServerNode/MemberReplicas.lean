import OpenRTI.Foundation.Replication
import OpenRTI.ServerNode.FederationMembers

/-!
# What a child knows about the federates

A child is a replica that follows the messages to it.  Whatever a server node does with its
federates, it sends to each child what leads from what the child has been told before to
what it is to know.
-/

namespace OpenRTI
namespace ServerNode

open Foundation (OrderedMap Replica)

/-- What is known about the federates of a federation execution that is there. -/
abbrev Members := OrderedMap Nat FederateInformation

/-- Enter a federate that is not known, with a name that is not in use. -/
def Members.join
    (federateHandle : Nat)
    (federate : FederateInformation)
    (members : Members) : Option Members :=
  if (members.find? federateHandle).isNone ∧
      ∀ entry ∈ members.entries, entry.2.federateName ≠ federate.federateName then
    some (members.set federateHandle federate)
  else none

/-- The replica of a child. -/
def memberReplica : Replica MembershipMessage (Option Members) where
  accept
    | .insertFederationExecution, none => some (some ∅)
    | .joinFederateNotify federateHandle federate, some members
    | .joinFederationExecutionResponse federateHandle federate, some members =>
        (members.join federateHandle federate).map some
    | .resignFederateNotify federateHandle, some members =>
        if (members.find? federateHandle).isSome then
          some (some (members.erase federateHandle))
        else none
    | .eraseFederationExecution, some members =>
        if members.isEmpty then some none else none
    | _, _ => none

namespace MemberServer

/-- What is known in a server node. -/
def members (server : MemberServer) : Members :=
  server.federates.mapValues MemberFederate.toFederateInformation

/-- What a child is to know. -/
def told (number : Nat) (server : MemberServer) : Option Members :=
  if server.connects.find? number = some true then some server.members else none

/-- What a server node makes sure of about its federates, given its children. -/
structure Sound (child : Nat → Prop) (server : MemberServer) : Prop where
  names : ∀ {first second : Nat} {one other : MemberFederate},
    server.federates.find? first = some one →
    server.federates.find? second = some other →
    one.federateName = other.federateName → first = second
  attached : ∀ {federateHandle number : Nat} {federate : MemberFederate},
    server.federates.find? federateHandle = some federate →
    federate.connect = some number → server.connects.find? number = some true
  children : ∀ {number : Nat},
    (server.connects.find? number).isSome = true → child number

theorem find?_members {server : MemberServer} {federateHandle : Nat} :
    server.members.find? federateHandle =
      (server.federates.find? federateHandle).map
        MemberFederate.toFederateInformation :=
  OrderedMap.find?_mapValues ..

end MemberServer

variable {member : MemberFederate}

namespace MemberServer

variable {child : Nat → Prop} {server : MemberServer} {number federateHandle : Nat}
variable {federate : FederateInformation}

theorem mem_members {entry : Nat × FederateInformation} :
    entry ∈ server.members.entries ↔
      ∃ member, server.federates.find? entry.1 = some member ∧
        member.toFederateInformation = entry.2 := by
  rw [← OrderedMap.find?_eq_some_iff, find?_members, Option.map_eq_some_iff]

/-- Names are not in use twice. -/
theorem Sound.members_names
    (sound : server.Sound child)
    {entry other : Nat × FederateInformation}
    (member : entry ∈ server.members.entries)
    (memberOther : other ∈ server.members.entries)
    (same : entry.2.federateName = other.2.federateName) :
    entry.1 = other.1 := by
  obtain ⟨one, found, is⟩ := mem_members.mp member
  obtain ⟨another, foundOther, isOther⟩ := mem_members.mp memberOther
  apply sound.names found foundOther
  rw [← is, ← isOther] at same
  exact same

/-- A child that starts to take part is told about all federates. -/
theorem Sound.inStep_push (sound : server.Sound child) :
    memberReplica.InStep
      (.insertFederationExecution ::
        server.federates.entries.map fun entry =>
          .joinFederateNotify entry.1 entry.2.toFederateInformation)
      none (some server.members) := by
  have all : memberReplica.InStep
      (server.members.entries.map fun entry =>
        .joinFederateNotify entry.1 entry.2) (some ∅) (some server.members) := by
    apply Replica.inStep_entries
    intro before entry member inside absent
    have unused : ∀ other ∈ before.entries,
        other.2.federateName ≠ entry.2.federateName := by
      intro other memberOther same
      have equal := sound.members_names (inside other memberOther) member same
      rw [← equal, OrderedMap.find?_eq_some_iff.mpr memberOther] at absent
      cases absent
    have joined : Members.join entry.1 entry.2 before =
        some (before.set entry.1 entry.2) :=
      if_pos ⟨by rw [absent]; rfl, unused⟩
    exact congrArg (Option.map some) joined
  have same : server.members.entries.map (fun entry =>
        MembershipMessage.joinFederateNotify entry.1 entry.2) =
      server.federates.entries.map fun entry =>
        .joinFederateNotify entry.1 entry.2.toFederateInformation :=
    List.map_map ..
  rw [same] at all
  exact all

/-- Everything is withdrawn from a child. -/
theorem inStep_withdraw :
    memberReplica.InStep
      ((server.federates.entries.map fun entry =>
        .resignFederateNotify entry.1) ++ [.eraseFederationExecution])
      (some server.members) none := by
  have all : memberReplica.InStep
      (server.members.entries.map fun entry =>
        .resignFederateNotify entry.1) (some server.members) (some ∅) := by
    apply Replica.inStep_keys
    intro before key value found
    have known : (before.find? key).isSome = true := by
      rw [found]
      rfl
    exact if_pos known
  have same : server.members.entries.map (fun entry =>
        MembershipMessage.resignFederateNotify entry.1) =
      server.federates.entries.map fun entry => .resignFederateNotify entry.1 :=
    List.map_map ..
  rw [same] at all
  apply all.send
  rfl

/-- A federate that is not known, with a name that is not in use. -/
structure Admits (federateHandle : Nat) (name : List Char) (server : MemberServer) :
    Prop where
  unknown : server.federates.find? federateHandle = none
  unused : ∀ {other : Nat} {federate : MemberFederate},
    server.federates.find? other = some federate → federate.federateName ≠ name

theorem Admits.join
    (admits : server.Admits federateHandle federate.federateName) :
    server.members.join federateHandle federate =
      some (server.members.set federateHandle federate) := by
  apply if_pos
  constructor
  · rw [find?_members, admits.unknown]
    rfl
  · intro entry member
    obtain ⟨other, found, is⟩ := mem_members.mp member
    rw [← is]
    exact admits.unused found

/-- A replica joins only what its original admits. -/
theorem admits_of_join
    {after : Members}
    (joined : server.members.join federateHandle federate = some after) :
    server.Admits federateHandle federate.federateName ∧
      after = server.members.set federateHandle federate := by
  rw [Members.join] at joined
  split at joined
  next holds =>
    refine ⟨⟨?_, ?_⟩, (Option.some.inj joined).symm⟩
    · have unknown := Option.isNone_iff_eq_none.mp holds.1
      rw [find?_members, Option.map_eq_none_iff] at unknown
      exact unknown
    · intro other member found
      exact holds.2 (other, member.toFederateInformation)
        (mem_members.mpr ⟨member, found, rfl⟩)
  · cases joined

theorem members_set
    (is : member.toFederateInformation = federate) :
    MemberServer.members { server with
        federates := server.federates.set federateHandle member } =
      server.members.set federateHandle federate := by
  apply OrderedMap.eq_of_find?
  intro other
  rw [find?_members, OrderedMap.find?_set, OrderedMap.find?_set, find?_members]
  split
  · rw [← is]
    rfl
  · rfl

theorem members_erase :
    MemberServer.members { server with
        federates := server.federates.erase federateHandle } =
      server.members.erase federateHandle := by
  apply OrderedMap.eq_of_find?
  intro other
  rw [find?_members, OrderedMap.find?_erase, OrderedMap.find?_erase, find?_members]
  split <;> rfl

end MemberServer

namespace MemberState

/-- What is sent leads each child from what it has been told to what it is to know. -/
def Tells (child : Nat → Prop) (before after : MemberState) : Prop :=
  ∀ number, ∃ messages,
    after.queue number = before.queue number ++ messages ∧
    (¬ child number → messages = []) ∧
    memberReplica.InStep messages (before.server.told number)
      (after.server.told number)

variable {child : Nat → Prop} {before middle after : MemberState} {number : Nat}

/-- Nothing is sent. -/
theorem tells_of_told
    (queue : after.queue = before.queue)
    (told : ∀ number, after.server.told number = before.server.told number) :
    Tells child before after := by
  intro number
  refine ⟨[], ?_, fun _ => rfl, ?_⟩
  · rw [queue, List.append_nil]
  · rw [told]
    rfl

theorem Tells.trans
    (first : Tells child before middle)
    (second : Tells child middle after) :
    Tells child before after := by
  intro number
  obtain ⟨messages, queue, outside, leads⟩ := first number
  obtain ⟨more, queueMore, outsideMore, leadsMore⟩ := second number
  refine ⟨messages ++ more, ?_, ?_, leads.send leadsMore⟩
  · rw [queueMore, queue, List.append_assoc]
  · intro elsewhere
    rw [outside elsewhere, outsideMore elsewhere]
    rfl

/-! ## Joining -/

variable {self : MemberState} {federateHandle : Nat} {federate : FederateInformation}

/-- What a child is told that starts to take part. -/
def pushed (server : MemberServer) : List MembershipMessage :=
  .insertFederationExecution ::
    server.federates.entries.map fun entry =>
      .joinFederateNotify entry.1 entry.2.toFederateInformation

/-- A federate has joined through a child. -/
def joined
    (number federateHandle : Nat)
    (federate : FederateInformation)
    (self : MemberState) : MemberState where
  server := { self.server with
    federates := self.server.federates.set federateHandle ⟨federate, some number⟩
    connects := self.server.connects.set number true }
  queue := fun other =>
    if other = number then
      self.queue number ++
        ((if self.getActive number then [] else pushed self.server) ++
          [.joinFederationExecutionResponse federateHandle federate])
    else if self.getActive other then
      self.queue other ++ [.joinFederateNotify federateHandle federate]
    else self.queue other

theorem getActive_iff :
    self.getActive number = true ↔
      self.server.connects.find? number = some true :=
  decide_eq_true_iff

theorem insertFederate_eq
    (admits : self.server.Admits federateHandle member.federateName) :
    self.insertFederate federateHandle member =
      some { self with
        server.federates := self.server.federates.set federateHandle member } := by
  rw [insertFederate, if_neg]
  rintro (known | used)
  · rw [admits.unknown] at known
    cases known
  · obtain ⟨entry, inside, same⟩ := List.any_eq_true.mp used
    exact admits.unused (OrderedMap.find?_eq_some_iff.mpr inside)
      (of_decide_eq_true same)

/-- A connect is active after the federation execution is pushed to it. -/
theorem pushFederation_getOrInsertConnect :
    (self.getOrInsertConnect number).pushFederation number =
      { server := { self.server with
          connects := self.server.connects.set number true }
        queue := Function.update self.queue number
          (self.queue number ++
            if self.getActive number then []
            else .insertFederationExecution ::
              (self.server.federates.entries.filter fun entry =>
                entry.2.connect ≠ some number).map fun entry =>
                  .joinFederateNotify entry.1 entry.2.toFederateInformation) } := by
  by_cases active : self.getActive number = true
  · have found := getActive_iff.mp active
    have kept : self.server.connects.set number true = self.server.connects := by
      apply OrderedMap.eq_of_find?
      intro other
      rw [OrderedMap.find?_set]
      split
      next same => rw [same, found]
      · rfl
    rw [getOrInsertConnect, if_pos (by rw [found]; rfl), pushFederation,
      if_pos active, if_pos active, List.append_nil, Function.update_eq_self, kept]
  · have inserted : (self.getOrInsertConnect number).getActive number = false ∧
        (self.getOrInsertConnect number).server.connects.set number true =
          self.server.connects.set number true := by
      rw [getOrInsertConnect]
      split
      · exact ⟨Bool.eq_false_iff.mpr active, rfl⟩
      · constructor
        · rw [getActive]
          dsimp only
          rw [OrderedMap.find?_set, if_pos rfl]
          rfl
        · apply OrderedMap.eq_of_find?
          intro other
          dsimp only
          rw [OrderedMap.find?_set, OrderedMap.find?_set, OrderedMap.find?_set]
          split <;> rfl
    have rest : (self.getOrInsertConnect number).server.federates =
          self.server.federates ∧
        (self.getOrInsertConnect number).server.named = self.server.named ∧
        (self.getOrInsertConnect number).queue = self.queue := by
      rw [getOrInsertConnect]
      split <;> exact ⟨rfl, rfl, rfl⟩
    have isActive : ((self.getOrInsertConnect number).setActive number
        true).getActive number = true := by
      rw [getActive_iff, setActive]
      dsimp only
      rw [OrderedMap.find?_set, if_pos rfl]
    rw [pushFederation, inserted.1, if_neg Bool.false_ne_true, send,
      if_pos isActive, if_neg active, setActive]
    dsimp only
    rw [inserted.2, rest.1, rest.2.1, rest.2.2]

/-- No federate is behind a connect that is not active. -/
theorem filter_eq_entries
    (sound : self.server.Sound child)
    (inactive : ¬ self.getActive number = true) :
    (self.server.federates.entries.filter fun entry =>
      entry.2.connect ≠ some number) = self.server.federates.entries := by
  apply List.filter_eq_self.mpr
  intro entry inside
  apply decide_eq_true
  intro behind
  exact inactive (getActive_iff.mpr
    (sound.attached (OrderedMap.find?_eq_some_iff.mpr inside) behind))

theorem filter_set_eq_entries
    (sound : self.server.Sound child)
    (inactive : ¬ self.getActive number = true)
    (unknown : self.server.federates.find? federateHandle = none) :
    ((self.server.federates.set federateHandle
        ⟨federate, some number⟩).entries.filter fun entry =>
      entry.2.connect ≠ some number) = self.server.federates.entries := by
  let filtered : OrderedMap Nat MemberFederate :=
    ⟨_, (self.server.federates.set federateHandle
      ⟨federate, some number⟩).ordered.filter fun entry =>
        decide (entry.2.connect ≠ some number)⟩
  suffices same : filtered = self.server.federates from
    congrArg OrderedMap.entries same
  apply OrderedMap.eq_of_find?
  intro other
  apply Option.ext
  intro member
  rw [OrderedMap.find?_eq_some_iff, List.mem_filter,
    ← OrderedMap.find?_eq_some_iff, OrderedMap.find?_set, decide_eq_true_iff]
  constructor
  · rintro ⟨found, elsewhere⟩
    split at found
    · cases found
      exact absurd rfl elsewhere
    · exact found
  · intro found
    have different : other ≠ federateHandle := by
      rintro rfl
      rw [unknown] at found
      cases found
    rw [if_neg different]
    refine ⟨found, ?_⟩
    intro behind
    exact inactive (getActive_iff.mpr (sound.attached found behind))

theorem getActive_set
    {state : MemberState}
    (self : MemberState)
    (connects : state.server.connects = self.server.connects.set number true)
    (other : Nat) :
    state.getActive other = if other = number then true else self.getActive other := by
  rw [getActive, getActive, connects, OrderedMap.find?_set]
  split <;> rfl

/-- A federate joins in the root server. -/
theorem acceptJoinFederationExecutionRequest_eq
    (sound : self.server.Sound child)
    (admits : self.server.Admits federateHandle federate.federateName) :
    self.acceptJoinFederationExecutionRequest number federateHandle federate =
      some (self.joined number federateHandle federate) := by
  rw [acceptJoinFederationExecutionRequest, insertFederate_eq admits,
    Option.map_some, pushFederation_getOrInsertConnect, joined]
  dsimp only
  rw [send, if_pos]
  · rw [broadcastToChildren]
    congr 2
    funext other
    rw [getActive_set self rfl]
    dsimp only
    by_cases same : other = number
    · subst same
      rw [if_neg (fun holds => holds.2 rfl), if_pos rfl, Function.update_self,
        Function.update_self, List.append_assoc]
      congr 2
      by_cases active : self.getActive other = true
      · exact (if_pos active).trans (if_pos active).symm
      · rw [if_neg active]
        refine (if_neg active).trans ?_
        rw [pushed, filter_set_eq_entries sound active admits.unknown]
    · have elsewhere : some other ≠ some number :=
        fun equal => same (Option.some.inj equal)
      rw [if_neg same, if_neg same, Function.update_of_ne same,
        Function.update_of_ne same]
      simp only [elsewhere, ne_eq, not_false_eq_true, and_true]
  · rw [getActive_set self rfl, if_pos rfl]

/-- A join response comes in. -/
theorem acceptJoinFederationExecutionResponse_eq
    (sound : self.server.Sound child)
    (admits : self.server.Admits federateHandle federate.federateName) :
    self.acceptJoinFederationExecutionResponse number federateHandle federate =
      some (self.joined number federateHandle federate) := by
  rw [acceptJoinFederationExecutionResponse, pushFederation_getOrInsertConnect]
  dsimp only
  rw [insertFederate_eq, Option.map_some, joined, forward, broadcastToChildren]
  · dsimp only
    congr 2
    funext other
    by_cases same : other = number
    · subst same
      rw [Function.update_self, if_pos rfl, if_neg (fun holds => holds.2 rfl),
        Function.update_self, List.append_assoc]
      congr 2
      by_cases active : self.getActive other = true
      · rw [if_pos active, if_pos active]
      · rw [if_neg active, if_neg active, pushed, filter_eq_entries sound active]
    · have elsewhere : some other ≠ some number :=
        fun equal => same (Option.some.inj equal)
      rw [Function.update_of_ne same, if_neg same, Function.update_of_ne same,
        getActive_set self rfl, if_neg same]
      simp only [elsewhere, ne_eq, not_false_eq_true, and_true]
  · exact ⟨admits.unknown, admits.unused⟩

/-- The child through which a federate joins gets the response, the other ones are
notified. -/
theorem joined_tells
    (sound : self.server.Sound child)
    (admits : self.server.Admits federateHandle federate.federateName)
    (isChild : child number) :
    Tells child self (self.joined number federateHandle federate) := by
  have members : (self.joined number federateHandle federate).server.members =
      self.server.members.set federateHandle federate :=
    MemberServer.members_set rfl
  have notified : ∀ message,
      (message = .joinFederateNotify federateHandle federate ∨
        message = .joinFederationExecutionResponse federateHandle federate) →
      memberReplica.InStep [message] (some self.server.members)
        (some (self.server.members.set federateHandle federate)) := by
    rintro message (rfl | rfl)
    · exact congrArg (fun joined => (joined.map some).bind some) admits.join
    · exact congrArg (fun joined => (joined.map some).bind some) admits.join
  intro other
  by_cases same : other = number
  · subst same
    have toldAfter : (self.joined other federateHandle federate).server.told other =
        some (self.server.members.set federateHandle federate) := by
      rw [MemberServer.told, members]
      apply if_pos
      rw [joined]
      dsimp only
      rw [OrderedMap.find?_set, if_pos rfl]
    refine ⟨_, if_pos rfl, fun elsewhere => absurd isChild elsewhere, ?_⟩
    rw [toldAfter]
    by_cases active : self.getActive other = true
    · have toldBefore : self.server.told other = some self.server.members :=
        if_pos (getActive_iff.mp active)
      rw [if_pos active, toldBefore]
      exact notified _ (.inr rfl)
    · have toldBefore : self.server.told other = none :=
        if_neg (mt getActive_iff.mpr active)
      rw [if_neg active, toldBefore]
      exact sound.inStep_push.send (notified _ (.inr rfl))
  · have connects : (self.joined number federateHandle
        federate).server.connects.find? other =
        self.server.connects.find? other := by
      rw [joined]
      dsimp only
      rw [OrderedMap.find?_set, if_neg same]
    rw [MemberServer.told, MemberServer.told, connects, members, joined]
    dsimp only
    rw [if_neg same]
    by_cases active : self.getActive other = true
    · have found := getActive_iff.mp active
      rw [if_pos found, if_pos found, if_pos active]
      refine ⟨_, rfl, ?_, notified _ (.inl rfl)⟩
      intro elsewhere
      exact absurd (sound.children (by rw [found]; rfl)) elsewhere
    · have idle := mt getActive_iff.mpr active
      rw [if_neg idle, if_neg idle, if_neg active]
      exact ⟨[], (List.append_nil _).symm, fun _ => rfl, rfl⟩

/-- All children that take part are told. -/
theorem tells_broadcastToChildren
    (message : MembershipMessage) (sound : self.server.Sound child)
    (accepted : memberReplica.accept message (some self.server.members) =
      some (some after.server.members))
    (connects : after.server.connects = self.server.connects)
    (queue : after.queue = (self.broadcastToChildren none message).queue) :
    Tells child self after := by
  intro other
  rw [MemberServer.told, MemberServer.told, connects, queue, broadcastToChildren]
  dsimp only
  by_cases active : self.getActive other = true
  · have found := getActive_iff.mp active
    rw [if_pos found, if_pos found, if_pos ⟨active, by simp⟩]
    refine ⟨[message], rfl, ?_, ?_⟩
    · intro elsewhere
      exact absurd (sound.children (by rw [found]; rfl)) elsewhere
    · exact congrArg (Option.bind · some) accepted
  · have idle := mt getActive_iff.mpr active
    rw [if_neg idle, if_neg idle, if_neg (fun holds => active holds.1)]
    exact ⟨[], (List.append_nil _).symm, fun _ => rfl, rfl⟩

variable {server : MemberServer}

/-- A federate is entered whose connect is active. -/
theorem sound_set
    (member : MemberFederate) (sound : self.server.Sound child)
    (admits : self.server.Admits federateHandle member.federateName)
    (federates : server.federates =
      self.server.federates.set federateHandle member)
    (attached : ∀ number, member.connect = some number →
      server.connects.find? number = some true)
    (active : ∀ number, self.server.connects.find? number = some true →
      server.connects.find? number = some true)
    (children : ∀ number, (server.connects.find? number).isSome = true →
      child number) :
    server.Sound child := by
  refine ⟨?_, ?_, fun known => children _ known⟩
  · intro first second one other found foundOther sameName
    rw [federates, OrderedMap.find?_set] at found foundOther
    split at found
    next isFirst =>
      cases found
      split at foundOther
      next isSecond => rw [isFirst, isSecond]
      · exact absurd sameName.symm (admits.unused foundOther)
    · split at foundOther
      · cases foundOther
        exact absurd sameName (admits.unused found)
      · exact sound.names found foundOther sameName
  · intro other number found_federate found behind
    rw [federates, OrderedMap.find?_set] at found
    split at found
    · cases found
      exact attached number behind
    · exact active number (sound.attached found behind)

theorem joined_sound
    (sound : self.server.Sound child)
    (admits : self.server.Admits federateHandle federate.federateName)
    (isChild : child number) :
    (self.joined number federateHandle federate).server.Sound child := by
  have connects : ∀ other, (self.joined number federateHandle
      federate).server.connects.find? other =
      if other = number then some true
      else self.server.connects.find? other :=
    fun other => OrderedMap.find?_set ..
  refine sound_set ⟨federate, some number⟩ sound
    ⟨admits.unknown, admits.unused⟩ ?_ ?_ ?_ ?_
  · rfl
  · intro other behind
    cases behind
    rw [connects, if_pos rfl]
  · intro other active
    rw [connects]
    split
    · rfl
    · exact active
  · intro other known
    rw [connects] at known
    split at known
    next same => exact same ▸ isChild
    · exact sound.children known

/-- A federate that has joined elsewhere. -/
theorem acceptJoinFederateNotify_tells
    (sound : self.server.Sound child)
    (admits : self.server.Admits federateHandle federate.federateName) :
    ∃ after, self.acceptJoinFederateNotify federateHandle federate = some after ∧
      Tells child self after ∧ after.server.Sound child ∧
      after.server.named = self.server.named ∧
      after.server.members = self.server.members.set federateHandle federate := by
  rw [acceptJoinFederateNotify, insertFederate_eq ⟨admits.unknown, admits.unused⟩,
    Option.map_some]
  have members : MemberServer.members { self.server with
      federates := self.server.federates.set federateHandle ⟨federate, none⟩ } =
      self.server.members.set federateHandle federate :=
    MemberServer.members_set rfl
  refine ⟨_, rfl, ?_, ?_, rfl, members⟩
  · refine tells_broadcastToChildren
      (.joinFederateNotify federateHandle federate) sound ?_ ?_ ?_
    · exact (congrArg (Option.map some) admits.join).trans
        (congrArg (fun known => some (some known)) members.symm)
    · rfl
    · rfl
  · refine sound_set ⟨federate, none⟩ sound ⟨admits.unknown, admits.unused⟩
      ?_ ?_ ?_ ?_
    · rfl
    · intro number behind
      cases behind
    · exact fun _ active => active
    · exact fun _ known => sound.children known

/-! ## Resigning -/

theorem sound_erase
    (sound : self.server.Sound child)
    (federates : server.federates = self.server.federates.erase federateHandle)
    (connects : server.connects = self.server.connects) :
    server.Sound child := by
  have kept : ∀ {other : Nat} {member : MemberFederate},
      server.federates.find? other = some member →
      self.server.federates.find? other = some member := by
    intro other member found
    rw [federates, OrderedMap.find?_erase] at found
    split at found
    · cases found
    · exact found
  refine ⟨?_, ?_, ?_⟩
  · intro first second one other found foundOther
    exact sound.names (kept found) (kept foundOther)
  · intro other number member found behind
    rw [connects]
    exact sound.attached (kept found) behind
  · intro number known
    rw [connects] at known
    exact sound.children known

/-- An active child gets to know that it does not take part any more. -/
theorem tells_withdraw
    {wasActive : Bool}
    (sound : self.server.Sound child)
    (known : self.server.connects.find? number = some wasActive)
    (server : ((self.send number
      ((self.server.federates.entries.map fun entry =>
        .resignFederateNotify entry.1) ++
          [.eraseFederationExecution])).setActive number false).server =
      { self.server with connects := self.server.connects.set number false }) :
    Tells child self ((self.send number
      ((self.server.federates.entries.map fun entry =>
        .resignFederateNotify entry.1) ++
          [.eraseFederationExecution])).setActive number false) := by
  intro other
  have members : MemberServer.members { self.server with
      connects := self.server.connects.set number false } =
      self.server.members := rfl
  rw [server, MemberServer.told, MemberServer.told, members,
    OrderedMap.find?_set, setActive, send]
  dsimp only
  by_cases same : other = number
  · subst same
    have inactive : ¬ some false = some true := by simp
    rw [if_pos rfl, if_neg inactive]
    by_cases active : self.getActive other = true
    · rw [if_pos active, if_pos (getActive_iff.mp active)]
      dsimp only
      rw [Function.update_self]
      refine ⟨_, rfl, ?_, MemberServer.inStep_withdraw⟩
      intro elsewhere
      exact absurd (sound.children (by rw [known]; rfl)) elsewhere
    · rw [if_neg active, if_neg (mt getActive_iff.mpr active)]
      exact ⟨[], (List.append_nil _).symm, fun _ => rfl, rfl⟩
  · refine ⟨[], ?_, fun _ => rfl, ?_⟩
    · rw [List.append_nil]
      split
      · exact Function.update_of_ne same ..
      · rfl
    · rw [if_neg same]
      rfl

/-- Everything is withdrawn from a child without federates. -/
theorem eraseFederationExecutionAtConnect_tells
    (sound : self.server.Sound child)
    (idle : ∀ {federateHandle : Nat} {member : MemberFederate},
      self.server.federates.find? federateHandle = some member →
      member.connect ≠ some number) :
    ∃ after, self.eraseFederationExecutionAtConnect number = some after ∧
      Tells child self after ∧ after.server.Sound child ∧
      after.server.named = self.server.named ∧
      after.server.federates = self.server.federates := by
  have free : self.getHasFederates number = false := by
    apply Bool.eq_false_iff.mpr
    intro behind
    obtain ⟨entry, inside, same⟩ := List.any_eq_true.mp behind
    exact idle (OrderedMap.find?_eq_some_iff.mpr inside) (of_decide_eq_true same)
  rw [eraseFederationExecutionAtConnect]
  cases known : self.server.connects.find? number with
  | none => exact ⟨self, rfl, tells_of_told rfl fun _ => rfl, sound, rfl, rfl⟩
  | some wasActive =>
      dsimp only
      rw [free, if_neg Bool.false_ne_true]
      have server : ∀ messages, ((self.send number messages).setActive number
          false).server = { self.server with
            connects := self.server.connects.set number false } := by
        intro messages
        rw [setActive, send]
        split <;> rfl
      refine ⟨_, rfl, ?_, ?_, ?_, ?_⟩
      · exact tells_withdraw sound known (server _)
      · rw [server]
        refine ⟨sound.names, ?_, ?_⟩
        · intro other behind member found attached
          dsimp only
          rw [OrderedMap.find?_set, if_neg]
          · exact sound.attached found attached
          · rintro rfl
            exact idle found attached
        · intro other isKnown
          dsimp only at isKnown
          rw [OrderedMap.find?_set] at isKnown
          split at isKnown
          next same =>
            apply sound.children
            rw [same, known]
            rfl
          · exact sound.children isKnown
      · rw [server]
      · rw [server]

/-- Everything is withdrawn from all children. -/
theorem broadcastEraseFederationExecution_tells
    (sound : self.server.Sound child)
    (idle : ∀ {federateHandle : Nat} {member : MemberFederate},
      self.server.federates.find? federateHandle = some member →
      member.connect = none) :
    ∃ after, self.broadcastEraseFederationExecution = some after ∧
      Tells child self after ∧ after.server.Sound child ∧
      after.server.federates = self.server.federates := by
  rw [broadcastEraseFederationExecution]
  generalize self.server.connects.entries = entries
  induction entries generalizing self with
  | nil => exact ⟨self, rfl, tells_of_told rfl fun _ => rfl, sound, rfl⟩
  | cons entry rest ih =>
      obtain ⟨middle, erased, tells, soundMiddle, _, federates⟩ :=
        @eraseFederationExecutionAtConnect_tells child entry.1 self sound
          (by
            intro federateHandle member found
            rw [idle found]
            simp)
      obtain ⟨after, finished, tellsMore, soundAfter, sameFederates⟩ :=
        @ih middle soundMiddle
          (by
            rw [federates]
            exact idle)
      refine ⟨after, ?_, tells.trans tellsMore, soundAfter,
        sameFederates.trans federates⟩
      rw [List.foldlM_cons, erased]
      exact finished

/-- All children that take part are told that a federate has resigned. -/
theorem resigned_tells
    {member : MemberFederate}
    (sound : self.server.Sound child)
    (found : self.server.federates.find? federateHandle = some member) :
    Tells child self ((self.broadcastToChildren none
        (.resignFederateNotify federateHandle)).eraseFederate federateHandle) ∧
      ((self.broadcastToChildren none
        (.resignFederateNotify federateHandle)).eraseFederate
          federateHandle).server.Sound child := by
  have members : ((self.broadcastToChildren none
      (.resignFederateNotify federateHandle)).eraseFederate
        federateHandle).server.members =
      self.server.members.erase federateHandle := MemberServer.members_erase
  constructor
  · refine tells_broadcastToChildren (.resignFederateNotify federateHandle)
      sound ?_ ?_ ?_
    · have known : (self.server.members.find? federateHandle).isSome = true := by
        rw [MemberServer.find?_members, found]
        rfl
      rw [members]
      exact if_pos known
    · rfl
    · rfl
  · exact sound_erase sound rfl rfl

theorem idle_of_getHasFederates
    (free : ¬ self.getHasFederates number = true)
    {federateHandle : Nat}
    (found : self.server.federates.find? federateHandle = some member) :
    member.connect ≠ some number := by
  intro behind
  exact free (List.any_eq_true.mpr ⟨(federateHandle, member),
    OrderedMap.find?_eq_some_iff.mp found, decide_eq_true behind⟩)

/-- A federate has resigned. -/
theorem acceptResignFederateNotify_tells
    {member : MemberFederate}
    (sound : self.server.Sound child)
    (found : self.server.federates.find? federateHandle = some member) :
    ∃ after, self.acceptResignFederateNotify federateHandle = some after ∧
      Tells child self after ∧ after.server.Sound child ∧
      after.server.named = self.server.named ∧
      after.server.federates = self.server.federates.erase federateHandle := by
  obtain ⟨tells, soundMiddle⟩ := resigned_tells sound found
  rw [acceptResignFederateNotify, found]
  dsimp only
  cases behind : member.connect with
  | none => exact ⟨_, rfl, tells, soundMiddle, rfl, rfl⟩
  | some number =>
      dsimp only
      split
      next holds =>
        obtain ⟨after, erased, tellsMore, soundAfter, named, federates⟩ :=
          eraseFederationExecutionAtConnect_tells soundMiddle
            (idle_of_getHasFederates holds.2)
        exact ⟨after, erased, tells.trans tellsMore, soundAfter, named, federates⟩
      · exact ⟨_, rfl, tells, soundMiddle, rfl, rfl⟩

/-- A federate resigns in the root server. -/
theorem acceptResignFederationExecutionRequest_tells
    {member : MemberFederate}
    (sound : self.server.Sound child)
    (found : self.server.federates.find? federateHandle = some member) :
    ∃ after,
      self.acceptResignFederationExecutionRequest number federateHandle =
        some after ∧
      Tells child self after ∧ after.server.Sound child ∧
      after.server.named = self.server.named ∧
      after.server.federates = self.server.federates.erase federateHandle := by
  obtain ⟨tells, soundMiddle⟩ := resigned_tells sound found
  rw [acceptResignFederationExecutionRequest]
  split
  next holds =>
    obtain ⟨after, erased, tellsMore, soundAfter, named, federates⟩ :=
      eraseFederationExecutionAtConnect_tells soundMiddle
        (idle_of_getHasFederates holds.2)
    exact ⟨after, erased, tells.trans tellsMore, soundAfter, named, federates⟩
  · exact ⟨_, rfl, tells, soundMiddle, rfl, rfl⟩

/-- A child asks not to take part. -/
theorem acceptShutdownFederationExecution_tells
    (sound : self.server.Sound child) :
    ∃ after, self.acceptShutdownFederationExecution number = some after ∧
      Tells child self after ∧ after.server.Sound child ∧
      after.server.named = self.server.named ∧
      after.server.federates = self.server.federates := by
  have kept : ∃ after, some self = some after ∧ Tells child self after ∧
      after.server.Sound child ∧ after.server.named = self.server.named ∧
      after.server.federates = self.server.federates :=
    ⟨self, rfl, tells_of_told rfl fun _ => rfl, sound, rfl, rfl⟩
  rw [acceptShutdownFederationExecution]
  split
  · exact kept
  · split
    · exact kept
    next free =>
      split
      · exact kept
      · exact eraseFederationExecutionAtConnect_tells sound
          (idle_of_getHasFederates free)

/-! ## A federation execution that may be gone -/

/-- What a child is to know of a federation execution that may be gone. -/
def told (server : Option MemberServer) (number : Nat) : Option Members :=
  server.bind (MemberServer.told number)

/-- What is known of a federation execution that is found by its name. -/
def known (server : Option MemberServer) : Option Members :=
  server.bind fun server => if server.named then some server.members else none

/-- What a server node makes sure of about a federation execution. -/
structure Keeps (child : Nat → Prop) (server : MemberServer) : Prop where
  sound : server.Sound child
  unnamed : server.named = false → ∀ federateHandle,
    server.federates.find? federateHandle = none

/-- What is sent leads each child to what it is to know. -/
structure Leads
    (child : Nat → Prop)
    (before : MemberState)
    (result : Option MemberServer × (Nat → List MembershipMessage)) : Prop where
  tells : ∀ number, ∃ messages,
    result.2 number = before.queue number ++ messages ∧
    (¬ child number → messages = []) ∧
    memberReplica.InStep messages (before.server.told number)
      (told result.1 number)
  keeps : ∀ server, result.1 = some server → Keeps child server

theorem Tells.leads
    (tells : Tells child self after) (keeps : Keeps child after.server) :
    Leads child self (some after.server, after.queue) := by
  refine ⟨tells, ?_⟩
  intro server is
  cases is
  exact keeps

theorem hasJoinedChildren_eq_false
    (idle : ∀ {federateHandle : Nat} {member : MemberFederate},
      self.server.federates.find? federateHandle = some member →
      member.connect = none) :
    self.hasJoinedChildren = false := by
  apply Bool.eq_false_iff.mpr
  intro joined
  obtain ⟨entry, inside, behind⟩ := List.any_eq_true.mp joined
  rw [idle (OrderedMap.find?_eq_some_iff.mpr inside)] at behind
  cases behind

/-- No child takes part. -/
theorem told_of_isEmpty
    (noConnects : server.connects.isEmpty = true)
    (number : Nat) :
    server.told number = none := by
  rw [MemberServer.told, OrderedMap.isEmpty_iff.mp noConnects]
  exact if_neg (by simp)

/-- The name of a federation execution without federates is withdrawn. -/
theorem eraseFederationExecution_leads
    (sound : self.server.Sound child)
    (empty : ∀ federateHandle,
      self.server.federates.find? federateHandle = none) :
    ∃ result, self.eraseFederationExecution = some result ∧
      Leads child self result ∧ known result.1 = none := by
  have idle : ∀ {federateHandle : Nat} {member : MemberFederate},
      self.server.federates.find? federateHandle = some member →
      member.connect = none := by
    intro federateHandle member found
    rw [empty] at found
    cases found
  rw [eraseFederationExecution]
  split
  next noConnects =>
    rw [hasJoinedChildren_eq_false idle, if_neg Bool.false_ne_true]
    refine ⟨_, rfl, ⟨?_, ?_⟩, rfl⟩
    · intro number
      refine ⟨[], (List.append_nil _).symm, fun _ => rfl, ?_⟩
      rw [told_of_isEmpty noConnects]
      rfl
    · intro server is
      cases is
  · obtain ⟨after, erased, tells, soundAfter, federates⟩ :=
      broadcastEraseFederationExecution_tells sound idle
    have idleAfter : ∀ {federateHandle : Nat} {member : MemberFederate},
        after.server.federates.find? federateHandle = some member →
        member.connect = none := by
      rw [federates]
      exact idle
    rw [erased, Option.bind_some, hasJoinedChildren_eq_false idleAfter,
      if_neg Bool.false_ne_true]
    refine ⟨_, rfl, ⟨tells, ?_⟩, rfl⟩
    intro server is
    cases is
    refine ⟨⟨soundAfter.names, soundAfter.attached, soundAfter.children⟩, ?_⟩
    intro _ federateHandle
    dsimp only
    rw [federates]
    exact empty federateHandle

/-- A child that does not take part any more is forgotten. -/
theorem acceptReleaseFederationHandle_leads (keeps : Keeps child self.server) :
    ∃ result, self.acceptReleaseFederationHandle number = some result ∧
      Leads child self result ∧
      (result.1 = none ∧ self.server.named = false ∨
        ∃ server, result.1 = some server ∧
          server.named = self.server.named ∧
          server.federates = self.server.federates) := by
  have kept : Leads child self (some self.server, self.queue) :=
    Tells.leads (tells_of_told rfl fun _ => rfl) keeps
  rw [acceptReleaseFederationHandle]
  split
  · exact ⟨_, rfl, kept, .inr ⟨_, rfl, rfl, rfl⟩⟩
  next active found =>
    split
    · exact ⟨_, rfl, kept, .inr ⟨_, rfl, rfl, rfl⟩⟩
    next inactive =>
      have notActive : self.server.connects.find? number ≠ some true := by
        rw [found]
        exact fun same => inactive (Option.some.inj same)
      have attached : ∀ {federateHandle other : Nat} {member : MemberFederate},
          self.server.federates.find? federateHandle = some member →
          member.connect = some other →
          (self.server.connects.erase number).find? other = some true := by
        intro federateHandle other member isMember behind
        have active := keeps.sound.attached isMember behind
        rw [OrderedMap.find?_erase, if_neg]
        · exact active
        · rintro rfl
          exact notActive active
      have free : self.getHasFederates number = false := by
        apply Bool.eq_false_iff.mpr
        intro behind
        obtain ⟨entry, inside, same⟩ := List.any_eq_true.mp behind
        exact notActive (keeps.sound.attached
          (OrderedMap.find?_eq_some_iff.mpr inside) (of_decide_eq_true same))
      have sameTold : ∀ other, MemberServer.told other { self.server with
          connects := self.server.connects.erase number } =
          self.server.told other := by
        intro other
        rw [MemberServer.told, MemberServer.told, OrderedMap.find?_erase]
        by_cases same : other = number
        · rw [if_pos same, same, if_neg notActive, if_neg (by simp)]
        · rw [if_neg same]
          rfl
      rw [free, if_neg Bool.false_ne_true]
      dsimp only
      split
      next gone =>
        have idle : ∀ {federateHandle : Nat} {member : MemberFederate},
            self.server.federates.find? federateHandle = some member →
            member.connect = none := by
          intro federateHandle member isMember
          rw [Option.eq_none_iff_forall_ne_some]
          intro other behind
          have active := attached isMember behind
          rw [OrderedMap.isEmpty_iff.mp gone.1] at active
          cases active
        rw [hasJoinedChildren_eq_false idle, if_neg Bool.false_ne_true]
        refine ⟨_, rfl, ⟨?_, ?_⟩, .inl ⟨rfl, Bool.eq_false_iff.mpr gone.2⟩⟩
        · intro other
          refine ⟨[], (List.append_nil _).symm, fun _ => rfl, ?_⟩
          rw [← sameTold other, told_of_isEmpty gone.1]
          rfl
        · intro server is
          cases is
      · refine ⟨_, rfl, ⟨?_, ?_⟩, .inr ⟨_, rfl, rfl, rfl⟩⟩
        · intro other
          refine ⟨[], (List.append_nil _).symm, fun _ => rfl, ?_⟩
          rw [told, Option.bind_some, sameTold]
          rfl
        · intro server is
          cases is
          refine ⟨⟨keeps.sound.names, attached, ?_⟩, keeps.unnamed⟩
          intro other isKnown
          dsimp only at isKnown
          rw [OrderedMap.find?_erase] at isKnown
          split at isKnown
          · cases isKnown
          · exact keeps.sound.children isKnown

end MemberState

end ServerNode
end OpenRTI
