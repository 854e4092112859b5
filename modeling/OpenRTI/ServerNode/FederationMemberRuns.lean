import OpenRTI.ServerNode.MemberReplicas

/-!
# Runs of joining and resigning federates

In each order in which federates join and resign and messages come in, what is on the way to
a server node leads it to what the one above it knows.  No message is refused, no assertion
fails, and a server node that is reached without anything on the way knows just the
federates of the root server.
-/

namespace OpenRTI
namespace ServerNode
namespace MemberTree

open Foundation (OrderedMap)
open MemberState (Keeps Leads known told)

variable {topology : ServerTopology} {tree : MemberTree} {number : Nat}

/-- A server node that is below another one. -/
def Child (topology : ServerTopology) (parent number : Nat) : Prop :=
  0 < number ∧ topology.parent number = parent

/-- Names with the reserved prefix are the ones that the root server gives. -/
def Reserves (server : MemberServer) : Prop :=
  ∀ {federateHandle : Nat} {member : MemberFederate},
    server.federates.find? federateHandle = some member →
    member.federateName.take 3 = "HLA".toList →
    member.federateName = reservedName federateHandle

structure Agrees (topology : ServerTopology) (tree : MemberTree) : Prop where
  unfailed : tree.failed = false
  keeps : ∀ number server, tree.server number = some server →
    Keeps (Child topology number) server
  reserves : ∀ server, tree.server 0 = some server → Reserves server
  inStep : ∀ number, 0 < number →
    memberReplica.InStep (tree.queue number) (known (tree.server number))
      (told (tree.server (topology.parent number)) number)

/-- A server node processes something, maybe a message that was on the way to it. -/
theorem Agrees.replace
    {rest : List MembershipMessage}
    {result : Option MemberServer × (Nat → List MembershipMessage)}
    (agrees : tree.Agrees topology)
    (own : 0 < number →
      memberReplica.InStep rest (known result.1)
        (told (tree.server (topology.parent number)) number))
    (tells : ∀ other, ∃ messages,
      result.2 other = Function.update tree.queue number rest other ++ messages ∧
      (¬ Child topology number other → messages = []) ∧
      memberReplica.InStep messages (told (tree.server number) other)
        (told result.1 other))
    (keeps : ∀ server, result.1 = some server →
      Keeps (Child topology number) server)
    (reserves : ∀ server, number = 0 → result.1 = some server → Reserves server) :
    ({ tree with queue := Function.update tree.queue number rest }.replace number
      (some result)).Agrees topology := by
  refine ⟨agrees.unfailed, ?_, ?_, ?_⟩
  · intro other server is
    dsimp only [MemberTree.replace] at is
    by_cases here : other = number
    · subst here
      rw [Function.update_self] at is
      exact keeps server is
    · rw [Function.update_of_ne here] at is
      exact agrees.keeps other server is
  · intro server is
    dsimp only [MemberTree.replace] at is
    by_cases here : 0 = number
    · subst here
      rw [Function.update_self] at is
      exact reserves server rfl is
    · rw [Function.update_of_ne here] at is
      exact agrees.reserves server is
  · intro other positive
    obtain ⟨messages, queue, outside, leads⟩ := tells other
    have order := topology.parent_lt other positive
    dsimp only [MemberTree.replace]
    rw [queue]
    by_cases here : other = number
    · -- Nothing is sent to itself.
      subst here
      have elsewhere : ¬ Child topology other other := by
        intro isChild
        have := isChild.2
        omega
      rw [outside elsewhere, List.append_nil, Function.update_self,
        Function.update_self, Function.update_of_ne (by omega)]
      exact own positive
    · rw [Function.update_of_ne here, Function.update_of_ne here]
      have before := agrees.inStep other positive
      by_cases below : topology.parent other = number
      · rw [below] at before ⊢
        rw [Function.update_self]
        exact before.send leads
      · have elsewhere : ¬ Child topology number other :=
          fun isChild => below isChild.2
        rw [outside elsewhere, List.append_nil, Function.update_of_ne below]
        exact before

variable {rest : List MembershipMessage} {server : MemberServer}

/-- A server node keeps its federation execution. -/
theorem Agrees.change
    {result : Option MemberState} {after : MemberState}
    (agrees : tree.Agrees topology)
    (found : tree.server number = some server)
    (is : result = some after)
    (own : 0 < number →
      memberReplica.InStep rest (known (some after.server))
        (told (tree.server (topology.parent number)) number))
    (tells : MemberState.Tells (Child topology number)
      ⟨server, Function.update tree.queue number rest⟩ after)
    (keeps : Keeps (Child topology number) after.server)
    (reserves : number = 0 → Reserves after.server) :
    ({ tree with queue := Function.update tree.queue number rest }.change number
      result).Agrees topology := by
  rw [MemberTree.change, is, Option.map_some]
  apply agrees.replace own
  · rw [found]
    exact tells
  · intro other same
    cases same
    exact keeps
  · intro other root same
    cases same
    exact reserves root

/-! ## Messages of the parent -/

/-- A federation execution that is known is there. -/
theorem known_eq_some
    {server : Option MemberServer} {members : Members}
    (isKnown : known server = some members) :
    ∃ found, server = some found ∧ found.named = true ∧
      members = found.members := by
  rw [known, Option.bind_eq_some_iff] at isKnown
  obtain ⟨found, is, named⟩ := isKnown
  split at named
  next holds => exact ⟨found, is, holds, (Option.some.inj named).symm⟩
  · cases named

theorem known_of_named
    (named : server.named = true) :
    known (some server) = some server.members :=
  if_pos named

theorem members_of_unknown
    (empty : ∀ federateHandle,
      server.federates.find? federateHandle = none) :
    server.members = ∅ := by
  apply OrderedMap.eq_of_find?
  intro federateHandle
  rw [MemberServer.find?_members, empty]
  rfl

/-- A new federation execution has no federates. -/
theorem keeps_new {child : Nat → Prop} : Keeps child ⟨true, ∅, ∅⟩ := by
  refine ⟨⟨?_, ?_, ?_⟩, fun _ _ => rfl⟩
  · intro first second one other isOne
    cases isOne
  · intro federateHandle other member isMember
    cases isMember
  · intro other isKnown
    cases isKnown

/-- The federation execution is inserted, or it gets its name back. -/
theorem Agrees.acceptInsert
    {requestConnect : Nat}
    (agrees : tree.Agrees topology)
    (positive : 0 < number)
    (sent : tree.queue number = .insertFederationExecution :: rest) :
    ({ tree with queue := Function.update tree.queue number rest }.accept number
      requestConnect .insertFederationExecution).Agrees topology := by
  have inStep := agrees.inStep number positive
  rw [sent] at inStep
  obtain ⟨next, accepted, inStep⟩ := inStep.receive
  have notRoot : number ≠ 0 := by omega
  cases isKnown : known (tree.server number) with
  | some members =>
      rw [isKnown] at accepted
      cases accepted
  | none =>
      rw [isKnown] at accepted
      cases accepted
      cases found : tree.server number with
      | none =>
          rw [MemberTree.accept.eq_def]
          dsimp only
          rw [found]
          apply agrees.replace (fun _ => inStep)
          · intro other
            rw [found]
            exact ⟨[], (List.append_nil _).symm, fun _ => rfl, rfl⟩
          · intro server is
            cases is
            exact keeps_new
          · exact fun server root => absurd root notRoot
      | some server =>
          rw [found] at isKnown
          have unnamed : ¬ server.named = true := by
            intro named
            rw [known_of_named named] at isKnown
            cases isKnown
          have keeps := agrees.keeps number server found
          have empty := keeps.unnamed (Bool.eq_false_iff.mpr unnamed)
          have same : known (some { server with named := true }) = some ∅ :=
            (known_of_named rfl).trans
              (congrArg some (members_of_unknown empty))
          rw [MemberTree.accept.eq_def]
          dsimp only
          rw [found]
          dsimp only
          rw [if_neg unnamed]
          apply agrees.replace
          · intro _
            dsimp only
            rw [same]
            exact inStep
          · intro other
            rw [found]
            exact ⟨[], (List.append_nil _).symm, fun _ => rfl, rfl⟩
          · intro after is
            cases is
            exact ⟨⟨keeps.sound.names, keeps.sound.attached,
              keeps.sound.children⟩, fun named => absurd named (by simp)⟩
          · exact fun after root => absurd root notRoot

/-- Where there is no federation execution only one can be inserted. -/
theorem exists_of_accept
    {server : Option MemberServer} {message : MembershipMessage}
    {next : Option Members}
    (accepted : memberReplica.accept message (known server) = some next)
    (other : message ≠ .insertFederationExecution) :
    ∃ found, server = some found ∧ found.named = true ∧
      known server = some found.members := by
  cases isKnown : known server with
  | none =>
      rw [isKnown] at accepted
      cases message with
      | insertFederationExecution => exact absurd rfl other
      | _ => cases accepted
  | some members =>
      obtain ⟨found, is, named, rfl⟩ := known_eq_some isKnown
      exact ⟨found, is, named, rfl⟩

section

variable (agrees : tree.Agrees topology)
include agrees

/-- A message of the parent comes in. -/
theorem Agrees.accept
    {requestConnect : Nat} {message : MembershipMessage}
    (positive : 0 < number)
    (sent : tree.queue number = message :: rest)
    (isChild : message.isJoinResponse = true →
      Child topology number requestConnect) :
    ({ tree with queue := Function.update tree.queue number rest }.accept number
      requestConnect message).Agrees topology := by
  by_cases inserts : message = .insertFederationExecution
  · subst inserts
    exact agrees.acceptInsert positive sent
  have inStep := agrees.inStep number positive
  rw [sent] at inStep
  obtain ⟨next, accepted, inStep⟩ := inStep.receive
  obtain ⟨server, found, named, isKnown⟩ := exists_of_accept accepted inserts
  rw [isKnown] at accepted
  have keeps := agrees.keeps number server found
  have notRoot : number = 0 → ∀ server : MemberServer, Reserves server :=
    fun root => absurd root (by omega)
  have staysNamed : ∀ {after : MemberServer}, after.named = server.named →
      after.Sound (Child topology number) → Keeps (Child topology number) after := by
    intro after same sound
    refine ⟨sound, fun unnamed => ?_⟩
    rw [same, named] at unnamed
    cases unnamed
  cases message with
  | insertFederationExecution => exact absurd rfl inserts
  | joinFederateNotify federateHandle federate =>
      obtain ⟨joined, isJoined, rfl⟩ := Option.map_eq_some_iff.mp accepted
      obtain ⟨admits, rfl⟩ := MemberServer.admits_of_join isJoined
      obtain ⟨after, result, tells, sound, sameName, members⟩ :=
        @MemberState.acceptJoinFederateNotify_tells (Child topology number)
          ⟨server, Function.update tree.queue number rest⟩ federateHandle federate
          keeps.sound admits
      rw [MemberTree.accept.eq_def]
      dsimp only
      rw [found]
      refine agrees.change found result ?_ tells (staysNamed sameName sound)
        (fun root => notRoot root _)
      intro _
      rw [known_of_named (sameName.trans named), members]
      exact inStep
  | joinFederationExecutionResponse federateHandle federate =>
      obtain ⟨joined, isJoined, rfl⟩ := Option.map_eq_some_iff.mp accepted
      obtain ⟨admits, rfl⟩ := MemberServer.admits_of_join isJoined
      let before : MemberState := ⟨server, Function.update tree.queue number rest⟩
      have members : (before.joined requestConnect federateHandle
          federate).server.members = server.members.set federateHandle federate :=
        MemberServer.members_set rfl
      rw [MemberTree.accept.eq_def]
      dsimp only
      rw [found]
      refine agrees.change found
        (@MemberState.acceptJoinFederationExecutionResponse_eq
          (Child topology number) requestConnect before federateHandle federate
          keeps.sound admits)
        ?_ (MemberState.joined_tells keeps.sound admits (isChild rfl))
        (staysNamed rfl (MemberState.joined_sound keeps.sound admits (isChild rfl)))
        (fun root => notRoot root _)
      intro _
      have isNamed : (before.joined requestConnect federateHandle
          federate).server.named = true := named
      rw [known_of_named isNamed, members]
      exact inStep
  | resignFederateNotify federateHandle =>
      change (if (server.members.find? federateHandle).isSome then
        some (some (server.members.erase federateHandle)) else none) =
          some next at accepted
      split at accepted
      next isThere =>
        cases accepted
        rw [MemberServer.find?_members, Option.isSome_map] at isThere
        obtain ⟨member, isMember⟩ := Option.isSome_iff_exists.mp isThere
        obtain ⟨after, result, tells, sound, sameName, federates⟩ :=
          @MemberState.acceptResignFederateNotify_tells (Child topology number)
            ⟨server, Function.update tree.queue number rest⟩ federateHandle member
            keeps.sound isMember
        have members : after.server.members =
            server.members.erase federateHandle := by
          rw [← MemberServer.members_erase, MemberServer.members, federates]
          rfl
        rw [MemberTree.accept.eq_def]
        dsimp only
        rw [found]
        refine agrees.change found result ?_ tells (staysNamed sameName sound)
          (fun root => notRoot root _)
        intro _
        rw [known_of_named (sameName.trans named), members]
        exact inStep
      · cases accepted
  | eraseFederationExecution =>
      change (if server.members.isEmpty then some none else none) =
        some next at accepted
      split at accepted
      next isEmpty =>
        cases accepted
        have empty : ∀ federateHandle,
            server.federates.find? federateHandle = none := by
          intro federateHandle
          have absent := OrderedMap.isEmpty_iff.mp isEmpty federateHandle
          rw [MemberServer.find?_members, Option.map_eq_none_iff] at absent
          exact absent
        obtain ⟨result, is, leads, unknown⟩ :=
          @MemberState.eraseFederationExecution_leads (Child topology number)
            ⟨server, Function.update tree.queue number rest⟩ keeps.sound empty
        rw [MemberTree.accept.eq_def]
        dsimp only
        rw [found]
        dsimp only
        rw [is]
        apply agrees.replace
        · intro _
          rw [unknown]
          exact inStep
        · rw [found]
          exact leads.tells
        · exact leads.keeps
        · exact fun after root _ => notRoot root after
      · cases accepted

/-! ## Requests of a child -/

/-- A server node does something that is not about a message on the way to it. -/
theorem Agrees.replace_kept
    {result : Option MemberServer × (Nat → List MembershipMessage)}
    (found : tree.server number = some server)
    (leads : Leads (Child topology number) ⟨server, tree.queue⟩ result)
    (same : 0 < number → known result.1 = known (some server))
    (reserves : ∀ server, number = 0 → result.1 = some server → Reserves server) :
    (tree.replace number (some result)).Agrees topology := by
  have replaced := @Agrees.replace topology tree number (tree.queue number) result
    agrees
  rw [Function.update_eq_self] at replaced
  apply replaced
  · intro positive
    rw [same positive, ← found]
    exact agrees.inStep number positive
  · rw [found]
    exact leads.tells
  · exact leads.keeps
  · exact reserves

theorem Agrees.change_kept
    {result : Option MemberState} {after : MemberState}
    (found : tree.server number = some server)
    (is : result = some after)
    (tells : MemberState.Tells (Child topology number) ⟨server, tree.queue⟩ after)
    (keeps : Keeps (Child topology number) after.server)
    (same : 0 < number → known (some after.server) = known (some server))
    (reserves : number = 0 → Reserves after.server) :
    (tree.change number result).Agrees topology := by
  rw [MemberTree.change, is, Option.map_some]
  apply agrees.replace_kept found (tells.leads keeps) same
  intro other root isAfter
  cases isAfter
  exact reserves root

/-- A child asks not to take part. -/
theorem Agrees.shutdownFederationExecution
    {child : Nat}
    (found : tree.server number = some server) :
    (tree.change number (MemberState.acceptShutdownFederationExecution child
      ⟨server, tree.queue⟩)).Agrees topology := by
  have keeps := agrees.keeps number server found
  obtain ⟨after, result, tells, sound, named, federates⟩ :=
    @MemberState.acceptShutdownFederationExecution_tells (Child topology number)
      child ⟨server, tree.queue⟩ keeps.sound
  refine agrees.change_kept found result tells ⟨sound, ?_⟩ (fun _ => ?_) ?_
  · rw [named, federates]
    exact keeps.unnamed
  · rw [known, known, Option.bind_some, Option.bind_some, named,
      MemberServer.members, federates]
    rfl
  · rintro rfl federateHandle member isMember
    rw [federates] at isMember
    exact agrees.reserves server found isMember

/-- A child does not take part any more. -/
theorem Agrees.releaseFederationHandle
    {child : Nat}
    (found : tree.server number = some server) :
    (tree.replace number (MemberState.acceptReleaseFederationHandle child
      ⟨server, tree.queue⟩)).Agrees topology := by
  obtain ⟨result, is, leads, gone | ⟨after, isAfter, named, federates⟩⟩ :=
    @MemberState.acceptReleaseFederationHandle_leads (Child topology number) child
      ⟨server, tree.queue⟩ (agrees.keeps number server found)
  · rw [is]
    apply agrees.replace_kept found leads
    · intro _
      have unnamed : ¬ server.named = true := Bool.eq_false_iff.mp gone.2
      rw [gone.1]
      exact (if_neg unnamed).symm
    · intro after _ isAfter
      rw [gone.1] at isAfter
      cases isAfter
  · rw [is]
    apply agrees.replace_kept found leads
    · intro _
      rw [isAfter, known, known, Option.bind_some, Option.bind_some, named,
        MemberServer.members, federates]
      rfl
    · rintro other rfl isOther federateHandle member isMember
      rw [isAfter] at isOther
      cases isOther
      rw [federates] at isMember
      exact agrees.reserves server found isMember

/-- The root server creates the federation execution. -/
theorem Agrees.createFederationExecution
    (absent : tree.server 0 = none) :
    { tree with
      server := Function.update tree.server 0 (some ⟨true, ∅, ∅⟩) }.Agrees
        topology := by
  have replaced := @Agrees.replace topology tree 0 (tree.queue 0)
    (some ⟨true, ∅, ∅⟩, tree.queue) agrees
  rw [Function.update_eq_self] at replaced
  apply replaced
  · intro positive
    omega
  · intro other
    rw [absent]
    exact ⟨[], (List.append_nil _).symm, fun _ => rfl, rfl⟩
  · intro server is
    cases is
    exact keeps_new
  · intro server _ is
    cases is
    intro federateHandle member isMember
    cases isMember

end

/-! ## The root server -/

theorem reservedName_injective : Function.Injective reservedName := by
  intro first second same
  have digits := List.append_cancel_left same
  rw [← @Nat.ofDigitChars_ten_toDigits first,
    ← @Nat.ofDigitChars_ten_toDigits second, digits]

theorem take_reservedName (federateHandle : Nat) :
    (reservedName federateHandle).take 3 = "HLA".toList := rfl

variable {federateHandle : Nat}

/-- The name that a federate gets is not in use. -/
theorem admits_federateName
    {queue : Nat → List MembershipMessage} {requested : List Char}
    (reserves : Reserves server)
    (unknown : server.federates.find? federateHandle = none)
    (unused : ¬ (requested ≠ [] ∧
      MemberState.isFederateNameInUse requested ⟨server, queue⟩ = true)) :
    server.Admits federateHandle (federateName requested federateHandle) := by
  refine ⟨unknown, ?_⟩
  intro other member found same
  rw [federateName] at same
  split at same
  next isEmpty =>
    -- The name is made from the handle, which is free.
    have prefixed : member.federateName.take 3 = "HLA".toList := by
      rw [same]
      exact take_reservedName federateHandle
    have equal := reservedName_injective ((reserves found prefixed).symm.trans same)
    rw [equal, unknown] at found
    cases found
  next given =>
    apply unused
    refine ⟨given, List.any_eq_true.mpr ⟨(other, member),
      OrderedMap.find?_eq_some_iff.mp found, decide_eq_true same⟩⟩

section

variable (agrees : tree.Agrees topology)
include agrees

/-- A federate joins in the root server. -/
theorem Agrees.join
    {requested : List Char} {federateType : String}
    (found : tree.server 0 = some server)
    (isChild : Child topology 0 number)
    (named : server.named = true)
    (plain : requested.take 3 ≠ "HLA".toList)
    (admits : server.Admits federateHandle
      (federateName requested federateHandle)) :
    (tree.change 0 (MemberState.acceptJoinFederationExecutionRequest number
      federateHandle ⟨federateName requested federateHandle, federateType⟩
      ⟨server, tree.queue⟩)).Agrees topology := by
  have keeps := agrees.keeps 0 server found
  have sound := keeps.sound
  let before : MemberState := ⟨server, tree.queue⟩
  let federate : FederateInformation :=
    ⟨federateName requested federateHandle, federateType⟩
  refine agrees.change_kept found
    (@MemberState.acceptJoinFederationExecutionRequest_eq (Child topology 0) number
      before federateHandle federate sound admits)
    (MemberState.joined_tells sound admits isChild)
    ⟨MemberState.joined_sound sound admits isChild, ?_⟩ (fun positive => ?_) ?_
  · intro unnamed
    have isNamed : (before.joined number federateHandle federate).server.named =
        true := named
    rw [isNamed] at unnamed
    cases unnamed
  · omega
  · intro _ other member isMember prefixed
    have entered : (server.federates.set federateHandle
        ⟨federate, some number⟩).find? other = some member := isMember
    rw [OrderedMap.find?_set] at entered
    split at entered
    next same =>
      cases entered
      rw [same]
      dsimp only [federate] at prefixed ⊢
      rw [federateName] at prefixed ⊢
      split
      · rfl
      next given =>
        rw [if_neg given] at prefixed
        exact absurd prefixed plain
    · exact agrees.reserves server found entered prefixed

/-- A federate resigns in the root server. -/
theorem Agrees.resign
    {member : MemberFederate}
    (found : tree.server 0 = some server)
    (isMember : server.federates.find? federateHandle = some member) :
    (tree.change 0 (MemberState.acceptResignFederationExecutionRequest number
      federateHandle ⟨server, tree.queue⟩)).Agrees topology := by
  have keeps := agrees.keeps 0 server found
  obtain ⟨after, result, tells, sound, named, federates⟩ :=
    @MemberState.acceptResignFederationExecutionRequest_tells (Child topology 0)
      number ⟨server, tree.queue⟩ federateHandle member keeps.sound isMember
  have kept : ∀ {other : Nat} {member : MemberFederate},
      after.server.federates.find? other = some member →
      server.federates.find? other = some member := by
    intro other member isMember
    rw [federates, OrderedMap.find?_erase] at isMember
    split at isMember
    · cases isMember
    · exact isMember
  refine agrees.change_kept found result tells ⟨sound, ?_⟩ (fun positive => ?_)
    (fun _ _ _ isMember => agrees.reserves server found (kept isMember))
  · intro unnamed
    rw [named] at unnamed
    have empty := keeps.unnamed unnamed federateHandle
    rw [isMember] at empty
    cases empty
  · omega

/-- The federation execution is destroyed. -/
theorem Agrees.destroyFederationExecution
    (found : tree.server 0 = some server)
    (isEmpty : server.federates.isEmpty = true) :
    (tree.replace 0 (MemberState.eraseFederationExecution
      ⟨server, tree.queue⟩)).Agrees topology := by
  obtain ⟨result, is, leads, unknown⟩ :=
    @MemberState.eraseFederationExecution_leads (Child topology 0)
      ⟨server, tree.queue⟩ (agrees.keeps 0 server found).sound
      (OrderedMap.isEmpty_iff.mp isEmpty)
  rw [is]
  apply agrees.replace_kept found leads
  · intro positive
    omega
  · intro after _ isAfter federateHandle member isMember
    have unnamed : after.named = false := by
      by_contra named
      rw [isAfter, known_of_named (by simpa using named)] at unknown
      cases unknown
    rw [(leads.keeps after isAfter).unnamed unnamed] at isMember
    cases isMember

/-! ## Runs -/

/-- A step keeps the agreement. -/
theorem Agrees.next
    {input : MemberInput} {after : MemberTree}
    (stepped : tree.next topology input = some after) :
    after.Agrees topology := by
  cases input with
  | createFederationExecution =>
      rw [MemberTree.next] at stepped
      split at stepped
      next absent =>
        cases stepped
        exact agrees.createFederationExecution
          (Option.isNone_iff_eq_none.mp absent)
      · cases stepped
  | destroyFederationExecution =>
      rw [MemberTree.next] at stepped
      split at stepped
      next server found =>
        split at stepped
        next holds =>
          cases stepped
          exact agrees.destroyFederationExecution found holds.2
        · cases stepped
      · cases stepped
  | join number federateHandle requested federateType =>
      rw [MemberTree.next] at stepped
      split at stepped
      next server found =>
        split at stepped
        next holds =>
          obtain ⟨positive, below, named, plain, unknown, unused⟩ := holds
          cases stepped
          exact agrees.join found ⟨positive, below⟩ named plain
            (admits_federateName (agrees.reserves server found)
              (Option.isNone_iff_eq_none.mp unknown) unused)
        · cases stepped
      · cases stepped
  | resign number federateHandle =>
      rw [MemberTree.next] at stepped
      split at stepped
      next server found =>
        split at stepped
        next holds =>
          cases stepped
          obtain ⟨member, isMember⟩ := Option.isSome_iff_exists.mp holds.2.2
          exact agrees.resign found isMember
        · cases stepped
      · cases stepped
  | receive number requestConnect =>
      rw [MemberTree.next] at stepped
      split at stepped
      next message rest sent =>
        split at stepped
        next holds =>
          cases stepped
          exact agrees.accept holds.1 sent holds.2
        · cases stepped
      · cases stepped
  | shutdownFederationExecution number =>
      rw [MemberTree.next] at stepped
      split at stepped
      next server found =>
        split at stepped
        · cases stepped
          exact agrees.shutdownFederationExecution found
        · cases stepped
      · cases stepped
  | releaseFederationHandle number =>
      rw [MemberTree.next] at stepped
      split at stepped
      next server found =>
        split at stepped
        · cases stepped
          exact agrees.releaseFederationHandle found
        · cases stepped
      · cases stepped

end

/-- A server node is reached over active connects with nothing on the way. -/
inductive Reached (topology : ServerTopology) (tree : MemberTree) : Nat → Prop
  | root : Reached topology tree 0
  | child
      {number : Nat}
      {server : MemberServer}
      (positive : 0 < number)
      (above : Reached topology tree (topology.parent number))
      (found : tree.server (topology.parent number) = some server)
      (active : server.connects.find? number = some true)
      (nothing : tree.queue number = []) :
      Reached topology tree number

/-- What the server nodes know about the federates. -/
structure Membership (topology : ServerTopology) (tree : MemberTree) : Prop where
  unfailed : tree.failed = false
  names : ∀ number server, tree.server number = some server →
    ∀ first second one other,
      server.federates.find? first = some one →
      server.federates.find? second = some other →
      one.federateName = other.federateName → first = second
  /-- What is on the way leads a server node to what the one above tells it. -/
  inStep : ∀ number, 0 < number →
    memberReplica.InStep (tree.queue number) (known (tree.server number))
      (told (tree.server (topology.parent number)) number)
  reached : ∀ number, Reached topology tree number → 0 < number →
    ∃ root server, tree.server 0 = some root ∧
      tree.server number = some server ∧ server.members = root.members

theorem Agrees.reached
    (agrees : tree.Agrees topology) (reached : Reached topology tree number)
    (positive : 0 < number) :
    ∃ root server, tree.server 0 = some root ∧
      tree.server number = some server ∧ server.members = root.members := by
  induction reached with
  | root => omega
  | @child number server positive above found active nothing ih =>
      have inStep := agrees.inStep number positive
      rw [nothing, found] at inStep
      have isKnown : known (tree.server number) = some server.members :=
        inStep.eq.trans (if_pos active)
      obtain ⟨own, isOwn, _, same⟩ := known_eq_some isKnown
      by_cases isRoot : topology.parent number = 0
      · rw [isRoot] at found
        exact ⟨server, own, found, isOwn, same.symm⟩
      · obtain ⟨root, upper, isRootServer, isUpper, sameUpper⟩ :=
          ih (by omega)
        rw [found] at isUpper
        cases isUpper
        exact ⟨root, own, isRootServer, isOwn, same.symm.trans sameUpper⟩

/-- Whatever happens, and in each order, the server nodes that are reached know just the
federates of the root server. -/
theorem membership_of_reachable
    (reachable : (system topology).Reachable tree) :
    tree.Membership topology := by
  have agrees : tree.Agrees topology := by
    apply reachable.invariant (fun tree => tree.Agrees topology)
    · refine ⟨rfl, ?_, ?_, fun _ _ => rfl⟩
      · intro number server found
        cases found
      · intro server found
        cases found
    · intro before input after holds stepped
      exact holds.next stepped
  refine ⟨agrees.unfailed, ?_, agrees.inStep,
    fun number reached => agrees.reached reached⟩
  intro number server found first second one other isOne isOther same
  exact (agrees.keeps number server found).sound.names isOne isOther same

/-- Server nodes 1 and 3 below the root server, and a leaf below each one. -/
def forkedTopology : ServerTopology where
  parent number := if number = 2 then 1 else if number = 4 then 3 else 0
  parent_lt := by
    intro number positive
    split
    · omega
    · split <;> omega

/-- One federate joins through each server node, and the first one resigns. -/
def resigningInputs : List MemberInput :=
  [.createFederationExecution, .join 1 10 ['A'] "", .receive 1 2, .receive 1 2,
    .join 3 11 [] "", .receive 3 4, .receive 3 4, .receive 3 4, .receive 1 2,
    .resign 1 10, .receive 3 4, .receive 1 2]

theorem membership_of_reachable_resigning :
    ∃ tree, (system forkedTopology).run (system forkedTopology).initial
        resigningInputs = some tree ∧
      ∃ root server, tree.server 0 = some root ∧ tree.server 3 = some server ∧
        server.members = root.members ∧
        root.members.entries = [(11, ⟨reservedName 11, ""⟩)] := by
  have observed : ((system forkedTopology).run (system forkedTopology).initial
      resigningInputs).map (fun tree =>
        ((tree.server 0).map (fun root =>
          (root.connects.find? 3, root.members.entries)), tree.queue 3)) =
      some (some (some true, [(11, ⟨reservedName 11, ""⟩)]), []) := by
    decide +kernel
  obtain ⟨tree, ran, same⟩ := Option.map_eq_some_iff.mp observed
  simp only [Prod.mk.injEq, Option.map_eq_some_iff] at same
  obtain ⟨⟨root, found, active, members⟩, nothing⟩ := same
  have reached : Reached forkedTopology tree 3 :=
    .child (by omega) .root found active nothing
  obtain ⟨other, server, isRoot, isServer, sameMembers⟩ :=
    (membership_of_reachable
      (Foundation.TransitionSystem.reachable_of_run _ ran)).reached 3 reached
        (by omega)
  rw [found] at isRoot
  cases isRoot
  exact ⟨tree, ran, root, server, found, isServer, sameMembers, members⟩

end MemberTree
end ServerNode
end OpenRTI
