import OpenRTI.ServerNode.UpstreamRequests
import Mathlib.Data.List.Infix

/-!
# Pending requests of the server nodes

The requests that a server node or client waits for are, in order, those with a response on
the way to it, those that the server node above remembers for it, and those on the way up.
So the first pending request is the one that the next response has been made for.  Each
change of the tree of server nodes keeps this.
-/

namespace OpenRTI
namespace ServerNode

variable {σ ρ τ : Type}

/-! ## Requests of a connect -/

/-- The pending requests that came from a connect. -/
def owed (number : Nat) (entries : List (Option Nat × ρ)) : List ρ :=
  entries.filterMap fun entry => if entry.1 = some number then some entry.2 else none

variable {number other : Nat} {request : ρ} {entries rest : List (Option Nat × ρ)}

theorem owed_append :
    owed number (entries ++ rest) = owed number entries ++ owed number rest :=
  List.filterMap_append

@[simp] theorem owed_cons_self :
    owed number ((some number, request) :: rest) = request :: owed number rest := by
  simp [owed]

variable {origin : Option Nat}

theorem owed_cons_of_ne
    (different : origin ≠ some number) :
    owed number ((origin, request) :: rest) = owed number rest := by
  simp [owed, different]

/-- The requests of the other connects are the same when one is lost. -/
theorem owed_forget (different : other ≠ number) :
    owed other (entries.map fun entry =>
        if entry.1 = some number then (none, entry.2) else entry) =
      owed other entries := by
  induction entries with
  | nil => rfl
  | cons entry rest ih =>
      obtain ⟨origin, request⟩ := entry
      rw [List.map_cons]
      by_cases same : origin = some number
      · have mine : origin ≠ some other := by
          rw [same]
          exact fun equal => different (Option.some.inj equal).symm
        rw [if_pos same, owed_cons_of_ne (by simp), owed_cons_of_ne mine,
          ih]
      · rw [if_neg same]
        by_cases mine : origin = some other
        · subst mine
          rw [owed_cons_self, owed_cons_self, ih]
        · rw [owed_cons_of_ne mine, owed_cons_of_ne mine, ih]

theorem owed_eq_nil
    (absent : ∀ request, (some number, request) ∉ entries) :
    owed number entries = [] := by
  apply List.filterMap_eq_nil_iff.mpr
  rintro ⟨origin, request⟩ member
  apply if_neg
  rintro rfl
  exact absent request member

/-! ## Invariant -/

/-- The requests that are waited for, and those that the server node above remembers,
against what is on the way. -/
structure Carries
    (waiting remembered : List ρ)
    (connect : UpstreamConnect ρ τ) : Prop where
  ends : connect.alive = true → connect.inServer = true ∧ connect.isParent = true
  whole : connect.alive = true →
    waiting = connect.downstream.map Prod.fst ++ (remembered ++ connect.upstream)
  begins : connect.isParent = true →
    connect.downstream.map Prod.fst <+: waiting

namespace Carries

variable {waiting remembered : List ρ} {connect : UpstreamConnect ρ τ}

/-- A request comes in and is remembered. -/
theorem remember
    {upstream : List ρ}
    (carries : Carries waiting remembered connect)
    (sent : connect.upstream = request :: upstream) :
    Carries waiting (remembered ++ [request]) { connect with upstream } := by
  refine ⟨carries.ends, ?_, carries.begins⟩
  intro alive
  rw [carries.whole alive, sent, List.append_assoc]
  rfl

/-- A remembered request is responded to. -/
theorem respond
    (carries : Carries waiting (request :: remembered) connect)
    (response : τ) :
    Carries waiting remembered
      (if connect.alive then
        { connect with downstream := connect.downstream ++ [(request, response)] }
      else connect) := by
  by_cases alive : connect.alive = true
  · have whole := carries.whole alive
    have after : waiting = (connect.downstream ++ [(request, response)]).map Prod.fst ++
        (remembered ++ connect.upstream) := by
      rw [whole, List.map_append, List.append_assoc]
      rfl
    rw [if_pos alive]
    exact ⟨carries.ends, fun _ => after, fun _ => ⟨_, after.symm⟩⟩
  · rw [if_neg alive]
    exact ⟨carries.ends, fun holds => absurd holds alive, carries.begins⟩

/-- A request is sent. -/
theorem send
    (carries : Carries waiting remembered connect) (request : ρ) :
    Carries (waiting ++ [request]) remembered
      (if connect.alive then
        { connect with upstream := connect.upstream ++ [request] }
      else connect) := by
  have begins : connect.isParent = true →
      connect.downstream.map Prod.fst <+: waiting ++ [request] :=
    fun isParent => (carries.begins isParent).trans (List.prefix_append _ _)
  by_cases alive : connect.alive = true
  · rw [if_pos alive]
    refine ⟨carries.ends, ?_, begins⟩
    intro _
    rw [carries.whole alive]
    simp only [List.append_assoc]
  · rw [if_neg alive]
    exact ⟨carries.ends, fun holds => absurd holds alive, begins⟩

/-- The next response has been made for the first request that is waited for. -/
theorem receive
    {response : ρ × τ} {downstream : List (ρ × τ)}
    (carries : Carries waiting remembered connect)
    (isParent : connect.isParent = true)
    (sent : connect.downstream = response :: downstream) :
    ∃ rest, waiting = response.1 :: rest ∧
      Carries rest remembered { connect with downstream } := by
  have begins := carries.begins isParent
  rw [sent, List.map_cons] at begins
  obtain ⟨rest, same⟩ := begins
  refine ⟨downstream.map Prod.fst ++ rest, same.symm, carries.ends, ?_,
    fun _ => List.prefix_append _ _⟩
  intro alive
  have whole := carries.whole alive
  rw [sent, ← same, List.map_cons] at whole
  exact List.tail_eq_of_cons_eq whole

/-- The connection breaks. -/
theorem broken
    (carries : Carries waiting remembered connect)
    (upstream downstream : Nat) :
    Carries waiting remembered
      { connect with
        alive := false
        upstream := connect.upstream.take upstream
        downstream := connect.downstream.take downstream } := by
  refine ⟨fun alive => absurd alive Bool.false_ne_true,
    fun alive => absurd alive Bool.false_ne_true, ?_⟩
  intro isParent
  apply List.IsPrefix.trans _ (carries.begins isParent)
  exact (List.take_prefix _ _).map Prod.fst

/-- A connect that is gone on both sides carries nothing. -/
theorem gone
    (broken : connect.alive = false)
    (removed : connect.isParent = false) :
    Carries waiting remembered connect := by
  constructor
  · intro alive
    rw [broken] at alive
    cases alive
  · intro alive
    rw [broken] at alive
    cases alive
  · intro isParent
    rw [removed] at isParent
    cases isParent

end Carries

namespace ServerTree

/-- The requests that a server node or client has sent to its parent and that are not
responded to. -/
def waiting
    (nodes : ServerNodes σ ρ τ)
    (number : Nat)
    (tree : ServerTree σ ρ τ) : List ρ :=
  if nodes.isServer number then (tree.pendingMessageList number).map Prod.snd
  else (tree.asked number).drop (tree.answered number).length

structure Consistent
    (nodes : ServerNodes σ ρ τ)
    (tree : ServerTree σ ρ τ) : Prop where
  accepted : tree.messageError = false
  answered : ∀ number,
    (tree.answered number).map Prod.fst <+: tree.asked number
  clients : ∀ number, nodes.isServer number = false →
    tree.pendingMessageList number = []
  unconnected : ∀ number, tree.connect number = none →
    tree.waiting nodes number = []
  origins : ∀ server number request,
    (some number, request) ∈ tree.pendingMessageList server →
    ∃ connect, tree.connect number = some connect ∧
      connect.server = server ∧ connect.inServer = true
  above : ∀ number connect, tree.connect number = some connect →
    connect.server < number ∧ nodes.isServer connect.server = true
  carries : ∀ number connect, tree.connect number = some connect →
    Carries (tree.waiting nodes number)
      (owed number (tree.pendingMessageList connect.server)) connect

/-- What the pending requests depend on. -/
def ends (connect : UpstreamConnect ρ τ) : Nat × Bool :=
  (connect.server, connect.inServer)

variable {nodes : ServerNodes σ ρ τ} {tree : ServerTree σ ρ τ}

theorem waiting_setPendingMessageList_self :
    (tree.setPendingMessageList number entries).waiting nodes number =
      if nodes.isServer number then entries.map Prod.snd
      else (tree.asked number).drop (tree.answered number).length := by
  rw [waiting, setPendingMessageList]
  dsimp only
  rw [Function.update_self]

theorem waiting_setPendingMessageList_of_ne (different : other ≠ number) :
    (tree.setPendingMessageList number entries).waiting nodes other =
      tree.waiting nodes other := by
  rw [waiting, setPendingMessageList]
  dsimp only
  rw [Function.update_of_ne different]
  rfl

variable {server : Nat}

/-- Pending requests are replaced, and messages are put on the way or come in. -/
theorem Consistent.update
    {entries : List (Option Nat × ρ)}
    {connects : Nat → Option (UpstreamConnect ρ τ)}
    (consistent : tree.Consistent nodes)
    (same : ∀ number,
      (connects number).map ends = (tree.connect number).map ends)
    (subset : ∀ number request, (some number, request) ∈ entries →
      ∃ connect, tree.connect number = some connect ∧
        connect.server = server ∧ connect.inServer = true)
    (clients : nodes.isServer server = false → entries = [])
    (unconnected : tree.connect server = none → entries = [])
    (carries : ∀ number connect, connects number = some connect →
      Carries
        (({ tree with connect := connects }.setPendingMessageList server
          entries).waiting nodes number)
        (owed number
          (Function.update tree.pendingMessageList server entries
            connect.server)) connect) :
    ({ tree with connect := connects }.setPendingMessageList server
      entries).Consistent nodes := by
  have found : ∀ number connect, tree.connect number = some connect →
      ∃ after, connects number = some after ∧ ends after = ends connect := by
    intro number connect found
    have equal := same number
    rw [found] at equal
    exact Option.map_eq_some_iff.mp equal
  have back : ∀ number after, connects number = some after →
      ∃ connect, tree.connect number = some connect ∧
        ends connect = ends after := by
    intro number after found
    have equal := (same number).symm
    rw [found] at equal
    exact Option.map_eq_some_iff.mp equal
  have origin : ∀ server number,
      (∃ connect, tree.connect number = some connect ∧
        connect.server = server ∧ connect.inServer = true) →
      ∃ connect, connects number = some connect ∧
        connect.server = server ∧ connect.inServer = true := by
    rintro server number ⟨connect, is, same, inServer⟩
    obtain ⟨after, isAfter, sameEnds⟩ := found number connect is
    obtain ⟨sameServer, sameIn⟩ := by
      simpa only [ends, Prod.mk.injEq] using sameEnds
    exact ⟨after, isAfter, sameServer.trans same, sameIn.trans inServer⟩
  refine ⟨consistent.accepted, consistent.answered, ?_, ?_, ?_, ?_, carries⟩
  · intro number client
    dsimp only [setPendingMessageList]
    by_cases here : number = server
    · subst here
      rw [Function.update_self]
      exact clients client
    · rw [Function.update_of_ne here]
      exact consistent.clients number client
  · intro number absent
    change connects number = none at absent
    have before : tree.connect number = none := by
      have equal := (same number).symm
      rw [absent] at equal
      exact Option.map_eq_none_iff.mp equal
    by_cases here : number = server
    · subst here
      rw [waiting_setPendingMessageList_self, unconnected before]
      split
      · rfl
      next client =>
        have waits := consistent.unconnected number before
        rw [waiting, if_neg client] at waits
        exact waits
    · rw [waiting_setPendingMessageList_of_ne here]
      exact consistent.unconnected number before
  · intro other number request member
    dsimp only [setPendingMessageList] at member
    by_cases here : other = server
    · subst here
      rw [Function.update_self] at member
      exact origin _ number (subset number request member)
    · rw [Function.update_of_ne here] at member
      exact origin _ number (consistent.origins other number request member)
  · intro number after is
    obtain ⟨connect, isBefore, sameEnds⟩ := back number after is
    obtain ⟨sameServer, _⟩ := by
      simpa only [ends, Prod.mk.injEq] using sameEnds
    rw [← sameServer]
    exact consistent.above number connect isBefore

theorem setPendingMessageList_self (tree : ServerTree σ ρ τ) (number : Nat) :
    tree.setPendingMessageList number (tree.pendingMessageList number) = tree := by
  rw [setPendingMessageList, Function.update_eq_self]

variable {before own : UpstreamConnect ρ τ}

/-- Messages are put on the way to or from a connect, or come in. -/
theorem Consistent.relink
    (consistent : tree.Consistent nodes)
    (found : tree.connect number = some before)
    (same : ends own = ends before)
    (carries : Carries (tree.waiting nodes number)
      (owed number (tree.pendingMessageList before.server)) own) :
    { tree with connect := Function.update tree.connect number (some own)
      }.Consistent nodes := by
  have sameServer : own.server = before.server := congrArg Prod.fst same
  rw [← setPendingMessageList_self
    { tree with connect := Function.update tree.connect number (some own) } number]
  apply consistent.update
  · intro other
    by_cases here : other = number
    · subst here
      rw [Function.update_self, found, Option.map_some, Option.map_some, same]
    · rw [Function.update_of_ne here]
  · exact consistent.origins number
  · exact consistent.clients number
  · intro absent
    rw [found] at absent
    cases absent
  · rw [setPendingMessageList_self, Function.update_eq_self]
    intro other connect is
    by_cases here : other = number
    · subst here
      rw [Function.update_self] at is
      cases is
      rw [sameServer]
      exact carries
    · rw [Function.update_of_ne here] at is
      exact consistent.carries other connect is

theorem answerTo_eq
    {response : ρ × τ} :
    tree.answerTo origin response = { tree with
      connect := fun other =>
        if origin = some other then
          (tree.connect other).map fun connect =>
            if connect.alive then
              { connect with downstream := connect.downstream ++ [response] }
            else connect
        else tree.connect other } := by
  cases origin with
  | none => rfl
  | some number =>
      rw [answerTo, send, changeConnect]
      congr 1
      funext other
      by_cases same : other = number
      · subst same
        rw [Function.update_self, if_pos rfl]
      · have different : some number ≠ some other :=
          fun equal => same (Option.some.inj equal).symm
        rw [Function.update_of_ne same, if_neg different]

theorem ends_sent {response : ρ × τ} {connect : UpstreamConnect ρ τ} :
    ends (if connect.alive then
        { connect with downstream := connect.downstream ++ [response] }
      else connect) = ends connect := by
  split <;> rfl

section

variable (consistent : tree.Consistent nodes)
include consistent

/-- A server node responds to its first pending request, and may take a response
itself. -/
theorem Consistent.respond
    (isServer : nodes.isServer server = true)
    (pending : tree.pendingMessageList server = (origin, request) :: rest)
    (found : tree.connect server = some before)
    (same : ends own = ends before)
    (carries : Carries (rest.map Prod.snd)
      (owed server (tree.pendingMessageList before.server)) own)
    (response : τ) :
    (({ tree with connect := Function.update tree.connect server (some own)
      }.answerTo origin (request, response)).setPendingMessageList server
        rest).Consistent nodes := by
  have sameServer : own.server = before.server := congrArg Prod.fst same
  have below := (consistent.above server before found).1
  have origins : ∀ number, origin = some number →
      ∃ connect, tree.connect number = some connect ∧
        connect.server = server ∧ connect.inServer = true := by
    intro number from'
    apply consistent.origins server number request
    rw [pending, from']
    exact List.mem_cons_self
  have elsewhere : origin ≠ some server := by
    intro from'
    obtain ⟨connect, is, same, _⟩ := origins server from'
    rw [found] at is
    cases is
    omega
  rw [answerTo_eq]
  apply consistent.update
  · intro number
    dsimp only
    split
    next from' =>
      have different : number ≠ server := fun equal => elsewhere (equal ▸ from')
      rw [Function.update_of_ne different, Option.map_map]
      congr 1
      funext connect
      exact ends_sent
    · by_cases here : number = server
      · subst here
        rw [Function.update_self, found, Option.map_some, Option.map_some, same]
      · rw [Function.update_of_ne here]
  · intro number other member
    apply consistent.origins server number other
    rw [pending]
    exact List.mem_cons_of_mem _ member
  · intro client
    rw [isServer] at client
    cases client
  · intro absent
    rw [found] at absent
    cases absent
  · intro number connect is
    dsimp only at is
    by_cases here : number = server
    · subst here
      rw [if_neg elsewhere, Function.update_self] at is
      cases is
      rw [waiting_setPendingMessageList_self, if_pos isServer, sameServer,
        Function.update_of_ne (by omega)]
      exact carries
    · rw [waiting_setPendingMessageList_of_ne here]
      rw [Function.update_of_ne here] at is
      by_cases from' : origin = some number
      · -- The response goes to this one.
        obtain ⟨link, isLink, below, _⟩ := origins number from'
        rw [if_pos from', isLink, Option.map_some] at is
        cases is
        have before := consistent.carries number link isLink
        rw [below, pending, from', owed_cons_self] at before
        have after := before.respond response
        have at' : (if link.alive then
            { link with downstream := link.downstream ++ [(request, response)] }
          else link).server = server := by
          rw [← below]
          exact congrArg Prod.fst ends_sent
        rw [at', Function.update_self]
        exact after
      · rw [if_neg from'] at is
        have before := consistent.carries number connect is
        by_cases below : connect.server = server
        · rw [below, Function.update_self]
          rw [below, pending, owed_cons_of_ne from'] at before
          exact before
        · rw [Function.update_of_ne below]
          exact before

/-- A server node remembers a request of a child and sends it to the parent. -/
theorem Consistent.remember
    {upstream : List ρ} {link parent : UpstreamConnect ρ τ}
    (found : tree.connect number = some link)
    (inServer : link.inServer = true)
    (sent : link.upstream = request :: upstream)
    (below : link.server = server)
    (above : tree.connect server = some parent) :
    (({ tree with
        connect := Function.update tree.connect number (some { link with upstream })
      }.setPendingMessageList server
        (tree.pendingMessageList server ++ [(some number, request)])).sendToParent
          server request).Consistent nodes := by
  have order : server < number ∧ nodes.isServer server = true :=
    below ▸ consistent.above number link found
  have different : server ≠ number := by omega
  have reordered :
      (({ tree with
          connect :=
            Function.update tree.connect number (some { link with upstream })
        }.setPendingMessageList server
          (tree.pendingMessageList server ++ [(some number, request)])).sendToParent
            server request) =
      ({ tree with
          connect :=
            Function.update
              (Function.update tree.connect number (some { link with upstream }))
              server
              (some (if parent.alive then
                  { parent with upstream := parent.upstream ++ [request] }
                else parent))
        }.setPendingMessageList server
          (tree.pendingMessageList server ++ [(some number, request)])) := by
    rw [sendToParent, changeConnect, setPendingMessageList]
    dsimp only
    rw [Function.update_of_ne different, above]
    rfl
  have sameEnds : ends (if parent.alive then
      { parent with upstream := parent.upstream ++ [request] }
    else parent) = ends parent := by
    split <;> rfl
  rw [reordered]
  apply consistent.update
  · intro other
    by_cases here : other = server
    · subst here
      rw [Function.update_self, above, Option.map_some, Option.map_some, sameEnds]
    · rw [Function.update_of_ne here]
      by_cases there : other = number
      · subst there
        rw [Function.update_self, found]
        rfl
      · rw [Function.update_of_ne there]
  · intro other another member
    rcases List.mem_append.mp member with before | added
    · exact consistent.origins server other another before
    · cases List.mem_singleton.mp added
      exact ⟨link, found, below, inServer⟩
  · intro client
    rw [order.2] at client
    cases client
  · intro absent
    rw [above] at absent
    cases absent
  · intro other connect is
    by_cases here : other = server
    · subst here
      rw [Function.update_self] at is
      cases is
      have before := consistent.carries other parent above
      have after := before.send request
      have above := (consistent.above other parent above).1
      have at' : (if parent.alive then
          { parent with upstream := parent.upstream ++ [request] }
        else parent).server = parent.server := congrArg Prod.fst sameEnds
      rw [waiting_setPendingMessageList_self, if_pos order.2, at',
        Function.update_of_ne (by omega), List.map_append]
      rw [waiting, if_pos order.2] at after
      exact after
    · rw [waiting_setPendingMessageList_of_ne here]
      rw [Function.update_of_ne here] at is
      by_cases there : other = number
      · subst there
        rw [Function.update_self] at is
        cases is
        have after := (consistent.carries other link found).remember sent
        rw [below] at after
        dsimp only
        rw [below, Function.update_self, owed_append, owed_cons_self]
        exact after
      · rw [Function.update_of_ne there] at is
        have before := consistent.carries other connect is
        by_cases beside : connect.server = server
        · have elsewhere : some number ≠ some other :=
            fun equal => there (Option.some.inj equal).symm
          rw [beside, Function.update_self, owed_append,
            owed_cons_of_ne elsewhere]
          rw [beside] at before
          rw [show owed other ([] : List (Option Nat × ρ)) = [] from rfl,
            List.append_nil]
          exact before
        · rw [Function.update_of_ne beside]
          exact before

/-- A client asks, or takes a response. -/
theorem Consistent.client
    {asked : List ρ} {answered : List (ρ × τ)}
    (client : nodes.isServer number = false)
    (found : tree.connect number = some before)
    (same : ends own = ends before)
    (begins : answered.map Prod.fst <+: asked)
    (carries : Carries (asked.drop answered.length)
      (owed number (tree.pendingMessageList before.server)) own) :
    { tree with
      connect := Function.update tree.connect number (some own)
      asked := Function.update tree.asked number asked
      answered := Function.update tree.answered number answered
      }.Consistent nodes := by
  obtain ⟨sameServer, sameIn⟩ : own.server = before.server ∧
      own.inServer = before.inServer := by
    simpa only [ends, Prod.mk.injEq] using same
  have waits : ∀ other, other ≠ number →
      ServerTree.waiting nodes other { tree with
        connect := Function.update tree.connect number (some own)
        asked := Function.update tree.asked number asked
        answered := Function.update tree.answered number answered } =
      tree.waiting nodes other := by
    intro other different
    rw [waiting, waiting]
    dsimp only
    rw [Function.update_of_ne different, Function.update_of_ne different]
  refine ⟨consistent.accepted, ?_, consistent.clients, ?_, ?_, ?_, ?_⟩
  · intro other
    by_cases here : other = number
    · subst here
      dsimp only
      rw [Function.update_self, Function.update_self]
      exact begins
    · dsimp only
      rw [Function.update_of_ne here, Function.update_of_ne here]
      exact consistent.answered other
  · intro other absent
    by_cases here : other = number
    · subst here
      dsimp only at absent
      rw [Function.update_self] at absent
      cases absent
    · dsimp only at absent
      rw [Function.update_of_ne here] at absent
      rw [waits other here]
      exact consistent.unconnected other absent
  · intro server other request member
    obtain ⟨connect, is, at', inServer⟩ :=
      consistent.origins server other request member
    by_cases here : other = number
    · subst here
      rw [found] at is
      cases is
      exact ⟨own, Function.update_self .., sameServer.trans at',
        sameIn.trans inServer⟩
    · exact ⟨connect, (Function.update_of_ne here ..).trans is, at', inServer⟩
  · intro other connect is
    by_cases here : other = number
    · subst here
      dsimp only at is
      rw [Function.update_self] at is
      cases is
      rw [sameServer]
      exact consistent.above other before found
    · dsimp only at is
      rw [Function.update_of_ne here] at is
      exact consistent.above other connect is
  · intro other connect is
    by_cases here : other = number
    · subst here
      dsimp only at is
      rw [Function.update_self] at is
      cases is
      rw [waiting, client]
      dsimp only
      rw [Function.update_self, Function.update_self, sameServer]
      exact carries
    · dsimp only at is
      rw [Function.update_of_ne here] at is
      rw [waits other here]
      exact consistent.carries other connect is

/-- What the server nodes know otherwise does not matter. -/
theorem Consistent.node
    (node : Nat → σ) :
    { tree with node }.Consistent nodes :=
  ⟨consistent.accepted, consistent.answered, consistent.clients,
    consistent.unconnected, consistent.origins, consistent.above,
    consistent.carries⟩

/-- A server node or client connects. -/
theorem Consistent.insertConnect
    (absent : tree.connect number = none)
    (below : server < number)
    (isServer : nodes.isServer server = true) :
    { tree with
      connect := Function.update tree.connect number
        (some ⟨server, true, true, true, [], []⟩) }.Consistent nodes := by
  have unasked : owed number (tree.pendingMessageList server) = [] := by
    apply owed_eq_nil
    intro request member
    obtain ⟨connect, is, _⟩ := consistent.origins server number request member
    rw [absent] at is
    cases is
  refine ⟨consistent.accepted, consistent.answered, consistent.clients,
    ?_, ?_, ?_, ?_⟩
  · intro other none'
    apply consistent.unconnected other
    by_cases here : other = number
    · rw [here]
      exact absent
    · exact (Function.update_of_ne here ..).symm.trans none'
  · intro above other request member
    obtain ⟨connect, is, found⟩ := consistent.origins above other request member
    have here : other ≠ number := by
      rintro rfl
      rw [absent] at is
      cases is
    exact ⟨connect, (Function.update_of_ne here ..).trans is, found⟩
  · intro other connect is
    by_cases here : other = number
    · subst here
      dsimp only at is
      rw [Function.update_self] at is
      cases is
      exact ⟨below, isServer⟩
    · dsimp only at is
      rw [Function.update_of_ne here] at is
      exact consistent.above other connect is
  · intro other connect is
    by_cases here : other = number
    · subst here
      dsimp only at is
      rw [Function.update_self] at is
      cases is
      have waits : waiting nodes other { tree with
          connect := Function.update tree.connect other
            (some ⟨server, true, true, true, [], []⟩) } = [] :=
        consistent.unconnected other absent
      dsimp only
      rw [waits, unasked]
      exact ⟨fun _ => ⟨rfl, rfl⟩, fun _ => rfl, fun _ => List.nil_prefix⟩
    · dsimp only at is
      rw [Function.update_of_ne here] at is
      exact consistent.carries other connect is

end

theorem waiting_removeChildConnect
    {other : Nat} {connect : UpstreamConnect ρ τ} :
    (tree.removeChildConnect number connect).waiting nodes other =
      tree.waiting nodes other := by
  rw [removeChildConnect]
  by_cases here : other = connect.server
  · subst here
    rw [waiting_setPendingMessageList_self, waiting, List.map_map]
    have same : ((Prod.snd ∘ fun entry : Option Nat × ρ =>
        if entry.1 = some number then (none, entry.2) else entry)) = Prod.snd := by
      funext entry
      rw [Function.comp_apply]
      split <;> rfl
    rw [same]
    rfl
  · exact waiting_setPendingMessageList_of_ne here

/-- The responses for a child that is lost are still kept track of. -/
theorem Consistent.removeChildConnect
    {link : UpstreamConnect ρ τ}
    (consistent : tree.Consistent nodes)
    (found : tree.connect number = some link)
    (broken : link.alive = false) :
    (tree.removeChildConnect number link).Consistent nodes := by
  have order := consistent.above number link found
  have connects : (tree.removeChildConnect number link).connect =
      Function.update tree.connect number
        (some { link with inServer := false, upstream := [] }) := by
    rw [ServerTree.removeChildConnect, setPendingMessageList, changeConnect]
    dsimp only
    rw [found]
    rfl
  have pending : (tree.removeChildConnect number link).pendingMessageList =
      Function.update tree.pendingMessageList link.server
        ((tree.pendingMessageList link.server).map fun entry =>
          if entry.1 = some number then (none, entry.2) else entry) := rfl
  refine ⟨consistent.accepted, consistent.answered, ?_, ?_, ?_, ?_, ?_⟩
  · intro other client
    rw [pending]
    by_cases here : other = link.server
    · rw [here, order.2] at client
      cases client
    · rw [Function.update_of_ne here]
      exact consistent.clients other client
  · intro other absent
    rw [waiting_removeChildConnect]
    apply consistent.unconnected other
    rw [connects] at absent
    by_cases here : other = number
    · subst here
      rw [Function.update_self] at absent
      cases absent
    · rw [Function.update_of_ne here] at absent
      exact absent
  · intro server other request member
    have before : (some other, request) ∈ tree.pendingMessageList server ∧
        (server = link.server → other ≠ number) := by
      rw [pending] at member
      by_cases here : server = link.server
      · subst here
        rw [Function.update_self] at member
        obtain ⟨entry, inside, same⟩ := List.mem_map.mp member
        by_cases mine : entry.1 = some number
        · rw [if_pos mine] at same
          cases same
        · rw [if_neg mine] at same
          subst same
          exact ⟨inside, fun _ equal => mine (congrArg some equal)⟩
      · rw [Function.update_of_ne here] at member
        exact ⟨member, fun equal => absurd equal here⟩
    obtain ⟨connect, is, at', inServer⟩ :=
      consistent.origins server other request before.1
    have different : other ≠ number := by
      rintro rfl
      rw [found] at is
      cases is
      exact before.2 at'.symm rfl
    refine ⟨connect, ?_, at', inServer⟩
    rw [connects, Function.update_of_ne different]
    exact is
  · intro other connect is
    rw [connects] at is
    by_cases here : other = number
    · subst here
      rw [Function.update_self] at is
      cases is
      exact order
    · rw [Function.update_of_ne here] at is
      exact consistent.above other connect is
  · intro other connect is
    rw [waiting_removeChildConnect, pending]
    rw [connects] at is
    by_cases here : other = number
    · -- Nothing comes in any more but the rest of the responses.
      subst here
      rw [Function.update_self] at is
      cases is
      have dead : ¬ link.alive = true := by
        rw [broken]
        exact Bool.false_ne_true
      exact ⟨fun alive => absurd alive dead, fun alive => absurd alive dead,
        (consistent.carries other link found).begins⟩
    · rw [Function.update_of_ne here] at is
      have before := consistent.carries other connect is
      by_cases beside : connect.server = link.server
      · rw [beside, Function.update_self, owed_forget here, ← beside]
        exact before
      · rw [Function.update_of_ne beside]
        exact before

end ServerTree

end ServerNode
end OpenRTI
