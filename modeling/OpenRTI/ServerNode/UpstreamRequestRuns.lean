import OpenRTI.ServerNode.PendingRequests

/-!
# Runs of requests to the root server

In each order in which messages come in and connections come and break, a client gets the
responses to its requests in order, each one made for its request.  Once nothing is on the
way, each client that still has its parent has all of them.
-/

namespace OpenRTI
namespace ServerNode
namespace ServerTree

variable {σ ρ τ : Type} {nodes : ServerNodes σ ρ τ} {tree : ServerTree σ ρ τ}
variable {number : Nat} {request : ρ} {entries rest : List (Option Nat × ρ)}

/-- The root server has no pending requests. -/
def RootsAnswer (nodes : ServerNodes σ ρ τ) (tree : ServerTree σ ρ τ) : Prop :=
  ∀ number, nodes.isServer number = true → tree.isRootServer number = true →
    tree.pendingMessageList number = []

/-! ## Losing the parent -/

theorem eq_of_isSingle
    {reply : RootReply σ τ}
    (single : reply.isSingle = true) :
    ∃ response, reply = ⟨[response], reply.node, false⟩ := by
  obtain ⟨responses, node, thrown⟩ := reply
  simp only [RootReply.isSingle, Bool.and_eq_true, beq_iff_eq,
    Bool.not_eq_true'] at single
  obtain ⟨response, same⟩ := List.length_eq_one_iff.mp single.1
  exact ⟨response, by rw [same, single.2]⟩

variable {server : Nat}

/-- The root server sends its one response. -/
theorem forwardUpstreamMessage_of_isRootServer
    {response : τ} {node : σ}
    (isRootServer : tree.isRootServer server = true)
    (reply : nodes.acceptAsRoot request (tree.node server) =
      ⟨[response], node, false⟩) :
    tree.forwardUpstreamMessage nodes server number request =
      { tree with node := Function.update tree.node server node
        }.answerTo (some number) (request, response) := by
  rw [forwardUpstreamMessage, if_pos isRootServer, acceptAsRoot, reply]
  dsimp only
  rw [Bool.or_false]
  rfl

variable {response : ρ × τ} {origin : Option Nat}

theorem answerTo_setPendingMessageList :
    (tree.setPendingMessageList server entries).answerTo origin response =
      (tree.answerTo origin response).setPendingMessageList server entries := by
  cases origin <;> rfl

theorem setPendingMessageList_setPendingMessageList {server : Nat} :
    (tree.setPendingMessageList server entries).setPendingMessageList server rest =
      tree.setPendingMessageList server rest := by
  rw [setPendingMessageList, setPendingMessageList, setPendingMessageList]
  dsimp only
  rw [Function.update_idem]

variable {own : UpstreamConnect ρ τ}

/-- The new root server responds to one of the pending requests. -/
theorem Consistent.respond_root
    (consistent :
      (tree.setPendingMessageList server ((origin, request) :: rest)).Consistent nodes)
    (found : tree.connect server = some own)
    (broken : own.alive = false)
    (removed : own.isParent = false)
    (response : τ) :
    ((tree.answerTo origin (request, response)).setPendingMessageList server
      rest).Consistent nodes := by
  have pending :
      (tree.setPendingMessageList server
        ((origin, request) :: rest)).pendingMessageList server =
      (origin, request) :: rest := Function.update_self ..
  have isServer : nodes.isServer server = true := by
    by_contra client
    have none' := consistent.clients server (Bool.eq_false_iff.mpr client)
    rw [pending] at none'
    cases none'
  have responded := consistent.respond isServer pending found rfl
    (Carries.gone broken removed) response
  have kept : Function.update tree.connect server (some own) = tree.connect := by
    rw [← found, Function.update_eq_self]
  have same :
      { tree.setPendingMessageList server ((origin, request) :: rest) with
        connect := Function.update
          (tree.setPendingMessageList server ((origin, request) :: rest)).connect
          server (some own) } =
      tree.setPendingMessageList server ((origin, request) :: rest) := by
    rw [setPendingMessageList]
    dsimp only
    rw [kept]
  rw [same, answerTo_setPendingMessageList,
    setPendingMessageList_setPendingMessageList] at responded
  exact responded

/-- The new root server drops a request whose connect is gone. -/
theorem Consistent.drop_root
    (consistent :
      (tree.setPendingMessageList server ((none, request) :: rest)).Consistent nodes)
    (found : tree.connect server = some own)
    (broken : own.alive = false)
    (removed : own.isParent = false) :
    (tree.setPendingMessageList server rest).Consistent nodes := by
  have pending :
      (tree.setPendingMessageList server
        ((none, request) :: rest)).pendingMessageList server =
      (none, request) :: rest := Function.update_self ..
  rw [← setPendingMessageList_setPendingMessageList]
  apply consistent.update
  · intro number
    rfl
  · intro number other member
    apply consistent.origins server number other
    rw [pending]
    exact List.mem_cons_of_mem _ member
  · intro client
    have none' := consistent.clients server client
    rw [pending] at none'
    cases none'
  · intro absent
    change tree.connect server = none at absent
    rw [found] at absent
    cases absent
  · intro number connect is
    by_cases here : number = server
    · subst here
      change tree.connect number = some connect at is
      rw [found] at is
      cases is
      exact Carries.gone broken removed
    · have before := consistent.carries number connect is
      rw [waiting_setPendingMessageList_of_ne here]
      by_cases below : connect.server = server
      · rw [below, pending, owed_cons_of_ne (by simp)] at before
        rw [below, Function.update_self]
        exact before
      · rw [Function.update_of_ne below]
        exact before

/-- The new root server responds to each one of the pending requests. -/
theorem Consistent.replay
    (broken : own.alive = false)
    (removed : own.isParent = false)
    (entries : List (Option Nat × ρ)) :
    ∀ {tree : ServerTree σ ρ τ},
      tree.connect server = some own →
      repliesOnce nodes entries (tree.node server) = true →
      (tree.setPendingMessageList server entries).Consistent nodes →
      ((tree.replay nodes server entries).setPendingMessageList server
        []).Consistent nodes := by
  induction entries with
  | nil =>
      intro tree _ _ consistent
      exact consistent
  | cons entry rest ih =>
      obtain ⟨origin, request⟩ := entry
      intro tree found once consistent
      cases origin with
      | none =>
          exact ih found once
            (consistent.drop_root found broken removed)
      | some number =>
          rw [repliesOnce, Bool.and_eq_true] at once
          obtain ⟨response, reply⟩ := eq_of_isSingle once.1
          have responded := consistent.respond_root found broken removed response
          have isRootServer : tree.isRootServer server = true := by
            rw [ServerTree.isRootServer, found, Option.all_some, removed]
            rfl
          have elsewhere : number ≠ server := by
            rintro rfl
            obtain ⟨connect, is, same, _⟩ := consistent.origins number number
              request (by
                rw [setPendingMessageList]
                dsimp only
                rw [Function.update_self]
                exact List.mem_cons_self)
            have order := (consistent.above number connect is).1
            omega
          rw [ServerTree.replay, List.foldl_cons]
          dsimp only
          rw [forwardUpstreamMessage_of_isRootServer isRootServer reply]
          apply ih
          · rw [answerTo_eq]
            dsimp only
            rw [if_neg (fun equal => elsewhere (Option.some.inj equal))]
            exact found
          · rw [answerTo_eq]
            dsimp only
            rw [Function.update_self]
            exact once.2
          · exact responded.node _

variable {link : UpstreamConnect ρ τ}

/-- A server node that loses its parent has no pending requests. -/
theorem Consistent.removeParentConnect
    (consistent : tree.Consistent nodes)
    (once : repliesOnce nodes (tree.pendingMessageList number)
      (tree.node number) = true)
    (found : tree.connect number = some link)
    (broken : link.alive = false) :
    (tree.removeParentConnect nodes number).Consistent nodes := by
  have changed : tree.changeConnect number (fun connect =>
      { connect with isParent := false, downstream := [] }) =
      { tree with
        connect := Function.update tree.connect number
          (some { link with isParent := false, downstream := [] }) } := by
    rw [changeConnect, found]
    rfl
  have relinked :
      (({ tree with
          connect := Function.update tree.connect number
            (some { link with isParent := false, downstream := [] })
        } : ServerTree σ ρ τ).setPendingMessageList number
          (tree.pendingMessageList number)).Consistent nodes := by
    rw [setPendingMessageList_self { tree with
      connect := Function.update tree.connect number
        (some { link with isParent := false, downstream := [] }) } number]
    refine consistent.relink found ?_ ?_
    · rfl
    · exact Carries.gone broken rfl
  rw [ServerTree.removeParentConnect, changed]
  refine Consistent.replay ?_ ?_ _ (Function.update_self ..) once relinked
  · exact broken
  · rfl

variable {other : Nat}

/-! ## Root servers -/

theorem isRootServer_changeConnect
    {change : UpstreamConnect ρ τ → UpstreamConnect ρ τ}
    (keeps : ∀ connect, (change connect).isParent = connect.isParent) :
    (tree.changeConnect number change).isRootServer other =
      tree.isRootServer other := by
  rw [isRootServer, isRootServer, changeConnect]
  by_cases here : other = number
  · subst here
    dsimp only
    rw [Function.update_self]
    cases tree.connect other with
    | none => rfl
    | some connect => simp [keeps]
  · dsimp only
    rw [Function.update_of_ne here]

theorem isRootServer_update
    {before : UpstreamConnect ρ τ}
    (found : tree.connect number = some before)
    (same : own.isParent = before.isParent) :
    isRootServer { tree with
        connect := Function.update tree.connect number (some own) } other =
      tree.isRootServer other := by
  rw [isRootServer, isRootServer]
  by_cases here : other = number
  · subst here
    dsimp only
    rw [Function.update_self, found]
    simp [same]
  · dsimp only
    rw [Function.update_of_ne here]

theorem isRootServer_send {other : Nat} {response : ρ × τ} :
    (tree.send number response).isRootServer other = tree.isRootServer other := by
  apply isRootServer_changeConnect
  intro connect
  split <;> rfl

theorem isRootServer_sendToParent {other : Nat} :
    (tree.sendToParent number request).isRootServer other =
      tree.isRootServer other := by
  apply isRootServer_changeConnect
  intro connect
  split <;> rfl

theorem isRootServer_acceptAsRoot {server other : Nat} :
    (tree.acceptAsRoot nodes server number request).isRootServer other =
      tree.isRootServer other := by
  have keeps : ∀ (responses : List τ) (tree : ServerTree σ ρ τ),
      (responses.foldl (fun self response => self.send number (request, response))
        tree).isRootServer other = tree.isRootServer other := by
    intro responses
    induction responses with
    | nil => exact fun _ => rfl
    | cons response rest ih =>
        intro tree
        rw [List.foldl_cons, ih, isRootServer_send]
  exact keeps _ _

theorem pendingMessageList_acceptAsRoot {server : Nat} :
    (tree.acceptAsRoot nodes server number request).pendingMessageList =
      tree.pendingMessageList := by
  have keeps : ∀ (responses : List τ) (tree : ServerTree σ ρ τ),
      (responses.foldl (fun self response => self.send number (request, response))
        tree).pendingMessageList = tree.pendingMessageList := by
    intro responses
    induction responses with
    | nil => exact fun _ => rfl
    | cons response rest ih =>
        intro tree
        rw [List.foldl_cons, ih]
        rfl
  exact keeps _ _

theorem isRootServer_forwardUpstreamMessage {server other : Nat} :
    (tree.forwardUpstreamMessage nodes server number request).isRootServer other =
      tree.isRootServer other := by
  rw [forwardUpstreamMessage]
  split
  · exact isRootServer_acceptAsRoot
  · exact isRootServer_sendToParent

theorem pendingMessageList_forwardUpstreamMessage {server other : Nat}
    (elsewhere : other = server → tree.isRootServer server = true) :
    (tree.forwardUpstreamMessage nodes server number request).pendingMessageList
        other =
      tree.pendingMessageList other := by
  rw [forwardUpstreamMessage]
  split
  · rw [pendingMessageList_acceptAsRoot]
  next child =>
    exact Function.update_of_ne (fun equal => child (elsewhere equal)) ..

/-- A response that is taken is passed on to the first pending request. -/
theorem forwardDownstreamMessage_cons
    (pending : tree.pendingMessageList server = (origin, request) :: rest)
    (takes : takesResponse nodes (tree.pendingMessageList server) response.2
      (tree.node server) = true) :
    ∃ node, tree.forwardDownstreamMessage nodes server response =
      ({ tree with node := Function.update tree.node server node }.answerTo origin
        response).setPendingMessageList server rest := by
  rw [pending, takesResponse] at takes
  rw [forwardDownstreamMessage, pending]
  dsimp only
  cases effect : nodes.acceptResponse origin.isSome response.2 (tree.node server) with
  | passedOn node => exact ⟨node, rfl⟩
  | refused =>
      rw [effect] at takes
      cases takes
  | failed node =>
      rw [effect] at takes
      cases takes

theorem isRootServer_answerTo :
    (tree.answerTo origin response).isRootServer other = tree.isRootServer other := by
  cases origin with
  | none => rfl
  | some number => exact isRootServer_send

theorem forwardDownstreamMessage_keeps :
    (tree.forwardDownstreamMessage nodes server response).isRootServer other =
        tree.isRootServer other ∧
      (other ≠ server →
        (tree.forwardDownstreamMessage nodes server response).pendingMessageList
            other =
          tree.pendingMessageList other) := by
  rw [forwardDownstreamMessage]
  split
  · exact ⟨rfl, fun _ => rfl⟩
  next origin _ rest _ =>
    have passes : ∀ passed : ServerTree σ ρ τ,
        (passed.answerTo origin response).pendingMessageList =
          passed.pendingMessageList := by
      intro passed
      rw [answerTo_eq]
    split
    · exact ⟨rfl, fun _ => rfl⟩
    · refine ⟨isRootServer_answerTo, fun different => ?_⟩
      rw [setPendingMessageList]
      dsimp only
      rw [Function.update_of_ne different, passes]
    · refine ⟨isRootServer_answerTo, fun different => ?_⟩
      rw [setPendingMessageList]
      dsimp only
      rw [Function.update_of_ne different, passes]

theorem replay_keeps {server other : Nat} (different : other ≠ server) :
    (tree.replay nodes server entries).isRootServer other =
        tree.isRootServer other ∧
      (tree.replay nodes server entries).pendingMessageList other =
        tree.pendingMessageList other := by
  induction entries generalizing tree with
  | nil => exact ⟨rfl, rfl⟩
  | cons entry rest ih =>
      obtain ⟨origin, request⟩ := entry
      cases origin with
      | none => exact ih
      | some number =>
          obtain ⟨sameRoot, samePending⟩ := @ih
            (tree.forwardUpstreamMessage nodes server number request)
          rw [isRootServer_forwardUpstreamMessage] at sameRoot
          rw [pendingMessageList_forwardUpstreamMessage
            (fun equal => absurd equal different)] at samePending
          exact ⟨sameRoot, samePending⟩

variable {input : ServerTreeInput σ ρ} {after : ServerTree σ ρ τ}

/-- A step does not make a server node forget what it is the root server for. -/
theorem RootsAnswer.next
    (roots : tree.RootsAnswer nodes)
    (stepped : tree.next nodes input = some after) :
    after.RootsAnswer nodes := by
  have keeps : ∀ {after : ServerTree σ ρ τ},
      (∀ number, after.isRootServer number = true →
        tree.isRootServer number = true) →
      (∀ number, tree.isRootServer number = true →
        tree.pendingMessageList number = [] →
        after.pendingMessageList number = []) →
      after.RootsAnswer nodes := by
    intro after sameRoots samePending number isServer isRootServer
    have before := sameRoots number isRootServer
    exact samePending number before (roots number isServer before)
  cases input with
  | insertConnect number server =>
      rw [ServerTree.next] at stepped
      split at stepped
      next holds =>
        cases stepped
        apply keeps
        · intro other isRootServer
          rw [ServerTree.isRootServer] at isRootServer ⊢
          by_cases here : other = number
          · rw [here, Option.isNone_iff_eq_none.mp holds.1]
            rfl
          · dsimp only at isRootServer
            rw [Function.update_of_ne here] at isRootServer
            exact isRootServer
        · intro other _ pending
          exact pending
      · cases stepped
  | ask number request =>
      rw [ServerTree.next] at stepped
      split at stepped
      · cases stepped
        apply keeps
        · intro other isRootServer
          rw [isRootServer_sendToParent] at isRootServer
          exact isRootServer
        · intro other _ pending
          exact pending
      · cases stepped
  | receiveRequest number =>
      rw [ServerTree.next] at stepped
      split at stepped
      next server alive isParent request upstream downstream found =>
        cases stepped
        have same : ∀ other, ServerTree.isRootServer { tree with
            connect := Function.update tree.connect number
              (some ⟨server, alive, true, isParent, upstream, downstream⟩) } other =
            tree.isRootServer other := fun _ => isRootServer_update found rfl
        apply keeps
        · intro other isRootServer
          rw [isRootServer_forwardUpstreamMessage, same] at isRootServer
          exact isRootServer
        · intro other isRootServer pending
          rw [pendingMessageList_forwardUpstreamMessage]
          · exact pending
          · rintro rfl
            rw [same]
            exact isRootServer
      · cases stepped
  | receiveResponse number =>
      rw [ServerTree.next] at stepped
      split at stepped
      next server alive inServer upstream response downstream found =>
        have same : ∀ other, ServerTree.isRootServer { tree with
            connect := Function.update tree.connect number
              (some ⟨server, alive, inServer, true, upstream, downstream⟩) } other =
            tree.isRootServer other := fun _ => isRootServer_update found rfl
        have child : ¬ tree.isRootServer number = true := by
          rw [ServerTree.isRootServer, found]
          simp
        dsimp only at stepped
        split at stepped
        · cases stepped
          apply keeps
          · intro other isRootServer
            rw [forwardDownstreamMessage_keeps.1, same] at isRootServer
            exact isRootServer
          · intro other isRootServer pending
            rw [forwardDownstreamMessage_keeps.2]
            · exact pending
            · rintro rfl
              exact child isRootServer
        · cases stepped
          apply keeps
          · intro other isRootServer
            exact (same other).symm.trans isRootServer
          · intro other _ pending
            exact pending
      · cases stepped
  | «break» number upstream downstream =>
      cases stepped
      apply keeps
      · intro other isRootServer
        rw [isRootServer_changeConnect] at isRootServer
        · exact isRootServer
        · intro connect
          rfl
      · intro other _ pending
        exact pending
  | removeChildConnect number =>
      rw [ServerTree.next] at stepped
      split at stepped
      next connect found =>
        split at stepped
        · cases stepped
          apply keeps
          · intro other isRootServer
            have same : (tree.removeChildConnect number connect).isRootServer other =
                tree.isRootServer other := isRootServer_changeConnect fun _ => rfl
            rw [same] at isRootServer
            exact isRootServer
          · intro other _ pending
            rw [ServerTree.removeChildConnect, setPendingMessageList]
            dsimp only
            by_cases here : other = connect.server
            · rw [here, Function.update_self, ← here, pending, List.map_nil]
            · rw [Function.update_of_ne here]
              exact pending
        · cases stepped
      · cases stepped
  | removeParentConnect number =>
      rw [ServerTree.next] at stepped
      split at stepped
      next connect found =>
        split at stepped
        · cases stepped
          intro other isServer isRootServer
          rw [ServerTree.removeParentConnect] at isRootServer ⊢
          by_cases here : other = number
          · rw [here]
            exact Function.update_self ..
          · obtain ⟨sameRoot, samePending⟩ := @replay_keeps σ ρ τ nodes
              (tree.changeConnect number fun connect =>
                { connect with isParent := false, downstream := [] })
              (tree.pendingMessageList number) number other here
            have before : tree.isRootServer other = true := by
              have kept := sameRoot.symm.trans isRootServer
              rw [ServerTree.isRootServer, changeConnect] at kept
              dsimp only at kept
              rw [Function.update_of_ne here] at kept
              exact kept
            rw [setPendingMessageList]
            dsimp only
            rw [Function.update_of_ne here, samePending]
            exact roots other isServer before
        · cases stepped
      · cases stepped
  | changeNode number node =>
      cases stepped
      exact roots

/-! ## Steps -/

theorem not_isRootServer
    (child : ¬ tree.isRootServer number = true) :
    ∃ connect, tree.connect number = some connect ∧ connect.isParent = true := by
  rw [isRootServer] at child
  cases found : tree.connect number with
  | none =>
      rw [found] at child
      exact absurd rfl child
  | some connect =>
      rw [found, Option.all_some] at child
      exact ⟨connect, rfl, by simpa using child⟩

variable {alive : Bool} {upstream : List ρ} {downstream : List (ρ × τ)}

/-- A request of a child comes in. -/
theorem Consistent.receiveRequest
    {isParent : Bool}
    (consistent : tree.Consistent nodes) (roots : tree.RootsAnswer nodes)
    (found : tree.connect number =
      some ⟨server, alive, true, isParent, request :: upstream, downstream⟩)
    (once : tree.isRootServer server = true →
      (nodes.acceptAsRoot request (tree.node server)).isSingle = true) :
    ({ tree with
      connect := Function.update tree.connect number
        (some ⟨server, alive, true, isParent, upstream, downstream⟩)
      }.forwardUpstreamMessage nodes server number request).Consistent nodes := by
  have order := consistent.above number _ found
  have sameRoot : ServerTree.isRootServer { tree with
      connect := Function.update tree.connect number
        (some ⟨server, alive, true, isParent, upstream, downstream⟩) } server =
      tree.isRootServer server := isRootServer_update found rfl
  by_cases isRootServer : tree.isRootServer server = true
  · -- The response is on the way at once.
    obtain ⟨response, reply⟩ := eq_of_isSingle (once isRootServer)
    have pending := roots server order.2 isRootServer
    have remembered := (consistent.carries number _ found).remember rfl
    dsimp only at remembered
    rw [pending] at remembered
    have responded : Carries (tree.waiting nodes number) [] _ :=
      Carries.respond remembered response
    have unasked : owed number (tree.pendingMessageList server) = [] := by
      rw [pending]
      rfl
    have relinked :
        Consistent nodes { tree with
          connect := Function.update tree.connect number (some
            (if alive then
              ⟨server, alive, true, isParent, upstream, downstream ++
                [(request, response)]⟩
            else ⟨server, alive, true, isParent, upstream, downstream⟩)) } := by
      refine consistent.relink found ?_ ?_
      · split <;> rfl
      · rw [unasked]
        exact responded
    rw [forwardUpstreamMessage_of_isRootServer (sameRoot.trans isRootServer) reply,
      answerTo, ServerTree.send, changeConnect]
    dsimp only
    rw [Function.update_self, Function.update_idem]
    exact relinked.node _
  · obtain ⟨parent, above, _⟩ := not_isRootServer isRootServer
    rw [forwardUpstreamMessage, sameRoot, if_neg isRootServer]
    exact consistent.remember found rfl rfl rfl above

variable {inServer : Bool}

section

variable (consistent : tree.Consistent nodes)
include consistent

/-- A response of the parent comes in to a server node. -/
theorem Consistent.receiveResponse
    (isServer : nodes.isServer number = true)
    (found : tree.connect number =
      some ⟨server, alive, inServer, true, upstream, response :: downstream⟩)
    (takes : takesResponse nodes (tree.pendingMessageList number) response.2
      (tree.node number) = true) :
    ({ tree with
      connect := Function.update tree.connect number
        (some ⟨server, alive, inServer, true, upstream, downstream⟩)
      }.forwardDownstreamMessage nodes number response).Consistent nodes := by
  obtain ⟨waits, same, received⟩ :=
    (consistent.carries number _ found).receive rfl rfl
  rw [waiting, if_pos isServer] at same
  cases pending : tree.pendingMessageList number with
  | nil =>
      rw [pending] at same
      cases same
  | cons entry rest =>
      obtain ⟨origin, request⟩ := entry
      rw [pending, List.map_cons] at same
      obtain ⟨sameRequest, sameRest⟩ := List.cons.inj same
      dsimp only at sameRequest
      subst sameRest sameRequest
      have kept : ServerTree.pendingMessageList { tree with
          connect := Function.update tree.connect number
            (some ⟨server, alive, inServer, true, upstream, downstream⟩) } number =
          (origin, response.1) :: rest := pending
      obtain ⟨node, forwarded⟩ := forwardDownstreamMessage_cons kept takes
      rw [forwarded]
      refine (consistent.node (Function.update tree.node number node)).respond
        isServer pending found ?_ received _
      rfl

/-- A response of the parent comes in to a client. -/
theorem Consistent.takeResponse
    (client : nodes.isServer number = false)
    (found : tree.connect number =
      some ⟨server, alive, inServer, true, upstream, response :: downstream⟩) :
    { tree with
      connect := Function.update tree.connect number
        (some ⟨server, alive, inServer, true, upstream, downstream⟩)
      answered := Function.update tree.answered number
        (tree.answered number ++ [response]) }.Consistent nodes := by
  obtain ⟨waits, same, received⟩ :=
    (consistent.carries number _ found).receive rfl rfl
  rw [waiting, client] at same
  have begins := consistent.answered number
  obtain ⟨more, is⟩ := begins
  have rest : more = response.1 :: waits := by
    rw [← same, ← is, if_neg Bool.false_ne_true,
      show (tree.answered number).length =
        ((tree.answered number).map Prod.fst).length from
          (List.length_map _).symm,
      List.drop_left]
  have after : tree.asked number =
      (tree.answered number ++ [response]).map Prod.fst ++ waits := by
    rw [← is, rest, List.map_append, List.append_assoc]
    rfl
  have waitsAfter :
      (tree.asked number).drop (tree.answered number ++ [response]).length =
        waits := by
    rw [after, show (tree.answered number ++ [response]).length =
      ((tree.answered number ++ [response]).map Prod.fst).length from
        (List.length_map _).symm, List.drop_left]
  rw [← waitsAfter] at received
  have taken := consistent.client client found
    (show ends ⟨server, alive, inServer, true, upstream, downstream⟩ = ends
      ⟨server, alive, inServer, true, upstream, response :: downstream⟩ from rfl)
    ⟨waits, after.symm⟩ received
  rw [Function.update_eq_self] at taken
  exact taken

/-- A client asks. -/
theorem Consistent.ask
    (client : nodes.isServer number = false)
    (found : tree.connect number = some link)
    (request : ρ) :
    ({ tree with
      asked := Function.update tree.asked number (tree.asked number ++ [request])
      }.sendToParent number request).Consistent nodes := by
  have begins := consistent.answered number
  have short : (tree.answered number).length ≤ (tree.asked number).length := by
    have := begins.length_le
    rw [List.length_map] at this
    exact this
  have sent := (consistent.carries number link found).send request
  rw [waiting, client, if_neg Bool.false_ne_true,
    ← List.drop_append_of_le_length short] at sent
  have asks := consistent.client client found
    (show ends _ = ends link by split <;> rfl)
    (begins.trans (List.prefix_append _ [request])) sent
  rw [Function.update_eq_self] at asks
  rw [sendToParent, changeConnect]
  dsimp only
  rw [found]
  exact asks

/-- A connection breaks. -/
theorem Consistent.broken
    (upstream downstream : Nat) :
    (tree.changeConnect number fun connect =>
      { connect with
        alive := false
        upstream := connect.upstream.take upstream
        downstream := connect.downstream.take downstream }).Consistent nodes := by
  rw [changeConnect]
  cases found : tree.connect number with
  | none =>
      rw [Option.map_none, ← found, Function.update_eq_self]
      exact consistent
  | some connect =>
      rw [Option.map_some]
      refine consistent.relink found ?_ ?_
      · rfl
      · exact (consistent.carries number connect found).broken upstream downstream

/-- A step keeps what is pending consistent. -/
theorem Consistent.next
    (roots : tree.RootsAnswer nodes)
    (once : tree.answersOnce nodes input = true)
    (stepped : tree.next nodes input = some after) :
    after.Consistent nodes := by
  cases input with
  | insertConnect number server =>
      rw [ServerTree.next] at stepped
      split at stepped
      next holds =>
        cases stepped
        exact consistent.insertConnect (Option.isNone_iff_eq_none.mp holds.1)
          holds.2.1 holds.2.2
      · cases stepped
  | ask number request =>
      rw [ServerTree.next] at stepped
      split at stepped
      next holds =>
        cases stepped
        obtain ⟨link, found, _⟩ := not_isRootServer holds.2
        exact consistent.ask (Bool.eq_false_iff.mpr holds.1) found request
      · cases stepped
  | receiveRequest number =>
      rw [ServerTree.next] at stepped
      split at stepped
      next server alive isParent request upstream downstream found =>
        cases stepped
        apply consistent.receiveRequest roots found
        intro isRootServer
        rw [answersOnce, found] at once
        dsimp only at once
        rw [isRootServer] at once
        exact once
      · cases stepped
  | receiveResponse number =>
      rw [ServerTree.next] at stepped
      split at stepped
      next server alive inServer upstream response downstream found =>
        dsimp only at stepped
        split at stepped
        next isServer =>
          cases stepped
          apply consistent.receiveResponse isServer found
          rw [answersOnce, found] at once
          dsimp only at once
          rw [isServer] at once
          exact once
        next client =>
          cases stepped
          exact consistent.takeResponse (Bool.eq_false_iff.mpr client) found
      · cases stepped
  | «break» number upstream downstream =>
      cases stepped
      exact consistent.broken upstream downstream
  | removeChildConnect number =>
      rw [ServerTree.next] at stepped
      split at stepped
      next connect found =>
        split at stepped
        next holds =>
          cases stepped
          exact consistent.removeChildConnect found
            (Bool.eq_false_iff.mpr holds.1)
        · cases stepped
      · cases stepped
  | removeParentConnect number =>
      rw [ServerTree.next] at stepped
      split at stepped
      next connect found =>
        split at stepped
        next holds =>
          cases stepped
          exact consistent.removeParentConnect once found
            (Bool.eq_false_iff.mpr holds.1)
        · cases stepped
      · cases stepped
  | changeNode number node =>
      cases stepped
      exact consistent.node _

end

/-! ## Runs -/

/-- Nothing is on the way, and each server node and client knows if its parent is lost. -/
def Quiet (tree : ServerTree σ ρ τ) : Prop :=
  ∀ number connect, tree.connect number = some connect →
    (connect.alive = true → connect.upstream = [] ∧ connect.downstream = []) ∧
    (connect.alive = false → connect.isParent = false)

/-- A client gets responses to its requests in order, and to all of them. -/
structure Answers
    (nodes : ServerNodes σ ρ τ)
    (tree : ServerTree σ ρ τ) : Prop where
  accepted : tree.messageError = false
  inOrder : ∀ number, (tree.answered number).map Prod.fst <+: tree.asked number
  complete : tree.Quiet →
    ∀ number, nodes.isServer number = false → tree.isRootServer number = false →
      (tree.answered number).map Prod.fst = tree.asked number

/-- A server node and a client wait for nothing when nothing is on the way. -/
theorem Consistent.waiting_eq_nil
    (consistent : tree.Consistent nodes) (roots : tree.RootsAnswer nodes)
    (quiet : tree.Quiet) (number : Nat)
    (waits : nodes.isServer number = true ∨ tree.isRootServer number = false) :
    tree.waiting nodes number = [] := by
  -- By the way to the root server, which has smaller numbers.
  induction number using Nat.strongRecOn with
  | ind number ih =>
      by_cases isRootServer : tree.isRootServer number = true
      · have isServer : nodes.isServer number = true := by
          rcases waits with isServer | child
          · exact isServer
          · rw [isRootServer] at child
            cases child
        rw [waiting, if_pos isServer, roots number isServer isRootServer]
        rfl
      · obtain ⟨connect, found, isParent⟩ := not_isRootServer isRootServer
        obtain ⟨order, isServer⟩ := consistent.above number connect found
        have alive : connect.alive = true := by
          by_contra broken
          have removed := (quiet number connect found).2
            (Bool.eq_false_iff.mpr broken)
          rw [isParent] at removed
          cases removed
        obtain ⟨upstream, downstream⟩ := (quiet number connect found).1 alive
        have above := ih connect.server order (.inl isServer)
        rw [waiting, if_pos isServer, List.map_eq_nil_iff] at above
        have whole := (consistent.carries number connect found).whole alive
        rw [upstream, downstream, above] at whole
        exact whole

/-- Whatever happens in a tree of server nodes, and in each order, a client gets the
responses to its requests in order, if each request gets one response. -/
theorem answers_of_reachable
    {node : Nat → σ}
    (reachable : (system nodes node).ReachableUnder
      (fun before input => before.answersOnce nodes input = true) tree) :
    tree.Answers nodes := by
  have kept : tree.Consistent nodes ∧ tree.RootsAnswer nodes := by
    apply reachable.invariant
      (fun tree => tree.Consistent nodes ∧ tree.RootsAnswer nodes)
    · refine ⟨⟨rfl, fun _ => List.prefix_rfl, fun _ _ => rfl, ?_, ?_, ?_, ?_⟩,
        fun _ _ _ => rfl⟩
      · intro number _
        rw [waiting]
        split <;> rfl
      · intro server number request member
        cases member
      · intro number connect found
        cases found
      · intro number connect found
        cases found
    · intro before input after holds once stepped
      exact ⟨holds.1.next holds.2 once stepped, holds.2.next stepped⟩
  obtain ⟨consistent, roots⟩ := kept
  refine ⟨consistent.accepted, consistent.answered, ?_⟩
  intro quiet number client child
  have none' := consistent.waiting_eq_nil roots quiet number (.inr child)
  rw [waiting, client, if_neg Bool.false_ne_true, List.drop_eq_nil_iff] at none'
  apply (consistent.answered number).eq_of_length_le
  rw [List.length_map]
  exact none'

end ServerTree
end ServerNode
end OpenRTI
