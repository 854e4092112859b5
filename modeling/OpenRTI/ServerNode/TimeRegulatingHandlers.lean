import OpenRTI.ServerNode.RegulatingConnectLinks

/-!
# What the handlers of a server node do to time regulating federates

Each handler that succeeds keeps the links in order.  What matters of it besides
is which federates have a connect and resign, and what it sends to the parent.
-/

namespace OpenRTI
namespace ServerNode

open Foundation
open Foundation.FailingState
open ServerModel

namespace RegulationServer

variable
  {self : RegulationServer}
  {connectHandle : ConnectHandle}
  {federateHandle : FederateHandle}

/-- The connect of a federate and whether it resigns. -/
def status
    (self : RegulationServer)
    (federateHandle : FederateHandle) :
    Option (Option ConnectHandle × Bool) :=
  (self.federates federateHandle).map fun federate =>
    (federate.federationConnect, federate.resignPending)

theorem connectOf_eq_status (federateHandle : FederateHandle) :
    self.connectOf federateHandle =
      (self.status federateHandle).bind Prod.fst := by
  rw [connectOf, status]
  cases self.federates federateHandle <;> rfl

theorem status_modifyFederate
    (change : RegulatingFederate → RegulatingFederate)
    (other : FederateHandle) :
    (self.modifyFederate federateHandle change).status other =
      if other = federateHandle then
        (self.federates federateHandle).map fun federate =>
          ((change federate).federationConnect, (change federate).resignPending)
      else self.status other := by
  simp only [status, modifyFederate, Function.update_apply]
  split
  · rw [Option.map_map]
    rfl
  · rfl

/-- A change that leaves connects and resignations alone. -/
theorem status_modifyFederate_of_same
    {change : RegulatingFederate → RegulatingFederate}
    (same : ∀ federate,
      (change federate).federationConnect = federate.federationConnect ∧
        (change federate).resignPending = federate.resignPending) :
    (self.modifyFederate federateHandle change).status = self.status := by
  funext other
  rw [status_modifyFederate]
  split
  · next here =>
      rw [here, status]
      cases self.federates federateHandle with
      | none => rfl
      | some federate =>
          rw [Option.map_some, Option.map_some, (same federate).1,
            (same federate).2]
  · rfl

@[simp] theorem status_linkTimeRegulating :
    (self.linkTimeRegulating connectHandle federateHandle).status =
      self.status := by
  refine (status_modifyFederate_of_same ?_).trans rfl
  intro federate
  exact ⟨rfl, rfl⟩

@[simp] theorem status_unlinkTimeRegulating :
    (self.unlinkTimeRegulating connectHandle federateHandle).status =
      self.status := by
  have unlinked : (self.unlinkFederate connectHandle federateHandle).status =
      self.status := by
    refine (status_modifyFederate_of_same ?_).trans rfl
    intro federate
    exact ⟨rfl, rfl⟩
  rw [unlinkTimeRegulating]
  split
  · exact unlinked
  · exact unlinked

@[simp] theorem status_sendToParent (message : RegulationMessage) :
    (self.sendToParent message).status = self.status := rfl

@[simp] theorem status_sendToChildren
    (children : Children) (message : RegulationMessage) :
    (self.sendToChildren children message).status = self.status := rfl

@[simp] theorem status_broadcast (message : RegulationMessage) :
    (self.broadcast connectHandle message).status = self.status := by
  rw [broadcast]
  split <;> rfl

theorem status_disconnectFederate (other : FederateHandle) :
    (self.disconnectFederate federateHandle).status other =
      if other = federateHandle then
        (self.status federateHandle).map fun status => (none, status.2)
      else self.status other := by
  rw [disconnectFederate]
  split
  · next unreached =>
      split
      · next here =>
          subst here
          rw [connectOf_eq_status] at unreached
          cases known : self.status other with
          | none => rfl
          | some status =>
              rw [known] at unreached
              rw [Option.map_some, ← unreached]
              rfl
      · rfl
  · refine (status_modifyFederate _ other).trans ?_
    split
    · rw [status, Option.map_map]
      rfl
    · rfl

theorem status_forgetFederate :
    (self.forgetFederate federateHandle).status =
      Function.update self.status federateHandle none := by
  funext other
  simp only [status, forgetFederate, Function.update_apply]
  split <;> rfl

theorem status_insertFederate_of_known
    (known : (self.connects connectHandle).isSome = true) :
    (self.insertFederate (some connectHandle) federateHandle).status =
      Function.update self.status federateHandle
        (some (some connectHandle, false)) := by
  funext other
  have found : (some connectHandle).filter (fun handle =>
      (self.connects handle).isSome) = some connectHandle :=
    Option.filter_eq_some_iff.mpr ⟨rfl, known⟩
  rw [insertFederate, found]
  simp only [status, connectFederate, modifyConnect, Function.update_apply]
  split <;> rfl

theorem status_insertFederate_none :
    (self.insertFederate none federateHandle).status =
      Function.update self.status federateHandle (some (none, true)) := by
  funext other
  simp only [status, insertFederate, Option.filter_none,
    Function.update_apply]
  split <;> rfl

/-! ## What else a handler changes -/

/-- The links are in order, the connects are still there, and some messages have
been sent to the parent. -/
structure Effect
    (before after : RegulationServer)
    (sent : List RegulationMessage) : Prop where
  linked : after.Linked
  parent : after.parentConnectHandle = before.parentConnectHandle
  connects : ∀ connectHandle,
    (before.connects connectHandle).isSome = true →
      (after.connects connectHandle).isSome = true
  pending : after.pendingMessageList = before.pendingMessageList
  toParent : after.toParent = before.toParent ++ sent

namespace Effect

theorem refl (holds : self.Linked) : Effect self self [] where
  linked := holds
  parent := rfl
  connects _ known := known
  pending := rfl
  toParent := (List.append_nil _).symm

theorem trans
    {before between after : RegulationServer}
    {sent more : List RegulationMessage}
    (first : Effect before between sent)
    (second : Effect between after more) :
    Effect before after (sent ++ more) where
  linked := second.linked
  parent := second.parent.trans first.parent
  connects handle known := second.connects handle (first.connects handle known)
  pending := second.pending.trans first.pending
  toParent := by
    rw [second.toParent, first.toParent, List.append_assoc]

theorem isSome_update_map
    (connects : ConnectHandle → Option RegulatingConnect)
    (change : RegulatingConnect → RegulatingConnect)
    (handle other : ConnectHandle)
    (known : (connects other).isSome = true) :
    (Function.update connects handle
      ((connects handle).map change) other).isSome = true := by
  rw [Function.update_apply]
  split
  · next same => rw [Option.isSome_map, ← same, known]
  · exact known

section

variable (holds : self.Linked)
include holds

theorem linkTimeRegulating
    (reached : self.connectOf federateHandle = some connectHandle) :
    Effect self (self.linkTimeRegulating connectHandle federateHandle) [] where
  linked := holds.linkTimeRegulating reached
  parent := rfl
  connects := isSome_update_map _ _ connectHandle
  pending := rfl
  toParent := (List.append_nil _).symm

theorem unlinkTimeRegulating
    (reached : self.connectOf federateHandle = some connectHandle) :
    Effect self (self.unlinkTimeRegulating connectHandle federateHandle)
      [] where
  linked := holds.unlinkTimeRegulating reached
  parent := by
    rw [RegulationServer.unlinkTimeRegulating]
    split <;> rfl
  connects other := by
    rw [RegulationServer.unlinkTimeRegulating]
    split
    · exact isSome_update_map _ _ connectHandle other
    · exact isSome_update_map _ _ connectHandle other
  pending := by
    rw [RegulationServer.unlinkTimeRegulating]
    split <;> rfl
  toParent := by
    rw [RegulationServer.unlinkTimeRegulating, List.append_nil]
    split <;> rfl

theorem sendToParent
    (message : RegulationMessage) :
    Effect self (self.sendToParent message) [message] where
  linked := holds.sendToParent message
  parent := rfl
  connects _ known := known
  pending := rfl
  toParent := rfl

theorem sendToChildren
    (children : Children) (message : RegulationMessage) :
    Effect self (self.sendToChildren children message) [] where
  linked := holds.sendToChildren children message
  parent := rfl
  connects _ known := known
  pending := rfl
  toParent := (List.append_nil _).symm

theorem broadcast
    (connectHandle : ConnectHandle) (message : RegulationMessage) :
    Effect self (self.broadcast connectHandle message)
      (if connectHandle = self.parentConnectHandle then [] else [message]) := by
  rw [RegulationServer.broadcast]
  split
  · exact sendToChildren holds _ message
  · exact (sendToChildren holds _ message).trans
      (sendToParent (holds.sendToChildren _ message) message)

theorem modifyFederate
    {change : RegulatingFederate → RegulatingFederate}
    (connect : ∀ federate,
      (change federate).federationConnect = federate.federationConnect)
    (regulates : ∀ federate,
      (change federate).isTimeRegulating = federate.isTimeRegulating) :
    Effect self (self.modifyFederate federateHandle change) [] where
  linked := holds.modifyFederate connect regulates
  parent := rfl
  connects _ known := known
  pending := rfl
  toParent := (List.append_nil _).symm

theorem disconnectFederate
    (idle : self.isTimeRegulating federateHandle = false) :
    Effect self (self.disconnectFederate federateHandle) [] where
  linked := holds.disconnectFederate idle
  parent := by
    rw [RegulationServer.disconnectFederate]
    split <;> rfl
  connects other := by
    rw [RegulationServer.disconnectFederate]
    split
    · exact id
    · exact isSome_update_map _ _ _ other
  pending := by
    rw [RegulationServer.disconnectFederate]
    split <;> rfl
  toParent := by
    rw [RegulationServer.disconnectFederate, List.append_nil]
    split <;> rfl

theorem forgetFederate
    (unreached : self.connectOf federateHandle = none) :
    Effect self (self.forgetFederate federateHandle) [] where
  linked := holds.forgetFederate unreached
  parent := rfl
  connects _ known := known
  pending := rfl
  toParent := (List.append_nil _).symm

theorem getOrInsertConnect
    (connectHandle : ConnectHandle) :
    Effect self (self.getOrInsertConnect connectHandle) [] where
  linked := holds.getOrInsertConnect connectHandle
  parent := rfl
  connects other known := by
    simp only [RegulationServer.getOrInsertConnect, Function.update_apply]
    split
    · rfl
    · exact known
  pending := rfl
  toParent := (List.append_nil _).symm

end

theorem insertFederate
    (holds : self.Linked)
    (unknown : self.federates federateHandle = none)
    (connect : Option ConnectHandle) :
    Effect self (self.insertFederate connect federateHandle) [] where
  linked := holds.insertFederate unknown connect
  parent := by
    rw [RegulationServer.insertFederate]
    split <;> rfl
  connects other known := by
    rw [RegulationServer.insertFederate]
    split
    · exact isSome_update_map _ _ _ other known
    · exact known
  pending := by
    rw [RegulationServer.insertFederate]
    split <;> rfl
  toParent := by
    rw [RegulationServer.insertFederate, List.append_nil]
    split <;> rfl

end Effect

/-! ## Handlers -/

theorem insertTimeRegulating_eq_ok
    (reached : self.connectOf federateHandle = some connectHandle) :
    insertTimeRegulating federateHandle self =
      .ok () (self.linkTimeRegulating connectHandle federateHandle) := by
  rw [insertTimeRegulating, bind_eq_ok]
  refine ⟨self, self, rfl, ?_⟩
  simp only [reached]
  rfl

theorem eraseTimeRegulating_eq_ok
    (reached : self.connectOf federateHandle = some connectHandle) :
    eraseTimeRegulating federateHandle self =
      .ok () (self.unlinkTimeRegulating connectHandle federateHandle) := by
  rw [eraseTimeRegulating, bind_eq_ok]
  refine ⟨self, self, rfl, ?_⟩
  simp only [reached]
  rfl

/-- What the others are told about a federate that stops. -/
def stopMessages
    (self : RegulationServer)
    (connectHandle : ConnectHandle)
    (federateHandle : FederateHandle) : List RegulationMessage :=
  if self.isTimeRegulating federateHandle ∧
      connectHandle ≠ self.parentConnectHandle then
    [.disableTimeRegulationRequest federateHandle]
  else []

/-- A handler succeeds, sends some messages to the parent and leaves a status of
the federates. -/
def Leaves
    (handler : Handler)
    (before : RegulationServer)
    (sent : List RegulationMessage)
    (status : FederateHandle → Option (Option ConnectHandle × Bool)) : Prop :=
  ∃ after, handler before = .ok () after ∧ Effect before after sent ∧
    after.status = status

theorem eraseTimeRegulating_leaves
    (holds : self.Linked)
    (regulates : self.isTimeRegulating federateHandle = true) :
    ∃ after, eraseTimeRegulating federateHandle self = .ok () after ∧
      Effect self after [] ∧ after.status = self.status ∧
        after.isTimeRegulating federateHandle = false := by
  obtain ⟨connectHandle, reached⟩ :=
    Option.isSome_iff_exists.mp (holds.connected federateHandle regulates)
  refine ⟨_, eraseTimeRegulating_eq_ok reached,
    Effect.unlinkTimeRegulating holds reached, status_unlinkTimeRegulating, ?_⟩
  have unlinked := @isTimeRegulating_unlinkFederate self connectHandle
    federateHandle federateHandle
  rw [if_pos rfl] at unlinked
  rw [unlinkTimeRegulating]
  split
  · exact unlinked
  · exact unlinked

theorem stopTimeRegulating_leaves
    (holds : self.Linked) (connectHandle : ConnectHandle)
    (federateHandle : FederateHandle) :
    ∃ after, stopTimeRegulating connectHandle federateHandle self =
        .ok () after ∧
      Effect self after (self.stopMessages connectHandle federateHandle) ∧
        after.status = self.status ∧
          after.isTimeRegulating federateHandle = false := by
  by_cases regulates : self.isTimeRegulating federateHandle = true
  · obtain ⟨between, erased, effect, status, idle⟩ :=
      eraseTimeRegulating_leaves holds regulates
    have told := Effect.broadcast effect.linked connectHandle
      (.disableTimeRegulationRequest federateHandle)
    refine ⟨between.broadcast connectHandle
      (.disableTimeRegulationRequest federateHandle), ?_, ?_, ?_, ?_⟩
    · rw [stopTimeRegulating, bind_eq_ok]
      refine ⟨self, self, rfl, ?_⟩
      rw [if_pos regulates, bind_eq_ok]
      exact ⟨(), between, erased, rfl⟩
    · have whole := effect.trans told
      rw [effect.parent] at whole
      rw [stopMessages]
      by_cases parent : connectHandle = self.parentConnectHandle
      · simpa [parent] using whole
      · simpa [parent, regulates] using whole
    · rw [status_broadcast, status]
    · rw [RegulationServer.broadcast]
      split
      · exact idle
      · exact idle
  · refine ⟨self, ?_, ?_, rfl, Bool.not_eq_true _ ▸ regulates⟩
    · rw [stopTimeRegulating, bind_eq_ok]
      refine ⟨self, self, rfl, ?_⟩
      rw [if_neg regulates]
      rfl
    · rw [stopMessages, if_neg fun both => regulates both.1]
      exact Effect.refl holds

/-- A federate that does not resign yet resigns. -/
theorem acceptResignFederationExecutionRequest_leaves
    (holds : self.Linked)
    {federate : RegulatingFederate}
    (known : self.federates federateHandle = some federate)
    (pending : federate.resignPending = false) :
    Leaves (acceptResignFederationExecutionRequest connectHandle federateHandle)
      self
      (self.stopMessages connectHandle federateHandle ++
        [.resignFederationExecutionRequest federateHandle])
      (Function.update self.status federateHandle
        (some (federate.federationConnect, true))) := by
  have marked : Effect self (self.modifyFederate federateHandle fun federate =>
      { federate with resignPending := true }) [] :=
    Effect.modifyFederate holds (fun _ => rfl) fun _ => rfl
  obtain ⟨between, stopped, effect, status, _⟩ :=
    stopTimeRegulating_leaves marked.linked connectHandle federateHandle
  refine ⟨between.sendToParent
    (.resignFederationExecutionRequest federateHandle), ?_, ?_, ?_⟩
  · rw [acceptResignFederationExecutionRequest, bind_eq_ok]
    refine ⟨self, self, rfl, ?_⟩
    simp only [known, pending, Bool.false_eq_true, if_false, bind_eq_ok]
    exact ⟨(), _, rfl, (), between, stopped, rfl⟩
  · have whole := (marked.trans effect).trans
      (Effect.sendToParent effect.linked
        (.resignFederationExecutionRequest federateHandle))
    have same : (self.modifyFederate federateHandle fun federate =>
        { federate with resignPending := true }).stopMessages connectHandle
          federateHandle =
        self.stopMessages connectHandle federateHandle := by
      have regulates : (self.modifyFederate federateHandle fun federate =>
          { federate with resignPending := true }).isTimeRegulating
            federateHandle = self.isTimeRegulating federateHandle := by
        simp only [isTimeRegulating, modifyFederate, Function.update_self]
        rw [known]
        rfl
      rw [stopMessages, stopMessages, regulates]
      rfl
    rw [List.nil_append, same] at whole
    exact whole
  · rw [status_sendToParent, status]
    funext other
    rw [status_modifyFederate, Function.update_apply, known]
    rfl

/-- A federate that resigns already only loses its connect. -/
theorem resignFederate_leaves
    (holds : self.Linked)
    {federate : RegulatingFederate}
    (known : self.federates federateHandle = some federate) :
    Leaves (resignFederate connectHandle federateHandle) self
      (self.stopMessages connectHandle federateHandle ++
        if federate.resignPending then []
        else [.resignFederationExecutionRequest federateHandle])
      (Function.update self.status federateHandle (some (none, true))) := by
  obtain ⟨stopped, stops, effect, status, idle⟩ :=
    stopTimeRegulating_leaves holds connectHandle federateHandle
  have disconnected := Effect.disconnectFederate effect.linked idle
  have left : (stopped.disconnectFederate federateHandle).status
      federateHandle = some (none, federate.resignPending) := by
    rw [status_disconnectFederate, if_pos rfl, status, RegulationServer.status,
      known]
    rfl
  have elsewhere : ∀ other, other ≠ federateHandle →
      (stopped.disconnectFederate federateHandle).status other =
        self.status other := by
    intro other different
    rw [status_disconnectFederate, if_neg different, status]
  obtain ⟨there, found, seen⟩ := Option.map_eq_some_iff.mp left
  have seen : there.federationConnect = none ∧
      there.resignPending = federate.resignPending := Prod.mk.inj seen
  by_cases pending : federate.resignPending = true
  · refine ⟨stopped.disconnectFederate federateHandle, ?_, ?_, ?_⟩
    · simp only [resignFederate, bind_eq_ok]
      refine ⟨(), stopped, stops, (), _, rfl, ?_⟩
      rw [acceptResignFederationExecutionRequest, bind_eq_ok]
      refine ⟨_, _, rfl, ?_⟩
      simp only [found, seen.2, pending, if_true]
      rfl
    · rw [if_pos pending]
      exact effect.trans disconnected
    · funext other
      rw [Function.update_apply]
      split
      · next same => rw [same, left, pending]
      · next different => exact elsewhere other different
  · rw [Bool.not_eq_true] at pending
    obtain ⟨after, resigned, further, leaves⟩ :=
      @acceptResignFederationExecutionRequest_leaves _ connectHandle _
        disconnected.linked there found (seen.2.trans pending)
    refine ⟨after, ?_, ?_, ?_⟩
    · simp only [resignFederate, bind_eq_ok]
      exact ⟨(), stopped, stops, (), _, rfl, resigned⟩
    · have still : (stopped.disconnectFederate
          federateHandle).isTimeRegulating federateHandle = false := by
        rw [disconnectFederate]
        split
        · exact idle
        · rw [isTimeRegulating_unlinkFromConnect]
          exact idle
      rw [stopMessages, if_neg fun both => by simp [still] at both,
        List.nil_append] at further
      rw [if_neg (Bool.not_eq_true _ ▸ pending)]
      have whole := (effect.trans disconnected).trans further
      rwa [List.append_nil] at whole
    · rw [leaves]
      funext other
      rw [Function.update_apply, Function.update_apply, seen.1]
      split
      · rfl
      · next different => exact elsewhere other different

/-- A handler succeeds or reports a message error. -/
def Completes
    (handler : Handler)
    (before : RegulationServer)
    (sent : List RegulationMessage)
    (status : FederateHandle → Option (Option ConnectHandle × Bool)) : Prop :=
  ∃ after, (handler before = .ok () after ∨
      ∃ reason, handler before = .error (.messageError reason) after) ∧
    Effect before after sent ∧ after.status = status

theorem Leaves.completes
    {handler : Handler} {sent : List RegulationMessage}
    {status : FederateHandle → Option (Option ConnectHandle × Bool)}
    (leaves : Leaves handler self sent status) :
    Completes handler self sent status := by
  obtain ⟨after, ran, effect, same⟩ := leaves
  exact ⟨after, .inl ran, effect, same⟩

section

variable (holds : self.Linked)
include holds

theorem completes_of_messageError
    {handler : Handler} {reason : Reason}
    (thrown : handler self = .error (.messageError reason) self) :
    Completes handler self [] self.status :=
  ⟨self, .inr ⟨reason, thrown⟩, Effect.refl holds, rfl⟩

/-- A request on its way up is passed on. -/
theorem acceptEnableTimeRegulationRequest_up
    (known : (self.federates federateHandle).isSome = true)
    (child : connectHandle ≠ self.parentConnectHandle)
    (timeStamp : VariableLengthData) (commitId : Nat) :
    Completes (acceptEnableTimeRegulationRequest connectHandle federateHandle
        timeStamp commitId) self
      [.enableTimeRegulationRequest federateHandle timeStamp commitId]
      self.status := by
  obtain ⟨federate, found⟩ := Option.isSome_iff_exists.mp known
  refine Leaves.completes ⟨_, ?_, Effect.sendToParent holds _, rfl⟩
  rw [acceptEnableTimeRegulationRequest, bind_eq_ok]
  refine ⟨self, self, rfl, ?_⟩
  simp only [found, bind_eq_ok]
  refine ⟨self, self, rfl, ?_⟩
  rw [if_neg child]
  rfl

/-- A request that comes back is taken note of, if the federate has a
connect. -/
theorem acceptEnableTimeRegulationRequest_down
    (reached : (self.connectOf federateHandle).isSome = true)
    (timeStamp : VariableLengthData) (commitId : Nat) :
    Completes (acceptEnableTimeRegulationRequest self.parentConnectHandle
        federateHandle timeStamp commitId) self [] self.status := by
  obtain ⟨connectHandle, reaches⟩ := Option.isSome_iff_exists.mp reached
  obtain ⟨federate, found, _⟩ := Option.bind_eq_some_iff.mp reaches
  by_cases regulates : federate.isTimeRegulating = true
  · apply completes_of_messageError holds
    · rw [acceptEnableTimeRegulationRequest, bind_eq_error]
      refine .inr ⟨self, self, rfl, ?_⟩
      simp only [found, bind_eq_error]
      refine .inr ⟨self, self, rfl, ?_⟩
      rw [if_pos rfl, if_pos regulates]
      rfl
  · have linked := Effect.linkTimeRegulating holds reaches
    have noted : Effect _ ((self.linkTimeRegulating connectHandle
        federateHandle).modifyFederate federateHandle fun federate =>
          { federate with
            timeAdvanceTimeStamp := timeStamp
            nextMessageTimeStamp := timeStamp
            commitId := commitId }) [] :=
      Effect.modifyFederate linked.linked (fun _ => rfl) fun _ => rfl
    have told := Effect.sendToChildren noted.linked (.allBut none)
      (.enableTimeRegulationRequest federateHandle timeStamp commitId)
    refine Leaves.completes ⟨_, ?_, (linked.trans noted).trans told, ?_⟩
    · rw [acceptEnableTimeRegulationRequest, bind_eq_ok]
      refine ⟨self, self, rfl, ?_⟩
      simp only [found, bind_eq_ok]
      refine ⟨self, self, rfl, ?_⟩
      rw [if_pos rfl, if_neg regulates, bind_eq_ok]
      refine ⟨(), _, insertTimeRegulating_eq_ok reaches, ?_⟩
      rw [bind_eq_ok]
      exact ⟨(), _, rfl, rfl⟩
    · rw [status_sendToChildren, status_modifyFederate_of_same,
        status_linkTimeRegulating]
      intro _
      exact ⟨rfl, rfl⟩

theorem acceptDisableTimeRegulationRequest_completes
    (connectHandle : ConnectHandle) (federateHandle : FederateHandle) :
    Completes (acceptDisableTimeRegulationRequest connectHandle federateHandle)
      self (self.stopMessages connectHandle federateHandle) self.status := by
  cases found : self.federates federateHandle with
  | none =>
      have idle : self.isTimeRegulating federateHandle = false := by
        rw [isTimeRegulating, found]
        rfl
      rw [stopMessages, if_neg fun both => by simp [idle] at both]
      apply completes_of_messageError holds
      · rw [acceptDisableTimeRegulationRequest, bind_eq_error]
        refine .inr ⟨self, self, rfl, ?_⟩
        simp only [found]
        rfl
  | some federate =>
      have same : self.isTimeRegulating federateHandle =
          federate.isTimeRegulating := by
        rw [isTimeRegulating, found]
        rfl
      by_cases regulates : federate.isTimeRegulating = true
      · have told := Effect.broadcast holds connectHandle
          (.disableTimeRegulationRequest federateHandle)
        have still : (self.broadcast connectHandle
            (.disableTimeRegulationRequest federateHandle)).isTimeRegulating
              federateHandle = true := by
          rw [broadcast]
          split
          · exact same.trans regulates
          · exact same.trans regulates
        obtain ⟨after, erased, effect, status, _⟩ :=
          eraseTimeRegulating_leaves told.linked still
        refine Leaves.completes ⟨after, ?_, ?_, ?_⟩
        · rw [acceptDisableTimeRegulationRequest, bind_eq_ok]
          refine ⟨self, self, rfl, ?_⟩
          simp only [found, regulates, if_true, bind_eq_ok]
          exact ⟨(), _, rfl, erased⟩
        · have whole := told.trans effect
          rw [List.append_nil] at whole
          rw [stopMessages, same, regulates]
          by_cases parent : connectHandle = self.parentConnectHandle
          · simpa [parent] using whole
          · simpa [parent] using whole
        · rw [status, status_broadcast]
      · rw [stopMessages, same, if_neg fun both => regulates both.1]
        apply completes_of_messageError holds
        · rw [acceptDisableTimeRegulationRequest, bind_eq_error]
          refine .inr ⟨self, self, rfl, ?_⟩
          simp only [found]
          rw [if_neg regulates]
          rfl

theorem eraseFederate_leaves
    (federateHandle : FederateHandle) :
    Leaves (eraseFederate federateHandle) self []
      (Function.update self.status federateHandle none) := by
  have forgets : ∀ between : RegulationServer,
      Effect self between [] → between.status = self.status →
      between.isTimeRegulating federateHandle = false →
      Effect self ((between.disconnectFederate federateHandle).forgetFederate
          federateHandle) [] ∧
        ((between.disconnectFederate federateHandle).forgetFederate
          federateHandle).status =
            Function.update self.status federateHandle none := by
    intro between effect status idle
    have disconnected := Effect.disconnectFederate effect.linked idle
    have left : (between.disconnectFederate federateHandle).connectOf
        federateHandle = none := by
      rw [connectOf_eq_status, status_disconnectFederate, if_pos rfl]
      cases between.status federateHandle <;> rfl
    refine ⟨(effect.trans disconnected).trans
      (Effect.forgetFederate disconnected.linked left), ?_⟩
    funext other
    rw [status_forgetFederate, Function.update_apply, Function.update_apply]
    split
    · rfl
    · next different =>
        rw [status_disconnectFederate, if_neg different, status]
  by_cases regulates : self.isTimeRegulating federateHandle = true
  · obtain ⟨between, erased, effect, status, idle⟩ :=
      eraseTimeRegulating_leaves holds regulates
    obtain ⟨whole, left⟩ := forgets between effect status idle
    refine ⟨_, ?_, whole, left⟩
    rw [eraseFederate, bind_eq_ok]
    refine ⟨self, self, rfl, ?_⟩
    simp only [regulates, if_true, bind_eq_ok]
    exact ⟨(), between, erased, (), _, rfl, rfl⟩
  · obtain ⟨whole, left⟩ := forgets self (Effect.refl holds) rfl
      (Bool.not_eq_true _ ▸ regulates)
    refine ⟨_, ?_, whole, left⟩
    rw [eraseFederate, bind_eq_ok]
    refine ⟨self, self, rfl, ?_⟩
    rw [if_neg regulates]
    rfl

/-- A federate that has resigned goes. -/
theorem acceptResignFederateNotify_completes
    (known : (self.federates federateHandle).isSome = true) :
    Completes (acceptResignFederateNotify federateHandle) self []
      (Function.update self.status federateHandle none) := by
  have told := Effect.sendToChildren holds (.allBut none)
    (.resignFederateNotify federateHandle)
  obtain ⟨after, erased, effect, status⟩ :=
    eraseFederate_leaves told.linked federateHandle
  refine Leaves.completes ⟨after, ?_, told.trans effect, status⟩
  rw [acceptResignFederateNotify, bind_eq_ok]
  refine ⟨self, self, rfl, ?_⟩
  rw [if_pos known, bind_eq_ok]
  exact ⟨(), _, rfl, erased⟩

/-! ## Joining -/

/-- A federate that has joined elsewhere is entered behind the parent
connect. -/
theorem acceptJoinFederateNotify_completes
    (unknown : self.federates federateHandle = none)
    (known : (self.connects connectHandle).isSome = true) :
    Completes (acceptJoinFederateNotify connectHandle federateHandle) self []
      (Function.update self.status federateHandle
        (some (some connectHandle, false))) := by
  have entered := Effect.insertFederate holds unknown (some connectHandle)
  have told := Effect.sendToChildren entered.linked (.allBut none)
    (.joinFederateNotify federateHandle)
  refine Leaves.completes ⟨_, ?_, entered.trans told, ?_⟩
  · rw [acceptJoinFederateNotify, bind_eq_ok]
    refine ⟨self, self, rfl, ?_⟩
    simp only [unknown, Option.isSome_none, Bool.false_eq_true, if_false,
      bind_eq_ok]
    exact ⟨(), _, rfl, rfl⟩
  · rw [status_sendToChildren, status_insertFederate_of_known known]

end

theorem acceptJoinFederationExecutionResponse_of_some
    {requests : List (Option ConnectHandle)}
    (front : self.pendingMessageList = some connectHandle :: requests) :
    acceptJoinFederationExecutionResponse federateHandle self =
      .ok () { (((self.getOrInsertConnect connectHandle).insertFederate
          (some connectHandle) federateHandle).sendToChildren
            (.allBut (some connectHandle))
            (.joinFederateNotify federateHandle)).sendToChildren
              (.only connectHandle)
              (.joinFederationExecutionResponse federateHandle) with
        pendingMessageList := requests } := by
  rw [acceptJoinFederationExecutionResponse, bind_eq_ok]
  refine ⟨self, self, rfl, ?_⟩
  simp only [front, bind_eq_ok]
  exact ⟨(), _, rfl, (), _, rfl, (), _, rfl, (), _, rfl, rfl⟩

/-- Nobody is there any more that has asked. -/
theorem acceptJoinFederationExecutionResponse_of_none
    {requests : List (Option ConnectHandle)}
    (front : self.pendingMessageList = none :: requests) :
    ∃ reason, acceptJoinFederationExecutionResponse federateHandle self =
      .error (.messageError reason)
        { (self.insertFederate none federateHandle).sendToChildren
            (.allBut none) (.joinFederateNotify federateHandle) with
          pendingMessageList := requests } := by
  refine ⟨["Received " ++ "ResignFederationExecutionLeafRequestMessage " ++
    "through the parent connect!"], ?_⟩
  rw [acceptJoinFederationExecutionResponse, bind_eq_error]
  refine .inr ⟨self, self, rfl, ?_⟩
  simp only [front, bind_eq_error]
  exact .inr ⟨(), _, rfl, .inr ⟨(), _, rfl, .inr ⟨(), _, rfl, rfl⟩⟩⟩

/-! ## Losing a connect -/

/-- Messages of federates that resign: there is a request for each that has not
resigned before. -/
structure Resigns
    (federateHandles : List FederateHandle)
    (status : FederateHandle → Option (Option ConnectHandle × Bool))
    (sent : List RegulationMessage) : Prop where
  kinds : ∀ message ∈ sent, ∃ federateHandle,
    message = .disableTimeRegulationRequest federateHandle ∨
      message = .resignFederationExecutionRequest federateHandle
  once : ∀ federateHandle,
    sent.count (.resignFederationExecutionRequest federateHandle) =
      if federateHandle ∈ federateHandles ∧
        (status federateHandle).any (fun status => !status.2) = true then 1
      else 0

theorem kinds_stopMessages
    {message : RegulationMessage}
    (member : message ∈ self.stopMessages connectHandle federateHandle) :
    message = .disableTimeRegulationRequest federateHandle := by
  rw [stopMessages] at member
  split at member
  · exact List.mem_singleton.mp member
  · cases member

theorem count_stopMessages (other : FederateHandle) :
    (self.stopMessages connectHandle federateHandle).count
      (.resignFederationExecutionRequest other) = 0 := by
  rw [List.count_eq_zero]
  intro member
  cases kinds_stopMessages member

theorem resignFederates_leaves
    (holds : self.Linked)
    {federateHandles : List FederateHandle}
    (known : ∀ federateHandle ∈ federateHandles,
      (self.status federateHandle).isSome = true) :
    ∃ sent, Resigns federateHandles self.status sent ∧
      Leaves (resignFederates connectHandle federateHandles) self sent
        fun other =>
          if other ∈ federateHandles then some (none, true)
          else self.status other := by
  induction federateHandles generalizing self with
  | nil =>
      refine ⟨[], ⟨nofun, fun _ => ?_⟩, self, rfl, Effect.refl holds, ?_⟩
      · simp
      · funext other
        rw [if_neg List.not_mem_nil]
  | cons federateHandle rest ih =>
      have here := known federateHandle List.mem_cons_self
      rw [status, Option.isSome_map] at here
      obtain ⟨federate, found⟩ := Option.isSome_iff_exists.mp here
      obtain ⟨between, resigned, effect, status⟩ :=
        @resignFederate_leaves self connectHandle federateHandle holds federate
          found
      have others : ∀ other ∈ rest, (between.status other).isSome = true := by
        intro other member
        rw [status, Function.update_apply]
        split
        · rfl
        · exact known other (List.mem_cons_of_mem _ member)
      obtain ⟨sent, resigns, after, finished, further, left⟩ :=
        ih effect.linked others
      refine ⟨_, ⟨?_, ?_⟩, after, ?_, effect.trans further, ?_⟩
      · intro message member
        rw [List.mem_append, List.mem_append] at member
        rcases member with (stops | requests) | later
        · exact ⟨federateHandle, .inl (kinds_stopMessages stops)⟩
        · split at requests
          · cases requests
          · exact ⟨federateHandle, .inr (List.mem_singleton.mp requests)⟩
        · exact resigns.kinds message later
      · intro other
        rw [List.count_append, List.count_append, count_stopMessages,
          resigns.once other, status, Function.update_apply, Nat.zero_add]
        by_cases same : other = federateHandle
        · subst same
          have before : self.status other =
              some (federate.federationConnect, federate.resignPending) := by
            rw [RegulationServer.status, found]
            rfl
          rw [before]
          cases federate.resignPending <;> simp
        · rw [if_neg same]
          have silent : (if federate.resignPending = true then
              ([] : List RegulationMessage)
            else [.resignFederationExecutionRequest federateHandle]).count
              (.resignFederationExecutionRequest other) = 0 := by
            rw [List.count_eq_zero]
            intro member
            split at member
            · cases member
            · cases List.mem_singleton.mp member
              exact same rfl
          rw [silent, Nat.zero_add]
          simp [same]
      · rw [resignFederates, bind_eq_ok]
        exact ⟨(), between, resigned, finished⟩
      · rw [left, status]
        funext other
        rw [Function.update_apply]
        by_cases same : other = federateHandle
        · simp [same]
        · simp [same]

end RegulationServer
end ServerNode
end OpenRTI
