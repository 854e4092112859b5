import OpenRTI.ServerNode.NameReservations

/-!
# What reserving and releasing does to a server

Handles are given away one by one, and a release erases exactly what it names,
as long as every object instance is referenced by one connect only.
-/

namespace OpenRTI
namespace ServerNode

open Foundation FailingState
open ServerModel

namespace ReservationServer

/-- The handles of the object instances that a server knows. -/
def handles (self : ReservationServer) : List ObjectInstanceHandle :=
  self.objectInstances.map ReservedObjectInstance.objectInstanceHandle

@[simp] theorem toConnect_send
    (connectHandle : ConnectHandle) (message : ReservationMessage)
    (self : ReservationServer) :
    (send connectHandle message self).toConnect connectHandle =
      self.toConnect connectHandle ++ [message] :=
  Function.update_self connectHandle _ self.toConnect

variable {connectHandle : ConnectHandle}

theorem toConnect_send_of_ne
    {other : ConnectHandle}
    (different : other ≠ connectHandle)
    (message : ReservationMessage) (self : ReservationServer) :
    (send connectHandle message self).toConnect other =
      self.toConnect other :=
  Function.update_of_ne different _ self.toConnect

variable {self : ReservationServer} {federateHandle : FederateHandle}

theorem mem_of_getFederate
    {federate : ReservingFederate}
    (found : self.getFederate federateHandle = some federate) :
    federate ∈ self.federates ∧
      federate.federateHandle = federateHandle := by
  unfold getFederate at found
  have same := List.find?_some found
  exact ⟨List.mem_of_find?_eq_some found, of_decide_eq_true same⟩

variable (objectInstanceHandle : ObjectInstanceHandle) (name : String)

theorem nameOr_nonempty :
    nameOr objectInstanceHandle name ≠ "" := by
  unfold nameOr
  split
  · intro empty
    have length := congrArg String.length empty
    simp [String.length_append] at length
  · assumption

@[simp] theorem nameOr_nameOr :
    nameOr objectInstanceHandle (nameOr objectInstanceHandle name) =
      nameOr objectInstanceHandle name :=
  if_neg (nameOr_nonempty objectInstanceHandle name)

/-- A pair with the name that its object instance has. -/
def named (pair : ObjectInstanceHandleNamePair) :
    ObjectInstanceHandleNamePair :=
  (pair.1, nameOr pair.1 pair.2)

theorem map_named_fst (pairs : List ObjectInstanceHandleNamePair) :
    (pairs.map named).map Prod.fst = pairs.map Prod.fst := by
  simp [named, Function.comp_def]

/-! ## Giving handles away -/

/-- Every handle that is known is in use, and none is known twice. -/
structure Accounted (server : ReservationServer) : Prop where
  bounded : server.objectInstanceHandleAllocator.Bounded
  inUse : ∀ objectInstanceHandle ∈ server.handles,
    objectInstanceHandle ∈ server.objectInstanceHandleAllocator.inUse
  nodup : server.handles.Nodup

/-- What an allocation does: a handle that was not in use is now. -/
theorem allocateObjectInstance_eq_ok
    (accounted : Accounted self)
    (left : self.objectInstanceHandleAllocator.inUse.card < invalidHandle)
    (connectHandle : ConnectHandle) (name : String) :
    ∃ objectInstanceHandle allocator,
      allocateObjectInstance connectHandle name self =
          .ok (named (objectInstanceHandle, name))
            { self with
              objectInstances := self.objectInstances ++
                [reserved connectHandle (objectInstanceHandle, name)]
              objectInstanceHandleAllocator := allocator } ∧
        Accounted
          { self with
            objectInstances := self.objectInstances ++
              [reserved connectHandle (objectInstanceHandle, name)]
            objectInstanceHandleAllocator := allocator } ∧
        allocator.inUse.card =
          self.objectInstanceHandleAllocator.inUse.card + 1 := by
  obtain ⟨objectInstanceHandle, allocator, got⟩ :=
    HandleAllocator.exists_get_eq_ok left
  have used := accounted.bounded.inUse_get got
  have unused := HandleAllocator.notMem_inUse_of_get got
  refine ⟨objectInstanceHandle, allocator, ?_, ⟨?_, ?_, ?_⟩, ?_⟩
  · unfold allocateObjectInstance
    rw [got]
    rfl
  · exact accounted.bounded.get got
  · intro other member
    simp only [handles, List.map_append, List.map_cons, List.map_nil,
      List.mem_append, List.mem_singleton] at member
    simp only [used, Finset.mem_insert]
    obtain known | rfl := member
    · exact Or.inr (accounted.inUse other known)
    · exact Or.inl rfl
  · simp only [handles, List.map_append, List.map_cons, List.map_nil]
    refine accounted.nodup.append (List.nodup_singleton _) ?_
    intro other known member
    rw [List.mem_singleton.mp member] at known
    exact unused (accounted.inUse _ known)
  · rw [used, Finset.card_insert_of_notMem unused]

/-- What a server is after object instances are inserted for a connect. -/
def Entered
    (connectHandle : ConnectHandle)
    (pairs : List ObjectInstanceHandleNamePair)
    (before after : ReservationServer) : Prop :=
  ∃ allocator,
    after =
      { before with
        objectInstances :=
          before.objectInstances ++ pairs.map (reserved connectHandle)
        objectInstanceHandleAllocator := allocator }

theorem Entered.refl
    (connectHandle : ConnectHandle)
    (self : ReservationServer) : Entered connectHandle [] self self :=
  ⟨self.objectInstanceHandleAllocator, by simp⟩

variable {before after : ReservationServer}

theorem Entered.cons
    {pair : ObjectInstanceHandleNamePair}
    {pairs : List ObjectInstanceHandleNamePair}
    {between : ReservationServer}
    (first : Entered connectHandle [pair] before between)
    (others : Entered connectHandle pairs between after) :
    Entered connectHandle (pair :: pairs) before after := by
  obtain ⟨_, rfl⟩ := first
  obtain ⟨allocator, rfl⟩ := others
  exact ⟨allocator, by simp⟩

/-- Allocating succeeds as long as there are handles left. -/
theorem allocateObjectInstances_eq_ok
    (accounted : Accounted self) (connectHandle : ConnectHandle)
    {names : List String}
    (left : self.objectInstanceHandleAllocator.inUse.card + names.length ≤
      invalidHandle) :
    ∃ (given : List ObjectInstanceHandle) (after : ReservationServer),
      given.length = names.length ∧
        allocateObjectInstances connectHandle names self =
          .ok ((given.zip names).map named) after ∧
        Entered connectHandle (given.zip names) self after ∧
        Accounted after := by
  induction names generalizing self with
  | nil => exact ⟨[], self, rfl, rfl, .refl connectHandle self, accounted⟩
  | cons name rest ih =>
      rw [List.length_cons] at left
      obtain ⟨objectInstanceHandle, allocator, ran, kept, count⟩ :=
        allocateObjectInstance_eq_ok accounted (by omega) connectHandle name
      obtain ⟨given, after, length, others, entered, accountedAfter⟩ :=
        ih kept (by simp only [count]; omega)
      refine ⟨objectInstanceHandle :: given, after, by simp [length], ?_, ?_,
        accountedAfter⟩
      · rw [allocateObjectInstances, bind_eq_ok]
        refine ⟨_, _, ran, ?_⟩
        rw [bind_eq_ok]
        exact ⟨_, _, others, rfl⟩
      · exact Entered.cons ⟨allocator, rfl⟩ entered

/-- Following the parent enters what it has given away. -/
theorem entered_takeObjectInstances
    (connectHandle : ConnectHandle)
    (pairs : List ObjectInstanceHandleNamePair) (self : ReservationServer) :
    Entered connectHandle pairs self
      (takeObjectInstances connectHandle pairs self) := by
  induction pairs generalizing self with
  | nil => exact .refl connectHandle self
  | cons pair rest ih =>
      exact Entered.cons ⟨_, rfl⟩
        (ih (self.takeObjectInstance connectHandle pair))

/-! ## Releasing -/

/-- A connect is the only one that references an object instance. -/
def IsSole
    (self : ReservationServer)
    (connectHandle : ConnectHandle)
    (objectInstanceHandle : ObjectInstanceHandle) : Prop :=
  objectInstanceHandle ∈ self.handles ∧
    ∀ objectInstance ∈ self.objectInstances,
      objectInstance.objectInstanceHandle = objectInstanceHandle →
      objectInstance.connectHandles = [connectHandle]

variable {objectInstanceHandle : ObjectInstanceHandle}

theorem mem_handles :
    objectInstanceHandle ∈ self.handles ↔
      ∃ objectInstance ∈ self.objectInstances,
        objectInstance.objectInstanceHandle = objectInstanceHandle :=
  List.mem_map

theorem IsSole.found
    (sole : self.IsSole connectHandle objectInstanceHandle) :
    ∃ objectInstance,
      self.getObjectInstance objectInstanceHandle = some objectInstance ∧
        objectInstance.connectHandles = [connectHandle] := by
  cases found : self.getObjectInstance objectInstanceHandle with
  | none =>
      obtain ⟨objectInstance, member, same⟩ := mem_handles.mp sole.1
      have different := List.find?_eq_none.mp found objectInstance member
      simp [same] at different
  | some objectInstance =>
      have same := List.find?_some found
      exact ⟨objectInstance, rfl,
        sole.2 objectInstance (List.mem_of_find?_eq_some found)
          (of_decide_eq_true same)⟩

/-- Erasing an object instance leaves the others as they are. -/
theorem IsSole.eraseObjectInstance
    {other : ObjectInstanceHandle}
    (sole : self.IsSole connectHandle objectInstanceHandle)
    (different : objectInstanceHandle ≠ other) :
    (self.eraseObjectInstance other).IsSole connectHandle
      objectInstanceHandle := by
  constructor
  · obtain ⟨objectInstance, member, rfl⟩ := mem_handles.mp sole.1
    exact mem_handles.mpr
      ⟨objectInstance,
        List.mem_filter.mpr ⟨member, decide_eq_true different⟩, rfl⟩
  · intro objectInstance member same
    exact sole.2 objectInstance (List.mem_filter.mp member).1 same

theorem Accounted.eraseObjectInstance
    (accounted : self.Accounted)
    (known : objectInstanceHandle ∈ self.handles) :
    (self.eraseObjectInstance objectInstanceHandle).Accounted where
  bounded := accounted.bounded.put (accounted.inUse _ known)
  inUse := by
    intro other member
    obtain ⟨objectInstance, kept, rfl⟩ := mem_handles.mp member
    obtain ⟨present, different⟩ := List.mem_filter.mp kept
    exact HandleAllocator.mem_inUse_put
      (accounted.inUse _ (mem_handles.mpr ⟨objectInstance, present, rfl⟩))
      (of_decide_eq_true different)
  nodup := accounted.nodup.sublist (List.filter_sublist.map _)

/-- What a server is after object instances are erased. -/
def Erased
    (objectInstanceHandles : List ObjectInstanceHandle)
    (before after : ReservationServer) : Prop :=
  ∃ allocator,
    after =
      { before with
        objectInstances := before.objectInstances.filter fun objectInstance =>
          objectInstance.objectInstanceHandle ∉ objectInstanceHandles
        objectInstanceHandleAllocator := allocator }

theorem Erased.refl (self : ReservationServer) : Erased [] self self :=
  ⟨self.objectInstanceHandleAllocator, by simp⟩

theorem Erased.cons
    {rest : List ObjectInstanceHandle}
    (others : Erased rest (before.eraseObjectInstance objectInstanceHandle)
      after) :
    Erased (objectInstanceHandle :: rest) before after := by
  obtain ⟨allocator, rfl⟩ := others
  refine ⟨allocator, ?_⟩
  simp [ReservationServer.eraseObjectInstance, List.filter_filter,
    Bool.and_comm]

/-- A release erases what only the releasing connect references. -/
theorem releaseObjectInstances_eq_ok
    {objectInstanceHandles : List ObjectInstanceHandle}
    (nodup : objectInstanceHandles.Nodup)
    (sole : ∀ objectInstanceHandle ∈ objectInstanceHandles,
      self.IsSole connectHandle objectInstanceHandle) :
    ∃ after,
      releaseObjectInstances connectHandle objectInstanceHandles self =
          .ok objectInstanceHandles after ∧
        Erased objectInstanceHandles self after ∧
        (self.Accounted → after.Accounted) := by
  induction objectInstanceHandles generalizing self with
  | nil => exact ⟨self, rfl, .refl self, id⟩
  | cons objectInstanceHandle rest ih =>
      rw [List.nodup_cons] at nodup
      rw [List.forall_mem_cons] at sole
      obtain ⟨objectInstance, found, single⟩ := sole.1.found
      obtain ⟨after, released, erased, accounted⟩ :=
        @ih (self.eraseObjectInstance objectInstanceHandle)
          nodup.2 (by
            intro other member
            refine (sole.2 other member).eraseObjectInstance ?_
            rintro rfl
            exact nodup.1 member)
      refine ⟨after, ?_, erased.cons, ?_⟩
      · rw [releaseObjectInstances, bind_eq_ok]
        refine ⟨self, self, rfl, ?_⟩
        simp only [found, single, List.mem_singleton, not_true_eq_false,
          if_false, List.erase_cons_head, List.isEmpty_nil, if_true, bind_eq_ok]
        exact ⟨(), _, rfl, _, _, released, rfl⟩
      · intro before
        exact accounted (before.eraseObjectInstance sole.1.1)

/-! ## Requests -/

/-- An exception is reported, while a broken assertion is not. -/
def reported (failure : Failure) : Prop :=
  failure ≠ .undefined

def isRequest : ReservationMessage → Bool
  | .objectInstanceHandlesRequest _ _ => true
  | .reserveObjectInstanceNameRequest _ _ _ => true
  | .reserveMultipleObjectInstanceNameRequest _ _ => true
  | _ => false

def isResponse : ReservationMessage → Bool
  | .objectInstanceHandlesResponse _ _ => true
  | .reserveObjectInstanceNameResponse _ _ _ => true
  | .reserveMultipleObjectInstanceNameResponse _ _ _ => true
  | _ => false

variable {message : ReservationMessage}

/-- A node passes a request on to its parent, if it does anything. -/
theorem request_ends_at_node
    (node : self.isRootServer = false)
    (request : isRequest message = true)
    (ended : Ends reported (accept connectHandle message) self after) :
    after = self ∨ after = sendToParent message self := by
  cases message with
  | objectInstanceHandlesRequest federateHandle count =>
      simp only [accept, acceptObjectInstanceHandlesRequest, ends_get_bind,
        node, Bool.false_eq_true, if_false, ends_modify] at ended
      exact Or.inr ended.symm
  | reserveObjectInstanceNameRequest federateHandle name isInternal =>
      simp only [accept, acceptReserveObjectInstanceNameRequest,
        ends_get_bind] at ended
      split at ended
      · rw [ends_throw] at ended
        exact Or.inl ended.2.symm
      · split at ended
        · rw [ends_throw] at ended
          exact Or.inl ended.2.symm
        · simp only [ends_get_bind, node, Bool.false_eq_true, if_false,
            ends_modify] at ended
          exact Or.inr ended.symm
  | reserveMultipleObjectInstanceNameRequest federateHandle nameList =>
      simp only [accept, acceptReserveMultipleObjectInstanceNameRequest,
        ends_get_bind] at ended
      split at ended
      · rw [ends_throw] at ended
        exact Or.inl ended.2.symm
      · split at ended
        · rw [ends_throw] at ended
          exact Or.inl ended.2.symm
        · simp only [ends_get_bind, node, Bool.false_eq_true, if_false,
            ends_modify] at ended
          exact Or.inr ended.symm
  | _ => cases request

/-- What the root does with a request: it sends a response, which gives away
what has been entered for the connect it goes to. -/
def Answered (before after : ReservationServer) : Prop :=
  ∃ connectHandle pairs message between,
    Entered connectHandle pairs before between ∧
      between.Accounted ∧
      isResponse message = true ∧
      (ReservationPath.granted message).map named = pairs.map named ∧
      after = send connectHandle message between

theorem named_named (pairs : List ObjectInstanceHandleNamePair) :
    (pairs.map named).map named = pairs.map named := by
  simp [named, Function.comp_def]

theorem request_ends_at_root
    (root : self.isRootServer = true)
    (accounted : self.Accounted)
    (request : isRequest message = true)
    (left : self.objectInstanceHandleAllocator.inUse.card +
      ReservationPath.wanted message ≤ invalidHandle)
    (ended : Ends reported (accept connectHandle message) self after) :
    after = self ∨ Answered self after := by
  cases message with
  | objectInstanceHandlesRequest federateHandle count =>
      obtain ⟨given, between, _, ran, entered, accountedAfter⟩ :=
        allocateObjectInstances_eq_ok accounted connectHandle
          (by simpa [ReservationPath.wanted] using left :
            self.objectInstanceHandleAllocator.inUse.card +
              (List.replicate count "").length ≤ invalidHandle)
      simp only [accept, acceptObjectInstanceHandlesRequest, ends_get_bind,
        root, if_true, ends_bind_of_ok ran, ends_modify] at ended
      refine Or.inr ⟨connectHandle, _, _, between, entered, accountedAfter, ?_,
        ?_, ended.symm⟩
      · rfl
      · exact named_named (given.zip (List.replicate count ""))
  | reserveObjectInstanceNameRequest federateHandle name isInternal =>
      simp only [accept, acceptReserveObjectInstanceNameRequest,
        ends_get_bind] at ended
      split at ended
      · rw [ends_throw] at ended
        exact Or.inl ended.2.symm
      · split at ended
        · rw [ends_throw] at ended
          exact Or.inl ended.2.symm
        · simp only [ends_get_bind, root, if_true] at ended
          split at ended
          · rw [ends_throw] at ended
            exact absurd rfl ended.1
          next receiver _ =>
            rw [ends_get_bind] at ended
            split at ended
            · rw [ends_modify] at ended
              exact Or.inr ⟨receiver, [], _, self, .refl receiver self,
                accounted, rfl, rfl, ended.symm⟩
            · obtain ⟨objectInstanceHandle, allocator, ran, kept, _⟩ :=
                allocateObjectInstance_eq_ok accounted left receiver name
              rw [ends_bind_of_ok ran, ends_modify] at ended
              refine Or.inr ⟨receiver, [(objectInstanceHandle, name)], _, _,
                ⟨allocator, rfl⟩, kept, ?_, ?_, ended.symm⟩
              · rfl
              · exact named_named [(objectInstanceHandle, name)]
  | reserveMultipleObjectInstanceNameRequest federateHandle nameList =>
      simp only [accept, acceptReserveMultipleObjectInstanceNameRequest,
        ends_get_bind] at ended
      split at ended
      · rw [ends_throw] at ended
        exact Or.inl ended.2.symm
      · split at ended
        · rw [ends_throw] at ended
          exact Or.inl ended.2.symm
        · simp only [ends_get_bind, root, if_true] at ended
          split at ended
          · rw [ends_throw] at ended
            exact absurd rfl ended.1
          next receiver _ =>
            rw [ends_get_bind] at ended
            split at ended
            · rw [ends_modify] at ended
              exact Or.inr ⟨receiver, [], _, self, .refl receiver self,
                accounted, rfl, rfl, ended.symm⟩
            · obtain ⟨given, between, length, ran, entered, accountedAfter⟩ :=
                allocateObjectInstances_eq_ok accounted receiver left
              have same : ((given.zip nameList).map named).map Prod.fst =
                  given := by
                rw [map_named_fst]
                exact List.map_fst_zip length.le
              rw [ends_bind_of_ok ran, ends_modify, same] at ended
              exact Or.inr ⟨receiver, _, _, between, entered, accountedAfter,
                rfl, rfl, ended.symm⟩
  | _ => cases request

/-! ## Responses -/

/-- What a server does with a response: it ignores it, or it passes it on to a
federate that is connected and has not resigned. -/
def Received
    (message : ReservationMessage)
    (before after : ReservationServer) : Prop :=
  (after = before ∧
      ∀ federateHandle ∈ ReservationPath.receiver message,
        ReservationPath.connectOf before federateHandle = none) ∨
    ∃ federate ∈ before.federates, ∃ connectHandle between,
      federate.federationConnect = some connectHandle ∧
        federate.resignPending = false ∧
        Entered connectHandle (ReservationPath.granted message) before
          between ∧
        after = send connectHandle message between

theorem acceptResponse_ends
    {unknown : String}
    (receiver : ReservationPath.receiver message = some federateHandle)
    (ended : Ends reported
      (acceptResponse federateHandle unknown
        (ReservationPath.granted message) message) self after) :
    Received message self after := by
  simp only [acceptResponse, ends_get_bind] at ended
  cases found : self.getFederate federateHandle with
  | none =>
      simp only [found, ends_throw] at ended
      refine Or.inl ⟨ended.2.symm, ?_⟩
      rw [receiver]
      rintro _ ⟨⟩
      simp only [ReservationPath.connectOf, found]
  | some federate =>
      simp only [found] at ended
      split at ended
      next connectHandle connected joined =>
        rw [ends_modify_bind, ends_modify] at ended
        exact Or.inr ⟨federate, (mem_of_getFederate found).1, connectHandle,
          _, connected, joined, entered_takeObjectInstances connectHandle _ self,
          ended.symm⟩
      next unreachable =>
        rw [ends_pure] at ended
        refine Or.inl ⟨ended.symm, ?_⟩
        rw [receiver]
        rintro _ ⟨⟩
        simp only [ReservationPath.connectOf, found]
        split
        · rfl
        next joined =>
          cases connected : federate.federationConnect with
          | none => rfl
          | some connectHandle =>
              exact absurd (by simpa using joined)
                (unreachable connectHandle connected)

theorem response_ends
    (response : isResponse message = true)
    (ended : Ends reported (accept connectHandle message) self after) :
    Received message self after := by
  cases message with
  | objectInstanceHandlesResponse federateHandle pairs =>
      exact acceptResponse_ends rfl ended
  | reserveObjectInstanceNameResponse federateHandle pair success =>
      cases success
      · exact acceptResponse_ends rfl ended
      · exact acceptResponse_ends rfl ended
  | reserveMultipleObjectInstanceNameResponse federateHandle pairs success =>
      cases success
      · exact acceptResponse_ends rfl ended
      · exact acceptResponse_ends rfl ended
  | _ => cases response

/-! ## Resigning -/

/-- What a resign request does, if it does anything. -/
def resigned
    (connectHandle : ConnectHandle)
    (federateHandle : FederateHandle)
    (self : ReservationServer) : ReservationServer :=
  if self.isRootServer then
    eraseFederate federateHandle
      (send connectHandle (.resignFederateNotify federateHandle)
        (setResignPending federateHandle self))
  else
    sendToParent (.resignFederationExecutionRequest federateHandle)
      (setResignPending federateHandle self)

theorem resign_ends
    (ended : Ends reported
      (acceptResignFederationExecutionRequest connectHandle federateHandle)
      self after) :
    after = self ∨
      ∃ federate,
        self.getFederate federateHandle = some federate ∧
          federate.resignPending = false ∧
          after = resigned connectHandle federateHandle self := by
  simp only [acceptResignFederationExecutionRequest, ends_get_bind] at ended
  cases found : self.getFederate federateHandle with
  | none =>
      simp only [found, ends_throw] at ended
      exact Or.inl ended.2.symm
  | some federate =>
      simp only [found] at ended
      split at ended
      · rw [ends_pure] at ended
        exact Or.inl ended.symm
      next joined =>
        refine Or.inr ⟨federate, rfl, by simpa using joined, ?_⟩
        rw [ends_modify_bind, ends_get_bind] at ended
        unfold resigned
        split at ended
        next root =>
          rw [ends_modify_bind, ends_modify] at ended
          exact ended.symm.trans (if_pos root).symm
        next node =>
          rw [ends_modify] at ended
          exact ended.symm.trans (if_neg node).symm

/-- What every single resign keeps, all resigns of a connect keep. -/
theorem resignFederates_keeps
    {property : ReservationServer → Prop}
    {federateHandles : List FederateHandle}
    (disconnect : ∀ federateHandle ∈ federateHandles, ∀ self,
      property self → property (disconnectFederate federateHandle self))
    (resign : ∀ federateHandle ∈ federateHandles, ∀ self federate,
      property self →
      self.getFederate federateHandle = some federate →
      federate.resignPending = false →
      property (resigned connectHandle federateHandle self)) :
    Keeps reported property
      (resignFederates connectHandle federateHandles) := by
  induction federateHandles with
  | nil =>
      intro before after holds ended
      rw [resignFederates, ends_pure] at ended
      exact ended ▸ holds
  | cons federateHandle rest ih =>
      rw [List.forall_mem_cons] at disconnect resign
      refine Keeps.bind ?_ fun _ => Keeps.bind ?_ fun _ =>
        ih disconnect.2 resign.2
      · intro before after holds ended
        rw [ends_modify] at ended
        exact ended ▸ disconnect.1 before holds
      · intro before after holds ended
        obtain rfl | ⟨federate, found, joined, rfl⟩ := resign_ends ended
        · exact holds
        · exact resign.1 before federate holds found joined

end ReservationServer
end ServerNode
end OpenRTI
