import OpenRTI.ServerNode.NameReservationEffects

/-!
# Reservations over runs of a node and the root

What the root references for the node is at one place at a time: given away in
a response on its way to the node, referenced at the node, or released on its way
to the root.  A response that is dropped breaks this.
-/

namespace OpenRTI
namespace ServerNode

open Foundation FailingState
open ServerModel

namespace ReservationPath

open ReservationServer

def releases : ReservationMessage → List ObjectInstanceHandle
  | .releaseMultipleObjectInstanceNameHandlePairs objectInstanceHandles =>
      objectInstanceHandles
  | _ => []

def resigns : ReservationMessage → List FederateHandle
  | .resignFederationExecutionRequest federateHandle => [federateHandle]
  | .resignFederateNotify federateHandle => [federateHandle]
  | _ => []

/-- The handle and the name of an object instance. -/
def identity (objectInstance : ReservedObjectInstance) :
    ObjectInstanceHandleNamePair :=
  (objectInstance.objectInstanceHandle, objectInstance.name)

variable (connectHandle : ConnectHandle)
variable (pairs : List ObjectInstanceHandleNamePair)

theorem identity_reserved :
    (pairs.map (reserved connectHandle)).map identity = pairs.map named := by
  simp [identity, reserved, named, Function.comp_def]

theorem handles_reserved :
    (pairs.map (reserved connectHandle)).map
        ReservedObjectInstance.objectInstanceHandle =
      pairs.map Prod.fst := by
  simp [reserved, Function.comp_def]

theorem count_filter_notMem
    (elements removed : List Nat) (element : Nat) :
    (elements.filter (· ∉ removed)).count element =
      if element ∈ removed then 0 else elements.count element := by
  split
  next gone =>
    rw [List.count_eq_zero, List.mem_filter]
    rintro ⟨_, kept⟩
    exact of_decide_eq_true kept gone
  next kept => exact List.count_filter (decide_eq_true kept)

/-- Erasing object instances removes their handles. -/
theorem handles_erased
    (objectInstances : List ReservedObjectInstance)
    (removed : List ObjectInstanceHandle) :
    (objectInstances.filter fun objectInstance =>
        objectInstance.objectInstanceHandle ∉ removed).map
          ReservedObjectInstance.objectInstanceHandle =
      (objectInstances.map
        ReservedObjectInstance.objectInstanceHandle).filter (· ∉ removed) := by
  rw [List.filter_map]
  rfl

variable {removed : List ObjectInstanceHandle}

/-! ## What connects reference -/

theorem referencedBy_erased
    {before after : ReservationServer}
    (erased : Erased removed before after) (connectHandle : ConnectHandle) :
    after.referencedBy connectHandle =
      (before.referencedBy connectHandle).filter (· ∉ removed) := by
  obtain ⟨_, rfl⟩ := erased
  rw [referencedBy, referencedBy, ← handles_erased, List.filter_filter,
    List.filter_filter]
  simp only [Bool.and_comm]

variable {connectHandle : ConnectHandle}
variable {pairs : List ObjectInstanceHandleNamePair}

theorem referencedBy_entered
    {before after : ReservationServer}
    (entered : Entered connectHandle pairs before after) :
    after.referencedBy connectHandle =
      before.referencedBy connectHandle ++ pairs.map Prod.fst := by
  obtain ⟨_, rfl⟩ := entered
  rw [referencedBy, List.filter_append, List.map_append, ← referencedBy]
  congr 1
  rw [List.filter_eq_self.mpr, handles_reserved]
  intro objectInstance member
  obtain ⟨pair, _, rfl⟩ := List.mem_map.mp member
  simp [reserved]

theorem referencedBy_entered_of_ne
    {other : ConnectHandle} {before after : ReservationServer}
    (entered : Entered connectHandle pairs before after)
    (different : other ≠ connectHandle) :
    after.referencedBy other = before.referencedBy other := by
  obtain ⟨_, rfl⟩ := entered
  rw [referencedBy, List.filter_append, List.map_append, ← referencedBy]
  have none : (pairs.map (reserved connectHandle)).filter
      (fun objectInstance => other ∈ objectInstance.connectHandles) = [] := by
    rw [List.filter_eq_nil_iff]
    intro objectInstance member
    obtain ⟨pair, _, rfl⟩ := List.mem_map.mp member
    simp [reserved, different]
  rw [none]
  exact List.append_nil _

variable {self : ReservationServer}
variable {objectInstanceHandle : ObjectInstanceHandle}

theorem mem_referencedBy :
    objectInstanceHandle ∈ self.referencedBy connectHandle ↔
      ∃ objectInstance ∈ self.objectInstances,
        connectHandle ∈ objectInstance.connectHandles ∧
          objectInstance.objectInstanceHandle = objectInstanceHandle := by
  simp [referencedBy, and_assoc]

/-- Every object instance is referenced by one connect. -/
def Single (self : ReservationServer) : Prop :=
  ∀ objectInstance ∈ self.objectInstances,
    ∃ connectHandle, objectInstance.connectHandles = [connectHandle]

/-- What a connect references nobody else references. -/
theorem isSole_of_referencedBy
    (nodup : self.handles.Nodup) (single : Single self)
    (referenced : objectInstanceHandle ∈ self.referencedBy connectHandle) :
    self.IsSole connectHandle objectInstanceHandle := by
  obtain ⟨objectInstance, member, references, rfl⟩ :=
    mem_referencedBy.mp referenced
  refine ⟨mem_handles.mpr ⟨objectInstance, member, rfl⟩, ?_⟩
  intro other present same
  rw [List.inj_on_of_nodup_map nodup present member same]
  obtain ⟨only, found⟩ := single objectInstance member
  rw [found, List.mem_singleton] at references
  rw [found, references]

/-! ## One place at a time -/

/-- What the root references for the node is given away, referenced at the node
or released. -/
structure Balanced
    (root : ReservationServer)
    (given : List ObjectInstanceHandleNamePair)
    (objectInstances : List ReservedObjectInstance)
    (released : List ObjectInstanceHandle) : Prop where
  accounted : root.Accounted
  single : Single root
  balance : ∀ objectInstanceHandle,
    (root.referencedBy 0).count objectInstanceHandle =
      (given.map Prod.fst).count objectInstanceHandle +
        (objectInstances.map
          ReservedObjectInstance.objectInstanceHandle).count
            objectInstanceHandle +
        released.count objectInstanceHandle
  identified : ∀ pair ∈ given.map named ++ objectInstances.map identity,
    pair ∈ root.objectInstances.map identity

namespace Balanced

variable
  {root after : ReservationServer}
  {given : List ObjectInstanceHandleNamePair}
  {objectInstances : List ReservedObjectInstance}
  {released : List ObjectInstanceHandle}

theorem initial (isRootServer : Bool) :
    Balanced { isRootServer } [] [] [] where
  accounted :=
    { bounded := by
        intro other member
        cases member
      inUse := by
        intro other member
        cases member
      nodup := List.nodup_nil }
  single := by
    intro objectInstance member
    cases member
  balance := by
    intro objectInstanceHandle
    rfl
  identified := by
    intro pair member
    cases member

section

variable (balanced : Balanced root given objectInstances released)
include balanced

/-- Only the object instances of the root matter. -/
theorem congr
    (sameInstances : after.objectInstances = root.objectInstances)
    (sameAllocator : after.objectInstanceHandleAllocator =
      root.objectInstanceHandleAllocator) :
    Balanced after given objectInstances released where
  accounted :=
    { bounded := by
        rw [sameAllocator]
        exact balanced.accounted.bounded
      inUse := by
        rw [handles, sameInstances, sameAllocator]
        exact balanced.accounted.inUse
      nodup := by
        rw [handles, sameInstances]
        exact balanced.accounted.nodup }
  single := by
    rw [Single, sameInstances]
    exact balanced.single
  balance := by
    rw [referencedBy, sameInstances]
    exact balanced.balance
  identified := by
    rw [sameInstances]
    exact balanced.identified

/-- The root references no object instance twice. -/
theorem count_le_one
    (objectInstanceHandle : ObjectInstanceHandle) :
    (root.referencedBy 0).count objectInstanceHandle ≤ 1 :=
  List.nodup_iff_count_le_one.mp
    (balanced.accounted.nodup.sublist (List.filter_sublist.map _)) _

/-- No object instance is known twice at the node. -/
theorem nodup :
    (objectInstances.map
      ReservedObjectInstance.objectInstanceHandle).Nodup := by
  rw [List.nodup_iff_count_le_one]
  intro objectInstanceHandle
  have balance := balanced.balance objectInstanceHandle
  have most := balanced.count_le_one objectInstanceHandle
  omega

end

/-- The node references what it is given. -/
theorem take
    (balanced : Balanced root (pairs ++ given) objectInstances released)
    (connectHandle : ConnectHandle) :
    Balanced root given
      (objectInstances ++ pairs.map (reserved connectHandle)) released where
  accounted := balanced.accounted
  single := balanced.single
  balance := by
    intro objectInstanceHandle
    have balance := balanced.balance objectInstanceHandle
    simp only [List.map_append, handles_reserved, List.count_append]
      at balance ⊢
    omega
  identified := by
    intro pair member
    apply balanced.identified
    simp only [List.map_append, identity_reserved, List.mem_append] at member ⊢
    tauto

/-- The node releases what it references. -/
theorem release
    (balanced : Balanced root given objectInstances released)
    (nodup : removed.Nodup)
    (known : ∀ objectInstanceHandle ∈ removed,
      objectInstanceHandle ∈ objectInstances.map
        ReservedObjectInstance.objectInstanceHandle) :
    Balanced root given
      (objectInstances.filter fun objectInstance =>
        objectInstance.objectInstanceHandle ∉ removed)
      (released ++ removed) where
  accounted := balanced.accounted
  single := balanced.single
  balance := by
    intro objectInstanceHandle
    have balance := balanced.balance objectInstanceHandle
    have once := List.nodup_iff_count_le_one.mp balanced.nodup
      objectInstanceHandle
    rw [handles_erased, count_filter_notMem, List.count_append]
    split
    next gone =>
      have one := List.count_eq_one_of_mem nodup gone
      have present := List.one_le_count_iff.mpr (known _ gone)
      omega
    next kept =>
      rw [List.count_eq_zero.mpr kept]
      omega
  identified := by
    intro pair member
    apply balanced.identified
    simp only [List.mem_append, List.mem_map, List.mem_filter] at member ⊢
    obtain granted | ⟨objectInstance, ⟨present, _⟩, same⟩ := member
    · exact Or.inl granted
    · exact Or.inr ⟨objectInstance, present, same⟩

/-- A response that gives nothing away may be ignored. -/
theorem ignore
    {nothing : List ObjectInstanceHandleNamePair}
    (balanced : Balanced root (nothing ++ given) objectInstances released)
    (empty : nothing = []) :
    Balanced root given objectInstances released := by
  rwa [empty, List.nil_append] at balanced

section

variable (balanced : Balanced root given objectInstances released)
include balanced

/-- The root gives away what it enters for the node. -/
theorem grant
    {more : List ObjectInstanceHandleNamePair}
    (entered : Entered 0 pairs root after) (accounted : after.Accounted)
    (same : more.map named = pairs.map named) :
    Balanced after (given ++ more) objectInstances released := by
  have balance := balanced.balance
  have sameHandles : more.map Prod.fst = pairs.map Prod.fst := by
    rw [← map_named_fst, same, map_named_fst]
  have referenced := referencedBy_entered entered
  obtain ⟨allocator, rfl⟩ := entered
  constructor
  · exact accounted
  · intro objectInstance member
    obtain known | new := List.mem_append.mp member
    · exact balanced.single objectInstance known
    · obtain ⟨pair, _, rfl⟩ := List.mem_map.mp new
      exact ⟨0, rfl⟩
  · intro objectInstanceHandle
    rw [referenced, List.map_append, sameHandles, List.count_append,
      List.count_append, balance]
    omega
  · intro pair member
    simp only [List.map_append, identity_reserved, List.mem_append] at member ⊢
    obtain (before | new) | node := member
    · exact Or.inl (balanced.identified pair
        (List.mem_append_left _ before))
    · exact Or.inr (same ▸ new)
    · exact Or.inl (balanced.identified pair
        (List.mem_append_right _ node))

/-- What the root enters for another connect is nothing to the node. -/
theorem enter
    (entered : Entered connectHandle pairs root after)
    (accounted : after.Accounted)
    (other : 0 ≠ connectHandle) :
    Balanced after given objectInstances released := by
  have referenced := referencedBy_entered_of_ne entered other
  obtain ⟨allocator, rfl⟩ := entered
  constructor
  · exact accounted
  · intro objectInstance member
    obtain known | new := List.mem_append.mp member
    · exact balanced.single objectInstance known
    · obtain ⟨pair, _, rfl⟩ := List.mem_map.mp new
      exact ⟨connectHandle, rfl⟩
  · rw [referenced]
    exact balanced.balance
  · intro pair member
    rw [List.map_append]
    exact List.mem_append_left _ (balanced.identified pair member)

/-- The root erases what is neither given away nor referenced at the node. -/
theorem erase
    {left : List ObjectInstanceHandle}
    (erased : Erased removed root after) (accounted : after.Accounted)
    (gone : ∀ objectInstanceHandle ∈ removed,
      (given.map Prod.fst).count objectInstanceHandle = 0 ∧
        (objectInstances.map
          ReservedObjectInstance.objectInstanceHandle).count
            objectInstanceHandle = 0 ∧
        left.count objectInstanceHandle = 0)
    (kept : ∀ objectInstanceHandle ∉ removed,
      left.count objectInstanceHandle =
        released.count objectInstanceHandle) :
    Balanced after given objectInstances left := by
  have referenced := referencedBy_erased erased 0
  obtain ⟨allocator, rfl⟩ := erased
  constructor
  · exact accounted
  · intro objectInstance member
    exact balanced.single objectInstance (List.mem_filter.mp member).1
  · intro objectInstanceHandle
    rw [referenced, count_filter_notMem]
    split
    next erasedHere =>
      obtain ⟨first, second, third⟩ := gone objectInstanceHandle erasedHere
      omega
    next keptHere =>
      rw [kept objectInstanceHandle keptHere]
      exact balanced.balance objectInstanceHandle
  · intro pair member
    obtain ⟨objectInstance, present, rfl⟩ :=
      List.mem_map.mp (balanced.identified pair member)
    refine List.mem_map.mpr ⟨objectInstance,
      List.mem_filter.mpr ⟨present, decide_eq_true ?_⟩, rfl⟩
    intro erasedHere
    obtain ⟨first, second, _⟩ := gone _ erasedHere
    rw [List.count_eq_zero] at first second
    obtain granted | node := List.mem_append.mp member
    · rw [← map_named_fst] at first
      exact first (List.mem_map_of_mem granted)
    · obtain ⟨other, known, same⟩ := List.mem_map.mp node
      exact second
        (List.mem_map.mpr ⟨other, known, congrArg Prod.fst same⟩)

/-- What another connect releases at the root is nothing to the node. -/
theorem erase_other
    (sole : ∀ objectInstanceHandle ∈ removed,
      root.IsSole connectHandle objectInstanceHandle)
    (erased : Erased removed root after) (accounted : after.Accounted)
    (other : 0 ≠ connectHandle) :
    Balanced after given objectInstances released := by
  refine balanced.erase erased accounted ?_ fun _ _ => rfl
  intro objectInstanceHandle member
  have absent : objectInstanceHandle ∉ root.referencedBy 0 := by
    intro referenced
    obtain ⟨objectInstance, present, references, same⟩ :=
      mem_referencedBy.mp referenced
    rw [(sole _ member).2 objectInstance present same,
      List.mem_singleton] at references
    exact other references
  have balance := balanced.balance objectInstanceHandle
  rw [List.count_eq_zero.mpr absent] at balance
  omega

end

/-- What the node has released only the node referenced. -/
theorem releasedOnce
    (balanced : Balanced root given objectInstances (removed ++ released)) :
    removed.Nodup ∧
      ∀ objectInstanceHandle ∈ removed,
        root.IsSole 0 objectInstanceHandle := by
  constructor
  · rw [List.nodup_iff_count_le_one]
    intro objectInstanceHandle
    have balance := balanced.balance objectInstanceHandle
    have most := balanced.count_le_one objectInstanceHandle
    rw [List.count_append] at balance
    omega
  · intro objectInstanceHandle member
    apply isSole_of_referencedBy balanced.accounted.nodup balanced.single
    rw [← List.one_le_count_iff] at member ⊢
    have balance := balanced.balance objectInstanceHandle
    rw [List.count_append] at balance
    omega

/-- The root erases what the node has released. -/
theorem erase_released
    (balanced : Balanced root given objectInstances (removed ++ released))
    (erased : Erased removed root after) (accounted : after.Accounted) :
    Balanced after given objectInstances released := by
  apply balanced.erase erased accounted
  · intro objectInstanceHandle member
    have balance := balanced.balance objectInstanceHandle
    have most := balanced.count_le_one objectInstanceHandle
    rw [← List.one_le_count_iff] at member
    rw [List.count_append] at balance
    omega
  · intro objectInstanceHandle absent
    rw [List.count_append, List.count_eq_zero.mpr absent, Nat.zero_add]

end Balanced

/-! ## Federates that resign -/

/-- A federate that the parent is told to resign, or the node is told has
resigned, is still known at the node. -/
structure Tracked
    (federates : List ReservingFederate)
    (resigning : List FederateHandle) : Prop where
  nodup : (federates.map ReservingFederate.federateHandle).Nodup
  once : resigning.Nodup
  pending : ∀ federateHandle ∈ resigning, ∃ federate ∈ federates,
    federate.federateHandle = federateHandle ∧ federate.resignPending = true

variable {federate : ReservingFederate}

namespace Tracked

variable
  {federates : List ReservingFederate}
  {resigning fewer : List FederateHandle}
  {federateHandle : FederateHandle}

section

variable (tracked : Tracked federates resigning)
include tracked

theorem of_count_le
    (most : ∀ federateHandle,
      fewer.count federateHandle ≤ resigning.count federateHandle) :
    Tracked federates fewer where
  nodup := tracked.nodup
  once := by
    rw [List.nodup_iff_count_le_one]
    intro other
    exact (most other).trans
      (List.nodup_iff_count_le_one.mp tracked.once other)
  pending := by
    intro other member
    apply tracked.pending
    rw [← List.one_le_count_iff] at member ⊢
    exact member.trans (most other)

theorem join
    (connectHandle : ConnectHandle)
    (unknown : ∀ federate ∈ federates,
      federate.federateHandle ≠ federateHandle) :
    Tracked
      (federates ++ [{ federateHandle, federationConnect := connectHandle }])
      resigning where
  nodup := by
    rw [List.map_append]
    refine tracked.nodup.append (List.nodup_singleton _) ?_
    intro other member new
    obtain ⟨federate, known, rfl⟩ := List.mem_map.mp member
    exact unknown federate known (List.mem_singleton.mp new)
  once := tracked.once
  pending := by
    intro other member
    obtain ⟨federate, known, same⟩ := tracked.pending other member
    exact ⟨federate, List.mem_append_left _ known, same⟩

/-- A change of federates that keeps their handles, and those that resign. -/
theorem map
    {change : ReservingFederate → ReservingFederate}
    (sameHandle : ∀ federate,
      (change federate).federateHandle = federate.federateHandle)
    (stillPending : ∀ federate,
      federate.resignPending = true →
      (change federate).resignPending = true) :
    Tracked (federates.map change) resigning where
  nodup := by
    rw [List.map_map]
    have same : ReservingFederate.federateHandle ∘ change =
        ReservingFederate.federateHandle := funext sameHandle
    rw [same]
    exact tracked.nodup
  once := tracked.once
  pending := by
    intro other member
    obtain ⟨federate, known, same, pending⟩ := tracked.pending other member
    exact ⟨change federate, List.mem_map_of_mem known,
      (sameHandle federate).trans same, stillPending federate pending⟩

/-- A federate that resigns now has not resigned before. -/
theorem resign
    (known : federate ∈ federates)
    (joined : federate.resignPending = false) :
    Tracked
      (federates.map fun other =>
        if other.federateHandle = federate.federateHandle then
          { other with resignPending := true }
        else other)
      (federate.federateHandle :: resigning) where
  nodup := (tracked.map
    (by intro other; split <;> rfl)
    (by intro other pending; split <;> simp [pending])).nodup
  once := by
    rw [List.nodup_cons]
    refine ⟨?_, tracked.once⟩
    intro member
    obtain ⟨other, present, same, pending⟩ := tracked.pending _ member
    rw [List.inj_on_of_nodup_map tracked.nodup present known same,
      joined] at pending
    cases pending
  pending := by
    rw [List.forall_mem_cons]
    constructor
    · refine ⟨{ federate with resignPending := true }, ?_, rfl, rfl⟩
      exact List.mem_map.mpr ⟨federate, known, if_pos rfl⟩
    · exact (tracked.map
        (by intro other; split <;> rfl)
        (by intro other pending; split <;> simp [pending])).pending

end

/-- A federate that has resigned is erased. -/
theorem erase
    (tracked : Tracked federates (federateHandle :: resigning)) :
    Tracked
      (federates.filter fun federate =>
        federate.federateHandle ≠ federateHandle)
      resigning where
  nodup := tracked.nodup.sublist (List.filter_sublist.map _)
  once := (List.nodup_cons.mp tracked.once).2
  pending := by
    intro other member
    obtain ⟨federate, known, rfl, pending⟩ :=
      tracked.pending other (List.mem_cons_of_mem _ member)
    refine ⟨federate, List.mem_filter.mpr ⟨known, decide_eq_true ?_⟩, rfl,
      pending⟩
    intro same
    exact (List.nodup_cons.mp tracked.once).1 (same ▸ member)

end Tracked

/-! ## The two servers -/

/-- What a node sends to its parent. -/
def isUpstream : ReservationMessage → Bool
  | .releaseMultipleObjectInstanceNameHandlePairs _ => true
  | .resignFederationExecutionRequest _ => true
  | message => isRequest message

/-- What the root sends to a node. -/
def isDownstream : ReservationMessage → Bool
  | .resignFederateNotify _ => true
  | message => isResponse message

variable {message : ReservationMessage}

theorem isUpstream_cases
    (up : isUpstream message = true) :
    (∃ removed,
        message = .releaseMultipleObjectInstanceNameHandlePairs removed) ∨
      (∃ federateHandle,
        message = .resignFederationExecutionRequest federateHandle) ∨
      isRequest message = true := by
  cases message with
  | releaseMultipleObjectInstanceNameHandlePairs removed =>
      exact Or.inl ⟨removed, rfl⟩
  | resignFederationExecutionRequest federateHandle =>
      exact Or.inr (Or.inl ⟨federateHandle, rfl⟩)
  | _ => exact Or.inr (Or.inr up)

theorem isDownstream_cases
    (down : isDownstream message = true) :
    (∃ federateHandle, message = .resignFederateNotify federateHandle) ∨
      isResponse message = true := by
  cases message with
  | resignFederateNotify federateHandle => exact Or.inl ⟨federateHandle, rfl⟩
  | _ => exact Or.inr down

structure Regular (path : ReservationPath) : Prop where
  node : path.server.isRootServer = false
  root : path.root.isRootServer = true
  upstream : ∀ message ∈ path.server.toParent, isUpstream message = true
  downstream : ∀ message ∈ path.root.toConnect 0, isDownstream message = true
  balanced : Balanced path.root ((path.root.toConnect 0).flatMap granted)
    path.server.objectInstances (path.server.toParent.flatMap releases)
  tracked : Tracked path.server.federates
    (path.server.toParent.flatMap resigns ++
      (path.root.toConnect 0).flatMap resigns)
  joined : ∀ objectInstance ∈ path.server.objectInstances,
    ∃ connectHandle, objectInstance.connectHandles = [connectHandle] ∧
      path.server.isJoinedAt connectHandle

theorem of_isRequest
    (request : isRequest message = true) :
    isUpstream message = true ∧ releases message = [] ∧
      resigns message = [] := by
  cases message <;> first | exact ⟨rfl, rfl, rfl⟩ | cases request

theorem of_isResponse
    (response : isResponse message = true) :
    isDownstream message = true ∧ resigns message = [] := by
  cases message <;> first | exact ⟨rfl, rfl⟩ | cases response

namespace Regular

variable {server root after : ReservationServer}

theorem initial : Regular {} where
  node := rfl
  root := rfl
  upstream := by
    intro message member
    cases member
  downstream := by
    intro message member
    cases member
  balanced := .initial true
  tracked :=
    { nodup := List.nodup_nil
      once := List.nodup_nil
      pending := by
        intro federateHandle member
        cases member }
  joined := by
    intro objectInstance member
    cases member

/-- The node passes a request on. -/
theorem node_request
    (regular : Regular { server, root })
    (request : isRequest message = true) :
    Regular { server := sendToParent message server, root } := by
  obtain ⟨up, released, resigning⟩ := of_isRequest request
  constructor
  · exact regular.node
  · exact regular.root
  · intro other member
    obtain earlier | new := List.mem_append.mp member
    · exact regular.upstream other earlier
    · rw [List.mem_singleton.mp new]
      exact up
  · exact regular.downstream
  · have balanced := regular.balanced
    simpa [sendToParent, List.flatMap_append, released] using balanced
  · have tracked := regular.tracked
    simpa [sendToParent, List.flatMap_append, resigning] using tracked
  · exact regular.joined

/-- The node erases what one of its connects releases. -/
theorem node_release
    (regular : Regular { server, root })
    (nodup : removed.Nodup)
    (sole : ∀ objectInstanceHandle ∈ removed,
      server.IsSole connectHandle objectInstanceHandle)
    (erased : Erased removed server after) :
    Regular { server := sendReleased removed after, root } := by
  have balanced := regular.balanced.release nodup
    fun objectInstanceHandle member => (sole objectInstanceHandle member).1
  have tracked := regular.tracked
  have role : after.isRootServer = false := by
    obtain ⟨allocator, rfl⟩ := erased
    exact regular.node
  rw [sendReleased, role, Bool.false_or]
  obtain ⟨allocator, rfl⟩ := erased
  split
  next nothing =>
    rw [List.isEmpty_iff.mp nothing, List.append_nil] at balanced
    rw [List.isEmpty_iff.mp nothing]
    exact
      { node := regular.node
        root := regular.root
        upstream := regular.upstream
        downstream := regular.downstream
        balanced := balanced
        tracked := tracked
        joined := by
          intro objectInstance member
          exact regular.joined objectInstance (List.mem_filter.mp member).1 }
  next something =>
    constructor
    · exact regular.node
    · exact regular.root
    · intro other member
      obtain earlier | new := List.mem_append.mp member
      · exact regular.upstream other earlier
      · rw [List.mem_singleton.mp new]
        rfl
    · exact regular.downstream
    · simpa [sendToParent, List.flatMap_append, releases] using balanced
    · simpa [sendToParent, List.flatMap_append, resigns] using tracked
    · intro objectInstance member
      exact regular.joined objectInstance (List.mem_filter.mp member).1

/-- What stays while federates resign one after the other. -/
structure Resigning
    (initially root : ReservationServer)
    (federateHandles : List FederateHandle)
    (server : ReservationServer) : Prop where
  node : server.isRootServer = false
  instances : server.objectInstances = initially.objectInstances
  upstream : ∀ message ∈ server.toParent, isUpstream message = true
  released : server.toParent.flatMap releases =
    initially.toParent.flatMap releases
  tracked : Tracked server.federates
    (server.toParent.flatMap resigns ++
      (root.toConnect 0).flatMap resigns)
  others : ∀ federate ∈ initially.federates,
    federate.federateHandle ∉ federateHandles → federate ∈ server.federates

variable {initially : ReservationServer} {federateHandles : List FederateHandle}

theorem Resigning.disconnectFederate
    (resigning : Resigning initially root federateHandles server)
    {federateHandle : FederateHandle}
    (member : federateHandle ∈ federateHandles) :
    Resigning initially root federateHandles
      (server.disconnectFederate federateHandle) where
  node := resigning.node
  instances := resigning.instances
  upstream := resigning.upstream
  released := resigning.released
  tracked := by
    refine resigning.tracked.map ?_ ?_
    · intro federate
      split <;> rfl
    · intro federate pending
      split <;> exact pending
  others := by
    intro federate known absent
    refine List.mem_map.mpr
      ⟨federate, resigning.others federate known absent, if_neg ?_⟩
    rintro rfl
    exact absent member

theorem Resigning.resigned
    (resigning : Resigning initially root federateHandles server)
    {federateHandle : FederateHandle}
    (member : federateHandle ∈ federateHandles)
    (found : server.getFederate federateHandle = some federate)
    (joined : federate.resignPending = false) :
    Resigning initially root federateHandles
      (server.resigned connectHandle federateHandle) := by
  obtain ⟨known, rfl⟩ := mem_of_getFederate found
  rw [ReservationServer.resigned, resigning.node, if_neg Bool.false_ne_true]
  constructor
  · exact resigning.node
  · exact resigning.instances
  · intro other sent
    obtain earlier | new := List.mem_append.mp sent
    · exact resigning.upstream other earlier
    · rw [List.mem_singleton.mp new]
      rfl
  · have released := resigning.released
    simpa [sendToParent, setResignPending, List.flatMap_append, releases]
      using released
  · refine (resigning.tracked.resign known joined).of_count_le ?_
    intro other
    simp only [sendToParent, setResignPending, List.flatMap_append,
      List.flatMap_singleton, resigns, List.count_append, List.count_cons,
      List.count_nil]
    omega
  · intro other present absent
    refine List.mem_map.mpr
      ⟨other, resigning.others other present absent, if_neg ?_⟩
    intro same
    rw [same] at absent
    exact absent member

/-- All federates of a connect resign, when nothing is referenced by it any
more. -/
theorem node_resign
    (regular : Regular { server, root })
    (unreferenced : ∀ objectInstance ∈ server.objectInstances,
      connectHandle ∉ objectInstance.connectHandles)
    (ended : Ends reported
      (resignFederates connectHandle (server.federatesAt connectHandle))
      server after) :
    Regular { server := after, root } := by
  have initially : Resigning server root (server.federatesAt connectHandle)
      server :=
    { node := regular.node
      instances := rfl
      upstream := regular.upstream
      released := rfl
      tracked := regular.tracked
      others := fun _ known _ => known }
  have keeps : Keeps reported
      (Resigning server root (server.federatesAt connectHandle))
      (resignFederates connectHandle (server.federatesAt connectHandle)) := by
    apply resignFederates_keeps
    · intro federateHandle member self kept
      exact kept.disconnectFederate member
    · intro federateHandle member self federate kept found joined
      exact kept.resigned member found joined
  have resigning := keeps server after initially ended
  constructor
  · exact resigning.node
  · exact regular.root
  · exact resigning.upstream
  · exact regular.downstream
  · have balanced := regular.balanced
    rw [← resigning.instances, ← resigning.released] at balanced
    exact balanced
  · exact resigning.tracked
  · intro objectInstance member
    rw [resigning.instances] at member
    obtain ⟨other, single, federate, known, connected, joined⟩ :=
      regular.joined objectInstance member
    refine ⟨other, single, federate, ?_, connected, joined⟩
    apply resigning.others federate known
    intro here
    obtain ⟨same, present, sameHandle⟩ := List.mem_map.mp here
    obtain ⟨present, atConnect⟩ := List.mem_filter.mp present
    rw [List.inj_on_of_nodup_map regular.tracked.nodup present known sameHandle,
      connected] at atConnect
    have references := unreferenced objectInstance member
    rw [single, List.mem_singleton] at references
    simp at atConnect
    exact references atConnect.symm

variable {rest : List ReservationMessage}

section

variable (regular : Regular { server, root })
include regular

/-- The node references what is given to a federate that has not resigned. -/
theorem node_received
    (head : root.toConnect 0 = message :: rest)
    (response : isResponse message = true)
    (found : granted message = [] ∨
      ∃ federateHandle ∈ receiver message,
        connectOf server federateHandle ≠ none)
    (received : Received message server after) :
    Regular
      { server := after
        root :=
          { root with toConnect := Function.update root.toConnect 0 rest } } := by
  have balanced := regular.balanced
  have tracked := regular.tracked
  have down := regular.downstream
  simp only [head, List.flatMap_cons, (of_isResponse response).2,
    List.nil_append, List.forall_mem_cons] at balanced tracked down
  obtain ⟨rfl, unreachable⟩ | ⟨federate, known, connectHandle, between,
    connected, joined, ⟨allocator, rfl⟩, rfl⟩ := received
  · have nothing : granted message = [] := by
      obtain nothing | ⟨federateHandle, same, reachable⟩ := found
      · exact nothing
      · exact absurd (unreachable federateHandle same) reachable
    constructor
    · exact regular.node
    · exact regular.root
    · exact regular.upstream
    · simp only [Function.update_self]
      exact down.2
    · simp only [Function.update_self]
      exact (balanced.ignore nothing).congr rfl rfl
    · simp only [Function.update_self]
      exact tracked
    · exact regular.joined
  · constructor
    · exact regular.node
    · exact regular.root
    · exact regular.upstream
    · simp only [Function.update_self]
      exact down.2
    · simp only [Function.update_self]
      exact (balanced.take connectHandle).congr rfl rfl
    · simp only [Function.update_self]
      exact tracked
    · intro objectInstance member
      obtain before | new := List.mem_append.mp member
      · exact regular.joined objectInstance before
      · obtain ⟨pair, _, rfl⟩ := List.mem_map.mp new
        exact ⟨connectHandle, rfl, federate, known, connected, joined⟩

/-- The node forgets a federate that has resigned. -/
theorem node_notify
    {federateHandle : FederateHandle}
    (head : root.toConnect 0 = .resignFederateNotify federateHandle :: rest) :
    Regular
      { server := eraseFederate federateHandle server
        root :=
          { root with toConnect := Function.update root.toConnect 0 rest } } := by
  have balanced := regular.balanced
  have tracked := regular.tracked
  have down := regular.downstream
  simp only [head, List.flatMap_cons, granted, List.nil_append,
    List.forall_mem_cons] at balanced tracked down
  have first : Tracked server.federates (federateHandle ::
      (server.toParent.flatMap resigns ++ rest.flatMap resigns)) := by
    refine tracked.of_count_le ?_
    intro other
    simp only [resigns, List.count_append, List.count_cons, List.count_nil]
    omega
  constructor
  · exact regular.node
  · exact regular.root
  · exact regular.upstream
  · simp only [Function.update_self]
    exact down.2
  · simp only [Function.update_self]
    exact balanced.congr rfl rfl
  · simp only [Function.update_self]
    exact first.erase
  · intro objectInstance member
    obtain ⟨connectHandle, single, federate, known, connected, joined⟩ :=
      regular.joined objectInstance member
    refine ⟨connectHandle, single, federate,
      List.mem_filter.mpr ⟨known, decide_eq_true ?_⟩, connected, joined⟩
    intro same
    obtain ⟨other, present, sameHandle, pending⟩ :=
      first.pending federateHandle (List.mem_cons_self ..)
    rw [List.inj_on_of_nodup_map tracked.nodup present known
      (sameHandle.trans same.symm), joined] at pending
    cases pending

/-! ## Steps of the root -/

/-- The root answers a request, of the node or of one of its own federates. -/
theorem root_answered
    (answered : Answered root after) :
    Regular { server, root := after } := by
  obtain ⟨connectHandle, pairs, message, between, entered, accounted, response,
    same, rfl⟩ := answered
  have balanced := regular.balanced
  have tracked := regular.tracked
  obtain ⟨down, resigning⟩ := of_isResponse response
  have role : between.isRootServer = root.isRootServer := by
    obtain ⟨allocator, rfl⟩ := entered
    rfl
  have channels : between.toConnect = root.toConnect := by
    obtain ⟨allocator, rfl⟩ := entered
    rfl
  by_cases other : connectHandle = 0
  · subst other
    have sent : (send 0 message between).toConnect 0 =
        root.toConnect 0 ++ [message] := by
      rw [toConnect_send, channels]
    constructor
    · exact regular.node
    · exact role.trans regular.root
    · exact regular.upstream
    · intro received member
      rw [sent] at member
      obtain earlier | new := List.mem_append.mp member
      · exact regular.downstream received earlier
      · rw [List.mem_singleton.mp new]
        exact down
    · rw [sent, List.flatMap_append, List.flatMap_singleton]
      exact (balanced.grant entered accounted same).congr rfl rfl
    · rw [sent, List.flatMap_append, List.flatMap_singleton, resigning,
        List.append_nil]
      exact tracked
    · exact regular.joined
  · have sent : (send connectHandle message between).toConnect 0 =
        root.toConnect 0 := by
      rw [toConnect_send_of_ne (Ne.symm other), channels]
    constructor
    · exact regular.node
    · exact role.trans regular.root
    · exact regular.upstream
    · rw [sent]
      exact regular.downstream
    · rw [sent]
      exact (balanced.enter entered accounted (Ne.symm other)).congr rfl rfl
    · rw [sent]
      exact tracked
    · exact regular.joined

/-- The root has done something for other connects than that of the node. -/
theorem root_other
    (sameRole : after.isRootServer = root.isRootServer)
    (sameChannel : after.toConnect 0 = root.toConnect 0)
    (balanced : Balanced after ((root.toConnect 0).flatMap granted)
      server.objectInstances (server.toParent.flatMap releases)) :
    Regular { server, root := after } where
  node := regular.node
  root := sameRole.trans regular.root
  upstream := regular.upstream
  downstream := by
    rw [sameChannel]
    exact regular.downstream
  balanced := by
    rw [sameChannel]
    exact balanced
  tracked := by
    rw [sameChannel]
    exact regular.tracked
  joined := regular.joined

end

/-- What stays at the root while federates of another connect resign. -/
structure Elsewhere (initially server : ReservationServer) : Prop where
  role : server.isRootServer = initially.isRootServer
  instances : server.objectInstances = initially.objectInstances
  allocator : server.objectInstanceHandleAllocator =
    initially.objectInstanceHandleAllocator
  channel : server.toConnect 0 = initially.toConnect 0

section

variable (regular : Regular { server, root })
include regular

theorem root_resign
    (other : connectHandle ≠ 0)
    (ended : Ends reported (resignFederates connectHandle federateHandles)
      root after) :
    Regular { server, root := after } := by
  have keeps : Keeps reported (Elsewhere root)
      (resignFederates connectHandle federateHandles) := by
    apply resignFederates_keeps
    · intro federateHandle _ self kept
      exact
        { role := kept.role
          instances := kept.instances
          allocator := kept.allocator
          channel := kept.channel }
    · intro federateHandle _ self federate kept _ _
      rw [ReservationServer.resigned]
      split
      · exact
          { role := kept.role
            instances := kept.instances
            allocator := kept.allocator
            channel := (toConnect_send_of_ne (Ne.symm other) _ _).trans
              kept.channel }
      · exact
          { role := kept.role
            instances := kept.instances
            allocator := kept.allocator
            channel := kept.channel }
  have kept := keeps root after
    { role := rfl, instances := rfl, allocator := rfl, channel := rfl } ended
  exact regular.root_other kept.role kept.channel
    (regular.balanced.congr kept.instances kept.allocator)

/-- The root takes a message of the node that says nothing about object
instances or federates. -/
theorem root_takes_request
    (head : server.toParent = message :: rest)
    (request : isRequest message = true) :
    Regular { server := { server with toParent := rest }, root } := by
  have upstream := regular.upstream
  have balanced := regular.balanced
  have tracked := regular.tracked
  obtain ⟨_, released, resigning⟩ := of_isRequest request
  simp only [head, List.flatMap_cons, released, resigning, List.nil_append,
    List.forall_mem_cons] at upstream balanced tracked
  exact
    { node := regular.node
      root := regular.root
      upstream := upstream.2
      downstream := regular.downstream
      balanced := balanced
      tracked := tracked
      joined := regular.joined }

/-- The root erases what the node has released. -/
theorem root_takes_release
    (head : server.toParent =
      .releaseMultipleObjectInstanceNameHandlePairs removed :: rest)
    (ended : Ends reported
      (acceptReleaseMultipleObjectInstanceNameHandlePairs 0 removed)
      root after) :
    Regular { server := { server with toParent := rest }, root := after } := by
  have upstream := regular.upstream
  have balanced := regular.balanced
  have tracked := regular.tracked
  simp only [head, List.flatMap_cons, releases, resigns, List.nil_append,
    List.forall_mem_cons] at upstream balanced tracked
  obtain ⟨nodup, sole⟩ := balanced.releasedOnce
  obtain ⟨between, ran, erased, accounted⟩ :=
    releaseObjectInstances_eq_ok nodup sole
  have role : between.isRootServer = true := by
    obtain ⟨allocator, rfl⟩ := erased
    exact regular.root
  have channels : between.toConnect = root.toConnect := by
    obtain ⟨allocator, rfl⟩ := erased
    rfl
  simp only [acceptReleaseMultipleObjectInstanceNameHandlePairs,
    ends_bind_of_ok ran, ends_modify, sendReleased, role, Bool.true_or,
    if_true] at ended
  subst ended
  constructor
  · exact regular.node
  · exact role
  · exact upstream.2
  · rw [channels]
    exact regular.downstream
  · rw [channels]
    exact balanced.erase_released erased (accounted balanced.accounted)
  · rw [channels]
    exact tracked
  · exact regular.joined

/-- The root is told that a federate of the node resigns. -/
theorem root_takes_resign
    {federateHandle : FederateHandle}
    (head : server.toParent =
      .resignFederationExecutionRequest federateHandle :: rest)
    (ended : Ends reported
      (acceptResignFederationExecutionRequest 0 federateHandle) root after) :
    Regular { server := { server with toParent := rest }, root := after } := by
  have upstream := regular.upstream
  have balanced := regular.balanced
  have tracked := regular.tracked
  simp only [head, List.flatMap_cons, releases, List.nil_append,
    List.forall_mem_cons] at upstream balanced tracked
  obtain rfl | ⟨federate, _, _, rfl⟩ := resign_ends ended
  · exact
      { node := regular.node
        root := regular.root
        upstream := upstream.2
        downstream := regular.downstream
        balanced := balanced
        tracked := by
          refine tracked.of_count_le ?_
          intro other
          simp only [List.count_append]
          omega
        joined := regular.joined }
  · have sent : (resigned 0 federateHandle root).toConnect 0 =
        root.toConnect 0 ++ [.resignFederateNotify federateHandle] := by
      rw [resigned, if_pos regular.root]
      exact toConnect_send 0 _ _
    have sameInstances : (resigned 0 federateHandle root).objectInstances =
        root.objectInstances := by
      rw [resigned, if_pos regular.root]
      rfl
    have sameAllocator :
        (resigned 0 federateHandle root).objectInstanceHandleAllocator =
          root.objectInstanceHandleAllocator := by
      rw [resigned, if_pos regular.root]
      rfl
    constructor
    · exact regular.node
    · rw [resigned, if_pos regular.root]
      exact regular.root
    · exact upstream.2
    · intro message member
      rw [sent] at member
      obtain earlier | new := List.mem_append.mp member
      · exact regular.downstream message earlier
      · rw [List.mem_singleton.mp new]
        rfl
    · have nothing : granted (.resignFederateNotify federateHandle) = [] := rfl
      rw [sent, List.flatMap_append, List.flatMap_singleton, nothing,
        List.append_nil]
      exact balanced.congr sameInstances sameAllocator
    · rw [sent, List.flatMap_append, List.flatMap_singleton]
      refine tracked.of_count_le ?_
      intro other
      simp only [resigns, List.count_append]
      omega
    · exact regular.joined

/-- The root takes a message of the node. -/
theorem root_takes
    (head : server.toParent = message :: rest)
    (left : root.objectInstanceHandleAllocator.inUse.card + wanted message ≤
      invalidHandle)
    (ended : Ends reported (accept 0 message) root after) :
    Regular { server := { server with toParent := rest }, root := after } := by
  obtain ⟨removed, rfl⟩ | ⟨federateHandle, rfl⟩ | request :=
    isUpstream_cases (regular.upstream message (by simp [head]))
  · exact regular.root_takes_release head ended
  · exact regular.root_takes_resign head ended
  · have taken := regular.root_takes_request head request
    obtain rfl | answered := request_ends_at_root regular.root
      regular.balanced.accounted request left ended
    · exact taken
    · exact taken.root_answered answered

/-- The node takes a message of the root. -/
theorem node_takes
    (head : root.toConnect 0 = message :: rest)
    (found : granted message = [] ∨
      ∃ federateHandle ∈ receiver message,
        connectOf server federateHandle ≠ none)
    (ended : Ends reported (accept 0 message) server after) :
    Regular
      { server := after
        root :=
          { root with toConnect := Function.update root.toConnect 0 rest } } := by
  obtain ⟨federateHandle, rfl⟩ | response :=
    isDownstream_cases (regular.downstream message (by simp [head]))
  · obtain ⟨federate, known, same, _⟩ := regular.tracked.pending
      federateHandle (by simp [head, resigns])
    simp only [accept, acceptResignFederateNotify, ends_get_bind] at ended
    split at ended
    next unknown =>
      have different := List.find?_eq_none.mp unknown federate known
      simp [same] at different
    next =>
      rw [ends_modify] at ended
      subst ended
      exact regular.node_notify head
  · exact regular.node_received head response found
      (response_ends response ended)

/-- What a connect of the node may release only that connect references. -/
theorem node_sole
    (referenced : objectInstanceHandle ∈ server.referencedBy connectHandle) :
    server.IsSole connectHandle objectInstanceHandle := by
  apply isSole_of_referencedBy regular.balanced.nodup _ referenced
  intro objectInstance member
  obtain ⟨only, single, _⟩ := regular.joined objectInstance member
  exact ⟨only, single⟩

theorem root_sole
    (referenced : objectInstanceHandle ∈ root.referencedBy connectHandle) :
    root.IsSole connectHandle objectInstanceHandle :=
  isSole_of_referencedBy regular.balanced.accounted.nodup
    regular.balanced.single referenced

end

/-- What a connect references is not named twice. -/
theorem nodup_referencedBy
    (nodup : self.handles.Nodup) (connectHandle : ConnectHandle) :
    (self.referencedBy connectHandle).Nodup :=
  nodup.sublist (List.filter_sublist.map _)

section

variable (regular : Regular { server, root })
include regular

/-- The root erases what one of its other connects releases. -/
theorem root_release
    (other : connectHandle ≠ 0)
    (sole : ∀ objectInstanceHandle ∈ removed,
      root.IsSole connectHandle objectInstanceHandle)
    (erased : Erased removed root after) (accounted : after.Accounted) :
    Regular { server, root := sendReleased removed after } := by
  have balanced := regular.balanced.erase_other sole erased accounted
    (Ne.symm other)
  have role : after.isRootServer = true := by
    obtain ⟨allocator, rfl⟩ := erased
    exact regular.root
  rw [sendReleased, role, Bool.true_or, if_pos rfl]
  obtain ⟨allocator, rfl⟩ := erased
  exact regular.root_other rfl rfl balanced

/-- A connect of the node goes. -/
theorem node_resignConnect
    (ended : Ends reported (resignConnect connectHandle) server after) :
    Regular { server := after, root } := by
  have nodup := nodup_referencedBy regular.balanced.nodup connectHandle
  obtain ⟨between, ran, erased, _⟩ :=
    releaseObjectInstances_eq_ok nodup fun _ referenced =>
      regular.node_sole referenced
  have released := regular.node_release nodup
    (fun _ referenced => regular.node_sole referenced) erased
  simp only [resignConnect, ends_get_bind, ends_bind_of_ok ran,
    ends_modify_bind] at ended
  refine released.node_resign ?_ ended
  obtain ⟨allocator, rfl⟩ := erased
  have instances : ∀ self : ReservationServer,
      (sendReleased (server.referencedBy connectHandle) self).objectInstances =
        self.objectInstances := by
    intro self
    unfold sendReleased
    split <;> rfl
  rw [instances]
  intro objectInstance member references
  obtain ⟨present, kept⟩ := List.mem_filter.mp member
  exact of_decide_eq_true kept
    (mem_referencedBy.mpr ⟨objectInstance, present, references, rfl⟩)

/-- A connect of the root goes that is not the one of the node. -/
theorem root_resignConnect
    (other : connectHandle ≠ 0)
    (ended : Ends reported (resignConnect connectHandle) root after) :
    Regular { server, root := after } := by
  obtain ⟨between, ran, erased, accounted⟩ :=
    releaseObjectInstances_eq_ok
      (nodup_referencedBy regular.balanced.accounted.nodup connectHandle)
      fun _ referenced => regular.root_sole referenced
  simp only [resignConnect, ends_get_bind, ends_bind_of_ok ran,
    ends_modify_bind] at ended
  have released := regular.root_release other
    (fun _ referenced => regular.root_sole referenced) erased
    (accounted regular.balanced.accounted)
  exact released.root_resign other ended

end

end Regular

/-! ## Runs -/

theorem handle_eq_ok
    {side : Side} {handler : Handler Unit}
    {self after : ReservationPath}
    (handled : self.handle side handler = .ok after) :
    ∃ changed,
      Ends reported handler (self.serverOf side) changed ∧
        after = self.set side changed := by
  unfold handle at handled
  split at handled
  next value changed ran =>
    injection handled with same
    exact ⟨changed, Or.inl ⟨value, ran⟩, same.symm⟩
  · cases handled
  next failure changed serious failed =>
    injection handled with same
    exact ⟨changed, Or.inr ⟨failure, serious, failed⟩, same.symm⟩

theorem next_eq_some
    {before after : ReservationPath} {input : ReservationInput}
    (stepped : system.next before input = some after) :
    before.step input = some (.ok after) := by
  simp only [system] at stepped
  split at stepped
  next other taken =>
    rw [taken, Option.some_inj.mp stepped]
  · cases stepped

/-- A federate sends a request, or releases what its connect references. -/
theorem mayBeSent_cases
    {server : ReservationServer} {federateHandle : FederateHandle}
    (sent : mayBeSent server federateHandle connectHandle message = true) :
    isRequest message = true ∨
      ∃ removed : List ObjectInstanceHandle,
        message = .releaseMultipleObjectInstanceNameHandlePairs removed ∧
          removed.Nodup ∧
          ∀ objectInstanceHandle ∈ removed,
            objectInstanceHandle ∈ server.referencedBy connectHandle := by
  cases message with
  | releaseMultipleObjectInstanceNameHandlePairs removed =>
      simp only [mayBeSent, Bool.and_eq_true, decide_eq_true_eq,
        List.all_eq_true] at sent
      exact Or.inr ⟨removed, rfl, sent⟩
  | objectInstanceHandlesRequest | reserveObjectInstanceNameRequest
  | reserveMultipleObjectInstanceNameRequest => exact Or.inl rfl
  | _ => cases sent

namespace Regular

variable {before after : ReservationPath}

/-- A federate joins at the node. -/
theorem join
    (regular : Regular before)
    {federateHandle : FederateHandle}
    (unknown : before.server.getFederate federateHandle = none) :
    Regular
      { server :=
          ReservationPath.join federateHandle connectHandle before.server
        root := ReservationPath.join federateHandle 0 before.root } where
  node := regular.node
  root := regular.root
  upstream := regular.upstream
  downstream := regular.downstream
  balanced := regular.balanced.congr rfl rfl
  tracked := by
    apply regular.tracked.join
    intro federate known
    simpa using List.find?_eq_none.mp unknown federate known
  joined := by
    intro objectInstance member
    obtain ⟨other, single, federate, known, connected, joined⟩ :=
      regular.joined objectInstance member
    exact ⟨other, single, federate, List.mem_append_left _ known, connected,
      joined⟩

variable {changed : ReservationServer}

/-- A federate of the node sends a message. -/
theorem node_message
    {server root : ReservationServer}
    (regular : Regular { server, root })
    {federateHandle : FederateHandle}
    (sent : mayBeSent server federateHandle connectHandle message = true)
    (ended : Ends reported (accept connectHandle message) server changed) :
    Regular { server := changed, root } := by
  obtain request | ⟨removed, rfl, nodup, referenced⟩ := mayBeSent_cases sent
  · obtain rfl | rfl := request_ends_at_node regular.node request ended
    · exact regular
    · exact regular.node_request request
  · obtain ⟨between, ran, erased, _⟩ :=
      releaseObjectInstances_eq_ok nodup fun objectInstanceHandle member =>
        regular.node_sole (referenced objectInstanceHandle member)
    simp only [accept, acceptReleaseMultipleObjectInstanceNameHandlePairs,
      ends_bind_of_ok ran, ends_modify] at ended
    subst ended
    exact regular.node_release nodup
      (fun objectInstanceHandle member =>
        regular.node_sole (referenced objectInstanceHandle member)) erased

/-- A federate of the root sends a message. -/
theorem root_message
    {server root : ReservationServer}
    (regular : Regular { server, root })
    {federateHandle : FederateHandle}
    (other : connectHandle ≠ 0)
    (left : root.objectInstanceHandleAllocator.inUse.card + wanted message ≤
      invalidHandle)
    (sent : mayBeSent root federateHandle connectHandle message = true)
    (ended : Ends reported (accept connectHandle message) root changed) :
    Regular { server, root := changed } := by
  obtain request | ⟨removed, rfl, nodup, referenced⟩ := mayBeSent_cases sent
  · obtain rfl | answered := request_ends_at_root regular.root
      regular.balanced.accounted request left ended
    · exact regular
    · exact regular.root_answered answered
  · have sole : ∀ objectInstanceHandle ∈ removed,
        root.IsSole connectHandle objectInstanceHandle := by
      intro objectInstanceHandle member
      exact regular.root_sole (referenced objectInstanceHandle member)
    obtain ⟨between, ran, erased, accounted⟩ :=
      releaseObjectInstances_eq_ok nodup sole
    simp only [accept, acceptReleaseMultipleObjectInstanceNameHandlePairs,
      ends_bind_of_ok ran, ends_modify] at ended
    subst ended
    exact regular.root_release other sole erased
      (accounted regular.balanced.accounted)

/-- A step that loses no reservation keeps each at one place. -/
theorem step
    (regular : Regular before)
    {input : ReservationInput}
    (allowed : before.losesNone input = true)
    (stepped : system.next before input = some after) :
    Regular after := by
  have taken := next_eq_some stepped
  cases input with
  | joinFederationExecution side federateHandle connectHandle =>
      simp only [ReservationPath.step] at taken
      split at taken
      next possible =>
        simp only [Bool.and_eq_true, Option.isNone_iff_eq_none] at possible
        cases side with
        | node =>
            cases taken
            exact regular.join possible.1.2
        | root =>
            cases taken
            exact regular.root_other rfl rfl (regular.balanced.congr rfl rfl)
      · cases taken
  | sendMessage side federateHandle message =>
      simp only [ReservationPath.step] at taken
      split at taken
      · cases taken
      next connectHandle _ =>
        split at taken
        next possible =>
          rw [Bool.and_eq_true] at possible
          obtain ⟨changed, ended, rfl⟩ :=
            handle_eq_ok (Option.some_inj.mp taken)
          cases side with
          | node => exact regular.node_message possible.2 ended
          | root =>
              have other : connectHandle ≠ 0 := by
                simpa [isOther] using possible.1
              exact regular.root_message other (of_decide_eq_true allowed)
                possible.2 ended
        · cases taken
  | resignConnect side connectHandle =>
      simp only [ReservationPath.step] at taken
      split at taken
      next possible =>
        obtain ⟨changed, ended, rfl⟩ :=
          handle_eq_ok (Option.some_inj.mp taken)
        cases side with
        | node => exact regular.node_resignConnect ended
        | root =>
            have other : connectHandle ≠ 0 := by
              simpa [isOther] using possible
            exact regular.root_resignConnect other ended
      · cases taken
  | deliver side =>
      cases side with
      | root =>
          simp only [ReservationPath.step] at taken
          split at taken
          · cases taken
          next message rest head =>
            obtain ⟨changed, ended, rfl⟩ :=
              handle_eq_ok (Option.some_inj.mp taken)
            simp only [losesNone, head, List.head?_cons, Option.all_some]
              at allowed
            exact regular.root_takes head (of_decide_eq_true allowed) ended
      | node =>
          simp only [ReservationPath.step] at taken
          split at taken
          · cases taken
          next message rest head =>
            obtain ⟨changed, ended, rfl⟩ :=
              handle_eq_ok (Option.some_inj.mp taken)
            refine regular.node_takes head ?_ ended
            simp only [losesNone, head, Bool.or_eq_true, List.isEmpty_iff,
              Option.any_eq_true, Option.isSome_iff_ne_none] at allowed
            exact allowed

theorem of_reachable
    (reached : system.ReachableUnder
      (fun self input => self.losesNone input = true) before) :
    Regular before :=
  reached.invariant Regular initial fun _ _ _ regular allowed stepped =>
    regular.step allowed stepped

end Regular

/-! ## When all messages are delivered -/

/-- In a run that loses no reservation the root references an object instance
for the node only if the node references it, by the same name, for a federate
that is joined there.  A name that neither a federate that is joined at the node
nor another connect of the root references can be reserved. -/
theorem reservations_not_leaked
    {self : ReservationPath}
    (reached : system.ReachableUnder
      (fun before input => before.losesNone input = true) self)
    (quiet : self.Quiet) :
    (∀ objectInstance ∈ self.root.objectInstances,
        0 ∈ objectInstance.connectHandles →
        ∃ known ∈ self.server.objectInstances,
          identity known = identity objectInstance ∧
            ∃ connectHandle ∈ known.connectHandles,
              self.server.isJoinedAt connectHandle) ∧
      ∀ name,
        (∀ objectInstance ∈ self.root.objectInstances,
          objectInstance.name = name → 0 ∈ objectInstance.connectHandles) →
        (∀ known ∈ self.server.objectInstances, known.name = name →
          ∀ connectHandle ∈ known.connectHandles,
            ¬self.server.isJoinedAt connectHandle) →
        self.root.isObjectInstanceNameInUse name = false := by
  have regular := Regular.of_reachable reached
  have balanced := regular.balanced
  rw [quiet.1, quiet.2] at balanced
  have known : ∀ objectInstance ∈ self.root.objectInstances,
      0 ∈ objectInstance.connectHandles →
      ∃ known ∈ self.server.objectInstances,
        identity known = identity objectInstance ∧
          ∃ connectHandle ∈ known.connectHandles,
            self.server.isJoinedAt connectHandle := by
    intro objectInstance member references
    have held := mem_referencedBy.mpr ⟨objectInstance, member, references, rfl⟩
    have balance := balanced.balance objectInstance.objectInstanceHandle
    rw [← List.one_le_count_iff] at held
    simp only [List.flatMap_nil, List.map_nil, List.count_nil] at balance
    obtain ⟨known, present, same⟩ := List.mem_map.mp
      (List.one_le_count_iff.mp (by omega :
        1 ≤ (self.server.objectInstances.map
          ReservedObjectInstance.objectInstanceHandle).count
            objectInstance.objectInstanceHandle))
    refine ⟨known, present, ?_, ?_⟩
    · obtain ⟨other, otherMember, identical⟩ := List.mem_map.mp
        (balanced.identified (identity known)
          (List.mem_append_right _ (List.mem_map_of_mem present)))
      rw [← identical, List.inj_on_of_nodup_map balanced.accounted.nodup
        otherMember member ((congrArg Prod.fst identical).trans same)]
    · obtain ⟨connectHandle, single, joined⟩ := regular.joined known present
      refine ⟨connectHandle, ?_, joined⟩
      rw [single]
      exact List.mem_singleton_self connectHandle
  refine ⟨known, ?_⟩
  intro name ofNode unheld
  rw [isObjectInstanceNameInUse, List.any_eq_false]
  intro objectInstance member sameName
  have named := of_decide_eq_true sameName
  obtain ⟨copy, present, identical, connectHandle, references, joined⟩ :=
    known objectInstance member (ofNode objectInstance member named)
  exact unheld copy present ((congrArg Prod.snd identical).trans named)
    connectHandle references joined

/-- Two federates join and reserve a name each.  The connect of the first one
goes when it has its name. -/
def resignedLater : List ReservationInput :=
  [.joinFederationExecution .node 7 1, .joinFederationExecution .node 8 2,
    .sendMessage .node 7 (.reserveObjectInstanceNameRequest 7 "Table" false),
    .sendMessage .node 8 (.reserveObjectInstanceNameRequest 8 "Chair" false),
    .deliver .root, .deliver .node, .resignConnect .node 1, .deliver .root,
    .deliver .root, .deliver .root, .deliver .node, .deliver .node]

/-- Everything is delivered, and nobody at the node references the name. -/
def hasDropped (name : String) (self : ReservationPath) : Bool :=
  self.server.toParent.isEmpty && (self.root.toConnect 0).isEmpty &&
    (self.root.objectInstances.all fun objectInstance =>
      0 ∈ objectInstance.connectHandles) &&
    self.server.objectInstances.all fun known => known.name ≠ name

/-- The name of the first federate is free again. -/
theorem reservations_not_leaked_resigned_later :
    ∃ final, (system.restrict losesNone).run {} resignedLater = some final ∧
      final.root.isObjectInstanceNameInUse "Table" = false := by
  have ran : (((system.restrict losesNone).run {} resignedLater).any
      (hasDropped "Table")) = true := by
    decide +kernel
  obtain ⟨final, finished, dropped⟩ := (Option.any_eq_true _ _).mp ran
  simp only [hasDropped, Bool.and_eq_true, List.isEmpty_iff, List.all_eq_true,
    decide_eq_true_eq] at dropped
  obtain ⟨⟨quiet, ofNode⟩, unheld⟩ := dropped
  have reached : (system.restrict losesNone).Reachable final :=
    TransitionSystem.reachable_of_run resignedLater finished
  refine ⟨final, finished, (reservations_not_leaked
    (TransitionSystem.reachableUnder_of_restrict reached) quiet).2 "Table"
      ?_ ?_⟩
  · intro objectInstance member _
    exact ofNode objectInstance member
  · intro known member same
    exact absurd same (unheld known member)

/-- A federate reserves a name, and its connect goes while the response is on
its way. -/
def resignedEarlier : List ReservationInput :=
  [.joinFederationExecution .node 7 1, .joinFederationExecution .node 8 2,
    .sendMessage .node 7 (.reserveObjectInstanceNameRequest 7 "Table" false),
    .deliver .root, .resignConnect .node 1, .deliver .node, .deliver .root,
    .deliver .node]

/-- The root keeps the name for the node, which knows nothing of it. -/
theorem reservations_not_leaked_fails_crossing :
    ∃ final, system.Reachable final ∧ final.Quiet ∧
      final.server.objectInstances = [] ∧
      final.root.referencedBy 0 = [0] ∧
      final.root.isObjectInstanceNameInUse "Table" = true :=
  ⟨_, TransitionSystem.reachable_of_run resignedEarlier rfl, ⟨rfl, rfl⟩, rfl,
    rfl, rfl⟩

end ReservationPath
end ServerNode
end OpenRTI
