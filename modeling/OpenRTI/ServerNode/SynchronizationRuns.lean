import OpenRTI.ServerNode.SynchronizationPoints

/-!
# Completion of synchronization points

Each registration of a label is answered by at most one completion, which finds
everybody who was entered for the label gone or done.  A point waits for
somebody as long as every registration finds somebody to wait for; one that
finds nobody stays, since completion is only looked for when a federate
achieves the point.
-/

namespace OpenRTI
namespace ServerNode

open Foundation
open Foundation.FailingState (except_bind_eq_ok)
open ServerModel

variable {label : String} {federateHandles : List FederateHandle}
variable {federateHandle : FederateHandle}
variable {events history : List SynchronizationEvent}
variable {event : SynchronizationEvent}

namespace SynchronizationEvent

/-- What an event does to the federates that are pending for a label. -/
def applyTo
    (label : String)
    (pending : Finset FederateHandle) :
    SynchronizationEvent → Finset FederateHandle
  | .registered other => if other = label then ∅ else pending
  | .inserted other federateHandle =>
      if other = label then insert federateHandle pending else pending
  | .achieved other federateHandle =>
      if other = label then pending.erase federateHandle else pending
  | .resigned federateHandle => pending.erase federateHandle
  | .synchronized _ => pending

/-- The federates entered for a label since it was registered last, that have
neither achieved it nor resigned since. -/
def pending
    (label : String)
    (history : List SynchronizationEvent) : Finset FederateHandle :=
  history.foldr (fun event pending => applyTo label pending event) ∅

theorem pending_cons
    (label : String) (event : SynchronizationEvent)
    (history : List SynchronizationEvent) :
    pending label (event :: history) =
      applyTo label (pending label history) event := rfl

theorem pending_record
    (label : String) (events history : List SynchronizationEvent) :
    pending label (events.reverse ++ history) =
      events.foldl (applyTo label) (pending label history) := by
  rw [pending, List.foldr_append, List.foldr_reverse]
  rfl

variable {other : String}

theorem mem_foldl_inserted
    {pending : Finset FederateHandle} :
    federateHandle ∈
        (federateHandles.map (SynchronizationEvent.inserted other)).foldl
          (applyTo label) pending ↔
      federateHandle ∈ pending ∨
        other = label ∧ federateHandle ∈ federateHandles := by
  induction federateHandles generalizing pending with
  | nil => simp
  | cons first rest ih =>
      rw [List.map_cons, List.foldl_cons, ih, applyTo,
        List.mem_cons]
      split <;> simp_all [or_assoc, or_left_comm]

theorem mem_foldl_achieved
    {pending : Finset FederateHandle} :
    federateHandle ∈
        (federateHandles.map (SynchronizationEvent.achieved other)).foldl
          (applyTo label) pending ↔
      federateHandle ∈ pending ∧
        (other = label → federateHandle ∉ federateHandles) := by
  induction federateHandles generalizing pending with
  | nil => simp
  | cons first rest ih =>
      rw [List.map_cons, List.foldl_cons, ih, applyTo,
        List.mem_cons, not_or]
      split <;> simp_all [and_assoc, and_left_comm]

/-- Nobody is pending for a label when it is synchronized. -/
def Safe : List SynchronizationEvent → Prop
  | [] => True
  | .synchronized label :: earlier => pending label earlier = ∅ ∧ Safe earlier
  | _ :: earlier => Safe earlier

theorem Safe.pending_eq
    {later earlier : List SynchronizationEvent}
    (safe : Safe (later ++ .synchronized label :: earlier)) :
    pending label earlier = ∅ := by
  induction later with
  | nil => exact safe.1
  | cons event later ih =>
      cases event with
      | synchronized => exact ih safe.2
      | registered => exact ih safe
      | inserted => exact ih safe
      | achieved => exact ih safe
      | resigned => exact ih safe

/-- An event that neither registers nor completes a label. -/
def isInner : SynchronizationEvent → Bool
  | .registered _ => false
  | .synchronized _ => false
  | _ => true

theorem Safe.record
    (safe : Safe history)
    (inner : ∀ event ∈ events, event.isInner = true) :
    Safe (events ++ history) := by
  induction events with
  | nil => exact safe
  | cons event events ih =>
      rw [List.forall_mem_cons] at inner
      have before := ih inner.2
      cases event with
      | synchronized => cases inner.1
      | registered => cases inner.1
      | inserted => exact before
      | achieved => exact before
      | resigned => exact before

theorem count_record_of_inner
    (inner : ∀ event ∈ events, event.isInner = true)
    (outer : event.isInner = false) :
    (events ++ history).count event = history.count event := by
  rw [List.count_append, List.count_eq_zero.mpr, Nat.zero_add]
  intro member
  rw [inner event member] at outer
  cases outer

end SynchronizationEvent

open SynchronizationEvent

/-- The points of a server and their history: who is pending is waited for,
each registration is answered once or still open, and nobody was pending at a
completion. -/
structure SynchronizationsConsistent
    (synchronizations : List Synchronization)
    (history : List SynchronizationEvent) : Prop where
  labels : (synchronizations.map Synchronization.label).Nodup
  waits : ∀ synchronization ∈ synchronizations,
    ∀ federateHandle ∈ pending synchronization.label history,
      federateHandle ∈ synchronization.waitingFederates
  balanced : ∀ label,
    history.count (.registered label) =
      history.count (.synchronized label) +
        (synchronizations.map Synchronization.label).count label
  safe : Safe history

variable {synchronizations : List Synchronization}
variable {synchronization : Synchronization}

namespace SynchronizationsConsistent

theorem initial : SynchronizationsConsistent [] [] where
  labels := List.nodup_nil
  waits := by simp
  balanced := by simp
  safe := trivial

/-- A point that is registered waits for everybody entered. -/
theorem register
    (consistent : SynchronizationsConsistent synchronizations history)
    (fresh : synchronization.label ∉
      synchronizations.map Synchronization.label) :
    SynchronizationsConsistent (synchronizations ++ [synchronization])
      ((SynchronizationEvent.registered synchronization.label ::
        synchronization.waitingFederates.map
          (.inserted synchronization.label)).reverse ++ history) := by
  have inner : ∀ event ∈ (synchronization.waitingFederates.map
      (SynchronizationEvent.inserted synchronization.label)).reverse,
      event.isInner = true := by
    intro event member
    obtain ⟨_, _, rfl⟩ := List.mem_map.mp (List.mem_reverse.mp member)
    rfl
  constructor
  · rw [List.map_append, List.map_singleton]
    exact List.nodup_append.mpr ⟨consistent.labels,
      List.nodup_singleton _, by simpa using fresh⟩
  · intro other member federateHandle isPending
    rw [pending_record, List.foldl_cons, mem_foldl_inserted, applyTo]
      at isPending
    rw [List.mem_append, List.mem_singleton] at member
    obtain member | rfl := member
    · have different : synchronization.label ≠ other.label := by
        intro same
        rw [same] at fresh
        exact fresh (List.mem_map_of_mem member)
      rw [if_neg different, or_iff_left fun both => different both.1]
        at isPending
      exact consistent.waits other member federateHandle isPending
    · simpa using isPending
  · intro label
    rw [List.reverse_cons, List.append_assoc, count_record_of_inner inner rfl,
      count_record_of_inner inner rfl, List.singleton_append, List.count_cons,
      List.count_cons, List.map_append, List.count_append,
      consistent.balanced, List.map_singleton, List.count_singleton]
    simp
    omega
  · rw [List.reverse_cons, List.append_assoc]
    exact Safe.record consistent.safe inner

/-- A point is replaced by one that waits for everybody still pending. -/
theorem replace
    {synchronizations : List Synchronization}
    {history : List SynchronizationEvent}
    (consistent : SynchronizationsConsistent synchronizations history)
    {synchronization : Synchronization} {events : List SynchronizationEvent}
    (inner : ∀ event ∈ events, event.isInner = true)
    (elsewhere : ∀ label ≠ synchronization.label,
      pending label (events.reverse ++ history) ⊆ pending label history)
    (here : ∀ federateHandle ∈
        pending synchronization.label (events.reverse ++ history),
      federateHandle ∈ synchronization.waitingFederates) :
    SynchronizationsConsistent
      (synchronizations.map fun other =>
        if other.label = synchronization.label then synchronization
        else other)
      (events.reverse ++ history) := by
  have labels : (synchronizations.map fun other =>
      if other.label = synchronization.label then synchronization
      else other).map Synchronization.label =
        synchronizations.map Synchronization.label := by
    rw [List.map_map]
    apply List.map_congr_left
    intro other _
    simp only [Function.comp]
    split
    · next same => exact same.symm
    · rfl
  have innerReverse : ∀ event ∈ events.reverse, event.isInner = true :=
    fun event member => inner event (List.mem_reverse.mp member)
  constructor
  · rw [labels]
    exact consistent.labels
  · intro changed member federateHandle isPending
    obtain ⟨other, otherMember, rfl⟩ := List.mem_map.mp member
    by_cases same : other.label = synchronization.label
    · rw [if_pos same] at isPending ⊢
      exact here federateHandle isPending
    · rw [if_neg same] at isPending ⊢
      exact consistent.waits other otherMember federateHandle
        (elsewhere _ same isPending)
  · intro label
    rw [labels, count_record_of_inner innerReverse rfl,
      count_record_of_inner innerReverse rfl]
    exact consistent.balanced label
  · exact consistent.safe.record innerReverse

/-- A point for which nobody is pending is completed. -/
theorem complete
    (consistent : SynchronizationsConsistent synchronizations history)
    {completed : String}
    (member : completed ∈ synchronizations.map Synchronization.label)
    (nobody : pending completed history = ∅) :
    SynchronizationsConsistent
      (synchronizations.filter fun other => other.label ≠ completed)
      (.synchronized completed :: history) := by
  have labels : (synchronizations.filter fun other =>
      other.label ≠ completed).map Synchronization.label =
        (synchronizations.map Synchronization.label).filter
          (· ≠ completed) := by
    rw [List.filter_map]
    rfl
  constructor
  · rw [labels]
    exact consistent.labels.filter _
  · intro other otherMember federateHandle isPending
    exact consistent.waits other (List.mem_of_mem_filter otherMember)
      federateHandle isPending
  · intro label
    have before := consistent.balanced label
    rw [labels, List.count_cons, List.count_cons]
    by_cases same : completed = label
    · rw [← same] at before ⊢
      rw [List.count_eq_one_of_mem consistent.labels member] at before
      have gone : ((synchronizations.map Synchronization.label).filter
          (· ≠ completed)).count completed = 0 := by
        rw [List.count_eq_zero]
        simp
      rw [gone]
      simp
      omega
    · have kept : ((synchronizations.map Synchronization.label).filter
          (· ≠ completed)).count label =
            (synchronizations.map Synchronization.label).count label := by
        rw [List.count_filter]
        simpa using Ne.symm same
      rw [kept]
      simp [same]
      omega
  · exact ⟨nobody, consistent.safe⟩

/-- A federate that resigns is nowhere pending any more. -/
theorem resign
    (consistent : SynchronizationsConsistent synchronizations history)
    (federateHandle : FederateHandle) :
    SynchronizationsConsistent
      (synchronizations.map
        (Synchronization.removeFederate federateHandle))
      (.resigned federateHandle :: history) := by
  have labels : (synchronizations.map
      (Synchronization.removeFederate federateHandle)).map
        Synchronization.label =
      synchronizations.map Synchronization.label := by
    rw [List.map_map]
    rfl
  constructor
  · rw [labels]
    exact consistent.labels
  · intro changed member other isPending
    obtain ⟨synchronization, before, rfl⟩ := List.mem_map.mp member
    rw [pending_cons, applyTo, Finset.mem_erase] at isPending
    rw [Synchronization.removeFederate, List.mem_filter]
    exact ⟨consistent.waits synchronization before other isPending.2,
      by simpa using isPending.1⟩
  · intro label
    rw [labels, List.count_cons, List.count_cons]
    simpa using consistent.balanced label
  · exact consistent.safe

end SynchronizationsConsistent

variable {pairs : List (FederateHandle × Bool)}

namespace Synchronization

@[simp] theorem insert_label
    (federate : Federate) (self : Synchronization) :
    (self.insert federate).label = self.label := by
  rw [insert]
  split <;> rfl

theorem insert_waitingFederates
    (federate : Federate) (self : Synchronization) :
    (self.insert federate).waitingFederates =
      self.waitingFederates ++
        if accepts federate then [federate.federateHandle] else [] := by
  rw [insert]
  split <;> simp

theorem foldl_insert_label
    (federates : List Federate) (self : Synchronization) :
    (federates.foldl (fun synchronization federate =>
      synchronization.insert federate) self).label = self.label := by
  induction federates generalizing self with
  | nil => rfl
  | cons federate rest ih =>
      rw [List.foldl_cons, ih, insert_label]

theorem foldl_insert_waitingFederates
    (federates : List Federate) (self : Synchronization) :
    (federates.foldl (fun synchronization federate =>
      synchronization.insert federate) self).waitingFederates =
      self.waitingFederates ++
        (federates.filter accepts).map Federate.federateHandle := by
  induction federates generalizing self with
  | nil => simp
  | cons federate rest ih =>
      rw [List.foldl_cons, ih, insert_waitingFederates]
      by_cases accepted : accepts federate = true <;> simp [accepted]

@[simp] theorem achieved_label
    (self : Synchronization) (pair : FederateHandle × Bool) :
    (self.achieved pair).label = self.label := by
  rw [achieved]
  split <;> rfl

theorem achieved_waitingFederates
    (self : Synchronization) (pair : FederateHandle × Bool) :
    (self.achieved pair).waitingFederates =
      self.waitingFederates.erase pair.1 := by
  rw [achieved]
  split
  · rfl
  · next absent =>
      rw [List.erase_of_not_mem]
      simpa [getIsWaitingFor] using absent

theorem foldl_achieved_label
    (pairs : List (FederateHandle × Bool)) (self : Synchronization) :
    (pairs.foldl achieved self).label = self.label := by
  induction pairs generalizing self with
  | nil => rfl
  | cons pair rest ih =>
      rw [List.foldl_cons, ih, achieved_label]

/-- Whoever is not named is still waited for. -/
theorem mem_foldl_achieved
    {self : Synchronization}
    (waits : federateHandle ∈ self.waitingFederates)
    (unnamed : federateHandle ∉ pairs.map Prod.fst) :
    federateHandle ∈ (pairs.foldl achieved self).waitingFederates := by
  induction pairs generalizing self with
  | nil => exact waits
  | cons pair rest ih =>
      rw [List.map_cons, List.mem_cons, not_or] at unnamed
      refine ih ?_ unnamed.2
      rw [achieved_waitingFederates]
      exact (List.mem_erase_of_ne unnamed.1).mpr waits

end Synchronization

namespace RootServer

/-- The points of the server agree with their history. -/
abbrev Consistent (self : RootServer) : Prop :=
  SynchronizationsConsistent self.synchronizations self.history

/-- Every registered label waits for somebody. -/
def Awaited (self : RootServer) : Prop :=
  ∀ synchronization ∈ self.synchronizations,
    synchronization.waitingFederates ≠ []

variable {self : RootServer}

theorem findLabel_eq_some
    (found : self.findLabel label = some synchronization) :
    synchronization ∈ self.synchronizations ∧
      synchronization.label = label :=
  ⟨List.mem_of_find?_eq_some found, by simpa using List.find?_some found⟩

theorem findLabel_eq_none :
    self.findLabel label = none ↔
      label ∉ self.synchronizations.map Synchronization.label := by
  simp [findLabel]

/-! ## Registration -/

@[simp] theorem announce_synchronizations
    (synchronization : Synchronization)
    (connectHandles : List ConnectHandle) (self : RootServer) :
    (self.announce synchronization connectHandles).synchronizations =
      self.synchronizations := by
  induction connectHandles generalizing self with
  | nil => rfl
  | cons connectHandle rest ih =>
      rw [announce, ih]
      split <;> rfl

@[simp] theorem announce_history
    (synchronization : Synchronization)
    (connectHandles : List ConnectHandle) (self : RootServer) :
    (self.announce synchronization connectHandles).history =
      self.history := by
  induction connectHandles generalizing self with
  | nil => rfl
  | cons connectHandle rest ih =>
      rw [announce, ih]
      split <;> rfl

/-- The federates a registration asks for. -/
def registeredFederates
    (federateHandles : List FederateHandle)
    (self : RootServer) : List Federate :=
  if federateHandles.isEmpty then self.federates
  else federateHandles.filterMap self.getFederate

theorem newSynchronization_label
    (label : String) (tag : VariableLengthData)
    (federateHandles : List FederateHandle) (self : RootServer) :
    (self.newSynchronization label tag federateHandles).label = label :=
  Synchronization.foldl_insert_label _ _

theorem newSynchronization_waitingFederates
    (label : String) (tag : VariableLengthData)
    (federateHandles : List FederateHandle) (self : RootServer) :
    (self.newSynchronization label tag federateHandles).waitingFederates =
      ((self.registeredFederates federateHandles).filter
        Synchronization.accepts).map Federate.federateHandle :=
  Synchronization.foldl_insert_waitingFederates _ _

variable {after : RootServer} {connectHandle : ConnectHandle}
variable {tag : VariableLengthData}

/-- What a registration that does not throw has done. -/
theorem acceptRegister_ok
    (ran : self.acceptRegisterFederationSynchronizationPoint connectHandle
      label tag federateHandle federateHandles = .ok after) :
    label ≠ "" ∧
      ((self.findLabel label ≠ none ∧
          after.synchronizations = self.synchronizations ∧
          after.history = self.history) ∨
        (self.findLabel label = none ∧
          after.synchronizations = (self.insertSynchronization
            (self.newSynchronization label tag
              federateHandles)).synchronizations ∧
          after.history = (self.insertSynchronization
            (self.newSynchronization label tag
              federateHandles)).history)) := by
  rw [acceptRegisterFederationSynchronizationPoint] at ran
  split at ran
  · cases ran
  · next nonempty =>
      refine ⟨nonempty, ?_⟩
      split at ran
      · next known =>
          cases ran
          exact Or.inl ⟨Option.isSome_iff_ne_none.mp known, rfl, rfl⟩
      · next unknown =>
          dsimp only at ran
          split at ran
          · cases ran
          · cases ran
            refine Or.inr ⟨by simpa using unknown, ?_, ?_⟩
            · rw [announce_synchronizations]
              rfl
            · rw [announce_history]
              rfl

theorem Consistent.register
    (consistent : self.Consistent)
    (ran : self.acceptRegisterFederationSynchronizationPoint connectHandle
      label tag federateHandle federateHandles = .ok after) :
    after.Consistent := by
  obtain ⟨_, ⟨_, synchronizations, history⟩ |
    ⟨unknown, synchronizations, history⟩⟩ := acceptRegister_ok ran
  · rw [Consistent, synchronizations, history]
    exact consistent
  · rw [Consistent, synchronizations, history]
    apply SynchronizationsConsistent.register consistent
    rw [newSynchronization_label]
    exact findLabel_eq_none.mp unknown

/-- A registration leaves every label awaited if it finds somebody. -/
theorem Awaited.register_iff
    (awaited : self.Awaited)
    (ran : self.acceptRegisterFederationSynchronizationPoint connectHandle
      label tag federateHandle federateHandles = .ok after) :
    after.Awaited ↔
      ((self.findLabel label).isSome ||
        (self.registeredFederates federateHandles).any
          Synchronization.accepts) = true := by
  obtain ⟨_, ⟨known, synchronizations, _⟩ |
    ⟨unknown, synchronizations, _⟩⟩ := acceptRegister_ok ran
  · rw [Awaited, synchronizations, Option.isSome_iff_ne_none.mpr known]
    exact iff_of_true awaited rfl
  · rw [Awaited, synchronizations, unknown, Option.isSome_none,
      Bool.false_or, insertSynchronization, record, List.forall_mem_append,
      List.forall_mem_singleton, newSynchronization_waitingFederates,
      List.any_eq_true]
    refine (and_iff_right ?_).trans ?_
    · exact awaited
    · simp

/-! ## Achievement -/

/-- What the achievement of a known label has done. -/
theorem acceptAchieved_ok
    (ran : self.acceptSynchronizationPointAchieved label pairs =
      .ok after) :
    ∃ synchronization ∈ self.synchronizations,
      synchronization.label = label ∧
        if (pairs.foldl Synchronization.achieved
            synchronization).waitingFederates = [] then
          after.synchronizations =
              (self.synchronizations.filter fun other =>
                other.label ≠ label) ∧
            after.history = .synchronized label ::
              ((pairs.map fun pair =>
                SynchronizationEvent.achieved label pair.1).reverse ++
                  self.history)
        else
          after.synchronizations =
              (self.synchronizations.map fun other =>
                if other.label = label then
                  pairs.foldl Synchronization.achieved synchronization
                else other) ∧
            after.history =
              (pairs.map fun pair =>
                SynchronizationEvent.achieved label pair.1).reverse ++
                  self.history := by
  rw [acceptSynchronizationPointAchieved] at ran
  split at ran
  · cases ran
  · next synchronization found =>
      obtain ⟨member, here⟩ := findLabel_eq_some found
      have same := Synchronization.foldl_achieved_label pairs synchronization
      refine ⟨synchronization, member, here, ?_⟩
      simp only [List.isEmpty_iff] at ran
      split
      · next nobody =>
          rw [if_pos nobody] at ran
          cases ran
          refine ⟨?_, ?_⟩
          · simp only [complete, record, send, same, here]
          · simp only [complete, record, send, same, here]
            rfl
      · next somebody =>
          rw [if_neg somebody] at ran
          cases ran
          refine ⟨?_, rfl⟩
          simp only [withSynchronization, record, same, here]

theorem Consistent.achieved
    (consistent : self.Consistent)
    (ran : self.acceptSynchronizationPointAchieved label pairs =
      .ok after) :
    after.Consistent := by
  obtain ⟨synchronization, member, here, effect⟩ := acceptAchieved_ok ran
  have same := Synchronization.foldl_achieved_label pairs synchronization
  have events : (pairs.map fun pair =>
      SynchronizationEvent.achieved label pair.1) =
        (pairs.map Prod.fst).map (.achieved label) := by
    rw [List.map_map]
    rfl
  have inner : ∀ event ∈ (pairs.map Prod.fst).map
      (SynchronizationEvent.achieved label), event.isInner = true := by
    intro event eventMember
    obtain ⟨_, _, rfl⟩ := List.mem_map.mp eventMember
    rfl
  -- Whoever is still pending is still waited for.
  have waits : ∀ federateHandle ∈ pending label
      (((pairs.map Prod.fst).map
        (SynchronizationEvent.achieved label)).reverse ++ self.history),
      federateHandle ∈ (pairs.foldl Synchronization.achieved
        synchronization).waitingFederates := by
    intro federateHandle isPending
    rw [pending_record, SynchronizationEvent.mem_foldl_achieved] at isPending
    rw [← here] at isPending
    exact Synchronization.mem_foldl_achieved
      (consistent.waits synchronization member federateHandle isPending.1)
      (isPending.2 rfl)
  have elsewhere : ∀ other, pending other
      (((pairs.map Prod.fst).map
        (SynchronizationEvent.achieved label)).reverse ++ self.history) ⊆
      pending other self.history := by
    intro other federateHandle isPending
    rw [pending_record, SynchronizationEvent.mem_foldl_achieved] at isPending
    exact isPending.1
  have whole := consistent.replace inner (fun other _ => elsewhere other)
    (show ∀ federateHandle ∈ pending (pairs.foldl Synchronization.achieved
      synchronization).label _, _ by rwa [same, here])
  rw [same, here] at whole
  rw [events] at effect
  split at effect
  · next nobody =>
      obtain ⟨synchronizations, history⟩ := effect
      rw [Consistent, synchronizations, history]
      -- Replacing the point before it is removed makes no difference.
      have removed : (self.synchronizations.map fun other =>
          if other.label = label then
            pairs.foldl Synchronization.achieved synchronization
          else other).filter (fun other => other.label ≠ label) =
          self.synchronizations.filter fun other =>
            other.label ≠ label := by
        rw [List.filter_map]
        have selected : (fun other : Synchronization =>
            decide (other.label ≠ label)) ∘ (fun other =>
              if other.label = label then
                pairs.foldl Synchronization.achieved synchronization
              else other) =
            fun other => decide (other.label ≠ label) := by
          funext other
          simp only [Function.comp]
          split
          · next equal => simp [equal, same, here]
          · rfl
        rw [selected]
        refine (List.map_congr_left ?_).trans (List.map_id' _)
        intro other otherMember
        have different := (List.mem_filter.mp otherMember).2
        rw [if_neg (by simpa using different)]
      rw [← removed]
      apply whole.complete
      · rw [List.map_map, List.mem_map]
        refine ⟨synchronization, member, ?_⟩
        simp only [Function.comp, here, if_true, same]
      · apply Finset.eq_empty_of_forall_notMem
        intro federateHandle isPending
        have waited := waits federateHandle isPending
        rw [nobody] at waited
        cases waited
  · obtain ⟨synchronizations, history⟩ := effect
    rw [Consistent, synchronizations, history]
    exact whole

theorem Awaited.achieved
    (awaited : self.Awaited)
    (ran : self.acceptSynchronizationPointAchieved label pairs =
      .ok after) :
    after.Awaited := by
  obtain ⟨synchronization, _, _, effect⟩ := acceptAchieved_ok ran
  split at effect
  · rw [Awaited, effect.1]
    intro other member
    exact awaited other (List.mem_of_mem_filter member)
  · next somebody =>
      rw [Awaited, effect.1]
      intro changed member
      obtain ⟨other, otherMember, rfl⟩ := List.mem_map.mp member
      split
      · exact somebody
      · exact awaited other otherMember

/-! ## Joining -/

/-- What extending one point does to the server. -/
theorem extend_points
    (federate : Federate) (synchronization : Synchronization)
    (self : RootServer) :
    ∃ events : List SynchronizationEvent,
      (events = [] ∨ events = [.inserted synchronization.label
          federate.federateHandle] ∧
        federate.federateHandle ∈
          (synchronization.insert federate).waitingFederates) ∧
      ((self.withSynchronization (synchronization.insert federate)).record
        (if Synchronization.accepts federate then
          [.inserted synchronization.label federate.federateHandle]
        else [])).history = events.reverse ++ self.history := by
  by_cases accepted : Synchronization.accepts federate = true
  · refine ⟨_, Or.inr ⟨rfl, ?_⟩, ?_⟩
    · rw [Synchronization.insert_waitingFederates, if_pos accepted]
      exact List.mem_append_right _ (List.mem_singleton_self _)
    · rw [if_pos accepted]
      rfl
  · refine ⟨[], Or.inl rfl, ?_⟩
    rw [if_neg accepted]
    rfl

theorem Consistent.extend
    (consistent : self.Consistent) (federate : Federate)
    (member : synchronization ∈ self.synchronizations) :
    ((self.withSynchronization (synchronization.insert federate)).record
      (if Synchronization.accepts federate then
        [.inserted synchronization.label federate.federateHandle]
      else [])).Consistent := by
  obtain ⟨events, inserted, history⟩ :=
    extend_points federate synchronization self
  rw [Consistent, history]
  have label := Synchronization.insert_label federate synchronization
  have kept : synchronization.waitingFederates ⊆
      (synchronization.insert federate).waitingFederates := by
    rw [Synchronization.insert_waitingFederates]
    exact List.subset_append_left _ _
  apply SynchronizationsConsistent.replace consistent
  · intro event eventMember
    obtain rfl | ⟨rfl, _⟩ := inserted
    · cases eventMember
    · rw [List.mem_singleton.mp eventMember]
      rfl
  · intro other elsewhere federateHandle isPending
    rw [label] at elsewhere
    rw [pending_record] at isPending
    obtain rfl | ⟨rfl, _⟩ := inserted
    · exact isPending
    · simpa [applyTo, Ne.symm elsewhere] using isPending
  · intro federateHandle isPending
    rw [label, pending_record] at isPending
    obtain rfl | ⟨rfl, waits⟩ := inserted
    · exact kept (consistent.waits synchronization member federateHandle
        isPending)
    · rw [List.foldl_cons, List.foldl_nil, applyTo, if_pos rfl,
        Finset.mem_insert] at isPending
      obtain rfl | before := isPending
      · exact waits
      · exact kept (consistent.waits synchronization member federateHandle
          before)

theorem Awaited.extend
    (awaited : self.Awaited) (federate : Federate)
    (member : synchronization ∈ self.synchronizations) :
    (self.withSynchronization
      (synchronization.insert federate)).Awaited := by
  intro changed changedMember
  obtain ⟨other, otherMember, rfl⟩ := List.mem_map.mp changedMember
  split
  · rw [Synchronization.insert_waitingFederates]
    exact List.append_ne_nil_of_left_ne_nil (awaited _ member) _
  · exact awaited other otherMember

theorem extendSynchronizations_keeps
    (federate : Federate)
    (distinct : (synchronizations.map Synchronization.label).Nodup)
    (subset : synchronizations ⊆ self.synchronizations)
    (consistent : self.Consistent) :
    (self.extendSynchronizations federate synchronizations).Consistent ∧
      (self.Awaited →
        (self.extendSynchronizations federate
          synchronizations).Awaited) := by
  induction synchronizations generalizing self with
  | nil => exact ⟨consistent, id⟩
  | cons synchronization rest ih =>
      rw [List.map_cons, List.nodup_cons] at distinct
      rw [List.cons_subset] at subset
      rw [extendSynchronizations]
      split
      · have extended : (((self.withSynchronization
            (synchronization.insert federate)).record
              (if Synchronization.accepts federate then
                [.inserted synchronization.label federate.federateHandle]
              else [])).send self.connectHandles
                (.announceSynchronizationPoint synchronization.label
                  synchronization.tag synchronization.addJoiningFederates
                  [federate.federateHandle])).Consistent :=
          consistent.extend federate subset.1
        -- The points that are left are not the one just extended.
        have left : rest ⊆ (((self.withSynchronization
            (synchronization.insert federate)).record
              (if Synchronization.accepts federate then
                [.inserted synchronization.label federate.federateHandle]
              else [])).send self.connectHandles
                (.announceSynchronizationPoint synchronization.label
                  synchronization.tag synchronization.addJoiningFederates
                  [federate.federateHandle])).synchronizations := by
          intro other member
          refine List.mem_map.mpr ⟨other, subset.2 member, if_neg ?_⟩
          intro same
          rw [Synchronization.insert_label] at same
          exact distinct.1 (same ▸ List.mem_map_of_mem member)
        obtain ⟨kept, awaits⟩ :=
          ih distinct.2 left extended
        exact ⟨kept, fun awaited =>
          awaits (awaited.extend federate subset.1)⟩
      · exact ih distinct.2 subset.2 consistent

variable {name : String} {isInternal : Bool}
variable {stringModules : List FOMStringModule2}

theorem acceptJoin_keeps
    (consistent : self.Consistent)
    (ran : self.acceptJoinFederationExecutionRequest connectHandle name
      isInternal stringModules = .ok after) :
    after.Consistent ∧ (self.Awaited → after.Awaited) := by
  rw [acceptJoinFederationExecutionRequest] at ran
  split at ran
  · cases ran
    exact ⟨consistent, id⟩
  · split at ran
    · cases ran
    · cases ran
      exact ⟨consistent, id⟩
    · cases ran
      rw [joinFederate]
      split
      · exact ⟨consistent, id⟩
      · exact extendSynchronizations_keeps _ consistent.labels
          (List.Subset.refl _) consistent

variable {labels : List String}

/-! ## Resigning -/

theorem achieveAll_keeps
    (consistent : self.Consistent)
    (ran : self.achieveAll federateHandle labels = .ok after) :
    after.Consistent ∧ (self.Awaited → after.Awaited) := by
  induction labels generalizing self with
  | nil =>
      cases ran
      exact ⟨consistent, id⟩
  | cons label rest ih =>
      rw [achieveAll] at ran
      obtain ⟨between, first, others⟩ := except_bind_eq_ok.mp ran
      obtain ⟨kept, awaits⟩ :=
        ih (consistent.achieved first) others
      exact ⟨kept, fun awaited => awaits (awaited.achieved first)⟩

/-- No point waits for a federate more often than its label is listed. -/
def WaitsWithin
    (federateHandle : FederateHandle)
    (labels : List String)
    (self : RootServer) : Prop :=
  ∀ synchronization ∈ self.synchronizations,
    synchronization.waitingFederates.count federateHandle ≤
      labels.count synchronization.label

theorem waitsWithin_waitingLabels
    (federateHandle : FederateHandle) (self : RootServer) :
    self.WaitsWithin federateHandle (self.waitingLabels federateHandle) := by
  intro synchronization member
  rw [← List.replicate_sublist_iff, waitingLabels, List.flatMap_def]
  apply List.sublist_flatten_of_mem
  exact List.mem_map.mpr ⟨synchronization, member, rfl⟩

/-- Achieving a point takes its label off the list. -/
theorem WaitsWithin.achieved
    {rest : List String}
    (within : self.WaitsWithin federateHandle (label :: rest))
    (ran : self.acceptSynchronizationPointAchieved label
      [(federateHandle, false)] = .ok after) :
    after.WaitsWithin federateHandle rest := by
  have elsewhere : ∀ synchronization ∈ self.synchronizations,
      synchronization.label ≠ label →
      synchronization.waitingFederates.count federateHandle ≤
        rest.count synchronization.label := by
    intro synchronization member different
    have bound := within synchronization member
    rwa [List.count_cons_of_ne (Ne.symm different)] at bound
  obtain ⟨synchronization, member, here, effect⟩ := acceptAchieved_ok ran
  split at effect
  · intro other otherMember
    rw [effect.1, List.mem_filter] at otherMember
    exact elsewhere other otherMember.1 (by simpa using otherMember.2)
  · intro changed changedMember
    rw [effect.1] at changedMember
    obtain ⟨other, otherMember, rfl⟩ := List.mem_map.mp changedMember
    split
    · have bound := within synchronization member
      rw [here, List.count_cons_self] at bound
      rw [List.foldl_cons, List.foldl_nil, Synchronization.achieved_label,
        Synchronization.achieved_waitingFederates, List.count_erase_self,
        here]
      omega
    · next different => exact elsewhere other otherMember different

theorem WaitsWithin.achieveAll
    (within : self.WaitsWithin federateHandle labels)
    (ran : self.achieveAll federateHandle labels = .ok after) :
    after.WaitsWithin federateHandle [] := by
  induction labels generalizing self with
  | nil =>
      cases ran
      exact within
  | cons label rest ih =>
      rw [RootServer.achieveAll] at ran
      obtain ⟨between, first, others⟩ := except_bind_eq_ok.mp ran
      exact ih (within.achieved first) others

/-- A federate that no point waits for takes nobody's place when it goes. -/
theorem Awaited.eraseFederate
    (awaited : self.Awaited) (within : self.WaitsWithin federateHandle []) :
    (self.eraseFederate federateHandle).Awaited := by
  intro changed changedMember
  obtain ⟨synchronization, member, rfl⟩ := List.mem_map.mp changedMember
  have absent : federateHandle ∉ synchronization.waitingFederates := by
    have bound := within synchronization member
    rw [List.count_nil, Nat.le_zero] at bound
    exact List.count_eq_zero.mp bound
  have unchanged : (synchronization.removeFederate
      federateHandle).waitingFederates =
        synchronization.waitingFederates := by
    rw [Synchronization.removeFederate, List.filter_eq_self]
    intro other otherMember
    simp only [decide_eq_true_eq]
    rintro rfl
    exact absent otherMember
  rw [unchanged]
  exact awaited synchronization member

/-- What resigning does: nothing, or the federate achieves what waits for it and
goes. -/
theorem acceptResign_ok
    (ran : self.acceptResignFederationExecutionRequest federateHandle =
      .ok after) :
    after = self ∨
      ∃ between,
        (self.setResignPending federateHandle).achieveAll federateHandle
          ((self.setResignPending federateHandle).waitingLabels
            federateHandle) = .ok between ∧
        after = between.eraseFederate federateHandle := by
  rw [acceptResignFederationExecutionRequest] at ran
  split at ran
  · cases ran
  · split at ran
    · cases ran
      exact Or.inl rfl
    · dsimp only at ran
      cases achieving : (self.setResignPending federateHandle).achieveAll
          federateHandle ((self.setResignPending
            federateHandle).waitingLabels federateHandle) with
      | error failure =>
          rw [achieving] at ran
          cases ran
      | ok between =>
          rw [achieving] at ran
          cases ran
          exact Or.inr ⟨between, rfl, rfl⟩

theorem acceptResign_keeps
    (consistent : self.Consistent)
    (ran : self.acceptResignFederationExecutionRequest federateHandle =
      .ok after) :
    after.Consistent ∧ (self.Awaited → after.Awaited) := by
  obtain rfl | ⟨between, achieving, rfl⟩ := acceptResign_ok ran
  · exact ⟨consistent, id⟩
  · -- To be about to resign changes no point.
    have pendingConsistent :
        (self.setResignPending federateHandle).Consistent := consistent
    obtain ⟨kept, awaits⟩ := achieveAll_keeps pendingConsistent achieving
    have within := (waitsWithin_waitingLabels federateHandle
      (self.setResignPending federateHandle)).achieveAll achieving
    refine ⟨?_, ?_⟩
    · exact SynchronizationsConsistent.resign kept federateHandle
    · intro awaited
      exact Awaited.eraseFederate (awaits awaited) within

/-! ## What is sent -/

/-- The messages that answer a registration and that complete a point tell the
events that are not inner. -/
def outcome : SynchronizationMessage → Option SynchronizationEvent
  | .registerFederationSynchronizationPointResponse label _ .success =>
      some (.registered label)
  | .federationSynchronized label _ => some (.synchronized label)
  | _ => none

/-- The outer events are told by messages, each by one and in their order. -/
def Told (self : RootServer) : Prop :=
  self.sent.filterMap (fun sent => outcome sent.2) =
    (self.history.filter fun event => !event.isInner).reverse

variable {message : SynchronizationMessage}

theorem Told.send
    (told : self.Told) (connectHandles : List ConnectHandle)
    (silent : outcome message = none) :
    (self.send connectHandles message).Told := by
  rw [Told, RootServer.send, List.filterMap_append, told]
  simp [silent]

theorem filter_outer_of_inner
    (inner : ∀ event ∈ events, event.isInner = true) :
    (events.reverse ++ history).filter (fun event => !event.isInner) =
      history.filter fun event => !event.isInner := by
  have silent : events.reverse.filter (fun event => !event.isInner) = [] := by
    rw [List.filter_eq_nil_iff]
    intro event member
    rw [inner event (List.mem_reverse.mp member)]
    decide
  rw [List.filter_append, silent, List.nil_append]

section

variable (told : self.Told)
include told

theorem Told.record
    (inner : ∀ event ∈ events, event.isInner = true) :
    (self.record events).Told := by
  rw [Told, RootServer.record, filter_outer_of_inner inner]
  exact told

/-- An outer event is told by the message that is sent with it. -/
theorem Told.tell
    (inner : ∀ event ∈ events, event.isInner = true)
    (connectHandles : List ConnectHandle)
    (tells : outcome message = some event)
    (outer : event.isInner = false) :
    ((self.record (event :: events)).send connectHandles message).Told := by
  rw [Told, RootServer.send, List.filterMap_append, RootServer.record,
    List.reverse_cons, List.append_assoc, filter_outer_of_inner inner, told]
  simp [tells, outer]

theorem Told.announce
    (synchronization : Synchronization)
    (connectHandles : List ConnectHandle) :
    (self.announce synchronization connectHandles).Told := by
  induction connectHandles generalizing self with
  | nil => exact told
  | cons connectHandle rest ih =>
      rw [RootServer.announce]
      apply ih
      split
      · exact told
      · exact told.send _ rfl

theorem Told.register
    (ran : self.acceptRegisterFederationSynchronizationPoint connectHandle
      label tag federateHandle federateHandles = .ok after) :
    after.Told := by
  rw [acceptRegisterFederationSynchronizationPoint] at ran
  split at ran
  · cases ran
  · split at ran
    · cases ran
      exact told.send _ rfl
    · dsimp only at ran
      split at ran
      · cases ran
      · cases ran
        apply Told.announce
        rw [insertSynchronization, newSynchronization_label]
        apply Told.tell
        · exact told
        · intro event member
          obtain ⟨_, _, rfl⟩ := List.mem_map.mp member
          rfl
        · rfl
        · rfl

theorem Told.achieved
    (ran : self.acceptSynchronizationPointAchieved label pairs =
      .ok after) :
    after.Told := by
  have recorded : (self.record (pairs.map fun pair =>
      SynchronizationEvent.achieved label pair.1)).Told := by
    apply told.record
    intro event member
    obtain ⟨_, _, rfl⟩ := List.mem_map.mp member
    rfl
  rw [acceptSynchronizationPointAchieved] at ran
  split at ran
  · cases ran
  · next synchronization found =>
      cases ran
      split
      · exact recorded.tell (by simp) _ rfl rfl
      · exact recorded

theorem Told.extendSynchronizations
    (federate : Federate) (synchronizations : List Synchronization) :
    (self.extendSynchronizations federate synchronizations).Told := by
  induction synchronizations generalizing self with
  | nil => exact told
  | cons synchronization rest ih =>
      rw [RootServer.extendSynchronizations]
      apply ih
      split
      · apply Told.send _ _ rfl
        apply Told.record
        · exact told
        · intro event member
          split at member
          · rw [List.mem_singleton.mp member]
            rfl
          · cases member
      · exact told

theorem Told.join
    (ran : self.acceptJoinFederationExecutionRequest connectHandle name
      isInternal stringModules = .ok after) :
    after.Told := by
  rw [acceptJoinFederationExecutionRequest] at ran
  split at ran
  · cases ran
    exact told
  · split at ran
    · cases ran
    · cases ran
      exact told
    · cases ran
      rw [joinFederate]
      split
      · exact told
      · apply Told.extendSynchronizations
        exact told

theorem Told.achieveAll
    (ran : self.achieveAll federateHandle labels = .ok after) :
    after.Told := by
  induction labels generalizing self with
  | nil =>
      cases ran
      exact told
  | cons label rest ih =>
      rw [RootServer.achieveAll] at ran
      obtain ⟨between, first, others⟩ := except_bind_eq_ok.mp ran
      exact ih (told.achieved first) others

theorem Told.resign
    (ran : self.acceptResignFederationExecutionRequest federateHandle =
      .ok after) :
    after.Told := by
  obtain rfl | ⟨between, achieving, rfl⟩ := acceptResign_ok ran
  · exact told
  · have pendingTold : (self.setResignPending federateHandle).Told := told
    exact (pendingTold.achieveAll achieving).record (by simp [isInner])

end

/-! ## Runs -/

/-- A registration of a new label asks for at least one federate that can be
waited for. -/
def findsSomebody (self : RootServer) : RootServerInput → Bool
  | .registerFederationSynchronizationPoint _ label _ _ federateHandles =>
      label = "" || (self.findLabel label).isSome ||
        (self.registeredFederates federateHandles).any
          Synchronization.accepts
  | _ => true

variable {input : RootServerInput}

/-- What one message does to the points of the server. -/
theorem accept_keeps
    (consistent : self.Consistent) (told : self.Told)
    (ran : self.accept input = .ok after) :
    after.Consistent ∧ after.Told ∧
      (self.Awaited → (after.Awaited ↔ self.findsSomebody input = true)) := by
  cases input with
  | joinFederationExecutionRequest =>
      obtain ⟨kept, awaits⟩ := acceptJoin_keeps consistent ran
      exact ⟨kept, told.join ran, fun awaited =>
        iff_of_true (awaits awaited) rfl⟩
  | resignFederationExecutionRequest =>
      obtain ⟨kept, awaits⟩ := acceptResign_keeps consistent ran
      exact ⟨kept, told.resign ran, fun awaited =>
        iff_of_true (awaits awaited) rfl⟩
  | registerFederationSynchronizationPoint connectHandle label =>
      refine ⟨consistent.register ran, told.register ran, fun awaited => ?_⟩
      have nonempty := (acceptRegister_ok ran).1
      rw [awaited.register_iff ran, findsSomebody]
      simp [nonempty]
  | synchronizationPointAchieved =>
      exact ⟨consistent.achieved ran, told.achieved ran, fun awaited =>
        iff_of_true (awaited.achieved ran) rfl⟩

/-- A step of the server is a message that it accepts, or one at which it
throws. -/
theorem system_next_eq_some
    (stepped : system.next self input = some after) :
    self.accept input = .ok after ∨ after = self := by
  simp only [system] at stepped
  split at stepped
  · next accepted =>
      cases stepped
      exact Or.inl accepted
  · cases stepped
  · cases stepped
    exact Or.inr rfl

/-- In all runs the points agree with their history, and the history with what
was sent. -/
theorem reachable_consistent
    {allowed : RootServer → RootServerInput → Prop}
    (reachable : system.ReachableUnder allowed self) :
    self.Consistent ∧ self.Told := by
  refine reachable.invariant (fun self => self.Consistent ∧ self.Told) ?_ ?_
  · exact ⟨.initial, rfl⟩
  · intro before input after holds _ stepped
    obtain accepted | rfl := system_next_eq_some stepped
    · obtain ⟨kept, told, _⟩ := accept_keeps holds.1 holds.2 accepted
      exact ⟨kept, told⟩
    · exact holds

/-- If every registration finds somebody, then so do all labels afterwards. -/
theorem reachable_awaited
    (reachable : system.ReachableUnder
      (fun self input => self.findsSomebody input = true) self) :
    self.Awaited := by
  have both : (self.Consistent ∧ self.Told) ∧ self.Awaited := by
    refine reachable.invariant
      (fun self => (self.Consistent ∧ self.Told) ∧ self.Awaited) ?_ ?_
    · exact ⟨⟨.initial, rfl⟩, by intro _ member; cases member⟩
    · rintro before input after ⟨⟨consistent, told⟩, awaited⟩ finds stepped
      obtain accepted | rfl := system_next_eq_some stepped
      · obtain ⟨kept, tells, awaits⟩ := accept_keeps consistent told accepted
        exact ⟨⟨kept, tells⟩, (awaits awaited).mpr finds⟩
      · exact ⟨⟨consistent, told⟩, awaited⟩
  exact both.2

/-- Every successful registration of a label is completed once or still open;
at each completion whoever was entered has achieved the point or resigned; and
as long as the registrations find somebody, no label is left without anybody to
wait for. -/
theorem synchronizationPoints_complete
    {self : RootServer}
    (reachable : system.ReachableUnder
      (fun self input => self.findsSomebody input = true) self) :
    (self.sent.filterMap fun sent => outcome sent.2) =
        (self.history.filter fun event => !event.isInner).reverse ∧
      (∀ label,
        self.history.count (.registered label) =
          self.history.count (.synchronized label) +
            if (self.findLabel label).isSome then 1 else 0) ∧
      (∀ label later earlier,
        self.history = later ++ .synchronized label :: earlier →
        pending label earlier = ∅) ∧
      ∀ synchronization ∈ self.synchronizations,
        synchronization.waitingFederates ≠ [] := by
  obtain ⟨consistent, told⟩ := reachable_consistent reachable
  refine ⟨told, ?_, ?_, reachable_awaited reachable⟩
  · intro label
    rw [consistent.balanced label]
    congr 1
    split
    · next known =>
        rw [Option.isSome_iff_ne_none, Ne, findLabel_eq_none, not_not]
          at known
        exact List.count_eq_one_of_mem consistent.labels known
    · next unknown =>
        rw [Option.not_isSome_iff_eq_none, findLabel_eq_none] at unknown
        exact List.count_eq_zero.mpr unknown
  · intro label later earlier split
    apply Safe.pending_eq
    rw [← split]
    exact consistent.safe

/-- Two federates join and register a label each.  One of the labels is
achieved by both. -/
def twoLabels : List RootServerInput :=
  [.joinFederationExecutionRequest 0 "first" false [],
    .joinFederationExecutionRequest 1 "second" false [],
    .registerFederationSynchronizationPoint 0 "ready" [] 0 [],
    .registerFederationSynchronizationPoint 1 "done" [] 1 [1],
    .synchronizationPointAchieved "ready" [(1, true)],
    .synchronizationPointAchieved "ready" [(0, true)]]

/-- One label is completed and the other is waited for. -/
theorem synchronizationPoints_complete_two_labels :
    ∃ final,
      system.run {} twoLabels = some final ∧
        final.history.count (.synchronized "ready") = 1 ∧
        (final.findLabel "done").isSome = true ∧
        ∀ synchronization ∈ final.synchronizations,
          synchronization.waitingFederates ≠ [] := by
  have reachable : (system.restrict findsSomebody).Reachable _ :=
    TransitionSystem.reachable_of_run twoLabels rfl
  refine ⟨_, rfl, by decide, by decide, ?_⟩
  exact (synchronizationPoints_complete
    (TransitionSystem.reachableUnder_of_restrict reachable)).2.2.2

/-- A label that is registered for a federate that is not there is registered
and nobody is waited for. -/
theorem synchronizationPoints_complete_fails_unfound :
    ∃ final, system.Reachable final ∧
      ∃ synchronization ∈ final.synchronizations,
        synchronization.waitingFederates = [] :=
  ⟨_, TransitionSystem.reachable_of_run
      [.joinFederationExecutionRequest 0 "first" false [],
        .registerFederationSynchronizationPoint 0 "ready" [] 0 [7]] rfl,
    _, List.mem_singleton_self _, rfl⟩

end RootServer
end ServerNode
end OpenRTI
