import OpenRTI.ServerModel.InteractionFilterRuns
import OpenRTI.ServerNode.FilterUnsubscriptions

/-!
# What subscriptions do to the filters of the connects

The effect of each kind of message on the subscription of its sender and on the filters
that the connects hold.  A subscription without values adds a filter without values
where the sender has filters, and an unsubscription without values removes them all.
-/

namespace OpenRTI

open Foundation

namespace ServerModel

/-- An unsubscription leaves the connects that are entered as active. -/
theorem PublishSubscribe.getSubscriptionType_unsubscribe
    {publishSubscribe : PublishSubscribe} {connectHandle : ConnectHandle}
    (passive : publishSubscribe.activeSubscribedConnects.contains connectHandle =
      false) :
    (publishSubscribe.setSubscriptionType connectHandle
      .unsubscribed).1.getSubscriptionType connectHandle = .unsubscribed := by
  have active : (publishSubscribe.setSubscriptionType connectHandle
      .unsubscribed).1.activeSubscribedConnects.contains connectHandle = false :=
    passive
  have absent : (publishSubscribe.setSubscriptionType connectHandle
      .unsubscribed).1.subscribedConnects.contains connectHandle = false := by
    rw [setSubscriptionType, if_neg (by simp)]
    simp [BroadcastConnectHandleSet.contains]
  rw [getSubscriptionType, active, absent]
  rfl

namespace FilteredInteractionClass

variable {self : FilteredInteractionClass} {held : ConnectHandle → Set Filter}
variable {connectHandle : ConnectHandle} {filters : Set Filter}
variable {parameterFilters : List ParameterValue}

/-! ## Filters that are held -/

/-- All values of a filter are given. -/
def GivesValues (parameterFilters : List ParameterValue) : Prop :=
  ∀ item ∈ parameterFilters, item.value ≠ []

theorem GivesValues.asFilter_ne
    (gives : GivesValues parameterFilters)
    {item : ParameterValue}
    (member : item ∈ parameterFilters) :
    asFilter parameterFilters item.parameterHandle ≠ [] := by
  rw [asFilter]
  cases found : findParameterValue parameterFilters item.parameterHandle with
  | none =>
      have absent := List.find?_eq_none.mp found item member
      simp at absent
  | some first =>
      exact gives first (List.mem_of_find?_eq_some found)

/-- A filter that gives values is not the one without values. -/
theorem GivesValues.asFilter_ne_nil
    (gives : GivesValues parameterFilters)
    (given : parameterFilters ≠ []) :
    asFilter parameterFilters ≠ asFilter [] := by
  intro same
  obtain ⟨item, member⟩ := List.exists_mem_of_ne_nil _ given
  apply gives.asFilter_ne member
  rw [same]
  rfl

/-- Whether a connect has a filter among its rows. -/
def holdsFilter
    (connectHandle : ConnectHandle)
    (parameterFilters : List ParameterValue)
    (self : FilteredInteractionClass) : Bool :=
  match self.parameterFiltersByConnect.find? connectHandle with
  | none => false
  | some parameterFilterValues =>
      parameterFilterValues.contains
        ((self.updatePrototype parameterFilters).normalizeFilterValues
          parameterFilters).2

/-- A row that names a new parameter is wider than those there are. -/
theorem Holds.mem_extend_iff
    {prototype : List ParameterHandle} {set : VariableLengthDataTupleSet}
    (holds : Holds prototype set filters)
    (gives : GivesValues parameterFilters) :
    (extendPrototype prototype parameterFilters).map (asFilter parameterFilters) ∈
        set.impl ↔ asFilter parameterFilters ∈ filters := by
  have named := named_extendPrototype prototype parameterFilters
  by_cases known : extendPrototype prototype parameterFilters = prototype
  · rw [known] at named ⊢
    exact holds.mem_iff named
  · refine iff_of_false ?_ ?_
    · intro member
      obtain ⟨new, extended, _⟩ := exists_extendPrototype prototype parameterFilters
      have length := holds.indexed.rows _ member
      rw [holds.sized (List.ne_nil_of_mem member), List.length_map, extended,
        List.length_append] at length
      have none : new = [] := List.eq_nil_of_length_eq_zero (by omega)
      rw [none, List.append_nil] at extended
      exact known extended
    · intro member
      apply known
      apply extendPrototype_eq_self
      intro item inside
      exact holds.named _ member _ (gives.asFilter_ne inside)

theorem Keeps.holdsFilter_iff
    (keeps : self.Keeps held) (connectHandle : ConnectHandle)
    (gives : GivesValues parameterFilters) :
    self.holdsFilter connectHandle parameterFilters = true ↔
      asFilter parameterFilters ∈ held connectHandle := by
  rw [holdsFilter]
  cases found : self.parameterFiltersByConnect.find? connectHandle with
  | none =>
      rw [keeps.absent connectHandle found]
      simp
  | some set =>
      have holds := keeps.present connectHandle set found
      dsimp only
      rw [VariableLengthDataTupleSet.contains, List.contains_iff_mem,
        normalizeFilterValues_eq]
      exact holds.mem_extend_iff gives

/-- A connect has no filters if it has no rows. -/
theorem Keeps.getParameterFilters_eq_nil_iff
    (keeps : self.Keeps held) (connectHandle : ConnectHandle) :
    self.getParameterFilters connectHandle = [] ↔ held connectHandle = ∅ := by
  rw [getParameterFilters]
  cases found : self.parameterFiltersByConnect.find? connectHandle with
  | none => exact iff_of_true rfl (keeps.absent connectHandle found)
  | some set =>
      have holds := keeps.present connectHandle set found
      rw [holds.filters_eq_empty_iff]
      exact List.map_eq_nil_iff

theorem activeSubscribedConnects_setSubscriptionType
    (connectHandle : ConnectHandle) (subscriptionType : SubscriptionType)
    (self : FilteredInteractionClass) :
    (self.setSubscriptionType connectHandle
      subscriptionType).1.publishSubscribe.activeSubscribedConnects =
        self.publishSubscribe.activeSubscribedConnects := rfl

theorem publishSubscribe_clearParameterFilters :
    (self.clearParameterFilters connectHandle).1.publishSubscribe =
      self.publishSubscribe := by
  rw [clearParameterFilters]
  split
  next => rfl
  next =>
    split
    · rfl
    · rfl

theorem find?_clearParameterFilters (valid : connectHandle ≠ invalidHandle) :
    (self.clearParameterFilters connectHandle).1.parameterFiltersByConnect.find?
      connectHandle = none := by
  rw [clearParameterFilters, if_neg valid]
  split
  next absent => exact absent
  next =>
    dsimp only
    rw [OrderedMap.find?_erase, if_pos rfl]

/-- The filters are the same where the publication and the subscriptions change. -/
theorem Keeps.withPublishSubscribe
    (keeps : self.Keeps held) (publishSubscribe : PublishSubscribe) :
    (self.withPublishSubscribe publishSubscribe).Keeps held :=
  ⟨keeps.absent, keeps.present⟩

theorem Keeps.setSubscriptionType
    (keeps : self.Keeps held) (connectHandle : ConnectHandle)
    (subscriptionType : SubscriptionType) :
    (self.setSubscriptionType connectHandle subscriptionType).1.Keeps held :=
  keeps.withPublishSubscribe _

theorem Keeps.updateCumulativeSubscription
    (keeps : self.Keeps held) (connectHandle : ConnectHandle)
    (parentSubscribed : Bool) :
    (self.updateCumulativeSubscription connectHandle parentSubscribed).Keeps held :=
  keeps.withPublishSubscribe _

/-- Where the other connects have no filters, a first filter widens no rows. -/
theorem Keeps.noneBut
    (keeps : self.Keeps (Function.update (fun _ => ∅) connectHandle filters)) :
    self.NoneBut (some connectHandle) := by
  intro other set different found
  have holds := keeps.present other set found
  apply holds.filters_eq_empty_iff.mp
  apply Function.update_of_ne
  intro same
  exact different (congrArg some same)

end FilteredInteractionClass
end ServerModel

namespace ServerNode

open ServerModel ServerModel.FilteredInteractionClass

variable {interactionClass : FilteredInteractionClass}
variable {held : ConnectHandle → Set Filter} {connectHandle : ConnectHandle}
variable {parameterFilterValues : List ParameterValue} {parentSubscribed : Bool}

/-! ## Messages -/

/-- A filter is added, whether it is the first one of the connect or not. -/
theorem exists_add
    (keeps : interactionClass.Keeps held)
    (valid : connectHandle ≠ invalidHandle)
    (narrow : (interactionClass.parameterFiltersByConnect.find?
        connectHandle).isSome = true ∨
      interactionClass.Knows parameterFilterValues ∨
      interactionClass.NoneBut (some connectHandle)) :
    ∃ after changed,
      interactionClass.updateParameterFilterValues connectHandle parameterFilterValues
          false = some (after, changed) ∧
      after.Keeps (Function.update held connectHandle
        (insert (asFilter parameterFilterValues) (held connectHandle))) := by
  cases found : interactionClass.parameterFiltersByConnect.find? connectHandle with
  | none =>
      rw [found] at narrow
      obtain ⟨after, defined, kept⟩ := keeps.addFirst valid found
        (narrow.resolve_left Bool.false_ne_true)
      exact ⟨after, true, defined, kept⟩
  | some set => exact keeps.addAnother valid found parameterFilterValues

/-- No message enters a connect as active. -/
theorem activeSubscribedConnects_accept
    {message : ChangeInteractionClassSubscriptionMessage}
    {result : FilteredInteractionClass × ConnectHandleSet}
    (accepted : acceptChangeInteractionClassSubscription connectHandle message
      parentSubscribed interactionClass = some result) :
    result.1.publishSubscribe.activeSubscribedConnects =
      interactionClass.publishSubscribe.activeSubscribedConnects := by
  rw [acceptChangeInteractionClassSubscription] at accepted
  obtain ⟨change, changed, rfl⟩ := Option.map_eq_some_iff.mp accepted
  have cumulated : (change.interactionClass.updateCumulativeSubscription connectHandle
      parentSubscribed).publishSubscribe.activeSubscribedConnects =
        change.interactionClass.publishSubscribe.activeSubscribedConnects := by
    rw [updateCumulativeSubscription, withPublishSubscribe,
      PublishSubscribe.updateCumulativeSubscribedConnectHandleSet]
    split
    · rfl
    · rfl
  refine cumulated.trans ?_
  split at changed
  next =>
    rw [unsubscribe] at changed
    split at changed
    next =>
      obtain ⟨updated, update, rfl⟩ := Option.map_eq_some_iff.mp changed
      have same := publishSubscribe_updateParameterFilterValues update
      split
      next =>
        exact (updated.1.activeSubscribedConnects_setSubscriptionType connectHandle
          .unsubscribed).trans (congrArg _ same)
      next => exact congrArg PublishSubscribe.activeSubscribedConnects same
    next =>
      cases changed
      exact (FilteredInteractionClass.activeSubscribedConnects_setSubscriptionType
        connectHandle .unsubscribed _).trans
          (congrArg PublishSubscribe.activeSubscribedConnects
            publishSubscribe_clearParameterFilters)
  next =>
    rw [subscribe] at changed
    obtain ⟨updated, update, rfl⟩ := Option.map_eq_some_iff.mp changed
    split at update
    next =>
      exact (updated.1.activeSubscribedConnects_setSubscriptionType connectHandle
        message.subscriptionType).trans
          (congrArg _ (publishSubscribe_updateParameterFilterValues update))
    next =>
      cases update
      rfl

/-- The connect subscribes, and its filters are given. -/
theorem exists_accept_subscribed
    {subscriptionType : SubscriptionType}
    {updated : FilteredInteractionClass × Bool}
    (subscribes : subscriptionType ≠ .unsubscribed)
    (kept : updated.1.Keeps held)
    (update : (if parameterFilterValues ≠ [] ∨
        interactionClass.getParameterFilters connectHandle ≠ [] then
      interactionClass.updateParameterFilterValues connectHandle
        parameterFilterValues false
      else some (interactionClass, false)) = some updated) :
    ∃ result,
      acceptChangeInteractionClassSubscription connectHandle
          ⟨subscriptionType, parameterFilterValues⟩ parentSubscribed
          interactionClass = some result ∧
        result.1.getSubscriptionType connectHandle ≠ .unsubscribed ∧
        result.1.Keeps held := by
  rw [acceptChangeInteractionClassSubscription, if_neg subscribes, subscribe, update]
  refine ⟨_, rfl, ?_, ?_⟩
  · rw [getSubscriptionType_updateCumulativeSubscription]
    exact getSubscriptionType_setSubscriptionType_ne subscribes
  · exact (kept.setSubscriptionType connectHandle subscriptionType)
      |>.updateCumulativeSubscription connectHandle parentSubscribed

/-- A subscription with values adds a filter. -/
theorem accept_subscribeWithFilter
    {subscriptionType : SubscriptionType}
    (keeps : interactionClass.Keeps held)
    (valid : connectHandle ≠ invalidHandle)
    (subscribes : subscriptionType ≠ .unsubscribed)
    (given : parameterFilterValues ≠ [])
    (narrow : (interactionClass.parameterFiltersByConnect.find?
        connectHandle).isSome = true ∨
      interactionClass.Knows parameterFilterValues ∨
      interactionClass.NoneBut (some connectHandle)) :
    ∃ result,
      acceptChangeInteractionClassSubscription connectHandle
          ⟨subscriptionType, parameterFilterValues⟩ parentSubscribed
          interactionClass = some result ∧
        result.1.getSubscriptionType connectHandle ≠ .unsubscribed ∧
        result.1.Keeps (Function.update held connectHandle
          (insert (asFilter parameterFilterValues) (held connectHandle))) := by
  obtain ⟨after, changed, update, kept⟩ := exists_add keeps valid narrow
  have updates := @exists_accept_subscribed interactionClass _ connectHandle
    parameterFilterValues parentSubscribed _ (after, changed) subscribes kept
  apply updates
  rw [if_pos (Or.inl given), update]

/-- A subscription without values adds a filter without values if there are filters. -/
theorem accept_subscribe
    {subscriptionType : SubscriptionType}
    (keeps : interactionClass.Keeps held)
    (valid : connectHandle ≠ invalidHandle)
    (subscribes : subscriptionType ≠ .unsubscribed) :
    ∃ result,
      acceptChangeInteractionClassSubscription connectHandle ⟨subscriptionType, []⟩
          parentSubscribed interactionClass = some result ∧
        result.1.getSubscriptionType connectHandle ≠ .unsubscribed ∧
        ∃ filters, result.1.Keeps (Function.update held connectHandle filters) ∧
          (filters = ∅ ∨ asFilter [] ∈ filters) := by
  by_cases rows : interactionClass.getParameterFilters connectHandle = []
  · have empty := (keeps.getParameterFilters_eq_nil_iff connectHandle).mp rows
    have updates := @exists_accept_subscribed interactionClass _ connectHandle []
      parentSubscribed _ (interactionClass, false) subscribes keeps
    obtain ⟨result, accepted, subscribed, kept⟩ := updates (by
      rw [if_neg (by simp [rows])])
    refine ⟨result, accepted, subscribed, ∅, ?_, Or.inl rfl⟩
    rw [← empty, Function.update_eq_self]
    exact kept
  · have entry : (interactionClass.parameterFiltersByConnect.find?
        connectHandle).isSome = true := by
      rw [getParameterFilters] at rows
      split at rows
      next => exact absurd rfl rows
      next found =>
        rw [found]
        rfl
    obtain ⟨after, changed, update, kept⟩ := @exists_add interactionClass held
      connectHandle [] keeps valid (Or.inl entry)
    have updates := @exists_accept_subscribed interactionClass _ connectHandle []
      parentSubscribed _ (after, changed) subscribes kept
    obtain ⟨result, accepted, subscribed, kept⟩ := updates (by
      rw [if_pos (Or.inr rows), update])
    exact ⟨result, accepted, subscribed, _, kept, Or.inr (Set.mem_insert _ _)⟩

/-- An unsubscription without values leaves no filters and no entry. -/
theorem accept_unsubscribe
    (keeps : interactionClass.Keeps held)
    (valid : connectHandle ≠ invalidHandle)
    (passive : interactionClass.publishSubscribe.activeSubscribedConnects.contains
      connectHandle = false) :
    ∃ result,
      acceptChangeInteractionClassSubscription connectHandle ⟨.unsubscribed, []⟩
          parentSubscribed interactionClass = some result ∧
        result.1.getSubscriptionType connectHandle = .unsubscribed ∧
        result.1.parameterFiltersByConnect.find? connectHandle = none ∧
        result.1.Keeps (Function.update held connectHandle ∅) := by
  rw [acceptChangeInteractionClassSubscription, if_pos rfl, unsubscribe,
    if_neg (by simp)]
  refine ⟨_, rfl, ?_, ?_, ?_⟩
  · rw [getSubscriptionType_updateCumulativeSubscription]
    apply PublishSubscribe.getSubscriptionType_unsubscribe
    rw [publishSubscribe_clearParameterFilters]
    exact passive
  · exact find?_clearParameterFilters valid
  · have cleared := keeps.clearParameterFilters connectHandle
    rw [heldAfter, if_neg valid] at cleared
    exact (cleared.setSubscriptionType connectHandle .unsubscribed)
      |>.updateCumulativeSubscription connectHandle parentSubscribed

/-- An unsubscription with values removes a filter of a connect that has an entry. -/
theorem accept_unsubscribeWithFilter
    {set : VariableLengthDataTupleSet}
    (keeps : interactionClass.Keeps held)
    (valid : connectHandle ≠ invalidHandle)
    (given : parameterFilterValues ≠ [])
    (found : interactionClass.parameterFiltersByConnect.find? connectHandle = some set)
    (removable : interactionClass.NoneBut none ∨
      interactionClass.Knows parameterFilterValues ∧
        Removable set (interactionClass.parameterFilterKeyPrototype.map
          (asFilter parameterFilterValues))) :
    ∃ result,
      acceptChangeInteractionClassSubscription connectHandle
          ⟨.unsubscribed, parameterFilterValues⟩ parentSubscribed
          interactionClass = some result ∧
        result.1.getSubscriptionType connectHandle =
          interactionClass.getSubscriptionType connectHandle ∧
        result.1.Keeps (Function.update held connectHandle
          (held connectHandle \ {asFilter parameterFilterValues})) := by
  obtain ⟨after, changed, update, kept⟩ :=
    keeps.remove valid found (Or.inr removable)
  rw [if_neg given] at kept
  have entry := Option.isSome_iff_exists.mpr ⟨set, found⟩
  obtain ⟨updated, removed, stays, _⟩ := exists_remove valid entry given
  rw [update] at removed
  cases removed
  rw [acceptChangeInteractionClassSubscription, if_pos rfl,
    unsubscribe_of_entry valid given update stays]
  refine ⟨_, rfl, ?_, ?_⟩
  · rw [getSubscriptionType_updateCumulativeSubscription, getSubscriptionType,
      publishSubscribe_updateParameterFilterValues update]
    rfl
  · exact kept.updateCumulativeSubscription connectHandle parentSubscribed

end ServerNode
end OpenRTI
