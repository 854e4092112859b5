import OpenRTI.ServerNode.InteractionSubscriptions

/-!
# Unsubscription of filters

The entry of a connect stays when its last filter is removed, and with it the
subscription.
-/

namespace OpenRTI

open Foundation

variable {remove : Bool} {subscriptionType : SubscriptionType}

namespace ServerModel
namespace FilteredInteractionClass

variable {self : FilteredInteractionClass} {connectHandle other : ConnectHandle}

variable {parameterFilters : List ParameterValue}
variable {result : FilteredInteractionClass × Bool}

/-! ## What is kept -/

section

variable (updated : self.updateParameterFilterValues connectHandle parameterFilters remove =
      some result)
include updated

theorem publishSubscribe_updateParameterFilterValues :
    result.1.publishSubscribe = self.publishSubscribe := by
  rw [updateParameterFilterValues.eq_def] at updated
  split at updated
  next => cases updated; rfl
  next =>
    split at updated
    next =>
      cases updated
      dsimp only
      rw [addParameterFilterValues]
      split <;> rfl
    next => cases updated
    next =>
      cases updated
      dsimp only
      rw [removeParameterFilterValues]
      split <;> rfl
    next =>
      cases updated
      dsimp only
      rw [addParameterFilterValues]
      split <;> rfl

/-- Other connects keep their entries, though not the width of their rows. -/
theorem isSome_find?_updateParameterFilterValues
    (different : other ≠ connectHandle) :
    (result.1.parameterFiltersByConnect.find? other).isSome =
      (self.parameterFiltersByConnect.find? other).isSome := by
  rw [updateParameterFilterValues.eq_def] at updated
  split at updated
  next => cases updated; rfl
  next =>
    split at updated
    next =>
      cases updated
      dsimp only
      rw [OrderedMap.find?_insert, if_neg different]
    next => cases updated
    next =>
      cases updated
      dsimp only
      split
      · rw [OrderedMap.find?_erase, if_neg different]
      · rw [OrderedMap.find?_set, if_neg different]
    next =>
      cases updated
      dsimp only
      rw [OrderedMap.find?_set, if_neg different, OrderedMap.find?_mapValues,
        Option.isSome_map]

end

section

variable (valid : connectHandle ≠ invalidHandle)
include valid

theorem isSome_find?_add
    (updated : self.updateParameterFilterValues connectHandle parameterFilters false =
      some result) :
    (result.1.parameterFiltersByConnect.find? connectHandle).isSome = true := by
  rw [updateParameterFilterValues.eq_def, if_neg valid] at updated
  split at updated
  next =>
    cases updated
    dsimp only
    rw [OrderedMap.find?_insert, if_pos rfl]
    rfl
  next absurdity => cases absurdity
  next absurdity => cases absurdity
  next =>
    cases updated
    dsimp only
    rw [OrderedMap.find?_set, if_pos rfl]
    rfl

/-- A removal with values for a connect that has an entry changes this entry only. -/
theorem exists_remove
    (entry : (self.parameterFiltersByConnect.find? connectHandle).isSome = true)
    (given : parameterFilters ≠ []) :
    ∃ result,
      self.updateParameterFilterValues connectHandle parameterFilters true =
        some result ∧
      (result.1.parameterFiltersByConnect.find? connectHandle).isSome = true ∧
      ∀ other, other ≠ connectHandle →
        result.1.parameterFiltersByConnect.find? other =
          self.parameterFiltersByConnect.find? other := by
  obtain ⟨set, found⟩ := Option.isSome_iff_exists.mp entry
  rw [updateParameterFilterValues.eq_def, if_neg valid, found]
  refine ⟨_, rfl, ?_, ?_⟩
  · dsimp only
    rw [if_neg given, OrderedMap.find?_set, if_pos rfl]
    rfl
  · intro other different
    dsimp only
    rw [if_neg given, OrderedMap.find?_set, if_neg different]

theorem remove_eq_none
    (absent : self.parameterFiltersByConnect.find? connectHandle = none) :
    self.updateParameterFilterValues connectHandle parameterFilters true = none := by
  rw [updateParameterFilterValues.eq_def, if_neg valid, absent]

theorem prototype_remove
    (updated : self.updateParameterFilterValues connectHandle parameterFilters true =
      some result) :
    result.1.parameterFilterKeyPrototype =
      extendPrototype self.parameterFilterKeyPrototype parameterFilters := by
  rw [updateParameterFilterValues.eq_def, if_neg valid] at updated
  split at updated
  next absurdity => cases absurdity
  next => cases updated
  next =>
    cases updated
    dsimp only
    rw [removeParameterFilterValues]
    split
    · rfl
    · rfl
  next absurdity => cases absurdity

end

theorem extendPrototype_eq_self
    {prototype : List ParameterHandle}
    (known : ∀ item ∈ parameterFilters, item.parameterHandle ∈ prototype) :
    extendPrototype prototype parameterFilters = prototype := by
  induction parameterFilters with
  | nil => rfl
  | cons item rest ih =>
      rw [extendPrototype, List.foldl_cons, if_pos (known item List.mem_cons_self)]
      apply ih
      intro other member
      exact known other (List.mem_cons_of_mem item member)

theorem extendPrototype_eq_self_iff
    (prototype : List ParameterHandle)
    (parameterFilters : List ParameterValue) :
    extendPrototype prototype parameterFilters = prototype ↔
      ∀ item ∈ parameterFilters, item.parameterHandle ∈ prototype := by
  refine ⟨?_, extendPrototype_eq_self⟩
  intro same item member
  obtain ⟨_, _, _, all⟩ := exists_extendPrototype prototype parameterFilters
  rw [← same]
  exact all item member

/-! ## Subscriptions -/

theorem getSubscriptionType_setSubscriptionType_of_ne
    (different : other ≠ connectHandle)
    (subscriptionType : SubscriptionType) :
    (self.setSubscriptionType connectHandle subscriptionType).1.getSubscriptionType
        other = self.getSubscriptionType other :=
  PublishSubscribe.getSubscriptionType_setSubscriptionType_of_ne different
    subscriptionType self.publishSubscribe

theorem getSubscriptionType_setSubscriptionType_ne
    (subscribes : subscriptionType ≠ .unsubscribed) :
    (self.setSubscriptionType connectHandle subscriptionType).1.getSubscriptionType
        connectHandle ≠ .unsubscribed :=
  PublishSubscribe.getSubscriptionType_setSubscriptionType_ne subscribes
    self.publishSubscribe

/-- What the class has for the other connects is the same. -/
structure ChangesOnly
    (connectHandle : ConnectHandle)
    (before after : FilteredInteractionClass) : Prop where
  entries : ∀ other, other ≠ connectHandle →
    after.parameterFiltersByConnect.find? other =
      before.parameterFiltersByConnect.find? other
  published : after.publishSubscribe.publishedConnects =
    before.publishSubscribe.publishedConnects
  subscribed : ∀ other, other ≠ connectHandle →
    after.getSubscriptionType other = before.getSubscriptionType other
  cumulative : ∀ other, other ≠ connectHandle →
    (other ∈ after.publishSubscribe.cumulativeSubscribedConnectHandleSet ↔
      other ∈ before.publishSubscribe.cumulativeSubscribedConnectHandleSet)

end FilteredInteractionClass
end ServerModel

namespace ServerNode

open ServerModel ServerModel.FilteredInteractionClass

variable {interactionClass : FilteredInteractionClass}
variable {connectHandle other : ConnectHandle}

/-! ## Messages -/

@[simp] theorem getSubscriptionType_updateCumulativeSubscription
    (connectHandle other : ConnectHandle) (parentSubscribed : Bool) :
    (interactionClass.updateCumulativeSubscription connectHandle
      parentSubscribed).getSubscriptionType other =
        interactionClass.getSubscriptionType other := by
  rw [updateCumulativeSubscription, withPublishSubscribe, getSubscriptionType]
  rw [PublishSubscribe.updateCumulativeSubscribedConnectHandleSet]
  split
  · rfl
  · rfl

theorem changesOnly_updateCumulativeSubscription
    (connectHandle : ConnectHandle) (parentSubscribed : Bool) :
    ChangesOnly connectHandle interactionClass
      (interactionClass.updateCumulativeSubscription connectHandle
        parentSubscribed) where
  entries _ _ := rfl
  published := by
    rw [updateCumulativeSubscription, withPublishSubscribe,
      PublishSubscribe.updateCumulativeSubscribedConnectHandleSet]
    split
    · rfl
    · rfl
  subscribed other _ := getSubscriptionType_updateCumulativeSubscription _ other _
  cumulative other different := by
    rw [updateCumulativeSubscription, withPublishSubscribe,
      PublishSubscribe.updateCumulativeSubscribedConnectHandleSet]
    split
    · simp [different]
    · simp [different]

variable {parameterFilterValues : List ParameterValue}
variable {updated : FilteredInteractionClass × Bool}

/-- The entry is there after the removal of a filter, also where it has become empty.
So the connect stays subscribed. -/
theorem unsubscribe_of_entry
    (valid : connectHandle ≠ invalidHandle)
    (given : parameterFilterValues ≠ [])
    (update : interactionClass.updateParameterFilterValues connectHandle
      parameterFilterValues true = some updated)
    (stays : (updated.1.parameterFiltersByConnect.find? connectHandle).isSome = true) :
    unsubscribe connectHandle parameterFilterValues interactionClass =
      some ⟨updated.1, updated.2, .propagateBroadcast, none⟩ := by
  have entered : updated.1.hasFilterSubscriptions connectHandle = true := by
    rw [hasFilterSubscriptions, if_neg valid]
    exact stays
  rw [unsubscribe, if_pos given, update, Option.map_some, entered]
  rfl

/-- An unsubscription with values is processed exactly for the connects that have an
entry. -/
theorem accept_unsubscribed_iff
    (valid : connectHandle ≠ invalidHandle)
    (given : parameterFilterValues ≠ [])
    (parentSubscribed : Bool) :
    (∃ result,
      acceptChangeInteractionClassSubscription connectHandle
          ⟨.unsubscribed, parameterFilterValues⟩ parentSubscribed interactionClass =
        some result ∧
      ChangesOnly connectHandle interactionClass result.1) ↔
      (interactionClass.parameterFiltersByConnect.find? connectHandle).isSome =
        true := by
  rw [acceptChangeInteractionClassSubscription]
  constructor
  · rintro ⟨result, accepted, _⟩
    by_contra absent
    have missing := Option.not_isSome_iff_eq_none.mp absent
    rw [if_pos rfl, unsubscribe, if_pos given, remove_eq_none valid missing] at accepted
    cases accepted
  · intro entry
    obtain ⟨updated, update, stays, others⟩ := exists_remove valid entry given
    rw [if_pos rfl, unsubscribe_of_entry valid given update stays]
    refine ⟨_, rfl, ?_⟩
    have kept := publishSubscribe_updateParameterFilterValues update
    have cumulated := @changesOnly_updateCumulativeSubscription updated.1
      connectHandle parentSubscribed
    refine ⟨?_, ?_, ?_, ?_⟩
    · exact others
    · exact cumulated.published.trans (congrArg _ kept)
    · intro other different
      refine (cumulated.subscribed other different).trans ?_
      rw [getSubscriptionType, getSubscriptionType, kept]
    · intro other different
      refine (cumulated.cumulative other different).trans ?_
      rw [kept]

variable {result : FilteredInteractionClass × ConnectHandleSet}
variable {parentSubscribed : Bool}

/-- The parameters that filters name are those of the class before, exactly if the
filter names no other one. -/
theorem prototype_unsubscribed_iff
    (valid : connectHandle ≠ invalidHandle)
    (given : parameterFilterValues ≠ [])
    (accepted : acceptChangeInteractionClassSubscription connectHandle
      ⟨.unsubscribed, parameterFilterValues⟩ parentSubscribed interactionClass =
        some result) :
    result.1.parameterFilterKeyPrototype =
        interactionClass.parameterFilterKeyPrototype ↔
      ∀ item ∈ parameterFilterValues,
        item.parameterHandle ∈ interactionClass.parameterFilterKeyPrototype := by
  rw [acceptChangeInteractionClassSubscription, if_pos rfl] at accepted
  cases found : interactionClass.parameterFiltersByConnect.find? connectHandle with
  | none =>
      rw [unsubscribe, if_pos given, remove_eq_none valid found] at accepted
      cases accepted
  | some set =>
      have entry := Option.isSome_iff_exists.mpr ⟨set, found⟩
      obtain ⟨updated, update, stays, _⟩ := exists_remove valid entry given
      rw [unsubscribe_of_entry valid given update stays] at accepted
      cases accepted
      rw [← extendPrototype_eq_self_iff,
        ← prototype_remove valid update]
      rfl

/-- For a connect the subscription is the same, and so is whether it has an entry. -/
def SameFor
    (connectHandle : ConnectHandle)
    (before after : FilteredInteractionClass) : Prop :=
  (after.parameterFiltersByConnect.find? connectHandle).isSome =
      (before.parameterFiltersByConnect.find? connectHandle).isSome ∧
    after.getSubscriptionType connectHandle = before.getSubscriptionType connectHandle

theorem SameFor.refl
    (connectHandle : ConnectHandle)
    (interactionClass : FilteredInteractionClass) :
    SameFor connectHandle interactionClass interactionClass := ⟨rfl, rfl⟩

theorem SameFor.trans
    {first second third : FilteredInteractionClass}
    (earlier : SameFor connectHandle first second)
    (later : SameFor connectHandle second third) :
    SameFor connectHandle first third :=
  ⟨later.1.trans earlier.1, later.2.trans earlier.2⟩

theorem sameFor_setSubscriptionType
    (different : other ≠ connectHandle)
    (subscriptionType : SubscriptionType) :
    SameFor other interactionClass
      (interactionClass.setSubscriptionType connectHandle subscriptionType).1 :=
  ⟨rfl, getSubscriptionType_setSubscriptionType_of_ne different subscriptionType⟩

theorem sameFor_updateParameterFilterValues
    (different : other ≠ connectHandle)
    (update : interactionClass.updateParameterFilterValues connectHandle
      parameterFilterValues remove = some updated) :
    SameFor other interactionClass updated.1 := by
  refine ⟨isSome_find?_updateParameterFilterValues update different, ?_⟩
  rw [getSubscriptionType, getSubscriptionType,
    publishSubscribe_updateParameterFilterValues update]

theorem sameFor_clearParameterFilters (different : other ≠ connectHandle) :
    SameFor other interactionClass
      (interactionClass.clearParameterFilters connectHandle).1 := by
  rw [clearParameterFilters]
  split
  next => exact SameFor.refl other interactionClass
  next =>
    split
    next => exact SameFor.refl other interactionClass
    next =>
      refine ⟨?_, rfl⟩
      dsimp only
      rw [OrderedMap.find?_erase, if_neg different]

variable {change : SubscriptionChange}

section

variable (different : other ≠ connectHandle)
include different

theorem sameFor_unsubscribe
    (changed : unsubscribe connectHandle parameterFilterValues interactionClass =
      some change) :
    SameFor other interactionClass change.interactionClass := by
  rw [unsubscribe] at changed
  split at changed
  next =>
    obtain ⟨updated, update, rfl⟩ := Option.map_eq_some_iff.mp changed
    have same := sameFor_updateParameterFilterValues different update
    split
    next => exact same.trans (sameFor_setSubscriptionType different _)
    next => exact same
  next =>
    cases changed
    exact (sameFor_clearParameterFilters different).trans
      (sameFor_setSubscriptionType different _)

theorem sameFor_subscribe
    (changed : subscribe connectHandle subscriptionType parameterFilterValues
      interactionClass = some change) :
    SameFor other interactionClass change.interactionClass := by
  rw [subscribe] at changed
  obtain ⟨updated, update, rfl⟩ := Option.map_eq_some_iff.mp changed
  have same : SameFor other interactionClass updated.1 := by
    split at update
    next => exact sameFor_updateParameterFilterValues different update
    next =>
      cases update
      exact SameFor.refl other interactionClass
  exact same.trans (sameFor_setSubscriptionType different _)

/-- A message of another connect keeps whether a connect is subscribed. -/
theorem sameFor_accept
    {message : ChangeInteractionClassSubscriptionMessage}
    (accepted : acceptChangeInteractionClassSubscription connectHandle message
      parentSubscribed interactionClass = some result) :
    SameFor other interactionClass result.1 := by
  rw [acceptChangeInteractionClassSubscription] at accepted
  obtain ⟨change, changed, rfl⟩ := Option.map_eq_some_iff.mp accepted
  have cumulated : SameFor other change.interactionClass
      (change.interactionClass.updateCumulativeSubscription connectHandle
        parentSubscribed) :=
    ⟨rfl, getSubscriptionType_updateCumulativeSubscription connectHandle other _⟩
  split at changed
  next => exact (sameFor_unsubscribe different changed).trans cumulated
  next => exact (sameFor_subscribe different changed).trans cumulated

end

end ServerNode
end OpenRTI
