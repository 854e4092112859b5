import OpenRTI.ServerNode.InteractionSubscriptions

/-!
# Declaration management of interaction classes

The calls of the ambassador that subscribe an interaction class, with or without
values that parameters must have.  The federate keeps a subscription type and filters
for the class.  A call with values is told to the server if it changes the filters, and
one without values if it changes the type.

The checks that a call makes before it changes anything are left out.
-/

namespace OpenRTI
namespace DeclarationManagement

open ServerModel (ParameterHandle ParameterValue SubscriptionType
  VariableLengthDataTuple VariableLengthDataTupleSet)
open ServerModel.FilteredInteractionClass (asFilter extendPrototype findParameterValue)
open ServerNode (ChangeInteractionClassSubscriptionMessage)

structure PublishSubscribe where
  subscriptionType : SubscriptionType := .unsubscribed

namespace PublishSubscribe

/-- The type after the call, and whether it has changed. -/
def setSubscriptionType
    (subscriptionType : SubscriptionType)
    (self : PublishSubscribe) : PublishSubscribe × Bool :=
  ({ self with subscriptionType := subscriptionType },
    subscriptionType ≠ self.subscriptionType)

end PublishSubscribe

/-- An interaction class of the federate, with what subscriptions change of it. -/
structure InteractionClass extends PublishSubscribe where
  parameterFilterKeyPrototype : List ParameterHandle := []
  parameterFilterValues : VariableLengthDataTupleSet := {}

namespace InteractionClass

def normalizeFilterValues
    (parameterFilters : List ParameterValue)
    (self : InteractionClass) :
    List (Option ParameterHandle) × VariableLengthDataTuple :=
  (self.parameterFilterKeyPrototype.map fun filterKey =>
      (findParameterValue parameterFilters filterKey).map fun _ => filterKey,
    self.parameterFilterKeyPrototype.map fun filterKey =>
      ((findParameterValue parameterFilters filterKey).map
        ParameterValue.value).getD [])

/-- Enter the parameters that a filter names for the first time. -/
def updatePrototype
    (parameterFilters : List ParameterValue)
    (self : InteractionClass) : InteractionClass :=
  { self with
    parameterFilterKeyPrototype :=
      extendPrototype self.parameterFilterKeyPrototype parameterFilters }

def addParameterFilterValues
    (filterValueTuples : VariableLengthDataTupleSet)
    (parameterFilters : List ParameterValue)
    (self : InteractionClass) :
    InteractionClass × VariableLengthDataTupleSet × Bool :=
  let updated := self.updatePrototype parameterFilters
  let filterValueTuple := (updated.normalizeFilterValues parameterFilters).2
  if filterValueTuples.contains filterValueTuple then
    (updated, filterValueTuples, false)
  else (updated, filterValueTuples.insert filterValueTuple, true)

def removeParameterFilterValues
    (filterValueTuples : VariableLengthDataTupleSet)
    (parameterFilters : List ParameterValue)
    (self : InteractionClass) :
    InteractionClass × VariableLengthDataTupleSet × Bool :=
  let updated := self.updatePrototype parameterFilters
  let filterValueTuple := (updated.normalizeFilterValues parameterFilters).2
  if filterValueTuples.contains filterValueTuple then
    (updated, (filterValueTuples.erase filterValueTuple).1, true)
  else (updated, filterValueTuples, false)

def hasParameterFilters (self : InteractionClass) : Bool :=
  self.parameterFilterValues.impl ≠ []

def updateParameterFilterValues
    (parameterFilters : List ParameterValue)
    (remove : Bool)
    (self : InteractionClass) : InteractionClass × Bool :=
  let updated :=
    if remove then
      self.removeParameterFilterValues self.parameterFilterValues parameterFilters
    else self.addParameterFilterValues self.parameterFilterValues parameterFilters
  ({ updated.1 with parameterFilterValues := updated.2.1 }, updated.2.2)

/-- Set the type, and add or remove a filter if there are values.  The result says
whether the filters have changed if there are values, and else whether the type has. -/
def setSubscriptionType
    (subscriptionType : SubscriptionType)
    (filterValues : List ParameterValue)
    (self : InteractionClass) : InteractionClass × Bool :=
  if filterValues ≠ [] then
    let updated :=
      self.updateParameterFilterValues filterValues (subscriptionType = .unsubscribed)
    if subscriptionType = .unsubscribed ∧ updated.1.hasParameterFilters then
      -- The type is left as it is while there are filters.
      updated
    else
      ({ updated.1 with
          toPublishSubscribe :=
            (updated.1.toPublishSubscribe.setSubscriptionType subscriptionType).1 },
        updated.2)
  else
    let changed := self.toPublishSubscribe.setSubscriptionType subscriptionType
    ({ self with toPublishSubscribe := changed.1 }, changed.2)

/-- Whether a filter is there, in the form that the parameters named so far give it. -/
def hasFilter
    (parameterFilters : List ParameterValue)
    (self : InteractionClass) : Bool :=
  self.parameterFilterValues.contains
    ((self.updatePrototype parameterFilters).normalizeFilterValues parameterFilters).2

theorem removeParameterFilterValues_changed
    (parameterFilters : List ParameterValue) (self : InteractionClass) :
    (self.removeParameterFilterValues self.parameterFilterValues
      parameterFilters).2.2 = self.hasFilter parameterFilters := by
  rw [removeParameterFilterValues, hasFilter]
  split
  next present => exact present.symm
  next absent => exact (Bool.eq_false_of_not_eq_true absent).symm

theorem addParameterFilterValues_changed
    (parameterFilters : List ParameterValue) (self : InteractionClass) :
    (self.addParameterFilterValues self.parameterFilterValues
      parameterFilters).2.2 = !self.hasFilter parameterFilters := by
  rw [addParameterFilterValues, hasFilter]
  split
  next present => simp [present]
  next absent => simp [absent]

/-- A filter is told to the server if it was not there, and its removal if it was. -/
theorem setSubscriptionType_changed
    {filterValues : List ParameterValue}
    (given : filterValues ≠ [])
    (subscriptionType : SubscriptionType) (self : InteractionClass) :
    (self.setSubscriptionType subscriptionType filterValues).2 =
      if subscriptionType = .unsubscribed then self.hasFilter filterValues
      else !self.hasFilter filterValues := by
  have changed : (self.setSubscriptionType subscriptionType filterValues).2 =
      (self.updateParameterFilterValues filterValues
        (subscriptionType = .unsubscribed)).2 := by
    rw [setSubscriptionType, if_pos given]
    dsimp only
    split
    · rfl
    · rfl
  rw [changed, updateParameterFilterValues]
  by_cases unsubscribes : subscriptionType = .unsubscribed
  · rw [if_pos unsubscribes, if_pos (decide_eq_true unsubscribes)]
    exact self.removeParameterFilterValues_changed filterValues
  · rw [if_neg unsubscribes, if_neg (by simpa using unsubscribes)]
    exact self.addParameterFilterValues_changed filterValues

end InteractionClass

/-! ## Calls of the ambassador -/

namespace Ambassador

/-- The class after a call, and the message that is sent if there is a change. -/
def changeInteractionClassSubscription
    (subscriptionType : SubscriptionType)
    (filterValues : List ParameterValue)
    (interactionClass : InteractionClass) :
    InteractionClass × Option ChangeInteractionClassSubscriptionMessage :=
  let changed := interactionClass.setSubscriptionType subscriptionType filterValues
  (changed.1, if changed.2 then some ⟨subscriptionType, filterValues⟩ else none)

def subscribeInteractionClass (active : Bool) :
    InteractionClass →
      InteractionClass × Option ChangeInteractionClassSubscriptionMessage :=
  changeInteractionClassSubscription
    (if active then .subscribedActive else .subscribedPassive) []

def subscribeInteractionClassWithFilter
    (filterValues : List ParameterValue)
    (active : Bool) :
    InteractionClass →
      InteractionClass × Option ChangeInteractionClassSubscriptionMessage :=
  changeInteractionClassSubscription
    (if active then .subscribedActive else .subscribedPassive) filterValues

def unsubscribeInteractionClass :
    InteractionClass →
      InteractionClass × Option ChangeInteractionClassSubscriptionMessage :=
  changeInteractionClassSubscription .unsubscribed []

def unsubscribeInteractionClassWithFilter (filterValues : List ParameterValue) :
    InteractionClass →
      InteractionClass × Option ChangeInteractionClassSubscriptionMessage :=
  changeInteractionClassSubscription .unsubscribed filterValues

end Ambassador

end DeclarationManagement
end OpenRTI
