import OpenRTI.ServerModel.InteractionFilters

/-!
# Updates of parameter filters

A filter is added for a connect or removed again.  Parameters that no filter has named
before are put at the end of the list of parameters, also where a filter is removed,
and not all sets of rows are brought to the new width then.
-/

namespace OpenRTI
namespace ServerModel

open Foundation

namespace VariableLengthDataTupleSet

def contains
    (self : VariableLengthDataTupleSet)
    (newTuple : VariableLengthDataTuple) : Bool :=
  self.impl.contains newTuple

end VariableLengthDataTupleSet

namespace FilteredInteractionClass

/-- The parameters of the filters of a class after another filter. -/
def extendPrototype
    (prototype : List ParameterHandle)
    (parameterFilters : List ParameterValue) : List ParameterHandle :=
  parameterFilters.foldl
    (fun prototype item =>
      if item.parameterHandle ∈ prototype then prototype
      else prototype ++ [item.parameterHandle])
    prototype

/-- Enter the parameters that a filter names for the first time. -/
def updatePrototype
    (parameterFilters : List ParameterValue)
    (self : FilteredInteractionClass) : FilteredInteractionClass :=
  { self with
    parameterFilterKeyPrototype :=
      extendPrototype self.parameterFilterKeyPrototype parameterFilters }

def addParameterFilterValues
    (filterValueTuples : VariableLengthDataTupleSet)
    (parameterFilters : List ParameterValue)
    (self : FilteredInteractionClass) :
    FilteredInteractionClass × VariableLengthDataTupleSet × Bool :=
  let updated := self.updatePrototype parameterFilters
  let filterValueTuple := (updated.normalizeFilterValues parameterFilters).2
  if filterValueTuples.contains filterValueTuple then
    (updated, filterValueTuples, false)
  else (updated, filterValueTuples.insert filterValueTuple, true)

def removeParameterFilterValues
    (filterValueTuples : VariableLengthDataTupleSet)
    (parameterFilters : List ParameterValue)
    (self : FilteredInteractionClass) :
    FilteredInteractionClass × VariableLengthDataTupleSet × Bool :=
  let updated := self.updatePrototype parameterFilters
  let filterValueTuple := (updated.normalizeFilterValues parameterFilters).2
  if filterValueTuples.contains filterValueTuple then
    (updated, (filterValueTuples.erase filterValueTuple).1, true)
  else (updated, filterValueTuples, false)

/-- The result is undefined where an end iterator is dereferenced. -/
def updateParameterFilterValues
    (connectHandle : ConnectHandle)
    (parameterFilters : List ParameterValue)
    (remove : Bool)
    (self : FilteredInteractionClass) : Option (FilteredInteractionClass × Bool) :=
  if connectHandle = invalidHandle then some (self, false)
  else
    match self.parameterFiltersByConnect.find? connectHandle, remove with
    | none, false =>
        -- The sets of the other connects keep their width.
        let added := self.addParameterFilterValues {} parameterFilters
        some
          ({ added.1 with
              parameterFiltersByConnect :=
                self.parameterFiltersByConnect.insert connectHandle added.2.1 },
            true)
    | none, true => none
    | some existingFilterValues, true =>
        let removed :=
          self.removeParameterFilterValues existingFilterValues parameterFilters
        some
          ({ removed.1 with
              parameterFiltersByConnect :=
                if parameterFilters = [] then
                  self.parameterFiltersByConnect.erase connectHandle
                else
                  self.parameterFiltersByConnect.set connectHandle removed.2.1 },
            removed.2.2)
    | some existingFilterValues, false =>
        let added :=
          self.addParameterFilterValues existingFilterValues parameterFilters
        some
          ({ added.1 with
              parameterFiltersByConnect :=
                (self.parameterFiltersByConnect.mapValues
                  (·.setTupleSize added.1.parameterFilterKeyPrototype.length)).set
                    connectHandle added.2.1 },
            added.2.2)

def clearParameterFilters
    (connectHandle : ConnectHandle)
    (self : FilteredInteractionClass) : FilteredInteractionClass × Bool :=
  if connectHandle = invalidHandle then (self, false)
  else
    match self.parameterFiltersByConnect.find? connectHandle with
    | none => (self, false)
    | some _ =>
        ({ self with
            parameterFiltersByConnect :=
              self.parameterFiltersByConnect.erase connectHandle },
          true)

/-- Whether a connect has an entry, which may be without filters. -/
def hasFilterSubscriptions
    (connectHandle : ConnectHandle)
    (self : FilteredInteractionClass) : Bool :=
  if connectHandle = invalidHandle then false
  else (self.parameterFiltersByConnect.find? connectHandle).isSome

/-! ## Filters as values of parameters -/

/-- The value that a filter has for a parameter, if it is not empty. -/
abbrev Filter := ParameterHandle → VariableLengthData

def asFilter (parameterValues : List ParameterValue) : Filter := fun handle =>
  ((findParameterValue parameterValues handle).map ParameterValue.value).getD []

/-- Each value of a filter is absent or empty in the values, or it is there. -/
def Filter.Passes (filter values : Filter) : Prop :=
  ∀ handle, filter handle ≠ [] →
    values handle = [] ∨ values handle = filter handle

theorem normalizeFilterValues_eq
    (self : FilteredInteractionClass)
    (parameterFilters : List ParameterValue) :
    (self.normalizeFilterValues parameterFilters).2 =
      self.parameterFilterKeyPrototype.map (asFilter parameterFilters) := rfl

/-- A filter has values for the parameters it names only. -/
theorem mem_of_asFilter_ne
    {parameterFilters : List ParameterValue} {handle : ParameterHandle}
    (named : asFilter parameterFilters handle ≠ []) :
    ∃ item ∈ parameterFilters, item.parameterHandle = handle := by
  rw [asFilter] at named
  cases found : findParameterValue parameterFilters handle with
  | none =>
      rw [found] at named
      exact absurd rfl named
  | some item =>
      refine ⟨item, List.mem_of_find?_eq_some found, ?_⟩
      simpa using List.find?_some found

/-- The parameters that a filter names are put behind those there are. -/
theorem exists_extendPrototype
    (prototype : List ParameterHandle)
    (parameterFilters : List ParameterValue) :
    ∃ new, extendPrototype prototype parameterFilters = prototype ++ new ∧
      (∀ handle ∈ new, handle ∉ prototype) ∧
      ∀ item ∈ parameterFilters,
        item.parameterHandle ∈ extendPrototype prototype parameterFilters := by
  induction parameterFilters generalizing prototype with
  | nil => exact ⟨[], (List.append_nil _).symm, by simp, by simp⟩
  | cons item rest ih =>
      rw [extendPrototype, List.foldl_cons]
      by_cases known : item.parameterHandle ∈ prototype
      · rw [if_pos known]
        obtain ⟨new, extended, fresh, all⟩ := ih prototype
        rw [extendPrototype] at extended all
        refine ⟨new, extended, fresh, ?_⟩
        intro other member
        obtain rfl | member := List.mem_cons.mp member
        · rw [extended]
          exact List.mem_append_left _ known
        · exact all other member
      · rw [if_neg known]
        obtain ⟨new, extended, fresh, all⟩ :=
          ih (prototype ++ [item.parameterHandle])
        rw [extendPrototype] at extended all
        refine ⟨item.parameterHandle :: new, ?_, ?_, ?_⟩
        · rw [extended, List.append_assoc]
          rfl
        · intro handle member
          obtain rfl | member := List.mem_cons.mp member
          · exact known
          · exact fun old => fresh handle member (List.mem_append_left _ old)
        · intro other member
          obtain rfl | member := List.mem_cons.mp member
          · rw [extended]
            simp
          · exact all other member

end FilteredInteractionClass

end ServerModel
end OpenRTI
