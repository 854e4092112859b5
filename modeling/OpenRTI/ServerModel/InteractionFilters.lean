import OpenRTI.Foundation.OrderedMap
import OpenRTI.ServerModel.InteractionClass
import OpenRTI.ServerModel.VariableLengthDataTupleSet

/-!
# Parameter filters of interaction classes

A connect that subscribes to an interaction class can name values that the
parameters must have.  The filters of a class are tuples over one list of
parameters, which grows with the parameters that are named.  What passes a
filter is stated row by row, and looked up in the index of the rows.
-/

namespace OpenRTI
namespace ServerModel

open Foundation

structure ParameterValue where
  parameterHandle : ParameterHandle
  value : VariableLengthData
  deriving DecidableEq

/-- An interaction class with the filters of the connects. -/
structure FilteredInteractionClass extends InteractionClass where
  parameterFilterKeyPrototype : List ParameterHandle := []
  parameterFiltersByConnect :
    OrderedMap ConnectHandle VariableLengthDataTupleSet := ∅

namespace FilteredInteractionClass

def getClassParameter
    (self : FilteredInteractionClass)
    (parameterHandle : ParameterHandle) : Option ClassParameter :=
  findGrouped ClassParameter.parameterHandle parameterHandle
    self.classParameters

def getSubscriptionType
    (self : FilteredInteractionClass)
    (connectHandle : ConnectHandle) : SubscriptionType :=
  self.publishSubscribe.getSubscriptionType connectHandle

/-- The first value that is given for a parameter. -/
def findParameterValue
    (parameterValues : List ParameterValue)
    (parameterHandle : ParameterHandle) : Option ParameterValue :=
  parameterValues.find? fun parameterValue =>
    parameterValue.parameterHandle = parameterHandle

/-- Bring values into the order of the prototype.  A parameter without a value
has no handle and the empty value. -/
def normalizeFilterValues
    (self : FilteredInteractionClass)
    (parameterFilters : List ParameterValue) :
    List (Option ParameterHandle) × VariableLengthDataTuple :=
  (self.parameterFilterKeyPrototype.map fun filterKey =>
      (findParameterValue parameterFilters filterKey).map fun _ => filterKey,
    self.parameterFilterKeyPrototype.map fun filterKey =>
      ((findParameterValue parameterFilters filterKey).map
        ParameterValue.value).getD [])

/-- Whether values pass the filters of a connect, if it has any. -/
def isMatching
    (self : FilteredInteractionClass)
    (connectHandle : ConnectHandle)
    (parameterValues : List ParameterValue) : Bool :=
  match self.parameterFiltersByConnect.find? connectHandle with
  | none => true
  | some parameterFilterMap =>
      if parameterFilterMap.impl = [] then true
      else
        parameterFilterMap.findNormalized
          (self.normalizeFilterValues parameterValues).2

/-! ## What the filters say -/

/-- Values pass the filters of a connect if it has none, or if those of one
filter agree with the ones that are given. -/
def passesFilters
    (self : FilteredInteractionClass)
    (connectHandle : ConnectHandle)
    (parameterValues : List ParameterValue) : Bool :=
  match self.parameterFiltersByConnect.find? connectHandle with
  | none => true
  | some parameterFilterMap =>
      parameterFilterMap.impl = [] ∨
        ∃ row ∈ parameterFilterMap.impl,
          VariableLengthDataTupleSet.Matches
            (self.normalizeFilterValues parameterValues).2 row
            self.parameterFilterKeyPrototype.length

/-- The index of a connect's filters describes the rows, and all parameters of
the prototype have their columns. -/
def FiltersIndexed
    (self : FilteredInteractionClass)
    (connectHandle : ConnectHandle) : Prop :=
  ∀ parameterFilterMap,
    self.parameterFiltersByConnect.find? connectHandle =
        some parameterFilterMap →
      parameterFilterMap.Indexed ∧
        parameterFilterMap.tupleSize = self.parameterFilterKeyPrototype.length

/-- Where the index describes them, the filters are looked up as they are
stored. -/
theorem isMatching_eq_passesFilters
    {self : FilteredInteractionClass} {connectHandle : ConnectHandle}
    (indexed : self.FiltersIndexed connectHandle)
    (parameterValues : List ParameterValue) :
    self.isMatching connectHandle parameterValues =
      self.passesFilters connectHandle parameterValues := by
  rw [isMatching, passesFilters]
  cases held : self.parameterFiltersByConnect.find? connectHandle with
  | none => rfl
  | some parameterFilterMap =>
      obtain ⟨index, size⟩ := indexed parameterFilterMap held
      dsimp only
      by_cases none : parameterFilterMap.impl = []
      · rw [if_pos none, decide_eq_true (Or.inl none)]
      · have width : (self.normalizeFilterValues parameterValues).2.length =
            parameterFilterMap.tupleSize := by
          rw [size]
          exact List.length_map _
        have looked := index.findNormalized_iff none width
        rw [size] at looked
        rw [if_neg none, Bool.eq_iff_iff, looked, decide_eq_true_iff]
        simp only [none, false_or]

end FilteredInteractionClass

end ServerModel
end OpenRTI
