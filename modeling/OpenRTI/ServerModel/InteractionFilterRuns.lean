import OpenRTI.ServerModel.InteractionFilterUpdates

/-!
# Runs of filter updates

The reference is the set of filters that each connect has added and not removed.  The
rows of a connect are its filters in the order of the parameters of the class.  This
is kept as long as a filter that widens the rows comes in a way that brings all rows
to the new width, and the removal of a row keeps the indices of the wildcards.
-/

namespace OpenRTI
namespace ServerModel

open Foundation

namespace FilteredInteractionClass

/-! ## The rows of one connect -/

/-- The rows are the filters, brought into the order of the parameters. -/
structure Holds
    (prototype : List ParameterHandle)
    (set : VariableLengthDataTupleSet)
    (filters : Set Filter) : Prop where
  indexed : set.Indexed
  narrow : set.tupleSize ≤ prototype.length
  sized : set.impl ≠ [] → set.tupleSize = prototype.length
  named : ∀ filter ∈ filters, ∀ handle, filter handle ≠ [] → handle ∈ prototype
  rows : ∀ row, row ∈ set.impl ↔ ∃ filter ∈ filters, row = prototype.map filter

variable {prototype new : List ParameterHandle} {set : VariableLengthDataTupleSet}
variable {filters : Set Filter} {filter : Filter}

theorem holds_empty (prototype : List ParameterHandle) :
    Holds prototype {} ∅ where
  indexed := VariableLengthDataTupleSet.Indexed.empty
  narrow := Nat.zero_le _
  sized absurdity := absurd rfl absurdity
  named _ member := absurd member (Set.notMem_empty _)
  rows row := by simp

theorem Holds.filters_eq_empty_iff (holds : Holds prototype set filters) :
    filters = ∅ ↔ set.impl = [] := by
  constructor
  · rintro rfl
    rw [List.eq_nil_iff_forall_not_mem]
    intro row member
    obtain ⟨filter, absurdity, _⟩ := (holds.rows row).mp member
    exact absurdity
  · intro none
    rw [Set.eq_empty_iff_forall_notMem]
    intro filter member
    have inside := (holds.rows _).mpr ⟨filter, member, rfl⟩
    rw [none] at inside
    exact absurd inside List.not_mem_nil

/-- Filters for the parameters of a list are the same if their rows are. -/
theorem eq_of_map_eq
    {other : Filter}
    (named : ∀ handle, filter handle ≠ [] → handle ∈ prototype)
    (namedOther : ∀ handle, other handle ≠ [] → handle ∈ prototype)
    (same : prototype.map filter = prototype.map other) :
    filter = other := by
  funext handle
  by_cases member : handle ∈ prototype
  · exact List.map_inj_left.mp same handle member
  · have empty := not_imp_comm.mp (named handle) member
    have emptyOther := not_imp_comm.mp (namedOther handle) member
    exact empty.trans emptyOther.symm

theorem Holds.mem_iff
    (holds : Holds prototype set filters)
    (named : ∀ handle, filter handle ≠ [] → handle ∈ prototype) :
    prototype.map filter ∈ set.impl ↔ filter ∈ filters := by
  rw [holds.rows]
  constructor
  · rintro ⟨other, member, same⟩
    rw [eq_of_map_eq named (holds.named other member) same]
    exact member
  · exact fun member => ⟨filter, member, rfl⟩

/-- Where there are no rows, the set keeps its width. -/
theorem Holds.extend_empty
    (holds : Holds prototype set filters)
    (none : set.impl = [])
    (new : List ParameterHandle) :
    Holds (prototype ++ new) set filters := by
  have empty := holds.filters_eq_empty_iff.mpr none
  subst empty
  refine ⟨holds.indexed, ?_, fun absurdity => absurd none absurdity, ?_, ?_⟩
  · rw [List.length_append]
    exact holds.narrow.trans (Nat.le_add_right _ _)
  · exact fun _ absurdity => absurd absurdity (Set.notMem_empty _)
  · intro row
    simp [none]

theorem map_append_eq_resize
    (named : ∀ handle, filter handle ≠ [] → handle ∈ prototype)
    (fresh : ∀ handle ∈ new, handle ∉ prototype) :
    VariableLengthDataTuple.resize (prototype.map filter) (prototype ++ new).length =
      (prototype ++ new).map filter := by
  have length : (prototype.map filter).length ≤ (prototype ++ new).length := by
    rw [List.length_map, List.length_append]
    exact Nat.le_add_right _ _
  have empty : new.map filter = List.replicate new.length [] := by
    rw [List.eq_replicate_iff]
    refine ⟨List.length_map _, ?_⟩
    intro value member
    obtain ⟨handle, inside, rfl⟩ := List.mem_map.mp member
    exact not_imp_comm.mp (named handle) (fresh handle inside)
  rw [VariableLengthDataTuple.resize, List.take_of_length_le length,
    List.map_append, empty, List.length_map, List.length_append,
    Nat.add_sub_cancel_left]

theorem impl_setTupleSize
    (indexed : set.Indexed)
    {newTupleSize : Nat}
    (wide : set.tupleSize ≤ newTupleSize) :
    (set.setTupleSize newTupleSize).impl =
      set.impl.map (·.resize newTupleSize) := by
  rw [VariableLengthDataTupleSet.setTupleSize]
  split
  next => rfl
  next notWider =>
    have same : ∀ row ∈ set.impl, row.resize newTupleSize = row := by
      intro row member
      have length := indexed.rows row member
      rw [VariableLengthDataTuple.resize, List.take_of_length_le (by omega),
        Nat.sub_eq_zero_of_le (by omega)]
      exact List.append_nil row
    exact ((List.map_congr_left same).trans (List.map_id _)).symm

/-- The rows are brought to a new width. -/
theorem Holds.setTupleSize
    (holds : Holds prototype set filters)
    (fresh : ∀ handle ∈ new, handle ∉ prototype) :
    Holds (prototype ++ new) (set.setTupleSize (prototype ++ new).length)
      filters := by
  have wide : set.tupleSize ≤ (prototype ++ new).length := by
    rw [List.length_append]
    exact holds.narrow.trans (Nat.le_add_right _ _)
  have size := VariableLengthDataTupleSet.Indexed.tupleSize_setTupleSize wide
  refine ⟨holds.indexed.setTupleSize _, size.le, fun _ => size, ?_, ?_⟩
  · intro filter member handle isNamed
    exact List.mem_append_left _ (holds.named filter member handle isNamed)
  · intro row
    rw [impl_setTupleSize holds.indexed wide, List.mem_map]
    constructor
    · rintro ⟨old, member, rfl⟩
      obtain ⟨filter, inside, rfl⟩ := (holds.rows old).mp member
      exact ⟨filter, inside, map_append_eq_resize (holds.named filter inside) fresh⟩
    · rintro ⟨filter, inside, rfl⟩
      exact ⟨_, (holds.rows _).mpr ⟨filter, inside, rfl⟩,
        map_append_eq_resize (holds.named filter inside) fresh⟩

/-- A filter is added, unless it is there. -/
theorem Holds.add
    (holds : Holds prototype set filters)
    (fresh : ∀ handle ∈ new, handle ∉ prototype)
    (named : ∀ handle, filter handle ≠ [] → handle ∈ prototype ++ new) :
    Holds (prototype ++ new)
      (if (prototype ++ new).map filter ∈ set.impl then set
        else set.insert ((prototype ++ new).map filter))
      (insert filter filters) := by
  have namedAll : ∀ other ∈ insert filter filters, ∀ handle, other handle ≠ [] →
      handle ∈ prototype ++ new := by
    intro other member handle isNamed
    obtain rfl | member := Set.mem_insert_iff.mp member
    · exact named handle isNamed
    · exact List.mem_append_left _ (holds.named other member handle isNamed)
  split
  next present =>
    -- The row has the width of the others, so no parameter is new.
    have some : set.impl ≠ [] := List.ne_nil_of_mem present
    have length := holds.indexed.rows _ present
    rw [holds.sized some, List.length_map, List.length_append] at length
    have none : new = [] := List.eq_nil_of_length_eq_zero (by omega)
    subst none
    rw [List.append_nil] at present named ⊢
    rw [Set.insert_eq_of_mem ((holds.mem_iff named).mp present)]
    exact holds
  next absent =>
    have length : ((prototype ++ new).map filter).length =
        (prototype ++ new).length := List.length_map _
    have wide : set.tupleSize ≤ (prototype ++ new).length := by
      rw [List.length_append]
      exact holds.narrow.trans (Nat.le_add_right _ _)
    have resized := holds.setTupleSize fresh
    have size : (set.insert ((prototype ++ new).map filter)).tupleSize =
        (prototype ++ new).length := by
      rw [VariableLengthDataTupleSet.insert, length]
      exact VariableLengthDataTupleSet.Indexed.tupleSize_setTupleSize wide
    refine ⟨holds.indexed.insert (by rw [length]; exact wide), size.le,
      fun _ => size, namedAll, ?_⟩
    intro row
    rw [VariableLengthDataTupleSet.insert, length]
    change row ∈ (set.setTupleSize (prototype ++ new).length).impl ++ _ ↔ _
    rw [List.mem_append, List.mem_singleton, resized.rows]
    constructor
    · rintro (⟨other, member, rfl⟩ | rfl)
      · exact ⟨other, Set.mem_insert_of_mem _ member, rfl⟩
      · exact ⟨filter, Set.mem_insert _ _, rfl⟩
    · rintro ⟨other, member, rfl⟩
      obtain rfl | member := Set.mem_insert_iff.mp member
      · exact Or.inr rfl
      · exact Or.inl ⟨other, member, rfl⟩

/-- A row can be removed if it is there once, and no row behind it has a
wildcard. -/
def Removable (set : VariableLengthDataTupleSet) (row : VariableLengthDataTuple) :
    Prop :=
  set.impl.count row ≤ 1 ∧
    ∀ other ∈ set.impl.drop (set.impl.idxOf row + 1), [] ∉ other

/-- A filter is removed, if it is there. -/
theorem Holds.remove
    (holds : Holds prototype set filters)
    (named : ∀ handle, filter handle ≠ [] → handle ∈ prototype)
    (removable : Removable set (prototype.map filter)) :
    Holds prototype
      (if prototype.map filter ∈ set.impl then
        (set.erase (prototype.map filter)).1 else set)
      (filters \ {filter}) := by
  split
  next present =>
    have erased : (set.erase (prototype.map filter)).1.impl =
        set.impl.erase (prototype.map filter) := by
      rw [VariableLengthDataTupleSet.erase, if_pos present]
      exact (List.erase_eq_eraseIdx_of_idxOf rfl).symm
    have size : (set.erase (prototype.map filter)).1.tupleSize = set.tupleSize := by
      rw [VariableLengthDataTupleSet.erase, if_pos present]
    refine ⟨holds.indexed.erase removable.2, ?_, ?_, ?_, ?_⟩
    · rw [size]
      exact holds.narrow
    · intro _
      rw [size]
      exact holds.sized (List.ne_nil_of_mem present)
    · exact fun other member => holds.named other member.1
    · intro row
      rw [erased]
      have gone : prototype.map filter ∉ set.impl.erase (prototype.map filter) := by
        rw [← List.count_eq_zero, List.count_erase_self]
        exact Nat.sub_eq_zero_of_le removable.1
      constructor
      · intro member
        obtain ⟨other, inside, rfl⟩ :=
          (holds.rows row).mp (List.mem_of_mem_erase member)
        refine ⟨other, ⟨inside, ?_⟩, rfl⟩
        rintro rfl
        exact gone member
      · rintro ⟨other, ⟨inside, different⟩, rfl⟩
        have changed : prototype.map other ≠ prototype.map filter := by
          intro same
          exact different (eq_of_map_eq (holds.named other inside) named same)
        exact (List.mem_erase_of_ne changed).mpr
          ((holds.rows _).mpr ⟨other, inside, rfl⟩)
  next absent =>
    have missing : filter ∉ filters := fun member =>
      absent ((holds.mem_iff named).mpr member)
    rw [Set.sdiff_singleton_eq_self missing]
    exact holds

/-! ## The filters of all connects -/

/-- The rows of each connect are its filters. -/
structure Keeps
    (interactionClass : FilteredInteractionClass)
    (held : ConnectHandle → Set Filter) : Prop where
  absent : ∀ connectHandle,
    interactionClass.parameterFiltersByConnect.find? connectHandle = none →
      held connectHandle = ∅
  present : ∀ connectHandle set,
    interactionClass.parameterFiltersByConnect.find? connectHandle = some set →
      Holds interactionClass.parameterFilterKeyPrototype set (held connectHandle)

/-- Values match if the connect has no filter, or if they pass one of them. -/
def MatchesHeld
    (self : FilteredInteractionClass)
    (held : ConnectHandle → Set Filter) : Prop :=
  ∀ connectHandle parameterValues,
    self.isMatching connectHandle parameterValues = true ↔
      held connectHandle = ∅ ∨
        ∃ filter ∈ held connectHandle, filter.Passes (asFilter parameterValues)

theorem value_map
    (values : Filter)
    {column : Nat}
    (inside : column < prototype.length) :
    VariableLengthDataTuple.value (prototype.map values) column =
      values prototype[column] := by
  have length : column < (prototype.map values).length := by
    rw [List.length_map]
    exact inside
  rw [VariableLengthDataTuple.value, List.getD_eq_getElem _ _ length,
    List.getElem_map]

/-- A row matches if its filter lets the values pass. -/
theorem matches_map_iff
    (named : ∀ handle, filter handle ≠ [] → handle ∈ prototype)
    (values : Filter) :
    VariableLengthDataTupleSet.Matches (prototype.map values) (prototype.map filter)
        prototype.length ↔ filter.Passes values := by
  constructor
  · intro matched handle given
    obtain ⟨column, inside, rfl⟩ := List.mem_iff_getElem.mp (named handle given)
    have agrees := matched column inside
    rw [value_map values inside, value_map filter inside] at agrees
    obtain empty | absurdity | same := agrees
    · exact Or.inl empty
    · exact absurd absurdity given
    · exact Or.inr same.symm
  · intro passes column inside
    rw [value_map values inside, value_map filter inside]
    by_cases given : filter prototype[column] = []
    · exact Or.inr (Or.inl given)
    · obtain empty | same := passes _ given
      · exact Or.inl empty
      · exact Or.inr (Or.inr same.symm)

variable {self : FilteredInteractionClass} {held : ConnectHandle → Set Filter}

theorem Keeps.matchesHeld (keeps : self.Keeps held) : self.MatchesHeld held := by
  intro connectHandle parameterValues
  rw [isMatching]
  cases found : self.parameterFiltersByConnect.find? connectHandle with
  | none =>
      exact iff_of_true rfl (Or.inl (keeps.absent connectHandle found))
  | some set =>
      have holds := keeps.present connectHandle set found
      rw [holds.filters_eq_empty_iff]
      by_cases none : set.impl = []
      · dsimp only
        rw [if_pos none]
        exact iff_of_true rfl (Or.inl none)
      · have width : (self.normalizeFilterValues parameterValues).2.length =
            set.tupleSize := by
          rw [normalizeFilterValues_eq, List.length_map, holds.sized none]
        have looked := holds.indexed.findNormalized_iff none width
        dsimp only
        rw [if_neg none, looked, or_iff_right none, holds.sized none,
          normalizeFilterValues_eq]
        constructor
        · rintro ⟨row, member, matched⟩
          obtain ⟨filter, inside, rfl⟩ := (holds.rows row).mp member
          exact ⟨filter, inside,
            (matches_map_iff (holds.named filter inside) _).mp matched⟩
        · rintro ⟨filter, inside, passes⟩
          exact ⟨_, (holds.rows _).mpr ⟨filter, inside, rfl⟩,
            (matches_map_iff (holds.named filter inside) _).mpr passes⟩

/-! ## Calls -/

inductive FilterCall
  | updateParameterFilterValues
      (connectHandle : ConnectHandle)
      (parameterFilters : List ParameterValue)
      (remove : Bool)
  | clearParameterFilters (connectHandle : ConnectHandle)

/-- The updates of the filters of a class, from one without filters. -/
def filterUpdates (interactionClass : InteractionClass) :
    TransitionSystem FilteredInteractionClass FilterCall where
  initial := { toInteractionClass := interactionClass }
  next self call :=
    match call with
    | .updateParameterFilterValues connectHandle parameterFilters remove =>
        (self.updateParameterFilterValues connectHandle parameterFilters remove).map
          Prod.fst
    | .clearParameterFilters connectHandle =>
        some (self.clearParameterFilters connectHandle).1

/-- The filters that the connects have added and not removed.  A removal without
values removes all filters. -/
def heldAfter (held : ConnectHandle → Set Filter) :
    FilterCall → ConnectHandle → Set Filter
  | .updateParameterFilterValues connectHandle parameterFilters remove =>
      if connectHandle = invalidHandle then held
      else
        Function.update held connectHandle
          (if remove = false then
            insert (asFilter parameterFilters) (held connectHandle)
          else if parameterFilters = [] then ∅
          else held connectHandle \ {asFilter parameterFilters})
  | .clearParameterFilters connectHandle =>
      if connectHandle = invalidHandle then held
      else Function.update held connectHandle ∅

/-- No connect other than one has a filter. -/
def NoneBut (connectHandle : Option ConnectHandle) (self : FilteredInteractionClass) :
    Prop :=
  ∀ other set, some other ≠ connectHandle →
    self.parameterFiltersByConnect.find? other = some set → set.impl = []

/-- All parameters of a filter have been named before. -/
def Knows (parameterFilters : List ParameterValue) (self : FilteredInteractionClass) :
    Prop :=
  extendPrototype self.parameterFilterKeyPrototype parameterFilters =
    self.parameterFilterKeyPrototype

/-- The first filter of a connect names a new parameter only if no other connect has a
filter.  A removal is for a connect that has an entry.  It removes a row that can be
removed, and names a new parameter only if there are no filters. -/
def KeepsFilters (self : FilteredInteractionClass) : FilterCall → Prop
  | .updateParameterFilterValues connectHandle parameterFilters false =>
      connectHandle = invalidHandle ∨
        (self.parameterFiltersByConnect.find? connectHandle).isSome ∨
        self.Knows parameterFilters ∨ self.NoneBut (some connectHandle)
  | .updateParameterFilterValues connectHandle parameterFilters true =>
      connectHandle = invalidHandle ∨
        ∃ set, self.parameterFiltersByConnect.find? connectHandle = some set ∧
          (parameterFilters = [] ∨ self.NoneBut none ∨
            self.Knows parameterFilters ∧
              Removable set
                (self.parameterFilterKeyPrototype.map (asFilter parameterFilters)))
  | .clearParameterFilters _ => True

theorem keeps_initial (interactionClass : InteractionClass) :
    Keeps { toInteractionClass := interactionClass } fun _ => ∅ where
  absent _ _ := rfl
  present _ _ absurdity := by cases absurdity

variable {connectHandle : ConnectHandle}

/-- One entry is set, and those of the other connects are given. -/
theorem Keeps.of_entries
    {filters : Set Filter}
    (given : ∀ other, other ≠ connectHandle →
      (self.parameterFiltersByConnect.find? other = none → held other = ∅) ∧
        ∀ set, self.parameterFiltersByConnect.find? other = some set →
          Holds self.parameterFilterKeyPrototype set (held other))
    (absent : self.parameterFiltersByConnect.find? connectHandle = none →
      filters = ∅)
    (present : ∀ set, self.parameterFiltersByConnect.find? connectHandle = some set →
      Holds self.parameterFilterKeyPrototype set filters) :
    self.Keeps (Function.update held connectHandle filters) := by
  refine ⟨?_, ?_⟩
  · intro other none
    by_cases same : other = connectHandle
    · subst same
      rw [Function.update_self]
      exact absent none
    · rw [Function.update_of_ne same]
      exact (given other same).1 none
  · intro other set found
    by_cases same : other = connectHandle
    · subst same
      rw [Function.update_self]
      exact present set found
    · rw [Function.update_of_ne same]
      exact (given other same).2 set found

theorem Keeps.clearParameterFilters
    (keeps : self.Keeps held) (connectHandle : ConnectHandle) :
    (self.clearParameterFilters connectHandle).1.Keeps
      (heldAfter held (.clearParameterFilters connectHandle)) := by
  rw [FilteredInteractionClass.clearParameterFilters, heldAfter]
  split
  next => exact keeps
  next =>
    cases found : self.parameterFiltersByConnect.find? connectHandle with
    | none =>
        have empty := keeps.absent connectHandle found
        rw [← empty, Function.update_eq_self]
        exact keeps
    | some set =>
        refine Keeps.of_entries ?_ (fun _ => rfl) ?_
        · intro other different
          dsimp only
          rw [OrderedMap.find?_erase, if_neg different]
          exact ⟨keeps.absent other, keeps.present other⟩
        · intro set absurdity
          dsimp only at absurdity
          rw [OrderedMap.find?_erase, if_pos rfl] at absurdity
          cases absurdity

theorem named_extendPrototype
    (prototype : List ParameterHandle)
    (parameterFilters : List ParameterValue) (handle : ParameterHandle)
    (given : asFilter parameterFilters handle ≠ []) :
    handle ∈ extendPrototype prototype parameterFilters := by
  obtain ⟨item, member, rfl⟩ := mem_of_asFilter_ne given
  obtain ⟨_, _, _, all⟩ := exists_extendPrototype prototype parameterFilters
  exact all item member

/-- What is added to the rows of a connect. -/
theorem Holds.addParameterFilterValues
    {parameterFilters : List ParameterValue}
    (holds : Holds self.parameterFilterKeyPrototype set filters) :
    Holds (extendPrototype self.parameterFilterKeyPrototype parameterFilters)
      (self.addParameterFilterValues set parameterFilters).2.1
      (insert (asFilter parameterFilters) filters) := by
  obtain ⟨new, extended, fresh, _⟩ :=
    exists_extendPrototype self.parameterFilterKeyPrototype parameterFilters
  have named := named_extendPrototype self.parameterFilterKeyPrototype
    parameterFilters
  have added := @Holds.add _ new _ _ (asFilter parameterFilters) holds fresh
    (by rw [← extended]; exact named)
  rw [← extended] at added
  have result : (self.addParameterFilterValues set parameterFilters).2.1 =
      if (extendPrototype self.parameterFilterKeyPrototype parameterFilters).map
          (asFilter parameterFilters) ∈ set.impl then set
      else set.insert ((extendPrototype self.parameterFilterKeyPrototype
        parameterFilters).map (asFilter parameterFilters)) := by
    rw [FilteredInteractionClass.addParameterFilterValues]
    simp only [normalizeFilterValues_eq, updatePrototype,
      VariableLengthDataTupleSet.contains, List.contains_iff_mem]
    split
    · rfl
    · rfl
  rw [result]
  exact added

theorem addParameterFilterValues_fst
    (self : FilteredInteractionClass) (set : VariableLengthDataTupleSet)
    (parameterFilters : List ParameterValue) :
    (self.addParameterFilterValues set parameterFilters).1 =
      self.updatePrototype parameterFilters := by
  rw [FilteredInteractionClass.addParameterFilterValues]
  split
  · rfl
  · rfl

theorem removeParameterFilterValues_fst
    (self : FilteredInteractionClass) (set : VariableLengthDataTupleSet)
    (parameterFilters : List ParameterValue) :
    (self.removeParameterFilterValues set parameterFilters).1 =
      self.updatePrototype parameterFilters := by
  rw [FilteredInteractionClass.removeParameterFilterValues]
  split
  · rfl
  · rfl

variable {parameterFilters : List ParameterValue}

/-- The rows of a connect after a filter of another one that does not widen them. -/
theorem Keeps.present_extend
    (keeps : self.Keeps held)
    {other : ConnectHandle}
    (found : self.parameterFiltersByConnect.find? other = some set)
    (narrow : self.Knows parameterFilters ∨ set.impl = []) :
    Holds (extendPrototype self.parameterFilterKeyPrototype parameterFilters) set
      (held other) := by
  have holds := keeps.present other set found
  obtain known | none := narrow
  · rw [known]
    exact holds
  · obtain ⟨new, extended, _⟩ :=
      exists_extendPrototype self.parameterFilterKeyPrototype parameterFilters
    rw [extended]
    exact holds.extend_empty none new

/-- The first filter of a connect. -/
theorem Keeps.addFirst
    (keeps : self.Keeps held)
    (valid : connectHandle ≠ invalidHandle)
    (absent : self.parameterFiltersByConnect.find? connectHandle = none)
    (narrow : self.Knows parameterFilters ∨ self.NoneBut (some connectHandle)) :
    ∃ after, self.updateParameterFilterValues connectHandle parameterFilters false =
        some (after, true) ∧
      after.Keeps (Function.update held connectHandle
        (insert (asFilter parameterFilters) (held connectHandle))) := by
  refine ⟨_, by
    rw [updateParameterFilterValues.eq_def, if_neg valid, absent], ?_⟩
  have added := @Holds.addParameterFilterValues _ _ self parameterFilters
    (holds_empty self.parameterFilterKeyPrototype)
  refine Keeps.of_entries ?_ ?_ ?_
  · intro other different
    dsimp only
    rw [OrderedMap.find?_insert, if_neg different, addParameterFilterValues_fst]
    refine ⟨keeps.absent other, ?_⟩
    intro set found
    refine keeps.present_extend found (narrow.imp_right fun none => ?_)
    exact none other set (by simpa using different) found
  · intro absurdity
    dsimp only at absurdity
    rw [OrderedMap.find?_insert, if_pos rfl] at absurdity
    cases absurdity
  · intro set found
    dsimp only at found ⊢
    rw [OrderedMap.find?_insert, if_pos rfl, absent, Option.getD_none] at found
    cases found
    rw [addParameterFilterValues_fst, keeps.absent connectHandle absent]
    exact added

/-- Another filter of a connect brings all rows to the new width. -/
theorem Keeps.addAnother
    (keeps : self.Keeps held)
    (valid : connectHandle ≠ invalidHandle)
    (found : self.parameterFiltersByConnect.find? connectHandle = some set)
    (parameterFilters : List ParameterValue) :
    ∃ after changed,
      self.updateParameterFilterValues connectHandle parameterFilters false =
        some (after, changed) ∧
      after.Keeps (Function.update held connectHandle
        (insert (asFilter parameterFilters) (held connectHandle))) := by
  refine ⟨_, _, by
    rw [updateParameterFilterValues.eq_def, if_neg valid, found], ?_⟩
  have added := @Holds.addParameterFilterValues _ _ self parameterFilters
    (keeps.present connectHandle set found)
  refine Keeps.of_entries ?_ ?_ ?_
  · intro other different
    dsimp only
    rw [OrderedMap.find?_set, if_neg different, OrderedMap.find?_mapValues,
      addParameterFilterValues_fst]
    constructor
    · intro none
      exact keeps.absent other (Option.map_eq_none_iff.mp none)
    · intro resized present
      obtain ⟨before, held, rfl⟩ := Option.map_eq_some_iff.mp present
      obtain ⟨new, extended, fresh, _⟩ :=
        exists_extendPrototype self.parameterFilterKeyPrototype parameterFilters
      rw [updatePrototype, extended]
      exact (keeps.present other before held).setTupleSize fresh
  · intro absurdity
    dsimp only at absurdity
    rw [OrderedMap.find?_set, if_pos rfl] at absurdity
    cases absurdity
  · intro changed present
    dsimp only at present ⊢
    rw [OrderedMap.find?_set, if_pos rfl] at present
    cases present
    rw [addParameterFilterValues_fst]
    exact added

/-- What is left of the rows of a connect. -/
theorem Holds.removeParameterFilterValues
    (holds : Holds self.parameterFilterKeyPrototype set filters)
    (removable : set.impl = [] ∨ self.Knows parameterFilters ∧
      Removable set
        (self.parameterFilterKeyPrototype.map (asFilter parameterFilters))) :
    Holds (extendPrototype self.parameterFilterKeyPrototype parameterFilters)
      (self.removeParameterFilterValues set parameterFilters).2.1
      (filters \ {asFilter parameterFilters}) := by
  have named := named_extendPrototype self.parameterFilterKeyPrototype
    parameterFilters
  have result : (self.removeParameterFilterValues set parameterFilters).2.1 =
      if (extendPrototype self.parameterFilterKeyPrototype parameterFilters).map
          (asFilter parameterFilters) ∈ set.impl then
        (set.erase ((extendPrototype self.parameterFilterKeyPrototype
          parameterFilters).map (asFilter parameterFilters))).1
      else set := by
    rw [FilteredInteractionClass.removeParameterFilterValues]
    simp only [normalizeFilterValues_eq, updatePrototype,
      VariableLengthDataTupleSet.contains, List.contains_iff_mem]
    split
    · rfl
    · rfl
  rw [result]
  obtain none | ⟨known, removable⟩ := removable
  · have empty := holds.filters_eq_empty_iff.mpr none
    subst empty
    rw [Set.empty_sdiff, if_neg (by rw [none]; exact List.not_mem_nil)]
    obtain ⟨new, extended, _⟩ :=
      exists_extendPrototype self.parameterFilterKeyPrototype parameterFilters
    rw [extended]
    exact holds.extend_empty none new
  · rw [known] at named ⊢
    exact holds.remove named removable

theorem Keeps.remove
    (keeps : self.Keeps held)
    (valid : connectHandle ≠ invalidHandle)
    (found : self.parameterFiltersByConnect.find? connectHandle = some set)
    (removable : parameterFilters = [] ∨ self.NoneBut none ∨
      self.Knows parameterFilters ∧
        Removable set
          (self.parameterFilterKeyPrototype.map (asFilter parameterFilters))) :
    ∃ after changed,
      self.updateParameterFilterValues connectHandle parameterFilters true =
        some (after, changed) ∧
      after.Keeps (Function.update held connectHandle
        (if parameterFilters = [] then ∅
          else held connectHandle \ {asFilter parameterFilters})) := by
  refine ⟨_, _, by
    rw [updateParameterFilterValues.eq_def, if_neg valid, found], ?_⟩
  have narrow : ∀ other set,
      self.parameterFiltersByConnect.find? other = some set →
        self.Knows parameterFilters ∨ set.impl = [] := by
    intro other set present
    obtain rfl | none | ⟨known, _⟩ := removable
    · exact Or.inl rfl
    · exact Or.inr (none other set (by simp) present)
    · exact Or.inl known
  refine Keeps.of_entries ?_ ?_ ?_
  · intro other different
    dsimp only
    rw [removeParameterFilterValues_fst]
    have same : (if parameterFilters = [] then
          self.parameterFiltersByConnect.erase connectHandle
        else self.parameterFiltersByConnect.set connectHandle
          (self.removeParameterFilterValues set parameterFilters).2.1).find? other =
        self.parameterFiltersByConnect.find? other := by
      split
      · rw [OrderedMap.find?_erase, if_neg different]
      · rw [OrderedMap.find?_set, if_neg different]
    rw [same]
    exact ⟨keeps.absent other, fun set present =>
      keeps.present_extend present (narrow other set present)⟩
  · dsimp only
    split
    · exact fun _ => rfl
    · intro absurdity
      rw [OrderedMap.find?_set, if_pos rfl] at absurdity
      cases absurdity
  · dsimp only
    rw [removeParameterFilterValues_fst]
    split
    · intro set absurdity
      rw [OrderedMap.find?_erase, if_pos rfl] at absurdity
      cases absurdity
    · rename_i given
      intro changed present
      rw [OrderedMap.find?_set, if_pos rfl] at present
      cases present
      refine (keeps.present connectHandle set found).removeParameterFilterValues ?_
      exact (removable.resolve_left given).imp_left fun none =>
        none connectHandle set (by simp) found

/-! ## Runs -/

/-- A call that meets the condition does to the filters what it is to do. -/
theorem Keeps.step
    {interactionClass : InteractionClass}
    (keeps : self.Keeps held)
    {call : FilterCall}
    (admitted : self.KeepsFilters call) :
    ∃ after, (filterUpdates interactionClass).next self call = some after ∧
      after.Keeps (heldAfter held call) := by
  cases call with
  | clearParameterFilters connectHandle =>
      exact ⟨_, rfl, keeps.clearParameterFilters connectHandle⟩
  | updateParameterFilterValues connectHandle parameterFilters remove =>
      by_cases valid : connectHandle = invalidHandle
      · refine ⟨self, ?_, ?_⟩
        · change (self.updateParameterFilterValues _ _ _).map Prod.fst = _
          rw [updateParameterFilterValues.eq_def, if_pos valid]
          rfl
        · rw [heldAfter, if_pos valid]
          exact keeps
      · rw [heldAfter, if_neg valid]
        cases remove with
        | false =>
            rw [if_pos rfl]
            have narrow := admitted.resolve_left valid
            cases found : self.parameterFiltersByConnect.find? connectHandle with
            | none =>
                rw [found] at narrow
                obtain ⟨after, defined, kept⟩ := keeps.addFirst valid found
                  (narrow.resolve_left Bool.false_ne_true)
                exact ⟨after, congrArg (Option.map Prod.fst) defined, kept⟩
            | some set =>
                obtain ⟨after, _, defined, kept⟩ :=
                  keeps.addAnother valid found parameterFilters
                exact ⟨after, congrArg (Option.map Prod.fst) defined, kept⟩
        | true =>
            rw [if_neg (by simp)]
            obtain ⟨set, found, removable⟩ := admitted.resolve_left valid
            obtain ⟨after, _, defined, kept⟩ := keeps.remove valid found removable
            exact ⟨after, congrArg (Option.map Prod.fst) defined, kept⟩

/-- In a run whose calls all meet the condition, values match in the end exactly if
the connect has no filter or they pass one of those that it has added and not
removed. -/
theorem run_matchesHeld
    (interactionClass : InteractionClass)
    (calls : List FilterCall)
    (admitted : ∀ past call before,
      past ++ [call] <+: calls →
      (filterUpdates interactionClass).run (filterUpdates interactionClass).initial
        past = some before →
      before.KeepsFilters call) :
    ∃ final,
      (filterUpdates interactionClass).run (filterUpdates interactionClass).initial
        calls = some final ∧
      final.MatchesHeld (calls.foldl heldAfter fun _ => ∅) := by
  have kept := @TransitionSystem.run_kept _ _ _ (filterUpdates interactionClass)
    heldAfter (fun _ => ∅)
    (fun state held => ∃ final, state = some final ∧ final.Keeps held)
    KeepsFilters ⟨_, rfl, keeps_initial interactionClass⟩
    (by
      rintro _ held call ⟨before, rfl, keeps⟩ admits
      exact keeps.step (admits before rfl))
    calls admitted
  obtain ⟨final, finished, keeps⟩ := kept
  exact ⟨final, finished, keeps.matchesHeld⟩

/-- Two connects have filters for the same parameter. -/
theorem run_matchesHeld_two_connects :
    ∃ final,
      (filterUpdates { interactionClassHandle := 0, name := [] }).run
        (filterUpdates { interactionClassHandle := 0, name := [] }).initial
        [.updateParameterFilterValues 1 [⟨7, [65]⟩] false,
          .updateParameterFilterValues 2 [⟨7, [66]⟩] false] = some final ∧
      final.MatchesHeld
        ([.updateParameterFilterValues 1 [⟨7, [65]⟩] false,
          .updateParameterFilterValues 2 [⟨7, [66]⟩] false].foldl heldAfter
            fun _ => ∅) := by
  refine run_matchesHeld _ _ ?_
  intro past call before begins ran
  obtain ⟨rest, split⟩ := begins
  match past with
  | [] =>
      cases split
      cases ran
      exact Or.inr (Or.inr (Or.inr fun _ _ _ absurdity => by cases absurdity))
  | [first] =>
      cases split
      cases ran
      exact Or.inr (Or.inr (Or.inl rfl))
  | first :: second :: more =>
      have length := congrArg List.length split
      simp at length

/-- The first filter of a second connect names another parameter. -/
theorem run_matchesHeld_fails :
    ¬ ∀ (interactionClass : InteractionClass) (calls : List FilterCall),
      ∃ final,
        (filterUpdates interactionClass).run (filterUpdates interactionClass).initial
          calls = some final ∧
        final.MatchesHeld (calls.foldl heldAfter fun _ => ∅) := by
  intro all
  obtain ⟨final, ran, matching⟩ := all { interactionClassHandle := 0, name := [] }
    [.updateParameterFilterValues 1 [⟨7, [65]⟩] false,
      .updateParameterFilterValues 2 [⟨8, [66]⟩] false]
  cases ran
  have found := (matching 1 []).mpr
    (Or.inr ⟨asFilter [⟨7, [65]⟩], Set.mem_insert _ _, fun _ _ => Or.inl rfl⟩)
  exact absurd found (by decide)

end FilteredInteractionClass

end ServerModel
end OpenRTI
