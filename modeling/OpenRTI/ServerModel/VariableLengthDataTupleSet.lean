import Mathlib.Data.List.GetD
import Mathlib.Data.List.InsertIdx
import OpenRTI.Foundation.ListIndices
import OpenRTI.Foundation.TransitionSystem
import OpenRTI.Types

/-!
# Sets of filter tuples

A row of the set holds a value for each parameter, of which the empty one
matches anything.  For each column the set knows the rows in which a value
matches, and those in which every value does, so that a tuple is looked up
without reading the rows.
-/

namespace OpenRTI
namespace ServerModel

open Foundation

abbrev VariableLengthDataTuple := List VariableLengthData

/-- The value of a column; a column that a tuple does not have is empty. -/
def VariableLengthDataTuple.value
    (self : VariableLengthDataTuple)
    (column : Nat) : VariableLengthData :=
  self.getD column []

/-- New columns are empty. -/
def VariableLengthDataTuple.resize
    (self : VariableLengthDataTuple)
    (newSize : Nat) : VariableLengthDataTuple :=
  self.take newSize ++ List.replicate (newSize - self.length) []

/-- The rows of one column by their values, and those with the empty value. -/
structure ColumnIndexSets where
  valueIndexSet : VariableLengthData → Option (Finset Nat) := fun _ => none
  wildcardIndexSet : Finset Nat := ∅

namespace ColumnIndexSets

/-- Enter a row that has a value in this column. -/
def addColumnValueToIndexSets
    (self : ColumnIndexSets)
    (value : VariableLengthData)
    (rowIndex : Nat) : ColumnIndexSets :=
  let entered : VariableLengthData → Option (Finset Nat) := fun other =>
    if other = value then
      some (((self.valueIndexSet value).getD ∅ ∪ self.wildcardIndexSet) ∪
        {rowIndex})
    else self.valueIndexSet other
  if value = [] then
    let wildcardIndexSet := insert rowIndex self.wildcardIndexSet
    { valueIndexSet := fun other =>
        (entered other).map (· ∪ wildcardIndexSet)
      wildcardIndexSet := wildcardIndexSet }
  else { self with valueIndexSet := entered }

/-- Remove a row.  The rows behind it move up in the sets of the values, and
values that match no row are forgotten; the wildcards keep their indices. -/
def removeRowFromIndexSets
    (self : ColumnIndexSets)
    (rowIndex : Nat) : ColumnIndexSets where
  valueIndexSet := fun value =>
    (self.valueIndexSet value).bind fun rows =>
      let modified := eraseIndex rowIndex rows
      if modified = ∅ then none else some modified
  wildcardIndexSet := self.wildcardIndexSet.erase rowIndex

/-- The rows that match a value. -/
def find
    (self : ColumnIndexSets)
    (value : VariableLengthData) : Finset Nat :=
  (self.valueIndexSet value).getD self.wildcardIndexSet

end ColumnIndexSets

/-- The rows with the index sets of their columns. -/
structure VariableLengthDataTupleSet where
  tupleSize : Nat := 0
  impl : List VariableLengthDataTuple := []
  indexSets : List ColumnIndexSets := []

namespace VariableLengthDataTupleSet

/-- Add columns, in which every row present is a wildcard. -/
def setTupleSize
    (self : VariableLengthDataTupleSet)
    (newTupleSize : Nat) : VariableLengthDataTupleSet :=
  if self.tupleSize < newTupleSize then
    { tupleSize := newTupleSize
      impl := self.impl.map (·.resize newTupleSize)
      indexSets := self.indexSets ++
        List.replicate (newTupleSize - self.tupleSize)
          { wildcardIndexSet := Finset.range self.impl.length } }
  else self

/-- Enter the values of a row in the columns that it has. -/
def addRow (rowIndex : Nat) :
    List ColumnIndexSets → VariableLengthDataTuple → List ColumnIndexSets
  | columns, [] => columns
  | [], _ :: _ => []
  | column :: columns, value :: values =>
      column.addColumnValueToIndexSets value rowIndex ::
        addRow rowIndex columns values

def insert
    (self : VariableLengthDataTupleSet)
    (newTuple : VariableLengthDataTuple) : VariableLengthDataTupleSet :=
  let sized := self.setTupleSize newTuple.length
  { sized with
    impl := sized.impl ++ [newTuple]
    indexSets := addRow sized.impl.length sized.indexSets newTuple }

/-- Remove a row from the columns that it has. -/
def removeRow (rowIndex : Nat) :
    List ColumnIndexSets → VariableLengthDataTuple → List ColumnIndexSets
  | columns, [] => columns
  | [], _ :: _ => []
  | column :: columns, _ :: values =>
      column.removeRowFromIndexSets rowIndex ::
        removeRow rowIndex columns values

/-- Erase the first row that equals a tuple. -/
def erase
    (self : VariableLengthDataTupleSet)
    (ref : VariableLengthDataTuple) : VariableLengthDataTupleSet × Bool :=
  if ref ∈ self.impl then
    let rowIndex := self.impl.idxOf ref
    ({ self with
        impl := self.impl.eraseIdx rowIndex
        indexSets := removeRow rowIndex self.indexSets ref }, true)
  else (self, false)

/-- The rows that match, for each column with a value to look up. -/
def resultIndexSets :
    List ColumnIndexSets → VariableLengthDataTuple → List (Finset Nat)
  | [], _ => []
  | _ :: _, [] => []
  | column :: columns, value :: values =>
      if value = [] then resultIndexSets columns values
      else column.find value :: resultIndexSets columns values

/-- Whether a tuple matches some row. -/
def findNormalized
    (self : VariableLengthDataTupleSet)
    (valueTuple : VariableLengthDataTuple) : Bool :=
  if valueTuple.length ≠ self.tupleSize then false
  else
    match resultIndexSets self.indexSets valueTuple with
    | [] => true
    | first :: others => others.foldl (· ∩ ·) first ≠ ∅

end VariableLengthDataTupleSet

/-! ## One column -/

/-- Whether a cell matches a value that is looked up. -/
def matchesValue (value cell : VariableLengthData) : Bool :=
  cell = value ∨ cell = []

/-- Whether a cell matches any value. -/
def isWildcard (cell : VariableLengthData) : Bool :=
  cell = []

namespace ColumnIndexSets

/-- The index sets describe the cells of a column. -/
structure Indexes
    (column : ColumnIndexSets)
    (cells : List VariableLengthData) : Prop where
  wildcards : column.wildcardIndexSet = indices isWildcard cells
  present :
    ∀ value rows, column.valueIndexSet value = some rows →
      rows = indices (matchesValue value) cells
  absent :
    ∀ value, column.valueIndexSet value = none → value ≠ [] → value ∉ cells

theorem indices_wildcard_subset
    (value : VariableLengthData) (cells : List VariableLengthData) :
    indices isWildcard cells ⊆ indices (matchesValue value) cells := by
  intro index member
  obtain ⟨cell, found, empty⟩ := mem_indices.mp member
  refine mem_indices.mpr ⟨cell, found, ?_⟩
  rw [isWildcard, decide_eq_true_iff] at empty
  rw [matchesValue, decide_eq_true_iff]
  exact Or.inr empty

/-- A value that no cell has is matched by the wildcards only. -/
theorem indices_matchesValue_of_notMem
    {value : VariableLengthData} {cells : List VariableLengthData}
    (absent : value ∉ cells) :
    indices (matchesValue value) cells = indices isWildcard cells := by
  refine Finset.Subset.antisymm ?_ (indices_wildcard_subset value cells)
  intro index member
  obtain ⟨cell, found, matched⟩ := mem_indices.mp member
  rw [matchesValue, decide_eq_true_iff] at matched
  refine mem_indices.mpr ⟨cell, found, ?_⟩
  rw [isWildcard, decide_eq_true_iff]
  refine matched.resolve_left ?_
  intro same
  rw [← same] at absent
  exact absent (List.mem_of_getElem? found)

theorem indices_matchesValue_nil (cells : List VariableLengthData) :
    indices (matchesValue []) cells = indices isWildcard cells := by
  congr 1
  funext cell
  simp [matchesValue, isWildcard]

namespace Indexes

variable {column : ColumnIndexSets} {cells : List VariableLengthData}

/-- The rows that match a value are found. -/
theorem find
    (indexes : column.Indexes cells)
    {value : VariableLengthData}
    (given : value ≠ []) :
    column.find value = indices (matchesValue value) cells := by
  rw [ColumnIndexSets.find]
  cases known : column.valueIndexSet value with
  | some rows => exact indexes.present value rows known
  | none =>
      rw [Option.getD_none, indexes.wildcards,
        indices_matchesValue_of_notMem (indexes.absent value known given)]

/-- What is known of a value, with the wildcards. -/
theorem known_union
    (indexes : column.Indexes cells) (value : VariableLengthData) :
    (column.valueIndexSet value).getD ∅ ∪ column.wildcardIndexSet =
      indices (matchesValue value) cells := by
  rw [indexes.wildcards]
  cases known : column.valueIndexSet value with
  | some rows =>
      rw [Option.getD_some, indexes.present value rows known]
      exact Finset.union_eq_left.mpr (indices_wildcard_subset value cells)
  | none =>
      rw [Option.getD_none, Finset.empty_union]
      by_cases given : value = []
      · rw [given, indices_matchesValue_nil]
      · rw [indices_matchesValue_of_notMem (indexes.absent value known given)]

theorem addColumnValueToIndexSets
    (indexes : column.Indexes cells) (value : VariableLengthData) :
    (column.addColumnValueToIndexSets value cells.length).Indexes
      (cells ++ [value]) := by
  have self : matchesValue value value = true := by simp [matchesValue]
  have entered :
      ((column.valueIndexSet value).getD ∅ ∪ column.wildcardIndexSet) ∪
          {cells.length} =
        indices (matchesValue value) (cells ++ [value]) := by
    rw [indexes.known_union, indices_concat, if_pos self, Finset.union_comm]
    rfl
  by_cases empty : value = []
  · have wild : isWildcard value = true := decide_eq_true empty
    have wildcards : insert cells.length column.wildcardIndexSet =
        indices isWildcard (cells ++ [value]) := by
      rw [indices_concat, if_pos wild, indexes.wildcards]
    refine ⟨?_, ?_, ?_⟩
    · rw [ColumnIndexSets.addColumnValueToIndexSets, if_pos empty]
      exact wildcards
    · intro other rows known
      rw [ColumnIndexSets.addColumnValueToIndexSets, if_pos empty] at known
      dsimp only at known
      rw [wildcards] at known
      split at known
      next same =>
        rw [entered] at known
        injection known with equal
        rw [← equal, same]
        exact Finset.union_eq_left.mpr (indices_wildcard_subset _ _)
      next different =>
        obtain ⟨before, present, rfl⟩ := Option.map_eq_some_iff.mp known
        have matched : matchesValue other value = true := by
          simp [matchesValue, empty]
        rw [indexes.present other before present, indices_concat,
          indices_concat, if_pos wild, if_pos matched, Finset.union_insert,
          Finset.union_eq_left.mpr (indices_wildcard_subset _ _)]
    · intro other unknown given
      rw [ColumnIndexSets.addColumnValueToIndexSets, if_pos empty] at unknown
      dsimp only at unknown
      rw [if_neg (by rw [empty]; exact given), Option.map_eq_none_iff]
        at unknown
      rw [List.mem_append, List.mem_singleton, empty, not_or]
      exact ⟨indexes.absent other unknown given, given⟩
  · have tame : ¬ isWildcard value = true := by simpa [isWildcard] using empty
    refine ⟨?_, ?_, ?_⟩
    · rw [ColumnIndexSets.addColumnValueToIndexSets, if_neg empty,
        indices_concat, if_neg tame]
      exact indexes.wildcards
    · intro other rows known
      rw [ColumnIndexSets.addColumnValueToIndexSets, if_neg empty] at known
      dsimp only at known
      split at known
      next same =>
        rw [entered] at known
        injection known with equal
        rw [← equal, same]
      next different =>
        have unmatched : ¬ matchesValue other value = true := by
          simpa [matchesValue, empty] using Ne.symm different
        rw [indices_concat, if_neg unmatched]
        exact indexes.present other rows known
    · intro other unknown given
      rw [ColumnIndexSets.addColumnValueToIndexSets, if_neg empty] at unknown
      dsimp only at unknown
      split at unknown
      next => cases unknown
      next different =>
        rw [List.mem_append, List.mem_singleton, not_or]
        exact ⟨indexes.absent other unknown given, different⟩

/-- Removing a row keeps the index sets right unless there is a wildcard behind
it. -/
theorem removeRowFromIndexSets
    (indexes : column.Indexes cells)
    {rowIndex : Nat}
    (last : ∀ index ∈ column.wildcardIndexSet, index ≤ rowIndex) :
    (column.removeRowFromIndexSets rowIndex).Indexes
      (cells.eraseIdx rowIndex) := by
  refine ⟨?_, ?_, ?_⟩
  · rw [indices_eraseIdx, ← indexes.wildcards, eraseIndex_eq_erase last]
    rfl
  · intro value rows known
    obtain ⟨before, present, modified⟩ := Option.bind_eq_some_iff.mp known
    dsimp only at modified
    split at modified
    next => cases modified
    next =>
      injection modified with equal
      rw [← equal, indices_eraseIdx, indexes.present value before present]
  · intro value unknown given member
    have before := List.mem_of_mem_eraseIdx member
    cases present : column.valueIndexSet value with
    | none => exact indexes.absent value present given before
    | some rows =>
        rw [ColumnIndexSets.removeRowFromIndexSets] at unknown
        dsimp only at unknown
        rw [present, Option.bind_some] at unknown
        split at unknown
        next none =>
          rw [indexes.present value rows present, ← indices_eraseIdx] at none
          have some : (indices (matchesValue value)
              (cells.eraseIdx rowIndex)).Nonempty :=
            indices_nonempty_iff.mpr ⟨value, member, by simp [matchesValue]⟩
          exact some.ne_empty none
        next => cases unknown

/-- A new column of empty cells. -/
theorem replicate (count : Nat) :
    Indexes { wildcardIndexSet := Finset.range count }
      (List.replicate count []) where
  wildcards := by
    rw [indices_eq_range, List.length_replicate]
    intro cell member
    rw [List.eq_of_mem_replicate member]
    rfl
  present _ _ known := by cases known
  absent value _ given member := given (List.eq_of_mem_replicate member)

end Indexes
end ColumnIndexSets

namespace VariableLengthDataTupleSet

/-! ## All columns -/

/-- The cells of one column. -/
def cells
    (self : VariableLengthDataTupleSet)
    (column : Nat) : List VariableLengthData :=
  self.impl.map (·.value column)

/-- The rows have all columns, and the index sets describe them. -/
structure Indexed (set : VariableLengthDataTupleSet) : Prop where
  width : set.indexSets.length = set.tupleSize
  rows : ∀ row ∈ set.impl, row.length = set.tupleSize
  columns :
    ∀ (index : Nat) (column : ColumnIndexSets),
      set.indexSets[index]? = some column → column.Indexes (set.cells index)

variable {columns : List ColumnIndexSets} {values : VariableLengthDataTuple}
variable (rowIndex : Nat)

theorem addRow_eq_zipWith
    (all : columns.length = values.length) :
    addRow rowIndex columns values =
      List.zipWith (fun column value =>
        column.addColumnValueToIndexSets value rowIndex) columns values := by
  induction columns generalizing values with
  | nil =>
      rw [List.length_eq_zero_iff.mp all.symm]
      rfl
  | cons column columns ih =>
      cases values with
      | nil => cases all
      | cons value values =>
          rw [addRow, ih (Nat.succ.inj all)]
          rfl

theorem removeRow_eq_map
    (all : columns.length = values.length) :
    removeRow rowIndex columns values =
      columns.map (·.removeRowFromIndexSets rowIndex) := by
  induction columns generalizing values with
  | nil =>
      rw [List.length_eq_zero_iff.mp all.symm]
      rfl
  | cons column columns ih =>
      cases values with
      | nil => cases all
      | cons value values =>
          rw [removeRow, ih (Nat.succ.inj all)]
          rfl

variable {row : VariableLengthDataTuple} {newSize : Nat}

theorem value_resize
    (within : row.length ≤ newSize)
    (column : Nat) :
    (row.resize newSize).value column = row.value column := by
  rw [VariableLengthDataTuple.resize, List.take_of_length_le within,
    VariableLengthDataTuple.value, VariableLengthDataTuple.value]
  grind

theorem length_resize
    (within : row.length ≤ newSize) :
    (row.resize newSize).length = newSize := by
  rw [VariableLengthDataTuple.resize, List.take_of_length_le within,
    List.length_append, List.length_replicate]
  omega

variable {self : VariableLengthDataTupleSet}

namespace Indexed

theorem empty : Indexed {} where
  width := rfl
  rows _ member := by cases member
  columns _ _ known := by cases known

theorem setTupleSize
    (indexed : self.Indexed) (newTupleSize : Nat) :
    (self.setTupleSize newTupleSize).Indexed := by
  rw [VariableLengthDataTupleSet.setTupleSize]
  split
  next wider =>
    have within : ∀ row ∈ self.impl, row.length ≤ newTupleSize := by
      intro row member
      rw [indexed.rows row member]
      exact wider.le
    have same : ∀ index,
        (self.impl.map (·.resize newTupleSize)).map (·.value index) =
          self.cells index := by
      intro index
      rw [List.map_map]
      refine List.map_congr_left ?_
      intro row member
      exact value_resize (within row member) index
    refine ⟨?_, ?_, ?_⟩
    · rw [List.length_append, List.length_replicate, indexed.width]
      dsimp only
      omega
    · intro row member
      obtain ⟨before, stored, rfl⟩ := List.mem_map.mp member
      exact length_resize (within before stored)
    · intro index column known
      change column.Indexes ((self.impl.map _).map _)
      rw [same]
      rw [List.getElem?_append] at known
      split at known
      next => exact indexed.columns index column known
      next beyond =>
        have new := List.eq_of_mem_replicate (List.mem_of_getElem? known)
        have cells : self.cells index =
            List.replicate self.impl.length [] := by
          refine List.eq_replicate_iff.mpr ⟨List.length_map _, ?_⟩
          intro cell member
          obtain ⟨row, stored, rfl⟩ := List.mem_map.mp member
          have short := indexed.rows row stored
          rw [indexed.width] at beyond
          exact List.getD_eq_default _ _ (by omega)
        rw [new, cells]
        exact ColumnIndexSets.Indexes.replicate _
  next => exact indexed

theorem tupleSize_setTupleSize
    {newTupleSize : Nat}
    (wide : self.tupleSize ≤ newTupleSize) :
    (self.setTupleSize newTupleSize).tupleSize = newTupleSize := by
  rw [VariableLengthDataTupleSet.setTupleSize]
  split
  next => rfl
  next notWider => omega

/-- A tuple with all columns is inserted. -/
theorem insert
    (indexed : self.Indexed)
    {newTuple : VariableLengthDataTuple}
    (wide : self.tupleSize ≤ newTuple.length) :
    (self.insert newTuple).Indexed := by
  have sized := indexed.setTupleSize newTuple.length
  have size := tupleSize_setTupleSize wide
  rw [VariableLengthDataTupleSet.insert]
  generalize self.setTupleSize newTuple.length = set at sized size ⊢
  have all : set.indexSets.length = newTuple.length := sized.width.trans size
  have added := addRow_eq_zipWith set.impl.length all
  refine ⟨?_, ?_, ?_⟩
  · rw [added, List.length_zipWith, all, Nat.min_self]
    exact size.symm
  · intro row member
    rcases List.mem_append.mp member with before | new
    · exact sized.rows row before
    · rw [List.mem_singleton.mp new]
      exact size.symm
  · intro index column known
    rw [added, List.getElem?_zipWith] at known
    have cells : VariableLengthDataTupleSet.cells
        { set with
          impl := set.impl ++ [newTuple]
          indexSets := addRow set.impl.length set.indexSets newTuple } index =
        set.cells index ++ [newTuple.value index] := List.map_append
    rw [cells]
    have length : (set.cells index).length = set.impl.length :=
      List.length_map _
    split at known
    next before value present held =>
      injection known with same
      have given : newTuple.value index = value := by
        rw [VariableLengthDataTuple.value, List.getD_eq_getElem?_getD, held]
        rfl
      rw [← same, given, ← length]
      exact (sized.columns index before present).addColumnValueToIndexSets value
    next => cases known

/-- A row is erased behind which there is no wildcard. -/
theorem erase
    (indexed : self.Indexed)
    {ref : VariableLengthDataTuple}
    (last : ∀ row ∈ self.impl.drop (self.impl.idxOf ref + 1), [] ∉ row) :
    (self.erase ref).1.Indexed := by
  rw [VariableLengthDataTupleSet.erase]
  split
  next present =>
    have all : self.indexSets.length = ref.length :=
      indexed.width.trans (indexed.rows ref present).symm
    have removed := removeRow_eq_map (self.impl.idxOf ref) all
    generalize self.impl.idxOf ref = rowIndex at last removed ⊢
    dsimp only
    refine ⟨?_, ?_, ?_⟩
    · rw [removed, List.length_map]
      exact indexed.width
    · intro row member
      exact indexed.rows row (List.mem_of_mem_eraseIdx member)
    · intro index column known
      rw [removed, List.getElem?_map] at known
      obtain ⟨before, present, rfl⟩ := Option.map_eq_some_iff.mp known
      have cells : VariableLengthDataTupleSet.cells
          { self with
            impl := self.impl.eraseIdx rowIndex
            indexSets := removeRow rowIndex self.indexSets ref } index =
          (self.cells index).eraseIdx rowIndex :=
        (List.eraseIdx_map _ _ _).symm
      rw [cells]
      have indexes := indexed.columns index before present
      refine indexes.removeRowFromIndexSets ?_
      intro behind member
      by_contra later
      rw [indexes.wildcards] at member
      obtain ⟨cell, found, empty⟩ := mem_indices.mp member
      rw [isWildcard, decide_eq_true_iff] at empty
      rw [VariableLengthDataTupleSet.cells, List.getElem?_map] at found
      obtain ⟨row, held, value⟩ := Option.map_eq_some_iff.mp found
      have stays : row ∈ self.impl.drop (rowIndex + 1) := by
        refine List.mem_of_getElem? (?_ :
          (self.impl.drop (rowIndex + 1))[behind - (rowIndex + 1)]? = some row)
        rw [List.getElem?_drop, ← held]
        congr 1
        omega
      have inside : index < row.length := by
        rw [indexed.rows row (List.mem_of_getElem? held), ← indexed.width]
        exact (List.getElem?_eq_some_iff.mp present).1
      have cell' : row.value index = row[index] := List.getD_eq_getElem _ _ inside
      refine last row stays ?_
      rw [← empty, ← value, cell']
      exact List.getElem_mem inside
  next => exact indexed

end Indexed

/-! ## Looking up -/

/-- A row matches a tuple if the values of each column match. -/
def Matches
    (valueTuple row : VariableLengthDataTuple)
    (tupleSize : Nat) : Prop :=
  ∀ column < tupleSize,
    valueTuple.value column = [] ∨ row.value column = [] ∨
      row.value column = valueTuple.value column

instance
    (valueTuple row : VariableLengthDataTuple)
    (tupleSize : Nat) :
    Decidable (Matches valueTuple row tupleSize) :=
  inferInstanceAs (Decidable (∀ column < tupleSize, _))

variable {valueTuple : VariableLengthDataTuple}

theorem mem_resultIndexSets
    {rows : Finset Nat} :
    rows ∈ resultIndexSets columns valueTuple ↔
      ∃ index column, columns[index]? = some column ∧
        valueTuple.value index ≠ [] ∧
        rows = column.find (valueTuple.value index) := by
  induction columns generalizing valueTuple with
  | nil => simp [resultIndexSets]
  | cons column columns ih =>
      cases valueTuple with
      | nil => simp [resultIndexSets, VariableLengthDataTuple.value]
      | cons value values =>
          have split : (∃ index other, (column :: columns)[index]? = some other ∧
              VariableLengthDataTuple.value (value :: values) index ≠ [] ∧
              rows = other.find
                (VariableLengthDataTuple.value (value :: values) index)) ↔
              (value ≠ [] ∧ rows = column.find value) ∨
                ∃ index other, columns[index]? = some other ∧
                  VariableLengthDataTuple.value values index ≠ [] ∧
                  rows = other.find
                    (VariableLengthDataTuple.value values index) := by
            constructor
            · rintro ⟨index, other, held, given, found⟩
              cases index with
              | zero =>
                  injection held with same
                  rw [← same] at found
                  exact Or.inl ⟨given, found⟩
              | succ index => exact Or.inr ⟨index, other, held, given, found⟩
            · rintro (⟨given, found⟩ | ⟨index, other, held, given, found⟩)
              · exact ⟨0, column, rfl, given, found⟩
              · exact ⟨index + 1, other, held, given, found⟩
          rw [split, resultIndexSets]
          split
          next empty =>
            rw [ih]
            simp [empty]
          next given =>
            rw [List.mem_cons, ih]
            simp [given]

theorem mem_foldl_inter
    {first : Finset Nat} {others : List (Finset Nat)}
    {index : Nat} :
    index ∈ others.foldl (· ∩ ·) first ↔
      ∀ rows ∈ first :: others, index ∈ rows := by
  induction others generalizing first with
  | nil => simp
  | cons other others ih =>
      rw [List.foldl_cons, ih]
      simp [and_assoc]

/-- A row that matches is in every set that is looked up. -/
theorem Indexed.matches_iff
    {self : VariableLengthDataTupleSet}
    (indexed : self.Indexed)
    {valueTuple row : VariableLengthDataTuple} {position : Nat}
    (stored : self.impl[position]? = some row) :
    Matches valueTuple row self.tupleSize ↔
      ∀ rows ∈ resultIndexSets self.indexSets valueTuple, position ∈ rows := by
  have cell : ∀ index, (self.cells index)[position]? =
      some (row.value index) := by
    intro index
    rw [cells, List.getElem?_map, stored]
    rfl
  constructor
  · intro matched rows member
    obtain ⟨index, column, held, given, rfl⟩ := mem_resultIndexSets.mp member
    have inside : index < self.tupleSize := by
      rw [← indexed.width]
      exact (List.getElem?_eq_some_iff.mp held).1
    rw [(indexed.columns index column held).find given, mem_indices]
    refine ⟨row.value index, cell index, ?_⟩
    rw [matchesValue, decide_eq_true_iff]
    exact ((matched index inside).resolve_left given).symm
  · intro all index inside
    by_cases given : valueTuple.value index = []
    · exact Or.inl given
    · rw [← indexed.width] at inside
      have held := List.getElem?_eq_getElem inside
      have member := all _ (mem_resultIndexSets.mpr
        ⟨index, _, held, given, rfl⟩)
      rw [(indexed.columns index _ held).find given, mem_indices] at member
      obtain ⟨other, found, matched⟩ := member
      rw [cell index] at found
      injection found with same
      rw [matchesValue, decide_eq_true_iff, ← same] at matched
      exact Or.inr matched.symm

/-- With the index sets right, looking up is the same as reading the rows. -/
theorem Indexed.findNormalized_iff
    (indexed : self.Indexed)
    (some : self.impl ≠ [])
    (width : valueTuple.length = self.tupleSize) :
    self.findNormalized valueTuple = true ↔
      ∃ row ∈ self.impl, Matches valueTuple row self.tupleSize := by
  rw [findNormalized, if_neg (not_not_intro width)]
  have matched := @Indexed.matches_iff self indexed valueTuple
  cases looked : resultIndexSets self.indexSets valueTuple with
  | nil =>
      refine iff_of_true rfl ?_
      obtain ⟨row, rest, rows⟩ := List.exists_cons_of_ne_nil some
      refine ⟨row, by rw [rows]; exact List.mem_cons_self, ?_⟩
      refine (@matched row 0 (by rw [rows]; rfl)).mpr ?_
      rw [looked]
      intro _ member
      cases member
  | cons first others =>
      rw [looked] at matched
      dsimp only
      rw [decide_eq_true_iff, ← Finset.nonempty_iff_ne_empty]
      constructor
      · intro ⟨position, member⟩
        have all := mem_foldl_inter.mp member
        have inFirst : first ∈ resultIndexSets self.indexSets valueTuple := by
          rw [looked]
          exact List.mem_cons_self
        obtain ⟨index, column, held, given, same⟩ :=
          mem_resultIndexSets.mp inFirst
        have here := all first List.mem_cons_self
        rw [same, (indexed.columns index column held).find given, mem_indices]
          at here
        obtain ⟨_, found, _⟩ := here
        rw [cells, List.getElem?_map] at found
        obtain ⟨row, stored, _⟩ := Option.map_eq_some_iff.mp found
        exact ⟨row, List.mem_of_getElem? stored, (matched stored).mpr all⟩
      · intro ⟨row, member, matches'⟩
        obtain ⟨position, stored⟩ := List.mem_iff_getElem?.mp member
        exact ⟨position, mem_foldl_inter.mpr ((matched stored).mp matches')⟩

/-! ## Runs -/

/-- The changes of a set. -/
inductive Change
  | insert (newTuple : VariableLengthDataTuple)
  | erase (ref : VariableLengthDataTuple)
  | setTupleSize (newTupleSize : Nat)

def change
    (self : VariableLengthDataTupleSet) :
    Change → VariableLengthDataTupleSet
  | .insert newTuple => self.insert newTuple
  | .erase ref => (self.erase ref).1
  | .setTupleSize newTupleSize => self.setTupleSize newTupleSize

/-- All changes, in any order. -/
def changes : TransitionSystem VariableLengthDataTupleSet Change where
  initial := {}
  next self input := some (self.change input)

/-- A tuple that is inserted has all columns, and behind a row that is erased
no row has an empty value. -/
def KeepsIndices (self : VariableLengthDataTupleSet) : Change → Prop
  | .insert newTuple => self.tupleSize ≤ newTuple.length
  | .erase ref => ∀ row ∈ self.impl.drop (self.impl.idxOf ref + 1), [] ∉ row
  | .setTupleSize _ => True

theorem Indexed.change
    (indexed : self.Indexed)
    {input : Change}
    (keeps : self.KeepsIndices input) :
    (self.change input).Indexed := by
  cases input with
  | insert newTuple => exact indexed.insert keeps
  | erase ref => exact indexed.erase keeps
  | setTupleSize newTupleSize => exact indexed.setTupleSize newTupleSize

theorem Indexed.of_reachable
    (reachable : changes.ReachableUnder KeepsIndices self) :
    self.Indexed := by
  refine TransitionSystem.ReachableUnder.invariant Indexed Indexed.empty ?_
    reachable
  intro before input after indexed keeps changed
  injection changed with same
  rw [← same]
  exact indexed.change keeps

/-- A set with rows matches a tuple if and only if one of its rows does, as long
as the changes keep the indices of the wildcards. -/
theorem findNormalized_matches
    {self : VariableLengthDataTupleSet}
    (reachable : changes.ReachableUnder KeepsIndices self)
    (some : self.impl ≠ [])
    {valueTuple : VariableLengthDataTuple}
    (width : valueTuple.length = self.tupleSize) :
    self.findNormalized valueTuple = true ↔
      ∃ row ∈ self.impl, Matches valueTuple row self.tupleSize :=
  (Indexed.of_reachable reachable).findNormalized_iff some width

/-- A row is erased behind one that matches any first value. -/
theorem findNormalized_matches_behind :
    ∃ final : VariableLengthDataTupleSet,
      changes.run {} [.insert [[], [66]], .insert [[65], [65]],
        .erase [[65], [65]]] = some final ∧
        (final.findNormalized [[88], [66]] = true ↔
          ∃ row ∈ final.impl, Matches [[88], [66]] row final.tupleSize) := by
  refine ⟨_, rfl, ?_⟩
  refine findNormalized_matches (.step (.step (.step .initial ?_ rfl) ?_ rfl)
    ?_ rfl) (by decide) rfl
  · exact Nat.zero_le 2
  · exact le_refl 2
  · intro row member
    cases member

/-- A row is erased in front of one that matches any first value. -/
theorem findNormalized_matches_fails :
    ¬ ∀ self : VariableLengthDataTupleSet, changes.Reachable self →
      self.impl ≠ [] → ∀ valueTuple : VariableLengthDataTuple,
        valueTuple.length = self.tupleSize →
        (self.findNormalized valueTuple = true ↔
          ∃ row ∈ self.impl, Matches valueTuple row self.tupleSize) := by
  intro all
  have reachable := @TransitionSystem.reachable_of_run _ _ changes
    [.insert [[65], [65]], .insert [[], [66]], .erase [[65], [65]]] _ rfl
  have found := (all _ reachable (by decide) [[88], [66]] rfl).mpr
    ⟨[[], [66]], by decide, by decide⟩
  exact absurd found (by decide)

end VariableLengthDataTupleSet

end ServerModel
end OpenRTI
