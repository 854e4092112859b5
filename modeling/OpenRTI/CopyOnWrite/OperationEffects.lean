import OpenRTI.CopyOnWrite.Effects

/-!
# Effects of the operations

An operation on one object sets its bytes, as far as they are known, and leaves
all other objects as they are.
-/

namespace OpenRTI
namespace CopyOnWrite

open Foundation

namespace Memory

variable {ι : Type*}

/-- The known bytes of an object are set, the other objects are unchanged. -/
structure Updates
    (before after : Memory ι)
    (name : ι)
    (value : Bytes) : Prop where
  sound : after.Sound
  object : ∀ other, other ≠ name → after.object other = before.object other
  contents : Extends (after.contents name) value
  others : ∀ other, other ≠ name →
    after.contents other = before.contents other

namespace Updates

variable {before middle after : Memory ι} {name : ι} {value value' : Bytes}

theorem size
    (updates : before.Updates after name value) :
    (after.object name).size = value.length := by
  rw [← updates.sound.length_contents, updates.contents.length_eq]

theorem trans
    (first : before.Updates middle name value)
    (second : middle.Updates after name value') :
    before.Updates after name value' where
  sound := second.sound
  object := fun other different =>
    (second.object other different).trans (first.object other different)
  contents := second.contents
  others := fun other different =>
    (second.others other different).trans (first.others other different)

theorem weaken
    (updates : before.Updates after name value)
    (extended : Extends value value') :
    before.Updates after name value' :=
  { updates with contents := updates.contents.trans extended }

end Updates

theorem Relocates.updates
    {before after : Memory ι} {name : ι}
    (relocates : before.Relocates after name) :
    before.Updates after name (before.contents name) where
  sound := relocates.sound
  object := relocates.object
  contents := by
    rw [relocates.contents]
    exact .refl _
  others := fun other _ => relocates.contents other

variable {block : Nat}

theorem Unshared.canWrite
    [Fintype ι]
    {self : Memory ι} {name : ι}
    (unshared : self.Unshared name block)
    (sizeOfData size : Nat) : self.CanWrite sizeOfData name size := by
  rw [CanWrite, if_neg (by rw [unshared.1]; exact Option.some_ne_none block)]
  intro shared
  rw [unshared.1] at shared
  have single := (count_le_one_iff unshared.1).mpr unshared
  omega

/-! ## Other fields -/

section

variable [DecidableEq ι] {self : Memory ι} {name : ι}
  {value : VariableLengthData}

/-- An object gets other fields. -/
theorem Sound.updates_setObject
    (sound : self.Sound) (fits : self.Fits value) :
    self.Updates (self.setObject name value) name (self.contentsOf value) where
  sound := sound.setObject fits
  object := fun _ different => object_setObject_of_ne different
  contents := by
    rw [contents_setObject_self]
    exact .refl _
  others := fun _ different => contents_setObject_of_ne different

theorem count_setObject
    [Fintype ι]
    (same : value.data = (self.object name).data)
    (data : Option Nat) :
    (self.setObject name value).count data = self.count data := by
  cases data with
  | none => rfl
  | some block =>
      rw [count, count]
      congr 1
      ext other
      rw [Finset.mem_filter, Finset.mem_filter]
      by_cases equal : other = name
      · rw [equal, object_setObject_self, same]
      · rw [object_setObject_of_ne equal]

theorem capacity_setObject
    (sameData : value.data = (self.object name).data)
    (sameOffset : value.offset = (self.object name).offset) :
    (self.setObject name value).capacity name = self.capacity name := by
  rw [capacity.eq_def, capacity.eq_def, object_setObject_self, sameData,
    sameOffset]
  rfl

theorem canCopy_setObject
    [Fintype ι]
    {sizeOfData size : Nat}
    (sameData : value.data = (self.object name).data)
    (sameOffset : value.offset = (self.object name).offset) :
    (self.setObject name value).CanCopy sizeOfData name size ↔
      self.CanCopy sizeOfData name size := by
  rw [CanCopy, CanCopy, object_setObject_self, count_setObject sameData,
    capacity_setObject sameData sameOffset, sameData]

theorem canWrite_setObject
    [Fintype ι]
    {sizeOfData size : Nat}
    (sameData : value.data = (self.object name).data)
    (sameOffset : value.offset = (self.object name).offset) :
    (self.setObject name value).CanWrite sizeOfData name size ↔
      self.CanWrite sizeOfData name size := by
  rw [CanWrite, CanWrite, canCopy_setObject sameData sameOffset, CanAttach,
    CanAttach, object_setObject_self, sameData, sameOffset]

theorem canWrite_size
    [Fintype ι]
    {sizeOfData : Nat}
    (size written : Nat) :
    (self.setObject name { self.object name with size }).CanWrite sizeOfData
        name written ↔
      self.CanWrite sizeOfData name written :=
  canWrite_setObject rfl rfl

theorem Unshared.size
    (unshared : self.Unshared name block) (size : Nat) :
    (self.setObject name { self.object name with size }).Unshared name
      block := by
  refine ⟨?_, ?_⟩
  · rw [object_setObject_self]
    exact unshared.1
  · intro other different
    rw [object_setObject_of_ne different]
    exact unshared.2 other different

/-- An object gets another size. -/
theorem Sound.updates_size
    (sound : self.Sound)
    {size : Nat}
    (size_lt : size < 2 ^ 64)
    (room : ∀ block, (self.object name).data = some block →
      size = 0 ∨
        (self.object name).offset + size ≤ (self.bytesOf block).length) :
    self.Updates (self.setObject name { self.object name with size }) name
      (resized size (self.contents name)) := by
  let value := { self.object name with size }
  have fits : self.Fits value :=
    ⟨size_lt, (sound.fits name).allocated, room⟩
  refine (sound.updates_setObject fits).weaken ?_
  apply extends_resized fits.length_contentsOf
  rw [sound.length_contents, contents]
  cases held : (self.object name).data with
  | none =>
      have unwritten : self.contentsOf value = List.replicate size none :=
        contentsOf_of_none held
      rw [unwritten, contentsOf_of_none held, List.take_replicate,
        List.take_replicate, Nat.min_comm]
  | some block =>
      have sliced : self.contentsOf value =
          slice value.offset size (self.bytesOf block) :=
        contentsOf_of_some held
      rw [sliced, contentsOf_of_some held, slice, slice, List.take_take,
        List.take_take, Nat.min_comm]

theorem room_relocate
    {capacity size : Nat}
    (sound : self.Sound)
    (fits : (self.object name).size ≤ capacity)
    (room : size ≤ capacity) :
    ∀ block, ((self.relocate name capacity).object name).data = some block →
      size = 0 ∨
        ((self.relocate name capacity).object name).offset + size ≤
          ((self.relocate name capacity).bytesOf block).length := by
  intro block held
  rw [relocate, object_withBlock_self] at held
  right
  rw [← Option.some.inj held, relocate, object_withBlock_self,
    bytesOf_withBlock, Nat.zero_add, length_overwrite, List.length_replicate]
  · exact room
  · rw [List.length_replicate, Nat.zero_add, sound.length_contents]
    exact fits

variable {sizeOfData : Nat}

theorem resize_of_none
    {size : Nat}
    (different : size ≠ (self.object name).size)
    (unallocated : (self.object name).data = none) :
    self.resize sizeOfData name size =
      some (self.setObject name { self.object name with size }) := by
  rw [resize.eq_def, if_neg different, unallocated]
  rfl

theorem resize_of_room
    {size : Nat}
    (different : size ≠ (self.object name).size)
    (held : (self.object name).data = some block)
    (room : size ≤ self.capacity name) :
    self.resize sizeOfData name size =
      some (self.setObject name { self.object name with size }) := by
  rw [resize.eq_def, if_neg different, held]
  dsimp only
  rw [if_neg (Nat.not_lt.mpr room)]
  rfl

theorem resize_of_small
    (sound : self.Sound)
    {size : Nat}
    (different : size ≠ (self.object name).size)
    (held : (self.object name).data = some block)
    (small : self.capacity name < size)
    (allocatable : Allocatable sizeOfData (self.grownCapacity name size))
    (fits : (self.object name).size ≤ self.grownCapacity name size) :
    self.resize sizeOfData name size =
      some ((self.relocate name (self.grownCapacity name size)).setObject name
        { (self.relocate name (self.grownCapacity name size)).object name with
          size }) := by
  have smaller : self.capacity name < self.grownCapacity name size := by
    rw [grownCapacity]
    omega
  rw [resize.eq_def, if_neg different, held]
  dsimp only
  rw [if_pos small, reserve_of_some held, ← grownCapacity, if_pos smaller,
    copyToOwnData_eq sound held allocatable fits]
  rfl

/-- The bytes of an object are cut off or extended, and it can be written to if
it could be before. -/
theorem resize_spec
    [Fintype ι]
    (sound : self.Sound)
    {size : Nat}
    (size_lt : size < 2 ^ 64)
    (resize :
      size = (self.object name).size ∨ self.CanResize sizeOfData name size) :
    ∃ after, self.resize sizeOfData name size = some after ∧
      self.Updates after name (resized size (self.contents name)) ∧
      ((size ≠ (self.object name).size ∧ (self.object name).data ≠ none ∧
          self.capacity name < size) ∨
        self.CanWrite sizeOfData name size →
          after.CanWrite sizeOfData name size) := by
  by_cases same : size = (self.object name).size
  · refine ⟨self, if_pos same, ?_, ?_⟩
    · refine (Relocates.refl sound name).updates.weaken ?_
      rw [same, ← sound.length_contents]
      exact extends_resized rfl rfl
    · intro write
      exact write.resolve_left fun moved => moved.1 same
  · have can := resize.resolve_left same
    have inPlace : ∀ room, self.Updates
        (self.setObject name { self.object name with size }) name
          (resized size (self.contents name)) :=
      sound.updates_size size_lt
    cases held : (self.object name).data with
    | none =>
        refine ⟨_, resize_of_none same held, inPlace ?_, ?_⟩
        · rw [held]
          exact nofun
        · intro write
          apply (canWrite_size size size).mpr
          exact write.resolve_left fun moved => moved.2.1 rfl
    | some block =>
        have can := can block held
        by_cases small : self.capacity name < size
        · rw [if_pos small] at can
          have enough : size ≤ self.grownCapacity name size := by
            rw [grownCapacity]
            omega
          have moved := relocate_spec sound can.1.lt can.2
          refine ⟨_, resize_of_small sound same held small can.1 can.2, ?_, ?_⟩
          · rw [← moved.1.contents name]
            exact moved.1.updates.trans (moved.1.sound.updates_size size_lt
              (room_relocate sound can.2 enough))
          · intro _
            exact (moved.2.size size).canWrite sizeOfData size
        · rw [if_neg small] at can
          refine ⟨_, resize_of_room same held (Nat.not_lt.mp small),
            inPlace ?_, ?_⟩
          · intro other heldOther
            rw [held] at heldOther
            rw [← Option.some.inj heldOther]
            exact can
          · intro write
            apply (canWrite_size size size).mpr
            exact write.resolve_left fun moved => small moved.2.2

end

/-! ## Writing -/

section

variable [DecidableEq ι] [Fintype ι] {sizeOfData : Nat} {self : Memory ι}
  {name : ι}

variable {offset : Nat}

/-- Bytes are written into an object. -/
theorem store_spec
    (sound : self.Sound)
    {values : Bytes}
    (present : values ≠ [])
    (inside : offset + values.length ≤ (self.object name).size)
    (write : self.CanWrite sizeOfData name (self.object name).size) :
    ∃ after,
      (self.data sizeOfData name offset).bind
          (fun writable => writable.1.store writable.2 values) = some after ∧
        self.Updates after name
          (overwrite offset values (self.contents name)) := by
  have positive : 0 < values.length := List.length_pos_iff.mpr present
  obtain ⟨moved, block, pointer, relocates, unshared⟩ :=
    data_spec sound (by omega) write offset
  rw [← relocates.size] at inside
  obtain ⟨stored, soundAfter, written, others⟩ :=
    relocates.sound.store_unshared unshared present inside
  refine ⟨_, ?_, soundAfter, relocates.object, ?_, ?_⟩
  · rw [pointer, Option.bind_some]
    exact stored
  · rw [written, relocates.contents]
    exact .refl _
  · intro other different
    rw [others other different, relocates.contents]

variable {source : ι}

/-- The bytes of another object are written into an object. -/
theorem memcpy_spec
    (sound : self.Sound)
    (present : (self.object name).size ≠ 0)
    (inside :
      offset + (self.object source).size ≤ (self.object name).size)
    (write : self.CanWrite sizeOfData name (self.object name).size)
    (readable : (self.object source).size = 0 ∨
      source ≠ name ∧ (self.object source).data ≠ none) :
    ∃ after,
      (self.data sizeOfData name offset).bind
          (fun writable =>
            writable.1.memcpy writable.2 (writable.1.constData source 0)
              (writable.1.object source).size) = some after ∧
        self.Updates after name
          (overwrite offset (self.contents source) (self.contents name)) := by
  obtain ⟨moved, block, pointer, relocates, unshared⟩ :=
    data_spec sound present write offset
  have length := sound.length_contents source
  rw [pointer, Option.bind_some]
  by_cases empty : (self.object source).size = 0
  · have emptyAfter : (moved.object source).size = 0 := by
      by_cases same : source = name
      · rw [same, relocates.size, ← same]
        exact empty
      · rw [relocates.object source same]
        exact empty
    refine ⟨moved, ?_, ?_⟩
    · dsimp only
      rw [emptyAfter, memcpy, if_neg (by simp), load_zero, Option.bind_some,
        store_nil]
    · rw [List.eq_nil_of_length_eq_zero (length.trans empty), overwrite,
        List.append_nil, List.length_nil, Nat.add_zero, List.take_append_drop]
      exact relocates.updates
  · obtain ⟨different, held⟩ := readable.resolve_left empty
    have sourceObject := relocates.object source different
    obtain ⟨from_, heldFrom⟩ := Option.ne_none_iff_exists'.mp held
    have apart : overlap (moved.object source).size
        (some (block, sizeT ((moved.object name).offset + offset)))
        (moved.constData source 0) = false := by
      rw [constData, sourceObject, heldFrom, Option.map_some]
      apply overlap_of_ne
      intro same
      apply unshared.2 source different
      rw [sourceObject, heldFrom, same]
    have loaded := relocates.sound.load_constData
      (Or.inr (sourceObject ▸ held))
    have present' : self.contents source ≠ [] :=
      List.ne_nil_of_length_pos (by omega)
    have inside' : offset + (self.contents source).length ≤
        (moved.object name).size := by
      rw [length, relocates.size]
      exact inside
    obtain ⟨stored, soundAfter, written, others⟩ :=
      relocates.sound.store_unshared unshared present' inside'
    refine ⟨_, ?_, soundAfter, relocates.object, ?_, ?_⟩
    · dsimp only
      rw [memcpy_of_not_overlap apart, loaded, Option.bind_some,
        relocates.contents]
      exact stored
    · rw [written, relocates.contents]
      exact .refl _
    · intro other different
      rw [others other different, relocates.contents]

theorem data_of_empty
    (empty : (self.object name).size = 0)
    (offset : Nat) :
    self.data sizeOfData name offset = some (self, none) := by
  rw [data.eq_def, if_pos empty]

theorem setUInt8_spec
    (sound : self.Sound)
    {value : UInt8}
    (inside : offset < (self.object name).size)
    (write : self.CanWrite sizeOfData name (self.object name).size) :
    ∃ after, self.setUInt8 sizeOfData name value offset = some after ∧
      self.Updates after name
        (overwrite offset [some value] (self.contents name)) :=
  store_spec sound (List.cons_ne_nil _ _) inside write

/-- The bytes of a source are in a block. -/
def CanRead (self : Memory ι) (source : ι) : Prop :=
  (self.object source).size = 0 ∨ (self.object source).data ≠ none

/-- The whole of an object is set, or the source is read and the object written
to. -/
def CanSetRange
    (self : Memory ι)
    (sizeOfData : Nat)
    (name source : ι)
    (offset : Nat) : Prop :=
  offset = 0 ∧ (self.object source).size = (self.object name).size ∨
    self.CanRead source ∧
      self.CanWrite sizeOfData name (self.object name).size

theorem setVariableLengthData_spec
    (sound : self.Sound)
    (inside : offset + (self.object source).size ≤ (self.object name).size)
    (set : self.CanSetRange sizeOfData name source offset) :
    ∃ after,
      self.setVariableLengthData sizeOfData name source offset = some after ∧
        self.Updates after name
          (overwrite offset (self.contents source) (self.contents name)) := by
  rw [setVariableLengthData]
  by_cases whole :
      offset = 0 ∧ (self.object source).size = (self.object name).size
  · obtain ⟨start, same⟩ := whole
    have object : { self.object name with
        data := (self.object source).data
        offset := (self.object source).offset } = self.object source :=
      congrArg (fun size => { self.object source with size }) same.symm
    refine ⟨_, if_pos ⟨start, same⟩, ?_⟩
    rw [object, start, overwrite_end, List.take_zero, List.nil_append]
    · exact sound.updates_setObject (sound.fits source)
    · rw [sound.length_contents, sound.length_contents, same, Nat.zero_add]
  · rw [if_neg whole]
    obtain ⟨readable, write⟩ := set.resolve_left whole
    have different : source ≠ name := by
      intro same
      rw [same] at inside whole
      exact whole ⟨by omega, rfl⟩
    have present : (self.object name).size ≠ 0 := by
      intro empty
      rw [empty] at inside whole
      exact whole ⟨by omega, by omega⟩
    exact memcpy_spec sound present inside write
      (readable.imp_right fun held => ⟨different, held⟩)

/-- The bytes of a source are in a block and not those of the object, which gets
space behind its bytes that can be written to. -/
def CanAppend
    (self : Memory ι)
    (sizeOfData : Nat)
    (name source : ι) : Prop :=
  let size := (self.object name).size + (self.object source).size
  size < 2 ^ 64 ∧ self.CanRead source ∧
    ((self.object source).size = 0 ∨ source ≠ name) ∧
    ((self.object source).size = 0 ∨ self.CanResize sizeOfData name size) ∧
    (size = 0 ∨
      ((self.object source).size ≠ 0 ∧ (self.object name).data ≠ none ∧
        self.capacity name < size) ∨
      self.CanWrite sizeOfData name size)

theorem append_spec
    (sound : self.Sound) (append : self.CanAppend sizeOfData name source) :
    ∃ after, self.append sizeOfData name source = some after ∧
      self.Updates after name
        (self.contents name ++ self.contents source) := by
  obtain ⟨size_lt, readable, apart, resizable, writable⟩ := append
  have lengthSource := sound.length_contents source
  have length := sound.length_contents name
  have grow :
      (self.object name).size + (self.object source).size =
          (self.object name).size ∨
        self.CanResize sizeOfData name
          ((self.object name).size + (self.object source).size) := by
    refine resizable.imp_left fun empty => ?_
    rw [empty, Nat.add_zero]
  obtain ⟨resized, isResized, updates, canWrite⟩ :=
    resize_spec sound size_lt grow
  have size := updates.size
  rw [length_resized] at size
  have same : (resized.object source).size = (self.object source).size ∧
      (resized.object source).data = (self.object source).data ∧
        resized.contents source = self.contents source ∨
      (self.object source).size = 0 ∧ source = name := by
    by_cases equal : source = name
    · exact Or.inr ⟨apart.resolve_right fun different => different equal, equal⟩
    · have object := updates.object source equal
      exact Or.inl ⟨congrArg VariableLengthData.size object,
        congrArg VariableLengthData.data object, updates.others source equal⟩
  have sourceSize :
      (resized.object source).size = (self.object source).size := by
    cases same with
    | inl same => exact same.1
    | inr same =>
        have both := size
        rw [← same.2, same.1] at both
        rw [same.1, both]
  have sourceContents : resized.contents source = self.contents source := by
    cases same with
    | inl same => exact same.2.2
    | inr same =>
        have none_ : ∀ memory : Memory ι, (memory.object source).size = 0 →
            memory.contents source = [] := fun _ => contentsOf_of_size_eq_zero
        rw [none_ self same.1, none_ resized (sourceSize.trans same.1)]
  rw [Memory.append, sizeT, Nat.mod_eq_of_lt size_lt, isResized]
  by_cases empty : (self.object name).size + (self.object source).size = 0
  · refine ⟨resized, ?_, ?_⟩
    · simp only [Option.bind_eq_bind, Option.bind_some]
      rw [data_of_empty (size.trans empty), Option.bind_some]
      dsimp only
      rw [sourceSize, Nat.eq_zero_of_add_eq_zero_left empty, memcpy,
        if_neg (by simp), load_zero, Option.bind_some, store_nil]
    · have nil := List.eq_nil_of_length_eq_zero
        (lengthSource.trans (Nat.eq_zero_of_add_eq_zero_left empty))
      rw [nil, List.append_nil]
      rw [empty] at updates
      have nil' := List.eq_nil_of_length_eq_zero
        (length.trans (Nat.eq_zero_of_add_eq_zero_right empty))
      rw [nil'] at updates ⊢
      exact updates
  · have inside : (self.object name).size + (resized.object source).size ≤
        (resized.object name).size := by
      rw [sourceSize, size]
    have write : resized.CanWrite sizeOfData name
        (resized.object name).size := by
      rw [size]
      apply canWrite
      refine (writable.resolve_left empty).imp_left fun moved => ?_
      exact ⟨by omega, moved.2⟩
    have read : (resized.object source).size = 0 ∨
        source ≠ name ∧ (resized.object source).data ≠ none := by
      cases same with
      | inl same =>
          rw [same.1, same.2.1]
          by_cases none_ : (self.object source).size = 0
          · exact Or.inl none_
          · exact Or.inr
              ⟨apart.resolve_left none_, readable.resolve_left none_⟩
      | inr same => exact Or.inl (sourceSize.trans same.1)
    obtain ⟨after, isAfter, written⟩ := memcpy_spec updates.sound
      (by rw [size]; exact empty) inside write read
    refine ⟨after, ?_, ?_⟩
    · simp only [Option.bind_eq_bind, Option.bind_some]
      exact isAfter
    · refine (updates.trans written).weaken ?_
      rw [sourceContents, ← overwrite_resized, length, lengthSource]
      exact updates.contents.overwrite (.refl _) _

/-- An object gets space for other bytes. -/
def CanReplace
    (self : Memory ι)
    (sizeOfData : Nat)
    (name : ι)
    (size : Nat) : Prop :=
  ((self.object name).data = none →
      size = 0 ∨ self.CanAttach sizeOfData name size size) ∧
    ∀ block, (self.object name).data = some block →
      (1 < self.count (some block) →
          Allocatable sizeOfData (self.capacity name)) ∧
        (self.capacity name < size →
          Allocatable sizeOfData (self.grownCapacity name size)) ∧
        (size ≤ self.capacity name → self.count (some block) ≤ 1 →
          size = 0 ∨
            (self.object name).offset + size ≤ (self.bytesOf block).length)

theorem sizeTSub_zero
    {minuend : Nat}
    (bounded : minuend < 2 ^ 64) : sizeTSub minuend 0 = minuend := by
  rw [sizeTSub, sizeT, Nat.sub_zero, Nat.add_mod_right,
    Nat.mod_eq_of_lt bounded]

/-- An empty object is made private. -/
theorem ensurePrivate_empty
    (sound : self.Sound)
    (empty : (self.object name).size = 0)
    {size : Nat}
    (replace : self.CanReplace sizeOfData name size) :
    ∃ after, self.ensurePrivate sizeOfData name = some after ∧
      self.Relocates after name ∧ after.CanResize sizeOfData name size ∧
      (size = 0 ∨ after.CanWrite sizeOfData name size) := by
  rw [ensurePrivate]
  cases held : (self.object name).data with
  | none =>
      refine ⟨self, if_pos (Nat.zero_le 1), .refl sound name, ?_, ?_⟩
      · intro block held'
        rw [held] at held'
        cases held'
      · rw [CanWrite, if_pos held]
        exact replace.1 held
  | some block =>
      obtain ⟨private_, grow, room⟩ := replace.2 block held
      by_cases single : self.count (some block) ≤ 1
      · refine ⟨self, if_pos single, .refl sound name, ?_, Or.inr ?_⟩
        · intro block' held'
          have same : block = block' :=
            Option.some.inj (held.symm.trans held')
          split
          next small =>
            rw [empty]
            exact ⟨grow small, Nat.zero_le _⟩
          next enough =>
            rw [← same]
            exact room (Nat.not_lt.mp enough) single
        · exact ((count_le_one_iff held).mp single).canWrite sizeOfData size
      · have allocatable := private_ (Nat.lt_of_not_le single)
        have fits : (self.object name).size ≤ self.capacity name := by
          rw [empty]
          exact Nat.zero_le _
        have moved := relocate_spec sound allocatable.lt fits
        have capacity : (self.relocate name (self.capacity name)).capacity
            name = self.capacity name := by
          rw [Memory.capacity.eq_def, relocate, object_withBlock_self]
          dsimp only
          rw [capacityOf_withBlock, sizeTSub_zero allocatable.lt]
        refine ⟨self.relocate name (self.capacity name), ?_, moved.1, ?_, ?_⟩
        · rw [if_neg single]
          exact copyToOwnData_eq sound held allocatable fits
        · intro block' held'
          rw [capacity, moved.1.size, empty, grownCapacity, capacity]
          split
          next small => exact ⟨grow small, Nat.zero_le _⟩
          next enough =>
            exact room_relocate sound fits (Nat.not_lt.mp enough) block' held'
        · exact Or.inr (moved.2.canWrite sizeOfData size)

theorem CanReplace.empty
    {size : Nat}
    (replace : self.CanReplace sizeOfData name size) :
    (self.setObject name { self.object name with size := 0 }).CanReplace
      sizeOfData name size := by
  let value := { self.object name with size := 0 }
  have object : (self.setObject name value).object name = value :=
    object_setObject_self
  have count : ∀ data,
      (self.setObject name value).count data = self.count data :=
    count_setObject rfl
  have capacity : (self.setObject name value).capacity name =
      self.capacity name := capacity_setObject rfl rfl
  refine ⟨?_, ?_⟩
  · rw [CanAttach, object]
    exact replace.1
  · intro block held
    rw [object] at held
    rw [grownCapacity, capacity, count, object]
    exact replace.2 block held

theorem setData_spec
    (sound : self.Sound)
    {bytes : Bytes}
    (size_lt : bytes.length < 2 ^ 64)
    (replace : self.CanReplace sizeOfData name bytes.length) :
    ∃ after, self.setData sizeOfData name bytes = some after ∧
      self.Updates after name bytes := by
  let emptied := self.setObject name { self.object name with size := 0 }
  have isEmptied : self.Updates emptied name (resized 0 (self.contents name)) :=
    sound.updates_size (Nat.two_pow_pos 64) fun _ _ => Or.inl rfl
  have empty : (emptied.object name).size = 0 := by
    rw [object_setObject_self]
  obtain ⟨detached, isDetached, relocates, resizable, writable⟩ :=
    ensurePrivate_empty isEmptied.sound empty replace.empty
  obtain ⟨resized, isResized, updates, canWrite⟩ :=
    resize_spec relocates.sound size_lt (Or.inr resizable)
  have size := updates.size
  rw [length_resized] at size
  have throughout : self.Updates resized name _ :=
    (isEmptied.trans relocates.updates).trans updates
  rw [setData]
  simp only [Option.bind_eq_bind]
  rw [isDetached, Option.bind_some, isResized, Option.bind_some]
  by_cases none_ : bytes = []
  · rw [none_, List.length_nil] at size throughout
    refine ⟨resized, ?_, throughout.weaken ?_⟩
    · rw [none_, data_of_empty size, Option.bind_some]
      exact store_nil none
    · rw [none_, Foundation.resized, List.take_zero, Nat.zero_sub]
      exact .refl _
  · have write : resized.CanWrite sizeOfData name
        (resized.object name).size := by
      rw [size]
      exact canWrite (Or.inr (writable.resolve_left fun zero =>
        none_ (List.eq_nil_of_length_eq_zero zero)))
    obtain ⟨after, isAfter, written⟩ := store_spec updates.sound none_
      (by rw [size, Nat.zero_add]) write
    refine ⟨after, isAfter, (throughout.trans written).weaken ?_⟩
    rw [overwrite_end, List.take_zero, List.nil_append]
    · exact .refl _
    · rw [updates.sound.length_contents, size, Nat.zero_add]

end

end Memory

end CopyOnWrite
end OpenRTI
