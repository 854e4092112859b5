import OpenRTI.CopyOnWrite.Operations

/-!
# Memory whose objects fit in their blocks

An object fits if all its bytes are in its block.  The operations do few things
to the memory: they give an object other fields, they move an object to a new
block, and they write into the block of an object.
-/

namespace OpenRTI
namespace CopyOnWrite

open Foundation

namespace Memory

variable {ι : Type*}

/-- The block of an object has a place for each of its bytes. -/
structure Fits (memory : Memory ι) (object : VariableLengthData) : Prop where
  size_lt : object.size < 2 ^ 64
  allocated : ∀ block, object.data = some block → block < memory.blocks.length
  inside : ∀ block, object.data = some block →
    object.size = 0 ∨
      object.offset + object.size ≤ (memory.bytesOf block).length

structure Sound (memory : Memory ι) : Prop where
  fits : ∀ name, memory.Fits (memory.object name)
  length_lt : ∀ block, (memory.bytesOf block).length < 2 ^ 64

/-- No other object refers to the block of an object. -/
def Unshared (self : Memory ι) (name : ι) (block : Nat) : Prop :=
  (self.object name).data = some block ∧
    ∀ other, other ≠ name → (self.object other).data ≠ some block

variable {self : Memory ι} {object : VariableLengthData}

theorem contentsOf_of_none
    (unallocated : object.data = none) :
    self.contentsOf object = List.replicate object.size none := by
  rw [contentsOf, unallocated]

variable {block : Nat}

theorem contentsOf_of_some
    (held : object.data = some block) :
    self.contentsOf object =
      slice object.offset object.size (self.bytesOf block) := by
  rw [contentsOf, held]

theorem Fits.length_contentsOf
    (fits : self.Fits object) :
    (self.contentsOf object).length = object.size := by
  cases held : object.data with
  | none =>
      rw [contentsOf_of_none held]
      exact List.length_replicate
  | some block =>
      rw [contentsOf_of_some held]
      cases fits.inside block held with
      | inl empty =>
          rw [empty]
          exact congrArg List.length (slice_zero _ _)
      | inr inside => exact length_slice inside

theorem Sound.length_contents
    (sound : self.Sound) (name : ι) :
    (self.contents name).length = (self.object name).size :=
  (sound.fits name).length_contentsOf

theorem contentsOf_of_size_eq_zero
    (empty : object.size = 0) : self.contentsOf object = [] := by
  rw [contentsOf, empty]
  cases object.data with
  | none => rfl
  | some block => exact slice_zero _ _

variable {other : ι}

/-! ## Other fields for an object -/

section SetObject

variable [DecidableEq ι] {self : Memory ι} {name : ι}
  {value : VariableLengthData}

@[simp] theorem object_setObject_self :
    (self.setObject name value).object name = value :=
  Function.update_self _ _ _

theorem object_setObject_of_ne
    (different : other ≠ name) :
    (self.setObject name value).object other = self.object other :=
  Function.update_of_ne different _ _

@[simp] theorem contents_setObject_self :
    (self.setObject name value).contents name = self.contentsOf value := by
  rw [contents, object_setObject_self]
  rfl

theorem contents_setObject_of_ne
    (different : other ≠ name) :
    (self.setObject name value).contents other = self.contents other := by
  rw [contents, object_setObject_of_ne different]
  rfl

theorem Sound.setObject
    (sound : self.Sound)
    (fits : self.Fits value) : (self.setObject name value).Sound where
  fits := by
    intro other
    by_cases same : other = name
    · rw [same, object_setObject_self]
      exact ⟨fits.size_lt, fits.allocated, fits.inside⟩
    · rw [object_setObject_of_ne same]
      have fitsOther := sound.fits other
      exact ⟨fitsOther.size_lt, fitsOther.allocated, fitsOther.inside⟩
  length_lt := sound.length_lt

end SetObject

/-! ## A new block for an object -/

/-- Let an object refer to a new block. -/
def withBlock
    [DecidableEq ι]
    (self : Memory ι)
    (name : ι)
    (data : Data)
    (value : VariableLengthData) : Memory ι :=
  { self with blocks := self.blocks ++ [data] }.setObject name
    { value with data := some self.blocks.length }

section WithBlock

variable {self : Memory ι} {data : Data}

theorem bytesOf_append
    (allocated : block < self.blocks.length) :
    { self with blocks := self.blocks ++ [data] }.bytesOf block =
      self.bytesOf block := by
  rw [bytesOf, bytesOf, List.getElem?_append_left allocated]

theorem bytesOf_new :
    { self with blocks := self.blocks ++ [data] }.bytesOf self.blocks.length =
      data.bytes := by
  rw [bytesOf, List.getElem?_concat_length]
  rfl

theorem contentsOf_append
    (fits : self.Fits object) :
    { self with blocks := self.blocks ++ [data] }.contentsOf object =
      self.contentsOf object := by
  cases held : object.data with
  | none => rw [contentsOf_of_none held, contentsOf_of_none held]
  | some block =>
      rw [contentsOf_of_some held, contentsOf_of_some held,
        bytesOf_append (fits.allocated block held)]

theorem Sound.append
    (sound : self.Sound)
    (length_lt : data.bytes.length < 2 ^ 64) :
    { self with blocks := self.blocks ++ [data] }.Sound where
  fits := by
    intro name
    have fits := sound.fits name
    refine ⟨fits.size_lt, ?_, ?_⟩
    · intro block held
      rw [List.length_append]
      exact Nat.lt_add_right _ (fits.allocated block held)
    · intro block held
      rw [bytesOf_append (fits.allocated block held)]
      exact fits.inside block held
  length_lt := by
    intro block
    rw [bytesOf, List.getElem?_append]
    split
    next => exact sound.length_lt block
    next =>
      cases block - self.blocks.length with
      | zero => exact length_lt
      | succ _ => exact Nat.two_pow_pos 64

variable [DecidableEq ι] {name : ι} {value : VariableLengthData}

@[simp] theorem object_withBlock_self :
    (self.withBlock name data value).object name =
      { value with data := some self.blocks.length } :=
  object_setObject_self

theorem object_withBlock_of_ne
    (different : other ≠ name) :
    (self.withBlock name data value).object other = self.object other :=
  object_setObject_of_ne different

@[simp] theorem bytesOf_withBlock :
    (self.withBlock name data value).bytesOf self.blocks.length = data.bytes :=
  bytesOf_new

@[simp] theorem capacityOf_withBlock :
    (self.withBlock name data value).capacityOf self.blocks.length =
      data.capacity := by
  rw [capacityOf, withBlock, setObject]
  dsimp only
  rw [List.getElem?_concat_length]
  rfl

theorem contents_withBlock_self :
    (self.withBlock name data value).contents name =
      slice value.offset value.size data.bytes := by
  rw [contents, object_withBlock_self, contentsOf]
  dsimp only
  rw [bytesOf_withBlock]

theorem contents_withBlock_of_ne
    (sound : self.Sound)
    {other : ι}
    (different : other ≠ name) :
    (self.withBlock name data value).contents other = self.contents other := by
  rw [withBlock, contents_setObject_of_ne different]
  exact contentsOf_append (sound.fits other)

theorem Sound.withBlock
    (sound : self.Sound)
    (length_lt : data.bytes.length < 2 ^ 64)
    (size_lt : value.size < 2 ^ 64)
    (inside :
      value.size = 0 ∨ value.offset + value.size ≤ data.bytes.length) :
    (self.withBlock name data value).Sound := by
  apply (sound.append length_lt).setObject
  refine ⟨size_lt, ?_, ?_⟩
  · intro block held
    rw [← Option.some.inj held, List.length_append]
    exact Nat.lt_succ_self _
  · intro block held
    rw [← Option.some.inj held, bytesOf_new]
    exact inside

theorem Sound.unshared_withBlock
    (sound : self.Sound) :
    (self.withBlock name data value).Unshared name self.blocks.length := by
  refine ⟨by rw [object_withBlock_self], ?_⟩
  intro other different held
  rw [object_withBlock_of_ne different] at held
  exact Nat.lt_irrefl _ ((sound.fits other).allocated _ held)

end WithBlock

/-! ## Other bytes in a block -/

section SetBytes

variable {self : Memory ι} {block : Nat} {bytes : Bytes}

theorem bytesOf_setBytes_of_ne
    {other : Nat}
    (different : other ≠ block) :
    (self.setBytes block bytes).bytesOf other = self.bytesOf other := by
  rw [bytesOf, bytesOf, setBytes]
  dsimp only
  rw [List.getElem?_modify_ne _ _ different.symm]

theorem bytesOf_setBytes_self
    (allocated : block < self.blocks.length) :
    (self.setBytes block bytes).bytesOf block = bytes := by
  rw [bytesOf, setBytes, List.getElem?_modify_eq,
    List.getElem?_eq_getElem allocated]
  rfl

@[simp] theorem capacityOf_setBytes (other : Nat) :
    (self.setBytes block bytes).capacityOf other = self.capacityOf other := by
  rw [capacityOf, capacityOf, setBytes, List.getElem?_modify]
  cases self.blocks[other]? with
  | none => rfl
  | some data =>
      simp only [Option.map_eq_map, Option.map_some, Option.getD_some]
      split <;> rfl

theorem length_bytesOf_setBytes
    (same : bytes.length = (self.bytesOf block).length)
    (other : Nat) :
    ((self.setBytes block bytes).bytesOf other).length =
      (self.bytesOf other).length := by
  by_cases equal : other = block
  · rw [equal]
    by_cases allocated : block < self.blocks.length
    · rw [bytesOf_setBytes_self allocated, same]
    · have missing := List.getElem?_eq_none (Nat.not_lt.mp allocated)
      rw [bytesOf, bytesOf, setBytes]
      dsimp only
      rw [List.getElem?_modify_eq, missing]
      rfl
  · rw [bytesOf_setBytes_of_ne equal]

theorem Sound.setBytes
    (sound : self.Sound)
    (allocated : block < self.blocks.length)
    (length_lt : bytes.length < 2 ^ 64)
    (inside : ∀ name, (self.object name).data = some block →
      (self.object name).size = 0 ∨
        (self.object name).offset + (self.object name).size ≤ bytes.length) :
    (self.setBytes block bytes).Sound where
  fits := by
    intro name
    have fits := sound.fits name
    refine ⟨fits.size_lt, ?_, ?_⟩
    · intro other held
      rw [Memory.setBytes, List.length_modify]
      exact fits.allocated other held
    · intro other held
      by_cases equal : other = block
      · rw [equal, bytesOf_setBytes_self allocated]
        exact inside name (held.trans (congrArg some equal))
      · rw [bytesOf_setBytes_of_ne equal]
        exact fits.inside other held
  length_lt := by
    intro other
    by_cases equal : other = block
    · rw [equal, bytesOf_setBytes_self allocated]
      exact length_lt
    · rw [bytesOf_setBytes_of_ne equal]
      exact sound.length_lt other

theorem contents_setBytes_of_ne
    {name : ι}
    (different : (self.object name).data ≠ some block) :
    (self.setBytes block bytes).contents name = self.contents name := by
  rw [contents, contents]
  change (self.setBytes block bytes).contentsOf (self.object name) = _
  cases held : (self.object name).data with
  | none => rw [contentsOf_of_none held, contentsOf_of_none held]
  | some other =>
      rw [contentsOf_of_some held, contentsOf_of_some held,
        bytesOf_setBytes_of_ne]
      intro equal
      exact different (held.trans (congrArg some equal))

theorem contents_setBytes_self
    {name : ι}
    (held : (self.object name).data = some block)
    (allocated : block < self.blocks.length) :
    (self.setBytes block bytes).contents name =
      slice (self.object name).offset (self.object name).size bytes := by
  rw [contents]
  change (self.setBytes block bytes).contentsOf (self.object name) = _
  rw [contentsOf_of_some held, bytesOf_setBytes_self allocated]

/-- The bytes of a new block. -/
theorem setBytes_append
    {data : Data} :
    { self with blocks := self.blocks ++ [data] }.setBytes self.blocks.length
        bytes =
      { self with blocks := self.blocks ++ [{ data with bytes }] } := by
  rw [setBytes]
  dsimp only
  congr 1
  generalize self.blocks = blocks
  induction blocks with
  | nil => rfl
  | cons block blocks ih =>
      exact congrArg (block :: ·) ih

end SetBytes

/-! ## Reading and writing -/

section

variable {self : Memory ι} {name : ι}

theorem count_le_one_iff
    [Fintype ι]
    (held : (self.object name).data = some block) :
    self.count (some block) ≤ 1 ↔ self.Unshared name block := by
  rw [count, Finset.card_le_one]
  simp only [Finset.mem_filter, Finset.mem_univ, true_and]
  constructor
  · intro single
    refine ⟨held, ?_⟩
    intro other different held'
    exact different (single other held' name held)
  · intro unshared first heldFirst second heldSecond
    have isName : ∀ other, (self.object other).data = some block →
        other = name := by
      intro other held'
      by_contra different
      exact unshared.2 other different held'
    rw [isName first heldFirst, isName second heldSecond]

/-- A place of an object does not wrap around. -/
theorem Sound.position_eq
    (sound : self.Sound)
    {block offset : Nat}
    (held : (self.object name).data = some block)
    (inside : offset < (self.object name).size) :
    sizeT ((self.object name).offset + offset) =
      (self.object name).offset + offset := by
  have fits := (sound.fits name).inside block held
  have length_lt := sound.length_lt block
  rw [sizeT]
  omega

theorem load_zero (source : Pointer) : self.load source 0 = some [] := by
  rw [load.eq_def, if_pos rfl]

variable {position size : Nat}

theorem load_some
    (inside : position + size ≤ (self.bytesOf block).length) :
    self.load (some (block, position)) size =
      some (slice position size (self.bytesOf block)) := by
  rw [load.eq_def]
  split
  next empty => rw [empty, slice_zero]
  next => exact if_pos inside

theorem store_nil (destination : Pointer) :
    self.store destination [] = some self := by
  rw [store.eq_def, if_pos rfl]

theorem store_some
    {values : Bytes}
    (present : values ≠ [])
    (inside : position + values.length ≤ (self.bytesOf block).length) :
    self.store (some (block, position)) values =
      some (self.setBytes block
        (overwrite position values (self.bytesOf block))) := by
  rw [store.eq_def, if_neg present]
  exact if_pos inside

theorem overlap_of_ne
    {block' position' : Nat}
    (different : block ≠ block') :
    overlap size (some (block, position)) (some (block', position')) =
      false := by
  rw [overlap, decide_eq_false]
  exact fun common => different common.1

theorem memcpy_of_not_overlap
    {destination source : Pointer}
    (apart : overlap size destination source = false) :
    self.memcpy destination source size =
      (self.load source size).bind (self.store destination) := by
  rw [memcpy, apart]
  exact if_neg fun overlapping => Bool.false_ne_true overlapping.2

/-- The bytes of an object are read. -/
theorem Sound.load_constData
    (sound : self.Sound)
    (readable :
      (self.object name).size = 0 ∨ (self.object name).data ≠ none) :
    self.load (self.constData name 0) (self.object name).size =
      some (self.contents name) := by
  by_cases empty : (self.object name).size = 0
  · rw [empty, load_zero, contents, contentsOf_of_size_eq_zero empty]
  · obtain ⟨block, held⟩ :=
      Option.ne_none_iff_exists'.mp (readable.resolve_left empty)
    have inside :=
      ((sound.fits name).inside block held).resolve_left empty
    rw [constData, held, Option.map_some,
      sound.position_eq held (Nat.pos_of_ne_zero empty), Nat.add_zero,
      load_some inside, contents, contentsOf_of_some held]

/-- A byte of an object is read. -/
theorem Sound.getUInt8_eq
    (sound : self.Sound)
    {block offset : Nat}
    (held : (self.object name).data = some block)
    (inside : offset < (self.object name).size) :
    self.getUInt8 name offset = (self.contents name)[offset]? := by
  have fits := ((sound.fits name).inside block held).resolve_left (by omega)
  rw [getUInt8, constData, held, Option.map_some,
    sound.position_eq held inside, load_some (by omega), Option.bind_some,
    List.head?_eq_getElem?, getElem?_slice, if_pos Nat.one_pos, Nat.add_zero,
    contents, contentsOf_of_some held, getElem?_slice, if_pos inside]

/-- Bytes are written into a block that no other object refers to. -/
theorem Sound.store_unshared
    (sound : self.Sound)
    {block offset : Nat} {values : Bytes}
    (unshared : self.Unshared name block)
    (present : values ≠ [])
    (inside : offset + values.length ≤ (self.object name).size) :
    let bytes := overwrite ((self.object name).offset + offset) values
      (self.bytesOf block)
    self.store (some (block, sizeT ((self.object name).offset + offset)))
        values = some (self.setBytes block bytes) ∧
      (self.setBytes block bytes).Sound ∧
      (self.setBytes block bytes).contents name =
        overwrite offset values (self.contents name) ∧
      ∀ other, other ≠ name →
        (self.setBytes block bytes).contents other = self.contents other := by
  intro bytes
  have positive : 0 < values.length := List.length_pos_iff.mpr present
  have held := unshared.1
  have fits := sound.fits name
  have within := (fits.inside block held).resolve_left (by omega)
  have first : offset < (self.object name).size := by omega
  have place := sound.position_eq held first
  have last : (self.object name).offset + offset + values.length ≤
      (self.bytesOf block).length := by
    omega
  have length : bytes.length = (self.bytesOf block).length :=
    length_overwrite last
  refine ⟨?_, ?_, ?_, ?_⟩
  · rw [place, store_some present last]
  · apply sound.setBytes (fits.allocated block held)
    · rw [length]
      exact sound.length_lt block
    · intro other heldOther
      rw [length]
      exact (sound.fits other).inside block heldOther
  · rw [contents_setBytes_self held (fits.allocated block held),
      slice_overwrite inside within, contents, contentsOf_of_some held]
  · intro other different
    exact contents_setBytes_of_ne (unshared.2 other different)

/-- Bytes are copied without a change of objects or sizes. -/
theorem object_memcpy
    {after : Memory ι} {destination from_ : Pointer}
    (copied : self.memcpy destination from_ size = some after) :
    after.object = self.object ∧
      ∀ block, after.capacityOf block = self.capacityOf block ∧
        (after.bytesOf block).length = (self.bytesOf block).length := by
  rw [memcpy] at copied
  split at copied
  next => cases copied
  next =>
    obtain ⟨values, _, stored⟩ := Option.bind_eq_some_iff.mp copied
    rw [store.eq_def] at stored
    split at stored
    next =>
      cases stored
      exact ⟨rfl, fun _ => ⟨rfl, rfl⟩⟩
    next =>
      cases destination with
      | none => cases stored
      | some place =>
          dsimp only at stored
          split at stored
          next inside =>
            cases stored
            exact ⟨rfl, fun _ => ⟨capacityOf_setBytes _,
              length_bytesOf_setBytes (length_overwrite inside) _⟩⟩
          next => cases stored

end

end Memory

end CopyOnWrite
end OpenRTI
