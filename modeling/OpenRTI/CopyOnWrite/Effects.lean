import OpenRTI.CopyOnWrite.SoundMemory

/-!
# Effects of the storage operations

An object is moved to a block of its own when it needs space or is written to.
The bytes of all objects stay the same, provided that the size of the new block
has been computed from the true size of the old one.
-/

namespace OpenRTI
namespace CopyOnWrite

open Foundation

namespace Memory

variable {ι : Type*} (sizeOfData : Nat)

/-! ## Sizes that are computed rightly -/

/-- The size of a block with its header does not wrap around. -/
def Allocatable (capacity : Nat) : Prop := capacity + sizeOfData < 2 ^ 64

/-- A first block has a place for bytes behind the offset of an object. -/
def CanAttach (self : Memory ι) (name : ι) (cap size : Nat) : Prop :=
  Allocatable sizeOfData (max 512 cap) ∧
    (size = 0 ∨ (self.object name).offset + size ≤ max 512 cap)

/-- A first block or a larger one has a place for the bytes of an object. -/
def CanReserve (self : Memory ι) (name : ι) (cap : Nat) : Prop :=
  if (self.object name).data = none then
    self.CanAttach sizeOfData name cap (self.object name).size
  else
    self.capacity name < max 512 cap → Allocatable sizeOfData (max 512 cap)

/-- The capacity of a shared block has a place for bytes. -/
def CanCopy [Fintype ι] (self : Memory ι) (name : ι) (size : Nat) : Prop :=
  1 < self.count (self.object name).data →
    Allocatable sizeOfData (self.capacity name) ∧ size ≤ self.capacity name

/-- An object of a size gets a block that only it refers to. -/
def CanWrite
    [Fintype ι]
    (self : Memory ι)
    (name : ι)
    (size : Nat) : Prop :=
  if (self.object name).data = none then
    self.CanAttach sizeOfData name size size
  else self.CanCopy sizeOfData name size

/-- The capacity that `resize` asks for. -/
def grownCapacity (self : Memory ι) (name : ι) (size : Nat) : Nat :=
  max 512 (max size (sizeT (2 * self.capacity name)))

/-- An object that has a block is moved to a block that is large enough, or its
block is already so. -/
def CanResize (self : Memory ι) (name : ι) (size : Nat) : Prop :=
  ∀ block, (self.object name).data = some block →
    if self.capacity name < size then
      Allocatable sizeOfData (self.grownCapacity name size) ∧
        (self.object name).size ≤ self.grownCapacity name size
    else
      size = 0 ∨
        (self.object name).offset + size ≤ (self.bytesOf block).length

/-! ## Other blocks for the same bytes -/

/-- An object is moved to another block. -/
structure Relocates (before after : Memory ι) (name : ι) : Prop where
  sound : after.Sound
  object : ∀ other, other ≠ name → after.object other = before.object other
  size : (after.object name).size = (before.object name).size
  contents : ∀ other, after.contents other = before.contents other

theorem Relocates.refl
    {self : Memory ι}
    (sound : self.Sound)
    (name : ι) : self.Relocates self name :=
  ⟨sound, fun _ _ => rfl, rfl, fun _ => rfl⟩

section

variable {sizeOfData} {self : Memory ι} {name : ι}

variable {capacity : Nat}

theorem createOwnData_eq
    (allocatable : Allocatable sizeOfData capacity) :
    self.createOwnData sizeOfData capacity =
      some ({ self with
        blocks := self.blocks ++
          [{ capacity, own := true, bytes := List.replicate capacity none }] },
        self.blocks.length) :=
  if_pos allocatable

theorem Allocatable.lt
    (allocatable : Allocatable sizeOfData capacity) : capacity < 2 ^ 64 :=
  Nat.lt_of_le_of_lt (Nat.le_add_right _ _) allocatable

/-- Bytes are written to the start of a new block. -/
theorem store_new
    {data : Data} {values : Bytes}
    (room : values.length ≤ data.bytes.length) :
    { self with blocks := self.blocks ++ [data] }.store
        (some (self.blocks.length, 0)) values =
      some { self with
        blocks := self.blocks ++
          [{ data with bytes := overwrite 0 values data.bytes }] } := by
  by_cases empty : values = []
  · rw [empty, store_nil, overwrite, List.take_zero, List.length_nil,
      List.drop_zero]
    rfl
  · rw [store_some empty]
    · rw [bytesOf_new, setBytes_append]
    · rw [bytesOf_new, Nat.zero_add]
      exact room

variable [DecidableEq ι]

/-- A new block with a copy of the bytes of an object. -/
def relocate
    (self : Memory ι)
    (name : ι)
    (capacity : Nat) : Memory ι :=
  self.withBlock name
    { capacity, own := true,
      bytes := overwrite 0 (self.contents name)
        (List.replicate capacity none) }
    { self.object name with offset := 0 }

variable {block : Nat}

theorem copyToOwnData_eq
    (sound : self.Sound)
    (held : (self.object name).data = some block)
    (allocatable : Allocatable sizeOfData capacity)
    (room : (self.object name).size ≤ capacity) :
    self.copyToOwnData sizeOfData name capacity =
      some (self.relocate name capacity) := by
  have readable :
      (self.object name).size = 0 ∨ (self.object name).data ≠ none := by
    rw [held]
    exact Or.inr (Option.some_ne_none block)
  have fits := sound.fits name
  have length := sound.length_contents name
  let created : Memory ι :=
    { self with
      blocks := self.blocks ++
        [{ capacity, own := true, bytes := List.replicate capacity none }] }
  have loaded : created.load (self.constData name 0) (self.object name).size =
      some (self.contents name) := by
    have soundCreated : created.Sound := by
      apply sound.append
      rw [List.length_replicate]
      exact Nat.lt_of_le_of_lt (Nat.le_add_right _ _) allocatable
    have read := soundCreated.load_constData readable
    rw [contents] at read
    rw [contents, ← contentsOf_append fits]
    exact read
  have stored := @store_new _ self
    { capacity, own := true, bytes := List.replicate capacity none }
    (self.contents name) (by rw [List.length_replicate, length]; exact room)
  have apart : overlap (self.object name).size
      (some (self.blocks.length, 0)) (self.constData name 0) = false := by
    rw [constData, held, Option.map_some]
    exact overlap_of_ne (Nat.ne_of_gt (fits.allocated block held))
  rw [copyToOwnData, createOwnData_eq allocatable]
  simp only [Option.bind_eq_bind, Option.bind_some]
  rw [memcpy_of_not_overlap apart, loaded, Option.bind_some, stored]
  rfl

theorem relocate_spec
    (sound : self.Sound)
    (capacity_lt : capacity < 2 ^ 64)
    (room : (self.object name).size ≤ capacity) :
    self.Relocates (self.relocate name capacity) name ∧
      (self.relocate name capacity).Unshared name self.blocks.length := by
  have length := sound.length_contents name
  have bytes : (overwrite 0 (self.contents name)
      (List.replicate capacity none)).length = capacity := by
    rw [length_overwrite, List.length_replicate]
    rw [List.length_replicate, length, Nat.zero_add]
    exact room
  refine ⟨⟨?_, ?_, ?_, ?_⟩, sound.unshared_withBlock⟩
  · apply sound.withBlock
    · rw [bytes]
      exact capacity_lt
    · exact (sound.fits name).size_lt
    · right
      rw [bytes, Nat.zero_add]
      exact room
  · intro other different
    exact object_withBlock_of_ne different
  · rw [relocate, object_withBlock_self]
  · intro other
    by_cases same : other = name
    · rw [same, relocate, contents_withBlock_self, ← length]
      exact slice_overwrite_self (Nat.zero_le _)
    · exact contents_withBlock_of_ne sound same

/-- A first block for an object. -/
def attach
    (self : Memory ι)
    (name : ι)
    (capacity : Nat) : Memory ι :=
  self.withBlock name
    { capacity, own := true, bytes := List.replicate capacity none }
    (self.object name)

theorem attach_spec
    (sound : self.Sound)
    (capacity_lt : capacity < 2 ^ 64)
    (unallocated : (self.object name).data = none)
    (room : (self.object name).size = 0 ∨
      (self.object name).offset + (self.object name).size ≤ capacity) :
    self.Relocates (self.attach name capacity) name ∧
      (self.attach name capacity).Unshared name self.blocks.length := by
  refine ⟨⟨?_, ?_, ?_, ?_⟩, sound.unshared_withBlock⟩
  · apply sound.withBlock
    · rw [List.length_replicate]
      exact capacity_lt
    · exact (sound.fits name).size_lt
    · rw [List.length_replicate]
      exact room
  · intro other different
    exact object_withBlock_of_ne different
  · rw [attach, object_withBlock_self]
  · intro other
    by_cases same : other = name
    · rw [same, attach, contents_withBlock_self, contents,
        contentsOf_of_none unallocated, slice, List.drop_replicate,
        List.take_replicate]
      congr 1
      omega
    · exact contents_withBlock_of_ne sound same

variable {cap : Nat}

theorem reserve_of_none
    (unallocated : (self.object name).data = none)
    (allocatable : Allocatable sizeOfData (max 512 cap)) :
    self.reserve sizeOfData name cap =
      some (self.attach name (max 512 cap)) := by
  rw [reserve.eq_def, unallocated]
  dsimp only
  rw [createOwnData_eq allocatable]
  rfl

theorem reserve_of_some
    (held : (self.object name).data = some block) :
    self.reserve sizeOfData name cap =
      if self.capacity name < max 512 cap then
        self.copyToOwnData sizeOfData name (max 512 cap)
      else some self := by
  rw [reserve.eq_def, held]

/-- Space is reserved behind the bytes of an object. -/
theorem reserve_spec
    (sound : self.Sound)
    (enough : (self.object name).size ≤ cap)
    (reserve : self.CanReserve sizeOfData name cap) :
    ∃ after, self.reserve sizeOfData name cap = some after ∧
      self.Relocates after name := by
  rw [CanReserve] at reserve
  cases held : (self.object name).data with
  | none =>
      rw [if_pos held] at reserve
      obtain ⟨allocatable, room⟩ := reserve
      exact ⟨_, reserve_of_none held allocatable,
        (attach_spec sound allocatable.lt held room).1⟩
  | some block =>
      rw [if_neg (held ▸ Option.some_ne_none block)] at reserve
      rw [reserve_of_some held]
      split
      next small =>
        have allocatable := reserve small
        have room : (self.object name).size ≤ max 512 cap :=
          Nat.le_trans enough (Nat.le_max_right _ _)
        exact ⟨_, copyToOwnData_eq sound held allocatable room,
          (relocate_spec sound allocatable.lt room).1⟩
      next => exact ⟨self, rfl, .refl sound name⟩

variable [Fintype ι]

/-- An object gets a block that only it refers to. -/
theorem ensurePrivate_spec
    (sound : self.Sound)
    (held : (self.object name).data = some block)
    (copy : self.CanCopy sizeOfData name (self.object name).size) :
    ∃ after block', self.ensurePrivate sizeOfData name = some after ∧
      self.Relocates after name ∧ after.Unshared name block' := by
  rw [ensurePrivate]
  split
  next single =>
    rw [held] at single
    exact ⟨self, block, rfl, .refl sound name,
      (count_le_one_iff held).mp single⟩
  next shared =>
    obtain ⟨allocatable, room⟩ := copy (Nat.lt_of_not_le shared)
    have moved := relocate_spec sound allocatable.lt room
    exact ⟨_, _, copyToOwnData_eq sound held allocatable room, moved.1,
      moved.2⟩

/-- The pointer for writing points into a block of the object alone. -/
theorem data_spec
    (sound : self.Sound)
    (present : (self.object name).size ≠ 0)
    (write : self.CanWrite sizeOfData name (self.object name).size)
    (offset : Nat) :
    ∃ after block,
      self.data sizeOfData name offset =
          some (after,
            some (block, sizeT ((after.object name).offset + offset))) ∧
        self.Relocates after name ∧ after.Unshared name block := by
  rw [CanWrite] at write
  rw [data.eq_def, if_neg present]
  cases held : (self.object name).data with
  | none =>
      rw [if_pos held] at write
      obtain ⟨allocatable, room⟩ := write
      have moved := attach_spec sound allocatable.lt held room
      refine ⟨_, _, ?_, moved⟩
      dsimp only
      rw [reserve_of_none held allocatable]
      simp only [Option.bind_eq_bind, Option.bind_some, constData,
        moved.2.1, Option.map_some]
      rfl
  | some block =>
      rw [if_neg (held ▸ Option.some_ne_none block)] at write
      obtain ⟨after, block', private_, moved, unshared⟩ :=
        ensurePrivate_spec sound held write
      refine ⟨after, block', ?_, moved, unshared⟩
      dsimp only
      rw [private_]
      simp only [Option.bind_eq_bind, Option.bind_some, constData,
        unshared.1, Option.map_some]
      rfl

end

end Memory

end CopyOnWrite
end OpenRTI
