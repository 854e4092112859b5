import OpenRTI.CopyOnWrite.OperationEffects

/-!
# Effects of constructions and exchanges

Objects are constructed with bytes of their own or share the block of the object
that they are constructed from.  Exchanges change two objects.
-/

namespace OpenRTI
namespace CopyOnWrite

open Foundation

namespace Memory

variable {ι : Type*} {sizeOfData : Nat} {self : Memory ι} {name source : ι}


/-- The fields of an object for a range of its bytes. -/
theorem range_spec
    (sound : self.Sound)
    {offset size : Nat}
    (inside : offset + size ≤ (self.object source).size) :
    let value : VariableLengthData :=
      { data := (self.object source).data
        size
        offset := sizeT ((self.object source).offset + offset) }
    self.Fits value ∧
      self.contentsOf value = slice offset size (self.contents source) := by
  intro value
  have fits := sound.fits source
  have size_lt : size < 2 ^ 64 :=
    Nat.lt_of_le_of_lt (Nat.le_trans (Nat.le_add_left _ _) inside) fits.size_lt
  rw [contents]
  cases held : (self.object source).data with
  | none =>
      have unallocated : value.data = none := held
      have none_ : ∀ block, value.data ≠ some block := by
        intro block
        rw [unallocated]
        exact (Option.some_ne_none block).symm
      refine ⟨⟨size_lt, ?_, ?_⟩, ?_⟩
      · intro block held'
        exact absurd held' (none_ block)
      · intro block held'
        exact absurd held' (none_ block)
      · rw [contentsOf_of_none unallocated, contentsOf_of_none held, slice,
          List.drop_replicate, List.take_replicate]
        congr 1
        exact (Nat.min_eq_left (Nat.le_sub_of_add_le' inside)).symm
  | some block =>
      have heldValue : value.data = some block := held
      have position : size = 0 ∨
          value.offset = (self.object source).offset + offset := by
        refine or_iff_not_imp_left.mpr fun present => ?_
        exact sound.position_eq held (by omega)
      refine ⟨⟨size_lt, fits.allocated, ?_⟩, ?_⟩
      · intro block' held'
        by_cases empty : size = 0
        · exact Or.inl empty
        · right
          have place := position.resolve_left empty
          have within := (fits.inside block' held').resolve_left (by omega)
          rw [place]
          change (self.object source).offset + offset + size ≤ _
          omega
      · rw [contentsOf_of_some heldValue, contentsOf_of_some held,
          slice_slice inside]
        cases position with
        | inl empty =>
            rw [slice, slice, show value.size = 0 from empty, empty,
              List.take_zero, List.take_zero]
        | inr place => rw [place]

theorem sizeTSub_of_le
    {minuend subtrahend : Nat}
    (bounded : minuend < 2 ^ 64)
    (less : subtrahend ≤ minuend) :
    sizeTSub minuend subtrahend = minuend - subtrahend := by
  rw [sizeTSub, sizeT]
  omega

/-- The bytes of a block were not taken over. -/
def ownOf (self : Memory ι) (block : Nat) : Bool :=
  (self.blocks[block]?.map Data.own).getD true

/-- No other object has bytes in a block that was taken over. -/
def CanClear (self : Memory ι) (name : ι) : Prop :=
  ∀ block, (self.object name).data = some block → self.ownOf block = false →
    ∀ other, other ≠ name → (self.object other).data = some block →
      (self.object other).size = 0

theorem modify_clear (block : Nat) :
    { self with blocks := self.blocks.modify block Data.clear } =
      if self.ownOf block then self else self.setBytes block [] := by
  have cleared : ∀ change : Data → Data,
      (∀ data, self.blocks[block]? = some data →
        data.clear = change data) →
      self.blocks.modify block Data.clear = self.blocks.modify block change := by
    intro change same
    apply List.ext_getElem?
    intro index
    rw [List.getElem?_modify, List.getElem?_modify]
    cases found : self.blocks[index]? with
    | none => rfl
    | some data =>
        by_cases equal : block = index
        · rw [← equal] at found
          simp [equal, same data found]
        · simp [equal]
  split
  next own =>
    rw [cleared id, List.modify_id]
    intro data found
    rw [ownOf, found] at own
    exact if_pos own
  next external =>
    rw [cleared fun data => { data with bytes := [] }]
    · rfl
    · intro data found
      rw [ownOf, found] at external
      exact if_neg external

/-- A block that only one object refers to, from its start on. -/
structure Roomy (memory : Memory ι) (name : ι) (cap : Nat) : Prop where
  cap_lt : cap < 2 ^ 64
  offset : (memory.object name).offset = 0
  block : ∃ block, memory.Unshared name block ∧
    memory.capacityOf block = cap ∧ (memory.bytesOf block).length = cap

theorem Roomy.capacity
    {cap : Nat}
    (roomy : self.Roomy name cap) : self.capacity name = cap := by
  obtain ⟨block, unshared, capacity, _⟩ := roomy.block
  rw [Memory.capacity.eq_def, unshared.1]
  dsimp only
  rw [capacity, roomy.offset, sizeTSub_zero roomy.cap_lt]

theorem Roomy.memcpy
    {cap : Nat}
    (roomy : self.Roomy name cap)
    {after : Memory ι} {destination from_ : Pointer}
    {size : Nat}
    (copied : self.memcpy destination from_ size = some after) :
    after.Roomy name cap := by
  obtain ⟨object, same⟩ := object_memcpy copied
  obtain ⟨block, unshared, capacity, length⟩ := roomy.block
  refine ⟨roomy.cap_lt, ?_, block, ?_, ?_, ?_⟩
  · rw [object]
    exact roomy.offset
  · rw [Unshared, object]
    exact unshared
  · rw [(same block).1]
    exact capacity
  · rw [(same block).2]
    exact length

theorem Roomy.canAppend
    [Fintype ι]
    {cap : Nat}
    (roomy : self.Roomy name cap)
    (room : (self.object name).size + (self.object source).size ≤ cap)
    (different : source ≠ name)
    (readable : self.CanRead source) :
    self.CanAppend sizeOfData name source := by
  obtain ⟨block, unshared, _, length⟩ := roomy.block
  refine ⟨Nat.lt_of_le_of_lt room roomy.cap_lt, readable, Or.inr different,
    Or.inr ?_, Or.inr (Or.inr (unshared.canWrite _ _))⟩
  intro block' held
  rw [unshared.1] at held
  rw [roomy.capacity, if_neg (Nat.not_lt.mpr room), roomy.offset, Nat.zero_add,
    ← Option.some.inj held, length]
  exact Or.inr room

/-- The sizes of several objects are added up. -/
theorem foldl_size
    (sound : self.Sound)
    {sources : List ι} {start : Nat}
    (bounded :
      start + (sources.map self.contents).flatten.length < 2 ^ 64) :
    sources.foldl
        (fun size source => sizeT (size + (self.object source).size)) start =
      start + (sources.map self.contents).flatten.length := by
  induction sources generalizing start with
  | nil => rfl
  | cons source sources ih =>
      rw [List.map_cons, List.flatten_cons, List.length_append,
        sound.length_contents] at bounded ⊢
      rw [List.foldl_cons, sizeT, Nat.mod_eq_of_lt (by omega),
        ih (by omega), Nat.add_assoc]

variable [DecidableEq ι]

/-! ## Bytes of their own -/

theorem constructData_spec
    (sound : self.Sound)
    {bytes : Bytes}
    (allocatable : Allocatable sizeOfData bytes.length) :
    ∃ after, self.constructData sizeOfData name bytes = some after ∧
      self.Updates after name bytes := by
  let data : Data :=
    { capacity := bytes.length, own := true,
      bytes := List.replicate bytes.length none }
  have room : bytes.length ≤ data.bytes.length :=
    Nat.le_of_eq List.length_replicate.symm
  have whole : overwrite 0 bytes data.bytes = bytes := by
    rw [overwrite_end, List.take_zero, List.nil_append]
    rw [Nat.zero_add]
    exact List.length_replicate.symm
  have constructed : self.constructData sizeOfData name bytes =
      some (self.withBlock name { data with bytes }
        { size := bytes.length }) := by
    rw [constructData, createOwnData_eq allocatable]
    simp only [Option.bind_eq_bind, Option.bind_some]
    rw [store_new room, whole]
    rfl
  refine ⟨_, constructed, ?_, ?_, ?_, ?_⟩
  · exact sound.withBlock allocatable.lt allocatable.lt
      (Or.inr (Nat.le_of_eq (Nat.zero_add _)))
  · exact fun _ different => object_withBlock_of_ne different
  · rw [contents_withBlock_self]
    dsimp only
    rw [slice_all rfl]
    exact .refl _
  · exact fun _ different => contents_withBlock_of_ne sound different

theorem takeDataPointer_spec
    (sound : self.Sound)
    {bytes : Bytes}
    (size_lt : bytes.length < 2 ^ 64) :
    self.Updates (self.takeDataPointer name bytes) name bytes := by
  have taken : self.takeDataPointer name bytes =
      self.withBlock name { capacity := 0, own := false, bytes }
        { size := bytes.length } := rfl
  rw [taken]
  refine ⟨?_, ?_, ?_, ?_⟩
  · exact sound.withBlock size_lt size_lt
      (Or.inr (Nat.le_of_eq (Nat.zero_add _)))
  · exact fun _ different => object_withBlock_of_ne different
  · rw [contents_withBlock_self]
    dsimp only
    rw [slice_all rfl]
    exact .refl _
  · exact fun _ different => contents_withBlock_of_ne sound different

theorem construct_spec
    (sound : self.Sound)
    {size : Nat}
    (size_lt : size < 2 ^ 64) :
    self.Updates (self.setObject name { size }) name
      (List.replicate size none) := by
  have fits : self.Fits { size } := ⟨size_lt, nofun, nofun⟩
  have unwritten : self.contentsOf { size } = List.replicate size none :=
    contentsOf_of_none rfl
  rw [← unwritten]
  exact sound.updates_setObject fits

/-! ## Shared bytes -/

theorem copy_spec
    (sound : self.Sound) :
    self.Updates (self.copy name source) name (self.contents source) :=
  sound.updates_setObject (sound.fits source)

theorem constructRange_spec
    (sound : self.Sound)
    {offset size : Nat}
    (inside : offset + size ≤ (self.object source).size) :
    self.Updates (self.constructRange name source offset size) name
      (slice offset size (self.contents source)) := by
  obtain ⟨fits, bytes⟩ := range_spec sound inside
  rw [← bytes]
  exact sound.updates_setObject fits

theorem getVariableLengthData_spec
    (sound : self.Sound)
    {offset : Nat}
    (inside : offset ≤ (self.object source).size) :
    self.Updates (self.getVariableLengthData name source offset) name
      ((self.contents source).drop offset) := by
  have size : sizeTSub (self.object source).size offset =
      (self.object source).size - offset :=
    sizeTSub_of_le (sound.fits source).size_lt inside
  have rest : slice offset ((self.object source).size - offset)
      (self.contents source) = (self.contents source).drop offset := by
    rw [slice]
    apply List.take_of_length_le
    rw [List.length_drop, sound.length_contents]
  rw [getVariableLengthData, size, ← rest]
  exact constructRange_spec sound (by omega)

theorem tail_spec
    (sound : self.Sound)
    {offset : Nat}
    (inside : offset ≤ (self.object name).size) :
    self.Updates (self.tail name offset) name
      ((self.contents name).drop offset) := by
  have size : sizeTSub (self.object name).size offset =
      (self.object name).size - offset :=
    sizeTSub_of_le (sound.fits name).size_lt inside
  rw [tail]
  split
  next =>
    have range := @getVariableLengthData_spec _ self name name _ sound _ inside
    exact range
  next empty =>
    rw [not_not, size] at empty
    have nil : (self.contents name).drop offset = [] := by
      apply List.drop_of_length_le
      rw [sound.length_contents]
      omega
    rw [nil, size, empty]
    exact construct_spec sound (Nat.two_pow_pos 64)

/-! ## Bytes that are given back -/

theorem clear_spec
    (sound : self.Sound) (clear : self.CanClear name) :
    self.Updates (self.clear name) name [] := by
  let value := { self.object name with size := 0 }
  let emptied := self.setObject name value
  have isEmptied : self.Updates emptied name (resized 0 (self.contents name)) :=
    sound.updates_size (Nat.two_pow_pos 64) fun _ _ => Or.inl rfl
  have updates : self.Updates emptied name [] := by
    refine isEmptied.weaken ?_
    rw [resized, List.take_zero, Nat.zero_sub]
    exact .refl _
  rw [Memory.clear.eq_def]
  cases held : (self.object name).data with
  | none => exact updates
  | some block =>
      dsimp only
      rw [modify_clear]
      split
      next => exact updates
      next external =>
        have zero : ∀ other, (emptied.object other).data = some block →
            (emptied.object other).size = 0 := by
          intro other heldOther
          by_cases same : other = name
          · rw [same, object_setObject_self]
          · rw [object_setObject_of_ne same] at heldOther ⊢
            exact clear block held (Bool.eq_false_of_not_eq_true external) other
              same heldOther
        have allocated := (sound.fits name).allocated block held
        change self.Updates (emptied.setBytes block []) name []
        refine ⟨?_, updates.object, ?_, ?_⟩
        · exact updates.sound.setBytes allocated (Nat.two_pow_pos 64)
            fun other heldOther => Or.inl (zero other heldOther)
        · have nil : (emptied.setBytes block []).contents name = [] :=
            contentsOf_of_size_eq_zero (congrArg VariableLengthData.size
              object_setObject_self)
          rw [nil]
          exact .nil
        · intro other different
          rw [← updates.others other different]
          by_cases heldOther : (emptied.object other).data = some block
          · have nil : ∀ memory : Memory ι,
                memory.object other = emptied.object other →
                  memory.contents other = [] := by
              intro memory same
              apply contentsOf_of_size_eq_zero
              rw [same]
              exact zero other heldOther
            rw [nil emptied rfl, nil (emptied.setBytes block []) rfl]
          · exact contents_setBytes_of_ne heldOther

/-! ## The bytes of several objects -/

namespace Roomy

variable {cap : Nat}

theorem size (roomy : self.Roomy name cap) (size : Nat) :
    (self.setObject name { self.object name with size }).Roomy name cap where
  cap_lt := roomy.cap_lt
  offset := by
    rw [object_setObject_self]
    exact roomy.offset
  block := by
    obtain ⟨block, unshared, capacity, length⟩ := roomy.block
    exact ⟨block, unshared.size size, capacity, length⟩

theorem resize
    (roomy : self.Roomy name cap)
    {size : Nat}
    (room : size ≤ cap) :
    ∃ after, self.resize sizeOfData name size = some after ∧
      after.Roomy name cap := by
  by_cases same : size = (self.object name).size
  · exact ⟨self, if_pos same, roomy⟩
  · obtain ⟨block, unshared, _, _⟩ := roomy.block
    exact ⟨_, resize_of_room same unshared.1 (by rw [roomy.capacity]; exact room),
      roomy.size size⟩

variable [Fintype ι]

theorem data
    (roomy : self.Roomy name cap) (offset : Nat) :
    ∃ pointer, self.data sizeOfData name offset = some (self, pointer) := by
  obtain ⟨block, unshared, _, _⟩ := roomy.block
  rw [Memory.data.eq_def]
  split
  next => exact ⟨none, rfl⟩
  next =>
    rw [unshared.1]
    dsimp only
    rw [ensurePrivate, unshared.1,
      if_pos ((count_le_one_iff unshared.1).mpr unshared)]
    exact ⟨_, rfl⟩

theorem append
    (roomy : self.Roomy name cap)
    (room : (self.object name).size + (self.object source).size ≤ cap)
    {after : Memory ι}
    (appended : self.append sizeOfData name source = some after) :
    after.Roomy name cap := by
  have size_lt := Nat.lt_of_le_of_lt room roomy.cap_lt
  obtain ⟨resized, isResized, roomyResized⟩ :=
    @resize _ sizeOfData _ _ _ _ roomy _ room
  obtain ⟨pointer, isWritable⟩ :=
    @data _ sizeOfData _ _ _ _ _ roomyResized (self.object name).size
  rw [Memory.append, sizeT, Nat.mod_eq_of_lt size_lt, isResized] at appended
  simp only [Option.bind_eq_bind, Option.bind_some] at appended
  rw [isWritable, Option.bind_some] at appended
  exact roomyResized.memcpy appended

end Roomy

variable [Fintype ι]

theorem appendAll_spec
    (sound : self.Sound)
    {cap : Nat}
    (roomy : self.Roomy name cap)
    {sources : List ι}
    (different : name ∉ sources)
    (readable : ∀ source ∈ sources, self.CanRead source)
    (room : (self.contents name).length +
      (sources.map self.contents).flatten.length ≤ cap) :
    ∃ after,
      sources.foldlM (fun memory source =>
          memory.append sizeOfData name source) self = some after ∧
        self.Updates after name
          (self.contents name ++ (sources.map self.contents).flatten) := by
  induction sources generalizing self with
  | nil =>
      refine ⟨self, rfl, ?_⟩
      rw [List.map_nil, List.flatten_nil, List.append_nil]
      exact (Relocates.refl sound name).updates
  | cons source sources ih =>
      rw [List.mem_cons, not_or] at different
      rw [List.map_cons, List.flatten_cons, List.length_append,
        sound.length_contents name, sound.length_contents source] at room
      have roomFirst :
          (self.object name).size + (self.object source).size ≤ cap := by
        omega
      obtain ⟨next, appended, first⟩ := append_spec sound
        (roomy.canAppend roomFirst (Ne.symm different.1)
          (readable source List.mem_cons_self))
      have unchanged : ∀ other ∈ sources, other ≠ name := by
        intro other member same
        exact different.2 (same ▸ member)
      have contents :
          sources.map next.contents = sources.map self.contents :=
        List.map_congr_left fun other member =>
          first.others other (unchanged other member)
      have readableNext : ∀ other ∈ sources, next.CanRead other := by
        intro other member
        rw [CanRead, first.object other (unchanged other member)]
        exact readable other (List.mem_cons_of_mem _ member)
      have roomNext : (next.contents name).length +
          (sources.map next.contents).flatten.length ≤ cap := by
        rw [contents, first.contents.length_eq, List.length_append,
          sound.length_contents, sound.length_contents, Nat.add_assoc]
        exact room
      obtain ⟨after, appendedAll, rest⟩ := ih first.sound
        (roomy.append roomFirst appended) different.2 readableNext roomNext
      refine ⟨after, ?_, ?_⟩
      · rw [List.foldlM_cons, appended]
        exact appendedAll
      · rw [List.map_cons, List.flatten_cons, ← List.append_assoc]
        refine (first.trans rest).weaken ?_
        rw [contents]
        exact first.contents.append (.refl _)

theorem constructList_spec
    (sound : self.Sound)
    {sources : List ι}
    (different : name ∉ sources)
    (readable : ∀ source ∈ sources, self.CanRead source)
    (allocatable : Allocatable sizeOfData
      (max 512 (sources.map self.contents).flatten.length)) :
    ∃ after, self.constructList sizeOfData name sources = some after ∧
      self.Updates after name (sources.map self.contents).flatten := by
  let size := (sources.map self.contents).flatten.length
  let cap := max 512 size
  let emptied := self.setObject name {}
  have total : sources.foldl
      (fun size source => sizeT (size + (self.object source).size)) 0 =
        size := by
    rw [foldl_size sound, Nat.zero_add]
    have small := allocatable.lt
    omega
  have updates : self.Updates emptied name [] :=
    construct_spec sound (Nat.two_pow_pos 64)
  have unallocated : (emptied.object name).data = none := by
    rw [object_setObject_self]
  have attached := attach_spec updates.sound allocatable.lt unallocated
    (Or.inl (by rw [object_setObject_self]))
  have roomy : (emptied.attach name cap).Roomy name cap := by
    refine ⟨allocatable.lt, ?_, _, attached.2, ?_, ?_⟩
    · rw [attach, object_withBlock_self, object_setObject_self]
    · rw [attach, capacityOf_withBlock]
    · rw [attach, bytesOf_withBlock]
      exact List.length_replicate
  have throughout := updates.trans attached.1.updates
  have unchanged : ∀ other ∈ sources, other ≠ name := by
    intro other member same
    exact different (same ▸ member)
  have contents :
      sources.map (emptied.attach name cap).contents =
        sources.map self.contents :=
    List.map_congr_left fun other member =>
      throughout.others other (unchanged other member)
  have readableAttached :
      ∀ other ∈ sources, (emptied.attach name cap).CanRead other := by
    intro other member
    rw [CanRead, throughout.object other (unchanged other member)]
    exact readable other member
  have nil : (emptied.attach name cap).contents name = [] := by
    rw [attached.1.contents, contents_setObject_self]
    exact contentsOf_of_size_eq_zero rfl
  obtain ⟨after, appended, rest⟩ := @appendAll_spec _ sizeOfData _ _ _ _
    attached.1.sound _ roomy _ different readableAttached
    (by rw [nil, contents, List.length_nil, Nat.zero_add]
        exact Nat.le_max_right _ _)
  refine ⟨after, ?_, ?_⟩
  · rw [constructList, total]
    simp only [Option.bind_eq_bind]
    rw [reserve_of_none unallocated allocatable, Option.bind_some]
    exact appended
  · refine (throughout.trans rest).weaken ?_
    rw [nil, contents]
    exact .refl _

/-! ## Exchanges -/

omit [Fintype ι] in
/-- Two objects get other fields. -/
theorem Sound.setObject_setObject
    (sound : self.Sound)
    {value valueSource : VariableLengthData}
    (fits : self.Fits value) (fitsSource : self.Fits valueSource) :
    let after := (self.setObject name value).setObject source valueSource
    after.Sound ∧
      after.contents =
        Function.update (Function.update self.contents name
          (self.contentsOf value)) source (self.contentsOf valueSource) := by
  intro after
  refine ⟨?_, ?_⟩
  · apply (sound.setObject fits).setObject
    exact ⟨fitsSource.size_lt, fitsSource.allocated, fitsSource.inside⟩
  · funext other
    by_cases isSource : other = source
    · rw [isSource, Function.update_self]
      exact contents_setObject_self
    · rw [Function.update_of_ne isSource]
      rw [contents_setObject_of_ne isSource]
      by_cases isName : other = name
      · rw [isName, Function.update_self]
        exact contents_setObject_self
      · rw [Function.update_of_ne isName]
        exact contents_setObject_of_ne isName

/-- The block of an object has a place for the bytes of the one that gets it. -/
def CanExchange (self : Memory ι) (name source : ι) : Prop :=
  (self.object source).size = 0 ∨
    ∀ block, (self.object name).data = some block →
      (self.object source).offset + (self.object source).size ≤
        (self.bytesOf block).length

omit [Fintype ι] in
theorem constructMove_spec
    (sound : self.Sound) :
    (self.constructMove name source).Sound ∧
      (self.constructMove name source).contents =
        Function.update
          (Function.update self.contents name (self.contents source)) source
          (List.replicate (self.contents source).length none) := by
  let valueSource := { self.object source with data := none }
  have fits : self.Fits valueSource :=
    ⟨(sound.fits source).size_lt, nofun, nofun⟩
  have bytes : self.contentsOf valueSource =
      List.replicate (self.contents source).length none := by
    rw [sound.length_contents]
    exact contentsOf_of_none rfl
  rw [← bytes]
  exact sound.setObject_setObject (sound.fits source) fits

omit [Fintype ι] in
theorem moveAssign_spec
    (sound : self.Sound) (exchange : self.CanExchange name source) :
    (self.moveAssign name source).Sound ∧
      ∃ bytes, bytes.length = (self.contents source).length ∧
        (self.moveAssign name source).contents =
          Function.update
            (Function.update self.contents name (self.contents source)) source
            bytes := by
  let valueSource :=
    { self.object source with data := (self.object name).data }
  have fits : self.Fits valueSource :=
    ⟨(sound.fits source).size_lt, (sound.fits name).allocated,
      fun block held => exchange.imp_right fun room => room block held⟩
  have moved := @Sound.setObject_setObject _ self name source _ sound _ _
    (sound.fits source) fits
  refine ⟨moved.1, self.contentsOf valueSource, ?_, moved.2⟩
  rw [fits.length_contentsOf, sound.length_contents]

omit [Fintype ι] in
theorem moveAssign_self
    (name : ι) : self.moveAssign name name = self := by
  rw [moveAssign, setObject, setObject, Function.update_eq_self,
    Function.update_eq_self]

omit [Fintype ι] in
theorem swap_spec
    (sound : self.Sound) :
    (self.swap name source).Sound ∧
      (self.swap name source).contents =
        Function.update
          (Function.update self.contents name (self.contents source)) source
          (self.contents name) :=
  sound.setObject_setObject (sound.fits source) (sound.fits name)

end Memory

end CopyOnWrite
end OpenRTI
