import OpenRTI.Encoding.ArrayBookkeeping
import OpenRTI.Encoding.DecodingSafety

/-!
# The elements of an array of a basic type

A caller counts on a list of elements: each is one of the array with a value, or
one of the caller's own.  The operations keep the vectors in step with that list,
as long as the encoders do not move while the first or the last of them is in use.
-/

namespace OpenRTI
namespace Encoding

/-! ## What a caller counts on -/

/-- An element of the array with its value, or an element of the caller. -/
inductive ArraySlot (α : Type)
  | own (value : α)
  | external (element : Nat)

/-- The elements of an array, and the values of the elements of the caller. -/
structure ArrayContents (α : Type) where
  slots : List (ArraySlot α)
  externals : Nat → α

namespace ArrayContents

variable {α : Type}

def value (self : ArrayContents α) : ArraySlot α → α
  | .own value => value
  | .external element => self.externals element

/-- Give an element a value, also where it is one of the caller's. -/
def assign
    (index : Nat)
    (value : α)
    (self : ArrayContents α) : ArrayContents α :=
  match self.slots[index]? with
  | none => self
  | some (.own _) =>
      { self with slots := self.slots.set index (.own value) }
  | some (.external element) =>
      { self with externals := Function.update self.externals element value }

def add (slot : ArraySlot α) (self : ArrayContents α) : ArrayContents α :=
  { self with slots := self.slots ++ [slot] }

def resize
    (default : α)
    (length : Nat)
    (self : ArrayContents α) : ArrayContents α :=
  { self with slots := resizeList (.own default) length self.slots }

/-- Give elements in order the values that are decoded, as long as they are. -/
def decodeElements
    (decode : Decoder α)
    (buffer : Buffer) :
    Nat → Nat → Nat → ArrayContents α → ArrayContents α
  | 0, _, _, self => self
  | count + 1, index, offset, self =>
      match decode buffer offset with
      | .error _ => self
      | .ok (value, offset) =>
          decodeElements decode buffer count (index + 1) offset
            (self.assign index value)

end ArrayContents

namespace ArrayKind

variable (kind : ArrayKind)

/-- The length that a buffer starts with. -/
def decodedLength (buffer : Buffer) : Except Failure (BitVec 32 × Nat) :=
  BasicDataElement.decodeChecked 4 decodeFromBE32 buffer 0

/-- What a call is for.  A call with an argument that is not accepted, or out of
range, is for nothing. -/
def follow
    (self : ArrayContents kind.Value) :
    ArrayCall kind.Value → ArrayContents kind.Value
  | .set index dataElement =>
      dataElement.elim self fun value => self.assign index value
  | .addElement dataElement =>
      dataElement.elim self fun value => self.add (.own value)
  | .setElementPointer index (.element element) =>
      { self with slots := self.slots.set index (.external element) }
  | .addElementPointer (.element element) => self.add (.external element)
  | .setElementPointer _ _ | .addElementPointer _ => self
  | .resize length => self.resize kind.type.default length
  | .decode buffer =>
      if kind.variableArray then
        match decodedLength buffer with
        | .error _ => self
        | .ok (length, offset) =>
            (self.resize kind.type.default length.toNat).decodeElements
              kind.type.decodeFrom buffer length.toNat 0 offset
      else
        self.decodeElements kind.type.decodeFrom buffer self.slots.length 0 0
  | .clear => { self with slots := [] }

/-- What a caller of a new array counts on. -/
def initialContents
    (length : Nat)
    (externals : Nat → kind.Value) : ArrayContents kind.Value where
  slots := List.replicate length (.own kind.type.default)
  externals := externals

end ArrayKind

/-- The pointer to an element. -/
def ArraySlot.pointer
    {α : Type}
    (block index : Nat) : ArraySlot α → ElementPointer
  | .own _ => .own block index
  | .external element => .external element

/-- The three vectors have an entry for each element, the length and the encoded
length count the elements, each pointer refers to the encoder of the same index or
to the element of the caller, and the values are those last set or decoded. -/
structure Bookkept
    {α : Type}
    (array : BasicTypeArray α)
    (contents : ArrayContents α) : Prop where
  dataVector :
    array.dataVector.elements.length = contents.slots.length
  dataElementVector :
    array.dataElementVector.elements.length = contents.slots.length
  dataElementPointerVector :
    array.dataElementPointerVector.length = contents.slots.length
  size : array.size = contents.slots.length
  encodedSize : array.encodedSize = contents.slots.length
  pointers : ∀ index (slot : ArraySlot α), contents.slots[index]? = some slot →
    array.dataElementPointerVector[index]? =
      some (slot.pointer array.dataElementVector.block index)
  values : ∀ index slot, contents.slots[index]? = some slot →
    array.get index = .ok (contents.value slot)
  externals : array.externals = contents.externals

/-! ## The condition -/

namespace BasicTypeArray

variable {α : Type}

/-- The element at an index is an own one. -/
def Owns (self : BasicTypeArray α) (index : Nat) : Prop :=
  self.dataElementPointerVector[index]? =
    some (.own self.dataElementVector.block index)

/-- The encoders stay where they are, or neither the first nor the last element is
an own one. -/
def Resizable (length : Nat) (self : BasicTypeArray α) : Prop :=
  length ≤ self.dataElementVector.capacity ∨
    ¬ self.Owns 0 ∧ ¬ self.Owns (self.size - 1)

end BasicTypeArray

/-- No element is added by value, and the array is resizable for each call that
resizes it. -/
def ArrayKind.Admits
    (kind : ArrayKind)
    (self : BasicTypeArray kind.Value) :
    ArrayCall kind.Value → Prop
  | .addElement dataElement => dataElement = none
  | .addElementPointer (.element _) => self.Resizable (self.size + 1)
  | .resize length => self.Resizable length
  | .decode buffer =>
      kind.variableArray = true →
        ∀ length offset, decodedLength buffer = .ok (length, offset) →
          self.Resizable length.toNat
  | _ => True

/-! ## Resized lists -/

section Lists

variable {α : Type}

theorem length_resizeList
    (default : α) (length : Nat) (list : List α) :
    (resizeList default length list).length = length := by
  rw [resizeList, List.length_append, List.length_take, List.length_replicate]
  omega

theorem getElem?_resizeList
    (default : α) (length : Nat) (list : List α) (index : Nat) :
    (resizeList default length list)[index]? =
      if index < length then some (list[index]?.getD default) else none := by
  rw [resizeList]
  grind

theorem resizeList_succ
    (default : α) (list : List α) :
    resizeList default (list.length + 1) list = list ++ [default] := by
  rw [resizeList, List.take_of_length_le (Nat.le_succ _),
    Nat.add_sub_cancel_left]
  rfl

end Lists

/-! ## Invariant -/

/-- The own encoders have their values in the current storage of the array, and
there is room for the elements. -/
structure Kept
    {α : Type}
    (array : BasicTypeArray α)
    (contents : ArrayContents α) : Prop where
  dataVector :
    array.dataVector.elements.length = contents.slots.length
  dataElementVector :
    array.dataElementVector.elements =
      (List.range contents.slots.length).map fun index =>
        ⟨array.dataVector.block, index⟩
  dataElementPointerVector :
    array.dataElementPointerVector =
      contents.slots.mapIdx fun index slot =>
        slot.pointer array.dataElementVector.block index
  owned : ∀ (index : Nat) (value : α),
    contents.slots[index]? = some (.own value) →
    array.dataVector.elements[index]? = some value
  externals : array.externals = contents.externals
  capacity : contents.slots.length ≤ array.dataElementVector.capacity
  fresh : array.dataElementVector.block < array.nextBlock

namespace Kept

variable {α : Type} {array : BasicTypeArray α} {contents : ArrayContents α}

theorem length_dataElementVector (kept : Kept array contents) :
    array.dataElementVector.elements.length = contents.slots.length := by
  rw [kept.dataElementVector, List.length_map, List.length_range]

theorem getElem?_pointer
    (kept : Kept array contents) (index : Nat) :
    array.dataElementPointerVector[index]? =
      contents.slots[index]?.map fun slot =>
        slot.pointer array.dataElementVector.block index := by
  rw [kept.dataElementPointerVector, List.getElem?_mapIdx]

theorem owns_iff
    (kept : Kept array contents) (index : Nat) :
    array.Owns index ↔ ∃ value, contents.slots[index]? = some (.own value) := by
  unfold BasicTypeArray.Owns
  rw [kept.getElem?_pointer]
  cases contents.slots[index]? with
  | none => simp
  | some slot => cases slot <;> simp [ArraySlot.pointer]

/-- An own encoder is found, with its value. -/
theorem locate_own
    (kept : Kept array contents)
    {index : Nat}
    (inside : index < contents.slots.length) :
    array.locate (.own array.dataElementVector.block index) =
      .ok (.data index) := by
  have encoder : array.dataElementVector.elements[index]? =
      some ⟨array.dataVector.block, index⟩ := by
    rw [kept.dataElementVector, List.getElem?_map,
      List.getElem?_range inside]
    rfl
  have room : index < array.dataVector.elements.length := by
    rw [kept.dataVector]
    exact inside
  simp only [BasicTypeArray.locate, if_true, encoder, true_and, if_pos room]

/-- What is kept is what a caller counts on. -/
theorem bookkept (kept : Kept array contents) : Bookkept array contents where
  dataVector := kept.dataVector
  dataElementVector := kept.length_dataElementVector
  dataElementPointerVector := by
    rw [kept.dataElementPointerVector, List.length_mapIdx]
  size := kept.dataVector
  encodedSize := kept.length_dataElementVector
  pointers index slot found := by
    rw [kept.getElem?_pointer, found]
    rfl
  values index slot found := by
    rw [BasicTypeArray.get, kept.getElem?_pointer, found]
    cases slot with
    | own value =>
        have inside := (List.getElem?_eq_some_iff.mp found).1
        change array.locate (.own array.dataElementVector.block index) >>= _ = _
        rw [kept.locate_own inside]
        change array.read (.data index) = .ok value
        rw [BasicTypeArray.read, kept.owned index value found]
        rfl
    | external element =>
        change Except.ok (array.externals element) = _
        rw [kept.externals]
        rfl
  externals := kept.externals

end Kept

/-! ## Resizing -/

namespace Vector

variable {α : Type} (growth : Growth) (fresh : Nat) (default : α) (length : Nat)
variable (self : Vector α)

theorem elements_resize :
    (self.resize growth fresh default length).elements =
      resizeList default length self.elements := by
  unfold resize
  split <;> rfl

theorem block_resize :
    (self.resize growth fresh default length).block =
      if length ≤ self.capacity then self.block else fresh := by
  unfold resize
  split <;> rfl

theorem le_capacity_resize :
    length ≤ (self.resize growth fresh default length).capacity := by
  unfold resize
  split
  next room => exact room
  next => exact growth.enough _ length

end Vector

namespace Kept

variable {α : Type} {array : BasicTypeArray α} {contents : ArrayContents α}

theorem existingOwned_own
    (kept : Kept array contents)
    {index : Nat} :
    array.existingOwned (.own array.dataElementVector.block index) = true ↔
      0 < index ∧ index + 1 < contents.slots.length := by
  rw [BasicTypeArray.existingOwned, kept.length_dataElementVector]
  simp

/-- The first and the last encoder are not taken for own ones, so that the pointers
to them are only right if the encoders have not moved. -/
theorem refreshed_pointer
    (kept : Kept array contents)
    {length index block : Nat} {slot : ArraySlot α}
    (found : contents.slots[index]? = some slot)
    (resizable : array.Resizable length)
    (moved : block =
      if length ≤ array.dataElementVector.capacity then
        array.dataElementVector.block
      else array.nextBlock + 1) :
    array.refreshed block index
        (slot.pointer array.dataElementVector.block index) =
      slot.pointer block index := by
  cases slot with
  | external element =>
      rw [ArraySlot.pointer, BasicTypeArray.refreshed, if_neg]
      · rfl
      · simp [BasicTypeArray.existingOwned]
  | own value =>
      rw [ArraySlot.pointer, BasicTypeArray.refreshed]
      split
      · rfl
      next missed =>
        have atEnd : ¬ (0 < index ∧ index + 1 < contents.slots.length) := by
          intro within
          exact missed (Or.inr (kept.existingOwned_own.mpr within))
        have owns : array.Owns index := (kept.owns_iff index).mpr ⟨value, found⟩
        have inside := (List.getElem?_eq_some_iff.mp found).1
        obtain room | ⟨first, last⟩ := resizable
        · rw [moved, if_pos room]
          rfl
        · exfalso
          have counted : array.size = contents.slots.length := kept.dataVector
          by_cases start : index = 0
          · exact first (start ▸ owns)
          · have stop : index = array.size - 1 := by omega
            exact last (stop ▸ owns)

theorem resize
    (kept : Kept array contents) (growth : Growth) (default : α)
    {length : Nat}
    (resizable : array.Resizable length) :
    Kept (array.resize growth default length)
      (contents.resize default length) where
  dataVector := by
    rw [BasicTypeArray.resize, ArrayContents.resize, Vector.elements_resize,
      length_resizeList, length_resizeList]
  dataElementVector := by
    apply List.ext_getElem?
    intro index
    rw [BasicTypeArray.resize, ArrayContents.resize, Vector.elements_resize,
      length_resizeList, List.getElem?_mapIdx, getElem?_resizeList,
      List.getElem?_map]
    by_cases inside : index < length
    · rw [if_pos inside, List.getElem?_range inside]
      rfl
    · rw [if_neg inside, List.getElem?_eq_none (by simp; omega)]
      rfl
  dataElementPointerVector := by
    apply List.ext_getElem?
    intro index
    rw [BasicTypeArray.resize, ArrayContents.resize, List.getElem?_mapIdx,
      List.getElem?_mapIdx, getElem?_resizeList, getElem?_resizeList]
    by_cases inside : index < length
    · rw [if_pos inside, if_pos inside, kept.getElem?_pointer]
      cases found : contents.slots[index]? with
      | none => rfl
      | some slot =>
          exact congrArg some (kept.refreshed_pointer found resizable
            (Vector.block_resize growth _ _ length _))
    · rw [if_neg inside, if_neg inside]
      rfl
  owned index value found := by
    rw [BasicTypeArray.resize, Vector.elements_resize, getElem?_resizeList]
    rw [ArrayContents.resize, getElem?_resizeList] at found
    split at found
    next inside =>
      rw [if_pos inside]
      cases slot : contents.slots[index]? with
      | none =>
          rw [slot] at found
          cases found
          have outside := List.getElem?_eq_none_iff.mp slot
          rw [← kept.dataVector] at outside
          rw [List.getElem?_eq_none outside]
          rfl
      | some old =>
          rw [slot] at found
          cases found
          rw [kept.owned index value slot]
          rfl
    next => cases found
  externals := kept.externals
  capacity := by
    rw [ArrayContents.resize, length_resizeList]
    exact Vector.le_capacity_resize growth _ _ length _
  fresh := by
    have fresh := kept.fresh
    change ((array.dataElementVector.resize growth (array.nextBlock + 1) _
      length).block < array.nextBlock + 2)
    rw [Vector.block_resize]
    split <;> omega

/-- An array that is made without elements. -/
theorem new (externals : Nat → α) :
    Kept (BasicTypeArray.new externals) ⟨[], externals⟩ where
  dataVector := rfl
  dataElementVector := rfl
  dataElementPointerVector := rfl
  owned index value found := by cases found
  externals := rfl
  capacity := Nat.le_refl 0
  fresh := Nat.lt_succ_self 1

end Kept

theorem ArrayKind.kept_start
    (kind : ArrayKind) (length : Nat) (externals : Nat → kind.Value) :
    Kept (kind.start length externals) (kind.initialContents length externals) := by
  have empty : (BasicTypeArray.new externals).Resizable length := by
    right
    constructor <;> intro owns <;> cases owns
  have kept := (Kept.new externals).resize kind.growth kind.type.default empty
  have same : (⟨[], externals⟩ : ArrayContents kind.Value).resize
      kind.type.default length = kind.initialContents length externals := by
    rw [ArrayContents.resize, resizeList, List.take_nil]
    rfl
  rw [same] at kept
  exact kept

/-! ## Giving values -/

namespace Kept

variable {α : Type} {array : BasicTypeArray α} {contents : ArrayContents α}

/-- A pointer leads to where the value of the element is kept. -/
theorem write
    (kept : Kept array contents)
    {index : Nat} {slot : ArraySlot α}
    (found : contents.slots[index]? = some slot) :
    ∃ location,
      array.locate (slot.pointer array.dataElementVector.block index) =
        .ok location ∧
      ∀ value,
        Kept (array.write value location) (contents.assign index value) := by
  cases slot with
  | own old =>
      have inside := (List.getElem?_eq_some_iff.mp found).1
      refine ⟨.data index, kept.locate_own inside, ?_⟩
      intro value
      rw [BasicTypeArray.write, ArrayContents.assign, found]
      exact {
        dataVector := by
          rw [List.length_set, List.length_set]
          exact kept.dataVector
        dataElementVector := by
          rw [List.length_set]
          exact kept.dataElementVector
        dataElementPointerVector := by
          apply List.ext_getElem?
          intro other
          rw [kept.getElem?_pointer, List.getElem?_mapIdx]
          by_cases same : index = other
          · subst same
            rw [List.getElem?_set_self inside, found]
            rfl
          · rw [List.getElem?_set_ne same]
        owned := by
          intro other written held
          by_cases same : index = other
          · subst same
            rw [List.getElem?_set_self inside] at held
            cases held
            exact List.getElem?_set_self (kept.dataVector ▸ inside)
          · rw [List.getElem?_set_ne same] at held ⊢
            exact kept.owned other written held
        externals := kept.externals
        capacity := by
          rw [List.length_set]
          exact kept.capacity
        fresh := kept.fresh }
  | external element =>
      refine ⟨.external element, rfl, ?_⟩
      intro value
      rw [BasicTypeArray.write, ArrayContents.assign, found, kept.externals]
      exact { kept with externals := rfl }

theorem slots_length_assign
    (index : Nat) (value : α) :
    (contents.assign index value).slots.length = contents.slots.length := by
  unfold ArrayContents.assign
  split
  · rfl
  · exact List.length_set
  · rfl

/-- The pointers stay when values are written. -/
theorem pointers_write
    (value : α) (location : Location) :
    (array.write value location).dataElementPointerVector =
      array.dataElementPointerVector := by
  cases location <;> rfl

theorem throws_ne_undefined
    (array : BasicTypeArray α) (what : String) :
    (array.throws what).2 ≠ some .undefined := by
  simp [BasicTypeArray.throws]

theorem set
    (kept : Kept array contents) (index : Nat) (value : α) :
    (array.set index (some value)).2 ≠ some .undefined ∧
      Kept (array.set index (some value)).1 (contents.assign index value) := by
  rw [BasicTypeArray.set, kept.getElem?_pointer]
  cases found : contents.slots[index]? with
  | none =>
      refine ⟨throws_ne_undefined _ _, ?_⟩
      rw [ArrayContents.assign, found]
      exact kept
  | some slot =>
      obtain ⟨location, located, writes⟩ := kept.write found
      simp only [Option.map_some, located]
      exact ⟨by simp, writes value⟩

/-! ## Decoding -/

theorem decodeElements
    {decode : Decoder α}
    (safe : decode.Safe) (buffer : Buffer) :
    ∀ (count index offset : Nat)
      {array : BasicTypeArray α} {contents : ArrayContents α},
      Kept array contents → index + count = contents.slots.length →
      offset ≤ buffer.bufferSize →
      (BasicTypeArray.decodeElements decode buffer
        (array.dataElementPointerVector.drop index) offset array).2 ≠
          some .undefined ∧
      Kept
        (BasicTypeArray.decodeElements decode buffer
          (array.dataElementPointerVector.drop index) offset array).1
        (contents.decodeElements decode buffer count index offset) := by
  intro count
  induction count with
  | zero =>
      intro index offset array contents kept stop _
      have all : array.dataElementPointerVector.length ≤ index := by
        rw [kept.bookkept.dataElementPointerVector]
        omega
      rw [List.drop_eq_nil_of_le all, BasicTypeArray.decodeElements,
        ArrayContents.decodeElements]
      exact ⟨by simp, kept⟩
  | succ count ih =>
      intro index offset array contents kept stop inside
      have atElement : index < contents.slots.length := by omega
      have found := List.getElem?_eq_getElem atElement
      obtain ⟨location, located, writes⟩ := kept.write found
      have pointer := kept.getElem?_pointer index
      rw [found, Option.map_some] at pointer
      obtain ⟨room, pointed⟩ := List.getElem?_eq_some_iff.mp pointer
      rw [List.drop_eq_getElem_cons room, pointed]
      simp only [BasicTypeArray.decodeElements, located,
        ArrayContents.decodeElements]
      have stops := safe buffer offset inside
      cases ran : decode buffer offset with
      | error failure =>
          rw [ran] at stops
          exact ⟨fun same => stops (Option.some.inj same), kept⟩
      | ok read =>
          rw [ran] at stops
          have next := ih (index + 1) read.2 (writes read.1)
            (by rw [slots_length_assign]; omega) stops
          rw [pointers_write] at next
          exact next

/-! ## Calls -/

/-- A pointer is set to an element of the caller. -/
theorem point
    (kept : Kept array contents)
    {index : Nat}
    (inside : index < contents.slots.length)
    (element : Nat) :
    Kept
      { array with
        dataElementPointerVector :=
          array.dataElementPointerVector.set index (.external element) }
      { contents with
        slots := contents.slots.set index (.external element) } where
  dataVector := by
    rw [List.length_set]
    exact kept.dataVector
  dataElementVector := by
    rw [List.length_set]
    exact kept.dataElementVector
  dataElementPointerVector := by
    apply List.ext_getElem?
    intro other
    rw [List.getElem?_mapIdx]
    by_cases same : index = other
    · subst same
      rw [List.getElem?_set_self inside, List.getElem?_set_self]
      · rfl
      · rw [kept.bookkept.dataElementPointerVector]
        exact inside
    · rw [List.getElem?_set_ne same, List.getElem?_set_ne same]
      exact kept.getElem?_pointer other
  owned := by
    intro other value held
    by_cases same : index = other
    · subst same
      rw [List.getElem?_set_self inside] at held
      cases held
    · rw [List.getElem?_set_ne same] at held
      exact kept.owned other value held
  externals := kept.externals
  capacity := by
    rw [List.length_set]
    exact kept.capacity
  fresh := kept.fresh

theorem setElementPointer
    (kept : Kept array contents) (index element : Nat) :
    (array.setElementPointer index (.element element)).2 ≠ some .undefined ∧
      Kept (array.setElementPointer index (.element element)).1
        { contents with
          slots := contents.slots.set index (.external element) } := by
  rw [BasicTypeArray.setElementPointer, kept.length_dataElementVector]
  split
  next outside =>
    rw [List.set_eq_of_length_le outside]
    exact ⟨throws_ne_undefined _ _, kept⟩
  next inside =>
    exact ⟨by simp, kept.point (Nat.lt_of_not_le inside) element⟩

theorem addElementPointer
    (kept : Kept array contents) (growth : Growth) (default : α)
    (element : Nat) (resizable : array.Resizable (array.size + 1)) :
    (array.addElementPointer growth default (.element element)).2 ≠
        some .undefined ∧
      Kept (array.addElementPointer growth default (.element element)).1
        (contents.add (.external element)) := by
  have counted : array.size = contents.slots.length := kept.dataVector
  have resized := kept.resize growth default resizable
  have longer : contents.resize default (array.size + 1) =
      contents.add (.own default) := by
    rw [ArrayContents.resize, counted, resizeList_succ, ArrayContents.add]
  rw [longer] at resized
  have last : (array.resize growth default (array.size + 1)).size - 1 =
      contents.slots.length := by
    rw [resized.bookkept.size, ArrayContents.add, List.length_append]
    exact Nat.add_sub_cancel _ 1
  have inside : contents.slots.length <
      (contents.add (.own default)).slots.length := by
    simp [ArrayContents.add]
  have pointed := resized.point inside element
  have replaced : (contents.slots ++ [ArraySlot.own default]).set
      contents.slots.length (.external element) =
        contents.slots ++ [.external element] := by
    rw [List.set_append_right _ _ (Nat.le_refl _), Nat.sub_self]
    rfl
  rw [ArrayContents.add, replaced, ← last] at pointed
  rw [BasicTypeArray.addElementPointer]
  exact ⟨by simp, pointed⟩

theorem clear (kept : Kept array contents) :
    Kept array.clear { contents with slots := [] } where
  dataVector := rfl
  dataElementVector := rfl
  dataElementPointerVector := rfl
  owned index value held := by cases held
  externals := kept.externals
  capacity := Nat.zero_le _
  fresh := kept.fresh

end Kept

end Encoding
end OpenRTI
