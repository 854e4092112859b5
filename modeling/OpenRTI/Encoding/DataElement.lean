import OpenRTI.Encoding.BasicDataElements

/-!
# Data elements

A shape is what the structure of a data element is fixed to when it is made, and
a value is the rest of it.  Data elements own what they hold.
-/

namespace OpenRTI
namespace Encoding

open Foundation (Octet)
open Foundation.Octets

/-- These types have arrays of their own. -/
def BasicDataElement.hasArray : BasicDataElement → Bool
  | .octet | .byte => true
  | .integer16LE | .integer16BE => true
  | .integer32LE | .integer32BE => true
  | .integer64LE | .integer64BE => true
  | _ => false

mutual

inductive Shape
  | basic (type : BasicDataElement)
  | fixedArrayOfBasicType
      (type : BasicDataElement)
      (array : type.hasArray = true)
      (length : Nat)
  | fixedArray (protoType : Shape) (length : Nat)
  | variableArrayOfBasicType
      (type : BasicDataElement)
      (array : type.hasArray = true)
  | variableArray (protoType : Shape)
  | fixedRecord (fields : Fields)
  deriving DecidableEq

inductive Fields
  | nil
  | cons (field : Shape) (rest : Fields)
  deriving DecidableEq

end

/-- A variable array of a basic type has its elements and the encoders of them in
vectors.  An encoder is used through a pointer, and none is left where the vector
has moved away from under it. -/
structure ArrayOfBasicType (α : Type) where
  elements : List (Option α) := []
  capacity : Nat := 0
  room : elements.length ≤ capacity := by decide
  deriving DecidableEq

namespace ArrayOfBasicType

variable {α : Type}

/-- The first and the last encoder are not taken for own ones.  Their pointers
stay as they are when the vector has to move. -/
def moved (elements : List (Option α)) : List (Option α) :=
  elements.mapIdx fun index element =>
    if index = 0 ∨ index + 1 = elements.length then none else element

/-- A vector that has to move becomes as long as it has to be, and twice as long
as it was at least. -/
def resize
    (default : α)
    (length : Nat)
    (self : ArrayOfBasicType α) : ArrayOfBasicType α :=
  let added := List.replicate (length - self.elements.length) (some default)
  if inside : length ≤ self.capacity then
    { elements := self.elements.take length ++ added
      capacity := self.capacity
      room := by
        rw [List.length_append, List.length_take, List.length_replicate]
        omega }
  else
    { elements := moved self.elements ++ added
      capacity := max length (2 * self.elements.length)
      room := by
        rw [List.length_append, moved, List.length_mapIdx,
          List.length_replicate]
        omega }

def set
    (index : Nat)
    (value : α)
    (self : ArrayOfBasicType α) : Except Failure (ArrayOfBasicType α) :=
  match self.elements[index]? with
  | none =>
      .error (.encoderException "HLAfixedArray::set(): Index out of range!")
  | some none => .error .undefined
  | some (some _) =>
      .ok
        { elements := self.elements.set index (some value)
          capacity := self.capacity
          room := by rw [List.length_set]; exact self.room }

/-- Other values for all elements. -/
def withElements
    (self : ArrayOfBasicType α)
    (read : { read : List (Option α) // read.length = self.elements.length }) :
    ArrayOfBasicType α where
  elements := read.1
  capacity := self.capacity
  room := read.2.symm ▸ self.room

theorem length_resize
    (default : α) (length : Nat) (self : ArrayOfBasicType α) :
    (self.resize default length).elements.length = length := by
  have room := self.room
  rw [resize]
  split
  · rw [List.length_append, List.length_take, List.length_replicate]
    omega
  · rw [List.length_append, moved, List.length_mapIdx, List.length_replicate]
    omega

end ArrayOfBasicType

mutual

/-- What a data element holds.  An array that is not of a basic type holds its
prototype, and a record its version. -/
@[reducible] def Shape.Value : Shape → Type
  | .basic type => type.SimpleDataType
  | .fixedArrayOfBasicType type _ length =>
      { elements : List type.SimpleDataType // elements.length = length }
  | .fixedArray protoType length =>
      protoType.Value ×
        { elements : List protoType.Value // elements.length = length }
  | .variableArrayOfBasicType type _ => ArrayOfBasicType type.SimpleDataType
  | .variableArray protoType => protoType.Value × List protoType.Value
  | .fixedRecord fields => BitVec 32 × fields.Value

@[reducible] def Fields.Value : Fields → Type
  | .nil => Unit
  | .cons field rest => field.Value × rest.Value

end

/-! ## Making data elements -/

namespace Shape

def HLAfixedArray (protoType : Shape) (length : Nat) : Shape :=
  match protoType with
  | .basic type =>
      if array : type.hasArray = true then
        .fixedArrayOfBasicType type array length
      else .fixedArray protoType length
  | _ => .fixedArray protoType length

def HLAvariableArray (protoType : Shape) : Shape :=
  match protoType with
  | .basic type =>
      if array : type.hasArray = true then .variableArrayOfBasicType type array
      else .variableArray protoType
  | _ => .variableArray protoType

end Shape

mutual

/-- The copy of an array that is not of a basic type has copies of the prototype
for elements. -/
def Shape.clone : (self : Shape) → self.Value → self.Value
  | .basic _, value => value
  | .fixedArrayOfBasicType _ _ _, value => value
  | .fixedArray protoType length, value =>
      (protoType.clone value.1,
        ⟨List.replicate length (protoType.clone (protoType.clone value.1)),
          List.length_replicate⟩)
  | .variableArrayOfBasicType _ _, value =>
      { elements := value.elements
        capacity := value.elements.length
        room := Nat.le_refl _ }
  | .variableArray protoType, value =>
      (protoType.clone value.1,
        List.replicate value.2.length
          (protoType.clone (protoType.clone value.1)))
  | .fixedRecord fields, value => (value.1, fields.clone value.2)

def Fields.clone : (self : Fields) → self.Value → self.Value
  | .nil, value => value
  | .cons field rest, value => (field.clone value.1, rest.clone value.2)

end

/-! ## Lengths -/

mutual

/-- The header of a record has the length of the record and its version. -/
def Shape.getEncodedLength : (self : Shape) → self.Value → Nat
  | .basic type, value => type.getEncodedLength value
  | .fixedArrayOfBasicType type _ _, value =>
      type.getEncodedLength type.default * value.1.length
  | .fixedArray protoType _, value =>
      (value.2.1.map protoType.getEncodedLength).sum
  | .variableArrayOfBasicType type _, value =>
      4 + type.getEncodedLength type.default * value.elements.length
  | .variableArray protoType, value =>
      4 + (value.2.map protoType.getEncodedLength).sum
  | .fixedRecord fields, value =>
      compressedLength 4 (fields.getEncodedLength value.2 % 2 ^ 32) +
        compressedLength 4 value.1.toNat + fields.getEncodedLength value.2

def Fields.getEncodedLength : (self : Fields) → self.Value → Nat
  | .nil, _ => 0
  | .cons field rest, value =>
      field.getEncodedLength value.1 + rest.getEncodedLength value.2

end

/-! ## Encoding -/

/-- Encode elements one after the other. -/
def encodeAll {α : Type} (encode : α → Encoder) : List α → Encoder
  | [], buffer, offset => .ok (buffer, offset)
  | element :: rest, buffer, offset => do
      let (buffer, offset) ← encode element buffer offset
      encodeAll encode rest buffer offset

/-- Nothing can be done with an encoder that is gone. -/
def encodeSlot {α : Type} (encode : α → Encoder) : Option α → Encoder
  | none, _, _ => .error .undefined
  | some element, buffer, offset => encode element buffer offset

def encodeCounted {α : Type} (encode : α → Encoder) (elements : List α) :
    Encoder := fun buffer offset =>
  if 0xffffffff < elements.length then
    .error (.encoderException
      "HLAvariableArray::encodeInto(): array size is too big to encode!")
  else
    (encodeIntoBE32 (BitVec.ofNat 32 elements.length)).andThen
      (encodeAll encode elements) buffer offset

mutual

def Shape.encodeInto : (self : Shape) → self.Value → Encoder
  | .basic type, value => type.encodeInto value
  | .fixedArrayOfBasicType type _ _, value => encodeAll type.encodeInto value.1
  | .fixedArray protoType _, value =>
      encodeAll protoType.encodeInto value.2.1
  | .variableArrayOfBasicType type _, value =>
      encodeCounted (encodeSlot type.encodeInto) value.elements
  | .variableArray protoType, value =>
      encodeCounted protoType.encodeInto value.2
  | .fixedRecord fields, value =>
      (encodeIntoBE32Compressed (BitVec.ofNat 32
        (Shape.getEncodedLength (.fixedRecord fields) value))).andThen
        ((encodeIntoBE32Compressed value.1).andThen
          (fields.encodeInto value.2))

def Fields.encodeInto : (self : Fields) → self.Value → Encoder
  | .nil, _ => fun buffer offset => .ok (buffer, offset)
  | .cons field rest, value =>
      (field.encodeInto value.1).andThen (rest.encodeInto value.2)

end

/-! ## Decoding -/

/-- An exception is thrown again with what has been going on. -/
def withContext {α : Type} (context : String) :
    Except Failure α → Except Failure α
  | .error (.encoderException what) =>
      .error (.encoderException (what ++ context))
  | result => result

/-- Decode into elements one after the other. -/
def decodeAll
    {α : Type}
    (context : Nat → String)
    (decode : α → Decoder α) :
    (elements : List α) → Nat →
      Decoder { read : List α // read.length = elements.length }
  | [], _, _, index => .ok (⟨[], rfl⟩, index)
  | element :: rest, count, buffer, index => do
      let (first, index) ←
        withContext (context count) (decode element buffer index)
      let (others, index) ← decodeAll context decode rest (count + 1) buffer index
      .ok (⟨first :: others.1, congrArg (· + 1) others.2⟩, index)

def decodeSlot {α : Type} (decode : Decoder α) : Option α → Decoder (Option α)
  | none, _, _ => .error .undefined
  | some _, buffer, index => do
      let (value, index) ← decode buffer index
      .ok (some value, index)

def noContext (_ : Nat) : String := ""

def elementContext (count : Nat) : String :=
  " while decoding variable array element #" ++ toString count

def fieldContext (count : Nat) : String :=
  " while decoding fixed record field #" ++ toString count

def insufficientFor (buffer : Buffer) (offset : Nat) : String :=
  "HLAvariableArray::decodeFrom: Insufficient buffer size for decoding!" ++
    " bufferSize=" ++ toString buffer.bufferSize ++
    "offset=" ++ toString offset

/-- As many elements as there are to be.  New ones are copies of the prototype. -/
def resized {α : Type} (clone : α → α) (length : Nat) (value : α × List α) :
    List α :=
  value.2.take length ++
    List.replicate (length - value.2.length) (clone value.1)

mutual

/-- A record is read up to its end as its header has it, and as far as there are
fields. -/
def Shape.decodeFrom : (self : Shape) → self.Value → Decoder self.Value
  | .basic type, _ => type.decodeFrom
  | .fixedArrayOfBasicType type _ _, value => fun buffer offset => do
      let (read, offset) ←
        decodeAll noContext (fun _ => type.decodeFrom) value.1 0 buffer offset
      .ok (⟨read.1, read.2.trans value.2⟩, offset)
  | .fixedArray protoType _, value => fun buffer index => do
      let (read, index) ←
        decodeAll noContext protoType.decodeFrom value.2.1 0 buffer index
      .ok ((value.1, ⟨read.1, read.2.trans value.2.2⟩), index)
  | .variableArrayOfBasicType type _, value => fun buffer offset => do
      require buffer offset 4 BasicDataElement.insufficient
      let (length, offset) ← decodeFromBE32 buffer offset
      let resized := value.resize type.default length.toNat
      let (read, offset) ←
        decodeAll noContext (decodeSlot type.decodeFrom) resized.elements 0
          buffer offset
      .ok (resized.withElements read, offset)
  | .variableArray protoType, value => fun buffer offset => do
      require buffer offset 4 (insufficientFor buffer offset)
      let (length, offset) ←
        withContext " while decoding variable array length"
          (decodeFromBE32 buffer offset)
      let (read, offset) ←
        decodeAll elementContext protoType.decodeFrom
          (resized protoType.clone length.toNat value) 0 buffer offset
      .ok ((value.1, read.1), offset)
  | .fixedRecord fields, value => fun buffer startIndex => do
      let (byteLength, index) ←
        withContext " while decoding fixed record byte length"
          (decodeFromBE32Compressed buffer startIndex)
      let (version, index) ←
        withContext " while decoding fixed record version"
          (decodeFromBE32Compressed buffer index)
      let last ← sizeSum startIndex byteLength.toNat
      let (read, index) ← fields.decodeFrom value.2 last 0 buffer index
      .ok ((version, read), index)

def Fields.decodeFrom :
    (self : Fields) → self.Value → Nat → Nat → Decoder self.Value
  | .nil, _, _, _ => fun _ index => .ok ((), index)
  | .cons field rest, value, last, count => fun buffer index =>
      if index < last then do
        let (first, index) ←
          withContext (fieldContext count)
            (field.decodeFrom value.1 buffer index)
        let (others, index) ←
          rest.decodeFrom value.2 last (count + 1) buffer index
        .ok ((first, others), index)
      else .ok (value, index)

end

/-! ## Steps of decoding -/

section Steps

variable {buffer : Buffer} {index next : Nat}

variable (type : BasicDataElement)

theorem Shape.decodeFrom_fixedArrayOfBasicType
    (array : type.hasArray = true)
    (length : Nat)
    (value : (Shape.fixedArrayOfBasicType type array length).Value) :
    (Shape.fixedArrayOfBasicType type array length).decodeFrom value buffer
        index =
      (decodeAll noContext (fun _ => type.decodeFrom) value.1 0 buffer
        index).map
        fun read => (⟨read.1.1, read.1.2.trans value.2⟩, read.2) := by
  simp only [Shape.decodeFrom, bind, Except.bind, Except.map]

variable (protoType : Shape)

theorem Shape.decodeFrom_fixedArray
    (length : Nat) (value : (Shape.fixedArray protoType length).Value) :
    (Shape.fixedArray protoType length).decodeFrom value buffer index =
      (decodeAll noContext protoType.decodeFrom value.2.1 0 buffer index).map
        fun read =>
          ((value.1, ⟨read.1.1, read.1.2.trans value.2.2⟩), read.2) := by
  simp only [Shape.decodeFrom, bind, Except.bind, Except.map]

variable {length : BitVec 32} {count : Nat}

theorem Shape.decodeFrom_variableArrayOfBasicType
    (array : type.hasArray = true)
    (value : (Shape.variableArrayOfBasicType type array).Value)
    (room : ∀ what, require buffer index 4 what = .ok ())
    (read : decodeFromBE32 buffer index = .ok (length, next))
    (same : length.toNat = count) :
    (Shape.variableArrayOfBasicType type array).decodeFrom value buffer index =
      (decodeAll noContext (decodeSlot type.decodeFrom)
        (value.resize type.default count).elements 0 buffer next).map
        fun read =>
          ((value.resize type.default count).withElements read.1, read.2) := by
  subst same
  simp only [Shape.decodeFrom, bind, Except.bind, Except.map, room, read]

theorem Shape.decodeFrom_variableArray
    (value : (Shape.variableArray protoType).Value)
    (room : ∀ what, require buffer index 4 what = .ok ())
    (read : decodeFromBE32 buffer index = .ok (length, next))
    (same : length.toNat = count) :
    (Shape.variableArray protoType).decodeFrom value buffer index =
      (decodeAll elementContext protoType.decodeFrom
        (resized protoType.clone count value) 0 buffer next).map
        fun read => ((value.1, read.1.1), read.2) := by
  subst same
  simp only [Shape.decodeFrom, bind, Except.bind, Except.map, withContext, room,
    read]

variable {last : Nat}

theorem Shape.decodeFrom_fixedRecord
    (fields : Fields) (value : (Shape.fixedRecord fields).Value)
    {byteLength version : BitVec 32} {between : Nat}
    (readLength :
      decodeFromBE32Compressed buffer index = .ok (byteLength, between))
    (readVersion :
      decodeFromBE32Compressed buffer between = .ok (version, next))
    (inside : sizeSum index byteLength.toNat = .ok last) :
    (Shape.fixedRecord fields).decodeFrom value buffer index =
      (fields.decodeFrom value.2 last 0 buffer next).map
        fun read => ((version, read.1), read.2) := by
  simp only [Shape.decodeFrom, bind, Except.bind, Except.map, withContext,
    readLength, readVersion, inside]

/-- Nothing is read from the end of a record on. -/
theorem Fields.decodeFrom_of_le
    (self : Fields) (value : self.Value)
    (past : last ≤ index)
    (count : Nat) :
    self.decodeFrom value last count buffer index = .ok (value, index) := by
  cases self with
  | nil => rfl
  | cons field rest =>
      simp only [Fields.decodeFrom, if_neg (by omega : ¬index < last)]

theorem Fields.decodeFrom_of_lt
    {field : Shape} {rest : Fields}
    (value : (Fields.cons field rest).Value)
    {first : field.Value}
    (before : index < last)
    (read : field.decodeFrom value.1 buffer index = .ok (first, next)) :
    (Fields.cons field rest).decodeFrom value last count buffer index =
      (rest.decodeFrom value.2 last (count + 1) buffer next).map
        fun read => ((first, read.1), read.2) := by
  simp only [Fields.decodeFrom, if_pos before, bind, Except.bind, Except.map,
    withContext, read]

end Steps

end Encoding
end OpenRTI
