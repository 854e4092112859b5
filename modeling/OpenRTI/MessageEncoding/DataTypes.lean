import OpenRTI.DataStream.CompressedStreams
import OpenRTI.DataStream.InitialStreamProtocol

/-!
# Data types of messages

The types of the fields of messages, as the generator of the encodings has them:
scalars, enumerations, pairs, vectors, sets and maps, and structures that are their
fields one after the other.  A variable length data is not part of the stream: its size
is, and its octets are a buffer of their own.
-/

namespace OpenRTI
namespace MessageEncoding

open Foundation (Octet OrderedMap)
open DataStream

/-! ## Values -/

/-- What `size()` returns is a `size_t`. -/
def Sized (α : Type) := {elements : List α // elements.length < 2 ^ 64}

namespace Sized

variable {α : Type}

def size (self : Sized α) : UnsignedType.uint64.Value :=
  ⟨self.val.length, self.property⟩

def empty : Sized α := ⟨[], Nat.two_pow_pos 64⟩

end Sized

/-- A map of which the size is a `size_t`. -/
def SizedMap (κ α : Type) [LinearOrder κ] :=
  {map : OrderedMap κ α // map.entries.length < 2 ^ 64}

namespace SizedMap

variable {κ α : Type} [LinearOrder κ]

def empty : SizedMap κ α := ⟨∅, Nat.two_pow_pos 64⟩

def entries (self : SizedMap κ α) : Sized (κ × α) :=
  ⟨self.val.entries, self.property⟩

end SizedMap

instance : LinearOrder (Sized Octet) :=
  LinearOrder.lift' (fun string => OctetString.mk string.val) (by
    intro left right same
    exact Subtype.ext (OctetString.mk.inj same))

/-- The types of the elements of sets, and of the keys of maps. -/
inductive ScalarType
  | unsigned (type : UnsignedType)
  | handle (type : UnsignedType)
  | string
  deriving DecidableEq

namespace ScalarType

abbrev Value : ScalarType → Type
  | unsigned type | handle type => type.Value
  | string => Sized Octet

instance linearOrder : (type : ScalarType) → LinearOrder type.Value
  | unsigned type | handle type => inferInstanceAs (LinearOrder type.Value)
  | string => inferInstanceAs (LinearOrder (Sized Octet))

/-- The value that a variable has before it is read. -/
def initial : (type : ScalarType) → type.Value
  | unsigned type => ⟨0, Nat.two_pow_pos type.digits⟩
  | handle type => type.max
  | string => .empty

end ScalarType

/-- The types of fields.  An enumeration has its first enumerant and the others; the
values of a map are vectors. -/
inductive DataType
  | scalar (type : ScalarType)
  | bool
  | double
  | enum
      (first : String)
      (others : List String)
      (few : others.length < 2 ^ 32)
  | variableLengthData
  | empty
  | pair (first second : DataType)
  | vector (element : DataType)
  | set (element : ScalarType)
  | map (key element : ScalarType)
  /-- A structure with a base type of which no field is written. -/
  | derived (base own : DataType)

instance : Coe ScalarType DataType := ⟨.scalar⟩

namespace DataType

/-- A structure is its fields one after the other. -/
def struct : List (String × DataType) → DataType
  | [] => empty
  | (_, type) :: fields => pair type (struct fields)

def Value : DataType → Type
  | scalar type => type.Value
  | bool => Bool
  | double => UnsignedType.uint64.Value
  | enum _ others _ => Fin (others.length + 1)
  | variableLengthData => Sized Octet
  | empty => Unit
  | pair first second => first.Value × second.Value
  | vector element => Sized element.Value
  | set element => SizedMap element.Value Unit
  | map key element => SizedMap key.Value (Sized element.Value)
  | derived base own => base.Value × own.Value

/-- The value that a variable has before it is read. -/
def initial : (type : DataType) → type.Value
  | scalar type => type.initial
  | bool => false
  | double => ⟨0, Nat.two_pow_pos 64⟩
  | enum _ others _ => (0 : Fin (others.length + 1))
  | variableLengthData => Sized.empty
  | empty => ()
  | pair first second => (first.initial, second.initial)
  | vector _ => Sized.empty
  | set _ | map _ _ => SizedMap.empty
  | derived base own => (base.initial, own.initial)

end DataType

/-! ## Writing -/

/-- The stream of a body, and the buffers that are added after it. -/
structure EncodeStream extends EncodeDataStream where
  writeBuffers : List (List Octet)

namespace EncodeStream

def new : EncodeStream := ⟨.new, []⟩

/-- Write to the stream. -/
def modify
    (self : EncodeStream)
    (change : EncodeDataStream → EncodeDataStream) : EncodeStream :=
  { self with toEncodeDataStream := change self.toEncodeDataStream }

def writeSizeTCompressed
    (self : EncodeStream)
    (size : UnsignedType.uint64.Value) : EncodeStream :=
  self.modify fun stream => stream.writeCompressed size

def writeString (self : EncodeStream) (value : Sized Octet) : EncodeStream :=
  (self.writeSizeTCompressed value.size).modify fun stream =>
    stream.writeOctets value.val

def writeVariableLengthData
    (self : EncodeStream)
    (value : Sized Octet) : EncodeStream :=
  let self := self.writeSizeTCompressed value.size
  if value.val = [] then self
  else { self with writeBuffers := self.writeBuffers ++ [value.val] }

/-- Write the number of elements and then each one. -/
def writeElements
    {α : Type}
    (write : α → EncodeStream → EncodeStream)
    (self : EncodeStream)
    (value : Sized α) : EncodeStream :=
  value.val.foldl (fun self element => write element self)
    (self.writeSizeTCompressed value.size)

end EncodeStream

namespace ScalarType

def write : (type : ScalarType) → type.Value → EncodeStream → EncodeStream
  | unsigned _, value, self | handle _, value, self =>
      self.modify fun stream => stream.writeCompressed value
  | string, value, self => self.writeString value

end ScalarType

namespace DataType

def write : (type : DataType) → type.Value → EncodeStream → EncodeStream
  | scalar type, value, self => type.write value self
  | bool, value, self =>
      self.modify fun stream => stream.writeBoolCompressed value
  | double, value, self =>
      self.modify fun stream => stream.writeCompressed value
  | enum _ _ few, value, self =>
      let number : UnsignedType.uint32.Value :=
        ⟨value.val, Nat.lt_of_lt_of_le value.isLt few⟩
      self.modify fun stream => stream.writeCompressed number
  | variableLengthData, value, self => self.writeVariableLengthData value
  | empty, _, self => self
  | pair first second, value, self =>
      second.write value.2 (first.write value.1 self)
  | vector element, value, self => self.writeElements element.write value
  | set element, value, self =>
      self.writeElements (fun entry => element.write entry.1)
        (SizedMap.entries value)
  | map key element, value, self =>
      self.writeElements
        (fun entry self =>
          (key.write entry.1 self).writeElements element.write entry.2)
        (SizedMap.entries value)
  | derived _ own, value, self => own.write value.2 self

end DataType

/-! ## Reading -/

/-- The stream of a body, and the sizes of the buffers that are asked for. -/
structure DecodeStream extends DecodeDataStream where
  readBuffers : List Nat

abbrev Decoding := StateT DecodeStream (Except Failure)

namespace DecodeStream

/-- Read from the stream. -/
def read {α : Type} (reading : Reading α) : Decoding α := fun self =>
  match reading self.toDecodeDataStream with
  | .error failure => .error failure
  | .ok (value, stream) => .ok (value, { self with toDecodeDataStream := stream })

def addReadBuffer (size : Nat) : Decoding Unit := fun self =>
  .ok ((), { self with readBuffers := self.readBuffers ++ [size] })

def readSizeTCompressed : Decoding UnsignedType.uint64.Value :=
  read (DecodeDataStream.readCompressed .uint64)

/-- Read elements one after the other. -/
def readElements {α : Type} (readElement : Decoding α) :
    (count : Nat) → Decoding {elements : List α // elements.length = count}
  | 0 => pure ⟨[], rfl⟩
  | count + 1 => do
      let element ← readElement
      let elements ← readElements readElement count
      return ⟨element :: elements.val, congrArg Nat.succ elements.property⟩

/-- Read a number of elements and then each one. -/
def readVector {α : Type} (readElement : Decoding α) : Decoding (Sized α) := do
  let size ← readSizeTCompressed
  let elements ← readElements readElement size.val
  return ⟨elements.val, elements.property.trans_lt size.isLt⟩

def readString : Decoding (Sized Octet) :=
  readVector (read DecodeDataStream.readUInt8BE)

/-- Ask for the buffer of a data; there is none for an empty one. -/
def addDataBuffer (size : Nat) : Decoding Unit :=
  if size = 0 then pure () else addReadBuffer size

/-- The data is resized, its octets come with a buffer. -/
def readVariableLengthData : Decoding (Sized Octet) := do
  let size ← readSizeTCompressed
  addDataBuffer size.val
  return ⟨List.replicate size.val 0,
    (List.length_replicate).trans_lt size.isLt⟩

end DecodeStream

/-- Enter what has been read, one after the other. -/
def setAll
    {κ α : Type}
    [LinearOrder κ]
    (entries : List (κ × α)) : OrderedMap κ α :=
  entries.foldl (fun map entry => map.set entry.1 entry.2) ∅

theorem length_alterEntries_le
    {κ α : Type}
    [LinearOrder κ]
    (key : κ) (change : Option α → Option α) (entries : List (κ × α)) :
    (OrderedMap.alterEntries key change entries).length ≤
      entries.length + 1 := by
  induction entries with
  | nil => cases changed : change none <;> simp [OrderedMap.alterEntries, changed]
  | cons entry rest ih =>
      simp only [OrderedMap.alterEntries]
      split
      · cases changed : change none <;> simp
      · split
        · cases changed : change (some entry.2) with
          | none =>
              change rest.length ≤ rest.length + 1 + 1
              omega
          | some value => simp
        · simpa using ih

theorem length_setAll_le
    {κ α : Type}
    [LinearOrder κ]
    (entries : List (κ × α)) :
    (setAll entries).entries.length ≤ entries.length := by
  suffices ∀ (entries : List (κ × α)) (map : OrderedMap κ α),
      (entries.foldl (fun map entry => map.set entry.1 entry.2)
        map).entries.length ≤ map.entries.length + entries.length by
    exact (this entries ∅).trans_eq (Nat.zero_add entries.length)
  intro entries
  induction entries with
  | nil => exact fun map => Nat.le_refl _
  | cons entry entries ih =>
      intro map
      have first := length_alterEntries_le entry.1 (fun _ => some entry.2)
        map.entries
      have rest := ih (map.set entry.1 entry.2)
      change _ ≤ (OrderedMap.alterEntries entry.1 (fun _ => some entry.2)
        map.entries).length + entries.length at rest
      rw [List.foldl_cons, List.length_cons]
      omega

/-- Enter the entries that have been read. -/
def SizedMap.enter
    {κ α : Type}
    [LinearOrder κ]
    (entries : Sized (κ × α)) : SizedMap κ α :=
  ⟨setAll entries.val, (length_setAll_le entries.val).trans_lt entries.property⟩

namespace ScalarType

def read : (type : ScalarType) → Decoding type.Value
  | unsigned type | handle type =>
      DecodeStream.read (DecodeDataStream.readCompressed type)
  | string => DecodeStream.readString

end ScalarType

namespace DataType

/-- What is read for a number that is written for an enumerant; the last one for all
others. -/
def enumerant (count number : Nat) : Fin (count + 1) :=
  if within : number < count + 1 then ⟨number, within⟩ else Fin.last count

def read : (type : DataType) → Decoding type.Value
  | scalar type => type.read
  | bool => DecodeStream.read DecodeDataStream.readBoolCompressed
  | double => DecodeStream.read (DecodeDataStream.readCompressed .uint64)
  | enum _ others _ => do
      let number ← DecodeStream.read (DecodeDataStream.readCompressed .uint32)
      return enumerant others.length number.val
  | variableLengthData => DecodeStream.readVariableLengthData
  | empty => pure ()
  | pair first second => do
      let value ← first.read
      let other ← second.read
      return (value, other)
  | vector element => DecodeStream.readVector element.read
  | set element => do
      let elements ← DecodeStream.readVector do
        let value ← element.read
        return (value, ())
      return SizedMap.enter elements
  | map key element => do
      let entries ← DecodeStream.readVector do
        let value ← key.read
        let elements ← DecodeStream.readVector element.read
        return (value, elements)
      return SizedMap.enter entries
  | derived base own => do
      let value ← own.read
      return (base.initial, value)

end DataType

/-! ## Reading of buffers -/

/-- The buffers that are left.  To read the buffer at the end is undefined. -/
abbrev PayloadDecoder := StateT (List (List Octet)) (Except Failure)

namespace PayloadDecoder

def readVariableLengthData (value : Sized Octet) :
    PayloadDecoder (Sized Octet) := fun buffers =>
  if value.val = [] then .ok (value, buffers)
  else
    match buffers with
    | [] => .error .undefined
    | buffer :: buffers =>
        if small : buffer.length < 2 ^ 64 then .ok (⟨buffer, small⟩, buffers)
        else .error .undefined

/-- The elements of a vector one after the other. -/
def readElements {α : Type} (readElement : α → PayloadDecoder α) :
    (elements : List α) →
      PayloadDecoder {after : List α // after.length = elements.length}
  | [] => pure ⟨[], rfl⟩
  | element :: elements => do
      let element ← readElement element
      let after ← readElements readElement elements
      return ⟨element :: after.val, congrArg Nat.succ after.property⟩

end PayloadDecoder

namespace DataType

/-- Types without variable length data have no payload. -/
def readPayload : (type : DataType) → type.Value → PayloadDecoder type.Value
  | variableLengthData, value => PayloadDecoder.readVariableLengthData value
  | pair first second, value => do
      let one ← first.readPayload value.1
      let other ← second.readPayload value.2
      return (one, other)
  | vector element, value => do
      let elements ← PayloadDecoder.readElements element.readPayload value.val
      return ⟨elements.val, elements.property.trans_lt value.property⟩
  | derived _ own, value => do
      let other ← own.readPayload value.2
      return (value.1, other)
  | scalar _, value | bool, value | double, value | enum _ _ _, value
  | empty, value | set _, value | map _ _, value => pure value

end DataType

end MessageEncoding
end OpenRTI
