import OpenRTI.DataStream.AlignedStreams
import OpenRTI.Foundation.OrderedMap
import Mathlib.Data.List.Lex

/-!
# The initial stream protocol

Both sides of a connection first send a header with the size of all, and a map
of options.  The map is written entry by entry, strings are filled up to a
multiple of four octets.
-/

namespace OpenRTI
namespace DataStream

open Foundation (Octet OrderedMap)

/-- Strings are ordered by their octets. -/
structure OctetString where
  octets : List Octet
  deriving DecidableEq

namespace OctetString

def toNats (self : OctetString) : List Nat :=
  self.octets.map BitVec.toNat

theorem toNats_injective : Function.Injective toNats := by
  rintro ⟨left⟩ ⟨right⟩ same
  have injective : Function.Injective (BitVec.toNat : Octet → Nat) :=
    fun _ _ => BitVec.eq_of_toNat_eq
  exact congrArg OctetString.mk
    (List.map_injective_iff.mpr injective same)

instance : LinearOrder OctetString :=
  LinearOrder.lift' toNats toNats_injective

end OctetString

abbrev StringList := List OctetString

abbrev StringStringListMap := OrderedMap OctetString StringList

/-! ## Writing the options -/

namespace EncodeDataStream

def writeString (self : EncodeDataStream) (utf8 : OctetString) :
    EncodeDataStream :=
  ((self.writeUInt32BE (BitVec.ofNat 32 utf8.octets.length)).writeOctets
    utf8.octets).align 4

def writeStringList (self : EncodeDataStream) (stringList : StringList) :
    EncodeDataStream :=
  stringList.foldl writeString
    (self.writeUInt32BE (BitVec.ofNat 32 stringList.length))

def writeEntry
    (self : EncodeDataStream)
    (entry : OctetString × StringList) : EncodeDataStream :=
  (self.writeString entry.1).writeStringList entry.2

def writeStringStringListMap
    (self : EncodeDataStream)
    (stringStringListMap : StringStringListMap) : EncodeDataStream :=
  stringStringListMap.entries.foldl writeEntry
    (self.writeUInt32BE (BitVec.ofNat 32 stringStringListMap.entries.length))

end EncodeDataStream

/-- `OpenRTI`, and a zero at the end. -/
def starter : List Octet :=
  [0x4f, 0x70, 0x65, 0x6e, 0x52, 0x54, 0x49, 0x00]

/-- The header and the body that are sent. -/
def writeOptionMap (stringStringListMap : StringStringListMap) :
    List Octet × List Octet :=
  let body :=
    EncodeDataStream.new.writeStringStringListMap stringStringListMap
      |>.variableLengthData
  let header :=
    (EncodeDataStream.new.writeOctets starter).writeUInt32BE
        (BitVec.ofNat 32 (body.length + 12))
      |>.variableLengthData
  (header, body)

/-! ## Reading the options -/

namespace DecodeDataStream

def readString : Reading OctetString := fun self => do
  let (length, self) ← self.readUInt32BE
  let (octets, self) ← readOctets length.toNat self
  let (_, self) ← align 4 self
  .ok (⟨octets⟩, self)

/-- Read strings and append them. -/
def readStrings : Nat → StringList → Reading StringList
  | 0, stringList, self => .ok (stringList, self)
  | count + 1, stringList, self => do
      let (utf8, self) ← self.readString
      readStrings count (stringList ++ [utf8]) self

def readStringList (stringList : StringList) : Reading StringList :=
  fun self => do
    let (count, self) ← self.readUInt32BE
    readStrings count.toNat stringList self

/-- Read entries.  The strings of a key that has been read before are appended
to those of before. -/
def readEntries : Nat → StringStringListMap → Reading StringStringListMap
  | 0, stringStringListMap, self => .ok (stringStringListMap, self)
  | count + 1, stringStringListMap, self => do
      let (key, self) ← self.readString
      let (stringList, self) ←
        readStringList ((stringStringListMap.find? key).getD []) self
      readEntries count (stringStringListMap.set key stringList) self

def readStringStringListMap : Reading StringStringListMap := fun self => do
  let (count, self) ← self.readUInt32BE
  readEntries count.toNat ∅ self

end DecodeDataStream

inductive PacketFailure
  | messageError (reason : String)
  | stream (failure : Failure)
  deriving DecidableEq

/-- What reading goes on with. -/
inductive PacketResult
  | addScratchReadBuffer (size : Nat)
  | readOptionMap (stringStringListMap : StringStringListMap)
  deriving DecidableEq

/-- Read from a buffer of the whole stream. -/
def reading {α : Type} (read : Reading α) (variableLengthData : List Octet) :
    Except PacketFailure (α × DecodeDataStream) :=
  (read ⟨variableLengthData, 0⟩).mapError .stream

def readHeader (header : List Octet) : Except PacketFailure PacketResult := do
  let (read, decodeStream) ←
    reading (DecodeDataStream.readOctets 8) header
  if read ≠ starter then
    .error (.messageError "Connection does not start with the correct header!")
  let (size, _) ← decodeStream.readUInt32BE.mapError .stream
  if size.toNat ≤ 12 then
    .error (.messageError
      "Connection does not start with a valid size field in the header!")
  .ok (.addScratchReadBuffer (size.toNat - 12))

/-- The buffers that are filled so far. -/
def readPacket : List (List Octet) → Except PacketFailure PacketResult
  | [] => .ok (.addScratchReadBuffer 12)
  | [header] => readHeader header
  | [_, body] => do
      let (stringStringListMap, _) ←
        reading DecodeDataStream.readStringStringListMap body
      .ok (.readOptionMap stringStringListMap)
  | _ => .error (.messageError "Unexpected message buffer size!")

end DataStream
end OpenRTI
