import OpenRTI.Encoding.Buffer

/-!
# Basic data elements

The data elements that hold one value of a simple type.  Floating point numbers
are held as their bits, and a wide character has 32 bits.
-/

namespace OpenRTI
namespace Encoding

open Foundation (Octet)
open Foundation.Octets

inductive BasicDataElement
  | asciiChar
  | boolean
  | byte
  | octet
  | unicodeChar
  | integer16BE
  | integer16LE
  | integer32BE
  | integer32LE
  | integer64BE
  | integer64LE
  | octetPairBE
  | octetPairLE
  | float32BE
  | float32LE
  | float64BE
  | float64LE
  | asciiString
  | unicodeString
  | opaqueData
  deriving DecidableEq

namespace BasicDataElement

/-- What an element holds. -/
@[reducible] def SimpleDataType : BasicDataElement → Type
  | asciiChar | byte | octet => Octet
  | boolean => Bool
  | unicodeChar => BitVec 32
  | integer16BE | integer16LE => BitVec 16
  | integer32BE | integer32LE | float32BE | float32LE => BitVec 32
  | integer64BE | integer64LE | float64BE | float64LE => BitVec 64
  | octetPairBE | octetPairLE => Octet × Octet
  | asciiString | opaqueData => List Octet
  | unicodeString => List (BitVec 32)

def default : (self : BasicDataElement) → self.SimpleDataType
  | asciiChar | byte | octet => 0
  | boolean => false
  | unicodeChar => 0
  | integer16BE | integer16LE => 0
  | integer32BE | integer32LE | float32BE | float32LE => 0
  | integer64BE | integer64LE | float64BE | float64LE => 0
  | octetPairBE | octetPairLE => (0, 0)
  | asciiString | opaqueData => []
  | unicodeString => []

/-! ## Encoding -/

/-- A wide character is cut to 16 bits. -/
def encodeCharacters : List (BitVec 32) → Encoder
  | [], buffer, offset => .ok (buffer, offset)
  | character :: rest, buffer, offset => do
      let (buffer, offset) ←
        encodeIntoBE16 (character.setWidth 16) buffer offset
      encodeCharacters rest buffer offset

/-- A length that does not fit in 32 bits is cut. -/
def cutLength (length : Nat) : Nat :=
  if 2 ^ 32 - 1 < length then 2 ^ 32 - 1 else length

/-- The octets of an ASCII string are copied without a check. -/
def encodeAsciiString (value : List Octet) : Encoder :=
  (encodeIntoBE32 (BitVec.ofNat 32 (cutLength value.length))).andThen
    (writeAll (value.take (cutLength value.length)))

def encodeUnicodeString (value : List (BitVec 32)) : Encoder :=
  (encodeIntoBE32 (BitVec.ofNat 32 (cutLength value.length))).andThen
    (encodeCharacters (value.take (cutLength value.length)))

def encodeOpaqueData (value : List Octet) : Encoder := fun buffer offset =>
  if 0xffffffff < value.length then
    .error (.encoderException
      "HLAopaqueData::encodeInto(): array size is too big to encode!")
  else
    (encodeIntoBE32 (BitVec.ofNat 32 value.length)).andThen (writeAll value)
      buffer offset

def encodeInto : (self : BasicDataElement) → self.SimpleDataType → Encoder
  | asciiChar, value => writeAll [value]
  | boolean, value => writeAll [if value then 1 else 0]
  | byte, value => writeAll [value]
  | octet, value => writeAll [value]
  | unicodeChar, value => encodeIntoBE16 (value.setWidth 16)
  | integer16BE, value => encodeIntoBE16 value
  | integer16LE, value => encodeIntoLE16 value
  | integer32BE, value => encodeIntoBE32 value
  | integer32LE, value => encodeIntoLE32 value
  | integer64BE, value => encodeIntoBE64 value
  | integer64LE, value => encodeIntoLE64 value
  | octetPairBE, value => writeAll [value.1, value.2]
  | octetPairLE, value => writeAll [value.2, value.1]
  | float32BE, value => encodeIntoBE32 value
  | float32LE, value => encodeIntoLE32 value
  | float64BE, value => encodeIntoBE64 value
  | float64LE, value => encodeIntoLE64 value
  | asciiString, value => encodeAsciiString value
  | unicodeString, value => encodeUnicodeString value
  | opaqueData, value => encodeOpaqueData value

def getEncodedLength :
    (self : BasicDataElement) → self.SimpleDataType → Nat
  | asciiChar, _ | boolean, _ | byte, _ | octet, _ => 1
  | unicodeChar, _ | integer16BE, _ | integer16LE, _ => 2
  | octetPairBE, _ | octetPairLE, _ => 2
  | integer32BE, _ | integer32LE, _ | float32BE, _ | float32LE, _ => 4
  | integer64BE, _ | integer64LE, _ | float64BE, _ | float64LE, _ => 8
  | asciiString, value => 4 + value.length
  | unicodeString, value => 4 + 2 * value.length
  | opaqueData, value => 4 + value.length

/-! ## Decoding -/

def insufficient : String := "Insufficient buffer size for decoding!"

/-- Read one octet, if the buffer does not end before. -/
def decodeOctet : Decoder Octet := fun buffer index =>
  if buffer.bufferSize ≤ index then .error (.encoderException insufficient)
  else do
    let octet ← buffer.read index
    .ok (octet, index + 1)

/-- Decode a number after a check of its own. -/
def decodeChecked
    {α : Type}
    (width : Nat)
    (decoder : Decoder α) : Decoder α := fun buffer index => do
  require buffer index width insufficient
  decoder buffer index

def Decoder.map {α β : Type} (change : α → β) (decoder : Decoder α) :
    Decoder β := fun buffer index => do
  let (value, index) ← decoder buffer index
  .ok (change value, index)

def decodeOctetPair : Decoder (Octet × Octet) :=
  decodeChecked 2 fun buffer index => do
    let first ← buffer.read index
    let second ← buffer.read (index + 1)
    .ok ((first, second), index + 2)

/-- Characters of two octets each. -/
def decodeCharacters : Nat → Decoder (List (BitVec 32))
  | 0, _, index => .ok ([], index)
  | length + 1, buffer, index => do
      let first ← buffer.read index
      let second ← buffer.read (index + 1)
      let (rest, index) ← decodeCharacters length buffer (index + 2)
      .ok (BitVec.ofNat 32 (ofBigEndian [first, second]) :: rest, index)

/-- A length is a signed number of 32 bits, and no less than 0. -/
def signedLength (length : BitVec 32) : Nat :=
  length.toInt.toNat

def decodeAsciiString : Decoder (List Octet) := fun buffer index => do
  let (length, index) ← decodeChecked 4 decodeFromBE32 buffer index
  require buffer index (signedLength length) insufficient
  readAll (signedLength length) buffer index

/-- Twice the length is a signed number of 32 bits again. -/
def decodeUnicodeString : Decoder (List (BitVec 32)) :=
  fun buffer index => do
    let (length, index) ← decodeChecked 4 decodeFromBE32 buffer index
    if 2 ^ 31 ≤ 2 * signedLength length then .error .undefined
    require buffer index (2 * signedLength length) insufficient
    decodeCharacters (signedLength length) buffer index

/-- The octets are copied without a check. -/
def decodeOpaqueData : Decoder (List Octet) := fun buffer index => do
  let (length, index) ← decodeChecked 4 decodeFromBE32 buffer index
  readAll length.toNat buffer index

def decodeFrom : (self : BasicDataElement) → Decoder self.SimpleDataType
  | asciiChar => decodeOctet
  | boolean => Decoder.map (fun octet => octet ≠ 0) decodeOctet
  | byte => decodeOctet
  | octet => decodeOctet
  | unicodeChar =>
      Decoder.map (fun value => value.setWidth 32)
        (decodeChecked 2 decodeFromBE16)
  | integer16BE => decodeChecked 2 decodeFromBE16
  | integer16LE => decodeChecked 2 decodeFromLE16
  | integer32BE => decodeChecked 4 decodeFromBE32
  | integer32LE => decodeChecked 4 decodeFromLE32
  | integer64BE => decodeChecked 8 decodeFromBE64
  | integer64LE => decodeChecked 8 decodeFromLE64
  | octetPairBE => decodeOctetPair
  | octetPairLE => Decoder.map Prod.swap decodeOctetPair
  | float32BE => decodeChecked 4 decodeFromBE32
  | float32LE => decodeChecked 4 decodeFromLE32
  | float64BE => decodeChecked 8 decodeFromBE64
  | float64LE => decodeChecked 8 decodeFromLE64
  | asciiString => decodeAsciiString
  | unicodeString => decodeUnicodeString
  | opaqueData => decodeOpaqueData

end BasicDataElement
end Encoding
end OpenRTI
