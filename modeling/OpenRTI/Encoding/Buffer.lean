import OpenRTI.Foundation.Octets

/-!
# Reading and writing octets

A buffer is as long as its `bufferSize` says.  An access outside of it, a shift
by the width of the number or more and a sum of sizes that wraps are undefined.
-/

namespace OpenRTI
namespace Encoding

open Foundation (Octet)
open Foundation.Octets

inductive Failure
  | encoderException (what : String)
  | undefined
  deriving DecidableEq

/-- No object is longer than what the difference of two pointers can tell. -/
structure Buffer where
  octets : List Octet
  addressable : octets.length ≤ 2 ^ 63
  deriving DecidableEq

namespace Buffer

def bufferSize (self : Buffer) : Nat :=
  self.octets.length

def read (self : Buffer) (index : Nat) : Except Failure Octet :=
  match self.octets[index]? with
  | none => .error .undefined
  | some octet => .ok octet

def write
    (self : Buffer)
    (index : Nat)
    (octet : Octet) : Except Failure Buffer :=
  if index < self.bufferSize then
    .ok
      { octets := self.octets.set index octet
        addressable := by rw [List.length_set]; exact self.addressable }
  else .error .undefined

end Buffer

/-- Write from an offset on.  The result is the offset after what is written. -/
abbrev Encoder := Buffer → Nat → Except Failure (Buffer × Nat)

/-- Read from an index on.  The result is the index after what is read. -/
abbrev Decoder (α : Type) := Buffer → Nat → Except Failure (α × Nat)

def Encoder.andThen (first second : Encoder) : Encoder :=
  fun buffer offset => do
    let (buffer, offset) ← first buffer offset
    second buffer offset

/-- The sum of two sizes, which must not wrap. -/
def sizeSum (first second : Nat) : Except Failure Nat :=
  if first + second < 2 ^ 64 then .ok (first + second) else .error .undefined

/-- The check that there is room from an offset on. -/
def require
    (buffer : Buffer)
    (offset width : Nat)
    (what : String) : Except Failure Unit := do
  let last ← sizeSum offset width
  if buffer.bufferSize < last then .error (.encoderException what)

def writeAll : List Octet → Encoder
  | [], buffer, offset => .ok (buffer, offset)
  | octet :: rest, buffer, offset => do
      let buffer ← buffer.write offset octet
      writeAll rest buffer (offset + 1)

def readAll : Nat → Decoder (List Octet)
  | 0, _, index => .ok ([], index)
  | count + 1, buffer, index => do
      let octet ← buffer.read index
      let (rest, index) ← readAll count buffer (index + 1)
      .ok (octet :: rest, index)

/-! ## Numbers of a fixed width -/

def tooSmall : String := "provided buffer too small"

def encodeIntoLE (width value : Nat) : Encoder := fun buffer offset => do
  require buffer offset width tooSmall
  writeAll (littleEndian width value) buffer offset

def encodeIntoBE (width value : Nat) : Encoder := fun buffer offset => do
  require buffer offset width tooSmall
  writeAll (bigEndian width value) buffer offset

def decodeFromLE (width : Nat) : Decoder Nat := fun buffer offset => do
  require buffer offset width tooSmall
  let (octets, offset) ← readAll width buffer offset
  .ok (ofLittleEndian octets, offset)

def decodeFromBE (width : Nat) : Decoder Nat := fun buffer offset => do
  require buffer offset width tooSmall
  let (octets, offset) ← readAll width buffer offset
  .ok (ofBigEndian octets, offset)

def encodeIntoLE64 (value : BitVec 64) : Encoder := encodeIntoLE 8 value.toNat
def encodeIntoBE64 (value : BitVec 64) : Encoder := encodeIntoBE 8 value.toNat
def encodeIntoLE32 (value : BitVec 32) : Encoder := encodeIntoLE 4 value.toNat
def encodeIntoBE32 (value : BitVec 32) : Encoder := encodeIntoBE 4 value.toNat
def encodeIntoLE16 (value : BitVec 16) : Encoder := encodeIntoLE 2 value.toNat
def encodeIntoBE16 (value : BitVec 16) : Encoder := encodeIntoBE 2 value.toNat

/-- The number that is read, as a value of its width. -/
def asBits (bits : Nat) (decoder : Decoder Nat) : Decoder (BitVec bits) :=
  fun buffer offset => do
    let (value, offset) ← decoder buffer offset
    .ok (BitVec.ofNat bits value, offset)

def decodeFromLE64 : Decoder (BitVec 64) := asBits 64 (decodeFromLE 8)
def decodeFromBE64 : Decoder (BitVec 64) := asBits 64 (decodeFromBE 8)
def decodeFromLE32 : Decoder (BitVec 32) := asBits 32 (decodeFromLE 4)
def decodeFromBE32 : Decoder (BitVec 32) := asBits 32 (decodeFromBE 4)
def decodeFromLE16 : Decoder (BitVec 16) := asBits 16 (decodeFromLE 2)
def decodeFromBE16 : Decoder (BitVec 16) := asBits 16 (decodeFromBE 2)

/-! ## Compressed numbers -/

/-- Write the marked groups of seven bits, of which `groups` may follow, and the
last one, for which there is no check. -/
def encodeGroups : Nat → Nat → Encoder
  | 0, value, buffer, offset => do
      let buffer ← buffer.write offset (BitVec.ofNat 8 value)
      .ok (buffer, offset + 1)
  | groups + 1, value, buffer, offset =>
      if value < 128 then do
        let buffer ← buffer.write offset (BitVec.ofNat 8 value)
        .ok (buffer, offset + 1)
      else if buffer.bufferSize ≤ offset then
        .error (.encoderException tooSmall)
      else do
        let buffer ← buffer.write offset
          (BitVec.ofNat 8 (128 ||| (value % 128)))
        encodeGroups groups (value >>> 7) buffer (offset + 1)

/-- A number of 32 bits has at most five groups. -/
def encodeIntoBE32Compressed (value : BitVec 32) : Encoder :=
  fun buffer offset =>
    if buffer.bufferSize ≤ offset then .error (.encoderException tooSmall)
    else encodeGroups 4 value.toNat buffer offset

/-- Read groups of seven bits until one is not marked. -/
def decodeGroups : List Octet → Nat → Nat → Nat → Except Failure (Nat × Nat)
  | [], _, _, _ =>
      .error (.encoderException "decodeCompressed<j>: provided buffer too small")
  | octet :: rest, shift, value, offset =>
      if 32 ≤ shift then .error .undefined
      else if octet.toNat < 128 then
        .ok (value ||| ((octet.toNat % 128) <<< shift) % 2 ^ 32, offset + 1)
      else
        decodeGroups rest (shift + 7)
          (value ||| ((octet.toNat % 128) <<< shift) % 2 ^ 32) (offset + 1)

def decodeFromBE32Compressed : Decoder (BitVec 32) :=
  asBits 32 fun buffer offset =>
    decodeGroups (buffer.octets.drop offset) 0 0 offset

end Encoding
end OpenRTI
