import OpenRTI.Foundation.PartialLists
import Mathlib.Algebra.Order.Group.Nat
import Mathlib.Data.Finset.Card
import Mathlib.Data.Fintype.Defs

/-!
# Storage of variable length data

Objects of variable length data refer to blocks of bytes, which several objects
can share.  A block is allocated with its own bytes or takes over bytes that
were allocated elsewhere.  Memory is only accessed through pointers into blocks,
and an access that leaves its block, or goes through a null pointer, fails.

An object that is not yet constructed is like a default constructed one.
Assertions are those of a release build, which has none, and allocations do not
run out of memory.  `sizeOfData` is the size of the header of a block.
-/

namespace OpenRTI
namespace CopyOnWrite

open Foundation

/-- Arithmetic on sizes wraps around. -/
def sizeT (value : Nat) : Nat := value % 2 ^ 64

def sizeTSub (minuend subtrahend : Nat) : Nat :=
  sizeT (minuend + 2 ^ 64 - subtrahend)

/-- Bytes that were never written are unknown. -/
abbrev Bytes := List (Option UInt8)

/-- A block with its bytes, which are its own ones or were taken over.  The
capacity of bytes that were taken over is not known to the block. -/
structure Data where
  capacity : Nat
  own : Bool
  bytes : Bytes
  deriving DecidableEq

/-- Give bytes that were taken over back. -/
def Data.clear (self : Data) : Data :=
  if self.own then self else { self with bytes := [] }

structure VariableLengthData where
  data : Option Nat := none
  size : Nat := 0
  offset : Nat := 0
  deriving DecidableEq

/-- A place in a block, or the null pointer. -/
abbrev Pointer := Option (Nat × Nat)

/-- The blocks and the objects that refer to them. -/
structure Memory (ι : Type*) where
  blocks : List Data := []
  object : ι → VariableLengthData := fun _ => {}

namespace Memory

variable {ι : Type*}

def bytesOf (self : Memory ι) (block : Nat) : Bytes :=
  (self.blocks[block]?.map Data.bytes).getD []

def capacityOf (self : Memory ι) (block : Nat) : Nat :=
  (self.blocks[block]?.map Data.capacity).getD 0

/-- The bytes that an object stands for, as far as they are in its block. -/
def contentsOf (self : Memory ι) (object : VariableLengthData) : Bytes :=
  match object.data with
  | none => List.replicate object.size none
  | some block => slice object.offset object.size (self.bytesOf block)

def contents (self : Memory ι) (name : ι) : Bytes :=
  self.contentsOf (self.object name)

def setObject
    [DecidableEq ι]
    (self : Memory ι)
    (name : ι)
    (value : VariableLengthData) : Memory ι :=
  { self with object := Function.update self.object name value }

/-- The number of objects that refer to a block. -/
def count [Fintype ι] (self : Memory ι) (data : Option Nat) : Nat :=
  match data with
  | none => 0
  | some block =>
      (Finset.univ.filter fun name =>
        (self.object name).data = some block).card

def load (self : Memory ι) (source : Pointer) (size : Nat) : Option Bytes :=
  if size = 0 then some []
  else
    match source with
    | none => none
    | some (block, position) =>
        if position + size ≤ (self.bytesOf block).length then
          some (slice position size (self.bytesOf block))
        else none

def setBytes
    (self : Memory ι)
    (block : Nat)
    (bytes : Bytes) : Memory ι :=
  { self with
    blocks := self.blocks.modify block fun data => { data with bytes } }

def store
    (self : Memory ι)
    (destination : Pointer)
    (values : Bytes) : Option (Memory ι) :=
  if values = [] then some self
  else
    match destination with
    | none => none
    | some (block, position) =>
        if position + values.length ≤ (self.bytesOf block).length then
          some (self.setBytes block
            (overwrite position values (self.bytesOf block)))
        else none

/-- Two ranges of one size that have a byte in common. -/
def overlap (size : Nat) : Pointer → Pointer → Bool
  | some (block, position), some (block', position') =>
      block = block' ∧ position < position' + size ∧
        position' < position + size
  | _, _ => false

/-- Copy bytes, which is not defined for ranges that overlap. -/
def memcpy
    (self : Memory ι)
    (destination source : Pointer)
    (size : Nat) : Option (Memory ι) :=
  if size ≠ 0 ∧ overlap size destination source then none
  else (self.load source size).bind (self.store destination)

/-- Allocate a block with its own bytes.  A size that wraps around leaves no
place even for the header. -/
def createOwnData
    (self : Memory ι)
    (sizeOfData capacity : Nat) : Option (Memory ι × Nat) :=
  if capacity + sizeOfData < 2 ^ 64 then
    some ({ self with
      blocks := self.blocks ++
        [{ capacity, own := true, bytes := List.replicate capacity none }] },
      self.blocks.length)
  else none

/-- Take over bytes. -/
def createExternalData
    (self : Memory ι)
    (bytes : Bytes) : Memory ι × Nat :=
  ({ self with
    blocks := self.blocks ++ [{ capacity := 0, own := false, bytes }] },
    self.blocks.length)

end Memory

end CopyOnWrite
end OpenRTI
