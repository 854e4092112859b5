import OpenRTI.CopyOnWrite.Storage

/-!
# Operations on variable length data

The operations of objects of variable length data on the memory that they share.
An operation fails if it accesses a byte outside the block that it uses.
-/

namespace OpenRTI
namespace CopyOnWrite

open Foundation

namespace Memory

variable {ι : Type*}

def constData (self : Memory ι) (name : ι) (offset : Nat) : Pointer :=
  (self.object name).data.map fun block =>
    (block, sizeT ((self.object name).offset + offset))

def capacity (self : Memory ι) (name : ι) : Nat :=
  match (self.object name).data with
  | none => 0
  | some block =>
      sizeTSub (self.capacityOf block) (self.object name).offset

def getUInt8
    (self : Memory ι)
    (name : ι)
    (offset : Nat) : Option (Option UInt8) :=
  (self.load (self.constData name offset) 1).bind List.head?

section Objects

variable [DecidableEq ι] (sizeOfData : Nat)

/-- Move an object to a new block with a copy of its bytes. -/
def copyToOwnData
    (self : Memory ι)
    (name : ι)
    (capacity : Nat) : Option (Memory ι) := do
  let (created, block) ← self.createOwnData sizeOfData capacity
  let copied ← created.memcpy (some (block, 0)) (self.constData name 0)
    (self.object name).size
  return copied.setObject name
    { self.object name with data := some block, offset := 0 }

/-- Allocate space.  An object without a block keeps its offset. -/
def reserve
    (self : Memory ι)
    (name : ι)
    (cap : Nat) : Option (Memory ι) :=
  -- Don't mess with too small allocations.
  let cap := max 512 cap
  match (self.object name).data with
  | none => do
      let (created, block) ← self.createOwnData sizeOfData cap
      return created.setObject name
        { self.object name with data := some block }
  | some _ =>
      if self.capacity name < cap then self.copyToOwnData sizeOfData name cap
      else some self

def resize
    (self : Memory ι)
    (name : ι)
    (size : Nat) : Option (Memory ι) :=
  if size = (self.object name).size then some self
  else do
    let reserved ←
      match (self.object name).data with
      | none => some self
      | some _ =>
          let cap := self.capacity name
          if cap < size then
            self.reserve sizeOfData name (max size (sizeT (2 * cap)))
          else some self
    return reserved.setObject name { reserved.object name with size }

/-- Make sure the data is not shared with other objects. -/
def ensurePrivate [Fintype ι] (self : Memory ι) (name : ι) : Option (Memory ι) :=
  if self.count (self.object name).data ≤ 1 then some self
  else self.copyToOwnData sizeOfData name (self.capacity name)

/-- The pointer for writing. -/
def data
    [Fintype ι]
    (self : Memory ι)
    (name : ι)
    (offset : Nat) : Option (Memory ι × Pointer) :=
  if (self.object name).size = 0 then some (self, none)
  else do
    let writable ←
      match (self.object name).data with
      | none => self.reserve sizeOfData name (self.object name).size
      | some _ => self.ensurePrivate sizeOfData name
    return (writable, writable.constData name offset)

def clear (self : Memory ι) (name : ι) : Memory ι :=
  let cleared :=
    match (self.object name).data with
    | none => self
    | some block =>
        { self with blocks := self.blocks.modify block Data.clear }
  cleared.setObject name { self.object name with size := 0 }

/-- Replace the data by the range from an offset up to the end. -/
def tail (self : Memory ι) (name : ι) (offset : Nat) : Memory ι :=
  let object := self.object name
  let size := sizeTSub object.size offset
  if size ≠ 0 then
    self.setObject name
      { object with size, offset := sizeT (object.offset + offset) }
  -- If possible detach from the data element
  else self.setObject name { data := none, size, offset := 0 }

def setData
    [Fintype ι]
    (self : Memory ι)
    (name : ι)
    (bytes : Bytes) : Option (Memory ι) := do
  -- Setting size to 0 avoids needless copying of old data
  let emptied := self.setObject name { self.object name with size := 0 }
  let detached ← emptied.ensurePrivate sizeOfData name
  let resized ← detached.resize sizeOfData name bytes.length
  let (writable, destination) ← resized.data sizeOfData name 0
  writable.store destination bytes

def takeDataPointer
    (self : Memory ι)
    (name : ι)
    (bytes : Bytes) : Memory ι :=
  let (created, block) := self.createExternalData bytes
  created.setObject name
    { data := some block, size := bytes.length, offset := 0 }

def setVariableLengthData
    [Fintype ι]
    (self : Memory ι)
    (name source : ι)
    (offset : Nat) : Option (Memory ι) :=
  if offset = 0 ∧ (self.object source).size = (self.object name).size then
    some (self.setObject name
      { self.object name with
        data := (self.object source).data
        offset := (self.object source).offset })
  else do
    let (writable, destination) ← self.data sizeOfData name offset
    writable.memcpy destination (writable.constData source 0)
      (writable.object source).size

/-- Append the data of an object, which is read after the resize. -/
def append
    [Fintype ι]
    (self : Memory ι)
    (name source : ι) : Option (Memory ι) := do
  let offset := (self.object name).size
  let resized ← self.resize sizeOfData name
    (sizeT (offset + (self.object source).size))
  let (writable, destination) ← resized.data sizeOfData name offset
  writable.memcpy destination (writable.constData source 0)
    (writable.object source).size

def setUInt8
    [Fintype ι]
    (self : Memory ι)
    (name : ι)
    (value : UInt8)
    (offset : Nat) : Option (Memory ι) := do
  let (writable, destination) ← self.data sizeOfData name offset
  writable.store destination [some value]

def swap (self : Memory ι) (name other : ι) : Memory ι :=
  (self.setObject name (self.object other)).setObject other (self.object name)

/-- Copy construction and assignment. -/
def copy (self : Memory ι) (name source : ι) : Memory ι :=
  self.setObject name (self.object source)

/-- Construct an object from one that keeps its size and its offset. -/
def constructMove (self : Memory ι) (name source : ι) : Memory ι :=
  (self.setObject name (self.object source)).setObject source
    { self.object source with data := none }

/-- Assign an object, which gets the block in exchange. -/
def moveAssign (self : Memory ι) (name source : ι) : Memory ι :=
  (self.setObject name (self.object source)).setObject source
    { self.object source with data := (self.object name).data }

/-- Construct an object for a range of another one. -/
def constructRange
    (self : Memory ι)
    (name source : ι)
    (offset size : Nat) : Memory ι :=
  self.setObject name
    { data := (self.object source).data
      size
      offset := sizeT ((self.object source).offset + offset) }

def getVariableLengthData
    (self : Memory ι)
    (name source : ι)
    (offset : Nat) : Memory ι :=
  self.constructRange name source offset
    (sizeTSub (self.object source).size offset)

def constructData
    (self : Memory ι)
    (name : ι)
    (bytes : Bytes) : Option (Memory ι) := do
  let (created, block) ← self.createOwnData sizeOfData bytes.length
  let copied ← created.store (some (block, 0)) bytes
  return copied.setObject name
    { data := some block, size := bytes.length, offset := 0 }

/-- Construct an object from the data of several ones. -/
def constructList
    [Fintype ι]
    (self : Memory ι)
    (name : ι)
    (sources : List ι) : Option (Memory ι) := do
  let size := sources.foldl
    (fun size source => sizeT (size + (self.object source).size)) 0
  let reserved ← (self.setObject name {}).reserve sizeOfData name size
  sources.foldlM (fun memory source => memory.append sizeOfData name source)
    reserved

end Objects

end Memory

end CopyOnWrite
end OpenRTI
