import OpenRTI.Encoding.DataElement
import OpenRTI.Foundation.TransitionSystem

/-!
# The vectors of an array of a basic type

An array has its values in one vector, the encoders of them in another, and
pointers to the encoders in a third.  Vectors move to other storage when they
grow beyond their capacity.  A pointer may also point to an element of the caller,
who keeps it.
-/

namespace OpenRTI
namespace Encoding

/-! ## Vectors -/

/-- The capacity of a vector that has to move, by its size and the size it is
resized to. -/
structure Growth where
  capacity : Nat → Nat → Nat
  enough : ∀ size length, length ≤ capacity size length

/-- A vector has its elements in a block of storage. -/
structure Vector (α : Type) where
  block : Nat
  capacity : Nat
  elements : List α

/-- Cut a list, or fill it up. -/
def resizeList {α : Type} (default : α) (length : Nat) (list : List α) : List α :=
  list.take length ++ List.replicate (length - list.length) default

/-- Beyond its capacity a vector moves to a fresh block. -/
def Vector.resize
    {α : Type}
    (growth : Growth)
    (fresh : Nat)
    (default : α)
    (length : Nat)
    (self : Vector α) : Vector α :=
  if length ≤ self.capacity then
    { self with elements := resizeList default length self.elements }
  else
    { block := fresh
      capacity := growth.capacity self.elements.length length
      elements := resizeList default length self.elements }

def Vector.clear {α : Type} (self : Vector α) : Vector α :=
  { self with elements := [] }

/-! ## The array -/

/-- Where an encoder has its value. -/
structure DataPointer where
  block : Nat
  index : Nat
  deriving DecidableEq

/-- A pointer to an encoder in a block of storage, to an element of the caller, or
to a copy that the array has made of one. -/
inductive ElementPointer
  | null
  | own (block index : Nat)
  | external (element : Nat)
  | copy (element : Nat)
  deriving DecidableEq

/-- Where a value is kept. -/
inductive Location
  | data (index : Nat)
  | external (element : Nat)
  | copy (element : Nat)
  deriving DecidableEq

/-- The vectors of an array, the copies that it has made, and the elements of the
caller. -/
structure BasicTypeArray (α : Type) where
  dataVector : Vector α
  dataElementVector : Vector DataPointer
  dataElementPointerVector : List ElementPointer
  nextBlock : Nat
  copies : List α
  externals : Nat → α

/-- The argument of a call that takes a pointer to an element. -/
inductive PointerArgument
  | null
  | otherType
  | element (element : Nat)
  deriving DecidableEq

namespace BasicTypeArray

variable {α : Type}

/-- What a call leaves, and why it has failed if it has. -/
abbrev Outcome (α : Type) := BasicTypeArray α × Option Failure

def throws (self : BasicTypeArray α) (what : String) : Outcome α :=
  (self, some (.encoderException what))

/-- An array without elements. -/
def new (externals : Nat → α) : BasicTypeArray α where
  dataVector := ⟨0, 0, []⟩
  dataElementVector := ⟨1, 0, []⟩
  dataElementPointerVector := []
  nextBlock := 2
  copies := []
  externals := externals

/-! ## Values -/

/-- Follow a pointer, and the data pointer of an own encoder.  There is nothing
in storage that has been left. -/
def locate (self : BasicTypeArray α) : ElementPointer → Except Failure Location
  | .null => .error .undefined
  | .own block index =>
      if block = self.dataElementVector.block then
        match self.dataElementVector.elements[index]? with
        | none => .error .undefined
        | some dataPointer =>
            if dataPointer.block = self.dataVector.block ∧
                dataPointer.index < self.dataVector.elements.length then
              .ok (.data dataPointer.index)
            else .error .undefined
      else .error .undefined
  | .external element => .ok (.external element)
  | .copy element => .ok (.copy element)

def read (self : BasicTypeArray α) : Location → Except Failure α
  | .data index =>
      (self.dataVector.elements[index]?).elim (.error .undefined) .ok
  | .external element => .ok (self.externals element)
  | .copy element => (self.copies[element]?).elim (.error .undefined) .ok

def write (self : BasicTypeArray α) (value : α) : Location → BasicTypeArray α
  | .data index =>
      { self with dataVector := { self.dataVector with
          elements := self.dataVector.elements.set index value } }
  | .external element =>
      { self with externals := Function.update self.externals element value }
  | .copy element => { self with copies := self.copies.set element value }

/-- The value of an element. -/
def get (self : BasicTypeArray α) (index : Nat) : Except Failure α := do
  let pointer ←
    (self.dataElementPointerVector[index]?).elim (.error .undefined) .ok
  let location ← self.locate pointer
  self.read location

def size (self : BasicTypeArray α) : Nat :=
  self.dataVector.elements.length

/-- The number of elements in the header of a variable array, which is encoded
before the elements, and by which the encoded length is reckoned. -/
def encodedSize (self : BasicTypeArray α) : Nat :=
  self.dataElementVector.elements.length

/-! ## Resizing -/

/-- An element counts as an own one if its pointer is strictly between those to
the first and the last own encoder. -/
def existingOwned (self : BasicTypeArray α) : ElementPointer → Bool
  | .own block index =>
      block = self.dataElementVector.block ∧ 0 < index ∧
        index + 1 < self.dataElementVector.elements.length
  | _ => false

/-- The pointer to an element after the vectors are resized. -/
def refreshed
    (self : BasicTypeArray α)
    (block : Nat)
    (index : Nat)
    (pointer : ElementPointer) : ElementPointer :=
  if pointer = .null ∨ self.existingOwned pointer then .own block index
  else pointer

def resize
    (growth : Growth)
    (default : α)
    (length : Nat)
    (self : BasicTypeArray α) : BasicTypeArray α :=
  let dataVector :=
    self.dataVector.resize growth self.nextBlock default length
  let dataElementVector :=
    self.dataElementVector.resize growth (self.nextBlock + 1) ⟨0, 0⟩ length
  { self with
    dataVector
    dataElementVector := { dataElementVector with
      elements := dataElementVector.elements.mapIdx fun index _ =>
        ⟨dataVector.block, index⟩ }
    dataElementPointerVector :=
      (resizeList .null length self.dataElementPointerVector).mapIdx
        fun index pointer =>
          self.refreshed dataElementVector.block index pointer
    nextBlock := self.nextBlock + 2 }

def clear (self : BasicTypeArray α) : BasicTypeArray α :=
  { self with
    dataVector := self.dataVector.clear
    dataElementVector := self.dataElementVector.clear
    dataElementPointerVector := [] }

/-! ## Changing elements -/

/-- An argument is the value of an element of the right type. -/
def set
    (index : Nat)
    (dataElement : Option α)
    (self : BasicTypeArray α) : Outcome α :=
  match dataElement with
  | none =>
      self.throws "HLAfixedArray::set(): Data type is not compatible!"
  | some value =>
      match self.dataElementPointerVector[index]? with
      | none => self.throws "HLAfixedArray::set(): Index out of range!"
      | some pointer =>
          match self.locate pointer with
          | .error failure => (self, some failure)
          | .ok location => (self.write value location, none)

/-- A pointer to a copy is appended to the pointers. -/
def addElement
    (dataElement : Option α)
    (self : BasicTypeArray α) : Outcome α :=
  match dataElement with
  | none =>
      self.throws "HLAvariableArray::addElement(): Data type is not compatible!"
  | some value =>
      ({ self with
        dataElementPointerVector :=
          self.dataElementPointerVector ++ [.copy self.copies.length]
        copies := self.copies ++ [value] }, none)

def setElementPointer
    (index : Nat)
    (dataElement : PointerArgument)
    (self : BasicTypeArray α) : Outcome α :=
  match dataElement with
  | .null =>
      self.throws "HLAfixedArray::setElementPointer(): dataElement is zero!"
  | .otherType =>
      self.throws
        "HLAfixedArray::setElementPointer(): Data type is not compatible!"
  | .element element =>
      if self.dataElementVector.elements.length ≤ index then
        self.throws "HLAfixedArray::setElementPointer(): Index out of range!"
      else
        ({ self with
          dataElementPointerVector :=
            self.dataElementPointerVector.set index (.external element) },
          none)

def addElementPointer
    (growth : Growth)
    (default : α)
    (dataElement : PointerArgument)
    (self : BasicTypeArray α) : Outcome α :=
  match dataElement with
  | .null =>
      self.throws "HLAvariableArray::addElementPointer(): dataElement is zero!"
  | .otherType =>
      self.throws
        "HLAfixedArray::setElementPointer(): Data type is not compatible!"
  | .element element =>
      let after := self.resize growth default (self.size + 1)
      ({ after with
        dataElementPointerVector :=
          after.dataElementPointerVector.set (after.size - 1)
            (.external element) }, none)

/-! ## Decoding -/

/-- Decode the elements that the pointers point to. -/
def decodeElements
    (decode : Decoder α)
    (buffer : Buffer) :
    List ElementPointer → Nat → BasicTypeArray α → Outcome α
  | [], _, self => (self, none)
  | pointer :: rest, offset, self =>
      match self.locate pointer with
      | .error failure => (self, some failure)
      | .ok location =>
          match decode buffer offset with
          | .error failure => (self, some failure)
          | .ok (value, offset) =>
              decodeElements decode buffer rest offset
                (self.write value location)

/-- A variable array is resized to the length that is decoded first. -/
def decodeFrom
    (growth : Growth)
    (default : α)
    (decode : Decoder α)
    (variableArray : Bool)
    (buffer : Buffer)
    (offset : Nat)
    (self : BasicTypeArray α) : Outcome α :=
  if variableArray then
    match BasicDataElement.decodeChecked 4 decodeFromBE32 buffer offset with
    | .error failure => (self, some failure)
    | .ok (length, offset) =>
        let after := self.resize growth default length.toNat
        decodeElements decode buffer after.dataElementPointerVector offset
          after
  else decodeElements decode buffer self.dataElementPointerVector offset self

end BasicTypeArray

/-! ## Calls -/

inductive ArrayCall (α : Type)
  | set (index : Nat) (dataElement : Option α)
  | addElement (dataElement : Option α)
  | setElementPointer (index : Nat) (dataElement : PointerArgument)
  | addElementPointer (dataElement : PointerArgument)
  | resize (length : Nat)
  | decode (buffer : Buffer)
  | clear

/-- An array of a basic type, fixed or variable, on a library. -/
structure ArrayKind where
  type : BasicDataElement
  array : type.hasArray = true
  variableArray : Bool
  growth : Growth

namespace ArrayKind

abbrev Value (kind : ArrayKind) : Type :=
  kind.type.SimpleDataType

def outcome
    (kind : ArrayKind)
    (self : BasicTypeArray kind.Value) :
    ArrayCall kind.Value → BasicTypeArray.Outcome kind.Value
  | .set index dataElement => self.set index dataElement
  | .addElement dataElement => self.addElement dataElement
  | .setElementPointer index dataElement =>
      self.setElementPointer index dataElement
  | .addElementPointer dataElement =>
      self.addElementPointer kind.growth kind.type.default dataElement
  | .resize length => (self.resize kind.growth kind.type.default length, none)
  | .decode buffer =>
      self.decodeFrom kind.growth kind.type.default kind.type.decodeFrom
        kind.variableArray buffer 0
  | .clear => (self.clear, none)

/-- The state after a call, which the caller goes on with also after an
exception. -/
def call
    (kind : ArrayKind)
    (self : BasicTypeArray kind.Value)
    (arrayCall : ArrayCall kind.Value) : Option (BasicTypeArray kind.Value) :=
  if (kind.outcome self arrayCall).2 = some .undefined then none
  else some (kind.outcome self arrayCall).1

/-- An array that is made with a length. -/
def start
    (kind : ArrayKind)
    (length : Nat)
    (externals : Nat → kind.Value) : BasicTypeArray kind.Value :=
  (BasicTypeArray.new externals).resize kind.growth kind.type.default length

/-- An array and the calls on it. -/
def system
    (kind : ArrayKind)
    (length : Nat)
    (externals : Nat → kind.Value) :
    Foundation.TransitionSystem
      (BasicTypeArray kind.Value) (ArrayCall kind.Value) where
  initial := kind.start length externals
  next := kind.call

end ArrayKind

end Encoding
end OpenRTI
