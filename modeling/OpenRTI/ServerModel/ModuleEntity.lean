import OpenRTI.ServerModel.FOMStringModule

/-!
# Named entities of the object model

Dimensions, update rates and data types are kept alike: a module that names one
either refers to the established entity of that name, or creates it.  A module
holds a link to each entity it names, and an entity lives as long as some module
has a link to it.
-/

namespace OpenRTI
namespace ServerModel

/-- The value of an invalid handle of 32 bits. -/
abbrev invalidHandle : Nat := 2 ^ 32 - 1

structure ModuleEntity (δ : Type) where
  handle : Nat
  name : String
  value : δ
  deriving DecidableEq

/-- The entities of one kind, in the order of their insertion, and the handles
for further ones. -/
structure EntityTable (δ : Type) where
  entities : List (ModuleEntity δ) := []
  handleAllocator : HandleAllocator invalidHandle := {}
  deriving DecidableEq

/-- The entities of one kind while a module is inserted, and the links of that
module to them. -/
structure EntityInsertion (δ : Type) where
  table : EntityTable δ
  moduleList : List Nat

namespace EntityTable

variable {δ : Type}

def findName (self : EntityTable δ) (name : String) :
    Option (ModuleEntity δ) :=
  self.entities.find? fun entity => entity.name = name

/-- Delete an entity and put its handle back. -/
def erase (self : EntityTable δ) (handle : Nat) : EntityTable δ where
  entities := self.entities.filter fun entity => entity.handle ≠ handle
  handleAllocator := self.handleAllocator.put handle

/-- Remove the links of a module, the last one first.  An entity that no other
link refers to is deleted. -/
def eraseLinks
    (referenced : Nat → Bool) :
    List Nat → EntityTable δ → EntityTable δ
  | [], self => self
  | handle :: remaining, self =>
      eraseLinks referenced remaining
        (if referenced handle || remaining.contains handle then self
        else self.erase handle)

end EntityTable

namespace EntityInsertion

variable {δ : Type}

/-- Refer to the entity of a name if its value passes the check, or create
it.  Returns whether the entity was created. -/
def insertOrCheck
    (inconsistent : δ → Option Reason)
    (name : String)
    (value : δ) : EStateM Failure (EntityInsertion δ) Bool := do
  let self ← get
  match self.table.findName name with
  | some entity =>
      match inconsistent entity.value with
      | some reason => throw (.inconsistentFDD reason)
      | none =>
          set { self with moduleList := self.moduleList ++ [entity.handle] }
          return false
  | none =>
      let handle ← Foundation.FailingState.zoom
        (fun self : EntityInsertion δ => self.table.handleAllocator)
        (fun handleAllocator self =>
          { self with table := { self.table with handleAllocator } })
        HandleAllocator.get
      modify fun self =>
        { table := { self.table with
            entities := self.table.entities ++ [⟨handle, name, value⟩] }
          moduleList := self.moduleList ++ [handle] }
      return true

end EntityInsertion

/-! ## The kinds of entities -/

/-- The value of a dimension is its upper bound. -/
abbrev DimensionTable := EntityTable Nat

def insertOrCheckDimension (stringDimension : FOMStringDimension) :
    EStateM Failure (EntityInsertion Nat) Bool :=
  EntityInsertion.insertOrCheck
    (fun upperBound =>
      if stringDimension.upperBound ≠ upperBound then
        some ["Inconsistent Dimension \"", stringDimension.name,
          "\": Upper bound ", toString stringDimension.upperBound,
          " does not match the already established value of ",
          toString upperBound, "!"]
      else none)
    stringDimension.name stringDimension.upperBound

def insertOrCheckUpdateRate (stringUpdateRate : FOMStringUpdateRate) :
    EStateM Failure (EntityInsertion Rat) Bool :=
  EntityInsertion.insertOrCheck
    (fun rate =>
      if stringUpdateRate.rate ≠ rate then
        some ["Inconsistent UpdateRate \"", stringUpdateRate.name,
          "\": Rate ", .double stringUpdateRate.rate,
          " does not match the already established value of ",
          .double rate, "!"]
      else none)
    stringUpdateRate.name stringUpdateRate.rate

/-- Insertion of a data type: one that is established is not checked. -/
def insertOrCheckDataType {δ : Type} (name : String) (value : δ) :
    EStateM Failure (EntityInsertion δ) Bool :=
  EntityInsertion.insertOrCheck (fun _ => none) name value

structure BasicDataType where
  size : Nat
  endian : Endianness
  deriving DecidableEq

structure SimpleDataType where
  representation : String
  deriving DecidableEq

structure EnumeratedDataType where
  representation : String
  enumerators : List FOMStringEnumerator
  deriving DecidableEq

structure ArrayDataType where
  encoding : ArrayDataTypeEncoding
  dataType : String
  cardinality : String
  deriving DecidableEq

structure FixedRecordDataType where
  fields : List FOMStringFixedRecordField2
  encoding : String
  includes : String
  version : Nat
  deriving DecidableEq

/-- Of a variant record only the name is kept. -/
structure VariantRecordDataType where
  deriving DecidableEq

def insertOrCheckBasicDataType (stringDataType : FOMStringBasicDataType) :
    EStateM Failure (EntityInsertion BasicDataType) Bool :=
  insertOrCheckDataType stringDataType.name
    ⟨stringDataType.size, stringDataType.endian⟩

def insertOrCheckSimpleDataType (stringDataType : FOMStringSimpleDataType) :
    EStateM Failure (EntityInsertion SimpleDataType) Bool :=
  insertOrCheckDataType stringDataType.name ⟨stringDataType.representation⟩

def insertOrCheckEnumeratedDataType
    (stringDataType : FOMStringEnumeratedDataType) :
    EStateM Failure (EntityInsertion EnumeratedDataType) Bool :=
  insertOrCheckDataType stringDataType.name
    ⟨stringDataType.representation, stringDataType.enumerators⟩

def insertOrCheckArrayDataType (stringDataType : FOMStringArrayDataType2) :
    EStateM Failure (EntityInsertion ArrayDataType) Bool :=
  insertOrCheckDataType stringDataType.name
    ⟨stringDataType.encoding, stringDataType.dataType,
      stringDataType.cardinality⟩

def insertOrCheckFixedRecordDataType
    (stringDataType : FOMStringFixedRecordDataType2) :
    EStateM Failure (EntityInsertion FixedRecordDataType) Bool :=
  insertOrCheckDataType stringDataType.name
    ⟨stringDataType.fields, stringDataType.encoding, stringDataType.includes,
      stringDataType.version⟩

def insertOrCheckVariantRecordDataType
    (stringDataType : FOMStringVariantRecordDataType2) :
    EStateM Failure (EntityInsertion VariantRecordDataType) Bool :=
  insertOrCheckDataType stringDataType.name ⟨⟩

end ServerModel
end OpenRTI
