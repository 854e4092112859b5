import OpenRTI.ServerModel.InteractionClass

/-!
# The object model of a federation

A federation holds its modules, and what the modules have brought in.  While a
module is inserted it is kept beside the federation, where the source has it in
the federation's map from the start; nothing looks it up there meanwhile.  If
nothing was created, or at an exception, the links the module has got so far
are removed, and what no other module refers to goes with them.
-/

namespace OpenRTI
namespace ServerModel

open Foundation
open Foundation.FailingState (zoom runAny)

abbrev ModuleHandle := Nat

/-- The value of the invalid module handle, of 16 bits. -/
abbrev invalidModuleHandle : Nat := 2 ^ 16 - 1

/-- A module and its links, each list in the order of insertion. -/
structure Module where
  moduleHandle : ModuleHandle
  designator : String := ""
  artificialInteractionRoot : Bool := false
  artificialObjectRoot : Bool := false
  dimensionModuleList : List DimensionHandle := []
  updateRateModuleList : List Nat := []
  interactionClassModuleList : List InteractionClassHandle := []
  parameterDefinitionModuleList : List InteractionClassHandle := []
  objectClassModuleList : List ObjectClassHandle := []
  attributeDefinitionModuleList : List ObjectClassHandle := []
  basicDataTypeModuleList : List Nat := []
  simpleDataTypeModuleList : List Nat := []
  enumeratedDataTypeModuleList : List Nat := []
  arrayDataTypeModuleList : List Nat := []
  fixedRecordDataTypeModuleList : List Nat := []
  variantRecordDataTypeModuleList : List Nat := []
  deriving DecidableEq

structure Federation where
  modules : List Module := []
  moduleHandleAllocator : HandleAllocator invalidModuleHandle := {}
  dimensions : DimensionTable := {}
  updateRates : EntityTable Rat := {}
  interactionClasses : InteractionClassTable := {}
  objectClasses : ObjectClassTable := {}
  basicDataTypes : EntityTable BasicDataType := {}
  simpleDataTypes : EntityTable SimpleDataType := {}
  enumeratedDataTypes : EntityTable EnumeratedDataType := {}
  arrayDataTypes : EntityTable ArrayDataType := {}
  fixedRecordDataTypes : EntityTable FixedRecordDataType := {}
  variantRecordDataTypes : EntityTable VariantRecordDataType := {}

namespace Federation

/-- Whether some module has a link. -/
def references
    (self : Federation)
    (links : Module → List Nat)
    (handle : Nat) : Bool :=
  self.modules.any fun module => (links module).contains handle

end Federation

/-- A federation and the module that is being inserted or erased. -/
structure ModuleInsertion where
  federation : Federation
  module : Module

namespace ModuleInsertion

/-! ## Inserting the entries of a module -/

/-- The entries of one kind of named entities. -/
def insertEntities
    {δ φ : Type}
    (table : Federation → EntityTable δ)
    (replaceTable : EntityTable δ → Federation → Federation)
    (links : Module → List Nat)
    (replaceLinks : List Nat → Module → Module)
    (insertOrCheck : φ → EStateM Failure (EntityInsertion δ) Bool)
    (entries : List φ) : EStateM Failure ModuleInsertion Bool :=
  zoom
    (fun self => ⟨table self.federation, links self.module⟩)
    (fun inserted self =>
      { federation := replaceTable inserted.table self.federation
        module := replaceLinks inserted.moduleList self.module })
    (runAny insertOrCheck entries)

def insertDimensions :
    List FOMStringDimension → EStateM Failure ModuleInsertion Bool :=
  insertEntities Federation.dimensions
    (fun dimensions self => { self with dimensions })
    Module.dimensionModuleList
    (fun dimensionModuleList self => { self with dimensionModuleList })
    insertOrCheckDimension

def insertUpdateRates :
    List FOMStringUpdateRate → EStateM Failure ModuleInsertion Bool :=
  insertEntities Federation.updateRates
    (fun updateRates self => { self with updateRates })
    Module.updateRateModuleList
    (fun updateRateModuleList self => { self with updateRateModuleList })
    insertOrCheckUpdateRate

def insertBasicDataTypes :
    List FOMStringBasicDataType → EStateM Failure ModuleInsertion Bool :=
  insertEntities Federation.basicDataTypes
    (fun basicDataTypes self => { self with basicDataTypes })
    Module.basicDataTypeModuleList
    (fun basicDataTypeModuleList self =>
      { self with basicDataTypeModuleList })
    insertOrCheckBasicDataType

def insertSimpleDataTypes :
    List FOMStringSimpleDataType → EStateM Failure ModuleInsertion Bool :=
  insertEntities Federation.simpleDataTypes
    (fun simpleDataTypes self => { self with simpleDataTypes })
    Module.simpleDataTypeModuleList
    (fun simpleDataTypeModuleList self =>
      { self with simpleDataTypeModuleList })
    insertOrCheckSimpleDataType

def insertEnumeratedDataTypes :
    List FOMStringEnumeratedDataType →
      EStateM Failure ModuleInsertion Bool :=
  insertEntities Federation.enumeratedDataTypes
    (fun enumeratedDataTypes self => { self with enumeratedDataTypes })
    Module.enumeratedDataTypeModuleList
    (fun enumeratedDataTypeModuleList self =>
      { self with enumeratedDataTypeModuleList })
    insertOrCheckEnumeratedDataType

def insertArrayDataTypes :
    List FOMStringArrayDataType2 → EStateM Failure ModuleInsertion Bool :=
  insertEntities Federation.arrayDataTypes
    (fun arrayDataTypes self => { self with arrayDataTypes })
    Module.arrayDataTypeModuleList
    (fun arrayDataTypeModuleList self =>
      { self with arrayDataTypeModuleList })
    insertOrCheckArrayDataType

def insertFixedRecordDataTypes :
    List FOMStringFixedRecordDataType2 →
      EStateM Failure ModuleInsertion Bool :=
  insertEntities Federation.fixedRecordDataTypes
    (fun fixedRecordDataTypes self => { self with fixedRecordDataTypes })
    Module.fixedRecordDataTypeModuleList
    (fun fixedRecordDataTypeModuleList self =>
      { self with fixedRecordDataTypeModuleList })
    insertOrCheckFixedRecordDataType

def insertVariantRecordDataTypes :
    List FOMStringVariantRecordDataType2 →
      EStateM Failure ModuleInsertion Bool :=
  insertEntities Federation.variantRecordDataTypes
    (fun variantRecordDataTypes self =>
      { self with variantRecordDataTypes })
    Module.variantRecordDataTypeModuleList
    (fun variantRecordDataTypeModuleList self =>
      { self with variantRecordDataTypeModuleList })
    insertOrCheckVariantRecordDataType

/-- The interaction classes, and the links of the module to them. -/
def interactionClassInsertion (self : ModuleInsertion) :
    InteractionClassInsertion where
  toInteractionClassTable := self.federation.interactionClasses
  interactionClassModuleList := self.module.interactionClassModuleList
  parameterDefinitionModuleList := self.module.parameterDefinitionModuleList

def withInteractionClassInsertion
    (inserted : InteractionClassInsertion)
    (self : ModuleInsertion) : ModuleInsertion where
  federation :=
    { self.federation with
      interactionClasses := inserted.toInteractionClassTable }
  module :=
    { self.module with
      interactionClassModuleList := inserted.interactionClassModuleList
      parameterDefinitionModuleList :=
        inserted.parameterDefinitionModuleList }

/-- The object classes, and the links of the module to them. -/
def objectClassInsertion (self : ModuleInsertion) :
    ObjectClassInsertion where
  toObjectClassTable := self.federation.objectClasses
  objectClassModuleList := self.module.objectClassModuleList
  attributeDefinitionModuleList := self.module.attributeDefinitionModuleList

def withObjectClassInsertion
    (inserted : ObjectClassInsertion)
    (self : ModuleInsertion) : ModuleInsertion where
  federation :=
    { self.federation with objectClasses := inserted.toObjectClassTable }
  module :=
    { self.module with
      objectClassModuleList := inserted.objectClassModuleList
      attributeDefinitionModuleList :=
        inserted.attributeDefinitionModuleList }

def insertInteractionClasses
    (entries : List FOMStringInteractionClass) :
    EStateM Failure ModuleInsertion Bool := do
  let self ← get
  zoom interactionClassInsertion withInteractionClassInsertion
    (runAny (insertOrCheckInteractionClass self.federation.dimensions)
      entries)

def insertObjectClasses
    (entries : List FOMStringObjectClass) :
    EStateM Failure ModuleInsertion Bool := do
  let self ← get
  zoom objectClassInsertion withObjectClassInsertion
    (runAny (insertOrCheckObjectClass self.federation.dimensions) entries)

/-- Insert the entries of a module, kind by kind.  Returns whether anything was
created. -/
def insertEntries (stringModule : FOMStringModule2) :
    EStateM Failure ModuleInsertion Bool := do
  let dimension ← insertDimensions stringModule.dimensionList
  let updateRate ← insertUpdateRates stringModule.updateRateList
  let interactionClass ←
    insertInteractionClasses stringModule.interactionClassList
  let objectClass ← insertObjectClasses stringModule.objectClassList
  let basic ← insertBasicDataTypes stringModule.basicDataTypeList
  let simple ← insertSimpleDataTypes stringModule.simpleDataTypeList
  let enumerated ←
    insertEnumeratedDataTypes stringModule.enumeratedDataTypeList
  let array ← insertArrayDataTypes stringModule.arrayDataTypeList
  let fixedRecord ←
    insertFixedRecordDataTypes stringModule.fixedRecordDataTypeList
  let variantRecord ←
    insertVariantRecordDataTypes stringModule.variantRecordDataTypeList
  return dimension || updateRate || interactionClass || objectClass ||
    basic || simple || enumerated || array || fixedRecord || variantRecord

/-! ## Erasing a module -/

/-- The interaction classes without the links of the module. -/
def erasedInteractionClasses (self : ModuleInsertion) :
    Except Failure InteractionClassTable :=
  let parameterLinks :=
    self.federation.references Module.parameterDefinitionModuleList
  let classLinks :=
    self.federation.references Module.interactionClassModuleList
  InteractionClassTable.eraseInteractionClassLinks
    (fun handle => classLinks handle || parameterLinks handle)
    self.module.interactionClassModuleList.reverse
    (InteractionClassTable.eraseParameterLinks parameterLinks
      self.module.parameterDefinitionModuleList.reverse
      self.federation.interactionClasses)

/-- The object classes without the links of the module. -/
def erasedObjectClasses (self : ModuleInsertion) :
    Except Failure ObjectClassTable :=
  let attributeLinks :=
    self.federation.references Module.attributeDefinitionModuleList
  let classLinks := self.federation.references Module.objectClassModuleList
  ObjectClassTable.eraseObjectClassLinks
    (fun handle => classLinks handle || attributeLinks handle)
    self.module.objectClassModuleList.reverse
    (ObjectClassTable.eraseAttributeLinks attributeLinks
      self.module.attributeDefinitionModuleList.reverse
      self.federation.objectClasses)

/-- The entities of one kind without the links of the module. -/
def erasedEntities
    {δ : Type}
    (links : Module → List Nat)
    (table : EntityTable δ)
    (self : ModuleInsertion) : EntityTable δ :=
  table.eraseLinks (self.federation.references links)
    (links self.module).reverse

/-- The federation without the module. -/
def erase (self : ModuleInsertion) : Except Failure Federation := do
  let interactionClasses ← self.erasedInteractionClasses
  let objectClasses ← self.erasedObjectClasses
  return {
    modules := self.federation.modules
    moduleHandleAllocator :=
      self.federation.moduleHandleAllocator.put self.module.moduleHandle
    dimensions := self.erasedEntities Module.dimensionModuleList
      self.federation.dimensions
    updateRates := self.erasedEntities Module.updateRateModuleList
      self.federation.updateRates
    interactionClasses := interactionClasses
    objectClasses := objectClasses
    basicDataTypes := self.erasedEntities Module.basicDataTypeModuleList
      self.federation.basicDataTypes
    simpleDataTypes := self.erasedEntities Module.simpleDataTypeModuleList
      self.federation.simpleDataTypes
    enumeratedDataTypes :=
      self.erasedEntities Module.enumeratedDataTypeModuleList
        self.federation.enumeratedDataTypes
    arrayDataTypes := self.erasedEntities Module.arrayDataTypeModuleList
      self.federation.arrayDataTypes
    fixedRecordDataTypes :=
      self.erasedEntities Module.fixedRecordDataTypeModuleList
        self.federation.fixedRecordDataTypes
    variantRecordDataTypes :=
      self.erasedEntities Module.variantRecordDataTypeModuleList
        self.federation.variantRecordDataTypes }

end ModuleInsertion

namespace Federation

/-- Erase a module that was inserted. -/
def erase (moduleHandle : ModuleHandle) (self : Federation) :
    Except Failure Federation :=
  match self.modules.find? fun module =>
      module.moduleHandle = moduleHandle with
  | none => .error .undefined
  | some module =>
      ModuleInsertion.erase
        { federation :=
            { self with
              modules := self.modules.filter fun other =>
                other.moduleHandle ≠ moduleHandle }
          module := module }

/-- The federation and the new module at the start of its insertion. -/
def startInsertion
    (stringModule : FOMStringModule2)
    (moduleHandle : ModuleHandle)
    (self : Federation) : ModuleInsertion where
  federation := self
  module :=
    { moduleHandle := moduleHandle
      designator := stringModule.designator
      artificialInteractionRoot := stringModule.artificialInteractionRoot
      artificialObjectRoot := stringModule.artificialObjectRoot }

/-- Insert a module.  Returns its handle if anything was created. -/
def insert (stringModule : FOMStringModule2) :
    EStateM Failure Federation (Option ModuleHandle) := do
  let moduleHandle ← zoom
    Federation.moduleHandleAllocator
    (fun moduleHandleAllocator self => { self with moduleHandleAllocator })
    HandleAllocator.get
  let self ← get
  match ModuleInsertion.insertEntries stringModule
      (self.startInsertion stringModule moduleHandle) with
  | .ok true inserted =>
      set { inserted.federation with
        modules := inserted.federation.modules ++ [inserted.module] }
      return some moduleHandle
  | .ok false inserted =>
      match inserted.erase with
      | .ok erased => do
          set erased
          return none
      | .error failure => throw failure
  | .error .undefined _ => throw .undefined
  | .error failure inserted =>
      match inserted.erase with
      | .ok erased => do
          set erased
          throw failure
      | .error other => throw other

/-- Erase modules one after the other. -/
def eraseAll : List ModuleHandle → Federation → Except Failure Federation
  | [], self => .ok self
  | moduleHandle :: rest, self =>
      (self.erase moduleHandle).bind (eraseAll rest)

/-- Insert the modules of a list, returning the handles of those that created
something.  At an exception the modules inserted before are erased. -/
def insertModules (moduleHandles : List ModuleHandle) :
    List FOMStringModule2 →
      EStateM Failure Federation (List ModuleHandle)
  | [] => pure moduleHandles
  | stringModule :: rest => fun self =>
      match insert stringModule self with
      | .ok moduleHandle inserted =>
          insertModules (moduleHandles ++ moduleHandle.toList) rest inserted
      | .error .undefined inserted => .error .undefined inserted
      | .error failure inserted =>
          match eraseAll moduleHandles inserted with
          | .ok erased => .error failure erased
          | .error other => .error other inserted

end Federation
end ServerModel
end OpenRTI
