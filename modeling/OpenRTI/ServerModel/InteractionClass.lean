import OpenRTI.ServerModel.ObjectClass

/-!
# Interaction classes

The interaction classes of a federation form a forest.  Other than for object
classes, the order, the transportation and the dimensions belong to the class,
which is also published and subscribed to as a whole.  Parameters take their
handles from one allocator for all classes.
-/

namespace OpenRTI
namespace ServerModel

open Foundation
open Foundation.FailingState (check zoom)

abbrev InteractionClassHandle := Nat

abbrev ParameterHandle := Nat

structure ParameterDefinition where
  parameterHandle : ParameterHandle
  name : String
  dataType : String
  deriving DecidableEq

/-- A parameter of a class, which the class itself or a base class defines. -/
structure ClassParameter where
  parameterHandle : ParameterHandle
  definedBy : InteractionClassHandle
  name : String
  deriving DecidableEq

structure InteractionClass where
  interactionClassHandle : InteractionClassHandle
  name : StringVector
  orderType : OrderType := .receive
  transportationType : TransportationType := .reliable
  dimensionHandleSet : Finset DimensionHandle := ∅
  parameterDefinitions : List ParameterDefinition := []
  classParameters : List ClassParameter := []
  publishSubscribe : PublishSubscribe := {}
  deriving DecidableEq

namespace InteractionClass

def getParameterDefinition (self : InteractionClass) (name : String) :
    Option ParameterDefinition :=
  self.parameterDefinitions.find? fun definition => definition.name = name

def insertClassParameterFor
    (definedBy : InteractionClassHandle)
    (definition : ParameterDefinition)
    (self : InteractionClass) : InteractionClass :=
  { self with
    classParameters :=
      insertGrouped ClassParameter.parameterHandle
        { parameterHandle := definition.parameterHandle
          definedBy := definedBy
          name := definition.name }
        self.classParameters }

def insertParameterDefinition
    (definition : ParameterDefinition)
    (self : InteractionClass) : InteractionClass :=
  insertClassParameterFor self.interactionClassHandle definition
    { self with
      parameterDefinitions :=
        insertGrouped ParameterDefinition.parameterHandle definition
          self.parameterDefinitions }

/-- The parameters of a new class: those of its parent. -/
def inheritedParameters (parent : InteractionClass) : List ClassParameter :=
  parent.classParameters.foldl
    (fun classParameters inherited =>
      insertGrouped ClassParameter.parameterHandle inherited classParameters)
    []

/-- A new class below a parent. -/
def create
    (name : StringVector)
    (interactionClassHandle : InteractionClassHandle)
    (parent : Option InteractionClass) : InteractionClass where
  interactionClassHandle := interactionClassHandle
  name := name
  classParameters := (parent.map inheritedParameters).getD []

/-- Forget the class parameters for the definitions of a class. -/
def eraseClassParametersOf
    (definedBy : InteractionClassHandle)
    (self : InteractionClass) : InteractionClass :=
  { self with
    classParameters := self.classParameters.filter fun classParameter =>
      classParameter.definedBy ≠ definedBy }

end InteractionClass

/-- The interaction classes of a federation. -/
structure InteractionClassTable where
  classes : Forest InteractionClass := .nil
  handleAllocator : HandleAllocator invalidHandle := {}
  parameterHandleAllocator : HandleAllocator invalidHandle := {}
  deriving DecidableEq

namespace InteractionClassTable

/-- The class of a handle, with its base classes. -/
def findHandle
    (self : InteractionClassTable)
    (interactionClassHandle : InteractionClassHandle) :
    Option (List InteractionClass × InteractionClass) :=
  self.classes.find? fun interactionClass =>
    interactionClass.interactionClassHandle = interactionClassHandle

/-- The class of a name, with its base classes. -/
def findName (self : InteractionClassTable) (name : StringVector) :
    Option (List InteractionClass × InteractionClass) :=
  self.classes.find? fun interactionClass => interactionClass.name = name

/-- Change a class, and the classes derived from it in another way. -/
def adjust
    (interactionClassHandle : InteractionClassHandle)
    (atClass derived : InteractionClass → InteractionClass)
    (self : InteractionClassTable) : InteractionClassTable :=
  { self with
    classes := ClassTree.adjust InteractionClass.interactionClassHandle
      interactionClassHandle atClass derived self.classes }

/-- Enter a parameter in a class and all classes derived from it. -/
def insertParameterDefinition
    (interactionClassHandle : InteractionClassHandle)
    (definition : ParameterDefinition) :
    InteractionClassTable → InteractionClassTable :=
  adjust interactionClassHandle
    (InteractionClass.insertParameterDefinition definition)
    (InteractionClass.insertClassParameterFor interactionClassHandle
      definition)

/-- Enter a class below its parent, or as a root. -/
def insertInteractionClass
    (parent : Option InteractionClass)
    (name : StringVector)
    (interactionClassHandle : InteractionClassHandle)
    (self : InteractionClassTable) : InteractionClassTable :=
  { self with
    classes :=
      ClassTree.insertClass InteractionClass.interactionClassHandle parent
        (InteractionClass.create name interactionClassHandle)
        self.classes }

/-! ### Removing the links of a module -/

/-- Delete the parameters a class defines, everywhere.  Their handles are not
put back. -/
def eraseParameterDefinitions
    (interactionClassHandle : InteractionClassHandle) :
    InteractionClassTable → InteractionClassTable :=
  adjust interactionClassHandle
    (fun interactionClass =>
      { interactionClass.eraseClassParametersOf interactionClassHandle with
        parameterDefinitions := [] })
    (InteractionClass.eraseClassParametersOf interactionClassHandle)

/-- Delete a class and put its handle back.  Classes derived from it would be
left with a dangling parent. -/
def eraseInteractionClass
    (interactionClassHandle : InteractionClassHandle)
    (self : InteractionClassTable) : Except Failure InteractionClassTable :=
  if self.classes.nodes.any fun node =>
      node.1.head?.any fun parent =>
        parent.interactionClassHandle = interactionClassHandle then
    .error .undefined
  else
    .ok
      { self with
        classes := self.classes.remove fun interactionClass =>
          interactionClass.interactionClassHandle = interactionClassHandle
        handleAllocator := self.handleAllocator.put interactionClassHandle }

/-- Remove the links of a module to the parameters of classes, the last one
first. -/
def eraseParameterLinks
    (referenced : InteractionClassHandle → Bool) :
    List InteractionClassHandle → InteractionClassTable →
      InteractionClassTable
  | [], self => self
  | interactionClassHandle :: remaining, self =>
      eraseParameterLinks referenced remaining
        (if referenced interactionClassHandle ||
            remaining.contains interactionClassHandle then self
        else self.eraseParameterDefinitions interactionClassHandle)

/-- Remove the links of a module to classes, the last one first. -/
def eraseInteractionClassLinks
    (referenced : InteractionClassHandle → Bool) :
    List InteractionClassHandle → InteractionClassTable →
      Except Failure InteractionClassTable
  | [], self => .ok self
  | interactionClassHandle :: remaining, self =>
      if referenced interactionClassHandle ||
          remaining.contains interactionClassHandle then
        eraseInteractionClassLinks referenced remaining self
      else
        (self.eraseInteractionClass interactionClassHandle).bind
          (eraseInteractionClassLinks referenced remaining)

end InteractionClassTable

/-- The interaction classes while a module is inserted, and the links of that
module to classes and to the parameters of classes. -/
structure InteractionClassInsertion extends InteractionClassTable where
  interactionClassModuleList : List InteractionClassHandle
  parameterDefinitionModuleList : List InteractionClassHandle

namespace InteractionClassInsertion

/-- The insertion with other classes. -/
def withTable
    (self : InteractionClassInsertion)
    (table : InteractionClassTable) : InteractionClassInsertion :=
  { self with toInteractionClassTable := table }

@[simp] theorem withTable_withTable
    (self : InteractionClassInsertion)
    (table other : InteractionClassTable) :
    (self.withTable table).withTable other = self.withTable other := rfl

/-- Change the classes. -/
def modifyTable
    (change : InteractionClassTable → InteractionClassTable) :
    EStateM Failure InteractionClassInsertion Unit :=
  modify fun self => self.withTable (change self.toInteractionClassTable)

/-- Change one class. -/
def modifyClass
    (interactionClassHandle : InteractionClassHandle)
    (change : InteractionClass → InteractionClass) :
    EStateM Failure InteractionClassInsertion Unit :=
  modifyTable
    (InteractionClassTable.adjust interactionClassHandle change id)

/-- The module linked to a class. -/
def linkedClass
    (interactionClassHandle : InteractionClassHandle)
    (self : InteractionClassInsertion) : InteractionClassInsertion :=
  { self with
    interactionClassModuleList :=
      self.interactionClassModuleList ++ [interactionClassHandle] }

/-- The module linked to the parameters of a class if it lists some. -/
def linkedParameters
    (interactionClassHandle : InteractionClassHandle)
    (parameterList : List FOMStringParameter)
    (self : InteractionClassInsertion) : InteractionClassInsertion :=
  { self with
    parameterDefinitionModuleList :=
      if parameterList.isEmpty then self.parameterDefinitionModuleList
      else self.parameterDefinitionModuleList ++ [interactionClassHandle] }

end InteractionClassInsertion

/-- Check the properties of an established class. -/
def checkInteractionClass
    (dimensions : DimensionTable)
    (stringInteractionClass : FOMStringInteractionClass)
    (interactionClass : InteractionClass) : Except Failure Unit := do
  let orderType ← resolveOrderType stringInteractionClass.orderType
  if interactionClass.orderType ≠ orderType then
    throw (.inconsistentFDD
      ["Inconsistent InteractionClass \"", stringInteractionClass.name.print,
        "\": OrderType ", stringInteractionClass.orderType,
        " does not match the already established value of ",
        interactionClass.orderType.print, "!"])
  let transportationType ←
    resolveTransportationType stringInteractionClass.transportationType
  if interactionClass.transportationType ≠ transportationType then
    throw (.inconsistentFDD
      ["Inconsistent InteractionClass \"", stringInteractionClass.name.print,
        "\": TransportationType ", stringInteractionClass.transportationType,
        " does not match the already established value of ",
        interactionClass.transportationType.print, "!"])
  let dimensionHandleSet ←
    resolveDimensions dimensions stringInteractionClass.dimensionSet
  if interactionClass.dimensionHandleSet ≠ dimensionHandleSet then
    throw (.inconsistentFDD
      ["Inconsistent InteractionClass \"", stringInteractionClass.name.print,
        "\": Dimensions do not match the already established value!"])

/-- Enter a parameter under the next handle of the allocator. -/
def addParameter
    (interactionClassHandle : InteractionClassHandle)
    (stringParameter : FOMStringParameter) :
    EStateM Failure InteractionClassInsertion ParameterHandle := do
  let parameterHandle ← zoom
    (fun self : InteractionClassInsertion => self.parameterHandleAllocator)
    (fun parameterHandleAllocator self =>
      self.withTable
        { self.toInteractionClassTable with parameterHandleAllocator })
    HandleAllocator.get
  InteractionClassInsertion.modifyTable
    (InteractionClassTable.insertParameterDefinition interactionClassHandle
      { parameterHandle := parameterHandle
        name := stringParameter.name
        dataType := stringParameter.dataType })
  return parameterHandle

/-- The definition a class has under a name. -/
def findParameterDefinition
    (interactionClassHandle : InteractionClassHandle)
    (name : String)
    (self : InteractionClassInsertion) : Option ParameterDefinition :=
  (self.findHandle interactionClassHandle).bind fun node =>
    node.2.getParameterDefinition name

/-- The handles of the parameters listed for an established class, and whether
one of them was added. -/
def insertOrCheckParameters
    (interactionClassHandle : InteractionClassHandle) :
    List FOMStringParameter →
      EStateM Failure InteractionClassInsertion
        (List ParameterHandle × Bool)
  | [] => pure ([], false)
  | stringParameter :: rest => do
      let self ← get
      match findParameterDefinition interactionClassHandle
          stringParameter.name self with
      | none =>
          let parameterHandle ←
            addParameter interactionClassHandle stringParameter
          let (parameterHandles, _) ←
            insertOrCheckParameters interactionClassHandle rest
          return (parameterHandle :: parameterHandles, true)
      | some definition =>
          let (parameterHandles, created) ←
            insertOrCheckParameters interactionClassHandle rest
          return (definition.parameterHandle :: parameterHandles, created)

/-- Check the entry of a module for an established class. -/
def insertOrCheckEstablishedInteractionClass
    (dimensions : DimensionTable)
    (interactionClass : InteractionClass)
    (stringInteractionClass : FOMStringInteractionClass) :
    EStateM Failure InteractionClassInsertion Bool := do
  check (checkInteractionClass dimensions stringInteractionClass
    interactionClass)
  let (parameterHandles, created) ←
    insertOrCheckParameters interactionClass.interactionClassHandle
      stringInteractionClass.parameterList
  if ¬ parameterHandles.Nodup then
    throw (.inconsistentFDD
      ["Inconsistent InteractionClass \"", stringInteractionClass.name.print,
        "\": Parameters do not match the already established value!"])
  modify (InteractionClassInsertion.linkedClass
    interactionClass.interactionClassHandle)
  modify (InteractionClassInsertion.linkedParameters
    interactionClass.interactionClassHandle
    stringInteractionClass.parameterList)
  return created

/-- Add the dimensions of a class one by one, up to one that cannot be
resolved. -/
def insertInteractionClassDimensions
    (dimensions : DimensionTable)
    (interactionClassHandle : InteractionClassHandle) :
    List String → EStateM Failure InteractionClassInsertion Unit
  | [] => pure ()
  | dimensionName :: rest => do
      let handle ← check (resolveDimension dimensions dimensionName)
      InteractionClassInsertion.modifyClass interactionClassHandle
        fun interactionClass =>
          { interactionClass with
            dimensionHandleSet :=
              insert handle interactionClass.dimensionHandleSet }
      insertInteractionClassDimensions dimensions interactionClassHandle rest

/-- Enter the parameters of a new class. -/
def addParameters
    (interactionClassHandle : InteractionClassHandle)
    (className : StringVector) :
    List FOMStringParameter →
      EStateM Failure InteractionClassInsertion Unit
  | [] => pure ()
  | stringParameter :: rest => do
      let self ← get
      if (findParameterDefinition interactionClassHandle
          stringParameter.name self).isSome then
        throw (.inconsistentFDD
          ["Duplicate parameter name \"", stringParameter.name,
            "\" in InteractionClass \"", className.print, "\"!"])
      let _ ← addParameter interactionClassHandle stringParameter
      addParameters interactionClassHandle className rest

/-- Create the class of an entry of a module. -/
def createInteractionClass
    (dimensions : DimensionTable)
    (stringInteractionClass : FOMStringInteractionClass) :
    EStateM Failure InteractionClassInsertion Unit := do
  let self ← get
  -- The parent's name is looked up after removing the last string, of a
  -- vector that must not be empty.
  if stringInteractionClass.name = [] then throw .undefined
  let parent := self.findName stringInteractionClass.name.dropLast
  if parent = none ∧ 1 < stringInteractionClass.name.length then
    throw (.messageError
      ["Cannot resolve parent interaction class name!"])
  let interactionClassHandle ← zoom
    (fun self : InteractionClassInsertion => self.handleAllocator)
    (fun handleAllocator self =>
      self.withTable { self.toInteractionClassTable with handleAllocator })
    HandleAllocator.get
  InteractionClassInsertion.modifyTable
    (InteractionClassTable.insertInteractionClass (parent.map (·.2))
      stringInteractionClass.name interactionClassHandle)
  modify (InteractionClassInsertion.linkedClass interactionClassHandle)
  let orderType ← check (resolveOrderType stringInteractionClass.orderType)
  InteractionClassInsertion.modifyClass interactionClassHandle
    fun interactionClass => { interactionClass with orderType }
  let transportationType ← check
    (resolveTransportationType stringInteractionClass.transportationType)
  InteractionClassInsertion.modifyClass interactionClassHandle
    fun interactionClass => { interactionClass with transportationType }
  insertInteractionClassDimensions dimensions interactionClassHandle
    stringInteractionClass.dimensionSet
  modify (InteractionClassInsertion.linkedParameters interactionClassHandle
    stringInteractionClass.parameterList)
  addParameters interactionClassHandle stringInteractionClass.name
    stringInteractionClass.parameterList

/-- Insert the entry of a module for one interaction class.  Returns whether
anything was created. -/
def insertOrCheckInteractionClass
    (dimensions : DimensionTable)
    (stringInteractionClass : FOMStringInteractionClass) :
    EStateM Failure InteractionClassInsertion Bool := do
  let self ← get
  match self.findName stringInteractionClass.name with
  | some (_, interactionClass) =>
      insertOrCheckEstablishedInteractionClass dimensions interactionClass
        stringInteractionClass
  | none =>
      createInteractionClass dimensions stringInteractionClass
      return true

end ServerModel
end OpenRTI
