import OpenRTI.Foundation.GroupedList
import OpenRTI.ServerModel.ClassTree
import OpenRTI.ServerModel.ModuleEntity
import OpenRTI.ServerModel.PublishSubscribe

/-!
# Object classes

The object classes of a federation form a forest.  A class holds the attributes
it defines, and a class attribute for each attribute it defines or inherits,
with the publications and subscriptions of that attribute at that class.

A module is inserted class by class: a class that is established is checked and
may get further attributes, one that is not is created below its parent.  Where
the handles run out after the parent has been told of the new class, that class
is left out here; it is in none of the federation's maps.
-/

namespace OpenRTI
namespace ServerModel

open Foundation
open Foundation.FailingState (check zoom runAny)

abbrev DimensionHandle := Nat

abbrev ObjectClassHandle := Nat

abbrev AttributeHandle := Nat

structure AttributeDefinition where
  attributeHandle : AttributeHandle
  name : String
  dataType : String
  orderType : OrderType := .receive
  transportationType : TransportationType := .reliable
  dimensionHandleSet : Finset DimensionHandle := ∅
  deriving DecidableEq

/-- An attribute of a class, which the class itself or a base class defines. -/
structure ClassAttribute where
  attributeHandle : AttributeHandle
  definedBy : ObjectClassHandle
  name : String
  publishSubscribe : PublishSubscribe := {}
  deriving DecidableEq

structure ObjectClass where
  objectClassHandle : ObjectClassHandle
  name : StringVector
  attributeDefinitions : List AttributeDefinition := []
  classAttributes : List ClassAttribute := []
  deriving DecidableEq

namespace ObjectClass

def getAttributeDefinition (self : ObjectClass) (name : String) :
    Option AttributeDefinition :=
  self.attributeDefinitions.find? fun definition => definition.name = name

def getClassAttribute (self : ObjectClass) (attributeHandle : AttributeHandle) :
    Option ClassAttribute :=
  findGrouped ClassAttribute.attributeHandle attributeHandle
    self.classAttributes

def getNumAttributeDefinitions (self : ObjectClass) : Nat :=
  self.attributeDefinitions.length % 2 ^ 32

/-- The number of attributes defined by the class and its base classes, the
nearest first. -/
def getFirstUnusedAttributeHandle
    (self : ObjectClass) : List ObjectClass → AttributeHandle
  | [] => self.getNumAttributeDefinitions
  | parent :: ancestors =>
      (parent.getFirstUnusedAttributeHandle ancestors +
        self.getNumAttributeDefinitions) % 2 ^ 32

/-- The class attribute at one class for an attribute of this or of a base
class. -/
def insertClassAttributeFor
    (definedBy : ObjectClassHandle)
    (definition : AttributeDefinition)
    (self : ObjectClass) : ObjectClass :=
  { self with
    classAttributes :=
      insertGrouped ClassAttribute.attributeHandle
        { attributeHandle := definition.attributeHandle
          definedBy := definedBy
          name := definition.name }
        self.classAttributes }

def insertAttributeDefinition
    (definition : AttributeDefinition)
    (self : ObjectClass) : ObjectClass :=
  insertClassAttributeFor self.objectClassHandle definition
    { self with
      attributeDefinitions :=
        insertGrouped AttributeDefinition.attributeHandle definition
          self.attributeDefinitions }

/-- The attributes of a new class: those of its parent, which nobody publishes
or subscribes to at the new class. -/
def inheritedAttributes (parent : ObjectClass) : List ClassAttribute :=
  parent.classAttributes.foldl
    (fun classAttributes inherited =>
      insertGrouped ClassAttribute.attributeHandle
        { inherited with publishSubscribe := {} } classAttributes)
    []

/-- A new class below a parent. -/
def create
    (name : StringVector)
    (objectClassHandle : ObjectClassHandle)
    (parent : Option ObjectClass) : ObjectClass where
  objectClassHandle := objectClassHandle
  name := name
  classAttributes := (parent.map inheritedAttributes).getD []

def modifyAttributeDefinition
    (attributeName : String)
    (change : AttributeDefinition → AttributeDefinition)
    (self : ObjectClass) : ObjectClass :=
  { self with
    attributeDefinitions := self.attributeDefinitions.map fun definition =>
      if definition.name = attributeName then change definition
      else definition }

/-- Forget the class attributes for the definitions of a class. -/
def eraseClassAttributesOf
    (definedBy : ObjectClassHandle)
    (self : ObjectClass) : ObjectClass :=
  { self with
    classAttributes := self.classAttributes.filter fun classAttribute =>
      classAttribute.definedBy ≠ definedBy }

end ObjectClass

/-- The object classes of a federation. -/
structure ObjectClassTable where
  classes : Forest ObjectClass := .nil
  handleAllocator : HandleAllocator invalidHandle := {}
  deriving DecidableEq

namespace ObjectClassTable

/-- The class of a handle, with its base classes. -/
def findHandle
    (self : ObjectClassTable)
    (objectClassHandle : ObjectClassHandle) :
    Option (List ObjectClass × ObjectClass) :=
  self.classes.find? fun objectClass =>
    objectClass.objectClassHandle = objectClassHandle

/-- The class of a name, with its base classes. -/
def findName (self : ObjectClassTable) (name : StringVector) :
    Option (List ObjectClass × ObjectClass) :=
  self.classes.find? fun objectClass => objectClass.name = name

/-- Change a class, and the classes derived from it in another way. -/
def adjust
    (objectClassHandle : ObjectClassHandle)
    (atClass derived : ObjectClass → ObjectClass)
    (self : ObjectClassTable) : ObjectClassTable :=
  { self with
    classes := ClassTree.adjust ObjectClass.objectClassHandle
      objectClassHandle atClass derived self.classes }

/-- Enter an attribute in a class and all classes derived from it. -/
def insertAttributeDefinition
    (objectClassHandle : ObjectClassHandle)
    (definition : AttributeDefinition) :
    ObjectClassTable → ObjectClassTable :=
  adjust objectClassHandle
    (ObjectClass.insertAttributeDefinition definition)
    (ObjectClass.insertClassAttributeFor objectClassHandle definition)

def modifyAttributeDefinition
    (objectClassHandle : ObjectClassHandle)
    (attributeName : String)
    (change : AttributeDefinition → AttributeDefinition) :
    ObjectClassTable → ObjectClassTable :=
  adjust objectClassHandle
    (ObjectClass.modifyAttributeDefinition attributeName change) id

/-- Enter a class below its parent, or as a root. -/
def insertObjectClass
    (parent : Option ObjectClass)
    (name : StringVector)
    (objectClassHandle : ObjectClassHandle)
    (self : ObjectClassTable) : ObjectClassTable :=
  { self with
    classes := ClassTree.insertClass ObjectClass.objectClassHandle parent
      (ObjectClass.create name objectClassHandle) self.classes }

/-! ### Removing the links of a module -/

/-- Delete the attributes a class defines, everywhere. -/
def eraseAttributeDefinitions
    (objectClassHandle : ObjectClassHandle) :
    ObjectClassTable → ObjectClassTable :=
  adjust objectClassHandle
    (fun objectClass =>
      { objectClass.eraseClassAttributesOf objectClassHandle with
        attributeDefinitions := [] })
    (ObjectClass.eraseClassAttributesOf objectClassHandle)

/-- Delete a class and put its handle back.  Classes derived from it would be
left with a dangling parent. -/
def eraseObjectClass
    (objectClassHandle : ObjectClassHandle)
    (self : ObjectClassTable) : Except Failure ObjectClassTable :=
  if self.classes.nodes.any fun node =>
      node.1.head?.any fun parent =>
        parent.objectClassHandle = objectClassHandle then
    .error .undefined
  else
    .ok
      { classes := self.classes.remove fun objectClass =>
          objectClass.objectClassHandle = objectClassHandle
        handleAllocator := self.handleAllocator.put objectClassHandle }

/-- Remove the links of a module to the attributes of classes, the last one
first. -/
def eraseAttributeLinks
    (referenced : ObjectClassHandle → Bool) :
    List ObjectClassHandle → ObjectClassTable → ObjectClassTable
  | [], self => self
  | objectClassHandle :: remaining, self =>
      eraseAttributeLinks referenced remaining
        (if referenced objectClassHandle ||
            remaining.contains objectClassHandle then self
        else self.eraseAttributeDefinitions objectClassHandle)

/-- Remove the links of a module to classes, the last one first. -/
def eraseObjectClassLinks
    (referenced : ObjectClassHandle → Bool) :
    List ObjectClassHandle → ObjectClassTable →
      Except Failure ObjectClassTable
  | [], self => .ok self
  | objectClassHandle :: remaining, self =>
      if referenced objectClassHandle ||
          remaining.contains objectClassHandle then
        eraseObjectClassLinks referenced remaining self
      else
        (self.eraseObjectClass objectClassHandle).bind
          (eraseObjectClassLinks referenced remaining)

end ObjectClassTable

/-- The object classes while a module is inserted, and the links of that module
to classes and to the attributes of classes. -/
structure ObjectClassInsertion extends ObjectClassTable where
  objectClassModuleList : List ObjectClassHandle
  attributeDefinitionModuleList : List ObjectClassHandle

namespace ObjectClassInsertion

/-- The insertion with other classes. -/
def withTable
    (self : ObjectClassInsertion)
    (table : ObjectClassTable) : ObjectClassInsertion :=
  { self with toObjectClassTable := table }

@[simp] theorem withTable_table
    (self : ObjectClassInsertion) (table : ObjectClassTable) :
    (self.withTable table).toObjectClassTable = table := rfl

@[simp] theorem withTable_withTable
    (self : ObjectClassInsertion) (table other : ObjectClassTable) :
    (self.withTable table).withTable other = self.withTable other := rfl

/-- Change the classes. -/
def modifyTable
    (change : ObjectClassTable → ObjectClassTable) :
    EStateM Failure ObjectClassInsertion Unit :=
  modify fun self => self.withTable (change self.toObjectClassTable)

/-- The module linked to a class, and to its attributes if it lists some. -/
def linked
    (objectClassHandle : ObjectClassHandle)
    (attributeList : List FOMStringAttribute)
    (self : ObjectClassInsertion) : ObjectClassInsertion :=
  { self with
    objectClassModuleList :=
      self.objectClassModuleList ++ [objectClassHandle]
    attributeDefinitionModuleList :=
      if attributeList.isEmpty then self.attributeDefinitionModuleList
      else self.attributeDefinitionModuleList ++ [objectClassHandle] }

@[simp] theorem linked_table
    (objectClassHandle : ObjectClassHandle)
    (attributeList : List FOMStringAttribute)
    (self : ObjectClassInsertion) :
    (self.linked objectClassHandle attributeList).toObjectClassTable =
      self.toObjectClassTable := rfl

/-- Link the module to a class, and to its attributes if it lists some. -/
def linkObjectClass
    (objectClassHandle : ObjectClassHandle)
    (attributeList : List FOMStringAttribute) :
    EStateM Failure ObjectClassInsertion Unit :=
  modify (linked objectClassHandle attributeList)

end ObjectClassInsertion

def resolveDimension
    (dimensions : DimensionTable)
    (dimensionName : String) : Except Failure DimensionHandle :=
  match dimensions.findName dimensionName with
  | none =>
      .error (.inconsistentFDD
        ["Cannot resolve dimension \"" ++ dimensionName ++ "\"!"])
  | some dimension => .ok dimension.handle

/-- The handles of all dimensions of a set. -/
def resolveDimensions
    (dimensions : DimensionTable) :
    List String → Except Failure (Finset DimensionHandle)
  | [] => .ok ∅
  | dimensionName :: rest => do
      let handle ← resolveDimension dimensions dimensionName
      let handles ← resolveDimensions dimensions rest
      return insert handle handles

/-- Check an attribute of a module against the established one. -/
def checkAttribute
    (dimensions : DimensionTable)
    (className : StringVector)
    (stringAttribute : FOMStringAttribute)
    (definition : AttributeDefinition) : Except Failure Unit := do
  let orderType ← resolveOrderType stringAttribute.orderType
  if definition.orderType ≠ orderType then
    throw (.inconsistentFDD
      ["Inconsistent ObjectClass  \"", className.print, "\": Attribute \"",
        stringAttribute.name, "\": OrderType ", stringAttribute.orderType,
        " does not match the already established value of ",
        definition.orderType.print, "!"])
  let transportationType ←
    resolveTransportationType stringAttribute.transportationType
  if definition.transportationType ≠ transportationType then
    throw (.inconsistentFDD
      ["Inconsistent ObjectClass  \"", className.print, "\": Attribute \"",
        stringAttribute.name, "\": TransportationType ",
        stringAttribute.transportationType,
        " does not match the already established value of ",
        definition.transportationType.print, "!"])
  let dimensionHandleSet ←
    resolveDimensions dimensions stringAttribute.dimensionSet
  if definition.dimensionHandleSet ≠ dimensionHandleSet then
    throw (.inconsistentFDD
      ["Inconsistent ObjectClass  \"", className.print, "\": Attribute \"",
        stringAttribute.name,
        "\": Dimensions do not match the already established value!"])

/-- Add the dimensions of an attribute one by one, up to one that cannot be
resolved. -/
def insertDimensions
    (dimensions : DimensionTable)
    (objectClassHandle : ObjectClassHandle)
    (attributeName : String) :
    List String → EStateM Failure ObjectClassInsertion Unit
  | [] => pure ()
  | dimensionName :: rest => do
      let handle ← check (resolveDimension dimensions dimensionName)
      ObjectClassInsertion.modifyTable
        (ObjectClassTable.modifyAttributeDefinition objectClassHandle
          attributeName fun definition =>
            { definition with
              dimensionHandleSet :=
                insert handle definition.dimensionHandleSet })
      insertDimensions dimensions objectClassHandle attributeName rest

/-- Enter an attribute, and then its order, transportation and dimensions.  The
attribute stays where one of these cannot be resolved. -/
def addAttribute
    (dimensions : DimensionTable)
    (objectClassHandle : ObjectClassHandle)
    (attributeHandle : AttributeHandle)
    (stringAttribute : FOMStringAttribute) :
    EStateM Failure ObjectClassInsertion Unit := do
  ObjectClassInsertion.modifyTable
    (ObjectClassTable.insertAttributeDefinition objectClassHandle
      { attributeHandle := attributeHandle
        name := stringAttribute.name
        dataType := stringAttribute.dataType })
  let orderType ← check (resolveOrderType stringAttribute.orderType)
  ObjectClassInsertion.modifyTable
    (ObjectClassTable.modifyAttributeDefinition objectClassHandle
      stringAttribute.name fun definition => { definition with orderType })
  let transportationType ←
    check (resolveTransportationType stringAttribute.transportationType)
  ObjectClassInsertion.modifyTable
    (ObjectClassTable.modifyAttributeDefinition objectClassHandle
      stringAttribute.name fun definition =>
        { definition with transportationType })
  insertDimensions dimensions objectClassHandle stringAttribute.name
    stringAttribute.dimensionSet

/-- Check an attribute of an established class, or add it.  Returns its handle
and whether it was added. -/
def insertOrCheckAttribute
    (dimensions : DimensionTable)
    (objectClassHandle : ObjectClassHandle)
    (className : StringVector)
    (stringAttribute : FOMStringAttribute) :
    EStateM Failure ObjectClassInsertion (AttributeHandle × Bool) := do
  let self ← get
  match self.findHandle objectClassHandle with
  | none => throw .undefined
  | some (ancestors, objectClass) =>
      match objectClass.getAttributeDefinition stringAttribute.name with
      | none =>
          let attributeHandle :=
            objectClass.getFirstUnusedAttributeHandle ancestors
          addAttribute dimensions objectClassHandle attributeHandle
            stringAttribute
          return (attributeHandle, true)
      | some definition =>
          check (checkAttribute dimensions className stringAttribute
            definition)
          return (definition.attributeHandle, false)

/-- The handles of the attributes listed for an established class, and whether
one of them was added. -/
def insertOrCheckAttributes
    (dimensions : DimensionTable)
    (objectClassHandle : ObjectClassHandle)
    (className : StringVector) :
    List FOMStringAttribute →
      EStateM Failure ObjectClassInsertion (List AttributeHandle × Bool)
  | [] => pure ([], false)
  | stringAttribute :: rest => do
      let (attributeHandle, here) ←
        insertOrCheckAttribute dimensions objectClassHandle className
          stringAttribute
      let (attributeHandles, later) ←
        insertOrCheckAttributes dimensions objectClassHandle className rest
      return (attributeHandle :: attributeHandles, here || later)

/-- Check the entry of a module for an established class. -/
def insertOrCheckEstablishedObjectClass
    (dimensions : DimensionTable)
    (objectClassHandle : ObjectClassHandle)
    (stringObjectClass : FOMStringObjectClass) :
    EStateM Failure ObjectClassInsertion Bool := do
  let (attributeHandles, created) ←
    insertOrCheckAttributes dimensions objectClassHandle
      stringObjectClass.name stringObjectClass.attributeList
  if ¬ attributeHandles.Nodup then
    throw (.inconsistentFDD
      ["Inconsistent ObjectClass \"", stringObjectClass.name.print,
        "\": Attributes do not match the already established value!"])
  ObjectClassInsertion.linkObjectClass objectClassHandle
    stringObjectClass.attributeList
  return created

/-- Enter the attributes of a new class under consecutive handles. -/
def addAttributes
    (dimensions : DimensionTable)
    (objectClassHandle : ObjectClassHandle)
    (className : StringVector) :
    AttributeHandle → List FOMStringAttribute →
      EStateM Failure ObjectClassInsertion Unit
  | _, [] => pure ()
  | nextAttributeHandle, stringAttribute :: rest => do
      let self ← get
      let duplicate := (self.findHandle objectClassHandle).any fun node =>
        (node.2.getAttributeDefinition stringAttribute.name).isSome
      if duplicate then
        throw (.inconsistentFDD
          ["Duplicate attribute name \"", stringAttribute.name,
            "\" in ObjectClass \"", className.print, "\"!"])
      addAttribute dimensions objectClassHandle nextAttributeHandle
        stringAttribute
      addAttributes dimensions objectClassHandle className
        ((nextAttributeHandle + 1) % 2 ^ 32) rest

/-- Create the class of an entry of a module. -/
def createObjectClass
    (dimensions : DimensionTable)
    (stringObjectClass : FOMStringObjectClass) :
    EStateM Failure ObjectClassInsertion Unit := do
  let self ← get
  -- The parent's name is looked up after removing the last string, of a
  -- vector that must not be empty.
  if stringObjectClass.name = [] then throw .undefined
  let parent := self.findName stringObjectClass.name.dropLast
  if parent = none ∧ 1 < stringObjectClass.name.length then
    throw (.messageError ["Cannot resolve parent object class name!"])
  let objectClassHandle ← zoom
    (fun self : ObjectClassInsertion => self.handleAllocator)
    (fun handleAllocator self =>
      self.withTable { self.toObjectClassTable with handleAllocator })
    HandleAllocator.get
  ObjectClassInsertion.modifyTable
    (ObjectClassTable.insertObjectClass (parent.map (·.2))
      stringObjectClass.name objectClassHandle)
  ObjectClassInsertion.linkObjectClass objectClassHandle
    stringObjectClass.attributeList
  let self ← get
  match self.findHandle objectClassHandle with
  | none => throw .undefined
  | some (ancestors, objectClass) =>
      addAttributes dimensions objectClassHandle stringObjectClass.name
        (objectClass.getFirstUnusedAttributeHandle ancestors)
        stringObjectClass.attributeList

/-- Insert the entry of a module for one object class.  Returns whether
anything was created. -/
def insertOrCheckObjectClass
    (dimensions : DimensionTable)
    (stringObjectClass : FOMStringObjectClass) :
    EStateM Failure ObjectClassInsertion Bool := do
  let self ← get
  match self.findName stringObjectClass.name with
  | some (_, objectClass) =>
      insertOrCheckEstablishedObjectClass dimensions
        objectClass.objectClassHandle stringObjectClass
  | none =>
      createObjectClass dimensions stringObjectClass
      return true

end ServerModel
end OpenRTI
