import Mathlib.Algebra.Order.BigOperators.Group.List
import Mathlib.Algebra.Order.Ring.Nat
import OpenRTI.ServerModel.ObjectClass

/-!
# The tree of object classes

What the operations on object classes do to the tree, and the invariant of the
tree: handles and names identify classes, the name of a class extends the name
of its parent by one string, and a class defines no two attributes of one name.
-/

namespace OpenRTI
namespace ServerModel

open Foundation

namespace ObjectClass

/-- The names of the attributes a class defines itself. -/
def attributeNames (self : ObjectClass) : List String :=
  self.attributeDefinitions.map AttributeDefinition.name

/-- The number of attributes defined by a class and its base classes. -/
def attributesOnPath (path : List ObjectClass) : Nat :=
  (path.map fun objectClass => objectClass.attributeDefinitions.length).sum

theorem attributesOnPath_cons
    (objectClass : ObjectClass) (ancestors : List ObjectClass) :
    attributesOnPath (objectClass :: ancestors) =
      objectClass.attributeDefinitions.length + attributesOnPath ancestors :=
  rfl

theorem getFirstUnusedAttributeHandle_eq
    (self : ObjectClass) (ancestors : List ObjectClass) :
    self.getFirstUnusedAttributeHandle ancestors =
      attributesOnPath (self :: ancestors) % 2 ^ 32 := by
  induction ancestors generalizing self with
  | nil => simp [getFirstUnusedAttributeHandle, attributesOnPath,
      getNumAttributeDefinitions]
  | cons parent ancestors ih =>
      rw [getFirstUnusedAttributeHandle, ih,
        attributesOnPath_cons self, getNumAttributeDefinitions, ← Nat.add_mod,
        Nat.add_comm]

theorem getAttributeDefinition_eq_none
    {self : ObjectClass} {name : String} :
    self.getAttributeDefinition name = none ↔ name ∉ self.attributeNames := by
  simp only [getAttributeDefinition, attributeNames, List.find?_eq_none,
    List.mem_map, decide_eq_true_eq]
  grind

variable (definedBy : ObjectClassHandle) (definition : AttributeDefinition)

section

variable (self : ObjectClass)
include self

@[simp] theorem insertClassAttributeFor_handle :
    (self.insertClassAttributeFor definedBy definition).objectClassHandle =
      self.objectClassHandle := rfl

@[simp] theorem insertClassAttributeFor_name :
    (self.insertClassAttributeFor definedBy definition).name = self.name := rfl

@[simp] theorem insertClassAttributeFor_definitions :
    (self.insertClassAttributeFor definedBy definition).attributeDefinitions =
      self.attributeDefinitions := rfl

@[simp] theorem insertAttributeDefinition_handle :
    (self.insertAttributeDefinition definition).objectClassHandle =
      self.objectClassHandle := rfl

@[simp] theorem insertAttributeDefinition_name :
    (self.insertAttributeDefinition definition).name = self.name := rfl

theorem insertAttributeDefinition_attributeNames :
    (self.insertAttributeDefinition definition).attributeNames.Perm
      (definition.name :: self.attributeNames) :=
  (insertGrouped_perm _ _ _).map _

theorem insertAttributeDefinition_length :
    (self.insertAttributeDefinition definition).attributeDefinitions.length =
      self.attributeDefinitions.length + 1 :=
  (insertGrouped_perm _ _ _).length_eq

/-- The class attributes of a class after an attribute was entered at it, or at
a base class. -/
theorem insertClassAttributeFor_handles :
    ((self.insertClassAttributeFor definedBy definition).classAttributes.map
        ClassAttribute.attributeHandle).Perm
      (definition.attributeHandle ::
        self.classAttributes.map ClassAttribute.attributeHandle) :=
  (insertGrouped_perm _ _ _).map _

end

theorem foldl_insertGrouped_perm
    (inherited classAttributes : List ClassAttribute) :
    (inherited.foldl
        (fun classAttributes inherited =>
          insertGrouped ClassAttribute.attributeHandle
            { inherited with publishSubscribe := {} } classAttributes)
        classAttributes).Perm
      (inherited.map (fun classAttribute =>
          { classAttribute with publishSubscribe := {} }) ++
        classAttributes) := by
  induction inherited generalizing classAttributes with
  | nil => exact List.Perm.refl _
  | cons first rest ih =>
      rw [List.foldl_cons, List.map_cons, List.cons_append]
      exact (ih _).trans
        (((insertGrouped_perm _ _ _).append_left _).trans List.perm_middle)

theorem inheritedAttributes_perm (parent : ObjectClass) :
    parent.inheritedAttributes.Perm
      (parent.classAttributes.map fun classAttribute =>
        { classAttribute with publishSubscribe := {} }) := by
  have perm := foldl_insertGrouped_perm parent.classAttributes []
  rwa [List.append_nil] at perm

/-- A new class has the attribute handles of its parent. -/
theorem inheritedAttributes_handles (parent : ObjectClass) :
    (parent.inheritedAttributes.map ClassAttribute.attributeHandle).Perm
      (parent.classAttributes.map ClassAttribute.attributeHandle) := by
  have perm := parent.inheritedAttributes_perm.map
    ClassAttribute.attributeHandle
  rwa [List.map_map] at perm

end ObjectClass

namespace ObjectClassTable

structure Regular (table : ObjectClassTable) : Prop where
  tree : ClassTree.Regular ObjectClass.objectClassHandle ObjectClass.name
    table.classes table.handleAllocator
  definitions : ∀ objectClass ∈ table.classes.values,
    objectClass.attributeNames.Nodup

theorem Regular.initial : Regular {} where
  tree := .initial
  definitions := by simp [Forest.values, Forest.nodes, Forest.nodesBelow]

variable {self : ObjectClassTable}

theorem Regular.findHandle_eq_some
    (regular : self.Regular)
    {objectClassHandle : ObjectClassHandle}
    {node : List ObjectClass × ObjectClass} :
    self.findHandle objectClassHandle = some node ↔
      node ∈ self.classes.nodes ∧
        node.2.objectClassHandle = objectClassHandle :=
  regular.tree.find?_handle_eq_some

theorem Regular.findName_eq_some
    (regular : self.Regular)
    {name : StringVector} {node : List ObjectClass × ObjectClass} :
    self.findName name = some node ↔
      node ∈ self.classes.nodes ∧ node.2.name = name :=
  regular.tree.find?_name_eq_some

theorem findName_eq_none
    {name : StringVector} :
    self.findName name = none ↔
      name ∉ self.classes.values.map ObjectClass.name :=
  ClassTree.find?_name_eq_none

/-- A change that keeps handles and names, and the attribute names distinct,
keeps the tree regular. -/
theorem Regular.adjust
    {self : ObjectClassTable}
    (regular : self.Regular)
    {objectClassHandle : ObjectClassHandle}
    {atClass derived : ObjectClass → ObjectClass}
    (handleAt : ∀ objectClass, (atClass objectClass).objectClassHandle =
      objectClass.objectClassHandle)
    (handleDerived : ∀ objectClass,
      (derived objectClass).objectClassHandle =
        objectClass.objectClassHandle)
    (nameAt : ∀ objectClass, (atClass objectClass).name = objectClass.name)
    (nameDerived : ∀ objectClass,
      (derived objectClass).name = objectClass.name)
    (namesAt : ∀ objectClass ∈ self.classes.values,
      objectClass.objectClassHandle = objectClassHandle →
      (atClass objectClass).attributeNames.Nodup)
    (namesDerived : ∀ objectClass, (derived objectClass).attributeNames =
      objectClass.attributeNames) :
    (self.adjust objectClassHandle atClass derived).Regular where
  tree := regular.tree.adjust handleAt handleDerived nameAt nameDerived
  definitions := by
    intro changed member
    obtain ⟨objectClass, value, same⟩ := ClassTree.mem_values_adjust member
    obtain rfl | rfl | ⟨here, rfl⟩ := same
    · exact regular.definitions _ value
    · rw [namesDerived]
      exact regular.definitions _ value
    · exact namesAt _ value here

end ObjectClassTable
end ServerModel
end OpenRTI
