import OpenRTI.Foundation.TransitionSystem
import OpenRTI.ServerModel.AttributeOutline
import OpenRTI.ServerModel.FederationClasses

/-!
# Uniqueness of attribute handles

A new attribute gets the number of attributes on the path to its class as its
handle.  As long as attributes are only added to classes below which nothing
defines attributes, the handles of a class are exactly the numbers below the
number of attributes on its path, each once.  Adding an attribute above a class
that defines attributes gives it a handle that is taken there.
-/

namespace OpenRTI
namespace ServerModel

open Foundation
open Foundation.FailingState

namespace ObjectClass

theorem attributesOnPath_append (inner outer : List ObjectClass) :
    attributesOnPath (inner ++ outer) =
      attributesOnPath inner + attributesOnPath outer := by
  simp [attributesOnPath]

theorem attributesOnPath_eq_zero
    {path : List ObjectClass}
    (nothing : ∀ objectClass ∈ path, objectClass.attributeDefinitions = []) :
    attributesOnPath path = 0 := by
  induction path with
  | nil => rfl
  | cons objectClass path ih =>
      rw [List.forall_mem_cons] at nothing
      rw [attributesOnPath_cons, nothing.1, ih nothing.2]
      rfl

end ObjectClass

namespace ObjectClassTable

/-- The handles of the attributes of each class, inherited ones included, are
the numbers below the number of attributes on its path. -/
def Dense (self : ObjectClassTable) : Prop :=
  ∀ node ∈ self.classes.nodes,
    (node.2.classAttributes.map ClassAttribute.attributeHandle).Perm
      (List.range (ObjectClass.attributesOnPath (node.2 :: node.1)))

/-- No class derived from the class of a handle defines attributes. -/
def NothingBelow
    (objectClassHandle : ObjectClassHandle)
    (self : ObjectClassTable) : Prop :=
  ∀ node ∈ self.classes.nodes,
    objectClassHandle ∈ node.1.map ObjectClass.objectClassHandle →
    node.2.attributeDefinitions = []

/-- What adding an attribute does to the number of attributes on a path. -/
theorem attributesOnPath_add
    (objectClassHandle : ObjectClassHandle)
    (definition : AttributeDefinition) (path : List ObjectClass) :
    ObjectClass.attributesOnPath
        (Forest.mapAncestors
          (ClassTree.adjusted ObjectClass.objectClassHandle
            objectClassHandle
            (ObjectClass.insertAttributeDefinition definition)
            (ObjectClass.insertClassAttributeFor objectClassHandle
              definition))
          path) =
      ObjectClass.attributesOnPath path +
        if objectClassHandle ∈ path.map ObjectClass.objectClassHandle then 1
        else 0 := by
  induction path with
  | nil => rfl
  | cons objectClass path ih =>
      rw [Forest.mapAncestors_cons, ObjectClass.attributesOnPath_cons,
        ObjectClass.attributesOnPath_cons, ih]
      by_cases inside : objectClassHandle ∈
          path.map ObjectClass.objectClassHandle
      · have onPath : objectClassHandle ∈
            (objectClass :: path).map ObjectClass.objectClassHandle :=
          List.mem_cons_of_mem _ inside
        rw [ClassTree.adjusted_derived inside, if_pos inside, if_pos onPath,
          ObjectClass.insertClassAttributeFor_definitions, Nat.add_assoc]
      · rw [if_neg inside]
        by_cases here : objectClass.objectClassHandle = objectClassHandle
        · rw [ClassTree.adjusted_at inside here,
            ObjectClass.insertAttributeDefinition_length, List.map_cons,
            here, if_pos List.mem_cons_self]
          omega
        · have outside : objectClassHandle ∉
              (objectClass :: path).map ObjectClass.objectClassHandle := by
            rw [List.map_cons, List.mem_cons, not_or]
            exact ⟨Ne.symm here, inside⟩
          rw [ClassTree.adjusted_outside outside, if_neg outside]
          rfl

/-- Below a class under which nothing is defined, there are as many attributes
on the path as on the path to the class. -/
theorem NothingBelow.attributesOnPath
    {self : ObjectClassTable} {objectClassHandle : ObjectClassHandle}
    (nothing : self.NothingBelow objectClassHandle) (regular : self.Regular)
    {ancestors : List ObjectClass} {objectClass : ObjectClass}
    (found : self.findHandle objectClassHandle =
      some (ancestors, objectClass))
    {node : List ObjectClass × ObjectClass}
    (member : node ∈ self.classes.nodes)
    (onPath : objectClassHandle ∈
      (node.2 :: node.1).map ObjectClass.objectClassHandle) :
    ObjectClass.attributesOnPath (node.2 :: node.1) =
      ObjectClass.attributesOnPath (objectClass :: ancestors) := by
  obtain ⟨foundMember, foundHere⟩ := regular.findHandle_eq_some.mp found
  rw [List.map_cons, List.mem_cons] at onPath
  obtain here | inside := onPath
  · rw [regular.tree.node_eq_of_handle member foundMember
      (here.symm.trans foundHere.symm)]
  · obtain ⟨ancestor, above, here⟩ := List.mem_map.mp inside
    obtain ⟨derivedAncestors, derived⟩ := node
    obtain ⟨inner, outer, rfl⟩ := List.append_of_mem above
    have unique := regular.tree.node_eq_of_handle
      (Forest.ancestor_mem_nodes member) foundMember
      (here.trans foundHere.symm)
    obtain ⟨rfl, rfl⟩ := Prod.mk.inj unique
    -- The classes between the two define nothing.
    have innerNothing : ObjectClass.attributesOnPath inner = 0 := by
      apply ObjectClass.attributesOnPath_eq_zero
      intro between betweenMember
      obtain ⟨nearer, further, rfl⟩ := List.append_of_mem betweenMember
      rw [List.append_assoc, List.cons_append] at member
      refine nothing _ (Forest.ancestor_mem_nodes member) ?_
      rw [← here]
      exact List.mem_map_of_mem
        (List.mem_append_right _ List.mem_cons_self)
    rw [ObjectClass.attributesOnPath_cons, nothing _ member inside,
      ObjectClass.attributesOnPath_append, innerNothing]
    simp

/-- A class that the attribute is added to, or to a base class of which, has its handle
besides the others. -/
theorem handles_add
    {objectClassHandle : ObjectClassHandle}
    (definition : AttributeDefinition)
    {node : List ObjectClass × ObjectClass}
    (onPath : objectClassHandle ∈
      (node.2 :: node.1).map ObjectClass.objectClassHandle) :
    ((ClassTree.adjusted ObjectClass.objectClassHandle objectClassHandle
        (ObjectClass.insertAttributeDefinition definition)
        (ObjectClass.insertClassAttributeFor objectClassHandle definition)
        node.1 node.2).classAttributes.map ClassAttribute.attributeHandle).Perm
      (definition.attributeHandle ::
        node.2.classAttributes.map ClassAttribute.attributeHandle) := by
  by_cases inside : objectClassHandle ∈
      node.1.map ObjectClass.objectClassHandle
  · rw [ClassTree.adjusted_derived inside]
    exact ObjectClass.insertClassAttributeFor_handles _ _ _
  · rw [List.map_cons, List.mem_cons, or_iff_left inside] at onPath
    rw [ClassTree.adjusted_at inside onPath.symm]
    exact ObjectClass.insertClassAttributeFor_handles _ _ _

/-- Adding an attribute above nothing keeps the handles dense. -/
theorem Dense.add
    {self : ObjectClassTable}
    (dense : self.Dense) (regular : self.Regular)
    {objectClassHandle : ObjectClassHandle}
    (nothing : self.NothingBelow objectClassHandle)
    {ancestors : List ObjectClass} {objectClass : ObjectClass}
    (found : self.findHandle objectClassHandle =
      some (ancestors, objectClass))
    {definition : AttributeDefinition}
    (firstUnused : definition.attributeHandle =
      objectClass.getFirstUnusedAttributeHandle ancestors)
    (room : ObjectClass.attributesOnPath (objectClass :: ancestors) <
      2 ^ 32) :
    (self.insertAttributeDefinition objectClassHandle definition).Dense := by
  rw [ObjectClass.getFirstUnusedAttributeHandle_eq,
    Nat.mod_eq_of_lt room] at firstUnused
  intro changed changedMember
  rw [insertAttributeDefinition, adjust, ClassTree.nodes_adjust]
    at changedMember
  obtain ⟨node, member, rfl⟩ := List.mem_map.mp changedMember
  have before := dense node member
  have path := attributesOnPath_add objectClassHandle definition
    (node.2 :: node.1)
  rw [Forest.mapAncestors_cons] at path
  rw [path]
  by_cases onPath : objectClassHandle ∈
      (node.2 :: node.1).map ObjectClass.objectClassHandle
  · -- The new handle is the one after those of the class.
    have count := nothing.attributesOnPath regular found member onPath
    rw [if_pos onPath, List.range_succ]
    rw [← count] at firstUnused
    have handles := handles_add definition onPath
    rw [firstUnused] at handles
    exact handles.trans ((before.cons _).trans
      (List.perm_append_singleton _ _).symm)
  · rw [if_neg onPath, ClassTree.adjusted_outside onPath]
    exact before

theorem NothingBelow.add
    {self : ObjectClassTable} {objectClassHandle : ObjectClassHandle}
    (nothing : self.NothingBelow objectClassHandle)
    (definition : AttributeDefinition) :
    (self.insertAttributeDefinition objectClassHandle
      definition).NothingBelow objectClassHandle := by
  intro changed changedMember inside
  rw [insertAttributeDefinition, adjust, ClassTree.nodes_adjust]
    at changedMember
  obtain ⟨node, member, rfl⟩ := List.mem_map.mp changedMember
  have kept : ∀ ancestors objectClass,
      (ClassTree.adjusted ObjectClass.objectClassHandle objectClassHandle
        (ObjectClass.insertAttributeDefinition definition)
        (ObjectClass.insertClassAttributeFor objectClassHandle definition)
        ancestors objectClass).objectClassHandle =
      objectClass.objectClassHandle :=
    ClassTree.observe_adjusted (fun _ => rfl) fun _ => rfl
  rw [Forest.map_mapAncestors kept] at inside
  rw [ClassTree.adjusted_derived inside]
  exact nothing node member inside

end ObjectClassTable
end ServerModel
end OpenRTI
