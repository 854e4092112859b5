import OpenRTI.ServerModel.ObjectClassGrowth

/-!
# The outline of the object classes

The outline of a tree of object classes lists the classes by name with the names
of the attributes they define.  What a successful entry of a module does to the
outline depends on the entry and the outline alone.
-/

namespace OpenRTI
namespace ServerModel

open Foundation
open Foundation.FailingState

/-- The names of the attributes an entry lists. -/
def FOMStringObjectClass.attributeNames
    (stringObjectClass : FOMStringObjectClass) : Finset String :=
  (stringObjectClass.attributeList.map FOMStringAttribute.name).toFinset

/-- Class names, each with the names of the attributes the class defines. -/
abbrev AttributeOutline := List (StringVector × Finset String)

namespace AttributeOutline

/-- Add the attributes of an entry to the class of its name. -/
def extend
    (stringObjectClass : FOMStringObjectClass)
    (item : StringVector × Finset String) : StringVector × Finset String :=
  if item.1 = stringObjectClass.name then
    (item.1, item.2 ∪ stringObjectClass.attributeNames)
  else item

/-- The outline after an entry. -/
def enter
    (outline : AttributeOutline)
    (stringObjectClass : FOMStringObjectClass) : AttributeOutline :=
  (if stringObjectClass.name ∈ outline.map (·.1) then outline
    else outline ++ [(stringObjectClass.name, ∅)]).map
      (extend stringObjectClass)

/-- The number of attributes of the classes on the path to a class. -/
def attributesOnPath
    (outline : AttributeOutline)
    (name : StringVector) : Nat :=
  ((outline.filter fun item => item.1 <+: name).map fun item =>
    item.2.card).sum

variable {other : AttributeOutline}

theorem attributesOnPath_perm
    {outline : AttributeOutline}
    (perm : outline.Perm other) (name : StringVector) :
    outline.attributesOnPath name = other.attributesOnPath name :=
  ((perm.filter _).map _).sum_nat

theorem enter_perm
    {outline : AttributeOutline}
    (perm : outline.Perm other) (stringObjectClass : FOMStringObjectClass) :
    (outline.enter stringObjectClass).Perm
      (other.enter stringObjectClass) := by
  have known : stringObjectClass.name ∈ outline.map (·.1) ↔
      stringObjectClass.name ∈ other.map (·.1) := (perm.map _).mem_iff
  unfold enter
  by_cases established : stringObjectClass.name ∈ outline.map (·.1)
  · rw [if_pos established, if_pos (known.mp established)]
    exact perm.map _
  · rw [if_neg established, if_neg (mt known.mpr established)]
    exact (perm.append_right _).map _

end AttributeOutline

namespace ObjectClass

/-- A class in an outline. -/
def outline (self : ObjectClass) : StringVector × Finset String :=
  (self.name, self.attributeNames.toFinset)

end ObjectClass

namespace ObjectClassTable

def attributeOutline (self : ObjectClassTable) : AttributeOutline :=
  self.classes.values.map ObjectClass.outline

variable {self : ObjectClassTable} {objectClass : ObjectClass}

theorem Regular.card_attributeNames
    (regular : self.Regular)
    (member : objectClass ∈ self.classes.values) :
    objectClass.attributeNames.toFinset.card =
      objectClass.attributeDefinitions.length := by
  rw [List.toFinset_card_of_nodup (regular.definitions _ member),
    ObjectClass.attributeNames, List.length_map]

/-- The outline counts the attributes on the path to a class. -/
theorem Regular.attributesOnPath
    (regular : self.Regular)
    {ancestors : List ObjectClass}
    (member : (ancestors, objectClass) ∈ self.classes.nodes) :
    self.attributeOutline.attributesOnPath objectClass.name =
      ObjectClass.attributesOnPath (objectClass :: ancestors) := by
  have path := regular.tree.filter_prefix member
  rw [AttributeOutline.attributesOnPath, attributeOutline, List.filter_map,
    List.map_map, ObjectClass.attributesOnPath]
  refine ((path.map _).sum_nat).trans (congrArg List.sum ?_)
  apply List.map_congr_left
  intro other onPath
  exact regular.card_attributeNames
    ((regular.tree.mem_path member).mpr onPath).1

variable {objectClassHandle : ObjectClassHandle} {names : List String}
variable {start grown : ObjectClassTable}

/-- While a class grows, only its own item of the outline changes. -/
theorem Grows.outline
    (grows : Grows objectClassHandle names start grown)
    (regular : start.Regular) :
    ∃ added : Finset String,
      grown.classes.values.map (fun objectClass =>
          (objectClass.objectClassHandle, objectClass.outline)) =
        start.classes.values.map fun objectClass =>
          (objectClass.objectClassHandle, objectClass.name,
            if objectClass.objectClassHandle = objectClassHandle then
              objectClass.attributeNames.toFinset ∪ added
            else objectClass.attributeNames.toFinset) := by
  induction grows with
  | refl =>
      refine ⟨∅, ?_⟩
      simp [ObjectClass.outline]
  | describe before attributeName describes ih =>
      obtain ⟨added, same⟩ := ih
      refine ⟨added, ?_⟩
      rw [← same]
      apply ClassTree.values_adjust_map
      · intro objectClass
        rw [ObjectClass.outline,
          modifyAttributeDefinition_attributeNames describes]
        rfl
      · exact fun _ => rfl
  | @add grown before _ _ definition _ _ _ _ ih =>
      obtain ⟨added, same⟩ := ih
      refine ⟨insert definition.name added, ?_⟩
      have step : (grown.insertAttributeDefinition objectClassHandle
          definition).classes.values.map (fun objectClass =>
            (objectClass.objectClassHandle, objectClass.outline)) =
        (grown.classes.values.map fun objectClass =>
          (objectClass.objectClassHandle, objectClass.outline)).map
            fun item =>
              if item.1 = objectClassHandle then
                (item.1, item.2.1, insert definition.name item.2.2)
              else item := by
        have grownRegular := before.regular regular
        rw [insertAttributeDefinition, adjust, Forest.values, Forest.values,
          ClassTree.nodes_adjust, List.map_map, List.map_map, List.map_map,
          List.map_map]
        apply List.map_congr_left
        rintro ⟨ancestors, objectClass⟩ member
        have outside := grownRegular.tree.handle_notMem_ancestors member
        simp only [Function.comp]
        by_cases here : objectClass.objectClassHandle = objectClassHandle
        · rw [here] at outside
          rw [ClassTree.adjusted_at outside here, if_pos here]
          simp only [ObjectClass.outline,
            ObjectClass.insertAttributeDefinition_handle,
            ObjectClass.insertAttributeDefinition_name, Prod.mk.injEq,
            true_and]
          rw [List.toFinset_eq_of_perm _ _
            (ObjectClass.insertAttributeDefinition_attributeNames
              definition objectClass), List.toFinset_cons]
        · rw [if_neg here]
          by_cases inside : objectClassHandle ∈
              ancestors.map ObjectClass.objectClassHandle
          · rw [ClassTree.adjusted_derived inside]
            rfl
          · rw [ClassTree.adjusted_outside]
            rw [List.map_cons, List.mem_cons, not_or]
            exact ⟨Ne.symm here, inside⟩
      rw [step, same, List.map_map]
      apply List.map_congr_left
      intro objectClass _
      simp only [Function.comp]
      split <;> simp [*]

/-- If all listed attributes are there in the end, they are what the class
defines besides its former attributes. -/
theorem Grows.outline_covered
    (grows : Grows objectClassHandle names start grown)
    (regular : start.Regular)
    {node : List ObjectClass × ObjectClass}
    (found : start.findHandle objectClassHandle = some node)
    (covered : names ⊆ grown.attributeNamesOf objectClassHandle) :
    grown.attributeOutline =
      start.attributeOutline.map fun item =>
        if item.1 = node.2.name then (item.1, item.2 ∪ names.toFinset)
        else item := by
  obtain ⟨ancestors, objectClass⟩ := node
  obtain ⟨startMember, startHere⟩ := regular.findHandle_eq_some.mp found
  obtain ⟨grownClass, grownFound, keeps, bounded⟩ :=
    grows.findHandle regular found
  obtain ⟨added, same⟩ := grows.outline regular
  rw [attributeNamesOf_of_findHandle grownFound] at covered
  -- The class defines its former attributes and those listed.
  have defined : objectClass.attributeNames.toFinset ∪ added =
      objectClass.attributeNames.toFinset ∪ names.toFinset := by
    obtain ⟨grownMember, grownHere⟩ :=
      (grows.regular regular).findHandle_eq_some.mp grownFound
    have item : (grownClass.objectClassHandle, grownClass.outline) ∈
        grown.classes.values.map fun objectClass =>
          (objectClass.objectClassHandle, objectClass.outline) :=
      List.mem_map_of_mem (ClassTree.mem_values_of_mem_nodes grownMember)
    rw [same] at item
    obtain ⟨other, otherMember, equal⟩ := List.mem_map.mp item
    obtain ⟨otherAncestors, otherNode⟩ := Forest.mem_values.mp otherMember
    simp only [ObjectClass.outline, Prod.mk.injEq] at equal
    obtain ⟨otherHere, _, otherNames⟩ := equal
    have unique := regular.tree.node_eq_of_handle otherNode startMember
      (otherHere.trans (grownHere.trans startHere.symm))
    obtain rfl : other = objectClass := (Prod.mk.inj unique).2
    rw [if_pos startHere] at otherNames
    rw [otherNames]
    ext attributeName
    simp only [List.mem_toFinset, Finset.mem_union]
    constructor
    · intro member
      exact List.mem_append.mp (bounded member)
    · rintro (member | member)
      · exact keeps member
      · exact covered member
  have names' := congrArg (List.map Prod.snd) same
  rw [List.map_map, List.map_map] at names'
  rw [attributeOutline, attributeOutline, List.map_map]
  refine names'.trans (List.map_congr_left ?_)
  intro other otherMember
  obtain ⟨otherAncestors, otherNode⟩ := Forest.mem_values.mp otherMember
  simp only [Function.comp, ObjectClass.outline]
  by_cases here : other.objectClassHandle = objectClassHandle
  · have unique := regular.tree.node_eq_of_handle otherNode startMember
      (here.trans startHere.symm)
    obtain rfl : other = objectClass := (Prod.mk.inj unique).2
    rw [if_pos here, defined]
    exact (if_pos rfl).symm
  · have elsewhere : other.name ≠ objectClass.name := by
      intro sameName
      have unique :=
        regular.tree.node_eq_of_name otherNode startMember sameName
      obtain rfl : other = objectClass := (Prod.mk.inj unique).2
      exact here startHere
    rw [if_neg here]
    exact (if_neg elsewhere).symm

/-- What a successful entry does to the outline. -/
theorem Entered.outline
    {before after : ObjectClassInsertion}
    {stringObjectClass : FOMStringObjectClass} {created : Bool}
    (entered : Entered before stringObjectClass created after)
    (regular : before.Regular) :
    after.attributeOutline.Perm
      (before.attributeOutline.enter stringObjectClass) := by
  have names : before.attributeOutline.map (·.1) =
      before.classes.values.map ObjectClass.name := by
    rw [attributeOutline, List.map_map]
    rfl
  cases entered with
  | established found grows covered _ =>
      obtain ⟨member, named⟩ := regular.findName_eq_some.mp found
      have established : stringObjectClass.name ∈
          before.attributeOutline.map (·.1) := by
        rw [names, ← named]
        exact List.mem_map_of_mem (ClassTree.mem_values_of_mem_nodes member)
      have grownOutline := grows.outline_covered regular
        (regular.findHandle_eq_some.mpr ⟨member, rfl⟩) covered
      rw [AttributeOutline.enter, if_pos established]
      refine List.Perm.of_eq (grownOutline.trans ?_)
      rw [named]
      rfl
  | @new objectClassHandle handleAllocator _ unknown nonempty parent got
      grows covered =>
      have fresh : stringObjectClass.name ∉
          before.attributeOutline.map (·.1) := by
        rw [names]
        exact findName_eq_none.mp unknown
      have createdRegular :=
        regular.withObjectClass unknown nonempty parent got
      have nodes := regular.nodes_withObjectClass handleAllocator
        stringObjectClass.name objectClassHandle
      have found : (before.withObjectClass handleAllocator
          stringObjectClass.name objectClassHandle).findHandle
            objectClassHandle = some _ :=
        createdRegular.findHandle_eq_some.mpr
          ⟨nodes.mem_iff.mpr (List.mem_append_right _
            (List.mem_singleton_self _)), rfl⟩
      have grownOutline :=
        grows.outline_covered createdRegular found covered
      have createdOutline : (before.withObjectClass handleAllocator
          stringObjectClass.name objectClassHandle).attributeOutline.Perm
            (before.attributeOutline ++ [(stringObjectClass.name, ∅)]) := by
        have values := (nodes.map (·.2)).map ObjectClass.outline
        rw [List.map_append, List.map_append] at values
        exact values
      rw [AttributeOutline.enter, if_neg fresh]
      exact (List.Perm.of_eq grownOutline).trans (createdOutline.map _)

end ObjectClassTable
end ServerModel
end OpenRTI
