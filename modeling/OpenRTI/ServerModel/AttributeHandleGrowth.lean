import OpenRTI.ServerModel.AttributeHandles

/-!
# Attribute handles while a class grows

Attributes that are added to a class under which nothing is defined get the next
numbers, up to the number of handles there are.  One that is added above a class that
defines attributes gets a handle that is taken there, and no later attribute makes the
handles of that class distinct again.
-/

namespace OpenRTI
namespace ServerModel

open Foundation

namespace ObjectClass

/-- The handles of the attributes are distinct, and each finds its attribute. -/
structure HandlesIdentify (objectClass : ObjectClass) : Prop where
  distinct : (objectClass.classAttributes.map ClassAttribute.attributeHandle).Nodup
  finds : ∀ classAttribute ∈ objectClass.classAttributes,
    objectClass.getClassAttribute classAttribute.attributeHandle = some classAttribute

theorem handlesIdentify_iff (self : ObjectClass) :
    self.HandlesIdentify ↔
      (self.classAttributes.map ClassAttribute.attributeHandle).Nodup := by
  refine ⟨HandlesIdentify.distinct, ?_⟩
  intro distinct
  refine ⟨distinct, ?_⟩
  intro classAttribute member
  cases found : self.getClassAttribute classAttribute.attributeHandle with
  | none => exact absurd rfl (findGrouped_eq_none.mp found classAttribute member)
  | some other =>
      obtain ⟨otherMember, same⟩ := findGrouped_eq_some found
      rw [List.inj_on_of_nodup_map distinct otherMember member same]

end ObjectClass

namespace ObjectClassTable

/-- In no class two attributes have the same handle. -/
def Distinct (self : ObjectClassTable) : Prop :=
  ∀ node ∈ self.classes.nodes,
    (node.2.classAttributes.map ClassAttribute.attributeHandle).Nodup

theorem Dense.distinct {self : ObjectClassTable} (dense : self.Dense) :
    self.Distinct := by
  intro node member
  exact (dense node member).nodup_iff.mpr List.nodup_range

/-! ## Describing an attribute -/

/-- What the handles of attributes depend on. -/
def numbering (objectClass : ObjectClass) :
    ObjectClassHandle × Nat × List ClassAttribute :=
  (objectClass.objectClassHandle, objectClass.attributeDefinitions.length,
    objectClass.classAttributes)

def numberings (self : ObjectClassTable) :
    List (List (ObjectClassHandle × Nat × List ClassAttribute) ×
      ObjectClassHandle × Nat × List ClassAttribute) :=
  self.classes.nodes.map fun node => (node.1.map numbering, numbering node.2)

section Describe

variable {self other : ObjectClassTable} {objectClassHandle : ObjectClassHandle}

theorem dense_iff_numberings :
    self.Dense ↔
      ∀ entry ∈ self.numberings,
        (entry.2.2.2.map ClassAttribute.attributeHandle).Perm
          (List.range (((entry.2 :: entry.1).map fun item => item.2.1).sum)) := by
  simp only [Dense, numberings, List.forall_mem_map, List.map_map, List.map_cons]
  rfl

theorem distinct_iff_numberings :
    self.Distinct ↔
      ∀ entry ∈ self.numberings,
        (entry.2.2.2.map ClassAttribute.attributeHandle).Nodup := by
  simp only [Distinct, numberings, List.forall_mem_map]
  rfl

theorem nothingBelow_iff_numberings :
    self.NothingBelow objectClassHandle ↔
      ∀ entry ∈ self.numberings,
        objectClassHandle ∈ entry.1.map (·.1) → entry.2.2.1 = 0 := by
  simp only [NothingBelow, numberings, List.forall_mem_map, List.map_map]
  simp only [numbering, List.length_eq_zero_iff]
  rfl

/-- To describe an attribute changes no handle and no number. -/
theorem numberings_describe
    (self : ObjectClassTable) (objectClassHandle : ObjectClassHandle)
    (attributeName : String)
    (change : AttributeDefinition → AttributeDefinition) :
    (self.modifyAttributeDefinition objectClassHandle attributeName
      change).numberings = self.numberings := by
  rw [modifyAttributeDefinition, adjust, numberings, ClassTree.nodes_adjust,
    List.map_map, numberings]
  have kept : ∀ ancestors objectClass,
      numbering (ClassTree.adjusted ObjectClass.objectClassHandle objectClassHandle
        (ObjectClass.modifyAttributeDefinition attributeName change) id
        ancestors objectClass) = numbering objectClass := by
    refine ClassTree.observe_adjusted ?_ fun _ => rfl
    intro objectClass
    rw [numbering, numbering, ObjectClass.modifyAttributeDefinition, List.length_map]
  apply List.map_congr_left
  intro node _
  dsimp only [Function.comp]
  rw [Forest.map_mapAncestors kept, kept]

end Describe

/-! ## Adding an attribute -/

section Add

variable {self : ObjectClassTable} {objectClassHandle : ObjectClassHandle}
variable {definition : AttributeDefinition}
variable {ancestors : List ObjectClass} {objectClass : ObjectClass}

/-- Handles that are distinct after an attribute was added were so before. -/
theorem distinct_of_add
    (distinct :
      (self.insertAttributeDefinition objectClassHandle definition).Distinct) :
    self.Distinct := by
  intro node member
  have changed := distinct _ (by
    rw [insertAttributeDefinition, adjust, ClassTree.nodes_adjust]
    exact List.mem_map_of_mem member)
  dsimp only at changed
  by_cases onPath : objectClassHandle ∈
      (node.2 :: node.1).map ObjectClass.objectClassHandle
  · rw [(handles_add definition onPath).nodup_iff, List.nodup_cons] at changed
    exact changed.2
  · rw [ClassTree.adjusted_outside onPath] at changed
    exact changed

/-- An attribute must not get the handle of one that a class on or below has. -/
theorem not_distinct_add
    {node : List ObjectClass × ObjectClass}
    (member : node ∈ self.classes.nodes)
    (onPath : objectClassHandle ∈
      (node.2 :: node.1).map ObjectClass.objectClassHandle)
    (taken : definition.attributeHandle ∈
      node.2.classAttributes.map ClassAttribute.attributeHandle) :
    ¬ (self.insertAttributeDefinition objectClassHandle definition).Distinct := by
  intro distinct
  have changed := distinct _ (by
    rw [insertAttributeDefinition, adjust, ClassTree.nodes_adjust]
    exact List.mem_map_of_mem member)
  dsimp only at changed
  rw [(handles_add definition onPath).nodup_iff, List.nodup_cons] at changed
  exact changed.1 taken

/-- Above a class that defines attributes the first unused handle is taken. -/
theorem Dense.not_distinct_above
    (dense : self.Dense) (regular : self.Regular)
    (found : self.findHandle objectClassHandle = some (ancestors, objectClass))
    (firstUnused : definition.attributeHandle =
      objectClass.getFirstUnusedAttributeHandle ancestors)
    (below : ¬ self.NothingBelow objectClassHandle) :
    ¬ (self.insertAttributeDefinition objectClassHandle definition).Distinct := by
  rw [NothingBelow] at below
  push Not at below
  obtain ⟨node, member, inside, defines⟩ := below
  have onPath : objectClassHandle ∈
      (node.2 :: node.1).map ObjectClass.objectClassHandle :=
    List.mem_cons_of_mem _ inside
  apply not_distinct_add member onPath
  rw [(dense node member).mem_iff, List.mem_range, firstUnused,
    ObjectClass.getFirstUnusedAttributeHandle_eq]
  refine (Nat.mod_le _ _).trans_lt ?_
  -- The path to the class is part of the path to the one below.
  obtain ⟨foundMember, foundHere⟩ := regular.findHandle_eq_some.mp found
  obtain ⟨derivedAncestors, derived⟩ := node
  obtain ⟨ancestor, above, here⟩ := List.mem_map.mp inside
  dsimp only at above
  obtain ⟨inner, outer, rfl⟩ := List.append_of_mem above
  have unique := regular.tree.node_eq_of_handle
    (Forest.ancestor_mem_nodes member) foundMember (here.trans foundHere.symm)
  obtain ⟨rfl, rfl⟩ := Prod.mk.inj unique
  have positive : 0 < derived.attributeDefinitions.length :=
    List.length_pos_iff.mpr defines
  rw [ObjectClass.attributesOnPath_cons derived, ObjectClass.attributesOnPath_append]
  omega

/-- When all handles are used the next one is taken. -/
theorem Dense.not_distinct_full
    (dense : self.Dense) (regular : self.Regular)
    (found : self.findHandle objectClassHandle = some (ancestors, objectClass))
    (firstUnused : definition.attributeHandle =
      objectClass.getFirstUnusedAttributeHandle ancestors)
    (full : 2 ^ 32 ≤ ObjectClass.attributesOnPath (objectClass :: ancestors)) :
    ¬ (self.insertAttributeDefinition objectClassHandle definition).Distinct := by
  obtain ⟨member, here⟩ := regular.findHandle_eq_some.mp found
  apply not_distinct_add member
  · rw [← here]
    exact List.mem_cons_self
  · rw [(dense _ member).mem_iff, List.mem_range, firstUnused,
      ObjectClass.getFirstUnusedAttributeHandle_eq]
    exact (Nat.mod_lt _ (by decide)).trans_le full

end Add

/-! ## Growth -/

section Growth

variable {start grown : ObjectClassTable} {objectClassHandle : ObjectClassHandle}
variable {names : List String}
variable {ancestors : List ObjectClass} {objectClass : ObjectClass}

theorem Grows.distinct_of_grown
    (grows : Grows objectClassHandle names start grown)
    (distinct : grown.Distinct) :
    start.Distinct := by
  induction grows with
  | refl => exact distinct
  | describe before attributeName describes ih =>
      apply ih
      rw [distinct_iff_numberings, numberings_describe] at distinct
      exact distinct_iff_numberings.mpr distinct
  | add before found firstUnused unknown listed ih =>
      exact ih (distinct_of_add distinct)

/-- All handles are handles. -/
def Bounded (self : ObjectClassTable) : Prop :=
  ∀ node ∈ self.classes.nodes, ∀ classAttribute ∈ node.2.classAttributes,
    classAttribute.attributeHandle < 2 ^ 32

theorem bounded_iff_numberings {self : ObjectClassTable} :
    self.Bounded ↔
      ∀ entry ∈ self.numberings, ∀ classAttribute ∈ entry.2.2.2,
        classAttribute.attributeHandle < 2 ^ 32 := by
  simp only [Bounded, numberings, List.forall_mem_map]
  rfl

/-- No more attributes can be numbered than there are handles. -/
theorem Bounded.attributesOnPath_le
    {self : ObjectClassTable}
    (bounded : self.Bounded) (dense : self.Dense)
    {node : List ObjectClass × ObjectClass}
    (member : node ∈ self.classes.nodes) :
    ObjectClass.attributesOnPath (node.2 :: node.1) ≤ 2 ^ 32 := by
  by_contra more
  have taken : 2 ^ 32 ∈
      node.2.classAttributes.map ClassAttribute.attributeHandle :=
    (dense node member).mem_iff.mpr (List.mem_range.mpr (by omega))
  obtain ⟨classAttribute, inside, same⟩ := List.mem_map.mp taken
  have small := bounded node member classAttribute inside
  rw [same] at small
  exact absurd small (Nat.lt_irrefl _)

section

variable (grows : Grows objectClassHandle names start grown)
include grows

theorem Grows.bounded
    (bounded : start.Bounded) :
    grown.Bounded := by
  induction grows with
  | refl => exact bounded
  | describe before attributeName describes ih =>
      rw [bounded_iff_numberings, numberings_describe, ← bounded_iff_numberings]
      exact ih
  | @add grown before _ _ definition found firstUnused unknown listed
      ih =>
      intro changed changedMember classAttribute inside
      rw [insertAttributeDefinition, adjust, ClassTree.nodes_adjust] at changedMember
      obtain ⟨node, member, rfl⟩ := List.mem_map.mp changedMember
      have small := ih node member
      by_cases onPath : objectClassHandle ∈
          (node.2 :: node.1).map ObjectClass.objectClassHandle
      · have handle := @List.mem_map_of_mem _ _ _ _ ClassAttribute.attributeHandle inside
        rw [(handles_add definition onPath).mem_iff, List.mem_cons] at handle
        obtain here | there := handle
        · rw [here, firstUnused, ObjectClass.getFirstUnusedAttributeHandle_eq]
          exact Nat.mod_lt _ (by decide)
        · obtain ⟨other, otherInside, same⟩ := List.mem_map.mp there
          rw [← same]
          exact small other otherInside
      · rw [ClassTree.adjusted_outside onPath] at inside
        exact small classAttribute inside

theorem Grows.findHandle_name
    (regular : start.Regular)
    (found : start.findHandle objectClassHandle = some (ancestors, objectClass)) :
    ∃ grownClass,
      grown.findHandle objectClassHandle = some (ancestors, grownClass) ∧
      grownClass.name = objectClass.name := by
  induction grows with
  | refl => exact ⟨objectClass, found, rfl⟩
  | describe before attributeName describes ih =>
      obtain ⟨grownClass, grownFound, named⟩ := ih
      exact ⟨_, (before.regular regular).findHandle_describe grownFound _ _, named⟩
  | add before _ _ _ _ ih =>
      obtain ⟨grownClass, grownFound, named⟩ := ih
      exact ⟨_, (before.regular regular).findHandle_add grownFound _, named⟩

/-- A class under which nothing is defined grows up to the number of handles. -/
theorem Grows.dense_or_full
    (regular : start.Regular) (dense : start.Dense)
    (nothing : start.NothingBelow objectClassHandle)
    (room : ObjectClass.attributesOnPath (objectClass :: ancestors) ≤ 2 ^ 32)
    (found : start.findHandle objectClassHandle = some (ancestors, objectClass)) :
    ∃ grownClass,
      grown.findHandle objectClassHandle = some (ancestors, grownClass) ∧
      grown.NothingBelow objectClassHandle ∧
      (ObjectClass.attributesOnPath (grownClass :: ancestors) ≤ 2 ^ 32 ∧
          grown.Dense ∨
        2 ^ 32 < ObjectClass.attributesOnPath (grownClass :: ancestors) ∧
          ¬ grown.Distinct) := by
  induction grows with
  | refl => exact ⟨objectClass, found, nothing, Or.inl ⟨room, dense⟩⟩
  | @describe grown before attributeName change describes ih =>
      obtain ⟨grownClass, grownFound, below, level⟩ := ih
      refine ⟨_, (before.regular regular).findHandle_describe grownFound
        attributeName change, ?_, ?_⟩
      · rw [nothingBelow_iff_numberings, numberings_describe]
        exact nothingBelow_iff_numberings.mp below
      · have length : ObjectClass.attributesOnPath
            (grownClass.modifyAttributeDefinition attributeName change ::
              ancestors) =
            ObjectClass.attributesOnPath (grownClass :: ancestors) := by
          rw [ObjectClass.attributesOnPath_cons, ObjectClass.attributesOnPath_cons,
            ObjectClass.modifyAttributeDefinition, List.length_map]
        rw [length, dense_iff_numberings, distinct_iff_numberings,
          numberings_describe, ← dense_iff_numberings, ← distinct_iff_numberings]
        exact level
  | @add grown before _ _ definition here firstUnused unknown listed
      ih =>
      obtain ⟨grownClass, grownFound, below, level⟩ := ih
      obtain ⟨rfl, rfl⟩ := Prod.mk.inj (Option.some.inj (grownFound.symm.trans here))
      have grownRegular := before.regular regular
      refine ⟨_, grownRegular.findHandle_add grownFound definition, below.add _, ?_⟩
      have length : ObjectClass.attributesOnPath
          (grownClass.insertAttributeDefinition definition :: ancestors) =
          ObjectClass.attributesOnPath (grownClass :: ancestors) + 1 := by
        rw [ObjectClass.attributesOnPath_cons, ObjectClass.attributesOnPath_cons,
          ObjectClass.insertAttributeDefinition_length]
        omega
      rw [length]
      obtain ⟨small, grownDense⟩ | ⟨large, collides⟩ := level
      · by_cases full :
            2 ^ 32 ≤ ObjectClass.attributesOnPath (grownClass :: ancestors)
        · refine Or.inr ⟨by omega, ?_⟩
          exact grownDense.not_distinct_full grownRegular grownFound firstUnused full
        · refine Or.inl ⟨by omega, ?_⟩
          exact grownDense.add grownRegular below grownFound firstUnused (by omega)
      · refine Or.inr ⟨by omega, ?_⟩
        exact fun distinct => collides (distinct_of_add distinct)

/-- A class under which something is defined keeps its handles distinct only without
new attributes. -/
theorem Grows.dense_or_new
    (regular : start.Regular) (dense : start.Dense)
    (below : ¬ start.NothingBelow objectClassHandle)
    (found : start.findHandle objectClassHandle = some (ancestors, objectClass)) :
    ∃ grownClass,
      grown.findHandle objectClassHandle = some (ancestors, grownClass) ∧
      (grownClass.attributeNames ⊆ objectClass.attributeNames ∧
          grown.numberings = start.numberings ∨
        ¬ grownClass.attributeNames ⊆ objectClass.attributeNames ∧
          ¬ grown.Distinct) := by
  induction grows with
  | refl =>
      exact ⟨objectClass, found, Or.inl ⟨List.Subset.refl _, rfl⟩⟩
  | @describe grown before attributeName change describes ih =>
      obtain ⟨grownClass, grownFound, level⟩ := ih
      refine ⟨_, (before.regular regular).findHandle_describe grownFound
        attributeName change, ?_⟩
      rw [modifyAttributeDefinition_attributeNames describes,
        distinct_iff_numberings, numberings_describe, ← distinct_iff_numberings]
      exact level
  | @add grown before _ _ definition here firstUnused unknown listed
      ih =>
      obtain ⟨grownClass, grownFound, level⟩ := ih
      obtain ⟨rfl, rfl⟩ := Prod.mk.inj (Option.some.inj (grownFound.symm.trans here))
      have grownRegular := before.regular regular
      refine ⟨_, grownRegular.findHandle_add grownFound definition, Or.inr ?_⟩
      have perm := ObjectClass.insertAttributeDefinition_attributeNames definition
        grownClass
      rw [perm.subset_congr_left, List.cons_subset]
      obtain ⟨subset, same⟩ | ⟨new, collides⟩ := level
      · obtain ⟨_, keptFound, keeps, _⟩ := before.findHandle regular found
        obtain ⟨_, rfl⟩ :=
          Prod.mk.inj (Option.some.inj (grownFound.symm.trans keptFound))
        have grownDense := dense_iff_numberings.mpr (same ▸ dense_iff_numberings.mp dense)
        have grownBelow : ¬ grown.NothingBelow objectClassHandle := by
          rw [nothingBelow_iff_numberings, same, ← nothingBelow_iff_numberings]
          exact below
        exact ⟨fun both => unknown (keeps both.1),
          grownDense.not_distinct_above grownRegular grownFound firstUnused grownBelow⟩
      · exact ⟨fun both => new both.2,
          fun distinct => collides (distinct_of_add distinct)⟩

end

end Growth

end ObjectClassTable
end ServerModel
end OpenRTI
