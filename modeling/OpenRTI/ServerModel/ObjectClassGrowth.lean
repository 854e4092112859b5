import OpenRTI.ServerModel.ObjectClassTree

/-!
# How an entry of a module changes the object classes

A successful entry of a module changes the tree of object classes only in this
way: it may create the class, then adds attributes to the class one after the
other, each under the first unused handle, and describes them.
-/

namespace OpenRTI
namespace ServerModel

open Foundation
open Foundation.FailingState

namespace ObjectClassTable

/-- A change of an attribute that keeps its handle and name. -/
def Describes (change : AttributeDefinition → AttributeDefinition) : Prop :=
  ∀ definition, (change definition).attributeHandle =
      definition.attributeHandle ∧
    (change definition).name = definition.name

/-- The tree after attributes of the given names have been added to a class and
described. -/
inductive Grows
    (objectClassHandle : ObjectClassHandle)
    (names : List String)
    (start : ObjectClassTable) : ObjectClassTable → Prop
  | refl : Grows objectClassHandle names start start
  | describe
      {grown : ObjectClassTable}
      (before : Grows objectClassHandle names start grown)
      (attributeName : String)
      {change : AttributeDefinition → AttributeDefinition}
      (describes : Describes change) :
      Grows objectClassHandle names start
        (grown.modifyAttributeDefinition objectClassHandle attributeName
          change)
  | add
      {grown : ObjectClassTable}
      (before : Grows objectClassHandle names start grown)
      {ancestors : List ObjectClass}
      {objectClass : ObjectClass}
      {definition : AttributeDefinition}
      (found : grown.findHandle objectClassHandle =
        some (ancestors, objectClass))
      (firstUnused : definition.attributeHandle =
        objectClass.getFirstUnusedAttributeHandle ancestors)
      (unknown : definition.name ∉ objectClass.attributeNames)
      (listed : definition.name ∈ names) :
      Grows objectClassHandle names start
        (grown.insertAttributeDefinition objectClassHandle definition)

variable {objectClassHandle : ObjectClassHandle} {names : List String}

theorem Grows.trans
    {first second third : ObjectClassTable}
    (left : Grows objectClassHandle names first second)
    (right : Grows objectClassHandle names second third) :
    Grows objectClassHandle names first third := by
  induction right with
  | refl => exact left
  | describe _ attributeName describes ih =>
      exact .describe ih attributeName describes
  | add _ found firstUnused unknown listed ih =>
      exact .add ih found firstUnused unknown listed

variable {start grown : ObjectClassTable}

theorem Grows.weaken
    {more : List String}
    (subset : names ⊆ more)
    (grows : Grows objectClassHandle names start grown) :
    Grows objectClassHandle more start grown := by
  induction grows with
  | refl => exact .refl
  | describe _ attributeName describes ih =>
      exact .describe ih attributeName describes
  | add _ found firstUnused unknown listed ih =>
      exact .add ih found firstUnused unknown
        (subset listed)

variable {attributeName : String}

theorem modifyAttributeDefinition_attributeNames
    {change : AttributeDefinition → AttributeDefinition}
    (describes : Describes change) (objectClass : ObjectClass) :
    (objectClass.modifyAttributeDefinition attributeName
        change).attributeNames = objectClass.attributeNames := by
  simp only [ObjectClass.attributeNames,
    ObjectClass.modifyAttributeDefinition, List.map_map]
  apply List.map_congr_left
  intro definition _
  simp only [Function.comp]
  split
  · exact (describes definition).2
  · rfl

theorem Regular.describe
    {self : ObjectClassTable}
    (regular : self.Regular) (objectClassHandle : ObjectClassHandle)
    (attributeName : String)
    {change : AttributeDefinition → AttributeDefinition}
    (describes : Describes change) :
    (self.modifyAttributeDefinition objectClassHandle attributeName
      change).Regular := by
  refine regular.adjust (fun _ => rfl) (fun _ => rfl) (fun _ => rfl)
    (fun _ => rfl) ?_ (fun _ => rfl)
  intro objectClass member _
  rw [modifyAttributeDefinition_attributeNames describes]
  exact regular.definitions objectClass member

theorem Regular.add
    {self : ObjectClassTable}
    (regular : self.Regular)
    {objectClassHandle : ObjectClassHandle} {ancestors : List ObjectClass}
    {objectClass : ObjectClass} {definition : AttributeDefinition}
    (found : self.findHandle objectClassHandle =
      some (ancestors, objectClass))
    (unknown : definition.name ∉ objectClass.attributeNames) :
    (self.insertAttributeDefinition objectClassHandle
      definition).Regular := by
  refine regular.adjust (fun _ => rfl) (fun _ => rfl) (fun _ => rfl)
    (fun _ => rfl) ?_ (fun _ => rfl)
  intro other member here
  obtain ⟨otherAncestors, node⟩ := Forest.mem_values.mp member
  obtain ⟨foundNode, foundHere⟩ := regular.findHandle_eq_some.mp found
  have same := regular.tree.node_eq_of_handle node foundNode
    (by rw [here, foundHere])
  rw [Prod.mk.injEq] at same
  rw [same.2, (ObjectClass.insertAttributeDefinition_attributeNames
    _ _).nodup_iff, List.nodup_cons]
  exact ⟨unknown, same.2 ▸ regular.definitions other member⟩

theorem Grows.regular
    (grows : Grows objectClassHandle names start grown)
    (regular : start.Regular) :
    grown.Regular := by
  induction grows with
  | refl => exact regular
  | describe _ attributeName describes ih =>
      exact ih.describe _ attributeName describes
  | add _ found _ unknown _ ih =>
      exact ih.add found unknown

/-! ## What a class defines while it grows -/

/-- The names of the attributes that the class of a handle defines. -/
def attributeNamesOf
    (self : ObjectClassTable)
    (objectClassHandle : ObjectClassHandle) : List String :=
  ((self.findHandle objectClassHandle).map
    fun node => node.2.attributeNames).getD []

variable {objectClass : ObjectClass} {self : ObjectClassTable}
variable {ancestors : List ObjectClass}

/-- The class that gets an attribute, after it was entered. -/
theorem Regular.findHandle_add
    (regular : self.Regular)
    (found : self.findHandle objectClassHandle =
      some (ancestors, objectClass))
    (definition : AttributeDefinition) :
    (self.insertAttributeDefinition objectClassHandle definition).findHandle
        objectClassHandle =
      some (ancestors, objectClass.insertAttributeDefinition definition) :=
  regular.tree.find?_adjust_self
    (ObjectClass.insertAttributeDefinition definition)
    (ObjectClass.insertClassAttributeFor objectClassHandle definition)
    (fun _ => rfl) (fun _ => rfl) found

/-- The class whose attribute is described, after that. -/
theorem Regular.findHandle_describe
    (regular : self.Regular)
    (found : self.findHandle objectClassHandle =
      some (ancestors, objectClass))
    (attributeName : String)
    (change : AttributeDefinition → AttributeDefinition) :
    (self.modifyAttributeDefinition objectClassHandle attributeName
        change).findHandle objectClassHandle =
      some (ancestors,
        objectClass.modifyAttributeDefinition attributeName change) :=
  regular.tree.find?_adjust_self
    (ObjectClass.modifyAttributeDefinition attributeName change) id
    (fun _ => rfl) (fun _ => rfl) found

variable {node : List ObjectClass × ObjectClass}

theorem attributeNamesOf_of_findHandle
    (found : self.findHandle objectClassHandle = some node) :
    self.attributeNamesOf objectClassHandle = node.2.attributeNames := by
  rw [attributeNamesOf, found, Option.map_some, Option.getD_some]

/-- The class that grows keeps its base classes and its attributes. -/
theorem Grows.findHandle
    (grows : Grows objectClassHandle names start grown)
    (regular : start.Regular)
    (found : start.findHandle objectClassHandle =
      some (ancestors, objectClass)) :
    ∃ grownClass,
      grown.findHandle objectClassHandle = some (ancestors, grownClass) ∧
        objectClass.attributeNames ⊆ grownClass.attributeNames ∧
        grownClass.attributeNames ⊆ objectClass.attributeNames ++ names := by
  induction grows with
  | refl =>
      exact ⟨objectClass, found, List.Subset.refl _,
        List.subset_append_left _ _⟩
  | describe before attributeName describes ih =>
      obtain ⟨grownClass, grownFound, keeps, bounded⟩ := ih
      refine ⟨_, (before.regular regular).findHandle_describe grownFound _ _,
        ?_⟩
      rw [modifyAttributeDefinition_attributeNames describes]
      exact ⟨keeps, bounded⟩
  | @add _ before _ _ definition _ _ _ listed ih =>
      obtain ⟨grownClass, grownFound, keeps, bounded⟩ := ih
      refine ⟨_, (before.regular regular).findHandle_add grownFound _, ?_⟩
      have perm := ObjectClass.insertAttributeDefinition_attributeNames
        definition grownClass
      refine ⟨List.Subset.trans keeps (List.Subset.trans
        (List.subset_cons_self _ _) perm.symm.subset),
        List.Subset.trans perm.subset ?_⟩
      rw [List.cons_subset]
      exact ⟨List.mem_append_right _ listed, bounded⟩

/-- Describing attributes keeps the names a class defines. -/
theorem Grows.findHandle_nil
    (grows : Grows objectClassHandle [] start grown)
    (regular : start.Regular)
    (found : start.findHandle objectClassHandle =
      some (ancestors, objectClass)) :
    ∃ grownClass,
      grown.findHandle objectClassHandle = some (ancestors, grownClass) ∧
        grownClass.attributeNames = objectClass.attributeNames := by
  induction grows with
  | refl => exact ⟨objectClass, found, rfl⟩
  | describe before attributeName describes ih =>
      obtain ⟨grownClass, grownFound, same⟩ := ih
      refine ⟨_, (before.regular regular).findHandle_describe grownFound _ _,
        ?_⟩
      rw [modifyAttributeDefinition_attributeNames describes, same]
  | add _ _ _ _ listed _ => exact absurd listed List.not_mem_nil

/-- The first unused handle moves on by one with each attribute. -/
theorem getFirstUnusedAttributeHandle_succ
    {grownClass : ObjectClass}
    (definition : AttributeDefinition)
    (same : grownClass.attributeNames =
      (objectClass.insertAttributeDefinition definition).attributeNames)
    (ancestors : List ObjectClass) :
    (objectClass.getFirstUnusedAttributeHandle ancestors + 1) % 2 ^ 32 =
      grownClass.getFirstUnusedAttributeHandle ancestors := by
  have length := congrArg List.length same
  rw [ObjectClass.attributeNames, ObjectClass.attributeNames, List.length_map,
    List.length_map, ObjectClass.insertAttributeDefinition_length] at length
  rw [ObjectClass.getFirstUnusedAttributeHandle_eq,
    ObjectClass.getFirstUnusedAttributeHandle_eq, Nat.mod_add_mod,
    ObjectClass.attributesOnPath_cons, ObjectClass.attributesOnPath_cons,
    length, Nat.add_right_comm]

/-! ## What a successful entry has done -/

open ObjectClassInsertion

variable {before after : ObjectClassInsertion} {result : Unit}

theorem modifyTable_ok
    {change : ObjectClassTable → ObjectClassTable}
    (ran : modifyTable change before = .ok result after) :
    after = before.withTable (change before.toObjectClassTable) :=
  (modify_eq_ok.mp ran).symm

variable {dimensions : DimensionTable}

theorem insertDimensions_ok
    {dimensionNames : List String}
    (ran : insertDimensions dimensions objectClassHandle attributeName
      dimensionNames before = .ok result after) :
    ∃ grown,
      after = before.withTable grown ∧
        Grows objectClassHandle [] before.toObjectClassTable grown := by
  induction dimensionNames generalizing before with
  | nil =>
      rw [insertDimensions, pure_eq_ok] at ran
      exact ⟨_, ran.2.symm, .refl⟩
  | cons dimensionName rest ih =>
      simp only [insertDimensions, bind_eq_ok, check_eq_ok] at ran
      obtain ⟨handle, _, ⟨_, rfl⟩, _, _, inserted, ran⟩ := ran
      rw [modifyTable_ok inserted] at ran
      obtain ⟨grown, rfl, grows⟩ := ih ran
      refine ⟨grown, rfl, .trans ?_ grows⟩
      exact .describe .refl attributeName fun _ => ⟨rfl, rfl⟩

variable {stringAttribute : FOMStringAttribute}

/-- Adding an attribute enters it and then describes it. -/
theorem addAttribute_ok
    {attributeHandle : AttributeHandle}
    (ran : addAttribute dimensions objectClassHandle attributeHandle
      stringAttribute before = .ok result after) :
    ∃ definition grown,
      definition.attributeHandle = attributeHandle ∧
        definition.name = stringAttribute.name ∧
        after = before.withTable grown ∧
        Grows objectClassHandle []
          (before.toObjectClassTable.insertAttributeDefinition
            objectClassHandle definition)
          grown := by
  simp only [addAttribute, bind_eq_ok, check_eq_ok] at ran
  obtain ⟨_, _, entered, orderType, _, ⟨_, rfl⟩, _, _, ordered,
    transportationType, _, ⟨_, rfl⟩, _, _, transported, ran⟩ := ran
  rw [modifyTable_ok entered] at ordered
  rw [modifyTable_ok ordered, withTable_withTable] at transported
  rw [modifyTable_ok transported, withTable_withTable] at ran
  obtain ⟨grown, rfl, grows⟩ := insertDimensions_ok ran
  refine ⟨{ attributeHandle := attributeHandle
            name := stringAttribute.name
            dataType := stringAttribute.dataType },
    grown, rfl, rfl, rfl, .trans ?_ grows⟩
  refine .describe (.describe .refl stringAttribute.name ?_)
    stringAttribute.name ?_
  · exact fun _ => ⟨rfl, rfl⟩
  · exact fun _ => ⟨rfl, rfl⟩

variable {className : StringVector}

/-- An attribute of an established class is known afterwards; if it was not
added, nothing has changed. -/
theorem insertOrCheckAttribute_ok
    {result : AttributeHandle × Bool}
    (regular : before.Regular)
    (ran : insertOrCheckAttribute dimensions objectClassHandle className
      stringAttribute before = .ok result after) :
    ∃ grown,
      after = before.withTable grown ∧
        Grows objectClassHandle [stringAttribute.name]
          before.toObjectClassTable grown ∧
        stringAttribute.name ∈ grown.attributeNamesOf objectClassHandle ∧
        (result.2 = false → grown = before.toObjectClassTable) := by
  rw [insertOrCheckAttribute, bind_eq_ok] at ran
  obtain ⟨_, _, got, ran⟩ := ran
  obtain ⟨rfl, rfl⟩ := get_eq_ok.mp got
  cases found : before.findHandle objectClassHandle with
  | none =>
      rw [found] at ran
      exact absurd ran throw_ne_ok
  | some node =>
    obtain ⟨ancestors, objectClass⟩ := node
    simp only [found] at ran
    cases known :
      objectClass.getAttributeDefinition stringAttribute.name with
    | none =>
      have unknown := known
      simp only [known, bind_eq_ok, pure_eq_ok] at ran
      obtain ⟨_, _, added, rfl, rfl⟩ := ran
      obtain ⟨definition, grown, firstUnused, name, rfl, grows⟩ :=
        addAttribute_ok added
      rw [ObjectClass.getAttributeDefinition_eq_none, ← name] at unknown
      have entered := regular.findHandle_add found definition
      obtain ⟨grownClass, grownFound, keeps, _⟩ :=
        grows.findHandle (regular.add found unknown) entered
      refine ⟨grown, rfl, ?_, ?_, fun kept => Bool.noConfusion kept⟩
      · refine .trans (.add .refl found firstUnused unknown ?_)
          (grows.weaken (List.nil_subset _))
        rw [name]
        exact List.mem_singleton_self _
      · rw [attributeNamesOf_of_findHandle grownFound, ← name]
        apply keeps
        rw [(ObjectClass.insertAttributeDefinition_attributeNames
          _ _).mem_iff]
        exact List.mem_cons_self
    | some definition =>
      simp only [known, bind_eq_ok, check_eq_ok, pure_eq_ok] at ran
      obtain ⟨_, _, ⟨_, rfl⟩, rfl, rfl⟩ := ran
      refine ⟨_, rfl, .refl, ?_, fun _ => rfl⟩
      rw [attributeNamesOf_of_findHandle found]
      by_contra absent
      rw [← ObjectClass.getAttributeDefinition_eq_none, known] at absent
      cases absent

variable {attributeList : List FOMStringAttribute}

/-- What the attributes listed for an established class have done. -/
theorem insertOrCheckAttributes_ok
    {result : List AttributeHandle × Bool}
    (regular : before.Regular)
    (found : before.findHandle objectClassHandle = some node)
    (ran : insertOrCheckAttributes dimensions objectClassHandle className
      attributeList before = .ok result after) :
    ∃ grown,
      after = before.withTable grown ∧
        Grows objectClassHandle
          (attributeList.map FOMStringAttribute.name)
          before.toObjectClassTable grown ∧
        attributeList.map FOMStringAttribute.name ⊆
          grown.attributeNamesOf objectClassHandle ∧
        (result.2 = false → grown = before.toObjectClassTable) := by
  induction attributeList generalizing before result node with
  | nil =>
      rw [insertOrCheckAttributes, pure_eq_ok] at ran
      exact ⟨_, ran.2.symm, .refl, List.nil_subset _, fun _ => rfl⟩
  | cons stringAttribute rest ih =>
      simp only [insertOrCheckAttributes, bind_eq_ok, pure_eq_ok] at ran
      obtain ⟨first, _, here, later, _, others, rfl, rfl⟩ := ran
      obtain ⟨between, rfl, grows, known, unchanged⟩ :=
        insertOrCheckAttribute_ok regular here
      obtain ⟨ancestors, objectClass⟩ := node
      obtain ⟨betweenClass, betweenFound, _, _⟩ :=
        grows.findHandle regular found
      obtain ⟨grown, rfl, growsOn, covered, unchangedOn⟩ :=
        ih (grows.regular regular) betweenFound others
      obtain ⟨grownClass, grownFound, keeps, _⟩ :=
        growsOn.findHandle (grows.regular regular) betweenFound
      refine ⟨grown, rfl, ?_, ?_, ?_⟩
      · exact .trans (grows.weaken (by simp)) (growsOn.weaken (by simp))
      · rw [List.map_cons, List.cons_subset]
        rw [attributeNamesOf_of_findHandle betweenFound] at known
        rw [attributeNamesOf_of_findHandle grownFound] at covered ⊢
        exact ⟨keeps known, covered⟩
      · intro nothing
        rw [Bool.or_eq_false_iff] at nothing
        rw [unchangedOn nothing.2, unchanged nothing.1, withTable_table]

/-- What the attributes listed for a new class have done: each of them took the
first unused handle. -/
theorem addAttributes_ok
    (regular : before.Regular)
    (found : before.findHandle objectClassHandle =
      some (ancestors, objectClass))
    (ran : addAttributes dimensions objectClassHandle className
      (objectClass.getFirstUnusedAttributeHandle ancestors) attributeList
      before = .ok result after) :
    ∃ grown,
      after = before.withTable grown ∧
        Grows objectClassHandle
          (attributeList.map FOMStringAttribute.name)
          before.toObjectClassTable grown ∧
        attributeList.map FOMStringAttribute.name ⊆
          grown.attributeNamesOf objectClassHandle := by
  induction attributeList generalizing before objectClass with
  | nil =>
      rw [addAttributes, pure_eq_ok] at ran
      exact ⟨_, ran.2.symm, .refl, List.nil_subset _⟩
  | cons stringAttribute rest ih =>
      rw [addAttributes, bind_eq_ok] at ran
      obtain ⟨_, _, got, ran⟩ := ran
      obtain ⟨rfl, rfl⟩ := get_eq_ok.mp got
      rw [found, Option.any_some] at ran
      cases known :
        objectClass.getAttributeDefinition stringAttribute.name with
      | some definition =>
        simp only [known, Option.isSome_some, if_true, bind_eq_ok] at ran
        obtain ⟨_, _, thrown, _⟩ := ran
        exact absurd thrown throw_ne_ok
      | none =>
        simp only [known, Option.isSome_none, Bool.false_eq_true, if_false,
          bind_eq_ok] at ran
        obtain ⟨_, _, added, others⟩ := ran
        obtain ⟨definition, between, firstUnused, name, rfl, grows⟩ :=
          addAttribute_ok added
        rw [ObjectClass.getAttributeDefinition_eq_none, ← name] at known
        have enteredRegular := regular.add found known
        obtain ⟨betweenClass, betweenFound, same⟩ :=
          grows.findHandle_nil enteredRegular
            (regular.findHandle_add found definition)
        rw [getFirstUnusedAttributeHandle_succ definition same] at others
        have betweenRegular := grows.regular enteredRegular
        obtain ⟨grown, rfl, growsOn, covered⟩ :=
          ih betweenRegular betweenFound others
        obtain ⟨grownClass, grownFound, keeps, _⟩ :=
          growsOn.findHandle betweenRegular betweenFound
        refine ⟨grown, rfl, ?_, ?_⟩
        · refine .trans (.add .refl found firstUnused known ?_)
            (.trans (grows.weaken (List.nil_subset _))
              (growsOn.weaken (by simp)))
          rw [name, List.map_cons]
          exact List.mem_cons_self
        · rw [attributeNamesOf_of_findHandle grownFound] at covered ⊢
          rw [List.map_cons, List.cons_subset]
          refine ⟨keeps ?_, covered⟩
          rw [same, ← name,
            (ObjectClass.insertAttributeDefinition_attributeNames
              _ _).mem_iff]
          exact List.mem_cons_self

/-- The tree with the class of an entry created below its parent. -/
def withObjectClass
    (self : ObjectClassTable)
    (handleAllocator : HandleAllocator invalidHandle)
    (name : StringVector)
    (objectClassHandle : ObjectClassHandle) : ObjectClassTable :=
  insertObjectClass ((self.findName name.dropLast).map (·.2)) name
    objectClassHandle { self with handleAllocator }

/-- The effect of a successful entry of a module. -/
inductive Entered
    (before : ObjectClassInsertion)
    (stringObjectClass : FOMStringObjectClass) :
    Bool → ObjectClassInsertion → Prop
  | established
      {ancestors : List ObjectClass}
      {objectClass : ObjectClass}
      {grown : ObjectClassTable}
      {created : Bool}
      (found : before.findName stringObjectClass.name =
        some (ancestors, objectClass))
      (grows : Grows objectClass.objectClassHandle
        (stringObjectClass.attributeList.map FOMStringAttribute.name)
        before.toObjectClassTable grown)
      (covered :
        stringObjectClass.attributeList.map FOMStringAttribute.name ⊆
          grown.attributeNamesOf objectClass.objectClassHandle)
      (unchanged : created = false → grown = before.toObjectClassTable) :
      Entered before stringObjectClass created
        ((before.withTable grown).linked objectClass.objectClassHandle
          stringObjectClass.attributeList)
  | new
      {objectClassHandle : ObjectClassHandle}
      {handleAllocator : HandleAllocator invalidHandle}
      {grown : ObjectClassTable}
      (unknown : before.findName stringObjectClass.name = none)
      (nonempty : stringObjectClass.name ≠ [])
      (parent : stringObjectClass.name.length ≤ 1 ∨
        before.findName stringObjectClass.name.dropLast ≠ none)
      (got : HandleAllocator.get before.handleAllocator =
        .ok objectClassHandle handleAllocator)
      (grows : Grows objectClassHandle
        (stringObjectClass.attributeList.map FOMStringAttribute.name)
        (before.withObjectClass handleAllocator stringObjectClass.name
          objectClassHandle)
        grown)
      (covered :
        stringObjectClass.attributeList.map FOMStringAttribute.name ⊆
          grown.attributeNamesOf objectClassHandle) :
      Entered before stringObjectClass true
        ((before.withTable grown).linked objectClassHandle
          stringObjectClass.attributeList)

theorem Regular.nodes_withObjectClass
    (regular : self.Regular)
    (handleAllocator : HandleAllocator invalidHandle) (name : StringVector)
    (objectClassHandle : ObjectClassHandle) :
    (self.withObjectClass handleAllocator name
        objectClassHandle).classes.nodes.Perm
      (self.classes.nodes ++
        [(ClassTree.pathOf (self.findName name.dropLast),
          ObjectClass.create name objectClassHandle
            ((self.findName name.dropLast).map (·.2)))]) :=
  regular.tree.nodes_insertClass
    (fun _ found => (regular.findName_eq_some.mp found).1) _

variable {handleAllocator : HandleAllocator invalidHandle} {name : StringVector}

theorem Regular.mem_values_withObjectClass
    (regular : self.Regular) :
    objectClass ∈ (self.withObjectClass handleAllocator name
        objectClassHandle).classes.values ↔
      objectClass ∈ self.classes.values ∨
        objectClass = ObjectClass.create name objectClassHandle
          ((self.findName name.dropLast).map (·.2)) := by
  have values := (regular.nodes_withObjectClass handleAllocator name
    objectClassHandle).map (·.2)
  rw [Forest.values, values.mem_iff, List.map_append, List.mem_append,
    List.map_singleton, List.mem_singleton, Forest.values]

theorem Regular.withObjectClass
    (regular : self.Regular)
    (unknown : self.findName name = none)
    (nonempty : name ≠ [])
    (parent : name.length ≤ 1 ∨ self.findName name.dropLast ≠ none)
    (got : HandleAllocator.get self.handleAllocator =
      .ok objectClassHandle handleAllocator) :
    (self.withObjectClass handleAllocator name
      objectClassHandle).Regular where
  tree := regular.tree.insertClass
    (fun _ found => (regular.findName_eq_some.mp found).1)
    (fun _ => rfl) (fun _ => rfl) nonempty unknown
    (regular.tree.parentName parent) got
  definitions := by
    intro objectClass member
    obtain before | rfl := regular.mem_values_withObjectClass.mp member
    · exact regular.definitions objectClass before
    · exact List.nodup_nil

variable {stringObjectClass : FOMStringObjectClass} {created : Bool}

theorem insertOrCheckEstablishedObjectClass_ok
    (regular : before.Regular)
    (found : before.findName stringObjectClass.name =
      some (ancestors, objectClass))
    (ran : insertOrCheckEstablishedObjectClass dimensions
      objectClass.objectClassHandle stringObjectClass before =
        .ok created after) :
    Entered before stringObjectClass created after := by
  simp only [insertOrCheckEstablishedObjectClass, bind_eq_ok] at ran
  obtain ⟨result, _, attributes, ran⟩ := ran
  obtain ⟨member, named⟩ := regular.findName_eq_some.mp found
  have foundHandle : before.findHandle objectClass.objectClassHandle =
      some (ancestors, objectClass) :=
    regular.findHandle_eq_some.mpr ⟨member, rfl⟩
  obtain ⟨grown, rfl, grows, covered, unchanged⟩ :=
    insertOrCheckAttributes_ok regular foundHandle attributes
  split at ran
  · simp only [bind_eq_ok] at ran
    obtain ⟨_, _, thrown, _⟩ := ran
    exact absurd thrown throw_ne_ok
  · simp only [bind_eq_ok, linkObjectClass, modify_eq_ok, pure_eq_ok] at ran
    obtain ⟨_, _, rfl, rfl, rfl⟩ := ran
    exact .established found grows covered unchanged

theorem createObjectClass_ok
    (regular : before.Regular)
    (unknown : before.findName stringObjectClass.name = none)
    (ran : createObjectClass dimensions stringObjectClass before =
      .ok result after) :
    Entered before stringObjectClass true after := by
  rw [createObjectClass, bind_eq_ok] at ran
  obtain ⟨_, _, got, ran⟩ := ran
  obtain ⟨rfl, rfl⟩ := get_eq_ok.mp got
  split at ran
  · simp only [bind_eq_ok] at ran
    obtain ⟨_, _, thrown, _⟩ := ran
    exact absurd thrown throw_ne_ok
  next nonempty =>
    dsimp only at ran
    split at ran
    · simp only [bind_eq_ok] at ran
      obtain ⟨_, _, thrown, _⟩ := ran
      exact absurd thrown throw_ne_ok
    next parentKnown =>
      simp only [bind_eq_ok, zoom_eq_ok, linkObjectClass, modify_eq_ok]
        at ran
      obtain ⟨objectClassHandle, _, ⟨handleAllocator, allocated, rfl⟩,
        _, _, entered, _, _, rfl, _, _, got, ran⟩ := ran
      obtain ⟨rfl, rfl⟩ := get_eq_ok.mp got
      have parent : stringObjectClass.name.length ≤ 1 ∨
          before.findName stringObjectClass.name.dropLast ≠ none := by
        by_contra both
        rw [not_or, not_not] at both
        exact parentKnown ⟨both.2, by omega⟩
      have createdRegular :=
        regular.withObjectClass unknown nonempty parent allocated
      have table : _ = before.withTable
          (before.withObjectClass handleAllocator stringObjectClass.name
            objectClassHandle) := modifyTable_ok entered
      rw [table, linked_table, withTable_table] at ran
      cases found : (before.withObjectClass handleAllocator
          stringObjectClass.name objectClassHandle).findHandle
            objectClassHandle with
      | none =>
          simp only [found] at ran
          exact absurd ran throw_ne_ok
      | some node =>
          simp only [found] at ran
          obtain ⟨grown, rfl, grows, covered⟩ :=
            addAttributes_ok createdRegular found ran
          exact .new unknown nonempty parent allocated grows covered

/-- What a successful entry of a module has done. -/
theorem insertOrCheckObjectClass_ok
    (regular : before.Regular)
    (ran : insertOrCheckObjectClass dimensions stringObjectClass before =
      .ok created after) :
    Entered before stringObjectClass created after := by
  rw [insertOrCheckObjectClass, bind_eq_ok] at ran
  obtain ⟨_, _, got, ran⟩ := ran
  obtain ⟨rfl, rfl⟩ := get_eq_ok.mp got
  cases found : before.findName stringObjectClass.name with
  | some node =>
      simp only [found] at ran
      exact insertOrCheckEstablishedObjectClass_ok regular found ran
  | none =>
      simp only [found, bind_eq_ok, pure_eq_ok] at ran
      obtain ⟨_, _, ran, rfl, rfl⟩ := ran
      exact createObjectClass_ok regular found ran

theorem Entered.regular
    (entered : Entered before stringObjectClass created after)
    (regular : before.Regular) :
    after.Regular := by
  cases entered with
  | established _ grows _ _ => exact grows.regular regular
  | new unknown nonempty parent got grows _ =>
      exact grows.regular
        (regular.withObjectClass unknown nonempty parent got)

end ObjectClassTable
end ServerModel
end OpenRTI
