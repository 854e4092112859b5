import OpenRTI.ServerModel.ClassInheritance
import OpenRTI.ServerModel.InheritedSubscriptions

/-!
# Inherited subscriptions while modules are inserted

A new attribute has a handle that no base class uses, and nobody is subscribed to it.
A new class has the attributes of its base class without the connects subscribed
there, so that subscriptions are inherited afterwards only if there were none.
-/

namespace OpenRTI
namespace ServerModel

open Foundation
open Foundation.FailingState

variable (name : StringVector)

namespace ObjectClass

variable {connectHandle : ConnectHandle} {attributeHandle : AttributeHandle}

theorem publishSubscribe?_insertClassAttributeFor
    (definedBy : ObjectClassHandle) (definition : AttributeDefinition)
    (attributeHandle : AttributeHandle) (self : ObjectClass) :
    (self.insertClassAttributeFor definedBy definition).publishSubscribe?
        attributeHandle =
      if definition.attributeHandle = attributeHandle then some {}
      else self.publishSubscribe? attributeHandle := by
  rw [publishSubscribe?, getClassAttribute, insertClassAttributeFor,
    findGrouped_insertGrouped]
  split
  · rfl
  · rfl

/-- Nobody has anything where nobody has published or subscribed. -/
theorem any_eq_false_of_empty
    {self : ObjectClass} {observe : PublishSubscribe → Bool}
    (empty : ∀ classAttribute ∈ self.classAttributes,
      classAttribute.publishSubscribe = {})
    (nothing : observe {} = false) :
    (self.publishSubscribe? attributeHandle).any observe = false := by
  rw [publishSubscribe?]
  cases found : self.getClassAttribute attributeHandle with
  | none => rfl
  | some classAttribute =>
      rw [Option.map_some, Option.any_some,
        empty classAttribute (findGrouped_eq_some found).1]
      exact nothing

theorem create_empty
    (objectClassHandle : ObjectClassHandle) (parent : Option ObjectClass) :
    ∀ classAttribute ∈ (create name objectClassHandle parent).classAttributes,
      classAttribute.publishSubscribe = {} := by
  intro classAttribute member
  cases parent with
  | none => cases member
  | some parent =>
      have inherited := parent.inheritedAttributes_perm.mem_iff.mp member
      obtain ⟨original, _, rfl⟩ := List.mem_map.mp inherited
      rfl

theorem hasAttribute_create
    (objectClassHandle : ObjectClassHandle) (parent : ObjectClass) :
    (create name objectClassHandle (some parent)).hasAttribute attributeHandle =
      parent.hasAttribute attributeHandle := by
  rw [Bool.eq_iff_iff, hasAttribute_iff, hasAttribute_iff]
  exact parent.inheritedAttributes_handles.mem_iff

end ObjectClass

namespace ObjectClassTable

open ObjectClass

variable {self : ObjectClassTable} {objectClassHandle : ObjectClassHandle}
variable {definition : AttributeDefinition}
variable {ancestors : List ObjectClass} {objectClass : ObjectClass}

/-! ## A new attribute -/

/-- What adding an attribute makes of a class. -/
abbrev added
    (objectClassHandle : ObjectClassHandle)
    (definition : AttributeDefinition) : List ObjectClass → ObjectClass → ObjectClass :=
  ClassTree.adjusted ObjectClass.objectClassHandle objectClassHandle
    (ObjectClass.insertAttributeDefinition definition)
    (ObjectClass.insertClassAttributeFor objectClassHandle definition)

theorem publishSubscribe?_added
    (attributeHandle : AttributeHandle)
    (node : List ObjectClass × ObjectClass) :
    (added objectClassHandle definition node.1 node.2).publishSubscribe?
        attributeHandle =
      if objectClassHandle ∈ (node.2 :: node.1).map ObjectClass.objectClassHandle ∧
          definition.attributeHandle = attributeHandle then some {}
      else node.2.publishSubscribe? attributeHandle := by
  by_cases onPath : objectClassHandle ∈
      (node.2 :: node.1).map ObjectClass.objectClassHandle
  · rw [if_congr (and_iff_right onPath) rfl rfl]
    by_cases inside : objectClassHandle ∈ node.1.map ObjectClass.objectClassHandle
    · rw [added, ClassTree.adjusted_derived inside]
      exact publishSubscribe?_insertClassAttributeFor _ _ _ _
    · rw [List.map_cons, List.mem_cons, or_iff_left inside] at onPath
      rw [added, ClassTree.adjusted_at inside onPath.symm]
      exact publishSubscribe?_insertClassAttributeFor _ _ _ _
  · rw [if_neg (fun both => onPath both.1), added, ClassTree.adjusted_outside onPath]

theorem InheritsAttributes.add
    (inherits : self.InheritsAttributes)
    (objectClassHandle : ObjectClassHandle)
    (definition : AttributeDefinition) :
    (self.insertAttributeDefinition objectClassHandle
      definition).InheritsAttributes := by
  intro changed changedMember parent above attributeHandle has
  rw [insertAttributeDefinition, adjust, ClassTree.nodes_adjust] at changedMember
  obtain ⟨⟨derivedAncestors, derived⟩, member, rfl⟩ := List.mem_map.mp changedMember
  cases derivedAncestors with
  | nil => cases above
  | cons first rest =>
      rw [Forest.mapAncestors_cons, List.head?_cons, Option.mem_some_iff] at above
      rw [← above, hasAttribute, publishSubscribe?_added _ (rest, first)] at has
      rw [hasAttribute, publishSubscribe?_added _ (first :: rest, derived)]
      split
      next => rfl
      next notHere =>
        rw [if_neg fun both => notHere
          ⟨List.mem_cons_of_mem _ both.1, both.2⟩] at has
        exact inherits _ member first rfl attributeHandle has

/-- Nobody is subscribed to a new attribute.  The base class has to have nobody
subscribed under its handle, either. -/
theorem InheritsSubscriptions.add
    (inherits : self.InheritsSubscriptions) (regular : self.Regular)
    (found : self.findHandle objectClassHandle = some (ancestors, objectClass))
    (unused : ∀ parent ∈ ancestors.head?, ∀ connectHandle,
      parent.isCumulativelySubscribed connectHandle definition.attributeHandle =
        false) :
    (self.insertAttributeDefinition objectClassHandle
      definition).InheritsSubscriptions := by
  refine ⟨inherits.attributes.add objectClassHandle definition, ?_⟩
  intro connectHandle attributeHandle
  by_cases new : definition.attributeHandle = attributeHandle
  · have nothing : ∀ (observe : PublishSubscribe → Bool)
        (node : List ObjectClass × ObjectClass), observe {} = false →
        ((added objectClassHandle definition node.1 node.2).publishSubscribe?
            attributeHandle).any observe =
          if objectClassHandle ∈ (node.2 :: node.1).map ObjectClass.objectClassHandle
          then false else (node.2.publishSubscribe? attributeHandle).any observe := by
      intro observe node none
      rw [publishSubscribe?_added attributeHandle node,
        if_congr (and_iff_left new) rfl rfl]
      split
      · exact none
      · rfl
    have total := fun node => nothing
      (PublishSubscribe.isCumulativelySubscribed connectHandle) node rfl
    have own := fun node => nothing (PublishSubscribe.isSubscribed connectHandle) node rfl
    intro changed changedMember
    rw [insertAttributeDefinition, adjust, ClassTree.nodes_adjust] at changedMember
    obtain ⟨⟨derivedAncestors, derived⟩, member, rfl⟩ := List.mem_map.mp changedMember
    have here := total (derivedAncestors, derived)
    rw [isCumulativelySubscribed_eq, isSubscribed, here, own (derivedAncestors, derived)]
    have before := inherits.totals connectHandle attributeHandle _ member
    dsimp only
    cases derivedAncestors with
    | nil =>
        split
        · rfl
        · exact before
    | cons first rest =>
        rw [Forest.mapAncestors_cons, List.head?_cons, Option.any_some,
          isCumulativelySubscribed_eq, total (rest, first)]
        by_cases inside : objectClassHandle ∈
            (first :: rest).map ObjectClass.objectClassHandle
        · have onPath : objectClassHandle ∈
              (derived :: first :: rest).map ObjectClass.objectClassHandle :=
            List.mem_cons_of_mem _ inside
          rw [if_pos inside, if_pos onPath, if_pos onPath]
          rfl
        · rw [if_neg inside]
          split
          next onPath =>
            -- The attribute is added to the class itself.
            rw [List.map_cons, List.mem_cons, or_iff_left inside] at onPath
            obtain ⟨foundMember, foundHere⟩ := regular.findHandle_eq_some.mp found
            have unique := regular.tree.node_eq_of_handle foundMember member
              (foundHere.trans onPath)
            obtain ⟨rfl, rfl⟩ := Prod.mk.inj unique
            have nobody := unused first rfl connectHandle
            rw [new, isCumulativelySubscribed_eq] at nobody
            rw [nobody]
            rfl
          next => exact before
  · have keeps : ∀ (observe : PublishSubscribe → Bool) ancestors objectClass,
        ((added objectClassHandle definition ancestors objectClass).publishSubscribe?
            attributeHandle).any observe =
          (objectClass.publishSubscribe? attributeHandle).any observe := by
      intro observe ancestors objectClass
      rw [publishSubscribe?_added attributeHandle (ancestors, objectClass),
        if_neg fun both => new both.2]
    rw [insertAttributeDefinition, adjust, ClassTree.adjust, Forest.adjust_eq_mapNodes]
    exact (inherits.totals connectHandle attributeHandle).mapNodes
      (keeps (PublishSubscribe.isSubscribed connectHandle))
      (keeps (PublishSubscribe.isCumulativelySubscribed connectHandle))

theorem sameAttributes_describe
    {attributeName : String}
    {change : AttributeDefinition → AttributeDefinition}
    (describes : Describes change) (objectClass : ObjectClass) :
    SameAttributes objectClass
      (objectClass.modifyAttributeDefinition attributeName change) where
  objectClassHandle := rfl
  name := rfl
  handles := rfl
  attributeNames := modifyAttributeDefinition_attributeNames describes objectClass

/-- To describe an attribute changes no subscription. -/
theorem InheritsSubscriptions.describe
    {change : AttributeDefinition → AttributeDefinition}
    (inherits : self.InheritsSubscriptions)
    (objectClassHandle : ObjectClassHandle) (attributeName : String)
    (describes : Describes change) :
    (self.modifyAttributeDefinition objectClassHandle attributeName
      change).InheritsSubscriptions := by
  have same : ∀ ancestors objectClass,
      SameAttributes objectClass
        (ClassTree.adjusted ObjectClass.objectClassHandle objectClassHandle
          (ObjectClass.modifyAttributeDefinition attributeName change) id ancestors
          objectClass) := by
    intro ancestors objectClass
    rw [ClassTree.adjusted, Forest.adjustNode]
    split
    · exact ⟨rfl, rfl, rfl, rfl⟩
    · split
      · exact sameAttributes_describe describes objectClass
      · exact ⟨rfl, rfl, rfl, rfl⟩
  have kept : ∀ attributeHandle ancestors objectClass,
      (ClassTree.adjusted ObjectClass.objectClassHandle objectClassHandle
          (ObjectClass.modifyAttributeDefinition attributeName change) id ancestors
          objectClass).publishSubscribe? attributeHandle =
        objectClass.publishSubscribe? attributeHandle := by
    intro attributeHandle ancestors objectClass
    rw [ClassTree.adjusted, Forest.adjustNode]
    split
    · rfl
    · split
      · rfl
      · rfl
  rw [modifyAttributeDefinition, adjust, ClassTree.adjust, Forest.adjust_eq_mapNodes]
  refine ⟨inherits.attributes.mapNodes same, ?_⟩
  intro connectHandle attributeHandle
  apply (inherits.totals connectHandle attributeHandle).mapNodes
  · intro ancestors objectClass
    exact congrArg (Option.any _) (kept attributeHandle ancestors objectClass)
  · intro ancestors objectClass
    exact congrArg (Option.any _) (kept attributeHandle ancestors objectClass)

/-! ## Growth -/

/-- Nobody is subscribed to attributes of a class under the handles that new
attributes get, those from one number up to another. -/
def FreeHandles (parent : ObjectClass) (first last : Nat) : Prop :=
  ∀ count < last, first ≤ count → ∀ connectHandle,
    parent.isCumulativelySubscribed connectHandle (count % 2 ^ 32) = false

variable {start grown : ObjectClassTable} {names : List String}

/-- A class that grows by attributes under free handles. -/
theorem Grows.inheritsSubscriptions
    (grows : Grows objectClassHandle names start grown)
    (regular : start.Regular) (inherits : start.InheritsSubscriptions)
    (found : start.findHandle objectClassHandle = some (ancestors, objectClass)) :
    ∃ grownClass,
      grown.findHandle objectClassHandle = some (ancestors, grownClass) ∧
      ObjectClass.attributesOnPath (objectClass :: ancestors) ≤
        ObjectClass.attributesOnPath (grownClass :: ancestors) ∧
      ((∀ parent ∈ ancestors.head?,
        FreeHandles parent (ObjectClass.attributesOnPath (objectClass :: ancestors))
          (ObjectClass.attributesOnPath (grownClass :: ancestors))) →
        grown.InheritsSubscriptions) := by
  induction grows with
  | refl => exact ⟨objectClass, found, Nat.le_refl _, fun _ => inherits⟩
  | @describe _ before attributeName change describes ih =>
      obtain ⟨grownClass, grownFound, more, kept⟩ := ih
      refine ⟨_, (before.regular regular).findHandle_describe grownFound _ _, ?_⟩
      have length : ObjectClass.attributesOnPath
          (grownClass.modifyAttributeDefinition attributeName change :: ancestors) =
            ObjectClass.attributesOnPath (grownClass :: ancestors) := by
        rw [ObjectClass.attributesOnPath_cons, ObjectClass.attributesOnPath_cons,
          ObjectClass.modifyAttributeDefinition, List.length_map]
      rw [length]
      exact ⟨more, fun free => (kept free).describe _ _ describes⟩
  | @add grown before _ _ definition here firstUnused _ _ ih =>
      obtain ⟨grownClass, grownFound, more, kept⟩ := ih
      obtain ⟨rfl, rfl⟩ := Prod.mk.inj (Option.some.inj (grownFound.symm.trans here))
      have grownRegular := before.regular regular
      refine ⟨_, grownRegular.findHandle_add grownFound definition, ?_⟩
      have length : ObjectClass.attributesOnPath
          (grownClass.insertAttributeDefinition definition :: ancestors) =
            ObjectClass.attributesOnPath (grownClass :: ancestors) + 1 := by
        rw [ObjectClass.attributesOnPath_cons, ObjectClass.attributesOnPath_cons,
          ObjectClass.insertAttributeDefinition_length]
        omega
      rw [length]
      refine ⟨Nat.le_succ_of_le more, ?_⟩
      intro free
      rw [ObjectClass.getFirstUnusedAttributeHandle_eq] at firstUnused
      apply (kept ?_).add grownRegular grownFound
      · intro parent above connectHandle
        rw [firstUnused]
        exact free parent above _ (Nat.lt_succ_self _) more connectHandle
      · intro parent above count below
        exact free parent above count (Nat.lt_succ_of_lt below)

/-- A new class inherits the subscriptions if there are none to inherit. -/
theorem InheritsSubscriptions.withObjectClass
    {handleAllocator : HandleAllocator invalidHandle} {name : StringVector}
    (inherits : self.InheritsSubscriptions) (regular : self.Regular)
    (nothing : ∀ parent, self.findName name.dropLast = some parent →
      ∀ connectHandle attributeHandle,
        parent.2.isCumulativelySubscribed connectHandle attributeHandle = false) :
    (self.withObjectClass handleAllocator name
      objectClassHandle).InheritsSubscriptions := by
  have nodes := regular.nodes_withObjectClass handleAllocator name objectClassHandle
  refine ⟨?_, ?_⟩
  · intro node member parent above attributeHandle has
    rw [nodes.mem_iff, List.mem_append, List.mem_singleton] at member
    obtain old | rfl := member
    · exact inherits.attributes node old parent above attributeHandle has
    · cases found : self.findName name.dropLast with
      | none =>
          rw [found] at above
          cases above
      | some parentNode =>
          rw [found] at above
          cases above
          exact (hasAttribute_create _ _ _).trans has
  · intro connectHandle attributeHandle
    apply (inherits.totals connectHandle attributeHandle).append nodes
    have empty := create_empty name objectClassHandle
      ((self.findName name.dropLast).map (·.2))
    rw [isCumulativelySubscribed_eq, isSubscribed, any_eq_false_of_empty empty rfl,
      any_eq_false_of_empty empty rfl]
    cases found : self.findName name.dropLast with
    | none => rfl
    | some parentNode =>
        exact (congrArg (· || false)
          (nothing parentNode found connectHandle attributeHandle)).symm

/-! ## Who is subscribed while modules are inserted -/

/-- No class is gone, and a connect is in the cumulative sets it was in before. -/
def KeepsSubscribed (before after : ObjectClassTable) : Prop :=
  ∀ connectHandle attributeHandle,
    ClassTree.GainsNothing ObjectClass.name
      (isCumulativelySubscribed connectHandle attributeHandle) before.classes
      after.classes

theorem isCumulativelySubscribed_of_insertClassAttributeFor
    {definedBy : ObjectClassHandle} {connectHandle : ConnectHandle}
    {attributeHandle : AttributeHandle}
    (subscribed : (objectClass.insertClassAttributeFor definedBy
      definition).isCumulativelySubscribed connectHandle attributeHandle = true) :
    objectClass.isCumulativelySubscribed connectHandle attributeHandle = true := by
  rw [isCumulativelySubscribed_eq, publishSubscribe?_insertClassAttributeFor]
    at subscribed
  split at subscribed
  next => cases subscribed
  next => exact subscribed

theorem Grows.keepsSubscribed
    (grows : Grows objectClassHandle names start grown) :
    KeepsSubscribed start grown := by
  intro connectHandle attributeHandle
  induction grows with
  | refl => exact ClassTree.GainsNothing.refl start.classes
  | describe _ _ _ ih =>
      apply ih.trans
      apply ClassTree.gainsNothing_adjust
      · exact fun _ => rfl
      · exact fun _ => rfl
      · exact fun _ subscribed => subscribed
      · exact fun _ subscribed => subscribed
  | add _ _ _ _ _ ih =>
      apply ih.trans
      apply ClassTree.gainsNothing_adjust
      · exact fun _ => rfl
      · exact fun _ => rfl
      · exact fun _ => isCumulativelySubscribed_of_insertClassAttributeFor
      · exact fun _ => isCumulativelySubscribed_of_insertClassAttributeFor

theorem Regular.keepsSubscribed_withObjectClass
    (regular : self.Regular)
    (handleAllocator : HandleAllocator invalidHandle) (name : StringVector)
    (objectClassHandle : ObjectClassHandle) :
    KeepsSubscribed self
      (self.withObjectClass handleAllocator name objectClassHandle) := by
  intro connectHandle attributeHandle
  apply ClassTree.gainsNothing_append
    (regular.nodes_withObjectClass handleAllocator name objectClassHandle)
  rw [isCumulativelySubscribed_eq]
  exact any_eq_false_of_empty (create_empty _ _ _) rfl

variable {before after : ObjectClassInsertion}
variable {stringObjectClass : FOMStringObjectClass} {created : Bool}

/-! ## Entries -/

theorem Entered.keepsSubscribed
    (entered : Entered before stringObjectClass created after)
    (regular : before.Regular) :
    KeepsSubscribed before.toObjectClassTable after.toObjectClassTable := by
  cases entered with
  | established _ grows _ _ => exact grows.keepsSubscribed
  | new _ _ _ _ grows _ =>
      intro connectHandle attributeHandle
      exact (regular.keepsSubscribed_withObjectClass _ _ _ connectHandle
        attributeHandle).trans (grows.keepsSubscribed connectHandle attributeHandle)

theorem Entered.inheritsSubscriptions
    (entered : Entered before stringObjectClass created after)
    (regular : before.Regular) (inherits : before.InheritsSubscriptions)
    (nothing : before.findName stringObjectClass.name = none →
      ∀ parent ∈ before.classes.values,
        parent.name = stringObjectClass.name.dropLast →
      ∀ connectHandle attributeHandle,
        parent.isCumulativelySubscribed connectHandle attributeHandle = false)
    (free : ∀ parent ∈ before.classes.values,
      parent.name = stringObjectClass.name.dropLast →
      FreeHandles parent
        (before.attributeOutline.attributesOnPath stringObjectClass.name)
        ((before.attributeOutline.enter stringObjectClass).attributesOnPath
          stringObjectClass.name)) :
    after.InheritsSubscriptions := by
  have perm := entered.outline regular
  cases entered with
  | @established ancestors objectClass grown _ found grows _ _ =>
      obtain ⟨member, named⟩ := regular.findName_eq_some.mp found
      have foundHandle := regular.findHandle_eq_some.mpr ⟨member, rfl⟩
      obtain ⟨grownClass, grownFound, _, kept⟩ :=
        grows.inheritsSubscriptions regular inherits foundHandle
      obtain ⟨_, sameFound, sameName⟩ := grows.findHandle_name regular foundHandle
      obtain ⟨_, rfl⟩ := Prod.mk.inj (Option.some.inj (grownFound.symm.trans sameFound))
      have first := regular.attributesOnPath member
      have last := (grows.regular regular).attributesOnPath_enter perm grownFound
        (sameName.trans named)
      rw [named] at first
      rw [first, last] at free
      apply kept
      intro parent above
      cases ancestors with
      | nil => cases above
      | cons base further =>
          cases above
          apply free _
            (ClassTree.mem_values_of_mem_nodes (Forest.parent_mem_nodes member))
          rw [← named]
          exact (regular.tree.named _ member).2.symm
  | @new objectClassHandle handleAllocator grown unknown nonempty parent got grows _ =>
      have createdRegular := regular.withObjectClass unknown nonempty parent got
      have created := (regular.nodes_withObjectClass handleAllocator
        stringObjectClass.name objectClassHandle).mem_iff.mpr
          (List.mem_append_right _ (List.mem_singleton_self _))
      have found := createdRegular.findHandle_eq_some.mpr ⟨created, rfl⟩
      have unsubscribed : ∀ parent,
          before.findName stringObjectClass.name.dropLast = some parent →
          ∀ connectHandle attributeHandle,
            parent.2.isCumulativelySubscribed connectHandle attributeHandle = false := by
        intro parent parentFound
        obtain ⟨member, named⟩ := regular.findName_eq_some.mp parentFound
        exact nothing unknown parent.2 (ClassTree.mem_values_of_mem_nodes member) named
      obtain ⟨_, _, _, kept⟩ := grows.inheritsSubscriptions createdRegular
        (inherits.withObjectClass regular unsubscribed) found
      apply kept
      intro parent above count _ _ connectHandle
      cases parentFound : before.findName stringObjectClass.name.dropLast with
      | none =>
          rw [parentFound] at above
          cases above
      | some node =>
          rw [parentFound] at above
          cases above
          exact unsubscribed node parentFound connectHandle _

/-- All entries give new attributes handles under which nobody is subscribed at the
base class, as far as this is there at the start of the insertion. -/
def EntersFree (start : ObjectClassTable) :
    AttributeOutline → List FOMStringObjectClass → Prop
  | _, [] => True
  | outline, stringObjectClass :: rest =>
      (∀ parent ∈ start.classes.values,
        parent.name = stringObjectClass.name.dropLast →
        FreeHandles parent (outline.attributesOnPath stringObjectClass.name)
          ((outline.enter stringObjectClass).attributesOnPath
            stringObjectClass.name)) ∧
        EntersFree start (outline.enter stringObjectClass) rest

theorem entersFree_perm
    {outline other : AttributeOutline}
    (perm : outline.Perm other) (entries : List FOMStringObjectClass) :
    EntersFree start outline entries ↔ EntersFree start other entries := by
  induction entries generalizing outline other with
  | nil => exact Iff.rfl
  | cons entry rest ih =>
      have entered := AttributeOutline.enter_perm perm entry
      rw [EntersFree, EntersFree, AttributeOutline.attributesOnPath_perm perm,
        AttributeOutline.attributesOnPath_perm entered, ih entered]

/-- Entries create classes only directly below classes to no attribute of which a
connect is subscribed, there or at a base class. -/
def CreatesUnsubscribed
    (self : ObjectClassTable)
    (entries : List FOMStringObjectClass) : Prop :=
  ∀ connectHandle attributeHandle,
    ClassTree.CreatesWithout ObjectClass.name
      (isCumulativelySubscribed connectHandle attributeHandle) self.classes
      (entries.map FOMStringObjectClass.name)

/-- Entries of a module whose insertion has started with other classes. -/
theorem inheritsSubscriptions_runAny
    {dimensions : DimensionTable} {entries : List FOMStringObjectClass}
    (keeps : KeepsSubscribed start before.toObjectClassTable)
    (regular : before.Regular) (inherits : before.InheritsSubscriptions)
    (free : start.EntersFree before.attributeOutline entries)
    (unsubscribed : start.CreatesUnsubscribed entries)
    (ran : runAny (insertOrCheckObjectClass dimensions) entries before =
      .ok created after) :
    after.InheritsSubscriptions := by
  induction entries generalizing before created with
  | nil =>
      rw [runAny_nil, pure_eq_ok] at ran
      obtain ⟨_, rfl⟩ := ran
      exact inherits
  | cons entry rest ih =>
      obtain ⟨here, between, later, enteredEntry, others, _⟩ := runAny_cons_eq_ok.mp ran
      have entered := insertOrCheckObjectClass_ok regular enteredEntry
      refine ih ?_ (entered.regular regular)
        (entered.inheritsSubscriptions regular inherits ?_ ?_) ?_ ?_ others
      · intro connectHandle attributeHandle
        exact (keeps connectHandle attributeHandle).trans
          (entered.keepsSubscribed regular connectHandle attributeHandle)
      · intro unknown parent value named connectHandle attributeHandle
        exact (keeps connectHandle attributeHandle).without_of_createsWithout
          (unsubscribed connectHandle attributeHandle) List.mem_cons_self
          (findName_eq_none.mp unknown) value named
      · intro parent value named count below above connectHandle
        apply Bool.eq_false_iff.mpr
        intro subscribed
        obtain ⟨old, oldValue, sameName, oldSubscribed⟩ :=
          (keeps connectHandle _).had parent value subscribed
        have nobody := free.1 old oldValue (sameName.trans named) count below above
          connectHandle
        exact absurd oldSubscribed (Bool.eq_false_iff.mp nobody)
      · exact (entersFree_perm (entered.outline regular) rest).mpr free.2
      · intro connectHandle attributeHandle className listed
        exact unsubscribed connectHandle attributeHandle className
          (List.mem_cons_of_mem _ listed)

end ObjectClassTable
end ServerModel
end OpenRTI
