import OpenRTI.ServerModel.AttributeHandleGrowth
import OpenRTI.ServerModel.FederationClasses

/-!
# Attribute handles over the insertions of modules

Whether the handles of all classes are distinct after modules were inserted depends on
the entries of the modules alone: on the attributes that each entry adds to a class
that is established, and on those that the classes derived from it define.
-/

namespace OpenRTI
namespace ServerModel

open Foundation
open Foundation.FailingState

variable {outline : AttributeOutline}

namespace AttributeOutline

/-- An entry adds attributes to an established class only if no class derived from it
defines attributes.  The attributes of the class and its base classes have a handle
each. -/
def KeepsHandles
    (outline : AttributeOutline)
    (stringObjectClass : FOMStringObjectClass) : Prop :=
  (∀ item ∈ outline, item.1 = stringObjectClass.name →
    stringObjectClass.attributeNames ⊆ item.2 ∨
      ∀ derived ∈ outline, stringObjectClass.name <+: derived.1 →
        derived.1 ≠ stringObjectClass.name → derived.2 = ∅) ∧
  (outline.enter stringObjectClass).attributesOnPath stringObjectClass.name ≤ 2 ^ 32

instance (outline : AttributeOutline) (stringObjectClass : FOMStringObjectClass) :
    Decidable (outline.KeepsHandles stringObjectClass) :=
  inferInstanceAs (Decidable (_ ∧ _))

/-- All entries keep the handles, each in the outline it comes to. -/
def HandlesKept : AttributeOutline → List FOMStringObjectClass → Prop
  | _, [] => True
  | outline, stringObjectClass :: rest =>
      outline.KeepsHandles stringObjectClass ∧
        HandlesKept (outline.enter stringObjectClass) rest

variable {other : AttributeOutline}

theorem keepsHandles_perm
    (perm : outline.Perm other) (stringObjectClass : FOMStringObjectClass) :
    outline.KeepsHandles stringObjectClass ↔ other.KeepsHandles stringObjectClass := by
  rw [KeepsHandles, KeepsHandles,
    attributesOnPath_perm (enter_perm perm stringObjectClass)]
  simp only [perm.mem_iff]

theorem enterAll_perm
    (perm : outline.Perm other) (entries : List FOMStringObjectClass) :
    (entries.foldl enter outline).Perm (entries.foldl enter other) := by
  induction entries generalizing outline other with
  | nil => exact perm
  | cons entry rest ih =>
      exact ih (enter_perm perm entry)

theorem handlesKept_perm
    (perm : outline.Perm other) (entries : List FOMStringObjectClass) :
    outline.HandlesKept entries ↔ other.HandlesKept entries := by
  induction entries generalizing outline other with
  | nil => exact Iff.rfl
  | cons entry rest ih =>
      rw [HandlesKept, HandlesKept, keepsHandles_perm perm,
        ih (enter_perm perm entry)]

theorem handlesKept_append
    (outline : AttributeOutline)
    (first second : List FOMStringObjectClass) :
    outline.HandlesKept (first ++ second) ↔
      outline.HandlesKept first ∧
        HandlesKept (first.foldl enter outline) second := by
  induction first generalizing outline with
  | nil => simp [HandlesKept]
  | cons entry rest ih =>
      rw [List.cons_append, HandlesKept, HandlesKept, ih,
        List.foldl_cons, and_assoc]

end AttributeOutline

namespace ObjectClassTable

variable {self : ObjectClassTable}

variable {ancestors : List ObjectClass} {objectClass : ObjectClass}

/-- What is defined below a class, seen in the outline. -/
theorem Regular.nothingBelow_iff
    (regular : self.Regular)
    (member : (ancestors, objectClass) ∈ self.classes.nodes) :
    self.NothingBelow objectClass.objectClassHandle ↔
      ∀ derived ∈ self.attributeOutline, objectClass.name <+: derived.1 →
        derived.1 ≠ objectClass.name → derived.2 = ∅ := by
  constructor
  · intro nothing derived inside isPrefix different
    obtain ⟨other, value, rfl⟩ := List.mem_map.mp inside
    obtain ⟨otherAncestors, otherMember⟩ := Forest.mem_values.mp value
    have onPath := (regular.tree.mem_path otherMember).mp
      ⟨ClassTree.mem_values_of_mem_nodes member, isPrefix⟩
    obtain rfl | above := List.mem_cons.mp onPath
    · exact absurd rfl different
    · have none := nothing _ otherMember (List.mem_map_of_mem above)
      dsimp only at none
      rw [ObjectClass.outline, ObjectClass.attributeNames, none]
      rfl
  · intro empty node nodeMember inside
    obtain ⟨ancestor, above, here⟩ := List.mem_map.mp inside
    obtain ⟨derivedAncestors, derived⟩ := node
    dsimp only at above
    obtain ⟨inner, outer, rfl⟩ := List.append_of_mem above
    have unique := regular.tree.node_eq_of_handle
      (Forest.ancestor_mem_nodes nodeMember) member here
    obtain ⟨rfl, rfl⟩ := Prod.mk.inj unique
    obtain ⟨isPrefix, different⟩ := regular.tree.ancestor_name nodeMember above
    have none := empty derived.outline
      (List.mem_map_of_mem (ClassTree.mem_values_of_mem_nodes nodeMember)) isPrefix
      (Ne.symm different)
    rw [ObjectClass.outline, List.toFinset_eq_empty_iff, ObjectClass.attributeNames,
      List.map_eq_nil_iff] at none
    exact none

/-! ## A new class -/

section NewClass

variable {handleAllocator : HandleAllocator invalidHandle} {name : StringVector}
variable {objectClassHandle : ObjectClassHandle}

/-- The handles of a new class are those of its parent. -/
theorem Dense.withObjectClass
    (dense : self.Dense) (regular : self.Regular) :
    (self.withObjectClass handleAllocator name objectClassHandle).Dense := by
  intro node member
  rw [(regular.nodes_withObjectClass handleAllocator name objectClassHandle).mem_iff,
    List.mem_append, List.mem_singleton] at member
  obtain old | rfl := member
  · exact dense node old
  · cases found : self.findName name.dropLast with
    | none => exact List.Perm.refl _
    | some parent =>
        obtain ⟨parentMember, _⟩ := regular.findName_eq_some.mp found
        have handles := parent.2.inheritedAttributes_handles.trans
          (dense parent parentMember)
        rw [ObjectClass.attributesOnPath_cons]
        exact (Nat.zero_add (ObjectClass.attributesOnPath (parent.2 :: parent.1))).symm ▸
          handles

theorem Bounded.withObjectClass
    (bounded : self.Bounded) (regular : self.Regular) :
    (self.withObjectClass handleAllocator name objectClassHandle).Bounded := by
  intro node member classAttribute inside
  rw [(regular.nodes_withObjectClass handleAllocator name objectClassHandle).mem_iff,
    List.mem_append, List.mem_singleton] at member
  obtain old | rfl := member
  · exact bounded node old classAttribute inside
  · cases found : self.findName name.dropLast with
    | none =>
        rw [found] at inside
        cases inside
    | some parent =>
        rw [found] at inside
        obtain ⟨parentMember, _⟩ := regular.findName_eq_some.mp found
        have inherited := parent.2.inheritedAttributes_perm.mem_iff.mp inside
        obtain ⟨original, originalInside, rfl⟩ := List.mem_map.mp inherited
        exact bounded parent parentMember original originalInside

theorem distinct_of_withObjectClass
    (regular : self.Regular)
    (distinct :
      (self.withObjectClass handleAllocator name objectClassHandle).Distinct) :
    self.Distinct := by
  intro node member
  apply distinct
  rw [(regular.nodes_withObjectClass handleAllocator name objectClassHandle).mem_iff]
  exact List.mem_append_left _ member

/-- Nothing is derived from a new class. -/
theorem Regular.nothingBelow_new
    (regular : self.Regular)
    (createdRegular :
      (self.withObjectClass handleAllocator name objectClassHandle).Regular)
    (unknown : self.findName name = none) :
    (self.withObjectClass handleAllocator name objectClassHandle).NothingBelow
      objectClassHandle := by
  have nodes := regular.nodes_withObjectClass handleAllocator name objectClassHandle
  have created := nodes.mem_iff.mpr
    (List.mem_append_right _ (List.mem_singleton_self _))
  rintro ⟨derivedAncestors, derived⟩ member inside
  obtain ⟨ancestor, above, here⟩ := List.mem_map.mp inside
  dsimp only at above
  obtain old | same := List.mem_append.mp (nodes.mem_iff.mp member)
  · obtain ⟨inner, outer, rfl⟩ := List.append_of_mem above
    have unique := createdRegular.tree.node_eq_of_handle
      (Forest.ancestor_mem_nodes member) created here
    have value := ClassTree.mem_values_of_mem_nodes (Forest.ancestor_mem_nodes old)
    rw [(Prod.mk.inj unique).2] at value
    exact absurd (List.mem_map_of_mem value) (findName_eq_none.mp unknown)
  · obtain ⟨rfl, rfl⟩ := Prod.mk.inj (List.mem_singleton.mp same)
    exact absurd here (createdRegular.tree.ancestor_handle member above)

end NewClass

/-! ## Entries -/

/-- What entries do to the handles of attributes.  Either all of them keep the handles,
which are then the numbers up to the number of attributes, or two attributes of a class
have the same handle. -/
structure Numbers
    (entries : List FOMStringObjectClass)
    (before after : ObjectClassTable) : Prop where
  regular : after.Regular
  bounded : after.Bounded
  outline : after.attributeOutline.Perm
    (entries.foldl AttributeOutline.enter before.attributeOutline)
  kept : after.Distinct → before.Distinct
  level : before.Dense →
    before.attributeOutline.HandlesKept entries ∧ after.Dense ∨
      ¬ before.attributeOutline.HandlesKept entries ∧ ¬ after.Distinct

theorem Numbers.refl (regular : self.Regular) (bounded : self.Bounded) :
    Numbers [] self self where
  regular := regular
  bounded := bounded
  outline := List.Perm.refl _
  kept distinct := distinct
  level dense := Or.inl ⟨trivial, dense⟩

theorem Numbers.trans
    {first second third : ObjectClassTable}
    {earlier later : List FOMStringObjectClass}
    (left : Numbers earlier first second)
    (right : Numbers later second third) :
    Numbers (earlier ++ later) first third where
  regular := right.regular
  bounded := right.bounded
  outline := by
    rw [List.foldl_append]
    exact right.outline.trans (AttributeOutline.enterAll_perm left.outline later)
  kept distinct := left.kept (right.kept distinct)
  level := by
    intro dense
    rw [AttributeOutline.handlesKept_append]
    obtain ⟨keeps, between⟩ | ⟨collides, between⟩ := left.level dense
    · have level := right.level between
      rw [AttributeOutline.handlesKept_perm left.outline] at level
      rw [and_iff_right keeps]
      exact level
    · refine Or.inr ⟨fun both => collides both.1, ?_⟩
      exact fun distinct => between (right.kept distinct)

variable {grown : ObjectClassTable} {stringObjectClass : FOMStringObjectClass}

/-- The outline counts the attributes of the class of an entry. -/
theorem Regular.attributesOnPath_enter
    (regular : grown.Regular)
    (perm : grown.attributeOutline.Perm (outline.enter stringObjectClass))
    {objectClassHandle : ObjectClassHandle} {grownClass : ObjectClass}
    (found : grown.findHandle objectClassHandle = some (ancestors, grownClass))
    (named : grownClass.name = stringObjectClass.name) :
    (outline.enter stringObjectClass).attributesOnPath stringObjectClass.name =
      ObjectClass.attributesOnPath (grownClass :: ancestors) := by
  rw [← AttributeOutline.attributesOnPath_perm perm, ← named]
  exact regular.attributesOnPath (regular.findHandle_eq_some.mp found).1

/-- A class that grows with nothing below it. -/
theorem Grows.level_of_nothingBelow
    {start : ObjectClassTable} {names : List String}
    {objectClassHandle : ObjectClassHandle}
    (grows : Grows objectClassHandle names start grown)
    (regular : start.Regular) (bounded : start.Bounded)
    (dense : start.Dense)
    (found : start.findHandle objectClassHandle = some (ancestors, objectClass))
    (named : objectClass.name = stringObjectClass.name)
    (perm : grown.attributeOutline.Perm (outline.enter stringObjectClass))
    (nothing : start.NothingBelow objectClassHandle)
    (harmless : ∀ item ∈ outline, item.1 = stringObjectClass.name →
      stringObjectClass.attributeNames ⊆ item.2 ∨
        ∀ derived ∈ outline, stringObjectClass.name <+: derived.1 →
          derived.1 ≠ stringObjectClass.name → derived.2 = ∅) :
    outline.KeepsHandles stringObjectClass ∧ grown.Dense ∨
      ¬ outline.KeepsHandles stringObjectClass ∧ ¬ grown.Distinct := by
  have room := bounded.attributesOnPath_le dense
    (regular.findHandle_eq_some.mp found).1
  obtain ⟨grownClass, grownFound, _, level⟩ :=
    grows.dense_or_full regular dense nothing room found
  obtain ⟨_, sameFound, sameName⟩ := grows.findHandle_name regular found
  obtain ⟨_, rfl⟩ := Prod.mk.inj (Option.some.inj (grownFound.symm.trans sameFound))
  have count := (grows.regular regular).attributesOnPath_enter perm grownFound
    (sameName.trans named)
  obtain ⟨small, grownDense⟩ | ⟨large, collides⟩ := level
  · exact Or.inl ⟨⟨harmless, count.trans_le small⟩, grownDense⟩
  · refine Or.inr ⟨?_, collides⟩
    rintro ⟨_, few⟩
    rw [count] at few
    omega

/-- A class that grows above one that defines attributes. -/
theorem Grows.level_of_below
    {before : ObjectClassTable}
    (grows : Grows objectClass.objectClassHandle
      (stringObjectClass.attributeList.map FOMStringAttribute.name) before grown)
    (covered : stringObjectClass.attributeList.map FOMStringAttribute.name ⊆
      grown.attributeNamesOf objectClass.objectClassHandle)
    (regular : before.Regular) (bounded : before.Bounded)
    (dense : before.Dense)
    (found : before.findHandle objectClass.objectClassHandle =
      some (ancestors, objectClass))
    (named : objectClass.name = stringObjectClass.name)
    (perm : grown.attributeOutline.Perm
      (before.attributeOutline.enter stringObjectClass))
    (below : ¬ before.NothingBelow objectClass.objectClassHandle) :
    before.attributeOutline.KeepsHandles stringObjectClass ∧ grown.Dense ∨
      ¬ before.attributeOutline.KeepsHandles stringObjectClass ∧
        ¬ grown.Distinct := by
  obtain ⟨member, _⟩ := regular.findHandle_eq_some.mp found
  obtain ⟨grownClass, grownFound, level⟩ :=
    grows.dense_or_new regular dense below found
  obtain ⟨_, sameFound, sameName⟩ := grows.findHandle_name regular found
  obtain ⟨_, rfl⟩ := Prod.mk.inj (Option.some.inj (grownFound.symm.trans sameFound))
  obtain ⟨_, boundedFound, _, limited⟩ := grows.findHandle regular found
  obtain ⟨_, rfl⟩ := Prod.mk.inj (Option.some.inj (grownFound.symm.trans boundedFound))
  have grownRegular := grows.regular regular
  have count := grownRegular.attributesOnPath_enter perm grownFound
    (sameName.trans named)
  rw [attributeNamesOf_of_findHandle grownFound] at covered
  have item : objectClass.outline ∈ before.attributeOutline :=
    List.mem_map_of_mem (ClassTree.mem_values_of_mem_nodes member)
  obtain ⟨subset, same⟩ | ⟨new, collides⟩ := level
  · have grownDense : grown.Dense :=
      dense_iff_numberings.mpr (same ▸ dense_iff_numberings.mp dense)
    have few := (grows.bounded bounded).attributesOnPath_le grownDense
      (grownRegular.findHandle_eq_some.mp grownFound).1
    refine Or.inl ⟨⟨?_, count.trans_le few⟩, grownDense⟩
    intro other inside sameClass
    refine Or.inl ?_
    obtain ⟨otherClass, value, rfl⟩ := List.mem_map.mp inside
    obtain ⟨otherAncestors, otherMember⟩ := Forest.mem_values.mp value
    have unique := regular.tree.node_eq_of_name otherMember member
      (sameClass.trans named.symm)
    rw [(Prod.mk.inj unique).2]
    intro attributeName listed
    rw [FOMStringObjectClass.attributeNames, List.mem_toFinset] at listed
    exact List.mem_toFinset.mpr (subset (covered listed))
  · refine Or.inr ⟨?_, collides⟩
    rintro ⟨harmless, _⟩
    obtain known | empty := harmless _ item named
    · apply new
      intro attributeName inside
      obtain old | listed := List.mem_append.mp (limited inside)
      · exact old
      · exact List.mem_toFinset.mp (known (List.mem_toFinset.mpr listed))
    · rw [← named] at empty
      exact below ((regular.nothingBelow_iff member).mpr empty)

/-- What a successful entry of a module does to the handles. -/
theorem Entered.numbers
    {before after : ObjectClassInsertion} {created : Bool}
    (entered : Entered before stringObjectClass created after)
    (regular : before.Regular) (bounded : before.Bounded) :
    Numbers [stringObjectClass] before.toObjectClassTable
      after.toObjectClassTable := by
  have perm := entered.outline regular
  have afterRegular := entered.regular regular
  have keptIff : before.attributeOutline.HandlesKept [stringObjectClass] ↔
      before.attributeOutline.KeepsHandles stringObjectClass :=
    iff_of_eq (and_true _)
  cases entered with
  | @established ancestors objectClass grown _ found grows covered _ =>
      obtain ⟨member, named⟩ := regular.findName_eq_some.mp found
      have foundHandle := regular.findHandle_eq_some.mpr ⟨member, rfl⟩
      refine ⟨afterRegular, grows.bounded bounded, perm, grows.distinct_of_grown, ?_⟩
      intro dense
      rw [keptIff]
      by_cases nothing : before.NothingBelow objectClass.objectClassHandle
      · refine grows.level_of_nothingBelow regular bounded dense foundHandle named perm
          nothing ?_
        intro item _ _
        have empty := (regular.nothingBelow_iff member).mp nothing
        rw [named] at empty
        exact Or.inr empty
      · exact grows.level_of_below covered regular bounded dense foundHandle named perm
          nothing
  | @new objectClassHandle handleAllocator grown unknown nonempty parent got grows
      covered =>
      have createdRegular := regular.withObjectClass unknown nonempty parent got
      have created := (regular.nodes_withObjectClass handleAllocator
        stringObjectClass.name objectClassHandle).mem_iff.mpr
          (List.mem_append_right _ (List.mem_singleton_self _))
      have found := createdRegular.findHandle_eq_some.mpr ⟨created, rfl⟩
      refine ⟨afterRegular, grows.bounded (bounded.withObjectClass regular), perm,
        fun distinct => distinct_of_withObjectClass regular
          (grows.distinct_of_grown distinct), ?_⟩
      intro dense
      rw [keptIff]
      refine grows.level_of_nothingBelow createdRegular
        (bounded.withObjectClass regular) (dense.withObjectClass regular) found rfl perm
        (regular.nothingBelow_new createdRegular unknown) ?_
      intro item inside sameName
      obtain ⟨other, value, rfl⟩ := List.mem_map.mp inside
      have known : stringObjectClass.name ∈
          before.classes.values.map ObjectClass.name :=
        sameName ▸ List.mem_map_of_mem value
      exact absurd known (findName_eq_none.mp unknown)

theorem numbers_runAny
    {dimensions : DimensionTable} {entries : List FOMStringObjectClass}
    {before after : ObjectClassInsertion} {created : Bool}
    (regular : before.Regular) (bounded : before.Bounded)
    (ran : runAny (insertOrCheckObjectClass dimensions) entries before =
      .ok created after) :
    Numbers entries before.toObjectClassTable after.toObjectClassTable := by
  induction entries generalizing before created with
  | nil =>
      rw [runAny_nil, pure_eq_ok] at ran
      obtain ⟨_, rfl⟩ := ran
      exact Numbers.refl regular bounded
  | cons entry rest ih =>
      obtain ⟨here, between, later, entered, others, _⟩ := runAny_cons_eq_ok.mp ran
      have first := (insertOrCheckObjectClass_ok regular entered).numbers regular bounded
      exact first.trans (ih first.regular first.bounded others)

end ObjectClassTable

/-! ## Modules -/

namespace Federation

open ObjectClassTable

/-- Modules that are inserted into a federation, as long as this succeeds. -/
def moduleInsertions : TransitionSystem Federation FOMStringModule2 where
  initial := {}
  next self stringModule :=
    match insert stringModule self with
    | .ok _ after => some after
    | .error _ _ => none

theorem moduleInsertions_next
    {before after : Federation} {stringModule : FOMStringModule2}
    (stepped : moduleInsertions.next before stringModule = some after) :
    ∃ result, insert stringModule before = .ok result after := by
  cases inserted : insert stringModule before with
  | ok result final =>
      rw [moduleInsertions] at stepped
      simp only [inserted, Option.some.injEq] at stepped
      exact ⟨result, congrArg _ stepped⟩
  | error failure final =>
      rw [moduleInsertions] at stepped
      simp [inserted] at stepped

/-- The entries of all modules are entered one after the other. -/
theorem numbers_run
    {stringModules : List FOMStringModule2} {before final : Federation}
    (regular : before.ClassesRegular)
    (bounded : before.objectClasses.Bounded)
    (ran : moduleInsertions.run before stringModules = some final) :
    Numbers (stringModules.flatMap FOMStringModule2.objectClassList)
      before.objectClasses final.objectClasses := by
  induction stringModules generalizing before with
  | nil =>
      rw [TransitionSystem.run_nil, Option.some.injEq] at ran
      exact ran ▸ Numbers.refl regular.objectClasses bounded
  | cons stringModule rest ih =>
      rw [TransitionSystem.run_cons] at ran
      obtain ⟨between, stepped, later⟩ := Option.bind_eq_some_iff.mp ran
      obtain ⟨_, inserted⟩ := moduleInsertions_next stepped
      obtain ⟨betweenRegular, effect⟩ := regular.insert inserted
      obtain ⟨dimensions, created, after, entered, same⟩ := effect.objectClasses
      have first := @numbers_runAny _ _ ⟨before.objectClasses, [], []⟩ _ _
        regular.objectClasses bounded entered
      rw [← same] at first
      exact first.trans (ih betweenRegular first.bounded later)

/-- After modules were inserted the handles of all classes are distinct, and identify
the attributes, exactly if all entries for classes keep the handles. -/
theorem attributeHandles_identify_iff
    {stringModules : List FOMStringModule2}
    {final : Federation}
    (ran : moduleInsertions.run moduleInsertions.initial stringModules = some final) :
    (∀ objectClass ∈ final.objectClasses.classes.values,
      objectClass.HandlesIdentify) ↔
      AttributeOutline.HandlesKept []
        (stringModules.flatMap FOMStringModule2.objectClassList) := by
  have empty : ({} : ObjectClassTable).Dense := by
    intro node member
    cases member
  have numbers := numbers_run ClassesRegular.initial
    (fun node member => by cases member) ran
  have distinct : (∀ objectClass ∈ final.objectClasses.classes.values,
      objectClass.HandlesIdentify) ↔ final.objectClasses.Distinct := by
    constructor
    · intro identify node member
      exact (identify node.2 (List.mem_map_of_mem member)).distinct
    · intro distinct objectClass value
      obtain ⟨ancestors, member⟩ := Forest.mem_values.mp value
      exact objectClass.handlesIdentify_iff.mpr (distinct _ member)
  rw [distinct]
  obtain ⟨keeps, dense⟩ | ⟨collides, same⟩ := numbers.level empty
  · exact iff_of_true dense.distinct keeps
  · exact iff_of_false same collides

/-- The object model of an example: a class and one derived from it, with one attribute
each, and an attribute that another module adds to a class. -/
def exampleObjectModel (extended : StringVector) : List FOMStringModule2 :=
  [{ objectClassList :=
      [⟨["Root"], [⟨"id", "", "receive", "HLAreliable", []⟩]⟩,
        ⟨["Root", "Leaf"], [⟨"size", "", "receive", "HLAreliable", []⟩]⟩] },
    { objectClassList :=
      [⟨extended, [⟨"color", "", "receive", "HLAreliable", []⟩]⟩] }]

/-- The attribute is added to the derived class. -/
theorem attributeHandles_identify_leaf :
    ∃ final,
      moduleInsertions.run moduleInsertions.initial
        (exampleObjectModel ["Root", "Leaf"]) = some final ∧
      ∀ objectClass ∈ final.objectClasses.classes.values,
        objectClass.HandlesIdentify := by
  have succeeds : (moduleInsertions.run moduleInsertions.initial
      (exampleObjectModel ["Root", "Leaf"])).isSome = true := by decide +kernel
  obtain ⟨final, ran⟩ := Option.isSome_iff_exists.mp succeeds
  refine ⟨final, ran, (attributeHandles_identify_iff ran).mpr ?_⟩
  change _ ∧ _ ∧ _ ∧ True
  decide +kernel

/-- The attribute is added above the derived class, and gets the handle of the attribute
that this class defines. -/
theorem attributeHandles_identify_fails :
    ¬ ∀ (stringModules : List FOMStringModule2) (final : Federation),
      moduleInsertions.run moduleInsertions.initial stringModules = some final →
      ∀ objectClass ∈ final.objectClasses.classes.values,
        objectClass.HandlesIdentify := by
  intro all
  have handles : (moduleInsertions.run moduleInsertions.initial
      (exampleObjectModel ["Root"])).map (fun final =>
        final.objectClasses.classes.values.map fun objectClass =>
          objectClass.classAttributes.map ClassAttribute.attributeHandle) =
      some [[0, 1], [0, 1, 1]] := by decide +kernel
  obtain ⟨final, ran, handles⟩ := Option.map_eq_some_iff.mp handles
  have twice : [0, 1, 1] ∈ final.objectClasses.classes.values.map fun objectClass =>
      objectClass.classAttributes.map ClassAttribute.attributeHandle := by
    rw [handles]
    exact List.mem_cons_of_mem _ (List.mem_singleton_self _)
  obtain ⟨objectClass, value, same⟩ := List.mem_map.mp twice
  have distinct := (all _ final ran objectClass value).distinct
  rw [same] at distinct
  exact absurd distinct (by decide)

end Federation
end ServerModel
end OpenRTI
