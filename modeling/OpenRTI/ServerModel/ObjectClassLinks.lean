import OpenRTI.ServerModel.ObjectClassGrowth

/-!
# Links of modules to object classes

Every object class is linked to a module, and to one that lists attributes for
it if it defines attributes.  So a module that has created nothing leaves the
object classes as they were when its links are removed again.
-/

namespace OpenRTI
namespace ServerModel

open Foundation
open Foundation.FailingState

variable {objectClassHandle : ObjectClassHandle}
variable {start grown : ObjectClassTable}

namespace ObjectClassTable

/-- Each class after growth was there before, and defines attributes only if it
did or some were listed for it. -/
theorem Grows.mem_values
    {names : List String}
    (grows : Grows objectClassHandle names start grown)
    {grownClass : ObjectClass}
    (member : grownClass ∈ grown.classes.values) :
    ∃ objectClass ∈ start.classes.values,
      objectClass.objectClassHandle = grownClass.objectClassHandle ∧
        (grownClass.attributeDefinitions ≠ [] →
          objectClass.attributeDefinitions ≠ [] ∨
            objectClass.objectClassHandle = objectClassHandle ∧
              names ≠ []) := by
  induction grows generalizing grownClass with
  | refl => exact ⟨grownClass, member, rfl, Or.inl⟩
  | describe _ _ describes ih =>
      obtain ⟨between, betweenMember, same⟩ :=
        ClassTree.mem_values_adjust member
      obtain ⟨objectClass, startMember, handle, defines⟩ :=
        ih betweenMember
      refine ⟨objectClass, startMember, ?_⟩
      obtain rfl | rfl | ⟨_, rfl⟩ := same
      · exact ⟨handle, defines⟩
      · exact ⟨handle, defines⟩
      · refine ⟨handle, fun some => defines ?_⟩
        exact mt (fun none => by
          rw [ObjectClass.modifyAttributeDefinition, none, List.map_nil]) some
  | add _ _ _ _ listed ih =>
      obtain ⟨between, betweenMember, same⟩ :=
        ClassTree.mem_values_adjust member
      obtain ⟨objectClass, startMember, handle, defines⟩ :=
        ih betweenMember
      refine ⟨objectClass, startMember, ?_⟩
      obtain rfl | rfl | ⟨here, rfl⟩ := same
      · exact ⟨handle, defines⟩
      · exact ⟨handle, defines⟩
      · exact ⟨handle, fun _ =>
          Or.inr ⟨handle.trans here, List.ne_nil_of_mem listed⟩⟩

end ObjectClassTable

namespace ObjectClassInsertion

open ObjectClassTable

/-- Every class is linked to the module that is inserted or to another one, and
so are its attributes if it defines some. -/
def Linked
    (classLinks attributeLinks : ObjectClassHandle → Bool)
    (self : ObjectClassInsertion) : Prop :=
  ClassTree.Linked ObjectClass.objectClassHandle
    (fun objectClass => objectClass.attributeDefinitions ≠ [])
    (fun handle => classLinks handle = true ∨
      handle ∈ self.objectClassModuleList)
    (fun handle => attributeLinks handle = true ∨
      handle ∈ self.attributeDefinitionModuleList)
    self.classes

variable {other : ObjectClassHandle} {attributeList : List FOMStringAttribute}
variable {self : ObjectClassInsertion}

theorem mem_linked_classes :
    other ∈ (self.linked objectClassHandle
        attributeList).objectClassModuleList ↔
      other ∈ self.objectClassModuleList ∨ other = objectClassHandle := by
  simp [linked]

theorem mem_linked_attributes :
    other ∈ (self.linked objectClassHandle
        attributeList).attributeDefinitionModuleList ↔
      other ∈ self.attributeDefinitionModuleList ∨
        other = objectClassHandle ∧
          attributeList.map FOMStringAttribute.name ≠ [] := by
  rw [List.map_eq_nil_iff.ne, linked]
  cases attributeList <;> simp

variable {classLinks attributeLinks : ObjectClassHandle → Bool}
variable {before : ObjectClassInsertion}

/-- Growth of a class and the links for it keep everything linked. -/
theorem Linked.grow
    (linked : before.Linked classLinks attributeLinks)
    (started : ∀ objectClass ∈ start.classes.values,
      objectClass ∈ before.classes.values ∨
        objectClass.objectClassHandle = objectClassHandle ∧
          objectClass.attributeDefinitions = [])
    (grows : Grows objectClassHandle
      (attributeList.map FOMStringAttribute.name) start grown) :
    ((before.withTable grown).linked objectClassHandle
      attributeList).Linked classLinks attributeLinks := by
  have grownLinks : ClassTree.Linked ObjectClass.objectClassHandle
      (fun objectClass => objectClass.attributeDefinitions ≠ [])
      (fun other => (classLinks other = true ∨
        other ∈ before.objectClassModuleList) ∨ other = objectClassHandle)
      (fun other => (attributeLinks other = true ∨
          other ∈ before.attributeDefinitionModuleList) ∨
        other = objectClassHandle ∧
          attributeList.map FOMStringAttribute.name ≠ [])
      grown.classes := by
    refine ClassTree.Linked.grow (fun objectClass member => ?_)
      fun _ => grows.mem_values
    obtain old | ⟨new, none⟩ := started objectClass member
    · exact Or.inr (linked objectClass old)
    · exact Or.inl ⟨new, not_not.mpr none⟩
  refine grownLinks.mono (fun handle link => ?_) fun handle link => ?_
  · rwa [mem_linked_classes, ← or_assoc]
  · rwa [mem_linked_attributes, ← or_assoc]

variable {after : ObjectClassInsertion}
variable {stringObjectClass : FOMStringObjectClass} {created : Bool}

/-- A successful entry keeps everything linked. -/
theorem Linked.entered
    (linked : before.Linked classLinks attributeLinks)
    (regular : before.Regular)
    (entered : Entered before stringObjectClass created after) :
    after.Linked classLinks attributeLinks := by
  cases entered with
  | established _ grows _ _ =>
      exact linked.grow (fun _ member => Or.inl member) grows
  | new _ _ _ _ grows _ =>
      refine linked.grow (fun _ member => ?_) grows
      obtain old | rfl := regular.mem_values_withObjectClass.mp member
      · exact Or.inl old
      · exact Or.inr ⟨rfl, rfl⟩

variable {dimensions : DimensionTable} {entries : List FOMStringObjectClass}

/-- Successful entries keep the tree regular and everything linked. -/
theorem Linked.runAny
    (regular : before.Regular)
    (linked : before.Linked classLinks attributeLinks)
    (ran : runAny (insertOrCheckObjectClass dimensions) entries before =
      .ok created after) :
    after.Regular ∧ after.Linked classLinks attributeLinks := by
  refine runAny_invariant
    (fun insertion : ObjectClassInsertion =>
      insertion.Regular ∧ insertion.Linked classLinks attributeLinks)
    ?_ ⟨regular, linked⟩ ran
  rintro entry _ start result final ⟨startRegular, startLinked⟩ entered
  have effect := insertOrCheckObjectClass_ok startRegular entered
  exact ⟨effect.regular startRegular, startLinked.entered startRegular effect⟩

/-! ## Modules that create nothing -/

/-- The links of entries that have created nothing. -/
structure Unchanged (before after : ObjectClassInsertion) : Prop where
  table : after.toObjectClassTable = before.toObjectClassTable
  classes : ∀ handle ∈ after.objectClassModuleList,
    handle ∈ before.objectClassModuleList ∨
      ∃ objectClass ∈ before.classes.values,
        objectClass.objectClassHandle = handle
  attributes : ∀ handle ∈ after.attributeDefinitionModuleList,
    handle ∈ before.attributeDefinitionModuleList ∨
      ∃ objectClass ∈ before.classes.values,
        objectClass.objectClassHandle = handle ∧
          objectClass.attributeDefinitions ≠ []

theorem Unchanged.refl (self : ObjectClassInsertion) :
    Unchanged self self :=
  ⟨rfl, fun _ => Or.inl, fun _ => Or.inl⟩

theorem Unchanged.trans
    {first second third : ObjectClassInsertion}
    (left : Unchanged first second) (right : Unchanged second third) :
    Unchanged first third where
  table := right.table.trans left.table
  classes := by
    intro handle member
    obtain earlier | later := right.classes handle member
    · exact left.classes handle earlier
    · rw [left.table] at later
      exact Or.inr later
  attributes := by
    intro handle member
    obtain earlier | later := right.attributes handle member
    · exact left.attributes handle earlier
    · rw [left.table] at later
      exact Or.inr later

theorem Unchanged.entered
    (regular : before.Regular)
    (entered : Entered before stringObjectClass false after) :
    Unchanged before after := by
  generalize nothing : false = created at entered
  cases entered with
  | new => cases nothing
  | @established ancestors objectClass _ _ found grows covered unchanged =>
      rw [unchanged nothing.symm] at covered ⊢
      obtain ⟨member, _⟩ := regular.findName_eq_some.mp found
      have value := ClassTree.mem_values_of_mem_nodes member
      rw [attributeNamesOf_of_findHandle
        (regular.findHandle_eq_some.mpr ⟨member, rfl⟩)] at covered
      refine ⟨rfl, ?_, ?_⟩
      · intro handle linked
        exact (mem_linked_classes.mp linked).imp_right fun same =>
          ⟨objectClass, value, same.symm⟩
      · intro handle linked
        refine (mem_linked_attributes.mp linked).imp_right ?_
        rintro ⟨rfl, some⟩
        refine ⟨objectClass, value, rfl, fun none => some ?_⟩
        rwa [ObjectClass.attributeNames, none, List.map_nil,
          List.subset_nil] at covered

/-- Entries that have created nothing leave the classes as they were. -/
theorem Unchanged.runAny
    (regular : before.Regular)
    (ran : runAny (insertOrCheckObjectClass dimensions) entries before =
      .ok false after) :
    Unchanged before after := by
  induction entries generalizing before with
  | nil =>
      rw [runAny_nil, pure_eq_ok] at ran
      exact ran.2 ▸ .refl before
  | cons entry rest ih =>
      obtain ⟨here, between, later, first, others, nothing⟩ :=
        runAny_cons_eq_ok.mp ran
      rw [eq_comm, Bool.or_eq_false_iff] at nothing
      rw [nothing.1] at first
      rw [nothing.2] at others
      have effect := insertOrCheckObjectClass_ok regular first
      exact (Unchanged.entered regular effect).trans
        (ih (effect.regular regular) others)

end ObjectClassInsertion

namespace ObjectClassTable

variable {referenced : ObjectClassHandle → Bool}
variable {links : List ObjectClassHandle}

theorem eraseAttributeLinks_of_referenced
    (all : ∀ handle ∈ links, referenced handle = true)
    (self : ObjectClassTable) :
    eraseAttributeLinks referenced links self = self := by
  induction links with
  | nil => rfl
  | cons handle rest ih =>
      rw [List.forall_mem_cons] at all
      rw [eraseAttributeLinks, all.1, Bool.true_or, if_pos rfl,
        ih all.2]

theorem eraseObjectClassLinks_of_referenced
    (all : ∀ handle ∈ links, referenced handle = true)
    (self : ObjectClassTable) :
    eraseObjectClassLinks referenced links self = .ok self := by
  induction links with
  | nil => rfl
  | cons handle rest ih =>
      rw [List.forall_mem_cons] at all
      rw [eraseObjectClassLinks, all.1, Bool.true_or, if_pos rfl,
        ih all.2]

end ObjectClassTable
end ServerModel
end OpenRTI
