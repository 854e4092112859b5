import OpenRTI.ServerModel.InteractionClassGrowth

/-!
# Links of modules to interaction classes

Every interaction class is linked to a module, and to one that lists parameters
for it if it defines parameters.  So a module that has created nothing leaves
the interaction classes as they were when its links are removed again.
-/

namespace OpenRTI
namespace ServerModel

open Foundation
open Foundation.FailingState

namespace InteractionClassInsertion

open InteractionClassTable

/-- Every class is linked to the module that is inserted or to another one, and
so are its parameters if it defines some. -/
def Linked
    (classLinks parameterLinks : InteractionClassHandle → Bool)
    (self : InteractionClassInsertion) : Prop :=
  ClassTree.Linked InteractionClass.interactionClassHandle
    (fun interactionClass => interactionClass.parameterDefinitions ≠ [])
    (fun handle => classLinks handle = true ∨
      handle ∈ self.interactionClassModuleList)
    (fun handle => parameterLinks handle = true ∨
      handle ∈ self.parameterDefinitionModuleList)
    self.classes

variable {interactionClassHandle other : InteractionClassHandle}
variable {parameterList : List FOMStringParameter}
variable {self : InteractionClassInsertion}

theorem mem_linked_classes :
    other ∈ (self.linked interactionClassHandle
        parameterList).interactionClassModuleList ↔
      other ∈ self.interactionClassModuleList ∨
        other = interactionClassHandle := by
  simp [linked, linkedParameters, linkedClass]

theorem mem_linked_parameters :
    other ∈ (self.linked interactionClassHandle
        parameterList).parameterDefinitionModuleList ↔
      other ∈ self.parameterDefinitionModuleList ∨
        other = interactionClassHandle ∧
          parameterList.map FOMStringParameter.name ≠ [] := by
  rw [List.map_eq_nil_iff.ne, linked, linkedParameters, linkedClass]
  cases parameterList <;> simp

variable {classLinks parameterLinks : InteractionClassHandle → Bool}
variable {before : InteractionClassInsertion}

/-- Growth of a class and the links for it keep everything linked. -/
theorem Linked.grow
    (linked : before.Linked classLinks parameterLinks)
    {start grown : InteractionClassTable}
    (started : ∀ interactionClass ∈ start.classes.values,
      interactionClass ∈ before.classes.values ∨
        interactionClass.interactionClassHandle = interactionClassHandle ∧
          interactionClass.parameterDefinitions = [])
    (grows : Grows interactionClassHandle
      (parameterList.map FOMStringParameter.name) start grown) :
    ((before.withTable grown).linked interactionClassHandle
      parameterList).Linked classLinks parameterLinks := by
  have grownLinks :
      ClassTree.Linked InteractionClass.interactionClassHandle
        (fun interactionClass =>
          interactionClass.parameterDefinitions ≠ [])
        (fun other => (classLinks other = true ∨
            other ∈ before.interactionClassModuleList) ∨
          other = interactionClassHandle)
        (fun other => (parameterLinks other = true ∨
            other ∈ before.parameterDefinitionModuleList) ∨
          other = interactionClassHandle ∧
            parameterList.map FOMStringParameter.name ≠ [])
        grown.classes := by
    refine ClassTree.Linked.grow (fun interactionClass member => ?_)
      fun _ => grows.mem_values
    obtain old | ⟨new, none⟩ := started interactionClass member
    · exact Or.inr (linked interactionClass old)
    · exact Or.inl ⟨new, not_not.mpr none⟩
  refine grownLinks.mono (fun handle link => ?_) fun handle link => ?_
  · rwa [mem_linked_classes, ← or_assoc]
  · rwa [mem_linked_parameters, ← or_assoc]

variable {after : InteractionClassInsertion}
variable {stringInteractionClass : FOMStringInteractionClass} {created : Bool}

/-- A successful entry keeps everything linked. -/
theorem Linked.entered
    (linked : before.Linked classLinks parameterLinks)
    (regular : before.Regular)
    (entered : Entered before stringInteractionClass created after) :
    after.Linked classLinks parameterLinks := by
  cases entered with
  | established _ grows _ =>
      exact linked.grow (fun _ member => Or.inl member) grows
  | new _ _ _ _ grows =>
      refine linked.grow (fun _ member => ?_) grows
      obtain old | rfl :=
        regular.mem_values_withInteractionClass.mp member
      · exact Or.inl old
      · exact Or.inr ⟨rfl, rfl⟩

variable {dimensions : DimensionTable}
variable {entries : List FOMStringInteractionClass}

/-- Successful entries keep the tree regular and everything linked. -/
theorem Linked.runAny
    (regular : before.Regular)
    (linked : before.Linked classLinks parameterLinks)
    (ran : runAny (insertOrCheckInteractionClass dimensions) entries before =
      .ok created after) :
    after.Regular ∧ after.Linked classLinks parameterLinks := by
  refine runAny_invariant
    (fun insertion : InteractionClassInsertion =>
      insertion.Regular ∧ insertion.Linked classLinks parameterLinks)
    ?_ ⟨regular, linked⟩ ran
  rintro entry _ start result final ⟨startRegular, startLinked⟩ entered
  have effect := insertOrCheckInteractionClass_ok entered
  exact ⟨effect.regular startRegular,
    startLinked.entered startRegular effect⟩

/-! ## Modules that create nothing -/

/-- The links of entries that have created nothing. -/
structure Unchanged (before after : InteractionClassInsertion) : Prop where
  table : after.toInteractionClassTable = before.toInteractionClassTable
  classes : ∀ handle ∈ after.interactionClassModuleList,
    handle ∈ before.interactionClassModuleList ∨
      ∃ interactionClass ∈ before.classes.values,
        interactionClass.interactionClassHandle = handle
  parameters : ∀ handle ∈ after.parameterDefinitionModuleList,
    handle ∈ before.parameterDefinitionModuleList ∨
      ∃ interactionClass ∈ before.classes.values,
        interactionClass.interactionClassHandle = handle ∧
          interactionClass.parameterDefinitions ≠ []

theorem Unchanged.refl (self : InteractionClassInsertion) :
    Unchanged self self :=
  ⟨rfl, fun _ => Or.inl, fun _ => Or.inl⟩

theorem Unchanged.trans
    {first second third : InteractionClassInsertion}
    (left : Unchanged first second) (right : Unchanged second third) :
    Unchanged first third where
  table := right.table.trans left.table
  classes := by
    intro handle member
    obtain earlier | later := right.classes handle member
    · exact left.classes handle earlier
    · rw [left.table] at later
      exact Or.inr later
  parameters := by
    intro handle member
    obtain earlier | later := right.parameters handle member
    · exact left.parameters handle earlier
    · rw [left.table] at later
      exact Or.inr later

theorem Unchanged.entered
    (regular : before.Regular)
    (entered : Entered before stringInteractionClass false after) :
    Unchanged before after := by
  generalize nothing : false = created at entered
  cases entered with
  | new => cases nothing
  | @established ancestors interactionClass _ _ found grows unchanged =>
      obtain ⟨same, known⟩ := unchanged nothing.symm
      rw [same]
      obtain ⟨member, _⟩ := regular.find?_name_eq_some.mp found
      have value := ClassTree.mem_values_of_mem_nodes member
      have foundHandle : before.findHandle
          interactionClass.interactionClassHandle =
            some (ancestors, interactionClass) :=
        regular.find?_handle_eq_some.mpr ⟨member, rfl⟩
      refine ⟨rfl, ?_, ?_⟩
      · intro handle linked
        exact (mem_linked_classes.mp linked).imp_right fun same =>
          ⟨interactionClass, value, same.symm⟩
      · intro handle linked
        refine (mem_linked_parameters.mp linked).imp_right ?_
        rintro ⟨rfl, some⟩
        refine ⟨interactionClass, value, rfl, fun none => ?_⟩
        rw [List.map_eq_nil_iff.ne] at some
        obtain ⟨stringParameter, listed⟩ := List.exists_mem_of_ne_nil _ some
        apply known stringParameter listed
        rw [findParameterDefinition, foundHandle, Option.bind_some,
          InteractionClass.getParameterDefinition, none, List.find?_nil]

/-- Entries that have created nothing leave the classes as they were. -/
theorem Unchanged.runAny
    (regular : before.Regular)
    (ran : runAny (insertOrCheckInteractionClass dimensions) entries before =
      .ok false after) :
    Unchanged before after := by
  induction entries generalizing before with
  | nil =>
      rw [runAny_nil, pure_eq_ok] at ran
      exact ran.2 ▸ .refl before
  | cons entry rest ih =>
      obtain ⟨here, between, later, first, others, nothing⟩ :=
        runAny_cons_eq_ok.mp ran
      rw [eq_comm, Bool.or_eq_false_iff] at nothing
      rw [nothing.1] at first
      rw [nothing.2] at others
      have effect := insertOrCheckInteractionClass_ok first
      exact (Unchanged.entered regular effect).trans
        (ih (effect.regular regular) others)

end InteractionClassInsertion

namespace InteractionClassTable

variable {referenced : InteractionClassHandle → Bool}
variable {links : List InteractionClassHandle}

theorem eraseParameterLinks_of_referenced
    (all : ∀ handle ∈ links, referenced handle = true)
    (self : InteractionClassTable) :
    eraseParameterLinks referenced links self = self := by
  induction links with
  | nil => rfl
  | cons handle rest ih =>
      rw [List.forall_mem_cons] at all
      rw [eraseParameterLinks, all.1, Bool.true_or, if_pos rfl,
        ih all.2]

theorem eraseInteractionClassLinks_of_referenced
    (all : ∀ handle ∈ links, referenced handle = true)
    (self : InteractionClassTable) :
    eraseInteractionClassLinks referenced links self = .ok self := by
  induction links with
  | nil => rfl
  | cons handle rest ih =>
      rw [List.forall_mem_cons] at all
      rw [eraseInteractionClassLinks, all.1, Bool.true_or, if_pos rfl,
        ih all.2]

end InteractionClassTable
end ServerModel
end OpenRTI
