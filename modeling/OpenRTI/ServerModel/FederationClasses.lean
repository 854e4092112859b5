import OpenRTI.ServerModel.Federation
import OpenRTI.ServerModel.InteractionClassLinks
import OpenRTI.ServerModel.ObjectClassLinks

/-!
# The classes of a federation over its runs

What the successful insertion of a module does to the classes of the federation
is what its entries do to them, also if the module is erased again because it
has created nothing.  Handles and names identify classes in every state, and
every class is linked to a module of the federation.
-/

namespace OpenRTI
namespace ServerModel

open Foundation
open Foundation.FailingState

variable {created : Bool} {stringModule : FOMStringModule2}

namespace ModuleInsertion

/-- The classes with the links to them, and the other modules. -/
def classPart (self : ModuleInsertion) :
    InteractionClassInsertion × ObjectClassInsertion × List Module :=
  (self.interactionClassInsertion, self.objectClassInsertion,
    self.federation.modules)

variable {before after : ModuleInsertion}

/-- Named entities are inserted without touching the classes. -/
theorem insertEntities_ok
    {δ φ : Type} {table : Federation → EntityTable δ}
    {replaceTable : EntityTable δ → Federation → Federation}
    {links : Module → List Nat} {replaceLinks : List Nat → Module → Module}
    {insertOrCheck : φ → EStateM Failure (EntityInsertion δ) Bool}
    {entries : List φ}
    (keeps : ∀ entities links self,
      classPart
          { federation := replaceTable entities self.federation
            module := replaceLinks links self.module } =
        classPart self)
    (ran : insertEntities table replaceTable links replaceLinks insertOrCheck
      entries before = .ok created after) :
    after.classPart = before.classPart := by
  obtain ⟨inserted, _, rfl⟩ := zoom_eq_ok.mp ran
  exact keeps inserted.table inserted.moduleList before

theorem insertInteractionClasses_ok
    {entries : List FOMStringInteractionClass}
    (ran : insertInteractionClasses entries before = .ok created after) :
    ∃ dimensions inserted,
      runAny (insertOrCheckInteractionClass dimensions) entries
          before.interactionClassInsertion = .ok created inserted ∧
        after.classPart = (inserted, before.classPart.2) := by
  rw [insertInteractionClasses, bind_eq_ok] at ran
  obtain ⟨_, _, got, ran⟩ := ran
  obtain ⟨rfl, rfl⟩ := get_eq_ok.mp got
  obtain ⟨inserted, entered, rfl⟩ := zoom_eq_ok.mp ran
  exact ⟨_, inserted, entered, rfl⟩

theorem insertObjectClasses_ok
    {entries : List FOMStringObjectClass}
    (ran : insertObjectClasses entries before = .ok created after) :
    ∃ dimensions inserted,
      runAny (insertOrCheckObjectClass dimensions) entries
          before.objectClassInsertion = .ok created inserted ∧
        after.classPart =
          (before.classPart.1, inserted, before.classPart.2.2) := by
  rw [insertObjectClasses, bind_eq_ok] at ran
  obtain ⟨_, _, got, ran⟩ := ran
  obtain ⟨rfl, rfl⟩ := get_eq_ok.mp got
  obtain ⟨inserted, entered, rfl⟩ := zoom_eq_ok.mp ran
  exact ⟨_, inserted, entered, rfl⟩

/-- What the entries of a module have done to the classes. -/
structure ClassesEntered
    (stringModule : FOMStringModule2)
    (before : ModuleInsertion)
    (created : Bool)
    (after : ModuleInsertion) : Prop where
  interactionClasses : ∃ dimensions here,
    runAny (insertOrCheckInteractionClass dimensions)
        stringModule.interactionClassList
        before.interactionClassInsertion =
          .ok here after.interactionClassInsertion ∧
      (created = false → here = false)
  objectClasses : ∃ dimensions here,
    runAny (insertOrCheckObjectClass dimensions)
        stringModule.objectClassList before.objectClassInsertion =
          .ok here after.objectClassInsertion ∧
      (created = false → here = false)
  modules : after.federation.modules = before.federation.modules

theorem insertEntries_ok
    (ran : insertEntries stringModule before = .ok created after) :
    ClassesEntered stringModule before created after := by
  simp only [insertEntries, bind_eq_ok, pure_eq_ok] at ran
  obtain ⟨dimension, _, dimensions, updateRate, _, updateRates,
    interactionClass, _, interactionClasses, objectClass, _, objectClasses,
    basic, _, basics, simple, _, simples, enumerated, _, enumerateds, array,
    _, arrays, fixedRecord, _, fixedRecords, variantRecord, _,
    variantRecords, rfl, rfl⟩ := ran
  have first := (insertEntities_ok (fun _ _ _ => rfl) updateRates).trans
    (insertEntities_ok (fun _ _ _ => rfl) dimensions)
  obtain ⟨interactionDimensions, interactionInserted, interactionRan,
    second⟩ := insertInteractionClasses_ok interactionClasses
  obtain ⟨objectDimensions, objectInserted, objectRan, third⟩ :=
    insertObjectClasses_ok objectClasses
  have rest := (((((insertEntities_ok (fun _ _ _ => rfl) variantRecords).trans
    (insertEntities_ok (fun _ _ _ => rfl) fixedRecords)).trans
    (insertEntities_ok (fun _ _ _ => rfl) arrays)).trans
    (insertEntities_ok (fun _ _ _ => rfl) enumerateds)).trans
    (insertEntities_ok (fun _ _ _ => rfl) simples)).trans
    (insertEntities_ok (fun _ _ _ => rfl) basics)
  rw [third, second, first] at rest
  simp only [classPart, Prod.mk.injEq] at first second rest
  rw [first.1] at interactionRan
  rw [second.2.1, first.2.1] at objectRan
  refine ⟨⟨interactionDimensions, interactionClass, ?_, ?_⟩,
    ⟨objectDimensions, objectClass, ?_, ?_⟩, rest.2.2⟩
  · rw [rest.1]
    exact interactionRan
  · simp +contextual
  · rw [rest.2.1]
    exact objectRan
  · simp +contextual

end ModuleInsertion

namespace Federation

/-- Handles and names identify classes, and every class is linked to a
module. -/
structure ClassesRegular (federation : Federation) : Prop where
  interactionClasses : federation.interactionClasses.Regular
  interactionLinks :
    ClassTree.Linked InteractionClass.interactionClassHandle
      (fun interactionClass => interactionClass.parameterDefinitions ≠ [])
      (fun handle => federation.references
        Module.interactionClassModuleList handle = true)
      (fun handle => federation.references
        Module.parameterDefinitionModuleList handle = true)
      federation.interactionClasses.classes
  objectClasses : federation.objectClasses.Regular
  objectLinks :
    ClassTree.Linked ObjectClass.objectClassHandle
      (fun objectClass => objectClass.attributeDefinitions ≠ [])
      (fun handle => federation.references
        Module.objectClassModuleList handle = true)
      (fun handle => federation.references
        Module.attributeDefinitionModuleList handle = true)
      federation.objectClasses.classes

theorem ClassesRegular.initial : ClassesRegular {} where
  interactionClasses := .initial
  interactionLinks := by
    simp [ClassTree.Linked, Forest.values, Forest.nodes, Forest.nodesBelow]
  objectClasses := .initial
  objectLinks := by
    simp [ClassTree.Linked, Forest.values, Forest.nodes, Forest.nodesBelow]

/-- What a successful insertion of a module does to the classes. -/
structure ClassesInserted
    (stringModule : FOMStringModule2)
    (before after : Federation) : Prop where
  interactionClasses : ∃ dimensions created inserted,
    runAny (insertOrCheckInteractionClass dimensions)
        stringModule.interactionClassList
        ⟨before.interactionClasses, [], []⟩ = .ok created inserted ∧
      after.interactionClasses = inserted.toInteractionClassTable
  objectClasses : ∃ dimensions created inserted,
    runAny (insertOrCheckObjectClass dimensions)
        stringModule.objectClassList ⟨before.objectClasses, [], []⟩ =
          .ok created inserted ∧
      after.objectClasses = inserted.toObjectClassTable

variable {federation : Federation}

theorem references_append
    {modules : List Module} {module : Module}
    (same : federation.modules = modules ++ [module])
    (links : Module → List Nat) (handle : Nat) :
    federation.references links handle = true ↔
      (modules.any fun other => (links other).contains handle) = true ∨
        handle ∈ links module := by
  rw [references, same, List.any_append, Bool.or_eq_true]
  simp

/-- The insertion of a module starts with everything linked. -/
theorem ClassesRegular.interactionLinked
    (regular : federation.ClassesRegular) :
    InteractionClassInsertion.Linked
      (federation.references Module.interactionClassModuleList)
      (federation.references Module.parameterDefinitionModuleList)
      ⟨federation.interactionClasses, [], []⟩ :=
  regular.interactionLinks.mono (fun _ => Or.inl) fun _ => Or.inl

theorem ClassesRegular.objectLinked
    (regular : federation.ClassesRegular) :
    ObjectClassInsertion.Linked
      (federation.references Module.objectClassModuleList)
      (federation.references Module.attributeDefinitionModuleList)
      ⟨federation.objectClasses, [], []⟩ :=
  regular.objectLinks.mono (fun _ => Or.inl) fun _ => Or.inl

variable {before : Federation} {inserted : ModuleInsertion}

/-- A module that has created something stays. -/
theorem ClassesRegular.keepModule
    {moduleHandle : ModuleHandle}
    (regular : before.ClassesRegular)
    (entered : ModuleInsertion.ClassesEntered stringModule
      (before.startInsertion stringModule moduleHandle) created inserted) :
    ClassesRegular { inserted.federation with
      modules := inserted.federation.modules ++ [inserted.module] } := by
  obtain ⟨_, _, interactionRan, _⟩ := entered.interactionClasses
  obtain ⟨_, _, objectRan, _⟩ := entered.objectClasses
  obtain ⟨interactionRegular, interactionLinked⟩ :=
    InteractionClassInsertion.Linked.runAny regular.interactionClasses
      regular.interactionLinked interactionRan
  obtain ⟨objectRegular, objectLinked⟩ :=
    ObjectClassInsertion.Linked.runAny regular.objectClasses
      regular.objectLinked objectRan
  refine ⟨interactionRegular, interactionLinked.mono ?_ ?_, objectRegular,
    objectLinked.mono ?_ ?_⟩
  all_goals
    intro handle link
    rw [references_append rfl, entered.modules]
    exact link

variable {after : Federation}

section

variable (regular : before.ClassesRegular)
include regular

theorem ClassesRegular.congr
    (interactionClasses :
      after.interactionClasses = before.interactionClasses)
    (objectClasses : after.objectClasses = before.objectClasses)
    (modules : after.modules = before.modules) :
    after.ClassesRegular := by
  have references : ∀ links, after.references links =
      before.references links := by
    intro links
    funext handle
    rw [Federation.references, Federation.references, modules]
  constructor
  · rw [interactionClasses]
    exact regular.interactionClasses
  · rw [interactionClasses, references, references]
    exact regular.interactionLinks
  · rw [objectClasses]
    exact regular.objectClasses
  · rw [objectClasses, references, references]
    exact regular.objectLinks

/-- Links to classes that other modules refer to are removed without any
effect. -/
theorem erasedInteractionClasses_eq
    (modules : inserted.federation.modules = before.modules)
    (unchanged : InteractionClassInsertion.Unchanged
      ⟨before.interactionClasses, [], []⟩
      inserted.interactionClassInsertion) :
    inserted.erasedInteractionClasses = .ok before.interactionClasses := by
  have table : inserted.federation.interactionClasses =
      before.interactionClasses := unchanged.table
  have references : ∀ links, inserted.federation.references links =
      before.references links := by
    intro links
    funext handle
    rw [Federation.references, Federation.references, modules]
  rw [ModuleInsertion.erasedInteractionClasses, references, references,
    InteractionClassTable.eraseParameterLinks_of_referenced, table]
  · apply InteractionClassTable.eraseInteractionClassLinks_of_referenced
    intro handle member
    obtain nothing | ⟨interactionClass, value, rfl⟩ :=
      unchanged.classes handle (List.mem_reverse.mp member)
    · cases nothing
    · rw [(regular.interactionLinks interactionClass value).1,
        Bool.true_or]
  · intro handle member
    obtain nothing | ⟨interactionClass, value, rfl, defines⟩ :=
      unchanged.parameters handle (List.mem_reverse.mp member)
    · cases nothing
    · exact (regular.interactionLinks interactionClass value).2 defines

theorem erasedObjectClasses_eq
    (modules : inserted.federation.modules = before.modules)
    (unchanged : ObjectClassInsertion.Unchanged
      ⟨before.objectClasses, [], []⟩ inserted.objectClassInsertion) :
    inserted.erasedObjectClasses = .ok before.objectClasses := by
  have table : inserted.federation.objectClasses = before.objectClasses :=
    unchanged.table
  have references : ∀ links, inserted.federation.references links =
      before.references links := by
    intro links
    funext handle
    rw [Federation.references, Federation.references, modules]
  rw [ModuleInsertion.erasedObjectClasses, references, references,
    ObjectClassTable.eraseAttributeLinks_of_referenced, table]
  · apply ObjectClassTable.eraseObjectClassLinks_of_referenced
    intro handle member
    obtain nothing | ⟨objectClass, value, rfl⟩ :=
      unchanged.classes handle (List.mem_reverse.mp member)
    · cases nothing
    · rw [(regular.objectLinks objectClass value).1, Bool.true_or]
  · intro handle member
    obtain nothing | ⟨objectClass, value, rfl, defines⟩ :=
      unchanged.attributes handle (List.mem_reverse.mp member)
    · cases nothing
    · exact (regular.objectLinks objectClass value).2 defines

/-- A module that has created nothing leaves the classes as they were. -/
theorem ClassesRegular.eraseModule
    {moduleHandle : ModuleHandle}
    (entered : ModuleInsertion.ClassesEntered stringModule
      (before.startInsertion stringModule moduleHandle) false inserted)
    (erased : inserted.erase = .ok after) :
    after.interactionClasses = before.interactionClasses ∧
      after.objectClasses = before.objectClasses ∧
      after.modules = before.modules := by
  obtain ⟨_, _, interactionRan, interactionNothing⟩ :=
    entered.interactionClasses
  obtain ⟨_, _, objectRan, objectNothing⟩ := entered.objectClasses
  rw [interactionNothing rfl] at interactionRan
  rw [objectNothing rfl] at objectRan
  have interactionSame :=
    InteractionClassInsertion.Unchanged.runAny regular.interactionClasses
      interactionRan
  have objectSame :=
    ObjectClassInsertion.Unchanged.runAny regular.objectClasses objectRan
  have interactionErased :=
    erasedInteractionClasses_eq regular entered.modules interactionSame
  have objectErased :=
    erasedObjectClasses_eq regular entered.modules objectSame
  rw [ModuleInsertion.erase, interactionErased, objectErased] at erased
  cases erased
  exact ⟨rfl, rfl, entered.modules⟩

/-- What a successful insertion does to the classes, and that it keeps them
regular. -/
theorem ClassesRegular.insert
    {result : Option ModuleHandle}
    (ran : Federation.insert stringModule before = .ok result after) :
    after.ClassesRegular ∧ ClassesInserted stringModule before after := by
  simp only [Federation.insert, bind_eq_ok, zoom_eq_ok] at ran
  obtain ⟨moduleHandle, _, ⟨allocator, _, rfl⟩, _, _, got, ran⟩ := ran
  obtain ⟨rfl, rfl⟩ := get_eq_ok.mp got
  have startRegular : ClassesRegular
      { before with moduleHandleAllocator := allocator } :=
    ⟨regular.interactionClasses, regular.interactionLinks,
      regular.objectClasses, regular.objectLinks⟩
  cases entries : ModuleInsertion.insertEntries stringModule
      (startInsertion stringModule moduleHandle
        { before with moduleHandleAllocator := allocator }) with
  | error failure inserted =>
      rw [entries] at ran
      cases failure with
      | undefined => exact absurd ran throw_ne_ok
      | _ =>
          cases erasedEq : inserted.erase with
          | error other =>
              simp only [erasedEq] at ran
              exact absurd ran throw_ne_ok
          | ok erased =>
              simp only [erasedEq, bind_eq_ok] at ran
              obtain ⟨_, _, _, thrown⟩ := ran
              exact absurd thrown throw_ne_ok
  | ok created inserted =>
      have entered := ModuleInsertion.insertEntries_ok entries
      rw [entries] at ran
      obtain ⟨dimensions, here, interactionRan, interactionNothing⟩ :=
        entered.interactionClasses
      obtain ⟨objectDimensions, objectHere, objectRan, objectNothing⟩ :=
        entered.objectClasses
      cases created with
      | true =>
          simp only [bind_eq_ok, set_eq_ok, pure_eq_ok] at ran
          obtain ⟨_, _, rfl, _, rfl⟩ := ran
          exact ⟨startRegular.keepModule entered,
            ⟨dimensions, here, _, interactionRan, rfl⟩,
            ⟨objectDimensions, objectHere, _, objectRan, rfl⟩⟩
      | false =>
          cases erasedEq : inserted.erase with
          | error other =>
              simp only [erasedEq] at ran
              exact absurd ran throw_ne_ok
          | ok erased =>
              simp only [erasedEq, bind_eq_ok, set_eq_ok, pure_eq_ok] at ran
              obtain ⟨_, _, rfl, _, rfl⟩ := ran
              obtain ⟨interactionSame, objectSame, modulesSame⟩ :=
                startRegular.eraseModule entered erasedEq
              refine ⟨startRegular.congr interactionSame objectSame
                modulesSame, ⟨dimensions, here, _, interactionRan, ?_⟩,
                ⟨objectDimensions, objectHere, _, objectRan, ?_⟩⟩
              · rw [interactionNothing rfl] at interactionRan
                rw [interactionSame]
                exact (InteractionClassInsertion.Unchanged.runAny
                  startRegular.interactionClasses interactionRan).table.symm
              · rw [objectNothing rfl] at objectRan
                rw [objectSame]
                exact (ObjectClassInsertion.Unchanged.runAny
                  startRegular.objectClasses objectRan).table.symm

end

end Federation
end ServerModel
end OpenRTI
