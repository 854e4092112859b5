import OpenRTI.Federate.ClassModel
import OpenRTI.Foundation.TransitionSystem

/-!
# Names of classes

The map from names has the simple name and the full name of every class, and the last
class entered under a name has it.  So every class is found under its full name exactly
if no later class had this name, as its simple or as its full name.
-/

namespace OpenRTI
namespace Federate

open Foundation

namespace ClassModel

variable {γ δ : Type} {self : ClassModel γ δ} {root : String} {artificialRoot : Bool}
variable {module : FOMClass γ δ} {parent : Option (ModelClass γ δ)}

/-- Classes of a module that are inserted one after the other, each with whether its
module has an artificial root. -/
def insertions (root : String) :
    TransitionSystem (ClassModel γ δ) (Bool × FOMClass γ δ) where
  initial := {}
  next self inserted := self.insertClass root inserted.1 inserted.2

/-- Every class is found under its full name. -/
def NamesFound (self : ClassModel γ δ) : Prop :=
  ∀ modelClass ∈ self.classes.values,
    self.getClassHandle modelClass.fqName = some modelClass.classHandle

/-- No two classes have the same handle, and names are mapped to handles of classes. -/
structure Regular (model : ClassModel γ δ) : Prop where
  distinct : (model.classes.values.map ModelClass.classHandle).Nodup
  known : ∀ name classHandle, model.nameClassHandleMap.find? name = some classHandle →
    classHandle ∈ model.classes.values.map ModelClass.classHandle

theorem Regular.initial : Regular ({} : ClassModel γ δ) where
  distinct := List.nodup_nil
  known _ _ found := by cases found

theorem getClass_eq_none
    {classHandle : Nat} :
    self.getClass classHandle = none ↔
      classHandle ∉ self.classes.values.map ModelClass.classHandle := by
  rw [getClass, Forest.find?_eq_none, Forest.values, List.map_map]
  simp

theorem getClass_eq_some
    {classHandle : Nat} {node : List (ModelClass γ δ) × ModelClass γ δ}
    (found : self.getClass classHandle = some node) :
    node ∈ self.classes.nodes ∧ node.2.classHandle = classHandle := by
  obtain ⟨member, here⟩ := Forest.find?_eq_some found
  exact ⟨member, of_decide_eq_true here⟩

/-! ## Members -/

theorem values_insertMember
    {κ : Type} {observe : ModelClass γ δ → κ}
    {member : FOMMember δ}
    (keeps : ∀ modelClass, observe (modelClass.enterMember member) = observe modelClass)
    (classHandle : Nat) (self : ClassModel γ δ) :
    (self.insertMember classHandle member).classes.values.map observe =
      self.classes.values.map observe := by
  rw [insertMember, Forest.propagateFrom_eq_mapBelow rfl, Forest.values,
    Forest.nodes_mapNodes, List.map_map, List.map_map, Forest.values, List.map_map]
  apply List.map_congr_left
  intro node _
  simp only [Function.comp, Forest.propagated]
  split
  · rfl
  · exact keeps node.2

theorem values_insertMembers
    {κ : Type} {observe : ModelClass γ δ → κ}
    (keeps : ∀ member (modelClass : ModelClass γ δ),
      observe (modelClass.enterMember member) = observe modelClass)
    (module : FOMClass γ δ) (self : ClassModel γ δ) :
    (self.insertMembers module).classes.values.map observe =
      self.classes.values.map observe := by
  rw [insertMembers]
  induction module.members generalizing self with
  | nil => rfl
  | cons member rest ih =>
      rw [List.foldl_cons, ih, values_insertMember (keeps member)]

theorem nameClassHandleMap_insertMembers
    (module : FOMClass γ δ) (self : ClassModel γ δ) :
    (self.insertMembers module).nameClassHandleMap = self.nameClassHandleMap := by
  rw [insertMembers]
  induction module.members generalizing self with
  | nil => rfl
  | cons member rest ih =>
      rw [List.foldl_cons, ih]
      rfl

theorem Regular.insertMembers
    (regular : self.Regular) (module : FOMClass γ δ) :
    (self.insertMembers module).Regular where
  distinct := by
    rw [values_insertMembers fun _ _ => rfl]
    exact regular.distinct
  known := by
    rw [values_insertMembers fun _ _ => rfl, nameClassHandleMap_insertMembers]
    exact regular.known

theorem namesFound_insertMembers
    (module : FOMClass γ δ) (self : ClassModel γ δ) :
    (self.insertMembers module).NamesFound ↔ self.NamesFound := by
  have found : ∀ model : ClassModel γ δ, model.NamesFound ↔
      ∀ identity ∈ model.classes.values.map fun modelClass =>
        (modelClass.classHandle, modelClass.fqName),
        model.nameClassHandleMap.find? identity.2 = some identity.1 := by
    intro model
    rw [List.forall_mem_map]
    rfl
  rw [found, found, values_insertMembers fun _ _ => rfl,
    nameClassHandleMap_insertMembers]

/-! ## New classes -/

theorem parentOf_eq_some
    (found : self.parentOf module = some parent) :
    parent = none ∨ ∃ node ∈ self.classes.nodes, parent = some node.2 := by
  rw [parentOf] at found
  split at found
  · exact Or.inl (Option.some.inj found).symm
  · obtain ⟨node, nodeFound, rfl⟩ := Option.map_eq_some_iff.mp found
    exact Or.inr ⟨node, (getClass_eq_some nodeFound).1, rfl⟩

/-- A new class is one more node, below its parent. -/
theorem Regular.nodes_createClass
    (regular : self.Regular)
    {node : List (ModelClass γ δ) × ModelClass γ δ}
    (member : node ∈ self.classes.nodes)
    (root : String) (artificialRoot : Bool) (module : FOMClass γ δ) :
    (self.createClass root artificialRoot module (some node.2)).classes.nodes.Perm
      (self.classes.nodes ++
        [(node.2 :: node.1, newClass root artificialRoot module (some node.2))]) :=
  (Forest.nodesBelow_appendChild _ _ _ _).trans
    (((Forest.filter_key regular.distinct member).map _).append_left _)

/-- A new class is one more class. -/
theorem Regular.values_createClass
    (regular : self.Regular)
    (found : self.parentOf module = some parent)
    (root : String) (artificialRoot : Bool) :
    (self.createClass root artificialRoot module parent).classes.values.Perm
      (self.classes.values ++ [newClass root artificialRoot module parent]) := by
  obtain rfl | ⟨node, member, rfl⟩ := parentOf_eq_some found
  · rw [createClass, Forest.values, Forest.nodes, Forest.nodesBelow_append,
      List.map_append]
    rfl
  · have values := (regular.nodes_createClass member root artificialRoot module).map
      Prod.snd
    rw [List.map_append] at values
    exact values

/-- What the map has after a class has been entered. -/
theorem find?_createClass
    (name : String) :
    (self.createClass root artificialRoot module parent).nameClassHandleMap.find? name =
      if name = module.name ∨
          name = newFqName root artificialRoot parent module.name ∧ name ≠ "" then
        some module.classHandle
      else self.nameClassHandleMap.find? name := by
  rw [createClass.eq_def]
  dsimp only
  split
  next both =>
    rw [OrderedMap.find?_set, OrderedMap.find?_set]
    grind
  next =>
    rw [OrderedMap.find?_set]
    grind

theorem Regular.createClass
    (regular : self.Regular)
    (new : self.getClass module.classHandle = none)
    (found : self.parentOf module = some parent) :
    (self.createClass root artificialRoot module parent).Regular := by
  have values := (regular.values_createClass found root artificialRoot).map
    ModelClass.classHandle
  rw [List.map_append] at values
  refine ⟨?_, ?_⟩
  · rw [values.nodup_iff, List.nodup_append]
    refine ⟨regular.distinct, List.nodup_singleton _, ?_⟩
    intro classHandle known other created same
    rw [List.map_singleton, List.mem_singleton] at created
    rw [same, created] at known
    exact getClass_eq_none.mp new known
  · intro name classHandle mapped
    rw [values.mem_iff, List.mem_append]
    rw [find?_createClass] at mapped
    split at mapped
    · exact Or.inr (List.mem_singleton.mpr (Option.some.inj mapped).symm)
    · exact Or.inl (regular.known name classHandle mapped)

/-- The names of a new class are full names of no other class, and the class is entered
under its full name. -/
def NamesApart
    (root : String)
    (artificialRoot : Bool)
    (module : FOMClass γ δ)
    (self : ClassModel γ δ) : Prop :=
  self.getClass module.classHandle = none → ∀ parent ∈ self.parentOf module,
    (∀ modelClass ∈ self.classes.values,
      modelClass.fqName ≠ module.name ∧
        modelClass.fqName ≠ newFqName root artificialRoot parent module.name) ∧
    (newFqName root artificialRoot parent module.name = "" → module.name = "")

/-- A class that was found is found after another class has been entered exactly if
it has another name. -/
theorem found_createClass_iff
    (new : self.getClass module.classHandle = none)
    {modelClass : ModelClass γ δ}
    (member : modelClass ∈ self.classes.values) :
    (self.createClass root artificialRoot module parent).getClassHandle
        modelClass.fqName = some modelClass.classHandle ↔
      self.getClassHandle modelClass.fqName = some modelClass.classHandle ∧
        ¬ (modelClass.fqName = module.name ∨
          modelClass.fqName = newFqName root artificialRoot parent module.name ∧
            modelClass.fqName ≠ "") := by
  have other : module.classHandle ≠ modelClass.classHandle := by
    intro same
    exact getClass_eq_none.mp new (same ▸ List.mem_map_of_mem member)
  rw [getClassHandle, find?_createClass, getClassHandle]
  split
  next taken =>
    constructor
    · intro same
      exact absurd (Option.some.inj same) other
    · intro both
      exact absurd taken both.2
  next free => exact (and_iff_left free).symm

/-- A new class is found exactly if it is entered under its full name. -/
theorem Regular.new_found_iff
    (regular : self.Regular)
    (new : self.getClass module.classHandle = none) :
    (self.createClass root artificialRoot module parent).getClassHandle
        (newFqName root artificialRoot parent module.name) =
          some module.classHandle ↔
      (newFqName root artificialRoot parent module.name = "" → module.name = "") := by
  rw [getClassHandle, find?_createClass]
  split
  next entered =>
    refine iff_of_true rfl ?_
    intro empty
    obtain same | ⟨_, nonempty⟩ := entered
    · rw [← same, empty]
    · exact absurd empty nonempty
  next notEntered =>
    constructor
    · intro mapped
      exact absurd (regular.known _ _ mapped) (getClass_eq_none.mp new)
    · intro implies
      rw [not_or] at notEntered
      by_cases empty : newFqName root artificialRoot parent module.name = ""
      · exact absurd (empty.trans (implies empty).symm) notEntered.1
      · exact absurd ⟨rfl, empty⟩ notEntered.2

theorem Regular.namesFound_createClass
    (regular : self.Regular)
    (new : self.getClass module.classHandle = none)
    (found : self.parentOf module = some parent) :
    (self.createClass root artificialRoot module parent).NamesFound ↔
      self.NamesFound ∧ self.NamesApart root artificialRoot module := by
  have apart : self.NamesApart root artificialRoot module ↔
      (∀ modelClass ∈ self.classes.values,
        modelClass.fqName ≠ module.name ∧
          modelClass.fqName ≠ newFqName root artificialRoot parent module.name) ∧
      (newFqName root artificialRoot parent module.name = "" → module.name = "") := by
    rw [NamesApart, found]
    simp [new]
  have values : (self.createClass root artificialRoot module parent).NamesFound ↔
      (∀ modelClass ∈ self.classes.values,
        (self.createClass root artificialRoot module parent).getClassHandle
          modelClass.fqName = some modelClass.classHandle) ∧
      (self.createClass root artificialRoot module parent).getClassHandle
        (newFqName root artificialRoot parent module.name) =
          some module.classHandle := by
    rw [NamesFound]
    simp only [(regular.values_createClass found root artificialRoot).mem_iff,
      List.mem_append, List.mem_singleton, or_imp, forall_and, forall_eq]
    rfl
  rw [values, apart, regular.new_found_iff new, ← and_assoc]
  refine and_congr_left ?_
  intro entered
  rw [NamesFound, ← forall_and]
  refine forall_congr' fun modelClass => ?_
  rw [← forall_and]
  refine forall_congr' fun member => ?_
  rw [found_createClass_iff new member]
  refine and_congr_right' ?_
  rw [not_or, and_congr_right_iff]
  intro different
  constructor
  · intro notBoth same
    by_cases empty : modelClass.fqName = ""
    · exact different (empty.trans (entered (same ▸ empty)).symm)
    · exact notBoth ⟨same, empty⟩
  · intro differs both
    exact differs both.1

/-! ## Runs -/

/-- What inserting a class does to the names, and that the model stays regular. -/
theorem Regular.insertClass
    (regular : self.Regular)
    {after : ClassModel γ δ}
    (inserted : self.insertClass root artificialRoot module = some after) :
    after.Regular ∧
      (after.NamesFound ↔ self.NamesFound ∧
        self.NamesApart root artificialRoot module) := by
  rw [ClassModel.insertClass] at inserted
  cases known : self.getClass module.classHandle with
  | some node =>
      rw [known] at inserted
      cases inserted
      refine ⟨regular.insertMembers module, ?_⟩
      rw [namesFound_insertMembers, NamesApart, known]
      simp
  | none =>
      rw [known] at inserted
      obtain ⟨parent, found, rfl⟩ := Option.map_eq_some_iff.mp inserted
      refine ⟨(regular.createClass known found).insertMembers module, ?_⟩
      rw [namesFound_insertMembers]
      exact regular.namesFound_createClass known found

/-- Every class that is inserted has other names than the classes before. -/
def AllNamesApart (root : String) :
    ClassModel γ δ → List (Bool × FOMClass γ δ) → Prop
  | _, [] => True
  | self, inserted :: rest =>
      self.NamesApart root inserted.1 inserted.2 ∧
        ∀ after ∈ self.insertClass root inserted.1 inserted.2,
          AllNamesApart root after rest

/-- After any classes have been inserted all classes are found under their full names
exactly if all names were apart. -/
theorem Regular.namesFound_run
    (regular : self.Regular)
    {history : List (Bool × FOMClass γ δ)} {final : ClassModel γ δ}
    (ran : (insertions root).run self history = some final) :
    final.Regular ∧
      (final.NamesFound ↔ self.NamesFound ∧ AllNamesApart root self history) := by
  induction history generalizing self with
  | nil =>
      rw [TransitionSystem.run_nil, Option.some.injEq] at ran
      rw [← ran, AllNamesApart, and_true]
      exact ⟨regular, Iff.rfl⟩
  | cons inserted rest ih =>
      rw [TransitionSystem.run_cons] at ran
      obtain ⟨after, stepped, later⟩ := Option.bind_eq_some_iff.mp ran
      obtain ⟨afterRegular, found⟩ := regular.insertClass stepped
      obtain ⟨finalRegular, foundLater⟩ := ih afterRegular later
      refine ⟨finalRegular, ?_⟩
      have next : self.insertClass root inserted.1 inserted.2 = some after := stepped
      rw [foundLater, found, AllNamesApart, next, and_assoc]
      simp

end ClassModel
end Federate
end OpenRTI
