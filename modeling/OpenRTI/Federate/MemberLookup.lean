import OpenRTI.Federate.ClassLookup

/-!
# Names of members

A member that is entered in a class is entered in the classes derived from it, in each
under the name qualified by that class.  A class that is created later copies the names
of its base class.  So the order of the two shows in the qualified names.
-/

namespace OpenRTI
namespace Federate

open Foundation

namespace ClassModel

variable {γ δ : Type} {self : ClassModel γ δ} {root : String} {artificialRoot : Bool}
variable {classHandle : Nat} {member : FOMMember δ}

/-- Whether a member that is entered in a class is entered in the first of a list of
classes, each the base class of the one before: this class is the other, or its base
class gains the member, and it has none with this handle. -/
def gainsMember
    (classHandle : Nat)
    (member : FOMMember δ) : List (ModelClass γ δ) → Bool
  | [] => false
  | modelClass :: bases =>
      (modelClass.classHandle = classHandle || gainsMember classHandle member bases) &&
        !modelClass.hasMember member.handle

/-- What entering a member makes of a class below its base classes. -/
abbrev withMember
    (classHandle : Nat)
    (member : FOMMember δ) :
    List (ModelClass γ δ) → ModelClass γ δ → ModelClass γ δ :=
  Forest.propagated (passesMember member) (fun _ => ModelClass.enterMember member)
    (fun modelClass => modelClass.classHandle = classHandle) (fun _ => ())

theorem classes_insertMember
    (classHandle : Nat) (member : FOMMember δ) (self : ClassModel γ δ) :
    (self.insertMember classHandle member).classes =
      self.classes.mapNodes (withMember classHandle member) :=
  Forest.propagateFrom_eq_mapBelow rfl

theorem passedOn_eq
    {path : List (ModelClass γ δ)}
    (distinct : (path.map ModelClass.classHandle).Nodup) :
    Forest.passedOn (passesMember member)
        (fun modelClass : ModelClass γ δ => modelClass.classHandle = classHandle)
        (fun _ => ()) path =
      if gainsMember classHandle member path then some () else none := by
  induction path with
  | nil => rfl
  | cons modelClass bases ih =>
      rw [List.map_cons, List.nodup_cons] at distinct
      have below := ih distinct.2
      cases inside : bases.any fun base => base.classHandle = classHandle with
      | true =>
          obtain ⟨base, above, here⟩ := List.any_eq_true.mp inside
          have elsewhere : modelClass.classHandle ≠ classHandle := by
            intro same
            apply distinct.1
            rw [same, ← of_decide_eq_true here]
            exact List.mem_map_of_mem above
          rw [Forest.passedOn_below inside, below, gainsMember,
            decide_eq_false elsewhere, Bool.false_or]
          cases gainsMember classHandle member bases with
          | false => rfl
          | true =>
              cases has : modelClass.hasMember member.handle with
              | true => simp [passesMember, has]
              | false => simp [passesMember, has]
      | false =>
          have unreached : gainsMember classHandle member bases = false := by
            rw [Forest.passedOn_outside inside] at below
            by_contra reached
            rw [if_pos (by simpa using reached)] at below
            cases below
          by_cases here : modelClass.classHandle = classHandle
          · rw [Forest.passedOn_selected inside (decide_eq_true here), gainsMember,
              decide_eq_true here, Bool.true_or, Bool.true_and]
            cases has : modelClass.hasMember member.handle with
            | true => simp [passesMember, has]
            | false => simp [passesMember, has]
          · have outside : (modelClass :: bases).any (fun base : ModelClass γ δ =>
                base.classHandle = classHandle) = false := by
              rw [List.any_cons, inside, decide_eq_false here]
              rfl
            rw [Forest.passedOn_outside outside, gainsMember, decide_eq_false here,
              unreached]
            rfl

theorem withMember_eq
    {bases : List (ModelClass γ δ)} {modelClass : ModelClass γ δ}
    (distinct : ((modelClass :: bases).map ModelClass.classHandle).Nodup) :
    withMember classHandle member bases modelClass =
      if gainsMember classHandle member (modelClass :: bases) then
        modelClass.enterMember member
      else modelClass := by
  rw [withMember, Forest.propagated, passedOn_eq distinct]
  split
  next stopped =>
    split at stopped
    · cases stopped
    next unreached => rw [if_neg unreached]
  next _ passed =>
    split at passed
    next reached => rw [if_pos reached]
    · cases passed

theorem withMember_kept
    {κ : Type} {observe : ModelClass γ δ → κ}
    (keeps : ∀ modelClass, observe (modelClass.enterMember member) = observe modelClass)
    (bases : List (ModelClass γ δ)) (modelClass : ModelClass γ δ) :
    observe (withMember classHandle member bases modelClass) = observe modelClass := by
  rw [withMember, Forest.propagated]
  split
  · rfl
  · exact keeps modelClass

theorem getClass_insertMember
    (classHandle other : Nat) (member : FOMMember δ)
    (self : ClassModel γ δ) :
    (self.insertMember classHandle member).getClass other =
      (self.getClass other).map fun node =>
        (Forest.mapAncestors (withMember classHandle member) node.1,
          withMember classHandle member node.1 node.2) := by
  rw [getClass, classes_insertMember]
  apply Forest.find?_mapNodes
  intro bases modelClass
  exact congrArg (fun handle : Nat => decide (handle = other))
    (@withMember_kept _ _ classHandle member _ ModelClass.classHandle (fun _ => rfl) bases
      modelClass)

theorem Regular.getClass_eq_some_iff
    (regular : self.Regular)
    {node : List (ModelClass γ δ) × ModelClass γ δ} :
    self.getClass classHandle = some node ↔
      node ∈ self.classes.nodes ∧ node.2.classHandle = classHandle :=
  Forest.find?_key_eq_some regular.distinct

/-! ## Handles of members -/

/-- Names of members are mapped to handles at which the class has members. -/
def MembersKnown (self : ClassModel γ δ) : Prop :=
  ∀ modelClass ∈ self.classes.values, ∀ name handle,
    modelClass.getMemberHandle name = some handle → modelClass.hasMember handle = true

theorem MembersKnown.initial : MembersKnown ({} : ClassModel γ δ) := by
  intro modelClass value
  cases value

/-- What a class has under a name after a member has been entered. -/
theorem getMemberHandle_enterMember
    (name : String) (modelClass : ModelClass γ δ) :
    (modelClass.enterMember member).getMemberHandle name =
      if name = modelClass.fqName ++ "." ++ member.name ∨ name = member.name then
        some member.handle
      else modelClass.getMemberHandle name := by
  rw [ModelClass.getMemberHandle, ModelClass.enterMember, OrderedMap.find?_set,
    OrderedMap.find?_set]
  split
  next qualified => rw [if_pos (Or.inl qualified)]
  next notQualified => exact if_congr (or_iff_right notQualified).symm rfl rfl

theorem hasMember_enterMember
    (handle : Nat) (modelClass : ModelClass γ δ) :
    (modelClass.enterMember member).hasMember handle =
      (handle = member.handle || modelClass.hasMember handle) := by
  rw [ModelClass.hasMember, ModelClass.enterMember, OrderedMap.find?_set]
  by_cases same : handle = member.handle
  · rw [if_pos same, decide_eq_true same]
    rfl
  · rw [if_neg same, decide_eq_false same]
    rfl

theorem MembersKnown.insertMember
    (membersKnown : self.MembersKnown) (classHandle : Nat)
    (member : FOMMember δ) :
    (self.insertMember classHandle member).MembersKnown := by
  intro changed value name handle mapped
  rw [classes_insertMember, Forest.values, Forest.nodes_mapNodes, List.map_map]
    at value
  obtain ⟨node, inside, rfl⟩ := List.mem_map.mp value
  have before := membersKnown node.2 (List.mem_map_of_mem inside) name handle
  simp only [Function.comp, withMember, Forest.propagated] at mapped ⊢
  split at mapped
  · exact before mapped
  · rw [getMemberHandle_enterMember] at mapped
    rw [hasMember_enterMember, Bool.or_eq_true, decide_eq_true_eq]
    split at mapped
    · exact Or.inl (Option.some.inj mapped).symm
    · exact Or.inr (before mapped)

theorem MembersKnown.insertMembers
    (membersKnown : self.MembersKnown) (module : FOMClass γ δ) :
    (self.insertMembers module).MembersKnown := by
  rw [ClassModel.insertMembers]
  induction module.members generalizing self with
  | nil => exact membersKnown
  | cons member rest ih =>
      exact ih (membersKnown.insertMember _ member)

theorem MembersKnown.createClass
    (membersKnown : self.MembersKnown) (regular : self.Regular)
    {module : FOMClass γ δ} {parent : Option (ModelClass γ δ)}
    (found : self.parentOf module = some parent)
    (root : String) (artificialRoot : Bool) :
    (self.createClass root artificialRoot module parent).MembersKnown := by
  intro modelClass value name handle mapped
  rw [(regular.values_createClass found root artificialRoot).mem_iff, List.mem_append,
    List.mem_singleton] at value
  obtain old | rfl := value
  · exact membersKnown modelClass old name handle mapped
  · obtain rfl | ⟨node, member, rfl⟩ := parentOf_eq_some found
    · cases mapped
    · exact membersKnown node.2 (List.mem_map_of_mem member) name handle mapped

theorem MembersKnown.run
    (membersKnown : self.MembersKnown) (regular : self.Regular)
    {history : List (Bool × FOMClass γ δ)} {final : ClassModel γ δ}
    (ran : (insertions root).run self history = some final) :
    final.MembersKnown := by
  induction history generalizing self with
  | nil =>
      rw [TransitionSystem.run_nil, Option.some.injEq] at ran
      exact ran ▸ membersKnown
  | cons inserted rest ih =>
      rw [TransitionSystem.run_cons] at ran
      obtain ⟨after, stepped, later⟩ := Option.bind_eq_some_iff.mp ran
      refine ih ?_ (regular.insertClass stepped).1 later
      have next : self.insertClass root inserted.1 inserted.2 = some after := stepped
      rw [ClassModel.insertClass] at next
      split at next
      · cases next
        exact membersKnown.insertMembers inserted.2
      · obtain ⟨parent, found, rfl⟩ := Option.map_eq_some_iff.mp next
        exact (membersKnown.createClass regular found root _).insertMembers inserted.2

/-! ## A member and a new class in either order -/

section Order

variable {module : FOMClass γ δ}
variable {node : List (ModelClass γ δ) × ModelClass γ δ}

/-- A new class gains a member if its base class does. -/
theorem gainsMember_newClass
    (new : self.getClass module.classHandle = none)
    (established : self.getClass classHandle ≠ none)
    (node : List (ModelClass γ δ) × ModelClass γ δ) :
    gainsMember classHandle member
        (newClass root artificialRoot module (some node.2) :: node.2 :: node.1) =
      gainsMember classHandle member (node.2 :: node.1) := by
  have different : module.classHandle ≠ classHandle := by
    rintro rfl
    exact established new
  have elsewhere : decide ((newClass root artificialRoot module
      (some node.2)).classHandle = classHandle) = false :=
    decide_eq_false different
  rw [gainsMember, elsewhere, Bool.false_or]
  have has : (newClass root artificialRoot module (some node.2)).hasMember
      member.handle = node.2.hasMember member.handle := rfl
  rw [has, gainsMember]
  cases node.2.hasMember member.handle with
  | true => simp
  | false => simp

theorem Regular.path_newClass_nodup
    (regular : self.Regular)
    (new : self.getClass module.classHandle = none)
    (inside : node ∈ self.classes.nodes) :
    ((newClass root artificialRoot module (some node.2) :: node.2 ::
      node.1).map ModelClass.classHandle).Nodup := by
  rw [List.map_cons, List.nodup_cons]
  refine ⟨?_, Forest.path_keys_nodup regular.distinct inside⟩
  intro onPath
  apply getClass_eq_none.mp new
  obtain ⟨modelClass, above, same⟩ := List.mem_map.mp onPath
  refine List.mem_map.mpr ⟨modelClass, ?_, same⟩
  obtain rfl | above := List.mem_cons.mp above
  · exact List.mem_map_of_mem inside
  · obtain ⟨bases, _⟩ := node
    obtain ⟨inner, outer, rfl⟩ := List.append_of_mem above
    exact List.mem_map_of_mem (Forest.ancestor_mem_nodes inside)

/-- What entering a member makes of a new class. -/
theorem Regular.withMember_newClass
    (regular : self.Regular)
    (new : self.getClass module.classHandle = none)
    (established : self.getClass classHandle ≠ none)
    (inside : node ∈ self.classes.nodes) :
    withMember classHandle member (node.2 :: node.1)
        (newClass root artificialRoot module (some node.2)) =
      if gainsMember classHandle member (node.2 :: node.1) then
        (newClass root artificialRoot module (some node.2)).enterMember member
      else newClass root artificialRoot module (some node.2) := by
  rw [withMember_eq (regular.path_newClass_nodup new inside),
    gainsMember_newClass new established node]

/-- A new root does not gain a member of another class. -/
theorem withMember_newRoot
    (different : module.classHandle ≠ classHandle) :
    withMember classHandle member []
        (newClass root artificialRoot module none : ModelClass γ δ) =
      newClass root artificialRoot module none := by
  have elsewhere : decide ((newClass root artificialRoot module none :
      ModelClass γ δ).classHandle = classHandle) = false :=
    decide_eq_false different
  have alone : ([(newClass root artificialRoot module none : ModelClass γ δ)].map
      ModelClass.classHandle).Nodup := List.nodup_singleton _
  rw [withMember_eq alone, gainsMember, gainsMember, elsewhere]
  rfl

theorem enterMember_newClass
    {parent : ModelClass γ δ}
    (same : parent.fqName = newFqName root artificialRoot (some parent) module.name) :
    (newClass root artificialRoot module (some parent)).enterMember member =
      newClass root artificialRoot module (some (parent.enterMember member)) := by
  have qualified : (newClass root artificialRoot module (some parent)).fqName ++ "." ++
      member.name = parent.fqName ++ "." ++ member.name := by
    rw [same]
    rfl
  rw [ModelClass.enterMember, qualified]
  rfl

/-- The order does not matter if the new class does not gain the member, or has the name
of its base class. -/
theorem Regular.createClass_insertMember
    (regular : self.Regular)
    (new : self.getClass module.classHandle = none)
    (established : self.getClass classHandle ≠ none)
    (inside : node ∈ self.classes.nodes)
    (same : gainsMember classHandle member (node.2 :: node.1) = true →
      node.2.fqName = newFqName root artificialRoot (some node.2) module.name) :
    (self.insertMember classHandle member).createClass root artificialRoot module
        (some (withMember classHandle member node.1 node.2)) =
      (self.createClass root artificialRoot module (some node.2)).insertMember
        classHandle member := by
  have parentHandle : (withMember classHandle member node.1 node.2).classHandle =
      node.2.classHandle :=
    @withMember_kept _ _ classHandle member _ ModelClass.classHandle (fun _ => rfl) node.1
      node.2
  have parentName : newFqName root artificialRoot
      (some (withMember classHandle member node.1 node.2)) module.name =
        newFqName root artificialRoot (some node.2) module.name :=
    @withMember_kept _ _ classHandle member _
      (fun parent => newFqName root artificialRoot (some parent) module.name)
      (fun _ => rfl) node.1 node.2
  rw [ClassModel.createClass, ClassModel.insertMember, ClassModel.insertMember,
    ClassModel.createClass]
  dsimp only
  rw [parentHandle, parentName]
  congr 1
  rw [Forest.propagateFrom_eq_mapBelow rfl, Forest.propagateFrom_eq_mapBelow rfl]
  symm
  apply Forest.mapBelow_appendChild
  · intro bases modelClass
    exact congrArg (fun handle : Nat => decide (handle = node.2.classHandle))
      (@withMember_kept _ _ classHandle member _ ModelClass.classHandle (fun _ => rfl)
        bases modelClass)
  · intro other otherInside here
    rw [Forest.node_eq_of_key regular.distinct otherInside inside (of_decide_eq_true here)]
    refine (regular.withMember_newClass new established inside).trans ?_
    refine Eq.trans ?_ (congrArg (fun parent => newClass root artificialRoot module
      (some parent)) (withMember_eq (Forest.path_keys_nodup regular.distinct
        inside)).symm)
    split
    next gains =>
      exact enterMember_newClass (same gains)
    next => rfl

theorem createClass_insertMember_root
    (different : module.classHandle ≠ classHandle) :
    (self.insertMember classHandle member).createClass root artificialRoot module none =
      (self.createClass root artificialRoot module none).insertMember classHandle
        member := by
  rw [ClassModel.createClass, ClassModel.insertMember, ClassModel.insertMember,
    ClassModel.createClass]
  dsimp only
  congr 1
  rw [Forest.propagateFrom_eq_mapBelow rfl, Forest.propagateFrom_eq_mapBelow rfl,
    Forest.mapBelow_append]
  exact congrArg (fun created => Forest.append created _)
    (withMember_newRoot different).symm

end Order

end ClassModel
end Federate
end OpenRTI
