import OpenRTI.Federate.MemberLookup

/-!
# Lookups after any modules

The classes of all modules are inserted one after the other.  Every class is found under
its full name exactly if all names were apart, and the order of a member and of a class
does not matter exactly if the class does not inherit the member.
-/

namespace OpenRTI
namespace Federate

open Foundation

/-- The name of a member qualified by the name of a class. -/
def ModelClass.qualifiedName
    {γ δ : Type}
    (member : FOMMember δ)
    (self : ModelClass γ δ) : String :=
  self.fqName ++ "." ++ member.name

namespace ClassModel

variable {γ δ : Type} {self : ClassModel γ δ} {root : String}
variable {member : FOMMember δ} {extended created : Bool × FOMClass γ δ}

/-! ## One member and one class -/

/-- A member that is added to an established class. -/
def Adds (member : FOMMember δ) (module : FOMClass γ δ) (self : ClassModel γ δ) : Prop :=
  module.members = [member] ∧ self.getClass module.classHandle ≠ none

/-- A class that is created without members of its own. -/
def Creates (module : FOMClass γ δ) (self : ClassModel γ δ) : Prop :=
  module.members = [] ∧ self.getClass module.classHandle = none

/-- Whatever is inserted later, the class has the same under the simple name of the
member and under its qualified name in both orders. -/
def OrderIrrelevant
    (root : String)
    (member : FOMMember δ)
    (extended created : Bool × FOMClass γ δ)
    (self : ClassModel γ δ) : Prop :=
  ∀ later final other,
    (insertions root).run self (extended :: created :: later) = some final →
    (insertions root).run self (created :: extended :: later) = some other →
    ∀ node ∈ final.getClass created.2.classHandle,
    ∀ otherNode ∈ other.getClass created.2.classHandle,
      node.2.getMemberHandle member.name = otherNode.2.getMemberHandle member.name ∧
        node.2.getMemberHandle (node.2.qualifiedName member) =
          otherNode.2.getMemberHandle (otherNode.2.qualifiedName member)

/-- The new class inherits the member, and has another full name than its base class. -/
def InheritsMember
    (root : String)
    (member : FOMMember δ)
    (extended created : Bool × FOMClass γ δ)
    (self : ClassModel γ δ) : Prop :=
  ∃ parentClassHandle ∈ created.2.parentClassHandle,
    ∃ node ∈ self.getClass parentClassHandle,
      gainsMember extended.2.classHandle member (node.2 :: node.1) = true ∧
        node.2.fqName ≠ newFqName root created.1 (some node.2) created.2.name

variable {module : FOMClass γ δ}

theorem insertClass_of_adds
    (adds : self.Adds member module) (root : String)
    (artificialRoot : Bool) :
    self.insertClass root artificialRoot module =
      some (self.insertMember module.classHandle member) := by
  obtain ⟨node, found⟩ := Option.ne_none_iff_exists'.mp adds.2
  rw [insertClass, found]
  dsimp only
  rw [insertMembers, adds.1]
  rfl

theorem insertClass_of_creates
    (creates : self.Creates module) (root : String)
    (artificialRoot : Bool) :
    self.insertClass root artificialRoot module =
      (self.parentOf module).map (self.createClass root artificialRoot module) := by
  rw [insertClass, creates.2]
  dsimp only
  congr 1
  funext parent
  rw [insertMembers, creates.1]
  rfl

theorem Creates.insertMember
    (creates : self.Creates module) (classHandle : Nat)
    (member : FOMMember δ) :
    (self.insertMember classHandle member).Creates module := by
  refine ⟨creates.1, ?_⟩
  rw [getClass_insertMember, creates.2]
  rfl

/-- An established class is still there when another one has been created. -/
theorem Regular.adds_createClass
    (regular : self.Regular)
    {module other : FOMClass γ δ} {parent : Option (ModelClass γ δ)}
    (adds : self.Adds member module)
    (found : self.parentOf other = some parent)
    (root : String) (artificialRoot : Bool) :
    (self.createClass root artificialRoot other parent).Adds member module := by
  refine ⟨adds.1, ?_⟩
  have values := (regular.values_createClass found root artificialRoot).map
    ModelClass.classHandle
  rw [Ne, getClass_eq_none, not_not, values.mem_iff, List.map_append]
  exact List.mem_append_left _ (not_not.mp (mt getClass_eq_none.mpr adds.2))

theorem parentOf_of_root
    (isRoot : module.parentClassHandle = none)
    (self : ClassModel γ δ) :
    self.parentOf module = some none := by
  rw [parentOf, isRoot]

theorem parentOf_of_parent
    {parentClassHandle : Nat}
    (hasParent : module.parentClassHandle = some parentClassHandle)
    (self : ClassModel γ δ) :
    self.parentOf module =
      (self.getClass parentClassHandle).map fun node => some node.2 := by
  rw [parentOf, hasParent]

/-- Both orders lead to the same classes if the new class does not inherit the
member. -/
theorem Regular.insertClass_comm
    (regular : self.Regular) (adds : self.Adds member extended.2)
    (creates : self.Creates created.2)
    (notInherited : ¬ self.InheritsMember root member extended created) :
    ((insertions root).next self extended).bind
        (fun after => (insertions root).next after created) =
      ((insertions root).next self created).bind
        fun after => (insertions root).next after extended := by
  have different : created.2.classHandle ≠ extended.2.classHandle := by
    intro same
    exact adds.2 (same ▸ creates.2)
  change (self.insertClass root extended.1 extended.2).bind
      (ClassModel.insertClass root created.1 created.2) =
    (self.insertClass root created.1 created.2).bind
      (ClassModel.insertClass root extended.1 extended.2)
  rw [insertClass_of_adds adds, Option.bind_some,
    insertClass_of_creates (creates.insertMember _ _), insertClass_of_creates creates]
  have later : ∀ parent, self.parentOf created.2 = some parent →
      (self.createClass root created.1 created.2 parent).insertClass root extended.1
          extended.2 =
        some ((self.createClass root created.1 created.2 parent).insertMember
          extended.2.classHandle member) :=
    fun parent found => insertClass_of_adds
      (regular.adds_createClass adds found root created.1) root extended.1
  cases hasParent : created.2.parentClassHandle with
  | none =>
      have found := parentOf_of_root hasParent self
      rw [parentOf_of_root hasParent, found, Option.map_some, Option.map_some,
        Option.bind_some, later none found, createClass_insertMember_root different]
  | some parentClassHandle =>
      rw [parentOf_of_parent hasParent, parentOf_of_parent hasParent,
        getClass_insertMember]
      cases known : self.getClass parentClassHandle with
      | none => rfl
      | some node =>
          have found := parentOf_of_parent hasParent self
          rw [known, Option.map_some] at found
          rw [Option.map_some, Option.map_some, Option.map_some, Option.map_some,
            Option.map_some, Option.bind_some, later _ found]
          congr 1
          apply regular.createClass_insertMember creates.2 adds.2
            (regular.getClass_eq_some_iff.mp known).1
          intro gains
          by_contra differ
          exact notInherited ⟨parentClassHandle, hasParent, node, known, gains, differ⟩

theorem append_dot_append_ne (first second : String) :
    first ++ "." ++ second ≠ second := by
  intro same
  have length := congrArg String.length same
  rw [String.length_append, String.length_append] at length
  have dot : ".".length = 1 := rfl
  omega

theorem append_dot_append_inj
    {first second third : String}
    (same : first ++ "." ++ third = second ++ "." ++ third) :
    first = second := by
  have characters := congrArg String.toList same
  simp only [String.toList_append, List.append_cancel_right_eq] at characters
  exact String.toList_inj.mp characters

theorem getMemberHandle_qualifiedName (modelClass : ModelClass γ δ) :
    (modelClass.enterMember member).getMemberHandle
        ((modelClass.enterMember member).qualifiedName member) =
      some member.handle := by
  rw [getMemberHandle_enterMember]
  exact if_pos (Or.inl rfl)

/-- The class that has been created last. -/
theorem Regular.getClass_createClass
    (regular : self.Regular)
    {module : FOMClass γ δ} {node : List (ModelClass γ δ) × ModelClass γ δ}
    (new : self.getClass module.classHandle = none)
    (found : self.parentOf module = some (some node.2))
    (inside : node ∈ self.classes.nodes)
    (root : String) (artificialRoot : Bool) :
    (self.createClass root artificialRoot module (some node.2)).getClass
        module.classHandle =
      some (node.2 :: node.1, newClass root artificialRoot module (some node.2)) := by
  rw [(regular.createClass new found).getClass_eq_some_iff]
  refine ⟨?_, rfl⟩
  rw [(regular.nodes_createClass inside root artificialRoot module).mem_iff]
  exact List.mem_append_right _ (List.mem_singleton_self _)

/-- A class that inherits a member has it under the name qualified by its own name only
if the member comes after it. -/
theorem Regular.orderIrrelevant_of_inherits
    (regular : self.Regular) (membersKnown : self.MembersKnown)
    (adds : self.Adds member extended.2) (creates : self.Creates created.2)
    (inherited : self.InheritsMember root member extended created) :
    ¬ self.OrderIrrelevant root member extended created := by
  intro irrelevant
  obtain ⟨parentClassHandle, hasParent, node, known, gains, differ⟩ := inherited
  obtain ⟨inside, _⟩ := regular.getClass_eq_some_iff.mp known
  have found := parentOf_of_parent hasParent self
  rw [known, Option.map_some] at found
  have extendedRegular := (regular.insertClass
    (insertClass_of_adds adds root extended.1)).1
  have parentGains : withMember extended.2.classHandle member node.1 node.2 =
      node.2.enterMember member := by
    rw [withMember_eq (Forest.path_keys_nodup regular.distinct inside), if_pos gains]
  have changedKnown := getClass_insertMember extended.2.classHandle parentClassHandle
    member self
  rw [known, Option.map_some, parentGains] at changedKnown
  obtain ⟨changedInside, _⟩ := extendedRegular.getClass_eq_some_iff.mp changedKnown
  have changedFound := parentOf_of_parent hasParent
    (self.insertMember extended.2.classHandle member)
  rw [changedKnown, Option.map_some] at changedFound
  have changedCreates := creates.insertMember extended.2.classHandle member
  -- The class after the member.
  have first : (insertions root).run self [extended, created] =
      some ((self.insertMember extended.2.classHandle member).createClass root created.1
        created.2 (some (node.2.enterMember member))) := by
    rw [TransitionSystem.run_cons]
    change (self.insertClass root extended.1 extended.2).bind _ = _
    rw [insertClass_of_adds adds, Option.bind_some, TransitionSystem.run_cons]
    change ((self.insertMember extended.2.classHandle member).insertClass root created.1
      created.2).bind _ = _
    rw [insertClass_of_creates changedCreates, changedFound]
    rfl
  have firstClass := extendedRegular.getClass_createClass changedCreates.2 changedFound
    changedInside root created.1
  -- The member after the class.
  have second : (insertions root).run self [created, extended] =
      some ((self.createClass root created.1 created.2 (some node.2)).insertMember
        extended.2.classHandle member) := by
    rw [TransitionSystem.run_cons]
    change (self.insertClass root created.1 created.2).bind _ = _
    rw [insertClass_of_creates creates, found, Option.map_some, Option.bind_some,
      TransitionSystem.run_cons]
    change ((self.createClass root created.1 created.2 (some node.2)).insertClass root
      extended.1 extended.2).bind _ = _
    rw [insertClass_of_adds (regular.adds_createClass adds found root created.1)]
    rfl
  have secondClass := getClass_insertMember extended.2.classHandle created.2.classHandle
    member (self.createClass root created.1 created.2 (some node.2))
  rw [regular.getClass_createClass creates.2 found inside root created.1, Option.map_some,
    regular.withMember_newClass creates.2 adds.2 inside, if_pos gains] at secondClass
  have same := (irrelevant [] _ _ first second _ firstClass _ secondClass).2
  have inheritedNames : ∀ (name : String) (parent : ModelClass γ δ),
      (newClass root created.1 created.2 (some parent)).getMemberHandle name =
        parent.getMemberHandle name := fun _ _ => rfl
  dsimp only at same
  rw [inheritedNames, getMemberHandle_qualifiedName, getMemberHandle_enterMember, if_neg]
    at same
  · have has := membersKnown node.2 (List.mem_map_of_mem inside) _ _ same
    rw [gainsMember, has] at gains
    simp at gains
  · rw [not_or]
    refine ⟨?_, append_dot_append_ne _ _⟩
    intro equal
    exact differ (append_dot_append_inj equal).symm

/-- The order of a member and a class does not matter exactly if the class does not
inherit the member. -/
theorem Regular.orderIrrelevant_iff
    (regular : self.Regular) (membersKnown : self.MembersKnown)
    (adds : self.Adds member extended.2)
    (creates : self.Creates created.2) :
    self.OrderIrrelevant root member extended created ↔
      ¬ self.InheritsMember root member extended created := by
  constructor
  · intro irrelevant inherited
    exact regular.orderIrrelevant_of_inherits membersKnown adds creates inherited
      irrelevant
  · intro notInherited later final other first second
    have same := regular.insertClass_comm adds creates notInherited
    rw [TransitionSystem.run_cons] at first second
    simp only [TransitionSystem.run_cons] at first second
    rw [← Option.bind_assoc] at first second
    rw [same, second] at first
    cases first
    intro node found otherNode otherFound
    rw [Option.mem_def] at found otherFound
    rw [found] at otherFound
    cases otherFound
    exact ⟨rfl, rfl⟩

end ClassModel

/-! ## Modules -/

/-- The classes of a module, each with whether the module has an artificial root. -/
def FOMModule.interactionClassInsertions (module : FOMModule) :
    List (Bool × FOMInteractionClass) :=
  module.interactionClassList.map (Prod.mk module.artificialInteractionRoot)

def FOMModule.objectClassInsertions (module : FOMModule) :
    List (Bool × FOMObjectClass) :=
  module.objectClassList.map (Prod.mk module.artificialObjectRoot)

namespace ObjectModel

open ClassModel

variable {self final : ObjectModel}

/-- Modules that are inserted one after the other. -/
def modules : TransitionSystem ObjectModel FOMModule where
  initial := {}
  next self module := self.insertFOMModule module

theorem insertInteractionClasses_eq_some
    {artificialInteractionRoot : Bool}
    {interactionClassList : List FOMInteractionClass}
    (inserted : interactionClassList.foldlM
      (fun (entered : ObjectModel) interactionClass =>
        entered.insertInteractionClass interactionClass artificialInteractionRoot) self =
          some final) :
    (insertions "HLAinteractionRoot.").run self.interactionClasses
        (interactionClassList.map (Prod.mk artificialInteractionRoot)) =
          some final.interactionClasses ∧
      final.objectClasses = self.objectClasses := by
  induction interactionClassList generalizing self with
  | nil =>
      cases inserted
      exact ⟨rfl, rfl⟩
  | cons interactionClass rest ih =>
      rw [List.foldlM_cons] at inserted
      obtain ⟨after, stepped, later⟩ := Option.bind_eq_some_iff.mp inserted
      obtain ⟨interactionClasses, here, rfl⟩ := Option.map_eq_some_iff.mp stepped
      obtain ⟨ran, same⟩ := ih later
      refine ⟨?_, same⟩
      rw [List.map_cons, TransitionSystem.run_cons]
      exact Option.bind_eq_some_iff.mpr ⟨interactionClasses, here, ran⟩

theorem insertObjectClasses_eq_some
    {artificialObjectRoot : Bool} {objectClassList : List FOMObjectClass}
    (inserted : objectClassList.foldlM
      (fun (entered : ObjectModel) objectClass =>
        entered.insertObjectClass objectClass artificialObjectRoot) self =
          some final) :
    (insertions "HLAobjectRoot.").run self.objectClasses
        (objectClassList.map (Prod.mk artificialObjectRoot)) =
          some final.objectClasses ∧
      final.interactionClasses = self.interactionClasses := by
  induction objectClassList generalizing self with
  | nil =>
      cases inserted
      exact ⟨rfl, rfl⟩
  | cons objectClass rest ih =>
      rw [List.foldlM_cons] at inserted
      obtain ⟨after, stepped, later⟩ := Option.bind_eq_some_iff.mp inserted
      obtain ⟨objectClasses, here, rfl⟩ := Option.map_eq_some_iff.mp stepped
      obtain ⟨ran, same⟩ := ih later
      refine ⟨?_, same⟩
      rw [List.map_cons, TransitionSystem.run_cons]
      exact Option.bind_eq_some_iff.mpr ⟨objectClasses, here, ran⟩

/-- The classes of all modules are inserted one after the other. -/
theorem run_modules
    {history : List FOMModule}
    (ran : modules.run self history = some final) :
    (insertions "HLAinteractionRoot.").run self.interactionClasses
        (history.flatMap FOMModule.interactionClassInsertions) =
          some final.interactionClasses ∧
      (insertions "HLAobjectRoot.").run self.objectClasses
        (history.flatMap FOMModule.objectClassInsertions) =
          some final.objectClasses := by
  induction history generalizing self with
  | nil =>
      cases ran
      exact ⟨rfl, rfl⟩
  | cons module rest ih =>
      rw [TransitionSystem.run_cons] at ran
      obtain ⟨after, stepped, later⟩ := Option.bind_eq_some_iff.mp ran
      obtain ⟨between, interactions, objects⟩ := Option.bind_eq_some_iff.mp stepped
      obtain ⟨interactionsRan, objectsSame⟩ :=
        insertInteractionClasses_eq_some interactions
      obtain ⟨objectsRan, interactionsSame⟩ := insertObjectClasses_eq_some objects
      obtain ⟨interactionsLater, objectsLater⟩ := ih later
      rw [objectsSame] at objectsRan
      rw [interactionsSame] at interactionsLater
      rw [List.flatMap_cons, List.flatMap_cons, TransitionSystem.run_append,
        TransitionSystem.run_append]
      exact ⟨Option.bind_eq_some_iff.mpr ⟨_, interactionsRan, interactionsLater⟩,
        Option.bind_eq_some_iff.mpr ⟨_, objectsRan, objectsLater⟩⟩

/-- After any modules the classes are found under their full names exactly if all names
were apart, and a member may be inserted before or after a class is created exactly if
the class does not inherit it. -/
theorem lookups_iff
    {history : List FOMModule}
    (ran : modules.run modules.initial history = some final) :
    ((∀ interactionClass ∈ final.interactionClasses.classes.values,
        final.getInteractionClassHandle interactionClass.fqName =
          some interactionClass.classHandle) ∧
      (∀ objectClass ∈ final.objectClasses.classes.values,
        final.getObjectClassHandle objectClass.fqName =
          some objectClass.classHandle) ↔
      AllNamesApart "HLAinteractionRoot." {}
          (history.flatMap FOMModule.interactionClassInsertions) ∧
        AllNamesApart "HLAobjectRoot." {}
          (history.flatMap FOMModule.objectClassInsertions)) ∧
    (∀ parameter extended created,
      final.interactionClasses.Adds parameter extended.2 →
      final.interactionClasses.Creates created.2 →
      (final.interactionClasses.OrderIrrelevant "HLAinteractionRoot." parameter extended
          created ↔
        ¬ final.interactionClasses.InheritsMember "HLAinteractionRoot." parameter
          extended created)) ∧
    (∀ classAttribute extended created,
      final.objectClasses.Adds classAttribute extended.2 →
      final.objectClasses.Creates created.2 →
      (final.objectClasses.OrderIrrelevant "HLAobjectRoot." classAttribute extended created ↔
        ¬ final.objectClasses.InheritsMember "HLAobjectRoot." classAttribute extended
          created)) := by
  obtain ⟨interactionsRan, objectsRan⟩ := run_modules ran
  obtain ⟨interactionsRegular, interactionsFound⟩ :=
    Regular.initial.namesFound_run interactionsRan
  obtain ⟨objectsRegular, objectsFound⟩ := Regular.initial.namesFound_run objectsRan
  have none : ∀ {γ δ : Type}, NamesFound ({} : ClassModel γ δ) := by
    intro _ _ modelClass value
    cases value
  refine ⟨?_, ?_, ?_⟩
  · rw [and_iff_right none] at interactionsFound objectsFound
    exact and_congr interactionsFound objectsFound
  · intro parameter extended created
    exact interactionsRegular.orderIrrelevant_iff
      (MembersKnown.initial.run Regular.initial interactionsRan)
  · intro classAttribute extended created
    exact objectsRegular.orderIrrelevant_iff
      (MembersKnown.initial.run Regular.initial objectsRan)

/-- A module with classes below an artificial root, each with its parent. -/
def exampleModule (objectClasses : List (Nat × Nat × String)) : FOMModule where
  artificialInteractionRoot := true
  artificialObjectRoot := true
  interactionClassList := []
  objectClassList := ⟨0, none, "HLAobjectRoot", (), []⟩ ::
    objectClasses.map fun objectClass =>
      ⟨objectClass.1, some objectClass.2.1, objectClass.2.2, (), []⟩

/-- An attribute, a module's class that adds it to a class, and one that creates a class
below this one. -/
def exampleAttribute : FOMMember AttributeDescription :=
  ⟨1, "speed", ⟨.receive, .reliable, ∅, ""⟩⟩

def exampleAddition (objectClassHandle : Nat) : Bool × FOMObjectClass :=
  (true, ⟨objectClassHandle, none, "", (), [exampleAttribute]⟩)

def exampleCreation : Bool × FOMObjectClass :=
  (true, ⟨3, some 1, "Car", (), []⟩)

/-- The object classes with what is found under their full names. -/
def objectClassNames (self : ObjectModel) : List (Nat × String × Option Nat) :=
  self.objectClasses.classes.values.map fun objectClass =>
    (objectClass.classHandle, objectClass.fqName,
      self.getObjectClassHandle objectClass.fqName)

/-- Two classes with different names, and an attribute that a new class does not
inherit. -/
theorem lookups_iff_apart :
    ∃ final,
      modules.run modules.initial [exampleModule [(1, 0, "Vehicle"), (2, 0, "Pilot")]] =
          some final ∧
        (∀ objectClass ∈ final.objectClasses.classes.values,
          final.getObjectClassHandle objectClass.fqName =
            some objectClass.classHandle) ∧
        AllNamesApart "HLAobjectRoot." {}
          ([exampleModule [(1, 0, "Vehicle"), (2, 0, "Pilot")]].flatMap
            FOMModule.objectClassInsertions) ∧
        final.objectClasses.OrderIrrelevant "HLAobjectRoot." exampleAttribute
          (exampleAddition 2) exampleCreation := by
  have objects : (modules.run modules.initial
      [exampleModule [(1, 0, "Vehicle"), (2, 0, "Pilot")]]).map objectClassNames =
        some [(0, "HLAobjectRoot", some 0), (1, "Vehicle", some 1),
          (2, "Pilot", some 2)] := by decide +kernel
  have unrelated : (modules.run modules.initial
      [exampleModule [(1, 0, "Vehicle"), (2, 0, "Pilot")]]).all (fun final =>
        (final.objectClasses.getClass 1).all fun node =>
          !gainsMember 2 exampleAttribute (node.2 :: node.1)) = true := by
    decide +kernel
  obtain ⟨final, ran, objects⟩ := Option.map_eq_some_iff.mp objects
  rw [ran, Option.all_some] at unrelated
  have noInteractions := Option.some.inj (run_modules ran).1
  have objectsFound : ∀ objectClass ∈ final.objectClasses.classes.values,
      final.getObjectClassHandle objectClass.fqName =
        some objectClass.classHandle := by
    have listed : ∀ identity ∈ final.objectClassNames,
        identity.2.2 = some identity.1 := by
      rw [objects]
      decide
    intro objectClass value
    exact listed _ (List.mem_map_of_mem value)
  have established : ∀ objectClassHandle, objectClassHandle ∈ [0, 1, 2] ↔
      final.objectClasses.getClass objectClassHandle ≠ none := by
    intro objectClassHandle
    have handles := congrArg (List.map Prod.fst) objects
    rw [objectClassNames, List.map_map] at handles
    rw [Ne, getClass_eq_none, not_not]
    exact iff_of_eq (congrArg (objectClassHandle ∈ ·) handles.symm)
  have lookups := lookups_iff ran
  refine ⟨final, ran, objectsFound, (lookups.1.mp ⟨?_, objectsFound⟩).2, ?_⟩
  · rw [← noInteractions]
    intro interactionClass value
    cases value
  · apply (lookups.2.2 exampleAttribute (exampleAddition 2) exampleCreation
      ⟨rfl, (established 2).mp (by decide)⟩ ⟨rfl, ?_⟩).mpr
    · rintro ⟨parentClassHandle, isParent, node, known, gains, _⟩
      cases isParent
      rw [Option.mem_def.mp known, Option.all_some] at unrelated
      have notGained : gainsMember 2 exampleAttribute (node.2 :: node.1) = false := by
        simpa using unrelated
      exact absurd (notGained.symm.trans gains) Bool.false_ne_true
    · by_contra known
      exact absurd ((established 3).mpr known) (by decide)

/-- What the example's class has under the qualified name of the attribute after classes
have been inserted. -/
def qualifiedAttribute
    (later : List (Bool × FOMObjectClass))
    (self : ObjectModel) : Option (Option Nat) :=
  ((insertions "HLAobjectRoot.").run self.objectClasses later).bind fun after =>
    (after.getClass 3).map fun node =>
      node.2.getMemberHandle (node.2.qualifiedName exampleAttribute)

/-- A class has the simple name that is another class's full name, and a derived class
has an attribute under its qualified name only if the attribute comes after it. -/
theorem lookups_iff_fails :
    (¬ ∀ (history : List FOMModule) (final : ObjectModel),
      modules.run modules.initial history = some final →
      ∀ objectClass ∈ final.objectClasses.classes.values,
        final.getObjectClassHandle objectClass.fqName = some objectClass.classHandle) ∧
    ¬ ∀ (history : List FOMModule) (final : ObjectModel),
      modules.run modules.initial history = some final →
      ∀ classAttribute extended created,
        final.objectClasses.Adds classAttribute extended.2 →
        final.objectClasses.Creates created.2 →
        final.objectClasses.OrderIrrelevant "HLAobjectRoot." classAttribute extended
          created := by
  constructor
  · intro all
    have objects : (modules.run modules.initial [exampleModule
        [(1, 0, "Vehicle"), (2, 0, "Pilot"), (3, 2, "Vehicle")]]).map objectClassNames =
          some [(0, "HLAobjectRoot", some 0), (1, "Vehicle", some 3),
            (2, "Pilot", some 2), (3, "Pilot.Vehicle", some 3)] := by decide +kernel
    obtain ⟨final, ran, objects⟩ := Option.map_eq_some_iff.mp objects
    have listed : (1, "Vehicle", some 3) ∈ final.objectClassNames := by
      rw [objects]
      decide
    obtain ⟨objectClass, value, same⟩ := List.mem_map.mp listed
    simp only [Prod.mk.injEq] at same
    have found := all _ final ran objectClass value
    rw [same.2.2, same.1] at found
    exact absurd found (by decide)
  · intro all
    have objects : (modules.run modules.initial
        [exampleModule [(1, 0, "Vehicle")]]).map objectClassNames =
          some [(0, "HLAobjectRoot", some 0), (1, "Vehicle", some 1)] := by
      decide +kernel
    have first : (modules.run modules.initial [exampleModule [(1, 0, "Vehicle")]]).bind
        (qualifiedAttribute [exampleAddition 1, exampleCreation]) = some none := by
      decide +kernel
    have second : (modules.run modules.initial [exampleModule [(1, 0, "Vehicle")]]).bind
        (qualifiedAttribute [exampleCreation, exampleAddition 1]) = some (some 1) := by
      decide +kernel
    obtain ⟨final, ran, objects⟩ := Option.map_eq_some_iff.mp objects
    rw [ran, Option.bind_some] at first second
    obtain ⟨after, afterRan, first⟩ := Option.bind_eq_some_iff.mp first
    obtain ⟨node, found, first⟩ := Option.map_eq_some_iff.mp first
    obtain ⟨other, otherRan, second⟩ := Option.bind_eq_some_iff.mp second
    obtain ⟨otherNode, otherFound, second⟩ := Option.map_eq_some_iff.mp second
    have handles := congrArg (List.map Prod.fst) objects
    rw [objectClassNames, List.map_map] at handles
    have known : final.objectClasses.getClass 1 ≠ none := by
      rw [Ne, getClass_eq_none, not_not]
      exact handles ▸ (by decide : 1 ∈ [0, 1])
    have new : final.objectClasses.getClass 3 = none := by
      rw [getClass_eq_none]
      exact handles ▸ (by decide : 3 ∉ [0, 1])
    have same := all _ final ran exampleAttribute (exampleAddition 1) exampleCreation
      ⟨rfl, known⟩ ⟨rfl, new⟩ [] after other afterRan otherRan node found otherNode
      otherFound
    rw [first, second] at same
    exact absurd same.2 (by decide)

end ObjectModel
end Federate
end OpenRTI
