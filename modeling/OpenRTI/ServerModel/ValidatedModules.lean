import OpenRTI.ServerModel.ModuleWellFormedness

/-!
# What validating a module checks

From a module that is validated without an exception to its names, its members
and its dimensions, and from these to when it is well formed.
-/

namespace OpenRTI
namespace ServerModel

open Foundation (Nesting)
open Foundation.FailingState (except_bind_eq_ok)
open StringClass (name setName memberNames)

/-! ## Checks that have passed -/

theorem insertNew_eq_ok
    {α : Type} [DecidableEq α]
    {duplicate : ReadingFailure} {seen after : List α}
    {newName : α} :
    insertNew duplicate seen newName = .ok after ↔
      newName ∉ seen ∧ newName :: seen = after := by
  rw [insertNew]
  by_cases present : newName ∈ seen
  · rw [if_pos present]
    constructor
    · intro same
      cases same
    · intro holds
      exact absurd present holds.1
  · rw [if_neg present]
    constructor
    · intro same
      exact ⟨present, Except.ok.inj same⟩
    · intro holds
      rw [holds.2]

/-- A check that inserts the key of each element into the set of those seen. -/
def InsertsKeys
    {α κ : Type}
    (key : α → κ)
    (accepted : α → Prop)
    (check : List κ → α → Except ReadingFailure (List κ)) : Prop :=
  ∀ seen element after, check seen element = .ok after →
    accepted element ∧ key element ∉ seen ∧ key element :: seen = after

theorem InsertsKeys.foldlM
    {α κ : Type} {key : α → κ}
    {accepted : α → Prop}
    {check : List κ → α → Except ReadingFailure (List κ)}
    (inserts : InsertsKeys key accepted check)
    {list : List α} {seen after : List κ}
    (ran : list.foldlM check seen = .ok after) :
    (∀ element ∈ list, accepted element ∧ key element ∉ seen) ∧
      (list.map key).Nodup ∧
      ∀ inserted ∈ after, inserted ∈ seen ∨ inserted ∈ list.map key := by
  induction list generalizing seen with
  | nil =>
      cases ran
      refine ⟨?_, List.nodup_nil, fun _ member => Or.inl member⟩
      intro element member
      cases member
  | cons first rest ih =>
      rw [List.foldlM_cons] at ran
      obtain ⟨between, checked, further⟩ := except_bind_eq_ok.mp ran
      obtain ⟨valid, new, rfl⟩ := inserts seen first between checked
      obtain ⟨restHolds, distinct, inserted⟩ := ih further
      refine ⟨?_, ?_, ?_⟩
      · rw [List.forall_mem_cons]
        refine ⟨⟨valid, new⟩, ?_⟩
        intro element member
        obtain ⟨elementValid, unseen⟩ := restHolds element member
        exact ⟨elementValid, fun held =>
          unseen (List.mem_cons_of_mem _ held)⟩
      · rw [List.map_cons, List.nodup_cons]
        refine ⟨?_, distinct⟩
        intro member
        obtain ⟨element, elementMember, same⟩ := List.mem_map.mp member
        apply (restHolds element elementMember).2
        rw [same]
        exact List.mem_cons_self
      · intro newName member
        rw [List.map_cons, List.mem_cons]
        obtain seenBefore | later := inserted newName member
        · obtain atFirst | held := List.mem_cons.mp seenBefore
          · exact Or.inr (Or.inl atFirst)
          · exact Or.inl held
        · exact Or.inr (Or.inr later)

/-- Every dimension of a class or an attribute is declared. -/
def FOMStringModule2.DimensionsDeclared (module : FOMStringModule2) : Prop :=
  (∀ interactionClass ∈ module.interactionClassList,
    ∀ dimension ∈ interactionClass.dimensionSet,
      dimension ∈ module.dimensionList.map FOMStringDimension.name) ∧
    ∀ objectClass ∈ module.objectClassList,
      ∀ member ∈ objectClass.attributeList,
        ∀ dimension ∈ member.dimensionSet,
          dimension ∈ module.dimensionList.map FOMStringDimension.name

variable {nesting : Nesting} {own : Nat → String}

namespace FOMStringModuleBuilder

theorem checkName_eq_ok
    {kind : String} {stringSet after : List String}
    {newName : String}
    (checked : checkName kind stringSet newName = .ok after) :
    newName ∉ stringSet ∧ newName :: stringSet = after := by
  rw [checkName] at checked
  by_cases nameless : newName = ""
  · rw [if_pos nameless] at checked
    cases checked
  · rw [if_neg nameless] at checked
    exact insertNew_eq_ok.mp checked

theorem mem_of_checkDimensions
    {module : FOMStringModule2} {dimensionNames : List String}
    (ran : checkDimensions module = .ok dimensionNames)
    {dimension : String}
    (member : dimension ∈ dimensionNames) :
    dimension ∈ module.dimensionList.map FOMStringDimension.name := by
  have inserts : InsertsKeys FOMStringDimension.name (fun _ => True)
      (fun dimensionNames dimension =>
        checkName "dimension" dimensionNames dimension.name) :=
    fun _ _ _ checked => ⟨trivial, checkName_eq_ok checked⟩
  obtain seen | declared := (inserts.foldlM ran).2.2 dimension member
  · cases seen
  · exact declared

/-- The dimensions of a class are among those that are declared. -/
theorem insertsKeys_checkInteractionClass (dimensionNames : List String) :
    InsertsKeys (fun interactionClass : FOMStringInteractionClass =>
        interactionClass.name)
      (fun interactionClass => ∀ dimension ∈ interactionClass.dimensionSet,
        dimension ∈ dimensionNames)
      (checkInteractionClass dimensionNames) := by
  intro seen interactionClass after checked
  rw [checkInteractionClass] at checked
  by_cases nameless : interactionClass.name = []
  · rw [if_pos nameless] at checked
    cases checked
  · rw [if_neg nameless] at checked
    obtain ⟨between, inserted, declared⟩ := except_bind_eq_ok.mp checked
    by_cases undeclared : ∃ dimension ∈ interactionClass.dimensionSet,
        dimension ∉ dimensionNames
    · rw [if_pos undeclared] at declared
      cases declared
    · rw [if_neg undeclared] at declared
      cases declared
      refine ⟨?_, insertNew_eq_ok.mp inserted⟩
      intro dimension member
      by_contra missing
      exact undeclared ⟨dimension, member, missing⟩

theorem checkAttributeDimensions_eq_ok
    {dimensionNames : List String} {className : StringVector}
    {attributeList : List FOMStringAttribute}
    (ran : checkAttributeDimensions dimensionNames className attributeList =
      .ok ()) :
    ∀ member ∈ attributeList, ∀ dimension ∈ member.dimensionSet,
      dimension ∈ dimensionNames := by
  induction attributeList with
  | nil =>
      intro member within
      cases within
  | cons first rest ih =>
      rw [checkAttributeDimensions] at ran
      by_cases undeclared : ∃ dimension ∈ first.dimensionSet,
          dimension ∉ dimensionNames
      · rw [if_pos undeclared] at ran
        cases ran
      · rw [if_neg undeclared] at ran
        rw [List.forall_mem_cons]
        refine ⟨?_, ih ran⟩
        intro dimension member
        by_contra missing
        exact undeclared ⟨dimension, member, missing⟩

theorem insertsKeys_checkObjectClass (dimensionNames : List String) :
    InsertsKeys (fun objectClass : FOMStringObjectClass => objectClass.name)
      (fun objectClass => ∀ member ∈ objectClass.attributeList,
        ∀ dimension ∈ member.dimensionSet, dimension ∈ dimensionNames)
      (checkObjectClass dimensionNames) := by
  intro seen objectClass after checked
  rw [checkObjectClass] at checked
  by_cases nameless : objectClass.name = []
  · rw [if_pos nameless] at checked
    cases checked
  · rw [if_neg nameless] at checked
    obtain ⟨between, inserted, declared⟩ := except_bind_eq_ok.mp checked
    obtain ⟨_, valid, done⟩ := except_bind_eq_ok.mp declared
    cases done
    exact ⟨checkAttributeDimensions_eq_ok valid, insertNew_eq_ok.mp inserted⟩

/-! ## The root classes -/

section InsertRoot

variable {γ : Type} [StringClass γ] {rootName : String} {artificial : γ}
  {classList : List γ}

theorem rootGiven_iff
    (names : classList.map name = nesting.names own) :
    RootGiven rootName nesting own ↔
      classList.head?.map name = some [rootName] := by
  rw [RootGiven, ← names, List.head?_map]

/-- The names are full paths. -/
theorem names_insertRoot
    {nesting : Nesting} {own : Nat → String}
    (nameless : name artificial = [])
    (names : classList.map name = nesting.names own) :
    (insertRoot rootName artificial classList).2.map name =
      fullPaths rootName nesting own := by
  rw [insertRoot, fullPaths]
  by_cases given : classList.head?.map name = some [rootName]
  · rw [if_pos given, if_pos ((rootGiven_iff names).mpr given)]
    exact names
  · rw [if_neg given, if_neg (mt (rootGiven_iff names).mp given), ← names,
      List.map_map, List.map_cons, List.map_map, Function.comp_apply,
      StringClass.name_setName, nameless]
    congr 1
    apply List.map_congr_left
    intro stringClass _
    exact StringClass.name_setName _ _

theorem members_insertRoot
    {nesting : Nesting} {own : Nat → String}
    (names : classList.map name = nesting.names own) :
    (insertRoot rootName artificial classList).2.map memberNames =
      if RootGiven rootName nesting own then classList.map memberNames
      else memberNames artificial :: classList.map memberNames := by
  rw [insertRoot]
  by_cases given : classList.head?.map name = some [rootName]
  · rw [if_pos given, if_pos ((rootGiven_iff names).mpr given)]
  · rw [if_neg given, if_neg (mt (rootGiven_iff names).mp given),
      List.map_map, List.map_cons, Function.comp_apply,
      StringClass.memberNames_setName]
    congr 1
    apply List.map_congr_left
    intro stringClass _
    exact StringClass.memberNames_setName _ _

/-- What does not depend on the names is true of all classes. -/
theorem forall_mem_insertRoot
    {property : γ → Prop}
    (kept : ∀ newName stringClass, property stringClass →
      property (setName newName stringClass))
    (root : property artificial)
    (others : ∀ stringClass ∈ classList, property stringClass) :
    ∀ stringClass ∈ (insertRoot rootName artificial classList).2,
      property stringClass := by
  rw [insertRoot]
  by_cases given : classList.head?.map name = some [rootName]
  · rw [if_pos given]
    exact others
  · rw [if_neg given, List.forall_mem_map, List.forall_mem_cons]
    refine ⟨kept _ _ root, ?_⟩
    intro stringClass member
    exact kept _ _ (others stringClass member)

end InsertRoot

theorem names_setRootAttribute (classList : List FOMStringObjectClass) :
    (classList.modifyHead setRootAttribute).map name =
      classList.map name := by
  cases classList with
  | nil => rfl
  | cons first rest => rfl

theorem members_setRootAttribute (classList : List FOMStringObjectClass) :
    (classList.modifyHead setRootAttribute).map memberNames =
      (classList.map memberNames).modifyHead
        fun _ => ["HLAprivilegeToDeleteObject"] := by
  cases classList with
  | nil => rfl
  | cons first rest => rfl

/-! ## Validated modules -/

/-- The classes of a validated module, and its dimensions. -/
structure Validated
    (builder : FOMStringModuleBuilder)
    (interactionClassList : List FOMStringInteractionClass)
    (objectClassList : List FOMStringObjectClass)
    (module : FOMStringModule2) : Prop where
  interactionNames : completeNames builder.parentInteractionClassIndexVector
    builder.module.interactionClassList = .ok interactionClassList
  objectNames : completeNames builder.parentObjectClassIndexVector
    builder.module.objectClassList = .ok objectClassList
  interactionDistinct : (interactionClassList.map name).Nodup
  objectDistinct : (objectClassList.map name).Nodup
  interactionClassList_eq : module.interactionClassList =
    (insertRoot "HLAinteractionRoot" ⟨[], "", "", [], []⟩
      interactionClassList).2
  objectClassList_eq : module.objectClassList =
    (insertRoot "HLAobjectRoot" ⟨[], []⟩ objectClassList).2.modifyHead
      setRootAttribute
  dimensionsDeclared : module.DimensionsDeclared

theorem dimensionsDeclared_setRootAttribute
    {classList : List FOMStringObjectClass} {declared : String → Prop}
    (holds : ∀ objectClass ∈ classList,
      ∀ member ∈ objectClass.attributeList,
        ∀ dimension ∈ member.dimensionSet, declared dimension) :
    ∀ objectClass ∈ classList.modifyHead setRootAttribute,
      ∀ member ∈ objectClass.attributeList,
        ∀ dimension ∈ member.dimensionSet, declared dimension := by
  cases classList with
  | nil => exact holds
  | cons first rest =>
      rw [List.forall_mem_cons] at holds
      rw [List.modifyHead_cons, List.forall_mem_cons]
      refine ⟨?_, holds.2⟩
      intro member within dimension used
      rw [List.mem_singleton.mp within] at used
      cases attributes : first.attributeList with
      | nil =>
          rw [attributes] at used
          cases used
      | cons only others =>
          rw [attributes] at used
          apply holds.1 only
          · rw [attributes]
            exact List.mem_cons_self
          · exact used

/-- What is known when no exception is thrown. -/
theorem validated_of_validate
    {self after : FOMStringModuleBuilder}
    (ran : self.validate = .ok after) :
    ∃ interactionClassList objectClassList,
      self.Validated interactionClassList objectClassList after.module := by
  rw [validate] at ran
  obtain ⟨interactionClassList, interactionNames, ran⟩ :=
    except_bind_eq_ok.mp ran
  obtain ⟨objectClassList, objectNames, ran⟩ := except_bind_eq_ok.mp ran
  obtain ⟨_, _, ran⟩ := except_bind_eq_ok.mp ran
  obtain ⟨dimensionNames, dimensions, ran⟩ := except_bind_eq_ok.mp ran
  obtain ⟨_, interactionChecks, ran⟩ := except_bind_eq_ok.mp ran
  obtain ⟨_, objectChecks, ran⟩ := except_bind_eq_ok.mp ran
  obtain ⟨_, _, ran⟩ := except_bind_eq_ok.mp ran
  obtain ⟨_, _, done⟩ := except_bind_eq_ok.mp ran
  cases done
  obtain ⟨interactionHolds, interactionDistinct, _⟩ :=
    (insertsKeys_checkInteractionClass dimensionNames).foldlM
      interactionChecks
  obtain ⟨objectHolds, objectDistinct, _⟩ :=
    (insertsKeys_checkObjectClass dimensionNames).foldlM objectChecks
  refine ⟨interactionClassList, objectClassList, interactionNames,
    objectNames, interactionDistinct, objectDistinct, rfl, rfl, ?_, ?_⟩
  · refine @forall_mem_insertRoot FOMStringInteractionClass _ _ _ _
      (fun interactionClass => ∀ dimension ∈ interactionClass.dimensionSet,
        dimension ∈ self.module.dimensionList.map FOMStringDimension.name)
      (fun _ _ holds => holds) ?_ ?_
    · intro dimension member
      cases member
    · intro interactionClass member dimension used
      exact mem_of_checkDimensions dimensions
        ((interactionHolds interactionClass member).1 dimension used)
  · apply dimensionsDeclared_setRootAttribute
    refine @forall_mem_insertRoot FOMStringObjectClass _ _ _ _
      (fun objectClass => ∀ member ∈ objectClass.attributeList,
        ∀ dimension ∈ member.dimensionSet,
          dimension ∈ self.module.dimensionList.map FOMStringDimension.name)
      (fun _ _ holds => holds) ?_ ?_
    · intro member within
      cases within
    · intro objectClass member classAttribute within dimension used
      exact mem_of_checkDimensions dimensions
        ((objectHolds objectClass member).1 classAttribute within dimension
          used)

end FOMStringModuleBuilder

/-! ## When a validated module is well formed -/

theorem membersOf_map
    {γ : Type} [StringClass γ]
    (classList : List γ) (index : Nat) :
    membersOf classList index =
      ((classList.map memberNames)[index]?).getD [] := by
  rw [membersOf, List.getElem?_map]

/-- Where the first class is the root class, all others are in it. -/
def RootAround
    (rootName : String)
    (nesting : Nesting)
    (own : Nat → String) : Prop :=
  RootGiven rootName nesting own → ∀ path ∈ nesting.paths, 0 ∈ path

/-- No attribute is given twice to a class, or to it and one it is in, nor is
the attribute of the root class given to another class.  What is given to the
root class is not kept. -/
def AttributesDistinct
    (nesting : Nesting)
    (own : Nat → String)
    (members : Nat → List String) : Prop :=
  ∀ (index : Nat) (path : List Nat), nesting.paths[index]? = some path →
    ¬(RootGiven "HLAobjectRoot" nesting own ∧ index = 0) →
      (members index).Nodup ∧
        "HLAprivilegeToDeleteObject" ∉ members index ∧
        ∀ outer ∈ path, outer ≠ index →
          ¬(RootGiven "HLAobjectRoot" nesting own ∧ outer = 0) →
            (members outer).Disjoint (members index)

theorem path_zero
    {path : List Nat}
    (found : nesting.paths[0]? = some path) : path = [0] := by
  obtain ⟨enclosing, same, outermost | ⟨outer, before, _⟩⟩ :=
    nesting.path_eq 0 path found
  · rw [same, outermost]
    rfl
  · exact absurd before (Nat.not_lt_zero outer)

variable {members kept : Nat → List String}

theorem attributesDistinct_of_root
    (root : RootGiven "HLAobjectRoot" nesting own)
    (around : ∀ path ∈ nesting.paths, 0 ∈ path)
    (atRoot : kept 0 = ["HLAprivilegeToDeleteObject"])
    (others : ∀ index, kept (index + 1) = members (index + 1)) :
    MembersDistinct nesting kept ↔
      AttributesDistinct nesting own members := by
  constructor
  · intro distinct index path found below
    cases index with
    | zero => exact absurd ⟨root, rfl⟩ below
    | succ index =>
        obtain ⟨itself, apart⟩ := distinct (index + 1) path found
        have fromRoot := apart 0 (around path (List.mem_of_getElem? found))
          (Nat.succ_ne_zero index).symm
        rw [others] at itself apart fromRoot
        rw [atRoot, List.singleton_disjoint] at fromRoot
        refine ⟨itself, fromRoot, ?_⟩
        intro outer member different belowRoot
        cases outer with
        | zero => exact absurd ⟨root, rfl⟩ belowRoot
        | succ outer =>
            rw [← others outer]
            exact apart (outer + 1) member different
  · intro distinct index path found
    cases index with
    | zero =>
        rw [atRoot]
        refine ⟨List.nodup_singleton _, ?_⟩
        intro outer member different
        rw [path_zero found, List.mem_singleton] at member
        exact absurd member different
    | succ index =>
        obtain ⟨itself, fromRoot, apart⟩ :=
          distinct (index + 1) path found fun holds =>
            Nat.succ_ne_zero index holds.2
        rw [others]
        refine ⟨itself, ?_⟩
        intro outer member different
        cases outer with
        | zero =>
            rw [atRoot, List.singleton_disjoint]
            exact fromRoot
        | succ outer =>
            rw [others]
            exact apart (outer + 1) member different fun holds =>
              Nat.succ_ne_zero outer holds.2

theorem attributesDistinct_of_not_root
    (noRoot : ¬RootGiven "HLAobjectRoot" nesting own)
    (atRoot : kept 0 = ["HLAprivilegeToDeleteObject"])
    (others : ∀ index, kept (index + 1) = members index) :
    MembersDistinct nesting.insertOutermost kept ↔
      AttributesDistinct nesting own members := by
  have below : ∀ index,
      ¬(RootGiven "HLAobjectRoot" nesting own ∧ index = 0) :=
    fun _ holds => noRoot holds.1
  rw [membersDistinct_insertOutermost_iff, atRoot]
  simp only [others, List.singleton_disjoint]
  constructor
  · rintro ⟨_, fromRoot, distinct⟩ index path found _
    obtain ⟨itself, apart⟩ := distinct index path found
    exact ⟨itself, fromRoot index path found,
      fun outer member different _ => apart outer member different⟩
  · intro distinct
    refine ⟨List.nodup_singleton _, ?_, ?_⟩
    · intro index path found
      exact (distinct index path found (below index)).2.1
    · intro index path found
      obtain ⟨itself, _, apart⟩ := distinct index path found (below index)
      exact ⟨itself, fun outer member different =>
        apart outer member different (below outer)⟩

theorem parametersDistinct_of_not_root
    (atRoot : kept 0 = [])
    (others : ∀ index, kept (index + 1) = members index) :
    MembersDistinct nesting.insertOutermost kept ↔
      MembersDistinct nesting members := by
  have same : (fun index => kept (index + 1)) = members := by
    funext index
    exact others index
  rw [membersDistinct_insertOutermost_iff, atRoot, same]
  constructor
  · intro holds
    exact holds.2.2
  · intro holds
    exact ⟨List.nodup_nil, fun _ _ _ => List.disjoint_nil_left _, holds⟩

/-- The calls of a reader give a well-formed module. -/
structure ModuleWellFormed
    (calls : List BuilderCall)
    (builder : FOMStringModuleBuilder)
    (module : FOMStringModule2) : Prop where
  objectClasses : ClassesWellFormed "HLAobjectRoot"
    (fullPaths "HLAobjectRoot" (objectClassNesting calls)
      (ownName builder.module.objectClassList))
    module.objectClassList
  interactionClasses : ClassesWellFormed "HLAinteractionRoot"
    (fullPaths "HLAinteractionRoot" (interactionClassNesting calls)
      (ownName builder.module.interactionClassList))
    module.interactionClassList
  dimensionsDeclared : module.DimensionsDeclared

/-- The calls of a reader give members once on each path, and no class beside a
root class. -/
structure GivenOnce
    (calls : List BuilderCall)
    (builder : FOMStringModuleBuilder) : Prop where
  objectRoot : RootAround "HLAobjectRoot" (objectClassNesting calls)
    (ownName builder.module.objectClassList)
  attributes : AttributesDistinct (objectClassNesting calls)
    (ownName builder.module.objectClassList)
    (membersOf builder.module.objectClassList)
  interactionRoot : RootAround "HLAinteractionRoot"
    (interactionClassNesting calls)
    (ownName builder.module.interactionClassList)
  parameters : MembersDistinct (interactionClassNesting calls)
    (membersOf builder.module.interactionClassList)

namespace FOMStringModuleBuilder

section Validated

variable {calls : List BuilderCall} {self : FOMStringModuleBuilder}
  {interactionClassList : List FOMStringInteractionClass}
  {objectClassList : List FOMStringObjectClass} {module : FOMStringModule2}

theorem Validated.interactionClasses_iff
    (validated : self.Validated interactionClassList objectClassList module)
    (nested : self.Nested (objectClassNesting calls)
      (interactionClassNesting calls))
    (oneName : ∀ interactionClass ∈ self.module.interactionClassList,
      interactionClass.name.length = 1) :
    ClassesWellFormed "HLAinteractionRoot"
        (fullPaths "HLAinteractionRoot" (interactionClassNesting calls)
          (ownName self.module.interactionClassList))
        module.interactionClassList ↔
      RootAround "HLAinteractionRoot" (interactionClassNesting calls)
          (ownName self.module.interactionClassList) ∧
        MembersDistinct (interactionClassNesting calls)
          (membersOf self.module.interactionClassList) := by
  obtain ⟨names, members⟩ :=
    completeNames_spec nested.2 oneName validated.interactionNames
  have distinct := validated.interactionDistinct
  rw [names] at distinct
  have full := @names_insertRoot _ _ "HLAinteractionRoot"
    ⟨[], "", "", [], []⟩ _ _ _ rfl names
  have kept := @members_insertRoot _ _ "HLAinteractionRoot"
    ⟨[], "", "", [], []⟩ _ _ _ names
  rw [← validated.interactionClassList_eq] at full kept
  rw [classesWellFormed_fullPaths_iff full distinct]
  by_cases root : RootGiven "HLAinteractionRoot"
      (interactionClassNesting calls)
      (ownName self.module.interactionClassList)
  · have same : membersOf module.interactionClassList =
        membersOf self.module.interactionClassList := by
      funext index
      rw [membersOf_map, membersOf_map, kept, if_pos root, members]
    rw [if_pos root, same, RootAround, forall_prop_of_true root]
  · rw [if_neg root, members] at kept
    have atRoot : membersOf module.interactionClassList 0 = [] := by
      rw [membersOf_map, kept]
      rfl
    have others : ∀ index, membersOf module.interactionClassList (index + 1) =
        membersOf self.module.interactionClassList index := by
      intro index
      rw [membersOf_map, membersOf_map, kept, List.getElem?_cons_succ]
    rw [if_neg root, parametersDistinct_of_not_root atRoot others]
    exact (and_iff_right fun given => absurd given root).symm

theorem Validated.objectClasses_iff
    (validated : self.Validated interactionClassList objectClassList module)
    (nested : self.Nested (objectClassNesting calls)
      (interactionClassNesting calls))
    (oneName : ∀ objectClass ∈ self.module.objectClassList,
      objectClass.name.length = 1) :
    ClassesWellFormed "HLAobjectRoot"
        (fullPaths "HLAobjectRoot" (objectClassNesting calls)
          (ownName self.module.objectClassList))
        module.objectClassList ↔
      RootAround "HLAobjectRoot" (objectClassNesting calls)
          (ownName self.module.objectClassList) ∧
        AttributesDistinct (objectClassNesting calls)
          (ownName self.module.objectClassList)
          (membersOf self.module.objectClassList) := by
  obtain ⟨names, members⟩ :=
    completeNames_spec nested.1 oneName validated.objectNames
  have distinct := validated.objectDistinct
  rw [names] at distinct
  have full : module.objectClassList.map name =
      fullPaths "HLAobjectRoot" (objectClassNesting calls)
        (ownName self.module.objectClassList) := by
    rw [validated.objectClassList_eq, names_setRootAttribute]
    exact names_insertRoot rfl names
  have kept : module.objectClassList.map memberNames =
      (if RootGiven "HLAobjectRoot" (objectClassNesting calls)
          (ownName self.module.objectClassList)
        then objectClassList.map memberNames
        else [] :: objectClassList.map memberNames).modifyHead
          fun _ => ["HLAprivilegeToDeleteObject"] := by
    rw [validated.objectClassList_eq, members_setRootAttribute,
      members_insertRoot names]
    rfl
  rw [classesWellFormed_fullPaths_iff full distinct]
  by_cases root : RootGiven "HLAobjectRoot" (objectClassNesting calls)
      (ownName self.module.objectClassList)
  · rw [if_pos root, members] at kept
    have nonempty : self.module.objectClassList.map memberNames ≠ [] := by
      intro nothing
      rw [← members, List.map_eq_nil_iff] at nothing
      rw [RootGiven, ← names, nothing] at root
      cases root
    obtain ⟨first, rest, split⟩ := List.exists_cons_of_ne_nil nonempty
    rw [split, List.modifyHead_cons] at kept
    have atRoot : membersOf module.objectClassList 0 =
        ["HLAprivilegeToDeleteObject"] := by
      rw [membersOf_map, kept]
      rfl
    have others : ∀ index, membersOf module.objectClassList (index + 1) =
        membersOf self.module.objectClassList (index + 1) := by
      intro index
      rw [membersOf_map, membersOf_map, kept, split, List.getElem?_cons_succ,
        List.getElem?_cons_succ]
    rw [if_pos root, RootAround, forall_prop_of_true root]
    apply and_congr_right
    intro around
    exact attributesDistinct_of_root root around atRoot others
  · rw [if_neg root, members, List.modifyHead_cons] at kept
    have atRoot : membersOf module.objectClassList 0 =
        ["HLAprivilegeToDeleteObject"] := by
      rw [membersOf_map, kept]
      rfl
    have others : ∀ index, membersOf module.objectClassList (index + 1) =
        membersOf self.module.objectClassList index := by
      intro index
      rw [membersOf_map, membersOf_map, kept, List.getElem?_cons_succ]
    rw [if_neg root, attributesDistinct_of_not_root root atRoot others]
    exact (and_iff_right fun given => absurd given root).symm

/-- A validated module is well formed if and only if the reader has given each
member once. -/
theorem validate_wellFormed_iff
    {after : FOMStringModuleBuilder}
    (ran : run {} calls = .ok self)
    (oneObjectName : ∀ objectClass ∈ self.module.objectClassList,
      objectClass.name.length = 1)
    (oneInteractionName : ∀ interactionClass ∈
      self.module.interactionClassList, interactionClass.name.length = 1)
    (valid : self.validate = .ok after) :
    ModuleWellFormed calls self after.module ↔ GivenOnce calls self := by
  have nested := nested_of_run ran
  obtain ⟨interactionClassList, objectClassList, validated⟩ :=
    validated_of_validate valid
  have objectClasses := validated.objectClasses_iff nested oneObjectName
  have interactionClasses :=
    validated.interactionClasses_iff nested oneInteractionName
  constructor
  · intro wellFormed
    obtain ⟨objectRoot, attributes⟩ :=
      objectClasses.mp wellFormed.objectClasses
    obtain ⟨interactionRoot, parameters⟩ :=
      interactionClasses.mp wellFormed.interactionClasses
    exact ⟨objectRoot, attributes, interactionRoot, parameters⟩
  · intro given
    exact ⟨objectClasses.mpr ⟨given.objectRoot, given.attributes⟩,
      interactionClasses.mpr ⟨given.interactionRoot, given.parameters⟩,
      validated.dimensionsDeclared⟩

end Validated

/-- A class in another, the dimension of its attribute declared. -/
def exampleCalls : List BuilderCall :=
  [.addDimension, .setDimensionName "space", .pushObjectClass,
    .pushObjectClassName "Vehicle", .addAttribute, .setAttributeName "speed",
    .pushObjectClass, .pushObjectClassName "Car", .addAttribute,
    .setAttributeName "wheels", .addAttributeDimension "space",
    .popObjectClass, .popObjectClass]

/-- The builder after these calls. -/
def exampleBuilder : FOMStringModuleBuilder :=
  (run {} exampleCalls).toOption.getD {}

theorem givenOnce_exampleCalls : GivenOnce exampleCalls exampleBuilder := by
  have noObjectRoot : ¬RootGiven "HLAobjectRoot"
      (objectClassNesting exampleCalls)
      (ownName exampleBuilder.module.objectClassList) := by
    decide +kernel
  have paths : (objectClassNesting exampleCalls).paths = [[0], [0, 1]] := rfl
  have ofVehicle :
      membersOf exampleBuilder.module.objectClassList 0 = ["speed"] := rfl
  have ofCar :
      membersOf exampleBuilder.module.objectClassList 1 = ["wheels"] := rfl
  refine ⟨fun given => absurd given noObjectRoot, ?_, ?_, ?_⟩
  · intro index path found _
    rw [paths] at found
    generalize exampleBuilder.module.objectClassList = classList at *
    match index with
    | 0 =>
        cases found
        rw [ofVehicle]
        refine ⟨by decide, by decide, ?_⟩
        intro outer member different
        exact absurd (List.mem_singleton.mp member) different
    | 1 =>
        cases found
        rw [ofCar]
        refine ⟨by decide, by decide, ?_⟩
        intro outer member different _
        obtain rfl : outer = 0 := by
          simpa [different] using member
        rw [ofVehicle]
        simp
    | index + 2 => cases found
  · intro given
    cases given
  · intro index path found
    cases found

theorem validate_wellFormed_iff_exampleCalls :
    ∃ after, run {} exampleCalls = .ok exampleBuilder ∧
      exampleBuilder.validate = .ok after ∧
      ModuleWellFormed exampleCalls exampleBuilder after.module :=
  ⟨_, rfl, rfl,
    (validate_wellFormed_iff rfl (by decide) (by decide) rfl).mpr
      givenOnce_exampleCalls⟩

/-- A class in another, both with an attribute of the same name. -/
def repeatedAttributeCalls : List BuilderCall :=
  [.pushObjectClass, .pushObjectClassName "Vehicle", .addAttribute,
    .setAttributeName "speed", .pushObjectClass, .pushObjectClassName "Car",
    .addAttribute, .setAttributeName "speed", .popObjectClass, .popObjectClass]

theorem validate_wellFormed_fails :
    ¬∀ (calls : List BuilderCall) (self after : FOMStringModuleBuilder),
      run {} calls = .ok self →
        (∀ objectClass ∈ self.module.objectClassList,
          objectClass.name.length = 1) →
        (∀ interactionClass ∈ self.module.interactionClassList,
          interactionClass.name.length = 1) →
        self.validate = .ok after →
          ModuleWellFormed calls self after.module := by
  intro always
  have wellFormed := always repeatedAttributeCalls _ _ rfl (by decide)
    (by decide) rfl
  have distinct := (wellFormed.objectClasses.members _
    (.tail _ (.tail _ (.head _)))).2 _ (.tail _ (.head _)) (by decide)
    (by decide)
  exact distinct List.mem_cons_self List.mem_cons_self

end FOMStringModuleBuilder

end ServerModel
end OpenRTI
