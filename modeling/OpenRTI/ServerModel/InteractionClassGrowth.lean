import OpenRTI.ServerModel.InteractionClass

/-!
# How an entry of a module changes the interaction classes

A successful entry of a module changes the tree of interaction classes only in
this way: it may create the class and describe it, then adds parameters to the
class one after the other.  Every class stays linked to a module, so a module
that has created nothing leaves the classes as they were.
-/

namespace OpenRTI
namespace ServerModel

open Foundation
open Foundation.FailingState

variable {name : String}

namespace InteractionClass

/-- The names of the parameters a class defines itself. -/
def parameterNames (self : InteractionClass) : List String :=
  self.parameterDefinitions.map ParameterDefinition.name

theorem getParameterDefinition_eq_none
    {self : InteractionClass} :
    self.getParameterDefinition name = none ↔
      name ∉ self.parameterNames := by
  simp only [getParameterDefinition, parameterNames, List.find?_eq_none,
    List.mem_map, decide_eq_true_eq]
  grind

end InteractionClass

variable {interactionClassHandle : InteractionClassHandle}

namespace InteractionClassTable

/-- Handles and names identify classes. -/
abbrev Regular (table : InteractionClassTable) : Prop :=
  ClassTree.Regular InteractionClass.interactionClassHandle
    InteractionClass.name table.classes table.handleAllocator

/-- A change of a class that concerns only its order, transportation and
dimensions. -/
def Describes (change : InteractionClass → InteractionClass) : Prop :=
  ∀ interactionClass,
    (change interactionClass).interactionClassHandle =
        interactionClass.interactionClassHandle ∧
      (change interactionClass).name = interactionClass.name ∧
      (change interactionClass).parameterDefinitions =
        interactionClass.parameterDefinitions ∧
      (change interactionClass).classParameters =
        interactionClass.classParameters ∧
      (change interactionClass).publishSubscribe =
        interactionClass.publishSubscribe

/-- The tree after a class has been described and parameters of the given names
have been added to it. -/
inductive Grows
    (interactionClassHandle : InteractionClassHandle)
    (names : List String)
    (start : InteractionClassTable) : InteractionClassTable → Prop
  | refl : Grows interactionClassHandle names start start
  | describe
      {grown : InteractionClassTable}
      (before : Grows interactionClassHandle names start grown)
      {change : InteractionClass → InteractionClass}
      (describes : Describes change) :
      Grows interactionClassHandle names start
        (grown.adjust interactionClassHandle change id)
  | add
      {grown : InteractionClassTable}
      (before : Grows interactionClassHandle names start grown)
      {definition : ParameterDefinition}
      {parameterHandleAllocator : HandleAllocator invalidHandle}
      (got : HandleAllocator.get grown.parameterHandleAllocator =
        .ok definition.parameterHandle parameterHandleAllocator)
      (unknown : ∀ node,
        grown.findHandle interactionClassHandle = some node →
        definition.name ∉ node.2.parameterNames)
      (listed : definition.name ∈ names) :
      Grows interactionClassHandle names start
        (insertParameterDefinition interactionClassHandle definition
          { grown with parameterHandleAllocator })

variable {names : List String}

theorem Grows.trans
    {first second third : InteractionClassTable}
    (left : Grows interactionClassHandle names first second)
    (right : Grows interactionClassHandle names second third) :
    Grows interactionClassHandle names first third := by
  induction right with
  | refl => exact left
  | describe _ describes ih =>
      exact .describe ih describes
  | add _ got unknown listed ih =>
      exact .add ih got unknown listed

variable {start grown : InteractionClassTable}

theorem Grows.weaken
    {more : List String}
    (subset : names ⊆ more)
    (grows : Grows interactionClassHandle names start grown) :
    Grows interactionClassHandle more start grown := by
  induction grows with
  | refl => exact .refl
  | describe _ describes ih =>
      exact .describe ih describes
  | add _ got unknown listed ih =>
      exact .add ih got unknown (subset listed)

theorem Grows.regular
    (grows : Grows interactionClassHandle names start grown)
    (regular : start.Regular) :
    grown.Regular := by
  induction grows with
  | refl => exact regular
  | describe _ describes ih =>
      exact ih.adjust
        (fun interactionClass => (describes interactionClass).1)
        (fun _ => rfl)
        (fun interactionClass => (describes interactionClass).2.1)
        (fun _ => rfl)
  | add _ _ _ _ ih =>
      exact ih.adjust (fun _ => rfl) (fun _ => rfl)
        (fun _ => rfl) (fun _ => rfl)

/-- Each class after growth was there before, and defines parameters only if it
did or some were listed for it. -/
theorem Grows.mem_values
    (grows : Grows interactionClassHandle names start grown)
    {grownClass : InteractionClass}
    (member : grownClass ∈ grown.classes.values) :
    ∃ interactionClass ∈ start.classes.values,
      interactionClass.interactionClassHandle =
          grownClass.interactionClassHandle ∧
        (grownClass.parameterDefinitions ≠ [] →
          interactionClass.parameterDefinitions ≠ [] ∨
            interactionClass.interactionClassHandle =
                interactionClassHandle ∧
              names ≠ []) := by
  induction grows generalizing grownClass with
  | refl => exact ⟨grownClass, member, rfl, Or.inl⟩
  | describe _ describes ih =>
      obtain ⟨between, betweenMember, same⟩ :=
        ClassTree.mem_values_adjust member
      obtain ⟨interactionClass, startMember, handle, defines⟩ :=
        ih betweenMember
      refine ⟨interactionClass, startMember, ?_⟩
      obtain rfl | rfl | ⟨_, rfl⟩ := same
      · exact ⟨handle, defines⟩
      · exact ⟨handle, defines⟩
      · rw [(describes between).1, (describes between).2.2.1]
        exact ⟨handle, defines⟩
  | add _ _ _ listed ih =>
      obtain ⟨between, betweenMember, same⟩ :=
        ClassTree.mem_values_adjust member
      obtain ⟨interactionClass, startMember, handle, defines⟩ :=
        ih betweenMember
      refine ⟨interactionClass, startMember, ?_⟩
      obtain rfl | rfl | ⟨here, rfl⟩ := same
      · exact ⟨handle, defines⟩
      · exact ⟨handle, defines⟩
      · exact ⟨handle, fun _ =>
          Or.inr ⟨handle.trans here, List.ne_nil_of_mem listed⟩⟩

end InteractionClassTable

variable {before after : InteractionClassInsertion} {result : Unit}
variable {dimensions : DimensionTable}

/-! ## What a successful entry has done -/

namespace InteractionClassInsertion

open InteractionClassTable

theorem modifyTable_ok
    {change : InteractionClassTable → InteractionClassTable}
    (ran : modifyTable change before = .ok result after) :
    after = before.withTable (change before.toInteractionClassTable) :=
  (modify_eq_ok.mp ran).symm

/-- Describing a class does no more than that. -/
theorem modifyClass_ok
    {change : InteractionClass → InteractionClass}
    (ran : modifyClass interactionClassHandle change before =
      .ok result after)
    (describes : Describes change) :
    ∃ grown,
      after = before.withTable grown ∧
        Grows interactionClassHandle [] before.toInteractionClassTable
          grown :=
  ⟨_, modifyTable_ok ran, .describe .refl describes⟩

theorem insertInteractionClassDimensions_ok
    {dimensionNames : List String}
    (ran : insertInteractionClassDimensions dimensions
      interactionClassHandle dimensionNames before = .ok result after) :
    ∃ grown,
      after = before.withTable grown ∧
        Grows interactionClassHandle [] before.toInteractionClassTable
          grown := by
  induction dimensionNames generalizing before with
  | nil =>
      rw [insertInteractionClassDimensions, pure_eq_ok] at ran
      exact ⟨_, ran.2.symm, .refl⟩
  | cons dimensionName rest ih =>
      simp only [insertInteractionClassDimensions, bind_eq_ok, check_eq_ok]
        at ran
      obtain ⟨handle, _, ⟨_, rfl⟩, _, _, inserted, ran⟩ := ran
      obtain ⟨between, rfl, described⟩ := modifyClass_ok inserted
        fun _ => ⟨rfl, rfl, rfl, rfl, rfl⟩
      obtain ⟨grown, rfl, grows⟩ := ih ran
      exact ⟨grown, rfl, described.trans grows⟩

theorem findParameterDefinition_eq_none
    {self : InteractionClassInsertion}
    (unknown : findParameterDefinition interactionClassHandle name self =
      none)
    (node : List InteractionClass × InteractionClass)
    (found : self.findHandle interactionClassHandle = some node) :
    name ∉ node.2.parameterNames := by
  rw [findParameterDefinition, found, Option.bind_some] at unknown
  exact InteractionClass.getParameterDefinition_eq_none.mp unknown

/-- Adding a parameter that the class does not define. -/
theorem addParameter_ok
    {stringParameter : FOMStringParameter}
    {parameterHandle : ParameterHandle}
    (unknown : findParameterDefinition interactionClassHandle
      stringParameter.name before = none)
    (ran : addParameter interactionClassHandle stringParameter before =
      .ok parameterHandle after) :
    ∃ grown,
      after = before.withTable grown ∧
        Grows interactionClassHandle [stringParameter.name]
          before.toInteractionClassTable grown := by
  simp only [addParameter, bind_eq_ok, zoom_eq_ok, pure_eq_ok] at ran
  obtain ⟨_, _, ⟨allocator, got, rfl⟩, _, _, inserted, rfl, rfl⟩ := ran
  rw [modifyTable_ok inserted, withTable_withTable]
  refine ⟨_, rfl, ?_⟩
  exact .add .refl got (findParameterDefinition_eq_none unknown)
    (List.mem_singleton_self _)

variable {parameterList : List FOMStringParameter}

theorem insertOrCheckParameters_ok
    {result : List ParameterHandle × Bool}
    (ran : insertOrCheckParameters interactionClassHandle parameterList
      before = .ok result after) :
    ∃ grown,
      after = before.withTable grown ∧
        Grows interactionClassHandle
          (parameterList.map FOMStringParameter.name)
          before.toInteractionClassTable grown ∧
        (result.2 = false → grown = before.toInteractionClassTable ∧
          ∀ stringParameter ∈ parameterList,
            findParameterDefinition interactionClassHandle
              stringParameter.name before ≠ none) := by
  induction parameterList generalizing before result with
  | nil =>
      rw [insertOrCheckParameters, pure_eq_ok] at ran
      exact ⟨_, ran.2.symm, .refl, fun _ => ⟨rfl, by simp⟩⟩
  | cons stringParameter rest ih =>
      rw [insertOrCheckParameters, bind_eq_ok] at ran
      obtain ⟨_, _, got, ran⟩ := ran
      obtain ⟨rfl, rfl⟩ := get_eq_ok.mp got
      cases known : findParameterDefinition interactionClassHandle
          stringParameter.name before with
      | none =>
          simp only [known, bind_eq_ok, pure_eq_ok] at ran
          obtain ⟨_, _, added, _, _, others, rfl, rfl⟩ := ran
          obtain ⟨between, rfl, here⟩ := addParameter_ok known added
          obtain ⟨grown, rfl, grows, _⟩ := ih others
          exact ⟨grown, rfl,
            .trans (here.weaken (by simp)) (grows.weaken (by simp)),
            fun nothing => Bool.noConfusion nothing⟩
      | some definition =>
          simp only [known, bind_eq_ok, pure_eq_ok] at ran
          obtain ⟨_, _, others, rfl, rfl⟩ := ran
          obtain ⟨grown, rfl, grows, unchanged⟩ :=
            ih others
          refine ⟨grown, rfl, grows.weaken (by simp), fun nothing => ?_⟩
          refine ⟨(unchanged nothing).1, ?_⟩
          rw [List.forall_mem_cons, known]
          exact ⟨Option.some_ne_none _, (unchanged nothing).2⟩

theorem addParameters_ok
    {className : StringVector}
    (ran : addParameters interactionClassHandle className parameterList
      before = .ok result after) :
    ∃ grown,
      after = before.withTable grown ∧
        Grows interactionClassHandle
          (parameterList.map FOMStringParameter.name)
          before.toInteractionClassTable grown := by
  induction parameterList generalizing before with
  | nil =>
      rw [addParameters, pure_eq_ok] at ran
      exact ⟨_, ran.2.symm, .refl⟩
  | cons stringParameter rest ih =>
      rw [addParameters, bind_eq_ok] at ran
      obtain ⟨_, _, got, ran⟩ := ran
      obtain ⟨rfl, rfl⟩ := get_eq_ok.mp got
      cases known : findParameterDefinition interactionClassHandle
          stringParameter.name before with
      | some definition =>
          simp only [known, Option.isSome_some, if_true, bind_eq_ok] at ran
          obtain ⟨_, _, thrown, _⟩ := ran
          exact absurd thrown throw_ne_ok
      | none =>
          simp only [known, Option.isSome_none, Bool.false_eq_true,
            if_false, bind_eq_ok] at ran
          obtain ⟨_, _, added, others⟩ := ran
          obtain ⟨between, rfl, here⟩ := addParameter_ok known added
          obtain ⟨grown, rfl, grows⟩ := ih others
          exact ⟨grown, rfl,
            .trans (here.weaken (by simp)) (grows.weaken (by simp))⟩

end InteractionClassInsertion

variable {interactionClass : InteractionClass}

namespace InteractionClassTable

/-- The tree with the class of an entry created below its parent. -/
def withInteractionClass
    (self : InteractionClassTable)
    (handleAllocator : HandleAllocator invalidHandle)
    (name : StringVector)
    (interactionClassHandle : InteractionClassHandle) :
    InteractionClassTable :=
  insertInteractionClass ((self.findName name.dropLast).map (·.2)) name
    interactionClassHandle { self with handleAllocator }

variable {self : InteractionClassTable}

theorem Regular.nodes_withInteractionClass
    (regular : self.Regular)
    (handleAllocator : HandleAllocator invalidHandle) (name : StringVector)
    (interactionClassHandle : InteractionClassHandle) :
    (self.withInteractionClass handleAllocator name
        interactionClassHandle).classes.nodes.Perm
      (self.classes.nodes ++
        [(ClassTree.pathOf (self.findName name.dropLast),
          InteractionClass.create name interactionClassHandle
            ((self.findName name.dropLast).map (·.2)))]) :=
  regular.nodes_insertClass
    (fun _ found => (regular.find?_name_eq_some.mp found).1) _

variable {name : StringVector} {handleAllocator : HandleAllocator invalidHandle}

theorem Regular.mem_values_withInteractionClass
    (regular : self.Regular) :
    interactionClass ∈ (self.withInteractionClass handleAllocator name
        interactionClassHandle).classes.values ↔
      interactionClass ∈ self.classes.values ∨
        interactionClass =
          InteractionClass.create name interactionClassHandle
            ((self.findName name.dropLast).map (·.2)) := by
  have values := (regular.nodes_withInteractionClass handleAllocator name
    interactionClassHandle).map (·.2)
  rw [Forest.values, values.mem_iff, List.map_append, List.mem_append,
    List.map_singleton, List.mem_singleton, Forest.values]

theorem Regular.withInteractionClass
    (regular : self.Regular)
    (unknown : self.findName name = none)
    (nonempty : name ≠ [])
    (parent : name.length ≤ 1 ∨ self.findName name.dropLast ≠ none)
    (got : HandleAllocator.get self.handleAllocator =
      .ok interactionClassHandle handleAllocator) :
    (self.withInteractionClass handleAllocator name
      interactionClassHandle).Regular :=
  regular.insertClass
    (fun _ found => (regular.find?_name_eq_some.mp found).1)
    (fun _ => rfl) (fun _ => rfl) nonempty unknown
    (regular.parentName parent) got

end InteractionClassTable

namespace InteractionClassInsertion

open InteractionClassTable

/-- The module linked to a class and, if it lists some, to its parameters. -/
def linked
    (interactionClassHandle : InteractionClassHandle)
    (parameterList : List FOMStringParameter)
    (self : InteractionClassInsertion) : InteractionClassInsertion :=
  (self.linkedClass interactionClassHandle).linkedParameters
    interactionClassHandle parameterList

/-- The effect of a successful entry of a module. -/
inductive Entered
    (before : InteractionClassInsertion)
    (stringInteractionClass : FOMStringInteractionClass) :
    Bool → InteractionClassInsertion → Prop
  | established
      {ancestors : List InteractionClass}
      {interactionClass : InteractionClass}
      {grown : InteractionClassTable}
      {created : Bool}
      (found : before.findName stringInteractionClass.name =
        some (ancestors, interactionClass))
      (grows : Grows interactionClass.interactionClassHandle
        (stringInteractionClass.parameterList.map FOMStringParameter.name)
        before.toInteractionClassTable grown)
      (unchanged : created = false →
        grown = before.toInteractionClassTable ∧
          ∀ stringParameter ∈ stringInteractionClass.parameterList,
            findParameterDefinition interactionClass.interactionClassHandle
              stringParameter.name before ≠ none) :
      Entered before stringInteractionClass created
        ((before.withTable grown).linked
          interactionClass.interactionClassHandle
          stringInteractionClass.parameterList)
  | new
      {interactionClassHandle : InteractionClassHandle}
      {handleAllocator : HandleAllocator invalidHandle}
      {grown : InteractionClassTable}
      (unknown : before.findName stringInteractionClass.name = none)
      (nonempty : stringInteractionClass.name ≠ [])
      (parent : stringInteractionClass.name.length ≤ 1 ∨
        before.findName stringInteractionClass.name.dropLast ≠ none)
      (got : HandleAllocator.get before.handleAllocator =
        .ok interactionClassHandle handleAllocator)
      (grows : Grows interactionClassHandle
        (stringInteractionClass.parameterList.map FOMStringParameter.name)
        (before.withInteractionClass handleAllocator
          stringInteractionClass.name interactionClassHandle)
        grown) :
      Entered before stringInteractionClass true
        ((before.withTable grown).linked interactionClassHandle
          stringInteractionClass.parameterList)

variable {stringInteractionClass : FOMStringInteractionClass} {created : Bool}

theorem Entered.regular
    (entered : Entered before stringInteractionClass created after)
    (regular : before.Regular) :
    after.Regular := by
  cases entered with
  | established _ grows _ => exact grows.regular regular
  | new unknown nonempty parent got grows =>
      exact grows.regular
        (regular.withInteractionClass unknown nonempty parent got)

theorem insertOrCheckEstablishedInteractionClass_ok
    {ancestors : List InteractionClass}
    (found : before.findName stringInteractionClass.name =
      some (ancestors, interactionClass))
    (ran : insertOrCheckEstablishedInteractionClass dimensions
      interactionClass stringInteractionClass before =
        .ok created after) :
    Entered before stringInteractionClass created after := by
  simp only [insertOrCheckEstablishedInteractionClass, bind_eq_ok,
    check_eq_ok] at ran
  obtain ⟨_, _, ⟨_, rfl⟩, result, _, parameters, ran⟩ := ran
  obtain ⟨grown, rfl, grows, unchanged⟩ :=
    insertOrCheckParameters_ok parameters
  split at ran
  · simp only [bind_eq_ok] at ran
    obtain ⟨_, _, thrown, _⟩ := ran
    exact absurd thrown throw_ne_ok
  · simp only [bind_eq_ok, modify_eq_ok, pure_eq_ok] at ran
    obtain ⟨_, _, rfl, _, _, rfl, rfl, rfl⟩ := ran
    exact .established found grows unchanged

theorem createInteractionClass_ok
    (unknown : before.findName stringInteractionClass.name = none)
    (ran : createInteractionClass dimensions stringInteractionClass before =
      .ok result after) :
    Entered before stringInteractionClass true after := by
  rw [createInteractionClass, bind_eq_ok] at ran
  obtain ⟨_, _, got, ran⟩ := ran
  obtain ⟨rfl, rfl⟩ := get_eq_ok.mp got
  split at ran
  · simp only [bind_eq_ok] at ran
    obtain ⟨_, _, thrown, _⟩ := ran
    exact absurd thrown throw_ne_ok
  next nonempty =>
    dsimp only at ran
    split at ran
    · simp only [bind_eq_ok] at ran
      obtain ⟨_, _, thrown, _⟩ := ran
      exact absurd thrown throw_ne_ok
    next parentKnown =>
      have parent : stringInteractionClass.name.length ≤ 1 ∨
          before.findName stringInteractionClass.name.dropLast ≠ none := by
        by_contra both
        rw [not_or, not_not] at both
        exact parentKnown ⟨both.2, by omega⟩
      simp only [bind_eq_ok, zoom_eq_ok, modify_eq_ok, check_eq_ok] at ran
      obtain ⟨interactionClassHandle, _, ⟨handleAllocator, allocated, rfl⟩,
        _, _, entered, _, _, rfl, orderType, _, ⟨_, rfl⟩, _, _, ordered,
        transportationType, _, ⟨_, rfl⟩, _, _, transported, _, _,
        dimensioned, _, _, rfl, ran⟩ := ran
      rw [modifyTable_ok entered, withTable_withTable] at ordered
      obtain ⟨first, rfl, firstGrows⟩ := modifyClass_ok ordered
        fun _ => ⟨rfl, rfl, rfl, rfl, rfl⟩
      obtain ⟨second, rfl, secondGrows⟩ := modifyClass_ok transported
        fun _ => ⟨rfl, rfl, rfl, rfl, rfl⟩
      obtain ⟨third, rfl, thirdGrows⟩ :=
        insertInteractionClassDimensions_ok dimensioned
      obtain ⟨grown, rfl, grows⟩ := addParameters_ok ran
      have all := ((firstGrows.trans secondGrows).trans thirdGrows).weaken
        (List.nil_subset (stringInteractionClass.parameterList.map
          FOMStringParameter.name))
      exact .new unknown nonempty parent allocated (all.trans grows)

/-- What a successful entry of a module has done. -/
theorem insertOrCheckInteractionClass_ok
    (ran : insertOrCheckInteractionClass dimensions stringInteractionClass
      before = .ok created after) :
    Entered before stringInteractionClass created after := by
  rw [insertOrCheckInteractionClass, bind_eq_ok] at ran
  obtain ⟨_, _, got, ran⟩ := ran
  obtain ⟨rfl, rfl⟩ := get_eq_ok.mp got
  cases found : before.findName stringInteractionClass.name with
  | some node =>
      simp only [found] at ran
      exact insertOrCheckEstablishedInteractionClass_ok found ran
  | none =>
      simp only [found, bind_eq_ok, pure_eq_ok] at ran
      obtain ⟨_, _, ran, rfl, rfl⟩ := ran
      exact createInteractionClass_ok found ran

end InteractionClassInsertion
end ServerModel
end OpenRTI
