import OpenRTI.Foundation.FailingState
import OpenRTI.Foundation.Nesting
import OpenRTI.ServerModel.ModuleValidation

/-!
# How classes are nested

The calls of a reader nest the classes.  The builder keeps the indices of the
classes that are open and of the parents, and all else leaves them alone.
-/

namespace OpenRTI
namespace ServerModel

open Foundation (Nesting)
open Foundation.FailingState (except_bind_eq_ok)

/-! ## The nesting of the calls -/

def nestObjectClass (nesting : Nesting) : BuilderCall → Nesting
  | .pushObjectClass => nesting.opened
  | .popObjectClass => nesting.closed
  | _ => nesting

def nestInteractionClass (nesting : Nesting) : BuilderCall → Nesting
  | .pushInteractionClass => nesting.opened
  | .popInteractionClass => nesting.closed
  | _ => nesting

/-- How the object classes of the calls are nested. -/
def objectClassNesting (calls : List BuilderCall) : Nesting :=
  calls.foldl nestObjectClass Nesting.empty

/-- How the interaction classes of the calls are nested. -/
def interactionClassNesting (calls : List BuilderCall) : Nesting :=
  calls.foldl nestInteractionClass Nesting.empty

/-! ## Following the nesting -/

/-- The open classes are on the stack, and parents are the classes around. -/
structure Follows
    (nesting : Nesting)
    (indexStack : List Nat)
    (parentIndexVector : List (Option Nat))
    (size : Nat) : Prop where
  indexStack_eq : indexStack = nesting.current
  parentIndexVector_eq : parentIndexVector =
    nesting.paths.map fun path => path.dropLast.getLast?
  size_eq : size = nesting.paths.length

namespace Follows

variable {nesting : Nesting} {indexStack : List Nat}
  {parentIndexVector : List (Option Nat)} {size : Nat}

theorem empty : Follows Nesting.empty [] [] 0 :=
  ⟨rfl, rfl, rfl⟩

theorem opened (follows : Follows nesting indexStack parentIndexVector size) :
    Follows nesting.opened (indexStack ++ [size])
      (parentIndexVector ++ [indexStack.getLast?]) (size + 1) := by
  obtain ⟨stack, parents, count⟩ := follows
  refine ⟨?_, ?_, ?_⟩
  · rw [stack, count]
    rfl
  · rw [parents, stack, Nesting.opened, List.map_append, List.map_singleton,
      List.dropLast_concat]
  · rw [count, Nesting.opened, List.length_append, List.length_singleton]

theorem closed (follows : Follows nesting indexStack parentIndexVector size) :
    Follows nesting.closed indexStack.dropLast parentIndexVector size := by
  obtain ⟨stack, parents, count⟩ := follows
  refine ⟨?_, parents, count⟩
  rw [stack]
  rfl

end Follows

/-! ## Calls that leave the nesting alone -/

theorem length_changeAt
    {α : Type} {missing : ReadingFailure}
    {change : α → Except ReadingFailure α} {index : Nat}
    {list after : List α}
    (ran : changeAt missing change index list = .ok after) :
    after.length = list.length := by
  induction list generalizing index after with
  | nil =>
      rw [changeAt] at ran
      cases ran
  | cons first rest ih =>
      cases index with
      | zero =>
          obtain ⟨changed, _, done⟩ := except_bind_eq_ok.mp ran
          cases done
          rfl
      | succ index =>
          obtain ⟨changed, changedRan, done⟩ := except_bind_eq_ok.mp ran
          cases done
          rw [List.length_cons, List.length_cons,
            ih changedRan]

namespace FOMStringModuleBuilder

/-- The builder follows the nesting of both kinds of classes. -/
def Nested
    (self : FOMStringModuleBuilder)
    (objectClasses interactionClasses : Nesting) : Prop :=
  Follows objectClasses self.objectClassIndexStack
      self.parentObjectClassIndexVector self.module.objectClassList.length ∧
    Follows interactionClasses self.interactionClassIndexStack
      self.parentInteractionClassIndexVector
      self.module.interactionClassList.length

variable {self after : FOMStringModuleBuilder}
  {objectClasses interactionClasses : Nesting}

section

variable (nested : self.Nested objectClasses interactionClasses)
include nested

theorem Nested.changeCurrentTransportationType
    {change : FOMStringTransportationType → FOMStringTransportationType}
    (ran : self.changeCurrentTransportationType change = .ok after) :
    after.Nested objectClasses interactionClasses := by
  obtain ⟨list, _, done⟩ := except_bind_eq_ok.mp ran
  cases done
  exact nested

theorem Nested.changeCurrentDimension
    {change : FOMStringDimension → FOMStringDimension}
    (ran : self.changeCurrentDimension change = .ok after) :
    after.Nested objectClasses interactionClasses := by
  obtain ⟨list, _, done⟩ := except_bind_eq_ok.mp ran
  cases done
  exact nested

theorem Nested.changeCurrentObjectClass
    {change : FOMStringObjectClass →
      Except ReadingFailure FOMStringObjectClass}
    (ran : self.changeCurrentObjectClass change = .ok after) :
    after.Nested objectClasses interactionClasses := by
  rw [FOMStringModuleBuilder.changeCurrentObjectClass] at ran
  cases innermost : self.objectClassIndexStack.getLast? with
  | none =>
      rw [innermost] at ran
      cases ran
  | some index =>
      rw [innermost] at ran
      obtain ⟨list, changed, done⟩ := except_bind_eq_ok.mp ran
      cases done
      obtain ⟨⟨stack, parents, count⟩, other⟩ := nested
      exact ⟨⟨stack, parents, (length_changeAt changed).trans count⟩, other⟩

theorem Nested.changeCurrentInteractionClass
    {change : FOMStringInteractionClass →
      Except ReadingFailure FOMStringInteractionClass}
    (ran : self.changeCurrentInteractionClass change = .ok after) :
    after.Nested objectClasses interactionClasses := by
  rw [FOMStringModuleBuilder.changeCurrentInteractionClass] at ran
  cases innermost : self.interactionClassIndexStack.getLast? with
  | none =>
      rw [innermost] at ran
      cases ran
  | some index =>
      rw [innermost] at ran
      obtain ⟨list, changed, done⟩ := except_bind_eq_ok.mp ran
      cases done
      obtain ⟨other, stack, parents, count⟩ := nested
      exact ⟨other, stack, parents, (length_changeAt changed).trans count⟩

/-! ## Calls that push and pop -/

theorem Nested.pushObjectClass :
    self.pushObjectClass.Nested objectClasses.opened interactionClasses := by
  have pushed := nested.1.opened
  refine ⟨?_, nested.2⟩
  rw [FOMStringModuleBuilder.pushObjectClass, List.length_append,
    List.length_singleton]
  exact pushed

theorem Nested.popObjectClass
    (ran : self.popObjectClass = .ok after) :
    after.Nested objectClasses.closed interactionClasses := by
  rw [FOMStringModuleBuilder.popObjectClass] at ran
  by_cases nothing : self.objectClassIndexStack = []
  · rw [if_pos nothing] at ran
    cases ran
  · rw [if_neg nothing] at ran
    cases ran
    exact ⟨nested.1.closed, nested.2⟩

theorem Nested.pushInteractionClass :
    self.pushInteractionClass.Nested objectClasses
      interactionClasses.opened := by
  have pushed := nested.2.opened
  refine ⟨nested.1, ?_⟩
  rw [FOMStringModuleBuilder.pushInteractionClass, List.length_append,
    List.length_singleton]
  exact pushed

theorem Nested.popInteractionClass
    (ran : self.popInteractionClass = .ok after) :
    after.Nested objectClasses interactionClasses.closed := by
  obtain ⟨interactionClass, _, checked⟩ := except_bind_eq_ok.mp ran
  by_cases several : interactionClass.name.length ≠ 1
  · rw [if_pos several] at checked
    cases checked
  · rw [if_neg several] at checked
    by_cases nameless : interactionClass.name.head? = some ""
    · rw [if_pos nameless] at checked
      cases checked
    · rw [if_neg nameless] at checked
      cases checked
      exact ⟨nested.1, nested.2.closed⟩

/-- Each call follows. -/
theorem Nested.call
    {builderCall : BuilderCall}
    (ran : self.call builderCall = .ok after) :
    after.Nested (nestObjectClass objectClasses builderCall)
      (nestInteractionClass interactionClasses builderCall) := by
  cases builderCall with
  | addTransportationType =>
      cases ran
      exact nested
  | setTransportationTypeName name =>
      exact nested.changeCurrentTransportationType ran
  | addDimension =>
      cases ran
      exact nested
  | setDimensionName name => exact nested.changeCurrentDimension ran
  | pushObjectClass =>
      cases ran
      exact nested.pushObjectClass
  | popObjectClass => exact nested.popObjectClass ran
  | pushObjectClassName name => exact nested.changeCurrentObjectClass ran
  | addAttribute => exact nested.changeCurrentObjectClass ran
  | setAttributeName name => exact nested.changeCurrentObjectClass ran
  | setAttributeDataType dataType => exact nested.changeCurrentObjectClass ran
  | setAttributeOrderType orderType =>
      exact nested.changeCurrentObjectClass ran
  | setAttributeTransportationType transportationType =>
      exact nested.changeCurrentObjectClass ran
  | addAttributeDimension name => exact nested.changeCurrentObjectClass ran
  | pushInteractionClass =>
      cases ran
      exact nested.pushInteractionClass
  | popInteractionClass => exact nested.popInteractionClass ran
  | pushInteractionClassName name =>
      exact nested.changeCurrentInteractionClass ran
  | setInteractionClassOrderType orderType =>
      exact nested.changeCurrentInteractionClass ran
  | setInteractionClassTransportationType transportationType =>
      exact nested.changeCurrentInteractionClass ran
  | addInteractionDimension name =>
      exact nested.changeCurrentInteractionClass ran
  | addParameter => exact nested.changeCurrentInteractionClass ran
  | setParameterName name => exact nested.changeCurrentInteractionClass ran
  | setParameterDataType dataType =>
      exact nested.changeCurrentInteractionClass ran

theorem Nested.run
    {calls : List BuilderCall}
    (ran : self.run calls = .ok after) :
    after.Nested (calls.foldl nestObjectClass objectClasses)
      (calls.foldl nestInteractionClass interactionClasses) := by
  induction calls generalizing self objectClasses interactionClasses with
  | nil =>
      cases ran
      exact nested
  | cons builderCall rest ih =>
      rw [FOMStringModuleBuilder.run, List.foldlM_cons] at ran
      obtain ⟨between, called, further⟩ := except_bind_eq_ok.mp ran
      exact ih (nested.call called) further

end

theorem nested_of_run
    {calls : List BuilderCall}
    (ran : run {} calls = .ok after) :
    after.Nested (objectClassNesting calls) (interactionClassNesting calls) :=
  Nested.run ⟨Follows.empty, Follows.empty⟩ ran

end FOMStringModuleBuilder

/-! ## Completed names -/

section CompletedNames

variable {γ : Type} [StringClass γ]

open StringClass (name setName memberNames)

/-- The name that a class is given in the class it is in. -/
def ownName (classList : List γ) (index : Nat) : String :=
  ((classList[index]?.map name).bind List.head?).getD ""

/-- The names of the members of a class. -/
def membersOf (classList : List γ) (index : Nat) : List String :=
  (classList[index]?.map memberNames).getD []

theorem name_eq_ownName
    {classList : List γ}
    (oneName : ∀ stringClass ∈ classList, (name stringClass).length = 1)
    {index : Nat} {stringClass : γ}
    (found : classList[index]? = some stringClass) :
    name stringClass = [ownName classList index] := by
  obtain ⟨own, same⟩ := List.length_eq_one_iff.mp
    (oneName stringClass (List.mem_of_getElem? found))
  rw [ownName, found, Option.map_some, same]
  rfl

/-- The classes before an index have their full names, the others the names that
they were given. -/
structure CompletedBelow
    (nesting : Nesting)
    (classList : List γ)
    (index : Nat)
    (completed : List γ) : Prop where
  names_eq : ∀ other, (completed.map name)[other]? =
    if other < index then (nesting.names (ownName classList))[other]?
    else (classList.map name)[other]?
  members_eq : completed.map memberNames = classList.map memberNames

theorem CompletedBelow.zero
    (nesting : Nesting)
    (classList : List γ) : CompletedBelow nesting classList 0 classList := by
  refine ⟨?_, rfl⟩
  intro other
  rw [if_neg (Nat.not_lt_zero other)]

theorem set_eq_self
    {α : Type} {list : List α}
    {index : Nat} {element : α}
    (found : list[index]? = some element) :
    list.set index element = list := by
  obtain ⟨inside, same⟩ := List.getElem?_eq_some_iff.mp found
  rw [← same]
  exact List.set_getElem_self inside

theorem CompletedBelow.step
    {nesting : Nesting} {classList completed after : List γ}
    {parentIndexVector : List (Option Nat)} {indexStack : List Nat}
    {index : Nat}
    (follows : Follows nesting indexStack parentIndexVector classList.length)
    (oneName : ∀ stringClass ∈ classList, (name stringClass).length = 1)
    (below : CompletedBelow nesting classList index completed)
    (ran : completeName parentIndexVector completed index = .ok after) :
    CompletedBelow nesting classList (index + 1) after := by
  obtain ⟨names, members⟩ := below
  rw [completeName, follows.parentIndexVector_eq, List.getElem?_map] at ran
  cases pathFound : nesting.paths[index]? with
  | none =>
      rw [pathFound] at ran
      cases ran
  | some path =>
      rw [pathFound, Option.map_some] at ran
      obtain ⟨inside, _⟩ := List.getElem?_eq_some_iff.mp pathFound
      rw [← follows.size_eq] at inside
      have own := name_eq_ownName oneName (List.getElem?_eq_getElem inside)
      have full : (nesting.names (ownName classList))[index]? =
          some (path.map (ownName classList)) :=
        Nesting.getElem?_names.mpr ⟨path, pathFound, rfl⟩
      obtain ⟨enclosing, split, outermost | ⟨outer, before, outerFound⟩⟩ :=
        nesting.path_eq index path pathFound
      · rw [outermost, List.nil_append] at split
        rw [split] at ran
        cases ran
        refine ⟨?_, members⟩
        intro other
        by_cases earlier : other < index
        · rw [names, if_pos earlier, if_pos (Nat.lt_succ_of_lt earlier)]
        · rw [names, if_neg earlier]
          by_cases itself : other = index
          · rw [itself, if_pos (Nat.lt_succ_self index), full, split,
              List.getElem?_map, List.getElem?_eq_getElem inside,
              Option.map_some, own]
            rfl
          · rw [if_neg (by omega)]
      · have parent : path.dropLast.getLast? = some outer := by
          rw [split, List.dropLast_concat, Nesting.getLast?_path outerFound]
        have outerName := names outer
        have givenName := names index
        rw [if_pos before, Nesting.getElem?_names.mpr ⟨_, outerFound, rfl⟩,
          List.getElem?_map, Option.map_eq_some_iff] at outerName
        rw [if_neg (Nat.lt_irrefl index), List.getElem?_map, List.getElem?_map,
          List.getElem?_eq_getElem inside, Option.map_some, own,
          Option.map_eq_some_iff] at givenName
        obtain ⟨outerClass, outerClassFound, outerSame⟩ := outerName
        obtain ⟨ownClass, ownClassFound, ownSame⟩ := givenName
        have changed : after = completed.set index
            (setName (path.map (ownName classList)) ownClass) := by
          rw [parent] at ran
          simp only [outerClassFound, ownClassFound, ownSame, List.head?_cons,
            outerSame] at ran
          rw [split, List.map_append]
          exact (Except.ok.inj ran).symm
        rw [changed]
        constructor
        · intro other
          rw [List.map_set, StringClass.name_setName, List.getElem?_set]
          by_cases itself : index = other
          · have present : index < (completed.map name).length := by
              rw [List.length_map]
              exact (List.getElem?_eq_some_iff.mp ownClassFound).1
            rw [if_pos itself, if_pos present, ← itself,
              if_pos (Nat.lt_succ_self index), full]
          · rw [if_neg itself, names]
            by_cases earlier : other < index
            · rw [if_pos earlier, if_pos (Nat.lt_succ_of_lt earlier)]
            · rw [if_neg earlier, if_neg (by omega)]
        · rw [List.map_set, StringClass.memberNames_setName, ← members]
          apply set_eq_self
          rw [List.getElem?_map, ownClassFound, Option.map_some]

theorem CompletedBelow.steps
    {nesting : Nesting} {classList after : List γ}
    {parentIndexVector : List (Option Nat)} {indexStack : List Nat}
    (follows : Follows nesting indexStack parentIndexVector classList.length)
    (oneName : ∀ stringClass ∈ classList, (name stringClass).length = 1)
    {size : Nat}
    (ran : (List.range size).foldlM (completeName parentIndexVector)
      classList = .ok after) :
    CompletedBelow nesting classList size after := by
  induction size generalizing after with
  | zero =>
      cases ran
      exact CompletedBelow.zero nesting classList
  | succ size ih =>
      rw [List.range_succ, List.foldlM_append] at ran
      obtain ⟨between, earlier, last⟩ := except_bind_eq_ok.mp ran
      rw [List.foldlM_cons] at last
      obtain ⟨_, stepped, done⟩ := except_bind_eq_ok.mp last
      cases done
      exact (ih earlier).step follows oneName stepped

/-- Names are completed to the names of the paths, and nothing else changes. -/
theorem completeNames_spec
    {nesting : Nesting} {classList after : List γ}
    {parentIndexVector : List (Option Nat)} {indexStack : List Nat}
    (follows : Follows nesting indexStack parentIndexVector classList.length)
    (oneName : ∀ stringClass ∈ classList, (name stringClass).length = 1)
    (ran : completeNames parentIndexVector classList = .ok after) :
    after.map name = nesting.names (ownName classList) ∧
      after.map memberNames = classList.map memberNames := by
  have completed := CompletedBelow.steps follows oneName ran
  refine ⟨?_, completed.members_eq⟩
  apply List.ext_getElem?
  intro index
  rw [completed.names_eq, follows.parentIndexVector_eq, List.length_map]
  by_cases inside : index < nesting.paths.length
  · rw [if_pos inside]
  · rw [if_neg inside, List.getElem?_eq_none, List.getElem?_eq_none]
    · rw [Nesting.names, List.length_map]
      omega
    · rw [List.length_map, follows.size_eq]
      omega

end CompletedNames

end ServerModel
end OpenRTI
