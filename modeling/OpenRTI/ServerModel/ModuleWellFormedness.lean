import OpenRTI.ServerModel.ClassNesting

/-!
# Validated modules

The names of a validated module are full paths, parents stand before their
children, names are distinct and dimensions declared.  The members along a path
are distinct only if the reader has given them so, as the loop that should check
them does not look at any class.
-/

namespace OpenRTI
namespace ServerModel

open Foundation (Nesting)
open Foundation.FailingState (except_bind_eq_ok)

/-! ## Well-formed modules -/

section WellFormed

variable {γ : Type} [StringClass γ]

open StringClass (name setName memberNames)

/-- The first class is the root class. -/
def RootGiven
    (rootName : String)
    (nesting : Nesting)
    (own : Nat → String) : Prop :=
  (nesting.names own).head? = some [rootName]

instance
    (rootName : String)
    (nesting : Nesting)
    (own : Nat → String) : Decidable (RootGiven rootName nesting own) :=
  inferInstanceAs (Decidable (_ = _))

/-- The paths from the root class, where the root class is inserted if it is not
given. -/
def fullPaths
    (rootName : String)
    (nesting : Nesting)
    (own : Nat → String) : List StringVector :=
  if RootGiven rootName nesting own then nesting.names own
  else [rootName] :: (nesting.names own).map (rootName :: ·)

/-- The classes of one kind.  A class is on the path to another if the name of the
other begins with its name. -/
structure ClassesWellFormed
    (rootName : String)
    (paths : List StringVector)
    (classList : List γ) : Prop where
  names_eq : classList.map name = paths
  rooted : ∀ path ∈ paths, [rootName] <+: path
  parents : ∀ (index : Nat) (path start : StringVector),
    paths[index]? = some path → start ≠ [] → start <+: path → start ≠ path →
      ∃ outer, outer < index ∧ paths[outer]? = some start
  distinct : paths.Nodup
  members : ∀ stringClass ∈ classList, (memberNames stringClass).Nodup ∧
    ∀ outer ∈ classList, name outer <+: name stringClass →
      name outer ≠ name stringClass →
        (memberNames outer).Disjoint (memberNames stringClass)

/-- No member is given twice to a class, or to it and one it is in. -/
def MembersDistinct
    (nesting : Nesting)
    (members : Nat → List String) : Prop :=
  ∀ (index : Nat) (path : List Nat), nesting.paths[index]? = some path →
    (members index).Nodup ∧
      ∀ outer ∈ path, outer ≠ index →
        (members outer).Disjoint (members index)

variable {rootName : String} {nesting : Nesting} {own : Nat → String}
variable {index : Nat}

theorem zero_mem_iff
    (distinct : (nesting.names own).Nodup)
    (root : RootGiven rootName nesting own)
    {path : List Nat}
    (found : nesting.paths[index]? = some path) :
    0 ∈ path ↔ [rootName] <+: path.map own := by
  apply Nesting.mem_path_iff distinct found rfl
  rw [← List.head?_eq_getElem?]
  exact root

theorem rooted_iff
    (distinct : (nesting.names own).Nodup)
    (root : RootGiven rootName nesting own) :
    (∀ path ∈ nesting.names own, [rootName] <+: path) ↔
      ∀ path ∈ nesting.paths, 0 ∈ path := by
  rw [Nesting.names, List.forall_mem_map]
  apply forall₂_congr
  intro path member
  obtain ⟨index, found⟩ := List.mem_iff_getElem?.mp member
  exact (zero_mem_iff distinct root found).symm

theorem parents_of_names
    {path start : StringVector}
    (found : (nesting.names own)[index]? = some path)
    (nonempty : start ≠ [])
    (begins : start <+: path)
    (proper : start ≠ path) :
    ∃ outer, outer < index ∧ (nesting.names own)[outer]? = some start := by
  obtain ⟨outer, before, outerFound⟩ :=
    Nesting.exists_name_of_prefix found begins nonempty
  refine ⟨outer, ?_, outerFound⟩
  obtain earlier | itself := Nat.lt_or_eq_of_le before
  · exact earlier
  · rw [itself, found] at outerFound
    exact absurd (Option.some.inj outerFound).symm proper

variable {classList : List γ}

theorem membersOf_eq
    {stringClass : γ}
    (found : classList[index]? = some stringClass) :
    membersOf classList index = memberNames stringClass := by
  rw [membersOf, found]
  rfl

/-- The members of classes on a path are those of the classes the path is made
of. -/
theorem members_iff
    (names : classList.map name = nesting.names own)
    (distinct : (nesting.names own).Nodup) :
    (∀ stringClass ∈ classList, (memberNames stringClass).Nodup ∧
      ∀ outer ∈ classList, name outer <+: name stringClass →
        name outer ≠ name stringClass →
          (memberNames outer).Disjoint (memberNames stringClass)) ↔
      MembersDistinct nesting (membersOf classList) := by
  have named : ∀ {index : Nat} {stringClass : γ},
      classList[index]? = some stringClass →
        (nesting.names own)[index]? = some (name stringClass) := by
    intro index stringClass found
    rw [← names, List.getElem?_map, found]
    rfl
  have present : ∀ {index : Nat} {path : List Nat},
      nesting.paths[index]? = some path →
        ∃ stringClass, classList[index]? = some stringClass ∧
          path.map own = name stringClass := by
    intro index path found
    have full : (nesting.names own)[index]? = some (path.map own) :=
      Nesting.getElem?_names.mpr ⟨path, found, rfl⟩
    rw [← names, List.getElem?_map, Option.map_eq_some_iff] at full
    obtain ⟨stringClass, classFound, same⟩ := full
    exact ⟨stringClass, classFound, same.symm⟩
  constructor
  · intro holds index path found
    obtain ⟨stringClass, classFound, same⟩ := present found
    obtain ⟨itself, others⟩ :=
      holds stringClass (List.mem_of_getElem? classFound)
    rw [membersOf_eq classFound]
    refine ⟨itself, ?_⟩
    intro outer member different
    obtain ⟨_, start, startFound, _⟩ := Nesting.path_prefix_of_mem found member
    obtain ⟨outerClass, outerFound, outerSame⟩ := present startFound
    rw [membersOf_eq outerFound]
    apply others outerClass (List.mem_of_getElem? outerFound)
    · exact (Nesting.mem_path_iff distinct found same
        (named outerFound)).mp member
    · intro equal
      apply different
      obtain ⟨inside, _⟩ := List.getElem?_eq_some_iff.mp (named outerFound)
      apply (List.getElem?_inj inside distinct).mp
      rw [named outerFound, named classFound, equal]
  · intro holds stringClass member
    obtain ⟨index, classFound⟩ := List.mem_iff_getElem?.mp member
    obtain ⟨path, found, same⟩ :=
      Nesting.getElem?_names.mp (named classFound)
    obtain ⟨itself, others⟩ := holds index path found
    rw [membersOf_eq classFound] at itself others
    refine ⟨itself, ?_⟩
    intro outerClass outerMember begins different
    obtain ⟨outer, outerFound⟩ := List.mem_iff_getElem?.mp outerMember
    have within := (Nesting.mem_path_iff distinct found same
      (named outerFound)).mpr begins
    have other : outer ≠ index := by
      rintro rfl
      rw [classFound] at outerFound
      exact different (congrArg name (Option.some.inj outerFound).symm)
    have apart := others outer within other
    rw [membersOf_eq outerFound] at apart
    exact apart

/-- With the root class in front. -/
theorem classesWellFormed_iff
    (names : classList.map name = nesting.names own)
    (distinct : (nesting.names own).Nodup)
    (root : RootGiven rootName nesting own) :
    ClassesWellFormed rootName (nesting.names own) classList ↔
      (∀ path ∈ nesting.paths, 0 ∈ path) ∧
        MembersDistinct nesting (membersOf classList) := by
  rw [← rooted_iff distinct root, ← members_iff names distinct]
  constructor
  · intro wellFormed
    exact ⟨wellFormed.rooted, wellFormed.members⟩
  · intro holds
    exact ⟨names, holds.1, fun _ _ _ found nonempty begins proper =>
      parents_of_names found nonempty begins proper, distinct, holds.2⟩

/-! ## Inserting the root class -/

/-- The names in the nesting with a root class in front. -/
def ownBelow (rootName : String) (own : Nat → String) : Nat → String
  | 0 => rootName
  | index + 1 => own index

theorem names_insertOutermost
    (rootName : String) (nesting : Nesting) (own : Nat → String) :
    nesting.insertOutermost.names (ownBelow rootName own) =
      [rootName] :: (nesting.names own).map (rootName :: ·) := by
  rw [Nesting.names, Nesting.names, Nesting.insertOutermost, List.map_cons,
    List.map_map, List.map_map]
  congr 1
  apply List.map_congr_left
  intro path _
  rw [Function.comp_apply, Function.comp_apply, List.map_cons, List.map_map]
  rfl

theorem nodup_insertOutermost
    (distinct : (nesting.names own).Nodup) (rootName : String) :
    (nesting.insertOutermost.names (ownBelow rootName own)).Nodup := by
  rw [names_insertOutermost, List.nodup_cons]
  constructor
  · intro member
    obtain ⟨name, nameMember, same⟩ := List.mem_map.mp member
    rw [Nesting.names] at nameMember
    obtain ⟨path, pathMember, pathSame⟩ := List.mem_map.mp nameMember
    obtain ⟨index, found⟩ := List.mem_iff_getElem?.mp pathMember
    injection same with _ nothing
    rw [nothing, List.map_eq_nil_iff] at pathSame
    exact Nesting.path_ne_nil found pathSame
  · exact distinct.map fun _ _ same => (List.cons.inj same).2

theorem zero_mem_insertOutermost
    {path : List Nat}
    (member : path ∈ nesting.insertOutermost.paths) : 0 ∈ path := by
  obtain first | later := List.mem_cons.mp member
  · rw [first]
    exact List.mem_singleton_self 0
  · obtain ⟨inner, _, same⟩ := List.mem_map.mp later
    rw [← same]
    exact List.mem_cons_self

/-- With a root class in front, its members are not those of another class. -/
theorem membersDistinct_insertOutermost_iff
    {members : Nat → List String} :
    MembersDistinct nesting.insertOutermost members ↔
      (members 0).Nodup ∧
        (∀ index path, nesting.paths[index]? = some path →
          (members 0).Disjoint (members (index + 1))) ∧
        MembersDistinct nesting fun index => members (index + 1) := by
  have first : nesting.insertOutermost.paths[0]? = some [0] := rfl
  have later : ∀ {index : Nat} {path : List Nat},
      nesting.paths[index]? = some path →
        nesting.insertOutermost.paths[index + 1]? =
          some (0 :: path.map (· + 1)) := by
    intro index path found
    rw [Nesting.insertOutermost, List.getElem?_cons_succ, List.getElem?_map,
      found]
    rfl
  constructor
  · intro holds
    refine ⟨(holds 0 [0] first).1, ?_, ?_⟩
    · intro index path found
      exact (holds (index + 1) _ (later found)).2 0 List.mem_cons_self
        (Nat.succ_ne_zero index).symm
    · intro index path found
      obtain ⟨itself, others⟩ := holds (index + 1) _ (later found)
      refine ⟨itself, ?_⟩
      intro outer member different
      apply others
      · exact List.mem_cons_of_mem 0 (List.mem_map_of_mem member)
      · omega
  · rintro ⟨rootHolds, below, holds⟩ index path found
    cases index with
    | zero =>
        rw [first] at found
        rw [← Option.some.inj found]
        refine ⟨rootHolds, ?_⟩
        intro outer member different
        exact absurd (List.mem_singleton.mp member) different
    | succ index =>
        rw [Nesting.insertOutermost, List.getElem?_cons_succ,
          List.getElem?_map, Option.map_eq_some_iff] at found
        obtain ⟨inner, innerFound, same⟩ := found
        obtain ⟨itself, others⟩ := holds index inner innerFound
        refine ⟨itself, ?_⟩
        intro outer member different
        rw [← same] at member
        obtain atRoot | within := List.mem_cons.mp member
        · rw [atRoot]
          exact below index inner innerFound
        · obtain ⟨innerOuter, innerMember, shifted⟩ := List.mem_map.mp within
          rw [← shifted]
          apply others innerOuter innerMember
          omega

/-- The classes of a validated module, whose root class is given or inserted. -/
theorem classesWellFormed_fullPaths_iff
    (names : classList.map name = fullPaths rootName nesting own)
    (distinct : (nesting.names own).Nodup) :
    ClassesWellFormed rootName (fullPaths rootName nesting own) classList ↔
      if RootGiven rootName nesting own then
        (∀ path ∈ nesting.paths, 0 ∈ path) ∧
          MembersDistinct nesting (membersOf classList)
      else MembersDistinct nesting.insertOutermost (membersOf classList) := by
  rw [fullPaths] at names ⊢
  by_cases root : RootGiven rootName nesting own
  · rw [if_pos root] at names ⊢
    rw [if_pos root]
    exact classesWellFormed_iff names distinct root
  · rw [if_neg root, ← names_insertOutermost] at names ⊢
    rw [if_neg root]
    have inserted : RootGiven rootName nesting.insertOutermost
        (ownBelow rootName own) := by
      rw [RootGiven, names_insertOutermost]
      rfl
    rw [classesWellFormed_iff names (nodup_insertOutermost distinct rootName)
      inserted]
    exact and_iff_right fun path member => zero_mem_insertOutermost member

end WellFormed

end ServerModel
end OpenRTI
