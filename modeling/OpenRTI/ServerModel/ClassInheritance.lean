import OpenRTI.Foundation.Inheritance
import OpenRTI.ServerModel.ClassTree

/-!
# What classes inherit while modules are inserted

Entries of modules create classes and describe them.  No class has more afterwards than
the class of its name had before, so that what a new class fails to inherit can be seen
in the classes before the insertion.
-/

namespace OpenRTI
namespace ServerModel

open Foundation

namespace ClassTree

variable {α : Type} {handle : α → Nat} {name : α → StringVector} {has : α → Bool}

/-- No class is gone, and what a class has the class of its name had before. -/
structure GainsNothing
    (name : α → StringVector)
    (has : α → Bool)
    (before after : Forest α) : Prop where
  names : before.values.map name ⊆ after.values.map name
  had : ∀ value ∈ after.values, has value = true →
    ∃ old ∈ before.values, name old = name value ∧ has old = true

theorem GainsNothing.refl (classes : Forest α) :
    GainsNothing name has classes classes where
  names := List.Subset.refl _
  had value member holds := ⟨value, member, rfl, holds⟩

theorem GainsNothing.trans
    {first second third : Forest α}
    (earlier : GainsNothing name has first second)
    (later : GainsNothing name has second third) :
    GainsNothing name has first third where
  names := List.Subset.trans earlier.names later.names
  had := by
    intro value member holds
    obtain ⟨between, betweenMember, sameName, betweenHolds⟩ :=
      later.had value member holds
    obtain ⟨old, oldMember, oldName, oldHolds⟩ :=
      earlier.had between betweenMember betweenHolds
    exact ⟨old, oldMember, oldName.trans sameName, oldHolds⟩

/-- A change that gives no class anything. -/
theorem gainsNothing_adjust
    {classHandle : Nat} {atClass derived : α → α}
    (nameAt : ∀ value, name (atClass value) = name value)
    (nameDerived : ∀ value, name (derived value) = name value)
    (lessAt : ∀ value, has (atClass value) = true → has value = true)
    (lessDerived : ∀ value, has (derived value) = true → has value = true)
    (classes : Forest α) :
    GainsNothing name has classes
      (ClassTree.adjust handle classHandle atClass derived classes) := by
  refine ⟨?_, ?_⟩
  · rw [values_adjust_map nameAt nameDerived]
    exact List.Subset.refl _
  · intro changed member holds
    obtain ⟨old, oldMember, same⟩ := mem_values_adjust member
    refine ⟨old, oldMember, ?_⟩
    obtain rfl | rfl | ⟨_, rfl⟩ := same
    · exact ⟨rfl, holds⟩
    · exact ⟨(nameDerived old).symm, lessDerived old holds⟩
    · exact ⟨(nameAt old).symm, lessAt old holds⟩

/-- A new class that has nothing. -/
theorem gainsNothing_append
    {before after : Forest α} {ancestors : List α}
    {created : α}
    (nodes : after.nodes.Perm (before.nodes ++ [(ancestors, created)]))
    (nothing : has created = false) :
    GainsNothing name has before after := by
  have values := nodes.map (·.2)
  rw [List.map_append, List.map_singleton] at values
  refine ⟨?_, ?_⟩
  · intro className known
    obtain ⟨value, member, rfl⟩ := List.mem_map.mp known
    exact List.mem_map_of_mem (values.mem_iff.mpr (List.mem_append_left _ member))
  · intro value member holds
    obtain old | new := List.mem_append.mp (values.mem_iff.mp member)
    · exact ⟨value, old, rfl, holds⟩
    · rw [List.mem_singleton.mp new, nothing] at holds
      cases holds

/-- New classes of the given names are created directly below classes that do not have
something, as far as these are there before. -/
def CreatesWithout
    (name : α → StringVector)
    (has : α → Bool)
    (classes : Forest α)
    (classNames : List StringVector) : Prop :=
  ∀ className ∈ classNames, className ∉ classes.values.map name →
    ∀ parent ∈ classes.values, name parent = className.dropLast → has parent = false

instance (classes : Forest α) (classNames : List StringVector) :
    Decidable (CreatesWithout name has classes classNames) :=
  inferInstanceAs (Decidable (∀ _ ∈ _, _))

/-- Later entries of the module find the classes without it, too. -/
theorem GainsNothing.without_of_createsWithout
    {start current : Forest α} {classNames : List StringVector}
    (gainsNothing : GainsNothing name has start current)
    (without : CreatesWithout name has start classNames)
    {className : StringVector}
    (listed : className ∈ classNames)
    (unknown : className ∉ current.values.map name)
    {parent : α}
    (member : parent ∈ current.values)
    (parentName : name parent = className.dropLast) :
    has parent = false := by
  by_contra holds
  obtain ⟨old, oldMember, sameName, oldHolds⟩ :=
    gainsNothing.had parent member (by simpa using holds)
  have none := without className listed (fun known => unknown (gainsNothing.names known))
    old oldMember (sameName.trans parentName)
  rw [none] at oldHolds
  cases oldHolds

end ClassTree
end ServerModel
end OpenRTI
