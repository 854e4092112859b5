import Mathlib.Data.List.Nodup
import OpenRTI.Foundation.Forest
import OpenRTI.ServerModel.HandleAllocator
import OpenRTI.Types

/-!
# Trees of classes

Object classes and interaction classes form trees of the same kind.  A class has
a handle and a name, each of which identifies it, and its name extends the name
of its parent by one string.  The lemmas say what the operations on a tree do to
its nodes, and that they keep this invariant.
-/

namespace OpenRTI
namespace ServerModel

open Foundation

namespace ClassTree

variable
  {α : Type}
  {handle : α → Nat}
  {name : α → StringVector}
  {invalid : Nat}

variable {ancestors : List α} {value : α}

/-! ## Changes that keep the shape of the tree -/

section Adjust

variable
  {classes : Forest α}
  {classHandle : Nat}
  {atClass derived : α → α}

/-- Change a class, and the classes derived from it in another way. -/
abbrev adjust
    (handle : α → Nat)
    (classHandle : Nat)
    (atClass derived : α → α)
    (classes : Forest α) : Forest α :=
  classes.adjust (fun value => handle value = classHandle) atClass derived

/-- What a change at a class and the classes derived from it makes of the class
with the given base classes. -/
def adjusted
    (handle : α → Nat)
    (classHandle : Nat)
    (atClass derived : α → α) : List α → α → α :=
  Forest.adjustNode (fun value => handle value = classHandle) atClass derived

theorem adjusted_derived
    (inside : classHandle ∈ ancestors.map handle)
    (value : α) :
    adjusted handle classHandle atClass derived ancestors value =
      derived value := by
  have any : ancestors.any (fun ancestor =>
      decide (handle ancestor = classHandle)) = true := by
    simpa using inside
  rw [adjusted, Forest.adjustNode, if_pos any]

theorem adjusted_at
    (outside : classHandle ∉ ancestors.map handle)
    (here : handle value = classHandle) :
    adjusted handle classHandle atClass derived ancestors value =
      atClass value := by
  have none : ¬ ancestors.any (fun ancestor =>
      decide (handle ancestor = classHandle)) = true := by
    simpa using outside
  rw [adjusted, Forest.adjustNode, if_neg none, if_pos (by simpa using here)]

theorem adjusted_outside
    (outside : classHandle ∉ (value :: ancestors).map handle) :
    adjusted handle classHandle atClass derived ancestors value = value := by
  rw [List.map_cons, List.mem_cons, not_or] at outside
  have none : ¬ ancestors.any (fun ancestor =>
      decide (handle ancestor = classHandle)) = true := by
    simpa using outside.2
  rw [adjusted, Forest.adjustNode, if_neg none,
    if_neg (by simpa using Ne.symm outside.1)]

theorem nodes_adjust :
    (adjust handle classHandle atClass derived classes).nodes =
      classes.nodes.map fun node =>
        (Forest.mapAncestors
            (adjusted handle classHandle atClass derived) node.1,
          adjusted handle classHandle atClass derived node.1 node.2) := by
  rw [adjust, Forest.adjust_eq_mapNodes, Forest.nodes_mapNodes]
  rfl

theorem mapAncestors_adjusted_outside
    (outside : classHandle ∉ ancestors.map handle) :
    Forest.mapAncestors (adjusted handle classHandle atClass derived)
        ancestors = ancestors := by
  induction ancestors with
  | nil => rfl
  | cons value ancestors ih =>
      rw [Forest.mapAncestors_cons, adjusted_outside outside,
        ih (fun inside => outside
          (List.mem_cons_of_mem _ inside))]

/-- An observation that both changes keep is kept at every class. -/
theorem observe_adjusted
    {γ : Type} {observe : α → γ}
    (keepsAt : ∀ value, observe (atClass value) = observe value)
    (keepsDerived : ∀ value, observe (derived value) = observe value)
    (ancestors : List α) (value : α) :
    observe (adjusted handle classHandle atClass derived ancestors value) =
      observe value := by
  unfold adjusted Forest.adjustNode
  split
  · exact keepsDerived value
  · split
    · exact keepsAt value
    · rfl

theorem values_adjust_map
    {γ : Type} {observe : α → γ}
    (keepsAt : ∀ value, observe (atClass value) = observe value)
    (keepsDerived : ∀ value, observe (derived value) = observe value) :
    (adjust handle classHandle atClass derived classes).values.map observe =
      classes.values.map observe := by
  rw [Forest.values, Forest.values, nodes_adjust, List.map_map, List.map_map,
    List.map_map]
  apply List.map_congr_left
  intro node _
  exact observe_adjusted keepsAt keepsDerived node.1 node.2

/-- Every class after the change comes from one before. -/
theorem mem_values_adjust
    {changed : α}
    (member : changed ∈
      (adjust handle classHandle atClass derived classes).values) :
    ∃ value ∈ classes.values,
      changed = value ∨ changed = derived value ∨
        handle value = classHandle ∧ changed = atClass value := by
  rw [Forest.values, nodes_adjust, List.map_map] at member
  obtain ⟨node, before, rfl⟩ := List.mem_map.mp member
  refine ⟨node.2, List.mem_map_of_mem before, ?_⟩
  simp only [Function.comp, adjusted, Forest.adjustNode]
  split
  · exact Or.inr (Or.inl rfl)
  · split
    next here => exact Or.inr (Or.inr ⟨by simpa using here, rfl⟩)
    · exact Or.inl rfl

theorem find?_adjust
    (handleAt : ∀ value, handle (atClass value) = handle value)
    (handleDerived : ∀ value, handle (derived value) = handle value)
    (other : Nat) :
    (adjust handle classHandle atClass derived classes).find?
        (fun value => handle value = other) =
      (classes.find? fun value => handle value = other).map fun node =>
        (Forest.mapAncestors
            (adjusted handle classHandle atClass derived) node.1,
          adjusted handle classHandle atClass derived node.1 node.2) := by
  rw [Forest.find?, nodes_adjust, List.find?_map, Forest.find?]
  congr 2
  funext node
  simp only [Function.comp]
  rw [observe_adjusted handleAt handleDerived]

end Adjust

/-! ## The invariant of a tree -/

structure Regular
    (handle : α → Nat)
    (name : α → StringVector)
    (classes : Forest α)
    (handleAllocator : HandleAllocator invalid) : Prop where
  handles : (classes.values.map handle).Nodup
  names : (classes.values.map name).Nodup
  named : ∀ node ∈ classes.nodes,
    name node.2 ≠ [] ∧
      (name node.2).dropLast = (node.1.head?.map name).getD []
  allocated : ∀ value ∈ classes.values,
    handle value ∈ handleAllocator.inUse
  bounded : handleAllocator.Bounded

theorem Regular.initial :
    Regular handle name .nil ({} : HandleAllocator invalid) where
  handles := List.nodup_nil
  names := List.nodup_nil
  named := by simp [Forest.nodes, Forest.nodesBelow]
  allocated := by simp [Forest.values, Forest.nodes, Forest.nodesBelow]
  bounded := by simp [HandleAllocator.Bounded]

variable {classes : Forest α} {node : List α × α}

theorem mem_values_of_mem_nodes
    (member : node ∈ classes.nodes) :
    node.2 ∈ classes.values :=
  List.mem_map_of_mem member

variable {classHandle : Nat} {className : StringVector}

namespace Regular

variable
  {classes : Forest α}
  {handleAllocator : HandleAllocator invalid}
  (regular : Regular handle name classes handleAllocator)

include regular

/-- A handle identifies a class together with its base classes. -/
theorem node_eq_of_handle
    {other : List α × α}
    (member : node ∈ classes.nodes)
    (otherMember : other ∈ classes.nodes)
    (same : handle node.2 = handle other.2) :
    node = other :=
  Forest.node_eq_of_key regular.handles member otherMember same

/-- A name identifies a class together with its base classes. -/
theorem node_eq_of_name
    {other : List α × α}
    (member : node ∈ classes.nodes)
    (otherMember : other ∈ classes.nodes)
    (same : name node.2 = name other.2) :
    node = other :=
  Forest.node_eq_of_key regular.names member otherMember same

section

variable (member : (ancestors, value) ∈ classes.nodes)
include member

/-- The name of a base class is a proper prefix of the name of a class. -/
theorem ancestor_name
    {ancestor : α}
    (above : ancestor ∈ ancestors) :
    name ancestor <+: name value ∧ name ancestor ≠ name value := by
  induction ancestors generalizing value with
  | nil => cases above
  | cons parent ancestors ih =>
      obtain ⟨nonempty, extended⟩ := regular.named _ member
      simp only [List.head?_cons, Option.map_some, Option.getD_some]
        at nonempty extended
      have shorter : (name parent).length < (name value).length := by
        rw [← extended, List.length_dropLast]
        exact Nat.sub_lt (List.length_pos_iff.mpr nonempty) Nat.one_pos
      have onPath : name parent <+: name value :=
        extended ▸ List.dropLast_prefix _
      obtain rfl | further := List.mem_cons.mp above
      · exact ⟨onPath, fun same => by rw [same] at shorter; omega⟩
      · obtain ⟨isPrefix, _⟩ :=
          ih (Forest.parent_mem_nodes member) further
        refine ⟨isPrefix.trans onPath, fun same => ?_⟩
        have bound := isPrefix.length_le
        rw [same] at bound
        omega

theorem ancestor_handle
    {ancestor : α}
    (above : ancestor ∈ ancestors) :
    handle ancestor ≠ handle value := by
  intro same
  exact Forest.key_notMem_ancestors regular.handles member
    (same ▸ List.mem_map_of_mem above)

theorem handle_notMem_ancestors :
    handle value ∉ ancestors.map handle :=
  Forest.key_notMem_ancestors regular.handles member

end

theorem find?_handle_eq_some :
    classes.find? (fun value => handle value = classHandle) = some node ↔
      node ∈ classes.nodes ∧ handle node.2 = classHandle :=
  Forest.find?_key_eq_some regular.handles

theorem find?_name_eq_some :
    classes.find? (fun value => name value = className) = some node ↔
      node ∈ classes.nodes ∧ name node.2 = className :=
  Forest.find?_key_eq_some regular.names

/-- The class that is changed, after the change. -/
theorem find?_adjust_self
    (atClass derived : α → α)
    (handleAt : ∀ value, handle (atClass value) = handle value)
    (handleDerived : ∀ value, handle (derived value) = handle value)
    (found : classes.find? (fun value => handle value = classHandle) =
      some (ancestors, value)) :
    (adjust handle classHandle atClass derived classes).find?
        (fun value => handle value = classHandle) =
      some (ancestors, atClass value) := by
  obtain ⟨member, here⟩ := regular.find?_handle_eq_some.mp found
  have outside := regular.handle_notMem_ancestors member
  simp only at here
  rw [here] at outside
  rw [find?_adjust handleAt handleDerived, found, Option.map_some,
    adjusted_at outside here, mapAncestors_adjusted_outside outside]

/-- A map that keeps handles and names keeps the tree regular. -/
theorem mapNodes
    {change : List α → α → α}
    (handleKept : ∀ ancestors value, handle (change ancestors value) = handle value)
    (nameKept : ∀ ancestors value, name (change ancestors value) = name value) :
    Regular handle name (classes.mapNodes change) handleAllocator := by
  have observed : ∀ {γ : Type} (observe : α → γ),
      (∀ ancestors value, observe (change ancestors value) = observe value) →
      (classes.mapNodes change).values.map observe = classes.values.map observe := by
    intro γ observe kept
    rw [Forest.values, Forest.values, Forest.nodes_mapNodes, List.map_map,
      List.map_map, List.map_map]
    apply List.map_congr_left
    intro node _
    exact kept node.1 node.2
  refine ⟨?_, ?_, ?_, ?_, regular.bounded⟩
  · rw [observed handle handleKept]
    exact regular.handles
  · rw [observed name nameKept]
    exact regular.names
  · rw [Forest.nodes_mapNodes]
    intro node member
    obtain ⟨⟨ancestors, value⟩, before, rfl⟩ := List.mem_map.mp member
    have path := Forest.map_mapAncestors nameKept ancestors
    have head := congrArg List.head? path
    rw [List.head?_map, List.head?_map] at head
    rw [nameKept, head]
    exact regular.named _ before
  · intro changed member
    have changedHandle : handle changed ∈ classes.values.map handle := by
      rw [← observed handle handleKept]
      exact List.mem_map_of_mem member
    obtain ⟨value, valueMember, same⟩ := List.mem_map.mp changedHandle
    rw [← same]
    exact regular.allocated value valueMember

/-- A change that keeps handles and names keeps the tree regular. -/
theorem adjust
    {classHandle : Nat} {atClass derived : α → α}
    (handleAt : ∀ value, handle (atClass value) = handle value)
    (handleDerived : ∀ value, handle (derived value) = handle value)
    (nameAt : ∀ value, name (atClass value) = name value)
    (nameDerived : ∀ value, name (derived value) = name value) :
    Regular handle name
      (ClassTree.adjust handle classHandle atClass derived classes)
      handleAllocator := by
  rw [ClassTree.adjust, Forest.adjust_eq_mapNodes]
  exact regular.mapNodes (observe_adjusted handleAt handleDerived)
    (observe_adjusted nameAt nameDerived)

end Regular

variable {handleAllocator : HandleAllocator invalid}

section

variable (regular : Regular handle name classes handleAllocator)
include regular

/-- The classes whose name is a prefix of the name of a class are that class and
its base classes. -/
theorem Regular.mem_path
    {other : α}
    (member : (ancestors, value) ∈ classes.nodes) :
    other ∈ classes.values ∧ name other <+: name value ↔
      other ∈ value :: ancestors := by
  constructor
  · rintro ⟨otherMember, isPrefix⟩
    obtain ⟨otherAncestors, otherNode⟩ := Forest.mem_values.mp otherMember
    induction ancestors generalizing value with
    | nil =>
        obtain ⟨nonempty, root⟩ := regular.named _ member
        rw [← List.dropLast_append_getLast nonempty, root,
          List.prefix_concat_iff] at isPrefix
        obtain same | nothing := isPrefix
        · rw [← root, List.dropLast_append_getLast nonempty] at same
          have equal := regular.node_eq_of_name otherNode member same
          exact List.mem_cons.mpr (Or.inl (Prod.mk.inj equal).2)
        · exact absurd (List.prefix_nil.mp nothing)
            (regular.named _ otherNode).1
    | cons parent ancestors ih =>
        obtain ⟨nonempty, extended⟩ := regular.named _ member
        rw [← List.dropLast_append_getLast nonempty, extended,
          List.prefix_concat_iff] at isPrefix
        obtain same | above := isPrefix
        · rw [← extended, List.dropLast_append_getLast nonempty] at same
          have equal := regular.node_eq_of_name otherNode member same
          exact List.mem_cons.mpr (Or.inl (Prod.mk.inj equal).2)
        · exact List.mem_cons_of_mem _
            (ih (Forest.parent_mem_nodes member) above)
  · intro onPath
    obtain rfl | above := List.mem_cons.mp onPath
    · exact ⟨mem_values_of_mem_nodes member, List.prefix_rfl⟩
    · obtain ⟨inner, outer, rfl⟩ := List.append_of_mem above
      exact ⟨mem_values_of_mem_nodes (Forest.ancestor_mem_nodes member),
        (regular.ancestor_name member above).1⟩

theorem Regular.path_nodup
    (member : (ancestors, value) ∈ classes.nodes) :
    (value :: ancestors).Nodup := by
  induction ancestors generalizing value with
  | nil => exact List.nodup_singleton _
  | cons parent ancestors ih =>
      rw [List.nodup_cons]
      refine ⟨fun above => ?_,
        ih (Forest.parent_mem_nodes member)⟩
      exact (regular.ancestor_name member above).2 rfl

theorem Regular.filter_prefix
    (member : (ancestors, value) ∈ classes.nodes) :
    (classes.values.filter fun other => name other <+: name value).Perm
      (value :: ancestors) := by
  have nodup := List.Nodup.of_map _ regular.handles
  rw [List.perm_ext_iff_of_nodup (nodup.filter _)
    (regular.path_nodup member)]
  intro other
  rw [List.mem_filter, decide_eq_true_eq]
  exact regular.mem_path member

end

theorem find?_name_eq_none :
    classes.find? (fun value => name value = className) = none ↔
      className ∉ classes.values.map name := by
  rw [Forest.find?_eq_none, Forest.values, List.map_map]
  simp

/-! ## New classes -/

/-- A class and its base classes, where there is a class. -/
def pathOf : Option (List α × α) → List α
  | none => []
  | some (ancestors, value) => value :: ancestors

/-- Enter a class below its parent, or as a root. -/
def insertClass
    (handle : α → Nat)
    (parent : Option α)
    (create : Option α → α)
    (classes : Forest α) : Forest α :=
  match parent with
  | none => classes.append (create none)
  | some parent =>
      classes.appendChild (fun value => handle value = handle parent)
        fun parent => create (some parent)

section

variable (regular : Regular handle name classes handleAllocator)
include regular

/-- A new class is one more node, below its parent. -/
theorem Regular.nodes_insertClass
    {parent : Option (List α × α)}
    (parentMember : ∀ node ∈ parent, node ∈ classes.nodes)
    (create : Option α → α) :
    (insertClass handle (parent.map (·.2)) create classes).nodes.Perm
      (classes.nodes ++ [(pathOf parent, create (parent.map (·.2)))]) := by
  cases parent with
  | none =>
      exact List.Perm.of_eq (Forest.nodesBelow_append _ _ _)
  | some node =>
      refine (Forest.nodesBelow_appendChild _ _ _ _).trans
        (List.Perm.append_left _ ?_)
      exact (Forest.filter_key regular.handles (parentMember node rfl)).map _

/-- The tree with a new class, whose handle has just been given away. -/
theorem Regular.insertClass
    {after : HandleAllocator invalid} {parent : Option (List α × α)}
    (parentMember : ∀ node ∈ parent, node ∈ classes.nodes)
    {create : Option α → α}
    (hasName : ∀ parent, name (create parent) = className)
    (hasHandle : ∀ parent, handle (create parent) = classHandle)
    (nonempty : className ≠ [])
    (unknown : classes.find? (fun value => name value = className) = none)
    (parentName : className.dropLast =
      (parent.map fun node => name node.2).getD [])
    (got : HandleAllocator.get handleAllocator = .ok classHandle after) :
    Regular handle name
      (ClassTree.insertClass handle (parent.map (·.2)) create classes)
      after := by
  have inUse := regular.bounded.inUse_get got
  have nodes := regular.nodes_insertClass parentMember create
  have values := nodes.map (·.2)
  rw [List.map_append] at values
  constructor
  · rw [Forest.values, (values.map _).nodup_iff, List.map_append,
      List.map_singleton, List.map_singleton, List.nodup_append_comm,
      List.singleton_append, List.nodup_cons, hasHandle]
    refine ⟨?_, regular.handles⟩
    rw [List.mem_map]
    rintro ⟨value, member, same⟩
    have used := regular.allocated value member
    rw [same] at used
    exact HandleAllocator.notMem_inUse_of_get got used
  · rw [Forest.values, (values.map _).nodup_iff, List.map_append,
      List.map_singleton, List.map_singleton, List.nodup_append_comm,
      List.singleton_append, List.nodup_cons, hasName]
    exact ⟨find?_name_eq_none.mp unknown, regular.names⟩
  · intro node member
    rw [nodes.mem_iff, List.mem_append, List.mem_singleton] at member
    obtain before | rfl := member
    · exact regular.named node before
    · rw [hasName]
      refine ⟨nonempty, ?_⟩
      cases parent with
      | none => exact parentName
      | some parent => exact parentName
  · intro value member
    rw [Forest.values, values.mem_iff, List.mem_append] at member
    rw [inUse, Finset.mem_insert]
    obtain before | new := member
    · exact Or.inr (regular.allocated value before)
    · rw [List.map_singleton, List.mem_singleton] at new
      rw [new, hasHandle]
      exact Or.inl rfl
  · exact regular.bounded.get got

/-- The name of the parent below which a class is created. -/
theorem Regular.parentName
    (parent : className.length ≤ 1 ∨
      classes.find? (fun value => name value = className.dropLast) ≠ none) :
    className.dropLast =
      ((classes.find? fun value => name value = className.dropLast).map
        fun node => name node.2).getD [] := by
  cases found : classes.find? fun value =>
      name value = className.dropLast with
  | none =>
      obtain short | known := parent
      · have none : className.dropLast.length = 0 := by
          rw [List.length_dropLast]
          omega
        exact List.length_eq_zero_iff.mp none
      · exact absurd found known
  | some node =>
      exact (regular.find?_name_eq_some.mp found).2.symm

end

/-! ## Links of modules -/

/-- Every class is linked to some module, and its definitions are if it has
some. -/
def Linked
    (handle : α → Nat)
    (defines : α → Prop)
    (classLinks definitionLinks : Nat → Prop)
    (classes : Forest α) : Prop :=
  ∀ value ∈ classes.values,
    classLinks (handle value) ∧
      (defines value → definitionLinks (handle value))

variable {defines : α → Prop} {classLinks definitionLinks : Nat → Prop}

theorem Linked.mono
    {classLinks' definitionLinks' : Nat → Prop}
    (classesMore : ∀ classHandle,
      classLinks classHandle → classLinks' classHandle)
    (definitionsMore : ∀ classHandle,
      definitionLinks classHandle → definitionLinks' classHandle)
    (linked : Linked handle defines classLinks definitionLinks classes) :
    Linked handle defines classLinks' definitionLinks' classes := by
  intro value member
  obtain ⟨classLink, definitionLink⟩ := linked value member
  exact ⟨classesMore _ classLink, fun some =>
    definitionsMore _ (definitionLink some)⟩

/-- A change that keeps handles and adds no definitions needs no links. -/
theorem Linked.mapNodes
    {change : List α → α → α}
    (linked : Linked handle defines classLinks definitionLinks classes)
    (keepsHandle : ∀ ancestors value, handle (change ancestors value) = handle value)
    (keepsDefinitions : ∀ ancestors value,
      defines (change ancestors value) → defines value) :
    Linked handle defines classLinks definitionLinks (classes.mapNodes change) := by
  intro changed member
  obtain ⟨changedAncestors, changedMember⟩ := Forest.mem_values.mp member
  rw [Forest.nodes_mapNodes] at changedMember
  obtain ⟨⟨ancestors, value⟩, before, equal⟩ := List.mem_map.mp changedMember
  obtain ⟨rfl, rfl⟩ := Prod.mk.inj equal
  obtain ⟨classLink, definitionLink⟩ := linked value (mem_values_of_mem_nodes before)
  rw [keepsHandle]
  exact ⟨classLink, fun some => definitionLink (keepsDefinitions ancestors value some)⟩

/-- Growth of one class and the links for it keep everything linked.  The class
itself may be new and without links as long as it defines nothing. -/
theorem Linked.grow
    {listed : Prop} {start grown : Forest α}
    (linked : ∀ value ∈ start.values,
      handle value = classHandle ∧ ¬ defines value ∨
        classLinks (handle value) ∧
          (defines value → definitionLinks (handle value)))
    (grows : ∀ grownValue ∈ grown.values, ∃ value ∈ start.values,
      handle value = handle grownValue ∧
        (defines grownValue →
          defines value ∨ handle value = classHandle ∧ listed)) :
    Linked handle defines
      (fun other => classLinks other ∨ other = classHandle)
      (fun other => definitionLinks other ∨ other = classHandle ∧ listed)
      grown := by
  intro grownValue member
  obtain ⟨value, startMember, same, definesBefore⟩ := grows grownValue member
  rw [← same]
  obtain ⟨here, nothing⟩ | ⟨classLink, definitionLink⟩ :=
    linked value startMember
  · refine ⟨Or.inr here, fun some => ?_⟩
    obtain before | new := definesBefore some
    · exact absurd before nothing
    · exact Or.inr new
  · refine ⟨Or.inl classLink, fun some => ?_⟩
    exact (definesBefore some).imp_left definitionLink

end ClassTree
end ServerModel
end OpenRTI
