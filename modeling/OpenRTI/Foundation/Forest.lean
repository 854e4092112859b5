import Mathlib.Data.List.Nodup
import Mathlib.Data.List.Perm.Basic
import Mathlib.Tactic.Common

/-!
# Forests

Finite ordered forests, each node with the forest of its children.  A node is
seen together with the nodes above it: `nodes` lists every node with its
ancestors, the nearest first.  An operation that changes nodes but not the shape
of the forest is a map that may look at the ancestors of a node, and invariants
are properties of a node and its ancestors.
-/

namespace Foundation

/-- The first tree of a forest by its root and children, and the others. -/
inductive Forest (α : Type*)
  | nil
  | cons (value : α) (children siblings : Forest α)
  deriving DecidableEq

namespace Forest

variable {α β σ : Type*}

/-! ## Nodes and their ancestors -/

/-- Every node below the given ancestors, parents before their children. -/
def nodesBelow (ancestors : List α) : Forest α → List (List α × α)
  | nil => []
  | cons value children siblings =>
      (ancestors, value) ::
        (children.nodesBelow (value :: ancestors) ++
          siblings.nodesBelow ancestors)

/-- Every node with its ancestors, the nearest first. -/
abbrev nodes (forest : Forest α) : List (List α × α) :=
  forest.nodesBelow []

/-- The values of the forest, parents before their children. -/
def values (forest : Forest α) : List α := forest.nodes.map (·.2)

/-- The first selected node with its ancestors. -/
def find? (selected : α → Bool) (forest : Forest α) : Option (List α × α) :=
  forest.nodes.find? fun node => selected node.2

variable {value : α} {forest : Forest α}

theorem mem_values :
    value ∈ forest.values ↔ ∃ ancestors, (ancestors, value) ∈ forest.nodes := by
  simp [values]

variable {outer ancestors : List α}

/-- The parent of a node is a node of the same forest, unless it is one of the
ancestors the whole forest stands below. -/
theorem parent_mem_nodesBelow
    {parent : α}
    (member : (parent :: ancestors, value) ∈ forest.nodesBelow outer) :
    parent :: ancestors = outer ∨
      (ancestors, parent) ∈ forest.nodesBelow outer := by
  induction forest generalizing outer with
  | nil => cases member
  | cons root children siblings childrenHypothesis siblingsHypothesis =>
      simp only [nodesBelow, List.mem_cons, List.mem_append,
        Prod.mk.injEq] at member ⊢
      obtain ⟨same, _⟩ | below | beside := member
      · exact Or.inl same
      · obtain same | inside := childrenHypothesis below
        · obtain ⟨sameParent, sameAncestors⟩ := List.cons.inj same
          exact Or.inr (Or.inl ⟨sameAncestors, sameParent⟩)
        · exact Or.inr (Or.inr (Or.inl inside))
      · obtain same | inside := siblingsHypothesis beside
        · exact Or.inl same
        · exact Or.inr (Or.inr (Or.inr inside))

theorem parent_mem_nodes
    {parent : α}
    (member : (parent :: ancestors, value) ∈ forest.nodes) :
    (ancestors, parent) ∈ forest.nodes :=
  (parent_mem_nodesBelow member).resolve_left (List.cons_ne_nil _ _)

/-- Each ancestor of a node is a node, with the ancestors beyond it. -/
theorem ancestor_mem_nodes
    {inner : List α} {ancestor : α}
    (member : (inner ++ ancestor :: outer, value) ∈ forest.nodes) :
    (outer, ancestor) ∈ forest.nodes := by
  induction inner generalizing value with
  | nil => exact parent_mem_nodes member
  | cons nearest inner ih =>
      exact ih (parent_mem_nodes member)

theorem find?_eq_some
    {selected : α → Bool} {node : List α × α}
    (found : forest.find? selected = some node) :
    node ∈ forest.nodes ∧ selected node.2 = true :=
  ⟨List.mem_of_find?_eq_some found,
    by simpa using List.find?_some (show forest.nodes.find?
      (fun node => selected node.2) = some node from found)⟩

theorem find?_eq_none
    {selected : α → Bool} :
    forest.find? selected = none ↔
      ∀ node ∈ forest.nodes, selected node.2 = false := by
  simp [find?]

/-! ## Keys -/

section Key

variable {κ : Type*} {key : α → κ} {forest : Forest α}

/-- A key that no two values share identifies a node. -/
theorem node_eq_of_key
    (distinct : (forest.values.map key).Nodup)
    {node other : List α × α}
    (member : node ∈ forest.nodes)
    (otherMember : other ∈ forest.nodes)
    (same : key node.2 = key other.2) :
    node = other := by
  rw [values, List.map_map] at distinct
  exact List.inj_on_of_nodup_map distinct member otherMember same

theorem filter_key [DecidableEq κ]
    (distinct : (forest.values.map key).Nodup)
    {node : List α × α}
    (member : node ∈ forest.nodes) :
    (forest.nodes.filter fun other => key other.2 = key node.2).Perm [node] := by
  have nodup := distinct
  rw [values, List.map_map] at nodup
  rw [List.perm_ext_iff_of_nodup ((List.Nodup.of_map _ nodup).filter _)
    (List.nodup_singleton _)]
  intro other
  rw [List.mem_filter, List.mem_singleton, decide_eq_true_eq]
  constructor
  · rintro ⟨otherMember, same⟩
    exact node_eq_of_key distinct otherMember member same
  · rintro rfl
    exact ⟨member, rfl⟩

theorem find?_key_eq_some [DecidableEq κ]
    (distinct : (forest.values.map key).Nodup)
    {wanted : κ} {node : List α × α} :
    forest.find? (fun value => key value = wanted) = some node ↔
      node ∈ forest.nodes ∧ key node.2 = wanted := by
  constructor
  · intro found
    obtain ⟨member, here⟩ := find?_eq_some found
    exact ⟨member, of_decide_eq_true here⟩
  · rintro ⟨member, here⟩
    cases found : forest.find? fun value => key value = wanted with
    | none =>
        have absent := find?_eq_none.mp found node member
        exact absurd here (of_decide_eq_false absent)
    | some other =>
        obtain ⟨otherMember, otherHere⟩ := find?_eq_some found
        rw [node_eq_of_key distinct otherMember member
          ((of_decide_eq_true otherHere).trans here.symm)]

/-- The key of a value is not that of a value above it. -/
theorem key_notMem_ancestors
    (distinct : (forest.values.map key).Nodup)
    {ancestors : List α} {value : α}
    (member : (ancestors, value) ∈ forest.nodes) :
    key value ∉ ancestors.map key := by
  intro above
  obtain ⟨ancestor, inside, same⟩ := List.mem_map.mp above
  obtain ⟨inner, outer, rfl⟩ := List.append_of_mem inside
  have equal := node_eq_of_key distinct member (ancestor_mem_nodes member) same.symm
  have length := congrArg (fun node => node.1.length) equal
  simp only [List.length_append, List.length_cons] at length
  omega

theorem path_keys_nodup
    (distinct : (forest.values.map key).Nodup)
    {ancestors : List α} {value : α}
    (member : (ancestors, value) ∈ forest.nodes) :
    ((value :: ancestors).map key).Nodup := by
  induction ancestors generalizing value with
  | nil => simp
  | cons parent ancestors ih =>
      rw [List.map_cons, List.nodup_cons]
      exact ⟨key_notMem_ancestors distinct member,
        ih (parent_mem_nodes member)⟩

end Key

/-! ## Maps that look at the ancestors -/

/-- Map every node by a function of its ancestors and itself. -/
def mapBelow
    (change : List α → α → β)
    (ancestors : List α) : Forest α → Forest β
  | nil => nil
  | cons value children siblings =>
      cons (change ancestors value)
        (children.mapBelow change (value :: ancestors))
        (siblings.mapBelow change ancestors)

/-- Map every node by a function of its ancestors and itself. -/
abbrev mapNodes (change : List α → α → β) (forest : Forest α) : Forest β :=
  forest.mapBelow change []

/-- What a map makes of the ancestors of a node. -/
def mapAncestors (change : List α → α → β) : List α → List β
  | [] => []
  | value :: ancestors =>
      change ancestors value :: mapAncestors change ancestors

variable (change : List α → α → β)

@[simp] theorem mapAncestors_cons
    (value : α) (ancestors : List α) :
    mapAncestors change (value :: ancestors) =
      change ancestors value :: mapAncestors change ancestors := rfl

theorem nodesBelow_mapBelow
    (forest : Forest α) (ancestors : List α) :
    (forest.mapBelow change ancestors).nodesBelow
        (mapAncestors change ancestors) =
      (forest.nodesBelow ancestors).map fun node =>
        (mapAncestors change node.1, change node.1 node.2) := by
  induction forest generalizing ancestors with
  | nil => rfl
  | cons value children siblings childrenHypothesis siblingsHypothesis =>
      have below := childrenHypothesis (value :: ancestors)
      rw [mapAncestors_cons] at below
      rw [mapBelow, nodesBelow, nodesBelow, below, siblingsHypothesis]
      simp

/-- The nodes of a mapped forest are the mapped nodes. -/
theorem nodes_mapNodes
    (forest : Forest α) :
    (forest.mapNodes change).nodes =
      forest.nodes.map fun node =>
        (mapAncestors change node.1, change node.1 node.2) :=
  nodesBelow_mapBelow change forest []

variable {change : List α → α → β}

/-- The first selected node of a mapped forest, where the map does not change
what is selected. -/
theorem find?_mapNodes
    {selected : β → Bool} {selectedBefore : α → Bool}
    (keeps : ∀ ancestors value,
      selected (change ancestors value) = selectedBefore value)
    (forest : Forest α) :
    (forest.mapNodes change).find? selected =
      (forest.find? selectedBefore).map fun node =>
        (mapAncestors change node.1, change node.1 node.2) := by
  rw [find?, nodes_mapNodes, List.find?_map, find?]
  congr 2
  funext node
  exact keeps node.1 node.2

/-- An observation that the map keeps is kept on the ancestors. -/
theorem map_mapAncestors
    {γ : Type*} {observe : α → γ}
    {observeChanged : β → γ}
    (kept : ∀ ancestors value,
      observeChanged (change ancestors value) = observe value)
    (ancestors : List α) :
    (mapAncestors change ancestors).map observeChanged =
      ancestors.map observe := by
  induction ancestors with
  | nil => rfl
  | cons value ancestors ih =>
      rw [mapAncestors_cons, List.map_cons, List.map_cons, kept,
        ih]

/-! ## Changing a node and what is below it -/

/-- Change each selected node by `atNode` and everything below one by
`below`. -/
def adjust
    (selected : α → Bool)
    (atNode below : α → α) : Forest α → Forest α
  | nil => nil
  | cons value children siblings =>
      if selected value then
        cons (atNode value) (children.mapNodes fun _ => below)
          (siblings.adjust selected atNode below)
      else
        cons value (children.adjust selected atNode below)
          (siblings.adjust selected atNode below)

/-- What `adjust` makes of one node. -/
def adjustNode
    (selected : α → Bool)
    (atNode below : α → α)
    (ancestors : List α)
    (value : α) : α :=
  if ancestors.any selected then below value
  else if selected value then atNode value
  else value

theorem mapBelow_congr
    {other : List α → α → β} {otherOuter : List α}
    (same : ∀ inner value,
      change (inner ++ outer) value = other (inner ++ otherOuter) value) :
    forest.mapBelow change outer = forest.mapBelow other otherOuter := by
  induction forest generalizing outer otherOuter with
  | nil => rfl
  | cons value children siblings childrenHypothesis siblingsHypothesis =>
      have here : change outer value = other otherOuter value := same [] value
      rw [mapBelow, mapBelow, siblingsHypothesis same,
        childrenHypothesis (fun inner node => ?_), here]
      simpa using same (inner ++ [value]) node

variable (selected : α → Bool)

theorem adjust_eq_mapBelow
    (atNode below : α → α) (forest : Forest α) (ancestors : List α)
    (outside : ancestors.any selected = false) :
    forest.adjust selected atNode below =
      forest.mapBelow (adjustNode selected atNode below) ancestors := by
  induction forest generalizing ancestors with
  | nil => rfl
  | cons value children siblings childrenHypothesis siblingsHypothesis =>
      rw [adjust, mapBelow, siblingsHypothesis ancestors outside]
      by_cases here : selected value = true
      · have inside : children.mapNodes (fun _ => below) =
            children.mapBelow (adjustNode selected atNode below)
              (value :: ancestors) := by
          apply mapBelow_congr
          intro inner node
          simp [adjustNode, here]
        rw [if_pos here, inside]
        simp [adjustNode, here, outside]
      · rw [if_neg here, childrenHypothesis (value :: ancestors)
          (by simp [here, outside])]
        simp [adjustNode, here, outside]

/-- Adjusting a forest is mapping its nodes. -/
theorem adjust_eq_mapNodes
    (atNode below : α → α) (forest : Forest α) :
    forest.adjust selected atNode below =
      forest.mapNodes (adjustNode selected atNode below) :=
  adjust_eq_mapBelow selected atNode below forest [] rfl

/-! ## New leaves -/

/-- Append a tree to the trees of a forest. -/
def append (value : α) : Forest α → Forest α
  | nil => cons value nil nil
  | cons first children siblings =>
      cons first children (siblings.append value)

/-- Append a leaf to the children of each selected node. -/
def appendChild
    (selected : α → Bool)
    (make : α → α) : Forest α → Forest α
  | nil => nil
  | cons value children siblings =>
      cons value
        (if selected value then
          (children.appendChild selected make).append (make value)
        else children.appendChild selected make)
        (siblings.appendChild selected make)

theorem nodesBelow_append
    (value : α) (forest : Forest α) (ancestors : List α) :
    (forest.append value).nodesBelow ancestors =
      forest.nodesBelow ancestors ++ [(ancestors, value)] := by
  induction forest generalizing ancestors with
  | nil => rfl
  | cons first children siblings _ siblingsHypothesis =>
      simp [append, nodesBelow, siblingsHypothesis]

theorem perm_append_append_append_comm (first second third fourth : List α) :
    ((first ++ second) ++ (third ++ fourth)).Perm
      ((first ++ third) ++ (second ++ fourth)) := by
  rw [List.append_assoc, List.append_assoc]
  exact (List.perm_append_comm_assoc second third fourth).append_left first

theorem nodesBelow_appendChild
    (make : α → α) (forest : Forest α) (ancestors : List α) :
    ((forest.appendChild selected make).nodesBelow ancestors).Perm
      (forest.nodesBelow ancestors ++
        ((forest.nodesBelow ancestors).filter fun node =>
            selected node.2).map fun node =>
          (node.2 :: node.1, make node.2)) := by
  induction forest generalizing ancestors with
  | nil => exact List.Perm.refl _
  | cons value children siblings childrenHypothesis siblingsHypothesis =>
      have below := childrenHypothesis (value :: ancestors)
      have beside := siblingsHypothesis ancestors
      by_cases here : selected value = true
      · rw [appendChild, nodesBelow, nodesBelow, if_pos here,
          nodesBelow_append, List.filter_cons_of_pos (by exact here),
          List.filter_append, List.map_cons, List.map_append,
          List.cons_append]
        refine List.Perm.cons _ ?_
        refine ((below.append_right _).append beside).trans ?_
        rw [List.append_assoc _ [_], List.singleton_append]
        refine List.perm_middle.trans (List.Perm.trans ?_ List.perm_middle.symm)
        exact (perm_append_append_append_comm _ _ _ _).cons _
      · rw [appendChild, nodesBelow, nodesBelow, if_neg here,
          List.filter_cons_of_neg (by exact here), List.filter_append,
          List.map_append, List.cons_append]
        refine List.Perm.cons _ ?_
        exact (below.append beside).trans
          (perm_append_append_append_comm _ _ _ _)

/-- A map treats a new tree like the others. -/
theorem mapBelow_append
    (change : List α → α → β) (value : α) (forest : Forest α)
    (ancestors : List α) :
    (forest.append value).mapBelow change ancestors =
      (forest.mapBelow change ancestors).append (change ancestors value) := by
  induction forest generalizing ancestors with
  | nil => rfl
  | cons first children siblings _ siblingsHypothesis =>
      rw [append, mapBelow, mapBelow, append, siblingsHypothesis]

/-- A new leaf can be appended before or after a map if it comes out the same. -/
theorem mapBelow_appendChild
    {selected : α → Bool} {make : α → α}
    {change : List α → α → α}
    (keeps : ∀ ancestors value, selected (change ancestors value) = selected value)
    (leaf : ∀ node ∈ forest.nodesBelow ancestors, selected node.2 = true →
      change (node.2 :: node.1) (make node.2) = make (change node.1 node.2)) :
    (forest.appendChild selected make).mapBelow change ancestors =
      (forest.mapBelow change ancestors).appendChild selected make := by
  induction forest generalizing ancestors with
  | nil => rfl
  | cons value children siblings childrenHypothesis siblingsHypothesis =>
      rw [nodesBelow, List.forall_mem_cons] at leaf
      have below := childrenHypothesis fun node member =>
        leaf.2 node (List.mem_append_left _ member)
      have beside := siblingsHypothesis fun node member =>
        leaf.2 node (List.mem_append_right _ member)
      rw [appendChild, mapBelow, mapBelow, appendChild, beside, keeps]
      split
      next here => rw [mapBelow_append, below, leaf.1 here]
      next => rw [below]

/-! ## Removing nodes -/

/-- Remove each selected node with everything below it. -/
def remove (selected : α → Bool) : Forest α → Forest α
  | nil => nil
  | cons value children siblings =>
      if selected value then siblings.remove selected
      else
        cons value (children.remove selected) (siblings.remove selected)

/-! ## Passing a signal down -/

section Propagate

variable
  (passes : σ → α → Option σ)
  (change : σ → α → α)

/-- Pass a signal down from the parents.  A node may stop the signal, or change
by what it passes on. -/
def propagate : σ → Forest α → Forest α
  | _, nil => nil
  | signal, cons value children siblings =>
      match passes signal value with
      | none => cons value children (siblings.propagate signal)
      | some passed =>
          cons (change passed value) (children.propagate passed)
            (siblings.propagate signal)

/-- The nodes that pass the signal on and what they pass, children before their
parents. -/
def visited : σ → Forest α → List (α × σ)
  | _, nil => []
  | signal, cons value children siblings =>
      (match passes signal value with
        | none => []
        | some passed => children.visited passed ++ [(value, passed)]) ++
      siblings.visited signal

variable
  (selected : α → Bool)
  (start : List α → σ)

/-- Pass a signal down starting at the selected nodes, where it is computed
from the ancestors. -/
def propagateFrom (ancestors : List α) : Forest α → Forest α
  | nil => nil
  | cons value children siblings =>
      if selected value then
        match passes (start ancestors) value with
        | none => cons value children (siblings.propagateFrom ancestors)
        | some passed =>
            cons (change passed value)
              (children.propagate passes change passed)
              (siblings.propagateFrom ancestors)
      else
        cons value (children.propagateFrom (value :: ancestors))
          (siblings.propagateFrom ancestors)

/-- The nodes that pass on the signal started at the selected nodes. -/
def visitedFrom (ancestors : List α) : Forest α → List (α × σ)
  | nil => []
  | cons value children siblings =>
      (if selected value then
        match passes (start ancestors) value with
        | none => []
        | some passed =>
            children.visited passes passed ++ [(value, passed)]
      else children.visitedFrom (value :: ancestors)) ++
      siblings.visitedFrom ancestors

/-- What a node passes on, by the path to it from the node itself up. -/
def passedOn : List α → Option σ
  | [] => none
  | value :: ancestors =>
      if ancestors.any selected then
        (passedOn ancestors).bind fun signal => passes signal value
      else if selected value then passes (start ancestors) value
      else none

/-- What passing the signal down makes of a node. -/
def propagated (ancestors : List α) (value : α) : α :=
  match passedOn passes selected start (value :: ancestors) with
  | none => value
  | some passed => change passed value

variable {passes change selected start}

theorem passedOn_below
    {value : α} {ancestors : List α}
    (inside : ancestors.any selected = true) :
    passedOn passes selected start (value :: ancestors) =
      (passedOn passes selected start ancestors).bind fun signal =>
        passes signal value := by
  rw [passedOn, if_pos inside]

theorem passedOn_selected
    {value : α} {ancestors : List α}
    (outside : ancestors.any selected = false)
    (here : selected value = true) :
    passedOn passes selected start (value :: ancestors) =
      passes (start ancestors) value := by
  rw [passedOn, if_neg (Bool.eq_false_iff.mp outside), if_pos here]

variable {path : List α}

theorem passedOn_outside
    (outside : path.any selected = false) :
    passedOn passes selected start path = none := by
  cases path with
  | nil => rfl
  | cons value ancestors =>
      rw [List.any_cons, Bool.or_eq_false_iff] at outside
      rw [passedOn, if_neg (Bool.eq_false_iff.mp outside.2),
        if_neg (Bool.eq_false_iff.mp outside.1)]

/-- Below a node that stops the signal nothing is passed on. -/
theorem passedOn_of_stopped
    {inner path : List α}
    (inside : path.any selected = true)
    (stopped : passedOn passes selected start path = none) :
    passedOn passes selected start (inner ++ path) = none := by
  induction inner with
  | nil => exact stopped
  | cons value inner ih =>
      rw [List.cons_append, passedOn_below (by simp [inside]),
        ih]
      rfl

theorem mapBelow_of_stopped
    (inside : path.any selected = true)
    (stopped : passedOn passes selected start path = none) :
    forest.mapBelow (propagated passes change selected start) path =
      forest := by
  induction forest generalizing path with
  | nil => rfl
  | cons value children siblings childrenHypothesis siblingsHypothesis =>
      have here : passedOn passes selected start (value :: path) = none := by
        exact @passedOn_of_stopped α σ passes selected start [value] path
          inside stopped
      rw [mapBelow, propagated, here, siblingsHypothesis inside stopped,
        childrenHypothesis (by simp [inside]) here]

theorem propagate_eq_mapBelow
    {signal : σ}
    (inside : path.any selected = true)
    (passed : passedOn passes selected start path = some signal) :
    forest.propagate passes change signal =
      forest.mapBelow (propagated passes change selected start) path := by
  induction forest generalizing path signal with
  | nil => rfl
  | cons value children siblings childrenHypothesis siblingsHypothesis =>
      have here : passedOn passes selected start (value :: path) =
          passes signal value := by
        rw [passedOn_below inside, passed]
        rfl
      have below : (value :: path).any selected = true := by simp [inside]
      rw [propagate, mapBelow, propagated, here,
        ← siblingsHypothesis inside passed]
      cases stepped : passes signal value with
      | none =>
          rw [mapBelow_of_stopped below (here.trans stepped)]
      | some next =>
          rw [← childrenHypothesis below (here.trans stepped)]

/-- Passing a signal down is mapping the nodes by what they pass on. -/
theorem propagateFrom_eq_mapBelow
    (outside : ancestors.any selected = false) :
    forest.propagateFrom passes change selected start ancestors =
      forest.mapBelow (propagated passes change selected start)
        ancestors := by
  induction forest generalizing ancestors with
  | nil => rfl
  | cons value children siblings childrenHypothesis siblingsHypothesis =>
      rw [propagateFrom, mapBelow, ← siblingsHypothesis outside, propagated]
      by_cases here : selected value = true
      · have path : passedOn passes selected start (value :: ancestors) =
            passes (start ancestors) value :=
          passedOn_selected outside here
        have below : (value :: ancestors).any selected = true := by
          simp [here]
        rw [if_pos here, path]
        cases stepped : passes (start ancestors) value with
        | none => rw [mapBelow_of_stopped below (path.trans stepped)]
        | some passed =>
            rw [← propagate_eq_mapBelow below (path.trans stepped)]
      · have path : (value :: ancestors).any selected = false := by
          simp [here, outside]
        rw [if_neg here, passedOn_outside path, childrenHypothesis path]

/-! ### Who passes the signal on -/

end Propagate

end Forest
end Foundation
