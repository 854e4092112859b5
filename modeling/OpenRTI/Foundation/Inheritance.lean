import OpenRTI.Foundation.Forest

/-!
# Values that the nodes of a forest inherit

A node has a value by itself or inherits it from its parent.  A change at one node is
passed down, and stops at the nodes that keep what they have in total.
-/

namespace Foundation
namespace Forest

variable {α : Type*}

/-- A node has in total what its parent has, and what it has by itself. -/
def Inherits (own total : α → Bool) (forest : Forest α) : Prop :=
  ∀ node ∈ forest.nodes,
    total node.2 = (node.1.head?.any total || own node.2)

/-- What a node has in total is what it or one of its ancestors has. -/
theorem Inherits.total_iff
    {own total : α → Bool} {forest : Forest α}
    (inherits : forest.Inherits own total)
    {ancestors : List α} {value : α}
    (member : (ancestors, value) ∈ forest.nodes) :
    total value = true ↔ ∃ other ∈ value :: ancestors, own other = true := by
  induction ancestors generalizing value with
  | nil =>
      rw [inherits _ member]
      simp
  | cons parent ancestors ih =>
      have above := ih (parent_mem_nodes member)
      rw [inherits _ member, List.head?_cons, Option.any_some, Bool.or_eq_true, above]
      rw [List.exists_mem_cons_iff _ value, or_comm]

/-- What is inherited stays so where what the nodes have is kept. -/
theorem Inherits.mapNodes
    {own total : α → Bool} {forest : Forest α}
    {change : List α → α → α}
    (inherits : forest.Inherits own total)
    (keepsOwn : ∀ ancestors value, own (change ancestors value) = own value)
    (keepsTotal : ∀ ancestors value, total (change ancestors value) = total value) :
    (forest.mapNodes change).Inherits own total := by
  intro changed changedMember
  rw [nodes_mapNodes] at changedMember
  obtain ⟨⟨ancestors, value⟩, member, rfl⟩ := List.mem_map.mp changedMember
  rw [keepsTotal, keepsOwn, inherits _ member]
  cases ancestors with
  | nil => rfl
  | cons first rest =>
      rw [mapAncestors_cons, List.head?_cons, List.head?_cons, Option.any_some,
        Option.any_some, keepsTotal]

/-- A new node inherits like the others. -/
theorem Inherits.append
    {own total : α → Bool} {before after : Forest α}
    {ancestors : List α} {created : α}
    (inherits : before.Inherits own total)
    (nodes : after.nodes.Perm (before.nodes ++ [(ancestors, created)]))
    (createdInherits : total created = (ancestors.head?.any total || own created)) :
    after.Inherits own total := by
  intro node member
  obtain old | new := List.mem_append.mp (nodes.mem_iff.mp member)
  · exact inherits node old
  · rw [List.mem_singleton.mp new]
    exact createdInherits

section Propagated

variable {own total present selected : α → Bool}
variable {passes : Bool → α → Option Bool} {change : Bool → α → α}
variable {start : List α → Bool} {forest : Forest α}

/-- A change that is passed down from selected nodes, and changes what these and the
nodes below have in total. -/
structure PassesTotal
    (own total present : α → Bool)
    (passes : Bool → α → Option Bool)
    (change : Bool → α → α)
    (start : List α → Bool) : Prop where
  passes_present : ∀ signal value, present value = true →
    passes signal value =
      if total value = (signal || own value) then none else some (signal || own value)
  passes_absent : ∀ signal value, present value = false → passes signal value = none
  total_absent : ∀ value, present value = false → total value = false
  own_absent : ∀ value, present value = false → own value = false
  own_change : ∀ signal value, own (change signal value) = own value
  total_change : ∀ signal value, present value = true →
    total (change signal value) = signal
  start_eq : ∀ ancestors, start ancestors = ancestors.head?.any total

/-- What a node has in total once a signal has reached it. -/
theorem PassesTotal.total_reached
    (passesTotal : PassesTotal own total present passes change start)
    {path : List α} {signal : Bool}
    {value : α}
    (reaches : present value = true ∨ signal = false)
    (passed : passedOn passes selected start (value :: path) = passes signal value) :
    total (propagated passes change selected start path value) =
      (signal || own value) := by
  rw [propagated, passed]
  cases here : present value with
  | false =>
      have nothing := reaches.resolve_left (by simp [here])
      rw [passesTotal.passes_absent signal value here, nothing]
      exact (passesTotal.total_absent value here).trans
        (passesTotal.own_absent value here).symm
  | true =>
      rw [passesTotal.passes_present signal value here]
      by_cases same : total value = (signal || own value)
      · rw [if_pos same]
        exact same
      · rw [if_neg same]
        exact passesTotal.total_change _ value here

theorem PassesTotal.own_propagated
    (passesTotal : PassesTotal own total present passes change start)
    (path : List α) (value : α) :
    own (propagated passes change selected start path value) = own value := by
  rw [propagated]
  cases passedOn passes selected start (value :: path) with
  | none => rfl
  | some passed => exact passesTotal.own_change passed value

/-- A node that passes something on has that in total. -/
theorem PassesTotal.total_of_passedOn
    (passesTotal : PassesTotal own total present passes change start)
    {path : List α} {passed : Bool}
    {value : α}
    (told : passedOn passes selected start (value :: path) = some passed) :
    present value = true ∧
      total (propagated passes change selected start path value) = passed := by
  have here : present value = true := by
    by_contra absent
    have none := fun signal =>
      passesTotal.passes_absent signal value (Bool.eq_false_iff.mpr absent)
    rw [passedOn] at told
    split at told
    · obtain ⟨signal, _, passing⟩ := Option.bind_eq_some_iff.mp told
      rw [none] at passing
      cases passing
    · split at told
      · rw [none] at told
        cases told
      · cases told
  rw [propagated, told]
  exact ⟨here, passesTotal.total_change passed value here⟩

theorem propagated_of_passedOn_eq_none
    {path : List α} {value : α}
    (stopped : passedOn passes selected start (value :: path) = none) :
    propagated passes change selected start path value = value := by
  rw [propagated, stopped]

/-- A change passed down from one node makes all nodes inherit again, where all but
this one did so before. -/
theorem PassesTotal.inherits
    (passesTotal : PassesTotal own total present passes change start)
    (closed : ∀ node ∈ forest.nodes, ∀ parent ∈ node.1.head?,
      present parent = true → present node.2 = true)
    (single : ∀ node ∈ forest.nodes, selected node.2 = true →
      node.1.any selected = false)
    (before : ∀ node ∈ forest.nodes, selected node.2 = false →
      total node.2 = (node.1.head?.any total || own node.2)) :
    (forest.mapNodes (propagated passes change selected start)).Inherits own
      total := by
  intro changed changedMember
  rw [nodes_mapNodes] at changedMember
  obtain ⟨⟨ancestors, value⟩, member, rfl⟩ := List.mem_map.mp changedMember
  dsimp only
  rw [passesTotal.own_propagated]
  cases inside : ancestors.any selected with
  | true =>
      have notHere : selected value = false := by
        by_contra here
        rw [single _ member (by simpa using here)] at inside
        cases inside
      cases ancestors with
      | nil => cases inside
      | cons parent further =>
          have below := @passedOn_below _ _ passes selected start value _ inside
          rw [mapAncestors_cons, List.head?_cons, Option.any_some]
          cases told : passedOn passes selected start (parent :: further) with
          | none =>
              rw [told, Option.bind_none] at below
              rw [propagated_of_passedOn_eq_none below,
                propagated_of_passedOn_eq_none told]
              exact before _ member notHere
          | some signal =>
              obtain ⟨parentPresent, parentTotal⟩ :=
                @PassesTotal.total_of_passedOn _ _ _ _ selected _ _ _ passesTotal _ _ _
                  told
              rw [told, Option.bind_some] at below
              rw [parentTotal]
              exact passesTotal.total_reached
                (Or.inl (closed _ member parent rfl parentPresent)) below
  | false =>
      have above : (mapAncestors (propagated passes change selected start)
          ancestors).head?.any total = ancestors.head?.any total := by
        cases ancestors with
        | nil => rfl
        | cons parent further =>
            rw [mapAncestors_cons, List.head?_cons, List.head?_cons,
              propagated_of_passedOn_eq_none (passedOn_outside inside)]
      rw [above]
      cases here : selected value with
      | true =>
          have told := @passedOn_selected _ _ passes selected start value _ inside here
          rw [passesTotal.start_eq] at told
          refine passesTotal.total_reached ?_ told
          cases ancestors with
          | nil => exact Or.inr rfl
          | cons parent further =>
              cases parentPresent : present parent with
              | true => exact Or.inl (closed _ member parent rfl parentPresent)
              | false => exact Or.inr (passesTotal.total_absent parent parentPresent)
      | false =>
          have outside : (value :: ancestors).any selected = false := by
            rw [List.any_cons, here, inside]
            rfl
          rw [propagated_of_passedOn_eq_none (passedOn_outside outside)]
          exact before _ member here

end Propagated
end Forest
end Foundation
