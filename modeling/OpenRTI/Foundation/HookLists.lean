import OpenRTI.Foundation.GroupedList
import OpenRTI.Foundation.HookRing
import Mathlib.Data.Finset.Card
import Mathlib.Data.List.Nodup

/-!
# Lists in rings of hooks

Rings of hooks represent lists of elements: each list is a ring through its head, an
element is in one of the lists at most, and the hook of an element that is in none is
a ring of its own.  The lemmas say what list operations the operations on hooks are.
-/

namespace Foundation
namespace HookRing

variable {κ ε : Type*} {hooks : HookRing (HookNode κ ε)}
variable {existing : ε → Prop} {lists : κ → List ε} {list : κ} {value : ε}

/-- The nodes of a list in order, from its head to its head. -/
def cycle (list : κ) (elements : List ε) : List (HookNode κ ε) :=
  .head list :: (elements.map .element ++ [.head list])

/-- The node at the start of a rest of a list. -/
def nodeAt (list : κ) : List ε → HookNode κ ε
  | [] => .head list
  | element :: _ => .element element

structure Represents
    (hooks : HookRing (HookNode κ ε))
    (existing : ε → Prop)
    (lists : κ → List ε) : Prop where
  ring : ∀ list, (cycle list (lists list)).IsChain hooks.Links
  nodup : ∀ list, (lists list).Nodup
  unique : ∀ list other element,
    element ∈ lists list → element ∈ lists other → list = other
  exist : ∀ list, ∀ element ∈ lists list, existing element
  alone : ∀ element, existing element → (∀ list, element ∉ lists list) →
    hooks.Links (.element element) (.element element)

variable {elements : List ε}

theorem head_mem_cycle
    {list other : κ} :
    HookNode.head other ∈ cycle list elements ↔ other = list := by
  simp [cycle]

theorem element_mem_cycle :
    HookNode.element value ∈ cycle list elements ↔ value ∈ elements := by
  simp [cycle]

theorem cycle_append (list : κ) (front back : List ε) :
    cycle list (front ++ back) =
      .head list :: (front.map .element ++
        (back.map .element ++ [.head list])) := by
  rw [cycle, List.map_append, List.append_assoc]

variable {front back : List ε}

/-- The node at the start of a rest of a list is in one place of the ring. -/
theorem exists_nodes
    (list : κ) (nodup : (front ++ back).Nodup) :
    ∃ rest,
      back.map HookNode.element ++ [HookNode.head list] =
          nodeAt list back :: rest ∧
        nodeAt list back ∉ front.map (HookNode.element (κ := κ)) ∧
        nodeAt list back ∉ rest := by
  cases back with
  | nil => exact ⟨[], rfl, by simp [nodeAt], by simp⟩
  | cons element back =>
      refine ⟨back.map .element ++ [.head list], rfl, ?_, ?_⟩
      · simp only [nodeAt, List.mem_map, HookNode.element.injEq, exists_eq_right]
        grind
      · simp only [nodeAt, List.mem_append, List.mem_map,
          HookNode.element.injEq, exists_eq_right, List.mem_singleton]
        grind

variable [DecidableEq κ] [DecidableEq ε]

omit [DecidableEq κ] [DecidableEq ε] in
theorem Represents.placed_head
    (represents : Represents hooks existing lists) (list : κ) :
    hooks.Placed (.head list) := by
  have chain := represents.ring list
  refine ⟨(links_prev_of_chain chain).1, ?_⟩
  rw [cycle] at chain
  cases elements : (lists list).map HookNode.element with
  | nil =>
      rw [elements] at chain
      have links := (List.isChain_cons_cons.mp chain).1
      rw [links.1]
      exact links
  | cons node rest =>
      rw [elements] at chain
      have links := (List.isChain_cons_cons.mp chain).1
      rw [links.1]
      exact links

omit [DecidableEq κ] [DecidableEq ε] in
theorem Represents.placed_element
    (represents : Represents hooks existing lists)
    {element : ε}
    (present : existing element) :
    hooks.Placed (.element element) := by
  by_cases linked : ∃ list, element ∈ lists list
  · obtain ⟨list, member⟩ := linked
    obtain ⟨front, back, split⟩ := List.append_of_mem member
    have chain := represents.ring list
    rw [split, cycle_append] at chain
    exact placed_of_chain chain (by simp)
  · have links := represents.alone element present (not_exists.mp linked)
    exact ⟨by rw [links.2]; exact links, by rw [links.1]; exact links⟩

omit [DecidableEq κ] [DecidableEq ε] in
theorem Represents.placed_nodeAt
    (represents : Represents hooks existing lists)
    (members : ∀ element ∈ back, existing element) :
    hooks.Placed (nodeAt list back) := by
  cases back with
  | nil => exact represents.placed_head list
  | cons element back =>
      exact represents.placed_element (members element List.mem_cons_self)

/-! ## Inserting -/

/-- An element is inserted in front of a rest of a list. -/
theorem Represents.insertBefore
    (represents : Represents hooks existing lists)
    (split : lists list = front ++ back)
    (present : existing value)
    (absent : ∀ list, value ∉ lists list) :
    Represents (hooks.insertBefore (.element value) (nodeAt list back)) existing
      (Function.update lists list (front ++ value :: back)) := by
  have nodup := represents.nodup list
  rw [split] at nodup
  have members : ∀ element ∈ front ++ back, element ∈ lists list := by
    rw [split]
    exact fun _ member => member
  have notMember : value ∉ front ++ back := fun member =>
    absent list (members value member)
  have placed : hooks.Placed (nodeAt list back) :=
    represents.placed_nodeAt fun element member =>
      represents.exist list element
        (members element (List.mem_append_right _ member))
  have nodeAt_eq : ∀ element, nodeAt list back = .element element →
      element ∈ lists list := by
    intro element same
    cases back with
    | nil => cases same
    | cons other back =>
        cases same
        exact members element (by simp)
  have different : nodeAt list back ≠ HookNode.element value := fun same =>
    absent list (nodeAt_eq value same)
  refine ⟨?_, ?_, ?_, ?_, ?_⟩
  · intro other
    have chain := represents.ring other
    by_cases same : other = list
    · subst same
      obtain ⟨rest, nodes, notFront, notRest⟩ := exists_nodes other nodup
      have outside : HookNode.element value ∉
          cycle other (front ++ back) := by
        rw [element_mem_cycle]
        exact notMember
      rw [split] at chain
      rw [cycle_append, nodes] at chain outside
      rw [Function.update_self, cycle_append, List.map_cons, List.cons_append,
        nodes]
      exact chain_insertBefore chain outside notFront notRest
    · rw [Function.update_of_ne same]
      refine chain_kept_insertBefore placed.prev.1 different chain ?_ ?_
      · rw [element_mem_cycle]
        exact absent other
      · intro member
        cases place : nodeAt list back with
        | head _ =>
            have only : nodeAt list back = .head list := by
              cases back with
              | nil => rfl
              | cons element back => cases place
            rw [only, head_mem_cycle] at member
            exact same member.symm
        | element element =>
            rw [place, element_mem_cycle] at member
            exact same (represents.unique other list element member
              (nodeAt_eq element place))
  · intro other
    by_cases same : other = list
    · subst same
      rw [Function.update_self]
      grind
    · rw [Function.update_of_ne same]
      exact represents.nodup other
  · intro one other element inOne inOther
    have inBefore : ∀ place, element ∈ Function.update lists list
        (front ++ value :: back) place →
        element ∈ lists place ∨ element = value ∧ place = list := by
      intro place inside
      by_cases same : place = list
      · subst same
        rw [Function.update_self] at inside
        grind
      · rw [Function.update_of_ne same] at inside
        exact Or.inl inside
    obtain old | ⟨rfl, rfl⟩ := inBefore one inOne
    · obtain older | ⟨rfl, rfl⟩ := inBefore other inOther
      · exact represents.unique one other element old older
      · exact absurd old (absent one)
    · obtain older | ⟨_, rfl⟩ := inBefore other inOther
      · exact absurd older (absent other)
      · rfl
  · intro other element inside
    by_cases same : other = list
    · subst same
      rw [Function.update_self] at inside
      have old := represents.exist other element
      grind
    · rw [Function.update_of_ne same] at inside
      exact represents.exist other element inside
  · intro element present nowhere
    have notValue : element ≠ value := by
      rintro rfl
      exact nowhere list (by simp)
    have nowhereBefore : ∀ other, element ∉ lists other := by
      intro other inside
      apply nowhere other
      by_cases same : other = list
      · subst same
        rw [Function.update_self]
        grind
      · rw [Function.update_of_ne same]
        exact inside
    refine (represents.alone element present nowhereBefore).insertBefore
      placed.prev.1 different ?_ ?_ ?_
    · simpa using notValue
    · simpa using notValue
    · intro same
      exact nowhereBefore list (nodeAt_eq element same.symm)

/-! ## Removing -/

theorem split_of_mem
    (nodup : elements.Nodup)
    (member : value ∈ elements) :
    ∃ front back, elements = front ++ value :: back ∧
      elements.erase value = front ++ back ∧
      value ∉ front ∧ value ∉ back := by
  obtain ⟨front, back, rfl⟩ := List.append_of_mem member
  have notFront : value ∉ front := by grind
  have notBack : value ∉ back := by grind
  refine ⟨front, back, rfl, ?_, notFront, notBack⟩
  rw [List.erase_append_right _ notFront, List.erase_cons_head]

variable {remaining : ε → Prop}

section

variable (represents : Represents hooks existing lists)
include represents

omit [DecidableEq κ] in
/-- An element is removed from its list, if it is in one. -/
theorem Represents.remove
    {after : HookRing (HookNode κ ε)}
    (removes : Removes hooks after (.element value))
    (exist : ∀ element, element ≠ value → (remaining element ↔ existing element))
    (alone : remaining value → after.Links (.element value) (.element value)) :
    Represents after remaining fun list => (lists list).erase value where
  ring := by
    intro list
    have chain := represents.ring list
    by_cases member : value ∈ lists list
    · obtain ⟨front, back, split, erased, notFront, notBack⟩ :=
        split_of_mem (represents.nodup list) member
      rw [split, cycle_append, List.map_cons, List.cons_append] at chain
      rw [erased, cycle_append]
      refine chain_remove removes chain ?_ ?_
      · simpa using notFront
      · simpa using notBack
    · rw [List.erase_of_not_mem member]
      refine chain_kept_remove removes chain ?_
      rw [element_mem_cycle]
      exact member
  nodup list := (represents.nodup list).erase value
  unique list other element inList inOther :=
    represents.unique list other element (List.mem_of_mem_erase inList)
      (List.mem_of_mem_erase inOther)
  exist := by
    intro list element inside
    have different : element ≠ value := by
      rintro rfl
      exact (represents.nodup list).not_mem_erase inside
    exact (exist element different).mpr
      (represents.exist list element (List.mem_of_mem_erase inside))
  alone := by
    intro element present nowhere
    by_cases same : element = value
    · subst same
      exact alone present
    · have links := represents.alone element ((exist element same).mp present)
        fun list inside =>
          nowhere list ((List.mem_erase_of_ne same).mpr inside)
      refine removes.keeps _ _ links ?_ ?_
      · simpa using same
      · simpa using same

theorem Represents.unlinkClear
    (present : existing value) :
    Represents (hooks.unlinkClear (.element value)) existing
      fun list => (lists list).erase value :=
  represents.remove
    (removes_unlinkClear (represents.placed_element present))
    (fun _ _ => Iff.rfl) fun _ => links_clear

/-- The element does not exist any more. -/
theorem Represents.unlink
    (present : existing value)
    (exist : ∀ element, element ≠ value → (remaining element ↔ existing element))
    (gone : ¬ remaining value) :
    Represents (hooks.unlink (.element value)) remaining
      fun list => (lists list).erase value :=
  represents.remove (removes_unlink (represents.placed_element present)) exist
    fun remains => absurd remains gone

/-! ## Elements -/

/-- A new element is in no list. -/
theorem Represents.clear
    (absent : ¬ existing value)
    (exist : ∀ element, element ≠ value →
      (remaining element ↔ existing element)) :
    Represents (hooks.clear (.element value)) remaining lists where
  ring list := by
    refine (represents.ring list).imp_of_mem_imp ?_
    intro first following firstMember secondMember links
    have outside : HookNode.element value ∉ cycle list (lists list) := by
      rw [element_mem_cycle]
      exact fun member => absent (represents.exist list value member)
    exact links.clear (fun same => outside (same ▸ firstMember))
      fun same => outside (same ▸ secondMember)
  nodup := represents.nodup
  unique := represents.unique
  exist list element member := by
    have present := represents.exist list element member
    refine (exist element ?_).mpr present
    rintro rfl
    exact absent present
  alone := by
    intro element present nowhere
    by_cases same : element = value
    · subst same
      exact links_clear
    · have links := represents.alone element ((exist element same).mp present)
        nowhere
      exact links.clear (by simpa using same) (by simpa using same)

end

omit [DecidableEq κ] [DecidableEq ε] in
/-- The pointers at the start, where there are no elements. -/
theorem represents_initial (absent : ∀ element, ¬ existing element) :
    Represents (⟨id, id⟩ : HookRing (HookNode κ ε)) existing fun _ => [] where
  ring _ := List.isChain_cons_cons.mpr ⟨⟨rfl, rfl⟩, .singleton _⟩
  nodup _ := List.nodup_nil
  unique _ _ _ member := absurd member List.not_mem_nil
  exist _ _ member := absurd member List.not_mem_nil
  alone element present := absurd present (absent element)

omit [DecidableEq κ] [DecidableEq ε] in
/-- An element is linked if it is in one of the lists. -/
theorem Represents.next_eq_iff
    (represents : Represents hooks existing lists)
    (present : existing value) :
    hooks.next (.element value) = .element value ↔
      ∀ list, value ∉ lists list := by
  classical
  constructor
  · intro alone list member
    obtain ⟨front, back, split, _, notFront, notBack⟩ :=
      split_of_mem (represents.nodup list) member
    have chain := represents.ring list
    rw [split, cycle_append, List.map_cons, List.cons_append,
      List.isChain_cons_split] at chain
    cases back with
    | nil =>
        have links := (List.isChain_cons_cons.mp chain.2).1
        cases links.1.symm.trans alone
    | cons element back =>
        have links := (List.isChain_cons_cons.mp chain.2).1
        cases links.1.symm.trans alone
        exact notBack List.mem_cons_self
  · intro nowhere
    exact (represents.alone value present nowhere).1

/-! ## Swapping -/

/-- Two lists, or a list and itself, exchange their elements. -/
theorem Represents.swap
    (represents : Represents hooks existing lists) (list other : κ) :
    Represents (hooks.swap (.head list) (.head other)) existing
      (lists ∘ Equiv.swap list other) where
  ring := by
    intro target
    have chain := (represents.ring (Equiv.swap list other target)).imp
      fun first following links =>
        links.swap (represents.placed_head list) (represents.placed_head other)
    have renamed := (List.isChain_map
      (Equiv.swap (@HookNode.head κ ε list) (.head other))).mpr chain
    have element : ∀ element : ε,
        Equiv.swap (HookNode.head list) (.head other) (.element element) =
          .element element := fun element =>
      Equiv.swap_apply_of_ne_of_ne (by simp) (by simp)
    have head : ∀ target : κ,
        Equiv.swap (@HookNode.head κ ε list) (.head other)
            (.head (Equiv.swap list other target)) = .head target := by
      intro target
      simp only [Equiv.swap_apply_def]
      grind
    have fixed : Equiv.swap (HookNode.head list) (.head other) ∘
        HookNode.element = HookNode.element (ε := ε) := funext element
    rw [cycle, List.map_cons, List.map_append, List.map_map, fixed,
      List.map_singleton, head] at renamed
    exact renamed
  nodup target := represents.nodup _
  unique first second element inFirst inSecond :=
    (Equiv.swap list other).injective
      (represents.unique _ _ element inFirst inSecond)
  exist target := represents.exist _
  alone := by
    intro element present nowhere
    have links := represents.alone element present fun target member =>
      nowhere (Equiv.swap list other target) (by
        rw [Function.comp_apply, Equiv.swap_apply_self]
        exact member)
    have swapped := links.swap (represents.placed_head list)
      (represents.placed_head other)
    rw [Equiv.swap_apply_of_ne_of_ne (by simp) (by simp)] at swapped
    exact swapped

/-! ## Searching -/

/-- Stop at the end of a list, or at an element that a condition holds of. -/
def endsAt (list : κ) (found : ε → Bool) : HookNode κ ε → Bool
  | .head other => decide (other = list)
  | .element element => found element

/-- The node of the element found, or the end. -/
def foundAt (list : κ) : Option ε → HookNode κ ε
  | none => .head list
  | some element => .element element

omit [DecidableEq κ] [DecidableEq ε] in
/-- The node at which a search ends. -/
theorem nodeAt_eq_foundAt (list : κ) (back : List ε) :
    nodeAt list back = foundAt list back.head? := by
  cases back with
  | nil => rfl
  | cons element back => rfl

omit [DecidableEq ε] in
/-- A search through a list ends at the first element that a condition holds of, or
at the end. -/
theorem Represents.search
    (represents : Represents hooks existing lists) (list : κ)
    (found : ε → Bool)
    {fuel : Nat}
    (enough : (lists list).length < fuel) :
    hooks.search (endsAt list found) fuel (hooks.next (.head list)) =
      some (foundAt list ((lists list).find? found)) := by
  obtain ⟨front, back, split, passes, head, _⟩ :=
    exists_split_find found (lists list)
  have nodup := represents.nodup list
  have chain := represents.ring list
  rw [split] at nodup enough
  obtain ⟨rest, nodes, _, _⟩ := exists_nodes list nodup
  rw [split, cycle_append, nodes] at chain
  rw [← head, ← nodeAt_eq_foundAt]
  refine search_eq_some (List.isChain_cons_split.mp chain).1 ?_ ?_ ?_
  · intro node member
    obtain ⟨element, inFront, rfl⟩ := List.mem_map.mp member
    exact passes element inFront
  · cases back with
    | nil => exact decide_eq_true rfl
    | cons element back =>
        change found element = true
        exact List.find?_some head.symm
  · rw [List.length_append] at enough
    rw [List.length_map]
    omega

/-- An element is inserted in front of the first element that a condition holds of. -/
theorem Represents.insertBeforeFirst
    (represents : Represents hooks existing lists) (list : κ)
    (found : ε → Bool) (present : existing value)
    (absent : ∀ list, value ∉ lists list) :
    Represents
      (hooks.insertBefore (.element value)
        (foundAt list ((lists list).find? found))) existing
      (Function.update lists list
        (Foundation.insertBeforeFirst found value (lists list))) := by
  obtain ⟨front, back, split, _, head, inserts⟩ :=
    exists_split_find found (lists list)
  rw [← head, ← nodeAt_eq_foundAt, inserts]
  exact represents.insertBefore split present absent

omit [DecidableEq κ] [DecidableEq ε] in
/-- A list does not have more elements than there are. -/
theorem Represents.length_le
    {elements : Finset ε}
    (represents : Represents hooks (fun element => element ∈ elements) lists)
    (list : κ) :
    (lists list).length ≤ elements.card := by
  classical
  rw [← List.toFinset_card_of_nodup (represents.nodup list)]
  apply Finset.card_le_card
  intro element member
  exact represents.exist list element (List.mem_toFinset.mp member)

omit [DecidableEq κ] [DecidableEq ε] in
theorem Represents.next_element
    (represents : Represents hooks existing lists)
    (split : lists list = front ++ value :: back) :
    hooks.next (.element value) = nodeAt list back := by
  have chain := represents.ring list
  rw [split, cycle_append, List.map_cons, List.cons_append,
    List.isChain_cons_split] at chain
  cases back with
  | nil => exact (List.isChain_cons_cons.mp chain.2).1.1
  | cons element back => exact (List.isChain_cons_cons.mp chain.2).1.1

omit [DecidableEq κ] [DecidableEq ε] in
/-- The head of a list points to itself if the list is empty. -/
theorem Represents.next_head
    (represents : Represents hooks existing lists) (list : κ) :
    hooks.next (.head list) = foundAt list (lists list).head? := by
  have chain := represents.ring list
  rw [cycle] at chain
  cases elements : lists list with
  | nil =>
      rw [elements] at chain
      exact (List.isChain_cons_cons.mp chain).1.1
  | cons element rest =>
      rw [elements] at chain
      exact (List.isChain_cons_cons.mp chain).1.1

omit [DecidableEq κ] [DecidableEq ε] in
theorem Represents.next_head_eq_iff
    (represents : Represents hooks existing lists) (list : κ) :
    hooks.next (.head list) = .head list ↔ lists list = [] := by
  rw [represents.next_head]
  cases lists list with
  | nil => simp [foundAt]
  | cons element rest => simp [foundAt]

omit [DecidableEq κ] [DecidableEq ε] in
theorem Placed.next_eq_iff
    {node : HookNode κ ε}
    (placed : hooks.Placed node) :
    hooks.next node = node ↔ hooks.prev node = node := by
  constructor
  · intro alone
    have links := placed.next
    rw [alone] at links
    exact links.2
  · intro alone
    have links := placed.prev
    rw [alone] at links
    exact links.1

end HookRing
end Foundation
