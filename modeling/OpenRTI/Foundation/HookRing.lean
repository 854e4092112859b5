import Mathlib.Data.List.Chain
import Mathlib.Logic.Equiv.Basic
import Mathlib.Logic.Function.Basic

/-!
# Rings of hooks

A list whose elements carry the pointers is a ring of nodes: one that is the head of
the list, and one in each of its elements.  The operations change a few pointers.
The lemmas say which links between neighbours they make and which they keep, and
from that what becomes of the lists that the rings stand for.
-/

namespace Foundation

/-- The head of a list, or the hook of an element. -/
inductive HookNode (κ ε : Type*)
  | head (list : κ)
  | element (element : ε)
  deriving DecidableEq

/-- Each node points to the next and to the previous one. -/
structure HookRing (ν : Type*) where
  next : ν → ν
  prev : ν → ν

namespace HookRing

variable {ν : Type*}

/-- Two nodes are neighbours. -/
def Links (self : HookRing ν) (node following : ν) : Prop :=
  self.next node = following ∧ self.prev following = node

section Operations

variable [DecidableEq ν]

def setNext (node target : ν) (self : HookRing ν) : HookRing ν :=
  { self with next := Function.update self.next node target }

def setPrev (node target : ν) (self : HookRing ν) : HookRing ν :=
  { self with prev := Function.update self.prev node target }

/-- Only reinitialize the node. -/
def clear (node : ν) (self : HookRing ν) : HookRing ν :=
  (self.setNext node node).setPrev node node

/-- Insert a node before another one. -/
def insertBefore (node place : ν) (self : HookRing ν) : HookRing ν :=
  let self := self.setNext node place
  let self := self.setPrev node (self.prev place)
  let self := self.setNext (self.prev place) node
  self.setPrev place node

/-- Remove a node, which keeps its pointers. -/
def unlink (node : ν) (self : HookRing ν) : HookRing ν :=
  let self := self.setPrev (self.next node) (self.prev node)
  self.setNext (self.prev node) (self.next node)

def unlinkClear (node : ν) (self : HookRing ν) : HookRing ν :=
  (self.unlink node).clear node

def swapNext (node other : ν) (self : HookRing ν) : HookRing ν :=
  (self.setNext node (self.next other)).setNext other (self.next node)

def swapPrev (node other : ν) (self : HookRing ν) : HookRing ν :=
  (self.setPrev node (self.prev other)).setPrev other (self.prev node)

/-- Exchange the rings of two heads. -/
def swap (node other : ν) (self : HookRing ν) : HookRing ν :=
  let thisPrev := self.prev node
  let thisNext := self.next node
  let thatPrev := self.prev other
  let thatNext := self.next other
  let self := self.swapPrev thisNext thatNext
  let self := self.swapNext thisPrev thatPrev
  let self := self.swapNext node other
  self.swapPrev node other

/-- Go on from a node to the first one that a condition holds of. -/
def search (self : HookRing ν) (stops : ν → Bool) : Nat → ν → Option ν
  | 0, _ => none
  | fuel + 1, node =>
      if stops node then some node
      else search self stops fuel (self.next node)

end Operations

/-! ## Links -/

section Links

variable [DecidableEq ν] {ring : HookRing ν} {node place first following : ν}

theorem Links.clear
    (links : ring.Links first following)
    (first_ne : first ≠ node)
    (following_ne : following ≠ node) :
    (ring.clear node).Links first following := by
  constructor
  · exact (Function.update_of_ne first_ne _ _).trans links.1
  · exact (Function.update_of_ne following_ne _ _).trans links.2

theorem links_clear : (ring.clear node).Links node node :=
  ⟨Function.update_self _ _ _, Function.update_self _ _ _⟩

theorem insertBefore_eq (different : place ≠ node) :
    ring.insertBefore node place =
      ⟨Function.update (Function.update ring.next node place)
          (ring.prev place) node,
        Function.update (Function.update ring.prev node (ring.prev place))
          place node⟩ := by
  have kept : Function.update ring.prev node (ring.prev place) place =
      ring.prev place := Function.update_of_ne different _ _
  simp only [insertBefore, setNext, setPrev, kept]

/-- The links that an insertion keeps. -/
theorem Links.insertBefore
    (placed : ring.next (ring.prev place) = place)
    (different : place ≠ node)
    (links : ring.Links first following)
    (first_ne : first ≠ node)
    (following_ne : following ≠ node)
    (following_ne_place : following ≠ place) :
    (ring.insertBefore node place).Links first following := by
  rw [insertBefore_eq different]
  have notLast : first ≠ ring.prev place := by
    rintro rfl
    exact following_ne_place (links.1.symm.trans placed)
  constructor
  · dsimp only
    rw [Function.update_of_ne notLast, Function.update_of_ne first_ne]
    exact links.1
  · dsimp only
    rw [Function.update_of_ne following_ne_place,
      Function.update_of_ne following_ne]
    exact links.2

theorem links_prev_insertBefore
    (different : place ≠ node) :
    (ring.insertBefore node place).Links (ring.prev place) node := by
  rw [insertBefore_eq different]
  constructor
  · exact Function.update_self _ _ _
  · dsimp only
    rw [Function.update_of_ne different.symm, Function.update_self]

theorem links_insertBefore
    (different : place ≠ node)
    (prev_ne : ring.prev place ≠ node) :
    (ring.insertBefore node place).Links node place := by
  rw [insertBefore_eq different]
  constructor
  · dsimp only
    rw [Function.update_of_ne prev_ne.symm, Function.update_self]
  · exact Function.update_self _ _ _

/-- The neighbours of a node point to it. -/
structure Placed (ring : HookRing ν) (node : ν) : Prop where
  prev : ring.Links (ring.prev node) node
  next : ring.Links node (ring.next node)

theorem unlink_eq (ring : HookRing ν) (node : ν) :
    ring.unlink node =
      ⟨Function.update ring.next (ring.prev node) (ring.next node),
        Function.update ring.prev (ring.next node) (ring.prev node)⟩ := by
  have kept : Function.update ring.prev (ring.next node) (ring.prev node)
      node = ring.prev node := by
    by_cases alone : node = ring.next node
    · rw [← alone, Function.update_self]
    · exact Function.update_of_ne alone _ _
  simp only [unlink, setNext, setPrev, kept]

/-- The links that a removal keeps. -/
theorem Links.unlink
    (placed : ring.Placed node) (links : ring.Links first following)
    (first_ne : first ≠ node)
    (following_ne : following ≠ node) :
    (ring.unlink node).Links first following := by
  rw [unlink_eq]
  constructor
  · dsimp only
    rw [Function.update_of_ne]
    · exact links.1
    · rintro rfl
      exact following_ne (links.1.symm.trans placed.prev.1)
  · dsimp only
    rw [Function.update_of_ne]
    · exact links.2
    · rintro rfl
      exact first_ne (links.2.symm.trans placed.next.2)

theorem links_unlink (ring : HookRing ν) (node : ν) :
    (ring.unlink node).Links (ring.prev node) (ring.next node) := by
  rw [unlink_eq]
  exact ⟨Function.update_self _ _ _, Function.update_self _ _ _⟩

end Links

/-! ## Chains of links -/

section Chains

variable [DecidableEq ν] {ring : HookRing ν} {node place first : ν}
variable {before rest : List ν}

omit [DecidableEq ν] in
/-- The last node of a chain is linked to what follows the chain. -/
theorem links_prev_of_chain
    (chain : (first :: (before ++ [place])).IsChain ring.Links) :
    ring.Links (ring.prev place) place ∧
      ring.prev place ∈ first :: before := by
  rw [← List.cons_append] at chain
  have last := (List.isChain_append.mp chain).2.2
    ((first :: before).getLast (List.cons_ne_nil _ _))
    (List.getLast?_eq_some_getLast _) place rfl
  rw [last.2]
  exact ⟨last, List.getLast_mem _⟩

/-- A node is inserted into a chain. -/
theorem chain_insertBefore
    (chain : (first :: (before ++ place :: rest)).IsChain ring.Links)
    (absent : node ∉ first :: (before ++ place :: rest))
    (notBefore : place ∉ before)
    (notBehind : place ∉ rest) :
    (first :: (before ++ node :: place :: rest)).IsChain
      (ring.insertBefore node place).Links := by
  obtain ⟨start, stop⟩ := List.isChain_cons_split.mp chain
  obtain ⟨placed, member⟩ := links_prev_of_chain start
  have different : place ≠ node := by
    rintro rfl
    exact absent (by simp)
  have prev_ne : ring.prev place ≠ node := by
    intro same
    rw [same] at member
    exact absent (by
      rw [← List.cons_append]
      exact List.mem_append_left _ member)
  have keeps : ∀ m n, m ∈ first :: (before ++ place :: rest) →
      n ∈ first :: (before ++ place :: rest) → n ≠ place →
      ring.Links m n → (ring.insertBefore node place).Links m n := by
    intro m n firstMember secondMember notPlace links
    exact links.insertBefore placed.1 different
      (fun same => absent (same ▸ firstMember))
      (fun same => absent (same ▸ secondMember)) notPlace
  rw [← List.cons_append] at start ⊢
  obtain ⟨start, _, last⟩ := List.isChain_append.mp start
  refine List.isChain_append.mpr ⟨?_, ?_, ?_⟩
  · refine start.imp_of_mem_tail_imp ?_
    intro m n firstMember secondMember
    refine keeps m n ?_ ?_ ?_
    · rw [← List.cons_append]
      exact List.mem_append_left _ firstMember
    · exact List.mem_cons_of_mem _ (List.mem_append_left _ secondMember)
    · rintro rfl
      exact notBefore secondMember
  · refine List.isChain_cons_cons.mpr
      ⟨links_insertBefore different prev_ne, ?_⟩
    refine stop.imp_of_mem_tail_imp ?_
    intro m n firstMember secondMember
    refine keeps m n ?_ ?_ ?_
    · exact List.mem_cons_of_mem _ (List.mem_append_right _ firstMember)
    · exact List.mem_cons_of_mem _ (List.mem_append_right _
        (List.mem_cons_of_mem _ secondMember))
    · rintro rfl
      exact notBehind secondMember
  · intro m lastMember n head
    cases head
    rw [← (last m lastMember place rfl).2]
    exact links_prev_insertBefore different

/-- A chain that is not around a place is kept by an insertion there. -/
theorem chain_kept_insertBefore
    {nodes : List ν}
    (placed : ring.next (ring.prev place) = place)
    (different : place ≠ node)
    (chain : nodes.IsChain ring.Links)
    (absent : node ∉ nodes)
    (apart : place ∉ nodes) :
    nodes.IsChain (ring.insertBefore node place).Links := by
  refine chain.imp_of_mem_imp ?_
  intro m n firstMember secondMember links
  exact links.insertBefore placed different
    (fun same => absent (same ▸ firstMember))
    (fun same => absent (same ▸ secondMember))
    (fun same => apart (same ▸ secondMember))

omit [DecidableEq ν] in
/-- A node inside of a chain has its neighbours. -/
theorem placed_of_chain
    (chain : (first :: (before ++ node :: rest)).IsChain ring.Links)
    (inside : rest ≠ []) :
    ring.Placed node := by
  obtain ⟨start, stop⟩ := List.isChain_cons_split.mp chain
  refine ⟨(links_prev_of_chain start).1, ?_⟩
  cases rest with
  | nil => exact absurd rfl inside
  | cons following rest =>
      have links := (List.isChain_cons_cons.mp stop).1
      rw [links.1]
      exact links

/-- What a removal keeps, and what it makes. -/
structure Removes (before after : HookRing ν) (node : ν) : Prop where
  keeps : ∀ first following, before.Links first following →
    first ≠ node → following ≠ node → after.Links first following
  joins : before.next node ≠ node →
    after.Links (before.prev node) (before.next node)

omit [DecidableEq ν] in
/-- A node is removed from a chain. -/
theorem chain_remove
    {after : HookRing ν}
    (removes : Removes ring after node)
    (chain : (first :: (before ++ node :: rest)).IsChain ring.Links)
    (notBefore : node ∉ first :: before)
    (notBehind : node ∉ rest) :
    (first :: (before ++ rest)).IsChain after.Links := by
  obtain ⟨start, stop⟩ := List.isChain_cons_split.mp chain
  rw [← List.cons_append] at start ⊢
  obtain ⟨start, _, last⟩ := List.isChain_append.mp start
  refine List.isChain_append.mpr ⟨?_, ?_, ?_⟩
  · refine start.imp_of_mem_imp ?_
    intro m n firstMember secondMember links
    exact removes.keeps m n links (fun same => notBefore (same ▸ firstMember))
      fun same => notBefore (same ▸ secondMember)
  · refine stop.tail.imp_of_mem_imp ?_
    intro m n firstMember secondMember links
    exact removes.keeps m n links (fun same => notBehind (same ▸ firstMember))
      fun same => notBehind (same ▸ secondMember)
  · intro m lastMember n head
    have toNode := last m lastMember node rfl
    cases rest with
    | nil => cases head
    | cons following rest =>
        cases head
        have fromNode := (List.isChain_cons_cons.mp stop).1
        have joined := removes.joins (by
          rw [fromNode.1]
          intro same
          exact notBehind (same ▸ List.mem_cons_self))
        rw [toNode.2, fromNode.1] at joined
        exact joined

omit [DecidableEq ν] in
theorem chain_kept_remove
    {after : HookRing ν} {nodes : List ν}
    (removes : Removes ring after node) (chain : nodes.IsChain ring.Links)
    (absent : node ∉ nodes) :
    nodes.IsChain after.Links := by
  refine chain.imp_of_mem_imp ?_
  intro m n firstMember secondMember links
  exact removes.keeps m n links (fun same => absent (same ▸ firstMember))
    fun same => absent (same ▸ secondMember)

theorem removes_unlink (placed : ring.Placed node) :
    Removes ring (ring.unlink node) node where
  keeps _ _ links := links.unlink placed
  joins _ := ring.links_unlink node

theorem removes_unlinkClear (placed : ring.Placed node) :
    Removes ring (ring.unlinkClear node) node where
  keeps _ _ links first_ne following_ne :=
    (links.unlink placed first_ne following_ne).clear first_ne following_ne
  joins linked := by
    refine (ring.links_unlink node).clear ?_ linked
    intro alone
    have links := placed.prev.1
    rw [alone] at links
    exact linked links

end Chains

/-! ## Swapping -/

section Swapping

variable [DecidableEq ν] {ring : HookRing ν} {node other first following : ν}

theorem swapNext_eq (node other : ν) :
    ring.swapNext node other = ⟨ring.next ∘ Equiv.swap node other, ring.prev⟩ := by
  rw [Equiv.swap_comm, Equiv.comp_swap_eq_update]
  rfl

theorem swapPrev_eq (node other : ν) :
    ring.swapPrev node other = ⟨ring.next, ring.prev ∘ Equiv.swap node other⟩ := by
  rw [Equiv.swap_comm, Equiv.comp_swap_eq_update]
  rfl

theorem swap_eq (node other : ν) :
    ring.swap node other =
      ⟨(ring.next ∘ Equiv.swap (ring.prev node) (ring.prev other)) ∘
          Equiv.swap node other,
        (ring.prev ∘ Equiv.swap (ring.next node) (ring.next other)) ∘
          Equiv.swap node other⟩ := by
  simp only [swap, swapNext_eq, swapPrev_eq]

/-- Pointers that lead to two nodes, exchanged, lead to the exchanged nodes. -/
theorem apply_swap
    {forth back : ν → ν}
    (leads : forth (back node) = node)
    (leadsOther : forth (back other) = other)
    (forward : forth first = following)
    (backward : back following = first) :
    forth (Equiv.swap (back node) (back other) first) =
      Equiv.swap node other following := by
  by_cases atNode : first = back node
  · have same : following = node := forward.symm.trans (atNode ▸ leads)
    rw [atNode, same, Equiv.swap_apply_left, Equiv.swap_apply_left, leadsOther]
  by_cases atOther : first = back other
  · have same : following = other := forward.symm.trans (atOther ▸ leadsOther)
    rw [atOther, same, Equiv.swap_apply_right, Equiv.swap_apply_right, leads]
  · have notNode : following ≠ node := by
      rintro rfl
      exact atNode backward.symm
    have notOther : following ≠ other := by
      rintro rfl
      exact atOther backward.symm
    rw [Equiv.swap_apply_of_ne_of_ne atNode atOther, forward,
      Equiv.swap_apply_of_ne_of_ne notNode notOther]

/-- A swap exchanges the two nodes in all links. -/
theorem Links.swap
    (placed : ring.Placed node) (placedOther : ring.Placed other)
    (links : ring.Links first following) :
    (ring.swap node other).Links (Equiv.swap node other first)
      (Equiv.swap node other following) := by
  rw [swap_eq]
  constructor
  · simp only [Function.comp_apply, Equiv.swap_apply_self]
    exact apply_swap placed.prev.1 placedOther.prev.1 links.1 links.2
  · simp only [Function.comp_apply, Equiv.swap_apply_self]
    exact apply_swap placed.next.2 placedOther.next.2 links.2 links.1

end Swapping

/-! ## Searching -/

/-- A search stops at the first node of a chain that it is to stop at. -/
theorem search_eq_some
    {ring : HookRing ν} {stops : ν → Bool}
    {nodes : List ν} {first stop : ν}
    {fuel : Nat}
    (chain : (first :: (nodes ++ [stop])).IsChain ring.Links)
    (passes : ∀ node ∈ nodes, stops node = false)
    (halts : stops stop = true)
    (enough : nodes.length < fuel) :
    ring.search stops fuel (ring.next first) = some stop := by
  induction nodes generalizing first fuel with
  | nil =>
      have links := (List.isChain_cons_cons.mp chain).1
      cases fuel with
      | zero => exact absurd enough (Nat.not_lt_zero _)
      | succ fuel => rw [search, links.1, if_pos halts]
  | cons node rest ih =>
      obtain ⟨links, chain⟩ := List.isChain_cons_cons.mp chain
      cases fuel with
      | zero => exact absurd enough (Nat.not_lt_zero _)
      | succ fuel =>
          have goes : ¬ stops node = true := by
            simp [passes node List.mem_cons_self]
          rw [search, links.1, if_neg goes]
          apply ih chain
          · intro later member
            exact passes later (List.mem_cons_of_mem node member)
          · exact Nat.lt_of_succ_lt_succ enough

end HookRing
end Foundation
