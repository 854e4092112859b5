import Mathlib.Algebra.GroupWithZero.Nat
import Mathlib.Algebra.Order.Group.Nat
import Mathlib.Data.List.Infix
import Mathlib.Data.List.TakeWhile

/-!
# Byte iterators of buffers

A buffer is a list of chunks of bytes, here the list of the nodes that hold them.
A byte iterator is at a byte of a chunk, or at the end of the buffer.
-/

namespace OpenRTI
namespace StreamBuffer

inductive Failure
  | assertion
  | undefined
  deriving DecidableEq

variable {ι : Type}

/-- The list iterator is at a node, or at the end of the list. -/
structure ByteIterator (ι : Type) where
  listIterator : Option ι
  offset : Nat
  deriving DecidableEq

namespace ByteIterator

def byteEnd : ByteIterator ι := ⟨none, 0⟩

def byteBegin (buffer : List ι) : ByteIterator ι := ⟨buffer.head?, 0⟩

section Nodes

variable [DecidableEq ι] (size : ι → Nat)

/-- The nodes from the list iterator to the end. -/
def nodes (buffer : List ι) (self : ByteIterator ι) : List ι :=
  match self.listIterator with
  | none => []
  | some node => buffer.dropWhile fun other => other ≠ node

/-- The loop of an increment, at the nodes to the end. -/
def incrementFrom : List ι → Nat → Nat → Except Failure (ByteIterator ι)
  | [], offset, count =>
      if count = 0 then .ok ⟨none, offset⟩ else .error .undefined
  | node :: rest, offset, count =>
      if count = 0 then .ok ⟨some node, offset⟩
      else if size node ≤ offset then .error .assertion
      else if size node - offset ≤ count then
        incrementFrom rest 0 (count - (size node - offset))
      else .ok ⟨some node, offset + count⟩

def increment
    (buffer : List ι)
    (count : Nat)
    (self : ByteIterator ι) : Except Failure (ByteIterator ι) :=
  incrementFrom size (self.nodes buffer) self.offset count

def skipEmptyChunks (buffer : List ι) (self : ByteIterator ι) : ByteIterator ι :=
  if self.offset ≠ 0 then self
  else
    { self with listIterator :=
        ((self.nodes buffer).dropWhile fun node => size node = 0).head? }

end Nodes

/-! ## What is behind an iterator -/

section Contents

variable {β : Type} (contents : ι → List β)

/-- The bytes from an offset in the first of the nodes. -/
def bytesFrom (nodes : List ι) (offset : Nat) : List β :=
  (nodes.flatMap contents).drop offset

variable [DecidableEq ι]

/-- The bytes from an iterator to the end of the buffer. -/
def bytes (buffer : List ι) (self : ByteIterator ι) : List β :=
  bytesFrom contents (self.nodes buffer) self.offset

/-- The number of bytes from an offset in the first of the nodes that are in front
of the first empty chunk. -/
def unbrokenFrom (size : ι → Nat) (nodes : List ι) (offset : Nat) : Nat :=
  ((nodes.takeWhile fun node => size node ≠ 0).map size).sum - offset

/-- The number of bytes in front of the first empty chunk. -/
def unbroken (size : ι → Nat) (buffer : List ι) (self : ByteIterator ι) : Nat :=
  unbrokenFrom size (self.nodes buffer) self.offset

/-- An iterator is at the first of some nodes, in front of one of its bytes or at
its start. -/
structure At
    (size : ι → Nat)
    (iterator : ByteIterator ι)
    (nodes : List ι) : Prop where
  listIterator : iterator.listIterator = nodes.head?
  offset : iterator.offset = 0 ∨
    ∃ node ∈ nodes.head?, iterator.offset < size node

variable {contents} {size : ι → Nat} {buffer rest : List ι}
variable {iterator : ByteIterator ι}

theorem nodes_eq
    (nodup : buffer.Nodup)
    (ends : rest <:+ buffer)
    (at_ : iterator.At size rest) :
    iterator.nodes buffer = rest := by
  rw [nodes, at_.listIterator]
  cases rest with
  | nil => rfl
  | cons node rest =>
      obtain ⟨front, rfl⟩ := ends
      have apart : ∀ other ∈ front, decide (other ≠ node) = true := by
        intro other member
        have distinct := (List.nodup_append.mp nodup).2.2
        exact decide_eq_true (distinct other member node List.mem_cons_self)
      change (front ++ node :: rest).dropWhile _ = node :: rest
      rw [List.dropWhile_append_of_pos apart]
      exact List.dropWhile_cons_of_neg (by simp)

omit [DecidableEq ι] in
theorem at_end_iff (at_ : iterator.At size rest) :
    iterator = byteEnd ↔ rest = [] := by
  constructor
  · rintro rfl
    exact List.head?_eq_none_iff.mp at_.listIterator.symm
  · rintro rfl
    obtain start | ⟨node, absent, _⟩ := at_.offset
    · cases iterator
      cases at_.listIterator
      cases start
      rfl
    · cases absent

/-! ## Moving -/

omit [DecidableEq ι] in
theorem bytesFrom_cons
    (node : ι) (offset : Nat) :
    bytesFrom contents (node :: rest) offset =
      (contents node).drop offset ++
        bytesFrom contents rest (offset - (contents node).length) := by
  rw [bytesFrom, List.flatMap_cons, List.drop_append]
  rfl

omit [DecidableEq ι] in
theorem incrementFrom_ok
    (sized : ∀ node, (contents node).length = size node)
    {nodes : List ι} {offset count : Nat}
    (inside : offset = 0 ∨ ∃ node ∈ nodes.head?, offset < size node)
    (sendable : count ≤ unbrokenFrom size nodes offset) :
    ∃ iterator rest,
      incrementFrom size nodes offset count = .ok iterator ∧
        rest <:+ nodes ∧
        iterator.At size rest ∧
        bytesFrom contents rest iterator.offset =
          (bytesFrom contents nodes offset).drop count := by
  induction nodes generalizing offset count with
  | nil =>
      have start : offset = 0 := by
        obtain start | ⟨node, absent, _⟩ := inside
        · exact start
        · cases absent
      have none : count = 0 := Nat.le_zero.mp
        (sendable.trans_eq (Nat.zero_sub offset))
      rw [incrementFrom, if_pos none, start]
      refine ⟨byteEnd, [], rfl, List.suffix_rfl, ⟨rfl, Or.inl rfl⟩, ?_⟩
      exact List.drop_nil.symm
  | cons node rest ih =>
      rw [incrementFrom]
      by_cases none : count = 0
      · rw [if_pos none, none]
        exact ⟨⟨some node, offset⟩, node :: rest, rfl, List.suffix_rfl,
          ⟨rfl, inside⟩, rfl⟩
      · rw [if_neg none]
        have filled : size node ≠ 0 := by
          intro empty
          rw [unbrokenFrom, List.takeWhile_cons_of_neg (by simp [empty])]
            at sendable
          exact none (Nat.le_zero.mp (sendable.trans_eq (Nat.zero_sub offset)))
        have below : offset < size node := by
          obtain start | ⟨other, same, below⟩ := inside
          · omega
          · cases same
            exact below
        have total : unbrokenFrom size (node :: rest) offset =
            size node - offset + unbrokenFrom size rest 0 := by
          rw [unbrokenFrom, List.takeWhile_cons_of_pos (by simp [filled]),
            List.map_cons, List.sum_cons, unbrokenFrom]
          omega
        have length := sized node
        rw [if_neg (Nat.not_le_of_lt below), bytesFrom_cons]
        split
        next whole =>
          obtain ⟨iterator, found, incremented, ends, at_, bytes⟩ :=
            @ih 0 (count - (size node - offset))
              (Or.inl rfl) (by omega)
          refine ⟨iterator, found, incremented,
            ends.trans (List.suffix_cons node rest), at_, ?_⟩
          have passed : ((contents node).drop offset).drop count = [] := by
            apply List.drop_eq_nil_of_le
            rw [List.length_drop, length]
            exact whole
          rw [bytes, Nat.sub_eq_zero_of_le
              (length.symm ▸ Nat.le_of_lt below : offset ≤ (contents node).length),
            List.drop_append, passed, List.length_drop, length, List.nil_append]
        next part =>
          refine ⟨⟨some node, offset + count⟩, node :: rest, rfl,
            List.suffix_rfl, ⟨rfl, Or.inr ⟨node, rfl, ?_⟩⟩, ?_⟩
          · change offset + count < size node
            omega
          · change bytesFrom contents (node :: rest) (offset + count) = _
            rw [← bytesFrom_cons, bytesFrom, bytesFrom, List.drop_drop]

omit [DecidableEq ι] in
/-- A number of bytes that goes beyond an empty chunk fails the assertion. -/
theorem incrementFrom_fails
    (sized : ∀ node, (contents node).length = size node)
    {nodes : List ι} {offset count : Nat}
    (broken : unbrokenFrom size nodes offset < count)
    (offered : count ≤ (bytesFrom contents nodes offset).length) :
    incrementFrom size nodes offset count = .error .assertion := by
  induction nodes generalizing offset count with
  | nil =>
      rw [bytesFrom, List.flatMap_nil, List.drop_nil] at offered
      have none : count = 0 := Nat.le_zero.mp offered
      omega
  | cons node rest ih =>
      have length := sized node
      rw [incrementFrom, if_neg (by omega)]
      split
      · rfl
      next above =>
        have below : offset < size node := Nat.lt_of_not_le above
        have total : unbrokenFrom size (node :: rest) offset =
            size node - offset + unbrokenFrom size rest 0 := by
          rw [unbrokenFrom, List.takeWhile_cons_of_pos (by simp; omega),
            List.map_cons, List.sum_cons, unbrokenFrom]
          omega
        rw [bytesFrom_cons, List.length_append, List.length_drop, length,
          Nat.sub_eq_zero_of_le (Nat.le_of_lt below)] at offered
        rw [if_pos (by omega)]
        exact ih (by omega) (by omega)

theorem skipEmptyChunks_spec
    (sized : ∀ node, (contents node).length = size node)
    (nodup : buffer.Nodup)
    (ends : rest <:+ buffer)
    (at_ : iterator.At size rest) :
    ∃ after, after <:+ buffer ∧
      (iterator.skipEmptyChunks size buffer).At size after ∧
      bytesFrom contents after (iterator.skipEmptyChunks size buffer).offset =
        bytesFrom contents rest iterator.offset := by
  rw [skipEmptyChunks]
  split
  · exact ⟨rest, ends, at_, rfl⟩
  next start =>
    have start : iterator.offset = 0 := not_not.mp start
    rw [nodes_eq nodup ends at_]
    refine ⟨rest.dropWhile fun node => size node = 0,
      (List.dropWhile_suffix _).trans ends, ⟨rfl, Or.inl start⟩, ?_⟩
    change bytesFrom contents _ iterator.offset = _
    have skipped : (rest.takeWhile fun node => size node = 0).flatMap contents =
        [] := by
      apply List.flatMap_eq_nil_iff.mpr
      intro node member
      have held := List.mem_takeWhile_imp member
      have empty := of_decide_eq_true held
      exact List.eq_nil_of_length_eq_zero ((sized node).trans empty)
    rw [start, bytesFrom, bytesFrom]
    have parts := @List.takeWhile_append_dropWhile _
      (fun node => decide (size node = 0)) rest
    conv_rhs => rw [← parts]
    rw [List.flatMap_append, skipped, List.nil_append]

end Contents

end ByteIterator

end StreamBuffer
end OpenRTI
