import OpenRTI.Foundation.OrderedMap
import Mathlib.Data.Option.Basic

/-!
# Replicas that follow messages

A replica is changed by messages, of which it refuses some.  Messages are on the way to it
in a queue.  It is in step with a state that it is to come to when the messages that are on
the way lead it there.
-/

namespace Foundation

/-- What a message makes of a replica that does not refuse it. -/
structure Replica (μ σ : Type*) where
  accept : μ → σ → Option σ

namespace Replica

variable {μ σ : Type*} (replica : Replica μ σ)

/-- The messages come in one after the other. -/
def follow : List μ → σ → Option σ
  | [], state => some state
  | message :: messages, state =>
      (replica.accept message state).bind (follow messages)

theorem follow_append (messages more : List μ) (state : σ) :
    replica.follow (messages ++ more) state =
      (replica.follow messages state).bind (replica.follow more) := by
  induction messages generalizing state with
  | nil => rfl
  | cons message messages ih =>
      rw [List.cons_append, follow, follow, Option.bind_assoc]
      congr 1
      funext after
      exact ih after

/-- What is on the way to a replica leads it to a state. -/
def InStep (queue : List μ) (state target : σ) : Prop :=
  replica.follow queue state = some target

namespace InStep

variable {replica} {queue messages : List μ} {message : μ} {state target after : σ}

/-- Nothing is on the way. -/
theorem eq (inStep : replica.InStep [] state target) : state = target :=
  Option.some.inj inStep

/-- What leads from one state to the next one is sent. -/
theorem send
    (inStep : replica.InStep queue state target)
    (leads : replica.InStep messages target after) :
    replica.InStep (queue ++ messages) state after := by
  rw [InStep, follow_append, inStep]
  exact leads

/-- What comes in is not refused. -/
theorem receive (inStep : replica.InStep (message :: queue) state target) :
    ∃ next, replica.accept message state = some next ∧
      replica.InStep queue next target :=
  Option.bind_eq_some_iff.mp inStep

end InStep

end Replica

/-! ## Replicas of maps -/

section Maps

variable {κ α : Type*} [LinearOrder κ]

namespace OrderedMap

variable {before after : OrderedMap κ α} {key : κ} {value : α}

/-- The last entry is entered. -/
theorem set_eq_of_entries
    (entries : after.entries = before.entries ++ [(key, value)]) :
    before.set key value = after := by
  apply eq_of_find?
  intro other
  rw [find?_set]
  split
  next same =>
    have member : (key, value) ∈ after.entries := by
      rw [entries]
      exact List.mem_concat_self
    rw [same, find?_eq_some_iff.mpr member]
  next different =>
    apply Option.ext
    intro found
    rw [find?_eq_some_iff, find?_eq_some_iff, entries, List.mem_append,
      List.mem_singleton, Prod.mk.injEq]
    exact ⟨.inl, fun member => member.resolve_right fun last => different last.1⟩

/-- The first entry is removed. -/
theorem erase_eq_of_entries
    (entries : before.entries = (key, value) :: after.entries) :
    before.erase key = after := by
  have first := before.ordered
  rw [entries, List.pairwise_cons] at first
  apply eq_of_find?
  intro other
  rw [find?_erase]
  split
  next same =>
    symm
    rw [Option.eq_none_iff_forall_ne_some]
    intro found is
    have later := first.1 _ (find?_eq_some_iff.mp is)
    exact later.ne same.symm
  next different =>
    apply Option.ext
    intro found
    rw [find?_eq_some_iff, find?_eq_some_iff, entries, List.mem_cons,
      Prod.mk.injEq]
    exact ⟨fun member => member.resolve_left fun same => different same.1, .inr⟩

end OrderedMap

namespace Replica

variable {μ σ : Type*} {replica : Replica μ σ} {holding : OrderedMap κ α → σ}

/-- The entries of a map are told in order. -/
theorem inStep_entries
    {tell : κ × α → μ}
    (map : OrderedMap κ α)
    (accepted : ∀ (before : OrderedMap κ α) (entry : κ × α),
      entry ∈ map.entries →
      (∀ other ∈ before.entries, other ∈ map.entries) →
      before.find? entry.1 = none →
      replica.accept (tell entry) (holding before) =
        some (holding (before.set entry.1 entry.2))) :
    replica.InStep (map.entries.map tell) (holding ∅) (holding map) := by
  suffices rest : ∀ (back : List (κ × α)) (before : OrderedMap κ α),
      before.entries ++ back = map.entries →
      replica.InStep (back.map tell) (holding before) (holding map) from
    rest map.entries ∅ rfl
  intro back
  induction back with
  | nil =>
      intro before whole
      have same : before = map := by
        rw [List.append_nil] at whole
        cases before
        cases map
        cases whole
        rfl
      rw [same]
      rfl
  | cons entry back ih =>
      intro before whole
      have ordered := map.ordered
      rw [← whole, List.pairwise_append] at ordered
      have absent : before.find? entry.1 = none := by
        rw [Option.eq_none_iff_forall_ne_some]
        intro found is
        have earlier := ordered.2.2 _ (OrderedMap.find?_eq_some_iff.mp is) entry
          List.mem_cons_self
        exact lt_irrefl _ earlier
      have parted : before.entries ++ [entry] ++ back = map.entries := by
        rw [List.append_assoc]
        exact whole
      let after : OrderedMap κ α :=
        ⟨before.entries ++ [entry], by
          have all := map.ordered
          rw [← parted] at all
          exact (List.pairwise_append.mp all).1⟩
      have next := accepted before entry
        (by
          rw [← whole]
          exact List.mem_append_right _ List.mem_cons_self)
        (by
          intro other member
          rw [← whole]
          exact List.mem_append_left _ member)
        absent
      have isAfter : before.set entry.1 entry.2 = after :=
        OrderedMap.set_eq_of_entries rfl
      rw [isAfter] at next
      rw [List.map_cons, InStep, follow, next, Option.bind_some]
      exact ih after parted

/-- The keys of a map are withdrawn in order. -/
theorem inStep_keys
    {withdraw : κ → μ}
    (accepted : ∀ (before : OrderedMap κ α) (key : κ) (value : α),
      before.find? key = some value →
      replica.accept (withdraw key) (holding before) =
        some (holding (before.erase key)))
    (map : OrderedMap κ α) :
    replica.InStep (map.entries.map fun entry => withdraw entry.1)
      (holding map) (holding ∅) := by
  obtain ⟨entries, ordered⟩ := map
  induction entries with
  | nil => rfl
  | cons entry rest ih =>
      have next := accepted ⟨entry :: rest, ordered⟩ entry.1 entry.2
        (OrderedMap.find?_eq_some_iff.mpr List.mem_cons_self)
      have isRest : OrderedMap.erase ⟨entry :: rest, ordered⟩ entry.1 =
          ⟨rest, (List.pairwise_cons.mp ordered).2⟩ :=
        OrderedMap.erase_eq_of_entries rfl
      rw [isRest] at next
      rw [List.map_cons, InStep, follow, next, Option.bind_some]
      exact ih (List.pairwise_cons.mp ordered).2

end Replica

end Maps

end Foundation
