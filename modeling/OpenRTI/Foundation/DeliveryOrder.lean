import Mathlib.Data.List.Basic
import Mathlib.Order.Lattice

/-!
# Delivery in the order of time stamps

Values that carry a time stamp are queued by it and delivered from the least
time on.  A bound that only rises keeps later arrivals from going below what
has been delivered.  Under these rules values are delivered in the order of
their stamps, and values of one stamp in the order of their arrival; the queue
may lose values at any time.
-/

namespace Foundation

/-- A queue by time stamps with the history of arrivals and deliveries. -/
structure DeliveryOrder (T α : Type*) where
  queuedAt : T → List α
  /-- No value arrives below this bound, and none at all without one. -/
  bound : Option T
  /-- The values that have arrived, oldest first. -/
  arrived : List α
  /-- The values that have been delivered, oldest first. -/
  delivered : List α

namespace DeliveryOrder

variable {T α : Type*} [LinearOrder T] {stamp : α → T}

/-- A bound is not lowered; no bound is above all others. -/
def Rises (before after : Option T) : Prop :=
  ∀ bound, after = some bound → ∃ earlier, before = some earlier ∧
    earlier ≤ bound

theorem Rises.refl (bound : Option T) : Rises bound bound :=
  fun value isBound => ⟨value, isBound, le_refl value⟩

theorem Rises.trans
    {before middle after : Option T}
    (first : Rises before middle) (second : Rises middle after) :
    Rises before after := by
  intro bound isBound
  obtain ⟨between, isBetween, lower⟩ := second bound isBound
  obtain ⟨earlier, isEarlier, lowest⟩ := first between isBetween
  exact ⟨earlier, isEarlier, lowest.trans lower⟩

/-- The values delivered and still queued are in order. -/
structure Ordered (stamp : α → T) (state : DeliveryOrder T α) : Prop where
  stamped : ∀ time value, value ∈ state.queuedAt time → stamp value = time
  sorted :
    state.delivered.Pairwise fun earlier later => stamp earlier ≤ stamp later
  withinBound :
    ∀ value ∈ state.delivered, ∀ bound, state.bound = some bound →
      stamp value ≤ bound
  beforeQueued :
    ∀ value ∈ state.delivered, ∀ time queued,
      queued ∈ state.queuedAt time → stamp value ≤ time
  inArrivalOrder :
    ∀ time,
      List.Sublist
        ((state.delivered.filter fun value => stamp value = time) ++
          state.queuedAt time)
        (state.arrived.filter fun value => stamp value = time)

variable {state : DeliveryOrder T α}

/-- Values delivered at one time are among those that arrived for it, in the
order of their arrival. -/
theorem Ordered.sublist_arrived
    (ordered : state.Ordered stamp) (time : T) :
    List.Sublist
      (state.delivered.filter fun value => stamp value = time)
      (state.arrived.filter fun value => stamp value = time) :=
  (List.sublist_append_left _ _).trans (ordered.inArrivalOrder time)

variable {queuedAt : T → List α} {bound : Option T}

/-- Nothing has been delivered yet. -/
theorem ordered_of_queued
    {arrived : List α}
    (stamped : ∀ time value, value ∈ queuedAt time → stamp value = time)
    (queued : ∀ time,
      queuedAt time = arrived.filter fun value => stamp value = time) :
    Ordered stamp ⟨queuedAt, bound, arrived, []⟩ where
  stamped := stamped
  sorted := .nil
  withinBound := fun _ member => absurd member List.not_mem_nil
  beforeQueued := fun _ member => absurd member List.not_mem_nil
  inArrivalOrder := by
    intro time
    rw [← queued time]
    exact List.Sublist.refl _

/-- The queue loses values and the bound rises. -/
theorem Ordered.change
    (ordered : state.Ordered stamp)
    (fewer : ∀ time, (queuedAt time).Sublist (state.queuedAt time))
    (rises : Rises state.bound bound) :
    Ordered stamp { state with queuedAt := queuedAt, bound := bound } where
  stamped := fun time value member =>
    ordered.stamped time value ((fewer time).mem member)
  sorted := ordered.sorted
  withinBound := by
    intro value member after isBound
    obtain ⟨earlier, isEarlier, lower⟩ := rises after isBound
    exact (ordered.withinBound value member earlier isEarlier).trans lower
  beforeQueued := fun value member time queued remains =>
    ordered.beforeQueued value member time queued ((fewer time).mem remains)
  inArrivalOrder := fun time =>
    ((fewer time).append_left _).trans (ordered.inArrivalOrder time)

/-- A value arrives that is not queued. -/
theorem Ordered.drop
    (ordered : state.Ordered stamp) (value : α) :
    Ordered stamp { state with arrived := state.arrived ++ [value] } where
  stamped := ordered.stamped
  sorted := ordered.sorted
  withinBound := ordered.withinBound
  beforeQueued := ordered.beforeQueued
  inArrivalOrder := by
    intro time
    refine (ordered.inArrivalOrder time).trans ?_
    rw [List.filter_append]
    exact List.sublist_append_left _ _

variable {value : α}

/-- A value arrives above the bound and is queued. -/
theorem Ordered.arrive
    (ordered : state.Ordered stamp)
    {bound : T}
    (isBound : state.bound = some bound)
    (above : bound ≤ stamp value) :
    Ordered stamp
      { state with
        queuedAt := fun time =>
          state.queuedAt time ++ if time = stamp value then [value] else []
        arrived := state.arrived ++ [value] } where
  stamped := by
    intro time other member
    rcases List.mem_append.mp member with before | new
    · exact ordered.stamped time other before
    · split at new
      next same =>
        rw [List.mem_singleton.mp new]
        exact same.symm
      next => exact absurd new List.not_mem_nil
  sorted := ordered.sorted
  withinBound := ordered.withinBound
  beforeQueued := by
    intro earlier delivered time queued member
    rcases List.mem_append.mp member with before | new
    · exact ordered.beforeQueued earlier delivered time queued before
    · split at new
      next same =>
        rw [same]
        exact (ordered.withinBound earlier delivered bound isBound).trans above
      next => exact absurd new List.not_mem_nil
  inArrivalOrder := by
    intro time
    have before := ordered.inArrivalOrder time
    rw [List.filter_append, ← List.append_assoc]
    apply before.append
    by_cases same : time = stamp value
    · simp [same]
    · simp [same]

/-- The first value of the least time is delivered, within the bound. -/
theorem Ordered.deliver
    (ordered : state.Ordered stamp)
    {time : T} {rest : List α}
    (first : state.queuedAt time = value :: rest)
    (least : ∀ other queued, queued ∈ state.queuedAt other → time ≤ other)
    (within : ∀ bound, state.bound = some bound → time ≤ bound) :
    Ordered stamp
      { state with
        queuedAt := fun other =>
          if other = time then rest else state.queuedAt other
        delivered := state.delivered ++ [value] } := by
  have queued : value ∈ state.queuedAt time := by
    rw [first]
    exact List.mem_cons_self
  have stampValue : stamp value = time := ordered.stamped time value queued
  have remains : ∀ other remaining,
      remaining ∈ (if other = time then rest else state.queuedAt other) →
        remaining ∈ state.queuedAt other := by
    intro other remaining member
    split at member
    next same =>
      rw [same, first]
      exact List.mem_cons_of_mem _ member
    next => exact member
  refine
    { stamped := fun other remaining member =>
        ordered.stamped other remaining (remains other remaining member)
      sorted := ?_, withinBound := ?_, beforeQueued := ?_
      inArrivalOrder := ?_ }
  · apply List.pairwise_append.mpr
    refine ⟨ordered.sorted, List.pairwise_singleton _ _, ?_⟩
    intro earlier delivered last isLast
    rw [List.mem_singleton.mp isLast, stampValue]
    exact ordered.beforeQueued earlier delivered time value queued
  · intro earlier delivered
    rcases List.mem_append.mp delivered with before | new
    · exact ordered.withinBound earlier before
    · rw [List.mem_singleton.mp new, stampValue]
      exact within
  · intro earlier delivered other remaining member
    have before := remains other remaining member
    rcases List.mem_append.mp delivered with old | new
    · exact ordered.beforeQueued earlier old other remaining before
    · rw [List.mem_singleton.mp new, stampValue]
      exact least other remaining before
  · intro other
    have before := ordered.inArrivalOrder other
    rw [List.filter_append]
    by_cases same : other = time
    · rw [same, first] at before
      simpa [same, stampValue] using before
    · have different : ¬ time = other := fun equal => same equal.symm
      simpa [same, different, stampValue] using before

end DeliveryOrder
end Foundation
