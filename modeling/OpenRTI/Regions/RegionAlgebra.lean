import OpenRTI.Regions.Region
import Mathlib.Data.Set.Prod
import Mathlib.Order.Interval.Set.LinearOrder

/-!
# Regions as sets of points

A region is the set of the points whose coordinates lie in the stored ranges.
Two regions are compared dimension by dimension, since each of them is a product
of sets of coordinates.
-/

namespace OpenRTI
namespace Regions

open Foundation
open ServerModel

variable {rangeBounds : RangeBounds}

/-! ## Ranges -/

namespace RangeBounds

/-- The coordinates in a range. -/
def coordinates (self : RangeBounds) : Set Unsigned :=
  Set.Ico self.lowerBound self.upperBound

theorem empty_eq_false_iff {self : RangeBounds} :
    self.empty = false ↔ self.lowerBound < self.upperBound := by
  rw [empty, decide_eq_false_iff_not, not_le]

/-- Two ranges intersect if they have a coordinate in common. -/
theorem intersects_iff
    {self : RangeBounds}
    (present : self.empty = false)
    (presentOther : rangeBounds.empty = false) :
    self.intersects rangeBounds = true ↔
      (self.coordinates ∩ rangeBounds.coordinates).Nonempty := by
  rw [empty_eq_false_iff] at present presentOther
  rw [intersects, decide_eq_true_iff, coordinates, coordinates,
    Set.Ico_inter_Ico, Set.nonempty_Ico, sup_lt_iff, lt_inf_iff, lt_inf_iff]
  constructor
  · intro ⟨left, right⟩
    exact ⟨⟨present, left⟩, right, presentOther⟩
  · intro ⟨left, right⟩
    exact ⟨left.2, right.1⟩

/-- A range includes another one if it has all its coordinates. -/
theorem includes_iff
    {self : RangeBounds}
    (present : self.empty = false)
    (presentOther : rangeBounds.empty = false) :
    self.includes rangeBounds = true ↔
      rangeBounds.coordinates ⊆ self.coordinates := by
  rw [empty_eq_false_iff] at presentOther
  rw [includes, present, if_neg Bool.false_ne_true, decide_eq_true_iff,
    coordinates, coordinates, Set.Ico_subset_Ico_iff presentOther]

/-- No range has all coordinates. -/
theorem coordinates_ne_univ (self : RangeBounds) :
    self.coordinates ≠ Set.univ := by
  intro all
  have last : Fin.last _ ∈ self.coordinates := all ▸ Set.mem_univ _
  exact absurd last.2 (not_lt.mpr (Fin.le_last _))

end RangeBounds

variable {self : Region} {dimensionHandle : DimensionHandle} {region : Region}

/-! ## Regions -/

namespace Region

def find? (self : Region) (dimensionHandle : DimensionHandle) :
    Option RangeBounds :=
  self.dimensionHandleRangeBoundsMap.find? dimensionHandle

/-- The coordinates in a dimension. -/
def side (self : Region) (dimensionHandle : DimensionHandle) : Set Unsigned :=
  match self.find? dimensionHandle with
  | none => Set.univ
  | some rangeBounds => rangeBounds.coordinates

/-- The points whose coordinates lie in the stored ranges. -/
def points (self : Region) : Set (DimensionHandle → Unsigned) :=
  Set.pi Set.univ self.side

/-- No stored range is empty. -/
def Proper (self : Region) : Prop :=
  ∀ dimensionHandle rangeBounds, self.find? dimensionHandle = some rangeBounds →
    rangeBounds.empty = false

theorem side_of_none
    (missing : self.find? dimensionHandle = none) :
    self.side dimensionHandle = Set.univ := by
  rw [side, missing]

theorem side_of_some
    (stored : self.find? dimensionHandle = some rangeBounds) :
    self.side dimensionHandle = rangeBounds.coordinates := by
  rw [side, stored]

theorem Proper.side_nonempty
    (proper : self.Proper) (dimensionHandle : DimensionHandle) :
    (self.side dimensionHandle).Nonempty := by
  cases found : self.find? dimensionHandle with
  | none =>
      rw [side_of_none found]
      exact Set.univ_nonempty
  | some rangeBounds =>
      rw [side_of_some found, RangeBounds.coordinates, Set.nonempty_Ico]
      exact RangeBounds.empty_eq_false_iff.mp (proper _ _ found)

/-- Regions meet if they meet in each dimension that both restrict. -/
theorem points_inter_nonempty_iff
    (proper : self.Proper) (properOther : region.Proper) :
    (self.points ∩ region.points).Nonempty ↔
      ∀ dimensionHandle left right,
        self.find? dimensionHandle = some left →
          region.find? dimensionHandle = some right →
            left.intersects right = true := by
  rw [points, points, ← Set.pi_inter_distrib, Set.univ_pi_nonempty_iff]
  constructor
  · intro meet dimensionHandle left right foundLeft foundRight
    have met := meet dimensionHandle
    rw [side_of_some foundLeft, side_of_some foundRight] at met
    exact (RangeBounds.intersects_iff (proper _ _ foundLeft)
      (properOther _ _ foundRight)).mpr met
  · intro meet dimensionHandle
    cases foundLeft : self.find? dimensionHandle with
    | none =>
        rw [side_of_none foundLeft, Set.univ_inter]
        exact properOther.side_nonempty dimensionHandle
    | some left =>
        cases foundRight : region.find? dimensionHandle with
        | none =>
            rw [side_of_none foundRight, Set.inter_univ]
            exact proper.side_nonempty dimensionHandle
        | some right =>
            rw [side_of_some foundLeft, side_of_some foundRight]
            exact (RangeBounds.intersects_iff (proper _ _ foundLeft)
              (properOther _ _ foundRight)).mp
                (meet dimensionHandle left right foundLeft foundRight)

/-- A region contains another one if that has a range inside each of its
ranges. -/
theorem points_subset_iff
    (proper : self.Proper) (properOther : region.Proper) :
    region.points ⊆ self.points ↔
      ∀ dimensionHandle left, self.find? dimensionHandle = some left →
        ∃ right, region.find? dimensionHandle = some right ∧
          left.includes right = true := by
  rw [points, points, Set.univ_pi_subset_univ_pi_iff]
  have present : ¬∃ dimensionHandle, region.side dimensionHandle = ∅ := by
    intro ⟨dimensionHandle, empty⟩
    exact (properOther.side_nonempty dimensionHandle).ne_empty empty
  rw [or_iff_left present]
  constructor
  · intro subset dimensionHandle left foundLeft
    have sides := subset dimensionHandle
    rw [side_of_some foundLeft] at sides
    cases foundRight : region.find? dimensionHandle with
    | none =>
        rw [side_of_none foundRight, Set.univ_subset_iff] at sides
        exact absurd sides left.coordinates_ne_univ
    | some right =>
        rw [side_of_some foundRight] at sides
        exact ⟨right, rfl, (RangeBounds.includes_iff (proper _ _ foundLeft)
          (properOther _ _ foundRight)).mpr sides⟩
  · intro covered dimensionHandle
    cases foundLeft : self.find? dimensionHandle with
    | none =>
        rw [side_of_none foundLeft]
        exact Set.subset_univ _
    | some left =>
        obtain ⟨right, foundRight, included⟩ :=
          covered dimensionHandle left foundLeft
        rw [side_of_some foundLeft, side_of_some foundRight]
        exact (RangeBounds.includes_iff (proper _ _ foundLeft)
          (properOther _ _ foundRight)).mp included

/-! ## The walks through two maps -/

/-- The ranges of a map in the order of the dimensions. -/
def Ordered (ranges : RegionValue) : Prop :=
  ranges.Pairwise fun left right => left.1 < right.1

/-- Entries that come first in ordered maps are passed by one of them. -/
theorem Ordered.not_mem
    {first : DimensionHandle × RangeBounds} {rest : RegionValue}
    (ordered : Ordered (first :: rest))
    (before : dimensionHandle < first.1)
    (rangeBounds : RangeBounds) :
    (dimensionHandle, rangeBounds) ∉ first :: rest := by
  intro member
  cases member with
  | head => exact lt_irrefl _ before
  | tail _ member =>
      exact lt_asymm before ((List.pairwise_cons.mp ordered).1 _ member)

theorem intersectsFrom_iff
    {left right : RegionValue}
    (ordered : Ordered left) (orderedRight : Ordered right) :
    intersectsFrom left right = true ↔
      ∀ dimensionHandle i j, (dimensionHandle, i) ∈ left →
        (dimensionHandle, j) ∈ right → i.intersects j = true := by
  fun_induction intersectsFrom left right with
  | case1 right => simp
  | case2 i is => simp
  | case3 i is j js before ih =>
      rw [ih (List.pairwise_cons.mp ordered).2 orderedRight]
      constructor
      · intro meet dimensionHandle first second member memberRight
        cases member with
        | head => exact absurd memberRight (orderedRight.not_mem before _)
        | tail _ member => exact meet _ _ _ member memberRight
      · intro meet dimensionHandle first second member memberRight
        exact meet _ _ _ (List.mem_cons_of_mem _ member) memberRight
  | case4 i is j js _ before ih =>
      rw [ih ordered (List.pairwise_cons.mp orderedRight).2]
      constructor
      · intro meet dimensionHandle first second member memberRight
        cases memberRight with
        | head => exact absurd member (ordered.not_mem before _)
        | tail _ memberRight => exact meet _ _ _ member memberRight
      · intro meet dimensionHandle first second member memberRight
        exact meet _ _ _ member (List.mem_cons_of_mem _ memberRight)
  | case5 i is j js notBefore notAfter apart =>
      have same : i.1 = j.1 := le_antisymm (not_lt.mp notAfter)
        (not_lt.mp notBefore)
      refine iff_of_false Bool.false_ne_true fun meet => apart ?_
      exact meet i.1 i.2 j.2 List.mem_cons_self (same ▸ List.mem_cons_self)
  | case6 i is j js notBefore notAfter meets ih =>
      have same : i.1 = j.1 := le_antisymm (not_lt.mp notAfter)
        (not_lt.mp notBefore)
      obtain ⟨isAfter, orderedIs⟩ := List.pairwise_cons.mp ordered
      obtain ⟨jsAfter, orderedJs⟩ := List.pairwise_cons.mp orderedRight
      rw [ih orderedIs orderedJs]
      constructor
      · intro meet dimensionHandle first second member memberRight
        cases member with
        | head =>
            cases memberRight with
            | head => exact not_not.mp meets
            | tail _ memberRight =>
                exact absurd (jsAfter _ memberRight)
                  (not_lt.mpr (le_of_eq same))
        | tail _ member =>
            cases memberRight with
            | head =>
                exact absurd (isAfter _ member)
                  (not_lt.mpr (le_of_eq same.symm))
            | tail _ memberRight => exact meet _ _ _ member memberRight
      · intro meet dimensionHandle first second member memberRight
        exact meet _ _ _ (List.mem_cons_of_mem _ member)
          (List.mem_cons_of_mem _ memberRight)

/-- A range is passed if the other map has one inside, or none in its dimension
but one in a later dimension. -/
def Passed
    (right : RegionValue)
    (left : DimensionHandle × RangeBounds) : Prop :=
  (∃ j, (left.1, j) ∈ right ∧ left.2.includes j = true) ∨
    (∀ j, (left.1, j) ∉ right) ∧ ∃ later ∈ right, left.1 < later.1

theorem passed_cons
    {j : DimensionHandle × RangeBounds} {js : RegionValue}
    {left : DimensionHandle × RangeBounds}
    (before : j.1 < left.1) :
    Passed (j :: js) left ↔ Passed js left := by
  have mem : ∀ other, (left.1, other) ∈ j :: js ↔ (left.1, other) ∈ js := by
    intro other
    rw [List.mem_cons, or_iff_right]
    intro same
    rw [← same] at before
    exact lt_irrefl _ before
  have later : (∃ later ∈ j :: js, left.1 < later.1) ↔
      ∃ later ∈ js, left.1 < later.1 := by
    rw [List.exists_mem_cons_iff, or_iff_right (lt_asymm before)]
  rw [Passed, Passed, later]
  simp only [mem]

/-- All ranges are looked at, and the walk does not leave the other map as long
as no range has all coordinates. -/
theorem includesFrom_eq
    {left right : RegionValue}
    (ordered : Ordered left) (orderedRight : Ordered right)
    (restricted : ∀ i ∈ left, i.2.whole = false) :
    ∃ included, includesFrom left right = some included ∧
      (included = true ↔ ∀ i ∈ left, Passed right i) := by
  fun_induction includesFrom left right with
  | case1 right => exact ⟨true, rfl, by simp⟩
  | case2 i is notWhole =>
      refine ⟨false, rfl, iff_of_false Bool.false_ne_true fun passed => ?_⟩
      simpa [Passed] using passed i List.mem_cons_self
  | case3 i whole =>
      exact absurd (restricted i List.mem_cons_self) (by simpa using whole)
  | case4 i whole =>
      exact absurd (restricted i List.mem_cons_self) (by simpa using whole)
  | case5 i is j js before ih =>
      obtain ⟨included, walked, passed⟩ := ih
        (List.pairwise_cons.mp ordered).2 orderedRight
        fun other member => restricted other (List.mem_cons_of_mem _ member)
      refine ⟨included, walked, ?_⟩
      rw [passed, List.forall_mem_cons, and_iff_right]
      exact Or.inr ⟨orderedRight.not_mem before, j, List.mem_cons_self, before⟩
  | case6 i is j js _ before ih =>
      obtain ⟨included, walked, passed⟩ := ih ordered
        (List.pairwise_cons.mp orderedRight).2 restricted
      refine ⟨included, walked, ?_⟩
      rw [passed]
      refine forall₂_congr fun other member => (passed_cons ?_).symm
      cases member with
      | head => exact before
      | tail _ member =>
          exact before.trans ((List.pairwise_cons.mp ordered).1 _ member)
  | case7 i is j js notBefore notAfter apart =>
      have same : i.1 = j.1 := le_antisymm (not_lt.mp notAfter)
        (not_lt.mp notBefore)
      refine ⟨false, rfl, iff_of_false Bool.false_ne_true fun passed => ?_⟩
      cases passed i List.mem_cons_self with
      | inl found =>
          obtain ⟨other, member, included⟩ := found
          cases member with
          | head => exact apart included
          | tail _ member =>
              exact absurd ((List.pairwise_cons.mp orderedRight).1 _ member)
                (not_lt.mpr (le_of_eq same))
      | inr missing =>
          exact missing.1 j.2 (same ▸ List.mem_cons_self)
  | case8 i is j js notBefore notAfter meets ih =>
      have same : i.1 = j.1 := le_antisymm (not_lt.mp notAfter)
        (not_lt.mp notBefore)
      obtain ⟨isAfter, orderedIs⟩ := List.pairwise_cons.mp ordered
      obtain ⟨included, walked, passed⟩ := ih orderedIs
        (List.pairwise_cons.mp orderedRight).2
        fun other member => restricted other (List.mem_cons_of_mem _ member)
      refine ⟨included, walked, ?_⟩
      have first : Passed (j :: js) i :=
        Or.inl ⟨j.2, same ▸ List.mem_cons_self, not_not.mp meets⟩
      rw [passed, List.forall_mem_cons, and_iff_right first]
      refine forall₂_congr fun other member => (passed_cons ?_).symm
      exact lt_of_eq_of_lt same.symm (isAfter _ member)

/-! ## The region algebra -/

theorem intersects_iff
    (proper : self.Proper) (properOther : region.Proper) :
    self.intersects region = true ↔ (self.points ∩ region.points).Nonempty := by
  rw [intersects, intersectsFrom_iff self.dimensionHandleRangeBoundsMap.ordered
    region.dimensionHandleRangeBoundsMap.ordered,
    points_inter_nonempty_iff proper properOther]
  simp only [find?, OrderedMap.find?_eq_some_iff]

/-- What `includes` answers. -/
theorem includes_eq (self region : Region) :
    ∃ included, self.includes region = some included ∧
      (included = true ↔
        ∀ i ∈ self.dimensionHandleRangeBoundsMap.entries,
          Passed region.dimensionHandleRangeBoundsMap.entries i) := by
  apply includesFrom_eq self.dimensionHandleRangeBoundsMap.ordered
    region.dimensionHandleRangeBoundsMap.ordered
  intro i member
  exact self.restricted i.1 i.2 (OrderedMap.find?_eq_some_iff.mpr member)

/-- The other region restricts a dimension, and has a range inside each range of
the region. -/
def Covers (self region : Region) : Prop :=
  region.dimensionHandleRangeBoundsMap.entries ≠ [] ∧
    ∀ dimensionHandle left, self.find? dimensionHandle = some left →
      ∃ right, region.find? dimensionHandle = some right ∧
        left.includes right = true

/-- A region that covers another one is seen to include it. -/
theorem Covers.includes
    (covers : self.Covers region) : self.includes region = some true := by
  obtain ⟨included, walked, passed⟩ := includes_eq self region
  have all : included = true := by
    rw [passed]
    intro i member
    obtain ⟨right, found, inside⟩ :=
      covers.2 i.1 i.2 (OrderedMap.find?_eq_some_iff.mpr member)
    exact Or.inl ⟨right, OrderedMap.find?_eq_some_iff.mp found, inside⟩
  rw [walked, all]

/-- `extend` does nothing, unless it fails. -/
theorem extend_eq_some_iff {self region extended : Region} :
    self.extend region = some extended ↔
      region.dimensionHandleRangeBoundsMap.entries ≠ [] ∧ self = extended := by
  rw [extend]
  cases region.dimensionHandleRangeBoundsMap.entries with
  | nil => simp
  | cons j js => simp

end Region

/-- The three operations on regions are those on their sets of points, and sets
of regions intersect if some of their regions meet. -/
structure RegionAlgebra (a b : Region) (left right : RegionSet) : Prop where
  intersects : a.intersects b = true ↔ (a.points ∩ b.points).Nonempty
  includes : ∃ included, a.includes b = some included ∧
    (included = true ↔ b.points ⊆ a.points)
  extend : ∃ extended, a.extend b = some extended ∧
    a.points ⊆ extended.points ∧ b.points ⊆ extended.points
  intersectsSet : left.intersects right = true ↔
    ∃ i ∈ left.regionHandleLeafMap.entries,
      ∃ j ∈ right.regionHandleLeafMap.entries,
        (i.2.points ∩ j.2.points).Nonempty

/-- No region of a set has an empty range. -/
def RegionSet.Proper (self : RegionSet) : Prop :=
  ∀ i ∈ self.regionHandleLeafMap.entries, i.2.Proper

theorem RegionSet.intersects_iff
    {self regionSet : RegionSet}
    (proper : self.Proper) (properOther : regionSet.Proper) :
    self.intersects regionSet = true ↔
      ∃ i ∈ self.regionHandleLeafMap.entries,
        ∃ j ∈ regionSet.regionHandleLeafMap.entries,
          (i.2.points ∩ j.2.points).Nonempty := by
  rw [intersects, List.any_eq_true]
  refine exists_congr fun i => and_congr_right fun member => ?_
  rw [List.any_eq_true]
  refine exists_congr fun j => and_congr_right fun memberOther => ?_
  exact Region.intersects_iff (proper i member) (properOther j memberOther)

/-- The operations are those on sets of points exactly for a region that covers
the other one, where nothing is to be extended. -/
theorem regionAlgebra_iff
    {a b : Region}
    {left right : RegionSet}
    (proper : a.Proper)
    (properOther : b.Proper)
    (properLeft : left.Proper)
    (properRight : right.Proper) :
    RegionAlgebra a b left right ↔ a.Covers b := by
  constructor
  · intro algebra
    obtain ⟨extended, done, _, contained⟩ := algebra.extend
    obtain ⟨present, same⟩ := Region.extend_eq_some_iff.mp done
    rw [← same] at contained
    exact ⟨present,
      (Region.points_subset_iff proper properOther).mp contained⟩
  · intro covers
    have contained : b.points ⊆ a.points :=
      (Region.points_subset_iff proper properOther).mpr covers.2
    refine ⟨Region.intersects_iff proper properOther, ?_, ?_,
      RegionSet.intersects_iff properLeft properRight⟩
    · exact ⟨true, covers.includes, iff_of_true rfl contained⟩
    · exact ⟨a, Region.extend_eq_some_iff.mpr ⟨covers.1, rfl⟩, subset_rfl,
        contained⟩

/-! ## Restricting one dimension after the other -/

namespace Region

theorem find?_setRangeBounds
    (restricted : rangeBounds.whole = false)
    (self : Region) (dimensionHandle other : DimensionHandle) :
    (self.setRangeBounds dimensionHandle rangeBounds).find? other =
      if other = dimensionHandle then some rangeBounds else self.find? other := by
  have notWhole : ¬rangeBounds.whole = true := by
    rw [restricted]
    exact Bool.false_ne_true
  rw [setRangeBounds, dif_neg notWhole]
  exact OrderedMap.find?_set ..

theorem Proper.setRangeBounds
    (proper : self.Proper)
    (restricted : rangeBounds.whole = false)
    (present : rangeBounds.empty = false)
    (dimensionHandle : DimensionHandle) :
    (self.setRangeBounds dimensionHandle rangeBounds).Proper := by
  intro other stored found
  rw [find?_setRangeBounds restricted] at found
  split at found
  next =>
    rw [← Option.some.inj found]
    exact present
  next => exact proper other stored found

theorem proper_unrestricted : unrestricted.Proper := by
  intro other stored found
  cases found

end Region

/-- A region that restricts one dimension. -/
def stripe
    (dimensionHandle : DimensionHandle)
    (rangeBounds : RangeBounds) : Region :=
  Region.unrestricted.setRangeBounds dimensionHandle rangeBounds

theorem proper_stripe
    (restricted : rangeBounds.whole = false)
    (present : rangeBounds.empty = false) :
    (stripe dimensionHandle rangeBounds).Proper :=
  Region.proper_unrestricted.setRangeBounds restricted present dimensionHandle

/-- A region that restricts two dimensions. -/
def block (first second : RangeBounds) : Region :=
  (stripe 1 first).setRangeBounds 2 second

theorem RegionSet.proper_empty : ({} : RegionSet).Proper := by
  intro i member
  cases member

theorem RegionSet.Proper.insert
    {self : RegionSet}
    (proper : self.Proper) (properRegion : region.Proper)
    (regionHandle : RegionHandle) :
    (self.insert regionHandle region).Proper := by
  intro i member
  have found := OrderedMap.find?_eq_some_iff.mpr member
  rw [RegionSet.insert, OrderedMap.find?_set] at found
  split at found
  next =>
    rw [← Option.some.inj found]
    exact properRegion
  next => exact proper i (OrderedMap.find?_eq_some_iff.mp found)

/-- A region of two dimensions covers one inside, and sets that hold them. -/
theorem regionAlgebra_block :
    RegionAlgebra (block ⟨2, 8⟩ ⟨0, 9⟩) (block ⟨3, 5⟩ ⟨4, 9⟩)
      (({} : RegionSet).insert (toLex (1, 0)) (block ⟨2, 8⟩ ⟨0, 9⟩))
      ((({} : RegionSet).insert (toLex (2, 0)) (block ⟨3, 5⟩ ⟨4, 9⟩)).insert
        (toLex (2, 1)) (stripe 3 ⟨0, 1⟩)) := by
  have outer : (block ⟨2, 8⟩ ⟨0, 9⟩).Proper :=
    (proper_stripe (by decide) (by decide)).setRangeBounds (by decide) (by decide) 2
  have inner : (block ⟨3, 5⟩ ⟨4, 9⟩).Proper :=
    (proper_stripe (by decide) (by decide)).setRangeBounds (by decide) (by decide) 2
  refine (regionAlgebra_iff outer inner
    (RegionSet.proper_empty.insert outer (toLex (1, 0)))
    ((RegionSet.proper_empty.insert inner (toLex (2, 0))).insert
      (proper_stripe (by decide) (by decide)) (toLex (2, 1)))).mpr ⟨by decide, ?_⟩
  intro dimensionHandle left found
  rw [block, Region.find?_setRangeBounds (by decide), stripe,
    Region.find?_setRangeBounds (by decide)] at found
  split at found
  next second =>
    rw [second, ← Option.some.inj found]
    exact ⟨⟨4, 9⟩, by decide, by decide⟩
  next =>
    split at found
    next first =>
      rw [first, ← Option.some.inj found]
      exact ⟨⟨3, 5⟩, by decide, by decide⟩
    next => cases found

/-- A region that is extended by one beside it stays as it is. -/
theorem regionAlgebra_fails :
    ¬∀ (a b : Region) (left right : RegionSet),
      a.Proper → b.Proper → left.Proper → right.Proper →
        RegionAlgebra a b left right := by
  intro always
  have proper : (stripe 1 ⟨2, 4⟩).Proper :=
    proper_stripe (by decide) (by decide)
  have properOther : (stripe 1 ⟨6, 8⟩).Proper :=
    proper_stripe (by decide) (by decide)
  obtain ⟨extended, done, _, contained⟩ :=
    (always _ _ {} {} proper properOther RegionSet.proper_empty
      RegionSet.proper_empty).extend
  rw [← (Region.extend_eq_some_iff.mp done).2,
    Region.points_subset_iff proper properOther] at contained
  obtain ⟨right, found, included⟩ := contained 1 ⟨2, 4⟩ (by decide)
  have other : right = ⟨6, 8⟩ := by
    rw [stripe, Region.find?_setRangeBounds (by decide), if_pos rfl] at found
    exact (Option.some.inj found).symm
  rw [other] at included
  exact absurd included (by decide)

end Regions
end OpenRTI
