import OpenRTI.Foundation.OrderedMap
import OpenRTI.ServerModel.ObjectClass
import Mathlib.Data.Fin.Basic
import Mathlib.Data.Prod.Lex
import Mathlib.Order.Fin.Basic

/-!
# Regions

A region restricts some dimensions to a range of coordinates.  The ranges are
kept in the order of the dimensions, and two regions are compared by a walk
through both maps.  Looking at the place behind the last entry of a map fails.
-/

namespace OpenRTI
namespace Regions

open Foundation
open ServerModel

abbrev Unsigned := Fin (2 ^ 32)

/-- The upper bound does not belong to the range. -/
structure RangeBounds where
  lowerBound : Unsigned := Fin.last _
  upperBound : Unsigned := 0
  deriving DecidableEq

namespace RangeBounds

def empty (self : RangeBounds) : Bool :=
  self.upperBound ≤ self.lowerBound

def whole (self : RangeBounds) : Bool :=
  self.lowerBound = 0 ∧ self.upperBound = Fin.last _

def intersects (self rangeBounds : RangeBounds) : Bool :=
  self.lowerBound < rangeBounds.upperBound ∧
    rangeBounds.lowerBound < self.upperBound

def includes (self rangeBounds : RangeBounds) : Bool :=
  if self.empty then false
  else
    self.lowerBound ≤ rangeBounds.lowerBound ∧
      rangeBounds.upperBound ≤ self.upperBound

def extend (self rangeBounds : RangeBounds) : RangeBounds where
  lowerBound := min self.lowerBound rangeBounds.lowerBound
  upperBound := max self.upperBound rangeBounds.upperBound

end RangeBounds

abbrev RegionValue := List (DimensionHandle × RangeBounds)

abbrev DimensionHandleRangeBoundsMap :=
  OrderedMap DimensionHandle RangeBounds

/-- The ranges of the dimensions that are restricted.  A range of all
coordinates is not stored. -/
structure Region where
  dimensionHandleRangeBoundsMap : DimensionHandleRangeBoundsMap
  restricted : ∀ dimensionHandle rangeBounds,
    dimensionHandleRangeBoundsMap.find? dimensionHandle = some rangeBounds →
      rangeBounds.whole = false

namespace Region

/-- The region that restricts no dimension. -/
def unrestricted : Region where
  dimensionHandleRangeBoundsMap := ∅
  restricted := by
    intro dimensionHandle rangeBounds stored
    cases stored

def setRangeBounds
    (self : Region)
    (dimensionHandle : DimensionHandle)
    (rangeBounds : RangeBounds) : Region :=
  if whole : rangeBounds.whole then
    { dimensionHandleRangeBoundsMap :=
        self.dimensionHandleRangeBoundsMap.erase dimensionHandle
      restricted := by
        intro other stored found
        rw [OrderedMap.find?_erase] at found
        split at found
        next => cases found
        next => exact self.restricted other stored found }
  else
    { dimensionHandleRangeBoundsMap :=
        self.dimensionHandleRangeBoundsMap.set dimensionHandle rangeBounds
      restricted := by
        intro other stored found
        rw [OrderedMap.find?_set] at found
        split at found
        next =>
          rw [← Option.some.inj found]
          exact Bool.eq_false_of_not_eq_true whole
        next => exact self.restricted other stored found }

/-- The data type held in messages.  The ranges of all coordinates are left
out. -/
def ofRegionValue (regionValue : RegionValue) : Region :=
  regionValue.foldl
    (fun region value =>
      if value.2.whole then region
      else region.setRangeBounds value.1 value.2)
    unrestricted

def getRangeBounds
    (self : Region)
    (dimensionHandle : DimensionHandle) : RangeBounds :=
  (self.dimensionHandleRangeBoundsMap.find? dimensionHandle).getD {}

def intersectsFrom :
    RegionValue → RegionValue → Bool
  | [], _ => true
  | _ :: _, [] => true
  | i :: is, j :: js =>
      if i.1 < j.1 then intersectsFrom is (j :: js)
      else if j.1 < i.1 then intersectsFrom (i :: is) js
      else if ¬i.2.intersects j.2 then false
      else intersectsFrom is js
  termination_by left right => left.length + right.length

def intersects (self region : Region) : Bool :=
  intersectsFrom self.dimensionHandleRangeBoundsMap.entries
    region.dimensionHandleRangeBoundsMap.entries

/-- The walk goes on after the other map has ended, and looks at its end. -/
def includesFrom :
    RegionValue → RegionValue → Option Bool
  | [], _ => some true
  | i :: is, [] =>
      if ¬i.2.whole then some false
      else
        match is with
        | [] => some true
        | _ :: _ => none
  | i :: is, j :: js =>
      if i.1 < j.1 then includesFrom is (j :: js)
      else if j.1 < i.1 then includesFrom (i :: is) js
      else if ¬i.2.includes j.2 then some false
      else includesFrom is js
  termination_by left right => left.length + right.length

def includes (self region : Region) : Option Bool :=
  includesFrom self.dimensionHandleRangeBoundsMap.entries
    region.dimensionHandleRangeBoundsMap.entries

/-- The loop is only entered at the end of the other map. -/
def extend (self region : Region) : Option Region :=
  match region.dimensionHandleRangeBoundsMap.entries with
  | [] => none
  | _ :: _ => some self

end Region

/-- A federate handle and a handle that the federate gave. -/
abbrev RegionHandle := Nat ×ₗ Nat

structure RegionSet where
  regionHandleLeafMap : OrderedMap RegionHandle Region := ∅

namespace RegionSet

def insert
    (self : RegionSet)
    (regionHandle : RegionHandle)
    (region : Region) : RegionSet where
  regionHandleLeafMap := self.regionHandleLeafMap.set regionHandle region

def erase (self : RegionSet) (regionHandle : RegionHandle) : RegionSet where
  regionHandleLeafMap := self.regionHandleLeafMap.erase regionHandle

def intersects (self regionSet : RegionSet) : Bool :=
  self.regionHandleLeafMap.entries.any fun i =>
    regionSet.regionHandleLeafMap.entries.any fun j => i.2.intersects j.2

end RegionSet

end Regions
end OpenRTI
