import Mathlib.Data.Prod.Lex
import Mathlib.Data.Int.Order.Basic
import Mathlib.Order.MinMax
import Mathlib.Tactic.Common

/-!
# Integer logical time

Logical times and time intervals of the integer time factory are unbounded
integers.  Time advances and messages are scheduled at pairs of a logical time and a small
integer: a time stamped message at `-1`, an available time advance at `0` and a
complete time advance at `1`.
-/

namespace OpenRTI
namespace TimeManagement

/-- Message counters of 32 bits, which wrap around. -/
abbrev Unsigned := UInt32

namespace LogicalTimeFactory

def initialLogicalTime : Int := 0

def zeroLogicalTimeInterval : Int := 0

def nextAfter (logicalTime : Int) : Int :=
  logicalTime + 1

def isZeroTimeInterval (interval : Int) : Bool :=
  interval = 0

/-- The time factory calls an interval positive unless it is negative. -/
def isPositiveTimeInterval (interval : Int) : Bool :=
  0 ≤ interval

end LogicalTimeFactory

/-- A `std::pair` of a logical time and an integer, in lexicographic order. -/
@[ext]
structure LogicalTimePair where
  first : Int
  second : Int
  deriving DecidableEq

namespace LogicalTimePair

instance : LinearOrder LogicalTimePair :=
  LinearOrder.lift' (fun pair => toLex (pair.first, pair.second)) (by
    intro left right equal
    have components := Prod.ext_iff.mp (toLex.injective equal)
    exact LogicalTimePair.ext components.1 components.2)

theorem lt_iff (left right : LogicalTimePair) :
    left < right ↔
      left.first < right.first ∨
        left.first = right.first ∧ left.second < right.second :=
  Prod.Lex.toLex_lt_toLex

theorem le_iff (left right : LogicalTimePair) :
    left ≤ right ↔
      left.first < right.first ∨
        left.first = right.first ∧ left.second ≤ right.second :=
  Prod.Lex.toLex_le_toLex

/-- The smallest logical time that a lower bound given as a pair allows. -/
def toLogicalTime (pair : LogicalTimePair) : Int :=
  if 0 < pair.second then LogicalTimeFactory.nextAfter pair.first
  else pair.first

theorem toLogicalTime_eq (pair : LogicalTimePair) :
    pair.toLogicalTime =
      if 0 < pair.second then pair.first + 1 else pair.first := rfl

theorem first_le_toLogicalTime (pair : LogicalTimePair) :
    pair.first ≤ pair.toLogicalTime := by
  rw [toLogicalTime_eq]
  split <;> omega

theorem toLogicalTime_mono
    {left right : LogicalTimePair}
    (ordered : left ≤ right) :
    left.toLogicalTime ≤ right.toLogicalTime := by
  rw [le_iff] at ordered
  rw [toLogicalTime_eq, toLogicalTime_eq]
  split <;> split <;> omega

theorem toLogicalTime_max (left right : LogicalTimePair) :
    (max left right).toLogicalTime =
      max left.toLogicalTime right.toLogicalTime :=
  Monotone.map_max fun _ _ ordered => toLogicalTime_mono ordered

theorem max_first (left right : LogicalTimePair) :
    (max left right).first = max left.first right.first := by
  rcases max_choice left right with chosen | chosen
  · have ordered := max_eq_left_iff.mp chosen
    rw [le_iff] at ordered
    rw [chosen, max_eq_left]
    omega
  · have ordered := max_eq_right_iff.mp chosen
    rw [le_iff] at ordered
    rw [chosen, max_eq_right]
    omega

theorem max_second_nonneg
    {left right : LogicalTimePair}
    (leftNonneg : 0 ≤ left.second)
    (rightNonneg : 0 ≤ right.second) :
    0 ≤ (max left right).second := by
  rcases max_choice left right with chosen | chosen
  · rwa [chosen]
  · rwa [chosen]

end LogicalTimePair

/-- The parts of a lower bound commit: a guarantee for time advances, one for
next message requests, or both. -/
structure LowerBoundTimeStampCommitType where
  timeAdvance : Bool
  nextMessage : Bool
  deriving DecidableEq

namespace LowerBoundTimeStampCommitType

def timeAdvanceCommit : LowerBoundTimeStampCommitType := ⟨true, false⟩

def nextMessageCommit : LowerBoundTimeStampCommitType := ⟨false, true⟩

def timeAdvanceAndNextMessageCommit : LowerBoundTimeStampCommitType :=
  ⟨true, true⟩

end LowerBoundTimeStampCommitType
end TimeManagement
end OpenRTI
