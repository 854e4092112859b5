import Mathlib.Data.Nat.Bitwise
import Mathlib.Data.Nat.Basic

/-!
# Bit fields of machine words

Words are taken apart and put together with shifts, masks and single bits.
The lemmas say what these operations do to the value of a word.
-/

namespace Foundation
namespace BitFields

variable {w : Nat}

/-- The word with a single bit. -/
def bit (w k : Nat) : BitVec w := 1#w <<< k

/-- The word with the lowest bits. -/
def lowBits (w n : Nat) : BitVec w := bit w n - 1#w

theorem toNat_bit {k : Nat} (inside : k < w) : (bit w k).toNat = 2 ^ k := by
  rw [bit, ← BitVec.twoPow_eq, BitVec.toNat_twoPow]
  exact Nat.mod_eq_of_lt (Nat.pow_lt_pow_right (by decide) inside)

theorem bit_eq_zero {k : Nat} (outside : w ≤ k) : bit w k = 0 := by
  rw [bit, ← BitVec.twoPow_eq]
  apply BitVec.eq_of_toNat_eq
  rw [BitVec.toNat_twoPow]
  exact Nat.mod_eq_zero_of_dvd (Nat.pow_dvd_pow 2 outside)

theorem bit_shiftLeft (k n : Nat) : bit w k <<< n = bit w (k + n) := by
  rw [bit, bit, BitVec.shiftLeft_add]

theorem and_bit (x : BitVec w) (k : Nat) :
    x &&& bit w k = if x.toNat / 2 ^ k % 2 = 1 then bit w k else 0#w := by
  rw [bit, ← BitVec.twoPow_eq, BitVec.and_twoPow, BitVec.getLsbD,
    Nat.testBit_eq_decide_div_mod_eq]
  simp only [decide_eq_true_eq]

/-- A bit is set if and only if the value from there on is odd. -/
theorem and_bit_ne_zero_iff
    {x : BitVec w} {k : Nat}
    (inside : k < w) :
    x &&& bit w k ≠ 0 ↔ x.toNat / 2 ^ k % 2 = 1 := by
  have nonzero : bit w k ≠ 0 := by
    intro zero
    have value := toNat_bit inside
    rw [zero] at value
    exact (Nat.two_pow_pos k).ne value
  rw [and_bit]
  split
  next set => exact iff_of_true nonzero set
  next clear => exact iff_of_false (fun different => different rfl) clear

/-- Clearing a bit that is set subtracts its value. -/
theorem toNat_and_not_bit
    {x : BitVec w} {k : Nat}
    (inside : k < w)
    (set : x &&& bit w k ≠ 0) :
    (x &&& ~~~ bit w k).toNat = x.toNat - 2 ^ k := by
  have held : x &&& bit w k = bit w k := by
    rw [and_bit, if_pos ((and_bit_ne_zero_iff inside).mp set)]
  have below : bit w k ≤ x := by
    rw [BitVec.le_def, ← held, BitVec.toNat_and]
    exact Nat.and_le_left
  have split : (x &&& ~~~ bit w k) + bit w k = x := by
    rw [BitVec.add_eq_or_of_and_eq_zero]
    · ext i inside
      have bits := congrArg (fun y => y.getLsbD i) held
      rw [BitVec.getLsbD_and, BitVec.getLsbD_eq_getElem inside,
        BitVec.getLsbD_eq_getElem inside] at bits
      rw [BitVec.getElem_or, BitVec.getElem_and, BitVec.getElem_not]
      revert bits
      cases x[i] <;> cases (bit w k)[i] <;> decide
    · rw [BitVec.and_assoc, BitVec.not_and_self]
      exact BitVec.and_zero
  have difference : x &&& ~~~ bit w k = x - bit w k := by
    rw [eq_comm, BitVec.sub_eq_iff_eq_add]
    exact split.symm
  rw [difference, BitVec.toNat_sub_of_le below, toNat_bit inside]

theorem toNat_lowBits {n : Nat} (inside : n < w) :
    (lowBits w n).toNat = 2 ^ n - 1 := by
  have one : (1#w).toNat = 1 := by
    rw [BitVec.toNat_ofNat]
    exact Nat.mod_eq_of_lt (Nat.one_lt_two_pow (by omega))
  have below : 1#w ≤ bit w n := by
    rw [BitVec.le_def, toNat_bit inside, one]
    exact Nat.one_le_two_pow
  rw [lowBits, BitVec.toNat_sub_of_le below, toNat_bit inside, one]

theorem toNat_lowBits_and
    {n : Nat}
    (inside : n < w)
    (x : BitVec w) :
    (lowBits w n &&& x).toNat = x.toNat % 2 ^ n := by
  rw [BitVec.toNat_and, toNat_lowBits inside, Nat.and_comm,
    Nat.and_two_pow_sub_one_eq_mod]

/-- A field put below a word that leaves room for it. -/
theorem toNat_shiftLeft_or
    {x y : BitVec w} {n : Nat}
    (fits : x.toNat * 2 ^ n < 2 ^ w)
    (below : y.toNat < 2 ^ n) :
    (x <<< n ||| y).toNat = x.toNat * 2 ^ n + y.toNat := by
  rw [BitVec.toNat_or, BitVec.toNat_shiftLeft, Nat.shiftLeft_eq,
    Nat.mod_eq_of_lt fits, Nat.mul_comm, Nat.two_pow_add_eq_or_of_lt below]

end BitFields
end Foundation
