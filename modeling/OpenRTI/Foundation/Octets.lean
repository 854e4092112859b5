import Mathlib.Algebra.Order.Group.Nat
import Mathlib.Tactic.Common
import Mathlib.Tactic.Ring

/-!
# Numbers as octets

A number is a fixed count of octets in one of two orders, or groups of seven bits
with a mark on all groups but the last.  Both are read back to the number.
-/

namespace Foundation

abbrev Octet := BitVec 8

namespace Octets

theorem toNat_ofNat (value : Nat) :
    (BitVec.ofNat 8 value).toNat = value % 256 := by
  rw [BitVec.toNat_ofNat]

theorem toNat_ofNat_of_lt
    {width value : Nat}
    (small : value < 2 ^ width) :
    (BitVec.ofNat width value).toNat = value := by
  rw [BitVec.toNat_ofNat, Nat.mod_eq_of_lt small]

/-- Octets of which no bit is set twice are put together by addition. -/
theorem or_shiftLeft_eq
    {low : Nat} {width : Nat}
    (small : low < 2 ^ width)
    (high : Nat) :
    low ||| (high <<< width) = low + high * 2 ^ width := by
  rw [Nat.shiftLeft_eq, Nat.or_comm, Nat.mul_comm,
    ← Nat.two_pow_add_eq_or_of_lt small, Nat.add_comm]

/-! ## A fixed count of octets -/

/-- The least significant octets of a number, the least one first. -/
def littleEndian : Nat → Nat → List Octet
  | 0, _ => []
  | width + 1, value => BitVec.ofNat 8 value :: littleEndian width (value >>> 8)

def ofLittleEndian : List Octet → Nat
  | [] => 0
  | octet :: rest => octet.toNat ||| (ofLittleEndian rest <<< 8)

/-- The least significant octets of a number, the least one last. -/
def bigEndian (width value : Nat) : List Octet :=
  (littleEndian width value).reverse

def ofBigEndian (octets : List Octet) : Nat :=
  ofLittleEndian octets.reverse

@[simp] theorem length_littleEndian (width value : Nat) :
    (littleEndian width value).length = width := by
  induction width generalizing value with
  | zero => rfl
  | succ width ih =>
      rw [littleEndian, List.length_cons, ih]

@[simp] theorem length_bigEndian (width value : Nat) :
    (bigEndian width value).length = width := by
  rw [bigEndian, List.length_reverse, length_littleEndian]

theorem ofLittleEndian_cons (octet : Octet) (rest : List Octet) :
    ofLittleEndian (octet :: rest) =
      octet.toNat + 256 * ofLittleEndian rest := by
  rw [ofLittleEndian, or_shiftLeft_eq octet.isLt, Nat.mul_comm]
  rfl

theorem ofLittleEndian_littleEndian (width value : Nat) :
    ofLittleEndian (littleEndian width value) = value % 256 ^ width := by
  induction width generalizing value with
  | zero => simp [littleEndian, ofLittleEndian, Nat.mod_one]
  | succ width ih =>
      have shifted : value >>> 8 = value / 256 :=
        Nat.shiftRight_eq_div_pow value 8
      rw [littleEndian, ofLittleEndian_cons, ih, toNat_ofNat,
        shifted, Nat.pow_succ, Nat.mul_comm (256 ^ width), Nat.mod_mul]

theorem ofLittleEndian_littleEndian_of_lt
    {width value : Nat}
    (small : value < 256 ^ width) :
    ofLittleEndian (littleEndian width value) = value := by
  rw [ofLittleEndian_littleEndian, Nat.mod_eq_of_lt small]

theorem ofBigEndian_bigEndian_of_lt
    {width value : Nat}
    (small : value < 256 ^ width) :
    ofBigEndian (bigEndian width value) = value := by
  rw [ofBigEndian, bigEndian, List.reverse_reverse,
    ofLittleEndian_littleEndian_of_lt small]

/-! ## Groups of seven bits -/

/-- The groups of a number of at most `groups + 1` groups, the least significant
one first.  All but the last one are marked. -/
def compress : Nat → Nat → List Octet
  | 0, value => [BitVec.ofNat 8 value]
  | groups + 1, value =>
      if value < 128 then [BitVec.ofNat 8 value]
      else BitVec.ofNat 8 (128 ||| (value % 128)) ::
        compress groups (value >>> 7)

/-- How many groups a number has. -/
def compressedLength : Nat → Nat → Nat
  | 0, _ => 1
  | groups + 1, value =>
      if value < 128 then 1 else compressedLength groups (value >>> 7) + 1

theorem length_compress (groups value : Nat) :
    (compress groups value).length = compressedLength groups value := by
  induction groups generalizing value with
  | zero => rfl
  | succ groups ih =>
      rw [compress, compressedLength]
      split
      · rfl
      · rw [List.length_cons, ih]

theorem one_le_compressedLength (groups value : Nat) :
    1 ≤ compressedLength groups value := by
  cases groups with
  | zero => exact Nat.le_refl 1
  | succ groups =>
      rw [compressedLength]
      split <;> omega

theorem compressedLength_le (groups value : Nat) :
    compressedLength groups value ≤ groups + 1 := by
  induction groups generalizing value with
  | zero => exact Nat.le_refl 1
  | succ groups ih =>
      rw [compressedLength]
      split
      · omega
      · exact Nat.add_le_add_right (ih (value >>> 7)) 1

/-- A greater number has no fewer groups. -/
theorem compressedLength_mono
    (groups : Nat)
    {smaller greater : Nat}
    (le : smaller ≤ greater) :
    compressedLength groups smaller ≤ compressedLength groups greater := by
  induction groups generalizing smaller greater with
  | zero => exact Nat.le_refl 1
  | succ groups ih =>
      rw [compressedLength, compressedLength]
      have shifted : smaller >>> 7 ≤ greater >>> 7 := by
        rw [Nat.shiftRight_eq_div_pow, Nat.shiftRight_eq_div_pow]
        exact Nat.div_le_div_right le
      have later := ih shifted
      split
      · split <;> omega
      · split <;> omega

end Octets
end Foundation
