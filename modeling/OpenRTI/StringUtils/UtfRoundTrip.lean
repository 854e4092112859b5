import OpenRTI.StringUtils.Utf8Sequences

/-!
# Wide characters as bytes and back

The sequence that is written for a wide character announces as many bytes as
are written, so that reading it takes back exactly these.  It is the shortest
encoding of the value.
-/

namespace OpenRTI
namespace StringUtils

open Foundation BitFields

/-! ## The number of bytes -/

theorem toNat_ushiftRight (cp : BitVec 32) (n : Nat) :
    (cp >>> n).toNat = cp.toNat / 2 ^ n := by
  rw [BitVec.toNat_ushiftRight, Nat.shiftRight_eq_div_pow]

/-- Each byte that continues a sequence makes room for five more bits. -/
theorem lt_continuationCount (tmp : BitVec 32) :
    tmp.toNat < 2 ^ (5 * continuationCount char tmp) := by
  induction size : tmp.toNat using Nat.strong_induction_on
    generalizing tmp with
  | _ size ih =>
    rw [continuationCount]
    split
    next zero =>
      rw [← size, zero]
      decide
    next nonzero =>
      have positive : 0 < tmp.toNat := by
        rw [Nat.pos_iff_ne_zero]
        exact fun zero => nonzero (BitVec.eq_of_toNat_eq zero)
      have shifted : (tmp >>> (char.continuationBits - 1)).toNat =
          tmp.toNat / 2 ^ 5 := toNat_ushiftRight tmp 5
      have counted := ih _ (by rw [shifted]; omega) _ rfl
      rw [shifted] at counted
      rw [Nat.mul_add, Nat.pow_add, ← size]
      omega

variable {count : Nat}

/-- No byte is written that is not needed. -/
theorem continuationCount_le
    {tmp : BitVec 32}
    (fits : tmp.toNat < 2 ^ (5 * count)) :
    continuationCount char tmp ≤ count := by
  induction count generalizing tmp with
  | zero =>
      have zero : tmp = 0 := BitVec.eq_of_toNat_eq (Nat.lt_one_iff.mp fits)
      rw [continuationCount, if_pos zero]
  | succ count ih =>
      rw [continuationCount]
      split
      · exact Nat.zero_le _
      · have shifted : (tmp >>> (char.continuationBits - 1)).toNat =
            tmp.toNat / 2 ^ 5 := toNat_ushiftRight tmp 5
        refine Nat.succ_le_succ (ih ?_)
        rw [Nat.mul_add, Nat.pow_add] at fits
        rw [shifted]
        omega

/-- The bytes that continue the sequence of a code point. -/
def following (cp : BitVec 32) : Nat :=
  continuationCount char (cp >>> char.continuationBits)

theorem lt_following (cp : BitVec 32) :
    cp.toNat < 2 ^ (5 * following cp + 6) := by
  have counted := lt_continuationCount (cp >>> char.continuationBits)
  have shifted : (cp >>> char.continuationBits).toNat = cp.toNat / 2 ^ 6 :=
    toNat_ushiftRight cp 6
  rw [shifted] at counted
  rw [Nat.pow_add, following]
  omega

theorem following_le
    {cp : BitVec 32} {count : Nat}
    (fits : cp.toNat < 2 ^ (5 * count + 6)) :
    following cp ≤ count := by
  have shifted : (cp >>> char.continuationBits).toNat = cp.toNat / 2 ^ 6 :=
    toNat_ushiftRight cp 6
  refine continuationCount_le ?_
  rw [Nat.pow_add] at fits
  rw [shifted]
  omega

/-! ## The bytes -/

theorem toNat_setWidth_char (cp : BitVec 32) :
    (cp.setWidth char.bits).toNat = cp.toNat % 0x100 := by
  rw [BitVec.toNat_setWidth]
  rfl

/-- A byte that continues a sequence holds six bits. -/
theorem toNat_continuationUnit (cp : BitVec 32) (count : Nat) :
    ((char.upperBit ||| (cp >>> (count * char.continuationBits) &&&
        char.continuationMask)).setWidth char.bits).toNat =
      0x80 + cp.toNat / 2 ^ (count * 6) % 0x40 := by
  have field : (cp >>> (count * char.continuationBits) &&&
      char.continuationMask).toNat = cp.toNat / 2 ^ (count * 6) % 2 ^ 6 := by
    rw [BitVec.and_comm, CharacterType.continuationMask,
      toNat_lowBits_and (by decide), toNat_ushiftRight]
    rfl
  have upper : char.upperBit.toNat = 2 ^ 6 * 2 := rfl
  have small := Nat.mod_lt (cp.toNat / 2 ^ (count * 6)) (by decide : 0 < 2 ^ 6)
  rw [toNat_setWidth_char, BitVec.toNat_or, field, upper,
    ← Nat.two_pow_add_eq_or_of_lt small]
  generalize cp.toNat / 2 ^ (count * 6) = upper at small ⊢
  omega

/-- The six bits that are written last come from the lowest position. -/
theorem map_continuationUnits (cp : BitVec 32) (count : Nat) :
    (continuationUnits char cp count).map BitVec.toNat =
      (List.range count).reverse.map fun position =>
        0x80 + cp.toNat / 2 ^ (position * 6) % 0x40 := by
  induction count with
  | zero => rfl
  | succ count ih =>
      rw [continuationUnits, List.map_cons, toNat_continuationUnit,
        ih, List.range_succ, List.reverse_concat,
        List.map_cons]

theorem length_continuationUnits (cp : BitVec 32) (count : Nat) :
    (continuationUnits char cp count).length = count := by
  induction count with
  | zero => rfl
  | succ count ih =>
      rw [continuationUnits, List.length_cons, ih]

/-- The bytes give the value back. -/
theorem sequenceValue_continuationUnits (cp : BitVec 32) (count : Nat) :
    sequenceValue (cp.toNat / 2 ^ (count * 6))
      (continuationUnits char cp count) = cp.toNat := by
  induction count with
  | zero =>
      rw [Nat.zero_mul, Nat.pow_zero, Nat.div_one]
      rfl
  | succ count ih =>
      have next : cp.toNat / 2 ^ ((count + 1) * 6) * 64 +
          (0x80 + cp.toNat / 2 ^ (count * 6) % 0x40) % 64 =
            cp.toNat / 2 ^ (count * 6) := by
        rw [Nat.succ_mul, Nat.pow_add, ← Nat.div_div_eq_div_mul]
        omega
      rw [sequenceValue, continuationUnits, List.foldl_cons,
        toNat_continuationUnit, next]
      exact ih

variable {cp : BitVec 32}

/-- The leading byte announces the others, and holds the upper bits. -/
theorem toNat_leadingUnit
    (some : 0 < count)
    (few : count < 6)
    (fits : cp.toNat < 2 ^ (5 * count + 6)) :
    cp.toNat / 2 ^ (count * 6) < 2 ^ (6 - count) ∧
      (leadingUnit char cp count).toNat + 2 ^ (7 - count) =
        0x100 + cp.toNat / 2 ^ (count * 6) := by
  have ones : ∀ count < 6, 0 < count →
      (~~~(char.upperBit >>> count - 1#32)).toNat =
        2 ^ (7 - count) * (2 ^ (25 + count) - 1) := by
    decide
  have clear : cp.toNat / 2 ^ (count * 6) < 2 ^ (6 - count) := by
    rw [Nat.div_lt_iff_lt_mul (Nat.two_pow_pos _), ← Nat.pow_add]
    have same : 6 - count + count * 6 = 5 * count + 6 := by omega
    rw [same]
    exact fits
  have double : 2 ^ (7 - count) = 2 ^ (6 - count) * 2 := by
    rw [← Nat.pow_succ]
    congr 1
    omega
  have whole : 2 ^ (7 - count) * 2 ^ (25 + count) = 2 ^ 32 := by
    rw [← Nat.pow_add]
    congr 1
    omega
  have least : 2 ^ (7 - count) ≤ 2 ^ 6 :=
    Nat.pow_le_pow_right (by decide) (by omega)
  refine ⟨clear, ?_⟩
  rw [leadingUnit, toNat_setWidth_char, BitVec.toNat_or, ones count few some,
    toNat_ushiftRight, ← Nat.two_pow_add_eq_or_of_lt (by
      change cp.toNat / 2 ^ (count * 6) < _
      omega), Nat.mul_sub, Nat.mul_one, whole]
  change (2 ^ 32 - 2 ^ (7 - count) + cp.toNat / 2 ^ (count * 6)) % 0x100 + _ = _
  generalize cp.toNat / 2 ^ (count * 6) = upper at clear ⊢
  omega

/-! ## One character -/

/-- The code points that fit into five continuing bytes. -/
theorem following_bounds
    (upper : 0x80 ≤ cp.toNat)
    (below : cp.toNat < 2 ^ 31) :
    0 < following cp ∧ following cp < 6 := by
  have most := @following_le cp 5 below
  have fits := lt_following cp
  refine ⟨?_, by omega⟩
  rw [Nat.pos_iff_ne_zero]
  intro none
  rw [none] at fits
  change cp.toNat < 0x40 at fits
  omega

theorem writeCodePoint_single
    (below : cp.toNat < 0x80) :
    writeCodePoint char cp = [cp.setWidth char.bits] :=
  if_pos (BitVec.lt_def.mpr below)

theorem writeCodePoint_sequence
    (upper : 0x80 ≤ cp.toNat) :
    writeCodePoint char cp =
      leadingUnit char cp (following cp) ::
        continuationUnits char cp (following cp) := by
  have notBelow : ¬ cp < char.upperBit := by
    rw [BitVec.lt_def]
    exact not_lt.mpr upper
  rw [writeCodePoint, if_neg notBelow]
  rfl

/-- What is written for a code point is read again, whatever follows. -/
theorem utfToUtf_writeCodePoint
    (below : cp.toNat < 2 ^ 31)
    (rest : List char.Unit) :
    utfToUtf char wchar (writeCodePoint char cp ++ rest) =
      (utfToUtf char wchar rest).map (writeCodePoint wchar cp ++ ·) := by
  by_cases single : cp.toNat < 0x80
  · have value : (cp.setWidth char.bits).toNat = cp.toNat := by
      rw [toNat_setWidth_char]
      omega
    have read := @readCodePoint_single (cp.setWidth char.bits)
      (by rw [value]; exact single) rest
    have same : char.valueMask &&& uint32 (cp.setWidth char.bits) = cp := by
      apply BitVec.eq_of_toNat_eq
      rw [@toNat_valueMask_and char, value]
    rw [writeCodePoint_single single, List.singleton_append,
      utfToUtf_cons (congrArg Prod.snd read), read, same]
  · have upper : 0x80 ≤ cp.toNat := by omega
    obtain ⟨some, few⟩ := following_bounds upper below
    obtain ⟨clear, leads⟩ := toNat_leadingUnit some few (lt_following cp)
    have length := length_continuationUnits cp (following cp)
    have value := sequenceValue_continuationUnits cp (following cp)
    rw [writeCodePoint_sequence upper, List.cons_append]
    generalize leadingUnit char cp (following cp) = lead at leads ⊢
    generalize continuationUnits char cp (following cp) = units
      at length value ⊢
    have least : 2 ^ (7 - following cp) ≤ 2 ^ 6 :=
      Nat.pow_le_pow_right (by decide) (by omega)
    have leadUpper : 0x80 ≤ lead.toNat := by
      have positive := Nat.zero_le (cp.toNat / 2 ^ (following cp * 6))
      omega
    obtain ⟨partial', isLead, read⟩ := readCodePoint_lead leadUpper
      (units ++ rest)
    obtain ⟨dropped, taken⟩ :=
      (marked_lead few leadUpper leads clear isLead).readContinuation lead
        (units ++ rest)
    have whole := taken (by rw [List.length_append]; omega)
    rw [List.take_left' length, value, ← read] at whole
    rw [← length, ← read] at dropped
    rw [utfToUtf_sequence dropped, BitVec.eq_of_toNat_eq whole]

/-- A wide character holds any value below its upper bit. -/
theorem writeCodePoint_wchar
    (below : cp.toNat < 2 ^ 31) :
    writeCodePoint wchar cp = [cp] := by
  have single : cp < wchar.upperBit := BitVec.lt_def.mpr below
  rw [writeCodePoint, if_pos single]
  exact congrArg (fun unit => [unit]) (BitVec.setWidth_eq cp)

theorem utfToUtf_wchar
    {i : wchar.Unit}
    (below : i.toNat < 2 ^ 31)
    (rest : List wchar.Unit) :
    utfToUtf wchar char (i :: rest) =
      (utfToUtf wchar char rest).map (writeCodePoint char i ++ ·) := by
  have value : wchar.valueMask &&& uint32 i = i :=
    BitVec.eq_of_toNat_eq (toNat_valueMask_and i)
  have unmarked : wchar.valueMask &&& uint32 i &&& wchar.upperBit = 0 := by
    rw [value]
    exact @unmarked_of_lt i 31 (by decide) below
  have read : readCodePoint i rest = (i, i :: rest) := by
    rw [readCodePoint, unmarked, value]
    rfl
  rw [utfToUtf_cons (congrArg Prod.snd read), read]

variable {ucs : List wchar.Unit}

/-! ## Texts -/

theorem ucsToUtf8_eq
    (below : ∀ i ∈ ucs, i.toNat < 2 ^ 31) :
    ucsToUtf8 ucs = some (ucs.flatMap (writeCodePoint char)) := by
  induction ucs with
  | nil => exact utfToUtf_nil
  | cons i rest ih =>
      rw [List.forall_mem_cons] at below
      rw [ucsToUtf8] at ih ⊢
      rw [utfToUtf_wchar below.1, ih below.2]
      rfl

theorem utf8ToUcs_flatMap
    (below : ∀ i ∈ ucs, i.toNat < 2 ^ 31) :
    utf8ToUcs (ucs.flatMap (writeCodePoint char)) = some ucs := by
  induction ucs with
  | nil => exact utfToUtf_nil
  | cons i rest ih =>
      rw [List.forall_mem_cons] at below
      rw [utf8ToUcs] at ih ⊢
      rw [List.flatMap_cons, utfToUtf_writeCodePoint below.1,
        ih below.2, writeCodePoint_wchar below.1]
      rfl

/-- The shortest sequence of bytes for a value, row by row.  Four rows hold the
code points up to `0x10FFFF`. -/
def shortestUtf8 (cp : Nat) : List Nat :=
  if cp < 0x80 then [cp]
  else if cp < 0x800 then [0xC0 + cp / 0x40, 0x80 + cp % 0x40]
  else if cp < 0x10000 then
    [0xE0 + cp / 0x1000, 0x80 + cp / 0x40 % 0x40, 0x80 + cp % 0x40]
  else if cp < 0x200000 then
    [0xF0 + cp / 0x40000, 0x80 + cp / 0x1000 % 0x40, 0x80 + cp / 0x40 % 0x40,
      0x80 + cp % 0x40]
  else if cp < 0x4000000 then
    [0xF8 + cp / 0x1000000, 0x80 + cp / 0x40000 % 0x40,
      0x80 + cp / 0x1000 % 0x40, 0x80 + cp / 0x40 % 0x40, 0x80 + cp % 0x40]
  else
    [0xFC + cp / 0x40000000, 0x80 + cp / 0x1000000 % 0x40,
      0x80 + cp / 0x40000 % 0x40, 0x80 + cp / 0x1000 % 0x40,
      0x80 + cp / 0x40 % 0x40, 0x80 + cp % 0x40]

/-- A sequence of a given length. -/
theorem writeCodePoint_length
    {cp : BitVec 32} {count : Nat}
    (some : 0 < count)
    (few : count < 6)
    (least : 2 ^ (5 * (count - 1) + 6) ≤ cp.toNat)
    (atLeast : 0x80 ≤ cp.toNat)
    (fits : cp.toNat < 2 ^ (5 * count + 6)) :
    (writeCodePoint char cp).map BitVec.toNat =
      (0x100 - 2 ^ (7 - count) + cp.toNat / 2 ^ (count * 6)) ::
        (List.range count).reverse.map fun position =>
          0x80 + cp.toNat / 2 ^ (position * 6) % 0x40 := by
  have most := following_le fits
  have enough : count ≤ following cp := by
    by_contra fewer
    have below := lt_following cp
    have power : 2 ^ (5 * following cp + 6) ≤ 2 ^ (5 * (count - 1) + 6) :=
      Nat.pow_le_pow_right (by decide) (by omega)
    omega
  have same : following cp = count := le_antisymm most enough
  have leads := (toNat_leadingUnit some few fits).2
  have small : 2 ^ (7 - count) ≤ 2 ^ 6 :=
    Nat.pow_le_pow_right (by decide) (by omega)
  rw [writeCodePoint_sequence atLeast, same, List.map_cons,
    map_continuationUnits]
  congr 1
  generalize cp.toNat / 2 ^ (count * 6) = upper at leads ⊢
  omega

theorem writeCodePoint_eq_shortestUtf8
    (below : cp.toNat < 2 ^ 31) :
    (writeCodePoint char cp).map BitVec.toNat = shortestUtf8 cp.toNat := by
  unfold shortestUtf8
  split
  next single =>
    rw [writeCodePoint_single single, List.map_singleton, toNat_setWidth_char,
      Nat.mod_eq_of_lt (by omega)]
  next more =>
    split
    next two =>
      rw [@writeCodePoint_length cp 1 (by decide) (by decide) (by omega)
        (by omega) two]
      simp [List.range_succ]
    next =>
      split
      next three =>
        rw [@writeCodePoint_length cp 2 (by decide) (by decide) (by omega)
          (by omega) three]
        simp [List.range_succ]
      next =>
        split
        next four =>
          rw [@writeCodePoint_length cp 3 (by decide) (by decide) (by omega)
            (by omega) four]
          simp [List.range_succ]
        next =>
          split
          next five =>
            rw [@writeCodePoint_length cp 4 (by decide) (by decide) (by omega)
              (by omega) five]
            simp [List.range_succ]
          next =>
            rw [@writeCodePoint_length cp 5 (by decide) (by decide) (by omega)
              (by omega) below]
            simp [List.range_succ]

/-- A text of wide characters below the upper bit is converted to the shortest
sequences of bytes, and back to itself. -/
theorem utf_roundTrip
    (ucs : List wchar.Unit)
    (below : ∀ i ∈ ucs, i.toNat < 2 ^ 31) :
    ∃ utf, ucsToUtf8 ucs = some utf ∧
      utf8ToUcs utf = some ucs ∧
      utf.map BitVec.toNat = ucs.flatMap fun i => shortestUtf8 i.toNat := by
  refine ⟨_, ucsToUtf8_eq below, utf8ToUcs_flatMap below, ?_⟩
  rw [List.map_flatMap, List.flatMap_def, List.flatMap_def]
  refine congrArg List.flatten (List.map_congr_left ?_)
  intro i member
  exact writeCodePoint_eq_shortestUtf8 (below i member)

/-- A letter, a currency sign and the last code point. -/
theorem utf_roundTrip_letters :
    ∃ utf, ucsToUtf8 [0xE4#32, 0x20AC#32, 0x10FFFF#32] = some utf ∧
      utf8ToUcs utf = some [0xE4#32, 0x20AC#32, 0x10FFFF#32] ∧
      utf.map BitVec.toNat =
        [0xC3, 0xA4, 0xE2, 0x82, 0xAC, 0xF4, 0x8F, 0xBF, 0xBF] :=
  utf_roundTrip [0xE4#32, 0x20AC#32, 0x10FFFF#32] (by simp)

end StringUtils
end OpenRTI
