import OpenRTI.Encoding.Buffer

/-!
# What encoders write and decoders read

An encoder that writes given octets does so at any offset of any buffer with room
for them, and a decoder reads them wherever they are.
-/

namespace OpenRTI
namespace Encoding

open Foundation (Octet)
open Foundation.Octets

/-! ## Contents of buffers -/

/-- Octets have replaced what was there from an offset on. -/
def Wrote
    (octets : List Octet)
    (before : Buffer)
    (offset : Nat)
    (after : Buffer) : Prop :=
  after.octets = before.octets.take offset ++ octets ++
    before.octets.drop (offset + octets.length)

/-- Octets are in a buffer from an index on. -/
def Holds (buffer : Buffer) (index : Nat) (octets : List Octet) : Prop :=
  index ≤ buffer.bufferSize ∧ ∃ rest, buffer.octets.drop index = octets ++ rest

theorem Wrote.nil (buffer : Buffer) (offset : Nat) :
    Wrote [] buffer offset buffer := by
  simp [Wrote]

variable {before after : Buffer} {offset : Nat}

theorem Wrote.append
    {first second : List Octet} {between : Buffer}
    (firstWrote : Wrote first before offset between)
    (secondWrote : Wrote second between (offset + first.length) after)
    (inside : offset ≤ before.bufferSize) :
    Wrote (first ++ second) before offset after := by
  have front : (before.octets.take offset ++ first).length =
      offset + first.length := by
    rw [List.length_append, List.length_take_of_le inside]
  have kept : between.octets.take (offset + first.length) =
      before.octets.take offset ++ first := by
    rw [firstWrote, List.take_left' front]
  have rest : between.octets.drop (offset + first.length + second.length) =
      before.octets.drop (offset + first.length + second.length) := by
    rw [firstWrote, ← List.drop_drop, List.drop_left' front, List.drop_drop]
  rw [Wrote, secondWrote, kept, rest]
  simp only [List.length_append, List.append_assoc, Nat.add_assoc]

variable {octets : List Octet}

/-- Writing inside of a buffer leaves its size. -/
theorem Wrote.bufferSize
    (wrote : Wrote octets before offset after)
    (inside : offset + octets.length ≤ before.bufferSize) :
    after.bufferSize = before.bufferSize := by
  unfold Buffer.bufferSize at inside ⊢
  rw [wrote]
  simp only [List.length_append, List.length_take, List.length_drop]
  omega

variable {index : Nat}

/-- Only the octets from the offset on that are written change. -/
theorem Wrote.elsewhere
    (wrote : Wrote octets before offset after)
    (inside : offset + octets.length ≤ before.bufferSize)
    (outside : index < offset ∨ offset + octets.length ≤ index) :
    after.octets[index]? = before.octets[index]? := by
  unfold Buffer.bufferSize at inside
  rw [wrote]
  obtain below | above := outside
  · rw [List.append_assoc, List.getElem?_append_left
      (by simp only [List.length_take]; omega), List.getElem?_take_of_lt below]
  · rw [List.getElem?_append_right
      (by simp only [List.length_append, List.length_take]; omega),
      List.getElem?_drop]
    congr 1
    simp only [List.length_append, List.length_take]
    omega

variable {buffer : Buffer}

theorem Holds.length_le
    (holds : Holds buffer index octets) :
    index + octets.length ≤ buffer.bufferSize := by
  obtain ⟨inside, rest, found⟩ := holds
  have length := congrArg List.length found
  rw [List.length_drop, List.length_append] at length
  unfold Buffer.bufferSize at inside ⊢
  omega

theorem holds_append
    {first second : List Octet} :
    Holds buffer index (first ++ second) ↔
      Holds buffer index first ∧
        Holds buffer (index + first.length) second := by
  constructor
  · rintro ⟨inside, rest, found⟩
    have front : Holds buffer index first :=
      ⟨inside, second ++ rest, by rw [found, List.append_assoc]⟩
    refine ⟨front, front.length_le, rest, ?_⟩
    rw [← List.drop_drop, found, List.append_assoc, List.drop_left]
  · rintro ⟨⟨inside, rest, found⟩, _, later, next⟩
    refine ⟨inside, later, ?_⟩
    rw [← List.drop_drop, found, List.drop_left] at next
    rw [found, next, List.append_assoc]

theorem Wrote.holds
    (wrote : Wrote octets before offset after)
    (inside : offset + octets.length ≤ before.bufferSize) :
    Holds after offset octets := by
  have size := wrote.bufferSize inside
  have start : (before.octets.take offset).length = offset :=
    List.length_take_of_le (by unfold Buffer.bufferSize at inside; omega)
  refine ⟨by omega, before.octets.drop (offset + octets.length), ?_⟩
  rw [wrote, List.append_assoc, List.drop_append_of_le_length (by omega),
    List.drop_of_length_le (by omega), List.nil_append]

/-! ## Encoders -/

/-- An encoder writes given octets wherever there is room for them. -/
def Encodes (encoder : Encoder) (octets : List Octet) : Prop :=
  ∀ before offset, offset + octets.length ≤ before.bufferSize →
    ∃ after,
      encoder before offset = .ok (after, offset + octets.length) ∧
        Wrote octets before offset after

variable {width : Nat}

theorem require_eq_ok
    (room : offset + width ≤ buffer.bufferSize)
    (what : String) :
    require buffer offset width what = .ok () := by
  have addressable := buffer.addressable
  have room' := room
  unfold Buffer.bufferSize at room'
  have sum : sizeSum offset width = .ok (offset + width) :=
    if_pos (by omega)
  rw [require, sum]
  exact if_neg (Nat.not_lt.mpr room)

theorem Encodes.andThen
    {first second : Encoder} {firstOctets secondOctets : List Octet}
    (firstEncodes : Encodes first firstOctets)
    (secondEncodes : Encodes second secondOctets) :
    Encodes (first.andThen second) (firstOctets ++ secondOctets) := by
  intro before offset room
  rw [List.length_append] at room
  obtain ⟨between, firstRan, firstWrote⟩ :=
    firstEncodes before offset (by omega)
  have size := firstWrote.bufferSize (by omega)
  obtain ⟨after, secondRan, secondWrote⟩ :=
    secondEncodes between (offset + firstOctets.length) (by omega)
  refine ⟨after, ?_, firstWrote.append secondWrote (by omega)⟩
  rw [List.length_append, ← Nat.add_assoc, ← secondRan, Encoder.andThen,
    firstRan]
  rfl

theorem write_eq_ok
    (inside : offset < before.bufferSize)
    (octet : Octet) :
    ∃ after,
      before.write offset octet = .ok after ∧
        Wrote [octet] before offset after := by
  refine ⟨_, if_pos inside, ?_⟩
  rw [Wrote]
  simp only [List.set_eq_take_append_cons_drop, List.length_singleton,
    List.append_assoc, List.singleton_append]
  exact if_pos inside

theorem encodes_writeAll (octets : List Octet) :
    Encodes (writeAll octets) octets := by
  induction octets with
  | nil =>
      intro before offset _
      exact ⟨before, rfl, .nil before offset⟩
  | cons octet rest ih =>
      intro before offset room
      rw [List.length_cons] at room
      obtain ⟨between, wrote, wroteHead⟩ :=
        write_eq_ok (by omega : offset < before.bufferSize) octet
      have size := wroteHead.bufferSize
        (by simp only [List.length_singleton]; omega)
      obtain ⟨after, ran, wroteRest⟩ :=
        ih between (offset + 1) (by omega)
      refine ⟨after, ?_, wroteHead.append wroteRest (by omega)⟩
      rw [writeAll, wrote, List.length_cons, Nat.add_comm rest.length,
        ← Nat.add_assoc, ← ran]
      rfl

theorem encodes_checked
    (width : Nat)
    (length : octets.length = width) :
    Encodes
      (fun buffer offset => do
        require buffer offset width tooSmall
        writeAll octets buffer offset)
      octets := by
  intro before offset room
  obtain ⟨after, ran, wrote⟩ := encodes_writeAll octets before offset room
  refine ⟨after, ?_, wrote⟩
  rw [length] at room
  change (require before offset width tooSmall >>= fun _ =>
    writeAll octets before offset) = _
  rw [require_eq_ok room]
  exact ran

theorem encodes_encodeIntoLE (width value : Nat) :
    Encodes (encodeIntoLE width value) (littleEndian width value) :=
  encodes_checked width (length_littleEndian width value)

theorem encodes_encodeIntoBE (width value : Nat) :
    Encodes (encodeIntoBE width value) (bigEndian width value) :=
  encodes_checked width (length_bigEndian width value)

theorem encodes_encodeGroups (groups value : Nat) :
    Encodes (encodeGroups groups value) (compress groups value) := by
  induction groups generalizing value with
  | zero =>
      intro before offset room
      obtain ⟨after, wrote, wroteLast⟩ := write_eq_ok
        (Nat.lt_of_succ_le room) (BitVec.ofNat 8 value)
      refine ⟨after, ?_, wroteLast⟩
      rw [encodeGroups, wrote]
      rfl
  | succ groups ih =>
      intro before offset room
      rw [compress] at room ⊢
      rw [encodeGroups]
      split
      next last =>
        rw [if_pos last] at room
        obtain ⟨after, wrote, wroteLast⟩ := write_eq_ok
          (Nat.lt_of_succ_le room) (BitVec.ofNat 8 value)
        refine ⟨after, ?_, wroteLast⟩
        rw [wrote]
        rfl
      next marked =>
        rw [if_neg marked, List.length_cons] at room
        rw [if_neg (by omega : ¬before.bufferSize ≤ offset)]
        obtain ⟨between, wrote, wroteHead⟩ := write_eq_ok
          (by omega : offset < before.bufferSize)
          (BitVec.ofNat 8 (128 ||| (value % 128)))
        have size := wroteHead.bufferSize
          (by simp only [List.length_singleton]; omega)
        obtain ⟨after, ran, wroteRest⟩ :=
          ih (value >>> 7) between (offset + 1) (by omega)
        refine ⟨after, ?_, wroteHead.append wroteRest (by omega)⟩
        rw [wrote, List.length_cons, Nat.add_comm (compress _ _).length,
          ← Nat.add_assoc, ← ran]
        rfl

theorem encodes_encodeIntoBE32Compressed (value : BitVec 32) :
    Encodes (encodeIntoBE32Compressed value) (compress 4 value.toNat) := by
  intro before offset room
  have positive := one_le_compressedLength 4 value.toNat
  rw [← length_compress] at positive
  rw [encodeIntoBE32Compressed,
    if_neg (by omega : ¬before.bufferSize ≤ offset)]
  exact encodes_encodeGroups 4 value.toNat before offset room

/-! ## Decoders -/

/-- A decoder reads a good value from given octets wherever they are. -/
def Decodes
    {α : Type}
    (decoder : Decoder α)
    (octets : List Octet)
    (good : α → Prop) : Prop :=
  ∀ buffer index, Holds buffer index octets →
    ∃ value,
      decoder buffer index = .ok (value, index + octets.length) ∧ good value

theorem readAll_eq_ok
    (holds : Holds buffer index octets) :
    readAll octets.length buffer index =
      .ok (octets, index + octets.length) := by
  induction octets generalizing index with
  | nil => rfl
  | cons octet rest ih =>
      obtain ⟨inside, others, found⟩ := holds
      have here : buffer.octets[index]? = some octet := by
        have first := congrArg (fun octets => octets[0]?) found
        simpa using first
      have next : Holds buffer (index + 1) rest :=
        (holds_append.mp (show Holds buffer index ([octet] ++ rest) from
          ⟨inside, others, found⟩)).2
      rw [List.length_cons, readAll, Buffer.read, here]
      simp only [bind, Except.bind]
      rw [ih next]
      simp only [Nat.add_comm rest.length, ← Nat.add_assoc]

theorem Holds.require
    (holds : Holds buffer index octets) (what : String) :
    require buffer index octets.length what = .ok () :=
  require_eq_ok holds.length_le what

theorem sizeSum_of_holds
    (holds : Holds buffer index octets) (length : BitVec 32) :
    sizeSum index length.toNat = .ok (index + length.toNat) := by
  have least := holds.length_le
  have addressable := buffer.addressable
  have small := length.isLt
  unfold Buffer.bufferSize at least
  exact if_pos (by omega)

/-- A decoder of numbers reads octets of its width. -/
theorem decodes_checked
    (number : List Octet → Nat) (octets : List Octet) :
    Decodes
      (fun buffer offset => do
        require buffer offset octets.length tooSmall
        let (octets, offset) ← readAll octets.length buffer offset
        .ok (number octets, offset))
      octets (· = number octets) := by
  intro buffer index holds
  refine ⟨number octets, ?_, rfl⟩
  change (require buffer index octets.length tooSmall >>= fun _ =>
    readAll octets.length buffer index >>= fun read =>
      Except.ok (number read.1, read.2)) = _
  rw [holds.require, readAll_eq_ok holds]
  rfl

theorem Decodes.asBits
    {decoder : Decoder Nat} {bits : Nat}
    {value : BitVec bits}
    (decodes : Decodes decoder octets (· = value.toNat)) :
    Decodes (asBits bits decoder) octets (· = value) := by
  intro buffer index holds
  obtain ⟨_, ran, rfl⟩ := decodes buffer index holds
  refine ⟨value, ?_, rfl⟩
  rw [Encoding.asBits, ran]
  simp only [bind, Except.bind, BitVec.ofNat_toNat, BitVec.setWidth_eq]

variable {value : Nat}

theorem decodes_decodeFromLE
    (small : value < 256 ^ width) :
    Decodes (decodeFromLE width) (littleEndian width value) (· = value) := by
  have length := length_littleEndian width value
  have decodes := decodes_checked ofLittleEndian (littleEndian width value)
  rwa [length, ofLittleEndian_littleEndian_of_lt small] at decodes

theorem decodes_decodeFromBE
    (small : value < 256 ^ width) :
    Decodes (decodeFromBE width) (bigEndian width value) (· = value) := by
  have length := length_bigEndian width value
  have decodes := decodes_checked ofBigEndian (bigEndian width value)
  rwa [length, ofBigEndian_bigEndian_of_lt small] at decodes

theorem decodes_decodeFromBE32 (value : BitVec 32) :
    Decodes decodeFromBE32 (bigEndian 4 value.toNat) (· = value) :=
  (decodes_decodeFromBE value.isLt).asBits

/-- A group that fits is added. -/
theorem merge_group
    {shift group low : Nat}
    (position : shift ≤ 32)
    (small : group < 2 ^ (32 - shift))
    (lowSmall : low < 2 ^ shift) :
    low ||| (group <<< shift) % 2 ^ 32 = low + group * 2 ^ shift := by
  have bound : group <<< shift < 2 ^ 32 := by
    have shifts : 2 ^ 32 = 2 ^ (32 - shift) * 2 ^ shift := by
      rw [← Nat.pow_add]
      congr 1
      omega
    rw [Nat.shiftLeft_eq, shifts]
    exact Nat.mul_lt_mul_of_pos_right small (Nat.two_pow_pos shift)
  rw [Nat.mod_eq_of_lt bound, or_shiftLeft_eq lowSmall]

/-- The groups of a number, above what has been read already. -/
theorem decodeGroups_compress
    {groups shift : Nat}
    (position : shift + 7 * groups = 28)
    (small : value < 2 ^ (32 - shift))
    {low : Nat}
    (lowSmall : low < 2 ^ shift)
    (rest : List Octet) (offset : Nat) :
    decodeGroups (compress groups value ++ rest) shift low offset =
      .ok (low + value * 2 ^ shift,
        offset + compressedLength groups value) := by
  induction groups generalizing shift value low offset with
  | zero =>
      obtain rfl : shift = 28 := by omega
      have least : value < 128 := by omega
      have octet : (BitVec.ofNat 8 value).toNat = value := by
        rw [toNat_ofNat, Nat.mod_eq_of_lt (by omega)]
      rw [compress, List.singleton_append, decodeGroups, if_neg (by decide),
        octet, if_pos least, Nat.mod_eq_of_lt least,
        merge_group (by decide) small lowSmall]
      rfl
  | succ groups ih =>
      rw [compress, compressedLength]
      split
      next least =>
        have octet : (BitVec.ofNat 8 value).toNat = value := by
          rw [toNat_ofNat, Nat.mod_eq_of_lt (by omega)]
        rw [List.singleton_append, decodeGroups, if_neg (by omega), octet,
          if_pos least, Nat.mod_eq_of_lt least,
          merge_group (by omega) small lowSmall]
      next marked =>
        have mark : 128 ||| (value % 128) = 128 + value % 128 := by
          have add := Nat.two_pow_add_eq_or_of_lt
            (Nat.mod_lt value (by decide : 0 < 2 ^ 7)) 1
          simpa using add.symm
        have octet :
            (BitVec.ofNat 8 (128 ||| (value % 128))).toNat =
              128 + value % 128 := by
          rw [toNat_ofNat, mark, Nat.mod_eq_of_lt (by omega)]
        have group : (128 + value % 128) % 128 = value % 128 := by omega
        have shifted : value >>> 7 = value / 128 :=
          Nat.shiftRight_eq_div_pow value 7
        have next : 2 ^ (shift + 7) = 128 * 2 ^ shift := by
          rw [Nat.pow_add, Nat.mul_comm]
        have width : 2 ^ (32 - shift) = 128 * 2 ^ (32 - (shift + 7)) := by
          have same : 32 - shift = 7 + (32 - (shift + 7)) := by omega
          rw [same, Nat.pow_add]
        have part : value % 128 < 2 ^ (32 - shift) :=
          lt_of_le_of_lt (Nat.mod_le value 128) small
        have low' : low + value % 128 * 2 ^ shift < 2 ^ (shift + 7) := by
          have most : value % 128 * 2 ^ shift ≤ 127 * 2 ^ shift :=
            Nat.mul_le_mul_right _ (by omega)
          omega
        rw [List.cons_append, decodeGroups, if_neg (by omega), octet,
          if_neg (by omega), group, merge_group (by omega) part lowSmall,
          ih (by omega) (by rw [shifted]; omega) low',
          shifted, next]
        congr 2
        · have split := Nat.div_add_mod value 128
          calc low + value % 128 * 2 ^ shift + value / 128 * (128 * 2 ^ shift)
              = low + (128 * (value / 128) + value % 128) * 2 ^ shift := by ring
            _ = low + value * 2 ^ shift := by rw [split]
        · omega

theorem decodes_decodeFromBE32Compressed (value : BitVec 32) :
    Decodes decodeFromBE32Compressed (compress 4 value.toNat) (· = value) := by
  apply Decodes.asBits
  rintro buffer index ⟨_, rest, found⟩
  refine ⟨value.toNat, ?_, rfl⟩
  change decodeGroups (buffer.octets.drop index) 0 0 index = _
  rw [found, decodeGroups_compress rfl (by simpa using value.isLt) (by simp)
    rest index, length_compress]
  simp

end Encoding
end OpenRTI
