import OpenRTI.Foundation.Octets

/-!
# Compressed integers in data streams

The streams that messages are encoded in write an integer as groups of seven
bits, the least significant group first, with a mark on all groups but the last.
The reader takes groups for as long as they are marked.
-/

namespace OpenRTI
namespace DataStream

open Foundation (Octet)
open Foundation.Octets

/-- What ends a read early: an exception, or a shift by the width of the shifted
number or more. -/
inductive Failure
  | rtiInternalError (reason : String)
  | undefined
  deriving DecidableEq

/-- The types that compressed integers are read and written as. -/
inductive UnsignedType
  | uint8
  | uint16
  | uint32
  | uint64
  deriving DecidableEq

namespace UnsignedType

/-- Number of bits of a value. -/
def digits : UnsignedType → Nat
  | uint8 => 8
  | uint16 => 16
  | uint32 => 32
  | uint64 => 64

/-- Number of bits of what is shifted, which is at least an `int`. -/
def promotedDigits (type : UnsignedType) : Nat :=
  max 32 type.digits

theorem eight_le_digits (type : UnsignedType) : 8 ≤ type.digits := by
  cases type <;> decide

theorem digits_le_promotedDigits (type : UnsignedType) :
    type.digits ≤ type.promotedDigits :=
  le_max_right 32 type.digits

end UnsignedType

/-! ## Groups of seven bits -/

/-- Whether another group follows. -/
def isMarked (octet : Octet) : Bool :=
  octet &&& 0x80 ≠ 0

/-- The seven bits of a group. -/
def group (octet : Octet) : Nat :=
  (octet &&& 0x7f).toNat

theorem isMarked_iff (octet : Octet) :
    isMarked octet = true ↔ 128 ≤ octet.toNat := by
  revert octet
  decide

theorem group_eq (octet : Octet) : group octet = octet.toNat % 128 := by
  rw [group, BitVec.toNat_and]
  exact Nat.and_two_pow_sub_one_eq_mod octet.toNat 7

theorem group_lt (octet : Octet) : group octet < 2 ^ 7 := by
  rw [group_eq]
  exact Nat.mod_lt _ (by decide)

/-- The number whose groups are given, the least significant one first. -/
def payload : List Octet → Nat
  | [] => 0
  | octet :: rest => group octet + 2 ^ 7 * payload rest

/-- The first groups of a number of a greater shift. -/
theorem add_payload_cons
    (value shift : Nat) (octet : Octet) (rest : List Octet) :
    value + 2 ^ shift * payload (octet :: rest) =
      value + group octet * 2 ^ shift + 2 ^ (shift + 7) * payload rest := by
  rw [payload, Nat.pow_add]
  ring

/-! ## Reading -/

/-- A packet and the offset to read from. -/
structure DecodeDataStream where
  variableLengthData : List Octet
  offset : Nat
  deriving DecidableEq

def readingBeyondTheEnd : Failure :=
  .rtiInternalError "Reading beyond the end of the packet"

/-- The groups after the first one.  The octets that are left come first, then
the octet read last. -/
def readGroups (type : UnsignedType) :
    List Octet → Octet → Nat → Nat → Nat → Except Failure (Nat × Nat)
  | rest, byte, shift, value, offset =>
      if isMarked byte then
        match rest with
        | [] => .error readingBeyondTheEnd
        | byte :: rest =>
            if type.promotedDigits ≤ shift then .error .undefined
            else
              readGroups type rest byte (shift + 7)
                (value ||| (group byte <<< shift) % 2 ^ type.digits)
                (offset + 1)
      else .ok (value, offset)

/-- Read a value and return it with the offset after it. -/
def DecodeDataStream.readTemplateCompressed
    (self : DecodeDataStream)
    (type : UnsignedType) : Except Failure (Nat × Nat) :=
  match self.variableLengthData.drop self.offset with
  | [] => .error readingBeyondTheEnd
  | byte :: rest =>
      readGroups type rest byte 7 (group byte) (self.offset + 1)

/-- One more group of a value of which the lower part is known. -/
theorem or_group_mod
    {value shift : Nat}
    (small : value < 2 ^ shift)
    (octet : Octet) (digits : Nat) :
    value % 2 ^ digits ||| (group octet <<< shift) % 2 ^ digits =
      (value + group octet * 2 ^ shift) % 2 ^ digits := by
  rw [← Nat.or_mod_two_pow, or_shiftLeft_eq small]

theorem add_group_lt
    {value shift : Nat}
    (small : value < 2 ^ shift)
    (octet : Octet) :
    value + group octet * 2 ^ shift < 2 ^ (shift + 7) := by
  have groupSmall := group_lt octet
  calc
    value + group octet * 2 ^ shift < 2 ^ shift + group octet * 2 ^ shift :=
      Nat.add_lt_add_right small _
    _ = (group octet + 1) * 2 ^ shift := by ring
    _ ≤ 2 ^ 7 * 2 ^ shift := Nat.mul_le_mul_right _ groupSmall
    _ = 2 ^ (shift + 7) := by rw [Nat.pow_add, Nat.mul_comm]

/-- The groups that a read takes: those up to the first one without a mark. -/
def groupsAt : List Octet → List Octet
  | [] => []
  | octet :: rest =>
      if isMarked octet then octet :: groupsAt rest else [octet]

/-- Whether the groups end before the packet does. -/
def isTerminated (octets : List Octet) : Bool :=
  octets.any fun octet => !isMarked octet

/-- The first octet is always taken. -/
theorem groupsAt_cons
    (octet : Octet) (rest : List Octet) :
    ∃ following, groupsAt (octet :: rest) = octet :: following := by
  rw [groupsAt]
  split
  · exact ⟨_, rfl⟩
  · exact ⟨_, rfl⟩

/-- What reading the groups after the first one comes to.  The induction is on
the octets that are left. -/
theorem readGroups_eq
    (type : UnsignedType) (rest : List Octet) (byte : Octet)
    {shift value : Nat}
    (small : value < 2 ^ shift)
    (offset : Nat) :
    readGroups type rest byte shift (value % 2 ^ type.digits) offset =
      if 0 < (groupsAt (byte :: rest)).tail.length ∧
          type.promotedDigits + 7 ≤
            shift + 7 * (groupsAt (byte :: rest)).tail.length then
        .error .undefined
      else if isTerminated (byte :: rest) then
        .ok
          ((value + 2 ^ shift * payload (groupsAt (byte :: rest)).tail) %
              2 ^ type.digits,
            offset + (groupsAt (byte :: rest)).tail.length)
      else .error readingBeyondTheEnd := by
  induction rest generalizing byte shift value offset with
  | nil =>
      rw [readGroups]
      by_cases marked : isMarked byte = true
      · simp [marked, groupsAt, isTerminated]
      · simp [marked, groupsAt, isTerminated, payload]
  | cons next rest ih =>
      rw [readGroups]
      by_cases marked : isMarked byte = true
      · have taken : groupsAt (byte :: next :: rest) =
            byte :: groupsAt (next :: rest) := by
          rw [groupsAt, if_pos marked]
        have terminated : isTerminated (byte :: next :: rest) =
            isTerminated (next :: rest) := by
          simp [isTerminated, marked]
        obtain ⟨following, groups⟩ := groupsAt_cons next rest
        have later := fun {value : Nat} (small : value < 2 ^ (shift + 7)) =>
          @ih next (shift + 7) value small (offset + 1)
        rw [if_pos marked, taken, terminated, List.tail_cons, groups,
          add_payload_cons, List.length_cons]
        rw [groups, List.tail_cons] at later
        split
        next excessive =>
          rw [if_pos]
          omega
        next notExcessive =>
          rw [or_group_mod small, later (add_group_lt small next)]
          by_cases excessive :
              0 < following.length ∧
                type.promotedDigits + 7 ≤ shift + 7 + 7 * following.length
          · rw [if_pos excessive, if_pos]
            omega
          · have within :
                ¬ (0 < following.length + 1 ∧
                  type.promotedDigits + 7 ≤
                    shift + 7 * (following.length + 1)) := by
              omega
            have sameOffset :
                offset + 1 + following.length =
                  offset + (following.length + 1) := by
              omega
            rw [if_neg excessive, if_neg within, sameOffset]
      · simp [marked, groupsAt, isTerminated, payload]

/-- What a read comes to. -/
theorem readTemplateCompressed_eq
    (self : DecodeDataStream) (type : UnsignedType) :
    self.readTemplateCompressed type =
      let octets := self.variableLengthData.drop self.offset
      if type.promotedDigits ≤ 7 * ((groupsAt octets).length - 1) then
        .error .undefined
      else if isTerminated octets then
        .ok (payload (groupsAt octets) % 2 ^ type.digits,
          self.offset + (groupsAt octets).length)
      else .error readingBeyondTheEnd := by
  unfold DecodeDataStream.readTemplateCompressed
  dsimp only
  cases self.variableLengthData.drop self.offset with
  | nil =>
      cases type <;> rfl
  | cons byte rest =>
      have small : group byte < 2 ^ 7 := group_lt byte
      have fits : group byte % 2 ^ type.digits = group byte :=
        Nat.mod_eq_of_lt (small.trans
          (Nat.pow_lt_pow_right (by decide) type.eight_le_digits))
      have read := readGroups_eq type rest byte small (self.offset + 1)
      obtain ⟨following, groups⟩ := groupsAt_cons byte rest
      rw [fits, groups, List.tail_cons] at read
      refine read.trans ?_
      rw [groups, List.length_cons, Nat.add_sub_cancel]
      by_cases excessive : type.promotedDigits ≤ 7 * following.length
      · have positive := type.digits_le_promotedDigits
        have eight := type.eight_le_digits
        rw [if_pos excessive, if_pos]
        omega
      · rw [if_neg excessive, if_neg, Nat.add_assoc, Nat.add_comm 1, payload]
        omega

/-! ## Writing -/

/-- A packet that is written, and the offset to write at. -/
structure EncodeDataStream where
  variableLengthData : List Octet
  offset : Nat
  /-- Seeking resizes the packet. -/
  within : offset ≤ variableLengthData.length

namespace EncodeDataStream

/-- Write one octet; the packet is resized where it ends at the offset. -/
def writeUInt8BE
    (self : EncodeDataStream)
    (value : Octet) : EncodeDataStream where
  variableLengthData :=
    if self.variableLengthData.length < self.offset + 1 then
      self.variableLengthData ++ [value]
    else self.variableLengthData.set self.offset value
  offset := self.offset + 1
  within := by
    have within := self.within
    split
    · simp
      omega
    · simp
      omega

/-- Write the groups of a value. -/
def writeTemplateCompressed
    (self : EncodeDataStream)
    (value : Nat) : EncodeDataStream :=
  if value < 128 then self.writeUInt8BE (BitVec.ofNat 8 value)
  else
    (self.writeUInt8BE (0x80 ||| (0x7f &&& BitVec.ofNat 8 value)))
      |>.writeTemplateCompressed (value >>> 7)
termination_by value
decreasing_by
  rw [Nat.shiftRight_eq_div_pow]
  omega

/-- The packet after some octets are written. -/
def Writes
    (self after : EncodeDataStream)
    (octets : List Octet) : Prop :=
  after.variableLengthData =
      self.variableLengthData.take self.offset ++ octets ++
        self.variableLengthData.drop (self.offset + octets.length) ∧
    after.offset = self.offset + octets.length

theorem writes_writeUInt8BE
    (self : EncodeDataStream) (value : Octet) :
    self.Writes (self.writeUInt8BE value) [value] := by
  refine ⟨?_, rfl⟩
  have within := self.within
  unfold writeUInt8BE
  dsimp only
  split
  next atEnd =>
    have isEnd : self.variableLengthData.length = self.offset := by omega
    rw [List.take_of_length_le isEnd.le,
      List.drop_eq_nil_of_le (by simp; omega), List.append_nil]
  next inside =>
    rw [List.set_eq_take_append_cons_drop, if_pos (by omega)]
    simp

theorem Writes.append
    {self middle after : EncodeDataStream} {first second : List Octet}
    (writesFirst : self.Writes middle first)
    (writesSecond : middle.Writes after second) :
    self.Writes after (first ++ second) := by
  obtain ⟨firstData, firstOffset⟩ := writesFirst
  obtain ⟨secondData, secondOffset⟩ := writesSecond
  have within := self.within
  constructor
  · rw [secondData, firstOffset, firstData, List.length_append]
    have taken : (self.variableLengthData.take self.offset).length =
        self.offset := List.length_take_of_le within
    have prefixLength :
        (self.variableLengthData.take self.offset ++ first).length =
          self.offset + first.length := by
      rw [List.length_append, taken]
    rw [List.take_left' prefixLength, ← List.drop_drop,
      List.drop_left' prefixLength, List.drop_drop]
    simp only [List.append_assoc, Nat.add_assoc]
  · rw [secondOffset, firstOffset, List.length_append, Nat.add_assoc]

end EncodeDataStream

/-- The groups of a number. -/
def groups (value : Nat) : List Octet :=
  if value < 128 then [BitVec.ofNat 8 value]
  else (0x80 ||| (0x7f &&& BitVec.ofNat 8 value)) :: groups (value >>> 7)
termination_by value
decreasing_by
  rw [Nat.shiftRight_eq_div_pow]
  omega

theorem writes_writeTemplateCompressed
    (self : EncodeDataStream) (value : Nat) :
    self.Writes (self.writeTemplateCompressed value) (groups value) := by
  induction value using Nat.strongRecOn generalizing self with
  | ind value ih =>
      rw [EncodeDataStream.writeTemplateCompressed, groups]
      split
      · exact self.writes_writeUInt8BE _
      next large =>
        have smaller : value >>> 7 < value := by
          rw [Nat.shiftRight_eq_div_pow]
          omega
        exact (self.writes_writeUInt8BE _).append
          (ih _ smaller _)

/-- The mark of a group is apart from its bits. -/
theorem mark_group (value : Nat) :
    isMarked (0x80 ||| (0x7f &&& BitVec.ofNat 8 value)) = true ∧
      group (0x80 ||| (0x7f &&& BitVec.ofNat 8 value)) = value % 128 := by
  have octets : ∀ octet : Octet,
      isMarked (0x80 ||| (0x7f &&& octet)) = true ∧
        group (0x80 ||| (0x7f &&& octet)) = octet.toNat % 128 := by
    decide
  refine ⟨(octets _).1, ?_⟩
  rw [(octets _).2, toNat_ofNat]
  omega

/-- A number is read back from its groups. -/
theorem groupsAt_groups
    (value : Nat) (rest : List Octet) :
    groupsAt (groups value ++ rest) = groups value ∧
      payload (groups value) = value ∧
      isTerminated (groups value ++ rest) = true := by
  induction value using Nat.strongRecOn with
  | ind value ih =>
      rw [groups]
      split
      next small =>
        have toNat : (BitVec.ofNat 8 value).toNat = value :=
          toNat_ofNat_of_lt (by omega)
        have unmarked : isMarked (BitVec.ofNat 8 value) = false := by
          rw [Bool.eq_false_iff, ne_eq, isMarked_iff, toNat]
          omega
        refine ⟨?_, ?_, ?_⟩
        · rw [List.singleton_append, groupsAt, unmarked]
          rfl
        · rw [payload, payload, group_eq, toNat]
          omega
        · simp [isTerminated, unmarked]
      next large =>
        have shifted : value >>> 7 = value / 128 :=
          Nat.shiftRight_eq_div_pow value 7
        obtain ⟨taken, isValue, terminated⟩ :=
          ih (value >>> 7) (by omega)
        obtain ⟨marked, isGroup⟩ := mark_group value
        refine ⟨?_, ?_, ?_⟩
        · rw [List.cons_append, groupsAt, if_pos marked, taken]
        · rw [payload, isGroup, isValue, shifted]
          omega
        · rw [List.cons_append]
          exact List.any_cons.trans (by rw [marked]; exact terminated)

/-- All groups but the last one are needed. -/
theorem two_pow_le_of_groups
    (value : Nat)
    (several : 1 < (groups value).length) :
    2 ^ (7 * ((groups value).length - 1)) ≤ value := by
  induction value using Nat.strongRecOn with
  | ind value ih =>
      rw [groups] at several ⊢
      split
      next small =>
        rw [if_pos small] at several
        exact absurd several (Nat.lt_irrefl 1)
      next large =>
        have shifted : value >>> 7 = value / 128 :=
          Nat.shiftRight_eq_div_pow value 7
        rw [List.length_cons, Nat.add_sub_cancel]
        rcases Nat.lt_or_ge 1 (groups (value >>> 7)).length with more | last
        · have higher := ih (value >>> 7) (by omega) more
          calc
            2 ^ (7 * (groups (value >>> 7)).length) =
                2 ^ (7 * ((groups (value >>> 7)).length - 1)) * 2 ^ 7 := by
              rw [← Nat.pow_add]
              congr 1
              omega
            _ ≤ value >>> 7 * 2 ^ 7 := Nat.mul_le_mul_right _ higher
            _ ≤ value := by omega
        · calc
            2 ^ (7 * (groups (value >>> 7)).length) ≤ 2 ^ 7 :=
              Nat.pow_le_pow_right (by decide) (by omega)
            _ ≤ value := by omega

/-- The groups of a value of a type are within its width. -/
theorem groups_within
    {type : UnsignedType} {value : Nat}
    (small : value < 2 ^ type.digits) :
    7 * ((groups value).length - 1) < type.promotedDigits := by
  have eight := type.eight_le_digits
  have promoted := type.digits_le_promotedDigits
  rcases Nat.lt_or_ge 1 (groups value).length with several | single
  · have power := (two_pow_le_of_groups value several).trans_lt small
    have exponent := (Nat.pow_lt_pow_iff_right (by decide)).mp power
    omega
  · omega

/-! ## Round trip and foreign streams -/

/-- A value that is written is read back, from all that was written. -/
theorem readTemplateCompressed_writeTemplateCompressed
    (type : UnsignedType) (value : BitVec type.digits)
    (stream : EncodeDataStream) :
    let written := stream.writeTemplateCompressed value.toNat
    DecodeDataStream.readTemplateCompressed
        ⟨written.variableLengthData, stream.offset⟩ type =
      .ok (value.toNat, written.offset) := by
  dsimp only
  obtain ⟨data, offset⟩ := writes_writeTemplateCompressed stream value.toNat
  have taken :
      (stream.variableLengthData.take stream.offset).length =
        stream.offset :=
    List.length_take_of_le stream.within
  have dropped :
      (stream.writeTemplateCompressed
          value.toNat).variableLengthData.drop stream.offset =
        groups value.toNat ++
          stream.variableLengthData.drop
            (stream.offset + (groups value.toNat).length) := by
    rw [data, List.append_assoc, List.drop_left' taken]
  obtain ⟨isGroups, isValue, terminated⟩ :=
    groupsAt_groups value.toNat
      (stream.variableLengthData.drop
        (stream.offset + (groups value.toNat).length))
  have within := groups_within value.isLt
  rw [readTemplateCompressed_eq]
  dsimp only
  rw [dropped, isGroups, if_neg (not_le.mpr within), if_pos terminated,
    isValue, Nat.mod_eq_of_lt value.isLt, offset]

/-- A read ends with the exception at the end of the packet, or returns after
octets whose payload fits the type, without an undefined shift. -/
def ReadsWithin
    (self : DecodeDataStream)
    (type : UnsignedType) : Prop :=
  match self.readTemplateCompressed type with
  | .error failure => failure = readingBeyondTheEnd
  | .ok (_, offset) =>
      payload
          ((self.variableLengthData.drop self.offset).take
            (offset - self.offset)) <
        2 ^ type.digits

/-- The groups at the front of a stream are few enough to be shifted within the
width of the type, and fit it where the last one is there. -/
def GroupsWithin
    (octets : List Octet)
    (type : UnsignedType) : Prop :=
  7 * ((groupsAt octets).length - 1) < type.promotedDigits ∧
    (isTerminated octets = true →
      payload (groupsAt octets) < 2 ^ type.digits)

theorem take_length_groupsAt (octets : List Octet) :
    octets.take (groupsAt octets).length = groupsAt octets := by
  induction octets with
  | nil => rfl
  | cons octet rest ih =>
      rw [groupsAt]
      split
      · rw [List.length_cons, List.take_succ_cons, ih]
      · rfl

theorem readsWithin_iff
    (self : DecodeDataStream) (type : UnsignedType) :
    ReadsWithin self type ↔
      GroupsWithin (self.variableLengthData.drop self.offset) type := by
  unfold ReadsWithin GroupsWithin
  rw [readTemplateCompressed_eq]
  dsimp only
  by_cases within :
      7 * ((groupsAt (self.variableLengthData.drop self.offset)).length - 1) <
        type.promotedDigits
  · rw [if_neg (not_le.mpr within)]
    by_cases terminated :
        isTerminated (self.variableLengthData.drop self.offset) = true
    · rw [if_pos terminated]
      dsimp only
      rw [Nat.add_sub_cancel_left, take_length_groupsAt]
      exact ⟨fun fits => ⟨within, fun _ => fits⟩, fun both => both.2 terminated⟩
    · rw [if_neg terminated]
      exact ⟨fun _ => ⟨within, fun ends => absurd ends terminated⟩,
        fun _ => rfl⟩
  · rw [if_pos (not_lt.mp within)]
    constructor
    · intro undefined
      cases undefined
    · intro both
      exact absurd both.1 within

/-- Every value is read back from what is written for it.  A read of any stream
stays within its type exactly where the groups do. -/
theorem compressedIntegers_within
    (type : UnsignedType)
    (value : BitVec type.digits)
    (target : EncodeDataStream)
    (source : DecodeDataStream) :
    DecodeDataStream.readTemplateCompressed
        ⟨(target.writeTemplateCompressed value.toNat).variableLengthData,
          target.offset⟩ type =
      .ok (value.toNat,
        (target.writeTemplateCompressed value.toNat).offset) ∧
      (ReadsWithin source type ↔
        GroupsWithin (source.variableLengthData.drop source.offset) type) :=
  ⟨readTemplateCompressed_writeTemplateCompressed type value target,
    readsWithin_iff source type⟩

/-- Six marked groups are too many for 32 bits, and two groups of ones for 8. -/
theorem compressedIntegers_within_fails :
    ¬ ReadsWithin ⟨[0x80, 0x80, 0x80, 0x80, 0x80, 0x00], 0⟩ .uint32 ∧
      ¬ ReadsWithin ⟨[0xff, 0x7f], 0⟩ .uint8 := by
  constructor
  · intro within
    change Failure.undefined = readingBeyondTheEnd at within
    cases within
  · have tooMuch : ¬ payload [0xff, 0x7f] < 2 ^ 8 := by decide
    exact tooMuch

end DataStream
end OpenRTI
