import OpenRTI.DataStream.CompressedIntegers
import OpenRTI.Foundation.FailingState

/-!
# Streams with alignment

Numbers and single octets at an offset that grows with what is written and read.
Alignment moves the offset to the next multiple of a size: the writer fills up
with octets, the reader seeks.
-/

namespace OpenRTI
namespace DataStream

open Foundation (Octet)
open Foundation.FailingState (except_bind_eq_ok)
open Foundation.Octets

/-! ## Writing -/

/-- The next multiple of a size. -/
def aligned (alignSize offset : Nat) : Nat :=
  (offset + alignSize - 1) / alignSize * alignSize

namespace EncodeDataStream

/-- The stream over a packet that is emptied. -/
def new : EncodeDataStream where
  variableLengthData := []
  offset := 0
  within := Nat.le_refl 0

/-- The packet is resized where it ends before what is written. -/
def writeUInt32BE (self : EncodeDataStream) (value : BitVec 32) :
    EncodeDataStream where
  variableLengthData :=
    self.variableLengthData.take self.offset ++ bigEndian 4 value.toNat ++
      self.variableLengthData.drop (self.offset + 4)
  offset := self.offset + 4
  within := by
    have within := self.within
    simp only [List.length_append, List.length_take, length_bigEndian]
    omega

def writeOctets (self : EncodeDataStream) (octets : List Octet) :
    EncodeDataStream :=
  octets.foldl writeUInt8BE self

/-- Fill up to the next multiple of a size. -/
def align (self : EncodeDataStream) (alignSize : Nat) : EncodeDataStream :=
  if alignSize = 0 then self
  else
    self.writeOctets
      (List.replicate (aligned alignSize self.offset - self.offset) 0xff)

/-- A stream that has written given octets, and is at their end. -/
def Written (self : EncodeDataStream) (octets : List Octet) : Prop :=
  self.variableLengthData = octets ∧ self.offset = octets.length

theorem written_new : new.Written [] :=
  ⟨rfl, rfl⟩

variable {self : EncodeDataStream} {before : List Octet}

theorem Writes.written
    {after : EncodeDataStream} {octets : List Octet}
    (writes : self.Writes after octets) (written : self.Written before) :
    after.Written (before ++ octets) := by
  obtain ⟨contents, offset⟩ := writes
  obtain ⟨packet, atEnd⟩ := written
  rw [packet, atEnd, List.take_length,
    List.drop_of_length_le (Nat.le_add_right _ _), List.append_nil] at contents
  rw [atEnd] at offset
  exact ⟨contents, by rw [offset, List.length_append]⟩

theorem Written.writeUInt8BE
    (written : self.Written before) (octet : Octet) :
    (self.writeUInt8BE octet).Written (before ++ [octet]) :=
  (writes_writeUInt8BE self octet).written written

theorem Written.writeUInt32BE
    (written : self.Written before) (value : BitVec 32) :
    (self.writeUInt32BE value).Written (before ++ bigEndian 4 value.toNat) := by
  have writes :
      self.Writes (self.writeUInt32BE value) (bigEndian 4 value.toNat) := by
    rw [Writes, length_bigEndian]
    exact ⟨rfl, rfl⟩
  exact writes.written written

theorem Written.writeOctets
    (written : self.Written before) (octets : List Octet) :
    (self.writeOctets octets).Written (before ++ octets) := by
  induction octets generalizing self before with
  | nil =>
      rw [List.append_nil]
      exact written
  | cons octet rest ih =>
      have further := ih (written.writeUInt8BE octet)
      rw [List.append_assoc, List.singleton_append] at further
      exact further

end EncodeDataStream

/-! ## Reading -/

/-- Read from a stream.  The result is the value and the stream after it. -/
abbrev Reading (α : Type) :=
  DecodeDataStream → Except Failure (α × DecodeDataStream)

namespace DecodeDataStream

/-- The octets at the offset, without a check. -/
def getOctets (self : DecodeDataStream) (size : Nat) :
    Except Failure (List Octet) :=
  let octets := (self.variableLengthData.drop self.offset).take size
  if octets.length = size then .ok octets else .error .undefined

def read (size : Nat) : Reading (List Octet) := fun self => do
  if self.variableLengthData.length < self.offset + size then
    .error readingBeyondTheEnd
  let octets ← self.getOctets size
  .ok (octets, { self with offset := self.offset + size })

def readUInt8BE : Reading Octet := fun self => do
  let (octets, self) ← read 1 self
  .ok (octets.headD 0, self)

def readUInt32BE : Reading (BitVec 32) := fun self => do
  let (octets, self) ← read 4 self
  .ok (BitVec.ofNat 32 (ofBigEndian octets), self)

def readOctets : Nat → Reading (List Octet)
  | 0, self => .ok ([], self)
  | length + 1, self => do
      let (octet, self) ← self.readUInt8BE
      let (rest, self) ← readOctets length self
      .ok (octet :: rest, self)

def seek (offset : Nat) : Reading Unit := fun self =>
  if self.variableLengthData.length < offset then
    .error (.rtiInternalError "Seeking beyond the end of the packet")
  else .ok ((), { self with offset := offset })

def align (alignSize : Nat) : Reading Unit := fun self =>
  if alignSize = 0 then .ok ((), self)
  else seek (aligned alignSize self.offset) self

end DecodeDataStream

/-! ## Reading inside of a packet -/

/-- A stream that is not past the end of its packet. -/
def DecodeDataStream.Inside (self : DecodeDataStream) : Prop :=
  self.offset ≤ self.variableLengthData.length

/-- The same packet, not past its end. -/
def DecodeDataStream.Continues (self after : DecodeDataStream) : Prop :=
  after.variableLengthData = self.variableLengthData ∧ after.Inside

/-- A read only looks at octets of the packet, and does not leave it. -/
def Reading.StaysInside {α : Type} (reading : Reading α) : Prop :=
  ∀ stream : DecodeDataStream, stream.Inside →
    reading stream ≠ .error .undefined ∧
      ∀ result, reading stream = .ok result → stream.Continues result.2

namespace Reading.StaysInside

variable {α β : Type}

theorem returns (value : α) :
    Reading.StaysInside fun stream => .ok (value, stream) := by
  intro stream inside
  constructor
  · intro same
    cases same
  · intro result ran
    cases ran
    exact ⟨rfl, inside⟩

variable {reading : Reading α} {stream : DecodeDataStream}

/-- An exception is thrown. -/
theorem throws
    {reason : String}
    (thrown : reading stream = .error (.rtiInternalError reason)) :
    reading stream ≠ .error .undefined ∧
      ∀ result, reading stream = .ok result → stream.Continues result.2 := by
  rw [thrown]
  constructor
  · intro same
    cases same
  · intro result done
    cases done

/-- A read up to an offset inside. -/
theorem moves
    {value : α} {offset : Nat}
    (ran : reading stream = .ok (value, { stream with offset := offset }))
    (room : offset ≤ stream.variableLengthData.length) :
    reading stream ≠ .error .undefined ∧
      ∀ result, reading stream = .ok result → stream.Continues result.2 := by
  rw [ran]
  constructor
  · intro same
    cases same
  · intro result done
    cases done
    exact ⟨rfl, room⟩

theorem followedBy
    {first : Reading α} {second : α → Reading β}
    (firstInside : Reading.StaysInside first)
    (secondInside : ∀ value, Reading.StaysInside (second value)) :
    Reading.StaysInside (fun stream => do
      let (value, stream) ← first stream
      second value stream) := by
  intro stream inside
  obtain ⟨defined, continues⟩ := firstInside stream inside
  dsimp only
  cases ran : first stream with
  | error failure =>
      rw [ran] at defined
      constructor
      · intro same
        cases same
        exact defined rfl
      · intro result done
        cases done
  | ok between =>
      obtain ⟨same, still⟩ := continues between ran
      obtain ⟨laterDefined, laterContinues⟩ :=
        secondInside between.1 between.2 still
      refine ⟨laterDefined, ?_⟩
      intro result done
      obtain ⟨sameAgain, stays⟩ := laterContinues result done
      exact ⟨sameAgain.trans same, stays⟩

/-- What is read is turned into something else. -/
theorem map
    {first : Reading α}
    (firstInside : Reading.StaysInside first) (change : α → β) :
    Reading.StaysInside (fun stream => do
      let (value, stream) ← first stream
      .ok (change value, stream)) :=
  firstInside.followedBy fun before => returns (change before)

theorem read (size : Nat) :
    Reading.StaysInside (DecodeDataStream.read size) := by
  intro stream inside
  by_cases room : stream.variableLengthData.length < stream.offset + size
  · have thrown : DecodeDataStream.read size stream =
        .error readingBeyondTheEnd := by
      rw [DecodeDataStream.read, if_pos room]
      rfl
    exact throws thrown
  · have found : stream.getOctets size =
        .ok ((stream.variableLengthData.drop stream.offset).take size) := by
      rw [DecodeDataStream.getOctets]
      apply if_pos
      rw [List.length_take, List.length_drop]
      omega
    apply moves _ (Nat.le_of_not_lt room)
    · exact (stream.variableLengthData.drop stream.offset).take size
    · rw [DecodeDataStream.read, if_neg room, found]
      rfl

theorem readUInt8BE : Reading.StaysInside DecodeDataStream.readUInt8BE :=
  (read 1).map fun octets => octets.headD 0

theorem readUInt32BE : Reading.StaysInside DecodeDataStream.readUInt32BE :=
  (read 4).map fun octets => BitVec.ofNat 32 (ofBigEndian octets)

theorem readOctets (length : Nat) :
    Reading.StaysInside (DecodeDataStream.readOctets length) := by
  induction length with
  | zero => exact returns []
  | succ length ih =>
      exact readUInt8BE.followedBy fun octet =>
        ih.map (octet :: ·)

theorem align (alignSize : Nat) :
    Reading.StaysInside (DecodeDataStream.align alignSize) := by
  intro stream inside
  by_cases nothing : alignSize = 0
  · apply moves _ inside
    · exact ()
    · rw [DecodeDataStream.align, if_pos nothing]
  · by_cases beyond :
        stream.variableLengthData.length < aligned alignSize stream.offset
    · apply throws
      rw [DecodeDataStream.align, if_neg nothing, DecodeDataStream.seek,
        if_pos beyond]
    · apply moves _ (Nat.le_of_not_lt beyond)
      · exact ()
      · rw [DecodeDataStream.align, if_neg nothing, DecodeDataStream.seek,
          if_neg beyond]

end Reading.StaysInside

/-! ## Reading what was written -/

/-- A read takes given octets for a value, wherever they begin at a multiple of
four. -/
def Reading.Takes
    {α : Type}
    (reading : Reading α)
    (octets : List Octet)
    (value : α) : Prop :=
  ∀ before rest : List Octet, before.length % 4 = 0 →
    reading ⟨before ++ (octets ++ rest), before.length⟩ =
      .ok (value,
        ⟨before ++ (octets ++ rest), before.length + octets.length⟩)

theorem Reading.Takes.followedBy
    {α β : Type} {first : Reading α}
    {second : α → Reading β} {firstOctets secondOctets : List Octet}
    {value : α} {result : β}
    (firstTakes : first.Takes firstOctets value)
    (secondTakes : (second value).Takes secondOctets result)
    (multiple : firstOctets.length % 4 = 0) :
    Reading.Takes
      (fun stream => do
        let (value, stream) ← first stream
        second value stream)
      (firstOctets ++ secondOctets) result := by
  intro before rest start
  have firstRan := firstTakes before (secondOctets ++ rest) start
  have secondRan := secondTakes (before ++ firstOctets) rest (by
    rw [List.length_append]
    omega)
  simp only [List.append_assoc, List.length_append] at secondRan
  dsimp only
  rw [List.append_assoc, firstRan, List.length_append, ← Nat.add_assoc]
  exact secondRan

/-- The octets at the offset are read. -/
theorem DecodeDataStream.read_eq_ok
    (before octets rest : List Octet) :
    read octets.length ⟨before ++ (octets ++ rest), before.length⟩ =
      .ok (octets,
        ⟨before ++ (octets ++ rest), before.length + octets.length⟩) := by
  have room : ¬(before ++ (octets ++ rest)).length <
      before.length + octets.length := by
    simp only [List.length_append]
    omega
  have found : getOctets ⟨before ++ (octets ++ rest), before.length⟩
      octets.length = .ok octets := by
    rw [getOctets]
    dsimp only
    rw [List.drop_left, List.take_left, if_pos rfl]
  rw [read, if_neg room, found]
  rfl

theorem DecodeDataStream.readUInt32BE_takes (value : BitVec 32) :
    Reading.Takes readUInt32BE (bigEndian 4 value.toNat) value := by
  intro before rest _
  have ran := read_eq_ok before (bigEndian 4 value.toNat) rest
  rw [length_bigEndian] at ran ⊢
  have same : BitVec.ofNat 32 (ofBigEndian (bigEndian 4 value.toNat)) =
      value := by
    rw [ofBigEndian_bigEndian_of_lt value.isLt]
    rw [BitVec.ofNat_toNat, BitVec.setWidth_eq]
  rw [readUInt32BE, ran]
  exact congrArg
    (fun read => Except.ok (read,
      (⟨before ++ (bigEndian 4 value.toNat ++ rest), before.length + 4⟩ :
        DecodeDataStream)))
    same

theorem DecodeDataStream.readOctets_eq_ok
    (before octets rest : List Octet) :
    readOctets octets.length ⟨before ++ (octets ++ rest), before.length⟩ =
      .ok (octets,
        ⟨before ++ (octets ++ rest), before.length + octets.length⟩) := by
  induction octets generalizing before with
  | nil => rfl
  | cons octet others ih =>
      have first := read_eq_ok before [octet] (others ++ rest)
      have further := ih (before ++ [octet])
      simp only [List.append_assoc, List.singleton_append, List.length_append,
        List.length_singleton] at first further
      rw [List.length_cons, readOctets, readUInt8BE, List.cons_append, first]
      change (readOctets others.length
        ⟨before ++ octet :: (others ++ rest), before.length + 1⟩ >>= _) = _
      rw [further, Nat.add_comm others.length, ← Nat.add_assoc]
      rfl

end DataStream
end OpenRTI
