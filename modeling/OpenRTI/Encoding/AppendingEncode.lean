import OpenRTI.Encoding.EncodingSafety

/-!
# Encoding behind what is there

A data element is encoded into octets of its own, or behind the octets of a
vector.  The pointer that is passed on is moved behind the octets that are there,
and the offset from it is as many octets again.
-/

namespace OpenRTI
namespace Encoding

open Foundation (Octet)
open Foundation.FailingState (except_bind_eq_ok)
open Foundation.Octets

/-! ## Encoders that stay inside -/

/-- Where an encoder has no failure, given octets have fitted in. -/
def Encoder.FitsIn (self : Encoder) (octets : List Octet) : Prop :=
  ∀ before offset after, self before offset = .ok after →
    after.2 = offset + octets.length ∧
      after.1.bufferSize = before.bufferSize ∧
      (octets ≠ [] → offset + octets.length ≤ before.bufferSize)

theorem Encoder.FitsIn.nothing :
    Encoder.FitsIn (fun buffer offset => .ok (buffer, offset)) [] := by
  intro before offset after ran
  cases ran
  exact ⟨rfl, rfl, fun some => absurd rfl some⟩

theorem Encoder.FitsIn.andThen
    {first second : Encoder} {firstOctets secondOctets : List Octet}
    (firstFits : first.FitsIn firstOctets)
    (secondFits : second.FitsIn secondOctets) :
    (first.andThen second).FitsIn (firstOctets ++ secondOctets) := by
  intro before offset after ran
  rw [Encoder.andThen_eq_ok] at ran
  obtain ⟨between, firstRan, secondRan⟩ := ran
  obtain ⟨middle, size, firstInside⟩ := firstFits _ _ _ firstRan
  obtain ⟨last, sameSize, secondInside⟩ := secondFits _ _ _ secondRan
  rw [List.length_append]
  refine ⟨by omega, by omega, ?_⟩
  intro some
  by_cases ends : secondOctets = []
  · rw [ends, List.append_nil] at some
    have inside := firstInside some
    rw [ends, List.length_nil]
    omega
  · have inside := secondInside ends
    omega

theorem inside_of_write
    {before after : Buffer} {offset : Nat}
    {octet : Octet}
    (wrote : before.write offset octet = .ok after) :
    offset < before.bufferSize ∧ after.bufferSize = before.bufferSize := by
  rw [Buffer.write] at wrote
  split at wrote
  next inside =>
    cases wrote
    exact ⟨inside, List.length_set⟩
  next => cases wrote

/-- An octet in front of what fits in. -/
theorem Encoder.FitsIn.cons
    {rest : Encoder} {octets : List Octet}
    (fits : rest.FitsIn octets) (octet : Octet) :
    Encoder.FitsIn
      (fun buffer offset => do
        let buffer ← buffer.write offset octet
        rest buffer (offset + 1))
      (octet :: octets) := by
  intro before offset after ran
  rw [except_bind_eq_ok] at ran
  obtain ⟨between, wrote, ran⟩ := ran
  obtain ⟨inside, size⟩ := inside_of_write wrote
  obtain ⟨last, sameSize, restInside⟩ := fits _ _ _ ran
  rw [List.length_cons]
  refine ⟨by omega, by omega, ?_⟩
  intro _
  by_cases ends : octets = []
  · rw [ends, List.length_nil]
    omega
  · have further := restInside ends
    omega

theorem fitsIn_writeAll (octets : List Octet) :
    Encoder.FitsIn (writeAll octets) octets := by
  induction octets with
  | nil => exact .nothing
  | cons octet rest ih => exact ih.cons octet

theorem Encoder.FitsIn.checked
    {self : Encoder} {octets : List Octet}
    (fits : self.FitsIn octets) (width : Nat) :
    Encoder.FitsIn
      (fun buffer offset => do
        require buffer offset width tooSmall
        self buffer offset)
      octets := by
  intro before offset after ran
  rw [except_bind_eq_ok] at ran
  obtain ⟨_, _, ran⟩ := ran
  exact fits before offset after ran

theorem fitsIn_encodeIntoLE (width value : Nat) :
    (encodeIntoLE width value).FitsIn (littleEndian width value) :=
  (fitsIn_writeAll _).checked width

theorem fitsIn_encodeIntoBE (width value : Nat) :
    (encodeIntoBE width value).FitsIn (bigEndian width value) :=
  (fitsIn_writeAll _).checked width

theorem fitsIn_encodeGroups (groups value : Nat) :
    (encodeGroups groups value).FitsIn (compress groups value) := by
  induction groups generalizing value with
  | zero => exact Encoder.FitsIn.nothing.cons _
  | succ groups ih =>
      intro before offset after ran
      rw [encodeGroups] at ran
      rw [compress]
      split at ran
      next last =>
        rw [if_pos last]
        exact Encoder.FitsIn.nothing.cons _ before offset after ran
      next marked =>
        rw [if_neg marked]
        split at ran
        next => cases ran
        next =>
          exact (ih (value >>> 7)).cons _ before offset after
            ran

theorem fitsIn_encodeIntoBE32Compressed (value : BitVec 32) :
    (encodeIntoBE32Compressed value).FitsIn (compress 4 value.toNat) := by
  intro before offset after ran
  rw [encodeIntoBE32Compressed] at ran
  split at ran
  next => cases ran
  next => exact fitsIn_encodeGroups 4 value.toNat before offset after ran

theorem fitsIn_encodeAll
    {α : Type} {encode : α → Encoder}
    {layout : α → List Octet} {elements : List α}
    (fits : ∀ element ∈ elements, (encode element).FitsIn (layout element)) :
    Encoder.FitsIn (encodeAll encode elements) (elements.flatMap layout) := by
  induction elements with
  | nil => exact .nothing
  | cons element rest ih =>
      rw [List.forall_mem_cons] at fits
      exact fits.1.andThen (ih fits.2)

theorem fitsIn_encodeCounted
    {α : Type} {encode : α → Encoder}
    {layout : α → List Octet} {elements : List α}
    (fits : ∀ element ∈ elements, (encode element).FitsIn (layout element)) :
    (encodeCounted encode elements).FitsIn
      (counted elements.length (elements.flatMap layout)) := by
  intro before offset after ran
  rw [encodeCounted] at ran
  split at ran
  next => cases ran
  next =>
    exact (fitsIn_encodeIntoBE 4 _).andThen (fitsIn_encodeAll fits) before
      offset after ran

namespace BasicDataElement

theorem fitsIn_encodeCharacters (value : List (BitVec 32)) :
    Encoder.FitsIn (encodeCharacters value) (characters value) := by
  induction value with
  | nil => exact .nothing
  | cons character rest ih =>
      exact (fitsIn_encodeIntoBE 2 (character.setWidth 16).toNat).andThen
        ih

theorem fitsIn_encodeInto
    (type : BasicDataElement) (value : type.SimpleDataType) :
    (type.encodeInto value).FitsIn (type.layout value) := by
  cases type with
  | asciiString => exact (fitsIn_encodeIntoBE 4 _).andThen (fitsIn_writeAll _)
  | unicodeString =>
      exact (fitsIn_encodeIntoBE 4 _).andThen (fitsIn_encodeCharacters _)
  | opaqueData =>
      intro before offset after ran
      rw [encodeInto, encodeOpaqueData] at ran
      split at ran
      next => cases ran
      next =>
        exact (fitsIn_encodeIntoBE 4 _).andThen (fitsIn_writeAll value) before
          offset after ran
  | asciiChar | boolean | byte | octet | octetPairBE | octetPairLE =>
      exact fitsIn_writeAll _
  | unicodeChar | integer16BE | integer32BE | integer64BE | float32BE
  | float64BE => exact fitsIn_encodeIntoBE _ _
  | integer16LE | integer32LE | integer64LE | float32LE | float64LE =>
      exact fitsIn_encodeIntoLE _ _

theorem fitsIn_encodeSlot
    (type : BasicDataElement) (element : Option type.SimpleDataType) :
    Encoder.FitsIn (encodeSlot type.encodeInto element)
      (type.slotLayout element) := by
  cases element with
  | none =>
      intro before offset after ran
      cases ran
  | some element => exact type.fitsIn_encodeInto element

end BasicDataElement

mutual

theorem Shape.fitsIn_encodeInto : ∀ (self : Shape) (value : self.Value),
    (self.encodeInto value).FitsIn (self.layout value)
  | .basic type, value => type.fitsIn_encodeInto value
  | .fixedArrayOfBasicType type _ _, _ =>
      fitsIn_encodeAll fun element _ => type.fitsIn_encodeInto element
  | .fixedArray protoType _, _ =>
      fitsIn_encodeAll fun element _ => protoType.fitsIn_encodeInto element
  | .variableArrayOfBasicType type _, _ =>
      fitsIn_encodeCounted fun element _ => type.fitsIn_encodeSlot element
  | .variableArray protoType, _ =>
      fitsIn_encodeCounted fun element _ => protoType.fitsIn_encodeInto element
  | .fixedRecord fields, value =>
      (fitsIn_encodeIntoBE32Compressed _).andThen
        ((fitsIn_encodeIntoBE32Compressed value.1).andThen
          (fields.fitsIn_encodeInto value.2))

theorem Fields.fitsIn_encodeInto : ∀ (self : Fields) (value : self.Value),
    (self.encodeInto value).FitsIn (self.layout value)
  | .nil, _ => .nothing
  | .cons field rest, value =>
      (field.fitsIn_encodeInto value.1).andThen (rest.fitsIn_encodeInto value.2)

end

/-! ## Octets of their own, and behind the octets of a vector -/

abbrev OctetVector :=
  { octets : List Octet // octets.length < 2 ^ 63 }

def OctetVector.buffer (self : OctetVector) : Buffer where
  octets := self.1
  addressable := Nat.le_of_lt self.2

/-- New octets of a vector are zero. -/
def OctetVector.zeros (length : Nat) (small : length < 2 ^ 63) :
    OctetVector :=
  ⟨List.replicate length 0, by rw [List.length_replicate]; exact small⟩

/-- Storage that has not been written to yet.  What is in it is not known. -/
abbrev Storage (length : Nat) :=
  { storage : OctetVector // storage.1.length = length }

inductive VectorFailure
  | lengthError
  | encoding (failure : Failure)
  deriving DecidableEq

/-- Encode into storage that is as long as the data element says. -/
def Shape.encode
    (self : Shape)
    (value : self.Value)
    (outData : Storage (self.getEncodedLength value)) :
    Except Failure (List Octet) := do
  let (encoded, _) ← self.encodeInto value outData.1.buffer 0
  .ok encoded.octets

/-- Make a vector longer, and encode at an offset from the octets that are
added. -/
def Shape.encodeIntoVector
    (self : Shape)
    (value : self.Value)
    (buffer : OctetVector) : Except VectorFailure (List Octet) :=
  let offset := buffer.1.length
  let encodedLength := self.getEncodedLength value
  if small : offset + encodedLength < 2 ^ 63 then
    let added := OctetVector.zeros encodedLength (by omega)
    match self.encodeInto value added.buffer offset with
    | .error failure => .error (.encoding failure)
    | .ok (encoded, _) => .ok (buffer.1 ++ encoded.octets)
  else .error .lengthError

/-- A data element is encoded to the same octets in any storage, and to these
behind the octets of a vector.  Nothing is written outside of either. -/
def Shape.Appends
    (self : Shape)
    (value : self.Value)
    (buffer : OctetVector) : Prop :=
  ∃ encoded, (∀ outData, self.encode value outData = .ok encoded) ∧
    self.encodeIntoVector value buffer = .ok (buffer.1 ++ encoded)

/-- A data element that is not too big for its own octets. -/
def Shape.Encodable (self : Shape) (value : self.Value) : Prop :=
  self.Everywhere writable value ∧
    (self.layout value).length ≤ self.getEncodedLength value ∧
    self.getEncodedLength value < 2 ^ 63

section

variable {self : Shape} {value : self.Value} {buffer : OctetVector}

/-- The octets that are not written stay as they have been. -/
theorem Shape.encode_eq_ok
    (encodable : self.Encodable value)
    (outData : Storage (self.getEncodedLength value)) :
    self.encode value outData =
      .ok (self.layout value ++
        outData.1.1.drop (self.layout value).length) := by
  obtain ⟨written, room, _⟩ := encodable
  have size : outData.1.buffer.bufferSize = self.getEncodedLength value :=
    outData.2
  obtain ⟨after, ran, wrote⟩ :=
    self.encodes value written outData.1.buffer 0 (by omega)
  rw [Wrote, List.take_zero, List.nil_append, Nat.zero_add] at wrote
  rw [Shape.encode, ran]
  exact congrArg Except.ok wrote

theorem Shape.encodable_of_encode
    {outData : Storage (self.getEncodedLength value)} {encoded : List Octet}
    (ran : self.encode value outData = .ok encoded) :
    self.Encodable value := by
  rw [Shape.encode, except_bind_eq_ok] at ran
  obtain ⟨after, ran, _⟩ := ran
  have size : outData.1.buffer.bufferSize = self.getEncodedLength value :=
    outData.2
  have small := outData.1.2
  rw [outData.2] at small
  obtain ⟨_, _, inside⟩ := self.fitsIn_encodeInto value _ _ _ ran
  refine ⟨self.writable_of_encodeInto value _ _ _ ran, ?_, small⟩
  by_cases nothing : self.layout value = []
  · rw [nothing]
    exact Nat.zero_le _
  · have room := inside nothing
    omega

/-- Storage of any one octet. -/
def Storage.filled (length : Nat) (small : length < 2 ^ 63) (octet : Octet) :
    Storage length :=
  ⟨⟨List.replicate length octet, by rw [List.length_replicate]; exact small⟩,
    List.length_replicate⟩

/-- A vector that is made longer by the octets of a data element is not too
long. -/
theorem Shape.small_of_encodeIntoVector
    {encoded : List Octet}
    (ran : self.encodeIntoVector value buffer = .ok encoded) :
    self.getEncodedLength value < 2 ^ 63 := by
  rw [Shape.encodeIntoVector] at ran
  dsimp only at ran
  split at ran
  next small => omega
  next => cases ran

theorem Shape.encodable_of_appends
    (appends : self.Appends value buffer) :
    self.Encodable value := by
  obtain ⟨encoded, encodes, ran⟩ := appends
  have small := Shape.small_of_encodeIntoVector ran
  exact Shape.encodable_of_encode (encodes (Storage.filled _ small 0))

/-- Where octets are left in storage, what is encoded is not known. -/
theorem Shape.length_layout_of_appends
    (appends : self.Appends value buffer) :
    (self.layout value).length = self.getEncodedLength value := by
  have encodable := Shape.encodable_of_appends appends
  obtain ⟨encoded, encodes, _⟩ := appends
  have zeros := encodes (Storage.filled _ encodable.2.2 0)
  have ones := encodes (Storage.filled _ encodable.2.2 1)
  rw [Shape.encode_eq_ok encodable] at zeros ones
  rw [← zeros, Except.ok.injEq, List.append_cancel_left_eq] at ones
  simp only [Storage.filled, List.drop_replicate] at ones
  have room := encodable.2.1
  by_contra differs
  obtain ⟨rest, left⟩ := Nat.exists_eq_add_of_lt
    (by omega : (self.layout value).length < self.getEncodedLength value)
  have count : self.getEncodedLength value - (self.layout value).length =
      rest + 1 := by omega
  rw [count, List.replicate_succ, List.replicate_succ, List.cons.injEq] at ones
  exact absurd ones.1 (by decide)

/-- Behind octets that are there is no room at twice the offset. -/
theorem Shape.eq_nil_of_appends
    (appends : self.Appends value buffer) :
    buffer.1 = [] ∨ self.getEncodedLength value = 0 := by
  have length := Shape.length_layout_of_appends appends
  obtain ⟨encoded, _, ran⟩ := appends
  rw [Shape.encodeIntoVector] at ran
  dsimp only at ran
  split at ran
  next small =>
    split at ran
    next => cases ran
    next after next done =>
      obtain ⟨_, _, inside⟩ := self.fitsIn_encodeInto value _ _ _ done
      by_cases nothing : self.layout value = []
      · rw [nothing] at length
        exact Or.inr length.symm
      · have room := inside nothing
        have size : (OctetVector.zeros (self.getEncodedLength value)
            (by omega)).buffer.bufferSize = self.getEncodedLength value :=
          List.length_replicate
        left
        apply List.eq_nil_of_length_eq_zero
        omega
  next => cases ran

end

theorem encodeAll_of_nothing
    {α : Type} {encode : α → Encoder}
    {elements : List α} {before : Buffer}
    {offset : Nat}
    (nothing : ∀ element ∈ elements,
      encode element before offset = .ok (before, offset)) :
    encodeAll encode elements before offset = .ok (before, offset) := by
  induction elements with
  | nil => rfl
  | cons element rest ih =>
      rw [List.forall_mem_cons] at nothing
      rw [encodeAll, nothing.1]
      exact ih nothing.2

/-- An encoder of no octets does nothing. -/
theorem Shape.encodeInto_of_layout_eq_nil :
    ∀ (self : Shape) (value : self.Value) (before : Buffer) (offset : Nat),
      self.layout value = [] →
        self.encodeInto value before offset = .ok (before, offset)
  | .basic type, value, _, _, nothing =>
      absurd nothing (type.layout_ne_nil value)
  | .fixedArrayOfBasicType type _ _, _, _, _, nothing =>
      encodeAll_of_nothing fun element member =>
        absurd (List.flatMap_eq_nil_iff.mp nothing element member)
          (type.layout_ne_nil element)
  | .fixedArray protoType _, _, before, offset, nothing =>
      encodeAll_of_nothing fun element member =>
        protoType.encodeInto_of_layout_eq_nil element before offset
          (List.flatMap_eq_nil_iff.mp nothing element member)
  | .variableArrayOfBasicType _ _, _, _, _, nothing =>
      absurd nothing (counted_ne_nil _ _)
  | .variableArray _, _, _, _, nothing => absurd nothing (counted_ne_nil _ _)
  | .fixedRecord fields, value, _, _, nothing =>
      absurd nothing (fields.layout_fixedRecord_ne_nil value)

theorem Shape.encodeIntoVector_eq_ok
    {self : Shape} {value : self.Value}
    {buffer : OctetVector}
    (encodable : self.Encodable value)
    (length : (self.layout value).length = self.getEncodedLength value)
    (empty : buffer.1 = [] ∨ self.getEncodedLength value = 0) :
    self.encodeIntoVector value buffer =
      .ok (buffer.1 ++ self.layout value) := by
  have present := buffer.2
  have small := encodable.2.2
  have room : buffer.1.length + self.getEncodedLength value < 2 ^ 63 := by
    cases empty with
    | inl empty =>
        rw [empty, List.length_nil, Nat.zero_add]
        exact small
    | inr nothing =>
        rw [nothing]
        exact present
  have size : (OctetVector.zeros (self.getEncodedLength value)
      (by omega)).buffer.bufferSize = self.getEncodedLength value :=
    List.length_replicate
  rw [Shape.encodeIntoVector]
  dsimp only
  rw [dif_pos room]
  cases empty with
  | inl empty =>
      obtain ⟨after, ran, wrote⟩ := self.encodes value encodable.1
        (OctetVector.zeros (self.getEncodedLength value) (by omega)).buffer 0
        (by omega)
      have all : after.octets = self.layout value := by
        rw [Wrote, List.take_zero, List.nil_append, Nat.zero_add, length,
          List.drop_of_length_le (Nat.le_of_eq size), List.append_nil] at wrote
        exact wrote
      rw [empty, List.length_nil, ran]
      exact congrArg Except.ok all
  | inr nothing =>
      have layout : self.layout value = [] :=
        List.eq_nil_of_length_eq_zero (length.trans nothing)
      rw [self.encodeInto_of_layout_eq_nil value _ _ layout, layout]
      exact congrArg (fun added => Except.ok (buffer.1 ++ added))
        (List.eq_nil_of_length_eq_zero (size.trans nothing))

/-- A data element is appended to a vector if and only if it can be encoded to as
many octets as it says, and there is nothing to append or nothing to append
to. -/
theorem Shape.appends_iff
    (self : Shape)
    (value : self.Value)
    (buffer : OctetVector) :
    self.Appends value buffer ↔
      self.Encodable value ∧
        (self.layout value).length = self.getEncodedLength value ∧
        (buffer.1 = [] ∨ self.getEncodedLength value = 0) := by
  constructor
  · intro appends
    exact ⟨Shape.encodable_of_appends appends,
      Shape.length_layout_of_appends appends, Shape.eq_nil_of_appends appends⟩
  · intro ⟨encodable, length, empty⟩
    refine ⟨self.layout value, ?_,
      Shape.encodeIntoVector_eq_ok encodable length empty⟩
    intro outData
    rw [Shape.encode_eq_ok encodable, length,
      List.drop_of_length_le (Nat.le_of_eq outData.2), List.append_nil]

/-- An octet is appended to an empty vector, and to no other one. -/
theorem Shape.appends_fails :
    ¬∀ (self : Shape) (value : self.Value) (buffer : OctetVector),
      self.Appends value buffer := by
  intro always
  have appends := always (.basic .octet) 7 ⟨[1], by decide⟩
  cases Shape.eq_nil_of_appends appends with
  | inl empty => cases empty
  | inr nothing => exact absurd nothing (by decide)

end Encoding
end OpenRTI
