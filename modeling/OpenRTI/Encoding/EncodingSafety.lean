import OpenRTI.Encoding.DecodingSafety

/-!
# Which data elements are encoded safely

Writing never leaves the buffer, unless an element that is written without a check
is met, or a number of a record with more than one group.  Where one of these is
met there is a buffer that is too small for it.
-/

namespace OpenRTI
namespace Encoding

open Foundation (Octet)
open Foundation.FailingState (except_bind_eq_ok)
open Foundation.Octets

/-! ## Safe and exposed encoders -/

/-- Nothing that is undefined has been done, and an encoder has stopped inside of
the buffer if it has succeeded. -/
def EndsInside (before : Buffer) : Except Failure (Buffer × Nat) → Prop
  | .ok (after, next) =>
      after.bufferSize = before.bufferSize ∧ next ≤ after.bufferSize
  | .error failure => failure ≠ .undefined

/-- From any offset in a buffer, an encoder does nothing that is undefined, and it
stops inside of the buffer. -/
def Encoder.Safe (self : Encoder) : Prop :=
  ∀ before offset, offset ≤ before.bufferSize →
    EndsInside before (self before offset)

theorem endsInside_exception
    (before : Buffer) (what : String) :
    EndsInside before (.error (.encoderException what)) := by
  intro same
  cases same

/-- Some buffers are too small, and an encoder does not tell. -/
def Encoder.Exposed (self : Encoder) : Prop :=
  ∃ room, ∀ before offset, before.bufferSize = offset + room →
    self before offset = .error .undefined

theorem Encoder.Safe.nothing :
    Encoder.Safe fun buffer offset => .ok (buffer, offset) := by
  intro before offset inside
  exact ⟨rfl, inside⟩

variable {first : Encoder}

/-- The second part of an encoder only matters if the first can succeed. -/
theorem Encoder.Safe.andThen
    {second : Encoder}
    (firstSafe : first.Safe)
    (secondSafe :
      (∃ before offset after, first before offset = .ok after) →
        second.Safe) :
    (first.andThen second).Safe := by
  intro before offset inside
  have ends := firstSafe before offset inside
  cases ran : first before offset with
  | error failure =>
      rw [ran] at ends
      have failed : first.andThen second before offset = .error failure := by
        rw [Encoder.andThen, ran]
        rfl
      rw [failed]
      exact ends
  | ok between =>
      rw [ran] at ends
      obtain ⟨size, stopped⟩ := ends
      have next := secondSafe ⟨before, offset, between, ran⟩ between.1 between.2
        stopped
      have continued :
          first.andThen second before offset = second between.1 between.2 := by
        rw [Encoder.andThen, ran]
        rfl
      rw [continued]
      unfold EndsInside at next ⊢
      rwa [size] at next

theorem Encoder.Exposed.andThen_first
    (exposed : first.Exposed) (second : Encoder) :
    (first.andThen second).Exposed := by
  obtain ⟨room, fails⟩ := exposed
  refine ⟨room, ?_⟩
  intro before offset size
  rw [Encoder.andThen, fails before offset size]
  rfl

theorem Encoder.Exposed.andThen_second
    {second : Encoder} {octets : List Octet}
    (encodes : Encodes first octets) (exposed : second.Exposed) :
    (first.andThen second).Exposed := by
  obtain ⟨room, fails⟩ := exposed
  refine ⟨octets.length + room, ?_⟩
  intro before offset size
  obtain ⟨after, ran, wrote⟩ := encodes before offset (by omega)
  have kept := wrote.bufferSize (by omega)
  have failed := fails after (offset + octets.length) (by omega)
  rw [Encoder.andThen, ran]
  exact failed

/-! ## Numbers -/

/-- A number is written after a check. -/
theorem Encoder.Safe.checked
    {whole : Encoder} {octets : List Octet}
    (small : octets.length < 2 ^ 32)
    (encodes : Encodes whole octets)
    (fails : ∀ before offset what,
      require before offset octets.length tooSmall =
        .error (.encoderException what) →
          whole before offset = .error (.encoderException what)) :
    whole.Safe := by
  intro before offset inside
  obtain ⟨_, room⟩ | failed := require_cases inside small tooSmall
  · obtain ⟨after, ran, wrote⟩ := encodes before offset room
    have size := wrote.bufferSize room
    rw [ran]
    exact ⟨size, by omega⟩
  · rw [fails before offset tooSmall failed]
    exact endsInside_exception before tooSmall

theorem safe_encodeIntoLE
    {width : Nat}
    (small : width < 2 ^ 32)
    (value : Nat) :
    (encodeIntoLE width value).Safe := by
  apply Encoder.Safe.checked _ (encodes_encodeIntoLE width value)
  · intro before offset what failed
    rw [length_littleEndian] at failed
    rw [encodeIntoLE, failed]
    rfl
  · rwa [length_littleEndian]

theorem safe_encodeIntoBE
    {width : Nat}
    (small : width < 2 ^ 32)
    (value : Nat) :
    (encodeIntoBE width value).Safe := by
  apply Encoder.Safe.checked _ (encodes_encodeIntoBE width value)
  · intro before offset what failed
    rw [length_bigEndian] at failed
    rw [encodeIntoBE, failed]
    rfl
  · rwa [length_bigEndian]

/-- At the end of a buffer nothing can be written. -/
theorem exposed_writeAll
    {octets : List Octet}
    (something : octets ≠ []) :
    (writeAll octets).Exposed := by
  refine ⟨0, ?_⟩
  intro before offset size
  cases octets with
  | nil => exact absurd rfl something
  | cons octet rest =>
      rw [writeAll, Buffer.write, if_neg (by omega)]
      rfl

/-- A number of one group is written after a check. -/
theorem safe_encodeIntoBE32Compressed
    {value : BitVec 32}
    (small : value.toNat < 128) :
    (encodeIntoBE32Compressed value).Safe := by
  have length : compressedLength 4 value.toNat = 1 := if_pos small
  intro before offset inside
  by_cases room : before.bufferSize ≤ offset
  · rw [encodeIntoBE32Compressed, if_pos room]
    exact endsInside_exception before tooSmall
  · have encodes := encodes_encodeIntoBE32Compressed value
    rw [Encodes, length_compress, length] at encodes
    obtain ⟨after, ran, wrote⟩ := encodes before offset (by omega)
    have size := wrote.bufferSize (by rw [length_compress, length]; omega)
    rw [ran]
    exact ⟨size, by omega⟩

/-- There is no check for the last group. -/
theorem encodeGroups_eq_undefined
    {groups value : Nat} {before : Buffer}
    {offset : Nat}
    (size : before.bufferSize + 1 = offset + compressedLength groups value) :
    encodeGroups groups value before offset = .error .undefined := by
  induction groups generalizing value before offset with
  | zero =>
      rw [compressedLength] at size
      rw [encodeGroups, Buffer.write, if_neg (by omega)]
      rfl
  | succ groups ih =>
      rw [compressedLength] at size
      rw [encodeGroups]
      split
      next last =>
        rw [if_pos last] at size
        rw [Buffer.write, if_neg (by omega)]
        rfl
      next marked =>
        rw [if_neg marked] at size
        have positive := one_le_compressedLength groups (value >>> 7)
        rw [if_neg (by omega : ¬before.bufferSize ≤ offset)]
        obtain ⟨between, wrote, wroteHead⟩ := write_eq_ok
          (by omega : offset < before.bufferSize)
          (BitVec.ofNat 8 (128 ||| (value % 128)))
        have kept := wroteHead.bufferSize
          (by simp only [List.length_singleton]; omega)
        rw [wrote]
        exact ih (by omega)

theorem exposed_encodeIntoBE32Compressed
    {value : BitVec 32}
    (great : ¬value.toNat < 128) :
    (encodeIntoBE32Compressed value).Exposed := by
  have positive := one_le_compressedLength 3 (value.toNat >>> 7)
  have length : compressedLength 4 value.toNat =
      compressedLength 3 (value.toNat >>> 7) + 1 := if_neg great
  refine ⟨compressedLength 3 (value.toNat >>> 7), ?_⟩
  intro before offset size
  rw [encodeIntoBE32Compressed,
    if_neg (by omega : ¬before.bufferSize ≤ offset)]
  exact encodeGroups_eq_undefined (by omega)

variable {type : BasicDataElement}

/-! ## Basic data elements -/

namespace BasicDataElement

/-- These values are encoded safely. -/
def EncodesSafely : (self : BasicDataElement) → self.SimpleDataType → Prop
  | .asciiChar, _ | .boolean, _ | .byte, _ | .octet, _ => False
  | .octetPairBE, _ | .octetPairLE, _ => False
  | .asciiString, value => value = []
  | .opaqueData, value => value = [] ∨ 2 ^ 32 ≤ value.length
  | _, _ => True

theorem safe_encodeCharacters (value : List (BitVec 32)) :
    (encodeCharacters value).Safe := by
  induction value with
  | nil => exact .nothing
  | cons character rest ih =>
      exact (safe_encodeIntoBE (by decide) _).andThen fun _ =>
        ih

theorem safe_encodeInto
    {value : type.SimpleDataType}
    (safely : type.EncodesSafely value) :
    (type.encodeInto value).Safe := by
  cases type with
  | asciiString =>
      rw [EncodesSafely] at safely
      subst safely
      exact (safe_encodeIntoBE (by decide) _).andThen fun _ => .nothing
  | unicodeString =>
      exact (safe_encodeIntoBE (by decide) _).andThen fun _ =>
        safe_encodeCharacters _
  | opaqueData =>
      intro before offset inside
      rw [encodeInto, encodeOpaqueData]
      split
      · exact endsInside_exception before _
      · obtain none | long := safely
        · subst none
          exact ((safe_encodeIntoBE (by decide) _).andThen fun _ => .nothing)
            before offset inside
        · omega
  | asciiChar | boolean | byte | octet | octetPairBE | octetPairLE =>
      cases safely
  | unicodeChar | integer16BE | integer32BE | integer64BE | float32BE
  | float64BE => exact safe_encodeIntoBE (by decide) _
  | integer16LE | integer32LE | integer64LE | float32LE | float64LE =>
      exact safe_encodeIntoLE (by decide) _

theorem exposed_encodeInto
    {value : type.SimpleDataType}
    (unsafely : ¬type.EncodesSafely value) :
    (type.encodeInto value).Exposed := by
  cases type with
  | asciiChar | boolean | byte | octet | octetPairBE | octetPairLE =>
      exact exposed_writeAll (List.cons_ne_nil _ _)
  | asciiString =>
      apply Encoder.Exposed.andThen_second (encodes_encodeIntoBE 4 _)
      apply exposed_writeAll
      intro nothing
      rw [List.take_eq_nil_iff] at nothing
      obtain cut | nothing := nothing
      · rw [cutLength] at cut
        split at cut
        · omega
        · exact unsafely (List.eq_nil_of_length_eq_zero cut)
      · exact unsafely nothing
  | opaqueData =>
      rw [EncodesSafely, not_or] at unsafely
      obtain ⟨room, fails⟩ := Encoder.Exposed.andThen_second
        (encodes_encodeIntoBE 4 (BitVec.ofNat 32 value.length).toNat)
        (exposed_writeAll unsafely.1)
      refine ⟨room, ?_⟩
      intro before offset size
      rw [encodeInto, encodeOpaqueData, if_neg (by omega)]
      exact fails before offset size
  | unicodeChar | unicodeString => exact absurd trivial unsafely
  | integer16BE | integer32BE | integer64BE | float32BE | float64BE =>
      exact absurd trivial unsafely
  | integer16LE | integer32LE | integer64LE | float32LE | float64LE =>
      exact absurd trivial unsafely

end BasicDataElement

/-! ## Elements -/

/-- Every element is encoded safely, up to one that cannot be encoded at all. -/
def EachSafely {α : Type} (safely written : α → Prop) : List α → Prop
  | [] => True
  | element :: rest =>
      safely element ∧ (written element → EachSafely safely written rest)

section Elements

variable {α : Type} {encode : α → Encoder} {safely written : α → Prop}
  {elements : List α}

theorem safe_encodeAll
    (safe : ∀ element, safely element → (encode element).Safe)
    (writes : ∀ element before offset after,
      encode element before offset = .ok after → written element)
    (each : EachSafely safely written elements) :
    (encodeAll encode elements).Safe := by
  induction elements with
  | nil => exact .nothing
  | cons element rest ih =>
      rw [EachSafely] at each
      apply Encoder.Safe.andThen (safe element each.1)
      rintro ⟨before, offset, after, ran⟩
      exact ih
        (each.2 (writes element before offset after ran))

theorem exposed_encodeAll
    {layout : α → List Octet}
    (exposed : ∀ element, ¬safely element → (encode element).Exposed)
    (encodes : ∀ element, written element →
      Encodes (encode element) (layout element))
    (some : ¬EachSafely safely written elements) :
    (encodeAll encode elements).Exposed := by
  induction elements with
  | nil => exact absurd trivial some
  | cons element rest ih =>
      rw [EachSafely, not_and_or] at some
      obtain here | later := some
      · exact (exposed element here).andThen_first (encodeAll encode rest)
      · rw [Classical.not_imp] at later
        exact (ih later.2).andThen_second
          (encodes element later.1)

theorem safe_encodeCounted
    (safe : elements.length < 2 ^ 32 → (encodeAll encode elements).Safe) :
    (encodeCounted encode elements).Safe := by
  intro before offset inside
  rw [encodeCounted]
  split
  · exact endsInside_exception before _
  · exact ((safe_encodeIntoBE (by decide) _).andThen fun _ =>
      safe (by omega)) before offset inside

theorem exposed_encodeCounted
    (small : elements.length < 2 ^ 32)
    (exposed : (encodeAll encode elements).Exposed) :
    (encodeCounted encode elements).Exposed := by
  obtain ⟨room, fails⟩ := exposed.andThen_second
    (encodes_encodeIntoBE 4 (BitVec.ofNat 32 elements.length).toNat)
  refine ⟨room, ?_⟩
  intro before offset size
  rw [encodeCounted, if_neg (by omega)]
  exact fails before offset size

end Elements

/-- No encoder is gone, and what it encodes is encoded safely. -/
def SlotSafely (type : BasicDataElement) :
    Option type.SimpleDataType → Prop
  | none => False
  | some value => type.EncodesSafely value

/-- An encoder is there, and it can encode. -/
def SlotWritten (type : BasicDataElement) :
    Option type.SimpleDataType → Prop
  | none => False
  | some value => writable.basic type value

/-! ## Data elements -/

mutual

/-- Nothing that is written without a check is met, and the numbers of records
have one group each. -/
def Shape.EncodesSafely : (self : Shape) → self.Value → Prop
  | .basic type, value => type.EncodesSafely value
  | .fixedArrayOfBasicType type _ _, value =>
      EachSafely type.EncodesSafely (writable.basic type) value.1
  | .fixedArray protoType _, value =>
      EachSafely protoType.EncodesSafely (protoType.Everywhere writable)
        value.2.1
  | .variableArrayOfBasicType type _, value =>
      value.elements.length < 2 ^ 32 →
        EachSafely (SlotSafely type) (SlotWritten type) value.elements
  | .variableArray protoType, value =>
      value.2.length < 2 ^ 32 →
        EachSafely protoType.EncodesSafely (protoType.Everywhere writable)
          value.2
  | .fixedRecord fields, value =>
      (fields.byteLength value).toNat < 128 ∧ value.1.toNat < 128 ∧
        fields.EncodesSafely value.2

def Fields.EncodesSafely : (self : Fields) → self.Value → Prop
  | .nil, _ => True
  | .cons field rest, value =>
      field.EncodesSafely value.1 ∧
        (field.Everywhere writable value.1 → rest.EncodesSafely value.2)

end

theorem safe_encodeSlot
    (element : Option type.SimpleDataType)
    (safely : SlotSafely type element) :
    (encodeSlot type.encodeInto element).Safe := by
  cases element with
  | none => cases safely
  | some value => exact BasicDataElement.safe_encodeInto safely

theorem exposed_encodeSlot
    (element : Option type.SimpleDataType)
    (unsafely : ¬SlotSafely type element) :
    (encodeSlot type.encodeInto element).Exposed := by
  cases element with
  | none => exact ⟨0, fun _ _ _ => rfl⟩
  | some value => exact BasicDataElement.exposed_encodeInto unsafely

theorem slotWritten_of_encodeSlot
    (element : Option type.SimpleDataType) (before : Buffer) (offset : Nat)
    (after : Buffer × Nat)
    (ran : encodeSlot type.encodeInto element before offset = .ok after) :
    SlotWritten type element := by
  cases element with
  | none => cases ran
  | some value => exact type.writable_of_encodeInto value ran

theorem encodes_encodeSlot
    (element : Option type.SimpleDataType)
    (written : SlotWritten type element) :
    Encodes (encodeSlot type.encodeInto element) (type.slotLayout element) := by
  cases element with
  | none => cases written
  | some value => exact type.encodes value written

mutual

theorem Shape.safe_encodeInto : ∀ (self : Shape) (value : self.Value),
    self.EncodesSafely value → (self.encodeInto value).Safe
  | .basic _, _, safely => BasicDataElement.safe_encodeInto safely
  | .fixedArrayOfBasicType type _ _, _, safely =>
      safe_encodeAll (fun _ => BasicDataElement.safe_encodeInto)
        (fun element _ _ _ => type.writable_of_encodeInto element) safely
  | .fixedArray protoType _, _, safely =>
      safe_encodeAll protoType.safe_encodeInto
        protoType.writable_of_encodeInto safely
  | .variableArrayOfBasicType _ _, _, safely =>
      safe_encodeCounted fun small =>
        safe_encodeAll safe_encodeSlot slotWritten_of_encodeSlot (safely small)
  | .variableArray protoType, _, safely =>
      safe_encodeCounted fun small =>
        safe_encodeAll protoType.safe_encodeInto
          protoType.writable_of_encodeInto (safely small)
  | .fixedRecord fields, value, safely =>
      (safe_encodeIntoBE32Compressed safely.1).andThen fun _ =>
        (safe_encodeIntoBE32Compressed safely.2.1).andThen fun _ =>
          fields.safe_encodeInto value.2 safely.2.2

theorem Fields.safe_encodeInto : ∀ (self : Fields) (value : self.Value),
    self.EncodesSafely value → (self.encodeInto value).Safe
  | .nil, _, _ => .nothing
  | .cons field rest, value, safely =>
      (field.safe_encodeInto value.1 safely.1).andThen
        fun ⟨before, offset, after, ran⟩ =>
          rest.safe_encodeInto value.2 (safely.2
            (field.writable_of_encodeInto value.1 before offset after ran))

end

mutual

theorem Shape.exposed_encodeInto : ∀ (self : Shape) (value : self.Value),
    ¬self.EncodesSafely value → (self.encodeInto value).Exposed
  | .basic _, _, unsafely => BasicDataElement.exposed_encodeInto unsafely
  | .fixedArrayOfBasicType type _ _, _, unsafely =>
      exposed_encodeAll (fun _ => BasicDataElement.exposed_encodeInto)
        type.encodes unsafely
  | .fixedArray protoType _, _, unsafely =>
      exposed_encodeAll protoType.exposed_encodeInto protoType.encodes unsafely
  | .variableArrayOfBasicType _ _, _, unsafely => by
      rw [Shape.EncodesSafely, Classical.not_imp] at unsafely
      exact exposed_encodeCounted unsafely.1
        (exposed_encodeAll exposed_encodeSlot encodes_encodeSlot unsafely.2)
  | .variableArray protoType, _, unsafely => by
      rw [Shape.EncodesSafely, Classical.not_imp] at unsafely
      exact exposed_encodeCounted unsafely.1
        (exposed_encodeAll protoType.exposed_encodeInto protoType.encodes
          unsafely.2)
  | .fixedRecord fields, value, unsafely => by
      rw [Shape.EncodesSafely, not_and_or, not_and_or] at unsafely
      obtain long | version | fieldsUnsafely := unsafely
      · exact (exposed_encodeIntoBE32Compressed long).andThen_first _
      · exact ((exposed_encodeIntoBE32Compressed version).andThen_first
          _).andThen_second (encodes_encodeIntoBE32Compressed _)
      · exact ((fields.exposed_encodeInto value.2 fieldsUnsafely).andThen_second
          (encodes_encodeIntoBE32Compressed _)).andThen_second
            (encodes_encodeIntoBE32Compressed _)

theorem Fields.exposed_encodeInto : ∀ (self : Fields) (value : self.Value),
    ¬self.EncodesSafely value → (self.encodeInto value).Exposed
  | .nil, _, unsafely => absurd trivial unsafely
  | .cons field rest, value, unsafely => by
      rw [Fields.EncodesSafely, not_and_or] at unsafely
      obtain here | later := unsafely
      · exact (field.exposed_encodeInto value.1 here).andThen_first _
      · rw [Classical.not_imp] at later
        exact (rest.exposed_encodeInto value.2 later.2).andThen_second
          (field.encodes value.1 later.1)

end

/-- Decoding and encoding stay inside of every buffer for the data elements of
which no part is read or written without a check, and leave some buffers for all
other ones. -/
theorem Shape.stays_inside (self : Shape) (value : self.Value) :
    ((self.DecodesSafely value → (self.decodeFrom value).Safe) ∧
      (¬self.DecodesSafely value → (self.decodeFrom value).Exposed)) ∧
    ((self.EncodesSafely value → (self.encodeInto value).Safe) ∧
      (¬self.EncodesSafely value → (self.encodeInto value).Exposed)) :=
  ⟨⟨self.safe_decodeFrom value, self.exposed_decodeFrom value⟩,
    self.safe_encodeInto value, self.exposed_encodeInto value⟩

/-- An array of numbers stays inside, and an array of octets does not. -/
theorem Shape.stays_inside_numbers :
    ((Shape.fixedArrayOfBasicType .integer32BE rfl 2).decodeFrom
        ⟨[1, 2], rfl⟩).Safe ∧
      ((Shape.fixedArrayOfBasicType .integer32BE rfl 2).encodeInto
        ⟨[1, 2], rfl⟩).Safe ∧
      ((Shape.fixedArrayOfBasicType .octet rfl 2).encodeInto
        ⟨[1, 2], rfl⟩).Exposed :=
  ⟨(Shape.stays_inside _ _).1.1 trivial,
    (Shape.stays_inside _ _).2.1 ⟨trivial, fun _ => ⟨trivial, fun _ => trivial⟩⟩,
    (Shape.stays_inside _ _).2.2 fun safely => safely.1⟩

/-- The octets that opaque data promises are read from behind the buffer, and an
octet is written there. -/
theorem Shape.stays_inside_fails :
    (¬∀ (self : Shape) (value : self.Value), (self.decodeFrom value).Safe) ∧
      ¬∀ (self : Shape) (value : self.Value), (self.encodeInto value).Safe := by
  constructor
  · intro always
    have read : (Shape.basic .opaqueData).decodeFrom []
        ⟨[0, 0, 0, 1], by decide⟩ 0 = .error .undefined := rfl
    have stops := always (.basic .opaqueData) [] ⟨[0, 0, 0, 1], by decide⟩ 0
      (Nat.zero_le _)
    rw [read] at stops
    exact stops rfl
  · intro always
    have written : (Shape.basic .octet).encodeInto 7 ⟨[], by decide⟩ 0 =
        .error .undefined := rfl
    have ends := always (.basic .octet) 7 ⟨[], by decide⟩ 0 (Nat.zero_le _)
    rw [written] at ends
    exact ends rfl

end Encoding
end OpenRTI
