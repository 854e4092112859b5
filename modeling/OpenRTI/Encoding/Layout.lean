import OpenRTI.Encoding.BufferContents
import OpenRTI.Encoding.DataElement
import Mathlib.Algebra.Order.BigOperators.Group.List

/-!
# The layout of data elements

What a data element is encoded to, without a buffer: the layouts of its parts one
after the other, with a length in front of a variable array and a header in front
of a record.
-/

namespace OpenRTI
namespace Encoding

open Foundation (Octet)
open Foundation.Octets

/-! ## Layouts -/

/-- A length in front of what is counted. -/
def counted (length : Nat) (octets : List Octet) : List Octet :=
  bigEndian 4 (BitVec.ofNat 32 length).toNat ++ octets

namespace BasicDataElement

def characters (value : List (BitVec 32)) : List Octet :=
  value.flatMap fun character => bigEndian 2 (character.setWidth 16).toNat

def layout : (self : BasicDataElement) → self.SimpleDataType → List Octet
  | asciiChar, value => [value]
  | boolean, value => [if value then 1 else 0]
  | byte, value => [value]
  | octet, value => [value]
  | unicodeChar, value => bigEndian 2 (value.setWidth 16).toNat
  | integer16BE, value => bigEndian 2 value.toNat
  | integer16LE, value => littleEndian 2 value.toNat
  | integer32BE, value => bigEndian 4 value.toNat
  | integer32LE, value => littleEndian 4 value.toNat
  | integer64BE, value => bigEndian 8 value.toNat
  | integer64LE, value => littleEndian 8 value.toNat
  | octetPairBE, value => [value.1, value.2]
  | octetPairLE, value => [value.2, value.1]
  | float32BE, value => bigEndian 4 value.toNat
  | float32LE, value => littleEndian 4 value.toNat
  | float64BE, value => bigEndian 8 value.toNat
  | float64LE, value => littleEndian 8 value.toNat
  | asciiString, value =>
      counted (cutLength value.length) (value.take (cutLength value.length))
  | unicodeString, value =>
      counted (cutLength value.length)
        (characters (value.take (cutLength value.length)))
  | opaqueData, value => counted value.length value

/-- The layout of an encoder that is still there. -/
def slotLayout (type : BasicDataElement) :
    Option type.SimpleDataType → List Octet
  | none => []
  | some value => type.layout value

end BasicDataElement

mutual

def Shape.layout : (self : Shape) → self.Value → List Octet
  | .basic type, value => type.layout value
  | .fixedArrayOfBasicType type _ _, value => value.1.flatMap type.layout
  | .fixedArray protoType _, value => value.2.1.flatMap protoType.layout
  | .variableArrayOfBasicType type _, value =>
      counted value.elements.length (value.elements.flatMap type.slotLayout)
  | .variableArray protoType, value =>
      counted value.2.length (value.2.flatMap protoType.layout)
  | .fixedRecord fields, value =>
      compress 4 (BitVec.ofNat 32
          (Shape.getEncodedLength (.fixedRecord fields) value)).toNat ++
        (compress 4 value.1.toNat ++ fields.layout value.2)

def Fields.layout : (self : Fields) → self.Value → List Octet
  | .nil, _ => []
  | .cons field rest, value => field.layout value.1 ++ rest.layout value.2

end

/-! ## Checks of all parts -/

/-- What is asked of the parts of a data element. -/
structure Check where
  basic : (type : BasicDataElement) → type.SimpleDataType → Prop :=
    fun _ _ => True
  slot : Bool → Prop := fun _ => True
  size : Nat → Prop := fun _ => True
  record : (fields : Fields) → BitVec 32 × fields.Value → Prop :=
    fun _ _ => True

mutual

def Shape.Everywhere (check : Check) : (self : Shape) → self.Value → Prop
  | .basic type, value => check.basic type value
  | .fixedArrayOfBasicType type _ _, value =>
      ∀ element ∈ value.1, check.basic type element
  | .fixedArray protoType _, value =>
      ∀ element ∈ value.2.1, protoType.Everywhere check element
  | .variableArrayOfBasicType type _, value =>
      check.size value.elements.length ∧
        ∀ element ∈ value.elements,
          check.slot element.isSome ∧ ∀ held ∈ element, check.basic type held
  | .variableArray protoType, value =>
      check.size value.2.length ∧
        ∀ element ∈ value.2, protoType.Everywhere check element
  | .fixedRecord fields, value =>
      check.record fields value ∧ fields.Everywhere check value.2

def Fields.Everywhere (check : Check) : (self : Fields) → self.Value → Prop
  | .nil, _ => True
  | .cons field rest, value =>
      field.Everywhere check value.1 ∧ rest.Everywhere check value.2

end

/-- No encoder is gone, and what is counted can be counted. -/
def writable : Check where
  basic type value :=
    match type with
    | .opaqueData => value.length < 2 ^ 32
    | _ => True
  slot present := present = true
  size length := length < 2 ^ 32

/-- The header of a record is as long as it was taken for when the length of the
record was computed, and that is small enough for the header. -/
def headed : Check where
  record fields value :=
    Shape.getEncodedLength (.fixedRecord fields) value < 2 ^ 32 ∧
      compressedLength 4 (fields.getEncodedLength value.2) =
        compressedLength 4 (Shape.getEncodedLength (.fixedRecord fields) value)

/-- No string is longer than what its length can be read to. -/
def readable : Check where
  basic type value :=
    match type with
    | .asciiString => value.length < 2 ^ 31
    | .unicodeString => value.length < 2 ^ 30
    | .opaqueData => value.length < 2 ^ 32
    | _ => True

/-- All wide characters are in the basic multilingual plane. -/
def inBasicPlane : Check where
  basic type value :=
    match type with
    | .unicodeChar => value.toNat < 2 ^ 16
    | .unicodeString => ∀ character ∈ value, character.toNat < 2 ^ 16
    | _ => True

/-! ## What is encoded -/

theorem Encodes.nothing :
    Encodes (fun buffer offset => .ok (buffer, offset)) [] := by
  intro before offset _
  exact ⟨before, rfl, .nil before offset⟩

variable {α : Type}

theorem encodes_encodeAll
    {encode : α → Encoder} {layout : α → List Octet}
    {elements : List α}
    (encodes : ∀ element ∈ elements,
      Encodes (encode element) (layout element)) :
    Encodes (encodeAll encode elements) (elements.flatMap layout) := by
  induction elements with
  | nil => exact .nothing
  | cons element rest ih =>
      rw [List.forall_mem_cons] at encodes
      exact encodes.1.andThen (ih encodes.2)

theorem encodes_counted
    {encoder : Encoder} {octets : List Octet}
    (length : Nat) (encodes : Encodes encoder octets) :
    Encodes ((encodeIntoBE32 (BitVec.ofNat 32 length)).andThen encoder)
      (counted length octets) :=
  (encodes_encodeIntoBE 4 (BitVec.ofNat 32 length).toNat).andThen encodes

theorem encodes_encodeCounted
    {encode : α → Encoder} {layout : α → List Octet}
    {elements : List α}
    (small : elements.length < 2 ^ 32)
    (encodes : ∀ element ∈ elements,
      Encodes (encode element) (layout element)) :
    Encodes (encodeCounted encode elements)
      (counted elements.length (elements.flatMap layout)) := by
  intro before offset room
  rw [encodeCounted, if_neg (by omega)]
  exact encodes_counted elements.length (encodes_encodeAll encodes) before
    offset room

variable (type : BasicDataElement)

namespace BasicDataElement

theorem encodes_encodeCharacters (value : List (BitVec 32)) :
    Encodes (encodeCharacters value) (characters value) := by
  induction value with
  | nil => exact .nothing
  | cons character rest ih =>
      exact (encodes_encodeIntoBE 2 (character.setWidth 16).toNat).andThen
        ih

theorem encodes
    (value : type.SimpleDataType) (small : writable.basic type value) :
    Encodes (type.encodeInto value) (type.layout value) := by
  cases type with
  | asciiString => exact encodes_counted _ (encodes_writeAll _)
  | unicodeString => exact encodes_counted _ (encodes_encodeCharacters _)
  | opaqueData =>
      intro before offset room
      rw [encodeInto, encodeOpaqueData,
        if_neg (Nat.not_lt.mpr (Nat.le_of_lt_succ small))]
      exact encodes_counted _ (encodes_writeAll value) before offset room
  | asciiChar | boolean | byte | octet | octetPairBE | octetPairLE =>
      exact encodes_writeAll _
  | unicodeChar | integer16BE | integer32BE | integer64BE | float32BE
  | float64BE => exact encodes_encodeIntoBE _ _
  | integer16LE | integer32LE | integer64LE | float32LE | float64LE =>
      exact encodes_encodeIntoLE _ _

end BasicDataElement

mutual

theorem Shape.encodes : ∀ (self : Shape) (value : self.Value),
    self.Everywhere writable value →
      Encodes (self.encodeInto value) (self.layout value)
  | .basic type, value, small => type.encodes value small
  | .fixedArrayOfBasicType type _ _, _, small =>
      encodes_encodeAll fun element member =>
        type.encodes element (small element member)
  | .fixedArray protoType _, _, small =>
      encodes_encodeAll fun element member =>
        protoType.encodes element (small element member)
  | .variableArrayOfBasicType type _, value, small => by
      refine encodes_encodeCounted small.1 ?_
      intro element member
      obtain ⟨present, held⟩ := small.2 element member
      cases element with
      | none => cases present
      | some element => exact type.encodes element (held element rfl)
  | .variableArray protoType, _, small =>
      encodes_encodeCounted small.1 fun element member =>
        protoType.encodes element (small.2 element member)
  | .fixedRecord fields, value, small =>
      (encodes_encodeIntoBE32Compressed _).andThen
        ((encodes_encodeIntoBE32Compressed value.1).andThen
          (fields.encodes value.2 small.2))

theorem Fields.encodes : ∀ (self : Fields) (value : self.Value),
    self.Everywhere writable value →
      Encodes (self.encodeInto value) (self.layout value)
  | .nil, _, _ => .nothing
  | .cons field rest, value, small =>
      (field.encodes value.1 small.1).andThen (rest.encodes value.2 small.2)

end

/-! ## How long layouts are -/

@[simp] theorem length_counted (length : Nat) (octets : List Octet) :
    (counted length octets).length = 4 + octets.length := by
  rw [counted, List.length_append, length_bigEndian]

theorem counted_ne_nil (length : Nat) (octets : List Octet) :
    counted length octets ≠ [] := by
  apply List.ne_nil_of_length_pos
  rw [length_counted]
  omega

theorem Fields.layout_fixedRecord_ne_nil
    (fields : Fields) (value : (Shape.fixedRecord fields).Value) :
    (Shape.fixedRecord fields).layout value ≠ [] := by
  have positive := one_le_compressedLength 4 value.1.toNat
  apply List.ne_nil_of_length_pos
  rw [Shape.layout, List.length_append, List.length_append,
    length_compress 4 value.1.toNat]
  omega

variable {β : Type}

/-- The length of parts that are as long as they are taken for. -/
theorem length_flatMap_eq_sum
    {layout : α → List β} {length : α → Nat}
    {elements : List α}
    (same : ∀ element ∈ elements, (layout element).length = length element) :
    (elements.flatMap layout).length = (elements.map length).sum := by
  induction elements with
  | nil => rfl
  | cons element rest ih =>
      rw [List.forall_mem_cons] at same
      rw [List.flatMap_cons, List.length_append, same.1, List.map_cons,
        List.sum_cons, ih same.2]

theorem sum_map_le_length_flatMap
    {layout : α → List β} {length : α → Nat}
    {elements : List α}
    (most : ∀ element ∈ elements, length element ≤ (layout element).length) :
    (elements.map length).sum ≤ (elements.flatMap layout).length := by
  induction elements with
  | nil => exact Nat.le_refl 0
  | cons element rest ih =>
      rw [List.forall_mem_cons] at most
      rw [List.flatMap_cons, List.length_append, List.map_cons, List.sum_cons]
      exact Nat.add_le_add most.1 (ih most.2)

variable {length : Nat}

namespace BasicDataElement

theorem cutLength_of_lt
    (small : length < 2 ^ 32) :
    cutLength length = length :=
  if_neg (by omega)

theorem length_characters (value : List (BitVec 32)) :
    (characters value).length = 2 * value.length := by
  induction value with
  | nil => rfl
  | cons character rest ih =>
      rw [characters, List.flatMap_cons, List.length_append, length_bigEndian,
        ← characters, ih, List.length_cons]
      omega

/-- A basic data element of which the length fits is as long as it is taken
for. -/
theorem length_layout
    (value : type.SimpleDataType)
    (small : type.getEncodedLength value < 4 + 2 ^ 32) :
    (type.layout value).length = type.getEncodedLength value := by
  cases type with
  | asciiString =>
      simp only [getEncodedLength] at small
      simp only [layout, getEncodedLength, length_counted,
        cutLength_of_lt (by omega : value.length < 2 ^ 32), List.take_length]
  | unicodeString =>
      simp only [getEncodedLength] at small
      simp only [layout, getEncodedLength, length_counted, length_characters,
        cutLength_of_lt (by omega : value.length < 2 ^ 32), List.take_length]
  | opaqueData => exact length_counted _ _
  | asciiChar | boolean | byte | octet | octetPairBE | octetPairLE => rfl
  | unicodeChar | integer16BE | integer32BE | integer64BE | float32BE
  | float64BE => exact length_bigEndian _ _
  | integer16LE | integer32LE | integer64LE | float32LE | float64LE =>
      exact length_littleEndian _ _

/-- The types with arrays of their own have one length for all values. -/
theorem length_layout_of_hasArray
    {type : BasicDataElement}
    (array : type.hasArray = true)
    (value : type.SimpleDataType) :
    (type.layout value).length = type.getEncodedLength type.default := by
  cases type with
  | byte | octet => rfl
  | integer16BE | integer32BE | integer64BE => exact length_bigEndian _ _
  | integer16LE | integer32LE | integer64LE => exact length_littleEndian _ _
  | _ => cases array

/-- Every basic data element takes an octet at least. -/
theorem layout_ne_nil
    (value : type.SimpleDataType) :
    type.layout value ≠ [] := by
  apply List.ne_nil_of_length_pos
  cases type with
  | asciiString | unicodeString | opaqueData =>
      simp only [layout, length_counted]
      omega
  | asciiChar | boolean | byte | octet | octetPairBE | octetPairLE =>
      exact Nat.succ_pos _
  | unicodeChar | integer16BE | integer32BE | integer64BE | float32BE
  | float64BE => simp [layout]
  | integer16LE | integer32LE | integer64LE | float32LE | float64LE =>
      simp [layout]

end BasicDataElement

/-- Parts that are no shorter than they are taken for are as long if all of them
together are. -/
theorem length_eq_of_length_flatMap_eq
    {layout : α → List β} {length : α → Nat}
    {elements : List α}
    (most : ∀ element ∈ elements, length element ≤ (layout element).length)
    (same : (elements.flatMap layout).length = (elements.map length).sum) :
    ∀ element ∈ elements, (layout element).length = length element := by
  induction elements with
  | nil =>
      intro element member
      cases member
  | cons element rest ih =>
      rw [List.forall_mem_cons] at most ⊢
      rw [List.flatMap_cons, List.length_append, List.map_cons, List.sum_cons]
        at same
      have others := sum_map_le_length_flatMap most.2
      exact ⟨by have := most.1; omega,
        ih most.2 (by have := most.1; omega)⟩

/-- The length of parts that all have the same length. -/
theorem length_flatMap_const
    {layout : α → List β} {elements : List α}
    (same : ∀ element ∈ elements, (layout element).length = length) :
    (elements.flatMap layout).length = length * elements.length := by
  induction elements with
  | nil => rfl
  | cons element rest ih =>
      rw [List.forall_mem_cons] at same
      rw [List.flatMap_cons, List.length_append, same.1,
        ih same.2, List.length_cons, Nat.mul_succ,
        Nat.add_comm]

theorem length_slotLayout
    {type : BasicDataElement}
    (array : type.hasArray = true)
    {element : Option type.SimpleDataType}
    (present : element.isSome = true) :
    (type.slotLayout element).length =
      type.getEncodedLength type.default := by
  cases element with
  | none => cases present
  | some held => exact type.length_layout_of_hasArray array held

theorem BasicDataElement.getEncodedLength_of_readable
    (value : type.SimpleDataType) (short : readable.basic type value) :
    type.getEncodedLength value < 4 + 2 ^ 32 := by
  cases type with
  | asciiString | unicodeString | opaqueData =>
      simp only [readable] at short
      simp only [getEncodedLength]
      omega
  | _ =>
      simp only [getEncodedLength]
      omega

mutual

/-- A data element whose headers are as long as they are taken for is too. -/
theorem Shape.length_layout : ∀ (self : Shape) (value : self.Value),
    self.Everywhere writable value → self.Everywhere headed value →
      self.Everywhere readable value →
        (self.layout value).length = self.getEncodedLength value
  | .basic type, value, _, _, short =>
      type.length_layout value (type.getEncodedLength_of_readable value short)
  | .fixedArrayOfBasicType type array _, _, _, _, _ =>
      length_flatMap_const fun element _ =>
        type.length_layout_of_hasArray array element
  | .fixedArray protoType _, value, written, exact', short =>
      length_flatMap_eq_sum fun element member =>
        protoType.length_layout element (written element member)
          (exact' element member) (short element member)
  | .variableArrayOfBasicType type array, value, written, _, _ => by
      rw [Shape.layout, Shape.getEncodedLength, length_counted,
        length_flatMap_const fun element member =>
          length_slotLayout array (written.2 element member).1]
  | .variableArray protoType, value, written, exact', short => by
      rw [Shape.layout, Shape.getEncodedLength, length_counted,
        length_flatMap_eq_sum fun element member =>
          protoType.length_layout element (written.2 element member)
            (exact'.2 element member) (short.2 element member)]
  | .fixedRecord fields, value, written, exact', short => by
      have same := fields.length_layout value.2 written.2 exact'.2 short.2
      obtain ⟨small, header⟩ := exact'.1
      have part : fields.getEncodedLength value.2 < 2 ^ 32 := by
        rw [Shape.getEncodedLength] at small
        omega
      rw [Shape.layout, List.length_append, List.length_append,
        length_compress, length_compress, BitVec.toNat_ofNat,
        Nat.mod_eq_of_lt small, ← header, same, Shape.getEncodedLength,
        Nat.mod_eq_of_lt part, Nat.add_assoc]

theorem Fields.length_layout : ∀ (self : Fields) (value : self.Value),
    self.Everywhere writable value → self.Everywhere headed value →
      self.Everywhere readable value →
        (self.layout value).length = self.getEncodedLength value
  | .nil, _, _, _, _ => rfl
  | .cons field rest, value, written, exact', short => by
      rw [Fields.layout, List.length_append,
        field.length_layout value.1 written.1 exact'.1 short.1,
        rest.length_layout value.2 written.2 exact'.2 short.2,
        Fields.getEncodedLength]

end

/-- The length of parts that are each at most so many times as long as they are
taken for. -/
theorem length_flatMap_le
    {layout : α → List β} {length : α → Nat}
    {elements : List α} {factor : Nat}
    (most : ∀ element ∈ elements,
      (layout element).length ≤ factor * length element) :
    (elements.flatMap layout).length ≤ factor * (elements.map length).sum := by
  induction elements with
  | nil => exact Nat.zero_le _
  | cons element rest ih =>
      rw [List.forall_mem_cons] at most
      rw [List.flatMap_cons, List.length_append, List.map_cons, List.sum_cons,
        Nat.mul_add]
      exact Nat.add_le_add most.1 (ih most.2)

/-- A header for more octets is no shorter. -/
theorem Shape.length_header_le
    {fields : Fields} {value : BitVec 32 × fields.Value}
    (small : Shape.getEncodedLength (.fixedRecord fields) value < 2 ^ 32) :
    compressedLength 4 (fields.getEncodedLength value.2 % 2 ^ 32) ≤
      compressedLength 4 (BitVec.ofNat 32
        (Shape.getEncodedLength (.fixedRecord fields) value)).toNat := by
  rw [BitVec.toNat_ofNat, Nat.mod_eq_of_lt small]
  apply compressedLength_mono
  rw [Shape.getEncodedLength] at small ⊢
  rw [Nat.mod_eq_of_lt (by omega)]
  omega

mutual

/-- A data element is no longer than what it is encoded to, and is encoded to
five times as many octets at most. -/
theorem Shape.getEncodedLength_le : ∀ (self : Shape) (value : self.Value),
    self.Everywhere writable value → self.getEncodedLength value < 2 ^ 32 →
      self.getEncodedLength value ≤ (self.layout value).length ∧
        (self.layout value).length ≤ 5 * self.getEncodedLength value
  | .basic type, value, _, small => by
      have same := type.length_layout value
        (by rw [Shape.getEncodedLength] at small; omega)
      rw [Shape.layout, Shape.getEncodedLength, same]
      omega
  | .fixedArrayOfBasicType type array _, _, _, _ => by
      rw [Shape.layout, Shape.getEncodedLength, length_flatMap_const
        fun element _ => type.length_layout_of_hasArray array element]
      omega
  | .fixedArray protoType _, value, written, small => by
      rw [Shape.getEncodedLength] at small ⊢
      rw [Shape.layout]
      have each : ∀ element ∈ value.2.1,
          protoType.getEncodedLength element ≤
              (protoType.layout element).length ∧
            (protoType.layout element).length ≤
              5 * protoType.getEncodedLength element := by
        intro element member
        have part := List.le_sum_of_mem
          (@List.mem_map_of_mem _ _ _ _ protoType.getEncodedLength member)
        exact protoType.getEncodedLength_le element (written element member)
          (by omega)
      exact ⟨sum_map_le_length_flatMap fun element member =>
          (each element member).1,
        length_flatMap_le fun element member => (each element member).2⟩
  | .variableArrayOfBasicType type array, value, written, _ => by
      rw [Shape.layout, Shape.getEncodedLength, length_counted,
        length_flatMap_const fun element member =>
          length_slotLayout array (written.2 element member).1]
      omega
  | .variableArray protoType, value, written, small => by
      rw [Shape.getEncodedLength] at small ⊢
      rw [Shape.layout, length_counted]
      have each : ∀ element ∈ value.2,
          protoType.getEncodedLength element ≤
              (protoType.layout element).length ∧
            (protoType.layout element).length ≤
              5 * protoType.getEncodedLength element := by
        intro element member
        have part := List.le_sum_of_mem
          (@List.mem_map_of_mem _ _ _ _ protoType.getEncodedLength member)
        exact protoType.getEncodedLength_le element (written.2 element member)
          (by omega)
      have least := sum_map_le_length_flatMap fun element member =>
        (each element member).1
      have most := length_flatMap_le fun element member =>
        (each element member).2
      omega
  | .fixedRecord fields, value, written, small => by
      have header := Shape.length_header_le small
      have most := compressedLength_le 4 (BitVec.ofNat 32
        (Shape.getEncodedLength (.fixedRecord fields) value)).toNat
      have least := one_le_compressedLength 4
        (fields.getEncodedLength value.2 % 2 ^ 32)
      rw [Shape.layout, List.length_append, List.length_append,
        length_compress, length_compress]
      have whole : Shape.getEncodedLength (.fixedRecord fields) value =
          compressedLength 4 (fields.getEncodedLength value.2 % 2 ^ 32) +
            compressedLength 4 value.1.toNat +
              fields.getEncodedLength value.2 := by
        rw [Shape.getEncodedLength]
      have part := fields.getEncodedLength_le value.2 written.2 (by omega)
      omega

theorem Fields.getEncodedLength_le : ∀ (self : Fields) (value : self.Value),
    self.Everywhere writable value → self.getEncodedLength value < 2 ^ 32 →
      self.getEncodedLength value ≤ (self.layout value).length ∧
        (self.layout value).length ≤ 5 * self.getEncodedLength value
  | .nil, _, _, _ => by
      exact ⟨Nat.le_refl 0, Nat.le_refl 0⟩
  | .cons field rest, value, written, small => by
      rw [Fields.getEncodedLength] at small ⊢
      have first := field.getEncodedLength_le value.1 written.1 (by omega)
      have others := rest.getEncodedLength_le value.2 written.2 (by omega)
      rw [Fields.layout, List.length_append]
      omega

end

/-! ## Exact lengths -/

/-- A data element that is encoded to as many octets as it is taken for. -/
def Shape.Exact (self : Shape) (value : self.Value) : Prop :=
  self.getEncodedLength value < 2 ^ 32 ∧
    (self.layout value).length = self.getEncodedLength value

def Fields.Exact (self : Fields) (value : self.Value) : Prop :=
  self.getEncodedLength value < 2 ^ 32 ∧
    (self.layout value).length = self.getEncodedLength value

variable {protoType : Shape}

/-- The elements of an array that is exact are exact. -/
theorem Shape.exact_elements
    {elements : List protoType.Value}
    (written : ∀ element ∈ elements, protoType.Everywhere writable element)
    (small : (elements.map protoType.getEncodedLength).sum < 2 ^ 32)
    (same : (elements.flatMap protoType.layout).length =
      (elements.map protoType.getEncodedLength).sum) :
    ∀ element ∈ elements, protoType.Exact element := by
  have fits : ∀ element ∈ elements,
      protoType.getEncodedLength element < 2 ^ 32 := by
    intro element member
    have part := List.le_sum_of_mem
      (@List.mem_map_of_mem _ _ _ _ protoType.getEncodedLength member)
    omega
  have each := length_eq_of_length_flatMap_eq (fun element member =>
    (protoType.getEncodedLength_le element (written element member)
      (fits element member)).1) same
  intro element member
  exact ⟨fits element member, each element member⟩

theorem Shape.Exact.fixedArray
    {value : (Shape.fixedArray protoType length).Value}
    (exactly : (Shape.fixedArray protoType length).Exact value)
    (written : (Shape.fixedArray protoType length).Everywhere writable value) :
    ∀ element ∈ value.2.1, protoType.Exact element := by
  obtain ⟨small, same⟩ := exactly
  rw [Shape.getEncodedLength] at small same
  rw [Shape.layout] at same
  exact Shape.exact_elements written small same

theorem Shape.Exact.variableArray
    {value : (Shape.variableArray protoType).Value}
    (exactly : (Shape.variableArray protoType).Exact value)
    (written : (Shape.variableArray protoType).Everywhere writable value) :
    ∀ element ∈ value.2, protoType.Exact element := by
  obtain ⟨small, same⟩ := exactly
  rw [Shape.getEncodedLength] at small same
  rw [Shape.layout, length_counted] at same
  exact Shape.exact_elements written.2 (by omega) (Nat.add_left_cancel same)

/-- The header of a record that is exact is as long as it was taken for. -/
theorem Shape.Exact.fixedRecord
    {fields : Fields} {value : (Shape.fixedRecord fields).Value}
    (exactly : (Shape.fixedRecord fields).Exact value)
    (written : (Shape.fixedRecord fields).Everywhere writable value) :
    compressedLength 4 (fields.getEncodedLength value.2) =
        compressedLength 4
          (Shape.getEncodedLength (.fixedRecord fields) value) ∧
      fields.Exact value.2 := by
  obtain ⟨small, same⟩ := exactly
  have header := Shape.length_header_le small
  have whole : Shape.getEncodedLength (.fixedRecord fields) value =
      compressedLength 4 (fields.getEncodedLength value.2 % 2 ^ 32) +
        compressedLength 4 value.1.toNat +
          fields.getEncodedLength value.2 := by
    rw [Shape.getEncodedLength]
  have part := fields.getEncodedLength_le value.2 written.2 (by omega)
  rw [Shape.layout, List.length_append, List.length_append,
    length_compress, length_compress] at same
  have inner : fields.getEncodedLength value.2 % 2 ^ 32 =
      fields.getEncodedLength value.2 := Nat.mod_eq_of_lt (by omega)
  have outer := toNat_ofNat_of_lt small
  rw [inner] at whole header
  rw [outer] at header same
  exact ⟨by omega, by omega, by omega⟩

theorem Fields.Exact.cons
    {field : Shape} {rest : Fields}
    {value : (Fields.cons field rest).Value}
    (exactly : (Fields.cons field rest).Exact value)
    (written : (Fields.cons field rest).Everywhere writable value) :
    field.Exact value.1 ∧ rest.Exact value.2 := by
  obtain ⟨small, same⟩ := exactly
  rw [Fields.getEncodedLength] at small same
  rw [Fields.layout, List.length_append] at same
  have first := field.getEncodedLength_le value.1 written.1 (by omega)
  have others := rest.getEncodedLength_le value.2 written.2 (by omega)
  exact ⟨⟨by omega, by omega⟩, by omega, by omega⟩

mutual

/-- The headers of a data element that is exact are as long as they are taken
for. -/
theorem Shape.headed_of_exact : ∀ (self : Shape) (value : self.Value),
    self.Everywhere writable value → self.Exact value →
      self.Everywhere headed value
  | .basic _, _, _, _ => trivial
  | .fixedArrayOfBasicType _ _ _, _, _, _ => fun _ _ => trivial
  | .fixedArray protoType _, _, written, exactly => fun element member =>
      protoType.headed_of_exact element (written element member)
        (exactly.fixedArray written element member)
  | .variableArrayOfBasicType _ _, _, _, _ =>
      ⟨trivial, fun _ _ => ⟨trivial, fun _ _ => trivial⟩⟩
  | .variableArray protoType, _, written, exactly =>
      ⟨trivial, fun element member =>
        protoType.headed_of_exact element (written.2 element member)
          (exactly.variableArray written element member)⟩
  | .fixedRecord fields, value, written, exactly =>
      ⟨⟨exactly.1, (exactly.fixedRecord written).1⟩,
        fields.headed_of_exact value.2 written.2
          (exactly.fixedRecord written).2⟩

theorem Fields.headed_of_exact : ∀ (self : Fields) (value : self.Value),
    self.Everywhere writable value → self.Exact value →
      self.Everywhere headed value
  | .nil, _, _, _ => trivial
  | .cons field rest, value, written, exactly =>
      ⟨field.headed_of_exact value.1 written.1 (exactly.cons written).1,
        rest.headed_of_exact value.2 written.2 (exactly.cons written).2⟩

end

end Encoding
end OpenRTI
