import OpenRTI.Encoding.Layout
import Mathlib.Data.List.Forall2

/-!
# Reading what another shape has written

A record may be read into one with more or fewer fields than the one that was
written, wherever it is inside of a data element.
-/

namespace OpenRTI
namespace Encoding

open Foundation (Octet)
open Foundation.Octets

/-! ## Shapes that differ in their trailing fields -/

mutual

/-- The shape that was written and the one that is read into.  They are the same
up to the fields that only one of two records has. -/
inductive Skew : Shape → Shape → Type
  | basic (type : BasicDataElement) : Skew (.basic type) (.basic type)
  | fixedArrayOfBasicType
      (type : BasicDataElement)
      (array : type.hasArray = true)
      (length : Nat) :
      Skew (.fixedArrayOfBasicType type array length)
        (.fixedArrayOfBasicType type array length)
  | fixedArray {written reader : Shape}
      (protoType : Skew written reader)
      (length : Nat) :
      Skew (.fixedArray written length) (.fixedArray reader length)
  | variableArrayOfBasicType
      (type : BasicDataElement)
      (array : type.hasArray = true) :
      Skew (.variableArrayOfBasicType type array)
        (.variableArrayOfBasicType type array)
  | variableArray {written reader : Shape}
      (protoType : Skew written reader) :
      Skew (.variableArray written) (.variableArray reader)
  | fixedRecord {written reader : Fields}
      (fields : FieldsSkew written reader) :
      Skew (.fixedRecord written) (.fixedRecord reader)

inductive FieldsSkew : Fields → Fields → Type
  | missing (rest : Fields) : FieldsSkew .nil rest
  | unknown (rest : Fields) : FieldsSkew rest .nil
  | cons {written reader : Shape} {writtenRest readerRest : Fields}
      (field : Skew written reader)
      (rest : FieldsSkew writtenRest readerRest) :
      FieldsSkew (.cons written writtenRest) (.cons reader readerRest)

end

mutual

def Skew.refl : (shape : Shape) → Skew shape shape
  | .basic type => .basic type
  | .fixedArrayOfBasicType type array length =>
      .fixedArrayOfBasicType type array length
  | .fixedArray protoType length => .fixedArray (Skew.refl protoType) length
  | .variableArrayOfBasicType type array => .variableArrayOfBasicType type array
  | .variableArray protoType => .variableArray (Skew.refl protoType)
  | .fixedRecord fields => .fixedRecord (FieldsSkew.refl fields)

def FieldsSkew.refl : (fields : Fields) → FieldsSkew fields fields
  | .nil => .missing .nil
  | .cons field rest => .cons (Skew.refl field) (FieldsSkew.refl rest)

end

/-! ## What is to be read -/

/-- A relation of three lists of one length, element by element. -/
inductive Pointwise {α β γ : Type} (relation : α → β → γ → Prop) :
    List α → List β → List γ → Prop
  | nil : Pointwise relation [] [] []
  | cons {first second third firstRest secondRest thirdRest} :
      relation first second third →
      Pointwise relation firstRest secondRest thirdRest →
      Pointwise relation (first :: firstRest) (second :: secondRest)
        (third :: thirdRest)

mutual

/-- What is read into a prior value is what was written.  Fields that were not
written and the prototypes of arrays stay. -/
def Skew.Reads : {written reader : Shape} → Skew written reader →
    written.Value → reader.Value → reader.Value → Prop
  | _, _, .basic _, value, _, read => read = value
  | _, _, .fixedArrayOfBasicType _ _ _, value, _, read => read = value
  | _, _, .fixedArray protoType _, value, prior, read =>
      read.1 = prior.1 ∧
        Pointwise protoType.Reads value.2.1 prior.2.1 read.2.1
  | _, _, .variableArrayOfBasicType _ _, value, _, read =>
      read.elements = value.elements
  | _, .variableArray shape, .variableArray protoType, value, prior, read =>
      read.1 = prior.1 ∧
        Pointwise protoType.Reads value.2
          (resized shape.clone value.2.length prior) read.2
  | _, _, .fixedRecord fields, value, prior, read =>
      read.1 = value.1 ∧ fields.Reads value.2 prior.2 read.2

def FieldsSkew.Reads : {written reader : Fields} → FieldsSkew written reader →
    written.Value → reader.Value → reader.Value → Prop
  | _, _, .missing _, _, prior, read => read = prior
  | _, _, .unknown _, _, _, _ => True
  | _, _, .cons field rest, value, prior, read =>
      field.Reads value.1 prior.1 read.1 ∧ rest.Reads value.2 prior.2 read.2

end

/-! ## What can be read -/

/-- The length that the header of a record has. -/
def Fields.byteLength (self : Fields) (value : BitVec 32 × self.Value) :
    BitVec 32 :=
  BitVec.ofNat 32 (Shape.getEncodedLength (.fixedRecord self) value)

/-- The octets of the header of a record. -/
def Fields.header (self : Fields) (value : BitVec 32 × self.Value) :
    List Octet :=
  compress 4 (self.byteLength value).toNat ++ compress 4 value.1.toNat

mutual

/-- Strings are short enough for their lengths to be read.  A variable array of a
basic type loses no encoder when it is resized.  A record has no octets after its
common fields, and all common fields with octets, but no missing fields, start
before the end that its header tells. -/
def Skew.Fits : {written reader : Shape} → Skew written reader →
    written.Value → reader.Value → Prop
  | _, _, .basic type, value, _ => readable.basic type value
  | _, _, .fixedArrayOfBasicType _ _ _, _, _ => True
  | _, _, .fixedArray protoType _, value, prior =>
      List.Forall₂ protoType.Fits value.2.1 prior.2.1
  | _, _, .variableArrayOfBasicType type _, value, prior =>
      value.elements.length < 2 ^ 32 ∧
        (∀ element ∈ value.elements, element.isSome = true) ∧
          ∀ element ∈
            (prior.resize type.default value.elements.length).elements,
            element.isSome = true
  | _, .variableArray shape, .variableArray protoType, value, prior =>
      value.2.length < 2 ^ 32 ∧
        List.Forall₂ protoType.Fits value.2
          (resized shape.clone value.2.length prior)
  | .fixedRecord writtenFields, _, .fixedRecord fields, value, prior =>
      fields.Fits (writtenFields.byteLength value).toNat
        (writtenFields.header value).length value.2 prior.2

def FieldsSkew.Fits : {written reader : Fields} → FieldsSkew written reader →
    Nat → Nat → written.Value → reader.Value → Prop
  | _, _, .missing rest, last, position, _, _ =>
      rest = .nil ∨ last ≤ position
  | written, _, .unknown _, _, _, value, _ => written.layout value = []
  | .cons shape others, _, .cons field rest, last, position, value, prior =>
      if position < last then
        field.Fits value.1 prior.1 ∧
          rest.Fits last (position + (shape.layout value.1).length)
            value.2 prior.2
      else shape.layout value.1 = [] ∧ others.layout value.2 = []

end

end Encoding
end OpenRTI
