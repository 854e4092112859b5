import OpenRTI.Encoding.Reading
import OpenRTI.Foundation.FailingState

/-!
# Round trips of data elements

A data element takes as many octets as it says, and is read back from them,
exactly if the header of each record in it is as long as it was taken for, and
what is written fits what it is read into.
-/

namespace OpenRTI
namespace Encoding

open Foundation (Octet)
open Foundation.FailingState (except_bind_eq_ok)
open Foundation.Octets

variable {before : Buffer} {offset : Nat} {result : Buffer × Nat}

/-! ## What can have been written -/

theorem Encoder.andThen_eq_ok
    {first second : Encoder} :
    first.andThen second before offset = .ok result ↔
      ∃ between,
        first before offset = .ok between ∧
          second between.1 between.2 = .ok result :=
  except_bind_eq_ok

variable {α : Type}

theorem exists_of_encodeAll_eq_ok
    {encode : α → Encoder} {elements : List α}
    (ran : encodeAll encode elements before offset = .ok result) :
    ∀ element ∈ elements,
      ∃ buffer index after, encode element buffer index = .ok after := by
  induction elements generalizing before offset with
  | nil =>
      intro element member
      cases member
  | cons element rest ih =>
      rw [encodeAll, except_bind_eq_ok] at ran
      obtain ⟨between, first, others⟩ := ran
      rw [List.forall_mem_cons]
      exact ⟨⟨before, offset, between, first⟩, ih others⟩

theorem exists_of_encodeCounted_eq_ok
    {encode : α → Encoder} {elements : List α}
    (ran : encodeCounted encode elements before offset = .ok result) :
    elements.length < 2 ^ 32 ∧
      ∀ element ∈ elements,
        ∃ buffer index after, encode element buffer index = .ok after := by
  rw [encodeCounted] at ran
  split at ran
  · cases ran
  · rw [Encoder.andThen_eq_ok] at ran
    obtain ⟨between, _, others⟩ := ran
    exact ⟨by omega, exists_of_encodeAll_eq_ok others⟩

theorem BasicDataElement.writable_of_encodeInto
    (type : BasicDataElement) (value : type.SimpleDataType)
    (ran : type.encodeInto value before offset = .ok result) :
    writable.basic type value := by
  cases type with
  | opaqueData =>
      rw [encodeInto, encodeOpaqueData] at ran
      split at ran
      · cases ran
      · simp only [writable]
        omega
  | _ => trivial

mutual

/-- What is encoded without a failure is writable. -/
theorem Shape.writable_of_encodeInto : ∀ (self : Shape) (value : self.Value)
    (before : Buffer) (offset : Nat) (result : Buffer × Nat),
    self.encodeInto value before offset = .ok result →
      self.Everywhere writable value
  | .basic type, value, _, _, _, ran => type.writable_of_encodeInto value ran
  | .fixedArrayOfBasicType type _ _, _, _, _, _, ran => by
      intro element member
      obtain ⟨_, _, _, first⟩ := exists_of_encodeAll_eq_ok ran element member
      exact type.writable_of_encodeInto element first
  | .fixedArray protoType _, _, _, _, _, ran => by
      intro element member
      obtain ⟨_, _, _, first⟩ := exists_of_encodeAll_eq_ok ran element member
      exact protoType.writable_of_encodeInto element _ _ _ first
  | .variableArrayOfBasicType type _, _, _, _, _, ran => by
      obtain ⟨small, each⟩ := exists_of_encodeCounted_eq_ok ran
      refine ⟨small, ?_⟩
      intro element member
      obtain ⟨_, _, _, first⟩ := each element member
      cases element with
      | none => cases first
      | some held =>
          refine ⟨rfl, ?_⟩
          rintro _ ⟨⟩
          exact type.writable_of_encodeInto held first
  | .variableArray protoType, _, _, _, _, ran => by
      obtain ⟨small, each⟩ := exists_of_encodeCounted_eq_ok ran
      refine ⟨small, ?_⟩
      intro element member
      obtain ⟨_, _, _, first⟩ := each element member
      exact protoType.writable_of_encodeInto element _ _ _ first
  | .fixedRecord fields, value, _, _, _, ran => by
      rw [Shape.encodeInto, Encoder.andThen_eq_ok] at ran
      obtain ⟨_, _, ran⟩ := ran
      rw [Encoder.andThen_eq_ok] at ran
      obtain ⟨_, _, ran⟩ := ran
      exact ⟨trivial, fields.writable_of_encodeInto value.2 _ _ _ ran⟩

theorem Fields.writable_of_encodeInto : ∀ (self : Fields) (value : self.Value)
    (before : Buffer) (offset : Nat) (result : Buffer × Nat),
    self.encodeInto value before offset = .ok result →
      self.Everywhere writable value
  | .nil, _, _, _, _, _ => trivial
  | .cons field rest, value, _, _, _, ran => by
      rw [Fields.encodeInto, Encoder.andThen_eq_ok] at ran
      obtain ⟨_, first, others⟩ := ran
      exact ⟨field.writable_of_encodeInto value.1 _ _ _ first,
        rest.writable_of_encodeInto value.2 _ _ _ others⟩

end

variable {β : Type}

/-! ## What can have been read -/

theorem except_map_eq_ok
    {ε : Type} {change : α → β}
    {computed : Except ε α} {result : β} :
    computed.map change = .ok result ↔
      ∃ value, computed = .ok value ∧ change value = result := by
  cases computed <;> simp [Except.map]

theorem withContext_eq_ok
    {context : String} {computed : Except Failure α}
    {result : α} :
    withContext context computed = .ok result ↔ computed = .ok result := by
  cases computed with
  | ok value => rfl
  | error failure => cases failure <;> simp [withContext]

variable {count : Nat} {buffer : Buffer} {index : Nat}

theorem length_of_readAll
    {read : List Octet × Nat}
    (ran : readAll count buffer index = .ok read) :
    read.1.length = count := by
  induction count generalizing index read with
  | zero =>
      cases ran
      rfl
  | succ count ih =>
      rw [readAll, except_bind_eq_ok] at ran
      obtain ⟨octet, _, ran⟩ := ran
      rw [except_bind_eq_ok] at ran
      obtain ⟨others, ranOthers, same⟩ := ran
      cases same
      rw [List.length_cons, ih ranOthers]

namespace BasicDataElement

theorem length_of_decodeCharacters
    {read : List (BitVec 32) × Nat}
    (ran : decodeCharacters count buffer index = .ok read) :
    read.1.length = count := by
  induction count generalizing index read with
  | zero =>
      cases ran
      rfl
  | succ count ih =>
      rw [decodeCharacters, except_bind_eq_ok] at ran
      obtain ⟨first, _, ran⟩ := ran
      rw [except_bind_eq_ok] at ran
      obtain ⟨second, _, ran⟩ := ran
      rw [except_bind_eq_ok] at ran
      obtain ⟨others, ranOthers, same⟩ := ran
      cases same
      rw [List.length_cons, ih ranOthers]

theorem signedLength_lt (length : BitVec 32) :
    signedLength length < 2 ^ 31 := by
  have most := length.toInt_lt
  rw [signedLength]
  omega

/-- What is read can be read again. -/
theorem readable_of_decodeFrom
    (type : BasicDataElement)
    {read : type.SimpleDataType × Nat}
    (ran : type.decodeFrom buffer index = .ok read) :
    readable.basic type read.1 := by
  cases type with
  | asciiString =>
      rw [decodeFrom, decodeAsciiString, except_bind_eq_ok] at ran
      obtain ⟨length, _, ran⟩ := ran
      rw [except_bind_eq_ok] at ran
      obtain ⟨_, _, ran⟩ := ran
      simp only [readable, length_of_readAll ran]
      exact signedLength_lt length.1
  | unicodeString =>
      rw [decodeFrom, decodeUnicodeString, except_bind_eq_ok] at ran
      obtain ⟨length, _, ran⟩ := ran
      simp only at ran
      split at ran
      · cases ran
      · rw [except_bind_eq_ok] at ran
        obtain ⟨_, _, ran⟩ := ran
        simp only [readable, length_of_decodeCharacters ran]
        omega
  | opaqueData =>
      rw [decodeFrom, decodeOpaqueData, except_bind_eq_ok] at ran
      obtain ⟨length, _, ran⟩ := ran
      simp only [readable, length_of_readAll ran]
      exact length.1.isLt
  | _ => trivial

end BasicDataElement

/-! ## Elements that have been read -/

theorem exists_of_decodeAll_eq_ok
    {context : Nat → String} {decode : α → Decoder α}
    {elements : List α}
    {result : { read : List α // read.length = elements.length } × Nat}
    (ran : decodeAll context decode elements count buffer index = .ok result) :
    ∀ element ∈ elements,
      ∃ start read, decode element buffer start = .ok read := by
  induction elements generalizing count index with
  | nil =>
      intro element member
      cases member
  | cons element rest ih =>
      rw [decodeAll, except_bind_eq_ok] at ran
      obtain ⟨first, ranFirst, ran⟩ := ran
      rw [except_bind_eq_ok] at ran
      obtain ⟨others, ranOthers, _⟩ := ran
      rw [List.forall_mem_cons]
      exact ⟨⟨index, first, withContext_eq_ok.mp ranFirst⟩,
        ih ranOthers⟩

/-- The elements that are read from what was written fit it, if each of them fits
what it has been read from and stops where that ends. -/
theorem forall₂_of_decodeAll
    {context : Nat → String} {decode : α → Decoder α}
    {layout : β → List Octet} {relation : β → α → α → Prop}
    {fits : β → α → Prop}
    (good : β → Prop)
    (each : ∀ value prior index read next, good value →
      Holds buffer index (layout value) →
      decode prior buffer index = .ok (read, next) →
      relation value prior read →
        fits value prior ∧ next = index + (layout value).length)
    {values : List β} {elements : List α}
    (allGood : ∀ value ∈ values, good value)
    (holds : Holds buffer index (values.flatMap layout))
    {result : { read : List α // read.length = elements.length } × Nat}
    (ran : decodeAll context decode elements count buffer index = .ok result)
    (reads : Pointwise relation values elements result.1.1) :
    List.Forall₂ fits values elements := by
  induction elements generalizing values count index with
  | nil =>
      cases ran
      cases reads
      exact .nil
  | cons element rest ih =>
      rw [decodeAll, except_bind_eq_ok] at ran
      obtain ⟨first, ranFirst, ran⟩ := ran
      rw [except_bind_eq_ok] at ran
      obtain ⟨others, ranOthers, same⟩ := ran
      cases same
      cases reads with
      | cons readsFirst readsOthers =>
          rw [List.forall_mem_cons] at allGood
          rw [List.flatMap_cons, holds_append] at holds
          obtain ⟨fit, stopped⟩ := each _ _ _ _ _ allGood.1 holds.1
            (withContext_eq_ok.mp ranFirst) readsFirst
          rw [← stopped] at holds
          exact .cons fit
            (ih allGood.2 holds.2 ranOthers readsOthers)

/-! ## What fits -/

/-- A reader that fits stops where the layout ends. -/
theorem Skew.stops
    {written reader : Shape}
    (skew : Skew written reader)
    {value : written.Value} {prior : reader.Value}
    (plane : written.Everywhere inBasicPlane value)
    (fits : skew.Fits value prior)
    (holds : Holds buffer index (written.layout value))
    {read : reader.Value × Nat}
    (ran : reader.decodeFrom prior buffer index = .ok read) :
    read.2 = index + (written.layout value).length := by
  obtain ⟨_, expected, _⟩ := skew.decodes value prior plane fits buffer index
    holds
  rw [expected, Except.ok.injEq] at ran
  rw [← ran]

theorem exists_buffer
    {size : Nat}
    (small : size ≤ 2 ^ 63) :
    ∃ buffer : Buffer, buffer.bufferSize = size := by
  refine ⟨⟨List.replicate size 0, ?_⟩, List.length_replicate⟩
  rw [List.length_replicate]
  exact small

/-- The octets of a record that is exact end where its header tells. -/
theorem Shape.Exact.length_header
    {fields : Fields} {value : (Shape.fixedRecord fields).Value}
    (exactly : (Shape.fixedRecord fields).Exact value) :
    (fields.header value).length + (fields.layout value.2).length =
      (fields.byteLength value).toNat := by
  obtain ⟨small, same⟩ := exactly
  rw [Fields.byteLength, toNat_ofNat_of_lt small, ← same, Shape.layout,
    ← List.append_assoc, List.length_append, Fields.header, Fields.byteLength]

mutual

/-- What has been read back fits. -/
theorem Shape.fits_of_reads : ∀ (self : Shape) (value prior : self.Value)
    (buffer : Buffer) (index : Nat) (read : self.Value) (next : Nat),
    self.Everywhere writable value → self.Exact value →
      self.Everywhere inBasicPlane value →
        Holds buffer index (self.layout value) →
          self.decodeFrom prior buffer index = .ok (read, next) →
            (Skew.refl self).Reads value prior read →
              (Skew.refl self).Fits value prior
  | .basic type, value, _, _, _, read, _, _, _, _, _, ran, reads => by
      have short := type.readable_of_decodeFrom ran
      rw [Skew.refl, Skew.Reads] at reads
      rw [Skew.refl, Skew.Fits]
      rw [reads] at short
      exact short
  | .fixedArrayOfBasicType _ _ _, _, _, _, _, _, _, _, _, _, _, _, _ => trivial
  | .fixedArray protoType length, value, prior, buffer, index, read, next,
      written, exactly, plane, holds, ran, reads => by
      rw [Shape.decodeFrom_fixedArray, except_map_eq_ok] at ran
      obtain ⟨elements, ran, same⟩ := ran
      cases same
      refine forall₂_of_decodeAll (fun element =>
        protoType.Everywhere writable element ∧ protoType.Exact element ∧
          protoType.Everywhere inBasicPlane element) ?_ ?_ holds ran reads.2
      · intro element other start got stop good there first readsFirst
        have fit := protoType.fits_of_reads element other buffer start got stop
          good.1 good.2.1 good.2.2 there first readsFirst
        exact ⟨fit, (Skew.refl protoType).stops good.2.2 fit there first⟩
      · intro element member
        exact ⟨written element member, exactly.fixedArray written element member,
          plane element member⟩
  | .variableArrayOfBasicType type array, value, prior, buffer, index, read,
      next, written, exactly, plane, holds, ran, reads => by
      refine ⟨written.1, fun element member => (written.2 element member).1, ?_⟩
      obtain ⟨room, length, elements⟩ := holds_counted holds
      rw [Shape.decodeFrom_variableArrayOfBasicType type array prior room length
        (toNat_ofNat_of_lt written.1), except_map_eq_ok] at ran
      obtain ⟨got, ran, _⟩ := ran
      intro element member
      obtain ⟨_, _, first⟩ := exists_of_decodeAll_eq_ok ran element member
      cases element with
      | none => cases first
      | some _ => rfl
  | .variableArray protoType, value, prior, buffer, index, read, next,
      written, exactly, plane, holds, ran, reads => by
      obtain ⟨room, length, elements⟩ := holds_counted holds
      rw [Shape.decodeFrom_variableArray protoType prior room length
        (toNat_ofNat_of_lt written.1), except_map_eq_ok] at ran
      obtain ⟨got, ran, same⟩ := ran
      cases same
      refine ⟨written.1, ?_⟩
      refine forall₂_of_decodeAll (fun element =>
        protoType.Everywhere writable element ∧ protoType.Exact element ∧
          protoType.Everywhere inBasicPlane element) ?_ ?_ elements ran reads.2
      · intro element other start got stop good there first readsFirst
        have fit := protoType.fits_of_reads element other buffer start got stop
          good.1 good.2.1 good.2.2 there first readsFirst
        exact ⟨fit, (Skew.refl protoType).stops good.2.2 fit there first⟩
      · intro element member
        exact ⟨written.2 element member,
          exactly.variableArray written element member, plane.2 element member⟩
  | .fixedRecord fields, value, prior, buffer, index, read, next, written,
      exactly, plane, holds, ran, reads => by
      rw [Shape.layout, holds_append, holds_append] at holds
      obtain ⟨length, version, parts⟩ := holds
      rw [Shape.decodeFrom_fixedRecord fields prior
        ((decodes_decodeFromBE32Compressed (fields.byteLength value)).ran length)
        ((decodes_decodeFromBE32Compressed value.1).ran version)
        (sizeSum_of_holds length _), except_map_eq_ok] at ran
      obtain ⟨got, ran, same⟩ := ran
      cases same
      rw [Nat.add_assoc, ← List.length_append] at ran parts
      exact fields.fits_of_reads value.2 prior.2 _ _ index 0 buffer got.1 got.2
        written.2 (exactly.fixedRecord written).2 plane.2 exactly.length_header
        parts ran reads.2

theorem Fields.fits_of_reads : ∀ (self : Fields) (value prior : self.Value)
    (last position start count : Nat) (buffer : Buffer) (read : self.Value)
    (next : Nat),
    self.Everywhere writable value → self.Exact value →
      self.Everywhere inBasicPlane value →
        position + (self.layout value).length = last →
          Holds buffer (start + position) (self.layout value) →
            self.decodeFrom prior (start + last) count buffer
                (start + position) = .ok (read, next) →
              (FieldsSkew.refl self).Reads value prior read →
                (FieldsSkew.refl self).Fits last position value prior
  | .nil, _, _, _, _, _, _, _, _, _, _, _, _, _, _, _, _ => Or.inl rfl
  | .cons field rest, value, prior, last, position, start, count, buffer, read,
      next, written, exactly, plane, ends, holds, ran, reads => by
      rw [Fields.layout] at ends holds
      rw [FieldsSkew.refl, FieldsSkew.Fits]
      split
      next before =>
        rw [holds_append] at holds
        simp only [Fields.decodeFrom,
          if_pos (by omega : start + position < start + last)] at ran
        rw [except_bind_eq_ok] at ran
        obtain ⟨first, ranFirst, ran⟩ := ran
        rw [except_bind_eq_ok] at ran
        obtain ⟨others, ranOthers, same⟩ := ran
        cases same
        rw [withContext_eq_ok] at ranFirst
        have parts := exactly.cons written
        have fit := field.fits_of_reads value.1 prior.1 buffer _ _ _ written.1
          parts.1 plane.1 holds.1 ranFirst reads.1
        have stopped := (Skew.refl field).stops plane.1 fit holds.1 ranFirst
        rw [stopped, Nat.add_assoc] at ranOthers
        rw [Nat.add_assoc] at holds
        rw [List.length_append, ← Nat.add_assoc] at ends
        exact ⟨fit, rest.fits_of_reads value.2 prior.2 last _ start _ buffer _ _
          written.2 parts.2 plane.2 ends holds.2 ranOthers reads.2⟩
      next after =>
        rw [List.length_append] at ends
        exact ⟨List.eq_nil_of_length_eq_zero (by omega),
          List.eq_nil_of_length_eq_zero (by omega)⟩

end

/-! ## Round trips -/

/-- A data element is encoded to as many octets as it says, no other ones change,
and it is restored from them. -/
def Shape.RoundTrips (self : Shape) (value prior : self.Value) : Prop :=
  ∀ before offset,
    offset + self.getEncodedLength value ≤ before.bufferSize →
      ∃ after read,
        self.encodeInto value before offset =
            .ok (after, offset + self.getEncodedLength value) ∧
          after.bufferSize = before.bufferSize ∧
          (∀ index,
            index < offset ∨ offset + self.getEncodedLength value ≤ index →
              after.octets[index]? = before.octets[index]?) ∧
          self.decodeFrom prior after offset =
            .ok (read, offset + self.getEncodedLength value) ∧
          (Skew.refl self).Reads value prior read

mutual

/-- Nothing is left to check of what has no octets. -/
theorem Shape.everywhere_of_layout_eq_nil {check : Check} :
    ∀ (self : Shape) (value : self.Value),
      self.layout value = [] → self.Everywhere check value
  | .basic type, value, nothing => absurd nothing (type.layout_ne_nil value)
  | .fixedArrayOfBasicType type _ _, _, nothing => fun element member =>
      absurd (List.flatMap_eq_nil_iff.mp nothing element member)
        (type.layout_ne_nil element)
  | .fixedArray protoType _, _, nothing => fun element member =>
      protoType.everywhere_of_layout_eq_nil element
        (List.flatMap_eq_nil_iff.mp nothing element member)
  | .variableArrayOfBasicType _ _, _, nothing =>
      absurd nothing (counted_ne_nil _ _)
  | .variableArray _, _, nothing => absurd nothing (counted_ne_nil _ _)
  | .fixedRecord fields, value, nothing =>
      absurd nothing (fields.layout_fixedRecord_ne_nil value)

theorem Fields.everywhere_of_layout_eq_nil {check : Check} :
    ∀ (self : Fields) (value : self.Value),
      self.layout value = [] → self.Everywhere check value
  | .nil, _, _ => trivial
  | .cons field rest, value, nothing => by
      rw [Fields.layout, List.append_eq_nil_iff] at nothing
      exact ⟨field.everywhere_of_layout_eq_nil value.1 nothing.1,
        rest.everywhere_of_layout_eq_nil value.2 nothing.2⟩

end

theorem exists_of_forall₂
    {relation : α → β → Prop} {first : List α}
    {second : List β}
    (related : List.Forall₂ relation first second)
    {element : α}
    (member : element ∈ first) :
    ∃ other, relation element other := by
  induction related with
  | nil => cases member
  | cons same _ ih =>
      obtain rfl | member := List.mem_cons.mp member
      · exact ⟨_, same⟩
      · exact ih member

mutual

/-- What fits can be read. -/
theorem Shape.readable_of_fits : ∀ (self : Shape) (value prior : self.Value),
    (Skew.refl self).Fits value prior → self.Everywhere readable value
  | .basic _, _, _, fits => fits
  | .fixedArrayOfBasicType type array _, _, _, _ => fun element _ =>
      BasicDataElement.readable_of_hasArray array element
  | .fixedArray protoType _, _, _, fits => fun element member => by
      obtain ⟨other, fit⟩ := exists_of_forall₂ fits member
      exact protoType.readable_of_fits element other fit
  | .variableArrayOfBasicType _ array, _, _, _ =>
      ⟨trivial, fun _ _ =>
        ⟨trivial, fun element _ =>
          BasicDataElement.readable_of_hasArray array element⟩⟩
  | .variableArray protoType, _, _, fits =>
      ⟨trivial, fun element member => by
        obtain ⟨other, fit⟩ := exists_of_forall₂ fits.2 member
        exact protoType.readable_of_fits element other fit⟩
  | .fixedRecord fields, value, prior, fits =>
      ⟨trivial, fields.readable_of_fits value.2 prior.2 _ _ fits⟩

theorem Fields.readable_of_fits : ∀ (self : Fields) (value prior : self.Value)
    (last position : Nat),
    (FieldsSkew.refl self).Fits last position value prior →
      self.Everywhere readable value
  | .nil, _, _, _, _, _ => trivial
  | .cons field rest, value, prior, last, position, fits => by
      rw [FieldsSkew.refl, FieldsSkew.Fits] at fits
      split at fits
      · exact ⟨field.readable_of_fits value.1 prior.1 fits.1,
          rest.readable_of_fits value.2 prior.2 _ _ fits.2⟩
      · exact ⟨field.everywhere_of_layout_eq_nil value.1 fits.1,
          rest.everywhere_of_layout_eq_nil value.2 fits.2⟩

end

theorem Shape.roundTrips_of_fits
    {self : Shape} {value prior : self.Value}
    (plane : self.Everywhere inBasicPlane value)
    (written : self.Everywhere writable value)
    (header : self.Everywhere headed value)
    (fits : (Skew.refl self).Fits value prior) :
    self.RoundTrips value prior := by
  have length := self.length_layout value written header
    (self.readable_of_fits value prior fits)
  intro before offset room
  rw [← length] at room ⊢
  obtain ⟨after, ran, wrote⟩ := self.encodes value written before offset room
  obtain ⟨read, got, reads⟩ := (Skew.refl self).decodes value prior plane fits
    after offset (wrote.holds room)
  exact ⟨after, read, ran, wrote.bufferSize room,
    fun index outside => wrote.elsewhere room outside, got, reads⟩

theorem Shape.fits_of_roundTrips
    {self : Shape} {value prior : self.Value}
    (plane : self.Everywhere inBasicPlane value)
    (small : self.getEncodedLength value < 2 ^ 32)
    (trips : self.RoundTrips value prior) :
    self.Everywhere writable value ∧ self.Everywhere headed value ∧
      (Skew.refl self).Fits value prior := by
  -- there is room for what is written even where it is longer than it should be
  obtain ⟨before, size⟩ := exists_buffer
    (by omega : 5 * self.getEncodedLength value ≤ 2 ^ 63)
  obtain ⟨after, read, ran, _, _, got, reads⟩ :=
    trips before 0 (by omega)
  have written := self.writable_of_encodeInto value _ _ _ ran
  have bounds := self.getEncodedLength_le value written small
  obtain ⟨after', ran', wrote⟩ :=
    self.encodes value written before 0 (by omega)
  rw [ran, Except.ok.injEq, Prod.mk.injEq] at ran'
  obtain ⟨rfl, same⟩ := ran'
  have exactly : self.Exact value := ⟨small, by omega⟩
  exact ⟨written, self.headed_of_exact value written exactly,
    self.fits_of_reads value prior after 0 read _ written exactly plane
      (wrote.holds (by omega)) got reads⟩

/-- A round trip needs no more than that what is written fits the header that is
written in front of it, and what it is read into.  All of that is needed where the
length fits in 32 bits. -/
theorem Shape.round_trips
    (self : Shape)
    (value prior : self.Value)
    (plane : self.Everywhere inBasicPlane value) :
    (self.Everywhere writable value ∧ self.Everywhere headed value ∧
        (Skew.refl self).Fits value prior →
      self.RoundTrips value prior) ∧
    (self.getEncodedLength value < 2 ^ 32 → self.RoundTrips value prior →
      self.Everywhere writable value ∧ self.Everywhere headed value ∧
        (Skew.refl self).Fits value prior) :=
  ⟨fun fine => roundTrips_of_fits plane fine.1 fine.2.1 fine.2.2,
    fits_of_roundTrips plane⟩

/-- An octet and two bytes in a variable array. -/
def octetsFields : Fields :=
  .cons (.basic .octet) (.cons (.variableArrayOfBasicType .byte rfl) .nil)

/-- A record of octets is restored, behind its header, into one with an empty array. -/
theorem Shape.round_trips_octets :
    (Shape.fixedRecord octetsFields).RoundTrips
      (1, (5, ({ elements := [some 1, some 2], capacity := 2 }, ())))
      (0, (0, ({}, ()))) := by
  let value : (Shape.fixedRecord octetsFields).Value :=
    (1, (5, ({ elements := [some 1, some 2], capacity := 2 }, ())))
  have present : ∀ element ∈ [some (1 : Octet), some 2],
      element.isSome = true := by simp
  have plane : (Shape.fixedRecord octetsFields).Everywhere inBasicPlane value :=
    ⟨trivial, trivial, ⟨trivial, fun _ _ => ⟨trivial, fun _ _ => trivial⟩⟩, trivial⟩
  apply (Shape.round_trips _ _ _ plane).1
  refine ⟨⟨trivial, trivial, ⟨?_, ?_⟩, trivial⟩, ⟨⟨?_, ?_⟩, trivial,
    ⟨trivial, ?_⟩, trivial⟩, ?_⟩
  · exact (by decide : 2 < 2 ^ 32)
  · exact fun element member =>
      ⟨present element member, fun _ _ => trivial⟩
  · exact (by decide +kernel :
      Shape.getEncodedLength (.fixedRecord octetsFields) value < 2 ^ 32)
  · decide +kernel
  · exact fun _ _ => ⟨trivial, fun _ _ => trivial⟩
  · -- The octet and the array begin behind the header, inside of the record.
    simp only [octetsFields, Skew.refl, FieldsSkew.refl, Skew.Fits, FieldsSkew.Fits]
    rw [if_pos (by decide +kernel), if_pos (by decide +kernel)]
    refine ⟨trivial, ⟨?_, present, ?_⟩, .inl trivial⟩
    · exact (by decide : 2 < 2 ^ 32)
    · exact (by simp : ∀ element ∈ [some (0 : Octet), some 0],
        element.isSome = true)

/-- A string of 122 characters makes a record of 128 octets, of which the header
takes one more than for the 126 octets of the string. -/
theorem Shape.round_trips_fails :
    ¬∀ (self : Shape) (value prior : self.Value),
      self.Everywhere inBasicPlane value → self.RoundTrips value prior := by
  intro always
  have trips := always (.fixedRecord (.cons (.basic .asciiString) .nil))
    (0, (List.replicate 122 0, ())) (0, ([], ())) ⟨trivial, trivial, trivial⟩
  have plane : Shape.Everywhere inBasicPlane
      (.fixedRecord (.cons (.basic .asciiString) .nil))
      (0, (List.replicate 122 0, ())) := ⟨trivial, trivial, trivial⟩
  have fine := fits_of_roundTrips plane (by decide +kernel) trips
  exact absurd fine.2.1.1.2 (by decide +kernel)

end Encoding
end OpenRTI
