import OpenRTI.Encoding.RoundTrip

/-!
# Records of differing versions

A record with more fields than the reader knows of is not skipped up to its end,
and what follows it is not read from where it is.
-/

namespace OpenRTI
namespace Encoding

open Foundation (Octet)
open Foundation.FailingState (except_bind_eq_ok)
open Foundation.Octets

/-- What is written is read into another shape, and the reader stops where the
writer has. -/
def Skew.CarriesOver
    {written reader : Shape}
    (self : Skew written reader)
    (value : written.Value)
    (prior : reader.Value) : Prop :=
  ∀ before offset,
    offset + (written.layout value).length ≤ before.bufferSize →
      ∃ after read,
        written.encodeInto value before offset =
            .ok (after, offset + (written.layout value).length) ∧
          reader.decodeFrom prior after offset =
            .ok (read, offset + (written.layout value).length) ∧
          self.Reads value prior read

theorem Skew.carriesOver_of_fits
    {written reader : Shape} {self : Skew written reader}
    {value : written.Value} {prior : reader.Value}
    (plane : written.Everywhere inBasicPlane value)
    (writes : written.Everywhere writable value)
    (fits : self.Fits value prior) :
    self.CarriesOver value prior := by
  intro before offset room
  obtain ⟨after, ran, wrote⟩ := written.encodes value writes before offset room
  obtain ⟨read, got, reads⟩ := self.decodes value prior plane fits after offset
    (wrote.holds room)
  exact ⟨after, read, ran, got, reads⟩

/-- The fields that both records have fit on their own. -/
def FieldsSkew.CommonFit : {written reader : Fields} →
    FieldsSkew written reader → written.Value → reader.Value → Prop
  | _, _, .missing _, _, _ => True
  | _, _, .unknown _, _, _ => True
  | _, _, .cons field rest, value, prior =>
      field.Fits value.1 prior.1 ∧ rest.CommonFit value.2 prior.2

/-- A reader that stops where the record ends has read all of the octets that
there are. -/
theorem FieldsSkew.fits_of_stops : ∀ {written reader : Fields}
    (self : FieldsSkew written reader) (value : written.Value)
    (prior : reader.Value) (last position start count : Nat) (buffer : Buffer)
    (read : reader.Value),
    written.Everywhere inBasicPlane value → self.CommonFit value prior →
      last ≤ position + (written.layout value).length →
        Holds buffer (start + position) (written.layout value) →
          reader.decodeFrom prior (start + last) count buffer
              (start + position) =
            .ok (read, start + position + (written.layout value).length) →
            self.Fits last position value prior
  | _, _, .missing _, _, _, _, _, _, _, _, _, _, _, ends, _, _ => Or.inr ends
  | _, _, .unknown _, _, _, _, _, _, _, _, _, _, _, _, _, ran => by
      rw [Fields.decodeFrom, Except.ok.injEq, Prod.mk.injEq] at ran
      exact List.eq_nil_of_length_eq_zero (by omega)
  | .cons shape others, _, .cons field rest, value, prior, last, position,
      start, count, buffer, read, plane, common, ends, holds, ran => by
      rw [Fields.layout, List.length_append] at ends ran
      rw [Fields.layout] at holds
      rw [FieldsSkew.Fits]
      split
      next before =>
        rw [holds_append] at holds
        obtain ⟨first, ranFirst, _⟩ := field.decodes value.1 prior.1 plane.1
          common.1 buffer (start + position) holds.1
        rw [Fields.decodeFrom_of_lt prior (by omega) ranFirst,
          except_map_eq_ok] at ran
        obtain ⟨left, ranRest, same⟩ := ran
        rw [Prod.mk.injEq] at same
        rw [Nat.add_assoc] at holds ranRest
        refine ⟨common.1, rest.fits_of_stops value.2 prior.2 last _ start
          (count + 1) buffer left.1 plane.2 common.2 (by omega) holds.2 ?_⟩
        rw [ranRest]
        congr 1
        ext
        · rfl
        · rw [same.2]
          omega
      next after =>
        rw [Fields.decodeFrom_of_le _ _ (by omega), Except.ok.injEq,
          Prod.mk.injEq] at ran
        exact ⟨List.eq_nil_of_length_eq_zero (by omega),
          List.eq_nil_of_length_eq_zero (by omega)⟩

/-- No record ends before its header tells. -/
theorem Fields.length_byteLength_le
    {fields : Fields} {value : (Shape.fixedRecord fields).Value}
    (writes : (Shape.fixedRecord fields).Everywhere writable value)
    (small : (Shape.fixedRecord fields).getEncodedLength value < 2 ^ 32) :
    (fields.byteLength value).toNat ≤
      (fields.header value).length + (fields.layout value.2).length := by
  have bounds := Shape.getEncodedLength_le _ value writes small
  rw [Shape.layout, ← List.append_assoc, List.length_append] at bounds
  rw [Fields.header, Fields.byteLength, toNat_ofNat_of_lt small]
  rw [toNat_ofNat_of_lt small] at bounds
  exact bounds.1

theorem FieldsSkew.fits_of_carriesOver
    {written reader : Fields} {self : FieldsSkew written reader}
    {value : (Shape.fixedRecord written).Value}
    {prior : (Shape.fixedRecord reader).Value}
    (plane : (Shape.fixedRecord written).Everywhere inBasicPlane value)
    (writes : (Shape.fixedRecord written).Everywhere writable value)
    (small : (Shape.fixedRecord written).getEncodedLength value < 2 ^ 32)
    (common : self.CommonFit value.2 prior.2)
    (carries : (Skew.fixedRecord self).CarriesOver value prior) :
    (Skew.fixedRecord self).Fits value prior := by
  have bounds := Shape.getEncodedLength_le _ value writes small
  obtain ⟨before, size⟩ := exists_buffer
    (by omega : ((Shape.fixedRecord written).layout value).length ≤ 2 ^ 63)
  obtain ⟨after, read, ran, got, _⟩ := carries before 0 (by omega)
  obtain ⟨after', ran', wrote⟩ :=
    Shape.encodes _ value writes before 0 (by omega)
  rw [ran, Except.ok.injEq, Prod.mk.injEq] at ran'
  obtain ⟨rfl, _⟩ := ran'
  have holds := wrote.holds (by omega)
  rw [Shape.layout, holds_append, holds_append] at holds
  obtain ⟨length, version, parts⟩ := holds
  rw [Shape.decodeFrom_fixedRecord reader prior
    ((decodes_decodeFromBE32Compressed (written.byteLength value)).ran length)
    ((decodes_decodeFromBE32Compressed value.1).ran version)
    (sizeSum_of_holds length _), except_map_eq_ok] at got
  obtain ⟨fields, got, same⟩ := got
  rw [Prod.mk.injEq] at same
  rw [Nat.add_assoc, ← List.length_append] at got parts
  change reader.decodeFrom prior.2 (0 + (written.byteLength value).toNat) 0 after
    (0 + (written.header value).length) = _ at got
  refine self.fits_of_stops value.2 prior.2 _ _ 0 0 after fields.1 plane.2 common
    (Fields.length_byteLength_le writes small) parts ?_
  rw [got]
  congr 1
  ext
  · rfl
  · rw [same.2, Shape.layout, ← List.append_assoc, List.length_append,
      Nat.add_assoc]
    rfl

/-- A record with common fields that fit is read up to its end exactly if it fits.
For data elements with any number of records in them it is enough that all of them
fit. -/
theorem FieldsSkew.carries_over
    {written reader : Fields}
    (self : FieldsSkew written reader)
    (value : (Shape.fixedRecord written).Value)
    (prior : (Shape.fixedRecord reader).Value)
    (plane : (Shape.fixedRecord written).Everywhere inBasicPlane value)
    (writes : (Shape.fixedRecord written).Everywhere writable value)
    (small : (Shape.fixedRecord written).getEncodedLength value < 2 ^ 32)
    (common : self.CommonFit value.2 prior.2) :
    ((Skew.fixedRecord self).CarriesOver value prior ↔
      (Skew.fixedRecord self).Fits value prior) ∧
    ∀ {outerWritten outerReader : Shape}
      (outer : Skew outerWritten outerReader) (outerValue : outerWritten.Value)
      (outerPrior : outerReader.Value),
      outerWritten.Everywhere inBasicPlane outerValue →
        outerWritten.Everywhere writable outerValue →
          outer.Fits outerValue outerPrior →
            outer.CarriesOver outerValue outerPrior :=
  ⟨⟨fits_of_carriesOver plane writes small common,
    Skew.carriesOver_of_fits plane writes⟩,
    fun _ _ _ => Skew.carriesOver_of_fits⟩

/-- A record of two octets, where the reader knows of one more. -/
theorem FieldsSkew.carries_over_missing :
    (Skew.fixedRecord (.cons (.basic .octet) (.cons (.basic .octet)
      (.missing (.cons (.basic .octet) .nil))))).CarriesOver
      (1, (5, (6, ()))) (0, (0, (0, (7, ())))) := by
  apply (FieldsSkew.carries_over (.cons (.basic .octet) (.cons (.basic .octet)
    (.missing (.cons (.basic .octet) .nil)))) (1, (5, (6, ())))
    (0, (0, (0, (7, ())))) _ _ _ _).1.mpr
  · exact ⟨trivial, trivial, Or.inr (by decide)⟩
  · exact ⟨trivial, trivial, trivial, trivial⟩
  · exact ⟨trivial, trivial, trivial, trivial⟩
  · exact (by decide : 4 < 2 ^ 32)
  · exact ⟨trivial, trivial, trivial⟩

theorem FieldsSkew.layout_unknown_of_fits
    {written reader : Shape} {rest : Fields}
    {field : Skew written reader} {last position : Nat}
    {value : (Fields.cons written rest).Value}
    {prior : (Fields.cons reader .nil).Value}
    (fits : (FieldsSkew.cons field (.unknown rest)).Fits last position value
      prior) :
    rest.layout value.2 = [] := by
  rw [FieldsSkew.Fits] at fits
  split at fits
  · exact fits.2
  · exact fits.2

/-- The second octet of a record is not skipped by a reader that knows only of the
first. -/
theorem Skew.carries_over_fails :
    ¬∀ {written reader : Fields} (self : FieldsSkew written reader)
      (value : (Shape.fixedRecord written).Value)
      (prior : (Shape.fixedRecord reader).Value),
      (Shape.fixedRecord written).Everywhere inBasicPlane value →
        (Shape.fixedRecord written).Everywhere writable value →
          (Skew.fixedRecord self).CarriesOver value prior := by
  intro always
  let pair : Fields := .cons (.basic .octet) (.cons (.basic .octet) .nil)
  let value : (Shape.fixedRecord pair).Value := (1, (5, (6, ())))
  let prior : (Shape.fixedRecord (.cons (.basic .octet) .nil)).Value :=
    (0, (0, ()))
  let self : FieldsSkew pair (.cons (.basic .octet) .nil) :=
    .cons (.basic .octet) (.unknown (.cons (.basic .octet) .nil))
  have plane : (Shape.fixedRecord pair).Everywhere inBasicPlane value :=
    ⟨trivial, trivial, trivial, trivial⟩
  have writes : (Shape.fixedRecord pair).Everywhere writable value :=
    ⟨trivial, trivial, trivial, trivial⟩
  have small : (Shape.fixedRecord pair).getEncodedLength value < 2 ^ 32 := by
    decide
  have common : self.CommonFit value.2 prior.2 := ⟨trivial, trivial⟩
  have carries := always self value prior plane writes
  have fits := FieldsSkew.fits_of_carriesOver plane writes small common carries
  have unread := FieldsSkew.layout_unknown_of_fits fits
  exact absurd unread (by decide)

end Encoding
end OpenRTI
