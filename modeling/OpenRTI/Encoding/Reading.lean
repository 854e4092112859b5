import OpenRTI.Encoding.BasicDataElementContents
import OpenRTI.Encoding.VersionSkew

/-!
# Reading data elements

What fits is read back from its layout wherever that is, and the reader stops
where the layout ends.
-/

namespace OpenRTI
namespace Encoding

open Foundation (Octet)
open Foundation.Octets

variable {α β : Type}

/-! ## Relations of lists -/

theorem Pointwise.eq_of_eq
    {first : List α} {second : List β}
    {third : List α}
    (pointwise : Pointwise (fun element _ read => read = element) first second
      third) :
    third = first := by
  induction pointwise with
  | nil => rfl
  | cons same _ ih => rw [same, ih]

theorem pointwise_of_length_eq
    {relation : α → β → β → Prop} {first : List α}
    {second : List β}
    (length : first.length = second.length)
    (each : ∀ element ∈ first, ∀ prior, relation element prior prior) :
    Pointwise relation first second second := by
  induction first generalizing second with
  | nil =>
      rw [List.length_nil, eq_comm, List.length_eq_zero_iff] at length
      rw [length]
      exact .nil
  | cons element rest ih =>
      cases second with
      | nil => cases length
      | cons prior others =>
          rw [List.forall_mem_cons] at each
          exact .cons (each.1 prior)
            (ih (Nat.succ.inj length) each.2)

theorem forall₂_of_length_eq
    {first : List α} {second : List β}
    {good : α → Prop} {fine : β → Prop}
    (length : first.length = second.length)
    (allGood : ∀ element ∈ first, good element)
    (allFine : ∀ element ∈ second, fine element) :
    List.Forall₂ (fun element other => good element ∧ fine other) first
      second := by
  rw [List.forall₂_iff_zip]
  refine ⟨length, ?_⟩
  intro element other member
  have parts := List.of_mem_zip member
  exact ⟨allGood element parts.1, allFine other parts.2⟩

/-! ## Nothing to read -/

mutual

/-- What has no octets has nothing to read either. -/
theorem Skew.reads_of_layout_eq_nil : ∀ {written reader : Shape}
    (skew : Skew written reader) (value : written.Value) (prior : reader.Value),
    written.layout value = [] → skew.Reads value prior prior
  | _, _, .basic type, value, _, nothing =>
      absurd nothing (type.layout_ne_nil value)
  | _, _, .fixedArrayOfBasicType type _ _, value, prior, nothing => by
      rw [Shape.layout, List.flatMap_eq_nil_iff] at nothing
      have none : value.1 = [] := by
        apply List.eq_nil_iff_forall_not_mem.mpr
        intro element member
        exact type.layout_ne_nil element (nothing element member)
      have empty : prior.1 = [] := by
        apply List.eq_nil_of_length_eq_zero
        rw [prior.2, ← value.2, none, List.length_nil]
      exact Subtype.ext (empty.trans none.symm)
  | _, _, .fixedArray protoType _, value, prior, nothing => by
      rw [Shape.layout, List.flatMap_eq_nil_iff] at nothing
      exact ⟨rfl, pointwise_of_length_eq (value.2.2.trans prior.2.2.symm)
        fun element member other =>
          protoType.reads_of_layout_eq_nil element other
            (nothing element member)⟩
  | _, _, .variableArrayOfBasicType _ _, _, _, nothing =>
      absurd nothing (counted_ne_nil _ _)
  | _, _, .variableArray _, _, _, nothing =>
      absurd nothing (counted_ne_nil _ _)
  | .fixedRecord fields, _, .fixedRecord _, value, _, nothing =>
      absurd nothing (fields.layout_fixedRecord_ne_nil value)

theorem FieldsSkew.reads_of_layout_eq_nil : ∀ {written reader : Fields}
    (skew : FieldsSkew written reader) (value : written.Value)
    (prior : reader.Value),
    written.layout value = [] → skew.Reads value prior prior
  | _, _, .missing _, _, _, _ => rfl
  | _, _, .unknown _, _, _, _ => trivial
  | _, _, .cons field rest, value, prior, nothing => by
      rw [Fields.layout, List.append_eq_nil_iff] at nothing
      exact ⟨field.reads_of_layout_eq_nil value.1 prior.1 nothing.1,
        rest.reads_of_layout_eq_nil value.2 prior.2 nothing.2⟩

end

variable {octets : List Octet}

/-! ## Elements -/

theorem Decodes.withContext
    {decoder : Decoder α} {good : α → Prop}
    (decodes : Decodes decoder octets good) (context : String) :
    Decodes (fun buffer index => withContext context (decoder buffer index))
      octets good := by
  intro buffer index holds
  obtain ⟨value, ran, fine⟩ := decodes buffer index holds
  refine ⟨value, ?_, fine⟩
  simp only [ran, Encoding.withContext]

theorem decodes_decodeAll
    {decode : α → Decoder α} {layout : β → List Octet}
    {relation : β → α → α → Prop} {fits : β → α → Prop}
    {good : β → Prop}
    (context : Nat → String)
    (each : ∀ value prior, good value → fits value prior →
      Decodes (decode prior) (layout value) (relation value prior))
    {values : List β} {elements : List α}
    (allGood : ∀ value ∈ values, good value)
    (allFit : List.Forall₂ fits values elements) (count : Nat) :
    Decodes (decodeAll context decode elements count) (values.flatMap layout)
      fun read => Pointwise relation values elements read.1 := by
  induction allFit generalizing count with
  | nil =>
      intro buffer index _
      exact ⟨⟨[], rfl⟩, rfl, .nil⟩
  | cons fit _ ih =>
      rw [List.forall_mem_cons] at allGood
      intro buffer index holds
      rw [List.flatMap_cons, holds_append] at holds
      obtain ⟨first, ran, fine⟩ :=
        (each _ _ allGood.1 fit).withContext (context count) buffer index
          holds.1
      obtain ⟨others, ranOthers, allFine⟩ :=
        ih allGood.2 (count + 1) buffer _ holds.2
      refine ⟨⟨first :: others.1, congrArg (· + 1) others.2⟩, ?_,
        .cons fine allFine⟩
      rw [decodeAll]
      simp only [bind, Except.bind, ran, ranOthers, List.flatMap_cons,
        List.length_append, Nat.add_assoc]

variable {type : BasicDataElement}

/-- The types with arrays of their own are no strings. -/
theorem BasicDataElement.readable_of_hasArray
    (array : type.hasArray = true)
    (value : type.SimpleDataType) :
    readable.basic type value := by
  cases type <;> trivial

theorem BasicDataElement.decodes_of_hasArray
    (array : type.hasArray = true)
    (value : type.SimpleDataType) :
    Decodes type.decodeFrom (type.layout value) (· = value) := by
  apply type.decodes value (readable_of_hasArray array value)
  cases type <;> trivial

theorem decodes_decodeSlot
    (array : type.hasArray = true)
    {written prior : Option type.SimpleDataType}
    (held : written.isSome = true)
    (present : prior.isSome = true) :
    Decodes (decodeSlot type.decodeFrom prior) (type.slotLayout written)
      (· = written) := by
  cases written with
  | none => cases held
  | some value =>
      cases prior with
      | none => cases present
      | some _ =>
          have decodes := BasicDataElement.decodes_of_hasArray array value
          intro buffer index holds
          refine ⟨some value, ?_, rfl⟩
          rw [decodeSlot, decodes.ran holds]
          rfl

theorem length_resized
    (clone : α → α) (length : Nat) (value : α × List α) :
    (resized clone length value).length = length := by
  rw [resized, List.length_append, List.length_take, List.length_replicate]
  omega

theorem holds_counted
    {buffer : Buffer} {index length : Nat}
    (holds : Holds buffer index (counted length octets)) :
    (∀ what, require buffer index 4 what = .ok ()) ∧
      decodeFromBE32 buffer index =
        .ok (BitVec.ofNat 32 length, index + 4) ∧
      Holds buffer (index + 4) octets := by
  rw [counted, holds_append, length_bigEndian] at holds
  have decodes := (decodes_decodeFromBE32 (BitVec.ofNat 32 length)).ran holds.1
  rw [length_bigEndian] at decodes
  refine ⟨?_, decodes, holds.2⟩
  intro what
  have room := holds.1.require what
  rwa [length_bigEndian] at room

/-! ## Data elements -/

mutual

/-- What fits is read back from its layout. -/
theorem Skew.decodes : ∀ {written reader : Shape}
    (skew : Skew written reader) (value : written.Value) (prior : reader.Value),
    written.Everywhere inBasicPlane value → skew.Fits value prior →
      Decodes (reader.decodeFrom prior) (written.layout value)
        (skew.Reads value prior)
  | _, _, .basic type, value, _, plane, fits =>
      type.decodes value fits plane
  | _, _, .fixedArrayOfBasicType type array _, value, prior, _, _ => by
      have same := value.2.trans prior.2.symm
      have decodes := decodes_decodeAll noContext
        (fun element (_ : type.SimpleDataType) _ _ =>
          BasicDataElement.decodes_of_hasArray array element)
        (fun _ _ => trivial)
        (forall₂_of_length_eq same (fun _ _ => trivial) fun _ _ => trivial) 0
      intro buffer index holds
      obtain ⟨read, ran, pointwise⟩ := decodes buffer index holds
      refine ⟨⟨read.1, read.2.trans prior.2⟩, ?_,
        Subtype.ext pointwise.eq_of_eq⟩
      rw [Shape.decodeFrom_fixedArrayOfBasicType, ran]
      rfl
  | _, _, .fixedArray protoType _, value, prior, plane, fits => by
      have decodes := decodes_decodeAll noContext
        (fun element other => protoType.decodes element other) plane fits 0
      intro buffer index holds
      obtain ⟨read, ran, pointwise⟩ := decodes buffer index holds
      refine ⟨(prior.1, ⟨read.1, read.2.trans prior.2.2⟩), ?_, rfl, pointwise⟩
      rw [Shape.decodeFrom_fixedArray, ran]
      rfl
  | _, _, .variableArrayOfBasicType type array, value, prior, _, fits => by
      obtain ⟨small, held, present⟩ := fits
      have same := prior.length_resize type.default value.elements.length
      have decodes := decodes_decodeAll noContext
        (fun _ _ _ both => decodes_decodeSlot array both.1 both.2)
        (fun _ _ => trivial) (forall₂_of_length_eq same.symm held present) 0
      intro buffer index holds
      obtain ⟨room, length, elements⟩ := holds_counted holds
      obtain ⟨read, ran, pointwise⟩ := decodes buffer (index + 4) elements
      refine ⟨(prior.resize type.default
          value.elements.length).withElements read, ?_,
        pointwise.eq_of_eq⟩
      rw [Shape.decodeFrom_variableArrayOfBasicType type array prior room length
        (toNat_ofNat_of_lt small), ran, Shape.layout, length_counted,
        ← Nat.add_assoc]
      rfl
  | _, .variableArray shape, .variableArray protoType, value, prior, plane,
      fits => by
      obtain ⟨small, allFit⟩ := fits
      have decodes := decodes_decodeAll elementContext
        (fun element other => protoType.decodes element other) plane.2 allFit 0
      intro buffer index holds
      obtain ⟨room, length, elements⟩ := holds_counted holds
      obtain ⟨read, ran, pointwise⟩ := decodes buffer (index + 4) elements
      refine ⟨(prior.1, read.1), ?_, rfl, pointwise⟩
      rw [Shape.decodeFrom_variableArray shape prior room length
        (toNat_ofNat_of_lt small), ran, Shape.layout, length_counted,
        ← Nat.add_assoc]
      rfl
  | .fixedRecord writtenFields, .fixedRecord readerFields,
      .fixedRecord fields, value, prior, plane, fits => by
      intro buffer index holds
      rw [Shape.layout, holds_append, holds_append] at holds
      obtain ⟨length, version, parts⟩ := holds
      have readLength := (decodes_decodeFromBE32Compressed
        (writtenFields.byteLength value)).ran length
      have readVersion :=
        (decodes_decodeFromBE32Compressed value.1).ran version
      obtain ⟨read, ran, reads⟩ := fields.decodes value.2 prior.2 _ _ plane.2
        fits index 0 buffer (by
          rw [Fields.header, List.length_append, ← Nat.add_assoc]
          exact parts)
      refine ⟨(value.1, read), ?_, rfl, reads⟩
      rw [Fields.header, List.length_append, ← Nat.add_assoc] at ran
      rw [Shape.decodeFrom_fixedRecord readerFields prior readLength readVersion
        (sizeSum_of_holds length _)]
      simp only [Fields.byteLength] at ran ⊢
      rw [ran, Shape.layout, List.length_append, List.length_append,
        ← Nat.add_assoc, ← Nat.add_assoc]
      rfl

theorem FieldsSkew.decodes : ∀ {written reader : Fields}
    (skew : FieldsSkew written reader) (value : written.Value)
    (prior : reader.Value) (last position : Nat),
    written.Everywhere inBasicPlane value →
      skew.Fits last position value prior →
        ∀ start count buffer,
          Holds buffer (start + position) (written.layout value) →
            ∃ read,
              reader.decodeFrom prior (start + last) count buffer
                  (start + position) =
                .ok (read,
                  start + position + (written.layout value).length) ∧
                skew.Reads value prior read
  | _, _, .missing rest, _, prior, last, position, _, fits, start, count,
      buffer, holds => by
      refine ⟨prior, ?_, rfl⟩
      obtain nothing | past := fits
      · subst nothing
        rfl
      · exact rest.decodeFrom_of_le prior (by omega) count
  | _, _, .unknown _, value, prior, _, _, _, fits, start, count, buffer,
      holds => by
      refine ⟨prior, ?_, trivial⟩
      rw [FieldsSkew.Fits] at fits
      rw [fits]
      rfl
  | .cons shape others, _, .cons field rest, value, prior, last, position,
      plane, fits, start, count, buffer, holds => by
      rw [FieldsSkew.Fits] at fits
      rw [Fields.layout] at holds ⊢
      split at fits
      next before =>
        rw [holds_append] at holds
        obtain ⟨first, ran, reads⟩ :=
          field.decodes value.1 prior.1 plane.1 fits.1 buffer
            (start + position) holds.1
        obtain ⟨left, ranRest, readsRest⟩ :=
          rest.decodes value.2 prior.2 last _ plane.2 fits.2 start (count + 1)
            buffer (by rw [← Nat.add_assoc]; exact holds.2)
        refine ⟨(first, left), ?_, reads, readsRest⟩
        rw [← Nat.add_assoc] at ranRest
        rw [Fields.decodeFrom_of_lt prior (by omega) ran, ranRest,
          List.length_append, ← Nat.add_assoc]
        rfl
      next after =>
        refine ⟨prior, ?_, field.reads_of_layout_eq_nil _ _ fits.1,
          rest.reads_of_layout_eq_nil _ _ fits.2⟩
        rw [Fields.decodeFrom_of_le _ _ (by omega), fits.1, fits.2]
        rfl

end

end Encoding
end OpenRTI
