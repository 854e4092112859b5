import OpenRTI.Encoding.Layout

/-!
# Reading basic data elements

A basic data element is read back from its layout if its length is not greater
than what can be read, and its wide characters fit in 16 bits.
-/

namespace OpenRTI
namespace Encoding

open Foundation (Octet)
open Foundation.Octets

variable {α : Type} {octets : List Octet} {buffer : Buffer} {index : Nat}

/-! ## Decoders of parts -/

/-- The run of a decoder that reads a given value. -/
theorem Decodes.ran
    {decoder : Decoder α} {value : α}
    (decodes : Decodes decoder octets (· = value))
    (holds : Holds buffer index octets) :
    decoder buffer index = .ok (value, index + octets.length) := by
  obtain ⟨read, ran, same⟩ := decodes buffer index holds
  rw [ran, same]

/-- A decoder reads on from where the first part of it has stopped. -/
theorem Decodes.followedBy
    {α β : Type} {first : Decoder α}
    {whole second : Decoder β} {octets others : List Octet}
    {value : α} {good : β → Prop}
    (firstDecodes : Decodes first octets (· = value))
    (continues : ∀ buffer index next,
      first buffer index = .ok (value, next) →
        whole buffer index = second buffer next)
    (secondDecodes : Decodes second others good) :
    Decodes whole (octets ++ others) good := by
  intro buffer index holds
  rw [holds_append] at holds
  obtain ⟨read, ranOn, fine⟩ := secondDecodes buffer _ holds.2
  refine ⟨read, ?_, fine⟩
  rw [continues buffer index _ (firstDecodes.ran holds.1), ranOn,
    List.length_append, Nat.add_assoc]

theorem Decodes.nothing {α : Type} {value : α} :
    Decodes (fun _ index => .ok (value, index)) [] (· = value) := by
  intro _ _ _
  exact ⟨value, rfl, rfl⟩

namespace BasicDataElement

theorem decodes_decodeOctet (octet : Octet) :
    Decodes decodeOctet [octet] (· = octet) := by
  rintro buffer index holds
  have room := holds.length_le
  obtain ⟨_, rest, found⟩ := holds
  have here : buffer.octets[index]? = some octet := by
    have first := congrArg (fun octets => octets[0]?) found
    simpa using first
  refine ⟨octet, ?_, rfl⟩
  rw [List.length_singleton] at room ⊢
  rw [decodeOctet, if_neg (by omega), Buffer.read, here]
  rfl

variable (width : Nat)

theorem decodes_decodeChecked
    {decoder : Decoder α} {good : α → Prop}
    (length : octets.length = width)
    (decodes : Decodes decoder octets good) :
    Decodes (decodeChecked width decoder) octets good := by
  intro buffer index holds
  obtain ⟨value, ran, fine⟩ := decodes buffer index holds
  refine ⟨value, ?_, fine⟩
  rw [decodeChecked, ← length, holds.require, ← ran]
  rfl

theorem decodes_map
    {β : Type} {decoder : Decoder α}
    {value : α}
    (change : α → β)
    (decodes : Decodes decoder octets (· = value)) :
    Decodes (Decoder.map change decoder) octets (· = change value) := by
  intro buffer index holds
  refine ⟨change value, ?_, rfl⟩
  rw [Decoder.map, decodes.ran holds]
  rfl

/-- Two octets that are there are read. -/
theorem read_pair
    {first second : Octet}
    (holds : Holds buffer index [first, second]) :
    buffer.read index = .ok first ∧
      buffer.read (index + 1) = .ok second := by
  obtain ⟨_, rest, found⟩ := holds
  have head : buffer.octets[index]? = some first := by
    have here := congrArg (fun octets => octets[0]?) found
    simpa using here
  have next : buffer.octets[index + 1]? = some second := by
    have here := congrArg (fun octets => octets[1]?) found
    simpa using here
  rw [Buffer.read, Buffer.read, head, next]
  exact ⟨rfl, rfl⟩

theorem decodes_decodeOctetPair (first second : Octet) :
    Decodes decodeOctetPair [first, second] (· = (first, second)) := by
  apply decodes_decodeChecked 2 rfl
  intro buffer index holds
  obtain ⟨readFirst, readSecond⟩ := read_pair holds
  refine ⟨(first, second), ?_, rfl⟩
  simp only [bind, Except.bind, readFirst, readSecond, List.length_cons,
    List.length_nil]

variable {bits : Nat}

/-- A number after a check of its own. -/
theorem decodes_checkedBE
    (same : 256 ^ width = 2 ^ bits)
    (value : BitVec bits) :
    Decodes (decodeChecked width (asBits bits (decodeFromBE width)))
      (bigEndian width value.toNat) (· = value) :=
  decodes_decodeChecked width (length_bigEndian width value.toNat)
    (decodes_decodeFromBE (same ▸ value.isLt)).asBits

theorem decodes_checkedLE
    (same : 256 ^ width = 2 ^ bits)
    (value : BitVec bits) :
    Decodes (decodeChecked width (asBits bits (decodeFromLE width)))
      (littleEndian width value.toNat) (· = value) :=
  decodes_decodeChecked width (length_littleEndian width value.toNat)
    (decodes_decodeFromLE (same ▸ value.isLt)).asBits

/-! ## Strings -/

/-- A length in front of what is read with it. -/
theorem Decodes.counted
    {whole : Decoder α} {good : α → Prop}
    (length : Nat) (second : BitVec 32 → Decoder α)
    (continues : ∀ buffer index length next,
      decodeChecked 4 decodeFromBE32 buffer index = .ok (length, next) →
        whole buffer index = second length buffer next)
    (decodes : Decodes (second (BitVec.ofNat 32 length)) octets good) :
    Decodes whole (counted length octets) good :=
  Decodes.followedBy (decodes_checkedBE 4 rfl (BitVec.ofNat 32 length))
    (fun buffer index next ran => continues buffer index _ next ran) decodes

theorem signedLength_ofNat
    {length : Nat}
    (short : length < 2 ^ 31) :
    signedLength (BitVec.ofNat 32 length) = length := by
  have same : (BitVec.ofNat 32 length).toNat = length := by
    rw [BitVec.toNat_ofNat, Nat.mod_eq_of_lt (by omega)]
  rw [signedLength, BitVec.toInt_eq_toNat_of_lt (by omega), same,
    Int.toNat_natCast]

/-- A character that fits in 16 bits is read back. -/
theorem ofNat_ofBigEndian_setWidth
    {character : BitVec 32}
    (plane : character.toNat < 2 ^ 16) :
    BitVec.ofNat 32
        (ofBigEndian (bigEndian 2 (character.setWidth 16).toNat)) =
      character := by
  rw [ofBigEndian_bigEndian_of_lt (character.setWidth 16).isLt,
    BitVec.toNat_setWidth, Nat.mod_eq_of_lt plane, BitVec.ofNat_toNat,
    BitVec.setWidth_eq]

theorem decodes_decodeCharacters
    {value : List (BitVec 32)}
    (plane : ∀ character ∈ value, character.toNat < 2 ^ 16) :
    Decodes (decodeCharacters value.length) (characters value) (· = value) := by
  induction value with
  | nil => exact .nothing
  | cons character rest ih =>
      rw [List.forall_mem_cons] at plane
      intro buffer index holds
      have pair : ∃ first second,
          bigEndian 2 (character.setWidth 16).toNat = [first, second] :=
        List.length_eq_two.mp (length_bigEndian 2 _)
      obtain ⟨first, second, same⟩ := pair
      have split : characters (character :: rest) =
          [first, second] ++ characters rest := by
        rw [characters, List.flatMap_cons, same]
        rfl
      rw [split, holds_append] at holds
      obtain ⟨readFirst, readSecond⟩ := read_pair holds.1
      have ran := (ih plane.2).ran holds.2
      rw [List.length_cons, List.length_singleton] at ran
      refine ⟨character :: rest, ?_, rfl⟩
      have restored := ofNat_ofBigEndian_setWidth plane.1
      rw [same] at restored
      rw [List.length_cons, decodeCharacters, readFirst]
      simp only [bind, Except.bind, readSecond, ran, restored, split,
        List.length_append, List.length_cons, List.length_nil, Nat.zero_add,
        Nat.add_assoc]

theorem decodes_readAll (octets : List Octet) :
    Decodes (readAll octets.length) octets (· = octets) := by
  intro buffer index holds
  exact ⟨octets, readAll_eq_ok holds, rfl⟩

variable {value : List Octet}

theorem decodes_decodeAsciiString
    (short : value.length < 2 ^ 31) :
    Decodes decodeAsciiString (counted value.length value) (· = value) := by
  apply Decodes.counted _ (fun length buffer index => do
    require buffer index (signedLength length) insufficient
    readAll (signedLength length) buffer index)
  · intro buffer index length next ran
    rw [decodeAsciiString, ran]
    rfl
  · rw [signedLength_ofNat short]
    intro buffer index holds
    refine ⟨value, ?_, rfl⟩
    change (require buffer index value.length insufficient >>= fun _ =>
      readAll value.length buffer index) = _
    rw [holds.require]
    exact readAll_eq_ok holds

theorem decodes_decodeUnicodeString
    {value : List (BitVec 32)}
    (short : value.length < 2 ^ 30)
    (plane : ∀ character ∈ value, character.toNat < 2 ^ 16) :
    Decodes decodeUnicodeString (counted value.length (characters value))
      (· = value) := by
  apply Decodes.counted _ (fun length buffer index => do
    if 2 ^ 31 ≤ 2 * signedLength length then .error .undefined
    require buffer index (2 * signedLength length) insufficient
    decodeCharacters (signedLength length) buffer index)
  · intro buffer index length next ran
    rw [decodeUnicodeString, ran]
    rfl
  · rw [signedLength_ofNat (by omega)]
    intro buffer index holds
    have ran := (decodes_decodeCharacters plane).ran holds
    have room := holds.require insufficient
    rw [length_characters] at room
    refine ⟨value, ?_, rfl⟩
    simp only [if_neg (by omega : ¬2 ^ 31 ≤ 2 * value.length), bind,
      Except.bind, room, ran]

theorem decodes_decodeOpaqueData
    (short : value.length < 2 ^ 32) :
    Decodes decodeOpaqueData (counted value.length value) (· = value) := by
  apply Decodes.counted _ (fun length => readAll length.toNat)
  · intro buffer index length next ran
    rw [decodeOpaqueData, ran]
    rfl
  · rw [BitVec.toNat_ofNat, Nat.mod_eq_of_lt short]
    exact decodes_readAll value

end BasicDataElement

open BasicDataElement in
theorem BasicDataElement.decodes
    (type : BasicDataElement) (value : type.SimpleDataType)
    (short : readable.basic type value)
    (plane : inBasicPlane.basic type value) :
    Decodes type.decodeFrom (type.layout value) (· = value) := by
  cases type with
  | asciiChar | byte | octet => exact decodes_decodeOctet value
  | boolean =>
      have decodes := decodes_map (fun octet : Octet => decide (octet ≠ 0))
        (decodes_decodeOctet (if value then 1 else 0))
      cases value with
      | false => exact decodes
      | true => exact decodes
  | unicodeChar =>
      have decodes := decodes_map (fun value : BitVec 16 => value.setWidth 32)
        (decodes_checkedBE 2 rfl (BitVec.setWidth 16 value))
      have same : (BitVec.setWidth 16 value).setWidth 32 = value := by
        apply BitVec.eq_of_toNat_eq
        rw [BitVec.toNat_setWidth, BitVec.toNat_setWidth,
          Nat.mod_eq_of_lt plane,
          Nat.mod_eq_of_lt value.isLt]
      rw [same] at decodes
      exact decodes
  | integer16BE => exact decodes_checkedBE 2 rfl value
  | integer16LE => exact decodes_checkedLE 2 rfl value
  | integer32BE | float32BE => exact decodes_checkedBE 4 rfl value
  | integer32LE | float32LE => exact decodes_checkedLE 4 rfl value
  | integer64BE | float64BE => exact decodes_checkedBE 8 rfl value
  | integer64LE | float64LE => exact decodes_checkedLE 8 rfl value
  | octetPairBE => exact decodes_decodeOctetPair value.1 value.2
  | octetPairLE =>
      exact decodes_map Prod.swap (decodes_decodeOctetPair value.2 value.1)
  | asciiString =>
      have same := cutLength_of_lt (lt_trans short (by decide))
      rw [layout, same, List.take_length]
      exact decodes_decodeAsciiString short
  | unicodeString =>
      have same := cutLength_of_lt (lt_trans short (by decide))
      rw [layout, same, List.take_length]
      exact decodes_decodeUnicodeString short plane
  | opaqueData => exact decodes_decodeOpaqueData short

end Encoding
end OpenRTI
