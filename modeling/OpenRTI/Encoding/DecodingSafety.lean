import OpenRTI.Encoding.RoundTrip

/-!
# Which data elements are decoded safely

Reading never leaves the buffer, and no shift and no size is undefined, unless a
string of wide characters, opaque data, a record or an encoder that is gone is
met.  Where one of these is met there are octets that lead there.
-/

namespace OpenRTI
namespace Encoding

open Foundation (Octet)
open Foundation.FailingState (except_bind_eq_ok)
open Foundation.Octets

/-! ## Safe and exposed decoders -/

/-- Nothing that is undefined has been done, and a decoder has stopped inside of the
buffer if it has succeeded. -/
def StopsInside {α : Type} (buffer : Buffer) :
    Except Failure (α × Nat) → Prop
  | .ok (_, next) => next ≤ buffer.bufferSize
  | .error failure => failure ≠ .undefined

/-- From any index in a buffer, a decoder does nothing that is undefined, and it
stops inside of the buffer. -/
def Decoder.Safe {α : Type} (self : Decoder α) : Prop :=
  ∀ buffer index, index ≤ buffer.bufferSize →
    StopsInside buffer (self buffer index)

variable {α : Type}

theorem stopsInside_exception
    (buffer : Buffer) (what : String) :
    StopsInside buffer
      (.error (.encoderException what) : Except Failure (α × Nat)) := by
  intro same
  cases same

/-- There are octets at the end of a buffer that make a decoder do something that
is undefined. -/
def Decoder.Exposed {α : Type} (self : Decoder α) : Prop :=
  ∃ octets, ∀ buffer index,
    buffer.octets.drop index = octets → index ≤ buffer.bufferSize →
      self buffer index = .error .undefined

theorem Decoder.Safe.ok
    (value : α) :
    Decoder.Safe fun _ index => .ok (value, index) := by
  intro buffer index inside
  exact inside

/-- A decoder is safe if it continues safely where a safe part has stopped. -/
theorem Decoder.Safe.followedBy
    {α β : Type} {whole : Decoder β}
    {first : Decoder α}
    (second : α → Decoder β) (firstSafe : first.Safe)
    (secondSafe : ∀ value, Decoder.Safe (second value))
    (continues : ∀ buffer index,
      whole buffer index =
        first buffer index >>= fun read => second read.1 buffer read.2) :
    whole.Safe := by
  intro buffer index inside
  have stops := firstSafe buffer index inside
  rw [continues]
  cases ran : first buffer index with
  | error failure =>
      rw [ran] at stops
      exact stops
  | ok read =>
      rw [ran] at stops
      exact secondSafe read.1 buffer read.2 stops

variable {β : Type}

theorem Decoder.Exposed.of_first
    {whole : Decoder β} {first : Decoder α}
    (second : α → Decoder β) (exposed : first.Exposed)
    (continues : ∀ buffer index,
      whole buffer index =
        first buffer index >>= fun read => second read.1 buffer read.2) :
    whole.Exposed := by
  obtain ⟨octets, leads⟩ := exposed
  refine ⟨octets, ?_⟩
  intro buffer index found inside
  rw [continues, leads buffer index found inside]
  rfl

theorem Decoder.Exposed.of_second
    {whole : Decoder β} {first : Decoder α}
    (second : α → Decoder β)
    {octets : List Octet} {value : α}
    (decodes : Decodes first octets (· = value))
    (exposed : (second value).Exposed)
    (continues : ∀ buffer index,
      whole buffer index =
        first buffer index >>= fun read => second read.1 buffer read.2) :
    whole.Exposed := by
  obtain ⟨others, leads⟩ := exposed
  refine ⟨octets ++ others, ?_⟩
  intro buffer index found inside
  have holds : Holds buffer index octets := ⟨inside, others, found⟩
  rw [continues, decodes.ran holds]
  apply leads buffer _ _ holds.length_le
  rw [← List.drop_drop, found, List.drop_left]

variable {buffer : Buffer} {index count : Nat}

/-! ## Reading inside of the buffer -/

theorem readAll_of_le
    (room : index + count ≤ buffer.bufferSize) :
    ∃ octets, readAll count buffer index = .ok (octets, index + count) := by
  have length : ((buffer.octets.drop index).take count).length = count := by
    unfold Buffer.bufferSize at room
    rw [List.length_take, List.length_drop]
    omega
  have holds : Holds buffer index ((buffer.octets.drop index).take count) :=
    ⟨by omega, (buffer.octets.drop index).drop count,
      (List.take_append_drop count _).symm⟩
  have ran := readAll_eq_ok holds
  rw [length] at ran
  exact ⟨_, ran⟩

variable {width : Nat}

/-- A check of a size that fits in 32 bits is defined, and tells that there is
room. -/
theorem require_cases
    (inside : index ≤ buffer.bufferSize)
    (small : width < 2 ^ 32)
    (what : String) :
    (require buffer index width what = .ok () ∧
        index + width ≤ buffer.bufferSize) ∨
      require buffer index width what = .error (.encoderException what) := by
  have addressable := buffer.addressable
  have sum : sizeSum index width = .ok (index + width) := by
    unfold Buffer.bufferSize at inside
    exact if_pos (by omega)
  rw [require, sum]
  by_cases room : buffer.bufferSize < index + width
  · exact Or.inr (if_pos room)
  · exact Or.inl ⟨if_neg room, by omega⟩

/-- A decoder that checks the room for what it reads is safe. -/
theorem Decoder.Safe.checked
    {α : Type} {whole decoder : Decoder α}
    {width : Nat} {what : String}
    (small : width < 2 ^ 32)
    (reads : ∀ buffer index, index + width ≤ buffer.bufferSize →
      ∃ value, decoder buffer index = .ok (value, index + width))
    (continues : ∀ buffer index,
      whole buffer index =
        require buffer index width what >>= fun _ => decoder buffer index) :
    whole.Safe := by
  intro buffer index inside
  rw [continues]
  obtain ⟨checked, room⟩ | failed := require_cases inside small what
  · obtain ⟨value, ran⟩ := reads buffer index room
    rw [checked]
    change StopsInside buffer (decoder buffer index)
    rw [ran]
    exact room
  · rw [failed]
    exact stopsInside_exception buffer what

namespace BasicDataElement

theorem decodeFromLE_of_le
    {bits : Nat}
    (room : index + width ≤ buffer.bufferSize) :
    ∃ value, asBits bits (decodeFromLE width) buffer index =
      .ok (value, index + width) := by
  obtain ⟨octets, ran⟩ := readAll_of_le room
  refine ⟨BitVec.ofNat bits (ofLittleEndian octets), ?_⟩
  rw [asBits, decodeFromLE, require_eq_ok room]
  simp only [bind, Except.bind, ran]

theorem decodeFromBE_of_le
    {bits width : Nat} {buffer : Buffer}
    {index : Nat}
    (room : index + width ≤ buffer.bufferSize) :
    ∃ value, asBits bits (decodeFromBE width) buffer index =
      .ok (value, index + width) := by
  obtain ⟨octets, ran⟩ := readAll_of_le room
  refine ⟨BitVec.ofNat bits (ofBigEndian octets), ?_⟩
  rw [asBits, decodeFromBE, require_eq_ok room]
  simp only [bind, Except.bind, ran]

theorem safe_checkedLE
    (bits : Nat)
    (small : width < 2 ^ 32) :
    (decodeChecked width (asBits bits (decodeFromLE width))).Safe :=
  .checked small (fun _ _ => decodeFromLE_of_le) fun _ _ => rfl

theorem safe_checkedBE
    (bits : Nat)
    (small : width < 2 ^ 32) :
    (decodeChecked width (asBits bits (decodeFromBE width))).Safe :=
  .checked small (fun _ _ => decodeFromBE_of_le) fun _ _ => rfl

theorem safe_map
    {decoder : Decoder α}
    (change : α → β) (safe : decoder.Safe) :
    (Decoder.map change decoder).Safe :=
  safe.followedBy (fun value _ index => .ok (change value, index))
    (fun value => .ok (change value)) fun _ _ => rfl

theorem safe_decodeOctet : decodeOctet.Safe := by
  intro buffer index inside
  rw [decodeOctet]
  split
  · exact stopsInside_exception buffer insufficient
  · have room : index + 1 ≤ buffer.bufferSize := by omega
    unfold Buffer.bufferSize at *
    rw [Buffer.read, List.getElem?_eq_getElem (by omega)]
    exact room

theorem safe_decodeOctetPair : decodeOctetPair.Safe := by
  apply Decoder.Safe.checked (by decide : 2 < 2 ^ 32) _ fun _ _ => rfl
  intro buffer index room
  unfold Buffer.bufferSize at room
  simp only [Buffer.read, List.getElem?_eq_getElem (by omega :
    index < buffer.octets.length), List.getElem?_eq_getElem (by omega :
    index + 1 < buffer.octets.length), bind, Except.bind]
  exact ⟨_, rfl⟩

theorem safe_decodeAsciiString : decodeAsciiString.Safe := by
  apply Decoder.Safe.followedBy (fun length buffer index => do
      require buffer index (signedLength length) insufficient
      readAll (signedLength length) buffer index)
    (safe_checkedBE 32 (by decide : 4 < 2 ^ 32)) _ fun _ _ => rfl
  intro length
  have small := signedLength_lt length
  exact .checked (by omega) (fun _ _ => readAll_of_le) fun _ _ => rfl

/-- These are decoded safely. -/
def decodesSafely : BasicDataElement → Bool
  | .unicodeString => false
  | .opaqueData => false
  | _ => true

theorem safe_decodeFrom
    {type : BasicDataElement}
    (safely : type.decodesSafely = true) :
    type.decodeFrom.Safe := by
  cases type with
  | asciiChar | byte | octet => exact safe_decodeOctet
  | boolean =>
      exact safe_map (fun octet : Octet => decide (octet ≠ 0)) safe_decodeOctet
  | unicodeChar => exact safe_map _ (safe_checkedBE 16 (by decide))
  | integer16BE => exact safe_checkedBE 16 (by decide)
  | integer16LE => exact safe_checkedLE 16 (by decide)
  | integer32BE | float32BE => exact safe_checkedBE 32 (by decide)
  | integer32LE | float32LE => exact safe_checkedLE 32 (by decide)
  | integer64BE | float64BE => exact safe_checkedBE 64 (by decide)
  | integer64LE | float64LE => exact safe_checkedLE 64 (by decide)
  | octetPairBE => exact safe_decodeOctetPair
  | octetPairLE => exact safe_map _ safe_decodeOctetPair
  | asciiString => exact safe_decodeAsciiString
  | unicodeString | opaqueData => cases safely

/-- A length of 2^30 does not fit when it is doubled. -/
theorem exposed_decodeUnicodeString : decodeUnicodeString.Exposed := by
  apply Decoder.Exposed.of_second (fun length buffer index => do
      if 2 ^ 31 ≤ 2 * signedLength length then .error .undefined
      require buffer index (2 * signedLength length) insufficient
      decodeCharacters (signedLength length) buffer index)
    (decodes_checkedBE 4 rfl (0x40000000 : BitVec 32)) _ fun _ _ => rfl
  refine ⟨[], ?_⟩
  intro _ _ _ _
  rfl

/-- The octets that a length promises are not there. -/
theorem exposed_decodeOpaqueData : decodeOpaqueData.Exposed := by
  apply Decoder.Exposed.of_second (fun length => readAll length.toNat)
    (decodes_checkedBE 4 rfl (1 : BitVec 32)) _ fun _ _ => rfl
  refine ⟨[], ?_⟩
  intro buffer index found _
  have missing : buffer.octets[index]? = none := by
    rw [List.drop_eq_nil_iff] at found
    exact List.getElem?_eq_none found
  change readAll 1 buffer index = _
  rw [readAll, Buffer.read, missing]
  rfl

end BasicDataElement

/-! ## Elements -/

theorem Decoder.Safe.withContext
    {decoder : Decoder α}
    (safe : decoder.Safe) (context : String) :
    Decoder.Safe fun buffer index =>
      withContext context (decoder buffer index) := by
  intro buffer index inside
  have stops := safe buffer index inside
  cases ran : decoder buffer index with
  | ok read =>
      rw [ran] at stops
      simp only [ran, Encoding.withContext]
      exact stops
  | error failure =>
      rw [ran] at stops
      cases failure with
      | undefined => exact absurd rfl stops
      | encoderException what =>
          simp only [ran, Encoding.withContext]
          exact stopsInside_exception buffer _

theorem Decoder.Exposed.withContext
    {decoder : Decoder α}
    (exposed : decoder.Exposed) (context : String) :
    Decoder.Exposed fun buffer index =>
      withContext context (decoder buffer index) := by
  obtain ⟨octets, leads⟩ := exposed
  refine ⟨octets, ?_⟩
  intro buffer index found inside
  simp only [leads buffer index found inside, Encoding.withContext]

variable (context : Nat → String)

theorem safe_decodeAll
    {decode : α → Decoder α} {elements : List α}
    (safe : ∀ element ∈ elements, (decode element).Safe)
    (count : Nat) :
    Decoder.Safe (decodeAll context decode elements count) := by
  induction elements generalizing count with
  | nil => exact .ok _
  | cons element rest ih =>
      rw [List.forall_mem_cons] at safe
      intro buffer index inside
      have stops := safe.1.withContext (context count) buffer index inside
      simp only [decodeAll, bind, Except.bind] at stops ⊢
      cases ran : withContext (context count) (decode element buffer index) with
      | error failure =>
          rw [ran] at stops
          exact stops
      | ok read =>
          rw [ran] at stops
          have later := ih safe.2 (count + 1) buffer read.2 stops
          cases ranRest :
              decodeAll context decode rest (count + 1) buffer read.2 with
          | error failure =>
              rw [ranRest] at later
              simp only [ranRest]
              exact later
          | ok others =>
              rw [ranRest] at later
              simp only [ranRest]
              exact later

/-- There is something to read for a decoder. -/
def Decoder.Reads {α : Type} (self : Decoder α) : Prop :=
  ∃ octets, Decodes self octets fun _ => True

theorem exposed_decodeAll_head
    {decode : α → Decoder α} {element : α}
    (rest : List α) (exposed : (decode element).Exposed) (count : Nat) :
    Decoder.Exposed (decodeAll context decode (element :: rest) count) :=
  .of_first (fun first buffer index =>
      decodeAll context decode rest (count + 1) buffer index >>= fun others =>
        .ok (⟨first :: others.1.1, congrArg (· + 1) others.1.2⟩, others.2))
    (exposed.withContext (context count)) fun _ _ => rfl

/-- One element that leads to something undefined is met, unless another one has
led there before. -/
theorem exposed_decodeAll
    {decode : α → Decoder α} {elements : List α}
    (reads : ∀ element ∈ elements,
      (decode element).Reads ∨ (decode element).Exposed)
    {element : α}
    (member : element ∈ elements)
    (exposed : (decode element).Exposed) (count : Nat) :
    Decoder.Exposed (decodeAll context decode elements count) := by
  induction elements generalizing count with
  | nil => cases member
  | cons first rest ih =>
      rw [List.forall_mem_cons] at reads
      obtain rfl | later := List.mem_cons.mp member
      · exact exposed_decodeAll_head context rest exposed count
      · obtain ⟨octets, decodes⟩ | sooner := reads.1
        · obtain ⟨others, leads⟩ :=
            ih reads.2 later (count + 1)
          refine ⟨octets ++ others, ?_⟩
          intro buffer index found inside
          have holds : Holds buffer index octets := ⟨inside, others, found⟩
          obtain ⟨read, ran, _⟩ :=
            decodes.withContext (context count) buffer index holds
          have rest := leads buffer (index + octets.length)
            (by rw [← List.drop_drop, found, List.drop_left]) holds.length_le
          simp only [decodeAll, bind, Except.bind, ran, rest]
        · exact exposed_decodeAll_head context rest sooner count

theorem reads_decodeAll
    {decode : α → Decoder α} {elements : List α}
    (reads : ∀ element ∈ elements, (decode element).Reads)
    (count : Nat) :
    Decoder.Reads (decodeAll context decode elements count) := by
  induction elements generalizing count with
  | nil => exact ⟨[], fun _ _ _ => ⟨_, rfl, trivial⟩⟩
  | cons first rest ih =>
      rw [List.forall_mem_cons] at reads
      obtain ⟨octets, decodes⟩ := reads.1
      obtain ⟨others, decodesRest⟩ := ih reads.2 (count + 1)
      refine ⟨octets ++ others, ?_⟩
      intro buffer index holds
      rw [holds_append] at holds
      obtain ⟨read, ran, _⟩ :=
        decodes.withContext (context count) buffer index holds.1
      obtain ⟨left, ranRest, _⟩ := decodesRest buffer _ holds.2
      refine ⟨⟨read :: left.1, congrArg (· + 1) left.2⟩, ?_, trivial⟩
      simp only [decodeAll, bind, Except.bind, ran, ranRest,
        List.length_append, Nat.add_assoc]

/-! ## Records -/

/-- A length of more groups than a number of 32 bits has shifts by more than its
width. -/
theorem exposed_fixedRecord
    (fields : Fields) (value : (Shape.fixedRecord fields).Value) :
    ((Shape.fixedRecord fields).decodeFrom value).Exposed := by
  refine ⟨List.replicate 6 0x80, ?_⟩
  intro buffer index found _
  have shifted : decodeFromBE32Compressed buffer index = .error .undefined := by
    rw [decodeFromBE32Compressed, asBits, found]
    rfl
  simp only [Shape.decodeFrom, bind, Except.bind, shifted, withContext]

/-- A record that is empty as its header has it can be read. -/
theorem reads_fixedRecord
    (fields : Fields) (value : (Shape.fixedRecord fields).Value) :
    ((Shape.fixedRecord fields).decodeFrom value).Reads := by
  refine ⟨[0] ++ [0], ?_⟩
  intro buffer index holds
  rw [holds_append] at holds
  have length := (decodes_decodeFromBE32Compressed 0).ran holds.1
  have version := (decodes_decodeFromBE32Compressed 0).ran holds.2
  refine ⟨(0, value.2), ?_, trivial⟩
  rw [Shape.decodeFrom_fixedRecord fields value length version
    (sizeSum_of_holds holds.1 0), Fields.decodeFrom_of_le]
  · rfl
  · exact Nat.le_trans (Nat.le_add_right index 1) (Nat.le_add_right _ _)

/-! ## Arrays -/

section Arrays

variable {type : BasicDataElement} {array : type.hasArray = true}

theorem BasicDataElement.decodesSafely_of_hasArray
    (array : type.hasArray = true) :
    type.decodesSafely = true := by
  cases type <;> first | rfl | cases array

/-- There is something to read for every basic data element. -/
theorem BasicDataElement.reads_decodeFrom (type : BasicDataElement) :
    type.decodeFrom.Reads := by
  refine ⟨type.layout type.default, ?_⟩
  intro buffer index holds
  have short : readable.basic type type.default := by
    cases type <;> first
      | trivial
      | exact (by decide : 0 < 2 ^ 30)
      | exact (by decide : 0 < 2 ^ 31)
      | exact (by decide : 0 < 2 ^ 32)
  have plane : inBasicPlane.basic type type.default := by
    cases type <;> first
      | trivial
      | exact (by decide : 0 < 2 ^ 16)
      | exact fun _ member => absurd member List.not_mem_nil
  obtain ⟨read, ran, _⟩ :=
    type.decodes type.default short plane buffer index holds
  exact ⟨read, ran, trivial⟩

variable {length : Nat}

theorem safe_fixedArrayOfBasicType
    (value : (Shape.fixedArrayOfBasicType type array length).Value) :
    ((Shape.fixedArrayOfBasicType type array length).decodeFrom value).Safe :=
  (safe_decodeAll noContext (fun (_ : type.SimpleDataType) _ =>
    BasicDataElement.safe_decodeFrom
      (BasicDataElement.decodesSafely_of_hasArray array)) 0).followedBy
    (fun read _ index => .ok (⟨read.1, read.2.trans value.2⟩, index))
    (fun _ _ _ inside => inside) fun _ _ => rfl

variable {protoType : Shape}

theorem safe_fixedArray
    {value : (Shape.fixedArray protoType length).Value}
    (safe : ∀ element ∈ value.2.1, (protoType.decodeFrom element).Safe) :
    ((Shape.fixedArray protoType length).decodeFrom value).Safe :=
  (safe_decodeAll noContext safe 0).followedBy
    (fun read _ index =>
      .ok ((value.1, ⟨read.1, read.2.trans value.2.2⟩), index))
    (fun _ _ _ inside => inside) fun _ _ => rfl

theorem exposed_fixedArray
    {value : (Shape.fixedArray protoType length).Value}
    (reads : ∀ element, (protoType.decodeFrom element).Reads)
    {element : protoType.Value}
    (member : element ∈ value.2.1)
    (exposed : (protoType.decodeFrom element).Exposed) :
    ((Shape.fixedArray protoType length).decodeFrom value).Exposed :=
  .of_first
    (fun read _ index =>
      .ok ((value.1, ⟨read.1, read.2.trans value.2.2⟩), index))
    (exposed_decodeAll noContext (fun element _ => Or.inl (reads element)) member
      exposed 0) fun _ _ => rfl

/-- There is a count in front of a variable array, or there is no room for it. -/
theorem count_cases
    (inside : index ≤ buffer.bufferSize) :
    (∃ length,
      (∀ what, require buffer index 4 what = .ok ()) ∧
        decodeFromBE32 buffer index = .ok (length, index + 4) ∧
          index + 4 ≤ buffer.bufferSize) ∨
      ∀ what, require buffer index 4 what = .error (.encoderException what) := by
  by_cases room : index + 4 ≤ buffer.bufferSize
  · obtain ⟨length, ran⟩ :=
      @BasicDataElement.decodeFromBE_of_le 32 _ buffer index room
    exact Or.inl ⟨length, require_eq_ok room, ran, room⟩
  · refine Or.inr ?_
    intro what
    obtain ⟨_, room'⟩ | failed :=
      require_cases inside (by decide : 4 < 2 ^ 32) what
    · exact absurd room' room
    · exact failed

/-- What is done with the result of a safe decoder does not matter. -/
theorem Decoder.Safe.map
    {decoder : Decoder α}
    (change : α → β) (safe : decoder.Safe) :
    Decoder.Safe fun buffer index =>
      (decoder buffer index).map fun read => (change read.1, read.2) :=
  safe.followedBy (fun value _ index => .ok (change value, index))
    (fun _ => .ok _) fun buffer index => by
      cases decoder buffer index <;> rfl

theorem safe_variableArrayOfBasicType
    {value : (Shape.variableArrayOfBasicType type array).Value}
    (present : ∀ count < 2 ^ 32,
      ∀ element ∈ (value.resize type.default count).elements,
        element.isSome = true) :
    ((Shape.variableArrayOfBasicType type array).decodeFrom value).Safe := by
  intro buffer index inside
  obtain ⟨length, room, read, next⟩ | failed := count_cases inside
  · rw [Shape.decodeFrom_variableArrayOfBasicType type array value room read rfl]
    refine Decoder.Safe.map
      (value.resize type.default length.toNat).withElements
      (safe_decodeAll noContext ?_ 0) buffer _ next
    intro element member
    have there := present length.toNat length.isLt element member
    cases element with
    | none => cases there
    | some _ =>
        exact (BasicDataElement.safe_decodeFrom
          (BasicDataElement.decodesSafely_of_hasArray array)).followedBy
          (fun value _ index => .ok (some value, index)) (fun _ => .ok _)
          fun _ _ => rfl
  · simp only [Shape.decodeFrom, failed, bind, Except.bind]
    exact stopsInside_exception buffer _

theorem safe_variableArray
    {value : (Shape.variableArray protoType).Value}
    (safe : ∀ count < 2 ^ 32,
      ∀ element ∈ resized protoType.clone count value,
        (protoType.decodeFrom element).Safe) :
    ((Shape.variableArray protoType).decodeFrom value).Safe := by
  intro buffer index inside
  obtain ⟨length, room, read, next⟩ | failed := count_cases inside
  · rw [Shape.decodeFrom_variableArray protoType value room read rfl]
    exact Decoder.Safe.map (fun read => (value.1, read.1))
      (safe_decodeAll elementContext (safe length.toNat length.isLt) 0) buffer _
      next
  · simp only [Shape.decodeFrom, failed, bind, Except.bind]
    exact stopsInside_exception buffer _

/-- A count and octets after it that lead to something undefined. -/
theorem exposed_counted
    {whole : Decoder α} {elements : Decoder β}
    (change : β → α)
    (small : count < 2 ^ 32)
    (exposed : elements.Exposed)
    (continues : ∀ buffer index length,
      (∀ what, require buffer index 4 what = .ok ()) →
        decodeFromBE32 buffer index = .ok (length, index + 4) →
          length.toNat = count →
            whole buffer index =
              (elements buffer (index + 4)).map fun read =>
                (change read.1, read.2)) :
    whole.Exposed := by
  obtain ⟨octets, leads⟩ := exposed
  refine ⟨counted count octets, ?_⟩
  intro buffer index found inside
  have holds : Holds buffer index (counted count octets) :=
    ⟨inside, [], by rw [found, List.append_nil]⟩
  obtain ⟨room, read, there⟩ := holds_counted holds
  have rest : buffer.octets.drop (index + 4) = octets := by
    have split := length_bigEndian 4 (BitVec.ofNat 32 count).toNat
    rw [← List.drop_drop, found, counted, List.drop_left' split]
  rw [continues buffer index _ room read (toNat_ofNat_of_lt small),
    leads buffer _ rest there.1]
  rfl

theorem exposed_variableArrayOfBasicType
    {value : (Shape.variableArrayOfBasicType type array).Value}
    (small : count < 2 ^ 32)
    (lost : none ∈ (value.resize type.default count).elements) :
    ((Shape.variableArrayOfBasicType type array).decodeFrom value).Exposed := by
  have gone : Decoder.Exposed (decodeSlot type.decodeFrom none) :=
    ⟨[], fun _ _ _ _ => rfl⟩
  refine exposed_counted (value.resize type.default count).withElements small
    (exposed_decodeAll noContext ?_ lost gone 0)
    fun _ _ _ room read same =>
      Shape.decodeFrom_variableArrayOfBasicType type array value room read same
  intro element _
  cases element with
  | none => exact Or.inr gone
  | some prior =>
      obtain ⟨octets, decodes⟩ := type.reads_decodeFrom
      refine Or.inl ⟨octets, ?_⟩
      intro buffer index holds
      obtain ⟨read, ran, _⟩ := decodes buffer index holds
      refine ⟨some read, ?_, trivial⟩
      rw [decodeSlot, ran]
      rfl

theorem exposed_variableArray
    {value : (Shape.variableArray protoType).Value}
    (small : count < 2 ^ 32)
    (reads : ∀ element, (protoType.decodeFrom element).Reads)
    {element : protoType.Value}
    (member : element ∈ resized protoType.clone count value)
    (exposed : (protoType.decodeFrom element).Exposed) :
    ((Shape.variableArray protoType).decodeFrom value).Exposed :=
  exposed_counted (fun read => (value.1, read.1)) small
    (exposed_decodeAll elementContext (fun element _ => Or.inl (reads element))
      member exposed 0)
    fun _ _ _ room read same =>
      Shape.decodeFrom_variableArray protoType value room read same

/-- A variable array can be read empty. -/
theorem reads_counted
    {whole : Decoder α} {elements : Decoder β}
    (reads : Decodes elements [] fun _ => True)
    (change : β → α)
    (continues : ∀ buffer index length,
      (∀ what, require buffer index 4 what = .ok ()) →
        decodeFromBE32 buffer index = .ok (length, index + 4) →
          length.toNat = 0 →
            whole buffer index =
              (elements buffer (index + 4)).map fun read =>
                (change read.1, read.2)) :
    whole.Reads := by
  refine ⟨counted 0 [], ?_⟩
  intro buffer index holds
  obtain ⟨room, read, there⟩ := holds_counted holds
  obtain ⟨got, ran, _⟩ := reads buffer _ there
  refine ⟨change got, ?_, trivial⟩
  rw [continues buffer index _ room read rfl, ran]
  rfl

end Arrays

/-! ## Data elements -/

/-- There is something to read for every data element. -/
theorem Shape.reads : ∀ (self : Shape) (value : self.Value),
    (self.decodeFrom value).Reads
  | .basic type, _ => type.reads_decodeFrom
  | .fixedArrayOfBasicType type array length, value => by
      obtain ⟨octets, decodes⟩ := reads_decodeAll noContext
        (fun (_ : type.SimpleDataType) (_ : _ ∈ value.1) =>
          type.reads_decodeFrom) 0
      refine ⟨octets, ?_⟩
      intro buffer index holds
      obtain ⟨read, ran, _⟩ := decodes buffer index holds
      refine ⟨⟨read.1, read.2.trans value.2⟩, ?_, trivial⟩
      rw [Shape.decodeFrom_fixedArrayOfBasicType, ran]
      rfl
  | .fixedArray protoType length, value => by
      obtain ⟨octets, decodes⟩ := reads_decodeAll noContext
        (fun element (_ : element ∈ value.2.1) => protoType.reads element) 0
      refine ⟨octets, ?_⟩
      intro buffer index holds
      obtain ⟨read, ran, _⟩ := decodes buffer index holds
      refine ⟨(value.1, ⟨read.1, read.2.trans value.2.2⟩), ?_, trivial⟩
      rw [Shape.decodeFrom_fixedArray, ran]
      rfl
  | .variableArrayOfBasicType type array, value => by
      have empty : (value.resize type.default 0).elements = [] :=
        List.eq_nil_of_length_eq_zero (value.length_resize type.default 0)
      have nothing : Decodes (decodeAll noContext (decodeSlot type.decodeFrom)
          (value.resize type.default 0).elements 0) [] fun _ => True := by
        rw [empty]
        exact fun _ _ _ => ⟨_, rfl, trivial⟩
      exact reads_counted nothing (value.resize type.default 0).withElements
        fun _ _ _ room read same =>
          Shape.decodeFrom_variableArrayOfBasicType type array value room read
            same
  | .variableArray protoType, value => by
      have empty : resized protoType.clone 0 value = [] :=
        List.eq_nil_of_length_eq_zero (length_resized protoType.clone 0 value)
      have nothing : Decodes (decodeAll elementContext protoType.decodeFrom
          (resized protoType.clone 0 value) 0) [] fun _ => True := by
        rw [empty]
        exact fun _ _ _ => ⟨_, rfl, trivial⟩
      exact reads_counted nothing (fun read => (value.1, read.1))
        fun _ _ _ room read same =>
          Shape.decodeFrom_variableArray protoType value room read same
  | .fixedRecord fields, value => reads_fixedRecord fields value

/-- No string of wide characters, no opaque data and no record is met, and no
encoder that is gone, whatever the length is that a variable array is to have. -/
def Shape.DecodesSafely : (self : Shape) → self.Value → Prop
  | .basic type, _ => type.decodesSafely = true
  | .fixedArrayOfBasicType _ _ _, _ => True
  | .fixedArray protoType _, value =>
      ∀ element ∈ value.2.1, protoType.DecodesSafely element
  | .variableArrayOfBasicType type _, value =>
      ∀ count < 2 ^ 32,
        ∀ element ∈ (value.resize type.default count).elements,
          element.isSome = true
  | .variableArray protoType, value =>
      ∀ count < 2 ^ 32,
        ∀ element ∈ resized protoType.clone count value,
          protoType.DecodesSafely element
  | .fixedRecord _, _ => False

theorem Shape.safe_decodeFrom : ∀ (self : Shape) (value : self.Value),
    self.DecodesSafely value → (self.decodeFrom value).Safe
  | .basic _, _, safely => BasicDataElement.safe_decodeFrom safely
  | .fixedArrayOfBasicType _ _ _, value, _ => safe_fixedArrayOfBasicType value
  | .fixedArray protoType _, _, safely =>
      safe_fixedArray fun element member =>
        protoType.safe_decodeFrom element (safely element member)
  | .variableArrayOfBasicType _ _, _, safely =>
      safe_variableArrayOfBasicType safely
  | .variableArray protoType, _, safely =>
      safe_variableArray fun count small element member =>
        protoType.safe_decodeFrom element (safely count small element member)
  | .fixedRecord _, _, safely => nomatch safely

theorem Shape.exposed_decodeFrom : ∀ (self : Shape) (value : self.Value),
    ¬self.DecodesSafely value → (self.decodeFrom value).Exposed
  | .basic type, _, unsafely => by
      cases type with
      | unicodeString => exact BasicDataElement.exposed_decodeUnicodeString
      | opaqueData => exact BasicDataElement.exposed_decodeOpaqueData
      | _ => exact absurd rfl unsafely
  | .fixedArrayOfBasicType _ _ _, _, unsafely => absurd trivial unsafely
  | .fixedArray protoType _, value, unsafely => by
      simp only [Shape.DecodesSafely, not_forall] at unsafely
      obtain ⟨element, member, unsafely⟩ := unsafely
      exact exposed_fixedArray protoType.reads member
        (protoType.exposed_decodeFrom element unsafely)
  | .variableArrayOfBasicType type array, value, unsafely => by
      simp only [Shape.DecodesSafely, not_forall] at unsafely
      obtain ⟨count, small, element, member, lost⟩ := unsafely
      cases element with
      | none => exact exposed_variableArrayOfBasicType small member
      | some _ => exact absurd rfl lost
  | .variableArray protoType, value, unsafely => by
      simp only [Shape.DecodesSafely, not_forall] at unsafely
      obtain ⟨count, small, element, member, unsafely⟩ := unsafely
      exact exposed_variableArray small protoType.reads member
        (protoType.exposed_decodeFrom element unsafely)
  | .fixedRecord fields, value, _ => exposed_fixedRecord fields value

end Encoding
end OpenRTI
