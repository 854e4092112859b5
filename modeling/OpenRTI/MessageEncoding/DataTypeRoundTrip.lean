import OpenRTI.MessageEncoding.DataTypes

/-!
# Round trip of the data types of messages

What is written for a value is a list of octets and a list of buffers.  Reading takes
these octets, asks for these buffers, and comes to the value with its data blank; the
buffers fill it in.  What a structure inherits is not written and stays as it is
initially.
-/

namespace OpenRTI
namespace MessageEncoding

open Foundation (Octet OrderedMap)
open DataStream

/-! ## What is written -/

/-- The octets of the number of elements and of each one. -/
def elementOctets
    {α : Type}
    (octets : α → List Octet)
    (value : Sized α) : List Octet :=
  groups value.val.length ++ value.val.flatMap octets

namespace Sized

def map {α β : Type} (change : α → β) (self : Sized α) : Sized β :=
  ⟨self.val.map change, (List.length_map change).trans_lt self.property⟩

/-- The buffer of a data; there is none for an empty one. -/
def buffers (self : Sized Octet) : List (List Octet) :=
  if self.val = [] then [] else [self.val]

/-- A data that is resized. -/
def blank (self : Sized Octet) : Sized Octet :=
  ⟨List.replicate self.val.length 0,
    List.length_replicate.trans_lt self.property⟩

theorem blank_eq_self
    {value : Sized Octet}
    (nothing : value.val = []) :
    value.blank = value :=
  Subtype.ext (by simp [blank, nothing])

end Sized

namespace ScalarType

def octets : (type : ScalarType) → type.Value → List Octet
  | unsigned _, value | handle _, value => groups value.val
  | string, value => elementOctets (fun octet => [octet]) value

end ScalarType

namespace DataType

/-- What is written to the stream of the body. -/
def octets : (type : DataType) → type.Value → List Octet
  | scalar type, value => type.octets value
  | bool, value => [flag value]
  | double, value => groups value.val
  | enum _ _ _, value => groups value.val
  | variableLengthData, value => groups value.val.length
  | empty, _ => []
  | pair first second, value => first.octets value.1 ++ second.octets value.2
  | vector element, value => elementOctets element.octets value
  | set element, value =>
      elementOctets (fun entry => element.octets entry.1)
        (SizedMap.entries value)
  | map key element, value =>
      elementOctets
        (fun entry => key.octets entry.1 ++ elementOctets element.octets entry.2)
        (SizedMap.entries value)
  | derived _ own, value => own.octets value.2

/-- The data that is written in buffers of its own. -/
def payload : (type : DataType) → type.Value → List (List Octet)
  | variableLengthData, value => Sized.buffers value
  | pair first second, value => first.payload value.1 ++ second.payload value.2
  | vector element, value => value.val.flatMap element.payload
  | derived _ own, value => own.payload value.2
  | scalar _, _ | bool, _ | double, _ | enum _ _ _, _ | empty, _ | set _, _
  | map _ _, _ => []

/-- The value without its data, and without what it inherits. -/
def blank : (type : DataType) → type.Value → type.Value
  | variableLengthData, value => Sized.blank value
  | pair first second, value => (first.blank value.1, second.blank value.2)
  | vector element, value => Sized.map element.blank value
  | derived base own, value => (base.initial, own.blank value.2)
  | scalar _, value | bool, value | double, value | enum _ _ _, value
  | empty, value | set _, value | map _ _, value => value

/-- The value as it is received, without what it inherits. -/
def received : (type : DataType) → type.Value → type.Value
  | pair first second, value =>
      (first.received value.1, second.received value.2)
  | vector element, value => Sized.map element.received value
  | derived base own, value => (base.initial, own.received value.2)
  | scalar _, value | bool, value | double, value | enum _ _ _, value
  | variableLengthData, value | empty, value | set _, value
  | map _ _, value => value

/-- Whether no structure in a type inherits from another. -/
def isPlain : DataType → Bool
  | pair first second => first.isPlain && second.isPlain
  | vector element => element.isPlain
  | derived _ _ => false
  | scalar _ | bool | double | enum _ _ _ | variableLengthData | empty | set _
  | map _ _ => true

theorem received_eq_self
    {type : DataType}
    (plain : type.isPlain = true)
    (value : type.Value) :
    type.received value = value := by
  induction type with
  | pair first second firstHypothesis secondHypothesis =>
      obtain ⟨firstPlain, secondPlain⟩ := Bool.and_eq_true_iff.mp plain
      exact Prod.ext (firstHypothesis firstPlain value.1)
        (secondHypothesis secondPlain value.2)
  | vector element ih =>
      apply Subtype.ext
      change value.val.map element.received = value.val
      apply List.map_id''
      intro entry
      exact ih plain entry
  | derived => cases plain
  | scalar | bool | double | enum | variableLengthData | empty | set | map => rfl

end DataType

/-! ## Writing -/

namespace EncodeStream

/-- A stream that has written given octets, and has added given buffers. -/
structure Encoded
    (stream : EncodeStream)
    (octets : List Octet)
    (buffers : List (List Octet)) : Prop where
  written : stream.toEncodeDataStream.Written octets
  added : stream.writeBuffers = buffers

variable {self : EncodeStream} {before : List Octet}
variable {buffers : List (List Octet)}

theorem Encoded.writeSizeTCompressed
    (encoded : self.Encoded before buffers)
    (size : UnsignedType.uint64.Value) :
    (self.writeSizeTCompressed size).Encoded (before ++ groups size.val)
      buffers :=
  ⟨encoded.written.writeCompressed size, encoded.added⟩

theorem Encoded.writeElements
    {α : Type} {write : α → EncodeStream → EncodeStream}
    {octets : α → List Octet} {payload : α → List (List Octet)}
    (writes : ∀ (element : α) (self : EncodeStream) before buffers,
      self.Encoded before buffers →
      (write element self).Encoded (before ++ octets element)
        (buffers ++ payload element))
    (encoded : self.Encoded before buffers) (value : Sized α) :
    (self.writeElements write value).Encoded
      (before ++ elementOctets octets value)
      (buffers ++ value.val.flatMap payload) := by
  have start := encoded.writeSizeTCompressed value.size
  rw [EncodeStream.writeElements, elementOctets, ← List.append_assoc]
  change (self.writeSizeTCompressed value.size).Encoded
    (before ++ groups value.val.length) buffers at start
  generalize self.writeSizeTCompressed value.size = self,
    before ++ groups value.val.length = before at start ⊢
  clear encoded
  induction value.val generalizing self before buffers with
  | nil => simpa using start
  | cons element elements ih =>
      have next := ih _ _ (writes element self before buffers start)
      rw [List.append_assoc, List.append_assoc] at next
      exact next

theorem Encoded.writeString
    (encoded : self.Encoded before buffers) (value : Sized Octet) :
    (self.writeString value).Encoded
      (before ++ elementOctets (fun octet => [octet]) value) buffers := by
  have size := encoded.writeSizeTCompressed value.size
  have written := size.written.writeOctets value.val
  rw [elementOctets, List.flatMap_singleton', ← List.append_assoc]
  exact ⟨written, size.added⟩

theorem Encoded.writeVariableLengthData
    (encoded : self.Encoded before buffers) (value : Sized Octet) :
    (self.writeVariableLengthData value).Encoded
      (before ++ groups value.val.length)
      (buffers ++ value.buffers) := by
  have size := encoded.writeSizeTCompressed value.size
  rw [EncodeStream.writeVariableLengthData, Sized.buffers]
  split
  · rw [List.append_nil]
    exact size
  · exact ⟨size.written, congrArg (· ++ [value.val]) size.added⟩

end EncodeStream

theorem ScalarType.write_encoded
    (type : ScalarType) (value : type.Value) (self : EncodeStream)
    (before : List Octet) (buffers : List (List Octet))
    (encoded : self.Encoded before buffers) :
    (type.write value self).Encoded (before ++ type.octets value) buffers := by
  cases type with
  | unsigned type | handle type =>
      exact ⟨encoded.written.writeCompressed value, encoded.added⟩
  | string => exact encoded.writeString value

variable (type : DataType)

/-- What the writing of a value appends.  The induction is on the type. -/
theorem DataType.write_encoded
    (value : type.Value) (self : EncodeStream) (before : List Octet)
    (buffers : List (List Octet)) (encoded : self.Encoded before buffers) :
    (type.write value self).Encoded (before ++ type.octets value)
      (buffers ++ type.payload value) := by
  -- Elements without data add no buffers.
  have withoutData := fun
      {α : Type}
      {write : α → EncodeStream → EncodeStream}
      {octets : α → List Octet}
      {self : EncodeStream}
      {before : List Octet}
      {buffers : List (List Octet)}
      (writes : ∀ (element : α) (self : EncodeStream) before buffers,
        self.Encoded before buffers →
        (write element self).Encoded (before ++ octets element) buffers)
      (encoded : self.Encoded before buffers)
      (value : Sized α) =>
    @EncodeStream.Encoded.writeElements self before buffers α write octets
      (fun _ => [])
      (by
        intro element self before buffers encoded
        rw [List.append_nil]
        exact writes element self before buffers encoded)
      encoded value
  induction type generalizing self before buffers with
  | scalar type =>
      rw [payload, List.append_nil]
      exact type.write_encoded value self before buffers encoded
  | bool =>
      rw [payload, List.append_nil]
      exact ⟨encoded.written.writeBoolCompressed value, encoded.added⟩
  | double =>
      rw [payload, List.append_nil]
      exact ⟨encoded.written.writeCompressed _, encoded.added⟩
  | enum first others few =>
      rw [payload, List.append_nil]
      exact ⟨encoded.written.writeCompressed _, encoded.added⟩
  | variableLengthData => exact encoded.writeVariableLengthData value
  | empty =>
      rw [payload, octets, List.append_nil, List.append_nil]
      exact encoded
  | pair first second firstHypothesis secondHypothesis =>
      have both := secondHypothesis value.2 _ _ _
        (firstHypothesis value.1 self before buffers encoded)
      rw [List.append_assoc, List.append_assoc] at both
      exact both
  | vector element ih =>
      exact encoded.writeElements ih value
  | set element =>
      have written := withoutData
        (fun (entry : element.Value × Unit) => element.write_encoded entry.1)
        encoded (SizedMap.entries value)
      rw [List.flatMap_eq_nil_iff.mpr fun _ _ => rfl] at written
      exact written
  | map key element =>
      have written := @withoutData (key.Value × Sized element.Value)
        (fun entry self =>
          (key.write entry.1 self).writeElements element.write entry.2)
        (fun entry =>
          key.octets entry.1 ++ elementOctets element.octets entry.2)
        self before buffers
        (by
          intro entry self before buffers encoded
          have values := withoutData element.write_encoded
            (key.write_encoded entry.1 self before buffers encoded) entry.2
          rw [List.flatMap_eq_nil_iff.mpr fun _ _ => rfl, List.append_nil,
            List.append_assoc] at values
          exact values)
        encoded (SizedMap.entries value)
      rw [List.flatMap_eq_nil_iff.mpr fun _ _ => rfl] at written
      exact written
  | derived base own baseHypothesis ownHypothesis =>
      exact ownHypothesis value.2 self before buffers encoded

/-! ## Reading -/

namespace Decoding

/-- A read takes given octets, wherever they begin, asks for buffers of given sizes,
and comes to a value. -/
def Takes
    {α : Type}
    (decoding : Decoding α)
    (octets : List Octet)
    (sizes : List Nat)
    (value : α) : Prop :=
  ∀ (before rest : List Octet) (readBuffers : List Nat),
    decoding ⟨⟨before ++ (octets ++ rest), before.length⟩, readBuffers⟩ =
      .ok (value,
        ⟨⟨before ++ (octets ++ rest), before.length + octets.length⟩,
          readBuffers ++ sizes⟩)

variable {α β : Type}

theorem takes_pure (value : α) : Takes (pure value) [] [] value := by
  intro before rest readBuffers
  rw [List.append_nil]
  rfl

theorem Takes.bind
    {first : Decoding α} {second : α → Decoding β}
    {firstOctets secondOctets : List Octet}
    {firstSizes secondSizes : List Nat} {value : α}
    {result : β}
    (firstTakes : Takes first firstOctets firstSizes value)
    (secondTakes : Takes (second value) secondOctets secondSizes result) :
    Takes (first >>= second) (firstOctets ++ secondOctets)
      (firstSizes ++ secondSizes) result := by
  intro before rest readBuffers
  have firstRan := firstTakes before (secondOctets ++ rest) readBuffers
  have secondRan := secondTakes (before ++ firstOctets) rest
    (readBuffers ++ firstSizes)
  simp only [List.append_assoc, List.length_append] at secondRan
  change (first _ >>= fun result => second result.1 result.2) = _
  rw [List.append_assoc, firstRan, List.length_append, ← Nat.add_assoc]
  exact secondRan

variable {value : α}

/-- What is returned for a read value. -/
theorem Takes.map
    {first : Decoding α} {octets : List Octet}
    {sizes : List Nat}
    (takes : Takes first octets sizes value) (result : α → β) :
    Takes (do let value ← first; return result value) octets sizes
      (result value) := by
  have mapped := @Takes.bind α β first (fun value => pure (result value))
    octets [] sizes [] value (result value) takes (takes_pure _)
  rw [List.append_nil, List.append_nil] at mapped
  exact mapped

theorem takes_read
    {reading : Reading α} {octets : List Octet}
    (takes : reading.TakesAnywhere octets value) :
    Takes (DecodeStream.read reading) octets [] value := by
  intro before rest readBuffers
  rw [DecodeStream.read, takes before rest, List.append_nil]

theorem takes_readSizeTCompressed (size : UnsignedType.uint64.Value) :
    Takes DecodeStream.readSizeTCompressed (groups size.val) [] size :=
  takes_read (DecodeDataStream.readCompressed_takes size)

theorem takes_addDataBuffer (value : Sized Octet) :
    Takes (DecodeStream.addDataBuffer value.val.length) []
      (value.buffers.map List.length) () := by
  rw [DecodeStream.addDataBuffer, Sized.buffers]
  by_cases nothing : value.val = []
  · rw [if_pos nothing, nothing]
    exact takes_pure ()
  · rw [if_neg nothing, if_neg (by simpa using nothing)]
    intro before rest readBuffers
    rfl

variable {sizes : α → List Nat} {result : α → β} {readElement : Decoding β}

theorem takes_readElements
    {octets : α → List Octet}
    (takes : ∀ element, Takes readElement (octets element) (sizes element)
      (result element))
    (elements : List α) :
    Takes (DecodeStream.readElements readElement elements.length)
      (elements.flatMap octets) (elements.flatMap sizes)
      ⟨elements.map result, List.length_map result⟩ := by
  induction elements with
  | nil => exact takes_pure _
  | cons element elements ih =>
      rw [List.flatMap_cons, List.flatMap_cons]
      exact (takes element).bind (ih.map fun after =>
        (⟨result element :: after.val, congrArg Nat.succ after.property⟩ :
          {after : List β // after.length = (element :: elements).length}))

theorem takes_readVector
    {octets : α → List Octet}
    (takes : ∀ element, Takes readElement (octets element) (sizes element)
      (result element))
    (value : Sized α) :
    Takes (DecodeStream.readVector readElement) (elementOctets octets value)
      (value.val.flatMap sizes) (value.map result) := by
  have elements := (takes_readElements takes value.val).map fun elements =>
    (⟨elements.val, elements.property.trans_lt value.property⟩ : Sized β)
  exact (takes_readSizeTCompressed value.size).bind elements

/-- Elements without data. -/
theorem takes_readEntries
    {readElement : Decoding α} {octets : α → List Octet}
    (takes : ∀ element, Takes readElement (octets element) [] element)
    (value : Sized α) :
    Takes (DecodeStream.readVector readElement) (elementOctets octets value) []
      value := by
  have read := takes_readVector takes value
  rw [List.flatMap_eq_nil_iff.mpr fun _ _ => rfl] at read
  have same : value.map (fun element => element) = value :=
    Subtype.ext (List.map_id _)
  rw [same] at read
  exact read

theorem takes_readString (value : Sized Octet) :
    Takes DecodeStream.readString (elementOctets (fun octet => [octet]) value)
      [] value :=
  takes_readEntries
    (fun octet => takes_read (DecodeDataStream.readUInt8BE_takes octet)) value

theorem takes_readVariableLengthData (value : Sized Octet) :
    Takes DecodeStream.readVariableLengthData (groups value.val.length)
      (value.buffers.map List.length) value.blank := by
  have asked := (takes_addDataBuffer value).map fun _ => value.blank
  rw [← List.append_nil (groups value.val.length),
    ← List.nil_append (value.buffers.map List.length)]
  apply Takes.bind (takes_readSizeTCompressed value.size)
  exact asked

end Decoding

variable {κ : Type}

/-! ## Entering of entries -/

/-- Entries in order come to the map of these entries. -/
theorem setAll_entries
    {α : Type}
    [LinearOrder κ]
    (map : OrderedMap κ α) :
    setAll map.entries = map := by
  suffices ∀ (rest front : List (κ × α))
      (ordered : (front ++ rest).Pairwise fun left right => left.1 < right.1)
      (part : OrderedMap κ α), part.entries = front →
      (rest.foldl (fun map entry => map.set entry.1 entry.2) part).entries =
        front ++ rest by
    have entered := this map.entries [] map.ordered ∅ rfl
    cases map
    change OrderedMap.mk _ _ = _
    congr
  intro rest
  induction rest with
  | nil =>
      intro front _ part same
      rw [List.append_nil]
      exact same
  | cons entry rest ih =>
      intro front ordered part same
      have appended : OrderedMap.alterEntries entry.1 (fun _ => some entry.2)
          front = front ++ [entry] := by
        have below : ∀ other ∈ front, other.1 < entry.1 := by
          intro other member
          exact (List.pairwise_append.mp ordered).2.2 other member entry
            List.mem_cons_self
        clear same ordered
        induction front with
        | nil => rfl
        | cons other front frontHypothesis =>
            obtain ⟨least, others⟩ := List.forall_mem_cons.mp below
            rw [OrderedMap.alterEntries, if_neg (not_lt_of_gt least),
              if_neg least.ne', frontHypothesis others]
            rfl
      have whole : front ++ entry :: rest = (front ++ [entry]) ++ rest := by
        rw [List.append_assoc, List.singleton_append]
      rw [whole] at ordered ⊢
      apply ih _ ordered (part.set entry.1 entry.2)
      change OrderedMap.alterEntries entry.1 _ part.entries = _
      rw [same]
      exact appended

theorem SizedMap.enter_entries
    {α : Type}
    [LinearOrder κ]
    (map : SizedMap κ α) :
    SizedMap.enter map.entries = map :=
  Subtype.ext (setAll_entries map.val)

/-! ## Round trip -/

theorem ScalarType.read_takes
    (type : ScalarType) (value : type.Value) :
    Decoding.Takes type.read (type.octets value) [] value := by
  cases type with
  | unsigned type | handle type =>
      exact Decoding.takes_read (DecodeDataStream.readCompressed_takes value)
  | string => exact Decoding.takes_readString value

theorem ScalarType.readVector_takes
    (type : ScalarType) (value : Sized type.Value) :
    Decoding.Takes (DecodeStream.readVector type.read)
      (elementOctets type.octets value) [] value :=
  Decoding.takes_readEntries type.read_takes value

/-- Reading takes what is written for a value and asks for its data.  The induction is
on the type. -/
theorem DataType.read_takes
    (value : type.Value) :
    Decoding.Takes type.read (type.octets value)
      ((type.payload value).map List.length) (type.blank value) := by
  induction type with
  | scalar type => exact type.read_takes value
  | bool =>
      exact Decoding.takes_read (DecodeDataStream.readBoolCompressed_takes value)
  | double =>
      exact Decoding.takes_read (DecodeDataStream.readCompressed_takes _)
  | enum first others few =>
      have within : value.val < others.length + 1 := value.isLt
      let number : UnsignedType.uint32.Value :=
        ⟨value.val, Nat.lt_of_lt_of_le within few⟩
      have read := (Decoding.takes_read
        (DecodeDataStream.readCompressed_takes number)).map
          fun number => enumerant others.length number.val
      have same : enumerant others.length number.val = value := by
        rw [enumerant, dif_pos within]
        rfl
      rw [same] at read
      exact read
  | variableLengthData => exact Decoding.takes_readVariableLengthData value
  | empty => exact Decoding.takes_pure ()
  | pair first second firstHypothesis secondHypothesis =>
      rw [payload, List.map_append]
      exact (firstHypothesis value.1).bind
        ((secondHypothesis value.2).map fun other =>
          (first.blank value.1, other))
  | vector element ih =>
      rw [payload, List.map_flatMap]
      exact Decoding.takes_readVector ih value
  | set element =>
      have read := (Decoding.takes_readEntries
        (fun entry : element.Value × Unit =>
          (element.read_takes entry.1).map fun value => (value, ()))
        (SizedMap.entries value)).map SizedMap.enter
      have same : SizedMap.enter (SizedMap.entries value) = value :=
        SizedMap.enter_entries value
      rw [same] at read
      exact read
  | map key element =>
      have takes : ∀ entry : key.Value × Sized element.Value,
          Decoding.Takes
            (do
              let value ← key.read
              let elements ← DecodeStream.readVector element.read
              return (value, elements))
            (key.octets entry.1 ++ elementOctets element.octets entry.2) []
            entry := by
        intro entry
        rw [← List.nil_append ([] : List Nat)]
        apply Decoding.Takes.bind (key.read_takes entry.1)
        exact (element.readVector_takes entry.2).map fun elements =>
          (entry.1, elements)
      have read := (Decoding.takes_readEntries takes
        (SizedMap.entries value)).map SizedMap.enter
      have same : SizedMap.enter (SizedMap.entries value) = value :=
        SizedMap.enter_entries value
      rw [same] at read
      exact read
  | derived base own baseHypothesis ownHypothesis =>
      exact (ownHypothesis value.2).map fun other => (base.initial, other)

/-! ## Filling in -/

namespace PayloadDecoder

/-- A read takes given buffers from the front and comes to a value. -/
def Takes
    {α : Type}
    (decoder : PayloadDecoder α)
    (buffers : List (List Octet))
    (value : α) : Prop :=
  ∀ rest : List (List Octet), decoder (buffers ++ rest) = .ok (value, rest)

variable {α β : Type}

theorem takes_pure (value : α) : Takes (pure value) [] value :=
  fun _ => rfl

theorem Takes.bind
    {first : PayloadDecoder α} {second : α → PayloadDecoder β}
    {firstBuffers secondBuffers : List (List Octet)} {value : α}
    {result : β}
    (firstTakes : Takes first firstBuffers value)
    (secondTakes : Takes (second value) secondBuffers result) :
    Takes (first >>= second) (firstBuffers ++ secondBuffers) result := by
  intro rest
  change (first _ >>= fun result => second result.1 result.2) = _
  rw [List.append_assoc, firstTakes (secondBuffers ++ rest)]
  exact secondTakes rest

/-- What is returned for a read value. -/
theorem Takes.map
    {first : PayloadDecoder α} {buffers : List (List Octet)}
    {value : α}
    (takes : Takes first buffers value) (result : α → β) :
    Takes (do let value ← first; return result value) buffers
      (result value) := by
  have mapped := @Takes.bind α β first (fun value => pure (result value))
    buffers [] value (result value) takes (takes_pure _)
  rw [List.append_nil] at mapped
  exact mapped

theorem takes_readVariableLengthData (value : Sized Octet) :
    Takes (readVariableLengthData value.blank) value.buffers value := by
  intro rest
  rw [readVariableLengthData.eq_def, Sized.buffers]
  by_cases nothing : value.val = []
  · rw [Sized.blank_eq_self nothing, if_pos nothing, if_pos nothing]
    rfl
  · have filled : ¬ value.blank.val = [] := by
      simpa [Sized.blank] using nothing
    rw [if_neg filled, if_neg nothing, List.singleton_append]
    exact dif_pos value.property

theorem takes_readElements
    {readElement : α → PayloadDecoder α} {buffers : α → List (List Octet)}
    {blank result : α → α}
    (takes : ∀ element, Takes (readElement (blank element)) (buffers element)
      (result element))
    (elements : List α) :
    ∃ same, Takes (readElements readElement (elements.map blank))
      (elements.flatMap buffers) ⟨elements.map result, same⟩ := by
  induction elements with
  | nil => exact ⟨rfl, takes_pure _⟩
  | cons element elements ih =>
      obtain ⟨same, rest⟩ := ih
      refine ⟨congrArg Nat.succ same, ?_⟩
      rw [List.flatMap_cons]
      apply (takes element).bind
      exact rest.map fun after =>
        (⟨result element :: after.val, congrArg Nat.succ after.property⟩ :
          {after : List α //
            after.length = (blank element :: elements.map blank).length})

end PayloadDecoder

/-- The buffers of a value fill in what reading has left blank.  The induction is on
the type. -/
theorem DataType.readPayload_takes
    (value : type.Value) :
    PayloadDecoder.Takes (type.readPayload (type.blank value))
      (type.payload value) (type.received value) := by
  induction type with
  | variableLengthData =>
      exact PayloadDecoder.takes_readVariableLengthData value
  | pair first second firstHypothesis secondHypothesis =>
      apply (firstHypothesis value.1).bind
      exact (secondHypothesis value.2).map fun other =>
        (first.received value.1, other)
  | vector element ih =>
      obtain ⟨same, elements⟩ :=
        PayloadDecoder.takes_readElements ih value.val
      exact elements.map fun elements =>
        (⟨elements.val, elements.property.trans_lt
          (Sized.map element.blank value).property⟩ : Sized element.Value)
  | derived base own baseHypothesis ownHypothesis =>
      exact (ownHypothesis value.2).map fun other => (base.initial, other)
  | scalar | bool | double | enum | empty | set | map =>
      exact PayloadDecoder.takes_pure _

end MessageEncoding
end OpenRTI
