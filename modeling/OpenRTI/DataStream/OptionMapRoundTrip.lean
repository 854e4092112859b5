import OpenRTI.DataStream.InitialStreamProtocol
import Mathlib.Algebra.Order.BigOperators.Group.List

/-!
# Option maps on the wire

What the writer puts out is laid out in parts, each a multiple of four octets
long.  The reader takes these parts one after the other and builds the map that
was written.  Whatever it is given, it does not look outside of it.
-/

namespace OpenRTI
namespace DataStream

open Foundation (Octet OrderedMap)
open Foundation.Octets

/-! ## Layouts -/

def count (length : Nat) : List Octet :=
  bigEndian 4 (BitVec.ofNat 32 length).toNat

def padding (length : Nat) : List Octet :=
  List.replicate (aligned 4 length - length) 0xff

def stringLayout (utf8 : OctetString) : List Octet :=
  count utf8.octets.length ++ (utf8.octets ++ padding utf8.octets.length)

def stringListLayout (stringList : StringList) : List Octet :=
  count stringList.length ++ stringList.flatMap stringLayout

def entryLayout (entry : OctetString × StringList) : List Octet :=
  stringLayout entry.1 ++ stringListLayout entry.2

def mapLayout (stringStringListMap : StringStringListMap) : List Octet :=
  count stringStringListMap.entries.length ++
    stringStringListMap.entries.flatMap entryLayout

@[simp] theorem length_count (length : Nat) : (count length).length = 4 :=
  length_bigEndian 4 _

theorem length_stringLayout (utf8 : OctetString) :
    (stringLayout utf8).length = 4 + aligned 4 utf8.octets.length := by
  rw [stringLayout, List.length_append, List.length_append, length_count,
    padding, List.length_replicate, aligned]
  omega

theorem stringLayout_multiple (utf8 : OctetString) :
    (stringLayout utf8).length % 4 = 0 := by
  rw [length_stringLayout, aligned]
  omega

variable {α : Type}

theorem flatMap_multiple
    {layout : α → List Octet}
    (multiple : ∀ element, (layout element).length % 4 = 0)
    (elements : List α) :
    (elements.flatMap layout).length % 4 = 0 := by
  induction elements with
  | nil => rfl
  | cons element rest ih =>
      have first := multiple element
      rw [List.flatMap_cons, List.length_append]
      omega

theorem stringListLayout_multiple (stringList : StringList) :
    (stringListLayout stringList).length % 4 = 0 := by
  have strings := flatMap_multiple stringLayout_multiple stringList
  rw [stringListLayout, List.length_append, length_count]
  omega

theorem entryLayout_multiple (entry : OctetString × StringList) :
    (entryLayout entry).length % 4 = 0 := by
  have key := stringLayout_multiple entry.1
  have strings := stringListLayout_multiple entry.2
  rw [entryLayout, List.length_append]
  omega

/-! ## What is written -/

namespace EncodeDataStream

variable {self : EncodeDataStream} {before : List Octet}

theorem Written.writeString
    (written : self.Written before)
    (start : before.length % 4 = 0)
    (utf8 : OctetString) :
    (self.writeString utf8).Written (before ++ stringLayout utf8) := by
  have octets := (written.writeUInt32BE
    (BitVec.ofNat 32 utf8.octets.length)).writeOctets utf8.octets
  have filled : aligned 4 ((self.writeUInt32BE
        (BitVec.ofNat 32 utf8.octets.length)).writeOctets utf8.octets).offset -
      ((self.writeUInt32BE
        (BitVec.ofNat 32 utf8.octets.length)).writeOctets utf8.octets).offset =
      aligned 4 utf8.octets.length - utf8.octets.length := by
    rw [octets.2, List.length_append, List.length_append, length_bigEndian,
      aligned, aligned]
    omega
  have whole := octets.writeOctets (padding utf8.octets.length)
  rw [EncodeDataStream.writeString, align, if_neg (by decide), filled,
    stringLayout, ← List.append_assoc, ← List.append_assoc]
  exact whole

/-- Elements that are written one after the other. -/
theorem Written.foldl
    {write : EncodeDataStream → α → EncodeDataStream}
    {layout : α → List Octet}
    (writes : ∀ self before element, Written self before →
      before.length % 4 = 0 → (write self element).Written
        (before ++ layout element))
    (multiple : ∀ element, (layout element).length % 4 = 0)
    (written : self.Written before)
    (start : before.length % 4 = 0)
    (elements : List α) :
    (elements.foldl write self).Written
      (before ++ elements.flatMap layout) := by
  induction elements generalizing self before with
  | nil =>
      rw [List.flatMap_nil, List.append_nil]
      exact written
  | cons element rest ih =>
      have first := writes self before element written start
      have further := ih first (by
        rw [List.length_append]
        have last := multiple element
        omega)
      rw [List.append_assoc] at further
      exact further

theorem Written.count
    (written : self.Written before)
    (start : before.length % 4 = 0)
    (length : Nat) :
    (self.writeUInt32BE (BitVec.ofNat 32 length)).Written
        (before ++ DataStream.count length) ∧
      (before ++ DataStream.count length).length % 4 = 0 := by
  refine ⟨written.writeUInt32BE _, ?_⟩
  rw [List.length_append, length_count]
  omega

theorem Written.writeStringList
    (written : self.Written before)
    (start : before.length % 4 = 0)
    (stringList : StringList) :
    (self.writeStringList stringList).Written
      (before ++ stringListLayout stringList) := by
  obtain ⟨counted, aligned⟩ := written.count start stringList.length
  rw [stringListLayout, ← List.append_assoc]
  exact counted.foldl
    (fun _ _ utf8 written start => written.writeString start utf8)
    stringLayout_multiple aligned stringList

theorem Written.writeEntry
    (written : self.Written before)
    (start : before.length % 4 = 0)
    (entry : OctetString × StringList) :
    (self.writeEntry entry).Written (before ++ entryLayout entry) := by
  have key := written.writeString start entry.1
  have aligned : (before ++ stringLayout entry.1).length % 4 = 0 := by
    have multiple := stringLayout_multiple entry.1
    rw [List.length_append]
    omega
  rw [entryLayout, ← List.append_assoc]
  exact key.writeStringList aligned entry.2

theorem written_writeStringStringListMap
    (stringStringListMap : StringStringListMap) :
    (new.writeStringStringListMap stringStringListMap).Written
      (mapLayout stringStringListMap) := by
  obtain ⟨counted, aligned⟩ := written_new.count rfl
    stringStringListMap.entries.length
  rw [List.nil_append] at counted aligned
  exact counted.foldl
    (fun _ _ entry written start => written.writeEntry start entry)
    entryLayout_multiple aligned stringStringListMap.entries

end EncodeDataStream

theorem writeOptionMap_eq (stringStringListMap : StringStringListMap) :
    writeOptionMap stringStringListMap =
      (starter ++ count ((mapLayout stringStringListMap).length + 12),
        mapLayout stringStringListMap) := by
  have body := (EncodeDataStream.written_writeStringStringListMap
    stringStringListMap).1
  have header := ((EncodeDataStream.written_new.writeOctets
    starter).writeUInt32BE
      (BitVec.ofNat 32 ((mapLayout stringStringListMap).length + 12))).1
  rw [List.nil_append] at header
  rw [writeOptionMap, body, header]
  rfl

/-! ## What is read -/

namespace DecodeDataStream

theorem readUInt32BE_takes_count (length : Nat) :
    Reading.Takes readUInt32BE (count length) (BitVec.ofNat 32 length) :=
  readUInt32BE_takes _

theorem readString_takes
    (utf8 : OctetString)
    (small : utf8.octets.length < 2 ^ 32) :
    Reading.Takes readString (stringLayout utf8) utf8 := by
  intro before rest start
  have counted := readUInt32BE_takes_count utf8.octets.length before
    (utf8.octets ++ padding utf8.octets.length ++ rest) start
  have octets := readOctets_eq_ok (before ++ count utf8.octets.length)
    utf8.octets (padding utf8.octets.length ++ rest)
  have whole := length_stringLayout utf8
  simp only [List.append_assoc, List.length_append, length_count]
    at counted octets
  have room : ¬(before ++ (stringLayout utf8 ++ rest)).length <
      before.length + (stringLayout utf8).length := by
    simp only [List.length_append]
    omega
  have last : aligned 4 (before.length + 4 + utf8.octets.length) =
      before.length + (stringLayout utf8).length := by
    rw [whole, aligned, aligned]
    omega
  have parts : stringLayout utf8 ++ rest =
      count utf8.octets.length ++ (utf8.octets ++
        (padding utf8.octets.length ++ rest)) := by
    rw [stringLayout, List.append_assoc, List.append_assoc]
  rw [parts] at room ⊢
  rw [readString, counted]
  change (readOctets (BitVec.ofNat 32 utf8.octets.length).toNat _ >>= _) = _
  rw [toNat_ofNat_of_lt small, octets]
  change (align 4 _ >>= _) = _
  rw [align, if_neg (by decide), seek, last, if_neg room]
  rfl

theorem readStrings_takes
    {strings : List OctetString}
    (small : ∀ utf8 ∈ strings, utf8.octets.length < 2 ^ 32)
    (stringList : StringList) :
    Reading.Takes (readStrings strings.length stringList)
      (strings.flatMap stringLayout) (stringList ++ strings) := by
  induction strings generalizing stringList with
  | nil =>
      intro before rest _
      rw [List.append_nil]
      rfl
  | cons utf8 others ih =>
      rw [List.forall_mem_cons] at small
      have further := ih small.2 (stringList ++ [utf8])
      rw [List.append_assoc, List.singleton_append] at further
      exact @Reading.Takes.followedBy _ _ _
        (fun utf8 => readStrings others.length (stringList ++ [utf8]))
        _ _ _ _ (readString_takes utf8 small.1) further
        (stringLayout_multiple utf8)

theorem readStringList_takes
    {strings : StringList}
    (few : strings.length < 2 ^ 32)
    (small : ∀ utf8 ∈ strings, utf8.octets.length < 2 ^ 32)
    (stringList : StringList) :
    Reading.Takes (readStringList stringList) (stringListLayout strings)
      (stringList ++ strings) := by
  have read := readStrings_takes small stringList
  rw [← toNat_ofNat_of_lt few] at read
  exact @Reading.Takes.followedBy _ _ _
    (fun length => readStrings length.toNat stringList) _ _ _ _
    (readUInt32BE_takes_count strings.length) read
    (congrArg (· % 4) (length_count strings.length))

/-- Entries that are read into a map one after the other. -/
def setAll
    (stringStringListMap : StringStringListMap)
    (entries : List (OctetString × StringList)) : StringStringListMap :=
  entries.foldl (fun map entry => map.set entry.1 entry.2) stringStringListMap

theorem find?_setAll
    {entries : List (OctetString × StringList)}
    (distinct : entries.Pairwise fun left right => left.1 < right.1)
    (stringStringListMap : StringStringListMap) (key : OctetString) :
    (setAll stringStringListMap entries).find? key =
      (OrderedMap.findEntry key entries).or
        (stringStringListMap.find? key) := by
  induction entries generalizing stringStringListMap with
  | nil => rfl
  | cons entry rest ih =>
      obtain ⟨below, others⟩ := List.pairwise_cons.mp distinct
      rw [setAll, List.foldl_cons]
      refine (ih others _).trans ?_
      rw [OrderedMap.find?_set, OrderedMap.findEntry]
      by_cases same : key = entry.1
      · have absent : OrderedMap.findEntry key rest = none := by
          apply OrderedMap.findEntry_eq_none
          intro later member
          rw [same]
          exact (below later member).ne'
        rw [if_pos same, if_pos same, absent]
        rfl
      · rw [if_neg same, if_neg same]

/-- A map is built again from its entries. -/
theorem setAll_entries (stringStringListMap : StringStringListMap) :
    setAll ∅ stringStringListMap.entries = stringStringListMap := by
  apply OrderedMap.eq_of_find?
  intro key
  rw [find?_setAll stringStringListMap.ordered]
  exact Option.or_none

/-- The lengths and counts of an entry fit in 32 bits. -/
def Fits (entry : OctetString × StringList) : Prop :=
  entry.1.octets.length < 2 ^ 32 ∧ entry.2.length < 2 ^ 32 ∧
    ∀ utf8 ∈ entry.2, utf8.octets.length < 2 ^ 32

theorem readEntries_takes
    {entries : List (OctetString × StringList)}
    (distinct : entries.Pairwise fun left right => left.1 < right.1)
    (fits : ∀ entry ∈ entries, Fits entry)
    (stringStringListMap : StringStringListMap)
    (absent : ∀ entry ∈ entries, stringStringListMap.find? entry.1 = none) :
    Reading.Takes (readEntries entries.length stringStringListMap)
      (entries.flatMap entryLayout) (setAll stringStringListMap entries) := by
  induction entries generalizing stringStringListMap with
  | nil =>
      intro before rest _
      rfl
  | cons entry rest ih =>
      obtain ⟨below, others⟩ := List.pairwise_cons.mp distinct
      rw [List.forall_mem_cons] at fits absent
      have further := ih others fits.2
        (stringStringListMap.set entry.1 entry.2) (by
          intro later member
          rw [OrderedMap.find?_set, if_neg (below later member).ne']
          exact absent.2 later member)
      have strings : Reading.Takes
          (readStringList ((stringStringListMap.find? entry.1).getD []))
          (stringListLayout entry.2) entry.2 := by
        rw [absent.1]
        exact readStringList_takes fits.1.2.1 fits.1.2.2 []
      have listed := @Reading.Takes.followedBy _ _ _
        (fun stringList =>
          readEntries rest.length
            (stringStringListMap.set entry.1 stringList))
        _ _ _ _ strings further (stringListLayout_multiple entry.2)
      have whole := @Reading.Takes.followedBy _ _ _
        (fun key stream =>
          readStringList ((stringStringListMap.find? key).getD []) stream >>=
            fun read =>
              readEntries rest.length (stringStringListMap.set key read.1)
                read.2)
        _ _ _ _ (readString_takes entry.1 fits.1.1) listed
        (stringLayout_multiple entry.1)
      rw [← List.append_assoc] at whole
      exact whole

end DecodeDataStream

/-! ## The whole map -/

theorem length_le_flatMap
    {α : Type} {layout : α → List Octet}
    {elements : List α} {element : α}
    (member : element ∈ elements) :
    (layout element).length ≤ (elements.flatMap layout).length := by
  rw [List.length_flatMap]
  exact List.le_sum_of_mem (List.mem_map_of_mem member)

theorem length_le_length_flatMap
    {layout : α → List Octet}
    (some : ∀ element, 1 ≤ (layout element).length)
    (elements : List α) :
    elements.length ≤ (elements.flatMap layout).length := by
  induction elements with
  | nil => exact Nat.le_refl 0
  | cons element rest ih =>
      have first := some element
      rw [List.length_cons, List.flatMap_cons, List.length_append]
      omega

theorem length_le_stringLayout (utf8 : OctetString) :
    utf8.octets.length + 4 ≤ (stringLayout utf8).length := by
  rw [length_stringLayout, aligned]
  omega

theorem length_stringListLayout (stringList : StringList) :
    (stringListLayout stringList).length =
      4 + (stringList.flatMap stringLayout).length := by
  rw [stringListLayout, List.length_append, length_count]

/-- Nothing is longer than the layout of an entry it is in. -/
theorem fits_of_length_entryLayout
    {entry : OctetString × StringList}
    (small : (entryLayout entry).length < 2 ^ 32) :
    DecodeDataStream.Fits entry := by
  have key := length_le_stringLayout entry.1
  have strings := length_stringListLayout entry.2
  rw [entryLayout, List.length_append] at small
  have few := length_le_length_flatMap
    (fun utf8 => by
      have least := length_le_stringLayout utf8
      omega : ∀ utf8, 1 ≤ (stringLayout utf8).length) entry.2
  refine ⟨by omega, by omega, ?_⟩
  intro utf8 member
  have inside := @length_le_flatMap _ stringLayout _ _ member
  have least := length_le_stringLayout utf8
  omega

theorem DecodeDataStream.readStringStringListMap_takes
    {stringStringListMap : StringStringListMap}
    (small : (mapLayout stringStringListMap).length < 2 ^ 32) :
    Reading.Takes readStringStringListMap (mapLayout stringStringListMap)
      stringStringListMap := by
  rw [mapLayout, List.length_append, length_count] at small
  have few := length_le_length_flatMap
    (fun entry => by
      have least := length_le_stringLayout entry.1
      rw [entryLayout, List.length_append]
      omega : ∀ entry, 1 ≤ (entryLayout entry).length)
    stringStringListMap.entries
  have fits : ∀ entry ∈ stringStringListMap.entries, Fits entry := by
    intro entry member
    have inside := @length_le_flatMap _ entryLayout _ _ member
    apply fits_of_length_entryLayout
    omega
  have read := readEntries_takes stringStringListMap.ordered fits ∅
    fun _ _ => rfl
  rw [setAll_entries] at read
  have counted : (BitVec.ofNat 32 stringStringListMap.entries.length).toNat =
      stringStringListMap.entries.length := toNat_ofNat_of_lt (by omega)
  rw [← counted] at read
  exact @Reading.Takes.followedBy _ _ _
    (fun length => readEntries length.toNat ∅) _ _ _ _
    (readUInt32BE_takes_count stringStringListMap.entries.length) read
    (congrArg (· % 4) (length_count _))

/-- The body that is written is read back to its end. -/
theorem readStringStringListMap_mapLayout
    {stringStringListMap : StringStringListMap}
    (small : (mapLayout stringStringListMap).length < 2 ^ 32) :
    DecodeDataStream.readStringStringListMap
        ⟨mapLayout stringStringListMap, 0⟩ =
      .ok (stringStringListMap,
        ⟨mapLayout stringStringListMap,
          (mapLayout stringStringListMap).length⟩) := by
  have ran := DecodeDataStream.readStringStringListMap_takes small [] [] rfl
  rw [List.nil_append, List.append_nil, List.length_nil, Nat.zero_add] at ran
  exact ran

/-- The header that is written asks for the body. -/
theorem readHeader_eq_ok
    {length : Nat}
    (positive : 0 < length)
    (small : length + 12 < 2 ^ 32) :
    readHeader (starter ++ count (length + 12)) =
      .ok (.addScratchReadBuffer length) := by
  have start := DecodeDataStream.readOctets_eq_ok [] starter
    (count (length + 12))
  have size := DecodeDataStream.readUInt32BE_takes_count (length + 12) starter
    [] rfl
  rw [List.append_nil] at size
  have whole : (BitVec.ofNat 32 (length + 12)).toNat = length + 12 :=
    toNat_ofNat_of_lt small
  have valid : ¬length + 12 ≤ 12 := by omega
  have started : DecodeDataStream.readOctets 8
      ⟨starter ++ count (length + 12), 0⟩ =
        .ok (starter, ⟨starter ++ count (length + 12), 8⟩) := start
  have sized : DecodeDataStream.readUInt32BE
      ⟨starter ++ count (length + 12), 8⟩ =
        .ok (BitVec.ofNat 32 (length + 12),
          ⟨starter ++ count (length + 12), 8 + (count (length + 12)).length⟩) :=
    size
  simp only [readHeader, reading, started, sized, Except.mapError, whole,
    if_neg valid, Nat.add_sub_cancel, ne_eq, not_true_eq_false, ite_false,
    bind, Except.bind]

/-! ## Reading what may be anything -/

namespace Reading.StaysInside

theorem readString : Reading.StaysInside DecodeDataStream.readString :=
  readUInt32BE.followedBy fun length =>
    (readOctets length.toNat).followedBy fun octets =>
      (align 4).map fun _ => (⟨octets⟩ : OctetString)

theorem readStrings (length : Nat) (stringList : StringList) :
    Reading.StaysInside (DecodeDataStream.readStrings length stringList) := by
  induction length generalizing stringList with
  | zero => exact returns stringList
  | succ length ih =>
      exact readString.followedBy fun utf8 =>
        ih (stringList ++ [utf8])

theorem readStringList (stringList : StringList) :
    Reading.StaysInside (DecodeDataStream.readStringList stringList) :=
  readUInt32BE.followedBy fun length => readStrings length.toNat stringList

theorem readEntries
    (length : Nat) (stringStringListMap : StringStringListMap) :
    Reading.StaysInside
      (DecodeDataStream.readEntries length stringStringListMap) := by
  induction length generalizing stringStringListMap with
  | zero => exact returns stringStringListMap
  | succ length ih =>
      exact readString.followedBy fun key =>
        (readStringList ((stringStringListMap.find? key).getD [])).followedBy
          fun stringList =>
            ih (stringStringListMap.set key stringList)

theorem readStringStringListMap :
    Reading.StaysInside DecodeDataStream.readStringStringListMap :=
  readUInt32BE.followedBy fun length => readEntries length.toNat ∅

end Reading.StaysInside

theorem DecodeDataStream.inside_zero (variableLengthData : List Octet) :
    Inside ⟨variableLengthData, 0⟩ :=
  Nat.zero_le _

theorem mapError_ne_undefined
    {result : Except Failure α}
    (defined : result ≠ .error .undefined) :
    result.mapError PacketFailure.stream ≠ .error (.stream .undefined) := by
  cases result with
  | ok value =>
      intro same
      cases same
  | error failure =>
      intro same
      cases same
      exact defined rfl

theorem bind_ne_undefined
    {β : Type} {result : Except PacketFailure α}
    {next : α → Except PacketFailure β}
    (defined : result ≠ .error (.stream .undefined))
    (laterDefined : ∀ value, result = .ok value →
      next value ≠ .error (.stream .undefined)) :
    (result >>= next) ≠ .error (.stream .undefined) := by
  cases result with
  | ok value => exact laterDefined value rfl
  | error failure =>
      intro same
      cases same
      exact defined rfl

theorem reading_ne_undefined
    {read : Reading α}
    (staysInside : Reading.StaysInside read)
    (variableLengthData : List Octet) :
    reading read variableLengthData ≠ .error (.stream .undefined) :=
  mapError_ne_undefined
    (staysInside _ (DecodeDataStream.inside_zero variableLengthData)).1

theorem continues_of_reading
    {read : Reading α}
    (staysInside : Reading.StaysInside read)
    {variableLengthData : List Octet} {result : α × DecodeDataStream}
    (ran : reading read variableLengthData = .ok result) :
    (DecodeDataStream.mk variableLengthData 0).Continues result.2 := by
  apply (staysInside _
    (DecodeDataStream.inside_zero variableLengthData)).2 result
  rw [reading] at ran
  cases read_ran : read ⟨variableLengthData, 0⟩ with
  | ok value =>
      rw [read_ran] at ran
      cases ran
      rfl
  | error failure =>
      rw [read_ran] at ran
      cases ran

theorem readHeader_ne_undefined (header : List Octet) :
    readHeader header ≠ .error (.stream .undefined) := by
  have starterInside := Reading.StaysInside.readOctets 8
  apply bind_ne_undefined (reading_ne_undefined starterInside header)
  rintro ⟨read, decodeStream⟩ ran
  have inside := (continues_of_reading starterInside ran).2
  change ite (read ≠ starter) _ _ ≠ _
  by_cases wrong : read ≠ starter
  · rw [if_pos wrong]
    intro same
    cases same
  · rw [if_neg wrong]
    refine bind_ne_undefined (mapError_ne_undefined
      (Reading.StaysInside.readUInt32BE decodeStream inside).1) ?_
    intro size _
    dsimp only
    split
    · intro same
      cases same
    · intro same
      cases same

/-- Whatever the buffers hold, only octets in them are read. -/
theorem readPacket_ne_undefined (buffers : List (List Octet)) :
    readPacket buffers ≠ .error (.stream .undefined) := by
  match buffers with
  | [] =>
      intro same
      cases same
  | [header] => exact readHeader_ne_undefined header
  | [_, body] =>
      refine bind_ne_undefined (reading_ne_undefined
        Reading.StaysInside.readStringStringListMap body) ?_
      intro result _ same
      cases same
  | _ :: _ :: _ :: _ =>
      intro same
      cases same

/-- What is written is asked for, and read back.  Reading stays inside of the
buffers. -/
theorem optionMap_roundTrips :
    (∀ stringStringListMap : StringStringListMap,
      ∀ header body : List Octet,
        writeOptionMap stringStringListMap = (header, body) →
        body.length + 12 < 2 ^ 32 →
          readPacket [] = .ok (.addScratchReadBuffer header.length) ∧
            readPacket [header] = .ok (.addScratchReadBuffer body.length) ∧
            readPacket [header, body] =
              .ok (.readOptionMap stringStringListMap) ∧
            DecodeDataStream.readStringStringListMap ⟨body, 0⟩ =
              .ok (stringStringListMap, ⟨body, body.length⟩)) ∧
      (∀ buffers : List (List Octet),
        readPacket buffers ≠ .error (.stream .undefined)) ∧
      ∀ (body : List Octet) (result : StringStringListMap × DecodeDataStream),
        reading DecodeDataStream.readStringStringListMap body = .ok result →
          result.2.variableLengthData = body ∧
            result.2.offset ≤ body.length := by
  refine ⟨?_, readPacket_ne_undefined, ?_⟩
  · intro stringStringListMap header body written small
    rw [writeOptionMap_eq] at written
    cases written
    have positive : 0 < (mapLayout stringStringListMap).length := by
      rw [mapLayout, List.length_append, length_count]
      omega
    have ran := @readStringStringListMap_mapLayout stringStringListMap
      (by omega)
    refine ⟨?_, readHeader_eq_ok positive small, ?_, ran⟩
    · rw [List.length_append, length_count]
      rfl
    · rw [readPacket, reading, ran]
      rfl
  · intro body result ran
    obtain ⟨same, inside⟩ :=
      continues_of_reading Reading.StaysInside.readStringStringListMap ran
    rw [DecodeDataStream.Inside, same] at inside
    exact ⟨same, inside⟩

/-- The options `a` with no string, and `b` with two. -/
def exampleOptions : StringStringListMap :=
  OrderedMap.set (OrderedMap.set ∅ ⟨[0x61]⟩ []) ⟨[0x62]⟩
    [⟨[]⟩, ⟨[0x31, 0x32, 0x33, 0x34, 0x35]⟩]

theorem optionMap_roundTrips_exampleOptions :
    readPacket [(writeOptionMap exampleOptions).1,
        (writeOptionMap exampleOptions).2] =
      .ok (.readOptionMap exampleOptions) :=
  (optionMap_roundTrips.1 exampleOptions _ _ rfl (by decide)).2.2.1

end DataStream
end OpenRTI
