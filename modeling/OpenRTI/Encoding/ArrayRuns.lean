import OpenRTI.Encoding.ArrayContents

/-!
# Runs of calls on an array of a basic type

The vectors are in step with what a caller counts on unless an element is added by
value, or the encoders move while the first or the last of them is in use.
-/

namespace OpenRTI
namespace Encoding

namespace ArrayKind

variable {kind : ArrayKind}

/-- A header is read safely. -/
theorem decodedLength_safe (buffer : Buffer) :
    StopsInside buffer (decodedLength buffer) :=
  BasicDataElement.safe_checkedBE 32 (by decide) buffer 0 (Nat.zero_le _)

theorem kept_decode
    {array : BasicTypeArray kind.Value}
    {contents : ArrayContents kind.Value}
    (kept : Kept array contents) (buffer : Buffer)
    (admits : kind.Admits array (.decode buffer)) :
    (kind.outcome array (.decode buffer)).2 ≠ some .undefined ∧
      Kept (kind.outcome array (.decode buffer)).1
        (kind.follow contents (.decode buffer)) := by
  have safe : kind.type.decodeFrom.Safe :=
    BasicDataElement.safe_decodeFrom
      (BasicDataElement.decodesSafely_of_hasArray kind.array)
  rw [outcome, follow, BasicTypeArray.decodeFrom]
  by_cases variableArray : kind.variableArray = true
  · rw [if_pos variableArray, if_pos variableArray]
    have stops := decodedLength_safe buffer
    change _ ∧ _
    cases read : decodedLength buffer with
    | error failure =>
        rw [read] at stops
        unfold decodedLength at read
        rw [read]
        exact ⟨fun same => stops (Option.some.inj same), kept⟩
    | ok header =>
        rw [read] at stops
        have resizable := admits variableArray header.1 header.2 read
        unfold decodedLength at read
        rw [read]
        have resized :=
          kept.resize kind.growth kind.type.default resizable
        have decoded := Kept.decodeElements safe buffer header.1.toNat 0
          header.2 resized
          (by rw [ArrayContents.resize, length_resizeList, Nat.zero_add]) stops
        rw [List.drop_zero] at decoded
        exact decoded
  · rw [if_neg variableArray, if_neg variableArray]
    have decoded := Kept.decodeElements safe buffer contents.slots.length 0 0
      kept (Nat.zero_add _) (Nat.zero_le _)
    rw [List.drop_zero] at decoded
    exact decoded

theorem kept_outcome
    {array : BasicTypeArray kind.Value}
    {contents : ArrayContents kind.Value}
    (kept : Kept array contents) (call : ArrayCall kind.Value)
    (admits : kind.Admits array call) :
    (kind.outcome array call).2 ≠ some .undefined ∧
      Kept (kind.outcome array call).1 (kind.follow contents call) := by
  cases call with
  | set index dataElement =>
      cases dataElement with
      | none => exact ⟨Kept.throws_ne_undefined _ _, kept⟩
      | some value => exact kept.set index value
  | addElement dataElement =>
      rw [show dataElement = none from admits]
      exact ⟨Kept.throws_ne_undefined _ _, kept⟩
  | setElementPointer index dataElement =>
      cases dataElement with
      | null => exact ⟨Kept.throws_ne_undefined _ _, kept⟩
      | otherType => exact ⟨Kept.throws_ne_undefined _ _, kept⟩
      | element element => exact kept.setElementPointer index element
  | addElementPointer dataElement =>
      cases dataElement with
      | null => exact ⟨Kept.throws_ne_undefined _ _, kept⟩
      | otherType => exact ⟨Kept.throws_ne_undefined _ _, kept⟩
      | element element =>
          exact kept.addElementPointer kind.growth kind.type.default element
            admits
  | resize length =>
      exact ⟨by simp [outcome], kept.resize kind.growth _ admits⟩
  | decode buffer => exact kept_decode kept buffer admits
  | clear => exact ⟨by simp [outcome], kept.clear⟩

end ArrayKind

/-! ## Calls that spoil the array -/

/-- A pointer to an encoder leads to storage that has been left. -/
def BasicTypeArray.Dangles {α : Type} (self : BasicTypeArray α) : Prop :=
  ∃ index block,
    self.dataElementPointerVector[index]? =
        some (ElementPointer.own block index) ∧
      block ≠ self.dataElementVector.block

section Dangling

variable {α : Type} {array : BasicTypeArray α} {contents : ArrayContents α}

theorem Bookkept.not_dangles (bookkept : Bookkept array contents) :
    ¬ array.Dangles := by
  rintro ⟨index, block, pointer, different⟩
  have inside := (List.getElem?_eq_some_iff.mp pointer).1
  rw [bookkept.dataElementPointerVector] at inside
  have found := List.getElem?_eq_getElem inside
  have same := bookkept.pointers index _ found
  rw [pointer] at same
  cases slot : contents.slots[index] with
  | own value =>
      rw [slot] at same
      cases same
      exact different rfl
  | external element =>
      rw [slot] at same
      cases same

/-- The pointer to the first or the last encoder is left behind when the encoders
move. -/
theorem Kept.resize_dangles
    (kept : Kept array contents) (growth : Growth) (default : α)
    {length : Nat}
    (refused : ¬ array.Resizable length) :
    ∃ index, index < contents.slots.length ∧
      (array.resize growth default length).dataElementPointerVector[index]? =
        some (.own array.dataElementVector.block index) ∧
      array.dataElementVector.block ≠
        (array.resize growth default length).dataElementVector.block := by
  have counted : array.size = contents.slots.length := kept.dataVector
  unfold BasicTypeArray.Resizable at refused
  push Not at refused
  obtain ⟨grows, ends⟩ := refused
  have atEnd : ∃ index, array.Owns index ∧
      ¬ (0 < index ∧ index + 1 < contents.slots.length) := by
    by_cases first : array.Owns 0
    · exact ⟨0, first, by omega⟩
    · exact ⟨array.size - 1, ends first, by omega⟩
  obtain ⟨index, owns, atEnd⟩ := atEnd
  obtain ⟨value, found⟩ := (kept.owns_iff index).mp owns
  have inside := (List.getElem?_eq_some_iff.mp found).1
  have room := kept.capacity
  refine ⟨index, inside, ?_, ?_⟩
  · rw [BasicTypeArray.resize, List.getElem?_mapIdx, getElem?_resizeList,
      if_pos (by omega), owns, Option.getD_some, Option.map_some,
      BasicTypeArray.refreshed, if_neg]
    rintro (null | existing)
    · cases null
    · exact atEnd (kept.existingOwned_own.mp existing)
  · have fresh := kept.fresh
    change _ ≠ (array.dataElementVector.resize growth (array.nextBlock + 1) _
      length).block
    rw [Vector.block_resize, if_neg (Nat.not_le_of_lt grows)]
    omega

theorem decodeElements_pointers
    (decode : Decoder α) (buffer : Buffer) (pointers : List ElementPointer)
    (offset : Nat) (array : BasicTypeArray α) :
    (BasicTypeArray.decodeElements decode buffer pointers offset
        array).1.dataElementPointerVector = array.dataElementPointerVector ∧
      (BasicTypeArray.decodeElements decode buffer pointers offset
        array).1.dataElementVector = array.dataElementVector := by
  induction pointers generalizing offset array with
  | nil => exact ⟨rfl, rfl⟩
  | cons pointer rest ih =>
      rw [BasicTypeArray.decodeElements]
      split
      next => exact ⟨rfl, rfl⟩
      next location located =>
        split
        next => exact ⟨rfl, rfl⟩
        next value next ran =>
          have kept := ih next (array.write value location)
          rw [kept.1, kept.2]
          cases location <;> exact ⟨rfl, rfl⟩

end Dangling

namespace ArrayKind

variable {kind : ArrayKind}

theorem call_eq_some
    {array after : BasicTypeArray kind.Value} {call : ArrayCall kind.Value}
    (stepped : kind.call array call = some after) :
    (kind.outcome array call).1 = after := by
  unfold ArrayKind.call at stepped
  split at stepped
  · cases stepped
  · exact Option.some.inj stepped

/-- A call that is not admitted leaves the vectors out of step, or a pointer that
leads nowhere. -/
theorem spoils
    {array after : BasicTypeArray kind.Value}
    {contents : ArrayContents kind.Value} {call : ArrayCall kind.Value}
    (kept : Kept array contents)
    (refused : ¬ kind.Admits array call)
    (stepped : kind.call array call = some after) :
    ¬ Bookkept after (kind.follow contents call) := by
  have after_eq := call_eq_some stepped
  cases call with
  | set index dataElement => exact absurd trivial refused
  | setElementPointer index dataElement => exact absurd trivial refused
  | clear => exact absurd trivial refused
  | addElement dataElement =>
      cases dataElement with
      | none => exact absurd rfl refused
      | some value =>
          intro bookkept
          have longer := bookkept.dataVector
          rw [← after_eq] at longer
          change array.dataVector.elements.length =
            (contents.slots ++ [ArraySlot.own value]).length at longer
          rw [kept.dataVector, List.length_append] at longer
          exact Nat.succ_ne_self _ longer.symm
  | addElementPointer dataElement =>
      cases dataElement with
      | null => exact absurd trivial refused
      | otherType => exact absurd trivial refused
      | element element =>
          intro bookkept
          apply bookkept.not_dangles
          obtain ⟨index, inside, pointer, moved⟩ :=
            kept.resize_dangles kind.growth kind.type.default refused
          refine ⟨index, array.dataElementVector.block, ?_, ?_⟩
          · have last : (array.resize kind.growth kind.type.default
                (array.size + 1)).size = array.size + 1 := by
              rw [BasicTypeArray.size, BasicTypeArray.resize,
                Vector.elements_resize, length_resizeList]
            have counted : array.size = contents.slots.length := kept.dataVector
            rw [← after_eq]
            change (List.set _ _ _)[index]? = _
            rw [List.getElem?_set_ne, pointer]
            omega
          · rw [← after_eq]
            exact moved
  | resize length =>
      intro bookkept
      apply bookkept.not_dangles
      obtain ⟨index, inside, pointer, moved⟩ :=
        kept.resize_dangles kind.growth kind.type.default refused
      rw [← after_eq]
      exact ⟨index, array.dataElementVector.block, pointer, moved⟩
  | decode buffer =>
      intro bookkept
      apply bookkept.not_dangles
      unfold Admits at refused
      push Not at refused
      obtain ⟨variableArray, length, offset, read, refused⟩ := refused
      obtain ⟨index, inside, pointer, moved⟩ :=
        kept.resize_dangles kind.growth kind.type.default refused
      rw [outcome, BasicTypeArray.decodeFrom, if_pos variableArray] at after_eq
      unfold decodedLength at read
      rw [read] at after_eq
      rw [← after_eq]
      refine ⟨index, array.dataElementVector.block, ?_, ?_⟩
      · rw [(decodeElements_pointers _ _ _ _ _).1]
        exact pointer
      · rw [(decodeElements_pointers _ _ _ _ _).2]
        exact moved

/-- In every state of every run the vectors are in step, count the elements, point
to them and keep their values, exactly if no element is added by value and the array
is resizable whenever it is resized. -/
theorem bookkept_iff
    (kind : ArrayKind)
    (length : Nat)
    (externals : Nat → kind.Value)
    (calls : List (ArrayCall kind.Value)) :
    (∀ past, past <+: calls →
      ∃ after,
        (kind.system length externals).run (kind.start length externals) past =
          some after ∧
        Bookkept after
          (past.foldl kind.follow (kind.initialContents length externals))) ↔
      ∀ past call before,
        past ++ [call] <+: calls →
        (kind.system length externals).run (kind.start length externals) past =
          some before →
        kind.Admits before call := by
  let kept (array : Option (BasicTypeArray kind.Value)) contents :=
    ∃ after, array = some after ∧ Kept after contents
  let good (array : Option (BasicTypeArray kind.Value)) contents :=
    ∃ after, array = some after ∧ Bookkept after contents
  refine @Foundation.TransitionSystem.good_iff_admits _ _ _
    (kind.system length externals) kind.follow
    (kind.initialContents length externals) kept good kind.Admits
    ⟨_, rfl, kind.kept_start length externals⟩ ?_ ?_ ?_ calls
  · rintro array contents ⟨after, rfl, keeps⟩
    exact ⟨after, rfl, keeps.bookkept⟩
  · rintro array contents call ⟨before, rfl, keeps⟩ admits
    obtain ⟨defined, after⟩ := kept_outcome keeps call (admits before rfl)
    exact ⟨_, if_neg defined, after⟩
  · rintro before contents call ⟨state, same, keeps⟩ refused
      ⟨after, stepped, well⟩
    cases same
    exact spoils keeps refused stepped well

/-- A variable array of octets, on a library that doubles a vector that has to
move. -/
def octetArray : ArrayKind where
  type := .octet
  array := rfl
  variableArray := true
  growth :=
    { capacity := fun size length => max (2 * size) length
      enough := fun _ _ => Nat.le_max_right _ _ }

/-- The elements of the caller. -/
def octets : Nat → octetArray.Value := fun _ => octetArray.type.default

/-- An element that is added by value has no own encoder and is not counted.  After
an array of one element has grown the pointer to the element leads nowhere. -/
theorem bookkept_fails :
    (¬ ∀ past, past <+: [ArrayCall.addElement (some octetArray.type.default)] →
      ∃ after,
        (octetArray.system 0 octets).run (octetArray.start 0 octets) past =
          some after ∧
        Bookkept after (past.foldl octetArray.follow
          (octetArray.initialContents 0 octets))) ∧
    ¬ ∀ past, past <+: [ArrayCall.resize 2] →
      ∃ after,
        (octetArray.system 1 octets).run (octetArray.start 1 octets) past =
          some after ∧
        Bookkept after (past.foldl octetArray.follow
          (octetArray.initialContents 1 octets)) := by
  constructor
  · intro holds
    obtain ⟨after, ran, bookkept⟩ := holds _ List.prefix_rfl
    cases ran
    exact absurd bookkept.dataVector (by decide)
  · intro holds
    obtain ⟨after, ran, bookkept⟩ := holds _ List.prefix_rfl
    cases ran
    exact absurd (bookkept.pointers 0 _ rfl) (by decide)

end ArrayKind

end Encoding
end OpenRTI
