import OpenRTI.StringUtils.UtfToUtf

/-!
# Reading sequences of bytes

A byte announces with its ones how many bytes continue it, and the conversion
reads that many, whatever they are.  So it stays inside the text if and only if
no sequence is cut off by the end.
-/

namespace OpenRTI
namespace StringUtils

open Foundation BitFields

/-! ## One unit -/

theorem toNat_valueMask (type : CharacterType) :
    type.valueMask.toNat = 2 ^ type.bits - 1 := by
  have all : ∀ bits < 33, 3 < bits →
      (bit 32 (bits - 1) ^^^ (bit 32 (bits - 1) - 1#32)).toNat =
        2 ^ bits - 1 := by
    decide
  have narrow := type.narrow
  exact all type.bits (by omega) type.wide

/-- Only the sign extends a character. -/
theorem toNat_uint32_mod
    {type : CharacterType}
    (i : type.Unit)
    {n : Nat}
    (within : n ≤ type.bits) :
    (uint32 i).toNat % 2 ^ n = i.toNat % 2 ^ n := by
  have narrow := type.narrow
  have extended : 2 ^ n ∣ if i.msb then 2 ^ 32 - 2 ^ type.bits else 0 := by
    split
    · exact Nat.dvd_sub (Nat.pow_dvd_pow 2 (within.trans narrow))
        (Nat.pow_dvd_pow 2 within)
    · exact Nat.dvd_zero _
  rw [uint32, BitVec.toNat_signExtend, BitVec.toNat_setWidth, Nat.add_mod,
    Nat.mod_eq_zero_of_dvd extended, Nat.add_zero, Nat.mod_mod,
    Nat.mod_mod_of_dvd _ (Nat.pow_dvd_pow 2 (within.trans narrow))]

/-- The value of a character. -/
theorem toNat_valueMask_and
    {type : CharacterType}
    (i : type.Unit) :
    (type.valueMask &&& uint32 i).toNat = i.toNat := by
  rw [BitVec.toNat_and, toNat_valueMask, Nat.and_comm,
    Nat.and_two_pow_sub_one_eq_mod, toNat_uint32_mod i (le_refl _)]
  exact Nat.mod_eq_of_lt i.isLt

/-- The value that a character contributes to a sequence. -/
theorem toNat_continuationMask_and
    {type : CharacterType}
    (i : type.Unit) :
    (type.continuationMask &&& uint32 i).toNat =
      i.toNat % 2 ^ type.continuationBits := by
  have narrow := type.narrow
  have wide := type.wide
  have inside : type.continuationBits < 32 := by
    rw [CharacterType.continuationBits]
    omega
  rw [CharacterType.continuationMask, toNat_lowBits_and inside]
  exact toNat_uint32_mod i (Nat.sub_le _ _)

/-! ## One step of a sequence of bytes -/

/-- The mask has found a mark, which is removed, and a byte is appended. -/
def append (cp : BitVec 32) (k : Nat) (next : char.Unit) : BitVec 32 :=
  (cp &&& ~~~bit 32 k) <<< 6 ||| (char.continuationMask &&& uint32 next)

variable {cp : BitVec 32} {k : Nat}

theorem readContinuation_marked
    (marked : cp &&& bit 32 k ≠ 0)
    (i next : char.Unit) (rest : List char.Unit) :
    readContinuation cp (bit 32 k) i (next :: rest) =
      readContinuation (append cp k next) (bit 32 (k + 5)) next rest := by
  rw [readContinuation, if_pos marked, ← bit_shiftLeft]
  rfl

theorem readContinuation_marked_end
    (marked : cp &&& bit 32 k ≠ 0)
    (i : char.Unit) :
    readContinuation cp (bit 32 k) i [] = (cp, []) := by
  rw [readContinuation, if_pos marked]

theorem readContinuation_unmarked
    {mask : BitVec 32}
    (unmarked : cp &&& mask = 0)
    (i : char.Unit) (rest : List char.Unit) :
    readContinuation cp mask i rest = (cp, i :: rest) := by
  cases rest <;> rw [readContinuation, if_neg (not_not_intro unmarked)]

/-- The mark is the upper bit of the code point read so far. -/
theorem marked_of_le
    (inside : k < 32)
    (lower : 2 ^ k ≤ cp.toNat)
    (upper : cp.toNat < 2 ^ (k + 1)) :
    cp &&& bit 32 k ≠ 0 := by
  rw [and_bit_ne_zero_iff inside]
  have one : cp.toNat / 2 ^ k = 1 := by
    rw [Nat.pow_succ] at upper
    exact Nat.div_eq_of_lt_le (by omega) (by omega)
  rw [one]

theorem unmarked_of_lt
    {cp : BitVec 32} {k : Nat}
    (inside : k < 32)
    (below : cp.toNat < 2 ^ k) :
    cp &&& bit 32 k = 0 := by
  by_contra marked
  have odd := (and_bit_ne_zero_iff inside).mp marked
  rw [Nat.div_eq_of_lt below] at odd
  cases odd

theorem toNat_append
    (inside : k < 27)
    (lower : 2 ^ k ≤ cp.toNat)
    (upper : cp.toNat < 2 ^ (k + 1))
    (next : char.Unit) :
    (append cp k next).toNat =
      (cp.toNat - 2 ^ k) * 64 + next.toNat % 64 := by
  have marked := marked_of_le (by omega) lower upper
  have cleared := toNat_and_not_bit (by omega) marked
  have room : 2 ^ k * 64 ≤ 2 ^ 32 := by
    have power : 2 ^ k ≤ 2 ^ 26 := Nat.pow_le_pow_right (by decide) (by omega)
    omega
  have field := toNat_continuationMask_and next
  change (char.continuationMask &&& uint32 next).toNat = next.toNat % 64
    at field
  rw [Nat.pow_succ] at upper
  have fits : (cp &&& ~~~bit 32 k).toNat * 2 ^ 6 < 2 ^ 32 := by
    rw [cleared]
    omega
  have below : (char.continuationMask &&& uint32 next).toNat < 2 ^ 6 := by
    rw [field]
    exact Nat.mod_lt _ (by decide)
  rw [append, toNat_shiftLeft_or fits below, cleared, field]
  rfl

/-! ## Sequences -/

/-- Before `remaining` bytes of a sequence are read, the code point has as many
marks from the bit `k` on, then a clear bit, and below that the value that was
read. -/
structure Marked
    (cp : BitVec 32)
    (k remaining value : Nat) : Prop where
  marks : cp.toNat + 2 ^ (k + 1 - remaining) = 2 ^ (k + 1) + value
  clear : value < 2 ^ (k - remaining)
  fits : k + 5 * remaining < 32
  room : remaining ≤ k

variable {value : Nat}

theorem Marked.unmarked
    (marked : Marked cp k 0 value) :
    cp.toNat = value ∧ cp &&& bit 32 k = 0 := by
  have marks := marked.marks
  have same : cp.toNat = value := by
    rw [Nat.sub_zero] at marks
    omega
  refine ⟨same, unmarked_of_lt marked.fits ?_⟩
  rw [same]
  exact marked.clear

variable {remaining : Nat}

/-- One more byte is read. -/
theorem Marked.append
    (marked : Marked cp k (remaining + 1) value) (next : char.Unit) :
    cp &&& bit 32 k ≠ 0 ∧
      Marked (append cp k next) (k + 5) remaining
        (value * 64 + next.toNat % 64) := by
  have fits := marked.fits
  have room := marked.room
  have clear := marked.clear
  have marks := marked.marks
  -- the value of the clear bit
  obtain ⟨below, split⟩ : ∃ below, k = below + 1 + remaining :=
    ⟨k - (remaining + 1), by omega⟩
  have first : k + 1 - (remaining + 1) = below + 1 := by omega
  have second : k - (remaining + 1) = below := by omega
  have third : k + 5 + 1 - remaining = below + 7 := by omega
  have fourth : k + 5 - remaining = below + 6 := by omega
  have power : 2 ^ (below + 1) ≤ 2 ^ k :=
    Nat.pow_le_pow_right (by decide) (by omega)
  rw [first, Nat.pow_succ 2 k] at marks
  rw [second] at clear
  have lower : 2 ^ k ≤ cp.toNat := by omega
  have upper : cp.toNat < 2 ^ (k + 1) := by
    rw [Nat.pow_succ] at power ⊢
    omega
  have appended := toNat_append (by omega) lower upper next
  have least := Nat.mod_lt next.toNat (by decide : 0 < 64)
  refine ⟨marked_of_le (by omega) lower upper, ⟨?_, ?_, by omega, by omega⟩⟩
  · rw [appended, third]
    have seventh : 2 ^ (below + 7) = 2 ^ (below + 1) * 64 := by
      rw [← Nat.pow_add 2 (below + 1) 6]
    have sixth : 2 ^ (k + 5 + 1) = 2 ^ k * 64 := Nat.pow_add 2 k 6
    rw [seventh, sixth]
    omega
  · have sixth : 2 ^ (below + 6) = 2 ^ below * 64 := Nat.pow_add 2 below 6
    rw [fourth, sixth]
    omega

/-- The value of a sequence, from the value read before it. -/
def sequenceValue (value : Nat) (following : List char.Unit) : Nat :=
  following.foldl (fun value next => value * 64 + next.toNat % 64) value

/-- As many bytes are read as there are marks. -/
theorem Marked.readContinuation
    (marked : Marked cp k remaining value) (i : char.Unit)
    (rest : List char.Unit) :
    (readContinuation cp (bit 32 k) i rest).2 =
        (i :: rest).drop remaining ∧
      (remaining ≤ rest.length →
        (readContinuation cp (bit 32 k) i rest).1.toNat =
          sequenceValue value (rest.take remaining)) := by
  induction remaining generalizing cp k value i rest with
  | zero =>
      obtain ⟨same, unmarked⟩ := marked.unmarked
      rw [readContinuation_unmarked unmarked]
      exact ⟨rfl, fun _ => same⟩
  | succ remaining ih =>
      cases rest with
      | nil =>
          have first := (marked.append 0).1
          rw [readContinuation_marked_end first]
          exact ⟨by simp, fun short => absurd short (by simp)⟩
      | cons next rest =>
          obtain ⟨first, appended⟩ := marked.append next
          rw [readContinuation_marked first]
          have read := ih appended next rest
          refine ⟨read.1, ?_⟩
          intro long
          exact read.2 (Nat.le_of_succ_le_succ long)

/-- The bytes of all ones, and all but one, have marks until the mask runs out
of the word. -/
structure FullyMarked
    (cp : BitVec 32)
    (k remaining : Nat) : Prop where
  ends : k + 5 * remaining = 36
  marks : 0 < remaining → 2 ^ (k + 1) ≤ cp.toNat + 2 ^ (k + 1 - remaining)
  upper : 0 < remaining → cp.toNat < 2 ^ (k + 1)

theorem FullyMarked.append
    (marked : FullyMarked cp k (remaining + 1))
    (atLeast : 6 ≤ k)
    (next : char.Unit) :
    cp &&& bit 32 k ≠ 0 ∧ FullyMarked (append cp k next) (k + 5) remaining := by
  have ends := marked.ends
  have marks := marked.marks (Nat.succ_pos _)
  have upper := marked.upper (Nat.succ_pos _)
  obtain ⟨below, split⟩ : ∃ below, k = below + remaining :=
    ⟨k - remaining, by omega⟩
  have first : k + 1 - (remaining + 1) = below := by omega
  have power : 2 ^ below ≤ 2 ^ k :=
    Nat.pow_le_pow_right (by decide) (by omega)
  rw [first, Nat.pow_succ 2 k] at marks
  have lower : 2 ^ k ≤ cp.toNat := by omega
  have set := marked_of_le (by omega) lower upper
  refine ⟨set, by omega, ?_, ?_⟩
  · intro more
    have second : k + 5 + 1 - remaining = below + 6 := by omega
    have sixth : 2 ^ (below + 6) = 2 ^ below * 64 := Nat.pow_add 2 below 6
    have sixth' : 2 ^ (k + 5 + 1) = 2 ^ k * 64 := Nat.pow_add 2 k 6
    rw [toNat_append (by omega) lower upper next, second, sixth, sixth']
    omega
  · intro more
    have least := Nat.mod_lt next.toNat (by decide : 0 < 64)
    have sixth : 2 ^ (k + 5 + 1) = 2 ^ k * 64 := Nat.pow_add 2 k 6
    rw [toNat_append (by omega) lower upper next, sixth]
    rw [Nat.pow_succ] at upper
    omega

theorem FullyMarked.readContinuation
    (marked : FullyMarked cp k remaining)
    (atLeast : 6 ≤ k)
    (i : char.Unit) (rest : List char.Unit) :
    (readContinuation cp (bit 32 k) i rest).2 = (i :: rest).drop remaining := by
  induction remaining generalizing cp k i rest with
  | zero =>
      have ends := marked.ends
      have unmarked : cp &&& bit 32 k = 0 := by
        rw [bit_eq_zero (by omega)]
        exact BitVec.and_zero
      rw [readContinuation_unmarked unmarked]
      rfl
  | succ remaining ih =>
      cases rest with
      | nil =>
          rw [readContinuation_marked_end (marked.append atLeast 0).1]
          simp
      | cons next rest =>
          obtain ⟨first, appended⟩ := marked.append atLeast next
          rw [readContinuation_marked first]
          exact ih appended (by omega) next rest

/-! ## Bytes that lead a sequence -/

/-- Number of bytes that a byte announces to follow it: one less than its ones
before the first zero, where there are any. -/
def announced (lead : char.Unit) : Nat :=
  if lead.toNat < 0xC0 then 0
  else if lead.toNat < 0xE0 then 1
  else if lead.toNat < 0xF0 then 2
  else if lead.toNat < 0xF8 then 3
  else if lead.toNat < 0xFC then 4
  else if lead.toNat < 0xFE then 5
  else 6

variable {lead : char.Unit}

/-- A byte starts with one more one than it announces, and a zero. -/
theorem announced_bounds
    (upper : 0x80 ≤ lead.toNat)
    (below : lead.toNat < 0xFE) :
    announced lead < 6 ∧
      0x100 ≤ lead.toNat + 2 ^ (7 - announced lead) ∧
      lead.toNat + 2 ^ (7 - announced lead) <
        0x100 + 2 ^ (6 - announced lead) := by
  unfold announced
  repeat' split
  all_goals exact ⟨by decide, by omega, by omega⟩

/-- The marks of a byte that leads a sequence. -/
theorem marked_lead
    {count : Nat}
    (few : count < 6)
    (upper : 0x80 ≤ lead.toNat)
    (leads : lead.toNat + 2 ^ (7 - count) = 0x100 + value)
    (clear : value < 2 ^ (6 - count))
    (read : cp.toNat = lead.toNat - 0x80) :
    Marked cp 6 count value := by
  refine ⟨?_, clear, by omega, by omega⟩
  rw [read]
  change lead.toNat - 0x80 + 2 ^ (7 - count) = 0x80 + _
  omega

theorem fullyMarked_lead
    (full : 0xFE ≤ lead.toNat)
    (value : cp.toNat = lead.toNat - 0x80) :
    FullyMarked cp 6 6 := by
  have byte : lead.toNat < 0x100 := lead.isLt
  refine ⟨rfl, fun _ => ?_, fun _ => ?_⟩
  · rw [value]
    change 0x80 ≤ lead.toNat - 0x80 + 2
    omega
  · rw [value]
    change lead.toNat - 0x80 < 0x80
    omega

/-- A byte below the upper bit is read by itself. -/
theorem readCodePoint_single
    {i : char.Unit}
    (below : i.toNat < 0x80)
    (rest : List char.Unit) :
    readCodePoint i rest = (char.valueMask &&& uint32 i, i :: rest) := by
  have value := toNat_valueMask_and i
  have unmarked : char.valueMask &&& uint32 i &&& char.upperBit = 0 :=
    @unmarked_of_lt _ 7 (by decide) (by rw [value]; exact below)
  rw [readCodePoint, unmarked]
  rfl

/-- Another one is read with the bytes that it announces. -/
theorem readCodePoint_lead
    {i : char.Unit}
    (upper : 0x80 ≤ i.toNat)
    (rest : List char.Unit) :
    ∃ cp : BitVec 32, cp.toNat = i.toNat - 0x80 ∧
      readCodePoint i rest = readContinuation cp (bit 32 6) i rest := by
  have value := toNat_valueMask_and i
  have byte : i.toNat < 0x100 := i.isLt
  have marked : char.valueMask &&& uint32 i &&& bit 32 7 ≠ 0 := by
    refine marked_of_le (by decide) ?_ ?_
    · rw [value]
      exact upper
    · rw [value]
      exact byte
  refine ⟨_, ?_, if_pos marked⟩
  have cleared := toNat_and_not_bit (by decide) marked
  rw [value] at cleared
  exact cleared

/-- A byte is read with as many of the following ones as it announces. -/
theorem readCodePoint_snd
    (i : char.Unit) (rest : List char.Unit) :
    (readCodePoint i rest).2 = (i :: rest).drop (announced i) := by
  by_cases below : i.toNat < 0x80
  · have none : announced i = 0 := if_pos (by omega)
    rw [readCodePoint_single below, none]
    rfl
  · have upper : 0x80 ≤ i.toNat := by omega
    obtain ⟨cp, value, read⟩ := readCodePoint_lead upper rest
    rw [read]
    by_cases full : i.toNat < 0xFE
    · obtain ⟨few, least, most⟩ := announced_bounds upper full
      obtain ⟨below, leads⟩ := Nat.exists_eq_add_of_le least
      have marked := marked_lead few upper leads (by omega) value
      exact (marked.readContinuation i rest).1
    · have six : announced i = 6 := by
        unfold announced
        repeat' split
        all_goals omega
      rw [six]
      exact (fullyMarked_lead (by omega) value).readContinuation (by decide) i
        rest

/-! ## Texts -/

/-- A text of sequences that are not cut off. -/
inductive Complete : List char.Unit → Prop
  | nil : Complete []
  | sequence
      (lead : char.Unit)
      (following rest : List char.Unit)
      (all : following.length = announced lead)
      (complete : Complete rest) :
      Complete (lead :: (following ++ rest))

/-- A conversion that has read a sequence goes on behind it. -/
theorem utfToUtf_sequence
    {dst : CharacterType} {following rest : List char.Unit}
    (read : (readCodePoint lead (following ++ rest)).2 =
      (lead :: (following ++ rest)).drop following.length) :
    utfToUtf char dst (lead :: (following ++ rest)) =
      (utfToUtf char dst rest).map
        (writeCodePoint dst
          (readCodePoint lead (following ++ rest)).1 ++ ·) := by
  have inside : following.length < (lead :: (following ++ rest)).length := by
    rw [List.length_cons, List.length_append]
    omega
  rw [List.drop_eq_getElem_cons inside, List.drop_succ_cons, List.drop_left]
    at read
  exact utfToUtf_cons read

theorem isSome_utfToUtf_sequence
    {following rest : List char.Unit}
    (all : following.length = announced lead) :
    (utfToUtf char wchar (lead :: (following ++ rest))).isSome =
      (utfToUtf char wchar rest).isSome := by
  have read := readCodePoint_snd lead (following ++ rest)
  rw [← all] at read
  rw [utfToUtf_sequence read, Option.isSome_map]

/-- A text is converted without a read behind its end if and only if no
sequence is cut off. -/
theorem utf8ToUcs_isSome_iff (utf : List char.Unit) :
    (utf8ToUcs utf).isSome = true ↔ Complete utf := by
  rw [utf8ToUcs]
  constructor
  · intro converted
    induction size : utf.length using Nat.strong_induction_on
      generalizing utf with
    | _ size ih =>
      cases utf with
      | nil => exact .nil
      | cons lead rest =>
          by_cases long : announced lead ≤ rest.length
          · rw [← List.take_append_drop (announced lead) rest] at converted ⊢
            have all := List.length_take_of_le long
            rw [isSome_utfToUtf_sequence all] at converted
            refine .sequence lead _ _ all
              (ih _ ?_ _ converted rfl)
            rw [← size, List.length_drop, List.length_cons]
            omega
          · have read := readCodePoint_snd lead rest
            rw [List.drop_eq_nil_of_le (by rw [List.length_cons]; omega)]
              at read
            rw [utfToUtf_cons_end read] at converted
            cases converted
  · intro complete
    induction complete with
    | nil =>
        rw [utfToUtf_nil]
        rfl
    | sequence lead following rest all _ ih =>
        rw [isSome_utfToUtf_sequence all]
        exact ih

/-- A single byte that announces another one. -/
theorem utf8ToUcs_isSome_fails :
    ¬ ∀ utf : List char.Unit, (utf8ToUcs utf).isSome = true := by
  intro converted
  have read := readCodePoint_snd 0xC3#8 []
  have cut := converted [0xC3#8]
  rw [utf8ToUcs, utfToUtf_cons_end read] at cut
  cases cut

end StringUtils
end OpenRTI
