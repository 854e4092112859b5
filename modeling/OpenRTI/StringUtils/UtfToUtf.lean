import OpenRTI.Foundation.BitFields

/-!
# Conversion between encodings of text

One conversion serves all character types.  A unit with its upper bit set leads
a sequence, and the ones that follow in it announce the units that continue it.
The encoding is that of UTF-8 for bytes; a wide character holds any value below
its upper bit by itself.
-/

namespace OpenRTI
namespace StringUtils

open Foundation BitFields

/-- A character type with its width. -/
structure CharacterType where
  bits : Nat
  wide : 3 < bits
  narrow : bits ≤ 32

/-- A byte. -/
abbrev char : CharacterType := ⟨8, by decide, by decide⟩

/-- A wide character of four bytes. -/
abbrev wchar : CharacterType := ⟨32, by decide, by decide⟩

namespace CharacterType

variable (self : CharacterType)

/-- The characters of a type. -/
abbrev Unit := BitVec self.bits

def valueMask : BitVec 32 :=
  bit 32 (self.bits - 1) ^^^ (bit 32 (self.bits - 1) - 1#32)

def upperBit : BitVec 32 := bit 32 (self.bits - 1)

def secondBit : BitVec 32 := bit 32 (self.bits - 2)

def continuationBits : Nat := self.bits - 2

def continuationMask : BitVec 32 := lowBits 32 self.continuationBits

end CharacterType

/-- A character as an unsigned integer; characters are signed. -/
def uint32 {type : CharacterType} (i : type.Unit) : BitVec 32 :=
  i.signExtend 32

/-! ## Reading -/

section Reading

variable {src : CharacterType}

/-- Read on as long as the mask finds a mark in the code point.  Returns the
code point with the position of the last unit that is read, which is the end
when the units run out. -/
def readContinuation
    (cp mask : BitVec 32)
    (i : src.Unit) : List src.Unit → BitVec 32 × List src.Unit
  | [] =>
      if cp &&& mask ≠ 0 then (cp, []) else (cp, [i])
  | next :: rest =>
      if cp &&& mask ≠ 0 then
        readContinuation
          ((cp &&& ~~~mask) <<< (src.bits - 2) |||
            (src.continuationMask &&& uint32 next))
          (mask <<< (src.bits - 3)) next rest
      else (cp, i :: next :: rest)

/-- Read the code point of a unit and of those that continue it. -/
def readCodePoint
    (i : src.Unit)
    (rest : List src.Unit) : BitVec 32 × List src.Unit :=
  let cp := src.valueMask &&& uint32 i
  if cp &&& src.upperBit ≠ 0 then
    readContinuation (cp &&& ~~~src.upperBit) src.secondBit i rest
  else (cp, i :: rest)

/-- No position is left behind that has been passed. -/
theorem length_readContinuation_le
    (cp mask : BitVec 32) (i : src.Unit) (rest : List src.Unit) :
    (readContinuation cp mask i rest).2.length ≤ rest.length + 1 := by
  induction rest generalizing cp mask i with
  | nil =>
      rw [readContinuation]
      split <;> simp
  | cons next rest ih =>
      rw [readContinuation]
      split
      · exact (ih _ _ _).trans (Nat.le_succ _)
      · exact le_refl _

theorem length_readCodePoint_le
    (i : src.Unit) (rest : List src.Unit) :
    (readCodePoint i rest).2.length ≤ rest.length + 1 := by
  rw [readCodePoint]
  split
  · exact length_readContinuation_le _ _ _ _
  · exact le_refl _

end Reading

/-! ## Writing -/

section Writing

variable (dst : CharacterType)

/-- Number of units that continue a sequence. -/
def continuationCount (tmp : BitVec 32) : Nat :=
  if tmp = 0 then 0
  else continuationCount (tmp >>> (dst.continuationBits - 1)) + 1
termination_by tmp.toNat
decreasing_by
  have wide := dst.wide
  rw [BitVec.toNat_ushiftRight, Nat.shiftRight_eq_div_pow]
  refine Nat.div_lt_self ?_ (Nat.one_lt_two_pow ?_)
  · rw [Nat.pos_iff_ne_zero]
    rename_i nonzero
    exact fun zero => nonzero (BitVec.eq_of_toNat_eq zero)
  · rw [CharacterType.continuationBits]
    omega

/-- The units that continue a sequence. -/
def continuationUnits (cp : BitVec 32) : Nat → List dst.Unit
  | 0 => []
  | count + 1 =>
      (dst.upperBit ||| (cp >>> (count * dst.continuationBits) &&&
        dst.continuationMask)).setWidth dst.bits ::
          continuationUnits cp count

/-- The unit that leads a sequence, with the number of those that follow. -/
def leadingUnit (cp : BitVec 32) (count : Nat) : dst.Unit :=
  (~~~(dst.upperBit >>> count - 1#32) |||
    cp >>> (count * dst.continuationBits)).setWidth dst.bits

/-- The units of a code point. -/
def writeCodePoint (cp : BitVec 32) : List dst.Unit :=
  if cp < dst.upperBit then [cp.setWidth dst.bits]
  else
    let count := continuationCount dst (cp >>> dst.continuationBits)
    leadingUnit dst cp count :: continuationUnits dst cp count

end Writing

/-! ## The conversion -/

/-- Convert the units in front of the end.  There is no result when the
position has been moved past the end, since what is read there lies outside of
the text. -/
def utfToUtf
    (src dst : CharacterType) : List src.Unit → Option (List dst.Unit)
  | [] => some []
  | i :: rest =>
      match _read : readCodePoint i rest with
      | (_, []) => none
      | (cp, _ :: next) =>
          (utfToUtf src dst next).map (writeCodePoint dst cp ++ ·)
termination_by units => units.length
decreasing_by
  have shorter := length_readCodePoint_le i rest
  rw [_read] at shorter
  exact Nat.lt_of_succ_le (by simpa using shorter)

def ucsToUtf8 (ucs : List wchar.Unit) : Option (List char.Unit) :=
  utfToUtf wchar char ucs

def utf8ToUcs (utf : List char.Unit) : Option (List wchar.Unit) :=
  utfToUtf char wchar utf

section

variable {src dst : CharacterType}

theorem utfToUtf_nil : utfToUtf src dst [] = some [] := by
  rw [utfToUtf]

theorem utfToUtf_cons_end
    {i : src.Unit} {rest : List src.Unit}
    (passed : (readCodePoint i rest).2 = []) :
    utfToUtf src dst (i :: rest) = none := by
  rw [utfToUtf]
  split
  next => rfl
  next read =>
    rw [read] at passed
    cases passed

theorem utfToUtf_cons
    {i last : src.Unit} {rest next : List src.Unit}
    (within : (readCodePoint i rest).2 = last :: next) :
    utfToUtf src dst (i :: rest) =
      (utfToUtf src dst next).map
        (writeCodePoint dst (readCodePoint i rest).1 ++ ·) := by
  rw [utfToUtf]
  split
  next read =>
    rw [read] at within
    cases within
  next cp other after read =>
    rw [read] at within ⊢
    injection within with _ same
    rw [same]

end

end StringUtils
end OpenRTI
