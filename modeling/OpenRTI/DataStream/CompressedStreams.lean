import OpenRTI.DataStream.AlignedStreams

/-!
# Streams of compressed values

The streams that messages are encoded in hold octets, flags and compressed integers
one after the other, without alignment.
-/

namespace OpenRTI
namespace DataStream

open Foundation (Octet)
open Foundation.FailingState (except_bind_eq_ok)

namespace UnsignedType

/-- The values of a type. -/
abbrev Value (type : UnsignedType) := Fin (2 ^ type.digits)

/-- `std::numeric_limits<T>::max()`. -/
def max (type : UnsignedType) : type.Value :=
  ⟨2 ^ type.digits - 1, Nat.sub_lt (Nat.two_pow_pos _) Nat.one_pos⟩

end UnsignedType

/-! ## Writing -/

/-- The octet of a flag. -/
def flag (value : Bool) : Octet :=
  if value then 1 else 0

namespace EncodeDataStream

def writeCompressed
    {type : UnsignedType}
    (self : EncodeDataStream)
    (value : type.Value) : EncodeDataStream :=
  self.writeTemplateCompressed value.val

def writeBoolCompressed
    (self : EncodeDataStream)
    (value : Bool) : EncodeDataStream :=
  self.writeUInt8BE (flag value)

theorem Written.writeCompressed
    {self : EncodeDataStream} {before : List Octet}
    (written : self.Written before)
    {type : UnsignedType}
    (value : type.Value) :
    (self.writeCompressed value).Written (before ++ groups value.val) :=
  (writes_writeTemplateCompressed self value.val).written written

theorem Written.writeBoolCompressed
    {self : EncodeDataStream} {before : List Octet}
    (written : self.Written before) (value : Bool) :
    (self.writeBoolCompressed value).Written (before ++ [flag value]) :=
  written.writeUInt8BE _

end EncodeDataStream

/-! ## Reading -/

namespace DecodeDataStream

def readCompressed (type : UnsignedType) : Reading type.Value := fun self => do
  let (value, offset) ← self.readTemplateCompressed type
  .ok (Fin.ofNat (2 ^ type.digits) value, { self with offset := offset })

def readBoolCompressed : Reading Bool := fun self => do
  let (octet, self) ← self.readUInt8BE
  .ok (octet ≠ 0, self)

end DecodeDataStream

/-- A read takes given octets for a value, wherever they begin. -/
def Reading.TakesAnywhere
    {α : Type}
    (reading : Reading α)
    (octets : List Octet)
    (value : α) : Prop :=
  ∀ before rest : List Octet,
    reading ⟨before ++ (octets ++ rest), before.length⟩ =
      .ok (value,
        ⟨before ++ (octets ++ rest), before.length + octets.length⟩)

namespace DecodeDataStream

theorem readCompressed_takes {type : UnsignedType} (value : type.Value) :
    (readCompressed type).TakesAnywhere (groups value.val) value := by
  intro before rest
  obtain ⟨isGroups, isValue, terminated⟩ := groupsAt_groups value.val rest
  have within := groups_within value.isLt
  have read := readTemplateCompressed_eq
    ⟨before ++ (groups value.val ++ rest), before.length⟩ type
  dsimp only at read
  rw [List.drop_left, isGroups, if_neg (not_le.mpr within), if_pos terminated,
    isValue, Nat.mod_eq_of_lt value.isLt] at read
  have same : Fin.ofNat (2 ^ type.digits) value.val = value :=
    Fin.ext (Nat.mod_eq_of_lt value.isLt)
  rw [readCompressed, read]
  exact congrArg
    (fun read => Except.ok (read,
      (⟨before ++ (groups value.val ++ rest),
        before.length + (groups value.val).length⟩ : DecodeDataStream)))
    same

theorem readUInt8BE_takes (octet : Octet) :
    readUInt8BE.TakesAnywhere [octet] octet := by
  intro before rest
  rw [readUInt8BE, List.length_singleton]
  have read := read_eq_ok before [octet] rest
  rw [List.length_singleton] at read
  rw [read]
  rfl

theorem readBoolCompressed_takes (value : Bool) :
    readBoolCompressed.TakesAnywhere [flag value] value := by
  intro before rest
  rw [readBoolCompressed, readUInt8BE_takes _ before rest]
  cases value <;> rfl

end DecodeDataStream

end DataStream
end OpenRTI
