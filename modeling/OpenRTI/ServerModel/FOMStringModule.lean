import Mathlib.Data.List.Defs
import OpenRTI.ServerModel.HandleAllocator
import OpenRTI.Types

/-!
# String modules

An object model module as it is read from a file, all its references by name.
Sets of names are lists here, in the order in which the set is iterated.
-/

namespace OpenRTI
namespace ServerModel

structure FOMStringTransportationType where
  name : String

structure FOMStringDimension where
  name : String
  upperBound : Nat

/-- A rate is a finite floating point number, which is a rational. -/
structure FOMStringUpdateRate where
  name : String
  rate : Rat

structure FOMStringParameter where
  name : String
  dataType : String

structure FOMStringInteractionClass where
  name : StringVector
  orderType : String
  transportationType : String
  dimensionSet : List String
  parameterList : List FOMStringParameter

structure FOMStringAttribute where
  name : String
  dataType : String
  orderType : String
  transportationType : String
  dimensionSet : List String

structure FOMStringObjectClass where
  name : StringVector
  attributeList : List FOMStringAttribute

inductive Endianness
  | bigEndian
  | littleEndian
  deriving DecidableEq

inductive ArrayDataTypeEncoding
  | fixedArrayDataTypeEncoding
  | variableArrayDataTypeEncoding
  deriving DecidableEq

structure FOMStringBasicDataType where
  name : String
  size : Nat
  endian : Endianness

structure FOMStringSimpleDataType where
  name : String
  representation : String

structure FOMStringEnumerator where
  name : String
  value : Nat
  deriving DecidableEq

structure FOMStringEnumeratedDataType where
  name : String
  representation : String
  enumerators : List FOMStringEnumerator

structure FOMStringArrayDataType2 where
  name : String
  dataType : String
  cardinality : String
  encoding : ArrayDataTypeEncoding

structure FOMStringFixedRecordField2 where
  name : String
  dataType : String
  version : Nat
  deriving DecidableEq

structure FOMStringFixedRecordDataType2 where
  name : String
  encoding : String
  includes : String
  version : Nat
  fields : List FOMStringFixedRecordField2

structure FOMStringVariantRecordDataType2 where
  name : String

structure FOMStringModule2 where
  designator : String := ""
  artificialInteractionRoot : Bool := false
  artificialObjectRoot : Bool := false
  transportationTypeList : List FOMStringTransportationType := []
  dimensionList : List FOMStringDimension := []
  updateRateList : List FOMStringUpdateRate := []
  interactionClassList : List FOMStringInteractionClass := []
  objectClassList : List FOMStringObjectClass := []
  basicDataTypeList : List FOMStringBasicDataType := []
  simpleDataTypeList : List FOMStringSimpleDataType := []
  enumeratedDataTypeList : List FOMStringEnumeratedDataType := []
  arrayDataTypeList : List FOMStringArrayDataType2 := []
  fixedRecordDataTypeList : List FOMStringFixedRecordDataType2 := []
  variantRecordDataTypeList : List FOMStringVariantRecordDataType2 := []

/-! ## Resolving names of fixed meaning -/

/-- Whether two characters differ at most in their case, where the right one is
an ASCII letter. -/
def caseCompareCharacter (left right : Char) : Bool :=
  left = right ∨
    'A' ≤ right ∧ right ≤ 'Z' ∧
      left.toNat = right.toNat + 'a'.toNat - 'A'.toNat ∨
    'a' ≤ right ∧ right ≤ 'z' ∧
      left.toNat = right.toNat + 'A'.toNat - 'a'.toNat

def caseCompare (left right : String) : Bool :=
  left.toList.length = right.toList.length ∧
    (left.toList.zip right.toList).all fun characters =>
      caseCompareCharacter characters.1 characters.2

def resolveOrderType (orderType : String) : Except Failure OrderType :=
  if caseCompare orderType "timestamp" then .ok .timestamp
  else if caseCompare orderType "receive" then .ok .receive
  else if orderType.isEmpty then .ok .timestamp
  else
    .error (.inconsistentFDD
      ["Unknown order type \"" ++ orderType ++ "\"."])

def resolveTransportationType
    (transportationType : String) : Except Failure TransportationType :=
  if transportationType = "HLAreliable" then .ok .reliable
  else if transportationType = "HLAbestEffort" then .ok .bestEffort
  else if transportationType.isEmpty then .ok .reliable
  else
    .error (.inconsistentFDD
      ["Unknown transportation type \"" ++ transportationType ++ "\"."])

end ServerModel
end OpenRTI
