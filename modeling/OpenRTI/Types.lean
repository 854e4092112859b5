import Mathlib.Tactic.TypeStar

/-!
# Types shared by the ambassador and the server nodes
-/

namespace OpenRTI

inductive OrderType
  | receive
  | timestamp
  deriving DecidableEq, Inhabited

inductive TransportationType
  | reliable
  | bestEffort
  deriving DecidableEq, Inhabited

abbrev StringVector := List String

/-- The bytes of a tag, of a value or of a time stamp. -/
abbrev VariableLengthData := List UInt8

/-- How an order type is printed. -/
def OrderType.print : OrderType → String
  | .receive => "RECEIVE"
  | .timestamp => "TIMESTAMP"

/-- How a transportation type is printed. -/
def TransportationType.print : TransportationType → String
  | .reliable => "RELIABLE"
  | .bestEffort => "BEST_EFFORT"

/-- How a vector of strings is printed. -/
def StringVector.print (value : StringVector) : String :=
  "\x7b " ++ ", ".intercalate value ++ " \x7d"

end OpenRTI
