import OpenRTI.ServerModel.FOMStringModule

/-!
# Building a string module

The readers of object model files put a module together piece by piece.  Classes
are pushed and popped as they are nested in the file, everything else belongs to
the class, the attribute or the parameter that is the current one.
-/

namespace OpenRTI
namespace ServerModel

/-- Why a file is not read: an exception, or an access without a meaning. -/
inductive ReadingFailure
  | errorReadingFDD (reason : String)
  | rtiInternalError (reason : String)
  | undefined
  deriving DecidableEq

/-- A name as it is printed, with dots. -/
def fqClassName (name : StringVector) : String :=
  ".".intercalate name

/-! ## Changing elements of vectors -/

/-- Change the last element. -/
def changeBack
    {α : Type}
    (missing : ReadingFailure)
    (change : α → Except ReadingFailure α) :
    List α → Except ReadingFailure (List α)
  | [] => .error missing
  | [last] => do
      .ok [← change last]
  | first :: second :: rest => do
      .ok (first :: (← changeBack missing change (second :: rest)))

/-- Change the element at an index. -/
def changeAt
    {α : Type}
    (missing : ReadingFailure)
    (change : α → Except ReadingFailure α) :
    Nat → List α → Except ReadingFailure (List α)
  | _, [] => .error missing
  | 0, first :: rest => do
      .ok ((← change first) :: rest)
  | index + 1, first :: rest => do
      .ok (first :: (← changeAt missing change index rest))

/-- Insert into a set of strings that is kept in order. -/
def insertDimension
    (name : String)
    (duplicate : ReadingFailure)
    (dimensionSet : List String) : Except ReadingFailure (List String) :=
  if name ∈ dimensionSet then .error duplicate
  else
    .ok (dimensionSet.takeWhile (· < name) ++
      name :: dimensionSet.dropWhile (· < name))

/-! ## The builder -/

/-- The indices of the classes that are pushed and not yet popped, the innermost
last, and of the class each class is pushed in. -/
structure FOMStringModuleBuilder where
  objectClassIndexStack : List Nat := []
  parentObjectClassIndexVector : List (Option Nat) := []
  interactionClassIndexStack : List Nat := []
  parentInteractionClassIndexVector : List (Option Nat) := []
  module : FOMStringModule2 := {}

namespace FOMStringModuleBuilder

def addTransportationType (self : FOMStringModuleBuilder) :
    FOMStringModuleBuilder :=
  { self with
    module := { self.module with
      transportationTypeList :=
        self.module.transportationTypeList ++ [⟨""⟩] } }

def changeCurrentTransportationType
    (change : FOMStringTransportationType → FOMStringTransportationType)
    (self : FOMStringModuleBuilder) :
    Except ReadingFailure FOMStringModuleBuilder := do
  let transportationTypeList ←
    changeBack (.rtiInternalError "No current transportation type.")
      (fun transportationType => .ok (change transportationType))
      self.module.transportationTypeList
  .ok { self with module := { self.module with transportationTypeList } }

def addDimension (self : FOMStringModuleBuilder) : FOMStringModuleBuilder :=
  { self with
    module := { self.module with
      dimensionList := self.module.dimensionList ++ [⟨"", 0⟩] } }

def changeCurrentDimension
    (change : FOMStringDimension → FOMStringDimension)
    (self : FOMStringModuleBuilder) :
    Except ReadingFailure FOMStringModuleBuilder := do
  let dimensionList ←
    changeBack (.rtiInternalError "No current dimension.")
      (fun dimension => .ok (change dimension)) self.module.dimensionList
  .ok { self with module := { self.module with dimensionList } }

/-! ### Object classes -/

def pushObjectClass (self : FOMStringModuleBuilder) :
    FOMStringModuleBuilder :=
  let parentIndex := self.objectClassIndexStack.getLast?
  let index := self.module.objectClassList.length
  { self with
    objectClassIndexStack := self.objectClassIndexStack ++ [index]
    parentObjectClassIndexVector :=
      self.parentObjectClassIndexVector ++ [parentIndex]
    module := { self.module with
      objectClassList := self.module.objectClassList ++ [⟨[], []⟩] } }

def popObjectClass (self : FOMStringModuleBuilder) :
    Except ReadingFailure FOMStringModuleBuilder :=
  if self.objectClassIndexStack = [] then .error .undefined
  else
    .ok { self with
      objectClassIndexStack := self.objectClassIndexStack.dropLast }

def changeCurrentObjectClass
    (change : FOMStringObjectClass →
      Except ReadingFailure FOMStringObjectClass)
    (self : FOMStringModuleBuilder) :
    Except ReadingFailure FOMStringModuleBuilder :=
  match self.objectClassIndexStack.getLast? with
  | none => .error (.rtiInternalError "No current object class.")
  | some index => do
      let objectClassList ←
        changeAt (.rtiInternalError "No current object class.") change index
          self.module.objectClassList
      .ok { self with module := { self.module with objectClassList } }

def addAttribute :
    FOMStringModuleBuilder → Except ReadingFailure FOMStringModuleBuilder :=
  changeCurrentObjectClass fun objectClass =>
    .ok { objectClass with
      attributeList := objectClass.attributeList ++ [⟨"", "", "", "", []⟩] }

def changeCurrentObjectClassAttribute
    (change : StringVector → FOMStringAttribute →
      Except ReadingFailure FOMStringAttribute) :
    FOMStringModuleBuilder → Except ReadingFailure FOMStringModuleBuilder :=
  changeCurrentObjectClass fun objectClass => do
    let attributeList ←
      changeBack (.rtiInternalError "No current attribute.")
        (change objectClass.name) objectClass.attributeList
    .ok { objectClass with attributeList }

def addAttributeDimension (name : String) :
    FOMStringModuleBuilder → Except ReadingFailure FOMStringModuleBuilder :=
  changeCurrentObjectClassAttribute fun className classAttribute => do
    let dimensionSet ← insertDimension name
      (.errorReadingFDD
        ("Duplicate dimension \"" ++ name ++
          "\" while processing attribute \"" ++ classAttribute.name ++
          "\" for ObjectClass \"" ++ className.print ++ "\""))
      classAttribute.dimensionSet
    .ok { classAttribute with dimensionSet }

/-! ### Interaction classes -/

def pushInteractionClass (self : FOMStringModuleBuilder) :
    FOMStringModuleBuilder :=
  let parentIndex := self.interactionClassIndexStack.getLast?
  let index := self.module.interactionClassList.length
  { self with
    interactionClassIndexStack := self.interactionClassIndexStack ++ [index]
    parentInteractionClassIndexVector :=
      self.parentInteractionClassIndexVector ++ [parentIndex]
    module := { self.module with
      interactionClassList :=
        self.module.interactionClassList ++ [⟨[], "", "", [], []⟩] } }

/-- The class that is the current one, with its index. -/
def getCurrentInteractionClass (self : FOMStringModuleBuilder) :
    Except ReadingFailure FOMStringInteractionClass :=
  match self.interactionClassIndexStack.getLast? with
  | none => .error (.rtiInternalError "No current interaction class.")
  | some index =>
      match self.module.interactionClassList[index]? with
      | none => .error (.rtiInternalError "No current interaction class.")
      | some interactionClass => .ok interactionClass

/-- Unlike for object classes the name is checked. -/
def popInteractionClass (self : FOMStringModuleBuilder) :
    Except ReadingFailure FOMStringModuleBuilder := do
  let interactionClass ← self.getCurrentInteractionClass
  if interactionClass.name.length ≠ 1 then
    .error (.errorReadingFDD "No name given for interaction class!")
  if interactionClass.name.head? = some "" then
    .error (.errorReadingFDD "Empty name given for interaction class!")
  .ok { self with
    interactionClassIndexStack := self.interactionClassIndexStack.dropLast }

def changeCurrentInteractionClass
    (change : FOMStringInteractionClass →
      Except ReadingFailure FOMStringInteractionClass)
    (self : FOMStringModuleBuilder) :
    Except ReadingFailure FOMStringModuleBuilder :=
  match self.interactionClassIndexStack.getLast? with
  | none => .error (.rtiInternalError "No current interaction class.")
  | some index => do
      let interactionClassList ←
        changeAt (.rtiInternalError "No current interaction class.") change
          index self.module.interactionClassList
      .ok { self with module := { self.module with interactionClassList } }

def addInteractionDimension (name : String) :
    FOMStringModuleBuilder → Except ReadingFailure FOMStringModuleBuilder :=
  changeCurrentInteractionClass fun interactionClass => do
    let dimensionSet ← insertDimension name
      (.errorReadingFDD
        ("Duplicate dimension \"" ++ name ++
          "\" while processing InteractionClass \"" ++
          interactionClass.name.print ++ "\""))
      interactionClass.dimensionSet
    .ok { interactionClass with dimensionSet }

def addParameter :
    FOMStringModuleBuilder → Except ReadingFailure FOMStringModuleBuilder :=
  changeCurrentInteractionClass fun interactionClass =>
    .ok { interactionClass with
      parameterList := interactionClass.parameterList ++ [⟨"", ""⟩] }

def changeCurrentInteractionClassParameter
    (change : FOMStringParameter → FOMStringParameter) :
    FOMStringModuleBuilder → Except ReadingFailure FOMStringModuleBuilder :=
  changeCurrentInteractionClass fun interactionClass => do
    let parameterList ←
      changeBack (.rtiInternalError "No current parameter.")
        (fun parameter => .ok (change parameter))
        interactionClass.parameterList
    .ok { interactionClass with parameterList }

end FOMStringModuleBuilder

/-! ## What readers call -/

/-- The calls of a reader.  Those that set a value write to the current
element. -/
inductive BuilderCall
  | addTransportationType
  | setTransportationTypeName (name : String)
  | addDimension
  | setDimensionName (name : String)
  | pushObjectClass
  | popObjectClass
  | pushObjectClassName (name : String)
  | addAttribute
  | setAttributeName (name : String)
  | setAttributeDataType (dataType : String)
  | setAttributeOrderType (orderType : String)
  | setAttributeTransportationType (transportationType : String)
  | addAttributeDimension (name : String)
  | pushInteractionClass
  | popInteractionClass
  | pushInteractionClassName (name : String)
  | setInteractionClassOrderType (orderType : String)
  | setInteractionClassTransportationType (transportationType : String)
  | addInteractionDimension (name : String)
  | addParameter
  | setParameterName (name : String)
  | setParameterDataType (dataType : String)
  deriving DecidableEq

namespace FOMStringModuleBuilder

def call (self : FOMStringModuleBuilder) :
    BuilderCall → Except ReadingFailure FOMStringModuleBuilder
  | .addTransportationType => .ok self.addTransportationType
  | .setTransportationTypeName name =>
      self.changeCurrentTransportationType fun _ => ⟨name⟩
  | .addDimension => .ok self.addDimension
  | .setDimensionName name =>
      self.changeCurrentDimension fun dimension => { dimension with name }
  | .pushObjectClass => .ok self.pushObjectClass
  | .popObjectClass => self.popObjectClass
  | .pushObjectClassName name =>
      self.changeCurrentObjectClass fun objectClass =>
        .ok { objectClass with name := objectClass.name ++ [name] }
  | .addAttribute => self.addAttribute
  | .setAttributeName name =>
      self.changeCurrentObjectClassAttribute fun _ classAttribute =>
        .ok { classAttribute with name }
  | .setAttributeDataType dataType =>
      self.changeCurrentObjectClassAttribute fun _ classAttribute =>
        .ok { classAttribute with dataType }
  | .setAttributeOrderType orderType =>
      self.changeCurrentObjectClassAttribute fun _ classAttribute =>
        .ok { classAttribute with orderType }
  | .setAttributeTransportationType transportationType =>
      self.changeCurrentObjectClassAttribute fun _ classAttribute =>
        .ok { classAttribute with transportationType }
  | .addAttributeDimension name => self.addAttributeDimension name
  | .pushInteractionClass => .ok self.pushInteractionClass
  | .popInteractionClass => self.popInteractionClass
  | .pushInteractionClassName name =>
      self.changeCurrentInteractionClass fun interactionClass =>
        .ok { interactionClass with name := interactionClass.name ++ [name] }
  | .setInteractionClassOrderType orderType =>
      self.changeCurrentInteractionClass fun interactionClass =>
        .ok { interactionClass with orderType }
  | .setInteractionClassTransportationType transportationType =>
      self.changeCurrentInteractionClass fun interactionClass =>
        .ok { interactionClass with transportationType }
  | .addInteractionDimension name => self.addInteractionDimension name
  | .addParameter => self.addParameter
  | .setParameterName name =>
      self.changeCurrentInteractionClassParameter fun parameter =>
        { parameter with name }
  | .setParameterDataType dataType =>
      self.changeCurrentInteractionClassParameter fun parameter =>
        { parameter with dataType }

/-- The calls of a reader one after the other. -/
def run (self : FOMStringModuleBuilder) (calls : List BuilderCall) :
    Except ReadingFailure FOMStringModuleBuilder :=
  calls.foldlM call self

end FOMStringModuleBuilder

end ServerModel
end OpenRTI
