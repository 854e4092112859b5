import OpenRTI.ServerModel.FOMStringModuleBuilder

/-!
# Validating a string module

When everything is read, the names of the classes are completed by those of the
classes they are in, names are checked to be distinct and declared, and the root
classes are inserted where they are missing.
-/

namespace OpenRTI
namespace ServerModel

/-- What object and interaction classes have in common. -/
class StringClass (γ : Type) where
  name : γ → StringVector
  setName : StringVector → γ → γ
  /-- The names of the attributes or of the parameters. -/
  memberNames : γ → List String
  name_setName : ∀ newName self, name (setName newName self) = newName
  memberNames_setName : ∀ newName self,
    memberNames (setName newName self) = memberNames self

instance : StringClass FOMStringObjectClass where
  name self := self.name
  setName name self := { self with name }
  memberNames self := self.attributeList.map fun member => member.name
  name_setName _ _ := rfl
  memberNames_setName _ _ := rfl

instance : StringClass FOMStringInteractionClass where
  name self := self.name
  setName name self := { self with name }
  memberNames self := self.parameterList.map fun member => member.name
  name_setName _ _ := rfl
  memberNames_setName _ _ := rfl

section Classes

variable {γ : Type} [StringClass γ]

open StringClass (name setName memberNames)

/-! ## Completing names -/

/-- Put the name of the parent class in front of the name at an index. -/
def completeName
    (parentIndexVector : List (Option Nat))
    (classList : List γ)
    (index : Nat) : Except ReadingFailure (List γ) :=
  match parentIndexVector[index]? with
  | none => .error .undefined
  | some none => .ok classList
  | some (some parentIndex) =>
      match classList[parentIndex]?, classList[index]? with
      | some parent, some child =>
          match (name child).head? with
          | none => .error .undefined
          | some own =>
              .ok (classList.set index (setName (name parent ++ [own]) child))
      | _, _ => .error .undefined

def completeNames
    (parentIndexVector : List (Option Nat))
    (classList : List γ) : Except ReadingFailure (List γ) :=
  (List.range parentIndexVector.length).foldlM
    (completeName parentIndexVector) classList

/-! ## Names that have been seen -/

/-- Insert into a set, where the name must be new. -/
def insertNew
    {α : Type} [DecidableEq α]
    (duplicate : ReadingFailure)
    (seen : List α)
    (newName : α) : Except ReadingFailure (List α) :=
  if newName ∈ seen then .error duplicate else .ok (newName :: seen)

/-! ## The root class -/

/-- Insert an artificial root in front if it is not there yet, and put its name in
front of all others. -/
def insertRoot
    (rootName : String)
    (artificial : γ)
    (classList : List γ) : Bool × List γ :=
  if classList.head?.map name = some [rootName] then (false, classList)
  else
    (true, (artificial :: classList).map fun stringClass =>
      setName (rootName :: name stringClass) stringClass)

/-! ## Members along a path -/

/-- Whether an index is not below the size.  The index of no class is the largest
number. -/
def notBelow (size : Nat) : Option Nat → Bool
  | none => true
  | some index => size ≤ index

/-- The members of a class and of those it is in, as far as the condition of the
loop lets it go. -/
def checkMembers
    (duplicate : String → ReadingFailure)
    (classList : List γ)
    (parentIndexVector : List (Option Nat)) :
    Nat → List String → Option Nat → Except ReadingFailure Unit
  | 0, _, _ => .error .undefined
  | steps + 1, stringSet, index =>
      if notBelow classList.length index then
        match index.bind (classList[·]?), index.bind (parentIndexVector[·]?) with
        | some stringClass, some parentIndex => do
            let stringSet ← (memberNames stringClass).foldlM
              (fun stringSet member =>
                insertNew (duplicate member) stringSet member) stringSet
            checkMembers duplicate classList parentIndexVector steps stringSet
              parentIndex
        | _, _ => .error .undefined
      else .ok ()

/-- Begin at each of the classes. -/
def checkAllMembers
    (duplicate : StringVector → String → ReadingFailure)
    (classList : List γ)
    (parentIndexVector : List (Option Nat)) : Except ReadingFailure Unit :=
  (List.range classList.length).forM fun index =>
    checkMembers (duplicate ((classList[index]?.map name).getD []))
      classList parentIndexVector (classList.length + 1) [] (some index)

end Classes

/-! ## The checks -/

namespace FOMStringModuleBuilder

/-- A name of its kind is neither empty nor seen before. -/
def checkName
    (kind : String)
    (stringSet : List String)
    (newName : String) : Except ReadingFailure (List String) :=
  if newName = "" then
    .error (.errorReadingFDD ("Empty " ++ kind ++ " name."))
  else
    insertNew
      (.errorReadingFDD
        ("Duplicate " ++ kind ++ " name \"" ++ newName ++ "\"."))
      stringSet newName

def checkTransportationTypes (module : FOMStringModule2) :
    Except ReadingFailure (List String) :=
  module.transportationTypeList.foldlM
    (fun transportationTypeNames transportationType =>
      checkName "transportation type" transportationTypeNames
        transportationType.name)
    []

def checkDimensions (module : FOMStringModule2) :
    Except ReadingFailure (List String) :=
  module.dimensionList.foldlM
    (fun dimensionNames dimension =>
      checkName "dimension" dimensionNames dimension.name)
    []

def checkInteractionClass
    (dimensionNames : List String)
    (stringVectorSet : List StringVector)
    (interactionClass : FOMStringInteractionClass) :
    Except ReadingFailure (List StringVector) := do
  if interactionClass.name = [] then
    .error (.errorReadingFDD "Empty interaction class name.")
  let stringVectorSet ← insertNew
    (.errorReadingFDD ("Duplicate interactionClass name \"" ++
      fqClassName interactionClass.name ++ "\"."))
    stringVectorSet interactionClass.name
  if ∃ dimension ∈ interactionClass.dimensionSet,
      dimension ∉ dimensionNames then
    .error (.errorReadingFDD
      ("Undefined dimension for interactionClass name \"" ++
        fqClassName interactionClass.name ++ "\"."))
  .ok stringVectorSet

def checkAttributeDimensions
    (dimensionNames : List String)
    (className : StringVector) :
    List FOMStringAttribute → Except ReadingFailure Unit
  | [] => .ok ()
  | first :: rest =>
      if ∃ dimension ∈ first.dimensionSet, dimension ∉ dimensionNames then
        .error (.errorReadingFDD
          ("Undefined dimension for attribute \"" ++ first.name ++
            "\" in objectClass name \"" ++ fqClassName className ++ "\"."))
      else checkAttributeDimensions dimensionNames className rest

def checkObjectClass
    (dimensionNames : List String)
    (stringVectorSet : List StringVector)
    (objectClass : FOMStringObjectClass) :
    Except ReadingFailure (List StringVector) := do
  if objectClass.name = [] then
    .error (.errorReadingFDD "Empty object class name.")
  let stringVectorSet ← insertNew
    (.errorReadingFDD ("Duplicate objectClass name \"" ++
      fqClassName objectClass.name ++ "\"."))
    stringVectorSet objectClass.name
  checkAttributeDimensions dimensionNames objectClass.name
    objectClass.attributeList
  .ok stringVectorSet

/-- The root class has one attribute, which is given its standard name. -/
def setRootAttribute (objectClass : FOMStringObjectClass) :
    FOMStringObjectClass :=
  { objectClass with
    attributeList :=
      [{ objectClass.attributeList.headD ⟨"", "", "", "", []⟩ with
        name := "HLAprivilegeToDeleteObject" }] }

def validate (self : FOMStringModuleBuilder) :
    Except ReadingFailure FOMStringModuleBuilder := do
  let interactionClassList ← completeNames
    self.parentInteractionClassIndexVector self.module.interactionClassList
  let objectClassList ← completeNames
    self.parentObjectClassIndexVector self.module.objectClassList
  let _ ← checkTransportationTypes self.module
  let dimensionNames ← checkDimensions self.module
  let _ ← interactionClassList.foldlM
    (checkInteractionClass dimensionNames) []
  let _ ← objectClassList.foldlM (checkObjectClass dimensionNames) []
  let (artificialInteractionRoot, interactionClassList) :=
    insertRoot "HLAinteractionRoot" ⟨[], "", "", [], []⟩ interactionClassList
  checkAllMembers
    (fun className parameterName =>
      .errorReadingFDD ("Duplicate parameter name \"" ++ parameterName ++
        "\" in interactionClass \"" ++ fqClassName className ++ "\"."))
    interactionClassList self.parentInteractionClassIndexVector
  let (artificialObjectRoot, objectClassList) :=
    insertRoot "HLAobjectRoot" ⟨[], []⟩ objectClassList
  let objectClassList := objectClassList.modifyHead setRootAttribute
  checkAllMembers
    (fun className attributeName =>
      .errorReadingFDD ("Duplicate attribute name \"" ++ attributeName ++
        "\" in objectClass \"" ++ fqClassName className ++ "\"."))
    objectClassList self.parentObjectClassIndexVector
  .ok { self with
    module := { self.module with
      artificialInteractionRoot
      interactionClassList
      artificialObjectRoot
      objectClassList } }

end FOMStringModuleBuilder

end ServerModel
end OpenRTI
