import Mathlib.Data.Finset.Basic
import Mathlib.Data.String.Basic
import OpenRTI.Foundation.Forest
import OpenRTI.Foundation.OrderedMap
import OpenRTI.Types

/-!
# The object model of a federate

A federate keeps the object classes and the interaction classes of the modules it is
told of, each kind in a tree with a map from names to handles.  A class has its own map
from names to the handles of its members: the attributes or parameters of the class and
of its base classes.  Both kinds of classes are entered in the same way.
-/

namespace OpenRTI
namespace Federate

open Foundation

/-- An attribute or a parameter in a module, and what else is said of it. -/
structure FOMMember (δ : Type) where
  handle : Nat
  name : String
  description : δ

/-- A class in a module.  A parent handle of none is invalid. -/
structure FOMClass (γ δ : Type) where
  classHandle : Nat
  parentClassHandle : Option Nat
  name : String
  description : γ
  members : List (FOMMember δ)

/-- A class of the federate.  Its vector of members is given by the indices in use. -/
structure ModelClass (γ δ : Type) where
  classHandle : Nat
  name : String
  fqName : String
  description : γ
  memberVector : OrderedMap Nat (FOMMember δ) := ∅
  nameMemberHandleMap : OrderedMap String Nat := ∅

namespace ModelClass

variable {γ δ : Type}

def getMemberHandle (name : String) (self : ModelClass γ δ) : Option Nat :=
  self.nameMemberHandleMap.find? name

/-- Whether the vector has a member at an index. -/
def hasMember (handle : Nat) (self : ModelClass γ δ) : Bool :=
  (self.memberVector.find? handle).isSome

/-- Enter a member under its simple name and under the name qualified by that of the
class. -/
def enterMember (member : FOMMember δ) (self : ModelClass γ δ) : ModelClass γ δ :=
  { self with
    memberVector := self.memberVector.set member.handle member
    nameMemberHandleMap :=
      (self.nameMemberHandleMap.set member.name member.handle).set
        (self.fqName ++ "." ++ member.name) member.handle }

end ModelClass

/-- The classes of one kind, and the map from their names. -/
structure ClassModel (γ δ : Type) where
  classes : Forest (ModelClass γ δ) := .nil
  nameClassHandleMap : OrderedMap String Nat := ∅

namespace ClassModel

variable {γ δ : Type}

def getClassHandle (name : String) (self : ClassModel γ δ) : Option Nat :=
  self.nameClassHandleMap.find? name

/-- The class at an index of the vector of classes, with its base classes. -/
def getClass (classHandle : Nat) (self : ClassModel γ δ) :
    Option (List (ModelClass γ δ) × ModelClass γ δ) :=
  self.classes.find? fun modelClass => modelClass.classHandle = classHandle

/-- Whether a member is to be entered in a class, and in the classes derived from it. -/
def passesMember
    (member : FOMMember δ)
    (_ : Unit)
    (modelClass : ModelClass γ δ) : Option Unit :=
  if modelClass.hasMember member.handle then none else some ()

/-- Enter a member in a class and in the classes derived from it, up to those that have
one at its index. -/
def insertMember
    (classHandle : Nat)
    (member : FOMMember δ)
    (self : ClassModel γ δ) : ClassModel γ δ :=
  { self with
    classes := self.classes.propagateFrom (passesMember member)
      (fun _ => ModelClass.enterMember member)
      (fun modelClass => modelClass.classHandle = classHandle) (fun _ => ()) [] }

/-- The name without the artificial root. -/
def stripRoot (root fqName : String) : String :=
  if root.toList <+: fqName.toList then
    String.ofList (fqName.toList.drop root.length)
  else fqName

/-- The full name of a new class. -/
def newFqName
    (root : String)
    (artificialRoot : Bool)
    (parent : Option (ModelClass γ δ))
    (name : String) : String :=
  let fqName :=
    (match parent with
      | none => ""
      | some parent =>
          if parent.fqName = "" then parent.fqName else parent.fqName ++ ".") ++ name
  if artificialRoot then stripRoot root fqName else fqName

/-- A new class has the members of its parent and the names these have there. -/
def newClass
    (root : String)
    (artificialRoot : Bool)
    (module : FOMClass γ δ)
    (parent : Option (ModelClass γ δ)) : ModelClass γ δ where
  classHandle := module.classHandle
  name := module.name
  fqName := newFqName root artificialRoot parent module.name
  description := module.description
  memberVector := (parent.map ModelClass.memberVector).getD ∅
  nameMemberHandleMap := (parent.map ModelClass.nameMemberHandleMap).getD ∅

/-- Enter a class below its parent, under its simple name and its full name. -/
def createClass
    (root : String)
    (artificialRoot : Bool)
    (module : FOMClass γ δ)
    (parent : Option (ModelClass γ δ))
    (self : ClassModel γ δ) : ClassModel γ δ :=
  let fqName := newFqName root artificialRoot parent module.name
  let named := self.nameClassHandleMap.set module.name module.classHandle
  { classes :=
      match parent with
      | none => self.classes.append (newClass root artificialRoot module none)
      | some parent =>
          self.classes.appendChild
            (fun modelClass => modelClass.classHandle = parent.classHandle)
            fun parent => newClass root artificialRoot module (some parent)
    nameClassHandleMap :=
      if fqName ≠ "" ∧ fqName ≠ module.name then
        named.set fqName module.classHandle
      else named }

def insertMembers
    (module : FOMClass γ δ)
    (self : ClassModel γ δ) : ClassModel γ δ :=
  module.members.foldl
    (fun entered member => entered.insertMember module.classHandle member) self

/-- The parent of a class of a module, which has to be there if the class has one. -/
def parentOf
    (module : FOMClass γ δ)
    (self : ClassModel γ δ) : Option (Option (ModelClass γ δ)) :=
  match module.parentClassHandle with
  | none => some none
  | some parentClassHandle =>
      (self.getClass parentClassHandle).map fun parent => some parent.2

/-- Enter a class of a module, unless it is there, and its members. -/
def insertClass
    (root : String)
    (artificialRoot : Bool)
    (module : FOMClass γ δ)
    (self : ClassModel γ δ) : Option (ClassModel γ δ) :=
  match self.getClass module.classHandle with
  | some _ => some (self.insertMembers module)
  | none =>
      (self.parentOf module).map fun parent =>
        (self.createClass root artificialRoot module parent).insertMembers module

end ClassModel

/-! ## Object classes and interaction classes -/

structure AttributeDescription where
  orderType : OrderType
  transportationType : TransportationType
  dimensionHandleSet : Finset Nat
  dataType : String

structure ParameterDescription where
  dataType : String

structure InteractionClassDescription where
  orderType : OrderType
  transportationType : TransportationType
  dimensionHandleSet : Finset Nat

abbrev FOMObjectClass := FOMClass Unit AttributeDescription

abbrev FOMInteractionClass := FOMClass InteractionClassDescription ParameterDescription

/-- The classes of a module. -/
structure FOMModule where
  artificialInteractionRoot : Bool
  artificialObjectRoot : Bool
  interactionClassList : List FOMInteractionClass
  objectClassList : List FOMObjectClass

/-- The classes of a federate. -/
structure ObjectModel where
  interactionClasses : ClassModel InteractionClassDescription ParameterDescription := {}
  objectClasses : ClassModel Unit AttributeDescription := {}

namespace ObjectModel

def insertInteractionClass
    (module : FOMInteractionClass)
    (artificialInteractionRoot : Bool)
    (self : ObjectModel) : Option ObjectModel :=
  (self.interactionClasses.insertClass "HLAinteractionRoot." artificialInteractionRoot
    module).map fun interactionClasses => { self with interactionClasses }

def insertObjectClass
    (module : FOMObjectClass)
    (artificialObjectRoot : Bool)
    (self : ObjectModel) : Option ObjectModel :=
  (self.objectClasses.insertClass "HLAobjectRoot." artificialObjectRoot
    module).map fun objectClasses => { self with objectClasses }

def getInteractionClassHandle (name : String) (self : ObjectModel) : Option Nat :=
  self.interactionClasses.getClassHandle name

def getObjectClassHandle (name : String) (self : ObjectModel) : Option Nat :=
  self.objectClasses.getClassHandle name

/-- Enter the classes of a module. -/
def insertFOMModule (module : FOMModule) (self : ObjectModel) : Option ObjectModel :=
  (module.interactionClassList.foldlM
    (fun (entered : ObjectModel) interactionClass =>
      entered.insertInteractionClass interactionClass module.artificialInteractionRoot)
    self).bind
    (module.objectClassList.foldlM fun (entered : ObjectModel) objectClass =>
      entered.insertObjectClass objectClass module.artificialObjectRoot)

end ObjectModel
end Federate
end OpenRTI
