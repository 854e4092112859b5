import Mathlib.Order.Basic
import Mathlib.Order.BoundedOrder.Basic
import Mathlib.Order.Lattice
import OpenRTI.ServerModel.ObjectClass

/-!
# Declared publication and subscription types

A federate declares publications and subscriptions of the attributes of an
object class, and implicitly of the class as a whole.  The declaration of the
class counts for the attribute of handle 0: its effective type is the maximum of
the two.

Publications and subscriptions are declared alike.  What they share is stated
for an arbitrary linear order of types whose least element says that nothing is
declared.
-/

namespace OpenRTI
namespace ServerModel

/-- The position of an enumerator. -/
def PublicationType.toNat : PublicationType → Nat
  | .unpublished => 0
  | .published => 1

instance : LinearOrder PublicationType :=
  LinearOrder.lift' PublicationType.toNat (by
    intro left right same
    cases left <;> cases right <;> simp_all [PublicationType.toNat])

instance : OrderBot PublicationType where
  bot := .unpublished
  bot_le publicationType := Nat.zero_le publicationType.toNat

/-- The position of an enumerator. -/
def SubscriptionType.toNat : SubscriptionType → Nat
  | .unsubscribed => 0
  | .subscribedPassive => 1
  | .subscribedActive => 2

instance : LinearOrder SubscriptionType :=
  LinearOrder.lift' SubscriptionType.toNat (by
    intro left right same
    cases left <;> cases right <;> simp_all [SubscriptionType.toNat])

instance : OrderBot SubscriptionType where
  bot := .unsubscribed
  bot_le subscriptionType := Nat.zero_le subscriptionType.toNat

end ServerModel

namespace DeclarationManagement

open ServerModel (AttributeHandle)

/-- The types of one kind that are set for a class and for its attributes. -/
structure DeclaredTypes (τ : Type) where
  ofClass : τ
  ofAttribute : AttributeHandle → τ

namespace DeclaredTypes

variable {τ : Type} [LinearOrder τ]

/-- Nothing is declared. -/
def initial [OrderBot τ] : DeclaredTypes τ where
  ofClass := ⊥
  ofAttribute _ := ⊥

def effectiveAttributeType
    (self : DeclaredTypes τ)
    (attributeHandle : AttributeHandle) : τ :=
  if attributeHandle = 0 then
    max (self.ofAttribute attributeHandle) self.ofClass
  else self.ofAttribute attributeHandle

/-- Set the type of an attribute and return whether that changed its effective
type. -/
def setAttributeType
    (attributeHandle : AttributeHandle)
    (declaredType : τ)
    (self : DeclaredTypes τ) : DeclaredTypes τ × Bool :=
  let changed := { self with
    ofAttribute := Function.update self.ofAttribute attributeHandle
      declaredType }
  (changed, self.effectiveAttributeType attributeHandle ≠
    changed.effectiveAttributeType attributeHandle)

def effectiveType (self : DeclaredTypes τ) : τ :=
  max self.ofClass (self.ofAttribute 0)

/-- Set the type of the class and return whether that changed its effective
type. -/
def setType
    (declaredType : τ)
    (self : DeclaredTypes τ) : DeclaredTypes τ × Bool :=
  let changed := { self with ofClass := declaredType }
  (changed, self.effectiveType ≠ changed.effectiveType)

/-- Set the type of each attribute of a list.  The list is filtered in place
for those that changed. -/
def setAttributeTypes
    (declaredType : τ) :
    List AttributeHandle → DeclaredTypes τ →
      DeclaredTypes τ × List AttributeHandle
  | [], self => (self, [])
  | attributeHandle :: rest, self =>
      let first := self.setAttributeType attributeHandle declaredType
      let remaining := setAttributeTypes declaredType rest first.1
      (remaining.1,
        if first.2 then attributeHandle :: remaining.2 else remaining.2)

/-- Declare a class and a list of its attributes.  Where this changes the
effective type of the class, attribute 0 is put in front, and is not set itself
if it is in front already. -/
def declare
    (declaredType : τ)
    (attributeHandles : List AttributeHandle)
    (self : DeclaredTypes τ) : DeclaredTypes τ × List AttributeHandle :=
  let ofClass := self.setType declaredType
  if ofClass.2 then
    let rest :=
      if attributeHandles.head? = some 0 then attributeHandles.tail
      else attributeHandles
    let remaining := ofClass.1.setAttributeTypes declaredType rest
    (remaining.1, 0 :: remaining.2)
  else ofClass.1.setAttributeTypes declaredType attributeHandles

/-- Withdraw what is declared of a class and of all its attributes. -/
def withdraw
    [OrderBot τ]
    (numAttributes : Nat)
    (self : DeclaredTypes τ) : DeclaredTypes τ × List AttributeHandle :=
  let ofClass := self.setType ⊥
  let remaining := ofClass.1.setAttributeTypes ⊥ (List.range numAttributes)
  (remaining.1, if ofClass.2 then 0 :: remaining.2 else remaining.2)

/-! ## What a change tells -/

/-- The listed attributes have changed their effective type to the one told,
and no other attribute has. -/
def Tells
    (told : τ)
    (before : DeclaredTypes τ)
    (result : DeclaredTypes τ × List AttributeHandle) : Prop :=
  ∀ attributeHandle,
    result.1.effectiveAttributeType attributeHandle =
      if attributeHandle ∈ result.2 then told
      else before.effectiveAttributeType attributeHandle

variable (declaredType : τ)

@[simp] theorem setAttributeType_ofClass
    (attributeHandle : AttributeHandle) (declaredType : τ)
    (self : DeclaredTypes τ) :
    (self.setAttributeType attributeHandle declaredType).1.ofClass =
      self.ofClass := rfl

variable (attributeHandles : List AttributeHandle)

@[simp] theorem setAttributeTypes_ofClass
    (self : DeclaredTypes τ) :
    (self.setAttributeTypes declaredType attributeHandles).1.ofClass =
      self.ofClass := by
  induction attributeHandles generalizing self with
  | nil => rfl
  | cons attributeHandle rest ih =>
      exact ih _

variable (changing : AttributeHandle)

theorem effectiveAttributeType_setAttributeType
    (attributeHandle : AttributeHandle) (declaredType : τ)
    (self : DeclaredTypes τ) :
    (self.setAttributeType changing declaredType).1.effectiveAttributeType
        attributeHandle =
      if attributeHandle = changing then
        if changing = 0 then max declaredType self.ofClass else declaredType
      else self.effectiveAttributeType attributeHandle := by
  by_cases here : attributeHandle = changing
  · rw [here]
    simp [setAttributeType, effectiveAttributeType]
  · simp [setAttributeType, effectiveAttributeType, here]

theorem setAttributeType_changes
    (declaredType : τ) (self : DeclaredTypes τ) :
    (self.setAttributeType changing declaredType).2 = true ↔
      self.effectiveAttributeType changing ≠
        (self.setAttributeType changing
          declaredType).1.effectiveAttributeType changing := by
  simp [setAttributeType]

theorem setAttributeTypes_ofAttribute
    (self : DeclaredTypes τ) (attributeHandle : AttributeHandle) :
    (self.setAttributeTypes declaredType attributeHandles).1.ofAttribute
        attributeHandle =
      if attributeHandle ∈ attributeHandles then declaredType
      else self.ofAttribute attributeHandle := by
  induction attributeHandles generalizing self with
  | nil => rfl
  | cons changing rest ih =>
      rw [setAttributeTypes, ih]
      by_cases later : attributeHandle ∈ rest
      · rw [if_pos later, if_pos (List.mem_cons_of_mem _ later)]
      · by_cases here : attributeHandle = changing
        · simp [here, setAttributeType]
        · simp [later, here, setAttributeType]

/-- Setting the attributes of a list does not uncover a declaration of the
class that lies between the type to be set and that of attribute 0. -/
def Covers
    (declaredType : τ)
    (attributeHandles : List AttributeHandle)
    (self : DeclaredTypes τ) : Prop :=
  0 ∈ attributeHandles →
    self.ofClass ≤ declaredType ∨ self.ofAttribute 0 ≤ self.ofClass

variable {declaredType : τ} {self : DeclaredTypes τ}
variable {changing : AttributeHandle} {rest : List AttributeHandle}

theorem Covers.setAttributeType
    (covers : self.Covers declaredType (changing :: rest)) :
    (self.setAttributeType changing declaredType).1.Covers declaredType
      rest := by
  intro later
  rw [setAttributeType_ofClass]
  by_cases here : changing = 0
  · rw [here]
    simpa [DeclaredTypes.setAttributeType] using
      le_total self.ofClass declaredType
  · have kept : (self.setAttributeType changing
        declaredType).1.ofAttribute 0 = self.ofAttribute 0 := by
      simp [DeclaredTypes.setAttributeType, Ne.symm here]
    rw [kept]
    exact covers (List.mem_cons_of_mem _ later)

/-- An attribute whose effective type changes has the type set, unless a
declaration of the class is uncovered. -/
theorem setAttributeType_of_changes
    (covers : self.Covers declaredType (changing :: rest))
    (changes : (self.setAttributeType changing declaredType).2 = true) :
    (self.setAttributeType changing declaredType).1.effectiveAttributeType
      changing = declaredType := by
  rw [setAttributeType_changes] at changes
  rw [effectiveAttributeType_setAttributeType, if_pos rfl] at changes ⊢
  by_cases zero : changing = 0
  · rw [if_pos zero] at changes ⊢
    rw [zero] at covers changes
    obtain below | uncovered := covers List.mem_cons_self
    · exact max_eq_left below
    · -- The type of the class was effective before, and still is.
      rcases le_total self.ofClass declaredType with below | above
      · exact max_eq_left below
      · rw [max_eq_right above] at changes
        refine absurd ?_ changes
        rw [effectiveAttributeType, if_pos rfl, max_eq_right uncovered]
  · rw [if_neg zero]

variable {attributeHandles : List AttributeHandle}

theorem setAttributeTypes_tells
    (covers : self.Covers declaredType attributeHandles) :
    Tells declaredType self
      (self.setAttributeTypes declaredType attributeHandles) := by
  induction attributeHandles generalizing self with
  | nil => simp [Tells, setAttributeTypes]
  | cons changing rest ih =>
      intro attributeHandle
      have remaining := ih covers.setAttributeType
        attributeHandle
      rw [setAttributeTypes]
      dsimp only
      rw [remaining]
      by_cases later : attributeHandle ∈
          ((self.setAttributeType changing declaredType).1.setAttributeTypes
            declaredType rest).2
      · rw [if_pos later, if_pos]
        split
        · exact List.mem_cons_of_mem _ later
        · exact later
      rw [if_neg later]
      by_cases here : attributeHandle = changing
      · rw [here] at later ⊢
        by_cases changes :
            (self.setAttributeType changing declaredType).2 = true
        · rw [if_pos changes, if_pos List.mem_cons_self]
          exact setAttributeType_of_changes covers changes
        · rw [if_neg changes, if_neg later]
          rw [setAttributeType_changes, not_not] at changes
          exact changes.symm
      · rw [effectiveAttributeType_setAttributeType, if_neg here, if_neg]
        split
        · rw [List.mem_cons, not_or]
          exact ⟨here, later⟩
        · exact later

/-- Where setting the attributes of a list uncovers a declaration of the class,
something else is told than what has become effective. -/
theorem setAttributeTypes_tells_iff :
    Tells declaredType self
        (self.setAttributeTypes declaredType attributeHandles) ↔
      self.Covers declaredType attributeHandles := by
  refine ⟨?_, setAttributeTypes_tells⟩
  intro tells listed
  by_contra uncovers
  rw [not_or, not_le, not_le] at uncovers
  have now := tells 0
  rw [effectiveAttributeType, if_pos rfl, setAttributeTypes_ofAttribute,
    if_pos listed, setAttributeTypes_ofClass, max_eq_right uncovers.1.le]
    at now
  split at now
  · exact absurd now uncovers.1.ne'
  · rw [effectiveAttributeType, if_pos rfl,
      max_eq_left uncovers.2.le] at now
    exact absurd now uncovers.2.ne

/-- At most one type lies above a type that can be declared. -/
def Declarable (declaredType : τ) : Prop :=
  ∀ inner outer, declaredType < inner → ¬ inner < outer

theorem effectiveAttributeType_setType
    (declaredType : τ) (self : DeclaredTypes τ)
    (attributeHandle : AttributeHandle) :
    (self.setType declaredType).1.effectiveAttributeType attributeHandle =
      if attributeHandle = 0 then
        max (self.ofAttribute 0) declaredType
      else self.effectiveAttributeType attributeHandle := by
  by_cases zero : attributeHandle = 0 <;>
    simp [setType, effectiveAttributeType, zero]

theorem setType_changes
    (declaredType : τ) (self : DeclaredTypes τ) :
    (self.setType declaredType).2 = true ↔
      self.effectiveAttributeType 0 ≠
        (self.setType declaredType).1.effectiveAttributeType 0 := by
  simp only [setType, effectiveType, effectiveAttributeType, if_true,
    max_comm (self.ofAttribute 0)]
  exact decide_eq_true_iff

/-- A class whose effective type changes has the type declared. -/
theorem setType_of_changes
    (declarable : Declarable declaredType)
    (changes : (self.setType declaredType).2 = true) :
    (self.setType declaredType).1.effectiveAttributeType 0 =
      declaredType := by
  rw [setType_changes, effectiveAttributeType_setType, if_pos rfl] at changes
  rw [effectiveAttributeType_setType, if_pos rfl]
  rw [effectiveAttributeType, if_pos rfl] at changes
  by_contra above
  have higher : declaredType < self.ofAttribute 0 := by
    by_contra below
    exact above (max_eq_right (not_lt.mp below))
  have uncovered : self.ofClass ≤ self.ofAttribute 0 :=
    not_lt.mp (declarable _ _ higher)
  rw [max_eq_left uncovered, max_eq_left higher.le] at changes
  exact changes rfl

theorem declare_tells
    (declarable : Declarable declaredType)
    (attributeHandles : List AttributeHandle) (self : DeclaredTypes τ) :
    Tells declaredType self (self.declare declaredType attributeHandles) := by
  have covers : ∀ rest, (self.setType declaredType).1.Covers declaredType
      rest := fun _ _ => Or.inl le_rfl
  intro attributeHandle
  rw [declare]
  dsimp only
  by_cases changes : (self.setType declaredType).2 = true
  · rw [if_pos changes, setAttributeTypes_tells (covers _)]
    by_cases later : attributeHandle ∈
        ((self.setType declaredType).1.setAttributeTypes declaredType
          (if attributeHandles.head? = some 0 then attributeHandles.tail
            else attributeHandles)).2
    · rw [if_pos later, if_pos (List.mem_cons_of_mem _ later)]
    · rw [if_neg later]
      by_cases zero : attributeHandle = 0
      · rw [zero, if_pos List.mem_cons_self]
        exact setType_of_changes declarable changes
      · rw [effectiveAttributeType_setType, if_neg zero, if_neg]
        rw [List.mem_cons, not_or]
        exact ⟨zero, later⟩
  · rw [if_neg changes, setAttributeTypes_tells (covers _)]
    rw [setType_changes, not_not] at changes
    congr 1
    by_cases zero : attributeHandle = 0
    · rw [zero]
      exact changes.symm
    · rw [effectiveAttributeType_setType, if_neg zero]

theorem withdraw_tells
    [OrderBot τ]
    {numAttributes : Nat}
    (positive : 0 < numAttributes)
    (self : DeclaredTypes τ) :
    Tells ⊥ self (self.withdraw numAttributes) := by
  have covers : (self.setType ⊥).1.Covers ⊥ (List.range numAttributes) :=
    fun _ => Or.inl le_rfl
  have tells := setAttributeTypes_tells covers
  intro attributeHandle
  rw [withdraw]
  dsimp only
  by_cases zero : attributeHandle = 0
  · -- Nothing is left of attribute 0, whether it was told or not.
    rw [zero]
    have withdrawn : ((self.setType ⊥).1.setAttributeTypes ⊥
        (List.range numAttributes)).1.effectiveAttributeType 0 = ⊥ := by
      rw [effectiveAttributeType, if_pos rfl, setAttributeTypes_ofAttribute,
        if_pos (List.mem_range.mpr positive), setAttributeTypes_ofClass]
      exact max_self ⊥
    have told := tells 0
    rw [withdrawn] at told ⊢
    by_cases changes : (self.setType ⊥).2 = true
    · rw [if_pos changes, if_pos List.mem_cons_self]
    · rw [if_neg changes]
      rw [setType_changes, not_not] at changes
      rw [changes]
      exact told
  · have unchanged : (attributeHandle ∈
        if (self.setType ⊥).2 = true then
          0 :: ((self.setType ⊥).1.setAttributeTypes ⊥
            (List.range numAttributes)).2
        else ((self.setType ⊥).1.setAttributeTypes ⊥
          (List.range numAttributes)).2) ↔
        attributeHandle ∈ ((self.setType ⊥).1.setAttributeTypes ⊥
          (List.range numAttributes)).2 := by
      split
      · rw [List.mem_cons, or_iff_right zero]
      · rfl
    rw [tells, effectiveAttributeType_setType, if_neg zero]
    simp only [unchanged]

end DeclaredTypes
end DeclarationManagement
end OpenRTI
