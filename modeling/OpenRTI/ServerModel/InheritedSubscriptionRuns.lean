import OpenRTI.ServerModel.InheritedInteractionSubscriptions
import OpenRTI.ServerModel.InheritedSubscriptionGrowth

/-!
# Inherited subscriptions over all runs

Modules are inserted into a federation and connects change their subscriptions, in any
order.  As long as no class is created below one with subscribers, the cumulative set of
a class has the connects that are subscribed there or at a base class.
-/

namespace OpenRTI
namespace ServerModel

open Foundation

namespace ObjectClassTable

open ObjectClass

/-- A change of a subscription needs no links of modules. -/
theorem linked_changeSubscription
    {self : ObjectClassTable} {classLinks definitionLinks : Nat → Prop}
    (linked : ClassTree.Linked ObjectClass.objectClassHandle
      (fun objectClass => objectClass.attributeDefinitions ≠ []) classLinks
      definitionLinks self.classes)
    (objectClassHandle : ObjectClassHandle)
    (attributeHandle : AttributeHandle) (connectHandle : ConnectHandle)
    (subscriptionType : SubscriptionType) :
    ClassTree.Linked ObjectClass.objectClassHandle
      (fun objectClass => objectClass.attributeDefinitions ≠ []) classLinks
      definitionLinks
      (self.changeSubscription objectClassHandle attributeHandle connectHandle
        subscriptionType).classes := by
  have keeps : ∀ {change : List ObjectClass → ObjectClass → ObjectClass},
      (∀ ancestors objectClass,
        SameAttributes objectClass (change ancestors objectClass)) →
      ∀ ancestors objectClass,
        (change ancestors objectClass).attributeDefinitions ≠ [] →
          objectClass.attributeDefinitions ≠ [] := by
    intro change same ancestors objectClass some none
    apply some
    rw [← List.length_eq_zero_iff, (same ancestors objectClass).length_definitions, none]
    rfl
  cases present : (self.publishSubscribe? objectClassHandle attributeHandle).isSome with
  | false =>
      rw [Option.isSome_eq_false_iff, Option.isNone_iff_eq_none] at present
      rw [changeSubscription, present]
      exact linked
  | true =>
      rw [changeSubscription_of_isSome subscriptionType present]
      have declared := @sameAttributes_declare objectClassHandle attributeHandle
        connectHandle subscriptionType
      have updated := @sameAttributes_updated objectClassHandle attributeHandle
        connectHandle
      exact (linked.mapNodes (fun _ _ => (declared _ _).objectClassHandle)
        (keeps declared)).mapNodes (fun _ _ => (updated _ _).objectClassHandle)
          (keeps updated)

end ObjectClassTable

namespace InteractionClassTable

/-- A change of a subscription needs no links of modules. -/
theorem linked_changeSubscription
    {self : InteractionClassTable} {classLinks definitionLinks : Nat → Prop}
    (linked : ClassTree.Linked InteractionClass.interactionClassHandle
      (fun interactionClass => interactionClass.parameterDefinitions ≠ []) classLinks
      definitionLinks self.classes)
    (interactionClassHandle : InteractionClassHandle)
    (connectHandle : ConnectHandle) (subscriptionType : SubscriptionType) :
    ClassTree.Linked InteractionClass.interactionClassHandle
      (fun interactionClass => interactionClass.parameterDefinitions ≠ []) classLinks
      definitionLinks
      (self.changeSubscription interactionClassHandle connectHandle
        subscriptionType).classes := by
  rw [changeSubscription_eq]
  apply ClassTree.Linked.mapNodes
  · apply linked.mapNodes (declare_kept fun _ => rfl)
    intro ancestors interactionClass some
    rw [@declare_kept _ _ _ InteractionClass.parameterDefinitions _ fun _ => rfl]
      at some
    exact some
  · exact updated_kept fun _ _ => rfl
  · intro ancestors interactionClass some
    rw [@updated_kept _ _ _ InteractionClass.parameterDefinitions fun _ _ => rfl] at some
    exact some

end InteractionClassTable

/-! ## Changes of the object model -/

/-- What changes the object model of a federation. -/
inductive ObjectModelChange
  | insertModule (stringModule : FOMStringModule2)
  | changeObjectClassSubscription
      (objectClassHandle : ObjectClassHandle)
      (attributeHandle : AttributeHandle)
      (connectHandle : ConnectHandle)
      (subscriptionType : SubscriptionType)
  | changeInteractionClassSubscription
      (interactionClassHandle : InteractionClassHandle)
      (connectHandle : ConnectHandle)
      (subscriptionType : SubscriptionType)

namespace Federation

def changeObjectClassSubscription
    (objectClassHandle : ObjectClassHandle)
    (attributeHandle : AttributeHandle)
    (connectHandle : ConnectHandle)
    (subscriptionType : SubscriptionType)
    (self : Federation) : Federation :=
  { self with
    objectClasses := self.objectClasses.changeSubscription objectClassHandle
      attributeHandle connectHandle subscriptionType }

def changeInteractionClassSubscription
    (interactionClassHandle : InteractionClassHandle)
    (connectHandle : ConnectHandle)
    (subscriptionType : SubscriptionType)
    (self : Federation) : Federation :=
  { self with
    interactionClasses := self.interactionClasses.changeSubscription
      interactionClassHandle connectHandle subscriptionType }

/-- Modules that are inserted, as long as this succeeds, and changes of subscriptions, in
any order. -/
def objectModelChanges : TransitionSystem Federation ObjectModelChange where
  initial := {}
  next self change :=
    match change with
    | .insertModule stringModule => moduleInsertions.next self stringModule
    | .changeObjectClassSubscription objectClassHandle attributeHandle connectHandle
        subscriptionType =>
      some (self.changeObjectClassSubscription objectClassHandle attributeHandle
        connectHandle subscriptionType)
    | .changeInteractionClassSubscription interactionClassHandle connectHandle
        subscriptionType =>
      some (self.changeInteractionClassSubscription interactionClassHandle
        connectHandle subscriptionType)

/-- The cumulative sets have exactly the connects that are subscribed at the class or at
one of its base classes. -/
structure SubscriptionsComplete (federation : Federation) : Prop where
  objectClasses : ∀ ancestors objectClass,
    (ancestors, objectClass) ∈ federation.objectClasses.classes.nodes →
    ∀ attributeHandle, objectClass.hasAttribute attributeHandle = true →
    ∀ connectHandle,
      objectClass.isCumulativelySubscribed connectHandle attributeHandle = true ↔
        ∃ base ∈ objectClass :: ancestors, base.hasAttribute attributeHandle = true ∧
          base.isSubscribed connectHandle attributeHandle = true
  interactionClasses : ∀ ancestors interactionClass,
    (ancestors, interactionClass) ∈ federation.interactionClasses.classes.nodes →
    ∀ connectHandle,
      interactionClass.isCumulativelySubscribed connectHandle = true ↔
        ∃ base ∈ interactionClass :: ancestors, base.isSubscribed connectHandle = true

/-- A module creates no class directly below one with subscribers, and gives no new
attribute a handle under which the base class has subscribers. -/
def KeepsInherited (before : Federation) : ObjectModelChange → Prop
  | .insertModule stringModule =>
      before.objectClasses.CreatesUnsubscribed stringModule.objectClassList ∧
        before.objectClasses.EntersFree before.objectClasses.attributeOutline
          stringModule.objectClassList ∧
        before.interactionClasses.CreatesUnsubscribed stringModule.interactionClassList
  | _ => True

/-- Every class inherits the subscriptions of its base class. -/
structure Inherits (federation : Federation) : Prop where
  regular : federation.ClassesRegular
  objectClasses : federation.objectClasses.InheritsSubscriptions
  interactionClasses : federation.interactionClasses.InheritsSubscriptions

theorem Inherits.initial : Inherits {} where
  regular := ClassesRegular.initial
  objectClasses := ObjectClassTable.InheritsSubscriptions.initial
  interactionClasses _ _ member := by cases member

theorem Inherits.insert
    {before after : Federation} {stringModule : FOMStringModule2}
    {result : Option ModuleHandle}
    (inherits : before.Inherits)
    (keepsInherited : before.KeepsInherited (.insertModule stringModule))
    (inserted : Federation.insert stringModule before = .ok result after) :
    after.Inherits := by
  obtain ⟨afterRegular, effect⟩ := inherits.regular.insert inserted
  obtain ⟨objectUnsubscribed, free, interactionUnsubscribed⟩ := keepsInherited
  refine ⟨afterRegular, ?_, ?_⟩
  · obtain ⟨_, _, _, entered, same⟩ := effect.objectClasses
    rw [same]
    exact ObjectClassTable.inheritsSubscriptions_runAny
      (fun _ _ => ClassTree.GainsNothing.refl _) inherits.regular.objectClasses
      inherits.objectClasses free objectUnsubscribed entered
  · obtain ⟨_, _, _, entered, same⟩ := effect.interactionClasses
    rw [same]
    exact InteractionClassTable.inheritsSubscriptions_runAny
      (fun _ => ClassTree.GainsNothing.refl _) inherits.regular.interactionClasses
      inherits.interactionClasses interactionUnsubscribed entered

theorem Inherits.changeObjectClassSubscription
    {before : Federation}
    (inherits : before.Inherits) (objectClassHandle : ObjectClassHandle)
    (attributeHandle : AttributeHandle) (connectHandle : ConnectHandle)
    (subscriptionType : SubscriptionType) :
    (before.changeObjectClassSubscription objectClassHandle attributeHandle connectHandle
      subscriptionType).Inherits := by
  obtain ⟨objectInherits, objectRegular⟩ :=
    inherits.objectClasses.changeSubscription inherits.regular.objectClasses
      objectClassHandle attributeHandle connectHandle subscriptionType
  refine ⟨⟨inherits.regular.interactionClasses, inherits.regular.interactionLinks,
    objectRegular, ?_⟩, objectInherits, inherits.interactionClasses⟩
  exact ObjectClassTable.linked_changeSubscription inherits.regular.objectLinks _ _ _ _

theorem Inherits.changeInteractionClassSubscription
    {before : Federation}
    (inherits : before.Inherits)
    (interactionClassHandle : InteractionClassHandle)
    (connectHandle : ConnectHandle) (subscriptionType : SubscriptionType) :
    (before.changeInteractionClassSubscription interactionClassHandle connectHandle
      subscriptionType).Inherits := by
  have regular := inherits.regular.interactionClasses
  refine ⟨⟨?_, ?_, inherits.regular.objectClasses, inherits.regular.objectLinks⟩,
    inherits.objectClasses, ?_⟩
  · exact InteractionClassTable.Regular.changeSubscription regular _ _ _
  · exact InteractionClassTable.linked_changeSubscription
      inherits.regular.interactionLinks _ _ _
  · exact inherits.interactionClasses.changeSubscription regular _ _ _

theorem Inherits.step
    {before after : Federation} {change : ObjectModelChange}
    (inherits : before.Inherits)
    (keepsInherited : before.KeepsInherited change)
    (stepped : objectModelChanges.next before change = some after) :
    after.Inherits := by
  cases change with
  | insertModule stringModule =>
      obtain ⟨_, inserted⟩ := moduleInsertions_next stepped
      exact inherits.insert keepsInherited inserted
  | changeObjectClassSubscription objectClassHandle attributeHandle connectHandle
      subscriptionType =>
      cases stepped
      exact inherits.changeObjectClassSubscription _ _ _ _
  | changeInteractionClassSubscription interactionClassHandle connectHandle
      subscriptionType =>
      cases stepped
      exact inherits.changeInteractionClassSubscription _ _ _

/-- The cumulative sets are complete as long as no class is created below one with
subscribers. -/
theorem subscriptionsComplete_of_keepsInherited
    {federation : Federation}
    (reachable : objectModelChanges.ReachableUnder KeepsInherited federation) :
    federation.SubscriptionsComplete := by
  have inherits : federation.Inherits := by
    apply reachable.invariant Inherits Inherits.initial
    intro before change after holds keepsInherited stepped
    exact holds.step keepsInherited stepped
  constructor
  · intro ancestors objectClass member attributeHandle _ connectHandle
    rw [(inherits.objectClasses.totals connectHandle attributeHandle).total_iff member]
    constructor
    · rintro ⟨base, onPath, subscribed⟩
      refine ⟨base, onPath, ?_, subscribed⟩
      by_contra absent
      rw [ObjectClass.isSubscribed, ObjectClass.publishSubscribe?_eq_none
        (Bool.eq_false_iff.mpr absent)] at subscribed
      cases subscribed
    · rintro ⟨base, onPath, _, subscribed⟩
      exact ⟨base, onPath, subscribed⟩
  · intro ancestors interactionClass member connectHandle
    exact (inherits.interactionClasses connectHandle).total_iff member

/-! ## Two orders of changes -/

/-- Nobody has published or subscribed anything. -/
def Undeclared (federation : Federation) : Prop :=
  (∀ objectClass ∈ federation.objectClasses.classes.values,
    ∀ classAttribute ∈ objectClass.classAttributes,
      classAttribute.publishSubscribe = {}) ∧
  ∀ interactionClass ∈ federation.interactionClasses.classes.values,
    interactionClass.publishSubscribe = {}

instance (federation : Federation) : Decidable federation.Undeclared :=
  inferInstanceAs (Decidable (_ ∧ _))

/-- Modules may create any classes as long as nobody has subscribed. -/
theorem Undeclared.keepsInherited
    {before : Federation}
    (undeclared : before.Undeclared) (change : ObjectModelChange) :
    before.KeepsInherited change := by
  cases change with
  | changeObjectClassSubscription => trivial
  | changeInteractionClassSubscription => trivial
  | insertModule stringModule =>
      have nobody : ∀ parent ∈ before.objectClasses.classes.values,
          ∀ connectHandle attributeHandle,
            parent.isCumulativelySubscribed connectHandle attributeHandle = false := by
        intro parent value connectHandle attributeHandle
        rw [ObjectClass.isCumulativelySubscribed_eq]
        exact ObjectClass.any_eq_false_of_empty (undeclared.1 parent value) rfl
      refine ⟨?_, ?_, ?_⟩
      · intro connectHandle attributeHandle className _ _ parent value _
        exact nobody parent value connectHandle attributeHandle
      · generalize before.objectClasses.attributeOutline = outline
        induction stringModule.objectClassList generalizing outline with
        | nil => trivial
        | cons entry rest ih =>
            refine ⟨?_, ih _⟩
            intro parent value _ count _ _ connectHandle
            exact nobody parent value connectHandle _
      · intro connectHandle className _ _ parent value _
        rw [InteractionClass.isCumulativelySubscribed, undeclared.2 parent value]
        rfl

/-- The classes that have a connect in the cumulative set of an attribute. -/
def subscribedClasses
    (attributeHandle : AttributeHandle)
    (connectHandle : ConnectHandle)
    (self : Federation) : List StringVector :=
  (self.objectClasses.classes.values.filter
    (ObjectClass.isCumulativelySubscribed connectHandle attributeHandle)).map
      ObjectClass.name

/-- A module with a class of one attribute. -/
def exampleRoot : ObjectModelChange :=
  .insertModule
    { objectClassList := [⟨["Root"], [⟨"id", "", "receive", "HLAreliable", []⟩]⟩] }

/-- A module with a class derived from this. -/
def exampleLeaf : ObjectModelChange :=
  .insertModule { objectClassList := [⟨["Root"], []⟩, ⟨["Root", "Leaf"], []⟩] }

/-- A connect subscribes to the attribute of the former class. -/
def exampleSubscription : ObjectModelChange :=
  .changeObjectClassSubscription 0 0 1 .subscribedActive

/-- The connect subscribes after the derived class has been created. -/
theorem subscriptionsComplete_of_keepsInherited_last :
    ∃ final,
      objectModelChanges.run objectModelChanges.initial
        [exampleRoot, exampleLeaf, exampleSubscription] = some final ∧
      final.subscribedClasses 0 1 = [["Root"], ["Root", "Leaf"]] ∧
      final.SubscriptionsComplete := by
  have classes : (objectModelChanges.run objectModelChanges.initial
      [exampleRoot, exampleLeaf, exampleSubscription]).map (subscribedClasses 0 1) =
        some [["Root"], ["Root", "Leaf"]] := by decide +kernel
  have undeclared : (objectModelChanges.next objectModelChanges.initial
      exampleRoot).all (fun root => root.Undeclared) = true := by decide +kernel
  obtain ⟨final, ran, classes⟩ := Option.map_eq_some_iff.mp classes
  refine ⟨final, ran, classes, ?_⟩
  rw [TransitionSystem.run_cons] at ran
  obtain ⟨root, first, ran⟩ := Option.bind_eq_some_iff.mp ran
  rw [TransitionSystem.run_cons] at ran
  obtain ⟨leaf, second, ran⟩ := Option.bind_eq_some_iff.mp ran
  rw [TransitionSystem.run_cons] at ran
  obtain ⟨subscribed, third, ran⟩ := Option.bind_eq_some_iff.mp ran
  rw [TransitionSystem.run_nil, Option.some.injEq] at ran
  rw [first, Option.all_some, decide_eq_true_eq] at undeclared
  have initially : Undeclared objectModelChanges.initial := by decide
  apply subscriptionsComplete_of_keepsInherited
  rw [← ran]
  apply TransitionSystem.ReachableUnder.step _ trivial third
  apply TransitionSystem.ReachableUnder.step _ (undeclared.keepsInherited _) second
  exact .step .initial (initially.keepsInherited _) first

/-- The connect subscribes before, and is not in the cumulative set of the derived
class. -/
theorem subscriptionsComplete_of_keepsInherited_fails :
    ¬ ∀ federation, objectModelChanges.Reachable federation →
      federation.SubscriptionsComplete := by
  intro all
  have classes : (objectModelChanges.run objectModelChanges.initial
      [exampleRoot, exampleSubscription, exampleLeaf]).map (fun final =>
        (final.objectClasses.classes.nodes.map fun node =>
          (node.2.hasAttribute 0, node.2.isCumulativelySubscribed 1 0,
            node.1.map fun base =>
              (base.hasAttribute 0, base.isSubscribed 1 0)))) =
        some [(true, true, []), (true, false, [(true, true)])] := by decide +kernel
  obtain ⟨final, ran, classes⟩ := Option.map_eq_some_iff.mp classes
  have complete := all final (TransitionSystem.reachable_of_run _ ran)
  have leaf : (true, false, [(true, true)]) ∈
      (final.objectClasses.classes.nodes.map fun node =>
        (node.2.hasAttribute 0, node.2.isCumulativelySubscribed 1 0,
          node.1.map fun base => (base.hasAttribute 0, base.isSubscribed 1 0))) := by
    rw [classes]
    exact List.mem_cons_of_mem _ (List.mem_singleton_self _)
  obtain ⟨⟨ancestors, objectClass⟩, member, same⟩ := List.mem_map.mp leaf
  simp only [Prod.mk.injEq] at same
  obtain ⟨available, missing, bases⟩ := same
  obtain ⟨base, rest, equal, baseSame, _⟩ := List.map_eq_cons_iff.mp bases
  obtain ⟨baseAvailable, baseSubscribed⟩ := Prod.mk.inj baseSame
  have inherited := (complete.objectClasses ancestors objectClass member 0 available
    1).mpr ⟨base, by simp [equal], baseAvailable, baseSubscribed⟩
  rw [missing] at inherited
  cases inherited

end Federation
end ServerModel
end OpenRTI
