import OpenRTI.ServerModel.ClassInheritance
import OpenRTI.ServerModel.InteractionClassGrowth
import OpenRTI.ServerModel.InteractionClassLinks

/-!
# Inherited subscriptions of interaction classes

A connect that is subscribed to an interaction class, or to a base class of it, is in
the cumulative set of the class.  A change of a subscription keeps this.  A new class
starts with an empty cumulative set.
-/

namespace OpenRTI
namespace ServerModel

open Foundation
open Foundation.FailingState

namespace InteractionClass

def isSubscribed (connectHandle : ConnectHandle) (self : InteractionClass) : Bool :=
  self.publishSubscribe.isSubscribed connectHandle

def isCumulativelySubscribed
    (connectHandle : ConnectHandle)
    (self : InteractionClass) : Bool :=
  self.publishSubscribe.isCumulativelySubscribed connectHandle

def setSubscriptionType
    (connectHandle : ConnectHandle)
    (subscriptionType : SubscriptionType)
    (self : InteractionClass) : InteractionClass :=
  { self with
    publishSubscribe :=
      (self.publishSubscribe.setSubscriptionType connectHandle subscriptionType).1 }

/-- What a class passes on to the classes derived from it when its base class passes a
subscription on. -/
def passesSubscription
    (connectHandle : ConnectHandle)
    (subscribe : Bool)
    (self : InteractionClass) : Option Bool :=
  let subscribe := subscribe ||
    self.publishSubscribe.getSubscriptionType connectHandle ≠ .unsubscribed
  if (self.publishSubscribe.updateCumulativeSubscribedConnectHandleSet connectHandle
      subscribe).2 then
    some subscribe
  else none

def updateCumulativeSubscription
    (connectHandle : ConnectHandle)
    (subscribe : Bool)
    (self : InteractionClass) : InteractionClass :=
  { self with
    publishSubscribe :=
      (self.publishSubscribe.updateCumulativeSubscribedConnectHandleSet connectHandle
        subscribe).1 }

/-- Whether the base class passes a subscription on. -/
def parentSubscribed
    (connectHandle : ConnectHandle)
    (ancestors : List InteractionClass) : Bool :=
  ancestors.head?.any (isCumulativelySubscribed connectHandle)

end InteractionClass

namespace InteractionClassTable

open InteractionClass

/-- Change the subscription of a connect at a class. -/
def setSubscriptionType
    (interactionClassHandle : InteractionClassHandle)
    (connectHandle : ConnectHandle)
    (subscriptionType : SubscriptionType)
    (self : InteractionClassTable) : InteractionClassTable :=
  { self with
    classes := self.classes.mapNodes fun _ interactionClass =>
      if interactionClass.interactionClassHandle = interactionClassHandle then
        interactionClass.setSubscriptionType connectHandle subscriptionType
      else interactionClass }

/-- Bring the cumulative subscriptions up to date after a connect has changed its
subscription at a class. -/
def updateCumulativeSubscription
    (interactionClassHandle : InteractionClassHandle)
    (connectHandle : ConnectHandle)
    (self : InteractionClassTable) : InteractionClassTable :=
  { self with
    classes := self.classes.propagateFrom
      (InteractionClass.passesSubscription connectHandle)
      (InteractionClass.updateCumulativeSubscription connectHandle)
      (fun interactionClass =>
        interactionClass.interactionClassHandle = interactionClassHandle)
      (InteractionClass.parentSubscribed connectHandle) [] }

/-- A connect changes its subscription to a class. -/
def changeSubscription
    (interactionClassHandle : InteractionClassHandle)
    (connectHandle : ConnectHandle)
    (subscriptionType : SubscriptionType)
    (self : InteractionClassTable) : InteractionClassTable :=
  (self.setSubscriptionType interactionClassHandle connectHandle
    subscriptionType).updateCumulativeSubscription interactionClassHandle connectHandle

/-- Every class has the subscriptions of its base class. -/
def InheritsSubscriptions (self : InteractionClassTable) : Prop :=
  ∀ connectHandle, self.classes.Inherits (isSubscribed connectHandle)
    (isCumulativelySubscribed connectHandle)

variable {self : InteractionClassTable}
variable {interactionClassHandle : InteractionClassHandle}
variable {connectHandle : ConnectHandle}

theorem passesTotal_subscription (connectHandle : ConnectHandle) :
    Forest.PassesTotal (isSubscribed connectHandle)
      (isCumulativelySubscribed connectHandle) (fun _ => true)
      (passesSubscription connectHandle)
      (InteractionClass.updateCumulativeSubscription connectHandle)
      (parentSubscribed connectHandle) where
  passes_present signal interactionClass _ := by
    change (if (interactionClass.publishSubscribe.updateCumulativeSubscribedConnectHandleSet
        connectHandle (signal || interactionClass.isSubscribed connectHandle)).2 then
      some (signal || interactionClass.isSubscribed connectHandle) else none) = _
    rw [PublishSubscribe.updateCumulativeSubscribedConnectHandleSet_snd]
    by_cases same : interactionClass.isCumulativelySubscribed connectHandle =
        (signal || interactionClass.isSubscribed connectHandle)
    · rw [if_pos same, ← same, isCumulativelySubscribed]
      simp
    · rw [if_neg same]
      rw [isCumulativelySubscribed] at same
      rw [if_pos (by simpa using same)]
  passes_absent _ _ absurdity := by cases absurdity
  total_absent _ absurdity := by cases absurdity
  own_absent _ absurdity := by cases absurdity
  own_change signal interactionClass :=
    interactionClass.publishSubscribe.isSubscribed_update _ _ signal
  total_change signal interactionClass _ :=
    interactionClass.publishSubscribe.isCumulativelySubscribed_update _ signal
  start_eq _ := rfl

/-! ## Changes of subscriptions -/

/-- What a change of a subscription makes of a class. -/
def declare
    (interactionClassHandle : InteractionClassHandle)
    (connectHandle : ConnectHandle)
    (subscriptionType : SubscriptionType)
    (_ : List InteractionClass)
    (interactionClass : InteractionClass) : InteractionClass :=
  if interactionClass.interactionClassHandle = interactionClassHandle then
    interactionClass.setSubscriptionType connectHandle subscriptionType
  else interactionClass

theorem isSubscribed_declare
    {other : ConnectHandle} {subscriptionType : SubscriptionType}
    {interactionClass : InteractionClass}
    (different : interactionClass.interactionClassHandle = interactionClassHandle →
      other ≠ connectHandle)
    (ancestors : List InteractionClass) :
    (declare interactionClassHandle connectHandle subscriptionType ancestors
        interactionClass).isSubscribed other =
      interactionClass.isSubscribed other := by
  rw [declare]
  split
  next here =>
    exact PublishSubscribe.isSubscribed_setSubscriptionType_of_ne (different here)
      subscriptionType interactionClass.publishSubscribe
  next => rfl

/-- What a change of a subscription leaves of a class. -/
theorem declare_kept
    {γ : Type} {observe : InteractionClass → γ}
    {subscriptionType : SubscriptionType}
    (keeps : ∀ interactionClass,
      observe (interactionClass.setSubscriptionType connectHandle subscriptionType) =
        observe interactionClass)
    (ancestors : List InteractionClass)
    (interactionClass : InteractionClass) :
    observe (declare interactionClassHandle connectHandle subscriptionType ancestors
      interactionClass) = observe interactionClass := by
  rw [declare]
  split
  · exact keeps interactionClass
  · rfl

/-- What the update of the cumulative subscriptions of one connect makes of a class. -/
abbrev updated
    (interactionClassHandle : InteractionClassHandle)
    (connectHandle : ConnectHandle) :
    List InteractionClass → InteractionClass → InteractionClass :=
  Forest.propagated (passesSubscription connectHandle)
    (InteractionClass.updateCumulativeSubscription connectHandle)
    (fun interactionClass =>
      interactionClass.interactionClassHandle = interactionClassHandle)
    (parentSubscribed connectHandle)

theorem updated_kept
    {γ : Type} {observe : InteractionClass → γ}
    (keeps : ∀ subscribe interactionClass,
      observe (InteractionClass.updateCumulativeSubscription connectHandle subscribe
        interactionClass) = observe interactionClass)
    (ancestors : List InteractionClass)
    (interactionClass : InteractionClass) :
    observe (updated interactionClassHandle connectHandle ancestors interactionClass) =
      observe interactionClass := by
  rw [updated, Forest.propagated]
  split
  · rfl
  · exact keeps _ interactionClass

theorem changeSubscription_eq
    (self : InteractionClassTable)
    (interactionClassHandle : InteractionClassHandle)
    (connectHandle : ConnectHandle) (subscriptionType : SubscriptionType) :
    self.changeSubscription interactionClassHandle connectHandle subscriptionType =
      { self with
        classes := (self.classes.mapNodes (declare interactionClassHandle connectHandle
          subscriptionType)).mapNodes
            (updated interactionClassHandle connectHandle) } := by
  rw [changeSubscription, updateCumulativeSubscription,
    Forest.propagateFrom_eq_mapBelow rfl]
  rfl

theorem Regular.changeSubscription
    (regular : self.Regular)
    (interactionClassHandle : InteractionClassHandle)
    (connectHandle : ConnectHandle) (subscriptionType : SubscriptionType) :
    (self.changeSubscription interactionClassHandle connectHandle
      subscriptionType).Regular := by
  rw [changeSubscription_eq]
  have declared := regular.mapNodes
    (@declare_kept interactionClassHandle connectHandle _
      InteractionClass.interactionClassHandle subscriptionType fun _ => rfl)
    (@declare_kept interactionClassHandle connectHandle _ InteractionClass.name
      subscriptionType fun _ => rfl)
  exact declared.mapNodes
    (@updated_kept interactionClassHandle connectHandle _
      InteractionClass.interactionClassHandle fun _ _ => rfl)
    (@updated_kept interactionClassHandle connectHandle _ InteractionClass.name
      fun _ _ => rfl)

/-- A change of a subscription keeps that the subscriptions are inherited. -/
theorem InheritsSubscriptions.changeSubscription
    (inherits : self.InheritsSubscriptions) (regular : self.Regular)
    (interactionClassHandle : InteractionClassHandle)
    (connectHandle : ConnectHandle) (subscriptionType : SubscriptionType) :
    (self.changeSubscription interactionClassHandle connectHandle
      subscriptionType).InheritsSubscriptions := by
  rw [changeSubscription_eq]
  intro other
  by_cases concerned : other = connectHandle
  · subst concerned
    refine (passesTotal_subscription other).inherits ?_ ?_ ?_
    · exact fun _ _ _ _ _ => rfl
    · intro changed changedMember here
      rw [Forest.nodes_mapNodes] at changedMember
      obtain ⟨⟨ancestors, interactionClass⟩, member, rfl⟩ :=
        List.mem_map.mp changedMember
      have handles := @declare_kept interactionClassHandle other _
        InteractionClass.interactionClassHandle subscriptionType fun _ => rfl
      have outside := regular.handle_notMem_ancestors member
      rw [← Forest.map_mapAncestors handles] at outside
      dsimp only at here ⊢
      rw [handles] at here
      rw [of_decide_eq_true here] at outside
      simpa using outside
    · intro changed changedMember elsewhere
      rw [Forest.nodes_mapNodes] at changedMember
      obtain ⟨⟨ancestors, interactionClass⟩, member, rfl⟩ :=
        List.mem_map.mp changedMember
      have handles := @declare_kept interactionClassHandle other _
        InteractionClass.interactionClassHandle subscriptionType fun _ => rfl
      have totals := @declare_kept interactionClassHandle other _
        (isCumulativelySubscribed other) subscriptionType fun _ => rfl
      dsimp only at elsewhere ⊢
      rw [handles, decide_eq_false_iff_not] at elsewhere
      rw [totals, isSubscribed_declare (fun here => absurd here elsewhere),
        inherits other _ member]
      cases ancestors with
      | nil => rfl
      | cons parent further =>
          rw [Forest.mapAncestors_cons, List.head?_cons, List.head?_cons,
            Option.any_some, Option.any_some, totals]
  · have declared := (inherits other).mapNodes
      (fun ancestors interactionClass =>
        @isSubscribed_declare interactionClassHandle connectHandle other
          subscriptionType interactionClass (fun _ => concerned) ancestors)
      (declare_kept fun _ => rfl)
    refine declared.mapNodes (updated_kept ?_) (updated_kept ?_)
    · intro subscribe interactionClass
      exact interactionClass.publishSubscribe.isSubscribed_update connectHandle other
        subscribe
    · intro subscribe interactionClass
      exact interactionClass.publishSubscribe.isCumulativelySubscribed_update_of_ne
        concerned subscribe

/-! ## Insertion of modules -/

section Growth

variable {start grown : InteractionClassTable} {names : List String}
variable {before after : InteractionClassInsertion}
variable {stringInteractionClass : FOMStringInteractionClass} {created : Bool}

/-- A change of classes that leaves the subscriptions. -/
theorem InheritsSubscriptions.adjust
    {atClass derived : InteractionClass → InteractionClass}
    (inherits : self.InheritsSubscriptions)
    (keepsAt : ∀ interactionClass,
      (atClass interactionClass).publishSubscribe = interactionClass.publishSubscribe)
    (keepsDerived : ∀ interactionClass,
      (derived interactionClass).publishSubscribe = interactionClass.publishSubscribe) :
    (self.adjust interactionClassHandle atClass derived).InheritsSubscriptions := by
  have kept := @ClassTree.observe_adjusted _ InteractionClass.interactionClassHandle
    interactionClassHandle atClass derived _ InteractionClass.publishSubscribe keepsAt
    keepsDerived
  rw [InteractionClassTable.adjust, ClassTree.adjust, Forest.adjust_eq_mapNodes]
  intro connectHandle
  apply (inherits connectHandle).mapNodes
  · intro ancestors interactionClass
    exact congrArg (PublishSubscribe.isSubscribed connectHandle)
      (kept ancestors interactionClass)
  · intro ancestors interactionClass
    exact congrArg (PublishSubscribe.isCumulativelySubscribed connectHandle)
      (kept ancestors interactionClass)

theorem Grows.inheritsSubscriptions
    (grows : Grows interactionClassHandle names start grown)
    (inherits : start.InheritsSubscriptions) :
    grown.InheritsSubscriptions := by
  induction grows with
  | refl => exact inherits
  | describe _ describes ih =>
      apply ih.adjust
      · exact fun interactionClass => (describes interactionClass).2.2.2.2
      · exact fun _ => rfl
  | @add grown _ _ parameterHandleAllocator _ _ _ ih =>
      exact @InheritsSubscriptions.adjust { grown with parameterHandleAllocator } _ _ _
        ih (fun _ => rfl) (fun _ => rfl)

/-- A new class inherits the subscriptions if there are none to inherit. -/
theorem InheritsSubscriptions.withInteractionClass
    {handleAllocator : HandleAllocator invalidHandle} {name : StringVector}
    (inherits : self.InheritsSubscriptions) (regular : self.Regular)
    (nothing : ∀ parent, self.findName name.dropLast = some parent →
      ∀ connectHandle, parent.2.isCumulativelySubscribed connectHandle = false) :
    (self.withInteractionClass handleAllocator name
      interactionClassHandle).InheritsSubscriptions := by
  intro connectHandle
  apply (inherits connectHandle).append
    (regular.nodes_withInteractionClass handleAllocator name interactionClassHandle)
  cases found : self.findName name.dropLast with
  | none => rfl
  | some parentNode =>
      exact (congrArg (· || false) (nothing parentNode found connectHandle)).symm

/-- No class is gone, and a connect is in the cumulative sets it was in before. -/
def KeepsSubscribed (before after : InteractionClassTable) : Prop :=
  ∀ connectHandle,
    ClassTree.GainsNothing InteractionClass.name
      (isCumulativelySubscribed connectHandle) before.classes after.classes

theorem Grows.keepsSubscribed
    (grows : Grows interactionClassHandle names start grown) :
    KeepsSubscribed start grown := by
  intro connectHandle
  induction grows with
  | refl => exact ClassTree.GainsNothing.refl start.classes
  | describe _ describes ih =>
      apply ih.trans
      apply ClassTree.gainsNothing_adjust
      · exact fun interactionClass => (describes interactionClass).2.1
      · exact fun _ => rfl
      · intro interactionClass subscribed
        rw [isCumulativelySubscribed, (describes interactionClass).2.2.2.2] at subscribed
        exact subscribed
      · exact fun _ subscribed => subscribed
  | add _ _ _ _ ih =>
      apply ih.trans
      apply ClassTree.gainsNothing_adjust
      · exact fun _ => rfl
      · exact fun _ => rfl
      · exact fun _ subscribed => subscribed
      · exact fun _ subscribed => subscribed

theorem Entered.keepsSubscribed
    (entered : InteractionClassInsertion.Entered before stringInteractionClass created
      after)
    (regular : before.Regular) :
    KeepsSubscribed before.toInteractionClassTable after.toInteractionClassTable := by
  cases entered with
  | established _ grows _ => exact grows.keepsSubscribed
  | @new interactionClassHandle handleAllocator _ _ _ _ _ grows =>
      intro connectHandle
      have first := @ClassTree.gainsNothing_append _ InteractionClass.name
        (isCumulativelySubscribed connectHandle) _ _ _ _
        (regular.nodes_withInteractionClass handleAllocator stringInteractionClass.name
          interactionClassHandle) rfl
      exact first.trans (grows.keepsSubscribed connectHandle)

theorem Entered.inheritsSubscriptions
    (entered : InteractionClassInsertion.Entered before stringInteractionClass created
      after)
    (regular : before.Regular) (inherits : before.InheritsSubscriptions)
    (nothing : before.findName stringInteractionClass.name = none →
      ∀ parent, before.findName stringInteractionClass.name.dropLast = some parent →
      ∀ connectHandle, parent.2.isCumulativelySubscribed connectHandle = false) :
    after.InheritsSubscriptions := by
  cases entered with
  | established _ grows _ => exact grows.inheritsSubscriptions inherits
  | new unknown _ _ _ grows =>
      exact grows.inheritsSubscriptions
        (inherits.withInteractionClass regular (nothing unknown))

/-- Entries create classes only directly below classes to which no connect is
subscribed, or to a base class. -/
def CreatesUnsubscribed
    (self : InteractionClassTable)
    (entries : List FOMStringInteractionClass) : Prop :=
  ∀ connectHandle,
    ClassTree.CreatesWithout InteractionClass.name
      (isCumulativelySubscribed connectHandle) self.classes
      (entries.map FOMStringInteractionClass.name)

/-- Entries of a module whose insertion has started with other classes. -/
theorem inheritsSubscriptions_runAny
    {dimensions : DimensionTable} {entries : List FOMStringInteractionClass}
    (keeps : KeepsSubscribed start before.toInteractionClassTable)
    (regular : before.Regular) (inherits : before.InheritsSubscriptions)
    (unsubscribed : start.CreatesUnsubscribed entries)
    (ran : runAny (insertOrCheckInteractionClass dimensions) entries before =
      .ok created after) :
    after.InheritsSubscriptions := by
  induction entries generalizing before created with
  | nil =>
      rw [runAny_nil, pure_eq_ok] at ran
      obtain ⟨_, rfl⟩ := ran
      exact inherits
  | cons entry rest ih =>
      obtain ⟨here, between, later, enteredEntry, others, _⟩ := runAny_cons_eq_ok.mp ran
      have entered :=
        InteractionClassInsertion.insertOrCheckInteractionClass_ok enteredEntry
      refine ih ?_ (entered.regular regular)
        (Entered.inheritsSubscriptions entered regular inherits ?_) ?_ others
      · intro connectHandle
        exact (keeps connectHandle).trans
          (Entered.keepsSubscribed entered regular connectHandle)
      · intro unknown parent found connectHandle
        obtain ⟨member, named⟩ := regular.find?_name_eq_some.mp found
        exact (keeps connectHandle).without_of_createsWithout
          (unsubscribed connectHandle) List.mem_cons_self
          (ClassTree.find?_name_eq_none.mp unknown)
          (ClassTree.mem_values_of_mem_nodes member) named
      · intro connectHandle className listed
        exact unsubscribed connectHandle className (List.mem_cons_of_mem _ listed)

end Growth

end InteractionClassTable
end ServerModel
end OpenRTI
