import OpenRTI.ServerNode.FilterUnsubscriptions

/-!
# Runs of filter subscriptions

A connect that has once subscribed with a filter stays subscribed as long as it
unsubscribes filters only, whatever the other connects do.
-/

namespace OpenRTI
namespace ServerNode

open Foundation
open ServerModel ServerModel.FilteredInteractionClass

structure SubscriptionInput where
  connectHandle : ConnectHandle
  message : ChangeInteractionClassSubscriptionMessage
  parentSubscribed : Bool := false
  deriving DecidableEq

/-- The messages that a server node gets for a class. -/
def interactionSubscriptions (interactionClass : FilteredInteractionClass) :
    TransitionSystem FilteredInteractionClass SubscriptionInput where
  initial := interactionClass
  next interactionClass input :=
    (acceptChangeInteractionClassSubscription input.connectHandle input.message
      input.parentSubscribed interactionClass).map Prod.fst

def messagesOf
    (connectHandle : ConnectHandle)
    (inputs : List SubscriptionInput) :
    List ChangeInteractionClassSubscriptionMessage :=
  (inputs.filter (·.connectHandle = connectHandle)).map SubscriptionInput.message

/-- Subscriptions with filters, and an unsubscription for each of these filters. -/
structure UndoneBy
    (subscriptions unsubscriptions :
      List ChangeInteractionClassSubscriptionMessage) : Prop where
  subscribes : ∀ message ∈ subscriptions, message.subscriptionType ≠ .unsubscribed
  unsubscribes : ∀ message ∈ unsubscriptions,
    message.subscriptionType = .unsubscribed
  given : ∀ message ∈ subscriptions, message.parameterFilterValues ≠ []
  same : (unsubscriptions.map
    ChangeInteractionClassSubscriptionMessage.parameterFilterValues).Perm
      (subscriptions.map
        ChangeInteractionClassSubscriptionMessage.parameterFilterValues)

variable {start interactionClass final : FilteredInteractionClass}
variable {connectHandle : ConnectHandle}

/-- The connect is subscribed and has an entry for filters. -/
def SubscribedWithEntry
    (connectHandle : ConnectHandle)
    (interactionClass : FilteredInteractionClass) : Prop :=
  (interactionClass.parameterFiltersByConnect.find? connectHandle).isSome = true ∧
    interactionClass.getSubscriptionType connectHandle ≠ .unsubscribed

theorem SubscribedWithEntry.of_sameFor
    {after : FilteredInteractionClass}
    (before : SubscribedWithEntry connectHandle interactionClass)
    (same : SameFor connectHandle interactionClass after) :
    SubscribedWithEntry connectHandle after :=
  ⟨same.1.trans before.1, fun none => before.2 (same.2.symm.trans none)⟩

variable {message : ChangeInteractionClassSubscriptionMessage}
variable {parentSubscribed : Bool}
variable {result : FilteredInteractionClass × ConnectHandleSet}

/-! ## Own messages -/

theorem subscribedWithEntry_subscribed
    (valid : connectHandle ≠ invalidHandle)
    (given : message.parameterFilterValues ≠ [])
    (subscribes : message.subscriptionType ≠ .unsubscribed)
    (accepted : acceptChangeInteractionClassSubscription connectHandle message
      parentSubscribed interactionClass = some result) :
    SubscribedWithEntry connectHandle result.1 := by
  rw [acceptChangeInteractionClassSubscription, if_neg subscribes, subscribe,
    if_pos (Or.inl given)] at accepted
  obtain ⟨change, changed, rfl⟩ := Option.map_eq_some_iff.mp accepted
  obtain ⟨updated, update, rfl⟩ := Option.map_eq_some_iff.mp changed
  refine ⟨?_, ?_⟩
  · exact isSome_find?_add valid update
  · rw [getSubscriptionType_updateCumulativeSubscription]
    exact getSubscriptionType_setSubscriptionType_ne subscribes

theorem subscribedWithEntry_unsubscribed
    (valid : connectHandle ≠ invalidHandle)
    (given : message.parameterFilterValues ≠ [])
    (unsubscribes : message.subscriptionType = .unsubscribed)
    (before : SubscribedWithEntry connectHandle interactionClass)
    (accepted : acceptChangeInteractionClassSubscription connectHandle message
      parentSubscribed interactionClass = some result) :
    SubscribedWithEntry connectHandle result.1 := by
  obtain ⟨updated, update, stays, _⟩ := exists_remove valid before.1 given
  rw [acceptChangeInteractionClassSubscription, if_pos unsubscribes,
    unsubscribe_of_entry valid given update stays] at accepted
  cases accepted
  refine ⟨stays, ?_⟩
  rw [getSubscriptionType_updateCumulativeSubscription, getSubscriptionType,
    publishSubscribe_updateParameterFilterValues update]
  exact before.2

theorem SubscribedWithEntry.accept
    (before : SubscribedWithEntry connectHandle interactionClass)
    (valid : connectHandle ≠ invalidHandle)
    (given : message.parameterFilterValues ≠ [])
    (accepted : acceptChangeInteractionClassSubscription connectHandle message
      parentSubscribed interactionClass = some result) :
    SubscribedWithEntry connectHandle result.1 := by
  by_cases unsubscribes : message.subscriptionType = .unsubscribed
  · exact subscribedWithEntry_unsubscribed valid given unsubscribes before accepted
  · exact subscribedWithEntry_subscribed valid given unsubscribes accepted

variable {input : SubscriptionInput}

/-! ## Runs -/

theorem messagesOf_cons_self
    (own : input.connectHandle = connectHandle)
    (inputs : List SubscriptionInput) :
    messagesOf connectHandle (input :: inputs) =
      input.message :: messagesOf connectHandle inputs := by
  simp [messagesOf, own]

theorem messagesOf_cons_of_ne
    (foreign : input.connectHandle ≠ connectHandle)
    (inputs : List SubscriptionInput) :
    messagesOf connectHandle (input :: inputs) =
      messagesOf connectHandle inputs := by
  simp [messagesOf, foreign]

variable {inputs : List SubscriptionInput}

/-- The first step of a run of messages. -/
theorem run_messages_cons
    (ran : (interactionSubscriptions start).run interactionClass (input :: inputs) =
      some final) :
    ∃ result,
      acceptChangeInteractionClassSubscription input.connectHandle input.message
          input.parentSubscribed interactionClass = some result ∧
      (interactionSubscriptions start).run result.1 inputs = some final := by
  rw [TransitionSystem.run_cons] at ran
  obtain ⟨after, stepped, rest⟩ := Option.bind_eq_some_iff.mp ran
  obtain ⟨result, accepted, rfl⟩ := Option.map_eq_some_iff.mp stepped
  exact ⟨result, accepted, rest⟩

/-- Where the connect only sends messages with values, it stays subscribed. -/
theorem SubscribedWithEntry.run
    (before : SubscribedWithEntry connectHandle interactionClass)
    (valid : connectHandle ≠ invalidHandle)
    (given : ∀ message ∈ messagesOf connectHandle inputs,
      message.parameterFilterValues ≠ [])
    (ran : (interactionSubscriptions start).run interactionClass inputs =
      some final) :
    SubscribedWithEntry connectHandle final := by
  induction inputs generalizing interactionClass with
  | nil =>
      cases ran
      exact before
  | cons input inputs ih =>
      obtain ⟨result, accepted, rest⟩ := run_messages_cons ran
      by_cases own : input.connectHandle = connectHandle
      · rw [messagesOf_cons_self own] at given
        rw [own] at accepted
        apply ih _ _ rest
        · exact before.accept valid (given _ List.mem_cons_self) accepted
        · intro message member
          exact given message (List.mem_cons_of_mem _ member)
      · rw [messagesOf_cons_of_ne own] at given
        have same := sameFor_accept (Ne.symm own) accepted
        exact ih (before.of_sameFor same) given rest

/-- Where the connect starts with a subscription with values, it is subscribed
afterwards. -/
theorem subscribedWithEntry_run
    {first : ChangeInteractionClassSubscriptionMessage}
    {rest : List ChangeInteractionClassSubscriptionMessage}
    (valid : connectHandle ≠ invalidHandle)
    (messages : messagesOf connectHandle inputs = first :: rest)
    (subscribes : first.subscriptionType ≠ .unsubscribed)
    (given : ∀ message ∈ first :: rest, message.parameterFilterValues ≠ [])
    (ran : (interactionSubscriptions start).run interactionClass inputs =
      some final) :
    SubscribedWithEntry connectHandle final := by
  induction inputs generalizing interactionClass with
  | nil => cases messages
  | cons input inputs ih =>
      obtain ⟨result, accepted, later⟩ := run_messages_cons ran
      by_cases own : input.connectHandle = connectHandle
      · rw [messagesOf_cons_self own, List.cons.injEq] at messages
        obtain ⟨rfl, rfl⟩ := messages
        rw [own] at accepted
        have after := subscribedWithEntry_subscribed valid
          (given _ List.mem_cons_self) subscribes accepted
        apply after.run valid _ later
        intro message member
        exact given message (List.mem_cons_of_mem _ member)
      · rw [messagesOf_cons_of_ne own] at messages
        exact ih messages later

/-- Without messages of the connect its subscription is the same. -/
theorem sameFor_run
    (silent : messagesOf connectHandle inputs = [])
    (ran : (interactionSubscriptions start).run interactionClass inputs =
      some final) :
    SameFor connectHandle interactionClass final := by
  induction inputs generalizing interactionClass with
  | nil =>
      cases ran
      exact SameFor.refl connectHandle _
  | cons input inputs ih =>
      obtain ⟨result, accepted, rest⟩ := run_messages_cons ran
      by_cases own : input.connectHandle = connectHandle
      · rw [messagesOf_cons_self own] at silent
        cases silent
      · rw [messagesOf_cons_of_ne own] at silent
        have same := sameFor_accept (Ne.symm own) accepted
        exact same.trans (ih silent rest)

/-- A connect that unsubscribes all filters it has subscribed with is not subscribed
exactly if there were none. -/
theorem unsubscribed_run_iff
    {subscriptions unsubscriptions : List ChangeInteractionClassSubscriptionMessage}
    (valid : connectHandle ≠ invalidHandle)
    (initially : start.getSubscriptionType connectHandle = .unsubscribed)
    (messages : messagesOf connectHandle inputs = subscriptions ++ unsubscriptions)
    (undone : UndoneBy subscriptions unsubscriptions)
    (ran : (interactionSubscriptions start).run start inputs = some final) :
    final.getSubscriptionType connectHandle = .unsubscribed ↔ subscriptions = [] := by
  cases subscriptions with
  | nil =>
      have silent : messagesOf connectHandle inputs = [] := by
        rw [messages, List.nil_append]
        exact List.map_eq_nil_iff.mp undone.same.eq_nil
      have same := sameFor_run silent ran
      exact iff_of_true (same.2.trans initially) rfl
  | cons first rest =>
      have given : ∀ message ∈ first :: (rest ++ unsubscriptions),
          message.parameterFilterValues ≠ [] := by
        intro message member
        rw [← List.cons_append] at member
        obtain member | member := List.mem_append.mp member
        · exact undone.given message member
        · have values := undone.same.mem_iff.mp (List.mem_map_of_mem member)
          obtain ⟨subscription, inside, same⟩ := List.mem_map.mp values
          rw [← same]
          exact undone.given subscription inside
      have subscribed := subscribedWithEntry_run valid messages
        (undone.subscribes first List.mem_cons_self) given ran
      exact iff_of_false subscribed.2 (List.cons_ne_nil first rest)

/-- An unsubscription with values is processed exactly for the connects that have an
entry, and then it changes nothing for the others.  Where it names a new parameter, this
is entered for the class.  The subscription never goes with the last filter. -/
theorem filter_unsubscriptions_iff (valid : connectHandle ≠ invalidHandle) :
    (∀ (interactionClass : FilteredInteractionClass)
        (parameterFilterValues : List ParameterValue) (parentSubscribed : Bool),
      parameterFilterValues ≠ [] →
      ((∃ result,
        acceptChangeInteractionClassSubscription connectHandle
            ⟨.unsubscribed, parameterFilterValues⟩ parentSubscribed
            interactionClass = some result ∧
        ChangesOnly connectHandle interactionClass result.1) ↔
        (interactionClass.parameterFiltersByConnect.find? connectHandle).isSome =
          true) ∧
      ∀ result,
        acceptChangeInteractionClassSubscription connectHandle
            ⟨.unsubscribed, parameterFilterValues⟩ parentSubscribed
            interactionClass = some result →
        (result.1.parameterFilterKeyPrototype =
            interactionClass.parameterFilterKeyPrototype ↔
          ∀ item ∈ parameterFilterValues,
            item.parameterHandle ∈
              interactionClass.parameterFilterKeyPrototype)) ∧
    ∀ (start final : FilteredInteractionClass) (inputs : List SubscriptionInput)
        (subscriptions unsubscriptions :
          List ChangeInteractionClassSubscriptionMessage),
      start.getSubscriptionType connectHandle = .unsubscribed →
      messagesOf connectHandle inputs = subscriptions ++ unsubscriptions →
      UndoneBy subscriptions unsubscriptions →
      (interactionSubscriptions start).run start inputs = some final →
      (final.getSubscriptionType connectHandle = .unsubscribed ↔
        subscriptions = []) := by
  refine ⟨?_, ?_⟩
  · intro interactionClass parameterFilterValues parentSubscribed given
    refine ⟨accept_unsubscribed_iff valid given parentSubscribed, ?_⟩
    intro result accepted
    exact prototype_unsubscribed_iff valid given accepted
  · intro start final inputs subscriptions unsubscriptions initially messages undone
      ran
    exact unsubscribed_run_iff valid initially messages undone ran

/-- The unsubscription of a filter is refused without an entry.  After a subscription with
that filter it is processed, but the connect stays subscribed. -/
theorem filter_unsubscriptions_iff_one :
    (¬∃ result,
      acceptChangeInteractionClassSubscription 1 ⟨.unsubscribed, [⟨7, [65]⟩]⟩ false
          { interactionClassHandle := 0, name := [] } = some result ∧
        ChangesOnly 1 { interactionClassHandle := 0, name := [] } result.1) ∧
    (∃ subscribed,
      (acceptChangeInteractionClassSubscription 1 ⟨.subscribedActive, [⟨7, [65]⟩]⟩
          false { interactionClassHandle := 0, name := [] }).map Prod.fst =
        some subscribed ∧
      ∃ result,
        acceptChangeInteractionClassSubscription 1 ⟨.unsubscribed, [⟨7, [65]⟩]⟩ false
            subscribed = some result ∧
          ChangesOnly 1 subscribed result.1 ∧
          result.1.parameterFilterKeyPrototype =
            subscribed.parameterFilterKeyPrototype) ∧
    ∀ final,
      (interactionSubscriptions { interactionClassHandle := 0, name := [] }).run
          { interactionClassHandle := 0, name := [] }
          [⟨1, ⟨.subscribedActive, [⟨7, [65]⟩]⟩, false⟩,
            ⟨1, ⟨.unsubscribed, [⟨7, [65]⟩]⟩, false⟩] = some final →
      final.getSubscriptionType 1 ≠ .unsubscribed := by
  have valid : (1 : ConnectHandle) ≠ invalidHandle := by decide
  have given : [(⟨7, [65]⟩ : ParameterValue)] ≠ [] := by decide
  obtain ⟨accepts, runs⟩ := filter_unsubscriptions_iff valid
  refine ⟨?_, ?_, ?_⟩
  · intro processed
    have entry := (accepts _ _ false given).1.mp processed
    exact absurd entry (by decide)
  · obtain ⟨subscribed, subscribes, entry, prototype⟩ : ∃ subscribed,
        (acceptChangeInteractionClassSubscription 1 ⟨.subscribedActive, [⟨7, [65]⟩]⟩
          false { interactionClassHandle := 0, name := [] }).map Prod.fst =
            some subscribed ∧
        (subscribed.parameterFiltersByConnect.find? 1).isSome = true ∧
        7 ∈ subscribed.parameterFilterKeyPrototype :=
      ⟨_, rfl, by decide, by decide⟩
    obtain ⟨result, accepted, changes⟩ :=
      (accepts subscribed _ false given).1.mpr entry
    refine ⟨subscribed, subscribes, result, accepted, changes, ?_⟩
    apply ((accepts subscribed _ false given).2 result accepted).mpr
    intro item member
    rw [List.mem_singleton.mp member]
    exact prototype
  · intro final ran unsubscribed
    have undone : UndoneBy [⟨.subscribedActive, [⟨7, [65]⟩]⟩]
        [⟨.unsubscribed, [⟨7, [65]⟩]⟩] :=
      ⟨by decide, by decide, by decide, List.Perm.refl _⟩
    have none := (runs _ final _ _ _ (by decide) (by decide) undone ran).mp
      unsubscribed
    cases none

/-- A connect without an entry unsubscribes a filter, and one that has subscribed with a
filter unsubscribes it again. -/
theorem filter_unsubscriptions_fail :
    (¬ ∀ (interactionClass : InteractionClass) (inputs : List SubscriptionInput)
        (before : FilteredInteractionClass) (connectHandle : ConnectHandle)
        (parameterFilterValues : List ParameterValue) (parentSubscribed : Bool),
      (interactionSubscriptions { toInteractionClass := interactionClass }).run
          { toInteractionClass := interactionClass } inputs = some before →
      parameterFilterValues ≠ [] →
      ∃ result,
        acceptChangeInteractionClassSubscription connectHandle
          ⟨.unsubscribed, parameterFilterValues⟩ parentSubscribed before =
            some result ∧
        ChangesOnly connectHandle before result.1) ∧
    ¬ ∀ (start final : FilteredInteractionClass) (connectHandle : ConnectHandle)
        (inputs : List SubscriptionInput)
        (subscriptions unsubscriptions :
          List ChangeInteractionClassSubscriptionMessage),
      start.getSubscriptionType connectHandle = .unsubscribed →
      messagesOf connectHandle inputs = subscriptions ++ unsubscriptions →
      UndoneBy subscriptions unsubscriptions →
      (interactionSubscriptions start).run start inputs = some final →
      final.getSubscriptionType connectHandle = .unsubscribed := by
  refine ⟨?_, ?_⟩
  · intro all
    obtain ⟨result, accepted, _⟩ := all { interactionClassHandle := 0, name := [] } []
      _ 1 [⟨7, [65]⟩] false rfl (by decide)
    cases accepted
  · intro all
    have unsubscribed := all { interactionClassHandle := 0, name := [] } _ 1
      [⟨1, ⟨.subscribedActive, [⟨7, [65]⟩]⟩, false⟩,
        ⟨1, ⟨.unsubscribed, [⟨7, [65]⟩]⟩, false⟩]
      [⟨.subscribedActive, [⟨7, [65]⟩]⟩] [⟨.unsubscribed, [⟨7, [65]⟩]⟩]
      (by decide) (by decide)
      ⟨by decide, by decide, by decide, List.Perm.refl _⟩ rfl
    exact absurd unsubscribed (by decide)

end ServerNode
end OpenRTI
