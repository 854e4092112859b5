import OpenRTI.DeclarationManagement.InteractionClassCalls
import OpenRTI.Foundation.TransitionSystem
import OpenRTI.ServerNode.HeldFilters

/-!
# What the server delivers of an interaction class

A federate subscribes a class at its server.  The reference is what its calls ask for:
nothing, everything, or what passes one of the filters that it has subscribed with and
not unsubscribed.  The server delivers this as long as a call that is not told finds it
done, and the filters of the server show what the calls have asked for.
-/

namespace OpenRTI
namespace DeclarationManagement

open Foundation
open ServerModel (ConnectHandle FilteredInteractionClass ParameterValue
  SubscriptionType VariableLengthDataTupleSet invalidHandle)
open ServerModel.FilteredInteractionClass
open ServerNode (ChangeInteractionClassSubscriptionMessage
  acceptChangeInteractionClassSubscription)

/-! ## Calls and what they ask for -/

inductive SubscriptionCall
  | subscribeInteractionClass (active : Bool)
  | subscribeInteractionClassWithFilter
      (filterValues : List ParameterValue)
      (active : Bool)
  | unsubscribeInteractionClass
  | unsubscribeInteractionClassWithFilter (filterValues : List ParameterValue)
  deriving DecidableEq

namespace SubscriptionCall

def filterValues : SubscriptionCall → List ParameterValue
  | subscribeInteractionClass _ => []
  | subscribeInteractionClassWithFilter filterValues _ => filterValues
  | unsubscribeInteractionClass => []
  | unsubscribeInteractionClassWithFilter filterValues => filterValues

def subscriptionType : SubscriptionCall → SubscriptionType
  | subscribeInteractionClass active =>
      if active then .subscribedActive else .subscribedPassive
  | subscribeInteractionClassWithFilter _ active =>
      if active then .subscribedActive else .subscribedPassive
  | unsubscribeInteractionClass => .unsubscribed
  | unsubscribeInteractionClassWithFilter _ => .unsubscribed

/-- What a call does to the class of the federate, and what is sent. -/
def perform : SubscriptionCall → InteractionClass →
    InteractionClass × Option ChangeInteractionClassSubscriptionMessage
  | subscribeInteractionClass active =>
      Ambassador.subscribeInteractionClass active
  | subscribeInteractionClassWithFilter filterValues active =>
      Ambassador.subscribeInteractionClassWithFilter filterValues active
  | unsubscribeInteractionClass => Ambassador.unsubscribeInteractionClass
  | unsubscribeInteractionClassWithFilter filterValues =>
      Ambassador.unsubscribeInteractionClassWithFilter filterValues

theorem perform_eq (call : SubscriptionCall) (interactionClass : InteractionClass) :
    call.perform interactionClass =
      Ambassador.changeInteractionClassSubscription call.subscriptionType
        call.filterValues interactionClass := by
  cases call with
  | subscribeInteractionClass active => rfl
  | subscribeInteractionClassWithFilter filterValues active => rfl
  | unsubscribeInteractionClass => rfl
  | unsubscribeInteractionClassWithFilter filterValues => rfl

end SubscriptionCall

/-- What the calls of a federate ask for. -/
inductive Requested
  | nothing
  | everything
  | filters (filters : Set Filter)

namespace Requested

open scoped Classical in
/-- No filters are left when there is none. -/
noncomputable def ofFilters (held : Set Filter) : Requested :=
  if held = ∅ then nothing else filters held

/-- A filter is added to those there are. -/
def subscribe (filter : Filter) : Requested → Requested
  | filters held => filters (insert filter held)
  | _ => filters {filter}

/-- A filter is removed if there are filters. -/
noncomputable def unsubscribe (filter : Filter) : Requested → Requested
  | filters held => ofFilters (held \ {filter})
  | other => other

/-- A call without values is one without a filter. -/
noncomputable def after (requested : Requested) (call : SubscriptionCall) : Requested :=
  if call.filterValues = [] then
    if call.subscriptionType = .unsubscribed then nothing else everything
  else if call.subscriptionType = .unsubscribed then
    requested.unsubscribe (asFilter call.filterValues)
  else requested.subscribe (asFilter call.filterValues)

/-- Whether values are asked for. -/
def AsksFor (parameterValues : List ParameterValue) : Requested → Prop
  | nothing => False
  | everything => True
  | filters held => ∃ filter ∈ held, filter.Passes (asFilter parameterValues)

end Requested

/-! ## The federate and its server -/

/-- A class of a federate and the class of the server it is connected to. -/
structure SubscribedInteractionClass where
  federate : InteractionClass
  server : FilteredInteractionClass

/-- A call, and whether the connect is subscribed to a base class when the server gets
the message. -/
structure SubscriptionCallInput where
  call : SubscriptionCall
  parentSubscribed : Bool := false
  deriving DecidableEq

/-- The calls of a federate, of which the server gets the messages in order.  The class
of the server is without filters first. -/
def subscriptionCalls
    (connectHandle : ConnectHandle)
    (interactionClass : ServerModel.InteractionClass) :
    TransitionSystem SubscribedInteractionClass SubscriptionCallInput where
  initial := ⟨{}, { toInteractionClass := interactionClass }⟩
  next state input :=
    match input.call.perform state.federate with
    | (federate, none) => some { state with federate := federate }
    | (federate, some message) =>
        (acceptChangeInteractionClassSubscription connectHandle message
          input.parentSubscribed state.server).map fun result => ⟨federate, result.1⟩

/-- Whether the server would deliver an interaction to the connect. -/
def Delivers
    (connectHandle : ConnectHandle)
    (parameterValues : List ParameterValue)
    (server : FilteredInteractionClass) : Prop :=
  server.getSubscriptionType connectHandle ≠ .unsubscribed ∧
    server.isMatching connectHandle parameterValues = true

/-- The server delivers what is asked for. -/
def DeliversRequested
    (connectHandle : ConnectHandle)
    (server : FilteredInteractionClass)
    (requested : Requested) : Prop :=
  ∀ parameterValues,
    Delivers connectHandle parameterValues server ↔ requested.AsksFor parameterValues

/-! ## The condition -/

/-- The connect is subscribed and has no filter, or one without values. -/
def ServesAll (connectHandle : ConnectHandle) (server : FilteredInteractionClass) :
    Prop :=
  server.getSubscriptionType connectHandle ≠ .unsubscribed ∧
    (server.getParameterFilters connectHandle = [] ∨
      server.holdsFilter connectHandle [] = true)

/-- A row of the connect can be removed, and it is not the last one. -/
def LeavesFilter
    (connectHandle : ConnectHandle)
    (filterValues : List ParameterValue)
    (server : FilteredInteractionClass) : Prop :=
  ∃ set, server.parameterFiltersByConnect.find? connectHandle = some set ∧
    server.Knows filterValues ∧
    Removable set (server.parameterFilterKeyPrototype.map (asFilter filterValues)) ∧
    ∃ row ∈ set.impl,
      row ≠ server.parameterFilterKeyPrototype.map (asFilter filterValues)

/-- A call that is not told finds the server as the call asks for.  A filter is added
where there is none without values, and one that is removed is not the last one. -/
def KeepsAgreement
    (connectHandle : ConnectHandle)
    (state : SubscribedInteractionClass)
    (call : SubscriptionCall) : Prop :=
  if call.filterValues = [] then
    if call.subscriptionType = .unsubscribed then
      state.federate.subscriptionType ≠ .unsubscribed ∨
        state.server.getSubscriptionType connectHandle = .unsubscribed
    else
      state.federate.subscriptionType ≠ call.subscriptionType ∨
        ServesAll connectHandle state.server
  else if call.subscriptionType = .unsubscribed then
    if state.federate.hasFilter call.filterValues then
      LeavesFilter connectHandle call.filterValues state.server
    else
      state.server.holdsFilter connectHandle call.filterValues = false ∨
        state.server.holdsFilter connectHandle [] = true
  else
    state.server.holdsFilter connectHandle [] = false ∧
      (state.federate.hasFilter call.filterValues = true →
        state.server.holdsFilter connectHandle call.filterValues = true)

/-! ## What is kept -/

variable {connectHandle : ConnectHandle} {server : FilteredInteractionClass}
variable {state : SubscribedInteractionClass} {requested : Requested}
variable {held : Set Filter} {filterValues : List ParameterValue}
variable {parentSubscribed : Bool}

/-- The filters of one connect, where the others have none. -/
def heldBy (connectHandle : ConnectHandle) (held : Set Filter) :
    ConnectHandle → Set Filter :=
  Function.update (fun _ => ∅) connectHandle held

@[simp] theorem heldBy_self (connectHandle : ConnectHandle) (held : Set Filter) :
    heldBy connectHandle held connectHandle = held :=
  Function.update_self _ _ _

@[simp] theorem update_heldBy (connectHandle : ConnectHandle) (held filters : Set Filter) :
    Function.update (heldBy connectHandle held) connectHandle filters =
      heldBy connectHandle filters :=
  Function.update_idem _ _ _

/-- The subscription and the filters that the server has for what is asked for. -/
def Requested.ServedWith
    (connectHandle : ConnectHandle)
    (server : FilteredInteractionClass)
    (held : Set Filter) : Requested → Prop
  | nothing =>
      server.getSubscriptionType connectHandle = .unsubscribed ∧
        server.parameterFiltersByConnect.find? connectHandle = none
  | everything =>
      server.getSubscriptionType connectHandle ≠ .unsubscribed ∧
        (held = ∅ ∨ asFilter [] ∈ held)
  | filters requested =>
      server.getSubscriptionType connectHandle ≠ .unsubscribed ∧
        held = requested ∧ requested ≠ ∅ ∧ asFilter [] ∉ requested

/-- The server has what is asked for, in the filters that it keeps for the connect. -/
structure Serves
    (connectHandle : ConnectHandle)
    (server : FilteredInteractionClass)
    (requested : Requested)
    (held : Set Filter) : Prop where
  passive : server.publishSubscribe.activeSubscribedConnects.contains connectHandle =
    false
  keeps : server.Keeps (heldBy connectHandle held)
  served : requested.ServedWith connectHandle server held

theorem passes_without_values (values : Filter) : (asFilter []).Passes values := by
  intro handle given
  exact absurd rfl given

section

variable (serves : Serves connectHandle server requested held)
include serves

theorem Serves.isMatching_iff
    (parameterValues : List ParameterValue) :
    server.isMatching connectHandle parameterValues = true ↔
      held = ∅ ∨ ∃ filter ∈ held, filter.Passes (asFilter parameterValues) := by
  have matching := serves.keeps.matchesHeld connectHandle parameterValues
  rw [heldBy_self] at matching
  exact matching

theorem Serves.delivers :
    DeliversRequested connectHandle server requested := by
  intro parameterValues
  rw [Delivers, serves.isMatching_iff]
  have served := serves.served
  cases requested with
  | nothing => exact iff_of_false (fun both => both.1 served.1) id
  | everything =>
      refine iff_of_true ⟨served.1, ?_⟩ trivial
      apply served.2.imp_right
      intro member
      exact ⟨_, member, passes_without_values _⟩
  | filters filters =>
      obtain ⟨subscribed, rfl, some, _⟩ := served
      rw [or_iff_right some]
      exact and_iff_right subscribed

/-! ## Calls without values -/

theorem Serves.eq_nothing
    (unsubscribed : server.getSubscriptionType connectHandle = .unsubscribed) :
    requested = .nothing := by
  have served := serves.served
  cases requested with
  | nothing => rfl
  | everything => exact absurd unsubscribed served.1
  | filters filters => exact absurd unsubscribed served.1

theorem Serves.everything
    (all : ServesAll connectHandle server) :
    Serves connectHandle server .everything held := by
  refine ⟨serves.passive, serves.keeps, all.1, ?_⟩
  apply all.2.imp
  · intro none
    have empty := (serves.keeps.getParameterFilters_eq_nil_iff connectHandle).mp none
    rwa [heldBy_self] at empty
  · intro wildcard
    have member := (serves.keeps.holdsFilter_iff connectHandle (by
      intro item absurdity
      cases absurdity)).mp wildcard
    rwa [heldBy_self] at member

end

/-- What the server has after a message. -/
def ServesAfter
    (connectHandle : ConnectHandle)
    (message : ChangeInteractionClassSubscriptionMessage)
    (parentSubscribed : Bool)
    (server : FilteredInteractionClass)
    (requested : Requested) : Prop :=
  ∃ result held,
    acceptChangeInteractionClassSubscription connectHandle message parentSubscribed
        server = some result ∧
      Serves connectHandle result.1 requested held

theorem Serves.accept_passive
    {message : ChangeInteractionClassSubscriptionMessage}
    {result : FilteredInteractionClass × ServerModel.ConnectHandleSet}
    (serves : Serves connectHandle server requested held)
    (accepted : acceptChangeInteractionClassSubscription connectHandle message
      parentSubscribed server = some result) :
    result.1.publishSubscribe.activeSubscribedConnects.contains connectHandle =
      false := by
  rw [ServerNode.activeSubscribedConnects_accept accepted]
  exact serves.passive

theorem Serves.accept_unsubscribe
    (serves : Serves connectHandle server requested held)
    (valid : connectHandle ≠ invalidHandle) :
    ServesAfter connectHandle ⟨.unsubscribed, []⟩ parentSubscribed server .nothing := by
  obtain ⟨result, accepted, unsubscribed, absent, kept⟩ :=
    @ServerNode.accept_unsubscribe _ _ _ parentSubscribed serves.keeps valid
      serves.passive
  rw [update_heldBy] at kept
  exact ⟨result, ∅, accepted, serves.accept_passive accepted, kept, unsubscribed, absent⟩

theorem Serves.accept_subscribe
    {subscriptionType : SubscriptionType}
    (serves : Serves connectHandle server requested held)
    (valid : connectHandle ≠ invalidHandle)
    (subscribes : subscriptionType ≠ .unsubscribed) :
    ServesAfter connectHandle ⟨subscriptionType, []⟩ parentSubscribed server
      .everything := by
  obtain ⟨result, accepted, subscribed, filters, kept, all⟩ :=
    @ServerNode.accept_subscribe _ _ _ parentSubscribed _ serves.keeps valid subscribes
  rw [update_heldBy] at kept
  exact ⟨result, filters, accepted, serves.accept_passive accepted, kept, subscribed, all⟩

/-! ## Calls with values -/

section

variable (serves : Serves connectHandle server requested held)
include serves

theorem Serves.holdsFilter_iff
    (gives : GivesValues filterValues) :
    server.holdsFilter connectHandle filterValues = true ↔
      asFilter filterValues ∈ held := by
  have holds := serves.keeps.holdsFilter_iff connectHandle gives
  rwa [heldBy_self] at holds

theorem Serves.wildcard_iff :
    server.holdsFilter connectHandle [] = true ↔ asFilter [] ∈ held := by
  apply serves.holdsFilter_iff
  intro item absurdity
  cases absurdity

/-- Without an entry there are no filters. -/
theorem Serves.held_eq_empty
    (absent : server.parameterFiltersByConnect.find? connectHandle = none) :
    held = ∅ := by
  have empty := serves.keeps.absent connectHandle absent
  rwa [heldBy_self] at empty

/-- What is asked for with one more filter, where the server has no filter without
values. -/
theorem Serves.subscribe_servedWith
    {after : FilteredInteractionClass}
    (subscribed : after.getSubscriptionType connectHandle ≠ .unsubscribed)
    (narrow : asFilter [] ∉ held)
    (given : filterValues ≠ [])
    (gives : GivesValues filterValues) :
    (requested.subscribe (asFilter filterValues)).ServedWith connectHandle after
      (insert (asFilter filterValues) held) := by
  have served := serves.served
  have proper := gives.asFilter_ne_nil given
  have first : held = ∅ →
      (Requested.filters {asFilter filterValues}).ServedWith connectHandle after
        (insert (asFilter filterValues) held) := by
    intro empty
    refine ⟨subscribed, ?_, Set.singleton_ne_empty _, ?_⟩
    · rw [empty]
      exact insert_empty_eq _
    · exact fun same => proper (Set.mem_singleton_iff.mp same).symm
  cases requested with
  | nothing => exact first (serves.held_eq_empty served.2)
  | everything => exact first (served.2.resolve_right narrow)
  | filters filters =>
      obtain ⟨_, rfl, _, absent⟩ := served
      refine ⟨subscribed, rfl, (Set.insert_nonempty _ _).ne_empty, ?_⟩
      rw [Set.mem_insert_iff, not_or]
      exact ⟨proper.symm, absent⟩

end

theorem Serves.accept_subscribeWithFilter
    {subscriptionType : SubscriptionType}
    (serves : Serves connectHandle server requested held)
    (valid : connectHandle ≠ invalidHandle)
    (subscribes : subscriptionType ≠ .unsubscribed)
    (given : filterValues ≠ [])
    (gives : GivesValues filterValues)
    (narrow : server.holdsFilter connectHandle [] = false) :
    ServesAfter connectHandle ⟨subscriptionType, filterValues⟩ parentSubscribed server
      (requested.subscribe (asFilter filterValues)) := by
  obtain ⟨result, accepted, subscribed, kept⟩ :=
    @ServerNode.accept_subscribeWithFilter _ _ _ _ parentSubscribed _ serves.keeps valid
      subscribes given (Or.inr (Or.inr serves.keeps.noneBut))
  rw [heldBy_self, update_heldBy] at kept
  refine ⟨result, _, accepted, serves.accept_passive accepted, kept, ?_⟩
  have without : asFilter [] ∉ held := by
    rw [← serves.wildcard_iff, narrow]
    exact Bool.false_ne_true
  exact serves.subscribe_servedWith subscribed without given gives

/-- A filter that is there is subscribed with again. -/
theorem Serves.subscribe_held
    (serves : Serves connectHandle server requested held)
    (given : filterValues ≠ [])
    (gives : GivesValues filterValues)
    (narrow : server.holdsFilter connectHandle [] = false)
    (present : server.holdsFilter connectHandle filterValues = true) :
    Serves connectHandle server (requested.subscribe (asFilter filterValues)) held := by
  have member := (serves.holdsFilter_iff gives).mp present
  have without : asFilter [] ∉ held := by
    rw [← serves.wildcard_iff, narrow]
    exact Bool.false_ne_true
  have subscribed : server.getSubscriptionType connectHandle ≠ .unsubscribed := by
    have served := serves.served
    cases requested with
    | nothing =>
        rw [serves.held_eq_empty served.2] at member
        exact absurd member (Set.notMem_empty _)
    | everything => exact served.1
    | filters filters => exact served.1
  refine ⟨serves.passive, serves.keeps, ?_⟩
  have served := serves.subscribe_servedWith subscribed without given gives
  rwa [Set.insert_eq_of_mem member] at served

/-- What is asked for with one filter less, where the server keeps another one. -/
theorem Serves.unsubscribe_servedWith
    {after : FilteredInteractionClass}
    (serves : Serves connectHandle server requested held)
    (subscribed : after.getSubscriptionType connectHandle =
      server.getSubscriptionType connectHandle)
    (left : held \ {asFilter filterValues} ≠ ∅)
    (given : filterValues ≠ [])
    (gives : GivesValues filterValues) :
    (requested.unsubscribe (asFilter filterValues)).ServedWith connectHandle after
      (held \ {asFilter filterValues}) := by
  have served := serves.served
  cases requested with
  | nothing =>
      apply absurd _ left
      rw [serves.held_eq_empty served.2]
      exact Set.empty_sdiff _
  | everything =>
      refine ⟨by rw [subscribed]; exact served.1, Or.inr ⟨?_, ?_⟩⟩
      · apply served.2.resolve_left
        intro empty
        apply left
        rw [empty]
        exact Set.empty_sdiff _
      · exact fun same => gives.asFilter_ne_nil given same.symm
  | filters filters =>
      obtain ⟨before, rfl, _, absent⟩ := served
      rw [Requested.unsubscribe, Requested.ofFilters, if_neg left]
      exact ⟨by rw [subscribed]; exact before, rfl, left, fun member => absent member.1⟩

theorem Serves.accept_unsubscribeWithFilter
    (serves : Serves connectHandle server requested held)
    (valid : connectHandle ≠ invalidHandle)
    (given : filterValues ≠ [])
    (gives : GivesValues filterValues)
    (leaves : LeavesFilter connectHandle filterValues server) :
    ServesAfter connectHandle ⟨.unsubscribed, filterValues⟩ parentSubscribed server
      (requested.unsubscribe (asFilter filterValues)) := by
  obtain ⟨set, found, known, removable, row, inside, different⟩ := leaves
  obtain ⟨result, accepted, subscribed, kept⟩ :=
    @ServerNode.accept_unsubscribeWithFilter _ _ _ _ parentSubscribed _ serves.keeps
      valid given found (Or.inr ⟨known, removable⟩)
  rw [heldBy_self, update_heldBy] at kept
  refine ⟨result, _, accepted, serves.accept_passive accepted, kept, ?_⟩
  have holds := serves.keeps.present connectHandle set found
  rw [heldBy_self] at holds
  obtain ⟨filter, member, rfl⟩ := (holds.rows row).mp inside
  apply serves.unsubscribe_servedWith subscribed _ given gives
  apply Set.Nonempty.ne_empty
  refine ⟨filter, member, ?_⟩
  rintro rfl
  exact different rfl

/-- A filter that is not there is unsubscribed, or one of a connect that gets
everything. -/
theorem Serves.unsubscribe_missing
    (serves : Serves connectHandle server requested held)
    (gives : GivesValues filterValues)
    (missing : server.holdsFilter connectHandle filterValues = false ∨
      server.holdsFilter connectHandle [] = true) :
    Serves connectHandle server (requested.unsubscribe (asFilter filterValues))
      held := by
  refine ⟨serves.passive, serves.keeps, ?_⟩
  have served := serves.served
  cases requested with
  | nothing => exact served
  | everything => exact served
  | filters filters =>
      obtain ⟨subscribed, rfl, some, absent⟩ := served
      have without : asFilter filterValues ∉ held := by
        rw [← serves.holdsFilter_iff gives]
        obtain missing | wildcard := missing
        · exact ne_true_of_eq_false missing
        · exact absurd (serves.wildcard_iff.mp wildcard) absent
      have same := Set.sdiff_singleton_eq_self without
      rw [Requested.unsubscribe, Requested.ofFilters, same, if_neg some]
      exact ⟨subscribed, rfl, some, absent⟩

/-! ## Steps -/

/-- Whether a call is told to the server. -/
def InteractionClass.tells (call : SubscriptionCall) (self : InteractionClass) : Bool :=
  (self.setSubscriptionType call.subscriptionType call.filterValues).2

theorem next_told
    {input : SubscriptionCallInput}
    (told : state.federate.tells input.call = true)
    (after : ServesAfter connectHandle ⟨input.call.subscriptionType,
      input.call.filterValues⟩ input.parentSubscribed state.server requested)
    (interactionClass : ServerModel.InteractionClass) :
    ∃ final held,
      (subscriptionCalls connectHandle interactionClass).next state input = some final ∧
      Serves connectHandle final.server requested held := by
  obtain ⟨result, held, accepted, serves⟩ := after
  refine ⟨⟨(state.federate.setSubscriptionType input.call.subscriptionType
    input.call.filterValues).1, result.1⟩, held, ?_, serves⟩
  rw [InteractionClass.tells] at told
  simp only [subscriptionCalls, SubscriptionCall.perform_eq,
    Ambassador.changeInteractionClassSubscription, told, if_true, accepted,
    Option.map_some]

theorem next_untold
    {input : SubscriptionCallInput}
    (untold : state.federate.tells input.call = false)
    (serves : Serves connectHandle state.server requested held)
    (interactionClass : ServerModel.InteractionClass) :
    ∃ final held,
      (subscriptionCalls connectHandle interactionClass).next state input = some final ∧
      Serves connectHandle final.server requested held := by
  refine ⟨⟨(state.federate.setSubscriptionType input.call.subscriptionType
    input.call.filterValues).1, state.server⟩, held, ?_, serves⟩
  rw [InteractionClass.tells] at untold
  simp only [subscriptionCalls, SubscriptionCall.perform_eq,
    Ambassador.changeInteractionClassSubscription, untold, if_false,
    Bool.false_eq_true]

theorem tells_iff_of_eq_nil
    {call : SubscriptionCall} {interactionClass : InteractionClass}
    (none : call.filterValues = []) :
    interactionClass.tells call =
      decide (interactionClass.subscriptionType ≠ call.subscriptionType) := by
  rw [InteractionClass.tells, none, InteractionClass.setSubscriptionType,
    if_neg (by simp)]
  simp [PublishSubscribe.setSubscriptionType, eq_comm]

/-- A call that meets the condition leaves the server with what is asked for. -/
theorem Serves.next
    {input : SubscriptionCallInput}
    (serves : Serves connectHandle state.server requested held)
    (valid : connectHandle ≠ invalidHandle)
    (gives : GivesValues input.call.filterValues)
    (keeps : KeepsAgreement connectHandle state input.call)
    (interactionClass : ServerModel.InteractionClass) :
    ∃ final held,
      (subscriptionCalls connectHandle interactionClass).next state input = some final ∧
      Serves connectHandle final.server (requested.after input.call) held := by
  rw [Requested.after]
  rw [KeepsAgreement] at keeps
  by_cases none : input.call.filterValues = []
  · have tells := @tells_iff_of_eq_nil _ state.federate none
    rw [if_pos none] at keeps ⊢
    by_cases unsubscribes : input.call.subscriptionType = .unsubscribed
    · rw [if_pos unsubscribes] at keeps ⊢
      by_cases told : state.federate.tells input.call = true
      · apply next_told told
        rw [none, unsubscribes]
        exact serves.accept_unsubscribe valid
      · have untold := Bool.eq_false_of_not_eq_true told
        rw [untold, unsubscribes] at tells
        have same := keeps.resolve_left (of_decide_eq_false tells.symm)
        rw [serves.eq_nothing same] at serves
        exact next_untold untold serves interactionClass
    · rw [if_neg unsubscribes] at keeps ⊢
      by_cases told : state.federate.tells input.call = true
      · apply next_told told
        rw [none]
        exact serves.accept_subscribe valid unsubscribes
      · have untold := Bool.eq_false_of_not_eq_true told
        rw [untold] at tells
        have all := keeps.resolve_left (of_decide_eq_false tells.symm)
        exact next_untold untold (serves.everything all) interactionClass
  · have tells := state.federate.setSubscriptionType_changed none
      input.call.subscriptionType
    rw [← InteractionClass.tells] at tells
    rw [if_neg none] at keeps ⊢
    by_cases unsubscribes : input.call.subscriptionType = .unsubscribed
    · rw [if_pos unsubscribes] at keeps tells ⊢
      cases present : state.federate.hasFilter input.call.filterValues with
      | true =>
          rw [if_pos present] at keeps
          rw [present] at tells
          apply next_told tells
          rw [unsubscribes]
          exact serves.accept_unsubscribeWithFilter valid none gives keeps
      | false =>
          rw [if_neg (ne_true_of_eq_false present)] at keeps
          rw [present] at tells
          exact next_untold tells (serves.unsubscribe_missing gives keeps) interactionClass
    · rw [if_neg unsubscribes] at keeps tells ⊢
      cases present : state.federate.hasFilter input.call.filterValues with
      | true =>
          rw [present] at tells
          apply next_untold tells
          exact serves.subscribe_held none gives keeps.1 (keeps.2 present)
      | false =>
          rw [present] at tells
          apply next_told tells
          exact serves.accept_subscribeWithFilter valid unsubscribes none gives keeps.1

/-! ## Runs -/

theorem serves_initial
    {interactionClass : ServerModel.InteractionClass}
    (unsubscribed : interactionClass.publishSubscribe.getSubscriptionType connectHandle =
      .unsubscribed) :
    Serves connectHandle (subscriptionCalls connectHandle interactionClass).initial.server
      .nothing ∅ := by
  have empty : heldBy connectHandle ∅ = fun _ => ∅ := Function.update_eq_self _ _
  have passive : interactionClass.publishSubscribe.activeSubscribedConnects.contains
      connectHandle = false := by
    rw [ServerModel.PublishSubscribe.getSubscriptionType] at unsubscribed
    by_contra active
    rw [if_pos (Bool.eq_true_of_not_eq_false active)] at unsubscribed
    cases unsubscribed
  refine ⟨passive, ?_, unsubscribed, rfl⟩
  · rw [empty]
    exact keeps_initial interactionClass

/-- In a run whose calls all meet the condition, the server delivers in each state
exactly what the calls so far ask for. -/
theorem run_deliversRequested
    (connectHandle : ConnectHandle)
    (valid : connectHandle ≠ invalidHandle)
    (interactionClass : ServerModel.InteractionClass)
    (unsubscribed : interactionClass.publishSubscribe.getSubscriptionType connectHandle =
      .unsubscribed)
    (inputs : List SubscriptionCallInput)
    (gives : ∀ input ∈ inputs, GivesValues input.call.filterValues)
    (admitted : ∀ past input before,
      past ++ [input] <+: inputs →
      (subscriptionCalls connectHandle interactionClass).run
        (subscriptionCalls connectHandle interactionClass).initial past = some before →
      KeepsAgreement connectHandle before input.call) :
    ∀ past, past <+: inputs →
      ∃ state,
        (subscriptionCalls connectHandle interactionClass).run
          (subscriptionCalls connectHandle interactionClass).initial past = some state ∧
        DeliversRequested connectHandle state.server
          ((past.map SubscriptionCallInput.call).foldl Requested.after .nothing) := by
  intro past begins
  have kept := @TransitionSystem.run_kept _ _ _
    (subscriptionCalls connectHandle interactionClass)
    (fun requested input => requested.after input.call) .nothing
    (fun state requested => ∃ final held, state = some final ∧
      Serves connectHandle final.server requested held)
    (fun state input =>
      GivesValues input.call.filterValues ∧ KeepsAgreement connectHandle state input.call)
    ⟨_, ∅, rfl, serves_initial unsubscribed⟩
    (by
      rintro _ requested input ⟨before, held, rfl, serves⟩ admits
      obtain ⟨gives, keeps⟩ := admits before rfl
      exact serves.next valid gives keeps _)
    past
    (by
      intro earlier input before inside ran
      have member := (inside.trans begins).subset
        (List.mem_append_right earlier (List.mem_singleton_self input))
      exact ⟨gives input member, admitted earlier input before (inside.trans begins) ran⟩)
  obtain ⟨state, held, ran, serves⟩ := kept
  refine ⟨state, ran, ?_⟩
  rw [List.foldl_map]
  exact serves.delivers

/-- Two filters, of which the first one is unsubscribed. -/
theorem run_deliversRequested_two_filters :
    ∃ state,
      (subscriptionCalls 1 { interactionClassHandle := 0, name := [] }).run
        (subscriptionCalls 1 { interactionClassHandle := 0, name := [] }).initial
        [⟨.subscribeInteractionClassWithFilter [⟨7, [65]⟩] true, false⟩,
          ⟨.subscribeInteractionClassWithFilter [⟨7, [66]⟩] true, false⟩,
          ⟨.unsubscribeInteractionClassWithFilter [⟨7, [65]⟩], false⟩] = some state ∧
      DeliversRequested 1 state.server
        ([.subscribeInteractionClassWithFilter [⟨7, [65]⟩] true,
          .subscribeInteractionClassWithFilter [⟨7, [66]⟩] true,
          .unsubscribeInteractionClassWithFilter [⟨7, [65]⟩]].foldl Requested.after
            .nothing) := by
  refine run_deliversRequested 1 (by decide) _ rfl
    [⟨.subscribeInteractionClassWithFilter [⟨7, [65]⟩] true, false⟩,
      ⟨.subscribeInteractionClassWithFilter [⟨7, [66]⟩] true, false⟩,
      ⟨.unsubscribeInteractionClassWithFilter [⟨7, [65]⟩], false⟩] ?_ ?_ _
    List.prefix_rfl
  · intro input member item inside
    simp only [List.mem_cons, List.not_mem_nil, or_false] at member
    obtain rfl | rfl | rfl := member
    · cases List.mem_singleton.mp inside
      decide
    · cases List.mem_singleton.mp inside
      decide
    · cases List.mem_singleton.mp inside
      decide
  · intro past input before begins ran
    obtain ⟨rest, split⟩ := begins
    match past with
    | [] =>
        cases split
        cases ran
        exact ⟨rfl, by decide⟩
    | [first] =>
        cases split
        cases ran
        exact ⟨by decide, by decide⟩
    | [first, second] =>
        cases split
        cases ran
        exact ⟨_, rfl, rfl, ⟨by decide, by decide⟩, [[66]], by decide, by decide⟩
    | first :: second :: third :: more =>
        have length := congrArg List.length split
        simp at length

/-- A federate subscribes with a filter and then without. -/
theorem run_deliversRequested_fails :
    ¬ ∀ (connectHandle : ConnectHandle),
      connectHandle ≠ invalidHandle →
      ∀ interactionClass : ServerModel.InteractionClass,
        interactionClass.publishSubscribe.getSubscriptionType connectHandle =
          .unsubscribed →
      ∀ inputs : List SubscriptionCallInput,
        (∀ input ∈ inputs, GivesValues input.call.filterValues) →
      ∀ past, past <+: inputs →
        ∃ state,
          (subscriptionCalls connectHandle interactionClass).run
            (subscriptionCalls connectHandle interactionClass).initial past =
              some state ∧
          DeliversRequested connectHandle state.server
            ((past.map SubscriptionCallInput.call).foldl Requested.after .nothing) := by
  intro all
  obtain ⟨state, ran, delivers⟩ := all 1 (by decide)
    { interactionClassHandle := 0, name := [] } rfl
    [⟨.subscribeInteractionClassWithFilter [⟨7, [65]⟩] true, false⟩,
      ⟨.subscribeInteractionClass true, false⟩]
    (by
      intro input member item inside
      simp only [List.mem_cons, List.not_mem_nil, or_false] at member
      obtain rfl | rfl := member
      · cases List.mem_singleton.mp inside
        decide
      · cases inside)
    _ List.prefix_rfl
  cases ran
  have delivered := (delivers [⟨7, [66]⟩]).mpr (by
    simp [Requested.after, SubscriptionCall.filterValues,
      SubscriptionCall.subscriptionType, Requested.AsksFor])
  exact absurd delivered.2 (by decide)

end DeclarationManagement
end OpenRTI
