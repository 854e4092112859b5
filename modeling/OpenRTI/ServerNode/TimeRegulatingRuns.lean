import OpenRTI.ServerNode.TimeRegulatingHandlers

/-!
# Time regulating federates over runs

For each federate, the messages from the parent lead from what the server node
knows of it to what the root knows, and the messages to the parent lead on from
there.  A request to become time regulating is only on its way while the
federate has its connect, unless the federate loses the connect meanwhile.
-/

namespace OpenRTI
namespace ServerNode

open Foundation
open Foundation.FailingState
open ServerModel

/-! ## What messages say about a federate -/

/-- Where a federate is, as one of the two sides knows it.  It is announced
while the answer to its request to join is on its way. -/
inductive Place
  | unknown
  | announced
  | lost
  | connected
  | elsewhere
  deriving DecidableEq

namespace Place

/-- Whether the root reaches the federate through the server node. -/
def below : Place → Option Bool
  | .unknown => none
  | .announced => some true
  | .lost => some true
  | .connected => some true
  | .elsewhere => some false

/-- The place once the connect is lost. -/
def lose : Place → Place
  | .connected => .lost
  | place => place

/-- Whether a place is one of a federate that has joined and been told so. -/
def isSettled : Place → Bool
  | .lost => true
  | .connected => true
  | .elsewhere => true
  | _ => false

@[simp] theorem isSettled_lose (place : Place) :
    place.lose.isSettled = place.isSettled := by
  cases place <;> rfl

@[simp] theorem below_lose (place : Place) :
    place.lose.below = place.below := by
  cases place <;> rfl

end Place

/-- What a message from the parent makes of the place of a federate, where it
may be sent. -/
def hears
    (federateHandle : FederateHandle)
    (place : Place) : RegulationMessage → Option Place
  | .joinFederationExecutionResponse other =>
      if other = federateHandle then
        if place = .unknown then some .announced else none
      else some place
  | .joinFederateNotify other =>
      if other = federateHandle then
        if place = .unknown then some .elsewhere else none
      else some place
  | .resignFederateNotify other =>
      if other = federateHandle then
        if place.isSettled then some .unknown else none
      else some place
  | .enableTimeRegulationRequest other _ _ =>
      if other = federateHandle then
        if place = .connected ∨ place = .elsewhere then some place else none
      else some place
  | _ => some place

/-- What a message to the parent makes of the place of a federate, where it may
be sent. -/
def tells
    (federateHandle : FederateHandle)
    (place : Place) : RegulationMessage → Option Place
  | .enableTimeRegulationRequest other _ _ =>
      if other = federateHandle then
        if place = .connected then some place else none
      else some place
  | .resignFederationExecutionRequest other =>
      if other = federateHandle then
        if place = .connected ∨ place = .lost then some .unknown else none
      else some place
  | _ => some place

variable {message : RegulationMessage} {sent : List RegulationMessage}

section Places

variable
  {federateHandle : FederateHandle}
  {place known : Place}
  {messages : List RegulationMessage}

/-- Nothing is said about a federate that has just been announced. -/
theorem hears_of_announced
    (heard : messages.foldlM (hears federateHandle) .announced = some known) :
    known = .announced ∧
      ∀ place, messages.foldlM (hears federateHandle) place = some place := by
  induction messages with
  | nil =>
      cases heard
      exact ⟨rfl, fun _ => rfl⟩
  | cons message rest ih =>
      rw [List.foldlM_cons] at heard
      have silent : ∀ place, hears federateHandle place message = some place := by
        intro place
        cases message <;> simp only [hears] at heard ⊢ <;> split at heard <;>
          simp_all [Place.isSettled]
      rw [silent] at heard
      obtain ⟨same, unchanged⟩ := ih heard
      refine ⟨same, fun place => ?_⟩
      rw [List.foldlM_cons, silent]
      exact unchanged place

/-- A federate that has not joined through the node sends nothing. -/
theorem tells_of_apart
    (apart : place ≠ .connected ∧ place ≠ .lost)
    (told : messages.foldlM (tells federateHandle) place = some known) :
    known = place ∧
      ∀ place, messages.foldlM (tells federateHandle) place = some place := by
  induction messages with
  | nil =>
      cases told
      exact ⟨rfl, fun _ => rfl⟩
  | cons message rest ih =>
      rw [List.foldlM_cons] at told
      have silent : ∀ place, tells federateHandle place message = some place := by
        intro place
        cases message <;> simp only [tells] at told ⊢ <;> split at told <;>
          simp_all
      rw [silent] at told
      obtain ⟨same, unchanged⟩ := ih told
      refine ⟨same, fun place => ?_⟩
      rw [List.foldlM_cons, silent]
      exact unchanged place

variable {between : Place}

theorem hears_lose_message
    (quiet : RegulationPath.isEnableOf federateHandle message = false)
    (heard : hears federateHandle place message = some between) :
    hears federateHandle place.lose message = some between.lose := by
  cases message <;>
    simp only [hears, RegulationPath.isEnableOf, Option.some.injEq] at * <;>
    grind [Place.lose, Place.isSettled_lose]

theorem tells_lose_message
    (quiet : RegulationPath.isEnableOf federateHandle message = false)
    (told : tells federateHandle place message = some between) :
    tells federateHandle place.lose message = some between.lose := by
  cases message <;>
    simp only [tells, RegulationPath.isEnableOf, Option.some.injEq] at * <;>
    grind [Place.lose]

section

variable (quiet : messages.any (RegulationPath.isEnableOf federateHandle) = false)
include quiet

/-- A federate may lose its connect while its request is not on its way. -/
theorem hears_lose
    (heard : messages.foldlM (hears federateHandle) place = some known) :
    messages.foldlM (hears federateHandle) place.lose = some known.lose := by
  induction messages generalizing place with
  | nil =>
      cases heard
      rfl
  | cons message rest ih =>
      rw [List.any_cons, Bool.or_eq_false_iff] at quiet
      rw [List.foldlM_cons] at heard ⊢
      obtain ⟨between, first, later⟩ := Option.bind_eq_some_iff.mp heard
      rw [hears_lose_message quiet.1 first]
      exact ih quiet.2 later

theorem tells_lose
    (told : messages.foldlM (tells federateHandle) place = some known) :
    messages.foldlM (tells federateHandle) place.lose = some known.lose := by
  induction messages generalizing place with
  | nil =>
      cases told
      rfl
  | cons message rest ih =>
      rw [List.any_cons, Bool.or_eq_false_iff] at quiet
      rw [List.foldlM_cons] at told ⊢
      obtain ⟨between, first, later⟩ := Option.bind_eq_some_iff.mp told
      rw [tells_lose_message quiet.1 first]
      exact ih quiet.2 later

end

theorem tells_of_resigns
    (kinds : ∀ message ∈ sent, ∃ federateHandle,
      message = .disableTimeRegulationRequest federateHandle ∨
        message = .resignFederationExecutionRequest federateHandle)
    (place : Place) :
    (sent.count (.resignFederationExecutionRequest federateHandle) = 0 →
      sent.foldlM (tells federateHandle) place = some place) ∧
      (sent.count (.resignFederationExecutionRequest federateHandle) = 1 →
        place = .lost →
          sent.foldlM (tells federateHandle) place = some .unknown) := by
  induction sent generalizing place with
  | nil => exact ⟨fun _ => rfl, fun once => by simp at once⟩
  | cons message rest ih =>
      have later := ih fun message member =>
        kinds message (List.mem_cons_of_mem _ member)
      obtain ⟨other, rfl | rfl⟩ := kinds message List.mem_cons_self
      · simpa [tells] using later place
      · by_cases same : other = federateHandle
        · subst same
          rw [List.count_cons_self]
          constructor
          · intro none
            omega
          · intro once lost
            rw [List.foldlM_cons, lost]
            simpa [tells] using (later .unknown).1 (by omega)
        · simpa [tells, same] using later place

end Places

variable {parentConnectHandle : ConnectHandle}
variable {status : Option (Option ConnectHandle × Bool)}

/-! ## What the server node knows of a federate -/

namespace RegulationServer

/-- The place of a federate with the status, where the parent connect is
known. -/
def placeOf (parentConnectHandle : ConnectHandle) :
    Option (Option ConnectHandle × Bool) → Place
  | none => .unknown
  | some (none, _) => .lost
  | some (some connectHandle, _) =>
      if connectHandle = parentConnectHandle then .elsewhere else .connected

theorem eq_none_of_unknown
    (unknown : placeOf parentConnectHandle status = .unknown) :
    status = none := by
  match status with
  | none => rfl
  | some (none, _) => cases unknown
  | some (some connectHandle, _) =>
      rw [placeOf] at unknown
      split at unknown <;> cases unknown

theorem isSome_of_settled
    (settled : (placeOf parentConnectHandle status).isSettled = true) :
    status.isSome = true := by
  cases status with
  | none => cases settled
  | some _ => rfl

/-- A federate that is connected or elsewhere has a connect. -/
theorem isSome_connect_of_place
    (place : placeOf parentConnectHandle status = .connected ∨
      placeOf parentConnectHandle status = .elsewhere) :
    (status.bind Prod.fst).isSome = true := by
  match status with
  | none => rcases place with place | place <;> cases place
  | some (none, _) => rcases place with place | place <;> cases place
  | some (some _, _) => rfl

/-- Whether a federate with the status may send requests. -/
def mayAsk (parentConnectHandle : ConnectHandle) :
    Option (Option ConnectHandle × Bool) → Bool
  | some (some connectHandle, false) => connectHandle ≠ parentConnectHandle
  | _ => false

end RegulationServer

/-! ## Agreement along the path -/

namespace RegulationPath

open RegulationServer

/-- The messages lead from what the server node knows of a federate to what the
root knows, and on to what the root will know.  This is that the federate is
connected, as long as it may send. -/
def Agrees
    (federateHandle : FederateHandle)
    (status : Option (Option ConnectHandle × Bool))
    (parentConnectHandle : ConnectHandle)
    (fromParent : List RegulationMessage)
    (federate : Option RootFederate)
    (toParent : List RegulationMessage) : Prop :=
  ∃ known told,
    fromParent.foldlM (hears federateHandle)
        (placeOf parentConnectHandle status) = some known ∧
      known.below = federate.map RootFederate.below ∧
      toParent.foldlM (tells federateHandle) known = some told ∧
      (mayAsk parentConnectHandle status = true → told = .connected)

def isJoinRequest : RegulationMessage → Bool
  | .joinFederationExecutionRequest => true
  | _ => false

def isJoinResponse : RegulationMessage → Bool
  | .joinFederationExecutionResponse _ => true
  | _ => false

structure Regular (path : RegulationPath) : Prop where
  linked : path.server.Linked
  parent : (path.server.connects path.server.parentConnectHandle).isSome = true
  pending : some path.server.parentConnectHandle ∉
    path.server.pendingMessageList
  requests : path.server.pendingMessageList.length =
    path.server.toParent.countP isJoinRequest +
      path.fromParent.countP isJoinResponse
  agrees : ∀ federateHandle,
    Agrees federateHandle (path.server.status federateHandle)
      path.server.parentConnectHandle path.fromParent
      (path.root federateHandle) path.server.toParent

variable
  {self : RegulationPath}
  {federateHandle : FederateHandle}
  {connectHandle : ConnectHandle}

theorem senderOf_eq_some :
    self.senderOf federateHandle = some connectHandle ↔
      self.server.status federateHandle = some (some connectHandle, false) ∧
        connectHandle ≠ self.server.parentConnectHandle := by
  rw [senderOf, status]
  cases self.server.federates federateHandle with
  | none => simp
  | some federate =>
      cases pending : federate.resignPending with
      | true => simp [pending]
      | false =>
          simp [pending, Option.filter_eq_some_iff]

theorem mayAsk_of_sender
    (sender : self.senderOf federateHandle = some connectHandle) :
    mayAsk self.server.parentConnectHandle
      (self.server.status federateHandle) = true := by
  obtain ⟨status, child⟩ := senderOf_eq_some.mp sender
  rw [status]
  simp [mayAsk, child]

variable {fromParent : List RegulationMessage}

/-- A federate that has nothing said about it. -/
theorem agrees_of_silent
    {toParent : List RegulationMessage} {federate : Option RootFederate}
    (agrees : Agrees federateHandle status parentConnectHandle fromParent
      federate toParent)
    (silent : ∀ place, sent.foldlM (tells federateHandle) place = some place) :
    Agrees federateHandle status parentConnectHandle fromParent federate
      (toParent ++ sent) := by
  obtain ⟨known, told, heard, below, tells, asks⟩ := agrees
  refine ⟨known, told, heard, below, ?_, asks⟩
  rw [List.foldlM_append, tells]
  exact silent told

theorem silent_stopMessages
    (server : RegulationServer) (connectHandle : ConnectHandle)
    (other federateHandle : FederateHandle) (place : Place) :
    (server.stopMessages connectHandle other).foldlM (tells federateHandle)
      place = some place := by
  rw [stopMessages]
  split <;> rfl

theorem handle_of_completes
    {handler : Handler} {sent : List RegulationMessage}
    {status : FederateHandle → Option (Option ConnectHandle × Bool)}
    (completes : Completes handler self.server sent status) :
    ∃ server, self.handle handler = .ok { self with server } ∧
      Effect self.server server sent ∧ server.status = status := by
  obtain ⟨server, ran | ⟨reason, thrown⟩, effect, same⟩ := completes
  · exact ⟨server, by rw [handle, ran], effect, same⟩
  · exact ⟨server, by rw [handle, thrown], effect, same⟩

/-- What a handler that completes has to keep besides. -/
theorem Regular.of_effect
    (regular : self.Regular)
    {server : RegulationServer}
    (effect : Effect self.server server sent)
    (requests : sent.countP isJoinRequest = 0)
    (responses : fromParent.countP isJoinResponse =
      self.fromParent.countP isJoinResponse)
    (agrees : ∀ federateHandle,
      Agrees federateHandle (server.status federateHandle)
        self.server.parentConnectHandle fromParent (self.root federateHandle)
        (self.server.toParent ++ sent)) :
    Regular { self with server, fromParent } where
  linked := effect.linked
  parent := by
    rw [effect.parent]
    exact effect.connects _ regular.parent
  pending := by
    rw [effect.parent, effect.pending]
    exact regular.pending
  requests := by
    rw [effect.pending, regular.requests, effect.toParent, List.countP_append,
      requests, responses, Nat.add_zero]
  agrees federateHandle := by
    rw [effect.parent, effect.toParent]
    exact agrees federateHandle

/-! ## The root -/

/-- A federate that the root does not know about is unknown along the path. -/
theorem eq_unknown
    {known : Place}
    (below : known.below = none) :
    known = .unknown := by
  cases known <;> first | rfl | cases below

theorem eq_elsewhere
    {known : Place}
    (below : known.below = some false) :
    known = .elsewhere := by
  cases known <;> first | rfl | cases below

/-- What a message makes of the agreement about a federate when it reaches the
root, from below or from elsewhere. -/
def RootAgrees
    (federateHandle : FederateHandle)
    (known told : Place)
    (rest : List RegulationMessage)
    (after : (FederateHandle → Option RootFederate) ×
      List RegulationMessage) : Prop :=
  ∃ known' told',
    after.2.foldlM (hears federateHandle) known = some known' ∧
      known'.below = (after.1 federateHandle).map RootFederate.below ∧
      rest.foldlM (tells federateHandle) known' = some told' ∧
      (told = .connected → told' = .connected)

/-- A request to join is answered once. -/
theorem countP_acceptAtRoot
    (below : Bool) (fresh : FederateHandle)
    (root : FederateHandle → Option RootFederate)
    (message : RegulationMessage) :
    (acceptAtRoot below fresh root message).2.countP isJoinResponse =
      if below then [message].countP isJoinRequest else 0 := by
  cases message with
  | joinFederationExecutionRequest => cases below <;> rfl
  | enableTimeRegulationRequest other timeStamp commitId =>
      rw [acceptAtRoot]
      split
      · cases below <;> rfl
      · split <;> cases below <;> rfl
  | disableTimeRegulationRequest other =>
      rw [acceptAtRoot]
      split
      · cases below <;> rfl
      · split <;> cases below <;> rfl
  | resignFederationExecutionRequest other =>
      rw [acceptAtRoot]
      split
      · cases below <;> rfl
      · next federate _ =>
          cases below <;> cases federate.isTimeRegulating <;> rfl
  | joinFederationExecutionResponse other => cases below <;> rfl
  | joinFederateNotify other => cases below <;> rfl
  | resignFederateNotify other => cases below <;> rfl

variable {timeStamp : VariableLengthData} {commitId : Nat}

section Root

variable
  {below : Bool}
  {fresh other : FederateHandle}
  {root : FederateHandle → Option RootFederate}
  {known next told : Place}
  {rest : List RegulationMessage}

/-- Nothing is said about the federate. -/
theorem rootAgrees_of_silent
    {after : (FederateHandle → Option RootFederate) × List RegulationMessage}
    (silent : after.2.foldlM (hears federateHandle) known = some known)
    (same : known.below = (after.1 federateHandle).map RootFederate.below)
    (later : rest.foldlM (tells federateHandle) known = some told) :
    RootAgrees federateHandle known told rest after :=
  ⟨known, told, silent, same, later, id⟩

section

variable (same : known.below = (root federateHandle).map RootFederate.below)
include same

theorem rootAgrees_join
    (unused : root fresh = none)
    (later : rest.foldlM (tells federateHandle) known = some told) :
    RootAgrees federateHandle known told rest
      (acceptAtRoot below fresh root .joinFederationExecutionRequest) := by
  by_cases here : fresh = federateHandle
  · subst here
    rw [unused] at same
    cases eq_unknown same
    obtain ⟨apart, silent⟩ := tells_of_apart (by decide) later
    cases below with
    | true =>
        refine ⟨.announced, .announced, ?_, ?_, silent _, ?_⟩
        · simp [acceptAtRoot, hears]
        · simp [acceptAtRoot, Place.below]
        · rw [apart]
          intro connected
          cases connected
    | false =>
        refine ⟨.elsewhere, .elsewhere, ?_, ?_, silent _, ?_⟩
        · simp [acceptAtRoot, hears]
        · simp [acceptAtRoot, Place.below]
        · rw [apart]
          intro connected
          cases connected
  · apply rootAgrees_of_silent _ _ later
    · cases below <;> simp [acceptAtRoot, hears, here]
    · simpa [acceptAtRoot, Ne.symm here] using same

theorem rootAgrees_enable
    (may : other = federateHandle →
      known = .connected ∨ known = .elsewhere)
    (later : rest.foldlM (tells federateHandle) known = some told) :
    RootAgrees federateHandle known told rest
      (acceptAtRoot below fresh root
        (.enableTimeRegulationRequest other timeStamp commitId)) := by
  rw [acceptAtRoot]
  split
  · exact rootAgrees_of_silent rfl same later
  · next federate found =>
      split
      · exact rootAgrees_of_silent rfl same later
      · apply rootAgrees_of_silent _ _ later
        · by_cases here : other = federateHandle
          · simp [hears, may here]
          · simp [hears, here]
        · simp only [same, Function.update_apply]
          split
          · next here =>
              rw [here, found]
              rfl
          · rfl

theorem rootAgrees_disable
    (later : rest.foldlM (tells federateHandle) known = some told) :
    RootAgrees federateHandle known told rest
      (acceptAtRoot below fresh root
        (.disableTimeRegulationRequest other)) := by
  rw [acceptAtRoot]
  split
  · exact rootAgrees_of_silent rfl same later
  · next federate found =>
      split
      · apply rootAgrees_of_silent _ _ later
        · cases below <;> rfl
        · simp only [same, Function.update_apply]
          split
          · next here =>
              rw [here, found]
              rfl
          · rfl
      · exact rootAgrees_of_silent rfl same later

/-- The federate that resigns is gone, or else it is another one. -/
theorem rootAgrees_resign
    (settled : other = federateHandle → known.isSettled = true)
    (gone : other = federateHandle →
      ∃ told', rest.foldlM (tells federateHandle) .unknown = some told' ∧
        (told = .connected → told' = .connected))
    (later : other ≠ federateHandle →
      rest.foldlM (tells federateHandle) known = some told) :
    RootAgrees federateHandle known told rest
      (acceptAtRoot below fresh root
        (.resignFederationExecutionRequest other)) := by
  rw [acceptAtRoot]
  split
  · next found =>
      by_cases here : other = federateHandle
      · rw [here] at found
        rw [found] at same
        cases eq_unknown same
        cases settled here
      · exact rootAgrees_of_silent rfl same (later here)
  · next federate found =>
      by_cases here : other = federateHandle
      · obtain ⟨told', told, connected⟩ := gone here
        refine ⟨.unknown, told', ?_, ?_, told, connected⟩
        · rw [List.foldlM_append]
          split <;> simp [hears, here, settled here]
        · simp only [here, Function.update_self]
          rfl
      · apply rootAgrees_of_silent _ _ (later here)
        · rw [List.foldlM_append]
          split <;> simp [hears, here]
        · simp only [same, Function.update_of_ne (Ne.symm here)]

/-- A message from below. -/
theorem rootAgrees_of_tells
    (unused : root fresh = none)
    (sent : tells federateHandle known message = some next)
    (later : rest.foldlM (tells federateHandle) next = some told) :
    RootAgrees federateHandle known told rest
      (acceptAtRoot true fresh root message) := by
  cases message with
  | joinFederationExecutionRequest =>
      cases sent
      exact rootAgrees_join same unused later
  | enableTimeRegulationRequest other timeStamp commitId =>
      simp only [tells] at sent
      split at sent
      · split at sent
        · next connected =>
            cases sent
            exact rootAgrees_enable same (fun _ => .inl connected) later
        · cases sent
      · next different =>
          cases sent
          exact rootAgrees_enable same (fun here => absurd here different) later
  | disableTimeRegulationRequest other =>
      cases sent
      exact rootAgrees_disable same later
  | resignFederationExecutionRequest other =>
      simp only [tells] at sent
      split at sent
      · next here =>
          split at sent
          · next there =>
              cases sent
              apply rootAgrees_resign same
              · intro _
                rcases there with rfl | rfl
                · rfl
                · rfl
              · intro _
                exact ⟨told, later, id⟩
              · intro different
                exact absurd here different
          · cases sent
      · next different =>
          cases sent
          exact rootAgrees_resign same (fun here => absurd here different)
            (fun here => absurd here different) fun _ => later
  | joinFederationExecutionResponse other =>
      cases sent
      exact rootAgrees_of_silent rfl same later
  | joinFederateNotify other =>
      cases sent
      exact rootAgrees_of_silent rfl same later
  | resignFederateNotify other =>
      cases sent
      exact rootAgrees_of_silent rfl same later

/-- A message from elsewhere. -/
theorem rootAgrees_of_elsewhere
    (comes : comesFromElsewhere fresh root message = true)
    (later : rest.foldlM (tells federateHandle) known = some told) :
    RootAgrees federateHandle known told rest
      (acceptAtRoot false fresh root message) := by
  have apart : ∀ other, other = federateHandle →
      (root other).any (fun federate => !federate.below) = true →
      known = .elsewhere := by
    intro other here elsewhere
    rw [here] at elsewhere
    apply eq_elsewhere
    rw [same]
    cases found : root federateHandle with
    | none => simp [found] at elsewhere
    | some federate => simpa [found] using elsewhere
  cases message with
  | joinFederationExecutionRequest =>
      exact rootAgrees_join same (Option.isNone_iff_eq_none.mp comes) later
  | enableTimeRegulationRequest other timeStamp commitId =>
      exact rootAgrees_enable same (fun here => .inr (apart other here comes))
        later
  | disableTimeRegulationRequest other =>
      exact rootAgrees_disable same later
  | resignFederationExecutionRequest other =>
      apply rootAgrees_resign same
      · intro here
        rw [apart other here comes]
        rfl
      · intro here
        cases apart other here comes
        obtain ⟨unchanged, silent⟩ := tells_of_apart (by decide) later
        refine ⟨.unknown, silent _, ?_⟩
        rw [unchanged]
        intro connected
        cases connected
      · intro _
        exact later
  | joinFederationExecutionResponse other => cases comes
  | joinFederateNotify other => cases comes
  | resignFederateNotify other => cases comes

end

end Root

namespace Regular

theorem initial : Regular {} where
  linked := by
    constructor
    · intro connectHandle federateHandle
      simp only [federatesAt, connectOf, Function.update_apply]
      split <;> simp
    · intro connectHandle federateHandle
      simp only [timeRegulatingFederatesAt, connectOf, Function.update_apply]
      split <;> simp
    · intro federateHandle regulates
      cases regulates
    · intro connectHandle
      simp only [timeRegulatingFederatesAt, Function.update_apply]
      split <;> simp
  parent := rfl
  pending := List.not_mem_nil
  requests := rfl
  agrees federateHandle :=
    ⟨.unknown, .unknown, rfl, rfl, rfl, fun asks => by cases asks⟩

/-! ## Requests from below -/

section

variable (regular : self.Regular)
include regular

theorem joinRequest
    (child : connectHandle ≠ self.server.parentConnectHandle) :
    Regular
      { self with
        server :=
          ({ self.server with
            pendingMessageList :=
              self.server.pendingMessageList ++ [some connectHandle] } :
            RegulationServer).sendToParent .joinFederationExecutionRequest } where
  linked := by
    apply Linked.sendToParent
    exact regular.linked.congr (fun _ => rfl) (fun _ => rfl) (fun _ => rfl)
      (fun _ => rfl) rfl
  parent := regular.parent
  pending := by
    change _ ∉ self.server.pendingMessageList ++ [some connectHandle]
    rw [List.mem_append, List.mem_singleton, not_or]
    exact ⟨regular.pending, fun same => child (Option.some.inj same).symm⟩
  requests := by
    change (self.server.pendingMessageList ++ [some connectHandle]).length =
      (self.server.toParent ++
        [RegulationMessage.joinFederationExecutionRequest]).countP
          isJoinRequest + _
    rw [List.length_append, List.countP_append, regular.requests]
    simp only [List.length_singleton, List.countP_singleton, isJoinRequest,
      if_true]
    omega
  agrees federateHandle :=
    agrees_of_silent (regular.agrees federateHandle) fun _ => rfl

theorem enableRequest
    (sender : self.senderOf federateHandle = some connectHandle)
    (timeStamp : VariableLengthData) (commitId : Nat) :
    ∃ after, self.handle (acceptEnableTimeRegulationRequest connectHandle
      federateHandle timeStamp commitId) = .ok after ∧ after.Regular := by
  obtain ⟨status, child⟩ := senderOf_eq_some.mp sender
  have known : (self.server.federates federateHandle).isSome = true := by
    rw [RegulationServer.status] at status
    rw [← Option.isSome_map, status]
    rfl
  obtain ⟨server, handled, effect, same⟩ := handle_of_completes
    (acceptEnableTimeRegulationRequest_up regular.linked known child timeStamp
      commitId)
  refine ⟨_, handled, regular.of_effect effect rfl rfl ?_⟩
  intro other
  rw [same]
  by_cases here : other = federateHandle
  · subst here
    obtain ⟨known, told, heard, below, tells, asks⟩ := regular.agrees other
    have connected := asks (mayAsk_of_sender sender)
    refine ⟨known, told, heard, below, ?_, asks⟩
    rw [List.foldlM_append, tells, connected]
    simp [ServerNode.tells]
  · apply agrees_of_silent (regular.agrees other)
    intro place
    simp [tells, Ne.symm here]

theorem disableRequest
    (connectHandle : ConnectHandle) (federateHandle : FederateHandle) :
    ∃ after, self.handle (acceptDisableTimeRegulationRequest connectHandle
      federateHandle) = .ok after ∧ after.Regular := by
  obtain ⟨server, handled, effect, same⟩ := handle_of_completes
    (acceptDisableTimeRegulationRequest_completes regular.linked connectHandle
      federateHandle)
  refine ⟨_, handled, regular.of_effect effect ?_ rfl ?_⟩
  · rw [stopMessages]
    split <;> rfl
  · intro other
    rw [same]
    exact agrees_of_silent (regular.agrees other)
      (silent_stopMessages _ _ _ other)

theorem resignRequest
    (sender : self.senderOf federateHandle = some connectHandle) :
    ∃ after, self.handle (acceptResignFederationExecutionRequest connectHandle
      federateHandle) = .ok after ∧ after.Regular := by
  obtain ⟨status, child⟩ := senderOf_eq_some.mp sender
  obtain ⟨federate, found, values⟩ := Option.map_eq_some_iff.mp status
  obtain ⟨reached, pending⟩ := Prod.mk.inj values
  obtain ⟨server, handled, effect, same⟩ := handle_of_completes
    (@acceptResignFederationExecutionRequest_leaves self.server connectHandle
      federateHandle regular.linked federate found pending).completes
  refine ⟨_, handled, regular.of_effect effect ?_ rfl ?_⟩
  · rw [stopMessages]
    split <;> rfl
  · intro other
    rw [same, Function.update_apply]
    by_cases here : other = federateHandle
    · subst here
      obtain ⟨known, told, heard, below, tells, asks⟩ := regular.agrees other
      have connected := asks (mayAsk_of_sender sender)
      rw [status] at heard
      refine ⟨known, .unknown, ?_, below, ?_, ?_⟩
      · rw [if_pos rfl, reached]
        exact heard
      · rw [List.foldlM_append, tells, connected]
        refine List.foldlM_append.trans ?_
        rw [silent_stopMessages]
        simp [ServerNode.tells]
      · rw [if_pos rfl, reached]
        intro asks
        cases asks
    · rw [if_neg here]
      apply agrees_of_silent (regular.agrees other)
      intro place
      rw [List.foldlM_append, silent_stopMessages]
      simp [tells, Ne.symm here]

/-! ## Losing a connect -/

/-- The federates of a connect resign.  The agreement is kept if no request of
theirs is on its way. -/
theorem resignConnect
    (child : connectHandle ≠ self.server.parentConnectHandle) :
    ∃ server sent, RegulationServer.resignConnect connectHandle self.server =
        .ok () server ∧ Effect self.server server sent ∧
      (∀ federateHandle, server.status federateHandle =
        if federateHandle ∈ self.server.federatesAt connectHandle then
          some (none, true)
        else self.server.status federateHandle) ∧
      ((∀ federateHandle ∈ self.server.federatesAt connectHandle,
        self.isEnabling federateHandle = false) →
        Regular { self with server }) := by
  have reached : ∀ federateHandle ∈ self.server.federatesAt connectHandle,
      ∃ pending, self.server.status federateHandle =
        some (some connectHandle, pending) := by
    intro federateHandle member
    have reaches := (regular.linked.members connectHandle federateHandle).mp
      member
    rw [connectOf_eq_status] at reaches
    obtain ⟨⟨connect, pending⟩, found, same⟩ := Option.bind_eq_some_iff.mp
      reaches
    exact ⟨pending, found.trans (congrArg some (Prod.ext same rfl))⟩
  have known : ∀ federateHandle ∈ self.server.federatesAt connectHandle,
      (self.server.status federateHandle).isSome = true := by
    intro federateHandle member
    obtain ⟨pending, found⟩ := reached federateHandle member
    rw [found]
    rfl
  obtain ⟨sent, resigns, server, ran, effect, status⟩ :=
    @resignFederates_leaves self.server connectHandle regular.linked _ known
  have finished : RegulationServer.resignConnect connectHandle self.server =
      .ok () server := by
    rw [RegulationServer.resignConnect, bind_eq_ok]
    exact ⟨self.server, self.server, rfl, ran⟩
  have left : ∀ federateHandle, server.status federateHandle =
      if federateHandle ∈ self.server.federatesAt connectHandle then
        some (none, true)
      else self.server.status federateHandle := by
    intro federateHandle
    rw [status]
  refine ⟨server, sent, finished, effect, left, ?_⟩
  intro quiet
  apply regular.of_effect effect _ rfl
  · intro federateHandle
    rw [left]
    obtain ⟨place, told, heard, below, tells, asks⟩ :=
      regular.agrees federateHandle
    by_cases member : federateHandle ∈ self.server.federatesAt connectHandle
    · rw [if_pos member]
      obtain ⟨pending, found⟩ := reached federateHandle member
      have still := quiet federateHandle member
      rw [isEnabling, List.any_append, Bool.or_eq_false_iff] at still
      rw [found, placeOf, if_neg child] at heard
      have lost := hears_lose still.2 heard
      have resigned := tells_lose still.1 tells
      have once := resigns.once federateHandle
      rw [found] at once
      cases pending with
      | true =>
          refine ⟨place.lose, told.lose, lost, ?_, ?_, fun asks => by
            cases asks⟩
          · rw [Place.below_lose, below]
          · rw [List.foldlM_append, resigned]
            exact (tells_of_resigns resigns.kinds _).1 (by simpa using once)
      | false =>
          have connected : told = .connected := by
            apply asks
            rw [found]
            simp [mayAsk, child]
          refine ⟨place.lose, .unknown, lost, ?_, ?_, fun asks => by
            cases asks⟩
          · rw [Place.below_lose, below]
          · rw [List.foldlM_append, resigned, connected]
            exact (tells_of_resigns resigns.kinds _).2
              (by simpa [member] using once) rfl
    · rw [if_neg member]
      refine agrees_of_silent ⟨place, told, heard, below, tells, asks⟩ ?_
      intro place
      have once := resigns.once federateHandle
      rw [if_neg fun both => member both.1] at once
      exact (tells_of_resigns resigns.kinds place).1 once
  · rw [List.countP_eq_zero]
    intro message member
    obtain ⟨other, rfl | rfl⟩ := resigns.kinds message member
    · exact Bool.false_ne_true
    · exact Bool.false_ne_true

theorem leafResignRequest
    (sender : self.senderOf federateHandle = some connectHandle)
    (alone : self.server.federatesAt connectHandle = [federateHandle]) :
    ∃ after, self.handle (RegulationServer.resignConnect connectHandle) =
        .ok after ∧
      (self.isEnabling federateHandle = false → after.Regular) := by
  obtain ⟨_, child⟩ := senderOf_eq_some.mp sender
  obtain ⟨server, _, ran, _, _, kept⟩ := regular.resignConnect child
  refine ⟨{ self with server }, by rw [handle, ran], ?_⟩
  intro quiet
  apply kept
  intro other member
  rw [alone, List.mem_singleton] at member
  rw [member]
  exact quiet

theorem forgetPending
    (connectHandle : ConnectHandle) :
    Regular
      { self with
        server :=
          { self.server with
            pendingMessageList :=
              self.server.pendingMessageList.map fun pending =>
                if pending = some connectHandle then none else pending } } where
  linked := regular.linked.congr (fun _ => rfl) (fun _ => rfl) (fun _ => rfl)
    (fun _ => rfl) rfl
  parent := regular.parent
  pending := by
    intro member
    obtain ⟨pending, there, same⟩ := List.mem_map.mp member
    split at same
    · cases same
    · exact regular.pending (same ▸ there)
  requests := by
    change (List.map _ self.server.pendingMessageList).length = _
    rw [List.length_map]
    exact regular.requests
  agrees := regular.agrees

theorem eraseConnect
    (child : connectHandle ≠ self.server.parentConnectHandle)
    (empty : self.server.federatesAt connectHandle = []) :
    Regular { self with server := self.server.eraseConnect connectHandle } where
  linked := regular.linked.eraseConnect empty
  parent := by
    have parent : (self.server.eraseConnect connectHandle).connects
        self.server.parentConnectHandle =
          self.server.connects self.server.parentConnectHandle :=
      Function.update_of_ne child.symm _ _
    exact (congrArg Option.isSome parent).trans regular.parent
  pending := regular.pending
  requests := regular.requests
  agrees := regular.agrees

theorem removeConnect
    (child : connectHandle ≠ self.server.parentConnectHandle) :
    ∃ after, self.handle (RegulationServer.removeConnect connectHandle) =
        .ok after ∧
      ((∀ federateHandle ∈ self.server.federatesAt connectHandle,
        self.isEnabling federateHandle = false) → after.Regular) := by
  by_cases known : (self.server.connects connectHandle).isSome = true
  · obtain ⟨server, _, ran, effect, status, kept⟩ :=
      regular.resignConnect child
    have empty : server.federatesAt connectHandle = [] := by
      rw [List.eq_nil_iff_forall_not_mem]
      intro federateHandle member
      rw [effect.linked.members, connectOf_eq_status, status] at member
      by_cases before : federateHandle ∈ self.server.federatesAt connectHandle
      · rw [if_pos before] at member
        cases member
      · rw [if_neg before, ← connectOf_eq_status,
          ← regular.linked.members] at member
        exact before member
    have whole : RegulationServer.removeConnect connectHandle self.server =
        .ok () { server.eraseConnect connectHandle with
          pendingMessageList :=
            server.pendingMessageList.map fun pending =>
              if pending = some connectHandle then none else pending } := by
      rw [RegulationServer.removeConnect, bind_eq_ok]
      refine ⟨self.server, self.server, rfl, ?_⟩
      simp only [known, if_true, bind_eq_ok]
      exact ⟨(), server, ran, (), _, rfl, rfl⟩
    refine ⟨_, by rw [handle, whole], ?_⟩
    intro quiet
    have resigned := kept quiet
    have apart : connectHandle ≠
        ({ self with server } : RegulationPath).server.parentConnectHandle := by
      rw [effect.parent]
      exact child
    exact (resigned.eraseConnect apart empty).forgetPending connectHandle
  · have whole : RegulationServer.removeConnect connectHandle self.server =
        .ok () { self.server with
          pendingMessageList :=
            self.server.pendingMessageList.map fun pending =>
              if pending = some connectHandle then none else pending } := by
      rw [RegulationServer.removeConnect, bind_eq_ok]
      refine ⟨self.server, self.server, rfl, ?_⟩
      rw [if_neg known]
      rfl
    refine ⟨_, by rw [handle, whole], ?_⟩
    intro _
    exact regular.forgetPending connectHandle

/-! ## Deliveries -/

theorem elsewhere
    {fresh : FederateHandle}
    (comes : comesFromElsewhere fresh self.root message = true) :
    Regular
      { self with
        root := (acceptAtRoot false fresh self.root message).1
        fromParent := self.fromParent ++
          (acceptAtRoot false fresh self.root message).2 } where
  linked := regular.linked
  parent := regular.parent
  pending := regular.pending
  requests := by
    change _ = _ + (self.fromParent ++ _).countP isJoinResponse
    rw [List.countP_append, countP_acceptAtRoot]
    exact regular.requests
  agrees federateHandle := by
    obtain ⟨known, told, heard, below, told', asks⟩ :=
      regular.agrees federateHandle
    obtain ⟨known', after, hears, same, tells, connected⟩ :=
      rootAgrees_of_elsewhere below comes told'
    refine ⟨known', after, ?_, same, tells, fun may => connected (asks may)⟩
    refine List.foldlM_append.trans ?_
    exact (congrArg (· >>= _) heard).trans hears

theorem deliverToParent
    {fresh : FederateHandle} {rest : List RegulationMessage}
    (unused : self.root fresh = none)
    (head : self.server.toParent = message :: rest) :
    Regular
      { server := { self.server with toParent := rest }
        root := (acceptAtRoot true fresh self.root message).1
        fromParent := self.fromParent ++
          (acceptAtRoot true fresh self.root message).2 } where
  linked := regular.linked.congr (fun _ => rfl) (fun _ => rfl) (fun _ => rfl)
    (fun _ => rfl) rfl
  parent := regular.parent
  pending := regular.pending
  requests := by
    have before := regular.requests
    rw [head, ← @List.singleton_append _ message rest, List.countP_append]
      at before
    change _ = rest.countP isJoinRequest +
      (self.fromParent ++ _).countP isJoinResponse
    rw [List.countP_append, countP_acceptAtRoot, if_pos rfl]
    exact before.trans (by omega)
  agrees federateHandle := by
    obtain ⟨known, told, heard, below, told', asks⟩ :=
      regular.agrees federateHandle
    rw [head, List.foldlM_cons] at told'
    obtain ⟨next, sent, later⟩ := Option.bind_eq_some_iff.mp told'
    obtain ⟨known', after, hears, same, tells, connected⟩ :=
      rootAgrees_of_tells below unused sent later
    refine ⟨known', after, ?_, same, tells, fun may => connected (asks may)⟩
    refine List.foldlM_append.trans ?_
    exact (congrArg (· >>= _) heard).trans hears

/-- What the oldest message from the parent says about a federate. -/
theorem received
    {rest : List RegulationMessage}
    (head : self.fromParent = message :: rest)
    (federateHandle : FederateHandle) :
    ∃ next known told,
      hears federateHandle (placeOf self.server.parentConnectHandle
          (self.server.status federateHandle)) message = some next ∧
        rest.foldlM (hears federateHandle) next = some known ∧
        known.below = (self.root federateHandle).map RootFederate.below ∧
        self.server.toParent.foldlM (tells federateHandle) known = some told ∧
        (mayAsk self.server.parentConnectHandle
          (self.server.status federateHandle) = true → told = .connected) := by
  obtain ⟨known, told, heard, below, told', asks⟩ :=
    regular.agrees federateHandle
  rw [head, List.foldlM_cons] at heard
  obtain ⟨next, first, later⟩ := Option.bind_eq_some_iff.mp heard
  exact ⟨next, known, told, first, later, below, told', asks⟩

/-- A handler that changes nothing the agreement is about takes a message that
leaves every place as it is. -/
theorem accept_silent
    {rest : List RegulationMessage}
    (head : self.fromParent = message :: rest)
    (completes : Completes (acceptFromParent message) self.server []
      self.server.status)
    (response : isJoinResponse message = false)
    (silent : ∀ federateHandle next,
      hears federateHandle (placeOf self.server.parentConnectHandle
        (self.server.status federateHandle)) message = some next →
      next = placeOf self.server.parentConnectHandle
        (self.server.status federateHandle)) :
    ∃ after, ({ self with fromParent := rest } : RegulationPath).handle
      (acceptFromParent message) = .ok after ∧ after.Regular := by
  obtain ⟨server, handled, effect, same⟩ :=
    @handle_of_completes { self with fromParent := rest } _ _ _ completes
  refine ⟨_, handled, regular.of_effect effect rfl ?_ ?_⟩
  · rw [head, List.countP_cons, response]
    rfl
  · intro federateHandle
    obtain ⟨next, known, told, first, later, below, told', asks⟩ :=
      regular.received head federateHandle
    rw [same, List.append_nil]
    rw [silent federateHandle next first] at later
    exact ⟨known, told, later, below, told', asks⟩

theorem acceptEnable
    {rest : List RegulationMessage}
    (head : self.fromParent =
      .enableTimeRegulationRequest federateHandle timeStamp commitId :: rest) :
    ∃ after, ({ self with fromParent := rest } : RegulationPath).handle
      (acceptFromParent (.enableTimeRegulationRequest federateHandle timeStamp
        commitId)) = .ok after ∧ after.Regular := by
  obtain ⟨next, _, _, first, _, _, _, _⟩ :=
    regular.received head federateHandle
  have reached : (self.server.connectOf federateHandle).isSome = true := by
    simp only [hears, if_true] at first
    split at first
    · next place =>
        rw [connectOf_eq_status]
        exact isSome_connect_of_place place
    · cases first
  apply regular.accept_silent head
  · exact acceptEnableTimeRegulationRequest_down regular.linked reached
      timeStamp commitId
  · rfl
  · intro other next heard
    simp only [hears] at heard
    split at heard
    · split at heard
      · exact (Option.some.inj heard).symm
      · cases heard
    · exact (Option.some.inj heard).symm

theorem acceptDisable
    {rest : List RegulationMessage}
    (head : self.fromParent =
      .disableTimeRegulationRequest federateHandle :: rest) :
    ∃ after, ({ self with fromParent := rest } : RegulationPath).handle
      (acceptFromParent (.disableTimeRegulationRequest federateHandle)) =
        .ok after ∧ after.Regular := by
  have completes := acceptDisableTimeRegulationRequest_completes regular.linked
    self.server.parentConnectHandle federateHandle
  rw [stopMessages, if_neg fun both => both.2 rfl] at completes
  apply regular.accept_silent head completes rfl
  intro other next heard
  exact (Option.some.inj heard).symm

theorem acceptResignNotify
    {rest : List RegulationMessage}
    (head : self.fromParent = .resignFederateNotify federateHandle :: rest) :
    ∃ after, ({ self with fromParent := rest } : RegulationPath).handle
      (acceptFromParent (.resignFederateNotify federateHandle)) =
        .ok after ∧ after.Regular := by
  obtain ⟨_, _, _, here, _, _, _, _⟩ := regular.received head federateHandle
  have known : (self.server.federates federateHandle).isSome = true := by
    simp only [hears, if_true] at here
    split at here
    · next settled =>
        rw [← Option.isSome_map]
        exact isSome_of_settled settled
    · cases here
  obtain ⟨server, handled, effect, same⟩ :=
    @handle_of_completes { self with fromParent := rest } _ _ _
      (acceptResignFederateNotify_completes regular.linked known)
  refine ⟨_, handled, regular.of_effect effect rfl ?_ ?_⟩
  · rw [head]
    rfl
  · intro other
    obtain ⟨next, known, told, first, later, below, told', asks⟩ :=
      regular.received head other
    rw [same, List.append_nil, Function.update_apply]
    by_cases different : other = federateHandle
    · rw [if_pos different]
      simp only [hears, different, if_true] at first
      split at first
      · cases first
        exact ⟨known, told, later, below, told', fun asks => by cases asks⟩
      · cases first
    · rw [if_neg different]
      simp only [hears, Ne.symm different, if_false] at first
      cases first
      exact ⟨known, told, later, below, told', asks⟩

end

/-- A federate that is announced is not known yet. -/
theorem unknown_of_place
    {next : Place}
    (may : (if placeOf self.server.parentConnectHandle
        (self.server.status federateHandle) = .unknown then some next
      else none) ≠ none) :
    self.server.federates federateHandle = none := by
  split at may
  · next unknown =>
      have absent := eq_none_of_unknown unknown
      rw [status, Option.map_eq_none_iff] at absent
      exact absent
  · exact absurd rfl may

theorem acceptJoinNotify
    (regular : self.Regular)
    {rest : List RegulationMessage}
    (head : self.fromParent = .joinFederateNotify federateHandle :: rest) :
    ∃ after, ({ self with fromParent := rest } : RegulationPath).handle
      (acceptFromParent (.joinFederateNotify federateHandle)) =
        .ok after ∧ after.Regular := by
  obtain ⟨_, _, _, here, _, _, _, _⟩ := regular.received head federateHandle
  simp only [hears, if_true] at here
  have unknown := unknown_of_place (here ▸ Option.some_ne_none _)
  obtain ⟨server, handled, effect, same⟩ :=
    @handle_of_completes { self with fromParent := rest } _ _ _
      (acceptJoinFederateNotify_completes regular.linked unknown
        regular.parent)
  refine ⟨_, handled, regular.of_effect effect rfl ?_ ?_⟩
  · rw [head]
    rfl
  · intro other
    obtain ⟨next, known, told, first, later, below, told', asks⟩ :=
      regular.received head other
    rw [same, List.append_nil, Function.update_apply]
    by_cases different : other = federateHandle
    · rw [if_pos different]
      simp only [hears, different, if_true] at first
      split at first
      · cases first
        refine ⟨known, told, ?_, below, told', ?_⟩
        · rw [placeOf, if_pos rfl]
          exact later
        · intro asks
          simp [mayAsk] at asks
      · cases first
    · rw [if_neg different]
      simp only [hears, Ne.symm different, if_false] at first
      cases first
      exact ⟨known, told, later, below, told', asks⟩

/-- The federate is entered, and a request is answered. -/
theorem of_joined
    (regular : self.Regular)
    {rest : List RegulationMessage}
    (head : self.fromParent =
      .joinFederationExecutionResponse federateHandle :: rest)
    {request : Option ConnectHandle}
    {requests : List (Option ConnectHandle)}
    (front : self.server.pendingMessageList = request :: requests)
    {server : RegulationServer}
    (effect : Effect self.server server [])
    {status : Option ConnectHandle × Bool}
    (joined : server.status =
      Function.update self.server.status federateHandle (some status))
    (place : placeOf self.server.parentConnectHandle (some status) =
        .connected ∨
      placeOf self.server.parentConnectHandle (some status) = .lost)
    (resigns : placeOf self.server.parentConnectHandle (some status) = .lost →
      mayAsk self.server.parentConnectHandle (some status) = false) :
    Regular
      { self with
        server := { server with pendingMessageList := requests }
        fromParent := rest } where
  linked := effect.linked.congr (fun _ => rfl) (fun _ => rfl) (fun _ => rfl)
    (fun _ => rfl) rfl
  parent := by
    have known := effect.connects _ regular.parent
    rwa [← effect.parent] at known
  pending := by
    have before := regular.pending
    rw [front, List.mem_cons, not_or] at before
    change some server.parentConnectHandle ∉ requests
    rw [effect.parent]
    exact before.2
  requests := by
    have before := regular.requests
    rw [front, head, List.length_cons, List.countP_cons_of_pos rfl] at before
    have sent := effect.toParent
    rw [List.append_nil] at sent
    change requests.length = server.toParent.countP isJoinRequest +
      rest.countP isJoinResponse
    rw [sent]
    omega
  agrees other := by
    obtain ⟨next, known, told, first, later, below, told', asks⟩ :=
      regular.received head other
    have sent := effect.toParent
    rw [List.append_nil] at sent
    change Agrees other (server.status other) server.parentConnectHandle rest
      (self.root other) server.toParent
    rw [sent, effect.parent, joined, Function.update_apply]
    by_cases different : other = federateHandle
    · rw [if_pos different]
      simp only [hears, different, if_true] at first
      split at first
      · cases first
        obtain ⟨announced, heard⟩ := hears_of_announced later
        rw [announced] at below told'
        obtain ⟨_, told''⟩ := tells_of_apart (by decide) told'
        refine ⟨_, _, heard _, ?_, told'' _, ?_⟩
        · rw [← below]
          rcases place with place | place
          · rw [place]
            rfl
          · rw [place]
            rfl
        · intro asks
          rcases place with place | place
          · exact place
          · rw [resigns place] at asks
            cases asks
      · cases first
    · rw [if_neg different]
      simp only [hears, Ne.symm different, if_false] at first
      cases first
      exact ⟨known, told, later, below, told', asks⟩

theorem acceptJoinResponse
    (regular : self.Regular)
    {rest : List RegulationMessage}
    (head : self.fromParent =
      .joinFederationExecutionResponse federateHandle :: rest) :
    ∃ after, ({ self with fromParent := rest } : RegulationPath).handle
      (acceptFromParent (.joinFederationExecutionResponse federateHandle)) =
        .ok after ∧ after.Regular := by
  obtain ⟨_, _, _, here, _, _, _, _⟩ := regular.received head federateHandle
  simp only [hears, if_true] at here
  have unknown := unknown_of_place (here ▸ Option.some_ne_none _)
  cases front : self.server.pendingMessageList with
  | nil =>
      have requests := regular.requests
      rw [front, head, List.countP_cons_of_pos rfl] at requests
      simp at requests
  | cons request requests =>
      cases request with
      | some connectHandle =>
          have child : connectHandle ≠ self.server.parentConnectHandle := by
            intro same
            apply regular.pending
            rw [front, same]
            exact List.mem_cons_self
          have opened := Effect.getOrInsertConnect regular.linked connectHandle
          have entered := @Effect.insertFederate _ federateHandle opened.linked
            unknown (some connectHandle)
          have told := Effect.sendToChildren entered.linked
            (.allBut (some connectHandle)) (.joinFederateNotify federateHandle)
          have answered := Effect.sendToChildren told.linked
            (.only connectHandle)
            (.joinFederationExecutionResponse federateHandle)
          have whole := ((opened.trans entered).trans told).trans answered
          have known : ((self.server.getOrInsertConnect
              connectHandle).connects connectHandle).isSome = true := by
            simp [RegulationServer.getOrInsertConnect]
          refine ⟨_, ?_, @of_joined _ _ regular _ head _ _ front _ whole
            (some connectHandle, false) ?_ ?_ ?_⟩
          · rw [handle, acceptFromParent,
              acceptJoinFederationExecutionResponse_of_some front]
          · rw [status_sendToChildren, status_sendToChildren,
              status_insertFederate_of_known known]
            rfl
          · left
            rw [placeOf, if_neg child]
          · rw [placeOf, if_neg child]
            intro lost
            cases lost
      | none =>
          have entered := Effect.insertFederate regular.linked unknown none
          have told := Effect.sendToChildren entered.linked (.allBut none)
            (.joinFederateNotify federateHandle)
          refine ⟨_, ?_, @of_joined _ _ regular _ head _ _ front _
            (entered.trans told) (none, true) ?_ (.inr rfl) fun _ => rfl⟩
          · obtain ⟨reason, thrown⟩ :=
              @acceptJoinFederationExecutionResponse_of_none _ federateHandle _
                front
            rw [handle, acceptFromParent, thrown]
          · rw [status_sendToChildren, status_insertFederate_none]

theorem deliverFromParent
    (regular : self.Regular)
    {rest : List RegulationMessage}
    (head : self.fromParent = message :: rest) :
    ∃ after, ({ self with fromParent := rest } : RegulationPath).handle
      (acceptFromParent message) = .ok after ∧ after.Regular := by
  cases message with
  | joinFederationExecutionRequest =>
      apply regular.accept_silent head
      · exact completes_of_messageError regular.linked rfl
      · rfl
      · intro other next heard
        exact (Option.some.inj heard).symm
  | joinFederationExecutionResponse federateHandle =>
      exact regular.acceptJoinResponse head
  | joinFederateNotify federateHandle => exact regular.acceptJoinNotify head
  | resignFederationExecutionRequest federateHandle =>
      apply regular.accept_silent head
      · exact completes_of_messageError regular.linked rfl
      · rfl
      · intro other next heard
        exact (Option.some.inj heard).symm
  | resignFederateNotify federateHandle => exact regular.acceptResignNotify head
  | enableTimeRegulationRequest federateHandle timeStamp commitId =>
      exact regular.acceptEnable head
  | disableTimeRegulationRequest federateHandle =>
      exact regular.acceptDisable head

/-- No step is undefined, and the agreement is kept where no federate loses its
connect while its request is on its way. -/
theorem step
    (regular : self.Regular)
    {input : RegulationInput} {result : Except Failure RegulationPath}
    (stepped : self.step input = some result) :
    ∃ after, result = .ok after ∧
      (self.losesNone input = true → after.Regular) := by
  cases input with
  | joinFederationExecutionRequest connectHandle =>
      simp only [RegulationPath.step] at stepped
      split at stepped
      · cases stepped
      · next child =>
          cases stepped
          exact ⟨_, rfl, fun _ => regular.joinRequest child⟩
  | enableTimeRegulationRequest federateHandle timeStamp commitId =>
      obtain ⟨connectHandle, sender, rfl⟩ := Option.map_eq_some_iff.mp stepped
      obtain ⟨after, handled, kept⟩ :=
        regular.enableRequest sender timeStamp commitId
      exact ⟨after, handled, fun _ => kept⟩
  | disableTimeRegulationRequest federateHandle =>
      obtain ⟨connectHandle, sender, rfl⟩ := Option.map_eq_some_iff.mp stepped
      obtain ⟨after, handled, kept⟩ :=
        regular.disableRequest connectHandle federateHandle
      exact ⟨after, handled, fun _ => kept⟩
  | resignFederationExecutionRequest federateHandle =>
      obtain ⟨connectHandle, sender, rfl⟩ := Option.map_eq_some_iff.mp stepped
      obtain ⟨after, handled, kept⟩ := regular.resignRequest sender
      exact ⟨after, handled, fun _ => kept⟩
  | resignFederationExecutionLeafRequest federateHandle =>
      obtain ⟨connectHandle, sender, rfl⟩ := Option.map_eq_some_iff.mp stepped
      rw [Option.filter_eq_some_iff, decide_eq_true_iff] at sender
      obtain ⟨after, handled, kept⟩ :=
        regular.leafResignRequest sender.1 sender.2
      refine ⟨after, handled, fun quiet => kept ?_⟩
      simpa [losesNone] using quiet
  | removeConnect connectHandle =>
      simp only [RegulationPath.step] at stepped
      split at stepped
      · cases stepped
      · next child =>
          obtain ⟨after, handled, kept⟩ := regular.removeConnect child
          refine ⟨after, ?_, ?_⟩
          · rw [← Option.some.inj stepped]
            exact handled
          · intro quiet
            apply kept
            simpa [losesNone] using quiet
  | elsewhere fresh message =>
      simp only [RegulationPath.step] at stepped
      split at stepped
      · next comes =>
          cases stepped
          exact ⟨_, rfl, fun _ => regular.elsewhere comes⟩
      · cases stepped
  | deliverToParent fresh =>
      simp only [RegulationPath.step] at stepped
      cases head : self.server.toParent with
      | nil => simp [head] at stepped
      | cons message rest =>
          simp only [head] at stepped
          split at stepped
          · cases stepped
          · next unused =>
              rw [Bool.not_eq_true, Option.isSome_eq_false_iff,
                Option.isNone_iff_eq_none] at unused
              cases stepped
              exact ⟨_, rfl, fun _ => regular.deliverToParent unused head⟩
  | deliverFromParent =>
      simp only [RegulationPath.step] at stepped
      cases head : self.fromParent with
      | nil => simp [head] at stepped
      | cons message rest =>
          simp only [head, Option.some.injEq] at stepped
          obtain ⟨after, handled, kept⟩ := regular.deliverFromParent head
          exact ⟨after, stepped.symm.trans handled, fun _ => kept⟩

end Regular

/-! ## Runs -/

theorem reachable_regular
    (reachable : system.ReachableUnder
      (fun self input => self.losesNone input = true) self) :
    self.Regular := by
  apply reachable.invariant
  · exact Regular.initial
  · intro before input after regular admitted stepped
    simp only [system] at stepped
    split at stepped
    · next result taken =>
        obtain ⟨reached, same, kept⟩ := regular.step taken
        cases same
        rw [← Option.some.inj stepped]
        exact kept admitted
    · cases stepped

/-- As long as no federate loses its connect while its request is on its way, no
federate without connect is entered as or removed from the time regulating ones,
and a connect is linked if and only if a federate of it is time regulating. -/
theorem timeRegulating_linked
    (reachable : system.ReachableUnder
      (fun self input => self.losesNone input = true) self) :
    (∀ input result, self.step input = some result →
      ∃ after, result = .ok after) ∧
      ∀ connectHandle connect,
        self.server.connects connectHandle = some connect →
        (connectHandle ∈ self.server.timeRegulatingFederationConnectList ↔
          ∃ federateHandle ∈ connect.federateList,
            self.server.isTimeRegulating federateHandle = true) := by
  have regular := reachable_regular reachable
  constructor
  · intro input result stepped
    obtain ⟨after, same, _⟩ := regular.step stepped
    exact ⟨after, same⟩
  · intro connectHandle connect known
    have members : self.server.federatesAt connectHandle =
        connect.federateList := by
      rw [federatesAt, known]
      rfl
    rw [regular.linked.linked]
    constructor
    · intro some
      obtain ⟨federateHandle, regulating⟩ := List.exists_mem_of_ne_nil _ some
      rw [regular.linked.regulating, ← regular.linked.members,
        members] at regulating
      exact ⟨federateHandle, regulating⟩
    · rintro ⟨federateHandle, member, regulates⟩
      rw [← members, regular.linked.members] at member
      exact List.ne_nil_of_mem
        ((regular.linked.regulating _ _).mpr ⟨member, regulates⟩)

/-- A federate joins through a connect and becomes time regulating.  Then the
connect is lost. -/
def lostLater : List RegulationInput :=
  [.joinFederationExecutionRequest 1, .deliverToParent 7, .deliverFromParent,
    .enableTimeRegulationRequest 7 [1] 0, .deliverToParent 8,
    .deliverFromParent, .removeConnect 1]

/-- The node takes the answer of the root. -/
theorem timeRegulating_linked_lost_later :
    ∃ final, system.run {} lostLater = some final ∧
      final.server.timeRegulatingFederationConnectList = [] ∧
        ∃ after, (final.step (.deliverToParent 8)) = some (.ok after) := by
  have reachable : (system.restrict losesNone).Reachable _ :=
    TransitionSystem.reachable_of_run lostLater rfl
  refine ⟨_, rfl, rfl, ?_⟩
  obtain ⟨after, same⟩ := (timeRegulating_linked
    (TransitionSystem.reachableUnder_of_restrict reachable)).1
      (.deliverToParent 8) _ rfl
  exact ⟨after, congrArg some same⟩

/-- The request of a federate comes back after its connect has been lost. -/
theorem timeRegulating_linked_fails_lost :
    ∃ self, system.Reachable self ∧
      self.step .deliverFromParent = some (.error .undefined) :=
  ⟨_, TransitionSystem.reachable_of_run
      [.joinFederationExecutionRequest 1, .deliverToParent 7,
        .deliverFromParent, .enableTimeRegulationRequest 7 [1] 0,
        .removeConnect 1, .deliverToParent 8] rfl, rfl⟩

end RegulationPath
end ServerNode
end OpenRTI
