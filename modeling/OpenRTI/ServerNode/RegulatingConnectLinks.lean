import OpenRTI.Foundation.FailingState
import OpenRTI.ServerNode.TimeRegulatingConnects

/-!
# Links of time regulating federates

The lists of a connect hold the federates that are reached through it, and those
of them that are time regulating.  A time regulating federate has a connect, and
the node links the connects with time regulating federates.
-/

namespace OpenRTI
namespace ServerNode

open Foundation
open ServerModel

namespace RegulationServer

structure Linked (server : RegulationServer) : Prop where
  members : ∀ connectHandle federateHandle,
    federateHandle ∈ server.federatesAt connectHandle ↔
      server.connectOf federateHandle = some connectHandle
  regulating : ∀ connectHandle federateHandle,
    federateHandle ∈ server.timeRegulatingFederatesAt connectHandle ↔
      server.connectOf federateHandle = some connectHandle ∧
        server.isTimeRegulating federateHandle = true
  connected : ∀ federateHandle,
    server.isTimeRegulating federateHandle = true →
      (server.connectOf federateHandle).isSome = true
  linked : ∀ connectHandle,
    connectHandle ∈ server.timeRegulatingFederationConnectList ↔
      server.timeRegulatingFederatesAt connectHandle ≠ []

variable
  {self : RegulationServer}
  {connectHandle : ConnectHandle}
  {federateHandle : FederateHandle}

/-! ## What a change leaves alone -/

@[simp] theorem connectOf_modifyFederate
    {change : RegulatingFederate → RegulatingFederate}
    (keeps : ∀ federate,
      (change federate).federationConnect = federate.federationConnect)
    (other : FederateHandle) :
    (self.modifyFederate federateHandle change).connectOf other =
      self.connectOf other := by
  simp only [connectOf, modifyFederate, Function.update_apply]
  split
  · next same =>
      rw [same]
      cases self.federates federateHandle with
      | none => rfl
      | some federate => exact keeps federate
  · rfl

theorem federatesAt_modifyConnect
    (change : RegulatingConnect → RegulatingConnect)
    (other : ConnectHandle) :
    (self.modifyConnect connectHandle change).federatesAt other =
      if other = connectHandle then
        (((self.connects connectHandle).map change).map
          RegulatingConnect.federateList).getD []
      else self.federatesAt other := by
  simp only [federatesAt, modifyConnect, Function.update_apply]
  split <;> rfl

theorem timeRegulatingFederatesAt_modifyConnect
    (change : RegulatingConnect → RegulatingConnect)
    (other : ConnectHandle) :
    (self.modifyConnect connectHandle change).timeRegulatingFederatesAt other =
      if other = connectHandle then
        (((self.connects connectHandle).map change).map
          RegulatingConnect.timeRegulatingFederateList).getD []
      else self.timeRegulatingFederatesAt other := by
  simp only [timeRegulatingFederatesAt, modifyConnect, Function.update_apply]
  split <;> rfl

namespace Linked

/-- The links are a matter of what is reached through which connect, what is
time regulating and what is linked. -/
theorem congr
    (holds : self.Linked)
    {after : RegulationServer}
    (connectOf : ∀ federateHandle,
      after.connectOf federateHandle = self.connectOf federateHandle)
    (isTimeRegulating : ∀ federateHandle,
      after.isTimeRegulating federateHandle =
        self.isTimeRegulating federateHandle)
    (federatesAt : ∀ connectHandle,
      after.federatesAt connectHandle = self.federatesAt connectHandle)
    (timeRegulatingFederatesAt : ∀ connectHandle,
      after.timeRegulatingFederatesAt connectHandle =
        self.timeRegulatingFederatesAt connectHandle)
    (list : after.timeRegulatingFederationConnectList =
      self.timeRegulatingFederationConnectList) :
    after.Linked where
  members connectHandle federateHandle := by
    rw [federatesAt, connectOf]
    exact holds.members connectHandle federateHandle
  regulating connectHandle federateHandle := by
    rw [timeRegulatingFederatesAt, connectOf, isTimeRegulating]
    exact holds.regulating connectHandle federateHandle
  connected federateHandle := by
    rw [isTimeRegulating, connectOf]
    exact holds.connected federateHandle
  linked connectHandle := by
    rw [list, timeRegulatingFederatesAt]
    exact holds.linked connectHandle

theorem connects_isSome
    (holds : self.Linked)
    (reached : self.connectOf federateHandle = some connectHandle) :
    (self.connects connectHandle).isSome = true := by
  have member := (holds.members connectHandle federateHandle).mpr reached
  rw [federatesAt] at member
  cases present : self.connects connectHandle with
  | none => simp [present] at member
  | some connect => rfl

end Linked

/-! ## Linking and unlinking -/

theorem isTimeRegulating_link (other : FederateHandle) :
    (self.linkTimeRegulating connectHandle federateHandle).isTimeRegulating
        other =
      if other = federateHandle then (self.federates federateHandle).isSome
      else self.isTimeRegulating other := by
  simp only [isTimeRegulating, linkTimeRegulating, modifyFederate,
    modifyConnect, Function.update_apply]
  split
  · cases self.federates federateHandle <;> rfl
  · rfl

theorem connectOf_link (other : FederateHandle) :
    (self.linkTimeRegulating connectHandle federateHandle).connectOf other =
      self.connectOf other := by
  refine (connectOf_modifyFederate ?_ other).trans rfl
  intro federate
  rfl

theorem federatesAt_link (other : ConnectHandle) :
    (self.linkTimeRegulating connectHandle federateHandle).federatesAt other =
      self.federatesAt other := by
  refine (federatesAt_modifyConnect _ other).trans ?_
  split
  · next same =>
      rw [same, Option.map_map]
      rfl
  · rfl

theorem timeRegulatingFederatesAt_link
    (known : (self.connects connectHandle).isSome = true)
    (other : ConnectHandle) :
    (self.linkTimeRegulating connectHandle
        federateHandle).timeRegulatingFederatesAt other =
      if other = connectHandle then
        self.timeRegulatingFederatesAt connectHandle ++ [federateHandle]
      else self.timeRegulatingFederatesAt other := by
  refine (timeRegulatingFederatesAt_modifyConnect _ other).trans ?_
  obtain ⟨connect, present⟩ := Option.isSome_iff_exists.mp known
  split
  · rw [timeRegulatingFederatesAt, present]
    rfl
  · rfl

theorem isTimeRegulating_unlinkFederate (other : FederateHandle) :
    (self.unlinkFederate connectHandle federateHandle).isTimeRegulating
        other =
      if other = federateHandle then false
      else self.isTimeRegulating other := by
  simp only [isTimeRegulating, unlinkFederate, modifyFederate, modifyConnect,
    Function.update_apply]
  split
  · cases self.federates federateHandle <;> rfl
  · rfl

theorem connectOf_unlinkFederate (other : FederateHandle) :
    (self.unlinkFederate connectHandle federateHandle).connectOf other =
      self.connectOf other := by
  refine (connectOf_modifyFederate ?_ other).trans rfl
  intro federate
  rfl

theorem federatesAt_unlinkFederate (other : ConnectHandle) :
    (self.unlinkFederate connectHandle federateHandle).federatesAt other =
      self.federatesAt other := by
  refine (federatesAt_modifyConnect _ other).trans ?_
  split
  · next same =>
      rw [same, Option.map_map]
      rfl
  · rfl

theorem timeRegulatingFederatesAt_unlinkFederate (other : ConnectHandle) :
    (self.unlinkFederate connectHandle
        federateHandle).timeRegulatingFederatesAt other =
      if other = connectHandle then
        (self.timeRegulatingFederatesAt connectHandle).filter
          (· ≠ federateHandle)
      else self.timeRegulatingFederatesAt other := by
  refine (timeRegulatingFederatesAt_modifyConnect _ other).trans ?_
  split
  · rw [timeRegulatingFederatesAt]
    cases self.connects connectHandle <;> rfl
  · rfl

/-! ## Entering and removing federates -/

theorem connectOf_connectFederate (other : FederateHandle) :
    (self.connectFederate connectHandle federateHandle).connectOf other =
      if other = federateHandle then some connectHandle
      else self.connectOf other := by
  simp only [connectOf, connectFederate, modifyConnect, Function.update_apply]
  split <;> rfl

theorem isTimeRegulating_connectFederate (other : FederateHandle) :
    (self.connectFederate connectHandle federateHandle).isTimeRegulating
        other =
      if other = federateHandle then false
      else self.isTimeRegulating other := by
  simp only [isTimeRegulating, connectFederate, modifyConnect,
    Function.update_apply]
  split <;> rfl

theorem federatesAt_connectFederate
    (known : (self.connects connectHandle).isSome = true)
    (other : ConnectHandle) :
    (self.connectFederate connectHandle federateHandle).federatesAt other =
      if other = connectHandle then
        self.federatesAt connectHandle ++ [federateHandle]
      else self.federatesAt other := by
  refine (federatesAt_modifyConnect _ other).trans ?_
  obtain ⟨connect, present⟩ := Option.isSome_iff_exists.mp known
  split
  · rw [federatesAt, present]
    rfl
  · rfl

theorem timeRegulatingFederatesAt_connectFederate (other : ConnectHandle) :
    (self.connectFederate connectHandle
        federateHandle).timeRegulatingFederatesAt other =
      self.timeRegulatingFederatesAt other := by
  refine (timeRegulatingFederatesAt_modifyConnect _ other).trans ?_
  split
  · next same =>
      rw [same, Option.map_map]
      rfl
  · rfl

theorem connectOf_unlinkFromConnect (other : FederateHandle) :
    (self.unlinkFromConnect connectHandle federateHandle).connectOf other =
      if other = federateHandle then none else self.connectOf other := by
  simp only [connectOf, unlinkFromConnect, modifyFederate, modifyConnect,
    Function.update_apply]
  split
  · cases self.federates federateHandle <;> rfl
  · rfl

theorem isTimeRegulating_unlinkFromConnect (other : FederateHandle) :
    (self.unlinkFromConnect connectHandle federateHandle).isTimeRegulating
        other =
      self.isTimeRegulating other := by
  simp only [isTimeRegulating, unlinkFromConnect, modifyFederate,
    modifyConnect, Function.update_apply]
  split
  · next same =>
      rw [same]
      cases self.federates federateHandle <;> rfl
  · rfl

theorem federatesAt_unlinkFromConnect (other : ConnectHandle) :
    (self.unlinkFromConnect connectHandle federateHandle).federatesAt other =
      if other = connectHandle then
        (self.federatesAt connectHandle).filter (· ≠ federateHandle)
      else self.federatesAt other := by
  refine (federatesAt_modifyConnect _ other).trans ?_
  split
  · rw [federatesAt]
    cases self.connects connectHandle <;> rfl
  · rfl

theorem timeRegulatingFederatesAt_unlinkFromConnect (other : ConnectHandle) :
    (self.unlinkFromConnect connectHandle
        federateHandle).timeRegulatingFederatesAt other =
      self.timeRegulatingFederatesAt other := by
  refine (timeRegulatingFederatesAt_modifyConnect _ other).trans ?_
  split
  · next same =>
      rw [same, Option.map_map]
      rfl
  · rfl

namespace Linked

section

variable (holds : self.Linked)
include holds

theorem linkTimeRegulating
    (reached : self.connectOf federateHandle = some connectHandle) :
    (self.linkTimeRegulating connectHandle federateHandle).Linked := by
  have known : (self.federates federateHandle).isSome = true := by
    rw [connectOf] at reached
    cases present : self.federates federateHandle with
    | none => simp [present] at reached
    | some federate => rfl
  have lists := @timeRegulatingFederatesAt_link self connectHandle
    federateHandle (holds.connects_isSome reached)
  constructor
  · intro otherConnect other
    rw [federatesAt_link, connectOf_link]
    exact holds.members otherConnect other
  · intro otherConnect other
    rw [lists, connectOf_link, isTimeRegulating_link, known]
    have before := holds.regulating otherConnect other
    by_cases here : otherConnect = connectHandle
    · subst here
      rw [if_pos rfl, List.mem_append, List.mem_singleton, before]
      by_cases same : other = federateHandle
      · subst same
        simp [reached]
      · simp [same]
    · rw [if_neg here, before]
      by_cases same : other = federateHandle
      · subst same
        rw [reached, Option.some.injEq]
        simp [Ne.symm here]
      · rw [if_neg same]
  · intro other regulates
    rw [isTimeRegulating_link] at regulates
    rw [connectOf_link]
    by_cases same : other = federateHandle
    · rw [same, reached]
      rfl
    · rw [if_neg same] at regulates
      exact holds.connected other regulates
  · intro otherConnect
    rw [lists]
    have before := holds.linked otherConnect
    have list : otherConnect ∈ (self.linkTimeRegulating connectHandle
        federateHandle).timeRegulatingFederationConnectList ↔
        otherConnect ∈ self.timeRegulatingFederationConnectList ∨
          otherConnect = connectHandle := by
      change otherConnect ∈ (if _ then _ else _) ↔ _
      split
      · next there =>
          constructor
          · exact Or.inl
          · rintro (old | rfl)
            · exact old
            · exact there
      · rw [List.mem_append, List.mem_singleton]
    rw [list, before]
    by_cases here : otherConnect = connectHandle
    · simp [here]
    · simp [here]

theorem unlinkTimeRegulating
    (reached : self.connectOf federateHandle = some connectHandle) :
    (self.unlinkTimeRegulating connectHandle federateHandle).Linked := by
  have views : ∀ after : RegulationServer,
      after.federates = (self.unlinkFederate connectHandle
        federateHandle).federates →
      after.connects = (self.unlinkFederate connectHandle
        federateHandle).connects →
      (∀ other, other ∈ after.timeRegulatingFederationConnectList ↔
        after.timeRegulatingFederatesAt other ≠ []) →
      after.Linked := by
    intro after federates connects list
    have connectOf : ∀ other, after.connectOf other = self.connectOf other := by
      intro other
      rw [RegulationServer.connectOf, federates]
      exact connectOf_unlinkFederate other
    have regulates : ∀ other, after.isTimeRegulating other =
        if other = federateHandle then false
        else self.isTimeRegulating other := by
      intro other
      rw [RegulationServer.isTimeRegulating, federates]
      exact isTimeRegulating_unlinkFederate other
    constructor
    · intro otherConnect other
      have lists : after.federatesAt otherConnect =
          self.federatesAt otherConnect := by
        rw [federatesAt, connects]
        exact federatesAt_unlinkFederate otherConnect
      rw [connectOf, lists]
      exact holds.members otherConnect other
    · intro otherConnect other
      have lists : after.timeRegulatingFederatesAt otherConnect =
          (self.unlinkFederate connectHandle
            federateHandle).timeRegulatingFederatesAt otherConnect := by
        rw [timeRegulatingFederatesAt, connects]
        rfl
      rw [lists, timeRegulatingFederatesAt_unlinkFederate, connectOf, regulates]
      have before := holds.regulating otherConnect other
      by_cases same : other = federateHandle
      · subst same
        rw [if_pos rfl, reached]
        by_cases here : otherConnect = connectHandle
        · simp [here]
        · rw [if_neg here, before, reached]
          simp [Ne.symm here]
      · rw [if_neg same, ← before]
        by_cases here : otherConnect = connectHandle
        · subst here
          simp [same]
        · rw [if_neg here]
    · intro other regulating
      rw [regulates] at regulating
      rw [connectOf]
      by_cases same : other = federateHandle
      · simp [same] at regulating
      · rw [if_neg same] at regulating
        exact holds.connected other regulating
    · exact list
  have others : ∀ other, other ≠ connectHandle →
      (other ∈ self.timeRegulatingFederationConnectList ↔
        (self.unlinkFederate connectHandle
          federateHandle).timeRegulatingFederatesAt other ≠ []) := by
    intro other different
    rw [timeRegulatingFederatesAt_unlinkFederate, if_neg different]
    exact holds.linked other
  rw [RegulationServer.unlinkTimeRegulating]
  split
  · next empty =>
      apply views
      · rfl
      · rfl
      · intro other
        change other ∈ List.filter _ _ ↔ (self.unlinkFederate connectHandle
          federateHandle).timeRegulatingFederatesAt other ≠ []
        rw [List.mem_filter]
        by_cases here : other = connectHandle
        · subst here
          rw [List.isEmpty_iff] at empty
          simp [empty]
        · rw [← others other here]
          simp only [ne_eq, here, not_false_eq_true, decide_true, and_true]
          rfl
  · next some =>
      apply views
      · rfl
      · rfl
      · intro other
        by_cases here : other = connectHandle
        · subst here
          rw [List.isEmpty_iff] at some
          simp only [ne_eq, some, not_false_eq_true, iff_true]
          change other ∈ self.timeRegulatingFederationConnectList
          rw [holds.linked]
          intro nothing
          rw [timeRegulatingFederatesAt_unlinkFederate, if_pos rfl,
            nothing] at some
          exact some rfl
        · exact others other here

/-- What is known of a federate besides its connect and whether it is time
regulating does not matter. -/
theorem modifyFederate
    {change : RegulatingFederate → RegulatingFederate}
    (connect : ∀ federate,
      (change federate).federationConnect = federate.federationConnect)
    (regulates : ∀ federate,
      (change federate).isTimeRegulating = federate.isTimeRegulating) :
    (self.modifyFederate federateHandle change).Linked := by
  apply holds.congr
  · exact connectOf_modifyFederate connect
  · intro other
    simp only [RegulationServer.isTimeRegulating,
      RegulationServer.modifyFederate, Function.update_apply]
    split
    · next same =>
        rw [same]
        cases self.federates federateHandle with
        | none => rfl
        | some federate => exact regulates federate
    · rfl
  · intro _
    rfl
  · intro _
    rfl
  · rfl

theorem sendToParent
    (message : RegulationMessage) :
    (self.sendToParent message).Linked :=
  holds.congr (fun _ => rfl) (fun _ => rfl) (fun _ => rfl) (fun _ => rfl) rfl

theorem sendToChildren
    (children : Children) (message : RegulationMessage) :
    (self.sendToChildren children message).Linked :=
  holds.congr (fun _ => rfl) (fun _ => rfl) (fun _ => rfl) (fun _ => rfl) rfl

theorem getOrInsertConnect
    (connectHandle : ConnectHandle) :
    (self.getOrInsertConnect connectHandle).Linked := by
  apply holds.congr
  · intro _
    rfl
  · intro _
    rfl
  · intro other
    simp only [federatesAt, RegulationServer.getOrInsertConnect,
      Function.update_apply]
    split
    · next same =>
        rw [same]
        cases self.connects connectHandle <;> rfl
    · rfl
  · intro other
    simp only [timeRegulatingFederatesAt, RegulationServer.getOrInsertConnect,
      Function.update_apply]
    split
    · next same =>
        rw [same]
        cases self.connects connectHandle <;> rfl
    · rfl
  · rfl

theorem isTimeRegulating_eq_false
    (unreached : self.connectOf federateHandle = none) :
    self.isTimeRegulating federateHandle = false := by
  by_contra regulates
  have reached := holds.connected federateHandle
    (Bool.not_eq_false _ ▸ regulates)
  simp [unreached] at reached

/-- A federate that is not known yet is put behind a connect. -/
theorem connectFederate
    (unknown : self.federates federateHandle = none)
    (known : (self.connects connectHandle).isSome = true) :
    (self.connectFederate connectHandle federateHandle).Linked := by
  have unreached : self.connectOf federateHandle = none := by
    rw [connectOf, unknown]
    rfl
  have idle := holds.isTimeRegulating_eq_false unreached
  have regulates : ∀ other, (self.connectFederate connectHandle
      federateHandle).isTimeRegulating other = self.isTimeRegulating other := by
    intro other
    rw [isTimeRegulating_connectFederate]
    split
    · next same => rw [same, idle]
    · rfl
  constructor
  · intro otherConnect other
    rw [federatesAt_connectFederate known, connectOf_connectFederate]
    have before := holds.members otherConnect other
    by_cases here : otherConnect = connectHandle
    · subst here
      rw [if_pos rfl, List.mem_append, List.mem_singleton, before]
      by_cases same : other = federateHandle
      · simp [same]
      · simp [same]
    · rw [if_neg here, before]
      by_cases same : other = federateHandle
      · subst same
        simp [unreached, Ne.symm here]
      · rw [if_neg same]
  · intro otherConnect other
    rw [timeRegulatingFederatesAt_connectFederate, connectOf_connectFederate,
      regulates, holds.regulating otherConnect other]
    by_cases same : other = federateHandle
    · subst same
      simp [idle]
    · rw [if_neg same]
  · intro other
    rw [regulates, connectOf_connectFederate]
    intro yes
    split
    · rfl
    · exact holds.connected other yes
  · intro otherConnect
    rw [timeRegulatingFederatesAt_connectFederate]
    exact holds.linked otherConnect

end

theorem insertFederate
    (holds : self.Linked)
    (unknown : self.federates federateHandle = none)
    (connect : Option ConnectHandle) :
    (self.insertFederate connect federateHandle).Linked := by
  rw [RegulationServer.insertFederate]
  split
  · next handle found =>
      exact holds.connectFederate unknown (Option.filter_eq_some_iff.mp found).2
  · apply holds.congr
    · intro other
      simp only [connectOf, Function.update_apply]
      split
      · next same =>
          rw [same, unknown]
          rfl
      · rfl
    · intro other
      simp only [isTimeRegulating, Function.update_apply]
      split
      · next same =>
          rw [same, unknown]
          rfl
      · rfl
    · intro _
      rfl
    · intro _
      rfl
    · rfl

/-- A federate that is not time regulating is removed from its connect. -/
theorem disconnectFederate
    (holds : self.Linked)
    (idle : self.isTimeRegulating federateHandle = false) :
    (self.disconnectFederate federateHandle).Linked := by
  rw [RegulationServer.disconnectFederate]
  split
  · exact holds
  · next connectHandle reached =>
      constructor
      · intro otherConnect other
        rw [federatesAt_unlinkFromConnect, connectOf_unlinkFromConnect]
        have before := holds.members otherConnect other
        by_cases same : other = federateHandle
        · subst same
          rw [if_pos rfl]
          by_cases here : otherConnect = connectHandle
          · simp [here]
          · rw [if_neg here, before, reached]
            simp [Ne.symm here]
        · rw [if_neg same, ← before]
          by_cases here : otherConnect = connectHandle
          · subst here
            simp [same]
          · rw [if_neg here]
      · intro otherConnect other
        rw [timeRegulatingFederatesAt_unlinkFromConnect,
          connectOf_unlinkFromConnect, isTimeRegulating_unlinkFromConnect,
          holds.regulating otherConnect other]
        by_cases same : other = federateHandle
        · subst same
          simp [idle]
        · rw [if_neg same]
      · intro other
        rw [isTimeRegulating_unlinkFromConnect, connectOf_unlinkFromConnect]
        intro regulates
        by_cases same : other = federateHandle
        · rw [same, idle] at regulates
          cases regulates
        · rw [if_neg same]
          exact holds.connected other regulates
      · intro otherConnect
        rw [timeRegulatingFederatesAt_unlinkFromConnect]
        exact holds.linked otherConnect

/-- A federate without connect goes. -/
theorem forgetFederate
    (holds : self.Linked)
    (unreached : self.connectOf federateHandle = none) :
    (self.forgetFederate federateHandle).Linked := by
  have idle := holds.isTimeRegulating_eq_false unreached
  apply holds.congr
  · intro other
    simp only [connectOf, RegulationServer.forgetFederate,
      Function.update_apply]
    split
    · next same =>
        rw [same]
        exact unreached.symm
    · rfl
  · intro other
    simp only [isTimeRegulating, RegulationServer.forgetFederate,
      Function.update_apply]
    split
    · next same =>
        rw [same]
        exact idle.symm
    · rfl
  · intro _
    rfl
  · intro _
    rfl
  · rfl

/-- A connect without federates goes. -/
theorem eraseConnect
    (holds : self.Linked)
    (empty : self.federatesAt connectHandle = []) :
    (self.eraseConnect connectHandle).Linked := by
  have silent : self.timeRegulatingFederatesAt connectHandle = [] := by
    rw [List.eq_nil_iff_forall_not_mem]
    intro other member
    have reached := ((holds.regulating connectHandle other).mp member).1
    rw [← holds.members, empty] at reached
    exact List.not_mem_nil reached
  apply holds.congr
  · intro _
    rfl
  · intro _
    rfl
  · intro other
    simp only [federatesAt, RegulationServer.eraseConnect,
      Function.update_apply]
    split
    · next same =>
        rw [same]
        exact empty.symm
    · rfl
  · intro other
    simp only [timeRegulatingFederatesAt, RegulationServer.eraseConnect,
      Function.update_apply]
    split
    · next same =>
        rw [same]
        exact silent.symm
    · rfl
  · have unlinked : connectHandle ∉
        self.timeRegulatingFederationConnectList := by
      rw [holds.linked]
      exact not_not.mpr silent
    apply List.filter_eq_self.mpr
    intro other member
    rw [decide_eq_true_iff]
    rintro rfl
    exact unlinked member

end Linked
end RegulationServer
end ServerNode
end OpenRTI
