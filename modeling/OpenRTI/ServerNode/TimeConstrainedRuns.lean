import OpenRTI.ServerNode.TimeConstrainedPath

/-!
# Agreement on time constrained federates

Above each node there is at most one enable message that has not come back, and
none if the node knows the federate to be time constrained.  The messages below
the node lead from there to the mode of the federate.
-/

namespace OpenRTI
namespace ServerNode

open Foundation
open ServerModel
open TimeManagement (TimeConstrainedMode)

namespace FederatePath

/-- How often a node knows the federate to be time constrained or is about to
learn so. -/
def marks (root : Nat) (self : FederatePath) (node : Nat) : Nat :=
  self.enablesAbove root node + if self.isTimeConstrained node then 1 else 0

structure Regular (root : Nat) (path : FederatePath) : Prop where
  single : ∀ node ≤ root, path.marks root node ≤ 1
  settled : ∀ node ≤ root,
    settles (decide (path.marks root node = 1)) (path.below node) =
      some (decide (path.timeConstrainedMode ≠ .timeConstrainedDisabled))
  downward : ∀ node ≤ root,
    .disableTimeConstrained ∉ path.downFrom node

namespace Regular

variable
  {root node : Nat}
  {self : FederatePath}
  {rest : List NotifyMessage}

theorem initial (root : Nat) : Regular root {} where
  single := by
    intro node _
    simp [marks, enablesAbove, enablesBelow]
  settled := by
    intro node _
    rw [below_eq_nil fun _ _ => rfl]
    simp [settles, marks, enablesAbove, enablesBelow]
  downward := by
    intro node _
    exact List.not_mem_nil

/-- A node that an enable message is delivered to from below knows nothing. -/
theorem marks_of_enable
    (regular : self.Regular root)
    (bound : node ≤ root)
    (head : self.upTo node = .enableTimeConstrained :: rest) :
    self.marks root node = 0 := by
  have settled := regular.settled node bound
  have single := regular.single node bound
  rw [below_receiveUp head] at settled
  by_contra known
  have once : self.marks root node = 1 := by omega
  simp [once, settles] at settled

/-- A node that a disable message is delivered to from below knows of the
federate, or is about to. -/
theorem marks_of_disable
    (regular : self.Regular root)
    (bound : node ≤ root)
    (head : self.upTo node = .disableTimeConstrained :: rest) :
    self.marks root node = 1 := by
  have settled := regular.settled node bound
  rw [below_receiveUp head] at settled
  by_contra unknown
  simp [unknown, settles] at settled

variable {message : NotifyMessage}

/-- A call of the federate keeps the agreement. -/
theorem call
    (regular : self.Regular root)
    {mode : TimeConstrainedMode}
    (leads : settles
      (decide (self.timeConstrainedMode ≠ .timeConstrainedDisabled))
      [message] = some (decide (mode ≠ .timeConstrainedDisabled))) :
    ((self.withMode mode).sendUp 0 message).Regular root := by
  have marks : ∀ node, ((self.withMode mode).sendUp 0 message).marks root
      node = self.marks root node := by
    intro node
    have above : ((self.withMode mode).sendUp 0 message).enablesAbove root
        node = self.enablesAbove root node := by
      apply enablesAbove_congr
      intro above higher
      have other : ((self.withMode mode).sendUp 0 message).upTo above =
          self.upTo above :=
        Function.update_of_ne (by omega) _ _
      rw [enablesBelow, enablesBelow, other]
      rfl
    rw [FederatePath.marks, FederatePath.marks, above]
    rfl
  constructor
  · intro node bound
    rw [marks]
    exact regular.single node bound
  · intro node bound
    have before : (self.withMode mode).below node = self.below node :=
      below_congr fun _ _ => rfl
    rw [marks, below_sendUp_zero, settles_append, before,
      regular.settled node bound]
    exact leads
  · exact regular.downward

variable {after : FederatePath}

/-- A step that concerns one node keeps the agreement of the others. -/
theorem at_node
    (regular : self.Regular root) (changed : Nat)
    (mode : after.timeConstrainedMode = self.timeConstrainedMode)
    (elsewhere : ∀ other ≤ root, other ≠ changed →
      after.marks root other = self.marks root other ∧
        after.below other = self.below other)
    (single : after.marks root changed ≤ 1)
    (settled : settles (decide (after.marks root changed = 1))
        (after.below changed) =
      settles (decide (self.marks root changed = 1)) (self.below changed))
    (downward : ∀ other ≤ root,
      .disableTimeConstrained ∉ after.downFrom other) :
    after.Regular root := by
  refine ⟨?_, ?_, downward⟩
  · intro other bound
    by_cases same : other = changed
    · rwa [same]
    · rw [(elsewhere other bound same).1]
      exact regular.single other bound
  · intro other bound
    rw [mode, ← regular.settled other bound]
    by_cases same : other = changed
    · rwa [same]
    · rw [(elsewhere other bound same).1, (elsewhere other bound same).2]

/-! ## Marks after a step -/

/-- Nothing is counted otherwise if no enable message moves. -/
theorem marks_congr
    {other : Nat}
    (same : ∀ above, other < above →
      after.enablesBelow above = self.enablesBelow above)
    (flag : after.isTimeConstrained other = self.isTimeConstrained other) :
    after.marks root other = self.marks root other := by
  rw [FederatePath.marks, FederatePath.marks, flag, enablesAbove_congr same]

section

variable (regular : self.Regular root)
include regular

/-- Passing an enable message up. -/
theorem passEnable
    (bound : node < root)
    (head : self.upTo node = .enableTimeConstrained :: rest) :
    ((self.receiveUp node rest).sendUp (node + 1)
      .enableTimeConstrained).Regular root := by
  have unknown := regular.marks_of_enable bound.le head
  have moved : ∀ other,
      ((self.receiveUp node rest).sendUp (node + 1)
          .enableTimeConstrained).enablesBelow other +
          (if other = node then 1 else 0) =
        self.enablesBelow other + if other = node + 1 then 1 else 0 := by
    intro other
    have received := enablesBelow_receiveUp head other
    have sent := enablesBelow_sendUp (self.receiveUp node rest) (node + 1)
      .enableTimeConstrained other
    simp only [List.count_singleton_self] at received sent
    omega
  have marks : ∀ other, ((self.receiveUp node rest).sendUp (node + 1)
      .enableTimeConstrained).marks root other =
      self.marks root other + if other = node then 1 else 0 := by
    intro other
    have above := enablesAbove_move bound moved other
    rw [FederatePath.marks, FederatePath.marks, above, Nat.add_right_comm]
    rfl
  have lists : self.below node =
      .enableTimeConstrained :: ((self.receiveUp node rest).sendUp (node + 1)
        .enableTimeConstrained).below node := by
    rw [below_sendUp_of_lt _ _ (Nat.lt_succ_self node)]
    exact below_receiveUp head
  apply regular.at_node node
  · rfl
  · intro other inside different
    refine ⟨by rw [marks, if_neg different, Nat.add_zero], ?_⟩
    by_cases lower : other < node
    · rw [below_sendUp_of_lt _ _ (by omega),
        below_receiveUp_of_lt self rest lower]
    · exact below_pass head (by omega)
  · rw [marks, unknown, if_pos rfl]
  · rw [lists, marks, unknown, if_pos rfl]
    rfl
  · exact regular.downward

/-- The root takes note of the federate. -/
theorem insertAtRoot
    (head : self.upTo root = .enableTimeConstrained :: rest) :
    (((self.receiveUp root rest).setTimeConstrained root true).sendDown root
      .enableTimeConstrained).Regular root := by
  have unknown := regular.marks_of_enable (Nat.le_refl root) head
  have same : ∀ other,
      (((self.receiveUp root rest).setTimeConstrained root true).sendDown root
        .enableTimeConstrained).enablesBelow other =
        self.enablesBelow other := by
    intro other
    have received := enablesBelow_receiveUp head other
    have sent := enablesBelow_sendDown
      ((self.receiveUp root rest).setTimeConstrained root true) root
      .enableTimeConstrained other
    simp only [List.count_singleton_self] at received sent
    change _ = (self.receiveUp root rest).enablesBelow other + _ at sent
    omega
  have known : (((self.receiveUp root rest).setTimeConstrained root
      true).sendDown root .enableTimeConstrained).marks root root = 1 := by
    simp [FederatePath.marks, sendDown, setTimeConstrained]
  apply regular.at_node root
  · rfl
  · intro other inside different
    refine ⟨marks_congr (fun above _ => same above)
      (Function.update_of_ne different _ _), ?_⟩
    rw [below_sendDown, below_setTimeConstrained]
    exact below_receiveUp_of_lt self rest
      (Nat.lt_of_le_of_ne inside different)
  · rw [known]
  · rw [below_receiveUp head, known, unknown, below_sendDown,
      below_setTimeConstrained]
    rfl
  · intro other inside
    by_cases here : other = root
    · rw [here]
      simp [sendDown, setTimeConstrained, receiveUp,
        regular.downward root (Nat.le_refl root)]
    · have elsewhere : (((self.receiveUp root rest).setTimeConstrained root
          true).sendDown root .enableTimeConstrained).downFrom other =
          self.downFrom other :=
        Function.update_of_ne here _ _
      rw [elsewhere]
      exact regular.downward other inside

/-- A node that an enable message comes back to knows nothing yet. -/
theorem unknown_of_back
    (bound : node < root)
    (head : self.downFrom (node + 1) = .enableTimeConstrained :: rest) :
    self.isTimeConstrained node = false := by
  have single := regular.single node bound.le
  have above : 0 < self.enablesAbove root node := by
    apply enablesAbove_pos bound
    rw [head]
    exact List.mem_cons_self
  by_contra known
  rw [Bool.not_eq_false] at known
  rw [FederatePath.marks, if_pos known] at single
  omega

/-- A node takes note of the federate when the enable message comes back. -/
theorem insertBelowRoot
    (bound : node < root)
    (head : self.downFrom (node + 1) = .enableTimeConstrained :: rest) :
    (((self.receiveDown (node + 1) rest).setTimeConstrained node
      true).sendDown node .enableTimeConstrained).Regular root := by
  have unknown := regular.unknown_of_back bound head
  have moved : ∀ other,
      self.enablesBelow other + (if other = node then 1 else 0) =
        (((self.receiveDown (node + 1) rest).setTimeConstrained node
          true).sendDown node .enableTimeConstrained).enablesBelow other +
          if other = node + 1 then 1 else 0 := by
    intro other
    have received := enablesBelow_receiveDown head other
    have sent := enablesBelow_sendDown
      ((self.receiveDown (node + 1) rest).setTimeConstrained node true) node
      .enableTimeConstrained other
    simp only [List.count_singleton_self] at received sent
    change _ = (self.receiveDown (node + 1) rest).enablesBelow other + _ at sent
    omega
  have marks : ∀ other, (((self.receiveDown (node + 1) rest).setTimeConstrained
      node true).sendDown node .enableTimeConstrained).marks root other =
      self.marks root other := by
    intro other
    have above := enablesAbove_move bound moved other
    rw [FederatePath.marks, FederatePath.marks, above]
    by_cases here : other = node
    · rw [here, if_pos rfl, unknown]
      simp [sendDown, setTimeConstrained]
    · rw [if_neg here]
      simp only [sendDown, setTimeConstrained,
        Function.update_of_ne here]
      rfl
  have lists : ∀ other, (((self.receiveDown (node + 1) rest).setTimeConstrained
      node true).sendDown node .enableTimeConstrained).below other =
      self.below other := by
    intro other
    simp
  apply regular.at_node node
  · rfl
  · intro other _ _
    exact ⟨marks other, lists other⟩
  · rw [marks]
    exact regular.single node bound.le
  · rw [marks, lists]
  · intro other inside member
    have before := regular.downward other inside
    by_cases here : other = node
    · subst here
      simp only [sendDown, Function.update_self, setTimeConstrained,
        receiveDown, List.mem_append, List.mem_singleton,
        Function.update_of_ne (Nat.lt_succ_self other).ne] at member
      simp [before] at member
    · simp only [sendDown, setTimeConstrained, receiveDown,
        Function.update_of_ne here] at member
      by_cases next : other = node + 1
      · subst next
        rw [Function.update_self] at member
        rw [head] at before
        exact before (List.mem_cons_of_mem _ member)
      · rw [Function.update_of_ne next] at member
        exact before member

/-- A node that a disable message is delivered to from below knows of the
federate if the enable message has come back. -/
theorem known_of_disable
    (bound : node ≤ root)
    (head : self.upTo node = .disableTimeConstrained :: rest) :
    self.isTimeConstrained node = decide (self.enablesAbove root node = 0) := by
  have once := regular.marks_of_disable bound head
  rw [FederatePath.marks] at once
  cases known : self.isTimeConstrained node
  · rw [known] at once
    simp only [Bool.false_eq_true, if_false] at once
    symm
    rw [decide_eq_false_iff_not]
    omega
  · rw [known, if_pos rfl] at once
    simp [Nat.succ.inj once]

/-- A node forgets about the federate and leaves the rest to the nodes above. -/
theorem erase
    (bound : node ≤ root)
    (head : self.upTo node = .disableTimeConstrained :: rest)
    (back : self.enablesAbove root node = 0)
    (mode : after.timeConstrainedMode = self.timeConstrainedMode)
    (downFrom : after.downFrom = self.downFrom)
    (enables : ∀ other, after.enablesBelow other = self.enablesBelow other)
    (flags : after.isTimeConstrained = self.isTimeConstrained)
    (here : after.below node = (self.receiveUp node rest).below node)
    (elsewhere : ∀ other ≤ root, other ≠ node →
      after.below other = self.below other) :
    (after.setTimeConstrained node false).Regular root := by
  have once := regular.marks_of_disable bound head
  have forgotten : (after.setTimeConstrained node false).marks root node =
      0 := by
    have above : (after.setTimeConstrained node false).enablesAbove root
        node = self.enablesAbove root node :=
      enablesAbove_congr fun above _ => enables above
    rw [FederatePath.marks, above, back]
    simp [setTimeConstrained]
  apply regular.at_node node
  · exact mode
  · intro other inside different
    constructor
    · apply marks_congr
      · intro above _
        exact enables above
      · rw [← flags]
        exact Function.update_of_ne different _ _
    · rw [below_setTimeConstrained]
      exact elsewhere other inside different
  · rw [forgotten]
    exact Nat.zero_le 1
  · rw [forgotten, once, below_setTimeConstrained, here, below_receiveUp head]
    rfl
  · intro other inside
    change _ ∉ after.downFrom other
    rw [downFrom]
    exact regular.downward other inside

theorem eraseAtRoot
    (head : self.upTo root = .disableTimeConstrained :: rest) :
    ((self.receiveUp root rest).setTimeConstrained root false).Regular
      root := by
  have enables : ∀ other, (self.receiveUp root rest).enablesBelow other =
      self.enablesBelow other := by
    intro other
    have received := enablesBelow_receiveUp head other
    simpa using received
  have lists : ∀ other ≤ root, other ≠ root →
      (self.receiveUp root rest).below other = self.below other := by
    intro other inside different
    exact below_receiveUp_of_lt self rest
      (Nat.lt_of_le_of_ne inside different)
  have mode : (self.receiveUp root rest).timeConstrainedMode =
      self.timeConstrainedMode := rfl
  exact regular.erase (Nat.le_refl root) head (enablesAbove_root root self)
    mode rfl enables rfl rfl lists

theorem eraseBelowRoot
    (bound : node < root)
    (head : self.upTo node = .disableTimeConstrained :: rest)
    (back : self.enablesAbove root node = 0) :
    (((self.receiveUp node rest).sendUp (node + 1)
      .disableTimeConstrained).setTimeConstrained node false).Regular
        root := by
  have enables : ∀ other, ((self.receiveUp node rest).sendUp (node + 1)
      .disableTimeConstrained).enablesBelow other =
      self.enablesBelow other := by
    intro other
    have received := enablesBelow_receiveUp head other
    have sent := enablesBelow_sendUp (self.receiveUp node rest) (node + 1)
      .disableTimeConstrained other
    rw [sent]
    simpa using received
  have lists : ∀ other ≤ root, other ≠ node →
      ((self.receiveUp node rest).sendUp (node + 1)
        .disableTimeConstrained).below other = self.below other := by
    intro other _ different
    by_cases lower : other < node
    · rw [below_sendUp_of_lt _ _ (Nat.lt_succ_of_lt lower)]
      exact below_receiveUp_of_lt self rest lower
    · exact below_pass head (by omega)
  have here := below_sendUp_of_lt (self.receiveUp node rest)
    .disableTimeConstrained (Nat.lt_succ_self node)
  have mode : ((self.receiveUp node rest).sendUp (node + 1)
      .disableTimeConstrained).timeConstrainedMode =
      self.timeConstrainedMode := rfl
  exact regular.erase bound.le head back mode rfl enables rfl here lists

/-- The federate ignores what reaches it. -/
theorem toFederate
    (head : self.downFrom 0 = message :: rest) :
    (self.receiveDown 0 rest).Regular root := by
  have marks : ∀ other, (self.receiveDown 0 rest).marks root other =
      self.marks root other := by
    intro other
    apply marks_congr
    · intro above higher
      have received := enablesBelow_receiveDown head above
      rw [if_neg (by omega)] at received
      exact received
    · rfl
  apply regular.at_node 0
  · rfl
  · intro other _ _
    exact ⟨marks other, below_receiveDown ..⟩
  · rw [marks]
    exact regular.single 0 (Nat.zero_le root)
  · rw [marks, below_receiveDown]
  · intro other inside member
    have before := regular.downward other inside
    by_cases same : other = 0
    · subst same
      simp only [receiveDown, Function.update_self] at member
      rw [head] at before
      exact before (List.mem_cons_of_mem _ member)
    · simp only [receiveDown, Function.update_of_ne same] at member
      exact before member

/-- The callback changes the mode from pending to enabled. -/
theorem callback
    (pending : self.timeConstrainedMode = .timeConstrainedEnablePending) :
    (self.withMode .timeConstrainedEnabled).Regular root := by
  constructor
  · exact regular.single
  · intro node bound
    have same : (self.withMode .timeConstrainedEnabled).below node =
        self.below node :=
      below_congr fun _ _ => rfl
    have settled := regular.settled node bound
    rw [pending] at settled
    rw [same]
    exact settled
  · exact regular.downward

/-! ## Deliveries -/

theorem acceptEnableFromBelow
    (bound : node ≤ root)
    (head : self.upTo node = .enableTimeConstrained :: rest) :
    ∃ after, (self.receiveUp node rest).acceptFromBelow root node
      .enableTimeConstrained = .ok after ∧ after.Regular root := by
  simp only [acceptFromBelow]
  by_cases top : node = root
  · subst top
    have unknown := regular.marks_of_enable bound head
    have flag : (self.receiveUp node rest).isTimeConstrained node = false := by
      by_contra known
      have once : self.isTimeConstrained node = true :=
        Bool.not_eq_false _ ▸ known
      rw [FederatePath.marks, if_pos once] at unknown
      omega
    refine ⟨_, ?_, regular.insertAtRoot head⟩
    rw [if_pos rfl, insertTimeConstrained, flag]
    rfl
  · exact ⟨_, if_neg top, regular.passEnable (by omega) head⟩

/-- A node throws if and only if the disable message has overtaken an enable
message. -/
theorem acceptDisableFromBelow
    (bound : node ≤ root)
    (head : self.upTo node = .disableTimeConstrained :: rest) :
    if self.enablesAbove root node = 0 then
      ∃ after, (self.receiveUp node rest).acceptFromBelow root node
        .disableTimeConstrained = .ok after ∧ after.Regular root
    else
      ∃ failure, (self.receiveUp node rest).acceptFromBelow root node
        .disableTimeConstrained = .error failure := by
  have known : (self.receiveUp node rest).isTimeConstrained node =
      decide (self.enablesAbove root node = 0) :=
    regular.known_of_disable bound head
  simp only [acceptFromBelow, eraseTimeConstrained, known]
  split
  · next back =>
      rw [decide_eq_true back, if_pos rfl]
      by_cases top : node = root
      · subst top
        rw [if_pos rfl]
        exact ⟨_, rfl, regular.eraseAtRoot head⟩
      · rw [if_neg top]
        exact ⟨_, rfl, regular.eraseBelowRoot (by omega) head back⟩
  · next away =>
      rw [decide_eq_false away]
      exact ⟨_, rfl⟩

theorem acceptFromParent
    (bound : node < root)
    (head : self.downFrom (node + 1) = message :: rest) :
    ∃ after, (self.receiveDown (node + 1) rest).acceptFromParent node message =
      .ok after ∧ after.Regular root := by
  cases message with
  | enableTimeConstrained =>
      have unknown : (self.receiveDown (node + 1) rest).isTimeConstrained
          node = false :=
        regular.unknown_of_back bound head
      refine ⟨_, ?_, regular.insertBelowRoot bound head⟩
      rw [FederatePath.acceptFromParent, insertTimeConstrained, unknown]
      rfl
  | disableTimeConstrained =>
      have never := regular.downward (node + 1) bound
      rw [head] at never
      exact absurd List.mem_cons_self never

end

/-- A step leads to a regular state, unless a disable message overtakes an
enable message.  Then a node throws. -/
theorem step
    (regular : self.Regular root)
    {input : FederatePathInput} {result : Except Failure FederatePath}
    (stepped : self.step root input = some result) :
    if self.overtakesNone root input then
      ∃ after, result = .ok after ∧ after.Regular root
    else ∃ failure, result = .error failure := by
  cases input with
  | enableTimeConstrained =>
      simp only [FederatePath.step, enableTimeConstrained,
        Option.map_eq_some_iff] at stepped
      obtain ⟨after, called, rfl⟩ := stepped
      split at called
      · next disabled =>
          refine ⟨after, rfl, ?_⟩
          rw [← Option.some.inj called]
          apply regular.call
          rw [disabled]
          rfl
      · simp at called
  | timeConstrainedEnabled =>
      simp only [FederatePath.step, timeConstrainedEnabled,
        Option.map_eq_some_iff] at stepped
      obtain ⟨after, called, rfl⟩ := stepped
      split at called
      · next pending =>
          refine ⟨after, rfl, ?_⟩
          rw [← Option.some.inj called]
          exact regular.callback pending
      · simp at called
  | disableTimeConstrained =>
      simp only [FederatePath.step, disableTimeConstrained,
        Option.map_eq_some_iff] at stepped
      obtain ⟨after, called, rfl⟩ := stepped
      split at called
      · next enabled =>
          refine ⟨after, rfl, ?_⟩
          rw [← Option.some.inj called]
          apply regular.call
          rw [enabled]
          rfl
      · simp at called
  | deliverUpTo node =>
      simp only [FederatePath.step] at stepped
      split at stepped
      · simp at stepped
      · next inside =>
          have bound : node ≤ root := Nat.le_of_not_lt inside
          cases head : self.upTo node with
          | nil => simp [head] at stepped
          | cons message rest =>
              simp only [head, Option.some.injEq] at stepped
              rw [← stepped]
              cases message with
              | enableTimeConstrained =>
                  have passes : self.overtakesNone root (.deliverUpTo node) =
                      true := by
                    simp [overtakesNone, head]
                  rw [if_pos passes]
                  exact regular.acceptEnableFromBelow bound head
              | disableTimeConstrained =>
                  have accepted := regular.acceptDisableFromBelow bound head
                  simpa [overtakesNone, head] using accepted
  | deliverDownTo node =>
      simp only [FederatePath.step] at stepped
      split at stepped
      · simp at stepped
      · next inside =>
          have bound : node < root := Nat.lt_of_not_le inside
          cases head : self.downFrom (node + 1) with
          | nil => simp [head] at stepped
          | cons message rest =>
              simp only [head, Option.some.injEq] at stepped
              rw [← stepped]
              exact regular.acceptFromParent bound head
  | deliverToFederate =>
      cases head : self.downFrom 0 with
      | nil => simp [FederatePath.step, head] at stepped
      | cons message rest =>
          simp only [FederatePath.step, head, Option.some.injEq] at stepped
          exact ⟨_, stepped.symm, regular.toFederate head⟩

/-- The nodes know the mode of the federate once nothing is on its way. -/
theorem agrees
    (regular : self.Regular root) (quiet : self.Quiet root)
    (bound : node ≤ root) :
    self.isTimeConstrained node =
      decide (self.timeConstrainedMode = .timeConstrainedEnabled) := by
  obtain ⟨empty, settledMode⟩ := quiet
  have nothing : self.below node = [] :=
    below_eq_nil fun lower inside => (empty lower (by omega)).1
  have settled := regular.settled node bound
  rw [nothing, settles, FederatePath.marks, enablesAbove_eq_zero empty]
    at settled
  cases mode : self.timeConstrainedMode <;>
    cases known : self.isTimeConstrained node <;>
    simp_all

end Regular

/-! ## Runs -/

theorem reachable_regular
    {root : Nat} {self : FederatePath}
    (reachable : (system root).Reachable self) :
    self.Regular root := by
  apply reachable.invariant
  · exact Regular.initial root
  · intro before input after regular stepped
    simp only [system] at stepped
    split at stepped
    · next result taken =>
        rw [Option.some.injEq] at stepped
        have led := regular.step taken
        split at led
        · obtain ⟨_, same, kept⟩ := led
          cases same
          rwa [← stepped]
        · obtain ⟨_, different⟩ := led
          cases different
    · simp at stepped

/-- In whatever order calls, the callback and deliveries come, a node throws if
and only if a disable message overtakes an enable message, and the nodes know
the mode of the federate once nothing is on its way. -/
theorem isTimeConstrained_agrees
    {root : Nat}
    {self : FederatePath}
    (reachable : (system root).Reachable self) :
    (∀ input result, self.step root input = some result →
      ((∃ after, result = .ok after) ↔
        self.overtakesNone root input = true)) ∧
      (self.Quiet root → ∀ node ≤ root,
        (self.isTimeConstrained node = true ↔
          self.timeConstrainedMode = .timeConstrainedEnabled)) := by
  have regular := reachable_regular reachable
  constructor
  · intro input result stepped
    have led := regular.step stepped
    split at led
    · next passes =>
        obtain ⟨after, same, _⟩ := led
        exact ⟨fun _ => passes, fun _ => ⟨after, same⟩⟩
    · next overtakes =>
        obtain ⟨failure, same⟩ := led
        constructor
        · rintro ⟨after, other⟩
          rw [same] at other
          cases other
        · intro passes
          exact absurd passes overtakes
  · intro quiet node bound
    rw [regular.agrees quiet bound, decide_eq_true_iff]

/-- The federate enables and disables, and the enable message comes back before
the disable message is sent. -/
def inTurn : List FederatePathInput :=
  [.enableTimeConstrained, .timeConstrainedEnabled, .deliverUpTo 0,
    .deliverUpTo 1, .deliverDownTo 0, .deliverToFederate,
    .disableTimeConstrained, .deliverUpTo 0]

/-- The disable message is on its way to the root, which does not throw. -/
theorem isTimeConstrained_agrees_in_turn :
    ∃ final, (system 1).run {} inTurn = some final ∧
      ∃ after, final.step 1 (.deliverUpTo 1) = some (.ok after) := by
  have reachable : (system 1).Reachable _ :=
    TransitionSystem.reachable_of_run inTurn rfl
  refine ⟨_, rfl, ?_⟩
  obtain ⟨after, stepped⟩ :=
    ((isTimeConstrained_agrees reachable).1 (.deliverUpTo 1) _ rfl).mpr
      (by decide)
  exact ⟨after, congrArg some stepped⟩

/-- The node below the root throws if the disable message is sent before the
enable message has come back. -/
theorem isTimeConstrained_agrees_fails_overtaken :
    ∃ self, (system 1).Reachable self ∧
      ∃ failure, self.step 1 (.deliverUpTo 0) = some (.error failure) :=
  ⟨_, TransitionSystem.reachable_of_run
      [.enableTimeConstrained, .timeConstrainedEnabled, .deliverUpTo 0,
        .disableTimeConstrained] rfl,
    _, rfl⟩

end FederatePath
end ServerNode
end OpenRTI
