import Mathlib.Algebra.BigOperators.Group.Finset.Piecewise
import Mathlib.Algebra.Order.BigOperators.Group.Finset
import Mathlib.Order.Interval.Finset.Nat
import OpenRTI.Foundation.TransitionSystem
import OpenRTI.ServerModel.HandleAllocator
import OpenRTI.TimeManagement.TemplateTimeManagement

/-!
# Time constrained federates on the path to the root

A federate that enables or disables time constrained mode tells the server nodes
on the path to the root.  An `EnableTimeConstrainedNotifyMessage` is passed up to
the root, and the nodes take note of it on its way back.  A
`DisableTimeConstrainedNotifyMessage` is taken note of by each node on its way
up, which throws where it does not know the federate to be time constrained.

The nodes are numbered from the one the federate is connected to, which is 0, up
to the root.  The federate stays joined.  Connects off the path are left out, as
are the checks of the ambassador that are about advancing time.
-/

namespace OpenRTI
namespace ServerNode

open Foundation
open ServerModel
open TimeManagement (TimeConstrainedMode)

inductive NotifyMessage
  | enableTimeConstrained
  | disableTimeConstrained
  deriving DecidableEq

/-- The federate and the nodes, with what is on its way up to a node and what is
on its way down from a node, the oldest message first. -/
structure FederatePath where
  timeConstrainedMode : TimeConstrainedMode := .timeConstrainedDisabled
  isTimeConstrained : Nat → Bool := fun _ => false
  upTo : Nat → List NotifyMessage := fun _ => []
  downFrom : Nat → List NotifyMessage := fun _ => []

namespace FederatePath

/-! ## The federate -/

def withMode
    (timeConstrainedMode : TimeConstrainedMode)
    (self : FederatePath) : FederatePath :=
  { self with timeConstrainedMode }

/-- Send a message up to a node. -/
def sendUp
    (node : Nat)
    (message : NotifyMessage)
    (self : FederatePath) : FederatePath :=
  { self with
    upTo := Function.update self.upTo node (self.upTo node ++ [message]) }

/-- Send a message down from a node. -/
def sendDown
    (node : Nat)
    (message : NotifyMessage)
    (self : FederatePath) : FederatePath :=
  { self with
    downFrom :=
      Function.update self.downFrom node (self.downFrom node ++ [message]) }

/-- The mode is pending as long as a `TimeConstrainedEnabledMessage` is queued
at the federate. -/
def enableTimeConstrained (self : FederatePath) : Option FederatePath :=
  if self.timeConstrainedMode = .timeConstrainedDisabled then
    some ((self.withMode .timeConstrainedEnablePending).sendUp 0
      .enableTimeConstrained)
  else none

def timeConstrainedEnabled (self : FederatePath) : Option FederatePath :=
  if self.timeConstrainedMode = .timeConstrainedEnablePending then
    some (self.withMode .timeConstrainedEnabled)
  else none

def disableTimeConstrained (self : FederatePath) : Option FederatePath :=
  if self.timeConstrainedMode = .timeConstrainedEnabled then
    some ((self.withMode .timeConstrainedDisabled).sendUp 0
      .disableTimeConstrained)
  else none

/-! ## The nodes -/

def setTimeConstrained
    (node : Nat)
    (isTimeConstrained : Bool)
    (self : FederatePath) : FederatePath :=
  { self with
    isTimeConstrained :=
      Function.update self.isTimeConstrained node isTimeConstrained }

/-- Take note of a federate that has become time constrained. -/
def insertTimeConstrained
    (node : Nat)
    (self : FederatePath) : Except Failure FederatePath :=
  if self.isTimeConstrained node then
    .error (.messageError ["EnableTimeConstrainedRequestMessage for already " ++
      "time constrained federate!"])
  else
    .ok ((self.setTimeConstrained node true).sendDown node
      .enableTimeConstrained)

/-- Take note of a federate that is no longer time constrained, once everybody
else has been told. -/
def eraseTimeConstrained
    (node : Nat)
    (broadcast : FederatePath → FederatePath)
    (self : FederatePath) : Except Failure FederatePath :=
  if self.isTimeConstrained node then
    .ok ((broadcast self).setTimeConstrained node false)
  else
    .error (.messageError ["DisableTimeConstrainedNotifyMessage for non time " ++
      "constrained Federate!"])

/-- Accept a message from the connect the federate is reached through. -/
def acceptFromBelow
    (root node : Nat)
    (message : NotifyMessage)
    (self : FederatePath) : Except Failure FederatePath :=
  match message with
  | .enableTimeConstrained =>
      if node = root then self.insertTimeConstrained node
      else .ok (self.sendUp (node + 1) message)
  | .disableTimeConstrained =>
      self.eraseTimeConstrained node fun self =>
        if node = root then self else self.sendUp (node + 1) message

/-- Accept a message from the parent connect. -/
def acceptFromParent
    (node : Nat)
    (message : NotifyMessage)
    (self : FederatePath) : Except Failure FederatePath :=
  match message with
  | .enableTimeConstrained => self.insertTimeConstrained node
  | .disableTimeConstrained =>
      self.eraseTimeConstrained node (sendDown node message)

end FederatePath

/-- What may happen next: a call or callback of the federate, or the delivery of
the oldest message of a channel. -/
inductive FederatePathInput
  | enableTimeConstrained
  | timeConstrainedEnabled
  | disableTimeConstrained
  | deliverUpTo (node : Nat)
  | deliverDownTo (node : Nat)
  | deliverToFederate
  deriving DecidableEq

namespace FederatePath

def receiveUp
    (node : Nat)
    (rest : List NotifyMessage)
    (self : FederatePath) : FederatePath :=
  { self with upTo := Function.update self.upTo node rest }

def receiveDown
    (node : Nat)
    (rest : List NotifyMessage)
    (self : FederatePath) : FederatePath :=
  { self with downFrom := Function.update self.downFrom node rest }

/-- One step, where it is possible.  The federate ignores what comes down to
it. -/
def step
    (root : Nat)
    (self : FederatePath) :
    FederatePathInput → Option (Except Failure FederatePath)
  | .enableTimeConstrained => self.enableTimeConstrained.map .ok
  | .timeConstrainedEnabled => self.timeConstrainedEnabled.map .ok
  | .disableTimeConstrained => self.disableTimeConstrained.map .ok
  | .deliverUpTo node =>
      if root < node then none
      else
        match self.upTo node with
        | [] => none
        | message :: rest =>
            some ((self.receiveUp node rest).acceptFromBelow root node
              message)
  | .deliverDownTo node =>
      if root ≤ node then none
      else
        match self.downFrom (node + 1) with
        | [] => none
        | message :: rest =>
            some ((self.receiveDown (node + 1) rest).acceptFromParent node
              message)
  | .deliverToFederate =>
      match self.downFrom 0 with
      | [] => none
      | _ :: rest => some (.ok (self.receiveDown 0 rest))

/-- The federate and its path, until a node throws. -/
def system (root : Nat) : TransitionSystem FederatePath FederatePathInput where
  initial := {}
  next self input :=
    match self.step root input with
    | some (.ok after) => some after
    | _ => none

/-! ## Enable messages that have not come back -/

/-- The enable messages in the channels next to a node on the side of the
federate. -/
def enablesBelow (self : FederatePath) (node : Nat) : Nat :=
  (self.upTo node).count .enableTimeConstrained +
    (self.downFrom node).count .enableTimeConstrained

/-- The enable messages that a node has passed up and that have not come back to
it. -/
def enablesAbove (root : Nat) (self : FederatePath) (node : Nat) : Nat :=
  ∑ above ∈ Finset.Ioc node root, self.enablesBelow above

/-- No disable message overtakes an enable message: one that is delivered to a
node other than the root finds that the last enable message has come back. -/
def overtakesNone (root : Nat) (self : FederatePath) :
    FederatePathInput → Bool
  | .deliverUpTo node =>
      (self.upTo node).head? ≠ some .disableTimeConstrained ||
        self.enablesAbove root node = 0
  | _ => true

/-- Nothing is on its way, and no callback is queued at the federate. -/
def Quiet (root : Nat) (self : FederatePath) : Prop :=
  (∀ node ≤ root, self.upTo node = [] ∧ self.downFrom node = []) ∧
    self.timeConstrainedMode ≠ .timeConstrainedEnablePending

/-! ## What the messages below a node lead to -/

/-- What a sequence of messages, oldest first, makes of a state, if enabling
and disabling alternate. -/
def settles : Bool → List NotifyMessage → Option Bool
  | isTimeConstrained, [] => some isTimeConstrained
  | false, .enableTimeConstrained :: rest => settles true rest
  | true, .disableTimeConstrained :: rest => settles false rest
  | _, _ => none

theorem settles_append
    (isTimeConstrained : Bool) (messages more : List NotifyMessage) :
    settles isTimeConstrained (messages ++ more) =
      (settles isTimeConstrained messages).bind fun between =>
        settles between more := by
  induction messages generalizing isTimeConstrained with
  | nil =>
      rw [List.nil_append, settles]
      rfl
  | cons message rest ih =>
      cases isTimeConstrained <;> cases message <;>
        simp [settles, ih]

/-- What is on its way up to a node or to a node below it. -/
def below (self : FederatePath) : Nat → List NotifyMessage
  | 0 => self.upTo 0
  | node + 1 => self.upTo (node + 1) ++ self.below node

variable {self : FederatePath} {node : Nat}

theorem below_eq_nil
    (empty : ∀ lower ≤ node, self.upTo lower = []) :
    self.below node = [] := by
  induction node with
  | zero => exact empty 0 (Nat.le_refl 0)
  | succ node ih =>
      rw [below, empty (node + 1) (Nat.le_refl _),
        ih fun lower bound => empty lower (by omega)]
      rfl

theorem below_congr
    {other : FederatePath}
    (same : ∀ lower ≤ node, self.upTo lower = other.upTo lower) :
    self.below node = other.below node := by
  induction node with
  | zero => exact same 0 (Nat.le_refl 0)
  | succ node ih =>
      rw [below, below, same (node + 1) (Nat.le_refl _),
        ih fun lower bound => same lower (by omega)]

@[simp] theorem below_setTimeConstrained
    (self : FederatePath) (node : Nat) (isTimeConstrained : Bool)
    (other : Nat) :
    (self.setTimeConstrained node isTimeConstrained).below other =
      self.below other :=
  below_congr fun _ _ => rfl

@[simp] theorem below_sendDown
    (self : FederatePath) (node : Nat) (message : NotifyMessage)
    (other : Nat) :
    (self.sendDown node message).below other = self.below other :=
  below_congr fun _ _ => rfl

@[simp] theorem below_receiveDown
    (self : FederatePath) (node : Nat) (rest : List NotifyMessage)
    (other : Nat) :
    (self.receiveDown node rest).below other = self.below other :=
  below_congr fun _ _ => rfl

/-- What the federate sends is behind everything else. -/
theorem below_sendUp_zero
    (message : NotifyMessage) (self : FederatePath) (node : Nat) :
    (self.sendUp 0 message).below node = self.below node ++ [message] := by
  induction node with
  | zero => simp [below, sendUp]
  | succ node ih =>
      rw [below, below, ih, List.append_assoc]
      simp [sendUp]

theorem below_receiveUp_of_lt
    (self : FederatePath)
    {other : Nat}
    (rest : List NotifyMessage)
    (lower : other < node) :
    (self.receiveUp node rest).below other = self.below other := by
  apply below_congr
  intro lowest bound
  exact Function.update_of_ne (by omega) _ _

variable {message : NotifyMessage} {rest : List NotifyMessage}

theorem below_receiveUp
    (head : self.upTo node = message :: rest) :
    self.below node = message :: (self.receiveUp node rest).below node := by
  cases node with
  | zero => simp [below, receiveUp, head]
  | succ node =>
      rw [below, below, below_receiveUp_of_lt self rest (Nat.lt_succ_self node),
        head]
      simp [receiveUp]

theorem below_sendUp_of_lt
    (self : FederatePath)
    {other : Nat}
    (message : NotifyMessage)
    (lower : other < node) :
    (self.sendUp node message).below other = self.below other := by
  apply below_congr
  intro lowest bound
  exact Function.update_of_ne (by omega) _ _

/-- A message that a node passes on is still below the nodes above. -/
theorem below_pass
    (head : self.upTo node = message :: rest)
    {above : Nat}
    (higher : node < above) :
    ((self.receiveUp node rest).sendUp (node + 1) message).below above =
      self.below above := by
  induction above with
  | zero => omega
  | succ above ih =>
      rw [below, below]
      by_cases next : above = node
      · subst next
        rw [below_sendUp_of_lt _ message (Nat.lt_succ_self above),
          below_receiveUp head]
        simp [sendUp, receiveUp]
      · rw [ih (by omega)]
        congr 1
        simp only [sendUp, receiveUp]
        rw [Function.update_of_ne (by omega), Function.update_of_ne (by omega)]

variable {root : Nat}

/-! ## Enable messages in the channels -/

theorem enablesAbove_congr
    {other : FederatePath}
    (same : ∀ above, node < above →
      self.enablesBelow above = other.enablesBelow above) :
    self.enablesAbove root node = other.enablesAbove root node := by
  apply Finset.sum_congr rfl
  intro above member
  exact same above (Finset.mem_Ioc.mp member).1

/-- One state has an enable message below a node that the other state has
between this node and the next one. -/
theorem enablesAbove_move
    (bound : node < root)
    {lower upper : FederatePath}
    (moved : ∀ other,
      upper.enablesBelow other + (if other = node then 1 else 0) =
        lower.enablesBelow other + if other = node + 1 then 1 else 0)
    (other : Nat) :
    upper.enablesAbove root other =
      lower.enablesAbove root other + if other = node then 1 else 0 := by
  have whole : ∑ above ∈ Finset.Ioc other root,
      (upper.enablesBelow above + if above = node then 1 else 0) =
        ∑ above ∈ Finset.Ioc other root,
          (lower.enablesBelow above + if above = node + 1 then 1 else 0) :=
    Finset.sum_congr rfl fun above _ => moved above
  rw [Finset.sum_add_distrib, Finset.sum_add_distrib, Finset.sum_ite_eq',
    Finset.sum_ite_eq'] at whole
  simp only [Finset.mem_Ioc] at whole
  rw [enablesAbove, enablesAbove]
  by_cases same : other = node
  · rw [if_neg (by omega), if_pos (by omega)] at whole
    rw [if_pos same]
    exact whole
  · rw [if_neg same]
    by_cases further : other < node
    · rw [if_pos (by omega), if_pos (by omega)] at whole
      omega
    · rw [if_neg (by omega), if_neg (by omega)] at whole
      exact whole

/-! One message more or less in a channel. -/

theorem enablesBelow_receiveUp
    (head : self.upTo node = message :: rest)
    (other : Nat) :
    (self.receiveUp node rest).enablesBelow other +
        (if other = node then [message].count .enableTimeConstrained else 0) =
      self.enablesBelow other := by
  simp only [enablesBelow, receiveUp, Function.update_apply]
  split
  · next same =>
      rw [same, head, ← @List.singleton_append _ message rest, List.count_append]
      omega
  · rfl

theorem enablesBelow_sendUp
    (self : FederatePath) (node : Nat) (message : NotifyMessage)
    (other : Nat) :
    (self.sendUp node message).enablesBelow other =
      self.enablesBelow other +
        if other = node then [message].count .enableTimeConstrained else 0 := by
  simp only [enablesBelow, sendUp, Function.update_apply]
  split
  · next same =>
      rw [same, List.count_append]
      omega
  · rfl

theorem enablesBelow_receiveDown
    (head : self.downFrom node = message :: rest)
    (other : Nat) :
    (self.receiveDown node rest).enablesBelow other +
        (if other = node then [message].count .enableTimeConstrained else 0) =
      self.enablesBelow other := by
  simp only [enablesBelow, receiveDown, Function.update_apply]
  split
  · next same =>
      rw [same, head, ← @List.singleton_append _ message rest, List.count_append]
      omega
  · rfl

theorem enablesBelow_sendDown
    (self : FederatePath) (node : Nat) (message : NotifyMessage)
    (other : Nat) :
    (self.sendDown node message).enablesBelow other =
      self.enablesBelow other +
        if other = node then [message].count .enableTimeConstrained else 0 := by
  simp only [enablesBelow, sendDown, Function.update_apply]
  split
  · next same =>
      rw [same, List.count_append]
      omega
  · rfl

/-- An enable message that is about to come back to a node. -/
theorem enablesAbove_pos
    (bound : node < root)
    (head : .enableTimeConstrained ∈ self.downFrom (node + 1)) :
    0 < self.enablesAbove root node := by
  have here : 0 < self.enablesBelow (node + 1) := by
    have found := List.count_pos_iff.mpr head
    simp only [enablesBelow]
    omega
  have part : self.enablesBelow (node + 1) ≤ self.enablesAbove root node :=
    Finset.single_le_sum (fun _ _ => Nat.zero_le _)
      (Finset.mem_Ioc.mpr ⟨Nat.lt_succ_self node, bound⟩)
  omega

theorem enablesAbove_eq_zero
    (empty : ∀ node ≤ root, self.upTo node = [] ∧ self.downFrom node = [])
    (node : Nat) :
    self.enablesAbove root node = 0 := by
  apply Finset.sum_eq_zero
  intro above member
  have nothing := empty above (Finset.mem_Ioc.mp member).2
  simp [enablesBelow, nothing]

@[simp] theorem enablesAbove_root (root : Nat) (self : FederatePath) :
    self.enablesAbove root root = 0 := by
  simp [enablesAbove]

end FederatePath
end ServerNode
end OpenRTI
