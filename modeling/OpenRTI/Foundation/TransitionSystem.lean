import Mathlib.Logic.Basic
import Mathlib.Data.List.Infix
import Mathlib.Data.List.Induction
import Mathlib.Data.Option.Basic

/-!
# Transition systems with partial steps

A system starts in one state and takes inputs one after the other.  A step is
partial: an input that the current state does not admit has no next state.
Reachability is relative to a condition on the steps taken, so that a property
of all runs and a property of the runs that avoid some steps are the same
notion at two conditions.
-/

namespace Foundation

/-- A deterministic transition system with partial steps. -/
structure TransitionSystem (State Input : Type*) where
  initial : State
  next : State → Input → Option State

namespace TransitionSystem

variable {State Input : Type*}

/-- States reached by steps that all meet the condition `allowed`. -/
inductive ReachableUnder
    (system : TransitionSystem State Input)
    (allowed : State → Input → Prop) : State → Prop
  | initial : ReachableUnder system allowed system.initial
  | step
      {before after : State}
      {input : Input}
      (reachable : ReachableUnder system allowed before)
      (admitted : allowed before input)
      (stepped : system.next before input = some after) :
      ReachableUnder system allowed after

/-- States reached by any steps. -/
abbrev Reachable (system : TransitionSystem State Input) : State → Prop :=
  system.ReachableUnder fun _ _ => True

/-- Run a list of inputs, failing at the first one that is not admitted. -/
def run (system : TransitionSystem State Input) :
    State → List Input → Option State
  | state, [] => some state
  | state, input :: inputs =>
      match system.next state input with
      | none => none
      | some after => system.run after inputs

@[simp] theorem run_nil
    (system : TransitionSystem State Input) (state : State) :
    system.run state [] = some state := rfl

theorem run_cons
    (system : TransitionSystem State Input) (state : State) (input : Input)
    (inputs : List Input) :
    system.run state (input :: inputs) =
      (system.next state input).bind fun after => system.run after inputs := by
  cases stepped : system.next state input <;> simp [run, stepped]

variable {system : TransitionSystem State Input}
variable {allowed : State → Input → Prop} {state : State}

/-- A property of the initial state that every allowed step preserves holds in
every state reached by allowed steps. -/
theorem ReachableUnder.invariant
    (property : State → Prop) (initially : property system.initial)
    (preserved : ∀ before input after,
      property before → allowed before input →
      system.next before input = some after → property after)
    (reachable : system.ReachableUnder allowed state) :
    property state := by
  induction reachable with
  | initial => exact initially
  | step _ admitted stepped ih =>
      exact preserved _ _ _ ih admitted stepped

/-- The invariant rule over all runs. -/
theorem Reachable.invariant
    (property : State → Prop) (initially : property system.initial)
    (preserved : ∀ before input after,
      property before → system.next before input = some after →
      property after)
    (reachable : system.Reachable state) :
    property state :=
  ReachableUnder.invariant property initially
    (fun before input after holds _ stepped =>
      preserved before input after holds stepped)
    reachable

/-- Reachability is monotone in the condition on the steps. -/
theorem ReachableUnder.mono
    {weaker : State → Input → Prop}
    (implies : ∀ before input, allowed before input → weaker before input)
    (reachable : system.ReachableUnder allowed state) :
    system.ReachableUnder weaker state := by
  induction reachable with
  | initial => exact .initial
  | step _ admitted stepped ih =>
      exact .step ih (implies _ _ admitted) stepped

/-- What a run ends in is reachable from where the run starts. -/
theorem Reachable.run
    {system : TransitionSystem State Input} {state : State}
    (reachable : system.Reachable state) :
    ∀ {inputs : List Input} {final : State},
      system.run state inputs = some final → system.Reachable final
  | [], final, finished => by
      cases finished
      exact reachable
  | input :: inputs, final, finished => by
      rw [run_cons] at finished
      cases stepped : system.next state input with
      | none => simp [stepped] at finished
      | some after =>
          rw [stepped] at finished
          exact Reachable.run (.step reachable trivial stepped) finished

/-- What a run from the initial state ends in is reachable. -/
theorem reachable_of_run
    {system : TransitionSystem State Input}
    (inputs : List Input)
    {final : State}
    (finished : system.run system.initial inputs = some final) :
    system.Reachable final :=
  Reachable.run .initial finished

/-- A run of inputs that meet the condition in every state. -/
theorem ReachableUnder.run
    {final : State} {inputs : List Input}
    (reachable : system.ReachableUnder allowed state)
    (admitted : ∀ input ∈ inputs, ∀ state, allowed state input)
    (finished : system.run state inputs = some final) :
    system.ReachableUnder allowed final := by
  induction inputs generalizing state with
  | nil =>
      cases finished
      exact reachable
  | cons input inputs ih =>
      rw [run_cons] at finished
      obtain ⟨after, stepped, finished⟩ := Option.bind_eq_some_iff.mp finished
      exact ih
        (.step reachable (admitted input List.mem_cons_self state) stepped)
        (fun other member => admitted other (List.mem_cons_of_mem _ member))
        finished

/-! ## Runs beside a reference -/

theorem run_append
    (system : TransitionSystem State Input) (state : State)
    (first second : List Input) :
    system.run state (first ++ second) =
      (system.run state first).bind fun after => system.run after second := by
  induction first generalizing state with
  | nil => rfl
  | cons input rest ih =>
      rw [List.cons_append, run_cons, run_cons, Option.bind_assoc]
      congr 1
      funext after
      exact ih after

theorem run_concat
    (system : TransitionSystem State Input) (state : State)
    (inputs : List Input) (input : Input) :
    system.run state (inputs ++ [input]) =
      (system.run state inputs).bind fun after => system.next after input := by
  rw [run_append]
  congr 1
  funext after
  rw [run_cons]
  exact Option.bind_fun_some _

section Reference

variable {Reference : Type*} {system : TransitionSystem State Input}
variable {follow : Reference → Input → Reference} {first : Reference}
variable {kept good : Option State → Reference → Prop}
variable {admits : State → Input → Prop}

/-- A run whose steps all meet a condition under which a step keeps the relation to
the reference keeps the relation. -/
theorem run_kept
    (initially : kept (some system.initial) first)
    (steps : ∀ state reference input,
      kept state reference → (∀ before, state = some before → admits before input) →
      kept (state.bind fun before => system.next before input)
        (follow reference input))
    (inputs : List Input)
    (admitted : ∀ past input before,
      past ++ [input] <+: inputs →
      system.run system.initial past = some before → admits before input) :
    kept (system.run system.initial inputs) (inputs.foldl follow first) := by
  induction inputs using List.reverseRecOn with
  | nil => exact initially
  | append_singleton past input ih =>
      have holds := ih fun earlier step state begins =>
        admitted earlier step state
          (begins.trans (List.prefix_append past [input]))
      rw [run_concat, List.foldl_append]
      exact steps _ _ input holds
        (admitted past input · List.prefix_rfl)

/-- Where the steps that do not meet the condition spoil what the relation is kept
for, a run is good all along exactly if all its steps meet the condition. -/
theorem good_iff_admits
    (initially : kept (some system.initial) first)
    (keptGood : ∀ state reference, kept state reference → good state reference)
    (steps : ∀ state reference input,
      kept state reference → (∀ before, state = some before → admits before input) →
      kept (state.bind fun before => system.next before input)
        (follow reference input))
    (spoils : ∀ before reference input,
      kept (some before) reference → ¬ admits before input →
      ¬ good (system.next before input) (follow reference input))
    (inputs : List Input) :
    (∀ past, past <+: inputs →
      good (system.run system.initial past) (past.foldl follow first)) ↔
      ∀ past input before,
        past ++ [input] <+: inputs →
        system.run system.initial past = some before → admits before input := by
  constructor
  · intro holds past
    -- The steps before one that does not meet the condition all meet it.
    induction length : past.length using Nat.strongRecOn generalizing past with
    | ind length ih =>
        intro input before begins ran
        by_contra spoiled
        have keeps := run_kept initially steps past
          fun earlier step between inside =>
            ih earlier.length
              (by
                have shorter := inside.length_le
                rw [List.length_append] at shorter
                exact Nat.lt_of_lt_of_eq shorter ‹_›)
              earlier rfl step between
              (inside.trans
                ((List.prefix_append past [input]).trans begins))
        have well := holds (past ++ [input]) begins
        rw [run_concat, ran, List.foldl_append] at well
        rw [ran] at keeps
        exact spoils before _ input keeps spoiled well
  · intro admitted past begins
    exact keptGood _ _ (run_kept initially steps past
      fun earlier step between inside =>
        admitted earlier step between (inside.trans begins))

end Reference

/-! ## Restricting the steps -/

/-- The system that takes only the steps that meet a condition. -/
def restrict
    (system : TransitionSystem State Input)
    (allowed : State → Input → Bool) : TransitionSystem State Input where
  initial := system.initial
  next state input := if allowed state input then system.next state input
    else none

theorem restrict_next_eq_some
    {allowed : State → Input → Bool} {before after : State}
    {input : Input} :
    (system.restrict allowed).next before input = some after ↔
      allowed before input = true ∧ system.next before input = some after := by
  simp [restrict]

/-- What the restricted system reaches is reached by allowed steps. -/
theorem reachableUnder_of_restrict
    {allowed : State → Input → Bool}
    (reachable : (system.restrict allowed).Reachable state) :
    system.ReachableUnder (fun before input => allowed before input = true)
      state := by
  induction reachable with
  | initial => exact .initial
  | step _ _ stepped ih =>
      obtain ⟨admitted, stepped⟩ := restrict_next_eq_some.mp stepped
      exact .step ih admitted stepped

end TransitionSystem
end Foundation
