import Mathlib.Logic.Basic
import Mathlib.Tactic.Common

/-!
# Computations that change a state and may fail

A failing computation of `EStateM` keeps the state it has reached at the
failure, as a program does whose exceptions undo nothing.  The lemmas take a
computation that is known to have succeeded, or to have failed, apart.
-/

namespace Foundation
namespace FailingState

variable {ε σ τ α β : Type}

variable {value result : α} {before after : σ}

/-! ## Success and failure of a sequence -/

theorem pure_eq_ok :
    (pure value : EStateM ε σ α) before = .ok result after ↔
      value = result ∧ before = after := by
  simp [pure, EStateM.pure]

variable {first : EStateM ε σ α} {next : α → EStateM ε σ β}

theorem bind_eq_ok
    {result : β} :
    (first >>= next) before = .ok result after ↔
      ∃ value between,
        first before = .ok value between ∧
          next value between = .ok result after := by
  simp only [bind, EStateM.bind]
  cases first before <;> simp

variable {failure : ε}

theorem bind_eq_error :
    (first >>= next) before = .error failure after ↔
      first before = .error failure after ∨
        ∃ value between,
          first before = .ok value between ∧
            next value between = .error failure after := by
  simp only [bind, EStateM.bind]
  cases first before <;> simp

theorem throw_ne_ok :
    (throw failure : EStateM ε σ α) before ≠ .ok result after := by
  intro thrown
  cases thrown

theorem throw_eq_error
    {thrown : ε} :
    (throw failure : EStateM ε σ α) before = .error thrown after ↔
      failure = thrown ∧ before = after := by
  change EStateM.Result.error failure before = .error thrown after ↔ _
  simp

theorem get_eq_ok
    {result : σ} :
    (get : EStateM ε σ σ) before = .ok result after ↔
      before = result ∧ before = after := by
  change EStateM.Result.ok before before = .ok result after ↔ _
  simp

theorem set_eq_ok
    {written : σ} {result : PUnit} :
    (set written : EStateM ε σ PUnit) before = .ok result after ↔
      written = after := by
  change EStateM.Result.ok PUnit.unit written = .ok result after ↔ _
  simp

variable {change : σ → σ}

theorem modify_eq_ok
    {result : PUnit} :
    (modify change : EStateM ε σ PUnit) before = .ok result after ↔
      change before = after := by
  change EStateM.Result.ok PUnit.unit (change before) = .ok result after ↔ _
  simp

/-! ## Where a computation ends -/

/-- A computation ends in a state if it succeeds there, or fails there with a
failure after which the program goes on. -/
def Ends
    (reported : ε → Prop)
    (action : EStateM ε σ α)
    (before after : σ) : Prop :=
  (∃ value, action before = .ok value after) ∨
    ∃ failure, reported failure ∧ action before = .error failure after

variable {reported : ε → Prop}

variable {between : σ}

theorem ends_of_ok
    {action : EStateM ε σ α}
    (ran : action before = .ok value between) :
    Ends reported action before after ↔ between = after := by
  unfold Ends
  rw [ran]
  simp

theorem ends_of_error
    {action : EStateM ε σ α}
    (failed : action before = .error failure between) :
    Ends reported action before after ↔
      reported failure ∧ between = after := by
  unfold Ends
  rw [failed]
  simp

@[simp] theorem ends_pure :
    Ends reported (pure value : EStateM ε σ α) before after ↔
      before = after :=
  ends_of_ok (pure_eq_ok.mpr ⟨rfl, rfl⟩)

@[simp] theorem ends_throw :
    Ends reported (throw failure : EStateM ε σ α) before after ↔
      reported failure ∧ before = after :=
  ends_of_error (throw_eq_error.mpr ⟨rfl, rfl⟩)

@[simp] theorem ends_modify :
    Ends reported (modify change : EStateM ε σ PUnit) before after ↔
      change before = after :=
  ends_of_ok (modify_eq_ok.mpr rfl :
    (modify change : EStateM ε σ PUnit) before = .ok ⟨⟩ (change before))

/-- After a computation that succeeds the next one goes on. -/
theorem ends_bind_of_ok
    (ran : first before = .ok value between) :
    Ends reported (first >>= next) before after ↔
      Ends reported (next value) between after := by
  unfold Ends
  simp only [bind_eq_ok, bind_eq_error, ran]
  simp

@[simp] theorem ends_get_bind
    {next : σ → EStateM ε σ β} :
    Ends reported ((get : EStateM ε σ σ) >>= next) before after ↔
      Ends reported (next before) before after :=
  ends_bind_of_ok (get_eq_ok.mpr ⟨rfl, rfl⟩)

@[simp] theorem ends_modify_bind
    {next : PUnit → EStateM ε σ β} :
    Ends reported ((modify change : EStateM ε σ PUnit) >>= next) before after ↔
      Ends reported (next ⟨⟩) (change before) after :=
  ends_bind_of_ok (modify_eq_ok.mpr rfl)

/-- A computation keeps a property wherever it ends. -/
def Keeps
    (reported : ε → Prop)
    (property : σ → Prop)
    (action : EStateM ε σ α) : Prop :=
  ∀ before after,
    property before → Ends reported action before after → property after

theorem Keeps.bind
    {property : σ → Prop} {first : EStateM ε σ α}
    {next : α → EStateM ε σ β}
    (firstKeeps : Keeps reported property first)
    (nextKeeps : ∀ value, Keeps reported property (next value)) :
    Keeps reported property (first >>= next) := by
  intro before after holds ended
  cases ran : first before with
  | ok value between =>
      rw [ends_bind_of_ok ran] at ended
      exact nextKeeps value between after
        (firstKeeps before between holds (Or.inl ⟨value, ran⟩)) ended
  | error failure between =>
      have failed : (first >>= next) before = .error failure between :=
        bind_eq_error.mpr (Or.inl ran)
      obtain ⟨accepted, rfl⟩ := (ends_of_error failed).mp ended
      exact firstKeeps before between holds (Or.inr ⟨failure, accepted, ran⟩)

/-! ## Checks that do not touch the state -/

/-- A check that may fail, among computations that change a state. -/
def check (result : Except ε α) : EStateM ε σ α := fun state =>
  match result with
  | .ok value => .ok value state
  | .error failure => .error failure state

theorem check_eq_ok
    {checked : Except ε α} :
    check checked before = .ok result after ↔
      checked = .ok result ∧ before = after := by
  cases checked <;> simp [check]

/-- A sequence of checks succeeds if each of them does. -/
theorem except_bind_eq_ok
    {checked : Except ε α} {next : α → Except ε β}
    {result : β} :
    (checked >>= next) = .ok result ↔
      ∃ value, checked = .ok value ∧ next value = .ok result := by
  cases checked <;> simp [bind, Except.bind]

/-! ## A computation on a part of the state -/

/-- Run a computation on a part of the state. -/
def zoom
    (part : σ → τ)
    (replace : τ → σ → σ)
    (action : EStateM ε τ α) : EStateM ε σ α := fun state =>
  match action (part state) with
  | .ok value changed => .ok value (replace changed state)
  | .error failure changed => .error failure (replace changed state)

theorem zoom_eq_ok
    {part : σ → τ} {replace : τ → σ → σ}
    {action : EStateM ε τ α} :
    zoom part replace action before = .ok result after ↔
      ∃ changed,
        action (part before) = .ok result changed ∧
          replace changed before = after := by
  simp only [zoom]
  cases action (part before) <;> simp

/-! ## Loops over a list -/

/-- Run an action on each element in order and return whether one of them
returned true. -/
def runAny (action : α → EStateM ε σ Bool) : List α → EStateM ε σ Bool
  | [] => pure false
  | element :: rest => do
      let here ← action element
      let later ← runAny action rest
      return here || later

@[simp] theorem runAny_nil (action : α → EStateM ε σ Bool) :
    runAny action [] = pure false := rfl

theorem runAny_cons_eq_ok
    {action : α → EStateM ε σ Bool} {element : α}
    {rest : List α} {result : Bool} :
    runAny action (element :: rest) before = .ok result after ↔
      ∃ here between later,
        action element before = .ok here between ∧
          runAny action rest between = .ok later after ∧
            result = (here || later) := by
  simp only [runAny, bind_eq_ok, pure_eq_ok]
  constructor
  · rintro ⟨here, between, ran, later, end', finished, same, rfl⟩
    exact ⟨here, between, later, ran, finished, same.symm⟩
  · rintro ⟨here, between, later, ran, finished, same⟩
    exact ⟨here, between, ran, later, after, finished, same.symm, rfl⟩

/-- A loop that succeeds keeps what each of its runs keeps. -/
theorem runAny_invariant
    {action : α → EStateM ε σ Bool}
    (property : σ → Prop)
    {elements : List α}
    (preserved : ∀ element ∈ elements, ∀ before result after,
      property before → action element before = .ok result after →
      property after)
    {result : Bool}
    (holds : property before)
    (ran : runAny action elements before = .ok result after) :
    property after := by
  induction elements generalizing before result with
  | nil =>
      rw [runAny_nil, pure_eq_ok] at ran
      exact ran.2 ▸ holds
  | cons element rest ih =>
      obtain ⟨here, between, later, first, others, _⟩ :=
        runAny_cons_eq_ok.mp ran
      rw [List.forall_mem_cons] at preserved
      exact ih preserved.2
        (preserved.1 before here between holds first) others

end FailingState
end Foundation
