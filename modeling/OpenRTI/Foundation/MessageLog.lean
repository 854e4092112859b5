import Mathlib.Data.List.Basic
import Mathlib.Tactic.Common

/-!
# What a log of messages has told last

A receiver that takes each message as news about a value believes what the last
message about it told.
-/

namespace Foundation

variable {μ τ : Type*}

/-- What the messages of a log, oldest first, tell last about a value that has
been `known` before. -/
def lastTold (tells : μ → Option τ) (known : τ) (log : List μ) : τ :=
  log.foldl (fun known message => (tells message).getD known) known

@[simp] theorem lastTold_nil (tells : μ → Option τ) (known : τ) :
    lastTold tells known [] = known := rfl

variable (tells : μ → Option τ) (known : τ) (log : List μ) (message : μ)

theorem lastTold_cons
    (log : List μ) :
    lastTold tells known (message :: log) =
      lastTold tells ((tells message).getD known) log := rfl

theorem lastTold_append
    (more : List μ) :
    lastTold tells known (log ++ more) =
      lastTold tells (lastTold tells known log) more :=
  List.foldl_append

@[simp] theorem lastTold_concat :
    lastTold tells known (log ++ [message]) =
      (tells message).getD (lastTold tells known log) := by
  rw [lastTold_append]
  rfl

theorem lastTold_map
    {ν : Type*}
    (make : ν → μ) (log : List ν) :
    lastTold tells known (log.map make) =
      lastTold (fun item => tells (make item)) known log :=
  List.foldl_map

variable {tells : μ → Option τ}

/-- Messages about something else tell nothing. -/
theorem lastTold_of_silent
    {log : List μ}
    (silent : ∀ message ∈ log, tells message = none)
    (known : τ) :
    lastTold tells known log = known := by
  induction log with
  | nil => rfl
  | cons message rest ih =>
      rw [List.forall_mem_cons] at silent
      rw [lastTold, List.foldl_cons, silent.1]
      exact ih silent.2

/-- Leaving out messages that tell nothing makes no difference. -/
theorem lastTold_filter
    {kept : μ → Bool}
    (silent : ∀ message, kept message = false → tells message = none)
    (known : τ) (log : List μ) :
    lastTold tells known (log.filter kept) = lastTold tells known log := by
  induction log generalizing known with
  | nil => rfl
  | cons message rest ih =>
      rw [List.filter_cons, lastTold_cons]
      split
      · rw [lastTold_cons, ih]
      · next dropped =>
          rw [silent message (by simpa using dropped), ih]
          rfl

end Foundation
