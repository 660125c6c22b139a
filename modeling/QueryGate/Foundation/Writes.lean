import Mathlib

/-! # Operations cut between their writes

An operation reads a state and plans a list of writes. It may be cut after any number of
them, and the next operation starts from the state that was reached. What every attempt
keeps holds along a run, where each attempt may rely on a condition of its own.
-/

namespace Foundation

variable {σ ω α ε ο : Type}

/-- What an operation writes, in order, and what it returns. -/
structure Plan (ω α : Type) where
  writes : List ω
  result : α

/-- An operation, cut after a number of writes or run to its end. -/
structure Attempt (ο : Type) where
  operation : ο
  stop : Option Nat := none

/-- The writes made before the cut. -/
def Plan.made (plan : Plan ω α) : Option Nat → List ω
  | none => plan.writes
  | some count => plan.writes.take count

section Attempts

variable (write : σ → ω → σ) (planOf : ο → σ → Except ε (Plan ω α))

/-- The state after an attempt. An operation that is refused writes nothing. -/
def afterAttempt (state : σ) (attempt : Attempt ο) : σ :=
  match planOf attempt.operation state with
  | .error _ => state
  | .ok plan => (plan.made attempt.stop).foldl write state

/-- The state after a run of attempts. -/
def afterAttempts (state : σ) (attempts : List (Attempt ο)) : σ :=
  attempts.foldl (afterAttempt write planOf) state

/-- Every attempt of the run meets a condition in the state it starts from. -/
def EachAttempt (condition : σ → Attempt ο → Prop) : σ → List (Attempt ο) → Prop
  | _, [] => True
  | state, attempt :: rest =>
      condition state attempt ∧
        EachAttempt condition (afterAttempt write planOf state attempt) rest

variable {write planOf} {state : σ} {attempts : List (Attempt ο)}
  {condition : σ → Attempt ο → Prop}

/-- What each attempt keeps is kept by a run. -/
theorem holds_afterAttempts {kept : σ → Prop}
    (step : ∀ state attempt, kept state → condition state attempt →
      kept (afterAttempt write planOf state attempt))
    (start : kept state) (each : EachAttempt write planOf condition state attempts) :
    kept (afterAttempts write planOf state attempts) := by
  induction attempts generalizing state with
  | nil => exact start
  | cons attempt rest ih => exact ih (step state attempt start each.1) each.2

theorem eachAttempt_append {front back : List (Attempt ο)} :
    EachAttempt write planOf condition state (front ++ back) ↔
      EachAttempt write planOf condition state front ∧
        EachAttempt write planOf condition (afterAttempts write planOf state front) back := by
  induction front generalizing state with
  | nil => exact ⟨fun each => ⟨trivial, each⟩, And.right⟩
  | cons attempt rest ih =>
      change _ ∧ EachAttempt write planOf condition _ (rest ++ back) ↔ (_ ∧ _) ∧ _
      rw [ih, and_assoc]
      rfl

end Attempts

/-- What each write keeps is kept by a part of the writes. -/
theorem holds_foldl_take {write : σ → ω → σ} {kept : σ → Prop} {writes : List ω} {state : σ}
    (start : kept state) (step : ∀ made ∈ writes, ∀ state, kept state → kept (write state made))
    (count : Nat) : kept ((writes.take count).foldl write state) := by
  induction writes generalizing state count with
  | nil => simpa using start
  | cons first rest ih =>
      cases count with
      | zero => exact start
      | succ count =>
          exact ih (step first (List.mem_cons_self ..) state start)
            (fun made member => step made (List.mem_cons_of_mem _ member)) count

end Foundation
