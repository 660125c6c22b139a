import Mathlib.Data.List.Basic

/-! # Runs of a system

Parties step one at a time, in any order: a step takes a state to the next one and shows some
events, or cannot be taken there. A run is a list of steps. What each step keeps, when it
meets a condition, a run keeps whose steps all meet it (`invariant_of_run`).
-/

namespace Foundation

variable {σ α ε : Type} (step : σ → α → Option (σ × List ε))

/-- The state after a run, and the events it shows. -/
def runSteps : σ → List α → Option (σ × List ε)
  | state, [] => some (state, [])
  | state, action :: rest =>
      (step state action).bind fun next =>
        (runSteps next.1 rest).map fun last => (last.1, next.2 ++ last.2)

/-- Each step of a run meets a condition in the state before it. -/
def StepsMeet (condition : σ → α → Prop) : σ → List α → Prop
  | _, [] => True
  | state, action :: rest =>
      condition state action ∧
        ∀ next, step state action = some next → StepsMeet condition next.1 rest

instance decidableStepsMeet (condition : σ → α → Prop) [∀ state, DecidablePred (condition state)] :
    ∀ state actions, Decidable (StepsMeet step condition state actions)
  | _, [] => .isTrue trivial
  | state, action :: rest =>
      have _ : Decidable (∀ next, step state action = some next →
          StepsMeet step condition next.1 rest) :=
        match step state action with
        | none => .isTrue nofun
        | some next =>
            match decidableStepsMeet condition next.1 rest with
            | .isTrue meets => .isTrue fun _ same => Option.some.inj same ▸ meets
            | .isFalse fails => .isFalse fun meets => fails (meets next rfl)
      inferInstanceAs (Decidable (_ ∧ _))

variable {step}

theorem runSteps_cons_eq_some_iff {state final : σ} {action : α} {rest : List α}
    {events : List ε} :
    runSteps step state (action :: rest) = some (final, events) ↔
      ∃ next new more, step state action = some (next, new) ∧
        runSteps step next rest = some (final, more) ∧ events = new ++ more := by
  constructor
  · intro ran
    obtain ⟨⟨next, new⟩, stepped, later⟩ := Option.bind_eq_some_iff.mp ran
    obtain ⟨⟨last, more⟩, rest, same⟩ := Option.map_eq_some_iff.mp later
    cases same
    exact ⟨next, new, more, stepped, rest, rfl⟩
  · rintro ⟨next, new, more, stepped, ran, rfl⟩
    rw [runSteps, stepped, Option.bind_some, ran]
    rfl

theorem runSteps_append_eq_some_iff {state final : σ} {first second : List α}
    {events : List ε} :
    runSteps step state (first ++ second) = some (final, events) ↔
      ∃ middle past more, runSteps step state first = some (middle, past) ∧
        runSteps step middle second = some (final, more) ∧ events = past ++ more := by
  induction first generalizing state events with
  | nil =>
      constructor
      · exact fun ran => ⟨state, [], events, rfl, ran, rfl⟩
      · rintro ⟨middle, past, more, started, ran, rfl⟩
        cases started
        exact ran
  | cons action rest ih =>
      rw [List.cons_append, runSteps_cons_eq_some_iff]
      constructor
      · rintro ⟨next, new, later, stepped, ran, rfl⟩
        obtain ⟨middle, past, more, front, back, rfl⟩ := ih.mp ran
        exact ⟨middle, new ++ past, more,
          runSteps_cons_eq_some_iff.mpr ⟨next, new, past, stepped, front, rfl⟩, back,
          (List.append_assoc ..).symm⟩
      · rintro ⟨middle, past, more, ran, back, rfl⟩
        obtain ⟨next, new, later, stepped, front, rfl⟩ := runSteps_cons_eq_some_iff.mp ran
        exact ⟨next, new, later ++ more, stepped, ih.mpr ⟨middle, later, more, front, back, rfl⟩,
          List.append_assoc ..⟩

theorem stepsMeet_append {condition : σ → α → Prop} {state : σ} {first second : List α} :
    StepsMeet step condition state (first ++ second) ↔
      StepsMeet step condition state first ∧
        ∀ middle past, runSteps step state first = some (middle, past) →
          StepsMeet step condition middle second := by
  induction first generalizing state with
  | nil =>
      constructor
      · refine fun meets => ⟨trivial, fun middle past ran => ?_⟩
        cases ran
        exact meets
      · exact fun meets => meets.2 state [] rfl
  | cons action rest ih =>
      rw [List.cons_append, StepsMeet, StepsMeet]
      constructor
      · rintro ⟨now, later⟩
        refine ⟨⟨now, fun next stepped => (ih.mp (later next stepped)).1⟩, ?_⟩
        intro middle past ran
        obtain ⟨next, new, more, stepped, front, rfl⟩ := runSteps_cons_eq_some_iff.mp ran
        exact (ih.mp (later (next, new) stepped)).2 middle more front
      · rintro ⟨⟨now, later⟩, after⟩
        refine ⟨now, fun next stepped => ih.mpr ⟨later next stepped, fun middle past ran => ?_⟩⟩
        exact after middle (next.2 ++ past)
          (runSteps_cons_eq_some_iff.mpr ⟨next.1, next.2, past, stepped, ran, rfl⟩)

/-- What holds of a state and the events so far, and is kept by every step that meets the
condition, holds after a run whose steps all meet it. -/
theorem invariant_of_run {condition : σ → α → Prop} {holds : σ → List ε → Prop}
    (kept : ∀ {state next : σ} {past new : List ε} {action : α}, holds state past →
      condition state action → step state action = some (next, new) → holds next (past ++ new))
    {actions : List α} {state final : σ} {past events : List ε} (start : holds state past)
    (meets : StepsMeet step condition state actions)
    (ran : runSteps step state actions = some (final, events)) : holds final (past ++ events) := by
  induction actions generalizing state past events with
  | nil =>
      cases ran
      rw [List.append_nil]
      exact start
  | cons action rest ih =>
      obtain ⟨next, new, more, stepped, later, rfl⟩ := runSteps_cons_eq_some_iff.mp ran
      rw [← List.append_assoc]
      exact ih (kept start meets.1 stepped) (meets.2 _ stepped) later

/-- A condition on the actions alone is met where all of them meet it. -/
theorem stepsMeet_of_forall {condition : α → Prop} {actions : List α}
    (all : ∀ action ∈ actions, condition action) (state : σ) :
    StepsMeet step (fun _ => condition) state actions := by
  induction actions generalizing state with
  | nil => trivial
  | cons action rest ih =>
      exact ⟨all action (List.mem_cons_self ..), fun next _ =>
        ih (fun other later => all other (List.mem_cons_of_mem _ later)) next.1⟩

/-- A condition that follows from another one, wherever an invariant holds, is met where that
one is. -/
theorem StepsMeet.imp {first second : σ → α → Prop}
    (implies : ∀ state action, first state action → second state action) {actions : List α}
    {state : σ} (meets : StepsMeet step first state actions) :
    StepsMeet step second state actions := by
  induction actions generalizing state with
  | nil => trivial
  | cons action rest ih =>
      exact ⟨implies state action meets.1, fun next stepped => ih (meets.2 next stepped)⟩

/-- A step inside a run is taken from the state that the steps before it lead to. -/
theorem step_of_run {condition : σ → α → Prop} {first second : List α} {action : α}
    {state final : σ} {events : List ε}
    (meets : StepsMeet step condition state (first ++ action :: second))
    (ran : runSteps step state (first ++ action :: second) = some (final, events)) :
    ∃ middle past next new, runSteps step state first = some (middle, past) ∧
      StepsMeet step condition state first ∧ condition middle action ∧
      step middle action = some (next, new) := by
  obtain ⟨middle, past, more, front, back, rfl⟩ := runSteps_append_eq_some_iff.mp ran
  obtain ⟨next, new, _, stepped, _, rfl⟩ := runSteps_cons_eq_some_iff.mp back
  obtain ⟨before, after⟩ := stepsMeet_append.mp meets
  exact ⟨middle, past, next, new, front, before, (after middle past front).1, stepped⟩

/-- An event of a run is shown by a step of it. -/
theorem exists_step_of_event {actions : List α} {state final : σ} {events : List ε}
    (ran : runSteps step state actions = some (final, events)) {event : ε}
    (shown : event ∈ events) :
    ∃ first action second middle past next new more, actions = first ++ action :: second ∧
      runSteps step state first = some (middle, past) ∧ step middle action = some (next, new) ∧
      runSteps step next second = some (final, more) ∧ event ∈ new := by
  induction actions generalizing state events with
  | nil =>
      cases ran
      exact absurd shown List.not_mem_nil
  | cons action rest ih =>
      obtain ⟨next, new, more, stepped, later, rfl⟩ := runSteps_cons_eq_some_iff.mp ran
      rcases List.mem_append.mp shown with here | there
      · exact ⟨[], action, rest, state, [], next, new, more, rfl, rfl, stepped, later, here⟩
      · obtain ⟨first, other, second, middle, past, after, fresh, last, rfl, front, taken, back,
          member⟩ := ih later there
        exact ⟨action :: first, other, second, middle, new ++ past, after, fresh, last, rfl,
          runSteps_cons_eq_some_iff.mpr ⟨next, new, past, stepped, front, rfl⟩, taken, back, member⟩

end Foundation
