import Mathlib.Logic.Relation
import QueryGate.Execution.AsyncExecution

/-! # Runs of asynchronous executions

What the steps of a task and a request to cancel keep of a record, and what follows for runs.
-/

namespace QueryGate

open Foundation

variable {ρ : Type}

/-! ## The life of a record -/

/-- The moves between the states of a record. -/
inductive AsyncExecutionState.Next : AsyncExecutionState → AsyncExecutionState → Prop
  | admitted : Next .queued .running
  | refused : Next .queued .failed
  | withdrawn : Next .queued .cancelled
  | completed : Next .running .completed
  | failed : Next .running .failed
  | interrupted : Next .running .cancelled
  | requested : Next .running .cancelRequested
  | outrun : Next .cancelRequested .completed
  | stopped : Next .cancelRequested .cancelled

/-- A record later on: the same query, its state moved on, what it has learned of its slot and
session kept, and nothing changed once it ended. -/
structure AsyncExecutionRecord.Advances (earlier later : AsyncExecutionRecord ρ) : Prop where
  admissionId : later.admissionId = earlier.admissionId
  connectionId : later.connectionId = earlier.connectionId
  principalSubject : later.principalSubject = earlier.principalSubject
  state : Relation.ReflTransGen AsyncExecutionState.Next earlier.state later.state
  queueWaitMs : ∀ wait, earlier.queueWaitMs = some wait → later.queueWaitMs = some wait
  sessionIdentifier : ∀ identifier, earlier.sessionIdentifier = some identifier →
    later.sessionIdentifier = some identifier
  final : earlier.state.Terminal → later = earlier

namespace AsyncExecutionRecord

theorem Advances.refl (record : AsyncExecutionRecord ρ) : record.Advances record where
  admissionId := rfl
  connectionId := rfl
  principalSubject := rfl
  state := .refl
  queueWaitMs _ known := known
  sessionIdentifier _ known := known
  final _ := rfl

theorem Advances.trans {first second third : AsyncExecutionRecord ρ}
    (before : first.Advances second) (after : second.Advances third) : first.Advances third where
  admissionId := after.admissionId.trans before.admissionId
  connectionId := after.connectionId.trans before.connectionId
  principalSubject := after.principalSubject.trans before.principalSubject
  state := before.state.trans after.state
  queueWaitMs wait known := after.queueWaitMs wait (before.queueWaitMs wait known)
  sessionIdentifier identifier known :=
    after.sessionIdentifier identifier (before.sessionIdentifier identifier known)
  final terminal := by
    have same := before.final terminal
    rw [after.final (same ▸ terminal), same]

/-- Nothing came of the query yet. -/
def NoOutcome (record : AsyncExecutionRecord ρ) : Prop :=
  record.result = none ∧ record.errorMessage = none ∧ record.errorAdmissionState = none

/-- The query has no slot yet. -/
def Unadmitted (record : AsyncExecutionRecord ρ) : Prop :=
  record.state = .queued ∧ record.queueWaitMs = none ∧ record.sessionIdentifier = none ∧
    record.NoOutcome

/-- The query has ended: rows are there where it completed, an error where it failed, and no
rows where it was cancelled. -/
def Settled (record : AsyncExecutionRecord ρ) : Prop :=
  match record.state with
  | .completed => record.result.isSome ∧ record.errorMessage = none ∧
      record.sessionIdentifier.isSome ∧ record.queueWaitMs.isSome
  | .failed => record.result = none ∧ record.errorMessage.isSome
  | .cancelled => record.result = none
  | _ => False

end AsyncExecutionRecord

/-- A record is as its task left it. -/
def AsyncExecution.Lawful (execution : AsyncExecution ρ) : Prop :=
  match execution.stage with
  | .scheduled | .queueing => execution.record.Unadmitted
  | .admitted =>
      execution.record.state = .running ∧ execution.record.queueWaitMs.isSome ∧
        execution.record.sessionIdentifier = none ∧ execution.record.NoOutcome
  | .opened =>
      (execution.record.state = .running ∨ execution.record.state = .cancelRequested) ∧
        execution.record.queueWaitMs.isSome ∧ execution.record.sessionIdentifier.isSome ∧
        execution.record.NoOutcome
  | .ended =>
      execution.record.Settled ∨ execution.record.Unadmitted ∧ execution.interrupted = true

namespace AsyncExecution

variable {execution next : AsyncExecution ρ}

/-- A task that has not ended leaves its record open. -/
theorem Lawful.open (lawful : execution.Lawful) (going : execution.stage ≠ .ended) :
    ¬ execution.record.state.Terminal := by
  unfold Lawful at lawful
  cases stage : execution.stage with
  | scheduled | queueing =>
      rw [stage] at lawful
      rw [lawful.1]
      exact id
  | admitted =>
      rw [stage] at lawful
      rw [lawful.1]
      exact id
  | opened =>
      rw [stage] at lawful
      rcases lawful.1 with running | requested
      · rw [running]
        exact id
      · rw [requested]
        exact id
  | ended => exact absurd stage going

/-- The record of a task that is in `execute` may fail or be cancelled. -/
theorem Lawful.inExecute (lawful : execution.Lawful)
    (inside : execution.stage = .queueing ∨ execution.stage = .admitted ∨
      execution.stage = .opened) :
    execution.record.NoOutcome ∧ (execution.record.state = .queued ∨
      execution.record.state = .running ∨ execution.record.state = .cancelRequested) := by
  unfold Lawful at lawful
  rcases inside with queueing | admitted | opened
  · rw [queueing] at lawful
    exact ⟨lawful.2.2.2, .inl lawful.1⟩
  · rw [admitted] at lawful
    exact ⟨lawful.2.2.2, .inr (.inl lawful.1)⟩
  · rw [opened] at lawful
    exact ⟨lawful.2.2.2, .inr lawful.1⟩

/-- `_run` stores the error of a query. -/
theorem Lawful.fail (lawful : execution.Lawful)
    (inside : execution.stage = .queueing ∨ execution.stage = .admitted ∨
      execution.stage = .opened) (failure : Raised) (admissionState : Option String) :
    (execution.record.fail failure admissionState).Settled ∧
      execution.record.Advances (execution.record.fail failure admissionState) := by
  obtain ⟨⟨noResult, -, -⟩, state⟩ := lawful.inExecute inside
  have going : ¬ execution.record.state.Terminal := lawful.open (by
    rcases inside with queueing | admitted | opened
    · simp [queueing]
    · simp [admitted]
    · simp [opened])
  constructor
  · unfold AsyncExecutionRecord.Settled AsyncExecutionRecord.fail
    dsimp only
    by_cases requested : execution.record.state = .cancelRequested
    · rw [if_pos requested]
      exact noResult
    · rw [if_neg requested]
      exact ⟨noResult, rfl⟩
  · refine ⟨rfl, rfl, rfl, ?_, fun _ known => known, fun _ known => known,
      fun terminal => absurd terminal going⟩
    unfold AsyncExecutionRecord.fail
    rcases state with state | state | state
    · rw [state]
      exact .single .refused
    · rw [state]
      exact .single .failed
    · rw [state]
      exact .single .stopped

/-- `_run` stores that a query was cancelled. -/
theorem Lawful.withdraw (lawful : execution.Lawful)
    (inside : execution.stage = .queueing ∨ execution.stage = .admitted ∨
      execution.stage = .opened) :
    AsyncExecutionRecord.Settled { execution.record with state := .cancelled } ∧
      execution.record.Advances { execution.record with state := .cancelled } := by
  obtain ⟨⟨noResult, -, -⟩, state⟩ := lawful.inExecute inside
  have going : ¬ execution.record.state.Terminal := lawful.open (by
    rcases inside with queueing | admitted | opened
    · simp [queueing]
    · simp [admitted]
    · simp [opened])
  refine ⟨noResult, rfl, rfl, rfl, ?_, fun _ known => known, fun _ known => known,
    fun terminal => absurd terminal going⟩
  rcases state with state | state | state
  · rw [state]
    exact .single .withdrawn
  · rw [state]
    exact .single .interrupted
  · rw [state]
    exact .single .stopped

/-- A step of a task keeps its record lawful and moves it on. -/
theorem taskStep_keeps (lawful : execution.Lawful) {step : TaskStep ρ}
    (stepped : execution.taskStep step = some next) :
    next.Lawful ∧ execution.record.Advances next.record := by
  cases step with
  | begins =>
      rw [taskStep] at stepped
      split at stepped
      · rename_i ready
        cases stepped
        unfold Lawful at lawful
        rw [ready.1] at lawful
        exact ⟨lawful, .refl _⟩
      · cases stepped
  | admitted queueWaitMs =>
      rw [taskStep] at stepped
      split at stepped
      · rename_i queueing
        cases stepped
        unfold Lawful at lawful
        rw [queueing] at lawful
        obtain ⟨queued, unknown, unopened, nothing⟩ := lawful
        refine ⟨⟨rfl, rfl, unopened, nothing⟩, rfl, rfl, rfl, ?_, ?_, fun _ known => known, ?_⟩
        · rw [queued]
          exact .single .admitted
        · intro wait known
          rw [unknown] at known
          cases known
        · intro terminal
          rw [queued] at terminal
          exact terminal.elim
      · cases stepped
  | opened identifier =>
      rw [taskStep] at stepped
      split at stepped
      · rename_i admitted
        cases stepped
        unfold Lawful at lawful
        rw [admitted] at lawful
        obtain ⟨running, waited, unopened, nothing⟩ := lawful
        refine ⟨⟨.inl running, waited, rfl, nothing⟩, rfl, rfl, rfl, .refl, fun _ known => known,
          ?_, ?_⟩
        · intro other known
          rw [unopened] at known
          cases known
        · intro terminal
          rw [running] at terminal
          exact terminal.elim
      · cases stepped
  | returns result =>
      rw [taskStep] at stepped
      split at stepped
      · rename_i opened
        cases stepped
        unfold Lawful at lawful
        rw [opened] at lawful
        obtain ⟨state, waited, session, nothing⟩ := lawful
        refine ⟨.inl ⟨rfl, nothing.2.1, session, waited⟩, rfl, rfl, rfl, ?_, fun _ known => known,
          fun _ known => known, ?_⟩
        · rcases state with running | requested
          · rw [running]
            exact .single .completed
          · rw [requested]
            exact .single .outrun
        · intro terminal
          rcases state with running | requested
          · rw [running] at terminal
            exact terminal.elim
          · rw [requested] at terminal
            exact terminal.elim
      · cases stepped
  | raises failure admissionState =>
      rw [taskStep] at stepped
      split at stepped
      · rename_i queueing
        cases stepped
        obtain ⟨settled, advances⟩ := lawful.fail (.inl queueing) failure admissionState
        exact ⟨.inl settled, advances⟩
      · rename_i admitted
        cases stepped
        obtain ⟨settled, advances⟩ := lawful.fail (.inr (.inl admitted)) failure admissionState
        exact ⟨.inl settled, advances⟩
      · rename_i opened
        cases stepped
        obtain ⟨settled, advances⟩ := lawful.fail (.inr (.inr opened)) failure admissionState
        exact ⟨.inl settled, advances⟩
      · cases stepped
      · cases stepped
  | isCancelled =>
      rw [taskStep] at stepped
      split at stepped
      · rename_i interrupted
        split at stepped
        · rename_i queueing
          cases stepped
          obtain ⟨settled, advances⟩ := lawful.withdraw (.inl queueing)
          exact ⟨.inl settled, advances⟩
        · rename_i admitted
          cases stepped
          obtain ⟨settled, advances⟩ := lawful.withdraw (.inr (.inl admitted))
          exact ⟨.inl settled, advances⟩
        · rename_i opened
          cases stepped
          obtain ⟨settled, advances⟩ := lawful.withdraw (.inr (.inr opened))
          exact ⟨.inl settled, advances⟩
        · rename_i scheduled
          cases stepped
          unfold Lawful at lawful
          rw [scheduled] at lawful
          exact ⟨.inr ⟨lawful, interrupted⟩, .refl _⟩
        · cases stepped
      · cases stepped

/-- What `request_cancel` comes to: nothing changes, the task of a queued record is interrupted,
or the session of a running one is to be cancelled. -/
theorem requestCancel_cases (execution : AsyncExecution ρ) (allowQueryCancellation : Bool) :
    (execution.record.state = .queued ∧ execution.requestCancel allowQueryCancellation =
        ({ execution with interrupted := true }, .answers .queued)) ∨
      (∃ identifier, execution.record.state = .running ∧ allowQueryCancellation = true ∧
        execution.record.sessionIdentifier = some identifier ∧
        execution.requestCancel allowQueryCancellation =
          ({ execution with record := { execution.record with state := .cancelRequested } },
            .sends identifier)) ∨
      (execution.record.state ≠ .queued ∧
        (execution.requestCancel allowQueryCancellation).1 = execution ∧
        ∀ identifier, (execution.requestCancel allowQueryCancellation).2 ≠ .sends identifier) := by
  unfold requestCancel
  split
  · rename_i queued
    exact .inl ⟨queued, rfl⟩
  · rename_i running
    have started : execution.record.state ≠ .queued := by simp [running]
    split
    · rename_i allowed
      split
      · exact .inr (.inr ⟨started, rfl, by simp⟩)
      · rename_i identifier known
        exact .inr (.inl ⟨identifier, running, allowed, known, rfl⟩)
    · exact .inr (.inr ⟨started, rfl, by simp⟩)
  · rename_i notQueued notRunning
    exact .inr (.inr ⟨notQueued, rfl, by simp⟩)

/-- The task of a record is interrupted. -/
theorem Lawful.interrupt (lawful : execution.Lawful) :
    Lawful { execution with interrupted := true } := by
  unfold Lawful at lawful ⊢
  cases stage : execution.stage with
  | ended =>
      rw [stage] at lawful
      exact lawful.imp_right fun unadmitted => ⟨unadmitted.1, rfl⟩
  | scheduled | queueing | admitted | opened =>
      rw [stage] at lawful
      exact lawful

/-- A running record whose session is known has its task in that session. -/
theorem Lawful.stage_opened (lawful : execution.Lawful) {identifier : String}
    (running : execution.record.state = .running)
    (known : execution.record.sessionIdentifier = some identifier) :
    execution.stage = .opened := by
  unfold Lawful at lawful
  cases stage : execution.stage with
  | scheduled | queueing =>
      rw [stage] at lawful
      have queued := lawful.1
      rw [running] at queued
      cases queued
  | admitted =>
      rw [stage] at lawful
      have unopened := lawful.2.2.1
      rw [known] at unopened
      cases unopened
  | opened => rfl
  | ended =>
      rw [stage] at lawful
      rcases lawful with settled | ⟨unadmitted, -⟩
      · unfold AsyncExecutionRecord.Settled at settled
        rw [running] at settled
        exact settled.elim
      · have queued := unadmitted.1
        rw [running] at queued
        cases queued

/-- The session of a running record is to be cancelled. -/
theorem Lawful.request (lawful : execution.Lawful) {identifier : String}
    (running : execution.record.state = .running)
    (known : execution.record.sessionIdentifier = some identifier) :
    Lawful { execution with record := { execution.record with state := .cancelRequested } } ∧
      execution.record.Advances { execution.record with state := .cancelRequested } := by
  have opened := lawful.stage_opened running known
  constructor
  · unfold Lawful at lawful ⊢
    rw [opened] at lawful
    dsimp only
    rw [opened]
    exact ⟨.inr rfl, lawful.2⟩
  · refine ⟨rfl, rfl, rfl, ?_, fun _ known => known, fun _ known => known, fun terminal => ?_⟩
    · rw [running]
      exact .single .requested
    · rw [running] at terminal
      exact terminal.elim

end AsyncExecution

/-! ## Steps -/

@[simp] theorem AsyncState.get_put (state : AsyncState ρ) (admissionId other : String)
    (execution : AsyncExecution ρ) :
    (state.put admissionId execution).get other =
      if admissionId = other then some execution else state.get other :=
  dictGet_dictSet ..

theorem AsyncState.requireRecord_ok {state : AsyncState ρ} {connection admissionId : String}
    {caller : AsyncCaller} {visible : Bool} {execution : AsyncExecution ρ}
    (required : state.requireRecord connection admissionId caller visible = .ok execution) :
    visible = true ∧ state.get admissionId = some execution ∧
      execution.record.connectionId = connection ∧ caller.Entitled execution.record := by
  unfold requireRecord at required
  split at required
  · rename_i seen
    split at required
    · cases required
    · rename_i other found
      split at required
      · rename_i here
        split at required
        · rename_i entitled
          cases required
          exact ⟨seen, found, here, entitled⟩
        · cases required
      · cases required
  · cases required

/-- The refusals of `_require_async_record` tell nothing of a record. -/
theorem AsyncState.requireRecord_error {state : AsyncState ρ} {connection admissionId : String}
    {caller : AsyncCaller} {visible : Bool} {response : AsyncResponse ρ}
    (required : state.requireRecord connection admissionId caller visible = .error response) :
    ∃ detail, response = .failure 404 detail := by
  unfold requireRecord at required
  split at required
  · split at required
    · cases required
      exact ⟨_, rfl⟩
    · split at required
      · split at required
        · cases required
        · cases required
          exact ⟨_, rfl⟩
      · cases required
        exact ⟨_, rfl⟩
  · cases required
    exact ⟨_, rfl⟩

/-- The record of an admission and its caller. -/
def newExecution (connection admissionId : String) (caller : AsyncCaller) : AsyncExecution ρ where
  record := { admissionId, connectionId := connection, principalSubject := caller.subject }

/-- What a step does: it makes a record, lets a task go on, interrupts the task of a queued
record, sends a request to the database, tells the status of a record, or answers otherwise and
leaves every record as it is. -/
inductive AsyncEffect (state : AsyncState ρ) :
    AsyncAction ρ → AsyncState ρ → List (AsyncEvent ρ) → Prop
  | submitted (connection admissionId : String) (caller : AsyncCaller) (url : String)
      (fresh : state.get admissionId = none) :
      AsyncEffect state (.submits connection admissionId caller true)
        (state.put admissionId (newExecution connection admissionId caller))
        [.responded caller (.admission admissionId url)]
  | advanced (admissionId : String) (step : TaskStep ρ) (execution next : AsyncExecution ρ)
      (found : state.get admissionId = some execution)
      (stepped : execution.taskStep step = some next) :
      AsyncEffect state (.runs admissionId step) (state.put admissionId next) []
  | interrupted (connection admissionId : String) (caller : AsyncCaller) (allow : Bool)
      (execution : AsyncExecution ρ) (found : state.get admissionId = some execution)
      (entitled : caller.Entitled execution.record)
      (queued : execution.record.state = .queued) :
      AsyncEffect state (.cancels connection admissionId caller true allow true)
        (state.put admissionId { execution with interrupted := true })
        [.responded caller (.cancelResult admissionId .queued)]
  | sent (admissionId : String) (caller : AsyncCaller) (execution : AsyncExecution ρ)
      (identifier : String) (next : AsyncState ρ)
      (found : state.get admissionId = some execution)
      (entitled : caller.Entitled execution.record)
      (running : execution.record.state = .running)
      (known : execution.record.sessionIdentifier = some identifier)
      (executions : ∀ other, next.get other = (state.put admissionId
        { execution with record := { execution.record with state := .cancelRequested } }).get other) :
      AsyncEffect state
        (.cancels execution.record.connectionId admissionId caller true true true) next
        [.databaseCancel admissionId identifier caller]
  | shown (admissionId : String) (caller : AsyncCaller) (execution : AsyncExecution ρ)
      (found : state.get admissionId = some execution)
      (entitled : caller.Entitled execution.record) :
      AsyncEffect state (.polls execution.record.connectionId admissionId caller true) state
        [.responded caller (.status execution.record.status)]
  | answered (action : AsyncAction ρ) (next : AsyncState ρ) (caller : AsyncCaller)
      (response : AsyncResponse ρ) (executions : ∀ other, next.get other = state.get other)
      (plain : ∀ status, response ≠ .status status) :
      AsyncEffect state action next [.responded caller response]

theorem AsyncEffect.ofCancel {state : AsyncState ρ} {admissionId : String} {caller : AsyncCaller}
    {execution : AsyncExecution ρ} {allowQueryCancellation engineReady : Bool}
    (found : state.get admissionId = some execution) (entitled : caller.Entitled execution.record) :
    AsyncEffect state (.cancels execution.record.connectionId admissionId caller true
        allowQueryCancellation engineReady)
      (cancelRecord state admissionId caller execution allowQueryCancellation engineReady).1
      (cancelRecord state admissionId caller execution allowQueryCancellation engineReady).2 := by
  unfold cancelRecord
  rw [if_neg (not_not_intro entitled)]
  cases engineReady with
  | false => exact .answered _ _ _ _ (fun _ => rfl) (by simp [internalError])
  | true =>
      dsimp only
      rw [if_pos rfl]
      rcases execution.requestCancel_cases allowQueryCancellation with
        ⟨queued, asked⟩ | ⟨identifier, running, allowed, known, asked⟩ | ⟨-, same, unsent⟩
      · rw [asked]
        exact .interrupted _ _ _ _ _ found entitled queued
      · rw [asked, allowed]
        exact .sent _ _ _ _ _ found entitled running known fun _ => rfl
      · split
        · rename_i reached answer
          refine .answered _ _ _ _ (fun other => ?_) (by simp)
          rw [same, AsyncState.get_put]
          split
          · rename_i here
            rw [← here, found]
          · rfl
        · rename_i identifier answer
          exact absurd answer (unsent identifier)
        · exact .answered _ _ _ _ (fun _ => rfl) (by simp)
        · exact .answered _ _ _ _ (fun _ => rfl) (by simp)

/-- What every step does. -/
theorem asyncStep_effect {state next : AsyncState ρ} {action : AsyncAction ρ}
    {new : List (AsyncEvent ρ)} (stepped : asyncStep state action = some (next, new)) :
    AsyncEffect state action next new := by
  cases action with
  | submits connection admissionId caller visible =>
      rw [asyncStep, submitQuery] at stepped
      split at stepped
      · rename_i seen
        split at stepped
        · cases stepped
        · rename_i fresh
          cases stepped
          rw [seen]
          exact .submitted _ _ _ _ fresh
      · cases stepped
        exact .answered _ _ _ _ (fun _ => rfl) (by simp [unknownConnection])
  | runs admissionId step =>
      obtain ⟨execution, found, moved⟩ := Option.bind_eq_some_iff.mp stepped
      obtain ⟨after, taken, same⟩ := Option.map_eq_some_iff.mp moved
      cases same
      exact .advanced _ _ _ _ found taken
  | polls connection admissionId caller visible =>
      rw [asyncStep] at stepped
      split at stepped
      · rename_i response refused
        cases stepped
        obtain ⟨detail, rfl⟩ := AsyncState.requireRecord_error refused
        exact .answered _ _ _ _ (fun _ => rfl) (by simp)
      · rename_i execution required
        cases stepped
        obtain ⟨rfl, found, rfl, entitled⟩ := AsyncState.requireRecord_ok required
        exact .shown _ _ _ found entitled
  | cancels connection admissionId caller visible allowQueryCancellation engineReady =>
      rw [asyncStep] at stepped
      split at stepped
      · rename_i response refused
        cases stepped
        obtain ⟨detail, rfl⟩ := AsyncState.requireRecord_error refused
        exact .answered _ _ _ _ (fun _ => rfl) (by simp)
      · rename_i execution required
        obtain ⟨rfl, found, rfl, entitled⟩ := AsyncState.requireRecord_ok required
        have effect := @AsyncEffect.ofCancel _ _ _ _ _ allowQueryCancellation engineReady found
          entitled
        rw [Option.some.inj stepped] at effect
        exact effect
  | cancelReturns admissionId caller failed =>
      rw [asyncStep] at stepped
      split at stepped
      · obtain ⟨execution, found, same⟩ := Option.map_eq_some_iff.mp stepped
        cases same
        refine .answered _ _ _ _ (fun _ => rfl) ?_
        cases failed with
        | true => simp [internalError]
        | false => simp
      · cases stepped

/-! ## Accounts -/

/-- The session that an event tells the database to cancel for an admission, with the caller. -/
def AsyncEvent.cancelOf (admissionId : String) : AsyncEvent ρ → Option (String × AsyncCaller)
  | .databaseCancel other identifier caller =>
      if other = admissionId then some (identifier, caller) else none
  | .responded _ _ => none

/-- The sessions that the database is told to cancel for an admission, with the callers. -/
def cancelsOf (admissionId : String) (events : List (AsyncEvent ρ)) :
    List (String × AsyncCaller) :=
  events.filterMap (AsyncEvent.cancelOf admissionId)

theorem cancelsOf_append (admissionId : String) (past new : List (AsyncEvent ρ)) :
    cancelsOf admissionId (past ++ new) = cancelsOf admissionId past ++ cancelsOf admissionId new :=
  List.filterMap_append

theorem cancelsOf_sent (admissionId other identifier : String) (caller : AsyncCaller) :
    cancelsOf (ρ := ρ) admissionId [.databaseCancel other identifier caller] =
      if other = admissionId then [(identifier, caller)] else [] := by
  rw [cancelsOf, List.filterMap_cons, AsyncEvent.cancelOf]
  split <;> simp_all

theorem mem_cancelsOf {admissionId identifier : String} {caller : AsyncCaller}
    {events : List (AsyncEvent ρ)} :
    (identifier, caller) ∈ cancelsOf admissionId events ↔
      .databaseCancel admissionId identifier caller ∈ events := by
  rw [cancelsOf, List.mem_filterMap]
  constructor
  · rintro ⟨event, member, shown⟩
    cases event with
    | responded _ _ => cases shown
    | databaseCancel other known asker =>
        rw [AsyncEvent.cancelOf] at shown
        split at shown
        · rename_i same
          cases shown
          exact same ▸ member
        · cases shown
  · exact fun member => ⟨_, member, if_pos rfl⟩

/-- The states of a record once its session is to be cancelled. -/
def AsyncExecutionState.Asked (state : AsyncExecutionState) : Prop :=
  state = .cancelRequested ∨ state = .completed ∨ state = .cancelled

theorem AsyncExecutionState.Asked.later {first second : AsyncExecutionState}
    (asked : first.Asked) (path : Relation.ReflTransGen AsyncExecutionState.Next first second) :
    second.Asked := by
  induction path with
  | refl => exact asked
  | tail _ move ih =>
      cases move with
      | outrun => exact .inr (.inl rfl)
      | stopped => exact .inr (.inr rfl)
      | admitted | refused | withdrawn | completed | failed | interrupted | requested =>
          rcases ih with wrong | wrong | wrong <;> cases wrong

/-- The record of an admission agrees with what a run has shown of it. -/
structure Account (admissionId : String) (events : List (AsyncEvent ρ))
    (execution : AsyncExecution ρ) : Prop where
  lawful : execution.Lawful
  named : execution.record.admissionId = admissionId
  interrupted : execution.interrupted = true → ∃ caller : AsyncCaller,
    caller.Entitled execution.record ∧
      .responded caller (.cancelResult admissionId .queued) ∈ events
  stopped : execution.record.state = .cancelled ∨ execution.record.state = .cancelRequested →
    execution.interrupted = true ∨ cancelsOf admissionId events ≠ []
  requested : execution.record.state = .cancelRequested → cancelsOf admissionId events ≠ []
  sent : ∀ identifier caller, (identifier, caller) ∈ cancelsOf admissionId events →
    cancelsOf admissionId events = [(identifier, caller)] ∧
      execution.record.sessionIdentifier = some identifier ∧
      caller.Entitled execution.record ∧ execution.record.state.Asked

theorem AsyncCaller.Entitled.later {caller : AsyncCaller} {earlier later : AsyncExecutionRecord ρ}
    (entitled : caller.Entitled earlier) (advances : earlier.Advances later) :
    caller.Entitled later := by
  unfold Entitled
  rw [advances.principalSubject]
  exact entitled

namespace Account

variable {admissionId : String} {events : List (AsyncEvent ρ)} {execution next : AsyncExecution ρ}

/-- Other events are shown. -/
theorem more (account : Account admissionId events execution) {new : List (AsyncEvent ρ)}
    (apart : cancelsOf admissionId new = []) : Account admissionId (events ++ new) execution := by
  have same : cancelsOf admissionId (events ++ new) = cancelsOf admissionId events := by
    rw [cancelsOf_append, apart, List.append_nil]
  refine ⟨account.lawful, account.named, fun interrupted => ?_, ?_, ?_, ?_⟩
  · obtain ⟨caller, entitled, shown⟩ := account.interrupted interrupted
    exact ⟨caller, entitled, List.mem_append_left _ shown⟩
  · rw [same]
    exact account.stopped
  · rw [same]
    exact account.requested
  · rw [same]
    exact account.sent

/-- The record is new. -/
theorem fresh (connection : String) (caller : AsyncCaller)
    (unasked : cancelsOf admissionId events = []) :
    Account admissionId events (newExecution connection admissionId caller) where
  lawful := ⟨rfl, rfl, rfl, rfl, rfl, rfl⟩
  named := rfl
  interrupted wrong := by cases wrong
  stopped wrong := by rcases wrong with wrong | wrong <;> cases wrong
  requested wrong := by cases wrong
  sent identifier asker member := by
    rw [unasked] at member
    cases member

/-- A step of a task makes a record cancelled only at the word of a caller, and asks for no
cancellation itself. -/
theorem taskStep_stopped (lawful : execution.Lawful) {step : TaskStep ρ}
    (stepped : execution.taskStep step = some next) :
    next.interrupted = execution.interrupted ∧
      (next.record.state = .cancelled → execution.record.state = .cancelRequested ∨
        execution.interrupted = true) ∧
      (next.record.state = .cancelRequested → execution.record.state = .cancelRequested) := by
  cases step with
  | begins =>
      rw [AsyncExecution.taskStep] at stepped
      split at stepped
      · rename_i ready
        cases stepped
        have going := lawful.open (by simp [ready.1])
        refine ⟨rfl, fun cancelled => ?_, id⟩
        dsimp only at cancelled
        rw [cancelled] at going
        exact absurd trivial going
      · cases stepped
  | admitted queueWaitMs =>
      rw [AsyncExecution.taskStep] at stepped
      split at stepped
      · cases stepped
        exact ⟨rfl, by simp, by simp⟩
      · cases stepped
  | opened identifier =>
      rw [AsyncExecution.taskStep] at stepped
      split at stepped
      · rename_i admitted
        cases stepped
        have going := lawful.open (by simp [admitted])
        refine ⟨rfl, fun cancelled => ?_, id⟩
        dsimp only at cancelled
        rw [cancelled] at going
        exact absurd trivial going
      · cases stepped
  | returns result =>
      rw [AsyncExecution.taskStep] at stepped
      split at stepped
      · cases stepped
        exact ⟨rfl, by simp [AsyncExecutionRecord.complete],
          by simp [AsyncExecutionRecord.complete]⟩
      · cases stepped
  | raises failure admissionState =>
      have outcome : next.interrupted = execution.interrupted ∧
          next.record = execution.record.fail failure admissionState := by
        rw [AsyncExecution.taskStep] at stepped
        split at stepped
        · cases stepped
          exact ⟨rfl, rfl⟩
        · cases stepped
          exact ⟨rfl, rfl⟩
        · cases stepped
          exact ⟨rfl, rfl⟩
        · cases stepped
        · cases stepped
      rw [outcome.2, AsyncExecutionRecord.fail]
      dsimp only
      split
      · rename_i requested
        exact ⟨outcome.1, fun _ => .inl requested, fun _ => requested⟩
      · exact ⟨outcome.1, by simp, by simp⟩
  | isCancelled =>
      rw [AsyncExecution.taskStep] at stepped
      split at stepped
      · rename_i interrupted
        split at stepped
        · cases stepped
          exact ⟨rfl, fun _ => .inr interrupted, by simp⟩
        · cases stepped
          exact ⟨rfl, fun _ => .inr interrupted, by simp⟩
        · cases stepped
          exact ⟨rfl, fun _ => .inr interrupted, by simp⟩
        · cases stepped
          exact ⟨rfl, fun _ => .inr interrupted, id⟩
        · cases stepped
      · cases stepped

/-- The task goes on. -/
theorem advance (account : Account admissionId events execution) {step : TaskStep ρ}
    (stepped : execution.taskStep step = some next) : Account admissionId events next := by
  obtain ⟨lawful, advances⟩ := AsyncExecution.taskStep_keeps account.lawful stepped
  obtain ⟨interrupted, cancelled, requested⟩ := taskStep_stopped account.lawful stepped
  refine ⟨lawful, advances.admissionId.trans account.named, fun set => ?_, ?_,
    fun now => account.requested (requested now), fun identifier caller member => ?_⟩
  · obtain ⟨caller, entitled, shown⟩ := account.interrupted (interrupted ▸ set)
    exact ⟨caller, entitled.later advances, shown⟩
  · rintro (now | now)
    · rcases cancelled now with before | before
      · exact .inr (account.requested before)
      · exact .inl (interrupted.trans before)
    · exact .inr (account.requested (requested now))
  · obtain ⟨only, known, entitled, asked⟩ := account.sent identifier caller member
    exact ⟨only, advances.sessionIdentifier identifier known, entitled.later advances,
      asked.later advances.state⟩

/-- A caller interrupts the task of a record. -/
theorem interrupt (account : Account admissionId events execution) {caller : AsyncCaller}
    (entitled : caller.Entitled execution.record) :
    Account admissionId (events ++ [.responded caller (.cancelResult admissionId .queued)])
      { execution with interrupted := true } := by
  obtain ⟨-, named, -, -, requested, sent⟩ := account.more
    (rfl : cancelsOf admissionId [.responded caller (.cancelResult admissionId .queued)] = [])
  exact ⟨account.lawful.interrupt, named, fun _ => ⟨caller, entitled, List.mem_append_right _
    (List.mem_singleton.mpr rfl)⟩, fun _ => .inl rfl, requested, sent⟩

/-- A caller has the session of a running record cancelled, for the first time. -/
theorem send (account : Account admissionId events execution) {caller : AsyncCaller}
    {identifier : String} (entitled : caller.Entitled execution.record)
    (running : execution.record.state = .running)
    (known : execution.record.sessionIdentifier = some identifier) :
    Account admissionId (events ++ [.databaseCancel admissionId identifier caller])
      { execution with record := { execution.record with state := .cancelRequested } } := by
  have unasked : cancelsOf admissionId events = [] := by
    rw [List.eq_nil_iff_forall_not_mem]
    rintro ⟨other, asker⟩ member
    obtain ⟨-, -, -, asked⟩ := account.sent other asker member
    rw [running] at asked
    rcases asked with wrong | wrong | wrong <;> cases wrong
  have one : cancelsOf admissionId
      (events ++ [.databaseCancel admissionId identifier caller]) = [(identifier, caller)] := by
    rw [cancelsOf_append, unasked, cancelsOf_sent, if_pos rfl, List.nil_append]
  refine ⟨(account.lawful.request running known).1, account.named, fun interrupted => ?_, ?_, ?_,
    ?_⟩
  · obtain ⟨asker, allowed, shown⟩ := account.interrupted interrupted
    exact ⟨asker, allowed, List.mem_append_left _ shown⟩
  · exact fun _ => .inr (by simp [one])
  · exact fun _ => by simp [one]
  · intro other asker member
    rw [one, List.mem_singleton] at member
    cases member
    exact ⟨one, known, entitled, .inl rfl⟩

end Account

/-- Every record agrees with what a run has shown. -/
structure AsyncBooks (state : AsyncState ρ) (events : List (AsyncEvent ρ)) : Prop where
  known : ∀ admissionId execution, state.get admissionId = some execution →
    Account admissionId events execution
  unknown : ∀ admissionId, state.get admissionId = none → cancelsOf admissionId events = []

namespace AsyncBooks

variable {state next : AsyncState ρ} {past new : List (AsyncEvent ρ)} {action : AsyncAction ρ}

theorem initial : AsyncBooks (ρ := ρ) {} [] where
  known _ _ found := by cases found
  unknown _ _ := rfl

/-- One record is replaced, with what is shown of it. -/
theorem replace (books : AsyncBooks state past) {admissionId : String}
    {execution : AsyncExecution ρ}
    (executions : ∀ other, next.get other = (state.put admissionId execution).get other)
    (account : Account admissionId (past ++ new) execution)
    (apart : ∀ other, other ≠ admissionId → cancelsOf other new = []) :
    AsyncBooks next (past ++ new) := by
  constructor
  · intro other found there
    rw [executions, AsyncState.get_put] at there
    split at there
    · rename_i same
      cases there
      exact same ▸ account
    · rename_i different
      exact (books.known other found there).more (apart other (Ne.symm different))
  · intro other there
    rw [executions, AsyncState.get_put] at there
    split at there
    · cases there
    · rename_i different
      rw [cancelsOf_append, books.unknown other there, apart other (Ne.symm different)]
      rfl

/-- No record changes. -/
theorem same (books : AsyncBooks state past)
    (executions : ∀ other, next.get other = state.get other)
    (plain : ∀ other, cancelsOf other new = []) : AsyncBooks next (past ++ new) := by
  constructor
  · intro other execution found
    rw [executions] at found
    exact (books.known other execution found).more (plain other)
  · intro other found
    rw [executions] at found
    rw [cancelsOf_append, books.unknown other found, plain other]
    rfl

/-- A step keeps the books. -/
theorem step (books : AsyncBooks state past)
    (stepped : asyncStep state action = some (next, new)) : AsyncBooks next (past ++ new) := by
  cases asyncStep_effect stepped with
  | submitted connection admissionId caller url fresh =>
      exact books.replace (fun _ => rfl)
        ((Account.fresh connection caller (books.unknown admissionId fresh)).more rfl)
        fun _ _ => rfl
  | advanced admissionId step execution after found taken =>
      exact books.replace (fun _ => rfl)
        (((books.known admissionId execution found).advance taken).more rfl) fun _ _ => rfl
  | interrupted connection admissionId caller allow execution found entitled queued =>
      exact books.replace (fun _ => rfl)
        ((books.known admissionId execution found).interrupt entitled) fun _ _ => rfl
  | sent admissionId caller execution identifier _ found entitled running known executions =>
      refine books.replace executions
        ((books.known admissionId execution found).send entitled running known) ?_
      intro other different
      rw [cancelsOf_sent, if_neg (Ne.symm different)]
  | shown admissionId caller execution found entitled =>
      exact books.same (fun _ => rfl) fun _ => rfl
  | answered _ _ caller response executions plain => exact books.same executions fun _ => rfl

/-- A run keeps the books. -/
theorem ofRun {actions : List (AsyncAction ρ)} {final : AsyncState ρ}
    {events : List (AsyncEvent ρ)} (books : AsyncBooks state past)
    (ran : runSteps asyncStep state actions = some (final, events)) :
    AsyncBooks final (past ++ events) :=
  @invariant_of_run _ _ _ _ (fun _ _ => True) _
    (fun books _ stepped => books.step stepped) _ _ _ _ _ books
    (stepsMeet_of_forall (fun _ _ => trivial) _) ran

end AsyncBooks

/-! ## Results -/

section Runs

variable {actions first second : List (AsyncAction ρ)} {middle final : AsyncState ρ}
  {events past more : List (AsyncEvent ρ)}

/-- A step moves every record on. -/
theorem advances_of_step {state next : AsyncState ρ} {action : AsyncAction ρ}
    {new : List (AsyncEvent ρ)} (books : AsyncBooks state past)
    (stepped : asyncStep state action = some (next, new)) {admissionId : String}
    {execution : AsyncExecution ρ} (found : state.get admissionId = some execution) :
    ∃ later, next.get admissionId = some later ∧ execution.record.Advances later.record := by
  have account := books.known admissionId execution found
  cases asyncStep_effect stepped with
  | submitted connection other caller url fresh =>
      refine ⟨execution, ?_, .refl _⟩
      rw [AsyncState.get_put, if_neg, found]
      intro same
      rw [same, found] at fresh
      cases fresh
  | advanced other step there after foundThere taken =>
      rw [AsyncState.get_put]
      split
      · rename_i same
        rw [same, found] at foundThere
        cases foundThere
        exact ⟨after, rfl, (AsyncExecution.taskStep_keeps account.lawful taken).2⟩
      · exact ⟨execution, found, .refl _⟩
  | interrupted connection other caller allow there foundThere entitled queued =>
      rw [AsyncState.get_put]
      split
      · rename_i same
        rw [same, found] at foundThere
        cases foundThere
        exact ⟨_, rfl, .refl _⟩
      · exact ⟨execution, found, .refl _⟩
  | sent other caller there identifier _ foundThere entitled running known executions =>
      rw [executions, AsyncState.get_put]
      split
      · rename_i same
        rw [same, found] at foundThere
        cases foundThere
        exact ⟨_, rfl, (account.lawful.request running known).2⟩
      · exact ⟨execution, found, .refl _⟩
  | shown other caller there foundThere entitled => exact ⟨execution, found, .refl _⟩
  | answered _ _ caller response executions plain =>
      rw [executions]
      exact ⟨execution, found, .refl _⟩

theorem advances_of_books (books : AsyncBooks middle past)
    (ran : runSteps asyncStep middle second = some (final, more)) {admissionId : String}
    {execution : AsyncExecution ρ} (found : middle.get admissionId = some execution) :
    ∃ later, final.get admissionId = some later ∧ execution.record.Advances later.record := by
  refine (@invariant_of_run _ _ _ asyncStep (fun _ _ => True)
    (fun state shown => AsyncBooks state shown ∧ ∃ later, state.get admissionId = some later ∧
      execution.record.Advances later.record) ?_ _ _ _ _ _ ⟨books, execution, found, .refl _⟩
    (stepsMeet_of_forall (fun _ _ => trivial) _) ran).2
  rintro state next shown new action ⟨kept, now, foundNow, advanced⟩ - stepped
  obtain ⟨later, foundLater, advances⟩ := advances_of_step kept stepped foundNow
  exact ⟨kept.step stepped, later, foundLater, advanced.trans advances⟩

/-- From any point of a run to any later one, a record stays that of its query, its state moves
on only, the slot and the session it knows of stay, and once it has ended nothing changes. -/
theorem recordsAdvance_of_run (before : runSteps asyncStep {} first = some (middle, past))
    (after : runSteps asyncStep middle second = some (final, more)) {admissionId : String}
    {execution : AsyncExecution ρ} (found : middle.get admissionId = some execution) :
    ∃ later, final.get admissionId = some later ∧ execution.record.Advances later.record :=
  advances_of_books (AsyncBooks.initial.ofRun before) after found

/-- A query of alice's whose session an operator has cancelled. -/
def stoppedQuery : List (AsyncAction Nat) :=
  let alice : AsyncCaller := { subject := "alice", scopes := [] }
  let operator : AsyncCaller := { subject := "operator", scopes := [queryCancelScope] }
  [.submits "sales" "q1" alice true, .runs "q1" .begins, .runs "q1" (.admitted 5),
    .runs "q1" (.opened "4711"), .polls "sales" "q1" alice true,
    .cancels "sales" "q1" operator true true true,
    .runs "q1" (.raises { category := "DBAPIError", message := "canceled on user request" } none),
    .cancelReturns "q1" operator false]

/-- The state a number of steps of that run lead to, and what they show. -/
def stoppedRun (count : Nat) : AsyncState Nat × List (AsyncEvent Nat) :=
  (runSteps asyncStep {} (stoppedQuery.take count)).getD ({}, [])

/-- The query, its session open, and after its end. -/
def stoppedExecution (ended : Bool) : AsyncExecution Nat where
  record := {
    admissionId := "q1"
    connectionId := "sales"
    principalSubject := "alice"
    state := if ended then .cancelled else .running
    queueWaitMs := some 5
    errorMessage := if ended then some "An unexpected error occurred." else none
    sessionIdentifier := some "4711" }
  stage := if ended then .ended else .opened

theorem recordsAdvance_stoppedQuery : ∃ later, (stoppedRun 8).1.get "q1" = some later ∧
    (stoppedExecution false).record.Advances later.record :=
  recordsAdvance_of_run (rfl : runSteps asyncStep {} (stoppedQuery.take 5) = some (stoppedRun 5))
    (rfl : runSteps asyncStep (stoppedRun 5).1 (stoppedQuery.drop 5) =
      some ((stoppedRun 8).1, (stoppedRun 8).2.drop 2)) rfl

/-- What a record tells of the outcome of its query. -/
theorem AsyncExecution.Lawful.outcome {execution : AsyncExecution ρ} (lawful : execution.Lawful) :
    (execution.record.result.isSome ↔ execution.record.state = .completed) ∧
      (execution.record.errorMessage.isSome →
        execution.record.state = .failed ∨ execution.record.state = .cancelled) ∧
      (execution.record.state = .failed → execution.record.errorMessage.isSome) := by
  by_cases ended : execution.stage = .ended
  · unfold Lawful at lawful
    rw [ended] at lawful
    rcases lawful with settled | ⟨⟨queued, -, -, noResult, noError, -⟩, -⟩
    · unfold AsyncExecutionRecord.Settled at settled
      cases state : execution.record.state with
      | completed =>
          rw [state] at settled
          simp [settled.1, settled.2.1]
      | failed =>
          rw [state] at settled
          simp [settled.1, settled.2]
      | cancelled =>
          rw [state] at settled
          dsimp only at settled
          simp [settled]
      | queued | running | cancelRequested =>
          rw [state] at settled
          exact settled.elim
    · simp [queued, noResult, noError]
  · have inside : execution.record.NoOutcome := by
      by_cases begun : execution.stage = .scheduled
      · unfold Lawful at lawful
        rw [begun] at lawful
        exact lawful.2.2.2
      · exact (lawful.inExecute (by
          cases stage : execution.stage with
          | scheduled => exact absurd stage begun
          | ended => exact absurd stage ended
          | queueing | admitted | opened => simp)).1
    obtain ⟨noResult, noError, -⟩ := inside
    have going := lawful.open ended
    cases state : execution.record.state with
    | completed | failed | cancelled =>
        rw [state] at going
        exact absurd trivial going
    | queued | running | cancelRequested => simp [noResult, noError]

/-- Whoever is told the status of a query owns it or holds `query:cancel`. Rows are told exactly
with `completed`, an error only with `failed` or `cancelled` and always with `failed`; the record
has moved on from the state that was told, and a last state that was told is told for good. -/
theorem statusesHold_of_run (ran : runSteps asyncStep {} actions = some (final, events))
    {caller : AsyncCaller} {status : AsyncQueryStatus ρ}
    (told : .responded caller (.status status) ∈ events) :
    ∃ execution, final.get status.admissionId = some execution ∧
      caller.Entitled execution.record ∧ (status.result.isSome ↔ status.state = .completed) ∧
      (status.error.isSome → status.state = .failed ∨ status.state = .cancelled) ∧
      (status.state = .failed → status.error.isSome) ∧
      Relation.ReflTransGen AsyncExecutionState.Next status.state execution.record.state ∧
      (status.state.Terminal → execution.record.status = status) := by
  obtain ⟨first, action, second, middle, past, next, new, more, -, before, stepped, after, here⟩ :=
    exists_step_of_event ran told
  have books := AsyncBooks.initial.ofRun before
  cases asyncStep_effect stepped with
  | shown admissionId asker execution found entitled =>
      cases List.mem_singleton.mp here
      have account := books.known admissionId execution found
      obtain ⟨later, foundLater, advances⟩ := advances_of_books books after found
      obtain ⟨rows, error, failed⟩ := account.lawful.outcome
      refine ⟨later, ?_, entitled.later advances, rows, error, failed, advances.state, ?_⟩
      · rw [← foundLater, ← account.named]
        rfl
      · exact fun terminal => by rw [advances.final terminal]
  | answered _ _ asker response executions plain =>
      cases List.mem_singleton.mp here
      exact absurd rfl (plain status)
  | submitted connection admissionId asker url fresh => cases List.mem_singleton.mp here
  | advanced admissionId step execution after found taken => cases here
  | interrupted connection admissionId asker allow execution found entitled queued =>
      cases List.mem_singleton.mp here
  | sent admissionId asker execution identifier _ found entitled running known executions =>
      cases List.mem_singleton.mp here

theorem statusesHold_stoppedQuery : ∃ execution, (stoppedRun 8).1.get "q1" = some execution ∧
    AsyncCaller.Entitled { subject := "alice", scopes := [] } execution.record ∧
    ((stoppedExecution false).record.status.result.isSome ↔
      (stoppedExecution false).record.status.state = .completed) ∧
    ((stoppedExecution false).record.status.error.isSome →
      (stoppedExecution false).record.status.state = .failed ∨
        (stoppedExecution false).record.status.state = .cancelled) ∧
    ((stoppedExecution false).record.status.state = .failed →
      (stoppedExecution false).record.status.error.isSome) ∧
    Relation.ReflTransGen AsyncExecutionState.Next
      (stoppedExecution false).record.status.state execution.record.state ∧
    ((stoppedExecution false).record.status.state.Terminal →
      execution.record.status = (stoppedExecution false).record.status) :=
  statusesHold_of_run (rfl : runSteps asyncStep {} stoppedQuery = some (stoppedRun 8))
    (List.mem_cons_of_mem _ (List.mem_cons_self ..))

/-- A query is cancelled, or waits for it, only where somebody entitled to it asked for that,
while it was queued or through the database. -/
theorem cancelled_of_run (ran : runSteps asyncStep {} actions = some (final, events))
    {admissionId : String} {execution : AsyncExecution ρ}
    (found : final.get admissionId = some execution)
    (stopped : execution.record.state = .cancelled ∨
      execution.record.state = .cancelRequested) :
    ∃ caller : AsyncCaller, caller.Entitled execution.record ∧
      (.responded caller (.cancelResult admissionId .queued) ∈ events ∨
        ∃ identifier, .databaseCancel admissionId identifier caller ∈ events) := by
  have account := (AsyncBooks.initial.ofRun ran).known admissionId execution found
  rcases account.stopped stopped with interrupted | asked
  · obtain ⟨caller, entitled, shown⟩ := account.interrupted interrupted
    exact ⟨caller, entitled, .inl shown⟩
  · obtain ⟨⟨identifier, caller⟩, member⟩ := List.exists_mem_of_ne_nil _ asked
    obtain ⟨-, -, entitled, -⟩ := account.sent identifier caller member
    exact ⟨caller, entitled, .inr ⟨identifier, mem_cancelsOf.mp member⟩⟩

theorem cancelled_stoppedQuery : ∃ caller : AsyncCaller,
    caller.Entitled (stoppedExecution true).record ∧
      (.responded caller (.cancelResult "q1" .queued) ∈ (stoppedRun 8).2 ∨
        ∃ identifier, .databaseCancel "q1" identifier caller ∈ (stoppedRun 8).2) :=
  cancelled_of_run (rfl : runSteps asyncStep {} stoppedQuery = some (stoppedRun 8))
    (rfl : (stoppedRun 8).1.get "q1" = some (stoppedExecution true)) (.inl rfl)

end Runs

end QueryGate
