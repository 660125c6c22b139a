import QueryGate.Execution.WriteExecution
import QueryGate.Foundation.Runs

/-! # Asynchronous executions

A query posted with `queue_mode=async` runs as a background task under a record, which its
caller polls and cancels by an admission id (`execution/async_execution.py`, and the three routes
of `api/routes.py` over it). A task of `asyncio` runs alone until it suspends, so the steps here
are the stretches between two awaits. `StructuredQueryService.execute` calls `on_admitted` once
it holds a slot and `on_session_identifier` once its session is open; it may raise at any await.

In every run of any number of queries, polls and cancellations a record goes through its states
in one direction and keeps its last one (`recordsAdvance_of_run`), what a caller is told is its
own to see and stays true (`statusesHold_of_run`), and a session is cancelled in the database at
most once, for a query of its own, at the word of somebody entitled to it
(`databaseCancels_of_run`, `cancelled_of_run`).
-/

namespace QueryGate

open Foundation

variable {ρ : Type}

/-! ## Records -/

/-- `AsyncExecutionState`. -/
inductive AsyncExecutionState where
  | queued | running | completed | failed | cancelRequested | cancelled
  deriving DecidableEq, Repr

/-- The states a record ends in. -/
def AsyncExecutionState.Terminal : AsyncExecutionState → Prop
  | .completed | .failed | .cancelled => True
  | _ => False

instance : DecidablePred AsyncExecutionState.Terminal
  | .completed => inferInstanceAs (Decidable True)
  | .failed => inferInstanceAs (Decidable True)
  | .cancelled => inferInstanceAs (Decidable True)
  | .queued => inferInstanceAs (Decidable False)
  | .running => inferInstanceAs (Decidable False)
  | .cancelRequested => inferInstanceAs (Decidable False)

/-- `AsyncExecutionRecord`, without its task and the time it was made at. -/
structure AsyncExecutionRecord (ρ : Type) where
  admissionId : String
  connectionId : String
  principalSubject : String
  state : AsyncExecutionState := .queued
  queueWaitMs : Option Nat := none
  result : Option ρ := none
  errorMessage : Option String := none
  errorAdmissionState : Option String := none
  sessionIdentifier : Option String := none

/-- Where the task of a record stands: it has not begun, is in `execute` before its slot, with
its slot, with its session open, or has ended. -/
inductive TaskStage where
  | scheduled | queueing | admitted | opened | ended
  deriving DecidableEq, Repr

/-- A record with its task. `interrupted` says that `task.cancel()` was called. -/
structure AsyncExecution (ρ : Type) where
  record : AsyncExecutionRecord ρ
  stage : TaskStage := .scheduled
  interrupted : Bool := false

/-- What happens to a task next: its first step, a hook that `execute` calls, or the end of
`execute`. -/
inductive TaskStep (ρ : Type) where
  | begins
  | admitted (queueWaitMs : Nat)
  | opened (identifier : String)
  | returns (result : ρ)
  | raises (failure : Raised) (admissionState : Option String)
  | isCancelled

/-! ## The background task -/

/-- `_run` where `execute` returns. -/
def AsyncExecutionRecord.complete (record : AsyncExecutionRecord ρ) (result : ρ) :
    AsyncExecutionRecord ρ :=
  { record with result := some result, state := .completed }

/-- `_run` where `execute` raises. -/
def AsyncExecutionRecord.fail (record : AsyncExecutionRecord ρ) (failure : Raised)
    (admissionState : Option String) : AsyncExecutionRecord ρ :=
  { record with
    errorMessage := some (publicErrorMessage (.raised failure))
    errorAdmissionState := admissionState
    state := if record.state = .cancelRequested then .cancelled else .failed }

/-- One step of `_run`, where it can happen. A task that is cancelled before its first step
never enters the body, so that its record stays as it is. -/
def AsyncExecution.taskStep (execution : AsyncExecution ρ) :
    TaskStep ρ → Option (AsyncExecution ρ)
  | .begins =>
      if execution.stage = .scheduled ∧ execution.interrupted = false then
        some { execution with stage := .queueing }
      else none
  | .admitted queueWaitMs =>
      if execution.stage = .queueing then
        some { execution with
          record := { execution.record with state := .running, queueWaitMs := some queueWaitMs }
          stage := .admitted }
      else none
  | .opened identifier =>
      if execution.stage = .admitted then
        some { execution with
          record := { execution.record with sessionIdentifier := some identifier }
          stage := .opened }
      else none
  | .returns result =>
      if execution.stage = .opened then
        some { execution with record := execution.record.complete result, stage := .ended }
      else none
  | .raises failure admissionState =>
      match execution.stage with
      | .queueing | .admitted | .opened =>
          some { execution with
            record := execution.record.fail failure admissionState
            stage := .ended }
      | .scheduled | .ended => none
  | .isCancelled =>
      if execution.interrupted then
        match execution.stage with
        | .queueing | .admitted | .opened =>
            some { execution with
              record := { execution.record with state := .cancelled }
              stage := .ended }
        | .scheduled => some { execution with stage := .ended }
        | .ended => none
      else none

/-! ## Cancellation -/

/-- What `request_cancel` comes to: a state, a request to the database that it waits for, or one
of its two refusals. -/
inductive CancelOutcome where
  | answers (state : AsyncExecutionState)
  | sends (identifier : String)
  | notEnabled
  | notReady
  deriving DecidableEq, Repr

/-- The text of `QueryCancellationNotEnabledError`. -/
def cancellationNotEnabled : String :=
  "query cancellation is not enabled for this connection — set " ++
    "Policy.allow_query_cancellation after granting the required " ++
    "DB-level permission (Postgres: GRANT pg_signal_backend; " ++ "MSSQL: ALTER ANY CONNECTION)"

/-- The text of `QueryCancellationNotReadyError`. -/
def cancellationNotReady : String :=
  "this query has not yet opened a database session — try " ++ "cancelling again shortly"

/-- `request_cancel` until it awaits `cancel_session`. -/
def AsyncExecution.requestCancel (execution : AsyncExecution ρ) (allowQueryCancellation : Bool) :
    AsyncExecution ρ × CancelOutcome :=
  match execution.record.state with
  | .queued => ({ execution with interrupted := true }, .answers .queued)
  | .running =>
      if allowQueryCancellation then
        match execution.record.sessionIdentifier with
        | none => (execution, .notReady)
        | some identifier =>
            ({ execution with record := { execution.record with state := .cancelRequested } },
              .sends identifier)
      else (execution, .notEnabled)
  | state => (execution, .answers state)

/-! ## Routes -/

/-- The caller of a route, with what the routes read of it. -/
structure AsyncCaller where
  subject : String
  scopes : List String
  deriving DecidableEq, Repr

/-- `QUERY_CANCEL_SCOPE`. -/
def queryCancelScope : String := "query:cancel"

/-- The caller owns the record or holds `query:cancel`. -/
def AsyncCaller.Entitled (caller : AsyncCaller) (record : AsyncExecutionRecord ρ) : Prop :=
  record.principalSubject = caller.subject ∨ queryCancelScope ∈ caller.scopes

instance (caller : AsyncCaller) (record : AsyncExecutionRecord ρ) :
    Decidable (caller.Entitled record) :=
  inferInstanceAs (Decidable (_ ∨ _))

/-- `AsyncQueryStatus`. -/
structure AsyncQueryStatus (ρ : Type) where
  admissionId : String
  state : AsyncExecutionState
  queueWaitMs : Option Nat := none
  result : Option ρ := none
  error : Option String := none
  admissionState : Option String := none

/-- What `get_query_status` tells of a record. -/
def AsyncExecutionRecord.status (record : AsyncExecutionRecord ρ) : AsyncQueryStatus ρ where
  admissionId := record.admissionId
  state := record.state
  queueWaitMs := record.queueWaitMs
  result := record.result
  error := record.errorMessage
  admissionState := record.errorAdmissionState

/-- The answer of a route. -/
inductive AsyncResponse (ρ : Type) where
  | admission (admissionId statusUrl : String)
  | status (status : AsyncQueryStatus ρ)
  | cancelResult (admissionId : String) (state : AsyncExecutionState)
  | failure (statusCode : Nat) (detail : String)

/-- What a run shows: the answers to callers, and the sessions that the database is told to
cancel. -/
inductive AsyncEvent (ρ : Type) where
  | responded (caller : AsyncCaller) (response : AsyncResponse ρ)
  | databaseCancel (admissionId identifier : String) (caller : AsyncCaller)

/-- The records of `InProcessAsyncExecutionStore` with their tasks, and the cancellations that
wait for the database. -/
structure AsyncState (ρ : Type) where
  executions : List (String × AsyncExecution ρ) := []
  sending : List (String × AsyncCaller) := []

/-- The execution of an admission. -/
def AsyncState.get (state : AsyncState ρ) (admissionId : String) : Option (AsyncExecution ρ) :=
  dictGet state.executions admissionId

/-- The state with the execution of an admission replaced. -/
def AsyncState.put (state : AsyncState ρ) (admissionId : String) (execution : AsyncExecution ρ) :
    AsyncState ρ :=
  { state with executions := dictSet state.executions admissionId execution }

/-- The answer of `_require_connection` for a connection that is not visible. -/
def unknownConnection (connection : String) : AsyncResponse ρ :=
  .failure 404 s!"Unknown connection: {quoted connection}"

/-- The answer of `_require_async_record` for an admission that the caller may not see. -/
def unknownAdmission (admissionId : String) : AsyncResponse ρ :=
  .failure 404 s!"Unknown async query admission: {quoted admissionId}"

/-- `_require_async_record`. -/
def AsyncState.requireRecord (state : AsyncState ρ) (connection admissionId : String)
    (caller : AsyncCaller) (visible : Bool) : Except (AsyncResponse ρ) (AsyncExecution ρ) :=
  if visible then
    match state.get admissionId with
    | none => .error (unknownAdmission admissionId)
    | some execution =>
        if execution.record.connectionId = connection then
          if caller.Entitled execution.record then .ok execution
          else .error (unknownAdmission admissionId)
        else .error (unknownAdmission admissionId)
  else .error (unknownConnection connection)

/-- What happens: a query is posted, the task of one goes on, a route is called, or a
cancellation comes back from the database. `visible` is the answer of
`resolve_visible_connection`, with the policy's `allow_query_cancellation`; `engineReady` is
that of `get_engine`. -/
inductive AsyncAction (ρ : Type) where
  | submits (connection admissionId : String) (caller : AsyncCaller) (visible : Bool)
  | runs (admissionId : String) (step : TaskStep ρ)
  | polls (connection admissionId : String) (caller : AsyncCaller) (visible : Bool)
  | cancels (connection admissionId : String) (caller : AsyncCaller) (visible : Bool)
      (allowQueryCancellation engineReady : Bool)
  | cancelReturns (admissionId : String) (caller : AsyncCaller) (failed : Bool)

/-- The masked answer to an unexpected failure. -/
def internalError : AsyncResponse ρ := .failure 500 "An unexpected error occurred."

/-- `execute_query` with `queue_mode=async`. An admission id is new. -/
def submitQuery (state : AsyncState ρ) (connection admissionId : String) (caller : AsyncCaller)
    (visible : Bool) : Option (AsyncState ρ × List (AsyncEvent ρ)) :=
  if visible then
    match state.get admissionId with
    | some _ => none
    | none =>
        some (state.put admissionId
          { record := {
              admissionId, connectionId := connection, principalSubject := caller.subject } },
          [.responded caller
            (.admission admissionId s!"/api/v1/{connection}/query/{admissionId}")])
  else some (state, [.responded caller (unknownConnection connection)])

/-- `cancel_query` on a record, until it awaits the database. -/
def cancelRecord (state : AsyncState ρ) (admissionId : String) (caller : AsyncCaller)
    (execution : AsyncExecution ρ) (allowQueryCancellation engineReady : Bool) :
    AsyncState ρ × List (AsyncEvent ρ) :=
  if ¬ caller.Entitled execution.record then
    (state, [.responded caller
      (.failure 403 s!"Missing required scope: {quoted queryCancelScope}")])
  else if engineReady then
    let asked := execution.requestCancel allowQueryCancellation
    match asked.2 with
    | .answers reached =>
        (state.put admissionId asked.1,
          [.responded caller (.cancelResult admissionId reached)])
    | .sends identifier =>
        ({ state.put admissionId asked.1 with
            sending := (admissionId, caller) :: state.sending },
          [.databaseCancel admissionId identifier caller])
    | .notEnabled => (state, [.responded caller (.failure 403 cancellationNotEnabled)])
    | .notReady => (state, [.responded caller (.failure 409 cancellationNotReady)])
  else (state, [.responded caller internalError])

/-- One step, where it can happen. -/
def asyncStep (state : AsyncState ρ) : AsyncAction ρ → Option (AsyncState ρ × List (AsyncEvent ρ))
  | .submits connection admissionId caller visible =>
      submitQuery state connection admissionId caller visible
  | .runs admissionId step =>
      (state.get admissionId).bind fun execution =>
        (execution.taskStep step).map fun next => (state.put admissionId next, [])
  | .polls connection admissionId caller visible =>
      match state.requireRecord connection admissionId caller visible with
      | .error response => some (state, [.responded caller response])
      | .ok execution => some (state, [.responded caller (.status execution.record.status)])
  | .cancels connection admissionId caller visible allowQueryCancellation engineReady =>
      match state.requireRecord connection admissionId caller visible with
      | .error response => some (state, [.responded caller response])
      | .ok execution =>
          some (cancelRecord state admissionId caller execution allowQueryCancellation engineReady)
  | .cancelReturns admissionId caller failed =>
      if (admissionId, caller) ∈ state.sending then
        (state.get admissionId).map fun execution =>
          ({ state with sending := state.sending.erase (admissionId, caller) },
            [.responded caller (if failed then internalError
              else .cancelResult admissionId execution.record.state)])
      else none

end QueryGate
