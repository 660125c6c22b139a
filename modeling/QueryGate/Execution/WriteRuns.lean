import QueryGate.Execution.WriteExecution

/-! # What a committed write went through

Each step of an attempt passes under one condition, and a committed write passed
every step of its path. A run is a sequence of calls; its steps are the attempts
the calls make, and every write a run commits was committed by one of its steps.
-/

namespace QueryGate

open Foundation

@[simp] theorem attempt_eq_ok_iff {α : Type} {outcome : Gate α} {result : α} :
    attempt outcome = .ok result ↔ outcome = .ok result := by
  cases outcome with
  | error error => simp [attempt, Except.mapError]
  | ok value => simp [attempt, Except.mapError]

@[simp] theorem outside_eq_ok_iff {failure : Option Raised} {result : Unit} :
    outside failure = .ok result ↔ failure = none := by
  cases failure <;> simp [outside]

namespace WriteExecutionService

@[simp] theorem executeDml_eq_ok_iff {view : StatementView} {message : String} {result : Unit} :
    executeDml view message = .ok result ↔ view.dmlFailure = none := by
  unfold executeDml
  cases view.dmlFailure with
  | none => simp
  | some failure => cases failure <;> simp

@[simp] theorem refuseRows_eq_ok_iff {bad : Bool} {message : String} {result : Unit} :
    refuseRows bad message = .ok result ↔ bad = false :=
  refuse_eq_ok_iff

variable {service : WriteExecutionService}

@[simp] theorem enforceWriteApprovalGate_eq_ok_iff {statement : WriteStatement} {affected now : Int}
    {token : Option String} {result : Unit} :
    service.enforceWriteApprovalGate statement affected token now = .ok result ↔
      (service.needsApproval affected = true → service.approved statement token now = true) := by
  unfold enforceWriteApprovalGate
  cases service.needsApproval affected <;> cases service.approved statement token now <;> simp

/-- What the steps between the count and the commit require of one statement. -/
structure TransactionPassed (service : WriteExecutionService) (view : AttemptView)
    (statement : WriteStatement) (schema : TableSchema) (dml : Dml) (token : Option String)
    (affected actual : Int) : Prop where
  session : view.transaction.session = none
  counted : service.countAffected view.statement statement schema = .ok affected
  countInCap : affected ≤ service.policy.write.maxAffectedRows
  gate : service.needsApproval affected = true →
    service.approved statement token view.statement.now = true
  ran : view.statement.dmlFailure = none
  rows : actual = service.actualRows view.statement statement dml affected
  rowsInCap : actual ≤ service.policy.write.maxAffectedRows
  commit : view.transaction.commit = none

theorem transactionBody_eq_ok_iff {view : AttemptView} {statement : WriteStatement}
    {schema : TableSchema} {dml : Dml} {token : Option String} {actual : Int} :
    service.transactionBody view statement schema dml token = .ok actual ↔
      ∃ affected, TransactionPassed service view statement schema dml token affected actual := by
  simp only [transactionBody, bind_eq_ok_iff, outside_eq_ok_iff, refuseRows_eq_ok_iff,
    enforceWriteApprovalGate_eq_ok_iff, executeDml_eq_ok_iff, decide_eq_false_iff_not, not_lt,
    exists_and_left, exists_const]
  constructor
  · rintro ⟨session, affected, counted, countInCap, gate, ran, rowsInCap, commit, returned⟩
    cases returned
    exact ⟨affected, session, counted, countInCap, gate, ran, rfl, rowsInCap, commit⟩
  · rintro ⟨affected, session, counted, countInCap, gate, ran, rfl, rowsInCap, commit⟩
    exact ⟨session, affected, counted, countInCap, gate, ran, rowsInCap, commit, rfl⟩

/-- An attempt of a single write reaches its transaction: it passes validation, is
compiled and rendered, and gets a slot. -/
structure Prepared (service : WriteExecutionService) (view : AttemptView)
    (statement : WriteStatement) (schema : TableSchema) (dml : Dml) (sql : String) : Prop where
  allowed : validateWritePolicy statement service.policy service.connectionId = .ok ()
  loaded : validateWriteSchema service.loadTable statement service.connectionId = .ok schema
  compiled : service.compileOn statement schema = .ok dml
  rendered : service.render dml = .ok sql
  slot : view.transaction.slot = none

/-- The committed statement of a single attempt, as it is recorded. -/
def recorded (view : AttemptView) (statement : WriteStatement) (dml : Dml)
    (token : Option String) : CommittedWrite :=
  ⟨statement, dml, view.statement.atDml, token, view.statement.now⟩

/-- An attempt went all the way to its commit. -/
structure Reached (service : WriteExecutionService) (view : AttemptView)
    (statement : WriteStatement) (token : Option String) (schema : TableSchema) (dml : Dml)
    (sql : String) (affected actual : Int) : Prop where
  prepared : Prepared service view statement schema dml sql
  passed : TransactionPassed service view statement schema dml token affected actual

/-- An attempt commits nothing and is audited once as denied, or it went to its
commit: then it is audited as allowed, unless a failure after the commit is
reported in its place. -/
theorem execute_cases (view : AttemptView) (statement : WriteStatement) (token : Option String) :
    (∃ sql schema failure,
        service.execute view statement token = failed sql statement schema none failure) ∨
      ∃ schema dml sql affected actual,
        Reached service view statement token schema dml sql affected actual ∧
        ((view.transaction.release = none ∧
            service.execute view statement token =
              { result := .ok ⟨statement.op, schema.name, actual⟩
                trace := ⟨[auditAllowed sql statement (some schema) actual],
                  some (recorded view statement dml token)⟩ }) ∨
          ∃ cause, view.transaction.release = some cause ∧
            service.execute view statement token =
              failed sql statement (some schema) (some (recorded view statement dml token))
                (.raised cause)) := by
  unfold execute
  cases allowed : validateWritePolicy statement service.policy service.connectionId with
  | error error => exact .inl ⟨_, _, _, rfl⟩
  | ok _ =>
  cases loaded : validateWriteSchema service.loadTable statement service.connectionId with
  | error error => exact .inl ⟨_, _, _, rfl⟩
  | ok schema =>
  dsimp only
  cases compiled : service.compileOn statement schema with
  | error error => exact .inl ⟨_, _, _, rfl⟩
  | ok dml =>
  dsimp only
  cases rendered : service.render dml with
  | error cause => exact .inl ⟨_, _, _, rfl⟩
  | ok sql =>
  simp only [executeRendered, executeInTransaction]
  cases slot : view.transaction.slot with
  | some cause => exact .inl ⟨_, _, _, rfl⟩
  | none =>
  dsimp only
  cases body : service.transactionBody view statement schema dml token with
  | error failure =>
      left
      cases release : view.transaction.release with
      | none => exact ⟨sql, some schema, failure, by simp only [released, release]⟩
      | some cause => exact ⟨sql, some schema, .raised cause, by simp only [released, release]⟩
  | ok actual =>
      right
      obtain ⟨affected, passed⟩ := transactionBody_eq_ok_iff.mp body
      refine ⟨schema, dml, sql, affected, actual,
        ⟨⟨allowed, loaded, compiled, rendered, slot⟩, passed⟩, ?_⟩
      cases release : view.transaction.release with
      | none => exact .inl ⟨rfl, by simp only [released, release, recorded]⟩
      | some cause => exact .inr ⟨cause, rfl, by simp only [released, release, recorded]⟩

/-- The outcome of an attempt that got as far as its commit. -/
theorem execute_of_reached {view : AttemptView} {statement : WriteStatement}
    {token : Option String} {schema : TableSchema} {dml : Dml} {sql : String}
    {affected actual : Int}
    (reached : Reached service view statement token schema dml sql affected actual) :
    service.execute view statement token =
      match view.transaction.release with
      | none =>
          { result := .ok ⟨statement.op, schema.name, actual⟩
            trace := ⟨[auditAllowed sql statement (some schema) actual],
              some (recorded view statement dml token)⟩ }
      | some cause =>
          failed sql statement (some schema) (some (recorded view statement dml token))
            (.raised cause) := by
  obtain ⟨prepared, passed⟩ := reached
  have body := transactionBody_eq_ok_iff.mpr ⟨affected, passed⟩
  rw [execute, prepared.allowed, prepared.loaded]
  dsimp only
  rw [prepared.compiled]
  dsimp only
  rw [prepared.rendered]
  simp only [executeRendered, executeInTransaction, prepared.slot, body]
  cases release : view.transaction.release with
  | none => simp only [released, release, recorded]
  | some cause => simp only [released, release, recorded]

/-- One attempt at a statement. -/
structure Step where
  view : StatementView
  statement : WriteStatement
  token : Option String
  /-- The statement runs inside an atomic batch. -/
  atomic : Bool

/-- What a committed statement went through, in a single attempt or in an atomic
batch. Only the single path compares the rows it changed with the cap. -/
structure CommittedBy (service : WriteExecutionService) (step : Step) (write : CommittedWrite)
    (schema : TableSchema) (dialect : String) (affected : Int) : Prop where
  statement : write.statement = step.statement
  rows : write.rows = step.view.atDml
  token : write.token = step.token
  now : write.now = step.view.now
  allowed : validateWritePolicy step.statement service.policy service.connectionId = .ok ()
  loaded : validateWriteSchema service.loadTable step.statement service.connectionId = .ok schema
  compiled : compileWrite service.adapter dialect step.statement
    (service.target step.statement schema) = .ok write.dml
  counted : service.countAffected step.view step.statement schema = .ok affected
  countInCap : affected ≤ service.policy.write.maxAffectedRows
  gate : service.needsApproval affected = true →
    service.approved step.statement step.token step.view.now = true
  rowsInCap : step.atomic = false →
    service.actualRows step.view step.statement write.dml affected ≤
      service.policy.write.maxAffectedRows

/-- The write was committed by the step. -/
def Commits (service : WriteExecutionService) (step : Step) (write : CommittedWrite) : Prop :=
  ∃ schema dialect affected, CommittedBy service step write schema dialect affected

theorem Reached.commits {view : AttemptView} {statement : WriteStatement} {token : Option String}
    {schema : TableSchema} {dml : Dml} {sql : String} {affected actual : Int}
    (reached : Reached service view statement token schema dml sql affected actual) :
    Commits service ⟨view.statement, statement, token, false⟩
      (recorded view statement dml token) := by
  have compiled := reached.prepared.compiled
  rw [compileOn, bind_eq_ok_iff] at compiled
  obtain ⟨dialect, _, compiled⟩ := compiled
  have inCap := reached.passed.rowsInCap
  rw [reached.passed.rows] at inCap
  exact ⟨schema, dialect, affected, rfl, rfl, rfl, rfl, reached.prepared.allowed,
    reached.prepared.loaded, compiled, reached.passed.counted, reached.passed.countInCap,
    reached.passed.gate, fun _ => inCap⟩

/-- A single attempt commits what its one step commits. -/
theorem commits_of_execute {view : AttemptView} {statement : WriteStatement}
    {token : Option String} {write : CommittedWrite}
    (committed : (service.execute view statement token).trace.committed = some write) :
    Commits service ⟨view.statement, statement, token, false⟩ write := by
  obtain ⟨_, _, _, same⟩ | ⟨schema, dml, sql, affected, actual, reached, outcome⟩ :=
    service.execute_cases view statement token
  · rw [same] at committed
    cases committed
  · obtain ⟨_, same⟩ | ⟨cause, _, same⟩ := outcome
    · rw [same] at committed
      cases committed
      exact reached.commits
    · rw [same] at committed
      cases committed
      exact reached.commits

theorem atomicStatement_eq_ok {dialect : String} {view : StatementView}
    {statement : WriteStatement} {done : Int × CommittedWrite}
    (ran : service.atomicStatement dialect view statement = .ok done) :
    (∃ schema, CommittedBy service ⟨view, statement, none, true⟩ done.2 schema dialect done.1) ∧
      done.2.statement = statement := by
  simp only [atomicStatement, bind_eq_ok_iff, attempt_eq_ok_iff, refuseRows_eq_ok_iff,
    enforceWriteApprovalGate_eq_ok_iff, executeDml_eq_ok_iff, decide_eq_false_iff_not, not_lt,
    exists_and_left, exists_const] at ran
  obtain ⟨_, allowed, schema, loaded, affected, counted, countInCap, gate, dml, compiled, _,
    returned⟩ := ran
  cases returned
  exact ⟨⟨schema, rfl, rfl, rfl, rfl, allowed, loaded, compiled, counted, countInCap, gate,
    fun absurd => by cases absurd⟩, rfl⟩

/-- The statements of an atomic batch that went through, against what they left. -/
theorem atomicStatements_eq_ok {dialect : String} :
    ∀ {items : List (WriteStatement × StatementView)} {done : List (Int × CommittedWrite)},
      service.atomicStatements dialect items = .ok done →
      List.Forall₂ (fun item entry =>
        service.atomicStatement dialect item.2 item.1 = .ok entry) items done
  | [], done, ran => by
      cases ran
      exact .nil
  | (statement, view) :: rest, done, ran => by
      simp only [atomicStatements, bind_eq_ok_iff] at ran
      obtain ⟨here, ranHere, others, ranRest, returned⟩ := ran
      cases returned
      exact .cons ranHere (atomicStatements_eq_ok ranRest)

theorem atomicBody_eq_ok {dialect : String} {view : TransactionView}
    {items : List (WriteStatement × StatementView)} {done : List (Int × CommittedWrite)}
    (ran : service.atomicBody dialect view items = .ok done) :
    service.atomicStatements dialect items = .ok done := by
  simp only [atomicBody, bind_eq_ok_iff, outside_eq_ok_iff] at ran
  obtain ⟨_, _, all, ranAll, _, _, returned⟩ := ran
  cases returned
  exact ranAll

/-- The transaction of an atomic batch ends without a commit, with its commit, or
with its commit reported as a failure. -/
theorem executeAtomicBody_cases (dialect : String) (view : TransactionView)
    (items : List (WriteStatement × StatementView)) :
    (∃ failure, service.executeAtomicBody dialect view items =
        ⟨atomicFailure items failure, items.map fun _ => {}⟩) ∨
      ∃ done, view.slot = none ∧ service.atomicBody dialect view items = .ok done ∧
        ((view.release = none ∧ service.executeAtomicBody dialect view items =
            ⟨.ok (done.map fun entry => atomicItem entry.2.statement entry.1),
              done.map atomicTrace⟩) ∨
          ∃ cause, view.release = some cause ∧ service.executeAtomicBody dialect view items =
            ⟨atomicFailure items (.raised cause),
              done.map fun entry => ⟨[], some entry.2⟩⟩) := by
  unfold executeAtomicBody
  cases slot : view.slot with
  | some cause => exact .inl ⟨_, rfl⟩
  | none =>
  cases body : service.atomicBody dialect view items with
  | error failure =>
      cases view.release with
      | none => exact .inl ⟨_, rfl⟩
      | some cause => exact .inl ⟨_, rfl⟩
  | ok done =>
      cases release : view.release with
      | none => exact .inr ⟨done, rfl, rfl, .inl ⟨rfl, rfl⟩⟩
      | some cause => exact .inr ⟨done, rfl, rfl, .inr ⟨cause, rfl, rfl⟩⟩

/-- A call of the service. -/
inductive Call where
  | execute (view : AttemptView) (statement : WriteStatement) (token : Option String)
  | executeMany (tokens : List (String × String)) (resolver : Option ApprovalResolver)
      (items : List BatchItem)
  | executeManyAtomic (view : TransactionView) (items : List (WriteStatement × StatementView))

/-- The traces a call leaves, one a statement. -/
def Call.traces (service : WriteExecutionService) : Call → List StatementTrace
  | .execute view statement token => [(service.execute view statement token).trace]
  | .executeMany tokens resolver items => (service.executeMany tokens resolver items).traces
  | .executeManyAtomic view items => (service.executeManyAtomic view items).traces

/-- The token a batch first tries for a statement. -/
def suppliedToken (service : WriteExecutionService) (tokens : List (String × String))
    (statement : WriteStatement) : Option String :=
  dictGet tokens (service.fingerprint statement)

/-- The attempts a batch makes at one item: a second one with a resolved token. -/
def itemSteps (service : WriteExecutionService) (tokens : List (String × String))
    (resolver : Option ApprovalResolver) (item : BatchItem) : List Step :=
  let supplied := service.suppliedToken tokens item.statement
  ⟨item.view.statement, item.statement, supplied, false⟩ ::
    match resolverAnswer resolver item.statement
        (service.execute item.view item.statement supplied) with
    | .ok (some token) => [⟨item.retryView.statement, item.statement, some token, false⟩]
    | _ => []

/-- The attempts a call makes at statements. -/
def Call.steps (service : WriteExecutionService) : Call → List Step
  | .execute view statement token => [⟨view.statement, statement, token, false⟩]
  | .executeMany tokens resolver items => items.flatMap (service.itemSteps tokens resolver)
  | .executeManyAtomic _ items => items.map fun item => ⟨item.2, item.1, none, true⟩

/-- The writes a run of calls commits. -/
def committedIn (service : WriteExecutionService) (calls : List Call) : List CommittedWrite :=
  calls.flatMap fun call => (call.traces service).filterMap StatementTrace.committed

/-- A batch item commits what one of its attempts commits. -/
theorem commits_of_executeBatchItem {tokens : List (String × String)}
    {resolver : Option ApprovalResolver} {item : BatchItem} {write : CommittedWrite}
    (committed : (service.executeBatchItem tokens resolver item).2.committed = some write) :
    ∃ step ∈ service.itemSteps tokens resolver item, Commits service step write := by
  unfold itemSteps suppliedToken
  unfold executeBatchItem at committed
  cases answer : resolverAnswer resolver item.statement (service.execute item.view item.statement
      (dictGet tokens (service.fingerprint item.statement))) with
  | error cause =>
      simp only [answer] at committed
      exact ⟨_, List.mem_cons_self .., commits_of_execute committed⟩
  | ok resolved =>
      cases resolved with
      | none =>
          simp only [answer] at committed
          exact ⟨_, List.mem_cons_self .., commits_of_execute committed⟩
      | some token =>
          simp only [answer] at committed ⊢
          exact ⟨_, List.mem_cons_of_mem _ (List.mem_singleton_self _),
            commits_of_execute committed⟩

theorem commits_of_executeEach {tokens : List (String × String)}
    {resolver : Option ApprovalResolver} :
    ∀ {items : List BatchItem} {trace : StatementTrace} {write : CommittedWrite},
      trace ∈ (service.executeEach tokens resolver items).traces →
      trace.committed = some write →
      ∃ step ∈ items.flatMap (service.itemSteps tokens resolver), Commits service step write
  | [], trace, write, member, _ => by cases member
  | item :: rest, trace, write, member, committed => by
      rw [executeEach] at member
      rw [List.flatMap_cons]
      cases ran : service.executeBatchItem tokens resolver item with
      | mk result own =>
      have here : own.committed = some write →
          ∃ step ∈ service.itemSteps tokens resolver item ++
            rest.flatMap (service.itemSteps tokens resolver), Commits service step write := by
        intro ownCommitted
        rw [show own = (service.executeBatchItem tokens resolver item).2 by rw [ran]]
          at ownCommitted
        obtain ⟨step, inItem, commits⟩ := commits_of_executeBatchItem ownCommitted
        exact ⟨step, List.mem_append_left _ inItem, commits⟩
      rw [ran] at member
      cases result with
      | error failure =>
          simp only [List.mem_cons, List.mem_map] at member
          rcases member with rfl | ⟨_, _, rfl⟩
          · exact here committed
          · cases committed
      | ok result =>
          rcases List.mem_cons.mp member with rfl | later
          · exact here committed
          · obtain ⟨step, inRest, commits⟩ := commits_of_executeEach later committed
            exact ⟨step, List.mem_append_right _ inRest, commits⟩

theorem commits_of_atomicStatements {dialect : String}
    {items : List (WriteStatement × StatementView)} {done : List (Int × CommittedWrite)}
    (ran : service.atomicStatements dialect items = .ok done) {entry : Int × CommittedWrite}
    (member : entry ∈ done) :
    ∃ step ∈ items.map fun item => (⟨item.2, item.1, none, true⟩ : Step),
      Commits service step entry.2 := by
  have paired := atomicStatements_eq_ok ran
  clear ran
  induction paired with
  | nil => cases member
  | @cons item here rest others ranHere _ ih =>
      rcases List.mem_cons.mp member with rfl | later
      · obtain ⟨⟨schema, by_⟩, _⟩ := atomicStatement_eq_ok ranHere
        exact ⟨_, List.mem_cons_self .., schema, dialect, entry.1, by_⟩
      · obtain ⟨step, inRest, commits⟩ := ih later
        exact ⟨step, List.mem_cons_of_mem _ inRest, commits⟩

/-- Whatever a call commits, one of its steps committed. -/
theorem commits_of_call {call : Call} {trace : StatementTrace} {write : CommittedWrite}
    (member : trace ∈ call.traces service) (committed : trace.committed = some write) :
    ∃ step ∈ call.steps service, Commits service step write := by
  cases call with
  | execute view statement token =>
      cases List.mem_singleton.mp member
      exact ⟨_, List.mem_singleton_self _, commits_of_execute committed⟩
  | executeMany tokens resolver items =>
      simp only [Call.traces, executeMany] at member
      split at member
      · obtain ⟨_, _, rfl⟩ := List.mem_map.mp member
        cases committed
      · exact commits_of_executeEach member committed
  | executeManyAtomic view items =>
      have none_committed : ∀ trace ∈ items.map (fun _ => ({} : StatementTrace)),
          trace.committed ≠ some write := by
        intro trace inMap
        obtain ⟨_, _, rfl⟩ := List.mem_map.mp inMap
        exact fun absurd => by cases absurd
      simp only [Call.traces, executeManyAtomic] at member
      split at member
      · exact absurd committed (none_committed trace member)
      unfold executeManyAtomically at member
      split at member
      · exact absurd committed (none_committed trace member)
      rename_i dialect _
      split at member
      · exact absurd committed (none_committed trace member)
      obtain ⟨failure, same⟩ | ⟨done, _, body, outcome⟩ :=
        service.executeAtomicBody_cases dialect view items
      · rw [same] at member
        exact absurd committed (none_committed trace member)
      · have ran := atomicBody_eq_ok body
        obtain ⟨_, same⟩ | ⟨cause, _, same⟩ := outcome
        · rw [same] at member
          obtain ⟨entry, inDone, rfl⟩ := List.mem_map.mp member
          cases committed
          exact commits_of_atomicStatements ran inDone
        · rw [same] at member
          obtain ⟨entry, inDone, rfl⟩ := List.mem_map.mp member
          cases committed
          exact commits_of_atomicStatements ran inDone

/-- Whatever a run commits, some step of it committed. -/
theorem commits_of_run {calls : List Call} {write : CommittedWrite}
    (member : write ∈ service.committedIn calls) :
    ∃ call ∈ calls, ∃ step ∈ call.steps service, Commits service step write := by
  obtain ⟨call, inRun, inCall⟩ := List.mem_flatMap.mp member
  obtain ⟨trace, inTraces, committed⟩ := List.mem_filterMap.mp inCall
  exact ⟨call, inRun, commits_of_call inTraces committed⟩

end WriteExecutionService

end QueryGate
