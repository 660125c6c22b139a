import QueryGate.Execution.WriteRuns

/-! # The cap and the approval threshold under interleaving

A write is counted, gated, run and sometimes recounted in separate steps, and
other transactions may change the matching rows in between. The single path
compares the rows it changed with the cap, if the driver reports them, and never
with the approval threshold; an atomic batch compares them with neither. The
limits hold in every run in which no limit is crossed between a count and its
statement without a later check.
-/

namespace QueryGate

open Foundation

namespace WriteExecutionService

variable {service : WriteExecutionService}

/-- The rows a condition selects. -/
def matching (service : WriteExecutionService) (condition : SqlCondition) (rows : List DbRow) :
    List DbRow :=
  rows.filter (service.engine.selects condition)

/-- The compiled filter of an update or a delete on the reflected target. -/
def CompiledFilter (service : WriteExecutionService) (statement : WriteStatement)
    (condition : SqlCondition) : Prop :=
  ∃ where_ schema, statement.where? = some where_ ∧
    validateWriteSchema service.loadTable statement service.connectionId = .ok schema ∧
    compileWriteWhere service.adapter statement.table (service.target statement schema) where_ =
      .ok condition

/-- The rows counted for an update or a delete, and the rows it changed, are those
its compiled filter selects in the two views. -/
theorem CommittedBy.rows_eq {step : Step} {write : CommittedWrite} {schema : TableSchema}
    {dialect : String} {affected : Int} {where_ : WriteWhereNode}
    (committed : CommittedBy service step write schema dialect affected)
    (filter : step.statement.where? = some where_) :
    ∃ condition, service.CompiledFilter step.statement condition ∧
      affected = (service.matching condition step.view.atCount).length ∧
      write.changed service.engine = service.matching condition step.view.atDml := by
  obtain ⟨condition, carried, compiled⟩ := compileWrite_where committed.compiled filter
  have counted := committed.counted
  have known : service.CompiledFilter step.statement condition :=
    ⟨where_, schema, filter, committed.loaded, compiled⟩
  have changes : write.changed service.engine = service.matching condition step.view.atDml := by
    rw [CommittedWrite.changed, committed.rows]
    cases dml : write.dml with
    | insert table rows =>
        rw [dml] at carried
        cases carried
    | update table where_ values =>
        rw [dml] at carried
        cases carried
        rfl
    | delete table where_ =>
        rw [dml] at carried
        cases carried
        rfl
    | upsert table rows indexElements updateColumns =>
        rw [dml] at carried
        cases carried
  refine ⟨condition, known, ?_, changes⟩
  cases statement : step.statement with
  | insert insert =>
      rw [statement] at filter
      cases filter
  | upsert upsert =>
      rw [statement] at filter
      cases filter
  | update update =>
      rw [statement] at filter counted compiled
      cases filter
      simp only [countAffected, countRows, bind_eq_ok_iff, attempt_eq_ok_iff] at counted
      obtain ⟨_, _, found, compiledCount, _, _, returned⟩ := counted
      cases returned
      rw [compiledCount] at compiled
      cases compiled
      rfl
  | delete delete =>
      rw [statement] at filter counted compiled
      cases filter
      simp only [countAffected, countRows, bind_eq_ok_iff, attempt_eq_ok_iff] at counted
      obtain ⟨_, _, found, compiledCount, _, _, returned⟩ := counted
      cases returned
      rw [compiledCount] at compiled
      cases compiled
      rfl

/-- Between the count and the statement no limit is crossed that nothing checks
later: the approval threshold, unless a valid token came with the statement, and
the cap where the rows changed are not compared with it. -/
structure LimitsKept (service : WriteExecutionService) (step : Step) : Prop where
  cap : ∀ condition, service.CompiledFilter step.statement condition →
    step.atomic = true ∨ step.view.reportsRowcount = false →
    ((service.matching condition step.view.atCount).length : Int) ≤
      service.policy.write.maxAffectedRows →
    ((service.matching condition step.view.atDml).length : Int) ≤
      service.policy.write.maxAffectedRows
  approval : ∀ condition threshold, service.CompiledFilter step.statement condition →
    service.policy.write.requireApprovalOverRows = some threshold →
    ((service.matching condition step.view.atCount).length : Int) ≤ threshold →
    threshold < ((service.matching condition step.view.atDml).length : Int) →
    service.approved step.statement step.token step.view.now = true

/-- A committed update or delete is inside the cap, and beyond the approval
threshold only with a token valid for it, this connection and this principal. -/
structure WithinLimits (service : WriteExecutionService) (write : CommittedWrite) : Prop where
  cap : ((write.changed service.engine).length : Int) ≤ service.policy.write.maxAffectedRows
  approval : ∀ threshold, service.policy.write.requireApprovalOverRows = some threshold →
    threshold < ((write.changed service.engine).length : Int) →
    ∃ token, write.token = some token ∧ service.tokenValid write.statement token write.now = true

theorem tokenValid_of_approved {statement : WriteStatement} {token : Option String} {now : Int}
    (approved : service.approved statement token now = true) :
    ∃ text, token = some text ∧ service.tokenValid statement text now = true := by
  unfold WriteExecutionService.approved at approved
  cases token with
  | none => cases approved
  | some text =>
      simp only [Option.any_some, Bool.and_eq_true] at approved
      exact ⟨text, rfl, approved.2⟩

/-- A step that crosses no unchecked limit commits within the limits. -/
theorem withinLimits_of_commits {step : Step} {write : CommittedWrite} {where_ : WriteWhereNode}
    (kept : LimitsKept service step) (commits : Commits service step write)
    (filter : write.statement.where? = some where_) : WithinLimits service write := by
  obtain ⟨schema, dialect, affected, committed⟩ := commits
  rw [committed.statement] at filter
  obtain ⟨condition, compiled, counted, changed⟩ := committed.rows_eq filter
  constructor
  · rw [changed]
    have inCap := committed.countInCap
    rw [counted] at inCap
    by_cases unchecked : step.atomic = true ∨ step.view.reportsRowcount = false
    · exact kept.cap condition compiled unchecked inCap
    · rw [not_or, Bool.not_eq_true, Bool.not_eq_false] at unchecked
      have recounted := committed.rowsInCap unchecked.1
      have noRows : step.statement.rows? = none := by
        cases statement : step.statement with
        | insert insert =>
            rw [statement] at filter
            cases filter
        | upsert upsert =>
            rw [statement] at filter
            cases filter
        | update update => rfl
        | delete delete => rfl
      rw [actualRows, noRows] at recounted
      simp only [unchecked.2, ↓reduceIte] at recounted
      rw [← changed, CommittedWrite.changed, committed.rows]
      exact recounted
  · intro threshold required above
    rw [committed.statement, committed.token, committed.now]
    apply tokenValid_of_approved
    rw [changed] at above
    by_cases below : ((service.matching condition step.view.atCount).length : Int) ≤ threshold
    · exact kept.approval condition threshold compiled required below above
    · apply committed.gate
      rw [needsApproval, required, counted]
      simpa using below

/-- Either every statement of an atomic batch is committed, or none is and every
item reports an error. -/
def AllOrNothing (outcome : BatchOutcome) (count : Nat) : Prop :=
  (outcome.traces.length = count ∧ ∀ trace ∈ outcome.traces, trace.committed.isSome = true) ∨
    ((∀ trace ∈ outcome.traces, trace.committed = none) ∧
      ∃ results, outcome.result = .ok results ∧ results.length = count ∧
        ∀ result ∈ results, result.error.isSome = true)

/-- An atomic batch gets past the checks made before its first statement. -/
structure AtomicAdmitted (service : WriteExecutionService)
    (items : List (WriteStatement × StatementView)) : Prop where
  size : validateWriteBatchSize items.length service.policy = .ok ()
  dialect : ∃ dialect, service.dialect = .ok dialect
  policy : ∀ item ∈ items,
    validateWritePolicy item.1 service.policy service.connectionId = .ok ()

/-- The item results of a failed atomic batch are errors. -/
theorem atomicFailure_errors (items : List (WriteStatement × StatementView))
    (failure : WriteFailure) :
    ∃ results, atomicFailure items failure = .ok results ∧ results.length = items.length ∧
      ∀ result ∈ results, result.error.isSome = true := by
  refine ⟨_, rfl, List.length_map _, fun result member => ?_⟩
  obtain ⟨item, _, rfl⟩ := List.mem_map.mp member
  rfl

theorem allOrNothing_executeAtomicBody (dialect : String) (view : TransactionView)
    (items : List (WriteStatement × StatementView)) :
    AllOrNothing (service.executeAtomicBody dialect view items) items.length := by
  obtain ⟨failure, same⟩ | ⟨done, _, body, outcome⟩ :=
    service.executeAtomicBody_cases dialect view items
  · right
    rw [same]
    refine ⟨fun trace member => ?_, atomicFailure_errors items failure⟩
    obtain ⟨_, _, rfl⟩ := List.mem_map.mp member
    rfl
  · left
    have length := (atomicStatements_eq_ok (atomicBody_eq_ok body)).length_eq
    obtain ⟨_, same⟩ | ⟨cause, _, same⟩ := outcome
    · rw [same]
      refine ⟨by rw [List.length_map, length], fun trace member => ?_⟩
      obtain ⟨entry, _, rfl⟩ := List.mem_map.mp member
      rfl
    · rw [same]
      refine ⟨by rw [List.length_map, length], fun trace member => ?_⟩
      obtain ⟨entry, _, rfl⟩ := List.mem_map.mp member
      rfl

theorem allOrNothing_of_admitted {view : TransactionView}
    {items : List (WriteStatement × StatementView)} (admitted : AtomicAdmitted service items) :
    AllOrNothing (service.executeManyAtomic view items) items.length := by
  obtain ⟨dialect, known⟩ := admitted.dialect
  have checked : checkAll (fun item : WriteStatement × StatementView =>
      validateWritePolicy item.1 service.policy service.connectionId) items = .ok () :=
    checkAll_eq_ok_iff.mpr admitted.policy
  rw [executeManyAtomic, admitted.size, executeManyAtomically, known, checked]
  exact allOrNothing_executeAtomicBody dialect view items

/-- The limits hold of everything a run commits, and each of its atomic batches is
all or nothing. -/
structure RunWithinLimits (service : WriteExecutionService) (calls : List Call) : Prop where
  committed : ∀ write ∈ service.committedIn calls, write.statement.where?.isSome = true →
    WithinLimits service write
  atomic : ∀ view items, Call.executeManyAtomic view items ∈ calls →
    AllOrNothing (service.executeManyAtomic view items) items.length

/-- In a run whose steps cross no unchecked limit, and whose atomic batches are
admitted, the limits hold. -/
theorem runWithinLimits_of_limitsKept {calls : List Call}
    (kept : ∀ call ∈ calls, ∀ step ∈ call.steps service, LimitsKept service step)
    (admitted : ∀ view items, Call.executeManyAtomic view items ∈ calls →
      AtomicAdmitted service items) :
    RunWithinLimits service calls := by
  constructor
  · intro write member filtered
    obtain ⟨call, inRun, step, inCall, commits⟩ := commits_of_run member
    obtain ⟨where_, filter⟩ := Option.isSome_iff_exists.mp filtered
    exact withinLimits_of_commits (kept call inRun step inCall) commits filter
  · intro view items member
    exact allOrNothing_of_admitted (admitted view items member)

end WriteExecutionService

/-- The truth of `column = value` on a row. -/
def equalsColumn (column : String) (value : Value) (row : DbRow) : Truth :=
  match dictGet row column with
  | some held => if value.sameScalar held then .holds else .fails
  | none => .unknown

/-- The value of `Table.Column = value` on a row. -/
def equalsOn (pred : Predicate) (row : DbRow) : Truth :=
  match pred.col.map parseColumnRef with
  | some (.ok (_, column)) => equalsColumn column pred.value row
  | _ => .unknown

/-- An engine for equalities between columns and scalars. -/
def equalityEngine : Engine where
  test
    | .test pred _ _, row => equalsOn pred row
    | .rowFilter _ column value, row => equalsColumn column value row
    | _, _ => .unknown
  collides columns new row := columns.all fun column =>
    match dictGet new column, dictGet row column with
    | some (.plain value), some held => value.sameScalar held
    | _, _ => false

/-- The reflected schema of `Orders`. -/
def ordersSchema : TableSchema :=
  { name := "Orders", columns := [{ name := "id" }, { name := "state" }], primaryKey := ["id"] }

/-- The service of a principal who may change orders: at most two rows at a time,
and more than one only when approved. -/
def ordersService : WriteExecutionService where
  connectionId := "main"
  policy := { write := {
    enabled := true
    allowedTables := ["Orders"]
    allowedOperations := [.update, .delete]
    maxAffectedRows := 2
    requireApprovalOverRows := some 1 } }
  adapter _ _ := .ok ()
  loadTable _ _ _ := .ok ordersSchema
  render _ := .ok "DELETE FROM Orders WHERE Orders.state = :state_1"
  fingerprint _ := "5e1f"
  openToken _ := none
  engine := equalityEngine

/-- `DELETE FROM Orders WHERE Orders.state = 'open'`. -/
def deleteOpenOrders : WriteStatement :=
  .delete ⟨"Orders", .predicate { col := some "Orders.state", op := .eq, value := .str "open" }⟩

/-- An open order. -/
def openOrder (id : Int) : DbRow :=
  [("id", .int id), ("state", .str "open")]

/-- A view in which orders are opened between the count and the statement. -/
def openedBetween (before after : List Int) : StatementView where
  atCount := before.map openOrder
  atDml := after.map openOrder

/-- One open order is counted and two are deleted, without an approval; inside an
atomic batch three are, over the cap. -/
theorem runWithinLimits_fails_on_lateRows :
    ¬ WriteExecutionService.RunWithinLimits ordersService
        [.execute { statement := openedBetween [1] [1, 2] } deleteOpenOrders none] ∧
      ¬ WriteExecutionService.RunWithinLimits ordersService
        [.executeManyAtomic {} [(deleteOpenOrders, openedBetween [1] [1, 2, 3])]] := by
  constructor
  · intro within
    have committed := within.committed _ (List.mem_cons_self ..) rfl
    obtain ⟨token, supplied, _⟩ := committed.approval 1 rfl (by decide +kernel)
    cases supplied
  · intro within
    have committed := within.committed _ (List.mem_cons_self ..) rfl
    exact absurd committed.cap (by decide +kernel)

/-- With the same orders in both views the limits hold. -/
theorem runWithinLimits_of_stillRows :
    WriteExecutionService.RunWithinLimits ordersService
      [.execute { statement := openedBetween [1] [1] } deleteOpenOrders none] := by
  apply WriteExecutionService.runWithinLimits_of_limitsKept
  · intro call inRun step inCall
    cases List.mem_singleton.mp inRun
    cases List.mem_singleton.mp inCall
    refine ⟨fun condition _ _ counted => counted, fun condition threshold _ _ below above => ?_⟩
    exact absurd above (not_lt.mpr below)
  · intro view items member
    cases List.mem_singleton.mp member

end QueryGate
