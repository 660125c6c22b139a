import QueryGate.Execution.WriteDiff

/-! # Mandatory row filters and writes

Neither the compiled statement nor the count nor the diff of a write takes a
mandatory row filter into account: the rows a write changes, removes or lists are
those its own filter selects, or those an upserted row collides with. The row
filters of the target bind a write, in every state of the database, exactly when
the write's own target rows lie within them.
-/

namespace QueryGate

open Foundation

namespace WriteExecutionService

variable {service : WriteExecutionService}

/-- The row satisfies a mandatory row filter as it is resolved for the principal. -/
def RowWithin (service : WriteExecutionService) (target : FromObj)
    (rowFilter : MandatoryRowFilter) (row : DbRow) : Prop :=
  ∃ value, rowFilter.resolve service.principal = .ok value ∧
    service.engine.test (.rowFilter target rowFilter.column value) row = .holds

/-- The row satisfies every mandatory row filter on the statement's table. -/
def FiltersBind (service : WriteExecutionService) (statement : WriteStatement)
    (schema : TableSchema) (row : DbRow) : Prop :=
  ∀ rowFilter ∈ service.policy.mandatoryRowFilters,
    casefold rowFilter.table = casefold statement.table →
    RowWithin service (service.target statement schema) rowFilter row

/-- The stored row is listed in the diff of a preview. -/
def ListedBefore (service : WriteExecutionService) (view : PreviewView)
    (statement : WriteStatement) (schema : TableSchema) (row : DbRow) : Prop :=
  ∃ entry ∈ service.listedRows view statement schema, entry.before = some (storedRow row)

/-- Whatever the database holds, the stored rows an attempt at the statement changes
or removes, and those a preview lists, satisfy the row filters on its table. -/
structure RowFiltersBind (service : WriteExecutionService) (statement : WriteStatement)
    (token : Option String) : Prop where
  committed : ∀ {view : AttemptView} {write : CommittedWrite} {schema : TableSchema},
    (service.execute view statement token).trace.committed = some write →
    validateWriteSchema service.loadTable statement service.connectionId = .ok schema →
    ∀ row ∈ write.changed service.engine, FiltersBind service statement schema row
  listed : ∀ {view : PreviewView} {result : WritePreview} {diff : WriteDiff}
    {schema : TableSchema}, service.preview view statement true = .ok result →
    result.diff = some diff →
    validateWriteSchema service.loadTable statement service.connectionId = .ok schema →
    ∀ row, ListedBefore service view statement schema row →
      FiltersBind service statement schema row

/-- The statement passes validation and is compiled and rendered. -/
structure Admitted (service : WriteExecutionService) (statement : WriteStatement)
    (schema : TableSchema) (dml : Dml) (sql : String) : Prop where
  allowed : validateWritePolicy statement service.policy service.connectionId = .ok ()
  loaded : validateWriteSchema service.loadTable statement service.connectionId = .ok schema
  compiled : service.compileOn statement schema = .ok dml
  rendered : service.render dml = .ok sql

/-- An upsert is within the cap, and approved at some time if it has to be. -/
def CanCommitRows (service : WriteExecutionService) (statement : WriteStatement)
    (token : Option String) : Prop :=
  ∀ rows, statement.rows? = some rows →
    (rows.length : Int) ≤ service.policy.write.maxAffectedRows ∧
      ∃ now, service.needsApproval rows.length = true →
        service.approved statement token now = true

/-- Every row the statement's own filter selects, or that an upserted row collides
with, satisfies the row filters on its table. -/
def TargetsWithin (service : WriteExecutionService) (statement : WriteStatement)
    (token : Option String) : Prop :=
  ∀ schema dml sql, Admitted service statement schema dml sql →
    CanCommitRows service statement token →
    ∀ row ∈ dml.changes service.engine [row], FiltersBind service statement schema row

theorem mem_changes_iff {dml : Dml} {rows : List DbRow} {row : DbRow} :
    row ∈ dml.changes service.engine rows ↔
      row ∈ rows ∧ row ∈ dml.changes service.engine [row] := by
  cases dml with
  | insert table new => simp [Dml.changes]
  | update table where_ values => simp [Dml.changes, List.mem_filter]
  | delete table where_ => simp [Dml.changes, List.mem_filter]
  | upsert table new indexElements updateColumns => simp [Dml.changes, List.mem_filter]

/-- A row the compiled filter selects is a target of the statement, and the other way
round. -/
theorem mem_changes_of_where {statement : WriteStatement} {schema : TableSchema} {dml : Dml}
    {where_ : WriteWhereNode} (compiled : service.compileOn statement schema = .ok dml)
    (filter : statement.where? = some where_) :
    ∃ condition, compileWriteWhere service.adapter statement.table
        (service.target statement schema) where_ = .ok condition ∧
      ∀ row, row ∈ dml.changes service.engine [row] ↔
        service.engine.selects condition row = true := by
  rw [compileOn, bind_eq_ok_iff] at compiled
  obtain ⟨dialect, _, compiled⟩ := compiled
  obtain ⟨condition, carried, compiledWhere⟩ := compileWrite_where compiled filter
  refine ⟨condition, compiledWhere, fun row => ?_⟩
  cases dml with
  | insert table new => cases carried
  | upsert table new indexElements updateColumns => cases carried
  | update table where_ values =>
      cases carried
      simp [Dml.changes, List.mem_filter]
  | delete table where_ =>
      cases carried
      simp [Dml.changes, List.mem_filter]

theorem storedRow_injective {first second : DbRow} (same : storedRow first = storedRow second) :
    first = second := by
  have injective : Function.Injective fun entry : String × Value =>
      (entry.1, ShownValue.stored entry.2) := by
    rintro ⟨name, value⟩ ⟨other, held⟩ same
    cases same
    rfl
  exact List.map_injective_iff.mpr injective same

/-- The rows a diff of an update or a delete lists were selected by its filter. -/
theorem selects_of_listedBefore {view : PreviewView} {statement : WriteStatement}
    {schema : TableSchema} {row : DbRow} (listed : ListedBefore service view statement schema row) :
    ∃ where_ condition, statement.where? = some where_ ∧
      compileWriteWhere service.adapter statement.table (service.target statement schema) where_ =
        .ok condition ∧ service.engine.selects condition row = true := by
  have selected : ∀ {condition : SqlCondition}, row ∈ service.beforeRows view condition →
      service.engine.selects condition row = true := by
    intro condition member
    exact (List.mem_filter.mp (List.mem_of_mem_take (List.mem_of_mem_take member))).2
  have mutation : ∀ {condition : SqlCondition} {entry : RowDiff},
      entry ∈ service.listedMutation view statement schema condition →
      entry.before = some (storedRow row) → service.engine.selects condition row = true := by
    intro condition entry member before
    have removed : ∀ {make : DbRow → RowDiff}, (∀ row, (make row).before = some (storedRow row)) →
        entry ∈ (service.beforeRows view condition).map make →
        service.engine.selects condition row = true := by
      intro make made member
      obtain ⟨stored, inRows, rfl⟩ := List.mem_map.mp member
      rw [made, Option.some.injEq] at before
      rw [← storedRow_injective before]
      exact (List.mem_filter.mp (List.mem_of_mem_take (List.mem_of_mem_take inRows))).2
    unfold listedMutation at member
    cases statement with
    | insert insert => exact removed (fun _ => rfl) member
    | upsert upsert => exact removed (fun _ => rfl) member
    | delete delete => exact removed (fun _ => rfl) member
    | update update =>
        simp only [listedUpdate] at member
        split at member
        · exact removed (fun _ => rfl) member
        · exact removed (fun _ => rfl) member
  obtain ⟨entry, member, before⟩ := listed
  unfold listedRows at member
  cases statement with
  | insert insert =>
      obtain ⟨_, _, rfl⟩ := List.mem_map.mp member
      cases before
  | upsert upsert => cases member
  | update update =>
      dsimp only at member
      split at member
      · rename_i condition compiled
        exact ⟨_, condition, rfl, compiled, mutation member before⟩
      · cases member
  | delete delete =>
      dsimp only at member
      split at member
      · rename_i condition compiled
        exact ⟨_, condition, rfl, compiled, mutation member before⟩
      · cases member

theorem Admitted.of_preview {view : PreviewView} {statement : WriteStatement}
    {includeDiff : Bool} {result : WritePreview}
    (previewed : service.preview view statement includeDiff = .ok result) :
    ∃ schema dml sql, Admitted service statement schema dml sql := by
  simp only [preview, bind_eq_ok_iff, attempt_eq_ok_iff] at previewed
  obtain ⟨_, allowed, schema, loaded, dml, compiled, sql, rendered, _⟩ := previewed
  refine ⟨schema, dml, sql, allowed, loaded, compiled, ?_⟩
  unfold renderAttempt at rendered
  cases render : service.render dml with
  | error cause =>
      rw [render] at rendered
      cases rendered
  | ok text =>
      rw [render] at rendered
      cases rendered
      rfl

/-- Within its own targets a statement is bound by the row filters. -/
theorem rowFiltersBind_of_targetsWithin {statement : WriteStatement} {token : Option String}
    (within : TargetsWithin service statement token) :
    RowFiltersBind service statement token := by
  constructor
  · intro view write schema committed loaded row member
    obtain ⟨_, _, _, same⟩ | ⟨found, dml, sql, affected, actual, reached, outcome⟩ :=
      service.execute_cases view statement token
    · rw [same] at committed
      cases committed
    · have record : write = recorded view statement dml token := by
        obtain ⟨_, same⟩ | ⟨cause, _, same⟩ := outcome
        · rw [same] at committed
          cases committed
          rfl
        · rw [same] at committed
          cases committed
          rfl
      have alsoLoaded := reached.prepared.loaded
      rw [loaded] at alsoLoaded
      cases alsoLoaded
      rw [record] at member
      refine within schema dml sql ⟨reached.prepared.allowed, reached.prepared.loaded,
        reached.prepared.compiled, reached.prepared.rendered⟩ ?_ row (mem_changes_iff.mp member).2
      intro rows brought
      have counted : affected = (rows.length : Int) := by
        have counts := reached.passed.counted
        cases statement with
        | insert insert =>
            cases brought
            cases counts
            rfl
        | upsert upsert =>
            cases brought
            cases counts
            rfl
        | update update => cases brought
        | delete delete => cases brought
      rw [← counted]
      exact ⟨reached.passed.countInCap, view.statement.now, reached.passed.gate⟩
  · intro view result diff schema previewed _ loaded row listed
    obtain ⟨where_, condition, filter, compiled, selected⟩ := selects_of_listedBefore listed
    obtain ⟨found, dml, sql, admitted⟩ := Admitted.of_preview previewed
    have alsoLoaded := admitted.loaded
    rw [loaded] at alsoLoaded
    cases alsoLoaded
    obtain ⟨other, compiledOther, targets⟩ := mem_changes_of_where admitted.compiled filter
    rw [compiled] at compiledOther
    cases compiledOther
    refine within schema dml sql admitted ?_ row ((targets row).mpr selected)
    intro rows brought
    cases statement with
    | insert insert => cases filter
    | upsert upsert => cases filter
    | update update => cases brought
    | delete delete => cases brought

/-- A preview that meets one row. -/
def oneRow (row : DbRow) : PreviewView where
  atCount := [row]
  atDiff := [row]

theorem mutationRows_total {view : PreviewView} {statement : WriteStatement}
    {schema : TableSchema} {before : List DbRow} {withinCap : Bool}
    (quiet : view.dmlFailure = none) :
    ∃ rows, service.mutationRows view statement schema before withinCap = .ok rows := by
  unfold mutationRows
  cases statement with
  | insert insert => exact ⟨_, rfl⟩
  | upsert upsert => exact ⟨_, rfl⟩
  | delete delete => exact ⟨_, rfl⟩
  | update update =>
      simp only [updatedRows]
      split
      · rw [quiet]
        exact ⟨_, rfl⟩
      · exact ⟨_, rfl⟩

/-- A preview that meets one row its filter selects has a diff, and lists it. -/
theorem preview_oneRow {statement : WriteStatement} {schema : TableSchema} {dml : Dml}
    {sql : String} {where_ : WriteWhereNode} {condition : SqlCondition} {row : DbRow}
    (admitted : Admitted service statement schema dml sql)
    (filter : statement.where? = some where_)
    (compiled : compileWriteWhere service.adapter statement.table
      (service.target statement schema) where_ = .ok condition) :
    ∃ result diff, service.preview (oneRow row) statement true = .ok result ∧
      result.diff = some diff := by
  have mutation : ∃ effect diff,
      service.previewMutation (oneRow row) statement schema where_ true = .ok effect ∧
        effect.2 = some diff := by
    obtain ⟨rows, listed⟩ := @mutationRows_total service (oneRow row) statement schema
      (service.beforeRows (oneRow row) condition)
      (decide (((((oneRow row).atCount.filter (service.engine.selects condition)).length : Nat) :
        Int) ≤ service.policy.write.maxAffectedRows)) rfl
    have made : ∃ diff, service.mutationDiff (oneRow row) statement schema condition
        (decide (((((oneRow row).atCount.filter (service.engine.selects condition)).length :
          Nat) : Int) ≤ service.policy.write.maxAffectedRows)) = .ok diff :=
      ⟨_, bind_eq_ok_iff.mpr ⟨(), outside_eq_ok_iff.mpr rfl,
        bind_eq_ok_iff.mpr ⟨rows, listed, rfl⟩⟩⟩
    obtain ⟨diff, made⟩ := made
    refine ⟨_, _, bind_eq_ok_iff.mpr ⟨condition, attempt_eq_ok_iff.mpr compiled,
      bind_eq_ok_iff.mpr ⟨(), outside_eq_ok_iff.mpr rfl, bind_eq_ok_iff.mpr ⟨(),
        outside_eq_ok_iff.mpr rfl, bind_eq_ok_iff.mpr ⟨some diff, ?_, bind_eq_ok_iff.mpr ⟨(),
          outside_eq_ok_iff.mpr rfl, rfl⟩⟩⟩⟩⟩, rfl⟩
    rw [requestedDiff, if_pos rfl, made]
    rfl
  have effected : ∃ effect diff, service.previewEffect (oneRow row) statement schema true =
      .ok effect ∧ effect.2 = some diff := by
    cases statement with
    | insert insert => cases filter
    | upsert upsert => cases filter
    | update update =>
        cases filter
        exact mutation
    | delete delete =>
        cases filter
        exact mutation
  obtain ⟨effect, diff, done, shown⟩ := effected
  have rendered : service.renderAttempt dml = .ok sql := by
    rw [renderAttempt, admitted.rendered]
    rfl
  exact ⟨_, diff, bind_eq_ok_iff.mpr ⟨(), attempt_eq_ok_iff.mpr admitted.allowed,
    bind_eq_ok_iff.mpr ⟨schema, attempt_eq_ok_iff.mpr admitted.loaded,
      bind_eq_ok_iff.mpr ⟨dml, attempt_eq_ok_iff.mpr admitted.compiled,
        bind_eq_ok_iff.mpr ⟨sql, rendered, bind_eq_ok_iff.mpr ⟨effect, done, rfl⟩⟩⟩⟩⟩, shown⟩

/-- The one row a preview meets is listed, when its filter selects it. -/
theorem listedBefore_oneRow {statement : WriteStatement} {schema : TableSchema}
    {where_ : WriteWhereNode} {condition : SqlCondition} {row : DbRow}
    (bounded : 1 ≤ service.policy.write.maxDiffRows) (filter : statement.where? = some where_)
    (compiled : compileWriteWhere service.adapter statement.table
      (service.target statement schema) where_ = .ok condition)
    (selected : service.engine.selects condition row = true) :
    ListedBefore service (oneRow row) statement schema row := by
  have before : service.beforeRows (oneRow row) condition = [row] := by
    obtain ⟨limit, positive⟩ : ∃ limit, service.diffLimit = limit + 1 :=
      ⟨service.diffLimit - 1, by unfold diffLimit; omega⟩
    simp only [beforeRows, fetchedRows, oneRow, List.filter_cons, selected, ↓reduceIte,
      List.filter_nil, positive, List.take_succ_cons, List.take_nil]
  have mutation : ∃ entry ∈ service.listedMutation (oneRow row) statement schema condition,
      entry.before = some (storedRow row) := by
    unfold listedMutation
    rw [before]
    cases statement with
    | insert insert => exact ⟨_, List.mem_singleton_self _, rfl⟩
    | upsert upsert => exact ⟨_, List.mem_singleton_self _, rfl⟩
    | delete delete => exact ⟨_, List.mem_singleton_self _, rfl⟩
    | update update =>
        simp only [listedUpdate]
        split
        · exact ⟨_, List.mem_singleton_self _, rfl⟩
        · exact ⟨_, List.mem_singleton_self _, rfl⟩
  obtain ⟨entry, member, shown⟩ := mutation
  refine ⟨entry, ?_, shown⟩
  cases statement with
  | insert insert => cases filter
  | upsert upsert => cases filter
  | update update =>
      cases filter
      simp only [listedRows]
      rw [show compileWriteWhere service.adapter update.table _ update.where_ = .ok condition
        from compiled]
      exact member
  | delete delete =>
      cases filter
      simp only [listedRows]
      rw [show compileWriteWhere service.adapter delete.table _ delete.where_ = .ok condition
        from compiled]
      exact member

/-- An attempt at an upsert that meets one row. -/
def upsertView (row : DbRow) (now : Int) : AttemptView where
  statement := { atCount := [], atDml := [row], now := now }

/-- An upsert within the cap and approved commits. -/
theorem reached_upsert {upsert : UpsertStatement} {token : Option String} {schema : TableSchema}
    {dml : Dml} {sql : String} {row : DbRow} {now : Int}
    (admitted : Admitted service (.upsert upsert) schema dml sql)
    (inCap : (upsert.rows.length : Int) ≤ service.policy.write.maxAffectedRows)
    (gate : service.needsApproval upsert.rows.length = true →
      service.approved (.upsert upsert) token now = true) :
    Reached service (upsertView row now) (.upsert upsert) token schema dml sql
      upsert.rows.length upsert.rows.length :=
  ⟨⟨admitted.allowed, admitted.loaded, admitted.compiled, admitted.rendered, rfl⟩,
    ⟨rfl, rfl, inCap, gate, rfl, rfl, inCap, rfl⟩⟩

/-- Bound by the row filters in every state of the database, a statement keeps within
its own targets. -/
theorem targetsWithin_of_rowFiltersBind {statement : WriteStatement} {token : Option String}
    (bounded : 1 ≤ service.policy.write.maxDiffRows)
    (binds : RowFiltersBind service statement token) : TargetsWithin service statement token := by
  have filtered : ∀ {where_ : WriteWhereNode} {schema : TableSchema} {dml : Dml} {sql : String},
      statement.where? = some where_ → Admitted service statement schema dml sql →
      ∀ row ∈ dml.changes service.engine [row], FiltersBind service statement schema row := by
    intro where_ schema dml sql filter admitted row member
    obtain ⟨condition, compiled, targets⟩ := mem_changes_of_where admitted.compiled filter
    have selected := (targets row).mp member
    obtain ⟨result, diff, previewed, shown⟩ :=
      @preview_oneRow service statement schema dml sql where_ condition row admitted filter compiled
    exact binds.listed previewed shown admitted.loaded row
      (listedBefore_oneRow bounded filter compiled selected)
  intro schema dml sql admitted commits row member
  cases statement with
  | update update => exact filtered rfl admitted row member
  | delete delete => exact filtered rfl admitted row member
  | insert insert =>
      have compiled := admitted.compiled
      rw [compileOn, bind_eq_ok_iff] at compiled
      obtain ⟨dialect, _, compiled⟩ := compiled
      cases compiled
      cases member
  | upsert upsert =>
      obtain ⟨inCap, now, gate⟩ := commits upsert.rows rfl
      have reached : Reached service (upsertView row now) (.upsert upsert) token schema dml sql
          upsert.rows.length upsert.rows.length := reached_upsert admitted inCap gate
      have outcome := execute_of_reached reached
      have committed : (service.execute (upsertView row now) (.upsert upsert) token).trace.committed =
          some (recorded (upsertView row now) (.upsert upsert) dml token) := by
        rw [outcome]
        rfl
      exact binds.committed committed admitted.loaded row member

/-- The mandatory row filters of its table bind a write, in every state of the
database, exactly when every row the write's own filter selects, or an upserted row
collides with, lies within them. -/
theorem rowFiltersBind_iff {statement : WriteStatement} {token : Option String}
    (bounded : 1 ≤ service.policy.write.maxDiffRows) :
    RowFiltersBind service statement token ↔ TargetsWithin service statement token :=
  ⟨targetsWithin_of_rowFiltersBind bounded, rowFiltersBind_of_targetsWithin⟩

end WriteExecutionService

/-- The orders service of a principal who sees open orders only. -/
def openOnlyService : WriteExecutionService :=
  { ordersService with
    policy := { ordersService.policy with
      mandatoryRowFilters := [{ table := "Orders", column := "state", value := .str "open" }] } }

/-- A closed order. -/
def closedOrder (id : Int) : DbRow :=
  [("id", .int id), ("state", .str "closed")]

/-- A view in which the first order is closed throughout. -/
def firstOrderClosed : StatementView where
  atCount := [closedOrder 1]
  atDml := [closedOrder 1]

/-- A delete by id removes a closed order of a principal who sees open orders only. -/
theorem rowFiltersBind_fails_on_closedOrder :
    ¬ WriteExecutionService.RowFiltersBind openOnlyService deleteFirstOrder none := by
  intro binds
  have bound := @WriteExecutionService.RowFiltersBind.committed _ _ _ binds
    { statement := firstOrderClosed } _ ordersSchema rfl rfl (closedOrder 1)
    (List.mem_singleton_self _) _ (List.mem_singleton_self _) rfl
  obtain ⟨value, resolved, holds⟩ := bound
  cases resolved
  exact absurd holds (by decide +kernel)

/-- A delete of the open orders keeps within them. -/
theorem rowFiltersBind_of_openOrders :
    WriteExecutionService.RowFiltersBind openOnlyService deleteOpenOrders none := by
  apply (WriteExecutionService.rowFiltersBind_iff (by decide +kernel)).mpr
  intro schema dml sql admitted commits row member rowFilter inPolicy same
  cases List.mem_singleton.mp inPolicy
  cases admitted.loaded
  cases admitted.compiled
  refine ⟨.str "open", rfl, ?_⟩
  obtain ⟨_, selected⟩ := List.mem_filter.mp member
  have truth : equalsColumn "state" (.str "open") row == .holds := selected
  exact beq_iff_eq.mp truth

end QueryGate
