import QueryGate.Execution.WriteRuns

/-! # Previewing writes

`WritePreviewService` of `execution/write_preview.py`: the affected-row count of a
write and, on request, the rows it would change before and after. A view holds
what the preview's own transaction meets, which is always rolled back. The service
looks up the same things as the one that executes.
-/

namespace QueryGate

open Foundation

/-- A value in a diff. -/
inductive ShownValue where
  /-- `***MASKED***`. -/
  | masked
  /-- A value read from the table. -/
  | stored (value : Value)
  /-- A value the statement would write. -/
  | written (value : BoundValue)

/-- A row of a diff: column name and value. -/
abbrev ShownRow := List (String × ShownValue)

/-- `RowDiff`. -/
structure RowDiff where
  before : Option ShownRow := none
  after : Option ShownRow := none

/-- `WriteDiff`. -/
structure WriteDiff where
  rows : List RowDiff
  truncated : Bool
  rowLimit : Int

/-- `WritePreview`. -/
structure WritePreview where
  operation : WriteOp
  table : String
  affectedRows : Int
  withinAffectedCap : Bool
  maxAffectedRows : Int
  sql : String
  executed : Bool := false
  diff : Option WriteDiff := none

/-- What a preview meets: the target table when the rows are counted, when they are
read, and when they are read again after the statement ran. -/
structure PreviewView where
  session : Option Raised := none
  atCount : List DbRow
  countFailure : Option Raised := none
  atDiff : List DbRow
  diffFailure : Option Raised := none
  dmlFailure : Option Raised := none
  afterDml : List DbRow := []
  rollback : Option Raised := none

/-- A stored row as a diff shows it. -/
def storedRow (row : DbRow) : ShownRow :=
  row.map fun entry => (entry.1, .stored entry.2)

/-- A row of bound values as a diff shows it. -/
def writtenRow (row : BoundRow) : ShownRow :=
  row.map fun entry => (entry.1, .written entry.2)

/-- `{**before, **values}`. -/
def overwrittenRow (before : DbRow) (values : BoundRow) : ShownRow :=
  values.foldl (fun row entry => dictSet row entry.1 (.written entry.2)) (storedRow before)

/-- Two rows have the same value of a key column. -/
def sameKey (key : String) (first second : DbRow) : Bool :=
  match dictGet first key, dictGet second key with
  | some one, some other => one.sameScalar other
  | _, _ => false

/-- `after_by_key.get(before[pk], {})`: of several rows with the key, the last. -/
def rowWithKey (key : String) (rows : List DbRow) (before : DbRow) : DbRow :=
  (rows.reverse.find? fun row => sameKey key row before).getD []

/-- `_mask_row`. -/
def maskRow (policy : Policy) (tableName : String) (row : ShownRow) : ShownRow :=
  row.map fun entry =>
    (entry.1, if (policy.columnMask tableName entry.1).isSome then .masked else entry.2)

namespace WriteExecutionService

variable (service : WriteExecutionService)

/-- `max_diff_rows`, as a number of rows. -/
def diffLimit : Nat :=
  service.policy.write.maxDiffRows.toNat

/-- `_insert_diff`. -/
def insertDiff (statement : InsertStatement) (table : FromObj) (tableName : String) : WriteDiff where
  rows := (statement.rows.take service.diffLimit).map fun row =>
    { after := some (maskRow service.policy tableName (writtenRow (coerceRow row table))) }
  truncated := decide (service.diffLimit < statement.rows.length)
  rowLimit := service.policy.write.maxDiffRows

/-- `select(table).where(where).limit(limit + 1)`. -/
def fetchedRows (view : PreviewView) (condition : SqlCondition) : List DbRow :=
  (view.atDiff.filter (service.engine.selects condition)).take (service.diffLimit + 1)

/-- The fetched rows a diff lists. -/
def beforeRows (view : PreviewView) (condition : SqlCondition) : List DbRow :=
  (service.fetchedRows view condition).take service.diffLimit

/-- The rows of a diff whose statement is not run: the SET applied to the old row. -/
def fallbackRows (update : UpdateStatement) (table : FromObj) (tableName : String)
    (before : List DbRow) : List RowDiff :=
  before.map fun row =>
    { before := some (maskRow service.policy tableName (storedRow row))
      after := some (maskRow service.policy tableName
        (overwrittenRow row (coerceRow update.set_ table))) }

/-- The rows of a diff read again by their key after the statement ran. -/
def rereadRows (view : PreviewView) (key tableName : String) (before : List DbRow) :
    List RowDiff :=
  before.map fun row =>
    { before := some (maskRow service.policy tableName (storedRow row))
      after := some (maskRow service.policy tableName
        (storedRow (rowWithKey key view.afterDml row))) }

/-- The rows of a diff that would disappear. -/
def deletedRows (tableName : String) (before : List DbRow) : List RowDiff :=
  before.map fun row => { before := some (maskRow service.policy tableName (storedRow row)) }

/-- The key a diff reads rows again by: the primary key of a single column, where
the write is within its cap and changes a row. -/
def rereadKey (schema : TableSchema) (before : List DbRow) (withinCap : Bool) : Option String :=
  match schema.primaryKey with
  | [key] => if withinCap && !before.isEmpty then some key else none
  | _ => none

/-- The rows of a diff of an update. -/
def updatedRows (view : PreviewView) (update : UpdateStatement) (table : FromObj)
    (schema : TableSchema) (before : List DbRow) (withinCap : Bool) : Attempted (List RowDiff) :=
  match rereadKey schema before withinCap with
  | some key => do
      outside view.dmlFailure
      pure (service.rereadRows view key schema.name before)
  | none => .ok (service.fallbackRows update table schema.name before)

/-- The rows of a diff of an update or a delete. -/
def mutationRows (view : PreviewView) (statement : WriteStatement) (schema : TableSchema)
    (before : List DbRow) (withinCap : Bool) : Attempted (List RowDiff) :=
  match statement with
  | .update update =>
      service.updatedRows view update (service.target statement schema) schema before withinCap
  | _ => .ok (service.deletedRows schema.name before)

/-- `_mutation_diff`. -/
def mutationDiff (view : PreviewView) (statement : WriteStatement) (schema : TableSchema)
    (condition : SqlCondition) (withinCap : Bool) : Attempted WriteDiff := do
  outside view.diffFailure
  let rows ← service.mutationRows view statement schema (service.beforeRows view condition)
    withinCap
  pure ⟨rows, decide (service.diffLimit < (service.fetchedRows view condition).length),
    service.policy.write.maxDiffRows⟩

/-- The diff of an update or a delete, when it is asked for. -/
def requestedDiff (view : PreviewView) (statement : WriteStatement) (schema : TableSchema)
    (condition : SqlCondition) (withinCap includeDiff : Bool) : Attempted (Option WriteDiff) :=
  if includeDiff then (service.mutationDiff view statement schema condition withinCap).map some
  else .ok none

/-- The count and the diff of an update or a delete, before the rollback. -/
def previewMutation (view : PreviewView) (statement : WriteStatement) (schema : TableSchema)
    (where_ : WriteWhereNode) (includeDiff : Bool) : Attempted (Int × Option WriteDiff) := do
  let condition ← attempt (compileWriteWhere service.adapter statement.table
    (service.target statement schema) where_)
  outside view.session
  outside view.countFailure
  let affected := ((view.atCount.filter (service.engine.selects condition)).length : Int)
  let diff ← service.requestedDiff view statement schema condition
    (decide (affected ≤ service.policy.write.maxAffectedRows)) includeDiff
  outside view.rollback
  pure (affected, diff)

/-- The count and the diff of a write. An upsert has no diff. -/
def previewEffect (view : PreviewView) (statement : WriteStatement) (schema : TableSchema)
    (includeDiff : Bool) : Attempted (Int × Option WriteDiff) :=
  match statement with
  | .insert insert =>
      .ok (insert.rows.length, if includeDiff then
        some (service.insertDiff insert (service.target statement schema) schema.name) else none)
  | .upsert upsert => .ok (upsert.rows.length, none)
  | .update update => service.previewMutation view statement schema update.where_ includeDiff
  | .delete delete => service.previewMutation view statement schema delete.where_ includeDiff

/-- The rendered statement of a preview. -/
def renderAttempt (dml : Dml) : Attempted String :=
  (service.render dml).mapError .raised

/-- `preview`. -/
def preview (view : PreviewView) (statement : WriteStatement) (includeDiff : Bool) :
    Attempted WritePreview := do
  attempt (validateWritePolicy statement service.policy service.connectionId)
  let schema ← attempt (validateWriteSchema service.loadTable statement service.connectionId)
  let dml ← attempt (service.compileOn statement schema)
  let sql ← service.renderAttempt dml
  let effect ← service.previewEffect view statement schema includeDiff
  pure { operation := statement.op, table := schema.name, affectedRows := effect.1
         withinAffectedCap := decide (effect.1 ≤ service.policy.write.maxAffectedRows)
         maxAffectedRows := service.policy.write.maxAffectedRows, sql := sql, diff := effect.2 }

end WriteExecutionService

end QueryGate
