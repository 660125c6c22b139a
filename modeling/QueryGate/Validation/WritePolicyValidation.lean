import QueryGate.Validation.SchemaValidation
import QueryGate.WriteAst.Models

/-! # Validation of writes

`validation/write_policy_validation.py` and `validation/write_schema_validation.py`.
Writes are refused unless the write policy allows the operation, the table and
the written columns; the filter of an update or a delete obeys the rules of a
read. `loadTable` is schema reflection.
-/

namespace QueryGate

open Foundation

/-- `validate_write_batch_size`. -/
def validateWriteBatchSize (count : Nat) (policy : Policy) : Gate Unit :=
  deny (policy.write.maxBatchSize < (count : Int))
    s!"write batch size {count} exceeds max of {policy.write.maxBatchSize}"

/-- `_written_columns`. -/
def writtenColumns : WriteStatement → List String
  | .insert statement => dictKeys (statement.rows.headD [])
  | .upsert statement => dictKeys (statement.rows.headD [])
  | .update statement => dictKeys statement.set_
  | .delete _ => []

/-- A written column is writable. -/
def checkWrittenColumn (policy : Policy) (table column : String) : Gate Unit :=
  deny (!policy.write.writeColumnAllowed table column)
    s!"Column {table}.{column} is not writable under the active policy"

/-- A column the filter reads is accessible and not masked. -/
def checkFilterRef (policy : Policy) (ref : String) : Gate Unit := do
  let (table, column) ← parseColumnRef ref
  deny (!policy.columnAllowed table column)
    s!"Column {quoted ref} is not accessible under the active policy"
  deny (policy.columnMask table column).isSome
    s!"Column {quoted ref} is masked by policy and cannot be used to filter a write"

/-- One predicate of a write filter: no subquery, no expression, readable columns. -/
def checkFilterPredicate (policy : Policy) (pred : Predicate) : Gate Unit := do
  invalid pred.valueSubquery.isSome
    ("A subquery predicate (value_subquery / IN (subquery)) is not " ++
      "supported in a write's WHERE clause; scope the target rows " ++
      "with literal or column predicates instead.")
  invalid (pred.expr.isSome || pred.valueExpr.isSome)
    ("A computed expression predicate (expr / value_expr) is not " ++
      "supported in a write's WHERE clause; scope the target rows " ++
      "with literal or column predicates instead.")
  checkAll (checkFilterRef policy) (predicateColumnRefs pred)

/-- The filter of a write obeys the shape caps and the read rules. -/
def checkWriteFilter (policy : Policy) (where_ : WriteWhereNode) : Gate Unit := do
  let readWhere ← toReadWhere where_
  enforcePredicateShapeCaps readWhere policy "write where"
  checkAll (checkFilterPredicate policy) (iterWherePredicates readWhere)

/-- `validate_write_policy`. -/
def validateWritePolicy (statement : WriteStatement) (policy : Policy) (connectionId : String) :
    Gate Unit := do
  deny (!policy.enabled) s!"Connection {quoted connectionId} is disabled by policy"
  deny (!policy.write.enabled)
    s!"Writes are not enabled for connection {quoted connectionId} (WritePolicy.enabled=false)"
  deny (!policy.write.operationAllowed statement.op)
    s!"Write operation {quoted statement.op.value} is not allowed by policy"
  deny (!policy.write.tableWritable statement.table)
    s!"Table {quoted statement.table} is not writable under the active policy"
  checkAll (checkWrittenColumn policy statement.table) (writtenColumns statement)
  checkOption (checkWriteFilter policy) statement.where?

/-- The columns an insert must set: not nullable, without a default, and not part
of the primary key. -/
def TableSchema.requiredColumns (schema : TableSchema) : List String :=
  (schema.columns.filter fun column =>
    !column.nullable && !column.hasDefault && !column.hasServerDefault &&
      !schema.primaryKey.contains column.name).map ColumnDef.name

/-- An insert sets every required column. -/
def checkRequiredColumns (schema : TableSchema) : WriteStatement → Gate Unit
  | .insert statement =>
      let provided := dictKeys (statement.rows.headD [])
      let missing := (schema.requiredColumns.filter fun name => !provided.contains name).mergeSort
        (· ≤ ·)
      invalid (!missing.isEmpty)
        (s!"INSERT into {quoted schema.name} is missing required column(s): " ++
          String.intercalate ", " missing)
  | _ => .ok ()

/-- A written column exists. -/
def checkColumnExists (table : FromObj) (column : String) : Gate Unit := do
  let _ ← resolveColumn table column
  pure ()

/-- A reference of the filter names an existing column of the target table. -/
def checkTargetRef (target : String) (table : FromObj) (ref : String) : Gate Unit := do
  let (refTable, refColumn) ← parseColumnRef ref
  invalid (casefold refTable != casefold target)
    (s!"A write's WHERE may only reference its target table {quoted target}, not " ++
      quoted refTable)
  checkColumnExists table refColumn

/-- The filter of a write refers to the target table only. -/
def checkTargetFilter (target : String) (table : FromObj) (where_ : WriteWhereNode) :
    Gate Unit := do
  let readWhere ← toReadWhere where_
  checkAll (fun pred => checkAll (checkTargetRef target table) (predicateColumnRefs pred))
    (iterWherePredicates readWhere)

/-- `validate_write_schema`: the reflected target table. -/
def validateWriteSchema (loadTable : String → String → String → Gate TableSchema)
    (statement : WriteStatement) (connectionId : String) : Gate TableSchema := do
  sanitizeTableName statement.table
  let schema ← loadTable connectionId statement.table connectionId
  let table : FromObj := .table connectionId statement.table schema
  checkAll (checkColumnExists table) (writtenColumns statement)
  checkRequiredColumns schema statement
  checkOption (checkTargetFilter statement.table table) statement.where?
  pure schema

/-- What a passing policy check says about a statement. -/
structure WriteAllowed (statement : WriteStatement) (policy : Policy) : Prop where
  operation : policy.write.operationAllowed statement.op = true
  table : policy.write.tableWritable statement.table = true
  columns : ∀ column ∈ writtenColumns statement,
    policy.write.writeColumnAllowed statement.table column = true
  filter : ∀ where_, statement.where? = some where_ → checkWriteFilter policy where_ = .ok ()

theorem writeAllowed_of_validateWritePolicy {statement : WriteStatement} {policy : Policy}
    {connectionId : String} (passed : validateWritePolicy statement policy connectionId = .ok ()) :
    WriteAllowed statement policy := by
  simp only [validateWritePolicy, seq_eq_ok_iff, deny_eq_ok_iff, Bool.not_eq_false'] at passed
  obtain ⟨_, _, operation, table, columns, filter⟩ := passed
  refine ⟨operation, table, fun column member => ?_, fun where_ found => ?_⟩
  · have checked := checkAll_eq_ok_iff.mp columns column member
    simpa only [checkWrittenColumn, deny_eq_ok_iff, Bool.not_eq_false'] using checked
  · rw [found] at filter
    exact filter

/-- A column reference the filter may read. -/
def FilterRefReadable (policy : Policy) (ref : String) : Prop :=
  ∃ table column, parseColumnRef ref = .ok (table, column) ∧
    policy.columnAllowed table column = true ∧ policy.columnMask table column = none

theorem filterRefReadable_of_check {policy : Policy} {ref : String}
    (checked : checkFilterRef policy ref = .ok ()) : FilterRefReadable policy ref := by
  simp only [checkFilterRef, bind_eq_ok_iff] at checked
  obtain ⟨⟨table, column⟩, parsed, checked⟩ := checked
  simp only [deny_eq_ok_iff, Bool.not_eq_false', Option.isSome_eq_false_iff, Option.isNone_iff_eq_none,
    exists_const] at checked
  exact ⟨table, column, parsed, checked.1, checked.2⟩

/-- Every column a passing filter's read form refers to may be read. -/
theorem filterRefs_readable {policy : Policy} {where_ : WriteWhereNode} {readWhere : WhereNode}
    (passed : checkWriteFilter policy where_ = .ok ()) (converted : toReadWhere where_ = .ok readWhere)
    {pred : Predicate} (member : pred ∈ iterWherePredicates readWhere) {ref : String}
    (referred : ref ∈ predicateColumnRefs pred) : FilterRefReadable policy ref := by
  rw [checkWriteFilter, converted] at passed
  change (enforcePredicateShapeCaps readWhere policy "write where" >>= fun _ =>
    checkAll (checkFilterPredicate policy) (iterWherePredicates readWhere)) = .ok () at passed
  rw [seq_eq_ok_iff] at passed
  have checked := checkAll_eq_ok_iff.mp passed.2 pred member
  simp only [checkFilterPredicate, seq_eq_ok_iff] at checked
  exact filterRefReadable_of_check (checkAll_eq_ok_iff.mp checked.2.2 ref referred)

end QueryGate
