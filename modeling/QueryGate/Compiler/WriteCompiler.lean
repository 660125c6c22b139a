import QueryGate.Compiler.Where
import QueryGate.Validation.WritePolicyValidation

/-! # Compiling writes

`compiler/write_compiler.py`: the DML statement of a validated write, against the
reflected target table. The WHERE clause is compiled by the read compiler from
the converted filter, once for the statement and again, by the same expression,
for the affected-row count and the diff of a preview.
-/

namespace QueryGate

open Foundation

/-- A value as it is bound to a column. -/
inductive BoundValue where
  | plain (value : Value)
  /-- What the parser of a temporal or decimal type makes of a text: the text
  itself where the parser refuses it. -/
  | parsed (type : PythonType) (text : String)

/-- A row of bound values. -/
abbrev BoundRow := List (String × BoundValue)

/-- The type has a parser `_coerce_write_value` applies to texts. -/
def PythonType.isParsed : PythonType → Bool
  | .datetime | .date | .time | .decimal => true
  | _ => false

/-- `_coerce_write_value`. -/
def coerceWriteValue (column : ColumnDef) (value : Value) : BoundValue :=
  match value, column.pythonType with
  | .str text, some type => if type.isParsed then .parsed type text else .plain (.str text)
  | _, _ => .plain value

/-- `_coerce_row`. -/
def coerceRow (row : Row) (table : FromObj) : BoundRow :=
  row.map fun entry =>
    match table.columns.find? fun column => column.name == entry.1 with
    | some column => (entry.1, coerceWriteValue column entry.2)
    | none => (entry.1, .plain entry.2)

/-- A DML statement. -/
inductive Dml where
  | insert (table : FromObj) (rows : List BoundRow)
  | update (table : FromObj) (where_ : SqlCondition) (values : BoundRow)
  | delete (table : FromObj) (where_ : SqlCondition)
  | upsert (table : FromObj) (rows : List BoundRow) (indexElements updateColumns : List String)

/-- The WHERE clause of a DML statement. -/
def Dml.where? : Dml → Option SqlCondition
  | .insert _ _ => none
  | .update _ where_ _ => some where_
  | .delete _ where_ => some where_
  | .upsert _ _ _ _ => none

/-- `_compile_where(to_read_where(statement.where), {statement.table: table}, {}, dialect)`. -/
def compileWriteWhere (adapter : DialectAdapter) (target : String) (table : FromObj)
    (where_ : WriteWhereNode) : Gate SqlCondition := do
  let readWhere ← toReadWhere where_
  compileWhere adapter [(target, table)] [] none 0 readWhere

/-- `_UPSERT_COMPILERS`: the dialects with an ON CONFLICT clause. -/
def upsertDialects : List String :=
  ["postgresql", "sqlite"]

/-- `_UPSERT_UNSUPPORTED_MESSAGES`. -/
def upsertUnsupportedMessages : List (String × String) :=
  [("mysql",
      "upsert is not supported on MySQL: its ON DUPLICATE KEY UPDATE " ++
      "fires on a collision with ANY unique/primary key on the table, " ++
      "not a specific caller-named conflict target the way " ++
      "conflict_columns declares one — accepting it here would " ++
      "silently misrepresent which constraint triggered the update. " ++
      "Use a separate governed update then insert, or preview which " ++
      "rows exist first."),
    ("snowflake",
      "upsert is not supported on Snowflake: its upsert idiom is MERGE, a " ++
      "multi-clause statement (MERGE INTO ... USING ... ON ... WHEN " ++
      "MATCHED THEN UPDATE ... WHEN NOT MATCHED THEN INSERT ...) with no " ++
      "single-target-constraint model the way conflict_columns/" ++
      "update_columns express one — synthesizing a MERGE from those two " ++
      "fields would be the engine inventing statement structure the AST " ++
      "never asked for, not a mechanical translation of it. Use a " ++
      "separate governed update then insert, or preview which rows exist " ++
      "first."),
    ("bigquery",
      "upsert is not supported on BigQuery: like Snowflake, its only upsert " ++
      "idiom is MERGE, a multi-clause statement (MERGE INTO ... USING ... ON " ++
      "... WHEN MATCHED THEN UPDATE ... WHEN NOT MATCHED THEN INSERT ...) " ++
      "with no single-target-constraint model the way conflict_columns/" ++
      "update_columns express one. BigQuery's gap is structurally even " ++
      "wider than Snowflake's: its PRIMARY KEY/UNIQUE constraints, even " ++
      "when declared, are documented as NOT ENFORCED (query-optimizer " ++
      "hints only), so there is no database-enforced uniqueness for " ++
      "conflict_columns to even name a real target against. Synthesizing a " ++
      "MERGE from those two fields would be the engine inventing statement " ++
      "structure the AST never asked for, not a mechanical translation of " ++
      "it. Use a separate governed update then insert, or preview which " ++
      "rows exist first.")]

/-- `_compile_upsert`. -/
def compileUpsert (statement : UpsertStatement) (table : FromObj) (dialect : String) : Gate Dml :=
  if upsertDialects.contains dialect then
    .ok (.upsert table (statement.rows.map fun row => coerceRow row table)
      statement.conflictColumns statement.updateColumns)
  else
    .error (queryValidationError ((dictGet upsertUnsupportedMessages dialect).getD
      (s!"upsert (INSERT ON CONFLICT) is not supported on dialect {quoted dialect} — it has no " ++
        "ON CONFLICT clause. Use a separate governed update then insert, or preview which " ++
        "rows exist first.")))

/-- `compile_write`. -/
def compileWrite (adapter : DialectAdapter) (dialect : String) (statement : WriteStatement)
    (table : FromObj) : Gate Dml :=
  match statement with
  | .insert statement => .ok (.insert table (statement.rows.map fun row => coerceRow row table))
  | .update statement => do
      let whereClause ← compileWriteWhere adapter statement.table table statement.where_
      pure (.update table whereClause (coerceRow statement.set_ table))
  | .delete statement => do
      let whereClause ← compileWriteWhere adapter statement.table table statement.where_
      pure (.delete table whereClause)
  | .upsert statement => compileUpsert statement table dialect

/-- The compiled statement carries the compiled filter. -/
theorem compileWrite_where {adapter : DialectAdapter} {dialect : String}
    {statement : WriteStatement} {table : FromObj} {dml : Dml} {where_ : WriteWhereNode}
    (compiled : compileWrite adapter dialect statement table = .ok dml)
    (filter : statement.where? = some where_) :
    ∃ condition, dml.where? = some condition ∧
      compileWriteWhere adapter statement.table table where_ = .ok condition := by
  cases statement with
  | insert statement => cases filter
  | upsert statement => cases filter
  | update statement =>
      cases filter
      simp only [compileWrite, bind_eq_ok_iff] at compiled
      obtain ⟨condition, compiledWhere, returned⟩ := compiled
      cases returned
      exact ⟨condition, rfl, compiledWhere⟩
  | delete statement =>
      cases filter
      simp only [compileWrite, bind_eq_ok_iff] at compiled
      obtain ⟨condition, compiledWhere, returned⟩ := compiled
      cases returned
      exact ⟨condition, rfl, compiledWhere⟩

end QueryGate
