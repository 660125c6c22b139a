import QueryGate.Policy.Models
import QueryGate.QueryAst.Acceptance

/-! # The write AST

The data model of `write_ast/models.py` with its validators. A write filter is a
narrowing of the read predicate tree and is converted to one (`toReadWhere`)
wherever it is walked or compiled. Rows are dictionaries from bare column names
to literal values.
-/

namespace QueryGate

open Foundation

/-- `CompareOp`: the read operators without the two existence tests. -/
inductive CompareOp where
  | eq | neq | lt | lte | gt | gte | in_ | notIn | like | between | isNull | isNotNull
  deriving DecidableEq, Repr

/-- The same operator of a read predicate. -/
def CompareOp.read : CompareOp → ReadCompareOp
  | .eq => .eq | .neq => .neq | .lt => .lt | .lte => .lte | .gt => .gt | .gte => .gte
  | .in_ => .in_ | .notIn => .notIn | .like => .like | .between => .between
  | .isNull => .isNull | .isNotNull => .isNotNull

@[simp] theorem CompareOp.read_isExists (op : CompareOp) : op.read.isExists = false := by
  cases op <;> rfl

/-- `WritePredicate`. -/
structure WritePredicate where
  col : Option String := none
  colFn : Option ScalarFunctionCall := none
  op : CompareOp
  value : Value := .null
  valueCol : Option String := none

/-- `WriteWhereNode`: a predicate, or a group with its three optional fields. -/
inductive WriteWhereNode where
  | predicate (pred : WritePredicate)
  | group (andTerms orTerms : Option (List WriteWhereNode)) (notTerms : Option WriteWhereNode)

/-- A row of a write: column name and literal value. -/
abbrev Row := List (String × Value)

/-- `InsertStatement`. -/
structure InsertStatement where
  table : String
  rows : List Row

/-- `UpdateStatement`. -/
structure UpdateStatement where
  table : String
  set_ : Row
  where_ : WriteWhereNode

/-- `DeleteStatement`. -/
structure DeleteStatement where
  table : String
  where_ : WriteWhereNode

/-- `UpsertStatement`. -/
structure UpsertStatement where
  table : String
  rows : List Row
  conflictColumns : List String
  updateColumns : List String

/-- `WriteStatement`. -/
inductive WriteStatement where
  | insert (statement : InsertStatement)
  | update (statement : UpdateStatement)
  | delete (statement : DeleteStatement)
  | upsert (statement : UpsertStatement)

namespace WriteStatement

/-- The `op` tag of a statement. -/
def op : WriteStatement → WriteOp
  | .insert _ => .insert
  | .update _ => .update
  | .delete _ => .delete
  | .upsert _ => .upsert

/-- `write_target_table`. -/
def table : WriteStatement → String
  | .insert statement => statement.table
  | .update statement => statement.table
  | .delete statement => statement.table
  | .upsert statement => statement.table

/-- `getattr(statement, "where", None)`. -/
def where? : WriteStatement → Option WriteWhereNode
  | .insert _ => none
  | .update statement => some statement.where_
  | .delete statement => some statement.where_
  | .upsert _ => none

/-- The rows an insert or an upsert brings. -/
def rows? : WriteStatement → Option (List Row)
  | .insert statement => some statement.rows
  | .update _ => none
  | .delete _ => none
  | .upsert statement => some statement.rows

end WriteStatement

/-- `_build_read_predicate`, and `as_read_predicate` of a parsed predicate. -/
def WritePredicate.asReadPredicate (pred : WritePredicate) : Predicate where
  col := pred.col
  colFn := pred.colFn
  op := pred.op.read
  value := pred.value
  valueCol := pred.valueCol

/-- `_WRITE_VOCABULARY`. -/
def writeVocabularyPhrases : List (String × String) :=
  [("requires a value, value_col, value_expr, or value_subquery", "requires a value or value_col"),
    ("at most one of 'value', 'value_col', 'value_expr', or 'value_subquery'",
      "at most one of 'value' or 'value_col'"),
    ("exactly one of 'col', 'col_fn', or 'expr'", "exactly one of 'col' or 'col_fn'")]

/-- `_write_vocabulary`. -/
def writeVocabulary (message : String) : String :=
  writeVocabularyPhrases.foldl (fun text phrase => text.replace phrase.1 phrase.2) message

/-- `WritePredicate._validate_via_the_read_predicate`, after its field checks. -/
def WritePredicate.validate (pred : WritePredicate) : ModelCheck := do
  checkOption ScalarFunctionCall.validate pred.colFn
  checkOption (fun ref => requireColumnRef ref "col") pred.col
  checkOption (fun ref => requireColumnRef ref "value_col") pred.valueCol
  pred.asReadPredicate.validate.mapError writeVocabulary

/-- `bool(terms)` of an optional list of write terms. -/
def hasWriteTerms : Option (List WriteWhereNode) → Bool
  | none => false
  | some nodes => !nodes.isEmpty

/-- `WriteWhereGroup._exactly_one_boolean`: an empty list counts as unset. -/
def exactlyOneWriteBoolean (andTerms orTerms : Option (List WriteWhereNode))
    (notTerms : Option WriteWhereNode) : ModelCheck :=
  let setCount := [hasWriteTerms andTerms, hasWriteTerms orTerms, notTerms.isSome].count true
  refuse (setCount != 1) "Where group must have exactly one of 'and', 'or', or 'not'"

mutual

/-- The validators of a write filter. -/
def WriteWhereNode.validate : WriteWhereNode → ModelCheck
  | .predicate pred => pred.validate
  | .group andTerms orTerms notTerms => do
      validateWriteTerms andTerms
      validateWriteTerms orTerms
      validateOptionWriteNode notTerms
      exactlyOneWriteBoolean andTerms orTerms notTerms
termination_by structural node => node

/-- The validators of an optional list of write filters. -/
def validateWriteTerms : Option (List WriteWhereNode) → ModelCheck
  | none => .ok ()
  | some nodes => validateWriteNodes nodes
termination_by structural nodes => nodes

/-- The validators of a list of write filters. -/
def validateWriteNodes : List WriteWhereNode → ModelCheck
  | [] => .ok ()
  | node :: rest => do
      node.validate
      validateWriteNodes rest
termination_by structural nodes => nodes

/-- The validators of an optional write filter. -/
def validateOptionWriteNode : Option WriteWhereNode → ModelCheck
  | none => .ok ()
  | some node => node.validate
termination_by structural node => node

end

mutual

/-- `to_read_where`. The fields are tested for presence, `not` first, and not for
truth as the validator does. -/
def toReadWhere : WriteWhereNode → Gate WhereNode
  | .predicate pred => .ok (.predicate pred.asReadPredicate)
  | .group _ _ (some node) => do
      let term ← toReadWhere node
      pure (.group none none (some term))
  | .group (some nodes) _ none => do
      let terms ← toReadNodes nodes
      pure (.group (some terms) none none)
  | .group none (some nodes) none => do
      let terms ← toReadNodes nodes
      pure (.group none (some terms) none)
  | .group none none none =>
      .error (queryValidationError "a write filter group set no boolean combinator")
termination_by structural node => node

/-- `to_read_where` on each term of a list. -/
def toReadNodes : List WriteWhereNode → Gate (List WhereNode)
  | [] => .ok []
  | node :: rest => do
      let term ← toReadWhere node
      let others ← toReadNodes rest
      pure (term :: others)
termination_by structural nodes => nodes

end

/-- Two rows set the same columns: `set(row) == first`. -/
def sameColumns (first second : Row) : Bool :=
  (dictKeys first).all (fun name => (dictKeys second).contains name) &&
    (dictKeys second).all fun name => (dictKeys first).contains name

/-- `InsertStatement._validate_rows`, after its field check. -/
def InsertStatement.validate (statement : InsertStatement) : ModelCheck := do
  checkMinLength 1 statement.rows.length
  refuse (statement.rows.any fun row => row.isEmpty)
    "Each insert row must set at least one column"
  refuse (statement.rows.any fun row => !sameColumns row (statement.rows.headD []))
    "All insert rows must set the same set of columns"

/-- The field checks of `UpdateStatement`. -/
def UpdateStatement.validate (statement : UpdateStatement) : ModelCheck := do
  refuse statement.set_.isEmpty
    "Dictionary should have at least 1 item after validation, not 0"
  statement.where_.validate

/-- The field checks of `DeleteStatement`. -/
def DeleteStatement.validate (statement : DeleteStatement) : ModelCheck :=
  statement.where_.validate

/-- `UpsertStatement._validate`, after its field checks. -/
def UpsertStatement.validate (statement : UpsertStatement) : ModelCheck := do
  checkMinLength 1 statement.rows.length
  checkMinLength 1 statement.conflictColumns.length
  checkMinLength 1 statement.updateColumns.length
  let first := statement.rows.headD []
  refuse (statement.rows.any fun row => row.isEmpty || !sameColumns row first)
    "All upsert rows must set the same non-empty set of columns"
  let missingConflict := statement.conflictColumns.filter fun name => !(dictKeys first).contains name
  refuse (!missingConflict.isEmpty)
    s!"conflict_columns not present in the rows: {quotedList missingConflict}"
  let missingUpdate := statement.updateColumns.filter fun name => !(dictKeys first).contains name
  refuse (!missingUpdate.isEmpty)
    s!"update_columns not present in the rows: {quotedList missingUpdate}"
  let overlap := statement.updateColumns.dedup.filter statement.conflictColumns.contains
  refuse (!overlap.isEmpty)
    s!"update_columns must not include a conflict column: {quotedList (overlap.mergeSort (· ≤ ·))}"

/-- The validators of a write statement. -/
def WriteStatement.validate : WriteStatement → ModelCheck
  | .insert statement => statement.validate
  | .update statement => statement.validate
  | .delete statement => statement.validate
  | .upsert statement => statement.validate

/-- A write as parsing delivers it. -/
def AcceptedWrite := { statement : WriteStatement // statement.validate = .ok () }

theorem WriteStatement.validate_where {statement : WriteStatement} {node : WriteWhereNode}
    (accepted : statement.validate = .ok ()) (filter : statement.where? = some node) :
    node.validate = .ok () := by
  cases statement with
  | insert statement => cases filter
  | upsert statement => cases filter
  | delete statement =>
      cases filter
      exact accepted
  | update statement =>
      cases filter
      simp only [validate, UpdateStatement.validate, seq_eq_ok_iff] at accepted
      exact accepted.2

/-- A group that passes sets exactly one of its fields to something true. -/
theorem exactlyOneWriteBoolean_cases {andTerms orTerms : Option (List WriteWhereNode)}
    {notTerms : Option WriteWhereNode}
    (one : exactlyOneWriteBoolean andTerms orTerms notTerms = .ok ()) :
    (∃ node, notTerms = some node ∧ hasWriteTerms andTerms = false ∧
        hasWriteTerms orTerms = false) ∨
      (notTerms = none ∧ hasWriteTerms andTerms = true ∧ hasWriteTerms orTerms = false) ∨
      (notTerms = none ∧ hasWriteTerms andTerms = false ∧ hasWriteTerms orTerms = true) := by
  rw [exactlyOneWriteBoolean, refuse_eq_ok_iff, bne_eq_false_iff_eq] at one
  cases notTerms with
  | none =>
      cases ands : hasWriteTerms andTerms <;> cases ors : hasWriteTerms orTerms <;>
        simp_all
  | some node =>
      cases ands : hasWriteTerms andTerms <;> cases ors : hasWriteTerms orTerms <;>
        simp_all

end QueryGate
