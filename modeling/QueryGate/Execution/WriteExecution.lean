import QueryGate.Compiler.WriteCompiler
import QueryGate.Execution.Approval

/-! # Executing writes

`WriteExecutionService` of `execution/write_execution.py`: single writes, batches
of independent writes, and atomic batches. What happens outside the gateway is
given: `WriteExecutionService` holds what the service looks up, and a view holds
what one attempt meets, so that every interleaving with other transactions is a
choice of views. Rows are counted in one view of the table and changed in
another. Every attempt leaves a trace of its audit events and its commit.
-/

namespace QueryGate

open Foundation

/-- An exception raised outside the gateway's own checks: its class, its text, and
whether `public_error_message` shows the text. -/
structure Raised where
  category : String
  message : String
  clientSafe : Bool := false
  deriving DecidableEq, Repr

/-- An exception that ends a write. -/
inductive WriteFailure where
  | rejected (error : GateError)
  | approvalRequired (message fingerprint : String) (reasons : List String)
  | raised (cause : Raised)
  deriving DecidableEq, Repr

/-- The class name of a gate error. -/
def ErrorKind.className : ErrorKind → String
  | .queryValidation => "QueryValidationError"
  | .policyViolation => "PolicyViolationError"
  | .configValidation => "ConfigValidationError"
  | .notFound => "NotFoundError"
  | .keyError => "KeyError"
  | .valueError => "ValueError"
  | .typeError => "TypeError"
  | .attributeError => "AttributeError"

/-- The kinds whose text a caller may see. -/
def ErrorKind.clientSafe : ErrorKind → Bool
  | .queryValidation | .policyViolation | .configValidation | .notFound => true
  | .keyError | .valueError | .typeError | .attributeError => false

/-- `type(error).__name__`. -/
def WriteFailure.category : WriteFailure → String
  | .rejected error => error.kind.className
  | .approvalRequired _ _ _ => "ApprovalRequiredError"
  | .raised cause => cause.category

/-- `str(error)`. -/
def WriteFailure.message : WriteFailure → String
  | .rejected error => error.message
  | .approvalRequired message _ _ => message
  | .raised cause => cause.message

/-- `public_error_message`. -/
def publicErrorMessage : WriteFailure → String
  | .rejected error =>
      if error.kind.clientSafe then error.message else "An unexpected error occurred."
  | .approvalRequired message _ _ => message
  | .raised cause =>
      if cause.clientSafe then cause.message else "An unexpected error occurred."

/-- A computation that may end with any failure of a write. -/
abbrev Attempted := Except WriteFailure

/-- A gate computation as part of an attempt. -/
def attempt {α : Type} (outcome : Gate α) : Attempted α :=
  outcome.mapError .rejected

/-- A step outside the gateway, which may raise. -/
def outside (failure : Option Raised) : Attempted Unit :=
  match failure with
  | none => .ok ()
  | some cause => .error (.raised cause)

/-- A stored row. -/
abbrev DbRow := List (String × Value)

/-- Two scalars of one column are equal. -/
def Value.sameScalar : Value → Value → Bool
  | .null, .null => true
  | .bool first, .bool second => first == second
  | .int first, .int second => first == second
  | .float first, .float second => first == second
  | .str first, .str second => first == second
  | _, _ => false

/-- The database's own meaning of what a statement asks: the value of a condition's
leaf on a row, and whether a new row collides with a stored one on the columns of
a conflict target. -/
structure Engine where
  test : SqlCondition → DbRow → Truth
  collides : List String → BoundRow → DbRow → Bool

/-- The row satisfies the condition. -/
def Engine.selects (engine : Engine) (condition : SqlCondition) (row : DbRow) : Bool :=
  condition.tree.eval (condition.tree.leaves.map fun leaf => engine.test leaf row) == .holds

/-- The stored rows a statement changes or removes. -/
def Dml.changes (engine : Engine) (rows : List DbRow) : Dml → List DbRow
  | .insert _ _ => []
  | .update _ where_ _ => rows.filter (engine.selects where_)
  | .delete _ where_ => rows.filter (engine.selects where_)
  | .upsert _ newRows indexElements _ =>
      rows.filter fun row => newRows.any fun new => engine.collides indexElements new row

/-- A failure of the DML statement: one the service turns into a validation error
(`IntegrityError`, `DataError`, `StatementError`), or another. -/
inductive DmlFailure where
  | constraint
  | other (cause : Raised)
  deriving DecidableEq, Repr

/-- What one statement meets inside its transaction. -/
structure StatementView where
  /-- The target table when the rows are counted. -/
  atCount : List DbRow
  countFailure : Option Raised := none
  now : Int := 0
  /-- The target table when the statement reaches it. -/
  atDml : List DbRow
  dmlFailure : Option DmlFailure := none
  /-- The driver reports a row count, and not `None` or a negative number. -/
  reportsRowcount : Bool := true

/-- What happens around the statements of one transaction. `release` ends the
session and frees the slot. -/
structure TransactionView where
  slot : Option Raised := none
  session : Option Raised := none
  commit : Option Raised := none
  release : Option Raised := none

/-- What one call of `execute` meets. -/
structure AttemptView where
  transaction : TransactionView := {}
  statement : StatementView

/-- `WriteExecutionService`, with what it looks up: the caller's policy, the
connection's dialect, reflection, rendering, fingerprints and signed tokens. -/
structure WriteExecutionService where
  connectionId : String
  principal : Option Principal := none
  policy : Policy
  dialect : Gate String := .ok "postgresql"
  adapter : DialectAdapter
  loadTable : String → String → String → Gate TableSchema
  render : Dml → Except Raised String
  fingerprint : WriteStatement → String
  openToken : String → Option TokenClaims
  engine : Engine

/-- `_write_shape`. -/
structure WriteShape where
  op : WriteOp
  table : String
  columns : List String
  deriving DecidableEq, Repr

/-- One audit event of a write. -/
structure WriteAudit where
  sql : String
  shape : WriteShape
  allowed : Bool
  affectedRows : Option Int := none
  rejectionReason : Option String := none
  errorCategory : Option String := none
  deriving DecidableEq, Repr

/-- A committed statement: what ran, the rows it met, and the token supplied. -/
structure CommittedWrite where
  statement : WriteStatement
  dml : Dml
  rows : List DbRow
  token : Option String
  now : Int

/-- The stored rows a committed statement changed or removed. -/
def CommittedWrite.changed (engine : Engine) (write : CommittedWrite) : List DbRow :=
  write.dml.changes engine write.rows

/-- What one statement of a call leaves behind. -/
structure StatementTrace where
  audits : List WriteAudit := []
  committed : Option CommittedWrite := none

/-- `WriteResult`. -/
structure WriteResult where
  operation : WriteOp
  table : String
  affectedRows : Int
  deriving DecidableEq, Repr

/-- `WriteBatchItemResult`. -/
structure WriteBatchItemResult where
  operation : WriteOp
  table : String
  affectedRows : Option Int := none
  executed : Bool := false
  error : Option String := none
  approvalFingerprint : Option String := none
  approvalReasons : Option (List String) := none
  deriving DecidableEq, Repr

/-- The outcome of a call of `execute`. -/
structure ExecuteOutcome where
  result : Attempted WriteResult
  trace : StatementTrace

/-- The outcome of a call of `execute_many`, with one trace a statement. -/
structure BatchOutcome where
  result : Attempted (List WriteBatchItemResult)
  traces : List StatementTrace

/-- The column names of `_write_shape`. -/
def shapeColumns (statement : WriteStatement) : List String :=
  (writtenColumns statement).mergeSort (· ≤ ·)

/-- The shape of `_audit`; the unreflected target falls back to the statement's own
name. -/
def writeShape (statement : WriteStatement) (schema : Option TableSchema) : WriteShape where
  op := statement.op
  table := (schema.map TableSchema.name).getD statement.table
  columns := shapeColumns statement

/-- `_audit` of a failed write. -/
def auditRejected (sql : String) (statement : WriteStatement) (schema : Option TableSchema)
    (failure : WriteFailure) : WriteAudit where
  sql := sql
  shape := writeShape statement schema
  allowed := false
  rejectionReason := some (failure.category ++ ": " ++ failure.message)
  errorCategory := some failure.category

/-- `_audit` of a committed write. -/
def auditAllowed (sql : String) (statement : WriteStatement) (schema : Option TableSchema)
    (affectedRows : Int) : WriteAudit where
  sql := sql
  shape := writeShape statement schema
  allowed := true
  affectedRows := some affectedRows

/-- An attempt that failed, with its audit event. -/
def failed (sql : String) (statement : WriteStatement) (schema : Option TableSchema)
    (committed : Option CommittedWrite) (failure : WriteFailure) : ExecuteOutcome where
  result := .error failure
  trace := ⟨[auditRejected sql statement schema failure], committed⟩

namespace WriteExecutionService

variable (service : WriteExecutionService)

/-- `_principal_subject`. -/
def principalSubject : Option String :=
  service.principal.map Principal.subject

/-- The reflected table as the compiler receives it. -/
def target (statement : WriteStatement) (schema : TableSchema) : FromObj :=
  .table service.connectionId statement.table schema

/-- The rows of the view a statement's COUNT(*) counts. -/
def countRows (view : StatementView) (statement : WriteStatement) (schema : TableSchema)
    (where_ : WriteWhereNode) : Attempted Int := do
  let _ ← attempt service.dialect
  let condition ← attempt (compileWriteWhere service.adapter statement.table
    (service.target statement schema) where_)
  outside view.countFailure
  pure ((view.atCount.filter (service.engine.selects condition)).length : Int)

/-- `_count_affected`. -/
def countAffected (view : StatementView) (statement : WriteStatement) (schema : TableSchema) :
    Attempted Int :=
  match statement with
  | .insert insert => .ok (insert.rows.length : Int)
  | .upsert upsert => .ok (upsert.rows.length : Int)
  | .update update => service.countRows view (.update update) schema update.where_
  | .delete delete => service.countRows view (.delete delete) schema delete.where_

/-- The token is an unexpired grant for the statement, this connection and this
principal. -/
def tokenValid (statement : WriteStatement) (token : String) (now : Int) : Bool :=
  verifyApprovalToken service.openToken token (service.fingerprint statement)
    (some service.connectionId) service.principalSubject .grant now

/-- Some supplied token is valid; an empty text counts as no token. -/
def approved (statement : WriteStatement) (token : Option String) (now : Int) : Bool :=
  token.any fun text => text != "" && service.tokenValid statement text now

/-- The affected-row count is over the approval threshold. -/
def needsApproval (affected : Int) : Bool :=
  service.policy.write.requireApprovalOverRows.any fun threshold => threshold < affected

/-- `_enforce_write_approval_gate`. -/
def enforceWriteApprovalGate (statement : WriteStatement) (affected : Int) (token : Option String)
    (now : Int) : Attempted Unit :=
  if service.needsApproval affected && !service.approved statement token now then
    .error (.approvalRequired
      s!"write affects {affected} rows; human approval is required before it runs"
      (service.fingerprint statement)
      [s!"write affects {affected} rows (over approval threshold " ++
        s!"{service.policy.write.requireApprovalOverRows.getD 0})"])
  else
    .ok ()

/-- `session.execute(dml)` with its typed failures. -/
def executeDml (view : StatementView) (constraintMessage : String) : Attempted Unit :=
  match view.dmlFailure with
  | none => .ok ()
  | some .constraint => .error (.rejected (queryValidationError constraintMessage))
  | some (.other cause) => .error (.raised cause)

/-- The row count the service goes by after the statement ran. -/
def actualRows (view : StatementView) (statement : WriteStatement) (dml : Dml) (affected : Int) :
    Int :=
  match statement.rows? with
  | some rows => (rows.length : Int)
  | none =>
      if view.reportsRowcount then ((dml.changes service.engine view.atDml).length : Int)
      else affected

/-- A refusal with a validation error, inside an attempt. -/
def refuseRows (bad : Bool) (message : String) : Attempted Unit :=
  refuse bad (.rejected (queryValidationError message))

/-- The body of `_execute_in_transaction`: count, cap, approval, mutate, cap again,
commit. -/
def transactionBody (view : AttemptView) (statement : WriteStatement) (schema : TableSchema)
    (dml : Dml) (token : Option String) : Attempted Int := do
  outside view.transaction.session
  let cap := service.policy.write.maxAffectedRows
  let affected ← service.countAffected view.statement statement schema
  refuseRows (cap < affected)
    s!"write would affect {affected} rows, over the max_affected_rows cap of {cap}"
  service.enforceWriteApprovalGate statement affected token view.statement.now
  executeDml view.statement
    ("the write violates a database constraint or value type " ++
      "(not-null, foreign key, unique, or a mistyped value) and was " ++
      "rolled back — nothing was committed")
  let actual := service.actualRows view.statement statement dml affected
  refuseRows (cap < actual)
    s!"write affected {actual} rows, over the max_affected_rows cap of {cap}"
  outside view.transaction.commit
  pure actual

/-- An outcome after the session and the slot are released. -/
def released {α : Type} (view : TransactionView) (outcome : Attempted α) : Attempted α :=
  match view.release with
  | none => outcome
  | some cause => .error (.raised cause)

/-- `_execute_in_transaction` under the concurrency slot, with what was committed. -/
def executeInTransaction (view : AttemptView) (statement : WriteStatement) (schema : TableSchema)
    (dml : Dml) (token : Option String) : Attempted Int × Option CommittedWrite :=
  match view.transaction.slot with
  | some cause => (.error (.raised cause), none)
  | none =>
      match service.transactionBody view statement schema dml token with
      | .error failure => (released view.transaction (.error failure), none)
      | .ok actual =>
          (released view.transaction (.ok actual),
            some ⟨statement, dml, view.statement.atDml, token, view.statement.now⟩)

/-- `execute` once the statement is rendered. -/
def executeRendered (view : AttemptView) (statement : WriteStatement) (schema : TableSchema)
    (dml : Dml) (sql : String) (token : Option String) : ExecuteOutcome :=
  match service.executeInTransaction view statement schema dml token with
  | (.error failure, committed) => failed sql statement (some schema) committed failure
  | (.ok affected, committed) =>
      { result := .ok ⟨statement.op, schema.name, affected⟩
        trace := ⟨[auditAllowed sql statement (some schema) affected], committed⟩ }

/-- `compile_write` on the connection's dialect. -/
def compileOn (statement : WriteStatement) (schema : TableSchema) : Gate Dml := do
  let dialect ← service.dialect
  compileWrite service.adapter dialect statement (service.target statement schema)

/-- `execute`. -/
def execute (view : AttemptView) (statement : WriteStatement) (token : Option String) :
    ExecuteOutcome :=
  match validateWritePolicy statement service.policy service.connectionId with
  | .error error => failed "" statement none none (.rejected error)
  | .ok _ =>
      match validateWriteSchema service.loadTable statement service.connectionId with
      | .error error => failed "" statement none none (.rejected error)
      | .ok schema =>
          match service.compileOn statement schema with
          | .error error => failed "" statement (some schema) none (.rejected error)
          | .ok dml =>
              match service.render dml with
              | .error cause => failed "" statement (some schema) none (.raised cause)
              | .ok sql => service.executeRendered view statement schema dml sql token

/-- `_batch_ok`. -/
def batchOk (result : WriteResult) : WriteBatchItemResult where
  operation := result.operation
  table := result.table
  affectedRows := some result.affectedRows
  executed := true

/-- `_batch_error`. -/
def batchError (statement : WriteStatement) (failure : WriteFailure) : WriteBatchItemResult where
  operation := statement.op
  table := statement.table
  error := some (publicErrorMessage failure)
  approvalFingerprint := match failure with
    | .approvalRequired _ fingerprint _ => some fingerprint
    | _ => none
  approvalReasons := match failure with
    | .approvalRequired _ _ reasons => some reasons
    | _ => none

/-- `approval_resolver`: asked with the statement and the failure it is gated by. -/
abbrev ApprovalResolver := WriteStatement → WriteFailure → Except Raised (Option String)

/-- A statement of a batch, with what its attempt and a repeated attempt meet. -/
structure BatchItem where
  statement : WriteStatement
  view : AttemptView
  retryView : AttemptView

/-- The item result of an attempt that is not repeated. -/
def itemResult (statement : WriteStatement) (outcome : ExecuteOutcome) : WriteBatchItemResult :=
  match outcome.result with
  | .ok result => batchOk result
  | .error failure => batchError statement failure

/-- What the resolver answers for an attempt: nothing is asked unless the attempt
ended with a pending approval. -/
def resolverAnswer (resolver : Option ApprovalResolver) (statement : WriteStatement)
    (outcome : ExecuteOutcome) : Except Raised (Option String) :=
  match outcome.result, resolver with
  | .error (.approvalRequired message fingerprint reasons), some ask =>
      ask statement (.approvalRequired message fingerprint reasons)
  | _, _ => .ok none

/-- `_execute_batch_item`: a failure of the resolver itself is raised. -/
def executeBatchItem (tokens : List (String × String)) (resolver : Option ApprovalResolver)
    (item : BatchItem) : Attempted WriteBatchItemResult × StatementTrace :=
  let outcome := service.execute item.view item.statement
    (dictGet tokens (service.fingerprint item.statement))
  match resolverAnswer resolver item.statement outcome with
  | .error cause => (.error (.raised cause), outcome.trace)
  | .ok none => (.ok (itemResult item.statement outcome), outcome.trace)
  | .ok (some token) =>
      let again := service.execute item.retryView item.statement (some token)
      (.ok (itemResult item.statement again),
        ⟨outcome.trace.audits ++ again.trace.audits, again.trace.committed⟩)

/-- The batch of independent writes; a raised failure leaves the rest unattempted. -/
def executeEach (tokens : List (String × String)) (resolver : Option ApprovalResolver) :
    List BatchItem → BatchOutcome
  | [] => ⟨.ok [], []⟩
  | item :: rest =>
      match service.executeBatchItem tokens resolver item with
      | (.error failure, trace) => ⟨.error failure, trace :: rest.map fun _ => {}⟩
      | (.ok result, trace) =>
          let others := executeEach tokens resolver rest
          ⟨others.result.map fun results => result :: results, trace :: others.traces⟩

/-- The item result of a statement of an atomic batch. -/
def atomicItem (statement : WriteStatement) (affected : Int) : WriteBatchItemResult where
  operation := statement.op
  table := statement.table
  affectedRows := some (match statement.rows? with
    | some rows => (rows.length : Int)
    | none => affected)
  executed := true

/-- One statement inside the transaction of an atomic batch: its affected-row count
before it ran, and the statement as it ran. -/
def atomicStatement (dialect : String) (view : StatementView) (statement : WriteStatement) :
    Attempted (Int × CommittedWrite) := do
  attempt (validateWritePolicy statement service.policy service.connectionId)
  let schema ← attempt (validateWriteSchema service.loadTable statement service.connectionId)
  let affected ← service.countAffected view statement schema
  let cap := service.policy.write.maxAffectedRows
  refuseRows (cap < affected)
    (s!"a write in the atomic batch would affect {affected} rows, " ++
      s!"over the max_affected_rows cap of {cap}")
  service.enforceWriteApprovalGate statement affected none view.now
  let dml ← attempt (compileWrite service.adapter dialect statement
    (service.target statement schema))
  executeDml view
    ("a write in the atomic batch violated a database constraint or " ++
      "value type; the whole batch was rolled back")
  pure (affected, ⟨statement, dml, view.atDml, none, view.now⟩)

/-- The statements of an atomic batch, in order, inside its transaction. -/
def atomicStatements (dialect : String) :
    List (WriteStatement × StatementView) → Attempted (List (Int × CommittedWrite))
  | [] => .ok []
  | (statement, view) :: rest => do
      let here ← service.atomicStatement dialect view statement
      let others ← atomicStatements dialect rest
      pure (here :: others)

/-- The transaction of an atomic batch, up to and with its commit. -/
def atomicBody (dialect : String) (view : TransactionView)
    (items : List (WriteStatement × StatementView)) : Attempted (List (Int × CommittedWrite)) := do
  outside view.session
  let done ← service.atomicStatements dialect items
  outside view.commit
  pure done

/-- The item results of an atomic batch that failed. -/
def atomicFailure (items : List (WriteStatement × StatementView)) (failure : WriteFailure) :
    Attempted (List WriteBatchItemResult) :=
  .ok (items.map fun item =>
    { operation := item.1.op, table := item.1.table, error := some (publicErrorMessage failure) })

/-- The audit event and the item result of a statement of an atomic batch that went
through. -/
def atomicTrace (done : Int × CommittedWrite) : StatementTrace where
  audits := [auditAllowed "" done.2.statement none
    ((atomicItem done.2.statement done.1).affectedRows.getD 0)]
  committed := some done.2

/-- `_execute_many_atomically` once policy passed for every statement. -/
def executeAtomicBody (dialect : String) (view : TransactionView)
    (items : List (WriteStatement × StatementView)) : BatchOutcome :=
  match view.slot with
  | some cause => ⟨atomicFailure items (.raised cause), items.map fun _ => {}⟩
  | none =>
      match service.atomicBody dialect view items, view.release with
      | .error failure, none => ⟨atomicFailure items failure, items.map fun _ => {}⟩
      | .error _, some cause => ⟨atomicFailure items (.raised cause), items.map fun _ => {}⟩
      | .ok done, some cause =>
          -- The commit stands, and is reported as a failure.
          ⟨atomicFailure items (.raised cause), done.map fun entry => ⟨[], some entry.2⟩⟩
      | .ok done, none =>
          ⟨.ok (done.map fun entry => atomicItem entry.2.statement entry.1),
            done.map atomicTrace⟩

/-- `_execute_many_atomically`. A connection or a statement refused up front raises,
before any event is emitted. -/
def executeManyAtomically (view : TransactionView) (items : List (WriteStatement × StatementView)) :
    BatchOutcome :=
  match service.dialect with
  | .error error => ⟨.error (.rejected error), items.map fun _ => {}⟩
  | .ok dialect =>
      match checkAll (fun item => validateWritePolicy item.1 service.policy service.connectionId)
          items with
      | .error error => ⟨.error (.rejected error), items.map fun _ => {}⟩
      | .ok _ => service.executeAtomicBody dialect view items

/-- `execute_many` without `atomic`. -/
def executeMany (tokens : List (String × String)) (resolver : Option ApprovalResolver)
    (items : List BatchItem) : BatchOutcome :=
  match validateWriteBatchSize items.length service.policy with
  | .error error => ⟨.error (.rejected error), items.map fun _ => {}⟩
  | .ok _ => service.executeEach tokens resolver items

/-- `execute_many` with `atomic`. -/
def executeManyAtomic (view : TransactionView) (items : List (WriteStatement × StatementView)) :
    BatchOutcome :=
  match validateWriteBatchSize items.length service.policy with
  | .error error => ⟨.error (.rejected error), items.map fun _ => {}⟩
  | .ok _ => service.executeManyAtomically view items

end WriteExecutionService

end QueryGate
