import QueryGate.Core.Exceptions
import QueryGate.Foundation.Dict
import QueryGate.QueryAst.Literal

/-! # The policy document

The `Policy` model of `policy/models.py`, with the fields query validation,
compilation and governed writes read: access rules, complexity caps, the
k-anonymity floor, row filters, masks and the write rules. Table keys of its dictionaries are matched caselessly, first
entry first.
-/

namespace QueryGate

open Foundation

/-- An authenticated caller; only its claims are read here. -/
structure Principal where
  subject : String
  claims : List (String × Value) := []

/-- Kinds of a column mask. -/
inductive ColumnMaskKind where
  | hash | null | last | bucket
  deriving DecidableEq, Repr

/-- `ColumnMask`. -/
structure ColumnMask where
  column : String
  kind : ColumnMaskKind
  length : Option Int := none
  bucketSize : Option PyFloat := none
  deriving DecidableEq, Repr

/-- `MandatoryRowFilter`. -/
structure MandatoryRowFilter where
  table : String
  column : String
  value : Value := .null
  fromClaim : Option String := none

/-- `MandatoryRowFilter.resolve`: the static value, or the caller's claim. -/
def MandatoryRowFilter.resolve (rowFilter : MandatoryRowFilter) (principal : Option Principal) :
    Gate Value :=
  match rowFilter.fromClaim with
  | none => .ok rowFilter.value
  | some claim =>
      match principal.bind fun caller => dictGet caller.claims claim with
      | some value => .ok value
      | none =>
          .error (policyViolationError
            (s!"mandatory_row_filter on {rowFilter.table}.{rowFilter.column} requires claim " ++
              s!"{quoted claim}, which the authenticated principal doesn't have"))

/-- Operations of a write statement. -/
inductive WriteOp where
  | insert | update | delete | upsert
  deriving DecidableEq, Repr

/-- The wire spelling of a write operation. -/
def WriteOp.value : WriteOp → String
  | .insert => "insert" | .update => "update" | .delete => "delete" | .upsert => "upsert"

/-- `WritePolicy`, with the defaults of the source: no write is allowed. -/
structure WritePolicy where
  enabled : Bool := false
  allowedTables : List String := []
  allowedOperations : List WriteOp := []
  deniedWriteColumns : List (String × List String) := []
  maxAffectedRows : Int := 100
  requireApprovalOverRows : Option Int := none
  maxDiffRows : Int := 50
  maxBatchSize : Int := 10

/-- `PurposePolicyDelta`: the additional rules of one declared purpose. -/
structure PurposePolicyDelta where
  deniedTables : List String := []
  deniedColumns : List (String × List String) := []
  mandatoryRowFilters : List MandatoryRowFilter := []
  columnMasks : List (String × List ColumnMask) := []

/-- `Policy`, with the defaults of the source. -/
structure Policy where
  enabled : Bool := true
  allowedTables : List String := []
  deniedTables : List String := []
  allowedColumns : List (String × List String) := []
  deniedColumns : List (String × List String) := []
  requireExplicitAllowlist : Bool := false
  allowedPurposes : List String := []
  purposePolicies : List (String × PurposePolicyDelta) := []
  columnMasks : List (String × List ColumnMask) := []
  maxJoins : Int := 5
  allowCrossJoin : Bool := false
  maxSelectColumns : Int := 30
  maxWhereDepth : Int := 5
  maxGroupBy : Int := 10
  maxSubqueryDepth : Int := 1
  maxSetOpArms : Int := 3
  maxCteCount : Int := 3
  maxCorrelatedRefs : Int := 2
  maxLimit : Int := 100
  maxLimitAggregate : Int := 1000
  defaultLimit : Int := 50
  maxTopN : Int := 50
  maxPartitionBy : Int := 5
  maxWherePredicates : Int := 100
  maxInListSize : Int := 1000
  maxCaseBranches : Int := 10
  maxExpressionDepth : Int := 5
  maxExpressionNodes : Int := 200
  maxWindowSpecs : Int := 5
  maxWindowFrameOffset : Int := 1000
  maxIntervalDays : Int := 3660
  minGroupSize : Option Int := none
  joinGroup : Option String := none
  write : WritePolicy := {}
  mandatoryRowFilters : List MandatoryRowFilter := []

/-- `_ci_lookup`: the first entry whose key matches caselessly. -/
def ciLookup {α : Type} (mapping : List (String × List α)) (key : String) : Option (List α) :=
  (mapping.find? fun entry => casefold entry.1 == casefold key).map Prod.snd

/-- Some name of the list matches caselessly. -/
def ciContains (names : List String) (name : String) : Bool :=
  names.any fun candidate => casefold candidate == casefold name

/-- `Policy.table_allowed`. -/
def Policy.tableAllowed (policy : Policy) (tableName : String) : Bool :=
  if ciContains policy.deniedTables tableName then false
  else if !policy.allowedTables.isEmpty then ciContains policy.allowedTables tableName
  else !policy.requireExplicitAllowlist

/-- `Policy.column_allowed`. -/
def Policy.columnAllowed (policy : Policy) (tableName columnName : String) : Bool :=
  let denied := (ciLookup policy.deniedColumns tableName).getD [] ++
    (ciLookup policy.deniedColumns "*").getD []
  if ciContains denied columnName then false
  else
    match (ciLookup policy.allowedColumns tableName).orElse
        fun _ => ciLookup policy.allowedColumns "*" with
    | some allowed => ciContains allowed columnName
    | none => !policy.requireExplicitAllowlist

/-- `Policy.column_mask`: the table's own list before the wildcard list. -/
def Policy.columnMask (policy : Policy) (tableName columnName : String) : Option ColumnMask :=
  let named (masks : Option (List ColumnMask)) : Option ColumnMask :=
    masks.bind fun list => list.find? fun mask => casefold mask.column == casefold columnName
  (named (ciLookup policy.columnMasks tableName)).orElse
    fun _ => named (ciLookup policy.columnMasks "*")

/-- `WritePolicy.table_writable`. -/
def WritePolicy.tableWritable (policy : WritePolicy) (tableName : String) : Bool :=
  policy.enabled && ciContains policy.allowedTables tableName

/-- `WritePolicy.operation_allowed`. -/
def WritePolicy.operationAllowed (policy : WritePolicy) (op : WriteOp) : Bool :=
  policy.enabled && policy.allowedOperations.contains op

/-- `WritePolicy.write_column_allowed`. -/
def WritePolicy.writeColumnAllowed (policy : WritePolicy) (tableName columnName : String) : Bool :=
  !ciContains ((ciLookup policy.deniedWriteColumns tableName).getD [] ++
    (ciLookup policy.deniedWriteColumns "*").getD []) columnName

section Caseless

variable {first second : String}

theorem ciLookup_congr {α : Type} (mapping : List (String × List α))
    (same : casefold first = casefold second) : ciLookup mapping first = ciLookup mapping second := by
  simp only [ciLookup, same]

theorem ciContains_congr (names : List String) (same : casefold first = casefold second) :
    ciContains names first = ciContains names second := by
  simp only [ciContains, same]

/-- A table rule does not depend on the spelling of the name. -/
theorem Policy.tableAllowed_congr (policy : Policy) (same : casefold first = casefold second) :
    policy.tableAllowed first = policy.tableAllowed second := by
  simp only [tableAllowed, ciContains_congr _ same]

/-- A column rule does not depend on the spelling of the names. -/
theorem Policy.columnAllowed_congr (policy : Policy) {column other : String}
    (same : casefold first = casefold second) (sameColumn : casefold column = casefold other) :
    policy.columnAllowed first column = policy.columnAllowed second other := by
  simp only [columnAllowed, ciLookup_congr _ same, ciContains_congr _ sameColumn]

/-- A mask does not depend on the spelling of the names. -/
theorem Policy.columnMask_congr (policy : Policy) {column other : String}
    (same : casefold first = casefold second) (sameColumn : casefold column = casefold other) :
    policy.columnMask first column = policy.columnMask second other := by
  simp only [columnMask, ciLookup_congr _ same, sameColumn]

end Caseless

/-- The canonical spelling of each table key: the first one met. -/
def canonicalKeys {α : Type} (keyPreference : List (String × List α)) : List (String × String) :=
  keyPreference.foldl (fun canonical entry =>
    if (dictGet canonical (casefold entry.1)).isSome then canonical
    else canonical ++ [(casefold entry.1, entry.1)]) []

/-- `Policy._merge_table_keyed`: table-keyed lists united under one spelling. -/
def mergeTableKeyed {α : Type} (mappingsInOrder keyPreference : List (String × List α)) :
    List (String × List α) :=
  mappingsInOrder.foldl (fun merged entry =>
    let key := (dictGet (canonicalKeys keyPreference) (casefold entry.1)).getD entry.1
    dictSet merged key ((dictGet merged key).getD [] ++ entry.2)) []

/-- `Policy.for_purpose`: the policy with a purpose's rules added. -/
def Policy.forPurpose (policy : Policy) (purpose : Option String) : Policy :=
  match purpose.bind fun name => dictGet policy.purposePolicies name with
  | none => policy
  | some delta =>
      { policy with
        deniedTables := policy.deniedTables ++ delta.deniedTables
        deniedColumns := mergeTableKeyed (policy.deniedColumns ++ delta.deniedColumns)
          (policy.deniedColumns ++ delta.deniedColumns)
        mandatoryRowFilters := policy.mandatoryRowFilters ++ delta.mandatoryRowFilters
        columnMasks := mergeTableKeyed (delta.columnMasks ++ policy.columnMasks)
          (policy.columnMasks ++ delta.columnMasks) }

end QueryGate
