import QueryGate.Validation.Connections

/-! # Complexity caps

The size and shape rules of `validation/policy_validation.py`: caps summed over
the whole scope tree, and the caps that bound one scope.
-/

namespace QueryGate

open Foundation

/-- A refusal with a policy violation. -/
def deny (bad : Bool) (message : String) : Gate Unit :=
  refuse bad (policyViolationError message)

@[simp] theorem deny_eq_ok_iff {bad : Bool} {message : String} {result : Unit} :
    deny bad message = .ok result ↔ bad = false :=
  refuse_eq_ok_iff

/-- The sum of a per-scope count. -/
def totalOver (count : StructuredQuery → Nat) (scopes : List StructuredQuery) : Int :=
  ((scopes.map count).sum : Nat)

def scopeWherePredicateCount (query : StructuredQuery) : Nat :=
  (optionPredicates query.where_).length

def scopeHavingPredicateCount (query : StructuredQuery) : Nat :=
  (optionPredicates query.having).length

def scopeJoinConditionPredicateCount (query : StructuredQuery) : Nat :=
  (iterJoinConditionPredicates query).length

def scopeCaseConditionPredicateCount (query : StructuredQuery) : Nat :=
  ((iterScopeCaseConditions query).flatMap iterWherePredicates).length

/-- `_scope_windows`: the window projections of one scope. -/
def scopeWindows (query : StructuredQuery) : List WindowCall :=
  query.select.filterMap fun
    | .window call _ => some call
    | _ => none

def scopeExpressionNodeCount (query : StructuredQuery) : Nat :=
  ((iterScopeExpressions query).flatMap iterExpressionNodes).length

/-- The window call of an expression node. -/
def Expression.window? : Expression → Option WindowCall
  | .window call => some call
  | _ => none

/-- The window operands of an expression, at any depth. -/
def expressionWindows (expr : Expression) : List WindowCall :=
  (iterExpressionNodes expr).filterMap Expression.window?

/-- `str.replace('_', ' ')` on a position's spelling. -/
def ExpressionPosition.words : ExpressionPosition → String
  | .projection => "projection"
  | .aggregateArg => "aggregate arg"
  | .whereOrHaving => "where or having"
  | .joinCondition => "join condition"

/-- The window rule on one positioned expression. -/
def checkWindowPosition (entry : ExpressionPosition × Expression) : Gate Unit := do
  let windows := expressionWindows entry.2
  deny (!windows.isEmpty && entry.1 != .projection)
    (s!"a window function is not allowed in a {entry.1.words} — " ++
      "a window is evaluated after WHERE/GROUP BY, so SQL permits one only " ++
      "in a projection; filter on it by projecting it in one query and " ++
      "filtering that result in a second")
  deny (windows.any fun call => call.arg.any fun arg => !(expressionWindows arg).isEmpty)
    ("a window function cannot be nested inside another window's " ++
      "argument — no dialect allows it; project the inner window in " ++
      "one query and window over that result in a second")

/-- `_reject_windows_outside_projections`. -/
def rejectWindowsOutsideProjections (query : StructuredQuery) : Gate Unit := do
  checkAll checkWindowPosition (iterScopeExpressionsByPosition query)
  deny ((iterScopeExpressions query).any (fun expr => !(expressionWindows expr).isEmpty) &&
      isAggregateScope query)
    ("a window function cannot be combined with group_by or aggregate " ++
      "select items — a window projects a value per row, so aggregate in " ++
      "one query and window over that result in a second query")

/-- The suffix a message carries once the query has nested scopes. -/
def totalSuffix (total : Int) (nested : Bool) : String :=
  if nested then s!" (total {total} across the query and its subqueries)" else ""

/-- `_check_predicate_count`. -/
def checkPredicateCount (total : Int) (policy : Policy) (label : String) : Gate Unit :=
  deny (policy.maxWherePredicates < total)
    s!"{label} predicate count {total} exceeds max of {policy.maxWherePredicates}"

/-- The top-n partition columns of a scope. -/
def scopeTopNPartition (query : StructuredQuery) : Nat :=
  (query.topN.toList.flatMap TopNSpec.partitionBy).length

/-- The partition columns of a scope's window projections. -/
def scopeWindowPartition (query : StructuredQuery) : Nat :=
  ((scopeWindows query).flatMap fun call => call.over_.partitionBy).length

/-- The rows per partition a scope's top-n keeps. -/
def scopeTopNRows (query : StructuredQuery) : Int :=
  match query.topN with
  | some spec => spec.n
  | none => 0

/-- The arms of a scope's set operation, the carrying query counted. -/
def scopeSetOpArms (query : StructuredQuery) : Nat :=
  match query.setOp with
  | some spec => 1 + spec.arms.length
  | none => 0

/-- `_enforce_tree_wide_caps`. -/
def enforceTreeWideCaps (scopes : List StructuredQuery) (policy : Policy) : Gate Unit := do
  let nested := decide (1 < scopes.length)
  let columns := totalOver (fun query => query.select.length) scopes
  deny (policy.maxSelectColumns < columns)
    s!"select exceeds max of {policy.maxSelectColumns} items{totalSuffix columns nested}"
  let joins := totalOver (fun query => query.joins.length) scopes
  deny (policy.maxJoins < joins)
    s!"joins exceeds max of {policy.maxJoins}{totalSuffix joins nested}"
  let groups := totalOver (fun query => query.groupBy.length) scopes
  deny (policy.maxGroupBy < groups)
    s!"group_by exceeds max of {policy.maxGroupBy} columns{totalSuffix groups nested}"
  checkPredicateCount (totalOver scopeWherePredicateCount scopes) policy "where"
  checkPredicateCount (totalOver scopeHavingPredicateCount scopes) policy "having"
  checkPredicateCount (totalOver scopeCaseConditionPredicateCount scopes) policy "case condition"
  checkPredicateCount (totalOver scopeJoinConditionPredicateCount scopes) policy "join condition"
  let nodes := totalOver scopeExpressionNodeCount scopes
  deny (policy.maxExpressionNodes < nodes)
    (s!"expression node count {nodes} exceeds max of {policy.maxExpressionNodes}" ++
      totalSuffix nodes nested)
  let windows := totalOver (fun query => (scopeWindows query).length) scopes
  deny (policy.maxWindowSpecs < windows)
    (s!"window function count {windows} exceeds max_window_specs of " ++
      s!"{policy.maxWindowSpecs}{totalSuffix windows nested}")
  let partitions := totalOver scopeTopNPartition scopes + totalOver scopeWindowPartition scopes
  deny (policy.maxPartitionBy < partitions)
    (s!"partition_by exceeds max of {policy.maxPartitionBy} columns" ++
      totalSuffix partitions nested)
  let rows := (scopes.map scopeTopNRows).sum
  deny (policy.maxTopN < rows)
    s!"top_n.n exceeds max of {policy.maxTopN}{totalSuffix rows nested}"
  let arms := totalOver scopeSetOpArms scopes
  deny (policy.maxSetOpArms < arms)
    (s!"set operation combines {arms} arms, exceeding max_set_op_arms of " ++
      s!"{policy.maxSetOpArms}" ++
      (if policy.maxSetOpArms < 2 then " (set operations are disabled for this connection)"
        else totalSuffix arms nested))

/-- `_check_where_depth`. -/
def checkWhereDepth (policy : Policy) (label : String) (node : WhereNode) : Gate Unit :=
  deny (policy.maxWhereDepth < (whereDepth node : Int))
    s!"{label} nesting depth {whereDepth node} exceeds max {policy.maxWhereDepth}"

/-- `_check_in_list_size`. Parsing admits only lists under `in` and `not_in`. -/
def checkInListSize (policy : Policy) (pred : Predicate) : Gate Unit :=
  let target := match pred.col, pred.colFn with
    | some col, _ => col
    | none, some call => call.fn.value ++ "(...)"
    | none, none => "expression"
  match pred.value.listItems? with
  | some items =>
      deny (pred.op.isMembership && decide (policy.maxInListSize < (items.length : Int)))
        (s!"{pred.op.value} list for {quoted target} exceeds max_in_list_size of " ++
          s!"{policy.maxInListSize} items")
  | none => .ok ()

/-- `enforce_predicate_shape_caps`: the three shape caps on one predicate tree. -/
def enforcePredicateShapeCaps (node : WhereNode) (policy : Policy) (label : String) : Gate Unit := do
  checkWhereDepth policy label node
  checkPredicateCount (iterWherePredicates node).length policy label
  checkAll (checkInListSize policy) (iterWherePredicates node)

/-- The bounds of `_validate_scope` on one expression node. -/
def checkExpressionNode (policy : Policy) : Expression → Gate Unit
  | .case when_ _ =>
      deny (policy.maxCaseBranches < (when_.length : Int))
        s!"case when branches exceeds max of {policy.maxCaseBranches}"
  | .dateAdd _ unit amount =>
      deny (policy.maxIntervalDays < (intervalMagnitudeDays unit amount : Int))
        (s!"date_add interval of {amount} {unit.value}(s) reaches " ++
          s!"{intervalMagnitudeDays unit amount} days, exceeding max_interval_days of " ++
          s!"{policy.maxIntervalDays}")
  | _ => .ok ()

/-- The bounds of `_validate_scope` on one expression tree. -/
def checkExpression (policy : Policy) (expr : Expression) : Gate Unit := do
  deny (policy.maxExpressionDepth < (expressionDepth expr : Int))
    s!"expression nesting depth {expressionDepth expr} exceeds max {policy.maxExpressionDepth}"
  checkAll (checkExpressionNode policy) (iterExpressionNodes expr)

/-- The row distances of a window: its lag or lead offset and its frame offsets. -/
def WindowCall.offsets (call : WindowCall) : List Int :=
  call.offset.toList ++ call.over_.frame.toList.flatMap fun frame =>
    frame.start.offset.toList ++ frame.stop.offset.toList

/-- The bounds of `_validate_scope` on one window projection. -/
def checkWindow (policy : Policy) (call : WindowCall) : Gate Unit := do
  checkAll (fun offset =>
      deny (policy.maxWindowFrameOffset < offset)
        (s!"window row offset {offset} exceeds max_window_frame_offset of " ++
          s!"{policy.maxWindowFrameOffset}"))
    call.offsets
  deny (policy.minGroupSize.isSome && call.isAggregateWindow)
    (s!"aggregate window function {quoted call.fn.value} is not allowed when " ++
      "min_group_size is set: the k-anonymity floor is enforced on grouped " ++
      "results, and a window aggregate has no group to apply it to. Use an " ++
      "aggregate query with group_by, or a ranking/offset window " ++
      "(row_number/rank/dense_rank/ntile/lag/lead/first_value/last_value).")

/-- The cross-join gate on one join. -/
def checkCrossJoin (policy : Policy) (join : JoinSpec) : Gate Unit :=
  deny (!policy.allowCrossJoin && join.type == .cross)
    (s!"cross join to {quoted join.table} is not allowed under the active policy " ++
      "(allow_cross_join is off): a cross join multiplies its inputs " ++
      "row-for-row. Use an inner/left join with a condition, or ask an " ++
      "operator to enable allow_cross_join for this connection.")

/-- The shape rules of `_validate_scope`, before any name is looked at. -/
def checkScopeShape (policy : Policy) (query : StructuredQuery) : Gate Unit := do
  rejectWindowsOutsideProjections query
  checkAll (checkExpression policy) (iterScopeExpressions query)
  checkAll (checkWindow policy) (scopeWindows query)
  checkAll (checkCrossJoin policy) query.joins
  checkAll (checkWhereDepth policy "join condition") (iterJoinConditions query)
  checkAll (checkWhereDepth policy "case condition") (iterScopeCaseConditions query)
  checkAll (checkWhereDepth policy "where") query.where_.toList
  checkAll (checkWhereDepth policy "having") query.having.toList
  checkAll (checkInListSize policy)
    (iterJoinConditionPredicates query ++
      (iterScopeCaseConditions query).flatMap iterWherePredicates ++
      iterWhereAndHavingPredicates query)

end QueryGate
