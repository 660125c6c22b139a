import QueryGate.Validation.PolicyCaps

/-! # Policy validation

`validatePolicy` and the rules it composes: the WITH rules, the subquery rules,
the correlation rules, and the per-scope table, column and mask rules. The
source tells scopes apart by object identity; a parsed request is a tree, so a
scope's position does the same here.
-/

namespace QueryGate

open Foundation

/-- The parts of a request that do not change during its validation. -/
structure RequestContext where
  connectionId : String
  principal : Option Principal
  resolver : ConnectionResolver

/-- A request context with one connection and no principal. -/
def soleConnection : RequestContext where
  connectionId := "main"
  principal := none
  resolver := fun _ _ => .ok (⟨"main", .postgresql, none, none⟩, {})

/-- The physical table behind a name in a scope: its own map, else the name. -/
def physicalTable (query : StructuredQuery) (table : String) : String :=
  (dictGet (effectiveNameMap query) (casefold table)).getD table

/-- `referenced_tables`, without repetitions removed. -/
def referencedTables (query : StructuredQuery) (cteNames : List String) : Gate (List String) := do
  let tables ← mapAll (fun ref => do
      let (table, _) ← parseColumnRef ref.ref
      pure (physicalTable query table))
    (iterColumnRefs query)
  pure ((query.fromTable :: query.joins.map JoinSpec.table ++ tables).filter fun table =>
    !cteNames.contains (casefold table))

/-- The connections a physical table is reached through in a scope. -/
def physicalConnections (query : StructuredQuery) (tableConnection : TableConnections)
    (connectionId table : String) : List String :=
  let hits := (effectiveNameMap query).filter fun entry => entry.2 == table
  if hits.isEmpty then [connectionId]
  else hits.map fun entry => tableConnectionId tableConnection entry.1 connectionId

/-- The table rule of `_validate_scope` on one table under one connection. -/
def checkTableAllowed (context : RequestContext) (policy : Policy) (table tableCx : String) :
    Gate Unit := do
  let candidates ← resolveTablePolicies tableCx context.connectionId policy context.principal
    context.resolver
  deny (!candidates.all fun candidate => candidate.tableAllowed table)
    s!"Table {quoted table} is not accessible under the active policy"

/-- The column rule of `_validate_scope` on one reference. -/
def checkColumnAllowed (context : RequestContext) (policy : Policy) (cteNames : List String)
    (query : StructuredQuery) (tableConnection : TableConnections) (columnRef : ColumnRef) :
    Gate Unit := do
  let (table, column) ← parseColumnRef columnRef.ref
  let physical := physicalTable query table
  if cteNames.contains (casefold physical) then
    .ok ()
  else do
    let candidates ← resolveTablePolicies
      (tableConnectionId tableConnection table context.connectionId) context.connectionId policy
      context.principal context.resolver
    deny (!candidates.all fun candidate => candidate.columnAllowed physical column)
      s!"Column {quoted columnRef.ref} is not accessible under the active policy"

/-- `_column_mask_anywhere`. -/
def columnMaskAnywhere (table column : String) (candidates : List Policy) : Option ColumnMask :=
  candidates.findSome? fun candidate => candidate.columnMask table column

/-- The mask rule of `_validate_scope` on one reference. -/
def checkMaskPosition (context : RequestContext) (policy : Policy) (cteNames : List String)
    (query : StructuredQuery) (tableConnection : TableConnections) (columnRef : ColumnRef) :
    Gate Unit :=
  if columnRef.position = .selectProjectionBare then
    .ok ()
  else do
    let (table, column) ← parseColumnRef columnRef.ref
    let physical := physicalTable query table
    if cteNames.contains (casefold physical) then
      .ok ()
    else do
      let candidates ← resolveTablePolicies
        (tableConnectionId tableConnection table context.connectionId) context.connectionId
        policy context.principal context.resolver
      deny (columnMaskAnywhere physical column candidates).isSome
        (s!"Column {quoted columnRef.ref} is masked by policy and can only appear in the select " ++
          "projection, not in filters, joins, ordering, grouping, or nested in a function")

/-- `_validate_scope`. -/
def validateScope (context : RequestContext) (policy : Policy) (cteNames : List String)
    (scopeConnections : ScopeConnections) (query : StructuredQuery) : Gate Unit := do
  checkScopeShape policy query
  let tables ← referencedTables query cteNames
  let tableConnection := scopeConnections query
  checkAll (fun table =>
      checkAll (checkTableAllowed context policy table)
        (physicalConnections query tableConnection context.connectionId table))
    tables
  checkAll (checkColumnAllowed context policy cteNames query tableConnection)
    (iterColumnRefs query)
  checkAll (checkMaskPosition context policy cteNames query tableConnection)
    (iterColumnRefs query)

/-- The predicate carries a subquery. -/
def Predicate.hasSubquery (pred : Predicate) : Bool :=
  pred.valueSubquery.isSome || pred.existsSubquery.isSome

/-- The HAVING rule of `_validate_subquery_constraints` on one predicate. -/
def checkHavingSubquery (pred : Predicate) : Gate Unit := do
  deny (pred.valueSubquery.isSome && pred.op.isMembership)
    "IN (subquery) is only supported in a WHERE clause, not HAVING (item 97)"
  deny pred.existsSubquery.isSome
    ("EXISTS is only supported in a WHERE clause, not HAVING — it tests " ++
      "rows, and HAVING filters groups (item 106)")

/-- A masked column may not be the output of a nested scope. -/
def checkUnmasked (policy : Policy) (scope : StructuredQuery) (message : String → String)
    (ref : String) : Gate Unit := do
  let (table, column) ← parseColumnRef ref
  deny (policy.columnMask (physicalTable scope table) column).isSome (message ref)

/-- The rules of `_validate_subquery_constraints` on one scope. -/
def checkSubqueryConstraints (policy : Policy) (entry : Nat × StructuredQuery) : Gate Unit := do
  let scope := entry.2
  checkAll checkHavingSubquery (optionPredicates scope.having)
  checkAll (fun pred => deny pred.hasSubquery
      ("a subquery is only supported in a WHERE clause, not a CASE " ++
        "condition (items 97/106)"))
    ((iterScopeCaseConditions scope).flatMap iterWherePredicates)
  checkAll (fun pred => deny pred.hasSubquery
      ("a subquery is only supported in a WHERE clause, not a join " ++
        "condition (items 97/106)"))
    (iterJoinConditionPredicates scope)
  if entry.1 = 0 then
    .ok ()
  else
    checkAll (checkUnmasked policy scope fun ref =>
        s!"Column {quoted ref} is masked by policy and cannot be a subquery's " ++
          "IN (subquery) output")
      (scope.select.head?.toList.flatMap selectItemColumnRefs)

/-- The names the policy has a rule about, case-folded. -/
def Policy.governedNames (policy : Policy) : List String :=
  (policy.mandatoryRowFilters.map MandatoryRowFilter.table ++
    policy.columnMasks.map Prod.fst ++ policy.deniedTables ++ policy.allowedTables ++
    policy.deniedColumns.map Prod.fst ++ policy.allowedColumns.map Prod.fst).map casefold

/-- The forward-reference rule, over the blocks declared so far. -/
def checkCteOrder (cteNames : List String) : List String → List CteSpec → Gate Unit
  | _, [] => .ok ()
  | declaredSoFar, spec :: rest => do
      let later := (cteSourceNames spec.query).filter fun source =>
        cteNames.contains source && !declaredSoFar.contains source
      deny (!later.isEmpty)
        (s!"cte {quoted spec.name} references {quoted (later.headD spec.name)}, which is " ++
          "declared later or is itself — a cte may only read an EARLIER one, so a recursive " ++
          "cte is not expressible.")
      checkCteOrder cteNames (casefold spec.name :: declaredSoFar) rest

/-- `_validate_cte_constraints`. -/
def validateCteConstraints (query : StructuredQuery) (entries : List (Nat × StructuredQuery))
    (policy : Policy) (cteNames : List String) : Gate Unit := do
  deny (policy.maxCteCount < (query.ctes.length : Int)) s!"ctes exceeds max of {policy.maxCteCount}"
  -- The root is the first scope the walk yields.
  deny (entries.tail.any fun entry => !entry.2.ctes.isEmpty)
    ("only the top-level query may declare `ctes` — a set_op arm, an " ++
      "IN (subquery) and another cte's query may not. Declare every block " ++
      "once at the top level; each is visible to the whole statement.")
  if cteNames.isEmpty then
    .ok ()
  else do
    checkCteOrder cteNames [] query.ctes
    checkAll (fun spec => deny (policy.governedNames.contains (casefold spec.name))
        (s!"cte name {quoted spec.name} is also the name of a table this connection's " ++
          "policy has a rule for — a cte shadows that name, which would make the " ++
          "rule unverifiable here. Rename the cte."))
      query.ctes
    checkAll (fun spec => deny (!(scopeSourceNames entries).contains (casefold spec.name))
        (s!"cte {quoted spec.name} is declared but never referenced — reference it in " ++
          "`from` or a join's `table`, or remove it."))
      query.ctes
    checkAll (fun spec =>
        checkAll (checkUnmasked policy spec.query fun ref =>
            s!"Column {quoted ref} is masked by policy and cannot be projected by " ++
              s!"cte {quoted spec.name} — a cte's rows feed the rest of the query, " ++
              "where a masked value could be filtered or joined on.")
          (spec.query.select.flatMap selectItemColumnRefs))
      query.ctes

/-- The scopes that are not subqueries: the root, WITH bodies and arms. -/
def nonSubqueryScopes (query : StructuredQuery) : List StructuredQuery :=
  query :: (scopesOf query).flatMap fun scope => scope.ctes.map CteSpec.query ++ scope.arms

/-- A declared reference is one the subquery uses. -/
def checkCorrelationUsed (correlation : Correlation) : Gate Unit :=
  deny (!((iterColumnRefs correlation.child).map fun used => casefold used.ref).contains
      (casefold correlation.ref))
    (s!"correlate {quoted correlation.ref} is declared but never referenced by the " ++
      "subquery — use it in the subquery, or remove it.")

/-- The access rules on one declared reference, against the enclosing scope. -/
def checkCorrelationAllowed (context : RequestContext) (policy : Policy)
    (scopeConnections : ScopeConnections) (correlation : Correlation) : Gate Unit := do
  let (table, column) ← parseColumnRef correlation.ref
  let physical := physicalTable correlation.parent table
  let candidates ← resolveTablePolicies
    (tableConnectionId (scopeConnections correlation.parent) table context.connectionId)
    context.connectionId policy context.principal context.resolver
  deny (!candidates.all fun candidate => candidate.tableAllowed physical)
    s!"Table {quoted physical} is not accessible under the active policy"
  deny (!candidates.all fun candidate => candidate.columnAllowed physical column)
    s!"Column {quoted correlation.ref} is not accessible under the active policy"
  deny (columnMaskAnywhere physical column candidates).isSome
    (s!"Column {quoted correlation.ref} is masked by policy and cannot be used as a " ++
      "correlated reference — its raw value would be compared inside the subquery")

/-- `_validate_correlation`. -/
def validateCorrelation (context : RequestContext) (query : StructuredQuery) (policy : Policy)
    (scopeConnections : ScopeConnections) : Gate Unit := do
  let correlations := iterCorrelations query
  checkAll (fun scope => deny (!scope.correlate.isEmpty)
      ("`correlate` is only meaningful on a subquery (an exists_subquery or " ++
        "value_subquery) — the top-level query, a cte body and a set_op arm " ++
        "have no enclosing scope to correlate to."))
    (nonSubqueryScopes query)
  deny (policy.maxCorrelatedRefs < (correlations.length : Int))
    (s!"correlated references exceed max of {policy.maxCorrelatedRefs}" ++
      (if 0 < correlations.length then
        s!" (total {correlations.length} across the query and its subqueries)" else ""))
  checkAll checkCorrelationUsed correlations
  checkAll (checkCorrelationAllowed context policy scopeConnections) correlations

/-- `resolve_purpose_policy`. -/
def resolvePurposePolicy (query : StructuredQuery) (policy : Policy) : Gate Policy :=
  if policy.allowedPurposes.isEmpty then .ok policy
  else
    match query.purpose with
    | none =>
        .error (policyViolationError
          ("this connection requires a declared purpose (one of " ++
            s!"{quotedList policy.allowedPurposes}); none was given"))
    | some purpose => do
        deny (!policy.allowedPurposes.contains purpose)
          (s!"purpose {quoted purpose} is not permitted on this connection " ++
            s!"(allowed: {quotedList policy.allowedPurposes})")
        pure (policy.forPurpose (some purpose))

/-- The greatest nesting depth of the scopes. -/
def maxScopeDepth (entries : List (Nat × StructuredQuery)) : Nat :=
  (entries.map Prod.fst).foldl max 0

/-- `validate_structural_caps`. -/
def validateStructuralCaps (query : StructuredQuery) (policy : Policy) : Gate Unit := do
  let entries := iterQueryScopes query 0
  validateCteConstraints query entries policy (declaredCteNames query)
  deny (policy.maxSubqueryDepth < (maxScopeDepth entries : Int))
    (s!"subquery nesting depth {maxScopeDepth entries} exceeds max_subquery_depth of " ++
      s!"{policy.maxSubqueryDepth}")

/-- The rules of `validate_policy` under the purpose-narrowed policy. -/
def validateNarrowed (context : RequestContext) (query : StructuredQuery) (policy : Policy)
    (scopeConnections : ScopeConnections) : Gate Unit := do
  checkAll (checkSubqueryConstraints policy) (iterQueryScopes query 0)
  validateCorrelation context query policy scopeConnections
  enforceTreeWideCaps (scopesOf query) policy
  checkAll (validateScope context policy (declaredCteNames query) scopeConnections)
    (scopesOf query)

/-- The table-to-connection maps `validate_policy` works with: the ones passed in,
else the ones a passed resolver yields, else none at all. -/
def policyConnections (context : RequestContext) (query : StructuredQuery)
    (scopeConnections : Option ScopeConnections) (snapshot : Option ConnectionResolver) :
    Gate ScopeConnections :=
  match scopeConnections, snapshot with
  | some connections, _ => .ok connections
  | none, some resolver =>
      resolveScopeConnections query context.connectionId context.principal resolver
  | none, none => .ok fun _ => []

/-- `validate_policy`: the effective policy, or the first rule violated. A passed
`snapshot` resolver takes the place of the live one. -/
def validatePolicy (context : RequestContext) (query : StructuredQuery) (policy : Policy)
    (scopeConnections : Option ScopeConnections) (snapshot : Option ConnectionResolver) :
    Gate Policy := do
  deny (!policy.enabled) s!"Connection {quoted context.connectionId} is disabled by policy"
  let narrowed ← resolvePurposePolicy query policy
  validateStructuralCaps query narrowed
  let connections ← policyConnections context query scopeConnections snapshot
  validateNarrowed { context with resolver := snapshot.getD context.resolver } query narrowed
    connections
  pure narrowed

end QueryGate
