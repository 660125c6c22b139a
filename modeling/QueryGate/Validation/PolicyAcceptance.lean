import QueryGate.Validation.ScopeCoverage

/-! # What policy acceptance says

`PolicyAccepted` states once what a passing `validatePolicy` establishes, rule by
rule; every result about accepted queries starts from its fields. `TreeWideCaps`
does the same for the caps summed over the scope tree.
-/

namespace QueryGate

open Foundation

/-- The caps summed over a list of queries. -/
structure TreeWideCaps (policy : Policy) (queries : List StructuredQuery) : Prop where
  columns : totalOver (fun query => query.select.length) queries ≤ policy.maxSelectColumns
  joins : totalOver (fun query => query.joins.length) queries ≤ policy.maxJoins
  groups : totalOver (fun query => query.groupBy.length) queries ≤ policy.maxGroupBy
  wherePredicates : totalOver scopeWherePredicateCount queries ≤ policy.maxWherePredicates
  havingPredicates : totalOver scopeHavingPredicateCount queries ≤ policy.maxWherePredicates
  casePredicates : totalOver scopeCaseConditionPredicateCount queries ≤ policy.maxWherePredicates
  joinPredicates : totalOver scopeJoinConditionPredicateCount queries ≤ policy.maxWherePredicates
  expressionNodes : totalOver scopeExpressionNodeCount queries ≤ policy.maxExpressionNodes
  windows : totalOver (fun query => (scopeWindows query).length) queries ≤ policy.maxWindowSpecs
  partitions : totalOver scopeTopNPartition queries + totalOver scopeWindowPartition queries ≤
    policy.maxPartitionBy
  topN : (queries.map scopeTopNRows).sum ≤ policy.maxTopN
  setOpArms : totalOver scopeSetOpArms queries ≤ policy.maxSetOpArms

theorem treeWideCaps_of_enforced {scopes : List StructuredQuery} {policy : Policy}
    (enforced : enforceTreeWideCaps scopes policy = .ok ()) : TreeWideCaps policy scopes := by
  simp only [enforceTreeWideCaps, checkPredicateCount, seq_eq_ok_iff, deny_eq_ok_iff,
    decide_eq_false_iff_not, not_lt] at enforced
  obtain ⟨columns, joins, groups, wheres, havings, cases_, joinPredicates, nodes, windows,
    partitions, rows, arms⟩ := enforced
  exact ⟨columns, joins, groups, wheres, havings, cases_, joinPredicates, nodes, windows,
    partitions, rows, arms⟩

/-- A tree-wide sum does not depend on the order of the scopes. -/
theorem totalOver_perm {first second : List StructuredQuery} (perm : first.Perm second)
    (count : StructuredQuery → Nat) : totalOver count first = totalOver count second := by
  unfold totalOver
  rw [(perm.map count).sum_eq]

theorem TreeWideCaps.perm {policy : Policy} {first second : List StructuredQuery}
    (caps : TreeWideCaps policy first) (perm : first.Perm second) : TreeWideCaps policy second where
  columns := totalOver_perm perm _ ▸ caps.columns
  joins := totalOver_perm perm _ ▸ caps.joins
  groups := totalOver_perm perm _ ▸ caps.groups
  wherePredicates := totalOver_perm perm _ ▸ caps.wherePredicates
  havingPredicates := totalOver_perm perm _ ▸ caps.havingPredicates
  casePredicates := totalOver_perm perm _ ▸ caps.casePredicates
  joinPredicates := totalOver_perm perm _ ▸ caps.joinPredicates
  expressionNodes := totalOver_perm perm _ ▸ caps.expressionNodes
  windows := totalOver_perm perm _ ▸ caps.windows
  partitions := by
    rw [← totalOver_perm perm, ← totalOver_perm perm]
    exact caps.partitions
  topN := (perm.map scopeTopNRows).sum_eq ▸ caps.topN
  setOpArms := totalOver_perm perm _ ▸ caps.setOpArms

/-- The context validation runs in: a passed snapshot resolver replaces the live
one. -/
def RequestContext.withSnapshot (context : RequestContext) (snapshot : Option ConnectionResolver) :
    RequestContext :=
  { context with resolver := snapshot.getD context.resolver }

/-- What a passing `validatePolicy` establishes about a query, under the
effective policy and the table-to-connection maps it worked with. -/
structure PolicyAccepted (context : RequestContext) (query : StructuredQuery)
    (policy effective : Policy) (connections : ScopeConnections) : Prop where
  narrowed : resolvePurposePolicy query policy = .ok effective
  structural : validateStructuralCaps query effective = .ok ()
  subqueries : ∀ entry ∈ iterQueryScopes query 0, checkSubqueryConstraints effective entry = .ok ()
  correlation : validateCorrelation context query effective connections = .ok ()
  caps : TreeWideCaps effective (scopesOf query)
  scopes : ∀ scope ∈ scopesOf query,
    validateScope context effective (declaredCteNames query) connections scope = .ok ()

/-- Acceptance by `validatePolicy`, rule by rule. -/
theorem validatePolicy_accepted {context : RequestContext} {query : StructuredQuery}
    {policy effective : Policy} {scopeConnections : Option ScopeConnections}
    {snapshot : Option ConnectionResolver}
    (accepted : validatePolicy context query policy scopeConnections snapshot = .ok effective) :
    ∃ connections, policyConnections context query scopeConnections snapshot = .ok connections ∧
      PolicyAccepted (context.withSnapshot snapshot) query policy effective connections := by
  simp only [validatePolicy, bind_eq_ok_iff] at accepted
  obtain ⟨_, _, narrowed, purposed, _, structural, connections, resolved, _, rules, returned⟩ :=
    accepted
  cases returned
  simp only [validateNarrowed, seq_eq_ok_iff, checkAll_eq_ok_iff] at rules
  obtain ⟨subqueries, correlation, caps, scopes⟩ := rules
  exact ⟨connections, resolved, purposed, structural, subqueries, correlation,
    treeWideCaps_of_enforced caps, scopes⟩

/-- Purpose narrowing only ever applies `Policy.forPurpose`. -/
theorem resolvePurposePolicy_eq {query : StructuredQuery} {policy effective : Policy}
    (narrowed : resolvePurposePolicy query policy = .ok effective) :
    ∃ purpose, effective = policy.forPurpose purpose := by
  unfold resolvePurposePolicy at narrowed
  split at narrowed
  · cases narrowed
    exact ⟨none, rfl⟩
  · split at narrowed
    · cases narrowed
    · rw [bind_eq_ok_iff] at narrowed
      obtain ⟨_, _, returned⟩ := narrowed
      cases returned
      exact ⟨_, rfl⟩

/-- The rules of a scope hold for every scope of an accepted query, and none of
them hides a subquery. -/
theorem PolicyAccepted.hidesNoSubquery {context : RequestContext} {query : StructuredQuery}
    {policy effective : Policy} {connections : ScopeConnections}
    (accepted : PolicyAccepted context query policy effective connections)
    {scope : StructuredQuery} (member : scope ∈ scopesOf query) : HidesNoSubquery scope := by
  obtain ⟨entry, walked, rfl⟩ := List.mem_map.mp member
  exact hidesNoSubquery_of_checked (accepted.subqueries entry walked)

end QueryGate
