import QueryGate.Validation.Correlation

/-! # The access rules of an accepted query

What the table, column and mask rules of `_validate_scope` and
`_validate_correlation` establish about the request's own policy, which is among
the policies consulted for every table.
-/

namespace QueryGate

open Foundation

section Rules

variable {context : RequestContext} {query : StructuredQuery} {policy effective : Policy}
  {connections : ScopeConnections} {scope : StructuredQuery}

/-- The policy of the request is always among those consulted for a table. -/
theorem policy_mem_resolveTablePolicies {tableCx connectionId : String} {principal : Option Principal}
    {resolver : ConnectionResolver} {candidates : List Policy}
    (resolved : resolveTablePolicies tableCx connectionId policy principal resolver =
      .ok candidates) : policy ∈ candidates := by
  unfold resolveTablePolicies at resolved
  split at resolved
  · cases resolved
    exact List.mem_cons_self ..
  · rw [bind_eq_ok_iff] at resolved
    obtain ⟨_, _, returned⟩ := resolved
    cases returned
    exact List.mem_cons_self ..

/-- What `validateScope` checked, rule by rule. -/
theorem PolicyAccepted.scopeRules
    (accepted : PolicyAccepted context query policy effective connections)
    (member : scope ∈ scopesOf query) :
    (∃ tables, referencedTables scope (declaredCteNames query) = .ok tables ∧
      ∀ table ∈ tables, ∀ tableCx ∈ physicalConnections scope (connections scope)
        context.connectionId table, checkTableAllowed context effective table tableCx = .ok ()) ∧
    (∀ ref ∈ iterColumnRefs scope, checkColumnAllowed context effective (declaredCteNames query)
      scope (connections scope) ref = .ok ()) ∧
    ∀ ref ∈ iterColumnRefs scope, checkMaskPosition context effective (declaredCteNames query)
      scope (connections scope) ref = .ok () := by
  have passed := accepted.scopes scope member
  simp only [validateScope, bind_eq_ok_iff] at passed
  obtain ⟨_, _, tables, referenced, _, tablesPassed, _, columnsPassed, masksPassed⟩ := passed
  refine ⟨⟨tables, referenced, fun table inTables => ?_⟩, checkAll_eq_ok_iff.mp columnsPassed,
    checkAll_eq_ok_iff.mp masksPassed⟩
  exact checkAll_eq_ok_iff.mp (checkAll_eq_ok_iff.mp tablesPassed table inTables)

/-- Every physical source of a scope is an allowed table. -/
theorem PolicyAccepted.source_allowed
    (accepted : PolicyAccepted context query policy effective connections)
    (member : scope ∈ scopesOf query) {name physical : String}
    (declared : dictGet (effectiveNameMap scope) name = some physical)
    (notBlock : casefold physical ∉ declaredCteNames query) :
    effective.tableAllowed physical = true := by
  obtain ⟨⟨tables, referenced, allowed⟩, _, _⟩ := accepted.scopeRules member
  have inTables : physical ∈ tables := by
    rw [referencedTables, bind_eq_ok_iff] at referenced
    obtain ⟨refTables, _, returned⟩ := referenced
    cases returned
    refine List.mem_filter.mpr ⟨List.mem_append_left _ (mem_sources_of_declared declared), ?_⟩
    rw [Bool.not_eq_true', ← Bool.not_eq_true, List.contains_iff_mem]
    exact notBlock
  have reached : ∃ tableCx, tableCx ∈ physicalConnections scope (connections scope)
      context.connectionId physical := by
    unfold physicalConnections
    simp only
    split
    · exact ⟨_, List.mem_singleton.mpr rfl⟩
    · rename_i nonempty
      rw [List.isEmpty_iff] at nonempty
      obtain ⟨hit, rest, same⟩ := List.exists_cons_of_ne_nil nonempty
      rw [same]
      exact ⟨_, List.mem_cons_self ..⟩
  obtain ⟨tableCx, inConnections⟩ := reached
  have passed := allowed physical inTables tableCx inConnections
  rw [checkTableAllowed, bind_eq_ok_iff] at passed
  obtain ⟨candidates, resolved, passed⟩ := passed
  rw [deny_eq_ok_iff, Bool.not_eq_false', List.all_eq_true] at passed
  exact passed effective (policy_mem_resolveTablePolicies resolved)

/-- A reference through one of the scope's own sources is an allowed column. -/
theorem PolicyAccepted.column_allowed
    (accepted : PolicyAccepted context query policy effective connections)
    (member : scope ∈ scopesOf query) {ref : ColumnRef} (inRefs : ref ∈ iterColumnRefs scope)
    {table column physical : String} (parsed : parseColumnRef ref.ref = .ok (table, column))
    (declared : dictGet (effectiveNameMap scope) (casefold table) = some physical)
    (notBlock : casefold physical ∉ declaredCteNames query) :
    effective.columnAllowed physical column = true := by
  have passed := (accepted.scopeRules member).2.1 ref inRefs
  rw [checkColumnAllowed, parsed, bind_eq_ok_iff] at passed
  obtain ⟨halves, returned, passed⟩ := passed
  cases returned
  have same : physicalTable scope table = physical := by
    rw [physicalTable, declared]
    rfl
  simp only [same] at passed
  rw [if_neg (fun isBlock => notBlock (List.contains_iff_mem.mp isBlock)), bind_eq_ok_iff] at passed
  obtain ⟨candidates, resolved, passed⟩ := passed
  rw [deny_eq_ok_iff, Bool.not_eq_false', List.all_eq_true] at passed
  exact passed effective (policy_mem_resolveTablePolicies resolved)

/-- A declared outer column is allowed, and unmasked, on the enclosing scope's own
source of that name. -/
theorem PolicyAccepted.correlated_allowed
    (accepted : PolicyAccepted context query policy effective connections)
    {correlation : Correlation} (member : correlation ∈ iterCorrelations query)
    {table column : String} (parsed : parseColumnRef correlation.ref = .ok (table, column)) :
    effective.columnAllowed (physicalTable correlation.parent table) column = true ∧
      effective.columnMask (physicalTable correlation.parent table) column = none := by
  have passed := (accepted.correlations member).2
  rw [checkCorrelationAllowed, parsed, bind_eq_ok_iff] at passed
  obtain ⟨halves, returned, passed⟩ := passed
  cases returned
  rw [bind_eq_ok_iff] at passed
  obtain ⟨candidates, resolved, passed⟩ := passed
  have inCandidates := policy_mem_resolveTablePolicies resolved
  simp only [seq_eq_ok_iff, deny_eq_ok_iff, Bool.not_eq_false', List.all_eq_true] at passed
  obtain ⟨_, allowed, unmasked⟩ := passed
  refine ⟨allowed effective inCandidates, ?_⟩
  rw [Option.isSome_eq_false_iff, Option.isNone_iff_eq_none, columnMaskAnywhere,
    List.findSome?_eq_none_iff] at unmasked
  exact unmasked effective inCandidates

end Rules

/-- The column is itself declared in `correlate`, under a name that the enclosing
scope does not open in turn. -/
def VouchedFor (path : ScopePath) (parent child : StructuredQuery) (table column : String) : Prop :=
  (casefold table, casefold column) ∈ correlatedColumns child ∧ opensOuter path parent table = false

instance (path : ScopePath) (parent child : StructuredQuery) (table column : String) :
    Decidable (VouchedFor path parent child table column) :=
  inferInstanceAs (Decidable (_ ∧ _))

/-- The physical table a name of the scope at a path reads: the one it stands for,
where neither the name's own entry nor that table is a WITH block. -/
structure ReadsTable (query : StructuredQuery) (path : ScopePath) (scope : StructuredQuery)
    (name physical : String) : Prop where
  stands : StandsFor query path scope name physical
  notReplaced : casefold (physicalTable scope name) ∉ visibleCteNames query path
  notBlock : casefold physical ∉ declaredCteNames query

/-- A column declared in `correlate` is allowed and unmasked on the physical table
the name stands for. -/
theorem PolicyAccepted.vouched_allowed {context : RequestContext} {query : StructuredQuery}
    {policy effective : Policy} {connections : ScopeConnections} {path : ScopePath}
    {parent child : StructuredQuery} {step : ScopeStep} {table column physical : String}
    (accepted : PolicyAccepted context query policy effective connections)
    (member : (step, child) ∈ childScopes parent) (subquery : step.isSubquery = true)
    (above : StandsFor query path parent table physical)
    (vouched : VouchedFor path parent child table column) :
    effective.columnAllowed physical column = true ∧ effective.columnMask physical column = none := by
  obtain ⟨listed, closed⟩ := vouched
  obtain ⟨entry, inCorrelate, folded⟩ := List.mem_filterMap.mp listed
  unfold foldRef at folded
  split at folded
  · rename_i halves entryParsed
    injection folded with folded
    injection folded with sameTable sameColumn
    have allowed := accepted.correlated_allowed
      (mem_iterCorrelations above.scopeAt member subquery inCorrelate) entryParsed
    have declared : dictGet (effectiveNameMap parent) (casefold table) = some physical := by
      cases above with
      | own _ _ declared => exact declared
      | outer _ absurd_ _ _ =>
          rw [closed] at absurd_
          cases absurd_
    have same : physicalTable parent halves.1 = physical := by
      rw [physicalTable, sameTable, declared]
      rfl
    rw [same, effective.columnAllowed_congr rfl sameColumn,
      effective.columnMask_congr rfl sameColumn] at allowed
    exact allowed
  · cases folded

/-- A scope that opens a name is a subquery. -/
theorem isSubquery_of_opensOuter {path : ScopePath} {step : ScopeStep} {nested : StructuredQuery}
    {name : String} (opened : opensOuter (path ++ [step]) nested name = true) :
    step.isSubquery = true := by
  rw [opensOuter, receivesOuter_append, Bool.and_eq_true, Bool.and_eq_true] at opened
  exact opened.1.1

/-- Every subquery declares the columns it reads through opened names, in scopes that
open nothing themselves. -/
def DeclaresOpened (query : StructuredQuery) : Prop :=
  ∀ scope ∈ scopesOf query, ∀ pred ∈ iterWhereAndHavingPredicates scope,
    ∀ nested ∈ pred.subqueries, correlatedColumns scope = [] ∧
      ∀ column ∈ readColumns nested, opensName nested column.1 = true →
        column ∈ correlatedColumns nested

instance (query : StructuredQuery) : Decidable (DeclaresOpened query) :=
  inferInstanceAs (Decidable (∀ scope ∈ scopesOf query, ∀ pred ∈ iterWhereAndHavingPredicates scope,
    ∀ nested ∈ pred.subqueries, _))

theorem DeclaresOpened.vouched {query scope nested : StructuredQuery} {path : ScopePath}
    {step : ScopeStep} (declares : DeclaresOpened query) (at_ : ScopeAt query path scope)
    (member : (step, nested) ∈ childScopes scope) {ref : ColumnRef}
    (inRefs : ref ∈ iterColumnRefs nested) {table column : String}
    (parsed : parseColumnRef ref.ref = .ok (table, column))
    (opened : opensOuter (path ++ [step]) nested table = true) :
    VouchedFor path scope nested table column := by
  obtain ⟨pred, inPredicates, inPred⟩ :=
    subquery_of_mem_childScopes member (isSubquery_of_opensOuter opened)
  rw [opensOuter, Bool.and_eq_true] at opened
  obtain ⟨noneOpened, declared⟩ :=
    declares scope at_.mem_scopesOf pred inPredicates nested inPred
  refine ⟨declared _ (List.mem_filterMap.mpr ⟨ref, inRefs, foldRef_of_parsed parsed⟩) ?_, ?_⟩
  · rw [← opened.2, opensName, opensName, casefold_casefold]
  · rw [opensOuter, opensName, noneOpened, List.any_nil, Bool.and_false]

end QueryGate
