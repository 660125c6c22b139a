import QueryGate.Validation.Binding
import QueryGate.Validation.PolicyAcceptance

/-! # Declared correlation

`correlate` lists the outer columns a subquery may read. The list opens whole
tables: once one column of an outer table is listed, every column of it resolves.
The main result says exactly when the declared columns are the ones read.
-/

namespace QueryGate

open Foundation

section Acceptance

variable {context : RequestContext} {query : StructuredQuery} {policy effective : Policy}
  {connections : ScopeConnections}

/-- A subquery step leads to a subquery of one of the scope's predicates. -/
theorem subquery_of_mem_childScopes {scope nested : StructuredQuery} {step : ScopeStep}
    (member : (step, nested) ∈ childScopes scope) (subquery : step.isSubquery = true) :
    ∃ pred ∈ iterWhereAndHavingPredicates scope, nested ∈ pred.subqueries := by
  rw [childScopes, List.mem_append, List.mem_append] at member
  rcases member with (inCtes | inArms) | inPredicates
  · obtain ⟨_, _, isCte⟩ := cteChildren_steps (List.mem_map_of_mem inCtes)
    cases isCte
    cases subquery
  · obtain ⟨_, _, isArm⟩ := armChildren_steps (List.mem_map_of_mem inArms)
    cases isArm
    cases subquery
  · have listed : nested ∈ (indexedChildren 0 (iterWhereAndHavingPredicates scope)).map Prod.snd :=
      List.mem_map_of_mem inPredicates
    rw [map_snd_indexedChildren] at listed
    exact List.mem_flatMap.mp listed

/-- The correlations a subquery declares are among those of the query. -/
theorem mem_iterCorrelations {path : ScopePath} {scope nested : StructuredQuery} {step : ScopeStep}
    (at_ : ScopeAt query path scope) (member : (step, nested) ∈ childScopes scope)
    (subquery : step.isSubquery = true) {ref : String} (listed : ref ∈ nested.correlate) :
    ⟨scope, nested, ref⟩ ∈ iterCorrelations query := by
  obtain ⟨entry, walked, rfl⟩ := List.mem_map.mp at_.mem_scopesOf
  obtain ⟨pred, inPredicates, inPred⟩ := subquery_of_mem_childScopes member subquery
  exact List.mem_flatMap.mpr ⟨entry, walked, List.mem_flatMap.mpr ⟨pred, inPredicates,
    List.mem_flatMap.mpr ⟨nested, inPred, List.mem_map_of_mem listed⟩⟩⟩

theorem PolicyAccepted.correlations
    (accepted : PolicyAccepted context query policy effective connections)
    {correlation : Correlation} (member : correlation ∈ iterCorrelations query) :
    checkCorrelationUsed correlation = .ok () ∧
      checkCorrelationAllowed context effective connections correlation = .ok () := by
  have passed := accepted.correlation
  simp only [validateCorrelation, seq_eq_ok_iff, checkAll_eq_ok_iff] at passed
  exact ⟨passed.2.2.1 correlation member, passed.2.2.2 correlation member⟩

/-- A scope that is not a subquery declares no outer column. -/
theorem PolicyAccepted.uncorrelated
    (accepted : PolicyAccepted context query policy effective connections)
    {scope : StructuredQuery} (member : scope ∈ nonSubqueryScopes query) : scope.correlate = [] := by
  have passed := accepted.correlation
  simp only [validateCorrelation, seq_eq_ok_iff, checkAll_eq_ok_iff, deny_eq_ok_iff,
    Bool.not_eq_false', List.isEmpty_iff] at passed
  exact passed.1 scope member

/-- Every block's sources that are WITH blocks were declared before it. -/
theorem checkCteOrder_before {cteNames : List String} {specs : List CteSpec} :
    ∀ {before : List String}, checkCteOrder cteNames before specs = .ok () →
      ∀ index spec, specs[index]? = some spec → ∀ source ∈ cteSourceNames spec.query,
        source ∈ cteNames →
        source ∈ before ∨ source ∈ (specs.take index).map fun spec => casefold spec.name := by
  induction specs with
  | nil => exact fun _ index spec absurd => by cases absurd
  | cons first rest ih =>
      intro before passed index spec found source inSources isBlock
      simp only [checkCteOrder, seq_eq_ok_iff, deny_eq_ok_iff, Bool.not_eq_false',
        List.isEmpty_iff, List.filter_eq_nil_iff] at passed
      cases index with
      | zero =>
          cases found
          have listed := passed.1 source inSources
          simp only [List.contains_iff_mem.mpr isBlock, Bool.true_and, Bool.not_eq_true',
            Bool.not_eq_false, List.contains_iff_mem] at listed
          exact .inl listed
      | succ index =>
          rcases ih passed.2 index spec found source inSources isBlock with known | later
          · rcases List.mem_cons.mp known with rfl | earlier
            · exact .inr (List.mem_cons_self ..)
            · exact .inl earlier
          · exact .inr (List.mem_cons_of_mem _ later)

/-- A source a scope declares is one of its physical tables. -/
theorem mem_sources_of_declared {scope : StructuredQuery} {name physical : String}
    (declared : dictGet (effectiveNameMap scope) name = some physical) :
    physical ∈ scope.fromTable :: scope.joins.map JoinSpec.table := by
  rw [effectiveNameMap, dictGet_dictOf] at declared
  have member := List.mem_reverse.mp (dictGet_eq_some_mem declared)
  obtain ⟨occurrence, inOccurrences, same⟩ := List.mem_map.mp member
  injection same with _ samePhysical
  rw [← samePhysical]
  rcases List.mem_cons.mp inOccurrences with rfl | inJoins
  · exact List.mem_cons_self ..
  · obtain ⟨join, inQuery, rfl⟩ := List.mem_map.mp inJoins
    exact List.mem_cons_of_mem _ (List.mem_map_of_mem inQuery)

/-- A scope below a WITH body is a scope of that body. -/
theorem ScopeAt.in_body {index : Nat} {rest : ScopePath} {scope : StructuredQuery}
    (at_ : ScopeAt query (.cte index :: rest) scope) :
    ∃ spec, query.ctes[index]? = some spec ∧ scope ∈ scopesOf spec.query := by
  rw [ScopeAt, scopeTree_eq] at at_
  generalize reached : ScopeStep.cte index :: rest = path at at_
  cases at_ with
  | here => cases reached
  | inside member below =>
      injection reached with stepSame _
      obtain ⟨kid, inKids, rfl⟩ := List.mem_map.mp member
      rw [scopeTree_step] at stepSame
      obtain ⟨found, spec, declared, rfl⟩ := cte_of_mem_childScopes inKids (by rw [← stepSame]; rfl)
      injection stepSame with sameIndex
      rw [sameIndex]
      exact ⟨spec, declared, mem_scopesOf_of_at below⟩

/-- In an accepted query a scope reads only the WITH blocks visible to it. -/
theorem PolicyAccepted.orderedBlocks
    (accepted : PolicyAccepted context query policy effective connections) :
    OrderedBlocks query := by
  intro path scope name physical at_ declared isBlock
  unfold visibleCteNames
  split
  · rename_i index rest
    obtain ⟨spec, found, inBody⟩ := at_.in_body
    have structural := accepted.structural
    simp only [validateStructuralCaps, validateCteConstraints, seq_eq_ok_iff] at structural
    obtain ⟨⟨_, _, ordered⟩, _⟩ := structural
    rw [if_neg] at ordered
    · rw [seq_eq_ok_iff] at ordered
      have source : casefold physical ∈ cteSourceNames spec.query := by
        obtain ⟨entry, walked, rfl⟩ := List.mem_map.mp inBody
        refine List.mem_flatMap.mpr ⟨entry, walked, ?_⟩
        have listed := List.mem_map_of_mem (f := casefold) (mem_sources_of_declared declared)
        rwa [List.map_cons, List.map_map] at listed
      rcases checkCteOrder_before ordered.1 index spec found _ source isBlock with absurd | visible
      · cases absurd
      · exact visible
    · rw [List.isEmpty_iff]
      exact List.ne_nil_of_mem isBlock
  · exact isBlock

end Acceptance

/-- The columns a scope's references name, case-folded. -/
def readColumns (query : StructuredQuery) : List (String × String) :=
  (iterColumnRefs query).filterMap fun ref => foldRef ref.ref

/-- The outer columns a scope reads: those whose table is none of its own names. -/
def outerColumns (query : StructuredQuery) : List (String × String) :=
  (readColumns query).filter fun column => !(ownNames query).contains column.1

theorem mem_outerColumns {query : StructuredQuery} {column : String × String} :
    column ∈ outerColumns query ↔ column ∈ readColumns query ∧ column.1 ∉ ownNames query := by
  rw [outerColumns, List.mem_filter, Bool.not_eq_true', ← Bool.not_eq_true, List.contains_iff_mem]

/-- A property of every subquery of a query, with the scope around it. -/
def EverySubquery (query : StructuredQuery)
    (property : (parent child : StructuredQuery) → Prop) : Prop :=
  ∀ path scope step nested, ScopeAt query path scope → (step, nested) ∈ childScopes scope →
    step.isSubquery = true → property scope nested

/-- A property of every subquery holds when it holds predicate by predicate. -/
theorem everySubquery_of_predicates {query : StructuredQuery}
    {property : (parent child : StructuredQuery) → Prop}
    (each : ∀ scope ∈ scopesOf query, ∀ pred ∈ iterWhereAndHavingPredicates scope,
      ∀ nested ∈ pred.subqueries, property scope nested) : EverySubquery query property := by
  intro path scope step nested at_ member subquery
  obtain ⟨pred, inPredicates, inPred⟩ := subquery_of_mem_childScopes member subquery
  exact each scope at_.mem_scopesOf pred inPredicates nested inPred

/-- A subquery reads exactly the outer columns it declares, and each belongs to a
table the enclosing scope declares itself. -/
structure CorrelatesAsDeclared (parent child : StructuredQuery) : Prop where
  declared : ∀ column, column ∈ outerColumns child ↔ column ∈ correlatedColumns child
  owned : ∀ column ∈ correlatedColumns child, column.1 ∈ ownNames parent

/-- A subquery lists every column it reads of a table it opens, under names that
are not its own. -/
structure ListsOpenedTables (child : StructuredQuery) : Prop where
  notOwn : ∀ column ∈ correlatedColumns child, column.1 ∉ ownNames child
  listed : ∀ column ∈ correlatedColumns child, ∀ other ∈ readColumns child, other.1 = column.1 →
    other ∈ correlatedColumns child

instance (child : StructuredQuery) : Decidable (ListsOpenedTables child) :=
  decidable_of_iff ((∀ column ∈ correlatedColumns child, column.1 ∉ ownNames child) ∧
      ∀ column ∈ correlatedColumns child, ∀ other ∈ readColumns child, other.1 = column.1 →
        other ∈ correlatedColumns child)
    ⟨fun both => ⟨both.1, both.2⟩, fun lists => ⟨lists.notOwn, lists.listed⟩⟩

section Exact

variable {query : StructuredQuery} {path : ScopePath} {scope nested : StructuredQuery}
  {step : ScopeStep}

/-- An entry of `correlate` is read somewhere in the subquery. -/
theorem mem_readColumns_of_correlated {context : RequestContext} {policy effective : Policy}
    {connections : ScopeConnections}
    (accepted : PolicyAccepted context query policy effective connections)
    (at_ : ScopeAt query path scope) (member : (step, nested) ∈ childScopes scope)
    (subquery : step.isSubquery = true)
    (refsParse : ∀ ref ∈ iterColumnRefs nested, ∃ halves, parseColumnRef ref.ref = .ok halves)
    {column : String × String} (correlated : column ∈ correlatedColumns nested) :
    column ∈ readColumns nested := by
  obtain ⟨entry, listed, folded⟩ := List.mem_filterMap.mp correlated
  have used := (accepted.correlations (mem_iterCorrelations at_ member subquery listed)).1
  rw [checkCorrelationUsed, deny_eq_ok_iff, Bool.not_eq_false', List.contains_iff_mem,
    List.mem_map] at used
  obtain ⟨ref, inRefs, same⟩ := used
  refine List.mem_filterMap.mpr ⟨ref, inRefs, ?_⟩
  unfold foldRef at folded
  split at folded
  · rename_i halves parsed
    obtain ⟨⟨table, column⟩, refParsed⟩ := refsParse ref inRefs
    obtain ⟨sameTable, sameColumn⟩ := parseColumnRef_caseless same refParsed parsed
    rw [foldRef_of_parsed refParsed, ← folded, ← sameTable, ← sameColumn]
  · cases folded

/-- In an accepted subquery an outer column belongs to a table that some entry of
`correlate` opens, and the enclosing scope owns it. -/
theorem outerColumn_opened {context : SchemaContext} {blocks tables handed inner : Tables}
    (received : handedTables path scope tables (scopeTree step nested) = .ok handed)
    (bound : reflectScope context (path ++ [step]) nested blocks handed = .ok inner)
    {column : String × String} (isOuter : column ∈ outerColumns nested) :
    column.1 ∈ ownNames scope ∧ ∃ opened ∈ correlatedColumns nested, opened.1 = column.1 := by
  obtain ⟨read, notOwn⟩ := mem_outerColumns.mp isOuter
  obtain ⟨ref, inRefs, folded⟩ := List.mem_filterMap.mp read
  have binding := scopeBinding_of_reflectScope bound
  obtain ⟨table, name, parsed, inTables⟩ := binding.refs ref inRefs
  rw [foldRef_of_parsed parsed] at folded
  cases folded
  rcases binding.declared table inTables with own | fromOuter
  · exact absurd own notOwn
  · obtain ⟨object, found⟩ :=
      Option.isSome_iff_exists.mp (tableByNameOrNone_isSome_iff.mpr fromOuter)
    have lookup := handedTables_lookup received table
    rw [found] at lookup
    have opened : opensOuter (path ++ [step]) nested table = true := by
      by_contra closed
      rw [if_neg closed] at lookup
      cases lookup
    refine ⟨(handedTables_opened received opened).1, ?_⟩
    rw [opensOuter, Bool.and_eq_true, opensName, List.any_eq_true] at opened
    obtain ⟨column, listed, same⟩ := opened.2
    exact ⟨column, listed, eq_of_beq same⟩

/-- An accepted query correlates exactly as declared when each subquery lists every
column it reads of the tables it opens, and opens none under a name of its own. -/
theorem correlation_declared_iff {context : RequestContext} {policy effective : Policy}
    {scopeConnections : Option ScopeConnections} {snapshot : Option ConnectionResolver}
    {schema : SchemaContext} {reflected : ReflectedQuery}
    (accepted : validatePolicy context query policy scopeConnections snapshot = .ok effective)
    (validated : validateSchema schema query = .ok reflected) :
    EverySubquery query CorrelatesAsDeclared ↔
      EverySubquery query fun _ child => ListsOpenedTables child := by
  obtain ⟨connections, _, facts⟩ := validatePolicy_accepted accepted
  constructor
  · intro exactly path scope step nested at_ member subquery
    have here := exactly path scope step nested at_ member subquery
    refine ⟨fun column correlated => ?_, fun column correlated other read same => ?_⟩
    · exact (mem_outerColumns.mp ((here.declared column).mpr correlated)).2
    · have notOwn := (mem_outerColumns.mp ((here.declared column).mpr correlated)).2
      rw [← same] at notOwn
      exact (here.declared other).mp (mem_outerColumns.mpr ⟨read, notOwn⟩)
  · intro lists path scope step nested at_ member subquery
    have here := lists path scope step nested at_ member subquery
    obtain ⟨blocks, outer, inner, reflection⟩ :=
      (validateSchema_reflected validated).2 (at_.child member)
    obtain ⟨_, _, tables, _, received⟩ := reflection.subquery at_ subquery
    have bound := reflection.bound
    have isOuter : ∀ column ∈ correlatedColumns nested, column ∈ outerColumns nested := by
      intro column correlated
      refine mem_outerColumns.mpr ⟨?_, here.notOwn column correlated⟩
      refine mem_readColumns_of_correlated facts at_ member subquery (fun ref inRefs => ?_)
        correlated
      obtain ⟨table, name, parsed, _⟩ := (scopeBinding_of_reflectScope bound).refs ref inRefs
      exact ⟨_, parsed⟩
    refine ⟨fun column => ⟨fun outerColumn => ?_, isOuter column⟩, fun column correlated => ?_⟩
    · obtain ⟨_, opened, listed, same⟩ := outerColumn_opened received bound outerColumn
      exact here.listed opened listed column (mem_outerColumns.mp outerColumn).1 same.symm
    · exact (outerColumn_opened received bound (isOuter column correlated)).1

end Exact

/-- `SELECT c.id FROM Customers c WHERE EXISTS (SELECT Orders.id FROM Orders WHERE
Orders.customer_id = c.id AND c.<extra> = 'x')`, declaring `c.id` only. -/
def customersWithOrders (extra : String) : StructuredQuery where
  fromTable := "Customers"
  fromAlias := some "c"
  select := [.bare "c.id"]
  where_ := some (.predicate {
    op := .exists_
    existsSubquery := some {
      fromTable := "Orders"
      select := [.bare "Orders.id"]
      correlate := ["c.id"]
      where_ := some (.group (some [
        .predicate { col := some "Orders.customer_id", op := .eq, valueCol := some "c.id" },
        .predicate { col := some ("c." ++ extra), op := .eq, value := .str "x" }]) none none) } })

/-- A subquery that declares `c.id` reads `c.ssn` as well, and is accepted. -/
theorem correlation_reads_undeclared_column :
    (customersWithOrders "ssn").validate = .ok () ∧
      accepts (validatePolicy soleConnection (customersWithOrders "ssn") {} none none) = true ∧
      accepts (validateSchema shopSchema (customersWithOrders "ssn")) = true ∧
      ¬ EverySubquery (customersWithOrders "ssn") CorrelatesAsDeclared := by
  refine ⟨by decide +kernel, by decide +kernel, by decide +kernel, fun exactly => ?_⟩
  have here := exactly [] _ (.existence 0) _ (.root _) (List.mem_singleton.mpr rfl) rfl
  have listed := (here.declared ("c", "ssn")).mp (by decide +kernel)
  revert listed
  decide +kernel

/-- A subquery that reads only the outer column it lists correlates as declared. -/
theorem correlation_declared_id : EverySubquery (customersWithOrders "id") CorrelatesAsDeclared := by
  have passes : accepts (validatePolicy soleConnection (customersWithOrders "id") {} none none) =
      true := by
    decide +kernel
  obtain ⟨effective, accepted⟩ := accepts_iff.mp passes
  have binds : accepts (validateSchema shopSchema (customersWithOrders "id")) = true := by
    decide +kernel
  obtain ⟨reflected, validated⟩ := accepts_iff.mp binds
  refine (correlation_declared_iff accepted validated).mpr (everySubquery_of_predicates ?_)
  decide +kernel

end QueryGate
