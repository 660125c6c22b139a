import QueryGate.Validation.References

/-! # Query scopes

`iterQueryScopes` lists the query, its WITH bodies, its set-operation arms and
its subqueries as independent scopes, each with its nesting depth. The recursion
is structural; `iterQueryScopes_eq` is the walk of the source, and
`StructuredQuery.scopeInduction` the induction that follows it.
-/

namespace QueryGate

open Foundation

/-- The case-folded source names of a list of scopes. -/
def scopeSourceNames (scopes : List (Nat × StructuredQuery)) : List String :=
  scopes.flatMap fun entry =>
    casefold entry.2.fromTable :: entry.2.joins.map fun join => casefold join.table

/-- `cte_chain_depths`, from each block's name and the source names of its body:
one more than the deepest earlier block it reads. -/
def chainDepths (blocks : List (String × List String)) : List (String × Nat) :=
  blocks.foldl (fun depths block =>
    dictSet depths block.1 (1 + (block.2.filterMap (dictGet depths)).foldl max 0)) []

/-- The depth a block is charged. -/
def blockDepth (depths : List (String × Nat)) (name : String) : Nat :=
  (dictGet depths name).getD 0

/-- A scope walk, waiting for the depth it starts at. -/
abbrev ScopeWalk := Nat → List (Nat × StructuredQuery)

/-- The walks of WITH blocks, each started at its chain depth. -/
def walkBlocks (blocks : List (String × ScopeWalk)) : ScopeWalk := fun depth =>
  let depths := chainDepths (blocks.map fun block => (block.1, scopeSourceNames (block.2 0)))
  blocks.flatMap fun block => block.2 (depth + blockDepth depths block.1)

mutual

/-- `iter_query_scopes`. -/
def iterQueryScopes : StructuredQuery → ScopeWalk
  | ⟨fromTable, fromAlias, select, distinct, joins, where_, groupBy, having, orderBy, limit,
      offset, topN, setOp, correlate, ctes, intent, purpose⟩, depth =>
      (depth, ⟨fromTable, fromAlias, select, distinct, joins, where_, groupBy, having, orderBy,
        limit, offset, topN, setOp, correlate, ctes, intent, purpose⟩) ::
        (walkBlocks (cteWalks ctes) depth ++ setOpScopes setOp depth ++
          optionNodeScopes where_ (depth + 1) ++ optionNodeScopes having (depth + 1))
termination_by structural query => query

/-- The walk of each WITH block, by its case-folded name. -/
def cteWalks : List CteSpec → List (String × ScopeWalk)
  | [] => []
  | spec :: rest => cteWalk spec :: cteWalks rest
termination_by structural specs => specs

/-- The walk of one WITH block. -/
def cteWalk : CteSpec → String × ScopeWalk
  | ⟨name, query⟩ => (casefold name, iterQueryScopes query)
termination_by structural spec => spec

/-- The scopes of the arms of an optional set operation. -/
def setOpScopes : Option SetOpSpec → ScopeWalk
  | none, _ => []
  | some spec, depth => armScopes spec depth
termination_by structural spec => spec

/-- The scopes of the arms of a set operation. -/
def armScopes : SetOpSpec → ScopeWalk
  | ⟨_, _, arms⟩, depth => queryScopes arms depth
termination_by structural spec => spec

/-- The scopes of a list of queries. -/
def queryScopes : List StructuredQuery → ScopeWalk
  | [], _ => []
  | query :: rest, depth => iterQueryScopes query depth ++ queryScopes rest depth
termination_by structural queries => queries

/-- The scopes of an optional query. -/
def optionQueryScopes : Option StructuredQuery → ScopeWalk
  | none, _ => []
  | some query, depth => iterQueryScopes query depth
termination_by structural query => query

/-- The scopes of the subqueries in an optional boolean tree. -/
def optionNodeScopes : Option WhereNode → ScopeWalk
  | none, _ => []
  | some node, depth => nodeScopes node depth
termination_by structural node => node

/-- The scopes of the subqueries in a boolean tree. -/
def nodeScopes : WhereNode → ScopeWalk
  | .predicate pred, depth => predicateScopes pred depth
  | .group andTerms orTerms notTerms, depth =>
      match notTerms with
      | some node => nodeScopes node depth
      | none =>
          if truthyTerms andTerms then termScopes andTerms depth else termScopes orTerms depth
termination_by structural node => node

/-- The scopes of the subqueries in an optional list of terms. -/
def termScopes : Option (List WhereNode) → ScopeWalk
  | none, _ => []
  | some nodes, depth => nodeListScopes nodes depth
termination_by structural nodes => nodes

/-- The scopes of the subqueries in a list of terms. -/
def nodeListScopes : List WhereNode → ScopeWalk
  | [], _ => []
  | node :: rest, depth => nodeScopes node depth ++ nodeListScopes rest depth
termination_by structural nodes => nodes

/-- The scopes of the subqueries of one predicate. -/
def predicateScopes : Predicate → ScopeWalk
  | ⟨_, _, _, _, _, _, _, valueSubquery, existsSubquery⟩, depth =>
      optionQueryScopes valueSubquery depth ++ optionQueryScopes existsSubquery depth
termination_by structural pred => pred

end

/-- `iter_set_op_arms`: the query and every further arm. -/
def iterSetOpArms (query : StructuredQuery) : List StructuredQuery :=
  query :: query.arms

/-- `Correlation`: an outer reference `child` may read, with the scope it
resolves against. -/
structure Correlation where
  parent : StructuredQuery
  child : StructuredQuery
  ref : String

/-- The correlations a scope's own subqueries declare. -/
def scopeCorrelations (scope : StructuredQuery) : List Correlation :=
  (iterWhereAndHavingPredicates scope).flatMap fun pred =>
    pred.subqueries.flatMap fun nested => nested.correlate.map fun ref => ⟨scope, nested, ref⟩

/-- `iter_correlations`. -/
def iterCorrelations (query : StructuredQuery) : List Correlation :=
  (iterQueryScopes query 0).flatMap fun entry => scopeCorrelations entry.2

/-- `declared_cte_names`. -/
def declaredCteNames (query : StructuredQuery) : List String :=
  query.ctes.map fun spec => casefold spec.name

/-- `cte_source_names`. -/
def cteSourceNames (query : StructuredQuery) : List String :=
  scopeSourceNames (iterQueryScopes query 0)

/-- `cte_chain_depths`. -/
def cteChainDepths (query : StructuredQuery) : List (String × Nat) :=
  chainDepths (query.ctes.map fun spec => (casefold spec.name, cteSourceNames spec.query))

theorem cteWalks_eq_map (specs : List CteSpec) :
    cteWalks specs = specs.map fun spec => (casefold spec.name, iterQueryScopes spec.query) := by
  induction specs with
  | nil => rfl
  | cons spec rest ih =>
      obtain ⟨name, query⟩ := spec
      rw [cteWalks, cteWalk, ih]
      rfl

theorem queryScopes_eq_flatMap (queries : List StructuredQuery) (depth : Nat) :
    queryScopes queries depth = queries.flatMap fun query => iterQueryScopes query depth := by
  induction queries with
  | nil => rfl
  | cons query rest ih =>
      rw [queryScopes, ih]
      rfl

theorem predicateScopes_eq_flatMap (pred : Predicate) (depth : Nat) :
    predicateScopes pred depth =
      pred.subqueries.flatMap fun query => iterQueryScopes query depth := by
  obtain ⟨_, _, _, _, _, _, _, valueSubquery, existsSubquery⟩ := pred
  rw [predicateScopes]
  cases valueSubquery with
  | none =>
      cases existsSubquery with
      | none => rfl
      | some inner => simp [optionQueryScopes, Predicate.subqueries]
  | some query =>
      cases existsSubquery with
      | none => simp [optionQueryScopes, Predicate.subqueries]
      | some inner => simp [optionQueryScopes, Predicate.subqueries]

mutual

theorem nodeScopes_eq_flatMap (depth : Nat) :
    ∀ node : WhereNode, nodeScopes node depth =
      (iterWherePredicates node).flatMap fun pred => predicateScopes pred depth
  | .predicate pred => by
      rw [nodeScopes, iterWherePredicates, List.flatMap_singleton]
  | .group andTerms orTerms (some node) => by
      rw [nodeScopes, iterWherePredicates]
      exact nodeScopes_eq_flatMap depth node
  | .group andTerms orTerms none => by
      rw [nodeScopes, iterWherePredicates]
      by_cases truthy : truthyTerms andTerms = true
      · simp only [truthy, ↓reduceIte]
        exact termScopes_eq_flatMap depth andTerms
      · simp only [truthy]
        exact termScopes_eq_flatMap depth orTerms
termination_by structural node => node

theorem termScopes_eq_flatMap (depth : Nat) :
    ∀ nodes : Option (List WhereNode), termScopes nodes depth =
      (termPredicates nodes).flatMap fun pred => predicateScopes pred depth
  | none => rfl
  | some nodes => by
      rw [termScopes, termPredicates]
      exact nodeListScopes_eq_flatMap depth nodes
termination_by structural nodes => nodes

theorem nodeListScopes_eq_flatMap (depth : Nat) :
    ∀ nodes : List WhereNode, nodeListScopes nodes depth =
      (nodePredicates nodes).flatMap fun pred => predicateScopes pred depth
  | [] => rfl
  | node :: rest => by
      rw [nodeListScopes, nodePredicates, List.flatMap_append, nodeScopes_eq_flatMap depth node,
        nodeListScopes_eq_flatMap depth rest]
termination_by structural nodes => nodes

end

theorem optionNodeScopes_eq_flatMap (node : Option WhereNode) (depth : Nat) :
    optionNodeScopes node depth =
      (optionPredicates node).flatMap fun pred => predicateScopes pred depth := by
  cases node with
  | none => rfl
  | some node => exact nodeScopes_eq_flatMap depth node

theorem setOpScopes_eq_flatMap (query : StructuredQuery) (depth : Nat) :
    setOpScopes query.setOp depth = query.arms.flatMap fun arm => iterQueryScopes arm depth := by
  unfold StructuredQuery.arms
  cases query.setOp with
  | none => rfl
  | some spec =>
      obtain ⟨_, _, arms⟩ := spec
      exact queryScopes_eq_flatMap arms depth

/-- The depth a WITH block of `query` is charged. -/
def cteDepth (query : StructuredQuery) (spec : CteSpec) : Nat :=
  blockDepth (cteChainDepths query) (casefold spec.name)

/-- The scope walk as the source writes it. -/
theorem iterQueryScopes_eq (query : StructuredQuery) (depth : Nat) :
    iterQueryScopes query depth = (depth, query) ::
      ((query.ctes.flatMap fun spec => iterQueryScopes spec.query (depth + cteDepth query spec)) ++
        (query.arms.flatMap fun arm => iterQueryScopes arm depth) ++
        ((iterWhereAndHavingPredicates query).flatMap fun pred =>
          pred.subqueries.flatMap fun nested => iterQueryScopes nested (depth + 1))) := by
  have unfolded : iterQueryScopes query depth = (depth, query) ::
      (walkBlocks (cteWalks query.ctes) depth ++ setOpScopes query.setOp depth ++
        optionNodeScopes query.where_ (depth + 1) ++
        optionNodeScopes query.having (depth + 1)) := by
    cases query
    rfl
  rw [unfolded, cteWalks_eq_map, setOpScopes_eq_flatMap, optionNodeScopes_eq_flatMap,
    optionNodeScopes_eq_flatMap]
  simp only [walkBlocks, List.map_map, List.flatMap_map, iterWhereAndHavingPredicates,
    List.flatMap_append, predicateScopes_eq_flatMap, List.append_assoc]
  rfl

/-- The queries one step inside a scope: WITH bodies, arms and subqueries. -/
def directScopes (query : StructuredQuery) : List StructuredQuery :=
  query.ctes.map CteSpec.query ++ query.arms ++
    (iterWhereAndHavingPredicates query).flatMap Predicate.subqueries

mutual

theorem sizeOf_lt_of_mem_iterWherePredicates :
    ∀ node : WhereNode, ∀ pred ∈ iterWherePredicates node, sizeOf pred < sizeOf node
  | .predicate pred, found, member => by
      rw [iterWherePredicates, List.mem_singleton] at member
      rw [member, WhereNode.predicate.sizeOf_spec]
      omega
  | .group andTerms orTerms (some node), found, member => by
      rw [iterWherePredicates] at member
      have smaller := sizeOf_lt_of_mem_iterWherePredicates node found member
      rw [WhereNode.group.sizeOf_spec, Option.some.sizeOf_spec]
      omega
  | .group andTerms orTerms none, found, member => by
      rw [iterWherePredicates] at member
      rw [WhereNode.group.sizeOf_spec]
      by_cases truthy : truthyTerms andTerms = true
      · simp only [truthy, ↓reduceIte] at member
        have smaller := sizeOf_lt_of_mem_termPredicates andTerms found member
        omega
      · simp only [truthy] at member
        have smaller := sizeOf_lt_of_mem_termPredicates orTerms found member
        omega
termination_by structural node => node

theorem sizeOf_lt_of_mem_termPredicates :
    ∀ nodes : Option (List WhereNode), ∀ pred ∈ termPredicates nodes, sizeOf pred < sizeOf nodes
  | none, found, member => by
      rw [termPredicates] at member
      cases member
  | some nodes, found, member => by
      rw [termPredicates] at member
      have smaller := sizeOf_lt_of_mem_nodePredicates nodes found member
      rw [Option.some.sizeOf_spec]
      omega
termination_by structural nodes => nodes

theorem sizeOf_lt_of_mem_nodePredicates :
    ∀ nodes : List WhereNode, ∀ pred ∈ nodePredicates nodes, sizeOf pred < sizeOf nodes
  | [], found, member => by
      rw [nodePredicates] at member
      cases member
  | node :: rest, found, member => by
      rw [nodePredicates, List.mem_append] at member
      rw [List.cons.sizeOf_spec]
      rcases member with first | later
      · have smaller := sizeOf_lt_of_mem_iterWherePredicates node found first
        omega
      · have smaller := sizeOf_lt_of_mem_nodePredicates rest found later
        omega
termination_by structural nodes => nodes

end

theorem sizeOf_lt_of_mem_subqueries {pred : Predicate} {nested : StructuredQuery}
    (member : nested ∈ pred.subqueries) : sizeOf nested < sizeOf pred := by
  obtain ⟨_, _, _, _, _, _, _, valueSubquery, existsSubquery⟩ := pred
  rw [Predicate.mk.sizeOf_spec]
  simp only [Predicate.subqueries, List.mem_append, Option.mem_toList] at member
  rcases member with value | exists_
  · rw [value, Option.some.sizeOf_spec]
    omega
  · rw [exists_, Option.some.sizeOf_spec]
    omega

theorem sizeOf_le_of_mem_optionPredicates {node : Option WhereNode} {pred : Predicate}
    (member : pred ∈ optionPredicates node) : sizeOf pred < sizeOf node := by
  cases node with
  | none => cases member
  | some node =>
      have smaller := sizeOf_lt_of_mem_iterWherePredicates node pred member
      rw [Option.some.sizeOf_spec]
      omega

theorem sizeOf_lt_of_mem_directScopes {query nested : StructuredQuery}
    (member : nested ∈ directScopes query) : sizeOf nested < sizeOf query := by
  obtain ⟨fromTable, fromAlias, select, distinct, joins, where_, groupBy, having, orderBy, limit,
    offset, topN, setOp, correlate, ctes, intent, purpose⟩ := query
  rw [StructuredQuery.mk.sizeOf_spec]
  simp only [directScopes, List.mem_append, List.mem_map, List.mem_flatMap,
    iterWhereAndHavingPredicates] at member
  rcases member with (⟨spec, inCtes, rfl⟩ | inArms) | ⟨pred, inWhere | inHaving, inPred⟩
  · have smaller := List.sizeOf_lt_of_mem inCtes
    have inner : sizeOf spec.query < sizeOf spec := by
      obtain ⟨name, body⟩ := spec
      rw [CteSpec.mk.sizeOf_spec]
      change sizeOf body < _
      omega
    omega
  · cases setOp with
    | none => cases inArms
    | some spec =>
        obtain ⟨op, all, arms⟩ := spec
        have listed : nested ∈ arms := inArms
        have smaller := List.sizeOf_lt_of_mem listed
        rw [Option.some.sizeOf_spec, SetOpSpec.mk.sizeOf_spec]
        omega
  · have inner := sizeOf_lt_of_mem_subqueries inPred
    have outer := sizeOf_le_of_mem_optionPredicates inWhere
    omega
  · have inner := sizeOf_lt_of_mem_subqueries inPred
    have outer := sizeOf_le_of_mem_optionPredicates inHaving
    omega

/-- Induction along the scope tree. -/
theorem StructuredQuery.scopeInduction {motive : StructuredQuery → Prop}
    (step : ∀ query, (∀ nested ∈ directScopes query, motive nested) → motive query) :
    ∀ query, motive query := by
  intro query
  induction size : sizeOf query using Nat.strong_induction_on generalizing query with
  | _ bound ih =>
      refine step query fun nested member => ?_
      exact ih (sizeOf nested) (size ▸ sizeOf_lt_of_mem_directScopes member) nested rfl

/-- The scopes of a query, without their depths. -/
def scopesOf (query : StructuredQuery) : List StructuredQuery :=
  (iterQueryScopes query 0).map Prod.snd

/-- The starting depth does not change which scopes are walked. -/
theorem map_snd_iterQueryScopes (query : StructuredQuery) :
    ∀ depth, (iterQueryScopes query depth).map Prod.snd = scopesOf query := by
  induction query using StructuredQuery.scopeInduction with
  | step query ih =>
      have both : ∀ depth, (iterQueryScopes query depth).map Prod.snd =
          query :: (directScopes query).flatMap scopesOf := by
        intro depth
        have bodies : ∀ spec ∈ query.ctes, ∀ start,
            (iterQueryScopes spec.query start).map Prod.snd = scopesOf spec.query :=
          fun spec member => ih spec.query (List.mem_append_left _ (List.mem_append_left _
            (List.mem_map_of_mem member)))
        have arms : ∀ arm ∈ query.arms, ∀ start,
            (iterQueryScopes arm start).map Prod.snd = scopesOf arm :=
          fun arm member => ih arm (List.mem_append_left _ (List.mem_append_right _ member))
        have nested : ∀ pred ∈ iterWhereAndHavingPredicates query, ∀ inner ∈ pred.subqueries,
            ∀ start, (iterQueryScopes inner start).map Prod.snd = scopesOf inner :=
          fun pred member inner inside => ih inner (List.mem_append_right _
            (List.mem_flatMap.mpr ⟨pred, member, inside⟩))
        rw [iterQueryScopes_eq]
        simp only [List.map_cons, List.map_append, List.map_flatMap, directScopes,
          List.flatMap_append, List.flatMap_map, List.flatMap_assoc]
        rw [List.flatMap_congr fun spec member => bodies spec member _,
          List.flatMap_congr fun arm member => arms arm member _,
          List.flatMap_congr fun pred member =>
            List.flatMap_congr fun inner inside => nested pred member inner inside _]
      intro depth
      rw [both depth, scopesOf, both 0]

/-- The scopes of a query: itself, then the scopes of the queries inside it. -/
theorem scopesOf_eq (query : StructuredQuery) :
    scopesOf query = query :: (directScopes query).flatMap scopesOf := by
  rw [scopesOf, iterQueryScopes_eq]
  simp only [List.map_cons, List.map_append, List.map_flatMap, map_snd_iterQueryScopes,
    directScopes, List.flatMap_append, List.flatMap_map, List.flatMap_assoc]

theorem self_mem_scopesOf (query : StructuredQuery) : query ∈ scopesOf query := by
  rw [scopesOf_eq]
  exact List.mem_cons_self ..

theorem mem_scopesOf_of_directScopes {query nested scope : StructuredQuery}
    (direct : nested ∈ directScopes query) (member : scope ∈ scopesOf nested) :
    scope ∈ scopesOf query := by
  rw [scopesOf_eq]
  exact List.mem_cons_of_mem _ (List.mem_flatMap.mpr ⟨nested, direct, member⟩)

/-- Scopes nest: the queries directly inside a scope are scopes too. -/
theorem directScopes_subset_scopesOf {query scope nested : StructuredQuery}
    (member : scope ∈ scopesOf query) (direct : nested ∈ directScopes scope) :
    nested ∈ scopesOf query := by
  induction query using StructuredQuery.scopeInduction with
  | step query ih =>
      rw [scopesOf_eq] at member
      rcases List.mem_cons.mp member with rfl | below
      · exact mem_scopesOf_of_directScopes direct (self_mem_scopesOf nested)
      · obtain ⟨inner, inside, deeper⟩ := List.mem_flatMap.mp below
        exact mem_scopesOf_of_directScopes inside (ih inner inside deeper)

mutual

theorem validate_of_mem_iterWherePredicates :
    ∀ node : WhereNode, node.validate = .ok () → ∀ pred ∈ iterWherePredicates node,
      pred.validate = .ok ()
  | .predicate pred => fun valid found member => by
      rw [iterWherePredicates, List.mem_singleton] at member
      rw [member]
      exact valid
  | .group andTerms orTerms (some node) => fun valid found member => by
      simp only [WhereNode.validate, bind_eq_ok_iff, validateOptionNode] at valid
      obtain ⟨_, _, _, _, _, validNot, _⟩ := valid
      rw [iterWherePredicates] at member
      exact validate_of_mem_iterWherePredicates node validNot found member
  | .group andTerms orTerms none => fun valid found member => by
      simp only [WhereNode.validate, bind_eq_ok_iff] at valid
      obtain ⟨_, validAnd, _, validOr, _⟩ := valid
      rw [iterWherePredicates] at member
      by_cases truthy : truthyTerms andTerms = true
      · simp only [truthy, ↓reduceIte] at member
        exact validate_of_mem_termPredicates andTerms validAnd found member
      · simp only [truthy] at member
        exact validate_of_mem_termPredicates orTerms validOr found member
termination_by structural node => node

theorem validate_of_mem_termPredicates :
    ∀ nodes : Option (List WhereNode), validateOptionNodes nodes = .ok () →
      ∀ pred ∈ termPredicates nodes, pred.validate = .ok ()
  | none => fun _ found member => by
      rw [termPredicates] at member
      cases member
  | some nodes => fun valid found member => by
      rw [validateOptionNodes] at valid
      rw [termPredicates] at member
      exact validate_of_mem_nodePredicates nodes valid found member
termination_by structural nodes => nodes

theorem validate_of_mem_nodePredicates :
    ∀ nodes : List WhereNode, validateNodes nodes = .ok () →
      ∀ pred ∈ nodePredicates nodes, pred.validate = .ok ()
  | [] => fun _ found member => by
      rw [nodePredicates] at member
      cases member
  | node :: rest => fun valid found member => by
      rw [validateNodes, bind_eq_ok_iff] at valid
      obtain ⟨_, validHead, validRest⟩ := valid
      rw [nodePredicates, List.mem_append] at member
      rcases member with first | later
      · exact validate_of_mem_iterWherePredicates node validHead found first
      · exact validate_of_mem_nodePredicates rest validRest found later
termination_by structural nodes => nodes

end

theorem validate_of_mem_optionPredicates {node : Option WhereNode}
    (valid : validateOptionNode node = .ok ()) {pred : Predicate}
    (member : pred ∈ optionPredicates node) : pred.validate = .ok () := by
  cases node with
  | none => cases member
  | some node => exact validate_of_mem_iterWherePredicates node valid pred member

/-- The queries directly inside an accepted query are accepted. -/
theorem validate_of_mem_directScopes {query nested : StructuredQuery}
    (accepted : query.validate = .ok ()) (direct : nested ∈ directScopes query) :
    nested.validate = .ok () := by
  have valid := StructuredQuery.valid_of_validate accepted
  simp only [directScopes, List.mem_append, List.mem_map, List.mem_flatMap,
    iterWhereAndHavingPredicates] at direct
  rcases direct with (⟨spec, inCtes, rfl⟩ | inArms) | ⟨pred, inWhere | inHaving, inPred⟩
  · exact CteSpec.validate_query (valid.ctes spec inCtes)
  · exact valid.arms nested inArms
  · exact Predicate.validate_subquery
      (validate_of_mem_optionPredicates valid.whereTree inWhere) inPred
  · exact Predicate.validate_subquery
      (validate_of_mem_optionPredicates valid.havingTree inHaving) inPred

/-- Every scope of an accepted query is accepted. -/
theorem validate_of_mem_scopesOf {query scope : StructuredQuery}
    (accepted : query.validate = .ok ()) (member : scope ∈ scopesOf query) :
    scope.validate = .ok () := by
  induction query using StructuredQuery.scopeInduction with
  | step query ih =>
      rw [scopesOf_eq] at member
      rcases List.mem_cons.mp member with rfl | below
      · exact accepted
      · obtain ⟨nested, direct, deeper⟩ := List.mem_flatMap.mp below
        exact ih nested direct (validate_of_mem_directScopes accepted direct) deeper

end QueryGate
