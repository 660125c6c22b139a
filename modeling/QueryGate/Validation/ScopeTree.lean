import QueryGate.Validation.Scopes

/-! # The scope tree

The scopes of a query as a tree. Each scope is named by its path from the root,
which plays the part object identity plays in the source: the dictionaries keyed
by `id(scope)` are keyed by path here. `childScopes` lists the queries directly
inside a scope with the step that leads to each.
-/

namespace QueryGate

open Foundation

/-- One step into a nested scope: a WITH body, a set-operation arm, or the value
or EXISTS subquery of the predicate at an index of the WHERE and HAVING walk. -/
inductive ScopeStep where
  | root
  | cte (index : Nat)
  | arm (index : Nat)
  | value (index : Nat)
  | existence (index : Nat)
  deriving DecidableEq, Repr

/-- The steps from the root to a scope. -/
abbrev ScopePath := List ScopeStep

/-- A scope, the step that leads to it, and the scopes directly inside it. -/
inductive ScopeTree where
  | node (step : ScopeStep) (scope : StructuredQuery) (children : List ScopeTree)

/-- The step that leads to the root of a tree. -/
def ScopeTree.step : ScopeTree → ScopeStep
  | .node step _ _ => step

/-- The scope at the root of a tree. -/
def ScopeTree.scope : ScopeTree → StructuredQuery
  | .node _ scope _ => scope

/-- The trees directly inside a tree. -/
def ScopeTree.children : ScopeTree → List ScopeTree
  | .node _ _ children => children

mutual

/-- The scope tree of a query reached by `step`. -/
def scopeTree (step : ScopeStep) : StructuredQuery → ScopeTree
  | ⟨fromTable, fromAlias, select, distinct, joins, where_, groupBy, having, orderBy, limit,
      offset, topN, setOp, correlate, ctes, intent, purpose⟩ =>
      .node step ⟨fromTable, fromAlias, select, distinct, joins, where_, groupBy, having, orderBy,
          limit, offset, topN, setOp, correlate, ctes, intent, purpose⟩
        (cteTrees 0 ctes ++ setOpTrees setOp ++ optionNodeTrees 0 where_ ++
          optionNodeTrees (optionPredicates where_).length having)
termination_by structural query => query

/-- The trees of WITH bodies, counted from `index`. -/
def cteTrees (index : Nat) : List CteSpec → List ScopeTree
  | [] => []
  | spec :: rest => cteTree index spec :: cteTrees (index + 1) rest
termination_by structural specs => specs

/-- The tree of one WITH body. -/
def cteTree (index : Nat) : CteSpec → ScopeTree
  | ⟨_, query⟩ => scopeTree (.cte index) query
termination_by structural spec => spec

/-- The trees of the arms of an optional set operation. -/
def setOpTrees : Option SetOpSpec → List ScopeTree
  | none => []
  | some spec => armTrees spec
termination_by structural spec => spec

/-- The trees of the arms of a set operation. -/
def armTrees : SetOpSpec → List ScopeTree
  | ⟨_, _, arms⟩ => armListTrees 0 arms
termination_by structural spec => spec

/-- The trees of a list of arms, counted from `index`. -/
def armListTrees (index : Nat) : List StructuredQuery → List ScopeTree
  | [] => []
  | arm :: rest => scopeTree (.arm index) arm :: armListTrees (index + 1) rest
termination_by structural arms => arms

/-- The tree of an optional subquery. -/
def optionTree (step : ScopeStep) : Option StructuredQuery → List ScopeTree
  | none => []
  | some query => [scopeTree step query]
termination_by structural query => query

/-- The trees of the subqueries in an optional boolean tree. -/
def optionNodeTrees (index : Nat) : Option WhereNode → List ScopeTree
  | none => []
  | some node => nodeTrees index node
termination_by structural node => node

/-- The trees of the subqueries in a boolean tree whose first predicate has the
given index. -/
def nodeTrees (index : Nat) : WhereNode → List ScopeTree
  | .predicate pred => predicateTrees index pred
  | .group andTerms orTerms notTerms =>
      match notTerms with
      | some node => nodeTrees index node
      | none =>
          if truthyTerms andTerms then termTrees index andTerms else termTrees index orTerms
termination_by structural node => node

/-- The trees of the subqueries in an optional list of terms. -/
def termTrees (index : Nat) : Option (List WhereNode) → List ScopeTree
  | none => []
  | some nodes => nodeListTrees index nodes
termination_by structural nodes => nodes

/-- The trees of the subqueries in a list of terms. -/
def nodeListTrees (index : Nat) : List WhereNode → List ScopeTree
  | [] => []
  | node :: rest =>
      nodeTrees index node ++ nodeListTrees (index + (iterWherePredicates node).length) rest
termination_by structural nodes => nodes

/-- The trees of the subqueries of the predicate at `index`. -/
def predicateTrees (index : Nat) : Predicate → List ScopeTree
  | ⟨_, _, _, _, _, _, _, valueSubquery, existsSubquery⟩ =>
      optionTree (.value index) valueSubquery ++ optionTree (.existence index) existsSubquery
termination_by structural pred => pred

end

/-- The subqueries of the predicate at `index`, with their steps. -/
def predicateChildren (index : Nat) (pred : Predicate) : List (ScopeStep × StructuredQuery) :=
  pred.valueSubquery.toList.map (Prod.mk (.value index)) ++
    pred.existsSubquery.toList.map (Prod.mk (.existence index))

/-- The subqueries of predicates counted from `index`, with their steps. -/
def indexedChildren (index : Nat) : List Predicate → List (ScopeStep × StructuredQuery)
  | [] => []
  | pred :: rest => predicateChildren index pred ++ indexedChildren (index + 1) rest

/-- The WITH bodies counted from `index`, with their steps. -/
def cteChildren (index : Nat) : List CteSpec → List (ScopeStep × StructuredQuery)
  | [] => []
  | spec :: rest => (.cte index, spec.query) :: cteChildren (index + 1) rest

/-- The arms counted from `index`, with their steps. -/
def armChildren (index : Nat) : List StructuredQuery → List (ScopeStep × StructuredQuery)
  | [] => []
  | arm :: rest => (.arm index, arm) :: armChildren (index + 1) rest

/-- The queries directly inside a scope, with the step to each. -/
def childScopes (query : StructuredQuery) : List (ScopeStep × StructuredQuery) :=
  cteChildren 0 query.ctes ++ armChildren 0 query.arms ++
    indexedChildren 0 (iterWhereAndHavingPredicates query)

/-- The trees of children with their steps. -/
def childTrees (children : List (ScopeStep × StructuredQuery)) : List ScopeTree :=
  children.map fun child => scopeTree child.1 child.2

theorem childTrees_append (first second : List (ScopeStep × StructuredQuery)) :
    childTrees (first ++ second) = childTrees first ++ childTrees second :=
  List.map_append

theorem indexedChildren_append (index : Nat) (first second : List Predicate) :
    indexedChildren index (first ++ second) =
      indexedChildren index first ++ indexedChildren (index + first.length) second := by
  induction first generalizing index with
  | nil => rfl
  | cons pred rest ih =>
      rw [List.cons_append, indexedChildren, ih, indexedChildren, List.append_assoc,
        List.length_cons, Nat.add_right_comm, Nat.add_assoc]

theorem optionTree_eq (step : ScopeStep) (query : Option StructuredQuery) :
    optionTree step query = childTrees (query.toList.map (Prod.mk step)) := by
  cases query with
  | none => rfl
  | some query => rfl

theorem predicateTrees_eq (index : Nat) (pred : Predicate) :
    predicateTrees index pred = childTrees (predicateChildren index pred) := by
  obtain ⟨_, _, _, _, _, _, _, valueSubquery, existsSubquery⟩ := pred
  rw [predicateTrees, predicateChildren, childTrees_append, optionTree_eq, optionTree_eq]

mutual

theorem nodeTrees_eq (index : Nat) : ∀ node : WhereNode,
    nodeTrees index node = childTrees (indexedChildren index (iterWherePredicates node))
  | .predicate pred => by
      rw [nodeTrees, iterWherePredicates, predicateTrees_eq, indexedChildren, indexedChildren,
        List.append_nil]
  | .group andTerms orTerms (some node) => by
      rw [nodeTrees, iterWherePredicates]
      exact nodeTrees_eq index node
  | .group andTerms orTerms none => by
      rw [nodeTrees, iterWherePredicates]
      by_cases truthy : truthyTerms andTerms = true
      · simp only [truthy, ↓reduceIte]
        exact termTrees_eq index andTerms
      · simp only [truthy]
        exact termTrees_eq index orTerms
termination_by structural node => node

theorem termTrees_eq (index : Nat) : ∀ nodes : Option (List WhereNode),
    termTrees index nodes = childTrees (indexedChildren index (termPredicates nodes))
  | none => rfl
  | some nodes => by
      rw [termTrees, termPredicates]
      exact nodeListTrees_eq index nodes
termination_by structural nodes => nodes

theorem nodeListTrees_eq (index : Nat) : ∀ nodes : List WhereNode,
    nodeListTrees index nodes = childTrees (indexedChildren index (nodePredicates nodes))
  | [] => rfl
  | node :: rest => by
      rw [nodeListTrees, nodePredicates, indexedChildren_append, childTrees_append,
        nodeTrees_eq index node, nodeListTrees_eq _ rest]
termination_by structural nodes => nodes

end

theorem optionNodeTrees_eq (index : Nat) (node : Option WhereNode) :
    optionNodeTrees index node = childTrees (indexedChildren index (optionPredicates node)) := by
  cases node with
  | none => rfl
  | some node => exact nodeTrees_eq index node

theorem cteTrees_eq (index : Nat) (specs : List CteSpec) :
    cteTrees index specs = childTrees (cteChildren index specs) := by
  induction specs generalizing index with
  | nil => rfl
  | cons spec rest ih =>
      obtain ⟨name, query⟩ := spec
      rw [cteTrees, cteTree, ih]
      rfl

theorem armListTrees_eq (index : Nat) (arms : List StructuredQuery) :
    armListTrees index arms = childTrees (armChildren index arms) := by
  induction arms generalizing index with
  | nil => rfl
  | cons arm rest ih =>
      rw [armListTrees, ih]
      rfl

/-- The tree of a query: its scope, and the trees of the queries inside it. -/
theorem scopeTree_eq (step : ScopeStep) (query : StructuredQuery) :
    scopeTree step query = .node step query (childTrees (childScopes query)) := by
  have unfolded : scopeTree step query = .node step query
      (cteTrees 0 query.ctes ++ setOpTrees query.setOp ++ optionNodeTrees 0 query.where_ ++
        optionNodeTrees (optionPredicates query.where_).length query.having) := by
    cases query
    rfl
  have arms : setOpTrees query.setOp = childTrees (armChildren 0 query.arms) := by
    unfold StructuredQuery.arms
    cases query.setOp with
    | none => rfl
    | some spec =>
        obtain ⟨_, _, arms⟩ := spec
        exact armListTrees_eq 0 arms
  rw [unfolded, cteTrees_eq, arms, optionNodeTrees_eq, optionNodeTrees_eq, childScopes,
    iterWhereAndHavingPredicates, indexedChildren_append, childTrees_append, childTrees_append,
    childTrees_append, Nat.zero_add, List.append_assoc, List.append_assoc]

theorem map_snd_indexedChildren (index : Nat) (preds : List Predicate) :
    (indexedChildren index preds).map Prod.snd = preds.flatMap Predicate.subqueries := by
  induction preds generalizing index with
  | nil => rfl
  | cons pred rest ih =>
      rw [indexedChildren, List.map_append, ih, List.flatMap_cons]
      simp [predicateChildren, Predicate.subqueries, Function.comp_def]

/-- The children of a scope are the queries directly inside it. -/
theorem map_snd_childScopes (query : StructuredQuery) :
    (childScopes query).map Prod.snd = directScopes query := by
  have bodies : ∀ (specs : List CteSpec) (index : Nat),
      (cteChildren index specs).map Prod.snd = specs.map CteSpec.query := by
    intro specs
    induction specs with
    | nil => exact fun _ => rfl
    | cons spec rest ih => exact fun index => congrArg _ (ih (index + 1))
  have arms : ∀ (queries : List StructuredQuery) (index : Nat),
      (armChildren index queries).map Prod.snd = queries := by
    intro queries
    induction queries with
    | nil => exact fun _ => rfl
    | cons query rest ih => exact fun index => congrArg _ (ih (index + 1))
  rw [childScopes, List.map_append, List.map_append, bodies, arms, map_snd_indexedChildren,
    directScopes]

theorem mem_directScopes_of_childScopes {query : StructuredQuery}
    {child : ScopeStep × StructuredQuery} (member : child ∈ childScopes query) :
    child.2 ∈ directScopes query := by
  rw [← map_snd_childScopes]
  exact List.mem_map_of_mem member

/-- A scope stands at a path inside a tree. -/
inductive ScopeTree.At : ScopeTree → ScopePath → StructuredQuery → Prop where
  | here {step : ScopeStep} {scope : StructuredQuery} {children : List ScopeTree} :
      At (.node step scope children) [] scope
  | inside {step : ScopeStep} {scope found : StructuredQuery} {children : List ScopeTree}
      {child : ScopeTree} {path : ScopePath} (member : child ∈ children)
      (below : At child path found) : At (.node step scope children) (child.step :: path) found

/-- A scope of a query, at its path from the root. -/
def ScopeAt (query : StructuredQuery) (path : ScopePath) (scope : StructuredQuery) : Prop :=
  (scopeTree .root query).At path scope

/-- A scope at a path of a query's tree is one of its scopes. -/
theorem mem_scopesOf_of_at {query : StructuredQuery} : ∀ {step : ScopeStep} {path : ScopePath}
    {scope : StructuredQuery}, (scopeTree step query).At path scope → scope ∈ scopesOf query := by
  induction query using StructuredQuery.scopeInduction with
  | step query ih =>
      intro step path scope at_
      rw [scopeTree_eq] at at_
      cases at_ with
      | here => exact self_mem_scopesOf query
      | inside member below =>
          obtain ⟨child, inChildren, rfl⟩ := List.mem_map.mp member
          have direct := mem_directScopes_of_childScopes inChildren
          exact mem_scopesOf_of_directScopes direct (ih child.2 direct below)

theorem ScopeAt.mem_scopesOf {query : StructuredQuery} {path : ScopePath}
    {scope : StructuredQuery} (at_ : ScopeAt query path scope) : scope ∈ scopesOf query :=
  mem_scopesOf_of_at at_

theorem ScopeAt.root (query : StructuredQuery) : ScopeAt query [] query := by
  rw [ScopeAt, scopeTree_eq]
  exact .here

theorem mem_cteChildren {specs : List CteSpec} {spec : CteSpec} {offset : Nat} :
    ∀ {index : Nat}, specs[offset]? = some spec →
      (ScopeStep.cte (index + offset), spec.query) ∈ cteChildren index specs := by
  induction specs generalizing offset with
  | nil =>
      intro index absurd
      cases absurd
  | cons first rest ih =>
      intro index found
      cases offset with
      | zero =>
          cases found
          exact List.mem_cons_self ..
      | succ offset =>
          rw [Nat.add_comm offset 1, ← Nat.add_assoc]
          exact List.mem_cons_of_mem _ (ih found)

/-- A scope inside the WITH body at `index` is a scope of the query. -/
theorem ScopeAt.of_cte {query : StructuredQuery} {spec : CteSpec} {index : Nat}
    (found : query.ctes[index]? = some spec) {path : ScopePath} {scope : StructuredQuery}
    (at_ : (scopeTree (.cte index) spec.query).At path scope) :
    ScopeAt query (.cte index :: path) scope := by
  have member : (ScopeStep.cte index, spec.query) ∈ childScopes query := by
    refine List.mem_append_left _ (List.mem_append_left _ ?_)
    have child : (ScopeStep.cte (0 + index), spec.query) ∈ cteChildren 0 query.ctes :=
      mem_cteChildren found
    rwa [Nat.zero_add] at child
  have step_eq : (scopeTree (.cte index) spec.query).step = .cte index := by
    rw [scopeTree_eq]
    rfl
  have inside : (ScopeTree.node .root query (childTrees (childScopes query))).At
      ((scopeTree (.cte index) spec.query).step :: path) scope :=
    .inside (List.mem_map.mpr ⟨_, member, rfl⟩) at_
  rw [ScopeAt, scopeTree_eq]
  simpa only [step_eq] using inside

@[simp] theorem scopeTree_step (step : ScopeStep) (query : StructuredQuery) :
    (scopeTree step query).step = step := by
  rw [scopeTree_eq]
  rfl

@[simp] theorem scopeTree_scope (step : ScopeStep) (query : StructuredQuery) :
    (scopeTree step query).scope = query := by
  rw [scopeTree_eq]
  rfl

/-- A scope directly inside a scope of the tree stands one step below it. -/
theorem ScopeTree.At.child {tree : ScopeTree} {path : ScopePath} {scope : StructuredQuery}
    {step : ScopeStep} {child : StructuredQuery} (at_ : tree.At path scope) :
    ∀ {root : StructuredQuery} {rootStep : ScopeStep}, tree = scopeTree rootStep root →
      (step, child) ∈ childScopes scope → tree.At (path ++ [step]) child := by
  induction at_ with
  | here =>
      intro root rootStep built member
      rw [scopeTree_eq] at built
      injection built with _ sameScope sameChildren
      rw [← sameScope] at sameChildren
      have below : (scopeTree step child).At [] child := by
        rw [scopeTree_eq]
        exact .here
      have inChildren : scopeTree step child ∈ childTrees (childScopes _) :=
        List.mem_map.mpr ⟨_, member, rfl⟩
      rw [← sameChildren] at inChildren
      rw [List.nil_append, ← scopeTree_step step child]
      exact .inside inChildren below
  | inside inChildren _ ih =>
      intro root rootStep built member
      rw [scopeTree_eq] at built
      cases built
      obtain ⟨pair, _, same⟩ := List.mem_map.mp inChildren
      exact .inside inChildren (ih same.symm member)

/-- The scopes directly inside a scope of a query stand one step below it. -/
theorem ScopeAt.child {query scope child : StructuredQuery} {path : ScopePath} {step : ScopeStep}
    (at_ : ScopeAt query path scope) (member : (step, child) ∈ childScopes scope) :
    ScopeAt query (path ++ [step]) child :=
  ScopeTree.At.child at_ rfl member

/-- Every scope below the root stands one step below another. -/
theorem ScopeTree.At.parent {tree : ScopeTree} {full : ScopePath} {nested : StructuredQuery}
    (at_ : tree.At full nested) : ∀ {root : StructuredQuery} {rootStep step : ScopeStep}
    {path : ScopePath}, tree = scopeTree rootStep root → full = path ++ [step] →
    ∃ scope, tree.At path scope ∧ (step, nested) ∈ childScopes scope := by
  induction at_ with
  | here =>
      intro root rootStep step path _ split
      exact absurd split.symm (List.append_ne_nil_of_right_ne_nil _ (List.cons_ne_nil _ _))
  | @inside nodeStep scope found children child rest member below ih =>
      intro root rootStep step path built split
      rw [scopeTree_eq] at built
      cases built
      obtain ⟨kid, inKids, rfl⟩ := List.mem_map.mp member
      cases path with
      | nil =>
          injection split with sameStep noRest
          rw [noRest, scopeTree_eq] at below
          cases below
          rw [scopeTree_step] at sameStep
          rw [← sameStep]
          exact ⟨scope, .here, inKids⟩
      | cons first later =>
          injection split with sameStep split
          obtain ⟨parent, above, inParent⟩ := ih rfl split
          rw [← sameStep]
          exact ⟨parent, .inside member above, inParent⟩

/-- Every scope of a query below the root stands one step below another. -/
theorem ScopeAt.parent {query nested : StructuredQuery} {path : ScopePath} {step : ScopeStep}
    (at_ : ScopeAt query (path ++ [step]) nested) :
    ∃ scope, ScopeAt query path scope ∧ (step, nested) ∈ childScopes scope :=
  ScopeTree.At.parent at_ rfl rfl

/-- The WITH blocks a scope at a path can name: those before its own block, or
all. -/
def visibleCteNames (query : StructuredQuery) : ScopePath → List String
  | .cte index :: _ => (query.ctes.take index).map fun spec => casefold spec.name
  | _ => declaredCteNames query

end QueryGate
