import QueryGate.Compiler.ScopeBody

/-! # Compiling a query

`compile_structured_query` over the scope tree of a query. The WITH blocks are
compiled first, in declaration order, each seeing the blocks before it; only the
top-level query declares any, which policy validation enforces. Below them every
scope is compiled from its own tables and from the statements of its subqueries.
-/

namespace QueryGate

open Foundation

/-- `clamp_limit`. -/
def clampLimit (requested : Option Int) (policy : Policy) (isAggregate : Bool) : Gate Int := do
  let maxLimit := if isAggregate then policy.maxLimitAggregate else policy.maxLimit
  let limit := requested.getD policy.defaultLimit
  invalid (limit < 1) "limit must be >= 1"
  pure (min limit maxLimit)

/-- The columns of a derived table over a select list, by position. -/
def derivedColumns (columns : List SqlColumn) : List (String × SqlExpr) :=
  columns.zipIdx.map fun entry => (entry.1.name, .derived entry.2 entry.1.name)

/-- `alias_map.setdefault(item, column)` for each bare item, by position. -/
def addWrittenRefs : AliasMap → List (SelectItem × SqlExpr) → AliasMap
  | aliasMap, [] => aliasMap
  | aliasMap, (.bare ref, column) :: rest =>
      addWrittenRefs (if (dictGet aliasMap ref).isSome then aliasMap else aliasMap ++ [(ref, column)])
        rest
  | aliasMap, _ :: rest => addWrittenRefs aliasMap rest

/-- The output names of a derived table over a scope's select list. -/
def derivedAliasMap (query : StructuredQuery) (columns : List SqlColumn) : AliasMap :=
  addWrittenRefs (dictOf (derivedColumns columns))
    (query.select.zip ((derivedColumns columns).map Prod.snd))

/-- One ORDER BY term, by output name or, where allowed, by column. -/
def orderTerm (adapter : DialectAdapter) (tables : Tables) (aliasMap : AliasMap)
    (allowTableFallback : Bool) (order : OrderBySpec) : Gate SqlExpr := do
  let column ← resolveOutputRef tables aliasMap allowTableFallback order.col
  adapterCall adapter (.orderByTerms order.dir order.nulls) [column]

/-- `_apply_top_n`: the rank wrapper. Over an aggregation the ranked columns are
those of the derived table, and no table column can be named. -/
def applyTopN (adapter : DialectAdapter) (query : StructuredQuery) (tables : Tables)
    (body : ScopeBody) (spec : TopNSpec) : Gate SqlTopN := do
  let isAggregate := isAggregateScope query
  let aliasMap := if isAggregate then derivedAliasMap query body.select.columns else body.aliasMap
  let partitionBy ← mapAll (resolveOutputRef tables aliasMap (!isAggregate)) spec.partitionBy
  let orderBy ← mapAll (orderTerm adapter tables aliasMap (!isAggregate)) spec.orderBy
  pure (.mk spec.n spec.fn partitionBy orderBy)

/-- The statement of a scope without a set operation. -/
def compileSingle (context : CompileContext) (query : StructuredQuery) (tables : Tables)
    (body : ScopeBody) : Gate Statement := do
  let topN ← sequenceOption (query.topN.map (applyTopN context.adapter query tables body))
  let aliasMap := if query.topN.isSome then derivedAliasMap query body.select.columns
    else body.aliasMap
  let orderBy ← mapAll (orderTerm context.adapter tables aliasMap (!query.topN.isSome))
    query.orderBy
  let limit ← clampLimit query.limit context.policy (isAggregateScope query)
  pure (.mk [body.select] none topN orderBy (some limit) query.offset)

/-- `_compile_set_operation`, from the bodies of the further arms. -/
def compileSetOperation (context : CompileContext) (query : StructuredQuery) (tables : Tables)
    (spec : SetOpSpec) (carrier : Gate ScopeBody) (armBodies : List (Gate ScopeBody)) :
    Gate Statement := do
  let first ← carrier
  let others ← mapAll id armBodies
  context.adapter (.setOperation spec.op spec.all) []
  let orderBy ← mapAll
    (orderTerm context.adapter tables (derivedAliasMap query first.select.columns) false)
    query.orderBy
  let limit ← clampLimit query.limit context.policy ((iterSetOpArms query).all isAggregateScope)
  pure (.mk (first.select :: others.map ScopeBody.select) (some (spec.op, spec.all)) none orderBy
    (some limit) query.offset)

/-- The statement of a scope, from its body and the bodies of its arms. The
ORDER BY and top-n references resolve against the scope's tables as validated. -/
def compileStatement (context : CompileContext) (query : StructuredQuery) (tables : Tables)
    (body : Gate ScopeBody) (armBodies : List (Gate ScopeBody)) : Gate Statement :=
  match query.setOp with
  | some spec => compileSetOperation context query tables spec body armBodies
  | none => do
      let compiled ← body
      compileSingle context query tables compiled

/-- A compiled scope: its SELECT, and the statement around it. -/
structure CompiledScope where
  step : ScopeStep
  body : Gate ScopeBody
  statement : Gate Statement

/-- The refusal of a scope that schema validation did not see. -/
def notValidatedMessage : ScopeStep → String
  | .arm _ => "Set-operation arm was not schema-validated"
  | .existence _ => "EXISTS subquery was not schema-validated"
  | .value _ | .cte _ | .root => "Subquery was not schema-validated"

/-- The statements of compiled subqueries, by step. -/
def subqueryStatements (children : List CompiledScope) : List (ScopeStep × Gate Statement) :=
  children.map fun child => (child.step, child.statement)

/-- The bodies of compiled arms, in order. -/
def armBodies (children : List CompiledScope) : List (Gate ScopeBody) :=
  children.filterMap fun child => match child.step with
    | .arm _ => some child.body
    | _ => none

/-- Compile one scope from its compiled children. -/
def compileScope (context : CompileContext) (cteObjects : CteObjects) (path : ScopePath)
    (step : ScopeStep) (scope : StructuredQuery) (children : List CompiledScope) : CompiledScope :=
  match dictGet context.scopeTables path with
  | none =>
      { step := step
        body := .error (queryValidationError (notValidatedMessage step))
        statement := .error (queryValidationError (notValidatedMessage step)) }
  | some tables =>
      let body := compileScopeBody context cteObjects path scope tables
        (subqueryStatements children)
      { step := step
        body := body
        statement := compileStatement context scope tables body (armBodies children) }

mutual

/-- Compile the scopes of a tree, WITH bodies apart. -/
def compileTree (context : CompileContext) (cteObjects : CteObjects) :
    ScopeTree → ScopePath → CompiledScope
  | .node step scope children, path =>
      compileScope context cteObjects path step scope
        (compileForest context cteObjects children path)
termination_by structural tree => tree

/-- Compile the arms and subqueries directly inside a scope. -/
def compileForest (context : CompileContext) (cteObjects : CteObjects) :
    List ScopeTree → ScopePath → List CompiledScope
  | [], _ => []
  | tree :: rest, path =>
      if tree.step.isCte then compileForest context cteObjects rest path
      else
        compileTree context cteObjects tree (path ++ [tree.step]) ::
          compileForest context cteObjects rest path
termination_by structural trees => trees

end

/-- A compiled WITH block. -/
structure CompiledCte where
  source : FromObj
  statement : Statement

/-- `_compile_cte`: the block keeps a row limit only where the caller set one. -/
def compileCte (context : CompileContext) (cteObjects : CteObjects) (index : Nat)
    (spec : CteSpec) : Gate CompiledCte := do
  invalid (dictGet context.scopeTables [.cte index]).isNone
    s!"cte {quoted spec.name} was not schema-validated"
  let compiled := compileTree context cteObjects (scopeTree (.cte index) spec.query) [.cte index]
  let statement ← compiled.statement
  let body ← compiled.body
  pure {
    source := .cte spec.name (body.select.columns.map SqlColumn.name)
    statement := if spec.query.limit.isNone then statement.withoutLimit else statement }

/-- The WITH blocks, in declaration order. -/
def compileCtes (context : CompileContext) :
    Nat → CteObjects → List CteSpec → Gate (CteObjects × List CompiledCte)
  | _, cteObjects, [] => .ok (cteObjects, [])
  | index, cteObjects, spec :: rest => do
      let block ← compileCte context cteObjects index spec
      let (all, blocks) ← compileCtes context (index + 1)
        (dictSet cteObjects (casefold spec.name) block.source) rest
      pure (all, block :: blocks)

/-- A compiled query: its WITH blocks and its statement. -/
structure CompiledQuery where
  ctes : List CompiledCte
  statement : Statement

/-- `compile_structured_query` in a fixed context. -/
def compileIn (context : CompileContext) (query : StructuredQuery) : Gate CompiledQuery := do
  let (cteObjects, ctes) ← compileCtes context 0 [] query.ctes
  let statement ← (compileTree context cteObjects (scopeTree .root query) []).statement
  pure ⟨ctes, statement⟩

/-- `compile_structured_query`, with the tables schema validation bound. -/
def compileStructuredQuery (adapter : DialectAdapter) (context : RequestContext)
    (query : StructuredQuery) (policy : Policy) (reflected : ReflectedQuery)
    (scopeConnections : Option ScopeConnections) (snapshot : Option ConnectionResolver) :
    Gate CompiledQuery := do
  let connections ← policyConnections context query scopeConnections snapshot
  compileIn {
      policy := policy
      adapter := adapter
      request := { context with resolver := snapshot.getD context.resolver }
      connections := connections
      scopeTables := reflected.scopeTables }
    query

/-- A statement occurs in a compiled query: in a WITH block or in the statement. -/
def CompiledQuery.Within (compiled : CompiledQuery) (found : Statement) : Prop :=
  compiled.statement.Within found ∨ ∃ block ∈ compiled.ctes, block.statement.Within found

/-- A SELECT occurs in a compiled query. -/
def CompiledQuery.Contains (compiled : CompiledQuery) (select : Select) : Prop :=
  ∃ found, compiled.Within found ∧ select ∈ found.arms

end QueryGate
