import QueryGate.Compiler.Expressions

/-! # Compiling the SELECT of one scope

`_compile_scope_body`: projection, FROM and JOIN chain, mandatory row filters,
WHERE, GROUP BY, HAVING and the k-anonymity floor, over the scope's own tables
with each WITH placeholder swapped for the compiled block.
-/

namespace QueryGate

open Foundation

/-- The compiled WITH blocks, by case-folded name. -/
abbrev CteObjects := List (String × FromObj)

/-- What does not change while one request is compiled. -/
structure CompileContext where
  policy : Policy
  adapter : DialectAdapter
  request : RequestContext
  connections : ScopeConnections
  scopeTables : ScopeTables

/-- The substitution of `_resolve_cte_references` on one entry. -/
def resolveCteEntry (query : StructuredQuery) (cteObjects : CteObjects) (path : ScopePath)
    (entry : String × FromObj) : String × FromObj :=
  let sourceName := casefold (physicalTable query entry.1)
  match dictGet cteObjects sourceName with
  | none => entry
  | some cte =>
      (entry.1, if casefold entry.1 = sourceName then cte else .alias cte entry.1 path)

/-- `_resolve_cte_references`. -/
def resolveCteReferences (query : StructuredQuery) (tables : Tables) (cteObjects : CteObjects)
    (path : ScopePath) : Tables :=
  tables.map (resolveCteEntry query cteObjects path)

/-- The policies to consult for a name of a scope. -/
def candidatePolicies (context : CompileContext) (query : StructuredQuery) (name : String) :
    Gate (List Policy) :=
  resolveTablePolicies
    (tableConnectionId (context.connections query) name context.request.connectionId)
    context.request.connectionId context.policy context.request.principal context.request.resolver

/-- `_mask_for_select_ref`. -/
def maskForSelectRef (context : CompileContext) (query : StructuredQuery) (ref : String) :
    Gate (Option ColumnMask) := do
  let (table, column) ← parseColumnRef ref
  let candidates ← candidatePolicies context query table
  pure (columnMaskAnywhere (physicalTable query table) column candidates)

/-- The column of a bare projection, masked where the policy says so. -/
def maskedColumn (adapter : DialectAdapter) (mask : Option ColumnMask) (column : SqlExpr) :
    Gate SqlExpr :=
  match mask with
  | none => .ok column
  | some mask => adapterCall adapter (.columnMask mask) [column]

/-- A projected column with the output names it adds. -/
abbrev CompiledItem := SqlColumn × AliasMap

/-- A computed projection under one output name. -/
def labeled (name : String) (expr : SqlExpr) : CompiledItem :=
  (.mk name false expr, [(name, expr)])

/-- A projection that applies an adapter method to one column. -/
def adapterItem (adapter : DialectAdapter) (tables : Tables) (method : AdapterMethod)
    (col : String) (alias_ : Option String) (default_ : String → String) : Gate CompiledItem := do
  let (table, column) ← resolveColumnRef tables col
  let expr ← adapterCall adapter method [.column table column.name (some col)]
  pure (labeled (orElseText alias_ (default_ column.name)) expr)

/-- `_aggregate_fn`: the statistics functions are routed through the adapter. -/
def checkAggregateFn (adapter : DialectAdapter) : AggregateFn → Gate Unit
  | .stddev => adapter (.statFn .stddev) []
  | .variance => adapter (.statFn .variance) []
  | _ => .ok ()

/-- An aggregate projection, once its argument is compiled. -/
def aggregateExpr (fn : AggregateFn) (distinct : Bool) (arg : Option (Gate SqlExpr)) :
    Gate SqlExpr :=
  match arg with
  | none => do
      invalid (fn != .count) "Only count(*) is allowed as a star aggregate"
      pure (.aggregate fn false [])
  | some compiled => do
      let expr ← compiled
      pure (.aggregate fn distinct [expr])

/-- The default name of an aggregate projection. -/
def aggregateDefaultName (fn : AggregateFn) : Option Expression → Gate String
  | none => .ok (fn.value ++ "_all")
  | some (.column col) => columnOutputName fn.value col
  | some _ => .error ⟨.attributeError, "'col'"⟩

/-- The default name of a scalar function projection. -/
def scalarDefaultName (call : ScalarFunctionCall) : Gate String :=
  match call.columnArgs with
  | col :: _ => columnOutputName call.fn.value col
  | [] => .ok (call.fn.value ++ "_result")

/-- One select item of `_build_select_columns`. -/
def compileSelectItem (context : CompileContext) (query : StructuredQuery) (tables : Tables) :
    SelectItem → Gate CompiledItem
  | .bare ref => do
      let (table, column) ← resolveColumnRef tables ref
      let mask ← maskForSelectRef context query ref
      let expr ← maskedColumn context.adapter mask (.column table column.name (some ref))
      pure (.mk column.name true expr, [(column.name, expr), (ref, expr)])
  | .dateBucket item =>
      adapterItem context.adapter tables (.dateBucket item.granularity) item.col item.alias_
        fun name => s!"bucket_{name}_{item.granularity.value}"
  | .scalarFunction call alias_ => do
      let expr ← scalarCall tables call
      let name ← aliasOr alias_ (scalarDefaultName call)
      pure (labeled name expr)
  | .stringAgg item =>
      adapterItem context.adapter tables (.stringAgg item.delimiter) item.col item.alias_
        fun name => s!"string_agg_{name}"
  | .arrayAgg item =>
      adapterItem context.adapter tables .arrayAgg item.col item.alias_
        fun name => s!"array_agg_{name}"
  | .percentileCont item =>
      adapterItem context.adapter tables (.percentileCont item.fraction) item.col item.alias_
        fun name => s!"percentile_cont_{name}"
  | .window call alias_ => do
      let expr ← compileWindow context.adapter tables call
      pure (labeled alias_ expr)
  | .case when_ else_ alias_ => do
      let expr ← compileExpression context.adapter tables (.case when_ else_)
      pure (labeled alias_ expr)
  | .expression expression alias_ => do
      let expr ← compileExpression context.adapter tables expression
      pure (labeled alias_ expr)
  | .aggregate fn _ arg distinct alias_ => do
      checkAggregateFn context.adapter fn
      let expr ← aggregateExpr fn distinct (compileOptional context.adapter tables arg)
      let name ← aliasOr alias_ (aggregateDefaultName fn arg)
      pure (labeled name expr)

/-- `alias_map[key] = value`, for each entry in order. -/
def extendAliasMap (aliasMap entries : AliasMap) : AliasMap :=
  entries.foldl (fun extended entry => dictSet extended entry.1 entry.2) aliasMap

/-- `_build_select_columns`. -/
def buildSelectColumns (context : CompileContext) (query : StructuredQuery) (tables : Tables) :
    Gate (List SqlColumn × AliasMap) := do
  let items ← mapAll (compileSelectItem context query tables) query.select
  pure (items.map Prod.fst, items.foldl (fun aliasMap item => extendAliasMap aliasMap item.2) [])

/-- One equality of an `on` or `extra_on` pair. -/
def compilePair (tables : Tables) (pair : String × String) : Gate SqlCondition := do
  let (leftTable, leftColumn) ← parseColumnRef pair.1
  let (rightTable, rightColumn) ← parseColumnRef pair.2
  let left ← tableByName tables leftTable
  let leftFound ← resolveColumn left leftColumn
  let right ← tableByName tables rightTable
  let rightFound ← resolveColumn right rightColumn
  pure (.equal (.column left leftFound.name (some pair.1))
    (.column right rightFound.name (some pair.2)))

/-- The pairs of a join, `on` first. A join with neither pairs nor a condition is
not an accepted shape. -/
def joinPairs (join : JoinSpec) : Gate (List (String × String)) :=
  match join.on with
  | some pair => .ok (pair :: join.extraOn)
  | none => .error ⟨.typeError, "cannot unpack non-iterable NoneType object"⟩

/-- `sa.and_` of several conditions, or the only one. -/
def conjunction : List SqlCondition → SqlCondition
  | [condition] => condition
  | conditions => .and conditions

/-- The ON condition of a join. -/
def joinCondition (adapter : DialectAdapter) (tables : Tables) (join : JoinSpec) :
    Gate SqlCondition :=
  if join.type = .cross then .ok .always
  else
    match join.condition with
    | some condition => compileWhere adapter tables [] none 0 condition
    | none => do
        let pairs ← joinPairs join
        let conditions ← mapAll (compilePair tables) pairs
        pure (conjunction conditions)

/-- One element of the JOIN chain. -/
def compileJoin (adapter : DialectAdapter) (tables : Tables) (join : JoinSpec) :
    Gate SqlJoin := do
  let right ← tableByName tables join.name
  let condition ← joinCondition adapter tables join
  pure (.mk right join.type condition)

/-- The names of the from and join occurrences, as declared. -/
def StructuredQuery.declaredKeys (query : StructuredQuery) : List String :=
  query.fromName :: query.joins.map JoinSpec.name

/-- The condition one mandatory filter adds for one occurrence. -/
def compileRowFilter (context : CompileContext) (tables : Tables) (key : String)
    (rowFilter : MandatoryRowFilter) : Gate SqlCondition := do
  let value ← rowFilter.resolve context.request.principal
  let table ← tableByName tables key
  let column ← resolveColumn table rowFilter.column
  pure (.rowFilter table column.name value)

/-- The filters of a list of policies on a physical table. -/
def filtersOn (candidates : List Policy) (physical : String) : List MandatoryRowFilter :=
  candidates.flatMap fun candidate => candidate.mandatoryRowFilters.filter fun rowFilter =>
    casefold rowFilter.table == casefold physical

/-- The conditions `_apply_mandatory_row_filters` adds for one occurrence. -/
def occurrenceFilters (context : CompileContext) (query : StructuredQuery) (tables : Tables)
    (cteNames : List String) (key : String) : Gate (List SqlCondition) :=
  let physical := physicalTable query key
  if cteNames.contains (casefold physical) then .ok []
  else do
    let candidates ← candidatePolicies context query key
    mapAll (compileRowFilter context tables key) (filtersOn candidates physical)

/-- `_apply_mandatory_row_filters`: the conjuncts it adds. -/
def applyMandatoryRowFilters (context : CompileContext) (query : StructuredQuery)
    (tables : Tables) (cteNames : List String) : Gate (List SqlCondition) := do
  let conditions ← mapAll (occurrenceFilters context query tables cteNames) query.declaredKeys
  pure conditions.flatten

/-- `_resolve_output_ref`. -/
def resolveOutputRef (tables : Tables) (aliasMap : AliasMap) (allowTableFallback : Bool)
    (ref : String) : Gate SqlExpr :=
  match dictGet aliasMap ref with
  | some target => .ok (.output ref target)
  | none =>
      if allowTableFallback && hasDot ref then columnExpr tables ref
      else .error (queryValidationError s!"Unknown column or alias {quoted ref}")

/-- The column of the joined table that a pair pins to another table's column. -/
def takePair (joined : String) (pair : String × String) : Gate (List String) := do
  let (leftTable, leftColumn) ← parseColumnRef pair.1
  let (rightTable, rightColumn) ← parseColumnRef pair.2
  if casefold leftTable = joined ∧ casefold rightTable ≠ joined then
    pure [casefold leftColumn]
  else if casefold rightTable = joined ∧ casefold leftTable ≠ joined then
    pure [casefold rightColumn]
  else
    pure []

/-- The pair of an equality between two columns. -/
def Predicate.equatedPair (pred : Predicate) : List (String × String) :=
  match pred.op, pred.col, pred.valueCol with
  | .eq, some col, some valueCol => [(col, valueCol)]
  | _, _, _ => []

mutual

/-- The equalities that hold for every row a condition matches: those of its
top-level conjuncts. -/
def equatedPairs : WhereNode → List (String × String)
  | .predicate pred => pred.equatedPair
  | .group andTerms _ _ => termEquatedPairs andTerms
termination_by structural node => node

/-- The equalities of an optional list of conjuncts. -/
def termEquatedPairs : Option (List WhereNode) → List (String × String)
  | none => []
  | some nodes => nodeEquatedPairs nodes
termination_by structural nodes => nodes

/-- The equalities of a list of conjuncts. -/
def nodeEquatedPairs : List WhereNode → List (String × String)
  | [] => []
  | node :: rest => equatedPairs node ++ nodeEquatedPairs rest
termination_by structural nodes => nodes

end

/-- `_equality_bound_columns`. -/
def equalityBoundColumns (join : JoinSpec) : Gate (Option (List String)) :=
  if join.type = .cross then .ok none
  else
    match join.on, join.condition with
    | some pair, _ => do
        let bound ← mapAll (takePair (casefold join.name)) (pair :: join.extraOn)
        pure (some bound.flatten)
    | none, some condition => do
        let bound ← mapAll (takePair (casefold join.name)) (equatedPairs condition)
        pure (some bound.flatten)
    | none, none => .ok none

/-- `_unique_column_sets`. -/
def uniqueColumnSets (source : FromObj) : List (List String) :=
  match source.element with
  | .table _ _ schema =>
      (([schema.primaryKey] ++ schema.uniqueConstraints ++ schema.uniqueIndexes).filter
        fun columns => !columns.isEmpty).map fun columns => columns.map casefold
  | _ => []

/-- `_join_can_fan_out`. -/
def joinCanFanOut (tables : Tables) (join : JoinSpec) : Gate Bool := do
  let bound ← equalityBoundColumns join
  match bound with
  | none => .ok true
  | some columns => do
      let table ← tableByName tables join.name
      pure (!(uniqueColumnSets table).any fun unique => unique.all columns.contains)

/-- The names of the joins that can fan out. -/
def fanningJoins (tables : Tables) : List JoinSpec → Gate (List String)
  | [] => .ok []
  | join :: rest => do
      let fans ← joinCanFanOut tables join
      let others ← fanningJoins tables rest
      pure (if fans then join.name :: others else others)

/-- The refusal of a fanning join under the floor. -/
def fanOutMessage (joinName : String) (floor : Int) : String :=
  s!"join to {quoted joinName} can match more than one row per row of the " ++
    "query's other tables, which would inflate the count that " ++
    s!"min_group_size ({floor}) floors — so the k-anonymity " ++
    "guarantee cannot hold for this query. Join on the target table's " ++
    "primary key or a unique column, or aggregate without the join and " ++
    "combine results client-side."

/-- The HAVING conjunct of the k-anonymity floor. -/
def groupFloor (policy : Policy) (query : StructuredQuery) (tables : Tables) :
    Gate (List SqlCondition) :=
  match policy.minGroupSize with
  | none => .ok []
  | some floor =>
      if isAggregateScope query then do
        let fanning ← fanningJoins tables query.joins
        refuse (!fanning.isEmpty)
          (policyViolationError (fanOutMessage (fanning.headD "") floor))
        pure [.countAtLeast floor]
      else
        .ok []

/-- An optional condition, as a list of conjuncts. -/
def optionalConjunct (compiled : Option (Gate SqlCondition)) : Gate (List SqlCondition) := do
  let condition ← sequenceOption compiled
  pure condition.toList

/-- The SELECT of a scope with its output names. -/
structure ScopeBody where
  select : Select
  aliasMap : AliasMap

/-- `_compile_scope_body`; the statements of the scope's subqueries are passed
in. -/
def compileScopeBody (context : CompileContext) (cteObjects : CteObjects) (path : ScopePath)
    (query : StructuredQuery) (scopeTables : Tables)
    (subqueries : List (ScopeStep × Gate Statement)) : Gate ScopeBody := do
  let tables := resolveCteReferences query scopeTables cteObjects path
  let (columns, aliasMap) ← buildSelectColumns context query tables
  let base ← tableByName tables query.fromName
  let joins ← mapAll (compileJoin context.adapter tables) query.joins
  let filters ← applyMandatoryRowFilters context query tables (dictKeys cteObjects)
  let where_ ← optionalConjunct (query.where_.map
    (compileWhere context.adapter tables [] (some { subqueries := subqueries }) 0))
  let groupBy ← mapAll (resolveOutputRef tables aliasMap true) query.groupBy
  let having ← optionalConjunct (query.having.map
    (compileWhere context.adapter tables aliasMap
      (some { subqueries := subqueries, allowValueSetSubquery := false })
      (optionPredicates query.where_).length))
  let floor ← groupFloor context.policy query tables
  pure ⟨.mk path query columns query.distinct base joins (filters ++ where_) groupBy
    (having ++ floor), aliasMap⟩

end QueryGate
