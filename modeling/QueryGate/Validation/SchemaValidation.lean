import QueryGate.Schema.Tables
import QueryGate.Validation.PolicyValidation

/-! # Schema validation

`validateSchema` binds every name of every scope to a table object and checks
that each reference resolves. A correlated subquery is handed the enclosing
scope's own objects for the outer tables it declares. Names are bound in the
iteration order of a set, which is a parameter of the environment.
-/

namespace QueryGate

open Foundation

/-- What schema validation takes from outside: reflection of a table through the
primary connection, and the iteration order of a scope's set of names. -/
structure SchemaEnvironment where
  loadTable : String → String → String → Gate TableSchema
  setOrder : ScopePath → List String → List String
  setOrder_perm : ∀ path names, (setOrder path names).Perm names

/-- An environment that reflects from a fixed list of tables and iterates a set of
names in the order they were added. -/
def SchemaEnvironment.ofCatalog (schemas : List TableSchema) : SchemaEnvironment where
  loadTable _ name _ :=
    match schemas.find? fun schema => casefold schema.name == casefold name with
    | some schema => .ok schema
    | none => .error (queryValidationError s!"Unknown table {quoted name}")
  setOrder _ names := names
  setOrder_perm _ names := .refl names

/-- A refusal with a query validation error. -/
def invalid (bad : Bool) (message : String) : Gate Unit :=
  refuse bad (queryValidationError message)

@[simp] theorem invalid_eq_ok_iff {bad : Bool} {message : String} {result : Unit} :
    invalid bad message = .ok result ↔ bad = false :=
  refuse_eq_ok_iff

/-- The case-folded tables a list of references names. -/
def refTables (refs : List String) : Gate (List String) :=
  mapAll (fun ref => do
      let (table, _) ← parseColumnRef ref
      pure (casefold table))
    refs

/-- The tables a join's condition is about. -/
def joinSides (join : JoinSpec) : Gate (List String) :=
  match join.on with
  | some pair => refTables (pairSides pair)
  | none => refTables (optionColumnRefs join.condition)

/-- The same elements, in any order and number. -/
def sameElements (first second : List String) : Bool :=
  first.all second.contains && second.all first.contains

/-- The rule of `_validate_join_graph` on one join, given the tables known so far. -/
def checkJoinGraphStep (known : List String) (join : JoinSpec) : Gate Unit :=
  if join.type = .cross then .ok ()
  else do
    let joined := casefold join.name
    let sides ← joinSides join
    invalid (!sides.contains joined)
      (s!"Join condition for {quoted join.table} must reference that table " ++
        s!"(as {quoted joined})")
    let others := sides.filter (· != joined)
    invalid (!others.any known.contains)
      s!"Join to {quoted join.table} does not connect to the query table graph"
    let unknown := others.filter fun side => !known.contains side
    invalid (!unknown.isEmpty)
      (s!"Join to {quoted join.table} references {quotedList unknown} before it is joined — a " ++
        "join condition may only reference the from table or an EARLIER join")
    checkAll (fun pair => do
        let extra ← refTables (pairSides pair)
        invalid (!sameElements extra sides)
          (s!"extra_on pair {quotedList (pairSides pair)} for join to {quoted join.table} must " ++
            "reference the same two tables as `on` — a join's condition is always about " ++
            "the one pair of tables it joins"))
      join.extraOn

/-- `_validate_join_graph`, over the tables known so far. -/
def validateJoinGraph : List String → List JoinSpec → Gate Unit
  | _, [] => .ok ()
  | known, join :: rest => do
      checkJoinGraphStep known join
      validateJoinGraph (casefold join.name :: known) rest

/-- The names a scope needs bound: its from and join names, the correlated names,
and the table of every reference. -/
def neededNames (query : StructuredQuery) (correlated : Tables) : Gate (List String) := do
  let refs ← mapAll (fun ref => do
      let (table, _) ← parseColumnRef ref.ref
      pure table)
    (iterColumnRefs query)
  pure (query.fromName :: (dictKeys correlated ++ query.joins.map JoinSpec.name ++ refs)).dedup

/-- The reflected physical tables of a scope so far, by connection and
case-folded name, beside the names bound so far. -/
structure BindState where
  physical : List ((String × String) × FromObj) := []
  tables : Tables := []

/-- A source under a name: the object itself under its own name, else an alias
object of its own. -/
def bindSource (path : ScopePath) (source : FromObj) (physicalKey name : String) : FromObj :=
  if casefold name = physicalKey then source else .alias source name path

/-- Bind one needed name. -/
def bindName (env : SchemaEnvironment) (path : ScopePath) (connectionId : String)
    (query : StructuredQuery) (tableConnection : TableConnections) (cteTables correlated : Tables)
    (state : BindState) (name : String) : Gate BindState :=
  match tableByNameOrNone correlated name with
  | some outer => .ok { state with tables := state.tables ++ [(name, outer)] }
  | none =>
      match dictGet (effectiveNameMap query) (casefold name) with
      | none => .error (keyError (casefold name))
      | some physicalName =>
          let physicalKey := casefold physicalName
          match dictGet cteTables physicalKey with
          | some source =>
              .ok { state with
                tables := state.tables ++ [(name, bindSource path source physicalKey name)] }
          | none =>
              let tableCx := tableConnectionId tableConnection name connectionId
              match dictGet state.physical (tableCx, physicalKey) with
              | some source =>
                  .ok { state with
                    tables := state.tables ++ [(name, bindSource path source physicalKey name)] }
              | none => do
                  sanitizeTableName physicalName
                  let schema ← env.loadTable connectionId physicalName tableCx
                  let source : FromObj := .table tableCx physicalName schema
                  pure {
                    physical := state.physical ++ [((tableCx, physicalKey), source)]
                    tables := state.tables ++ [(name, bindSource path source physicalKey name)] }

/-- Bind needed names in order. -/
def bindNames (env : SchemaEnvironment) (path : ScopePath) (connectionId : String)
    (query : StructuredQuery) (tableConnection : TableConnections) (cteTables correlated : Tables) :
    BindState → List String → Gate BindState
  | state, [] => .ok state
  | state, name :: rest => do
      let next ← bindName env path connectionId query tableConnection cteTables correlated state name
      bindNames env path connectionId query tableConnection cteTables correlated next rest

/-- A reference resolves through the scope's tables. -/
def checkRef (tables : Tables) (ref : String) : Gate Unit := do
  let _ ← resolveRef tables ref
  pure ()

/-- `_validate_select_columns`. -/
def validateSelectColumns (query : StructuredQuery) (tables : Tables) : Gate Unit :=
  checkAll (fun item => do
      invalid (match item with
          | .aggregate fn col _ _ _ => col == some "*" && fn != .count
          | _ => false)
        "Only count(*) is allowed as a star aggregate"
      checkAll (checkRef tables) (selectItemColumnRefs item))
    query.select

/-- `_validate_predicate_columns`. -/
def validatePredicateColumns (tables : Tables) (allowAlias : Bool) (pred : Predicate) :
    Gate Unit := do
  invalid (!allowAlias && pred.col.any fun col => !hasDot col)
    ("Column reference must be 'Table.Column', got " ++ quoted (pred.col.getD ""))
  checkAll (checkRef tables) (predicateColumnRefs pred)

/-- `_validate_where_columns`. -/
def validateWhereColumns (tables : Tables) (allowAlias : Bool) (node : WhereNode) : Gate Unit :=
  checkAll (validatePredicateColumns tables allowAlias) (iterWherePredicates node)

/-- `_validate_join_columns`. -/
def validateJoinColumns (query : StructuredQuery) (tables : Tables) : Gate Unit := do
  checkAll (fun join => checkAll (checkRef tables)
      (join.on.toList.flatMap pairSides ++ join.extraOn.flatMap pairSides))
    query.joins
  checkAll (validateWhereColumns tables false) (iterJoinConditions query)

/-- `_validate_group_by`. -/
def validateGroupBy (query : StructuredQuery) (tables : Tables) : Gate Unit := do
  let groupable ← groupableSelectAliases query tables
  checkAll (fun colRef =>
      if hasDot colRef then checkRef tables colRef
      else
        invalid (!groupable.contains colRef)
          (s!"group_by reference {quoted colRef} is not a Table.Column, a date_bucket " ++
            "select alias, or an expression select alias"))
    query.groupBy
  invalid (query.having.isSome && !query.select.any SelectItem.isAggregate && query.groupBy.isEmpty)
    "having requires group_by or aggregate select items"

/-- The bare column a date primitive applies to, with the primitive's name. -/
def Expression.dateOperand? : Expression → Option (String × String)
  | .extract (.column col) part => some (col, s!"extract part {quoted part.value}")
  | .dateAdd (.column col) unit _ => some (col, s!"date_add by {quoted unit.value}")
  | _ => none

/-- `_iter_date_operands`. -/
def iterDateOperands (query : StructuredQuery) : List (String × String) :=
  ((iterScopeExpressions query).flatMap iterExpressionNodes).filterMap Expression.dateOperand? ++
    query.select.filterMap fun item => match item with
      | .dateBucket item => some (item.col, s!"date_bucket by {quoted item.granularity.value}")
      | _ => none

/-- `issubclass(resolved, (date, time, timedelta))`. -/
def PythonType.isTemporal : PythonType → Bool
  | .date | .datetime | .time | .timedelta => true
  | _ => false

/-- The hint for a text column, which a cast to a timestamp can repair. -/
def dateOperandHint (columnRef : String) : PythonType → String
  | .str =>
      s!" Cast it first (\x7b\"cast\": \x7b\"col\": \"{columnRef}\"\x7d, " ++
        "\"to\": \"timestamp\"\x7d) if it really holds a timestamp."
  | _ => ""

/-- `_validate_date_operands`. -/
def validateDateOperands (query : StructuredQuery) (tables : Tables) : Gate Unit :=
  checkAll (fun operand => do
      let (_, column) ← resolveRef tables operand.1
      match column.pythonType with
      | none => .ok ()
      | some resolved =>
          invalid (!resolved.isTemporal)
            (s!"{operand.2} requires a date/time column, but {quoted operand.1} is " ++
              s!"{resolved.name}.{dateOperandHint operand.1 resolved}"))
    (iterDateOperands query)

/-- `_validate_top_n` on one reference. -/
def checkTopNRef (query : StructuredQuery) (tables : Tables) (aliases : List String)
    (ref : String) : Gate Unit :=
  if isAggregateScope query then
    invalid (!(query.groupBy ++ aliases).contains ref)
      (s!"top_n reference {quoted ref} must be a group_by column or a " ++
        "select alias when combined with group_by/aggregate select items")
  else if hasDot ref then checkRef tables ref
  else
    invalid (!aliases.contains ref)
      (s!"top_n reference {quoted ref} is not a Table.Column or a " ++
        "date_bucket select alias")

/-- `_validate_top_n`. -/
def validateTopN (query : StructuredQuery) (tables : Tables) : Gate Unit :=
  match query.topN with
  | none => .ok ()
  | some spec => do
      let aliases ← selectAliases query tables
      checkAll (checkTopNRef query tables aliases)
        (spec.partitionBy ++ spec.orderBy.map OrderBySpec.col)

/-- The column checks of `_reflect_and_validate_scope`, once names are bound. -/
def checkScopeColumns (query : StructuredQuery) (tables : Tables) : Gate Unit := do
  validateSelectColumns query tables
  validateJoinColumns query tables
  validateGroupBy query tables
  validateDateOperands query tables
  checkAll (validateWhereColumns tables false) (iterScopeCaseConditions query)
  checkOption (validateWhereColumns tables false) query.where_
  checkOption (validateWhereColumns tables true) query.having
  checkAll (checkRef tables) ((query.orderBy.map OrderBySpec.col).filter hasDot)
  validateTopN query tables

/-- `_reflect_and_validate_scope`. -/
def reflectAndValidateScope (env : SchemaEnvironment) (path : ScopePath) (connectionId : String)
    (query : StructuredQuery) (tableConnection : TableConnections) (cteTables correlated : Tables) :
    Gate Tables := do
  validateJoinGraph [casefold query.fromName] query.joins
  let needed ← neededNames query correlated
  let declared := dictKeys (effectiveNameMap query) ++ (dictKeys correlated).map casefold
  let undeclared := needed.filter fun name => !declared.contains (casefold name)
  invalid (!undeclared.isEmpty)
    ("Column references may only use the query's from table/alias or an " ++
      s!"explicitly declared join table/alias; undeclared: {quotedList undeclared}")
  let bound ← bindNames env path connectionId query (foldNames tableConnection) cteTables
    correlated {} (env.setOrder path needed)
  checkScopeColumns query bound.tables
  pure bound.tables

/-- `_reject_cross_connection_nesting`. -/
def rejectCrossConnectionNesting (scope : StructuredQuery) (connectionId what : String) :
    Gate Unit :=
  checkAll (fun join => invalid (join.connection.isSome && join.connection != some connectionId)
      (s!"cross-connection subquery: {what} may not join to another connection " ++
        "(" ++ quoted (join.connection.getD "") ++ ") — run a separate query per connection and " ++
        "combine results instead (item 97)."))
    scope.joins

/-- Output names are unique up to case. -/
def checkDistinctOutputs (cteName : String) : List String → List String → Gate Unit
  | _, [] => .ok ()
  | seen, name :: rest => do
      invalid (seen.contains (casefold name))
        (s!"cte {quoted cteName} projects more than one column named {quoted name}, so " ++
          s!"{cteName}.{name} would be ambiguous — give one of them a distinct " ++
          "`as` alias.")
      checkDistinctOutputs cteName (casefold name :: seen) rest

/-- `_cte_projection_table`. -/
def cteProjectionTable (spec : CteSpec) (bodyTables : Tables) : Gate FromObj := do
  let names ← mapAll (fun item => selectItemOutputName item bodyTables) spec.query.select
  checkDistinctOutputs spec.name [] names
  pure (.placeholder spec.name names)

/-- The outer tables one correlated reference makes visible, added to those
already visible. -/
def makeVisible (scope : StructuredQuery) (tables : Tables) (visible : Tables) (ref : String) :
    Gate Tables := do
  let (tableName, columnName) ← parseColumnRef ref
  let own := (effectiveNameMap scope).map fun entry => casefold entry.1
  match (tableByNameOrNone tables tableName).filter fun _ => own.contains (casefold tableName) with
  | none =>
      .error (queryValidationError
        (s!"correlate {quoted ref} does not name a table of the enclosing " ++
          "query — a correlated reference reaches exactly one level " ++
          "up, to the query containing this subquery."))
  | some outer => do
      let _ ← resolveColumn outer columnName
      pure (dictSet visible tableName outer)

/-- The outer tables a list of correlated references makes visible. -/
def visibleTables (scope : StructuredQuery) (tables : Tables) : Tables → List String → Gate Tables
  | visible, [] => .ok visible
  | visible, ref :: rest => do
      let next ← makeVisible scope tables visible ref
      visibleTables scope tables next rest

/-- The correlated tables handed to a child: only subqueries receive any. -/
def correlatedFor (scope : StructuredQuery) (tables : Tables) (child : ScopeTree) : Gate Tables :=
  match child.step with
  | .value _ | .existence _ => visibleTables scope tables [] child.scope.correlate
  | _ => .ok []

/-- The tables of every scope, by path: the dictionary `scope_tables`. -/
abbrev ScopeTables := List (ScopePath × Tables)

/-- The step leads to a scope nested one level deeper. -/
def ScopeStep.isNested : ScopeStep → Bool
  | .cte _ | .value _ | .existence _ => true
  | .root | .arm _ => false

/-- The step leads to a WITH body. -/
def ScopeStep.isCte : ScopeStep → Bool
  | .cte _ => true
  | _ => false

/-- The parts of a request that schema validation reads in every scope. -/
structure SchemaContext where
  env : SchemaEnvironment
  request : RequestContext

/-- Bind and check one scope: its connections, then its names and columns. -/
def reflectScope (context : SchemaContext) (path : ScopePath) (query : StructuredQuery)
    (cteTables correlated : Tables) : Gate Tables := do
  let tableConnection ← resolveQueryTableConnections query context.request.connectionId
    context.request.principal context.request.resolver (dictKeys cteTables)
  reflectAndValidateScope context.env path context.request.connectionId query tableConnection
    cteTables correlated

/-- A nested scope may not join to another connection. -/
def checkNesting (context : SchemaContext) (nested : Bool) (scope : StructuredQuery) : Gate Unit :=
  if nested then
    rejectCrossConnectionNesting scope context.request.connectionId
      "a nested scope (an IN (subquery), or a set-operation arm within one)"
  else
    .ok ()

mutual

/-- The main loop of `validate_schema` below one scope. A body that was validated
before the loop is skipped, and hands nothing to its own subqueries. -/
def reflectTree (context : SchemaContext) (cteTables : Tables) (skipBody : Bool) :
    ScopeTree → ScopePath → Bool → Tables → Gate ScopeTables
  | .node _ scope children, path, nested, correlated =>
      if skipBody then
        reflectForest context cteTables false children (children.map fun _ => []) path true
      else do
        checkNesting context nested scope
        let tables ← reflectScope context path scope cteTables correlated
        let visibles ← mapAll (correlatedFor scope tables) children
        let below ← reflectForest context cteTables path.isEmpty children visibles path nested
        pure ((path, tables) :: below)
termination_by structural tree => tree

/-- The main loop over the scopes directly inside a scope. -/
def reflectForest (context : SchemaContext) (cteTables : Tables) (atRoot : Bool) :
    List ScopeTree → List Tables → ScopePath → Bool → Gate ScopeTables
  | [], _, _, _ => .ok []
  | tree :: rest, visibles, path, nested => do
      let here ← reflectTree context cteTables (atRoot && tree.step.isCte) tree
        (path ++ [tree.step]) (nested || tree.step.isNested) (visibles.headD [])
      let below ← reflectForest context cteTables atRoot rest visibles.tail path nested
      pure (here ++ below)
termination_by structural trees => trees

end

/-- The first loop of `validate_schema`: WITH bodies in declaration order, each
seeing the blocks before it. -/
def reflectCtes (context : SchemaContext) : Nat → Tables → List CteSpec → Gate (Tables × ScopeTables)
  | _, cteTables, [] => .ok (cteTables, [])
  | index, cteTables, spec :: rest => do
      rejectCrossConnectionNesting spec.query context.request.connectionId
        ("cte " ++ quoted spec.name)
      let bodyTables ← reflectScope context [.cte index] spec.query cteTables []
      let placeholder ← cteProjectionTable spec bodyTables
      let (all, entries) ← reflectCtes context (index + 1)
        (dictSet cteTables (casefold spec.name) placeholder) rest
      pure (all, ([.cte index], bodyTables) :: entries)

/-- Coarse type families, for combining arms. -/
inductive TypeFamily where
  | boolean | numeric | temporal | text
  deriving DecidableEq, Repr

/-- The spelling of a family in a message. -/
def TypeFamily.value : TypeFamily → String
  | .boolean => "boolean" | .numeric => "numeric" | .temporal => "temporal" | .text => "text"

/-- `_python_type_family`. -/
def pythonTypeFamily : PythonType → Option TypeFamily
  | .bool => some .boolean
  | .int | .float | .decimal => some .numeric
  | .str => some .text
  | .date | .datetime | .time => some .temporal
  | .timedelta | .other _ => none

/-- `_CAST_TARGET_FAMILIES`. -/
def CastType.family : CastType → TypeFamily
  | .text => .text
  | .integer | .numeric => .numeric
  | .boolean => .boolean
  | .date | .timestamp => .temporal

/-- `_column_ref_type_family`. -/
def columnRefTypeFamily (ref : String) (tables : Tables) : Gate (Option TypeFamily) := do
  let (tableName, columnName) ← parseColumnRef ref
  match dictGet tables tableName with
  | none => .ok none
  | some table =>
      match resolveColumn table columnName with
      | .ok column => .ok (column.pythonType.bind pythonTypeFamily)
      | .error _ => .ok none

/-- `_expression_type_family`. -/
def expressionTypeFamily (expr : Expression) (tables : Tables) : Gate (Option TypeFamily) :=
  match expr with
  | .cast _ target => .ok (some target.family)
  | .literal .null => .ok none
  | .literal (.bool _) => .ok (some .boolean)
  | .literal (.int _) | .literal (.float _) => .ok (some .numeric)
  | .literal (.str _) => .ok (some .text)
  | .column col => columnRefTypeFamily col tables
  | _ => .ok none

/-- `select_item_type_family`. -/
def selectItemTypeFamily (item : SelectItem) (tables : Tables) : Gate (Option TypeFamily) :=
  match item with
  | .bare ref => columnRefTypeFamily ref tables
  | .aggregate .count _ _ _ _ => .ok (some .numeric)
  | .dateBucket _ => .ok (some .temporal)
  | .stringAgg _ => .ok (some .text)
  | .expression expr _ => expressionTypeFamily expr tables
  | _ => .ok none

/-- `seen.setdefault(family, fromTable)` over the arms that have a family. -/
def seenFamilies : List (Option TypeFamily × String) → List (TypeFamily × String)
  | [] => []
  | (none, _) :: rest => seenFamilies rest
  | (some family, fromTable) :: rest =>
      (family, fromTable) :: (seenFamilies rest).filter fun entry => entry.1 != family

/-- Two disagreeing families in the order of their spellings, as a message has
them. -/
def describeFamilies : List (TypeFamily × String) → String
  | first :: second :: _ =>
      let (low, high) := if first.1.value < second.1.value then (first, second) else (second, first)
      s!"{low.1.value} (arm over {quoted low.2}) vs {high.1.value} (arm over {quoted high.2})"
  | _ => ""

/-- The families of one position agree across the arms that have one. -/
def checkArmPosition (arms : List (StructuredQuery × Tables)) (position : Nat) : Gate Unit := do
  let families ← mapAll (fun arm =>
      match arm.1.select[position]? with
      | some item => do
          let family ← selectItemTypeFamily item arm.2
          pure (family, arm.1.fromTable)
      | none => .error ⟨.valueError, "list index out of range"⟩)
    arms
  let seen := seenFamilies families
  invalid (1 < seen.length)
    ("set operation arms disagree on the type of projection " ++
      s!"{position + 1}: {describeFamilies seen}. Postgres rejects a mismatched union " ++
      "outright while SQL Server may silently convert one side, so " ++
      "this is refused on every dialect. Cast both sides to the same " ++
      "type if the combination is intended.")

/-- The tables recorded for a path, empty when there are none. -/
def tablesAt (reflected : ScopeTables) (path : ScopePath) : Tables :=
  (dictGet reflected path).getD []

/-- The arms of a scope with their tables, the carrying query first. -/
def armTables (reflected : ScopeTables) (scope : StructuredQuery) (path : ScopePath) :
    List (StructuredQuery × Tables) :=
  (scope, tablesAt reflected path) ::
    (armChildren 0 scope.arms).map fun arm => (arm.2, tablesAt reflected (path ++ [arm.1]))

/-- The arms of a scope with a set operation agree on every position. -/
def checkScopeArmTypes (reflected : ScopeTables) (scope : StructuredQuery) (path : ScopePath) :
    Gate Unit :=
  if scope.setOp.isSome then
    checkAll (checkArmPosition (armTables reflected scope path)) (List.range scope.select.length)
  else
    .ok ()

mutual

/-- `_validate_set_op_arm_types`, over the scopes of a tree. -/
def checkArmTypes (reflected : ScopeTables) : ScopeTree → ScopePath → Gate Unit
  | .node _ scope children, path => do
      checkScopeArmTypes reflected scope path
      checkForestArmTypes reflected children path
termination_by structural tree => tree

/-- `_validate_set_op_arm_types`, over the scopes of a list of trees. -/
def checkForestArmTypes (reflected : ScopeTables) : List ScopeTree → ScopePath → Gate Unit
  | [], _ => .ok ()
  | tree :: rest, path => do
      checkArmTypes reflected tree (path ++ [tree.step])
      checkForestArmTypes reflected rest path
termination_by structural trees => trees

end

/-- What `validate_schema` hands to the compiler: every scope's tables by path,
the root's under the empty path. -/
structure ReflectedQuery where
  cteTables : Tables
  scopeTables : ScopeTables

/-- `validate_schema`. -/
def validateSchema (context : SchemaContext) (query : StructuredQuery) : Gate ReflectedQuery := do
  let (cteTables, bodies) ← reflectCtes context 0 [] query.ctes
  let scopes ← reflectTree context cteTables false (scopeTree .root query) [] false []
  checkArmTypes (bodies ++ scopes) (scopeTree .root query) []
  pure ⟨cteTables, bodies ++ scopes⟩

/-- The catalog of the examples: orders of customers. -/
def shopCatalog : List TableSchema :=
  [{ name := "Orders"
     columns := [{ name := "id" }, { name := "customer_id" }, { name := "state" },
       { name := "total" }]
     primaryKey := ["id"] },
   { name := "Customers"
     columns := [{ name := "id" }, { name := "name" }, { name := "ssn" }, { name := "tenant" }]
     primaryKey := ["id"] }]

/-- Schema validation over the catalog of the examples. -/
def shopSchema : SchemaContext where
  env := .ofCatalog shopCatalog
  request := soleConnection

end QueryGate
