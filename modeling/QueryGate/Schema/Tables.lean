import QueryGate.Validation.ScopeTree

/-! # Reflected tables

The table objects that names resolve to. Where the source relies on object
identity — a fresh alias object per name and scope, one reflected object per
physical table, a placeholder per WITH block — the constructors of `FromObj`
carry what tells two objects apart, so equality of values is identity.
-/

namespace QueryGate

open Foundation

/-- The Python type a column's SQL type maps to. -/
inductive PythonType where
  | bool | int | float | decimal | str | date | datetime | time | timedelta
  | other (name : String)
  deriving DecidableEq, Repr

/-- `type.__name__`. -/
def PythonType.name : PythonType → String
  | .bool => "bool" | .int => "int" | .float => "float" | .decimal => "Decimal"
  | .str => "str" | .date => "date" | .datetime => "datetime" | .time => "time"
  | .timedelta => "timedelta" | .other name => name

/-- A column; `pythonType` is absent where the type has no Python mapping. -/
structure ColumnDef where
  name : String
  pythonType : Option PythonType := none
  nullable : Bool := true
  hasDefault : Bool := false
  hasServerDefault : Bool := false
  deriving DecidableEq, Repr

/-- A reflected table: its columns and its declared unique column sets. -/
structure TableSchema where
  name : String
  columns : List ColumnDef
  primaryKey : List String := []
  uniqueConstraints : List (List String) := []
  uniqueIndexes : List (List String) := []
  deriving DecidableEq, Repr

/-- A table-like object a name can be bound to. -/
inductive FromObj where
  /-- The reflected object of a physical table. -/
  | table (connection spelling : String) (schema : TableSchema)
  /-- The typeless stand-in validation uses for a WITH block. -/
  | placeholder (name : String) (columns : List String)
  /-- The compiled WITH block. -/
  | cte (name : String) (columns : List String)
  /-- The alias object created for a name in the scope at a path. -/
  | alias (element : FromObj) (name : String) (path : ScopePath)
  deriving DecidableEq, Repr

/-- The element an alias object stands for. -/
def FromObj.element : FromObj → FromObj
  | .alias element _ _ => element.element
  | other => other

/-- The columns of a table object. -/
def FromObj.columns : FromObj → List ColumnDef
  | .table _ _ schema => schema.columns
  | .placeholder _ names => names.map fun name => { name := name }
  | .cte _ names => names.map fun name => { name := name }
  | .alias element _ _ => element.columns

/-- The SQL name of a table object. -/
def FromObj.name : FromObj → String
  | .table _ _ schema => schema.name
  | .placeholder name _ => name
  | .cte name _ => name
  | .alias _ name _ => name

/-- A scope's tables, keyed by the names the scope uses, in binding order. -/
abbrev Tables := List (String × FromObj)

/-- A dictionary of WITH blocks with the given case-folded names, each object built
by `build` from the block's name and columns. -/
structure BlocksNamed (build : String → List String → FromObj) (objects : Tables)
    (names : List String) : Prop where
  keys : ∀ key, key ∈ dictKeys objects ↔ key ∈ names
  blocks : ∀ key source, dictGet objects key = some source →
    ∃ name columns, source = build name columns ∧ casefold name = key

theorem BlocksNamed.empty (build : String → List String → FromObj) : BlocksNamed build [] [] :=
  ⟨fun _ => Iff.rfl, fun _ _ absurd => by cases absurd⟩

theorem BlocksNamed.dictSet {build : String → List String → FromObj} {objects : Tables}
    {names : List String} {name : String} {columns : List String}
    (visible : BlocksNamed build objects names) :
    BlocksNamed build (dictSet objects (casefold name) (build name columns))
      (names ++ [casefold name]) := by
  refine ⟨fun key => ?_, fun key source found => ?_⟩
  · rw [← dictGet_isSome_iff, dictGet_dictSet, List.mem_append, List.mem_singleton,
      ← visible.keys key, ← dictGet_isSome_iff]
    by_cases same : casefold name = key
    · simp [same]
    · simp [same, Ne.symm same]
  · rw [dictGet_dictSet] at found
    split at found
    · rename_i same
      cases found
      exact ⟨name, columns, rfl, same⟩
    · exact visible.blocks key source found

/-- `resolve_column`: the last column whose name matches caselessly. -/
def resolveColumn (table : FromObj) (columnName : String) : Gate ColumnDef :=
  match table.columns.reverse.find? fun column => casefold column.name == casefold columnName with
  | some column => .ok column
  | none =>
      .error (queryValidationError
        s!"Column '{columnName}' not found in table '{table.name}'")

/-- `table_by_name_or_none`: the first caseless match. -/
def tableByNameOrNone (tables : Tables) (name : String) : Option FromObj :=
  (tables.find? fun entry => casefold entry.1 == casefold name).map Prod.snd

/-- `table_by_name`. -/
def tableByName (tables : Tables) (name : String) : Gate FromObj :=
  match tableByNameOrNone tables name with
  | some table => .ok table
  | none => .error (queryValidationError s!"Unknown table {quoted name}")

/-- `tables[name]`. -/
def tableAt (tables : Tables) (name : String) : Gate FromObj :=
  match dictGet tables name with
  | some table => .ok table
  | none => .error (keyError name)

/-- `parse_column_ref` followed by an exact table lookup and `resolve_column`. -/
def resolveRef (tables : Tables) (ref : String) : Gate (FromObj × ColumnDef) := do
  let (tableName, columnName) ← parseColumnRef ref
  let table ← tableAt tables tableName
  let column ← resolveColumn table columnName
  pure (table, column)

/-- The default output name of an item over one column. -/
def columnOutputName (label col : String) : Gate String := do
  let (_, columnName) ← parseColumnRef col
  pure (label ++ "_" ++ columnName)

/-- An explicit alias, or the default name; an empty alias counts as absent. -/
def aliasOr (alias_ : Option String) (default_ : Gate String) : Gate String :=
  match alias_ with
  | some name => if name = "" then default_ else .ok name
  | none => default_

/-- `_date_bucket_alias`. -/
def dateBucketAlias (item : DateBucketSelectItem) (tables : Tables) : Gate String :=
  aliasOr item.alias_ do
    let (_, column) ← resolveRef tables item.col
    pure ("bucket_" ++ column.name ++ "_" ++ item.granularity.value)

/-- `_aggregate_alias`. A computed argument always carries an alias. -/
def aggregateAlias (fn : AggregateFn) (arg : Option Expression) (alias_ : Option String) :
    Gate String :=
  aliasOr alias_ (match arg with
    | none => .ok (fn.value ++ "_all")
    | some (.column col) => columnOutputName fn.value col
    | some _ => .error ⟨.valueError, "an aggregate over a computed expression has no default name"⟩)

/-- `_scalar_function_alias`. -/
def scalarFunctionAlias (call : ScalarFunctionCall) (alias_ : Option String) : Gate String :=
  aliasOr alias_ (match call.columnArgs with
    | col :: _ => columnOutputName call.fn.value col
    | [] => .ok (call.fn.value ++ "_result"))

/-- `select_item_output_name`. -/
def selectItemOutputName (item : SelectItem) (tables : Tables) : Gate String :=
  match item with
  | .bare ref => do
      let (_, column) ← resolveRef tables ref
      pure column.name
  | .aggregate fn _ arg _ alias_ => aggregateAlias fn arg alias_
  | .dateBucket item => dateBucketAlias item tables
  | .stringAgg item => aliasOr item.alias_ (columnOutputName "string_agg" item.col)
  | .arrayAgg item => aliasOr item.alias_ (columnOutputName "array_agg" item.col)
  | .percentileCont item => aliasOr item.alias_ (columnOutputName "percentile_cont" item.col)
  | .scalarFunction call alias_ => scalarFunctionAlias call alias_
  | .case _ _ alias_ => .ok alias_
  | .expression _ alias_ => .ok alias_
  | .window _ alias_ => .ok alias_

/-- `_select_aliases`: the output names `top_n` may rank by. -/
def selectAliases (query : StructuredQuery) (tables : Tables) : Gate (List String) :=
  mapAll (fun item => selectItemOutputName item tables)
    (query.select.filter fun item => match item with
      | .bare _ | .window _ _ => false
      | _ => true)

/-- `groupable_select_aliases`. -/
def groupableSelectAliases (query : StructuredQuery) (tables : Tables) : Gate (List String) :=
  mapAll (fun item => selectItemOutputName item tables)
    (query.select.filter fun item => match item with
      | .dateBucket _ | .expression _ _ => true
      | _ => false)

end QueryGate
