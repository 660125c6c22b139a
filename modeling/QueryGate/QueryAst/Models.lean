import QueryGate.QueryAst.Literal

/-! # The query AST

The data model of `query_ast/models.py`, one declaration per model class and one
field per field. Queries, expressions, predicates and select items are mutually
recursive: a subquery can sit in a predicate, a predicate in a CASE condition,
and a CASE in any expression. `intent` is free text that no modelled function
reads and is left out.
-/

namespace QueryGate

open Foundation

/-- `DateBucketSelectItem`. -/
structure DateBucketSelectItem where
  col : String
  granularity : DateGranularity
  alias_ : Option String := none
  deriving DecidableEq, Repr

/-- `StringAggSelectItem`. -/
structure StringAggSelectItem where
  col : String
  delimiter : String
  alias_ : Option String := none
  deriving DecidableEq, Repr

/-- `ArrayAggSelectItem`. -/
structure ArrayAggSelectItem where
  col : String
  alias_ : Option String := none
  deriving DecidableEq, Repr

/-- `PercentileContSelectItem`. -/
structure PercentileContSelectItem where
  col : String
  fraction : PyFloat
  alias_ : Option String := none
  deriving DecidableEq, Repr

/-- `ScalarFunctionArg`: a column or a literal, never a nested call. -/
inductive ScalarFunctionArg where
  | col (ref : String)
  | literal (value : Literal)
  deriving DecidableEq, Repr

/-- `ScalarFunctionCall`. -/
structure ScalarFunctionCall where
  fn : ScalarFn
  args : List ScalarFunctionArg
  deriving DecidableEq, Repr

/-- `OrderBySpec`. -/
structure OrderBySpec where
  col : String
  dir : SortDir := .asc
  nulls : Option NullsOrder := none
  deriving DecidableEq, Repr

/-- `WindowBound`. -/
structure WindowBound where
  bound : WindowBoundKind
  offset : Option Int := none
  deriving DecidableEq, Repr

/-- `WindowFrame`. -/
structure WindowFrame where
  mode : WindowFrameMode
  start : WindowBound
  stop : WindowBound
  deriving DecidableEq, Repr

/-- `WindowSpec`: the OVER clause. -/
structure WindowSpec where
  partitionBy : List String := []
  orderBy : List OrderBySpec := []
  frame : Option WindowFrame := none
  deriving DecidableEq, Repr

/-- `TopNSpec`. -/
structure TopNSpec where
  partitionBy : List String := []
  orderBy : List OrderBySpec
  n : Int
  fn : RankFn := .rowNumber
  deriving DecidableEq, Repr

mutual

/-- The closed scalar expression union. -/
inductive Expression where
  | column (col : String)
  | literal (value : Literal)
  | binaryOp (op : BinaryOp) (left right : Expression)
  | function (fn : ExprFn) (args : List Expression)
  | cast (operand : Expression) (target : CastType)
  | case (when_ : List CaseWhen) (else_ : Option Expression)
  | extract (operand : Expression) (part : DatePart)
  | now (kind : NowKind)
  | dateAdd (operand : Expression) (unit : IntervalUnit) (amount : Int)
  | window (call : WindowCall)

/-- `WindowCall`, shared by `WindowExpr` and `WindowSelectItem`. -/
structure WindowCall where
  fn : WindowFn
  over_ : WindowSpec
  arg : Option Expression := none
  offset : Option Int := none
  buckets : Option Int := none

/-- `CaseWhen`: one branch of a searched CASE. -/
structure CaseWhen where
  when_ : WhereNode
  then_ : Expression

/-- `WhereNode`: a predicate, or a group with its three optional fields. -/
inductive WhereNode where
  | predicate (pred : Predicate)
  | group (andTerms orTerms : Option (List WhereNode)) (notTerms : Option WhereNode)

/-- `Predicate`. -/
structure Predicate where
  col : Option String := none
  expr : Option Expression := none
  colFn : Option ScalarFunctionCall := none
  op : ReadCompareOp
  value : Value := .null
  valueCol : Option String := none
  valueExpr : Option Expression := none
  valueSubquery : Option StructuredQuery := none
  existsSubquery : Option StructuredQuery := none

/-- `SelectItem`: a bare reference or one of the nine projection models. -/
inductive SelectItem where
  | bare (ref : String)
  | aggregate (fn : AggregateFn) (col : Option String) (arg : Option Expression)
      (distinct : Bool) (alias_ : Option String)
  | dateBucket (item : DateBucketSelectItem)
  | stringAgg (item : StringAggSelectItem)
  | arrayAgg (item : ArrayAggSelectItem)
  | percentileCont (item : PercentileContSelectItem)
  | scalarFunction (call : ScalarFunctionCall) (alias_ : Option String)
  | case (when_ : List CaseWhen) (else_ : Option Expression) (alias_ : String)
  | expression (expr : Expression) (alias_ : String)
  | window (call : WindowCall) (alias_ : String)

/-- `JoinSpec`; the two- and list-of-two-element lists `on` and `extra_on` are
pairs. -/
structure JoinSpec where
  table : String
  alias_ : Option String := none
  type : JoinType := .inner
  on : Option (String × String) := none
  extraOn : List (String × String) := []
  condition : Option WhereNode := none
  connection : Option String := none

/-- `SetOpSpec`. -/
structure SetOpSpec where
  op : SetOpKind
  all : Bool := false
  arms : List StructuredQuery

/-- `CteSpec`: one named WITH block. -/
structure CteSpec where
  name : String
  query : StructuredQuery

/-- `StructuredQuery`. -/
structure StructuredQuery where
  fromTable : String
  fromAlias : Option String := none
  select : List SelectItem
  distinct : Bool := false
  joins : List JoinSpec := []
  where_ : Option WhereNode := none
  groupBy : List String := []
  having : Option WhereNode := none
  orderBy : List OrderBySpec := []
  limit : Option Int := none
  offset : Int := 0
  topN : Option TopNSpec := none
  setOp : Option SetOpSpec := none
  correlate : List String := []
  ctes : List CteSpec := []
  intent : Option String := none
  purpose : Option String := none

end

/-- The set-operation arms beside the query itself. -/
def StructuredQuery.arms (query : StructuredQuery) : List StructuredQuery :=
  match query.setOp with
  | some spec => spec.arms
  | none => []

/-- The name the root table goes by: its alias if given, else its table name. -/
def StructuredQuery.fromName (query : StructuredQuery) : String :=
  orElseText query.fromAlias query.fromTable

/-- The name a joined table goes by. -/
def JoinSpec.name (join : JoinSpec) : String :=
  orElseText join.alias_ join.table

/-- The from and join occurrences of a query, as physical table and alias. -/
def StructuredQuery.occurrences (query : StructuredQuery) : List (String × Option String) :=
  (query.fromTable, query.fromAlias) :: query.joins.map fun join => (join.table, join.alias_)

/-- `isinstance(item, _AGGREGATE_SELECT_ITEM_TYPES)`. -/
def SelectItem.isAggregate : SelectItem → Bool
  | .aggregate .. | .stringAgg _ | .arrayAgg _ | .percentileCont _ => true
  | _ => false

/-- `isinstance(item, WindowSelectItem)`. -/
def SelectItem.isWindow : SelectItem → Bool
  | .window .. => true
  | _ => false

/-- The scope aggregates: it has a GROUP BY or an aggregate select item. -/
def isAggregateScope (query : StructuredQuery) : Bool :=
  !query.groupBy.isEmpty || query.select.any SelectItem.isAggregate

/-- The two subquery-bearing fields of a predicate, in visiting order. -/
def Predicate.subqueries (pred : Predicate) : List StructuredQuery :=
  pred.valueSubquery.toList ++ pred.existsSubquery.toList

/-- `interval_magnitude_days`: the absolute shift in whole days, rounded up. -/
def intervalMagnitudeDays (unit : IntervalUnit) (amount : Int) : Nat :=
  (amount.natAbs * unit.maxSeconds + 86399) / 86400

end QueryGate
