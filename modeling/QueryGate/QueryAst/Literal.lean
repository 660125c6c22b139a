import QueryGate.Foundation.Text

/-! # Closed vocabularies of the query AST

The enumerations and literal values of `query_ast/models.py`. Each enumeration
carries the spelling it has on the wire (`value`), which is also the spelling
messages and default output names use.
-/

namespace QueryGate

/-- Comparison operators of a read predicate (`ReadCompareOp`). -/
inductive ReadCompareOp where
  | eq | neq | lt | lte | gt | gte | in_ | notIn | like | between | isNull | isNotNull
  | exists_ | notExists
  deriving DecidableEq, Repr

/-- The wire spelling of an operator. -/
def ReadCompareOp.value : ReadCompareOp → String
  | .eq => "eq" | .neq => "neq" | .lt => "lt" | .lte => "lte" | .gt => "gt" | .gte => "gte"
  | .in_ => "in" | .notIn => "not_in" | .like => "like" | .between => "between"
  | .isNull => "is_null" | .isNotNull => "is_not_null" | .exists_ => "exists"
  | .notExists => "not_exists"

/-- `op in EXISTS_OPS`: the whole operand is the subquery. -/
def ReadCompareOp.isExists : ReadCompareOp → Bool
  | .exists_ | .notExists => true
  | _ => false

/-- `op in SCALAR_COMPARISON_OPS`. -/
def ReadCompareOp.isScalarComparison : ReadCompareOp → Bool
  | .eq | .neq | .lt | .lte | .gt | .gte => true
  | _ => false

/-- The two null tests, which take no value. -/
def ReadCompareOp.isNullTest : ReadCompareOp → Bool
  | .isNull | .isNotNull => true
  | _ => false

/-- The two set-membership tests. -/
def ReadCompareOp.isMembership : ReadCompareOp → Bool
  | .in_ | .notIn => true
  | _ => false

/-- Aggregate functions of an aggregate projection. -/
inductive AggregateFn where
  | count | sum | avg | min | max | stddev | variance
  deriving DecidableEq, Repr

/-- The wire spelling of an aggregate function. -/
def AggregateFn.value : AggregateFn → String
  | .count => "count" | .sum => "sum" | .avg => "avg" | .min => "min" | .max => "max"
  | .stddev => "stddev" | .variance => "variance"

/-- `fn in _NO_DISTINCT_AGG_FNS`. -/
def AggregateFn.noDistinct : AggregateFn → Bool
  | .stddev | .variance => true
  | _ => false

inductive JoinType where
  | inner | left | full | cross
  deriving DecidableEq, Repr

/-- The wire spelling of a join type. -/
def JoinType.value : JoinType → String
  | .inner => "inner" | .left => "left" | .full => "full" | .cross => "cross"

inductive SortDir where
  | asc | desc
  deriving DecidableEq, Repr

/-- The wire spelling of a direction. -/
def SortDir.value : SortDir → String
  | .asc => "asc" | .desc => "desc"

inductive NullsOrder where
  | first | last
  deriving DecidableEq, Repr

/-- The wire spelling of a nulls order. -/
def NullsOrder.value : NullsOrder → String
  | .first => "first" | .last => "last"

inductive RankFn where
  | rowNumber | rank | denseRank
  deriving DecidableEq, Repr

/-- The wire spelling of a ranking function. -/
def RankFn.value : RankFn → String
  | .rowNumber => "row_number" | .rank => "rank" | .denseRank => "dense_rank"

/-- Granularities of a date bucket. -/
inductive DateGranularity where
  | day | week | month | quarter | year
  deriving DecidableEq, Repr

/-- The wire spelling of a granularity. -/
def DateGranularity.value : DateGranularity → String
  | .day => "day" | .week => "week" | .month => "month" | .quarter => "quarter"
  | .year => "year"

inductive SetOpKind where
  | union | intersect | except_
  deriving DecidableEq, Repr

/-- The wire spelling of a set operation. -/
def SetOpKind.value : SetOpKind → String
  | .union => "union" | .intersect => "intersect" | .except_ => "except"

/-- Functions of the non-nesting scalar call. -/
inductive ScalarFn where
  | coalesce | lower | upper | trim | concat
  deriving DecidableEq, Repr

/-- The wire spelling of a scalar function. -/
def ScalarFn.value : ScalarFn → String
  | .coalesce => "coalesce" | .lower => "lower" | .upper => "upper" | .trim => "trim"
  | .concat => "concat"

inductive BinaryOp where
  | add | sub | mul | div
  deriving DecidableEq, Repr

/-- The wire spelling of an arithmetic operator. -/
def BinaryOp.value : BinaryOp → String
  | .add => "+" | .sub => "-" | .mul => "*" | .div => "/"

/-- Functions of the nesting `FunctionExpr`. -/
inductive ExprFn where
  | coalesce | lower | upper | trim | concat | abs | ceil | floor | round | length | nullif
  | replace | substring
  deriving DecidableEq, Repr

/-- The wire spelling of an expression function. -/
def ExprFn.value : ExprFn → String
  | .coalesce => "coalesce" | .lower => "lower" | .upper => "upper" | .trim => "trim"
  | .concat => "concat" | .abs => "abs" | .ceil => "ceil" | .floor => "floor"
  | .round => "round" | .length => "length" | .nullif => "nullif" | .replace => "replace"
  | .substring => "substring"

/-- `_EXPR_FN_ARITY`: least and greatest argument count, `none` when variadic. -/
def ExprFn.arity : ExprFn → Nat × Option Nat
  | .coalesce | .concat => (2, none)
  | .lower | .upper | .trim | .abs | .ceil | .floor | .length => (1, some 1)
  | .round => (1, some 2)
  | .nullif => (2, some 2)
  | .replace | .substring => (3, some 3)

inductive CastType where
  | text | integer | numeric | boolean | date | timestamp
  deriving DecidableEq, Repr

/-- The wire spelling of a cast target. -/
def CastType.value : CastType → String
  | .text => "text" | .integer => "integer" | .numeric => "numeric" | .boolean => "boolean"
  | .date => "date" | .timestamp => "timestamp"

inductive DatePart where
  | year | quarter | month | week | day | dayofweek | dayofyear | hour | minute | second
  deriving DecidableEq, Repr

/-- The wire spelling of a date part. -/
def DatePart.value : DatePart → String
  | .year => "year" | .quarter => "quarter" | .month => "month" | .week => "week" | .day => "day"
  | .dayofweek => "dayofweek" | .dayofyear => "dayofyear" | .hour => "hour"
  | .minute => "minute" | .second => "second"

/-- Units of a date shift. -/
inductive IntervalUnit where
  | year | month | week | day | hour | minute | second
  deriving DecidableEq, Repr

/-- The wire spelling of a unit. -/
def IntervalUnit.value : IntervalUnit → String
  | .year => "year" | .month => "month" | .week => "week" | .day => "day" | .hour => "hour"
  | .minute => "minute" | .second => "second"

/-- `_UNIT_MAX_SECONDS`: an upper bound on the length of one unit. -/
def IntervalUnit.maxSeconds : IntervalUnit → Nat
  | .year => 366 * 86400
  | .month => 31 * 86400
  | .week => 7 * 86400
  | .day => 86400
  | .hour => 3600
  | .minute => 60
  | .second => 1

inductive NowKind where
  | timestamp | date
  deriving DecidableEq, Repr

/-- The wire spelling of a clock reading. -/
def NowKind.value : NowKind → String
  | .timestamp => "timestamp" | .date => "date"

/-- Window functions, in either spelling of a window call. -/
inductive WindowFn where
  | sum | avg | min | max | count | rowNumber | rank | denseRank | ntile | lag | lead
  | firstValue | lastValue
  deriving DecidableEq, Repr

/-- The wire spelling of a window function. -/
def WindowFn.value : WindowFn → String
  | .sum => "sum" | .avg => "avg" | .min => "min" | .max => "max" | .count => "count"
  | .rowNumber => "row_number" | .rank => "rank" | .denseRank => "dense_rank"
  | .ntile => "ntile" | .lag => "lag" | .lead => "lead" | .firstValue => "first_value"
  | .lastValue => "last_value"

/-- `_WINDOW_AGGREGATE_FNS`. -/
def WindowFn.isAggregate : WindowFn → Bool
  | .sum | .avg | .min | .max | .count => true
  | _ => false

/-- `_WINDOW_NO_ARG_FNS`. -/
def WindowFn.takesNoArg : WindowFn → Bool
  | .rowNumber | .rank | .denseRank | .ntile => true
  | _ => false

/-- `_WINDOW_OFFSET_FNS`. -/
def WindowFn.takesOffset : WindowFn → Bool
  | .lag | .lead => true
  | _ => false

/-- `_WINDOW_ORDERED_FNS`. -/
def WindowFn.needsOrder (fn : WindowFn) : Bool :=
  fn.takesNoArg || fn.takesOffset || fn == .firstValue || fn == .lastValue

/-- `_WINDOW_FRAMEABLE_FNS`. -/
def WindowFn.frameable (fn : WindowFn) : Bool :=
  fn.isAggregate || fn == .firstValue || fn == .lastValue

/-- Kinds of a frame bound. -/
inductive WindowBoundKind where
  | unboundedPreceding | preceding | currentRow | following | unboundedFollowing
  deriving DecidableEq, Repr

/-- The wire spelling of a frame bound. -/
def WindowBoundKind.value : WindowBoundKind → String
  | .unboundedPreceding => "unbounded_preceding" | .preceding => "preceding"
  | .currentRow => "current_row" | .following => "following"
  | .unboundedFollowing => "unbounded_following"

inductive WindowFrameMode where
  | rows | range
  deriving DecidableEq, Repr

/-- The wire spelling of a frame mode. -/
def WindowFrameMode.value : WindowFrameMode → String
  | .rows => "rows" | .range => "range"

/-- A binary64 number, by its bit pattern. -/
structure PyFloat where
  bits : UInt64
  deriving DecidableEq, Repr

/-- `0.0 <= value <= 1.0`. Negative zero is the one pattern with the sign bit
that compares as in range; the patterns of infinities and NaNs lie above. -/
def PyFloat.inUnitInterval (value : PyFloat) : Bool :=
  value.bits ≤ 0x3ff0000000000000 || value.bits == 0x8000000000000000

/-- The scalar of a `LiteralExpr`. -/
inductive Literal where
  | null
  | bool (value : Bool)
  | int (value : Int)
  | float (value : PyFloat)
  | str (value : String)
  deriving DecidableEq, Repr

/-- A JSON value, the type of `Predicate.value`; `null` is an absent value. -/
inductive Value where
  | null
  | bool (value : Bool)
  | int (value : Int)
  | float (value : PyFloat)
  | str (value : String)
  | list (items : List Value)
  | dict (entries : List (String × Value))

/-- `value is not None`. -/
def Value.isSet : Value → Bool
  | .null => false
  | _ => true

/-- The items of a list value. -/
def Value.listItems? : Value → Option (List Value)
  | .list items => some items
  | _ => none

end QueryGate
