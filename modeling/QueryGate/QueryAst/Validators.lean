import QueryGate.Foundation.Checks
import QueryGate.QueryAst.Models

/-! # Acceptance of the query AST

The validators the model classes run when a request is parsed. A check returns
the message of the first validator that fails; nested models are checked before
the model that holds them. `AcceptedQuery` is the type of queries that parsing
can produce.
-/

namespace QueryGate

open Foundation

/-- The outcome of a model validator: passing, or a message. -/
abbrev ModelCheck := Except String Unit

/-- `Field(min_length=...)` on a list. -/
def checkMinLength (least length : Nat) : ModelCheck :=
  refuse (length < least)
    s!"List should have at least {least} item after validation, not {length}"

/-- `Field(max_length=...)` on a list. -/
def checkMaxLength (most length : Nat) : ModelCheck :=
  refuse (most < length)
    s!"List should have at most {most} items after validation, not {length}"

/-- `Field(ge=...)` on an integer. -/
def checkGe (least value : Int) : ModelCheck :=
  refuse (value < least) s!"Input should be greater than or equal to {least}"

/-- `Field(ge=...)` on an optional integer. -/
def checkOptionGe (least : Int) : Option Int → ModelCheck
  | some value => checkGe least value
  | none => .ok ()

/-- `_require_column_ref`: both sides of the first dot are non-blank. -/
def requireColumnRef (value field : String) : ModelCheck :=
  let halves := (splitDot value).getD (value, "")
  refuse (strip halves.1 == "" || strip halves.2 == "")
    s!"{field} must be a 'Table.Column' reference, got {quoted value}"

/-- `AggregateSelectItem._validate_shape`. -/
def validateAggregateShape (fn : AggregateFn) (col : Option String) (arg : Option Expression)
    (distinct : Bool) (alias_ : Option String) : ModelCheck := do
  refuse (col.isNone == arg.isNone) "Aggregate must set exactly one of 'col' or 'arg'"
  refuse (col.isSome && col != some "*") "Aggregate 'col' must be a Table.Column ref or '*'"
  refuse (distinct && col == some "*") "distinct is not valid with count(*) — give a real column"
  refuse (distinct && fn.noDistinct)
    (s!"distinct is not valid with {fn.value} — MSSQL's STDEV/VAR don't accept " ++
      "DISTINCT, so this stays rejected on every dialect rather than working on " ++
      "Postgres and breaking on MSSQL")
  refuse (alias_.isNone && match arg with
      | none | some (.column _) => false
      | some _ => true)
    "an aggregate over a computed expression requires an explicit 'as' alias"

/-- `StringAggSelectItem._validate_col`. -/
def StringAggSelectItem.validateCol (item : StringAggSelectItem) : ModelCheck :=
  refuse (item.col == "*") "string_agg requires a real column, not '*'"

/-- `ArrayAggSelectItem._validate_col`. -/
def ArrayAggSelectItem.validateCol (item : ArrayAggSelectItem) : ModelCheck :=
  refuse (item.col == "*") "array_agg requires a real column, not '*'"

/-- `PercentileContSelectItem._validate`. -/
def PercentileContSelectItem.validate (item : PercentileContSelectItem) : ModelCheck := do
  refuse (item.col == "*") "percentile_cont requires a real column, not '*'"
  refuse (!item.fraction.inUnitInterval) "percentile_cont fraction must be between 0.0 and 1.0"

/-- A column-typed argument is a `ColumnExpr`, with its dotted check. -/
def ScalarFunctionArg.validate : ScalarFunctionArg → ModelCheck
  | .col ref => requireColumnRef ref "col"
  | .literal _ => .ok ()

/-- `isinstance(arg, ColArg)`. -/
def ScalarFunctionArg.isCol : ScalarFunctionArg → Bool
  | .col _ => true
  | .literal _ => false

/-- `ScalarFunctionCall._validate_args`, after its field checks. -/
def ScalarFunctionCall.validate (call : ScalarFunctionCall) : ModelCheck := do
  checkAll ScalarFunctionArg.validate call.args
  checkMinLength 1 call.args.length
  match call.fn with
  | .lower | .upper | .trim =>
      refuse (call.args.length != 1 || !call.args.all ScalarFunctionArg.isCol)
        s!"{call.fn.value} takes exactly one column argument"
  | .coalesce | .concat =>
      refuse (call.args.length < 2) s!"{call.fn.value} requires at least 2 arguments"

/-- `FunctionExpr._validate_arity`, after its field check. -/
def validateArity (fn : ExprFn) (count : Nat) : ModelCheck := do
  checkMinLength 1 count
  let expected := match fn.arity with
    | (low, some high) => if low = high then s!"exactly {low}" else s!"{low}-{high}"
    | (low, none) => s!"at least {low}"
  refuse (count < fn.arity.1 || (fn.arity.2.any fun high => high < count))
    s!"{fn.value} takes {expected} argument(s), got {count}"

/-- The bounds of `DateAddExpr.amount`. -/
def validateAmount (amount : Int) : ModelCheck := do
  checkGe (-2147483648) amount
  refuse (2147483647 < amount) "Input should be less than or equal to 2147483647"

/-- `WindowBound._validate_offset`, after its field check. -/
def WindowBound.validate (bound : WindowBound) : ModelCheck := do
  checkOptionGe 1 bound.offset
  let needsOffset := bound.bound == .preceding || bound.bound == .following
  refuse (needsOffset && bound.offset.isNone)
    s!"window frame bound {quoted bound.bound.value} requires an offset"
  refuse (!needsOffset && bound.offset.isSome)
    s!"window frame bound {quoted bound.bound.value} takes no offset"

/-- `WindowBound.sqlalchemy_bound`: `none` is unbounded, `0` the current row. -/
def WindowBound.sqlalchemyBound (bound : WindowBound) : Option Int :=
  match bound.bound with
  | .unboundedPreceding | .unboundedFollowing => none
  | .currentRow => some 0
  | .preceding => some (-(bound.offset.getD 0))
  | .following => some (bound.offset.getD 0)

/-- The binary64 number nearest to a natural number, ties to even. -/
def roundToDouble (value : Nat) : Nat :=
  let unit := 2 ^ (value.log2 + 1 - 53)
  let low := value / unit
  let twice := 2 * (value % unit)
  if twice < unit || (twice == unit && low % 2 == 0) then low * unit else (low + 1) * unit

/-- `WindowBound._position`: the place on the frame's number line. The first
component ranks the infinities below and above every finite place. -/
def WindowBound.position (bound : WindowBound) : Int × Int :=
  match bound.bound with
  | .unboundedPreceding => (-1, 0)
  | .unboundedFollowing => (1, 0)
  | .currentRow => (0, 0)
  | .preceding => (0, -(roundToDouble (bound.offset.getD 0).toNat : Int))
  | .following => (0, (roundToDouble (bound.offset.getD 0).toNat : Int))

/-- `WindowFrame._validate_bounds`, after its fields. The conversion of a bound
to a float fails from the first power of two that binary64 cannot hold. -/
def WindowFrame.validate (frame : WindowFrame) : ModelCheck := do
  frame.start.validate
  frame.stop.validate
  refuse (frame.start.bound == .unboundedFollowing)
    "a window frame cannot start at 'unbounded_following'"
  refuse (frame.stop.bound == .unboundedPreceding)
    "a window frame cannot end at 'unbounded_preceding'"
  refuse ([frame.start, frame.stop].any fun bound =>
      2 ^ 1024 ≤ roundToDouble (bound.offset.getD 0).toNat)
    "int too large to convert to float"
  let start := frame.start.position
  let stop := frame.stop.position
  refuse (stop.1 < start.1 || (stop.1 == start.1 && stop.2 < start.2))
    "a window frame's start must not come after its end"

/-- `WindowSpec._validate_refs`, after its fields. -/
def WindowSpec.validate (spec : WindowSpec) : ModelCheck := do
  checkOption WindowFrame.validate spec.frame
  checkAll (fun ref => requireColumnRef ref "window partition_by") spec.partitionBy
  checkAll (fun order => requireColumnRef order.col "window order_by col") spec.orderBy

/-- `WindowCall._validate_shape`, after its field checks. -/
def WindowCall.validateShape (call : WindowCall) : ModelCheck := do
  checkOptionGe 1 call.offset
  checkOptionGe 1 call.buckets
  if call.fn.takesNoArg then
    refuse call.arg.isSome s!"window function {call.fn.value} takes no 'arg'"
  else
    refuse (call.arg.isNone && call.fn != .count)
      s!"window function {call.fn.value} requires an 'arg'"
  refuse (call.offset.isSome && !call.fn.takesOffset)
    s!"'offset' is only valid for lag/lead, not {call.fn.value}"
  refuse (call.fn == .ntile && call.buckets.isNone) "window function ntile requires 'buckets'"
  refuse (call.buckets.isSome && call.fn != .ntile)
    s!"'buckets' is only valid for ntile, not {call.fn.value}"
  refuse (call.over_.frame.isSome && !call.fn.frameable)
    (s!"a ROWS/RANGE frame is not valid for window function {call.fn.value} — " ++
      "frames apply to sum/avg/min/max/count/first_value/last_value")
  let reason := if call.fn.needsOrder then call.fn.value else "a frame"
  refuse (call.over_.orderBy.isEmpty && (call.fn.needsOrder || call.over_.frame.isSome))
    s!"{reason} requires over.order_by"

/-- `WindowCall.is_aggregate_window`. -/
def WindowCall.isAggregateWindow (call : WindowCall) : Bool :=
  call.fn.isAggregate

/-- `JoinSpec._validate_join_form`: one condition form, none on a cross join. -/
def JoinSpec.validateJoinForm (join : JoinSpec) : ModelCheck :=
  if join.type = .cross then
    let supplied := (if join.on.isSome then ["on"] else []) ++
      (if join.extraOn.isEmpty then [] else ["extra_on"]) ++
      (if join.condition.isSome then ["condition"] else [])
    refuse (!supplied.isEmpty)
      ("a 'cross' join takes no condition, got " ++ String.intercalate "/" supplied ++ " — a " ++
        "cross join is an unconditioned cartesian product; use 'inner' with " ++
        "the condition instead")
  else do
    refuse (join.on.isNone == join.condition.isNone)
      ("exactly one of `on` (equality sugar) or `condition` (general " ++
        "predicate tree) is required on a join")
    refuse (!join.extraOn.isEmpty && join.on.isNone)
      ("`extra_on` is additional equality pairs for `on` and cannot be used " ++
        "with `condition` — express the extra pairs inside `condition` instead")

/-- `Predicate._validate_col_shape`. -/
def Predicate.validateColShape (pred : Predicate) : ModelCheck :=
  if pred.op.isExists then do
    refuse (pred.col.isSome || pred.colFn.isSome || pred.expr.isSome)
      (s!"Operator {quoted pred.op.value} takes no left-hand side — omit col/col_fn/expr; " ++
        "the subquery is the whole test")
    refuse pred.existsSubquery.isNone s!"Operator {quoted pred.op.value} requires 'exists_subquery'"
  else do
    refuse pred.existsSubquery.isSome
      ("'exists_subquery' is only valid with the exists/not_exists operators, " ++
        s!"not {quoted pred.op.value}")
    refuse ([pred.col.isSome, pred.colFn.isSome, pred.expr.isSome].count true != 1)
      "Predicate must set exactly one of 'col', 'col_fn', or 'expr'"

/-- The rules of a scalar `value_subquery`: one aggregate, no grouping, no arms. -/
def Predicate.validateScalarSubquery (op : ReadCompareOp) (nested : StructuredQuery) :
    ModelCheck := do
  refuse nested.setOp.isSome
    ("a scalar value_subquery may not carry a set_op — combining arms " ++
      "produces multiple rows, which defeats the single-row guarantee")
  refuse (!nested.groupBy.isEmpty || !(nested.select.head?.any SelectItem.isAggregate))
    (s!"a scalar value_subquery (op {quoted op.value}) must be an aggregate with " ++
      "no group_by, so that it returns exactly one row — e.g. " ++
      "\x7b'fn': 'avg', 'col': 'Orders.Total'\x7d. For a multi-row value set " ++
      "use in/not_in instead.")

/-- The rules of a `value_subquery` under its operator. -/
def Predicate.validateValueSubquery (op : ReadCompareOp) (nested : StructuredQuery) :
    ModelCheck := do
  refuse (!op.isMembership && !op.isScalarComparison)
    ("value_subquery is only valid with in/not_in (a value set) or " ++
      s!"eq/neq/lt/lte/gt/gte (a scalar), not {quoted op.value}")
  refuse (nested.select.length != 1) "A value_subquery must select exactly one column"
  if op.isScalarComparison then Predicate.validateScalarSubquery op nested else .ok ()

/-- The rules of a literal `value` or a `value_col` under the operator. -/
def Predicate.validatePlainValue (pred : Predicate) : ModelCheck := do
  refuse (pred.valueCol.isSome && !pred.op.isScalarComparison)
    s!"value_col is not valid with operator {quoted pred.op.value}"
  refuse (pred.op == .between && !(pred.value.listItems?.any fun items => items.length == 2))
    "Operator 'between' requires a two-element list [low, high]"
  refuse (pred.op.isMembership && !(pred.value.listItems?.any fun items => !items.isEmpty))
    s!"Operator {quoted pred.op.value} requires a non-empty list"

/-- `Predicate._validate_value_shape`. -/
def Predicate.validateValueShape (pred : Predicate) : ModelCheck :=
  let sources := [pred.value.isSet, pred.valueCol.isSome, pred.valueExpr.isSome,
    pred.valueSubquery.isSome]
  if pred.op.isExists then
    refuse (sources.any id)
      s!"Operator {quoted pred.op.value} must not include a value — use 'exists_subquery'"
  else if pred.op.isNullTest then
    refuse (sources.any id) s!"Operator {quoted pred.op.value} must not include a value or value_col"
  else do
    refuse (1 < sources.count true)
      ("Predicate must set at most one of 'value', 'value_col', 'value_expr', " ++
        "or 'value_subquery'")
    refuse (!sources.any id)
      s!"Operator {quoted pred.op.value} requires a value, value_col, value_expr, or value_subquery"
    refuse (pred.valueExpr.isSome && !pred.op.isScalarComparison)
      s!"value_expr is not valid with operator {quoted pred.op.value}"
    match pred.valueSubquery with
    | some nested => Predicate.validateValueSubquery pred.op nested
    | none => pred.validatePlainValue

/-- `WhereGroup._exactly_one_boolean`: an empty list counts as unset. -/
def exactlyOneBoolean (andTerms orTerms : Option (List WhereNode)) (notTerms : Option WhereNode) :
    ModelCheck :=
  let setCount := [andTerms.any fun terms => !terms.isEmpty,
    orTerms.any fun terms => !terms.isEmpty, notTerms.isSome].count true
  refuse (setCount != 1) "Where group must have exactly one of 'and', 'or', or 'not'"

/-- The field checks of `TopNSpec`. -/
def TopNSpec.validate (spec : TopNSpec) : ModelCheck := do
  checkMinLength 1 spec.orderBy.length
  checkGe 1 spec.n

/-- One step of the effective-name walk: the folded name must be new, and a
repeated physical table must be aliased. -/
def validateOccurrences (physicals : List String) :
    List String → List (String × Option String) → ModelCheck
  | _, [] => .ok ()
  | seen, (physical, alias_) :: rest => do
      let effective := casefold (orElseText alias_ physical)
      refuse (seen.contains effective)
        (s!"Duplicate table/alias {quoted effective} — every from/join effective " ++
          "name (its alias if given, else its table name) must be unique")
      refuse (1 < physicals.count (casefold physical) && alias_.isNone)
        (s!"Table {quoted physical} is used more than once in this query " ++
          "(a self-join) — every occurrence must have an explicit alias, " ++
          "including this one")
      validateOccurrences physicals (effective :: seen) rest

/-- `StructuredQuery._validate_table_aliases`. -/
def StructuredQuery.validateTableAliases (query : StructuredQuery) : ModelCheck :=
  validateOccurrences (query.occurrences.map fun occurrence => casefold occurrence.1) []
    query.occurrences

/-- `StructuredQuery._validate_window_scope`. -/
def StructuredQuery.validateWindowScope (query : StructuredQuery) : ModelCheck :=
  refuse (query.select.any SelectItem.isWindow && isAggregateScope query)
    ("a window function cannot be combined with group_by or aggregate " ++
      "select items — a window projects a value per row, so aggregate in " ++
      "one query and window over that result in a second query")

/-- The statement-level clauses an arm sets although it may not. -/
def disallowedOnArm (arm : StructuredQuery) : List String :=
  (if arm.orderBy.isEmpty then [] else ["order_by"]) ++
    (if arm.limit.isNone then [] else ["limit"]) ++
    (if arm.offset = 0 then [] else ["offset"]) ++
    (if arm.topN.isNone then [] else ["top_n"])

/-- The rules one arm of a set operation obeys, beside the carrying query. -/
def validateArm (query arm : StructuredQuery) : ModelCheck := do
  refuse arm.setOp.isSome
    ("a set_op arm may not carry its own set_op — list every arm in " ++
      "one `arms` list instead of nesting them")
  refuse (!(disallowedOnArm arm).isEmpty)
    (s!"a set_op arm may not set {quotedList (disallowedOnArm arm)} — order_by/limit/offset/" ++
      "top_n apply to the combined result and belong on the query that " ++
      "carries set_op")
  refuse (arm.select.length != query.select.length)
    ("every set_op arm must project the same number of columns: this " ++
      s!"query projects {query.select.length}, an arm projects " ++
      s!"{arm.select.length}")

/-- `StructuredQuery._validate_set_op`. -/
def StructuredQuery.validateSetOp (query : StructuredQuery) : ModelCheck :=
  match query.setOp with
  | none => .ok ()
  | some spec => do
      refuse query.topN.isSome
        ("top_n cannot be combined with set_op — rank within each arm, or " ++
          "order the combined result with order_by + limit")
      checkAll (validateArm query) spec.arms

/-- `StructuredQuery._validate_cte_names`, over the names seen so far. -/
def validateCteNames : List String → List CteSpec → ModelCheck
  | _, [] => .ok ()
  | seen, spec :: rest => do
      refuse (seen.contains (casefold spec.name))
        s!"Duplicate cte name {quoted spec.name} — every cte name must be unique"
      validateCteNames (casefold spec.name :: seen) rest

/-- The field bounds of `StructuredQuery`. -/
def StructuredQuery.validateFields (query : StructuredQuery) : ModelCheck := do
  checkMinLength 1 query.select.length
  checkMaxLength 1000 query.select.length
  checkMaxLength 200 query.joins.length
  checkMaxLength 500 query.groupBy.length
  checkMaxLength 500 query.orderBy.length
  checkOptionGe 1 query.limit
  checkGe 0 query.offset
  checkMaxLength 50 query.correlate.length
  checkMaxLength 50 query.ctes.length
  refuse (query.purpose.any fun purpose => 200 < purpose.length)
    "String should have at most 200 characters"

/-- The validators of `StructuredQuery` itself, its nested models apart. -/
def StructuredQuery.validateSelf (query : StructuredQuery) : ModelCheck := do
  query.validateFields
  query.validateTableAliases
  query.validateWindowScope
  query.validateSetOp
  validateCteNames [] query.ctes

end QueryGate
