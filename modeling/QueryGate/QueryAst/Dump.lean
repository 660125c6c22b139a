import QueryGate.Foundation.Json
import QueryGate.QueryAst.Models

/-! # The dump of a query

`model_dump(mode="json")` of the query AST: every field of every model under its own
name, fields at their defaults included. Objects in a predicate's value are the only place
where the order of keys is the caller's; `sortLiterals` puts them in the order of their
keys, which does not change them as dictionaries.
-/

namespace QueryGate

open Foundation

/-- A dumped value. -/
abbrev Dumped := Json PyFloat

/-- An optional text. -/
def dumpText : Option String → Dumped
  | none => .null
  | some text => .str text

/-- An optional whole number. -/
def dumpInt : Option Int → Dumped
  | none => .null
  | some value => .int value

/-- A list of texts. -/
def dumpTexts (texts : List String) : Dumped :=
  .list (texts.map .str)

/-- The scalar of a literal. -/
def dumpLiteral : Literal → Dumped
  | .null => .null
  | .bool value => .bool value
  | .int value => .int value
  | .float value => .float value
  | .str text => .str text

mutual

/-- A JSON value. -/
def dumpValue : Value → Dumped
  | .null => .null
  | .bool value => .bool value
  | .int value => .int value
  | .float value => .float value
  | .str text => .str text
  | .list items => .list (dumpValues items)
  | .dict entries => .dict (dumpEntries entries)
termination_by structural value => value

/-- The items of a list. -/
def dumpValues : List Value → List Dumped
  | [] => []
  | item :: rest => dumpValue item :: dumpValues rest
termination_by structural items => items

/-- The entries of an object. -/
def dumpEntries : List (String × Value) → List (String × Dumped)
  | [] => []
  | (key, value) :: rest => (key, dumpValue value) :: dumpEntries rest
termination_by structural entries => entries

end

/-- `DateBucketSelectItem`. -/
def DateBucketSelectItem.dump (item : DateBucketSelectItem) : Dumped :=
  .dict [("col", .str item.col), ("granularity", .str item.granularity.value),
    ("alias", dumpText item.alias_)]

/-- `StringAggSelectItem`. -/
def StringAggSelectItem.dump (item : StringAggSelectItem) : Dumped :=
  .dict [("col", .str item.col), ("delimiter", .str item.delimiter),
    ("alias", dumpText item.alias_)]

/-- `ArrayAggSelectItem`. -/
def ArrayAggSelectItem.dump (item : ArrayAggSelectItem) : Dumped :=
  .dict [("col", .str item.col), ("alias", dumpText item.alias_)]

/-- `PercentileContSelectItem`. -/
def PercentileContSelectItem.dump (item : PercentileContSelectItem) : Dumped :=
  .dict [("col", .str item.col), ("fraction", .float item.fraction),
    ("alias", dumpText item.alias_)]

/-- `ColumnExpr` or `LiteralExpr`, as an argument. -/
def ScalarFunctionArg.dump : ScalarFunctionArg → Dumped
  | .col ref => .dict [("col", .str ref)]
  | .literal value => .dict [("literal", dumpLiteral value)]

/-- `ScalarFunctionCall`. -/
def ScalarFunctionCall.dump (call : ScalarFunctionCall) : Dumped :=
  .dict [("fn", .str call.fn.value), ("args", .list (call.args.map ScalarFunctionArg.dump))]

/-- An optional `ScalarFunctionCall`. -/
def dumpCall : Option ScalarFunctionCall → Dumped
  | none => .null
  | some call => call.dump

/-- `OrderBySpec`. -/
def OrderBySpec.dump (spec : OrderBySpec) : Dumped :=
  .dict [("col", .str spec.col), ("dir", .str spec.dir.value),
    ("nulls", dumpText (spec.nulls.map NullsOrder.value))]

/-- `WindowBound`. -/
def WindowBound.dump (bound : WindowBound) : Dumped :=
  .dict [("bound", .str bound.bound.value), ("offset", dumpInt bound.offset)]

/-- `WindowFrame`. -/
def WindowFrame.dump (frame : WindowFrame) : Dumped :=
  .dict [("mode", .str frame.mode.value), ("start", frame.start.dump), ("end", frame.stop.dump)]

/-- An optional `WindowFrame`. -/
def dumpFrame : Option WindowFrame → Dumped
  | none => .null
  | some frame => frame.dump

/-- `WindowSpec`. -/
def WindowSpec.dump (spec : WindowSpec) : Dumped :=
  .dict [("partition_by", dumpTexts spec.partitionBy),
    ("order_by", .list (spec.orderBy.map OrderBySpec.dump)), ("frame", dumpFrame spec.frame)]

/-- `TopNSpec`. -/
def TopNSpec.dump (spec : TopNSpec) : Dumped :=
  .dict [("partition_by", dumpTexts spec.partitionBy),
    ("order_by", .list (spec.orderBy.map OrderBySpec.dump)), ("n", .int spec.n),
    ("fn", .str spec.fn.value)]

/-- An optional `TopNSpec`. -/
def dumpTopN : Option TopNSpec → Dumped
  | none => .null
  | some spec => spec.dump

/-- A pair of references, as the two-element list it is. -/
def dumpPair (pair : String × String) : Dumped :=
  .list [.str pair.1, .str pair.2]

/-- The optional pair of a join. -/
def dumpOn : Option (String × String) → Dumped
  | none => .null
  | some pair => dumpPair pair

mutual

/-- A member of the expression union. -/
def Expression.dump : Expression → Dumped
  | .column col => .dict [("col", .str col)]
  | .literal value => .dict [("literal", dumpLiteral value)]
  | .binaryOp op left right =>
      .dict [("op", .str op.value), ("left", left.dump), ("right", right.dump)]
  | .function fn args => .dict [("fn", .str fn.value), ("args", .list (dumpExpressions args))]
  | .cast operand target => .dict [("cast", operand.dump), ("to", .str target.value)]
  | .case when_ else_ =>
      .dict [("when", .list (dumpBranches when_)), ("else_", dumpExpression else_)]
  | .extract operand part => .dict [("extract", operand.dump), ("part", .str part.value)]
  | .now kind => .dict [("now", .str kind.value)]
  | .dateAdd operand unit amount =>
      .dict [("date_add", operand.dump), ("unit", .str unit.value), ("amount", .int amount)]
  | .window call => .dict call.dumpFields
termination_by structural expr => expr

/-- A list of expressions. -/
def dumpExpressions : List Expression → List Dumped
  | [] => []
  | expr :: rest => expr.dump :: dumpExpressions rest
termination_by structural exprs => exprs

/-- An optional expression. -/
def dumpExpression : Option Expression → Dumped
  | none => .null
  | some expr => expr.dump
termination_by structural expr => expr

/-- The fields of a `WindowCall`. -/
def WindowCall.dumpFields : WindowCall → List (String × Dumped)
  | ⟨fn, over_, arg, offset, buckets⟩ =>
      [("fn", .str fn.value), ("over", over_.dump), ("arg", dumpExpression arg),
        ("offset", dumpInt offset), ("buckets", dumpInt buckets)]
termination_by structural call => call

/-- `CaseWhen`. -/
def CaseWhen.dump : CaseWhen → Dumped
  | ⟨when_, then_⟩ => .dict [("when", when_.dump), ("then", then_.dump)]
termination_by structural branch => branch

/-- A list of branches. -/
def dumpBranches : List CaseWhen → List Dumped
  | [] => []
  | branch :: rest => branch.dump :: dumpBranches rest
termination_by structural branches => branches

/-- `Predicate` or `WhereGroup`. -/
def WhereNode.dump : WhereNode → Dumped
  | .predicate pred => pred.dump
  | .group andTerms orTerms notTerms =>
      .dict [("and_terms", dumpTerms andTerms), ("or_terms", dumpTerms orTerms),
        ("not_terms", dumpNode notTerms)]
termination_by structural node => node

/-- An optional list of terms. -/
def dumpTerms : Option (List WhereNode) → Dumped
  | none => .null
  | some nodes => .list (dumpNodes nodes)
termination_by structural nodes => nodes

/-- A list of terms. -/
def dumpNodes : List WhereNode → List Dumped
  | [] => []
  | node :: rest => node.dump :: dumpNodes rest
termination_by structural nodes => nodes

/-- An optional term. -/
def dumpNode : Option WhereNode → Dumped
  | none => .null
  | some node => node.dump
termination_by structural node => node

/-- `Predicate`. -/
def Predicate.dump : Predicate → Dumped
  | ⟨col, expr, colFn, op, value, valueCol, valueExpr, valueSubquery, existsSubquery⟩ =>
      .dict [("col", dumpText col), ("expr", dumpExpression expr), ("col_fn", dumpCall colFn),
        ("op", .str op.value), ("value", dumpValue value), ("value_col", dumpText valueCol),
        ("value_expr", dumpExpression valueExpr), ("value_subquery", dumpQuery valueSubquery),
        ("exists_subquery", dumpQuery existsSubquery)]
termination_by structural pred => pred

/-- A member of the select-item union. -/
def SelectItem.dump : SelectItem → Dumped
  | .bare ref => .str ref
  | .aggregate fn col arg distinct alias_ =>
      .dict [("fn", .str fn.value), ("col", dumpText col), ("arg", dumpExpression arg),
        ("distinct", .bool distinct), ("alias", dumpText alias_)]
  | .dateBucket item => item.dump
  | .stringAgg item => item.dump
  | .arrayAgg item => item.dump
  | .percentileCont item => item.dump
  | .scalarFunction call alias_ =>
      .dict [("fn", .str call.fn.value), ("args", .list (call.args.map ScalarFunctionArg.dump)),
        ("alias", dumpText alias_)]
  | .case when_ else_ alias_ =>
      .dict [("when", .list (dumpBranches when_)), ("else_", dumpExpression else_),
        ("alias", .str alias_)]
  | .expression expr alias_ => .dict [("expr", expr.dump), ("alias", .str alias_)]
  | .window call alias_ => .dict (call.dumpFields ++ [("alias", .str alias_)])
termination_by structural item => item

/-- A list of select items. -/
def dumpItems : List SelectItem → List Dumped
  | [] => []
  | item :: rest => item.dump :: dumpItems rest
termination_by structural items => items

/-- `JoinSpec`. -/
def JoinSpec.dump : JoinSpec → Dumped
  | ⟨table, alias_, type, on, extraOn, condition, connection⟩ =>
      .dict [("table", .str table), ("alias", dumpText alias_), ("type", .str type.value),
        ("on", dumpOn on), ("extra_on", .list (extraOn.map dumpPair)),
        ("condition", dumpNode condition), ("connection", dumpText connection)]
termination_by structural join => join

/-- A list of joins. -/
def dumpJoins : List JoinSpec → List Dumped
  | [] => []
  | join :: rest => join.dump :: dumpJoins rest
termination_by structural joins => joins

/-- An optional `SetOpSpec`. -/
def dumpSetOp : Option SetOpSpec → Dumped
  | none => .null
  | some spec => spec.dump
termination_by structural spec => spec

/-- `SetOpSpec`. -/
def SetOpSpec.dump : SetOpSpec → Dumped
  | ⟨op, all, arms⟩ =>
      .dict [("op", .str op.value), ("all_", .bool all), ("arms", .list (dumpQueries arms))]
termination_by structural spec => spec

/-- `CteSpec`. -/
def CteSpec.dump : CteSpec → Dumped
  | ⟨name, query⟩ => .dict [("name", .str name), ("query", query.dump)]
termination_by structural spec => spec

/-- A list of WITH blocks. -/
def dumpCtes : List CteSpec → List Dumped
  | [] => []
  | spec :: rest => spec.dump :: dumpCtes rest
termination_by structural specs => specs

/-- A list of queries. -/
def dumpQueries : List StructuredQuery → List Dumped
  | [] => []
  | query :: rest => query.dump :: dumpQueries rest
termination_by structural queries => queries

/-- An optional query. -/
def dumpQuery : Option StructuredQuery → Dumped
  | none => .null
  | some query => query.dump
termination_by structural query => query

/-- `StructuredQuery`. -/
def StructuredQuery.dump : StructuredQuery → Dumped
  | ⟨fromTable, fromAlias, select, distinct, joins, where_, groupBy, having, orderBy, limit,
      offset, topN, setOp, correlate, ctes, intent, purpose⟩ =>
      .dict [("from_table", .str fromTable), ("from_alias", dumpText fromAlias),
        ("select", .list (dumpItems select)), ("distinct", .bool distinct),
        ("joins", .list (dumpJoins joins)), ("where", dumpNode where_),
        ("group_by", dumpTexts groupBy), ("having", dumpNode having),
        ("order_by", .list (orderBy.map OrderBySpec.dump)), ("limit", dumpInt limit),
        ("offset", .int offset), ("top_n", dumpTopN topN), ("set_op", dumpSetOp setOp),
        ("correlate", dumpTexts correlate), ("ctes", .list (dumpCtes ctes)),
        ("intent", dumpText intent), ("purpose", dumpText purpose)]
termination_by structural query => query

end

/-! ## Literals in the order of their keys -/

mutual

/-- A value with the entries of every object in the order of their keys. -/
def Value.sorted : Value → Value
  | .list items => .list (sortedValues items)
  | .dict entries => .dict (sortByKey (sortedEntries entries))
  | .null => .null
  | .bool value => .bool value
  | .int value => .int value
  | .float value => .float value
  | .str text => .str text
termination_by structural value => value

/-- The items of a list, sorted. -/
def sortedValues : List Value → List Value
  | [] => []
  | item :: rest => item.sorted :: sortedValues rest
termination_by structural items => items

/-- The values of an object, sorted. -/
def sortedEntries : List (String × Value) → List (String × Value)
  | [] => []
  | (key, value) :: rest => (key, value.sorted) :: sortedEntries rest
termination_by structural entries => entries

end

mutual

/-- An expression with its literals sorted. -/
def Expression.sortLiterals : Expression → Expression
  | .column col => .column col
  | .literal value => .literal value
  | .binaryOp op left right => .binaryOp op left.sortLiterals right.sortLiterals
  | .function fn args => .function fn (sortExpressions args)
  | .cast operand target => .cast operand.sortLiterals target
  | .case when_ else_ => .case (sortBranches when_) (sortExpression else_)
  | .extract operand part => .extract operand.sortLiterals part
  | .now kind => .now kind
  | .dateAdd operand unit amount => .dateAdd operand.sortLiterals unit amount
  | .window call => .window call.sortLiterals
termination_by structural expr => expr

def sortExpressions : List Expression → List Expression
  | [] => []
  | expr :: rest => expr.sortLiterals :: sortExpressions rest
termination_by structural exprs => exprs

def sortExpression : Option Expression → Option Expression
  | none => none
  | some expr => some expr.sortLiterals
termination_by structural expr => expr

def WindowCall.sortLiterals : WindowCall → WindowCall
  | ⟨fn, over_, arg, offset, buckets⟩ => ⟨fn, over_, sortExpression arg, offset, buckets⟩
termination_by structural call => call

def CaseWhen.sortLiterals : CaseWhen → CaseWhen
  | ⟨when_, then_⟩ => ⟨when_.sortLiterals, then_.sortLiterals⟩
termination_by structural branch => branch

def sortBranches : List CaseWhen → List CaseWhen
  | [] => []
  | branch :: rest => branch.sortLiterals :: sortBranches rest
termination_by structural branches => branches

/-- A boolean tree with its literals sorted. -/
def WhereNode.sortLiterals : WhereNode → WhereNode
  | .predicate pred => .predicate pred.sortLiterals
  | .group andTerms orTerms notTerms =>
      .group (sortTerms andTerms) (sortTerms orTerms) (sortNode notTerms)
termination_by structural node => node

def sortTerms : Option (List WhereNode) → Option (List WhereNode)
  | none => none
  | some nodes => some (sortNodes nodes)
termination_by structural nodes => nodes

def sortNodes : List WhereNode → List WhereNode
  | [] => []
  | node :: rest => node.sortLiterals :: sortNodes rest
termination_by structural nodes => nodes

def sortNode : Option WhereNode → Option WhereNode
  | none => none
  | some node => some node.sortLiterals
termination_by structural node => node

/-- A predicate with its literals sorted. -/
def Predicate.sortLiterals : Predicate → Predicate
  | ⟨col, expr, colFn, op, value, valueCol, valueExpr, valueSubquery, existsSubquery⟩ =>
      ⟨col, sortExpression expr, colFn, op, value.sorted, valueCol, sortExpression valueExpr,
        sortQuery valueSubquery, sortQuery existsSubquery⟩
termination_by structural pred => pred

def SelectItem.sortLiterals : SelectItem → SelectItem
  | .bare ref => .bare ref
  | .aggregate fn col arg distinct alias_ => .aggregate fn col (sortExpression arg) distinct alias_
  | .dateBucket item => .dateBucket item
  | .stringAgg item => .stringAgg item
  | .arrayAgg item => .arrayAgg item
  | .percentileCont item => .percentileCont item
  | .scalarFunction call alias_ => .scalarFunction call alias_
  | .case when_ else_ alias_ => .case (sortBranches when_) (sortExpression else_) alias_
  | .expression expr alias_ => .expression expr.sortLiterals alias_
  | .window call alias_ => .window call.sortLiterals alias_
termination_by structural item => item

def sortItems : List SelectItem → List SelectItem
  | [] => []
  | item :: rest => item.sortLiterals :: sortItems rest
termination_by structural items => items

def JoinSpec.sortLiterals : JoinSpec → JoinSpec
  | ⟨table, alias_, type, on, extraOn, condition, connection⟩ =>
      ⟨table, alias_, type, on, extraOn, sortNode condition, connection⟩
termination_by structural join => join

def sortJoins : List JoinSpec → List JoinSpec
  | [] => []
  | join :: rest => join.sortLiterals :: sortJoins rest
termination_by structural joins => joins

def sortSetOp : Option SetOpSpec → Option SetOpSpec
  | none => none
  | some spec => some spec.sortLiterals
termination_by structural spec => spec

def SetOpSpec.sortLiterals : SetOpSpec → SetOpSpec
  | ⟨op, all, arms⟩ => ⟨op, all, sortQueries arms⟩
termination_by structural spec => spec

def CteSpec.sortLiterals : CteSpec → CteSpec
  | ⟨name, query⟩ => ⟨name, query.sortLiterals⟩
termination_by structural spec => spec

def sortCtes : List CteSpec → List CteSpec
  | [] => []
  | spec :: rest => spec.sortLiterals :: sortCtes rest
termination_by structural specs => specs

def sortQueries : List StructuredQuery → List StructuredQuery
  | [] => []
  | query :: rest => query.sortLiterals :: sortQueries rest
termination_by structural queries => queries

def sortQuery : Option StructuredQuery → Option StructuredQuery
  | none => none
  | some query => some query.sortLiterals
termination_by structural query => query

/-- A query with the objects of its literals in the order of their keys. -/
def StructuredQuery.sortLiterals : StructuredQuery → StructuredQuery
  | ⟨fromTable, fromAlias, select, distinct, joins, where_, groupBy, having, orderBy, limit,
      offset, topN, setOp, correlate, ctes, intent, purpose⟩ =>
      ⟨fromTable, fromAlias, sortItems select, distinct, sortJoins joins, sortNode where_,
        groupBy, sortNode having, orderBy, limit, offset, topN, sortSetOp setOp, correlate,
        sortCtes ctes, intent, purpose⟩
termination_by structural query => query

end

end QueryGate
