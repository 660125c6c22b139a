import QueryGate.Audit.Shape
import QueryGate.Validation.References

/-! # The audited shape of a query

`normalizeQueryShape` is the projection of a query that the audit trail keeps:
operators, identifiers and structure, as the nested dictionaries the source
builds. A parsed group has a combinator and a parsed predicate a subject; where
the source would raise on a tree without one, the shape has a null.
-/

namespace QueryGate

open Foundation

/-- A shape: a JSON value. -/
abbrev Shape := Value

/-- A list of texts. -/
def textList (texts : List String) : Shape :=
  .list (texts.map .str)

/-- A dictionary entry that is there only with a value. -/
def optionalEntry (key : String) : Option Shape → List (String × Shape)
  | none => []
  | some shape => [(key, shape)]

/-- A text, or null. -/
def optionText : Option String → Shape
  | none => .null
  | some text => .str text

/-- The `alias` entry of a select item. -/
def aliasEntry (alias_ : Option String) : List (String × Shape) :=
  optionalEntry "alias" (alias_.map .str)

/-- The `frame` entry of a window call: its shape, without the offsets. -/
def frameEntry (spec : WindowSpec) : List (String × Shape) :=
  optionalEntry "frame" (spec.frame.map fun frame =>
    .dict [("mode", .str frame.mode.value), ("start", .str frame.start.bound.value),
      ("end", .str frame.stop.bound.value)])

/-- `order.model_dump()`. -/
def orderShape (order : OrderBySpec) : Shape :=
  .dict [("col", .str order.col), ("dir", .str order.dir.value),
    ("nulls", optionText (order.nulls.map NullsOrder.value))]

/-- What a predicate compares: a column, a function of columns, or an expression
of the given shape. -/
def subjectEntries (col : Option String) (colFn : Option ScalarFunctionCall) (expression : Shape) :
    List (String × Shape) :=
  match col, colFn with
  | some ref, _ => [("column", .str ref)]
  | none, some call => [("function", .str call.fn.value), ("columns", textList call.columnArgs)]
  | none, none => [("expression", expression)]

/-- What an aggregate is taken over: the star form, a bare column, or a computed
argument of the given shape over the given columns. -/
def argumentEntries (col : Option String) (arg : Option Expression) (expression : Shape)
    (columns : List String) : List (String × Shape) :=
  match arg with
  | none => [("column", optionText col)]
  | some (.column ref) => [("column", .str ref)]
  | some _ => [("expression", expression), ("columns", textList columns)]

/-- The `top_n` entry of a query. -/
def topNShape (spec : TopNSpec) : Shape :=
  .dict [("partition_by", textList spec.partitionBy), ("order_by", .list (spec.orderBy.map orderShape)),
    ("n", .int spec.n), ("function", .str spec.fn.value)]

mutual

/-- `_expression_shape`. -/
def expressionShape : Expression → Shape
  | .column col => .dict [("node", .str "column"), ("column", .str col)]
  | .literal _ => .dict [("node", .str "literal")]
  | .binaryOp op left right =>
      .dict [("node", .str "binary_op"), ("operator", .str op.value),
        ("operands", .list [expressionShape left, expressionShape right])]
  | .function fn args =>
      .dict [("node", .str "function"), ("function", .str fn.value),
        ("args", .list (argumentShapes args))]
  | .cast operand target =>
      .dict [("node", .str "cast"), ("to", .str target.value), ("operand", expressionShape operand)]
  | .extract operand part =>
      .dict [("node", .str "extract"), ("part", .str part.value),
        ("operand", expressionShape operand)]
  | .now kind => .dict [("node", .str "now"), ("kind", .str kind.value)]
  | .dateAdd operand unit _ =>
      .dict [("node", .str "date_add"), ("unit", .str unit.value),
        ("operand", expressionShape operand)]
  | .case when_ else_ =>
      .dict ([("node", .str "case"), ("branch_count", .int when_.length),
        ("conditions", .list (conditionShapes when_)), ("results", .list (resultShapes when_))] ++
        expressionEntry "else" else_)
  | .window call => .dict (windowEntries call)
termination_by structural expr => expr

/-- The shapes of a function's arguments. -/
def argumentShapes : List Expression → List Shape
  | [] => []
  | expr :: rest => expressionShape expr :: argumentShapes rest
termination_by structural exprs => exprs

/-- The entry of an optional expression. -/
def expressionEntry (key : String) : Option Expression → List (String × Shape)
  | none => []
  | some expr => [(key, expressionShape expr)]
termination_by structural expr => expr

/-- The entries of a window call as an operand. -/
def windowEntries : WindowCall → List (String × Shape)
  | ⟨fn, over_, arg, _, _⟩ =>
      [("node", .str "window"), ("function", .str fn.value),
        ("partition_by", textList over_.partitionBy),
        ("order_by", textList (over_.orderBy.map OrderBySpec.col))] ++
        expressionEntry "operand" arg ++ frameEntry over_
termination_by structural call => call

/-- The `expression` and `frame` entries of a window projection. -/
def windowItemEntries : WindowCall → List (String × Shape)
  | ⟨_, over_, arg, _, _⟩ => expressionEntry "expression" arg ++ frameEntry over_
termination_by structural call => call

/-- The shapes of the conditions of CASE branches. -/
def conditionShapes : List CaseWhen → List Shape
  | [] => []
  | branch :: rest => conditionShape branch :: conditionShapes rest
termination_by structural branches => branches

/-- The shape of a branch's condition. -/
def conditionShape : CaseWhen → Shape
  | ⟨when_, _⟩ => whereNodeShape when_
termination_by structural branch => branch

/-- The shapes of the results of CASE branches. -/
def resultShapes : List CaseWhen → List Shape
  | [] => []
  | branch :: rest => resultShape branch :: resultShapes rest
termination_by structural branches => branches

/-- The shape of a branch's result. -/
def resultShape : CaseWhen → Shape
  | ⟨_, then_⟩ => expressionShape then_
termination_by structural branch => branch

/-- `_where_shape`. -/
def whereNodeShape : WhereNode → Shape
  | .predicate pred => predicateShape pred
  | .group andTerms orTerms notTerms =>
      if hasTerms andTerms then .dict [("and", .list (termNodeShapes andTerms))]
      else if hasTerms orTerms then .dict [("or", .list (termNodeShapes orTerms))]
      else .dict [("not", optionNodeShape notTerms)]
termination_by structural node => node

/-- The shapes of an optional list of terms. -/
def termNodeShapes : Option (List WhereNode) → List Shape
  | none => []
  | some nodes => nodeListShapes nodes
termination_by structural nodes => nodes

/-- The shapes of a list of terms. -/
def nodeListShapes : List WhereNode → List Shape
  | [] => []
  | node :: rest => whereNodeShape node :: nodeListShapes rest
termination_by structural nodes => nodes

/-- The shape of an optional term. -/
def optionNodeShape : Option WhereNode → Shape
  | none => .null
  | some node => whereNodeShape node
termination_by structural node => node

/-- The entry of an optional boolean tree. -/
def whereEntry (key : String) : Option WhereNode → List (String × Shape)
  | none => []
  | some node => [(key, whereNodeShape node)]
termination_by structural node => node

/-- `_predicate_shape`. An EXISTS test has no left-hand side to record. -/
def predicateShape : Predicate → Shape
  | ⟨col, expr, colFn, op, _, valueCol, valueExpr, valueSubquery, existsSubquery⟩ =>
      .dict (("operator", .str op.value) ::
        if existsSubquery.isSome then queryEntry "exists_subquery" existsSubquery
        else
          subjectEntries col colFn (optionExpressionShape expr) ++
            optionalEntry "value_column" (valueCol.map .str) ++
            expressionEntry "value_expression" valueExpr ++
            queryEntry "value_subquery" valueSubquery)
termination_by structural pred => pred

/-- The shape of an optional expression. -/
def optionExpressionShape : Option Expression → Shape
  | none => .null
  | some expr => expressionShape expr
termination_by structural expr => expr

/-- The entry of an optional query. -/
def queryEntry (key : String) : Option StructuredQuery → List (String × Shape)
  | none => []
  | some query => [(key, normalizeQueryShape query)]
termination_by structural query => query

/-- `_select_shape`. -/
def selectShape : SelectItem → Shape
  | .bare ref => .dict [("kind", .str "column"), ("column", .str ref)]
  | .aggregate fn col arg distinct alias_ =>
      .dict ([("kind", .str "aggregate"), ("function", .str fn.value)] ++
        argumentEntries col arg (optionExpressionShape arg)
          (selectItemColumnRefs (.aggregate fn col arg distinct alias_)) ++
        aliasEntry alias_)
  | .expression expr alias_ =>
      .dict [("kind", .str "expression"), ("alias", .str alias_),
        ("expression", expressionShape expr),
        ("columns", textList (selectItemColumnRefs (.expression expr alias_)))]
  | .dateBucket item =>
      .dict ([("kind", .str "date_bucket"), ("column", .str item.col),
        ("granularity", .str item.granularity.value)] ++ aliasEntry item.alias_)
  | .stringAgg item =>
      .dict ([("kind", .str "string_agg"), ("column", .str item.col)] ++ aliasEntry item.alias_)
  | .arrayAgg item =>
      .dict ([("kind", .str "array_agg"), ("column", .str item.col)] ++ aliasEntry item.alias_)
  | .percentileCont item =>
      .dict ([("kind", .str "percentile_cont"), ("column", .str item.col),
        ("fraction", .float item.fraction)] ++ aliasEntry item.alias_)
  | .scalarFunction call alias_ =>
      .dict ([("kind", .str "scalar_fn"), ("function", .str call.fn.value),
        ("columns", textList (selectItemColumnRefs (.scalarFunction call alias_)))] ++
        aliasEntry alias_)
  | .case when_ else_ alias_ =>
      .dict [("kind", .str "case"), ("alias", .str alias_), ("branch_count", .int when_.length),
        ("columns", textList (selectItemColumnRefs (.case when_ else_ alias_))),
        ("conditions", .list (conditionShapes when_))]
  | .window call alias_ =>
      .dict ([("kind", .str "window"), ("function", .str call.fn.value), ("alias", .str alias_),
        ("columns", textList (selectItemColumnRefs (.window call alias_)))] ++
        windowItemEntries call)
termination_by structural item => item

/-- The shapes of a select list. -/
def selectShapes : List SelectItem → List Shape
  | [] => []
  | item :: rest => selectShape item :: selectShapes rest
termination_by structural items => items

/-- The shape of a join: `on` and `condition` as the caller wrote them. -/
def joinShape : JoinSpec → Shape
  | ⟨table, _, type, on, _, condition, connection⟩ =>
      .dict ([("table", .str table), ("type", .str type.value)] ++
        optionalEntry "on" (on.map fun pair => textList [pair.1, pair.2]) ++
        whereEntry "condition" condition ++
        optionalEntry "connection" ((connection.filter (· != "")).map .str))
termination_by structural join => join

/-- The shapes of a list of joins. -/
def joinShapes : List JoinSpec → List Shape
  | [] => []
  | join :: rest => joinShape join :: joinShapes rest
termination_by structural joins => joins

/-- The `set_op` entry of a query. -/
def setOpEntry : Option SetOpSpec → List (String × Shape)
  | none => []
  | some spec => [("set_op", setOpShape spec)]
termination_by structural spec => spec

/-- The shape of a set operation, its arms included. -/
def setOpShape : SetOpSpec → Shape
  | ⟨op, all, arms⟩ =>
      .dict [("op", .str op.value), ("all", .bool all), ("arms", .list (queryShapes arms))]
termination_by structural spec => spec

/-- The shapes of a list of queries. -/
def queryShapes : List StructuredQuery → List Shape
  | [] => []
  | query :: rest => normalizeQueryShape query :: queryShapes rest
termination_by structural queries => queries

/-- The shapes of the WITH blocks. -/
def cteShapes : List CteSpec → List Shape
  | [] => []
  | spec :: rest => cteShape spec :: cteShapes rest
termination_by structural specs => specs

/-- The shape of a WITH block. -/
def cteShape : CteSpec → Shape
  | ⟨name, query⟩ => .dict [("name", .str name), ("query", normalizeQueryShape query)]
termination_by structural spec => spec

/-- `normalize_query_shape`. -/
def normalizeQueryShape : StructuredQuery → Shape
  | ⟨fromTable, _, select, _, joins, where_, groupBy, having, orderBy, limit, offset, topN, setOp,
      correlate, ctes, _, _⟩ =>
      .dict ([("from", .str fromTable), ("select", .list (selectShapes select)),
        ("joins", .list (joinShapes joins)), ("group_by", textList groupBy),
        ("order_by", .list (orderBy.map orderShape)), ("offset", .int offset)] ++
        whereEntry "where" where_ ++ whereEntry "having" having ++
        optionalEntry "requested_limit" (limit.map .int) ++
        optionalEntry "top_n" (topN.map topNShape) ++ setOpEntry setOp ++
        (if correlate.isEmpty then [] else [("correlate", textList correlate)]) ++
        (if ctes.isEmpty then [] else [("ctes", .list (cteShapes ctes))]))
termination_by structural query => query

end

/-! ## The texts of a shape -/

mutual

/-- Every text a shape holds. -/
def Value.texts : Value → List String
  | .null => []
  | .bool _ => []
  | .int _ => []
  | .float _ => []
  | .str text => [text]
  | .list items => listTexts items
  | .dict entries => entryTexts entries
termination_by structural shape => shape

/-- The texts of a list of shapes. -/
def listTexts : List Value → List String
  | [] => []
  | item :: rest => item.texts ++ listTexts rest
termination_by structural items => items

/-- The texts of the values of a dictionary. -/
def entryTexts : List (String × Value) → List String
  | [] => []
  | (_, value) :: rest => value.texts ++ entryTexts rest
termination_by structural entries => entries

end

attribute [simp] Value.texts listTexts entryTexts

@[simp]
theorem listTexts_append (first second : List Shape) :
    listTexts (first ++ second) = listTexts first ++ listTexts second := by
  induction first with
  | nil => rfl
  | cons item rest ih => rw [List.cons_append, listTexts, listTexts, ih, List.append_assoc]

@[simp]
theorem entryTexts_append (first second : List (String × Shape)) :
    entryTexts (first ++ second) = entryTexts first ++ entryTexts second := by
  induction first with
  | nil => rfl
  | cons entry rest ih => rw [List.cons_append, entryTexts, entryTexts, ih, List.append_assoc]

@[simp]
theorem texts_textList (names : List String) : (textList names).texts = names := by
  rw [textList, Value.texts]
  induction names with
  | nil => rfl
  | cons name rest ih => rw [List.map_cons, listTexts, ih, Value.texts, List.singleton_append]

@[simp]
theorem texts_optionText (text : Option String) : (optionText text).texts = text.toList := by
  cases text <;> rfl

@[simp]
theorem entryTexts_optionalEntry (key : String) (shape : Option Shape) :
    entryTexts (optionalEntry key shape) = shape.toList.flatMap Value.texts := by
  cases shape <;> rfl

@[simp]
theorem entryTexts_aliasEntry (alias_ : Option String) :
    entryTexts (aliasEntry alias_) = alias_.toList := by
  cases alias_ <;> rfl

end QueryGate
