import QueryGate.Audit.QueryShape
import QueryGate.Validation.ScopeCoverage

/-! # The audited shape names what is read

`StructuredQuery.recordedTexts` lists, over the query itself, the texts the
audit trail keeps: what the caller wrote at each recorded position, with the
fixed words around it. The shape holds exactly these (`texts_normalizeQueryShape`).
Every reference of the reference visitor is among them but those of `extra_on`,
which no entry of a join's shape records.
-/

namespace QueryGate

open Foundation

/-- The recorded texts of a frame. -/
def WindowSpec.frameTexts (spec : WindowSpec) : List String :=
  spec.frame.toList.flatMap fun frame =>
    [frame.mode.value, frame.start.bound.value, frame.stop.bound.value]

/-- The recorded texts of an ordering. -/
def OrderBySpec.recordedTexts (order : OrderBySpec) : List String :=
  order.col :: order.dir.value :: (order.nulls.map NullsOrder.value).toList

/-- The recorded texts of a top-n clause. -/
def TopNSpec.recordedTexts (spec : TopNSpec) : List String :=
  spec.partitionBy ++ spec.orderBy.flatMap OrderBySpec.recordedTexts ++ [spec.fn.value]

/-- The recorded texts of a predicate's subject, those of its expression given. -/
def subjectTexts (col : Option String) (colFn : Option ScalarFunctionCall)
    (expression : List String) : List String :=
  match col, colFn with
  | some ref, _ => [ref]
  | none, some call => call.fn.value :: call.columnArgs
  | none, none => expression

/-- The recorded texts of an aggregate's argument, those of its expression and
its columns given. -/
def argumentTexts (col : Option String) (arg : Option Expression)
    (expression columns : List String) : List String :=
  match arg with
  | none => col.toList
  | some (.column ref) => [ref]
  | some _ => expression ++ columns

mutual

/-- The recorded texts of an expression. -/
def Expression.recordedTexts : Expression → List String
  | .column col => ["column", col]
  | .literal _ => ["literal"]
  | .binaryOp op left right => ["binary_op", op.value] ++ (left.recordedTexts ++ right.recordedTexts)
  | .function fn args => ["function", fn.value] ++ expressionTexts args
  | .cast operand target => ["cast", target.value] ++ operand.recordedTexts
  | .extract operand part => ["extract", part.value] ++ operand.recordedTexts
  | .now kind => ["now", kind.value]
  | .dateAdd operand unit _ => ["date_add", unit.value] ++ operand.recordedTexts
  | .case when_ else_ =>
      ["case"] ++ (conditionTexts when_ ++ (resultTexts when_ ++ optionExpressionTexts else_))
  | .window call => call.recordedTexts
termination_by structural expr => expr

/-- The recorded texts of a list of expressions. -/
def expressionTexts : List Expression → List String
  | [] => []
  | expr :: rest => expr.recordedTexts ++ expressionTexts rest
termination_by structural exprs => exprs

/-- The recorded texts of an optional expression. -/
def optionExpressionTexts : Option Expression → List String
  | none => []
  | some expr => expr.recordedTexts
termination_by structural expr => expr

/-- The recorded texts of a window call as an operand. -/
def WindowCall.recordedTexts : WindowCall → List String
  | ⟨fn, over_, arg, _, _⟩ =>
      ["window", fn.value] ++ (over_.columnRefs ++ (optionExpressionTexts arg ++ over_.frameTexts))
termination_by structural call => call

/-- The recorded texts of a window projection, beside its columns. -/
def WindowCall.itemTexts : WindowCall → List String
  | ⟨_, over_, arg, _, _⟩ => optionExpressionTexts arg ++ over_.frameTexts
termination_by structural call => call

/-- The recorded texts of the conditions of CASE branches. -/
def conditionTexts : List CaseWhen → List String
  | [] => []
  | branch :: rest => branch.conditionTexts ++ conditionTexts rest
termination_by structural branches => branches

/-- The recorded texts of a branch's condition. -/
def CaseWhen.conditionTexts : CaseWhen → List String
  | ⟨when_, _⟩ => when_.recordedTexts
termination_by structural branch => branch

/-- The recorded texts of the results of CASE branches. -/
def resultTexts : List CaseWhen → List String
  | [] => []
  | branch :: rest => branch.resultTexts ++ resultTexts rest
termination_by structural branches => branches

/-- The recorded texts of a branch's result. -/
def CaseWhen.resultTexts : CaseWhen → List String
  | ⟨_, then_⟩ => then_.recordedTexts
termination_by structural branch => branch

/-- The recorded texts of a boolean tree. -/
def WhereNode.recordedTexts : WhereNode → List String
  | .predicate pred => pred.recordedTexts
  | .group andTerms orTerms notTerms =>
      if hasTerms andTerms then termTexts andTerms
      else if hasTerms orTerms then termTexts orTerms
      else optionNodeTexts notTerms
termination_by structural node => node

/-- The recorded texts of an optional list of terms. -/
def termTexts : Option (List WhereNode) → List String
  | none => []
  | some nodes => nodeTexts nodes
termination_by structural nodes => nodes

/-- The recorded texts of a list of terms. -/
def nodeTexts : List WhereNode → List String
  | [] => []
  | node :: rest => node.recordedTexts ++ nodeTexts rest
termination_by structural nodes => nodes

/-- The recorded texts of an optional boolean tree. -/
def optionNodeTexts : Option WhereNode → List String
  | none => []
  | some node => node.recordedTexts
termination_by structural node => node

/-- The recorded texts of a predicate. -/
def Predicate.recordedTexts : Predicate → List String
  | ⟨col, expr, colFn, op, _, valueCol, valueExpr, valueSubquery, existsSubquery⟩ =>
      op.value :: if existsSubquery.isSome then optionQueryTexts existsSubquery
        else subjectTexts col colFn (optionExpressionTexts expr) ++ (valueCol.toList ++
          (optionExpressionTexts valueExpr ++ optionQueryTexts valueSubquery))
termination_by structural pred => pred

/-- The recorded texts of an optional query. -/
def optionQueryTexts : Option StructuredQuery → List String
  | none => []
  | some query => query.recordedTexts
termination_by structural query => query

/-- The recorded texts of a select item. -/
def SelectItem.recordedTexts : SelectItem → List String
  | .bare ref => ["column", ref]
  | .aggregate fn col arg distinct alias_ =>
      ["aggregate", fn.value] ++ (argumentTexts col arg (optionExpressionTexts arg)
        (selectItemColumnRefs (.aggregate fn col arg distinct alias_)) ++ alias_.toList)
  | .expression expr alias_ =>
      ["expression", alias_] ++
        (expr.recordedTexts ++ selectItemColumnRefs (.expression expr alias_))
  | .dateBucket item => ["date_bucket", item.col, item.granularity.value] ++ item.alias_.toList
  | .stringAgg item => ["string_agg", item.col] ++ item.alias_.toList
  | .arrayAgg item => ["array_agg", item.col] ++ item.alias_.toList
  | .percentileCont item => ["percentile_cont", item.col] ++ item.alias_.toList
  | .scalarFunction call alias_ =>
      ["scalar_fn", call.fn.value] ++
        (selectItemColumnRefs (.scalarFunction call alias_) ++ alias_.toList)
  | .case when_ else_ alias_ =>
      ["case", alias_] ++ (selectItemColumnRefs (.case when_ else_ alias_) ++ conditionTexts when_)
  | .window call alias_ =>
      ["window", call.fn.value, alias_] ++
        (selectItemColumnRefs (.window call alias_) ++ call.itemTexts)
termination_by structural item => item

/-- The recorded texts of a select list. -/
def itemTexts : List SelectItem → List String
  | [] => []
  | item :: rest => item.recordedTexts ++ itemTexts rest
termination_by structural items => items

/-- The recorded texts of a join: not its alias, and not its `extra_on` pairs. -/
def JoinSpec.recordedTexts : JoinSpec → List String
  | ⟨table, _, type, on, _, condition, connection⟩ =>
      [table, type.value] ++ (on.toList.flatMap pairSides ++
        (optionNodeTexts condition ++ (connection.filter (· != "")).toList))
termination_by structural join => join

/-- The recorded texts of a list of joins. -/
def joinTexts : List JoinSpec → List String
  | [] => []
  | join :: rest => join.recordedTexts ++ joinTexts rest
termination_by structural joins => joins

/-- The recorded texts of an optional set operation. -/
def setOpTexts : Option SetOpSpec → List String
  | none => []
  | some spec => spec.recordedTexts
termination_by structural spec => spec

/-- The recorded texts of a set operation. -/
def SetOpSpec.recordedTexts : SetOpSpec → List String
  | ⟨op, _, arms⟩ => op.value :: queryTexts arms
termination_by structural spec => spec

/-- The recorded texts of a list of queries. -/
def queryTexts : List StructuredQuery → List String
  | [] => []
  | query :: rest => query.recordedTexts ++ queryTexts rest
termination_by structural queries => queries

/-- The recorded texts of the WITH blocks. -/
def cteTexts : List CteSpec → List String
  | [] => []
  | spec :: rest => spec.recordedTexts ++ cteTexts rest
termination_by structural specs => specs

/-- The recorded texts of a WITH block. -/
def CteSpec.recordedTexts : CteSpec → List String
  | ⟨name, query⟩ => name :: query.recordedTexts
termination_by structural spec => spec

/-- The texts the audit trail keeps of a query. -/
def StructuredQuery.recordedTexts : StructuredQuery → List String
  | ⟨fromTable, _, select, _, joins, where_, groupBy, having, orderBy, _, _, topN, setOp,
      correlate, ctes, _, _⟩ =>
      fromTable :: (itemTexts select ++ (joinTexts joins ++ (groupBy ++
        (orderBy.flatMap OrderBySpec.recordedTexts ++ (optionNodeTexts where_ ++
        (optionNodeTexts having ++ (topN.toList.flatMap TopNSpec.recordedTexts ++
        (setOpTexts setOp ++ (correlate ++ cteTexts ctes)))))))))
termination_by structural query => query

end

/-! ## The shape holds exactly the recorded texts -/

@[simp]
theorem entryTexts_frameEntry (spec : WindowSpec) :
    entryTexts (frameEntry spec) = spec.frameTexts := by
  unfold frameEntry WindowSpec.frameTexts
  cases spec.frame <;> rfl

@[simp]
theorem texts_orderShape (order : OrderBySpec) :
    (orderShape order).texts = order.recordedTexts := by
  simp [orderShape, OrderBySpec.recordedTexts]

@[simp]
theorem listTexts_orderShapes (orders : List OrderBySpec) :
    listTexts (orders.map orderShape) = orders.flatMap OrderBySpec.recordedTexts := by
  induction orders with
  | nil => rfl
  | cons order rest ih =>
      rw [List.map_cons, listTexts, ih, texts_orderShape, List.flatMap_cons]

@[simp]
theorem texts_topNShape (spec : TopNSpec) : (topNShape spec).texts = spec.recordedTexts := by
  simp [topNShape, TopNSpec.recordedTexts]

theorem entryTexts_subjectEntries (col : Option String) (colFn : Option ScalarFunctionCall)
    (expression : Shape) :
    entryTexts (subjectEntries col colFn expression) =
      subjectTexts col colFn expression.texts := by
  cases col with
  | some ref => rfl
  | none => cases colFn <;> simp [subjectEntries, subjectTexts]

theorem entryTexts_argumentEntries (col : Option String) (arg : Option Expression)
    (expression : Shape) (columns : List String) :
    entryTexts (argumentEntries col arg expression columns) =
      argumentTexts col arg expression.texts columns := by
  cases arg with
  | none => simp [argumentEntries, argumentTexts]
  | some expr => cases expr <;> simp [argumentEntries, argumentTexts]

mutual

theorem texts_expressionShape : ∀ expr : Expression,
    (expressionShape expr).texts = expr.recordedTexts
  | .column _ => rfl
  | .literal _ => rfl
  | .now _ => rfl
  | .binaryOp _ left right => by
      simp [expressionShape, Expression.recordedTexts, texts_expressionShape left,
        texts_expressionShape right]
  | .function _ args => by
      simp [expressionShape, Expression.recordedTexts, texts_argumentShapes args]
  | .cast operand _ => by
      simp [expressionShape, Expression.recordedTexts, texts_expressionShape operand]
  | .extract operand _ => by
      simp [expressionShape, Expression.recordedTexts, texts_expressionShape operand]
  | .dateAdd operand _ _ => by
      simp [expressionShape, Expression.recordedTexts, texts_expressionShape operand]
  | .window call => by
      rw [expressionShape, Value.texts, Expression.recordedTexts, texts_windowEntries call]
  | .case when_ else_ => by
      simp [expressionShape, Expression.recordedTexts, texts_conditionShapes when_,
        texts_resultShapes when_, texts_expressionEntry else_]
termination_by structural expr => expr

theorem texts_argumentShapes : ∀ exprs : List Expression,
    listTexts (argumentShapes exprs) = expressionTexts exprs
  | [] => rfl
  | expr :: rest => by
      rw [argumentShapes, listTexts, expressionTexts, texts_expressionShape expr,
        texts_argumentShapes rest]
termination_by structural exprs => exprs

theorem texts_expressionEntry : ∀ (expr : Option Expression) (key : String),
    entryTexts (expressionEntry key expr) = optionExpressionTexts expr
  | none, _ => rfl
  | some expr, key => by
      rw [expressionEntry, entryTexts, entryTexts, List.append_nil, texts_expressionShape expr,
        optionExpressionTexts]
termination_by structural expr => expr

theorem texts_windowEntries : ∀ call : WindowCall,
    entryTexts (windowEntries call) = call.recordedTexts
  | ⟨_, over_, arg, _, _⟩ => by
      simp [windowEntries, WindowCall.recordedTexts, WindowSpec.columnRefs,
        texts_expressionEntry arg]
termination_by structural call => call

theorem texts_windowItemEntries : ∀ call : WindowCall,
    entryTexts (windowItemEntries call) = call.itemTexts
  | ⟨_, over_, arg, _, _⟩ => by
      rw [windowItemEntries, entryTexts_append, texts_expressionEntry arg, entryTexts_frameEntry,
        WindowCall.itemTexts]
termination_by structural call => call

theorem texts_conditionShapes : ∀ branches : List CaseWhen,
    listTexts (conditionShapes branches) = conditionTexts branches
  | [] => rfl
  | ⟨when_, _⟩ :: rest => by
      rw [conditionShapes, listTexts, conditionTexts, conditionShape, CaseWhen.conditionTexts,
        texts_whereNodeShape when_, texts_conditionShapes rest]
termination_by structural branches => branches

theorem texts_resultShapes : ∀ branches : List CaseWhen,
    listTexts (resultShapes branches) = resultTexts branches
  | [] => rfl
  | ⟨_, then_⟩ :: rest => by
      rw [resultShapes, listTexts, resultTexts, resultShape, CaseWhen.resultTexts,
        texts_expressionShape then_, texts_resultShapes rest]
termination_by structural branches => branches

theorem texts_whereNodeShape : ∀ node : WhereNode,
    (whereNodeShape node).texts = node.recordedTexts
  | .predicate pred => by
      rw [whereNodeShape, WhereNode.recordedTexts, texts_predicateShape pred]
  | .group andTerms orTerms notTerms => by
      rw [whereNodeShape, WhereNode.recordedTexts]
      by_cases conjunctive : hasTerms andTerms = true
      · simp [conjunctive, texts_termNodeShapes andTerms]
      · by_cases disjunctive : hasTerms orTerms = true
        · simp [conjunctive, disjunctive, texts_termNodeShapes orTerms]
        · simp [conjunctive, disjunctive, texts_optionNodeShape notTerms]
termination_by structural node => node

theorem texts_termNodeShapes : ∀ terms : Option (List WhereNode),
    listTexts (termNodeShapes terms) = termTexts terms
  | none => rfl
  | some nodes => texts_nodeListShapes nodes
termination_by structural terms => terms

theorem texts_nodeListShapes : ∀ nodes : List WhereNode,
    listTexts (nodeListShapes nodes) = nodeTexts nodes
  | [] => rfl
  | node :: rest => by
      rw [nodeListShapes, listTexts, nodeTexts, texts_whereNodeShape node,
        texts_nodeListShapes rest]
termination_by structural nodes => nodes

theorem texts_optionNodeShape : ∀ node : Option WhereNode,
    (optionNodeShape node).texts = optionNodeTexts node
  | none => rfl
  | some node => texts_whereNodeShape node
termination_by structural node => node

theorem texts_whereEntry : ∀ (node : Option WhereNode) (key : String),
    entryTexts (whereEntry key node) = optionNodeTexts node
  | none, _ => rfl
  | some node, key => by
      rw [whereEntry, entryTexts, entryTexts, List.append_nil, texts_whereNodeShape node,
        optionNodeTexts]
termination_by structural node => node

theorem texts_predicateShape : ∀ pred : Predicate,
    (predicateShape pred).texts = pred.recordedTexts
  | ⟨col, expr, colFn, op, _, valueCol, valueExpr, valueSubquery, existsSubquery⟩ => by
      rw [predicateShape, Predicate.recordedTexts]
      by_cases test : existsSubquery.isSome = true
      · simp [test, texts_queryEntry existsSubquery]
      · simp [test, entryTexts_subjectEntries, texts_optionExpressionShape expr,
          texts_expressionEntry valueExpr, texts_queryEntry valueSubquery]
        cases valueCol <;> rfl
termination_by structural pred => pred

theorem texts_optionExpressionShape : ∀ expr : Option Expression,
    (optionExpressionShape expr).texts = optionExpressionTexts expr
  | none => rfl
  | some expr => texts_expressionShape expr
termination_by structural expr => expr

theorem texts_queryEntry : ∀ (query : Option StructuredQuery) (key : String),
    entryTexts (queryEntry key query) = optionQueryTexts query
  | none, _ => rfl
  | some query, key => by
      rw [queryEntry, entryTexts, entryTexts, List.append_nil, texts_normalizeQueryShape query,
        optionQueryTexts]
termination_by structural query => query

theorem texts_selectShape : ∀ item : SelectItem, (selectShape item).texts = item.recordedTexts
  | .bare _ => rfl
  | .dateBucket _ => by simp [selectShape, SelectItem.recordedTexts]
  | .stringAgg _ => by simp [selectShape, SelectItem.recordedTexts]
  | .arrayAgg _ => by simp [selectShape, SelectItem.recordedTexts]
  | .percentileCont _ => by simp [selectShape, SelectItem.recordedTexts]
  | .scalarFunction _ _ => by simp [selectShape, SelectItem.recordedTexts]
  | .expression expr _ => by
      simp [selectShape, SelectItem.recordedTexts, texts_expressionShape expr]
  | .case when_ _ _ => by
      simp [selectShape, SelectItem.recordedTexts, texts_conditionShapes when_]
  | .window call _ => by
      simp [selectShape, SelectItem.recordedTexts, texts_windowItemEntries call]
  | .aggregate _ _ arg _ _ => by
      simp [selectShape, SelectItem.recordedTexts, entryTexts_argumentEntries,
        texts_optionExpressionShape arg]
termination_by structural item => item

theorem texts_selectShapes : ∀ items : List SelectItem,
    listTexts (selectShapes items) = itemTexts items
  | [] => rfl
  | item :: rest => by
      rw [selectShapes, listTexts, itemTexts, texts_selectShape item, texts_selectShapes rest]
termination_by structural items => items

theorem texts_joinShapes : ∀ joins : List JoinSpec,
    listTexts (joinShapes joins) = joinTexts joins
  | [] => rfl
  | ⟨_, _, _, on, _, condition, connection⟩ :: rest => by
      rw [joinShapes, listTexts, joinTexts, texts_joinShapes rest, joinShape,
        JoinSpec.recordedTexts]
      simp [texts_whereEntry condition]
      cases on <;> cases connection.filter (· != "") <;> simp [pairSides]
termination_by structural joins => joins

theorem texts_setOpEntry : ∀ spec : Option SetOpSpec,
    entryTexts (setOpEntry spec) = setOpTexts spec
  | none => rfl
  | some ⟨_, _, arms⟩ => by
      simp [setOpEntry, setOpTexts, setOpShape, SetOpSpec.recordedTexts, texts_queryShapes arms]
termination_by structural spec => spec

theorem texts_queryShapes : ∀ queries : List StructuredQuery,
    listTexts (queryShapes queries) = queryTexts queries
  | [] => rfl
  | query :: rest => by
      rw [queryShapes, listTexts, queryTexts, texts_normalizeQueryShape query,
        texts_queryShapes rest]
termination_by structural queries => queries

theorem texts_cteShapes : ∀ specs : List CteSpec, listTexts (cteShapes specs) = cteTexts specs
  | [] => rfl
  | ⟨_, query⟩ :: rest => by
      simp [cteShapes, cteTexts, cteShape, CteSpec.recordedTexts, texts_normalizeQueryShape query,
        texts_cteShapes rest]
termination_by structural specs => specs

/-- The shape of a query holds exactly its recorded texts. -/
theorem texts_normalizeQueryShape : ∀ query : StructuredQuery,
    (normalizeQueryShape query).texts = query.recordedTexts
  | ⟨_, _, select, _, joins, where_, _, having, _, limit, _, topN, setOp, correlate, ctes, _, _⟩ => by
      have outer : entryTexts (if correlate.isEmpty then [] else [("correlate", textList correlate)])
          = correlate := by cases correlate <;> simp
      have blocks : entryTexts (if ctes.isEmpty then [] else [("ctes", .list (cteShapes ctes))])
          = cteTexts ctes := by
        cases ctes with
        | nil => rfl
        | cons spec rest => simp [texts_cteShapes (spec :: rest)]
      have bound : (limit.map Value.int).toList.flatMap Value.texts = [] := by cases limit <;> rfl
      have ranked : (topN.map topNShape).toList.flatMap Value.texts =
          topN.toList.flatMap TopNSpec.recordedTexts := by cases topN <;> simp
      rw [normalizeQueryShape, Value.texts, StructuredQuery.recordedTexts]
      simp only [entryTexts_append, outer, blocks, entryTexts_optionalEntry, bound, ranked,
        texts_whereEntry where_, texts_whereEntry having, texts_setOpEntry setOp]
      simp [texts_selectShapes select, texts_joinShapes joins]
termination_by structural query => query

end

/-! ## What the reference visitor yields is recorded -/

/-- An accepted group records the terms the predicate walk visits. -/
theorem recordedTexts_group {andTerms orTerms : Option (List WhereNode)}
    {notTerms : Option WhereNode} (one : exactlyOneBoolean andTerms orTerms notTerms = .ok ()) :
    (∃ node, notTerms = some node ∧
        (WhereNode.group andTerms orTerms notTerms).recordedTexts = node.recordedTexts) ∨
      (notTerms = none ∧ truthyTerms andTerms = true ∧
        (WhereNode.group andTerms orTerms notTerms).recordedTexts = termTexts andTerms) ∨
      (notTerms = none ∧ truthyTerms andTerms = false ∧
        (WhereNode.group andTerms orTerms notTerms).recordedTexts = termTexts orTerms) := by
  rw [WhereNode.recordedTexts, hasTerms_eq_truthyTerms, hasTerms_eq_truthyTerms]
  obtain ⟨node, rfl, ands, ors⟩ | ⟨none, ands, ors⟩ | ⟨none, ands, ors⟩ :=
    exactlyOneBoolean_cases one
  · exact .inl ⟨node, rfl, by simp [ands, ors, optionNodeTexts]⟩
  · exact .inr (.inl ⟨none, ands, by simp [ands]⟩)
  · exact .inr (.inr ⟨none, ands, by simp [ands, ors]⟩)

/-- The one left-hand field of an accepted comparison. -/
theorem Predicate.subject_cases {pred : Predicate} (valid : pred.validateColShape = .ok ()) :
    (pred.existsSubquery.isSome ∧ pred.col = none ∧ pred.colFn = none ∧ pred.expr = none) ∨
      (pred.existsSubquery = none ∧
        ((∃ ref, pred.col = some ref ∧ pred.colFn = none ∧ pred.expr = none) ∨
          (∃ call, pred.col = none ∧ pred.colFn = some call ∧ pred.expr = none) ∨
          (∃ expr, pred.col = none ∧ pred.colFn = none ∧ pred.expr = some expr))) := by
  unfold Predicate.validateColShape at valid
  split at valid
  · simp only [seq_eq_ok_iff, refuse_eq_ok_iff, Bool.or_eq_false_iff,
      Option.isSome_eq_false_iff, Option.isNone_iff_eq_none] at valid
    obtain ⟨⟨⟨col, colFn⟩, expr⟩, test⟩ := valid
    exact .inl ⟨by simpa using test, col, colFn, expr⟩
  · simp only [seq_eq_ok_iff, refuse_eq_ok_iff, Option.isSome_eq_false_iff,
      Option.isNone_iff_eq_none] at valid
    obtain ⟨test, one⟩ := valid
    refine .inr ⟨test, ?_⟩
    cases col : pred.col <;> cases colFn : pred.colFn <;> cases expr : pred.expr <;>
      simp [col, colFn, expr] at one ⊢

/-- An EXISTS test of an accepted predicate has no other operand. -/
theorem Predicate.exists_alone {pred : Predicate} (colShape : pred.validateColShape = .ok ())
    (valueShape : pred.validateValueShape = .ok ()) (test : pred.existsSubquery.isSome) :
    pred.valueCol = none ∧ pred.valueExpr = none ∧ pred.valueSubquery = none := by
  have isExists : pred.op.isExists = true := by
    unfold Predicate.validateColShape at colShape
    split at colShape
    · assumption
    · simp only [seq_eq_ok_iff, refuse_eq_ok_iff, test] at colShape
      cases colShape.1
  have absent : pred.value.isSet = false ∧ pred.valueCol = none ∧ pred.valueExpr = none ∧
      pred.valueSubquery = none := by
    unfold Predicate.validateValueShape at valueShape
    simpa [isExists, refuse_eq_ok_iff] using valueShape
  exact absent.2

/-- What acceptance of a predicate says about its fields. -/
structure Predicate.Valid (pred : Predicate) : Prop where
  expr : validateOptionExpression pred.expr = .ok ()
  valueExpr : validateOptionExpression pred.valueExpr = .ok ()
  colShape : pred.validateColShape = .ok ()
  valueShape : pred.validateValueShape = .ok ()

theorem Predicate.valid_of_validate {pred : Predicate} (accepted : pred.validate = .ok ()) :
    pred.Valid := by
  obtain ⟨col, expr, colFn, op, value, valueCol, valueExpr, valueSubquery, existsSubquery⟩ := pred
  simp only [Predicate.validate, bind_eq_ok_iff] at accepted
  obtain ⟨_, first, _, _, _, second, _, _, _, _, _, colShape, valueShape⟩ := accepted
  exact ⟨first, second, colShape, valueShape⟩

/-- The recorded texts of a comparison. -/
theorem Predicate.recordedTexts_comparison {pred : Predicate} (test : pred.existsSubquery = none) :
    pred.recordedTexts = pred.op.value ::
      (subjectTexts pred.col pred.colFn (optionExpressionTexts pred.expr) ++
        (pred.valueCol.toList ++
          (optionExpressionTexts pred.valueExpr ++ optionQueryTexts pred.valueSubquery))) := by
  obtain ⟨_, _, _, _, _, _, _, _, _⟩ := pred
  cases test
  rfl

/-- A predicate's direct references are recorded. -/
theorem Predicate.directRefs_recorded {pred : Predicate} (valid : pred.Valid) :
    predicateDirectColumnRefs pred ⊆ pred.recordedTexts := by
  obtain ⟨test, col, colFn, expr⟩ | ⟨test, subject⟩ := Predicate.subject_cases valid.colShape
  · obtain ⟨valueCol, _, _⟩ := Predicate.exists_alone valid.colShape valid.valueShape test
    simp [predicateDirectColumnRefs, col, colFn, valueCol]
  · rw [Predicate.recordedTexts_comparison test]
    intro ref member
    simp only [predicateDirectColumnRefs, List.mem_append] at member
    rcases member with left | right
    · refine List.mem_cons_of_mem _ (List.mem_append_left _ ?_)
      obtain ⟨name, col, _⟩ | ⟨call, col, colFn, _⟩ | ⟨expr, col, colFn, _⟩ := subject
      · simp only [col] at left
        split at left
        · simpa [subjectTexts, col] using left
        · cases left
      · simp only [col, colFn] at left
        simpa [subjectTexts, col, colFn] using .inr left
      · simp [col, colFn] at left
    · exact List.mem_cons_of_mem _ (List.mem_append_right _ (List.mem_append_left _ right))

/-- The texts of a predicate's expressions are recorded. -/
theorem Predicate.expressions_recorded {pred : Predicate} (valid : pred.Valid) :
    optionExpressionTexts pred.expr ⊆ pred.recordedTexts ∧
      optionExpressionTexts pred.valueExpr ⊆ pred.recordedTexts := by
  obtain ⟨test, _, _, expr⟩ | ⟨test, subject⟩ := Predicate.subject_cases valid.colShape
  · obtain ⟨_, valueExpr, _⟩ := Predicate.exists_alone valid.colShape valid.valueShape test
    simp [expr, valueExpr, optionExpressionTexts]
  · rw [Predicate.recordedTexts_comparison test]
    constructor
    · intro text member
      refine List.mem_cons_of_mem _ (List.mem_append_left _ ?_)
      obtain ⟨_, _, _, expr⟩ | ⟨_, _, _, expr⟩ | ⟨_, col, colFn, _⟩ := subject
      · simp [expr, optionExpressionTexts] at member
      · simp [expr, optionExpressionTexts] at member
      · simpa [subjectTexts, col, colFn] using member
    · intro text member
      exact List.mem_cons_of_mem _ (List.mem_append_right _ (List.mem_append_right _
        (List.mem_append_left _ member)))

/-- The texts of a predicate's subqueries are recorded. -/
theorem Predicate.subqueries_recorded {pred : Predicate} (valid : pred.Valid)
    {nested : StructuredQuery} (member : nested ∈ pred.subqueries) :
    nested.recordedTexts ⊆ pred.recordedTexts := by
  simp only [Predicate.subqueries, List.mem_append, Option.mem_toList] at member
  obtain ⟨test, _⟩ | ⟨test, _⟩ := Predicate.subject_cases valid.colShape
  · obtain ⟨_, _, value⟩ := Predicate.exists_alone valid.colShape valid.valueShape test
    rw [value] at member
    obtain ⟨_, _, _, _, _, _, _, _, existsSubquery⟩ := pred
    rcases member with absurd | rfl
    · cases absurd
    · exact List.subset_cons_self ..
  · rw [Predicate.recordedTexts_comparison test]
    rw [test] at member
    rcases member with value | absurd
    · rw [value]
      intro text inside
      exact List.mem_cons_of_mem _ (List.mem_append_right _ (List.mem_append_right _
        (List.mem_append_right _ inside)))
    · cases absurd

mutual

/-- A boolean tree records its predicates. -/
theorem predicate_recorded : ∀ node : WhereNode, node.validate = .ok () →
    ∀ pred ∈ iterWherePredicates node, pred.recordedTexts ⊆ node.recordedTexts
  | .predicate pred => fun _ found member => by
      rw [iterWherePredicates, List.mem_singleton] at member
      rw [member, WhereNode.recordedTexts]
      exact List.Subset.refl _
  | .group andTerms orTerms (some node) => fun valid found member => by
      simp only [WhereNode.validate, bind_eq_ok_iff] at valid
      obtain ⟨_, _, _, _, _, nots, one⟩ := valid
      obtain ⟨_, same, texts⟩ | ⟨absurd, _⟩ | ⟨absurd, _⟩ := recordedTexts_group one
      · cases same
        rw [iterWherePredicates] at member
        rw [texts]
        exact predicate_recorded node nots found member
      · cases absurd
      · cases absurd
  | .group andTerms orTerms none => fun valid found member => by
      simp only [WhereNode.validate, bind_eq_ok_iff] at valid
      obtain ⟨_, ands, _, ors, _, _, one⟩ := valid
      obtain ⟨_, absurd, _⟩ | ⟨_, truthy, texts⟩ | ⟨_, truthy, texts⟩ := recordedTexts_group one
      · cases absurd
      · simp only [iterWherePredicates, truthy, ↓reduceIte] at member
        rw [texts]
        exact termPredicate_recorded andTerms ands found member
      · simp only [iterWherePredicates, truthy, Bool.false_eq_true, ↓reduceIte] at member
        rw [texts]
        exact termPredicate_recorded orTerms ors found member
termination_by structural node => node

theorem termPredicate_recorded : ∀ terms : Option (List WhereNode),
    validateOptionNodes terms = .ok () →
    ∀ pred ∈ termPredicates terms, pred.recordedTexts ⊆ termTexts terms
  | none => fun _ _ member => by
      rw [termPredicates] at member
      cases member
  | some nodes => fun valid found member => nodePredicate_recorded nodes valid found member
termination_by structural terms => terms

theorem nodePredicate_recorded : ∀ nodes : List WhereNode, validateNodes nodes = .ok () →
    ∀ pred ∈ nodePredicates nodes, pred.recordedTexts ⊆ nodeTexts nodes
  | [] => fun _ _ member => by
      rw [nodePredicates] at member
      cases member
  | node :: rest => fun valid found member => by
      rw [validateNodes, bind_eq_ok_iff] at valid
      obtain ⟨_, head, tail⟩ := valid
      rw [nodePredicates, List.mem_append] at member
      rw [nodeTexts]
      rcases member with first | later
      · exact List.subset_append_of_subset_left _ (predicate_recorded node head found first)
      · exact List.subset_append_of_subset_right _ (nodePredicate_recorded rest tail found later)
termination_by structural nodes => nodes

end

/-- The direct references in an accepted boolean tree are recorded. -/
theorem directRefs_recorded {node : WhereNode} (valid : node.validate = .ok ()) :
    (iterWherePredicates node).flatMap predicateDirectColumnRefs ⊆ node.recordedTexts := by
  intro ref member
  obtain ⟨pred, inside, direct⟩ := List.mem_flatMap.mp member
  have accepted := validate_of_mem_iterWherePredicates node valid pred inside
  exact predicate_recorded node valid pred inside
    (Predicate.directRefs_recorded (Predicate.valid_of_validate accepted) direct)

mutual

/-- The references of an accepted expression are recorded. -/
theorem partRefs_recorded : ∀ (expr : Expression) (depth : Nat), expr.validate = .ok () →
    partRefs (iterExpressionParts depth expr) ⊆ expr.recordedTexts
  | .column col, depth => fun _ => List.subset_cons_self ..
  | .literal _, _ => fun _ => List.nil_subset _
  | .now _, _ => fun _ => List.nil_subset _
  | .binaryOp op left right, depth => fun valid => by
      rw [Expression.validate, bind_eq_ok_iff] at valid
      obtain ⟨_, first, second⟩ := valid
      rw [iterExpressionParts, partRefs_cons, partRefs_append, Expression.recordedTexts]
      refine List.subset_append_of_subset_right _ (List.append_subset.mpr
        ⟨List.nil_subset _, List.append_subset.mpr ⟨?_, ?_⟩⟩)
      · exact List.subset_append_of_subset_left _ (partRefs_recorded left _ first)
      · exact List.subset_append_of_subset_right _ (partRefs_recorded right _ second)
  | .function fn args, depth => fun valid => by
      rw [Expression.validate, bind_eq_ok_iff] at valid
      obtain ⟨_, validArgs, _⟩ := valid
      rw [iterExpressionParts, partRefs_cons, Expression.recordedTexts]
      exact List.subset_append_of_subset_right _ (argumentRefs_recorded args _ validArgs)
  | .cast operand _, depth => fun valid => by
      rw [iterExpressionParts, partRefs_cons, Expression.recordedTexts]
      exact List.subset_append_of_subset_right _ (partRefs_recorded operand _ valid)
  | .extract operand _, depth => fun valid => by
      rw [iterExpressionParts, partRefs_cons, Expression.recordedTexts]
      exact List.subset_append_of_subset_right _ (partRefs_recorded operand _ valid)
  | .dateAdd operand _ _, depth => fun valid => by
      rw [Expression.validate, bind_eq_ok_iff] at valid
      obtain ⟨_, validOperand, _⟩ := valid
      rw [iterExpressionParts, partRefs_cons, Expression.recordedTexts]
      exact List.subset_append_of_subset_right _ (partRefs_recorded operand _ validOperand)
  | .window ⟨_, over_, arg, _, _⟩, depth => fun valid => by
      simp only [Expression.validate, WindowCall.validate, bind_eq_ok_iff] at valid
      obtain ⟨_, _, _, validArg, _⟩ := valid
      rw [iterExpressionParts, partRefs_cons, windowParts, Expression.recordedTexts,
        WindowCall.recordedTexts]
      refine List.subset_append_of_subset_right _ (List.append_subset.mpr ⟨?_, ?_⟩)
      · exact List.subset_append_left _ _
      · exact List.subset_append_of_subset_right _ (List.subset_append_of_subset_left _
          (optionRefs_recorded arg _ validArg))
  | .case when_ else_, depth => fun valid => by
      simp only [Expression.validate, bind_eq_ok_iff] at valid
      obtain ⟨_, branches, _, _, otherwise⟩ := valid
      rw [iterExpressionParts, partRefs_cons, partRefs_append, Expression.recordedTexts]
      refine List.subset_append_of_subset_right _ (List.append_subset.mpr
        ⟨List.nil_subset _, List.append_subset.mpr ⟨?_, ?_⟩⟩)
      · rw [← List.append_assoc]
        exact List.subset_append_of_subset_left _ (branchRefs_recorded when_ _ branches)
      · exact List.subset_append_of_subset_right _ (List.subset_append_of_subset_right _
          (optionRefs_recorded else_ _ otherwise))
termination_by structural expr => expr

theorem argumentRefs_recorded : ∀ (exprs : List Expression) (depth : Nat),
    validateExpressions exprs = .ok () →
    partRefs (argumentParts depth exprs) ⊆ expressionTexts exprs
  | [], _ => fun _ => List.nil_subset _
  | expr :: rest, depth => fun valid => by
      rw [validateExpressions, bind_eq_ok_iff] at valid
      obtain ⟨_, head, tail⟩ := valid
      rw [argumentParts, partRefs_append, expressionTexts]
      exact List.append_subset.mpr
        ⟨List.subset_append_of_subset_left _ (partRefs_recorded expr _ head),
          List.subset_append_of_subset_right _ (argumentRefs_recorded rest _ tail)⟩
termination_by structural exprs => exprs

theorem optionRefs_recorded : ∀ (expr : Option Expression) (depth : Nat),
    validateOptionExpression expr = .ok () →
    partRefs (optionParts depth expr) ⊆ optionExpressionTexts expr
  | none, _ => fun _ => List.nil_subset _
  | some expr, depth => fun valid => partRefs_recorded expr depth valid
termination_by structural expr => expr

theorem branchRefs_recorded : ∀ (branches : List CaseWhen) (depth : Nat),
    validateBranches branches = .ok () →
    partRefs (branchParts depth branches) ⊆ conditionTexts branches ++ resultTexts branches
  | [], _ => fun _ => List.nil_subset _
  | ⟨when_, then_⟩ :: rest, depth => fun valid => by
      simp only [validateBranches, CaseWhen.validate, bind_eq_ok_iff] at valid
      obtain ⟨_, ⟨_, condition, result⟩, tail⟩ := valid
      have whens := whereRefs_recorded when_ (depth + 1) condition
      have directs := directRefs_recorded condition
      have thens := partRefs_recorded then_ (depth + 1) result
      have others := branchRefs_recorded rest depth tail
      rw [branchParts, caseWhenParts, partRefs_append, partRefs_cons, partRefs_append,
        conditionTexts, resultTexts, CaseWhen.conditionTexts, CaseWhen.resultTexts,
        ExpressionPart.columnRefs]
      intro ref member
      simp only [List.mem_append] at member ⊢
      rcases member with (direct | inWhen | inThen) | later
      · exact .inl (.inl (directs direct))
      · exact .inl (.inl (whens inWhen))
      · exact .inr (.inl (thens inThen))
      · rcases List.mem_append.mp (others later) with inConditions | inResults
        · exact .inl (.inr inConditions)
        · exact .inr (.inr inResults)
termination_by structural branches => branches

theorem whereRefs_recorded : ∀ (node : WhereNode) (depth : Nat), node.validate = .ok () →
    partRefs (whereParts depth node) ⊆ node.recordedTexts
  | .predicate ⟨col, expr, colFn, op, value, valueCol, valueExpr, valueSubquery, existsSubquery⟩,
      depth => fun valid => by
      have accepted := Predicate.valid_of_validate valid
      obtain ⟨left, right⟩ := Predicate.expressions_recorded accepted
      rw [whereParts, predicateParts, partRefs_append, WhereNode.recordedTexts]
      exact List.append_subset.mpr
        ⟨List.Subset.trans (optionRefs_recorded expr _ accepted.expr) left,
          List.Subset.trans (optionRefs_recorded valueExpr _ accepted.valueExpr) right⟩
  | .group andTerms orTerms (some node), depth => fun valid => by
      simp only [WhereNode.validate, bind_eq_ok_iff] at valid
      obtain ⟨_, _, _, _, _, nots, one⟩ := valid
      obtain ⟨_, same, texts⟩ | ⟨absurd, _⟩ | ⟨absurd, _⟩ := recordedTexts_group one
      · cases same
        rw [whereParts, texts]
        exact whereRefs_recorded node depth nots
      · cases absurd
      · cases absurd
  | .group andTerms orTerms none, depth => fun valid => by
      simp only [WhereNode.validate, bind_eq_ok_iff] at valid
      obtain ⟨_, ands, _, ors, _, _, one⟩ := valid
      obtain ⟨_, absurd, _⟩ | ⟨_, truthy, texts⟩ | ⟨_, truthy, texts⟩ := recordedTexts_group one
      · cases absurd
      · simp only [whereParts, truthy, ↓reduceIte, texts]
        exact termRefs_recorded andTerms depth ands
      · simp only [whereParts, truthy, Bool.false_eq_true, ↓reduceIte, texts]
        exact termRefs_recorded orTerms depth ors
termination_by structural node => node

theorem termRefs_recorded : ∀ (terms : Option (List WhereNode)) (depth : Nat),
    validateOptionNodes terms = .ok () → partRefs (termParts depth terms) ⊆ termTexts terms
  | none, _ => fun _ => List.nil_subset _
  | some nodes, depth => fun valid => nodeRefs_recorded nodes depth valid
termination_by structural terms => terms

theorem nodeRefs_recorded : ∀ (nodes : List WhereNode) (depth : Nat),
    validateNodes nodes = .ok () → partRefs (nodeParts depth nodes) ⊆ nodeTexts nodes
  | [], _ => fun _ => List.nil_subset _
  | node :: rest, depth => fun valid => by
      rw [validateNodes, bind_eq_ok_iff] at valid
      obtain ⟨_, head, tail⟩ := valid
      rw [nodeParts, partRefs_append, nodeTexts]
      exact List.append_subset.mpr
        ⟨List.subset_append_of_subset_left _ (whereRefs_recorded node depth head),
          List.subset_append_of_subset_right _ (nodeRefs_recorded rest depth tail)⟩
termination_by structural nodes => nodes

end

/-- The references of an accepted boolean tree are recorded. -/
theorem whereColumnRefs_recorded {node : WhereNode} (valid : node.validate = .ok ()) :
    whereColumnRefs node ⊆ node.recordedTexts := by
  intro ref member
  obtain ⟨pred, inside, mentioned⟩ := List.mem_flatMap.mp member
  have accepted := Predicate.valid_of_validate
    (validate_of_mem_iterWherePredicates node valid pred inside)
  refine predicate_recorded node valid pred inside ?_
  rcases List.mem_append.mp mentioned with direct | nested
  · exact Predicate.directRefs_recorded accepted direct
  · obtain ⟨left, right⟩ := Predicate.expressions_recorded accepted
    obtain ⟨expr, carried, reads⟩ := List.mem_flatMap.mp nested
    simp only [predicateExpressions, List.mem_append, Option.mem_toList] at carried
    rcases carried with subject | operand
    · have valid := accepted.expr
      rw [subject] at valid left
      exact left (partRefs_recorded expr 1 valid reads)
    · have valid := accepted.valueExpr
      rw [operand] at valid right
      exact right (partRefs_recorded expr 1 valid reads)

theorem optionColumnRefs_recorded {node : Option WhereNode}
    (valid : validateOptionNode node = .ok ()) : optionColumnRefs node ⊆ optionNodeTexts node := by
  cases node with
  | none => exact List.nil_subset _
  | some node => exact whereColumnRefs_recorded valid

/-- The references of an accepted select item are recorded. -/
theorem selectItemColumnRefs_recorded (item : SelectItem) :
    selectItemColumnRefs item ⊆ item.recordedTexts := by
  cases item with
  | bare ref => exact List.subset_cons_self ..
  | dateBucket item | stringAgg item | arrayAgg item | percentileCont item =>
      intro ref member
      simp only [selectItemColumnRefs] at member
      split at member
      · cases member
      · rw [List.mem_singleton.mp member]
        simp [SelectItem.recordedTexts]
  | scalarFunction call alias_ =>
      intro ref member
      simp [SelectItem.recordedTexts, member]
  | expression expr alias_ =>
      intro ref member
      simp [SelectItem.recordedTexts, member]
  | case when_ else_ alias_ =>
      intro ref member
      simp [SelectItem.recordedTexts, member]
  | window call alias_ =>
      intro ref member
      simp [SelectItem.recordedTexts, member]
  | aggregate fn col arg distinct alias_ =>
      intro ref member
      rw [SelectItem.recordedTexts]
      refine List.mem_append_right _ (List.mem_append_left _ ?_)
      cases arg with
      | none => exact (List.mem_filter.mp member).1
      | some expr =>
          cases expr with
          | column name => exact member
          | _ => exact List.mem_append_right _ member

theorem itemTexts_eq_flatMap (items : List SelectItem) :
    itemTexts items = items.flatMap SelectItem.recordedTexts := by
  induction items with
  | nil => rfl
  | cons item rest ih => rw [itemTexts, ih, List.flatMap_cons]

theorem joinTexts_eq_flatMap (joins : List JoinSpec) :
    joinTexts joins = joins.flatMap JoinSpec.recordedTexts := by
  induction joins with
  | nil => rfl
  | cons join rest ih => rw [joinTexts, ih, List.flatMap_cons]

theorem cteTexts_eq_flatMap (specs : List CteSpec) :
    cteTexts specs = specs.flatMap CteSpec.recordedTexts := by
  induction specs with
  | nil => rfl
  | cons spec rest ih => rw [cteTexts, ih, List.flatMap_cons]

theorem setOpTexts_arms {query arm : StructuredQuery} (member : arm ∈ query.arms) :
    arm.recordedTexts ⊆ setOpTexts query.setOp := by
  unfold StructuredQuery.arms at member
  cases setOp : query.setOp with
  | none =>
      rw [setOp] at member
      cases member
  | some spec =>
      rw [setOp] at member
      obtain ⟨op, _, arms⟩ := spec
      rw [setOpTexts, SetOpSpec.recordedTexts]
      refine List.subset_cons_of_subset _ ?_
      change arm ∈ arms at member
      clear setOp
      induction arms with
      | nil => cases member
      | cons first rest ih =>
          rw [queryTexts]
          rcases List.mem_cons.mp member with rfl | later
          · exact List.subset_append_left _ _
          · exact List.subset_append_of_subset_right _ (ih later)

/-- The recorded texts of a query, by its fields. -/
theorem StructuredQuery.mem_recordedTexts {query : StructuredQuery} {text : String} :
    text ∈ query.recordedTexts ↔ text = query.fromTable ∨ text ∈ itemTexts query.select ∨
      text ∈ joinTexts query.joins ∨ text ∈ query.groupBy ∨
      text ∈ query.orderBy.flatMap OrderBySpec.recordedTexts ∨
      text ∈ optionNodeTexts query.where_ ∨ text ∈ optionNodeTexts query.having ∨
      text ∈ query.topN.toList.flatMap TopNSpec.recordedTexts ∨ text ∈ setOpTexts query.setOp ∨
      text ∈ query.correlate ∨ text ∈ cteTexts query.ctes := by
  obtain ⟨_, _, _, _, _, _, _, _, _, _, _, _, _, _, _, _⟩ := query
  simp only [StructuredQuery.recordedTexts, List.mem_cons, List.mem_append]

/-- A query directly inside an accepted one is recorded with it. -/
theorem directScopes_recorded {query nested : StructuredQuery} (valid : query.Valid)
    (direct : nested ∈ directScopes query) : nested.recordedTexts ⊆ query.recordedTexts := by
  have inTree : ∀ {node : Option WhereNode}, validateOptionNode node = .ok () →
      ∀ pred ∈ optionPredicates node, nested ∈ pred.subqueries →
        nested.recordedTexts ⊆ optionNodeTexts node := by
    intro node accepted pred member inPred
    have validPred := Predicate.valid_of_validate (validate_of_mem_optionPredicates accepted member)
    refine List.Subset.trans (Predicate.subqueries_recorded validPred inPred) ?_
    cases node with
    | none => cases member
    | some node => exact predicate_recorded node accepted pred member
  intro text inside
  rw [StructuredQuery.mem_recordedTexts]
  simp only [directScopes, List.mem_append, List.mem_map, List.mem_flatMap,
    iterWhereAndHavingPredicates] at direct
  rcases direct with (⟨spec, inCtes, rfl⟩ | inArms) | ⟨pred, inWhere | inHaving, inPred⟩
  · have recorded : text ∈ cteTexts query.ctes := by
      rw [cteTexts_eq_flatMap]
      refine List.mem_flatMap.mpr ⟨spec, inCtes, ?_⟩
      obtain ⟨_, _⟩ := spec
      exact List.mem_cons_of_mem _ inside
    tauto
  · have recorded := setOpTexts_arms inArms inside
    tauto
  · have recorded := inTree valid.whereTree pred inWhere inPred inside
    tauto
  · have recorded := inTree valid.havingTree pred inHaving inPred inside
    tauto

/-- A scope of an accepted query is recorded with it. -/
theorem scopesOf_recorded {query scope : StructuredQuery} (accepted : query.validate = .ok ())
    (member : scope ∈ scopesOf query) : scope.recordedTexts ⊆ query.recordedTexts := by
  induction query using StructuredQuery.scopeInduction with
  | step query ih =>
      rw [scopesOf_eq] at member
      rcases List.mem_cons.mp member with rfl | below
      · exact List.Subset.refl _
      · obtain ⟨nested, direct, deeper⟩ := List.mem_flatMap.mp below
        refine List.Subset.trans
          (ih nested direct (validate_of_mem_directScopes accepted direct) deeper) ?_
        exact directScopes_recorded (StructuredQuery.valid_of_validate accepted) direct

/-- The tables of a scope are recorded. -/
theorem occurrences_recorded {scope : StructuredQuery} {occurrence : String × Option String}
    (member : occurrence ∈ scope.occurrences) : occurrence.1 ∈ scope.recordedTexts := by
  rw [StructuredQuery.mem_recordedTexts]
  rcases List.mem_cons.mp member with rfl | joined
  · exact .inl rfl
  · obtain ⟨join, inJoins, rfl⟩ := List.mem_map.mp joined
    have recorded : join.table ∈ joinTexts scope.joins := by
      rw [joinTexts_eq_flatMap]
      refine List.mem_flatMap.mpr ⟨join, inJoins, ?_⟩
      obtain ⟨_, _, _, _, _, _, _⟩ := join
      exact List.mem_cons_self ..
    exact .inr (.inr (.inl recorded))

/-- The references of an accepted join are recorded, but for its `extra_on` pairs. -/
theorem joinColumnRefs_recorded {join : JoinSpec} (accepted : join.validate = .ok ())
    {column : ColumnRef} (member : column ∈ joinColumnRefs join) :
    (∃ pair ∈ join.extraOn, column.ref ∈ pairSides pair) ∨ column.ref ∈ join.recordedTexts := by
  obtain ⟨table, alias_, type, on, extraOn, condition, connection⟩ := join
  rw [JoinSpec.validate, bind_eq_ok_iff] at accepted
  obtain ⟨_, validCondition, _⟩ := accepted
  simp only [joinColumnRefs, List.mem_append, List.mem_map] at member
  rcases member with (⟨ref, inOn, rfl⟩ | ⟨ref, inExtra, rfl⟩) | ⟨ref, inCondition, rfl⟩
  · exact .inr (List.mem_append_right _ (List.mem_append_left _ inOn))
  · obtain ⟨pair, inPairs, side⟩ := List.mem_flatMap.mp inExtra
    exact .inl ⟨pair, inPairs, side⟩
  · exact .inr (List.mem_append_right _ (List.mem_append_right _ (List.mem_append_left _
      (optionColumnRefs_recorded validCondition inCondition))))

theorem orderCol_recorded {orders : List OrderBySpec} {ref : String}
    (member : ref ∈ orders.map OrderBySpec.col) :
    ref ∈ orders.flatMap OrderBySpec.recordedTexts := by
  obtain ⟨order, inOrders, rfl⟩ := List.mem_map.mp member
  exact List.mem_flatMap.mpr ⟨order, inOrders, List.mem_cons_self ..⟩

/-- What the reference visitor yields for an accepted scope is recorded, but for
the references of `extra_on` pairs. -/
theorem iterColumnRefs_recorded {scope : StructuredQuery} (valid : scope.Valid)
    {column : ColumnRef} (member : column ∈ iterColumnRefs scope) :
    (∃ join ∈ scope.joins, ∃ pair ∈ join.extraOn, column.ref ∈ pairSides pair) ∨
      column.ref ∈ scope.recordedTexts := by
  rw [StructuredQuery.mem_recordedTexts]
  simp only [iterColumnRefs, List.mem_append] at member
  rcases member with (((((inSelect | inJoins) | inWhere) | inGroup) | inHaving) | inOrder) | inTopN
  · obtain ⟨item, inItems, positioned⟩ := List.mem_flatMap.mp inSelect
    have mentioned : column.ref ∈ selectItemColumnRefs item := by
      cases item <;> simp only [selectItemPositionedRefs, List.mem_singleton, List.mem_map]
        at positioned
      case bare ref =>
        rw [positioned]
        exact List.mem_singleton.mpr rfl
      all_goals
        obtain ⟨ref, inRefs, rfl⟩ := positioned
        exact inRefs
    have recorded : column.ref ∈ itemTexts scope.select := by
      rw [itemTexts_eq_flatMap]
      exact List.mem_flatMap.mpr ⟨item, inItems, selectItemColumnRefs_recorded item mentioned⟩
    exact .inr (.inr (.inl recorded))
  · obtain ⟨join, inList, positioned⟩ := List.mem_flatMap.mp inJoins
    rcases joinColumnRefs_recorded (valid.joins join inList) positioned with extra | kept
    · exact .inl ⟨join, inList, extra⟩
    · have recorded : column.ref ∈ joinTexts scope.joins := by
        rw [joinTexts_eq_flatMap]
        exact List.mem_flatMap.mpr ⟨join, inList, kept⟩
      exact .inr (.inr (.inr (.inl recorded)))
  · obtain ⟨ref, inTree, rfl⟩ := List.mem_map.mp inWhere
    have recorded := optionColumnRefs_recorded valid.whereTree inTree
    tauto
  · obtain ⟨ref, kept, rfl⟩ := List.mem_map.mp inGroup
    have recorded := (List.mem_filter.mp kept).1
    tauto
  · obtain ⟨ref, inTree, rfl⟩ := List.mem_map.mp inHaving
    have recorded := optionColumnRefs_recorded valid.havingTree inTree
    tauto
  · obtain ⟨ref, kept, rfl⟩ := List.mem_map.mp inOrder
    have recorded := orderCol_recorded (List.mem_filter.mp kept).1
    tauto
  · obtain ⟨spec, isTopN, positioned⟩ := List.mem_flatMap.mp inTopN
    have recorded : column.ref ∈ scope.topN.toList.flatMap TopNSpec.recordedTexts := by
      refine List.mem_flatMap.mpr ⟨spec, isTopN, ?_⟩
      simp only [topNColumnRefs, List.mem_append, List.mem_map] at positioned
      rcases positioned with ⟨ref, kept, rfl⟩ | ⟨ref, kept, rfl⟩
      · exact List.mem_append_left _ (List.mem_append_left _ (List.mem_filter.mp kept).1)
      · exact List.mem_append_left _ (List.mem_append_right _
          (orderCol_recorded (List.mem_filter.mp kept).1))
    tauto

/-- The shape of the query names every table of every scope and every column the
reference visitor yields for it. -/
def AuditNamesRead (query : StructuredQuery) : Prop :=
  ∀ entry ∈ iterQueryScopes query 0,
    (∀ occurrence ∈ entry.2.occurrences, occurrence.1 ∈ (normalizeQueryShape query).texts) ∧
      ∀ column ∈ iterColumnRefs entry.2, column.ref ∈ (normalizeQueryShape query).texts

/-- Both columns of every `extra_on` pair are also written at a position of the
query that is recorded. -/
def ExtraOnWrittenElsewhere (query : StructuredQuery) : Prop :=
  ∀ entry ∈ iterQueryScopes query 0, ∀ join ∈ entry.2.joins, ∀ pair ∈ join.extraOn,
    pair.1 ∈ query.recordedTexts ∧ pair.2 ∈ query.recordedTexts

theorem auditNamesRead_of_writtenElsewhere {query : StructuredQuery}
    (accepted : query.validate = .ok ()) (elsewhere : ExtraOnWrittenElsewhere query) :
    AuditNamesRead query := by
  intro entry member
  have inScopes : entry.2 ∈ scopesOf query := List.mem_map_of_mem member
  have within := scopesOf_recorded accepted inScopes
  have valid := StructuredQuery.valid_of_validate (validate_of_mem_scopesOf accepted inScopes)
  rw [texts_normalizeQueryShape]
  refine ⟨fun occurrence inside => within (occurrences_recorded inside), fun column yielded => ?_⟩
  rcases iterColumnRefs_recorded valid yielded with ⟨join, inJoins, pair, inPairs, side⟩ | kept
  · obtain ⟨left, right⟩ := elsewhere entry member join inJoins pair inPairs
    simp only [pairSides, List.mem_cons, List.not_mem_nil, or_false] at side
    rcases side with same | same
    · exact same ▸ left
    · exact same ▸ right
  · exact within kept

theorem writtenElsewhere_of_auditNamesRead {query : StructuredQuery}
    (named : AuditNamesRead query) : ExtraOnWrittenElsewhere query := by
  intro entry member join inJoins pair inPairs
  obtain ⟨_, columns⟩ := named entry member
  rw [texts_normalizeQueryShape] at columns
  have yielded : ∀ side ∈ pairSides pair, side ∈ query.recordedTexts := by
    intro side inside
    refine columns ⟨.joinExtraOn, side⟩ ?_
    simp only [iterColumnRefs, List.mem_append]
    refine .inl (.inl (.inl (.inl (.inl (.inr (List.mem_flatMap.mpr ⟨join, inJoins, ?_⟩))))))
    refine List.mem_append_left _ (List.mem_append_right _ (List.mem_map_of_mem ?_))
    exact List.mem_flatMap.mpr ⟨pair, inPairs, inside⟩
  exact ⟨yielded pair.1 (by simp [pairSides]), yielded pair.2 (by simp [pairSides])⟩

/-- **The audited shape names what is read exactly when `extra_on` adds nothing.**
The columns of `extra_on` pairs are the only ones the shape leaves out. -/
theorem auditNamesRead_iff (query : StructuredQuery) (accepted : query.validate = .ok ()) :
    AuditNamesRead query ↔ ExtraOnWrittenElsewhere query :=
  ⟨writtenElsewhere_of_auditNamesRead, auditNamesRead_of_writtenElsewhere accepted⟩

/-- `SELECT o.id FROM orders o JOIN shipments s ON o.id = s.order_id AND ...`,
with the given further key pairs. -/
def ordersShipped (extraOn : List (String × String)) : StructuredQuery where
  fromTable := "orders"
  select := [.bare "orders.id"]
  joins := [{ table := "shipments", on := some ("orders.id", "shipments.order_id"), extraOn }]

theorem auditNamesRead_iff_ordersShipped :
    (ordersShipped []).validate = .ok () ∧ AuditNamesRead (ordersShipped []) := by
  have accepted : (ordersShipped []).validate = .ok () := by decide +kernel
  refine ⟨accepted, (auditNamesRead_iff _ accepted).mpr ?_⟩
  intro entry member join inJoins pair inPairs
  have sole : iterQueryScopes (ordersShipped []) 0 = [(0, ordersShipped [])] := rfl
  rw [sole, List.mem_singleton] at member
  subst member
  rw [List.mem_singleton.mp inJoins] at inPairs
  cases inPairs

/-- A composite key read through `extra_on` is not in the shape. -/
theorem auditNamesRead_fails_on_extraOn :
    (ordersShipped [("orders.region", "shipments.region")]).validate = .ok () ∧
      ¬ AuditNamesRead (ordersShipped [("orders.region", "shipments.region")]) := by
  refine ⟨by decide +kernel, fun named => ?_⟩
  have sole : iterQueryScopes (ordersShipped [("orders.region", "shipments.region")]) 0 =
      [(0, ordersShipped [("orders.region", "shipments.region")])] := rfl
  have missing := (named _ (sole ▸ List.mem_singleton.mpr rfl)).2
    ⟨.joinExtraOn, "orders.region"⟩ (by decide)
  exact absurd missing (by decide)

end QueryGate
