import QueryGate.QueryAst.Validators

/-! # Accepted queries

`StructuredQuery.validate` runs every model validator of a request, innermost
models first, and `AcceptedQuery` is the type of requests that pass. The lemmas
say what acceptance hands down: every model inside an accepted one is accepted.
-/

namespace QueryGate

open Foundation

mutual

/-- The validators of an expression and of everything inside it. -/
def Expression.validate : Expression → ModelCheck
  | .column col => requireColumnRef col "col"
  | .literal _ => .ok ()
  | .binaryOp _ left right => do
      left.validate
      right.validate
  | .function fn args => do
      validateExpressions args
      validateArity fn args.length
  | .cast operand _ => operand.validate
  | .case when_ else_ => do
      validateBranches when_
      checkMinLength 1 when_.length
      validateOptionExpression else_
  | .extract operand _ => operand.validate
  | .now _ => .ok ()
  | .dateAdd operand _ amount => do
      operand.validate
      validateAmount amount
  | .window call => call.validate
termination_by structural expr => expr

/-- The validators of a list of expressions. -/
def validateExpressions : List Expression → ModelCheck
  | [] => .ok ()
  | expr :: rest => do
      expr.validate
      validateExpressions rest
termination_by structural exprs => exprs

/-- The validators of an optional expression. -/
def validateOptionExpression : Option Expression → ModelCheck
  | none => .ok ()
  | some expr => expr.validate
termination_by structural expr => expr

/-- The validators of a window call. -/
def WindowCall.validate : WindowCall → ModelCheck
  | ⟨fn, over_, arg, offset, buckets⟩ => do
      over_.validate
      validateOptionExpression arg
      WindowCall.validateShape ⟨fn, over_, arg, offset, buckets⟩
termination_by structural call => call

/-- The validators of one CASE branch. -/
def CaseWhen.validate : CaseWhen → ModelCheck
  | ⟨when_, then_⟩ => do
      when_.validate
      then_.validate
termination_by structural branch => branch

/-- The validators of a list of CASE branches. -/
def validateBranches : List CaseWhen → ModelCheck
  | [] => .ok ()
  | branch :: rest => do
      branch.validate
      validateBranches rest
termination_by structural branches => branches

/-- The validators of a boolean tree. -/
def WhereNode.validate : WhereNode → ModelCheck
  | .predicate pred => pred.validate
  | .group andTerms orTerms notTerms => do
      validateOptionNodes andTerms
      validateOptionNodes orTerms
      validateOptionNode notTerms
      exactlyOneBoolean andTerms orTerms notTerms
termination_by structural node => node

/-- The validators of a list of boolean trees. -/
def validateNodes : List WhereNode → ModelCheck
  | [] => .ok ()
  | node :: rest => do
      node.validate
      validateNodes rest
termination_by structural nodes => nodes

/-- The validators of an optional list of boolean trees. -/
def validateOptionNodes : Option (List WhereNode) → ModelCheck
  | none => .ok ()
  | some nodes => validateNodes nodes
termination_by structural nodes => nodes

/-- The validators of an optional boolean tree. -/
def validateOptionNode : Option WhereNode → ModelCheck
  | none => .ok ()
  | some node => node.validate
termination_by structural node => node

/-- The validators of a predicate. -/
def Predicate.validate : Predicate → ModelCheck
  | ⟨col, expr, colFn, op, value, valueCol, valueExpr, valueSubquery, existsSubquery⟩ => do
      validateOptionExpression expr
      checkOption ScalarFunctionCall.validate colFn
      validateOptionExpression valueExpr
      validateOptionQuery valueSubquery
      validateOptionQuery existsSubquery
      let pred : Predicate :=
        ⟨col, expr, colFn, op, value, valueCol, valueExpr, valueSubquery, existsSubquery⟩
      pred.validateColShape
      pred.validateValueShape
termination_by structural pred => pred

/-- The validators of a select item. -/
def SelectItem.validate : SelectItem → ModelCheck
  | .bare _ => .ok ()
  | .aggregate fn col arg distinct alias_ => do
      validateOptionExpression arg
      validateAggregateShape fn col arg distinct alias_
  | .dateBucket _ => .ok ()
  | .stringAgg item => item.validateCol
  | .arrayAgg item => item.validateCol
  | .percentileCont item => item.validate
  | .scalarFunction call _ => call.validate
  | .case when_ else_ _ => do
      validateBranches when_
      checkMinLength 1 when_.length
      validateOptionExpression else_
  | .expression expr _ => expr.validate
  | .window call _ => call.validate
termination_by structural item => item

/-- The validators of a select list. -/
def validateItems : List SelectItem → ModelCheck
  | [] => .ok ()
  | item :: rest => do
      item.validate
      validateItems rest
termination_by structural items => items

/-- The validators of a join. -/
def JoinSpec.validate : JoinSpec → ModelCheck
  | ⟨table, alias_, type, on, extraOn, condition, connection⟩ => do
      validateOptionNode condition
      JoinSpec.validateJoinForm ⟨table, alias_, type, on, extraOn, condition, connection⟩
termination_by structural join => join

/-- The validators of a list of joins. -/
def validateJoins : List JoinSpec → ModelCheck
  | [] => .ok ()
  | join :: rest => do
      join.validate
      validateJoins rest
termination_by structural joins => joins

/-- The validators of an optional set operation. -/
def validateOptionSetOp : Option SetOpSpec → ModelCheck
  | none => .ok ()
  | some spec => spec.validate
termination_by structural spec => spec

/-- The validators of a set operation. -/
def SetOpSpec.validate : SetOpSpec → ModelCheck
  | ⟨_, _, arms⟩ => do
      validateQueries arms
      checkMinLength 1 arms.length
      checkMaxLength 50 arms.length
termination_by structural spec => spec

/-- The validators of a WITH block. -/
def CteSpec.validate : CteSpec → ModelCheck
  | ⟨name, query⟩ => do
      refuse (!identifierChars name.toList)
        "String should match pattern '^[A-Za-z_][A-Za-z0-9_]*$'"
      query.validate
termination_by structural spec => spec

/-- The validators of a list of WITH blocks. -/
def validateCtes : List CteSpec → ModelCheck
  | [] => .ok ()
  | spec :: rest => do
      spec.validate
      validateCtes rest
termination_by structural specs => specs

/-- The validators of a list of queries. -/
def validateQueries : List StructuredQuery → ModelCheck
  | [] => .ok ()
  | query :: rest => do
      query.validate
      validateQueries rest
termination_by structural queries => queries

/-- The validators of an optional query. -/
def validateOptionQuery : Option StructuredQuery → ModelCheck
  | none => .ok ()
  | some query => query.validate
termination_by structural query => query

/-- The validators of a query and of every model inside it. -/
def StructuredQuery.validate : StructuredQuery → ModelCheck
  | ⟨fromTable, fromAlias, select, distinct, joins, where_, groupBy, having, orderBy, limit,
      offset, topN, setOp, correlate, ctes, intent, purpose⟩ => do
      validateItems select
      validateJoins joins
      validateOptionNode where_
      validateOptionNode having
      checkOption TopNSpec.validate topN
      validateOptionSetOp setOp
      validateCtes ctes
      StructuredQuery.validateSelf ⟨fromTable, fromAlias, select, distinct, joins, where_,
        groupBy, having, orderBy, limit, offset, topN, setOp, correlate, ctes, intent, purpose⟩
termination_by structural query => query

end

/-- A request as parsing delivers it. -/
def AcceptedQuery := { query : StructuredQuery // query.validate = .ok () }

theorem validateItems_eq_ok_iff {items : List SelectItem} :
    validateItems items = .ok () ↔ ∀ item ∈ items, item.validate = .ok () := by
  induction items with
  | nil => simp [validateItems]
  | cons item rest ih => simp [validateItems, seq_eq_ok_iff, ih]

theorem validateJoins_eq_ok_iff {joins : List JoinSpec} :
    validateJoins joins = .ok () ↔ ∀ join ∈ joins, join.validate = .ok () := by
  induction joins with
  | nil => simp [validateJoins]
  | cons join rest ih => simp [validateJoins, seq_eq_ok_iff, ih]

theorem validateQueries_eq_ok_iff {queries : List StructuredQuery} :
    validateQueries queries = .ok () ↔ ∀ query ∈ queries, query.validate = .ok () := by
  induction queries with
  | nil => simp [validateQueries]
  | cons query rest ih => simp [validateQueries, seq_eq_ok_iff, ih]

theorem validateCtes_eq_ok_iff {specs : List CteSpec} :
    validateCtes specs = .ok () ↔ ∀ spec ∈ specs, spec.validate = .ok () := by
  induction specs with
  | nil => simp [validateCtes]
  | cons spec rest ih => simp [validateCtes, seq_eq_ok_iff, ih]

/-- What acceptance of a query says about its fields. -/
structure StructuredQuery.Valid (query : StructuredQuery) : Prop where
  items : ∀ item ∈ query.select, item.validate = .ok ()
  joins : ∀ join ∈ query.joins, join.validate = .ok ()
  whereTree : validateOptionNode query.where_ = .ok ()
  havingTree : validateOptionNode query.having = .ok ()
  arms : ∀ arm ∈ query.arms, arm.validate = .ok ()
  ctes : ∀ spec ∈ query.ctes, spec.validate = .ok ()
  self : query.validateSelf = .ok ()

theorem StructuredQuery.valid_of_validate {query : StructuredQuery}
    (accepted : query.validate = .ok ()) : query.Valid := by
  obtain ⟨fromTable, fromAlias, select, distinct, joins, where_, groupBy, having, orderBy, limit,
    offset, topN, setOp, correlate, ctes, intent, purpose⟩ := query
  simp only [StructuredQuery.validate, bind_eq_ok_iff] at accepted
  obtain ⟨_, items, _, joinList, _, whereTree, _, havingTree, _, _, _, setOps, _, blocks, self⟩ :=
    accepted
  refine ⟨validateItems_eq_ok_iff.mp items, validateJoins_eq_ok_iff.mp joinList, whereTree,
    havingTree, ?_, validateCtes_eq_ok_iff.mp blocks, self⟩
  cases setOp with
  | none => exact fun arm member => absurd member List.not_mem_nil
  | some spec =>
      obtain ⟨op, all, arms⟩ := spec
      simp only [validateOptionSetOp, SetOpSpec.validate, bind_eq_ok_iff] at setOps
      obtain ⟨_, armList, _⟩ := setOps
      exact validateQueries_eq_ok_iff.mp armList

theorem CteSpec.validate_query {spec : CteSpec} (accepted : spec.validate = .ok ()) :
    spec.query.validate = .ok () := by
  obtain ⟨name, query⟩ := spec
  simp only [CteSpec.validate, bind_eq_ok_iff] at accepted
  obtain ⟨_, _, body⟩ := accepted
  exact body

theorem Predicate.validate_subquery {pred : Predicate} (accepted : pred.validate = .ok ())
    {nested : StructuredQuery} (member : nested ∈ pred.subqueries) : nested.validate = .ok () := by
  obtain ⟨_, _, _, _, _, _, _, valueSubquery, existsSubquery⟩ := pred
  simp only [Predicate.validate, bind_eq_ok_iff] at accepted
  obtain ⟨_, _, _, _, _, _, _, value, _, exists_, _⟩ := accepted
  simp only [Predicate.subqueries, List.mem_append, Option.mem_toList] at member
  rcases member with rfl | rfl
  · exact value
  · exact exists_

end QueryGate
