import QueryGate.Core.Exceptions
import QueryGate.Foundation.Dict
import QueryGate.QueryAst.Acceptance

/-! # Reference visitors

The walks of `validation/schema_validation.py` over one scope: the expression
walk, the predicate walk, and the canonical column-reference visitor that policy
validation, schema validation and the compiler share. Generators are lists in
yielding order.
-/

namespace QueryGate

open Foundation

/-- `sanitize_table_name`. -/
def sanitizeTableName (tableName : String) : Gate Unit :=
  refuse (!matchesIdentifier tableName)
    (queryValidationError s!"Invalid table name: {tableName}")

/-- `parse_column_ref`: `'Table.Column'` as table and column. -/
def parseColumnRef (colRef : String) : Gate (String × String) :=
  match splitDot colRef with
  | none =>
      .error (queryValidationError
        s!"Column reference must be 'Table.Column', got {quoted colRef}")
  | some halves => do
      let table := strip halves.1
      let column := strip halves.2
      refuse (table == "" || column == "")
        (queryValidationError s!"Invalid column reference: {quoted colRef}")
      sanitizeTableName table
      pure (table, column)

theorem hasDot_of_parseColumnRef {ref : String} {halves : String × String}
    (parsed : parseColumnRef ref = .ok halves) : hasDot ref = true := by
  unfold parseColumnRef at parsed
  split at parsed
  · cases parsed
  · rename_i sides found
    exact hasDot_eq_true_iff.mpr ⟨sides, found⟩

/-- References that match caselessly name caselessly equal tables and columns. -/
theorem parseColumnRef_caseless {first second : String} {halves others : String × String}
    (same : casefold first = casefold second) (parsed : parseColumnRef first = .ok halves)
    (otherParsed : parseColumnRef second = .ok others) :
    casefold halves.1 = casefold others.1 ∧ casefold halves.2 = casefold others.2 := by
  have parts : ∀ {ref : String} {table column : String},
      parseColumnRef ref = .ok (table, column) → ∃ split, splitDot ref = some split ∧
        table = strip split.1 ∧ column = strip split.2 := by
    intro ref table column done
    unfold parseColumnRef at done
    split at done
    · cases done
    · rename_i split found
      simp only [bind_eq_ok_iff] at done
      obtain ⟨_, _, _, _, returned⟩ := done
      cases returned
      exact ⟨split, found, rfl, rfl⟩
  obtain ⟨split, found, firstTable, firstColumn⟩ := parts parsed
  obtain ⟨other, otherFound, secondTable, secondColumn⟩ := parts otherParsed
  have folded := splitDot_casefold first
  rw [same, splitDot_casefold second, found, otherFound] at folded
  injection folded with folded
  injection folded with tables columns
  rw [firstTable, firstColumn, secondTable, secondColumn, ← strip_casefold, ← strip_casefold,
    ← strip_casefold, ← strip_casefold, tables, columns]
  exact ⟨rfl, rfl⟩

/-- The effective names of the from and join occurrences, case-folded, with the
physical table each stands for. -/
def namePairs (query : StructuredQuery) : List (String × String) :=
  query.occurrences.map fun occurrence =>
    (casefold (orElseText occurrence.2 occurrence.1), occurrence.1)

/-- `effective_name_map`. -/
def effectiveNameMap (query : StructuredQuery) : List (String × String) :=
  dictOf (namePairs query)

/-- `bool(terms)` of an optional list of terms. -/
def truthyTerms : Option (List WhereNode) → Bool
  | none => false
  | some nodes => !nodes.isEmpty

mutual

/-- `iter_where_predicates`: the predicate leaves in document order. -/
def iterWherePredicates : WhereNode → List Predicate
  | .predicate pred => [pred]
  | .group andTerms orTerms notTerms =>
      match notTerms with
      | some node => iterWherePredicates node
      | none =>
          if truthyTerms andTerms then termPredicates andTerms else termPredicates orTerms
termination_by structural node => node

/-- The predicate leaves of an optional list of terms. -/
def termPredicates : Option (List WhereNode) → List Predicate
  | none => []
  | some nodes => nodePredicates nodes
termination_by structural nodes => nodes

/-- The predicate leaves of a list of terms. -/
def nodePredicates : List WhereNode → List Predicate
  | [] => []
  | node :: rest => iterWherePredicates node ++ nodePredicates rest
termination_by structural nodes => nodes

end

/-- `predicate_expressions`. -/
def predicateExpressions (pred : Predicate) : List Expression :=
  pred.expr.toList ++ pred.valueExpr.toList

/-- One element of the expression walk: an expression node, or a CASE branch's
condition, at its depth. -/
inductive ExpressionPart where
  | node (depth : Nat) (expr : Expression)
  | condition (depth : Nat) (when_ : WhereNode)

mutual

/-- `iter_expression_parts`: the single recursion over the expression union. -/
def iterExpressionParts (depth : Nat) : Expression → List ExpressionPart
  | .column col => [.node depth (.column col)]
  | .literal value => [.node depth (.literal value)]
  | .now kind => [.node depth (.now kind)]
  | .binaryOp op left right =>
      .node depth (.binaryOp op left right) ::
        (iterExpressionParts (depth + 1) left ++ iterExpressionParts (depth + 1) right)
  | .function fn args => .node depth (.function fn args) :: argumentParts (depth + 1) args
  | .cast operand target =>
      .node depth (.cast operand target) :: iterExpressionParts (depth + 1) operand
  | .extract operand part =>
      .node depth (.extract operand part) :: iterExpressionParts (depth + 1) operand
  | .dateAdd operand unit amount =>
      .node depth (.dateAdd operand unit amount) :: iterExpressionParts (depth + 1) operand
  | .window call => .node depth (.window call) :: windowParts (depth + 1) call
  | .case when_ else_ =>
      .node depth (.case when_ else_) :: (branchParts depth when_ ++ optionParts (depth + 1) else_)
termination_by structural expr => expr

/-- The parts of a function's arguments. -/
def argumentParts (depth : Nat) : List Expression → List ExpressionPart
  | [] => []
  | arg :: rest => iterExpressionParts depth arg ++ argumentParts depth rest
termination_by structural args => args

/-- The parts of an optional expression. -/
def optionParts (depth : Nat) : Option Expression → List ExpressionPart
  | none => []
  | some expr => iterExpressionParts depth expr
termination_by structural expr => expr

/-- The parts of a window's argument. -/
def windowParts (depth : Nat) : WindowCall → List ExpressionPart
  | ⟨_, _, arg, _, _⟩ => optionParts depth arg
termination_by structural call => call

/-- The parts of CASE branches: each condition, the expressions its predicates
carry, and the branch value. -/
def branchParts (depth : Nat) : List CaseWhen → List ExpressionPart
  | [] => []
  | branch :: rest => caseWhenParts depth branch ++ branchParts depth rest
termination_by structural branches => branches

/-- The parts of one CASE branch. -/
def caseWhenParts (depth : Nat) : CaseWhen → List ExpressionPart
  | ⟨when_, then_⟩ =>
      .condition depth when_ ::
        (whereParts (depth + 1) when_ ++ iterExpressionParts (depth + 1) then_)
termination_by structural branch => branch

/-- The parts of the expressions that the predicates of a boolean tree carry. -/
def whereParts (depth : Nat) : WhereNode → List ExpressionPart
  | .predicate pred => predicateParts depth pred
  | .group andTerms orTerms notTerms =>
      match notTerms with
      | some node => whereParts depth node
      | none =>
          if truthyTerms andTerms then termParts depth andTerms else termParts depth orTerms
termination_by structural node => node

/-- The parts of the expressions in an optional list of terms. -/
def termParts (depth : Nat) : Option (List WhereNode) → List ExpressionPart
  | none => []
  | some nodes => nodeParts depth nodes
termination_by structural nodes => nodes

/-- The parts of the expressions in a list of terms. -/
def nodeParts (depth : Nat) : List WhereNode → List ExpressionPart
  | [] => []
  | node :: rest => whereParts depth node ++ nodeParts depth rest
termination_by structural nodes => nodes

/-- The parts of the expressions one predicate carries. -/
def predicateParts (depth : Nat) : Predicate → List ExpressionPart
  | ⟨_, expr, _, _, _, _, valueExpr, _, _⟩ => optionParts depth expr ++ optionParts depth valueExpr
termination_by structural pred => pred

end

/-- The expression node of a part, `none` for a condition. -/
def ExpressionPart.node? : ExpressionPart → Option Expression
  | .node _ expr => some expr
  | .condition _ _ => none

/-- The condition of a part, `none` for an expression node. -/
def ExpressionPart.condition? : ExpressionPart → Option WhereNode
  | .node _ _ => none
  | .condition _ when_ => some when_

/-- `iter_expression_nodes`. -/
def iterExpressionNodes (expr : Expression) : List Expression :=
  (iterExpressionParts 1 expr).filterMap ExpressionPart.node?

/-- `iter_expression_case_conditions`. -/
def iterExpressionCaseConditions (expr : Expression) : List WhereNode :=
  (iterExpressionParts 1 expr).filterMap ExpressionPart.condition?

/-- The column-typed arguments of a scalar function call. -/
def ScalarFunctionCall.columnArgs (call : ScalarFunctionCall) : List String :=
  call.args.filterMap fun
    | .col ref => some ref
    | .literal _ => none

/-- `predicate_direct_column_refs`: the refs of a predicate outside its
expressions. A bare alias in `col` is not a reference. -/
def predicateDirectColumnRefs (pred : Predicate) : List String :=
  (match pred.col with
    | some col => if hasDot col then [col] else []
    | none =>
        match pred.colFn with
        | some call => call.columnArgs
        | none => []) ++ pred.valueCol.toList

/-- The references of an OVER clause. -/
def WindowSpec.columnRefs (spec : WindowSpec) : List String :=
  spec.partitionBy ++ spec.orderBy.map OrderBySpec.col

/-- The references one part of an expression contributes itself. -/
def ExpressionPart.columnRefs : ExpressionPart → List String
  | .condition _ when_ => (iterWherePredicates when_).flatMap predicateDirectColumnRefs
  | .node _ (.column col) => [col]
  | .node _ (.window call) => call.over_.columnRefs
  | .node _ _ => []

/-- The references a list of expression parts contributes. -/
def partRefs (parts : List ExpressionPart) : List String :=
  parts.flatMap ExpressionPart.columnRefs

theorem partRefs_cons (part : ExpressionPart) (parts : List ExpressionPart) :
    partRefs (part :: parts) = part.columnRefs ++ partRefs parts :=
  List.flatMap_cons

theorem partRefs_append (first second : List ExpressionPart) :
    partRefs (first ++ second) = partRefs first ++ partRefs second :=
  List.flatMap_append

/-- `expression_column_refs`. -/
def expressionColumnRefs (expr : Expression) : List String :=
  (iterExpressionParts 1 expr).flatMap ExpressionPart.columnRefs

/-- The depth of an expression node, zero for a condition. -/
def ExpressionPart.nodeDepth : ExpressionPart → Nat
  | .node depth _ => depth
  | .condition _ _ => 0

/-- `expression_depth`. -/
def expressionDepth (expr : Expression) : Nat :=
  ((iterExpressionParts 1 expr).map ExpressionPart.nodeDepth).foldl max 0

/-- `select_item_expressions`. A CASE projection is walked as the equivalent
`CaseExpr`. -/
def selectItemExpressions : SelectItem → List Expression
  | .expression expr _ => [expr]
  | .case when_ else_ _ => [.case when_ else_]
  | .aggregate _ _ arg _ _ => arg.toList
  | .window call _ => call.arg.toList
  | _ => []

/-- `iter_join_conditions`, without the join each belongs to. -/
def iterJoinConditions (query : StructuredQuery) : List WhereNode :=
  query.joins.filterMap JoinSpec.condition

/-- `iter_join_condition_predicates`. -/
def iterJoinConditionPredicates (query : StructuredQuery) : List Predicate :=
  (iterJoinConditions query).flatMap iterWherePredicates

/-- The predicates of an optional boolean tree. -/
def optionPredicates : Option WhereNode → List Predicate
  | none => []
  | some node => iterWherePredicates node

/-- `iter_where_and_having_predicates`. -/
def iterWhereAndHavingPredicates (query : StructuredQuery) : List Predicate :=
  optionPredicates query.where_ ++ optionPredicates query.having

/-- `ExpressionPosition`: where in a scope an expression tree sits. -/
inductive ExpressionPosition where
  | projection | aggregateArg | whereOrHaving | joinCondition
  deriving DecidableEq, Repr

/-- The wire spelling of a position. -/
def ExpressionPosition.value : ExpressionPosition → String
  | .projection => "projection"
  | .aggregateArg => "aggregate_arg"
  | .whereOrHaving => "where_or_having"
  | .joinCondition => "join_condition"

/-- The position of the expressions of a select item. -/
def SelectItem.expressionPosition (item : SelectItem) : ExpressionPosition :=
  if item.isAggregate then .aggregateArg else .projection

/-- `iter_scope_expressions_by_position`. -/
def iterScopeExpressionsByPosition (query : StructuredQuery) :
    List (ExpressionPosition × Expression) :=
  (query.select.flatMap fun item =>
      (selectItemExpressions item).map fun expr => (item.expressionPosition, expr)) ++
    ((iterWhereAndHavingPredicates query).flatMap fun pred =>
      (predicateExpressions pred).map fun expr => (.whereOrHaving, expr)) ++
    ((iterJoinConditionPredicates query).flatMap fun pred =>
      (predicateExpressions pred).map fun expr => (.joinCondition, expr))

/-- `iter_scope_expressions`. -/
def iterScopeExpressions (query : StructuredQuery) : List Expression :=
  (iterScopeExpressionsByPosition query).map Prod.snd

/-- `iter_scope_case_conditions`. -/
def iterScopeCaseConditions (query : StructuredQuery) : List WhereNode :=
  (iterScopeExpressions query).flatMap iterExpressionCaseConditions

/-- `select_item_column_refs`. -/
def selectItemColumnRefs : SelectItem → List String
  | .bare ref => [ref]
  | .scalarFunction call _ => call.columnArgs
  | .window call _ => call.arg.toList.flatMap expressionColumnRefs ++ call.over_.columnRefs
  | .expression expr _ => expressionColumnRefs expr
  | .case when_ else_ _ => expressionColumnRefs (.case when_ else_)
  | .aggregate _ col arg _ _ =>
      match arg with
      | some expr => expressionColumnRefs expr
      | none => col.toList.filter (· != "*")
  | .dateBucket item => if item.col = "*" then [] else [item.col]
  | .stringAgg item => if item.col = "*" then [] else [item.col]
  | .arrayAgg item => if item.col = "*" then [] else [item.col]
  | .percentileCont item => if item.col = "*" then [] else [item.col]

/-- `predicate_column_refs`. -/
def predicateColumnRefs (pred : Predicate) : List String :=
  predicateDirectColumnRefs pred ++ (predicateExpressions pred).flatMap expressionColumnRefs

/-- `_where_column_refs`. -/
def whereColumnRefs (node : WhereNode) : List String :=
  (iterWherePredicates node).flatMap predicateColumnRefs

/-- The references of an optional boolean tree. -/
def optionColumnRefs : Option WhereNode → List String
  | none => []
  | some node => whereColumnRefs node

/-- `RefPosition`: where in a query a reference appears. -/
inductive RefPosition where
  | selectProjectionBare | selectNested | joinOn | joinExtraOn | joinCondition | where_
  | groupBy | having | orderBy | topNPartition | topNOrder
  deriving DecidableEq, Repr

/-- The wire spelling of a position. -/
def RefPosition.value : RefPosition → String
  | .selectProjectionBare => "select_projection_bare"
  | .selectNested => "select_nested"
  | .joinOn => "join_on"
  | .joinExtraOn => "join_extra_on"
  | .joinCondition => "join_condition"
  | .where_ => "where"
  | .groupBy => "group_by"
  | .having => "having"
  | .orderBy => "order_by"
  | .topNPartition => "top_n_partition"
  | .topNOrder => "top_n_order"

/-- `ColumnRef`: a reference as written, with its position. -/
structure ColumnRef where
  position : RefPosition
  ref : String
  deriving DecidableEq, Repr

/-- The references of a select item, with their positions. -/
def selectItemPositionedRefs : SelectItem → List ColumnRef
  | .bare ref => [⟨.selectProjectionBare, ref⟩]
  | item => (selectItemColumnRefs item).map (ColumnRef.mk .selectNested)

/-- The two sides of a pair of references. -/
def pairSides (pair : String × String) : List String :=
  [pair.1, pair.2]

/-- The references of a join, with their positions. -/
def joinColumnRefs (join : JoinSpec) : List ColumnRef :=
  ((join.on.toList.flatMap pairSides).map (ColumnRef.mk .joinOn)) ++
    ((join.extraOn.flatMap pairSides).map (ColumnRef.mk .joinExtraOn)) ++
    ((optionColumnRefs join.condition).map (ColumnRef.mk .joinCondition))

/-- The references of a top-n clause, bare aliases apart. -/
def topNColumnRefs (spec : TopNSpec) : List ColumnRef :=
  ((spec.partitionBy.filter hasDot).map (ColumnRef.mk .topNPartition)) ++
    (((spec.orderBy.map OrderBySpec.col).filter hasDot).map (ColumnRef.mk .topNOrder))

/-- `iter_column_refs`: the canonical reference visitor. -/
def iterColumnRefs (query : StructuredQuery) : List ColumnRef :=
  (query.select.flatMap selectItemPositionedRefs) ++
    (query.joins.flatMap joinColumnRefs) ++
    ((optionColumnRefs query.where_).map (ColumnRef.mk .where_)) ++
    ((query.groupBy.filter hasDot).map (ColumnRef.mk .groupBy)) ++
    ((optionColumnRefs query.having).map (ColumnRef.mk .having)) ++
    (((query.orderBy.map OrderBySpec.col).filter hasDot).map (ColumnRef.mk .orderBy)) ++
    (query.topN.toList.flatMap topNColumnRefs)

mutual

/-- `_where_depth`. -/
def whereDepthFrom (depth : Nat) : WhereNode → Nat
  | .predicate _ => depth
  | .group andTerms orTerms notTerms =>
      match notTerms with
      | some node => whereDepthFrom (depth + 1) node
      | none => if truthyTerms andTerms then termDepth depth andTerms else termDepth depth orTerms
termination_by structural node => node

/-- The depth of an optional list of terms below a group at `depth`. -/
def termDepth (depth : Nat) : Option (List WhereNode) → Nat
  | none => depth
  | some nodes => nodeDepths depth nodes
termination_by structural nodes => nodes

/-- The greatest depth of a list of terms below a group at `depth`. -/
def nodeDepths (depth : Nat) : List WhereNode → Nat
  | [] => depth
  | node :: rest => max (whereDepthFrom (depth + 1) node) (nodeDepths depth rest)
termination_by structural nodes => nodes

end

/-- `where_depth`. -/
def whereDepth (node : WhereNode) : Nat :=
  whereDepthFrom 1 node

end QueryGate
