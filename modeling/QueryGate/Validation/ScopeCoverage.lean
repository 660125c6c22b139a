import QueryGate.QueryAst.Traversal
import QueryGate.Validation.PolicyValidation

/-! # Scope coverage

Every query inside an accepted request is a validated scope: the scopes the walk
yields are the queries of the AST, up to order, and the tree-wide caps bound the
sums over all of them. The same count covers the window calls of the tree.
-/

namespace QueryGate

open Foundation

/-- An accepted group has one active field, and its other lists are empty. -/
theorem exactlyOneBoolean_cases {andTerms orTerms : Option (List WhereNode)}
    {notTerms : Option WhereNode} (one : exactlyOneBoolean andTerms orTerms notTerms = .ok ()) :
    (∃ node, notTerms = some node ∧ truthyTerms andTerms = false ∧ truthyTerms orTerms = false) ∨
      (notTerms = none ∧ truthyTerms andTerms = true ∧ truthyTerms orTerms = false) ∨
      (notTerms = none ∧ truthyTerms andTerms = false ∧ truthyTerms orTerms = true) := by
  have truthy : ∀ terms : Option (List WhereNode),
      (terms.any fun nodes => !nodes.isEmpty) = truthyTerms terms := by
    intro terms
    cases terms with
    | none => rfl
    | some nodes => rfl
  simp only [exactlyOneBoolean, truthy, refuse_eq_ok_iff] at one
  cases ands : truthyTerms andTerms with
  | true =>
      cases ors : truthyTerms orTerms with
      | true => cases notTerms <;> simp [ands, ors] at one
      | false =>
          cases notTerms with
          | none => simp
          | some node => simp [ands, ors] at one
  | false =>
      cases ors : truthyTerms orTerms with
      | true =>
          cases notTerms with
          | none => simp
          | some node => simp [ands, ors] at one
      | false =>
          cases notTerms with
          | none => simp [ands, ors] at one
          | some node => simp

/-- The nodes of the queries a predicate carries. -/
def predicateQueryNodes (pred : Predicate) : List AstNode :=
  pred.subqueries.flatMap StructuredQuery.nodes

/-- What one part of the expression walk accounts for: a window operand, or the
subqueries in a CASE condition. -/
def ExpressionPart.nodes : ExpressionPart → List AstNode
  | .node _ (.window call) => [.window .operand call]
  | .node _ _ => []
  | .condition _ when_ => (iterWherePredicates when_).flatMap predicateQueryNodes

theorem termListNodes_of_falsy {terms : Option (List WhereNode)}
    (falsy : truthyTerms terms = false) : termListNodes terms = [] := by
  cases terms with
  | none => rfl
  | some nodes =>
      cases nodes with
      | nil => rfl
      | cons node rest => cases falsy

theorem optionQueryNodes_eq_flatMap (query : Option StructuredQuery) :
    optionQueryNodes query = query.toList.flatMap StructuredQuery.nodes := by
  cases query with
  | none => rfl
  | some query => simp [optionQueryNodes]

mutual

theorem Expression.nodes_perm (depth : Nat) : ∀ expr : Expression, expr.validate = .ok () →
    expr.nodes.Perm ((iterExpressionParts depth expr).flatMap ExpressionPart.nodes)
  | .column col => fun _ => by
      rw [Expression.nodes, iterExpressionParts]
      exact List.Perm.refl _
  | .literal value => fun _ => by
      rw [Expression.nodes, iterExpressionParts]
      exact List.Perm.refl _
  | .now kind => fun _ => by
      rw [Expression.nodes, iterExpressionParts]
      exact List.Perm.refl _
  | .binaryOp op left right => fun valid => by
      rw [Expression.validate, bind_eq_ok_iff] at valid
      obtain ⟨_, validLeft, validRight⟩ := valid
      rw [Expression.nodes, iterExpressionParts, List.flatMap_cons, List.flatMap_append]
      exact (Expression.nodes_perm (depth + 1) left validLeft).append
        (Expression.nodes_perm (depth + 1) right validRight)
  | .function fn args => fun valid => by
      rw [Expression.validate, bind_eq_ok_iff] at valid
      obtain ⟨_, validArgs, _⟩ := valid
      rw [Expression.nodes, iterExpressionParts, List.flatMap_cons]
      exact expressionListNodes_perm (depth + 1) args validArgs
  | .cast operand target => fun valid => by
      rw [Expression.validate] at valid
      rw [Expression.nodes, iterExpressionParts, List.flatMap_cons]
      exact Expression.nodes_perm (depth + 1) operand valid
  | .extract operand part => fun valid => by
      rw [Expression.validate] at valid
      rw [Expression.nodes, iterExpressionParts, List.flatMap_cons]
      exact Expression.nodes_perm (depth + 1) operand valid
  | .dateAdd operand unit amount => fun valid => by
      rw [Expression.validate, bind_eq_ok_iff] at valid
      obtain ⟨_, validOperand, _⟩ := valid
      rw [Expression.nodes, iterExpressionParts, List.flatMap_cons]
      exact Expression.nodes_perm (depth + 1) operand validOperand
  | .window call => fun valid => by
      rw [Expression.validate] at valid
      rw [Expression.nodes, iterExpressionParts, List.flatMap_cons]
      exact (WindowCall.argNodes_perm (depth + 1) call valid).cons _
  | .case when_ else_ => fun valid => by
      rw [Expression.validate, bind_eq_ok_iff] at valid
      obtain ⟨_, validBranches, rest⟩ := valid
      rw [bind_eq_ok_iff] at rest
      obtain ⟨_, _, validElse⟩ := rest
      rw [Expression.nodes, iterExpressionParts, List.flatMap_cons, List.flatMap_append]
      exact (branchListNodes_perm depth when_ validBranches).append
        (optionExpressionNodes_perm (depth + 1) else_ validElse)
termination_by structural expr => expr

theorem expressionListNodes_perm (depth : Nat) : ∀ exprs : List Expression,
    validateExpressions exprs = .ok () →
    (expressionListNodes exprs).Perm ((argumentParts depth exprs).flatMap ExpressionPart.nodes)
  | [] => fun _ => by
      rw [expressionListNodes, argumentParts]
      exact List.Perm.refl _
  | expr :: rest => fun valid => by
      rw [validateExpressions, bind_eq_ok_iff] at valid
      obtain ⟨_, validHead, validRest⟩ := valid
      rw [expressionListNodes, argumentParts, List.flatMap_append]
      exact (Expression.nodes_perm depth expr validHead).append
        (expressionListNodes_perm depth rest validRest)
termination_by structural exprs => exprs

theorem optionExpressionNodes_perm (depth : Nat) : ∀ expr : Option Expression,
    validateOptionExpression expr = .ok () →
    (optionExpressionNodes expr).Perm ((optionParts depth expr).flatMap ExpressionPart.nodes)
  | none => fun _ => by
      rw [optionExpressionNodes, optionParts]
      exact List.Perm.refl _
  | some expr => fun valid => by
      rw [validateOptionExpression] at valid
      rw [optionExpressionNodes, optionParts]
      exact Expression.nodes_perm depth expr valid
termination_by structural expr => expr

theorem WindowCall.argNodes_perm (depth : Nat) : ∀ call : WindowCall, call.validate = .ok () →
    call.argNodes.Perm ((windowParts depth call).flatMap ExpressionPart.nodes)
  | ⟨_, _, arg, _, _⟩ => fun valid => by
      rw [WindowCall.validate, bind_eq_ok_iff] at valid
      obtain ⟨_, _, rest⟩ := valid
      rw [bind_eq_ok_iff] at rest
      obtain ⟨_, validArg, _⟩ := rest
      rw [WindowCall.argNodes, windowParts]
      exact optionExpressionNodes_perm depth arg validArg
termination_by structural call => call

theorem branchListNodes_perm (depth : Nat) : ∀ branches : List CaseWhen,
    validateBranches branches = .ok () →
    (branchListNodes branches).Perm ((branchParts depth branches).flatMap ExpressionPart.nodes)
  | [] => fun _ => by
      rw [branchListNodes, branchParts]
      exact List.Perm.refl _
  | branch :: rest => fun valid => by
      rw [validateBranches, bind_eq_ok_iff] at valid
      obtain ⟨_, validHead, validRest⟩ := valid
      rw [branchListNodes, branchParts, List.flatMap_append]
      exact (CaseWhen.nodes_perm depth branch validHead).append
        (branchListNodes_perm depth rest validRest)
termination_by structural branches => branches

theorem CaseWhen.nodes_perm (depth : Nat) : ∀ branch : CaseWhen, branch.validate = .ok () →
    branch.nodes.Perm ((caseWhenParts depth branch).flatMap ExpressionPart.nodes)
  | ⟨when_, then_⟩ => fun valid => by
      rw [CaseWhen.validate, bind_eq_ok_iff] at valid
      obtain ⟨_, validWhen, validThen⟩ := valid
      rw [CaseWhen.nodes, caseWhenParts, List.flatMap_cons, List.flatMap_append,
        ← List.append_assoc]
      exact (WhereNode.nodes_perm (depth + 1) when_ validWhen).append
        (Expression.nodes_perm (depth + 1) then_ validThen)
termination_by structural branch => branch

/-- The nodes of a boolean tree: the subqueries of its predicates, and what the
expression walk finds in their expressions. -/
theorem WhereNode.nodes_perm (depth : Nat) : ∀ node : WhereNode, node.validate = .ok () →
    node.nodes.Perm ((iterWherePredicates node).flatMap predicateQueryNodes ++
      (whereParts depth node).flatMap ExpressionPart.nodes)
  | .predicate pred => fun valid => by
      rw [WhereNode.validate] at valid
      rw [WhereNode.nodes, iterWherePredicates, whereParts, List.flatMap_singleton]
      exact Predicate.nodes_perm depth pred valid
  | .group andTerms orTerms (some node) => fun valid => by
      simp only [WhereNode.validate, bind_eq_ok_iff] at valid
      obtain ⟨_, _, _, _, _, validNot, one⟩ := valid
      obtain ⟨_, _, ands, ors⟩ | ⟨absurd, _⟩ | ⟨absurd, _⟩ := exactlyOneBoolean_cases one
      · rw [validateOptionNode] at validNot
        rw [WhereNode.nodes, termListNodes_of_falsy ands, termListNodes_of_falsy ors,
          optionWhereNodes, iterWherePredicates, whereParts]
        exact WhereNode.nodes_perm depth node validNot
      · cases absurd
      · cases absurd
  | .group andTerms orTerms none => fun valid => by
      simp only [WhereNode.validate, bind_eq_ok_iff] at valid
      obtain ⟨_, validAnd, _, validOr, _, _, one⟩ := valid
      rw [WhereNode.nodes, iterWherePredicates, whereParts, optionWhereNodes, List.append_nil]
      obtain ⟨_, absurd, _⟩ | ⟨_, ands, ors⟩ | ⟨_, ands, ors⟩ := exactlyOneBoolean_cases one
      · cases absurd
      · rw [termListNodes_of_falsy ors, List.append_nil]
        simp only [ands, ↓reduceIte]
        exact termListNodes_perm depth andTerms validAnd
      · rw [termListNodes_of_falsy ands, List.nil_append]
        simp only [ands]
        exact termListNodes_perm depth orTerms validOr
termination_by structural node => node

theorem termListNodes_perm (depth : Nat) : ∀ nodes : Option (List WhereNode),
    validateOptionNodes nodes = .ok () →
    (termListNodes nodes).Perm ((termPredicates nodes).flatMap predicateQueryNodes ++
      (termParts depth nodes).flatMap ExpressionPart.nodes)
  | none => fun _ => by
      rw [termListNodes, termPredicates, termParts]
      exact List.Perm.refl _
  | some nodes => fun valid => by
      rw [validateOptionNodes] at valid
      rw [termListNodes, termPredicates, termParts]
      exact whereListNodes_perm depth nodes valid
termination_by structural nodes => nodes

theorem whereListNodes_perm (depth : Nat) : ∀ nodes : List WhereNode,
    validateNodes nodes = .ok () →
    (whereListNodes nodes).Perm ((nodePredicates nodes).flatMap predicateQueryNodes ++
      (nodeParts depth nodes).flatMap ExpressionPart.nodes)
  | [] => fun _ => by
      rw [whereListNodes, nodePredicates, nodeParts]
      exact List.Perm.refl _
  | node :: rest => fun valid => by
      rw [validateNodes, bind_eq_ok_iff] at valid
      obtain ⟨_, validHead, validRest⟩ := valid
      rw [whereListNodes, nodePredicates, nodeParts, List.flatMap_append, List.flatMap_append]
      refine ((WhereNode.nodes_perm depth node validHead).append
        (whereListNodes_perm depth rest validRest)).trans ?_
      simp only [List.append_assoc]
      refine List.Perm.append_left _ ?_
      rw [← List.append_assoc, ← List.append_assoc]
      exact List.perm_append_comm.append_right _
termination_by structural nodes => nodes

theorem Predicate.nodes_perm (depth : Nat) : ∀ pred : Predicate, pred.validate = .ok () →
    pred.nodes.Perm (predicateQueryNodes pred ++
      (predicateParts depth pred).flatMap ExpressionPart.nodes)
  | ⟨_, expr, _, _, _, _, valueExpr, valueSubquery, existsSubquery⟩ => fun valid => by
      simp only [Predicate.validate, bind_eq_ok_iff] at valid
      obtain ⟨_, validExpr, _, _, _, validValue, _⟩ := valid
      rw [Predicate.nodes, predicateParts, List.flatMap_append, predicateQueryNodes,
        Predicate.subqueries, List.flatMap_append, ← optionQueryNodes_eq_flatMap,
        ← optionQueryNodes_eq_flatMap]
      refine List.perm_append_comm.trans (List.Perm.append_left _ ?_)
      exact (optionExpressionNodes_perm depth expr validExpr).append
        (optionExpressionNodes_perm depth valueExpr validValue)
termination_by structural pred => pred

end

theorem predicateParts_eq_flatMap (depth : Nat) (pred : Predicate) :
    predicateParts depth pred =
      (predicateExpressions pred).flatMap fun expr => iterExpressionParts depth expr := by
  obtain ⟨_, expr, _, _, _, _, valueExpr, _, _⟩ := pred
  rw [predicateParts, predicateExpressions, List.flatMap_append]
  cases expr with
  | none => cases valueExpr <;> simp [optionParts]
  | some expr => cases valueExpr <;> simp [optionParts]

mutual

theorem whereParts_eq_flatMap (depth : Nat) : ∀ node : WhereNode,
    whereParts depth node = (iterWherePredicates node).flatMap fun pred => predicateParts depth pred
  | .predicate pred => by
      rw [whereParts, iterWherePredicates, List.flatMap_singleton]
  | .group andTerms orTerms (some node) => by
      rw [whereParts, iterWherePredicates]
      exact whereParts_eq_flatMap depth node
  | .group andTerms orTerms none => by
      rw [whereParts, iterWherePredicates]
      by_cases truthy : truthyTerms andTerms = true
      · simp only [truthy, ↓reduceIte]
        exact termParts_eq_flatMap depth andTerms
      · simp only [truthy]
        exact termParts_eq_flatMap depth orTerms
termination_by structural node => node

theorem termParts_eq_flatMap (depth : Nat) : ∀ nodes : Option (List WhereNode),
    termParts depth nodes = (termPredicates nodes).flatMap fun pred => predicateParts depth pred
  | none => rfl
  | some nodes => by
      rw [termParts, termPredicates]
      exact nodeParts_eq_flatMap depth nodes
termination_by structural nodes => nodes

theorem nodeParts_eq_flatMap (depth : Nat) : ∀ nodes : List WhereNode,
    nodeParts depth nodes = (nodePredicates nodes).flatMap fun pred => predicateParts depth pred
  | [] => rfl
  | node :: rest => by
      rw [nodeParts, nodePredicates, List.flatMap_append, whereParts_eq_flatMap depth node,
        nodeParts_eq_flatMap depth rest]
termination_by structural nodes => nodes

end

/-- What the expression walk accounts for in one expression tree. -/
def expressionNodes (expr : Expression) : List AstNode :=
  (iterExpressionParts 1 expr).flatMap ExpressionPart.nodes

/-- The window projection of a select item, as a node. -/
def SelectItem.windowNode : SelectItem → List AstNode
  | .window call _ => [.window .selectItem call]
  | _ => []

/-- What one scope accounts for itself: its windows in both spellings, and the
subqueries where a subquery is not allowed. -/
def scopeNodes (query : StructuredQuery) : List AstNode :=
  query.select.flatMap SelectItem.windowNode ++
    (iterScopeExpressions query).flatMap expressionNodes ++
    (iterJoinConditionPredicates query).flatMap predicateQueryNodes

theorem SelectItem.nodes_perm {item : SelectItem} (valid : item.validate = .ok ()) :
    item.nodes.Perm (item.windowNode ++ (selectItemExpressions item).flatMap expressionNodes) := by
  cases item with
  | bare ref => exact List.Perm.refl _
  | aggregate fn col arg distinct alias_ =>
      simp only [SelectItem.validate, bind_eq_ok_iff] at valid
      obtain ⟨_, validArg, _⟩ := valid
      rw [SelectItem.nodes]
      cases arg with
      | none => exact List.Perm.refl _
      | some arg =>
          rw [validateOptionExpression] at validArg
          simpa [windowNode, selectItemExpressions, expressionNodes, optionExpressionNodes] using
            Expression.nodes_perm 1 arg validArg
  | dateBucket item => exact List.Perm.refl _
  | stringAgg item => exact List.Perm.refl _
  | arrayAgg item => exact List.Perm.refl _
  | percentileCont item => exact List.Perm.refl _
  | scalarFunction call alias_ => exact List.Perm.refl _
  | case when_ else_ alias_ =>
      have asExpression : (Expression.case when_ else_).validate = .ok () := valid
      rw [SelectItem.nodes]
      simpa [windowNode, selectItemExpressions, expressionNodes, Expression.nodes] using
        Expression.nodes_perm 1 (.case when_ else_) asExpression
  | expression expr alias_ =>
      rw [SelectItem.validate] at valid
      rw [SelectItem.nodes]
      simpa [windowNode, selectItemExpressions, expressionNodes] using
        Expression.nodes_perm 1 expr valid
  | window call alias_ =>
      obtain ⟨fn, over_, arg, offset, buckets⟩ := call
      rw [SelectItem.validate] at valid
      have inner := WindowCall.argNodes_perm 1 _ valid
      rw [SelectItem.nodes]
      refine List.Perm.cons _ (inner.trans ?_)
      cases arg with
      | none => exact List.Perm.refl _
      | some arg => simp [selectItemExpressions, expressionNodes, windowParts, optionParts]

/-- Splitting each summand of a `flatMap` splits the whole, up to order. -/
theorem flatMap_append_perm {α β : Type} (items : List α) (first second : α → List β) :
    (items.flatMap fun item => first item ++ second item).Perm
      (items.flatMap first ++ items.flatMap second) := by
  induction items with
  | nil => exact List.Perm.refl _
  | cons item rest ih =>
      simp only [List.flatMap_cons, List.append_assoc]
      refine List.Perm.append_left _ ((List.Perm.append_left _ ih).trans ?_)
      rw [← List.append_assoc, ← List.append_assoc]
      exact List.perm_append_comm.append_right _

theorem optionWhereNodes_perm {node : Option WhereNode}
    (valid : validateOptionNode node = .ok ()) :
    (optionWhereNodes node).Perm ((optionPredicates node).flatMap predicateQueryNodes ++
      ((optionPredicates node).flatMap predicateExpressions).flatMap expressionNodes) := by
  cases node with
  | none => exact List.Perm.refl _
  | some node =>
      rw [validateOptionNode] at valid
      have whole := WhereNode.nodes_perm 1 node valid
      rw [whereParts_eq_flatMap] at whole
      simp only [predicateParts_eq_flatMap] at whole
      rw [optionWhereNodes, optionPredicates]
      simp only [List.flatMap_assoc] at whole ⊢
      exact whole

theorem selectNodes_perm {items : List SelectItem}
    (valid : ∀ item ∈ items, item.validate = .ok ()) :
    (itemListNodes items).Perm (items.flatMap SelectItem.windowNode ++
      (items.flatMap selectItemExpressions).flatMap expressionNodes) := by
  rw [itemListNodes_eq_flatMap, List.flatMap_assoc]
  exact (List.Perm.flatMap_left _ fun item member => SelectItem.nodes_perm (valid item member)).trans
    (flatMap_append_perm items _ _)

theorem JoinSpec.validate_condition {join : JoinSpec} (accepted : join.validate = .ok ()) :
    validateOptionNode join.condition = .ok () := by
  obtain ⟨_, _, _, _, _, condition, _⟩ := join
  simp only [JoinSpec.validate, bind_eq_ok_iff] at accepted
  obtain ⟨_, inner, _⟩ := accepted
  exact inner

theorem joinNodes_perm {query : StructuredQuery} (valid : query.Valid) :
    (joinListNodes query.joins).Perm
      ((iterJoinConditionPredicates query).flatMap predicateQueryNodes ++
        ((iterJoinConditionPredicates query).flatMap predicateExpressions).flatMap
          expressionNodes) := by
  have predicates : iterJoinConditionPredicates query =
      query.joins.flatMap fun join => optionPredicates join.condition := by
    unfold iterJoinConditionPredicates iterJoinConditions
    induction query.joins with
    | nil => rfl
    | cons join rest ih =>
        cases present : join.condition with
        | none => simp [present, optionPredicates, ih]
        | some node => simp [present, optionPredicates, ih]
  rw [joinListNodes_eq_flatMap, predicates]
  simp only [List.flatMap_assoc]
  refine (List.Perm.flatMap_left _ fun join member =>
    optionWhereNodes_perm (JoinSpec.validate_condition (valid.joins join member))).trans ?_
  simp only [List.flatMap_assoc]
  exact flatMap_append_perm query.joins _ _

/-- The nodes of a query: itself, the nodes of the scopes directly inside it, and
what its own scope accounts for. -/
theorem StructuredQuery.nodes_perm {query : StructuredQuery}
    (accepted : query.validate = .ok ()) :
    query.nodes.Perm (.query query ::
      ((directScopes query).flatMap StructuredQuery.nodes ++ scopeNodes query)) := by
  have valid := StructuredQuery.valid_of_validate accepted
  have unfolded : query.nodes = .query query ::
      (cteListNodes query.ctes ++ optionSetOpNodes query.setOp ++ itemListNodes query.select ++
        joinListNodes query.joins ++ optionWhereNodes query.where_ ++
        optionWhereNodes query.having) := by
    cases query
    rfl
  have bodies := cteListNodes_eq_flatMap query.ctes
  have arms := optionSetOpNodes_eq_flatMap query
  have items := selectNodes_perm valid.items
  have joins := joinNodes_perm valid
  have wheres := optionWhereNodes_perm valid.whereTree
  have havings := optionWhereNodes_perm valid.havingTree
  rw [unfolded, bodies, arms]
  refine List.Perm.cons _ (((((List.Perm.refl _).append items).append joins).append
    wheres).append havings |>.trans ?_)
  have split : (directScopes query).flatMap StructuredQuery.nodes =
      (query.ctes.flatMap fun spec => spec.query.nodes) ++ query.arms.flatMap StructuredQuery.nodes ++
        (optionPredicates query.where_).flatMap predicateQueryNodes ++
        (optionPredicates query.having).flatMap predicateQueryNodes := by
    simp only [directScopes, iterWhereAndHavingPredicates, List.flatMap_append, List.flatMap_map,
      List.flatMap_assoc, List.append_assoc]
    rfl
  have expressions : (iterScopeExpressions query).flatMap expressionNodes =
      (query.select.flatMap selectItemExpressions).flatMap expressionNodes ++
        (((optionPredicates query.where_).flatMap predicateExpressions).flatMap expressionNodes ++
          ((optionPredicates query.having).flatMap predicateExpressions).flatMap
            expressionNodes) ++
        ((iterJoinConditionPredicates query).flatMap predicateExpressions).flatMap
          expressionNodes := by
    simp only [iterScopeExpressions, iterScopeExpressionsByPosition, List.map_append,
      List.map_flatMap, List.map_map, iterWhereAndHavingPredicates, List.flatMap_append]
    simp only [Function.comp_def, List.map_id']
  rw [split, scopeNodes, expressions]
  generalize (query.ctes.flatMap fun spec => spec.query.nodes) = a
  generalize query.arms.flatMap StructuredQuery.nodes = b
  generalize query.select.flatMap SelectItem.windowNode = c
  generalize (query.select.flatMap selectItemExpressions).flatMap expressionNodes = d
  generalize (iterJoinConditionPredicates query).flatMap predicateQueryNodes = e
  generalize ((iterJoinConditionPredicates query).flatMap predicateExpressions).flatMap
    expressionNodes = f
  generalize (optionPredicates query.where_).flatMap predicateQueryNodes = g
  generalize ((optionPredicates query.where_).flatMap predicateExpressions).flatMap
    expressionNodes = h
  generalize (optionPredicates query.having).flatMap predicateQueryNodes = i
  generalize ((optionPredicates query.having).flatMap predicateExpressions).flatMap
    expressionNodes = j
  classical
  rw [List.perm_iff_count]
  intro node
  simp only [List.count_append]
  omega

/-- The nodes of an accepted query, scope by scope. -/
theorem StructuredQuery.nodes_perm_scopes {query : StructuredQuery}
    (accepted : query.validate = .ok ()) :
    query.nodes.Perm ((scopesOf query).flatMap fun scope => .query scope :: scopeNodes scope) := by
  induction query using StructuredQuery.scopeInduction with
  | step query ih =>
      refine (StructuredQuery.nodes_perm accepted).trans ?_
      rw [scopesOf_eq, List.flatMap_cons, List.cons_append, List.flatMap_assoc]
      refine List.Perm.cons _ (List.perm_append_comm.trans (List.Perm.append_left _ ?_))
      exact List.Perm.flatMap_left _ fun nested direct =>
        ih nested direct (validate_of_mem_directScopes accepted direct)

/-- No subquery sits in a CASE condition or a join condition of the scope. -/
def HidesNoSubquery (scope : StructuredQuery) : Prop :=
  (∀ condition ∈ iterScopeCaseConditions scope, ∀ pred ∈ iterWherePredicates condition,
      pred.hasSubquery = false) ∧
    ∀ pred ∈ iterJoinConditionPredicates scope, pred.hasSubquery = false

theorem hidesNoSubquery_of_checked {policy : Policy} {entry : Nat × StructuredQuery}
    (checked : checkSubqueryConstraints policy entry = .ok ()) : HidesNoSubquery entry.2 := by
  simp only [checkSubqueryConstraints, bind_eq_ok_iff, checkAll_eq_ok_iff, deny_eq_ok_iff,
    List.mem_flatMap] at checked
  obtain ⟨_, _, _, cases_, _, joins, _⟩ := checked
  exact ⟨fun condition inside pred member => cases_ pred ⟨condition, inside, member⟩, joins⟩

theorem predicateQueryNodes_of_plain {pred : Predicate} (plain : pred.hasSubquery = false) :
    predicateQueryNodes pred = [] := by
  obtain ⟨_, _, _, _, _, _, _, valueSubquery, existsSubquery⟩ := pred
  simp only [Predicate.hasSubquery, Bool.or_eq_false_iff, Option.isSome_eq_false_iff,
    Option.isNone_iff_eq_none] at plain
  obtain ⟨noValue, noExists⟩ := plain
  simp [predicateQueryNodes, Predicate.subqueries, noValue, noExists]

/-- The window operands of a scope, at any depth of its expressions. -/
def scopeWindowOperands (scope : StructuredQuery) : List WindowCall :=
  (iterScopeExpressions scope).flatMap expressionWindows

theorem expressionNodes_eq_windows {expr : Expression}
    (plain : ∀ condition ∈ iterExpressionCaseConditions expr,
      ∀ pred ∈ iterWherePredicates condition, pred.hasSubquery = false) :
    expressionNodes expr = (expressionWindows expr).map (AstNode.window .operand) := by
  unfold expressionNodes expressionWindows iterExpressionNodes
  unfold iterExpressionCaseConditions at plain
  generalize iterExpressionParts 1 expr = parts at plain
  induction parts with
  | nil => rfl
  | cons part rest ih =>
      cases part with
      | condition depth when_ =>
          have own : (iterWherePredicates when_).flatMap predicateQueryNodes = [] := by
            rw [List.flatMap_eq_nil_iff]
            intro pred member
            exact predicateQueryNodes_of_plain (plain when_ (by simp [ExpressionPart.condition?])
              pred member)
          rw [List.flatMap_cons, ExpressionPart.nodes, own, List.nil_append,
            ih fun condition later => plain condition (by
              simp only [List.filterMap_cons, ExpressionPart.condition?, List.mem_cons]
              exact .inr later)]
          rfl
      | node depth inner =>
          rw [List.flatMap_cons, ih fun condition later => plain condition later]
          cases inner <;> rfl

/-- In a scope that hides no subquery, only windows remain to be accounted for. -/
theorem scopeNodes_eq_windows {scope : StructuredQuery} (clean : HidesNoSubquery scope) :
    scopeNodes scope = (scopeWindows scope).map (AstNode.window .selectItem) ++
      (scopeWindowOperands scope).map (AstNode.window .operand) := by
  have items : scope.select.flatMap SelectItem.windowNode =
      (scopeWindows scope).map (AstNode.window .selectItem) := by
    unfold scopeWindows
    induction scope.select with
    | nil => rfl
    | cons item rest ih =>
        rw [List.flatMap_cons, ih]
        cases item <;> rfl
  have joins : (iterJoinConditionPredicates scope).flatMap predicateQueryNodes = [] := by
    rw [List.flatMap_eq_nil_iff]
    exact fun pred member => predicateQueryNodes_of_plain (clean.2 pred member)
  have operands : (iterScopeExpressions scope).flatMap expressionNodes =
      (scopeWindowOperands scope).map (AstNode.window .operand) := by
    rw [scopeWindowOperands, List.map_flatMap]
    refine List.flatMap_congr fun expr member => expressionNodes_eq_windows ?_
    exact fun condition inside => clean.1 condition (List.mem_flatMap.mpr ⟨expr, member, inside⟩)
  rw [scopeNodes, items, joins, operands, List.append_nil]

theorem filterMap_query_windows (spelling : WindowSpelling) (calls : List WindowCall) :
    (calls.map (AstNode.window spelling)).filterMap AstNode.query? = [] := by
  rw [List.filterMap_map]
  exact List.filterMap_eq_nil_iff.mpr fun call _ => rfl

/-- The queries reachable in an accepted request are its scopes, up to order. -/
theorem reachableQueries_perm_scopesOf {query : StructuredQuery}
    (accepted : query.validate = .ok ())
    (clean : ∀ scope ∈ scopesOf query, HidesNoSubquery scope) :
    (reachableQueries query).Perm (scopesOf query) := by
  have listed := (StructuredQuery.nodes_perm_scopes accepted).filterMap AstNode.query?
  refine listed.trans (List.Perm.of_eq ?_)
  rw [List.filterMap_flatMap]
  have each : ∀ scope ∈ scopesOf query,
      (AstNode.query scope :: scopeNodes scope).filterMap AstNode.query? = [scope] := by
    intro scope member
    rw [scopeNodes_eq_windows (clean scope member), List.filterMap_cons, List.filterMap_append,
      filterMap_query_windows, filterMap_query_windows]
    rfl
  rw [List.flatMap_congr each, List.flatMap_singleton']

/-- The window calls of an accepted request, scope by scope and spelling by
spelling. -/
theorem windowCalls_perm {query : StructuredQuery} (accepted : query.validate = .ok ())
    (clean : ∀ scope ∈ scopesOf query, HidesNoSubquery scope) :
    (windowCalls query).Perm ((scopesOf query).flatMap scopeWindows ++
      (scopesOf query).flatMap scopeWindowOperands) := by
  have listed := (StructuredQuery.nodes_perm_scopes accepted).filterMap AstNode.window?
  refine listed.trans ?_
  rw [List.filterMap_flatMap]
  have each : ∀ scope ∈ scopesOf query,
      (AstNode.query scope :: scopeNodes scope).filterMap AstNode.window? =
        scopeWindows scope ++ scopeWindowOperands scope := by
    intro scope member
    rw [scopeNodes_eq_windows (clean scope member), List.filterMap_cons, List.filterMap_append,
      List.filterMap_map, List.filterMap_map]
    simp only [AstNode.window?, Function.comp_def, List.filterMap_some]
  rw [List.flatMap_congr each]
  exact flatMap_append_perm _ _ _

end QueryGate
