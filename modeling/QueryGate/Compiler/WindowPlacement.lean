import QueryGate.Compiler.RankReferences
import QueryGate.Compiler.WholeTree
import QueryGate.Validation.ScopeDepths

/-! # Where windows stand in a compiled query

Policy validation walks the expressions of a scope by position and lets window calls through in
projections only. Two places escape it: the argument of a window projection, whose window calls
are projected as far as the walk can see, and the rank of a top-n clause, which reaches the
expressions of the select list by name.
-/

namespace QueryGate

open Foundation

/-- The expression aggregates the rows of a group. -/
def SqlExpr.isAggregation : SqlExpr → Bool
  | .aggregate _ _ _ => true
  | .adapter (.stringAgg _) _ | .adapter .arrayAgg _ | .adapter (.percentileCont _) _ => true
  | _ => false

/-- The SELECT groups its rows or aggregates them. -/
def Select.Aggregates (select : Select) : Prop :=
  select.groupBy ≠ [] ∨ ∃ column ∈ select.columns, column.expr.isAggregation = true

/-- The window calls inside what a rank is computed over. -/
def SqlTopN.windowCalls : SqlTopN → List SqlExpr
  | .mk _ _ partitionBy orderBy => listWindowCalls partitionBy ++ listWindowCalls orderBy

/-- No window call of a SELECT is nested in another, or stands where SQL allows none. -/
structure Select.WindowsPlaced (select : Select) : Prop where
  nested : ∀ column ∈ select.columns, ∀ call ∈ column.expr.windowCalls, call.innerWindows = []
  joins : ∀ join ∈ select.joins, join.condition.windowCalls = []
  where_ : ∀ condition ∈ select.where_, condition.windowCalls = []
  groupBy : ∀ key ∈ select.groupBy, key.windowCalls = []
  having : ∀ condition ∈ select.having, condition.windowCalls = []
  aggregateArgs : ∀ column ∈ select.columns, ∀ fn distinct args,
    column.expr = .aggregate fn distinct args → listWindowCalls args = []
  aggregated : select.Aggregates → ∀ column ∈ select.columns, column.expr.windowCalls = []

/-- No window call of a statement is nested in another, stands where SQL allows none, or is
ranked by. -/
structure Statement.WindowsPlaced (statement : Statement) : Prop where
  arms : ∀ select ∈ statement.arms, select.WindowsPlaced
  rank : ∀ topN, statement.topN = some topN → topN.windowCalls = []
  nested : ∀ call ∈ listWindowCalls statement.orderBy, call.innerWindows = []
  aggregated : ∀ select ∈ statement.arms, select.Aggregates →
    listWindowCalls statement.orderBy = []

/-- The window calls inside the argument of a window call. -/
def WindowCall.argWindows (call : WindowCall) : List WindowCall :=
  call.arg.toList.flatMap expressionWindows

/-- The window calls of a select item, in either spelling. -/
def SelectItem.windowCalls : SelectItem → List WindowCall
  | .window call _ => call :: call.argWindows
  | item => (selectItemExpressions item).flatMap expressionWindows

/-- What keeps the windows of a scope apart: no window projection has a window call in its
argument, and no reference of the rank reaches an item with one. -/
structure WindowsApart (objects : CteObjects) (path : ScopePath) (scope : StructuredQuery)
    (tables : Tables) : Prop where
  arguments : ∀ call ∈ scopeWindows scope, call.argWindows = []
  rank : ∀ ref ∈ rankRefs scope, ∀ item,
    rankHolder scope (compiledTables objects path scope tables) ref = some item →
    item.windowCalls = []

section Items

variable {context : CompileContext} {query : StructuredQuery} {tables : Tables}

theorem windowsCompiled_optional {adapter : DialectAdapter} {arg : Option Expression}
    {compiled : Option SqlExpr} (valid : validateOptionExpression arg = .ok ())
    (done : compileOptional adapter tables arg = compiled.map .ok) :
    WindowsCompiled adapter tables (arg.toList.flatMap expressionWindows)
      (optionWindowCalls compiled) := by
  have parts : arg.toList.flatMap expressionWindows = partWindows (optionParts 1 arg) := by
    cases arg with
    | none => rfl
    | some expr =>
        rw [Option.toList_some, List.flatMap_singleton]
        rfl
  rw [parts]
  exact compileOptional_windows adapter tables arg 1 compiled valid done

/-- A compiled window call is computed from the window calls of its argument. -/
theorem compileWindow_argWindows {adapter : DialectAdapter} {call : WindowCall} {expr : SqlExpr}
    (valid : call.validate = .ok ()) (done : compileWindow adapter tables call = .ok expr) :
    expr.windowCalls = expr :: expr.innerWindows ∧
      WindowsCompiled adapter tables call.argWindows expr.innerWindows := by
  obtain ⟨calls, within⟩ := compileWindow_windows adapter tables call 1 expr valid done
  have parts : call.argWindows = partWindows (windowParts 1 call) := by
    obtain ⟨fn, over_, arg, offset, buckets⟩ := call
    rw [WindowCall.argWindows, windowParts]
    cases arg with
    | none => rfl
    | some inner => exact List.flatMap_singleton _ _
  rw [parts]
  exact ⟨calls, within⟩

theorem adapterItem_windowCalls {adapter : DialectAdapter} {method : AdapterMethod} {col : String}
    {alias_ : Option String} {default_ : String → String} {compiled : CompiledItem}
    (done : adapterItem adapter tables method col alias_ default_ = .ok compiled) :
    compiled.1.expr.windowCalls = [] ∧ ∃ args, compiled.1.expr = .adapter method args := by
  simp only [adapterItem, bind_eq_ok_iff] at done
  obtain ⟨⟨table, column⟩, _, expr, called, returned⟩ := done
  cases returned
  refine ⟨?_, _, adapterCall_eq_ok called⟩
  change expr.windowCalls = []
  rw [adapterCall_windowCalls called]
  rfl

/-- A compiled select item holds the compiled window calls of the item. -/
theorem compileSelectItem_windows {item : SelectItem} {compiled : CompiledItem}
    (valid : item.validate = .ok ())
    (done : compileSelectItem context query tables item = .ok compiled) :
    WindowsCompiled context.adapter tables item.windowCalls compiled.1.expr.windowCalls := by
  cases item with
  | bare ref =>
      simp only [compileSelectItem, bind_eq_ok_iff] at done
      obtain ⟨⟨table, column⟩, _, mask, _, expr, masked, returned⟩ := done
      cases returned
      have plain : expr.windowCalls = [] := by
        cases mask with
        | none =>
            cases masked
            rfl
        | some mask =>
            rw [maskedColumn] at masked
            rw [adapterCall_windowCalls masked]
            rfl
      change WindowsCompiled _ _ [] expr.windowCalls
      rw [plain]
      exact .nil
  | aggregate fn col arg distinct alias_ =>
      simp only [SelectItem.validate, seq_eq_ok_iff] at valid
      simp only [compileSelectItem, bind_eq_ok_iff] at done
      obtain ⟨_, _, expr, exprDone, name, _, returned⟩ := done
      cases returned
      change WindowsCompiled _ _ (arg.toList.flatMap expressionWindows) expr.windowCalls
      cases arg with
      | none =>
          rw [compileOptional, aggregateExpr, seq_eq_ok_iff] at exprDone
          obtain ⟨_, returned⟩ := exprDone
          cases returned
          exact .nil
      | some argument =>
          rw [compileOptional, aggregateExpr, bind_eq_ok_iff] at exprDone
          obtain ⟨inner, innerDone, returned⟩ := exprDone
          cases returned
          rw [SqlExpr.windowCalls, listWindowCalls_singleton]
          have done : compileOptional context.adapter tables (some argument) =
              (some inner).map .ok := by
            rw [compileOptional, innerDone]
            rfl
          exact windowsCompiled_optional valid.1 done
  | dateBucket item =>
      rw [compileSelectItem] at done
      rw [(adapterItem_windowCalls done).1]
      exact .nil
  | stringAgg item =>
      rw [compileSelectItem] at done
      rw [(adapterItem_windowCalls done).1]
      exact .nil
  | arrayAgg item =>
      rw [compileSelectItem] at done
      rw [(adapterItem_windowCalls done).1]
      exact .nil
  | percentileCont item =>
      rw [compileSelectItem] at done
      rw [(adapterItem_windowCalls done).1]
      exact .nil
  | scalarFunction call alias_ =>
      simp only [compileSelectItem, bind_eq_ok_iff] at done
      obtain ⟨expr, called, name, _, returned⟩ := done
      cases returned
      change WindowsCompiled _ _ [] expr.windowCalls
      rw [scalarCall_windowCalls called]
      exact .nil
  | case when_ else_ alias_ =>
      rw [SelectItem.validate] at valid
      rw [compileSelectItem, bind_eq_ok_iff] at done
      obtain ⟨expr, exprDone, returned⟩ := done
      cases returned
      have validCase : (Expression.case when_ else_).validate = .ok () := by
        rw [Expression.validate]
        exact valid
      change WindowsCompiled _ _ ([Expression.case when_ else_].flatMap expressionWindows)
        expr.windowCalls
      rw [List.flatMap_singleton]
      exact compileExpression_windows context.adapter tables _ 1 expr validCase exprDone
  | expression expression alias_ =>
      rw [SelectItem.validate] at valid
      rw [compileSelectItem, bind_eq_ok_iff] at done
      obtain ⟨expr, exprDone, returned⟩ := done
      cases returned
      change WindowsCompiled _ _ ([expression].flatMap expressionWindows) expr.windowCalls
      rw [List.flatMap_singleton]
      exact compileExpression_windows context.adapter tables _ 1 expr valid exprDone
  | window call alias_ =>
      rw [SelectItem.validate] at valid
      rw [compileSelectItem, bind_eq_ok_iff] at done
      obtain ⟨expr, exprDone, returned⟩ := done
      cases returned
      obtain ⟨calls, within⟩ := compileWindow_argWindows valid exprDone
      change WindowsCompiled _ _ (call :: call.argWindows) expr.windowCalls
      rw [calls]
      exact .cons ⟨valid, exprDone⟩ within

/-- No expression is compiled to an aggregation. -/
theorem compileExpression_isAggregation {adapter : DialectAdapter} {expr : Expression}
    {compiled : SqlExpr} (done : compileExpression adapter tables expr = .ok compiled) :
    compiled.isAggregation = false := by
  cases expr with
  | column col =>
      rw [compileExpression] at done
      obtain ⟨_, _, _, rfl⟩ := columnExpr_eq_ok done
      rfl
  | literal value =>
      rw [compileExpression] at done
      cases done
      rfl
  | now kind =>
      rw [compileExpression] at done
      rw [adapterCall_eq_ok done]
      rfl
  | binaryOp op left right =>
      simp only [compileExpression, bind_eq_ok_iff] at done
      obtain ⟨_, _, _, _, returned⟩ := done
      cases returned
      rfl
  | function fn args =>
      rw [compileExpression, bind_eq_ok_iff] at done
      obtain ⟨_, _, called⟩ := done
      unfold functionCall at called
      split at called
      · cases called
        rfl
      · rw [adapterCall_eq_ok called]
        rfl
  | cast operand target =>
      rw [compileExpression, bind_eq_ok_iff] at done
      obtain ⟨_, _, returned⟩ := done
      cases returned
      rfl
  | extract operand part =>
      rw [compileExpression, bind_eq_ok_iff] at done
      obtain ⟨_, _, called⟩ := done
      rw [adapterCall_eq_ok called]
      rfl
  | dateAdd operand unit amount =>
      rw [compileExpression, bind_eq_ok_iff] at done
      obtain ⟨_, _, called⟩ := done
      rw [adapterCall_eq_ok called]
      rfl
  | case when_ else_ =>
      simp only [compileExpression, bind_eq_ok_iff] at done
      obtain ⟨_, _, _, _, returned⟩ := done
      cases returned
      rfl
  | window call =>
      obtain ⟨fn, over_, arg, offset, buckets⟩ := call
      simp only [compileExpression, compileWindow, windowCallExpr, bind_eq_ok_iff] at done
      obtain ⟨_, _, _, _, _, _, _, _, returned⟩ := done
      cases returned
      rfl

/-- A select item is compiled to an aggregation where it aggregates. -/
theorem compileSelectItem_isAggregation {item : SelectItem} {compiled : CompiledItem}
    (done : compileSelectItem context query tables item = .ok compiled) :
    compiled.1.expr.isAggregation = true → item.isAggregate = true := by
  intro aggregated
  cases item with
  | aggregate fn col arg distinct alias_ => rfl
  | stringAgg item => rfl
  | arrayAgg item => rfl
  | percentileCont item => rfl
  | bare ref =>
      simp only [compileSelectItem, bind_eq_ok_iff] at done
      obtain ⟨⟨table, column⟩, _, mask, _, expr, masked, returned⟩ := done
      cases returned
      cases mask with
      | none =>
          cases masked
          cases aggregated
      | some mask =>
          rw [maskedColumn] at masked
          obtain rfl := adapterCall_eq_ok masked
          cases aggregated
  | dateBucket item =>
      rw [compileSelectItem] at done
      obtain ⟨_, args, same⟩ := adapterItem_windowCalls done
      rw [same] at aggregated
      cases aggregated
  | scalarFunction call alias_ =>
      simp only [compileSelectItem, scalarCall, bind_eq_ok_iff] at done
      obtain ⟨expr, ⟨args, _, called⟩, name, _, returned⟩ := done
      cases called
      cases returned
      cases aggregated
  | case when_ else_ alias_ =>
      rw [compileSelectItem, bind_eq_ok_iff] at done
      obtain ⟨expr, exprDone, returned⟩ := done
      cases returned
      have plain := compileExpression_isAggregation exprDone
      change expr.isAggregation = true at aggregated
      rw [plain] at aggregated
      cases aggregated
  | expression expression alias_ =>
      rw [compileSelectItem, bind_eq_ok_iff] at done
      obtain ⟨expr, exprDone, returned⟩ := done
      cases returned
      have plain := compileExpression_isAggregation exprDone
      change expr.isAggregation = true at aggregated
      rw [plain] at aggregated
      cases aggregated
  | window call alias_ =>
      rw [compileSelectItem, bind_eq_ok_iff] at done
      obtain ⟨expr, exprDone, returned⟩ := done
      cases returned
      have asOperand : compileExpression context.adapter tables (.window call) = .ok expr := by
        rw [compileExpression]
        exact exprDone
      have plain := compileExpression_isAggregation asOperand
      change expr.isAggregation = true at aggregated
      rw [plain] at aggregated
      cases aggregated

end Items

section Rules

theorem partWindows_flatMap {α : Type} (items : List α) (parts : α → List ExpressionPart) :
    partWindows (items.flatMap parts) = items.flatMap fun item => partWindows (parts item) := by
  induction items with
  | nil => rfl
  | cons item rest ih => rw [List.flatMap_cons, partWindows_append, ih, List.flatMap_cons]

/-- The windows of a boolean tree are those of the expressions its predicates carry. -/
theorem partWindows_whereParts (node : WhereNode) :
    partWindows (whereParts 1 node) = (iterWherePredicates node).flatMap fun pred =>
      (predicateExpressions pred).flatMap expressionWindows := by
  rw [whereParts_eq_flatMap, partWindows_flatMap]
  refine List.flatMap_congr fun pred _ => ?_
  rw [predicateParts_eq_flatMap, partWindows_flatMap]
  rfl

/-- What validation says about the window calls of a scope. -/
structure WindowRules (scope : StructuredQuery) : Prop where
  conditions : ∀ pred, pred ∈ iterWhereAndHavingPredicates scope ∨
    pred ∈ iterJoinConditionPredicates scope →
    ∀ expr ∈ predicateExpressions pred, expressionWindows expr = []
  projections : ∀ item ∈ scope.select, ∀ expr ∈ selectItemExpressions item,
    ∀ call ∈ expressionWindows expr, call.argWindows = []
  aggregated : isAggregateScope scope = true → ∀ item ∈ scope.select, item.windowCalls = []
  having : scope.having.isSome = true → isAggregateScope scope = true

theorem windowRules_of_checked {scope : StructuredQuery} {policy : Policy} {tables : Tables}
    (valid : scope.Valid) (shaped : checkScopeShape policy scope = .ok ())
    (columns : checkScopeColumns scope tables = .ok ()) : WindowRules scope := by
  simp only [checkScopeShape, seq_eq_ok_iff] at shaped
  obtain ⟨windows, _⟩ := shaped
  simp only [rejectWindowsOutsideProjections, seq_eq_ok_iff, checkAll_eq_ok_iff, deny_eq_ok_iff,
    Bool.and_eq_false_iff, List.any_eq_false, Bool.not_eq_true, Bool.not_eq_false',
    List.isEmpty_iff] at windows
  obtain ⟨positions, together⟩ := windows
  have placed : ∀ entry ∈ iterScopeExpressionsByPosition scope,
      (entry.1 ≠ .projection → expressionWindows entry.2 = []) ∧
        ∀ call ∈ expressionWindows entry.2, call.argWindows = [] := by
    intro entry member
    have checked := positions entry member
    simp only [checkWindowPosition, seq_eq_ok_iff, deny_eq_ok_iff, Bool.and_eq_false_iff,
      Bool.not_eq_false', List.isEmpty_iff, List.any_eq_false, bne_eq_false_iff_eq] at checked
    obtain ⟨position, nested⟩ := checked
    refine ⟨fun elsewhere => position.resolve_right elsewhere, fun call inside => ?_⟩
    have flat := nested call inside
    rw [WindowCall.argWindows]
    cases present : call.arg with
    | none => rfl
    | some arg =>
        rw [present] at flat
        simpa using flat
  refine ⟨fun pred carried expr inPred => ?_, fun item member expr inItem => ?_,
    fun aggregated item member => ?_, fun present => ?_⟩
  · rcases carried with inConditions | inJoins
    · refine (placed (.whereOrHaving, expr) ?_).1 fun absurd => by cases absurd
      refine List.mem_append_left _ (List.mem_append_right _ ?_)
      exact List.mem_flatMap.mpr ⟨pred, inConditions, List.mem_map_of_mem inPred⟩
    · refine (placed (.joinCondition, expr) ?_).1 fun absurd => by cases absurd
      refine List.mem_append_right _ ?_
      exact List.mem_flatMap.mpr ⟨pred, inJoins, List.mem_map_of_mem inPred⟩
  · refine (placed (item.expressionPosition, expr) ?_).2
    refine List.mem_append_left _ (List.mem_append_left _ ?_)
    exact List.mem_flatMap.mpr ⟨item, member, List.mem_map_of_mem inItem⟩
  · have noWindows : ∀ expr ∈ iterScopeExpressions scope, expressionWindows expr = [] := by
      rcases together with none_ | absurd
      · exact none_
      · rw [aggregated] at absurd
        cases absurd
    have flat : (selectItemExpressions item).flatMap expressionWindows = [] := by
      rw [List.flatMap_eq_nil_iff]
      refine fun expr inItem => noWindows expr (List.mem_map.mpr
        ⟨(item.expressionPosition, expr), ?_, rfl⟩)
      refine List.mem_append_left _ (List.mem_append_left _ ?_)
      exact List.mem_flatMap.mpr ⟨item, member, List.mem_map_of_mem inItem⟩
    have rules := valid.self
    simp only [StructuredQuery.validateSelf, seq_eq_ok_iff] at rules
    obtain ⟨_, _, windowScope, _, _⟩ := rules
    rw [StructuredQuery.validateWindowScope, refuse_eq_ok_iff, aggregated, Bool.and_true,
      List.any_eq_false] at windowScope
    cases item with
    | window call alias_ => exact absurd rfl (windowScope _ member)
    | _ => exact flat
  · simp only [checkScopeColumns, seq_eq_ok_iff] at columns
    obtain ⟨_, _, groupBy, _⟩ := columns
    simp only [validateGroupBy, bind_eq_ok_iff] at groupBy
    obtain ⟨_, _, _, _, having⟩ := groupBy
    rw [invalid_eq_ok_iff, present, Bool.true_and] at having
    rw [isAggregateScope]
    cases aggregate : scope.select.any SelectItem.isAggregate with
    | true => exact Bool.or_true _
    | false =>
        rw [aggregate, Bool.not_false, Bool.true_and] at having
        rw [having]
        rfl

end Rules

section Clauses

variable {context : CompileContext} {tables : Tables}

theorem compileWhere_windowless {adapter : DialectAdapter} {aliasMap : AliasMap}
    {ctx : Option WhereCtx} {node : WhereNode} {index : Nat} {condition : SqlCondition}
    (silent : ∀ entry ∈ aliasMap, entry.2.windowCalls = []) (valid : node.validate = .ok ())
    (flat : ∀ pred ∈ iterWherePredicates node, ∀ expr ∈ predicateExpressions pred,
      expressionWindows expr = [])
    (done : compileWhere adapter tables aliasMap ctx index node = .ok condition) :
    condition.windowCalls = [] := by
  rw [(compileWhere_windows adapter tables aliasMap ctx silent node 1 index condition valid
    done).eq_nil_iff, partWindows_whereParts, List.flatMap_eq_nil_iff]
  intro pred member
  rw [List.flatMap_eq_nil_iff]
  exact flat pred member

/-- An optional condition whose predicates carry no window holds none. -/
theorem optionalWhere_windowless {adapter : DialectAdapter} {aliasMap : AliasMap}
    {ctx : Option WhereCtx} {node : Option WhereNode} {index : Nat} {conditions : List SqlCondition}
    (silent : ∀ entry ∈ aliasMap, entry.2.windowCalls = [])
    (valid : validateOptionNode node = .ok ())
    (flat : ∀ pred ∈ optionPredicates node, ∀ expr ∈ predicateExpressions pred,
      expressionWindows expr = [])
    (done : optionalConjunct (node.map (compileWhere adapter tables aliasMap ctx index)) =
      .ok conditions) : ∀ condition ∈ conditions, condition.windowCalls = [] := by
  intro condition member
  have compiled := optionalConjunct_eq_ok done member
  cases node with
  | none => cases compiled
  | some node =>
      rw [validateOptionNode] at valid
      rw [Option.map_some, Option.some.injEq] at compiled
      exact compileWhere_windowless silent valid flat compiled

theorem conjunction_windowless {conditions : List SqlCondition}
    (each : ∀ condition ∈ conditions, condition.windowCalls = []) :
    (conjunction conditions).windowCalls = [] := by
  unfold conjunction
  split
  · exact each _ (List.mem_singleton.mpr rfl)
  · rw [SqlCondition.windowCalls]
    exact conditionWindowCalls_eq_nil_iff.mpr each

theorem joinCondition_windowless {adapter : DialectAdapter} {join : JoinSpec}
    {condition : SqlCondition} (valid : join.validate = .ok ())
    (flat : ∀ pred ∈ optionPredicates join.condition, ∀ expr ∈ predicateExpressions pred,
      expressionWindows expr = [])
    (done : joinCondition adapter tables join = .ok condition) : condition.windowCalls = [] := by
  unfold joinCondition at done
  split at done
  · cases done
    rfl
  · split at done
    · rename_i node present
      have validNode := JoinSpec.validate_condition valid
      rw [present, validateOptionNode] at validNode
      rw [present] at flat
      exact compileWhere_windowless (fun entry absurd => by cases absurd) validNode flat done
    · simp only [bind_eq_ok_iff] at done
      obtain ⟨pairs, _, conditions, mapped, returned⟩ := done
      cases returned
      refine conjunction_windowless fun found member => ?_
      obtain ⟨pair, _, compiled⟩ := mapAll_preimage mapped member
      simp only [compilePair, bind_eq_ok_iff] at compiled
      obtain ⟨_, _, _, _, _, _, _, _, _, _, _, _, returned⟩ := compiled
      cases returned
      rfl

theorem resolveOutputRef_windows {aliasMap : AliasMap} {fallback : Bool} {ref : String}
    {expr : SqlExpr} (done : resolveOutputRef tables aliasMap fallback ref = .ok expr) :
    expr.windowCalls = [] ∨ ∃ entry ∈ aliasMap, expr.windowCalls = entry.2.windowCalls := by
  unfold resolveOutputRef at done
  split at done
  · rename_i target found
    cases done
    exact .inr ⟨_, dictGet_eq_some_mem found, rfl⟩
  · split at done
    · exact .inl (columnExpr_windowCalls done)
    · cases done

/-- An ORDER BY term holds the windows of the output name it orders by. -/
theorem orderTerm_windows {adapter : DialectAdapter} {aliasMap : AliasMap} {fallback : Bool}
    {order : OrderBySpec} {expr : SqlExpr}
    (done : orderTerm adapter tables aliasMap fallback order = .ok expr) :
    expr.windowCalls = [] ∨ ∃ entry ∈ aliasMap, expr.windowCalls = entry.2.windowCalls := by
  rw [orderTerm, bind_eq_ok_iff] at done
  obtain ⟨column, resolved, called⟩ := done
  rw [adapterCall_windowCalls called, listWindowCalls_singleton]
  exact resolveOutputRef_windows resolved

/-- What holds of no window, and of the windows of every output name, holds of the ORDER BY. -/
theorem orderBy_windows {adapter : DialectAdapter} {aliasMap : AliasMap} {fallback : Bool}
    {orders : List OrderBySpec} {orderBy : List SqlExpr} {allowed : SqlExpr → Prop}
    (done : mapAll (orderTerm adapter tables aliasMap fallback) orders = .ok orderBy)
    (each : ∀ entry ∈ aliasMap, ∀ call ∈ entry.2.windowCalls, allowed call) :
    ∀ call ∈ listWindowCalls orderBy, allowed call := by
  intro call member
  rw [listWindowCalls_eq_flatMap, List.mem_flatMap] at member
  obtain ⟨expr, inOrder, inExpr⟩ := member
  obtain ⟨order, _, compiled⟩ := mapAll_preimage done inOrder
  rcases orderTerm_windows compiled with none_ | ⟨entry, inMap, same⟩
  · rw [none_] at inExpr
    cases inExpr
  · rw [same] at inExpr
    exact each entry inMap call inExpr

/-- The names of a derived table stand for no window. -/
theorem derivedAliasMap_windowless {query : StructuredQuery} {columns : List SqlColumn}
    {entry : String × SqlExpr} (member : entry ∈ derivedAliasMap query columns) :
    entry.2.windowCalls = [] := by
  obtain ⟨position, name, same⟩ := derived_of_mem_derivedAliasMap member
  rw [same]
  rfl

end Clauses

section Scope

variable {context : CompileContext} {objects : CteObjects} {path : ScopePath}
  {scope : StructuredQuery} {tables : Tables} {subqueries : List (ScopeStep × Gate Statement)}
  {body : ScopeBody}

/-- Each column of a compiled select list is compiled from its item. -/
theorem projection_compiled {compiled : Tables}
    (done : buildSelectColumns context scope compiled = .ok (body.select.columns, body.aliasMap))
    {entry : SelectItem × SqlColumn} (member : entry ∈ projection scope body) :
    ∃ names, compileSelectItem context scope compiled entry.1 = .ok (entry.2, names) := by
  rw [buildSelectColumns, bind_eq_ok_iff] at done
  obtain ⟨items, mapped, returned⟩ := done
  injection returned with returned
  injection returned with columns _
  have paired := mapAll_eq_ok_iff.mp mapped
  rw [projection, ← columns, List.zip_map_right] at member
  obtain ⟨⟨item, compiledItem⟩, inZip, rfl⟩ := List.mem_map.mp member
  exact ⟨compiledItem.2, (List.forall₂_iff_zip.mp paired).2 inZip⟩

namespace BodyStages

/-- A projected column holds the compiled windows of a select item. -/
theorem column_windows (stages : BodyStages context objects path scope tables subqueries body)
    (valid : scope.Valid) {column : SqlColumn} (member : column ∈ body.select.columns) :
    ∃ item ∈ scope.select,
      WindowsCompiled context.adapter (compiledTables objects path scope tables) item.windowCalls
        column.expr.windowCalls ∧
      (column.expr.isAggregation = true → item.isAggregate = true) := by
  have built := compiledProjection_of_built stages.columns
  rw [← built.columns] at member
  obtain ⟨entry, inside, rfl⟩ := List.mem_map.mp member
  have inSelect : entry.1 ∈ scope.select := built.items ▸ List.mem_map_of_mem inside
  obtain ⟨names, done⟩ := projection_compiled stages.columns inside
  exact ⟨entry.1, inSelect, compileSelectItem_windows (valid.items _ inSelect) done,
    compileSelectItem_isAggregation done⟩

/-- An output name stands for a projected column. -/
theorem alias_column (stages : BodyStages context objects path scope tables subqueries body)
    {entry : String × SqlExpr} (member : entry ∈ body.aliasMap) :
    ∃ column ∈ body.select.columns, entry.2 = column.expr := by
  have built := stages.columns
  rw [buildSelectColumns, bind_eq_ok_iff] at built
  obtain ⟨items, mapped, returned⟩ := built
  injection returned with returned
  injection returned with columns aliasMap
  rw [← aliasMap] at member
  rcases mem_foldl_extendAliasMap member with absurd | ⟨compiled, inItems, inItem⟩
  · cases absurd
  · obtain ⟨item, _, done⟩ := mapAll_preimage mapped inItems
    rw [(compileSelectItem_label done).2, List.mem_map] at inItem
    obtain ⟨key, _, rfl⟩ := inItem
    exact ⟨compiled.1, columns ▸ List.mem_map_of_mem inItems, rfl⟩

/-- A compiled SELECT groups or aggregates where its scope does. -/
theorem isAggregateScope_of_aggregates
    (stages : BodyStages context objects path scope tables subqueries body) (valid : scope.Valid)
    (aggregates : body.select.Aggregates) : isAggregateScope scope = true := by
  rw [isAggregateScope, Bool.or_eq_true]
  rcases aggregates with grouped | ⟨column, member, aggregation⟩
  · refine .inl ?_
    have lengths := (mapAll_eq_ok_iff.mp stages.groupBy).length_eq
    cases keys : scope.groupBy with
    | nil =>
        rw [keys, List.length_nil, eq_comm, List.length_eq_zero_iff] at lengths
        exact absurd lengths grouped
    | cons key rest => rfl
  · obtain ⟨item, inSelect, _, isAggregate⟩ := stages.column_windows valid member
    exact .inr (List.any_eq_true.mpr ⟨item, inSelect, isAggregate aggregation⟩)

/-- No column of a scope that groups or aggregates holds a window. -/
theorem column_windowless (stages : BodyStages context objects path scope tables subqueries body)
    (valid : scope.Valid) (rules : WindowRules scope) (grouped : isAggregateScope scope = true)
    {column : SqlColumn} (member : column ∈ body.select.columns) :
    column.expr.windowCalls = [] := by
  obtain ⟨item, inSelect, both, _⟩ := stages.column_windows valid member
  rw [both.eq_nil_iff]
  exact rules.aggregated grouped item inSelect

theorem alias_windowless (stages : BodyStages context objects path scope tables subqueries body)
    (valid : scope.Valid) (rules : WindowRules scope) (grouped : isAggregateScope scope = true) :
    ∀ entry ∈ body.aliasMap, entry.2.windowCalls = [] := by
  intro entry member
  obtain ⟨column, inColumns, same⟩ := stages.alias_column member
  rw [same]
  exact stages.column_windowless valid rules grouped inColumns

/-- No projected window is computed from another, unless a window projection has one in its
argument. -/
theorem column_nested (stages : BodyStages context objects path scope tables subqueries body)
    (valid : scope.Valid) (rules : WindowRules scope)
    (arguments : ∀ call ∈ scopeWindows scope, call.argWindows = []) {column : SqlColumn}
    (member : column ∈ body.select.columns) :
    ∀ call ∈ column.expr.windowCalls, call.innerWindows = [] := by
  intro call inColumn
  obtain ⟨item, inSelect, both, _⟩ := stages.column_windows valid member
  obtain ⟨source, inItem, validCall, compiled⟩ := both.source inColumn
  rw [(compileWindow_argWindows validCall compiled).2.eq_nil_iff]
  have operand : source ∈ (selectItemExpressions item).flatMap expressionWindows →
      source.argWindows = [] := by
    intro inOperands
    obtain ⟨expr, inExpressions, inExpr⟩ := List.mem_flatMap.mp inOperands
    exact rules.projections item inSelect expr inExpressions source inExpr
  cases item with
  | window spelled alias_ =>
      rcases List.mem_cons.mp inItem with rfl | inArgument
      · exact arguments source (List.mem_filterMap.mpr ⟨_, inSelect, rfl⟩)
      · exact operand inArgument
  | _ => exact operand inItem

/-- The windows of a compiled SELECT are placed exactly if no window projection has a window
call in its argument. -/
theorem select_windowsPlaced_iff
    (stages : BodyStages context objects path scope tables subqueries body)
    (valid : scope.Valid) (rules : WindowRules scope) :
    body.select.WindowsPlaced ↔ ∀ call ∈ scopeWindows scope, call.argWindows = [] := by
  constructor
  · intro placed call isWindow
    obtain ⟨item, inSelect, same⟩ := List.mem_filterMap.mp isWindow
    cases item with
    | window spelled alias_ =>
        cases same
        have built := compiledProjection_of_built stages.columns
        rw [← built.items] at inSelect
        obtain ⟨entry, inside, sameItem⟩ := List.mem_map.mp inSelect
        obtain ⟨names, done⟩ := projection_compiled stages.columns inside
        have validItem := valid.items entry.1 (built.items ▸ List.mem_map_of_mem inside)
        rw [sameItem] at done validItem
        rw [SelectItem.validate] at validItem
        rw [compileSelectItem, bind_eq_ok_iff] at done
        obtain ⟨expr, exprDone, returned⟩ := done
        injection returned with returned
        have isColumn : expr = entry.2.expr :=
          congrArg (fun item : CompiledItem => item.1.expr) returned
        obtain ⟨calls, within⟩ := compileWindow_argWindows validItem exprDone
        rw [← within.eq_nil_iff]
        refine placed.nested entry.2 (built.columns ▸ List.mem_map_of_mem inside) expr ?_
        rw [← isColumn, calls]
        exact List.mem_cons_self ..
    | _ => cases same
  · intro arguments
    refine ⟨fun column member => stages.column_nested valid rules arguments member,
      fun join member => ?_, fun condition member => ?_, fun key member => ?_,
      fun condition member => ?_, fun column member fn distinct args same => ?_,
      fun aggregates column member => stages.column_windowless valid rules
        (stages.isAggregateScope_of_aggregates valid aggregates) member⟩
    · obtain ⟨spec, inJoins, done⟩ := mapAll_preimage stages.joins member
      simp only [compileJoin, bind_eq_ok_iff] at done
      obtain ⟨right, _, condition, conditionDone, returned⟩ := done
      cases returned
      refine joinCondition_windowless (valid.joins spec inJoins) (fun pred inCondition => ?_)
        conditionDone
      refine rules.conditions pred (.inr ?_)
      cases present : spec.condition with
      | none =>
          rw [present] at inCondition
          cases inCondition
      | some node =>
          rw [present] at inCondition
          exact List.mem_flatMap.mpr ⟨node, List.mem_filterMap.mpr ⟨spec, inJoins, present⟩,
            inCondition⟩
    · obtain ⟨filters, conditions, filtered, done, same⟩ := stages.where_
      rw [same, List.mem_append] at member
      rcases member with mandatory | own
      · obtain ⟨_, _, _, _, _, _, rfl⟩ := mandatory_eq_rowFilter filtered mandatory
        rfl
      · exact optionalWhere_windowless (fun entry absurd => by cases absurd) valid.whereTree
          (fun pred inWhere => rules.conditions pred (.inl (List.mem_append_left _ inWhere))) done
          condition own
    · have grouped : isAggregateScope scope = true :=
        stages.isAggregateScope_of_aggregates valid (.inl (List.ne_nil_of_mem member))
      obtain ⟨ref, _, done⟩ := mapAll_preimage stages.groupBy member
      rcases resolveOutputRef_windows done with none_ | ⟨entry, inMap, same⟩
      · exact none_
      · rw [same]
        exact stages.alias_windowless valid rules grouped entry inMap
    · obtain ⟨conditions, floor, done, floored, same⟩ := stages.having
      rw [same, List.mem_append] at member
      rcases member with own | floorCondition
      · have present : scope.having.isSome = true := by
          have compiled := optionalConjunct_eq_ok done own
          cases having : scope.having with
          | none =>
              rw [having] at compiled
              cases compiled
          | some node => rfl
        exact optionalWhere_windowless (stages.alias_windowless valid rules (rules.having present))
          valid.havingTree
          (fun pred inHaving => rules.conditions pred (.inl (List.mem_append_right _ inHaving)))
          done condition own
      · obtain ⟨size, rfl⟩ := groupFloor_eq_ok floored floorCondition
        rfl
    · have windowless := stages.column_windowless valid rules
        (stages.isAggregateScope_of_aggregates valid (.inr ⟨column, member, by rw [same]; rfl⟩))
        member
      rw [same, SqlExpr.windowCalls] at windowless
      exact windowless

end BodyStages

/-- A property of all results of a successful map, element by element. -/
theorem mapAll_forall_iff {α β ε : Type} {action : α → Except ε β} {items : List α}
    {images : List β} (mapped : mapAll action items = .ok images) {holds : β → Prop}
    {condition : α → Prop}
    (each : ∀ item ∈ items, ∀ image, action item = .ok image → (holds image ↔ condition item)) :
    (∀ image ∈ images, holds image) ↔ ∀ item ∈ items, condition item := by
  constructor
  · intro all item member
    obtain ⟨image, inImages, acted⟩ := mapAll_image mapped member
    exact (each item member image acted).mp (all image inImages)
  · intro all image member
    obtain ⟨item, inItems, acted⟩ := mapAll_preimage mapped member
    exact (each item inItems image acted).mpr (all item inItems)

/-- The item a name of the rank reaches is one of the scope's. -/
theorem rankHolder_mem {compiled : Tables} {ref : String} {item : SelectItem}
    (held : rankHolder scope compiled ref = some item) : item ∈ scope.select := by
  unfold rankHolder at held
  split at held
  · rcases Option.or_eq_some_iff.mp held with last | ⟨_, first⟩
    · exact List.mem_reverse.mp (List.mem_of_find?_eq_some last)
    · exact List.mem_of_find?_eq_some first
  · exact List.mem_reverse.mp (List.mem_of_find?_eq_some held)

namespace BodyStages

/-- One reference of a rank holds the windows of the item it reaches. -/
theorem resolveRankRef_windowless_iff
    (stages : BodyStages context objects path scope tables subqueries body) (valid : scope.Valid)
    (rules : WindowRules scope) {rankTables : Tables} {ref : String} {expr : SqlExpr}
    (done : resolveRankRef scope rankTables body ref = .ok expr) :
    expr.windowCalls = [] ↔ ∀ item,
      rankHolder scope (compiledTables objects path scope tables) ref = some item →
        item.windowCalls = [] := by
  have built := compiledProjection_of_built stages.columns
  cases grouped : isAggregateScope scope with
  | true =>
      refine iff_of_true ?_ fun item held => rules.aggregated grouped item (rankHolder_mem held)
      rcases resolveOutputRef_windows done with none_ | ⟨entry, inMap, same⟩
      · exact none_
      · rw [rankAliasMap, if_pos grouped] at inMap
        rw [same]
        exact derivedAliasMap_windowless inMap
  | false =>
      have names : dictGet (rankAliasMap scope body) ref =
          (aliasHolder scope body ref).map fun entry => entry.2.expr := by
        rw [rankAliasMap, if_neg (by rw [grouped]; exact Bool.false_ne_true), built.names]
      rw [built.rankHolder_plain grouped]
      cases held : aliasHolder scope body ref with
      | none =>
          rw [held, Option.map_none] at names
          refine iff_of_true ?_ fun item absurd => by cases absurd
          rw [resolveRankRef, resolveOutputRef, names] at done
          dsimp only at done
          split at done
          · exact columnExpr_windowCalls done
          · cases done
      | some entry =>
          rw [held, Option.map_some] at names
          rw [resolveRankRef_held names] at done
          cases done
          have inside : entry ∈ projection scope body :=
            List.mem_reverse.mp (List.mem_of_find?_eq_some held)
          have inSelect : entry.1 ∈ scope.select := built.items ▸ List.mem_map_of_mem inside
          obtain ⟨_, compiled⟩ := projection_compiled stages.columns inside
          have both := compileSelectItem_windows (valid.items _ inSelect) compiled
          rw [SqlExpr.windowCalls, both.eq_nil_iff, Option.map_some]
          exact ⟨fun none_ item same => Option.some.inj same ▸ none_, fun all => all _ rfl⟩

/-- A rank is computed over no window exactly if none of its references reaches an item with
one. -/
theorem topN_windowless_iff
    (stages : BodyStages context objects path scope tables subqueries body) (valid : scope.Valid)
    (rules : WindowRules scope) {spec : TopNSpec} {topN : SqlTopN}
    (done : applyTopN context.adapter scope tables body spec = .ok topN) :
    topN.windowCalls = [] ↔ ∀ ref ∈ spec.refs, ∀ item,
      rankHolder scope (compiledTables objects path scope tables) ref = some item →
        item.windowCalls = [] := by
  rw [applyTopN_eq] at done
  simp only [bind_eq_ok_iff] at done
  obtain ⟨partitionBy, partitioned, orderBy, ordered, returned⟩ := done
  cases returned
  have partition := mapAll_forall_iff partitioned
    fun ref _ expr resolved => stages.resolveRankRef_windowless_iff valid rules resolved
  have order : (∀ expr ∈ orderBy, expr.windowCalls = []) ↔ ∀ term ∈ spec.orderBy, ∀ item,
      rankHolder scope (compiledTables objects path scope tables) term.col = some item →
        item.windowCalls = [] := by
    refine mapAll_forall_iff ordered fun term _ expr resolved => ?_
    rw [bind_eq_ok_iff] at resolved
    obtain ⟨column, columnDone, called⟩ := resolved
    rw [adapterCall_windowCalls called, listWindowCalls_singleton]
    exact stages.resolveRankRef_windowless_iff valid rules columnDone
  rw [SqlTopN.windowCalls, List.append_eq_nil_iff, listWindowCalls_eq_nil_iff,
    listWindowCalls_eq_nil_iff, partition, order, TopNSpec.refs]
  simp only [List.mem_append, List.mem_map]
  constructor
  · rintro ⟨first, second⟩ ref (inPartition | ⟨term, inOrder, rfl⟩)
    · exact first ref inPartition
    · exact second term inOrder
  · intro all
    exact ⟨fun ref member => all ref (.inl member), fun term member => all term.col
      (.inr ⟨term, member, rfl⟩)⟩

/-- The statement of a scope whose windows are kept apart. -/
theorem statement_windowsPlaced
    (stages : BodyStages context objects path scope tables subqueries body) (valid : scope.Valid)
    (rules : WindowRules scope) (apart : WindowsApart objects path scope tables)
    {arms : List (Gate ScopeBody)} {statement : Statement}
    (done : compileStatement context scope tables (.ok body) arms = .ok statement)
    (placed : ∀ select ∈ statement.arms, select.WindowsPlaced) : statement.WindowsPlaced := by
  have derivedNone : ∀ {columns : List SqlColumn} {allowed : SqlExpr → Prop},
      ∀ entry ∈ derivedAliasMap scope columns, ∀ call ∈ entry.2.windowCalls, allowed call := by
    intro columns allowed entry member call inside
    rw [derivedAliasMap_windowless member] at inside
    cases inside
  unfold compileStatement at done
  split at done
  · simp only [compileSetOperation, bind_eq_ok_iff] at done
    obtain ⟨_, same, others, _, _, _, orderBy, ordered, limit, _, returned⟩ := done
    cases same
    cases returned
    refine ⟨placed, fun topN absurd => (by cases absurd), orderBy_windows ordered derivedNone,
      fun select _ _ => ?_⟩
    exact List.eq_nil_iff_forall_not_mem.mpr (orderBy_windows ordered derivedNone)
  · rw [bind_eq_ok_iff] at done
    obtain ⟨_, same, compiled⟩ := done
    cases same
    simp only [compileSingle, bind_eq_ok_iff] at compiled
    obtain ⟨topN, ranked, orderBy, ordered, limit, _, returned⟩ := compiled
    cases returned
    rw [sequenceOption_eq_ok_iff] at ranked
    -- An ORDER BY name stands for a column of the select list, or of the derived table.
    have named : ∀ {allowed : SqlExpr → Prop},
        (∀ entry ∈ body.aliasMap, ∀ call ∈ entry.2.windowCalls, allowed call) →
        ∀ call ∈ listWindowCalls orderBy, allowed call := by
      intro allowed each
      refine orderBy_windows ordered fun entry member => ?_
      split at member
      · exact derivedNone entry member
      · exact each entry member
    refine ⟨placed, fun found isRank => ?_, named fun entry member => ?_,
      fun select member aggregates => ?_⟩
    · change topN = some found at isRank
      rw [isRank, Option.map_some] at ranked
      obtain ⟨spec, present, applied⟩ := Option.map_eq_some_iff.mp ranked
      rw [stages.topN_windowless_iff valid rules applied]
      refine fun ref inSpec => apart.rank ref (List.mem_flatMap.mpr ⟨spec, ?_, inSpec⟩)
      rw [present]
      exact List.mem_singleton.mpr rfl
    · obtain ⟨column, inColumns, same⟩ := stages.alias_column member
      rw [same]
      exact stages.column_nested valid rules apart.arguments inColumns
    · rw [List.mem_singleton.mp member] at aggregates
      have grouped := stages.isAggregateScope_of_aggregates valid aggregates
      refine List.eq_nil_iff_forall_not_mem.mpr (named fun entry inMap call inside => ?_)
      rw [stages.alias_windowless valid rules grouped entry inMap] at inside
      cases inside

end BodyStages

end Scope

section Main

variable {context : CompileContext} {request : RequestContext} {schema : SchemaContext}
  {query : StructuredQuery} {policy effective : Policy} {scopeConnections : Option ScopeConnections}
  {snapshot : Option ConnectionResolver} {reflected : ReflectedQuery} {compiled : CompiledQuery}

/-- Both validations leave every scope with its window rules. -/
theorem windowRules_of_validated (valid : query.validate = .ok ())
    (accepted : validatePolicy request query policy scopeConnections snapshot = .ok effective)
    (validated : validateSchema schema query = .ok reflected) {path : ScopePath}
    {scope : StructuredQuery} (at_ : ScopeAt query path scope) : WindowRules scope := by
  obtain ⟨_, _, rules⟩ := validatePolicy_accepted accepted
  have inScopes := at_.mem_scopesOf
  have shaped := rules.scopes scope inScopes
  rw [validateScope, seq_eq_ok_iff] at shaped
  obtain ⟨_, covered⟩ := validateSchema_reflected validated
  obtain ⟨_, _, _, reflection⟩ := covered at_
  exact windowRules_of_checked
    (StructuredQuery.valid_of_validate (validate_of_mem_scopesOf valid inScopes)) shaped.1
    (scopeBinding_of_reflectScope reflection.bound).columns

@[simp] theorem Statement.orderBy_withoutLimit (statement : Statement) :
    statement.withoutLimit.orderBy = statement.orderBy := by
  cases statement
  rfl

theorem Statement.WindowsPlaced.withoutLimit {statement : Statement}
    (placed : statement.WindowsPlaced) : statement.withoutLimit.WindowsPlaced where
  arms := by
    rw [Statement.arms_withoutLimit]
    exact placed.arms
  rank := by
    rw [Statement.topN_withoutLimit]
    exact placed.rank
  nested := by
    rw [Statement.orderBy_withoutLimit]
    exact placed.nested
  aggregated := by
    rw [Statement.arms_withoutLimit, Statement.orderBy_withoutLimit]
    exact placed.aggregated

/-- **No nested or misplaced window.** In a compiled query that both validations accepted no
window call is nested in another, ranked by, or stands where SQL allows none, exactly if in
every scope no window projection has a window call in its argument and no reference of the rank
reaches an item with one. -/
theorem windowsPlaced_iff (valid : query.validate = .ok ())
    (accepted : validatePolicy request query policy scopeConnections snapshot = .ok effective)
    (validated : validateSchema schema query = .ok reflected)
    (same : context.scopeTables = reflected.scopeTables)
    (done : compileIn context query = .ok compiled) :
    (∀ found, compiled.Within found → found.WindowsPlaced) ↔
      ∀ path scope tables, ScopeAt query path scope →
        dictGet reflected.scopeTables path = some tables →
        WindowsApart (blocksAt context query path) path scope tables := by
  have validAt : ∀ {path scope}, ScopeAt query path scope → scope.Valid := fun at_ =>
    StructuredQuery.valid_of_validate (validate_of_mem_scopesOf valid at_.mem_scopesOf)
  have rulesAt : ∀ {path scope}, ScopeAt query path scope → WindowRules scope := fun at_ =>
    windowRules_of_validated valid accepted validated at_
  constructor
  · intro placed path scope tables at_ recorded
    obtain ⟨_, _, rules⟩ := validatePolicy_accepted accepted
    obtain ⟨found, within, boundTables, subqueries, body, bound, bodyOk, arm, rank⟩ :=
      compileIn_renders valid (topLevel_of_accepted rules.structural) done at_
    rw [same, recorded] at bound
    cases bound
    have stages := bodyStages_of_compiled bodyOk
    have here := placed found within
    refine ⟨(stages.select_windowsPlaced_iff (validAt at_) (rulesAt at_)).mp (here.arms _ arm),
      fun ref ranked => ?_⟩
    obtain ⟨spec, present, inSpec⟩ := List.mem_flatMap.mp ranked
    obtain ⟨topN, isRank, applied⟩ := rank spec (Option.mem_toList.mp present)
    exact (stages.topN_windowless_iff (validAt at_) (rulesAt at_) applied).mp
      (here.rank topN isRank) ref inSpec
  · intro apart found within
    have apartAt : ∀ {path scope objects tables subqueries body},
        ScopeCompilation context query path scope objects tables subqueries body →
        WindowsApart objects path scope tables := by
      intro path scope objects tables subqueries body run
      rw [run.blocks]
      exact apart path scope tables run.scopeAt (same ▸ run.bound)
    have selects : ∀ arm ∈ found.arms, arm.WindowsPlaced := by
      intro arm member
      obtain ⟨_, _, _, _, _, _, run, rfl⟩ := (compileIn_within valid done within).2 arm member
      exact ((bodyStages_of_compiled run.compiled).select_windowsPlaced_iff (validAt run.scopeAt)
        (rulesAt run.scopeAt)).mpr (apartAt run).arguments
    obtain ⟨_, _, _, _, _, _, arms, statement, run, statementOk, isStatement⟩ :=
      compileIn_compiledAt valid done within
    have stages := bodyStages_of_compiled run.compiled
    have whole : (∀ arm ∈ statement.arms, arm.WindowsPlaced) → statement.WindowsPlaced :=
      stages.statement_windowsPlaced (validAt run.scopeAt) (rulesAt run.scopeAt) (apartAt run)
        statementOk
    rcases isStatement with rfl | rfl
    · exact whole selects
    · rw [Statement.arms_withoutLimit] at selects
      exact (whole selects).withoutLimit

end Main

/-- `ROW_NUMBER() OVER (ORDER BY Customers.id)`. -/
def customerNumber : WindowCall where
  fn := .rowNumber
  over_ := { orderBy := [{ col := "Customers.id" }] }

/-- `SELECT SUM(ROW_NUMBER() OVER (ORDER BY Customers.id)) OVER (PARTITION BY Customers.tenant) AS
total, ROW_NUMBER() OVER (ORDER BY Customers.id) AS position FROM Customers`, ranked by `position`:
a window in the argument of a window projection, and a rank over a window. -/
def nestedTotals : StructuredQuery where
  fromTable := "Customers"
  select := [
    .window {
      fn := .sum
      over_ := { partitionBy := ["Customers.tenant"] }
      arg := some (.window customerNumber) } "total",
    .expression (.window customerNumber) "position"]
  topN := some { orderBy := [{ col := "position" }], n := 3 }

/-- `SELECT ROW_NUMBER() OVER (ORDER BY Customers.id) AS position, Customers.id AS key FROM
Customers`, ranked by `key`. -/
def numberedCustomers : StructuredQuery where
  fromTable := "Customers"
  select := [.window customerNumber "position", .expression (.column "Customers.id") "key"]
  topN := some { orderBy := [{ col := "key" }], n := 3 }

/-- Both validations accept the nested window and the rank over one, and both are compiled. -/
theorem nestedTotals_misplaced : nestedTotals.validate = .ok () ∧
    validatePolicy soleConnection nestedTotals {} none none = .ok {} ∧
    ∃ reflected compiled found, validateSchema shopSchema nestedTotals = .ok reflected ∧
      customersContext.scopeTables = reflected.scopeTables ∧
      compileIn customersContext nestedTotals = .ok compiled ∧ compiled.Within found ∧
      (∃ select ∈ found.arms, ¬ select.WindowsPlaced) ∧
      ∃ topN, found.topN = some topN ∧ topN.windowCalls ≠ [] := by
  have valid : nestedTotals.validate = .ok () := by decide +kernel
  have accepted : validatePolicy soleConnection nestedTotals {} none none = .ok {} := rfl
  obtain ⟨reflected, _, validated, same, _⟩ := exists_compilation nestedTotals
    (by decide +kernel) (by decide +kernel) rfl
  obtain ⟨compiled, done⟩ : ∃ compiled, compileIn customersContext nestedTotals = .ok compiled :=
    accepts_iff.mp (by decide +kernel)
  have root := ScopeAt.root nestedTotals
  obtain ⟨_, _, rules⟩ := validatePolicy_accepted accepted
  obtain ⟨found, within, tables, subqueries, body, bound, bodyOk, arm, rank⟩ :=
    compileIn_renders valid (topLevel_of_accepted rules.structural) done root
  obtain ⟨topN, isRank, applied⟩ := rank _ rfl
  have stages := bodyStages_of_compiled bodyOk
  have scopeValid := StructuredQuery.valid_of_validate valid
  have windowRules := windowRules_of_validated valid accepted validated root
  refine ⟨valid, accepted, reflected, compiled, found, validated, same, done, within,
    ⟨body.select, arm, fun placed => ?_⟩, topN, isRank, fun windowless => ?_⟩
  · have arguments := (stages.select_windowsPlaced_iff scopeValid windowRules).mp placed
    have flat := arguments _ (List.mem_cons_self ..)
    cases flat
  · have items := (stages.topN_windowless_iff scopeValid windowRules applied).mp windowless
      "position" (List.mem_singleton.mpr rfl) (.expression (.window customerNumber) "position") rfl
    cases items

/-- A window without one in its argument is placed, and so is the rank beside it. -/
theorem windowsPlaced_numberedCustomers : ∃ compiled,
    compileIn customersContext numberedCustomers = .ok compiled ∧
      ∀ found, compiled.Within found → found.WindowsPlaced := by
  obtain ⟨reflected, _, validated, same, _⟩ := exists_compilation numberedCustomers
    (by decide +kernel) (by decide +kernel) rfl
  obtain ⟨compiled, done⟩ : ∃ compiled,
      compileIn customersContext numberedCustomers = .ok compiled :=
    accepts_iff.mp (by decide +kernel)
  have accepted : validatePolicy soleConnection numberedCustomers {} none none = .ok {} := rfl
  refine ⟨compiled, done, (windowsPlaced_iff (by decide +kernel) accepted validated same done).mpr
    fun path scope tables at_ recorded => ?_⟩
  rw [ScopeAt, scopeTree_eq] at at_
  cases at_ with
  | inside member _ => cases member
  | here =>
      refine ⟨fun call member => ?_, fun ref ranked item held => ?_⟩
      · rw [List.mem_singleton.mp member]
        rfl
      · rw [List.mem_singleton.mp ranked] at held
        cases held
        rfl

end QueryGate
