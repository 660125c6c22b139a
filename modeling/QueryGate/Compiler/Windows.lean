import QueryGate.Compiler.Stages

/-! # The window calls of compiled clauses

`SqlExpr.windowCalls` lists the window calls inside a compiled expression, outermost first. A
compiled expression holds exactly the compiled window calls of its source, in the order of the
expression walk; an output name stands for the windows of the item it names.
-/

namespace QueryGate

open Foundation

mutual

/-- The window calls inside an expression. -/
def SqlExpr.windowCalls : SqlExpr → List SqlExpr
  | .column _ _ _ => []
  | .literal _ => []
  | .value _ => []
  | .binary _ left right => left.windowCalls ++ right.windowCalls
  | .function _ args => listWindowCalls args
  | .aggregate _ _ args => listWindowCalls args
  | .cast operand _ => operand.windowCalls
  | .adapter _ args => listWindowCalls args
  | .case whens else_ => whenWindowCalls whens ++ optionWindowCalls else_
  | .window fn args partitionBy orderBy frame =>
      .window fn args partitionBy orderBy frame ::
        (listWindowCalls args ++ listWindowCalls partitionBy ++ listWindowCalls orderBy)
  | .output _ target => target.windowCalls
  | .derived _ _ => []
termination_by structural expr => expr

/-- The window calls inside a list of expressions. -/
def listWindowCalls : List SqlExpr → List SqlExpr
  | [] => []
  | expr :: rest => expr.windowCalls ++ listWindowCalls rest
termination_by structural exprs => exprs

/-- The window calls inside an optional expression. -/
def optionWindowCalls : Option SqlExpr → List SqlExpr
  | none => []
  | some expr => expr.windowCalls
termination_by structural expr => expr

/-- The window calls inside CASE branches. -/
def whenWindowCalls : List SqlWhen → List SqlExpr
  | [] => []
  | branch :: rest => branchWindowCalls branch ++ whenWindowCalls rest
termination_by structural whens => whens

/-- The window calls inside one CASE branch. -/
def branchWindowCalls : SqlWhen → List SqlExpr
  | .mk when_ then_ => when_.windowCalls ++ then_.windowCalls
termination_by structural branch => branch

/-- The window calls inside a condition, its nested statements apart. -/
def SqlCondition.windowCalls : SqlCondition → List SqlExpr
  | .test _ operands _ => listWindowCalls operands
  | .equal left right => left.windowCalls ++ right.windowCalls
  | .rowFilter _ _ _ => []
  | .countAtLeast _ => []
  | .always => []
  | .and terms => conditionWindowCalls terms
  | .or terms => conditionWindowCalls terms
  | .not term => term.windowCalls
termination_by structural condition => condition

/-- The window calls inside a list of conditions. -/
def conditionWindowCalls : List SqlCondition → List SqlExpr
  | [] => []
  | condition :: rest => condition.windowCalls ++ conditionWindowCalls rest
termination_by structural conditions => conditions

end

theorem listWindowCalls_eq_flatMap (exprs : List SqlExpr) :
    listWindowCalls exprs = exprs.flatMap SqlExpr.windowCalls := by
  induction exprs with
  | nil => rfl
  | cons expr rest ih =>
      rw [listWindowCalls, ih]
      rfl

theorem listWindowCalls_eq_nil_iff {exprs : List SqlExpr} :
    listWindowCalls exprs = [] ↔ ∀ expr ∈ exprs, expr.windowCalls = [] := by
  rw [listWindowCalls_eq_flatMap, List.flatMap_eq_nil_iff]

theorem listWindowCalls_singleton (expr : SqlExpr) :
    listWindowCalls [expr] = expr.windowCalls := by
  rw [listWindowCalls, listWindowCalls, List.append_nil]

theorem conditionWindowCalls_eq_nil_iff {conditions : List SqlCondition} :
    conditionWindowCalls conditions = [] ↔
      ∀ condition ∈ conditions, condition.windowCalls = [] := by
  have flat : conditionWindowCalls conditions = conditions.flatMap SqlCondition.windowCalls := by
    induction conditions with
    | nil => rfl
    | cons condition rest ih =>
        rw [conditionWindowCalls, ih]
        rfl
  rw [flat, List.flatMap_eq_nil_iff]

/-- The window calls inside what a window call is computed from: its arguments, its partition
columns and its ordering. -/
def SqlExpr.innerWindows : SqlExpr → List SqlExpr
  | .window _ args partitionBy orderBy _ =>
      listWindowCalls args ++ listWindowCalls partitionBy ++ listWindowCalls orderBy
  | _ => []

/-- The window calls among the parts of an expression walk. -/
def partWindows (parts : List ExpressionPart) : List WindowCall :=
  (parts.filterMap ExpressionPart.node?).filterMap Expression.window?

@[simp] theorem partWindows_append (first second : List ExpressionPart) :
    partWindows (first ++ second) = partWindows first ++ partWindows second := by
  rw [partWindows, List.filterMap_append, List.filterMap_append]
  rfl

theorem expressionWindows_eq (expr : Expression) :
    expressionWindows expr = partWindows (iterExpressionParts 1 expr) :=
  rfl

section Leaves

variable {adapter : DialectAdapter} {tables : Tables} {aliasMap : AliasMap}

theorem columnExpr_windowCalls {ref : String} {expr : SqlExpr}
    (compiled : columnExpr tables ref = .ok expr) : expr.windowCalls = [] := by
  obtain ⟨_, _, _, rfl⟩ := columnExpr_eq_ok compiled
  rfl

theorem adapterCall_windowCalls {method : AdapterMethod} {args : List SqlExpr} {expr : SqlExpr}
    (compiled : adapterCall adapter method args = .ok expr) :
    expr.windowCalls = listWindowCalls args := by
  rw [adapterCall_eq_ok compiled, SqlExpr.windowCalls]

theorem functionCall_windowCalls {fn : ExprFn} {args : List SqlExpr} {expr : SqlExpr}
    (compiled : functionCall adapter fn args = .ok expr) :
    expr.windowCalls = listWindowCalls args := by
  unfold functionCall at compiled
  split at compiled
  · cases compiled
    rw [SqlExpr.windowCalls]
  · exact adapterCall_windowCalls compiled

theorem scalarCall_windowCalls {call : ScalarFunctionCall} {expr : SqlExpr}
    (compiled : scalarCall tables call = .ok expr) : expr.windowCalls = [] := by
  rw [scalarCall, bind_eq_ok_iff] at compiled
  obtain ⟨args, mapped, returned⟩ := compiled
  cases returned
  rw [SqlExpr.windowCalls, listWindowCalls_eq_nil_iff]
  intro arg member
  obtain ⟨source, _, resolved⟩ := mapAll_preimage mapped member
  cases source with
  | col ref => exact columnExpr_windowCalls resolved
  | literal value =>
      cases resolved
      rfl

theorem windowOrderTerm_windowCalls {order : OrderBySpec} {expr : SqlExpr}
    (compiled : windowOrderTerm adapter tables order = .ok expr) : expr.windowCalls = [] := by
  rw [windowOrderTerm, bind_eq_ok_iff] at compiled
  obtain ⟨column, resolved, called⟩ := compiled
  rw [adapterCall_windowCalls called, listWindowCalls_singleton]
  exact columnExpr_windowCalls resolved

/-- A window call is computed from the windows of its argument only. -/
theorem windowCallExpr_windowCalls {fn : WindowFn} {over_ : WindowSpec} {arg : Option SqlExpr}
    {offset buckets : Option Int} {expr : SqlExpr}
    (compiled : windowCallExpr adapter tables fn over_ arg offset buckets = .ok expr) :
    expr.windowCalls = expr :: optionWindowCalls arg ∧
      expr.innerWindows = optionWindowCalls arg := by
  simp only [windowCallExpr, bind_eq_ok_iff] at compiled
  obtain ⟨_, _, partitionBy, partitioned, orderBy, ordered, returned⟩ := compiled
  cases returned
  have noPartition : listWindowCalls partitionBy = [] := by
    rw [listWindowCalls_eq_nil_iff]
    intro inner member
    obtain ⟨_, _, resolved⟩ := mapAll_preimage partitioned member
    exact columnExpr_windowCalls resolved
  have noOrder : listWindowCalls orderBy = [] := by
    rw [listWindowCalls_eq_nil_iff]
    intro inner member
    obtain ⟨_, _, resolved⟩ := mapAll_preimage ordered member
    exact windowOrderTerm_windowCalls resolved
  have parameters : listWindowCalls (windowParameters fn offset buckets) = [] := by
    rw [listWindowCalls_eq_nil_iff]
    intro inner member
    rw [windowParameters, List.mem_append] at member
    rcases member with bucket | amount
    · split at bucket
      · rw [List.mem_singleton.mp bucket]
        rfl
      · cases bucket
    · obtain ⟨_, _, rfl⟩ := List.mem_map.mp amount
      rfl
  have args : listWindowCalls (arg.toList ++ windowParameters fn offset buckets) =
      optionWindowCalls arg := by
    rw [listWindowCalls_eq_flatMap] at parameters ⊢
    rw [List.flatMap_append, parameters, List.append_nil]
    cases arg with
    | none => rfl
    | some inner => exact List.flatMap_singleton _ _
  rw [SqlExpr.windowCalls, SqlExpr.innerWindows, args, noPartition, noOrder, List.append_nil,
    List.append_nil]
  exact ⟨rfl, rfl⟩

theorem aliasTarget_windowCalls (silent : ∀ entry ∈ aliasMap, entry.2.windowCalls = [])
    {ref : String} {expr : SqlExpr} (compiled : aliasTarget aliasMap ref = .ok expr) :
    expr.windowCalls = [] := by
  unfold aliasTarget at compiled
  split at compiled
  · rename_i target found
    cases compiled
    rw [SqlExpr.windowCalls]
    exact silent _ (dictGet_eq_some_mem found)
  · cases compiled

end Leaves

/-- Compiled window calls are those of the source calls, one for one; the source calls are
valid. -/
def WindowsCompiled (adapter : DialectAdapter) (tables : Tables) (calls : List WindowCall)
    (compiled : List SqlExpr) : Prop :=
  List.Forall₂ (fun call expr => call.validate = .ok () ∧
    compileWindow adapter tables call = .ok expr) calls compiled

section Compiled

variable {adapter : DialectAdapter} {tables : Tables}

theorem WindowsCompiled.nil : WindowsCompiled adapter tables [] [] :=
  List.Forall₂.nil

theorem WindowsCompiled.append {calls more : List WindowCall} {compiled others : List SqlExpr}
    (first : WindowsCompiled adapter tables calls compiled)
    (second : WindowsCompiled adapter tables more others) :
    WindowsCompiled adapter tables (calls ++ more) (compiled ++ others) :=
  List.rel_append first second

/-- Nothing is compiled to a window that was none. -/
theorem WindowsCompiled.eq_nil_iff {calls : List WindowCall} {compiled : List SqlExpr}
    (both : WindowsCompiled adapter tables calls compiled) : compiled = [] ↔ calls = [] := by
  rw [← List.length_eq_zero_iff, ← List.length_eq_zero_iff, both.length_eq]

/-- Every compiled window call has a source. -/
theorem WindowsCompiled.source {calls : List WindowCall} {compiled : List SqlExpr}
    (both : WindowsCompiled adapter tables calls compiled) {expr : SqlExpr}
    (member : expr ∈ compiled) :
    ∃ call ∈ calls, call.validate = .ok () ∧ compileWindow adapter tables call = .ok expr := by
  induction both with
  | nil => cases member
  | cons first _ ih =>
      rcases List.mem_cons.mp member with rfl | later
      · exact ⟨_, List.mem_cons_self .., first⟩
      · obtain ⟨call, inRest, found⟩ := ih later
        exact ⟨call, List.mem_cons_of_mem _ inRest, found⟩

/-- The left-hand side of a predicate holds the windows of its expression. -/
theorem resolvePredicateTarget_windows {aliasMap : AliasMap} {expr : Option Expression}
    {colFn : Option ScalarFunctionCall} {col : Option String} {target : SqlExpr} {depth : Nat}
    (silent : ∀ entry ∈ aliasMap, entry.2.windowCalls = [])
    (compiled : resolvePredicateTarget tables aliasMap (compileOptional adapter tables expr) colFn
      col = .ok target)
    (expression : ∀ inner, compileOptional adapter tables expr = some (.ok inner) →
      WindowsCompiled adapter tables (partWindows (optionParts depth expr)) inner.windowCalls) :
    WindowsCompiled adapter tables (partWindows (optionParts depth expr)) target.windowCalls := by
  cases expr with
  | some expr =>
      rw [compileOptional, resolvePredicateTarget] at compiled
      refine expression target ?_
      rw [compileOptional, compiled]
  | none =>
      have noWindows : target.windowCalls = [] := by
        cases colFn with
        | some call =>
            rw [compileOptional, resolvePredicateTarget] at compiled
            exact scalarCall_windowCalls compiled
        | none =>
            rw [compileOptional, resolvePredicateTarget] at compiled
            unfold predicateColumn at compiled
            split at compiled
            · cases compiled
            · split at compiled
              · exact columnExpr_windowCalls compiled
              · exact aliasTarget_windowCalls silent compiled
      rw [noWindows]
      exact .nil

/-- The right-hand side holds the windows of its own expression. -/
theorem predicateOperand_windows {value : Value} {valueCol : Option String}
    {valueExpr : Option Expression} {operand : SqlExpr} {depth : Nat}
    (compiled : predicateOperand tables value valueCol (compileOptional adapter tables valueExpr) =
      .ok operand)
    (one : valueCol.isSome = true → valueExpr = none)
    (expression : ∀ inner, compileOptional adapter tables valueExpr = some (.ok inner) →
      WindowsCompiled adapter tables (partWindows (optionParts depth valueExpr))
        inner.windowCalls) :
    WindowsCompiled adapter tables (partWindows (optionParts depth valueExpr))
      operand.windowCalls := by
  cases valueCol with
  | some ref =>
      rw [predicateOperand] at compiled
      rw [one rfl, columnExpr_windowCalls compiled]
      exact .nil
  | none =>
      cases valueExpr with
      | some expr =>
          rw [compileOptional, predicateOperand] at compiled
          refine expression operand ?_
          rw [compileOptional, compiled]
      | none =>
          rw [compileOptional, predicateOperand] at compiled
          cases compiled
          exact .nil

end Compiled

/-- What the value shape of an accepted predicate leaves of its right-hand side. -/
theorem validateValueShape_sources {pred : Predicate} (valid : pred.validateValueShape = .ok ()) :
    (pred.valueCol.isSome = true → pred.valueExpr = none) ∧
      (pred.valueSubquery.isSome = true → pred.valueExpr = none) ∧
      (pred.op.isExists = true → pred.valueExpr = none ∧ pred.valueSubquery = none) := by
  unfold Predicate.validateValueShape at valid
  cases set : pred.value.isSet <;> cases valueCol : pred.valueCol <;>
    cases valueExpr : pred.valueExpr <;> cases valueSubquery : pred.valueSubquery <;>
    cases exists_ : pred.op.isExists <;> cases nullTest : pred.op.isNullTest <;>
    simp [set, valueCol, valueExpr, valueSubquery, exists_, nullTest, seq_eq_ok_iff] at valid ⊢

/-- An EXISTS predicate has nothing on its left-hand side. -/
theorem validateColShape_exists {pred : Predicate} (valid : pred.validateColShape = .ok ())
    (exists_ : pred.op.isExists = true) : pred.expr = none ∧ pred.existsSubquery.isSome = true := by
  rw [Predicate.validateColShape, if_pos exists_, seq_eq_ok_iff, refuse_eq_ok_iff,
    refuse_eq_ok_iff] at valid
  obtain ⟨sides, present⟩ := valid
  simp only [Bool.or_eq_false_iff, Option.isSome_eq_false_iff, Option.isNone_iff_eq_none] at sides
  refine ⟨sides.2, ?_⟩
  rw [← Option.not_isNone, present]
  rfl

section Walk

variable (adapter : DialectAdapter) (tables : Tables)

mutual

/-- A compiled expression holds the compiled window calls of its source. -/
theorem compileExpression_windows : ∀ (expr : Expression) (depth : Nat) (compiled : SqlExpr),
    expr.validate = .ok () → compileExpression adapter tables expr = .ok compiled →
    WindowsCompiled adapter tables (partWindows (iterExpressionParts depth expr))
      compiled.windowCalls
  | .column col => fun depth compiled _ done => by
      rw [compileExpression] at done
      rw [columnExpr_windowCalls done]
      exact .nil
  | .literal value => fun depth compiled _ done => by
      rw [compileExpression] at done
      cases done
      exact .nil
  | .now kind => fun depth compiled _ done => by
      rw [compileExpression] at done
      rw [adapterCall_windowCalls done]
      exact .nil
  | .binaryOp op left right => fun depth compiled valid done => by
      rw [Expression.validate, seq_eq_ok_iff] at valid
      simp only [compileExpression, bind_eq_ok_iff] at done
      obtain ⟨leftExpr, leftDone, rightExpr, rightDone, returned⟩ := done
      cases returned
      have both := (compileExpression_windows left (depth + 1) leftExpr valid.1 leftDone).append
        (compileExpression_windows right (depth + 1) rightExpr valid.2 rightDone)
      rw [← partWindows_append] at both
      rw [iterExpressionParts, SqlExpr.windowCalls]
      exact both
  | .function fn args => fun depth compiled valid done => by
      rw [Expression.validate, seq_eq_ok_iff] at valid
      rw [compileExpression, bind_eq_ok_iff] at done
      obtain ⟨argExprs, argsDone, called⟩ := done
      rw [iterExpressionParts, functionCall_windowCalls called]
      exact compileArguments_windows args (depth + 1) argExprs valid.1 argsDone
  | .cast operand target => fun depth compiled valid done => by
      rw [Expression.validate] at valid
      rw [compileExpression, bind_eq_ok_iff] at done
      obtain ⟨inner, innerDone, returned⟩ := done
      cases returned
      rw [iterExpressionParts, SqlExpr.windowCalls]
      exact compileExpression_windows operand (depth + 1) inner valid innerDone
  | .extract operand part => fun depth compiled valid done => by
      rw [Expression.validate] at valid
      rw [compileExpression, bind_eq_ok_iff] at done
      obtain ⟨inner, innerDone, called⟩ := done
      rw [iterExpressionParts, adapterCall_windowCalls called, listWindowCalls_singleton]
      exact compileExpression_windows operand (depth + 1) inner valid innerDone
  | .dateAdd operand unit amount => fun depth compiled valid done => by
      rw [Expression.validate, seq_eq_ok_iff] at valid
      rw [compileExpression, bind_eq_ok_iff] at done
      obtain ⟨inner, innerDone, called⟩ := done
      rw [iterExpressionParts, adapterCall_windowCalls called, listWindowCalls_singleton]
      exact compileExpression_windows operand (depth + 1) inner valid.1 innerDone
  | .window call => fun depth compiled valid done => by
      rw [Expression.validate] at valid
      rw [compileExpression] at done
      obtain ⟨calls, within⟩ := compileWindow_windows call (depth + 1) compiled valid done
      rw [iterExpressionParts, calls]
      exact .cons ⟨valid, done⟩ within
  | .case when_ else_ => fun depth compiled valid done => by
      simp only [Expression.validate, seq_eq_ok_iff] at valid
      simp only [compileExpression, bind_eq_ok_iff] at done
      obtain ⟨whens, whensDone, elseValue, elseDone, returned⟩ := done
      cases returned
      rw [sequenceOption_eq_ok_iff] at elseDone
      have both := (compileBranches_windows when_ depth whens valid.1 whensDone).append
        (compileOptional_windows else_ (depth + 1) elseValue valid.2.2 elseDone)
      rw [← partWindows_append] at both
      rw [iterExpressionParts, SqlExpr.windowCalls]
      exact both
termination_by structural expr => expr

theorem compileArguments_windows : ∀ (args : List Expression) (depth : Nat)
    (compiled : List SqlExpr), validateExpressions args = .ok () →
    compileArguments adapter tables args = .ok compiled →
    WindowsCompiled adapter tables (partWindows (argumentParts depth args))
      (listWindowCalls compiled)
  | [] => fun depth compiled _ done => by
      rw [compileArguments] at done
      cases done
      exact .nil
  | arg :: rest => fun depth compiled valid done => by
      rw [validateExpressions, seq_eq_ok_iff] at valid
      simp only [compileArguments, bind_eq_ok_iff] at done
      obtain ⟨first, firstDone, others, othersDone, returned⟩ := done
      cases returned
      rw [argumentParts, partWindows_append, listWindowCalls]
      exact (compileExpression_windows arg depth first valid.1 firstDone).append
        (compileArguments_windows rest depth others valid.2 othersDone)
termination_by structural args => args

theorem compileOptional_windows : ∀ (expr : Option Expression) (depth : Nat)
    (compiled : Option SqlExpr), validateOptionExpression expr = .ok () →
    compileOptional adapter tables expr = compiled.map .ok →
    WindowsCompiled adapter tables (partWindows (optionParts depth expr))
      (optionWindowCalls compiled)
  | none => fun depth compiled _ done => by
      rw [compileOptional] at done
      cases compiled with
      | none => exact .nil
      | some inner => cases done
  | some expr => fun depth compiled valid done => by
      rw [validateOptionExpression] at valid
      rw [compileOptional] at done
      cases compiled with
      | none => cases done
      | some inner =>
          rw [Option.map_some, Option.some.injEq] at done
          rw [optionParts, optionWindowCalls]
          exact compileExpression_windows expr depth inner valid done
termination_by structural expr => expr

/-- A compiled window call stands before the windows of its argument, and is computed from
these only. -/
theorem compileWindow_windows : ∀ (call : WindowCall) (depth : Nat) (compiled : SqlExpr),
    call.validate = .ok () → compileWindow adapter tables call = .ok compiled →
    compiled.windowCalls = compiled :: compiled.innerWindows ∧
      WindowsCompiled adapter tables (partWindows (windowParts depth call)) compiled.innerWindows
  | ⟨fn, over_, arg, offset, buckets⟩ => fun depth compiled valid done => by
      simp only [WindowCall.validate, seq_eq_ok_iff] at valid
      rw [compileWindow, bind_eq_ok_iff] at done
      obtain ⟨argExpr, argDone, called⟩ := done
      rw [sequenceOption_eq_ok_iff] at argDone
      obtain ⟨calls, inner⟩ := windowCallExpr_windowCalls called
      have within := compileOptional_windows arg depth argExpr valid.2.1 argDone
      rw [windowParts, inner, calls]
      exact ⟨rfl, within⟩
termination_by structural call => call

theorem compileBranches_windows : ∀ (branches : List CaseWhen) (depth : Nat)
    (compiled : List SqlWhen), validateBranches branches = .ok () →
    compileBranches adapter tables branches = .ok compiled →
    WindowsCompiled adapter tables (partWindows (branchParts depth branches))
      (whenWindowCalls compiled)
  | [] => fun depth compiled _ done => by
      rw [compileBranches] at done
      cases done
      exact .nil
  | branch :: rest => fun depth compiled valid done => by
      rw [validateBranches, seq_eq_ok_iff] at valid
      simp only [compileBranches, bind_eq_ok_iff] at done
      obtain ⟨first, firstDone, others, othersDone, returned⟩ := done
      cases returned
      rw [branchParts, partWindows_append, whenWindowCalls]
      exact (compileBranch_windows branch depth first valid.1 firstDone).append
        (compileBranches_windows rest depth others valid.2 othersDone)
termination_by structural branches => branches

theorem compileBranch_windows : ∀ (branch : CaseWhen) (depth : Nat) (compiled : SqlWhen),
    branch.validate = .ok () → compileBranch adapter tables branch = .ok compiled →
    WindowsCompiled adapter tables (partWindows (caseWhenParts depth branch))
      (branchWindowCalls compiled)
  | ⟨when_, then_⟩ => fun depth compiled valid done => by
      rw [CaseWhen.validate, seq_eq_ok_iff] at valid
      simp only [compileBranch, bind_eq_ok_iff] at done
      obtain ⟨condition, conditionDone, value, valueDone, returned⟩ := done
      cases returned
      have both := (compileWhere_windows [] none (fun entry absurd => by cases absurd) when_
          (depth + 1) 0 condition valid.1 conditionDone).append
        (compileExpression_windows then_ (depth + 1) value valid.2 valueDone)
      rw [← partWindows_append] at both
      rw [caseWhenParts, branchWindowCalls]
      exact both
termination_by structural branch => branch

/-- A compiled condition holds the windows of the expressions its predicates carry, where the
output names it may read hold none. -/
theorem compileWhere_windows (aliasMap : AliasMap) (ctx : Option WhereCtx)
    (silent : ∀ entry ∈ aliasMap, entry.2.windowCalls = []) :
    ∀ (node : WhereNode) (depth index : Nat) (compiled : SqlCondition),
    node.validate = .ok () → compileWhere adapter tables aliasMap ctx index node = .ok compiled →
    WindowsCompiled adapter tables (partWindows (whereParts depth node)) compiled.windowCalls
  | .predicate pred => fun depth index compiled valid done => by
      rw [WhereNode.validate] at valid
      rw [compileWhere] at done
      rw [whereParts]
      exact compilePredicate_windows aliasMap ctx silent pred depth index compiled valid done
  | .group andTerms orTerms (some node) => fun depth index compiled valid done => by
      simp only [WhereNode.validate, seq_eq_ok_iff, validateOptionNode] at valid
      rw [compileWhere, bind_eq_ok_iff] at done
      obtain ⟨term, termDone, returned⟩ := done
      cases returned
      rw [whereParts, SqlCondition.windowCalls]
      exact compileWhere_windows aliasMap ctx silent node depth index term valid.2.2.1 termDone
  | .group andTerms orTerms none => fun depth index compiled valid done => by
      simp only [WhereNode.validate, seq_eq_ok_iff] at valid
      obtain ⟨validAnd, validOr, _⟩ := valid
      rw [compileWhere, bind_eq_ok_iff] at done
      obtain ⟨terms, termsDone, returned⟩ := done
      cases returned
      have inTerms : WindowsCompiled adapter tables
          (partWindows (whereParts depth (.group andTerms orTerms none)))
          (conditionWindowCalls terms) := by
        rw [whereParts]
        by_cases truthy : truthyTerms andTerms = true
        · simp only [truthy, ↓reduceIte] at termsDone ⊢
          exact compileTerms_windows aliasMap ctx silent andTerms depth index terms validAnd
            termsDone
        · simp only [truthy] at termsDone ⊢
          exact compileTerms_windows aliasMap ctx silent orTerms depth index terms validOr termsDone
      split
      · rw [SqlCondition.windowCalls]
        exact inTerms
      · rw [SqlCondition.windowCalls]
        exact inTerms
termination_by structural node => node

theorem compileTerms_windows (aliasMap : AliasMap) (ctx : Option WhereCtx)
    (silent : ∀ entry ∈ aliasMap, entry.2.windowCalls = []) :
    ∀ (nodes : Option (List WhereNode)) (depth index : Nat) (compiled : List SqlCondition),
    validateOptionNodes nodes = .ok () →
    compileTerms adapter tables aliasMap ctx index nodes = .ok compiled →
    WindowsCompiled adapter tables (partWindows (termParts depth nodes))
      (conditionWindowCalls compiled)
  | none => fun depth index compiled _ done => by
      rw [compileTerms] at done
      cases done
      exact .nil
  | some nodes => fun depth index compiled valid done => by
      rw [validateOptionNodes] at valid
      rw [compileTerms] at done
      rw [termParts]
      exact compileNodes_windows aliasMap ctx silent nodes depth index compiled valid done
termination_by structural nodes => nodes

theorem compileNodes_windows (aliasMap : AliasMap) (ctx : Option WhereCtx)
    (silent : ∀ entry ∈ aliasMap, entry.2.windowCalls = []) :
    ∀ (nodes : List WhereNode) (depth index : Nat) (compiled : List SqlCondition),
    validateNodes nodes = .ok () →
    compileNodes adapter tables aliasMap ctx index nodes = .ok compiled →
    WindowsCompiled adapter tables (partWindows (nodeParts depth nodes))
      (conditionWindowCalls compiled)
  | [] => fun depth index compiled _ done => by
      rw [compileNodes] at done
      cases done
      exact .nil
  | node :: rest => fun depth index compiled valid done => by
      rw [validateNodes, seq_eq_ok_iff] at valid
      simp only [compileNodes, bind_eq_ok_iff] at done
      obtain ⟨first, firstDone, others, othersDone, returned⟩ := done
      cases returned
      rw [nodeParts, partWindows_append, conditionWindowCalls]
      exact (compileWhere_windows aliasMap ctx silent node depth index first valid.1
        firstDone).append (compileNodes_windows aliasMap ctx silent rest depth _ others valid.2
          othersDone)
termination_by structural nodes => nodes

theorem compilePredicate_windows (aliasMap : AliasMap) (ctx : Option WhereCtx)
    (silent : ∀ entry ∈ aliasMap, entry.2.windowCalls = []) :
    ∀ (pred : Predicate) (depth index : Nat) (compiled : SqlCondition),
    pred.validate = .ok () →
    compilePredicate adapter tables aliasMap ctx index pred = .ok compiled →
    WindowsCompiled adapter tables (partWindows (predicateParts depth pred)) compiled.windowCalls
  | ⟨col, expr, colFn, op, value, valueCol, valueExpr, valueSubquery, existsSubquery⟩ =>
    fun depth index compiled valid done => by
      simp only [Predicate.validate, seq_eq_ok_iff] at valid
      obtain ⟨validExpr, _, validValue, _, _, colShape, valueShape⟩ := valid
      obtain ⟨oneColumn, oneSubquery, noSources⟩ := validateValueShape_sources valueShape
      rw [compilePredicate] at done
      rw [predicateParts, partWindows_append]
      split at done
      · rename_i exists_
        obtain ⟨inner, _, rfl⟩ := compileExists_eq_ok done
        obtain ⟨rfl, _⟩ := validateColShape_exists colShape exists_
        obtain ⟨rfl, _⟩ := noSources exists_
        exact .nil
      · rw [bind_eq_ok_iff] at done
        obtain ⟨target, targetDone, rest⟩ := done
        have left : WindowsCompiled adapter tables (partWindows (optionParts depth expr))
            target.windowCalls :=
          resolvePredicateTarget_windows silent targetDone fun inner compiledInner =>
            compileOptional_windows expr depth (some inner) validExpr compiledInner
        split at rest
        · rename_i subquery
          rw [bind_eq_ok_iff] at rest
          obtain ⟨subselect, _, returned⟩ := rest
          cases returned
          obtain rfl := oneSubquery subquery
          rw [SqlCondition.windowCalls, listWindowCalls_singleton]
          exact (List.append_nil (partWindows (optionParts depth expr))).symm ▸ left
        · rw [bind_eq_ok_iff] at rest
          obtain ⟨operand, operandDone, returned⟩ := rest
          cases returned
          have right : WindowsCompiled adapter tables (partWindows (optionParts depth valueExpr))
              operand.windowCalls :=
            predicateOperand_windows operandDone oneColumn fun inner compiledInner =>
              compileOptional_windows valueExpr depth (some inner) validValue compiledInner
          rw [SqlCondition.windowCalls, listWindowCalls, listWindowCalls_singleton]
          exact left.append right
termination_by structural pred => pred

end

end Walk

end QueryGate
