import QueryGate.Audit.QueryShape

/-! # The audited shape carries no literal

`eraseLiterals` blanks every literal a caller can write, at any depth of any
scope. The shape is a function of what is left
(`normalizeQueryShape_eraseLiterals`), so two queries that differ only in
literals have one shape.
-/

namespace QueryGate

open Foundation

/-- A predicate's literal, reduced to its presence. -/
def Value.eraseLiteral : Value → Value
  | .null => .null
  | _ => .bool true

/-- A scalar function's argument without its literal. -/
def ScalarFunctionArg.eraseLiteral : ScalarFunctionArg → ScalarFunctionArg
  | .col ref => .col ref
  | .literal _ => .literal .null

/-- A scalar function call without its literals. -/
def ScalarFunctionCall.eraseLiterals (call : ScalarFunctionCall) : ScalarFunctionCall :=
  { call with args := call.args.map ScalarFunctionArg.eraseLiteral }

/-- A frame bound without its offset. -/
def WindowBound.eraseOffset (bound : WindowBound) : WindowBound :=
  { bound with offset := none }

/-- A frame without its offsets. -/
def WindowFrame.eraseOffsets (frame : WindowFrame) : WindowFrame :=
  { frame with start := frame.start.eraseOffset, stop := frame.stop.eraseOffset }

/-- An OVER clause without its frame offsets. -/
def WindowSpec.eraseOffsets (spec : WindowSpec) : WindowSpec :=
  { spec with frame := spec.frame.map WindowFrame.eraseOffsets }

mutual

/-- An expression without its literals. -/
def Expression.eraseLiterals : Expression → Expression
  | .column col => .column col
  | .literal _ => .literal .null
  | .binaryOp op left right => .binaryOp op left.eraseLiterals right.eraseLiterals
  | .function fn args => .function fn (eraseExpressions args)
  | .cast operand target => .cast operand.eraseLiterals target
  | .case when_ else_ => .case (eraseBranches when_) (eraseOptionExpression else_)
  | .extract operand part => .extract operand.eraseLiterals part
  | .now kind => .now kind
  | .dateAdd operand unit _ => .dateAdd operand.eraseLiterals unit 0
  | .window call => .window call.eraseLiterals
termination_by structural expr => expr

def eraseExpressions : List Expression → List Expression
  | [] => []
  | expr :: rest => expr.eraseLiterals :: eraseExpressions rest
termination_by structural exprs => exprs

def eraseOptionExpression : Option Expression → Option Expression
  | none => none
  | some expr => some expr.eraseLiterals
termination_by structural expr => expr

/-- A window call without its distance, bucket count and frame offsets. -/
def WindowCall.eraseLiterals : WindowCall → WindowCall
  | ⟨fn, over_, arg, _, _⟩ => ⟨fn, over_.eraseOffsets, eraseOptionExpression arg, none, none⟩
termination_by structural call => call

def CaseWhen.eraseLiterals : CaseWhen → CaseWhen
  | ⟨when_, then_⟩ => ⟨when_.eraseLiterals, then_.eraseLiterals⟩
termination_by structural branch => branch

def eraseBranches : List CaseWhen → List CaseWhen
  | [] => []
  | branch :: rest => branch.eraseLiterals :: eraseBranches rest
termination_by structural branches => branches

/-- A boolean tree without its literals. -/
def WhereNode.eraseLiterals : WhereNode → WhereNode
  | .predicate pred => .predicate pred.eraseLiterals
  | .group andTerms orTerms notTerms =>
      .group (eraseTerms andTerms) (eraseTerms orTerms) (eraseOptionNode notTerms)
termination_by structural node => node

def eraseTerms : Option (List WhereNode) → Option (List WhereNode)
  | none => none
  | some nodes => some (eraseNodes nodes)
termination_by structural nodes => nodes

def eraseNodes : List WhereNode → List WhereNode
  | [] => []
  | node :: rest => node.eraseLiterals :: eraseNodes rest
termination_by structural nodes => nodes

def eraseOptionNode : Option WhereNode → Option WhereNode
  | none => none
  | some node => some node.eraseLiterals
termination_by structural node => node

/-- A predicate without its literals. -/
def Predicate.eraseLiterals : Predicate → Predicate
  | ⟨col, expr, colFn, op, value, valueCol, valueExpr, valueSubquery, existsSubquery⟩ =>
      ⟨col, eraseOptionExpression expr, colFn.map ScalarFunctionCall.eraseLiterals, op,
        value.eraseLiteral, valueCol, eraseOptionExpression valueExpr,
        eraseOptionQuery valueSubquery, eraseOptionQuery existsSubquery⟩
termination_by structural pred => pred

/-- A select item without its literals. -/
def SelectItem.eraseLiterals : SelectItem → SelectItem
  | .bare ref => .bare ref
  | .aggregate fn col arg distinct alias_ =>
      .aggregate fn col (eraseOptionExpression arg) distinct alias_
  | .dateBucket item => .dateBucket item
  | .stringAgg item => .stringAgg { item with delimiter := "" }
  | .arrayAgg item => .arrayAgg item
  | .percentileCont item => .percentileCont item
  | .scalarFunction call alias_ => .scalarFunction call.eraseLiterals alias_
  | .case when_ else_ alias_ => .case (eraseBranches when_) (eraseOptionExpression else_) alias_
  | .expression expr alias_ => .expression expr.eraseLiterals alias_
  | .window call alias_ => .window call.eraseLiterals alias_
termination_by structural item => item

def eraseItems : List SelectItem → List SelectItem
  | [] => []
  | item :: rest => item.eraseLiterals :: eraseItems rest
termination_by structural items => items

def JoinSpec.eraseLiterals : JoinSpec → JoinSpec
  | ⟨table, alias_, type, on, extraOn, condition, connection⟩ =>
      ⟨table, alias_, type, on, extraOn, eraseOptionNode condition, connection⟩
termination_by structural join => join

def eraseJoins : List JoinSpec → List JoinSpec
  | [] => []
  | join :: rest => join.eraseLiterals :: eraseJoins rest
termination_by structural joins => joins

def eraseSetOp : Option SetOpSpec → Option SetOpSpec
  | none => none
  | some spec => some spec.eraseLiterals
termination_by structural spec => spec

def SetOpSpec.eraseLiterals : SetOpSpec → SetOpSpec
  | ⟨op, all, arms⟩ => ⟨op, all, eraseQueries arms⟩
termination_by structural spec => spec

def CteSpec.eraseLiterals : CteSpec → CteSpec
  | ⟨name, query⟩ => ⟨name, query.eraseLiterals⟩
termination_by structural spec => spec

def eraseCtes : List CteSpec → List CteSpec
  | [] => []
  | spec :: rest => spec.eraseLiterals :: eraseCtes rest
termination_by structural specs => specs

def eraseQueries : List StructuredQuery → List StructuredQuery
  | [] => []
  | query :: rest => query.eraseLiterals :: eraseQueries rest
termination_by structural queries => queries

def eraseOptionQuery : Option StructuredQuery → Option StructuredQuery
  | none => none
  | some query => some query.eraseLiterals
termination_by structural query => query

/-- A query without its literals, at any depth of any scope. -/
def StructuredQuery.eraseLiterals : StructuredQuery → StructuredQuery
  | ⟨fromTable, fromAlias, select, distinct, joins, where_, groupBy, having, orderBy, limit,
      offset, topN, setOp, correlate, ctes, intent, purpose⟩ =>
      ⟨fromTable, fromAlias, eraseItems select, distinct, eraseJoins joins, eraseOptionNode where_,
        groupBy, eraseOptionNode having, orderBy, limit, offset, topN, eraseSetOp setOp, correlate,
        eraseCtes ctes, intent, purpose⟩
termination_by structural query => query

end

/-- The queries are equal except in literal positions. -/
def SameButLiterals (first second : StructuredQuery) : Prop :=
  first.eraseLiterals = second.eraseLiterals

theorem columnArgs_eraseLiterals (call : ScalarFunctionCall) :
    call.eraseLiterals.columnArgs = call.columnArgs := by
  unfold ScalarFunctionCall.columnArgs ScalarFunctionCall.eraseLiterals
  rw [List.filterMap_map]
  congr 1
  funext arg
  cases arg <;> rfl

theorem length_eraseBranches (branches : List CaseWhen) :
    (eraseBranches branches).length = branches.length := by
  induction branches with
  | nil => rfl
  | cons branch rest ih => rw [eraseBranches, List.length_cons, ih, List.length_cons]

theorem isEmpty_eraseNodes (nodes : List WhereNode) :
    (eraseNodes nodes).isEmpty = nodes.isEmpty := by
  cases nodes <;> rfl

theorem truthyTerms_eraseTerms (terms : Option (List WhereNode)) :
    truthyTerms (eraseTerms terms) = truthyTerms terms := by
  cases terms with
  | none => rfl
  | some nodes => exact congrArg not (isEmpty_eraseNodes nodes)

theorem hasTerms_eraseTerms (terms : Option (List WhereNode)) :
    hasTerms (eraseTerms terms) = hasTerms terms :=
  truthyTerms_eraseTerms terms

theorem columnRefs_eraseOffsets (spec : WindowSpec) :
    spec.eraseOffsets.columnRefs = spec.columnRefs := rfl

theorem frameEntry_eraseOffsets (spec : WindowSpec) :
    frameEntry spec.eraseOffsets = frameEntry spec := by
  unfold frameEntry WindowSpec.eraseOffsets
  cases spec.frame <;> rfl

theorem predicateDirectColumnRefs_eraseLiterals (pred : Predicate) :
    predicateDirectColumnRefs pred.eraseLiterals = predicateDirectColumnRefs pred := by
  obtain ⟨col, _, colFn, _, _, _, _, _, _⟩ := pred
  cases col with
  | some ref => rfl
  | none =>
      cases colFn with
      | none => rfl
      | some call => exact congrArg (· ++ _) (columnArgs_eraseLiterals call)

/-! ## The references a shape lists -/

mutual

/-- The predicates of a tree keep their direct references. -/
theorem directRefs_eraseLiterals : ∀ node : WhereNode,
    (iterWherePredicates node.eraseLiterals).flatMap predicateDirectColumnRefs =
      (iterWherePredicates node).flatMap predicateDirectColumnRefs
  | .predicate pred => by
      rw [WhereNode.eraseLiterals, iterWherePredicates, iterWherePredicates,
        List.flatMap_singleton, List.flatMap_singleton, predicateDirectColumnRefs_eraseLiterals]
  | .group andTerms orTerms notTerms => by
      cases notTerms with
      | some node => exact directRefs_eraseLiterals node
      | none =>
          simp only [WhereNode.eraseLiterals, eraseOptionNode, iterWherePredicates,
            truthyTerms_eraseTerms]
          split
          · exact termRefs_eraseLiterals andTerms
          · exact termRefs_eraseLiterals orTerms
termination_by structural node => node

theorem termRefs_eraseLiterals : ∀ terms : Option (List WhereNode),
    (termPredicates (eraseTerms terms)).flatMap predicateDirectColumnRefs =
      (termPredicates terms).flatMap predicateDirectColumnRefs
  | none => rfl
  | some nodes => by
      rw [eraseTerms, termPredicates, termPredicates, nodeRefs_eraseLiterals nodes]
termination_by structural terms => terms

theorem nodeRefs_eraseLiterals : ∀ nodes : List WhereNode,
    (nodePredicates (eraseNodes nodes)).flatMap predicateDirectColumnRefs =
      (nodePredicates nodes).flatMap predicateDirectColumnRefs
  | [] => rfl
  | node :: rest => by
      rw [eraseNodes, nodePredicates, nodePredicates, List.flatMap_append, List.flatMap_append,
        directRefs_eraseLiterals node, nodeRefs_eraseLiterals rest]
termination_by structural nodes => nodes

end

mutual

theorem partRefs_expression : ∀ (expr : Expression) (depth : Nat),
    partRefs (iterExpressionParts depth expr.eraseLiterals) =
      partRefs (iterExpressionParts depth expr)
  | .column _, _ => rfl
  | .literal _, _ => rfl
  | .now _, _ => rfl
  | .binaryOp _ left right, depth => by
      rw [Expression.eraseLiterals, iterExpressionParts, iterExpressionParts, partRefs_cons,
        partRefs_cons, partRefs_append, partRefs_append, partRefs_expression left,
        partRefs_expression right]
      rfl
  | .function _ args, depth => by
      rw [Expression.eraseLiterals, iterExpressionParts, iterExpressionParts, partRefs_cons,
        partRefs_cons, partRefs_arguments args]
      rfl
  | .cast operand _, depth => by
      rw [Expression.eraseLiterals, iterExpressionParts, iterExpressionParts, partRefs_cons,
        partRefs_cons, partRefs_expression operand]
      rfl
  | .extract operand _, depth => by
      rw [Expression.eraseLiterals, iterExpressionParts, iterExpressionParts, partRefs_cons,
        partRefs_cons, partRefs_expression operand]
      rfl
  | .dateAdd operand _ _, depth => by
      rw [Expression.eraseLiterals, iterExpressionParts, iterExpressionParts, partRefs_cons,
        partRefs_cons, partRefs_expression operand]
      rfl
  | .window ⟨_, _, arg, _, _⟩, depth => by
      rw [Expression.eraseLiterals, iterExpressionParts, iterExpressionParts, partRefs_cons,
        partRefs_cons, WindowCall.eraseLiterals, windowParts, windowParts, partRefs_option arg]
      rfl
  | .case when_ else_, depth => by
      rw [Expression.eraseLiterals, iterExpressionParts, iterExpressionParts, partRefs_cons,
        partRefs_cons, partRefs_append, partRefs_append, partRefs_branches when_,
        partRefs_option else_]
      rfl
termination_by structural expr => expr

theorem partRefs_arguments : ∀ (exprs : List Expression) (depth : Nat),
    partRefs (argumentParts depth (eraseExpressions exprs)) = partRefs (argumentParts depth exprs)
  | [], _ => rfl
  | expr :: rest, depth => by
      rw [eraseExpressions, argumentParts, argumentParts, partRefs_append, partRefs_append,
        partRefs_expression expr, partRefs_arguments rest]
termination_by structural exprs => exprs

theorem partRefs_option : ∀ (expr : Option Expression) (depth : Nat),
    partRefs (optionParts depth (eraseOptionExpression expr)) = partRefs (optionParts depth expr)
  | none, _ => rfl
  | some expr, depth => partRefs_expression expr depth
termination_by structural expr => expr

theorem partRefs_branches : ∀ (branches : List CaseWhen) (depth : Nat),
    partRefs (branchParts depth (eraseBranches branches)) = partRefs (branchParts depth branches)
  | [], _ => rfl
  | branch :: rest, depth => by
      rw [eraseBranches, branchParts, branchParts, partRefs_append, partRefs_append,
        partRefs_caseWhen branch, partRefs_branches rest]
termination_by structural branches => branches

theorem partRefs_caseWhen : ∀ (branch : CaseWhen) (depth : Nat),
    partRefs (caseWhenParts depth branch.eraseLiterals) = partRefs (caseWhenParts depth branch)
  | ⟨when_, then_⟩, depth => by
      rw [CaseWhen.eraseLiterals, caseWhenParts, caseWhenParts, partRefs_cons, partRefs_cons,
        partRefs_append, partRefs_append, partRefs_where when_, partRefs_expression then_,
        ExpressionPart.columnRefs, ExpressionPart.columnRefs, directRefs_eraseLiterals]
termination_by structural branch => branch

theorem partRefs_where : ∀ (node : WhereNode) (depth : Nat),
    partRefs (whereParts depth node.eraseLiterals) = partRefs (whereParts depth node)
  | .predicate ⟨_, expr, _, _, _, _, valueExpr, _, _⟩, depth => by
      rw [WhereNode.eraseLiterals, whereParts, whereParts, Predicate.eraseLiterals, predicateParts,
        predicateParts, partRefs_append, partRefs_append, partRefs_option expr,
        partRefs_option valueExpr]
  | .group andTerms orTerms notTerms, depth => by
      cases notTerms with
      | some node => exact partRefs_where node depth
      | none =>
          simp only [WhereNode.eraseLiterals, eraseOptionNode, whereParts, truthyTerms_eraseTerms]
          split
          · exact partRefs_terms andTerms depth
          · exact partRefs_terms orTerms depth
termination_by structural node => node

theorem partRefs_terms : ∀ (terms : Option (List WhereNode)) (depth : Nat),
    partRefs (termParts depth (eraseTerms terms)) = partRefs (termParts depth terms)
  | none, _ => rfl
  | some nodes, depth => partRefs_nodes nodes depth
termination_by structural terms => terms

theorem partRefs_nodes : ∀ (nodes : List WhereNode) (depth : Nat),
    partRefs (nodeParts depth (eraseNodes nodes)) = partRefs (nodeParts depth nodes)
  | [], _ => rfl
  | node :: rest, depth => by
      rw [eraseNodes, nodeParts, nodeParts, partRefs_append, partRefs_append,
        partRefs_where node, partRefs_nodes rest]
termination_by structural nodes => nodes

end

theorem expressionColumnRefs_eraseLiterals (expr : Expression) :
    expressionColumnRefs expr.eraseLiterals = expressionColumnRefs expr :=
  partRefs_expression expr 1

theorem optionRefs_eraseLiterals (expr : Option Expression) :
    (eraseOptionExpression expr).toList.flatMap expressionColumnRefs =
      expr.toList.flatMap expressionColumnRefs := by
  cases expr with
  | none => rfl
  | some expr =>
      rw [eraseOptionExpression, Option.toList_some, Option.toList_some, List.flatMap_singleton,
        List.flatMap_singleton, expressionColumnRefs_eraseLiterals]

/-- A select item reads the same columns without its literals. -/
theorem selectItemColumnRefs_eraseLiterals (item : SelectItem) :
    selectItemColumnRefs item.eraseLiterals = selectItemColumnRefs item := by
  cases item with
  | bare _ | dateBucket _ | stringAgg _ | arrayAgg _ | percentileCont _ => rfl
  | scalarFunction call _ => exact columnArgs_eraseLiterals call
  | expression expr _ => exact expressionColumnRefs_eraseLiterals expr
  | case when_ else_ _ => exact expressionColumnRefs_eraseLiterals (.case when_ else_)
  | window call _ =>
      obtain ⟨_, over_, arg, _, _⟩ := call
      exact congrArg (· ++ over_.columnRefs) (optionRefs_eraseLiterals arg)
  | aggregate _ _ arg _ _ =>
      cases arg with
      | none => rfl
      | some expr => exact expressionColumnRefs_eraseLiterals expr

/-! ## The shape -/

theorem subjectEntries_eraseLiterals (col : Option String) (colFn : Option ScalarFunctionCall)
    (expression : Shape) :
    subjectEntries col (colFn.map ScalarFunctionCall.eraseLiterals) expression =
      subjectEntries col colFn expression := by
  cases col with
  | some _ => rfl
  | none =>
      cases colFn with
      | none => rfl
      | some call =>
          simp only [subjectEntries, Option.map_some, columnArgs_eraseLiterals]
          rfl

theorem argumentEntries_eraseLiterals (col : Option String) (arg : Option Expression)
    (expression : Shape) (columns : List String) :
    argumentEntries col (eraseOptionExpression arg) expression columns =
      argumentEntries col arg expression columns := by
  cases arg with
  | none => rfl
  | some expr => cases expr <;> rfl

mutual

theorem expressionShape_eraseLiterals : ∀ expr : Expression,
    expressionShape expr.eraseLiterals = expressionShape expr
  | .column _ => rfl
  | .literal _ => rfl
  | .now _ => rfl
  | .binaryOp _ left right => by
      rw [Expression.eraseLiterals, expressionShape, expressionShape,
        expressionShape_eraseLiterals left, expressionShape_eraseLiterals right]
  | .function _ args => by
      rw [Expression.eraseLiterals, expressionShape, expressionShape,
        argumentShapes_eraseLiterals args]
  | .cast operand _ => by
      rw [Expression.eraseLiterals, expressionShape, expressionShape,
        expressionShape_eraseLiterals operand]
  | .extract operand _ => by
      rw [Expression.eraseLiterals, expressionShape, expressionShape,
        expressionShape_eraseLiterals operand]
  | .dateAdd operand _ _ => by
      rw [Expression.eraseLiterals, expressionShape, expressionShape,
        expressionShape_eraseLiterals operand]
  | .window call => by
      rw [Expression.eraseLiterals, expressionShape, expressionShape,
        windowEntries_eraseLiterals call]
  | .case when_ else_ => by
      rw [Expression.eraseLiterals, expressionShape, expressionShape, length_eraseBranches,
        conditionShapes_eraseLiterals when_, resultShapes_eraseLiterals when_,
        expressionEntry_eraseLiterals else_]
termination_by structural expr => expr

theorem argumentShapes_eraseLiterals : ∀ exprs : List Expression,
    argumentShapes (eraseExpressions exprs) = argumentShapes exprs
  | [] => rfl
  | expr :: rest => by
      rw [eraseExpressions, argumentShapes, argumentShapes, expressionShape_eraseLiterals expr,
        argumentShapes_eraseLiterals rest]
termination_by structural exprs => exprs

theorem expressionEntry_eraseLiterals : ∀ (expr : Option Expression) (key : String),
    expressionEntry key (eraseOptionExpression expr) = expressionEntry key expr
  | none, _ => rfl
  | some expr, key => by
      rw [eraseOptionExpression, expressionEntry, expressionEntry,
        expressionShape_eraseLiterals expr]
termination_by structural expr => expr

theorem windowEntries_eraseLiterals : ∀ call : WindowCall,
    windowEntries call.eraseLiterals = windowEntries call
  | ⟨_, over_, arg, _, _⟩ => by
      rw [WindowCall.eraseLiterals, windowEntries, windowEntries,
        expressionEntry_eraseLiterals arg, frameEntry_eraseOffsets]
      rfl
termination_by structural call => call

theorem windowItemEntries_eraseLiterals : ∀ call : WindowCall,
    windowItemEntries call.eraseLiterals = windowItemEntries call
  | ⟨_, over_, arg, _, _⟩ => by
      rw [WindowCall.eraseLiterals, windowItemEntries, windowItemEntries,
        expressionEntry_eraseLiterals arg, frameEntry_eraseOffsets]
termination_by structural call => call

theorem conditionShapes_eraseLiterals : ∀ branches : List CaseWhen,
    conditionShapes (eraseBranches branches) = conditionShapes branches
  | [] => rfl
  | ⟨when_, _⟩ :: rest => by
      rw [eraseBranches, conditionShapes, conditionShapes, CaseWhen.eraseLiterals, conditionShape,
        conditionShape, whereNodeShape_eraseLiterals when_, conditionShapes_eraseLiterals rest]
termination_by structural branches => branches

theorem resultShapes_eraseLiterals : ∀ branches : List CaseWhen,
    resultShapes (eraseBranches branches) = resultShapes branches
  | [] => rfl
  | ⟨_, then_⟩ :: rest => by
      rw [eraseBranches, resultShapes, resultShapes, CaseWhen.eraseLiterals, resultShape,
        resultShape, expressionShape_eraseLiterals then_, resultShapes_eraseLiterals rest]
termination_by structural branches => branches

theorem whereNodeShape_eraseLiterals : ∀ node : WhereNode,
    whereNodeShape node.eraseLiterals = whereNodeShape node
  | .predicate pred => by
      rw [WhereNode.eraseLiterals, whereNodeShape, whereNodeShape,
        predicateShape_eraseLiterals pred]
  | .group andTerms orTerms notTerms => by
      rw [WhereNode.eraseLiterals, whereNodeShape, whereNodeShape, hasTerms_eraseTerms,
        hasTerms_eraseTerms, termNodeShapes_eraseLiterals andTerms,
        termNodeShapes_eraseLiterals orTerms, optionNodeShape_eraseLiterals notTerms]
termination_by structural node => node

theorem termNodeShapes_eraseLiterals : ∀ terms : Option (List WhereNode),
    termNodeShapes (eraseTerms terms) = termNodeShapes terms
  | none => rfl
  | some nodes => nodeListShapes_eraseLiterals nodes
termination_by structural terms => terms

theorem nodeListShapes_eraseLiterals : ∀ nodes : List WhereNode,
    nodeListShapes (eraseNodes nodes) = nodeListShapes nodes
  | [] => rfl
  | node :: rest => by
      rw [eraseNodes, nodeListShapes, nodeListShapes, whereNodeShape_eraseLiterals node,
        nodeListShapes_eraseLiterals rest]
termination_by structural nodes => nodes

theorem optionNodeShape_eraseLiterals : ∀ node : Option WhereNode,
    optionNodeShape (eraseOptionNode node) = optionNodeShape node
  | none => rfl
  | some node => whereNodeShape_eraseLiterals node
termination_by structural node => node

theorem whereEntry_eraseLiterals : ∀ (node : Option WhereNode) (key : String),
    whereEntry key (eraseOptionNode node) = whereEntry key node
  | none, _ => rfl
  | some node, key => by
      rw [eraseOptionNode, whereEntry, whereEntry, whereNodeShape_eraseLiterals node]
termination_by structural node => node

theorem predicateShape_eraseLiterals : ∀ pred : Predicate,
    predicateShape pred.eraseLiterals = predicateShape pred
  | ⟨col, expr, colFn, op, _, valueCol, valueExpr, valueSubquery, existsSubquery⟩ => by
      have presence : (eraseOptionQuery existsSubquery).isSome = existsSubquery.isSome := by
        cases existsSubquery <;> rfl
      rw [Predicate.eraseLiterals, predicateShape, predicateShape, presence,
        optionExpressionShape_eraseLiterals expr, subjectEntries_eraseLiterals,
        queryEntry_eraseLiterals existsSubquery, queryEntry_eraseLiterals valueSubquery,
        expressionEntry_eraseLiterals valueExpr]
termination_by structural pred => pred

theorem optionExpressionShape_eraseLiterals : ∀ expr : Option Expression,
    optionExpressionShape (eraseOptionExpression expr) = optionExpressionShape expr
  | none => rfl
  | some expr => expressionShape_eraseLiterals expr
termination_by structural expr => expr

theorem queryEntry_eraseLiterals : ∀ (query : Option StructuredQuery) (key : String),
    queryEntry key (eraseOptionQuery query) = queryEntry key query
  | none, _ => rfl
  | some query, key => by
      rw [eraseOptionQuery, queryEntry, queryEntry, normalizeQueryShape_eraseLiterals query]
termination_by structural query => query

theorem selectShape_eraseLiterals : ∀ item : SelectItem,
    selectShape item.eraseLiterals = selectShape item
  | .bare _ => rfl
  | .dateBucket _ => rfl
  | .stringAgg _ => rfl
  | .arrayAgg _ => rfl
  | .percentileCont _ => rfl
  | .scalarFunction call alias_ => by
      rw [selectShape, ← selectItemColumnRefs_eraseLiterals (.scalarFunction call alias_)]
      rfl
  | .expression expr alias_ => by
      rw [SelectItem.eraseLiterals, selectShape, selectShape, expressionShape_eraseLiterals expr,
        ← selectItemColumnRefs_eraseLiterals (.expression expr alias_), SelectItem.eraseLiterals]
  | .case when_ else_ alias_ => by
      rw [SelectItem.eraseLiterals, selectShape, selectShape, length_eraseBranches,
        conditionShapes_eraseLiterals when_,
        ← selectItemColumnRefs_eraseLiterals (.case when_ else_ alias_), SelectItem.eraseLiterals]
  | .window call alias_ => by
      rw [SelectItem.eraseLiterals, selectShape, selectShape, windowItemEntries_eraseLiterals call,
        ← selectItemColumnRefs_eraseLiterals (.window call alias_), SelectItem.eraseLiterals]
      obtain ⟨_, _, _, _, _⟩ := call
      rfl
  | .aggregate fn col arg distinct alias_ => by
      rw [SelectItem.eraseLiterals, selectShape, selectShape,
        optionExpressionShape_eraseLiterals arg, argumentEntries_eraseLiterals,
        ← selectItemColumnRefs_eraseLiterals (.aggregate fn col arg distinct alias_),
        SelectItem.eraseLiterals]
termination_by structural item => item

theorem selectShapes_eraseLiterals : ∀ items : List SelectItem,
    selectShapes (eraseItems items) = selectShapes items
  | [] => rfl
  | item :: rest => by
      rw [eraseItems, selectShapes, selectShapes, selectShape_eraseLiterals item,
        selectShapes_eraseLiterals rest]
termination_by structural items => items

theorem joinShapes_eraseLiterals : ∀ joins : List JoinSpec,
    joinShapes (eraseJoins joins) = joinShapes joins
  | [] => rfl
  | ⟨_, _, _, _, _, condition, _⟩ :: rest => by
      rw [eraseJoins, joinShapes, joinShapes, JoinSpec.eraseLiterals, joinShape, joinShape,
        whereEntry_eraseLiterals condition, joinShapes_eraseLiterals rest]
termination_by structural joins => joins

theorem setOpEntry_eraseLiterals : ∀ spec : Option SetOpSpec,
    setOpEntry (eraseSetOp spec) = setOpEntry spec
  | none => rfl
  | some ⟨_, _, arms⟩ => by
      rw [eraseSetOp, setOpEntry, setOpEntry, SetOpSpec.eraseLiterals, setOpShape, setOpShape,
        queryShapes_eraseLiterals arms]
termination_by structural spec => spec

theorem queryShapes_eraseLiterals : ∀ queries : List StructuredQuery,
    queryShapes (eraseQueries queries) = queryShapes queries
  | [] => rfl
  | query :: rest => by
      rw [eraseQueries, queryShapes, queryShapes, normalizeQueryShape_eraseLiterals query,
        queryShapes_eraseLiterals rest]
termination_by structural queries => queries

theorem cteShapes_eraseLiterals : ∀ specs : List CteSpec,
    cteShapes (eraseCtes specs) = cteShapes specs
  | [] => rfl
  | ⟨_, query⟩ :: rest => by
      rw [eraseCtes, cteShapes, cteShapes, CteSpec.eraseLiterals, cteShape, cteShape,
        normalizeQueryShape_eraseLiterals query, cteShapes_eraseLiterals rest]
termination_by structural specs => specs

/-- The shape is a function of the query without its literals. -/
theorem normalizeQueryShape_eraseLiterals : ∀ query : StructuredQuery,
    normalizeQueryShape query.eraseLiterals = normalizeQueryShape query
  | ⟨_, _, select, _, joins, where_, _, having, _, _, _, _, setOp, _, ctes, _, _⟩ => by
      have blocks : (eraseCtes ctes).isEmpty = ctes.isEmpty := by cases ctes <;> rfl
      rw [StructuredQuery.eraseLiterals, normalizeQueryShape, normalizeQueryShape,
        selectShapes_eraseLiterals select, joinShapes_eraseLiterals joins,
        whereEntry_eraseLiterals where_, whereEntry_eraseLiterals having,
        setOpEntry_eraseLiterals setOp, blocks, cteShapes_eraseLiterals ctes]
termination_by structural query => query

end

/-- `SELECT customers.name FROM customers WHERE customers.age > value`. -/
def customersOver (age : Value) : StructuredQuery where
  fromTable := "customers"
  select := [.bare "customers.name"]
  where_ := some (.predicate { col := some "customers.age", op := .gt, value := age })

end QueryGate
