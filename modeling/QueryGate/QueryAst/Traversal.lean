import QueryGate.QueryAst.Acceptance

/-! # Everything inside a query

`StructuredQuery.nodes` walks every field of the AST, whichever walk of the
source reaches it, and records the queries and window calls it meets. It is the
yardstick the source's own walks are measured against.
-/

namespace QueryGate

open Foundation

/-- The two spellings of a window call. -/
inductive WindowSpelling where
  | selectItem | operand
  deriving DecidableEq, Repr

/-- A recorded node: a query, or a window call in either spelling. -/
inductive AstNode where
  | query (query : StructuredQuery)
  | window (spelling : WindowSpelling) (call : WindowCall)

/-- The query of a node. -/
def AstNode.query? : AstNode → Option StructuredQuery
  | .query inner => some inner
  | .window _ _ => none

/-- The window call of a node. -/
def AstNode.window? : AstNode → Option WindowCall
  | .query _ => none
  | .window _ call => some call

mutual

/-- The nodes inside an expression. -/
def Expression.nodes : Expression → List AstNode
  | .column _ => []
  | .literal _ => []
  | .binaryOp _ left right => left.nodes ++ right.nodes
  | .function _ args => expressionListNodes args
  | .cast operand _ => operand.nodes
  | .case when_ else_ => branchListNodes when_ ++ optionExpressionNodes else_
  | .extract operand _ => operand.nodes
  | .now _ => []
  | .dateAdd operand _ _ => operand.nodes
  | .window call => .window .operand call :: call.argNodes
termination_by structural expr => expr

/-- The nodes inside a list of expressions. -/
def expressionListNodes : List Expression → List AstNode
  | [] => []
  | expr :: rest => expr.nodes ++ expressionListNodes rest
termination_by structural exprs => exprs

/-- The nodes inside an optional expression. -/
def optionExpressionNodes : Option Expression → List AstNode
  | none => []
  | some expr => expr.nodes
termination_by structural expr => expr

/-- The nodes inside a window call's argument. -/
def WindowCall.argNodes : WindowCall → List AstNode
  | ⟨_, _, arg, _, _⟩ => optionExpressionNodes arg
termination_by structural call => call

/-- The nodes inside a CASE branch. -/
def CaseWhen.nodes : CaseWhen → List AstNode
  | ⟨when_, then_⟩ => when_.nodes ++ then_.nodes
termination_by structural branch => branch

/-- The nodes inside a list of CASE branches. -/
def branchListNodes : List CaseWhen → List AstNode
  | [] => []
  | branch :: rest => branch.nodes ++ branchListNodes rest
termination_by structural branches => branches

/-- The nodes inside a boolean tree, all three fields of a group included. -/
def WhereNode.nodes : WhereNode → List AstNode
  | .predicate pred => pred.nodes
  | .group andTerms orTerms notTerms =>
      termListNodes andTerms ++ termListNodes orTerms ++ optionWhereNodes notTerms
termination_by structural node => node

/-- The nodes inside an optional list of terms. -/
def termListNodes : Option (List WhereNode) → List AstNode
  | none => []
  | some nodes => whereListNodes nodes
termination_by structural nodes => nodes

/-- The nodes inside a list of boolean trees. -/
def whereListNodes : List WhereNode → List AstNode
  | [] => []
  | node :: rest => node.nodes ++ whereListNodes rest
termination_by structural nodes => nodes

/-- The nodes inside an optional boolean tree. -/
def optionWhereNodes : Option WhereNode → List AstNode
  | none => []
  | some node => node.nodes
termination_by structural node => node

/-- The nodes inside a predicate. -/
def Predicate.nodes : Predicate → List AstNode
  | ⟨_, expr, _, _, _, _, valueExpr, valueSubquery, existsSubquery⟩ =>
      optionExpressionNodes expr ++ optionExpressionNodes valueExpr ++
        (optionQueryNodes valueSubquery ++ optionQueryNodes existsSubquery)
termination_by structural pred => pred

/-- The nodes inside a select item. -/
def SelectItem.nodes : SelectItem → List AstNode
  | .bare _ => []
  | .aggregate _ _ arg _ _ => optionExpressionNodes arg
  | .dateBucket _ => []
  | .stringAgg _ => []
  | .arrayAgg _ => []
  | .percentileCont _ => []
  | .scalarFunction _ _ => []
  | .case when_ else_ _ => branchListNodes when_ ++ optionExpressionNodes else_
  | .expression expr _ => expr.nodes
  | .window call _ => .window .selectItem call :: call.argNodes
termination_by structural item => item

/-- The nodes inside a select list. -/
def itemListNodes : List SelectItem → List AstNode
  | [] => []
  | item :: rest => item.nodes ++ itemListNodes rest
termination_by structural items => items

/-- The nodes inside a join. -/
def JoinSpec.nodes : JoinSpec → List AstNode
  | ⟨_, _, _, _, _, condition, _⟩ => optionWhereNodes condition
termination_by structural join => join

/-- The nodes inside a list of joins. -/
def joinListNodes : List JoinSpec → List AstNode
  | [] => []
  | join :: rest => join.nodes ++ joinListNodes rest
termination_by structural joins => joins

/-- The nodes inside an optional set operation. -/
def optionSetOpNodes : Option SetOpSpec → List AstNode
  | none => []
  | some spec => spec.nodes
termination_by structural spec => spec

/-- The nodes inside a set operation. -/
def SetOpSpec.nodes : SetOpSpec → List AstNode
  | ⟨_, _, arms⟩ => queryListNodes arms
termination_by structural spec => spec

/-- The nodes inside a WITH block. -/
def CteSpec.nodes : CteSpec → List AstNode
  | ⟨_, query⟩ => query.nodes
termination_by structural spec => spec

/-- The nodes inside a list of WITH blocks. -/
def cteListNodes : List CteSpec → List AstNode
  | [] => []
  | spec :: rest => spec.nodes ++ cteListNodes rest
termination_by structural specs => specs

/-- The nodes inside a list of queries, each query included. -/
def queryListNodes : List StructuredQuery → List AstNode
  | [] => []
  | query :: rest => query.nodes ++ queryListNodes rest
termination_by structural queries => queries

/-- The nodes inside an optional query. -/
def optionQueryNodes : Option StructuredQuery → List AstNode
  | none => []
  | some query => query.nodes
termination_by structural query => query

/-- A query and every node inside it. -/
def StructuredQuery.nodes : StructuredQuery → List AstNode
  | ⟨fromTable, fromAlias, select, distinct, joins, where_, groupBy, having, orderBy, limit,
      offset, topN, setOp, correlate, ctes, intent, purpose⟩ =>
      .query ⟨fromTable, fromAlias, select, distinct, joins, where_, groupBy, having, orderBy,
        limit, offset, topN, setOp, correlate, ctes, intent, purpose⟩ ::
        (cteListNodes ctes ++ optionSetOpNodes setOp ++ itemListNodes select ++
          joinListNodes joins ++ optionWhereNodes where_ ++ optionWhereNodes having)
termination_by structural query => query

end

/-- The queries reachable anywhere inside a query, itself included. -/
def reachableQueries (query : StructuredQuery) : List StructuredQuery :=
  query.nodes.filterMap AstNode.query?

/-- Every window call in the query tree, in either spelling. -/
def windowCalls (query : StructuredQuery) : List WindowCall :=
  query.nodes.filterMap AstNode.window?

theorem whereListNodes_eq_flatMap (nodes : List WhereNode) :
    whereListNodes nodes = nodes.flatMap WhereNode.nodes := by
  induction nodes with
  | nil => rfl
  | cons node rest ih => rw [whereListNodes, ih, List.flatMap_cons]

theorem expressionListNodes_eq_flatMap (exprs : List Expression) :
    expressionListNodes exprs = exprs.flatMap Expression.nodes := by
  induction exprs with
  | nil => rfl
  | cons expr rest ih => rw [expressionListNodes, ih, List.flatMap_cons]

theorem itemListNodes_eq_flatMap (items : List SelectItem) :
    itemListNodes items = items.flatMap SelectItem.nodes := by
  induction items with
  | nil => rfl
  | cons item rest ih => rw [itemListNodes, ih, List.flatMap_cons]

theorem joinListNodes_eq_flatMap (joins : List JoinSpec) :
    joinListNodes joins = joins.flatMap fun join => optionWhereNodes join.condition := by
  induction joins with
  | nil => rfl
  | cons join rest ih =>
      obtain ⟨_, _, _, _, _, condition, _⟩ := join
      rw [joinListNodes, ih, List.flatMap_cons]
      rfl

theorem cteListNodes_eq_flatMap (specs : List CteSpec) :
    cteListNodes specs = specs.flatMap fun spec => spec.query.nodes := by
  induction specs with
  | nil => rfl
  | cons spec rest ih =>
      obtain ⟨_, query⟩ := spec
      rw [cteListNodes, ih, List.flatMap_cons]
      rfl

theorem queryListNodes_eq_flatMap (queries : List StructuredQuery) :
    queryListNodes queries = queries.flatMap StructuredQuery.nodes := by
  induction queries with
  | nil => rfl
  | cons query rest ih => rw [queryListNodes, ih, List.flatMap_cons]

theorem optionSetOpNodes_eq_flatMap (query : StructuredQuery) :
    optionSetOpNodes query.setOp = query.arms.flatMap StructuredQuery.nodes := by
  unfold StructuredQuery.arms
  cases query.setOp with
  | none => rfl
  | some spec =>
      obtain ⟨_, _, arms⟩ := spec
      exact queryListNodes_eq_flatMap arms

end QueryGate
