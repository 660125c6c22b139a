import QueryGate.Audit.QueryShape

/-! # Outlines

The outline of a query is its shape without the fields a caller can vary freely, and
with each name marked by what it is: a keyword, a source table, a column reference
with what it stands for in its own scope, or an output name. It is read lexically: a
subquery sees the sources around it, a WITH body and a set-operation arm do not.
-/

namespace QueryGate

open Foundation

/-- What a reference stands for: a source of its own scope or, further up, of a scope
around it; or an output of its own scope. -/
inductive Standing where
  | source (up index : Nat) (table : String)
  | output (index : Nat)
  deriving DecidableEq, Repr

/-- A name in an outline. -/
inductive Token where
  | keyword (text : String)
  | table (text : String)
  | ref (text : String) (stands : Option Standing)
  deriving DecidableEq, Repr

/-- The text of a name. -/
def Token.text : Token → String
  | .keyword text => text
  | .table text => text
  | .ref text _ => text

/-- What names stand for in a scope: its sources by their case-folded effective
names, inside those of the scopes around it, and its output names. -/
structure Sight where
  frames : List (List (String × String)) := []
  outputs : List String := []
  deriving DecidableEq, Repr

/-- The source a case-folded name stands for. -/
def lookupSource (name : String) : List (List (String × String)) → Option Standing
  | [] => none
  | frame :: around =>
      match frame.findIdx? fun entry => entry.1 == name with
      | some index => some (.source 0 index ((frame.map Prod.snd).getD index ""))
      | none =>
          match lookupSource name around with
          | some (.source up index table) => some (.source (up + 1) index table)
          | other => other

/-- What a reference stands for: a dotted one for a source, a bare one for an output. -/
def Sight.standing (sight : Sight) (ref : String) : Option Standing :=
  match splitDot ref with
  | some (before, _) => lookupSource (casefold (strip before)) sight.frames
  | none => (sight.outputs.findIdx? (· == casefold ref)).map .output

/-- A column reference in sight. -/
def Sight.token (sight : Sight) (ref : String) : Token :=
  .ref ref (sight.standing ref)

/-- The alias of a select item. -/
def SelectItem.outputName : SelectItem → Option String
  | .bare _ => none
  | .aggregate _ _ _ _ alias_ => alias_
  | .dateBucket item => item.alias_
  | .stringAgg item => item.alias_
  | .arrayAgg item => item.alias_
  | .percentileCont item => item.alias_
  | .scalarFunction _ alias_ => alias_
  | .case _ _ alias_ => some alias_
  | .expression _ alias_ => some alias_
  | .window _ alias_ => some alias_

/-- What a scope sees, inside the given frames. -/
def StructuredQuery.sight (query : StructuredQuery) (around : List (List (String × String))) :
    Sight where
  frames := namePairs query :: around
  outputs := (query.select.filterMap SelectItem.outputName).map casefold

/-- An outline. -/
inductive Outline where
  | absent
  | flag (value : Bool)
  | count (value : Int)
  | name (token : Token)
  | list (items : List Outline)
  | dict (entries : List (String × Outline))
  /-- What declares an output name. -/
  | declares (output : String) (body : Outline)

namespace Outline

/-- A keyword. -/
def word (text : String) : Outline := .name (.keyword text)

/-- A column reference. -/
def ref (sight : Sight) (text : String) : Outline := .name (sight.token text)

/-- A list of column references. -/
def refs (sight : Sight) (texts : List String) : Outline := .list (texts.map (ref sight))

/-- A node under its output name, where it has one. -/
def named : Option String → Outline → Outline
  | none, body => body
  | some output, body => .declares output body

/-- A dictionary entry that is there only with a value. -/
def entry (key : String) : Option Outline → List (String × Outline)
  | none => []
  | some outline => [(key, outline)]

/-- The `frame` entry of a window call. -/
def frame (spec : WindowSpec) : List (String × Outline) :=
  entry "frame" (spec.frame.map fun frame =>
    .dict [("mode", word frame.mode.value), ("start", word frame.start.bound.value),
      ("end", word frame.stop.bound.value)])

/-- A sort key: its column only. -/
def order (sight : Sight) (spec : OrderBySpec) : Outline :=
  .dict [("col", ref sight spec.col)]

/-- What a predicate compares. -/
def subject (sight : Sight) (col : Option String) (colFn : Option ScalarFunctionCall)
    (expression : Outline) : List (String × Outline) :=
  match col, colFn with
  | some column, _ => [("column", ref sight column)]
  | none, some call => [("function", word call.fn.value), ("columns", refs sight call.columnArgs)]
  | none, none => [("expression", expression)]

/-- What an aggregate is taken over. -/
def argument (sight : Sight) (col : Option String) (arg : Option Expression)
    (expression : Outline) (columns : List String) : List (String × Outline) :=
  match arg with
  | none => [("column", (col.map (ref sight)).getD .absent)]
  | some (.column column) => [("column", ref sight column)]
  | some _ => [("expression", expression), ("columns", refs sight columns)]

/-- The `top_n` entry of a query. -/
def topN (sight : Sight) (spec : TopNSpec) : Outline :=
  .dict [("partition_by", refs sight spec.partitionBy),
    ("order_by", .list (spec.orderBy.map (order sight))), ("function", word spec.fn.value)]

end Outline

mutual

/-- The outline of an expression. -/
def outlineExpression (sight : Sight) : Expression → Outline
  | .column col => .dict [("node", .word "column"), ("column", .ref sight col)]
  | .literal _ => .dict [("node", .word "literal")]
  | .binaryOp op left right =>
      .dict [("node", .word "binary_op"), ("operator", .word op.value),
        ("operands", .list [outlineExpression sight left, outlineExpression sight right])]
  | .function fn args =>
      .dict [("node", .word "function"), ("function", .word fn.value),
        ("args", .list (outlineArguments sight args))]
  | .cast operand target =>
      .dict [("node", .word "cast"), ("to", .word target.value),
        ("operand", outlineExpression sight operand)]
  | .extract operand part =>
      .dict [("node", .word "extract"), ("part", .word part.value),
        ("operand", outlineExpression sight operand)]
  | .now kind => .dict [("node", .word "now"), ("kind", .word kind.value)]
  | .dateAdd operand unit _ =>
      .dict [("node", .word "date_add"), ("unit", .word unit.value),
        ("operand", outlineExpression sight operand)]
  | .case when_ else_ =>
      .dict ([("node", .word "case"), ("branch_count", .count when_.length),
        ("conditions", .list (outlineConditions sight when_)),
        ("results", .list (outlineResults sight when_))] ++
        expressionOutline sight "else" else_)
  | .window call => .dict (outlineWindow sight call)
termination_by structural expr => expr

/-- The outlines of a function's arguments. -/
def outlineArguments (sight : Sight) : List Expression → List Outline
  | [] => []
  | expr :: rest => outlineExpression sight expr :: outlineArguments sight rest
termination_by structural exprs => exprs

/-- The entry of an optional expression. -/
def expressionOutline (sight : Sight) (key : String) :
    Option Expression → List (String × Outline)
  | none => []
  | some expr => [(key, outlineExpression sight expr)]
termination_by structural expr => expr

/-- The entries of a window call as an operand. -/
def outlineWindow (sight : Sight) : WindowCall → List (String × Outline)
  | ⟨fn, over_, arg, _, _⟩ =>
      [("node", .word "window"), ("function", .word fn.value),
        ("partition_by", .refs sight over_.partitionBy),
        ("order_by", .refs sight (over_.orderBy.map OrderBySpec.col))] ++
        expressionOutline sight "operand" arg ++ Outline.frame over_
termination_by structural call => call

/-- The `expression` and `frame` entries of a window projection. -/
def outlineWindowItem (sight : Sight) : WindowCall → List (String × Outline)
  | ⟨_, over_, arg, _, _⟩ => expressionOutline sight "expression" arg ++ Outline.frame over_
termination_by structural call => call

/-- The outlines of the conditions of CASE branches. -/
def outlineConditions (sight : Sight) : List CaseWhen → List Outline
  | [] => []
  | branch :: rest => outlineCondition sight branch :: outlineConditions sight rest
termination_by structural branches => branches

/-- The outline of a branch's condition. -/
def outlineCondition (sight : Sight) : CaseWhen → Outline
  | ⟨when_, _⟩ => outlineWhere sight when_
termination_by structural branch => branch

/-- The outlines of the results of CASE branches. -/
def outlineResults (sight : Sight) : List CaseWhen → List Outline
  | [] => []
  | branch :: rest => outlineResult sight branch :: outlineResults sight rest
termination_by structural branches => branches

/-- The outline of a branch's result. -/
def outlineResult (sight : Sight) : CaseWhen → Outline
  | ⟨_, then_⟩ => outlineExpression sight then_
termination_by structural branch => branch

/-- The outline of a boolean tree. -/
def outlineWhere (sight : Sight) : WhereNode → Outline
  | .predicate pred => outlinePredicate sight pred
  | .group andTerms orTerms notTerms =>
      if hasTerms andTerms then .dict [("and", .list (outlineTerms sight andTerms))]
      else if hasTerms orTerms then .dict [("or", .list (outlineTerms sight orTerms))]
      else .dict [("not", outlineOptionNode sight notTerms)]
termination_by structural node => node

/-- The outlines of an optional list of terms. -/
def outlineTerms (sight : Sight) : Option (List WhereNode) → List Outline
  | none => []
  | some nodes => outlineNodes sight nodes
termination_by structural nodes => nodes

/-- The outlines of a list of terms. -/
def outlineNodes (sight : Sight) : List WhereNode → List Outline
  | [] => []
  | node :: rest => outlineWhere sight node :: outlineNodes sight rest
termination_by structural nodes => nodes

/-- The outline of an optional term. -/
def outlineOptionNode (sight : Sight) : Option WhereNode → Outline
  | none => .absent
  | some node => outlineWhere sight node
termination_by structural node => node

/-- The entry of an optional boolean tree. -/
def whereOutline (sight : Sight) (key : String) : Option WhereNode → List (String × Outline)
  | none => []
  | some node => [(key, outlineWhere sight node)]
termination_by structural node => node

/-- The outline of a predicate. -/
def outlinePredicate (sight : Sight) : Predicate → Outline
  | ⟨col, expr, colFn, op, _, valueCol, valueExpr, valueSubquery, existsSubquery⟩ =>
      .dict (("operator", .word op.value) ::
        if existsSubquery.isSome then subqueryOutline sight "exists_subquery" existsSubquery
        else
          Outline.subject sight col colFn (outlineOptionExpression sight expr) ++
            Outline.entry "value_column" (valueCol.map (.ref sight)) ++
            expressionOutline sight "value_expression" valueExpr ++
            subqueryOutline sight "value_subquery" valueSubquery)
termination_by structural pred => pred

/-- The outline of an optional expression. -/
def outlineOptionExpression (sight : Sight) : Option Expression → Outline
  | none => .absent
  | some expr => outlineExpression sight expr
termination_by structural expr => expr

/-- The entry of an optional subquery, which sees the sources around it. -/
def subqueryOutline (sight : Sight) (key : String) :
    Option StructuredQuery → List (String × Outline)
  | none => []
  | some query => [(key, outlineIn sight.frames query)]
termination_by structural query => query

/-- The outline of a select item. -/
def outlineSelect (sight : Sight) : SelectItem → Outline
  | .bare column => .dict [("kind", .word "column"), ("column", .ref sight column)]
  | .aggregate fn col arg distinct alias_ =>
      .named alias_ (.dict ([("kind", .word "aggregate"), ("function", .word fn.value)] ++
        Outline.argument sight col arg (outlineOptionExpression sight arg)
          (selectItemColumnRefs (.aggregate fn col arg distinct alias_))))
  | .expression expr alias_ =>
      .declares alias_ (.dict [("kind", .word "expression"),
        ("expression", outlineExpression sight expr),
        ("columns", .refs sight (selectItemColumnRefs (.expression expr alias_)))])
  | .dateBucket item =>
      .named item.alias_ (.dict [("kind", .word "date_bucket"), ("column", .ref sight item.col),
        ("granularity", .word item.granularity.value)])
  | .stringAgg item =>
      .named item.alias_ (.dict [("kind", .word "string_agg"), ("column", .ref sight item.col)])
  | .arrayAgg item =>
      .named item.alias_ (.dict [("kind", .word "array_agg"), ("column", .ref sight item.col)])
  | .percentileCont item =>
      .named item.alias_ (.dict [("kind", .word "percentile_cont"),
        ("column", .ref sight item.col)])
  | .scalarFunction call alias_ =>
      .named alias_ (.dict [("kind", .word "scalar_fn"), ("function", .word call.fn.value),
        ("columns", .refs sight (selectItemColumnRefs (.scalarFunction call alias_)))])
  | .case when_ else_ alias_ =>
      .declares alias_ (.dict [("kind", .word "case"), ("branch_count", .count when_.length),
        ("columns", .refs sight (selectItemColumnRefs (.case when_ else_ alias_))),
        ("conditions", .list (outlineConditions sight when_))])
  | .window call alias_ =>
      .declares alias_ (.dict ([("kind", .word "window"), ("function", .word call.fn.value),
        ("columns", .refs sight (selectItemColumnRefs (.window call alias_)))] ++
        outlineWindowItem sight call))
termination_by structural item => item

/-- The outlines of a select list. -/
def outlineSelects (sight : Sight) : List SelectItem → List Outline
  | [] => []
  | item :: rest => outlineSelect sight item :: outlineSelects sight rest
termination_by structural items => items

/-- The outline of a join. -/
def outlineJoin (sight : Sight) : JoinSpec → Outline
  | ⟨table, _, type, on, _, condition, connection⟩ =>
      .dict ([("table", .name (.table table)), ("type", .word type.value)] ++
        Outline.entry "on" (on.map fun pair => .refs sight [pair.1, pair.2]) ++
        whereOutline sight "condition" condition ++
        Outline.entry "connection" ((connection.filter (· != "")).map .word))
termination_by structural join => join

/-- The outlines of a list of joins. -/
def outlineJoins (sight : Sight) : List JoinSpec → List Outline
  | [] => []
  | join :: rest => outlineJoin sight join :: outlineJoins sight rest
termination_by structural joins => joins

/-- The entry of a set operation. -/
def setOpOutline : Option SetOpSpec → List (String × Outline)
  | none => []
  | some spec => [("set_op", outlineSetOp spec)]
termination_by structural spec => spec

/-- The outline of a set operation. -/
def outlineSetOp : SetOpSpec → Outline
  | ⟨op, all, arms⟩ =>
      .dict [("op", .word op.value), ("all", .flag all), ("arms", .list (outlineQueries arms))]
termination_by structural spec => spec

/-- The outlines of a list of queries that see nothing around them. -/
def outlineQueries : List StructuredQuery → List Outline
  | [] => []
  | query :: rest => outlineIn [] query :: outlineQueries rest
termination_by structural queries => queries

/-- The outlines of the WITH blocks. -/
def outlineCtes : List CteSpec → List Outline
  | [] => []
  | spec :: rest => outlineCte spec :: outlineCtes rest
termination_by structural specs => specs

/-- The outline of a WITH block. -/
def outlineCte : CteSpec → Outline
  | ⟨name, query⟩ => .declares name (.dict [("query", outlineIn [] query)])
termination_by structural spec => spec

/-- The outline of a query inside the given frames. Its outer columns are read where
it stands, not inside it. -/
def outlineIn (around : List (List (String × String))) : StructuredQuery → Outline
  | ⟨fromTable, fromAlias, select, distinct, joins, where_, groupBy, having, orderBy, limit,
      offset, topN, setOp, correlate, ctes, intent, purpose⟩ =>
      let sight := StructuredQuery.sight ⟨fromTable, fromAlias, select, distinct, joins, where_,
        groupBy, having, orderBy, limit, offset, topN, setOp, correlate, ctes, intent, purpose⟩ around
      .dict ([("from", .name (.table fromTable)), ("select", .list (outlineSelects sight select)),
        ("joins", .list (outlineJoins sight joins)), ("group_by", .refs sight groupBy),
        ("order_by", .list (orderBy.map (Outline.order sight)))] ++
        whereOutline sight "where" where_ ++ whereOutline sight "having" having ++
        Outline.entry "top_n" (topN.map (Outline.topN sight)) ++ setOpOutline setOp ++
        (if correlate.isEmpty then []
          else [("correlate", .refs { frames := around } correlate)]) ++
        (if ctes.isEmpty then [] else [("ctes", .list (outlineCtes ctes))]))
termination_by structural query => query

end

/-- The outline of a query by itself. -/
def outline (query : StructuredQuery) : Outline :=
  outlineIn [] query

/-! ## The names of an outline -/

mutual

/-- The names of an outline, in order. -/
def Outline.tokens : Outline → List Token
  | .absent => []
  | .flag _ => []
  | .count _ => []
  | .name token => [token]
  | .list items => listTokens items
  | .dict entries => dictTokens entries
  | .declares _ body => body.tokens
termination_by structural outline => outline

/-- The names in the items of a list. -/
def listTokens : List Outline → List Token
  | [] => []
  | item :: rest => item.tokens ++ listTokens rest
termination_by structural items => items

/-- The names in the entries of a dictionary. -/
def dictTokens : List (String × Outline) → List Token
  | [] => []
  | (_, value) :: rest => value.tokens ++ dictTokens rest
termination_by structural entries => entries

end

mutual

/-- The output names an outline declares, in order. -/
def Outline.outputs : Outline → List String
  | .absent => []
  | .flag _ => []
  | .count _ => []
  | .name _ => []
  | .list items => listOutputs items
  | .dict entries => dictOutputs entries
  | .declares output body => output :: body.outputs
termination_by structural outline => outline

/-- The output names declared in the items of a list. -/
def listOutputs : List Outline → List String
  | [] => []
  | item :: rest => item.outputs ++ listOutputs rest
termination_by structural items => items

/-- The output names declared in the entries of a dictionary. -/
def dictOutputs : List (String × Outline) → List String
  | [] => []
  | (_, value) :: rest => value.outputs ++ dictOutputs rest
termination_by structural entries => entries

end

mutual

/-- An outline without its names. -/
def Outline.skeleton : Outline → Outline
  | .absent => .absent
  | .flag value => .flag value
  | .count value => .count value
  | .name _ => .word ""
  | .list items => .list (listSkeleton items)
  | .dict entries => .dict (dictSkeleton entries)
  | .declares _ body => body.skeleton
termination_by structural outline => outline

/-- The items of a list without their names. -/
def listSkeleton : List Outline → List Outline
  | [] => []
  | item :: rest => item.skeleton :: listSkeleton rest
termination_by structural items => items

/-- The entries of a dictionary without their names. -/
def dictSkeleton : List (String × Outline) → List (String × Outline)
  | [] => []
  | (key, value) :: rest => (key, value.skeleton) :: dictSkeleton rest
termination_by structural entries => entries

end

end QueryGate
