import QueryGate.Admin.ShapeValues

/-! # Queries without their values

`blankValues` puts one value of each type in the place of every value a caller can write, at
any depth. The blanked query is dumped as the redaction of the query's dump
(`StructuredQuery.dump_blankValues`).
-/

namespace QueryGate

open Foundation

/-- The type of a scalar. -/
def Value.scalarType : Value → Option ParameterType
  | .bool _ => some .boolean
  | .int _ => some .integer
  | .float _ => some .number
  | .str _ => some .string
  | _ => none

/-- The one type of all the items of a list that is not empty. -/
def Value.uniformType : List Value → Option ParameterType
  | [] => none
  | first :: rest =>
      if rest.all fun item => item.scalarType == first.scalarType then first.scalarType
      else none

/-- One value of a type. -/
def ParameterType.blankValue : ParameterType → Value
  | .boolean => .bool false
  | .integer => .int 0
  | .number => .float ⟨0⟩
  | .string => .str ""

/-- A value of the same type: only scalars and lists of scalars of one type lose their
content. -/
def Value.blank (value : Value) : Value :=
  match value.scalarType with
  | some type => type.blankValue
  | none =>
      match value with
      | .list items =>
          match Value.uniformType items with
          | some type => .list [type.blankValue]
          | none => .list items
      | value => value

/-- A literal of the same type. -/
def Literal.blank : Literal → Literal
  | .null => .null
  | .bool _ => .bool false
  | .int _ => .int 0
  | .float _ => .float ⟨0⟩
  | .str _ => .str ""

/-- A scalar function's argument with its literal blanked. -/
def ScalarFunctionArg.blankValues : ScalarFunctionArg → ScalarFunctionArg
  | .col ref => .col ref
  | .literal value => .literal value.blank

/-- A scalar function call with its literals blanked. -/
def ScalarFunctionCall.blankValues (call : ScalarFunctionCall) : ScalarFunctionCall :=
  { call with args := call.args.map ScalarFunctionArg.blankValues }

/-- A frame bound with its offset blanked. -/
def WindowBound.blankValues (bound : WindowBound) : WindowBound :=
  { bound with offset := bound.offset.map fun _ => 0 }

/-- A frame with its offsets blanked. -/
def WindowFrame.blankValues (frame : WindowFrame) : WindowFrame :=
  { frame with start := frame.start.blankValues, stop := frame.stop.blankValues }

/-- An OVER clause with its frame offsets blanked. -/
def WindowSpec.blankValues (spec : WindowSpec) : WindowSpec :=
  { spec with frame := spec.frame.map WindowFrame.blankValues }

/-- A top-n clause with its size blanked. -/
def TopNSpec.blankValues (spec : TopNSpec) : TopNSpec :=
  { spec with n := 0 }

mutual

/-- An expression with its values blanked. -/
def Expression.blankValues : Expression → Expression
  | .column col => .column col
  | .literal value => .literal value.blank
  | .binaryOp op left right => .binaryOp op left.blankValues right.blankValues
  | .function fn args => .function fn (blankExpressions args)
  | .cast operand target => .cast operand.blankValues target
  | .case when_ else_ => .case (blankBranches when_) (blankExpression else_)
  | .extract operand part => .extract operand.blankValues part
  | .now kind => .now kind
  | .dateAdd operand unit _ => .dateAdd operand.blankValues unit 0
  | .window call => .window call.blankValues
termination_by structural expr => expr

def blankExpressions : List Expression → List Expression
  | [] => []
  | expr :: rest => expr.blankValues :: blankExpressions rest
termination_by structural exprs => exprs

def blankExpression : Option Expression → Option Expression
  | none => none
  | some expr => some expr.blankValues
termination_by structural expr => expr

/-- A window call with its distance, bucket count and frame offsets blanked. -/
def WindowCall.blankValues : WindowCall → WindowCall
  | ⟨fn, over_, arg, offset, buckets⟩ =>
      ⟨fn, over_.blankValues, blankExpression arg, offset.map fun _ => 0,
        buckets.map fun _ => 0⟩
termination_by structural call => call

def CaseWhen.blankValues : CaseWhen → CaseWhen
  | ⟨when_, then_⟩ => ⟨when_.blankValues, then_.blankValues⟩
termination_by structural branch => branch

def blankBranches : List CaseWhen → List CaseWhen
  | [] => []
  | branch :: rest => branch.blankValues :: blankBranches rest
termination_by structural branches => branches

/-- A boolean tree with its values blanked. -/
def WhereNode.blankValues : WhereNode → WhereNode
  | .predicate pred => .predicate pred.blankValues
  | .group andTerms orTerms notTerms =>
      .group (blankTerms andTerms) (blankTerms orTerms) (blankNode notTerms)
termination_by structural node => node

def blankTerms : Option (List WhereNode) → Option (List WhereNode)
  | none => none
  | some nodes => some (blankNodes nodes)
termination_by structural nodes => nodes

def blankNodes : List WhereNode → List WhereNode
  | [] => []
  | node :: rest => node.blankValues :: blankNodes rest
termination_by structural nodes => nodes

def blankNode : Option WhereNode → Option WhereNode
  | none => none
  | some node => some node.blankValues
termination_by structural node => node

/-- A predicate with its values blanked. -/
def Predicate.blankValues : Predicate → Predicate
  | ⟨col, expr, colFn, op, value, valueCol, valueExpr, valueSubquery, existsSubquery⟩ =>
      ⟨col, blankExpression expr, colFn.map ScalarFunctionCall.blankValues, op, value.blank,
        valueCol, blankExpression valueExpr, blankQuery valueSubquery,
        blankQuery existsSubquery⟩
termination_by structural pred => pred

/-- A select item with its values blanked. -/
def SelectItem.blankValues : SelectItem → SelectItem
  | .bare ref => .bare ref
  | .aggregate fn col arg distinct alias_ =>
      .aggregate fn col (blankExpression arg) distinct alias_
  | .dateBucket item => .dateBucket item
  | .stringAgg item => .stringAgg { item with delimiter := "" }
  | .arrayAgg item => .arrayAgg item
  | .percentileCont item => .percentileCont { item with fraction := ⟨0⟩ }
  | .scalarFunction call alias_ => .scalarFunction call.blankValues alias_
  | .case when_ else_ alias_ => .case (blankBranches when_) (blankExpression else_) alias_
  | .expression expr alias_ => .expression expr.blankValues alias_
  | .window call alias_ => .window call.blankValues alias_
termination_by structural item => item

def blankItems : List SelectItem → List SelectItem
  | [] => []
  | item :: rest => item.blankValues :: blankItems rest
termination_by structural items => items

def JoinSpec.blankValues : JoinSpec → JoinSpec
  | ⟨table, alias_, type, on, extraOn, condition, connection⟩ =>
      ⟨table, alias_, type, on, extraOn, blankNode condition, connection⟩
termination_by structural join => join

def blankJoins : List JoinSpec → List JoinSpec
  | [] => []
  | join :: rest => join.blankValues :: blankJoins rest
termination_by structural joins => joins

def blankSetOp : Option SetOpSpec → Option SetOpSpec
  | none => none
  | some spec => some spec.blankValues
termination_by structural spec => spec

def SetOpSpec.blankValues : SetOpSpec → SetOpSpec
  | ⟨op, all, arms⟩ => ⟨op, all, blankQueries arms⟩
termination_by structural spec => spec

def CteSpec.blankValues : CteSpec → CteSpec
  | ⟨name, query⟩ => ⟨name, query.blankValues⟩
termination_by structural spec => spec

def blankCtes : List CteSpec → List CteSpec
  | [] => []
  | spec :: rest => spec.blankValues :: blankCtes rest
termination_by structural specs => specs

def blankQueries : List StructuredQuery → List StructuredQuery
  | [] => []
  | query :: rest => query.blankValues :: blankQueries rest
termination_by structural queries => queries

def blankQuery : Option StructuredQuery → Option StructuredQuery
  | none => none
  | some query => some query.blankValues
termination_by structural query => query

/-- A query with every value replaced by one of its type, and without its intent. -/
def StructuredQuery.blankValues : StructuredQuery → StructuredQuery
  | ⟨fromTable, fromAlias, select, distinct, joins, where_, groupBy, having, orderBy, limit,
      _, topN, setOp, correlate, ctes, _, purpose⟩ =>
      ⟨fromTable, fromAlias, blankItems select, distinct, blankJoins joins, blankNode where_,
        groupBy, blankNode having, orderBy, limit.map fun _ => 0, 0,
        topN.map TopNSpec.blankValues, blankSetOp setOp, correlate, blankCtes ctes, none,
        purpose⟩
termination_by structural query => query

end

/-! ## The dump of a blanked query -/

theorem scalarType_dumpValue (value : Value) :
    scalarType (fun _ => true) (dumpValue value) = value.scalarType := by
  cases value with
  | null | bool | int | float | str | list | dict => rfl

theorem uniformType_dumpValues (items : List Value) :
    uniformType (fun _ => true) (dumpValues items) = Value.uniformType items := by
  cases items with
  | nil => rfl
  | cons first rest =>
      have alike : ((dumpValues rest).all fun item =>
          scalarType (fun _ => true) item == first.scalarType) =
          rest.all fun item => item.scalarType == first.scalarType := by
        induction rest with
        | nil => rfl
        | cons item others ih =>
            rw [dumpValues, List.all_cons, List.all_cons, scalarType_dumpValue, ih]
      rw [dumpValues, uniformType, Value.uniformType, scalarType_dumpValue, alike]

theorem dumpValue_blankValue (type : ParameterType) :
    dumpValue type.blankValue = type.blank := by
  cases type
  all_goals rfl

theorem dumpValue_blank (value : Value) :
    dumpValue value.blank = redactValue (fun _ => true) (dumpValue value) := by
  unfold Value.blank redactValue
  rw [scalarType_dumpValue]
  cases value.scalarType with
  | some type => exact dumpValue_blankValue type
  | none =>
      cases value with
      | list items =>
          simp only [dumpValue]
          rw [uniformType_dumpValues]
          cases Value.uniformType items with
          | some type => rw [dumpValue, dumpValues, dumpValues, dumpValue_blankValue]
          | none => exact (nullFloats_all _).symm
      | null | bool | int | float | str | dict => exact (nullFloats_all _).symm

theorem dumpLiteral_blank (value : Literal) :
    dumpLiteral value.blank = redactValue (fun _ => true) (dumpLiteral value) := by
  cases value with
  | null | bool | int | float | str => rfl

theorem ScalarFunctionArg.dump_blankValues (arg : ScalarFunctionArg) :
    arg.blankValues.dump = redact .keepAll arg.dump := by
  cases arg with
  | col ref => rfl
  | literal value =>
      rw [blankValues, dump, dump, dumpLiteral_blank, ← keeps_keepAll "literal"]
      rfl

theorem redactItems_map {α : Type} {dump : α → Dumped} {blank : α → α} (items : List α)
    (each : ∀ item, dump (blank item) = redact .keepAll (dump item)) :
    (items.map blank).map dump = redactItems .keepAll (items.map dump) := by
  induction items with
  | nil => rfl
  | cons item rest ih => rw [List.map_cons, List.map_cons, each, ih]; rfl

theorem ScalarFunctionCall.dump_blankValues (call : ScalarFunctionCall) :
    call.blankValues.dump = redact .keepAll call.dump := by
  rw [blankValues, dump, dump, redactItems_map _ ScalarFunctionArg.dump_blankValues]
  rfl

theorem dumpCall_blankValues (call : Option ScalarFunctionCall) :
    dumpCall (call.map ScalarFunctionCall.blankValues) = redact .keepAll (dumpCall call) := by
  cases call with
  | none => rfl
  | some call => exact call.dump_blankValues

theorem dumpInt_blank (value : Option Int) :
    dumpInt (value.map fun _ => 0) = redactValue (fun _ => true) (dumpInt value) := by
  cases value with
  | none | some => rfl

theorem WindowBound.dump_blankValues (bound : WindowBound) :
    bound.blankValues.dump = redact .keepAll bound.dump := by
  rw [blankValues, dump, dump, dumpInt_blank, ← keeps_keepAll "offset"]
  rfl

theorem dumpFrame_blankValues (frame : Option WindowFrame) :
    dumpFrame (frame.map WindowFrame.blankValues) = redact .keepAll (dumpFrame frame) := by
  cases frame with
  | none => rfl
  | some frame =>
      rw [Option.map_some, dumpFrame, dumpFrame, WindowFrame.blankValues, WindowFrame.dump,
        WindowFrame.dump, WindowBound.dump_blankValues, WindowBound.dump_blankValues]
      rfl

theorem redactItems_plain {α : Type} {dump : α → Dumped} (items : List α)
    (each : ∀ item, redact .keepAll (dump item) = dump item) :
    redactItems .keepAll (items.map dump) = items.map dump := by
  induction items with
  | nil => rfl
  | cons item rest ih => rw [List.map_cons, redactItems, each, ih]

theorem redact_dumpTexts (texts : List String) :
    redact .keepAll (dumpTexts texts) = dumpTexts texts := by
  rw [dumpTexts, redact, redactItems_plain texts fun _ => rfl]

theorem redact_dumpText (text : Option String) :
    redact .keepAll (dumpText text) = dumpText text := by
  cases text with
  | none | some => rfl

theorem OrderBySpec.redact_dump (spec : OrderBySpec) :
    redact .keepAll spec.dump = spec.dump := by
  change Json.dict [_, _, ("nulls", redact .keepAll (dumpText _))] = _
  rw [redact_dumpText]
  rfl

theorem redact_dumpOrder (specs : List OrderBySpec) :
    redact .keepAll (.list (specs.map OrderBySpec.dump)) =
      .list (specs.map OrderBySpec.dump) := by
  rw [redact, redactItems_plain specs OrderBySpec.redact_dump]

theorem WindowSpec.dump_blankValues (spec : WindowSpec) :
    spec.blankValues.dump = redact .keepAll spec.dump := by
  change _ = Json.dict [("partition_by", redact .keepAll (dumpTexts _)),
    ("order_by", redact .keepAll (.list (spec.orderBy.map OrderBySpec.dump))),
    ("frame", redact .keepAll _)]
  rw [redact_dumpTexts, redact_dumpOrder, ← dumpFrame_blankValues]
  rfl

theorem dumpTopN_blankValues (spec : Option TopNSpec) :
    dumpTopN (spec.map TopNSpec.blankValues) = redact .keepAll (dumpTopN spec) := by
  cases spec with
  | none => rfl
  | some spec =>
      change _ = Json.dict [("partition_by", redact .keepAll (dumpTexts _)),
        ("order_by", redact .keepAll (.list (spec.orderBy.map OrderBySpec.dump))), _, _]
      rw [redact_dumpTexts, redact_dumpOrder]
      rfl

theorem redact_dumpOn (pair : Option (String × String)) :
    redact .keepAll (dumpOn pair) = dumpOn pair := by
  cases pair with
  | none | some => rfl

theorem redact_dumpPairs (pairs : List (String × String)) :
    redact .keepAll (.list (pairs.map dumpPair)) = .list (pairs.map dumpPair) := by
  rw [redact, redactItems_plain pairs fun _ => rfl]

theorem redactEntries_append (numbers : NumberDump) (entries more : List (String × Dumped)) :
    redactEntries numbers (entries ++ more) =
      redactEntries numbers entries ++ redactEntries numbers more := by
  induction entries with
  | nil => rfl
  | cons entry rest ih =>
      obtain ⟨key, value⟩ := entry
      rw [List.cons_append, redactEntries, redactEntries, ih, List.cons_append]

mutual

/-- A blanked expression is dumped as the redaction of the expression's dump. -/
theorem Expression.dump_blankValues : ∀ expr : Expression,
    expr.blankValues.dump = redact .keepAll expr.dump
  | .column _ => rfl
  | .literal value => by
      rw [Expression.blankValues, Expression.dump, Expression.dump, dumpLiteral_blank,
        ← keeps_keepAll "literal"]
      rfl
  | .binaryOp op left right => by
      rw [Expression.blankValues, Expression.dump, Expression.dump, left.dump_blankValues,
        right.dump_blankValues]
      rfl
  | .function fn args => by
      rw [Expression.blankValues, Expression.dump, Expression.dump,
        dumpExpressions_blankValues args]
      rfl
  | .cast operand target => by
      rw [Expression.blankValues, Expression.dump, Expression.dump, operand.dump_blankValues]
      rfl
  | .case when_ else_ => by
      rw [Expression.blankValues, Expression.dump, Expression.dump, dumpBranches_blankValues when_,
        dumpExpression_blankValues else_]
      rfl
  | .extract operand part => by
      rw [Expression.blankValues, Expression.dump, Expression.dump, operand.dump_blankValues]
      rfl
  | .now _ => rfl
  | .dateAdd operand unit amount => by
      rw [Expression.blankValues, Expression.dump, Expression.dump, operand.dump_blankValues]
      rfl
  | .window call => by
      rw [Expression.blankValues, Expression.dump, Expression.dump, call.dumpFields_blankValues,
        redact]
termination_by structural expr => expr

theorem dumpExpressions_blankValues : ∀ exprs : List Expression,
    dumpExpressions (blankExpressions exprs) = redactItems .keepAll (dumpExpressions exprs)
  | [] => rfl
  | expr :: rest => by
      rw [blankExpressions, dumpExpressions, dumpExpressions, redactItems,
        expr.dump_blankValues, dumpExpressions_blankValues rest]
termination_by structural exprs => exprs

theorem dumpExpression_blankValues : ∀ expr : Option Expression,
    dumpExpression (blankExpression expr) = redact .keepAll (dumpExpression expr)
  | none => rfl
  | some expr => by
      rw [blankExpression, dumpExpression, dumpExpression, expr.dump_blankValues]
termination_by structural expr => expr

theorem WindowCall.dumpFields_blankValues : ∀ call : WindowCall,
    call.blankValues.dumpFields = redactEntries .keepAll call.dumpFields
  | ⟨fn, over_, arg, offset, buckets⟩ => by
      rw [WindowCall.blankValues, WindowCall.dumpFields, WindowCall.dumpFields,
        over_.dump_blankValues,
        dumpExpression_blankValues arg, dumpInt_blank offset, dumpInt_blank buckets]
      rw [redactEntries, redactEntries, redactEntries, redactEntries, redactEntries,
        keeps_keepAll, keeps_keepAll]
      rfl
termination_by structural call => call

theorem CaseWhen.dump_blankValues : ∀ branch : CaseWhen,
    branch.blankValues.dump = redact .keepAll branch.dump
  | ⟨when_, then_⟩ => by
      rw [CaseWhen.blankValues, CaseWhen.dump, CaseWhen.dump, when_.dump_blankValues,
        then_.dump_blankValues]
      rfl
termination_by structural branch => branch

theorem dumpBranches_blankValues : ∀ branches : List CaseWhen,
    dumpBranches (blankBranches branches) = redactItems .keepAll (dumpBranches branches)
  | [] => rfl
  | branch :: rest => by
      rw [blankBranches, dumpBranches, dumpBranches, redactItems, branch.dump_blankValues,
        dumpBranches_blankValues rest]
termination_by structural branches => branches

/-- A blanked boolean tree is dumped as the redaction of the tree's dump. -/
theorem WhereNode.dump_blankValues : ∀ node : WhereNode,
    node.blankValues.dump = redact .keepAll node.dump
  | .predicate pred => by
      rw [WhereNode.blankValues, WhereNode.dump, WhereNode.dump, pred.dump_blankValues]
  | .group andTerms orTerms notTerms => by
      rw [WhereNode.blankValues, WhereNode.dump, WhereNode.dump, dumpTerms_blankValues andTerms,
        dumpTerms_blankValues orTerms, dumpNode_blankValues notTerms]
      rfl
termination_by structural node => node

theorem dumpTerms_blankValues : ∀ nodes : Option (List WhereNode),
    dumpTerms (blankTerms nodes) = redact .keepAll (dumpTerms nodes)
  | none => rfl
  | some nodes => by
      rw [blankTerms, dumpTerms, dumpTerms, redact, dumpNodes_blankValues nodes]
termination_by structural nodes => nodes

theorem dumpNodes_blankValues : ∀ nodes : List WhereNode,
    dumpNodes (blankNodes nodes) = redactItems .keepAll (dumpNodes nodes)
  | [] => rfl
  | node :: rest => by
      rw [blankNodes, dumpNodes, dumpNodes, redactItems, node.dump_blankValues,
        dumpNodes_blankValues rest]
termination_by structural nodes => nodes

theorem dumpNode_blankValues : ∀ node : Option WhereNode,
    dumpNode (blankNode node) = redact .keepAll (dumpNode node)
  | none => rfl
  | some node => by rw [blankNode, dumpNode, dumpNode, node.dump_blankValues]
termination_by structural node => node

/-- A blanked predicate is dumped as the redaction of the predicate's dump. -/
theorem Predicate.dump_blankValues : ∀ pred : Predicate,
    pred.blankValues.dump = redact .keepAll pred.dump
  | ⟨col, expr, colFn, op, value, valueCol, valueExpr, valueSubquery, existsSubquery⟩ => by
      rw [Predicate.blankValues, Predicate.dump, Predicate.dump,
        dumpExpression_blankValues expr, dumpCall_blankValues, dumpValue_blank,
        dumpExpression_blankValues valueExpr, dumpQuery_blankValues valueSubquery,
        dumpQuery_blankValues existsSubquery, ← keeps_keepAll "value"]
      change _ = Json.dict [("col", redact .keepAll (dumpText col)), _, _, _, _,
        ("value_col", redact .keepAll (dumpText valueCol)), _, _, _]
      rw [redact_dumpText, redact_dumpText]
      rfl
termination_by structural pred => pred

/-- A blanked select item is dumped as the redaction of the item's dump. -/
theorem SelectItem.dump_blankValues : ∀ item : SelectItem,
    item.blankValues.dump = redact .keepAll item.dump
  | .bare _ => rfl
  | .aggregate fn col arg distinct alias_ => by
      rw [SelectItem.blankValues, SelectItem.dump, SelectItem.dump,
        dumpExpression_blankValues arg]
      change _ = Json.dict [_, ("col", redact .keepAll (dumpText col)), _, _,
        ("alias", redact .keepAll (dumpText alias_))]
      rw [redact_dumpText, redact_dumpText]
      rfl
  | .dateBucket item => by
      change _ = Json.dict [_, _, ("alias", redact .keepAll (dumpText item.alias_))]
      rw [redact_dumpText]
      rfl
  | .stringAgg item => by
      change _ = Json.dict [_, _, ("alias", redact .keepAll (dumpText item.alias_))]
      rw [redact_dumpText]
      rfl
  | .arrayAgg item => by
      change _ = Json.dict [_, ("alias", redact .keepAll (dumpText item.alias_))]
      rw [redact_dumpText]
      rfl
  | .percentileCont item => by
      change _ = Json.dict [_, _, ("alias", redact .keepAll (dumpText item.alias_))]
      rw [redact_dumpText]
      rfl
  | .scalarFunction call alias_ => by
      rw [SelectItem.blankValues, SelectItem.dump, SelectItem.dump,
        ScalarFunctionCall.blankValues,
        redactItems_map _ ScalarFunctionArg.dump_blankValues]
      change _ = Json.dict [_, _, ("alias", redact .keepAll (dumpText alias_))]
      rw [redact_dumpText]
      rfl
  | .case when_ else_ alias_ => by
      rw [SelectItem.blankValues, SelectItem.dump, SelectItem.dump,
        dumpBranches_blankValues when_, dumpExpression_blankValues else_]
      rfl
  | .expression expr alias_ => by
      rw [SelectItem.blankValues, SelectItem.dump, SelectItem.dump, expr.dump_blankValues]
      rfl
  | .window call alias_ => by
      rw [SelectItem.blankValues, SelectItem.dump, SelectItem.dump,
        call.dumpFields_blankValues, redact, redactEntries_append]
      rfl
termination_by structural item => item

theorem dumpItems_blankValues : ∀ items : List SelectItem,
    dumpItems (blankItems items) = redactItems .keepAll (dumpItems items)
  | [] => rfl
  | item :: rest => by
      rw [blankItems, dumpItems, dumpItems, redactItems, item.dump_blankValues,
        dumpItems_blankValues rest]
termination_by structural items => items

theorem JoinSpec.dump_blankValues : ∀ join : JoinSpec,
    join.blankValues.dump = redact .keepAll join.dump
  | ⟨table, alias_, type, on, extraOn, condition, connection⟩ => by
      rw [JoinSpec.blankValues, JoinSpec.dump, JoinSpec.dump, dumpNode_blankValues condition]
      change _ = Json.dict [_, ("alias", redact .keepAll (dumpText alias_)), _,
        ("on", redact .keepAll (dumpOn on)),
        ("extra_on", redact .keepAll (.list (extraOn.map dumpPair))), _,
        ("connection", redact .keepAll (dumpText connection))]
      rw [redact_dumpText, redact_dumpOn, redact_dumpPairs, redact_dumpText]
      rfl
termination_by structural join => join

theorem dumpJoins_blankValues : ∀ joins : List JoinSpec,
    dumpJoins (blankJoins joins) = redactItems .keepAll (dumpJoins joins)
  | [] => rfl
  | join :: rest => by
      rw [blankJoins, dumpJoins, dumpJoins, redactItems, join.dump_blankValues,
        dumpJoins_blankValues rest]
termination_by structural joins => joins

theorem dumpSetOp_blankValues : ∀ spec : Option SetOpSpec,
    dumpSetOp (blankSetOp spec) = redact .keepAll (dumpSetOp spec)
  | none => rfl
  | some spec => by rw [blankSetOp, dumpSetOp, dumpSetOp, spec.dump_blankValues]
termination_by structural spec => spec

theorem SetOpSpec.dump_blankValues : ∀ spec : SetOpSpec,
    spec.blankValues.dump = redact .keepAll spec.dump
  | ⟨op, all, arms⟩ => by
      rw [SetOpSpec.blankValues, SetOpSpec.dump, SetOpSpec.dump, dumpQueries_blankValues arms]
      rfl
termination_by structural spec => spec

theorem CteSpec.dump_blankValues : ∀ spec : CteSpec,
    spec.blankValues.dump = redact .keepAll spec.dump
  | ⟨name, query⟩ => by
      rw [CteSpec.blankValues, CteSpec.dump, CteSpec.dump, query.dump_blankValues]
      rfl
termination_by structural spec => spec

theorem dumpCtes_blankValues : ∀ specs : List CteSpec,
    dumpCtes (blankCtes specs) = redactItems .keepAll (dumpCtes specs)
  | [] => rfl
  | spec :: rest => by
      rw [blankCtes, dumpCtes, dumpCtes, redactItems, spec.dump_blankValues,
        dumpCtes_blankValues rest]
termination_by structural specs => specs

theorem dumpQueries_blankValues : ∀ queries : List StructuredQuery,
    dumpQueries (blankQueries queries) = redactItems .keepAll (dumpQueries queries)
  | [] => rfl
  | query :: rest => by
      rw [blankQueries, dumpQueries, dumpQueries, redactItems, query.dump_blankValues,
        dumpQueries_blankValues rest]
termination_by structural queries => queries

theorem dumpQuery_blankValues : ∀ query : Option StructuredQuery,
    dumpQuery (blankQuery query) = redact .keepAll (dumpQuery query)
  | none => rfl
  | some query => by rw [blankQuery, dumpQuery, dumpQuery, query.dump_blankValues]
termination_by structural query => query

/-- A blanked query is dumped as the redaction of the query's dump. -/
theorem StructuredQuery.dump_blankValues : ∀ query : StructuredQuery,
    query.blankValues.dump = redact .keepAll query.dump
  | ⟨fromTable, fromAlias, select, distinct, joins, where_, groupBy, having, orderBy, limit,
      offset, topN, setOp, correlate, ctes, intent, purpose⟩ => by
      rw [StructuredQuery.blankValues, StructuredQuery.dump, StructuredQuery.dump,
        dumpItems_blankValues select, dumpJoins_blankValues joins,
        dumpNode_blankValues where_, dumpNode_blankValues having, dumpInt_blank limit,
        dumpTopN_blankValues topN, dumpSetOp_blankValues setOp, dumpCtes_blankValues ctes,
        ← keeps_keepAll "limit"]
      change _ = Json.dict [("from_table", .str fromTable),
        ("from_alias", redact .keepAll (dumpText fromAlias)),
        ("select", .list (redactItems .keepAll (dumpItems select))), ("distinct", .bool distinct),
        ("joins", .list (redactItems .keepAll (dumpJoins joins))),
        ("where", redact .keepAll (dumpNode where_)),
        ("group_by", redact .keepAll (dumpTexts groupBy)),
        ("having", redact .keepAll (dumpNode having)),
        ("order_by", redact .keepAll (.list (orderBy.map OrderBySpec.dump))),
        ("limit", redactValue (NumberDump.keepAll.keeps "limit") (dumpInt limit)),
        ("offset", .int 0), ("top_n", redact .keepAll (dumpTopN topN)),
        ("set_op", redact .keepAll (dumpSetOp setOp)),
        ("correlate", redact .keepAll (dumpTexts correlate)),
        ("ctes", .list (redactItems .keepAll (dumpCtes ctes))), ("intent", .null),
        ("purpose", redact .keepAll (dumpText purpose))]
      rw [redact_dumpText, redact_dumpTexts, redact_dumpOrder, redact_dumpTexts,
        redact_dumpText]
      rfl
termination_by structural query => query

end

/-! ## Keys of a query's dump -/

theorem itemsApart_map {α : Type} {dump : α → Dumped} (items : List α)
    (each : ∀ item, KeysApart (dump item)) : ItemsApart (items.map dump) := by
  induction items with
  | nil => trivial
  | cons item rest ih => exact ⟨each item, ih⟩

theorem entriesApart_append {entries more : List (String × Dumped)} :
    EntriesApart (entries ++ more) ↔ EntriesApart entries ∧ EntriesApart more := by
  induction entries with
  | nil => exact ⟨fun apart => ⟨trivial, apart⟩, And.right⟩
  | cons entry rest ih =>
      obtain ⟨key, value⟩ := entry
      rw [List.cons_append, EntriesApart, EntriesApart, ih, and_assoc]

theorem keysApart_dumpText (text : Option String) : KeysApart (dumpText text) := by
  cases text with
  | none | some => trivial

theorem keysApart_dumpTexts (texts : List String) : KeysApart (dumpTexts texts) :=
  itemsApart_map texts fun _ => trivial

theorem keysApart_dumpPairs (pairs : List (String × String)) :
    KeysApart (.list (pairs.map dumpPair)) :=
  itemsApart_map pairs fun _ => ⟨trivial, trivial, trivial⟩

theorem keysApart_dumpOn (pair : Option (String × String)) : KeysApart (dumpOn pair) := by
  cases pair with
  | none => trivial
  | some pair => exact ⟨trivial, trivial, trivial⟩

theorem ScalarFunctionArg.keysApart_dump (arg : ScalarFunctionArg) : KeysApart arg.dump := by
  cases arg with
  | col ref => exact ⟨List.nodup_singleton _, fun _ => trivial, trivial⟩
  | literal value =>
      refine ⟨List.nodup_singleton _, fun plain => absurd ?_ plain, trivial⟩
      decide

theorem keysApart_dumpCall (call : Option ScalarFunctionCall) : KeysApart (dumpCall call) := by
  cases call with
  | none => trivial
  | some call =>
      refine ⟨?_, fun _ => trivial, fun _ => ?_, trivial⟩
      · simp [dictKeys]
      · exact itemsApart_map _ ScalarFunctionArg.keysApart_dump

theorem OrderBySpec.keysApart_dump (spec : OrderBySpec) : KeysApart spec.dump := by
  refine ⟨?_, fun _ => trivial, fun _ => trivial, fun _ => keysApart_dumpText _, trivial⟩
  simp [dictKeys]

theorem keysApart_dumpOrder (specs : List OrderBySpec) :
    KeysApart (.list (specs.map OrderBySpec.dump)) :=
  itemsApart_map specs OrderBySpec.keysApart_dump

theorem keysApart_dumpInt (value : Option Int) : KeysApart (dumpInt value) := by
  cases value with
  | none | some => trivial

theorem WindowBound.keysApart_dump (bound : WindowBound) : KeysApart bound.dump := by
  refine ⟨?_, fun _ => trivial, fun _ => keysApart_dumpInt _, trivial⟩
  simp [dictKeys]

theorem keysApart_dumpFrame (frame : Option WindowFrame) : KeysApart (dumpFrame frame) := by
  cases frame with
  | none => trivial
  | some frame =>
      refine ⟨?_, fun _ => trivial, fun _ => frame.start.keysApart_dump,
        fun _ => frame.stop.keysApart_dump, trivial⟩
      simp [dictKeys]

theorem WindowSpec.keysApart_dump (spec : WindowSpec) : KeysApart spec.dump := by
  refine ⟨?_, fun _ => keysApart_dumpTexts _, fun _ => keysApart_dumpOrder _,
    fun _ => keysApart_dumpFrame _, trivial⟩
  simp [dictKeys]

theorem keysApart_dumpTopN (spec : Option TopNSpec) : KeysApart (dumpTopN spec) := by
  cases spec with
  | none => trivial
  | some spec =>
      refine ⟨?_, fun _ => keysApart_dumpTexts _, fun _ => keysApart_dumpOrder _,
        fun _ => trivial, fun _ => trivial, trivial⟩
      simp [dictKeys]

theorem WindowCall.keys_dumpFields (call : WindowCall) :
    dictKeys call.dumpFields = ["fn", "over", "arg", "offset", "buckets"] := by
  cases call
  rfl

mutual

/-- No object in an expression's dump has a key twice. -/
theorem Expression.keysApart_dump : ∀ expr : Expression, KeysApart expr.dump
  | .column _ => ⟨List.nodup_singleton _, fun _ => trivial, trivial⟩
  | .literal _ => ⟨List.nodup_singleton _, fun plain => absurd (by decide) plain, trivial⟩
  | .binaryOp op left right =>
      ⟨by simp [dictKeys], fun _ => trivial, fun _ => left.keysApart_dump,
        fun _ => right.keysApart_dump, trivial⟩
  | .function fn args =>
      ⟨by simp [dictKeys], fun _ => trivial, fun _ => itemsApart_dumpExpressions args, trivial⟩
  | .cast operand target =>
      ⟨by simp [dictKeys], fun _ => operand.keysApart_dump, fun _ => trivial, trivial⟩
  | .case when_ else_ =>
      ⟨by simp [dictKeys], fun _ => itemsApart_dumpBranches when_,
        fun _ => keysApart_dumpExpression else_, trivial⟩
  | .extract operand part =>
      ⟨by simp [dictKeys], fun _ => operand.keysApart_dump, fun _ => trivial, trivial⟩
  | .now _ => ⟨List.nodup_singleton _, fun _ => trivial, trivial⟩
  | .dateAdd operand unit amount =>
      ⟨by simp [dictKeys], fun _ => operand.keysApart_dump, fun _ => trivial, fun _ => trivial,
        trivial⟩
  | .window call => by
      refine ⟨?_, call.entriesApart_dumpFields⟩
      rw [call.keys_dumpFields]
      decide
termination_by structural expr => expr

theorem itemsApart_dumpExpressions : ∀ exprs : List Expression,
    ItemsApart (dumpExpressions exprs)
  | [] => trivial
  | expr :: rest => ⟨expr.keysApart_dump, itemsApart_dumpExpressions rest⟩
termination_by structural exprs => exprs

theorem keysApart_dumpExpression : ∀ expr : Option Expression, KeysApart (dumpExpression expr)
  | none => trivial
  | some expr => expr.keysApart_dump
termination_by structural expr => expr

theorem WindowCall.entriesApart_dumpFields : ∀ call : WindowCall, EntriesApart call.dumpFields
  | ⟨_, over_, arg, _, _⟩ =>
      ⟨fun _ => trivial, fun _ => over_.keysApart_dump, fun _ => keysApart_dumpExpression arg,
        fun _ => keysApart_dumpInt _, fun _ => keysApart_dumpInt _, trivial⟩
termination_by structural call => call

theorem CaseWhen.keysApart_dump : ∀ branch : CaseWhen, KeysApart branch.dump
  | ⟨when_, then_⟩ =>
      ⟨by simp [dictKeys], fun _ => when_.keysApart_dump, fun _ => then_.keysApart_dump,
        trivial⟩
termination_by structural branch => branch

theorem itemsApart_dumpBranches : ∀ branches : List CaseWhen,
    ItemsApart (dumpBranches branches)
  | [] => trivial
  | branch :: rest => ⟨branch.keysApart_dump, itemsApart_dumpBranches rest⟩
termination_by structural branches => branches

/-- No object in a boolean tree's dump has a key twice. -/
theorem WhereNode.keysApart_dump : ∀ node : WhereNode, KeysApart node.dump
  | .predicate pred => pred.keysApart_dump
  | .group andTerms orTerms notTerms =>
      ⟨by simp [dictKeys], fun _ => keysApart_dumpTerms andTerms,
        fun _ => keysApart_dumpTerms orTerms, fun _ => keysApart_dumpNode notTerms, trivial⟩
termination_by structural node => node

theorem keysApart_dumpTerms : ∀ nodes : Option (List WhereNode), KeysApart (dumpTerms nodes)
  | none => trivial
  | some nodes => itemsApart_dumpNodes nodes
termination_by structural nodes => nodes

theorem itemsApart_dumpNodes : ∀ nodes : List WhereNode, ItemsApart (dumpNodes nodes)
  | [] => trivial
  | node :: rest => ⟨node.keysApart_dump, itemsApart_dumpNodes rest⟩
termination_by structural nodes => nodes

theorem keysApart_dumpNode : ∀ node : Option WhereNode, KeysApart (dumpNode node)
  | none => trivial
  | some node => node.keysApart_dump
termination_by structural node => node

/-- No object in a predicate's dump has a key twice, but for the objects in its value. -/
theorem Predicate.keysApart_dump : ∀ pred : Predicate, KeysApart pred.dump
  | ⟨_, expr, colFn, _, _, _, valueExpr, valueSubquery, existsSubquery⟩ =>
      ⟨by simp [dictKeys], fun _ => keysApart_dumpText _, fun _ => keysApart_dumpExpression expr,
        fun _ => keysApart_dumpCall colFn, fun _ => trivial,
        fun plain => absurd (by decide) plain, fun _ => keysApart_dumpText _,
        fun _ => keysApart_dumpExpression valueExpr, fun _ => keysApart_dumpQuery valueSubquery,
        fun _ => keysApart_dumpQuery existsSubquery, trivial⟩
termination_by structural pred => pred

/-- No object in a select item's dump has a key twice. -/
theorem SelectItem.keysApart_dump : ∀ item : SelectItem, KeysApart item.dump
  | .bare _ => trivial
  | .aggregate _ _ arg _ _ =>
      ⟨by simp [dictKeys], fun _ => trivial, fun _ => keysApart_dumpText _,
        fun _ => keysApart_dumpExpression arg, fun _ => trivial,
        fun _ => keysApart_dumpText _, trivial⟩
  | .dateBucket _ =>
      ⟨by simp [dictKeys], fun _ => trivial, fun _ => trivial, fun _ => keysApart_dumpText _,
        trivial⟩
  | .stringAgg _ =>
      ⟨by simp [dictKeys], fun _ => trivial, fun _ => trivial, fun _ => keysApart_dumpText _,
        trivial⟩
  | .arrayAgg _ =>
      ⟨by simp [dictKeys], fun _ => trivial, fun _ => keysApart_dumpText _, trivial⟩
  | .percentileCont _ =>
      ⟨by simp [dictKeys], fun _ => trivial, fun _ => trivial, fun _ => keysApart_dumpText _,
        trivial⟩
  | .scalarFunction call _ =>
      ⟨by simp [dictKeys], fun _ => trivial,
        fun _ => itemsApart_map call.args ScalarFunctionArg.keysApart_dump,
        fun _ => keysApart_dumpText _, trivial⟩
  | .case when_ else_ _ =>
      ⟨by simp [dictKeys], fun _ => itemsApart_dumpBranches when_,
        fun _ => keysApart_dumpExpression else_, fun _ => trivial, trivial⟩
  | .expression expr _ =>
      ⟨by simp [dictKeys], fun _ => expr.keysApart_dump, fun _ => trivial, trivial⟩
  | .window call _ => by
      refine ⟨?_, entriesApart_append.mpr
        ⟨call.entriesApart_dumpFields, fun _ => trivial, trivial⟩⟩
      rw [dictKeys, List.map_append, ← dictKeys, call.keys_dumpFields]
      simp
termination_by structural item => item

theorem itemsApart_dumpItems : ∀ items : List SelectItem, ItemsApart (dumpItems items)
  | [] => trivial
  | item :: rest => ⟨item.keysApart_dump, itemsApart_dumpItems rest⟩
termination_by structural items => items

theorem JoinSpec.keysApart_dump : ∀ join : JoinSpec, KeysApart join.dump
  | ⟨_, _, _, _, _, condition, _⟩ =>
      ⟨by simp [dictKeys], fun _ => trivial, fun _ => keysApart_dumpText _, fun _ => trivial,
        fun _ => keysApart_dumpOn _, fun _ => keysApart_dumpPairs _,
        fun _ => keysApart_dumpNode condition, fun _ => keysApart_dumpText _, trivial⟩
termination_by structural join => join

theorem itemsApart_dumpJoins : ∀ joins : List JoinSpec, ItemsApart (dumpJoins joins)
  | [] => trivial
  | join :: rest => ⟨join.keysApart_dump, itemsApart_dumpJoins rest⟩
termination_by structural joins => joins

theorem keysApart_dumpSetOp : ∀ spec : Option SetOpSpec, KeysApart (dumpSetOp spec)
  | none => trivial
  | some spec => spec.keysApart_dump
termination_by structural spec => spec

theorem SetOpSpec.keysApart_dump : ∀ spec : SetOpSpec, KeysApart spec.dump
  | ⟨_, _, arms⟩ =>
      ⟨by simp [dictKeys], fun _ => trivial, fun _ => trivial,
        fun _ => itemsApart_dumpQueries arms, trivial⟩
termination_by structural spec => spec

theorem CteSpec.keysApart_dump : ∀ spec : CteSpec, KeysApart spec.dump
  | ⟨_, query⟩ =>
      ⟨by simp [dictKeys], fun _ => trivial, fun _ => query.keysApart_dump, trivial⟩
termination_by structural spec => spec

theorem itemsApart_dumpCtes : ∀ specs : List CteSpec, ItemsApart (dumpCtes specs)
  | [] => trivial
  | spec :: rest => ⟨spec.keysApart_dump, itemsApart_dumpCtes rest⟩
termination_by structural specs => specs

theorem itemsApart_dumpQueries : ∀ queries : List StructuredQuery,
    ItemsApart (dumpQueries queries)
  | [] => trivial
  | query :: rest => ⟨query.keysApart_dump, itemsApart_dumpQueries rest⟩
termination_by structural queries => queries

theorem keysApart_dumpQuery : ∀ query : Option StructuredQuery, KeysApart (dumpQuery query)
  | none => trivial
  | some query => query.keysApart_dump
termination_by structural query => query

/-- No object in a query's dump has a key twice, but for the objects in its values. -/
theorem StructuredQuery.keysApart_dump : ∀ query : StructuredQuery, KeysApart query.dump
  | ⟨_, _, select, _, joins, where_, _, having, _, _, _, topN, setOp, _, ctes, _, _⟩ =>
      ⟨by simp [dictKeys], fun _ => trivial, fun _ => keysApart_dumpText _,
        fun _ => itemsApart_dumpItems select, fun _ => trivial,
        fun _ => itemsApart_dumpJoins joins, fun _ => keysApart_dumpNode where_,
        fun _ => keysApart_dumpTexts _, fun _ => keysApart_dumpNode having,
        fun _ => keysApart_dumpOrder _, fun _ => keysApart_dumpInt _, fun _ => trivial,
        fun _ => keysApart_dumpTopN topN, fun _ => keysApart_dumpSetOp setOp,
        fun _ => keysApart_dumpTexts _, fun _ => itemsApart_dumpCtes ctes,
        fun _ => keysApart_dumpText _, fun _ => keysApart_dumpText _, trivial⟩
termination_by structural query => query

end

end QueryGate
