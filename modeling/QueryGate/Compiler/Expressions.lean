import QueryGate.Compiler.Statement
import QueryGate.Validation.SchemaValidation

/-! # Compiling expressions and conditions

`_compile_expression`, `_compile_window` and `_compile_where`, which call each
other through CASE conditions. A subquery is compiled by the caller: the context
hands its statement over by the index of its predicate in the scope's walk. A
context is present in WHERE and HAVING only.
-/

namespace QueryGate

open Foundation

/-- The dialect adapter, by what it refuses: a method it does not support raises. -/
abbrev DialectAdapter := AdapterMethod → List SqlExpr → Gate Unit

/-- A call of the dialect adapter. -/
def adapterCall (adapter : DialectAdapter) (method : AdapterMethod) (args : List SqlExpr) :
    Gate SqlExpr := do
  adapter method args
  pure (.adapter method args)

/-- The table object and column a reference resolves to. -/
def resolveColumnRef (tables : Tables) (colRef : String) : Gate (FromObj × ColumnDef) := do
  let (tableName, columnName) ← parseColumnRef colRef
  let table ← tableByName tables tableName
  let column ← resolveColumn table columnName
  pure (table, column)

/-- `_column`. -/
def columnExpr (tables : Tables) (colRef : String) : Gate SqlExpr := do
  let (table, column) ← resolveColumnRef tables colRef
  pure (.column table column.name (some colRef))

/-- `_resolve_scalar_arg`. -/
def resolveScalarArg (tables : Tables) : ScalarFunctionArg → Gate SqlExpr
  | .col ref => columnExpr tables ref
  | .literal value => .ok (.literal value)

/-- The call of a scalar function on its arguments. -/
def scalarCall (tables : Tables) (call : ScalarFunctionCall) : Gate SqlExpr := do
  let args ← mapAll (resolveScalarArg tables) call.args
  pure (.function call.fn.value args)

/-- `fn in _UNIVERSAL_EXPR_FNS`. -/
def ExprFn.isUniversal : ExprFn → Bool
  | .coalesce | .lower | .upper | .trim | .concat | .abs | .floor | .nullif | .replace => true
  | .ceil | .round | .length | .substring => false

/-- The call of an expression function. -/
def functionCall (adapter : DialectAdapter) (fn : ExprFn) (args : List SqlExpr) : Gate SqlExpr :=
  if fn.isUniversal then .ok (.function fn.value args)
  else adapterCall adapter (.scalarFunction fn) args

/-- An ORDER BY term of an OVER clause. -/
def windowOrderTerm (adapter : DialectAdapter) (tables : Tables) (order : OrderBySpec) :
    Gate SqlExpr := do
  let column ← columnExpr tables order.col
  adapterCall adapter (.orderByTerms order.dir order.nulls) [column]

/-- The bucket count and offset of a window call, as bound parameters. -/
def windowParameters (fn : WindowFn) (offset buckets : Option Int) : List SqlExpr :=
  (if fn = .ntile then [.value ((buckets.map Value.int).getD .null)] else []) ++
    offset.toList.map fun amount => .value (.int amount)

/-- The adapter accepts the frame of a window, if there is one. -/
def checkFrame (adapter : DialectAdapter) (frame : Option WindowFrame) : Gate Unit :=
  checkOption (fun frame => adapter (.windowFrame frame) []) frame

/-- `fn(...) OVER (...)`, once the argument is compiled. -/
def windowCallExpr (adapter : DialectAdapter) (tables : Tables) (fn : WindowFn)
    (over_ : WindowSpec) (arg : Option SqlExpr) (offset buckets : Option Int) : Gate SqlExpr := do
  checkFrame adapter over_.frame
  let partitionBy ← mapAll (columnExpr tables) over_.partitionBy
  let orderBy ← mapAll (windowOrderTerm adapter tables) over_.orderBy
  pure (.window fn (arg.toList ++ windowParameters fn offset buckets) partitionBy orderBy
    over_.frame)

/-- The output names a scope's clauses may refer to, with what they stand for. -/
abbrev AliasMap := List (String × SqlExpr)

/-- What WHERE and HAVING need to render a subquery. -/
structure WhereCtx where
  /-- The compiled subqueries of the scope, by the step that leads to each. -/
  subqueries : List (ScopeStep × Gate Statement)
  allowValueSetSubquery : Bool := true

/-- `_compile_in_subquery`, for the predicate at `index`. -/
def compileInSubquery (ctx : Option WhereCtx) (index : Nat) (op : ReadCompareOp) :
    Gate Statement :=
  match ctx with
  | none => .error (queryValidationError "IN (subquery) is only supported in a WHERE clause")
  | some ctx => do
      invalid (op.isMembership && !ctx.allowValueSetSubquery)
        "IN (subquery) is only supported in a WHERE clause"
      match dictGet ctx.subqueries (.value index) with
      | none => .error (queryValidationError "Subquery was not schema-validated")
      | some compiled => do
          let statement ← compiled
          pure statement.withoutLimit

/-- `_compile_exists`, for the predicate at `index`. -/
def compileExists (ctx : Option WhereCtx) (index : Nat) (pred : Predicate) : Gate SqlCondition :=
  match ctx with
  | none => .error (queryValidationError "EXISTS is only supported in a WHERE clause")
  | some ctx =>
      match dictGet ctx.subqueries (.existence index) with
      | none => .error (queryValidationError "EXISTS subquery was not schema-validated")
      | some compiled => do
          let statement ← compiled
          pure (.test pred [] (some statement.withoutLimit))

/-- A reference that may be an output name: `alias_map[ref]`. -/
def aliasTarget (aliasMap : AliasMap) (ref : String) : Gate SqlExpr :=
  match dictGet aliasMap ref with
  | some target => .ok (.output ref target)
  | none => .error (queryValidationError s!"Unknown column or alias {quoted ref}")

/-- The column or output name on the left of a predicate. -/
def predicateColumn (tables : Tables) (aliasMap : AliasMap) (col : Option String) : Gate SqlExpr :=
  match col with
  | none => .error ⟨.typeError, "argument of type 'NoneType' is not iterable"⟩
  | some ref => if hasDot ref then columnExpr tables ref else aliasTarget aliasMap ref

/-- `_resolve_predicate_target`, once the expression is compiled. -/
def resolvePredicateTarget (tables : Tables) (aliasMap : AliasMap) (expr : Option (Gate SqlExpr))
    (colFn : Option ScalarFunctionCall) (col : Option String) : Gate SqlExpr :=
  match expr, colFn with
  | some compiled, _ => compiled
  | none, some call => scalarCall tables call
  | none, none => predicateColumn tables aliasMap col

/-- The right-hand side of a comparison without a subquery. -/
def predicateOperand (tables : Tables) (value : Value) (valueCol : Option String)
    (valueExpr : Option (Gate SqlExpr)) : Gate SqlExpr :=
  match valueCol, valueExpr with
  | some ref, _ => columnExpr tables ref
  | none, some compiled => compiled
  | none, none => .ok (.value value)

mutual

/-- `_compile_expression`. -/
def compileExpression (adapter : DialectAdapter) (tables : Tables) : Expression → Gate SqlExpr
  | .window call => compileWindow adapter tables call
  | .column col => columnExpr tables col
  | .literal value => .ok (.literal value)
  | .binaryOp op left right => do
      let leftExpr ← compileExpression adapter tables left
      let rightExpr ← compileExpression adapter tables right
      pure (.binary op leftExpr rightExpr)
  | .function fn args => do
      let compiled ← compileArguments adapter tables args
      functionCall adapter fn compiled
  | .cast operand target => do
      let compiled ← compileExpression adapter tables operand
      pure (.cast compiled target)
  | .extract operand part => do
      let compiled ← compileExpression adapter tables operand
      adapterCall adapter (.extractPart part) [compiled]
  | .now kind => adapterCall adapter (.currentTimestamp kind) []
  | .dateAdd operand unit amount => do
      let compiled ← compileExpression adapter tables operand
      adapterCall adapter (.dateAdd unit amount) [compiled]
  | .case when_ else_ => do
      let whens ← compileBranches adapter tables when_
      let elseValue ← sequenceOption (compileOptional adapter tables else_)
      pure (.case whens elseValue)
termination_by structural expr => expr

/-- A list of expressions, compiled in order. -/
def compileArguments (adapter : DialectAdapter) (tables : Tables) :
    List Expression → Gate (List SqlExpr)
  | [] => .ok []
  | arg :: rest => do
      let compiled ← compileExpression adapter tables arg
      let others ← compileArguments adapter tables rest
      pure (compiled :: others)
termination_by structural args => args

/-- An optional expression, compiled when there is one. -/
def compileOptional (adapter : DialectAdapter) (tables : Tables) :
    Option Expression → Option (Gate SqlExpr)
  | none => none
  | some expr => some (compileExpression adapter tables expr)
termination_by structural expr => expr

/-- `_compile_window`. -/
def compileWindow (adapter : DialectAdapter) (tables : Tables) : WindowCall → Gate SqlExpr
  | ⟨fn, over_, arg, offset, buckets⟩ => do
      let compiled ← sequenceOption (compileOptional adapter tables arg)
      windowCallExpr adapter tables fn over_ compiled offset buckets
termination_by structural call => call

/-- The branches of a searched CASE. -/
def compileBranches (adapter : DialectAdapter) (tables : Tables) :
    List CaseWhen → Gate (List SqlWhen)
  | [] => .ok []
  | branch :: rest => do
      let compiled ← compileBranch adapter tables branch
      let others ← compileBranches adapter tables rest
      pure (compiled :: others)
termination_by structural branches => branches

/-- One branch of a searched CASE: its condition sees no output name and no
subquery. -/
def compileBranch (adapter : DialectAdapter) (tables : Tables) : CaseWhen → Gate SqlWhen
  | ⟨when_, then_⟩ => do
      let condition ← compileWhere adapter tables [] none 0 when_
      let value ← compileExpression adapter tables then_
      pure (.mk condition value)
termination_by structural branch => branch

/-- `_compile_where`; the first predicate of the node has the given index. -/
def compileWhere (adapter : DialectAdapter) (tables : Tables) (aliasMap : AliasMap)
    (ctx : Option WhereCtx) (index : Nat) : WhereNode → Gate SqlCondition
  | .predicate pred => compilePredicate adapter tables aliasMap ctx index pred
  | .group andTerms orTerms notTerms =>
      match notTerms with
      | some node => do
          let term ← compileWhere adapter tables aliasMap ctx index node
          pure (.not term)
      | none => do
          let terms ← (if truthyTerms andTerms
            then compileTerms adapter tables aliasMap ctx index andTerms
            else compileTerms adapter tables aliasMap ctx index orTerms)
          -- The combinator is chosen by `and_terms is not None`, the children by truth.
          pure (if andTerms.isSome then .and terms else .or terms)
termination_by structural node => node

/-- The terms of an optional list. -/
def compileTerms (adapter : DialectAdapter) (tables : Tables) (aliasMap : AliasMap)
    (ctx : Option WhereCtx) (index : Nat) : Option (List WhereNode) → Gate (List SqlCondition)
  | none => .ok []
  | some nodes => compileNodes adapter tables aliasMap ctx index nodes
termination_by structural nodes => nodes

/-- The terms of a list. -/
def compileNodes (adapter : DialectAdapter) (tables : Tables) (aliasMap : AliasMap)
    (ctx : Option WhereCtx) (index : Nat) : List WhereNode → Gate (List SqlCondition)
  | [] => .ok []
  | node :: rest => do
      let term ← compileWhere adapter tables aliasMap ctx index node
      let others ← compileNodes adapter tables aliasMap ctx
        (index + (iterWherePredicates node).length) rest
      pure (term :: others)
termination_by structural nodes => nodes

/-- A predicate: `_compile_exists`, or `_resolve_predicate_target` followed by
`_apply_predicate`. -/
def compilePredicate (adapter : DialectAdapter) (tables : Tables) (aliasMap : AliasMap)
    (ctx : Option WhereCtx) (index : Nat) : Predicate → Gate SqlCondition
  | ⟨col, expr, colFn, op, value, valueCol, valueExpr, valueSubquery, existsSubquery⟩ =>
      if op.isExists then
        compileExists ctx index
          ⟨col, expr, colFn, op, value, valueCol, valueExpr, valueSubquery, existsSubquery⟩
      else do
        let target ← resolvePredicateTarget tables aliasMap (compileOptional adapter tables expr)
          colFn col
        if valueSubquery.isSome then do
          let subselect ← compileInSubquery ctx index op
          pure (.test
            ⟨col, expr, colFn, op, value, valueCol, valueExpr, valueSubquery, existsSubquery⟩
            [target] (some subselect))
        else do
          let operand ← predicateOperand tables value valueCol
            (compileOptional adapter tables valueExpr)
          pure (.test
            ⟨col, expr, colFn, op, value, valueCol, valueExpr, valueSubquery, existsSubquery⟩
            [target, operand] none)
termination_by structural pred => pred

end

end QueryGate
