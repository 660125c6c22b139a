import QueryGate.Policy.Models
import QueryGate.Schema.Tables

/-! # Compiled statements

The SQL constructs the compiler builds, as data. A column carries the table
object it is bound to and the reference it was resolved from; a column a policy
filter injects has no reference. What a dialect adapter renders stays symbolic:
the call of the adapter's method is the expression.
-/

namespace QueryGate

open Foundation

/-- A method of the dialect adapter, with its arguments that are not columns. -/
inductive AdapterMethod where
  | dateBucket (granularity : DateGranularity)
  | orderByTerms (dir : SortDir) (nulls : Option NullsOrder)
  | statFn (fn : AggregateFn)
  | stringAgg (delimiter : String)
  | arrayAgg
  | percentileCont (fraction : PyFloat)
  | scalarFunction (fn : ExprFn)
  | windowFrame (frame : WindowFrame)
  | setOperation (op : SetOpKind) (all : Bool)
  | extractPart (part : DatePart)
  | currentTimestamp (kind : NowKind)
  | dateAdd (unit : IntervalUnit) (amount : Int)
  | columnMask (mask : ColumnMask)

mutual

/-- A SQL expression. -/
inductive SqlExpr where
  /-- A column of a table object, with the reference it was resolved from. -/
  | column (source : FromObj) (name : String) (ref : Option String)
  | literal (value : Literal)
  /-- A bound parameter. -/
  | value (value : Value)
  | binary (op : BinaryOp) (left right : SqlExpr)
  /-- A function every dialect spells alike. -/
  | function (name : String) (args : List SqlExpr)
  | aggregate (fn : AggregateFn) (distinct : Bool) (args : List SqlExpr)
  | cast (operand : SqlExpr) (target : CastType)
  | adapter (method : AdapterMethod) (args : List SqlExpr)
  | case (whens : List SqlWhen) (else_ : Option SqlExpr)
  | window (fn : WindowFn) (args partitionBy orderBy : List SqlExpr) (frame : Option WindowFrame)
  /-- A select item, reached by its output name. -/
  | output (name : String) (target : SqlExpr)
  /-- A column of a derived table, by position. -/
  | derived (position : Nat) (name : String)

/-- A branch of a searched CASE. -/
inductive SqlWhen where
  | mk (when_ : SqlCondition) (then_ : SqlExpr)

/-- A SQL condition. -/
inductive SqlCondition where
  /-- The compiled form of a predicate. -/
  | test (origin : Predicate) (operands : List SqlExpr) (subselect : Option Statement)
  | equal (left right : SqlExpr)
  /-- A filter the policy injects. -/
  | rowFilter (source : FromObj) (column : String) (value : Value)
  | countAtLeast (floor : Int)
  | always
  | and (terms : List SqlCondition)
  | or (terms : List SqlCondition)
  | not (term : SqlCondition)

/-- One element of a JOIN chain. -/
inductive SqlJoin where
  | mk (right : FromObj) (type : JoinType) (condition : SqlCondition)

/-- A projected column with its output name; `bare` marks a whole select item
that is a reference. -/
inductive SqlColumn where
  | mk (name : String) (bare : Bool) (expr : SqlExpr)

/-- The SELECT of one scope. `where_` and `having` are conjunctions. -/
inductive Select where
  | mk (path : ScopePath) (scope : StructuredQuery) (columns : List SqlColumn) (distinct : Bool)
      (base : FromObj) (joins : List SqlJoin) (where_ : List SqlCondition)
      (groupBy : List SqlExpr) (having : List SqlCondition)

/-- The rank a top-n wrapper keeps rows by. -/
inductive SqlTopN where
  | mk (n : Int) (fn : RankFn) (partitionBy orderBy : List SqlExpr)

/-- A statement: one SELECT, or the arms of a set operation, with the clauses
that follow. -/
inductive Statement where
  | mk (arms : List Select) (setOp : Option (SetOpKind × Bool)) (topN : Option SqlTopN)
      (orderBy : List SqlExpr) (limit : Option Int) (offset : Int)

end

/-- The condition of a CASE branch. -/
def SqlWhen.when_ : SqlWhen → SqlCondition
  | .mk when_ _ => when_

/-- The table object a join adds. -/
def SqlJoin.right : SqlJoin → FromObj
  | .mk right _ _ => right

/-- The type of a join. -/
def SqlJoin.type : SqlJoin → JoinType
  | .mk _ type _ => type

/-- The condition of a join. -/
def SqlJoin.condition : SqlJoin → SqlCondition
  | .mk _ _ condition => condition

/-- The output name of a projected column. -/
def SqlColumn.name : SqlColumn → String
  | .mk name _ _ => name

/-- The column is a whole select item that is a reference. -/
def SqlColumn.bare : SqlColumn → Bool
  | .mk _ bare _ => bare

/-- The expression of a projected column. -/
def SqlColumn.expr : SqlColumn → SqlExpr
  | .mk _ _ expr => expr

namespace Select

/-- The path of the scope a SELECT was compiled from. -/
def path : Select → ScopePath
  | .mk path _ _ _ _ _ _ _ _ => path

/-- The scope a SELECT was compiled from. -/
def scope : Select → StructuredQuery
  | .mk _ scope _ _ _ _ _ _ _ => scope

/-- The projected columns. -/
def columns : Select → List SqlColumn
  | .mk _ _ columns _ _ _ _ _ _ => columns

/-- The SELECT is a SELECT DISTINCT. -/
def distinct : Select → Bool
  | .mk _ _ _ distinct _ _ _ _ _ => distinct

/-- The first element of the FROM clause. -/
def base : Select → FromObj
  | .mk _ _ _ _ base _ _ _ _ => base

/-- The JOIN chain. -/
def joins : Select → List SqlJoin
  | .mk _ _ _ _ _ joins _ _ _ => joins

/-- The conjuncts of the WHERE clause. -/
def where_ : Select → List SqlCondition
  | .mk _ _ _ _ _ _ where_ _ _ => where_

/-- The GROUP BY terms. -/
def groupBy : Select → List SqlExpr
  | .mk _ _ _ _ _ _ _ groupBy _ => groupBy

/-- The conjuncts of the HAVING clause. -/
def having : Select → List SqlCondition
  | .mk _ _ _ _ _ _ _ _ having => having

/-- The table objects of the FROM and JOIN chain. -/
def fromChain (select : Select) : List FromObj :=
  select.base :: select.joins.map SqlJoin.right

end Select

namespace Statement

/-- The SELECTs a statement combines. -/
def arms : Statement → List Select
  | .mk arms _ _ _ _ _ => arms

/-- The top-n wrapper. -/
def topN : Statement → Option SqlTopN
  | .mk _ _ topN _ _ _ => topN

/-- The ORDER BY terms. -/
def orderBy : Statement → List SqlExpr
  | .mk _ _ _ orderBy _ _ => orderBy

/-- The row limit. -/
def limit : Statement → Option Int
  | .mk _ _ _ _ limit _ => limit

/-- `stmt.limit(None)`. -/
def withoutLimit : Statement → Statement
  | .mk arms setOp topN orderBy _ offset => .mk arms setOp topN orderBy none offset

@[simp] theorem arms_withoutLimit (statement : Statement) :
    statement.withoutLimit.arms = statement.arms := by
  cases statement
  rfl

end Statement

/-- What a clause mentions: a column of a table object, or a nested statement. -/
inductive SqlAtom where
  | column (source : FromObj) (name : String) (ref : Option String)
  | statement (inner : Statement)

mutual

/-- The columns and nested statements an expression mentions itself. A column
reached by its output name is mentioned as that column, without a reference. -/
def SqlExpr.atoms : SqlExpr → List SqlAtom
  | .column source name ref => [.column source name ref]
  | .literal _ => []
  | .value _ => []
  | .binary _ left right => left.atoms ++ right.atoms
  | .function _ args => expressionAtoms args
  | .aggregate _ _ args => expressionAtoms args
  | .cast operand _ => operand.atoms
  | .adapter _ args => expressionAtoms args
  | .case whens else_ => whenAtoms whens ++ optionAtoms else_
  | .window _ args partitionBy orderBy _ =>
      expressionAtoms args ++ expressionAtoms partitionBy ++ expressionAtoms orderBy
  | .output _ target => target.atoms.map fun atom => match atom with
      | .column source name _ => .column source name none
      | .statement inner => .statement inner
  | .derived _ _ => []
termination_by structural expr => expr

/-- The atoms of a list of expressions. -/
def expressionAtoms : List SqlExpr → List SqlAtom
  | [] => []
  | expr :: rest => expr.atoms ++ expressionAtoms rest
termination_by structural exprs => exprs

/-- The atoms of an optional expression. -/
def optionAtoms : Option SqlExpr → List SqlAtom
  | none => []
  | some expr => expr.atoms
termination_by structural expr => expr

/-- The atoms of CASE branches. -/
def whenAtoms : List SqlWhen → List SqlAtom
  | [] => []
  | branch :: rest => branchAtoms branch ++ whenAtoms rest
termination_by structural whens => whens

/-- The atoms of one CASE branch. -/
def branchAtoms : SqlWhen → List SqlAtom
  | .mk when_ then_ => when_.atoms ++ then_.atoms
termination_by structural branch => branch

/-- The columns and nested statements a condition mentions. -/
def SqlCondition.atoms : SqlCondition → List SqlAtom
  | .test _ operands subselect => expressionAtoms operands ++ (subselect.toList.map .statement)
  | .equal left right => left.atoms ++ right.atoms
  | .rowFilter source column _ => [.column source column none]
  | .countAtLeast _ => []
  | .always => []
  | .and terms => conditionAtoms terms
  | .or terms => conditionAtoms terms
  | .not term => term.atoms
termination_by structural condition => condition

/-- The atoms of a list of conditions. -/
def conditionAtoms : List SqlCondition → List SqlAtom
  | [] => []
  | condition :: rest => condition.atoms ++ conditionAtoms rest
termination_by structural conditions => conditions

end

theorem expressionAtoms_eq_flatMap (exprs : List SqlExpr) :
    expressionAtoms exprs = exprs.flatMap SqlExpr.atoms := by
  induction exprs with
  | nil => rfl
  | cons expr rest ih =>
      rw [expressionAtoms, ih]
      rfl

theorem conditionAtoms_eq_flatMap (conditions : List SqlCondition) :
    conditionAtoms conditions = conditions.flatMap SqlCondition.atoms := by
  induction conditions with
  | nil => rfl
  | cons condition rest ih =>
      rw [conditionAtoms, ih]
      rfl

/-- Everything the SELECT of one scope mentions. -/
def Select.atoms (select : Select) : List SqlAtom :=
  (select.columns.flatMap fun column => column.expr.atoms) ++
    (select.joins.flatMap fun join => join.condition.atoms) ++
    select.where_.flatMap SqlCondition.atoms ++
    select.groupBy.flatMap SqlExpr.atoms ++
    select.having.flatMap SqlCondition.atoms

/-- What a top-n wrapper mentions. -/
def SqlTopN.atoms : SqlTopN → List SqlAtom
  | .mk _ _ partitionBy orderBy => expressionAtoms partitionBy ++ expressionAtoms orderBy

/-- Everything the clauses after a statement's SELECTs mention. -/
def Statement.tailAtoms (statement : Statement) : List SqlAtom :=
  statement.topN.toList.flatMap SqlTopN.atoms ++ expressionAtoms statement.orderBy

@[simp] theorem Statement.tailAtoms_withoutLimit (statement : Statement) :
    statement.withoutLimit.tailAtoms = statement.tailAtoms := by
  cases statement
  rfl

/-- A statement occurs in a statement, at any depth. -/
inductive Statement.Within : Statement → Statement → Prop where
  | self {statement : Statement} : Within statement statement
  | nested {statement inner found : Statement} {arm : Select} (member : arm ∈ statement.arms)
      (mentioned : .statement inner ∈ arm.atoms) (within : Within inner found) :
      Within statement found
  | tail {statement inner found : Statement} (mentioned : .statement inner ∈ statement.tailAtoms)
      (within : Within inner found) : Within statement found

end QueryGate
