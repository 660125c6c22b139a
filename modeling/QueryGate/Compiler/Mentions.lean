import QueryGate.Compiler.Compile
import QueryGate.Validation.ScopeCoverage

/-! # What compiled clauses mention

Every column a compiled expression or condition mentions was resolved from a
reference of the source expression, or is reached by an output name; every
statement it mentions was handed over by the context. One lemma per compiling
function states this; no other proof unfolds them.
-/

namespace QueryGate

open Foundation

/-- Where an atom of a compiled clause comes from: a reference resolved through the
tables, an output name, or a subquery's statement. -/
inductive Mentions (tables : Tables) (refs : List String) (aliasMap : AliasMap)
    (subqueries : List (ScopeStep × Gate Statement)) : SqlAtom → Prop where
  | column {ref : String} {source : FromObj} {column : ColumnDef} (member : ref ∈ refs)
      (resolved : resolveColumnRef tables ref = .ok (source, column)) :
      Mentions tables refs aliasMap subqueries (.column source column.name (some ref))
  | output {name : String} {target : SqlExpr} {atom : SqlAtom}
      (member : (name, target) ∈ aliasMap) (mentioned : atom ∈ (SqlExpr.output name target).atoms) :
      Mentions tables refs aliasMap subqueries atom
  | subquery {step : ScopeStep} {statement : Statement}
      (member : (step, .ok statement) ∈ subqueries) :
      Mentions tables refs aliasMap subqueries (.statement statement.withoutLimit)

section

variable {tables : Tables} {refs : List String} {aliasMap : AliasMap}
  {subqueries : List (ScopeStep × Gate Statement)}

/-- What mentions references only does so in any context. -/
theorem Mentions.weaken {more : List String} {atom : SqlAtom}
    (mentioned : Mentions tables refs [] [] atom) (subset : refs ⊆ more) :
    Mentions tables more aliasMap subqueries atom := by
  cases mentioned with
  | column member resolved => exact .column (subset member) resolved
  | output member _ => cases member
  | subquery member => cases member

/-- All atoms of an expression come from the given sources. -/
def SqlExpr.MentionsOnly (expr : SqlExpr) (tables : Tables) (refs : List String)
    (aliasMap : AliasMap) (subqueries : List (ScopeStep × Gate Statement)) : Prop :=
  ∀ atom ∈ expr.atoms, Mentions tables refs aliasMap subqueries atom

theorem columnExpr_eq_ok {ref : String} {expr : SqlExpr}
    (compiled : columnExpr tables ref = .ok expr) :
    ∃ source column, resolveColumnRef tables ref = .ok (source, column) ∧
      expr = .column source column.name (some ref) := by
  rw [columnExpr, bind_eq_ok_iff] at compiled
  obtain ⟨⟨source, column⟩, resolved, returned⟩ := compiled
  cases returned
  exact ⟨source, column, resolved, rfl⟩

theorem columnExpr_mentions {ref : String} {expr : SqlExpr}
    (compiled : columnExpr tables ref = .ok expr) (member : ref ∈ refs) :
    expr.MentionsOnly tables refs aliasMap subqueries := by
  obtain ⟨source, column, resolved, rfl⟩ := columnExpr_eq_ok compiled
  intro atom mentioned
  rw [SqlExpr.atoms, List.mem_singleton] at mentioned
  rw [mentioned]
  exact .column member resolved

theorem adapterCall_eq_ok {adapter : DialectAdapter} {method : AdapterMethod} {args : List SqlExpr}
    {expr : SqlExpr} (compiled : adapterCall adapter method args = .ok expr) :
    expr = .adapter method args := by
  rw [adapterCall, seq_eq_ok_iff] at compiled
  obtain ⟨_, returned⟩ := compiled
  cases returned
  rfl

/-- All atoms of a list of expressions come from the given sources. -/
theorem expressionAtoms_mentions {exprs : List SqlExpr}
    (each : ∀ expr ∈ exprs, expr.MentionsOnly tables refs aliasMap subqueries) :
    ∀ atom ∈ expressionAtoms exprs, Mentions tables refs aliasMap subqueries atom := by
  intro atom mentioned
  rw [expressionAtoms_eq_flatMap, List.mem_flatMap] at mentioned
  obtain ⟨expr, member, inExpr⟩ := mentioned
  exact each expr member atom inExpr

theorem adapterCall_mentions {adapter : DialectAdapter} {method : AdapterMethod}
    {args : List SqlExpr} {expr : SqlExpr}
    (compiled : adapterCall adapter method args = .ok expr)
    (each : ∀ arg ∈ args, arg.MentionsOnly tables refs aliasMap subqueries) :
    expr.MentionsOnly tables refs aliasMap subqueries := by
  rw [adapterCall_eq_ok compiled]
  intro atom mentioned
  rw [SqlExpr.atoms] at mentioned
  exact expressionAtoms_mentions each atom mentioned

theorem scalarCall_mentions {call : ScalarFunctionCall} {expr : SqlExpr}
    (compiled : scalarCall tables call = .ok expr) (subset : call.columnArgs ⊆ refs) :
    expr.MentionsOnly tables refs aliasMap subqueries := by
  rw [scalarCall, bind_eq_ok_iff] at compiled
  obtain ⟨args, mapped, returned⟩ := compiled
  cases returned
  intro atom mentioned
  rw [SqlExpr.atoms] at mentioned
  refine expressionAtoms_mentions (fun arg member => ?_) atom mentioned
  obtain ⟨source, inArgs, resolved⟩ := mapAll_preimage mapped member
  cases source with
  | col ref =>
      refine columnExpr_mentions resolved (subset ?_)
      exact List.mem_filterMap.mpr ⟨.col ref, inArgs, rfl⟩
  | literal value =>
      cases resolved
      intro found absurd
      rw [SqlExpr.atoms] at absurd
      cases absurd

theorem windowParameters_mentions {fn : WindowFn} {offset buckets : Option Int} :
    ∀ arg ∈ windowParameters fn offset buckets, arg.MentionsOnly tables refs aliasMap subqueries := by
  have noAtoms : ∀ value, (SqlExpr.value value).MentionsOnly tables refs aliasMap subqueries := by
    intro value found absurd
    rw [SqlExpr.atoms] at absurd
    cases absurd
  intro arg member
  rw [windowParameters, List.mem_append] at member
  rcases member with bucket | amount
  · split at bucket
    · rw [List.mem_singleton.mp bucket]
      exact noAtoms _
    · cases bucket
  · obtain ⟨value, _, rfl⟩ := List.mem_map.mp amount
    exact noAtoms _

theorem windowCallExpr_mentions {adapter : DialectAdapter} {fn : WindowFn} {over_ : WindowSpec}
    {arg : Option SqlExpr} {offset buckets : Option Int} {expr : SqlExpr}
    (compiled : windowCallExpr adapter tables fn over_ arg offset buckets = .ok expr)
    (argument : ∀ inner ∈ arg, inner.MentionsOnly tables refs aliasMap subqueries)
    (subset : over_.columnRefs ⊆ refs) :
    expr.MentionsOnly tables refs aliasMap subqueries := by
  simp only [windowCallExpr, bind_eq_ok_iff] at compiled
  obtain ⟨_, _, partitionBy, partitioned, orderBy, ordered, returned⟩ := compiled
  cases returned
  intro atom mentioned
  rw [SqlExpr.atoms, List.mem_append, List.mem_append] at mentioned
  rcases mentioned with (args | partition) | order
  · refine expressionAtoms_mentions (fun inner member => ?_) atom args
    rcases List.mem_append.mp member with own | parameter
    · exact argument inner (Option.mem_toList.mp own)
    · exact windowParameters_mentions inner parameter
  · refine expressionAtoms_mentions (fun inner member => ?_) atom partition
    obtain ⟨ref, inSpec, resolved⟩ := mapAll_preimage partitioned member
    exact columnExpr_mentions resolved (subset (List.mem_append_left _ inSpec))
  · refine expressionAtoms_mentions (fun inner member => ?_) atom order
    obtain ⟨spec, inSpec, resolved⟩ := mapAll_preimage ordered member
    rw [windowOrderTerm, bind_eq_ok_iff] at resolved
    obtain ⟨column, columnResolved, called⟩ := resolved
    refine adapterCall_mentions called fun found single => ?_
    rw [List.mem_singleton.mp single]
    exact columnExpr_mentions columnResolved
      (subset (List.mem_append_right _ (List.mem_map_of_mem inSpec)))

theorem aliasTarget_mentions {ref : String} {expr : SqlExpr}
    (compiled : aliasTarget aliasMap ref = .ok expr) :
    expr.MentionsOnly tables refs aliasMap subqueries := by
  unfold aliasTarget at compiled
  split at compiled
  · rename_i target found
    cases compiled
    exact fun atom mentioned => .output (dictGet_eq_some_mem found) mentioned
  · cases compiled

end

/-- The compiled subqueries a context hands over. -/
def ctxSubqueries : Option WhereCtx → List (ScopeStep × Gate Statement)
  | none => []
  | some ctx => ctx.subqueries

theorem partRefs_cons_subset {part : ExpressionPart} {rest : List ExpressionPart}
    {refs : List String} (subset : partRefs (part :: rest) ⊆ refs) :
    part.columnRefs ⊆ refs ∧ partRefs rest ⊆ refs := by
  rw [partRefs, List.flatMap_cons, List.append_subset] at subset
  exact subset

theorem partRefs_append_subset {first second : List ExpressionPart} {refs : List String}
    (subset : partRefs (first ++ second) ⊆ refs) :
    partRefs first ⊆ refs ∧ partRefs second ⊆ refs := by
  rw [partRefs, List.flatMap_append, List.append_subset] at subset
  exact subset

theorem compileInSubquery_eq_ok {ctx : Option WhereCtx} {index : Nat} {op : ReadCompareOp}
    {statement : Statement} (compiled : compileInSubquery ctx index op = .ok statement) :
    ∃ inner, dictGet (ctxSubqueries ctx) (.value index) = some (.ok inner) ∧
      statement = inner.withoutLimit := by
  cases ctx with
  | none => cases compiled
  | some ctx =>
      simp only [compileInSubquery, bind_eq_ok_iff] at compiled
      obtain ⟨_, _, found⟩ := compiled
      split at found
      · cases found
      · rename_i outcome handed
        rw [bind_eq_ok_iff] at found
        obtain ⟨inner, rfl, returned⟩ := found
        cases returned
        exact ⟨inner, handed, rfl⟩

theorem compileExists_eq_ok {ctx : Option WhereCtx} {index : Nat} {pred : Predicate}
    {condition : SqlCondition} (compiled : compileExists ctx index pred = .ok condition) :
    ∃ inner, dictGet (ctxSubqueries ctx) (.existence index) = some (.ok inner) ∧
      condition = .test pred [] (some inner.withoutLimit) := by
  cases ctx with
  | none => cases compiled
  | some ctx =>
      simp only [compileExists] at compiled
      split at compiled
      · cases compiled
      · rename_i outcome handed
        rw [bind_eq_ok_iff] at compiled
        obtain ⟨inner, rfl, returned⟩ := compiled
        cases returned
        exact ⟨inner, handed, rfl⟩

/-- The references on the left-hand side of a predicate, outside its expressions. -/
def leftHandRefs (col : Option String) (colFn : Option ScalarFunctionCall) : List String :=
  match col with
  | some ref => if hasDot ref then [ref] else []
  | none =>
      match colFn with
      | some call => call.columnArgs
      | none => []

theorem predicateDirectColumnRefs_eq (pred : Predicate) :
    predicateDirectColumnRefs pred = leftHandRefs pred.col pred.colFn ++ pred.valueCol.toList :=
  rfl

theorem resolvePredicateTarget_mentions {tables : Tables} {refs : List String}
    {aliasMap : AliasMap} {subqueries : List (ScopeStep × Gate Statement)}
    {expr : Option (Gate SqlExpr)} {colFn : Option ScalarFunctionCall} {col : Option String}
    {target : SqlExpr}
    (compiled : resolvePredicateTarget tables aliasMap expr colFn col = .ok target)
    (expression : ∀ inner, expr = some (.ok inner) → inner.MentionsOnly tables refs [] [])
    (direct : leftHandRefs col colFn ⊆ refs)
    (exclusive : col.isSome → colFn = none) :
    target.MentionsOnly tables refs aliasMap subqueries := by
  cases expr with
  | some outcome =>
      rw [resolvePredicateTarget] at compiled
      intro atom mentioned
      exact (expression target (congrArg some compiled) atom mentioned).weaken (List.Subset.refl _)
  | none =>
      cases colFn with
      | some call =>
          rw [resolvePredicateTarget] at compiled
          cases col with
          | some ref => cases exclusive rfl
          | none => exact scalarCall_mentions compiled direct
      | none =>
          rw [resolvePredicateTarget] at compiled
          cases col with
          | none => cases compiled
          | some ref =>
              simp only [predicateColumn] at compiled
              split at compiled
              · rename_i dotted
                simp only [leftHandRefs, dotted, ↓reduceIte] at direct
                exact columnExpr_mentions compiled (direct (List.mem_singleton.mpr rfl))
              · exact aliasTarget_mentions compiled

theorem predicateOperand_mentions {tables : Tables} {refs : List String} {aliasMap : AliasMap}
    {subqueries : List (ScopeStep × Gate Statement)} {value : Value} {valueCol : Option String}
    {valueExpr : Option (Gate SqlExpr)} {operand : SqlExpr}
    (compiled : predicateOperand tables value valueCol valueExpr = .ok operand)
    (expression : ∀ inner, valueExpr = some (.ok inner) → inner.MentionsOnly tables refs [] [])
    (direct : valueCol.toList ⊆ refs) :
    operand.MentionsOnly tables refs aliasMap subqueries := by
  cases valueCol with
  | some ref =>
      rw [predicateOperand] at compiled
      exact columnExpr_mentions compiled (direct (List.mem_singleton.mpr rfl))
  | none =>
      cases valueExpr with
      | some outcome =>
          rw [predicateOperand] at compiled
          intro atom mentioned
          exact (expression operand (congrArg some compiled) atom mentioned).weaken
            (List.Subset.refl _)
      | none =>
          rw [predicateOperand] at compiled
          cases compiled
          intro found absurd
          rw [SqlExpr.atoms] at absurd
          cases absurd

/-- The left-hand side of an accepted predicate is in one field only. -/
theorem validateColShape_exclusive {pred : Predicate} (valid : pred.validateColShape = .ok ())
    (compares : pred.op.isExists = false) :
    pred.col.isSome → pred.colFn = none := by
  unfold Predicate.validateColShape at valid
  rw [if_neg (by rw [compares]; decide), seq_eq_ok_iff, refuse_eq_ok_iff, refuse_eq_ok_iff] at valid
  obtain ⟨_, one⟩ := valid
  cases col : pred.col <;> cases colFn : pred.colFn <;> cases expr : pred.expr <;>
    simp [col, colFn, expr] at one ⊢

section Compiled

variable (adapter : DialectAdapter) (tables : Tables) (refs : List String)

mutual

/-- An expression mentions the columns of its own references. -/
theorem compileExpression_mentions : ∀ (expr : Expression) (depth : Nat) (compiled : SqlExpr),
    expr.validate = .ok () → partRefs (iterExpressionParts depth expr) ⊆ refs →
    compileExpression adapter tables expr = .ok compiled →
    compiled.MentionsOnly tables refs [] []
  | .column col => fun depth compiled _ subset done => by
      rw [compileExpression] at done
      rw [iterExpressionParts] at subset
      exact columnExpr_mentions done ((partRefs_cons_subset subset).1 (List.mem_singleton.mpr rfl))
  | .literal value => fun depth compiled _ _ done => by
      rw [compileExpression] at done
      cases done
      exact fun atom absurd => by cases absurd
  | .binaryOp op left right => fun depth compiled valid subset done => by
      rw [Expression.validate, seq_eq_ok_iff] at valid
      rw [iterExpressionParts] at subset
      obtain ⟨leftSubset, rightSubset⟩ := partRefs_append_subset (partRefs_cons_subset subset).2
      simp only [compileExpression, bind_eq_ok_iff] at done
      obtain ⟨leftExpr, leftDone, rightExpr, rightDone, returned⟩ := done
      cases returned
      intro atom mentioned
      rw [SqlExpr.atoms, List.mem_append] at mentioned
      rcases mentioned with inLeft | inRight
      · exact compileExpression_mentions left _ leftExpr valid.1 leftSubset leftDone atom inLeft
      · exact compileExpression_mentions right _ rightExpr valid.2 rightSubset rightDone atom inRight
  | .function fn args => fun depth compiled valid subset done => by
      rw [Expression.validate, seq_eq_ok_iff] at valid
      rw [iterExpressionParts] at subset
      rw [compileExpression, bind_eq_ok_iff] at done
      obtain ⟨argExprs, argsDone, called⟩ := done
      have each := compileArguments_mentions args _ argExprs valid.1
        (partRefs_cons_subset subset).2 argsDone
      unfold functionCall at called
      split at called
      · cases called
        intro atom mentioned
        rw [SqlExpr.atoms] at mentioned
        exact expressionAtoms_mentions each atom mentioned
      · exact adapterCall_mentions called each
  | .cast operand target => fun depth compiled valid subset done => by
      rw [Expression.validate] at valid
      rw [iterExpressionParts] at subset
      rw [compileExpression, bind_eq_ok_iff] at done
      obtain ⟨inner, innerDone, returned⟩ := done
      cases returned
      intro atom mentioned
      rw [SqlExpr.atoms] at mentioned
      exact compileExpression_mentions operand _ inner valid (partRefs_cons_subset subset).2
        innerDone atom mentioned
  | .extract operand part => fun depth compiled valid subset done => by
      rw [Expression.validate] at valid
      rw [iterExpressionParts] at subset
      rw [compileExpression, bind_eq_ok_iff] at done
      obtain ⟨inner, innerDone, called⟩ := done
      refine adapterCall_mentions called fun arg single => ?_
      rw [List.mem_singleton.mp single]
      exact compileExpression_mentions operand _ inner valid (partRefs_cons_subset subset).2
        innerDone
  | .now kind => fun depth compiled _ _ done => by
      rw [compileExpression] at done
      exact adapterCall_mentions done fun arg absurd => by cases absurd
  | .dateAdd operand unit amount => fun depth compiled valid subset done => by
      rw [Expression.validate, seq_eq_ok_iff] at valid
      rw [iterExpressionParts] at subset
      rw [compileExpression, bind_eq_ok_iff] at done
      obtain ⟨inner, innerDone, called⟩ := done
      refine adapterCall_mentions called fun arg single => ?_
      rw [List.mem_singleton.mp single]
      exact compileExpression_mentions operand _ inner valid.1 (partRefs_cons_subset subset).2
        innerDone
  | .window call => fun depth compiled valid subset done => by
      rw [Expression.validate] at valid
      rw [iterExpressionParts] at subset
      rw [compileExpression] at done
      exact compileWindow_mentions call _ compiled valid (partRefs_cons_subset subset).1
        (partRefs_cons_subset subset).2 done
  | .case when_ else_ => fun depth compiled valid subset done => by
      simp only [Expression.validate, seq_eq_ok_iff] at valid
      rw [iterExpressionParts] at subset
      obtain ⟨branchSubset, elseSubset⟩ := partRefs_append_subset (partRefs_cons_subset subset).2
      simp only [compileExpression, bind_eq_ok_iff] at done
      obtain ⟨whens, whensDone, elseValue, elseDone, returned⟩ := done
      cases returned
      rw [sequenceOption_eq_ok_iff] at elseDone
      intro atom mentioned
      rw [SqlExpr.atoms, List.mem_append] at mentioned
      rcases mentioned with inWhens | inElse
      · exact compileBranches_mentions when_ _ whens valid.1 branchSubset whensDone atom inWhens
      · cases elseValue with
        | none => cases inElse
        | some inner =>
            exact compileOptional_mentions else_ _ inner valid.2.2 elseSubset elseDone atom inElse
termination_by structural expr => expr

theorem compileArguments_mentions : ∀ (args : List Expression) (depth : Nat)
    (compiled : List SqlExpr), validateExpressions args = .ok () →
    partRefs (argumentParts depth args) ⊆ refs →
    compileArguments adapter tables args = .ok compiled →
    ∀ expr ∈ compiled, expr.MentionsOnly tables refs [] []
  | [] => fun depth compiled _ _ done => by
      rw [compileArguments] at done
      cases done
      exact fun expr absurd => by cases absurd
  | arg :: rest => fun depth compiled valid subset done => by
      rw [validateExpressions, seq_eq_ok_iff] at valid
      rw [argumentParts] at subset
      obtain ⟨argSubset, restSubset⟩ := partRefs_append_subset subset
      simp only [compileArguments, bind_eq_ok_iff] at done
      obtain ⟨first, firstDone, others, othersDone, returned⟩ := done
      cases returned
      intro expr member
      rcases List.mem_cons.mp member with rfl | later
      · exact compileExpression_mentions arg _ expr valid.1 argSubset firstDone
      · exact compileArguments_mentions rest _ others valid.2 restSubset othersDone expr later
termination_by structural args => args

theorem compileOptional_mentions : ∀ (expr : Option Expression) (depth : Nat)
    (compiled : SqlExpr), validateOptionExpression expr = .ok () →
    partRefs (optionParts depth expr) ⊆ refs →
    compileOptional adapter tables expr = some (.ok compiled) →
    compiled.MentionsOnly tables refs [] []
  | none => fun depth compiled _ _ done => by
      rw [compileOptional] at done
      cases done
  | some expr => fun depth compiled valid subset done => by
      rw [validateOptionExpression] at valid
      rw [optionParts] at subset
      rw [compileOptional, Option.some.injEq] at done
      exact compileExpression_mentions expr depth compiled valid subset done
termination_by structural expr => expr

theorem compileWindow_mentions : ∀ (call : WindowCall) (depth : Nat) (compiled : SqlExpr),
    call.validate = .ok () → call.over_.columnRefs ⊆ refs →
    partRefs (windowParts depth call) ⊆ refs →
    compileWindow adapter tables call = .ok compiled → compiled.MentionsOnly tables refs [] []
  | ⟨fn, over_, arg, offset, buckets⟩ => fun depth compiled valid overSubset argSubset done => by
      simp only [WindowCall.validate, seq_eq_ok_iff] at valid
      rw [windowParts] at argSubset
      rw [compileWindow, bind_eq_ok_iff] at done
      obtain ⟨argExpr, argDone, called⟩ := done
      rw [sequenceOption_eq_ok_iff] at argDone
      refine windowCallExpr_mentions called (fun inner present => ?_) overSubset
      rw [Option.mem_def] at present
      rw [present] at argDone
      exact compileOptional_mentions arg _ inner valid.2.1 argSubset argDone
termination_by structural call => call

theorem compileBranches_mentions : ∀ (branches : List CaseWhen) (depth : Nat)
    (compiled : List SqlWhen), validateBranches branches = .ok () →
    partRefs (branchParts depth branches) ⊆ refs →
    compileBranches adapter tables branches = .ok compiled →
    ∀ atom ∈ whenAtoms compiled, Mentions tables refs [] [] atom
  | [] => fun depth compiled _ _ done => by
      rw [compileBranches] at done
      cases done
      exact fun atom absurd => by cases absurd
  | branch :: rest => fun depth compiled valid subset done => by
      rw [validateBranches, seq_eq_ok_iff] at valid
      rw [branchParts] at subset
      obtain ⟨branchSubset, restSubset⟩ := partRefs_append_subset subset
      simp only [compileBranches, bind_eq_ok_iff] at done
      obtain ⟨first, firstDone, others, othersDone, returned⟩ := done
      cases returned
      intro atom mentioned
      rw [whenAtoms, List.mem_append] at mentioned
      rcases mentioned with inFirst | inOthers
      · exact compileBranch_mentions branch _ first valid.1 branchSubset firstDone atom inFirst
      · exact compileBranches_mentions rest _ others valid.2 restSubset othersDone atom inOthers
termination_by structural branches => branches

theorem compileBranch_mentions : ∀ (branch : CaseWhen) (depth : Nat) (compiled : SqlWhen),
    branch.validate = .ok () → partRefs (caseWhenParts depth branch) ⊆ refs →
    compileBranch adapter tables branch = .ok compiled →
    ∀ atom ∈ branchAtoms compiled, Mentions tables refs [] [] atom
  | ⟨when_, then_⟩ => fun depth compiled valid subset done => by
      rw [CaseWhen.validate, seq_eq_ok_iff] at valid
      rw [caseWhenParts] at subset
      obtain ⟨direct, rest⟩ := partRefs_cons_subset subset
      obtain ⟨whenSubset, thenSubset⟩ := partRefs_append_subset rest
      simp only [compileBranch, bind_eq_ok_iff] at done
      obtain ⟨condition, conditionDone, value, valueDone, returned⟩ := done
      cases returned
      intro atom mentioned
      rw [branchAtoms, List.mem_append] at mentioned
      rcases mentioned with inWhen | inThen
      · refine compileWhere_mentions [] none when_ _ 0 condition valid.1 ?_ whenSubset
          conditionDone atom inWhen
        exact fun pred member ref found => direct (List.mem_flatMap.mpr ⟨pred, member, found⟩)
      · exact compileExpression_mentions then_ _ value valid.2 thenSubset valueDone atom inThen
termination_by structural branch => branch

/-- A condition mentions the columns of its own references, output names, and the
subqueries handed over. -/
theorem compileWhere_mentions (aliasMap : AliasMap) (ctx : Option WhereCtx) :
    ∀ (node : WhereNode) (depth index : Nat) (compiled : SqlCondition),
    node.validate = .ok () →
    (∀ pred ∈ iterWherePredicates node, predicateDirectColumnRefs pred ⊆ refs) →
    partRefs (whereParts depth node) ⊆ refs →
    compileWhere adapter tables aliasMap ctx index node = .ok compiled →
    ∀ atom ∈ compiled.atoms, Mentions tables refs aliasMap (ctxSubqueries ctx) atom
  | .predicate pred => fun depth index compiled valid direct subset done => by
      rw [WhereNode.validate] at valid
      rw [iterWherePredicates] at direct
      rw [whereParts] at subset
      rw [compileWhere] at done
      exact compilePredicate_mentions aliasMap ctx pred depth index compiled valid
        (direct pred (List.mem_singleton.mpr rfl)) subset done
  | .group andTerms orTerms (some node) => fun depth index compiled valid direct subset done => by
      simp only [WhereNode.validate, seq_eq_ok_iff, validateOptionNode] at valid
      rw [iterWherePredicates] at direct
      rw [whereParts] at subset
      rw [compileWhere, bind_eq_ok_iff] at done
      obtain ⟨term, termDone, returned⟩ := done
      cases returned
      intro atom mentioned
      rw [SqlCondition.atoms] at mentioned
      exact compileWhere_mentions aliasMap ctx node depth index term valid.2.2.1 direct subset
        termDone atom mentioned
  | .group andTerms orTerms none => fun depth index compiled valid direct subset done => by
      simp only [WhereNode.validate, seq_eq_ok_iff] at valid
      obtain ⟨validAnd, validOr, _⟩ := valid
      rw [iterWherePredicates] at direct
      rw [whereParts] at subset
      rw [compileWhere, bind_eq_ok_iff] at done
      obtain ⟨terms, termsDone, returned⟩ := done
      cases returned
      have inTerms : ∀ atom ∈ conditionAtoms terms,
          Mentions tables refs aliasMap (ctxSubqueries ctx) atom := by
        by_cases truthy : truthyTerms andTerms = true
        · simp only [truthy, ↓reduceIte] at direct subset termsDone
          exact compileTerms_mentions aliasMap ctx andTerms depth index terms validAnd direct
            subset termsDone
        · simp only [truthy] at direct subset termsDone
          exact compileTerms_mentions aliasMap ctx orTerms depth index terms validOr direct
            subset termsDone
      intro atom mentioned
      split at mentioned
      · rw [SqlCondition.atoms] at mentioned
        exact inTerms atom mentioned
      · rw [SqlCondition.atoms] at mentioned
        exact inTerms atom mentioned
termination_by structural node => node

theorem compileTerms_mentions (aliasMap : AliasMap) (ctx : Option WhereCtx) :
    ∀ (nodes : Option (List WhereNode)) (depth index : Nat) (compiled : List SqlCondition),
    validateOptionNodes nodes = .ok () →
    (∀ pred ∈ termPredicates nodes, predicateDirectColumnRefs pred ⊆ refs) →
    partRefs (termParts depth nodes) ⊆ refs →
    compileTerms adapter tables aliasMap ctx index nodes = .ok compiled →
    ∀ atom ∈ conditionAtoms compiled, Mentions tables refs aliasMap (ctxSubqueries ctx) atom
  | none => fun depth index compiled _ _ _ done => by
      rw [compileTerms] at done
      cases done
      exact fun atom absurd => by cases absurd
  | some nodes => fun depth index compiled valid direct subset done => by
      rw [validateOptionNodes] at valid
      rw [termPredicates] at direct
      rw [termParts] at subset
      rw [compileTerms] at done
      exact compileNodes_mentions aliasMap ctx nodes depth index compiled valid direct subset done
termination_by structural nodes => nodes

theorem compileNodes_mentions (aliasMap : AliasMap) (ctx : Option WhereCtx) :
    ∀ (nodes : List WhereNode) (depth index : Nat) (compiled : List SqlCondition),
    validateNodes nodes = .ok () →
    (∀ pred ∈ nodePredicates nodes, predicateDirectColumnRefs pred ⊆ refs) →
    partRefs (nodeParts depth nodes) ⊆ refs →
    compileNodes adapter tables aliasMap ctx index nodes = .ok compiled →
    ∀ atom ∈ conditionAtoms compiled, Mentions tables refs aliasMap (ctxSubqueries ctx) atom
  | [] => fun depth index compiled _ _ _ done => by
      rw [compileNodes] at done
      cases done
      exact fun atom absurd => by cases absurd
  | node :: rest => fun depth index compiled valid direct subset done => by
      rw [validateNodes, seq_eq_ok_iff] at valid
      rw [nodePredicates] at direct
      rw [nodeParts] at subset
      obtain ⟨nodeSubset, restSubset⟩ := partRefs_append_subset subset
      simp only [compileNodes, bind_eq_ok_iff] at done
      obtain ⟨first, firstDone, others, othersDone, returned⟩ := done
      cases returned
      intro atom mentioned
      rw [conditionAtoms, List.mem_append] at mentioned
      rcases mentioned with inFirst | inOthers
      · exact compileWhere_mentions aliasMap ctx node depth index first valid.1
          (fun pred member => direct pred (List.mem_append_left _ member)) nodeSubset firstDone
          atom inFirst
      · exact compileNodes_mentions aliasMap ctx rest depth _ others valid.2
          (fun pred member => direct pred (List.mem_append_right _ member)) restSubset othersDone
          atom inOthers
termination_by structural nodes => nodes

theorem compilePredicate_mentions (aliasMap : AliasMap) (ctx : Option WhereCtx) :
    ∀ (pred : Predicate) (depth index : Nat) (compiled : SqlCondition),
    pred.validate = .ok () → predicateDirectColumnRefs pred ⊆ refs →
    partRefs (predicateParts depth pred) ⊆ refs →
    compilePredicate adapter tables aliasMap ctx index pred = .ok compiled →
    ∀ atom ∈ compiled.atoms, Mentions tables refs aliasMap (ctxSubqueries ctx) atom
  | ⟨col, expr, colFn, op, value, valueCol, valueExpr, valueSubquery, existsSubquery⟩ =>
    fun depth index compiled valid direct subset done => by
      simp only [Predicate.validate, seq_eq_ok_iff] at valid
      obtain ⟨validExpr, _, validValue, _, _, colShape, _⟩ := valid
      rw [predicateParts] at subset
      obtain ⟨exprSubset, valueSubset⟩ := partRefs_append_subset subset
      rw [predicateDirectColumnRefs_eq, List.append_subset] at direct
      rw [compilePredicate] at done
      split at done
      · obtain ⟨inner, handed, rfl⟩ := compileExists_eq_ok done
        intro atom mentioned
        rw [SqlCondition.atoms, expressionAtoms, List.nil_append, Option.toList_some,
          List.map_singleton, List.mem_singleton] at mentioned
        rw [mentioned]
        exact .subquery (dictGet_eq_some_mem handed)
      · rename_i compares
        rw [Bool.not_eq_true] at compares
        have exclusive := validateColShape_exclusive colShape compares
        rw [bind_eq_ok_iff] at done
        obtain ⟨target, targetDone, rest⟩ := done
        have inTarget : target.MentionsOnly tables refs aliasMap (ctxSubqueries ctx) := by
          refine resolvePredicateTarget_mentions targetDone ?_ direct.1 exclusive
          exact fun inner found =>
            compileOptional_mentions expr depth inner validExpr exprSubset found
        split at rest
        · rw [bind_eq_ok_iff] at rest
          obtain ⟨subselect, selectDone, returned⟩ := rest
          cases returned
          obtain ⟨inner, handed, rfl⟩ := compileInSubquery_eq_ok selectDone
          intro atom mentioned
          rw [SqlCondition.atoms, List.mem_append] at mentioned
          rcases mentioned with inOperands | isStatement
          · refine expressionAtoms_mentions (fun found single => ?_) atom inOperands
            rw [List.mem_singleton.mp single]
            exact inTarget
          · rw [Option.toList_some, List.map_singleton, List.mem_singleton] at isStatement
            rw [isStatement]
            exact .subquery (dictGet_eq_some_mem handed)
        · rw [bind_eq_ok_iff] at rest
          obtain ⟨operand, operandDone, returned⟩ := rest
          cases returned
          have inOperand : operand.MentionsOnly tables refs aliasMap (ctxSubqueries ctx) := by
            refine predicateOperand_mentions operandDone ?_ direct.2
            exact fun inner found =>
              compileOptional_mentions valueExpr depth inner validValue valueSubset found
          intro atom mentioned
          rw [SqlCondition.atoms, Option.toList_none, List.map_nil, List.append_nil] at mentioned
          refine expressionAtoms_mentions (fun found pair => ?_) atom mentioned
          rcases List.mem_cons.mp pair with rfl | second
          · exact inTarget
          · rw [List.mem_singleton.mp second]
            exact inOperand
termination_by structural pred => pred

end

end Compiled

end QueryGate
