import QueryGate.Compiler.Scopes
import QueryGate.Compiler.Windows
import QueryGate.Validation.Masking

/-! # The compiled query holds every scope

`compileIn_within` says where a statement of a compiled query comes from. Here is the converse:
every scope of the query stands in one, its SELECT among the arms and its rank around them,
since each subquery's statement is embedded by the predicate that carries it. And a statement of a
compiled query is what `compileStatement` made of its scope, its limit aside.
-/

namespace QueryGate

open Foundation

section Embedding

/-- The statement handed over for a step stands, without its limit, among the atoms. -/
def Embeds (subqueries : List (ScopeStep × Gate Statement)) (step : ScopeStep)
    (atoms : List SqlAtom) : Prop :=
  ∃ inner, dictGet subqueries step = some (.ok inner) ∧ .statement inner.withoutLimit ∈ atoms

theorem Embeds.mono {subqueries : List (ScopeStep × Gate Statement)} {step : ScopeStep}
    {atoms more : List SqlAtom} (embedded : Embeds subqueries step atoms) (subset : atoms ⊆ more) :
    Embeds subqueries step more := by
  obtain ⟨inner, handed, member⟩ := embedded
  exact ⟨inner, handed, subset member⟩

/-- Only an EXISTS predicate carries an EXISTS subquery. -/
theorem validateColShape_compares {pred : Predicate} (valid : pred.validateColShape = .ok ())
    (compares : pred.op.isExists = false) : pred.existsSubquery = none := by
  rw [Predicate.validateColShape, if_neg (by rw [compares]; exact Bool.false_ne_true),
    seq_eq_ok_iff, refuse_eq_ok_iff] at valid
  rw [← Option.isNone_iff_eq_none, ← Option.not_isSome, valid.1]
  rfl

variable (adapter : DialectAdapter) (tables : Tables) (aliasMap : AliasMap) (ctx : Option WhereCtx)

/-- A compiled predicate embeds the subquery it carries. -/
theorem compilePredicate_embeds {pred : Predicate} {index : Nat} {compiled : SqlCondition}
    (valid : pred.validate = .ok ())
    (done : compilePredicate adapter tables aliasMap ctx index pred = .ok compiled)
    {kid : ScopeStep × StructuredQuery} (member : kid ∈ predicateChildren index pred) :
    Embeds (ctxSubqueries ctx) kid.1 compiled.atoms := by
  obtain ⟨col, expr, colFn, op, value, valueCol, valueExpr, valueSubquery, existsSubquery⟩ := pred
  simp only [Predicate.validate, seq_eq_ok_iff] at valid
  obtain ⟨_, _, _, _, _, colShape, valueShape⟩ := valid
  obtain ⟨_, _, noSources⟩ := validateValueShape_sources valueShape
  rw [predicateChildren, List.mem_append] at member
  rw [compilePredicate] at done
  split at done
  · rename_i exists_
    obtain ⟨inner, handed, rfl⟩ := compileExists_eq_ok done
    have noValue : valueSubquery = none := (noSources exists_).2
    rw [noValue] at member
    rcases member with absurd | inExists
    · cases absurd
    · obtain ⟨query, _, rfl⟩ := List.mem_map.mp inExists
      exact ⟨inner, handed, List.mem_singleton.mpr rfl⟩
  · rename_i compares
    rw [Bool.not_eq_true] at compares
    have noExists : existsSubquery = none := validateColShape_compares colShape compares
    rw [noExists] at member
    rcases member with inValue | absurd
    · obtain ⟨query, present, rfl⟩ := List.mem_map.mp inValue
      rw [Option.mem_toList] at present
      have carries : valueSubquery = some query := present
      rw [bind_eq_ok_iff] at done
      obtain ⟨target, _, rest⟩ := done
      rw [if_pos (by rw [carries]; rfl), bind_eq_ok_iff] at rest
      obtain ⟨subselect, selected, returned⟩ := rest
      cases returned
      obtain ⟨inner, handed, rfl⟩ := compileInSubquery_eq_ok selected
      exact ⟨inner, handed, List.mem_append_right _ (List.mem_singleton.mpr rfl)⟩
    · cases absurd

mutual

/-- A compiled condition embeds every subquery of its predicates. -/
theorem compileWhere_embeds : ∀ (node : WhereNode) (index : Nat) (compiled : SqlCondition),
    node.validate = .ok () → compileWhere adapter tables aliasMap ctx index node = .ok compiled →
    ∀ kid ∈ indexedChildren index (iterWherePredicates node),
      Embeds (ctxSubqueries ctx) kid.1 compiled.atoms
  | .predicate pred => fun index compiled valid done kid member => by
      rw [WhereNode.validate] at valid
      rw [compileWhere] at done
      rw [iterWherePredicates, indexedChildren, indexedChildren, List.append_nil] at member
      exact compilePredicate_embeds adapter tables aliasMap ctx valid done member
  | .group andTerms orTerms (some node) => fun index compiled valid done kid member => by
      simp only [WhereNode.validate, seq_eq_ok_iff, validateOptionNode] at valid
      rw [compileWhere, bind_eq_ok_iff] at done
      obtain ⟨term, termDone, returned⟩ := done
      cases returned
      rw [iterWherePredicates] at member
      rw [SqlCondition.atoms]
      exact compileWhere_embeds node index term valid.2.2.1 termDone kid member
  | .group andTerms orTerms none => fun index compiled valid done kid member => by
      simp only [WhereNode.validate, seq_eq_ok_iff] at valid
      obtain ⟨validAnd, validOr, _⟩ := valid
      rw [compileWhere, bind_eq_ok_iff] at done
      obtain ⟨terms, termsDone, returned⟩ := done
      cases returned
      rw [iterWherePredicates] at member
      have inTerms : Embeds (ctxSubqueries ctx) kid.1 (conditionAtoms terms) := by
        by_cases truthy : truthyTerms andTerms = true
        · simp only [truthy, ↓reduceIte] at member termsDone
          exact compileTerms_embeds andTerms index terms validAnd termsDone kid member
        · simp only [truthy] at member termsDone
          exact compileTerms_embeds orTerms index terms validOr termsDone kid member
      split
      · rw [SqlCondition.atoms]
        exact inTerms
      · rw [SqlCondition.atoms]
        exact inTerms
termination_by structural node => node

theorem compileTerms_embeds : ∀ (nodes : Option (List WhereNode)) (index : Nat)
    (compiled : List SqlCondition), validateOptionNodes nodes = .ok () →
    compileTerms adapter tables aliasMap ctx index nodes = .ok compiled →
    ∀ kid ∈ indexedChildren index (termPredicates nodes),
      Embeds (ctxSubqueries ctx) kid.1 (conditionAtoms compiled)
  | none => fun index compiled _ _ kid absurd => by
      rw [termPredicates] at absurd
      cases absurd
  | some nodes => fun index compiled valid done kid member => by
      rw [validateOptionNodes] at valid
      rw [compileTerms] at done
      rw [termPredicates] at member
      exact compileNodes_embeds nodes index compiled valid done kid member
termination_by structural nodes => nodes

theorem compileNodes_embeds : ∀ (nodes : List WhereNode) (index : Nat)
    (compiled : List SqlCondition), validateNodes nodes = .ok () →
    compileNodes adapter tables aliasMap ctx index nodes = .ok compiled →
    ∀ kid ∈ indexedChildren index (nodePredicates nodes),
      Embeds (ctxSubqueries ctx) kid.1 (conditionAtoms compiled)
  | [] => fun index compiled _ _ kid absurd => by
      rw [nodePredicates] at absurd
      cases absurd
  | node :: rest => fun index compiled valid done kid member => by
      rw [validateNodes, seq_eq_ok_iff] at valid
      simp only [compileNodes, bind_eq_ok_iff] at done
      obtain ⟨first, firstDone, others, othersDone, returned⟩ := done
      cases returned
      rw [nodePredicates, indexedChildren_append, List.mem_append] at member
      rw [conditionAtoms]
      rcases member with inFirst | inOthers
      · exact (compileWhere_embeds node index first valid.1 firstDone kid inFirst).mono
          (List.subset_append_left _ _)
      · exact (compileNodes_embeds rest _ others valid.2 othersDone kid inOthers).mono
          (List.subset_append_right _ _)
termination_by structural nodes => nodes

end

/-- An optional condition embeds the subqueries of its predicates. -/
theorem optionalWhere_embeds {node : Option WhereNode} {index : Nat}
    {conditions : List SqlCondition} (valid : validateOptionNode node = .ok ())
    (done : optionalConjunct (node.map (compileWhere adapter tables aliasMap ctx index)) =
      .ok conditions)
    {kid : ScopeStep × StructuredQuery} (member : kid ∈ indexedChildren index (optionPredicates node)) :
    Embeds (ctxSubqueries ctx) kid.1 (conditions.flatMap SqlCondition.atoms) := by
  cases node with
  | none => cases member
  | some node =>
      rw [optionalConjunct, bind_eq_ok_iff] at done
      obtain ⟨found, sequenced, returned⟩ := done
      cases returned
      rw [sequenceOption_eq_ok_iff, Option.map_some] at sequenced
      cases found with
      | none => cases sequenced
      | some condition =>
          rw [Option.map_some, Option.some.injEq] at sequenced
          rw [Option.toList_some, List.flatMap_singleton]
          rw [validateOptionNode] at valid
          exact compileWhere_embeds adapter tables aliasMap ctx node index condition valid sequenced
            kid member

end Embedding

/-- A compiled body embeds every subquery of its scope. -/
theorem BodyStages.embeds {context : CompileContext} {objects : CteObjects} {path : ScopePath}
    {query : StructuredQuery} {scopeTables : Tables}
    {subqueries : List (ScopeStep × Gate Statement)} {body : ScopeBody}
    (stages : BodyStages context objects path query scopeTables subqueries body)
    (valid : query.Valid) {kid : ScopeStep × StructuredQuery}
    (member : kid ∈ indexedChildren 0 (iterWhereAndHavingPredicates query)) :
    Embeds subqueries kid.1 body.select.atoms := by
  rw [iterWhereAndHavingPredicates, indexedChildren_append, Nat.zero_add, List.mem_append] at member
  rcases member with inWhere | inHaving
  · obtain ⟨filters, conditions, _, done, same⟩ := stages.where_
    refine (optionalWhere_embeds _ _ _ _ valid.whereTree done inWhere).mono fun atom inAtoms => ?_
    rw [Select.atoms, same, List.flatMap_append]
    simp only [List.mem_append]
    tauto
  · obtain ⟨conditions, floor, done, _, same⟩ := stages.having
    refine (optionalWhere_embeds _ _ _ _ valid.havingTree done inHaving).mono fun atom inAtoms => ?_
    rw [Select.atoms, same, List.flatMap_append]
    simp only [List.mem_append]
    tauto

section Forest

variable (context : CompileContext) (objects : CteObjects)

/-- The compiled children of a scope are its arms and subqueries, each compiled at its step. -/
theorem mem_compileForest_iff {kids : List (ScopeStep × StructuredQuery)} {base : ScopePath}
    {compiled : CompiledScope} :
    compiled ∈ compileForest context objects (childTrees kids) base ↔
      ∃ kid ∈ kids, kid.1.isCte = false ∧
        compiled = compileTree context objects (scopeTree kid.1 kid.2) (base ++ [kid.1]) := by
  induction kids with
  | nil =>
      rw [childTrees, List.map_nil, compileForest]
      simp
  | cons kid rest ih =>
      rw [childTrees, List.map_cons, ← childTrees, compileForest, scopeTree_step]
      cases isCte : kid.1.isCte with
      | true => simp [ih, isCte]
      | false => simp [ih, isCte]

@[simp] theorem compileTree_step (tree : ScopeTree) (base : ScopePath) :
    (compileTree context objects tree base).step = tree.step := by
  cases tree with
  | node step scope children =>
      rw [compileTree, compileScope]
      split
      · rfl
      · rfl

/-- The steps of the compiled children are those of the children. -/
theorem map_step_compileForest (kids : List (ScopeStep × StructuredQuery)) (base : ScopePath) :
    (compileForest context objects (childTrees kids) base).map CompiledScope.step =
      (kids.map Prod.fst).filter fun step => !step.isCte := by
  induction kids with
  | nil => rfl
  | cons kid rest ih =>
      rw [childTrees, List.map_cons, ← childTrees, compileForest, scopeTree_step, List.map_cons]
      cases isCte : kid.1.isCte with
      | true =>
          rw [if_pos rfl, ih, List.filter_cons_of_neg (by rw [isCte]; exact Bool.false_ne_true)]
      | false =>
          rw [if_neg Bool.false_ne_true, List.map_cons, compileTree_step, scopeTree_step, ih,
            List.filter_cons_of_pos (by rw [isCte]; rfl)]

/-- The statement handed over for a child is the child's. -/
theorem dictGet_subqueryStatements {kids : List (ScopeStep × StructuredQuery)}
    (distinct : (kids.map Prod.fst).Nodup) {kid : ScopeStep × StructuredQuery} (member : kid ∈ kids)
    (notCte : kid.1.isCte = false) (base : ScopePath) :
    dictGet (subqueryStatements (compileForest context objects (childTrees kids) base)) kid.1 =
      some (compileTree context objects (scopeTree kid.1 kid.2) (base ++ [kid.1])).statement := by
  have keys : dictKeys (subqueryStatements (compileForest context objects (childTrees kids) base)) =
      (kids.map Prod.fst).filter fun step => !step.isCte := by
    rw [← map_step_compileForest context objects kids base, dictKeys, subqueryStatements,
      List.map_map]
    rfl
  refine dictGet_of_mem_nodup (keys ▸ distinct.filter _) ?_
  refine List.mem_map.mpr ⟨_, (mem_compileForest_iff context objects).mpr
    ⟨kid, member, notCte, rfl⟩, ?_⟩
  rw [compileTree_step, scopeTree_step]

end Forest

section Rendering

variable (context : CompileContext) (objects : CteObjects)

/-- The step leads into an arm of a set operation. -/
def ScopeStep.isArm : ScopeStep → Bool
  | .arm _ => true
  | _ => false

/-- A scope stands in a compiled statement: its SELECT is one of the arms, and its rank is the
statement's. -/
def RenderedIn (path : ScopePath) (scope : StructuredQuery) (found : Statement) : Prop :=
  ∃ tables subqueries body, dictGet context.scopeTables path = some tables ∧
    compileScopeBody context objects path scope tables subqueries = .ok body ∧
    body.select ∈ found.arms ∧
    ∀ spec, scope.topN = some spec → ∃ topN, found.topN = some topN ∧
      applyTopN context.adapter scope tables body spec = .ok topN

/-- A scope below a compiled one stands in a statement within it. -/
def RenderedWithin (statement : Statement) (path : ScopePath) (scope : StructuredQuery) : Prop :=
  ∃ found, statement.Within found ∧ RenderedIn context objects path scope found

/-- A scope stands in a statement that a SELECT embeds. -/
def RenderedBelow (select : Select) (path : ScopePath) (scope : StructuredQuery) : Prop :=
  ∃ inner, .statement inner ∈ select.atoms ∧ RenderedWithin context objects inner path scope

variable {context objects}

@[simp] theorem Statement.topN_withoutLimit (statement : Statement) :
    statement.withoutLimit.topN = statement.topN := by
  cases statement
  rfl

theorem RenderedIn.withoutLimit {path : ScopePath} {scope : StructuredQuery} {found : Statement}
    (rendered : RenderedIn context objects path scope found) :
    RenderedIn context objects path scope found.withoutLimit := by
  simpa only [RenderedIn, Statement.arms_withoutLimit, Statement.topN_withoutLimit] using rendered

theorem RenderedWithin.withoutLimit {statement : Statement} {path : ScopePath}
    {scope : StructuredQuery} (rendered : RenderedWithin context objects statement path scope) :
    RenderedWithin context objects statement.withoutLimit path scope := by
  obtain ⟨found, within, inFound⟩ := rendered
  cases within with
  | self => exact ⟨_, .self, inFound.withoutLimit⟩
  | nested member mentioned deeper =>
      refine ⟨found, .nested ?_ mentioned deeper, inFound⟩
      rw [Statement.arms_withoutLimit]
      exact member
  | tail mentioned deeper =>
      refine ⟨found, .tail ?_ deeper, inFound⟩
      rw [Statement.tailAtoms_withoutLimit]
      exact mentioned

/-- What a SELECT embeds stands within every statement the SELECT is an arm of. -/
theorem RenderedBelow.within {select : Select} {statement : Statement} {path : ScopePath}
    {scope : StructuredQuery} (below : RenderedBelow context objects select path scope)
    (arm : select ∈ statement.arms) : RenderedWithin context objects statement path scope := by
  obtain ⟨inner, mentioned, found, within, inFound⟩ := below
  exact ⟨found, .nested arm mentioned within, inFound⟩

/-- The arms of a compiled statement: the scope's own SELECT, and those of the further arms. A
rank is applied to the scope's own. -/
theorem compileStatement_holds {query : StructuredQuery} {tables : Tables} {body : ScopeBody}
    {arms : List (Gate ScopeBody)} {statement : Statement} (valid : query.Valid)
    (done : compileStatement context query tables (.ok body) arms = .ok statement) :
    body.select ∈ statement.arms ∧
      (query.setOp.isSome = true → ∀ outcome ∈ arms,
        ∃ other, outcome = .ok other ∧ other.select ∈ statement.arms) ∧
      ∀ spec, query.topN = some spec → ∃ topN, statement.topN = some topN ∧
        applyTopN context.adapter query tables body spec = .ok topN := by
  unfold compileStatement at done
  split at done
  · rename_i spec carried
    simp only [compileSetOperation, bind_eq_ok_iff] at done
    obtain ⟨_, same, others, mapped, _, _, orderBy, _, limit, _, returned⟩ := done
    cases same
    cases returned
    refine ⟨List.mem_cons_self .., fun _ outcome member => ?_, fun ranked present => ?_⟩
    · obtain ⟨other, inOthers, isOk⟩ := mapAll_image mapped member
      exact ⟨other, isOk, List.mem_cons_of_mem _ (List.mem_map_of_mem inOthers)⟩
    · have rules := valid.self
      simp only [StructuredQuery.validateSelf, seq_eq_ok_iff] at rules
      obtain ⟨_, _, _, setOp, _⟩ := rules
      rw [StructuredQuery.validateSetOp, carried] at setOp
      simp only [seq_eq_ok_iff, refuse_eq_ok_iff, present] at setOp
      cases setOp.1
  · rename_i noSetOp
    rw [bind_eq_ok_iff] at done
    obtain ⟨_, same, compiled⟩ := done
    cases same
    simp only [compileSingle, bind_eq_ok_iff] at compiled
    obtain ⟨topN, ranked, orderBy, _, limit, _, returned⟩ := compiled
    cases returned
    rw [sequenceOption_eq_ok_iff] at ranked
    refine ⟨List.mem_singleton.mpr rfl, fun absurd => ?_, fun spec present => ?_⟩
    · rw [noSetOp] at absurd
      cases absurd
    · rw [present, Option.map_some] at ranked
      cases topN with
      | none => cases ranked
      | some topN =>
          rw [Option.map_some, Option.some.injEq] at ranked
          exact ⟨topN, rfl, ranked⟩

/-- A child of a scope other than a WITH body is an arm or the subquery of a predicate. -/
theorem childScopes_cases {query : StructuredQuery} {kid : ScopeStep × StructuredQuery}
    (member : kid ∈ childScopes query) (notCte : kid.1.isCte = false) :
    (kid ∈ indexedChildren 0 (iterWhereAndHavingPredicates query) ∧ kid.1.isArm = false) ∨
      (kid.2 ∈ query.arms ∧ kid.1.isArm = true) := by
  rw [childScopes, List.mem_append, List.mem_append] at member
  rcases member with (inCtes | inArms) | inPredicates
  · obtain ⟨_, _, isCte⟩ := cteChildren_steps (List.mem_map_of_mem inCtes)
    rw [isCte] at notCte
    cases notCte
  · obtain ⟨_, _, isArm⟩ := armChildren_steps (List.mem_map_of_mem inArms)
    exact .inr ⟨mem_of_mem_armChildren inArms, by rw [isArm]; rfl⟩
  · obtain ⟨_, _, isSubquery⟩ := indexedChildren_steps (List.mem_map_of_mem inPredicates)
    refine .inl ⟨inPredicates, ?_⟩
    rcases isSubquery with isValue | isExistence
    · rw [isValue]
      rfl
    · rw [isExistence]
      rfl

/-- An arm carries no rank and no arms of its own. -/
theorem StructuredQuery.Valid.arm_plain {query arm : StructuredQuery} (valid : query.Valid)
    (member : arm ∈ query.arms) :
    query.setOp.isSome = true ∧ arm.setOp = none ∧ arm.topN = none := by
  have rules := valid.self
  simp only [StructuredQuery.validateSelf, seq_eq_ok_iff] at rules
  obtain ⟨_, _, _, setOp, _⟩ := rules
  unfold StructuredQuery.arms at member
  unfold StructuredQuery.validateSetOp at setOp
  split at setOp
  · rename_i noSetOp
    rw [noSetOp] at member
    cases member
  · rename_i spec carried
    rw [carried] at member
    simp only [seq_eq_ok_iff, checkAll_eq_ok_iff] at setOp
    have plain := setOp.2 arm member
    simp only [validateArm, seq_eq_ok_iff, refuse_eq_ok_iff] at plain
    obtain ⟨noArms, noClauses, _⟩ := plain
    refine ⟨by rw [carried]; rfl, ?_, ?_⟩
    · rw [← Option.isNone_iff_eq_none, ← Option.not_isSome, noArms]
      rfl
    · rw [Bool.not_eq_false', List.isEmpty_iff] at noClauses
      simp only [disallowedOnArm, List.append_eq_nil_iff] at noClauses
      have noRank := noClauses.2
      by_contra ranked
      rw [if_neg (by rw [Option.isNone_iff_eq_none]; exact ranked)] at noRank
      cases noRank

/-- A scope without a set operation has no arm below it. -/
theorem notArm_of_plain {query scope : StructuredQuery} {step first : ScopeStep} {rest : ScopePath}
    (plain : query.setOp = none) (at_ : (scopeTree step query).At (first :: rest) scope) :
    first.isArm = false := by
  rw [scopeTree_eq] at at_
  cases at_ with
  | inside member _ =>
      obtain ⟨kid, inKids, rfl⟩ := List.mem_map.mp member
      rw [scopeTree_step]
      cases isCte : kid.1.isCte with
      | true =>
          obtain ⟨_, _, _, rfl⟩ := cte_of_mem_childScopes inKids isCte
          rfl
      | false =>
          rcases childScopes_cases inKids isCte with ⟨_, notArm⟩ | ⟨inArms, _⟩
          · exact notArm
          · rw [StructuredQuery.arms, plain] at inArms
            cases inArms

theorem ScopeStep.eq_arm {step : ScopeStep} (isArm : step.isArm = true) :
    ∃ index, step = .arm index := by
  cases step with
  | arm index => exact ⟨index, rfl⟩
  | root => cases isArm
  | cte index => cases isArm
  | value index => cases isArm
  | existence index => cases isArm

variable (context objects) in
/-- What a compiled scope was compiled from. -/
theorem compileTree_eq_ok (query : StructuredQuery) (step : ScopeStep) (base : ScopePath) :
    (∀ body, (compileTree context objects (scopeTree step query) base).body = .ok body →
      ∃ tables, dictGet context.scopeTables base = some tables ∧
        compileScopeBody context objects base query tables (subqueryStatements
          (compileForest context objects (childTrees (childScopes query)) base)) = .ok body) ∧
    ∀ statement, (compileTree context objects (scopeTree step query) base).statement = .ok statement →
      ∃ tables body, dictGet context.scopeTables base = some tables ∧
        (compileTree context objects (scopeTree step query) base).body = .ok body ∧
        compileStatement context query tables (.ok body) (armBodies
          (compileForest context objects (childTrees (childScopes query)) base)) =
            .ok statement := by
  rw [scopeTree_eq, compileTree, compileScope]
  split
  · exact ⟨fun _ absurd => (by cases absurd), fun _ absurd => by cases absurd⟩
  · rename_i tables bound
    refine ⟨fun body compiled => ⟨tables, bound, compiled⟩, fun statement compiled => ?_⟩
    obtain ⟨body, bodyCompiled, _⟩ := statementStages_of_compiled compiled
    refine ⟨tables, body, bound, bodyCompiled, ?_⟩
    rw [← bodyCompiled]
    exact compiled

variable (context objects) in
/-- Every scope below a compiled one stands in its statement; and, unless it is below an arm, in
a statement that its SELECT embeds. -/
theorem compileTree_renders {query : StructuredQuery} : query.validate = .ok () →
    ∀ (step : ScopeStep) (base : ScopePath),
    (∀ statement, (compileTree context objects (scopeTree step query) base).statement =
        .ok statement →
      ∀ path scope, (scopeTree step query).At path scope → ScopePath.NoCte path →
        RenderedWithin context objects statement (base ++ path) scope) ∧
    ∀ body, (compileTree context objects (scopeTree step query) base).body = .ok body →
      ∀ first rest scope, (scopeTree step query).At (first :: rest) scope →
        ScopePath.NoCte (first :: rest) → first.isArm = false →
        RenderedBelow context objects body.select (base ++ first :: rest) scope := by
  induction query using StructuredQuery.scopeInduction with
  | step query ih =>
      intro accepted step base
      have valid := StructuredQuery.valid_of_validate accepted
      obtain ⟨bodyCompiled, statementCompiled⟩ := compileTree_eq_ok context objects query step base
      have below : ∀ kid ∈ childScopes query, kid.2.validate = .ok () := fun kid member =>
        validate_of_mem_directScopes accepted (mem_directScopes_of_childScopes member)
      have inBody : ∀ body,
          (compileTree context objects (scopeTree step query) base).body = .ok body →
          ∀ first rest scope, (scopeTree step query).At (first :: rest) scope →
            ScopePath.NoCte (first :: rest) → first.isArm = false →
            RenderedBelow context objects body.select (base ++ first :: rest) scope := by
        intro body done first rest scope at_ noCte notArm
        obtain ⟨tables, bound, compiled⟩ := bodyCompiled body done
        rw [scopeTree_eq] at at_
        cases at_ with
        | inside member atKid =>
            obtain ⟨kid, inKids, rfl⟩ := List.mem_map.mp member
            rw [scopeTree_step] at noCte notArm ⊢
            have notCte := noCte _ (List.mem_cons_self ..)
            rcases childScopes_cases inKids notCte with ⟨inPredicates, _⟩ | ⟨_, isArm⟩
            · obtain ⟨inner, handed, mentioned⟩ :=
                (bodyStages_of_compiled compiled).embeds valid inPredicates
              rw [dictGet_subqueryStatements context objects (childScopes_nodup query) inKids notCte,
                Option.some.injEq] at handed
              have rendered := (ih kid.2 (mem_directScopes_of_childScopes inKids)
                (below kid inKids) kid.1 (base ++ [kid.1])).1 inner handed rest scope atKid
                fun later inRest => noCte later (List.mem_cons_of_mem _ inRest)
              rw [List.append_assoc, List.singleton_append] at rendered
              exact ⟨_, mentioned, rendered.withoutLimit⟩
            · rw [isArm] at notArm
              cases notArm
      refine ⟨fun statement done path scope at_ noCte => ?_, inBody⟩
      obtain ⟨tables, body, bound, bodyDone, compiled⟩ := statementCompiled statement done
      obtain ⟨ownArm, otherArms, rank⟩ := compileStatement_holds valid compiled
      cases path with
      | nil =>
          rw [scopeTree_eq] at at_
          cases at_
          obtain ⟨bodyTables, bodyBound, bodyOk⟩ := bodyCompiled body bodyDone
          rw [bound] at bodyBound
          cases bodyBound
          rw [List.append_nil]
          exact ⟨statement, .self, tables, _, body, bound, bodyOk, ownArm, rank⟩
      | cons first rest =>
          cases isArm : first.isArm with
          | false => exact (inBody body bodyDone first rest scope at_ noCte isArm).within ownArm
          | true =>
              rw [scopeTree_eq] at at_
              cases at_ with
              | inside member atKid =>
                  obtain ⟨kid, inKids, rfl⟩ := List.mem_map.mp member
                  rw [scopeTree_step] at noCte isArm ⊢
                  have notCte := noCte _ (List.mem_cons_self ..)
                  rcases childScopes_cases inKids notCte with ⟨_, notArm⟩ | ⟨inArms, _⟩
                  · rw [isArm] at notArm
                    cases notArm
                  · obtain ⟨carries, noArms, noRank⟩ := valid.arm_plain inArms
                    have listed : (compileTree context objects (scopeTree kid.1 kid.2)
                        (base ++ [kid.1])).body ∈ armBodies
                          (compileForest context objects (childTrees (childScopes query)) base) := by
                      refine List.mem_filterMap.mpr ⟨_, (mem_compileForest_iff context objects).mpr
                        ⟨kid, inKids, notCte, rfl⟩, ?_⟩
                      obtain ⟨index, same⟩ := ScopeStep.eq_arm isArm
                      rw [compileTree_step, scopeTree_step, same]
                    obtain ⟨other, otherDone, inArm⟩ := otherArms carries _ listed
                    cases rest with
                    | nil =>
                        rw [scopeTree_eq] at atKid
                        cases atKid
                        obtain ⟨armTables, armBound, armOk⟩ := (compileTree_eq_ok context objects kid.2
                          kid.1 (base ++ [kid.1])).1 other otherDone
                        refine ⟨statement, .self, armTables, _, other, armBound, armOk, inArm,
                          fun spec absurd => ?_⟩
                        rw [noRank] at absurd
                        cases absurd
                    | cons second later =>
                        have rendered := (ih kid.2 (mem_directScopes_of_childScopes inKids)
                          (below kid inKids) kid.1 (base ++ [kid.1])).2 other otherDone second later
                          scope atKid (fun deeper inRest => noCte deeper
                            (List.mem_cons_of_mem _ inRest)) (notArm_of_plain noArms atKid)
                        rw [List.append_assoc, List.singleton_append] at rendered
                        exact rendered.within inArm

end Rendering

section Statements

variable {context : CompileContext} {objects : CteObjects}

/-- A statement is the compiled one of a scope of the tree, its limit aside. -/
def CompiledAt (context : CompileContext) (objects : CteObjects) (tree : ScopeTree)
    (base : ScopePath) (found : Statement) : Prop :=
  ∃ path scope tables subqueries body arms statement, tree.At path scope ∧ ScopePath.NoCte path ∧
    dictGet context.scopeTables (base ++ path) = some tables ∧
    compileScopeBody context objects (base ++ path) scope tables subqueries = .ok body ∧
    compileStatement context scope tables (.ok body) arms = .ok statement ∧
    (found = statement ∨ found = statement.withoutLimit)

theorem CompiledAt.inside {step : ScopeStep} {scope : StructuredQuery} {children : List ScopeTree}
    {child : ScopeTree} {base : ScopePath} {found : Statement} (member : child ∈ children)
    (notCte : child.step.isCte = false)
    (at_ : CompiledAt context objects child (base ++ [child.step]) found) :
    CompiledAt context objects (.node step scope children) base found := by
  obtain ⟨path, inner, tables, subqueries, body, arms, statement, below, noCte, bound, bodyOk,
    statementOk, same⟩ := at_
  rw [List.append_assoc, List.singleton_append] at bound bodyOk
  exact ⟨child.step :: path, inner, tables, subqueries, body, arms, statement, .inside member below,
    List.forall_mem_cons.mpr ⟨notCte, noCte⟩, bound, bodyOk, statementOk, same⟩

@[simp] theorem Statement.withoutLimit_withoutLimit (statement : Statement) :
    statement.withoutLimit.withoutLimit = statement.withoutLimit := by
  cases statement
  rfl

theorem CompiledAt.withoutLimit {tree : ScopeTree} {base : ScopePath} {found : Statement}
    (at_ : CompiledAt context objects tree base found) :
    CompiledAt context objects tree base found.withoutLimit := by
  obtain ⟨path, scope, tables, subqueries, body, arms, statement, below, noCte, bound, bodyOk,
    statementOk, same⟩ := at_
  refine ⟨path, scope, tables, subqueries, body, arms, statement, below, noCte, bound, bodyOk,
    statementOk, .inr ?_⟩
  rcases same with rfl | rfl
  · rfl
  · exact statement.withoutLimit_withoutLimit

variable (context objects) in
/-- Everything within the statement of a compiled tree, or embedded by its SELECT, is the compiled
statement of a scope of the tree. -/
theorem compileTree_compiledAt {query : StructuredQuery} : query.validate = .ok () →
    ∀ (step : ScopeStep) (base : ScopePath),
    (∀ statement, (compileTree context objects (scopeTree step query) base).statement =
        .ok statement →
      ∀ found, statement.Within found → CompiledAt context objects (scopeTree step query) base found) ∧
    ∀ body, (compileTree context objects (scopeTree step query) base).body = .ok body →
      ∀ inner, .statement inner ∈ body.select.atoms → ∀ found, inner.Within found →
        CompiledAt context objects (scopeTree step query) base found := by
  induction query using StructuredQuery.scopeInduction with
  | step query ih =>
      intro accepted step base
      have valid := StructuredQuery.valid_of_validate accepted
      obtain ⟨bodyCompiled, statementCompiled⟩ := compileTree_eq_ok context objects query step base
      have atKid : ∀ kid ∈ childScopes query,
          (∀ statement, (compileTree context objects (scopeTree kid.1 kid.2)
              (base ++ [kid.1])).statement = .ok statement →
            ∀ found, statement.Within found →
              CompiledAt context objects (scopeTree kid.1 kid.2) (base ++ [kid.1]) found) ∧
          ∀ body, (compileTree context objects (scopeTree kid.1 kid.2)
              (base ++ [kid.1])).body = .ok body →
            ∀ inner, .statement inner ∈ body.select.atoms → ∀ found, inner.Within found →
              CompiledAt context objects (scopeTree kid.1 kid.2) (base ++ [kid.1]) found :=
        fun kid member => ih kid.2 (mem_directScopes_of_childScopes member)
          (validate_of_mem_directScopes accepted (mem_directScopes_of_childScopes member)) kid.1 _
      have outward : ∀ kid ∈ childScopes query, kid.1.isCte = false → ∀ found,
          CompiledAt context objects (scopeTree kid.1 kid.2) (base ++ [kid.1]) found →
          CompiledAt context objects (scopeTree step query) base found := by
        intro kid member notCte found inKid
        rw [scopeTree_eq step query]
        have listed : scopeTree kid.1 kid.2 ∈ childTrees (childScopes query) :=
          List.mem_map.mpr ⟨kid, member, rfl⟩
        refine CompiledAt.inside listed ?_ ?_
        · rw [scopeTree_step]
          exact notCte
        · rw [scopeTree_step]
          exact inKid
      have inBody : ∀ body,
          (compileTree context objects (scopeTree step query) base).body = .ok body →
          ∀ inner, .statement inner ∈ body.select.atoms → ∀ found, inner.Within found →
            CompiledAt context objects (scopeTree step query) base found := by
        intro body done inner mentioned found within
        obtain ⟨tables, _, compiled⟩ := bodyCompiled body done
        obtain ⟨_, original, handed, rfl⟩ :=
          (bodyStages_of_compiled compiled).statement_handed valid mentioned
        obtain ⟨child, inForest, same⟩ := List.mem_map.mp handed
        obtain ⟨kid, inKids, notCte, rfl⟩ := (mem_compileForest_iff context objects).mp inForest
        injection same with _ statementSame
        have facts := (atKid kid inKids).1 original statementSame
        refine outward kid inKids notCte found ?_
        rcases within.of_withoutLimit with rfl | deeper
        · exact (facts original .self).withoutLimit
        · exact facts found deeper
      refine ⟨fun statement done found within => ?_, inBody⟩
      obtain ⟨tables, body, bound, bodyDone, compiled⟩ := statementCompiled statement done
      obtain ⟨bodyTables, bodyBound, bodyOk⟩ := bodyCompiled body bodyDone
      rw [bound] at bodyBound
      cases bodyBound
      obtain ⟨_, same, stages⟩ := statementStages_of_compiled compiled
      cases same
      cases within with
      | self =>
          rw [scopeTree_eq]
          rw [← List.append_nil base] at bound bodyOk
          exact ⟨[], query, tables, _, body, _, statement, .here, fun step absurd => (by cases absurd),
            bound, bodyOk, compiled, .inl rfl⟩
      | @nested _ inner _ arm member mentioned deeper =>
          rcases stages.arms arm member with rfl | ⟨other, inArms, rfl⟩
          · exact inBody body bodyDone inner mentioned found deeper
          · obtain ⟨child, inForest, isBody⟩ := List.mem_filterMap.mp inArms
            obtain ⟨kid, inKids, notCte, rfl⟩ := (mem_compileForest_iff context objects).mp inForest
            split at isBody
            · injection isBody with armBody
              exact outward kid inKids notCte found
                ((atKid kid inKids).2 other armBody inner mentioned found deeper)
            · cases isBody
      | tail mentioned deeper =>
          exact absurd mentioned ((bodyStages_of_compiled bodyOk).tail_noStatement valid stages)

/-- **Every statement is a scope's.** A statement of a compiled query is what `compileStatement`
made of one of the query's scopes, its limit aside. -/
theorem compileIn_compiledAt {query : StructuredQuery} {compiled : CompiledQuery}
    {found : Statement} (accepted : query.validate = .ok ())
    (done : compileIn context query = .ok compiled) (within : compiled.Within found) :
    ∃ path scope objects tables subqueries body arms statement,
      ScopeCompilation context query path scope objects tables subqueries body ∧
      compileStatement context scope tables (.ok body) arms = .ok statement ∧
      (found = statement ∨ found = statement.withoutLimit) := by
  obtain ⟨step, root, base, objects, top, root_, treeDone, place⟩ :=
    compileIn_tree accepted done within
  have facts := (compileTree_compiledAt context objects root_.accepted step base).1 top treeDone
  have at_ : CompiledAt context objects (scopeTree step root) base found := by
    rcases place with inside | rfl
    · exact facts found inside
    · exact (facts top .self).withoutLimit
  obtain ⟨path, scope, tables, subqueries, body, arms, statement, below, noCte, bound, bodyOk,
    statementOk, same⟩ := at_
  exact ⟨base ++ path, scope, objects, tables, subqueries, body, arms, statement,
    ⟨root_.inside path scope below, root_.blocks path noCte, root_.visible path noCte, bound,
      bodyOk⟩, statementOk, same⟩

end Statements

section WholeQuery

variable {context : CompileContext}

/-- No path below a query without WITH blocks leads into one. -/
theorem noCte_of_plain {query : StructuredQuery} :
    (∀ scope ∈ scopesOf query, scope.ctes = []) → ∀ {step : ScopeStep} {path : ScopePath}
      {scope : StructuredQuery}, (scopeTree step query).At path scope → ScopePath.NoCte path := by
  induction query using StructuredQuery.scopeInduction with
  | step query ih =>
      intro plain step path scope at_
      rw [scopeTree_eq] at at_
      cases at_ with
      | here => exact fun step absurd => by cases absurd
      | inside member below =>
          obtain ⟨kid, inKids, rfl⟩ := List.mem_map.mp member
          have direct := mem_directScopes_of_childScopes inKids
          refine List.forall_mem_cons.mpr ⟨?_, ih kid.2 direct (fun inner inside =>
            plain inner (mem_scopesOf_of_directScopes direct inside)) below⟩
          rw [scopeTree_step]
          by_contra isCte
          rw [Bool.not_eq_false] at isCte
          obtain ⟨index, spec, declared, _⟩ := cte_of_mem_childScopes inKids isCte
          rw [plain query (self_mem_scopesOf query)] at declared
          cases declared

/-- Every declared WITH block is compiled, seeing the blocks before it. -/
theorem compileCtes_listed {specs : List CteSpec} : ∀ {index : Nat} {objects all : CteObjects}
    {blocks : List CompiledCte}, compileCtes context index objects specs = .ok (all, blocks) →
    ∀ {offset : Nat} {spec : CteSpec}, specs[offset]? = some spec → ∃ block ∈ blocks,
      compileCte context (blocksBefore context index objects specs offset) (index + offset) spec =
        .ok block := by
  induction specs with
  | nil =>
      intro index objects all blocks _ offset spec absurd
      cases absurd
  | cons first rest ih =>
      intro index objects all blocks done offset spec at_
      simp only [compileCtes, bind_eq_ok_iff] at done
      obtain ⟨block, blockDone, ⟨final, others⟩, restDone, returned⟩ := done
      cases returned
      cases offset with
      | zero =>
          cases at_
          exact ⟨block, List.mem_cons_self .., blockDone⟩
      | succ offset =>
          obtain ⟨later, inOthers, laterDone⟩ := ih restDone at_
          refine ⟨later, List.mem_cons_of_mem _ inOthers, ?_⟩
          rw [blocksBefore_succ blockDone, ← Nat.add_assoc, Nat.add_right_comm]
          exact laterDone

/-- **Every scope is compiled.** A scope of a query with WITH blocks at its root only stands in a
statement of the compiled query, among the blocks it sees. -/
theorem compileIn_renders {query : StructuredQuery} {compiled : CompiledQuery}
    (accepted : query.validate = .ok ())
    (topLevel : ∀ nested ∈ directScopes query, ∀ scope ∈ scopesOf nested, scope.ctes = [])
    (done : compileIn context query = .ok compiled) {path : ScopePath} {scope : StructuredQuery}
    (at_ : ScopeAt query path scope) : ∃ found, compiled.Within found ∧
      RenderedIn context (blocksAt context query path) path scope found := by
  simp only [compileIn, bind_eq_ok_iff] at done
  obtain ⟨⟨objects, blocks⟩, ctesDone, statement, statementDone, returned⟩ := done
  cases returned
  have main : ScopePath.NoCte path → blocksAt context query path = objects → ∃ found,
      CompiledQuery.Within ⟨blocks, statement⟩ found ∧
        RenderedIn context (blocksAt context query path) path scope found := by
    intro noCte seen
    obtain ⟨found, within, rendered⟩ := (compileTree_renders context objects accepted .root []).1
      statement statementDone path scope at_ noCte
    rw [seen]
    exact ⟨found, .inl within, rendered⟩
  have allEq := (compileCtes_blocks ctesDone (BlocksNamed.empty .cte)).1
  cases path with
  | nil => exact main (fun step absurd => by cases absurd) allEq.symm
  | cons first rest =>
      have whole := at_
      rw [ScopeAt, scopeTree_eq] at at_
      cases at_ with
      | inside member below =>
          obtain ⟨kid, inKids, rfl⟩ := List.mem_map.mp member
          have plain := topLevel kid.2 (mem_directScopes_of_childScopes inKids)
          have noCte := noCte_of_plain plain below
          rw [scopeTree_step] at main whole ⊢
          cases isCte : kid.1.isCte with
          | false =>
              refine main (List.forall_mem_cons.mpr ⟨isCte, noCte⟩) ?_
              rw [allEq, blocksAt]
              intro index tail same
              injection same with sameStep _
              rw [sameStep] at isCte
              cases isCte
          | true =>
              obtain ⟨index, spec, declared, rfl⟩ := cte_of_mem_childScopes inKids isCte
              obtain ⟨block, inBlocks, blockDone⟩ := compileCtes_listed ctesDone declared
              rw [Nat.zero_add] at blockDone
              obtain ⟨blockStatement, _, treeDone, _, _, same⟩ := compileCte_eq_ok blockDone
              have bodyValid : spec.query.validate = .ok () :=
                CteSpec.validate_query ((StructuredQuery.valid_of_validate accepted).ctes spec
                  (List.mem_of_getElem? declared))
              have rendered := (compileTree_renders context _ bodyValid (.cte index) [.cte index]).1
                blockStatement treeDone rest scope below noCte
              have inBlock : RenderedWithin context
                  (blocksBefore context 0 [] query.ctes index) block.statement
                  ([.cte index] ++ rest) scope := by
                rcases same with same | same
                · rw [same]
                  exact rendered
                · rw [same]
                  exact rendered.withoutLimit
              obtain ⟨found, within, inFound⟩ := inBlock
              exact ⟨found, .inr ⟨block, inBlocks, within⟩, inFound⟩

end WholeQuery

end QueryGate
