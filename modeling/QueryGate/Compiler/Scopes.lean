import QueryGate.Compiler.Stages

/-! # The scopes of a compiled query

Every statement inside a compiled query is the statement of one scope of the
query's tree, and every SELECT in it is the compiled body of one. `compileIn_within`
states this for whole runs; results about all SELECTs of a query start there.
-/

namespace QueryGate

open Foundation

/-- The references of a scope's ORDER BY and top-n clauses, output names apart. -/
def tailRefs (query : StructuredQuery) : List String :=
  (query.orderBy.map OrderBySpec.col).filter hasDot ++
    query.topN.toList.flatMap fun spec =>
      spec.partitionBy.filter hasDot ++ (spec.orderBy.map OrderBySpec.col).filter hasDot

section Tail

variable {adapter : DialectAdapter} {tables : Tables}

theorem orderTerm_mentions {aliasMap : AliasMap} {fallback : Bool} {orders : List OrderBySpec}
    {order : OrderBySpec} {expr : SqlExpr} (member : order ∈ orders)
    (done : orderTerm adapter tables aliasMap fallback order = .ok expr) :
    expr.MentionsOnly tables ((orders.map OrderBySpec.col).filter hasDot) aliasMap [] := by
  rw [orderTerm, bind_eq_ok_iff] at done
  obtain ⟨column, resolved, called⟩ := done
  refine adapterCall_mentions called fun arg single => ?_
  rw [List.mem_singleton.mp single]
  exact resolveOutputRef_mentions (List.mem_map_of_mem member) resolved

/-- `setdefault` of the written references adds columns of the list only. -/
theorem mem_addWrittenRefs {pairs : List (SelectItem × SqlExpr)} {aliasMap : AliasMap}
    {entry : String × SqlExpr} (member : entry ∈ addWrittenRefs aliasMap pairs) :
    entry ∈ aliasMap ∨ ∃ pair ∈ pairs, entry.2 = pair.2 := by
  induction pairs generalizing aliasMap with
  | nil => exact .inl member
  | cons pair rest ih =>
      have later : ∀ {extended : AliasMap}, entry ∈ addWrittenRefs extended rest →
          entry ∈ extended ∨ ∃ found ∈ pair :: rest, entry.2 = found.2 := by
        intro extended inRest
        rcases ih inRest with old | ⟨found, inPairs, same⟩
        · exact .inl old
        · exact .inr ⟨found, List.mem_cons_of_mem _ inPairs, same⟩
      obtain ⟨item, column⟩ := pair
      cases item with
      | bare ref =>
          rw [addWrittenRefs] at member
          rcases later member with inExtended | found
          · split at inExtended
            · exact .inl inExtended
            · rcases List.mem_append.mp inExtended with before | added
              · exact .inl before
              · rw [List.mem_singleton.mp added]
                exact .inr ⟨_, List.mem_cons_self .., rfl⟩
          · exact .inr found
      | _ => exact later member

/-- The output names of a derived table stand for its columns. -/
theorem derived_of_mem_derivedAliasMap {query : StructuredQuery} {columns : List SqlColumn}
    {entry : String × SqlExpr} (member : entry ∈ derivedAliasMap query columns) :
    ∃ position name, entry.2 = .derived position name := by
  have derived : ∀ found ∈ derivedColumns columns,
      ∃ position name, found.2 = .derived position name := by
    intro found inColumns
    obtain ⟨indexed, _, rfl⟩ := List.mem_map.mp inColumns
    exact ⟨_, _, rfl⟩
  rcases mem_addWrittenRefs member with inDict | ⟨pair, inZip, same⟩
  · rcases mem_of_mem_foldl_dictSet inDict with absurd | inColumns
    · cases absurd
    · exact derived entry inColumns
  · obtain ⟨found, inColumns, isPair⟩ := List.mem_map.mp (List.of_mem_zip inZip).2
    rw [same, ← isPair]
    exact derived found inColumns

/-- The output names of a derived table mention nothing. -/
theorem derivedAliasMap_atoms {query : StructuredQuery} {columns : List SqlColumn}
    {entry : String × SqlExpr} (member : entry ∈ derivedAliasMap query columns) :
    (SqlExpr.output entry.1 entry.2).atoms = [] := by
  obtain ⟨position, name, same⟩ := derived_of_mem_derivedAliasMap member
  rw [same]
  rfl

/-- What resolves against the output names of a derived table mentions its own
reference only. -/
theorem Mentions.of_derived {refs : List String} {query : StructuredQuery}
    {columns : List SqlColumn} {aliasMap : AliasMap} {atom : SqlAtom}
    (mentioned : Mentions tables refs (derivedAliasMap query columns) [] atom) :
    Mentions tables refs aliasMap [] atom := by
  cases mentioned with
  | column member resolved => exact .column member resolved
  | output member inTarget =>
      rw [derivedAliasMap_atoms member] at inTarget
      cases inTarget
  | subquery member => cases member

theorem Mentions.mono {refs more : List String} {aliasMap : AliasMap}
    {subqueries : List (ScopeStep × Gate Statement)} {atom : SqlAtom}
    (mentioned : Mentions tables refs aliasMap subqueries atom) (subset : refs ⊆ more) :
    Mentions tables more aliasMap subqueries atom := by
  cases mentioned with
  | column member resolved => exact .column (subset member) resolved
  | output member inTarget => exact .output member inTarget
  | subquery member => exact .subquery member

theorem applyTopN_mentions {query : StructuredQuery} {body : ScopeBody} {spec : TopNSpec}
    {topN : SqlTopN} (present : query.topN = some spec)
    (done : applyTopN adapter query tables body spec = .ok topN) :
    ∀ atom ∈ topN.atoms, Mentions tables (tailRefs query) body.aliasMap [] atom := by
  simp only [applyTopN, bind_eq_ok_iff] at done
  obtain ⟨partitionBy, partitioned, orderBy, ordered, returned⟩ := done
  cases returned
  have lift : ∀ refs, refs ⊆ tailRefs query → ∀ atom,
      Mentions tables refs (if isAggregateScope query
        then derivedAliasMap query body.select.columns else body.aliasMap) [] atom →
      Mentions tables (tailRefs query) body.aliasMap [] atom := by
    intro refs subset atom mentioned
    split at mentioned
    · exact mentioned.of_derived.mono subset
    · exact mentioned.mono subset
  have specRefs : ∀ ref, ref ∈ spec.partitionBy.filter hasDot ++
      (spec.orderBy.map OrderBySpec.col).filter hasDot → ref ∈ tailRefs query := by
    intro ref found
    refine List.mem_append_right _ ?_
    rw [present]
    exact List.mem_flatMap.mpr ⟨spec, List.mem_singleton.mpr rfl, found⟩
  intro atom mentioned
  rcases List.mem_append.mp mentioned with inPartition | inOrder
  · refine lift _ (fun ref found => specRefs ref (List.mem_append_left _ found)) atom
      (expressionAtoms_mentions (fun expr member => ?_) atom inPartition)
    obtain ⟨ref, inSpec, resolved⟩ := mapAll_preimage partitioned member
    exact resolveOutputRef_mentions inSpec resolved
  · refine lift _ (fun ref found => specRefs ref (List.mem_append_right _ found)) atom
      (expressionAtoms_mentions (fun expr member => ?_) atom inOrder)
    obtain ⟨order, inSpec, resolved⟩ := mapAll_preimage ordered member
    exact orderTerm_mentions inSpec resolved

theorem orderBy_mentions {query : StructuredQuery} {aliasMap : AliasMap} {fallback : Bool}
    {orderBy : List SqlExpr}
    (done : mapAll (orderTerm adapter tables aliasMap fallback) query.orderBy = .ok orderBy) :
    ∀ atom ∈ expressionAtoms orderBy, Mentions tables (tailRefs query) aliasMap [] atom := by
  intro atom mentioned
  refine (expressionAtoms_mentions (fun expr member => ?_) atom mentioned).mono
    (List.subset_append_left ((query.orderBy.map OrderBySpec.col).filter hasDot) _)
  obtain ⟨order, inSpec, resolved⟩ := mapAll_preimage done member
  exact orderTerm_mentions inSpec resolved

end Tail

/-- What a successful `compileStatement` produced: the carrier's SELECT first, then
those of the arms, and a tail that mentions the scope's own references. -/
structure StatementStages (query : StructuredQuery) (tables : Tables) (body : ScopeBody)
    (armBodies : List (Gate ScopeBody)) (statement : Statement) : Prop where
  carrier : statement.arms.head? = some body.select
  arms : ∀ arm ∈ statement.arms, arm = body.select ∨
    ∃ other, .ok other ∈ armBodies ∧ arm = other.select
  tail : ∀ atom ∈ statement.tailAtoms, Mentions tables (tailRefs query) body.aliasMap [] atom

theorem statementStages_of_compiled {context : CompileContext} {query : StructuredQuery}
    {tables : Tables} {outcome : Gate ScopeBody} {armBodies : List (Gate ScopeBody)}
    {statement : Statement}
    (compiled : compileStatement context query tables outcome armBodies = .ok statement) :
    ∃ body, outcome = .ok body ∧ StatementStages query tables body armBodies statement := by
  unfold compileStatement at compiled
  split at compiled
  · simp only [compileSetOperation, bind_eq_ok_iff] at compiled
    obtain ⟨body, rfl, others, mapped, _, _, orderBy, ordered, limit, _, returned⟩ := compiled
    cases returned
    refine ⟨body, rfl, rfl, fun arm member => ?_, fun atom mentioned => ?_⟩
    · rcases List.mem_cons.mp member with rfl | later
      · exact .inl rfl
      · obtain ⟨other, inOthers, rfl⟩ := List.mem_map.mp later
        obtain ⟨found, inBodies, same⟩ := mapAll_preimage mapped inOthers
        rw [id] at same
        exact .inr ⟨other, same ▸ inBodies, rfl⟩
    · rw [Statement.tailAtoms, Statement.topN, Option.toList_none, List.flatMap_nil,
        List.nil_append] at mentioned
      exact (orderBy_mentions ordered atom mentioned).of_derived
  · rw [bind_eq_ok_iff] at compiled
    obtain ⟨body, rfl, compiled⟩ := compiled
    simp only [compileSingle, bind_eq_ok_iff] at compiled
    obtain ⟨topN, ranked, orderBy, ordered, limit, _, returned⟩ := compiled
    cases returned
    rw [sequenceOption_eq_ok_iff] at ranked
    refine ⟨body, rfl, rfl, fun arm member => .inl (List.mem_singleton.mp member),
      fun atom mentioned => ?_⟩
    rw [Statement.tailAtoms, Statement.topN, Statement.orderBy, List.mem_append] at mentioned
    rcases mentioned with inTopN | inOrder
    · cases topN with
      | none => cases inTopN
      | some topN =>
          rw [Option.toList_some, List.flatMap_singleton] at inTopN
          obtain ⟨spec, present, applied⟩ := Option.map_eq_some_iff.mp ranked
          exact applyTopN_mentions present applied atom inTopN
    · have mentions := orderBy_mentions ordered atom inOrder
      split at mentions
      · exact mentions.of_derived
      · exact mentions

/-- No step of the path leads into a WITH body. -/
def ScopePath.NoCte (path : ScopePath) : Prop :=
  ∀ step ∈ path, step.isCte = false

section Trees

variable (context : CompileContext) (objects : CteObjects)

/-- A SELECT is the compiled body of a scope of the tree. -/
def SelectAt (tree : ScopeTree) (base : ScopePath) (select : Select) : Prop :=
  ∃ path scope tables subqueries body, tree.At path scope ∧ ScopePath.NoCte path ∧
    dictGet context.scopeTables (base ++ path) = some tables ∧
    compileScopeBody context objects (base ++ path) scope tables subqueries = .ok body ∧
    body.select = select

/-- A statement is the statement of a scope of the tree. -/
def StatementAt (tree : ScopeTree) (base : ScopePath) (statement : Statement) : Prop :=
  (∃ path scope tables subqueries body, tree.At path scope ∧ ScopePath.NoCte path ∧
    dictGet context.scopeTables (base ++ path) = some tables ∧
    compileScopeBody context objects (base ++ path) scope tables subqueries = .ok body ∧
    statement.arms.head? = some body.select ∧
    ∀ atom ∈ statement.tailAtoms, Mentions tables (tailRefs scope) body.aliasMap [] atom) ∧
  ∀ arm ∈ statement.arms, SelectAt context objects tree base arm

/-- Everything inside a compiled scope comes from the tree below it. -/
structure CompiledScope.FromTree (compiled : CompiledScope) (tree : ScopeTree) (base : ScopePath) :
    Prop where
  body : ∀ body, compiled.body = .ok body → SelectAt context objects tree base body.select ∧
    ∀ inner, .statement inner ∈ body.select.atoms → ∀ found, inner.Within found →
      StatementAt context objects tree base found
  statement : ∀ statement, compiled.statement = .ok statement → ∀ found, statement.Within found →
    StatementAt context objects tree base found

variable {context objects}

theorem SelectAt.inside {step : ScopeStep} {scope : StructuredQuery} {children : List ScopeTree}
    {child : ScopeTree} {base : ScopePath} {select : Select} (member : child ∈ children)
    (notCte : child.step.isCte = false)
    (at_ : SelectAt context objects child (base ++ [child.step]) select) :
    SelectAt context objects (.node step scope children) base select := by
  obtain ⟨path, found, tables, subqueries, body, below, noCte, bound, compiled, same⟩ := at_
  rw [List.append_assoc, List.singleton_append] at bound compiled
  exact ⟨child.step :: path, found, tables, subqueries, body, .inside member below,
    List.forall_mem_cons.mpr ⟨notCte, noCte⟩, bound, compiled, same⟩

theorem StatementAt.inside {step : ScopeStep} {scope : StructuredQuery} {children : List ScopeTree}
    {child : ScopeTree} {base : ScopePath} {statement : Statement} (member : child ∈ children)
    (notCte : child.step.isCte = false)
    (at_ : StatementAt context objects child (base ++ [child.step]) statement) :
    StatementAt context objects (.node step scope children) base statement := by
  obtain ⟨⟨path, found, tables, subqueries, body, below, noCte, bound, compiled, carrier, tail⟩,
    arms⟩ := at_
  rw [List.append_assoc, List.singleton_append] at bound compiled
  exact ⟨⟨child.step :: path, found, tables, subqueries, body, .inside member below,
    List.forall_mem_cons.mpr ⟨notCte, noCte⟩, bound, compiled, carrier, tail⟩,
    fun arm inArms => (arms arm inArms).inside member notCte⟩

theorem StatementAt.withoutLimit {tree : ScopeTree} {base : ScopePath} {statement : Statement}
    (at_ : StatementAt context objects tree base statement) :
    StatementAt context objects tree base statement.withoutLimit := by
  simpa only [StatementAt, Statement.arms_withoutLimit, Statement.tailAtoms_withoutLimit] using at_

/-- Dropping the limit of a statement changes nothing inside it. -/
theorem Statement.Within.of_withoutLimit {statement found : Statement}
    (within : statement.withoutLimit.Within found) :
    found = statement.withoutLimit ∨ statement.Within found := by
  cases within with
  | self => exact .inl rfl
  | nested member mentioned deeper =>
      rw [Statement.arms_withoutLimit] at member
      exact .inr (.nested member mentioned deeper)
  | tail mentioned deeper =>
      rw [Statement.tailAtoms_withoutLimit] at mentioned
      exact .inr (.tail mentioned deeper)

/-- A statement mentioned by a compiled body was handed over as a subquery. -/
theorem BodyStages.statement_handed {path : ScopePath} {query : StructuredQuery}
    {scopeTables : Tables} {subqueries : List (ScopeStep × Gate Statement)} {body : ScopeBody}
    (stages : BodyStages context objects path query scopeTables subqueries body)
    (valid : query.Valid) {inner : Statement} (mentioned : .statement inner ∈ body.select.atoms) :
    ∃ step original, (step, Except.ok original) ∈ subqueries ∧ inner = original.withoutLimit := by
  -- Nothing an output name stands for holds a statement.
  have fromAlias : ∀ {refs : List String} {handed : List (ScopeStep × Gate Statement)},
      Mentions (compiledTables objects path query scopeTables) refs body.aliasMap handed
        (.statement inner) →
      ∃ step original, (step, Except.ok original) ∈ handed ∧ inner = original.withoutLimit := by
    intro refs handed found
    cases found with
    | output member inTarget =>
        obtain ⟨item, _, mentions⟩ := stages.alias_mentions valid member
        rw [SqlExpr.atoms, List.mem_map] at inTarget
        obtain ⟨atom, inAtoms, same⟩ := inTarget
        cases mentions atom inAtoms with
        | column _ _ => cases same
        | output absurd _ => cases absurd
        | subquery absurd => cases absurd
    | subquery member => exact ⟨_, _, member, rfl⟩
  have fromColumns : ∀ {refs : List String} {tables : Tables},
      ¬ Mentions tables refs [] [] (.statement inner) := by
    intro refs tables found
    cases found with
    | output absurd _ => cases absurd
    | subquery absurd => cases absurd
  simp only [Select.atoms, List.mem_append, List.mem_flatMap] at mentioned
  rcases mentioned with (((⟨column, member, inColumn⟩ | ⟨join, member, inJoin⟩) |
    ⟨condition, member, inWhere⟩) | ⟨expr, member, inGroup⟩) | ⟨condition, member, inHaving⟩
  · obtain ⟨item, _, _, mentions⟩ := stages.column_mentions valid member
    exact absurd (mentions _ inColumn) fromColumns
  · obtain ⟨spec, _, mentions⟩ := stages.join_mentions valid member
    exact absurd (mentions _ inJoin) fromColumns
  · rcases stages.where_mentions valid member with ⟨_, _, _, _, _, _, rfl⟩ | mentions
    · rw [SqlCondition.atoms, List.mem_singleton] at inWhere
      cases inWhere
    · cases mentions _ inWhere with
      | output absurd _ => cases absurd
      | subquery handed => exact ⟨_, _, handed, rfl⟩
  · obtain ⟨step, original, absurd, _⟩ := fromAlias (stages.groupBy_mentions member _ inGroup)
    cases absurd
  · exact fromAlias (stages.having_mentions valid member _ inHaving)

/-- The clauses after a statement's SELECTs hold no statement. -/
theorem BodyStages.tail_noStatement {path : ScopePath} {query : StructuredQuery}
    {scopeTables tables : Tables} {subqueries : List (ScopeStep × Gate Statement)} {body : ScopeBody}
    {arms : List (Gate ScopeBody)} {statement inner : Statement}
    (stages : BodyStages context objects path query scopeTables subqueries body)
    (valid : query.Valid) (made : StatementStages query tables body arms statement) :
    .statement inner ∉ statement.tailAtoms := by
  intro mentioned
  cases made.tail _ mentioned with
  | output member inTarget =>
      obtain ⟨item, _, mentions⟩ := stages.alias_mentions valid member
      rw [SqlExpr.atoms, List.mem_map] at inTarget
      obtain ⟨atom, inAtoms, same⟩ := inTarget
      cases mentions atom inAtoms with
      | column _ _ => cases same
      | output absurd _ => cases absurd
      | subquery absurd => cases absurd
  | subquery absurd => cases absurd

/-- One scope: what its compiled children say about the trees below carries over. -/
theorem compileScope_fromTree {step : ScopeStep} {scope : StructuredQuery}
    {children : List ScopeTree} {base : ScopePath} {compiledChildren : List CompiledScope}
    (valid : scope.Valid)
    (below : ∀ compiled ∈ compiledChildren, ∃ tree ∈ children, tree.step.isCte = false ∧
      compiled.FromTree context objects tree (base ++ [tree.step])) :
    (compileScope context objects base step scope compiledChildren).FromTree
      context objects (.node step scope children) base := by
  unfold compileScope
  split
  · exact ⟨fun body absurd => (by cases absurd), fun statement absurd => (by cases absurd)⟩
  · rename_i tables bound
    have bound' : dictGet context.scopeTables (base ++ []) = some tables := by
      rw [List.append_nil]
      exact bound
    have handed : ∀ body,
        compileScopeBody context objects base scope tables (subqueryStatements compiledChildren) =
          .ok body →
        ∀ inner, .statement inner ∈ body.select.atoms → ∀ found, inner.Within found →
          StatementAt context objects (.node step scope children) base found := by
      intro body compiled inner mentioned found within
      obtain ⟨childStep, original, inSubqueries, rfl⟩ :=
        (bodyStages_of_compiled compiled).statement_handed valid mentioned
      obtain ⟨child, inCompiled, same⟩ := List.mem_map.mp inSubqueries
      obtain ⟨tree, inChildren, notCte, fromTree⟩ := below child inCompiled
      injection same with _ statementSame
      have inside := fromTree.statement original statementSame
      rcases within.of_withoutLimit with rfl | deeper
      · exact ((inside original .self).inside inChildren notCte).withoutLimit
      · exact (inside found deeper).inside inChildren notCte
    have selectHere : ∀ body,
        compileScopeBody context objects base scope tables (subqueryStatements compiledChildren) =
          .ok body →
        SelectAt context objects (.node step scope children) base body.select := by
      intro body compiled
      refine ⟨[], scope, tables, subqueryStatements compiledChildren, body, .here,
        fun step absurd => (by cases absurd), bound', ?_, rfl⟩
      rw [List.append_nil]
      exact compiled
    refine ⟨fun body compiled => ⟨selectHere body compiled, handed body compiled⟩, ?_⟩
    intro statement compiled
    obtain ⟨body, bodyCompiled, stages⟩ := statementStages_of_compiled compiled
    have armFacts : ∀ arm ∈ statement.arms,
        SelectAt context objects (.node step scope children) base arm ∧
        ∀ inner, .statement inner ∈ arm.atoms → ∀ found, inner.Within found →
          StatementAt context objects (.node step scope children) base found := by
      intro arm member
      rcases stages.arms arm member with rfl | ⟨other, inArms, rfl⟩
      · exact ⟨selectHere body bodyCompiled, handed body bodyCompiled⟩
      · obtain ⟨child, inCompiled, same⟩ := List.mem_filterMap.mp inArms
        obtain ⟨tree, inChildren, notCte, fromTree⟩ := below child inCompiled
        split at same
        · injection same with armBody
          obtain ⟨armSelect, armInner⟩ := fromTree.body other armBody
          exact ⟨armSelect.inside inChildren notCte,
            fun inner mentioned found within => (armInner inner mentioned found within).inside
              inChildren notCte⟩
        · cases same
    intro found within
    cases within with
    | self =>
        refine ⟨⟨[], scope, tables, subqueryStatements compiledChildren, body, .here,
          fun step absurd => (by cases absurd), bound', ?_, stages.carrier, stages.tail⟩, fun arm member => (armFacts arm member).1⟩
        rw [List.append_nil]
        exact bodyCompiled
    | nested member mentioned deeper => exact (armFacts _ member).2 _ mentioned found deeper
    | tail mentioned deeper =>
        exact absurd mentioned ((bodyStages_of_compiled bodyCompiled).tail_noStatement valid stages)

/-- Every scope of the tree is a valid query. -/
def ScopeTree.AllValid (tree : ScopeTree) : Prop :=
  ∀ path scope, tree.At path scope → scope.Valid

mutual

/-- Everything inside a compiled tree comes from that tree. -/
theorem compileTree_fromTree : ∀ (tree : ScopeTree) (base : ScopePath), tree.AllValid →
    (compileTree context objects tree base).FromTree context objects tree base
  | .node step scope children => fun base valid => by
      rw [compileTree]
      refine compileScope_fromTree (valid [] scope .here) ?_
      exact compileForest_fromTree children base fun tree member path found at_ =>
        valid _ found (.inside member at_)
termination_by structural tree => tree

theorem compileForest_fromTree : ∀ (trees : List ScopeTree) (base : ScopePath),
    (∀ tree ∈ trees, tree.AllValid) →
    ∀ compiled ∈ compileForest context objects trees base, ∃ tree ∈ trees,
      tree.step.isCte = false ∧ compiled.FromTree context objects tree (base ++ [tree.step])
  | [] => fun base _ compiled absurd => by
      rw [compileForest] at absurd
      cases absurd
  | tree :: rest => fun base valid compiled member => by
      have later := compileForest_fromTree rest base
        (fun found inRest => valid found (List.mem_cons_of_mem _ inRest))
      rw [compileForest] at member
      split at member
      · obtain ⟨found, inRest, fromTree⟩ := later compiled member
        exact ⟨found, List.mem_cons_of_mem _ inRest, fromTree⟩
      · rename_i notCte
        rcases List.mem_cons.mp member with rfl | inRest
        · exact ⟨tree, List.mem_cons_self .., Bool.eq_false_iff.mpr notCte,
            compileTree_fromTree tree _ (valid tree (List.mem_cons_self ..))⟩
        · obtain ⟨found, inRest, fromTree⟩ := later compiled inRest
          exact ⟨found, List.mem_cons_of_mem _ inRest, fromTree⟩
termination_by structural trees => trees

end

end Trees

/-- The compiled WITH blocks with the given case-folded names are visible. -/
abbrev CteObjects.Visible (objects : CteObjects) (names : List String) : Prop :=
  BlocksNamed .cte objects names

/-- A compiled WITH block is the statement of its tree. -/
theorem compileCte_eq_ok {context : CompileContext} {objects : CteObjects} {index : Nat}
    {spec : CteSpec} {block : CompiledCte}
    (done : compileCte context objects index spec = .ok block) :
    ∃ statement body, (compileTree context objects (scopeTree (.cte index) spec.query)
        [.cte index]).statement = .ok statement ∧
      (compileTree context objects (scopeTree (.cte index) spec.query) [.cte index]).body =
        .ok body ∧
      block.source = .cte spec.name (body.select.columns.map SqlColumn.name) ∧
      (block.statement = statement ∨ block.statement = statement.withoutLimit) := by
  simp only [compileCte, bind_eq_ok_iff] at done
  obtain ⟨_, _, statement, statementDone, body, bodyDone, returned⟩ := done
  cases returned
  refine ⟨statement, body, statementDone, bodyDone, rfl, ?_⟩
  simp only
  split
  · exact .inr rfl
  · exact .inl rfl

/-- The WITH blocks compiled before the one at an offset. -/
def blocksBefore (context : CompileContext) :
    Nat → CteObjects → List CteSpec → Nat → CteObjects
  | _, objects, _, 0 => objects
  | _, objects, [], _ + 1 => objects
  | index, objects, spec :: rest, offset + 1 =>
      match compileCte context objects index spec with
      | .ok block =>
          blocksBefore context (index + 1) (dictSet objects (casefold spec.name) block.source) rest
            offset
      | .error _ => objects

/-- The compiled WITH blocks a scope at a path sees. -/
def blocksAt (context : CompileContext) (query : StructuredQuery) : ScopePath → CteObjects
  | .cte index :: _ => blocksBefore context 0 [] query.ctes index
  | _ => blocksBefore context 0 [] query.ctes query.ctes.length

theorem blocksBefore_succ {context : CompileContext} {objects : CteObjects} {index : Nat}
    {spec : CteSpec} {block : CompiledCte} (done : compileCte context objects index spec = .ok block)
    (rest : List CteSpec) (offset : Nat) :
    blocksBefore context index objects (spec :: rest) (offset + 1) =
      blocksBefore context (index + 1) (dictSet objects (casefold spec.name) block.source) rest
        offset := by
  rw [blocksBefore, done]

/-- A block compiled at position `offset` saw exactly the blocks before it. -/
theorem compileCtes_blocks {context : CompileContext} {specs : List CteSpec} :
    ∀ {index : Nat} {objects all : CteObjects} {blocks : List CompiledCte} {names : List String},
      compileCtes context index objects specs = .ok (all, blocks) → objects.Visible names →
      all = blocksBefore context index objects specs specs.length ∧
      all.Visible (names ++ specs.map fun spec => casefold spec.name) ∧
      ∀ block ∈ blocks, ∃ offset spec, specs[offset]? = some spec ∧
        (blocksBefore context index objects specs offset).Visible
          (names ++ (specs.take offset).map fun spec => casefold spec.name) ∧
        compileCte context (blocksBefore context index objects specs offset) (index + offset) spec =
          .ok block := by
  induction specs with
  | nil =>
      intro index objects all blocks names done visible
      rw [compileCtes] at done
      cases done
      refine ⟨rfl, ?_, fun block absurd => by cases absurd⟩
      rw [List.map_nil, List.append_nil]
      exact visible
  | cons spec rest ih =>
      intro index objects all blocks names done visible
      simp only [compileCtes, bind_eq_ok_iff] at done
      obtain ⟨first, firstDone, ⟨final, others⟩, restDone, returned⟩ := done
      cases returned
      have step := blocksBefore_succ firstDone rest
      obtain ⟨_, _, _, _, source, _⟩ := compileCte_eq_ok firstDone
      rw [source] at restDone step
      obtain ⟨allEq, allVisible, laterBlocks⟩ := ih restDone visible.dictSet
      rw [List.append_assoc, List.singleton_append] at allVisible
      refine ⟨?_, allVisible, fun block member => ?_⟩
      · rw [List.length_cons, step]
        exact allEq
      · rcases List.mem_cons.mp member with rfl | later
        · refine ⟨0, spec, rfl, ?_, firstDone⟩
          rw [List.take_zero, List.map_nil, List.append_nil]
          exact visible
        · obtain ⟨offset, found, at_, beforeVisible, blockDone⟩ := laterBlocks block later
          refine ⟨offset + 1, found, at_, ?_, ?_⟩
          · rw [List.append_assoc, List.singleton_append] at beforeVisible
            rw [step]
            exact beforeVisible
          · rw [Nat.add_assoc, Nat.add_comm 1 offset] at blockDone
            rw [step]
            exact blockDone

/-- The compilation of one scope inside the run of a whole query: the tables
recorded for its path, the WITH blocks visible there, and the SELECT produced. -/
structure ScopeCompilation (context : CompileContext) (query : StructuredQuery) (path : ScopePath)
    (scope : StructuredQuery) (objects : CteObjects) (tables : Tables)
    (subqueries : List (ScopeStep × Gate Statement)) (body : ScopeBody) : Prop where
  scopeAt : ScopeAt query path scope
  blocks : objects = blocksAt context query path
  visible : objects.Visible (visibleCteNames query path)
  bound : dictGet context.scopeTables path = some tables
  compiled : compileScopeBody context objects path scope tables subqueries = .ok body

/-- The scope of a compilation is a valid query. -/
theorem ScopeCompilation.valid {context : CompileContext} {query : StructuredQuery}
    {path : ScopePath} {scope : StructuredQuery} {objects : CteObjects} {tables : Tables}
    {subqueries : List (ScopeStep × Gate Statement)} {body : ScopeBody}
    (run : ScopeCompilation context query path scope objects tables subqueries body)
    (accepted : query.validate = .ok ()) : scope.Valid :=
  StructuredQuery.valid_of_validate (validate_of_mem_scopesOf accepted run.scopeAt.mem_scopesOf)

/-- A SELECT was compiled from a scope of the query. -/
def CompiledFrom (context : CompileContext) (query : StructuredQuery) (select : Select) : Prop :=
  ∃ path scope objects tables subqueries body,
    ScopeCompilation context query path scope objects tables subqueries body ∧
      body.select = select

/-- A statement was compiled from a scope of the query: its first SELECT and the
clauses after it are that scope's. -/
def StatementFrom (context : CompileContext) (query : StructuredQuery) (statement : Statement) :
    Prop :=
  (∃ path scope objects tables subqueries body,
    ScopeCompilation context query path scope objects tables subqueries body ∧
      statement.arms.head? = some body.select ∧
      ∀ atom ∈ statement.tailAtoms, Mentions tables (tailRefs scope) body.aliasMap [] atom) ∧
  ∀ arm ∈ statement.arms, CompiledFrom context query arm

theorem StatementAt.from {context : CompileContext} {objects : CteObjects} {tree : ScopeTree}
    {base : ScopePath} {query : StructuredQuery} {statement : Statement}
    (at_ : StatementAt context objects tree base statement)
    (inside : ∀ path scope, tree.At path scope → ScopeAt query (base ++ path) scope)
    (blocks : ∀ path, ScopePath.NoCte path → objects = blocksAt context query (base ++ path))
    (visible : ∀ path, ScopePath.NoCte path →
      objects.Visible (visibleCteNames query (base ++ path))) :
    StatementFrom context query statement := by
  obtain ⟨⟨path, scope, tables, subqueries, body, below, noCte, bound, compiled, carrier, tail⟩,
    arms⟩ := at_
  refine ⟨⟨base ++ path, scope, objects, tables, subqueries, body,
    ⟨inside path scope below, blocks path noCte, visible path noCte, bound, compiled⟩, carrier,
    tail⟩,
    fun arm member => ?_⟩
  obtain ⟨armPath, armScope, armTables, armSubqueries, armBody, armBelow, armNoCte, armBound,
    armCompiled, same⟩ := arms arm member
  exact ⟨base ++ armPath, armScope, objects, armTables, armSubqueries, armBody,
    ⟨inside armPath armScope armBelow, blocks armPath armNoCte, visible armPath armNoCte, armBound,
      armCompiled⟩, same⟩

/-- A compiled tree of a query: the main one or that of a WITH block, with the blocks its scopes
see. -/
structure CompiledRoot (context : CompileContext) (query : StructuredQuery) (step : ScopeStep)
    (root : StructuredQuery) (base : ScopePath) (objects : CteObjects) : Prop where
  accepted : root.validate = .ok ()
  inside : ∀ path scope, (scopeTree step root).At path scope → ScopeAt query (base ++ path) scope
  blocks : ∀ path, ScopePath.NoCte path → objects = blocksAt context query (base ++ path)
  visible : ∀ path, ScopePath.NoCte path → objects.Visible (visibleCteNames query (base ++ path))

theorem CompiledRoot.allValid {context : CompileContext} {query root : StructuredQuery}
    {step : ScopeStep} {base : ScopePath} {objects : CteObjects}
    (root_ : CompiledRoot context query step root base objects) : (scopeTree step root).AllValid :=
  fun _ _ at_ => StructuredQuery.valid_of_validate
    (validate_of_mem_scopesOf root_.accepted (mem_scopesOf_of_at at_))

/-- The main tree sees every block. -/
theorem compiledRoot_main {context : CompileContext} {query : StructuredQuery}
    {objects : CteObjects} (accepted : query.validate = .ok ())
    (blocks : objects = blocksBefore context 0 [] query.ctes query.ctes.length)
    (visible : objects.Visible (declaredCteNames query)) :
    CompiledRoot context query .root query [] objects := by
  have outside : ∀ path, ScopePath.NoCte path → objects = blocksAt context query ([] ++ path) ∧
      objects.Visible (visibleCteNames query ([] ++ path)) := by
    intro path noCte
    cases path with
    | nil => exact ⟨blocks, visible⟩
    | cons step rest =>
        have notCte := noCte step (List.mem_cons_self ..)
        cases step with
        | cte index => cases notCte
        | root => exact ⟨blocks, visible⟩
        | arm index => exact ⟨blocks, visible⟩
        | value index => exact ⟨blocks, visible⟩
        | existence index => exact ⟨blocks, visible⟩
  exact ⟨accepted, fun path scope at_ => at_, fun path noCte => (outside path noCte).1,
    fun path noCte => (outside path noCte).2⟩

/-- Every statement inside a compiled query lies within the statement of one of its trees, or is
that statement without its limit. -/
theorem compileIn_tree {context : CompileContext} {query : StructuredQuery}
    {compiled : CompiledQuery} {found : Statement} (accepted : query.validate = .ok ())
    (done : compileIn context query = .ok compiled) (within : compiled.Within found) :
    ∃ step root base objects statement, CompiledRoot context query step root base objects ∧
      (compileTree context objects (scopeTree step root) base).statement = .ok statement ∧
      (statement.Within found ∨ found = statement.withoutLimit) := by
  simp only [compileIn, bind_eq_ok_iff] at done
  obtain ⟨⟨objects, blocks⟩, ctesDone, statement, statementDone, returned⟩ := done
  cases returned
  obtain ⟨allEq, allVisible, eachBlock⟩ := compileCtes_blocks ctesDone
    (BlocksNamed.empty .cte)
  rw [List.nil_append] at allVisible
  rcases within with inStatement | ⟨block, member, inBlock⟩
  · exact ⟨.root, query, [], objects, statement, compiledRoot_main accepted allEq allVisible,
      statementDone, .inl inStatement⟩
  · obtain ⟨index, spec, at_, beforeVisible, blockDone⟩ := eachBlock block member
    rw [List.nil_append] at beforeVisible
    rw [Nat.zero_add] at blockDone
    obtain ⟨blockStatement, _, treeDone, _, _, same⟩ := compileCte_eq_ok blockDone
    have bodyValid : spec.query.validate = .ok () :=
      CteSpec.validate_query ((StructuredQuery.valid_of_validate accepted).ctes spec
        (List.mem_of_getElem? at_))
    refine ⟨.cte index, spec.query, [.cte index], _, blockStatement,
      ⟨bodyValid, fun path scope below => .of_cte at_ below, fun path _ => rfl,
        fun path _ => beforeVisible⟩, treeDone, ?_⟩
    rcases same with same | same
    · rw [same] at inBlock
      exact .inl inBlock
    · rw [same] at inBlock
      rcases inBlock.of_withoutLimit with rfl | deeper
      · exact .inr rfl
      · exact .inl deeper

/-- Every statement inside a compiled query was compiled from one of its scopes. -/
theorem compileIn_within {context : CompileContext} {query : StructuredQuery}
    {compiled : CompiledQuery} {found : Statement} (accepted : query.validate = .ok ())
    (done : compileIn context query = .ok compiled) (within : compiled.Within found) :
    StatementFrom context query found := by
  obtain ⟨step, root, base, objects, statement, root_, treeDone, place⟩ :=
    compileIn_tree accepted done within
  have fromTree : CompiledScope.FromTree context objects
      (compileTree context objects (scopeTree step root) base) (scopeTree step root) base :=
    compileTree_fromTree _ base root_.allValid
  have facts := fromTree.statement statement treeDone
  have atFound : StatementAt context objects (scopeTree step root) base found := by
    rcases place with inside | rfl
    · exact facts found inside
    · exact (facts statement .self).withoutLimit
  exact atFound.from root_.inside root_.blocks root_.visible

end QueryGate
