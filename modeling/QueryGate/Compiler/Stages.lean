import QueryGate.Compiler.Mentions

/-! # The stages of a compiled scope

A compiled SELECT taken apart: `BodyStages` states what each stage of
`compileScopeBody` produced, `SingleStages` and `SetOperationStages` do so for
the statement around it. From these follows what every clause mentions.
-/

namespace QueryGate

open Foundation

/-- The tables a scope is compiled against: the validated ones, with WITH blocks
in place of their placeholders. -/
def compiledTables (objects : CteObjects) (path : ScopePath) (query : StructuredQuery)
    (tables : Tables) : Tables :=
  resolveCteReferences query tables objects path

/-- What each stage of a successful `compileScopeBody` produced. -/
structure BodyStages (context : CompileContext) (objects : CteObjects) (path : ScopePath)
    (query : StructuredQuery) (scopeTables : Tables)
    (subqueries : List (ScopeStep × Gate Statement)) (body : ScopeBody) : Prop where
  path_eq : body.select.path = path
  scope_eq : body.select.scope = query
  columns : buildSelectColumns context query (compiledTables objects path query scopeTables) =
    .ok (body.select.columns, body.aliasMap)
  base : tableByName (compiledTables objects path query scopeTables) query.fromName =
    .ok body.select.base
  joins : mapAll (compileJoin context.adapter (compiledTables objects path query scopeTables))
    query.joins = .ok body.select.joins
  where_ : ∃ filters conditions,
    applyMandatoryRowFilters context query (compiledTables objects path query scopeTables)
      (dictKeys objects) = .ok filters ∧
    optionalConjunct (query.where_.map (compileWhere context.adapter
      (compiledTables objects path query scopeTables) [] (some { subqueries := subqueries }) 0)) =
        .ok conditions ∧
    body.select.where_ = filters ++ conditions
  groupBy : mapAll (resolveOutputRef (compiledTables objects path query scopeTables)
    body.aliasMap true) query.groupBy = .ok body.select.groupBy
  having : ∃ conditions floor,
    optionalConjunct (query.having.map (compileWhere context.adapter
      (compiledTables objects path query scopeTables) body.aliasMap
      (some { subqueries := subqueries, allowValueSetSubquery := false })
      (optionPredicates query.where_).length)) = .ok conditions ∧
    groupFloor context.policy query (compiledTables objects path query scopeTables) = .ok floor ∧
    body.select.having = conditions ++ floor

theorem bodyStages_of_compiled {context : CompileContext} {objects : CteObjects} {path : ScopePath}
    {query : StructuredQuery} {scopeTables : Tables}
    {subqueries : List (ScopeStep × Gate Statement)} {body : ScopeBody}
    (compiled : compileScopeBody context objects path query scopeTables subqueries = .ok body) :
    BodyStages context objects path query scopeTables subqueries body := by
  simp only [compileScopeBody, bind_eq_ok_iff] at compiled
  obtain ⟨⟨columns, aliasMap⟩, columnsDone, base, baseDone, joins, joinsDone, filters, filtersDone,
    conditions, whereDone, groupBy, groupDone, having, havingDone, floor, floorDone, returned⟩ :=
    compiled
  cases returned
  exact ⟨rfl, rfl, columnsDone, baseDone, joinsDone, ⟨filters, conditions, filtersDone, whereDone,
    rfl⟩, groupDone, ⟨having, floor, havingDone, floorDone, rfl⟩⟩

theorem hasDot_of_resolveColumnRef {tables : Tables} {ref : String} {found : FromObj × ColumnDef}
    (resolved : resolveColumnRef tables ref = .ok found) : hasDot ref = true := by
  simp only [resolveColumnRef, bind_eq_ok_iff] at resolved
  obtain ⟨_, parsed, _⟩ := resolved
  exact hasDot_of_parseColumnRef parsed

/-- A compiled item mentions the given references only, and every output name it
adds stands for its expression. -/
def CompiledItem.MentionsOnly (compiled : CompiledItem) (tables : Tables) (refs : List String) :
    Prop :=
  compiled.1.expr.MentionsOnly tables refs [] [] ∧ ∀ entry ∈ compiled.2, entry.2 = compiled.1.expr

theorem labeled_mentions {tables : Tables} {refs : List String} {name : String} {expr : SqlExpr}
    (mentions : expr.MentionsOnly tables refs [] []) :
    CompiledItem.MentionsOnly (labeled name expr) tables refs := by
  refine ⟨mentions, fun entry member => ?_⟩
  rw [List.mem_singleton.mp member]
  rfl

theorem adapterItem_mentions {adapter : DialectAdapter} {tables : Tables} {method : AdapterMethod}
    {col : String} {alias_ : Option String} {default_ : String → String} {compiled : CompiledItem}
    (done : adapterItem adapter tables method col alias_ default_ = .ok compiled) :
    compiled.MentionsOnly tables (if col = "*" then [] else [col]) := by
  simp only [adapterItem, bind_eq_ok_iff] at done
  obtain ⟨⟨table, column⟩, resolved, expr, called, returned⟩ := done
  cases returned
  have notStar : col ≠ "*" := by
    rintro rfl
    have dotted := hasDot_of_resolveColumnRef resolved
    exact absurd dotted (by decide)
  refine labeled_mentions (adapterCall_mentions called fun arg isColumn => ?_)
  rw [List.mem_singleton.mp isColumn]
  intro atom mentioned
  rw [SqlExpr.atoms, List.mem_singleton] at mentioned
  rw [mentioned, if_neg notStar]
  exact .column (List.mem_singleton.mpr rfl) resolved

theorem aggregateExpr_mentions {fn : AggregateFn} {distinct : Bool} {arg : Option (Gate SqlExpr)}
    {expr : SqlExpr} {tables : Tables} {refs : List String}
    (done : aggregateExpr fn distinct arg = .ok expr)
    (argument : ∀ inner, arg = some (.ok inner) → inner.MentionsOnly tables refs [] []) :
    expr.MentionsOnly tables refs [] [] := by
  cases arg with
  | none =>
      rw [aggregateExpr, seq_eq_ok_iff] at done
      obtain ⟨_, returned⟩ := done
      cases returned
      exact fun atom absurd => by cases absurd
  | some outcome =>
      rw [aggregateExpr, bind_eq_ok_iff] at done
      obtain ⟨inner, rfl, returned⟩ := done
      cases returned
      intro atom mentioned
      rw [SqlExpr.atoms, expressionAtoms, expressionAtoms, List.append_nil] at mentioned
      exact argument inner rfl atom mentioned

/-- A compiled select item mentions the references of the item. -/
theorem compileSelectItem_mentions {context : CompileContext} {query : StructuredQuery}
    {tables : Tables} {item : SelectItem} {compiled : CompiledItem} (valid : item.validate = .ok ())
    (done : compileSelectItem context query tables item = .ok compiled) :
    compiled.MentionsOnly tables (selectItemColumnRefs item) := by
  cases item with
  | bare ref =>
      simp only [compileSelectItem, bind_eq_ok_iff] at done
      obtain ⟨⟨table, column⟩, resolved, mask, _, expr, masked, returned⟩ := done
      cases returned
      have isColumn : ∀ atom ∈ expr.atoms, atom = .column table column.name (some ref) := by
        intro atom mentioned
        cases mask with
        | none =>
            cases masked
            exact List.mem_singleton.mp mentioned
        | some mask =>
            rw [maskedColumn] at masked
            rw [adapterCall_eq_ok masked, SqlExpr.atoms, expressionAtoms, expressionAtoms,
              List.append_nil] at mentioned
            exact List.mem_singleton.mp mentioned
      refine ⟨fun atom mentioned => ?_, fun entry member => ?_⟩
      · rw [isColumn atom mentioned]
        exact .column (List.mem_singleton.mpr rfl) resolved
      · rcases List.mem_cons.mp member with rfl | second
        · rfl
        · rw [List.mem_singleton.mp second]
          rfl
  | aggregate fn col arg distinct alias_ =>
      simp only [SelectItem.validate, seq_eq_ok_iff] at valid
      simp only [compileSelectItem, bind_eq_ok_iff] at done
      obtain ⟨_, _, expr, exprDone, name, _, returned⟩ := done
      cases returned
      refine labeled_mentions (aggregateExpr_mentions exprDone fun inner found => ?_)
      refine compileOptional_mentions context.adapter tables _ arg 1 inner valid.1 ?_ found
      cases arg with
      | none => exact List.nil_subset _
      | some expression => exact List.Subset.refl _
  | dateBucket item =>
      rw [compileSelectItem] at done
      exact adapterItem_mentions done
  | stringAgg item =>
      rw [compileSelectItem] at done
      exact adapterItem_mentions done
  | arrayAgg item =>
      rw [compileSelectItem] at done
      exact adapterItem_mentions done
  | percentileCont item =>
      rw [compileSelectItem] at done
      exact adapterItem_mentions done
  | scalarFunction call alias_ =>
      simp only [compileSelectItem, bind_eq_ok_iff] at done
      obtain ⟨expr, called, name, _, returned⟩ := done
      cases returned
      exact labeled_mentions (scalarCall_mentions called (List.Subset.refl _))
  | case when_ else_ alias_ =>
      rw [SelectItem.validate] at valid
      rw [compileSelectItem, bind_eq_ok_iff] at done
      obtain ⟨expr, exprDone, returned⟩ := done
      cases returned
      refine labeled_mentions (compileExpression_mentions context.adapter tables _
        (.case when_ else_) 1 expr ?_ (List.Subset.refl _) exprDone)
      rw [Expression.validate]
      exact valid
  | expression expression alias_ =>
      rw [SelectItem.validate] at valid
      rw [compileSelectItem, bind_eq_ok_iff] at done
      obtain ⟨expr, exprDone, returned⟩ := done
      cases returned
      exact labeled_mentions (compileExpression_mentions context.adapter tables _ expression 1 expr
        valid (List.Subset.refl _) exprDone)
  | window call alias_ =>
      rw [SelectItem.validate] at valid
      rw [compileSelectItem, bind_eq_ok_iff] at done
      obtain ⟨expr, exprDone, returned⟩ := done
      cases returned
      refine labeled_mentions (compileWindow_mentions context.adapter tables _ call 1 expr valid
        (List.subset_append_right _ _) ?_ exprDone)
      obtain ⟨fn, over_, arg, offset, buckets⟩ := call
      rw [windowParts]
      refine List.Subset.trans ?_ (List.subset_append_left _ _)
      cases arg with
      | none => exact List.nil_subset _
      | some expression =>
          simp only [Option.toList_some, List.flatMap_singleton]
          exact List.Subset.refl _

/-- The item is a whole reference. -/
def SelectItem.isBare : SelectItem → Bool
  | .bare _ => true
  | _ => false

theorem compileSelectItem_bare {context : CompileContext} {query : StructuredQuery}
    {tables : Tables} {item : SelectItem} {compiled : CompiledItem}
    (done : compileSelectItem context query tables item = .ok compiled) :
    compiled.1.bare = item.isBare := by
  have adapted : ∀ {method : AdapterMethod} {col : String} {alias_ : Option String}
      {default_ : String → String},
      adapterItem context.adapter tables method col alias_ default_ = .ok compiled →
      compiled.1.bare = false := by
    intro method col alias_ default_ adapterDone
    simp only [adapterItem, bind_eq_ok_iff] at adapterDone
    obtain ⟨_, _, _, _, returned⟩ := adapterDone
    cases returned
    rfl
  cases item with
  | dateBucket item =>
      rw [compileSelectItem] at done
      exact adapted done
  | stringAgg item =>
      rw [compileSelectItem] at done
      exact adapted done
  | arrayAgg item =>
      rw [compileSelectItem] at done
      exact adapted done
  | percentileCont item =>
      rw [compileSelectItem] at done
      exact adapted done
  | bare ref =>
      simp only [compileSelectItem, bind_eq_ok_iff] at done
      obtain ⟨_, _, _, _, _, _, returned⟩ := done
      cases returned
      rfl
  | aggregate fn col arg distinct alias_ =>
      simp only [compileSelectItem, bind_eq_ok_iff] at done
      obtain ⟨_, _, _, _, _, _, returned⟩ := done
      cases returned
      rfl
  | scalarFunction call alias_ =>
      simp only [compileSelectItem, bind_eq_ok_iff] at done
      obtain ⟨_, _, _, _, returned⟩ := done
      cases returned
      rfl
  | case when_ else_ alias_ =>
      simp only [compileSelectItem, bind_eq_ok_iff] at done
      obtain ⟨_, _, returned⟩ := done
      cases returned
      rfl
  | expression expression alias_ =>
      simp only [compileSelectItem, bind_eq_ok_iff] at done
      obtain ⟨_, _, returned⟩ := done
      cases returned
      rfl
  | window call alias_ =>
      simp only [compileSelectItem, bind_eq_ok_iff] at done
      obtain ⟨_, _, returned⟩ := done
      cases returned
      rfl

theorem mem_foldl_extendAliasMap {items : List CompiledItem} {aliasMap : AliasMap}
    {entry : String × SqlExpr}
    (member : entry ∈ items.foldl (fun aliasMap item => extendAliasMap aliasMap item.2) aliasMap) :
    entry ∈ aliasMap ∨ ∃ item ∈ items, entry ∈ item.2 := by
  induction items generalizing aliasMap with
  | nil => exact .inl member
  | cons item rest ih =>
      rcases ih member with extended | ⟨found, later, inItem⟩
      · rcases mem_of_mem_foldl_dictSet extended with old | new
        · exact .inl old
        · exact .inr ⟨item, List.mem_cons_self .., new⟩
      · exact .inr ⟨found, List.mem_cons_of_mem _ later, inItem⟩

theorem compilePair_mentions {tables : Tables} {pair : String × String} {condition : SqlCondition}
    (done : compilePair tables pair = .ok condition) :
    ∀ atom ∈ condition.atoms, Mentions tables (pairSides pair) [] [] atom := by
  simp only [compilePair, bind_eq_ok_iff] at done
  obtain ⟨⟨leftTable, leftColumn⟩, leftParsed, ⟨rightTable, rightColumn⟩, rightParsed, left,
    leftFound, leftDef, leftResolved, right, rightFound, rightDef, rightResolved, returned⟩ := done
  cases returned
  have leftRef : resolveColumnRef tables pair.1 = .ok (left, leftDef) := by
    simp only [resolveColumnRef, bind_eq_ok_iff]
    exact ⟨_, leftParsed, _, leftFound, _, leftResolved, rfl⟩
  have rightRef : resolveColumnRef tables pair.2 = .ok (right, rightDef) := by
    simp only [resolveColumnRef, bind_eq_ok_iff]
    exact ⟨_, rightParsed, _, rightFound, _, rightResolved, rfl⟩
  intro atom mentioned
  rw [SqlCondition.atoms, SqlExpr.atoms, SqlExpr.atoms, List.mem_append] at mentioned
  rcases mentioned with isLeft | isRight
  · rw [List.mem_singleton.mp isLeft]
    exact .column (List.mem_cons_self ..) leftRef
  · rw [List.mem_singleton.mp isRight]
    exact .column (List.mem_cons_of_mem _ (List.mem_cons_self ..)) rightRef

theorem atoms_conjunction {conditions : List SqlCondition} {atom : SqlAtom}
    (mentioned : atom ∈ (conjunction conditions).atoms) :
    ∃ condition ∈ conditions, atom ∈ condition.atoms := by
  unfold conjunction at mentioned
  split at mentioned
  · exact ⟨_, List.mem_singleton.mpr rfl, mentioned⟩
  · rw [SqlCondition.atoms, conditionAtoms_eq_flatMap, List.mem_flatMap] at mentioned
    exact mentioned

/-- A condition of the AST mentions the references of its predicates. -/
theorem compileWhere_mentions_refs {adapter : DialectAdapter} {tables : Tables}
    {aliasMap : AliasMap} {ctx : Option WhereCtx} {index : Nat} {node : WhereNode}
    {condition : SqlCondition} (valid : node.validate = .ok ())
    (done : compileWhere adapter tables aliasMap ctx index node = .ok condition) :
    ∀ atom ∈ condition.atoms,
      Mentions tables (whereColumnRefs node) aliasMap (ctxSubqueries ctx) atom := by
  refine compileWhere_mentions adapter tables (whereColumnRefs node) aliasMap ctx node 1 index
    condition valid (fun pred member ref found => ?_) (fun ref found => ?_) done
  · exact List.mem_flatMap.mpr ⟨pred, member, List.mem_append_left _ found⟩
  · rw [partRefs, whereParts_eq_flatMap, List.flatMap_assoc, List.mem_flatMap] at found
    obtain ⟨pred, member, inPred⟩ := found
    rw [predicateParts_eq_flatMap, List.flatMap_assoc] at inPred
    exact List.mem_flatMap.mpr ⟨pred, member, List.mem_append_right _ inPred⟩

/-- The references of a join, without their positions. -/
def joinRefs (join : JoinSpec) : List String :=
  (joinColumnRefs join).map ColumnRef.ref

theorem joinCondition_mentions {adapter : DialectAdapter} {tables : Tables} {join : JoinSpec}
    {condition : SqlCondition} (valid : join.validate = .ok ())
    (done : joinCondition adapter tables join = .ok condition) :
    ∀ atom ∈ condition.atoms, Mentions tables (joinRefs join) [] [] atom := by
  have listed : ∀ ref, ref ∈ join.on.toList.flatMap pairSides ∨
      ref ∈ join.extraOn.flatMap pairSides ∨ ref ∈ optionColumnRefs join.condition →
      ref ∈ joinRefs join := by
    intro ref found
    simp only [joinRefs, joinColumnRefs, List.map_append, List.map_map, Function.comp_def,
      List.map_id', List.mem_append]
    tauto
  unfold joinCondition at done
  split at done
  · cases done
    exact fun atom absurd => by cases absurd
  · split at done
    · rename_i node present
      have validNode := JoinSpec.validate_condition valid
      rw [present, validateOptionNode] at validNode
      intro atom mentioned
      refine (compileWhere_mentions_refs validNode done atom mentioned).weaken fun ref found => ?_
      refine listed ref (.inr (.inr ?_))
      rw [present]
      exact found
    · simp only [bind_eq_ok_iff] at done
      obtain ⟨pairs, pairsDone, conditions, mapped, returned⟩ := done
      cases returned
      unfold joinPairs at pairsDone
      split at pairsDone
      · rename_i pair onPair
        cases pairsDone
        intro atom mentioned
        obtain ⟨found, inConditions, inFound⟩ := atoms_conjunction mentioned
        obtain ⟨source, inPairs, compiledPair⟩ := mapAll_preimage mapped inConditions
        refine (compilePair_mentions compiledPair atom inFound).weaken fun ref inSource => ?_
        rcases List.mem_cons.mp inPairs with rfl | extra
        · refine listed ref (.inl ?_)
          rw [onPair]
          exact List.mem_flatMap.mpr ⟨_, List.mem_singleton.mpr rfl, inSource⟩
        · exact listed ref (.inr (.inl (List.mem_flatMap.mpr ⟨source, extra, inSource⟩)))
      · cases pairsDone

theorem resolveOutputRef_mentions {tables : Tables} {aliasMap : AliasMap} {fallback : Bool}
    {refs : List String} {ref : String} {expr : SqlExpr} (member : ref ∈ refs)
    (done : resolveOutputRef tables aliasMap fallback ref = .ok expr) :
    expr.MentionsOnly tables (refs.filter hasDot) aliasMap [] := by
  unfold resolveOutputRef at done
  split at done
  · rename_i target found
    cases done
    exact fun atom mentioned => .output (dictGet_eq_some_mem found) mentioned
  · split at done
    · rename_i allowed
      rw [Bool.and_eq_true] at allowed
      exact columnExpr_mentions done (List.mem_filter.mpr ⟨member, allowed.2⟩)
    · cases done

theorem optionalConjunct_eq_ok {compiled : Option (Gate SqlCondition)}
    {conditions : List SqlCondition} (done : optionalConjunct compiled = .ok conditions)
    {condition : SqlCondition} (member : condition ∈ conditions) :
    compiled = some (.ok condition) := by
  rw [optionalConjunct, bind_eq_ok_iff] at done
  obtain ⟨found, sequenced, returned⟩ := done
  cases returned
  rw [sequenceOption_eq_ok_iff] at sequenced
  rw [Option.mem_toList.mp member] at sequenced
  exact sequenced

/-- An optional condition of a scope mentions the references of that condition. -/
theorem optionalWhere_mentions {adapter : DialectAdapter} {tables : Tables} {aliasMap : AliasMap}
    {ctx : Option WhereCtx} {index : Nat} {node : Option WhereNode}
    {conditions : List SqlCondition} (valid : validateOptionNode node = .ok ())
    (done : optionalConjunct (node.map (compileWhere adapter tables aliasMap ctx index)) =
      .ok conditions) :
    ∀ condition ∈ conditions, ∀ atom ∈ condition.atoms,
      Mentions tables (optionColumnRefs node) aliasMap (ctxSubqueries ctx) atom := by
  intro condition member
  have compiled := optionalConjunct_eq_ok done member
  cases node with
  | none => cases compiled
  | some node =>
      rw [validateOptionNode] at valid
      rw [Option.map_some, Option.some.injEq] at compiled
      exact compileWhere_mentions_refs valid compiled

theorem compileRowFilter_eq_ok {context : CompileContext} {tables : Tables} {key : String}
    {rowFilter : MandatoryRowFilter} {condition : SqlCondition}
    (done : compileRowFilter context tables key rowFilter = .ok condition) :
    ∃ value table column, rowFilter.resolve context.request.principal = .ok value ∧
      tableByName tables key = .ok table ∧ resolveColumn table rowFilter.column = .ok column ∧
      condition = .rowFilter table column.name value := by
  simp only [compileRowFilter, bind_eq_ok_iff] at done
  obtain ⟨value, resolved, table, found, column, columnFound, returned⟩ := done
  cases returned
  exact ⟨value, table, column, resolved, found, columnFound, rfl⟩

/-- Every mandatory condition is about the table object of a declared name. -/
theorem mandatory_eq_rowFilter {context : CompileContext} {query : StructuredQuery}
    {tables : Tables} {cteNames : List String} {filters : List SqlCondition}
    (done : applyMandatoryRowFilters context query tables cteNames = .ok filters)
    {condition : SqlCondition} (member : condition ∈ filters) :
    ∃ key ∈ query.declaredKeys, ∃ table column value, tableByName tables key = .ok table ∧
      condition = .rowFilter table column value := by
  rw [applyMandatoryRowFilters, bind_eq_ok_iff] at done
  obtain ⟨groups, mapped, returned⟩ := done
  cases returned
  obtain ⟨group, inGroups, inGroup⟩ := List.mem_flatten.mp member
  obtain ⟨key, declared, occurrence⟩ := mapAll_preimage mapped inGroups
  simp only [occurrenceFilters] at occurrence
  split at occurrence
  · cases occurrence
    cases inGroup
  · rw [bind_eq_ok_iff] at occurrence
    obtain ⟨_, _, compiled⟩ := occurrence
    obtain ⟨rowFilter, _, filterDone⟩ := mapAll_preimage compiled inGroup
    obtain ⟨value, table, column, _, found, _, rfl⟩ := compileRowFilter_eq_ok filterDone
    exact ⟨key, declared, table, column.name, value, found, rfl⟩

namespace BodyStages

variable {context : CompileContext} {objects : CteObjects} {path : ScopePath}
  {query : StructuredQuery} {scopeTables : Tables}
  {subqueries : List (ScopeStep × Gate Statement)} {body : ScopeBody}

/-- Every projected column comes from a select item. -/
theorem column_mentions
    (stages : BodyStages context objects path query scopeTables subqueries body)
    (valid : query.Valid) {column : SqlColumn} (member : column ∈ body.select.columns) :
    ∃ item ∈ query.select, column.bare = item.isBare ∧
      column.expr.MentionsOnly (compiledTables objects path query scopeTables)
        (selectItemColumnRefs item) [] [] := by
  have built := stages.columns
  rw [buildSelectColumns, bind_eq_ok_iff] at built
  obtain ⟨items, mapped, returned⟩ := built
  injection returned with pair
  injection pair with columns _
  rw [← columns, List.mem_map] at member
  obtain ⟨compiled, inItems, rfl⟩ := member
  obtain ⟨item, inSelect, done⟩ := mapAll_preimage mapped inItems
  exact ⟨item, inSelect, compileSelectItem_bare done,
    (compileSelectItem_mentions (valid.items item inSelect) done).1⟩

/-- Every output name stands for the expression of a select item. -/
theorem alias_mentions
    (stages : BodyStages context objects path query scopeTables subqueries body)
    (valid : query.Valid) {entry : String × SqlExpr} (member : entry ∈ body.aliasMap) :
    ∃ item ∈ query.select, entry.2.MentionsOnly (compiledTables objects path query scopeTables)
      (selectItemColumnRefs item) [] [] := by
  have built := stages.columns
  rw [buildSelectColumns, bind_eq_ok_iff] at built
  obtain ⟨items, mapped, returned⟩ := built
  injection returned with pair
  injection pair with _ aliasMap
  rw [← aliasMap] at member
  rcases mem_foldl_extendAliasMap member with absurd | ⟨compiled, inItems, inItem⟩
  · cases absurd
  · obtain ⟨item, inSelect, done⟩ := mapAll_preimage mapped inItems
    obtain ⟨mentions, same⟩ := compileSelectItem_mentions (valid.items item inSelect) done
    refine ⟨item, inSelect, ?_⟩
    rw [same entry inItem]
    exact mentions

/-- Every join condition mentions the references of its join. -/
theorem join_mentions
    (stages : BodyStages context objects path query scopeTables subqueries body)
    (valid : query.Valid) {join : SqlJoin} (member : join ∈ body.select.joins) :
    ∃ spec ∈ query.joins, ∀ atom ∈ join.condition.atoms,
      Mentions (compiledTables objects path query scopeTables) (joinRefs spec) [] [] atom := by
  obtain ⟨spec, inJoins, done⟩ := mapAll_preimage stages.joins member
  simp only [compileJoin, bind_eq_ok_iff] at done
  obtain ⟨right, _, condition, conditionDone, returned⟩ := done
  cases returned
  exact ⟨spec, inJoins, joinCondition_mentions (valid.joins spec inJoins) conditionDone⟩

/-- A WHERE conjunct is a mandatory filter on a declared name, or mentions the
references of the WHERE clause. -/
theorem where_mentions
    (stages : BodyStages context objects path query scopeTables subqueries body)
    (valid : query.Valid) {condition : SqlCondition} (member : condition ∈ body.select.where_) :
    (∃ key ∈ query.declaredKeys, ∃ table column value,
      tableByName (compiledTables objects path query scopeTables) key = .ok table ∧
        condition = .rowFilter table column value) ∨
      ∀ atom ∈ condition.atoms, Mentions (compiledTables objects path query scopeTables)
        (optionColumnRefs query.where_) [] subqueries atom := by
  obtain ⟨filters, conditions, filtered, done, same⟩ := stages.where_
  rw [same, List.mem_append] at member
  rcases member with mandatory | own
  · exact .inl (mandatory_eq_rowFilter filtered mandatory)
  · exact .inr (optionalWhere_mentions valid.whereTree done condition own)

/-- A GROUP BY term mentions its own reference or an output name. -/
theorem groupBy_mentions
    (stages : BodyStages context objects path query scopeTables subqueries body)
    {expr : SqlExpr} (member : expr ∈ body.select.groupBy) :
    expr.MentionsOnly (compiledTables objects path query scopeTables)
      (query.groupBy.filter hasDot) body.aliasMap [] := by
  obtain ⟨ref, inGroup, done⟩ := mapAll_preimage stages.groupBy member
  exact resolveOutputRef_mentions inGroup done

/-- The floor is a bound on the size of a group. -/
theorem groupFloor_eq_ok {policy : Policy} {tables : Tables} {floor : List SqlCondition}
    (done : groupFloor policy query tables = .ok floor) {condition : SqlCondition}
    (member : condition ∈ floor) : ∃ size, condition = .countAtLeast size := by
  unfold groupFloor at done
  split at done
  · cases done
    cases member
  · split at done
    · simp only [bind_eq_ok_iff] at done
      obtain ⟨_, _, _, _, returned⟩ := done
      cases returned
      exact ⟨_, List.mem_singleton.mp member⟩
    · cases done
      cases member

/-- A HAVING conjunct mentions the references of the HAVING clause or an output
name. -/
theorem having_mentions
    (stages : BodyStages context objects path query scopeTables subqueries body)
    (valid : query.Valid) {condition : SqlCondition} (member : condition ∈ body.select.having) :
    ∀ atom ∈ condition.atoms, Mentions (compiledTables objects path query scopeTables)
      (optionColumnRefs query.having) body.aliasMap subqueries atom := by
  obtain ⟨conditions, floor, done, floored, same⟩ := stages.having
  rw [same, List.mem_append] at member
  rcases member with own | floorCondition
  · exact optionalWhere_mentions valid.havingTree done condition own
  · obtain ⟨size, rfl⟩ := groupFloor_eq_ok floored floorCondition
    exact fun atom absurd => by cases absurd

end BodyStages

end QueryGate
