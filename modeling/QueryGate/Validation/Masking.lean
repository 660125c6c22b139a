import QueryGate.Validation.AccessRules

/-! # Masked columns

Where a masked column can occur in an accepted query. Three rules keep masked
values out of the rest of the query: one on the first column of every nested
scope, one on the columns of a WITH body, one on every position other than a bare
projection. The main result says exactly what they leave open.
-/

namespace QueryGate

open Foundation

section Depth

/-- Every block is charged at least one level. -/
theorem one_le_chainDepths (blocks : List (String × List String)) :
    ∀ block ∈ blocks, 1 ≤ blockDepth (chainDepths blocks) block.1 := by
  have charged : ∀ (rest : List (String × List String)) (depths : List (String × Nat)),
      (∀ key depth, dictGet depths key = some depth → 1 ≤ depth) →
      (∀ key depth, dictGet (rest.foldl (fun depths block => dictSet depths block.1
          (1 + (block.2.filterMap (dictGet depths)).foldl max 0)) depths) key = some depth →
        1 ≤ depth) ∧
      ∀ key, (key ∈ dictKeys depths ∨ key ∈ rest.map Prod.fst) →
        key ∈ dictKeys (rest.foldl (fun depths block => dictSet depths block.1
          (1 + (block.2.filterMap (dictGet depths)).foldl max 0)) depths) := by
    intro rest
    induction rest with
    | nil =>
        intro depths known
        refine ⟨known, fun key member => ?_⟩
        rcases member with kept | absurd
        · exact kept
        · cases absurd
    | cons block later ih =>
        intro depths known
        have next := ih (dictSet depths block.1
          (1 + (block.2.filterMap (dictGet depths)).foldl max 0)) fun key depth found => by
            rw [dictGet_dictSet] at found
            split at found
            · cases found
              omega
            · exact known key depth found
        refine ⟨next.1, fun key member => next.2 key ?_⟩
        rw [← dictGet_isSome_iff, dictGet_dictSet]
        by_cases same : block.1 = key
        · rw [if_pos same]
          exact .inl rfl
        · rw [if_neg same, dictGet_isSome_iff]
          rcases member with kept | inBlocks
          · exact .inl kept
          · rcases List.mem_cons.mp inBlocks with here | inLater
            · exact absurd here.symm same
            · exact .inr inLater
  intro block member
  obtain ⟨positive, keys⟩ := charged blocks [] fun key depth absurd => by cases absurd
  have found := dictGet_isSome_iff.mpr (keys block.1 (.inr (List.mem_map_of_mem member)))
  obtain ⟨depth, found⟩ := Option.isSome_iff_exists.mp found
  rw [blockDepth, chainDepths, found]
  exact positive block.1 depth found

theorem mem_of_mem_armChildren {arms : List StructuredQuery} {kid : ScopeStep × StructuredQuery} :
    ∀ {first : Nat}, kid ∈ armChildren first arms → kid.2 ∈ arms := by
  induction arms with
  | nil => exact fun absurd => by cases absurd
  | cons arm later ih =>
      intro first found
      rcases List.mem_cons.mp found with rfl | inLater
      · exact List.mem_cons_self ..
      · exact List.mem_cons_of_mem _ (ih inLater)

/-- A scope is walked at the depth of its path: deeper than the start once a step
leads into a WITH body or a subquery. -/
theorem ScopeTree.At.walked {query : StructuredQuery} : ∀ {step : ScopeStep} {path : ScopePath}
    {scope : StructuredQuery} (start : Nat), (scopeTree step query).At path scope →
    ∃ depth, (depth, scope) ∈ iterQueryScopes query start ∧ start ≤ depth ∧
      ((∃ inner ∈ path, inner.isNested = true) → start < depth) := by
  induction query using StructuredQuery.scopeInduction with
  | step query ih =>
      intro step path scope start at_
      rw [scopeTree_eq] at at_
      cases at_ with
      | here =>
          refine ⟨start, ?_, Nat.le_refl _, ?_⟩
          · rw [iterQueryScopes_eq]
            exact List.mem_cons_self ..
          · rintro ⟨_, inPath, _⟩
            cases inPath
      | @inside _ _ _ _ child rest member below =>
          obtain ⟨kid, inKids, rfl⟩ := List.mem_map.mp member
          have direct := mem_directScopes_of_childScopes inKids
          -- Where the child's walk starts, and that a nested step starts it deeper.
          have starts : ∃ childStart, start ≤ childStart ∧
              (kid.1.isNested = true → start < childStart) ∧
              ∀ entry ∈ iterQueryScopes kid.2 childStart, entry ∈ iterQueryScopes query start := by
            rw [iterQueryScopes_eq query]
            have split := inKids
            rw [childScopes, List.mem_append, List.mem_append] at split
            rcases split with (inCtes | inArms) | inPredicates
            · obtain ⟨index, _, isCte⟩ := cteChildren_steps (List.mem_map_of_mem inCtes)
              obtain ⟨_, spec, declared, rfl⟩ :=
                cte_of_mem_childScopes inKids (by rw [isCte]; rfl)
              have inSpecs := List.mem_of_getElem? declared
              have deeper : 1 ≤ cteDepth query spec :=
                one_le_chainDepths _ (casefold spec.name, cteSourceNames spec.query)
                  (List.mem_map_of_mem inSpecs)
              refine ⟨start + cteDepth query spec, by omega, fun _ => by omega,
                fun entry inBody => ?_⟩
              refine List.mem_cons_of_mem _ (List.mem_append_left _ (List.mem_append_left _ ?_))
              exact List.mem_flatMap.mpr ⟨spec, inSpecs, inBody⟩
            · obtain ⟨index, _, isArm⟩ := armChildren_steps (List.mem_map_of_mem inArms)
              have inArmList : kid.2 ∈ query.arms := mem_of_mem_armChildren inArms
              refine ⟨start, Nat.le_refl _, fun nested => ?_, fun entry inArm => ?_⟩
              · rw [isArm] at nested
                cases nested
              · refine List.mem_cons_of_mem _ (List.mem_append_left _ (List.mem_append_right _ ?_))
                exact List.mem_flatMap.mpr ⟨kid.2, inArmList, inArm⟩
            · have listed : kid.2 ∈
                  (indexedChildren 0 (iterWhereAndHavingPredicates query)).map Prod.snd :=
                List.mem_map_of_mem inPredicates
              rw [map_snd_indexedChildren, List.mem_flatMap] at listed
              obtain ⟨pred, inQuery, inPred⟩ := listed
              refine ⟨start + 1, Nat.le_succ _, fun _ => Nat.lt_succ_self _, fun entry inNested => ?_⟩
              refine List.mem_cons_of_mem _ (List.mem_append_right _ ?_)
              exact List.mem_flatMap.mpr ⟨pred, inQuery, List.mem_flatMap.mpr
                ⟨kid.2, inPred, inNested⟩⟩
          obtain ⟨childStart, le, deeper, inside⟩ := starts
          obtain ⟨depth, walked, childLe, childDeeper⟩ := ih kid.2 direct childStart below
          refine ⟨depth, inside _ walked, by omega, ?_⟩
          rintro ⟨inner, inPath, nested⟩
          rcases List.mem_cons.mp inPath with rfl | inRest
          · rw [scopeTree_step] at nested
            have := deeper nested
            omega
          · have := childDeeper ⟨inner, inRest, nested⟩
            omega

/-- A scope below the root is not the first one the walk yields. -/
theorem ScopeAt.walked_below {query scope : StructuredQuery} {step : ScopeStep} {rest : ScopePath}
    (at_ : ScopeAt query (step :: rest) scope) :
    ∃ depth, (depth, scope) ∈ (iterQueryScopes query 0).tail := by
  rw [ScopeAt, scopeTree_eq] at at_
  generalize reached : step :: rest = path at at_
  cases at_ with
  | here => cases reached
  | inside member below =>
      obtain ⟨kid, inKids, rfl⟩ := List.mem_map.mp member
      have inScopes := mem_scopesOf_of_at below
      have direct := mem_directScopes_of_childScopes inKids
      have listed : scope ∈ ((iterQueryScopes query 0).tail).map Prod.snd := by
        have whole := scopesOf_eq query
        rw [scopesOf, iterQueryScopes_eq, List.map_cons] at whole
        injection whole with _ whole
        rw [iterQueryScopes_eq, List.tail_cons, whole]
        exact List.mem_flatMap.mpr ⟨kid.2, direct, inScopes⟩
      obtain ⟨entry, inTail, rfl⟩ := List.mem_map.mp listed
      exact ⟨entry.1, inTail⟩

end Depth

section Rules

variable {context : RequestContext} {query : StructuredQuery} {policy effective : Policy}
  {connections : ScopeConnections} {path : ScopePath} {scope : StructuredQuery}
  {table column : String}

/-- Only the root of an accepted query declares WITH blocks. -/
theorem PolicyAccepted.no_inner_blocks
    (accepted : PolicyAccepted context query policy effective connections) {step : ScopeStep}
    {rest : ScopePath} (at_ : ScopeAt query (step :: rest) scope) : scope.ctes = [] := by
  obtain ⟨depth, inTail⟩ := at_.walked_below
  have structural := accepted.structural
  simp only [validateStructuralCaps, validateCteConstraints, seq_eq_ok_iff, deny_eq_ok_iff,
    List.any_eq_false] at structural
  have none_ := structural.1.2.1 _ inTail
  rw [Bool.not_eq_true, Bool.not_eq_false', List.isEmpty_iff] at none_
  exact none_

/-- A WITH body stands directly below the root. -/
theorem PolicyAccepted.body_at_root
    (accepted : PolicyAccepted context query policy effective connections) {index : Nat}
    (at_ : ScopeAt query (path ++ [.cte index]) scope) :
    path = [] ∧ ∃ spec, query.ctes[index]? = some spec ∧ scope = spec.query := by
  obtain ⟨parent, parentAt, member⟩ := at_.parent
  obtain ⟨found, spec, declared, same⟩ := cte_of_mem_childScopes member rfl
  cases path with
  | nil =>
      injection same with sameStep sameScope
      injection sameStep with sameIndex
      rw [parentAt.unique (.root query), ← sameIndex] at declared
      exact ⟨rfl, spec, declared, sameScope⟩
  | cons step rest =>
      rw [accepted.no_inner_blocks parentAt] at declared
      cases declared

theorem unmasked_of_checked {message : String → String} {ref : String}
    (passed : checkUnmasked policy scope message ref = .ok ())
    (parsed : parseColumnRef ref = .ok (table, column)) :
    policy.columnMask (physicalTable scope table) column = none := by
  rw [checkUnmasked, parsed, bind_eq_ok_iff] at passed
  obtain ⟨halves, returned, passed⟩ := passed
  cases returned
  rw [deny_eq_ok_iff, Option.isSome_eq_false_iff, Option.isNone_iff_eq_none] at passed
  exact passed

/-- The first item of a nested scope is unmasked, by the scope's own name map. -/
theorem PolicyAccepted.head_unmasked
    (accepted : PolicyAccepted context query policy effective connections)
    (at_ : ScopeAt query path scope) (nested : ∃ inner ∈ path, inner.isNested = true)
    {item : SelectItem} (first : scope.select.head? = some item) {ref : String}
    (inItem : ref ∈ selectItemColumnRefs item) (parsed : parseColumnRef ref = .ok (table, column)) :
    effective.columnMask (physicalTable scope table) column = none := by
  obtain ⟨depth, walked, _, deeper⟩ := ScopeTree.At.walked 0 at_
  have passed := accepted.subqueries _ walked
  simp only [checkSubqueryConstraints, seq_eq_ok_iff] at passed
  obtain ⟨_, _, _, output⟩ := passed
  rw [if_neg (Nat.pos_iff_ne_zero.mp (deeper nested)), checkAll_eq_ok_iff] at output
  refine unmasked_of_checked (output ref ?_) parsed
  rw [first]
  exact List.mem_flatMap.mpr ⟨item, List.mem_singleton.mpr rfl, inItem⟩

/-- The items of a WITH body are unmasked, by the body's own name map. -/
theorem PolicyAccepted.body_unmasked
    (accepted : PolicyAccepted context query policy effective connections) {index : Nat}
    {spec : CteSpec} (declared : query.ctes[index]? = some spec) {item : SelectItem}
    (inSelect : item ∈ spec.query.select) {ref : String} (inItem : ref ∈ selectItemColumnRefs item)
    (parsed : parseColumnRef ref = .ok (table, column)) :
    effective.columnMask (physicalTable spec.query table) column = none := by
  have inSpecs := List.mem_of_getElem? declared
  have structural := accepted.structural
  simp only [validateStructuralCaps, validateCteConstraints, seq_eq_ok_iff] at structural
  obtain ⟨⟨_, _, rules⟩, _⟩ := structural
  have nonempty : ¬ (declaredCteNames query).isEmpty = true := by
    rw [List.isEmpty_iff, declaredCteNames, List.map_eq_nil_iff]
    exact List.ne_nil_of_mem inSpecs
  rw [if_neg nonempty] at rules
  simp only [seq_eq_ok_iff, checkAll_eq_ok_iff] at rules
  exact unmasked_of_checked (rules.2.2.2 spec inSpecs ref
    (List.mem_flatMap.mpr ⟨item, inSelect, inItem⟩)) parsed

/-- A reference in any position but a bare projection is unmasked, by the scope's
own name map, unless it names a WITH block. -/
theorem PolicyAccepted.position_unmasked
    (accepted : PolicyAccepted context query policy effective connections)
    (member : scope ∈ scopesOf query) {ref : ColumnRef} (inRefs : ref ∈ iterColumnRefs scope)
    (notBare : ref.position ≠ .selectProjectionBare)
    (parsed : parseColumnRef ref.ref = .ok (table, column))
    (notBlock : casefold (physicalTable scope table) ∉ declaredCteNames query) :
    effective.columnMask (physicalTable scope table) column = none := by
  have passed := (accepted.scopeRules member).2.2 ref inRefs
  rw [checkMaskPosition, if_neg notBare, parsed, bind_eq_ok_iff] at passed
  obtain ⟨halves, returned, passed⟩ := passed
  cases returned
  simp only at passed
  rw [if_neg (fun isBlock => notBlock (List.contains_iff_mem.mp isBlock)), bind_eq_ok_iff] at passed
  obtain ⟨candidates, resolved, passed⟩ := passed
  rw [deny_eq_ok_iff, Option.isSome_eq_false_iff, Option.isNone_iff_eq_none, columnMaskAnywhere,
    List.findSome?_eq_none_iff] at passed
  exact passed effective (policy_mem_resolveTablePolicies resolved)

end Rules

section Shapes

variable {scope nested : StructuredQuery}

/-- The steps to the scopes directly inside a scope. -/
theorem childScopes_step {step : ScopeStep} (member : (step, nested) ∈ childScopes scope) :
    step ≠ .root := by
  rw [childScopes, List.mem_append, List.mem_append] at member
  rcases member with (inCtes | inArms) | inPredicates
  · obtain ⟨_, _, same⟩ := cteChildren_steps (List.mem_map_of_mem inCtes)
    intro isRoot
    cases isRoot
    cases same
  · obtain ⟨_, _, same⟩ := armChildren_steps (List.mem_map_of_mem inArms)
    intro isRoot
    cases isRoot
    cases same
  · obtain ⟨_, _, same⟩ := indexedChildren_steps (List.mem_map_of_mem inPredicates)
    intro isRoot
    cases isRoot
    rcases same with same | same
    · cases same
    · cases same

theorem mem_arms_of_mem_childScopes {index : Nat}
    (member : (ScopeStep.arm index, nested) ∈ childScopes scope) : nested ∈ scope.arms := by
  rw [childScopes, List.mem_append, List.mem_append] at member
  rcases member with (inCtes | inArms) | inPredicates
  · obtain ⟨_, _, same⟩ := cteChildren_steps (List.mem_map_of_mem inCtes)
    cases same
  · exact mem_of_mem_armChildren inArms
  · obtain ⟨_, _, same⟩ := indexedChildren_steps (List.mem_map_of_mem inPredicates)
    rcases same with same | same
    · cases same
    · cases same

/-- An arm projects as many columns as the query that carries it, and carries no
arms itself. -/
theorem arm_shape {index : Nat} (valid : scope.Valid)
    (member : (ScopeStep.arm index, nested) ∈ childScopes scope) :
    nested.select.length = scope.select.length ∧ nested.arms = [] := by
  have inArms := mem_arms_of_mem_childScopes member
  have self := valid.self
  simp only [StructuredQuery.validateSelf, seq_eq_ok_iff, StructuredQuery.validateSetOp] at self
  have setOps := self.2.2.2.1
  cases spec : scope.setOp with
  | none =>
      rw [StructuredQuery.arms, spec] at inArms
      cases inArms
  | some spec_ =>
      rw [spec] at setOps
      simp only [seq_eq_ok_iff, checkAll_eq_ok_iff] at setOps
      rw [StructuredQuery.arms, spec] at inArms
      have passed := setOps.2 nested inArms
      simp only [validateArm, seq_eq_ok_iff, refuse_eq_ok_iff, bne_eq_false_iff_eq] at passed
      have noSetOp : nested.setOp = none :=
        Option.isNone_iff_eq_none.mp (Option.isSome_eq_false_iff.mp passed.1)
      refine ⟨passed.2.2, ?_⟩
      rw [StructuredQuery.arms, noSetOp]

/-- A predicate with a value subquery asks for one column. -/
theorem Predicate.value_length {pred : Predicate} (accepted : pred.validate = .ok ())
    (carried : pred.valueSubquery = some nested) : nested.select.length = 1 := by
  obtain ⟨col, expr, colFn, op, value, valueCol, valueExpr, valueSubquery, existsSubquery⟩ := pred
  cases carried
  simp only [Predicate.validate, bind_eq_ok_iff] at accepted
  obtain ⟨_, _, _, _, _, _, _, _, _, _, _, _, shape⟩ := accepted
  simp only [Predicate.validateValueShape] at shape
  split at shape
  · simp [refuse] at shape
  · split at shape
    · simp [refuse] at shape
    · simp only [seq_eq_ok_iff, Predicate.validateValueSubquery, refuse_eq_ok_iff,
        bne_eq_false_iff_eq] at shape
      exact shape.2.2.2.2.1

/-- A value subquery projects one column. -/
theorem value_shape {index : Nat} (valid : scope.Valid)
    (member : (ScopeStep.value index, nested) ∈ childScopes scope) :
    nested.select.length = 1 := by
  have carried : ∃ pred ∈ iterWhereAndHavingPredicates scope, pred.valueSubquery = some nested := by
    have inPredicates : (ScopeStep.value index, nested) ∈
        indexedChildren 0 (iterWhereAndHavingPredicates scope) := by
      rw [childScopes, List.mem_append, List.mem_append] at member
      rcases member with (inCtes | inArms) | inPredicates
      · obtain ⟨_, _, same⟩ := cteChildren_steps (List.mem_map_of_mem inCtes)
        cases same
      · obtain ⟨_, _, same⟩ := armChildren_steps (List.mem_map_of_mem inArms)
        cases same
      · exact inPredicates
    generalize iterWhereAndHavingPredicates scope = preds at inPredicates
    generalize 0 = start at inPredicates
    induction preds generalizing start with
    | nil => cases inPredicates
    | cons pred rest ih =>
        rw [indexedChildren, List.mem_append] at inPredicates
        rcases inPredicates with here | later
        · rw [predicateChildren, List.mem_append] at here
          rcases here with isValue | isExists
          · obtain ⟨found, carried, same⟩ := List.mem_map.mp isValue
            cases same
            exact ⟨pred, List.mem_cons_self .., Option.mem_toList.mp carried⟩
          · obtain ⟨found, _, same⟩ := List.mem_map.mp isExists
            cases same
        · obtain ⟨found, inRest, carried⟩ := ih (start + 1) later
          exact ⟨found, List.mem_cons_of_mem _ inRest, carried⟩
  obtain ⟨pred, inPredicates, carried⟩ := carried
  have accepted : pred.validate = .ok () := by
    rcases List.mem_append.mp inPredicates with inWhere | inHaving
    · exact validate_of_mem_optionPredicates valid.whereTree inWhere
    · exact validate_of_mem_optionPredicates valid.havingTree inHaving
  exact Predicate.value_length accepted carried

end Shapes

/-- A reference reads a physical column the policy masks. -/
def ReadsMasked (policy : Policy) (query : StructuredQuery) (path : ScopePath)
    (scope : StructuredQuery) (ref : String) : Prop :=
  ∃ table column physical, parseColumnRef ref = .ok (table, column) ∧
    ReadsTable query path scope table physical ∧ (policy.columnMask physical column).isSome = true

/-- The scopes whose projection reaches the caller or is only tested for existence:
the query and its arms, and EXISTS subqueries with their arms. -/
def mayProjectMasked (path : ScopePath) : Bool :=
  match path.reverse with
  | [] | [.arm _] | .existence _ :: _ | .arm _ :: .existence _ :: _ => true
  | _ => false

/-- Masked values feed no other scope: a masked column occurs as a bare projection
only, of a scope whose rows no other scope reads. -/
structure MaskedStayProjected (policy : Policy) (query : StructuredQuery) : Prop where
  projected : ∀ path scope, ScopeAt query path scope → ∀ ref, .bare ref ∈ scope.select →
    ReadsMasked policy query path scope ref → mayProjectMasked path = true
  elsewhere : ∀ path scope, ScopeAt query path scope → ∀ ref ∈ iterColumnRefs scope,
    ref.position ≠ .selectProjectionBare → ¬ ReadsMasked policy query path scope ref.ref

/-- What the mask rules do not look at is unmasked: the columns after the first of
an arm of a WITH body, and the columns a subquery reads through an opened name
without declaring them, other than as the projection of an EXISTS subquery. -/
structure UncheckedUnmasked (policy : Policy) (query : StructuredQuery) : Prop where
  arms : ∀ index armIndex arm, ScopeAt query [.cte index, .arm armIndex] arm →
    ∀ ref, .bare ref ∈ arm.select.tail →
      ¬ ReadsMasked policy query [.cte index, .arm armIndex] arm ref
  opened : ∀ path scope step nested, ScopeAt query path scope →
    (step, nested) ∈ childScopes scope → ∀ ref ∈ iterColumnRefs nested, ∀ table column,
      parseColumnRef ref.ref = .ok (table, column) →
      opensOuter (path ++ [step]) nested table = true → ¬ VouchedFor path scope nested table column →
      ReadsMasked policy query (path ++ [step]) nested ref.ref →
      ref.position = .selectProjectionBare ∧ ∃ index, step = .existence index

section Contained

variable {context : RequestContext} {query : StructuredQuery} {policy effective : Policy}
  {connections : ScopeConnections} {path : ScopePath} {scope : StructuredQuery}

theorem mem_iterColumnRefs_of_bare {ref : String} (inSelect : .bare ref ∈ scope.select) :
    ⟨.selectProjectionBare, ref⟩ ∈ iterColumnRefs scope := by
  simp only [iterColumnRefs, List.mem_append, List.mem_flatMap]
  exact .inl (.inl (.inl (.inl (.inl (.inl ⟨_, inSelect, List.mem_singleton.mpr rfl⟩)))))

/-- A masked reference through a name the scope does not open is masked by the
scope's own name map. -/
theorem ReadsMasked.own {ref : String} (masked : ReadsMasked policy query path scope ref)
    (closed : ∀ name, opensOuter path scope name = false) :
    ∃ table column, parseColumnRef ref = .ok (table, column) ∧
      casefold (physicalTable scope table) ∉ declaredCteNames query ∧
      (policy.columnMask (physicalTable scope table) column).isSome = true := by
  obtain ⟨table, column, physical, parsed, reads, isMasked⟩ := masked
  have same := reads.stands.physicalTable_eq (closed table)
  refine ⟨table, column, parsed, ?_, ?_⟩
  · rw [same]
    exact reads.notBlock
  · rw [same]
    exact isMasked

/-- Only subqueries open names. -/
theorem opensOuter_of_not_subquery {step : ScopeStep} (notSubquery : step.isSubquery = false)
    (name : String) : opensOuter (path ++ [step]) scope name = false := by
  rw [opensOuter, receivesOuter_append, notSubquery, Bool.false_and, Bool.false_and]

/-- The first projected column of a nested scope that opens no names is unmasked. -/
theorem PolicyAccepted.first_unmasked
    (accepted : PolicyAccepted context query policy effective connections)
    (at_ : ScopeAt query path scope) (nested : ∃ inner ∈ path, inner.isNested = true)
    (closed : ∀ name, opensOuter path scope name = false) {ref : String}
    (first : scope.select.head? = some (.bare ref)) :
    ¬ ReadsMasked effective query path scope ref := by
  intro masked
  obtain ⟨table, column, parsed, _, isMasked⟩ := masked.own closed
  have unmasked := accepted.head_unmasked at_ nested first (List.mem_singleton.mpr rfl) parsed
  rw [unmasked] at isMasked
  cases isMasked

theorem head?_of_single {item : SelectItem} {items : List SelectItem} (single : items.length = 1)
    (member : item ∈ items) : items.head? = some item := by
  obtain ⟨only, rfl⟩ := List.length_eq_one_iff.mp single
  rw [List.mem_singleton.mp member]
  rfl

/-- A scope directly inside a subquery's arm list: its carrier is not an arm, so the
step above an arm is a WITH body, a subquery or nothing. -/
theorem armPath_cases (valid : ∀ scope ∈ scopesOf query, scope.Valid) {index : Nat}
    (at_ : ScopeAt query (path ++ [.arm index]) scope) :
    path = [] ∨ ∃ above step, path = above ++ [step] ∧ (step.isSubquery = true ∨ step.isCte = true) := by
  rcases List.eq_nil_or_concat' path with rfl | ⟨above, step, rfl⟩
  · exact .inl rfl
  · refine .inr ⟨above, step, rfl, ?_⟩
    obtain ⟨carrier, carrierAt, member⟩ := at_.parent
    obtain ⟨parent, parentAt, inParent⟩ := carrierAt.parent
    cases step with
    | root => exact absurd rfl (childScopes_step inParent)
    | cte _ => exact .inr rfl
    | value _ => exact .inl rfl
    | existence _ => exact .inl rfl
    | arm _ =>
        have noArms := (arm_shape (valid parent parentAt.mem_scopesOf) inParent).2
        have inArms := mem_arms_of_mem_childScopes member
        rw [noArms] at inArms
        cases inArms

/-- A masked column a subquery reads is read through an opened name it did not vouch
for, or through its own sources. -/
theorem PolicyAccepted.masked_unvouched
    (accepted : PolicyAccepted context query policy effective connections) {step : ScopeStep}
    {nested : StructuredQuery} (at_ : ScopeAt query path scope)
    {table column physical : String} (reads : ReadsTable query (path ++ [step]) nested table physical)
    (isMasked : (effective.columnMask physical column).isSome = true)
    (opened : opensOuter (path ++ [step]) nested table = true) :
    ¬ VouchedFor path scope nested table column := by
  intro vouched
  have stands := reads.stands
  generalize reached : path ++ [step] = full at stands opened
  cases stands with
  | own _ closed _ =>
      rw [opened] at closed
      cases closed
  | outer member isOpened _ above =>
      obtain ⟨samePath, sameStep⟩ := List.append_inj' reached rfl
      cases samePath
      cases sameStep
      have sameScope := at_.unique above.scopeAt
      rw [← sameScope] at above member
      have unmasked :=
        (accepted.vouched_allowed member (isSubquery_of_opensOuter isOpened) above vouched).2
      rw [unmasked] at isMasked
      cases isMasked

/-- Under the mask rules a masked projection stands in a scope that may show it. -/
theorem PolicyAccepted.masked_projection
    (accepted : PolicyAccepted context query policy effective connections)
    (valid : ∀ scope ∈ scopesOf query, scope.Valid) (unchecked : UncheckedUnmasked effective query)
    (at_ : ScopeAt query path scope) {ref : String} (inSelect : .bare ref ∈ scope.select)
    (masked : ReadsMasked effective query path scope ref) : mayProjectMasked path = true := by
  rcases List.eq_nil_or_concat' path with rfl | ⟨above, step, rfl⟩
  · rfl
  obtain ⟨parent, parentAt, member⟩ := at_.parent
  cases step with
  | root => exact absurd rfl (childScopes_step member)
  | existence index => simp [mayProjectMasked]
  | cte index =>
      obtain ⟨rfl, spec, declared, rfl⟩ := accepted.body_at_root at_
      obtain ⟨table, column, parsed, _, isMasked⟩ := masked.own fun name => rfl
      have unmasked :=
        accepted.body_unmasked declared inSelect (List.mem_singleton.mpr rfl) parsed
      rw [unmasked] at isMasked
      cases isMasked
  | value index =>
      have first := head?_of_single (value_shape (valid parent parentAt.mem_scopesOf) member) inSelect
      obtain ⟨table, column, physical, parsed, reads, isMasked⟩ := masked
      cases opens : opensOuter (above ++ [.value index]) scope table with
      | true =>
          have notVouched := accepted.masked_unvouched parentAt reads isMasked opens
          obtain ⟨_, _, absurd_⟩ := unchecked.opened above parent _ scope parentAt member _
            (mem_iterColumnRefs_of_bare inSelect) table column parsed opens notVouched
            ⟨table, column, physical, parsed, reads, isMasked⟩
          cases absurd_
      | false =>
          have same := reads.stands.physicalTable_eq opens
          have unmasked := accepted.head_unmasked at_
            ⟨_, List.mem_append_right _ (List.mem_singleton.mpr rfl), rfl⟩ first
            (List.mem_singleton.mpr rfl) parsed
          rw [same] at unmasked
          rw [unmasked] at isMasked
          cases isMasked
  | arm index =>
      have closed : ∀ name, opensOuter (above ++ [.arm index]) scope name = false :=
        opensOuter_of_not_subquery rfl
      have carrierValid := valid parent parentAt.mem_scopesOf
      rcases armPath_cases valid at_ with rfl | ⟨higher, step, rfl, kind⟩
      · rfl
      have first : scope.select.head? = some (.bare ref) →
          mayProjectMasked (higher ++ [step] ++ [.arm index]) = true := by
        intro isHead
        have nested : ∃ inner ∈ higher ++ [step] ++ [.arm index], inner.isNested = true := by
          refine ⟨step, List.mem_append_left _ (List.mem_append_right _
            (List.mem_singleton.mpr rfl)), ?_⟩
          cases step with
          | root => simp [ScopeStep.isSubquery, ScopeStep.isCte] at kind
          | arm _ => simp [ScopeStep.isSubquery, ScopeStep.isCte] at kind
          | cte _ => rfl
          | value _ => rfl
          | existence _ => rfl
        exact absurd masked (accepted.first_unmasked at_ nested closed isHead)
      cases step with
      | root => simp [ScopeStep.isSubquery, ScopeStep.isCte] at kind
      | arm _ => simp [ScopeStep.isSubquery, ScopeStep.isCte] at kind
      | existence _ => simp [mayProjectMasked]
      | value valueIndex =>
          obtain ⟨grandparent, grandparentAt, inGrandparent⟩ := parentAt.parent
          have one := value_shape (valid grandparent grandparentAt.mem_scopesOf) inGrandparent
          have length := (arm_shape carrierValid member).1
          exact first (head?_of_single (length.trans one) inSelect)
      | cte cteIndex =>
          obtain ⟨rfl, spec, declared, rfl⟩ := accepted.body_at_root parentAt
          cases items : scope.select with
          | nil =>
              rw [items] at inSelect
              cases inSelect
          | cons head tail =>
              rw [items] at inSelect first
              rcases List.mem_cons.mp inSelect with rfl | inTail
              · exact first rfl
              · refine absurd masked (unchecked.arms cteIndex index scope at_ ref ?_)
                rw [items]
                exact inTail

/-- Under the mask rules a masked column stands in no position but a bare
projection. -/
theorem PolicyAccepted.masked_elsewhere
    (accepted : PolicyAccepted context query policy effective connections)
    (unchecked : UncheckedUnmasked effective query) (at_ : ScopeAt query path scope)
    {ref : ColumnRef} (inRefs : ref ∈ iterColumnRefs scope)
    (notBare : ref.position ≠ .selectProjectionBare) :
    ¬ ReadsMasked effective query path scope ref.ref := by
  rintro ⟨table, column, physical, parsed, reads, isMasked⟩
  have stands := reads.stands
  cases stands with
  | own _ closed _ =>
      have same := reads.stands.physicalTable_eq closed
      have unmasked := accepted.position_unmasked at_.mem_scopesOf inRefs notBare parsed
        (same ▸ reads.notBlock)
      rw [same] at unmasked
      rw [unmasked] at isMasked
      cases isMasked
  | outer member opened _ above =>
      have notVouched := accepted.masked_unvouched above.scopeAt reads isMasked opened
      exact notBare (unchecked.opened _ _ _ scope above.scopeAt member ref inRefs table column parsed
        opened notVouched ⟨table, column, physical, parsed, reads, isMasked⟩).1

theorem bare_of_position {ref : ColumnRef} (inRefs : ref ∈ iterColumnRefs scope)
    (isBare : ref.position = .selectProjectionBare) : .bare ref.ref ∈ scope.select := by
  have other : ∀ {position : RefPosition} {refs : List String},
      position ≠ .selectProjectionBare → ref ∉ refs.map (ColumnRef.mk position) := by
    intro position refs notBare member
    obtain ⟨found, _, rfl⟩ := List.mem_map.mp member
    exact notBare isBare
  simp only [iterColumnRefs, List.mem_append, List.mem_flatMap] at inRefs
  rcases inRefs with (((((⟨item, inSelect, inItem⟩ | ⟨join, _, inJoin⟩) | inWhere) | inGroup) |
    inHaving) | inOrder) | ⟨spec, _, inTopN⟩
  · cases item with
    | bare name =>
        rw [List.mem_singleton.mp inItem]
        exact inSelect
    | _ => exact absurd inItem (other (by decide))
  · rw [joinColumnRefs, List.mem_append, List.mem_append] at inJoin
    rcases inJoin with (inOn | inExtra) | inCondition
    · exact absurd inOn (other (by decide))
    · exact absurd inExtra (other (by decide))
    · exact absurd inCondition (other (by decide))
  · exact absurd inWhere (other (by decide))
  · exact absurd inGroup (other (by decide))
  · exact absurd inHaving (other (by decide))
  · exact absurd inOrder (other (by decide))
  · rw [topNColumnRefs, List.mem_append] at inTopN
    rcases inTopN with inPartition | inRank
    · exact absurd inPartition (other (by decide))
    · exact absurd inRank (other (by decide))

/-- Masked values of an accepted query feed no other scope, exactly when the columns
the mask rules do not look at are unmasked. -/
theorem maskedStayProjected_iff {scopeConnections : Option ScopeConnections}
    {snapshot : Option ConnectionResolver} (valid : query.validate = .ok ())
    (accepted : validatePolicy context query policy scopeConnections snapshot = .ok effective) :
    MaskedStayProjected effective query ↔ UncheckedUnmasked effective query := by
  obtain ⟨connections, _, facts⟩ := validatePolicy_accepted accepted
  have scopesValid : ∀ scope ∈ scopesOf query, scope.Valid := fun scope member =>
    StructuredQuery.valid_of_validate (validate_of_mem_scopesOf valid member)
  constructor
  · intro stays
    refine ⟨fun index armIndex arm at_ ref inTail masked => ?_, ?_⟩
    · have absurd_ := stays.projected _ arm at_ ref (List.mem_of_mem_tail inTail) masked
      cases absurd_
    · intro path scope step nested at_ member ref inRefs table column parsed opened _ masked
      have childAt := at_.child member
      have isBare : ref.position = .selectProjectionBare := by
        by_contra notBare
        exact stays.elsewhere _ nested childAt ref inRefs notBare masked
      refine ⟨isBare, ?_⟩
      have shown := stays.projected _ nested childAt ref.ref (bare_of_position inRefs isBare) masked
      cases step with
      | existence index => exact ⟨index, rfl⟩
      | value index => simp [mayProjectMasked] at shown
      | _ =>
          have subquery := isSubquery_of_opensOuter opened
          cases subquery
  · intro unchecked
    exact ⟨fun path scope at_ ref inSelect masked =>
        facts.masked_projection scopesValid unchecked at_ inSelect masked,
      fun path scope at_ ref inRefs notBare =>
        facts.masked_elsewhere unchecked at_ inRefs notBare⟩

end Contained

/-- A policy that masks customers' social security numbers. -/
def maskedSsn : Policy where
  columnMasks := [("Customers", [{ column := "ssn", kind := .hash }])]

/-- `WITH people AS (SELECT Customers.id, Customers.name FROM Customers UNION SELECT
Customers.id, Customers.ssn FROM Customers) SELECT people.name FROM people`. -/
def peopleOfTwoArms : StructuredQuery where
  fromTable := "people"
  select := [.bare "people.name"]
  ctes := [{
    name := "people"
    query := {
      fromTable := "Customers"
      select := [.bare "Customers.id", .bare "Customers.name"]
      setOp := some {
        op := .union
        arms := [{
          fromTable := "Customers"
          select := [.bare "Customers.id", .bare "Customers.ssn"] }] } } }]

/-- The second column of an arm of a WITH body is a masked one, and the query is
accepted. -/
theorem maskedStayProjected_fails_on_cte_arm :
    peopleOfTwoArms.validate = .ok () ∧
      accepts (validatePolicy soleConnection peopleOfTwoArms maskedSsn none none) = true ∧
      ¬ MaskedStayProjected maskedSsn peopleOfTwoArms := by
  refine ⟨by decide +kernel, by decide +kernel, fun stays => ?_⟩
  have bodyAt : ScopeAt peopleOfTwoArms ([] ++ [.cte 0]) _ :=
    (ScopeAt.root peopleOfTwoArms).child (List.mem_singleton.mpr rfl)
  have armAt := bodyAt.child (List.mem_singleton.mpr rfl)
  have reads : ReadsTable peopleOfTwoArms [.cte 0, .arm 0] _ "Customers" "Customers" :=
    ⟨.own armAt rfl (by decide +kernel), by decide +kernel, by decide +kernel⟩
  have second : SelectItem.bare "Customers.ssn" ∈
      [SelectItem.bare "Customers.id", .bare "Customers.ssn"] :=
    List.mem_cons_of_mem _ (List.mem_singleton.mpr rfl)
  have shown := stays.projected _ _ armAt "Customers.ssn" second
    ⟨"Customers", "ssn", "Customers", rfl, reads, by decide +kernel⟩
  cases shown

/-- A subquery that declares the outer columns it reads keeps masked values apart. -/
theorem maskedStayProjected_customersWithOrders :
    MaskedStayProjected maskedSsn (customersWithOrders "id") := by
  have passes : validatePolicy soleConnection (customersWithOrders "id") maskedSsn none none =
      .ok maskedSsn := rfl
  refine (maskedStayProjected_iff (by decide +kernel) passes).mpr ⟨?_, ?_⟩
  · intro index armIndex arm at_
    obtain ⟨spec, absurd_, _⟩ := at_.in_body
    cases absurd_
  · intro path scope step nested at_ member ref inRefs table column parsed opened notVouched _
    have declares : DeclaresOpened (customersWithOrders "id") := by decide +kernel
    exact absurd (declares.vouched at_ member inRefs parsed opened) notVouched

end QueryGate
