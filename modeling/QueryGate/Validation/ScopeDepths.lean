import QueryGate.Foundation.LongestChain
import QueryGate.Validation.Correlation

/-! # Scope depths

The depth `iter_query_scopes` gives a scope is the position of its WITH block in the
chain of blocks that read one another, plus the subqueries around the scope inside
that block. Declaration order is what makes the first of the two a longest chain.
-/

namespace QueryGate

open Foundation

mutual

/-- The scopes of a tree, each with its path, in the order of the walk. -/
def ScopeTree.entries : ScopeTree → List (ScopePath × StructuredQuery)
  | .node _ scope children => ([], scope) :: childEntries children

/-- The scopes of a list of trees. -/
def childEntries : List ScopeTree → List (ScopePath × StructuredQuery)
  | [] => []
  | child :: rest => stepEntries child ++ childEntries rest
termination_by structural children => children

/-- The scopes of a tree one step below. -/
def stepEntries : ScopeTree → List (ScopePath × StructuredQuery)
  | .node step scope children =>
      ([step], scope) :: (childEntries children).map fun entry => (step :: entry.1, entry.2)
termination_by structural tree => tree

end

theorem stepEntries_eq (tree : ScopeTree) :
    stepEntries tree = tree.entries.map fun entry => (tree.step :: entry.1, entry.2) := by
  obtain ⟨step, scope, children⟩ := tree
  rfl

theorem childEntries_eq (children : List ScopeTree) :
    childEntries children = children.flatMap fun child =>
      child.entries.map fun entry => (child.step :: entry.1, entry.2) := by
  induction children with
  | nil => rfl
  | cons child rest ih => rw [childEntries, stepEntries_eq, ih, List.flatMap_cons]

/-- The scopes of a query with their paths, in the order of the walk. -/
def scopeEntries (query : StructuredQuery) : List (ScopePath × StructuredQuery) :=
  (scopeTree .root query).entries

theorem entries_scopeTree (step : ScopeStep) (query : StructuredQuery) :
    (scopeTree step query).entries = ([], query) :: (childScopes query).flatMap fun kid =>
      (scopeTree kid.1 kid.2).entries.map fun entry => (kid.1 :: entry.1, entry.2) := by
  rw [scopeTree_eq, ScopeTree.entries, childEntries_eq, childTrees, List.flatMap_map]
  simp only [scopeTree_step]

theorem mem_entries_iff {query : StructuredQuery} : ∀ {step : ScopeStep} {path : ScopePath}
    {scope : StructuredQuery},
    (path, scope) ∈ (scopeTree step query).entries ↔ (scopeTree step query).At path scope := by
  induction query using StructuredQuery.scopeInduction with
  | step query ih =>
      intro step path scope
      rw [entries_scopeTree, List.mem_cons, List.mem_flatMap]
      constructor
      · rintro (here | ⟨kid, inKids, inEntries⟩)
        · cases here
          rw [scopeTree_eq]
          exact .here
        · obtain ⟨⟨rest, found⟩, member, same⟩ := List.mem_map.mp inEntries
          cases same
          have below := (ih kid.2 (mem_directScopes_of_childScopes inKids)).mp member
          rw [scopeTree_eq, ← scopeTree_step kid.1 kid.2]
          exact .inside (List.mem_map_of_mem inKids) below
      · intro at_
        rw [scopeTree_eq] at at_
        cases at_ with
        | here => exact .inl rfl
        | inside member below =>
            obtain ⟨kid, inKids, rfl⟩ := List.mem_map.mp member
            refine .inr ⟨kid, inKids, List.mem_map.mpr ⟨_, (ih kid.2
              (mem_directScopes_of_childScopes inKids)).mpr below, ?_⟩⟩
            rw [scopeTree_step]

/-- The entries of a query are the scopes that stand in its tree. -/
theorem mem_scopeEntries {query scope : StructuredQuery} {path : ScopePath} :
    (path, scope) ∈ scopeEntries query ↔ ScopeAt query path scope :=
  mem_entries_iff

/-- Every scope of a query stands somewhere in its tree. -/
theorem exists_scopeAt_of_mem {query scope : StructuredQuery} :
    scope ∈ scopesOf query → ∃ path, ScopeAt query path scope := by
  suffices inTree : ∀ step, scope ∈ scopesOf query → ∃ path, (scopeTree step query).At path scope from
    inTree .root
  induction query using StructuredQuery.scopeInduction with
  | step query ih =>
      intro step member
      rw [scopeTree_eq]
      rw [scopesOf_eq] at member
      rcases List.mem_cons.mp member with rfl | below
      · exact ⟨[], .here⟩
      · obtain ⟨nested, direct, deeper⟩ := List.mem_flatMap.mp below
        rw [← map_snd_childScopes] at direct
        obtain ⟨kid, inKids, rfl⟩ := List.mem_map.mp direct
        obtain ⟨path, at_⟩ := ih kid.2 (mem_directScopes_of_childScopes inKids) kid.1 deeper
        exact ⟨_, .inside (List.mem_map_of_mem inKids) at_⟩

section Walk

/-- What one step adds to the depth of the walk. -/
def stepCharge (query : StructuredQuery) : ScopeStep → Nat
  | .cte index => ((query.ctes[index]?).map (cteDepth query)).getD 0
  | .value _ | .existence _ => 1
  | .root | .arm _ => 0

theorem flatMap_cteChildren {α : Type} (action : ScopeStep × StructuredQuery → List α)
    (specs : List CteSpec) (first : Nat) :
    (cteChildren first specs).flatMap action =
      (specs.zipIdx first).flatMap fun entry => action (.cte entry.2, entry.1.query) := by
  induction specs generalizing first with
  | nil => rfl
  | cons spec rest ih =>
      rw [cteChildren, List.flatMap_cons, ih, List.zipIdx_cons, List.flatMap_cons]

/-- The walk of a query goes through the scopes directly inside it, step by step. -/
theorem iterQueryScopes_steps (query : StructuredQuery) (depth : Nat) :
    iterQueryScopes query depth = (depth, query) :: (childScopes query).flatMap fun kid =>
      iterQueryScopes kid.2 (depth + stepCharge query kid.1) := by
  have bodies : (cteChildren 0 query.ctes).flatMap (fun kid =>
        iterQueryScopes kid.2 (depth + stepCharge query kid.1)) =
      query.ctes.flatMap fun spec => iterQueryScopes spec.query (depth + cteDepth query spec) := by
    rw [flatMap_cteChildren]
    conv_rhs => rw [← List.zipIdx_map_fst 0 query.ctes, List.flatMap_map]
    refine List.flatMap_congr fun entry member => ?_
    have found := List.mem_zipIdx_iff_getElem?.mp member
    rw [stepCharge, found]
    rfl
  have arms : (armChildren 0 query.arms).flatMap (fun kid =>
        iterQueryScopes kid.2 (depth + stepCharge query kid.1)) =
      query.arms.flatMap fun arm => iterQueryScopes arm depth := by
    have listed (first : Nat) : ∀ queries : List StructuredQuery,
        (armChildren first queries).map Prod.snd = queries := by
      intro queries
      induction queries generalizing first with
      | nil => rfl
      | cons arm rest ih => exact congrArg _ (ih (first + 1))
    conv_rhs => rw [← listed 0 query.arms, List.flatMap_map]
    refine List.flatMap_congr fun kid member => ?_
    obtain ⟨index, _, isArm⟩ := armChildren_steps (List.mem_map_of_mem member)
    rw [isArm]
    rfl
  have nested : (indexedChildren 0 (iterWhereAndHavingPredicates query)).flatMap (fun kid =>
        iterQueryScopes kid.2 (depth + stepCharge query kid.1)) =
      (iterWhereAndHavingPredicates query).flatMap fun pred =>
        pred.subqueries.flatMap fun inner => iterQueryScopes inner (depth + 1) := by
    rw [← List.flatMap_assoc]
    rw [← map_snd_indexedChildren 0, List.flatMap_map]
    refine List.flatMap_congr fun kid member => ?_
    obtain ⟨index, _, isSubquery⟩ := indexedChildren_steps (List.mem_map_of_mem member)
    rcases isSubquery with isValue | isExistence
    · rw [isValue]
      rfl
    · rw [isExistence]
      rfl
  rw [iterQueryScopes_eq, childScopes, List.flatMap_append, List.flatMap_append, bodies, arms, nested]

/-- The subqueries around a scope. -/
def nestings (path : ScopePath) : Nat :=
  path.countP ScopeStep.isSubquery

/-- The block a path starts in is charged its position in the reference chain. -/
def pathDepth (query : StructuredQuery) : ScopePath → Nat
  | [] => 0
  | step :: rest => stepCharge query step + nestings rest

theorem stepCharge_of_noCtes {query : StructuredQuery} (noCtes : query.ctes = []) (step : ScopeStep) :
    stepCharge query step = nestings [step] := by
  cases step with
  | cte index =>
      rw [stepCharge, noCtes]
      rfl
  | root => rfl
  | arm index => rfl
  | value index => rfl
  | existence index => rfl

theorem nestings_cons (step : ScopeStep) (rest : ScopePath) :
    nestings (step :: rest) = nestings [step] + nestings rest := by
  unfold nestings
  rw [← List.countP_append, List.singleton_append]

/-- Without blocks, the walk charges one level a subquery. -/
theorem walk_noCtes {query : StructuredQuery} :
    (∀ scope ∈ scopesOf query, scope.ctes = []) → ∀ (step : ScopeStep) (depth : Nat),
      iterQueryScopes query depth = (scopeTree step query).entries.map fun entry =>
        (depth + nestings entry.1, entry.2) := by
  induction query using StructuredQuery.scopeInduction with
  | step query ih =>
      intro noCtes step depth
      rw [iterQueryScopes_steps, entries_scopeTree, List.map_cons, List.map_flatMap]
      congr 1
      refine List.flatMap_congr fun kid member => ?_
      have direct := mem_directScopes_of_childScopes member
      rw [ih kid.2 direct (fun scope inner => noCtes scope (mem_scopesOf_of_directScopes direct inner))
        kid.1, stepCharge_of_noCtes (noCtes query (self_mem_scopesOf query)), List.map_map]
      refine List.map_congr_left fun entry _ => ?_
      change (depth + nestings [kid.1] + nestings entry.1, entry.2) =
        (depth + nestings (kid.1 :: entry.1), entry.2)
      rw [nestings_cons kid.1 entry.1, Nat.add_assoc]

/-- Where only the root declares blocks, the walk charges a scope its path. -/
theorem walk_eq_map {query : StructuredQuery}
    (topLevel : ∀ nested ∈ directScopes query, ∀ scope ∈ scopesOf nested, scope.ctes = []) :
    iterQueryScopes query 0 = (scopeEntries query).map fun entry =>
      (pathDepth query entry.1, entry.2) := by
  rw [iterQueryScopes_steps, scopeEntries, entries_scopeTree, List.map_cons, List.map_flatMap]
  congr 1
  refine List.flatMap_congr fun kid member => ?_
  rw [walk_noCtes (topLevel kid.2 (mem_directScopes_of_childScopes member)) kid.1, List.map_map]
  refine List.map_congr_left fun entry _ => ?_
  rw [Nat.zero_add]
  rfl

end Walk

section Chains

theorem chainDepths_append (blocks : List (String × List String)) (block : String × List String) :
    chainDepths (blocks ++ [block]) = dictSet (chainDepths blocks) block.1
      (1 + (block.2.filterMap (dictGet (chainDepths blocks))).foldl max 0) := by
  unfold chainDepths
  rw [List.foldl_append]
  rfl

theorem mem_dictKeys_chainDepths {blocks : List (String × List String)} {name : String} :
    name ∈ dictKeys (chainDepths blocks) ↔ name ∈ blocks.map Prod.fst := by
  induction blocks using List.reverseRecOn with
  | nil => rfl
  | append_singleton blocks block ih =>
      rw [chainDepths_append, mem_dictKeys_dictSet, ih, List.map_append, List.mem_append,
        List.map_singleton, List.mem_singleton, or_comm]

/-- A block's depth does not change with the blocks declared after it. -/
theorem dictGet_chainDepths_take {blocks : List (String × List String)}
    (distinct : (blocks.map Prod.fst).Nodup) {count : Nat} {name : String}
    (declared : name ∈ (blocks.take count).map Prod.fst) :
    dictGet (chainDepths (blocks.take count)) name = dictGet (chainDepths blocks) name := by
  induction blocks using List.reverseRecOn with
  | nil => rw [List.take_nil]
  | append_singleton blocks block ih =>
      rw [List.map_append, List.nodup_append] at distinct
      obtain ⟨distinctEarlier, _, apart⟩ := distinct
      by_cases short : count ≤ blocks.length
      · rw [List.take_append_of_le_length short] at declared ⊢
        have earlier : name ∈ blocks.map Prod.fst :=
          List.map_subset _ (List.take_subset count blocks) declared
        have other : block.1 ≠ name := fun same =>
          apart name earlier block.1 (List.mem_singleton.mpr rfl) same.symm
        rw [ih distinctEarlier declared, chainDepths_append, dictGet_dictSet, if_neg other]
      · rw [List.take_of_length_le]
        rw [List.length_append, List.length_singleton]
        omega

/-- A block is one level above the deepest of the blocks before it that it reads. -/
theorem dictGet_chainDepths {blocks : List (String × List String)}
    (distinct : (blocks.map Prod.fst).Nodup) {index : Nat} {block : String × List String}
    (found : blocks[index]? = some block) :
    dictGet (chainDepths blocks) block.1 = some (1 +
      (block.2.filterMap (dictGet (chainDepths (blocks.take index)))).foldl max 0) := by
  have inRange := (List.getElem?_eq_some_iff.mp found).1
  have upTo : blocks.take (index + 1) = blocks.take index ++ [block] := by
    rw [List.take_add_one, found]
    rfl
  have declared : block.1 ∈ (blocks.take (index + 1)).map Prod.fst := by
    rw [upTo]
    exact List.mem_map_of_mem (List.mem_append_right _ (List.mem_singleton.mpr rfl))
  rw [← dictGet_chainDepths_take distinct declared, upTo, chainDepths_append, dictGet_dictSet,
    if_pos rfl]

theorem le_foldl_max {items : List Nat} {item : Nat} (member : item ∈ items) (start : Nat) :
    item ≤ items.foldl max start := by
  rw [List.foldl_max_eq_max (List.ne_nil_of_mem member)]
  exact Nat.le_trans (List.le_max_of_mem member) (Nat.le_max_right _ _)

theorem foldl_max_zero_or_mem (items : List Nat) :
    items.foldl max 0 = 0 ∨ items.foldl max 0 ∈ items := by
  by_cases empty : items = []
  · rw [empty]
    exact .inl rfl
  · rw [List.foldl_max_eq_max empty, Nat.zero_max]
    exact .inr (List.max_mem empty)

end Chains

/-- A table a scope names as a source. -/
def scopeSources (scope : StructuredQuery) : List String :=
  scope.fromTable :: scope.joins.map JoinSpec.table

/-- Some scope in the body of one block names the other block as a source. -/
def ReadsBlock (query : StructuredQuery) (reader read : Nat) : Prop :=
  ∃ spec other, query.ctes[reader]? = some spec ∧ query.ctes[read]? = some other ∧
    ∃ path scope, ScopeAt spec.query path scope ∧
      ∃ table ∈ scopeSources scope, casefold table = casefold other.name

/-- The blocks of a query with the sources named in their bodies. -/
def sourceBlocks (query : StructuredQuery) : List (String × List String) :=
  query.ctes.map fun spec => (casefold spec.name, cteSourceNames spec.query)

theorem mem_cteSourceNames {body : StructuredQuery} {source : String} :
    source ∈ cteSourceNames body ↔ ∃ path scope, ScopeAt body path scope ∧
      ∃ table ∈ scopeSources scope, casefold table = source := by
  have folded (scope : StructuredQuery) :
      (casefold scope.fromTable :: scope.joins.map fun join => casefold join.table) =
        (scopeSources scope).map casefold := by
    rw [scopeSources, List.map_cons, List.map_map]
    rfl
  rw [cteSourceNames, scopeSourceNames, List.mem_flatMap]
  constructor
  · rintro ⟨entry, walked, named⟩
    rw [folded] at named
    obtain ⟨path, at_⟩ := exists_scopeAt_of_mem (List.mem_map_of_mem (f := Prod.snd) walked)
    exact ⟨path, entry.2, at_, List.mem_map.mp named⟩
  · rintro ⟨path, scope, at_, named⟩
    obtain ⟨entry, walked, rfl⟩ := List.mem_map.mp at_.mem_scopesOf
    refine ⟨entry, walked, ?_⟩
    rw [folded]
    exact List.mem_map.mpr named

section Accepted

variable {query : StructuredQuery} {policy : Policy}

theorem validateCteNames_distinct {specs : List CteSpec} : ∀ {seen : List String},
    validateCteNames seen specs = .ok () →
      (specs.map fun spec => casefold spec.name).Nodup ∧
        ∀ spec ∈ specs, casefold spec.name ∉ seen := by
  induction specs with
  | nil => exact fun _ => ⟨List.nodup_nil, fun _ member => absurd member List.not_mem_nil⟩
  | cons spec rest ih =>
      intro seen passed
      rw [validateCteNames, seq_eq_ok_iff, refuse_eq_ok_iff, ← Bool.not_eq_true,
        List.contains_iff_mem] at passed
      obtain ⟨fresh, passed⟩ := passed
      obtain ⟨distinct, unseen⟩ := ih passed
      refine ⟨List.nodup_cons.mpr ⟨fun member => ?_, distinct⟩, fun other member => ?_⟩
      · obtain ⟨later, inRest, same⟩ := List.mem_map.mp member
        exact unseen later inRest (same ▸ List.mem_cons_self ..)
      · rcases List.mem_cons.mp member with rfl | inRest
        · exact fresh
        · exact fun known => unseen other inRest (List.mem_cons_of_mem _ known)

/-- A well-formed query declares each block name once. -/
theorem distinct_blockNames (wellFormed : query.validate = .ok ()) :
    ((sourceBlocks query).map Prod.fst).Nodup := by
  have self := (StructuredQuery.valid_of_validate wellFormed).self
  simp only [StructuredQuery.validateSelf, seq_eq_ok_iff] at self
  rw [sourceBlocks, List.map_map]
  exact (validateCteNames_distinct (by tauto)).1

/-- A block is the only one of its name. -/
theorem blockIndex_unique (wellFormed : query.validate = .ok ()) {first second : Nat}
    {spec other : CteSpec} (found : query.ctes[first]? = some spec)
    (foundOther : query.ctes[second]? = some other)
    (same : casefold spec.name = casefold other.name) : first = second := by
  have named {index : Nat} {block : CteSpec} (declared : query.ctes[index]? = some block) :
      ((sourceBlocks query).map Prod.fst)[index]? = some (casefold block.name) := by
    rw [sourceBlocks, List.map_map, List.getElem?_map, declared]
    rfl
  obtain ⟨inRange, atFirst⟩ := List.getElem?_eq_some_iff.mp (named found)
  obtain ⟨inRangeToo, atSecond⟩ := List.getElem?_eq_some_iff.mp (named foundOther)
  have equal : ((sourceBlocks query).map Prod.fst)[first] =
      ((sourceBlocks query).map Prod.fst)[second] := by
    rw [atFirst, atSecond, same]
  exact (distinct_blockNames wellFormed).getElem_inj_iff.mp equal

/-- Only the root of an accepted query declares blocks. -/
theorem topLevel_of_accepted (accepted : validateStructuralCaps query policy = .ok ()) :
    ∀ nested ∈ directScopes query, ∀ scope ∈ scopesOf nested, scope.ctes = [] := by
  intro nested direct scope member
  simp only [validateStructuralCaps, validateCteConstraints, seq_eq_ok_iff, deny_eq_ok_iff] at accepted
  obtain ⟨⟨_, topLevel, _⟩, _⟩ := accepted
  have below : scope ∈ (iterQueryScopes query 0).tail.map Prod.snd := by
    rw [List.map_tail, map_snd_iterQueryScopes, scopesOf_eq, List.tail_cons]
    exact List.mem_flatMap.mpr ⟨nested, direct, member⟩
  obtain ⟨entry, inTail, rfl⟩ := List.mem_map.mp below
  have bare := List.any_eq_false.mp topLevel entry inTail
  simpa using bare

/-- The level of a block: the depth it is charged. -/
def blockLevel (query : StructuredQuery) (index : Nat) : Nat :=
  ((query.ctes[index]?).map (cteDepth query)).getD 1

/-- A block reads only blocks declared before it. -/
theorem readsBlock_lt (wellFormed : query.validate = .ok ())
    (accepted : validateStructuralCaps query policy = .ok ()) {reader read : Nat}
    (reads : ReadsBlock query reader read) : read < reader := by
  obtain ⟨spec, other, found, foundOther, named⟩ := reads
  have source := mem_cteSourceNames.mpr named
  have isBlock : casefold other.name ∈ declaredCteNames query :=
    List.mem_map_of_mem (List.mem_of_getElem? foundOther)
  simp only [validateStructuralCaps, validateCteConstraints, seq_eq_ok_iff] at accepted
  obtain ⟨⟨_, _, rules⟩, _⟩ := accepted
  rw [if_neg fun empty => List.ne_nil_of_mem isBlock (List.isEmpty_iff.mp empty),
    seq_eq_ok_iff] at rules
  rcases checkCteOrder_before rules.1 reader spec found _ source isBlock with absurd | earlier
  · cases absurd
  · obtain ⟨earlierSpec, inTake, same⟩ := List.mem_map.mp earlier
    obtain ⟨position, taken⟩ := List.mem_iff_getElem?.mp inTake
    have before : position < reader := by
      by_contra late
      rw [List.getElem?_take_eq_none (Nat.le_of_not_lt late)] at taken
      cases taken
    rw [List.getElem?_take_of_lt before] at taken
    rw [← blockIndex_unique wellFormed taken foundOther same]
    exact before

theorem blockLevel_eq (wellFormed : query.validate = .ok ()) {index : Nat} {spec : CteSpec}
    (found : query.ctes[index]? = some spec) :
    dictGet (chainDepths (sourceBlocks query)) (casefold spec.name) = some (blockLevel query index) ∧
      blockLevel query index = 1 + ((cteSourceNames spec.query).filterMap
        (dictGet (chainDepths ((sourceBlocks query).take index)))).foldl max 0 := by
  have listed : (sourceBlocks query)[index]? =
      some (casefold spec.name, cteSourceNames spec.query) := by
    rw [sourceBlocks, List.getElem?_map, found]
    rfl
  have charged := dictGet_chainDepths (distinct_blockNames wellFormed) listed
  have level : blockLevel query index =
      (dictGet (chainDepths (sourceBlocks query)) (casefold spec.name)).getD 0 := by
    rw [blockLevel, found]
    rfl
  rw [level, charged]
  exact ⟨rfl, rfl⟩

/-- The depths charged for blocks are levels of the relation between them. -/
theorem levelsOf_blocks (wellFormed : query.validate = .ok ())
    (accepted : validateStructuralCaps query policy = .ok ()) :
    LevelsOf (ReadsBlock query) (blockLevel query) where
  falls := by
    intro reader read reads
    have before := readsBlock_lt wellFormed accepted reads
    obtain ⟨spec, other, found, foundOther, named⟩ := reads
    have declared : casefold other.name ∈ ((sourceBlocks query).take reader).map Prod.fst := by
      refine List.mem_map.mpr ⟨(casefold other.name, cteSourceNames other.query), ?_, rfl⟩
      apply List.mem_of_getElem? (i := read)
      rw [List.getElem?_take_of_lt before, sourceBlocks, List.getElem?_map, foundOther]
      rfl
    have known := dictGet_chainDepths_take (distinct_blockNames wellFormed) declared
    rw [(blockLevel_eq wellFormed foundOther).1] at known
    have charged : blockLevel query read ∈ (cteSourceNames spec.query).filterMap
        (dictGet (chainDepths ((sourceBlocks query).take reader))) :=
      List.mem_filterMap.mpr ⟨_, mem_cteSourceNames.mpr named, known⟩
    have deepest := le_foldl_max charged 0
    rw [(blockLevel_eq wellFormed found).2]
    omega
  attained := by
    intro index
    cases found : query.ctes[index]? with
    | none =>
        left
        rw [blockLevel, found]
        rfl
    | some spec =>
        obtain ⟨_, level⟩ := blockLevel_eq wellFormed found
        rcases foldl_max_zero_or_mem ((cteSourceNames spec.query).filterMap
            (dictGet (chainDepths ((sourceBlocks query).take index)))) with zero | member
        · left
          rw [level, zero]
        · right
          obtain ⟨source, inSources, known⟩ := List.mem_filterMap.mp member
          have declared := mem_dictKeys_chainDepths.mp
            (dictGet_isSome_iff.mp (Option.isSome_of_eq_some known))
          rw [dictGet_chainDepths_take (distinct_blockNames wellFormed) declared] at known
          obtain ⟨block, inTake, rfl⟩ := List.mem_map.mp declared
          obtain ⟨read, listed⟩ := List.mem_iff_getElem?.mp (List.mem_of_mem_take inTake)
          rw [sourceBlocks, List.getElem?_map, Option.map_eq_some_iff] at listed
          obtain ⟨other, foundOther, rfl⟩ := listed
          rw [(blockLevel_eq wellFormed foundOther).1] at known
          injection known with known
          refine ⟨read, ⟨spec, other, found, foundOther, mem_cteSourceNames.mp inSources⟩, ?_⟩
          rw [level, ← known, Nat.add_comm]

end Accepted

/-- The stages a scope costs along one chain of blocks: those of the chain from its
own block on, and the subqueries around the scope inside that block. -/
def StagesTo (query : StructuredQuery) (path : ScopePath) (length : Nat) : Prop :=
  match path with
  | .cte index :: rest =>
      ∃ chain, Foundation.ChainFrom (ReadsBlock query) index chain ∧
        length = chain.length + nestings rest
  | _ => length = nestings path

section Measured

variable {query : StructuredQuery} {policy : Policy}

/-- Outside the blocks a path is charged one level a subquery. -/
theorem isGreatest_nestings {step : ScopeStep} {rest : ScopePath} (outside : step.isCte = false) :
    IsGreatest {length | StagesTo query (step :: rest) length} (pathDepth query (step :: rest)) := by
  have charged : pathDepth query (step :: rest) = nestings (step :: rest) := by
    rw [nestings_cons, pathDepth]
    cases step with
    | cte index => cases outside
    | root => rfl
    | arm index => rfl
    | value index => rfl
    | existence index => rfl
  rw [charged]
  cases step with
  | cte index => cases outside
  | root => exact isGreatest_singleton
  | arm index => exact isGreatest_singleton
  | value index => exact isGreatest_singleton
  | existence index => exact isGreatest_singleton

/-- The walk charges a scope the longest chain of stages. -/
theorem pathDepth_isGreatest (wellFormed : query.validate = .ok ())
    (accepted : validateStructuralCaps query policy = .ok ()) {path : ScopePath}
    {scope : StructuredQuery} (at_ : ScopeAt query path scope) :
    IsGreatest {length | StagesTo query path length} (pathDepth query path) := by
  have levels := levelsOf_blocks wellFormed accepted
  cases path with
  | nil => exact ⟨rfl, fun _ same => Nat.le_of_eq same⟩
  | cons step rest =>
      cases step with
      | cte index =>
          obtain ⟨spec, found, _⟩ := at_.in_body
          have level : stepCharge query (.cte index) = blockLevel query index := by
            rw [stepCharge, blockLevel, found]
            rfl
          rw [pathDepth, level]
          constructor
          · obtain ⟨chain, starts, length⟩ := levels.exists_chain index
            exact ⟨chain, starts, by rw [length]⟩
          · rintro length ⟨chain, starts, rfl⟩
            exact Nat.add_le_add_right (levels.length_le starts) _
      | root => exact isGreatest_nestings rfl
      | arm index => exact isGreatest_nestings rfl
      | value index => exact isGreatest_nestings rfl
      | existence index => exact isGreatest_nestings rfl

/-- In an accepted query blocks read only earlier ones, each under a name of its own,
and the depth of every scope is its longest chain of stages, within the cap. -/
theorem scopeDepths_of_accepted (wellFormed : query.validate = .ok ())
    (accepted : validateStructuralCaps query policy = .ok ()) :
    (∀ reader read, ReadsBlock query reader read → read < reader) ∧
    (∀ (first second : Nat) (spec other : CteSpec), query.ctes[first]? = some spec →
      query.ctes[second]? = some other → casefold spec.name = casefold other.name →
      first = second) ∧
    List.Forall₂ (fun entry walked => entry.2 = walked.2 ∧
        IsGreatest {length | StagesTo query entry.1 length} walked.1)
      (scopeEntries query) (iterQueryScopes query 0) ∧
    ∀ path scope length, ScopeAt query path scope → StagesTo query path length →
      (length : Int) ≤ policy.maxSubqueryDepth := by
  have walked := walk_eq_map (topLevel_of_accepted accepted)
  refine ⟨fun _ _ => readsBlock_lt wellFormed accepted,
    fun _ _ _ _ => blockIndex_unique wellFormed, ?_, ?_⟩
  · rw [walked, List.forall₂_map_right_iff, List.forall₂_same]
    exact fun entry member =>
      ⟨rfl, pathDepth_isGreatest wellFormed accepted (mem_scopeEntries.mp member)⟩
  · intro path scope length at_ stages
    have charged := (pathDepth_isGreatest wellFormed accepted at_).2 stages
    have listed : pathDepth query path ∈ (iterQueryScopes query 0).map Prod.fst := by
      rw [walked, List.map_map]
      exact List.mem_map.mpr ⟨(path, scope), mem_scopeEntries.mpr at_, rfl⟩
    have deepest := le_foldl_max listed 0
    simp only [validateStructuralCaps, seq_eq_ok_iff, deny_eq_ok_iff, maxScopeDepth] at accepted
    have capped := of_decide_eq_false accepted.2
    omega

end Measured

/-- A chain of block references and subqueries that leads from the root to a scope,
with its length. -/
inductive ReachedBy (query : StructuredQuery) : Nat → ScopePath → StructuredQuery → Prop where
  | root : ReachedBy query 0 [] query
  | arm {length index : Nat} {path : ScopePath} {scope arm : StructuredQuery}
      (reached : ReachedBy query length path scope) (child : (.arm index, arm) ∈ childScopes scope) :
      ReachedBy query length (path ++ [.arm index]) arm
  | subquery {length : Nat} {path : ScopePath} {step : ScopeStep} {scope nested : StructuredQuery}
      (reached : ReachedBy query length path scope) (child : (step, nested) ∈ childScopes scope)
      (isSubquery : step.isSubquery = true) : ReachedBy query (length + 1) (path ++ [step]) nested
  | reference {length index : Nat} {path : ScopePath} {scope : StructuredQuery} {spec : CteSpec}
      (reached : ReachedBy query length path scope) (found : query.ctes[index]? = some spec)
      (named : casefold spec.name ∈ (scopeSources scope).map casefold) :
      ReachedBy query (length + 1) [.cte index] spec.query

/-- `WITH active AS (SELECT Orders.id FROM Orders WHERE Orders.id IN (SELECT Customers.id
FROM Customers)), kept AS (SELECT Customers.id FROM Customers WHERE Customers.id IN
(SELECT active.id FROM active)) SELECT kept.id FROM kept`. -/
def nestedStages : StructuredQuery where
  fromTable := "kept"
  select := [.bare "kept.id"]
  ctes := [
    { name := "active",
      query := {
        fromTable := "Orders"
        select := [.bare "Orders.id"]
        where_ := some (.predicate {
          col := some "Orders.id"
          op := .in_
          valueSubquery := some { fromTable := "Customers", select := [.bare "Customers.id"] } }) } },
    { name := "kept",
      query := {
        fromTable := "Customers"
        select := [.bare "Customers.id"]
        where_ := some (.predicate {
          col := some "Customers.id"
          op := .in_
          valueSubquery := some { fromTable := "active", select := [.bare "active.id"] } }) } }]

/-- Under a cap of three a chain of four is accepted, and its last scope is charged
two levels. -/
theorem nestedStages_chain_of_four :
    nestedStages.validate = .ok () ∧
      validateStructuralCaps nestedStages { maxSubqueryDepth := 3 } = .ok () ∧
      (∃ scope, ReachedBy nestedStages 4 [.cte 0, .value 0] scope ∧
        (scopeEntries nestedStages)[2]? = some ([.cte 0, .value 0], scope) ∧
        (iterQueryScopes nestedStages 0)[2]? = some (2, scope)) ∧
      ¬ ∀ length path scope, ReachedBy nestedStages length path scope → length ≤ 3 := by
  have reached : ReachedBy nestedStages 4 [.cte 0, .value 0]
      { fromTable := "Customers", select := [.bare "Customers.id"] } := by
    have kept := ReachedBy.reference (.root : ReachedBy nestedStages 0 [] nestedStages)
      (rfl : nestedStages.ctes[1]? = some _) (by decide +kernel)
    have inner := kept.subquery (List.mem_singleton.mpr rfl) rfl
    have active := inner.reference (rfl : nestedStages.ctes[0]? = some _) (by decide +kernel)
    exact active.subquery (List.mem_singleton.mpr rfl) rfl
  refine ⟨by decide +kernel, by decide +kernel, ⟨_, reached, rfl, rfl⟩, fun bounded => ?_⟩
  exact absurd (bounded 4 _ _ reached) (Nat.not_succ_le_self 3)

/-- A chain of two blocks, each with one subquery, costs three stages. -/
theorem scopeDepths_nestedStages :
    List.Forall₂ (fun entry walked => entry.2 = walked.2 ∧
        IsGreatest {length | StagesTo nestedStages entry.1 length} walked.1)
      (scopeEntries nestedStages) (iterQueryScopes nestedStages 0) := by
  have accepted : validateStructuralCaps nestedStages { maxSubqueryDepth := 3 } = .ok () := by
    decide +kernel
  exact (scopeDepths_of_accepted (by decide +kernel) accepted).2.2.1

end QueryGate
