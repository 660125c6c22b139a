import QueryGate.Validation.SchemaValidation

/-! # What schema acceptance says

`Reflection` follows a passing `validateSchema` down the scope tree: at every
scope it gives the tables recorded for the path, the outer tables handed in, and
the check that passed there. `validateSchema_reflection` says that every scope of
an accepted query is covered; the results about bindings start from it.
-/

namespace QueryGate

open Foundation

section Steps

theorem cteChildren_steps {specs : List CteSpec} {index : Nat} {step : ScopeStep}
    (member : step ∈ (cteChildren index specs).map Prod.fst) :
    ∃ offset, index ≤ offset ∧ step = .cte offset := by
  induction specs generalizing index with
  | nil => cases member
  | cons spec rest ih =>
      rcases List.mem_cons.mp member with rfl | later
      · exact ⟨index, Nat.le_refl _, rfl⟩
      · obtain ⟨offset, le, same⟩ := ih later
        exact ⟨offset, Nat.le_of_succ_le le, same⟩

theorem cteChildren_nodup (specs : List CteSpec) (index : Nat) :
    ((cteChildren index specs).map Prod.fst).Nodup := by
  induction specs generalizing index with
  | nil => exact List.nodup_nil
  | cons spec rest ih =>
      refine List.nodup_cons.mpr ⟨fun member => ?_, ih (index + 1)⟩
      obtain ⟨offset, le, same⟩ := cteChildren_steps member
      injection same with same
      omega

theorem armChildren_steps {arms : List StructuredQuery} {index : Nat} {step : ScopeStep}
    (member : step ∈ (armChildren index arms).map Prod.fst) :
    ∃ offset, index ≤ offset ∧ step = .arm offset := by
  induction arms generalizing index with
  | nil => cases member
  | cons arm rest ih =>
      rcases List.mem_cons.mp member with rfl | later
      · exact ⟨index, Nat.le_refl _, rfl⟩
      · obtain ⟨offset, le, same⟩ := ih later
        exact ⟨offset, Nat.le_of_succ_le le, same⟩

theorem armChildren_nodup (arms : List StructuredQuery) (index : Nat) :
    ((armChildren index arms).map Prod.fst).Nodup := by
  induction arms generalizing index with
  | nil => exact List.nodup_nil
  | cons arm rest ih =>
      refine List.nodup_cons.mpr ⟨fun member => ?_, ih (index + 1)⟩
      obtain ⟨offset, le, same⟩ := armChildren_steps member
      injection same with same
      omega

theorem predicateChildren_steps {pred : Predicate} {index : Nat} {step : ScopeStep}
    (member : step ∈ (predicateChildren index pred).map Prod.fst) :
    step = .value index ∨ step = .existence index := by
  simp only [predicateChildren, List.map_append, List.map_map, List.mem_append, List.mem_map,
    Function.comp_apply] at member
  rcases member with ⟨_, _, rfl⟩ | ⟨_, _, rfl⟩
  · exact .inl rfl
  · exact .inr rfl

theorem indexedChildren_steps {preds : List Predicate} {index : Nat} {step : ScopeStep}
    (member : step ∈ (indexedChildren index preds).map Prod.fst) :
    ∃ offset, index ≤ offset ∧ (step = .value offset ∨ step = .existence offset) := by
  induction preds generalizing index with
  | nil => cases member
  | cons pred rest ih =>
      rw [indexedChildren, List.map_append, List.mem_append] at member
      rcases member with here | later
      · exact ⟨index, Nat.le_refl _, predicateChildren_steps here⟩
      · obtain ⟨offset, le, same⟩ := ih later
        exact ⟨offset, Nat.le_of_succ_le le, same⟩

theorem indexedChildren_nodup (preds : List Predicate) (index : Nat) :
    ((indexedChildren index preds).map Prod.fst).Nodup := by
  induction preds generalizing index with
  | nil => exact List.nodup_nil
  | cons pred rest ih =>
      rw [indexedChildren, List.map_append]
      refine List.nodup_append'.mpr ⟨?_, ih (index + 1), fun step here later => ?_⟩
      · cases value : pred.valueSubquery <;> cases exists_ : pred.existsSubquery <;>
          simp [predicateChildren, value, exists_]
      · obtain ⟨offset, le, same⟩ := indexedChildren_steps later
        rcases predicateChildren_steps here with rfl | rfl
        · rcases same with same | same
          · injection same with same
            omega
          · cases same
        · rcases same with same | same
          · cases same
          · injection same with same
            omega

/-- A child reached by a WITH step is the body of a declared block. -/
theorem cte_of_mem_childScopes {query : StructuredQuery} {kid : ScopeStep × StructuredQuery}
    (member : kid ∈ childScopes query) (isCte : kid.1.isCte = true) :
    ∃ index spec, query.ctes[index]? = some spec ∧ kid = (.cte index, spec.query) := by
  have bodies : ∀ (specs : List CteSpec) (start : Nat), kid ∈ cteChildren start specs →
      ∃ offset spec, specs[offset]? = some spec ∧ kid = (.cte (start + offset), spec.query) := by
    intro specs
    induction specs with
    | nil => exact fun _ absurd => by cases absurd
    | cons spec rest ih =>
        intro start found
        rcases List.mem_cons.mp found with rfl | later
        · exact ⟨0, spec, rfl, rfl⟩
        · obtain ⟨offset, other, at_, rfl⟩ := ih (start + 1) later
          refine ⟨offset + 1, other, at_, ?_⟩
          rw [Nat.add_assoc, Nat.add_comm 1 offset]
  rw [childScopes, List.mem_append, List.mem_append] at member
  rcases member with (inCtes | inArms) | inPredicates
  · obtain ⟨offset, spec, at_, same⟩ := bodies query.ctes 0 inCtes
    rw [Nat.zero_add] at same
    exact ⟨offset, spec, at_, same⟩
  · obtain ⟨_, _, isArm⟩ := armChildren_steps (List.mem_map_of_mem inArms)
    rw [isArm] at isCte
    cases isCte
  · obtain ⟨_, _, isSubquery⟩ := indexedChildren_steps (List.mem_map_of_mem inPredicates)
    rcases isSubquery with isValue | isExistence
    · rw [isValue] at isCte
      cases isCte
    · rw [isExistence] at isCte
      cases isCte

/-- The scopes directly inside a scope are reached by different steps. -/
theorem childScopes_nodup (query : StructuredQuery) :
    ((childScopes query).map Prod.fst).Nodup := by
  rw [childScopes, List.map_append, List.map_append]
  refine List.nodup_append'.mpr ⟨List.nodup_append'.mpr ⟨cteChildren_nodup _ _,
    armChildren_nodup _ _, fun step first second => ?_⟩, indexedChildren_nodup _ _,
    fun step first second => ?_⟩
  · obtain ⟨_, _, rfl⟩ := cteChildren_steps first
    obtain ⟨_, _, absurd⟩ := armChildren_steps second
    cases absurd
  · obtain ⟨_, _, isSubquery⟩ := indexedChildren_steps second
    rcases List.mem_append.mp first with isCte | isArm
    · obtain ⟨_, _, rfl⟩ := cteChildren_steps isCte
      rcases isSubquery with absurd | absurd <;> cases absurd
    · obtain ⟨_, _, rfl⟩ := armChildren_steps isArm
      rcases isSubquery with absurd | absurd <;> cases absurd

/-- The scope at a path of a query's tree is determined by the path. -/
theorem ScopeTree.At.unique {tree : ScopeTree} {path : ScopePath} {first second : StructuredQuery}
    (at_ : tree.At path first) : ∀ {root : StructuredQuery} {rootStep : ScopeStep},
    tree = scopeTree rootStep root → tree.At path second → first = second := by
  induction at_ with
  | here =>
      intro root rootStep built other
      cases other
      rfl
  | @inside step scope found children child rest member below ih =>
      intro root rootStep built other
      rw [scopeTree_eq] at built
      cases built
      obtain ⟨kid, inKids, rfl⟩ := List.mem_map.mp member
      generalize reached : (scopeTree kid.1 kid.2).step = childStep at other
      cases other with
      | inside otherMember otherBelow =>
          obtain ⟨otherKid, inOther, rfl⟩ := List.mem_map.mp otherMember
          rw [scopeTree_step, scopeTree_step] at reached
          have same : kid = otherKid :=
            List.inj_on_of_nodup_map (childScopes_nodup _) inKids inOther reached
          rw [← same] at otherBelow
          exact ih rfl otherBelow

/-- The scope at a path is determined by the path. -/
theorem ScopeAt.unique {query first second : StructuredQuery} {path : ScopePath}
    (at_ : ScopeAt query path first) (other : ScopeAt query path second) : first = second :=
  ScopeTree.At.unique at_ rfl other

end Steps

section Walk

variable {context : SchemaContext} {cteTables : Tables}

/-- One child of a passing walk over a list of scopes, with the outer tables it was
handed. -/
theorem reflectForest_child {related : (ScopeStep × StructuredQuery) → Tables → Prop}
    {atRoot nested : Bool} {path : ScopePath} {kids : List (ScopeStep × StructuredQuery)}
    {visibles : List Tables} (handed : List.Forall₂ related kids visibles) :
    ∀ {entries : ScopeTables},
      reflectForest context cteTables atRoot (childTrees kids) visibles path nested =
        .ok entries →
      ∀ kid ∈ kids, ∃ correlated below, related kid correlated ∧
        reflectTree context cteTables (atRoot && kid.1.isCte) (scopeTree kid.1 kid.2)
          (path ++ [kid.1]) (nested || kid.1.isNested) correlated = .ok below ∧
        ∀ entry ∈ below, entry ∈ entries := by
  induction handed with
  | nil =>
      intro entries _ kid absurd
      cases absurd
  | @cons first correlated rest others here _ ih =>
      intro entries done kid member
      simp only [childTrees, List.map_cons, reflectForest, scopeTree_step, List.headD_cons,
        List.tail_cons, bind_eq_ok_iff] at done
      obtain ⟨below, hereDone, later, laterDone, returned⟩ := done
      cases returned
      rcases List.mem_cons.mp member with rfl | inRest
      · exact ⟨correlated, below, here, hereDone,
          fun entry inBelow => List.mem_append_left _ inBelow⟩
      · obtain ⟨found, sub, relation, subDone, inside⟩ := ih laterDone kid inRest
        exact ⟨found, sub, relation, subDone,
          fun entry inSub => List.mem_append_right _ (inside entry inSub)⟩

/-- The paths a walk records are distinct, and lie strictly below a scope that is
skipped. -/
structure PathsBelow (path : ScopePath) (skipBody : Bool) (entries : ScopeTables) : Prop where
  distinct : (dictKeys entries).Nodup
  below : ∀ key ∈ dictKeys entries, ∃ rest, key = path ++ rest ∧ (skipBody = true → rest ≠ [])

/-- The paths a walk over the children of a scope records. -/
theorem reflectForest_paths {atRoot nested : Bool} {path : ScopePath}
    {kids : List (ScopeStep × StructuredQuery)}
    (each : ∀ kid ∈ kids, ∀ {skipBody inner : Bool} {at_ : ScopePath} {correlated : Tables}
      {entries : ScopeTables},
      reflectTree context cteTables skipBody (scopeTree kid.1 kid.2) at_ inner correlated =
        .ok entries → PathsBelow at_ skipBody entries)
    (distinct : (kids.map Prod.fst).Nodup) :
    ∀ {visibles : List Tables} {entries : ScopeTables},
      reflectForest context cteTables atRoot (childTrees kids) visibles path nested =
        .ok entries →
      (dictKeys entries).Nodup ∧ ∀ key ∈ dictKeys entries, ∃ step rest,
        step ∈ kids.map Prod.fst ∧ key = path ++ step :: rest ∧
        ((atRoot && step.isCte) = true → rest ≠ []) := by
  induction kids with
  | nil =>
      intro visibles entries done
      rw [childTrees, List.map_nil, reflectForest] at done
      cases done
      exact ⟨List.nodup_nil, fun key absurd => by cases absurd⟩
  | cons kid rest ih =>
      intro visibles entries done
      simp only [childTrees, List.map_cons, reflectForest, scopeTree_step, bind_eq_ok_iff] at done
      obtain ⟨below, hereDone, later, laterDone, returned⟩ := done
      cases returned
      have here := each kid (List.mem_cons_self ..) hereDone
      have inKid : ∀ key ∈ dictKeys below, ∃ tail, key = path ++ kid.1 :: tail ∧
          ((atRoot && kid.1.isCte) = true → tail ≠ []) := by
        intro key member
        obtain ⟨tail, same, strict⟩ := here.below key member
        exact ⟨tail, by rw [same, List.append_assoc, List.singleton_append], strict⟩
      obtain ⟨laterDistinct, laterBelow⟩ := ih
        (fun found inRest => each found (List.mem_cons_of_mem _ inRest))
        (List.nodup_cons.mp distinct).2 laterDone
      simp only [dictKeys, List.map_append]
      refine ⟨List.nodup_append'.mpr ⟨here.distinct, laterDistinct, fun key first second => ?_⟩,
        fun key member => ?_⟩
      · obtain ⟨tail, same, _⟩ := inKid key first
        obtain ⟨step, otherTail, inSteps, otherSame, _⟩ := laterBelow key second
        rw [same, List.append_cancel_left_eq, List.cons.injEq] at otherSame
        rw [← otherSame.1] at inSteps
        exact (List.nodup_cons.mp distinct).1 inSteps
      · rcases List.mem_append.mp member with first | second
        · obtain ⟨tail, same, strict⟩ := inKid key first
          exact ⟨kid.1, tail, List.mem_cons_self .., same, strict⟩
        · obtain ⟨step, tail, inSteps, same, strict⟩ := laterBelow key second
          exact ⟨step, tail, List.mem_cons_of_mem _ inSteps, same, strict⟩

/-- A passing walk records different paths for different scopes. -/
theorem reflectTree_paths {query : StructuredQuery} : ∀ {step : ScopeStep} {skipBody nested : Bool}
    {path : ScopePath} {correlated : Tables} {entries : ScopeTables},
    reflectTree context cteTables skipBody (scopeTree step query) path nested correlated =
      .ok entries → PathsBelow path skipBody entries := by
  induction query using StructuredQuery.scopeInduction with
  | step query ih =>
      intro step skipBody nested path correlated entries done
      have each : ∀ kid ∈ childScopes query, ∀ {skip inner : Bool} {at_ : ScopePath}
          {handed : Tables} {found : ScopeTables},
          reflectTree context cteTables skip (scopeTree kid.1 kid.2) at_ inner handed = .ok found →
          PathsBelow at_ skip found :=
        fun kid member _ _ _ _ _ walked =>
          ih kid.2 (mem_directScopes_of_childScopes member) walked
      rw [scopeTree_eq, reflectTree] at done
      split at done
      · rename_i skips
        obtain ⟨distinct, below⟩ := reflectForest_paths each (childScopes_nodup query) done
        refine ⟨distinct, fun key member => ?_⟩
        obtain ⟨first, rest, _, same, _⟩ := below key member
        exact ⟨first :: rest, same, fun _ => List.cons_ne_nil _ _⟩
      · rename_i notSkipped
        simp only [bind_eq_ok_iff] at done
        obtain ⟨_, _, tables, _, visibles, _, below, belowDone, returned⟩ := done
        cases returned
        obtain ⟨distinct, inside⟩ := reflectForest_paths each (childScopes_nodup query) belowDone
        refine ⟨List.nodup_cons.mpr ⟨fun member => ?_, distinct⟩, fun key member => ?_⟩
        · obtain ⟨first, rest, _, same, _⟩ := inside path member
          exact List.cons_ne_nil first rest (List.append_cancel_left
            ((List.append_nil path).trans same)).symm
        · rcases List.mem_cons.mp member with rfl | later
          · exact ⟨[], (List.append_nil _).symm, fun skips => absurd skips notSkipped⟩
          · obtain ⟨first, rest, _, same, _⟩ := inside key later
            exact ⟨first :: rest, same, fun _ => List.cons_ne_nil _ _⟩

end Walk

/-- The path of a WITH body of the query. -/
def isWithBody : ScopePath → Bool
  | [.cte _] => true
  | _ => false

@[simp] theorem isWithBody_append (path : ScopePath) (step : ScopeStep) :
    isWithBody (path ++ [step]) = (path.isEmpty && step.isCte) := by
  cases path with
  | nil => cases step <;> rfl
  | cons first rest =>
      cases rest with
      | nil => cases first <;> rfl
      | cons second rest => cases first <;> rfl

/-- The outer tables the scope at a path hands to a child. The walk skips a WITH
body, so the subqueries directly inside one receive nothing. -/
def handedTables (path : ScopePath) (scope : StructuredQuery) (tables : Tables)
    (child : ScopeTree) : Gate Tables :=
  if isWithBody path then .ok [] else correlatedFor scope tables child

/-- The binding of one scope inside a passing `validateSchema`: the WITH blocks
known there, the outer tables it was handed, and the tables recorded for its path. -/
inductive Reflection (context : SchemaContext) (query : StructuredQuery)
    (reflected : ReflectedQuery) :
    ScopePath → StructuredQuery → (blocks outer tables : Tables) → Prop where
  | root {tables : Tables}
      (bound : reflectScope context [] query reflected.cteTables [] = .ok tables)
      (recorded : dictGet reflected.scopeTables [] = some tables) :
      Reflection context query reflected [] query reflected.cteTables [] tables
  | body {index : Nat} {spec : CteSpec} {blocks tables : Tables}
      (declared : query.ctes[index]? = some spec)
      (known : BlocksNamed .placeholder blocks (visibleCteNames query [.cte index]))
      (bound : reflectScope context [.cte index] spec.query blocks [] = .ok tables)
      (recorded : dictGet reflected.scopeTables [.cte index] = some tables) :
      Reflection context query reflected [.cte index] spec.query blocks [] tables
  | child {path : ScopePath} {scope nested : StructuredQuery} {step : ScopeStep}
      {blocks outer tables handed inner : Tables}
      (parent : Reflection context query reflected path scope blocks outer tables)
      (member : (step, nested) ∈ childScopes scope)
      (notBody : isWithBody (path ++ [step]) = false)
      (received : handedTables path scope tables (scopeTree step nested) = .ok handed)
      (bound : reflectScope context (path ++ [step]) nested reflected.cteTables handed =
        .ok inner)
      (recorded : dictGet reflected.scopeTables (path ++ [step]) = some inner) :
      Reflection context query reflected (path ++ [step]) nested reflected.cteTables handed inner

namespace Reflection

variable {context : SchemaContext} {query : StructuredQuery} {reflected : ReflectedQuery}
  {path : ScopePath} {scope : StructuredQuery} {blocks outer tables : Tables}

theorem bound (at_ : Reflection context query reflected path scope blocks outer tables) :
    reflectScope context path scope blocks outer = .ok tables := by
  cases at_ with
  | root bound _ => exact bound
  | body _ _ bound _ => exact bound
  | child _ _ _ _ bound _ => exact bound

theorem recorded (at_ : Reflection context query reflected path scope blocks outer tables) :
    dictGet reflected.scopeTables path = some tables := by
  cases at_ with
  | root _ recorded => exact recorded
  | body _ _ _ recorded => exact recorded
  | child _ _ _ _ _ recorded => exact recorded

theorem scopeAt (at_ : Reflection context query reflected path scope blocks outer tables) :
    ScopeAt query path scope := by
  induction at_ with
  | root _ _ => exact .root query
  | body declared _ _ _ =>
      refine .of_cte declared ?_
      rw [scopeTree_eq]
      exact .here
  | child _ member _ _ _ _ ih => exact ih.child member

theorem scope_of_root (at_ : Reflection context query reflected path scope blocks outer tables)
    (atRoot : path = []) : scope = query := by
  cases at_ with
  | root _ _ => rfl
  | body _ _ _ _ => cases atRoot
  | child _ _ _ _ _ _ => exact absurd atRoot (List.append_ne_nil_of_right_ne_nil _ (List.cons_ne_nil _ _))

end Reflection

section Coverage

variable {context : SchemaContext} {query : StructuredQuery} {reflected : ReflectedQuery}

/-- Some binding of the scope at a path. -/
def Reflected (context : SchemaContext) (query : StructuredQuery) (reflected : ReflectedQuery)
    (path : ScopePath) (scope : StructuredQuery) : Prop :=
  ∃ blocks outer tables, Reflection context query reflected path scope blocks outer tables

/-- What the walk did at one scope: a WITH body was skipped, any other scope was
bound and handed its subqueries the outer tables they declare. -/
theorem reflectTree_cases {cteTables : Tables} {step : ScopeStep} {scope : StructuredQuery}
    {base : ScopePath} {nested : Bool} {correlated : Tables} {entries : ScopeTables}
    (walked : reflectTree context cteTables (isWithBody base) (scopeTree step scope) base nested
      correlated = .ok entries) :
    ∃ tables, (isWithBody base = false →
        reflectScope context base scope cteTables correlated = .ok tables ∧
          (base, tables) ∈ entries) ∧
      ∀ kid ∈ childScopes scope, ∀ known, (isWithBody base = false → known = tables) →
        ∃ handed inner below,
          handedTables base scope known (scopeTree kid.1 kid.2) = .ok handed ∧
          reflectTree context cteTables (isWithBody (base ++ [kid.1])) (scopeTree kid.1 kid.2)
            (base ++ [kid.1]) inner handed = .ok below ∧
          ∀ entry ∈ below, entry ∈ entries := by
  rw [scopeTree_eq, reflectTree] at walked
  split at walked
  · rename_i skipped
    have nonempty : base.isEmpty = false := by
      cases base with
      | nil => cases skipped
      | cons first rest => rfl
    have handed : List.Forall₂ (fun _ correlated => correlated = ([] : Tables)) (childScopes scope)
        ((childTrees (childScopes scope)).map fun _ => []) := by
      rw [childTrees, List.map_map, List.forall₂_map_right_iff]
      exact List.forall₂_same.mpr fun _ _ => rfl
    refine ⟨[], fun notSkipped => absurd skipped (by simp [notSkipped]), fun kid member _ _ => ?_⟩
    obtain ⟨_, below, rfl, kidWalked, inside⟩ := reflectForest_child handed walked kid member
    refine ⟨[], true || kid.1.isNested, below, ?_, ?_, inside⟩
    · rw [handedTables, if_pos skipped]
    · rw [isWithBody_append, nonempty]
      exact kidWalked
  · rename_i notSkipped
    simp only [bind_eq_ok_iff] at walked
    obtain ⟨_, _, tables, bound, visibles, mapped, below, belowDone, returned⟩ := walked
    cases returned
    have handed : List.Forall₂ (fun kid correlated =>
        correlatedFor scope tables (scopeTree kid.1 kid.2) = .ok correlated) (childScopes scope)
        visibles := by
      rw [mapAll_eq_ok_iff, childTrees, List.forall₂_map_left_iff] at mapped
      exact mapped
    refine ⟨tables, fun _ => ⟨bound, List.mem_cons_self ..⟩, fun kid member known same => ?_⟩
    obtain ⟨correlated, kidBelow, received, kidWalked, inside⟩ :=
      reflectForest_child handed belowDone kid member
    rw [same (Bool.eq_false_iff.mpr notSkipped)]
    refine ⟨correlated, nested || kid.1.isNested, kidBelow, ?_, ?_,
      fun entry inBelow => List.mem_cons_of_mem _ (inside entry inBelow)⟩
    · rw [handedTables, if_neg notSkipped]
      exact received
    · rw [isWithBody_append]
      exact kidWalked

/-- Below a scope of a passing walk every scope is bound: a skipped scope was bound
before the walk, any other is bound on entry. -/
theorem reflectTree_covers
    (bodies : ∀ index spec, query.ctes[index]? = some spec →
      Reflected context query reflected [.cte index] spec.query)
    {tree : ScopeTree} {path : ScopePath} {found : StructuredQuery} (at_ : tree.At path found) :
    ∀ {step : ScopeStep} {scope : StructuredQuery} {base : ScopePath} {nested : Bool}
      {correlated : Tables} {entries : ScopeTables}, tree = scopeTree step scope →
      reflectTree context reflected.cteTables (isWithBody base) (scopeTree step scope) base nested
        correlated = .ok entries →
      (∀ entry ∈ entries, dictGet reflected.scopeTables entry.1 = some entry.2) →
      (isWithBody base = true → Reflected context query reflected base scope) →
      (isWithBody base = false → ∀ tables,
        reflectScope context base scope reflected.cteTables correlated = .ok tables →
        dictGet reflected.scopeTables base = some tables →
        Reflection context query reflected base scope reflected.cteTables correlated tables) →
      Reflected context query reflected (base ++ path) found := by
  have here : ∀ {step : ScopeStep} {scope : StructuredQuery} {base : ScopePath} {nested : Bool}
      {correlated : Tables} {entries : ScopeTables},
      reflectTree context reflected.cteTables (isWithBody base) (scopeTree step scope) base nested
        correlated = .ok entries →
      (∀ entry ∈ entries, dictGet reflected.scopeTables entry.1 = some entry.2) →
      (isWithBody base = true → Reflected context query reflected base scope) →
      (isWithBody base = false → ∀ tables,
        reflectScope context base scope reflected.cteTables correlated = .ok tables →
        dictGet reflected.scopeTables base = some tables →
        Reflection context query reflected base scope reflected.cteTables correlated tables) →
      ∃ blocks outer tables,
        Reflection context query reflected base scope blocks outer tables ∧
        ∀ kid ∈ childScopes scope, ∃ handed inner below,
          handedTables base scope tables (scopeTree kid.1 kid.2) = .ok handed ∧
          reflectTree context reflected.cteTables (isWithBody (base ++ [kid.1]))
            (scopeTree kid.1 kid.2) (base ++ [kid.1]) inner handed = .ok below ∧
          ∀ entry ∈ below, entry ∈ entries := by
    intro step scope base nested correlated entries walked recorded skipped entered
    obtain ⟨tables, bound, kids⟩ := reflectTree_cases walked
    cases isBody : isWithBody base with
    | true =>
        obtain ⟨blocks, outer, known, reflection⟩ := skipped isBody
        refine ⟨blocks, outer, known, reflection, fun kid member => kids kid member known ?_⟩
        intro notBody
        rw [isBody] at notBody
        cases notBody
    | false =>
        obtain ⟨scopeBound, inEntries⟩ := bound isBody
        exact ⟨_, _, tables, entered isBody tables scopeBound (recorded _ inEntries),
          fun kid member => kids kid member tables fun _ => rfl⟩
  induction at_ with
  | here =>
      intro step scope base nested correlated entries built walked recorded skipped entered
      obtain ⟨blocks, outer, tables, reflection, _⟩ := here walked recorded skipped entered
      rw [scopeTree_eq] at built
      cases built
      rw [List.append_nil]
      exact ⟨blocks, outer, tables, reflection⟩
  | inside member below ih =>
      intro step scope base nested correlated entries built walked recorded skipped entered
      obtain ⟨blocks, outer, tables, reflection, kids⟩ := here walked recorded skipped entered
      rw [scopeTree_eq] at built
      cases built
      obtain ⟨kid, inKids, rfl⟩ := List.mem_map.mp member
      obtain ⟨handed, inner, kidEntries, received, kidWalked, inside⟩ := kids kid inKids
      rw [scopeTree_step, ← List.singleton_append, ← List.append_assoc]
      refine ih rfl kidWalked (fun entry inBelow => recorded entry (inside entry inBelow)) ?_ ?_
      · -- Only the root has WITH bodies below it, and those were bound beforehand.
        intro isBody
        rw [isWithBody_append, Bool.and_eq_true, List.isEmpty_iff] at isBody
        obtain ⟨rfl, isCte⟩ := isBody
        rw [reflection.scope_of_root rfl] at inKids
        obtain ⟨index, spec, declared, rfl⟩ := cte_of_mem_childScopes inKids isCte
        exact bodies index spec declared
      · exact fun notBody tables bound known =>
          .child reflection inKids notBody received bound known

/-- The WITH bodies, bound before the walk: each sees the blocks before it, and is
recorded under its own path. -/
theorem reflectCtes_bodies {specs : List CteSpec} : ∀ {index : Nat} {known all : Tables}
    {entries : ScopeTables} {names : List String},
    reflectCtes context index known specs = .ok (all, entries) →
    BlocksNamed .placeholder known names →
    BlocksNamed .placeholder all (names ++ specs.map fun spec => casefold spec.name) ∧
      dictKeys entries = (List.range' index specs.length).map (fun at_ => [.cte at_]) ∧
      ∀ offset spec, specs[offset]? = some spec → ∃ blocks tables,
        BlocksNamed .placeholder blocks
          (names ++ (specs.take offset).map fun spec => casefold spec.name) ∧
        reflectScope context [.cte (index + offset)] spec.query blocks [] = .ok tables ∧
        ([.cte (index + offset)], tables) ∈ entries := by
  induction specs with
  | nil =>
      intro index known all entries names done named
      rw [reflectCtes] at done
      cases done
      rw [List.map_nil, List.append_nil]
      exact ⟨named, rfl, fun offset spec absurd => by cases absurd⟩
  | cons spec rest ih =>
      intro index known all entries names done named
      simp only [reflectCtes, bind_eq_ok_iff] at done
      obtain ⟨_, _, tables, bound, placeholder, projected, ⟨final, later⟩, restDone, returned⟩ :=
        done
      cases returned
      obtain ⟨columns, rfl⟩ : ∃ columns, placeholder = .placeholder spec.name columns := by
        simp only [cteProjectionTable, bind_eq_ok_iff] at projected
        obtain ⟨columns, _, _, _, same⟩ := projected
        cases same
        exact ⟨columns, rfl⟩
      obtain ⟨allNamed, laterKeys, laterBodies⟩ := ih restDone named.dictSet
      rw [List.append_assoc, List.singleton_append] at allNamed
      refine ⟨allNamed, ?_, fun offset found at_ => ?_⟩
      · rw [dictKeys, List.map_cons, List.length_cons, List.range'_succ, List.map_cons]
        exact congrArg _ laterKeys
      · cases offset with
        | zero =>
            cases at_
            refine ⟨known, tables, ?_, bound, List.mem_cons_self ..⟩
            rw [List.take_zero, List.map_nil, List.append_nil]
            exact named
        | succ offset =>
            obtain ⟨blocks, bodyTables, blocksNamed, bodyBound, inLater⟩ :=
              laterBodies offset found at_
            rw [List.append_assoc, List.singleton_append] at blocksNamed
            rw [Nat.add_assoc, Nat.add_comm 1 offset] at bodyBound inLater
            exact ⟨blocks, bodyTables, blocksNamed, bodyBound, List.mem_cons_of_mem _ inLater⟩

/-- The walk from the root records no WITH body. -/
theorem reflectTree_root_paths {cteTables : Tables} {entries : ScopeTables}
    (walked : reflectTree context cteTables false (scopeTree .root query) [] false [] =
      .ok entries) {key : ScopePath} (member : key ∈ dictKeys entries) : isWithBody key = false := by
  rw [scopeTree_eq, reflectTree, if_neg Bool.false_ne_true] at walked
  simp only [bind_eq_ok_iff] at walked
  obtain ⟨_, _, tables, _, visibles, _, below, belowDone, returned⟩ := walked
  cases returned
  obtain ⟨_, inside⟩ := reflectForest_paths
    (fun kid _ _ _ _ _ _ kidWalked => reflectTree_paths kidWalked) (childScopes_nodup query)
    belowDone
  rcases List.mem_cons.mp member with rfl | later
  · rfl
  · obtain ⟨step, rest, _, rfl, strict⟩ := inside key later
    cases rest with
    | nil =>
        rw [List.nil_append, ← List.nil_append [step], isWithBody_append]
        exact Bool.eq_false_iff.mpr fun isCte => strict isCte rfl
    | cons second rest => cases step <;> rfl

/-- A passing `validateSchema` binds every scope of the query. -/
theorem validateSchema_reflected (accepted : validateSchema context query = .ok reflected) :
    BlocksNamed .placeholder reflected.cteTables (declaredCteNames query) ∧
      ∀ {path scope}, ScopeAt query path scope → Reflected context query reflected path scope := by
  simp only [validateSchema, bind_eq_ok_iff] at accepted
  obtain ⟨⟨cteTables, bodies⟩, ctesDone, scopes, walked, _, _, returned⟩ := accepted
  cases returned
  obtain ⟨named, bodyKeys, eachBody⟩ := reflectCtes_bodies ctesDone (BlocksNamed.empty _)
  simp only [List.nil_append, Nat.zero_add] at named eachBody
  have distinct : (dictKeys (bodies ++ scopes)).Nodup := by
    rw [dictKeys, List.map_append]
    refine List.nodup_append'.mpr ⟨?_, (reflectTree_paths walked).distinct,
      fun key inBodies inScopes => ?_⟩
    · change (dictKeys bodies).Nodup
      rw [bodyKeys]
      refine List.Nodup.map (fun first second same => ?_) List.nodup_range'
      injection same with same
      injection same
    · change key ∈ dictKeys bodies at inBodies
      rw [bodyKeys] at inBodies
      obtain ⟨index, _, rfl⟩ := List.mem_map.mp inBodies
      have absurd := reflectTree_root_paths walked inScopes
      cases absurd
  have recorded : ∀ entry ∈ bodies ++ scopes,
      dictGet (bodies ++ scopes) entry.1 = some entry.2 :=
    fun entry member => dictGet_of_mem_nodup distinct member
  refine ⟨named, fun {path scope} at_ => ?_⟩
  change Reflected context query _ ([] ++ path) scope
  refine reflectTree_covers (fun index spec declared => ?_) at_ rfl walked
    (fun entry member => recorded entry (List.mem_append_right _ member))
    (fun absurd => by cases absurd) (fun _ tables bound known => .root bound known)
  obtain ⟨blocks, tables, blocksNamed, bound, member⟩ := eachBody index spec declared
  exact ⟨blocks, [], tables, .body declared blocksNamed bound
    (recorded _ (List.mem_append_left _ member))⟩

end Coverage

end QueryGate
