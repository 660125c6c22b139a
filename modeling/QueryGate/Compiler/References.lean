import QueryGate.Compiler.Scopes

/-! # The reference visitor covers the compiler

`iterColumnRefs` is the one list of references that policy validation, masking
and schema validation look at. Every reference the compiler resolves to a column
is on it, and a reference that is not a whole select item is on it under another
position than a bare projection.
-/

namespace QueryGate

open Foundation

/-- The reference a mentioned column was resolved from. -/
def SqlAtom.ref? : SqlAtom → Option String
  | .column _ _ ref => ref
  | .statement _ => none

/-- A reference the compiler resolved, and whether it is a whole select item. -/
structure Resolution where
  bare : Bool
  ref : String
  deriving DecidableEq, Repr

/-- The references behind a list of atoms. -/
def resolutionsOf (bare : Bool) (atoms : List SqlAtom) : List Resolution :=
  (atoms.filterMap SqlAtom.ref?).map (Resolution.mk bare)

/-- The references resolved for the SELECT of one scope. -/
def Select.resolutions (select : Select) : List Resolution :=
  (select.columns.flatMap fun column => resolutionsOf column.bare column.expr.atoms) ++
    (select.joins.flatMap fun join => resolutionsOf false join.condition.atoms) ++
    (select.where_.flatMap fun condition => resolutionsOf false condition.atoms) ++
    (select.groupBy.flatMap fun expr => resolutionsOf false expr.atoms) ++
    (select.having.flatMap fun condition => resolutionsOf false condition.atoms)

/-- The references resolved for the clauses after a statement's SELECTs. -/
def Statement.tailResolutions (statement : Statement) : List Resolution :=
  resolutionsOf false statement.tailAtoms

/-- The visitor yields a resolved reference, as a bare projection only where it is
a whole select item. -/
def Yielded (scope : StructuredQuery) (resolution : Resolution) : Prop :=
  if resolution.bare then ⟨.selectProjectionBare, resolution.ref⟩ ∈ iterColumnRefs scope
  else ∃ position, position ≠ .selectProjectionBare ∧
    ⟨position, resolution.ref⟩ ∈ iterColumnRefs scope

section Visitor

variable {scope : StructuredQuery}

theorem yielded_of_nested {ref : String} (position : RefPosition)
    (other : position ≠ .selectProjectionBare) (member : ⟨position, ref⟩ ∈ iterColumnRefs scope) :
    Yielded scope ⟨false, ref⟩ :=
  ⟨position, other, member⟩

/-- A list of references under one position of the visitor. -/
theorem mem_positioned {refs : List String} {ref : String} (position : RefPosition)
    (member : ref ∈ refs) : ⟨position, ref⟩ ∈ refs.map (ColumnRef.mk position) :=
  List.mem_map_of_mem member

theorem positionedRefs_of_not_bare {item : SelectItem} (notBare : item.isBare = false) :
    selectItemPositionedRefs item =
      (selectItemColumnRefs item).map (ColumnRef.mk .selectNested) := by
  cases item with
  | bare ref => exact absurd notBare (by rw [SelectItem.isBare]; decide)
  | _ => rfl

theorem yielded_selectItem {item : SelectItem} (member : item ∈ scope.select) {ref : String}
    (listed : ref ∈ selectItemColumnRefs item) : Yielded scope ⟨item.isBare, ref⟩ := by
  have inVisitor : ∀ found, found ∈ selectItemPositionedRefs item → found ∈ iterColumnRefs scope := by
    intro found inItem
    have inSelect := List.mem_flatMap.mpr ⟨item, member, inItem⟩
    simp only [iterColumnRefs, List.mem_append]
    tauto
  by_cases bare : item.isBare = true
  · cases item with
    | bare whole =>
        rw [List.mem_singleton.mp listed]
        exact inVisitor _ (List.mem_singleton.mpr rfl)
    | _ => cases bare
  · rw [Bool.not_eq_true] at bare
    rw [bare]
    refine yielded_of_nested .selectNested (by decide) (inVisitor _ ?_)
    rw [positionedRefs_of_not_bare bare]
    exact mem_positioned _ listed

theorem yielded_join {join : JoinSpec} (member : join ∈ scope.joins) {ref : String}
    (listed : ref ∈ joinRefs join) : Yielded scope ⟨false, ref⟩ := by
  obtain ⟨found, inJoin, rfl⟩ := List.mem_map.mp listed
  have inVisitor : found ∈ iterColumnRefs scope := by
    have inJoins := List.mem_flatMap.mpr ⟨join, member, inJoin⟩
    simp only [iterColumnRefs, List.mem_append]
    tauto
  refine yielded_of_nested found.position ?_ inVisitor
  simp only [joinColumnRefs, List.mem_append, List.mem_map] at inJoin
  rcases inJoin with (⟨_, _, rfl⟩ | ⟨_, _, rfl⟩) | ⟨_, _, rfl⟩
  · exact fun same => RefPosition.noConfusion same
  · exact fun same => RefPosition.noConfusion same
  · exact fun same => RefPosition.noConfusion same

theorem yielded_where {ref : String} (listed : ref ∈ optionColumnRefs scope.where_) :
    Yielded scope ⟨false, ref⟩ := by
  refine yielded_of_nested .where_ (by decide) ?_
  have positioned := mem_positioned .where_ listed
  simp only [iterColumnRefs, List.mem_append]
  tauto

theorem yielded_groupBy {ref : String} (listed : ref ∈ scope.groupBy.filter hasDot) :
    Yielded scope ⟨false, ref⟩ := by
  refine yielded_of_nested .groupBy (by decide) ?_
  have positioned := mem_positioned .groupBy listed
  simp only [iterColumnRefs, List.mem_append]
  tauto

theorem yielded_having {ref : String} (listed : ref ∈ optionColumnRefs scope.having) :
    Yielded scope ⟨false, ref⟩ := by
  refine yielded_of_nested .having (by decide) ?_
  have positioned := mem_positioned .having listed
  simp only [iterColumnRefs, List.mem_append]
  tauto

theorem yielded_tail {ref : String} (listed : ref ∈ tailRefs scope) :
    Yielded scope ⟨false, ref⟩ := by
  rcases List.mem_append.mp listed with inOrder | inTopN
  · refine yielded_of_nested .orderBy (by decide) ?_
    have positioned := mem_positioned .orderBy inOrder
    simp only [iterColumnRefs, List.mem_append]
    tauto
  · obtain ⟨spec, present, inSpec⟩ := List.mem_flatMap.mp inTopN
    have inVisitor : ∀ found, found ∈ topNColumnRefs spec → found ∈ iterColumnRefs scope := by
      intro found inRefs
      have inClause := List.mem_flatMap.mpr ⟨spec, present, inRefs⟩
      simp only [iterColumnRefs, List.mem_append]
      tauto
    rcases List.mem_append.mp inSpec with partition | order
    · exact yielded_of_nested .topNPartition (by decide)
        (inVisitor _ (List.mem_append_left _ (mem_positioned _ partition)))
    · exact yielded_of_nested .topNOrder (by decide)
        (inVisitor _ (List.mem_append_right _ (mem_positioned _ order)))

end Visitor

/-- A resolved reference among the atoms of a clause is one of the clause's. -/
theorem Mentions.ref_mem {tables : Tables} {refs : List String} {aliasMap : AliasMap}
    {subqueries : List (ScopeStep × Gate Statement)} {atom : SqlAtom} {ref : String}
    (mentioned : Mentions tables refs aliasMap subqueries atom) (resolved : atom.ref? = some ref) :
    ref ∈ refs := by
  cases mentioned with
  | column member _ =>
      cases resolved
      exact member
  | output _ inTarget =>
      rw [SqlExpr.atoms, List.mem_map] at inTarget
      obtain ⟨original, _, rfl⟩ := inTarget
      cases original <;> cases resolved
  | subquery _ => cases resolved

theorem mem_resolutionsOf {bare : Bool} {atoms : List SqlAtom} {resolution : Resolution}
    (member : resolution ∈ resolutionsOf bare atoms) :
    ∃ atom ∈ atoms, atom.ref? = some resolution.ref ∧ resolution.bare = bare := by
  obtain ⟨ref, inRefs, rfl⟩ := List.mem_map.mp member
  obtain ⟨atom, inAtoms, resolved⟩ := List.mem_filterMap.mp inRefs
  exact ⟨atom, inAtoms, resolved, rfl⟩

/-- The visitor yields every reference resolved for a scope's SELECT. -/
theorem BodyStages.resolutions_yielded {context : CompileContext} {objects : CteObjects}
    {path : ScopePath} {query : StructuredQuery} {scopeTables : Tables}
    {subqueries : List (ScopeStep × Gate Statement)} {body : ScopeBody}
    (stages : BodyStages context objects path query scopeTables subqueries body)
    (valid : query.Valid) {resolution : Resolution}
    (member : resolution ∈ body.select.resolutions) : Yielded query resolution := by
  obtain ⟨bare, ref⟩ := resolution
  simp only [Select.resolutions, List.mem_append, List.mem_flatMap] at member
  rcases member with (((⟨column, inColumns, resolved⟩ | ⟨join, inJoins, resolved⟩) |
    ⟨condition, inWhere, resolved⟩) | ⟨expr, inGroup, resolved⟩) | ⟨condition, inHaving, resolved⟩
  · obtain ⟨atom, inAtoms, isRef, rfl⟩ := mem_resolutionsOf resolved
    obtain ⟨item, inSelect, isBare, mentions⟩ := stages.column_mentions valid inColumns
    rw [isBare]
    exact yielded_selectItem inSelect ((mentions atom inAtoms).ref_mem isRef)
  · obtain ⟨atom, inAtoms, isRef, rfl⟩ := mem_resolutionsOf resolved
    obtain ⟨spec, inSpecs, mentions⟩ := stages.join_mentions valid inJoins
    exact yielded_join inSpecs ((mentions atom inAtoms).ref_mem isRef)
  · obtain ⟨atom, inAtoms, isRef, rfl⟩ := mem_resolutionsOf resolved
    rcases stages.where_mentions valid inWhere with ⟨_, _, _, _, _, _, rfl⟩ | mentions
    · rw [SqlCondition.atoms, List.mem_singleton] at inAtoms
      rw [inAtoms] at isRef
      cases isRef
    · exact yielded_where ((mentions atom inAtoms).ref_mem isRef)
  · obtain ⟨atom, inAtoms, isRef, rfl⟩ := mem_resolutionsOf resolved
    exact yielded_groupBy ((stages.groupBy_mentions inGroup atom inAtoms).ref_mem isRef)
  · obtain ⟨atom, inAtoms, isRef, rfl⟩ := mem_resolutionsOf resolved
    exact yielded_having ((stages.having_mentions valid inHaving atom inAtoms).ref_mem isRef)

/-- An adapter that supports every method. -/
def permissiveAdapter : DialectAdapter := fun _ _ => .ok ()

/-- `SELECT o.state, SUM(o.total) AS total FROM Orders o JOIN Customers c ON
o.customer_id = c.id WHERE c.name = 'Ada' GROUP BY o.state ORDER BY o.state`. -/
def totalsByState : StructuredQuery where
  fromTable := "Orders"
  fromAlias := some "o"
  select := [.bare "o.state", .aggregate .sum none (some (.column "o.total")) false (some "total")]
  joins := [{ table := "Customers", alias_ := some "c", on := some ("o.customer_id", "c.id") }]
  where_ := some (.predicate { col := some "c.name", op := .eq, value := .str "Ada" })
  groupBy := ["o.state"]
  orderBy := [{ col := "o.state" }]

end QueryGate
