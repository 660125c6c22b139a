import QueryGate.Validation.Reflection

/-! # Name binding

What a name of a scope is bound to. `ScopeBinding` is the specification of
`reflectAndValidateScope`: every needed name is bound, to the outer object when
the scope was handed one for that name and to its own source otherwise.
`StandsFor` reads the same off the query alone, following the names a `correlate`
opens up the scope tree, and `Reflection.standsFor` connects the two.
-/

namespace QueryGate

open Foundation

section Lookup

variable {tables : Tables} {name : String} {object : FromObj}

theorem tableByNameOrNone_congr {first second : String} (same : casefold first = casefold second) :
    tableByNameOrNone tables first = tableByNameOrNone tables second := by
  simp only [tableByNameOrNone, same]

theorem tableByNameOrNone_eq_some (found : tableByNameOrNone tables name = some object) :
    ∃ entry ∈ tables, casefold entry.1 = casefold name ∧ entry.2 = object := by
  obtain ⟨entry, first, rfl⟩ := Option.map_eq_some_iff.mp found
  have matched := List.find?_some first
  exact ⟨entry, List.mem_of_find?_eq_some first, eq_of_beq matched, rfl⟩

theorem tableByNameOrNone_isSome_iff :
    (tableByNameOrNone tables name).isSome = true ↔
      casefold name ∈ (dictKeys tables).map casefold := by
  rw [tableByNameOrNone, Option.isSome_map, List.find?_isSome, dictKeys, List.map_map,
    List.mem_map]
  simp only [beq_iff_eq, Function.comp_apply]

theorem tableByNameOrNone_of_mem {key : String} (member : key ∈ dictKeys tables)
    (same : casefold key = casefold name) : ∃ found, tableByNameOrNone tables name = some found := by
  refine Option.isSome_iff_exists.mp (tableByNameOrNone_isSome_iff.mpr ?_)
  rw [← same]
  exact List.mem_map_of_mem member

theorem tableByName_eq_ok_iff :
    tableByName tables name = .ok object ↔ tableByNameOrNone tables name = some object := by
  unfold tableByName
  cases tableByNameOrNone tables name with
  | none => simp
  | some found => simp

end Lookup

section Names

variable {path : ScopePath} {query : StructuredQuery} {blocks outer : Tables}

/-- What a name is bound to: the outer object when there is one, else a WITH block
or a reflected table, under the name. -/
inductive BoundName (path : ScopePath) (query : StructuredQuery) (blocks outer : Tables)
    (name : String) : FromObj → Prop where
  | outer {object : FromObj} (found : tableByNameOrNone outer name = some object) :
      BoundName path query blocks outer name object
  | block {physical : String} {source : FromObj}
      (notOuter : tableByNameOrNone outer name = none)
      (declared : dictGet (effectiveNameMap query) (casefold name) = some physical)
      (found : dictGet blocks (casefold physical) = some source) :
      BoundName path query blocks outer name (bindSource path source (casefold physical) name)
  | table {physical connection spelling : String} {schema : TableSchema}
      (notOuter : tableByNameOrNone outer name = none)
      (declared : dictGet (effectiveNameMap query) (casefold name) = some physical)
      (notBlock : dictGet blocks (casefold physical) = none)
      (same : casefold spelling = casefold physical) :
      BoundName path query blocks outer name
        (bindSource path (.table connection spelling schema) (casefold physical) name)

/-- The reflected tables kept while binding are stored under their own names. -/
def BindState.Stored (state : BindState) : Prop :=
  ∀ key source, dictGet state.physical key = some source →
    ∃ connection spelling schema, source = .table connection spelling schema ∧
      key = (connection, casefold spelling)

theorem dictGet_append {κ α : Type} [DecidableEq κ] (first second : List (κ × α)) (key : κ) :
    dictGet (first ++ second) key = (dictGet first key).or (dictGet second key) := by
  induction first with
  | nil => rfl
  | cons entry rest ih =>
      rw [List.cons_append, dictGet, dictGet, ih]
      split
      · rfl
      · rfl

/-- One name: it is bound as specified, and nothing else changes. -/
theorem bindName_bound {env : SchemaEnvironment} {connectionId : String}
    {tableConnection : TableConnections} {state next : BindState} {name : String}
    (done : bindName env path connectionId query tableConnection blocks outer state name =
      .ok next) (stored : state.Stored) :
    next.Stored ∧ ∃ object, next.tables = state.tables ++ [(name, object)] ∧
      BoundName path query blocks outer name object := by
  unfold bindName at done
  split at done
  · rename_i object found
    cases done
    exact ⟨stored, object, rfl, .outer found⟩
  · rename_i notOuter
    split at done
    · cases done
    · rename_i physical declared
      simp only at done
      split at done
      · rename_i source found
        cases done
        exact ⟨stored, _, rfl, .block notOuter declared found⟩
      · rename_i notBlock
        split at done
        · rename_i source found
          cases done
          obtain ⟨connection, spelling, schema, rfl, same⟩ := stored _ _ found
          injection same with _ sameName
          exact ⟨stored, _, rfl, .table notOuter declared notBlock sameName.symm⟩
        · simp only [bind_eq_ok_iff] at done
          obtain ⟨_, _, schema, _, returned⟩ := done
          cases returned
          refine ⟨fun key source found => ?_, _, rfl, .table notOuter declared notBlock rfl⟩
          rw [dictGet_append] at found
          cases old : dictGet state.physical key with
          | some kept =>
              rw [old, Option.some_or] at found
              cases found
              exact stored key source old
          | none =>
              rw [old, Option.none_or, dictGet] at found
              split at found
              · rename_i same
                cases found
                exact ⟨_, _, _, rfl, same.symm⟩
              · cases found

/-- A whole run: the names are bound in order, each as specified. -/
theorem bindNames_bound {env : SchemaEnvironment} {connectionId : String}
    {tableConnection : TableConnections} {names : List String} : ∀ {state final : BindState},
    bindNames env path connectionId query tableConnection blocks outer state names = .ok final →
    state.Stored → ∃ added, final.tables = state.tables ++ added ∧ dictKeys added = names ∧
      ∀ entry ∈ added, BoundName path query blocks outer entry.1 entry.2 := by
  induction names with
  | nil =>
      intro state final done _
      cases done
      exact ⟨[], (List.append_nil _).symm, rfl, fun entry absurd => by cases absurd⟩
  | cons name rest ih =>
      intro state final done stored
      rw [bindNames, bind_eq_ok_iff] at done
      obtain ⟨next, nameDone, restDone⟩ := done
      obtain ⟨nextStored, object, extended, bound⟩ := bindName_bound nameDone stored
      obtain ⟨added, same, keys, each⟩ := ih restDone nextStored
      refine ⟨(name, object) :: added, ?_, congrArg _ keys, fun entry member => ?_⟩
      · rw [same, extended, List.append_assoc, List.singleton_append]
      · rcases List.mem_cons.mp member with rfl | later
        · exact bound
        · exact each entry later

/-- The specification of `reflectAndValidateScope`. -/
structure ScopeBinding (path : ScopePath) (query : StructuredQuery) (blocks outer tables : Tables) :
    Prop where
  entries : ∀ entry ∈ tables, BoundName path query blocks outer entry.1 entry.2
  declared : ∀ name ∈ dictKeys tables, casefold name ∈ dictKeys (effectiveNameMap query) ∨
    casefold name ∈ (dictKeys outer).map casefold
  occurrences : ∀ name ∈ query.fromName :: query.joins.map JoinSpec.name, name ∈ dictKeys tables
  refs : ∀ ref ∈ iterColumnRefs query, ∃ table column, parseColumnRef ref.ref = .ok (table, column) ∧
    table ∈ dictKeys tables
  columns : checkScopeColumns query tables = .ok ()

theorem scopeBinding_of_reflectScope {context : SchemaContext} {tables : Tables}
    (done : reflectScope context path query blocks outer = .ok tables) :
    ScopeBinding path query blocks outer tables := by
  simp only [reflectScope, reflectAndValidateScope, bind_eq_ok_iff] at done
  obtain ⟨_, _, _, _, needed, neededDone, _, checked, final, bound, _, columns, returned⟩ := done
  cases returned
  rw [invalid_eq_ok_iff, Bool.not_eq_false', List.isEmpty_iff, List.filter_eq_nil_iff] at checked
  obtain ⟨added, same, keys, each⟩ := bindNames_bound bound
    (fun key source absurd => by cases absurd)
  rw [List.nil_append] at same
  have inNeeded : ∀ name, name ∈ dictKeys final.tables ↔ name ∈ needed := by
    intro name
    rw [same, keys]
    exact (context.env.setOrder_perm path needed).mem_iff
  rw [neededNames, bind_eq_ok_iff] at neededDone
  obtain ⟨refTables, mapped, returned⟩ := neededDone
  cases returned
  refine ⟨fun entry member => each entry (same ▸ member), fun name member => ?_,
    fun name member => ?_, fun ref member => ?_, columns⟩
  · have listed := checked name ((inNeeded name).mp member)
    rw [Bool.not_eq_true, Bool.not_eq_false', List.contains_iff_mem, List.mem_append] at listed
    exact listed
  · rw [inNeeded, List.mem_dedup]
    rcases List.mem_cons.mp member with rfl | inJoins
    · exact List.mem_cons_self ..
    · exact List.mem_cons_of_mem _ (List.mem_append_left _ (List.mem_append_right _ inJoins))
  · obtain ⟨table, inTables, parsed⟩ := mapAll_image mapped member
    rw [bind_eq_ok_iff] at parsed
    obtain ⟨⟨parsedTable, column⟩, refParsed, returned⟩ := parsed
    cases returned
    refine ⟨table, column, refParsed, ?_⟩
    rw [inNeeded, List.mem_dedup]
    exact List.mem_cons_of_mem _ (List.mem_append_right _ inTables)

end Names

section Outer

/-- A reference as case-folded table and column. -/
def foldRef (ref : String) : Option (String × String) :=
  match parseColumnRef ref with
  | .ok halves => some (casefold halves.1, casefold halves.2)
  | .error _ => none

theorem foldRef_of_parsed {ref table column : String}
    (parsed : parseColumnRef ref = .ok (table, column)) :
    foldRef ref = some (casefold table, casefold column) := by
  rw [foldRef, parsed]

/-- The outer columns a subquery declares, case-folded. -/
def correlatedColumns (query : StructuredQuery) : List (String × String) :=
  query.correlate.filterMap foldRef

/-- A name of an outer table that the subquery's `correlate` opens. -/
def opensName (query : StructuredQuery) (name : String) : Bool :=
  (correlatedColumns query).any fun column => column.1 == casefold name

theorem opensName_iff {query : StructuredQuery} {name : String} :
    opensName query name = true ↔ ∃ ref ∈ query.correlate, ∃ table column,
      parseColumnRef ref = .ok (table, column) ∧ casefold table = casefold name := by
  rw [opensName, List.any_eq_true]
  constructor
  · rintro ⟨column, member, same⟩
    obtain ⟨ref, inCorrelate, folded⟩ := List.mem_filterMap.mp member
    unfold foldRef at folded
    split at folded
    · rename_i halves parsed
      cases folded
      exact ⟨ref, inCorrelate, halves.1, halves.2, parsed, eq_of_beq same⟩
    · cases folded
  · rintro ⟨ref, inCorrelate, table, column, parsed, same⟩
    exact ⟨_, List.mem_filterMap.mpr ⟨ref, inCorrelate, foldRef_of_parsed parsed⟩,
      beq_iff_eq.mpr same⟩

/-- The names a scope declares itself, case-folded. -/
def ownNames (query : StructuredQuery) : List String :=
  dictKeys (effectiveNameMap query)

variable {scope : StructuredQuery} {tables : Tables}

theorem makeVisible_eq_ok {visible next : Tables} {ref : String}
    (done : makeVisible scope tables visible ref = .ok next) :
    ∃ table column object, parseColumnRef ref = .ok (table, column) ∧
      casefold table ∈ ownNames scope ∧ tableByNameOrNone tables table = some object ∧
      next = dictSet visible table object := by
  rw [makeVisible, bind_eq_ok_iff] at done
  obtain ⟨⟨table, column⟩, parsed, done⟩ := done
  simp only at done
  split at done
  · cases done
  · rename_i object found
    rw [bind_eq_ok_iff] at done
    obtain ⟨_, _, returned⟩ := done
    cases returned
    rw [Option.filter_eq_some_iff] at found
    obtain ⟨bound, own⟩ := found
    rw [List.contains_iff_mem, List.mem_map] at own
    obtain ⟨entry, member, same⟩ := own
    -- The keys of the name map are case-folded already.
    have folded : casefold entry.1 = entry.1 := by
      have key : entry.1 ∈ dictKeys (effectiveNameMap scope) := List.mem_map_of_mem member
      rw [effectiveNameMap, mem_dictKeys_dictOf, namePairs, List.map_map, List.mem_map] at key
      obtain ⟨occurrence, _, key⟩ := key
      rw [← key]
      exact casefold_casefold _
    refine ⟨table, column, object, parsed, ?_, bound, rfl⟩
    rw [ownNames, ← same, folded]
    exact List.mem_map_of_mem member

/-- The outer tables a list of references makes visible: the enclosing scope's own
objects, under the names the references use. -/
theorem visibleTables_entries {refs : List String} : ∀ {visible final : Tables},
    visibleTables scope tables visible refs = .ok final →
    (∀ entry ∈ visible, tableByNameOrNone tables entry.1 = some entry.2) →
    (∀ entry ∈ final, tableByNameOrNone tables entry.1 = some entry.2) ∧
      ∀ key, key ∈ dictKeys final ↔ key ∈ dictKeys visible ∨
        ∃ ref ∈ refs, ∃ column, parseColumnRef ref = .ok (key, column) := by
  induction refs with
  | nil =>
      intro visible final done known
      cases done
      exact ⟨known, fun key => by simp⟩
  | cons ref rest ih =>
      intro visible final done known
      rw [visibleTables, bind_eq_ok_iff] at done
      obtain ⟨next, made, done⟩ := done
      obtain ⟨table, column, object, parsed, _, bound, rfl⟩ := makeVisible_eq_ok made
      obtain ⟨each, keys⟩ := ih done fun entry member => by
        rcases mem_of_mem_dictSet member with old | rfl
        · exact known entry old
        · exact bound
      refine ⟨each, fun key => ?_⟩
      rw [keys key, ← dictGet_isSome_iff, dictGet_dictSet]
      constructor
      · rintro (set | ⟨found, member, other⟩)
        · split at set
          · rename_i same
            cases same
            exact .inr ⟨ref, List.mem_cons_self .., column, parsed⟩
          · exact .inl (dictGet_isSome_iff.mp set)
        · exact .inr ⟨found, List.mem_cons_of_mem _ member, other⟩
      · rintro (old | ⟨found, member, other, otherParsed⟩)
        · refine .inl ?_
          split
          · rfl
          · exact dictGet_isSome_iff.mpr old
        · rcases List.mem_cons.mp member with rfl | later
          · rw [parsed] at otherParsed
            cases otherParsed
            exact .inl (by rw [if_pos rfl]; rfl)
          · exact .inr ⟨found, later, other, otherParsed⟩

/-- Every reference that was made visible names a table the scope owns. -/
theorem visibleTables_owned {refs : List String} : ∀ {visible final : Tables},
    visibleTables scope tables visible refs = .ok final → ∀ ref ∈ refs, ∃ table column,
      parseColumnRef ref = .ok (table, column) ∧ casefold table ∈ ownNames scope := by
  induction refs with
  | nil => exact fun _ ref absurd => by cases absurd
  | cons first rest ih =>
      intro visible final done ref member
      rw [visibleTables, bind_eq_ok_iff] at done
      obtain ⟨next, made, done⟩ := done
      rcases List.mem_cons.mp member with rfl | later
      · obtain ⟨table, column, _, parsed, own, _⟩ := makeVisible_eq_ok made
        exact ⟨table, column, parsed, own⟩
      · exact ih done ref later

/-- The step leads to an IN, scalar or EXISTS subquery. -/
def ScopeStep.isSubquery : ScopeStep → Bool
  | .value _ | .existence _ => true
  | .root | .cte _ | .arm _ => false

/-- A scope at this path is handed the outer tables it declares. -/
def receivesOuter (path : ScopePath) : Bool :=
  path.getLast?.any ScopeStep.isSubquery && !isWithBody path.dropLast

@[simp] theorem receivesOuter_append (path : ScopePath) (step : ScopeStep) :
    receivesOuter (path ++ [step]) = (step.isSubquery && !isWithBody path) := by
  simp [receivesOuter]

/-- A name of the scope at a path that stands for an outer table: its `correlate`
opens it, whether or not the scope declares the name too. -/
def opensOuter (path : ScopePath) (query : StructuredQuery) (name : String) : Bool :=
  receivesOuter path && opensName query name

theorem handedTables_eq (path : ScopePath) (step : ScopeStep) (nested : StructuredQuery) :
    handedTables path scope tables (scopeTree step nested) =
      if receivesOuter (path ++ [step]) then visibleTables scope tables [] nested.correlate
      else .ok [] := by
  rw [handedTables, receivesOuter_append, correlatedFor, scopeTree_step, scopeTree_scope]
  cases isWithBody path <;> cases step <;> rfl

/-- The outer tables a child was handed answer as the enclosing scope's own tables
do, for the names its `correlate` opens. -/
theorem handedTables_lookup {path : ScopePath} {step : ScopeStep} {nested : StructuredQuery}
    {handed : Tables} (received : handedTables path scope tables (scopeTree step nested) = .ok handed)
    (name : String) :
    tableByNameOrNone handed name =
      if opensOuter (path ++ [step]) nested name then tableByNameOrNone tables name else none := by
  rw [handedTables_eq] at received
  by_cases receives : receivesOuter (path ++ [step]) = true
  · rw [if_pos receives] at received
    obtain ⟨each, keys⟩ := visibleTables_entries received fun entry absurd => by cases absurd
    rw [opensOuter, receives, Bool.true_and]
    by_cases opens : opensName nested name = true
    · rw [if_pos opens]
      obtain ⟨ref, member, table, column, parsed, same⟩ := opensName_iff.mp opens
      obtain ⟨object, found⟩ := tableByNameOrNone_of_mem
        ((keys table).mpr (.inr ⟨ref, member, column, parsed⟩)) same
      obtain ⟨entry, inHanded, sameName, rfl⟩ := tableByNameOrNone_eq_some found
      rw [found, ← each entry inHanded]
      exact tableByNameOrNone_congr sameName
    · rw [if_neg opens]
      cases found : tableByNameOrNone handed name with
      | none => rfl
      | some object =>
          obtain ⟨entry, inHanded, sameName, _⟩ := tableByNameOrNone_eq_some found
          rcases (keys entry.1).mp (List.mem_map_of_mem inHanded) with absurd | opened
          · cases absurd
          · obtain ⟨ref, member, column, parsed⟩ := opened
            exact absurd (opensName_iff.mpr ⟨ref, member, entry.1, column, parsed, sameName⟩) opens
  · rw [if_neg receives] at received
    cases received
    rw [opensOuter, Bool.eq_false_iff.mpr receives, Bool.false_and, if_neg Bool.false_ne_true]
    rfl

/-- What a child opens is bound in the enclosing scope, which owns the name. -/
theorem handedTables_opened {path : ScopePath} {step : ScopeStep} {nested : StructuredQuery}
    {handed : Tables} (received : handedTables path scope tables (scopeTree step nested) = .ok handed)
    {name : String} (opened : opensOuter (path ++ [step]) nested name = true) :
    casefold name ∈ ownNames scope ∧ ∃ object, tableByNameOrNone handed name = some object := by
  rw [opensOuter, Bool.and_eq_true] at opened
  rw [handedTables_eq, if_pos opened.1] at received
  obtain ⟨ref, member, table, column, parsed, same⟩ := opensName_iff.mp opened.2
  obtain ⟨_, keys⟩ := visibleTables_entries received fun entry absurd => by cases absurd
  refine ⟨?_, tableByNameOrNone_of_mem ((keys table).mpr (.inr ⟨ref, member, column, parsed⟩)) same⟩
  obtain ⟨found, _, foundParsed, own⟩ := visibleTables_owned received ref member
  rw [parsed] at foundParsed
  cases foundParsed
  rw [← same]
  exact own

end Outer

section StandsFor

/-- The physical name a name of the scope at a path stands for, read off the query:
an opened name stands for what it stands for in the enclosing scope, which must
own it; any other name for the scope's own source. -/
inductive StandsFor (query : StructuredQuery) :
    ScopePath → StructuredQuery → (name physical : String) → Prop where
  | own {path : ScopePath} {scope : StructuredQuery} {name physical : String}
      (at_ : ScopeAt query path scope) (closed : opensOuter path scope name = false)
      (declared : dictGet (effectiveNameMap scope) (casefold name) = some physical) :
      StandsFor query path scope name physical
  | outer {path : ScopePath} {scope nested : StructuredQuery} {step : ScopeStep}
      {name physical : String} (member : (step, nested) ∈ childScopes scope)
      (opened : opensOuter (path ++ [step]) nested name = true)
      (owned : casefold name ∈ ownNames scope)
      (above : StandsFor query path scope name physical) :
      StandsFor query (path ++ [step]) nested name physical

variable {query : StructuredQuery} {path : ScopePath} {scope : StructuredQuery}
  {name physical : String}

theorem StandsFor.scopeAt (stands : StandsFor query path scope name physical) :
    ScopeAt query path scope := by
  induction stands with
  | own at_ _ _ => exact at_
  | outer member _ _ _ ih => exact ih.child member

/-- A name stands for one physical name. -/
theorem StandsFor.unique (stands : StandsFor query path scope name physical) :
    ∀ {other : String}, StandsFor query path scope name other → physical = other := by
  induction stands with
  | own _ closed declared =>
      intro other stands
      cases stands with
      | own _ _ same => exact Option.some.inj (declared.symm.trans same)
      | outer _ opened _ _ =>
          rw [closed] at opened
          cases opened
  | @outer path scope nested step name physical member opened owned above ih =>
      intro other stands
      generalize reached : path ++ [step] = full at stands
      cases stands with
      | own _ closed _ =>
          rw [← reached, opened] at closed
          cases closed
      | outer _ _ _ otherAbove =>
          have samePath := List.append_inj_left' reached rfl
          rw [← samePath] at otherAbove
          rw [← above.scopeAt.unique otherAbove.scopeAt] at otherAbove
          exact ih otherAbove

/-- A name stands for the same in every spelling. -/
theorem StandsFor.congr (stands : StandsFor query path scope name physical) :
    ∀ {other : String}, casefold name = casefold other →
      StandsFor query path scope other physical := by
  induction stands with
  | own at_ closed declared =>
      intro other same
      refine .own at_ ?_ (same ▸ declared)
      rw [← closed, opensOuter, opensOuter, opensName, opensName, same]
  | outer member opened owned _ ih =>
      intro other same
      refine .outer member ?_ (same ▸ owned) (ih same)
      rw [← opened, opensOuter, opensOuter, opensName, opensName, same]

/-- A name the scope does not open stands for its own source. -/
theorem StandsFor.physicalTable_eq (stands : StandsFor query path scope name physical)
    (closed : opensOuter path scope name = false) : physicalTable scope name = physical := by
  cases stands with
  | own _ _ declared =>
      rw [physicalTable, declared]
      rfl
  | outer _ opened _ _ =>
      rw [closed] at opened
      cases opened

/-- Some scope above declares the physical name as a source of its own. -/
theorem StandsFor.owner (stands : StandsFor query path scope name physical) :
    ∃ ownerPath owner, ScopeAt query ownerPath owner ∧
      dictGet (effectiveNameMap owner) (casefold name) = some physical := by
  induction stands with
  | own at_ _ declared => exact ⟨_, _, at_, declared⟩
  | outer _ _ _ _ ih => exact ih

/-- A scope that owns a source reads a WITH block only where the block is visible. -/
def OrderedBlocks (query : StructuredQuery) : Prop :=
  ∀ {path scope name physical}, ScopeAt query path scope →
    dictGet (effectiveNameMap scope) name = some physical →
    casefold physical ∈ declaredCteNames query → casefold physical ∈ visibleCteNames query path

/-- A validated table object of a physical name: the stand-in of a WITH block, or
the reflected table. -/
def Represents (query : StructuredQuery) (physical : String) (object : FromObj) : Prop :=
  (casefold physical ∈ declaredCteNames query ∧ ∃ name columns,
      object.element = .placeholder name columns ∧ casefold name = casefold physical) ∨
    (casefold physical ∉ declaredCteNames query ∧ ∃ connection spelling schema,
      object.element = .table connection spelling schema ∧ casefold spelling = casefold physical)

theorem element_bindSource (path : ScopePath) (source : FromObj) (physicalKey name : String) :
    (bindSource path source physicalKey name).element = source.element := by
  unfold bindSource
  split
  · rfl
  · rfl

/-- A name with no outer object is bound to the scope's own source. -/
theorem BoundName.own {blocks outer : Tables} {object : FromObj} {known : List String}
    (bound : BoundName path scope blocks outer name object)
    (notOuter : tableByNameOrNone outer name = none) (named : BlocksNamed .placeholder blocks known)
    (exact_ : ∀ physical, dictGet (effectiveNameMap scope) (casefold name) = some physical →
      (casefold physical ∈ known ↔ casefold physical ∈ declaredCteNames query)) :
    ∃ physical, dictGet (effectiveNameMap scope) (casefold name) = some physical ∧
      Represents query physical object := by
  cases bound with
  | outer found =>
      rw [notOuter] at found
      cases found
  | block _ declared found =>
      obtain ⟨block, columns, rfl, same⟩ := named.blocks _ _ found
      refine ⟨_, declared, .inl ⟨(exact_ _ declared).mp ((named.keys _).mp ?_), block, columns,
        element_bindSource .., same⟩⟩
      exact dictGet_isSome_iff.mp (by rw [found]; rfl)
  | table _ declared notBlock same =>
      refine ⟨_, declared, .inr ⟨fun isBlock => ?_, _, _, _, element_bindSource .., same⟩⟩
      exact dictGet_eq_none_iff.mp notBlock ((named.keys _).mpr ((exact_ _ declared).mpr isBlock))

/-- Nothing is opened in a scope that is not a subquery. -/
theorem opensOuter_root (scope : StructuredQuery) (name : String) :
    opensOuter [] scope name = false := rfl

theorem opensOuter_body (index : Nat) (scope : StructuredQuery) (name : String) :
    opensOuter [.cte index] scope name = false := rfl

variable {context : SchemaContext} {reflected : ReflectedQuery} {blocks outer tables : Tables}
  {object : FromObj}

theorem mem_declared_of_visible {key : String} (visible : key ∈ visibleCteNames query path) :
    key ∈ declaredCteNames query := by
  unfold visibleCteNames at visible
  split at visible
  · obtain ⟨spec, member, rfl⟩ := List.mem_map.mp visible
    exact List.mem_map_of_mem (List.mem_of_mem_take member)
  · exact visible

/-- A name the scope was handed no object for stands for the scope's own source. -/
theorem Reflection.standsFor_own
    (at_ : Reflection context query reflected path scope blocks outer tables)
    (named : BlocksNamed .placeholder reflected.cteTables (declaredCteNames query))
    (ordered : OrderedBlocks query) (closed : opensOuter path scope name = false)
    (bound : BoundName path scope blocks outer name object)
    (notOuter : tableByNameOrNone outer name = none) :
    ∃ physical, StandsFor query path scope name physical ∧ Represents query physical object := by
  have own : ∃ physical, dictGet (effectiveNameMap scope) (casefold name) = some physical ∧
      Represents query physical object := by
    cases at_ with
    | root _ _ => exact bound.own notOuter named fun _ _ => Iff.rfl
    | body declaredBody known _ _ =>
        refine bound.own notOuter known fun physical declared => ⟨mem_declared_of_visible, ?_⟩
        refine ordered (.of_cte declaredBody ?_) declared
        rw [scopeTree_eq]
        exact .here
    | child _ _ _ _ _ _ => exact bound.own notOuter named fun _ _ => Iff.rfl
  obtain ⟨physical, declared, represents⟩ := own
  exact ⟨physical, .own at_.scopeAt closed declared, represents⟩

/-- A lookup finds a name bound in some spelling. -/
theorem boundName_of_lookup (bound : reflectScope context path scope blocks outer = .ok tables)
    (found : tableByNameOrNone tables name = some object) :
    ∃ key, casefold key = casefold name ∧ BoundName path scope blocks outer key object := by
  obtain ⟨entry, member, same, rfl⟩ := tableByNameOrNone_eq_some found
  exact ⟨entry.1, same, (scopeBinding_of_reflectScope bound).entries entry member⟩

/-- The binding of a subquery: the enclosing scope handed it its outer tables. -/
theorem Reflection.subquery {step : ScopeStep} {nested : StructuredQuery} {inner : Tables}
    (at_ : Reflection context query reflected (path ++ [step]) nested blocks outer inner)
    (parentAt : ScopeAt query path scope) (subquery : step.isSubquery = true) :
    ∃ parentBlocks parentOuter tables,
      Reflection context query reflected path scope parentBlocks parentOuter tables ∧
      handedTables path scope tables (scopeTree step nested) = .ok outer := by
  generalize reached : path ++ [step] = full at at_
  cases at_ with
  | root _ _ => exact absurd reached (List.append_ne_nil_of_right_ne_nil _ (List.cons_ne_nil _ _))
  | body _ _ _ _ =>
      have isBody := isWithBody_append path step
      rw [reached] at isBody
      cases step <;> simp [ScopeStep.isSubquery, ScopeStep.isCte, isWithBody] at subquery isBody
  | child parent _ _ received _ _ =>
      obtain ⟨samePath, sameStep⟩ := List.append_inj' reached rfl
      cases samePath
      cases sameStep
      have sameScope := parent.scopeAt.unique parentAt
      rw [sameScope] at parent received
      exact ⟨_, _, _, parent, received⟩

/-- What validation binds a name to is what the name stands for. -/
theorem Reflection.standsFor
    (at_ : Reflection context query reflected path scope blocks outer tables)
    (named : BlocksNamed .placeholder reflected.cteTables (declaredCteNames query))
    (ordered : OrderedBlocks query) :
    ∀ {name : String} {object : FromObj}, tableByNameOrNone tables name = some object →
      ∃ physical, StandsFor query path scope name physical ∧ Represents query physical object := by
  induction at_ with
  | root bound recorded =>
      intro name object found
      obtain ⟨key, same, boundName⟩ := boundName_of_lookup bound found
      obtain ⟨physical, stands, represents⟩ := (Reflection.root bound recorded).standsFor_own
        named ordered (opensOuter_root _ _) boundName rfl
      exact ⟨physical, stands.congr same, represents⟩
  | body declared known bound recorded =>
      intro name object found
      obtain ⟨key, same, boundName⟩ := boundName_of_lookup bound found
      obtain ⟨physical, stands, represents⟩ :=
        (Reflection.body declared known bound recorded).standsFor_own named ordered
          (opensOuter_body _ _ _) boundName rfl
      exact ⟨physical, stands.congr same, represents⟩
  | child parent member notBody received bound recorded ih =>
      intro name object found
      obtain ⟨key, same, boundName⟩ := boundName_of_lookup bound found
      have lookup := handedTables_lookup received key
      cases opened : opensOuter (_ ++ [_]) _ key with
      | true =>
          obtain ⟨owned, outerObject, handed⟩ := handedTables_opened received opened
          have isOuter : outerObject = object := by
            cases boundName with
            | outer also => exact Option.some.inj (handed.symm.trans also)
            | block notOuter _ _ =>
                rw [handed] at notOuter
                cases notOuter
            | table notOuter _ _ _ =>
                rw [handed] at notOuter
                cases notOuter
          rw [opened, if_pos rfl, handed, isOuter] at lookup
          obtain ⟨physical, stands, represents⟩ := ih lookup.symm
          exact ⟨physical, .congr (.outer member opened owned stands) same, represents⟩
      | false =>
          rw [opened, if_neg Bool.false_ne_true] at lookup
          obtain ⟨physical, stands, represents⟩ :=
            (Reflection.child parent member notBody received bound recorded).standsFor_own named
              ordered opened boundName lookup
          exact ⟨physical, stands.congr same, represents⟩

end StandsFor

end QueryGate
