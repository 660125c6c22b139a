import QueryGate.Validation.Binding

/-! # One table behind every spelling of a name

A scope's tables hold an entry for each spelling its references use. The validator looks a
spelling up exactly, the compiler takes the first entry that matches caselessly; both find
the same columns.
-/

namespace QueryGate

open Foundation

/-- Names that match caselessly are bound to the same columns. -/
def Caseless (tables : Tables) : Prop :=
  ∀ first ∈ tables, ∀ second ∈ tables, casefold first.1 = casefold second.1 →
    first.2.columns = second.2.columns

section Binding

variable {path : ScopePath} {query : StructuredQuery} {blocks outer : Tables}
  {tableConnection : TableConnections} {connectionId : String}

/-- The columns behind a name, once its table is reflected. -/
def columnsBehind (connectionId : String) (query : StructuredQuery)
    (tableConnection : TableConnections) (blocks outer : Tables)
    (physical : List ((String × String) × FromObj)) (name : String) : Option (List ColumnDef) :=
  match tableByNameOrNone outer name with
  | some object => some object.columns
  | none =>
      match dictGet (effectiveNameMap query) (casefold name) with
      | none => none
      | some physicalName =>
          match dictGet blocks (casefold physicalName) with
          | some source => some source.columns
          | none =>
              (dictGet physical
                (tableConnectionId tableConnection name connectionId, casefold physicalName)).map
                FromObj.columns

theorem columnsBehind_congr {physical : List ((String × String) × FromObj)} {first second : String}
    (same : casefold first = casefold second) :
    columnsBehind connectionId query tableConnection blocks outer physical first =
      columnsBehind connectionId query tableConnection blocks outer physical second := by
  unfold columnsBehind tableConnectionId
  rw [tableByNameOrNone_congr same, same]

section Behind

variable {physical more : List ((String × String) × FromObj)} {name physicalName : String}

theorem columnsBehind_outer {object : FromObj} (found : tableByNameOrNone outer name = some object) :
    columnsBehind connectionId query tableConnection blocks outer physical name =
      some object.columns := by
  rw [columnsBehind, found]

theorem columnsBehind_undeclared (absent : tableByNameOrNone outer name = none)
    (undeclared : dictGet (effectiveNameMap query) (casefold name) = none) :
    columnsBehind connectionId query tableConnection blocks outer physical name = none := by
  rw [columnsBehind, absent]
  dsimp only
  rw [undeclared]

theorem columnsBehind_block {source : FromObj} (absent : tableByNameOrNone outer name = none)
    (declared : dictGet (effectiveNameMap query) (casefold name) = some physicalName)
    (found : dictGet blocks (casefold physicalName) = some source) :
    columnsBehind connectionId query tableConnection blocks outer physical name =
      some source.columns := by
  rw [columnsBehind, absent]
  dsimp only
  rw [declared]
  dsimp only
  rw [found]

theorem columnsBehind_reflected (absent : tableByNameOrNone outer name = none)
    (declared : dictGet (effectiveNameMap query) (casefold name) = some physicalName)
    (notBlock : dictGet blocks (casefold physicalName) = none) :
    columnsBehind connectionId query tableConnection blocks outer physical name =
      (dictGet physical
        (tableConnectionId tableConnection name connectionId, casefold physicalName)).map
        FromObj.columns := by
  rw [columnsBehind, absent]
  dsimp only
  rw [declared]
  dsimp only
  rw [notBlock]

/-- Reflecting another table changes nothing behind the names known so far. -/
theorem columnsBehind_append {columns : List ColumnDef}
    (known : columnsBehind connectionId query tableConnection blocks outer physical name =
      some columns) :
    columnsBehind connectionId query tableConnection blocks outer (physical ++ more) name =
      some columns := by
  cases inOuter : tableByNameOrNone outer name with
  | some object =>
      rw [columnsBehind_outer inOuter] at known ⊢
      exact known
  | none =>
      cases declared : dictGet (effectiveNameMap query) (casefold name) with
      | none =>
          rw [columnsBehind_undeclared inOuter declared] at known
          cases known
      | some physicalName =>
          cases inBlocks : dictGet blocks (casefold physicalName) with
          | some source =>
              rw [columnsBehind_block inOuter declared inBlocks] at known ⊢
              exact known
          | none =>
              rw [columnsBehind_reflected inOuter declared inBlocks] at known ⊢
              obtain ⟨source, found, same⟩ := Option.map_eq_some_iff.mp known
              rw [dictGet_append, found, Option.some_or, Option.map_some, same]

end Behind

theorem columns_bindSource (path : ScopePath) (source : FromObj) (physicalKey name : String) :
    (bindSource path source physicalKey name).columns = source.columns := by
  unfold bindSource
  split
  · rfl
  · rfl

/-- One name is bound to the columns behind it. -/
theorem bindName_columns {env : SchemaEnvironment} {state next : BindState} {name : String}
    (done : bindName env path connectionId query tableConnection blocks outer state name = .ok next) :
    ∃ object more, next.tables = state.tables ++ [(name, object)] ∧
      next.physical = state.physical ++ more ∧
      columnsBehind connectionId query tableConnection blocks outer next.physical name =
        some object.columns := by
  unfold bindName at done
  split at done
  · rename_i object found
    cases done
    exact ⟨object, [], rfl, (List.append_nil _).symm, columnsBehind_outer found⟩
  · rename_i absent
    split at done
    · cases done
    · rename_i physicalName declared
      dsimp only at done
      split at done
      · rename_i source found
        cases done
        refine ⟨_, [], rfl, (List.append_nil _).symm, ?_⟩
        rw [columnsBehind_block absent declared found, columns_bindSource]
      · rename_i notBlock
        split at done
        · rename_i source found
          cases done
          refine ⟨_, [], rfl, (List.append_nil _).symm, ?_⟩
          dsimp only
          rw [columnsBehind_reflected absent declared notBlock, found, columns_bindSource,
            Option.map_some]
        · rename_i unseen
          simp only [bind_eq_ok_iff] at done
          obtain ⟨_, _, schema, _, returned⟩ := done
          cases returned
          refine ⟨_, _, rfl, rfl, ?_⟩
          dsimp only
          rw [columnsBehind_reflected absent declared notBlock, dictGet_append, unseen,
            Option.none_or, dictGet, if_pos rfl, columns_bindSource, Option.map_some]

/-- A whole run binds every name to the columns behind it. -/
theorem bindNames_columns {env : SchemaEnvironment} {names : List String} :
    ∀ {state final : BindState},
      bindNames env path connectionId query tableConnection blocks outer state names = .ok final →
      (∀ entry ∈ state.tables, columnsBehind connectionId query tableConnection blocks outer
        state.physical entry.1 = some entry.2.columns) →
      ∀ entry ∈ final.tables, columnsBehind connectionId query tableConnection blocks outer
        final.physical entry.1 = some entry.2.columns := by
  induction names with
  | nil =>
      intro state final done known
      cases done
      exact known
  | cons name rest ih =>
      intro state final done known
      rw [bindNames, bind_eq_ok_iff] at done
      obtain ⟨next, nameDone, restDone⟩ := done
      obtain ⟨object, more, tables, physical, bound⟩ := bindName_columns nameDone
      refine ih restDone fun entry member => ?_
      rw [tables, List.mem_append, List.mem_singleton] at member
      rcases member with old | rfl
      · rw [physical]
        exact columnsBehind_append (known entry old)
      · exact bound

end Binding

theorem caseless_of_reflectScope {context : SchemaContext} {path : ScopePath}
    {query : StructuredQuery} {blocks outer tables : Tables}
    (done : reflectScope context path query blocks outer = .ok tables) : Caseless tables := by
  simp only [reflectScope, reflectAndValidateScope, bind_eq_ok_iff] at done
  obtain ⟨_, _, _, _, needed, _, _, _, final, bound, _, _, returned⟩ := done
  cases returned
  have behind := bindNames_columns bound fun entry absurd => by cases absurd
  intro first inFirst second inSecond same
  have known := behind first inFirst
  rw [columnsBehind_congr same, behind second inSecond] at known
  exact (Option.some.inj known).symm

theorem resolveColumn_congr {first second : FromObj} {columnName : String} {column : ColumnDef}
    (same : first.columns = second.columns) (found : resolveColumn first columnName = .ok column) :
    resolveColumn second columnName = .ok column := by
  unfold resolveColumn at found ⊢
  rw [← same]
  split at found
  · exact found
  · cases found

/-- What an exact lookup finds, the caseless one finds with the same columns. -/
theorem Caseless.tableByName {tables : Tables} (caseless : Caseless tables) {name : String}
    {object : FromObj} (found : tableAt tables name = .ok object) :
    ∃ first, tableByNameOrNone tables name = some first ∧ first.columns = object.columns := by
  unfold tableAt at found
  split at found
  · rename_i bound at_
    cases found
    have member := dictGet_eq_some_mem at_
    obtain ⟨first, matched⟩ := tableByNameOrNone_of_mem (List.mem_map_of_mem member) rfl
    obtain ⟨entry, inTables, same, rfl⟩ := tableByNameOrNone_eq_some matched
    exact ⟨entry.2, matched, caseless _ inTables _ member same⟩
  · cases found

end QueryGate
