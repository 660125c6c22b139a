import QueryGate.Compiler.Resolution
import QueryGate.Validation.CaselessTables

/-! # Output names

The name validation predicts for a select item against the label the compiler gives its
column. Both take the alias where there is one; where there is none, one reads the reference
as written and the other the column it resolves to.
-/

namespace QueryGate

open Foundation

/-- The spelling of the column a reference resolves to. -/
def columnSpelling (tables : Tables) (ref : String) : Gate String := do
  let (_, column) ← resolveColumnRef tables ref
  pure column.name

/-- The default label of an item over one column. -/
def spelledLabel (tables : Tables) (default_ : String → String) (col : String) : Gate String := do
  let spelling ← columnSpelling tables col
  pure (default_ spelling)

/-- The label `_build_select_columns` gives a select item's column. -/
def itemLabel (tables : Tables) : SelectItem → Gate String
  | .bare ref => columnSpelling tables ref
  | .aggregate fn _ arg _ alias_ => aliasOr alias_ (aggregateDefaultName fn arg)
  | .dateBucket item =>
      aliasOr item.alias_ (spelledLabel tables
        (fun name => s!"bucket_{name}_{item.granularity.value}") item.col)
  | .stringAgg item =>
      aliasOr item.alias_ (spelledLabel tables (fun name => s!"string_agg_{name}") item.col)
  | .arrayAgg item =>
      aliasOr item.alias_ (spelledLabel tables (fun name => s!"array_agg_{name}") item.col)
  | .percentileCont item =>
      aliasOr item.alias_ (spelledLabel tables (fun name => s!"percentile_cont_{name}") item.col)
  | .scalarFunction call alias_ => aliasOr alias_ (scalarDefaultName call)
  | .case _ _ alias_ | .expression _ alias_ | .window _ alias_ => .ok alias_

/-- The keys under which `_build_select_columns` records a select item. -/
def itemKeys (item : SelectItem) (label : String) : List String :=
  match item with
  | .bare ref => [label, ref]
  | _ => [label]

section Labels

variable {context : CompileContext} {query : StructuredQuery} {tables : Tables}

theorem columnSpelling_eq_ok_iff {ref spelling : String} :
    columnSpelling tables ref = .ok spelling ↔
      ∃ object column, resolveColumnRef tables ref = .ok (object, column) ∧
        column.name = spelling := by
  rw [columnSpelling, bind_eq_ok_iff]
  constructor
  · rintro ⟨⟨object, column⟩, resolved, returned⟩
    injection returned with returned
    exact ⟨object, column, resolved, returned⟩
  · rintro ⟨object, column, resolved, rfl⟩
    exact ⟨(object, column), resolved, rfl⟩

theorem aliasOr_ok (alias_ : Option String) (default_ : String) :
    aliasOr alias_ (.ok default_) = .ok (orElseText alias_ default_) := by
  unfold aliasOr orElseText
  cases alias_ with
  | none => rfl
  | some name =>
      dsimp only
      split
      · rfl
      · rfl

/-- An item over one column is labelled by its alias or by the column's own spelling. -/
theorem adapterItem_label {method : AdapterMethod} {col : String} {alias_ : Option String}
    {default_ : String → String} {compiled : CompiledItem}
    (done : adapterItem context.adapter tables method col alias_ default_ = .ok compiled) :
    aliasOr alias_ (spelledLabel tables default_ col) = .ok compiled.1.name ∧
      compiled.2 = [(compiled.1.name, compiled.1.expr)] := by
  simp only [adapterItem, bind_eq_ok_iff] at done
  obtain ⟨⟨object, column⟩, resolved, expr, _, returned⟩ := done
  cases returned
  have spelled : spelledLabel tables default_ col = .ok (default_ column.name) := by
    rw [spelledLabel, columnSpelling_eq_ok_iff.mpr ⟨object, column, resolved, rfl⟩]
    rfl
  rw [spelled, aliasOr_ok]
  exact ⟨rfl, rfl⟩

/-- A compiled select item carries its label, under which it is recorded; a bare reference is
recorded as it is written too. -/
theorem compileSelectItem_label {item : SelectItem} {compiled : CompiledItem}
    (done : compileSelectItem context query tables item = .ok compiled) :
    itemLabel tables item = .ok compiled.1.name ∧
      compiled.2 = (itemKeys item compiled.1.name).map fun key => (key, compiled.1.expr) := by
  cases item with
  | bare ref =>
      simp only [compileSelectItem, bind_eq_ok_iff] at done
      obtain ⟨⟨object, column⟩, resolved, _, _, _, _, returned⟩ := done
      cases returned
      exact ⟨columnSpelling_eq_ok_iff.mpr ⟨object, column, resolved, rfl⟩, rfl⟩
  | aggregate fn col arg distinct alias_ =>
      simp only [compileSelectItem, bind_eq_ok_iff] at done
      obtain ⟨_, _, _, _, name, named, returned⟩ := done
      cases returned
      exact ⟨named, rfl⟩
  | dateBucket item =>
      rw [compileSelectItem] at done
      exact adapterItem_label done
  | stringAgg item =>
      rw [compileSelectItem] at done
      exact adapterItem_label done
  | arrayAgg item =>
      rw [compileSelectItem] at done
      exact adapterItem_label done
  | percentileCont item =>
      rw [compileSelectItem] at done
      exact adapterItem_label done
  | scalarFunction call alias_ =>
      simp only [compileSelectItem, bind_eq_ok_iff] at done
      obtain ⟨_, _, name, named, returned⟩ := done
      cases returned
      exact ⟨named, rfl⟩
  | case when_ else_ alias_ =>
      simp only [compileSelectItem, bind_eq_ok_iff] at done
      obtain ⟨_, _, returned⟩ := done
      cases returned
      exact ⟨rfl, rfl⟩
  | expression expression alias_ =>
      simp only [compileSelectItem, bind_eq_ok_iff] at done
      obtain ⟨_, _, returned⟩ := done
      cases returned
      exact ⟨rfl, rfl⟩
  | window call alias_ =>
      simp only [compileSelectItem, bind_eq_ok_iff] at done
      obtain ⟨_, _, returned⟩ := done
      cases returned
      exact ⟨rfl, rfl⟩

end Labels

/-- An item has no alias of its own; an empty one counts as none. -/
def unaliased (alias_ : Option String) : Bool :=
  orElseText alias_ "" == ""

/-- A reference reads a column of a WITH block. -/
def readsBlock (objects : CteObjects) (scope : StructuredQuery) (ref : String) : Bool :=
  match parseColumnRef ref with
  | .ok (table, _) => (blockOf objects scope table).isSome
  | .error _ => false

/-- A column read from a WITH block is spelled in the block as validation expects it to be. -/
def SpelledAsExpected (objects : CteObjects) (path : ScopePath) (scope : StructuredQuery)
    (tables : Tables) (ref : String) : Prop :=
  readsBlock objects scope ref = true →
    columnSpelling tables ref = columnSpelling (compiledTables objects path scope tables) ref

/-- A reference spells its column as the table does. -/
def WrittenAsReflected (tables : Tables) (ref : String) : Prop :=
  ∃ table column, parseColumnRef ref = .ok (table, column) ∧ columnSpelling tables ref = .ok column

/-- The condition under which a select item is named alike by both: an item that is named after
its column as written has to write it as the table does. -/
def NamedAlike (objects : CteObjects) (path : ScopePath) (scope : StructuredQuery)
    (tables : Tables) : SelectItem → Prop
  | .bare ref => SpelledAsExpected objects path scope tables ref
  | .dateBucket item =>
      unaliased item.alias_ = true → SpelledAsExpected objects path scope tables item.col
  | .stringAgg item =>
      unaliased item.alias_ = true →
        WrittenAsReflected (compiledTables objects path scope tables) item.col
  | .arrayAgg item =>
      unaliased item.alias_ = true →
        WrittenAsReflected (compiledTables objects path scope tables) item.col
  | .percentileCont item =>
      unaliased item.alias_ = true →
        WrittenAsReflected (compiledTables objects path scope tables) item.col
  | _ => True

section Agreement

variable {objects : CteObjects} {path : ScopePath} {scope : StructuredQuery} {tables : Tables}

/-- With an alias nothing else matters for the name. -/
theorem aliasOr_of_aliased {alias_ : Option String} (aliased : unaliased alias_ = false)
    (first second : Gate String) : aliasOr alias_ first = aliasOr alias_ second := by
  unfold unaliased orElseText at aliased
  unfold aliasOr
  cases alias_ with
  | none => cases aliased
  | some name =>
      dsimp only at aliased ⊢
      by_cases empty : name = ""
      · rw [if_pos empty] at aliased
        cases aliased
      · rw [if_neg empty, if_neg empty]

theorem aliasOr_of_unaliased {alias_ : Option String} (plain : unaliased alias_ = true)
    (default_ : Gate String) : aliasOr alias_ default_ = default_ := by
  unfold unaliased orElseText at plain
  unfold aliasOr
  cases alias_ with
  | none => rfl
  | some name =>
      dsimp only at plain ⊢
      by_cases empty : name = ""
      · rw [if_pos empty]
      · rw [if_neg empty, beq_iff_eq] at plain
        exact absurd plain empty

/-- Where an exact lookup succeeds, the caseless one spells the column alike. -/
theorem Caseless.columnSpelling (caseless : Caseless tables) {ref : String} {object : FromObj}
    {column : ColumnDef} (resolved : resolveRef tables ref = .ok (object, column)) :
    columnSpelling tables ref = .ok column.name := by
  simp only [resolveRef, bind_eq_ok_iff] at resolved
  obtain ⟨⟨table, columnName⟩, parsed, found, looked, def_, matched, returned⟩ := resolved
  cases returned
  obtain ⟨first, lookup, same⟩ := caseless.tableByName looked
  refine columnSpelling_eq_ok_iff.mpr ⟨first, column, ?_, rfl⟩
  simp only [resolveColumnRef, bind_eq_ok_iff]
  exact ⟨_, parsed, first, tableByName_eq_ok_iff.mpr lookup, column,
    resolveColumn_congr same.symm matched, rfl⟩

theorem tableByName_compiledTables {name : String} (kept : blockOf objects scope name = none) :
    tableByName (compiledTables objects path scope tables) name = tableByName tables name := by
  unfold tableByName
  cases found : tableByNameOrNone (compiledTables objects path scope tables) name with
  | some object => rw [compiledTables_kept found kept]
  | none =>
      cases bound : tableByNameOrNone tables name with
      | none => rfl
      | some object =>
          obtain ⟨other, absurd⟩ : ∃ other,
              tableByNameOrNone (compiledTables objects path scope tables) name = some other :=
            compiledTables_isSome bound
          rw [found] at absurd
          cases absurd

/-- A reference that reads no WITH block resolves in the compiled tables as in the validated
ones. -/
theorem resolveColumnRef_kept {ref : String} (kept : readsBlock objects scope ref = false) :
    resolveColumnRef (compiledTables objects path scope tables) ref =
      resolveColumnRef tables ref := by
  unfold readsBlock at kept
  unfold resolveColumnRef
  cases parsed : parseColumnRef ref with
  | error failure => rfl
  | ok halves =>
      rw [parsed] at kept
      obtain ⟨table, column⟩ := halves
      have notBlock : blockOf objects scope table = none := Option.not_isSome_iff_eq_none.mp
        (Bool.eq_false_iff.mp kept)
      dsimp only [bind, Except.bind]
      rw [tableByName_compiledTables notBlock]

/-- What a passing validation says of the references of a select item. -/
theorem resolveRef_of_validated (columns : checkScopeColumns scope tables = .ok ())
    {item : SelectItem} (member : item ∈ scope.select) {ref : String}
    (listed : ref ∈ selectItemColumnRefs item) :
    ∃ object column, resolveRef tables ref = .ok (object, column) := by
  simp only [checkScopeColumns, bind_eq_ok_iff] at columns
  obtain ⟨_, selected, _⟩ := columns
  have checked := checkAll_eq_ok_iff.mp selected item member
  rw [bind_eq_ok_iff] at checked
  obtain ⟨_, _, refs⟩ := checked
  have passes := checkAll_eq_ok_iff.mp refs ref listed
  rw [checkRef, bind_eq_ok_iff] at passes
  obtain ⟨⟨object, column⟩, resolved, _⟩ := passes
  exact ⟨object, column, resolved⟩

/-- A validated reference is spelled alike by both exactly if it reads no WITH block, or one
that spells the column as expected. -/
theorem spelledAlike_iff {ref spelling label : String}
    (validated : columnSpelling tables ref = .ok spelling)
    (compiled : columnSpelling (compiledTables objects path scope tables) ref = .ok label) :
    spelling = label ↔ SpelledAsExpected objects path scope tables ref := by
  rw [SpelledAsExpected, validated, compiled, Except.ok.injEq]
  constructor
  · exact fun same _ => same
  · intro expected
    cases reads : readsBlock objects scope ref with
    | true => exact expected reads
    | false =>
        rw [columnSpelling, resolveColumnRef_kept reads] at compiled
        rw [columnSpelling, compiled] at validated
        injection validated with same
        exact same.symm

/-- The default names over one column agree exactly if the reference spells it as the table
does. -/
theorem defaultNames_iff {what ref label : String} {default_ : String → String}
    (prefixed : ∀ name, default_ name = what ++ "_" ++ name)
    (compiled : spelledLabel tables default_ ref = .ok label) :
    columnOutputName what ref = .ok label ↔ WrittenAsReflected tables ref := by
  rw [spelledLabel, bind_eq_ok_iff] at compiled
  obtain ⟨spelling, spelled, returned⟩ := compiled
  injection returned with returned
  obtain ⟨object, column, resolved, _⟩ := columnSpelling_eq_ok_iff.mp spelled
  simp only [resolveColumnRef, bind_eq_ok_iff] at resolved
  obtain ⟨⟨table, written⟩, parsed, _⟩ := resolved
  have named : columnOutputName what ref = .ok (what ++ "_" ++ written) := by
    rw [columnOutputName, parsed]
    rfl
  rw [named, ← returned, prefixed, Except.ok.injEq]
  constructor
  · intro same
    refine ⟨table, written, parsed, ?_⟩
    rw [spelled, (String.append_right_inj _).mp same]
  · rintro ⟨_, column', parsed', spelled'⟩
    rw [parsed] at parsed'
    cases parsed'
    rw [spelled] at spelled'
    cases spelled'
    rfl

/-- No column is called `*`. -/
theorem ne_star_of_columnSpelling {ref spelling : String}
    (spelled : columnSpelling tables ref = .ok spelling) : ref ≠ "*" := by
  rintro rfl
  cases spelled

/-- **One item.** Validation predicts the label of a compiled select item exactly under
`NamedAlike`. -/
theorem selectItemOutputName_iff (columns : checkScopeColumns scope tables = .ok ())
    (caseless : Caseless tables) {item : SelectItem} (member : item ∈ scope.select) {label : String}
    (labelled : itemLabel (compiledTables objects path scope tables) item = .ok label) :
    selectItemOutputName item tables = .ok label ↔ NamedAlike objects path scope tables item := by
  -- An item that is named after its column as written, by its own alias if it has one.
  have written : ∀ {what col : String} {alias_ : Option String} {default_ : String → String},
      (∀ name, default_ name = what ++ "_" ++ name) →
      aliasOr alias_ (spelledLabel (compiledTables objects path scope tables) default_ col) =
        .ok label →
      (aliasOr alias_ (columnOutputName what col) = .ok label ↔
        (unaliased alias_ = true →
          WrittenAsReflected (compiledTables objects path scope tables) col)) := by
    intro what col alias_ default_ prefixed named
    cases plain : unaliased alias_ with
    | false =>
        rw [aliasOr_of_aliased plain _ (spelledLabel _ default_ col)]
        exact ⟨fun _ absurd => (nomatch absurd), fun _ => named⟩
    | true =>
        rw [aliasOr_of_unaliased plain] at named ⊢
        rw [defaultNames_iff prefixed named]
        exact ⟨fun same _ => same, fun same => same rfl⟩
  cases item with
  | bare ref =>
      obtain ⟨object, column, resolved⟩ :=
        resolveRef_of_validated columns member (List.mem_singleton.mpr rfl)
      have validated := caseless.columnSpelling resolved
      have named : selectItemOutputName (.bare ref) tables = .ok column.name := by
        rw [selectItemOutputName, resolved]
        rfl
      rw [NamedAlike, ← spelledAlike_iff validated labelled, named, Except.ok.injEq]
  | dateBucket item =>
      rw [itemLabel] at labelled
      rw [selectItemOutputName, dateBucketAlias, NamedAlike]
      cases plain : unaliased item.alias_ with
      | false =>
          rw [aliasOr_of_aliased plain _ (spelledLabel _ _ item.col)]
          exact ⟨fun _ absurd => (nomatch absurd), fun _ => labelled⟩
      | true =>
          rw [aliasOr_of_unaliased plain] at labelled ⊢
          rw [spelledLabel, bind_eq_ok_iff] at labelled
          obtain ⟨spelling, spelled, returned⟩ := labelled
          injection returned with returned
          have listed : item.col ∈ selectItemColumnRefs (.dateBucket item) := by
            rw [selectItemColumnRefs, if_neg (ne_star_of_columnSpelling spelled)]
            exact List.mem_singleton.mpr rfl
          obtain ⟨object, column, resolved⟩ := resolveRef_of_validated columns member listed
          have validated := caseless.columnSpelling resolved
          have named : (do
              let (_, column) ← resolveRef tables item.col
              pure ("bucket_" ++ column.name ++ "_" ++ item.granularity.value)) =
                (.ok ("bucket_" ++ column.name ++ "_" ++ item.granularity.value) : Gate String) := by
            rw [resolved]
            rfl
          have labels : label = "bucket_" ++ spelling ++ "_" ++ item.granularity.value :=
            returned.symm
          rw [named, labels, Except.ok.injEq, String.append_left_inj, String.append_left_inj,
            String.append_right_inj, spelledAlike_iff validated spelled]
          exact ⟨fun same _ => same, fun same => same rfl⟩
  | stringAgg item => exact written (fun _ => rfl) labelled
  | arrayAgg item => exact written (fun _ => rfl) labelled
  | percentileCont item => exact written (fun _ => rfl) labelled
  | aggregate fn col arg distinct alias_ =>
      refine ⟨fun _ => trivial, fun _ => ?_⟩
      rw [itemLabel] at labelled
      rw [selectItemOutputName]
      cases plain : unaliased alias_ with
      | false => exact (aliasOr_of_aliased plain _ _).trans labelled
      | true =>
          rw [aliasOr_of_unaliased plain] at labelled
          refine (aliasOr_of_unaliased plain _).trans ?_
          -- A computed argument has no default name on either side.
          unfold aggregateDefaultName at labelled
          split at labelled
          · exact labelled
          · exact labelled
          · cases labelled
  | scalarFunction call alias_ => exact ⟨fun _ => trivial, fun _ => labelled⟩
  | case when_ else_ alias_ => exact ⟨fun _ => trivial, fun _ => labelled⟩
  | expression expression alias_ => exact ⟨fun _ => trivial, fun _ => labelled⟩
  | window call alias_ => exact ⟨fun _ => trivial, fun _ => labelled⟩

end Agreement

end QueryGate
