import QueryGate.Compiler.OutputNames
import QueryGate.Compiler.References

/-! # What a rank is computed over

`_apply_top_n` looks every reference up among the output names: those of the select list, or
over an aggregation those of the derived table. A name that several items take is the last
one's; validation reads it as whichever item it may rank by.
-/

namespace QueryGate

open Foundation

/-- The references of a top-n clause. -/
def TopNSpec.refs (spec : TopNSpec) : List String :=
  spec.partitionBy ++ spec.orderBy.map OrderBySpec.col

/-- The references a scope ranks by. -/
def rankRefs (scope : StructuredQuery) : List String :=
  scope.topN.toList.flatMap TopNSpec.refs

/-- The output names `_apply_top_n` resolves its references by. -/
def rankAliasMap (scope : StructuredQuery) (body : ScopeBody) : AliasMap :=
  if isAggregateScope scope then derivedAliasMap scope body.select.columns else body.aliasMap

/-- One reference of a rank, resolved. -/
def resolveRankRef (scope : StructuredQuery) (tables : Tables) (body : ScopeBody) (ref : String) :
    Gate SqlExpr :=
  resolveOutputRef tables (rankAliasMap scope body) (!isAggregateScope scope) ref

/-- `_apply_top_n` resolves the references of its clause one by one. -/
theorem applyTopN_eq (adapter : DialectAdapter) (scope : StructuredQuery) (tables : Tables)
    (body : ScopeBody) (spec : TopNSpec) :
    applyTopN adapter scope tables body spec = (do
      let partitionBy ← mapAll (resolveRankRef scope tables body) spec.partitionBy
      let orderBy ← mapAll (fun order => do
          let column ← resolveRankRef scope tables body order.col
          adapterCall adapter (.orderByTerms order.dir order.nulls) [column])
        spec.orderBy
      pure (.mk spec.n spec.fn partitionBy orderBy)) :=
  rfl

/-- An item `top_n` may rank by: neither a bare reference nor a window. -/
def SelectItem.isRankable : SelectItem → Bool
  | .bare _ | .window _ _ => false
  | _ => true

/-- The item is the reference as written. -/
def SelectItem.isWritten (ref : String) : SelectItem → Bool
  | .bare written => written == ref
  | _ => false

/-- What a reference of a rank denotes, as validation reads it: an item it may rank by, of that
name; or, where it is spelled `Table.Column`, an item that projects that column. Over an
aggregation the column has to be a group key. -/
def Denotes (scope : StructuredQuery) (tables compiled : Tables) (ref : String)
    (item : SelectItem) : Prop :=
  (item.isRankable = true ∧ (hasDot ref = true → isAggregateScope scope = true) ∧
      selectItemOutputName item tables = .ok ref) ∨
    (hasDot ref = true ∧ (isAggregateScope scope = true → ref ∈ scope.groupBy) ∧
      ∃ written, item = .bare written ∧
        resolveColumnRef compiled written = resolveColumnRef compiled ref)

section Lookups

theorem dictGet_eq_find? {κ α : Type} [DecidableEq κ] (entries : List (κ × α)) (key : κ) :
    dictGet entries key = (entries.find? fun entry => entry.1 == key).map Prod.snd := by
  induction entries with
  | nil => rfl
  | cons entry rest ih =>
      rw [dictGet, List.find?_cons]
      by_cases hit : entry.1 = key
      · rw [if_pos hit, beq_iff_eq.mpr hit]
        rfl
      · rw [if_neg hit, beq_eq_false_iff_ne.mpr hit]
        exact ih

/-- The select list with the columns it was compiled to. -/
def projection (scope : StructuredQuery) (body : ScopeBody) : List (SelectItem × SqlColumn) :=
  scope.select.zip body.select.columns

/-- The last item recorded under a name. -/
def aliasHolder (scope : StructuredQuery) (body : ScopeBody) (ref : String) :
    Option (SelectItem × SqlColumn) :=
  (projection scope body).reverse.find? fun entry => (itemKeys entry.1 entry.2.name).contains ref

/-- Recording an item under its keys. -/
theorem dictGet_extendAliasMap (aliasMap : AliasMap) (keys : List String) (expr : SqlExpr)
    (ref : String) :
    dictGet (extendAliasMap aliasMap (keys.map fun key => (key, expr))) ref =
      if keys.contains ref then some expr else dictGet aliasMap ref := by
  unfold extendAliasMap
  induction keys generalizing aliasMap with
  | nil => rfl
  | cons key rest ih =>
      rw [List.map_cons, List.foldl_cons, ih, dictGet_dictSet, List.contains_cons]
      by_cases same : key = ref
      · rw [if_pos same, beq_iff_eq.mpr same.symm, Bool.true_or, if_pos rfl]
        split
        · rfl
        · rfl
      · rw [if_neg same, beq_eq_false_iff_ne.mpr (Ne.symm same), Bool.false_or]

/-- The output names of a select list: a name is that of the last item recorded under it. -/
theorem dictGet_aliasMap {entries : List (SelectItem × CompiledItem)}
    (recorded : ∀ entry ∈ entries, entry.2.2 =
      (itemKeys entry.1 entry.2.1.name).map fun key => (key, entry.2.1.expr)) (ref : String) :
    dictGet ((entries.map Prod.snd).foldl (fun aliasMap item => extendAliasMap aliasMap item.2) [])
        ref =
      (entries.reverse.find? fun entry => (itemKeys entry.1 entry.2.1.name).contains ref).map
        fun entry => entry.2.1.expr := by
  induction entries using List.reverseRecOn with
  | nil => rfl
  | append_singleton front entry ih =>
      have before := ih fun other member => recorded other (List.mem_append_left _ member)
      have last := recorded entry (List.mem_append_right _ (List.mem_singleton.mpr rfl))
      have reversed : (front ++ [entry]).reverse = entry :: front.reverse := by
        rw [List.reverse_append]
        rfl
      rw [List.map_append, List.foldl_append, List.map_singleton, List.foldl_cons, List.foldl_nil,
        last, dictGet_extendAliasMap, before, reversed, List.find?_cons]
      cases (itemKeys entry.1 entry.2.1.name).contains ref with
      | true => rfl
      | false => rfl

/-- `setdefault` of the written references adds the first where there was none. -/
theorem dictGet_addWrittenRefs (aliasMap : AliasMap) (pairs : List (SelectItem × SqlExpr))
    (ref : String) :
    dictGet (addWrittenRefs aliasMap pairs) ref =
      (dictGet aliasMap ref).or ((pairs.find? fun pair => pair.1.isWritten ref).map Prod.snd) := by
  induction pairs generalizing aliasMap with
  | nil => exact (Option.or_none).symm
  | cons pair rest ih =>
      obtain ⟨item, column⟩ := pair
      rw [List.find?_cons]
      cases item with
      | bare written =>
          rw [addWrittenRefs, ih]
          by_cases same : written = ref
          · subst same
            rw [SelectItem.isWritten, beq_self_eq_true]
            cases known : dictGet aliasMap written with
            | some value =>
                rw [Option.isSome_some, if_pos rfl, known]
                rfl
            | none =>
                rw [Option.isSome_none, if_neg Bool.false_ne_true, dictGet_append, known, dictGet,
                  if_pos rfl]
                rfl
          · rw [SelectItem.isWritten, beq_eq_false_iff_ne.mpr same]
            dsimp only
            split
            · rfl
            · rw [dictGet_append, dictGet, if_neg same, dictGet, Option.or_none]
      | _ => exact ih aliasMap

end Lookups

section Projection

variable {context : CompileContext} {scope : StructuredQuery} {compiled : Tables}
  {body : ScopeBody}

/-- The rows of a derived table over the select list. -/
def derivedRows (scope : StructuredQuery) (body : ScopeBody) :
    List ((SelectItem × SqlColumn) × Nat) :=
  (projection scope body).zipIdx

/-- The row a name of the derived table is of: the last of that label, else the first
reference written so. -/
def derivedHolder (scope : StructuredQuery) (body : ScopeBody) (ref : String) :
    Option ((SelectItem × SqlColumn) × Nat) :=
  ((derivedRows scope body).reverse.find? fun row => row.1.2.name == ref).or
    ((derivedRows scope body).find? fun row => row.1.1.isWritten ref)

/-- A select list as it was compiled, item by item. -/
structure CompiledProjection (scope : StructuredQuery) (compiled : Tables) (body : ScopeBody) :
    Prop where
  items : (projection scope body).map Prod.fst = scope.select
  columns : (projection scope body).map Prod.snd = body.select.columns
  labels : ∀ entry ∈ projection scope body, itemLabel compiled entry.1 = .ok entry.2.name
  names : ∀ ref, dictGet body.aliasMap ref =
    (aliasHolder scope body ref).map fun entry => entry.2.expr

theorem compiledProjection_of_built
    (done : buildSelectColumns context scope compiled = .ok (body.select.columns, body.aliasMap)) :
    CompiledProjection scope compiled body := by
  rw [buildSelectColumns, bind_eq_ok_iff] at done
  obtain ⟨items, mapped, returned⟩ := done
  injection returned with returned
  injection returned with columns aliasMap
  have paired := mapAll_eq_ok_iff.mp mapped
  have same : projection scope body =
      (scope.select.zip items).map fun entry => (entry.1, entry.2.1) := by
    rw [projection, ← columns, List.zip_map_right]
    rfl
  have each : ∀ entry ∈ scope.select.zip items,
      compileSelectItem context scope compiled entry.1 = .ok entry.2 := fun entry member =>
    (List.forall₂_iff_zip.mp paired).2 member
  have lengths := paired.length_eq
  refine ⟨?_, ?_, fun entry member => ?_, fun ref => ?_⟩
  · rw [same, List.map_map]
    exact List.map_fst_zip (Nat.le_of_eq lengths)
  · have items' := List.map_snd_zip (Nat.le_of_eq lengths.symm)
    rw [same, List.map_map, ← columns]
    conv_rhs => rw [← items', List.map_map]
    rfl
  · rw [same] at member
    obtain ⟨entry, inZip, rfl⟩ := List.mem_map.mp member
    exact (compileSelectItem_label (each entry inZip)).1
  · have recorded := @dictGet_aliasMap (scope.select.zip items)
      (fun entry member => (compileSelectItem_label (each entry member)).2) ref
    rw [List.map_snd_zip (Nat.le_of_eq lengths.symm)] at recorded
    rw [← aliasMap, recorded, aliasHolder, same, ← List.map_reverse, List.find?_map, Option.map_map]
    rfl

/-- The names of a derived table, by row. -/
theorem CompiledProjection.derived (built : CompiledProjection scope compiled body) (ref : String) :
    dictGet (derivedAliasMap scope body.select.columns) ref =
      (derivedHolder scope body ref).map fun row => .derived row.2 row.1.2.name := by
  have columns : derivedColumns body.select.columns =
      (derivedRows scope body).map fun row => (row.1.2.name, .derived row.2 row.1.2.name) := by
    rw [derivedColumns, ← built.columns, List.zipIdx_map, List.map_map]
    rfl
  have items : scope.select = (derivedRows scope body).map fun row => row.1.1 := by
    rw [← built.items, derivedRows]
    conv_lhs => rw [← List.zipIdx_map_fst 0 (projection scope body), List.map_map]
    rfl
  rw [derivedAliasMap, dictGet_addWrittenRefs, dictGet_dictOf, dictGet_eq_find?, columns, items,
    List.map_map, List.zip_map', ← List.map_reverse, List.find?_map, List.find?_map, Option.map_map,
    Option.map_map, derivedHolder, Option.map_or]
  rfl

end Projection

section Validated

variable {schema : SchemaContext} {query : StructuredQuery} {reflected : ReflectedQuery}
  {path : ScopePath} {scope : StructuredQuery} {blocks outer tables : Tables}

/-- The object is none that the compiler makes of a WITH block. -/
def NotCompiled (object : FromObj) : Prop :=
  ∀ name columns, object.element ≠ .cte name columns

theorem BoundName.notCompiled {name : String} {object : FromObj} {known : List String}
    (bound : BoundName path scope blocks outer name object)
    (named : BlocksNamed .placeholder blocks known)
    (outside : ∀ key found, tableByNameOrNone outer key = some found → NotCompiled found) :
    NotCompiled object := by
  cases bound with
  | outer found => exact outside name object found
  | block _ _ found =>
      obtain ⟨block, columns, rfl, _⟩ := named.blocks _ _ found
      intro other columns same
      rw [element_bindSource] at same
      cases same
  | table _ _ _ _ =>
      intro other columns same
      rw [element_bindSource] at same
      cases same

/-- Validation binds names to reflected tables and stand-ins only. -/
theorem Reflection.notCompiled
    (at_ : Reflection schema query reflected path scope blocks outer tables)
    (named : BlocksNamed .placeholder reflected.cteTables (declaredCteNames query)) :
    ∀ name object, tableByNameOrNone tables name = some object → NotCompiled object := by
  induction at_ with
  | root bound recorded =>
      intro name object found
      obtain ⟨key, _, boundName⟩ := boundName_of_lookup bound found
      exact boundName.notCompiled named fun _ _ absurd => by cases absurd
  | body declared known bound recorded =>
      intro name object found
      obtain ⟨key, _, boundName⟩ := boundName_of_lookup bound found
      exact boundName.notCompiled known fun _ _ absurd => by cases absurd
  | child parent member notBody received bound recorded ih =>
      intro name object found
      obtain ⟨key, _, boundName⟩ := boundName_of_lookup bound found
      refine boundName.notCompiled named fun opened handed isHanded => ?_
      rw [handedTables_lookup received] at isHanded
      split at isHanded
      · exact ih opened handed isHanded
      · cases isHanded

/-- Validation accepted every reference of the rank. -/
theorem checkTopNRef_of_validated (columns : checkScopeColumns scope tables = .ok ()) {ref : String}
    (ranked : ref ∈ rankRefs scope) :
    ∃ aliases, selectAliases scope tables = .ok aliases ∧
      checkTopNRef scope tables aliases ref = .ok () := by
  simp only [checkScopeColumns, bind_eq_ok_iff] at columns
  obtain ⟨_, _, _, _, _, _, _, _, _, _, _, _, _, _, _, _, topN⟩ := columns
  obtain ⟨spec, present, inSpec⟩ := List.mem_flatMap.mp ranked
  rw [Option.mem_toList] at present
  rw [validateTopN, present] at topN
  dsimp only at topN
  rw [bind_eq_ok_iff] at topN
  obtain ⟨aliases, listed, checked⟩ := topN
  exact ⟨aliases, listed, checkAll_eq_ok_iff.mp checked ref inSpec⟩

end Validated

section Conditions

/-- A select item is labelled by a name. -/
def labelledBy (compiled : Tables) (ref : String) (item : SelectItem) : Bool :=
  match itemLabel compiled item with
  | .ok label => label == ref
  | .error _ => false

/-- The select item a reference of the rank reaches: the last that takes the name. A bare
reference takes it as written too; over an aggregation, where no label does. -/
def rankHolder (scope : StructuredQuery) (compiled : Tables) (ref : String) : Option SelectItem :=
  if isAggregateScope scope then
    (scope.select.reverse.find? (labelledBy compiled ref)).or
      (scope.select.find? (SelectItem.isWritten ref))
  else
    scope.select.reverse.find? fun item => labelledBy compiled ref item || item.isWritten ref

/-- The condition under which a reference of the rank reaches what it denotes: the item that
holds the name is one it denotes; or, where no item does, it names a column of a table that is
no WITH block, and nothing is aggregated. -/
def RankPointed (objects : CteObjects) (path : ScopePath) (scope : StructuredQuery)
    (tables : Tables) (ref : String) : Prop :=
  match rankHolder scope (compiledTables objects path scope tables) ref with
  | some item => Denotes scope tables (compiledTables objects path scope tables) ref item
  | none =>
      isAggregateScope scope = false ∧ hasDot ref = true ∧ readsBlock objects scope ref = false

/-- An expression is the column a reference of the rank denotes: an item of the select list
under its output name, a column of the derived table, or a column of a table. -/
inductive RankMeans (objects : CteObjects) (path : ScopePath) (scope : StructuredQuery)
    (tables : Tables) (body : ScopeBody) (ref : String) : SqlExpr → Prop where
  | item {entry : SelectItem × SqlColumn} (plain : isAggregateScope scope = false)
      (held : aliasHolder scope body ref = some entry)
      (denoted : Denotes scope tables (compiledTables objects path scope tables) ref entry.1) :
      RankMeans objects path scope tables body ref (.output ref entry.2.expr)
  | derived {row : (SelectItem × SqlColumn) × Nat} (grouped : isAggregateScope scope = true)
      (member : row ∈ derivedRows scope body)
      (denoted : Denotes scope tables (compiledTables objects path scope tables) ref row.1.1) :
      RankMeans objects path scope tables body ref (.output ref (.derived row.2 row.1.2.name))
  | column {expr : SqlExpr} (plain : isAggregateScope scope = false)
      (unheld : aliasHolder scope body ref = none)
      (resolved : columnExpr (compiledTables objects path scope tables) ref = .ok expr) :
      RankMeans objects path scope tables body ref expr

/-- A reference of the rank is resolved to the column it denotes. -/
def RankResolves (objects : CteObjects) (path : ScopePath) (scope : StructuredQuery)
    (tables : Tables) (body : ScopeBody) (ref : String) : Prop :=
  ∃ expr, resolveRankRef scope tables body ref = .ok expr ∧
    RankMeans objects path scope tables body ref expr

variable {objects : CteObjects} {path : ScopePath} {scope : StructuredQuery} {tables compiled : Tables}
  {body : ScopeBody} {ref : String}

theorem labelledBy_of_label {item : SelectItem} {label : String}
    (labelled : itemLabel compiled item = .ok label) :
    labelledBy compiled ref item = (label == ref) := by
  rw [labelledBy, labelled]

theorem itemKeys_contains (item : SelectItem) (label : String) :
    (itemKeys item label).contains ref = (label == ref || item.isWritten ref) := by
  have single : [label].contains ref = (label == ref) := by
    rw [List.contains_cons, List.contains_nil, Bool.or_false, Bool.beq_comm]
  cases item with
  | bare written =>
      rw [itemKeys, SelectItem.isWritten, List.contains_cons, List.contains_cons, List.contains_nil,
        Bool.or_false, Bool.beq_comm (a := ref), Bool.beq_comm (a := ref)]
  | _ => exact single.trans (Bool.or_false _).symm

/-- Without an aggregation a reference reaches the last item recorded under it. -/
theorem CompiledProjection.rankHolder_plain (built : CompiledProjection scope compiled body)
    (plain : isAggregateScope scope = false) (ref : String) :
    rankHolder scope compiled ref = (aliasHolder scope body ref).map Prod.fst := by
  rw [rankHolder, if_neg (by rw [plain]; exact Bool.false_ne_true), aliasHolder]
  conv_lhs => rw [← built.items, ← List.map_reverse, List.find?_map]
  refine congrArg (Option.map Prod.fst) (List.find?_congr fun entry member => ?_)
  rw [itemKeys_contains, Function.comp_apply,
    labelledBy_of_label (built.labels entry (List.mem_reverse.mp member))]

theorem derivedRows_mem {row : (SelectItem × SqlColumn) × Nat}
    (member : row ∈ derivedRows scope body) : row.1 ∈ projection scope body :=
  List.fst_mem_of_mem_zipIdx member

/-- Over an aggregation it reaches a row of the derived table. -/
theorem CompiledProjection.rankHolder_grouped (built : CompiledProjection scope compiled body)
    (grouped : isAggregateScope scope = true) (ref : String) :
    rankHolder scope compiled ref = (derivedHolder scope body ref).map fun row => row.1.1 := by
  have items : scope.select = (derivedRows scope body).map fun row => row.1.1 := by
    rw [← built.items, derivedRows]
    conv_lhs => rw [← List.zipIdx_map_fst 0 (projection scope body), List.map_map]
    rfl
  rw [rankHolder, if_pos grouped, derivedHolder, Option.map_or]
  conv_lhs => rw [items, ← List.map_reverse, List.find?_map, List.find?_map]
  have labels : (derivedRows scope body).reverse.find?
        (labelledBy compiled ref ∘ fun row => row.1.1) =
      (derivedRows scope body).reverse.find? fun row => row.1.2.name == ref := by
    refine List.find?_congr fun row member => ?_
    rw [Function.comp_apply,
      labelledBy_of_label (built.labels row.1 (derivedRows_mem (List.mem_reverse.mp member)))]
  rw [labels]
  rfl

theorem columnExpr_eq_ok_iff {ref : String} {expr : SqlExpr} {tables : Tables} :
    columnExpr tables ref = .ok expr ↔ ∃ object column,
      resolveColumnRef tables ref = .ok (object, column) ∧
        expr = .column object column.name (some ref) := by
  rw [columnExpr, bind_eq_ok_iff]
  constructor
  · rintro ⟨⟨object, column⟩, resolved, returned⟩
    injection returned with returned
    exact ⟨object, column, resolved, returned.symm⟩
  · rintro ⟨object, column, resolved, rfl⟩
    exact ⟨(object, column), resolved, rfl⟩

/-- A validated reference to a table's column is compiled to that column in both tables, unless
it reads a WITH block. -/
theorem columnExpr_compiled_iff {names : List String} (visible : objects.Visible names)
    (caseless : Caseless tables)
    (notCompiled : ∀ name object, tableByNameOrNone tables name = some object → NotCompiled object)
    (checked : checkRef tables ref = .ok ()) :
    ∃ expr, columnExpr tables ref = .ok expr ∧
      (columnExpr (compiledTables objects path scope tables) ref = .ok expr ↔
        readsBlock objects scope ref = false) := by
  rw [checkRef, bind_eq_ok_iff] at checked
  obtain ⟨⟨exactObject, column⟩, resolved, _⟩ := checked
  simp only [resolveRef, bind_eq_ok_iff] at resolved
  obtain ⟨⟨table, columnName⟩, parsed, found, looked, def_, matched, returned⟩ := resolved
  cases returned
  obtain ⟨object, lookup, same⟩ := caseless.tableByName looked
  have here : resolveColumnRef tables ref = .ok (object, column) := by
    simp only [resolveColumnRef, bind_eq_ok_iff]
    exact ⟨_, parsed, object, tableByName_eq_ok_iff.mpr lookup, column,
      resolveColumn_congr same.symm matched, rfl⟩
  refine ⟨_, columnExpr_eq_ok_iff.mpr ⟨object, column, here, rfl⟩, ?_⟩
  cases reads : readsBlock objects scope ref with
  | false =>
      refine ⟨fun _ => rfl, fun _ => columnExpr_eq_ok_iff.mpr ⟨object, column, ?_, rfl⟩⟩
      rw [resolveColumnRef_kept reads]
      exact here
  | true =>
      refine ⟨fun compiledSo => ?_, fun kept => by cases kept⟩
      obtain ⟨other, otherColumn, otherResolved, sameExpr⟩ := columnExpr_eq_ok_iff.mp compiledSo
      simp only [resolveColumnRef, bind_eq_ok_iff] at otherResolved
      obtain ⟨halves, otherParsed, otherFound, otherLookup, _, _, otherReturned⟩ := otherResolved
      cases otherReturned
      rw [parsed] at otherParsed
      cases otherParsed
      rw [readsBlock, parsed] at reads
      obtain ⟨block, isBlock⟩ := Option.isSome_iff_exists.mp reads
      obtain ⟨blockName, blockColumns, rfl, _⟩ := visible.blocks _ _ isBlock
      have element := (compiledTables_replaced (tableByName_eq_ok_iff.mp otherLookup) isBlock).1
      injection sameExpr with sameObject
      rw [← sameObject] at element
      exact absurd element (notCompiled table object lookup blockName blockColumns)

end Conditions

section Main

variable {schema : SchemaContext} {query : StructuredQuery} {reflected : ReflectedQuery}
  {path : ScopePath} {scope : StructuredQuery} {blocks outer tables : Tables} {objects : CteObjects}
  {body : ScopeBody} {ref : String}

theorem resolveRankRef_held {target : SqlExpr}
    (held : dictGet (rankAliasMap scope body) ref = some target) :
    resolveRankRef scope tables body ref = .ok (.output ref target) := by
  rw [resolveRankRef, resolveOutputRef, held]

/-- **One reference.** It is resolved to the column it denotes exactly under `RankPointed`. -/
theorem rankResolves_iff {names : List String} (columns : checkScopeColumns scope tables = .ok ())
    (caseless : Caseless tables)
    (notCompiled : ∀ name object, tableByNameOrNone tables name = some object → NotCompiled object)
    (visible : objects.Visible names)
    (built : CompiledProjection scope (compiledTables objects path scope tables) body)
    (ranked : ref ∈ rankRefs scope) :
    RankResolves objects path scope tables body ref ↔ RankPointed objects path scope tables ref := by
  unfold RankPointed
  cases grouped : isAggregateScope scope with
  | true =>
      have names : dictGet (rankAliasMap scope body) ref =
          (derivedHolder scope body ref).map fun row => .derived row.2 row.1.2.name := by
        rw [rankAliasMap, if_pos grouped, built.derived]
      rw [built.rankHolder_grouped grouped]
      cases held : derivedHolder scope body ref with
      | none =>
          rw [held, Option.map_none] at names
          refine ⟨fun ⟨expr, resolved, _⟩ => ?_, fun ⟨absurd, _⟩ => nomatch absurd⟩
          rw [resolveRankRef, resolveOutputRef, names, grouped] at resolved
          cases resolved
      | some row =>
          rw [held, Option.map_some] at names
          rw [Option.map_some]
          have inRows : row ∈ derivedRows scope body := by
            rcases Option.or_eq_some_iff.mp held with first | ⟨_, second⟩
            · exact List.mem_reverse.mp (List.mem_of_find?_eq_some first)
            · exact List.mem_of_find?_eq_some second
          constructor
          · rintro ⟨expr, resolved, meant⟩
            rw [resolveRankRef_held names] at resolved
            cases meant with
            | item plain _ _ =>
                rw [grouped] at plain
                cases plain
            | column plain _ _ =>
                rw [grouped] at plain
                cases plain
            | @derived other _ member denoted =>
                injection resolved with resolved
                injection resolved with _ target
                injection target with position _
                rw [derivedRows, List.mem_zipIdx_iff_getElem?] at inRows member
                rw [position, member] at inRows
                rw [← Option.some.inj inRows]
                exact denoted
          · exact fun denoted => ⟨_, resolveRankRef_held names, .derived grouped inRows denoted⟩
  | false =>
      have names : dictGet (rankAliasMap scope body) ref =
          (aliasHolder scope body ref).map fun entry => entry.2.expr := by
        rw [rankAliasMap, if_neg (by rw [grouped]; exact Bool.false_ne_true), built.names]
      rw [built.rankHolder_plain grouped]
      cases held : aliasHolder scope body ref with
      | some entry =>
          rw [held, Option.map_some] at names
          rw [Option.map_some]
          constructor
          · rintro ⟨expr, _, meant⟩
            cases meant with
            | item _ also denoted =>
                rw [held] at also
                rw [Option.some.inj also]
                exact denoted
            | derived absurd _ _ =>
                rw [grouped] at absurd
                cases absurd
            | column _ unheld _ =>
                rw [held] at unheld
                cases unheld
          · exact fun denoted => ⟨_, resolveRankRef_held names, .item grouped held denoted⟩
      | none =>
          rw [held, Option.map_none] at names
          have resolution : resolveRankRef scope tables body ref =
              if hasDot ref then columnExpr tables ref
              else .error (queryValidationError s!"Unknown column or alias {quoted ref}") := by
            rw [resolveRankRef, resolveOutputRef, names, grouped]
            rfl
          rw [Option.map_none]
          cases dotted : hasDot ref with
          | false =>
              rw [dotted, if_neg Bool.false_ne_true] at resolution
              refine ⟨fun ⟨expr, resolved, _⟩ => ?_, fun ⟨_, absurd, _⟩ => nomatch absurd⟩
              rw [resolution] at resolved
              cases resolved
          | true =>
              rw [dotted, if_pos rfl] at resolution
              obtain ⟨aliases, _, checked⟩ := checkTopNRef_of_validated columns ranked
              rw [checkTopNRef, grouped, if_neg Bool.false_ne_true, if_pos dotted] at checked
              obtain ⟨expr, here, compiledIff⟩ : ∃ expr, columnExpr tables ref = .ok expr ∧
                  (columnExpr (compiledTables objects path scope tables) ref = .ok expr ↔
                    readsBlock objects scope ref = false) :=
                columnExpr_compiled_iff visible caseless notCompiled checked
              rw [← resolution] at here
              constructor
              · rintro ⟨other, resolved, meant⟩
                rw [here] at resolved
                cases resolved
                cases meant with
                | item _ also _ =>
                    rw [held] at also
                    cases also
                | derived absurd _ _ =>
                    rw [grouped] at absurd
                    cases absurd
                | column _ _ compiledSo => exact ⟨rfl, rfl, compiledIff.mp compiledSo⟩
              · exact fun ⟨_, _, kept⟩ => ⟨expr, here, .column grouped held (compiledIff.mpr kept)⟩

/-- Every select item of a scope is labelled as validation predicts. -/
def OutputNamesAgree (scope : StructuredQuery) (tables : Tables) (body : ScopeBody) : Prop :=
  ∀ entry ∈ projection scope body, selectItemOutputName entry.1 tables = .ok entry.2.name

theorem outputNamesAgree_iff (columns : checkScopeColumns scope tables = .ok ())
    (caseless : Caseless tables)
    (built : CompiledProjection scope (compiledTables objects path scope tables) body) :
    OutputNamesAgree scope tables body ↔
      ∀ item ∈ scope.select, NamedAlike objects path scope tables item := by
  have each : ∀ entry ∈ projection scope body,
      (selectItemOutputName entry.1 tables = .ok entry.2.name ↔
        NamedAlike objects path scope tables entry.1) := fun entry member =>
    selectItemOutputName_iff columns caseless
      (built.items ▸ List.mem_map_of_mem member) (built.labels entry member)
  constructor
  · intro agree item member
    rw [← built.items] at member
    obtain ⟨entry, inside, rfl⟩ := List.mem_map.mp member
    exact (each entry inside).mp (agree entry inside)
  · intro alike entry inside
    exact (each entry inside).mpr (alike entry.1 (built.items ▸ List.mem_map_of_mem inside))

/-- What validation and the compiler leave of a scope that both passed. -/
structure PassedScope (objects : CteObjects) (path : ScopePath) (scope : StructuredQuery)
    (tables : Tables) (body : ScopeBody) : Prop where
  columns : checkScopeColumns scope tables = .ok ()
  caseless : Caseless tables
  notCompiled : ∀ name object, tableByNameOrNone tables name = some object → NotCompiled object
  built : CompiledProjection scope (compiledTables objects path scope tables) body

theorem ScopeCompilation.passed {context : CompileContext}
    {subqueries : List (ScopeStep × Gate Statement)}
    (run : ScopeCompilation context query path scope objects tables subqueries body)
    (validated : validateSchema schema query = .ok reflected)
    (same : context.scopeTables = reflected.scopeTables) :
    PassedScope objects path scope tables body := by
  obtain ⟨named, covered⟩ := validateSchema_reflected validated
  obtain ⟨blocks, outer, bound, reflection⟩ := covered run.scopeAt
  have recorded := run.bound
  rw [same, reflection.recorded] at recorded
  cases recorded
  exact ⟨(scopeBinding_of_reflectScope reflection.bound).columns,
    caseless_of_reflectScope reflection.bound, reflection.notCompiled named,
    compiledProjection_of_built (bodyStages_of_compiled run.compiled).columns⟩

end Main

/-- The columns of the customers of the examples, as reflected. -/
def reflectedCustomers : Tables :=
  [("Customers", .table "main" "Customers" {
      name := "Customers"
      columns := [{ name := "id" }, { name := "name" }, { name := "ssn" }, { name := "tenant" }]
      primaryKey := ["id"] })]

/-- `SELECT Customers.tenant, STRING_AGG(Customers.NAME, ',') FROM Customers GROUP BY
Customers.tenant`, ranked by the aggregate's default name. -/
def namesByTenant : StructuredQuery where
  fromTable := "Customers"
  select := [.bare "Customers.tenant", .stringAgg ⟨"Customers.NAME", ",", none⟩]
  groupBy := ["Customers.tenant"]
  topN := some { orderBy := [{ col := "string_agg_NAME" }], n := 3 }

/-- The same ranked by an alias. -/
def aliasedByTenant : StructuredQuery :=
  { namesByTenant with
    select := [.bare "Customers.tenant", .stringAgg ⟨"Customers.NAME", ",", some "names"⟩]
    topN := some { orderBy := [{ col := "names" }], n := 3 } }

/-- What compiles a query over the customers. -/
def customersContext : CompileContext where
  policy := {}
  adapter := permissiveAdapter
  request := soleConnection
  connections := fun _ => []
  scopeTables := [([], reflectedCustomers)]

/-- A query over the customers alone is compiled against them. -/
theorem exists_compilation (query : StructuredQuery)
    (validated : (validateSchema shopSchema query).map ReflectedQuery.scopeTables =
      .ok customersContext.scopeTables)
    (compiles : accepts (compileScopeBody customersContext [] [] query reflectedCustomers []) = true)
    (noBlocks : query.ctes = []) :
    ∃ reflected body, validateSchema shopSchema query = .ok reflected ∧
      customersContext.scopeTables = reflected.scopeTables ∧
      ScopeCompilation customersContext query [] query [] reflectedCustomers [] body := by
  obtain ⟨body, compiled⟩ := accepts_iff.mp compiles
  cases outcome : validateSchema shopSchema query with
  | error failure =>
      rw [outcome] at validated
      cases validated
  | ok reflected =>
      rw [outcome] at validated
      injection validated with same
      have none_ : blocksAt customersContext query [] = [] := by
        change blocksBefore customersContext 0 [] query.ctes query.ctes.length = []
        rw [noBlocks]
        rfl
      have unnamed : visibleCteNames query [] = [] := by
        change query.ctes.map (fun spec => casefold spec.name) = []
        rw [noBlocks]
        rfl
      refine ⟨reflected, body, rfl, same.symm, .root query, none_.symm, ?_, rfl, compiled⟩
      rw [unnamed]
      exact BlocksNamed.empty .cte

end QueryGate
