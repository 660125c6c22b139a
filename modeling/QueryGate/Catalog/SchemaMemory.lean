import QueryGate.Audit.JsonText
import QueryGate.Catalog.Models
import QueryGate.Foundation.Checks
import QueryGate.Foundation.Encoding

/-! # Observed schemas

Snapshots of `catalog/schema_memory.py`: their fingerprint, which tells snapshots apart when
the digest does, and the structured difference between two of them.
-/

namespace QueryGate.Catalog

open Foundation

/-- The host functions a snapshot is read with: `str.lower`, and SHA-256 in hexadecimal. -/
structure SchemaRuntime where
  lower : String → String
  sha256 : List UInt8 → String

/-! ## The fingerprint -/

section Dumps

/-- An optional text as JSON. -/
def textOrNull : Option String → Json Empty
  | none => .null
  | some text => .str text

def ObservedForeignKey.dump (key : ObservedForeignKey) : Json Empty :=
  .dict [("column", .str key.column), ("to_table", .str key.toTable),
    ("to_column", .str key.toColumn)]

def ObservedIndex.dump (index : ObservedIndex) : Json Empty :=
  .dict [("columns", .list (index.columns.map .str)), ("unique", .bool index.unique)]

def ObservedColumn.dump (column : ObservedColumn) : Json Empty :=
  .dict [("name", .str column.name), ("data_type", .str column.dataType),
    ("nullable", .bool column.nullable), ("primary_key", .bool column.primaryKey),
    ("comment_fingerprint", textOrNull column.commentFingerprint)]

def ObservedTable.dump (table : ObservedTable) : Json Empty :=
  .dict [("name", .str table.name), ("columns", .list (table.columns.map ObservedColumn.dump)),
    ("foreign_keys", .list (table.foreignKeys.map ObservedForeignKey.dump)),
    ("indexes", .list (table.indexes.map ObservedIndex.dump)),
    ("comment_fingerprint", textOrNull table.commentFingerprint)]

/-- `_canonical_payload`. -/
def canonicalPayload (connectionId : String) (tables : List ObservedTable) : Json Empty :=
  .dict [("format_version", .int 1), ("connection_id", .str connectionId),
    ("tables", .list (tables.map ObservedTable.dump))]

/-- A payload has no number with a fraction. -/
def wholeNumbers : FloatFormat Empty :=
  ⟨Empty.elim, fun _ => none⟩

/-- `_payload_fingerprint`. -/
def payloadFingerprint (runtime : SchemaRuntime) (payload : Json Empty) : String :=
  "sha256:" ++ runtime.sha256 (encodeUtf8 (dumps wholeNumbers jsonChar (sortKeys payload)))

/-- What the models check of a snapshot: columns and tables have names, distinct when letter
case is ignored, and the fingerprint is that of the content. -/
structure ObservedSchemaSnapshot.Verified (runtime : SchemaRuntime)
    (snapshot : ObservedSchemaSnapshot) : Prop where
  columnNamed : ∀ table ∈ snapshot.tables, ∀ column ∈ table.columns, column.name ≠ ""
  columnNames : ∀ table ∈ snapshot.tables,
    (table.columns.map fun column => casefold column.name).Nodup
  tableNames : (snapshot.tables.map fun table => casefold table.name).Nodup
  fingerprint : snapshot.fingerprint =
    payloadFingerprint runtime (canonicalPayload snapshot.connectionId snapshot.tables)

theorem textOrNull_sortKeys_injective :
    Function.Injective fun text => sortKeys (textOrNull text) := by
  intro first second same
  cases first <;> cases second <;> simp_all [textOrNull, sortKeys]

/-- The objects of two lists are the same when their sorted dumps are. -/
theorem map_sortKeys_injective {α : Type} {dump : α → Json Empty}
    (injective : Function.Injective fun item => sortKeys (dump item)) {first second : List α}
    (same : sortKeys (.list (first.map dump)) = sortKeys (.list (second.map dump))) :
    first = second := by
  simp only [sortKeys, sortKeysItems_eq_map, List.map_map, Json.list.injEq] at same
  exact List.map_injective_iff.mpr injective same

/-- Objects of the same keys with the same sorted dump have the same fields. -/
theorem field_of_sortKeys {names : List String} (distinct : names.Nodup)
    {entries others : List (String × Json Empty)} (keys : dictKeys entries = names)
    (otherKeys : dictKeys others = names)
    (same : sortKeys (.dict entries) = sortKeys (.dict others)) (name : String) :
    (dictGet entries name).map sortKeys = (dictGet others name).map sortKeys := by
  rw [← field?_sortKeys_dict (keys ▸ distinct), ← field?_sortKeys_dict (otherKeys ▸ distinct), same]

theorem ObservedForeignKey.dump_injective :
    Function.Injective fun key : ObservedForeignKey => sortKeys key.dump := by
  intro first second same
  have names : ["column", "to_table", "to_column"].Nodup := by decide
  have held := field_of_sortKeys names rfl rfl same
  have columns := held "column"
  have tables := held "to_table"
  have targets := held "to_column"
  simp only [dictGet, String.reduceEq, ↓reduceIte, Option.map_some, sortKeys, Option.some.injEq,
    Json.str.injEq] at columns tables targets
  cases first
  cases second
  simp_all

theorem ObservedIndex.dump_injective :
    Function.Injective fun index : ObservedIndex => sortKeys index.dump := by
  intro first second same
  have names : ["columns", "unique"].Nodup := by decide
  have held := field_of_sortKeys names rfl rfl same
  have columns := held "columns"
  have uniques := held "unique"
  simp only [dictGet, String.reduceEq, ↓reduceIte, Option.map_some, Option.some.injEq]
    at columns uniques
  have texts : Function.Injective fun text => sortKeys (Json.str (F := Empty) text) := by
    intro one two equal
    simpa [sortKeys] using equal
  have listed := map_sortKeys_injective texts columns
  simp only [sortKeys, Json.bool.injEq] at uniques
  cases first
  cases second
  simp_all

theorem ObservedColumn.dump_injective :
    Function.Injective fun column : ObservedColumn => sortKeys column.dump := by
  intro first second same
  have names : ["name", "data_type", "nullable", "primary_key", "comment_fingerprint"].Nodup := by
    decide
  have held := field_of_sortKeys names rfl rfl same
  have written := held "name"
  have types := held "data_type"
  have nullables := held "nullable"
  have primaries := held "primary_key"
  have comments := held "comment_fingerprint"
  simp only [dictGet, String.reduceEq, ↓reduceIte, Option.map_some, Option.some.injEq]
    at written types nullables primaries comments
  have noted := textOrNull_sortKeys_injective comments
  simp only [sortKeys, Json.str.injEq, Json.bool.injEq] at written types nullables primaries
  cases first
  cases second
  simp_all

theorem ObservedTable.dump_injective :
    Function.Injective fun table : ObservedTable => sortKeys table.dump := by
  intro first second same
  have names : ["name", "columns", "foreign_keys", "indexes", "comment_fingerprint"].Nodup := by
    decide
  have held := field_of_sortKeys names rfl rfl same
  have written := held "name"
  have columns := held "columns"
  have keys := held "foreign_keys"
  have indexes := held "indexes"
  have comments := held "comment_fingerprint"
  simp only [dictGet, String.reduceEq, ↓reduceIte, Option.map_some, Option.some.injEq]
    at written columns keys indexes comments
  have columnList := map_sortKeys_injective ObservedColumn.dump_injective columns
  have keyList := map_sortKeys_injective ObservedForeignKey.dump_injective keys
  have indexList := map_sortKeys_injective ObservedIndex.dump_injective indexes
  have noted := textOrNull_sortKeys_injective comments
  simp only [sortKeys, Json.str.injEq] at written
  cases first
  cases second
  simp_all

theorem distinctKeysItems_iff {items : List (Json Empty)} :
    DistinctKeysItems items ↔ ∀ item ∈ items, DistinctKeys item := by
  induction items with
  | nil => exact iff_of_true trivial (List.forall_mem_nil _)
  | cons item rest ih => rw [DistinctKeysItems, ih, List.forall_mem_cons]

theorem distinctKeys_list_map {α : Type} {dump : α → Json Empty}
    (each : ∀ item, DistinctKeys (dump item)) (items : List α) :
    DistinctKeys (.list (items.map dump)) := by
  apply distinctKeysItems_iff.mpr
  intro image member
  obtain ⟨item, _, rfl⟩ := List.mem_map.mp member
  exact each item

theorem distinctKeys_textOrNull (text : Option String) : DistinctKeys (textOrNull text) := by
  cases text <;> trivial

theorem ObservedTable.distinctKeys_dump (table : ObservedTable) : DistinctKeys table.dump := by
  have columns : ∀ column : ObservedColumn, DistinctKeys column.dump := fun column =>
    ⟨by simp [dictKeys], trivial, trivial, trivial, trivial, distinctKeys_textOrNull _, trivial⟩
  have keys : ∀ key : ObservedForeignKey, DistinctKeys key.dump := fun key =>
    ⟨by simp [dictKeys], trivial, trivial, trivial, trivial⟩
  have texts : ∀ text : String, DistinctKeys (F := Empty) (.str text) := fun _ => trivial
  have indexes : ∀ index : ObservedIndex, DistinctKeys index.dump := fun index =>
    ⟨by simp [dictKeys], distinctKeys_list_map texts _, trivial, trivial⟩
  exact ⟨by simp [dictKeys], trivial, distinctKeys_list_map columns _,
    distinctKeys_list_map keys _, distinctKeys_list_map indexes _, distinctKeys_textOrNull _,
    trivial⟩

theorem distinctKeys_canonicalPayload (connectionId : String) (tables : List ObservedTable) :
    DistinctKeys (canonicalPayload connectionId tables) :=
  ⟨by simp [dictKeys], trivial, trivial,
    distinctKeys_list_map ObservedTable.distinctKeys_dump _, trivial⟩

/-- A verified snapshot is determined by its fingerprint. -/
theorem ObservedSchemaSnapshot.Verified.eq_of_fingerprint {runtime : SchemaRuntime}
    (injective : Function.Injective runtime.sha256) {first second : ObservedSchemaSnapshot}
    (firstVerified : first.Verified runtime) (secondVerified : second.Verified runtime)
    (same : first.fingerprint = second.fingerprint) : first = second := by
  have prints := same
  rw [firstVerified.fingerprint, secondVerified.fingerprint] at prints
  have digests := injective (String.append_right_inj _ |>.mp prints)
  have texts := sortKeys_eq_of_dumps_eq escapeReads_jsonChar
    (readable_of_distinctKeys (fun value => value.elim) _ (distinctKeys_canonicalPayload ..))
    (readable_of_distinctKeys (fun value => value.elim) _ (distinctKeys_canonicalPayload ..))
    (encodeUtf8_injective digests)
  have names : ["format_version", "connection_id", "tables"].Nodup := by decide
  have held := field_of_sortKeys names rfl rfl texts
  have connections := held "connection_id"
  have tables := held "tables"
  simp only [dictGet, String.reduceEq, ↓reduceIte, Option.map_some, Option.some.injEq]
    at connections tables
  have tableList := map_sortKeys_injective ObservedTable.dump_injective tables
  simp only [sortKeys, Json.str.injEq] at connections
  cases first
  cases second
  simp_all

/-- No verified snapshot has the fingerprint of an entry that is not tracked. -/
theorem ObservedSchemaSnapshot.Verified.fingerprint_ne_untracked {runtime : SchemaRuntime}
    {snapshot : ObservedSchemaSnapshot} (verified : snapshot.Verified runtime) :
    snapshot.fingerprint ≠ "untracked" := by
  intro same
  rw [verified.fingerprint] at same
  have letters := congrArg (fun text : String => text.toList.head?) same
  simp [payloadFingerprint] at letters

end Dumps

/-! ## The difference -/

structure ColumnSignature where
  dataType : String
  nullable : Bool
  primaryKey : Bool
  commentFingerprint : Option String
  deriving DecidableEq, Repr

/-- `_column_signature`. -/
def ObservedColumn.signature (column : ObservedColumn) : ColumnSignature where
  dataType := column.dataType
  nullable := column.nullable
  primaryKey := column.primaryKey
  commentFingerprint := column.commentFingerprint

structure TableSignature where
  columns : List (String × ColumnSignature)
  foreignKeys : List ObservedForeignKey
  indexes : List ObservedIndex
  commentFingerprint : Option String
  deriving DecidableEq, Repr

inductive SchemaChangeKind where
  | tableAdded | tableRemoved | columnAdded | columnRemoved | columnChanged
  | relationshipsChanged | indexesChanged | commentChanged
  deriving DecidableEq, Repr

structure SchemaChange where
  kind : SchemaChangeKind
  table : String
  column : Option String := none
  before : Option ColumnSignature := none
  after : Option ColumnSignature := none
  deriving DecidableEq, Repr

inductive RenamedObject where
  | table | column
  deriving DecidableEq, Repr

structure PossibleRename where
  objectType : RenamedObject
  fromName : String
  toName : String
  table : Option String := none
  deriving DecidableEq, Repr

structure SchemaDiff where
  beforeFingerprint : String
  afterFingerprint : String
  changed : Bool
  changes : List SchemaChange
  possibleRenames : List PossibleRename
  deriving DecidableEq, Repr

section Named

variable {α : Type}

/-- The items under their names. -/
def byName (name : α → String) (items : List α) : List (String × α) :=
  dictOf (items.map fun item => (name item, item))

/-- The entries under keys that another dictionary lacks. -/
def keysWithout (entries others : List (String × α)) : List (String × α) :=
  entries.filter fun entry => (dictGet others entry.1).isNone

/-- `_unique_rename_pairs`, for the removed entries in the order they are listed. -/
def uniqueRenamePairs {σ : Type} [DecidableEq σ] (removed added : List (String × α))
    (signature : α → σ) : List (String × String) :=
  removed.filterMap fun old =>
    match added.filter fun candidate => signature old.2 = signature candidate.2 with
    | [new] =>
        if (removed.filter fun candidate => signature candidate.2 = signature new.2).length = 1 then
          some (old.1, new.1)
        else none
    | _ => none

theorem dictGet_byName {name : α → String} {items : List α} (distinct : (items.map name).Nodup)
    {key : String} {item : α} :
    dictGet (byName name items) key = some item ↔ item ∈ items ∧ name item = key := by
  rw [byName, dictGet_dictOf]
  constructor
  · intro found
    have member := List.mem_reverse.mp (dictGet_eq_some_mem found)
    obtain ⟨same, inside, pair⟩ := List.mem_map.mp member
    cases pair
    exact ⟨inside, rfl⟩
  · rintro ⟨inside, rfl⟩
    apply dictGet_of_mem_nodup
    · rw [dictKeys, List.map_reverse, List.map_map]
      exact List.nodup_reverse.mpr distinct
    · exact List.mem_reverse.mpr (List.mem_map_of_mem inside)

theorem mem_dictKeys_byName {name : α → String} {items : List α} {key : String} :
    key ∈ dictKeys (byName name items) ↔ ∃ item ∈ items, name item = key := by
  rw [byName, mem_dictKeys_dictOf, List.map_map]
  exact List.mem_map

theorem mem_dictKeys_keysWithout {entries others : List (String × α)} {key : String} :
    key ∈ dictKeys (keysWithout entries others) ↔ key ∈ dictKeys entries ∧ key ∉ dictKeys others := by
  simp only [dictKeys, keysWithout, List.mem_map, List.mem_filter, Option.isNone_iff_eq_none]
  constructor
  · rintro ⟨entry, ⟨member, absent⟩, rfl⟩
    exact ⟨⟨entry, member, rfl⟩, fun within => dictGet_eq_none_iff.mp absent (List.mem_map.mpr within)⟩
  · rintro ⟨⟨entry, member, rfl⟩, absent⟩
    exact ⟨entry, ⟨member, dictGet_eq_none_iff.mpr fun within => absent (List.mem_map.mp within)⟩,
      rfl⟩

end Named

section Difference

variable (runtime : SchemaRuntime)

/-- `_table_signature`. -/
def ObservedTable.signature (table : ObservedTable) : TableSignature where
  columns := table.columns.map fun column => (runtime.lower column.name, column.signature)
  foreignKeys := table.foreignKeys
  indexes := table.indexes
  commentFingerprint := table.commentFingerprint

/-- `sorted(names, key=str.lower)`. -/
def sortedNames (names : List String) : List String :=
  names.insertionSort fun first second =>
    (runtime.lower first).toList ≤ (runtime.lower second).toList

/-- What two dictionaries hold under the names they share. -/
def sharedEntries {α : Type} (old new : List (String × α)) : List (String × α × α) :=
  (sortedNames runtime ((dictKeys old).filter fun name => (dictGet new name).isSome)).filterMap
    fun name => (dictGet old name).bind fun before =>
      (dictGet new name).map fun after => (name, before, after)

/-- The changes of one column. -/
def columnChange (table : String) (entry : String × ObservedColumn × ObservedColumn) :
    List SchemaChange :=
  if entry.2.1.signature ≠ entry.2.2.signature then
    [{ kind := .columnChanged, table := table, column := some entry.1,
       before := some entry.2.1.signature, after := some entry.2.2.signature }]
  else []

/-- The changes of one table. -/
def tableChanges (entry : String × ObservedTable × ObservedTable) : List SchemaChange :=
  let (table, old, new) := entry
  let oldColumns := byName ObservedColumn.name old.columns
  let newColumns := byName ObservedColumn.name new.columns
  let named (kind : SchemaChangeKind) (names : List String) : List SchemaChange :=
    (sortedNames runtime names).map fun name => { kind := kind, table := table, column := some name }
  let whole (kind : SchemaChangeKind) (differs : Bool) : List SchemaChange :=
    if differs then [{ kind := kind, table := table }] else []
  named .columnRemoved (dictKeys (keysWithout oldColumns newColumns)) ++
    named .columnAdded (dictKeys (keysWithout newColumns oldColumns)) ++
    (sharedEntries runtime oldColumns newColumns).flatMap (columnChange table) ++
    whole .relationshipsChanged (old.foreignKeys ≠ new.foreignKeys) ++
    whole .indexesChanged (old.indexes ≠ new.indexes) ++
    whole .commentChanged (old.commentFingerprint ≠ new.commentFingerprint)

/-- The columns of a table that may have been renamed. -/
def columnRenames (entry : String × ObservedTable × ObservedTable) : List PossibleRename :=
  let oldColumns := byName ObservedColumn.name entry.2.1.columns
  let newColumns := byName ObservedColumn.name entry.2.2.columns
  (uniqueRenamePairs (keysWithout oldColumns newColumns) (keysWithout newColumns oldColumns)
    ObservedColumn.signature).map fun pair =>
      { objectType := .column, fromName := pair.1, toName := pair.2, table := some entry.1 }

/-- `diff_schema_snapshots`. -/
def diffSchemaSnapshots (before after : ObservedSchemaSnapshot) : CatalogResult SchemaDiff := do
  refuse (decide (before.connectionId ≠ after.connectionId))
    (validationError "schema snapshots must belong to the same connection")
  let oldTables := byName ObservedTable.name before.tables
  let newTables := byName ObservedTable.name after.tables
  let removed := keysWithout oldTables newTables
  let added := keysWithout newTables oldTables
  let shared := sharedEntries runtime oldTables newTables
  let whole (kind : SchemaChangeKind) (names : List String) : List SchemaChange :=
    (sortedNames runtime names).map fun name => { kind := kind, table := name }
  pure
    { beforeFingerprint := before.fingerprint
      afterFingerprint := after.fingerprint
      changed := before.fingerprint ≠ after.fingerprint
      changes := whole .tableRemoved (dictKeys removed) ++ whole .tableAdded (dictKeys added) ++
        shared.flatMap (tableChanges runtime)
      possibleRenames :=
        ((uniqueRenamePairs removed added (ObservedTable.signature runtime)).map fun pair =>
          { objectType := .table, fromName := pair.1, toName := pair.2 }) ++
        shared.flatMap columnRenames }

variable {runtime}

theorem diffSchemaSnapshots_of_connection {before after : ObservedSchemaSnapshot}
    (same : before.connectionId = after.connectionId) :
    ∃ diff, diffSchemaSnapshots runtime before after = .ok diff := by
  unfold diffSchemaSnapshots
  rw [refuse, if_neg (by simpa using same)]
  exact ⟨_, rfl⟩

theorem mem_sortedNames {names : List String} {name : String} :
    name ∈ sortedNames runtime names ↔ name ∈ names :=
  (List.perm_insertionSort _ names).mem_iff

/-- Whatever two dictionaries have under one name is compared. -/
theorem mem_sharedEntries {α : Type} {old new : List (String × α)} {name : String}
    {before after : α} (was : dictGet old name = some before) (is : dictGet new name = some after) :
    (name, before, after) ∈ sharedEntries runtime old new := by
  apply List.mem_filterMap.mpr
  refine ⟨name, mem_sortedNames.mpr (List.mem_filter.mpr ⟨?_, by rw [is]; rfl⟩), ?_⟩
  · exact dictGet_isSome_iff.mp (by rw [was]; rfl)
  · rw [was, is]
    rfl

/-- Names that differ without their letter case differ. -/
theorem nodup_of_casefold {α : Type} {name : α → String} {items : List α}
    (folded : (items.map fun item => casefold (name item)).Nodup) : (items.map name).Nodup := by
  apply List.Nodup.of_map casefold
  rwa [List.map_map]

section Compared

variable {before after : ObservedSchemaSnapshot} {diff : SchemaDiff}
  (compared : diffSchemaSnapshots runtime before after = .ok diff)

include compared

theorem changes_eq_of_diff : diff.changes =
    (sortedNames runtime (dictKeys (keysWithout (byName ObservedTable.name before.tables)
      (byName ObservedTable.name after.tables)))).map
        (fun name => { kind := .tableRemoved, table := name }) ++
    (sortedNames runtime (dictKeys (keysWithout (byName ObservedTable.name after.tables)
      (byName ObservedTable.name before.tables)))).map
        (fun name => { kind := .tableAdded, table := name }) ++
    (sharedEntries runtime (byName ObservedTable.name before.tables)
      (byName ObservedTable.name after.tables)).flatMap (tableChanges runtime) := by
  unfold diffSchemaSnapshots at compared
  obtain ⟨_, _, finished⟩ := (bind_eq_ok_iff ..).mp compared
  rw [← Except.ok.inj finished]

/-- A table that is gone is reported. -/
theorem removed_mem_changes {table : ObservedTable} (was : table ∈ before.tables)
    (gone : ∀ other ∈ after.tables, other.name ≠ table.name) :
    { kind := .tableRemoved, table := table.name } ∈ diff.changes := by
  rw [changes_eq_of_diff compared]
  refine List.mem_append_left _ (List.mem_append_left _ (List.mem_map.mpr ⟨table.name, ?_, rfl⟩))
  apply mem_sortedNames.mpr
  apply mem_dictKeys_keysWithout.mpr
  refine ⟨mem_dictKeys_byName.mpr ⟨table, was, rfl⟩, fun within => ?_⟩
  obtain ⟨other, inside, same⟩ := mem_dictKeys_byName.mp within
  exact gone other inside same

/-- What differs in a table that stays is reported. -/
theorem tableChanges_subset_changes (beforeVerified : before.Verified runtime)
    (afterVerified : after.Verified runtime) {old new : ObservedTable} (was : old ∈ before.tables)
    (is : new ∈ after.tables) (same : new.name = old.name) {change : SchemaChange}
    (member : change ∈ tableChanges runtime (old.name, old, new)) : change ∈ diff.changes := by
  rw [changes_eq_of_diff compared]
  refine List.mem_append_right _ (List.mem_flatMap.mpr ⟨_, mem_sharedEntries ?_ ?_, member⟩)
  · exact (dictGet_byName (nodup_of_casefold beforeVerified.tableNames)).mpr ⟨was, rfl⟩
  · exact (dictGet_byName (nodup_of_casefold afterVerified.tableNames)).mpr ⟨is, same⟩

end Compared

section OneTable

variable {name : String} {old new : ObservedTable}

theorem foreignKeys_reported (differ : old.foreignKeys ≠ new.foreignKeys) :
    { kind := .relationshipsChanged, table := name } ∈ tableChanges runtime (name, old, new) := by
  simp [tableChanges, differ]

theorem indexes_reported (differ : old.indexes ≠ new.indexes) :
    { kind := .indexesChanged, table := name } ∈ tableChanges runtime (name, old, new) := by
  simp [tableChanges, differ]

theorem comment_reported (differ : old.commentFingerprint ≠ new.commentFingerprint) :
    { kind := .commentChanged, table := name } ∈ tableChanges runtime (name, old, new) := by
  simp [tableChanges, differ]

/-- A column that is gone is reported. -/
theorem column_removed_reported {column : ObservedColumn} (was : column ∈ old.columns)
    (gone : ∀ other ∈ new.columns, other.name ≠ column.name) :
    { kind := .columnRemoved, table := name, column := some column.name } ∈
      tableChanges runtime (name, old, new) := by
  have listed : column.name ∈ dictKeys (keysWithout (byName ObservedColumn.name old.columns)
      (byName ObservedColumn.name new.columns)) := by
    apply mem_dictKeys_keysWithout.mpr
    refine ⟨mem_dictKeys_byName.mpr ⟨column, was, rfl⟩, fun within => ?_⟩
    obtain ⟨other, inside, same⟩ := mem_dictKeys_byName.mp within
    exact gone other inside same
  simp only [tableChanges, List.append_assoc]
  exact List.mem_append_left _ (List.mem_map.mpr ⟨_, mem_sortedNames.mpr listed, rfl⟩)

/-- A column that stays but is not what it was is reported. -/
theorem column_changed_reported (oldDistinct : (old.columns.map ObservedColumn.name).Nodup)
    (newDistinct : (new.columns.map ObservedColumn.name).Nodup) {column other : ObservedColumn}
    (was : column ∈ old.columns) (is : other ∈ new.columns) (same : other.name = column.name)
    (differ : column ≠ other) :
    ∃ change ∈ tableChanges runtime (name, old, new), change.kind = .columnChanged ∧
      change.table = name ∧ change.column = some column.name := by
  have signatures : column.signature ≠ other.signature := by
    intro equal
    apply differ
    cases column
    cases other
    simp_all [ObservedColumn.signature]
  have shared : (column.name, column, other) ∈ sharedEntries runtime
      (byName ObservedColumn.name old.columns) (byName ObservedColumn.name new.columns) :=
    mem_sharedEntries ((dictGet_byName oldDistinct).mpr ⟨was, rfl⟩)
      ((dictGet_byName newDistinct).mpr ⟨is, same⟩)
  refine ⟨{ kind := .columnChanged, table := name, column := some column.name,
            before := some column.signature, after := some other.signature }, ?_, rfl, rfl, rfl⟩
  simp only [tableChanges, List.append_assoc]
  apply List.mem_append_right
  apply List.mem_append_right
  apply List.mem_append_left
  refine List.mem_flatMap.mpr ⟨_, shared, ?_⟩
  rw [columnChange, if_pos signatures]
  exact List.mem_singleton_self _

end OneTable

end Difference

end QueryGate.Catalog
