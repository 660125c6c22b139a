import Mathlib.Data.Prod.Lex
import QueryGate.Catalog.SchemaMemory
import QueryGate.Foundation.KeyedSort

/-! # Snapshots of reflected tables

`ObservedSchemaSnapshot.from_tables`: what a snapshot keeps of the tables a database reflects,
in an order of its own.
-/

namespace QueryGate.Catalog

open Foundation

/-! ## Reflected tables -/

structure ReflectedColumn where
  name : String
  /-- `str(column.type)`. -/
  typeText : String
  nullable : Bool
  primaryKey : Bool := false
  comment : Option String := none
  deriving DecidableEq, Repr

structure ReflectedForeignKey where
  parent : String
  targetFullname : String
  deriving DecidableEq, Repr

structure ReflectedIndex where
  columns : List String
  unique : Bool := false
  deriving DecidableEq, Repr

structure ReflectedTable where
  name : String
  columns : List ReflectedColumn
  foreignKeys : List ReflectedForeignKey := []
  indexes : List ReflectedIndex := []
  comment : Option String := none
  deriving DecidableEq, Repr

/-- Why `from_tables` raises. -/
inductive SnapshotError where
  /-- A field is shorter or longer than its model allows. -/
  | bounds (field : String)
  | validation (message : String)
  /-- `IndexError`: a target without a dot. -/
  | listIndex
  deriving DecidableEq, Repr

def checkBounds (field : String) (least most size : Nat) : Except SnapshotError Unit :=
  refuse (decide (size < least ∨ most < size)) (.bounds field)

theorem checkBounds_eq_ok_iff {field : String} {least most size : Nat} {result : Unit} :
    checkBounds field least most size = .ok result ↔ least ≤ size ∧ size ≤ most := by
  simp [checkBounds]

/-! ## What is kept of them -/

/-- `target_fullname.split(".")[-2]` and `[-1]`. -/
def targetParts (fullname : String) : Option (String × String) :=
  match (fullname.toList.splitOn '.').reverse with
  | column :: table :: _ => some (String.ofList table, String.ofList column)
  | _ => none

def ReflectedForeignKey.observe (key : ReflectedForeignKey) :
    Except SnapshotError ObservedForeignKey :=
  match targetParts key.targetFullname with
  | none => .error .listIndex
  | some (toTable, toColumn) => do
      checkBounds "column" 1 256 key.parent.length
      checkBounds "to_table" 1 256 toTable.length
      checkBounds "to_column" 1 256 toColumn.length
      pure { column := key.parent, toTable := toTable, toColumn := toColumn }

def ReflectedIndex.observe (index : ReflectedIndex) : Except SnapshotError ObservedIndex := do
  checkBounds "columns" 1 2000 index.columns.length
  checkAll (fun column => checkBounds "columns" 1 256 column.length) index.columns
  pure { columns := index.columns, unique := index.unique }

/-- `(value.column, value.to_table, value.to_column)`. -/
def ObservedForeignKey.sortKey (key : ObservedForeignKey) : List (List Char) :=
  [key.column.toList, key.toTable.toList, key.toColumn.toList]

/-- `(value.columns, value.unique)`. -/
def ObservedIndex.sortKey (index : ObservedIndex) : List (List Char) ×ₗ Bool :=
  toLex (index.columns.map String.toList, index.unique)

section Observation

variable (runtime : SchemaRuntime)

/-- `_text_fingerprint`. -/
def textFingerprint (text : Option String) : Option String :=
  text.map fun value => runtime.sha256 (encodeUtf8 value.toList)

/-- `(value.name.lower(), value.name)`. -/
def nameKey (name : String) : List Char ×ₗ List Char :=
  toLex ((runtime.lower name).toList, name.toList)

def ReflectedColumn.observe (column : ReflectedColumn) : Except SnapshotError ObservedColumn := do
  checkBounds "name" 1 256 column.name.length
  checkBounds "data_type" 1 1000 column.typeText.length
  pure
    { name := column.name
      dataType := column.typeText
      nullable := column.nullable
      primaryKey := column.primaryKey
      commentFingerprint := textFingerprint runtime column.comment }

def ReflectedTable.observe (table : ReflectedTable) : Except SnapshotError ObservedTable := do
  let columns ← mapAll (ReflectedColumn.observe runtime)
    (sortOn (fun column => nameKey runtime column.name) table.columns)
  let foreignKeys ← mapAll ReflectedForeignKey.observe table.foreignKeys
  let indexes ← mapAll ReflectedIndex.observe table.indexes
  checkBounds "name" 1 256 table.name.length
  checkBounds "columns" 0 2000 columns.length
  checkBounds "foreign_keys" 0 4000 foreignKeys.length
  checkBounds "indexes" 0 2000 indexes.length
  refuse (decide ¬(columns.map fun column => casefold column.name).Nodup)
    (.validation "observed column names must be unique case-insensitively")
  pure
    { name := table.name
      columns := columns
      foreignKeys := sortOn ObservedForeignKey.sortKey foreignKeys
      indexes := sortOn ObservedIndex.sortKey indexes
      commentFingerprint := textFingerprint runtime table.comment }

/-- `ObservedSchemaSnapshot.from_tables`. -/
def fromTables (connectionId : String) (tables : List ReflectedTable) :
    Except SnapshotError ObservedSchemaSnapshot := do
  let observed ← mapAll (ReflectedTable.observe runtime)
    (sortOn (fun table => nameKey runtime table.name) tables)
  checkBounds "connection_id" 1 100 connectionId.length
  checkBounds "tables" 0 5000 observed.length
  refuse (decide ¬(observed.map fun table => casefold table.name).Nodup)
    (.validation "observed table names must be unique case-insensitively")
  pure
    { connectionId := connectionId
      tables := observed
      fingerprint := payloadFingerprint runtime (canonicalPayload connectionId observed) }

variable {runtime}

theorem nameKey_injective : Function.Injective (nameKey runtime) := by
  intro first second same
  have pairs : ((runtime.lower first).toList, first.toList) =
      ((runtime.lower second).toList, second.toList) := same
  exact String.toList_injective (Prod.ext_iff.mp pairs).2

theorem textFingerprint_injective (injective : Function.Injective runtime.sha256) :
    Function.Injective (textFingerprint runtime) := by
  apply Option.map_injective
  intro first second same
  exact String.toList_injective (encodeUtf8_injective (injective same))

theorem ObservedForeignKey.sortKey_injective : Function.Injective ObservedForeignKey.sortKey := by
  intro first second same
  cases first
  cases second
  simp only [ObservedForeignKey.sortKey, List.cons.injEq, String.toList_inj, and_true] at same
  obtain ⟨rfl, rfl, rfl⟩ := same
  rfl

theorem ObservedIndex.sortKey_injective : Function.Injective ObservedIndex.sortKey := by
  intro first second same
  cases first with | mk columns unique =>
  cases second with | mk otherColumns otherUnique =>
  have pairs : (columns.map String.toList, unique) =
      (otherColumns.map String.toList, otherUnique) := same
  obtain ⟨texts, rfl⟩ := Prod.mk.inj pairs
  have letters : Function.Injective String.toList := fun _ _ equal => String.toList_injective equal
  rw [List.map_injective_iff.mpr letters texts]

/-! ## What a snapshot keeps of each object -/

theorem ReflectedColumn.observe_eq_ok_iff {column : ReflectedColumn} {observed : ObservedColumn} :
    column.observe runtime = .ok observed ↔
      (1 ≤ column.name.length ∧ column.name.length ≤ 256) ∧
      (1 ≤ column.typeText.length ∧ column.typeText.length ≤ 1000) ∧
      observed = { name := column.name, dataType := column.typeText, nullable := column.nullable,
                   primaryKey := column.primaryKey,
                   commentFingerprint := textFingerprint runtime column.comment } := by
  simp only [ReflectedColumn.observe, seq_eq_ok_iff, checkBounds_eq_ok_iff, pure, Except.pure,
    Except.ok.injEq, eq_comm (a := observed)]

theorem ReflectedColumn.name_observe {column : ReflectedColumn} {observed : ObservedColumn}
    (read : column.observe runtime = .ok observed) : observed.name = column.name := by
  obtain ⟨_, _, rfl⟩ := ReflectedColumn.observe_eq_ok_iff.mp read
  rfl

theorem ReflectedTable.observe_eq_ok_iff {table : ReflectedTable} {observed : ObservedTable} :
    table.observe runtime = .ok observed ↔ ∃ columns foreignKeys indexes,
      mapAll (ReflectedColumn.observe runtime)
        (sortOn (fun column => nameKey runtime column.name) table.columns) = .ok columns ∧
      mapAll ReflectedForeignKey.observe table.foreignKeys = .ok foreignKeys ∧
      mapAll ReflectedIndex.observe table.indexes = .ok indexes ∧
      (1 ≤ table.name.length ∧ table.name.length ≤ 256) ∧ columns.length ≤ 2000 ∧
      foreignKeys.length ≤ 4000 ∧ indexes.length ≤ 2000 ∧
      (columns.map fun column => casefold column.name).Nodup ∧
      observed = { name := table.name, columns := columns,
                   foreignKeys := sortOn ObservedForeignKey.sortKey foreignKeys,
                   indexes := sortOn ObservedIndex.sortKey indexes,
                   commentFingerprint := textFingerprint runtime table.comment } := by
  simp only [ReflectedTable.observe, bind_eq_ok_iff, checkBounds_eq_ok_iff, refuse_eq_ok_iff,
    exists_const, pure, Except.pure, Except.ok.injEq, eq_comm (a := observed), Nat.zero_le,
    true_and, decide_eq_false_iff_not, not_not, ← exists_and_left]

theorem fromTables_eq_ok_iff {connectionId : String} {tables : List ReflectedTable}
    {snapshot : ObservedSchemaSnapshot} :
    fromTables runtime connectionId tables = .ok snapshot ↔ ∃ observed,
      mapAll (ReflectedTable.observe runtime)
        (sortOn (fun table => nameKey runtime table.name) tables) = .ok observed ∧
      (1 ≤ connectionId.length ∧ connectionId.length ≤ 100) ∧ observed.length ≤ 5000 ∧
      (observed.map fun table => casefold table.name).Nodup ∧
      snapshot = { connectionId := connectionId, tables := observed,
                   fingerprint := payloadFingerprint runtime
                     (canonicalPayload connectionId observed) } := by
  simp only [fromTables, bind_eq_ok_iff, checkBounds_eq_ok_iff, refuse_eq_ok_iff,
    exists_const, pure, Except.pure, Except.ok.injEq, eq_comm (a := snapshot), Nat.zero_le,
    true_and, decide_eq_false_iff_not, not_not]

theorem ReflectedTable.name_observe {table : ReflectedTable} {observed : ObservedTable}
    (read : table.observe runtime = .ok observed) : observed.name = table.name := by
  obtain ⟨_, _, _, _, _, _, _, _, _, _, _, rfl⟩ := ReflectedTable.observe_eq_ok_iff.mp read
  rfl

/-- Names that differ without their letter case are told apart by their sort key. -/
theorem nameKey_injOn_of_casefold {α : Type} {name : α → String} {items : List α}
    (folded : (items.map fun item => casefold (name item)).Nodup) :
    ∀ first ∈ items, ∀ second ∈ items,
      nameKey runtime (name first) = nameKey runtime (name second) → first = second := by
  intro first member second otherMember same
  exact List.inj_on_of_nodup_map (nodup_of_casefold folded) member otherMember
    (nameKey_injective same)

end Observation

/-! ## The order of enumeration -/

/-- Two enumerations of one reflected table. -/
structure ReflectedTable.Reordered (table other : ReflectedTable) : Prop where
  name : table.name = other.name
  columns : table.columns.Perm other.columns
  foreignKeys : table.foreignKeys.Perm other.foreignKeys
  indexes : table.indexes.Perm other.indexes
  comment : table.comment = other.comment

theorem ReflectedTable.Reordered.symm {table other : ReflectedTable}
    (same : table.Reordered other) : other.Reordered table :=
  ⟨same.name.symm, same.columns.symm, same.foreignKeys.symm, same.indexes.symm, same.comment.symm⟩

/-- Two enumerations of the same reflected tables: matched with each other, the tables are the
same up to the order of what they list. -/
def SameReflection (tables others : List ReflectedTable) : Prop :=
  ∃ matched otherMatched, tables.Perm matched ∧ others.Perm otherMatched ∧
    List.Forall₂ ReflectedTable.Reordered matched otherMatched

theorem SameReflection.symm {tables others : List ReflectedTable}
    (same : SameReflection tables others) : SameReflection others tables := by
  obtain ⟨matched, otherMatched, moved, otherMoved, each⟩ := same
  exact ⟨otherMatched, matched, otherMoved, moved, each.flip.imp fun _ _ => .symm⟩

section Enumeration

variable {runtime : SchemaRuntime}

theorem ReflectedTable.Reordered.observe {table other : ReflectedTable}
    (same : table.Reordered other) {observed : ObservedTable}
    (read : table.observe runtime = .ok observed) : other.observe runtime = .ok observed := by
  obtain ⟨columns, foreignKeys, indexes, columnsRead, keysRead, indexesRead, named, columnCount,
    keyCount, indexCount, distinct, rfl⟩ := ReflectedTable.observe_eq_ok_iff.mp read
  obtain ⟨otherColumns, otherColumnsRead, columnsMoved⟩ :=
    mapAll_perm columnsRead ((sortOn_perm _ _).trans same.columns)
  obtain ⟨otherKeys, otherKeysRead, keysMoved⟩ := mapAll_perm keysRead same.foreignKeys
  obtain ⟨otherIndexes, otherIndexesRead, indexesMoved⟩ := mapAll_perm indexesRead same.indexes
  apply ReflectedTable.observe_eq_ok_iff.mpr
  refine ⟨columns, otherKeys, otherIndexes, ?_, otherKeysRead, otherIndexesRead, same.name ▸ named,
    columnCount, keysMoved.length_eq ▸ keyCount, indexesMoved.length_eq ▸ indexCount, distinct, ?_⟩
  · exact mapAll_sortOn_of_perm
      (fun _ _ read => congrArg (nameKey runtime) (ReflectedColumn.name_observe read)) columnsRead
      (nameKey_injOn_of_casefold distinct) otherColumnsRead columnsMoved
  · rw [same.name, same.comment,
      (sortOn_eq_iff ObservedForeignKey.sortKey_injective).mpr keysMoved,
      (sortOn_eq_iff ObservedIndex.sortKey_injective).mpr indexesMoved]

theorem SameReflection.fromTables_eq_ok {tables others : List ReflectedTable}
    (same : SameReflection tables others) {connectionId : String}
    {snapshot : ObservedSchemaSnapshot}
    (read : fromTables runtime connectionId tables = .ok snapshot) :
    fromTables runtime connectionId others = .ok snapshot := by
  obtain ⟨observed, observedRead, named, counted, distinct, rfl⟩ := fromTables_eq_ok_iff.mp read
  obtain ⟨matched, otherMatched, moved, otherMoved, each⟩ := same
  obtain ⟨images, imagesRead, imagesMoved⟩ :=
    mapAll_perm observedRead ((sortOn_perm _ _).trans moved)
  have kept : ∀ table other image, ReflectedTable.Reordered table other →
      table.observe runtime = .ok image → other.observe runtime = .ok image :=
    fun _ _ _ reordered => reordered.observe
  have otherImagesRead := mapAll_of_matched kept each imagesRead
  obtain ⟨otherImages, othersRead, othersMoved⟩ := mapAll_perm otherImagesRead otherMoved.symm
  apply fromTables_eq_ok_iff.mpr
  refine ⟨observed, ?_, named, counted, distinct, rfl⟩
  exact mapAll_sortOn_of_perm
    (fun _ _ read => congrArg (nameKey runtime) (ReflectedTable.name_observe read)) observedRead
    (nameKey_injOn_of_casefold distinct) othersRead (imagesMoved.trans othersMoved)

/-- The snapshot does not depend on the order in which the objects are enumerated. -/
theorem SameReflection.toOption_fromTables {tables others : List ReflectedTable}
    (same : SameReflection tables others) (connectionId : String) :
    (fromTables runtime connectionId tables).toOption =
      (fromTables runtime connectionId others).toOption := by
  apply Option.ext
  intro snapshot
  have read : ∀ listed, (fromTables runtime connectionId listed).toOption = some snapshot ↔
      fromTables runtime connectionId listed = .ok snapshot := by
    intro listed
    cases fromTables runtime connectionId listed <;> simp [Except.toOption]
  rw [read, read]
  exact ⟨same.fromTables_eq_ok, same.symm.fromTables_eq_ok⟩

end Enumeration

/-! ## Two snapshots of reflected tables -/

section Read

variable {runtime : SchemaRuntime}

theorem ReflectedTable.mem_columns_observe {table : ReflectedTable} {observed : ObservedTable}
    (read : table.observe runtime = .ok observed) {image : ObservedColumn} :
    image ∈ observed.columns ↔ ∃ column ∈ table.columns, column.observe runtime = .ok image := by
  obtain ⟨columns, _, _, columnsRead, _, _, _, _, _, _, _, rfl⟩ :=
    ReflectedTable.observe_eq_ok_iff.mp read
  constructor
  · intro member
    obtain ⟨column, listed, columnRead⟩ := mapAll_preimage columnsRead member
    exact ⟨column, (sortOn_perm _ _).mem_iff.mp listed, columnRead⟩
  · rintro ⟨column, listed, columnRead⟩
    obtain ⟨other, member, otherRead⟩ :=
      mapAll_image columnsRead ((sortOn_perm _ _).mem_iff.mpr listed)
    cases columnRead.symm.trans otherRead
    exact member

theorem ReflectedTable.exists_observe_column {table : ReflectedTable} {observed : ObservedTable}
    (read : table.observe runtime = .ok observed) {column : ReflectedColumn}
    (member : column ∈ table.columns) : ∃ image, column.observe runtime = .ok image := by
  obtain ⟨_, _, _, columnsRead, _⟩ := ReflectedTable.observe_eq_ok_iff.mp read
  obtain ⟨image, _, columnRead⟩ := mapAll_image columnsRead ((sortOn_perm _ _).mem_iff.mpr member)
  exact ⟨image, columnRead⟩

theorem ReflectedTable.columnNames_observe {table : ReflectedTable} {observed : ObservedTable}
    (read : table.observe runtime = .ok observed) :
    (observed.columns.map fun column => casefold column.name).Nodup := by
  obtain ⟨_, _, _, _, _, _, _, _, _, _, distinct, rfl⟩ := ReflectedTable.observe_eq_ok_iff.mp read
  exact distinct

theorem ReflectedTable.sorted_observe {table : ReflectedTable} {observed : ObservedTable}
    (read : table.observe runtime = .ok observed) :
    observed.columns.Pairwise fun first second =>
      nameKey runtime first.name ≤ nameKey runtime second.name := by
  obtain ⟨_, _, _, columnsRead, _, _, _, _, _, _, _, rfl⟩ :=
    ReflectedTable.observe_eq_ok_iff.mp read
  exact sorted_of_mapAll
    (fun _ _ columnRead => congrArg (nameKey runtime) (ReflectedColumn.name_observe columnRead))
    columnsRead (pairwise_sortOn _ _)

/-- The foreign keys of two snapshots agree when each key has the same column and target. -/
theorem ReflectedTable.foreignKeys_observe_eq_iff {table other : ReflectedTable}
    {observed otherObserved : ObservedTable} (read : table.observe runtime = .ok observed)
    (otherRead : other.observe runtime = .ok otherObserved) :
    observed.foreignKeys = otherObserved.foreignKeys ↔
      (table.foreignKeys.map ReflectedForeignKey.observe).Perm
        (other.foreignKeys.map ReflectedForeignKey.observe) := by
  obtain ⟨_, _, _, _, keysRead, _, _, _, _, _, _, rfl⟩ := ReflectedTable.observe_eq_ok_iff.mp read
  obtain ⟨_, _, _, _, otherKeysRead, _, _, _, _, _, _, rfl⟩ :=
    ReflectedTable.observe_eq_ok_iff.mp otherRead
  rw [mapAll_perm_iff keysRead otherKeysRead]
  exact sortOn_eq_iff ObservedForeignKey.sortKey_injective

/-- A snapshot keeps the whole index. -/
theorem ReflectedIndex.reflected_observe (index : ReflectedIndex) (observed : ObservedIndex)
    (read : index.observe = .ok observed) :
    { columns := observed.columns, unique := observed.unique : ReflectedIndex } = index := by
  simp only [ReflectedIndex.observe, seq_eq_ok_iff, pure, Except.pure, Except.ok.injEq] at read
  obtain ⟨_, _, rfl⟩ := read
  rfl

theorem ReflectedIndex.map_reflected {indexes : List ReflectedIndex} {images : List ObservedIndex}
    (read : mapAll ReflectedIndex.observe indexes = .ok images) :
    (images.map fun index =>
      { columns := index.columns, unique := index.unique : ReflectedIndex }) = indexes :=
  (map_eq_of_mapAll ReflectedIndex.reflected_observe read).trans (List.map_id' indexes)

theorem ReflectedTable.indexes_observe_eq_iff {table other : ReflectedTable}
    {observed otherObserved : ObservedTable} (read : table.observe runtime = .ok observed)
    (otherRead : other.observe runtime = .ok otherObserved) :
    observed.indexes = otherObserved.indexes ↔ table.indexes.Perm other.indexes := by
  obtain ⟨_, _, _, _, _, indexesRead, _, _, _, _, _, rfl⟩ :=
    ReflectedTable.observe_eq_ok_iff.mp read
  obtain ⟨_, _, _, _, _, otherIndexesRead, _, _, _, _, _, rfl⟩ :=
    ReflectedTable.observe_eq_ok_iff.mp otherRead
  constructor
  · intro same
    have moved := (sortOn_eq_iff ObservedIndex.sortKey_injective).mp same
    have kept := moved.map fun index =>
      { columns := index.columns, unique := index.unique : ReflectedIndex }
    rwa [ReflectedIndex.map_reflected indexesRead,
      ReflectedIndex.map_reflected otherIndexesRead] at kept
  · intro same
    apply (sortOn_eq_iff ObservedIndex.sortKey_injective).mpr
    exact (mapAll_perm_iff indexesRead otherIndexesRead).mp (same.map _)

theorem ReflectedTable.comment_observe_eq_iff (injective : Function.Injective runtime.sha256)
    {table other : ReflectedTable} {observed otherObserved : ObservedTable}
    (read : table.observe runtime = .ok observed)
    (otherRead : other.observe runtime = .ok otherObserved) :
    observed.commentFingerprint = otherObserved.commentFingerprint ↔
      table.comment = other.comment := by
  obtain ⟨_, _, _, _, _, _, _, _, _, _, _, rfl⟩ := ReflectedTable.observe_eq_ok_iff.mp read
  obtain ⟨_, _, _, _, _, _, _, _, _, _, _, rfl⟩ := ReflectedTable.observe_eq_ok_iff.mp otherRead
  exact (textFingerprint_injective injective).eq_iff

/-- A snapshot has the same content of two columns of one name when they are the same. -/
theorem ReflectedColumn.signature_observe_eq_iff (injective : Function.Injective runtime.sha256)
    {column other : ReflectedColumn} {observed otherObserved : ObservedColumn}
    (read : column.observe runtime = .ok observed)
    (otherRead : other.observe runtime = .ok otherObserved) (named : other.name = column.name) :
    observed.signature = otherObserved.signature ↔ column = other := by
  obtain ⟨_, _, rfl⟩ := ReflectedColumn.observe_eq_ok_iff.mp read
  obtain ⟨_, _, rfl⟩ := ReflectedColumn.observe_eq_ok_iff.mp otherRead
  cases column
  cases other
  simp_all [ObservedColumn.signature, (textFingerprint_injective injective).eq_iff]

variable {connectionId : String} {tables : List ReflectedTable} {snapshot : ObservedSchemaSnapshot}

theorem mem_tables_fromTables (read : fromTables runtime connectionId tables = .ok snapshot)
    {observed : ObservedTable} :
    observed ∈ snapshot.tables ↔ ∃ table ∈ tables, table.observe runtime = .ok observed := by
  obtain ⟨_, observedRead, _, _, _, rfl⟩ := fromTables_eq_ok_iff.mp read
  constructor
  · intro member
    obtain ⟨table, listed, tableRead⟩ := mapAll_preimage observedRead member
    exact ⟨table, (sortOn_perm _ _).mem_iff.mp listed, tableRead⟩
  · rintro ⟨table, listed, tableRead⟩
    obtain ⟨other, member, otherRead⟩ :=
      mapAll_image observedRead ((sortOn_perm _ _).mem_iff.mpr listed)
    cases tableRead.symm.trans otherRead
    exact member

theorem exists_observe_of_fromTables
    (read : fromTables runtime connectionId tables = .ok snapshot) {table : ReflectedTable}
    (member : table ∈ tables) : ∃ observed, table.observe runtime = .ok observed := by
  obtain ⟨_, observedRead, _⟩ := fromTables_eq_ok_iff.mp read
  obtain ⟨observed, _, tableRead⟩ :=
    mapAll_image observedRead ((sortOn_perm _ _).mem_iff.mpr member)
  exact ⟨observed, tableRead⟩

theorem connectionId_fromTables (read : fromTables runtime connectionId tables = .ok snapshot) :
    snapshot.connectionId = connectionId := by
  obtain ⟨_, _, _, _, _, rfl⟩ := fromTables_eq_ok_iff.mp read
  rfl

theorem sorted_fromTables (read : fromTables runtime connectionId tables = .ok snapshot) :
    snapshot.tables.Pairwise fun first second =>
      nameKey runtime first.name ≤ nameKey runtime second.name := by
  obtain ⟨_, observedRead, _, _, _, rfl⟩ := fromTables_eq_ok_iff.mp read
  exact sorted_of_mapAll
    (fun _ _ tableRead => congrArg (nameKey runtime) (ReflectedTable.name_observe tableRead))
    observedRead (pairwise_sortOn _ _)

/-- The models accept the snapshot. -/
theorem verified_fromTables (read : fromTables runtime connectionId tables = .ok snapshot) :
    snapshot.Verified runtime where
  columnNamed := by
    intro observed member image listed named
    obtain ⟨table, _, tableRead⟩ := (mem_tables_fromTables read).mp member
    obtain ⟨column, _, columnRead⟩ := (ReflectedTable.mem_columns_observe tableRead).mp listed
    obtain ⟨⟨least, _⟩, _, rfl⟩ := ReflectedColumn.observe_eq_ok_iff.mp columnRead
    have blank : column.name = "" := named
    rw [blank] at least
    exact absurd least (by decide)
  columnNames := by
    intro observed member
    obtain ⟨table, _, tableRead⟩ := (mem_tables_fromTables read).mp member
    exact ReflectedTable.columnNames_observe tableRead
  tableNames := by
    obtain ⟨_, _, _, _, distinct, rfl⟩ := fromTables_eq_ok_iff.mp read
    exact distinct
  fingerprint := by
    obtain ⟨_, _, _, _, _, rfl⟩ := fromTables_eq_ok_iff.mp read
    rfl

end Read

end QueryGate.Catalog
