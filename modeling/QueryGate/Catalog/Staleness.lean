import QueryGate.Catalog.Refresh
import QueryGate.Foundation.Base64
import QueryGate.Foundation.Runs

/-! # Outdated entries

What an entry describes, and what a run of refreshes makes of it. An entry that is in force and
current after a run whose steps all meet `RefreshSafe` describes what is in the live schema as
it was in the snapshot the entry was bound to (`stalenessKept_of_safe`).
-/

namespace QueryGate.Catalog

open Foundation

/-! ## The objects of a schema -/

/-- What an entry may describe: a table with its comment and indexes, a column, or the foreign
keys of a table. -/
inductive SchemaObject where
  | table (table : String)
  | column (table column : String)
  | foreignKeys (table : String)
  deriving DecidableEq, Repr

inductive ObjectState where
  | table (name : String) (indexes : List ObservedIndex) (commentFingerprint : Option String)
  | column (column : ObservedColumn)
  | foreignKeys (keys : List ObservedForeignKey)
  deriving DecidableEq, Repr

/-- The table of this name in any letter case. -/
def ObservedSchemaSnapshot.table? (snapshot : ObservedSchemaSnapshot) (name : String) :
    Option ObservedTable :=
  snapshot.tables.find? fun table => casefold table.name = casefold name

/-- The column of this name in any letter case. -/
def ObservedTable.column? (table : ObservedTable) (name : String) : Option ObservedColumn :=
  table.columns.find? fun column => casefold column.name = casefold name

/-- How an object is in a snapshot, if it is there. -/
def ObservedSchemaSnapshot.state (snapshot : ObservedSchemaSnapshot) :
    SchemaObject → Option ObjectState
  | .table name => (snapshot.table? name).map fun table =>
      .table table.name table.indexes table.commentFingerprint
  | .column table name => ((snapshot.table? table).bind fun found => found.column? name).map .column
  | .foreignKeys name => (snapshot.table? name).map fun table => .foreignKeys table.foreignKeys

/-- A letter that continues a word, of any script. -/
def isWordLetter (letter : Char) : Bool :=
  isIdentifierRest letter || decide (128 ≤ letter.toNat)

/-- The column's name stands in the text as a whole word, in any letter case. -/
def NamesColumn (text column : String) : Prop :=
  ∃ before word after, text.toList = before ++ word ++ after ∧
    casefold (String.ofList word) = casefold column ∧
    (∀ letter ∈ before.getLast?, isWordLetter letter = false) ∧
    ∀ letter ∈ after.head?, isWordLetter letter = false

/-! ## Entries and proposals -/

/-- A published entry or a proposal. -/
inductive EntryRef where
  | published (target : CatalogDraftTarget)
  | proposed (proposalId : String)

structure GovernedEntry where
  target : CatalogDraftTarget
  aggregation : Option String
  provenance : CatalogEntryProvenance
  proposed : Bool

/-- The entry or proposal in a file. -/
def SchemaCatalog.governed? (catalog : SchemaCatalog) : EntryRef → Option GovernedEntry
  | .published target => (catalog.entryAt? target).map fun entry =>
      { target := target, aggregation := entry.content.defaultAggregation
        provenance := entry.provenance, proposed := false }
  | .proposed proposalId => (catalog.getDraftProposal proposalId).map fun proposal =>
      { target := proposal.target, aggregation := proposal.content.1.defaultAggregation
        provenance := proposal.provenance, proposed := true }

namespace GovernedEntry

variable (entry : GovernedEntry)

/-- Rejected or archived. -/
def SetAside : Prop :=
  entry.provenance.status = .rejected ∨ entry.provenance.status = .archived

/-- Neither stale nor set aside. -/
def InForce : Prop :=
  entry.provenance.status ≠ .stale ∧ ¬entry.SetAside

/-- The entry is of this object. -/
def Describes (object : SchemaObject) : Prop :=
  match entry.target.object with
  | .table => object = .table entry.target.table ∨
      ∃ text ∈ entry.aggregation, ∃ column, NamesColumn text column ∧
        object = .column entry.target.table column
  | .column name => object = .column entry.target.table name
  | .relationship identity => object = .column entry.target.table identity.column ∨
      object = .column identity.toTable identity.toColumn ∨
      object = .foreignKeys entry.target.table

/-- The test of the refresh. -/
def affected (found : ChangedObjects) : Bool :=
  if entry.proposed then proposalAffected found entry.target
  else entryAffected found entry.target.table entry.aggregation entry.target.object

/-- Status and fingerprint. -/
def binding : CatalogEntryStatus × String :=
  (entry.provenance.status, entry.provenance.schemaFingerprint)

end GovernedEntry

/-- The freshness of an entry against the stored snapshot of its connection. -/
def SchemaCatalog.freshnessOf (catalog : SchemaCatalog) (entry : GovernedEntry) :
    CatalogFreshness :=
  freshness entry.provenance
    ((catalog.getSchemaSnapshot entry.target.connectionId).map ObservedSchemaSnapshot.fingerprint)

/-! ## What the refresh does not see as changed -/

section Unseen

variable {runtime : SchemaRuntime} {before after : ObservedSchemaSnapshot} {diff : SchemaDiff}

theorem eq_of_folded_name {α : Type} {name : α → String} {items : List α}
    (distinct : (items.map fun item => casefold (name item)).Nodup) {key : String} {item : α}
    (member : item ∈ items) (same : casefold (name item) = casefold key) :
    items.find? (fun item => casefold (name item) = casefold key) = some item := by
  induction items with
  | nil => cases member
  | cons first rest ih =>
      rw [List.map_cons, List.nodup_cons] at distinct
      rw [List.find?_cons]
      rcases List.mem_cons.mp member with rfl | later
      · simp [same]
      · have apart : casefold (name first) ≠ casefold key := by
          intro equal
          apply distinct.1
          rw [equal, ← same]
          exact List.mem_map.mpr ⟨item, later, rfl⟩
        simp only [apart, decide_false]
        exact ih distinct.2 later

theorem mem_of_table? {name : String} {table : ObservedTable}
    (found : before.table? name = some table) :
    table ∈ before.tables ∧ casefold table.name = casefold name :=
  ⟨List.mem_of_find?_eq_some found, of_decide_eq_true (List.find?_some found :)⟩

theorem mem_of_column? {table : ObservedTable} {name : String} {column : ObservedColumn}
    (found : table.column? name = some column) :
    column ∈ table.columns ∧ casefold column.name = casefold name :=
  ⟨List.mem_of_find?_eq_some found, of_decide_eq_true (List.find?_some found :)⟩

variable (beforeVerified : before.Verified runtime) (afterVerified : after.Verified runtime)
  (compared : diffSchemaSnapshots runtime before after = .ok diff)

include beforeVerified afterVerified compared

/-- A table that was there and is not reported gone is there under the same name, and what
differs in it is reported. -/
theorem table_stays {name : String} {old : ObservedTable} (was : before.table? name = some old)
    (kept : casefold name ∉ (changedObjects diff).removedTables) :
    ∃ new ∈ after.tables, new.name = old.name ∧ after.table? name = some new ∧
      ∀ change ∈ tableChanges runtime (old.name, old, new), change ∈ diff.changes := by
  obtain ⟨member, folded⟩ := mem_of_table? was
  have stays : ∃ new ∈ after.tables, new.name = old.name := by
    by_contra gone
    push Not at gone
    apply kept
    refine List.mem_filterMap.mpr ⟨_, removed_mem_changes compared member gone, ?_⟩
    simp [folded]
  obtain ⟨new, inside, same⟩ := stays
  refine ⟨new, inside, same, ?_, fun change => ?_⟩
  · exact eq_of_folded_name afterVerified.tableNames inside (by rw [same, folded])
  · exact tableChanges_subset_changes compared beforeVerified afterVerified member inside same

theorem state_table_kept {name : String} {state : ObjectState}
    (was : before.state (.table name) = some state)
    (kept : casefold name ∉ (changedObjects diff).removedTables)
    (unchanged : casefold name ∉ (changedObjects diff).changedTableEntries) :
    after.state (.table name) = some state := by
  obtain ⟨old, found, rfl⟩ := Option.map_eq_some_iff.mp was
  obtain ⟨member, folded⟩ := mem_of_table? found
  obtain ⟨new, inside, same, now, reported⟩ :=
    table_stays beforeVerified afterVerified compared found kept
  have indexes : old.indexes = new.indexes := by
    by_contra differ
    apply unchanged
    refine List.mem_filterMap.mpr ⟨_, reported _ (indexes_reported differ), ?_⟩
    simp [folded]
  have comments : old.commentFingerprint = new.commentFingerprint := by
    by_contra differ
    apply unchanged
    refine List.mem_filterMap.mpr ⟨_, reported _ (comment_reported differ), ?_⟩
    simp [folded]
  rw [ObservedSchemaSnapshot.state, now, Option.map_some, same, indexes, comments]

theorem state_foreignKeys_kept {name : String} {state : ObjectState}
    (was : before.state (.foreignKeys name) = some state)
    (kept : casefold name ∉ (changedObjects diff).removedTables)
    (unchanged : (casefold name, "*") ∉ (changedObjects diff).changedColumns) :
    after.state (.foreignKeys name) = some state := by
  obtain ⟨old, found, rfl⟩ := Option.map_eq_some_iff.mp was
  obtain ⟨member, folded⟩ := mem_of_table? found
  obtain ⟨new, inside, same, now, reported⟩ :=
    table_stays beforeVerified afterVerified compared found kept
  have keys : old.foreignKeys = new.foreignKeys := by
    by_contra differ
    apply unchanged
    apply List.mem_append_right
    refine List.mem_filterMap.mpr ⟨_, reported _ (foreignKeys_reported differ), ?_⟩
    simp [folded]
  rw [ObservedSchemaSnapshot.state, now, Option.map_some, keys]

theorem state_column_kept {table name : String} {state : ObjectState}
    (was : before.state (.column table name) = some state)
    (kept : casefold table ∉ (changedObjects diff).removedTables)
    (unchanged : (casefold table, casefold name) ∉ (changedObjects diff).changedColumns) :
    after.state (.column table name) = some state := by
  obtain ⟨column, found, rfl⟩ := Option.map_eq_some_iff.mp was
  obtain ⟨old, foundTable, foundColumn⟩ := Option.bind_eq_some_iff.mp found
  obtain ⟨member, folded⟩ := mem_of_table? foundTable
  obtain ⟨columnMember, columnFolded⟩ := mem_of_column? foundColumn
  obtain ⟨new, inside, same, now, reported⟩ :=
    table_stays beforeVerified afterVerified compared foundTable kept
  have named : column.name ≠ "" := beforeVerified.columnNamed old member column columnMember
  -- A change of the column under either kind puts its folded name among the changed ones.
  have listed : ∀ change ∈ diff.changes,
      (change.kind = .columnRemoved ∨ change.kind = .columnChanged) → change.table = old.name →
      change.column = some column.name → False := by
    intro change inChanges kind changeTable changeColumn
    apply unchanged
    apply List.mem_append_left
    refine List.mem_filterMap.mpr ⟨change, inChanges, ?_⟩
    rw [if_pos kind, changeColumn, Option.bind_some, if_neg named, changeTable, folded,
      columnFolded]
  have stays : ∃ other ∈ new.columns, other.name = column.name := by
    by_contra gone
    push Not at gone
    exact listed _ (reported _ (column_removed_reported columnMember gone)) (.inl rfl) rfl rfl
  obtain ⟨other, otherInside, otherName⟩ := stays
  have equal : column = other := by
    by_contra differ
    have changed : ∃ change ∈ tableChanges runtime (old.name, old, new),
        change.kind = .columnChanged ∧ change.table = old.name ∧
          change.column = some column.name :=
      column_changed_reported (nodup_of_casefold (beforeVerified.columnNames old member))
        (nodup_of_casefold (afterVerified.columnNames new inside)) columnMember otherInside
        otherName differ
    obtain ⟨change, within, kind, changeTable, changeColumn⟩ := changed
    exact listed change (reported change within) (.inr kind) changeTable changeColumn
  have here : new.column? name = some column :=
    eq_of_folded_name (afterVerified.columnNames new inside) (equal ▸ otherInside) columnFolded
  rw [ObservedSchemaSnapshot.state, now, Option.bind_some, here, Option.map_some]

end Unseen

/-! ## Entries through a refresh -/

/-- The table with an image of each of its entries. -/
def mapTable (image : DraftObject → CatalogEntry → CatalogEntry) (table : TableCatalogEntry) :
    TableCatalogEntry where
  toCatalogEntry := image .table table.toCatalogEntry
  relationships := table.relationships.map fun hint => (hint.1, image (.relationship hint.1) hint.2)
  columns := table.columns.map fun column => (column.1, image (.column column.1) column.2)

theorem mapTable_same (table : TableCatalogEntry) : mapTable (fun _ entry => entry) table = table := by
  unfold mapTable
  simp

theorem refreshTable_eq_mapTable (found : ChangedObjects) (fingerprint name : String)
    (table : TableCatalogEntry) :
    refreshTable found fingerprint name table =
      mapTable (fun object entry => entry.refresh
        (entryAffected found name entry.content.defaultAggregation object) fingerprint) table :=
  rfl

theorem upgradeTable_eq_mapTable (table : TableCatalogEntry) :
    upgradeTable table = mapTable (fun _ entry => entry.upgrade) table :=
  rfl

/-- An entry of a mapped table is the image of the entry that was there, under the names it is
listed with. -/
theorem entryAt_mapTable {image : DraftObject → CatalogEntry → CatalogEntry}
    {table : TableCatalogEntry} {object : DraftObject} {entry : CatalogEntry}
    (found : (mapTable image table).entryAt? object = some entry) :
    ∃ written old, table.entryAt? object = some old ∧ written.casefold = object.casefold ∧
      entry = image written old := by
  cases object with
  | table =>
      cases found
      exact ⟨.table, _, rfl, rfl, rfl⟩
  | column name =>
      obtain ⟨written, old, was, same, rfl⟩ :=
        foldGet_map (fun name => image (.column name)) found
      exact ⟨.column written, old, was, congrArg DraftObject.column same, rfl⟩
  | relationship identity =>
      obtain ⟨written, old, was, same, rfl⟩ :=
        foldGet_map (fun identity => image (.relationship identity)) found
      exact ⟨.relationship written, old, was, congrArg DraftObject.relationship same, rfl⟩

/-- An entry of a file whose tables are mapped. -/
theorem entryAt_of_mapped {catalog mapped : SchemaCatalog}
    (image : String → String → DraftObject → CatalogEntry → CatalogEntry)
    (connections : mapped.connections = catalog.connections.map fun connection =>
      (connection.1, connection.2.map fun table =>
        (table.1, mapTable (image connection.1 table.1) table.2)))
    {target : CatalogDraftTarget} {entry : CatalogEntry}
    (found : mapped.entryAt? target = some entry) :
    ∃ name object old, catalog.entryAt? target = some old ∧ casefold name = casefold target.table ∧
      object.casefold = target.object.casefold ∧
      entry = image target.connectionId name object old := by
  obtain ⟨table, foundTable, foundEntry⟩ := Option.bind_eq_some_iff.mp found
  have tables : mapped.tables target.connectionId =
      (catalog.tables target.connectionId).map fun table =>
        (table.1, mapTable (image target.connectionId table.1) table.2) := by
    rw [SchemaCatalog.tables, SchemaCatalog.tables, connections,
      dictGet_map (fun connectionId (tables : ConnectionCatalog) => tables.map fun table =>
        (table.1, mapTable (image connectionId table.1) table.2))]
    cases dictGet catalog.connections target.connectionId with
    | none => rfl
    | some tables => rfl
  rw [SchemaCatalog.getTable, tables] at foundTable
  obtain ⟨name, oldTable, was, sameName, rfl⟩ :=
    foldGet_map (fun name => mapTable (image target.connectionId name)) foundTable
  obtain ⟨object, old, wasEntry, sameObject, rfl⟩ := entryAt_mapTable foundEntry
  exact ⟨name, object, old, Option.bind_eq_some_iff.mpr ⟨oldTable, was, wasEntry⟩, sameName,
    sameObject, rfl⟩

/-- The test of an entry depends on its names up to their letter case. -/
theorem entryAffected_congr (found : ChangedObjects) {name other : String}
    (aggregation : Option String) {object written : DraftObject}
    (names : casefold name = casefold other) (objects : object.casefold = written.casefold) :
    entryAffected found name aggregation object = entryAffected found other aggregation written := by
  cases object with
  | table =>
      cases written with
      | table => simp only [entryAffected, aggregationReferencesChangedColumn, names]
      | column _ => cases objects
      | relationship _ => cases objects
  | column column =>
      cases written with
      | table => cases objects
      | column _ =>
          have columns := DraftObject.column.inj objects
          simp only [entryAffected, names, columns]
      | relationship _ => cases objects
  | relationship identity =>
      cases written with
      | table => cases objects
      | column _ => cases objects
      | relationship _ =>
          have identities := RelationshipIdentity.mk.inj (DraftObject.relationship.inj objects)
          simp only [entryAffected, relationshipAffected, names, identities]

/-- What the refresh makes of a binding. -/
def rebound (binding : CatalogEntryStatus × String) (affected : Bool) (fingerprint : String) :
    CatalogEntryStatus × String :=
  if binding.1 = .rejected ∨ binding.1 = .archived ∨ binding.1 = .stale then binding
  else if affected then (.stale, binding.2)
  else (binding.1, fingerprint)

theorem binding_markOrRebind (provenance : CatalogEntryProvenance) (affected : Bool)
    (fingerprint : String) :
    ((markOrRebind provenance affected fingerprint).1.status,
      (markOrRebind provenance affected fingerprint).1.schemaFingerprint) =
      rebound (provenance.status, provenance.schemaFingerprint) affected fingerprint := by
  unfold markOrRebind rebound
  cases status : provenance.status <;> cases affected <;> simp [status]

/-- The step of an entry: its names and its aggregation stay, and its binding is marked or
renewed when it is of the connection. -/
structure EntryStep (found : ChangedObjects) (snapshot : ObservedSchemaSnapshot)
    (before after : GovernedEntry) : Prop where
  target : after.target = before.target
  aggregation : after.aggregation = before.aggregation
  proposed : after.proposed = before.proposed
  binding : after.binding =
    if before.target.connectionId = snapshot.connectionId then
      rebound before.binding (before.affected found) snapshot.fingerprint
    else before.binding

theorem upgradeCatalog_connections (catalog : SchemaCatalog) :
    (upgradeCatalog catalog).connections = catalog.connections.map fun connection =>
      (connection.1, connection.2.map fun table =>
        (table.1, mapTable (fun _ entry => if catalog.version = 1 then entry.upgrade else entry)
          table.2)) := by
  unfold upgradeCatalog
  split
  · rfl
  · simp only [mapTable_same, List.map_id']

theorem refreshedCatalog_connections (catalog : SchemaCatalog) (found : ChangedObjects)
    (snapshot : ObservedSchemaSnapshot) :
    (refreshedCatalog catalog found snapshot).connections =
      (upgradeCatalog catalog).connections.map fun connection =>
        (connection.1, connection.2.map fun table =>
          (table.1, mapTable (fun object entry =>
            if connection.1 = snapshot.connectionId then
              entry.refresh (entryAffected found table.1 entry.content.defaultAggregation object)
                snapshot.fingerprint
            else entry) table.2)) := by
  apply List.map_congr_left
  intro connection _
  by_cases same : connection.1 = snapshot.connectionId
  · simp only [same, ↓reduceIte, refreshTable_eq_mapTable]
  · simp only [same, ↓reduceIte, mapTable_same, List.map_id']

theorem upgradeCatalog_draftProposals (catalog : SchemaCatalog) :
    (upgradeCatalog catalog).draftProposals = catalog.draftProposals := by
  unfold upgradeCatalog
  split <;> rfl

theorem upgradeCatalog_schemaSnapshots (catalog : SchemaCatalog) :
    (upgradeCatalog catalog).schemaSnapshots = catalog.schemaSnapshots := by
  unfold upgradeCatalog
  split <;> rfl

/-- Where an entry of a refreshed file comes from. -/
theorem governed?_refreshedCatalog {catalog : SchemaCatalog} {found : ChangedObjects}
    {snapshot : ObservedSchemaSnapshot} {ref : EntryRef} {after : GovernedEntry}
    (held : (refreshedCatalog catalog found snapshot).governed? ref = some after) :
    ∃ before, catalog.governed? ref = some before ∧ EntryStep found snapshot before after := by
  cases ref with
  | published target =>
      obtain ⟨entry, published, rfl⟩ := Option.map_eq_some_iff.mp held
      obtain ⟨name, object, middle, was, sameName, sameObject, rfl⟩ :=
        entryAt_of_mapped (fun connectionId name object entry =>
          if connectionId = snapshot.connectionId then
            entry.refresh (entryAffected found name entry.content.defaultAggregation object)
              snapshot.fingerprint
          else entry) (refreshedCatalog_connections catalog found snapshot) published
      obtain ⟨_, _, old, origin, _, _, rfl⟩ :=
        entryAt_of_mapped (fun _ _ _ entry => if catalog.version = 1 then entry.upgrade else entry)
          (upgradeCatalog_connections catalog) was
      have contents : ∀ entry : CatalogEntry,
          (if catalog.version = 1 then entry.upgrade else entry).content = entry.content := by
        intro entry
        split <;> rfl
      have bindings : ∀ entry : CatalogEntry,
          ((if catalog.version = 1 then entry.upgrade else entry).provenance.status,
            (if catalog.version = 1 then entry.upgrade else entry).provenance.schemaFingerprint) =
          (entry.provenance.status, entry.provenance.schemaFingerprint) := by
        intro entry
        split <;> rfl
      refine ⟨_, Option.map_eq_some_iff.mpr ⟨old, origin, rfl⟩, rfl, ?_, rfl, ?_⟩
      · dsimp only
        split
        · exact congrArg CatalogContent.defaultAggregation (contents old)
        · exact congrArg CatalogContent.defaultAggregation (contents old)
      · dsimp only [GovernedEntry.binding, GovernedEntry.affected]
        rw [contents, entryAffected_congr found _ sameName sameObject]
        split
        · rw [CatalogEntry.refresh, binding_markOrRebind, bindings]
          rfl
        · rw [bindings]
  | proposed proposalId =>
      obtain ⟨proposal, listed, rfl⟩ := Option.map_eq_some_iff.mp held
      have same : ∀ one : CatalogDraftProposal,
          (refreshProposal found snapshot.connectionId snapshot.fingerprint one).proposalId =
            one.proposalId := by
        intro one
        unfold refreshProposal
        split <;> rfl
      rw [SchemaCatalog.getDraftProposal, refreshedCatalog, List.find?_map,
        upgradeCatalog_draftProposals] at listed
      obtain ⟨old, hit, rfl⟩ := Option.map_eq_some_iff.mp listed
      have origin : catalog.getDraftProposal proposalId = some old := by
        rw [SchemaCatalog.getDraftProposal, ← hit]
        congr 1
        funext one
        simp only [Function.comp_apply, same]
      refine ⟨_, Option.map_eq_some_iff.mpr ⟨old, origin, rfl⟩, ?_, ?_, rfl, ?_⟩
      · dsimp only
        unfold refreshProposal
        split <;> rfl
      · dsimp only
        unfold refreshProposal
        split <;> rfl
      · dsimp only [GovernedEntry.binding, GovernedEntry.affected]
        unfold refreshProposal
        by_cases apart : old.target.connectionId = snapshot.connectionId
        · rw [if_neg (not_not.mpr apart), if_pos apart, binding_markOrRebind]
          rfl
        · rw [if_pos apart, if_neg apart]

/-! ## Runs -/

section Runs

variable (runtime : SchemaRuntime)

/-- One refresh. One that raises leaves the store to the next. -/
def refreshStep (store : CatalogStore) (snapshot : ObservedSchemaSnapshot) :
    Option (CatalogStore × List CatalogRefreshUpdate) :=
  match refreshCatalogSchema runtime store snapshot with
  | .ok update => some (update.store, [update])
  | .error _ => none

/-- What a refresh takes for changed. -/
def stepChanges (store : CatalogStore) (snapshot : ObservedSchemaSnapshot) : ChangedObjects :=
  match store.catalog.getSchemaSnapshot snapshot.connectionId with
  | none => {}
  | some previous =>
      if previous.fingerprint = snapshot.fingerprint then {}
      else
        match diffSchemaSnapshots runtime previous snapshot with
        | .ok diff => changedObjects diff
        | .error _ => {}

/-- No entry that was stale is current after the refresh. -/
def NoneRevived (store : CatalogStore) (snapshot : ObservedSchemaSnapshot) : Prop :=
  ∀ next updates, refreshStep runtime store snapshot = some (next, updates) →
    ∀ ref before after, store.catalog.governed? ref = some before →
      next.catalog.governed? ref = some after →
      store.catalog.freshnessOf before = .stale → next.catalog.freshnessOf after ≠ .current

/-- A proposal of the connection is judged stale where the published entry with its names,
provenance and aggregation would be. -/
def JudgedAlike (store : CatalogStore) (snapshot : ObservedSchemaSnapshot) : Prop :=
  ∀ proposal ∈ store.catalog.draftProposals,
    proposal.target.connectionId = snapshot.connectionId →
    let found := stepChanges runtime store snapshot
    let published := entryAffected found proposal.target.table
      proposal.content.1.defaultAggregation proposal.target.object
    (markOrRebind proposal.provenance published snapshot.fingerprint).1.status = .stale →
      (markOrRebind proposal.provenance (proposalAffected found proposal.target)
        snapshot.fingerprint).1.status = .stale

/-- No outdated entry looks current: after a run an entry that is in force and current describes
what is in the live schema as it was in the snapshot it was bound to, no refresh of the run
revives an entry, and each judges proposals as it judges entries. -/
structure StalenessKept (store : CatalogStore) (snapshots : List ObservedSchemaSnapshot) :
    Prop where
  unchanged : ∀ final updates, runSteps (refreshStep runtime) store snapshots =
      some (final, updates) →
    ∀ ref before after (bound live : ObservedSchemaSnapshot),
      store.catalog.governed? ref = some before →
      final.catalog.governed? ref = some after → bound.Verified runtime →
      before.provenance.schemaFingerprint = bound.fingerprint → after.InForce →
      final.catalog.getSchemaSnapshot before.target.connectionId = some live →
      final.catalog.freshnessOf after = .current →
      ∀ object, before.Describes object → live.state object = bound.state object
  noneRevived : StepsMeet (refreshStep runtime) (NoneRevived runtime) store snapshots
  judgedAlike : StepsMeet (refreshStep runtime) (JudgedAlike runtime) store snapshots

/-- The column is one the scan of the aggregation finds. -/
def scanSees (aggregation : Option String) (column : String) : Bool :=
  decide (casefold column ≠ "*") &&
    aggregation.any fun text => (aggregationTokens text).contains (casefold column)

/-- What an entry describes and the refresh does not look for is as it was: nothing it describes
is new, and a column its aggregation names without the scan finding it is unchanged. -/
def NothingMissed (entry : GovernedEntry) (previous snapshot : ObservedSchemaSnapshot) : Prop :=
  ∀ object, entry.Describes object →
    (previous.state object = none → snapshot.state object = none) ∧
    ∀ table column, object = .column table column → entry.target.object = .table →
      scanSees entry.aggregation column = false → snapshot.state object = previous.state object

/-- The condition of one refresh on an entry of its connection. Before a first snapshot, an entry
in force is bound to one in which all it describes is as it is now. Later, where the snapshot is
a new one: an entry in force that the difference does not affect is untracked, or bound to the
stored snapshot with nothing missed; an entry set aside is not bound to the new snapshot; and a
proposal with a changed column in its aggregation is affected otherwise too. -/
def EntrySafe (store : CatalogStore) (snapshot : ObservedSchemaSnapshot) (entry : GovernedEntry) :
    Prop :=
  match store.catalog.getSchemaSnapshot snapshot.connectionId with
  | none => entry.InForce → ∀ bound : ObservedSchemaSnapshot, bound.Verified runtime →
      entry.provenance.schemaFingerprint = bound.fingerprint →
      ∀ object, entry.Describes object → snapshot.state object = bound.state object
  | some previous => previous.fingerprint ≠ snapshot.fingerprint →
      (entry.InForce → entry.affected (stepChanges runtime store snapshot) = false →
        entry.provenance.schemaFingerprint = "untracked" ∨
          entry.provenance.schemaFingerprint = previous.fingerprint ∧
            NothingMissed entry previous snapshot) ∧
      (entry.SetAside → entry.provenance.schemaFingerprint ≠ snapshot.fingerprint) ∧
      (entry.proposed = true → entry.target.object = .table →
        aggregationReferencesChangedColumn entry.aggregation entry.target.table
          (stepChanges runtime store snapshot).changedColumns = true →
        entry.affected (stepChanges runtime store snapshot) = true)

/-- The condition of one refresh. -/
def RefreshSafe (store : CatalogStore) (snapshot : ObservedSchemaSnapshot) : Prop :=
  snapshot.Verified runtime ∧
    ∀ ref entry, store.catalog.governed? ref = some entry →
      entry.target.connectionId = snapshot.connectionId → EntrySafe runtime store snapshot entry

variable {runtime}

/-- A refresh either leaves the store, where the fingerprint is the stored one, or stores what
`refreshedCatalog` makes of it. -/
theorem refreshStep_cases {store next : CatalogStore} {snapshot : ObservedSchemaSnapshot}
    {updates : List CatalogRefreshUpdate}
    (stepped : refreshStep runtime store snapshot = some (next, updates)) :
    (∃ previous, store.catalog.getSchemaSnapshot snapshot.connectionId = some previous ∧
      previous.fingerprint = snapshot.fingerprint ∧ next = store) ∨
    ((∀ previous, store.catalog.getSchemaSnapshot snapshot.connectionId = some previous →
        previous.fingerprint ≠ snapshot.fingerprint ∧
          ∃ diff, diffSchemaSnapshots runtime previous snapshot = .ok diff ∧
            stepChanges runtime store snapshot = changedObjects diff) ∧
      next.catalog = refreshedCatalog store.catalog (stepChanges runtime store snapshot)
        snapshot) := by
  unfold refreshStep at stepped
  cases outcome : refreshCatalogSchema runtime store snapshot with
  | error refusal =>
      rw [outcome] at stepped
      cases stepped
  | ok update =>
      rw [outcome] at stepped
      cases stepped
      unfold refreshCatalogSchema at outcome
      cases stored : store.catalog.getSchemaSnapshot snapshot.connectionId with
      | none =>
          right
          refine ⟨nofun, ?_⟩
          rw [stored] at outcome
          obtain ⟨replaced, done, finished⟩ := bind_eq_ok_iff.mp outcome
          rw [stepChanges, stored, ← Except.ok.inj finished]
          exact replace_eq_ok_iff.mp done
      | some previous =>
          rw [stored] at outcome
          obtain ⟨diff, compared, rest⟩ := bind_eq_ok_iff.mp outcome
          split at rest
          case isTrue same =>
            left
            exact ⟨previous, rfl, same, by rw [← Except.ok.inj rest]⟩
          case isFalse new =>
            right
            have changes : stepChanges runtime store snapshot = changedObjects diff := by
              rw [stepChanges, stored]
              dsimp only
              rw [if_neg new, compared]
            obtain ⟨replaced, done, finished⟩ := bind_eq_ok_iff.mp rest
            refine ⟨?_, ?_⟩
            · rintro _ ⟨⟩
              exact ⟨new, diff, compared, changes⟩
            · rw [changes, ← Except.ok.inj finished]
              exact replace_eq_ok_iff.mp done

/-- A new snapshot whose catalog is accepted is stored. -/
theorem refreshStep_of_replace {store next : CatalogStore}
    {previous snapshot : ObservedSchemaSnapshot} {diff : SchemaDiff}
    (stored : store.catalog.getSchemaSnapshot snapshot.connectionId = some previous)
    (new : previous.fingerprint ≠ snapshot.fingerprint)
    (compared : diffSchemaSnapshots runtime previous snapshot = .ok diff)
    (replaced : replace (refreshedCatalog store.catalog (changedObjects diff) snapshot) =
      .ok next) :
    ∃ updates, refreshStep runtime store snapshot = some (next, updates) := by
  have refreshed : ∃ update, refreshCatalogSchema runtime store snapshot = .ok update ∧
      update.store = next := by
    rw [refreshCatalogSchema, stored]
    dsimp only
    rw [compared]
    simp only [bind, Except.bind]
    rw [if_neg new, replaced]
    exact ⟨_, rfl, rfl⟩
  obtain ⟨update, done, rfl⟩ := refreshed
  exact ⟨[update], by rw [refreshStep, done]⟩

theorem getSchemaSnapshot_refreshedCatalog (catalog : SchemaCatalog) (found : ChangedObjects)
    (snapshot : ObservedSchemaSnapshot) (connectionId : String) :
    (refreshedCatalog catalog found snapshot).getSchemaSnapshot connectionId =
      if snapshot.connectionId = connectionId then some snapshot
      else catalog.getSchemaSnapshot connectionId := by
  rw [SchemaCatalog.getSchemaSnapshot, refreshedCatalog, dictGet_dictSet,
    upgradeCatalog_schemaSnapshots]
  rfl

/-- The stored snapshots are verified ones. -/
def SnapshotsVerified (runtime : SchemaRuntime) (store : CatalogStore) : Prop :=
  ∀ connectionId snapshot, store.catalog.getSchemaSnapshot connectionId = some snapshot →
    snapshot.Verified runtime

/-- A changed column that the scan finds is referenced. -/
theorem references_of_scanSees {aggregation : Option String} {table column : String}
    {changedColumns : List (String × String)} (sees : scanSees aggregation column = true)
    (changed : (casefold table, casefold column) ∈ changedColumns) :
    aggregationReferencesChangedColumn aggregation table changedColumns = true := by
  rw [scanSees, Bool.and_eq_true, decide_eq_true_eq] at sees
  cases aggregation with
  | none => cases sees.2
  | some text =>
      have found : (aggregationTokens text).contains (casefold column) = true := sees.2
      have written : text ≠ "" := by
        rintro rfl
        simp [aggregationTokens, scanIdentifiers] at found
      rw [aggregationReferencesChangedColumn, Bool.and_eq_true, List.any_eq_true]
      refine ⟨decide_eq_true written, _, changed, ?_⟩
      rw [Bool.and_eq_true, Bool.and_eq_true]
      exact ⟨⟨decide_eq_true rfl, decide_eq_true sees.1⟩, found⟩

/-- What an entry describes is as it was, where the refresh neither marks the entry nor misses
anything. -/
theorem state_kept {entry : GovernedEntry} {previous snapshot : ObservedSchemaSnapshot}
    {diff : SchemaDiff} (previousVerified : previous.Verified runtime)
    (verified : snapshot.Verified runtime)
    (compared : diffSchemaSnapshots runtime previous snapshot = .ok diff)
    (unaffected : entry.affected (changedObjects diff) = false)
    (scanned : entry.proposed = true → entry.target.object = .table →
      aggregationReferencesChangedColumn entry.aggregation entry.target.table
        (changedObjects diff).changedColumns = true →
      entry.affected (changedObjects diff) = true)
    (missed : NothingMissed entry previous snapshot) {object : SchemaObject}
    (described : entry.Describes object) : snapshot.state object = previous.state object := by
  obtain ⟨notNew, unseen⟩ := missed object described
  cases was : previous.state object with
  | none => exact notNew was
  | some state =>
      have scan : entry.target.object = .table →
          aggregationReferencesChangedColumn entry.aggregation entry.target.table
            (changedObjects diff).changedColumns = false := by
        intro isTable
        cases kind : entry.proposed with
        | true =>
            by_contra hit
            rw [scanned kind isTable (Bool.not_eq_false _ ▸ hit)] at unaffected
            cases unaffected
        | false =>
            simp only [GovernedEntry.affected, kind, Bool.false_eq_true, ↓reduceIte, isTable,
              entryAffected, Bool.or_eq_false_iff] at unaffected
            exact unaffected.2
      have entryTest : ∃ aggregation, entryAffected (changedObjects diff) entry.target.table
          aggregation entry.target.object = false := by
        cases kind : entry.proposed with
        | true =>
            refine ⟨none, ?_⟩
            rw [← proposalAffected_eq]
            simpa only [GovernedEntry.affected, kind, ↓reduceIte] using unaffected
        | false =>
            refine ⟨entry.aggregation, ?_⟩
            simpa only [GovernedEntry.affected, kind, Bool.false_eq_true, ↓reduceIte]
              using unaffected
      obtain ⟨aggregation, clear⟩ := entryTest
      unfold GovernedEntry.Describes at described
      cases part : entry.target.object with
      | table =>
          rw [part] at described clear
          simp only [entryAffected, Bool.or_eq_false_iff, List.contains_eq_mem,
            decide_eq_false_iff_not] at clear
          rcases described with rfl | ⟨text, held, column, named, rfl⟩
          · exact state_table_kept previousVerified verified compared was clear.1.1 clear.1.2
          · cases sees : scanSees entry.aggregation column with
            | false =>
                rw [← was]
                exact unseen _ _ rfl part sees
            | true =>
                refine state_column_kept previousVerified verified compared was clear.1.1 ?_
                intro changed
                have hit := references_of_scanSees sees changed
                rw [scan part] at hit
                cases hit
      | column name =>
          rw [part] at described clear
          simp only [entryAffected, Bool.or_eq_false_iff, List.contains_eq_mem,
            decide_eq_false_iff_not] at clear
          subst described
          exact state_column_kept previousVerified verified compared was clear.1 clear.2
      | relationship identity =>
          rw [part] at described clear
          simp only [entryAffected, relationshipAffected, Bool.or_eq_false_iff,
            List.contains_eq_mem, decide_eq_false_iff_not] at clear
          obtain ⟨⟨⟨⟨source, target⟩, keys⟩, sourceColumn⟩, targetColumn⟩ := clear
          rcases described with rfl | rfl | rfl
          · exact state_column_kept previousVerified verified compared was source sourceColumn
          · exact state_column_kept previousVerified verified compared was target targetColumn
          · exact state_foreignKeys_kept previousVerified verified compared was source keys

/-- An entry in force after a refresh was in force before. One of the connection was not affected
and is bound to the new snapshot, any other is bound as it was. -/
theorem inForce_of_step {found : ChangedObjects} {snapshot : ObservedSchemaSnapshot}
    {before after : GovernedEntry} (step : EntryStep found snapshot before after)
    (inForce : after.InForce) :
    before.InForce ∧
      (before.target.connectionId = snapshot.connectionId → before.affected found = false ∧
        after.provenance.schemaFingerprint = snapshot.fingerprint) ∧
      (before.target.connectionId ≠ snapshot.connectionId →
        after.provenance.schemaFingerprint = before.provenance.schemaFingerprint) := by
  have bindings := step.binding
  simp only [GovernedEntry.InForce, GovernedEntry.SetAside, not_or] at inForce ⊢
  unfold GovernedEntry.binding rebound at bindings
  by_cases same : before.target.connectionId = snapshot.connectionId
  · rw [if_pos same] at bindings
    dsimp only at bindings
    split_ifs at bindings with kept affected
    · obtain ⟨status, fingerprint⟩ := Prod.mk.inj bindings
      rw [← status] at kept
      rcases kept with aside | aside | stale
      · exact absurd aside inForce.2.1
      · exact absurd aside inForce.2.2
      · exact absurd stale inForce.1
    · obtain ⟨status, _⟩ := Prod.mk.inj bindings
      exact absurd status inForce.1
    · obtain ⟨status, fingerprint⟩ := Prod.mk.inj bindings
      rw [← status]
      exact ⟨inForce, fun _ => ⟨Bool.not_eq_true _ ▸ affected, fingerprint⟩,
        fun apart => absurd same apart⟩
  · rw [if_neg same] at bindings
    obtain ⟨status, fingerprint⟩ := Prod.mk.inj bindings
    rw [← status]
    exact ⟨inForce, fun equal => absurd equal same, fun _ => fingerprint⟩

/-- Freshness reads the binding only. -/
theorem freshness_congr {first second : GovernedEntry} (same : first.binding = second.binding)
    (current : Option String) :
    freshness first.provenance current = freshness second.provenance current := by
  obtain ⟨status, fingerprint⟩ := Prod.mk.inj same
  unfold freshness
  rw [status, fingerprint]

theorem freshness_eq_current {provenance : CatalogEntryProvenance} {current : Option String}
    (fresh : freshness provenance current = .current) :
    provenance.status ≠ .stale ∧ current = some provenance.schemaFingerprint := by
  unfold freshness at fresh
  cases current with
  | none =>
      split at fresh <;> cases fresh
  | some print =>
      dsimp only at fresh
      split_ifs at fresh with stale untracked differ
      rw [ne_eq, not_not] at differ
      exact ⟨stale, by rw [differ]⟩

theorem freshness_eq_stale {provenance : CatalogEntryProvenance} {current : Option String}
    (outdated : freshness provenance current = .stale) :
    provenance.status = .stale ∨ ∃ print, current = some print ∧
      provenance.schemaFingerprint ≠ "untracked" ∧ provenance.schemaFingerprint ≠ print := by
  unfold freshness at outdated
  cases current with
  | none =>
      split at outdated
      case isTrue stale => exact .inl stale
      case isFalse => cases outdated
  | some print =>
      dsimp only at outdated
      split_ifs at outdated with stale untracked differ
      · exact .inl stale
      · exact .inr ⟨print, rfl, untracked, differ⟩

/-- A safe refresh revives no entry. -/
theorem noneRevived_of_safe {store : CatalogStore} {snapshot : ObservedSchemaSnapshot}
    (safe : RefreshSafe runtime store snapshot) : NoneRevived runtime store snapshot := by
  intro next updates stepped ref before after was is outdated fresh
  rcases refreshStep_cases stepped with ⟨_, _, _, rfl⟩ | ⟨stored, refreshed⟩
  · cases was.symm.trans is
    rw [outdated] at fresh
    cases fresh
  rw [refreshed] at is
  obtain ⟨origin, held, step⟩ := governed?_refreshedCatalog is
  cases was.symm.trans held
  unfold SchemaCatalog.freshnessOf at outdated fresh
  rw [step.target, refreshed, getSchemaSnapshot_refreshedCatalog] at fresh
  by_cases same : before.target.connectionId = snapshot.connectionId
  · rw [if_pos same.symm] at fresh
    obtain ⟨notStale, print⟩ := freshness_eq_current fresh
    have now := Option.some.inj print
    have entrySafe := safe.2 ref before was same
    have bindings := step.binding
    rw [if_pos same] at bindings
    unfold GovernedEntry.binding rebound at bindings
    dsimp only at bindings
    rcases freshness_eq_stale outdated with stale | ⟨_, was', tracked, other⟩
    · rw [if_pos (.inr (.inr stale))] at bindings
      exact notStale ((Prod.mk.inj bindings).1.trans stale)
    · obtain ⟨previous, there, rfl⟩ := Option.map_eq_some_iff.mp was'
      rw [same] at there
      rw [EntrySafe, there] at entrySafe
      obtain ⟨inForce, aside, _⟩ := entrySafe (stored previous there).1
      split_ifs at bindings with kept affected
      · obtain ⟨status, fingerprint⟩ := Prod.mk.inj bindings
        rcases kept with rejected | archived | stale
        · exact aside (.inl rejected) (fingerprint.symm.trans now.symm)
        · exact aside (.inr archived) (fingerprint.symm.trans now.symm)
        · exact notStale (status.trans stale)
      · exact notStale (Prod.mk.inj bindings).1
      · simp only [not_or] at kept
        rcases inForce ⟨kept.2.2, fun aside => aside.elim kept.1 kept.2.1⟩
          (Bool.not_eq_true _ ▸ affected) with untracked | ⟨bound, _⟩
        · exact tracked untracked
        · exact other bound
  · have bindings := step.binding
    rw [if_neg same] at bindings
    rw [if_neg (Ne.symm same), freshness_congr bindings, outdated] at fresh
    cases fresh

theorem references_nil (aggregation : Option String) (table : String) :
    aggregationReferencesChangedColumn aggregation table [] = false := by
  cases aggregation with
  | none => rfl
  | some text => exact Bool.and_false _

theorem getDraftProposal_of_mem {store : CatalogStore} {proposal : CatalogDraftProposal}
    (member : proposal ∈ store.catalog.draftProposals) :
    store.catalog.getDraftProposal proposal.proposalId = some proposal := by
  have distinct : (store.catalog.draftProposals.map CatalogDraftProposal.proposalId).Nodup :=
    store.valid.holds .proposalIds
  unfold SchemaCatalog.getDraftProposal
  cases found : store.catalog.draftProposals.find? fun one => one.proposalId = proposal.proposalId with
  | none =>
      have none := List.find?_eq_none.mp found proposal member
      simp at none
  | some other =>
      have same := List.find?_some found
      rw [decide_eq_true_eq] at same
      rw [List.inj_on_of_nodup_map distinct (List.mem_of_find?_eq_some found) member same]

/-- A safe refresh judges a proposal stale where it would judge the published entry so. -/
theorem judgedAlike_of_safe {store : CatalogStore} {snapshot : ObservedSchemaSnapshot}
    (safe : RefreshSafe runtime store snapshot) : JudgedAlike runtime store snapshot := by
  intro proposal member connection
  have held : store.catalog.governed? (.proposed proposal.proposalId) = some
      { target := proposal.target, aggregation := proposal.content.1.defaultAggregation
        provenance := proposal.provenance, proposed := true } := by
    rw [SchemaCatalog.governed?, getDraftProposal_of_mem member]
    rfl
  have entrySafe := safe.2 _ _ held connection
  have implied : entryAffected (stepChanges runtime store snapshot) proposal.target.table
      proposal.content.1.defaultAggregation proposal.target.object = true →
      proposalAffected (stepChanges runtime store snapshot) proposal.target = true := by
    intro affected
    have same := proposalAffected_eq (stepChanges runtime store snapshot) proposal.target
    cases part : proposal.target.object with
    | column name =>
        rw [same]
        rw [part] at affected ⊢
        exact affected
    | relationship identity =>
        rw [same]
        rw [part] at affected ⊢
        exact affected
    | table =>
        rw [part, entryAffected, Bool.or_eq_true] at affected
        rcases affected with whole | hit
        · rw [proposalAffected, part]
          exact whole
        · unfold EntrySafe at entrySafe
          cases stored : store.catalog.getSchemaSnapshot snapshot.connectionId with
          | none =>
              rw [stepChanges, stored] at hit
              exact absurd hit (Bool.eq_false_iff.mp (references_nil ..))
          | some previous =>
              rw [stored] at entrySafe
              by_cases renewed : previous.fingerprint = snapshot.fingerprint
              · rw [stepChanges, stored] at hit
                dsimp only at hit
                rw [if_pos renewed] at hit
                exact absurd hit (Bool.eq_false_iff.mp (references_nil ..))
              · exact (entrySafe renewed).2.2 rfl part hit
  dsimp only
  intro stale
  have published := congrArg Prod.fst (binding_markOrRebind proposal.provenance
    (entryAffected (stepChanges runtime store snapshot) proposal.target.table
      proposal.content.1.defaultAggregation proposal.target.object) snapshot.fingerprint)
  have proposed := congrArg Prod.fst (binding_markOrRebind proposal.provenance
    (proposalAffected (stepChanges runtime store snapshot) proposal.target) snapshot.fingerprint)
  dsimp only at published proposed
  rw [proposed]
  rw [published] at stale
  unfold rebound at stale ⊢
  dsimp only at stale ⊢
  split_ifs at stale with kept affected
  · rw [if_pos kept]
    exact stale
  · rw [if_neg kept, implied affected]
    rfl
  · simp only [not_or] at kept
    exact absurd stale kept.2.2

/-- What a run keeps of one entry: while it is in force, it is bound to a snapshot in which all
that it describes is as in the first one. -/
def BoundTruly (runtime : SchemaRuntime) (ref : EntryRef) (first : GovernedEntry)
    (bound : ObservedSchemaSnapshot) (store : CatalogStore) : Prop :=
  SnapshotsVerified runtime store ∧
    ∀ entry, store.catalog.governed? ref = some entry →
      (entry.target = first.target ∧ entry.aggregation = first.aggregation) ∧
        (entry.InForce → ∃ held : ObservedSchemaSnapshot, held.Verified runtime ∧
          entry.provenance.schemaFingerprint = held.fingerprint ∧
          ∀ object, first.Describes object → held.state object = bound.state object)

theorem describes_congr {first second : GovernedEntry} (target : first.target = second.target)
    (aggregation : first.aggregation = second.aggregation) (object : SchemaObject) :
    first.Describes object ↔ second.Describes object := by
  unfold GovernedEntry.Describes
  rw [target, aggregation]

theorem boundTruly_step (injective : Function.Injective runtime.sha256) {ref : EntryRef}
    {first : GovernedEntry} {bound : ObservedSchemaSnapshot} {store next : CatalogStore}
    {snapshot : ObservedSchemaSnapshot} {updates : List CatalogRefreshUpdate}
    (holds : BoundTruly runtime ref first bound store) (safe : RefreshSafe runtime store snapshot)
    (stepped : refreshStep runtime store snapshot = some (next, updates)) :
    BoundTruly runtime ref first bound next := by
  rcases refreshStep_cases stepped with ⟨_, _, _, rfl⟩ | ⟨stored, refreshed⟩
  · exact holds
  obtain ⟨verified, truly⟩ := holds
  refine ⟨fun connectionId other there => ?_, fun entry is => ?_⟩
  · rw [refreshed, getSchemaSnapshot_refreshedCatalog] at there
    split_ifs at there with same
    · cases there
      exact safe.1
    · exact verified connectionId other there
  rw [refreshed] at is
  obtain ⟨before, was, step⟩ := governed?_refreshedCatalog is
  obtain ⟨⟨target, aggregation⟩, kept⟩ := truly before was
  refine ⟨⟨step.target.trans target, step.aggregation.trans aggregation⟩, fun inForce => ?_⟩
  obtain ⟨wasInForce, renewed, untouched⟩ := inForce_of_step step inForce
  obtain ⟨held, heldVerified, print, states⟩ := kept wasInForce
  by_cases same : before.target.connectionId = snapshot.connectionId
  · obtain ⟨unaffected, now⟩ := renewed same
    refine ⟨snapshot, safe.1, now, fun object described => ?_⟩
    have describedNow := (describes_congr target aggregation object).mpr described
    rw [← states object described]
    have entrySafe := safe.2 ref before was same
    unfold EntrySafe at entrySafe
    cases there : store.catalog.getSchemaSnapshot snapshot.connectionId with
    | none =>
        rw [there] at entrySafe
        exact entrySafe wasInForce held heldVerified print object describedNow
    | some previous =>
        rw [there] at entrySafe
        obtain ⟨new, diff, compared, changes⟩ := stored previous there
        obtain ⟨clear, _, scanned⟩ := entrySafe new
        rw [changes] at clear scanned unaffected
        rcases clear wasInForce unaffected with untracked | ⟨current, missed⟩
        · rw [print] at untracked
          exact absurd untracked heldVerified.fingerprint_ne_untracked
        · have previousVerified := verified _ previous there
          have one : held = previous :=
            heldVerified.eq_of_fingerprint injective previousVerified (print.symm.trans current)
          rw [one]
          exact state_kept previousVerified safe.1 compared unaffected scanned missed describedNow
  · exact ⟨held, heldVerified, (untouched same).trans print, states⟩

/-- In a run of refreshes that are all safe no outdated entry looks current. -/
theorem stalenessKept_of_safe (injective : Function.Injective runtime.sha256)
    {store : CatalogStore} (verified : SnapshotsVerified runtime store)
    {snapshots : List ObservedSchemaSnapshot}
    (safe : StepsMeet (refreshStep runtime) (RefreshSafe runtime) store snapshots) :
    StalenessKept runtime store snapshots where
  unchanged := by
    intro final updates ran ref before after bound live was is boundVerified print inForce there
      fresh object described
    have start : BoundTruly runtime ref before bound store := by
      refine ⟨verified, fun entry held => ?_⟩
      cases was.symm.trans held
      exact ⟨⟨rfl, rfl⟩, fun _ => ⟨bound, boundVerified, print, fun _ _ => rfl⟩⟩
    obtain ⟨finalVerified, truly⟩ := @invariant_of_run _ _ _ (refreshStep runtime)
      (RefreshSafe runtime) (fun store _ => BoundTruly runtime ref before bound store)
      (fun holds safe stepped => boundTruly_step injective holds safe stepped) _ _ _ [] _ start
      safe ran
    obtain ⟨⟨target, _⟩, kept⟩ := truly after is
    obtain ⟨held, heldVerified, bindingPrint, states⟩ := kept inForce
    unfold SchemaCatalog.freshnessOf at fresh
    rw [target, there] at fresh
    have current := Option.some.inj (freshness_eq_current fresh).2
    have one : live = held := (finalVerified _ live there).eq_of_fingerprint injective heldVerified
      (current.trans bindingPrint)
    rw [one]
    exact states object described
  noneRevived := safe.imp fun _ _ => noneRevived_of_safe
  judgedAlike := safe.imp fun _ _ => judgedAlike_of_safe

end Runs

/-! ## A column the scan does not see -/

/-- Small letters for ASCII names, and a digest that is the text itself in base 64. -/
def readableRuntime : SchemaRuntime where
  lower := fun text => String.ofList (text.toList.map Char.toLower)
  sha256 := fun bytes => String.ofList (unpaddedB64 bytes)

theorem readableRuntime_injective : Function.Injective readableRuntime.sha256 :=
  fun _ _ same => unpaddedB64_injective (String.ofList_injective same)

/-- A table whose column has a blank in its name. -/
def ordersSnapshot (dataType : String) : ObservedSchemaSnapshot :=
  let tables : List ObservedTable :=
    [{ name := "orders",
       columns := [{ name := "net total", dataType := dataType, nullable := false }] }]
  { connectionId := "demo", tables := tables,
    fingerprint := payloadFingerprint readableRuntime (canonicalPayload "demo" tables) }

theorem ordersSnapshot_verified (dataType : String) :
    (ordersSnapshot dataType).Verified readableRuntime where
  columnNamed := by simp [ordersSnapshot]
  columnNames := by simp [ordersSnapshot]
  tableNames := by simp [ordersSnapshot]
  fingerprint := rfl

theorem ordersSnapshot_fingerprint_ne :
    (ordersSnapshot "NUMERIC").fingerprint ≠ (ordersSnapshot "TEXT").fingerprint := by
  intro same
  have equal := (ordersSnapshot_verified "NUMERIC").eq_of_fingerprint readableRuntime_injective
    (ordersSnapshot_verified "TEXT") same
  have types := congrArg (fun snapshot => snapshot.state (.column "orders" "net total")) equal
  revert types
  decide

/-- The catalog of the table with this aggregation, bound to a snapshot. -/
def ordersCatalog (aggregation : Option String) (bound stored : String) : SchemaCatalog where
  connections := [("demo", [("orders",
    { content := { defaultAggregation := aggregation }
      provenance := { entryId := "urn:querygate:catalog:orders"
                      schemaFingerprint := (ordersSnapshot bound).fingerprint } })])]
  schemaSnapshots := [("demo", ordersSnapshot stored)]

theorem ordersCatalog_valid (aggregation : Option String) (bound stored : String) :
    (ordersCatalog aggregation bound stored).Valid := by
  intro rule _
  cases rule <;> simp [CatalogRule.Holds, ordersCatalog, ordersSnapshot, SchemaCatalog.allTables,
    SchemaCatalog.entries, SchemaCatalog.entryIds, TableCatalogEntry.entries, FoldedKeys, folded,
    dictKeys, CatalogEntryProvenance.StateAllowed, SchemaCatalog.proposalIds,
    SchemaCatalog.generationIds, SchemaCatalog.versionIds]

def ordersStore (aggregation : Option String) (bound stored : String) : CatalogStore :=
  ⟨ordersCatalog aggregation bound stored, ordersCatalog_valid aggregation bound stored⟩

/-- The entry of the table. -/
def ordersEntry (aggregation : Option String) (bound : String) : GovernedEntry where
  target := { connectionId := "demo", table := "orders", object := .table }
  aggregation := aggregation
  provenance := { entryId := "urn:querygate:catalog:orders"
                  schemaFingerprint := (ordersSnapshot bound).fingerprint }
  proposed := false

section Orders

variable (aggregation : Option String)

theorem stepChanges_orders :
    stepChanges readableRuntime (ordersStore aggregation "NUMERIC" "NUMERIC")
      (ordersSnapshot "TEXT") = { changedColumns := [("orders", "net total")] } := by
  rw [stepChanges, show (ordersStore aggregation "NUMERIC" "NUMERIC").catalog.getSchemaSnapshot
    (ordersSnapshot "TEXT").connectionId = some (ordersSnapshot "NUMERIC") from rfl]
  dsimp only
  rw [if_neg ordersSnapshot_fingerprint_ne]
  decide

/-- The refresh binds a table whose aggregation does not show the column to the new snapshot. -/
theorem refreshStep_orders
    (unseen : aggregationReferencesChangedColumn aggregation "orders" [("orders", "net total")] =
      false) :
    ∃ updates, refreshStep readableRuntime (ordersStore aggregation "NUMERIC" "NUMERIC")
      (ordersSnapshot "TEXT") = some (ordersStore aggregation "TEXT" "TEXT", updates) := by
  have stored : (ordersStore aggregation "NUMERIC" "NUMERIC").catalog.getSchemaSnapshot
      (ordersSnapshot "TEXT").connectionId = some (ordersSnapshot "NUMERIC") := rfl
  have sameConnection : ∃ diff, diffSchemaSnapshots readableRuntime (ordersSnapshot "NUMERIC")
      (ordersSnapshot "TEXT") = .ok diff := diffSchemaSnapshots_of_connection rfl
  obtain ⟨diff, compared⟩ := sameConnection
  have changes := stepChanges_orders aggregation
  rw [stepChanges, stored] at changes
  dsimp only at changes
  rw [if_neg ordersSnapshot_fingerprint_ne, compared] at changes
  have clear : entryAffected { changedColumns := [("orders", "net total")] } "orders" aggregation
      .table = false := by
    rw [entryAffected, unseen]
    rfl
  apply refreshStep_of_replace stored ordersSnapshot_fingerprint_ne compared
  apply replace_eq_ok_iff.mpr
  rw [show changedObjects diff = _ from changes]
  unfold ordersStore ordersCatalog refreshedCatalog
  simp [upgradeCatalog, refreshTable, CatalogEntry.refresh, clear, markOrRebind, ordersSnapshot,
    dictSet]

theorem freshnessOf_orders (print : String) :
    (ordersStore aggregation print print).catalog.freshnessOf
      (ordersEntry aggregation print) = .current := by
  have tracked := (ordersSnapshot_verified print).fingerprint_ne_untracked
  have stored : (ordersStore aggregation print print).catalog.getSchemaSnapshot "demo" =
      some (ordersSnapshot print) := rfl
  simp [SchemaCatalog.freshnessOf, ordersEntry, stored, freshness, tracked]

end Orders

/-- A changed column with a blank in its name leaves the entry whose aggregation names it
current. -/
theorem not_stalenessKept_orders :
    ¬StalenessKept readableRuntime (ordersStore (some "SUM(\"net total\")") "NUMERIC" "NUMERIC")
      [ordersSnapshot "TEXT"] := by
  intro kept
  obtain ⟨updates, stepped⟩ := refreshStep_orders (some "SUM(\"net total\")") (by decide)
  have ran : runSteps (refreshStep readableRuntime)
      (ordersStore (some "SUM(\"net total\")") "NUMERIC" "NUMERIC") [ordersSnapshot "TEXT"] =
        some (ordersStore (some "SUM(\"net total\")") "TEXT" "TEXT", updates ++ []) :=
    runSteps_cons_eq_some_iff.mpr ⟨_, updates, [], stepped, rfl, rfl⟩
  have named : NamesColumn "SUM(\"net total\")" "net total" :=
    ⟨['S', 'U', 'M', '(', '"'], "net total".toList, ['"', ')'], by decide, by decide,
      by rintro letter ⟨⟩; decide, by rintro letter ⟨⟩; decide⟩
  have states := kept.unchanged _ _ ran
    (.published { connectionId := "demo", table := "orders", object := .table })
    (ordersEntry _ "NUMERIC") (ordersEntry _ "TEXT") (ordersSnapshot "NUMERIC")
    (ordersSnapshot "TEXT") rfl rfl (ordersSnapshot_verified "NUMERIC") rfl
    ⟨by simp [ordersEntry], by simp [GovernedEntry.SetAside, ordersEntry]⟩ rfl
    (freshnessOf_orders _ "TEXT") (.column "orders" "net total")
    (.inr ⟨_, rfl, "net total", named, rfl⟩)
  revert states
  decide

/-- The file holds the entry of the table only. -/
theorem eq_of_governed?_orders {aggregation : Option String} {bound stored : String}
    {ref : EntryRef} {entry : GovernedEntry}
    (held : (ordersCatalog aggregation bound stored).governed? ref = some entry) :
    entry.target.object = .table ∧ entry.aggregation = aggregation ∧
      entry.provenance = (ordersEntry aggregation bound).provenance ∧
      entry.proposed = false := by
  cases ref with
  | proposed proposalId => cases held
  | published target =>
      obtain ⟨found, published, rfl⟩ := Option.map_eq_some_iff.mp held
      obtain ⟨table, foundTable, foundEntry⟩ := Option.bind_eq_some_iff.mp published
      obtain ⟨pair, listed, rfl⟩ := Option.map_eq_some_iff.mp foundTable
      have member := List.mem_of_find?_eq_some listed
      unfold SchemaCatalog.tables ordersCatalog at member
      dsimp only [dictGet] at member
      split at member
      · rw [List.mem_singleton.mp member] at foundEntry
        cases part : target.object with
        | table =>
            rw [part] at foundEntry
            cases foundEntry
            exact ⟨rfl, rfl, rfl, rfl⟩
        | column name =>
            rw [part] at foundEntry
            cases foundEntry
        | relationship identity =>
            rw [part] at foundEntry
            cases foundEntry
      · cases member

/-- A table without an aggregation stays as it was while a column of it changes. -/
theorem stalenessKept_orders :
    StalenessKept readableRuntime (ordersStore none "NUMERIC" "NUMERIC") [ordersSnapshot "TEXT"] := by
  apply stalenessKept_of_safe readableRuntime_injective
  · intro connectionId snapshot there
    have held := dictGet_eq_some_mem there
    rw [(Prod.mk.inj (List.mem_singleton.mp held)).2]
    exact ordersSnapshot_verified "NUMERIC"
  refine ⟨⟨ordersSnapshot_verified "TEXT", fun ref entry held _ => ?_⟩, fun _ _ => trivial⟩
  obtain ⟨part, aggregation, provenance, proposed⟩ := eq_of_governed?_orders held
  have stored : (ordersStore none "NUMERIC" "NUMERIC").catalog.getSchemaSnapshot
      (ordersSnapshot "TEXT").connectionId = some (ordersSnapshot "NUMERIC") := rfl
  rw [EntrySafe, stored]
  intro _
  refine ⟨fun _ _ => .inr ⟨by rw [provenance]; rfl, fun object described => ?_⟩, ?_, ?_⟩
  · rw [GovernedEntry.Describes, part] at described
    rcases described with rfl | ⟨text, none, _⟩
    · have same : (ordersSnapshot "TEXT").state (.table entry.target.table) =
          (ordersSnapshot "NUMERIC").state (.table entry.target.table) := by
        unfold ObservedSchemaSnapshot.state ObservedSchemaSnapshot.table? ordersSnapshot
        simp only [List.find?_cons, List.find?_nil]
        cases decide (casefold "orders" = casefold entry.target.table) <;> rfl
      exact ⟨fun gone => same.trans gone, nofun⟩
    · rw [aggregation] at none
      cases none
  · rintro (rejected | archived)
    · rw [provenance] at rejected
      cases rejected
    · rw [provenance] at archived
      cases archived
  · intro isProposed
    rw [proposed] at isProposed
    cases isProposed

end QueryGate.Catalog
