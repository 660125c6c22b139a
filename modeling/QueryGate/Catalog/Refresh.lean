import QueryGate.Catalog.SchemaMemory
import QueryGate.Catalog.Store

/-! # Schema refresh

`refresh_catalog_schema` of `catalog/refresh.py`: the entries and proposals that the difference
of two snapshots affects become stale, and every other one is bound to the new fingerprint. And
`_freshness` of `catalog/retrieval.py`, which reads the binding.
-/

namespace QueryGate.Catalog

open Foundation

/-! ## Freshness -/

inductive CatalogFreshness where
  | current | stale | untracked
  deriving DecidableEq, Repr

/-- `_freshness`. -/
def freshness (provenance : CatalogEntryProvenance) (currentSchemaFingerprint : Option String) :
    CatalogFreshness :=
  if provenance.status = .stale then .stale
  else
    match currentSchemaFingerprint with
    | none => .untracked
    | some current =>
        if provenance.schemaFingerprint = "untracked" then .untracked
        else if provenance.schemaFingerprint ≠ current then .stale
        else .current

/-! ## What changed -/

/-- The sets of `_changed_objects`. A column `*` stands for the foreign keys of a table. -/
structure ChangedObjects where
  removedTables : List String := []
  changedTableEntries : List String := []
  changedColumns : List (String × String) := []
  deriving DecidableEq, Repr

/-- `_changed_objects`. -/
def changedObjects (diff : SchemaDiff) : ChangedObjects where
  removedTables := diff.changes.filterMap fun change =>
    if change.kind = .tableRemoved then some (casefold change.table) else none
  changedTableEntries := diff.changes.filterMap fun change =>
    if change.kind = .commentChanged ∨ change.kind = .indexesChanged then
      some (casefold change.table)
    else none
  changedColumns :=
    (diff.changes.filterMap fun change =>
      if change.kind = .columnRemoved ∨ change.kind = .columnChanged then
        change.column.bind fun column =>
          if column = "" then none else some (casefold change.table, casefold column)
      else none) ++
    diff.changes.filterMap fun change =>
      if change.kind = .relationshipsChanged then some (casefold change.table, "*") else none

/-- The matches of `[A-Za-z_][A-Za-z0-9_]*`, inside a match that has begun. -/
def scanIdentifiers : List Char → List Char → List (List Char)
  | begun, [] => if begun.isEmpty then [] else [begun]
  | begun, letter :: rest =>
      if begun.isEmpty then
        if isIdentifierStart letter then scanIdentifiers [letter] rest
        else scanIdentifiers [] rest
      else if isIdentifierRest letter then scanIdentifiers (begun ++ [letter]) rest
      else begun :: scanIdentifiers [] rest

/-- The tokens of an aggregation. -/
def aggregationTokens (aggregation : String) : List String :=
  (scanIdentifiers [] aggregation.toList).map fun token => casefold (String.ofList token)

/-- `_aggregation_references_changed_column`. -/
def aggregationReferencesChangedColumn (aggregation : Option String) (table : String)
    (changedColumns : List (String × String)) : Bool :=
  match aggregation with
  | none => false
  | some text =>
      text ≠ "" && changedColumns.any fun changed =>
        decide (changed.1 = casefold table) && decide (changed.2 ≠ "*") &&
          (aggregationTokens text).contains changed.2

/-- `_relationship_affected`. -/
def relationshipAffected (found : ChangedObjects) (fromTable : String)
    (identity : RelationshipIdentity) : Bool :=
  let source := casefold fromTable
  let target := casefold identity.toTable
  found.removedTables.contains source || found.removedTables.contains target ||
    found.changedColumns.contains (source, "*") ||
    found.changedColumns.contains (source, casefold identity.column) ||
    found.changedColumns.contains (target, casefold identity.toColumn)

/-- The test of a published entry. -/
def entryAffected (found : ChangedObjects) (table : String) (aggregation : Option String) :
    DraftObject → Bool
  | .table =>
      found.removedTables.contains (casefold table) ||
        found.changedTableEntries.contains (casefold table) ||
        aggregationReferencesChangedColumn aggregation table found.changedColumns
  | .column name =>
      found.removedTables.contains (casefold table) ||
        found.changedColumns.contains (casefold table, casefold name)
  | .relationship identity => relationshipAffected found table identity

/-- The test of a proposal. -/
def proposalAffected (found : ChangedObjects) (target : CatalogDraftTarget) : Bool :=
  match target.object with
  | .table =>
      found.removedTables.contains (casefold target.table) ||
        found.changedTableEntries.contains (casefold target.table)
  | .column name =>
      found.removedTables.contains (casefold target.table) ||
        found.changedColumns.contains (casefold target.table, casefold name)
  | .relationship identity => relationshipAffected found target.table identity

/-- A proposal is tested as an entry without an aggregation is. -/
theorem proposalAffected_eq (found : ChangedObjects) (target : CatalogDraftTarget) :
    proposalAffected found target = entryAffected found target.table none target.object := by
  unfold proposalAffected entryAffected
  cases target.object with
  | table => exact (Bool.or_false _).symm
  | column name => rfl
  | relationship identity => rfl

/-! ## The refresh -/

/-- `_mark_or_rebind`: the provenance, and the id of an entry that becomes stale. -/
def markOrRebind (provenance : CatalogEntryProvenance) (affected : Bool) (fingerprint : String) :
    CatalogEntryProvenance × Option String :=
  if provenance.status = .rejected ∨ provenance.status = .archived then (provenance, none)
  else if affected then
    if provenance.status ≠ .stale then
      ({ provenance with status := .stale }, some provenance.entryId)
    else (provenance, none)
  else if provenance.status ≠ .stale then
    ({ provenance with schemaFingerprint := fingerprint }, none)
  else (provenance, none)

/-- The entry with its provenance marked or bound. -/
def CatalogEntry.refresh (entry : CatalogEntry) (affected : Bool) (fingerprint : String) :
    CatalogEntry :=
  { entry with provenance := (markOrRebind entry.provenance affected fingerprint).1 }

/-- One table, its columns and its relationships. -/
def refreshTable (found : ChangedObjects) (fingerprint name : String)
    (table : TableCatalogEntry) : TableCatalogEntry where
  toCatalogEntry := table.toCatalogEntry.refresh
    (entryAffected found name table.content.defaultAggregation .table) fingerprint
  relationships := table.relationships.map fun hint =>
    (hint.1, hint.2.refresh (entryAffected found name none (.relationship hint.1)) fingerprint)
  columns := table.columns.map fun column =>
    (column.1, column.2.refresh (entryAffected found name none (.column column.1)) fingerprint)

/-- The ids of a table that become stale. -/
def tableStaleIds (found : ChangedObjects) (fingerprint name : String)
    (table : TableCatalogEntry) : List String :=
  let marked (entry : CatalogEntry) (object : DraftObject) : Option String :=
    (markOrRebind entry.provenance
      (entryAffected found name entry.content.defaultAggregation object) fingerprint).2
  (marked table.toCatalogEntry .table ::
    table.columns.map (fun column => marked column.2 (.column column.1)) ++
    table.relationships.map fun hint => marked hint.2 (.relationship hint.1)).filterMap id

/-- A proposal of the connection. -/
def refreshProposal (found : ChangedObjects) (connectionId fingerprint : String)
    (proposal : CatalogDraftProposal) : CatalogDraftProposal :=
  if proposal.target.connectionId ≠ connectionId then proposal
  else
    { proposal with
      provenance := (markOrRebind proposal.provenance (proposalAffected found proposal.target)
        fingerprint).1 }

/-- An entry of a file that is upgraded to version 2. -/
def CatalogEntry.upgrade (entry : CatalogEntry) : CatalogEntry :=
  { entry with provenance := { entry.provenance with catalogVersion := 2 } }

def upgradeTable (table : TableCatalogEntry) : TableCatalogEntry where
  toCatalogEntry := table.toCatalogEntry.upgrade
  relationships := table.relationships.map fun hint => (hint.1, hint.2.upgrade)
  columns := table.columns.map fun column => (column.1, column.2.upgrade)

/-- A file of version 1 as one of version 2. -/
def upgradeCatalog (catalog : SchemaCatalog) : SchemaCatalog :=
  if catalog.version = 1 then
    { catalog with
      version := 2
      connections := catalog.connections.map fun connection =>
        (connection.1, connection.2.map fun table => (table.1, upgradeTable table.2)) }
  else catalog

/-- `CatalogRefreshUpdate`. -/
structure CatalogRefreshUpdate where
  store : CatalogStore
  connectionId : String
  beforeFingerprint : Option String
  afterFingerprint : String
  diff : Option SchemaDiff
  staleEntryIds : List String := []

/-- The file with the tables and proposals of a connection refreshed and the snapshot stored. -/
def refreshedCatalog (catalog : SchemaCatalog) (found : ChangedObjects)
    (snapshot : ObservedSchemaSnapshot) : SchemaCatalog :=
  let upgraded := upgradeCatalog catalog
  { upgraded with
    connections := upgraded.connections.map fun connection =>
      if connection.1 = snapshot.connectionId then
        (connection.1, connection.2.map fun table =>
          (table.1, refreshTable found snapshot.fingerprint table.1 table.2))
      else connection
    draftProposals := upgraded.draftProposals.map
      (refreshProposal found snapshot.connectionId snapshot.fingerprint)
    schemaSnapshots := dictSet upgraded.schemaSnapshots snapshot.connectionId snapshot }

/-- The ids that become stale, each once and in order. -/
def staleEntryIds (catalog : SchemaCatalog) (found : ChangedObjects)
    (snapshot : ObservedSchemaSnapshot) : List String :=
  let tables := catalog.tables snapshot.connectionId
  let proposals := catalog.draftProposals.filter fun proposal =>
    proposal.target.connectionId = snapshot.connectionId
  let marked := tables.flatMap (fun table =>
      tableStaleIds found snapshot.fingerprint table.1 table.2) ++
    proposals.filterMap fun proposal =>
      (markOrRebind proposal.provenance (proposalAffected found proposal.target)
        snapshot.fingerprint).2
  (marked.filter (· ≠ "")).dedup.mergeSort (· ≤ ·)

/-- `refresh_catalog_schema`. -/
def refreshCatalogSchema (runtime : SchemaRuntime) (store : CatalogStore)
    (snapshot : ObservedSchemaSnapshot) : CatalogResult CatalogRefreshUpdate :=
  match store.catalog.getSchemaSnapshot snapshot.connectionId with
  | some previous => do
      let diff ← diffSchemaSnapshots runtime previous snapshot
      if previous.fingerprint = snapshot.fingerprint then
        pure
          { store := store
            connectionId := snapshot.connectionId
            beforeFingerprint := some previous.fingerprint
            afterFingerprint := snapshot.fingerprint
            diff := some diff }
      else
        let found := changedObjects diff
        let replaced ← replace (refreshedCatalog store.catalog found snapshot)
        pure
          { store := replaced
            connectionId := snapshot.connectionId
            beforeFingerprint := some previous.fingerprint
            afterFingerprint := snapshot.fingerprint
            diff := some diff
            staleEntryIds := staleEntryIds store.catalog found snapshot }
  | none => do
      let replaced ← replace (refreshedCatalog store.catalog {} snapshot)
      pure
        { store := replaced
          connectionId := snapshot.connectionId
          beforeFingerprint := none
          afterFingerprint := snapshot.fingerprint
          diff := none
          staleEntryIds := staleEntryIds store.catalog {} snapshot }

end QueryGate.Catalog
