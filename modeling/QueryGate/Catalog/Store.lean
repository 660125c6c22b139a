import QueryGate.Catalog.Models
import QueryGate.Foundation.Checks

/-! # The validated store

The rules of the models of `catalog/models.py` in the order they are checked, the store of
`catalog/loader.py` that only holds a catalog which keeps them all, and its lookups.
-/

namespace QueryGate.Catalog

open Foundation

/-! ## The rules -/

/-- One reason for which a model refuses a file. -/
inductive CatalogRule where
  | versionNumber | columnFields | relationshipFields | provenanceStates
  | relationshipIdentities | columnNames | tableNames
  | proposalEntryIds | proposalSources | proposalStatuses | proposedAggregations
  | proposedAliases | reviewHistories | publishedProposals | unpublishedProposals
  | rejectedProposals | generationProposalIds | generationSizes
  | createdChanges | removedChanges | publishRecords | rollbackRecords | historySize
  | versionOne | snapshotKeys | entryIds | proposalIds | generationIds
  | recordedProposals | claimedProposals | proposalRecords | includedProposals
  | publishedVersions | versionIds | publishProposals | rollbackVersions
  deriving DecidableEq, Repr

namespace CatalogRule

/-- The rules in the order the models check them. -/
def all : List CatalogRule :=
  [.versionNumber, .columnFields, .relationshipFields, .provenanceStates,
    .relationshipIdentities, .columnNames, .tableNames,
    .proposalEntryIds, .proposalSources, .proposalStatuses, .proposedAggregations,
    .proposedAliases, .reviewHistories, .publishedProposals, .unpublishedProposals,
    .rejectedProposals, .generationProposalIds, .generationSizes,
    .createdChanges, .removedChanges, .publishRecords, .rollbackRecords, .historySize,
    .versionOne, .snapshotKeys, .entryIds, .proposalIds, .generationIds,
    .recordedProposals, .claimedProposals, .proposalRecords, .includedProposals,
    .publishedVersions, .versionIds, .publishProposals, .rollbackVersions]

theorem mem_all (rule : CatalogRule) : rule ∈ all := by
  cases rule <;> decide

/-- What the refusal says. -/
def message : CatalogRule → String
  | .versionNumber => "Input should be 1 or 2"
  | .columnFields => "Extra inputs are not permitted"
  | .relationshipFields => "Extra inputs are not permitted"
  | .provenanceStates => "inferred or learned catalog content cannot be verified at load time"
  | .relationshipIdentities => "duplicate catalog relationship identity"
  | .columnNames => "catalog column names must be unique case-insensitively"
  | .tableNames => "catalog table names must be unique case-insensitively"
  | .proposalEntryIds => "draft proposal_id must equal its provenance entry_id"
  | .proposalSources =>
      "catalog proposals must remain inferred, learned, or manual until published"
  | .proposalStatuses => "generated catalog proposals must remain draft or stale"
  | .proposedAggregations => "default_aggregation may only be proposed for a table"
  | .proposedAliases => "relationship proposals cannot define aliases"
  | .reviewHistories => "List should have at most 50 items after validation"
  | .publishedProposals => "a published proposal requires published_entry_id and version_id"
  | .unpublishedProposals =>
      "only a published proposal may carry published_entry_id/version_id"
  | .rejectedProposals =>
      "a rejected proposal requires a rejection reason in review_history"
  | .generationProposalIds => "generation proposal ids must be unique"
  | .generationSizes => "List should have at most 200 items after validation"
  | .createdChanges => "a 'created' change requires 'after' and no 'before'"
  | .removedChanges => "a 'removed' change requires 'before' and no 'after'"
  | .publishRecords => "a publish version record requires proposal_id"
  | .rollbackRecords => "a rollback version record requires rolled_back_version_id"
  | .historySize => "List should have at most 2000 items after validation"
  | .versionOne => "schema snapshots and semantic-memory records require catalog version 2"
  | .snapshotKeys => "schema_snapshots key does not match snapshot connection_id"
  | .entryIds => "catalog entry ids must be unique"
  | .proposalIds => "catalog draft proposal ids must be unique"
  | .generationIds => "catalog generation ids must be unique"
  | .recordedProposals => "catalog generation records must reference existing proposals"
  | .claimedProposals => "catalog generation records cannot claim another run's proposal"
  | .proposalRecords => "catalog draft proposals require a generation record"
  | .includedProposals => "catalog generation record must include each of its proposals"
  | .publishedVersions => "a published proposal must reference an existing version record"
  | .versionIds => "catalog version history ids must be unique"
  | .publishProposals => "a publish version record must reference an existing proposal"
  | .rollbackVersions => "a rollback version record must reference an existing version"

/-- The rule is kept. -/
def Holds (catalog : SchemaCatalog) : CatalogRule → Prop
  | .versionNumber => catalog.version = 1 ∨ catalog.version = 2
  | .columnFields => ∀ table ∈ catalog.allTables, ∀ column ∈ table.columns,
      column.2.content.defaultAggregation = none
  | .relationshipFields => ∀ table ∈ catalog.allTables, ∀ hint ∈ table.relationships,
      hint.2.content.aliases = [] ∧ hint.2.content.defaultAggregation = none
  | .provenanceStates => (∀ entry ∈ catalog.entries, entry.provenance.StateAllowed) ∧
      ∀ proposal ∈ catalog.draftProposals, proposal.provenance.StateAllowed
  | .relationshipIdentities => ∀ table ∈ catalog.allTables,
      FoldedKeys RelationshipIdentity.casefold table.relationships
  | .columnNames => ∀ table ∈ catalog.allTables, FoldedKeys casefold table.columns
  | .tableNames => ∀ connection ∈ catalog.connections, FoldedKeys casefold connection.2
  | .proposalEntryIds => ∀ proposal ∈ catalog.draftProposals,
      proposal.provenance.entryId = proposal.proposalId
  | .proposalSources => ∀ proposal ∈ catalog.draftProposals,
      proposal.provenance.sourceClass = .inferred ∨
        proposal.provenance.sourceClass = .learned ∨ proposal.provenance.sourceClass = .manual
  | .proposalStatuses => ∀ proposal ∈ catalog.draftProposals,
      proposal.provenance.status = .draft ∨ proposal.provenance.status = .stale
  | .proposedAggregations => ∀ proposal ∈ catalog.draftProposals,
      proposal.target.object.isTable = false → proposal.content.1.defaultAggregation = none
  | .proposedAliases => ∀ proposal ∈ catalog.draftProposals,
      proposal.target.object.isRelationship = true → proposal.content.1.aliases = []
  | .reviewHistories => ∀ proposal ∈ catalog.draftProposals, proposal.reviewHistory.length ≤ 50
  | .publishedProposals => ∀ proposal ∈ catalog.draftProposals,
      proposal.reviewStatus = .published →
        proposal.publishedEntryId.isSome ∧ proposal.publishedVersionId.isSome
  | .unpublishedProposals => ∀ proposal ∈ catalog.draftProposals,
      proposal.reviewStatus ≠ .published →
        proposal.publishedEntryId = none ∧ proposal.publishedVersionId = none
  | .rejectedProposals => ∀ proposal ∈ catalog.draftProposals,
      proposal.reviewStatus = .rejected →
        ∃ event ∈ proposal.reviewHistory, event.action = .rejected ∧ event.reason.isSome
  | .generationProposalIds => ∀ record ∈ catalog.generationRecords, record.proposalIds.Nodup
  | .generationSizes => ∀ record ∈ catalog.generationRecords, record.proposalIds.length ≤ 200
  | .createdChanges => ∀ record ∈ catalog.versionHistory,
      record.change.change = .created →
        record.change.before = none ∧ record.change.after.isSome
  | .removedChanges => ∀ record ∈ catalog.versionHistory,
      record.change.change = .removed →
        record.change.before.isSome ∧ record.change.after = none
  | .publishRecords => ∀ record ∈ catalog.versionHistory,
      record.action = .publish → record.proposalId.isSome
  | .rollbackRecords => ∀ record ∈ catalog.versionHistory,
      record.action = .rollback → record.rolledBackVersionId.isSome
  | .historySize => catalog.versionHistory.length ≤ 2000
  | .versionOne => catalog.version = 1 →
      catalog.schemaSnapshots = [] ∧ catalog.draftProposals = [] ∧ catalog.generationRecords = []
  | .snapshotKeys => ∀ snapshot ∈ catalog.schemaSnapshots,
      snapshot.1 = snapshot.2.connectionId
  | .entryIds =>
      (catalog.entryIds.filter (· ≠ "urn:querygate:catalog:unbound")).Nodup
  | .proposalIds => catalog.proposalIds.Nodup
  | .generationIds => catalog.generationIds.Nodup
  | .recordedProposals => ∀ record ∈ catalog.generationRecords,
      ∀ id ∈ record.proposalIds, id ∈ catalog.proposalIds
  | .claimedProposals => ∀ record ∈ catalog.generationRecords,
      ∀ proposal ∈ catalog.draftProposals, proposal.proposalId ∈ record.proposalIds →
        proposal.generationId = record.generationId
  | .proposalRecords => ∀ proposal ∈ catalog.draftProposals,
      proposal.generationId ∈ catalog.generationIds
  | .includedProposals => ∀ proposal ∈ catalog.draftProposals,
      ∀ record ∈ catalog.generationRecords, record.generationId = proposal.generationId →
        proposal.proposalId ∈ record.proposalIds
  | .publishedVersions => ∀ proposal ∈ catalog.draftProposals,
      ∀ id ∈ proposal.publishedVersionId, id ∈ catalog.versionIds
  | .versionIds => catalog.versionIds.Nodup
  | .publishProposals => ∀ record ∈ catalog.versionHistory,
      ∀ id ∈ record.proposalId, id ∈ catalog.proposalIds
  | .rollbackVersions => ∀ record ∈ catalog.versionHistory,
      ∀ id ∈ record.rolledBackVersionId, id ∈ catalog.versionIds

instance (catalog : SchemaCatalog) (rule : CatalogRule) : Decidable (rule.Holds catalog) := by
  cases rule <;> (dsimp only [Holds]; infer_instance)

end CatalogRule

/-! ## The store -/

/-- The models accept the file. -/
def SchemaCatalog.Valid (catalog : SchemaCatalog) : Prop :=
  ∀ rule ∈ CatalogRule.all, rule.Holds catalog

instance (catalog : SchemaCatalog) : Decidable catalog.Valid :=
  inferInstanceAs (Decidable (∀ rule ∈ CatalogRule.all, rule.Holds catalog))

theorem SchemaCatalog.Valid.holds {catalog : SchemaCatalog} (valid : catalog.Valid)
    (rule : CatalogRule) : rule.Holds catalog :=
  valid rule rule.mem_all

/-- The error of the first rule that is broken. -/
def SchemaCatalog.fault (catalog : SchemaCatalog) : CatalogError :=
  match CatalogRule.all.find? fun rule => !decide (rule.Holds catalog) with
  | some rule => validationError rule.message
  | none => validationError "SchemaCatalog"

/-- `CatalogStore`. -/
structure CatalogStore where
  catalog : SchemaCatalog
  valid : catalog.Valid

/-- `CatalogStore.replace`, which fills in nothing here: a draft is written with the
provenance the loader would bind. -/
def replace (draft : SchemaCatalog) : CatalogResult CatalogStore :=
  if valid : draft.Valid then .ok ⟨draft, valid⟩ else .error draft.fault

theorem replace_eq_ok_iff {draft : SchemaCatalog} {store : CatalogStore} :
    replace draft = .ok store ↔ store.catalog = draft := by
  unfold replace
  split
  case isTrue valid =>
    constructor
    · rintro ⟨⟩
      rfl
    · rintro rfl
      rfl
  case isFalse invalid =>
    constructor
    · rintro ⟨⟩
    · rintro rfl
      exact absurd store.valid invalid

/-- A draft that keeps every rule is accepted. -/
theorem replace_of_valid {draft : SchemaCatalog} (valid : draft.Valid) :
    replace draft = .ok ⟨draft, valid⟩ :=
  replace_eq_ok_iff.mpr rfl

/-- `CatalogStore.empty()`. -/
def CatalogStore.empty : CatalogStore where
  catalog := {}
  valid := by decide

/-! ## Entries by target -/

namespace TableCatalogEntry

/-- The entry of a part of the table. -/
def entryAt? (table : TableCatalogEntry) : DraftObject → Option CatalogEntry
  | .table => some table.toCatalogEntry
  | .column name => foldGet casefold table.columns name
  | .relationship identity => foldGet RelationshipIdentity.casefold table.relationships identity

/-- The table with this entry as the part. A column keeps the name it is listed under, a
relationship takes the names of the target. -/
def setEntry (table : TableCatalogEntry) (entry : CatalogEntry) : DraftObject → TableCatalogEntry
  | .table => { table with toCatalogEntry := entry }
  | .column name => { table with columns := foldSet casefold table.columns name entry }
  | .relationship identity =>
      { table with
        relationships := foldRewrite RelationshipIdentity.casefold table.relationships identity
          entry }

/-- The table without a column or relationship. -/
def eraseEntry (table : TableCatalogEntry) : DraftObject → TableCatalogEntry
  | .table => table
  | .column name => { table with columns := foldErase casefold table.columns name }
  | .relationship identity =>
      { table with
        relationships := foldErase RelationshipIdentity.casefold table.relationships identity }

end TableCatalogEntry

namespace SchemaCatalog

variable (catalog : SchemaCatalog)

/-- The tables of a connection. -/
def tables (connectionId : String) : ConnectionCatalog :=
  (dictGet catalog.connections connectionId).getD []

/-- `get_table`. -/
def getTable (connectionId table : String) : Option TableCatalogEntry :=
  foldGet casefold (catalog.tables connectionId) table

/-- The entry a target names. -/
def entryAt? (target : CatalogDraftTarget) : Option CatalogEntry :=
  (catalog.getTable target.connectionId target.table).bind fun table => table.entryAt? target.object

/-- The catalog with these tables of a connection. -/
def setTables (connectionId : String) (tables : ConnectionCatalog) : SchemaCatalog :=
  { catalog with connections := dictSet catalog.connections connectionId tables }

/-- The catalog with this table of a connection. -/
def setTable (connectionId name : String) (table : TableCatalogEntry) : SchemaCatalog :=
  catalog.setTables connectionId (foldSet casefold (catalog.tables connectionId) name table)

/-- The catalog without a table of a connection. -/
def eraseTable (connectionId name : String) : SchemaCatalog :=
  catalog.setTables connectionId (foldErase casefold (catalog.tables connectionId) name)

/-- `get_schema_snapshot`. -/
def getSchemaSnapshot (connectionId : String) : Option ObservedSchemaSnapshot :=
  dictGet catalog.schemaSnapshots connectionId

/-- `get_draft_proposal`. -/
def getDraftProposal (proposalId : String) : Option CatalogDraftProposal :=
  catalog.draftProposals.find? fun proposal => proposal.proposalId = proposalId

/-- `get_version_record`. -/
def getVersionRecord (versionId : String) : Option CatalogVersionRecord :=
  catalog.versionHistory.find? fun record => record.versionId = versionId

/-- The proposal a version goes back to: its own, or that of the version it rolled back. -/
def sourceProposalId (record : CatalogVersionRecord) : Option String :=
  record.proposalId.or
    ((record.rolledBackVersionId.bind catalog.getVersionRecord).bind
      CatalogVersionRecord.proposalId)

/-- `iter_version_history`: newest first, the versions of proposals on the connection. -/
def iterVersionHistory (connectionId : String) : List CatalogVersionRecord :=
  catalog.versionHistory.reverse.filter fun record =>
    ((catalog.sourceProposalId record).bind catalog.getDraftProposal).any
      fun proposal => proposal.target.connectionId = connectionId

/-- `iter_draft_proposals`. -/
def iterDraftProposals (connectionId : String) : List CatalogDraftProposal :=
  catalog.draftProposals.filter fun proposal => proposal.target.connectionId = connectionId

/-- The catalog with the proposals of this id changed. -/
def updateProposal (proposalId : String) (change : CatalogDraftProposal → CatalogDraftProposal) :
    SchemaCatalog :=
  { catalog with
    draftProposals := catalog.draftProposals.map fun proposal =>
      if proposal.proposalId = proposalId then change proposal else proposal }

/-- The catalog with one more version. -/
def addVersion (record : CatalogVersionRecord) : SchemaCatalog :=
  { catalog with versionHistory := catalog.versionHistory ++ [record] }

end SchemaCatalog

end QueryGate.Catalog
