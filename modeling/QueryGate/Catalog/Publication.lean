import QueryGate.Catalog.Governance

/-! # Publishing and rolling back

`_plan_publish`, `publish_proposal` and `rollback_version` of `catalog/governance.py`. A
publication merges the fields a proposal touches into the entry it targets and records them
as a version; a rollback takes a version back.
-/

namespace QueryGate.Catalog

open Foundation

/-! ## The plan -/

/-- `_touched_fields`. -/
def CatalogContent.touched (content : CatalogContent) : List ContentField :=
  ContentField.all.filter fun field => decide (content.value field ≠ [])

/-- Whether a value changes. Aliases are compared in sorted order. -/
def fieldChanged (field : ContentField) (old new : List String) : Bool :=
  match field with
  | .aliases => !(old.isPerm new)
  | _ => decide (old ≠ new)

/-- The verified provenance a publication presents to the replacement gate. -/
def probeProvenance : CatalogEntryProvenance :=
  { sourceClass := .verified, status := .verified }

/-- Publishing a field of the proposal into the entry is refused. -/
def fieldConflicts (existing : Option CatalogEntry) (content : CatalogContent)
    (field : ContentField) : Bool :=
  existing.any fun entry =>
    let old := entry.content.value field
    let changed := fieldChanged field old (content.value field)
    (decide (entry.provenance.status = .verified) && decide (old ≠ []) && changed) ||
      !(replacementDecision entry.provenance probeProvenance field.name changed).allowed

structure PublishPlan where
  entryId : String
  changeKind : ChangeKind
  before : Option CatalogDraftContent
  mergedFields : List ContentField
  conflicts : List ContentField

/-- What the touched fields of an entry hold, where they hold something. -/
def priorContent (existing : Option CatalogEntry) (touched : List ContentField) : CatalogContent :=
  match existing with
  | none => {}
  | some entry =>
      entry.content.only (touched.filter fun field => decide (entry.content.value field ≠ []))

/-- The content of an entry before a publication, as its record keeps it. -/
def recordedBefore (existing : Option CatalogEntry) (content : CatalogContent) :
    CatalogResult (Option CatalogDraftContent) :=
  let prior := priorContent existing content.touched
  if prior = {} then .ok none else (draftContent prior).map some

/-- `_plan_publish`. -/
def planPublish (env : CatalogEnv) (store : CatalogStore) (proposal : CatalogDraftProposal) :
    CatalogResult PublishPlan := do
  let existing := store.catalog.entryAt? proposal.target
  let touched := proposal.content.1.touched
  let before ← recordedBefore existing proposal.content.1
  pure
    { entryId := stableEntryId env proposal.target.idParts
      changeKind := if existing.isSome then .updated else .created
      before := before
      mergedFields := touched.filter fun field => !fieldConflicts existing proposal.content.1 field
      conflicts := touched.filter fun field => fieldConflicts existing proposal.content.1 field }

/-! ## Publishing -/

/-- The characters an evidence reference may hold, beside letters and numbers. -/
def isReferenceMark (char : Char) : Bool :=
  char = '.' || char = '_' || char = ':' || char = '/' || char = '-'

/-- `CatalogEvidence._redaction_safe_reference` on the reference to the proposal. -/
def checkReference (env : CatalogEnv) (proposalId : String) : CatalogResult Unit :=
  refuse (proposalId.toList.any fun char => !(env.isAlnum char || isReferenceMark char))
    (validationError ("catalog evidence references may contain only letters, numbers, " ++
      "'.', '_', ':', '/', and '-'"))

/-- The provenance of a published entry. -/
def publishedProvenance (catalog : SchemaCatalog) (proposal : CatalogDraftProposal)
    (entryId actor : String) (now : Timestamp) : CatalogEntryProvenance where
  entryId := entryId
  catalogVersion := catalog.version
  sourceClass := .verified
  status := .verified
  schemaFingerprint := catalog.currentFingerprint proposal.target.connectionId
  createdBy := proposal.provenance.createdBy
  approvedBy := some actor
  createdAt := proposal.provenance.createdAt
  approvedAt := some now

/-- A table row that is written for its column or relationship alone. The loader binds its
provenance. -/
def freshTable (env : CatalogEnv) (catalog : SchemaCatalog) (target : CatalogDraftTarget) :
    TableCatalogEntry where
  provenance :=
    { entryId := stableEntryId env [target.connectionId, "table", target.table]
      catalogVersion := catalog.version
      schemaFingerprint := catalog.currentFingerprint target.connectionId }

/-- The catalog with the merged fields of a proposal in its entry. -/
def mergeEntry (env : CatalogEnv) (catalog : SchemaCatalog) (target : CatalogDraftTarget)
    (content : CatalogContent) (merged : List ContentField)
    (provenance : CatalogEntryProvenance) : SchemaCatalog :=
  let table := (catalog.getTable target.connectionId target.table).getD
    (freshTable env catalog target)
  let old := ((table.entryAt? target.object).getD {}).content
  catalog.setTable target.connectionId target.table
    (table.setEntry ⟨merged.foldl content.copyField old, provenance⟩ target.object)

/-- `str(len(history) + 1)`. -/
def SchemaCatalog.nextVersionId (catalog : SchemaCatalog) : String :=
  toString (catalog.versionHistory.length + 1)

/-- The record of a publication. -/
def publishRecord (versionId : String) (proposal : CatalogDraftProposal) (plan : PublishPlan)
    (after : CatalogDraftContent) (actor : String) (now : Timestamp) : CatalogVersionRecord where
  versionId := versionId
  action := .publish
  actor := actor
  occurredAt := now
  proposalId := some proposal.proposalId
  change :=
    { target := proposal.target
      change := plan.changeKind
      before := plan.before
      after := some after }

/-- The proposal after its publication. -/
def CatalogDraftProposal.publishedAs (entryId versionId actor : String) (now : Timestamp)
    (proposal : CatalogDraftProposal) : CatalogDraftProposal :=
  { proposal with
    reviewStatus := .published
    publishedEntryId := some entryId
    publishedVersionId := some versionId }.record ⟨.published, actor, now, none⟩

/-- `publish_proposal`. -/
def publishProposal (env : CatalogEnv) (store : CatalogStore)
    (proposalId connectionId actor : String) (now : Timestamp) :
    CatalogResult GovernanceDraft := do
  let catalog := store.catalog
  let proposal ← requireProposal store proposalId connectionId
  refuse (decide (proposal.reviewStatus ≠ .approved))
    (governanceError ("proposal " ++ quoted proposalId ++
      " must be approved before publishing (current status: " ++
      quoted proposal.reviewStatus.value ++ ")"))
  refuse (decide (proposal.provenance.status = .stale)) (staleProposal proposalId "published")
  refuse ((catalog.getSchemaSnapshot connectionId).any
      fun snapshot => decide (proposal.provenance.schemaFingerprint ≠ snapshot.fingerprint))
    (governanceError ("proposal " ++ quoted proposalId ++
      " was generated against schema fingerprint " ++
      quoted proposal.provenance.schemaFingerprint ++ ", current is " ++
      quoted (catalog.currentFingerprint connectionId) ++
      "; refresh and regenerate before publishing"))
  let plan ← planPublish env store proposal
  refuse (!plan.conflicts.isEmpty)
    (governanceError ("proposal " ++ quoted proposalId ++
      " conflicts with already-verified content on field(s) " ++
      ", ".intercalate (plan.conflicts.map ContentField.name) ++
      " — edit the proposal or resolve the conflict manually"))
  refuse plan.mergedFields.isEmpty
    (governanceError ("proposal " ++ quoted proposalId ++ " has no fields left to publish"))
  let after ← draftContent (proposal.content.1.only plan.mergedFields)
  checkActor actor
  checkReference env proposalId
  let versionId := catalog.nextVersionId
  let merged := mergeEntry env catalog proposal.target proposal.content.1 plan.mergedFields
    (publishedProvenance catalog proposal plan.entryId actor now)
  pure
    { outcome := "published"
      proposalId := some proposalId
      versionId := some versionId
      entryId := some plan.entryId
      catalog :=
        (merged.addVersion (publishRecord versionId proposal plan after actor now)).updateProposal
          proposalId (·.publishedAs plan.entryId versionId actor now) }

/-! ## Rolling back -/

/-- The version a rollback takes back: a publication of the connection that is still
active. -/
def requireActive (store : CatalogStore) (versionId connectionId : String) :
    CatalogResult CatalogVersionRecord :=
  match store.catalog.getVersionRecord versionId with
  | none => .error (notFoundError ("Unknown catalog version: " ++ quoted versionId))
  | some record => do
      refuse (decide (record.action ≠ .publish))
        (governanceError "only a publish version can be rolled back")
      refuse (decide (record.status ≠ .active))
        (governanceError ("version " ++ quoted versionId ++ " has already been reverted"))
      refuse (decide (record.change.target.connectionId ≠ connectionId))
        (notFoundError ("Unknown catalog version: " ++ quoted versionId))
      pure record

/-- The table of the entry a rollback undoes. The entry must be as the version left it. -/
def rollbackTable (env : CatalogEnv) (catalog : SchemaCatalog) (record : CatalogVersionRecord) :
    CatalogResult TableCatalogEntry :=
  let target := record.change.target
  match catalog.getTable target.connectionId target.table with
  | none => .error (governanceError "the published table no longer exists; rollback refused")
  | some table =>
      match table.entryAt? target.object with
      | none =>
          .error (governanceError "the published entry no longer exists; rollback refused")
      | some entry => do
          refuse (decide (entry.provenance.entryId ≠ stableEntryId env target.idParts ∨
              entry.provenance.approvedAt ≠ some record.occurredAt))
            (governanceError ("the entry has changed since this version was published; " ++
              "rollback refused to avoid discarding a newer change"))
          pure table

/-- The catalog without the entry a version created. -/
def undoCreation (catalog : SchemaCatalog) (target : CatalogDraftTarget)
    (table : TableCatalogEntry) : CatalogResult SchemaCatalog :=
  match target.object with
  | .table => do
      refuse (!table.columns.isEmpty || !table.relationships.isEmpty)
        (governanceError ("cannot roll back a table creation while the table still has columns " ++
          "or relationships; roll those back first"))
      pure (catalog.eraseTable target.connectionId target.table)
  | object => .ok (catalog.setTable target.connectionId target.table (table.eraseEntry object))

/-- The catalog with the recorded content in the entry, and no other. -/
def undoUpdate (catalog : SchemaCatalog) (target : CatalogDraftTarget)
    (table : TableCatalogEntry) (before : Option CatalogDraftContent) : SchemaCatalog :=
  let entry := (table.entryAt? target.object).getD {}
  catalog.setTable target.connectionId target.table
    (table.setEntry { entry with content := (before.map Subtype.val).getD {} } target.object)

/-- The catalog before the version, as far as the rollback restores it. -/
def undoChange (catalog : SchemaCatalog) (change : CatalogVersionChange)
    (table : TableCatalogEntry) : CatalogResult SchemaCatalog :=
  match change.change with
  | .created => undoCreation catalog change.target table
  | _ => .ok (undoUpdate catalog change.target table change.before)

/-- The dump of a content always lists its aliases, which a relationship hint has no field
for, so the models refuse a hint that is updated from one. -/
def checkRestored (change : CatalogVersionChange) : CatalogResult Unit :=
  refuse (decide (change.change ≠ .created) && change.target.object.isRelationship &&
      change.before.isSome)
    (validationError "Extra inputs are not permitted")

/-- What a rollback records as its change. -/
def reverseChange (change : CatalogVersionChange) : CatalogVersionChange :=
  match change.change with
  | .created => { target := change.target, change := .removed, before := change.after }
  | _ => { target := change.target, change := .updated, before := change.after,
           after := change.before }

/-- The record of a rollback. -/
def rollbackRecord (newVersionId : String) (record : CatalogVersionRecord) (actor : String)
    (now : Timestamp) : CatalogVersionRecord where
  versionId := newVersionId
  action := .rollback
  actor := actor
  occurredAt := now
  rolledBackVersionId := some record.versionId
  change := reverseChange record.change

/-- The catalog with the versions of this id marked as reverted. -/
def SchemaCatalog.revertVersion (catalog : SchemaCatalog) (versionId : String) : SchemaCatalog :=
  { catalog with
    versionHistory := catalog.versionHistory.map fun record =>
      if record.versionId = versionId then { record with status := .reverted } else record }

/-- The catalog with the rollback of a version in the history of its proposal. -/
def SchemaCatalog.noteRollback (catalog : SchemaCatalog) (proposalId : Option String)
    (actor : String) (now : Timestamp) : SchemaCatalog :=
  match proposalId with
  | some proposalId =>
      catalog.updateProposal proposalId (·.record ⟨.rolledBack, actor, now, none⟩)
  | none => catalog

/-- `rollback_version`. -/
def rollbackVersion (env : CatalogEnv) (store : CatalogStore)
    (versionId connectionId actor : String) (now : Timestamp) :
    CatalogResult GovernanceDraft := do
  let catalog := store.catalog
  let record ← requireActive store versionId connectionId
  let table ← rollbackTable env catalog record
  let undone ← undoChange catalog record.change table
  checkActor actor
  checkRestored record.change
  let newVersionId := catalog.nextVersionId
  pure
    { outcome := "rolled_back"
      versionId := some newVersionId
      rolledBackVersionId := some versionId
      catalog :=
        ((undone.addVersion (rollbackRecord newVersionId record actor now)).revertVersion
          versionId).noteRollback record.proposalId actor now }

/-! ## What a successful operation has checked -/

theorem mem_touched {content : CatalogContent} {field : ContentField} :
    field ∈ content.touched ↔ content.value field ≠ [] := by
  simp [CatalogContent.touched, field.mem_all]

theorem only_filter (other : CatalogContent) (keep : ContentField → Bool) :
    other.only (ContentField.all.filter keep) =
      { description := if keep .description then other.description else none
        aliases := if keep .aliases then other.aliases else []
        defaultAggregation :=
          if keep .defaultAggregation then other.defaultAggregation else none } := by
  cases described : keep .description <;> cases named : keep .aliases <;>
    cases totalled : keep .defaultAggregation <;>
      simp [CatalogContent.only, ContentField.all, CatalogContent.copyField, described, named,
        totalled]

theorem presentText_eq_nil_of_clean {bound : Nat} {text : Option String}
    (written : ∀ found ∈ text, CleanText bound found) : presentText text = [] ↔ text = none :=
  presentText_eq_nil fun found member => (written found member).2.1

/-- A validated content is the fields it touches. -/
theorem only_touched (content : CatalogDraftContent) :
    content.1.only content.1.touched = content.1 := by
  obtain ⟨content, written, _, _, aggregated, _⟩ := content
  unfold CatalogContent.touched
  rw [only_filter]
  simp only [decide_eq_true_eq, CatalogContent.value, ne_eq, presentText_eq_nil_of_clean written,
    presentText_eq_nil_of_clean aggregated]
  obtain ⟨description, aliases, aggregation⟩ := content
  congr 1
  · cases description <;> rfl
  · by_cases none_ : aliases = [] <;> simp [none_]
  · cases aggregation <;> rfl

section Drafts

variable {env : CatalogEnv} {store : CatalogStore} {draft : GovernanceDraft}
  {connectionId proposalId versionId actor : String} {now : Timestamp}

/-- The plan of a publication that is accepted. -/
def acceptedPlan (env : CatalogEnv) (catalog : SchemaCatalog) (proposal : CatalogDraftProposal)
    (before : Option CatalogDraftContent) : PublishPlan where
  entryId := stableEntryId env proposal.target.idParts
  changeKind := if (catalog.entryAt? proposal.target).isSome then .updated else .created
  before := before
  mergedFields := proposal.content.1.touched
  conflicts := []

/-- The catalog an accepted publication drafts. -/
def publishedCatalog (env : CatalogEnv) (catalog : SchemaCatalog)
    (proposal : CatalogDraftProposal) (before : Option CatalogDraftContent) (actor : String)
    (now : Timestamp) : SchemaCatalog :=
  let plan := acceptedPlan env catalog proposal before
  ((mergeEntry env catalog proposal.target proposal.content.1 proposal.content.1.touched
      (publishedProvenance catalog proposal plan.entryId actor now)).addVersion
    (publishRecord catalog.nextVersionId proposal plan proposal.content actor now)).updateProposal
      proposal.proposalId (·.publishedAs plan.entryId catalog.nextVersionId actor now)

theorem planPublish_eq_ok_iff {proposal : CatalogDraftProposal} {plan : PublishPlan} :
    planPublish env store proposal = .ok plan ↔
      ∃ before, recordedBefore (store.catalog.entryAt? proposal.target) proposal.content.1 =
          .ok before ∧
        plan =
          { acceptedPlan env store.catalog proposal before with
            mergedFields := proposal.content.1.touched.filter fun field =>
              !fieldConflicts (store.catalog.entryAt? proposal.target) proposal.content.1 field
            conflicts := proposal.content.1.touched.filter fun field =>
              fieldConflicts (store.catalog.entryAt? proposal.target) proposal.content.1 field } := by
  simp only [planPublish, bind_eq_ok_iff]
  constructor
  · rintro ⟨before, recorded, planned⟩
    exact ⟨before, recorded, (Except.ok.inj planned).symm⟩
  · rintro ⟨before, recorded, rfl⟩
    exact ⟨before, recorded, rfl⟩

/-- An accepted publication merges every field its proposal touches. -/
theorem publishProposal_ok
    (drafted : publishProposal env store proposalId connectionId actor now = .ok draft) :
    ∃ proposal before,
      store.catalog.getDraftProposal proposalId = some proposal ∧
      proposal.target.connectionId = connectionId ∧
      proposal.reviewStatus = .approved ∧
      recordedBefore (store.catalog.entryAt? proposal.target) proposal.content.1 = .ok before ∧
      (∀ field ∈ proposal.content.1.touched,
        fieldConflicts (store.catalog.entryAt? proposal.target) proposal.content.1 field = false) ∧
      checkActor actor = .ok () ∧
      draft.catalog = publishedCatalog env store.catalog proposal before actor now := by
  simp only [publishProposal, bind_eq_ok_iff, refuse_eq_ok_iff] at drafted
  obtain ⟨proposal, required, _, approved, _, _, _, _, plan, planned, _, clear, _, _, after,
    kept, _, actorKept, _, _, finished⟩ := drafted
  obtain ⟨before, recorded, rfl⟩ := planPublish_eq_ok_iff.mp planned
  obtain ⟨found, connection⟩ := requireProposal_eq_ok_iff.mp required
  have named : proposal.proposalId = proposalId := by
    simpa using List.find?_some found
  have free : ∀ field ∈ proposal.content.1.touched,
      fieldConflicts (store.catalog.entryAt? proposal.target) proposal.content.1 field = false := by
    simpa using clear
  have all : (proposal.content.1.touched.filter fun field =>
      !fieldConflicts (store.catalog.entryAt? proposal.target) proposal.content.1 field) =
      proposal.content.1.touched :=
    List.filter_eq_self.mpr fun field member => by simp [free field member]
  have none_ : (proposal.content.1.touched.filter fun field =>
      fieldConflicts (store.catalog.entryAt? proposal.target) proposal.content.1 field) = [] :=
    List.filter_eq_nil_iff.mpr fun field member => by simp [free field member]
  simp only [all, none_, only_touched, draftContent_val, Except.ok.injEq] at kept finished
  subst kept
  refine ⟨proposal, before, found, connection, by simpa using approved, recorded, free,
    actorKept, ?_⟩
  cases finished
  rw [← named]
  rfl

theorem requireActive_eq_ok_iff {record : CatalogVersionRecord} :
    requireActive store versionId connectionId = .ok record ↔
      store.catalog.getVersionRecord versionId = some record ∧
        record.action = .publish ∧ record.status = .active ∧
          record.change.target.connectionId = connectionId := by
  unfold requireActive
  cases found : store.catalog.getVersionRecord versionId with
  | none => simp
  | some other =>
      simp only [seq_eq_ok_iff, refuse_eq_ok_iff, decide_eq_false_iff_not, not_not,
        Option.some.injEq]
      constructor
      · rintro ⟨published, active, connection, ⟨⟩⟩
        exact ⟨rfl, published, active, connection⟩
      · rintro ⟨rfl, published, active, connection⟩
        exact ⟨published, active, connection, rfl⟩

theorem rollbackTable_eq_ok_iff {catalog : SchemaCatalog} {record : CatalogVersionRecord}
    {table : TableCatalogEntry} :
    rollbackTable env catalog record = .ok table ↔
      catalog.getTable record.change.target.connectionId record.change.target.table = some table ∧
        ∃ entry, table.entryAt? record.change.target.object = some entry ∧
          entry.provenance.entryId = stableEntryId env record.change.target.idParts ∧
            entry.provenance.approvedAt = some record.occurredAt := by
  unfold rollbackTable
  cases listed : catalog.getTable record.change.target.connectionId
      record.change.target.table with
  | none => simp [listed]
  | some other =>
      simp only [listed]
      cases found : other.entryAt? record.change.target.object with
      | none =>
          simp only [reduceCtorEq, Option.some.injEq, false_iff]
          rintro ⟨rfl, entry, present, _⟩
          rw [found] at present
          cases present
      | some entry =>
          simp only [seq_eq_ok_iff, refuse_eq_ok_iff, decide_eq_false_iff_not, not_or, not_not,
            Option.some.injEq]
          constructor
          · rintro ⟨⟨identified, approved⟩, ⟨⟩⟩
            exact ⟨rfl, entry, found, identified, approved⟩
          · rintro ⟨rfl, present, listed, identified, approved⟩
            rw [found] at listed
            cases listed
            exact ⟨⟨identified, approved⟩, rfl⟩

/-- Undoing a change rewrites published entries alone. -/
theorem undoChange_ok {catalog undone : SchemaCatalog} {change : CatalogVersionChange}
    {table : TableCatalogEntry} (undid : undoChange catalog change table = .ok undone) :
    undone = { catalog with connections := undone.connections } := by
  have listed : ∃ tables, undone = catalog.setTables change.target.connectionId tables := by
    unfold undoChange undoCreation at undid
    split at undid
    · split at undid
      · obtain ⟨_, finished⟩ := seq_eq_ok_iff.mp undid
        cases finished
        exact ⟨_, rfl⟩
      · cases undid
        exact ⟨_, rfl⟩
    · cases undid
      exact ⟨_, rfl⟩
  obtain ⟨tables, rfl⟩ := listed
  rfl

/-- The catalog a rollback drafts from the catalog without the change. -/
def rolledBackCatalog (catalog undone : SchemaCatalog) (record : CatalogVersionRecord)
    (actor : String) (now : Timestamp) : SchemaCatalog :=
  ((undone.addVersion (rollbackRecord catalog.nextVersionId record actor now)).revertVersion
    record.versionId).noteRollback record.proposalId actor now

theorem rollbackVersion_ok
    (drafted : rollbackVersion env store versionId connectionId actor now = .ok draft) :
    ∃ record table undone,
      requireActive store versionId connectionId = .ok record ∧
      rollbackTable env store.catalog record = .ok table ∧
      undoChange store.catalog record.change table = .ok undone ∧
      checkRestored record.change = .ok () ∧
      draft.catalog = rolledBackCatalog store.catalog undone record actor now := by
  simp only [rollbackVersion, bind_eq_ok_iff] at drafted
  obtain ⟨record, required, table, listed, undone, undid, _, _, _, restored, finished⟩ := drafted
  have named : record.versionId = versionId := by
    simpa using List.find?_some (requireActive_eq_ok_iff.mp required).1
  refine ⟨record, table, undone, required, listed, undid, restored, ?_⟩
  cases finished
  rw [← named]
  rfl

end Drafts

end QueryGate.Catalog
