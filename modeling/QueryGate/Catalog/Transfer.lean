import QueryGate.Catalog.Publication

/-! # Portability and deletion

Export, import and the deletions of `catalog/governance.py`, and all the operations as calls
on a store.
-/

namespace QueryGate.Catalog

open Foundation

/-! ## Export and import -/

/-- `CatalogExportBundle`. -/
structure CatalogExportBundle where
  connectionId : String
  exportedAt : Timestamp
  catalogVersion : Nat
  tables : ConnectionCatalog
  schemaSnapshot : Option ObservedSchemaSnapshot
  draftProposals : List CatalogDraftProposal
  generationRecords : List CatalogGenerationRecord
  versionHistory : List CatalogVersionRecord

/-- `CatalogExportBundle._content_matches_connection`. -/
def CatalogExportBundle.checkConnection (bundle : CatalogExportBundle) : CatalogResult Unit := do
  refuse (bundle.schemaSnapshot.any
      fun snapshot => decide (snapshot.connectionId ≠ bundle.connectionId))
    (validationError "export schema_snapshot must match the bundle's connection_id")
  refuse (bundle.draftProposals.any
      fun proposal => decide (proposal.target.connectionId ≠ bundle.connectionId))
    (validationError "export draft_proposals must all target the bundle's connection_id")
  refuse (bundle.generationRecords.any
      fun record => decide (record.connectionId ≠ bundle.connectionId))
    (validationError "export generation_records must all belong to the bundle's connection_id")
  refuse (bundle.versionHistory.any
      fun record => decide (record.change.target.connectionId ≠ bundle.connectionId))
    (validationError "export version_history must all target the bundle's connection_id")

/-- `export_connection`. -/
def exportConnection (store : CatalogStore) (connectionId : String) (now : Timestamp) :
    CatalogResult CatalogExportBundle := do
  let catalog := store.catalog
  let proposals := catalog.iterDraftProposals connectionId
  let bundle : CatalogExportBundle :=
    { connectionId := connectionId
      exportedAt := now
      catalogVersion := catalog.version
      tables := catalog.tables connectionId
      schemaSnapshot := catalog.getSchemaSnapshot connectionId
      draftProposals := proposals
      generationRecords := (proposals.map CatalogDraftProposal.generationId).dedup.filterMap
        catalog.generationRecord?
      versionHistory := catalog.iterVersionHistory connectionId }
  bundle.checkConnection
  pure bundle

/-- The ids an import tries for a generation, in order. -/
def importedGenerationId (generationId : String) : Nat → String
  | 0 => generationId
  | suffix + 1 => generationId ++ (":imported-" ++ toString (suffix + 1))

/-- The first of them that is not taken. -/
def freeGenerationId (taken : List String) (generationId : String) : String :=
  (((List.range (taken.length + 1)).map (importedGenerationId generationId)).find?
    fun candidate => decide (candidate ∉ taken)).getD generationId

/-- `generation_id_map`. -/
def generationIdMap (surviving : List String) (records : List CatalogGenerationRecord) :
    List (String × String) :=
  records.foldl (fun names record =>
    dictSet names record.generationId
      (freeGenerationId (surviving ++ names.map Prod.snd) record.generationId)) []

/-- `version_id_map`. -/
def versionIdMap (existing : Nat) (records : List CatalogVersionRecord) : List (String × String) :=
  dictOf (records.zipIdx.map fun record =>
    (record.1.versionId, toString (existing + (record.2 + 1))))

/-- `names.get(id, id)`. -/
def renamed (names : List (String × String)) (id : String) : String :=
  (dictGet names id).getD id

/-- A version under its new id. -/
def CatalogVersionRecord.remapped (names : List (String × String))
    (record : CatalogVersionRecord) : CatalogVersionRecord :=
  { record with
    versionId := renamed names record.versionId
    rolledBackVersionId := record.rolledBackVersionId.map (renamed names) }

/-- A proposal with the new ids of its generation and its version. -/
def CatalogDraftProposal.remapped (generations versions : List (String × String))
    (proposal : CatalogDraftProposal) : CatalogDraftProposal :=
  { proposal with
    generationId := renamed generations proposal.generationId
    publishedVersionId := proposal.publishedVersionId.map (renamed versions) }

/-- The catalog with the connection's content replaced by a bundle's. -/
def importedCatalog (catalog : SchemaCatalog) (bundle : CatalogExportBundle)
    (connectionId : String) : SchemaCatalog :=
  let surviving := catalog.generationRecords.filter
    fun record => decide (record.connectionId ≠ connectionId)
  let generations := generationIdMap (surviving.map CatalogGenerationRecord.generationId)
    bundle.generationRecords
  let versions := versionIdMap catalog.versionHistory.length bundle.versionHistory
  { version := catalog.version
    connections := dictSet catalog.connections connectionId bundle.tables
    schemaSnapshots :=
      match bundle.schemaSnapshot with
      | some snapshot => dictSet catalog.schemaSnapshots connectionId snapshot
      | none => catalog.schemaSnapshots.filter fun entry => decide (entry.1 ≠ connectionId)
    draftProposals :=
      (catalog.draftProposals.filter
        fun proposal => decide (proposal.target.connectionId ≠ connectionId)) ++
      bundle.draftProposals.map (·.remapped generations versions)
    generationRecords := surviving ++ bundle.generationRecords.map fun record =>
      { record with generationId := renamed generations record.generationId }
    versionHistory :=
      (catalog.versionHistory.filter
        fun record => decide (record.change.target.connectionId ≠ connectionId)) ++
      bundle.versionHistory.map (·.remapped versions) }

/-- `import_connection`. -/
def importConnection (store : CatalogStore) (bundle : CatalogExportBundle)
    (connectionId : String) : CatalogResult GovernanceDraft := do
  refuse (decide (bundle.connectionId ≠ connectionId))
    (governanceError ("export bundle connection_id " ++ quoted bundle.connectionId ++
      " does not match the import target " ++ quoted connectionId))
  pure
    { outcome := "imported"
      catalog := importedCatalog store.catalog bundle connectionId }

/-! ## Deletion -/

/-- `_require_deletable_proposal`: the versions that go with the proposal. -/
def requireDeletableProposal (store : CatalogStore) (proposal : CatalogDraftProposal)
    (proposalId : String) : CatalogResult (List String) :=
  match proposal.reviewStatus with
  | .rejected => .ok []
  | .published => do
      let version := proposal.publishedVersionId.bind store.catalog.getVersionRecord
      refuse (version.all fun record => decide (record.status ≠ .reverted))
        (governanceError ("proposal " ++ quoted proposalId ++
          " is published and its publish is still live; roll it back before it can be deleted"))
      pure (proposal.publishedVersionId.toList ++
        ((store.catalog.iterVersionHistory proposal.target.connectionId).filter
          fun record => decide (record.rolledBackVersionId = proposal.publishedVersionId)).map
            CatalogVersionRecord.versionId)
  | status =>
      .error (governanceError ("proposal " ++ quoted proposalId ++
        " cannot be deleted from status " ++ quoted status.value ++
        "; reject it, or roll back its publish, first"))

/-- The catalog without these proposals and these versions. -/
def SchemaCatalog.deleteRecords (catalog : SchemaCatalog) (proposals versions : List String) :
    SchemaCatalog :=
  { catalog with
    draftProposals := catalog.draftProposals.filter
      fun proposal => decide (proposal.proposalId ∉ proposals)
    versionHistory := catalog.versionHistory.filter
      fun record => decide (record.versionId ∉ versions)
    generationRecords := catalog.generationRecords.map fun record =>
      { record with
        proposalIds := record.proposalIds.filter fun id => decide (id ∉ proposals) } }

/-- `delete_proposal`. -/
def deleteProposal (store : CatalogStore) (proposalId connectionId : String) :
    CatalogResult GovernanceDraft := do
  let proposal ← requireProposal store proposalId connectionId
  let versions ← requireDeletableProposal store proposal proposalId
  pure
    { outcome := "deleted"
      proposalId := some proposalId
      catalog := store.catalog.deleteRecords [proposalId] versions }

/-- `bulk_delete_proposals`. -/
def bulkDeleteProposals (store : CatalogStore) (proposalIds : List String)
    (connectionId : String) : CatalogResult GovernanceDraft := do
  checkBulkIds proposalIds "bulk delete" "bulk delete is" "bulk delete"
  let versions ← mapAll (fun proposalId => do
    let proposal ← requireProposal store proposalId connectionId
    requireDeletableProposal store proposal proposalId) proposalIds
  pure
    { outcome := "bulk_deleted"
      proposalIds := proposalIds
      catalog := store.catalog.deleteRecords proposalIds versions.flatten }

/-- `delete_version_record`. -/
def deleteVersionRecord (store : CatalogStore) (versionId connectionId : String) :
    CatalogResult GovernanceDraft :=
  match store.catalog.getVersionRecord versionId with
  | none => .error (notFoundError ("Unknown catalog version: " ++ quoted versionId))
  | some record => do
      refuse (decide (record.change.target.connectionId ≠ connectionId))
        (notFoundError ("Unknown catalog version: " ++ quoted versionId))
      refuse (decide (record.action ≠ .rollback))
        (governanceError ("only a rollback record can be deleted directly; delete its paired " ++
          "proposal (after rollback) to remove a publish record"))
      pure
        { outcome := "deleted"
          versionId := some versionId
          catalog := store.catalog.deleteRecords [] [versionId] }

/-! ## Calls -/

/-- The calls that change a store. -/
inductive GovernanceCall where
  | createManual (connectionId : String) (target : CatalogDraftTarget)
      (content : CatalogDraftContent) (actor : String) (now : Timestamp)
  | edit (proposalId connectionId actor : String) (content : CatalogDraftContent)
      (now : Timestamp)
  | approve (proposalId connectionId actor : String) (now : Timestamp)
  | reject (proposalId connectionId actor reason : String) (now : Timestamp)
  | bulkApprove (proposalIds : List String) (connectionId actor : String) (now : Timestamp)
  | bulkReject (proposalIds : List String) (connectionId actor reason : String) (now : Timestamp)
  | publish (proposalId connectionId actor : String) (now : Timestamp)
  | rollback (versionId connectionId actor : String) (now : Timestamp)
  | deleteProposal (proposalId connectionId : String)
  | bulkDelete (proposalIds : List String) (connectionId : String)
  | deleteVersion (versionId connectionId : String)
  | importBundle (bundle : CatalogExportBundle) (connectionId : String)

/-- The draft of a call. -/
def GovernanceCall.draft (env : CatalogEnv) (store : CatalogStore) :
    GovernanceCall → CatalogResult GovernanceDraft
  | .createManual connectionId target content actor now =>
      createManualProposal env store connectionId target content actor now
  | .edit proposalId connectionId actor content now =>
      editProposal store proposalId connectionId actor content now
  | .approve proposalId connectionId actor now =>
      approveProposal store proposalId connectionId actor now
  | .reject proposalId connectionId actor reason now =>
      rejectProposal store proposalId connectionId actor reason now
  | .bulkApprove proposalIds connectionId actor now =>
      bulkApproveProposals store proposalIds connectionId actor now
  | .bulkReject proposalIds connectionId actor reason now =>
      bulkRejectProposals store proposalIds connectionId actor reason now
  | .publish proposalId connectionId actor now =>
      publishProposal env store proposalId connectionId actor now
  | .rollback versionId connectionId actor now =>
      rollbackVersion env store versionId connectionId actor now
  | .deleteProposal proposalId connectionId =>
      Catalog.deleteProposal store proposalId connectionId
  | .bulkDelete proposalIds connectionId => bulkDeleteProposals store proposalIds connectionId
  | .deleteVersion versionId connectionId => deleteVersionRecord store versionId connectionId
  | .importBundle bundle connectionId => importConnection store bundle connectionId

/-- A call on a store. -/
def GovernanceCall.run (env : CatalogEnv) (store : CatalogStore) (call : GovernanceCall) :
    CatalogResult CatalogGovernanceUpdate := do
  let draft ← call.draft env store
  commit draft

/-- The store after a call: a refused call leaves the file as it is. -/
def CatalogStore.after (env : CatalogEnv) (store : CatalogStore) (call : GovernanceCall) :
    CatalogStore :=
  match call.run env store with
  | .ok update => update.store
  | .error _ => store

theorem GovernanceCall.run_eq_ok_iff {env : CatalogEnv} {store : CatalogStore}
    {call : GovernanceCall} {update : CatalogGovernanceUpdate} :
    call.run env store = .ok update ↔
      ∃ draft, call.draft env store = .ok draft ∧ update.store.catalog = draft.catalog ∧
        update.toUpdateSummary = draft.toUpdateSummary := by
  unfold GovernanceCall.run
  simp only [bind_eq_ok_iff, commit_eq_ok_iff]

/-- The stores a run of calls reaches when every call is allowed where it is made. -/
inductive Reached (env : CatalogEnv) (initial : CatalogStore → Prop)
    (allowed : CatalogStore → GovernanceCall → Prop) : CatalogStore → Prop
  | start {store : CatalogStore} (first : initial store) : Reached env initial allowed store
  | step {store : CatalogStore} (before : Reached env initial allowed store)
      {call : GovernanceCall} (permitted : allowed store call) {update : CatalogGovernanceUpdate}
      (ran : call.run env store = .ok update) : Reached env initial allowed update.store

/-- What holds at the start and is kept by every allowed call holds of every store reached. -/
theorem Reached.invariant {env : CatalogEnv} {initial : CatalogStore → Prop}
    {allowed : CatalogStore → GovernanceCall → Prop} {kept : SchemaCatalog → Prop}
    (first : ∀ store, initial store → kept store.catalog)
    (each : ∀ store call draft, kept store.catalog → allowed store call →
      call.draft env store = .ok draft → draft.catalog.Valid → kept draft.catalog)
    {store : CatalogStore} (reached : Reached env initial allowed store) :
    kept store.catalog := by
  induction reached with
  | start initially => exact first _ initially
  | step _ permitted ran ih =>
      obtain ⟨draft, drafted, written, _⟩ := GovernanceCall.run_eq_ok_iff.mp ran
      rw [written]
      exact each _ _ draft ih permitted drafted (written ▸ CatalogStore.valid _)

/-- A call that is refused reaches no other store. -/
theorem Reached.after {env : CatalogEnv} {initial : CatalogStore → Prop}
    {allowed : CatalogStore → GovernanceCall → Prop} {store : CatalogStore}
    (reached : Reached env initial allowed store) {call : GovernanceCall}
    (permitted : allowed store call) : Reached env initial allowed (store.after env call) := by
  unfold CatalogStore.after
  cases ran : call.run env store with
  | error refusal => exact reached
  | ok update => exact reached.step permitted ran

theorem Reached.foldl_after {env : CatalogEnv} {initial : CatalogStore → Prop}
    {allowed : CatalogStore → GovernanceCall → Prop} {calls : List GovernanceCall}
    (permitted : ∀ call ∈ calls, ∀ store, allowed store call) {store : CatalogStore}
    (reached : Reached env initial allowed store) :
    Reached env initial allowed (calls.foldl (fun store call => store.after env call) store) := by
  induction calls generalizing store with
  | nil => exact reached
  | cons call rest ih =>
      obtain ⟨first, others⟩ := List.forall_mem_cons.mp permitted
      exact ih others (reached.after (first store))

/-! ## What a successful call has checked -/

section Drafts

variable {env : CatalogEnv} {store : CatalogStore} {draft : GovernanceDraft}
  {connectionId proposalId versionId : String} {proposalIds : List String}

theorem importConnection_ok {bundle : CatalogExportBundle}
    (drafted : importConnection store bundle connectionId = .ok draft) :
    bundle.connectionId = connectionId ∧
      draft.catalog = importedCatalog store.catalog bundle connectionId := by
  simp only [importConnection, seq_eq_ok_iff, refuse_eq_ok_iff] at drafted
  obtain ⟨same, finished⟩ := drafted
  cases finished
  exact ⟨by simpa using same, rfl⟩

/-- The versions that go with a proposal, where it can be deleted. -/
def deletableVersions (store : CatalogStore) (proposalId : String) : List String :=
  match store.catalog.getDraftProposal proposalId with
  | none => []
  | some proposal =>
      match requireDeletableProposal store proposal proposalId with
      | .ok versions => versions
      | .error _ => []

theorem deletableVersions_of_required {proposal : CatalogDraftProposal} {versions : List String}
    (required : requireProposal store proposalId connectionId = .ok proposal)
    (deletable : requireDeletableProposal store proposal proposalId = .ok versions) :
    deletableVersions store proposalId = versions := by
  unfold deletableVersions
  rw [(requireProposal_eq_ok_iff.mp required).1]
  simp only [deletable]

theorem deleteProposal_ok
    (drafted : deleteProposal store proposalId connectionId = .ok draft) :
    draft.catalog =
      store.catalog.deleteRecords [proposalId] (deletableVersions store proposalId) := by
  simp only [deleteProposal, bind_eq_ok_iff] at drafted
  obtain ⟨proposal, required, versions, deletable, finished⟩ := drafted
  rw [deletableVersions_of_required required deletable]
  cases finished
  rfl

theorem bulkDeleteProposals_ok
    (drafted : bulkDeleteProposals store proposalIds connectionId = .ok draft) :
    draft.catalog =
      store.catalog.deleteRecords proposalIds
        (proposalIds.flatMap (deletableVersions store)) := by
  simp only [bulkDeleteProposals, bind_eq_ok_iff, mapAll_eq_ok_iff] at drafted
  obtain ⟨_, checked, versions, each, finished⟩ := drafted
  have listed : versions = proposalIds.map (deletableVersions store) := by
    clear checked finished
    induction each with
    | nil => rfl
    | cons first _ ih =>
        obtain ⟨proposal, required, deletable⟩ := first
        rw [List.map_cons, deletableVersions_of_required required deletable, ih]
  cases finished
  rw [listed]
  rfl

theorem deleteVersionRecord_ok
    (drafted : deleteVersionRecord store versionId connectionId = .ok draft) :
    (∃ record, store.catalog.getVersionRecord versionId = some record ∧
        record.action = .rollback) ∧
      draft.catalog = store.catalog.deleteRecords [] [versionId] := by
  unfold deleteVersionRecord at drafted
  split at drafted
  · cases drafted
  · rename_i record found
    simp only [seq_eq_ok_iff, refuse_eq_ok_iff] at drafted
    obtain ⟨_, rolledBack, finished⟩ := drafted
    cases finished
    exact ⟨⟨record, found, by simpa using rolledBack⟩, rfl⟩

end Drafts

end QueryGate.Catalog
