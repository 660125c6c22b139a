import QueryGate.Catalog.Store

/-! # Governance operations

`catalog/governance.py`. An operation checks what it needs of the store, drafts the new
catalog, and hands the draft to the models, which accept it as a store or refuse it.
-/

namespace QueryGate.Catalog

open Foundation

/-- What governance takes from outside: the digests, and the letters and digits of the
character tables. -/
structure CatalogEnv where
  /-- `hashlib.sha256(text.encode("utf-8")).hexdigest()`. -/
  digest : String → String
  /-- `_manual_digest`, of the target, the content and the time. -/
  manualDigest : CatalogDraftTarget → CatalogContent → Timestamp → String
  /-- `str.isalnum` of one character. -/
  isAlnum : Char → Bool

/-- What an operation reports beside the catalog. -/
structure UpdateSummary where
  outcome : String
  proposalId : Option String := none
  proposalIds : List String := []
  versionId : Option String := none
  entryId : Option String := none
  rolledBackVersionId : Option String := none
  deriving DecidableEq, Repr

/-- The catalog an operation has drafted. -/
structure GovernanceDraft extends UpdateSummary where
  catalog : SchemaCatalog

structure CatalogGovernanceUpdate extends UpdateSummary where
  store : CatalogStore

/-- The operation succeeds when the models accept its draft. -/
def commit (draft : GovernanceDraft) : CatalogResult CatalogGovernanceUpdate :=
  (replace draft.catalog).map fun store => { draft with store }

theorem commit_eq_ok_iff {draft : GovernanceDraft} {update : CatalogGovernanceUpdate} :
    commit draft = .ok update ↔
      update.store.catalog = draft.catalog ∧ update.toUpdateSummary = draft.toUpdateSummary := by
  unfold commit
  cases replaced : replace draft.catalog with
  | error failure =>
      refine ⟨nofun, fun ⟨same, _⟩ => ?_⟩
      rw [replace_eq_ok_iff.mpr same] at replaced
      cases replaced
  | ok store =>
      have written := replace_eq_ok_iff.mp replaced
      constructor
      · rintro ⟨⟩
        exact ⟨written, rfl⟩
      · rintro ⟨same, reported⟩
        obtain ⟨summary, ⟨catalog, valid⟩⟩ := update
        obtain ⟨written', _⟩ := store
        cases same
        cases written
        cases reported
        rfl

/-! ## Shared checks -/

/-- `stable_entry_id`. -/
def stableEntryId (env : CatalogEnv) (parts : List String) : String :=
  "urn:querygate:catalog:" ++
    String.ofList ((env.digest ("\x1f".intercalate (parts.map casefold))).toList.take 32)

/-- The parts of the stable id of a target's entry. -/
def CatalogDraftTarget.idParts (target : CatalogDraftTarget) : List String :=
  [target.connectionId, "table", target.table] ++
    match target.object with
    | .table => []
    | .column name => ["column", name]
    | .relationship identity =>
        ["relationship", identity.column, identity.toTable, identity.toColumn]

/-- The length of an actor's name in a record. -/
def checkActor (actor : String) : CatalogResult Unit :=
  refuse (decide (actor.length < 1 ∨ 160 < actor.length)) (validationError "actor")

/-- `_require_proposal`. -/
def requireProposal (store : CatalogStore) (proposalId connectionId : String) :
    CatalogResult CatalogDraftProposal :=
  match store.catalog.getDraftProposal proposalId with
  | some proposal =>
      if proposal.target.connectionId = connectionId then .ok proposal
      else .error (notFoundError ("Unknown catalog proposal: " ++ quoted proposalId))
  | none => .error (notFoundError ("Unknown catalog proposal: " ++ quoted proposalId))

theorem requireProposal_eq_ok_iff {store : CatalogStore} {proposalId connectionId : String}
    {proposal : CatalogDraftProposal} :
    requireProposal store proposalId connectionId = .ok proposal ↔
      store.catalog.getDraftProposal proposalId = some proposal ∧
        proposal.target.connectionId = connectionId := by
  unfold requireProposal
  cases found : store.catalog.getDraftProposal proposalId with
  | none => simp
  | some other =>
      by_cases same : other.target.connectionId = connectionId
      · simp only [same, ↓reduceIte, Except.ok.injEq, Option.some.injEq]
        exact ⟨fun meets => ⟨meets, meets ▸ same⟩, fun both => both.1⟩
      · simp only [same, ↓reduceIte, reduceCtorEq, Option.some.injEq, false_iff]
        rintro ⟨rfl, meets⟩
        exact same meets

/-- The fields a proposal of this target may not carry. -/
def checkProposedFields (object : DraftObject) (content : CatalogDraftContent) :
    CatalogResult Unit := do
  refuse (!object.isTable && content.1.defaultAggregation.isSome)
    (governanceError "default_aggregation may only be proposed for a table")
  refuse (object.isRelationship && !content.1.aliases.isEmpty)
    (governanceError "relationship proposals cannot define aliases")

/-- The proposal with one more event in its history. -/
def CatalogDraftProposal.record (proposal : CatalogDraftProposal) (event : ProposalReviewEvent) :
    CatalogDraftProposal :=
  { proposal with reviewHistory := proposal.reviewHistory ++ [event] }

/-! ## Authoring and review -/

/-- `_manual_target_exists`. -/
def manualTargetExists (snapshot : ObservedSchemaSnapshot) (target : CatalogDraftTarget) : Bool :=
  let table (name : String) : Option ObservedTable :=
    snapshot.tables.find? fun table => casefold table.name = casefold name
  let hasColumn (table : Option ObservedTable) (name : String) : Bool :=
    table.any fun table => table.columns.any fun column => casefold column.name = casefold name
  (table target.table).isSome &&
    match target.object with
    | .table => true
    | .column name => hasColumn (table target.table) name
    | .relationship identity =>
        hasColumn (table target.table) identity.column &&
          hasColumn (table identity.toTable) identity.toColumn

/-- The fingerprint of the connection's schema. -/
def SchemaCatalog.currentFingerprint (catalog : SchemaCatalog) (connectionId : String) : String :=
  ((catalog.getSchemaSnapshot connectionId).map ObservedSchemaSnapshot.fingerprint).getD
    "untracked"

/-- The id of a manual proposal. -/
def manualProposalId (digest : String) : String :=
  "urn:querygate:catalog:manual:" ++ String.ofList (digest.toList.take 32)

/-- The generation a manual proposal is the only proposal of. -/
def manualGenerationId (digest : String) : String :=
  "manual:" ++ String.ofList (digest.toList.take 32)

/-- The pending proposal of a human author. -/
def manualProposal (catalog : SchemaCatalog) (digest : String) (target : CatalogDraftTarget)
    (content : CatalogDraftContent) (actor : String) (now : Timestamp) : CatalogDraftProposal where
  proposalId := manualProposalId digest
  generationId := manualGenerationId digest
  target := target
  content := content
  provenance :=
    { entryId := manualProposalId digest
      catalogVersion := catalog.version
      sourceClass := .manual
      status := .draft
      schemaFingerprint := catalog.currentFingerprint target.connectionId
      createdBy := some actor
      createdAt := some now }

/-- `create_manual_proposal`. -/
def createManualProposal (env : CatalogEnv) (store : CatalogStore) (connectionId : String)
    (target : CatalogDraftTarget) (content : CatalogDraftContent) (actor : String)
    (now : Timestamp) : CatalogResult GovernanceDraft := do
  let catalog := store.catalog
  refuse (decide (target.connectionId ≠ connectionId))
    (governanceError ("proposal target connection_id " ++ quoted target.connectionId ++
      " does not match the authoring connection " ++ quoted connectionId))
  checkProposedFields target.object content
  refuse ((catalog.getSchemaSnapshot connectionId).any
      fun snapshot => !manualTargetExists snapshot target)
    (governanceError ("manual proposal target is absent from the current schema snapshot for " ++
      quoted connectionId))
  let digest := env.manualDigest target content.1 now
  refuse (decide (manualProposalId digest ∈ catalog.proposalIds))
    (governanceError "an identical manual proposal already exists")
  checkActor actor
  pure
    { outcome := "manual_created"
      proposalId := some (manualProposalId digest)
      catalog :=
        { catalog with
          draftProposals := catalog.draftProposals ++
            [manualProposal catalog digest target content actor now]
          generationRecords := catalog.generationRecords ++
            [{ generationId := manualGenerationId digest
               connectionId := connectionId
               schemaFingerprint := catalog.currentFingerprint connectionId
               proposalIds := [manualProposalId digest]
               createdBy := some actor
               createdAt := some now }] } }

/-- `edit_proposal`. -/
def editProposal (store : CatalogStore) (proposalId connectionId actor : String)
    (content : CatalogDraftContent) (now : Timestamp) : CatalogResult GovernanceDraft := do
  let proposal ← requireProposal store proposalId connectionId
  refuse (decide (proposal.reviewStatus ≠ .pending))
    (governanceError ("proposal " ++ quoted proposalId ++
      " can only be edited while pending (current status: " ++
      quoted proposal.reviewStatus.value ++ ")"))
  checkProposedFields proposal.target.object content
  checkActor actor
  pure
    { outcome := "edited"
      proposalId := some proposalId
      catalog := store.catalog.updateProposal proposalId fun proposal =>
        { proposal with content := content }.record ⟨.edited, actor, now, none⟩ }

/-- The refusal of a stale proposal. -/
def staleProposal (proposalId action : String) : CatalogError :=
  governanceError ("proposal " ++ quoted proposalId ++
    " is stale relative to the current schema and cannot be " ++ action)

/-- The proposal after its approval. -/
def CatalogDraftProposal.approvedBy (actor : String) (now : Timestamp)
    (proposal : CatalogDraftProposal) : CatalogDraftProposal :=
  { proposal with reviewStatus := .approved }.record ⟨.approved, actor, now, none⟩

/-- `approve_proposal`. -/
def approveProposal (store : CatalogStore) (proposalId connectionId actor : String)
    (now : Timestamp) : CatalogResult GovernanceDraft := do
  let proposal ← requireProposal store proposalId connectionId
  refuse (decide (proposal.reviewStatus ≠ .pending))
    (governanceError ("proposal " ++ quoted proposalId ++
      " can only be approved while pending (current status: " ++
      quoted proposal.reviewStatus.value ++ ")"))
  refuse (decide (proposal.provenance.status = .stale)) (staleProposal proposalId "approved")
  checkActor actor
  pure
    { outcome := "approved"
      proposalId := some proposalId
      catalog := store.catalog.updateProposal proposalId (·.approvedBy actor now) }

/-- A rejection needs a reason that is not blank. -/
def checkReason (reason : String) : CatalogResult Unit :=
  refuse (decide (strip reason = "")) (governanceError "a rejection reason is required")

/-- The proposal after its rejection. -/
def CatalogDraftProposal.rejectedBy (actor reason : String) (now : Timestamp)
    (proposal : CatalogDraftProposal) : CatalogDraftProposal :=
  { proposal with reviewStatus := .rejected }.record
    ⟨.rejected, actor, now, some (strip reason)⟩

/-- The bound on a reason in a review event. -/
def checkReasonLength (reason : String) : CatalogResult Unit :=
  refuse (decide (500 < (strip reason).length)) (validationError "reason")

/-- `reject_proposal`. -/
def rejectProposal (store : CatalogStore) (proposalId connectionId actor reason : String)
    (now : Timestamp) : CatalogResult GovernanceDraft := do
  checkReason reason
  let proposal ← requireProposal store proposalId connectionId
  refuse (decide (proposal.reviewStatus ≠ .pending ∧ proposal.reviewStatus ≠ .approved))
    (governanceError ("proposal " ++ quoted proposalId ++ " cannot be rejected from status " ++
      quoted proposal.reviewStatus.value))
  checkActor actor
  checkReasonLength reason
  pure
    { outcome := "rejected"
      proposalId := some proposalId
      catalog := store.catalog.updateProposal proposalId (·.rejectedBy actor reason now) }

/-- `_BULK_LIMIT`. -/
def bulkLimit : Nat := 50

/-- The checks on the ids of a bulk operation, which its messages name in three ways. -/
def checkBulkIds (proposalIds : List String) (one many each : String) : CatalogResult Unit := do
  refuse proposalIds.isEmpty
    (governanceError (one ++ " requires at least one proposal id"))
  refuse (decide (bulkLimit < proposalIds.length))
    (governanceError (many ++ " limited to 50 proposals per call"))
  refuse (decide (¬ proposalIds.Nodup))
    (governanceError (each ++ " proposal ids must be unique"))

/-- `_bulk_precheck`. -/
def bulkPrecheck (store : CatalogStore) (proposalIds : List String) (connectionId : String)
    (allowedFrom : List ProposalReviewStatus) : CatalogResult Unit := do
  checkBulkIds proposalIds "a bulk operation" "bulk operations are" "bulk operation"
  checkAll (fun proposalId => do
    let proposal ← requireProposal store proposalId connectionId
    refuse (decide (proposal.reviewStatus ∉ allowedFrom))
      (governanceError ("proposal " ++ quoted proposalId ++ " cannot transition from status " ++
        quoted proposal.reviewStatus.value))) proposalIds

/-- The catalog with every proposal of a list changed. -/
def SchemaCatalog.updateProposals (catalog : SchemaCatalog) (proposalIds : List String)
    (change : CatalogDraftProposal → CatalogDraftProposal) : SchemaCatalog :=
  proposalIds.foldl (fun catalog proposalId => catalog.updateProposal proposalId change) catalog

/-- `bulk_approve_proposals`. -/
def bulkApproveProposals (store : CatalogStore) (proposalIds : List String)
    (connectionId actor : String) (now : Timestamp) : CatalogResult GovernanceDraft := do
  bulkPrecheck store proposalIds connectionId [.pending]
  checkAll (fun proposalId =>
    refuse ((store.catalog.getDraftProposal proposalId).any
        fun proposal => decide (proposal.provenance.status = .stale))
      (staleProposal proposalId "approved")) proposalIds
  checkActor actor
  pure
    { outcome := "bulk_approved"
      proposalIds := proposalIds
      catalog := store.catalog.updateProposals proposalIds (·.approvedBy actor now) }

/-- `bulk_reject_proposals`. -/
def bulkRejectProposals (store : CatalogStore) (proposalIds : List String)
    (connectionId actor reason : String) (now : Timestamp) : CatalogResult GovernanceDraft := do
  checkReason reason
  bulkPrecheck store proposalIds connectionId [.pending, .approved]
  checkActor actor
  checkReasonLength reason
  pure
    { outcome := "bulk_rejected"
      proposalIds := proposalIds
      catalog := store.catalog.updateProposals proposalIds (·.rejectedBy actor reason now) }

/-! ## What a successful operation has checked -/

section Drafts

variable {env : CatalogEnv} {store : CatalogStore} {draft : GovernanceDraft}
  {connectionId proposalId actor reason : String} {proposalIds : List String} {now : Timestamp}

theorem createManualProposal_ok {target : CatalogDraftTarget} {content : CatalogDraftContent}
    (drafted : createManualProposal env store connectionId target content actor now = .ok draft) :
    target.connectionId = connectionId ∧
      draft.catalog =
        { store.catalog with
          draftProposals := store.catalog.draftProposals ++
            [manualProposal store.catalog (env.manualDigest target content.1 now) target content
              actor now]
          generationRecords := draft.catalog.generationRecords } := by
  simp only [createManualProposal, seq_eq_ok_iff, refuse_eq_ok_iff] at drafted
  obtain ⟨sameConnection, _, _, _, _, finished⟩ := drafted
  cases finished
  exact ⟨by simpa using sameConnection, rfl⟩

theorem editProposal_ok {content : CatalogDraftContent}
    (drafted : editProposal store proposalId connectionId actor content now = .ok draft) :
    ∃ proposal, store.catalog.getDraftProposal proposalId = some proposal ∧
      proposal.reviewStatus = .pending ∧
      draft.catalog = store.catalog.updateProposal proposalId fun proposal =>
        { proposal with content := content }.record ⟨.edited, actor, now, none⟩ := by
  simp only [editProposal, bind_eq_ok_iff, refuse_eq_ok_iff] at drafted
  obtain ⟨proposal, required, _, pending, _, _, _, _, finished⟩ := drafted
  cases finished
  exact ⟨proposal, (requireProposal_eq_ok_iff.mp required).1, by simpa using pending, rfl⟩

theorem approveProposal_ok
    (drafted : approveProposal store proposalId connectionId actor now = .ok draft) :
    ∃ proposal, store.catalog.getDraftProposal proposalId = some proposal ∧
      proposal.reviewStatus = .pending ∧
      draft.catalog = store.catalog.updateProposal proposalId (·.approvedBy actor now) := by
  simp only [approveProposal, bind_eq_ok_iff, refuse_eq_ok_iff] at drafted
  obtain ⟨proposal, required, _, pending, _, _, _, _, finished⟩ := drafted
  cases finished
  exact ⟨proposal, (requireProposal_eq_ok_iff.mp required).1, by simpa using pending, rfl⟩

theorem rejectProposal_ok
    (drafted : rejectProposal store proposalId connectionId actor reason now = .ok draft) :
    draft.catalog = store.catalog.updateProposal proposalId (·.rejectedBy actor reason now) := by
  simp only [rejectProposal, bind_eq_ok_iff, refuse_eq_ok_iff] at drafted
  obtain ⟨_, _, proposal, _, _, _, _, _, _, _, finished⟩ := drafted
  cases finished
  rfl

theorem bulkApproveProposals_ok
    (drafted : bulkApproveProposals store proposalIds connectionId actor now = .ok draft) :
    (∀ proposalId ∈ proposalIds, ∃ proposal,
        store.catalog.getDraftProposal proposalId = some proposal ∧
          proposal.reviewStatus = .pending) ∧
      draft.catalog = store.catalog.updateProposals proposalIds (·.approvedBy actor now) := by
  simp only [bulkApproveProposals, bulkPrecheck, checkAll_eq_ok_iff, bind_eq_ok_iff,
    refuse_eq_ok_iff] at drafted
  obtain ⟨_, ⟨_, _, each⟩, _, _, _, _, finished⟩ := drafted
  cases finished
  refine ⟨fun proposalId member => ?_, rfl⟩
  obtain ⟨proposal, required, allowed⟩ := each proposalId member
  exact ⟨proposal, (requireProposal_eq_ok_iff.mp required).1, by simpa using allowed⟩

theorem bulkRejectProposals_ok
    (drafted : bulkRejectProposals store proposalIds connectionId actor reason now = .ok draft) :
    draft.catalog =
      store.catalog.updateProposals proposalIds (·.rejectedBy actor reason now) := by
  simp only [bulkRejectProposals, seq_eq_ok_iff] at drafted
  obtain ⟨_, _, _, _, finished⟩ := drafted
  cases finished
  rfl

end Drafts

end QueryGate.Catalog
