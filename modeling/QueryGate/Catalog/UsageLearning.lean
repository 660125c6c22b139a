import QueryGate.Catalog.SchemaMemory
import QueryGate.Catalog.UsageSignals
import QueryGate.Foundation.KeyedSort

/-! # Learning from usage

`generate_learned_relationship_proposals` of `catalog/learning.py`: signals that enough callers
share become quarantined proposals. It reads the usage signals and leaves them as they are.
-/

namespace QueryGate.Catalog

open Foundation

/-! ## Thresholds -/

/-- `MIN_DISTINCT_PRINCIPALS`. -/
def minDistinctPrincipals : Nat := 3

/-- `FULL_CONFIDENCE_SUPPORT`. -/
def fullConfidenceSupport : Nat := 8

/-- `min(1.0, support / FULL_CONFIDENCE_SUPPORT) >= MIN_CONFIDENCE`. An eighth part is on the same
side of 0.6 as a fraction and as a float. -/
def confident (support : Nat) : Bool :=
  6 * fullConfidenceSupport ≤ 10 * min fullConfidenceSupport support

/-- `SIGNAL_TTL`, thirty days. -/
def signalTtl : Timestamp := 30 * 24 * 3600 * 1000000

/-- `CONFLICT_MARGIN`. -/
def conflictMargin : Nat := 2

/-! ## Evidence -/

/-- `_RelationshipKey`. -/
structure RelationshipKey where
  table : String
  column : String
  toTable : String
  toColumn : String
  deriving DecidableEq, Repr

/-- `_relationship_key`. -/
def relationshipKey (target : CatalogDraftTarget) : RelationshipKey :=
  match target.object with
  | .table => ⟨casefold target.table, "", "", ""⟩
  | .column name => ⟨casefold target.table, casefold name, "", ""⟩
  | .relationship identity =>
      ⟨casefold target.table, casefold identity.column, casefold identity.toTable,
        casefold identity.toColumn⟩

/-- The order of `sorted(eligible)`. -/
def RelationshipKey.texts (key : RelationshipKey) : List (List Char) :=
  [key.table.toList, key.column.toList, key.toTable.toList, key.toColumn.toList]

section Grouping

variable {α κ : Type} [DecidableEq κ]

/-- `groups[key(item)].append(item)` for each item. -/
def groupUnder (key : α → κ) (items : List α) : List (κ × List α) :=
  items.foldl
    (fun groups item => dictSet groups (key item) ((dictGet groups (key item)).getD [] ++ [item])) []

end Grouping

/-- One relationship with its support. -/
structure QualifyingRelationship where
  key : RelationshipKey
  target : CatalogDraftTarget
  support : Nat
  deriving DecidableEq, Repr

/-- The signals that still count, under their relationships. -/
def groupedSignals (snapshot : ObservedSchemaSnapshot) (signals : List CatalogUsageSignal)
    (now : Timestamp) : List (RelationshipKey × List CatalogUsageSignal) :=
  groupUnder (fun signal => relationshipKey signal.target)
    (signals.filter fun signal =>
      signal.kind = .relationshipUsed ∧ signal.schemaFingerprint = snapshot.fingerprint ∧
        now - signalTtl ≤ signal.observedAt)

/-- `supports[key]`. -/
def supportOf (grouped : List (RelationshipKey × List CatalogUsageSignal))
    (key : RelationshipKey) : Nat :=
  (((dictGet grouped key).getD []).map CatalogUsageSignal.principalPartition).dedup.length

/-- The relationship picked of those that compete for one source column. -/
def leader (supports : RelationshipKey → Nat) (keys : List RelationshipKey) :
    Option RelationshipKey :=
  match keys.insertionSort fun first second => supports second ≤ supports first with
  | [] => none
  | [only] => some only
  | first :: second :: _ =>
      if conflictMargin ≤ supports first - supports second then some first else none

/-- `qualifying`. -/
def qualifyingEvidence (snapshot : ObservedSchemaSnapshot) (signals : List CatalogUsageSignal)
    (now : Timestamp) : List QualifyingRelationship :=
  let grouped := groupedSignals snapshot signals now
  let supports := supportOf grouped
  let bySourceColumn := groupUnder (fun key : RelationshipKey => (key.table, key.column))
    (dictKeys grouped)
  let eligible := bySourceColumn.filterMap fun entry => leader supports entry.2
  (sortOn RelationshipKey.texts eligible).filterMap fun key =>
    if supports key < minDistinctPrincipals ∨ confident (supports key) = false then none
    else
      ((dictGet grouped key).bind List.head?).map fun signal =>
        { key := key, target := signal.target, support := supports key }

/-! ## Proposals -/

/-- `evidence_snapshot`, one relationship of it. -/
def QualifyingRelationship.dump (found : QualifyingRelationship) : Json Empty :=
  .dict [("table", .str found.key.table), ("column", .str found.key.column),
    ("to_table", .str found.key.toTable), ("to_column", .str found.key.toColumn),
    ("support", .int found.support)]

/-- The digits `[7:39]` of a fingerprint. -/
def fingerprintDigits (fingerprint : String) : String :=
  String.ofList ((fingerprint.toList.drop 7).take 32)

inductive GenerationOutcome where
  | noEvidence | idempotent | generated
  deriving DecidableEq, Repr

/-- `CatalogGenerationUpdate`. -/
structure CatalogGenerationUpdate {α : Type} (read : α → CatalogUsageSignal) where
  store : UsageStore read
  outcome : GenerationOutcome
  generationId : String
  addedProposalIds : List String := []

section Learning

variable (runtime : SchemaRuntime)

/-- `generation_id`. -/
def learnedGenerationId (connectionId schemaFingerprint : String)
    (qualifying : List QualifyingRelationship) : String :=
  "usage-learner:" ++ fingerprintDigits (payloadFingerprint runtime
    (.dict [("connection_id", .str connectionId), ("schema_fingerprint", .str schemaFingerprint),
      ("relationships", .list (qualifying.map QualifyingRelationship.dump))]))

/-- `proposal_id`. -/
def learnedProposalId (generationId : String) (key : RelationshipKey) : String :=
  "urn:querygate:catalog:draft:" ++ fingerprintDigits (payloadFingerprint runtime
    (.dict [("generation_id", .str generationId),
      ("relationship", .list [.str key.table, .str key.column, .str key.toTable,
        .str key.toColumn])]))

/-- `_existing_relationship_provenance`. -/
def existingRelationshipProvenance (catalog : SchemaCatalog) (connectionId : String)
    (target : CatalogDraftTarget) : Option CatalogEntryProvenance :=
  (catalog.getTable connectionId target.table).bind fun table =>
    (table.relationships.find? fun hint =>
      relationshipKey { connectionId := connectionId, table := target.table,
                        object := .relationship hint.1 } = relationshipKey target).map
      fun hint => hint.2.provenance

/-- `_has_open_proposal`. -/
def hasOpenProposal (catalog : SchemaCatalog) (connectionId : String)
    (target : CatalogDraftTarget) : Bool :=
  (catalog.iterDraftProposals connectionId).any fun proposal =>
    proposal.target.object.isRelationship &&
      relationshipKey proposal.target = relationshipKey target &&
      (proposal.reviewStatus = .pending || proposal.reviewStatus = .approved)

/-- What there is to propose of the evidence. -/
def selectedEvidence (catalog : SchemaCatalog) (connectionId : String)
    (qualifying : List QualifyingRelationship) : List QualifyingRelationship :=
  qualifying.filter fun found =>
    !((existingRelationshipProvenance catalog connectionId found.target).any fun provenance =>
        provenance.status = .verified) &&
      !hasOpenProposal catalog connectionId found.target

/-- The proposal of one relationship. -/
def learnedProposal (catalog : SchemaCatalog) (generationId schemaFingerprint : String)
    (now : Timestamp) (found : QualifyingRelationship) : CatalogResult CatalogDraftProposal := do
  let proposalId := learnedProposalId runtime generationId found.key
  let content ← draftContent
    { description := some ("Frequently used join observed across " ++ toString found.support ++
        " independent callers.") }
  pure
    { proposalId := proposalId
      generationId := generationId
      target := found.target
      content := content
      provenance :=
        { entryId := proposalId
          catalogVersion := catalog.version
          sourceClass := .learned
          status := .draft
          schemaFingerprint := schemaFingerprint
          createdAt := some now } }

variable {α : Type} {read : α → CatalogUsageSignal}

/-- `generate_learned_relationship_proposals`. -/
def generateLearnedRelationshipProposals (store : UsageStore read) (connectionId : String)
    (now : Timestamp) : CatalogResult (CatalogGenerationUpdate read) :=
  let catalog := store.catalog.governed
  match catalog.getSchemaSnapshot connectionId with
  | none =>
      .error (validationError "usage-based learning requires a persisted schema snapshot")
  | some snapshot =>
      let qualifying := qualifyingEvidence snapshot (store.iterUsageSignals connectionId) now
      let generationId := learnedGenerationId runtime connectionId snapshot.fingerprint qualifying
      if qualifying.isEmpty then
        .ok { store := store, outcome := .noEvidence, generationId := "" }
      else if (catalog.generationRecord? generationId).isSome then
        .ok { store := store, outcome := .idempotent, generationId := generationId }
      else
        let selected := selectedEvidence catalog connectionId qualifying
        if selected.isEmpty then
          .ok { store := store, outcome := .noEvidence, generationId := "" }
        else do
          let proposals ← mapAll
            (learnedProposal runtime catalog generationId snapshot.fingerprint now) selected
          let proposalIds := proposals.map CatalogDraftProposal.proposalId
          let replaced ← UsageStore.replace read
            { store.catalog with
              governed :=
                { catalog with
                  draftProposals := catalog.draftProposals ++ proposals
                  generationRecords := catalog.generationRecords ++
                    [{ generationId := generationId
                       connectionId := connectionId
                       schemaFingerprint := snapshot.fingerprint
                       proposalIds := proposalIds
                       createdAt := some now }] } }
          pure
            { store := replaced, outcome := .generated, generationId := generationId,
              addedProposalIds := proposalIds }

variable {runtime} {store : UsageStore read} {connectionId : String} {now : Timestamp}
  {update : CatalogGenerationUpdate read}

/-- What a run of the learner does to the file: nothing, or it adds proposals and their record. -/
theorem generateLearned_cases
    (done : generateLearnedRelationshipProposals runtime store connectionId now = .ok update) :
    update.store = store ∨
      ∃ snapshot proposals record,
        store.catalog.governed.getSchemaSnapshot connectionId = some snapshot ∧
        qualifyingEvidence snapshot (store.iterUsageSignals connectionId) now ≠ [] ∧
        record.generationId = learnedGenerationId runtime connectionId snapshot.fingerprint
          (qualifyingEvidence snapshot (store.iterUsageSignals connectionId) now) ∧
        update.store.catalog =
          { store.catalog with
            governed :=
              { store.catalog.governed with
                draftProposals := store.catalog.governed.draftProposals ++ proposals
                generationRecords := store.catalog.governed.generationRecords ++ [record] } } := by
  unfold generateLearnedRelationshipProposals at done
  dsimp only at done
  split at done
  next => cases done
  next snapshot held =>
    split at done
    next =>
      cases done
      exact .inl rfl
    next some =>
      split at done
      next =>
        cases done
        exact .inl rfl
      next =>
        split at done
        next =>
          cases done
          exact .inl rfl
        next =>
          obtain ⟨proposals, _, done⟩ := (bind_eq_ok_iff ..).mp done
          obtain ⟨replaced, accepted, finished⟩ := (bind_eq_ok_iff ..).mp done
          have written := (UsageStore.replace_eq_ok_iff read).mp accepted
          cases finished
          refine .inr ⟨snapshot, proposals, _, held, ?_, ?_, written⟩
          · exact fun none => some (List.isEmpty_iff.mpr none)
          · rfl

/-- The learner leaves the signals as they are. -/
theorem usageSignals_generateLearned
    (done : generateLearnedRelationshipProposals runtime store connectionId now = .ok update) :
    update.store.catalog.usageSignals = store.catalog.usageSignals := by
  rcases generateLearned_cases done with same | ⟨_, _, _, _, _, _, written⟩
  · rw [same]
  · rw [written]

theorem version_generateLearned
    (done : generateLearnedRelationshipProposals runtime store connectionId now = .ok update) :
    update.store.catalog.governed.version = store.catalog.governed.version := by
  rcases generateLearned_cases done with same | ⟨_, _, _, _, _, _, written⟩
  · rw [same]
  · rw [written]

/-- A second run on the same evidence adds nothing. -/
theorem generateLearned_again
    (done : generateLearnedRelationshipProposals runtime store connectionId now = .ok update) :
    ∃ again, generateLearnedRelationshipProposals runtime update.store connectionId now =
      .ok again ∧ again.store = update.store := by
  rcases generateLearned_cases done with same |
    ⟨snapshot, proposals, record, held, some, named, written⟩
  · exact ⟨update, by rw [same]; exact done, rfl⟩
  · have heldStill : update.store.catalog.governed.getSchemaSnapshot connectionId =
        Option.some snapshot := by
      rw [written]
      exact held
    have signals : update.store.iterUsageSignals connectionId =
        store.iterUsageSignals connectionId := by
      rw [UsageStore.iterUsageSignals, written]
      rfl
    have recorded : (update.store.catalog.governed.generationRecord?
        (learnedGenerationId runtime connectionId snapshot.fingerprint
          (qualifyingEvidence snapshot (store.iterUsageSignals connectionId) now))).isSome := by
      rw [written]
      apply List.find?_isSome.mpr
      refine ⟨record, List.mem_append_right _ (List.mem_singleton_self _), ?_⟩
      exact decide_eq_true named
    unfold generateLearnedRelationshipProposals
    dsimp only
    rw [heldStill]
    dsimp only
    rw [signals, if_neg fun none => some (List.isEmpty_iff.mp none), if_pos recorded]
    exact ⟨_, rfl, rfl⟩

end Learning

end QueryGate.Catalog
