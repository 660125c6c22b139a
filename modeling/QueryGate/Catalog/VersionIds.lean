import QueryGate.Catalog.Transfer
import QueryGate.Foundation.Numbering

/-! # Version ids

A new version takes the number after the length of the history as its id, while deletions and
imports take records out of it. Ids stay free as long as only the newest records go.
-/

namespace QueryGate.Catalog

open Foundation

/-- The id of a version number. -/
def versionLabel (number : Nat) : String :=
  toString number

theorem versionLabel_injective : Function.Injective versionLabel :=
  fun _ _ same => Nat.repr_inj.mp same

/-- The versions a call takes out of the history. -/
def removedVersions (store : CatalogStore) : GovernanceCall → List String
  | .deleteProposal proposalId _ => deletableVersions store proposalId
  | .bulkDelete proposalIds _ => proposalIds.flatMap (deletableVersions store)
  | .deleteVersion versionId _ => [versionId]
  | .importBundle _ connectionId =>
      (store.catalog.versionHistory.filter
        fun record => decide (record.change.target.connectionId = connectionId)).map
          CatalogVersionRecord.versionId
  | _ => []

/-- The number of versions a call adds. -/
def addedVersions : GovernanceCall → Nat
  | .publish .. => 1
  | .rollback .. => 1
  | .importBundle bundle _ => bundle.versionHistory.length
  | _ => 0

/-- The ids a call chooses for the versions it adds. -/
def chosenIds (store : CatalogStore) (call : GovernanceCall) : List String :=
  following versionLabel store.catalog.versionIds.length (addedVersions call)

/-- The bundle is an export, whatever the order in which it lists the generations. -/
def Exported (bundle : CatalogExportBundle) : Prop :=
  ∃ (source : CatalogStore) (connectionId : String) (now : Timestamp)
      (exported : CatalogExportBundle),
    exportConnection source connectionId now = .ok exported ∧
      bundle.generationRecords.Perm exported.generationRecords ∧
      bundle = { exported with generationRecords := bundle.generationRecords }

/-- What is imported is an export. -/
def ImportsExports (_ : CatalogStore) : GovernanceCall → Prop
  | .importBundle bundle _ => Exported bundle
  | _ => True

theorem nodup_of_exported {bundle : CatalogExportBundle} (exported : Exported bundle) :
    (bundle.versionHistory.map CatalogVersionRecord.versionId).Nodup := by
  obtain ⟨source, connectionId, now, origin, done, _, same⟩ := exported
  simp only [exportConnection, seq_eq_ok_iff] at done
  obtain ⟨_, finished⟩ := done
  have listed : bundle.versionHistory = source.catalog.iterVersionHistory connectionId := by
    rw [same, ← Except.ok.inj finished]
  rw [listed]
  have distinct : (source.catalog.versionHistory.reverse.map
      CatalogVersionRecord.versionId).Nodup := by
    rw [List.map_reverse]
    exact List.nodup_reverse.mpr (source.valid.holds .versionIds)
  exact distinct.sublist (List.filter_sublist.map _)

theorem renamed_versionIdMap {existing : Nat} {records : List CatalogVersionRecord}
    (distinct : (records.map CatalogVersionRecord.versionId).Nodup) :
    records.map (fun record => renamed (versionIdMap existing records) record.versionId) =
      following versionLabel existing records.length := by
  apply List.ext_getElem
  · simp [following]
  · intro index inside _
    have bound : index < records.length := by simpa using inside
    have keys : dictKeys (records.zipIdx.map fun record =>
        (record.1.versionId, toString (existing + (record.2 + 1)))) =
        records.map CatalogVersionRecord.versionId := by
      unfold dictKeys
      rw [List.map_map]
      change records.zipIdx.map (CatalogVersionRecord.versionId ∘ Prod.fst) = _
      rw [← List.map_map, List.zipIdx_map_fst]
    have found : dictGet (versionIdMap existing records) records[index].versionId =
        some (toString (existing + (index + 1))) := by
      unfold versionIdMap
      rw [dictGet_dictOf]
      refine dictGet_of_mem_nodup ?_ (List.mem_reverse.mpr (List.mem_map.mpr ?_))
      · unfold dictKeys at keys ⊢
        rw [List.map_reverse, keys]
        exact List.nodup_reverse.mpr distinct
      · exact ⟨(records[index], index), List.mk_mem_zipIdx_iff_getElem?.mpr (by simp [bound]), rfl⟩
    simp only [List.getElem_map, renamed, found, Option.getD_some, following, List.getElem_range]
    rfl

section History

variable (catalog : SchemaCatalog)

theorem versionIds_updateProposals (proposalIds : List String)
    (change : CatalogDraftProposal → CatalogDraftProposal) :
    (catalog.updateProposals proposalIds change).versionIds = catalog.versionIds := by
  unfold SchemaCatalog.updateProposals
  induction proposalIds generalizing catalog with
  | nil => rfl
  | cons proposalId rest ih =>
      rw [List.foldl_cons, ih]
      rfl

theorem versionIds_addVersion (record : CatalogVersionRecord) :
    (catalog.addVersion record).versionIds = catalog.versionIds ++ [record.versionId] := by
  simp [SchemaCatalog.versionIds, SchemaCatalog.addVersion]

theorem versionIds_revertVersion (versionId : String) :
    (catalog.revertVersion versionId).versionIds = catalog.versionIds := by
  unfold SchemaCatalog.versionIds SchemaCatalog.revertVersion
  rw [List.map_map]
  refine List.map_congr_left fun record _ => ?_
  by_cases same : record.versionId = versionId <;> simp [same]

theorem versionIds_noteRollback (proposalId : Option String) (actor : String) (now : Timestamp) :
    (catalog.noteRollback proposalId actor now).versionIds = catalog.versionIds := by
  cases proposalId <;> rfl

theorem versionIds_deleteRecords (proposals versions : List String) :
    (catalog.deleteRecords proposals versions).versionIds =
      catalog.versionIds.filter fun id => decide (id ∉ versions) := by
  simp only [SchemaCatalog.versionIds, SchemaCatalog.deleteRecords]
  rw [List.filter_map]
  rfl

theorem nextVersionId_eq :
    [catalog.nextVersionId] = following versionLabel catalog.versionIds.length 1 := by
  simp [following, SchemaCatalog.versionIds, SchemaCatalog.nextVersionId, versionLabel]

end History

/-- An import leaves the versions of the other connections and renumbers those it brings. -/
theorem versionIds_importedCatalog (store : CatalogStore) {bundle : CatalogExportBundle}
    (connectionId : String) (exported : Exported bundle) :
    (importedCatalog store.catalog bundle connectionId).versionIds =
      (store.catalog.versionIds.filter fun id =>
        decide (id ∉ removedVersions store (.importBundle bundle connectionId))) ++
        chosenIds store (.importBundle bundle connectionId) := by
  have distinct : (store.catalog.versionHistory.map CatalogVersionRecord.versionId).Nodup :=
    store.valid.holds .versionIds
  simp only [SchemaCatalog.versionIds, importedCatalog, List.map_append, List.map_map]
  congr 1
  · rw [List.filter_map]
    congr 1
    refine List.filter_congr fun record member => ?_
    apply decide_eq_decide.mpr
    simp only [removedVersions, List.mem_map, List.mem_filter, decide_eq_true_eq, not_exists,
      not_and, ne_eq]
    constructor
    · rintro other found ⟨listed, meets⟩ same
      exact other (List.inj_on_of_nodup_map distinct listed member same ▸ meets)
    · exact fun free meets => free record ⟨member, meets⟩ rfl
  · have size : store.catalog.versionIds.length = store.catalog.versionHistory.length :=
      List.length_map ..
    rw [chosenIds, size]
    exact renamed_versionIdMap (nodup_of_exported exported)

/-- The ids after a call: those it leaves, and those it has chosen. -/
theorem versionIds_of_draft {env : CatalogEnv} {store : CatalogStore} {call : GovernanceCall}
    {draft : GovernanceDraft} (exports : ImportsExports store call)
    (drafted : call.draft env store = .ok draft) :
    draft.catalog.versionIds =
      (store.catalog.versionIds.filter fun id => decide (id ∉ removedVersions store call)) ++
        chosenIds store call := by
  have unchanged : removedVersions store call = [] → addedVersions call = 0 →
      draft.catalog.versionIds = store.catalog.versionIds →
      draft.catalog.versionIds =
        (store.catalog.versionIds.filter fun id => decide (id ∉ removedVersions store call)) ++
          chosenIds store call := by
    intro kept none_ same
    rw [same, kept, chosenIds, none_]
    simp [following]
  have appended : removedVersions store call = [] → addedVersions call = 1 →
      draft.catalog.versionIds = store.catalog.versionIds ++ [store.catalog.nextVersionId] →
      draft.catalog.versionIds =
        (store.catalog.versionIds.filter fun id => decide (id ∉ removedVersions store call)) ++
          chosenIds store call := by
    intro kept one added
    rw [added, kept, chosenIds, one, nextVersionId_eq]
    simp
  have dropped : ∀ proposals, addedVersions call = 0 →
      draft.catalog = store.catalog.deleteRecords proposals (removedVersions store call) →
      draft.catalog.versionIds =
        (store.catalog.versionIds.filter fun id => decide (id ∉ removedVersions store call)) ++
          chosenIds store call := by
    intro proposals none_ deleted
    rw [deleted, versionIds_deleteRecords, chosenIds, none_]
    simp [following]
  cases call with
  | createManual connectionId target content actor now =>
      apply unchanged rfl rfl
      rw [(createManualProposal_ok drafted).2]
      rfl
  | edit proposalId connectionId actor content now =>
      obtain ⟨_, _, _, written⟩ := editProposal_ok drafted
      apply unchanged rfl rfl
      rw [written]
      rfl
  | approve proposalId connectionId actor now =>
      obtain ⟨_, _, _, written⟩ := approveProposal_ok drafted
      apply unchanged rfl rfl
      rw [written]
      rfl
  | reject proposalId connectionId actor reason now =>
      apply unchanged rfl rfl
      rw [rejectProposal_ok drafted]
      rfl
  | bulkApprove proposalIds connectionId actor now =>
      apply unchanged rfl rfl
      rw [(bulkApproveProposals_ok drafted).2, versionIds_updateProposals]
  | bulkReject proposalIds connectionId actor reason now =>
      apply unchanged rfl rfl
      rw [bulkRejectProposals_ok drafted, versionIds_updateProposals]
  | publish proposalId connectionId actor now =>
      obtain ⟨proposal, before, _, _, _, _, _, _, written⟩ := publishProposal_ok drafted
      apply appended rfl rfl
      rw [written]
      exact versionIds_addVersion _ _
  | rollback versionId connectionId actor now =>
      obtain ⟨record, table, undone, _, _, undid, _, written⟩ := rollbackVersion_ok drafted
      apply appended rfl rfl
      rw [written, rolledBackCatalog, versionIds_noteRollback, versionIds_revertVersion,
        versionIds_addVersion, undoChange_ok undid]
      rfl
  | deleteProposal proposalId connectionId =>
      exact dropped [proposalId] rfl (deleteProposal_ok drafted)
  | bulkDelete proposalIds connectionId =>
      exact dropped proposalIds rfl (bulkDeleteProposals_ok drafted)
  | deleteVersion versionId connectionId =>
      exact dropped [] rfl (deleteVersionRecord_ok drafted).2
  | importBundle bundle connectionId =>
      obtain ⟨_, written⟩ := importConnection_ok drafted
      rw [written]
      exact versionIds_importedCatalog store connectionId exports

/-! ## Free ids -/

/-- The checks of a call pass, and its draft breaks no rule but perhaps the one on version
ids. -/
structure OwnPreconditions (env : CatalogEnv) (store : CatalogStore) (call : GovernanceCall)
    (draft : GovernanceDraft) : Prop where
  drafted : call.draft env store = .ok draft
  rules : ∀ rule : CatalogRule, rule ≠ .versionIds → rule.Holds draft.catalog

/-- A call whose own preconditions hold succeeds when every id it chooses is free. -/
theorem succeeds_iff_free {env : CatalogEnv} {store : CatalogStore} {call : GovernanceCall}
    {draft : GovernanceDraft} (exports : ImportsExports store call)
    (own : OwnPreconditions env store call draft) :
    (∃ update, call.run env store = .ok update) ↔
      ∀ id ∈ chosenIds store call, id ∈ store.catalog.versionIds →
        id ∈ removedVersions store call := by
  have written := versionIds_of_draft exports own.drafted
  have distinct : store.catalog.versionIds.Nodup := store.valid.holds .versionIds
  have chosen := nodup_following versionLabel_injective store.catalog.versionIds.length
    (addedVersions call)
  have free : CatalogRule.versionIds.Holds draft.catalog ↔
      ∀ id ∈ chosenIds store call, id ∈ store.catalog.versionIds →
        id ∈ removedVersions store call := by
    change draft.catalog.versionIds.Nodup ↔ _
    rw [written, List.nodup_append']
    constructor
    · rintro ⟨_, _, apart⟩ id next listed
      by_contra kept
      exact apart (List.mem_filter.mpr ⟨listed, by simpa using kept⟩) next
    · intro each
      refine ⟨distinct.filter _, chosen, fun id member next => ?_⟩
      obtain ⟨listed, kept⟩ := List.mem_filter.mp member
      exact (of_decide_eq_true kept) (each id next listed)
  rw [← free]
  constructor
  · rintro ⟨update, ran⟩
    obtain ⟨other, drafted, same, _⟩ := GovernanceCall.run_eq_ok_iff.mp ran
    rw [own.drafted] at drafted
    cases drafted
    exact same ▸ update.store.valid.holds .versionIds
  · intro ids
    have valid : draft.catalog.Valid := fun rule _ => by
      by_cases same : rule = .versionIds
      · exact same ▸ ids
      · exact own.rules rule same
    exact ⟨{ draft with store := ⟨draft.catalog, valid⟩ },
      GovernanceCall.run_eq_ok_iff.mpr ⟨draft, own.drafted, rfl, rfl⟩⟩

/-- A call that takes versions out of the history takes the newest, and puts none in their
place. -/
structure RemovesNewest (store : CatalogStore) (call : GovernanceCall) : Prop where
  newest : ∀ removed kept, versionLabel removed ∈ removedVersions store call →
    versionLabel kept ∈ store.catalog.versionIds →
      versionLabel kept ∉ removedVersions store call → kept < removed
  adds : removedVersions store call ≠ [] → addedVersions call = 0

theorem removesNewest_of_none {store : CatalogStore} {call : GovernanceCall}
    (none_ : removedVersions store call = []) : RemovesNewest store call where
  newest removed kept listed _ _ := by
    rw [none_] at listed
    exact absurd listed List.not_mem_nil
  adds some_ := absurd none_ some_

/-- The history stays numbered without gaps. -/
theorem compact_of_draft {env : CatalogEnv} {store : CatalogStore} {call : GovernanceCall}
    {draft : GovernanceDraft} (exports : ImportsExports store call)
    (drafted : call.draft env store = .ok draft) (removes : RemovesNewest store call)
    (compact : Compact versionLabel store.catalog.versionIds) :
    Compact versionLabel draft.catalog.versionIds := by
  rw [versionIds_of_draft exports drafted]
  by_cases kept : removedVersions store call = []
  · simp only [kept, List.not_mem_nil, not_false_eq_true, decide_true, List.filter_true]
    exact compact.append_following versionLabel_injective _
  · have empty : chosenIds store call = [] := by
      rw [chosenIds, removes.adds kept]
      rfl
    rw [empty, List.append_nil]
    refine compact.filter versionLabel_injective fun removed kept listed stays out inside => ?_
    exact removes.newest removed kept (by simpa using out) stays (by simpa using inside)

/-- In every run from the empty catalog the version ids are distinct; and where no call of the
run took a version out of the history before a newer one, a call whose own preconditions hold
succeeds. -/
theorem versionIds_free_of_run (env : CatalogEnv) :
    (∀ store, Reached env (· = CatalogStore.empty) ImportsExports store →
      store.catalog.versionIds.Nodup) ∧
    (∀ store, Reached env (· = CatalogStore.empty)
        (fun store call => ImportsExports store call ∧ RemovesNewest store call) store →
      ∀ call draft, ImportsExports store call → OwnPreconditions env store call draft →
        ∃ update, call.run env store = .ok update) ∧
    (∀ store call draft, ImportsExports store call → OwnPreconditions env store call draft →
      ((∃ update, call.run env store = .ok update) ↔
        ∀ id ∈ chosenIds store call, id ∈ store.catalog.versionIds →
          id ∈ removedVersions store call)) := by
  refine ⟨fun store _ => store.valid.holds .versionIds,
    fun store reached call draft exports own => ?_,
    fun store call draft exports own => succeeds_iff_free exports own⟩
  have compact : Compact versionLabel store.catalog.versionIds := by
    refine @Reached.invariant _ _ _ (fun catalog => Compact versionLabel catalog.versionIds)
      ?_ (fun store call draft held permitted drafted _ => ?_) store reached
    · rintro _ rfl
      exact compact_nil
    · exact compact_of_draft permitted.1 drafted permitted.2 held
  apply (succeeds_iff_free exports own).mpr
  exact fun id next listed => absurd next (compact.not_mem_following versionLabel_injective listed)

/-! ## Two runs -/

/-- The digests the runs below ask for. -/
def shopEnv : CatalogEnv where
  digest text := (dictGet
    [("shop\x1ftable\x1forders",
        "f7c8f40f5de7d1c43405fc760088276178e1762305160718e25f58763d2f05b7"),
      ("shop\x1ftable\x1fitems",
        "295f3c00995becccc9a6841c1f67b6177710ecdb2d9b052b06b2fd4e10730a98"),
      ("shop\x1ftable\x1fusers",
        "d3563fd69a370923510d4ff90a34f04ab498182fad50e461bd308c886b00b1d2")] text).getD ""
  manualDigest target _ _ := (dictGet
    [("orders", "46e7c69614aebc1e79678f5c9b37af854874f725aafa8e39271a1f408fd5cd94"),
      ("items", "67c70cb7e430d31c8eb346021ef4c5f7f92aac8a2f30cd725372da4595bf28a1"),
      ("users", "2afda8f3a471fca2edc3a8c6dba766f6b31a6a3e9aa4f86e9b3ad8f1f60a5f06")]
    target.table).getD ""
  isAlnum := Char.isAlphanum

def shopTable (table : String) : CatalogDraftTarget :=
  ⟨"shop", table, .table⟩

def shopContent : CatalogDraftContent :=
  ⟨{ description := some "Kept by the shop" }, by decide⟩

/-- The first of January 2026. -/
def shopOpens : Timestamp :=
  1767225600000000

/-- The id of the proposal about a table. -/
def shopProposal (table : String) : String :=
  manualProposalId (shopEnv.manualDigest (shopTable table) shopContent.1 shopOpens)

/-- A proposal about a table is written and approved. -/
def approves (table : String) : List GovernanceCall :=
  [.createManual "shop" (shopTable table) shopContent "ana" shopOpens,
    .approve (shopProposal table) "shop" "bob" shopOpens]

/-- The proposal about a table is published. -/
def publishes (table : String) : GovernanceCall :=
  .publish (shopProposal table) "shop" "bob" shopOpens

/-- The store after one publication, with a second one approved. -/
def approvedStore : CatalogStore :=
  (approves "orders" ++ [publishes "orders"] ++ approves "items").foldl
    (fun store call => store.after shopEnv call) CatalogStore.empty

/-- The second publication takes a free id. -/
theorem versionIds_free_approvedStore :
    ∃ update, (publishes "items").run shopEnv approvedStore = .ok update := by
  have accepted : accepts ((publishes "items").run shopEnv approvedStore) = true := by
    decide +kernel
  obtain ⟨update, ran⟩ := accepts_iff.mp accepted
  obtain ⟨draft, drafted, same, _⟩ := GovernanceCall.run_eq_ok_iff.mp ran
  have start : Reached shopEnv (· = CatalogStore.empty)
      (fun store call => ImportsExports store call ∧ RemovesNewest store call)
        CatalogStore.empty := .start rfl
  have each : ∀ call ∈ approves "orders" ++ [publishes "orders"] ++ approves "items",
      ∀ store, ImportsExports store call ∧ RemovesNewest store call := by
    intro call member store
    simp only [approves, List.mem_append, List.mem_cons, List.not_mem_nil, or_false] at member
    rcases member with ((rfl | rfl) | rfl) | (rfl | rfl) <;>
      exact ⟨trivial, removesNewest_of_none rfl⟩
  have reached := start.foldl_after each
  exact (versionIds_free_of_run shopEnv).2.1 approvedStore reached (publishes "items") draft
    trivial ⟨drafted, fun rule _ => same ▸ update.store.valid.holds rule⟩

/-- Two publications of which the first is rolled back and deleted, and a third proposal that
is approved. -/
def prunedCalls : List GovernanceCall :=
  approves "orders" ++ [publishes "orders"] ++ approves "items" ++
    [publishes "items", .rollback "1" "shop" "bob" shopOpens,
      .deleteProposal (shopProposal "orders") "shop"] ++ approves "users"

def prunedStore : CatalogStore :=
  prunedCalls.foldl (fun store call => store.after shopEnv call) CatalogStore.empty

/-- The history of one version, the second, blocks the next publication. -/
theorem not_versionIds_free_prunedStore :
    Reached shopEnv (· = CatalogStore.empty) ImportsExports prunedStore ∧
      ∃ draft, OwnPreconditions shopEnv prunedStore (publishes "users") draft ∧
        (publishes "users").run shopEnv prunedStore =
          .error (validationError "catalog version history ids must be unique") := by
  have start : Reached shopEnv (· = CatalogStore.empty) ImportsExports CatalogStore.empty :=
    .start rfl
  refine ⟨start.foldl_after fun call member _ => ?_, ?_⟩
  · simp only [prunedCalls, approves, List.mem_append, List.mem_cons, List.not_mem_nil,
      or_false] at member
    rcases member with (((( rfl | rfl) | rfl) | (rfl | rfl)) | (rfl | rfl | rfl)) | (rfl | rfl) <;>
      exact trivial
  · have refused : refusal? ((publishes "users").run shopEnv prunedStore) =
        some (validationError "catalog version history ids must be unique") := by
      decide +kernel
    have others : ∀ draft ∈ ((publishes "users").draft shopEnv prunedStore).toOption,
        ∀ rule ∈ CatalogRule.all, rule ≠ .versionIds → rule.Holds draft.catalog := by
      decide +kernel
    have accepted : accepts ((publishes "users").draft shopEnv prunedStore) = true := by
      decide +kernel
    obtain ⟨draft, drafted⟩ := accepts_iff.mp accepted
    exact ⟨draft, ⟨drafted, fun rule => others draft (by rw [drafted]; rfl) rule rule.mem_all⟩,
      refusal?_eq_some_iff.mp refused⟩

end QueryGate.Catalog
