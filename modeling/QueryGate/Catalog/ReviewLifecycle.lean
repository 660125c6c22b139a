import QueryGate.Catalog.VersionIds

/-! # The review of a proposal

How the calls of governance move a proposal through its review: its content changes only while it
is pending, and nothing is approved or published but what an approval named, with the content it
had then (`approved_of_run`). Imports, which bring in proposals that were reviewed elsewhere, are
left out.
-/

namespace QueryGate.Catalog

open Foundation

/-! ## One step -/

/-- The moves of a review. -/
inductive ProposalReviewStatus.Next : ProposalReviewStatus → ProposalReviewStatus → Prop
  | approve : Next .pending .approved
  | rejectPending : Next .pending .rejected
  | rejectApproved : Next .approved .rejected
  | publish : Next .approved .published

/-- The review has let the proposal pass. -/
def ProposalReviewStatus.Passed (status : ProposalReviewStatus) : Prop :=
  status = .approved ∨ status = .published

/-- The call approves a proposal, with this event. -/
inductive Approves : GovernanceCall → String → ProposalReviewEvent → Prop
  | one (proposalId connectionId actor : String) (now : Timestamp) :
      Approves (.approve proposalId connectionId actor now) proposalId
        ⟨.approved, actor, now, none⟩
  | many (connectionId actor : String) (now : Timestamp) {proposalIds : List String}
      {proposalId : String} (listed : proposalId ∈ proposalIds) :
      Approves (.bulkApprove proposalIds connectionId actor now) proposalId
        ⟨.approved, actor, now, none⟩

/-- The call brings in a bundle. -/
def GovernanceCall.imports : GovernanceCall → Bool
  | .importBundle _ _ => true
  | _ => false

/-- A later state of the same proposal: its history has only grown. -/
structure LaterProposal (earlier later : CatalogDraftProposal) : Prop where
  proposalId : later.proposalId = earlier.proposalId
  target : later.target = earlier.target
  provenance : later.provenance = earlier.provenance
  history : earlier.reviewHistory <+: later.reviewHistory

theorem LaterProposal.refl (proposal : CatalogDraftProposal) : LaterProposal proposal proposal :=
  ⟨rfl, rfl, rfl, List.prefix_refl _⟩

theorem LaterProposal.trans {first second third : CatalogDraftProposal}
    (one : LaterProposal first second) (two : LaterProposal second third) :
    LaterProposal first third where
  proposalId := two.proposalId.trans one.proposalId
  target := two.target.trans one.target
  provenance := two.provenance.trans one.provenance
  history := one.history.trans two.history

/-- What a call may do to a proposal. -/
structure ReviewStep (call : GovernanceCall) (earlier later : CatalogDraftProposal) : Prop
    extends LaterProposal earlier later where
  status : later.reviewStatus = earlier.reviewStatus ∨
    ProposalReviewStatus.Next earlier.reviewStatus later.reviewStatus
  approved : earlier.reviewStatus = .pending → later.reviewStatus = .approved →
    ∃ event ∈ later.reviewHistory, Approves call earlier.proposalId event
  content : later.content = earlier.content ∨
    earlier.reviewStatus = .pending ∧ later.reviewStatus = .pending

theorem ReviewStep.refl (call : GovernanceCall) (proposal : CatalogDraftProposal) :
    ReviewStep call proposal proposal where
  toLaterProposal := .refl proposal
  status := .inl rfl
  approved pending approved := by
    rw [pending] at approved
    cases approved
  content := .inl rfl

/-- A call that leaves the status and the content. -/
theorem LaterProposal.noted {earlier later : CatalogDraftProposal}
    (same : LaterProposal earlier later) (status : later.reviewStatus = earlier.reviewStatus)
    (content : later.content = earlier.content) (call : GovernanceCall) :
    ReviewStep call earlier later where
  toLaterProposal := same
  status := .inl status
  approved pending approved := by
    rw [← status, approved] at pending
    cases pending
  content := .inl content

/-- A call that moves the status otherwise than by an approval. -/
theorem LaterProposal.moved {earlier later : CatalogDraftProposal}
    (same : LaterProposal earlier later)
    (next : ProposalReviewStatus.Next earlier.reviewStatus later.reviewStatus)
    (other : later.reviewStatus ≠ .approved) (content : later.content = earlier.content)
    (call : GovernanceCall) : ReviewStep call earlier later where
  toLaterProposal := same
  status := .inr next
  approved _ approved := absurd approved other
  content := .inl content

/-! ## Changed proposals -/

section Changes

variable {catalog : SchemaCatalog} {change : CatalogDraftProposal → CatalogDraftProposal}

theorem mem_updateProposal {proposalId : String} {later : CatalogDraftProposal}
    (member : later ∈ (catalog.updateProposal proposalId change).draftProposals) :
    ∃ earlier ∈ catalog.draftProposals,
      later = earlier ∨ earlier.proposalId = proposalId ∧ later = change earlier := by
  obtain ⟨earlier, here, changed⟩ := List.mem_map.mp member
  refine ⟨earlier, here, ?_⟩
  split at changed
  · rename_i named
    exact .inr ⟨named, changed.symm⟩
  · exact .inl changed.symm

/-- A proposal of a bulk change is as it was, or has been changed, once or more. -/
theorem mem_updateProposals {proposalIds : List String} {later : CatalogDraftProposal}
    (member : later ∈ (catalog.updateProposals proposalIds change).draftProposals) :
    ∃ earlier ∈ catalog.draftProposals, later = earlier ∨
      earlier.proposalId ∈ proposalIds ∧ ∃ times, later = change^[times + 1] earlier := by
  induction proposalIds generalizing catalog with
  | nil => exact ⟨later, member, .inl rfl⟩
  | cons first rest ih =>
      obtain ⟨middle, here, changed⟩ := ih member
      obtain ⟨earlier, there, before⟩ := mem_updateProposal here
      refine ⟨earlier, there, ?_⟩
      rcases before with rfl | ⟨named, rfl⟩
      · rcases changed with rfl | ⟨listed, times, rfl⟩
        · exact .inl rfl
        · exact .inr ⟨List.mem_cons_of_mem _ listed, times, rfl⟩
      · rcases changed with rfl | ⟨-, times, rfl⟩
        · exact .inr ⟨named ▸ List.mem_cons_self .., 0, rfl⟩
        · exact .inr ⟨named ▸ List.mem_cons_self .., times + 1, rfl⟩

/-- What a change keeps, its repetition keeps. -/
theorem iterate_keeps {β : Type} {read : CatalogDraftProposal → β}
    (keeps : ∀ proposal, read (change proposal) = read proposal) (times : Nat)
    (proposal : CatalogDraftProposal) : read (change^[times] proposal) = read proposal := by
  induction times generalizing proposal with
  | zero => rfl
  | succ times ih => exact (ih (change proposal)).trans (keeps proposal)

theorem iterate_later (later : ∀ proposal, LaterProposal proposal (change proposal)) (times : Nat)
    (proposal : CatalogDraftProposal) : LaterProposal proposal (change^[times] proposal) := by
  induction times generalizing proposal with
  | zero => exact .refl proposal
  | succ times ih => exact (later proposal).trans (ih (change proposal))

/-- What a change sets, its repetition sets. -/
theorem iterate_sets {property : CatalogDraftProposal → Prop}
    (sets : ∀ proposal, property (change proposal)) (times : Nat)
    (proposal : CatalogDraftProposal) : property (change^[times + 1] proposal) := by
  rw [Function.iterate_succ_apply']
  exact sets _

/-- The proposal of an id is the one that is found. -/
theorem eq_of_getDraftProposal {store : CatalogStore} {proposalId : String}
    {found proposal : CatalogDraftProposal}
    (get : store.catalog.getDraftProposal proposalId = some found)
    (member : proposal ∈ store.catalog.draftProposals) (named : proposal.proposalId = proposalId) :
    proposal = found := by
  have distinct : store.catalog.proposalIds.Nodup := store.valid.holds .proposalIds
  have own : found.proposalId = proposalId := by simpa using List.find?_some get
  exact List.inj_on_of_nodup_map distinct member (List.mem_of_find?_eq_some get)
    (named.trans own.symm)

end Changes

theorem later_record (proposal : CatalogDraftProposal) (event : ProposalReviewEvent) :
    LaterProposal proposal (proposal.record event) :=
  ⟨rfl, rfl, rfl, List.prefix_append ..⟩

theorem later_approvedBy (actor : String) (now : Timestamp) (proposal : CatalogDraftProposal) :
    LaterProposal proposal (proposal.approvedBy actor now) :=
  ⟨rfl, rfl, rfl, List.prefix_append ..⟩

theorem later_publishedAs (entryId versionId actor : String) (now : Timestamp)
    (proposal : CatalogDraftProposal) :
    LaterProposal proposal (proposal.publishedAs entryId versionId actor now) :=
  ⟨rfl, rfl, rfl, List.prefix_append ..⟩

theorem later_rejectedBy (actor reason : String) (now : Timestamp)
    (proposal : CatalogDraftProposal) :
    LaterProposal proposal (proposal.rejectedBy actor reason now) :=
  ⟨rfl, rfl, rfl, List.prefix_append ..⟩

section Drafts

variable {env : CatalogEnv} {store : CatalogStore} {draft : GovernanceDraft}
  {connectionId proposalId actor reason : String} {proposalIds : List String} {now : Timestamp}

theorem rejectable_of_rejectProposal
    (drafted : rejectProposal store proposalId connectionId actor reason now = .ok draft) :
    ∃ proposal, store.catalog.getDraftProposal proposalId = some proposal ∧
      (proposal.reviewStatus = .pending ∨ proposal.reviewStatus = .approved) := by
  simp only [rejectProposal, bind_eq_ok_iff, refuse_eq_ok_iff] at drafted
  obtain ⟨_, _, proposal, required, _, allowed, _⟩ := drafted
  refine ⟨proposal, (requireProposal_eq_ok_iff.mp required).1, ?_⟩
  rw [decide_eq_false_iff_not, not_and_or, not_not, not_not] at allowed
  exact allowed

theorem rejectable_of_bulkRejectProposals
    (drafted : bulkRejectProposals store proposalIds connectionId actor reason now = .ok draft)
    (listed : proposalId ∈ proposalIds) :
    ∃ proposal, store.catalog.getDraftProposal proposalId = some proposal ∧
      (proposal.reviewStatus = .pending ∨ proposal.reviewStatus = .approved) := by
  simp only [bulkRejectProposals, bulkPrecheck, checkAll_eq_ok_iff, bind_eq_ok_iff,
    refuse_eq_ok_iff] at drafted
  obtain ⟨_, _, _, ⟨_, _, each⟩, _⟩ := drafted
  obtain ⟨proposal, required, allowed⟩ := each proposalId listed
  exact ⟨proposal, (requireProposal_eq_ok_iff.mp required).1,
    or_iff_not_imp_left.mpr (by simpa using allowed)⟩

/-- The rejection of a proposal that may be rejected. -/
theorem reviewStep_rejected {call : GovernanceCall} {earlier later : CatalogDraftProposal}
    (same : LaterProposal earlier later) (content : later.content = earlier.content)
    (rejected : later.reviewStatus = .rejected)
    (allowed : earlier.reviewStatus = .pending ∨ earlier.reviewStatus = .approved) :
    ReviewStep call earlier later := by
  refine same.moved ?_ (by rw [rejected]; decide) content call
  rw [rejected]
  rcases allowed with pending | approved
  · exact pending ▸ .rejectPending
  · exact approved ▸ .rejectApproved

/-- The change of one proposal that is found. -/
theorem reviewStep_of_update {call : GovernanceCall}
    {change : CatalogDraftProposal → CatalogDraftProposal} {found later : CatalogDraftProposal}
    (get : store.catalog.getDraftProposal proposalId = some found)
    (step : found.proposalId = proposalId → ReviewStep call found (change found))
    (member : later ∈ (store.catalog.updateProposal proposalId change).draftProposals) :
    ∃ earlier ∈ store.catalog.draftProposals, ReviewStep call earlier later := by
  obtain ⟨earlier, here, rfl | ⟨named, rfl⟩⟩ := mem_updateProposal member
  · exact ⟨later, here, .refl call later⟩
  · have same : earlier = found := eq_of_getDraftProposal get here named
    exact ⟨earlier, here, same ▸ step (same ▸ named)⟩

/-- The change of proposals that are all found in a status it is allowed from. -/
theorem reviewStep_of_updates {call : GovernanceCall}
    {change : CatalogDraftProposal → CatalogDraftProposal} {later : CatalogDraftProposal}
    {allowed : ProposalReviewStatus → Prop}
    (each : ∀ proposalId ∈ proposalIds, ∃ found,
      store.catalog.getDraftProposal proposalId = some found ∧ allowed found.reviewStatus)
    (step : ∀ earlier times, earlier.proposalId ∈ proposalIds → allowed earlier.reviewStatus →
      ReviewStep call earlier (change^[times + 1] earlier))
    (member : later ∈ (store.catalog.updateProposals proposalIds change).draftProposals) :
    ∃ earlier ∈ store.catalog.draftProposals, ReviewStep call earlier later := by
  obtain ⟨earlier, here, rfl | ⟨listed, times, rfl⟩⟩ := mem_updateProposals member
  · exact ⟨later, here, .refl call later⟩
  · obtain ⟨found, get, may⟩ := each earlier.proposalId listed
    have same : earlier = found := eq_of_getDraftProposal get here rfl
    exact ⟨earlier, here, step earlier times listed (same ▸ may)⟩

/-- Each call that is no import leaves each proposal pending, as a new one is, or takes it a step
of its review further. -/
theorem reviewStep_of_draft {call : GovernanceCall} (drafted : call.draft env store = .ok draft)
    (own : call.imports = false) {later : CatalogDraftProposal}
    (member : later ∈ draft.catalog.draftProposals) :
    later.reviewStatus = .pending ∨
      ∃ earlier ∈ store.catalog.draftProposals, ReviewStep call earlier later := by
  have kept : draft.catalog.draftProposals ⊆ store.catalog.draftProposals →
      ∃ earlier ∈ store.catalog.draftProposals, ReviewStep call earlier later :=
    fun inside => ⟨later, inside member, .refl call later⟩
  cases call with
  | createManual connectionId target content actor now =>
      rw [(createManualProposal_ok drafted).2] at member
      rcases List.mem_append.mp member with here | added
      · exact .inr ⟨later, here, .refl _ later⟩
      · cases List.mem_singleton.mp added
        exact .inl rfl
  | edit proposalId connectionId actor content now =>
      obtain ⟨proposal, found, pending, written⟩ := editProposal_ok drafted
      rw [written] at member
      refine .inr (reviewStep_of_update found (fun _ => ?_) member)
      exact {
        toLaterProposal := ⟨rfl, rfl, rfl, List.prefix_append ..⟩
        status := .inl rfl
        approved := fun _ approved => by cases pending.symm.trans approved
        content := .inr ⟨pending, pending⟩ }
  | approve proposalId connectionId actor now =>
      obtain ⟨proposal, found, pending, written⟩ := approveProposal_ok drafted
      rw [written] at member
      refine .inr (reviewStep_of_update found (fun named => ?_) member)
      exact {
        toLaterProposal := later_approvedBy actor now proposal
        status := .inr (pending ▸ .approve)
        approved := fun _ _ =>
          ⟨_, List.mem_append_right _ (List.mem_singleton_self _), named ▸ .one ..⟩
        content := .inl rfl }
  | reject proposalId connectionId actor reason now =>
      obtain ⟨proposal, found, allowed⟩ := rejectable_of_rejectProposal drafted
      rw [rejectProposal_ok drafted] at member
      exact .inr (reviewStep_of_update found
        (fun _ => reviewStep_rejected (later_rejectedBy ..) rfl rfl allowed) member)
  | bulkApprove proposalIds connectionId actor now =>
      obtain ⟨each, written⟩ := bulkApproveProposals_ok drafted
      rw [written] at member
      refine .inr (@reviewStep_of_updates store proposalIds _ _ later (· = .pending) each
        (fun earlier times listed pending => ?_) member)
      have approved := @iterate_sets (·.approvedBy actor now)
        (fun proposal => proposal.reviewStatus = .approved ∧
          ⟨.approved, actor, now, none⟩ ∈ proposal.reviewHistory)
        (fun _ => ⟨rfl, List.mem_append_right _ (List.mem_singleton_self _)⟩) times earlier
      exact {
        toLaterProposal := iterate_later (later_approvedBy actor now) _ earlier
        status := .inr (by rw [pending, approved.1]; exact .approve)
        approved := fun _ _ => ⟨_, approved.2, .many connectionId actor now listed⟩
        content := .inl (@iterate_keeps (·.approvedBy actor now) _ (·.content) (fun _ => rfl) _
          earlier) }
  | bulkReject proposalIds connectionId actor reason now =>
      have each := fun proposalId => @rejectable_of_bulkRejectProposals store draft connectionId
        proposalId actor reason proposalIds now drafted
      rw [bulkRejectProposals_ok drafted] at member
      refine .inr (@reviewStep_of_updates store proposalIds _ _ later
        (fun status => status = .pending ∨ status = .approved) each
        (fun earlier times _ allowed => ?_) member)
      exact reviewStep_rejected (iterate_later (later_rejectedBy actor reason now) _ earlier)
        (@iterate_keeps (·.rejectedBy actor reason now) _ (·.content) (fun _ => rfl) _ earlier)
        (@iterate_sets (·.rejectedBy actor reason now) (·.reviewStatus = .rejected)
          (fun _ => rfl) times earlier) allowed
  | publish proposalId connectionId actor now =>
      obtain ⟨proposal, before, found, -, approved, -, -, -, written⟩ := publishProposal_ok drafted
      rw [written] at member
      have named : proposal.proposalId = proposalId := by simpa using List.find?_some found
      refine .inr (reviewStep_of_update (named ▸ found) (fun _ => ?_) member)
      exact (later_publishedAs ..).moved (approved ▸ .publish) (fun other => by cases other) rfl _
  | rollback versionId connectionId actor now =>
      obtain ⟨record, table, undone, -, -, undid, -, written⟩ := rollbackVersion_ok drafted
      rw [written, rolledBackCatalog, undoChange_ok undid] at member
      cases source : record.proposalId with
      | none =>
          rw [source] at member
          exact .inr ⟨later, member, .refl _ later⟩
      | some proposalId =>
          rw [source] at member
          obtain ⟨earlier, here, rfl | ⟨-, rfl⟩⟩ := mem_updateProposal member
          · exact .inr ⟨later, here, .refl _ later⟩
          · exact .inr ⟨earlier, here, (later_record ..).noted rfl rfl _⟩
  | deleteProposal proposalId connectionId =>
      rw [deleteProposal_ok drafted] at kept
      exact .inr (kept List.filter_sublist.subset)
  | bulkDelete proposalIds connectionId =>
      rw [bulkDeleteProposals_ok drafted] at kept
      exact .inr (kept List.filter_sublist.subset)
  | deleteVersion versionId connectionId =>
      rw [(deleteVersionRecord_ok drafted).2] at kept
      exact .inr (kept List.filter_sublist.subset)
  | importBundle bundle connectionId => cases own

end Drafts

/-! ## Runs -/

/-- An approval among the calls has named the proposal when it waited with the content it has
now, and its history says whose approval it was. -/
def ApprovedWithin (env : CatalogEnv) (store : CatalogStore) (calls : List GovernanceCall)
    (proposal : CatalogDraftProposal) : Prop :=
  ∃ before call after, calls = before ++ call :: after ∧
    (∃ event ∈ proposal.reviewHistory, Approves call proposal.proposalId event) ∧
      ∃ waiting ∈ (before.foldl (CatalogStore.after env) store).catalog.draftProposals,
        waiting.reviewStatus = .pending ∧ waiting.content = proposal.content ∧
          LaterProposal waiting proposal

section Runs

variable {env : CatalogEnv} {store : CatalogStore}

/-- The same of a call that may be refused, which changes nothing then. -/
theorem reviewStep_of_after {call : GovernanceCall} (own : call.imports = false)
    {later : CatalogDraftProposal}
    (member : later ∈ (store.after env call).catalog.draftProposals) :
    later.reviewStatus = .pending ∨
      ∃ earlier ∈ store.catalog.draftProposals, ReviewStep call earlier later := by
  unfold CatalogStore.after at member
  cases ran : call.run env store with
  | error refusal =>
      rw [ran] at member
      exact .inr ⟨later, member, .refl call later⟩
  | ok update =>
      rw [ran] at member
      obtain ⟨draft, drafted, written, -⟩ := GovernanceCall.run_eq_ok_iff.mp ran
      exact reviewStep_of_draft drafted own (written ▸ member)

theorem ReviewStep.content_of_passed {call : GovernanceCall}
    {earlier later : CatalogDraftProposal} (step : ReviewStep call earlier later)
    (passed : later.reviewStatus.Passed) : later.content = earlier.content := by
  rcases step.content with same | ⟨-, pending⟩
  · exact same
  · rw [pending] at passed
    rcases passed with wrong | wrong <;> cases wrong

/-- A proposal that has passed had passed before the call, or the call approved it. -/
theorem ReviewStep.passed_cases {call : GovernanceCall} {earlier later : CatalogDraftProposal}
    (step : ReviewStep call earlier later) (passed : later.reviewStatus.Passed) :
    earlier.reviewStatus.Passed ∨ earlier.reviewStatus = .pending ∧
      ∃ event ∈ later.reviewHistory, Approves call earlier.proposalId event := by
  rcases step.status with same | next
  · exact .inl (same ▸ passed)
  · generalize from_ : earlier.reviewStatus = status at next
    generalize to_ : later.reviewStatus = after at next
    cases next with
    | approve => exact .inr ⟨rfl, step.approved from_ to_⟩
    | rejectPending | rejectApproved =>
        rw [to_] at passed
        rcases passed with wrong | wrong <;> cases wrong
    | publish => exact .inl (.inl rfl)

theorem ApprovedWithin.later {calls : List GovernanceCall} {call : GovernanceCall}
    {earlier later : CatalogDraftProposal} (approved : ApprovedWithin env store calls earlier)
    (same : LaterProposal earlier later) (content : later.content = earlier.content) :
    ApprovedWithin env store (calls ++ [call]) later := by
  obtain ⟨before, approval, after, split, ⟨event, recorded, names⟩, waiting, here, pending, given,
    since⟩ := approved
  refine ⟨before, approval, after ++ [call], by rw [split, List.append_assoc, List.cons_append],
    ⟨event, same.history.subset recorded, same.proposalId ▸ names⟩, waiting, here, pending,
    given.trans content.symm, since.trans same⟩

/-- **Nothing passes a review unseen**: after a run without imports, a proposal that is approved
or published was so at its start, or an approval in the run has named it while it was pending,
with the target and the content it has now. -/
theorem approved_of_run {calls : List GovernanceCall} (own : ∀ call ∈ calls, call.imports = false)
    {proposal : CatalogDraftProposal}
    (member : proposal ∈ (calls.foldl (CatalogStore.after env) store).catalog.draftProposals)
    (passed : proposal.reviewStatus.Passed) :
    (∃ earlier ∈ store.catalog.draftProposals, earlier.reviewStatus.Passed ∧
        proposal.content = earlier.content ∧ LaterProposal earlier proposal) ∨
      ApprovedWithin env store calls proposal := by
  induction calls using List.reverseRecOn generalizing proposal with
  | nil => exact .inl ⟨proposal, member, passed, rfl, .refl proposal⟩
  | append_singleton calls call ih =>
      rw [List.foldl_append, List.foldl_cons, List.foldl_nil] at member
      rcases reviewStep_of_after (own call (List.mem_append_right _ (List.mem_singleton_self _)))
        member with pending | ⟨earlier, here, step⟩
      · rw [pending] at passed
        rcases passed with wrong | wrong <;> cases wrong
      · have content := step.content_of_passed passed
        rcases step.passed_cases passed with before | ⟨waits, event, recorded, names⟩
        · rcases ih (fun call listed => own call (List.mem_append_left _ listed)) here before with
            ⟨first, there, was, given, since⟩ | approved
          · exact .inl ⟨first, there, was, content.trans given, since.trans step.toLaterProposal⟩
          · exact .inr (approved.later step.toLaterProposal content)
        · exact .inr ⟨calls, call, [], rfl, ⟨event, recorded, step.proposalId ▸ names⟩, earlier,
            here, waits, content.symm, step.toLaterProposal⟩

/-- Bob publishes a proposal that he has approved. -/
theorem approved_publishedOrders :
    ∃ proposal ∈ ((approves "orders" ++ [publishes "orders"]).foldl (CatalogStore.after shopEnv)
        CatalogStore.empty).catalog.draftProposals,
      proposal.reviewStatus = .published ∧
        ApprovedWithin shopEnv CatalogStore.empty (approves "orders" ++ [publishes "orders"])
          proposal := by
  have listed : (((approves "orders" ++ [publishes "orders"]).foldl (CatalogStore.after shopEnv)
      CatalogStore.empty).catalog.draftProposals.map (·.reviewStatus)) = [.published] := by
    decide +kernel
  obtain ⟨proposal, member, published⟩ := List.mem_map.mp (listed ▸ List.mem_singleton_self _)
  refine ⟨proposal, member, published, ?_⟩
  rcases approved_of_run (by decide) member (.inr published) with ⟨earlier, here, -⟩ | approved
  · cases here
  · exact approved

end Runs

end QueryGate.Catalog
