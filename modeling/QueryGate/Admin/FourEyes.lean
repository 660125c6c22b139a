import QueryGate.Admin.Governance

/-! # Four eyes

A staged version becomes active only with the required number of approvals. The approvals
are counted before `apply` waits for the catalog lock, and a rejection may be recorded until
the version is marked active. Where no rejection takes a version below the required number
while it is being applied, each first activation has its approvals (`fourEyes_of_governed`).
-/

namespace QueryGate

open Foundation ConfigVersionStore

variable {F : Type}

/-! ## The property -/

/-- A reviewer's latest decision on a version. -/
def GovernanceState.latestDecision (state : GovernanceState F) (versionId : Nat)
    (reviewer : String) : Option RecordedDecision :=
  (state.decisions.filter fun decision =>
    decide (decision.versionId = versionId) && decide (decision.reviewer = reviewer)).getLast?

/-- So many reviewers other than the author last approved exactly these documents. -/
def GovernanceState.Approved (state : GovernanceState F) (required : Nat)
    (version : ConfigVersion F) : Prop :=
  ∃ reviewers : List String, reviewers.Nodup ∧ required ≤ reviewers.length ∧
    ∀ reviewer ∈ reviewers, reviewer ≠ version.createdBy ∧
      state.latestDecision version.id reviewer =
        some ⟨version.id, reviewer, .approve, version.toVersionDocuments⟩

/-- A version that was staged is active. -/
def FirstActivation (state next : GovernanceState F) (version : ConfigVersion F) : Prop :=
  (∃ staged, state.store.readManifest version.id = .ok staged ∧ staged.status = .staged) ∧
    next.store.readManifest version.id = .ok version ∧ version.status = .active

/-- No rejection takes a version that is being applied below the required approvals. -/
def KeepsApprovals [DecidableEq F] (cfg : GovernanceConfig F) (state : GovernanceState F) :
    GovernanceEvent → Prop
  | .recordReview review _ _ =>
      review.decision = .reject →
        (∃ call ∈ state.inProgress, call.versionId = review.versionId) →
          ∀ version, state.store.readManifest review.versionId = .ok version →
            cfg.requireConfigApprovals ≤ countValidApprovals cfg.digest
              { version with
                approvals := version.approvals.filter fun record =>
                  record.approver ≠ review.reviewer }
  | _ => True

/-! ## What a step may do to a version -/

/-- A version keeps its review, and only one may be activated. -/
structure SameReview (activated : Option Nat) (before after : ConfigVersion F) : Prop where
  id : after.id = before.id
  documents : after.toVersionDocuments = before.toVersionDocuments
  author : after.createdBy = before.createdBy
  approvals : after.approvals = before.approvals
  status : after.status = before.status ∨ after.status = .inactive ∨
    (after.status = .active ∧ activated = some before.id)

theorem SameReview.refl (activated : Option Nat) (version : ConfigVersion F) :
    SameReview activated version version :=
  ⟨rfl, rfl, rfl, rfl, .inl rfl⟩

theorem SameReview.trans {activated : Option Nat} {first second third : ConfigVersion F}
    (before : SameReview activated first second) (after : SameReview activated second third) :
    SameReview activated first third where
  id := after.id.trans before.id
  documents := after.documents.trans before.documents
  author := after.author.trans before.author
  approvals := after.approvals.trans before.approvals
  status := by
    rcases after.status with same | inactive | ⟨active, named⟩
    · rw [same]
      exact before.status
    · exact .inr (.inl inactive)
    · exact .inr (.inr ⟨active, named.trans (congrArg some before.id)⟩)

/-- Versions stay, keep their review, and come without one. -/
structure Evolves (activated : Option Nat) (store next : ConfigVersionStore F) : Prop where
  kept : ∀ id version, store.readManifest id = .ok version →
    ∃ after, next.readManifest id = .ok after ∧ SameReview activated version after
  fresh : ∀ id after, next.readManifest id = .ok after →
    (∃ version, store.readManifest id = .ok version) ∨ (after.id = id ∧ after.approvals = [])

section Evolution

variable {activated : Option Nat} {store next last : ConfigVersionStore F}

theorem evolves_of_same (same : ∀ id, next.readManifest id = store.readManifest id) :
    Evolves activated store next where
  kept := fun id version read => ⟨version, (same id).trans read, SameReview.refl _ _⟩
  fresh := fun id after read => .inl ⟨after, (same id).symm.trans read⟩

theorem Evolves.trans (first : Evolves activated store next)
    (second : Evolves activated next last) : Evolves activated store last where
  kept := by
    intro id version read
    obtain ⟨middle, readMiddle, before⟩ := first.kept id version read
    obtain ⟨after, readAfter, later⟩ := second.kept id middle readMiddle
    exact ⟨after, readAfter, before.trans later⟩
  fresh := by
    intro id after read
    rcases second.fresh id after read with ⟨middle, readMiddle⟩ | new
    · rcases first.fresh id middle readMiddle with old | ⟨named, empty⟩
      · exact .inl old
      · obtain ⟨again, readAgain, same⟩ := second.kept id middle readMiddle
        obtain rfl := Except.ok.inj (readAgain.symm.trans read)
        exact .inr ⟨same.id.trans named, same.approvals.trans empty⟩
    · exact .inr new

theorem evolves_writeManifest {manifest : ConfigManifest F} {version : ConfigVersion F}
    (read : store.readManifest manifest.id = .ok version)
    (same : SameReview activated version { version with toConfigManifest := manifest }) :
    Evolves activated store ((writeManifest manifest).foldl write store) where
  kept := by
    intro id before readBefore
    rw [readManifest_writeManifest read]
    by_cases own : manifest.id = id
    · subst own
      obtain rfl := Except.ok.inj (read.symm.trans readBefore)
      exact ⟨_, if_pos rfl, same⟩
    · exact ⟨before, (if_neg own).trans readBefore, SameReview.refl _ _⟩
  fresh := by
    intro id after readAfter
    rw [readManifest_writeManifest read] at readAfter
    by_cases own : manifest.id = id
    · exact .inl ⟨version, own ▸ read⟩
    · exact .inl ⟨after, (if_neg own).symm.trans readAfter⟩

theorem evolves_writeManifest_take {manifest : ConfigManifest F} {version : ConfigVersion F}
    (read : store.readManifest manifest.id = .ok version)
    (same : SameReview activated version { version with toConfigManifest := manifest })
    (count : Nat) :
    Evolves activated store (((writeManifest manifest).take count).foldl write store) := by
  by_cases early : count < (writeManifest manifest).length
  · exact evolves_of_same (readManifest_writeManifest_take manifest early)
  · rw [List.take_of_length_le (Nat.not_lt.mp early)]
    exact evolves_writeManifest read same

theorem evolves_writeVersion_take {manifest : ConfigManifest F} {documents : VersionDocuments}
    (absent : manifest.id ∉ dictKeys store.versions) (empty : manifest.approvals = [])
    (count : Nat) :
    Evolves activated store (((writeVersion manifest documents).take count).foldl write
      store) := by
  by_cases early : count < (writeVersion manifest documents).length
  · exact evolves_of_same (readManifest_writeVersion_take absent early)
  rw [List.take_of_length_le (Nat.not_lt.mp early)]
  constructor
  · intro id version read
    have apart : manifest.id ≠ id := fun same => absent (same ▸ mem_of_readManifest read)
    exact ⟨version, ((readManifest_writeVersion absent id).trans (if_neg apart)).trans read,
      SameReview.refl _ _⟩
  · intro id after readAfter
    rw [readManifest_writeVersion absent] at readAfter
    by_cases own : manifest.id = id
    · rw [if_pos own] at readAfter
      cases readAfter
      exact .inr ⟨own, empty⟩
    · exact .inl ⟨after, (if_neg own).symm.trans readAfter⟩

theorem evolves_writeCurrent_take (id count : Nat) :
    Evolves activated store (((writeCurrent id).take count).foldl write store) := by
  apply evolves_of_same
  intro other
  rcases count with _ | _ | count
  · rfl
  · rfl
  · rw [List.take_of_length_le (by simp [writeCurrent])]
    rfl

/-- A plan was run up to some write. -/
theorem runPlan_eq_some {plan : StorePlan F} {stop : Option Nat}
    (ran : runPlan store plan stop = some next) :
    ∃ count, next = (plan.writes.take count).foldl write store ∧
      (stop = none → count = plan.writes.length) ∧
        (stop ≠ none → stop = some count ∧ count < plan.writes.length) := by
  cases stop with
  | none =>
      refine ⟨plan.writes.length, ?_, fun _ => rfl, fun absurd => (absurd rfl).elim⟩
      rw [List.take_length]
      exact (Option.some.inj ran).symm
  | some count =>
      unfold runPlan at ran
      dsimp only at ran
      by_cases early : count < plan.writes.length
      · rw [if_pos early] at ran
        exact ⟨count, (Option.some.inj ran).symm, nofun, fun _ => ⟨rfl, early⟩⟩
      · rw [if_neg early] at ran
        cases ran

theorem evolves_bootstrap {documents : VersionDocuments} {now : Nat} {plan : StorePlan F}
    (planned : store.bootstrapIfEmpty documents now = .ok plan) (count : Nat) :
    Evolves activated store ((plan.writes.take count).foldl write store) := by
  rcases bootstrapIfEmpty_eq_ok_iff.mp planned with ⟨active, _, rfl⟩ | ⟨_, rfl⟩
  · rw [List.take_nil]
    exact evolves_of_same fun _ => rfl
  · rw [List.take_append, List.foldl_append]
    exact (evolves_writeVersion_take (nextId_not_mem store) rfl count).trans
      (evolves_writeCurrent_take _ _)

theorem evolves_staged {documents : VersionDocuments} {description : Option String}
    {actor : String} {now : Nat} {plan : StorePlan F}
    (planned : store.createStagedVersion documents description actor now = .ok plan)
    (count : Nat) : Evolves activated store ((plan.writes.take count).foldl write store) := by
  obtain rfl := Except.ok.inj planned
  exact evolves_writeVersion_take (nextId_not_mem store) rfl count

theorem evolves_markActive (named : ∀ id version, store.readManifest id = .ok version →
      version.id = id) {id : Nat} {actor : String} {now : Nat} {plan : StorePlan F}
    (planned : store.markActive id actor now = .ok plan) (count : Nat) :
    Evolves (some id) store ((plan.writes.take count).foldl write store) := by
  obtain ⟨version, deactivated, read, written, rfl⟩ := markActive_eq_ok_iff.mp planned
  obtain rfl := named id version read
  have deactivates : Evolves (some version.id) store
        ((deactivated.take count).foldl write store) ∧
      ((deactivated.take count).foldl write store).readManifest version.id = .ok version := by
    rcases deactivation_eq_ok_iff.mp written with ⟨_, rfl⟩ |
      ⟨previousId, previous, _, apart, readPrevious, rfl⟩
    · rw [List.take_nil]
      exact ⟨evolves_of_same fun _ => rfl, read⟩
    · have own := named previousId previous readPrevious
      have rewritten : store.readManifest
          ({ previous.toConfigManifest with status := .inactive }).id = .ok previous :=
        (congrArg store.readManifest own).trans readPrevious
      refine ⟨evolves_writeManifest_take rewritten
        ⟨rfl, rfl, rfl, rfl, .inr (.inl rfl)⟩ count, ?_⟩
      by_cases early : count < (writeManifest
          { previous.toConfigManifest with status := .inactive }).length
      · exact (readManifest_writeManifest_take _ early _).trans read
      · rw [List.take_of_length_le (Nat.not_lt.mp early), readManifest_writeManifest rewritten,
          if_neg (own.trans_ne apart)]
        exact read
  have marked : ((deactivated.take count).foldl write store).readManifest
      (markedVersion version actor now store.current).toConfigManifest.id = .ok version :=
    deactivates.2
  rw [List.take_append, List.foldl_append, List.take_append, List.foldl_append]
  refine deactivates.1.trans ((evolves_writeManifest_take marked ?_ _).trans
    (evolves_writeCurrent_take _ _))
  exact ⟨rfl, rfl, rfl, rfl, .inr (.inr ⟨rfl, rfl⟩)⟩

end Evolution

/-! ## The invariant -/

section Invariant

variable [DecidableEq F] {cfg : GovernanceConfig F} {state next : GovernanceState F}

/-- A version's approvals are its reviewers' latest decisions, on its documents. -/
def ApprovalsRecorded (cfg : GovernanceConfig F) (state : GovernanceState F)
    (version : ConfigVersion F) : Prop :=
  ∀ record ∈ version.approvals, record.approver ≠ version.createdBy ∧
    record.contentFingerprint = versionFingerprint cfg.digest version.toVersionDocuments ∧
      state.latestDecision version.id record.approver =
        some ⟨version.id, record.approver, record.decision, version.toVersionDocuments⟩

/-- What holds of a store, the calls in progress and the decisions. -/
structure UnderReview (cfg : GovernanceConfig F) (state : GovernanceState F) : Prop where
  named : ∀ id version, state.store.readManifest id = .ok version → version.id = id
  recorded : ∀ id version, state.store.readManifest id = .ok version →
    ApprovalsRecorded cfg state version
  reviewed : ∀ review ∈ state.reviews, ∃ version,
    state.store.readManifest review.versionId = .ok version ∧
      version.toVersionDocuments = review.documents
  counted : ∀ call ∈ state.inProgress, ∃ version,
    state.store.readManifest call.versionId = .ok version ∧
      (version.status = .staged →
        cfg.requireConfigApprovals ≤ countValidApprovals cfg.digest version)

theorem underReview_initial : UnderReview cfg cfg.initial where
  named := fun _ _ read => nomatch read
  recorded := fun _ _ read => nomatch read
  reviewed := fun _ member => nomatch member
  counted := fun _ member => nomatch member

omit [DecidableEq F] in
theorem SameReview.recorded {activated : Option Nat} {before after : ConfigVersion F}
    (same : SameReview activated before after) (recorded : ApprovalsRecorded cfg state before) :
    ApprovalsRecorded cfg state after := by
  intro record member
  rw [same.approvals] at member
  obtain ⟨author, fingerprint, latest⟩ := recorded record member
  rw [same.author, same.documents, same.id]
  exact ⟨author, fingerprint, latest⟩

theorem SameReview.count {activated : Option Nat} {before after : ConfigVersion F}
    (same : SameReview activated before after) (digest : List UInt8 → F) :
    countValidApprovals digest after = countValidApprovals digest before := by
  unfold countValidApprovals validApprovers
  rw [same.approvals, same.documents]

omit [DecidableEq F] in
theorem SameReview.staged {activated : Option Nat} {before after : ConfigVersion F}
    (same : SameReview activated before after) (staged : after.status = .staged) :
    before.status = .staged := by
  rcases same.status with unchanged | inactive | ⟨active, _⟩
  · exact unchanged.symm.trans staged
  · exact nomatch inactive.symm.trans staged
  · exact nomatch active.symm.trans staged

/-- The store evolves, no decision is recorded, and calls only end. -/
theorem underReview_evolves (activated : Option Nat) (under : UnderReview cfg state)
    (evolves : Evolves activated state.store next.store)
    (decisions : next.decisions = state.decisions)
    (reviews : ∀ review ∈ next.reviews, review ∈ state.reviews)
    (calls : ∀ call ∈ next.inProgress, call ∈ state.inProgress) : UnderReview cfg next := by
  have latest : ∀ id reviewer, next.latestDecision id reviewer =
      state.latestDecision id reviewer := by
    intro id reviewer
    unfold GovernanceState.latestDecision
    rw [decisions]
  have known : ∀ id after, next.store.readManifest id = .ok after →
      (∃ version, state.store.readManifest id = .ok version ∧
        SameReview activated version after) ∨ (after.id = id ∧ after.approvals = []) := by
    intro id after read
    rcases evolves.fresh id after read with ⟨version, readBefore⟩ | new
    · obtain ⟨again, readAgain, same⟩ := evolves.kept id version readBefore
      obtain rfl := Except.ok.inj (readAgain.symm.trans read)
      exact .inl ⟨version, readBefore, same⟩
    · exact .inr new
  constructor
  · intro id after read
    rcases known id after read with ⟨version, readBefore, same⟩ | ⟨named, _⟩
    · exact same.id.trans (under.named id version readBefore)
    · exact named
  · intro id after read
    rcases known id after read with ⟨version, readBefore, same⟩ | ⟨_, empty⟩
    · intro record member
      rw [latest]
      exact same.recorded (under.recorded id version readBefore) record member
    · intro record member
      rw [empty] at member
      cases member
  · intro review member
    obtain ⟨version, read, documents⟩ := under.reviewed review (reviews review member)
    obtain ⟨after, readAfter, same⟩ := evolves.kept _ version read
    exact ⟨after, readAfter, same.documents.trans documents⟩
  · intro call member
    obtain ⟨version, read, counted⟩ := under.counted call (calls call member)
    obtain ⟨after, readAfter, same⟩ := evolves.kept _ version read
    refine ⟨after, readAfter, fun staged => ?_⟩
    rw [same.count]
    exact counted (same.staged staged)

/-! ## Recording a decision -/

omit [DecidableEq F] in
theorem latestDecision_append (state : GovernanceState F) {left : GovernanceState F}
    {decision : RecordedDecision} (decisions : left.decisions = state.decisions ++ [decision])
    (versionId : Nat) (reviewer : String) :
    left.latestDecision versionId reviewer =
      if decision.versionId = versionId ∧ decision.reviewer = reviewer then some decision
      else state.latestDecision versionId reviewer := by
  unfold GovernanceState.latestDecision
  rw [decisions, List.filter_append]
  by_cases own : decision.versionId = versionId ∧ decision.reviewer = reviewer
  · rw [if_pos own]
    simp [own.1, own.2]
  · rw [if_neg own]
    have dropped : List.filter (fun decision : RecordedDecision =>
        decide (decision.versionId = versionId) && decide (decision.reviewer = reviewer))
        [decision] = [] := by
      rw [List.filter_cons_of_neg]
      · rfl
      · simpa using own
    rw [dropped, List.append_nil]

theorem mem_validApprovers {digest : List UInt8 → F} {version : ConfigVersion F}
    {reviewer : String} :
    reviewer ∈ validApprovers digest version ↔
      ∃ record ∈ version.approvals, record.approver = reviewer ∧ record.decision = .approve ∧
        record.contentFingerprint = versionFingerprint digest version.toVersionDocuments := by
  unfold validApprovers
  rw [List.mem_dedup, List.mem_map]
  constructor
  · rintro ⟨record, member, rfl⟩
    obtain ⟨inside, valid⟩ := List.mem_filter.mp member
    simp only [Bool.and_eq_true, decide_eq_true_eq] at valid
    exact ⟨record, inside, rfl, valid.1, valid.2⟩
  · rintro ⟨record, inside, rfl, approved, fingerprint⟩
    refine ⟨record, List.mem_filter.mpr ⟨inside, ?_⟩, rfl⟩
    simp only [Bool.and_eq_true, decide_eq_true_eq]
    exact ⟨approved, fingerprint⟩

theorem countValidApprovals_mono {digest : List UInt8 → F} {first second : ConfigVersion F}
    (subset : validApprovers digest first ⊆ validApprovers digest second) :
    countValidApprovals digest first ≤ countValidApprovals digest second :=
  ((List.nodup_dedup _).subperm subset).length_le

/-- A recorded decision leaves enough approvals for the calls that were counted. -/
theorem enough_of_reviewed {version : ConfigVersion F} {record : ConfigApprovalRecord F}
    {required : Nat} {digest : List UInt8 → F}
    (own : record.contentFingerprint = versionFingerprint digest version.toVersionDocuments)
    (counted : required ≤ countValidApprovals digest version)
    (left : record.decision = .reject → required ≤ countValidApprovals digest
      { version with
        approvals := version.approvals.filter fun other => other.approver ≠ record.approver }) :
    required ≤ countValidApprovals digest (reviewedVersion version record) := by
  cases chosen : record.decision with
  | approve =>
      refine counted.trans (countValidApprovals_mono fun reviewer member => ?_)
      obtain ⟨found, inside, rfl, approved, fingerprint⟩ := mem_validApprovers.mp member
      apply mem_validApprovers.mpr
      by_cases same : found.approver = record.approver
      · exact ⟨record, List.mem_append_right _ (List.mem_singleton_self _), same.symm, chosen, own⟩
      · exact ⟨found, List.mem_append_left _ (List.mem_filter.mpr ⟨inside, by simpa using same⟩),
          rfl, approved, fingerprint⟩
  | reject =>
      refine (left chosen).trans (countValidApprovals_mono fun reviewer member => ?_)
      obtain ⟨found, inside, rfl, approved, fingerprint⟩ := mem_validApprovers.mp member
      exact mem_validApprovers.mpr
        ⟨found, List.mem_append_left _ inside, rfl, approved, fingerprint⟩

/-- A decision that is recorded is its reviewer's latest, on the documents they were shown. -/
theorem underReview_decided (review : ReviewCall) (under : UnderReview cfg state)
    {version : ConfigVersion F} {record : ConfigApprovalRecord F}
    (read : state.store.readManifest version.id = .ok version)
    (own : record.contentFingerprint = versionFingerprint cfg.digest version.toVersionDocuments)
    (author : record.approver ≠ version.createdBy)
    (decisions : next.decisions = state.decisions ++
      [⟨version.id, record.approver, record.decision, version.toVersionDocuments⟩])
    (store : next.store = (writeManifest (reviewedVersion version record).toConfigManifest).foldl
      ConfigVersionStore.write state.store)
    (reviews : next.reviews = state.reviews.erase review)
    (calls : next.inProgress = state.inProgress)
    (left : record.decision = .reject →
      (∃ call ∈ state.inProgress, call.versionId = version.id) →
        cfg.requireConfigApprovals ≤ countValidApprovals cfg.digest
          { version with
            approvals := version.approvals.filter fun other =>
              other.approver ≠ record.approver }) :
    UnderReview cfg next := by
  have reads : ∀ other, next.store.readManifest other =
      if version.id = other then .ok (reviewedVersion version record)
      else state.store.readManifest other := by
    intro other
    have reviewed : state.store.readManifest
        (reviewedVersion version record).toConfigManifest.id = .ok version := read
    rw [store]
    exact readManifest_writeManifest reviewed other
  have latest := fun id reviewer => latestDecision_append state decisions id reviewer
  constructor
  · intro id found readAfter
    rw [reads] at readAfter
    by_cases same : version.id = id
    · rw [if_pos same] at readAfter
      cases readAfter
      exact same
    · exact under.named id found ((if_neg same).symm.trans readAfter)
  · intro id found readAfter old member
    rw [reads] at readAfter
    rw [latest]
    by_cases same : version.id = id
    · rw [if_pos same] at readAfter
      cases readAfter
      rcases List.mem_append.mp member with kept | new
      · obtain ⟨inside, differs⟩ := List.mem_filter.mp kept
        have apart : ¬ record.approver = old.approver := fun equal =>
          of_decide_eq_true differs equal.symm
        obtain ⟨notAuthor, fingerprint, recorded⟩ :=
          under.recorded version.id version read old inside
        exact ⟨notAuthor, fingerprint, (if_neg fun both => apart both.2).trans recorded⟩
      · obtain rfl := List.mem_singleton.mp new
        exact ⟨author, own, if_pos ⟨rfl, rfl⟩⟩
    · rw [if_neg same] at readAfter
      have named := under.named id found readAfter
      obtain ⟨notAuthor, fingerprint, recorded⟩ := under.recorded id found readAfter old member
      refine ⟨notAuthor, fingerprint, (if_neg fun both => ?_).trans recorded⟩
      exact same (both.1.trans named)
  · intro other member
    rw [reviews] at member
    obtain ⟨shown, readShown, documents⟩ := under.reviewed other (List.mem_of_mem_erase member)
    rw [reads]
    by_cases same : version.id = other.versionId
    · rw [if_pos same]
      obtain rfl := Except.ok.inj ((same ▸ read).symm.trans readShown)
      exact ⟨_, rfl, documents⟩
    · rw [if_neg same]
      exact ⟨shown, readShown, documents⟩
  · intro call member
    rw [calls] at member
    obtain ⟨current, readCurrent, counted⟩ := under.counted call member
    rw [reads]
    by_cases same : version.id = call.versionId
    · rw [if_pos same]
      obtain rfl := Except.ok.inj ((same ▸ read).symm.trans readCurrent)
      refine ⟨_, rfl, fun staged => enough_of_reviewed own (counted staged) fun rejected => ?_⟩
      exact left rejected ⟨call, member, same.symm⟩
    · rw [if_neg same]
      exact ⟨current, readCurrent, counted⟩

/-- Step: recording a decision. -/
theorem underReview_recordReview (under : UnderReview cfg state) {review : ReviewCall}
    {now : Nat} {stop : Option Nat}
    (keeps : KeepsApprovals cfg state (.recordReview review now stop))
    (stepped : state.recordReview cfg review now stop = some next) : UnderReview cfg next := by
  unfold GovernanceState.recordReview at stepped
  split at stepped
  case isFalse => cases stepped
  rename_i member
  have fewer : ∀ other ∈ state.reviews.erase review, other ∈ state.reviews :=
    fun other inside => List.mem_of_mem_erase inside
  dsimp only at stepped
  split at stepped
  · cases stepped
    exact underReview_evolves none under (evolves_of_same fun _ => rfl) rfl fewer
      fun _ => id
  rename_i plan planned
  obtain ⟨version, read, _, author, _, rfl⟩ := addApproval_eq_ok_iff.mp planned
  obtain ⟨store, ran, rfl⟩ := Option.map_eq_some_iff.mp stepped
  obtain ⟨count, rfl, whole, cut⟩ := runPlan_eq_some ran
  have named := under.named review.versionId version read
  cases stop with
  | some early =>
      obtain ⟨_, short⟩ := cut nofun
      refine underReview_evolves none under ?_ rfl fewer fun _ => id
      exact evolves_of_same (readManifest_writeManifest_take _ short)
  | none =>
      obtain ⟨shown, readShown, documents⟩ := under.reviewed review member
      obtain rfl := Except.ok.inj (read.symm.trans readShown)
      rw [whole rfl, List.take_length]
      refine underReview_decided review under (named.symm ▸ read)
        (congrArg (versionFingerprint cfg.digest) documents.symm) author ?_ rfl rfl rfl ?_
      · rw [documents, named]
        rfl
      · rintro rejected ⟨call, inside, same⟩
        exact keeps rejected ⟨call, inside, same.trans named⟩ version read

/-! ## Steps -/

omit [DecidableEq F] in
theorem mem_inProgress_of_holder {call : ApplyCall} {replaced : VersionDocuments}
    (held : state.holder = some (.apply call replaced)) : call ∈ state.inProgress := by
  unfold GovernanceState.inProgress
  rw [held]
  exact List.mem_append_right _ (List.mem_singleton_self _)

omit [DecidableEq F] in
/-- The calls in progress after one of them ended, or none did. -/
theorem mem_inProgress_of_waiting (held : next.holder = none ∨ next.holder = some .refresh)
    (waiting : ∀ call ∈ next.waiting, call ∈ state.waiting) :
    ∀ call ∈ next.inProgress, call ∈ state.inProgress := by
  intro call member
  unfold GovernanceState.inProgress at member
  rcases held with free | refresh
  · rw [free, List.append_nil] at member
    exact List.mem_append_left _ (waiting call member)
  · rw [refresh, List.append_nil] at member
    exact List.mem_append_left _ (waiting call member)

theorem evolves_finishApply (under : UnderReview cfg state) {now : Nat} {stop : Option Nat}
    (stepped : state.finishApply now stop = some next) :
    ∃ call ∈ state.inProgress, Evolves (some call.versionId) state.store next.store ∧
      next.decisions = state.decisions ∧ next.reviews = state.reviews ∧
        ∀ other ∈ next.inProgress, other ∈ state.inProgress := by
  unfold GovernanceState.finishApply at stepped
  split at stepped
  case h_2 => cases stepped
  rename_i call replaced held
  have inside := mem_inProgress_of_holder held
  dsimp only at stepped
  split at stepped
  · cases stepped
    exact ⟨call, inside, evolves_of_same fun _ => rfl, rfl, rfl,
      mem_inProgress_of_waiting (.inl rfl) fun _ => id⟩
  · rename_i plan planned
    obtain ⟨store, ran, rfl⟩ := Option.map_eq_some_iff.mp stepped
    obtain ⟨count, rfl, _⟩ := runPlan_eq_some ran
    exact ⟨call, inside, evolves_markActive under.named planned count, rfl, rfl,
      mem_inProgress_of_waiting (.inl rfl) fun _ => id⟩

omit [DecidableEq F] in
theorem bootstrap_evolves {now : Nat} {stop : Option Nat}
    (stepped : state.bootstrap cfg now stop = some next) :
    ∃ store, next = { state with store } ∧ Evolves none state.store store := by
  unfold GovernanceState.bootstrap at stepped
  split at stepped
  · cases stepped
    exact ⟨state.store, rfl, evolves_of_same fun _ => rfl⟩
  · rename_i plan planned
    obtain ⟨store, ran, rfl⟩ := Option.map_eq_some_iff.mp stepped
    obtain ⟨count, rfl, _⟩ := runPlan_eq_some ran
    exact ⟨_, rfl, evolves_bootstrap planned count⟩

omit [DecidableEq F] in
theorem stage_evolves {request : StageRequest} {actor : String} {errors : List String}
    {now : Nat} {stop : Option Nat}
    (stepped : state.stage request actor errors now stop = some next) :
    ∃ store, next = { state with store } ∧ Evolves none state.store store := by
  unfold GovernanceState.stage at stepped
  split at stepped
  case h_2 => cases stepped
  split at stepped
  · cases stepped
    exact ⟨state.store, rfl, evolves_of_same fun _ => rfl⟩
  split at stepped
  · cases stepped
    exact ⟨state.store, rfl, evolves_of_same fun _ => rfl⟩
  · rename_i plan planned
    obtain ⟨store, ran, rfl⟩ := Option.map_eq_some_iff.mp stepped
    obtain ⟨count, rfl, _⟩ := runPlan_eq_some ran
    exact ⟨_, rfl, evolves_staged planned count⟩

theorem underReview_store (under : UnderReview cfg state)
    (moved : ∃ store, next = { state with store } ∧ Evolves none state.store store) :
    UnderReview cfg next := by
  obtain ⟨store, rfl, evolves⟩ := moved
  exact underReview_evolves none under evolves rfl (fun _ => id) fun _ => id

theorem underReview_readForReview (under : UnderReview cfg state) {versionId : Nat}
    {reviewer : String} {decision : ConfigApprovalDecision} {note : Option String}
    (stepped : state.readForReview versionId reviewer decision note = some next) :
    UnderReview cfg next := by
  unfold GovernanceState.readForReview at stepped
  split at stepped
  · cases stepped
    exact under
  · rename_i version read
    cases stepped
    refine ⟨under.named, under.recorded, fun review member => ?_, under.counted⟩
    rcases List.mem_append.mp member with old | new
    · exact under.reviewed review old
    · obtain rfl := List.mem_singleton.mp new
      exact ⟨version, read, rfl⟩

/-- The gate lets a staged version through with its approvals. -/
theorem counted_of_applyGate {version : ConfigVersion F} {errors : List String}
    (passed : applyGate cfg version errors = .ok ()) (staged : version.status = .staged) :
    cfg.requireConfigApprovals ≤ countValidApprovals cfg.digest version := by
  obtain ⟨_, enough⟩ := seq_eq_ok_iff.mp passed
  have fewer := of_decide_eq_false (refuse_eq_ok_iff.mp enough)
  by_contra short
  refine fewer ⟨?_, ?_, Nat.lt_of_not_le short⟩
  · rw [staged]
    decide
  · omega

theorem underReview_beginApply (under : UnderReview cfg state) {call : ApplyCall}
    {errors : List String} (stepped : state.beginApply cfg call errors = some next) :
    UnderReview cfg next := by
  unfold GovernanceState.beginApply at stepped
  split at stepped
  · cases stepped
    exact under
  rename_i version read
  split at stepped
  · cases stepped
    exact under
  rename_i passed
  cases stepped
  refine ⟨under.named, under.recorded, under.reviewed, fun other member => ?_⟩
  have cases : other ∈ state.inProgress ∨ other = call := by
    unfold GovernanceState.inProgress at member ⊢
    rcases List.mem_append.mp member with waiting | holding
    · rcases List.mem_append.mp waiting with old | new
      · exact .inl (List.mem_append_left _ old)
      · exact .inr (List.mem_singleton.mp new)
    · exact .inl (List.mem_append_right _ holding)
  rcases cases with old | rfl
  · exact under.counted other old
  · exact ⟨version, read, counted_of_applyGate passed⟩

theorem underReview_install (under : UnderReview cfg state) {call : ApplyCall}
    (stepped : state.install cfg call = some next) : UnderReview cfg next := by
  unfold GovernanceState.install at stepped
  split at stepped
  case isFalse => cases stepped
  rename_i possible
  obtain ⟨documents, _, rfl⟩ := Option.map_eq_some_iff.mp stepped
  refine underReview_evolves none under (evolves_of_same fun _ => rfl) rfl (fun _ => id)
    fun other member => ?_
  rcases List.mem_append.mp member with waiting | holding
  · exact List.mem_append_left _ (List.mem_of_mem_erase waiting)
  · rw [List.mem_singleton.mp holding]
    exact List.mem_append_left _ possible.1

/-- Step: the approvals are kept. -/
theorem underReview_step (under : UnderReview cfg state) {event : GovernanceEvent}
    (keeps : KeepsApprovals cfg state event) (stepped : state.step cfg event = some next) :
    UnderReview cfg next := by
  have quiet : ∀ other : GovernanceState F, other.store = state.store →
      other.decisions = state.decisions → other.reviews = state.reviews →
        (other.holder = none ∨ other.holder = some .refresh) →
          (∀ call ∈ other.waiting, call ∈ state.waiting) → UnderReview cfg other := by
    intro other store decisions reviews holder waiting
    refine underReview_evolves none under (evolves_of_same fun _ => by rw [store]) decisions
      (fun review member => reviews ▸ member) (mem_inProgress_of_waiting holder waiting)
  cases event with
  | bootstrap now stop => exact underReview_store under (bootstrap_evolves stepped)
  | stage request actor errors now stop => exact underReview_store under (stage_evolves stepped)
  | readForReview versionId reviewer decision note => exact underReview_readForReview under stepped
  | recordReview review now stop => exact underReview_recordReview under keeps stepped
  | beginApply call errors => exact underReview_beginApply under stepped
  | install call => exact underReview_install under stepped
  | abandon call =>
      change state.abandon call = some next at stepped
      unfold GovernanceState.abandon at stepped
      split at stepped
      case isFalse => cases stepped
      cases stepped
      refine underReview_evolves none under (evolves_of_same fun _ => rfl) rfl (fun _ => id)
        fun other member => ?_
      rcases List.mem_append.mp member with waiting | holding
      · exact List.mem_append_left _ (List.mem_of_mem_erase waiting)
      · exact List.mem_append_right _ holding
  | failInstalled =>
      change state.failInstalled = some next at stepped
      unfold GovernanceState.failInstalled at stepped
      split at stepped
      case h_2 => cases stepped
      cases stepped
      exact quiet _ rfl rfl rfl (.inl rfl) fun _ => id
  | finishApply now stop =>
      obtain ⟨call, _, evolves, decisions, reviews, calls⟩ := evolves_finishApply under stepped
      exact underReview_evolves _ under evolves decisions
        (fun review member => reviews ▸ member) calls
  | probe =>
      change state.probe = some next at stepped
      unfold GovernanceState.probe at stepped
      split at stepped
      · cases stepped
      · cases stepped
        exact underReview_evolves none under (evolves_of_same fun _ => rfl) rfl (fun _ => id)
          fun _ => id
      · cases stepped
  | refreshInstall =>
      change state.refreshInstall cfg = some next at stepped
      unfold GovernanceState.refreshInstall at stepped
      split at stepped
      case h_2 => cases stepped
      obtain ⟨documents, _, rfl⟩ := Option.map_eq_some_iff.mp stepped
      exact quiet _ rfl rfl rfl (.inr rfl) fun _ => id
  | refreshFails =>
      obtain ⟨_, _, rfl⟩ := Option.map_eq_some_iff.mp stepped
      exact underReview_evolves none under (evolves_of_same fun _ => rfl) rfl (fun _ => id)
        fun _ => id
  | refreshEnds =>
      change state.refreshEnds = some next at stepped
      unfold GovernanceState.refreshEnds at stepped
      split at stepped
      case h_2 => cases stepped
      cases stepped
      exact quiet _ rfl rfl rfl (.inl rfl) fun _ => id

/-- Run: the approvals are kept in every state. -/
theorem underReview_governed (governed : Governed cfg (KeepsApprovals cfg) state) :
    UnderReview cfg state := by
  induction governed with
  | start => exact underReview_initial
  | step _ met stepped ih => exact underReview_step ih met stepped

/-! ## First activations -/

/-- The steps that write no version. -/
theorem store_of_step {event : GovernanceEvent} (stepped : state.step cfg event = some next) :
    next.store = state.store ∨ (∃ now stop, event = .bootstrap now stop) ∨
      (∃ request actor errors now stop, event = .stage request actor errors now stop) ∨
        (∃ review now stop, event = .recordReview review now stop) ∨
          ∃ now stop, event = .finishApply now stop := by
  cases event with
  | bootstrap now stop => exact .inr (.inl ⟨now, stop, rfl⟩)
  | stage request actor errors now stop =>
      exact .inr (.inr (.inl ⟨request, actor, errors, now, stop, rfl⟩))
  | recordReview review now stop => exact .inr (.inr (.inr (.inl ⟨review, now, stop, rfl⟩)))
  | finishApply now stop => exact .inr (.inr (.inr (.inr ⟨now, stop, rfl⟩)))
  | readForReview versionId reviewer decision note =>
      left
      change state.readForReview versionId reviewer decision note = some next at stepped
      unfold GovernanceState.readForReview at stepped
      split at stepped
      · cases stepped
        rfl
      · cases stepped
        rfl
  | beginApply call errors =>
      left
      change state.beginApply cfg call errors = some next at stepped
      unfold GovernanceState.beginApply at stepped
      split at stepped
      · cases stepped
        rfl
      split at stepped
      · cases stepped
        rfl
      · cases stepped
        rfl
  | install call =>
      left
      change state.install cfg call = some next at stepped
      unfold GovernanceState.install at stepped
      split at stepped
      case isFalse => cases stepped
      obtain ⟨documents, _, rfl⟩ := Option.map_eq_some_iff.mp stepped
      rfl
  | abandon call =>
      left
      change state.abandon call = some next at stepped
      unfold GovernanceState.abandon at stepped
      split at stepped
      case isFalse => cases stepped
      cases stepped
      rfl
  | failInstalled =>
      left
      change state.failInstalled = some next at stepped
      unfold GovernanceState.failInstalled at stepped
      split at stepped
      case h_2 => cases stepped
      cases stepped
      rfl
  | probe =>
      left
      change state.probe = some next at stepped
      unfold GovernanceState.probe at stepped
      split at stepped
      · cases stepped
      · cases stepped
        rfl
      · cases stepped
  | refreshInstall =>
      left
      change state.refreshInstall cfg = some next at stepped
      unfold GovernanceState.refreshInstall at stepped
      split at stepped
      case h_2 => cases stepped
      obtain ⟨documents, _, rfl⟩ := Option.map_eq_some_iff.mp stepped
      rfl
  | refreshFails =>
      left
      obtain ⟨_, _, rfl⟩ := Option.map_eq_some_iff.mp stepped
      rfl
  | refreshEnds =>
      left
      change state.refreshEnds = some next at stepped
      unfold GovernanceState.refreshEnds at stepped
      split at stepped
      case h_2 => cases stepped
      cases stepped
      rfl

/-- A recorded decision leaves every status alone. -/
theorem status_recordReview (under : UnderReview cfg state) {review : ReviewCall} {now : Nat}
    {stop : Option Nat} (stepped : state.recordReview cfg review now stop = some next) {id : Nat}
    {version after : ConfigVersion F} (read : state.store.readManifest id = .ok version)
    (readAfter : next.store.readManifest id = .ok after) : after.status = version.status := by
  unfold GovernanceState.recordReview at stepped
  split at stepped
  case isFalse => cases stepped
  dsimp only at stepped
  split at stepped
  · cases stepped
    obtain rfl := Except.ok.inj (read.symm.trans readAfter)
    rfl
  rename_i plan planned
  obtain ⟨found, readFound, _, _, _, rfl⟩ := addApproval_eq_ok_iff.mp planned
  obtain ⟨store, ran, rfl⟩ := Option.map_eq_some_iff.mp stepped
  obtain ⟨count, rfl, _⟩ := runPlan_eq_some ran
  have named := under.named review.versionId found readFound
  have reviewed : state.store.readManifest
      (reviewedVersion found (GovernanceState.reviewRecord cfg review now)).toConfigManifest.id =
        .ok found := (congrArg state.store.readManifest named).trans readFound
  by_cases early : count < (writeManifest
      (reviewedVersion found (GovernanceState.reviewRecord cfg review now)).toConfigManifest).length
  · have same := (readManifest_writeManifest_take _ early id).symm.trans readAfter
    obtain rfl := Except.ok.inj (read.symm.trans same)
    rfl
  · rw [List.take_of_length_le (Nat.not_lt.mp early), readManifest_writeManifest reviewed]
      at readAfter
    split at readAfter
    · rename_i own
      cases readAfter
      obtain rfl := Except.ok.inj (read.symm.trans ((congrArg _ own.symm).trans reviewed))
      rfl
    · obtain rfl := Except.ok.inj (read.symm.trans readAfter)
      rfl

/-- Only the end of an `apply` makes a staged version active. -/
theorem call_of_firstActivation (under : UnderReview cfg state) {event : GovernanceEvent}
    (stepped : state.step cfg event = some next) {version : ConfigVersion F}
    (first : FirstActivation state next version) :
    ∃ staged, state.store.readManifest version.id = .ok staged ∧
      staged.status = .staged ∧ SameReview (some version.id) staged version ∧
        next.decisions = state.decisions ∧
          ∃ call ∈ state.inProgress, call.versionId = version.id := by
  obtain ⟨⟨staged, read, isStaged⟩, readAfter, active⟩ := first
  have unmoved : ∀ {activated : Option Nat}, Evolves activated state.store next.store →
      SameReview activated staged version := by
    intro activated evolves
    obtain ⟨after, found, same⟩ := evolves.kept version.id staged read
    obtain rfl := Except.ok.inj (found.symm.trans readAfter)
    exact same
  have never : ¬ Evolves none state.store next.store := by
    intro evolves
    rcases (unmoved evolves).status with same | inactive | ⟨_, absurd⟩
    · exact nomatch active.symm.trans (same.trans isStaged)
    · exact nomatch active.symm.trans inactive
    · cases absurd
  rcases store_of_step stepped with same | ⟨now, stop, rfl⟩ |
    ⟨request, actor, errors, now, stop, rfl⟩ | ⟨review, now, stop, rfl⟩ | ⟨now, stop, rfl⟩
  · exact (never (evolves_of_same fun _ => by rw [same])).elim
  · obtain ⟨store, rfl, evolves⟩ := bootstrap_evolves stepped
    exact (never evolves).elim
  · obtain ⟨store, rfl, evolves⟩ := stage_evolves stepped
    exact (never evolves).elim
  · have same := status_recordReview under stepped read readAfter
    exact nomatch active.symm.trans (same.trans isStaged)
  · obtain ⟨call, inside, evolves, decisions, _, _⟩ := evolves_finishApply under stepped
    have same := unmoved evolves
    have own : call.versionId = version.id := by
      rcases same.status with unchanged | inactive | ⟨_, named⟩
      · exact nomatch active.symm.trans (unchanged.trans isStaged)
      · exact nomatch active.symm.trans inactive
      · exact (Option.some.inj named).trans same.id.symm
    exact ⟨staged, read, isStaged, own ▸ same, decisions, call, inside, own⟩

/-- Every version that becomes active for the first time has its approvals, and a
fingerprint stands for one quadruple of documents. -/
theorem fourEyes_of_governed (injective : Function.Injective cfg.digest)
    (governed : Governed cfg (KeepsApprovals cfg) state) {event : GovernanceEvent}
    (stepped : state.step cfg event = some next) :
    (∀ version, FirstActivation state next version →
      next.Approved cfg.requireConfigApprovals version) ∧
        Function.Injective (versionFingerprint cfg.digest) := by
  refine ⟨fun version first => ?_, versionFingerprint_injective injective⟩
  have under := underReview_governed governed
  obtain ⟨staged, read, isStaged, same, decisions, call, inside, own⟩ :=
    call_of_firstActivation under stepped first
  obtain ⟨counted, readCounted, enough⟩ := under.counted call inside
  obtain rfl := Except.ok.inj ((own ▸ readCounted).symm.trans read)
  refine ⟨validApprovers cfg.digest counted, List.nodup_dedup _, enough isStaged,
    fun reviewer member => ?_⟩
  obtain ⟨record, recorded, rfl, approved, _⟩ := mem_validApprovers.mp member
  obtain ⟨author, _, latest⟩ := under.recorded version.id counted read record recorded
  refine ⟨fun absurd => author (absurd.trans same.author), ?_⟩
  unfold GovernanceState.latestDecision
  rw [decisions, same.documents, same.id, ← approved]
  exact latest

end Invariant

/-! ## Runs -/

/-- A deployment that asks for one approval, with bytes as their own digest. -/
def oneApproval : GovernanceConfig (List UInt8) where
  files := ⟨"connections: []", "default: \x7b\x7d", none, none⟩
  requireConfigApprovals := 1
  digest := id

/-- The call of `ana` that applies the second version. -/
def anaApplies : ApplyCall :=
  ⟨0, 2, "ana"⟩

/-- A decision of `bob` on the second version. -/
def bobDecides (decision : ConfigApprovalDecision) : List GovernanceEvent :=
  [.readForReview 2 "bob" decision none,
    .recordReview ⟨2, "bob", decision, none, oneApproval.documents⟩ 2 none]

/-- `ana` stages a version, `bob` approves it, and `ana` applies it. -/
def approvedEvents : List GovernanceEvent :=
  [.bootstrap 0 none, .stage ⟨none, none, none, none, none⟩ "ana" [] 1 none] ++
    bobDecides .approve ++ [.beginApply anaApplies [], .install anaApplies]

/-- The state in which the stale engines are disposed of. -/
def approvedState : GovernanceState (List UInt8) :=
  (runEvents oneApproval oneApproval.initial approvedEvents).getD oneApproval.initial

/-- The state after the version was marked active. -/
def activatedState : GovernanceState (List UInt8) :=
  (approvedState.step oneApproval (.finishApply 3 none)).getD approvedState

theorem approvedState_governed :
    Governed oneApproval (KeepsApprovals oneApproval) approvedState := by
  have ran : runEvents oneApproval oneApproval.initial approvedEvents = some approvedState := rfl
  refine governed_of_run .start ?_ ran
  refine ⟨trivial, fun _ _ => ⟨trivial, fun _ _ => ⟨trivial, fun _ _ => ⟨?_, fun _ _ => ?_⟩⟩⟩⟩
  · exact fun rejected => nomatch rejected
  · exact ⟨trivial, fun _ _ => ⟨trivial, fun _ _ => trivial⟩⟩

theorem fourEyes_approvedState :
    (∀ version, FirstActivation approvedState activatedState version →
      activatedState.Approved 1 version) ∧
        Function.Injective (versionFingerprint oneApproval.digest) :=
  fourEyes_of_governed Function.injective_id approvedState_governed
    (rfl : approvedState.step oneApproval (.finishApply 3 none) = some activatedState)

/-- While the engines are disposed of, `bob` rejects the version after all. -/
def rejectedState : GovernanceState (List UInt8) :=
  (runEvents oneApproval approvedState (bobDecides .reject)).getD approvedState

/-- The state after it was marked active all the same. -/
def unapprovedState : GovernanceState (List UInt8) :=
  (rejectedState.step oneApproval (.finishApply 3 none)).getD rejectedState

/-- A rejection that is recorded while a version is being applied is not seen. -/
theorem not_fourEyes_unapprovedState :
    ¬ ∀ (cfg : GovernanceConfig (List UInt8)) (state next : GovernanceState (List UInt8))
        (event : GovernanceEvent), 0 < cfg.requireConfigApprovals →
      Function.Injective cfg.digest → Governed cfg (fun _ _ => True) state →
        state.step cfg event = some next →
          (∀ version, FirstActivation state next version →
            next.Approved cfg.requireConfigApprovals version) ∧
              Function.Injective (versionFingerprint cfg.digest) := by
  intro fourEyes
  have ran : runEvents oneApproval oneApproval.initial (approvedEvents ++ bobDecides .reject) =
      some rejectedState := rfl
  obtain ⟨version, read, active, named⟩ : ∃ version,
      unapprovedState.store.readManifest 2 = .ok version ∧ version.status = .active ∧
        version.id = 2 := ⟨_, rfl, rfl, rfl⟩
  obtain ⟨staged, readStaged, isStaged⟩ : ∃ staged,
      rejectedState.store.readManifest 2 = .ok staged ∧ staged.status = .staged := ⟨_, rfl, rfl⟩
  have first : FirstActivation rejectedState unapprovedState version :=
    ⟨⟨staged, named ▸ readStaged, isStaged⟩, named ▸ read, active⟩
  obtain ⟨reviewers, _, enough, each⟩ := (fourEyes oneApproval rejectedState unapprovedState
    (.finishApply 3 none) (by decide) Function.injective_id
      (governed_of_run .start (eachEvent_true _ _) ran) rfl).1 version first
  obtain ⟨reviewer, member⟩ := List.exists_mem_of_length_pos enough
  obtain ⟨_, latest⟩ := each reviewer member
  have decisions : unapprovedState.decisions =
      [⟨2, "bob", .approve, oneApproval.documents⟩, ⟨2, "bob", .reject, oneApproval.documents⟩] :=
    rfl
  unfold GovernanceState.latestDecision at latest
  rw [decisions, named] at latest
  by_cases bob : "bob" = reviewer
  · subst bob
    exact absurd (Option.some.inj latest) (by simp)
  · simp [bob] at latest

end QueryGate
