import QueryGate.Admin.VersionStore
import QueryGate.Foundation.Framing

/-! # Governing the live configuration

`stage`, `approve` and `apply` of `admin/service.py`, `reload_config` and the credential
lease monitor of `config_reload.py`, on one store of versions. `apply` and `stage` run on
the event loop, where a call runs alone until it suspends: `apply` suspends while it waits
for the catalog lock and while it disposes of stale engines, after the stores are installed
and before the version is marked active. A review runs in a thread, reads the version and
then records a decision under the lock of the store. The monitor reads the pointer in a
thread and reloads from what it read. A run is any order of these steps, each of which may
fail between two writes.
-/

namespace QueryGate

open Foundation

variable {F : Type}

/-! ## Fingerprints -/

/-- What the hash is fed for one document. -/
def documentFrame : Option String → List UInt8
  | none => 0 :: encodeUtf8 "none".toList ++ [0]
  | some text => 1 :: lengthPrefixed 2 (encodeUtf8 text.toList)

/-- `(connections_yaml, policy_yaml, catalog_yaml, templates_yaml)`. -/
def VersionDocuments.texts (documents : VersionDocuments) : List (Option String) :=
  [some documents.connectionsYaml, some documents.policyYaml, documents.catalogYaml,
    documents.templatesYaml]

/-- `_version_fingerprint`, for the digest of the bytes that the hash is fed. -/
def versionFingerprint (digest : List UInt8 → F) (documents : VersionDocuments) : F :=
  digest (documents.texts.flatMap documentFrame)

theorem documentFrame_selfDelimiting : SelfDelimiting documentFrame := by
  intro first second front back same
  cases first with
  | none =>
      cases second with
      | none =>
          exact ⟨rfl, List.append_cancel_left same⟩
      | some text => exact absurd (List.cons.inj same).1 (by decide)
  | some text =>
      cases second with
      | none => exact absurd (List.cons.inj same).1 (by decide)
      | some other =>
          obtain ⟨bytes, tails⟩ :=
            lengthPrefixed_selfDelimiting (by decide) _ _ _ _ (List.cons.inj same).2
          exact ⟨congrArg some (String.toList_inj.mp (encodeUtf8_injective bytes)), tails⟩

/-- Different documents have different fingerprints, as far as the digest tells bytes
apart. -/
theorem versionFingerprint_injective {digest : List UInt8 → F}
    (injective : Function.Injective digest) : Function.Injective (versionFingerprint digest) := by
  intro first second same
  have texts := documentFrame_selfDelimiting.flatMap_inj (by rfl) (injective same)
  obtain ⟨connections, policy, catalog, templates⟩ := first
  simp only [VersionDocuments.texts, List.cons.injEq, Option.some.injEq, and_true] at texts
  obtain ⟨rfl, rfl, rfl, rfl⟩ := texts
  rfl

/-! ## State -/

/-- What the deployment fixes: its own files, the number of approvals it asks for, and the
digest. -/
structure GovernanceConfig (F : Type) where
  files : VersionDocuments
  requireConfigApprovals : Nat
  digest : List UInt8 → F

/-- The deployment's own documents, as they are read. -/
def GovernanceConfig.documents (cfg : GovernanceConfig F) : VersionDocuments :=
  cfg.files.asRead

/-- A call of `apply` that passed its gate. -/
structure ApplyCall where
  call : Nat
  versionId : Nat
  actor : String
  deriving DecidableEq

/-- A call of `approve` that has read the version. -/
structure ReviewCall where
  versionId : Nat
  reviewer : String
  decision : ConfigApprovalDecision
  note : Option String
  documents : VersionDocuments
  deriving DecidableEq

/-- Who holds the catalog lock, having installed the stores. -/
inductive LockHolder where
  | apply (call : ApplyCall) (replaced : VersionDocuments)
  | refresh

/-- A decision that was recorded, on the documents that the reviewer was shown. -/
structure RecordedDecision where
  versionId : Nat
  reviewer : String
  decision : ConfigApprovalDecision
  documents : VersionDocuments
  deriving DecidableEq

/-- A version that became the active one, and what the stores held before. -/
structure Activation where
  versionId : Nat
  replaced : VersionDocuments

/-- The process and its disk. `loaded` are the documents that the process-wide stores were
built from. -/
structure GovernanceState (F : Type) where
  store : ConfigVersionStore F := {}
  loaded : VersionDocuments
  waiting : List ApplyCall := []
  holder : Option LockHolder := none
  probed : Option (Option Nat) := none
  reviews : List ReviewCall := []
  decisions : List RecordedDecision := []
  activations : List Activation := []

/-! ## What the calls compute -/

/-- The reviewers that `_count_valid_approvals` counts. -/
def validApprovers [DecidableEq F] (digest : List UInt8 → F) (version : ConfigVersion F) :
    List String :=
  ((version.approvals.filter fun record => decide (record.decision = .approve) &&
      decide (record.contentFingerprint =
        versionFingerprint digest version.toVersionDocuments)).map
    ConfigApprovalRecord.approver).dedup

/-- `_count_valid_approvals`. -/
def countValidApprovals [DecidableEq F] (digest : List UInt8 → F) (version : ConfigVersion F) :
    Nat :=
  (validApprovers digest version).length

/-- The checks of `apply` before it reloads, for what the validation of the documents
found. -/
def applyGate [DecidableEq F] (cfg : GovernanceConfig F) (version : ConfigVersion F)
    (errors : List String) : Gate Unit := do
  refuse (errors ≠ []) (configValidationError ("; ".intercalate errors))
  let approvals := countValidApprovals cfg.digest version
  refuse (version.status ≠ .inactive ∧ 0 < cfg.requireConfigApprovals ∧
      approvals < cfg.requireConfigApprovals)
    (policyViolationError
      (s!"Version {version.id} has {approvals} of the {cfg.requireConfigApprovals} " ++
        "required approvals (from distinct reviewers other than the author) and " ++
        "cannot be applied yet."))

/-- The documents of a request to stage, those it leaves out being the active version's. -/
structure StageRequest where
  connectionsYaml : Option String
  policyYaml : Option String
  catalogYaml : Option String
  templatesYaml : Option String
  description : Option String

/-- `_resolve_candidate`. -/
def resolveCandidate (request : StageRequest) (active : ConfigVersion F) : VersionDocuments where
  connectionsYaml := request.connectionsYaml.getD active.connectionsYaml
  policyYaml := request.policyYaml.getD active.policyYaml
  catalogYaml := request.catalogYaml.or active.catalogYaml
  templatesYaml := request.templatesYaml.or active.templatesYaml

/-- What is loaded for a version: without templates of its own, the deployment's are. -/
def loadedFrom (cfg : GovernanceConfig F) (documents : VersionDocuments) : VersionDocuments :=
  { documents with templatesYaml := documents.templatesYaml.or cfg.documents.templatesYaml }

/-- The documents in the files of a version. -/
def ConfigVersionStore.loadDocuments (store : ConfigVersionStore F) (id : Nat) :
    Option VersionDocuments :=
  match (store.dir id).connections, (store.dir id).policy with
  | some connections, some policy =>
      some (VersionDocuments.asRead
        ⟨connections, policy, (store.dir id).catalog, (store.dir id).templates⟩)
  | _, _ => none

/-- What a reload from `_current_source_paths` loads, for the pointer that was read. -/
def sourceDocuments (cfg : GovernanceConfig F) (store : ConfigVersionStore F) :
    Option Nat → Option VersionDocuments
  | none => some cfg.documents
  | some id => (store.loadDocuments id).map (loadedFrom cfg)

/-- The store after the writes of a plan, all of them or those before a failure. -/
def runPlan (store : ConfigVersionStore F) (plan : StorePlan F) :
    Option Nat → Option (ConfigVersionStore F)
  | none => some (plan.writes.foldl ConfigVersionStore.write store)
  | some count =>
      if count < plan.writes.length then
        some ((plan.writes.take count).foldl ConfigVersionStore.write store)
      else none

/-! ## Steps -/

/-- The steps of a run. `stop` is the number of writes before a failure. -/
inductive GovernanceEvent where
  | bootstrap (now : Nat) (stop : Option Nat)
  | stage (request : StageRequest) (actor : String) (errors : List String) (now : Nat)
      (stop : Option Nat)
  | readForReview (versionId : Nat) (reviewer : String) (decision : ConfigApprovalDecision)
      (note : Option String)
  | recordReview (review : ReviewCall) (now : Nat) (stop : Option Nat)
  | beginApply (call : ApplyCall) (errors : List String)
  | install (call : ApplyCall)
  | abandon (call : ApplyCall)
  | failInstalled
  | finishApply (now : Nat) (stop : Option Nat)
  | probe
  | refreshInstall
  | refreshFails
  | refreshEnds

namespace GovernanceState

variable [DecidableEq F] (cfg : GovernanceConfig F) (state : GovernanceState F)

/-- `_bootstrap`. -/
def bootstrap (now : Nat) (stop : Option Nat) : Option (GovernanceState F) :=
  match state.store.bootstrapIfEmpty cfg.documents now with
  | .error _ => some state
  | .ok plan => (runPlan state.store plan stop).map fun store => { state with store }

/-- `stage`, once the store was seeded. -/
def stage (request : StageRequest) (actor : String) (errors : List String) (now : Nat)
    (stop : Option Nat) : Option (GovernanceState F) :=
  match state.store.getActiveVersion with
  | .ok (some active) =>
      if errors ≠ [] then some state
      else
        match state.store.createStagedVersion (resolveCandidate request active)
            request.description actor now with
        | .error _ => some state
        | .ok plan => (runPlan state.store plan stop).map fun store => { state with store }
  | _ => none

/-- `approve`, up to the fingerprint of the version it read. -/
def readForReview (versionId : Nat) (reviewer : String) (decision : ConfigApprovalDecision)
    (note : Option String) : Option (GovernanceState F) :=
  match state.store.getVersion versionId with
  | .error _ => some state
  | .ok version =>
      some { state with
        reviews := state.reviews ++
          [⟨versionId, reviewer, decision, note, version.toVersionDocuments⟩] }

/-- The record of a review. -/
def reviewRecord (review : ReviewCall) (now : Nat) : ConfigApprovalRecord F where
  approver := review.reviewer
  decision := review.decision
  decidedAt := now
  contentFingerprint := versionFingerprint cfg.digest review.documents
  note := review.note

/-- The rest of `approve`. -/
def recordReview (review : ReviewCall) (now : Nat) (stop : Option Nat) :
    Option (GovernanceState F) :=
  if review ∈ state.reviews then
    let left := { state with reviews := state.reviews.erase review }
    match state.store.addApproval review.versionId (reviewRecord cfg review now) with
    | .error _ => some left
    | .ok plan =>
        (runPlan state.store plan stop).map fun store =>
          { left with
            store := store
            decisions := if stop.isNone then
                state.decisions ++
                  [⟨review.versionId, review.reviewer, review.decision, review.documents⟩]
              else state.decisions }
  else none

/-- `apply`, up to the point where it waits for the catalog lock. -/
def beginApply (call : ApplyCall) (errors : List String) : Option (GovernanceState F) :=
  match state.store.getVersion call.versionId with
  | .error _ => some state
  | .ok version =>
      match applyGate cfg version errors with
      | .error _ => some state
      | .ok () => some { state with waiting := state.waiting ++ [call] }

/-- `reload_config` takes the lock, loads the files of the version and installs them. -/
def install (call : ApplyCall) : Option (GovernanceState F) :=
  if call ∈ state.waiting ∧ state.holder.isNone then
    (state.store.loadDocuments call.versionId).map fun documents =>
      { state with
        loaded := loadedFrom cfg documents
        waiting := state.waiting.erase call
        holder := some (.apply call state.loaded) }
  else none

/-- A call fails, or is cancelled, before it installs anything. -/
def abandon (call : ApplyCall) : Option (GovernanceState F) :=
  if call ∈ state.waiting then some { state with waiting := state.waiting.erase call } else none

/-- A call fails, or is cancelled, while it disposes of stale engines. -/
def failInstalled : Option (GovernanceState F) :=
  match state.holder with
  | some (.apply _ _) => some { state with holder := none }
  | _ => none

/-- The lock is released and the version is marked active, with no suspension between. -/
def finishApply (now : Nat) (stop : Option Nat) : Option (GovernanceState F) :=
  match state.holder with
  | some (.apply call replaced) =>
      let left := { state with holder := none }
      match state.store.markActive call.versionId call.actor now with
      | .error _ => some left
      | .ok plan =>
          (runPlan state.store plan stop).map fun store =>
            { left with
              store := store
              activations := if stop.isNone then
                  state.activations ++ [⟨call.versionId, replaced⟩]
                else state.activations }
  | _ => none

/-- The monitor resolves the files that a reload should read now. -/
def probe : Option (GovernanceState F) :=
  match state.probed, state.holder with
  | none, some .refresh => none
  | none, _ => some { state with probed := some state.store.current }
  | some _, _ => none

/-- The monitor's reload takes the lock and installs what it loads. -/
def refreshInstall : Option (GovernanceState F) :=
  match state.probed, state.holder with
  | some source, none =>
      (sourceDocuments cfg state.store source).map fun documents =>
        { state with loaded := documents, probed := none, holder := some .refresh }
  | _, _ => none

/-- No credential was due, or the reload failed before it installed anything. -/
def refreshFails : Option (GovernanceState F) :=
  state.probed.map fun _ => { state with probed := none }

/-- The monitor's reload ends, whatever became of the disposal. -/
def refreshEnds : Option (GovernanceState F) :=
  match state.holder with
  | some .refresh => some { state with holder := none }
  | _ => none

/-- One step, where it is possible. -/
def step : GovernanceEvent → Option (GovernanceState F)
  | .bootstrap now stop => state.bootstrap cfg now stop
  | .stage request actor errors now stop => state.stage request actor errors now stop
  | .readForReview versionId reviewer decision note =>
      state.readForReview versionId reviewer decision note
  | .recordReview review now stop => state.recordReview cfg review now stop
  | .beginApply call errors => state.beginApply cfg call errors
  | .install call => state.install cfg call
  | .abandon call => state.abandon call
  | .failInstalled => state.failInstalled
  | .finishApply now stop => state.finishApply now stop
  | .probe => state.probe
  | .refreshInstall => state.refreshInstall cfg
  | .refreshFails => state.refreshFails
  | .refreshEnds => state.refreshEnds

end GovernanceState

/-- The state of a process that was started from the deployment's own files. -/
def GovernanceConfig.initial (cfg : GovernanceConfig F) : GovernanceState F :=
  { loaded := cfg.documents }

/-- The states of the runs whose steps all meet a condition. -/
inductive Governed [DecidableEq F] (cfg : GovernanceConfig F)
    (condition : GovernanceState F → GovernanceEvent → Prop) : GovernanceState F → Prop
  | start : Governed cfg condition cfg.initial
  | step {state next : GovernanceState F} {event : GovernanceEvent}
      (reached : Governed cfg condition state) (met : condition state event)
      (stepped : state.step cfg event = some next) : Governed cfg condition next

/-- The state after the steps of a run. -/
def runEvents [DecidableEq F] (cfg : GovernanceConfig F) (state : GovernanceState F) :
    List GovernanceEvent → Option (GovernanceState F)
  | [] => some state
  | event :: rest => (state.step cfg event).bind fun next => runEvents cfg next rest

/-- Every step of a run meets a condition. -/
def EachEvent [DecidableEq F] (cfg : GovernanceConfig F)
    (condition : GovernanceState F → GovernanceEvent → Prop) (state : GovernanceState F) :
    List GovernanceEvent → Prop
  | [] => True
  | event :: rest => condition state event ∧
      ∀ next, state.step cfg event = some next → EachEvent cfg condition next rest

theorem eachEvent_true [DecidableEq F] {cfg : GovernanceConfig F} (state : GovernanceState F)
    (events : List GovernanceEvent) : EachEvent cfg (fun _ _ => True) state events := by
  induction events generalizing state with
  | nil => trivial
  | cons event rest ih => exact ⟨trivial, fun next _ => ih next⟩

theorem governed_of_run [DecidableEq F] {cfg : GovernanceConfig F}
    {condition : GovernanceState F → GovernanceEvent → Prop} {state last : GovernanceState F}
    {events : List GovernanceEvent} (governed : Governed cfg condition state)
    (each : EachEvent cfg condition state events) (ran : runEvents cfg state events = some last) :
    Governed cfg condition last := by
  induction events generalizing state with
  | nil => exact Option.some.inj ran ▸ governed
  | cons event rest ih =>
      obtain ⟨next, stepped, later⟩ := Option.bind_eq_some_iff.mp ran
      exact ih (.step governed each.1 stepped) (each.2 next stepped) later

/-- The calls of `apply` between their gate and their end. -/
def GovernanceState.inProgress (state : GovernanceState F) : List ApplyCall :=
  state.waiting ++
    match state.holder with
    | some (.apply call _) => [call]
    | _ => []

end QueryGate
