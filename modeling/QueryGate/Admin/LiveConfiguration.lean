import QueryGate.Admin.FourEyes
import QueryGate.Admin.StoreRecovery

/-! # The live configuration

The process-wide stores hold what a reload installed, `current.json` names a version, and
versions carry a status. A reload of the credential monitor installs the files of the
version that was active when it looked, and a call of `apply` that fails after it installed
the stores never moves the pointer. Where no reload installs files that the pointer has left
behind, and no call fails between its first and its last change, the three agree whenever no
call is in progress (`agrees_of_governed`).
-/

namespace QueryGate

open Foundation ConfigVersionStore

variable {F : Type}

/-! ## The property -/

/-- The stores, the pointer and the statuses agree. -/
structure Agrees (cfg : GovernanceConfig F) (state : GovernanceState F) : Prop where
  installed : ∀ id, state.store.current = some id → ∃ version,
    state.store.readManifest id = .ok version ∧ version.status = .active ∧
      state.loaded = loadedFrom cfg version.toVersionDocuments
  single : ∀ id version, state.store.readManifest id = .ok version → version.status = .active →
    state.store.current = some id
  previous : ∀ activation, state.activations.getLast? = some activation →
    ∃ version previousId previous,
      state.store.readManifest activation.versionId = .ok version ∧
        version.previousActiveVersionId = some previousId ∧
          state.store.readManifest previousId = .ok previous ∧
            activation.replaced = loadedFrom cfg previous.toVersionDocuments

/-- No reload installs what the pointer has left behind, and no call fails between its first
and its last change of what is active. -/
def StaysLive (cfg : GovernanceConfig F) (state : GovernanceState F) : GovernanceEvent → Prop
  | .bootstrap now stop => ∀ plan count,
      state.store.bootstrapIfEmpty cfg.documents now = .ok plan → stop = some count →
        count + 3 ≤ plan.writes.length
  | .failInstalled => ∀ call replaced, state.holder = some (.apply call replaced) →
      state.store.current = some call.versionId
  | .finishApply _ stop => ∀ call replaced count, state.holder = some (.apply call replaced) →
      stop = some count → state.store.current = some call.versionId ∧ count ≤ 1
  | .refreshInstall => ∀ source, state.probed = some source →
      sourceDocuments cfg state.store source =
        sourceDocuments cfg state.store state.store.current
  | _ => True

/-! ## The invariant -/

/-- The stores hold what the pointer names. -/
def GovernanceState.Current (cfg : GovernanceConfig F) (state : GovernanceState F)
    (documents : VersionDocuments) : Prop :=
  sourceDocuments cfg state.store state.store.current = some documents

/-- What holds between any two steps. -/
structure Live (cfg : GovernanceConfig F) (state : GovernanceState F) : Prop where
  recorded : Recorded (fun id => state.store.current = some id) state.store
  active : ∀ id version, state.store.current = some id →
    state.store.readManifest id = .ok version → version.status = .active
  empty : state.store.current = none → ∀ id version, state.store.readManifest id ≠ .ok version
  idle : (∀ call replaced, state.holder ≠ some (.apply call replaced)) →
    state.Current cfg state.loaded
  applying : ∀ call replaced, state.holder = some (.apply call replaced) →
    state.Current cfg replaced ∧ ∃ version,
      state.store.readManifest call.versionId = .ok version ∧
        state.loaded = loadedFrom cfg version.toVersionDocuments
  waiting : ∀ call ∈ state.waiting, ∃ version,
    state.store.readManifest call.versionId = .ok version
  previous : ∀ activation, state.activations.getLast? = some activation →
    ∃ version previousId previous,
      state.store.readManifest activation.versionId = .ok version ∧
        version.previousActiveVersionId = some previousId ∧
          state.store.readManifest previousId = .ok previous ∧
            activation.replaced = loadedFrom cfg previous.toVersionDocuments

variable {cfg : GovernanceConfig F} {state next : GovernanceState F}

theorem loadDocuments_of_read {store : ConfigVersionStore F} {id : Nat} {version : ConfigVersion F}
    (read : store.readManifest id = .ok version) :
    store.loadDocuments id = some version.toVersionDocuments := by
  obtain ⟨_, connections, policy, first, second, documents⟩ := readManifest_eq_ok_iff.mp read
  unfold ConfigVersionStore.loadDocuments
  rw [first, second]
  exact congrArg some documents.symm

theorem sourceDocuments_of_read {store : ConfigVersionStore F} {id : Nat}
    {version : ConfigVersion F} (read : store.readManifest id = .ok version) :
    sourceDocuments cfg store (some id) =
      some (loadedFrom cfg version.toVersionDocuments) := by
  change (store.loadDocuments id).map (loadedFrom cfg) = _
  rw [loadDocuments_of_read read]
  rfl

theorem live_initial : Live cfg cfg.initial where
  recorded := sound_empty.recorded
  active := fun _ _ current => nomatch current
  empty := fun _ _ _ read => nomatch read
  idle := fun _ => rfl
  applying := fun _ _ held => nomatch held
  waiting := fun _ member => nomatch member
  previous := fun _ last => nomatch last

theorem Live.agrees (live : Live cfg state) (quiet : state.inProgress = []) :
    Agrees cfg state where
  installed := by
    intro id current
    obtain ⟨version, read⟩ := live.recorded.pointed id current
    refine ⟨version, read, live.active id version current read, ?_⟩
    have installed := live.idle fun call replaced held => by
      have member := mem_inProgress_of_holder held
      rw [quiet] at member
      cases member
    unfold GovernanceState.Current at installed
    rw [current, sourceDocuments_of_read read] at installed
    exact (Option.some.inj installed).symm
  single := fun id version read active => (live.recorded.named id version read).2 active
  previous := live.previous

/-! ## Changes that move no version -/

/-- Versions stay as they are but for their review, and new ones are staged. -/
structure Keeps (store next : ConfigVersionStore F) : Prop where
  current : next.current = store.current
  kept : ∀ id version, store.readManifest id = .ok version →
    ∃ after, next.readManifest id = .ok after ∧ after.id = version.id ∧
      after.toVersionDocuments = version.toVersionDocuments ∧ after.status = version.status ∧
        after.previousActiveVersionId = version.previousActiveVersionId
  fresh : ∀ id after, next.readManifest id = .ok after →
    (∃ version, store.readManifest id = .ok version) ∨
      (after.id = id ∧ after.status = .staged ∧ store.current ≠ none)

theorem keeps_of_same {store next : ConfigVersionStore F} (current : next.current = store.current)
    (same : ∀ id, next.readManifest id = store.readManifest id) : Keeps store next where
  current := current
  kept := fun id version read => ⟨version, (same id).trans read, rfl, rfl, rfl, rfl⟩
  fresh := fun id after read => .inl ⟨after, (same id).symm.trans read⟩

section Keeping

variable {store after : ConfigVersionStore F}

theorem Keeps.known (keeps : Keeps store after) {id : Nat} {found : ConfigVersion F}
    (read : after.readManifest id = .ok found) :
    (∃ version, store.readManifest id = .ok version ∧ found.id = version.id ∧
      found.status = version.status) ∨
        (found.id = id ∧ found.status = .staged ∧ store.current ≠ none) := by
  rcases keeps.fresh id found read with ⟨version, readBefore⟩ | new
  · obtain ⟨again, readAgain, same, _, status, _⟩ := keeps.kept id version readBefore
    obtain rfl := Except.ok.inj (readAgain.symm.trans read)
    exact .inl ⟨version, readBefore, same, status⟩
  · exact .inr new

theorem Keeps.recorded (keeps : Keeps store after)
    (recorded : Recorded (fun id => store.current = some id) store) :
    Recorded (fun id => after.current = some id) after where
  named := by
    intro id found read
    rcases keeps.known read with ⟨version, readBefore, same, status⟩ | ⟨named, staged, _⟩
    · obtain ⟨named, active⟩ := recorded.named id version readBefore
      refine ⟨same.trans named, fun is => ?_⟩
      rw [keeps.current]
      exact active (status.symm.trans is)
    · exact ⟨named, fun active => nomatch staged.symm.trans active⟩
  pointed := by
    intro id current
    rw [keeps.current] at current
    obtain ⟨version, read⟩ := recorded.pointed id current
    obtain ⟨found, readAfter, _⟩ := keeps.kept id version read
    exact ⟨found, readAfter⟩

/-- The pointer goes on naming the same documents. -/
theorem Keeps.source (keeps : Keeps store after)
    (recorded : Recorded (fun id => store.current = some id) store) :
    sourceDocuments cfg after after.current = sourceDocuments cfg store store.current := by
  rw [keeps.current]
  cases current : store.current with
  | none => rfl
  | some id =>
      obtain ⟨version, read⟩ := recorded.pointed id current
      obtain ⟨found, readAfter, _, documents, _⟩ := keeps.kept id version read
      rw [sourceDocuments_of_read read, sourceDocuments_of_read readAfter, documents]

end Keeping

/-- A state that differs in its versions' reviews, or in staged versions. -/
theorem live_keeps (live : Live cfg state) (keeps : Keeps state.store next.store)
    (loaded : next.loaded = state.loaded) (holder : next.holder = state.holder)
    (waiting : next.waiting = state.waiting) (activations : next.activations = state.activations) :
    Live cfg next where
  recorded := keeps.recorded live.recorded
  active := by
    intro id found current read
    rw [keeps.current] at current
    obtain ⟨version, readBefore⟩ := live.recorded.pointed id current
    obtain ⟨again, readAgain, _, _, status, _⟩ := keeps.kept id version readBefore
    obtain rfl := Except.ok.inj (readAgain.symm.trans read)
    exact status.trans (live.active id version current readBefore)
  empty := by
    intro current id found read
    rw [keeps.current] at current
    rcases keeps.known read with ⟨version, readBefore, _⟩ | ⟨_, _, named⟩
    · exact live.empty current id version readBefore
    · exact named current
  idle := by
    intro free
    rw [holder] at free
    unfold GovernanceState.Current
    rw [keeps.source live.recorded, loaded]
    exact live.idle free
  applying := by
    intro call replaced held
    rw [holder] at held
    obtain ⟨source, version, read, documents⟩ := live.applying call replaced held
    obtain ⟨found, readAfter, _, same, _⟩ := keeps.kept _ version read
    unfold GovernanceState.Current
    rw [keeps.source live.recorded, loaded]
    exact ⟨source, found, readAfter, same ▸ documents⟩
  waiting := by
    intro call member
    rw [waiting] at member
    obtain ⟨version, read⟩ := live.waiting call member
    obtain ⟨found, readAfter, _⟩ := keeps.kept _ version read
    exact ⟨found, readAfter⟩
  previous := by
    intro activation last
    rw [activations] at last
    obtain ⟨version, previousId, previous, read, recorded, readPrevious, replaced⟩ :=
      live.previous activation last
    obtain ⟨found, readAfter, _, _, _, same⟩ := keeps.kept _ version read
    obtain ⟨former, readFormer, _, documents, _⟩ := keeps.kept _ previous readPrevious
    exact ⟨found, previousId, former, readAfter, same.trans recorded, readFormer,
      documents ▸ replaced⟩

/-! ## Writes that move no version -/

section Writes

variable {store : ConfigVersionStore F}

/-- Only the rename of `current.json` moves the pointer. -/
theorem current_foldl {writes : List (StoreWrite F)}
    (others : ∀ made ∈ writes, made ≠ .replaceCurrent) :
    (writes.foldl ConfigVersionStore.write store).current = store.current := by
  induction writes generalizing store with
  | nil => rfl
  | cons first rest ih =>
      refine (ih fun made member => others made (List.mem_cons_of_mem _ member)).trans ?_
      cases first with
      | replaceCurrent => exact (others _ (List.mem_cons_self ..) rfl).elim
      | makeDir id => rfl
      | document id file text => rfl
      | manifestTmp id manifest => rfl
      | replaceManifest id => rfl
      | currentTmp id => rfl

theorem not_replaceCurrent_writeManifest {manifest : ConfigManifest F} :
    ∀ made ∈ writeManifest manifest, made ≠ StoreWrite.replaceCurrent := by
  intro made member
  rcases List.mem_cons.mp member with rfl | last
  · exact nofun
  · rw [List.mem_singleton.mp last]
    exact nofun

theorem not_replaceCurrent_writeVersion {manifest : ConfigManifest F}
    {documents : VersionDocuments} :
    ∀ made ∈ writeVersion manifest documents, made ≠ StoreWrite.replaceCurrent := by
  intro made member
  rcases List.mem_append.mp member with content | last
  · rcases kind_of_mem_writeContent content with rfl | ⟨file, text, rfl⟩
    · exact nofun
    · exact nofun
  · exact not_replaceCurrent_writeManifest made last

theorem keeps_writeManifest_take (manifest : ConfigManifest F) {count : Nat}
    (early : count < (writeManifest manifest).length) :
    Keeps store (((writeManifest manifest).take count).foldl ConfigVersionStore.write store) :=
  keeps_of_same
    (current_foldl fun made member =>
      not_replaceCurrent_writeManifest made (List.mem_of_mem_take member))
    (readManifest_writeManifest_take manifest early)

/-- A decision changes the review of its version alone. -/
theorem keeps_reviewed {version : ConfigVersion F} {record : ConfigApprovalRecord F}
    (read : store.readManifest version.id = .ok version) :
    Keeps store ((writeManifest (reviewedVersion version record).toConfigManifest).foldl
      ConfigVersionStore.write store) := by
  have reviewed : store.readManifest
      (reviewedVersion version record).toConfigManifest.id = .ok version := read
  refine ⟨current_foldl not_replaceCurrent_writeManifest, fun id found readFound => ?_,
    fun id after readAfter => ?_⟩
  · rw [readManifest_writeManifest reviewed]
    by_cases same : version.id = id
    · obtain rfl := Except.ok.inj ((same ▸ read).symm.trans readFound)
      exact ⟨_, if_pos same, rfl, rfl, rfl, rfl⟩
    · exact ⟨found, (if_neg same).trans readFound, rfl, rfl, rfl, rfl⟩
  · rw [readManifest_writeManifest reviewed] at readAfter
    by_cases same : version.id = id
    · exact .inl ⟨version, same ▸ read⟩
    · exact .inl ⟨after, (if_neg same).symm.trans readAfter⟩

/-- A new version that is staged, or cut before its manifest is in place. -/
theorem keeps_writeVersion_take {manifest : ConfigManifest F} {documents : VersionDocuments}
    (absent : manifest.id ∉ dictKeys store.versions) {count : Nat}
    (staged : count < (writeVersion manifest documents).length ∨
      (manifest.status = .staged ∧ store.current ≠ none)) :
    Keeps store (((writeVersion manifest documents).take count).foldl ConfigVersionStore.write
      store) := by
  have current : (((writeVersion manifest documents).take count).foldl ConfigVersionStore.write
      store).current = store.current :=
    current_foldl fun made member =>
      not_replaceCurrent_writeVersion made (List.mem_of_mem_take member)
  by_cases early : count < (writeVersion manifest documents).length
  · exact keeps_of_same current (readManifest_writeVersion_take absent early)
  obtain ⟨staged, named⟩ := staged.resolve_left early
  refine ⟨current, ?_, ?_⟩
  · rw [List.take_of_length_le (Nat.not_lt.mp early)]
    intro id version read
    have apart : manifest.id ≠ id := fun same => absent (same ▸ mem_of_readManifest read)
    exact ⟨version, ((readManifest_writeVersion absent id).trans (if_neg apart)).trans read, rfl,
      rfl, rfl, rfl⟩
  · rw [List.take_of_length_le (Nat.not_lt.mp early)]
    intro id after readAfter
    rw [readManifest_writeVersion absent] at readAfter
    by_cases own : manifest.id = id
    · rw [if_pos own] at readAfter
      cases readAfter
      exact .inr ⟨own, staged, named⟩
    · exact .inl ⟨after, (if_neg own).symm.trans readAfter⟩

end Writes

/-! ## Steps -/

/-- The deployment's own documents, seeded as a version, are loaded as they are. -/
theorem loadedFrom_documents (cfg : GovernanceConfig F) :
    loadedFrom cfg cfg.documents.asRead = cfg.documents := by
  have read : cfg.documents.asRead = cfg.documents := cfg.files.asRead_asRead
  unfold loadedFrom
  rw [read, Option.or_self]

/-- Seeding: the first version holds what the process was started from. -/
theorem live_seeded (live : Live cfg state) (fresh : state.store.current = none) {now : Nat}
    {version : ConfigVersion F}
    (seeded : version = seededVersion cfg.documents now state.store.nextId)
    (store : next.store = (writeVersion version.toConfigManifest cfg.documents ++
      writeCurrent version.id).foldl ConfigVersionStore.write state.store)
    (loaded : next.loaded = state.loaded) (holder : next.holder = state.holder)
    (waiting : next.waiting = state.waiting) (activations : next.activations = state.activations) :
    Live cfg next := by
  have absent : version.toConfigManifest.id ∉ dictKeys state.store.versions := by
    rw [seeded]
    exact nextId_not_mem state.store
  have active : version.status = .active := by
    rw [seeded]
    rfl
  have current : next.store.current = some version.id := by
    rw [store, List.foldl_append]
    rfl
  have reads : ∀ id, next.store.readManifest id =
      if version.id = id then .ok { version with toVersionDocuments := cfg.documents.asRead }
      else state.store.readManifest id := by
    intro id
    rw [store, List.foldl_append]
    exact readManifest_writeVersion absent id
  have only : ∀ id found, next.store.readManifest id = .ok found →
      version.id = id ∧ found.status = .active ∧ found.id = id := by
    intro id found read
    rw [reads] at read
    by_cases same : version.id = id
    · rw [if_pos same] at read
      cases read
      exact ⟨same, active, same⟩
    · exact (live.empty fresh id found ((if_neg same).symm.trans read)).elim
  have free : ∀ call replaced, state.holder ≠ some (.apply call replaced) := by
    intro call replaced held
    obtain ⟨_, found, read, _⟩ := live.applying call replaced held
    exact live.empty fresh _ found read
  have source : next.Current cfg next.loaded := by
    have before := live.idle free
    unfold GovernanceState.Current at before ⊢
    rw [fresh] at before
    rw [current, sourceDocuments_of_read ((reads version.id).trans (if_pos rfl)), loaded,
      ← Option.some.inj before]
    exact congrArg some (loadedFrom_documents cfg)
  refine ⟨⟨?_, ?_⟩, ?_, ?_, fun _ => source, ?_, ?_, ?_⟩
  · intro id found read
    obtain ⟨same, _, named⟩ := only id found read
    exact ⟨named, fun _ => current.trans (congrArg some same)⟩
  · intro id named
    obtain rfl := Option.some.inj (current.symm.trans named)
    exact ⟨_, (reads version.id).trans (if_pos rfl)⟩
  · exact fun id found _ read => (only id found read).2.1
  · exact fun absurd => nomatch current.symm.trans absurd
  · intro call replaced held
    rw [holder] at held
    exact (free call replaced held).elim
  · intro call member
    rw [waiting] at member
    obtain ⟨found, read⟩ := live.waiting call member
    exact (live.empty fresh _ found read).elim
  · intro activation last
    rw [activations] at last
    obtain ⟨found, _, _, read, _⟩ := live.previous activation last
    exact (live.empty fresh _ found read).elim

theorem live_bootstrap (live : Live cfg state) {now : Nat} {stop : Option Nat}
    (stays : StaysLive cfg state (.bootstrap now stop))
    (stepped : state.bootstrap cfg now stop = some next) : Live cfg next := by
  unfold GovernanceState.bootstrap at stepped
  split at stepped
  · cases stepped
    exact live
  rename_i plan planned
  obtain ⟨store, ran, rfl⟩ := Option.map_eq_some_iff.mp stepped
  obtain ⟨count, rfl, whole, cut⟩ := runPlan_eq_some ran
  rcases bootstrapIfEmpty_eq_ok_iff.mp planned with ⟨active, _, rfl⟩ | ⟨fresh, rfl⟩
  · rw [List.take_nil]
    exact live
  cases stop with
  | none =>
      rw [whole rfl, List.take_length]
      exact live_seeded live fresh rfl rfl rfl rfl rfl rfl
  | some early =>
      obtain ⟨same, _⟩ := cut nofun
      have clear := stays _ count planned same
      simp only [List.length_append, writeCurrent, List.length_cons, List.length_nil] at clear
      have inside : count < (writeVersion
          (seededVersion (F := F) cfg.documents now state.store.nextId).toConfigManifest
            cfg.documents).length := by
        omega
      refine live_keeps live ?_ rfl rfl rfl rfl
      rw [List.take_append_of_le_length inside.le]
      exact keeps_writeVersion_take (nextId_not_mem state.store) (.inl inside)

theorem live_stage (live : Live cfg state) {request : StageRequest} {actor : String}
    {errors : List String} {now : Nat} {stop : Option Nat}
    (stepped : state.stage request actor errors now stop = some next) : Live cfg next := by
  unfold GovernanceState.stage at stepped
  split at stepped
  case h_2 => cases stepped
  rename_i active named
  split at stepped
  · cases stepped
    exact live
  split at stepped
  · cases stepped
    exact live
  rename_i plan planned
  obtain ⟨store, ran, rfl⟩ := Option.map_eq_some_iff.mp stepped
  obtain ⟨count, rfl, _⟩ := runPlan_eq_some ran
  obtain rfl := Except.ok.inj planned
  have current : state.store.current ≠ none := by
    intro absent
    unfold ConfigVersionStore.getActiveVersion at named
    rw [absent] at named
    cases named
  exact live_keeps live
    (keeps_writeVersion_take (nextId_not_mem state.store) (.inr ⟨rfl, current⟩)) rfl rfl rfl rfl

theorem live_recordReview (live : Live cfg state) {review : ReviewCall} {now : Nat}
    {stop : Option Nat} (stepped : state.recordReview cfg review now stop = some next) :
    Live cfg next := by
  unfold GovernanceState.recordReview at stepped
  split at stepped
  case isFalse => cases stepped
  dsimp only at stepped
  split at stepped
  · cases stepped
    exact live_keeps live (keeps_of_same rfl fun _ => rfl) rfl rfl rfl rfl
  rename_i plan planned
  obtain ⟨version, read, _, _, _, rfl⟩ := addApproval_eq_ok_iff.mp planned
  obtain ⟨store, ran, rfl⟩ := Option.map_eq_some_iff.mp stepped
  obtain ⟨count, rfl, _⟩ := runPlan_eq_some ran
  have named := (live.recorded.named review.versionId version read).1
  refine live_keeps live ?_ rfl rfl rfl rfl
  by_cases early : count < (writeManifest
      (reviewedVersion version (GovernanceState.reviewRecord cfg review now)).toConfigManifest).length
  · exact keeps_writeManifest_take _ early
  · rw [List.take_of_length_le (Nat.not_lt.mp early)]
    exact keeps_reviewed (named.symm ▸ read)

/-- A reload installs the version of a call. -/
theorem live_install (live : Live cfg state) {call : ApplyCall}
    (stepped : state.install cfg call = some next) : Live cfg next := by
  unfold GovernanceState.install at stepped
  split at stepped
  case isFalse => cases stepped
  rename_i possible
  obtain ⟨documents, found, rfl⟩ := Option.map_eq_some_iff.mp stepped
  have free : state.holder = none := Option.isNone_iff_eq_none.mp possible.2
  have source := live.idle fun _ _ held => nomatch free.symm.trans held
  obtain ⟨version, read⟩ := live.waiting call possible.1
  obtain rfl := Option.some.inj ((loadDocuments_of_read read).symm.trans found)
  refine ⟨live.recorded, live.active, live.empty, ?_, ?_, ?_, live.previous⟩
  · exact fun absurd => (absurd call state.loaded rfl).elim
  · rintro _ _ ⟨⟩
    exact ⟨source, version, read, rfl⟩
  · exact fun other member => live.waiting other (List.mem_of_mem_erase member)

/-- A call that cannot move the pointer ends. -/
theorem live_released (live : Live cfg state) {call : ApplyCall} {replaced : VersionDocuments}
    (held : state.holder = some (.apply call replaced))
    (current : state.store.current = some call.versionId)
    (keeps : Keeps state.store next.store) (loaded : next.loaded = state.loaded)
    (holder : next.holder = none) (waiting : next.waiting = state.waiting)
    (activations : next.activations = state.activations) : Live cfg next := by
  obtain ⟨_, version, read, documents⟩ := live.applying call replaced held
  have released : Live cfg { state with holder := none } := by
    refine ⟨live.recorded, live.active, live.empty, fun _ => ?_,
      fun _ _ absurd => (nomatch absurd), live.waiting, live.previous⟩
    unfold GovernanceState.Current
    dsimp only
    rw [current, sourceDocuments_of_read read, documents]
  exact live_keeps released keeps loaded holder waiting activations

/-- The pointer moves to the version whose documents were installed. -/
theorem live_marked (live : Live cfg state) {call : ApplyCall} {replaced : VersionDocuments}
    (held : state.holder = some (.apply call replaced)) {now : Nat} {plan : StorePlan F}
    (planned : state.store.markActive call.versionId call.actor now = .ok plan)
    (store : next.store = plan.writes.foldl ConfigVersionStore.write state.store)
    (loaded : next.loaded = state.loaded) (holder : next.holder = none)
    (waiting : next.waiting = state.waiting)
    (activations : next.activations = state.activations ++ [⟨call.versionId, replaced⟩]) :
    Live cfg next := by
  obtain ⟨source, target, readTarget, documents⟩ := live.applying call replaced held
  have named := fun id version read => (live.recorded.named id version read).1
  have evolves := evolves_markActive named planned plan.writes.length
  rw [List.take_length, ← store] at evolves
  obtain ⟨version, deactivated, read, written, rfl⟩ := markActive_eq_ok_iff.mp planned
  obtain rfl := Except.ok.inj (readTarget.symm.trans read)
  obtain ⟨recorded, stillRead, _⟩ := recorded_deactivation live.recorded read written
  have own := named call.versionId target read
  have marked : (deactivated.foldl ConfigVersionStore.write state.store).readManifest
      (markedVersion target call.actor now state.store.current).toConfigManifest.id = .ok target :=
    own ▸ stillRead
  have current : next.store.current = some call.versionId := by
    rw [store, List.foldl_append, List.foldl_append]
    rfl
  have reads : ∀ id, next.store.readManifest id =
      if target.id = id then .ok (markedVersion target call.actor now state.store.current)
      else (deactivated.foldl ConfigVersionStore.write state.store).readManifest id := by
    intro id
    rw [store, List.foldl_append, List.foldl_append]
    exact readManifest_writeManifest marked id
  have readMarked := (reads call.versionId).trans (if_pos own)
  have still : Recorded (fun id => id = target.id)
      ((writeManifest (markedVersion target call.actor now
        state.store.current).toConfigManifest).foldl ConfigVersionStore.write
          (deactivated.foldl ConfigVersionStore.write state.store)) :=
    recorded_writeManifest recorded marked
      (fun id differs same => (differs (same.trans own.symm)).elim) fun _ => rfl
  refine ⟨⟨fun id found readFound => ?_, fun id pointed => ?_⟩, ?_, ?_, fun _ => ?_,
    fun other before absurd => (nomatch holder.symm.trans absurd), ?_, ?_⟩
  · rw [store, List.foldl_append, List.foldl_append] at readFound
    obtain ⟨same, active⟩ := still.named id found readFound
    exact ⟨same, fun is => current.trans (congrArg some (own.symm.trans (active is).symm))⟩
  · obtain rfl := Option.some.inj (current.symm.trans pointed)
    exact ⟨_, readMarked⟩
  · intro id found pointed readFound
    obtain rfl := Option.some.inj (current.symm.trans pointed)
    obtain rfl := Except.ok.inj (readMarked.symm.trans readFound)
    rfl
  · exact fun absurd => nomatch current.symm.trans absurd
  · unfold GovernanceState.Current
    rw [current, sourceDocuments_of_read readMarked, loaded, documents]
    rfl
  · intro other member
    rw [waiting] at member
    obtain ⟨found, readFound⟩ := live.waiting other member
    obtain ⟨after, readAfter, _⟩ := evolves.kept _ found readFound
    exact ⟨after, readAfter⟩
  · intro activation last
    rw [activations, List.getLast?_append] at last
    obtain rfl := Option.some.inj last
    cases former : state.store.current with
    | none => exact (live.empty former _ target read).elim
    | some previousId =>
        obtain ⟨previous, readPrevious⟩ := live.recorded.pointed previousId former
        obtain ⟨after, readAfter, same⟩ := evolves.kept previousId previous readPrevious
        refine ⟨_, previousId, after, readMarked, former, readAfter, ?_⟩
        unfold GovernanceState.Current at source
        rw [former, sourceDocuments_of_read readPrevious] at source
        rw [same.documents]
        exact (Option.some.inj source).symm

theorem live_finishApply (live : Live cfg state) {now : Nat} {stop : Option Nat}
    (stays : StaysLive cfg state (.finishApply now stop))
    (stepped : state.finishApply now stop = some next) : Live cfg next := by
  unfold GovernanceState.finishApply at stepped
  split at stepped
  case h_2 => cases stepped
  rename_i call replaced held
  obtain ⟨_, version, read, _⟩ := live.applying call replaced held
  obtain ⟨deactivated, written⟩ := deactivation_ok live.recorded call.versionId
  have planned : state.store.markActive call.versionId call.actor now = .ok _ :=
    markActive_eq_ok_iff.mpr ⟨version, deactivated, read, written, rfl⟩
  dsimp only at stepped
  rw [planned] at stepped
  obtain ⟨store, ran, rfl⟩ := Option.map_eq_some_iff.mp stepped
  obtain ⟨count, rfl, whole, cut⟩ := runPlan_eq_some ran
  cases stop with
  | none =>
      rw [whole rfl, List.take_length]
      exact live_marked live held planned rfl rfl rfl rfl rfl
  | some early =>
      obtain ⟨same, _⟩ := cut nofun
      obtain ⟨current, first⟩ := stays call replaced count held same
      refine live_released live held current ?_ rfl rfl rfl rfl
      rcases deactivation_eq_ok_iff.mp written with ⟨_, rfl⟩ | ⟨other, _, named, apart, _⟩
      · rw [List.nil_append, List.take_append_of_le_length (by simp [writeManifest]; omega)]
        exact keeps_writeManifest_take _ (by simp [writeManifest]; omega)
      · exact (apart (Option.some.inj (named.symm.trans current))).elim

/-- Step: the stores, the pointer and the statuses go on agreeing. -/
theorem live_step [DecidableEq F] (live : Live cfg state) {event : GovernanceEvent}
    (stays : StaysLive cfg state event) (stepped : state.step cfg event = some next) :
    Live cfg next := by
  cases event with
  | bootstrap now stop => exact live_bootstrap live stays stepped
  | stage request actor errors now stop => exact live_stage live stepped
  | readForReview versionId reviewer decision note =>
      change state.readForReview versionId reviewer decision note = some next at stepped
      unfold GovernanceState.readForReview at stepped
      split at stepped
      · cases stepped
        exact live
      · cases stepped
        exact live_keeps live (keeps_of_same rfl fun _ => rfl) rfl rfl rfl rfl
  | recordReview review now stop => exact live_recordReview live stepped
  | beginApply call errors =>
      change state.beginApply cfg call errors = some next at stepped
      unfold GovernanceState.beginApply at stepped
      split at stepped
      · cases stepped
        exact live
      rename_i version read
      split at stepped
      · cases stepped
        exact live
      cases stepped
      refine ⟨live.recorded, live.active, live.empty, live.idle, live.applying, ?_, live.previous⟩
      intro other member
      rcases List.mem_append.mp member with old | new
      · exact live.waiting other old
      · rw [List.mem_singleton.mp new]
        exact ⟨version, read⟩
  | install call => exact live_install live stepped
  | abandon call =>
      change state.abandon call = some next at stepped
      unfold GovernanceState.abandon at stepped
      split at stepped
      case isFalse => cases stepped
      cases stepped
      exact ⟨live.recorded, live.active, live.empty, live.idle, live.applying,
        fun other member => live.waiting other (List.mem_of_mem_erase member), live.previous⟩
  | failInstalled =>
      change state.failInstalled = some next at stepped
      unfold GovernanceState.failInstalled at stepped
      split at stepped
      case h_2 => cases stepped
      rename_i call replaced held
      cases stepped
      exact live_released live held (stays call replaced held) (keeps_of_same rfl fun _ => rfl)
        rfl rfl rfl rfl
  | finishApply now stop => exact live_finishApply live stays stepped
  | probe =>
      change state.probe = some next at stepped
      unfold GovernanceState.probe at stepped
      split at stepped
      · cases stepped
      · cases stepped
        exact live_keeps live (keeps_of_same rfl fun _ => rfl) rfl rfl rfl rfl
      · cases stepped
  | refreshInstall =>
      change state.refreshInstall cfg = some next at stepped
      unfold GovernanceState.refreshInstall at stepped
      split at stepped
      case h_2 => cases stepped
      rename_i source probed free
      obtain ⟨documents, found, rfl⟩ := Option.map_eq_some_iff.mp stepped
      have current : state.Current cfg documents := (stays source probed).symm.trans found
      exact ⟨live.recorded, live.active, live.empty, fun _ => current,
        fun _ _ absurd => (nomatch absurd), live.waiting, live.previous⟩
  | refreshFails =>
      obtain ⟨_, _, rfl⟩ := Option.map_eq_some_iff.mp stepped
      exact live_keeps live (keeps_of_same rfl fun _ => rfl) rfl rfl rfl rfl
  | refreshEnds =>
      change state.refreshEnds = some next at stepped
      unfold GovernanceState.refreshEnds at stepped
      split at stepped
      case h_2 => cases stepped
      rename_i held
      cases stepped
      have source := live.idle fun _ _ absurd => nomatch held.symm.trans absurd
      exact ⟨live.recorded, live.active, live.empty, fun _ => source,
        fun _ _ absurd => (nomatch absurd), live.waiting, live.previous⟩

/-- Run: the stores hold what the pointer names, but for what a call is about to mark. -/
theorem live_governed [DecidableEq F] (governed : Governed cfg (StaysLive cfg) state) :
    Live cfg state := by
  induction governed with
  | start => exact live_initial
  | step _ met stepped ih => exact live_step ih met stepped

/-- Whenever no call is in progress, the stores, the pointer and the statuses agree. -/
theorem agrees_of_governed [DecidableEq F] (governed : Governed cfg (StaysLive cfg) state)
    (quiet : state.inProgress = []) : Agrees cfg state :=
  (live_governed governed).agrees quiet

/-! ## Runs -/

/-- A reload that follows its look at the pointer at once stays live. -/
theorem staysLive_of_probe (probed : state.probe = some next) :
    StaysLive cfg next .refreshInstall := by
  unfold GovernanceState.probe at probed
  split at probed
  · cases probed
  · cases probed
    rintro source ⟨⟩
    rfl
  · cases probed

/-- `ana` applies the second version, and the monitor reloads what it finds afterwards. -/
def refreshedEvents : List GovernanceEvent :=
  approvedEvents ++ [.finishApply 3 none, .probe, .refreshInstall, .refreshEnds]

/-- The state after a reload of what is active. -/
def refreshedState : GovernanceState (List UInt8) :=
  (runEvents oneApproval oneApproval.initial refreshedEvents).getD oneApproval.initial

theorem agrees_refreshedState : Agrees oneApproval refreshedState := by
  have ran : runEvents oneApproval oneApproval.initial refreshedEvents = some refreshedState := rfl
  refine agrees_of_governed (governed_of_run .start ?_ ran) rfl
  refine ⟨fun _ _ _ cut => (nomatch cut), fun _ _ => ⟨trivial, fun _ _ => ⟨trivial, fun _ _ =>
    ⟨trivial, fun _ _ => ⟨trivial, fun _ _ => ⟨trivial, fun _ _ => ⟨?_, fun _ _ =>
      ⟨trivial, fun _ probed => ⟨staysLive_of_probe probed, fun _ _ =>
        ⟨trivial, fun _ _ => trivial⟩⟩⟩⟩⟩⟩⟩⟩⟩⟩
  exact fun _ _ _ _ cut => nomatch cut

/-- A deployment that asks for no approval. -/
def singleAdministrator : GovernanceConfig (List UInt8) :=
  { oneApproval with requireConfigApprovals := 0 }

/-- The monitor looks at the pointer before `ana` applies a version with another policy, and
reloads afterwards. -/
def staleEvents : List GovernanceEvent :=
  [.bootstrap 0 none,
    .stage ⟨none, some "default: \x7bmax_limit: 5\x7d", none, none, none⟩ "ana" [] 1 none,
    .probe, .beginApply anaApplies [], .install anaApplies, .finishApply 3 none,
    .refreshInstall, .refreshEnds]

/-- The state after the reload. -/
def staleState : GovernanceState (List UInt8) :=
  (runEvents singleAdministrator singleAdministrator.initial staleEvents).getD
    singleAdministrator.initial

/-- The former policy is live again, while the pointer names the new one. -/
theorem not_agrees_staleState :
    ¬ ∀ (cfg : GovernanceConfig (List UInt8)) (state : GovernanceState (List UInt8)),
      Governed cfg (fun _ _ => True) state → state.inProgress = [] → Agrees cfg state := by
  intro agrees
  have ran : runEvents singleAdministrator singleAdministrator.initial staleEvents =
      some staleState := rfl
  obtain ⟨version, read, policy⟩ : ∃ version, staleState.store.readManifest 2 = .ok version ∧
      version.policyYaml = "default: \x7bmax_limit: 5\x7d" := ⟨_, rfl, rfl⟩
  obtain ⟨found, readFound, _, installed⟩ := (agrees singleAdministrator staleState
    (governed_of_run .start (eachEvent_true _ _) ran) rfl).installed 2 rfl
  obtain rfl := Except.ok.inj (read.symm.trans readFound)
  have live : staleState.loaded.policyYaml = "default: \x7b\x7d" := rfl
  rw [installed] at live
  exact absurd (policy.symm.trans live) (by decide)

end QueryGate
