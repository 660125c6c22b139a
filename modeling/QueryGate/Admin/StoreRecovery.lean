import QueryGate.Admin.VersionStore

/-! # Recovery of the version store

The process may stop after any write of an operation of `ConfigVersionStore` and start
again on the files that are there. A stop between the directory of a new version and its
manifest, or between the manifest of a newly active version and `current.json`, leaves files
that the readers reject or that disagree. Where no process stops there, every reading
succeeds, the active version is the recorded one, ids are new, and the operation that was
interrupted completes when it is run again (`survives_of_clearStops`).
-/

namespace QueryGate

open Foundation

variable {F : Type}

/-- The operations that write. -/
inductive StoreOperation (F : Type) where
  | bootstrapIfEmpty (documents : VersionDocuments) (now : Nat)
  | createStagedVersion (documents : VersionDocuments) (description : Option String)
      (actor : String) (now : Nat)
  | addApproval (id : Nat) (record : ConfigApprovalRecord F)
  | markActive (id : Nat) (actor : String) (now : Nat)

/-- What an operation would do on a store. -/
def StoreOperation.plan : StoreOperation F → ConfigVersionStore F → StoreResult (StorePlan F)
  | .bootstrapIfEmpty documents now => ConfigVersionStore.bootstrapIfEmpty documents now
  | .createStagedVersion documents description actor now =>
      ConfigVersionStore.createStagedVersion documents description actor now
  | .addApproval id record => ConfigVersionStore.addApproval id record
  | .markActive id actor now => ConfigVersionStore.markActive id actor now

/-- The version whose directory a write makes. -/
def StoreWrite.madeDir? : StoreWrite F → Option Nat
  | .makeDir id => some id
  | .document _ _ _ | .manifestTmp _ _ | .replaceManifest _ | .currentTmp _ | .replaceCurrent =>
      none

namespace ConfigVersionStore

/-- The store after an operation that may have been interrupted. -/
def after (store : ConfigVersionStore F) (attempt : Attempt (StoreOperation F)) :
    ConfigVersionStore F :=
  afterAttempt write StoreOperation.plan store attempt

/-- The store after a run of operations. -/
def afterAll (store : ConfigVersionStore F) (attempts : List (Attempt (StoreOperation F))) :
    ConfigVersionStore F :=
  afterAttempts write StoreOperation.plan store attempts

/-! ## What a stop may not break -/

/-- Every reading succeeds, and the active version is the one that `current.json` names. -/
structure Readable (store : ConfigVersionStore F) : Prop where
  lists : ∃ versions, store.listVersions = .ok versions
  active : ∃ version, store.getActiveVersion = .ok version
  paths : ∀ id, store.current = some id → ∃ paths, store.filePaths id = .ok paths
  single : ∀ first second firstVersion secondVersion,
    store.readManifest first = .ok firstVersion → firstVersion.status = .active →
      store.readManifest second = .ok secondVersion → secondVersion.status = .active →
        first = second
  recorded : ∀ id version, store.readManifest id = .ok version → version.status = .active →
    store.current = none ∨ store.current = some id

/-- What an operation that returned a version was for. -/
def Completed (store : ConfigVersionStore F) (result : ConfigVersion F) :
    StoreOperation F → Prop
  | .bootstrapIfEmpty _ _ => ∃ active, store.getActiveVersion = .ok (some active)
  | .createStagedVersion documents description actor now =>
      ∃ version, store.readManifest result.id = .ok version ∧ version.status = .staged ∧
        version.toVersionDocuments = documents.asRead ∧ version.description = description ∧
          version.createdBy = actor ∧ version.createdAt = now
  | .addApproval id record =>
      ∃ version, store.readManifest id = .ok version ∧
        (version.approvals.filter fun other => other.approver = record.approver) = [record]
  | .markActive id actor now =>
      ∃ version, store.getActiveVersion = .ok (some version) ∧ version.id = id ∧
        version.status = .active ∧ version.appliedBy = some actor ∧ version.appliedAt = some now

/-- Running an operation again after it was cut completes it, and leaves the store
readable. -/
def CompletesAgain (store : ConfigVersionStore F) (operation : StoreOperation F) : Prop :=
  ∃ again, operation.plan store = .ok again ∧
    (again.writes.foldl write store).Completed again.result operation ∧
      (again.writes.foldl write store).Readable

/-- The version that an attempt gave an id to: its directory was made. -/
def createdId (store : ConfigVersionStore F) (attempt : Attempt (StoreOperation F)) : List Nat :=
  match attempt.operation.plan store with
  | .error _ => []
  | .ok plan => (plan.made attempt.stop).filterMap StoreWrite.madeDir?

/-- The ids that the attempts of a run gave out, in order. -/
def createdIds (store : ConfigVersionStore F) : List (Attempt (StoreOperation F)) → List Nat
  | [] => []
  | attempt :: rest => store.createdId attempt ++ (store.after attempt).createdIds rest

/-- The store survives the stops of a run that ends in an attempt: it can be read, an
interrupted operation completes, and no id was given out twice. -/
structure Survives (attempts : List (Attempt (StoreOperation F)))
    (last : Attempt (StoreOperation F)) : Prop where
  readable : (({} : ConfigVersionStore F).afterAll (attempts ++ [last])).Readable
  completes : ∀ plan count,
    last.operation.plan (({} : ConfigVersionStore F).afterAll attempts) = .ok plan →
      last.stop = some count →
        (({} : ConfigVersionStore F).afterAll (attempts ++ [last])).CompletesAgain last.operation
  fresh : (({} : ConfigVersionStore F).createdIds (attempts ++ [last])).Nodup

/-! ## Where a process may stop -/

/-- A stop is clear of the two gaps: a new version is written whole or not at all, and a
version that becomes active is recorded by the same run. -/
def ClearStop (store : ConfigVersionStore F) (attempt : Attempt (StoreOperation F)) : Prop :=
  ∀ plan count, attempt.operation.plan store = .ok plan → attempt.stop = some count →
    match attempt.operation with
    | .bootstrapIfEmpty _ _ | .createStagedVersion _ _ _ _ =>
        count = 0 ∨ plan.writes.length ≤ count
    | .addApproval _ _ => True
    | .markActive id _ _ =>
        store.current = some id ∨ count + 3 ≤ plan.writes.length ∨ plan.writes.length ≤ count

/-! ## The invariant -/

/-- The readings agree with the names of the files, and only allowed versions are active. -/
structure Recorded (allowed : Nat → Prop) (store : ConfigVersionStore F) : Prop where
  named : ∀ id version, store.readManifest id = .ok version →
    version.id = id ∧ (version.status = .active → allowed id)
  pointed : ∀ id, store.current = some id → ∃ version, store.readManifest id = .ok version

/-- Every directory holds a version. -/
def Listed (store : ConfigVersionStore F) : Prop :=
  ∀ id ∈ dictKeys store.versions, ∃ version, store.readManifest id = .ok version

/-- The states between two operations. -/
structure Sound (store : ConfigVersionStore F) : Prop where
  recorded : Recorded (fun id => store.current = some id) store
  listed : store.Listed

theorem sound_empty : Sound ({} : ConfigVersionStore F) where
  recorded := ⟨fun _ _ read => (by cases read), fun _ absurd => (by cases absurd)⟩
  listed := fun _ absurd => (by cases absurd)

variable {store : ConfigVersionStore F}

theorem mapAll_ok {α β ε : Type} {action : α → Except ε β} {items : List α}
    (each : ∀ item ∈ items, ∃ image, action item = .ok image) :
    ∃ images, mapAll action items = .ok images := by
  induction items with
  | nil => exact ⟨[], rfl⟩
  | cons item rest ih =>
      obtain ⟨image, acted⟩ := each item (List.mem_cons_self ..)
      obtain ⟨images, mapped⟩ := ih fun later member => each later (List.mem_cons_of_mem _ member)
      refine ⟨image :: images, mapAll_eq_ok_iff.mpr ?_⟩
      exact List.Forall₂.cons acted (mapAll_eq_ok_iff.mp mapped)

theorem Sound.readable (sound : store.Sound) : store.Readable where
  lists := by
    obtain ⟨versions, mapped⟩ := mapAll_ok sound.listed
    unfold listVersions
    rw [mapped]
    exact ⟨_, rfl⟩
  active := by
    unfold getActiveVersion
    cases current : store.current with
    | none => exact ⟨none, rfl⟩
    | some id =>
        obtain ⟨version, read⟩ := sound.recorded.pointed id current
        exact ⟨some version, by dsimp only; rw [read]; rfl⟩
  paths := by
    intro id current
    obtain ⟨version, read⟩ := sound.recorded.pointed id current
    have member := dictGet_isSome_iff.mpr (mem_of_readManifest read)
    obtain ⟨dir, found⟩ := Option.isSome_iff_exists.mp member
    unfold filePaths
    rw [found]
    exact ⟨_, rfl⟩
  single := by
    intro first second _ _ firstRead firstActive secondRead secondActive
    have named := (sound.recorded.named first _ firstRead).2 firstActive
    have other := (sound.recorded.named second _ secondRead).2 secondActive
    exact Option.some.inj (named.symm.trans other)
  recorded := fun id version read active =>
    .inr ((sound.recorded.named id version read).2 active)

/-! ## Writing a manifest -/

section Manifest

variable {allowed : Nat → Prop} {manifest : ConfigManifest F} {version : ConfigVersion F}

theorem recorded_writeManifest (recorded : Recorded allowed store)
    (read : store.readManifest manifest.id = .ok version) {still : Nat → Prop}
    (others : ∀ id, id ≠ manifest.id → allowed id → still id)
    (permitted : manifest.status = .active → still manifest.id) :
    Recorded still ((writeManifest manifest).foldl write store) where
  named := by
    intro id found after
    rw [readManifest_writeManifest read] at after
    by_cases same : manifest.id = id
    · rw [if_pos same] at after
      cases after
      exact ⟨same, fun active => same ▸ permitted active⟩
    · rw [if_neg same] at after
      obtain ⟨named, active⟩ := recorded.named id found after
      exact ⟨named, fun is => others id (Ne.symm same) (active is)⟩
  pointed := by
    intro id current
    rw [readManifest_writeManifest read]
    by_cases same : manifest.id = id
    · exact ⟨_, if_pos same⟩
    · rw [if_neg same]
      rw [foldl_writeManifest] at current
      exact recorded.pointed id current

theorem listed_writeManifest (listed : store.Listed)
    (read : store.readManifest manifest.id = .ok version) :
    ((writeManifest manifest).foldl write store).Listed := by
  intro id member
  rw [readManifest_writeManifest read]
  by_cases same : manifest.id = id
  · exact ⟨_, if_pos same⟩
  · rw [if_neg same]
    rw [foldl_writeManifest] at member
    rcases mem_dictKeys_dictSet.mp member with own | old
    · exact (same own.symm).elim
    · exact listed id old

theorem recorded_manifestTmp (recorded : Recorded allowed store) (id : Nat) :
    Recorded allowed (store.write (.manifestTmp id manifest)) where
  named := by
    intro other found after
    rw [readManifest_manifestTmp] at after
    exact recorded.named other found after
  pointed := by
    intro other current
    rw [readManifest_manifestTmp]
    exact recorded.pointed other current

theorem listed_manifestTmp (listed : store.Listed)
    (read : store.readManifest manifest.id = .ok version) :
    (store.write (.manifestTmp manifest.id manifest)).Listed := by
  intro other member
  rw [readManifest_manifestTmp]
  rcases mem_dictKeys_dictSet.mp member with rfl | old
  · exact ⟨version, read⟩
  · exact listed other old

end Manifest

theorem Recorded.mono {allowed still : Nat → Prop} (recorded : Recorded allowed store)
    (weaker : ∀ id, allowed id → still id) : Recorded still store where
  named := fun id version read =>
    ⟨(recorded.named id version read).1,
      fun active => weaker id ((recorded.named id version read).2 active)⟩
  pointed := recorded.pointed

/-! ## Writing a new version -/

section Creation

variable {allowed still : Nat → Prop} {manifest : ConfigManifest F}
  {documents : VersionDocuments}

theorem recorded_writeVersion (recorded : Recorded allowed store)
    (absent : manifest.id ∉ dictKeys store.versions) (weaker : ∀ id, allowed id → still id)
    (permitted : manifest.status = .active → still manifest.id) :
    Recorded still ((writeVersion manifest documents).foldl write store) where
  named := by
    intro id found after
    rw [readManifest_writeVersion absent] at after
    by_cases same : manifest.id = id
    · rw [if_pos same] at after
      cases after
      exact ⟨same, fun active => same ▸ permitted active⟩
    · rw [if_neg same] at after
      exact (recorded.mono weaker).named id found after
  pointed := by
    intro id current
    rw [current_foldl_writeVersion absent] at current
    rw [readManifest_writeVersion absent]
    by_cases same : manifest.id = id
    · exact ⟨_, if_pos same⟩
    · rw [if_neg same]
      exact recorded.pointed id current

theorem listed_writeVersion (listed : store.Listed)
    (absent : manifest.id ∉ dictKeys store.versions) :
    ((writeVersion manifest documents).foldl write store).Listed := by
  intro id member
  rw [readManifest_writeVersion absent]
  by_cases same : manifest.id = id
  · exact ⟨_, if_pos same⟩
  · rw [if_neg same]
    rcases (mem_versions_writeVersion id absent).mp member with own | old
    · exact (same own.symm).elim
    · exact listed id old

end Creation

/-- Once `current.json` names a version, that one alone may be active. -/
theorem sound_writeCurrent {id : Nat} {version : ConfigVersion F}
    (recorded : Recorded (fun other => other = id) store) (listed : store.Listed)
    (read : store.readManifest id = .ok version) :
    ((writeCurrent id).foldl write store).Sound where
  recorded := {
    named := fun other found after =>
      ⟨(recorded.named other found after).1,
        fun active => congrArg some ((recorded.named other found after).2 active).symm⟩
    pointed := by
      rintro other ⟨⟩
      exact ⟨version, read⟩ }
  listed := listed

/-! ## The operations -/

theorem sound_seeded {manifest : ConfigManifest F} {documents : VersionDocuments}
    (sound : store.Sound) (empty : store.current = none)
    (absent : manifest.id ∉ dictKeys store.versions) :
    ((writeVersion manifest documents ++ writeCurrent manifest.id).foldl write store).Sound := by
  rw [List.foldl_append]
  refine sound_writeCurrent (recorded_writeVersion sound.recorded absent (fun id allowed => ?_)
    fun _ => rfl) (listed_writeVersion sound.listed absent)
    ((readManifest_writeVersion absent _).trans (if_pos rfl))
  rw [empty] at allowed
  cases allowed

theorem sound_staged {manifest : ConfigManifest F} {documents : VersionDocuments}
    (sound : store.Sound) (absent : manifest.id ∉ dictKeys store.versions)
    (staged : manifest.status = .staged) :
    ((writeVersion manifest documents).foldl write store).Sound := by
  refine ⟨recorded_writeVersion sound.recorded absent (fun id allowed => ?_) (fun active => ?_),
    listed_writeVersion sound.listed absent⟩
  · exact (current_foldl_writeVersion absent).trans allowed
  · rw [staged] at active
    cases active

theorem sound_manifestTmp {manifest : ConfigManifest F} {version : ConfigVersion F}
    (sound : store.Sound) (read : store.readManifest manifest.id = .ok version) :
    (store.write (.manifestTmp manifest.id manifest)).Sound :=
  ⟨recorded_manifestTmp sound.recorded manifest.id, listed_manifestTmp sound.listed read⟩

theorem sound_writeManifest {manifest : ConfigManifest F} {version : ConfigVersion F}
    (sound : store.Sound) (read : store.readManifest manifest.id = .ok version)
    (permitted : manifest.status = .active → store.current = some manifest.id) :
    ((writeManifest manifest).foldl write store).Sound := by
  have kept : ((writeManifest manifest).foldl write store).current = store.current := by
    rw [foldl_writeManifest]
    rfl
  refine ⟨recorded_writeManifest sound.recorded read (fun id _ allowed => ?_) (fun active => ?_),
    listed_writeManifest sound.listed read⟩
  · exact kept.trans allowed
  · exact kept.trans (permitted active)

/-- A new manifest that does not activate its version may be cut anywhere. -/
theorem sound_writeManifest_take {manifest : ConfigManifest F} {version : ConfigVersion F}
    (sound : store.Sound) (read : store.readManifest manifest.id = .ok version)
    (permitted : manifest.status = .active → store.current = some manifest.id) (count : Nat) :
    (((writeManifest manifest).take count).foldl write store).Sound := by
  rcases count with _ | _ | count
  · exact sound
  · exact sound_manifestTmp sound read
  · have whole : (writeManifest manifest).take (count + 2) = writeManifest manifest :=
      List.take_of_length_le (by simp [writeManifest])
    rw [whole]
    exact sound_writeManifest sound read permitted

/-- The manifest that deactivates a version names it. -/
theorem readManifest_deactivated {allowed : Nat → Prop} (recorded : Recorded allowed store)
    {previousId : Nat} {previous : ConfigVersion F}
    (read : store.readManifest previousId = .ok previous) :
    store.readManifest ({ previous.toConfigManifest with status := .inactive }).id =
      .ok previous :=
  (congrArg store.readManifest (recorded.named previousId previous read).1).trans read

/-- After the deactivation no version but the one to come may be active. -/
theorem recorded_deactivation (recorded : Recorded (fun other => store.current = some other) store)
    {id : Nat} {version : ConfigVersion F} (read : store.readManifest id = .ok version)
    {writes : List (StoreWrite F)} (written : store.deactivation id = .ok writes) :
    Recorded (fun other => other = id) (writes.foldl write store) ∧
      (writes.foldl write store).readManifest id = .ok version ∧
      (writes.foldl write store).current = store.current := by
  rcases deactivation_eq_ok_iff.mp written with ⟨onlyId, rfl⟩ |
    ⟨previousId, previous, current, apart, readPrevious, rfl⟩
  · exact ⟨recorded.mono fun other allowed => onlyId other allowed, read, rfl⟩
  · have named := (recorded.named previousId previous readPrevious).1
    have rewritten := readManifest_deactivated recorded readPrevious
    refine ⟨recorded_writeManifest recorded rewritten (fun other differs allowed => ?_) nofun,
      ?_, ?_⟩
    · have same := Option.some.inj (current.symm.trans allowed)
      exact absurd (same.symm.trans named.symm) differs
    · rw [readManifest_writeManifest rewritten, if_neg (named.trans_ne apart)]
      exact read
    · rw [foldl_writeManifest]
      rfl

/-- The version that `current.json` names can be deactivated. -/
theorem deactivation_ok {allowed : Nat → Prop} (recorded : Recorded allowed store) (id : Nat) :
    ∃ deactivated, store.deactivation id = .ok deactivated := by
  unfold deactivation
  split
  · exact ⟨[], rfl⟩
  · rename_i previousId current
    obtain ⟨previous, readPrevious⟩ :=
      recorded.pointed previousId (Option.filter_eq_some_iff.mp current).1
    exact ⟨_, by rw [readPrevious]; rfl⟩

/-- A deactivation may be cut anywhere. -/
theorem sound_deactivation_take (sound : store.Sound) {id : Nat} {writes : List (StoreWrite F)}
    (written : store.deactivation id = .ok writes) (count : Nat) :
    ((writes.take count).foldl write store).Sound := by
  rcases deactivation_eq_ok_iff.mp written with ⟨_, rfl⟩ |
    ⟨previousId, previous, _, _, readPrevious, rfl⟩
  · rw [List.take_nil]
    exact sound
  · exact sound_writeManifest_take sound
      (readManifest_deactivated sound.recorded readPrevious) nofun count

/-- The writes that activate a version may be cut before its manifest is in place, or
anywhere if it was active before. -/
theorem sound_activation_take (manifest : ConfigManifest F) {version : ConfigVersion F}
    (sound : store.Sound) (recorded : Recorded (fun other => other = manifest.id) store)
    (read : store.readManifest manifest.id = .ok version) {count : Nat}
    (clear : store.current = some manifest.id ∨ count ≤ 1 ∨ 4 ≤ count) :
    (((writeManifest manifest ++ writeCurrent manifest.id).take count).foldl write
      store).Sound := by
  rcases count with _ | _ | _ | _ | count
  · exact sound
  · exact sound_manifestTmp sound read
  · have active := clear.resolve_right (by omega)
    exact sound_writeManifest sound read fun _ => active
  · have active := clear.resolve_right (by omega)
    have marked := sound_writeManifest sound read fun _ => active
    exact ⟨⟨marked.recorded.named, marked.recorded.pointed⟩, marked.listed⟩
  · rw [List.take_of_length_le (by simp [writeManifest, writeCurrent]), List.foldl_append]
    refine sound_writeCurrent (recorded_writeManifest recorded read (fun _ _ same => same)
      fun _ => rfl) (listed_writeManifest sound.listed read)
      ((readManifest_writeManifest read _).trans (if_pos rfl))

theorem sound_markActive_take (sound : store.Sound) {id : Nat} {actor : String} {now : Nat}
    {plan : StorePlan F} (planned : store.markActive id actor now = .ok plan) {count : Nat}
    (clear : store.current = some id ∨ count + 3 ≤ plan.writes.length ∨
      plan.writes.length ≤ count) :
    ((plan.writes.take count).foldl write store).Sound := by
  obtain ⟨version, deactivated, read, written, rfl⟩ := markActive_eq_ok_iff.mp planned
  obtain ⟨recorded, stillRead, current⟩ := recorded_deactivation sound.recorded read written
  have cut := sound_deactivation_take sound written
  obtain rfl := (sound.recorded.named id version read).1
  rw [List.take_append, List.foldl_append]
  by_cases inside : count ≤ deactivated.length
  · rw [Nat.sub_eq_zero_of_le inside]
    exact cut count
  · have outside := Nat.le_of_not_le inside
    have whole := cut deactivated.length
    rw [List.take_length] at whole
    rw [List.take_of_length_le outside]
    refine sound_activation_take
      (markedVersion version actor now store.current).toConfigManifest whole recorded stillRead ?_
    rcases clear with active | early | late
    · exact .inl (current.trans active)
    · simp only [List.length_append, writeManifest, writeCurrent, List.length_cons,
        List.length_nil] at early
      exact .inr (.inl (by omega))
    · simp only [List.length_append, writeManifest, writeCurrent, List.length_cons,
        List.length_nil] at late
      exact .inr (.inr (by omega))

/-- A new version is written whole or not at all. -/
theorem sound_take_of_whole {writes : List (StoreWrite F)} {count : Nat} (sound : store.Sound)
    (whole : (writes.foldl write store).Sound) (clear : count = 0 ∨ writes.length ≤ count) :
    ((writes.take count).foldl write store).Sound := by
  rcases clear with rfl | late
  · exact sound
  · rw [List.take_of_length_le late]
    exact whole

/-- What an operation writes to its end leaves the store sound. -/
theorem sound_plan (sound : store.Sound) {operation : StoreOperation F} {plan : StorePlan F}
    (planned : operation.plan store = .ok plan) :
    (plan.writes.foldl write store).Sound := by
  cases operation with
  | bootstrapIfEmpty documents now =>
      rcases bootstrapIfEmpty_eq_ok_iff.mp planned with ⟨active, _, rfl⟩ | ⟨empty, rfl⟩
      · exact sound
      · exact sound_seeded sound empty (nextId_not_mem store)
  | createStagedVersion documents description actor now =>
      obtain rfl := Except.ok.inj planned
      exact sound_staged sound (nextId_not_mem store) rfl
  | addApproval id record =>
      obtain ⟨version, read, staged, _, _, rfl⟩ := addApproval_eq_ok_iff.mp planned
      obtain rfl := (sound.recorded.named id version read).1
      have reviewed : store.readManifest
          (reviewedVersion version record).toConfigManifest.id = .ok version := read
      exact sound_writeManifest sound reviewed fun active => nomatch staged.symm.trans active
  | markActive id actor now =>
      have whole := sound_markActive_take sound planned (.inr (.inr le_rfl))
      rw [List.take_length] at whole
      exact whole

/-- Step: an attempt that stops clear of the gaps leaves the store sound. -/
theorem sound_after (sound : store.Sound) {attempt : Attempt (StoreOperation F)}
    (clear : store.ClearStop attempt) : (store.after attempt).Sound := by
  unfold after afterAttempt
  split
  · exact sound
  rename_i plan planned
  obtain ⟨operation, stop⟩ := attempt
  cases stop with
  | none => exact sound_plan sound planned
  | some count =>
      have allowed := clear plan count planned rfl
      cases operation with
      | bootstrapIfEmpty documents now =>
          exact sound_take_of_whole sound (sound_plan sound planned) allowed
      | createStagedVersion documents description actor now =>
          exact sound_take_of_whole sound (sound_plan sound planned) allowed
      | addApproval id record =>
          obtain ⟨version, read, staged, _, _, rfl⟩ := addApproval_eq_ok_iff.mp planned
          obtain rfl := (sound.recorded.named id version read).1
          have reviewed : store.readManifest
              (reviewedVersion version record).toConfigManifest.id = .ok version := read
          exact sound_writeManifest_take sound reviewed
            (fun active => nomatch staged.symm.trans active) count
      | markActive id actor now => exact sound_markActive_take sound planned allowed

theorem sound_afterAll {attempts : List (Attempt (StoreOperation F))} (sound : store.Sound)
    (clear : EachAttempt write StoreOperation.plan ClearStop store attempts) :
    (store.afterAll attempts).Sound :=
  holds_afterAttempts (fun _ _ sound clear => sound_after sound clear) sound clear

/-! ## Running an operation again -/

theorem mem_versions_write {id : Nat} (member : id ∈ dictKeys store.versions)
    (made : StoreWrite F) : id ∈ dictKeys (store.write made).versions := by
  cases made with
  | makeDir other => exact mem_dictKeys_dictSet.mpr (.inr member)
  | document other file text => exact mem_dictKeys_dictSet.mpr (.inr member)
  | manifestTmp other manifest => exact mem_dictKeys_dictSet.mpr (.inr member)
  | replaceManifest other => exact mem_dictKeys_dictSet.mpr (.inr member)
  | currentTmp other => exact member
  | replaceCurrent => exact member

theorem mem_versions_foldl {id : Nat} (member : id ∈ dictKeys store.versions)
    (writes : List (StoreWrite F)) : id ∈ dictKeys (writes.foldl write store).versions := by
  induction writes generalizing store with
  | nil => exact member
  | cons made rest ih => exact ih (mem_versions_write member made)

theorem mem_versions_after {id : Nat} (member : id ∈ dictKeys store.versions)
    (attempt : Attempt (StoreOperation F)) : id ∈ dictKeys (store.after attempt).versions := by
  unfold after afterAttempt
  split
  · exact member
  · exact mem_versions_foldl member _

theorem getActiveVersion_of_read {id : Nat} {version : ConfigVersion F}
    (current : store.current = some id) (read : store.readManifest id = .ok version) :
    store.getActiveVersion = .ok (some version) := by
  unfold getActiveVersion
  rw [current]
  dsimp only
  rw [read]
  rfl

theorem completesAgain_bootstrap (sound : store.Sound) (documents : VersionDocuments)
    (now : Nat) : store.CompletesAgain (.bootstrapIfEmpty documents now) := by
  suffices planned : ∃ again, store.bootstrapIfEmpty documents now = .ok again ∧
      ∃ active, (again.writes.foldl write store).getActiveVersion = .ok (some active) by
    obtain ⟨again, planned, active⟩ := planned
    have whole : (StoreOperation.bootstrapIfEmpty documents now).plan store = .ok again := planned
    exact ⟨again, planned, active, (sound_plan sound whole).readable⟩
  cases current : store.current with
  | none =>
      refine ⟨_, bootstrapIfEmpty_eq_ok_iff.mpr (.inr ⟨current, rfl⟩), ?_⟩
      rw [List.foldl_append]
      exact ⟨_, getActiveVersion_of_read rfl
        ((readManifest_writeVersion (nextId_not_mem store) _).trans (if_pos rfl))⟩
  | some id =>
      obtain ⟨version, read⟩ := sound.recorded.pointed id current
      have active := getActiveVersion_of_read current read
      exact ⟨_, bootstrapIfEmpty_eq_ok_iff.mpr (.inl ⟨version, active, rfl⟩), version, active⟩

theorem completesAgain_staged (sound : store.Sound) (documents : VersionDocuments)
    (description : Option String) (actor : String) (now : Nat) :
    store.CompletesAgain (.createStagedVersion documents description actor now) := by
  have planned : (StoreOperation.createStagedVersion documents description actor now).plan store =
      .ok _ := rfl
  refine ⟨_, planned, ⟨_, (readManifest_writeVersion (nextId_not_mem store) _).trans (if_pos rfl),
    rfl, rfl, rfl, rfl, rfl⟩, (sound_plan sound planned).readable⟩

theorem completesAgain_addApproval (sound : store.Sound) {id : Nat}
    {record : ConfigApprovalRecord F} {version : ConfigVersion F}
    (read : store.readManifest id = .ok version) (staged : version.status = .staged)
    (other : record.approver ≠ version.createdBy)
    (short : (record.note.any fun text => decide (500 < text.length)) = false) :
    store.CompletesAgain (.addApproval id record) := by
  obtain rfl := (sound.recorded.named id version read).1
  have reviewed : store.readManifest
      (reviewedVersion version record).toConfigManifest.id = .ok version := read
  have planned : (StoreOperation.addApproval version.id record).plan store = .ok _ :=
    addApproval_eq_ok_iff.mpr ⟨version, read, staged, other, short, rfl⟩
  refine ⟨_, planned, ⟨_, (readManifest_writeManifest reviewed _).trans (if_pos rfl), ?_⟩,
    (sound_plan sound planned).readable⟩
  change List.filter _ (List.filter _ version.approvals ++ [record]) = [record]
  rw [List.filter_append, List.filter_filter]
  simp

theorem completesAgain_markActive (sound : store.Sound) {id : Nat} {version : ConfigVersion F}
    (read : store.readManifest id = .ok version) (actor : String) (now : Nat) :
    store.CompletesAgain (.markActive id actor now) := by
  obtain ⟨deactivated, written⟩ := deactivation_ok sound.recorded id
  have planned : (StoreOperation.markActive id actor now).plan store = .ok _ :=
    markActive_eq_ok_iff.mpr ⟨version, deactivated, read, written, rfl⟩
  obtain ⟨_, stillRead, _⟩ := recorded_deactivation sound.recorded read written
  obtain rfl := (sound.recorded.named id version read).1
  have marked : (deactivated.foldl write store).readManifest
      (markedVersion version actor now store.current).toConfigManifest.id = .ok version :=
    stillRead
  refine ⟨_, planned, ⟨markedVersion version actor now store.current, ?_, rfl, rfl, rfl, rfl⟩,
    (sound_plan sound planned).readable⟩
  rw [List.foldl_append, List.foldl_append]
  exact getActiveVersion_of_read rfl
    ((readManifest_writeManifest marked _).trans (if_pos rfl))

/-- A version under review stays so while a decision is written. -/
theorem reviewable_take {version : ConfigVersion F} {record : ConfigApprovalRecord F}
    (read : store.readManifest version.id = .ok version) (staged : version.status = .staged)
    (count : Nat) :
    ∃ found, (((writeManifest (reviewedVersion version record).toConfigManifest).take
        count).foldl write store).readManifest version.id = .ok found ∧
      found.status = .staged ∧ found.createdBy = version.createdBy := by
  have reviewed : store.readManifest
      (reviewedVersion version record).toConfigManifest.id = .ok version := read
  rcases count with _ | _ | count
  · exact ⟨version, read, staged, rfl⟩
  · exact ⟨version, (readManifest_manifestTmp ..).trans read, staged, rfl⟩
  · rw [List.take_of_length_le (by simp [writeManifest])]
    exact ⟨_, (readManifest_writeManifest reviewed _).trans (if_pos rfl), staged, rfl⟩

theorem completesAgain_after (sound : store.Sound) {attempt : Attempt (StoreOperation F)}
    (clear : store.ClearStop attempt) {plan : StorePlan F} {count : Nat}
    (planned : attempt.operation.plan store = .ok plan) (cut : attempt.stop = some count) :
    (store.after attempt).CompletesAgain attempt.operation := by
  have soundAfter := sound_after sound clear
  obtain ⟨operation, stop⟩ := attempt
  obtain rfl : stop = some count := cut
  cases operation with
  | bootstrapIfEmpty documents now => exact completesAgain_bootstrap soundAfter documents now
  | createStagedVersion documents description actor now =>
      exact completesAgain_staged soundAfter documents description actor now
  | addApproval id record =>
      obtain ⟨version, read, staged, other, short, rfl⟩ := addApproval_eq_ok_iff.mp planned
      obtain rfl := (sound.recorded.named id version read).1
      obtain ⟨found, readAfter, stillStaged, author⟩ := reviewable_take read staged count
      have made : store.after ⟨.addApproval version.id record, some count⟩ =
          ((writeManifest (reviewedVersion version record).toConfigManifest).take count).foldl
            write store := by
        unfold after afterAttempt
        dsimp only
        rw [planned]
        rfl
      rw [made] at soundAfter ⊢
      exact completesAgain_addApproval soundAfter readAfter stillStaged
        (fun same => other (same.trans author)) short
  | markActive id actor now =>
      obtain ⟨version, _, read, _, _⟩ := markActive_eq_ok_iff.mp planned
      obtain ⟨found, readAfter⟩ :=
        soundAfter.listed id (mem_versions_after (mem_of_readManifest read) _)
      exact completesAgain_markActive soundAfter readAfter actor now

/-! ## Ids -/

theorem madeDir_writeContent (id : Nat) (documents : VersionDocuments) :
    (writeContent (F := F) id documents).filterMap StoreWrite.madeDir? = [id] := by
  obtain ⟨connections, policy, catalog, templates⟩ := documents
  cases catalog with
  | none =>
      cases templates with
      | none => rfl
      | some _ => rfl
  | some _ =>
      cases templates with
      | none => rfl
      | some _ => rfl

theorem madeDir_plan {operation : StoreOperation F} {plan : StorePlan F}
    (planned : operation.plan store = .ok plan) :
    (plan.writes.filterMap StoreWrite.madeDir?).Sublist [store.nextId] := by
  cases operation with
  | bootstrapIfEmpty documents now =>
      rcases bootstrapIfEmpty_eq_ok_iff.mp planned with ⟨active, _, rfl⟩ | ⟨empty, rfl⟩
      · exact List.nil_sublist _
      · simp only [writeVersion, List.filterMap_append, madeDir_writeContent]
        exact List.Sublist.refl _
  | createStagedVersion documents description actor now =>
      obtain rfl := Except.ok.inj planned
      simp only [writeVersion, List.filterMap_append, madeDir_writeContent]
      exact List.Sublist.refl _
  | addApproval id record =>
      obtain ⟨_, _, _, _, _, rfl⟩ := addApproval_eq_ok_iff.mp planned
      exact List.nil_sublist _
  | markActive id actor now =>
      obtain ⟨_, deactivated, _, written, rfl⟩ := markActive_eq_ok_iff.mp planned
      rcases deactivation_eq_ok_iff.mp written with ⟨_, rfl⟩ | ⟨_, _, _, _, _, rfl⟩
      · exact List.nil_sublist _
      · exact List.nil_sublist _

/-- An attempt gives out at most the next id. -/
theorem createdId_sublist (store : ConfigVersionStore F) (attempt : Attempt (StoreOperation F)) :
    (store.createdId attempt).Sublist [store.nextId] := by
  unfold createdId
  split
  · exact List.nil_sublist _
  · rename_i plan planned
    refine List.Sublist.trans (List.Sublist.filterMap _ ?_) (madeDir_plan planned)
    cases attempt.stop with
    | none => exact List.Sublist.refl _
    | some count => exact List.take_sublist count plan.writes

/-- Every directory that was made is there. -/
theorem mem_versions_of_made {writes : List (StoreWrite F)} {id : Nat}
    (made : id ∈ writes.filterMap StoreWrite.madeDir?) :
    id ∈ dictKeys (writes.foldl write store).versions := by
  induction writes generalizing store with
  | nil => cases made
  | cons first rest ih =>
      obtain ⟨found, member, named⟩ := List.mem_filterMap.mp made
      rcases List.mem_cons.mp member with rfl | later
      · cases found with
        | makeDir other =>
            obtain rfl := Option.some.inj named
            exact mem_versions_foldl (mem_dictKeys_dictSet.mpr (.inl rfl)) rest
        | document other file text => cases named
        | manifestTmp other manifest => cases named
        | replaceManifest other => cases named
        | currentTmp other => cases named
        | replaceCurrent => cases named
      · exact ih (List.mem_filterMap.mpr ⟨found, later, named⟩)

theorem mem_versions_of_created {attempt : Attempt (StoreOperation F)} {id : Nat}
    (created : id ∈ store.createdId attempt) : id ∈ dictKeys (store.after attempt).versions := by
  unfold createdId at created
  unfold after afterAttempt
  split at created
  · cases created
  · rename_i plan planned
    rw [planned]
    exact mem_versions_of_made created

/-- The ids of a run are distinct, and none was on the disk before it. -/
theorem createdIds_fresh (store : ConfigVersionStore F)
    (attempts : List (Attempt (StoreOperation F))) :
    (store.createdIds attempts).Nodup ∧
      ∀ id ∈ store.createdIds attempts, id ∉ dictKeys store.versions := by
  induction attempts generalizing store with
  | nil => exact ⟨List.nodup_nil, fun _ created => nomatch created⟩
  | cons attempt rest ih =>
      obtain ⟨distinct, later⟩ := ih (store.after attempt)
      have next := createdId_sublist store attempt
      refine ⟨List.nodup_append.mpr ⟨next.nodup (List.nodup_singleton _), distinct, ?_⟩, ?_⟩
      · intro first made second among same
        exact later second among (same ▸ mem_versions_of_created made)
      · intro id created member
        rcases List.mem_append.mp created with made | among
        · have same := List.mem_singleton.mp (next.subset made)
          exact nextId_not_mem store (same ▸ member)
        · exact later id among (mem_versions_after member attempt)

/-! ## Runs -/

/-- While no process stops inside the gaps, the store survives every stop. -/
theorem survives_of_clearStops (attempts : List (Attempt (StoreOperation F)))
    (last : Attempt (StoreOperation F))
    (clear : EachAttempt write StoreOperation.plan ClearStop ({} : ConfigVersionStore F)
      (attempts ++ [last])) : Survives attempts last := by
  obtain ⟨before, lastClear, _⟩ := eachAttempt_append.mp clear
  have sound := sound_afterAll sound_empty before
  have whole : ({} : ConfigVersionStore F).afterAll (attempts ++ [last]) =
      (({} : ConfigVersionStore F).afterAll attempts).after last :=
    List.foldl_append
  refine ⟨(sound_afterAll sound_empty clear).readable, fun plan count planned cut => ?_,
    (createdIds_fresh _ _).1⟩
  rw [whole]
  exact completesAgain_after sound lastClear planned cut

/-- The documents of a deployment that was never governed. -/
def plainDocuments : VersionDocuments where
  connectionsYaml := "connections: []"
  policyYaml := "default: \x7b\x7d"
  catalogYaml := none
  templatesYaml := none

/-- A bootstrap, and a staged version that is then activated by `ana`. -/
def firstActivation (stop : Option Nat) : List (Attempt (StoreOperation String)) :=
  [⟨.bootstrapIfEmpty plainDocuments 0, none⟩,
    ⟨.createStagedVersion plainDocuments none "ana" 1, none⟩,
    ⟨.markActive 2 "ana" 2, stop⟩]

/-- A stop after the former version was deactivated is clear of the gaps. -/
theorem survives_firstActivation :
    Survives ((firstActivation (some 2)).take 2) ⟨.markActive 2 "ana" 2, some 2⟩ := by
  apply survives_of_clearStops
  refine ⟨?_, ?_, ?_, trivial⟩
  · intro plan count _ cut
    cases cut
  · intro plan count _ cut
    cases cut
  · intro plan count planned cut
    obtain rfl := Option.some.inj cut
    obtain rfl := Except.ok.inj planned
    exact .inr (.inl (by decide))

/-- The process stops once the directory of a new version was made. -/
def stoppedStaging : Attempt (StoreOperation String) :=
  ⟨.createStagedVersion plainDocuments none "ana" 1, some 1⟩

/-- Then `list_versions` fails. -/
theorem not_survives_stoppedStaging :
    ¬ ∀ (attempts : List (Attempt (StoreOperation String)))
        (last : Attempt (StoreOperation String)), Survives attempts last := by
  intro survives
  obtain ⟨versions, listed⟩ := (survives [] stoppedStaging).readable.lists
  have fails : (({} : ConfigVersionStore String).afterAll ([] ++ [stoppedStaging])).listVersions =
      .error (unknownVersion 1) := rfl
  rw [fails] at listed
  cases listed

end ConfigVersionStore

end QueryGate
