import QueryGate.Core.Exceptions
import QueryGate.Foundation.Dict
import QueryGate.Foundation.Writes

/-! # The store of configuration versions

`ConfigVersionStore` of `admin/store.py`. A version has a directory of its own with a
manifest and up to four documents, and `current.json` names the active one. An operation
holds the store's lock, reads what it needs, and then writes its files one after another,
so it is a plan: the writes it makes, in order, and the version it returns. A file holds
the value whose text the code writes into it.
-/

namespace QueryGate

open Foundation

/-! ## Versions -/

inductive ConfigVersionStatus where
  | staged | active | inactive
  deriving DecidableEq, Repr

/-- `ConfigVersionStatus.value`. -/
def ConfigVersionStatus.value : ConfigVersionStatus → String
  | .staged => "staged"
  | .active => "active"
  | .inactive => "inactive"

inductive ConfigApprovalDecision where
  | approve | reject
  deriving DecidableEq, Repr

/-- One reviewer's decision. `F` is the type of content fingerprints. -/
structure ConfigApprovalRecord (F : Type) where
  approver : String
  decision : ConfigApprovalDecision
  decidedAt : Nat
  contentFingerprint : F
  note : Option String

/-- The four documents of a version. -/
structure VersionDocuments where
  connectionsYaml : String
  policyYaml : String
  catalogYaml : Option String
  templatesYaml : Option String
  deriving DecidableEq

/-- What `manifest.json` holds. -/
structure ConfigManifest (F : Type) where
  id : Nat
  status : ConfigVersionStatus
  createdAt : Nat
  createdBy : String
  description : Option String
  approvals : List (ConfigApprovalRecord F) := []
  appliedAt : Option Nat := none
  appliedBy : Option String := none
  previousActiveVersionId : Option Nat := none

/-- A version is its manifest and its documents. -/
structure ConfigVersion (F : Type) extends ConfigManifest F, VersionDocuments

/-- Every line end becomes `\n`. -/
def universalNewlines : List Char → List Char
  | [] => []
  | '\r' :: '\n' :: rest => '\n' :: universalNewlines rest
  | '\r' :: rest => '\n' :: universalNewlines rest
  | letter :: rest => letter :: universalNewlines rest

/-- `Path.read_text` of a file that holds the text. -/
def readText (text : String) : String :=
  String.ofList (universalNewlines text.toList)

/-- The documents as they are read back. -/
def VersionDocuments.asRead (documents : VersionDocuments) : VersionDocuments where
  connectionsYaml := readText documents.connectionsYaml
  policyYaml := readText documents.policyYaml
  catalogYaml := documents.catalogYaml.map readText
  templatesYaml := documents.templatesYaml.map readText

theorem universalNewlines_idempotent (text : List Char) :
    universalNewlines (universalNewlines text) = universalNewlines text := by
  have plain : ∀ letters : List Char, '\r' ∉ letters → universalNewlines letters = letters := by
    intro letters
    induction letters with
    | nil => exact fun _ => rfl
    | cons letter rest ih =>
        intro free
        obtain ⟨apart, later⟩ := List.ne_and_not_mem_of_not_mem_cons free
        unfold universalNewlines
        split
        · rename_i same
          cases same
        · rename_i same
          exact (apart (List.cons.inj same).1.symm).elim
        · rename_i same
          exact (apart (List.cons.inj same).1.symm).elim
        · rename_i same
          obtain ⟨rfl, rfl⟩ := List.cons.inj same
          rw [ih later]
  apply plain
  fun_induction universalNewlines text with
  | case1 => exact List.not_mem_nil
  | case2 rest ih => simpa using ih
  | case3 rest _ ih => simpa using ih
  | case4 letter rest _ apart ih =>
      intro member
      rcases List.mem_cons.mp member with same | later
      · exact apart same.symm
      · exact ih later

theorem readText_readText (text : String) : readText (readText text) = readText text := by
  unfold readText
  rw [String.toList_ofList, universalNewlines_idempotent]

/-- Documents that were read and written are read back. -/
theorem VersionDocuments.asRead_asRead (documents : VersionDocuments) :
    documents.asRead.asRead = documents.asRead := by
  obtain ⟨connections, policy, catalog, templates⟩ := documents
  cases catalog <;> cases templates <;> simp [asRead, readText_readText]

/-! ## Files -/

/-- The directory of a version. `manifestTmp` is `manifest.json.tmp`. -/
structure VersionDir (F : Type) where
  manifest : Option (ConfigManifest F) := none
  manifestTmp : Option (ConfigManifest F) := none
  connections : Option String := none
  policy : Option String := none
  catalog : Option String := none
  templates : Option String := none

/-- The files under the root of the store, with the directories of versions by their
number. -/
structure ConfigVersionStore (F : Type) where
  versions : List (Nat × VersionDir F) := []
  current : Option Nat := none
  currentTmp : Option Nat := none

inductive DocumentFile where
  | connections | policy | catalog | templates
  deriving DecidableEq

/-- The steps that change a file: a directory is made, a document is written, a temporary
file is written, a temporary file takes the place of another. -/
inductive StoreWrite (F : Type) where
  | makeDir (id : Nat)
  | document (id : Nat) (file : DocumentFile) (text : String)
  | manifestTmp (id : Nat) (manifest : ConfigManifest F)
  | replaceManifest (id : Nat)
  | currentTmp (id : Nat)
  | replaceCurrent

/-- An exception out of the store: one of its own, or `FileNotFoundError` at a path. -/
inductive StoreFailure where
  | rejected (error : GateError)
  | fileNotFound (path : String)
  deriving DecidableEq, Repr

abbrev StoreResult :=
  Except StoreFailure

/-- `NotFoundError` for a version. -/
def unknownVersion (id : Nat) : StoreFailure :=
  .rejected ⟨.notFound, s!"Unknown config version: '{id}'"⟩

/-- What an operation writes and what it returns. -/
abbrev StorePlan (F : Type) :=
  Plan (StoreWrite F) (ConfigVersion F)

variable {F : Type}

/-- A directory with another text in one of its documents. -/
def VersionDir.setDocument (dir : VersionDir F) (text : String) : DocumentFile → VersionDir F
  | .connections => { dir with connections := some text }
  | .policy => { dir with policy := some text }
  | .catalog => { dir with catalog := some text }
  | .templates => { dir with templates := some text }

/-- A directory after its temporary manifest was renamed. -/
def VersionDir.replaceManifest (dir : VersionDir F) : VersionDir F :=
  { dir with manifest := dir.manifestTmp, manifestTmp := none }

/-- The version that a directory holds. -/
def VersionDir.readManifest (dir : VersionDir F) (id : Nat) : StoreResult (ConfigVersion F) :=
  match dir.manifest with
  | none => .error (unknownVersion id)
  | some manifest =>
      match dir.connections, dir.policy with
      | none, _ => .error (.fileNotFound s!"versions/{id}/connections.yaml")
      | some _, none => .error (.fileNotFound s!"versions/{id}/policy.yaml")
      | some connections, some policy =>
          .ok { manifest with
            connectionsYaml := readText connections
            policyYaml := readText policy
            catalogYaml := dir.catalog.map readText
            templatesYaml := dir.templates.map readText }

namespace ConfigVersionStore

/-- The directory of a version, empty where it is missing. -/
def dir (store : ConfigVersionStore F) (id : Nat) : VersionDir F :=
  (dictGet store.versions id).getD {}

/-- The store with another directory of the version. -/
def setDir (store : ConfigVersionStore F) (id : Nat) (dir : VersionDir F) :
    ConfigVersionStore F :=
  { store with versions := dictSet store.versions id dir }

/-- The store after one write. -/
def write (store : ConfigVersionStore F) : StoreWrite F → ConfigVersionStore F
  | .makeDir id => store.setDir id (store.dir id)
  | .document id file text => store.setDir id ((store.dir id).setDocument text file)
  | .manifestTmp id manifest =>
      store.setDir id { store.dir id with manifestTmp := some manifest }
  | .replaceManifest id => store.setDir id (store.dir id).replaceManifest
  | .currentTmp id => { store with currentTmp := some id }
  | .replaceCurrent => { store with current := store.currentTmp, currentTmp := none }

/-! ## Reading -/

/-- `_read_manifest`. -/
def readManifest (store : ConfigVersionStore F) (id : Nat) : StoreResult (ConfigVersion F) :=
  (store.dir id).readManifest id

/-- `get_version`. -/
def getVersion (store : ConfigVersionStore F) (id : Nat) : StoreResult (ConfigVersion F) :=
  store.readManifest id

/-- `_next_id`. -/
def nextId (store : ConfigVersionStore F) : Nat :=
  (dictKeys store.versions).foldl max 0 + 1

/-- The documents that `file_paths` finds on the disk for a version. -/
structure FilePaths where
  connections : Nat × DocumentFile
  policy : Nat × DocumentFile
  catalog : Option (Nat × DocumentFile)
  templates : Option (Nat × DocumentFile)

/-- `file_paths`. -/
def filePaths (store : ConfigVersionStore F) (id : Nat) : StoreResult FilePaths :=
  match dictGet store.versions id with
  | none => .error (unknownVersion id)
  | some dir => .ok {
      connections := (id, .connections)
      policy := (id, .policy)
      catalog := dir.catalog.map fun _ => (id, .catalog)
      templates := dir.templates.map fun _ => (id, .templates) }

/-- `list_versions`. -/
def listVersions (store : ConfigVersionStore F) : StoreResult (List (ConfigVersion F)) :=
  (mapAll store.readManifest (dictKeys store.versions)).map fun versions =>
    versions.insertionSort fun first second => first.id ≤ second.id

/-- `get_active_version`. -/
def getActiveVersion (store : ConfigVersionStore F) : StoreResult (Option (ConfigVersion F)) :=
  match store.current with
  | none => .ok none
  | some id => (store.readManifest id).map some

/-! ## Operations -/

/-- `_write_manifest`. -/
def writeManifest (manifest : ConfigManifest F) : List (StoreWrite F) :=
  [.manifestTmp manifest.id manifest, .replaceManifest manifest.id]

/-- `_write_content`. -/
def writeContent (id : Nat) (documents : VersionDocuments) : List (StoreWrite F) :=
  [.makeDir id, .document id .connections documents.connectionsYaml,
    .document id .policy documents.policyYaml] ++
  (documents.catalogYaml.map fun text => StoreWrite.document id .catalog text).toList ++
  (documents.templatesYaml.map fun text => StoreWrite.document id .templates text).toList

/-- The files of a new version: `_write_content`, then `_write_manifest`. -/
def writeVersion (manifest : ConfigManifest F) (documents : VersionDocuments) :
    List (StoreWrite F) :=
  writeContent manifest.id documents ++ writeManifest manifest

/-- `_atomic_write(self._current_path, …)`. -/
def writeCurrent (id : Nat) : List (StoreWrite F) :=
  [.currentTmp id, .replaceCurrent]

/-- The version that `bootstrap_if_empty` seeds. -/
def seededVersion (documents : VersionDocuments) (now id : Nat) : ConfigVersion F :=
  { documents with
    id := id
    status := .active
    createdAt := now
    createdBy := "system:bootstrap"
    description := some "Bootstrapped from the deployment's configured files."
    appliedAt := some now
    appliedBy := some "system:bootstrap" }

/-- `bootstrap_if_empty`. -/
def bootstrapIfEmpty (documents : VersionDocuments) (now : Nat) (store : ConfigVersionStore F) :
    StoreResult (StorePlan F) := do
  match ← store.getActiveVersion with
  | some active => pure { writes := [], result := active }
  | none =>
      let version := seededVersion documents now store.nextId
      pure {
        writes := writeVersion version.toConfigManifest documents ++ writeCurrent version.id
        result := version }

/-- The version that `create_staged_version` writes. -/
def stagedVersion (documents : VersionDocuments) (description : Option String) (actor : String)
    (now id : Nat) : ConfigVersion F :=
  { documents with
    id := id
    status := .staged
    createdAt := now
    createdBy := actor
    description := description }

/-- `create_staged_version`. -/
def createStagedVersion (documents : VersionDocuments) (description : Option String)
    (actor : String) (now : Nat) (store : ConfigVersionStore F) : StoreResult (StorePlan F) :=
  let version := stagedVersion documents description actor now store.nextId
  .ok {
    writes := writeVersion version.toConfigManifest documents
    result := version }

/-- A version once a reviewer's decision has replaced their earlier one. -/
def reviewedVersion (version : ConfigVersion F) (record : ConfigApprovalRecord F) :
    ConfigVersion F :=
  { version with
    approvals := (version.approvals.filter fun other => other.approver ≠ record.approver) ++
      [record] }

/-- `add_approval`. -/
def addApproval (id : Nat) (record : ConfigApprovalRecord F) (store : ConfigVersionStore F) :
    StoreResult (StorePlan F) := do
  let version ← store.readManifest id
  refuse (version.status ≠ .staged) (.rejected (policyViolationError
    (s!"Only a staged version can be reviewed; version {id} is " ++ version.status.value)))
  refuse (record.approver = version.createdBy) (.rejected (policyViolationError
    ("A config version's author cannot approve or reject their own change " ++
      "(four-eyes separation of duties)")))
  refuse (record.note.any fun text => 500 < text.length)
    (.rejected ⟨.valueError, "note: String should have at most 500 characters"⟩)
  let updated := reviewedVersion version record
  pure { writes := writeManifest updated.toConfigManifest, result := updated }

/-- What `mark_active` writes for the version that was active. -/
def deactivation (id : Nat) (store : ConfigVersionStore F) : StoreResult (List (StoreWrite F)) :=
  match store.current.filter fun previousId => previousId ≠ id with
  | none => .ok []
  | some previousId =>
      (store.readManifest previousId).map fun previous =>
        writeManifest { previous.toConfigManifest with status := .inactive }

/-- A version once `mark_active` has changed it. -/
def markedVersion (version : ConfigVersion F) (actor : String) (now : Nat)
    (previousId : Option Nat) : ConfigVersion F :=
  { version with
    status := .active
    appliedAt := some now
    appliedBy := some actor
    previousActiveVersionId := previousId }

/-- `mark_active`. -/
def markActive (id : Nat) (actor : String) (now : Nat) (store : ConfigVersionStore F) :
    StoreResult (StorePlan F) := do
  let version ← store.readManifest id
  let deactivated ← store.deactivation id
  let updated := markedVersion version actor now store.current
  pure {
    writes := deactivated ++ (writeManifest updated.toConfigManifest ++ writeCurrent id)
    result := updated }

/-! ## What the writes do to the readings -/

section Writes

variable (store : ConfigVersionStore F) (id other : Nat)

@[simp] theorem dir_setDir (dir : VersionDir F) :
    (store.setDir id dir).dir other = if id = other then dir else store.dir other := by
  unfold ConfigVersionStore.dir setDir
  rw [dictGet_dictSet]
  by_cases same : id = other
  · simp [same]
  · simp [same]

@[simp] theorem setDir_setDir (first second : VersionDir F) :
    (store.setDir id first).setDir id second = store.setDir id second := by
  unfold setDir
  rw [dictSet_dictSet]

@[simp] theorem current_setDir (dir : VersionDir F) :
    (store.setDir id dir).current = store.current :=
  rfl

theorem readManifest_setDir (dir : VersionDir F) :
    (store.setDir id dir).readManifest other =
      if id = other then dir.readManifest id else store.readManifest other := by
  unfold readManifest
  rw [dir_setDir]
  by_cases same : id = other
  · rw [if_pos same, if_pos same, same]
  · rw [if_neg same, if_neg same]

/-- A directory that only its temporary manifest changes holds the same version. -/
theorem readManifest_manifestTmp (manifest : ConfigManifest F) :
    (store.write (.manifestTmp id manifest)).readManifest other = store.readManifest other := by
  refine (readManifest_setDir store id other _).trans ?_
  by_cases same : id = other
  · rw [if_pos same, ← same]
    rfl
  · rw [if_neg same]

variable {store id}

theorem dir_of_not_mem (absent : id ∉ dictKeys store.versions) : store.dir id = {} := by
  unfold ConfigVersionStore.dir
  rw [dictGet_eq_none_iff.mpr absent, Option.getD_none]

theorem mem_of_readManifest {version : ConfigVersion F}
    (read : store.readManifest id = .ok version) : id ∈ dictKeys store.versions := by
  by_contra absent
  unfold readManifest at read
  rw [dir_of_not_mem absent] at read
  cases read

/-- A version that is read was put together from its directory. -/
theorem readManifest_eq_ok_iff {version : ConfigVersion F} :
    store.readManifest id = .ok version ↔
      (store.dir id).manifest = some version.toConfigManifest ∧
        ∃ connections policy, (store.dir id).connections = some connections ∧
          (store.dir id).policy = some policy ∧
          version.toVersionDocuments = VersionDocuments.asRead
            ⟨connections, policy, (store.dir id).catalog, (store.dir id).templates⟩ := by
  unfold readManifest VersionDir.readManifest
  constructor
  · intro read
    split at read
    · cases read
    rename_i manifest written
    split at read
    · cases read
    · cases read
    rename_i connections policy first second
    cases read
    exact ⟨written, connections, policy, first, second, rfl⟩
  · rintro ⟨written, connections, policy, first, second, documents⟩
    rw [written]
    dsimp only
    rw [first, second]
    obtain ⟨manifest, read⟩ := version
    cases documents
    rfl

theorem foldl_writeManifest (store : ConfigVersionStore F) (manifest : ConfigManifest F) :
    (writeManifest manifest).foldl write store =
      store.setDir manifest.id
        { store.dir manifest.id with manifest := some manifest, manifestTmp := none } := by
  simp [writeManifest, write, VersionDir.replaceManifest]

theorem foldl_writeContent {documents : VersionDocuments}
    (absent : id ∉ dictKeys store.versions) :
    (writeContent id documents).foldl write store =
      store.setDir id {
        connections := some documents.connectionsYaml
        policy := some documents.policyYaml
        catalog := documents.catalogYaml
        templates := documents.templatesYaml } := by
  obtain ⟨connections, policy, catalog, templates⟩ := documents
  cases catalog with
  | none =>
      cases templates with
      | none => simp [writeContent, write, VersionDir.setDocument, dir_of_not_mem absent]
      | some _ => simp [writeContent, write, VersionDir.setDocument, dir_of_not_mem absent]
  | some _ =>
      cases templates with
      | none => simp [writeContent, write, VersionDir.setDocument, dir_of_not_mem absent]
      | some _ => simp [writeContent, write, VersionDir.setDocument, dir_of_not_mem absent]

theorem foldl_writeVersion {manifest : ConfigManifest F} {documents : VersionDocuments}
    (absent : manifest.id ∉ dictKeys store.versions) :
    (writeVersion manifest documents).foldl write store =
      store.setDir manifest.id {
        manifest := some manifest
        connections := some documents.connectionsYaml
        policy := some documents.policyYaml
        catalog := documents.catalogYaml
        templates := documents.templatesYaml } := by
  unfold writeVersion
  rw [List.foldl_append, foldl_writeContent absent, foldl_writeManifest, setDir_setDir,
    dir_setDir, if_pos rfl]

/-- A new manifest changes the version that it names, and no document. -/
theorem readManifest_writeManifest {manifest : ConfigManifest F} {version : ConfigVersion F}
    (read : store.readManifest manifest.id = .ok version) (other : Nat) :
    ((writeManifest manifest).foldl write store).readManifest other =
      if manifest.id = other then
        .ok { version with toConfigManifest := manifest }
      else store.readManifest other := by
  rw [foldl_writeManifest, readManifest_setDir]
  by_cases same : manifest.id = other
  · obtain ⟨_, connections, policy, first, second, documents⟩ := readManifest_eq_ok_iff.mp read
    rw [if_pos same, if_pos same]
    unfold VersionDir.readManifest
    dsimp only
    rw [first, second]
    obtain ⟨old, texts⟩ := version
    cases documents
    rfl
  · rw [if_neg same, if_neg same]

/-- The files of a new version hold it. -/
theorem readManifest_writeVersion {manifest : ConfigManifest F} {documents : VersionDocuments}
    (absent : manifest.id ∉ dictKeys store.versions) (other : Nat) :
    ((writeVersion manifest documents).foldl write store).readManifest other =
      if manifest.id = other then
        .ok { toConfigManifest := manifest, toVersionDocuments := documents.asRead }
      else store.readManifest other := by
  rw [foldl_writeVersion absent, readManifest_setDir]
  rfl

/-- A manifest that is cut before its rename changes no version. -/
theorem readManifest_writeManifest_take (manifest : ConfigManifest F) {count : Nat}
    (early : count < (writeManifest manifest).length) (other : Nat) :
    (((writeManifest manifest).take count).foldl write store).readManifest other =
      store.readManifest other := by
  rcases count with _ | _ | count
  · rfl
  · exact readManifest_manifestTmp store manifest.id other manifest
  · simp only [writeManifest, List.length_cons, List.length_nil] at early
    omega

/-- A directory without a manifest changes no version. -/
theorem readManifest_write_unlisted (made : StoreWrite F) {id : Nat}
    (unlisted : (store.dir id).manifest = none)
    (kind : made = .makeDir id ∨ (∃ file text, made = .document id file text) ∨
      ∃ manifest, made = .manifestTmp id manifest) :
    ((store.write made).dir id).manifest = none ∧
      ∀ other, (store.write made).readManifest other = store.readManifest other := by
  have fails : ∀ dir : VersionDir F, dir.manifest = none → ∀ other,
      (store.setDir id dir).readManifest other = store.readManifest other := by
    intro dir missing other
    rw [readManifest_setDir]
    by_cases same : id = other
    · rw [if_pos same, ← same]
      unfold readManifest VersionDir.readManifest
      rw [missing, unlisted]
    · rw [if_neg same]
  have missing : ∀ dir : VersionDir F, dir.manifest = none →
      ((store.setDir id dir).dir id).manifest = none := by
    intro dir missing
    rw [dir_setDir, if_pos rfl]
    exact missing
  rcases kind with rfl | ⟨file, text, rfl⟩ | ⟨manifest, rfl⟩
  · exact ⟨missing _ unlisted, fails _ unlisted⟩
  · have without : ((store.dir id).setDocument text file).manifest = none := by
      cases file with
      | connections => exact unlisted
      | policy => exact unlisted
      | catalog => exact unlisted
      | templates => exact unlisted
    exact ⟨missing _ without, fails _ without⟩
  · exact ⟨missing _ unlisted, fails _ unlisted⟩

theorem kind_of_mem_writeContent {id : Nat} {documents : VersionDocuments} {made : StoreWrite F}
    (member : made ∈ writeContent id documents) :
    made = .makeDir id ∨ ∃ file text, made = .document id file text := by
  obtain ⟨connections, policy, catalog, templates⟩ := documents
  simp only [writeContent, List.mem_append, List.mem_cons, List.not_mem_nil, or_false,
    Option.mem_toList, Option.map_eq_some_iff] at member
  rcases member with ((rfl | rfl | rfl) | ⟨_, _, rfl⟩) | ⟨_, _, rfl⟩
  · exact .inl rfl
  · exact .inr ⟨_, _, rfl⟩
  · exact .inr ⟨_, _, rfl⟩
  · exact .inr ⟨_, _, rfl⟩
  · exact .inr ⟨_, _, rfl⟩

/-- A new version that is cut before its manifest is renamed changes no version. -/
theorem readManifest_writeVersion_take {manifest : ConfigManifest F}
    {documents : VersionDocuments} (absent : manifest.id ∉ dictKeys store.versions) {count : Nat}
    (early : count < (writeVersion manifest documents).length) (other : Nat) :
    (((writeVersion manifest documents).take count).foldl write store).readManifest other =
      store.readManifest other := by
  have split : writeVersion manifest documents =
      (writeContent manifest.id documents ++ [.manifestTmp manifest.id manifest]) ++
        [.replaceManifest manifest.id] := by
    simp [writeVersion, writeManifest]
  have inside : count ≤ (writeContent manifest.id documents ++
      [StoreWrite.manifestTmp manifest.id manifest]).length := by
    rw [split, List.length_append] at early
    exact Nat.le_of_lt_succ early
  rw [split, List.take_append_of_le_length inside]
  refine (@holds_foldl_take _ _ write
    (fun reached : ConfigVersionStore F => (reached.dir manifest.id).manifest = none ∧
      ∀ other, reached.readManifest other = store.readManifest other) _ store
    ⟨?_, fun _ => rfl⟩ ?_ count).2 other
  · rw [dir_of_not_mem absent]
  · rintro made member reached ⟨unlisted, same⟩
    obtain ⟨still, kept⟩ := readManifest_write_unlisted made unlisted (by
      rcases List.mem_append.mp member with content | last
      · rcases kind_of_mem_writeContent content with dir | document
        · exact .inl dir
        · exact .inr (.inl document)
      · exact .inr (.inr ⟨manifest, List.mem_singleton.mp last⟩))
    exact ⟨still, fun other => (kept other).trans (same other)⟩

theorem mem_versions_writeVersion {manifest : ConfigManifest F} {documents : VersionDocuments}
    (absent : manifest.id ∉ dictKeys store.versions) :
    other ∈ dictKeys ((writeVersion manifest documents).foldl write store).versions ↔
      other = manifest.id ∨ other ∈ dictKeys store.versions := by
  rw [foldl_writeVersion absent]
  exact mem_dictKeys_dictSet

theorem current_foldl_writeVersion {manifest : ConfigManifest F} {documents : VersionDocuments}
    (absent : manifest.id ∉ dictKeys store.versions) :
    ((writeVersion manifest documents).foldl write store).current = store.current := by
  rw [foldl_writeVersion absent]
  rfl

theorem foldl_writeCurrent (store : ConfigVersionStore F) (id : Nat) :
    (writeCurrent id).foldl write store =
      { store with current := some id, currentTmp := none } :=
  rfl

theorem lt_nextId (member : id ∈ dictKeys store.versions) : id < store.nextId := by
  have bound : ∀ (ids : List Nat) (start : Nat),
      start ≤ ids.foldl max start ∧ ∀ known ∈ ids, known ≤ ids.foldl max start := by
    intro ids
    induction ids with
    | nil => exact fun start => ⟨le_rfl, fun _ absurd => nomatch absurd⟩
    | cons first rest ih =>
        intro start
        obtain ⟨least, each⟩ := ih (max start first)
        refine ⟨(le_max_left ..).trans least, fun known member => ?_⟩
        rcases List.mem_cons.mp member with rfl | later
        · exact (le_max_right ..).trans least
        · exact each known later
  exact Nat.lt_succ_of_le ((bound _ 0).2 id member)

theorem nextId_not_mem (store : ConfigVersionStore F) :
    store.nextId ∉ dictKeys store.versions :=
  fun member => lt_irrefl _ (lt_nextId member)

end Writes

/-! ## When an operation goes through -/

section Plans

variable {store : ConfigVersionStore F} {id : Nat} {plan : StorePlan F}

theorem addApproval_eq_ok_iff {record : ConfigApprovalRecord F} :
    store.addApproval id record = .ok plan ↔
      ∃ version, store.readManifest id = .ok version ∧ version.status = .staged ∧
        record.approver ≠ version.createdBy ∧
          (record.note.any fun text => decide (500 < text.length)) = false ∧
            plan = ⟨writeManifest (reviewedVersion version record).toConfigManifest,
              reviewedVersion version record⟩ := by
  unfold addApproval
  rw [bind_eq_ok_iff]
  constructor
  · rintro ⟨version, read, checked⟩
    obtain ⟨staged, checked⟩ := seq_eq_ok_iff.mp checked
    obtain ⟨other, checked⟩ := seq_eq_ok_iff.mp checked
    obtain ⟨short, planned⟩ := seq_eq_ok_iff.mp checked
    refine ⟨version, read, ?_, ?_, refuse_eq_ok_iff.mp short, ?_⟩
    · simpa using refuse_eq_ok_iff.mp staged
    · simpa using refuse_eq_ok_iff.mp other
    · exact (Except.ok.inj planned).symm
  · rintro ⟨version, read, staged, other, short, rfl⟩
    refine ⟨version, read, seq_eq_ok_iff.mpr ⟨?_, seq_eq_ok_iff.mpr ⟨?_, ?_⟩⟩⟩
    · exact refuse_eq_ok_iff.mpr (by simpa using staged)
    · exact refuse_eq_ok_iff.mpr (by simpa using other)
    · exact seq_eq_ok_iff.mpr ⟨refuse_eq_ok_iff.mpr short, rfl⟩

/-- What the deactivation writes: nothing, or the manifest of the version that was active. -/
theorem deactivation_eq_ok_iff {writes : List (StoreWrite F)} :
    store.deactivation id = .ok writes ↔
      ((∀ previousId, store.current = some previousId → previousId = id) ∧ writes = []) ∨
        ∃ previousId previous, store.current = some previousId ∧ previousId ≠ id ∧
          store.readManifest previousId = .ok previous ∧
            writes = writeManifest { previous.toConfigManifest with status := .inactive } := by
  unfold deactivation
  cases current : store.current with
  | none => simp [eq_comm]
  | some previousId =>
      by_cases same : previousId = id
      · simp [Option.filter, same, eq_comm]
      · have apart : id ≠ previousId := Ne.symm same
        cases read : store.readManifest previousId with
        | error failure => simp [Option.filter, same, read, Except.map]
        | ok previous => simp [Option.filter, same, apart, read, Except.map, eq_comm]

theorem markActive_eq_ok_iff {actor : String} {now : Nat} :
    store.markActive id actor now = .ok plan ↔
      ∃ version deactivated, store.readManifest id = .ok version ∧
        store.deactivation id = .ok deactivated ∧
          plan = ⟨deactivated ++
              (writeManifest (markedVersion version actor now store.current).toConfigManifest ++
                writeCurrent id),
            markedVersion version actor now store.current⟩ := by
  unfold markActive
  rw [bind_eq_ok_iff]
  constructor
  · rintro ⟨version, read, finished⟩
    obtain ⟨deactivated, written, planned⟩ := bind_eq_ok_iff.mp finished
    exact ⟨version, deactivated, read, written, (Except.ok.inj planned).symm⟩
  · rintro ⟨version, deactivated, read, written, rfl⟩
    exact ⟨version, read, bind_eq_ok_iff.mpr ⟨deactivated, written, rfl⟩⟩

theorem bootstrapIfEmpty_eq_ok_iff {documents : VersionDocuments} {now : Nat} :
    store.bootstrapIfEmpty documents now = .ok plan ↔
      (∃ active, store.getActiveVersion = .ok (some active) ∧ plan = ⟨[], active⟩) ∨
        (store.current = none ∧
          plan = ⟨writeVersion (seededVersion documents now store.nextId).toConfigManifest
              documents ++ writeCurrent store.nextId,
            seededVersion documents now store.nextId⟩) := by
  unfold bootstrapIfEmpty getActiveVersion
  rw [bind_eq_ok_iff]
  cases current : store.current with
  | none =>
      constructor
      · rintro ⟨_, ⟨⟩, planned⟩
        exact .inr ⟨rfl, (Except.ok.inj planned).symm⟩
      · rintro (⟨_, ⟨⟩, _⟩ | ⟨_, rfl⟩)
        exact ⟨none, rfl, rfl⟩
  | some activeId =>
      cases read : store.readManifest activeId with
      | error failure => simp [read, Except.map]
      | ok active =>
          simp only [read, Except.map, Except.ok.injEq, reduceCtorEq, false_and, or_false,
            exists_eq_left', Option.some.injEq]
          constructor
          · exact fun planned => (Except.ok.inj planned).symm
          · rintro rfl
            rfl

end Plans

end ConfigVersionStore

end QueryGate
