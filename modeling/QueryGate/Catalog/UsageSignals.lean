import QueryGate.Catalog.Store
import QueryGate.Foundation.KeyedLog

/-! # Usage signals

The usage evidence of the catalog file: the signals of `catalog/models.py`, the file that holds
them beside the governed catalog, and `record_usage_signals` of `catalog/usage.py`.

The file is over any type of items that are read as signals, so that the occurrences of one
signal can be told apart in a run. The code's own file holds the signals themselves.
-/

namespace QueryGate.Catalog

open Foundation

/-! ## Signals -/

inductive CatalogUsageSignalKind where
  | tableUsed | columnUsed | relationshipUsed
  deriving DecidableEq, Repr

/-- `_OBJECT_TYPE_FOR_SIGNAL_KIND`, from the object to the kind it goes with. -/
def DraftObject.signalKind : DraftObject → CatalogUsageSignalKind
  | .table => .tableUsed
  | .column _ => .columnUsed
  | .relationship _ => .relationshipUsed

/-- `CatalogUsageSignal`, with what `_target_matches_kind` checks. -/
structure CatalogUsageSignal where
  signalId : String
  connectionId : String
  principalPartition : String
  target : CatalogDraftTarget
  kind : CatalogUsageSignalKind
  schemaFingerprint : String
  observedAt : Timestamp
  connected : target.connectionId = connectionId
  kindMatches : target.object.signalKind = kind
  deriving DecidableEq, Repr

/-- `_MAX_USAGE_SIGNALS`. -/
@[irreducible] def maxUsageSignals : Nat := 50000

theorem maxUsageSignals_pos : 0 < maxUsageSignals := by
  unfold maxUsageSignals
  decide

/-! ## The file -/

/-- The catalog file: what governance works on, and the usage signals. -/
structure UsageCatalog (α : Type) where
  governed : SchemaCatalog
  usageSignals : List α := []
  deriving DecidableEq, Repr

section File

variable {α : Type} (read : α → CatalogUsageSignal)

/-- The id under which an item is recorded. -/
def signalId (item : α) : String :=
  (read item).signalId

/-- The models accept the file. -/
structure UsageCatalog.Valid (catalog : UsageCatalog α) : Prop where
  governed : catalog.governed.Valid
  size : catalog.usageSignals.length ≤ maxUsageSignals
  versionOne : catalog.governed.version = 1 → catalog.usageSignals = []
  ids : (catalog.usageSignals.map (signalId read)).Nodup

theorem UsageCatalog.valid_iff {catalog : UsageCatalog α} :
    catalog.Valid read ↔ catalog.governed.Valid ∧
      catalog.usageSignals.length ≤ maxUsageSignals ∧
      (catalog.governed.version = 1 → catalog.usageSignals = []) ∧
      (catalog.usageSignals.map (signalId read)).Nodup :=
  ⟨fun valid => ⟨valid.governed, valid.size, valid.versionOne, valid.ids⟩,
    fun ⟨governed, size, versionOne, ids⟩ => ⟨governed, size, versionOne, ids⟩⟩

instance UsageCatalog.decidableUnused (catalog : UsageCatalog α) :
    Decidable (catalog.usageSignals = []) :=
  decidable_of_iff _ List.isEmpty_iff

instance UsageCatalog.decidableValid (catalog : UsageCatalog α) : Decidable (catalog.Valid read) :=
  decidable_of_iff _ (UsageCatalog.valid_iff read).symm

/-- The error of a rule that is broken. -/
def UsageCatalog.fault (catalog : UsageCatalog α) : CatalogError :=
  if ¬catalog.governed.Valid then catalog.governed.fault
  else if maxUsageSignals < catalog.usageSignals.length then
    validationError "List should have at most 50000 items after validation"
  else if catalog.governed.version = 1 ∧ catalog.usageSignals ≠ [] then
    validationError CatalogRule.versionOne.message
  else validationError "catalog usage signal ids must be unique"

/-- `CatalogStore`, of the file with its usage signals. -/
structure UsageStore where
  catalog : UsageCatalog α
  valid : catalog.Valid read

/-- `CatalogStore.replace`. -/
def UsageStore.replace (draft : UsageCatalog α) : CatalogResult (UsageStore read) :=
  if valid : draft.Valid read then .ok ⟨draft, valid⟩ else .error draft.fault

theorem UsageStore.replace_eq_ok_iff {draft : UsageCatalog α} {store : UsageStore read} :
    UsageStore.replace read draft = .ok store ↔ store.catalog = draft := by
  unfold UsageStore.replace
  split
  case isTrue valid =>
    constructor
    · rintro ⟨⟩
      rfl
    · rintro rfl
      rfl
  case isFalse invalid =>
    constructor
    · rintro ⟨⟩
    · rintro rfl
      exact absurd store.valid invalid

theorem UsageStore.replace_of_valid {draft : UsageCatalog α} (valid : draft.Valid read) :
    UsageStore.replace read draft = .ok ⟨draft, valid⟩ :=
  (UsageStore.replace_eq_ok_iff read).mpr rfl

variable {read}

theorem UsageStore.ext {store other : UsageStore read} (same : store.catalog = other.catalog) :
    store = other := by
  cases store
  cases other
  cases same
  rfl

/-- `iter_usage_signals`. -/
def UsageStore.iterUsageSignals (store : UsageStore read) (connectionId : String) :
    List CatalogUsageSignal :=
  (store.catalog.usageSignals.map read).filter fun signal => signal.connectionId = connectionId

/-! ## Recording -/

inductive RecordOutcome where
  | recorded | noOp
  deriving DecidableEq, Repr

/-- `CatalogUsageRecordUpdate`, with the items of the batch where the code has their ids. -/
structure CatalogUsageRecordUpdate (read : α → CatalogUsageSignal) where
  store : UsageStore read
  outcome : RecordOutcome
  recorded : List α := []
  duplicates : List α := []

def CatalogUsageRecordUpdate.recordedSignalIds (update : CatalogUsageRecordUpdate read) :
    List String :=
  update.recorded.map (signalId read)

def CatalogUsageRecordUpdate.duplicateSignalIds (update : CatalogUsageRecordUpdate read) :
    List String :=
  update.duplicates.map (signalId read)

/-- The loop of `record_usage_signals`. -/
def absorbSignals (store : UsageStore read) (signals : List α) : KeyedLog α String :=
  KeyedLog.absorbAll (signalId read) store.catalog.usageSignals signals

/-- `record_usage_signals`. -/
def recordUsageSignals (store : UsageStore read) (signals : List α) :
    CatalogResult (CatalogUsageRecordUpdate read) :=
  if signals.isEmpty then .ok { store := store, outcome := .noOp }
  else
    let log := absorbSignals store signals
    if log.recorded.isEmpty then
      .ok { store := store, outcome := .noOp, duplicates := log.duplicates }
    else do
      let replaced ← UsageStore.replace read
        { store.catalog with usageSignals := keepLast maxUsageSignals log.items }
      pure
        { store := replaced, outcome := .recorded, recorded := log.recorded,
          duplicates := log.duplicates }

/-- A replay of signals that are persisted changes nothing. -/
theorem recordUsageSignals_of_known {store : UsageStore read} {signals : List α}
    (known : ∀ signal ∈ signals,
      signalId read signal ∈ store.catalog.usageSignals.map (signalId read)) :
    recordUsageSignals store signals =
      .ok { store := store, outcome := .noOp, duplicates := signals } := by
  cases signals with
  | nil => rfl
  | cons first rest =>
      rw [recordUsageSignals, if_neg (by simp), absorbSignals, KeyedLog.absorbAll_of_known known]
      rfl

theorem absorbed_absorbSignals (store : UsageStore read) (signals : List α) :
    KeyedLog.Absorbed (signalId read) store.catalog.usageSignals signals
      (absorbSignals store signals) :=
  KeyedLog.absorbed_absorbAll ..

theorem recorded_absorbSignals_ne_nil {store : UsageStore read} {signals : List α}
    (fresh : ¬∀ signal ∈ signals,
      signalId read signal ∈ store.catalog.usageSignals.map (signalId read)) :
    (absorbSignals store signals).recorded ≠ [] :=
  mt KeyedLog.recorded_eq_nil_iff.mp fresh

/-- A batch with a signal that is not persisted goes through a new file. -/
theorem recordUsageSignals_of_fresh {store : UsageStore read} {signals : List α}
    (fresh : ¬∀ signal ∈ signals,
      signalId read signal ∈ store.catalog.usageSignals.map (signalId read)) :
    recordUsageSignals store signals =
      (UsageStore.replace read
        { store.catalog with
          usageSignals := keepLast maxUsageSignals (absorbSignals store signals).items } >>=
        fun replaced => pure
          { store := replaced, outcome := .recorded,
            recorded := (absorbSignals store signals).recorded,
            duplicates := (absorbSignals store signals).duplicates }) := by
  unfold recordUsageSignals
  rw [if_neg fun none => fresh (by simp [List.isEmpty_iff.mp none])]
  dsimp only
  rw [if_neg fun none => recorded_absorbSignals_ne_nil fresh (List.isEmpty_iff.mp none)]

/-- What a recording that succeeds does. -/
structure Recorded (store : UsageStore read) (signals : List α)
    (update : CatalogUsageRecordUpdate read) : Prop where
  taken : signals.Perm (update.recorded ++ update.duplicates)
  governed : update.store.catalog.governed = store.catalog.governed
  kept : update.store.catalog.usageSignals =
    keepLast maxUsageSignals (store.catalog.usageSignals ++ update.recorded)
  known : ∀ signal ∈ update.duplicates, signalId read signal ∈
    (store.catalog.usageSignals ++ update.recorded).map (signalId read)
  distinct : ((store.catalog.usageSignals ++ update.recorded).map (signalId read)).Nodup

theorem keepLast_usageSignals (store : UsageStore read) :
    keepLast maxUsageSignals store.catalog.usageSignals = store.catalog.usageSignals := by
  rw [keepLast, Nat.sub_eq_zero_of_le store.valid.size, List.drop_zero]

theorem recorded_of_recordUsageSignals {store : UsageStore read} {signals : List α}
    {update : CatalogUsageRecordUpdate read}
    (done : recordUsageSignals store signals = .ok update) : Recorded store signals update := by
  by_cases known : ∀ signal ∈ signals,
      signalId read signal ∈ store.catalog.usageSignals.map (signalId read)
  · rw [recordUsageSignals_of_known known] at done
    cases done
    refine ⟨.refl _, rfl, ?_, ?_, ?_⟩
    · rw [List.append_nil, keepLast_usageSignals]
    · rwa [List.append_nil]
    · rw [List.append_nil]
      exact store.valid.ids
  · have absorbed := absorbed_absorbSignals store signals
    rw [recordUsageSignals_of_fresh known] at done
    obtain ⟨replaced, accepted, finished⟩ := (bind_eq_ok_iff ..).mp done
    have held := (UsageStore.replace_eq_ok_iff read).mp accepted
    cases finished
    refine ⟨absorbed.taken, ?_, ?_, ?_, ?_⟩
    · rw [held]
    · rw [held, absorbed.items]
    · rw [← absorbed.items]
      exact absorbed.known
    · rw [← absorbed.items]
      exact absorbed.distinct store.valid.ids

/-- A batch with a signal that is not persisted changes the file. -/
theorem catalog_ne_of_fresh {store : UsageStore read} {signals : List α}
    {update : CatalogUsageRecordUpdate read}
    (fresh : ¬∀ signal ∈ signals,
      signalId read signal ∈ store.catalog.usageSignals.map (signalId read))
    (done : recordUsageSignals store signals = .ok update) :
    update.store.catalog ≠ store.catalog := by
  intro same
  have recorded := recorded_of_recordUsageSignals done
  have some : update.recorded ≠ [] := by
    rw [recordUsageSignals_of_fresh fresh] at done
    obtain ⟨_, _, finished⟩ := (bind_eq_ok_iff ..).mp done
    cases finished
    exact recorded_absorbSignals_ne_nil fresh
  -- The newest signal of the file is one that the batch has brought.
  have newest := getLast?_keepLast maxUsageSignals_pos
    (List.append_ne_nil_of_right_ne_nil store.catalog.usageSignals some)
  rw [← recorded.kept, same, List.getLast?_append, List.getLast?_eq_getLast_of_ne_nil some,
    Option.some_or] at newest
  have distinct := recorded.distinct
  rw [List.map_append] at distinct
  exact List.disjoint_of_nodup_append distinct
    (List.mem_map_of_mem (List.mem_of_getLast? newest))
    (List.mem_map_of_mem (List.getLast_mem some))

/-- Such a batch is refused exactly by a file of version 1. -/
theorem recordUsageSignals_isOk_iff {store : UsageStore read} {signals : List α}
    (fresh : ¬∀ signal ∈ signals,
      signalId read signal ∈ store.catalog.usageSignals.map (signalId read)) :
    (∃ update, recordUsageSignals store signals = .ok update) ↔
      store.catalog.governed.version ≠ 1 := by
  have absorbed := absorbed_absorbSignals store signals
  rw [recordUsageSignals_of_fresh fresh]
  constructor
  · rintro ⟨update, done⟩ version
    obtain ⟨replaced, accepted, _⟩ := (bind_eq_ok_iff ..).mp done
    have held := (UsageStore.replace_eq_ok_iff read).mp accepted
    have empty := replaced.valid.versionOne (by rw [held]; exact version)
    rw [held, absorbed.items] at empty
    have none := keepLast_eq_nil maxUsageSignals_pos empty
    exact recorded_absorbSignals_ne_nil fresh (List.append_eq_nil_iff.mp none).2
  · intro version
    have valid : UsageCatalog.Valid read
        { store.catalog with
          usageSignals := keepLast maxUsageSignals (absorbSignals store signals).items } :=
      { governed := store.valid.governed
        size := length_keepLast_le maxUsageSignals _
        versionOne := fun one => absurd one version
        ids := (absorbed.distinct store.valid.ids).sublist ((keepLast_sublist ..).map _) }
    rw [UsageStore.replace_of_valid read valid]
    exact ⟨_, rfl⟩

end File

end QueryGate.Catalog
