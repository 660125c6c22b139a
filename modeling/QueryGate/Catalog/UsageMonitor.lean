import QueryGate.Catalog.UsageLearning
import QueryGate.Foundation.Runs

/-! # The usage monitor

`InProcessUsageSignalBuffer` and `CatalogUsageLearningMonitor.run_once` of `catalog/usage.py`. A
cycle drains a connection's buffer, hands the batch to the catalog file, and then runs the
learner on the file. Calls and cycles go on while other cycles are under way, and an update of
the file may fail at any point.
-/

namespace QueryGate.Catalog

open Foundation

/-! ## The buffer -/

/-- `InProcessUsageSignalBuffer`, of a size that the configuration allows. -/
structure UsageSignalBuffer (α : Type) where
  maxSize : Nat
  sized : 1 ≤ maxSize ∧ maxSize ≤ 100000
  byConnection : List (String × List α) := []

namespace UsageSignalBuffer

variable {α : Type}

/-- `self._by_connection[connection_id]`. -/
def bucket (buffer : UsageSignalBuffer α) (connectionId : String) : List α :=
  (dictGet buffer.byConnection connectionId).getD []

/-- `enqueue`: the buffer after it, and what is dropped and counted. -/
def enqueue (read : α → CatalogUsageSignal) (buffer : UsageSignalBuffer α) (signal : α) :
    UsageSignalBuffer α × List α :=
  let connectionId := (read signal).connectionId
  let bucket := buffer.bucket connectionId
  if buffer.maxSize ≤ bucket.length then
    ({ buffer with
       byConnection := dictSet buffer.byConnection connectionId (bucket.drop 1 ++ [signal]) },
      bucket.take 1)
  else
    ({ buffer with
       byConnection := dictSet buffer.byConnection connectionId (bucket ++ [signal]) }, [])

/-- `drain`. -/
def drain (buffer : UsageSignalBuffer α) (connectionId : String) :
    List α × UsageSignalBuffer α :=
  if (buffer.bucket connectionId).isEmpty then ([], buffer)
  else
    (buffer.bucket connectionId,
      { buffer with byConnection := dictSet buffer.byConnection connectionId [] })

/-- All that is buffered. -/
def contents (buffer : UsageSignalBuffer α) : List α :=
  buffer.byConnection.flatMap Prod.snd

section Counted

variable [DecidableEq α]

theorem count_flatMap_dictSet (entries : List (String × List α)) (key : String) (held : List α)
    (item : α) :
    ((dictGet entries key).getD []).count item +
        ((dictSet entries key held).flatMap Prod.snd).count item =
      held.count item + (entries.flatMap Prod.snd).count item := by
  induction entries with
  | nil => simp [dictGet, dictSet]
  | cons entry rest ih =>
      rw [dictGet, dictSet]
      split
      · simp only [Option.getD_some, List.flatMap_cons, List.count_append]
        omega
      · simp only [List.flatMap_cons, List.count_append]
        omega

/-- An enqueued signal is in the buffer, which loses no more than what it drops. -/
theorem count_enqueue (read : α → CatalogUsageSignal) (buffer : UsageSignalBuffer α)
    (signal item : α) :
    (buffer.enqueue read signal).1.contents.count item +
        (buffer.enqueue read signal).2.count item =
      buffer.contents.count item + [signal].count item := by
  have moved := fun held => count_flatMap_dictSet buffer.byConnection (read signal).connectionId
    held item
  unfold enqueue
  dsimp only
  split
  · have parts := congrArg (List.count item)
      (List.take_append_drop 1 (buffer.bucket (read signal).connectionId))
    have here := moved
      ((buffer.bucket (read signal).connectionId).drop 1 ++ [signal])
    simp only [contents, bucket, List.count_append] at parts here ⊢
    omega
  · have here := moved (buffer.bucket (read signal).connectionId ++ [signal])
    simp only [contents, bucket, List.count_append, List.count_nil] at here ⊢
    omega

/-- What is drained is no longer in the buffer, and all else still is. -/
theorem count_drain (buffer : UsageSignalBuffer α) (connectionId : String) (item : α) :
    (buffer.drain connectionId).1.count item + (buffer.drain connectionId).2.contents.count item =
      buffer.contents.count item := by
  unfold drain
  split
  · simp
  · have moved := count_flatMap_dictSet buffer.byConnection connectionId [] item
    simp only [contents, bucket, List.count_nil, Nat.zero_add] at moved ⊢
    exact moved

end Counted

end UsageSignalBuffer

/-! ## Updates of the file -/

/-- Where an update of the file fails: before the file is read or while it is worked on, while the
new file is written, or after it has replaced the old one. -/
inductive UpdateFault where
  | unread | unwritten | unsynced
  deriving DecidableEq, Repr

/-- How an update ends: the file is as before, or the update raises though the file is new, or it
returns. -/
inductive Updated (σ ρ : Type) where
  | raised
  | replaced (store : σ) (result : ρ)
  | returned (store : σ) (result : ρ)

section Update

variable {α ρ : Type} [DecidableEq α] {read : α → CatalogUsageSignal}

/-- `CatalogFileRepository.update_async`. -/
def updateAsync (fault : Option UpdateFault) (current : UsageStore read)
    (updater : UsageStore read → CatalogResult (UsageStore read × ρ)) :
    Updated (UsageStore read) ρ :=
  if fault = some .unread then .raised
  else
    match updater current with
    | .error _ => .raised
    | .ok (store, result) =>
        if fault = some .unwritten ∧ store.catalog ≠ current.catalog then .raised
        else if fault = some .unsynced then .replaced store result
        else .returned store result

/-- An update leaves a failed file alone, and otherwise has the file its updater made. -/
theorem updateAsync_cases (fault : Option UpdateFault) (current : UsageStore read)
    (updater : UsageStore read → CatalogResult (UsageStore read × ρ)) :
    updateAsync fault current updater = .raised ∨
      ∃ store result, updater current = .ok (store, result) ∧
        (updateAsync fault current updater = .replaced store result ∨
          updateAsync fault current updater = .returned store result) := by
  unfold updateAsync
  split
  · exact .inl rfl
  · split
    next => exact .inl rfl
    next store result made =>
      split
      · exact .inl rfl
      · split
        · exact .inr ⟨store, result, made, .inl rfl⟩
        · exact .inr ⟨store, result, made, .inr rfl⟩

/-- An update raises with the file as it was when it does not come to replacing it. -/
theorem updateAsync_eq_raised_iff {fault : Option UpdateFault} {current : UsageStore read}
    {updater : UsageStore read → CatalogResult (UsageStore read × ρ)} :
    updateAsync fault current updater = .raised ↔
      fault = some .unread ∨ ∀ store result, updater current = .ok (store, result) →
        fault = some .unwritten ∧ store.catalog ≠ current.catalog := by
  unfold updateAsync
  split
  case isTrue unread => exact iff_of_true rfl (.inl unread)
  case isFalse readable =>
    split
    next failure failed =>
      refine iff_of_true rfl (.inr fun store result made => ?_)
      rw [failed] at made
      cases made
    next store result made =>
      constructor
      · intro raised
        right
        intro other otherResult otherMade
        rw [made] at otherMade
        cases otherMade
        split at raised
        case isTrue unwritten => exact unwritten
        case isFalse =>
          split at raised
          · cases raised
          · cases raised
      · rintro (unread | faulty)
        · exact absurd unread readable
        · rw [if_pos (faulty store result made)]

/-- The file after an update. -/
def Updated.fileAfter (current : UsageStore read) : Updated (UsageStore read) ρ → UsageStore read
  | .raised => current
  | .replaced store _ => store
  | .returned store _ => store

/-- What holds of the file and of any file the updater makes of it holds after the update. -/
theorem fileAfter_updateAsync (holds : UsageStore read → Prop) {fault : Option UpdateFault}
    {current : UsageStore read}
    {updater : UsageStore read → CatalogResult (UsageStore read × ρ)} (before : holds current)
    (made : ∀ store result, updater current = .ok (store, result) → holds store) :
    holds ((updateAsync fault current updater).fileAfter current) := by
  rcases updateAsync_cases fault current updater with raised | ⟨store, result, done, replaced | returned⟩
  · rw [raised]
    exact before
  · rw [replaced]
    exact made store result done
  · rw [returned]
    exact made store result done

end Update

theorem map_eq_ok_iff {ε β γ : Type} {outcome : Except ε β} {image : β → γ} {result : γ} :
    outcome.map image = .ok result ↔ ∃ value, outcome = .ok value ∧ image value = result := by
  cases outcome with
  | error failure => simp [Except.map]
  | ok value => simp [Except.map]

/-! ## The monitor -/

/-- A signal as it was enqueued by one call. -/
structure UsageOccurrence where
  number : Nat
  signal : CatalogUsageSignal
  deriving DecidableEq, Repr

/-- What a cycle does next: hand over the signals it has drained, or run the learner. -/
inductive CycleStage where
  | persist (first : UsageOccurrence) (rest : List UsageOccurrence)
  | learn
  deriving DecidableEq, Repr

/-- A cycle of `run_once` under way. -/
structure UsageCycle where
  connectionId : String
  stage : CycleStage
  deriving DecidableEq, Repr

/-- The signals a cycle has in hand. -/
def UsageCycle.drained (cycle : UsageCycle) : List UsageOccurrence :=
  match cycle.stage with
  | .persist first rest => first :: rest
  | .learn => []

/-- The buffer, the catalog file, the cycles under way, and the number of calls so far. -/
structure UsageSystem where
  buffer : UsageSignalBuffer UsageOccurrence
  store : UsageStore UsageOccurrence.signal
  cycles : List UsageCycle := []
  calls : Nat := 0

inductive UsageAction where
  /-- `enqueue_usage_signal`. -/
  | enqueue (signal : CatalogUsageSignal)
  /-- `run_once` drains the buffer. -/
  | start (connectionId : String)
  /-- A cycle under way hands over what it has drained. -/
  | persist (position : Nat) (fault : Option UpdateFault)
  /-- A cycle under way runs the learner. -/
  | learn (position : Nat) (now : Timestamp) (fault : Option UpdateFault)
  deriving DecidableEq, Repr

inductive UsageEventKind where
  | enqueued | dropped | recorded | duplicate | evicted
  deriving DecidableEq, Repr

/-- What has happened to a signal. -/
structure UsageEvent where
  kind : UsageEventKind
  occurrence : UsageOccurrence
  deriving DecidableEq, Repr

/-- `_persist`. -/
def persistUpdate (drained : List UsageOccurrence) (store : UsageStore UsageOccurrence.signal) :
    CatalogResult (UsageStore UsageOccurrence.signal ×
      CatalogUsageRecordUpdate UsageOccurrence.signal) :=
  (recordUsageSignals store drained).map fun update => (update.store, update)

/-- `_learn`. -/
def learnUpdate (runtime : SchemaRuntime) (connectionId : String) (now : Timestamp)
    (store : UsageStore UsageOccurrence.signal) :
    CatalogResult (UsageStore UsageOccurrence.signal ×
      CatalogGenerationUpdate UsageOccurrence.signal) :=
  (generateLearnedRelationshipProposals runtime store connectionId now).map fun update =>
    (update.store, update)

/-- The events of an update that records signals in a file. -/
def recordEvents (store : UsageStore UsageOccurrence.signal)
    (update : CatalogUsageRecordUpdate UsageOccurrence.signal) : List UsageEvent :=
  update.recorded.map (UsageEvent.mk .recorded) ++
    update.duplicates.map (UsageEvent.mk .duplicate) ++
    (beforeLast maxUsageSignals (store.catalog.usageSignals ++ update.recorded)).map
      (UsageEvent.mk .evicted)

namespace UsageSystem

/-- `enqueue_usage_signal`. -/
def enqueue (state : UsageSystem) (signal : CatalogUsageSignal) :
    UsageSystem × List UsageEvent :=
  let occurrence : UsageOccurrence := ⟨state.calls, signal⟩
  let (buffer, dropped) := state.buffer.enqueue UsageOccurrence.signal occurrence
  ({ state with buffer := buffer, calls := state.calls + 1 },
    ⟨.enqueued, occurrence⟩ :: dropped.map (UsageEvent.mk .dropped))

/-- `run_once` up to its first update. -/
def startCycle (state : UsageSystem) (connectionId : String) : UsageSystem :=
  match state.buffer.drain connectionId with
  | ([], _) => { state with cycles := state.cycles ++ [⟨connectionId, .learn⟩] }
  | (first :: rest, buffer) =>
      { state with
        buffer := buffer
        cycles := state.cycles ++ [⟨connectionId, .persist first rest⟩] }

/-- The first update of `run_once`. A cycle whose update raises is over. -/
def persistCycle (state : UsageSystem) (position : Nat) (connectionId : String)
    (drained : List UsageOccurrence) (fault : Option UpdateFault) :
    UsageSystem × List UsageEvent :=
  match updateAsync fault state.store (persistUpdate drained) with
  | .raised => ({ state with cycles := state.cycles.eraseIdx position }, [])
  | .replaced store update =>
      ({ state with store := store, cycles := state.cycles.eraseIdx position },
        recordEvents state.store update)
  | .returned store update =>
      ({ state with store := store, cycles := state.cycles.set position ⟨connectionId, .learn⟩ },
        recordEvents state.store update)

/-- The second update of `run_once`. -/
def learnCycle (runtime : SchemaRuntime) (state : UsageSystem) (position : Nat)
    (connectionId : String) (now : Timestamp) (fault : Option UpdateFault) : UsageSystem :=
  { state with
    store := (updateAsync fault state.store (learnUpdate runtime connectionId now)).fileAfter
      state.store
    cycles := state.cycles.eraseIdx position }

/-- One step, with the events it shows. -/
def step (runtime : SchemaRuntime) (state : UsageSystem) :
    UsageAction → Option (UsageSystem × List UsageEvent)
  | .enqueue signal => some (state.enqueue signal)
  | .start connectionId => some (state.startCycle connectionId, [])
  | .persist position fault =>
      match state.cycles[position]? with
      | some ⟨connectionId, .persist first rest⟩ =>
          some (state.persistCycle position connectionId (first :: rest) fault)
      | _ => none
  | .learn position now fault =>
      match state.cycles[position]? with
      | some ⟨connectionId, .learn⟩ =>
          some (state.learnCycle runtime position connectionId now fault, [])
      | _ => none

end UsageSystem

end QueryGate.Catalog
