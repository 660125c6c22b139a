import QueryGate.Catalog.Staleness
import QueryGate.Catalog.UsageMonitor

/-! # Conservation of usage evidence

Where an enqueued signal is, at any time of any run of calls and cycles. A step moves signals
between the buffer, the hands of a cycle and the file (`Moved`). Over a run they are all accounted
for, save the batches whose update did not come to replacing the file (`conserved_of_run`).
-/

namespace QueryGate.Catalog

open Foundation

/-- The occurrences of a kind of event. -/
def occurrencesOf (kind : UsageEventKind) (events : List UsageEvent) : List UsageOccurrence :=
  (events.filter fun event => event.kind = kind).map UsageEvent.occurrence

@[simp] theorem occurrencesOf_append (kind : UsageEventKind) (first second : List UsageEvent) :
    occurrencesOf kind (first ++ second) = occurrencesOf kind first ++ occurrencesOf kind second := by
  rw [occurrencesOf, List.filter_append, List.map_append]
  rfl

@[simp] theorem occurrencesOf_nil (kind : UsageEventKind) : occurrencesOf kind [] = [] :=
  rfl

theorem occurrencesOf_map (kind other : UsageEventKind) (occurrences : List UsageOccurrence) :
    occurrencesOf kind (occurrences.map (UsageEvent.mk other)) =
      if other = kind then occurrences else [] := by
  have kinds : ∀ event ∈ occurrences.map (UsageEvent.mk other), event.kind = other := by
    intro event member
    obtain ⟨_, _, rfl⟩ := List.mem_map.mp member
    rfl
  unfold occurrencesOf
  split
  case isTrue same =>
    rw [List.filter_eq_self.mpr fun event member => decide_eq_true ((kinds event member).trans same),
      List.map_map]
    exact List.map_id' occurrences
  case isFalse differ =>
    have none : (occurrences.map (UsageEvent.mk other)).filter
        (fun event => event.kind = kind) = [] := by
      apply List.filter_eq_nil_iff.mpr
      intro event member same
      exact differ ((kinds event member).symm.trans (of_decide_eq_true same))
    rw [none]
    rfl

namespace UsageSystem

/-- The signals in the buffer. -/
def buffered (state : UsageSystem) : List UsageOccurrence :=
  state.buffer.contents

/-- The signals that cycles under way have in hand. -/
def underway (state : UsageSystem) : List UsageOccurrence :=
  state.cycles.flatMap UsageCycle.drained

/-- The signals in the catalog file. -/
def persisted (state : UsageSystem) : List UsageOccurrence :=
  state.store.catalog.usageSignals

/-- Nothing is buffered and no cycle is under way. The file may hold signals from before. -/
structure Started (state : UsageSystem) : Prop where
  buffered : state.buffered = []
  cycles : state.cycles = []
  numbered : ∀ occurrence ∈ state.persisted, occurrence.number < state.calls

end UsageSystem

/-! ## One step -/

/-- What a step moves, with `more` that it takes out of the hands of a cycle and puts nowhere. -/
structure Moved (state next : UsageSystem) (new : List UsageEvent)
    (more : List UsageOccurrence) : Prop where
  transit : ∀ occurrence,
    (state.buffered ++ state.underway ++ occurrencesOf .enqueued new).count occurrence =
      (next.buffered ++ next.underway ++ occurrencesOf .dropped new ++
        occurrencesOf .recorded new ++ occurrencesOf .duplicate new ++ more).count occurrence
  history : state.persisted ++ occurrencesOf .recorded new =
    occurrencesOf .evicted new ++ next.persisted
  full : occurrencesOf .evicted new ≠ [] ∨ state.persisted.length = maxUsageSignals →
    next.persisted.length = maxUsageSignals
  known : ∀ occurrence ∈ occurrencesOf .duplicate new,
    signalId UsageOccurrence.signal occurrence ∈
      (state.persisted ++ occurrencesOf .recorded new).map (signalId UsageOccurrence.signal)
  numbered : occurrencesOf .enqueued new = [] ∧ next.calls = state.calls ∨
    ∃ signal, occurrencesOf .enqueued new = [⟨state.calls, signal⟩] ∧
      next.calls = state.calls + 1

section Steps

variable {state : UsageSystem}

theorem underway_append (cycles : List UsageCycle) (cycle : UsageCycle) :
    (cycles ++ [cycle]).flatMap UsageCycle.drained =
      cycles.flatMap UsageCycle.drained ++ cycle.drained := by
  rw [List.flatMap_append, List.flatMap_singleton]

/-- A cycle that is over has nothing in hand. -/
theorem count_eraseIdx {cycles : List UsageCycle} {position : Nat} {cycle : UsageCycle}
    (found : cycles[position]? = some cycle) (occurrence : UsageOccurrence) :
    (cycles.flatMap UsageCycle.drained).count occurrence =
      cycle.drained.count occurrence +
        ((cycles.eraseIdx position).flatMap UsageCycle.drained).count occurrence := by
  induction cycles generalizing position with
  | nil => cases found
  | cons first rest ih =>
      cases position with
      | zero =>
          cases found
          rw [List.flatMap_cons, List.count_append]
          rfl
      | succ position =>
          have later := ih found
          rw [List.flatMap_cons, List.eraseIdx_cons_succ, List.flatMap_cons, List.count_append,
            List.count_append]
          omega

/-- A cycle that goes on to the learner has nothing in hand. -/
theorem count_set_learn {cycles : List UsageCycle} {position : Nat} {cycle : UsageCycle}
    (found : cycles[position]? = some cycle) (connectionId : String)
    (occurrence : UsageOccurrence) :
    ((cycles.set position ⟨connectionId, .learn⟩).flatMap UsageCycle.drained).count occurrence =
      ((cycles.eraseIdx position).flatMap UsageCycle.drained).count occurrence := by
  induction cycles generalizing position with
  | nil => cases found
  | cons first rest ih =>
      cases position with
      | zero => rfl
      | succ position =>
          rw [List.set_cons_succ, List.eraseIdx_cons_succ, List.flatMap_cons, List.flatMap_cons,
            List.count_append, List.count_append, ih found]

theorem moved_enqueue (signal : CatalogUsageSignal) :
    Moved state (state.enqueue signal).1 (state.enqueue signal).2 [] := by
  have counted := state.buffer.count_enqueue UsageOccurrence.signal ⟨state.calls, signal⟩
  have split : (state.enqueue signal).2 =
      [⟨state.calls, signal⟩].map (UsageEvent.mk .enqueued) ++
        (state.buffer.enqueue UsageOccurrence.signal ⟨state.calls, signal⟩).2.map
          (UsageEvent.mk .dropped) := rfl
  have events : ∀ kind, occurrencesOf kind (state.enqueue signal).2 =
      (if .enqueued = kind then [⟨state.calls, signal⟩] else []) ++
        if .dropped = kind then
          (state.buffer.enqueue UsageOccurrence.signal ⟨state.calls, signal⟩).2 else [] := by
    intro kind
    rw [split, occurrencesOf_append, occurrencesOf_map, occurrencesOf_map]
  constructor
  · intro occurrence
    have here := counted occurrence
    simp only [events, reduceCtorEq, ↓reduceIte, List.append_nil, List.nil_append,
      List.count_append]
    simp only [UsageSystem.buffered, UsageSystem.underway, UsageSystem.enqueue] at here ⊢
    omega
  · simp only [events, reduceCtorEq, ↓reduceIte, List.append_nil, List.nil_append]
    rfl
  · simp only [events, reduceCtorEq, ↓reduceIte, List.append_nil, ne_eq, not_true_eq_false,
      false_or]
    exact id
  · simp only [events, reduceCtorEq, ↓reduceIte, List.append_nil, List.not_mem_nil,
      false_implies, implies_true]
  · right
    refine ⟨signal, ?_, rfl⟩
    simp only [events, reduceCtorEq, ↓reduceIte, List.append_nil]

theorem moved_startCycle (connectionId : String) :
    Moved state (state.startCycle connectionId) [] [] := by
  have counted := state.buffer.count_drain connectionId
  have moved : (state.startCycle connectionId).persisted = state.persisted ∧
      (state.startCycle connectionId).calls = state.calls ∧ ∀ occurrence,
        (state.buffered ++ state.underway).count occurrence =
          ((state.startCycle connectionId).buffered ++
            (state.startCycle connectionId).underway).count occurrence := by
    unfold UsageSystem.startCycle
    split
    next =>
      refine ⟨rfl, rfl, fun occurrence => ?_⟩
      simp only [UsageSystem.buffered, UsageSystem.underway, underway_append, List.count_append,
        UsageCycle.drained, List.count_nil]
      omega
    next first rest buffer drained =>
      refine ⟨rfl, rfl, fun occurrence => ?_⟩
      have here := counted occurrence
      rw [drained] at here
      simp only [UsageSystem.buffered, UsageSystem.underway, underway_append, List.count_append,
        UsageCycle.drained] at here ⊢
      omega
  obtain ⟨persisted, calls, transit⟩ := moved
  constructor
  · intro occurrence
    simpa using transit occurrence
  · rw [persisted]
    simp
  · rw [persisted]
    simp
  · simp
  · exact .inl ⟨rfl, calls⟩

section RecordEvents

variable (store : UsageStore UsageOccurrence.signal)
  (update : CatalogUsageRecordUpdate UsageOccurrence.signal)

theorem occurrencesOf_recordEvents (kind : UsageEventKind) :
    occurrencesOf kind (recordEvents store update) =
      (if .recorded = kind then update.recorded else []) ++
        (if .duplicate = kind then update.duplicates else []) ++
        if .evicted = kind then
          beforeLast maxUsageSignals (store.catalog.usageSignals ++ update.recorded) else [] := by
  rw [recordEvents, occurrencesOf_append, occurrencesOf_append, occurrencesOf_map,
    occurrencesOf_map, occurrencesOf_map]

@[simp] theorem enqueued_recordEvents :
    occurrencesOf .enqueued (recordEvents store update) = [] := by
  rw [occurrencesOf_recordEvents, if_neg nofun, if_neg nofun, if_neg nofun]
  rfl

@[simp] theorem dropped_recordEvents :
    occurrencesOf .dropped (recordEvents store update) = [] := by
  rw [occurrencesOf_recordEvents, if_neg nofun, if_neg nofun, if_neg nofun]
  rfl

@[simp] theorem recorded_recordEvents :
    occurrencesOf .recorded (recordEvents store update) = update.recorded := by
  rw [occurrencesOf_recordEvents, if_pos rfl, if_neg nofun, if_neg nofun, List.append_nil,
    List.append_nil]

@[simp] theorem duplicate_recordEvents :
    occurrencesOf .duplicate (recordEvents store update) = update.duplicates := by
  rw [occurrencesOf_recordEvents, if_neg nofun, if_pos rfl, if_neg nofun, List.append_nil,
    List.nil_append]

@[simp] theorem evicted_recordEvents :
    occurrencesOf .evicted (recordEvents store update) =
      beforeLast maxUsageSignals (store.catalog.usageSignals ++ update.recorded) := by
  rw [occurrencesOf_recordEvents, if_neg nofun, if_neg nofun, if_pos rfl, List.append_nil,
    List.nil_append]

end RecordEvents

/-- A batch that is recorded goes into the file or is there already. -/
theorem moved_record {next : UsageSystem} {position : Nat} {cycle : UsageCycle}
    (found : state.cycles[position]? = some cycle)
    {update : CatalogUsageRecordUpdate UsageOccurrence.signal}
    (done : recordUsageSignals state.store cycle.drained = .ok update)
    (buffer : next.buffer = state.buffer) (store : next.store = update.store)
    (calls : next.calls = state.calls)
    (hands : ∀ occurrence, next.underway.count occurrence =
      ((state.cycles.eraseIdx position).flatMap UsageCycle.drained).count occurrence) :
    Moved state next (recordEvents state.store update) [] := by
  have recorded := recorded_of_recordUsageSignals done
  have held : state.persisted = state.store.catalog.usageSignals := rfl
  have kept : next.persisted =
      keepLast maxUsageSignals (state.store.catalog.usageSignals ++ update.recorded) := by
    rw [UsageSystem.persisted, store, recorded.kept]
  constructor
  · intro occurrence
    have before := count_eraseIdx found occurrence
    have after := hands occurrence
    have taken := recorded.taken.count_eq occurrence
    simp only [enqueued_recordEvents, dropped_recordEvents, recorded_recordEvents,
      duplicate_recordEvents, List.append_nil, List.count_append, UsageSystem.buffered,
      UsageSystem.underway, buffer] at before after taken ⊢
    omega
  · rw [recorded_recordEvents, evicted_recordEvents, held, kept]
    exact (beforeLast_append_keepLast ..).symm
  · rw [evicted_recordEvents, held, kept]
    rintro (deleted | full)
    · exact length_keepLast_of_beforeLast deleted
    · apply length_keepLast_of_le
      rw [List.length_append, full]
      exact Nat.le_add_right ..
  · rw [duplicate_recordEvents, recorded_recordEvents, held]
    exact recorded.known
  · exact .inl ⟨enqueued_recordEvents .., calls⟩

/-- A batch whose update leaves the file as it is goes nowhere. -/
theorem moved_raised {position : Nat} {cycle : UsageCycle}
    (found : state.cycles[position]? = some cycle) :
    Moved state { state with cycles := state.cycles.eraseIdx position } [] cycle.drained := by
  constructor
  · intro occurrence
    have before := count_eraseIdx found occurrence
    simp only [occurrencesOf_nil, List.append_nil, List.count_append, UsageSystem.buffered,
      UsageSystem.underway] at before ⊢
    omega
  · exact List.append_nil _
  · rintro (deleted | full)
    · exact absurd rfl deleted
    · exact full
  · exact fun _ member => nomatch member
  · exact .inl ⟨rfl, rfl⟩

theorem moved_learnCycle (runtime : SchemaRuntime) {position : Nat} {connectionId : String}
    (found : state.cycles[position]? = some ⟨connectionId, .learn⟩) (now : Timestamp)
    (fault : Option UpdateFault) :
    Moved state (state.learnCycle runtime position connectionId now fault) [] [] := by
  have kept : (state.learnCycle runtime position connectionId now fault).persisted =
      state.persisted := by
    unfold UsageSystem.learnCycle UsageSystem.persisted
    dsimp only
    apply fileAfter_updateAsync
      (fun store => store.catalog.usageSignals = state.store.catalog.usageSignals) rfl
    intro store result made
    obtain ⟨update, done, same⟩ := map_eq_ok_iff.mp made
    cases same
    exact usageSignals_generateLearned done
  constructor
  · intro occurrence
    have before := count_eraseIdx found occurrence
    simp only [occurrencesOf_nil, List.append_nil, List.count_append, UsageSystem.buffered,
      UsageSystem.underway, UsageSystem.learnCycle, UsageCycle.drained, List.count_nil]
      at before ⊢
    omega
  · rw [kept]
    exact List.append_nil _
  · rw [kept]
    rintro (deleted | full)
    · exact absurd rfl deleted
    · exact full
  · exact fun _ member => nomatch member
  · exact .inl ⟨rfl, rfl⟩

/-- A cycle's update comes to replacing the file, or finds every signal there already. -/
def HandsOver (store : UsageStore UsageOccurrence.signal) (drained : List UsageOccurrence)
    (fault : Option UpdateFault) : Prop :=
  fault ≠ some .unread ∧
    ((∀ occurrence ∈ drained, signalId UsageOccurrence.signal occurrence ∈
        store.catalog.usageSignals.map (signalId UsageOccurrence.signal)) ∨
      store.catalog.governed.version ≠ 1 ∧ fault ≠ some .unwritten)

theorem persistUpdate_raised_iff {store : UsageStore UsageOccurrence.signal}
    {drained : List UsageOccurrence} {fault : Option UpdateFault} :
    updateAsync fault store (persistUpdate drained) = .raised ↔ ¬HandsOver store drained fault := by
  rw [updateAsync_eq_raised_iff, HandsOver, not_and_or, not_not]
  apply or_congr Iff.rfl
  by_cases known : ∀ occurrence ∈ drained, signalId UsageOccurrence.signal occurrence ∈
      store.catalog.usageSignals.map (signalId UsageOccurrence.signal)
  · apply iff_of_false
    · intro faulty
      have made : persistUpdate drained store = .ok (store, _) :=
        map_eq_ok_iff.mpr ⟨_, recordUsageSignals_of_known known, rfl⟩
      exact (faulty store _ made).2 rfl
    · exact fun unknown => unknown (.inl known)
  · rw [or_iff_right known, not_and_or, not_not, not_not]
    constructor
    · intro faulty
      by_cases version : store.catalog.governed.version = 1
      · exact .inl version
      · obtain ⟨update, done⟩ := (recordUsageSignals_isOk_iff known).mpr version
        have made : persistUpdate drained store = .ok (update.store, update) :=
          map_eq_ok_iff.mpr ⟨update, done, rfl⟩
        exact .inr (faulty _ _ made).1
    · rintro (version | unwritten) next update made
      · obtain ⟨update, done, _⟩ := map_eq_ok_iff.mp made
        exact absurd version ((recordUsageSignals_isOk_iff known).mp ⟨update, done⟩)
      · obtain ⟨update, done, same⟩ := map_eq_ok_iff.mp made
        cases same
        exact ⟨unwritten, catalog_ne_of_fresh known done⟩

theorem moved_persistCycle {position : Nat} {connectionId : String} {first : UsageOccurrence}
    {rest : List UsageOccurrence}
    (found : state.cycles[position]? = some ⟨connectionId, .persist first rest⟩)
    (fault : Option UpdateFault) :
    ∃ more, Moved state (state.persistCycle position connectionId (first :: rest) fault).1
        (state.persistCycle position connectionId (first :: rest) fault).2 more ∧
      (more = [] ↔ HandsOver state.store (first :: rest) fault) := by
  by_cases handed : HandsOver state.store (first :: rest) fault
  · refine ⟨[], ?_, iff_of_true rfl handed⟩
    have ended := updateAsync_cases fault state.store (persistUpdate (first :: rest))
    rcases ended with raised | ⟨store, update, made, replaced | returned⟩
    · exact absurd handed (persistUpdate_raised_iff.mp raised)
    · obtain ⟨_, done, same⟩ := map_eq_ok_iff.mp made
      cases same
      rw [UsageSystem.persistCycle, replaced]
      exact moved_record found done rfl rfl rfl fun _ => rfl
    · obtain ⟨_, done, same⟩ := map_eq_ok_iff.mp made
      cases same
      rw [UsageSystem.persistCycle, returned]
      exact moved_record found done rfl rfl rfl (count_set_learn found connectionId)
  · refine ⟨first :: rest, ?_, iff_of_false (List.cons_ne_nil first rest) handed⟩
    rw [UsageSystem.persistCycle, persistUpdate_raised_iff.mpr handed]
    exact moved_raised found

/-- The step is no update of the file that fails a batch. -/
def Delivers (state : UsageSystem) : UsageAction → Prop
  | .persist position fault => ∀ connectionId first rest,
      state.cycles[position]? = some ⟨connectionId, .persist first rest⟩ →
        HandsOver state.store (first :: rest) fault
  | _ => True

/-- A step takes a batch away exactly when its update fails it. -/
theorem moved_step {runtime : SchemaRuntime} {next : UsageSystem} {action : UsageAction}
    {new : List UsageEvent} (stepped : state.step runtime action = some (next, new)) :
    ∃ more, Moved state next new more ∧ (more = [] ↔ Delivers state action) := by
  cases action with
  | enqueue signal =>
      cases stepped
      exact ⟨[], moved_enqueue signal, iff_of_true rfl trivial⟩
  | start connectionId =>
      cases stepped
      exact ⟨[], moved_startCycle connectionId, iff_of_true rfl trivial⟩
  | persist position fault =>
      dsimp only [UsageSystem.step] at stepped
      split at stepped
      next connectionId first rest found =>
        obtain ⟨more, moved, delivered⟩ := moved_persistCycle found fault
        rw [Option.some.inj stepped] at moved
        refine ⟨more, moved, delivered.trans ⟨?_, fun delivers => delivers _ _ _ found⟩⟩
        intro handed _ _ _ held
        cases found.symm.trans held
        exact handed
      next => cases stepped
  | learn position now fault =>
      dsimp only [UsageSystem.step] at stepped
      split at stepped
      next connectionId found =>
        cases stepped
        exact ⟨[], moved_learnCycle runtime found now fault, iff_of_true rfl trivial⟩
      next => cases stepped

end Steps

/-! ## A run -/

/-- Every signal of the file at the start or enqueued since is accounted for, with `lost` those
that failed updates have taken away. -/
structure Conserved (start state : UsageSystem) (events : List UsageEvent)
    (lost : List UsageOccurrence) : Prop where
  transit : ∀ occurrence, (occurrencesOf .enqueued events).count occurrence =
    (state.buffered ++ state.underway ++ occurrencesOf .dropped events ++
      occurrencesOf .recorded events ++ occurrencesOf .duplicate events ++ lost).count occurrence
  history : start.persisted ++ occurrencesOf .recorded events =
    occurrencesOf .evicted events ++ state.persisted
  full : occurrencesOf .evicted events ≠ [] → state.persisted.length = maxUsageSignals
  known : ∀ occurrence ∈ occurrencesOf .duplicate events,
    signalId UsageOccurrence.signal occurrence ∈
      (start.persisted ++ occurrencesOf .recorded events).map (signalId UsageOccurrence.signal)
  numbered : ∀ occurrence ∈ start.persisted ++ occurrencesOf .enqueued events,
    occurrence.number < state.calls
  distinct : (start.persisted ++ occurrencesOf .enqueued events).Nodup

theorem conserved_of_started {start : UsageSystem} (started : start.Started) :
    Conserved start start [] [] where
  transit := by
    intro occurrence
    simp [started.buffered, UsageSystem.underway, started.cycles]
  history := List.append_nil _
  full := fun deleted => absurd rfl deleted
  known := fun _ member => nomatch member
  numbered := by
    rw [occurrencesOf_nil, List.append_nil]
    exact started.numbered
  distinct := by
    rw [occurrencesOf_nil, List.append_nil]
    exact start.store.valid.ids.of_map

theorem Conserved.moved {start state next : UsageSystem} {events new : List UsageEvent}
    {lost more : List UsageOccurrence} (conserved : Conserved start state events lost)
    (moved : Moved state next new more) :
    Conserved start next (events ++ new) (lost ++ more) where
  transit := by
    intro occurrence
    have before := conserved.transit occurrence
    have step := moved.transit occurrence
    simp only [occurrencesOf_append, List.count_append] at before step ⊢
    omega
  history := by
    rw [occurrencesOf_append, occurrencesOf_append, ← List.append_assoc, conserved.history,
      List.append_assoc, moved.history, List.append_assoc]
  full := by
    rw [occurrencesOf_append]
    intro deleted
    apply moved.full
    by_cases now : occurrencesOf .evicted new = []
    · rw [now, List.append_nil] at deleted
      exact .inr (conserved.full deleted)
    · exact .inl now
  known := by
    intro occurrence member
    rw [occurrencesOf_append] at member
    have history := congrArg (List.map (signalId UsageOccurrence.signal)) conserved.history
    rw [occurrencesOf_append, ← List.append_assoc, List.map_append]
    rcases List.mem_append.mp member with before | now
    · exact List.mem_append_left _ (conserved.known occurrence before)
    · have found := moved.known occurrence now
      rw [List.map_append] at found history
      rcases List.mem_append.mp found with held | fresh
      · apply List.mem_append_left
        rw [List.map_append, history, List.map_append]
        exact List.mem_append_right _ held
      · exact List.mem_append_right _ fresh
  numbered := by
    intro occurrence member
    rw [occurrencesOf_append, ← List.append_assoc] at member
    rcases moved.numbered with ⟨none, calls⟩ | ⟨signal, one, calls⟩
    · rw [none, List.append_nil] at member
      rw [calls]
      exact conserved.numbered occurrence member
    · rw [one] at member
      rw [calls]
      rcases List.mem_append.mp member with before | now
      · exact Nat.lt_succ_of_lt (conserved.numbered occurrence before)
      · rw [List.mem_singleton.mp now]
        exact Nat.lt_succ_self _
  distinct := by
    rw [occurrencesOf_append, ← List.append_assoc]
    rcases moved.numbered with ⟨none, _⟩ | ⟨signal, one, _⟩
    · rw [none, List.append_nil]
      exact conserved.distinct
    · rw [one]
      refine List.nodup_append.mpr ⟨conserved.distinct, List.nodup_singleton _, ?_⟩
      intro occurrence before other now same
      have older := conserved.numbered occurrence before
      rw [same, List.mem_singleton.mp now] at older
      exact absurd older (Nat.lt_irrefl _)

/-- Over a run, what is lost is what failed updates take away. -/
theorem conserved_of_run {runtime : SchemaRuntime} {start state final : UsageSystem}
    {past events : List UsageEvent} {lost : List UsageOccurrence} {actions : List UsageAction}
    (conserved : Conserved start state past lost)
    (ran : runSteps (UsageSystem.step runtime) state actions = some (final, events)) :
    ∃ more, Conserved start final (past ++ events) (lost ++ more) ∧
      (more = [] ↔ StepsMeet (UsageSystem.step runtime) Delivers state actions) := by
  induction actions generalizing state past lost events with
  | nil =>
      cases ran
      refine ⟨[], ?_, iff_of_true rfl trivial⟩
      rw [List.append_nil, List.append_nil]
      exact conserved
  | cons action rest ih =>
      obtain ⟨next, new, later, stepped, continued, rfl⟩ := runSteps_cons_eq_some_iff.mp ran
      obtain ⟨now, moved, delivered⟩ := moved_step stepped
      obtain ⟨more, kept, met⟩ := ih (conserved.moved moved) continued
      refine ⟨now ++ more, ?_, ?_⟩
      · rw [← List.append_assoc, ← List.append_assoc]
        exact kept
      · rw [List.append_eq_nil_iff, delivered, met, StepsMeet]
        apply and_congr Iff.rfl
        constructor
        · intro meets other otherStepped
          cases stepped.symm.trans otherStepped
          exact meets
        · exact fun meets => meets _ stepped

/-! ## Where a signal is -/

inductive UsagePlace where
  | buffer | catalog | dropped | duplicate | evicted
  deriving DecidableEq, Repr

/-- The signals of a place, after the events of a run. -/
def UsageSystem.signalsIn (state : UsageSystem) (events : List UsageEvent) :
    UsagePlace → List UsageOccurrence
  | .buffer => state.buffered
  | .catalog => state.persisted
  | .dropped => occurrencesOf .dropped events
  | .duplicate => occurrencesOf .duplicate events
  | .evicted => occurrencesOf .evicted events

/-- Usage evidence is conserved over a run from one state to another. -/
structure EvidenceConserved (start state : UsageSystem) (events : List UsageEvent) : Prop where
  placed : ∀ occurrence ∈ occurrencesOf .enqueued events, occurrence ∉ state.underway →
    ∃! place, occurrence ∈ state.signalsIn events place
  apart : ∀ occurrence ∈ state.underway, ∀ place, occurrence ∉ state.signalsIn events place
  -- The newest signals that the file has ever held are in it, and what it has lost is older.
  newest : start.persisted ++ occurrencesOf .recorded events =
    occurrencesOf .evicted events ++ state.persisted
  full : occurrencesOf .evicted events ≠ [] → state.persisted.length = maxUsageSignals
  known : ∀ occurrence ∈ occurrencesOf .duplicate events,
    signalId UsageOccurrence.signal occurrence ∈
      (start.persisted ++ occurrencesOf .recorded events).map (signalId UsageOccurrence.signal)
  replayed : ∀ batch : List UsageOccurrence,
    (∀ occurrence ∈ batch, signalId UsageOccurrence.signal occurrence ∈
      state.persisted.map (signalId UsageOccurrence.signal)) →
    recordUsageSignals state.store batch =
      .ok { store := state.store, outcome := .noOp, duplicates := batch }

section Places

variable {start state : UsageSystem} {events : List UsageEvent} {lost : List UsageOccurrence}
  {occurrence : UsageOccurrence}

/-- An enqueued signal is counted once over all the places, the hands of cycles, and what is
lost. -/
theorem Conserved.count_eq_one (conserved : Conserved start state events lost)
    (enqueued : occurrence ∈ occurrencesOf .enqueued events) :
    (state.buffered.count occurrence + state.persisted.count occurrence +
          (occurrencesOf .dropped events).count occurrence +
          (occurrencesOf .duplicate events).count occurrence +
          (occurrencesOf .evicted events).count occurrence) +
        state.underway.count occurrence + lost.count occurrence = 1 := by
  have transit := conserved.transit occurrence
  have history := congrArg (List.count occurrence) conserved.history
  have once := List.nodup_iff_count_le_one.mp conserved.distinct occurrence
  have some := List.count_pos_iff.mpr enqueued
  simp only [List.count_append] at transit history once
  omega

/-- A signal that a cycle has in hand, or that is lost, was enqueued. -/
theorem Conserved.enqueued (conserved : Conserved start state events lost)
    (gone : occurrence ∈ state.underway ∨ occurrence ∈ lost) :
    occurrence ∈ occurrencesOf .enqueued events := by
  apply List.count_pos_iff.mp
  rw [conserved.transit, List.count_pos_iff]
  simp only [List.mem_append]
  tauto

theorem count_signalsIn_le (place : UsagePlace) :
    (state.signalsIn events place).count occurrence ≤
      state.buffered.count occurrence + state.persisted.count occurrence +
        (occurrencesOf .dropped events).count occurrence +
        (occurrencesOf .duplicate events).count occurrence +
        (occurrencesOf .evicted events).count occurrence := by
  cases place <;> dsimp only [UsageSystem.signalsIn] <;> omega

/-- A signal in the hands of a cycle, or lost, is in no place. -/
theorem Conserved.not_mem_signalsIn (conserved : Conserved start state events lost)
    (gone : occurrence ∈ state.underway ∨ occurrence ∈ lost) (place : UsagePlace) :
    occurrence ∉ state.signalsIn events place := by
  have one := conserved.count_eq_one (conserved.enqueued gone)
  have less : (state.signalsIn events place).count occurrence ≤ _ := count_signalsIn_le place
  rw [← List.count_pos_iff, ← List.count_pos_iff] at gone
  rw [← List.count_pos_iff]
  omega

theorem existsUnique_place
    (one : state.buffered.count occurrence + state.persisted.count occurrence +
      (occurrencesOf .dropped events).count occurrence +
      (occurrencesOf .duplicate events).count occurrence +
      (occurrencesOf .evicted events).count occurrence = 1) :
    ∃! place, occurrence ∈ state.signalsIn events place := by
  have some : ∃ place, occurrence ∈ state.signalsIn events place := by
    by_contra none
    have zero : ∀ place, (state.signalsIn events place).count occurrence = 0 :=
      fun place => List.count_eq_zero.mpr fun member => none ⟨place, member⟩
    have buffer := zero .buffer
    have catalog := zero .catalog
    have dropped := zero .dropped
    have duplicate := zero .duplicate
    have evicted := zero .evicted
    dsimp only [UsageSystem.signalsIn] at buffer catalog dropped duplicate evicted
    omega
  obtain ⟨place, member⟩ := some
  refine ⟨place, member, fun other also => ?_⟩
  by_contra differ
  rw [← List.count_pos_iff] at member also
  cases place <;> cases other <;> dsimp only [UsageSystem.signalsIn] at member also <;>
    first | exact differ rfl | omega

end Places

/-- Usage evidence is conserved over a run exactly when every cycle that has drained signals comes
to replacing the file, or finds them all there. -/
theorem evidenceConserved_iff {runtime : SchemaRuntime} {start final : UsageSystem}
    {actions : List UsageAction} {events : List UsageEvent} (started : start.Started)
    (ran : runSteps (UsageSystem.step runtime) start actions = some (final, events)) :
    EvidenceConserved start final events ↔
      StepsMeet (UsageSystem.step runtime) Delivers start actions := by
  obtain ⟨lost, conserved, delivered⟩ := conserved_of_run (conserved_of_started started) ran
  rw [List.nil_append, List.nil_append] at conserved
  rw [← delivered]
  constructor
  · intro evidence
    apply List.eq_nil_iff_forall_not_mem.mpr
    intro occurrence gone
    have enqueued := conserved.enqueued (.inr gone)
    have one := conserved.count_eq_one enqueued
    have idle : occurrence ∉ final.underway := by
      intro held
      rw [← List.count_pos_iff] at gone held
      omega
    obtain ⟨place, member, _⟩ := evidence.placed occurrence enqueued idle
    exact conserved.not_mem_signalsIn (.inr gone) place member
  · rintro rfl
    constructor
    · intro occurrence enqueued idle
      have one := conserved.count_eq_one enqueued
      rw [List.count_nil, List.count_eq_zero.mpr idle] at one
      exact existsUnique_place one
    · exact fun occurrence held => conserved.not_mem_signalsIn (.inl held)
    · exact conserved.history
    · exact conserved.full
    · exact conserved.known
    · exact fun batch known => recordUsageSignals_of_known known

/-! ## A batch that is drained and not written -/

/-- A relationship that a caller's query has used. -/
def joinSignal : CatalogUsageSignal where
  signalId := "usage:1"
  connectionId := "demo"
  principalPartition := "partition"
  target :=
    { connectionId := "demo"
      table := "orders"
      object := .relationship ⟨"customer_id", "customers", "id"⟩ }
  kind := .relationshipUsed
  schemaFingerprint := "sha256:0"
  observedAt := 0
  connected := rfl
  kindMatches := rfl

/-- A service that starts on an empty catalog file. -/
def emptySystem : UsageSystem where
  buffer := { maxSize := 5000, sized := by decide }
  store := ⟨{ governed := {} }, ⟨by decide, Nat.zero_le _, fun _ => rfl, .nil⟩⟩

theorem emptySystem_started : emptySystem.Started where
  buffered := rfl
  cycles := rfl
  numbered := fun _ member => nomatch member

/-- One call, and one cycle whose first update ends as told. -/
def cycleActions (fault : Option UpdateFault) : List UsageAction :=
  [.enqueue joinSignal, .start "demo", .persist 0 fault]

theorem delivers_cycleActions {fault : Option UpdateFault} (readable : fault ≠ some .unread)
    (writable : fault ≠ some .unwritten) :
    StepsMeet (UsageSystem.step readableRuntime) Delivers emptySystem (cycleActions fault) := by
  refine ⟨trivial, fun next stepped => ⟨trivial, fun after started => ⟨?_, ?_⟩⟩⟩
  · cases stepped
    cases started
    intro connectionId first rest found
    exact ⟨readable, .inr ⟨by decide, writable⟩⟩
  · exact fun _ _ => trivial

/-- A cycle that writes its batch keeps the signal. -/
theorem evidenceConserved_cycle :
    emptySystem.Started ∧
      ∃ final events, runSteps (UsageSystem.step readableRuntime) emptySystem
          (cycleActions none) = some (final, events) ∧
        EvidenceConserved emptySystem final events := by
  refine ⟨emptySystem_started, _, _, rfl, ?_⟩
  exact (evidenceConserved_iff emptySystem_started rfl).mpr (delivers_cycleActions nofun nofun)

/-- The system after a cycle that could not read its file. -/
def emptiedSystem : UsageSystem where
  buffer := { emptySystem.buffer with byConnection := [("demo", [])] }
  store := emptySystem.store
  calls := 1

theorem not_mem_emptiedSystem (place : UsagePlace) :
    ⟨0, joinSignal⟩ ∉ emptiedSystem.signalsIn [⟨.enqueued, ⟨0, joinSignal⟩⟩] place := by
  cases place <;> exact List.not_mem_nil

/-- A cycle whose file cannot be read has drained the signal, and puts it nowhere. -/
theorem not_evidenceConserved_unread :
    ∃ final events, runSteps (UsageSystem.step readableRuntime) emptySystem
        (cycleActions (some .unread)) = some (final, events) ∧
      ⟨0, joinSignal⟩ ∈ occurrencesOf .enqueued events ∧ final.cycles = [] ∧
      (∀ place, ⟨0, joinSignal⟩ ∉ final.signalsIn events place) ∧
      ¬EvidenceConserved emptySystem final events := by
  refine ⟨emptiedSystem, [⟨.enqueued, ⟨0, joinSignal⟩⟩], rfl, by decide, rfl,
    not_mem_emptiedSystem, ?_⟩
  intro evidence
  obtain ⟨place, member, _⟩ := evidence.placed ⟨0, joinSignal⟩ (by decide) List.not_mem_nil
  exact not_mem_emptiedSystem place member

end QueryGate.Catalog
