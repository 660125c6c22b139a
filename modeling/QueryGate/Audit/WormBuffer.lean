import Mathlib

/-! # The buffer of the WORM archive

`InProcessWormEventBuffer` is a bounded buffer of emitted events. `WormFlushMonitor`
drains it, archives the batch as one segment, and puts a batch it could not archive
back in front. One flush is under way at a time, and events are emitted meanwhile.

A record is an emission: its number and its event. In every state of every run,
archive, flight and buffer together are the emissions in order without the dropped
ones, which are counted and older than all that is left in the buffer
(`accounted_of_run`).
-/

namespace QueryGate

/-- An emitted event, with its place in the order of emission. -/
structure Emission (E : Type) where
  number : Nat
  event : E
  deriving DecidableEq, Repr

/-- `InProcessWormEventBuffer`, with the counter of dropped events. -/
structure WormEventBuffer (α : Type) where
  maxSize : Nat
  buffer : List α := []
  dropped : Nat := 0
  deriving DecidableEq, Repr

namespace WormEventBuffer

variable {α : Type}

/-- `len(self._buffer) >= self._max_size`. -/
def full (worm : WormEventBuffer α) : Bool :=
  worm.maxSize ≤ worm.buffer.length

/-- `self._buffer.popleft()` and the drop it counts. -/
def evict (worm : WormEventBuffer α) : WormEventBuffer α :=
  { worm with buffer := worm.buffer.tail, dropped := worm.dropped + 1 }

/-- `enqueue`. -/
def enqueue (worm : WormEventBuffer α) (event : α) : WormEventBuffer α :=
  let room := if worm.full then worm.evict else worm
  { room with buffer := room.buffer ++ [event] }

/-- One turn of the loop of `requeue_front`. -/
def requeueOne (worm : WormEventBuffer α) (event : α) : WormEventBuffer α :=
  if worm.full then { worm with dropped := worm.dropped + 1 }
  else { worm with buffer := event :: worm.buffer }

/-- `requeue_front`. -/
def requeueFront (worm : WormEventBuffer α) (events : List α) : WormEventBuffer α :=
  events.reverse.foldl requeueOne worm

/-- `drain`: the drained events, and the emptied buffer. -/
def drain (worm : WormEventBuffer α) : List α × WormEventBuffer α :=
  (worm.buffer, { worm with buffer := [] })

end WormEventBuffer

/-- The buffer with its archive: what was emitted, the segments archived so far, and
the batch of the flush under way. -/
structure WormArchive (E : Type) where
  worm : WormEventBuffer (Emission E)
  emitted : List (Emission E) := []
  segments : List (List (Emission E)) := []
  flight : List (Emission E) := []

/-- What can happen next: an emission, the start of a flush, or the outcome of the
flush under way. -/
inductive WormAction (E : Type) where
  | emit (event : E)
  | drain
  | archived
  | failed
  deriving DecidableEq, Repr

namespace WormArchive

variable {E : Type}

/-- `flush_once` up to the upload. The monitor awaits one flush before the next. -/
def beginFlush (archive : WormArchive E) : WormArchive E :=
  if archive.flight.isEmpty then
    { archive with worm := archive.worm.drain.2, flight := archive.worm.drain.1 }
  else archive

/-- `put_object` returned. -/
def finishFlush (archive : WormArchive E) : WormArchive E :=
  if archive.flight.isEmpty then archive
  else { archive with segments := archive.segments ++ [archive.flight], flight := [] }

/-- `put_object` raised. -/
def failFlush (archive : WormArchive E) : WormArchive E :=
  { archive with worm := archive.worm.requeueFront archive.flight, flight := [] }

/-- `S3WormAuditSink.emit`. -/
def emit (archive : WormArchive E) (event : E) : WormArchive E :=
  let record : Emission E := ⟨archive.emitted.length, event⟩
  { archive with worm := archive.worm.enqueue record, emitted := archive.emitted ++ [record] }

/-- One step. -/
def step (archive : WormArchive E) : WormAction E → WormArchive E
  | .emit event => archive.emit event
  | .drain => archive.beginFlush
  | .archived => archive.finishFlush
  | .failed => archive.failFlush

/-- The state after a run. -/
def run (archive : WormArchive E) (actions : List (WormAction E)) : WormArchive E :=
  actions.foldl step archive

/-- The state a process starts in. -/
def initial (maxSize : Nat) : WormArchive E where
  worm := { maxSize := maxSize }

/-- The archived segments, the batch in flight and the buffer, end to end. -/
def held (archive : WormArchive E) : List (Emission E) :=
  archive.segments.flatten ++ (archive.flight ++ archive.worm.buffer)

/-- The emissions that are in none of archive, flight and buffer. -/
def lost [DecidableEq E] (archive : WormArchive E) : List (Emission E) :=
  archive.emitted.filter fun record => record ∉ archive.held

/-- What was emitted is accounted for. -/
structure Accounted [DecidableEq E] (archive : WormArchive E) : Prop where
  inOrder : archive.held.Sublist archive.emitted
  counted : archive.worm.dropped = archive.lost.length
  oldest : ∀ record ∈ archive.lost, ∀ kept ∈ archive.worm.buffer, record.number < kept.number
  once : archive.segments.Pairwise List.Disjoint
  bounded : archive.worm.buffer.length ≤ archive.worm.maxSize

end WormArchive

namespace WormEventBuffer

variable {α : Type}

/-- A bounded change of the buffer: `given` is put around what is there, and the
oldest part of it does not fit. -/
structure Fits (worm after : WormEventBuffer α) (given lost : List α) : Prop where
  size : after.maxSize = worm.maxSize
  split : given = lost ++ after.buffer
  counted : after.dropped = worm.dropped + lost.length
  bounded : after.buffer.length ≤ after.maxSize
  full : lost ≠ [] → after.full = true

/-- An event enqueued evicts at most the oldest one. -/
theorem enqueue_fits {worm : WormEventBuffer α} (positive : 1 ≤ worm.maxSize)
    (bounded : worm.buffer.length ≤ worm.maxSize) (event : α) :
    ∃ lost, Fits worm (worm.enqueue event) (worm.buffer ++ [event]) lost ∧
      (worm.full = true → (worm.enqueue event).full = true) := by
  by_cases full : worm.full = true
  · cases stored : worm.buffer with
    | nil =>
        rw [WormEventBuffer.full, stored, decide_eq_true_eq, List.length_nil] at full
        omega
    | cons oldest rest =>
        have after : worm.enqueue event =
            { worm with buffer := rest ++ [event], dropped := worm.dropped + 1 } := by
          simp only [enqueue, full, ↓reduceIte, evict, stored, List.tail_cons]
        rw [WormEventBuffer.full, stored, decide_eq_true_eq, List.length_cons] at full
        rw [stored, List.length_cons] at bounded
        have stillFull : (worm.enqueue event).full = true := by
          rw [after, WormEventBuffer.full, decide_eq_true_eq, List.length_append,
            List.length_singleton]
          exact full
        refine ⟨[oldest], ⟨?_, ?_, ?_, ?_, fun _ => stillFull⟩, fun _ => stillFull⟩
        · rw [after]
        · rw [after]
          rfl
        · rw [after, List.length_singleton]
        · rw [after, List.length_append, List.length_singleton]
          exact bounded
  · have after : worm.enqueue event = { worm with buffer := worm.buffer ++ [event] } := by
      simp only [enqueue, full, Bool.false_eq_true, ↓reduceIte]
    rw [WormEventBuffer.full, decide_eq_true_eq, not_le] at full
    refine ⟨[], ⟨?_, ?_, ?_, ?_, fun some => absurd rfl some⟩, fun full' => ?_⟩
    · rw [after]
    · rw [after]
      rfl
    · rw [after]
      rfl
    · rw [after, List.length_append, List.length_singleton]
      exact full
    · rw [WormEventBuffer.full, decide_eq_true_eq] at full'
      omega

/-- A batch put back loses its oldest events, and all of them where the buffer is
full. -/
theorem requeueFront_fits {worm : WormEventBuffer α}
    (bounded : worm.buffer.length ≤ worm.maxSize) (events : List α) :
    ∃ lost kept, events = lost ++ kept ∧ (worm.full = true → kept = []) ∧
      (worm.requeueFront events).buffer = kept ++ worm.buffer ∧
      Fits worm (worm.requeueFront events) (events ++ worm.buffer) lost := by
  induction events with
  | nil =>
      refine ⟨[], [], rfl, fun _ => rfl, rfl, ⟨rfl, rfl, rfl, bounded, fun some => absurd rfl some⟩⟩
  | cons event rest ih =>
      obtain ⟨lost, kept, split, none, stored, fits⟩ := ih
      have next : worm.requeueFront (event :: rest) =
          (worm.requeueFront rest).requeueOne event := by
        rw [requeueFront, List.reverse_cons, List.foldl_append]
        rfl
      by_cases full : (worm.requeueFront rest).full = true
      · have after : worm.requeueFront (event :: rest) =
            { worm.requeueFront rest with dropped := (worm.requeueFront rest).dropped + 1 } := by
          rw [next, requeueOne, if_pos full]
        refine ⟨event :: lost, kept, ?_, none, ?_, ?_, ?_, ?_, ?_, ?_⟩
        · rw [split, List.cons_append]
        · rw [after]
          exact stored
        · rw [after]
          exact fits.size
        · rw [after, List.cons_append, fits.split]
          rfl
        · rw [after, List.length_cons]
          exact congrArg (· + 1) fits.counted
        · rw [after]
          exact fits.bounded
        · intro _
          rw [after]
          exact full
      · have after : worm.requeueFront (event :: rest) =
            { worm.requeueFront rest with buffer := event :: (worm.requeueFront rest).buffer } := by
          rw [next, requeueOne, if_neg full]
        have nothingLost : lost = [] := by
          by_contra some
          exact full (fits.full some)
        have roomy : worm.full = false := by
          by_contra crowded
          rw [Bool.not_eq_false] at crowded
          have same : (worm.requeueFront rest).buffer = worm.buffer := by
            rw [stored, none crowded, List.nil_append]
          rw [WormEventBuffer.full, same, fits.size] at full
          exact full crowded
        rw [WormEventBuffer.full, decide_eq_true_eq, not_le] at full
        refine ⟨[], event :: kept, ?_, ?_, ?_, ?_, ?_, ?_, ?_, fun some => absurd rfl some⟩
        · rw [split, nothingLost]
          rfl
        · intro crowded
          rw [roomy] at crowded
          cases crowded
        · rw [after, stored]
          rfl
        · rw [after]
          exact fits.size
        · rw [after, List.cons_append, fits.split, nothingLost]
          rfl
        · rw [after, fits.counted, nothingLost]
        · rw [after, List.length_cons]
          exact full

end WormEventBuffer

namespace WormArchive

variable {E : Type}

/-- What every step keeps. A drop while a batch is in flight leaves the buffer full
until the flight ends, so that none of an older batch can be put back before it. -/
structure Kept (archive : WormArchive E) : Prop where
  positive : 1 ≤ archive.worm.maxSize
  numbered : archive.emitted.map Emission.number = List.range archive.emitted.length
  inOrder : archive.held.Sublist archive.emitted
  balance : archive.emitted.length = archive.held.length + archive.worm.dropped
  bounded : archive.worm.buffer.length ≤ archive.worm.maxSize
  oldest : ∀ record ∈ archive.emitted, record ∉ archive.held →
    (∀ kept ∈ archive.worm.buffer, record.number < kept.number) ∧
      ((∀ kept ∈ archive.flight, record.number < kept.number) ∨ archive.worm.full = true)

namespace Kept

variable {archive : WormArchive E}

/-- Emissions come in the order of their numbers. -/
theorem sorted (kept : Kept archive) :
    archive.emitted.Pairwise fun first second => first.number < second.number := by
  rw [← List.pairwise_map, kept.numbered]
  exact List.pairwise_lt_range

theorem heldSorted (kept : Kept archive) :
    archive.held.Pairwise fun first second => first.number < second.number :=
  kept.sorted.sublist kept.inOrder

theorem number_lt (kept : Kept archive) {record : Emission E} (member : record ∈ archive.emitted) :
    record.number < archive.emitted.length := by
  rw [← List.mem_range, ← kept.numbered]
  exact List.mem_map_of_mem member

/-- A step that appends the fresh emissions and drops the oldest of what ends up in the
buffer keeps the books. -/
theorem of_drop (kept : Kept archive) {after : WormArchive E}
    {fresh before lost : List (Emission E)}
    (size : after.worm.maxSize = archive.worm.maxSize)
    (emitted : after.emitted = archive.emitted ++ fresh)
    (numbered : after.emitted.map Emission.number = List.range after.emitted.length)
    (split : archive.held ++ fresh = before ++ (lost ++ after.worm.buffer))
    (held : after.held = before ++ after.worm.buffer)
    (counted : after.worm.dropped = archive.worm.dropped + lost.length)
    (bounded : after.worm.buffer.length ≤ after.worm.maxSize)
    (room : lost ≠ [] → after.flight = [] ∨ after.worm.full = true)
    (older : ∀ record ∈ archive.emitted, record ∉ archive.held →
      (∀ kept ∈ after.worm.buffer, record.number < kept.number) ∧
        ((∀ kept ∈ after.flight, record.number < kept.number) ∨ after.worm.full = true)) :
    Kept after := by
  have sorted : after.emitted.Pairwise fun first second => first.number < second.number := by
    rw [← List.pairwise_map, numbered]
    exact List.pairwise_lt_range
  have inside : (before ++ (lost ++ after.worm.buffer)).Sublist after.emitted := by
    rw [← split, emitted]
    exact kept.inOrder.append_right fresh
  constructor
  · rw [size]
    exact kept.positive
  · exact numbered
  · rw [held]
    exact ((List.sublist_append_right lost _).append_left before).trans inside
  · have lengths := congrArg List.length split
    have balance := kept.balance
    simp only [List.length_append] at lengths
    rw [held, emitted, counted, List.length_append, List.length_append]
    omega
  · exact bounded
  · intro record member gone
    rw [held, List.mem_append, not_or] at gone
    by_cases wasHeld : record ∈ archive.held ++ fresh
    · rw [split, List.mem_append, List.mem_append] at wasHeld
      have dropped : record ∈ lost := (wasHeld.resolve_left gone.1).resolve_right gone.2
      have ordered := (sorted.sublist inside)
      refine ⟨(List.pairwise_append.mp (List.pairwise_append.mp ordered).2.1).2.2 record dropped, ?_⟩
      rcases room (List.ne_nil_of_mem dropped) with landed | full
      · left
        intro other inFlight
        rw [landed] at inFlight
        cases inFlight
      · exact .inr full
    · rw [List.mem_append, not_or] at wasHeld
      rw [emitted, List.mem_append] at member
      exact older record (member.resolve_right wasHeld.2) wasHeld.1

theorem emit (kept : Kept archive) (event : E) : Kept (archive.emit event) := by
  obtain ⟨lost, fits, stillFull⟩ := WormEventBuffer.enqueue_fits kept.positive kept.bounded
    (⟨archive.emitted.length, event⟩ : Emission E)
  apply kept.of_drop fits.size rfl
  · rw [WormArchive.emit, List.map_append, kept.numbered, List.length_append,
      List.length_singleton, List.range_succ]
    rfl
  · rw [held, List.append_assoc, List.append_assoc, fits.split, ← List.append_assoc]
    rfl
  · rw [held, ← List.append_assoc]
    rfl
  · exact fits.counted
  · exact fits.bounded
  · exact fun some => .inr (fits.full some)
  · intro record member gone
    have older := kept.oldest record member gone
    refine ⟨fun other inBuffer => ?_, older.2.imp_right stillFull⟩
    have candidate : other ∈ archive.worm.buffer ++ [⟨archive.emitted.length, event⟩] := by
      rw [fits.split]
      exact List.mem_append_right _ inBuffer
    rcases List.mem_append.mp candidate with stored | isNew
    · exact older.1 other stored
    · rw [List.mem_singleton.mp isNew]
      exact kept.number_lt member

theorem failFlush (kept : Kept archive) : Kept archive.failFlush := by
  obtain ⟨lost, back, split, none, stored, fits⟩ :=
    WormEventBuffer.requeueFront_fits kept.bounded archive.flight
  refine @of_drop E archive kept archive.failFlush [] archive.segments.flatten lost fits.size
    (List.append_nil _).symm kept.numbered ?_ rfl fits.counted fits.bounded (fun _ => .inl rfl) ?_
  · rw [held, fits.split, List.append_nil]
    rfl
  · intro record member gone
    have older := kept.oldest record member gone
    have landed : ∀ other ∈ archive.failFlush.flight, record.number < other.number := by
      intro other inFlight
      cases inFlight
    refine ⟨fun other inBuffer => ?_, .inl landed⟩
    change other ∈ (archive.worm.requeueFront archive.flight).buffer at inBuffer
    rw [stored, List.mem_append] at inBuffer
    rcases inBuffer with putBack | was
    · rcases older.2 with olderFlight | full
      · apply olderFlight
        rw [split]
        exact List.mem_append_right _ putBack
      · rw [none full] at putBack
        cases putBack
    · exact older.1 other was

theorem beginFlush (kept : Kept archive) : Kept archive.beginFlush := by
  by_cases idle : archive.flight.isEmpty = true
  · have after : archive.beginFlush =
        { archive with worm := archive.worm.drain.2, flight := archive.worm.drain.1 } := by
      rw [WormArchive.beginFlush, if_pos idle]
    rw [after]
    refine @of_drop E archive kept _ [] archive.held [] rfl (List.append_nil _).symm kept.numbered
      rfl ?_ rfl (Nat.zero_le _) (fun some => absurd rfl some) ?_
    · rw [held, held, List.isEmpty_iff.mp idle]
      simp only [WormEventBuffer.drain, List.nil_append, List.append_nil]
    · intro record member gone
      refine ⟨fun other inBuffer => ?_, .inl (kept.oldest record member gone).1⟩
      cases inBuffer
  · have after : archive.beginFlush = archive := by
      rw [WormArchive.beginFlush, if_neg idle]
    rw [after]
    exact kept

theorem finishFlush (kept : Kept archive) : Kept archive.finishFlush := by
  by_cases idle : archive.flight.isEmpty = true
  · have after : archive.finishFlush = archive := by
      rw [WormArchive.finishFlush, if_pos idle]
    rw [after]
    exact kept
  · have after : archive.finishFlush =
        { archive with segments := archive.segments ++ [archive.flight], flight := [] } := by
      rw [WormArchive.finishFlush, if_neg idle]
    rw [after]
    refine @of_drop E archive kept _ [] (archive.segments.flatten ++ archive.flight) [] rfl
      (List.append_nil _).symm kept.numbered ?_ ?_ rfl kept.bounded
      (fun some => absurd rfl some) ?_
    · rw [held, List.append_nil, List.append_assoc]
      rfl
    · rw [held, List.flatten_append, List.flatten_singleton]
      rfl
    · intro record member gone
      refine ⟨(kept.oldest record member gone).1, .inl fun other inFlight => ?_⟩
      cases inFlight

theorem step (kept : Kept archive) (action : WormAction E) : Kept (archive.step action) := by
  cases action with
  | emit event => exact kept.emit event
  | drain => exact kept.beginFlush
  | archived => exact kept.finishFlush
  | failed => exact kept.failFlush

theorem run (kept : Kept archive) (actions : List (WormAction E)) : Kept (archive.run actions) := by
  induction actions generalizing archive with
  | nil => exact kept
  | cons action rest ih => exact ih (kept.step action)

theorem initial {maxSize : Nat} (positive : 1 ≤ maxSize) :
    Kept (WormArchive.initial maxSize : WormArchive E) where
  positive := positive
  numbered := rfl
  inOrder := List.nil_sublist _
  balance := rfl
  bounded := Nat.zero_le _
  oldest := fun _ member => by cases member

theorem accounted [DecidableEq E] (kept : Kept archive) : Accounted archive := by
  have distinct : archive.emitted.Nodup := kept.sorted.imp fun order same => by
    rw [same] at order
    exact lt_irrefl _ order
  have heldDistinct : archive.held.Nodup := distinct.sublist kept.inOrder
  constructor
  · exact kept.inOrder
  · have stillHeld : (archive.emitted.filter fun record => record ∈ archive.held).Perm
        archive.held := by
      refine (List.perm_ext_iff_of_nodup (distinct.filter _) heldDistinct).mpr fun record => ?_
      rw [List.mem_filter, decide_eq_true_eq]
      exact and_iff_right_of_imp fun member => kept.inOrder.subset member
    have parts := List.length_eq_length_filter_add (l := archive.emitted)
      fun record => decide (record ∈ archive.held)
    rw [stillHeld.length_eq, kept.balance] at parts
    have dropped := Nat.add_left_cancel parts
    rw [dropped, lost]
    simp only [decide_not]
  · intro record member other inBuffer
    rw [lost, List.mem_filter, decide_eq_true_eq] at member
    exact (kept.oldest record member.1 member.2).1 other inBuffer
  · rw [held] at heldDistinct
    exact (List.nodup_flatten.mp heldDistinct.of_append_left).2
  · exact kept.bounded

end Kept

/-- Along every run of emissions and flushes, what was emitted is accounted for. -/
theorem accounted_of_run [DecidableEq E] {maxSize : Nat} (positive : 1 ≤ maxSize)
    (actions : List (WormAction E)) :
    Accounted ((WormArchive.initial maxSize : WormArchive E).run actions) :=
  ((Kept.initial positive).run actions).accounted

end WormArchive

/-- With room for two events, a third emission drops the first of a batch that comes
back. -/
theorem accounted_of_failedFlush :
    WormArchive.Accounted ((WormArchive.initial 2).run
      [.emit "a", .emit "b", .drain, .emit "c", .failed, .drain, .archived]) ∧
      ((WormArchive.initial 2).run
        [.emit "a", .emit "b", .drain, .emit "c", .failed, .drain, .archived]).segments =
          [[⟨1, "b"⟩, ⟨2, "c"⟩]] :=
  ⟨WormArchive.accounted_of_run (by decide) _, by decide +kernel⟩

end QueryGate
