import QueryGate.Audit.EnvelopeTree
import QueryGate.Audit.FileReader

/-! # The scan for anomalies

`JsonlAuditEventSource.load_query_events` of `admin/anomaly.py` reads the audit file from its
end until one of three bounds stops it, and `detect_anomalies` counts what it kept for each
principal. Behind lines that did not stop it, the loop holds what a full scan of them finds
(`progressOf`); `loopEnd_scanAuditLines` says how it can end.

Instants are in microseconds since the epoch, in UTC.
-/

namespace QueryGate

open Foundation JsonCode

/-! ## Lines -/

/-- What the source is constructed with, and what an event is read by. -/
structure AuditSource (E : Type) where
  runtime : EnvelopeRuntime
  ledgerKey : Option (List UInt8) := none
  requireEnvelope : Bool := false
  /-- `AuditEvent.model_validate`. -/
  validate : JsonTree → Option E
  occurredAt : E → Int
  principalId : E → Option String
  connectionId : E → String
  /-- `event.outcome == "rejected"`. -/
  rejected : E → Bool

/-- What a line comes to that raises nothing. -/
inductive AuditLine (E : Type) where
  | malformed
  | other
  | event (event : E)

section Source

variable {E : Type} (source : AuditSource E)

/-- Whether the envelope of a line, or its want of one, is held against it. -/
def AuditSource.refuses (verified : Option Bool) : Bool :=
  match verified with
  | some verified => !verified
  | none => source.requireEnvelope

/-- The part of the loop behind the check of the envelope, up to the window. -/
def AuditSource.readEvent (raw : JsonTree) : AuditLine E :=
  match raw.get (codesOf "event_type") with
  | some (.str codes) =>
      if codes = codesOf "query.execution" then
        match source.validate raw with
        | some event => .event event
        | none => .malformed
      else .other
  | _ => .other

/-- The body of the loop, up to the window. -/
def AuditSource.readLine (line : String) : Except LineFault (AuditLine E) := do
  match ← loadsTree source.runtime line with
  | none => pure .malformed
  | some raw =>
      let verified ← verifyTreeEnvelope source.runtime source.ledgerKey raw
      if source.refuses verified then pure .malformed else pure (source.readEvent (unwrapTree raw))

/-! ## The loop -/

/-- A float of seconds as `timedelta` takes it, in microseconds, where it takes it. -/
abbrev TimeSpan := Option Int

/-- The fields of `AnomalyThresholds` that the scan and the counts go by: the two windows,
and the window of their sum, each rounded for itself. -/
structure AnomalyThresholds where
  recentWindow : TimeSpan
  baselineWindow : TimeSpan
  bothWindows : TimeSpan
  maxEventsScanned : Nat := 200000
  maxLinesRead : Nat := 200000
  maxConsecutiveOutOfWindow : Nat := 5000
  eventsPositive : 1 ≤ maxEventsScanned := by decide
  linesPositive : 1 ≤ maxLinesRead := by decide
  runPositive : 1 ≤ maxConsecutiveOutOfWindow := by decide

/-- `datetime.min`. -/
def minInstant : Int := -62135596800000000

/-- `instant - timedelta(seconds=…)`. -/
def instantBefore (instant : Int) (span : TimeSpan) : Option Int := do
  let span ← span
  if minInstant ≤ instant - span then some (instant - span) else none

/-- The variables of the loop. -/
structure ScanProgress (E : Type) where
  kept : List E := []
  malformed : Nat := 0
  linesRead : Nat := 0
  outOfWindow : Nat := 0

/-- How the loop ends. -/
inductive ScanStop
  | exhausted
  | bounded
  | outOfWindow
  deriving DecidableEq, Repr

/-- What `load_query_events` may raise. -/
inductive ScanFault
  | line (fault : LineFault)
  | overflow
  deriving DecidableEq, Repr

section Loop

variable (thresholds : AnomalyThresholds) (windowStart now : Int)

/-- The loop of `load_query_events`. -/
def scanAuditLines : List String → ScanProgress E → Except LineFault (ScanProgress E × ScanStop)
  | [], progress => .ok (progress, .exhausted)
  | line :: rest, progress =>
      if thresholds.maxEventsScanned ≤ progress.kept.length then .ok (progress, .bounded)
      else if thresholds.maxLinesRead ≤ progress.linesRead then .ok (progress, .bounded)
      else do
        let progress := { progress with linesRead := progress.linesRead + 1 }
        match ← source.readLine line with
        | .malformed => scanAuditLines rest { progress with malformed := progress.malformed + 1 }
        | .other => scanAuditLines rest progress
        | .event event =>
            if source.occurredAt event ≤ windowStart then
              let progress := { progress with outOfWindow := progress.outOfWindow + 1 }
              if thresholds.maxConsecutiveOutOfWindow ≤ progress.outOfWindow then
                .ok (progress, .outOfWindow)
              else scanAuditLines rest progress
            else
              let progress := { progress with outOfWindow := 0 }
              if now < source.occurredAt event then scanAuditLines rest progress
              else scanAuditLines rest { progress with kept := progress.kept ++ [event] }

end Loop

/-- What `load_query_events` returns. -/
structure LoadedEvents (E : Type) where
  events : List E
  malformed : Nat
  truncated : Bool
  scanEndedOnOutOfWindowRun : Bool

/-- What the file is read into: nothing where it does not exist. -/
def readAuditFile (file : Option (List UInt8)) : ReverseRead :=
  match file with
  | some content => iterLinesReverse (.ofContent content) {}
  | none => ⟨[], none⟩

/-- `load_query_events`. -/
def loadQueryEvents (thresholds : AnomalyThresholds) (now : Int) (file : Option (List UInt8)) :
    Except ScanFault (LoadedEvents E) :=
  match instantBefore now thresholds.bothWindows with
  | none => .error .overflow
  | some windowStart =>
      match scanAuditLines source thresholds windowStart now (readAuditFile file).lines {} with
      | .error fault => .error (.line fault)
      | .ok (progress, stop) =>
          .ok ⟨progress.kept, progress.malformed,
            stop == .bounded || stop == .exhausted && (readAuditFile file).raised.isSome,
            stop == .outOfWindow⟩

/-! ## The counts -/

/-- `_PrincipalAcc`. -/
structure PrincipalAcc where
  recentTotal : Nat := 0
  recentRejected : Nat := 0
  recentConnections : Finset String := ∅
  baselineTotal : Nat := 0
  baselineRejected : Nat := 0
  baselineConnections : Finset String := ∅
  deriving DecidableEq

/-- The principal that an event counts for. -/
def AuditSource.principal (event : E) : String :=
  match source.principalId event with
  | none | some "" => "<unauthenticated>"
  | some principal => principal

/-- The connections with one more, unless it has no name. -/
def touch (connections : Finset String) (connection : String) : Finset String :=
  if connection = "" then connections else insert connection connections

/-- An event counted. -/
def PrincipalAcc.count (recentStart : Int) (acc : PrincipalAcc) (event : E) : PrincipalAcc :=
  let rejected := if source.rejected event then 1 else 0
  if recentStart < source.occurredAt event then
    { acc with
      recentTotal := acc.recentTotal + 1
      recentRejected := acc.recentRejected + rejected
      recentConnections := touch acc.recentConnections (source.connectionId event) }
  else
    { acc with
      baselineTotal := acc.baselineTotal + 1
      baselineRejected := acc.baselineRejected + rejected
      baselineConnections := touch acc.baselineConnections (source.connectionId event) }

/-- The body of the loop over the events in `detect_anomalies`. -/
def countEvent (recentStart baselineStart now : Int) (per : List (String × PrincipalAcc))
    (event : E) : List (String × PrincipalAcc) :=
  if source.occurredAt event ≤ baselineStart ∨ now < source.occurredAt event then per
  else
    let principal := source.principal event
    dictSet per principal
      (((dictGet per principal).getD {}).count source recentStart event)

/-- `per` of `detect_anomalies`, where the windows can be taken from the instant. -/
def principalCounts (thresholds : AnomalyThresholds) (now : Int) (events : List E) :
    Option (List (String × PrincipalAcc)) := do
  let recentStart ← instantBefore now thresholds.recentWindow
  let baselineStart ← instantBefore recentStart thresholds.baselineWindow
  pure (events.foldl (countEvent source recentStart baselineStart now) [])

end Source

/-! ## A full scan -/

section Source

variable {E : Type} (source : AuditSource E)

/-- The event of a line. -/
def AuditSource.eventOf (line : String) : Option E :=
  match source.readLine line with
  | .ok (.event event) => some event
  | _ => none

/-- The line raises what nothing catches. -/
def AuditSource.isFaulty (line : String) : Bool :=
  match source.readLine line with
  | .error _ => true
  | .ok _ => false

/-- The line is not valid JSON, or fails the check of its envelope or of its event. -/
def AuditSource.isMalformed (line : String) : Bool :=
  match source.readLine line with
  | .ok .malformed => true
  | _ => false

section Window

variable (windowStart now : Int)

/-- The line holds an event from before the window. -/
def AuditSource.isOld (line : String) : Bool :=
  (source.eventOf line).any fun event => decide (source.occurredAt event ≤ windowStart)

/-- The line holds an event that is no older than the window. -/
def AuditSource.isFresh (line : String) : Bool :=
  (source.eventOf line).any fun event => decide (windowStart < source.occurredAt event)

/-- The events of the window, in the order of their lines. -/
def AuditSource.windowEvents (lines : List String) : List E :=
  (lines.filterMap source.eventOf).filter fun event =>
    decide (windowStart < source.occurredAt event ∧ source.occurredAt event ≤ now)

section Stops

variable (thresholds : AnomalyThresholds)

/-- No further line is read behind these. -/
def Filled (front : List String) : Prop :=
  thresholds.maxEventsScanned ≤ (source.windowEvents windowStart now front).length ∨
    thresholds.maxLinesRead ≤ front.length

/-- Among these lines stand too many events in a row that are older than the window. -/
def RanOut (front : List String) : Prop :=
  ∃ run, run <:+: front ∧
    thresholds.maxConsecutiveOutOfWindow ≤ run.countP (source.isOld windowStart) ∧
      ∀ line ∈ run, source.isFresh windowStart line = false

/-- Every line that raises stands behind lines that stop the scan. -/
def FaultsUnread (lines : List String) : Prop :=
  ∀ front line back, lines = front ++ line :: back → source.isFaulty line = true →
    Filled source windowStart now thresholds front ∨ RanOut source windowStart thresholds front

/-- None of the bounds stops the scan in these lines. -/
def ReadThrough (lines : List String) : Prop :=
  ¬ RanOut source windowStart thresholds lines ∧
    ∀ front line back, lines = front ++ line :: back →
      ¬ Filled source windowStart now thresholds front

end Stops

end Window

end Source

/-! ## The loop in closed form -/

section Progress

variable {E : Type} (source : AuditSource E) (thresholds : AnomalyThresholds)
  (windowStart now : Int)

/-- How many events in a row are older than the window, at the end of the lines. -/
def runLength (front : List String) : Nat :=
  (front.rtakeWhile fun line => !source.isFresh windowStart line).countP
    (source.isOld windowStart)

/-- The variables behind lines that did not stop the loop. -/
def progressOf (front : List String) : ScanProgress E where
  kept := source.windowEvents windowStart now front
  malformed := front.countP source.isMalformed
  linesRead := front.length
  outOfWindow := runLength source windowStart front

variable {source thresholds windowStart now} {front : List String} {line : String}

theorem RanOut.mono {back : List String} (ran : RanOut source windowStart thresholds front)
    (shorter : front <:+: back) : RanOut source windowStart thresholds back := by
  obtain ⟨run, inside, long, stale⟩ := ran
  exact ⟨run, inside.trans shorter, long, stale⟩

theorem suffix_rtakeWhile {α : Type} {test : α → Bool} {run whole : List α}
    (ends : run <:+ whole) (all : ∀ item ∈ run, test item = true) :
    run <:+ whole.rtakeWhile test := by
  obtain ⟨before, rfl⟩ := ends
  rw [List.rtakeWhile, List.reverse_append, List.takeWhile_append_of_pos, List.reverse_append,
    List.reverse_reverse]
  · exact List.suffix_append _ _
  · exact fun item member => all item (List.mem_reverse.mp member)

theorem ranOut_concat :
    RanOut source windowStart thresholds (front ++ [line]) ↔
      RanOut source windowStart thresholds front ∨
        thresholds.maxConsecutiveOutOfWindow ≤
          runLength source windowStart (front ++ [line]) := by
  constructor
  · rintro ⟨run, inside, long, stale⟩
    rcases List.infix_concat_iff.mp inside with ends | earlier
    · right
      have within : run <:+ (front ++ [line]).rtakeWhile fun line =>
          !source.isFresh windowStart line := by
        apply suffix_rtakeWhile ends
        intro item member
        rw [stale item member]
        rfl
      exact long.trans within.sublist.countP_le
    · exact .inl ⟨run, earlier, long, stale⟩
  · rintro (ran | long)
    · exact ran.mono (List.prefix_append _ _).isInfix
    · refine ⟨_, (List.rtakeWhile_suffix _ _).isInfix, long, fun item member => ?_⟩
      simpa using List.mem_rtakeWhile_imp member

theorem not_ranOut_nil : ¬ RanOut source windowStart thresholds [] := by
  rintro ⟨run, inside, long, -⟩
  rw [List.infix_nil.mp inside, List.countP_nil] at long
  exact absurd thresholds.runPositive (by omega)

theorem windowEvents_concat :
    source.windowEvents windowStart now (front ++ [line]) =
      source.windowEvents windowStart now front ++
        source.windowEvents windowStart now [line] := by
  rw [AuditSource.windowEvents, List.filterMap_append, List.filter_append]
  rfl

theorem runLength_nil : runLength source windowStart [] = 0 := by
  rw [runLength, List.rtakeWhile_nil, List.countP_nil]

theorem runLength_concat :
    runLength source windowStart (front ++ [line]) =
      if source.isFresh windowStart line then 0
      else runLength source windowStart front +
        if source.isOld windowStart line then 1 else 0 := by
  rw [runLength, List.rtakeWhile_concat]
  cases fresh : source.isFresh windowStart line with
  | true => rfl
  | false =>
      simp only [Bool.not_false, ↓reduceIte, Bool.false_eq_true]
      rw [List.countP_append, List.countP_singleton, runLength]

theorem progressOf_nil : progressOf source windowStart now [] = {} := by
  rw [progressOf, runLength_nil]
  rfl

/-- A line without an event only moves on. -/
theorem progressOf_quiet (quiet : source.eventOf line = none) :
    progressOf source windowStart now (front ++ [line]) =
      { progressOf source windowStart now front with
        malformed := (progressOf source windowStart now front).malformed +
          if source.isMalformed line then 1 else 0
        linesRead := (progressOf source windowStart now front).linesRead + 1 } := by
  have fresh : source.isFresh windowStart line = false := by
    rw [AuditSource.isFresh, quiet]
    rfl
  have old : source.isOld windowStart line = false := by
    rw [AuditSource.isOld, quiet]
    rfl
  have events : source.windowEvents windowStart now [line] = [] := by
    rw [AuditSource.windowEvents, List.filterMap_cons_none quiet]
    rfl
  simp only [progressOf, windowEvents_concat, events, List.append_nil, List.countP_append,
    List.countP_singleton, List.length_append, List.length_singleton, runLength_concat, fresh,
    old, Bool.false_eq_true, ↓reduceIte, Nat.add_zero]

theorem progressOf_event {event : E} (read : source.readLine line = .ok (.event event)) :
    progressOf source windowStart now (front ++ [line]) =
      { kept := source.windowEvents windowStart now front ++
          if windowStart < source.occurredAt event ∧ source.occurredAt event ≤ now then [event]
          else []
        malformed := (progressOf source windowStart now front).malformed
        linesRead := (progressOf source windowStart now front).linesRead + 1
        outOfWindow :=
          if source.occurredAt event ≤ windowStart then
            (progressOf source windowStart now front).outOfWindow + 1
          else 0 } := by
  have found : source.eventOf line = some event := by rw [AuditSource.eventOf, read]
  have sound : source.isMalformed line = false := by rw [AuditSource.isMalformed, read]
  have fresh : source.isFresh windowStart line =
      decide (windowStart < source.occurredAt event) := by
    rw [AuditSource.isFresh, found, Option.any_some]
  have old : source.isOld windowStart line =
      decide (source.occurredAt event ≤ windowStart) := by
    rw [AuditSource.isOld, found, Option.any_some]
  have events : source.windowEvents windowStart now [line] =
      if windowStart < source.occurredAt event ∧ source.occurredAt event ≤ now then [event]
      else [] := by
    rw [AuditSource.windowEvents, List.filterMap_cons_some found, List.filterMap_nil,
      List.filter_singleton]
    by_cases inside : windowStart < source.occurredAt event ∧ source.occurredAt event ≤ now
    · rw [if_pos inside, decide_eq_true inside]
      rfl
    · rw [if_neg inside, decide_eq_false inside]
      rfl
  simp only [progressOf, windowEvents_concat, events, List.countP_append, List.countP_singleton,
    sound, List.length_append, List.length_singleton, runLength_concat, fresh, old,
    decide_eq_true_eq, Bool.false_eq_true, ↓reduceIte, Nat.add_zero]
  by_cases late : windowStart < source.occurredAt event
  · rw [if_pos late, if_neg (not_le.mpr late)]
  · rw [if_neg late, if_pos (not_lt.mp late), if_pos (not_lt.mp late)]

/-- One step of the loop, behind lines that did not stop it. -/
theorem scanAuditLines_step {rest : List String}
    (going : ¬ Filled source windowStart now thresholds front)
    (quiet : ¬ RanOut source windowStart thresholds front) {kind : AuditLine E}
    (read : source.readLine line = .ok kind) :
    scanAuditLines source thresholds windowStart now (line :: rest)
        (progressOf source windowStart now front) =
      if thresholds.maxConsecutiveOutOfWindow ≤ runLength source windowStart (front ++ [line]) then
        .ok (progressOf source windowStart now (front ++ [line]), .outOfWindow)
      else
        scanAuditLines source thresholds windowStart now rest
          (progressOf source windowStart now (front ++ [line])) := by
  rw [Filled, not_or] at going
  have shorter : ¬ thresholds.maxConsecutiveOutOfWindow ≤ runLength source windowStart front := by
    intro long
    apply quiet
    refine ⟨_, (List.rtakeWhile_suffix _ _).isInfix, long, fun item member => ?_⟩
    simpa using List.mem_rtakeWhile_imp member
  have fewEvents : ¬ thresholds.maxEventsScanned ≤
      (progressOf source windowStart now front).kept.length := going.1
  have fewLines : ¬ thresholds.maxLinesRead ≤
      (progressOf source windowStart now front).linesRead := going.2
  rw [scanAuditLines, if_neg fewEvents, if_neg fewLines, read]
  cases kind with
  | malformed =>
      have none : source.eventOf line = none := by rw [AuditSource.eventOf, read]
      have counted : source.isMalformed line = true := by rw [AuditSource.isMalformed, read]
      have same : progressOf source windowStart now (front ++ [line]) = _ := progressOf_quiet none
      have still : runLength source windowStart (front ++ [line]) =
          runLength source windowStart front := congrArg ScanProgress.outOfWindow same
      rw [still, if_neg shorter, same, counted]
      rfl
  | other =>
      have none : source.eventOf line = none := by rw [AuditSource.eventOf, read]
      have counted : source.isMalformed line = false := by rw [AuditSource.isMalformed, read]
      have same : progressOf source windowStart now (front ++ [line]) = _ := progressOf_quiet none
      have still : runLength source windowStart (front ++ [line]) =
          runLength source windowStart front := congrArg ScanProgress.outOfWindow same
      rw [still, if_neg shorter, same, counted]
      rfl
  | event event =>
      have same : progressOf source windowStart now (front ++ [line]) = _ := progressOf_event read
      have length : runLength source windowStart (front ++ [line]) =
          if source.occurredAt event ≤ windowStart then runLength source windowStart front + 1
          else 0 := congrArg ScanProgress.outOfWindow same
      rw [length, same]
      change (if source.occurredAt event ≤ windowStart then _ else _) = _
      by_cases old : source.occurredAt event ≤ windowStart
      · have early : ¬ (windowStart < source.occurredAt event ∧ source.occurredAt event ≤ now) :=
          fun both => not_lt.mpr old both.1
        rw [if_pos old, if_pos old, if_pos old, if_neg early, List.append_nil]
        rfl
      · have positive : ¬ thresholds.maxConsecutiveOutOfWindow ≤ 0 := by
          have := thresholds.runPositive
          omega
        rw [if_neg old, if_neg old, if_neg old, if_neg positive]
        change (if now < source.occurredAt event then _ else _) = _
        by_cases future : now < source.occurredAt event
        · have late : ¬ (windowStart < source.occurredAt event ∧ source.occurredAt event ≤ now) :=
            fun both => not_le.mpr future both.2
          rw [if_pos future, if_neg late, List.append_nil]
          rfl
        · have inside : windowStart < source.occurredAt event ∧ source.occurredAt event ≤ now :=
            ⟨not_le.mp old, not_lt.mp future⟩
          rw [if_neg future, if_pos inside]
          rfl

theorem Filled.mono {back : List String} (filled : Filled source windowStart now thresholds front) :
    Filled source windowStart now thresholds (front ++ back) := by
  rcases filled with events | lines
  · left
    rw [AuditSource.windowEvents, List.filterMap_append, List.filter_append, List.length_append]
    exact events.trans (Nat.le_add_right _ _)
  · right
    rw [List.length_append]
    exact lines.trans (Nat.le_add_right _ _)

end Progress

/-! ## Runs of the loop -/

section Runs

variable {E : Type} (source : AuditSource E) (thresholds : AnomalyThresholds)
  (windowStart now : Int)

/-- `FaultsUnread`, behind lines that did not stop the loop. -/
def FaultsUnreadBehind (front rest : List String) : Prop :=
  ∀ mid line back, rest = mid ++ line :: back → source.isFaulty line = true →
    Filled source windowStart now thresholds (front ++ mid) ∨
      RanOut source windowStart thresholds (front ++ mid)

/-- `ReadThrough`, behind lines that did not stop the loop. -/
def ReadThroughBehind (front rest : List String) : Prop :=
  ¬ RanOut source windowStart thresholds (front ++ rest) ∧
    ∀ mid line back, rest = mid ++ line :: back →
      ¬ Filled source windowStart now thresholds (front ++ mid)

/-- How the loop can end. -/
inductive LoopEnd (front rest : List String) :
    Except LineFault (ScanProgress E × ScanStop) → Prop
  | raised (fault : LineFault)
      (read : ¬ FaultsUnreadBehind source thresholds windowStart now front rest) :
      LoopEnd front rest (.error fault)
  | exhausted (unread : FaultsUnreadBehind source thresholds windowStart now front rest)
      (through : ReadThroughBehind source thresholds windowStart now front rest) :
      LoopEnd front rest (.ok (progressOf source windowStart now (front ++ rest), .exhausted))
  | stopped (progress : ScanProgress E) {stop : ScanStop} (early : stop ≠ .exhausted)
      (unread : FaultsUnreadBehind source thresholds windowStart now front rest)
      (cut : ¬ ReadThroughBehind source thresholds windowStart now front rest) :
      LoopEnd front rest (.ok (progress, stop))

variable {source thresholds windowStart now} {front rest : List String} {line : String}

/-- What holds of every split of one more line and the rest. -/
theorem forall_split_cons {motive : List String → String → Prop} :
    (∀ mid item back, line :: rest = mid ++ item :: back → motive mid item) ↔
      motive [] line ∧ ∀ mid item back, rest = mid ++ item :: back → motive (line :: mid) item := by
  constructor
  · intro all
    exact ⟨all [] line rest rfl, fun mid item back split => all _ item back (by rw [split]; rfl)⟩
  · rintro ⟨first, later⟩ mid item back split
    rcases List.cons_eq_append_iff.mp split with ⟨rfl, same⟩ | ⟨mid, rfl, rest⟩
    · cases same
      exact first
    · exact later mid item back rest

theorem faultsUnreadBehind_cons :
    FaultsUnreadBehind source thresholds windowStart now front (line :: rest) ↔
      (source.isFaulty line = true → Filled source windowStart now thresholds front ∨
        RanOut source windowStart thresholds front) ∧
        FaultsUnreadBehind source thresholds windowStart now (front ++ [line]) rest := by
  rw [FaultsUnreadBehind, forall_split_cons, List.append_nil]
  simp only [FaultsUnreadBehind, List.append_assoc, List.singleton_append]

theorem readThroughBehind_cons :
    ReadThroughBehind source thresholds windowStart now front (line :: rest) ↔
      ¬ Filled source windowStart now thresholds front ∧
        ReadThroughBehind source thresholds windowStart now (front ++ [line]) rest := by
  rw [ReadThroughBehind, forall_split_cons, List.append_nil]
  simp only [ReadThroughBehind, List.append_assoc, List.singleton_append]
  exact and_left_comm

theorem Filled.faultsUnreadBehind (filled : Filled source windowStart now thresholds front) :
    FaultsUnreadBehind source thresholds windowStart now front rest :=
  fun _ _ _ _ _ => .inl filled.mono

theorem RanOut.faultsUnreadBehind (ran : RanOut source windowStart thresholds front) :
    FaultsUnreadBehind source thresholds windowStart now front rest :=
  fun mid _ _ _ _ => .inr (ran.mono (List.prefix_append front mid).isInfix)

/-- The loop, behind lines that did not stop it. -/
theorem loopEnd_scanAuditLines (quiet : ¬ RanOut source windowStart thresholds front) :
    LoopEnd source thresholds windowStart now front rest
      (scanAuditLines source thresholds windowStart now rest
        (progressOf source windowStart now front)) := by
  induction rest generalizing front with
  | nil =>
      have none : ∀ (mid : List String) (line : String) (back : List String),
          [] ≠ mid ++ line :: back :=
        fun mid line back split =>
          List.append_ne_nil_of_right_ne_nil mid (List.cons_ne_nil line back) split.symm
      have ended : LoopEnd source thresholds windowStart now front []
          (.ok (progressOf source windowStart now (front ++ []), .exhausted)) :=
        .exhausted (fun mid line back split => absurd split (none mid line back))
          ⟨by rwa [List.append_nil], fun mid line back split => absurd split (none mid line back)⟩
      rwa [List.append_nil] at ended
  | cons line rest ih =>
      by_cases filled : Filled source windowStart now thresholds front
      · have bounded : scanAuditLines source thresholds windowStart now (line :: rest)
            (progressOf source windowStart now front) =
              .ok (progressOf source windowStart now front, .bounded) := by
          rw [scanAuditLines]
          by_cases events : thresholds.maxEventsScanned ≤
              (progressOf source windowStart now front).kept.length
          · rw [if_pos events]
          · have lines : thresholds.maxLinesRead ≤
                (progressOf source windowStart now front).linesRead := filled.resolve_left events
            rw [if_neg events, if_pos lines]
        rw [bounded]
        exact .stopped _ nofun filled.faultsUnreadBehind
          fun through => (readThroughBehind_cons.mp through).1 filled
      · cases read : source.readLine line with
        | error fault =>
            have raised : scanAuditLines source thresholds windowStart now (line :: rest)
                (progressOf source windowStart now front) = .error fault := by
              rw [Filled, not_or] at filled
              rw [scanAuditLines,
                if_neg (show ¬ _ ≤ (progressOf _ _ _ _).kept.length from filled.1),
                if_neg (show ¬ _ ≤ (progressOf _ _ _ _).linesRead from filled.2), read]
              rfl
            have faulty : source.isFaulty line = true := by rw [AuditSource.isFaulty, read]
            rw [raised]
            exact .raised fault fun unread =>
              ((faultsUnreadBehind_cons.mp unread).1 faulty).elim filled quiet
        | ok kind =>
            have sound : ¬ source.isFaulty line = true := by
              rw [AuditSource.isFaulty, read]
              exact Bool.false_ne_true
            rw [scanAuditLines_step filled quiet read]
            split_ifs with long
            · have ran := ranOut_concat.mpr (.inr long)
              refine .stopped _ nofun (faultsUnreadBehind_cons.mpr
                ⟨fun faulty => absurd faulty sound, ran.faultsUnreadBehind⟩) fun through => ?_
              exact (readThroughBehind_cons.mp through).2.1
                (ran.mono (List.prefix_append _ rest).isInfix)
            · have still : ¬ RanOut source windowStart thresholds (front ++ [line]) :=
                fun ran => (ranOut_concat.mp ran).elim quiet long
              have later := ih still
              generalize scanAuditLines source thresholds windowStart now rest
                (progressOf source windowStart now (front ++ [line])) = outcome at later
              cases later with
              | raised fault readFault =>
                  exact .raised fault fun unread => readFault (faultsUnreadBehind_cons.mp unread).2
              | exhausted unread through =>
                  rw [List.append_assoc, List.singleton_append]
                  exact .exhausted
                    (faultsUnreadBehind_cons.mpr ⟨fun faulty => absurd faulty sound, unread⟩)
                    (readThroughBehind_cons.mpr ⟨filled, through⟩)
              | stopped progress early unread cut =>
                  exact .stopped progress early
                    (faultsUnreadBehind_cons.mpr ⟨fun faulty => absurd faulty sound, unread⟩)
                    fun through => cut (readThroughBehind_cons.mp through).2

end Runs

end QueryGate
