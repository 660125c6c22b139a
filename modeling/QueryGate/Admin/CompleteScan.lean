import QueryGate.Admin.AuditCounts
import QueryGate.Foundation.Base64

/-! # Complete scans

A scan of the audit file that none of its bounds stopped has kept every event of its window,
and `detect_anomalies` counts them as those of the whole file (`scanFaithful_iff`), unless a
line makes the parser raise what is not caught, or the two functions round the start of
their windows apart.
-/

namespace QueryGate

open Foundation JsonCode

section Faithful

variable {E : Type} (source : AuditSource E) (thresholds : AnomalyThresholds) (now : Int)
  (file : Option (List UInt8))

/-- The lines of the file: those of its text that are not empty. -/
def fileLines (file : Option (List UInt8)) : List String :=
  match file with
  | some content => (forwardLines content).filter fun line => line ≠ ""
  | none => []

/-- What is counted for a principal. -/
def countsOf (events : List E) (principal : String) : Option (Option PrincipalAcc) :=
  (principalCounts source thresholds now events).map fun per => dictGet per principal

/-- A scan that says it was complete has found what a full scan finds: the events of the
window, the lines that are no events, and the counts of every principal. -/
structure CompleteScan (windowStart : Int) (loaded : LoadedEvents E) : Prop where
  events : loaded.events.Perm (source.windowEvents windowStart now (fileLines file))
  malformed : loaded.malformed = (fileLines file).countP source.isMalformed
  counts : countsOf source thresholds now loaded.events =
    countsOf source thresholds now ((fileLines file).filterMap source.eventOf)

/-- The scan returns, and where neither of its flags is set it was complete. -/
def ScanFaithful : Prop :=
  ∃ windowStart loaded, instantBefore now thresholds.bothWindows = some windowStart ∧
    loadQueryEvents source thresholds now file = .ok loaded ∧
      (loaded.truncated = false → loaded.scanEndedOnOutOfWindowRun = false →
        CompleteScan source thresholds now file windowStart loaded)

/-- An event that `detect_anomalies` would count, and `load_query_events` does not keep:
their windows do not start at the same instant. -/
def InWindowGap (windowStart : Int) (event : E) : Prop :=
  ∃ recentStart baselineStart, instantBefore now thresholds.recentWindow = some recentStart ∧
    instantBefore recentStart thresholds.baselineWindow = some baselineStart ∧
      baselineStart < source.occurredAt event ∧ source.occurredAt event ≤ now ∧
        source.occurredAt event ≤ windowStart

/-- What the scan needs of the file, the instant and the windows. -/
structure Scannable (windowStart : Int) : Prop where
  start : instantBefore now thresholds.bothWindows = some windowStart
  unread : FaultsUnread source windowStart now thresholds (readAuditFile file).lines
  level : (readAuditFile file).raised = none →
    ReadThrough source windowStart now thresholds (readAuditFile file).lines →
      ∀ event ∈ (fileLines file).filterMap source.eventOf,
        ¬ InWindowGap source thresholds now windowStart event

end Faithful

/-! ## When the scan keeps its word -/

section Complete

variable {E : Type} {source : AuditSource E} {thresholds : AnomalyThresholds} {now : Int}
  {file : Option (List UInt8)} {windowStart : Int}

/-- A read that ends by itself yields the lines of the file, last line first. -/
theorem lines_of_whole (whole : (readAuditFile file).raised = none) :
    (readAuditFile file).lines = (fileLines file).reverse := by
  cases file with
  | none => rfl
  | some content => exact (iterLinesReverse_exact content {}).finished whole

/-- The loop over the whole file. -/
theorem loopEnd_file :
    LoopEnd source thresholds windowStart now [] (readAuditFile file).lines
      (scanAuditLines source thresholds windowStart now (readAuditFile file).lines {}) := by
  rw [← progressOf_nil]
  exact loopEnd_scanAuditLines not_ranOut_nil

/-- Where the windows can be taken, what is counted for a principal in closed form. -/
theorem countsOf_eq {recentStart baselineStart : Int}
    (recent : instantBefore now thresholds.recentWindow = some recentStart)
    (baseline : instantBefore recentStart thresholds.baselineWindow = some baselineStart)
    (events : List E) (principal : String) :
    countsOf source thresholds now events principal =
      some (perTally source recentStart baselineStart now events principal) := by
  rw [countsOf, principalCounts, recent, Option.bind_eq_bind, Option.bind_some, baseline,
    ← dictGet_countEvents]
  rfl

theorem countsOf_eq_none (unset : ∀ recentStart baselineStart,
      instantBefore now thresholds.recentWindow = some recentStart →
        instantBefore recentStart thresholds.baselineWindow ≠ some baselineStart)
    (events : List E) (principal : String) :
    countsOf source thresholds now events principal = none := by
  rw [countsOf, principalCounts]
  cases recent : instantBefore now thresholds.recentWindow with
  | none => rfl
  | some recentStart =>
      rw [Option.bind_eq_bind, Option.bind_some]
      cases baseline : instantBefore recentStart thresholds.baselineWindow with
      | none => rfl
      | some baselineStart => exact absurd baseline (unset recentStart baselineStart recent)

/-- Kept events are counted as the whole file's exactly where none falls in the gap. -/
theorem counts_iff {kept : List E}
    (same : kept.Perm (source.windowEvents windowStart now (fileLines file))) :
    countsOf source thresholds now kept =
        countsOf source thresholds now ((fileLines file).filterMap source.eventOf) ↔
      ∀ event ∈ (fileLines file).filterMap source.eventOf,
        ¬ InWindowGap source thresholds now windowStart event := by
  by_cases set_ : ∃ recentStart baselineStart,
      instantBefore now thresholds.recentWindow = some recentStart ∧
        instantBefore recentStart thresholds.baselineWindow = some baselineStart
  · obtain ⟨recentStart, baselineStart, recent, baseline⟩ := set_
    have counted : (countsOf source thresholds now kept =
        countsOf source thresholds now ((fileLines file).filterMap source.eventOf)) ↔
          ∀ principal, perTally source recentStart baselineStart now kept principal =
            perTally source recentStart baselineStart now
              ((fileLines file).filterMap source.eventOf) principal := by
      rw [funext_iff]
      refine forall_congr' fun principal => ?_
      rw [countsOf_eq recent baseline, countsOf_eq recent baseline, Option.some.injEq]
    rw [counted, perTally_filter_iff same]
    refine forall₂_congr fun event _ => ?_
    constructor
    · rintro covered ⟨otherStart, otherBaseline, recentToo, baselineToo, late, done, early⟩
      cases recent.symm.trans recentToo
      cases baseline.symm.trans baselineToo
      have kept := of_decide_eq_true (covered (source.principal event)
        (decide_eq_true ⟨late, done, rfl⟩))
      exact absurd kept.1 (not_lt.mpr early)
    · intro apart principal counts
      obtain ⟨late, done, -⟩ := of_decide_eq_true counts
      have inside : windowStart < source.occurredAt event := by
        by_contra early
        exact apart ⟨recentStart, baselineStart, recent, baseline, late, done, not_lt.mp early⟩
      exact decide_eq_true ⟨inside, done⟩
  · have unset : ∀ recentStart baselineStart,
        instantBefore now thresholds.recentWindow = some recentStart →
          instantBefore recentStart thresholds.baselineWindow ≠ some baselineStart :=
      fun recentStart baselineStart recent baseline =>
        set_ ⟨recentStart, baselineStart, recent, baseline⟩
    refine ⟨fun _ event _ => ?_, fun _ => ?_⟩
    · rintro ⟨recentStart, baselineStart, recent, baseline, -⟩
      exact unset recentStart baselineStart recent baseline
    · funext principal
      rw [countsOf_eq_none unset, countsOf_eq_none unset]

/-- What a scan that was not stopped has kept. -/
theorem kept_of_whole (whole : (readAuditFile file).raised = none) :
    (source.windowEvents windowStart now (readAuditFile file).lines).Perm
      (source.windowEvents windowStart now (fileLines file)) := by
  rw [lines_of_whole whole]
  exact ((List.reverse_perm _).filterMap _).filter _

/-- A scan that goes on to the end returns what it kept. -/
theorem loadQueryEvents_of_exhausted {progress : ScanProgress E}
    (start : instantBefore now thresholds.bothWindows = some windowStart)
    (ended : scanAuditLines source thresholds windowStart now (readAuditFile file).lines {} =
      .ok (progress, .exhausted)) :
    loadQueryEvents source thresholds now file =
      .ok ⟨progress.kept, progress.malformed, (readAuditFile file).raised.isSome, false⟩ := by
  rw [loadQueryEvents, start]
  simp only [ended]
  rfl

/-- A scan that a bound stops says so. -/
theorem loadQueryEvents_of_stopped {progress : ScanProgress E} {stop : ScanStop}
    (start : instantBefore now thresholds.bothWindows = some windowStart)
    (ended : scanAuditLines source thresholds windowStart now (readAuditFile file).lines {} =
      .ok (progress, stop)) (early : stop ≠ .exhausted) :
    ∃ loaded, loadQueryEvents source thresholds now file = .ok loaded ∧
      ¬ (loaded.truncated = false ∧ loaded.scanEndedOnOutOfWindowRun = false) := by
  rw [loadQueryEvents, start]
  simp only [ended]
  refine ⟨_, rfl, ?_⟩
  cases stop with
  | exhausted => exact absurd rfl early
  | bounded => exact fun both => Bool.noConfusion both.1
  | outOfWindow => exact fun both => Bool.noConfusion both.2

/-- **A complete scan is a full scan.** The scan returns, and is complete where it sets
neither flag, exactly where the window can be taken from the instant, every line that the
parser raises on stands behind lines that stop the scan, and no event falls between the
starts of the two windows. -/
theorem scanFaithful_iff :
    ScanFaithful source thresholds now file ↔
      ∃ windowStart, Scannable source thresholds now file windowStart := by
  constructor
  · rintro ⟨windowStart, loaded, start, returned, complete⟩
    have ends := @loopEnd_file E source thresholds now file windowStart
    generalize ended :
      scanAuditLines source thresholds windowStart now (readAuditFile file).lines {} = outcome
      at ends
    cases ends with
    | raised fault read =>
        rw [loadQueryEvents, start] at returned
        simp only [ended] at returned
        cases returned
    | exhausted unread through =>
        refine ⟨windowStart, start, unread, fun whole _ => ?_⟩
        rw [loadQueryEvents_of_exhausted start ended] at returned
        cases returned
        have done := complete (by rw [whole]; rfl) rfl
        exact (counts_iff (kept_of_whole whole)).mp done.counts
    | stopped progress early unread cut =>
        exact ⟨windowStart, start, unread, fun _ through => absurd through cut⟩
  · rintro ⟨windowStart, start, unread, level⟩
    have ends := @loopEnd_file E source thresholds now file windowStart
    generalize ended :
      scanAuditLines source thresholds windowStart now (readAuditFile file).lines {} = outcome
      at ends
    cases ends with
    | raised fault read => exact absurd unread read
    | exhausted _ through =>
        refine ⟨windowStart, _, start, loadQueryEvents_of_exhausted start ended, ?_⟩
        intro untruncated _
        have whole : (readAuditFile file).raised = none :=
          Option.not_isSome_iff_eq_none.mp (Bool.eq_false_iff.mp untruncated)
        refine ⟨kept_of_whole whole, ?_, ?_⟩
        · change (readAuditFile file).lines.countP source.isMalformed = _
          rw [lines_of_whole whole]
          exact (List.reverse_perm _).countP_eq _
        · exact (counts_iff (kept_of_whole whole)).mpr (level whole through)
    | stopped progress early _ cut =>
        obtain ⟨loaded, returned, flagged⟩ := loadQueryEvents_of_stopped start ended early
        exact ⟨windowStart, loaded, start, returned, fun first second =>
          absurd ⟨first, second⟩ flagged⟩

end Complete


theorem readTree_brackets {limit more fuel : Nat} (enough : limit + more < fuel) :
    readTree limit fuel (List.replicate (limit + 1 + more) openList) = .error .recursion := by
  induction limit generalizing fuel with
  | zero =>
      obtain ⟨fuel, rfl⟩ := Nat.exists_eq_add_of_lt enough
      rw [Nat.zero_add, Nat.add_comm 1 more, List.replicate_succ, readTree]
      rfl
  | succ limit ih =>
      obtain ⟨fuel, rfl⟩ := Nat.exists_eq_add_of_lt enough
      have inside : readTree limit (limit + 1 + more + fuel)
          (List.replicate (limit + 1 + more) openList) = .error .recursion := ih (by omega)
      have split : List.replicate (limit + 1 + 1 + more) openList =
          openList :: openList :: List.replicate (limit + more) openList := by
        rw [← List.replicate_succ, ← List.replicate_succ]
        congr 1
        omega
      have rest : skipBlankCodes (openList :: List.replicate (limit + more) openList) =
          List.replicate (limit + 1 + more) openList := by
        rw [← List.replicate_succ]
        have : limit + more + 1 = limit + 1 + more := by omega
        rw [← this]
        rfl
      rw [split, readTree, rest, Nat.add_sub_cancel, inside]
      have : limit + 1 + more = limit + more + 1 := by omega
      rw [this]
      rfl

theorem decodeReplace_brackets (count : Nat) :
    decodeReplace (List.replicate count 91) = List.replicate count '[' := by
  rw [decodeReplace]
  induction count with
  | zero => rfl
  | succ count ih => rw [List.replicate_succ, List.replicate_succ, ← ih]; rfl

/-- A file of one line of brackets, and no line feed. -/
theorem readAuditFile_brackets {count : Nat} (written : 0 < count) (short : count ≤ 1048576) :
    readAuditFile (some (List.replicate count 91)) =
      ⟨[String.ofList (List.replicate count '[')], none⟩ := by
  have plain : lineFeed ∉ List.replicate count (91 : UInt8) := by
    intro member
    exact absurd (List.eq_of_mem_replicate member) (by decide)
  have unbroken : '\n' ∉ List.replicate count '[' := by
    intro member
    exact absurd (List.eq_of_mem_replicate member) (by decide)
  have nonempty : String.ofList (List.replicate count '[') ≠ "" := by
    intro empty
    have none := congrArg List.length (congrArg String.toList empty)
    rw [String.toList_ofList, List.length_replicate] at none
    exact absurd none (Nat.pos_iff_ne_zero.mp written)
  have reads := iterLinesReverse_exact (List.replicate count 91) {}
  have whole : (iterLinesReverse (.ofContent (List.replicate count 91)) {}).raised = none := by
    apply reads.bounded
    · rw [List.length_replicate]
      change (count : Int) ≤ 268435456
      omega
    · intro line member
      rw [List.splitOn_eq_singleton plain, List.mem_singleton] at member
      rw [member, List.length_replicate]
      change (count : Int) ≤ 1048576
      omega
  have lines := reads.finished whole
  rw [backwardLines, forwardLines, decodeReplace_brackets, List.splitOn_eq_singleton unbroken,
    List.map_singleton, List.filter_singleton, decide_eq_true nonempty] at lines
  cases read : iterLinesReverse (.ofContent (List.replicate count 91)) {} with
  | mk found raised =>
      rw [read] at whole lines
      rw [readAuditFile, read]
      exact congrArg₂ ReverseRead.mk lines whole

/-- Such a line makes the parser give up. -/
theorem loadsTree_brackets {runtime : EnvelopeRuntime} {count : Nat}
    (deep : count = runtime.recursionLimit + 1) :
    loadsTree runtime (String.ofList (List.replicate count '[')) = .error .recursion := by
  have codes : codesOf (String.ofList (List.replicate count '[')) =
      List.replicate (runtime.recursionLimit + 1 + 0) openList := by
    rw [codesOf, String.toList_ofList, List.map_replicate, deep]
    rfl
  have read : Foundation.readText runtime.recursionLimit
      (List.replicate (runtime.recursionLimit + 1 + 0) openList) = .error .recursion := by
    have blank : skipBlankCodes (List.replicate (runtime.recursionLimit + 1 + 0) openList) =
        List.replicate (runtime.recursionLimit + 1 + 0) openList := rfl
    rw [Foundation.readText, blank, readTree_brackets]
    · rfl
    · rw [List.length_replicate]
      omega
  rw [loadsTree, codes, read]

/-- Envelopes under Python's own recursion limit, with digests that spell their text. -/
def plainEnvelopes : EnvelopeRuntime where
  recursionLimit := 1000
  respell := id
  laxInt := fun _ => none
  sha256 := fun bytes => String.ofList (unpaddedB64 bytes)
  hmacSha256 := fun key bytes => String.ofList (unpaddedB64 (key ++ bytes))

/-- A source whose events are the instants they happened at. -/
def plainSource : AuditSource Int where
  runtime := plainEnvelopes
  validate := fun _ => none
  occurredAt := id
  principalId := fun _ => none
  connectionId := fun _ => ""
  rejected := fun _ => false

/-- An hour against the day before it. -/
def hourlyThresholds : AnomalyThresholds where
  recentWindow := some 3600000000
  baselineWindow := some 86400000000
  bothWindows := some 90000000000

theorem readLine_brackets {E : Type} {source : AuditSource E} {count : Nat}
    (deep : count = source.runtime.recursionLimit + 1) :
    source.readLine (String.ofList (List.replicate count '[')) = .error .recursion := by
  rw [AuditSource.readLine, loadsTree_brackets deep]
  rfl

/-- A file of one line that the parser raises on. -/
theorem not_scanFaithful_of_line {E : Type} {source : AuditSource E}
    {thresholds : AnomalyThresholds} {now : Int} {file : Option (List UInt8)} {line : String}
    {fault : LineFault} (read : readAuditFile file = ⟨[line], none⟩)
    (raises : source.readLine line = .error fault) :
    ¬ ScanFaithful source thresholds now file := by
  rintro ⟨windowStart, loaded, start, returned, -⟩
  have events := thresholds.eventsPositive
  have lines := thresholds.linesPositive
  have stopped : scanAuditLines source thresholds windowStart now [line] {} = .error fault := by
    rw [scanAuditLines, if_neg, if_neg, raises]
    · rfl
    · exact Nat.not_le.mpr lines
    · exact Nat.not_le.mpr events
  rw [loadQueryEvents, start, read] at returned
  simp only [stopped] at returned
  cases returned

/-- A file of one line, of a thousand and one brackets. -/
theorem not_scanFaithful_brackets :
    ¬ ScanFaithful plainSource hourlyThresholds 1700000000000000
      (some (List.replicate 1001 91)) := by
  apply not_scanFaithful_of_line (readAuditFile_brackets (by decide) (by decide))
  apply readLine_brackets
  rfl

end QueryGate
