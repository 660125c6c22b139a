import QueryGate.Audit.Ledger

/-! # The chained sink

`HashChainedAuditSink` of `audit/sinks.py`: it appends one record a line, keeps the head
of the chain in memory, and rebuilds it from the last line of the file when a process
starts. A write may fail, may put down only a part of its text, and may be followed by an
`fsync` that fails.

While no write is cut short and none follows one whose `fsync` failed before the next
restart, every file reached verifies and holds the events of the calls that returned, once
and in order (`sinkSurvives_of_orderly`).
-/

namespace QueryGate

open Foundation

/-- How a record is printed and a line parsed, which is the data-model library's. -/
structure RecordLines (F : Type) where
  print : LedgerRecord F → List Char
  parse : String → Option (LedgerRecord F)

/-- An end of line, where a file is read as text. -/
def isBreak (letter : Char) : Bool :=
  letter == '\n' || letter == '\r'

/-- A printed record is one line without blanks around it, and is read back. -/
structure RecordLines.Faithful {F : Type} (lines : RecordLines F) : Prop where
  reads : ∀ record, lines.parse (String.ofList (lines.print record)) = some record
  stripped : ∀ record,
    strip (String.ofList (lines.print record)) = String.ofList (lines.print record)
  solid : ∀ record, lines.print record ≠ []
  oneLine : ∀ record, ∀ letter ∈ lines.print record, isBreak letter = false

/-- A call of `emit`, and whether it returned. -/
structure EmitCall (F : Type) where
  event : EventBody F
  returned : Bool

/-- The file and the head in memory, if the sink could be built, with the calls so far. -/
structure ChainedSink (F : Type) where
  file : List Char := []
  head : Option (Nat × String) := some (0, genesisPrevHash)
  calls : List (EmitCall F) := []

/-- What happens to the text of one `emit`: nothing is written, or all but the last `lost`
characters are, and then `os.fsync` may raise. -/
inductive AppendOutcome
  | refused
  | wrote (lost : Nat) (synced : Bool)
  deriving DecidableEq, Repr

/-- A call of `emit`, or a restart of the process, where reading the last line may stop at
a bound. -/
inductive SinkAction (F : Type)
  | emit (event : EventBody F) (outcome : AppendOutcome)
  | restart (stopped : Bool)

section Sink

variable {F : Type} (hashing : Hashing F) (lines : RecordLines F) (key : Option String)
  (fsync : Bool)

/-- `_read_last_line`. -/
def readLastLine (file : List Char) : Option String :=
  (((file.splitOnP (· == '\n')).filter fun line => !line.isEmpty).getLast?).map String.ofList

/-- `_recover_head`, or `none` where it raises. -/
def recoverHead (stopped : Bool) (file : List Char) : Option (Nat × String) :=
  if stopped then none
  else
    match readLastLine file with
    | none => some (0, genesisPrevHash)
    | some last => (lines.parse last).map fun record => (record.seq + 1, record.hash)

/-- The text of a record in the file. -/
def RecordLines.payload (record : LedgerRecord F) : List Char :=
  lines.print record ++ ['\n']

namespace ChainedSink

/-- `emit`. The number of characters that `os.write` took is not looked at. -/
def emit (sink : ChainedSink F) (event : EventBody F) (outcome : AppendOutcome) : ChainedSink F :=
  match sink.head, outcome with
  | some (seq, prevHash), .wrote lost synced =>
      let record := makeRecord hashing key seq prevHash event
      let payload := lines.payload record
      let returned := !fsync || synced
      { file := sink.file ++ payload.take (payload.length - lost)
        head := if returned then some (record.seq + 1, record.hash) else sink.head
        calls := sink.calls ++ [⟨event, returned⟩] }
  | _, _ => { sink with calls := sink.calls ++ [⟨event, false⟩] }

/-- One step. -/
def step (sink : ChainedSink F) : SinkAction F → ChainedSink F
  | .emit event outcome => sink.emit hashing lines key fsync event outcome
  | .restart stopped => { sink with head := recoverHead lines stopped sink.file }

/-- The sink after a run that begins without a file. -/
def run (actions : List (SinkAction F)) : ChainedSink F :=
  actions.foldl (step hashing lines key fsync) {}

end ChainedSink

/-- The lines of the file, as it is read to be verified. -/
def textLines (file : List Char) : List String :=
  (file.splitOnP isBreak).map String.ofList

/-- `verify_chain` passes the file. -/
def FileVerifies (file : List Char) : Prop :=
  (verifyChain hashing lines.parse key (textLines file) none).ok = true

/-- The sink refuses to append; or the file verifies and holds the events of calls of
`emit`, in order and each once, all of those that returned among them. -/
def SinkIntact (sink : ChainedSink F) : Prop :=
  sink.head = none ∨
    FileVerifies hashing lines key sink.file ∧
      ∃ (records : List (LedgerRecord F)) (kept : List (EmitCall F)),
        loadRecords lines.parse (textLines sink.file) = some records ∧
        records.map LedgerRecord.event = kept.map EmitCall.event ∧ kept.Sublist sink.calls ∧
        kept.filter EmitCall.returned = sink.calls.filter EmitCall.returned

/-- What the sink promises of a run: every sink reached is intact, and no step breaks a
file that verifies. -/
structure SinkSurvives (actions : List (SinkAction F)) : Prop where
  intact : ∀ past later, actions = past ++ later →
    SinkIntact hashing lines key (ChainedSink.run hashing lines key fsync past)
  unbroken : ∀ past action later, actions = past ++ action :: later →
    FileVerifies hashing lines key (ChainedSink.run hashing lines key fsync past).file →
    FileVerifies hashing lines key (ChainedSink.run hashing lines key fsync (past ++ [action])).file

/-! ## Orderly runs -/

/-- How the head in memory stands to the file. -/
inductive HeadMode
  | ready
  | behind
  | refusing
  deriving DecidableEq, Repr

/-- How the head stands after an action, or `none` where a write is cut short or comes
after one whose `fsync` failed. -/
def HeadMode.after : HeadMode → SinkAction F → Option HeadMode
  | _, .restart stopped => some (if stopped then .refusing else .ready)
  | mode, .emit _ .refused => some mode
  | .refusing, .emit _ (.wrote _ _) => some .refusing
  | .ready, .emit _ (.wrote lost synced) =>
      if lost = 0 then some (if !fsync || synced then .ready else .behind) else none
  | .behind, .emit _ (.wrote _ _) => none

/-- No write is cut short, and none comes after one whose `fsync` failed before the next
restart. -/
def Orderly (actions : List (SinkAction F)) : Prop :=
  (actions.foldlM (HeadMode.after fsync) .ready).isSome = true

variable {hashing lines key fsync}

theorem Orderly.past {past later : List (SinkAction F)} (orderly : Orderly fsync (past ++ later)) :
    Orderly fsync past := by
  unfold Orderly at orderly ⊢
  rw [List.foldlM_append] at orderly
  cases reached : past.foldlM (HeadMode.after fsync) .ready with
  | some mode => rfl
  | none =>
      rw [reached] at orderly
      cases orderly

/-! ## Files made of records -/

theorem splitOnP_payloads {isEnd : Char → Bool} (atLine : isEnd '\n' = true)
    (inside : ∀ record, ∀ letter ∈ lines.print record, isEnd letter = false)
    (records : List (LedgerRecord F)) :
    (records.flatMap lines.payload).splitOnP isEnd = records.map lines.print ++ [[]] := by
  induction records with
  | nil => exact List.splitOnP_nil
  | cons record rest ih =>
      rw [List.flatMap_cons, RecordLines.payload, List.append_assoc, List.singleton_append,
        List.splitOnP_append_cons_of_forall_mem (inside record) _ atLine, ih, List.map_cons,
        List.cons_append]

theorem readLastLine_payloads (faithful : lines.Faithful) (records : List (LedgerRecord F)) :
    readLastLine (records.flatMap lines.payload) =
      records.getLast?.map fun record => String.ofList (lines.print record) := by
  have inside : ∀ record, ∀ letter ∈ lines.print record, (letter == '\n') = false := by
    intro record letter member
    have unbroken := faithful.oneLine record letter member
    rw [isBreak, Bool.or_eq_false_iff] at unbroken
    exact unbroken.1
  have solid : (records.map lines.print).filter (fun line => !line.isEmpty) =
      records.map lines.print := by
    apply List.filter_eq_self.mpr
    intro line member
    obtain ⟨record, _, rfl⟩ := List.mem_map.mp member
    rw [Bool.not_eq_true', List.isEmpty_eq_false_iff]
    exact faithful.solid record
  rw [readLastLine, splitOnP_payloads rfl inside, List.filter_append, solid]
  have tail : [([] : List Char)].filter (fun line => !line.isEmpty) = [] := rfl
  rw [tail, List.append_nil, List.getLast?_map, Option.map_map]
  rfl

/-- The head is rebuilt from a file made of records. -/
theorem recoverHead_payloads (faithful : lines.Faithful) (records : List (LedgerRecord F)) :
    recoverHead lines false (records.flatMap lines.payload) = some (headOf records) := by
  rw [recoverHead, readLastLine_payloads faithful, headOf]
  cases records.getLast? with
  | none => rfl
  | some last =>
      simp only [Bool.false_eq_true, ↓reduceIte, Option.map_some, faithful.reads]

theorem loadRecords_payloads (faithful : lines.Faithful) (records : List (LedgerRecord F)) :
    loadRecords lines.parse (textLines (records.flatMap lines.payload)) = some records := by
  rw [textLines, splitOnP_payloads rfl faithful.oneLine]
  induction records with
  | nil => rfl
  | cons record rest ih =>
      have solid : String.ofList (lines.print record) ≠ "" := by
        intro blank
        have letters := congrArg String.toList blank
        rw [String.toList_ofList] at letters
        exact faithful.solid record letters
      rw [List.map_cons, List.cons_append, List.map_cons, loadRecords_cons, faithful.stripped,
        if_neg solid, faithful.reads, Option.bind_some, ih, Option.map_some]

theorem fileVerifies_payloads (faithful : lines.Faithful) {records : List (LedgerRecord F)}
    (chain : ChainFrom hashing key none records) :
    FileVerifies hashing lines key (records.flatMap lines.payload) := by
  refine verifyChain_ok_iff.mpr ⟨records, loadRecords_payloads faithful records, chain, ?_⟩
  intro head expected
  cases expected

/-! ## Steps and runs -/

/-- The file is a chain of records, of which the calls that wrote them are known, and the
head stands to it as the mode says. -/
structure SinkHolds (hashing : Hashing F) (lines : RecordLines F) (key : Option String)
    (records : List (LedgerRecord F)) (kept : List (EmitCall F)) (mode : HeadMode)
    (sink : ChainedSink F) : Prop where
  written : sink.file = records.flatMap lines.payload
  chained : ChainFrom hashing key none records
  events : records.map LedgerRecord.event = kept.map EmitCall.event
  inOrder : kept.Sublist sink.calls
  complete : kept.filter EmitCall.returned = sink.calls.filter EmitCall.returned
  ready : mode = .ready → sink.head = some (headOf records)
  refusing : mode = .refusing → sink.head = none

namespace SinkHolds

variable {records : List (LedgerRecord F)} {kept : List (EmitCall F)} {mode next : HeadMode}
  {sink : ChainedSink F}

theorem verifies (holds : SinkHolds hashing lines key records kept mode sink)
    (faithful : lines.Faithful) : FileVerifies hashing lines key sink.file := by
  rw [holds.written]
  exact fileVerifies_payloads faithful holds.chained

theorem sinkIntact (holds : SinkHolds hashing lines key records kept mode sink)
    (faithful : lines.Faithful) : SinkIntact hashing lines key sink := by
  refine Or.inr ⟨holds.verifies faithful, records, kept, ?_, holds.events, holds.inOrder,
    holds.complete⟩
  rw [holds.written]
  exact loadRecords_payloads faithful records

/-- A call that wrote nothing. -/
theorem refuse (holds : SinkHolds hashing lines key records kept mode sink) (event : EventBody F) :
    SinkHolds hashing lines key records kept mode
      { sink with calls := sink.calls ++ [⟨event, false⟩] } := by
  refine ⟨holds.written, holds.chained, holds.events, ?_, ?_, holds.ready, holds.refusing⟩
  · exact holds.inOrder.trans (List.sublist_append_left _ _)
  · rw [List.filter_append, holds.complete]
    exact (List.append_nil _).symm

/-- The head rebuilt from the file. -/
theorem restart (holds : SinkHolds hashing lines key records kept mode sink)
    (faithful : lines.Faithful) (stopped : Bool) :
    SinkHolds hashing lines key records kept (if stopped then .refusing else .ready)
      { sink with head := recoverHead lines stopped sink.file } := by
  refine ⟨holds.written, holds.chained, holds.events, holds.inOrder, holds.complete, ?_, ?_⟩
  · cases stopped with
    | true => rintro ⟨⟩
    | false =>
        intro _
        rw [holds.written]
        exact recoverHead_payloads faithful records
  · cases stopped with
    | true => exact fun _ => rfl
    | false => rintro ⟨⟩

/-- A record written whole at the head of the file. -/
theorem append (holds : SinkHolds hashing lines key records kept .ready sink)
    (sound : hashing.Sound) (event : EventBody F) (synced : Bool) :
    let record := makeRecord hashing key (headOf records).1 (headOf records).2 event
    SinkHolds hashing lines key (records ++ [record]) (kept ++ [⟨event, !fsync || synced⟩])
      (if !fsync || synced then .ready else .behind)
      (sink.emit hashing lines key fsync event (.wrote 0 synced)) := by
  intro record
  have head : sink.head = some ((headOf records).1, (headOf records).2) := holds.ready rfl
  have after : sink.emit hashing lines key fsync event (.wrote 0 synced) =
      { file := sink.file ++ lines.payload record
        head := if !fsync || synced then some (record.seq + 1, record.hash) else sink.head
        calls := sink.calls ++ [⟨event, !fsync || synced⟩] } := by
    unfold ChainedSink.emit
    rw [head]
    simp only [Nat.sub_zero, List.take_length]
    rfl
  have follows : linkFault records.getLast? record = none :=
    (linkFault_headOf holds.chained record rfl rfl).1
  rw [after]
  refine ⟨?_, ?_, ?_, ?_, ?_, ?_, ?_⟩
  · rw [List.flatMap_append, holds.written, List.flatMap_singleton]
  · rw [chainFrom_append, Option.or_none]
    exact ⟨holds.chained, hashMatches_makeRecord sound _ _ event, follows, trivial⟩
  · rw [List.map_append, List.map_append, holds.events]
    rfl
  · exact holds.inOrder.append (List.Sublist.refl _)
  · rw [List.filter_append, List.filter_append, holds.complete]
  · intro ready
    have returned : (!fsync || synced) = true := by
      by_contra raised
      rw [if_neg raised] at ready
      cases ready
    have last : headOf (records ++ [record]) = (record.seq + 1, record.hash) := by
      rw [headOf, List.getLast?_concat]
    rw [if_pos returned, last]
  · intro refusing
    split at refusing
    · cases refusing
    · cases refusing

/-- One step keeps the file a chain. -/
theorem step (holds : SinkHolds hashing lines key records kept mode sink) (sound : hashing.Sound)
    (faithful : lines.Faithful) {action : SinkAction F}
    (allowed : mode.after fsync action = some next) :
    ∃ records kept, SinkHolds hashing lines key records kept next
      (sink.step hashing lines key fsync action) := by
  cases action with
  | restart stopped =>
      cases allowed
      exact ⟨records, kept, holds.restart faithful stopped⟩
  | emit event outcome =>
      cases outcome with
      | refused =>
          cases allowed
          refine ⟨records, kept, ?_⟩
          have same : sink.emit hashing lines key fsync event .refused =
              { sink with calls := sink.calls ++ [⟨event, false⟩] } := by
            unfold ChainedSink.emit
            split
            · rename_i clash
              cases clash
            · rfl
          rw [ChainedSink.step, same]
          exact holds.refuse event
      | wrote lost synced =>
          cases mode with
          | behind => cases allowed
          | refusing =>
              cases allowed
              refine ⟨records, kept, ?_⟩
              have same : sink.emit hashing lines key fsync event (.wrote lost synced) =
                  { sink with calls := sink.calls ++ [⟨event, false⟩] } := by
                unfold ChainedSink.emit
                rw [holds.refusing rfl]
              rw [ChainedSink.step, same]
              exact holds.refuse event
          | ready =>
              by_cases whole : lost = 0
              · subst whole
                cases allowed
                exact ⟨_, _, holds.append sound event synced⟩
              · rw [HeadMode.after, if_neg whole] at allowed
                cases allowed

/-- A run of allowed steps keeps the file a chain. -/
theorem foldl {actions : List (SinkAction F)}
    (holds : SinkHolds hashing lines key records kept mode sink) (sound : hashing.Sound)
    (faithful : lines.Faithful)
    (allowed : (actions.foldlM (HeadMode.after fsync) mode).isSome = true) :
    ∃ records kept mode, SinkHolds hashing lines key records kept mode
      (actions.foldl (ChainedSink.step hashing lines key fsync) sink) := by
  induction actions generalizing records kept mode sink with
  | nil => exact ⟨records, kept, mode, holds⟩
  | cons action rest ih =>
      rw [List.foldlM_cons] at allowed
      cases stepped : mode.after fsync action with
      | none =>
          rw [stepped] at allowed
          cases allowed
      | some next =>
          rw [stepped] at allowed
          obtain ⟨_, _, after⟩ := holds.step sound faithful stepped
          exact ih after allowed

end SinkHolds

/-- The file of an orderly run is a chain of the records of its calls. -/
theorem sinkHolds_run (sound : hashing.Sound) (faithful : lines.Faithful)
    {actions : List (SinkAction F)} (orderly : Orderly fsync actions) :
    ∃ records kept mode, SinkHolds hashing lines key records kept mode
      (ChainedSink.run hashing lines key fsync actions) := by
  have start : SinkHolds hashing lines key [] [] .ready ({} : ChainedSink F) :=
    ⟨rfl, trivial, rfl, List.Sublist.refl _, rfl, fun _ => rfl, fun clash => by cases clash⟩
  exact start.foldl sound faithful orderly

/-- In every orderly run the sink survives. -/
theorem sinkSurvives_of_orderly (sound : hashing.Sound) (faithful : lines.Faithful)
    {actions : List (SinkAction F)} (orderly : Orderly fsync actions) :
    SinkSurvives hashing lines key fsync actions := by
  constructor
  · intro past later split
    rw [split] at orderly
    obtain ⟨_, _, _, holds⟩ := @sinkHolds_run _ _ _ key _ sound faithful _ orderly.past
    exact holds.sinkIntact faithful
  · intro past action later split _
    rw [split, List.append_cons] at orderly
    obtain ⟨_, _, _, holds⟩ := @sinkHolds_run _ _ _ key _ sound faithful _ orderly.past
    exact holds.verifies faithful

/-! ## Where it does not survive -/

/-- A write after one whose `fsync` failed takes the place of its record. -/
theorem not_sinkSurvives_of_unsynced (sound : hashing.Sound) (faithful : lines.Faithful)
    (first second : EventBody F) :
    ¬ SinkSurvives hashing lines key true
      [.emit first (.wrote 0 false), .emit second (.wrote 0 true)] := by
  intro survives
  have whole : ∀ event, (lines.payload (makeRecord hashing key 0 genesisPrevHash event)).take
      ((lines.payload (makeRecord hashing key 0 genesisPrevHash event)).length - 0) =
        lines.payload (makeRecord hashing key 0 genesisPrevHash event) := fun event =>
    List.take_of_length_le (Nat.le_of_eq (Nat.sub_zero _).symm)
  have chain : ChainFrom hashing key none [makeRecord hashing key 0 genesisPrevHash first] := by
    refine ⟨hashMatches_makeRecord sound _ _ _, ?_, trivial⟩
    unfold linkFault
    exact if_neg fun broken => broken.2 rfl
  have before : (ChainedSink.run hashing lines key true [.emit first (.wrote 0 false)]).file =
      [makeRecord hashing key 0 genesisPrevHash first].flatMap lines.payload := by
    change [] ++ _ = _
    rw [whole, List.flatMap_singleton, List.nil_append]
  have after : (ChainedSink.run hashing lines key true
      [.emit first (.wrote 0 false), .emit second (.wrote 0 true)]).file =
        [makeRecord hashing key 0 genesisPrevHash first,
          makeRecord hashing key 0 genesisPrevHash second].flatMap lines.payload := by
    change [] ++ _ ++ _ = _
    rw [whole, whole, List.nil_append, List.flatMap_cons, List.flatMap_singleton]
  have unbroken := survives.unbroken [.emit first (.wrote 0 false)] _ [] rfl
    (by rw [before]; exact fileVerifies_payloads faithful chain)
  rw [List.singleton_append, after] at unbroken
  obtain ⟨records, loaded, verified, _⟩ := verifyChain_ok_iff.mp unbroken
  cases (loadRecords_payloads faithful _).symm.trans loaded
  obtain ⟨_, _, _, follows, _⟩ := verified
  cases follows

/-- A write after one that lost its end of line makes one line of two records, which is
none. -/
theorem not_sinkSurvives_of_lostBreak (faithful : lines.Faithful) (first second : EventBody F)
    (glued : ∀ one two, strip (String.ofList (lines.print one ++ lines.print two)) ≠ "" ∧
      lines.parse (strip (String.ofList (lines.print one ++ lines.print two))) = none) :
    ¬ SinkSurvives hashing lines key fsync
      [.emit first (.wrote 1 true), .emit second (.wrote 0 true)] := by
  intro survives
  have returned : (!fsync || true) = true := Bool.or_true _
  obtain ⟨one, two, after, head⟩ : ∃ one two,
      (ChainedSink.run hashing lines key fsync
        [.emit first (.wrote 1 true), .emit second (.wrote 0 true)]).file =
          (lines.print one ++ lines.print two) ++ '\n' :: [] ∧
      (ChainedSink.run hashing lines key fsync
        [.emit first (.wrote 1 true), .emit second (.wrote 0 true)]).head ≠ none := by
    refine ⟨makeRecord hashing key 0 genesisPrevHash first,
      makeRecord hashing key 1 (makeRecord hashing key 0 genesisPrevHash first).hash second, ?_, ?_⟩
    · unfold ChainedSink.run
      simp only [List.foldl_cons, List.foldl_nil, ChainedSink.step, ChainedSink.emit, returned,
        ↓reduceIte, RecordLines.payload, List.length_append, List.length_singleton,
        Nat.add_sub_cancel, Nat.sub_zero, List.nil_append]
      rw [List.take_left, List.take_of_length_le (by rw [List.length_append]; rfl),
        List.append_assoc]
      rfl
    · unfold ChainedSink.run
      simp only [List.foldl_cons, List.foldl_nil, ChainedSink.step, ChainedSink.emit, returned,
        ↓reduceIte]
      exact Option.some_ne_none _
  have oneLine : ∀ letter ∈ lines.print one ++ lines.print two, isBreak letter = false := by
    intro letter member
    rcases List.mem_append.mp member with inside | inside
    · exact faithful.oneLine one letter inside
    · exact faithful.oneLine two letter inside
  rcases survives.intact _ [] (List.append_nil _).symm with refuses | ⟨verifies, _⟩
  · exact head refuses
  · obtain ⟨records, loaded, _⟩ := verifyChain_ok_iff.mp verifies
    obtain ⟨solid, noRecord⟩ := glued one two
    rw [after, textLines, List.splitOnP_append_cons_of_forall_mem oneLine _ rfl, List.map_cons,
      loadRecords_cons, if_neg solid, noRecord] at loaded
    cases loaded

end Sink

/-! ## Lines of JSON -/

section JsonLines

variable {F : Type} (format : FloatFormat F)

/-- The fields of a record. -/
def recordJson (record : LedgerRecord F) : Json F :=
  .dict [("seq", .int record.seq), ("prev_hash", .str record.prevHash),
    ("event", .dict record.event.entries), ("hash", .str record.hash)]

/-- The record with the given fields, no other field being allowed. -/
def recordOfJson (value : Json F) : Option (LedgerRecord F) :=
  match value with
  | .dict entries =>
      if entries.length = 4 then
        match dictGet entries "seq", dictGet entries "prev_hash", dictGet entries "event",
          dictGet entries "hash" with
        | some (.int (.ofNat seq)), some (.str prevHash), some (.dict event), some (.str hash) =>
            if distinct : DistinctKeys (.dict event) then
              some ⟨seq, prevHash, ⟨event, distinct⟩, hash⟩
            else none
        | _, _, _, _ => none
      else none
  | _ => none

/-- `model_dump_json` and `model_validate_json` of a record. -/
def jsonLines : RecordLines F where
  print := fun record => dumps format plainChar (recordJson record)
  parse := fun line => (loads format line.toList).bind recordOfJson

variable {format}

theorem recordOfJson_recordJson (record : LedgerRecord F) :
    recordOfJson (recordJson record) = some record := by
  have distinct := record.event.distinct
  change (if distinct : DistinctKeys (.dict record.event.entries) then _ else none) = _
  rw [dif_pos distinct]

theorem distinctKeys_recordJson (record : LedgerRecord F) : DistinctKeys (recordJson record) := by
  refine ⟨?_, trivial, trivial, record.event.distinct, trivial, trivial⟩
  change ["seq", "prev_hash", "event", "hash"].Nodup
  decide

theorem strip_braced (middle : List Char) :
    strip (String.ofList ('\x7b' :: (middle ++ ['\x7d']))) =
      String.ofList ('\x7b' :: (middle ++ ['\x7d'])) := by
  have opens : isSpace '\x7b' = false := rfl
  have closes : isSpace '\x7d' = false := rfl
  rw [strip, String.toList_ofList, List.dropWhile_cons, opens]
  simp only [Bool.false_eq_true, ↓reduceIte]
  rw [← List.cons_append, List.reverse_append, List.reverse_singleton, List.singleton_append,
    List.dropWhile_cons, closes]
  simp only [Bool.false_eq_true, ↓reduceIte, List.reverse_cons]
  rw [List.reverse_append, List.reverse_reverse, List.reverse_singleton]
  rfl

theorem print_jsonLines (record : LedgerRecord F) :
    (jsonLines format).print record = dumps format plainChar (recordJson record) :=
  rfl

theorem parse_jsonLines (chars : List Char) :
    (jsonLines format).parse (String.ofList chars) = (loads format chars).bind recordOfJson := by
  change (loads format (String.ofList chars).toList).bind recordOfJson = _
  rw [String.toList_ofList]

/-- A printed record stands between braces. -/
theorem print_jsonLines_braced (record : LedgerRecord F) :
    ∃ middle, (jsonLines format).print record = '\x7b' :: (middle ++ ['\x7d']) :=
  dumps_dict_braced _

theorem jsonLines_faithful (floats : ∀ value, FloatReads format value) :
    (jsonLines format).Faithful := by
  have oneLine : ∀ (record : LedgerRecord F) (letter : Char), letter.toNat < 32 →
      letter ∉ (jsonLines format).print record := fun record letter control =>
    not_mem_dumps control (not_mem_plainChar control)
      (fun value => not_mem_of_isFloatText control (floats value).spelled) _
  constructor
  · intro record
    rw [print_jsonLines, parse_jsonLines, loads_dumps escapeReads_plainChar
      (readable_of_distinctKeys floats _ (distinctKeys_recordJson record)), Option.bind_some]
    exact recordOfJson_recordJson record
  · intro record
    obtain ⟨middle, braced⟩ := @print_jsonLines_braced F format record
    rw [braced]
    exact strip_braced middle
  · intro record empty
    obtain ⟨middle, braced⟩ := @print_jsonLines_braced F format record
    rw [braced] at empty
    cases empty
  · intro record letter member
    rw [isBreak, Bool.or_eq_false_iff, beq_eq_false_iff_ne, beq_eq_false_iff_ne]
    constructor
    · rintro rfl
      exact oneLine record _ (by decide) member
    · rintro rfl
      exact oneLine record _ (by decide) member

/-- Two records in one line are no record. -/
theorem jsonLines_glued (floats : ∀ value, FloatReads format value) (one two : LedgerRecord F) :
    strip (String.ofList ((jsonLines format).print one ++ (jsonLines format).print two)) ≠ "" ∧
      (jsonLines format).parse (strip (String.ofList
        ((jsonLines format).print one ++ (jsonLines format).print two))) = none := by
  have readable := fun record : LedgerRecord F =>
    readable_of_distinctKeys floats _ (distinctKeys_recordJson record)
  obtain ⟨front, opened⟩ := @print_jsonLines_braced F format one
  obtain ⟨back, closed⟩ := @print_jsonLines_braced F format two
  have joined : (jsonLines format).print one ++ (jsonLines format).print two =
      '\x7b' :: ((front ++ '\x7d' :: '\x7b' :: back) ++ ['\x7d']) := by
    rw [opened, closed]
    simp only [List.cons_append, List.append_assoc, List.nil_append]
  have none := loads_dumps_append escapeReads_plainChar (readable one) (readable two)
    ⟨back ++ ['\x7d'], closed⟩
  rw [← print_jsonLines, ← print_jsonLines] at none
  rw [joined] at none ⊢
  rw [strip_braced, parse_jsonLines, none]
  constructor
  · intro blank
    have letters := congrArg String.toList blank
    rw [String.toList_ofList] at letters
    cases letters
  · rfl

end JsonLines

/-- The second of two writes breaks the file where the `fsync` of the first failed, and where
the first lost its end of line. -/
theorem not_sinkSurvives_of_failures :
    (¬ SinkSurvives numberedHashing (jsonLines numberedHashing.format) none true
      [.emit ⟨[("event_id", .str "1")], by decide⟩ (.wrote 0 false),
        .emit ⟨[("event_id", .str "2")], by decide⟩ (.wrote 0 true)]) ∧
    ¬ SinkSurvives numberedHashing (jsonLines numberedHashing.format) none false
      [.emit ⟨[("event_id", .str "1")], by decide⟩ (.wrote 1 true),
        .emit ⟨[("event_id", .str "2")], by decide⟩ (.wrote 0 true)] := by
  have floats : ∀ value, FloatReads numberedHashing.format value := fun value => value.elim
  exact ⟨not_sinkSurvives_of_unsynced numberedHashing_sound (jsonLines_faithful floats) _ _,
    not_sinkSurvives_of_lostBreak (jsonLines_faithful floats) _ _ (jsonLines_glued floats)⟩

/-- A write, a failed `fsync`, a restart and another write. -/
theorem sinkSurvives_of_restart :
    SinkSurvives numberedHashing (jsonLines numberedHashing.format) (some "audit key") true
      [.emit ⟨[("event_id", .str "1")], by decide⟩ (.wrote 0 true),
        .emit ⟨[("event_id", .str "2")], by decide⟩ (.wrote 0 false),
        .emit ⟨[("event_id", .str "3")], by decide⟩ .refused, .restart false,
        .emit ⟨[("event_id", .str "4")], by decide⟩ (.wrote 0 true)] :=
  sinkSurvives_of_orderly numberedHashing_sound
    (jsonLines_faithful fun value => value.elim) rfl

end QueryGate
