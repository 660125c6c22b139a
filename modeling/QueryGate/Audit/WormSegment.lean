import QueryGate.Audit.Ledger
import QueryGate.Foundation.Encoding
import QueryGate.Foundation.JsonWalks
import QueryGate.Foundation.Lines

/-! # Archived segments

`_build_segment_body` of `audit/worm_sink.py`, and how `search_worm_archive` of
`audit/worm_search.py` reads one object: its lines, the check of each line's envelope, of its
link to the line before, and of the event inside. Printing and validating an event are the
data-model library's, and parameters.

The writer ends a record with a newline, and the reader splits at every line break Unicode
has. An event comes back exactly where none of its texts holds a break that the writer leaves
as it is, its numbers are finite, and it nests no deeper than the reader goes.
-/

namespace QueryGate

open Foundation

/-- What the archive is written and read with. -/
structure ArchiveCodec (F E : Type) where
  hashing : Hashing F
  /-- The numbers that are neither infinite nor no number at all. -/
  finite : F → Bool
  /-- How `model_dump_json` spells a finite number. -/
  lineText : F → List Char
  /-- The whole number that a value counts as where `LedgerRecord` is validated. -/
  laxInt : Json F → Option Int
  /-- `event.model_dump(mode="json", exclude_none=True)`. -/
  dump : E → EventBody F
  /-- `_EVENT_ADAPTER.validate_python`. -/
  validate : List (String × Json F) → Option E
  /-- `getattr(event, "query_shape", None)`. -/
  queryShape : E → Option (Json F)
  /-- What `errors="replace"` makes of bytes that are no UTF-8. -/
  replaced : List UInt8 → List Char
  /-- How deep `json.loads` goes before it gives up. -/
  recursionLimit : Nat
  maxQueryShapeDepth : Nat

/-- What the data-model library promises of a codec: a finite number is read back from its
spelling, a whole number counts as itself, and what an event was dumped to validates to the
event. -/
structure ArchiveCodec.Sound {F E : Type} (codec : ArchiveCodec F E) : Prop where
  hashing : codec.hashing.Sound
  reads : ∀ value, codec.finite value = true →
    FloatReads ⟨codec.lineText, codec.hashing.format.read⟩ value
  wholeNumbers : ∀ value, codec.laxInt (.int value) = some value
  restores : ∀ event, codec.validate (codec.dump event).entries = some event

section Segment

variable {F E : Type} (codec : ArchiveCodec F E) (key : Option String)

/-- How numbers stand in a line. -/
def ArchiveCodec.lineFormat : FloatFormat F :=
  ⟨codec.lineText, codec.hashing.format.read⟩

/-! ## Writing -/

/-- `record.model_dump_json()`, as a value: a number that is not finite becomes a null. -/
def lineJson (record : LedgerRecord F) : Json F :=
  .dict [("seq", .int record.seq), ("prev_hash", .str record.prevHash),
    ("event", nullFloats codec.finite (.dict record.event.entries)), ("hash", .str record.hash)]

/-- `record.model_dump_json()`. -/
def segmentLine (record : LedgerRecord F) : List Char :=
  dumps codec.lineFormat plainChar (lineJson codec record)

/-- The records of one segment, a chain of its own. -/
def segmentRecords (events : List E) : List (LedgerRecord F) :=
  makeRecords codec.hashing key (0, genesisPrevHash) (events.map codec.dump)

/-- `"\n".join(lines) + "\n"`. -/
def joinLines (lines : List (List Char)) : List Char :=
  ['\n'].intercalate lines ++ ['\n']

/-- `_build_segment_body`. -/
def buildSegmentBody (events : List E) : List UInt8 :=
  encodeUtf8 (joinLines ((segmentRecords codec key events).map (segmentLine codec)))

/-! ## Reading a line -/

/-- `_get_object_text`, of the bytes of the object. -/
def getObjectText (body : List UInt8) : List Char :=
  (decodeUtf8 body).getD (codec.replaced body)

/-- `json.loads`, which gives up on what nests too deeply. -/
def loadsLine (raw : List Char) : Option (Json F) :=
  (loads codec.lineFormat raw).filter fun parsed => nesting parsed ≤ codec.recursionLimit

/-- The keys of a `LedgerRecord`. -/
def envelopeKeys : List String :=
  ["seq", "prev_hash", "event", "hash"]

/-- A text under a key. -/
def textAt (parsed : Json F) (name : String) : Option String :=
  match field? parsed name with
  | some (.str text) => some text
  | _ => none

/-- An object under a key. -/
def objectAt (parsed : Json F) (name : String) : Option (List (String × Json F)) :=
  match field? parsed name with
  | some (.dict entries) => some entries
  | _ => none

/-- The value has what an envelope has. -/
def isEnvelope (parsed : Json F) : Bool :=
  envelopeKeys.all (fun name => (field? parsed name).isSome) && (objectAt parsed "event").isSome

/-- No key but those of a `LedgerRecord`, which forbids others. -/
def noExtraKeys (parsed : Json F) : Bool :=
  match parsed with
  | .dict entries => (dictKeys entries).all envelopeKeys.contains
  | _ => false

/-- `LedgerRecord.model_validate`. An object that was read repeats no key. -/
def validateRecord (parsed : Json F) : Option (LedgerRecord F) := do
  let seq ← (field? parsed "seq").bind codec.laxInt
  let prevHash ← textAt parsed "prev_hash"
  let entries ← objectAt parsed "event"
  let hash ← textAt parsed "hash"
  if distinct : DistinctKeys (.dict entries) then
    if 0 ≤ seq ∧ noExtraKeys parsed = true then
      some ⟨seq.toNat, prevHash, ⟨entries, distinct⟩, hash⟩
    else none
  else none

/-- `verify_envelope_hash`. -/
def verifyEnvelopeHash (parsed : Json F) : Option Bool :=
  if isEnvelope parsed then
    some (match validateRecord codec parsed with
      | none => false
      | some record => hashMatches codec.hashing key record)
  else none

/-- `unwrap_envelope`, of an envelope. -/
def unwrapEnvelope (parsed : Json F) : List (String × Json F) :=
  (objectAt parsed "event").getD []

/-- `_chain_seq`. -/
def chainSeq (parsed : Json F) : Option Int :=
  match field? parsed "seq" with
  | some (.int seq) => some seq
  | _ => none

/-- `_FORBIDDEN_QUERY_SHAPE_KEYS`. -/
def forbiddenQueryShapeKeys : List String :=
  ["sql", "row_data", "rows", "connection_string", "password", "credential", "credentials",
    "secret", "value", "values", "literal", "intent", "params"]

/-- `key.lower() in _FORBIDDEN_QUERY_SHAPE_KEYS`. Outside ASCII no letter lowers to one of
these keys'. -/
def isForbiddenKey (name : String) : Bool :=
  forbiddenQueryShapeKeys.contains (String.ofList (name.toList.map Char.toLower))

mutual

/-- `_contains_forbidden_content`. -/
def containsForbiddenContent (maxDepth : Nat) (depth : Nat) : Json F → Bool
  | .dict entries =>
      decide (maxDepth < depth) || forbiddenInEntries maxDepth (depth + 1) entries
  | .list items => decide (maxDepth < depth) || forbiddenInItems maxDepth (depth + 1) items
  | .null => decide (maxDepth < depth)
  | .bool _ => decide (maxDepth < depth)
  | .int _ => decide (maxDepth < depth)
  | .float _ => decide (maxDepth < depth)
  | .str _ => decide (maxDepth < depth)
termination_by structural value => value

/-- Forbidden content in an item of a list. -/
def forbiddenInItems (maxDepth : Nat) (depth : Nat) : List (Json F) → Bool
  | [] => false
  | item :: rest =>
      containsForbiddenContent maxDepth depth item || forbiddenInItems maxDepth depth rest
termination_by structural items => items

/-- A forbidden key in an object, or forbidden content under one. -/
def forbiddenInEntries (maxDepth : Nat) (depth : Nat) : List (String × Json F) → Bool
  | [] => false
  | (name, value) :: rest =>
      isForbiddenKey name || (containsForbiddenContent maxDepth depth value ||
        forbiddenInEntries maxDepth depth rest)
termination_by structural entries => entries

end

/-- The event's shape holds what no shape may hold. -/
def screenedOut (event : E) : Bool :=
  (codec.queryShape event).any (containsForbiddenContent codec.maxQueryShapeDepth 0)

/-- The event of a line, where it validates and passes the screen. -/
def acceptedEvent (parsed : Json F) : Option E :=
  (codec.validate (unwrapEnvelope parsed)).filter fun event => !screenedOut codec event

/-- What is known of the record before a line: `prev_verified_hash`, `prev_seq` and, on a
resumed page, `prev_seed_fail_closed`. -/
inductive Predecessor where
  | genesis
  | unknown
  | unusable
  | record (hash : Option String) (seq : Int)
  deriving DecidableEq, Repr

/-- The record may follow its predecessor. -/
def follows (before : Predecessor) (seq : Int) (prevHash : Option String) : Bool :=
  match before with
  | .genesis => seq == 0 && prevHash == some genesisPrevHash
  | .unknown => true
  | .unusable => false
  | .record hash last => seq == last + 1 && prevHash == hash

/-- What one line comes to. A line that links may still hold no event that is accepted. -/
inductive LineOutcome (E : Type) where
  | blank
  | malformed
  | unverified
  | broken
  | linked (next : Predecessor) (event : Option E)

/-- The link of a line whose envelope is verified. -/
def readLink (before : Predecessor) (parsed : Json F) : LineOutcome E :=
  match chainSeq parsed with
  | none => .broken
  | some seq =>
      if follows before seq (textAt parsed "prev_hash") then
        .linked (.record (textAt parsed "hash") seq) (acceptedEvent codec parsed)
      else .broken

/-- One line of the loop in `search_worm_archive`, up to the filters. -/
def readLine (before : Predecessor) (raw : List Char) : LineOutcome E :=
  if isBlankLine raw then .blank
  else
    match loadsLine codec raw with
    | none => .malformed
    | some parsed =>
        match verifyEnvelopeHash codec key parsed with
        | none => .malformed
        | some false => .unverified
        | some true => readLink codec before parsed

/-! ## Reading a segment -/

/-- What the loop over the lines of one object has counted. -/
structure SegmentScan (E : Type) where
  before : Predecessor := .genesis
  brokeChain : Bool := false
  events : List E := []
  eventsScanned : Nat := 0
  malformed : Nat := 0
  unverified : Nat := 0
  chainBreaks : Nat := 0
  linesSkipped : Nat := 0

/-- What a line's outcome adds. -/
def SegmentScan.add (scan : SegmentScan E) : LineOutcome E → SegmentScan E
  | .blank => scan
  | .malformed =>
      { scan with eventsScanned := scan.eventsScanned + 1, malformed := scan.malformed + 1 }
  | .unverified =>
      { scan with eventsScanned := scan.eventsScanned + 1, unverified := scan.unverified + 1 }
  | .broken =>
      { scan with
        eventsScanned := scan.eventsScanned + 1
        unverified := scan.unverified + 1
        chainBreaks := scan.chainBreaks + 1
        brokeChain := true }
  | .linked next none =>
      { scan with
        before := next, eventsScanned := scan.eventsScanned + 1, malformed := scan.malformed + 1 }
  | .linked next (some event) =>
      { scan with
        before := next
        eventsScanned := scan.eventsScanned + 1
        events := scan.events ++ [event] }

/-- The loop over the lines: nothing is read behind a broken link. -/
def SegmentScan.step (scan : SegmentScan E) (raw : List Char) : SegmentScan E :=
  if scan.brokeChain then { scan with linesSkipped := scan.linesSkipped + 1 }
  else scan.add (readLine codec key scan.before raw)

/-- The whole of an object, with filters that every event passes. -/
def readSegment (body : List UInt8) : SegmentScan E :=
  (splitLines (getObjectText codec body)).foldl (SegmentScan.step codec key) {}

/-- The reader returns what the writer archived, and finds nothing wrong. -/
def ReturnsArchived (events : List E) : Prop :=
  let scan := readSegment codec key (buildSegmentBody codec key events)
  scan.events = events ∧ scan.malformed = 0 ∧ scan.unverified = 0 ∧ scan.chainBreaks = 0

/-- A line break that the writer leaves as it is in a text. -/
def isBareBreak (letter : Char) : Bool :=
  isLineBreak letter && decide (128 ≤ letter.toNat)

/-- What an event has to be like to come back. -/
structure Survives (event : E) : Prop where
  unbroken : someLetter isBareBreak (.dict (codec.dump event).entries) = false
  finite : allFloats codec.finite (.dict (codec.dump event).entries) = true
  shallow : nesting (.dict (codec.dump event).entries) + 1 ≤ codec.recursionLimit
  unscreened : screenedOut codec event = false

end Segment

/-! ## The line of a record -/

theorem isLineBreak_of_visible {letter : Char} (low : 32 ≤ letter.toNat)
    (high : letter.toNat < 127) : isLineBreak letter = false := by
  unfold isLineBreak
  simp only [List.contains_cons, List.contains_nil, Bool.or_false, Bool.or_eq_false_iff,
    beq_eq_false_iff_ne, ne_eq]
  omega

theorem visible_of_mem_hexDigits {letter : Char} {unit : Nat} (member : letter ∈ hexDigits unit) :
    32 ≤ letter.toNat ∧ letter.toNat < 127 := by
  have digit : ∀ value < 16,
      32 ≤ (Nat.digitChar value).toNat ∧ (Nat.digitChar value).toNat < 127 := by decide
  simp only [hexDigits, List.mem_cons, List.not_mem_nil, or_false] at member
  rcases member with rfl | rfl | rfl | rfl
  all_goals exact digit _ (Nat.mod_lt _ (by decide))

/-- What an escape writes for a character the plain writer does not leave as it is. -/
theorem visible_of_mem_jsonChar {letter char : Char} (member : letter ∈ jsonChar char) :
    32 ≤ letter.toNat ∧ letter.toNat < 127 := by
  have pair : ∀ other : Char, 32 ≤ other.toNat ∧ other.toNat < 127 → letter ∈ ['\\', other] →
      32 ≤ letter.toNat ∧ letter.toNat < 127 := by
    intro other visible inside
    rcases List.mem_cons.mp inside with rfl | inside
    · decide
    · exact List.mem_singleton.mp inside ▸ visible
  unfold jsonChar at member
  dsimp only at member
  split_ifs at member with special _ _ _ _ _ visible
  · apply pair char ?_ member
    rw [Bool.or_eq_true, beq_iff_eq, beq_iff_eq] at special
    rcases special with rfl | rfl
    all_goals decide
  · exact pair 'n' (by decide) member
  · exact pair 'r' (by decide) member
  · exact pair 't' (by decide) member
  · exact pair 'f' (by decide) member
  · exact pair 'b' (by decide) member
  · rw [Bool.and_eq_true, decide_eq_true_eq, decide_eq_true_eq] at visible
    rw [List.mem_singleton.mp member]
    omega
  · rcases List.mem_cons.mp member with rfl | member
    · decide
    rcases List.mem_cons.mp member with rfl | member
    · decide
    exact visible_of_mem_hexDigits member
  · rcases List.mem_cons.mp member with rfl | member
    · decide
    rcases List.mem_cons.mp member with rfl | member
    · decide
    rcases List.mem_append.mp member with member | member
    · exact visible_of_mem_hexDigits member
    rcases List.mem_cons.mp member with rfl | member
    · decide
    rcases List.mem_cons.mp member with rfl | member
    · decide
    exact visible_of_mem_hexDigits member

/-- The escapes leave exactly the breaks outside ASCII as they are. -/
theorem any_plainChar (char : Char) : (plainChar char).any isLineBreak = isBareBreak char := by
  unfold plainChar
  dsimp only
  split_ifs with visible
  · rw [List.any_cons, List.any_nil, Bool.or_false, isBareBreak]
    simp only [Bool.and_eq_true, decide_eq_true_eq] at visible
    by_cases wide : 128 ≤ char.toNat
    · rw [decide_eq_true wide, Bool.and_true]
    · have inside : isLineBreak char = false := by
        unfold isLineBreak
        simp only [List.contains_cons, List.contains_nil, Bool.or_false, Bool.or_eq_false_iff,
          beq_eq_false_iff_ne, ne_eq]
        omega
      rw [inside, Bool.false_and]
  · have quiet : (jsonChar char).any isLineBreak = false := by
      apply List.any_eq_false.mpr
      intro letter member
      obtain ⟨low, high⟩ := visible_of_mem_jsonChar member
      exact Bool.eq_false_iff.mp (isLineBreak_of_visible low high)
    have narrow : char.toNat < 128 := by
      by_contra wide
      apply visible
      simp only [Bool.and_eq_true, decide_eq_true_eq, bne_iff_ne]
      refine ⟨⟨by omega, ?_⟩, ?_⟩
      all_goals
        rintro rfl
        exact wide (by decide)
    rw [quiet, isBareBreak, decide_eq_false (not_le.mpr narrow), Bool.and_false]

theorem any_isBareBreak_of_isAscii {text : String} (ascii : isAscii text = true) :
    text.toList.any isBareBreak = false := by
  apply List.any_eq_false.mpr
  intro letter member
  have narrow := of_decide_eq_true (List.all_eq_true.mp ascii letter member)
  rw [isBareBreak, decide_eq_false (not_le.mpr narrow), Bool.and_false]
  exact Bool.false_ne_true

theorem isAscii_genesisPrevHash : isAscii genesisPrevHash = true := by
  decide

section Records

variable {F E : Type} {codec : ArchiveCodec F E} {key : Option String}

theorem readable_lineJson (sound : codec.Sound) (record : LedgerRecord F) :
    Readable codec.lineFormat (lineJson codec record) := by
  have names : envelopeKeys.Nodup := by decide
  have event : Readable codec.lineFormat (nullFloats codec.finite (.dict record.event.entries)) :=
    readable_of_allFloats sound.reads _ (distinctKeys_nullFloats _ record.event.distinct)
      (allFloats_nullFloats _ _)
  exact ⟨names, trivial, trivial, event, trivial, trivial⟩

/-- The line of a record breaks where a text or a key of its event does. -/
theorem any_segmentLine (sound : codec.Sound) {record : LedgerRecord F}
    (linked : isAscii record.prevHash = true) (hashed : isAscii record.hash = true) :
    (segmentLine codec record).any isLineBreak =
      someLetter isBareBreak (.dict record.event.entries) := by
  rw [segmentLine, any_dumps any_plainChar (fun _ => isLineBreak_of_visible) _
    (readable_lineJson sound record), lineJson]
  have names : ∀ name ∈ envelopeKeys, name.toList.any isBareBreak = false := by decide
  rw [someLetter, someLetterEntries, someLetterEntries, someLetterEntries, someLetterEntries,
    someLetterEntries, names "seq" (by decide), names "prev_hash" (by decide),
    names "event" (by decide), names "hash" (by decide), someLetter_nullFloats,
    someLetter, someLetter, someLetter, any_isBareBreak_of_isAscii linked,
    any_isBareBreak_of_isAscii hashed]
  simp only [Bool.false_or, Bool.or_false]
  exact Bool.false_or _

theorem return_not_mem_segmentLine (sound : codec.Sound) (record : LedgerRecord F) :
    '\r' ∉ segmentLine codec record :=
  not_mem_dumps_of_readable (by decide) (not_mem_plainChar (by decide))
    (readable_lineJson sound record)

theorem segmentLine_braced (record : LedgerRecord F) :
    ∃ middle, segmentLine codec record = '\x7b' :: (middle ++ ['\x7d']) :=
  dumps_dict_braced _

theorem not_isBlankLine_segmentLine (record : LedgerRecord F) :
    isBlankLine (segmentLine codec record) = false := by
  obtain ⟨middle, braced⟩ := @segmentLine_braced _ _ codec record
  rw [braced]
  rfl

theorem loadsLine_segmentLine (sound : codec.Sound) (record : LedgerRecord F) :
    loadsLine codec (segmentLine codec record) =
      if nesting (.dict record.event.entries) + 1 ≤ codec.recursionLimit then
        some (lineJson codec record)
      else none := by
  have depth : nesting (lineJson codec record) = nesting (.dict record.event.entries) + 1 := by
    have number : nesting (.int record.seq : Json F) = 0 := rfl
    have text : ∀ text, nesting (.str text : Json F) = 0 := fun _ => rfl
    rw [lineJson, nesting, nestingEntries, nestingEntries, nestingEntries, nestingEntries,
      nestingEntries, nesting_nullFloats, number, text, text]
    omega
  rw [loadsLine, segmentLine, loads_dumps escapeReads_plainChar (readable_lineJson sound record),
    Option.filter_some, depth]
  by_cases shallow : nesting (.dict record.event.entries) + 1 ≤ codec.recursionLimit
  · rw [if_pos shallow, if_pos (decide_eq_true shallow)]
  · rw [if_neg shallow, if_neg (by simpa using shallow)]

/-- The body that a line's event is read as. -/
def writtenBody (codec : ArchiveCodec F E) (event : EventBody F) : EventBody F :=
  ⟨nullFloatsEntries codec.finite event.entries, distinctKeys_nullFloats _ event.distinct⟩

variable (codec) in
theorem fields_lineJson (record : LedgerRecord F) :
    field? (lineJson codec record) "seq" = some (.int record.seq) ∧
      textAt (lineJson codec record) "prev_hash" = some record.prevHash ∧
      objectAt (lineJson codec record) "event" =
        some (writtenBody codec record.event).entries ∧
      textAt (lineJson codec record) "hash" = some record.hash :=
  ⟨rfl, rfl, rfl, rfl⟩

theorem validateRecord_lineJson (sound : codec.Sound) (record : LedgerRecord F) :
    validateRecord codec (lineJson codec record) =
      some { record with event := writtenBody codec record.event } := by
  obtain ⟨seq, prevHash, event, hash⟩ := fields_lineJson codec record
  have position : (0 : Int) ≤ record.seq := Int.natCast_nonneg _
  rw [validateRecord, seq, prevHash, event, hash]
  simp only [Option.bind_eq_bind, Option.bind_some, sound.wholeNumbers]
  rw [dif_pos (writtenBody codec record.event).distinct, if_pos ⟨position, rfl⟩]
  rfl

/-- The digest of a record holds for its line where no number of its event was left out. -/
theorem verifyEnvelopeHash_lineJson (sound : codec.Sound) (seq : Nat) (prevHash : String)
    (event : EventBody F) :
    verifyEnvelopeHash codec key
        (lineJson codec (makeRecord codec.hashing key seq prevHash event)) =
      some (allFloats codec.finite (.dict event.entries)) := by
  have envelope : isEnvelope
      (lineJson codec (makeRecord codec.hashing key seq prevHash event)) = true := rfl
  rw [verifyEnvelopeHash, if_pos envelope, validateRecord_lineJson sound]
  refine congrArg some ?_
  rw [Bool.eq_iff_iff, hashMatches_iff sound.hashing]
  constructor
  · intro same
    obtain ⟨_, _, bodies⟩ := eq_of_computeRecordHash_eq sound.hashing same
    exact allFloats_of_sortKeys_eq bodies.symm
  · intro finite
    have whole : writtenBody codec event = event := by
      obtain ⟨entries, distinct⟩ := event
      unfold writtenBody
      congr 1
      exact nullFloatsEntries_of_allFloats entries finite
    change computeRecordHash codec.hashing key seq prevHash event =
      computeRecordHash codec.hashing key seq prevHash (writtenBody codec event)
    rw [whole]

theorem chainSeq_lineJson (record : LedgerRecord F) :
    chainSeq (lineJson codec record) = some (record.seq : Int) :=
  rfl

theorem acceptedEvent_lineJson (sound : codec.Sound) {record : LedgerRecord F} {event : E}
    (finite : allFloats codec.finite (.dict (codec.dump event).entries) = true)
    (body : record.event = codec.dump event) :
    acceptedEvent codec (lineJson codec record) =
      if screenedOut codec event then none else some event := by
  obtain ⟨_, _, entries, _⟩ := fields_lineJson codec record
  have whole : (writtenBody codec (codec.dump event)).entries = (codec.dump event).entries :=
    nullFloatsEntries_of_allFloats _ finite
  rw [acceptedEvent, unwrapEnvelope, entries, body, whole, Option.getD_some, sound.restores,
    Option.filter_some]
  cases screenedOut codec event with
  | true => rfl
  | false => rfl

/-- What the line of a record made of an event comes to. -/
theorem readLine_segmentLine (sound : codec.Sound) (before : Predecessor) (seq : Nat)
    (prevHash : String) (event : E) :
    readLine codec key before
        (segmentLine codec (makeRecord codec.hashing key seq prevHash (codec.dump event))) =
      if nesting (.dict (codec.dump event).entries) + 1 ≤ codec.recursionLimit then
        if allFloats codec.finite (.dict (codec.dump event).entries) = true then
          if follows before seq (some prevHash) then
            .linked (.record (some (makeRecord codec.hashing key seq prevHash
              (codec.dump event)).hash) seq)
              (if screenedOut codec event then none else some event)
          else .broken
        else .unverified
      else .malformed := by
  rw [readLine, if_neg (by rw [not_isBlankLine_segmentLine]; exact Bool.false_ne_true),
    loadsLine_segmentLine sound]
  by_cases shallow : nesting (.dict (codec.dump event).entries) + 1 ≤ codec.recursionLimit
  · rw [if_pos shallow]
    have reached : nesting (.dict (makeRecord codec.hashing key seq prevHash
      (codec.dump event)).event.entries) + 1 ≤ codec.recursionLimit := shallow
    rw [if_pos reached]
    dsimp only
    rw [verifyEnvelopeHash_lineJson sound]
    by_cases finite : allFloats codec.finite (.dict (codec.dump event).entries) = true
    · rw [finite, if_pos rfl]
      dsimp only
      rw [readLink, chainSeq_lineJson, acceptedEvent_lineJson sound finite rfl]
      obtain ⟨_, link, _, hash⟩ := fields_lineJson codec
        (makeRecord codec.hashing key seq prevHash (codec.dump event))
      rw [link, hash]
      rfl
    · rw [if_neg finite, Bool.eq_false_iff.mpr finite]
  · rw [if_neg shallow]
    have tooDeep : ¬ nesting (.dict (makeRecord codec.hashing key seq prevHash
      (codec.dump event)).event.entries) + 1 ≤ codec.recursionLimit := shallow
    rw [if_neg tooDeep]

/-! ## Counting the lines -/

/-- The lines that came to something. -/
def SegmentScan.handled (scan : SegmentScan E) : Nat :=
  scan.events.length + scan.malformed + scan.unverified

/-- Counts only grow. -/
structure SegmentScan.Grows (scan next : SegmentScan E) : Prop where
  malformed : scan.malformed ≤ next.malformed
  unverified : scan.unverified ≤ next.unverified
  chainBreaks : scan.chainBreaks ≤ next.chainBreaks

theorem SegmentScan.Grows.trans {first second third : SegmentScan E} (one : first.Grows second)
    (two : second.Grows third) : first.Grows third :=
  ⟨one.malformed.trans two.malformed, one.unverified.trans two.unverified,
    one.chainBreaks.trans two.chainBreaks⟩

theorem grows_add (scan : SegmentScan E) (outcome : LineOutcome E) :
    scan.Grows (scan.add outcome) := by
  cases outcome with
  | blank => exact ⟨le_rfl, le_rfl, le_rfl⟩
  | malformed => exact ⟨Nat.le_succ _, le_rfl, le_rfl⟩
  | unverified => exact ⟨le_rfl, Nat.le_succ _, le_rfl⟩
  | broken => exact ⟨le_rfl, Nat.le_succ _, Nat.le_succ _⟩
  | linked next event =>
      cases event with
      | none => exact ⟨Nat.le_succ _, le_rfl, le_rfl⟩
      | some event => exact ⟨le_rfl, le_rfl, le_rfl⟩

variable (codec key) in
theorem grows_step (scan : SegmentScan E) (raw : List Char) :
    scan.Grows (scan.step codec key raw) := by
  rw [SegmentScan.step]
  by_cases broke : scan.brokeChain = true
  · rw [if_pos broke]
    exact ⟨le_rfl, le_rfl, le_rfl⟩
  · rw [if_neg broke]
    exact grows_add scan _

variable (codec key) in
theorem grows_foldl (lines : List (List Char)) (scan : SegmentScan E) :
    scan.Grows (lines.foldl (SegmentScan.step codec key) scan) := by
  induction lines generalizing scan with
  | nil => exact ⟨le_rfl, le_rfl, le_rfl⟩
  | cons raw rest ih => exact (grows_step codec key scan raw).trans (ih _)

theorem readLine_eq_blank_iff {before : Predecessor} {raw : List Char} :
    readLine codec key before raw = .blank ↔ isBlankLine raw = true := by
  constructor
  · intro blank
    by_contra solid
    rw [readLine, if_neg solid] at blank
    cases loaded : loadsLine codec raw with
    | none =>
        rw [loaded] at blank
        cases blank
    | some parsed =>
        rw [loaded] at blank
        dsimp only at blank
        split at blank
        · cases blank
        · cases blank
        · unfold readLink at blank
          split at blank
          · cases blank
          · split at blank
            all_goals cases blank
  · exact fun blank => if_pos blank

/-- A line that is not blank comes to one thing, unless the chain breaks. -/
theorem handled_step {scan : SegmentScan E} {raw : List Char} (unbroken : scan.brokeChain = false)
    (intact : (scan.step codec key raw).chainBreaks = scan.chainBreaks) :
    (scan.step codec key raw).brokeChain = false ∧
      (scan.step codec key raw).handled = scan.handled + if isBlankLine raw then 0 else 1 := by
  have going : ¬ scan.brokeChain = true := by
    rw [unbroken]
    exact Bool.false_ne_true
  rw [SegmentScan.step, if_neg going] at intact ⊢
  have blankness := @readLine_eq_blank_iff _ _ codec key scan.before raw
  generalize readLine codec key scan.before raw = outcome at intact blankness ⊢
  cases outcome with
  | blank =>
      rw [if_pos (blankness.mp rfl)]
      exact ⟨unbroken, rfl⟩
  | malformed =>
      rw [if_neg (mt blankness.mpr nofun)]
      refine ⟨unbroken, ?_⟩
      simp only [SegmentScan.add, SegmentScan.handled]
      omega
  | unverified =>
      rw [if_neg (mt blankness.mpr nofun)]
      exact ⟨unbroken, rfl⟩
  | broken => exact absurd intact (Nat.succ_ne_self _)
  | linked next event =>
      rw [if_neg (mt blankness.mpr nofun)]
      cases event with
      | none =>
          refine ⟨unbroken, ?_⟩
          simp only [SegmentScan.add, SegmentScan.handled]
          omega
      | some event =>
          refine ⟨unbroken, ?_⟩
          simp only [SegmentScan.add, SegmentScan.handled, List.length_append,
            List.length_singleton]
          omega

/-- Without a break, as many lines come to something as hold something. -/
theorem handled_foldl {lines : List (List Char)} {scan : SegmentScan E}
    (unbroken : scan.brokeChain = false)
    (intact : (lines.foldl (SegmentScan.step codec key) scan).chainBreaks = scan.chainBreaks) :
    (lines.foldl (SegmentScan.step codec key) scan).handled =
      scan.handled + lines.countP fun line => !isBlankLine line := by
  induction lines generalizing scan with
  | nil => rfl
  | cons raw rest ih =>
      rw [List.foldl_cons] at intact ⊢
      have first := (grows_step codec key scan raw).chainBreaks
      have later := (grows_foldl codec key rest
        (scan.step codec key raw)).chainBreaks
      have same : (scan.step codec key raw).chainBreaks = scan.chainBreaks := by omega
      obtain ⟨going, counted⟩ := handled_step unbroken same
      rw [ih going (intact.trans same.symm), counted, List.countP_cons]
      cases isBlankLine raw with
      | true => rfl
      | false =>
          simp only [Bool.false_eq_true, ↓reduceIte, Bool.not_false]
          omega

/-! ## The lines of a body -/

/-- Lines, each with its newline. -/
def terminated (lines : List (List Char)) : List Char :=
  lines.flatMap fun line => line ++ ['\n']

theorem joinLines_eq_terminated {line : List Char} {rest : List (List Char)} :
    joinLines (line :: rest) = terminated (line :: rest) := by
  induction rest generalizing line with
  | nil => simp only [joinLines, terminated, List.intercalate_singleton, List.flatMap_cons,
      List.flatMap_nil, List.append_nil]
  | cons next more ih =>
      have behind :
          joinLines (line :: next :: more) = line ++ '\n' :: joinLines (next :: more) := by
        simp only [joinLines, List.intercalate_cons_cons, List.append_assoc, List.cons_append,
          List.nil_append]
      rw [behind, ih]
      simp only [terminated, List.flatMap_cons, List.append_assoc, List.cons_append,
        List.nil_append]

theorem splitLines_terminated {lines : List (List Char)}
    (unbroken : ∀ line ∈ lines, line.any isLineBreak = false) :
    splitLines (terminated lines) = lines := by
  induction lines with
  | nil => rfl
  | cons line rest ih =>
      obtain ⟨first, later⟩ := List.forall_mem_cons.mp unbroken
      rw [terminated, List.flatMap_cons, List.append_assoc]
      exact (splitLines_line first _).trans (congrArg (line :: ·) (ih later))

/-- A line in braces without a return, as the line of a record is. -/
structure Braced (line : List Char) : Prop where
  braced : ∃ middle, line = '\x7b' :: (middle ++ ['\x7d'])
  plain : '\r' ∉ line

theorem solidLines_braced {line : List Char} (braced : Braced line) :
    1 ≤ solidLines (line ++ ['\n']) ∧
      (line.any isLineBreak = true → 2 ≤ solidLines (line ++ ['\n'])) := by
  obtain ⟨⟨middle, rfl⟩, plain⟩ := braced
  refine ⟨@one_le_solidLines '\x7b' _ rfl rfl (List.mem_cons_self ..), fun broken => ?_⟩
  obtain ⟨letter, member, breaks⟩ := List.any_eq_true.mp broken
  have inside : letter ∈ middle := by
    rcases List.mem_cons.mp member with rfl | member
    · cases breaks
    rcases List.mem_append.mp member with member | member
    · exact member
    · cases List.mem_singleton.mp member
      cases breaks
  obtain ⟨before, after, rfl⟩ := List.append_of_mem inside
  have split : '\x7b' :: (before ++ letter :: after ++ ['\x7d']) ++ ['\n'] =
      ('\x7b' :: before) ++ letter :: (after ++ ['\x7d', '\n']) := by
    simp only [List.append_assoc, List.cons_append, List.nil_append]
  have single : letter ≠ '\r' := by
    rintro rfl
    exact plain member
  rw [split]
  apply @two_le_solidLines _ _ '\x7b' '\x7d' _ ?_ breaks single rfl rfl
    (List.mem_cons_self ..) rfl rfl
    (List.mem_append_right _ (List.mem_cons_self ..))
  intro held
  apply plain
  rcases List.mem_cons.mp held with same | held
  · cases same
  · exact List.mem_cons_of_mem _
      (List.mem_append_left _ (List.mem_append_left _ held))

/-- As many solid lines as records leave no record with a break in it. -/
theorem unbroken_of_solidLines {lines : List (List Char)} (braced : ∀ line ∈ lines, Braced line) :
    lines.length ≤ solidLines (terminated lines) ∧
      (solidLines (terminated lines) ≤ lines.length →
        ∀ line ∈ lines, line.any isLineBreak = false) := by
  induction lines with
  | nil => exact ⟨le_rfl, fun _ => nofun⟩
  | cons line rest ih =>
      obtain ⟨first, later⟩ := List.forall_mem_cons.mp braced
      obtain ⟨enough, tight⟩ := ih later
      obtain ⟨one, two⟩ := solidLines_braced first
      have sum : solidLines (terminated (line :: rest)) =
          solidLines (line ++ ['\n']) + solidLines (terminated rest) := by
        rw [terminated, List.flatMap_cons, List.append_assoc]
        exact solidLines_append_break first.plain rfl (by decide) _
      rw [sum, List.length_cons]
      refine ⟨by omega, fun few => List.forall_mem_cons.mpr ⟨?_, tight (by omega)⟩⟩
      rw [← Bool.not_eq_true]
      intro broken
      have := two broken
      omega

/-! ## What comes back -/

/-- What an event has to be like for its own line to be read. -/
structure Legible (codec : ArchiveCodec F E) (event : E) : Prop where
  finite : allFloats codec.finite (.dict (codec.dump event).entries) = true
  shallow : nesting (.dict (codec.dump event).entries) + 1 ≤ codec.recursionLimit
  unscreened : screenedOut codec event = false

/-- Two scans have found the same faults. -/
structure SegmentScan.SameFaults (scan next : SegmentScan E) : Prop where
  malformed : next.malformed = scan.malformed
  unverified : next.unverified = scan.unverified
  chainBreaks : next.chainBreaks = scan.chainBreaks

/-- A legible event is taken from the line of its record. -/
theorem step_of_legible (sound : codec.Sound) {scan : SegmentScan E} {event : E} {seq : Nat}
    {prevHash : String} (legible : Legible codec event) (unbroken : scan.brokeChain = false)
    (linked : follows scan.before seq (some prevHash) = true) :
    scan.step codec key
        (segmentLine codec (makeRecord codec.hashing key seq prevHash (codec.dump event))) =
      { scan with
        before := .record
          (some (makeRecord codec.hashing key seq prevHash (codec.dump event)).hash) seq
        eventsScanned := scan.eventsScanned + 1
        events := scan.events ++ [event] } := by
  have going : ¬ scan.brokeChain = true := by
    rw [unbroken]
    exact Bool.false_ne_true
  have unscreened : ¬ screenedOut codec event = true := by
    rw [legible.unscreened]
    exact Bool.false_ne_true
  rw [SegmentScan.step, if_neg going, readLine_segmentLine sound, if_pos legible.shallow,
    if_pos legible.finite, if_pos linked, if_neg unscreened]
  rfl

/-- The line of a record that follows is a fault where its event is not legible. -/
theorem legible_of_sameFaults (sound : codec.Sound) {scan : SegmentScan E} {event : E} {seq : Nat}
    {prevHash : String} {rest : List (List Char)} (unbroken : scan.brokeChain = false)
    (linked : follows scan.before seq (some prevHash) = true)
    (same : scan.SameFaults (rest.foldl (SegmentScan.step codec key) (scan.step codec key
      (segmentLine codec (makeRecord codec.hashing key seq prevHash (codec.dump event)))))) :
    Legible codec event := by
  have going : ¬ scan.brokeChain = true := by
    rw [unbroken]
    exact Bool.false_ne_true
  have grown := grows_foldl codec key rest (scan.step codec key
    (segmentLine codec (makeRecord codec.hashing key seq prevHash (codec.dump event))))
  have malformed := same.malformed ▸ grown.malformed
  have unverified := same.unverified ▸ grown.unverified
  rw [SegmentScan.step, if_neg going, readLine_segmentLine sound] at malformed unverified
  by_cases shallow : nesting (.dict (codec.dump event).entries) + 1 ≤ codec.recursionLimit
  · rw [if_pos shallow] at malformed unverified
    by_cases finite : allFloats codec.finite (.dict (codec.dump event).entries) = true
    · rw [if_pos finite, if_pos linked] at malformed
      refine ⟨finite, shallow, ?_⟩
      rw [← Bool.not_eq_true]
      intro screened
      rw [if_pos screened] at malformed
      exact absurd malformed (Nat.not_succ_le_self _)
    · rw [if_neg finite] at unverified
      exact absurd unverified (Nat.not_succ_le_self _)
  · rw [if_neg shallow] at malformed
    exact absurd malformed (Nat.not_succ_le_self _)

/-- The lines of a chain of records give its events and no fault, where all are legible. -/
theorem scanRecords_iff (sound : codec.Sound) {events : List E} {head : Nat × String}
    {scan : SegmentScan E} (unbroken : scan.brokeChain = false)
    (linked : follows scan.before head.1 (some head.2) = true) :
    (((makeRecords codec.hashing key head (events.map codec.dump)).map
        (segmentLine codec)).foldl (SegmentScan.step codec key) scan).events =
          scan.events ++ events ∧
      scan.SameFaults (((makeRecords codec.hashing key head (events.map codec.dump)).map
        (segmentLine codec)).foldl (SegmentScan.step codec key) scan) ↔
      ∀ event ∈ events, Legible codec event := by
  induction events generalizing head scan with
  | nil => exact iff_of_true ⟨(List.append_nil _).symm, rfl, rfl, rfl⟩ nofun
  | cons event rest ih =>
      obtain ⟨seq, prevHash⟩ := head
      rw [List.map_cons, makeRecords, List.map_cons, List.foldl_cons, List.forall_mem_cons]
      have next : ∀ hash : String,
          follows (.record (some hash) seq) ((seq + 1 : Nat) : Int) (some hash) = true := by
        intro hash
        rw [follows, Bool.and_eq_true, beq_iff_eq, beq_iff_eq]
        exact ⟨Nat.cast_succ seq, rfl⟩
      constructor
      · rintro ⟨found, same⟩
        have legible := legible_of_sameFaults sound unbroken linked same
        rw [step_of_legible sound legible unbroken linked] at found same
        refine ⟨legible, (ih ?_ (next _)).mp ⟨?_, ⟨same.malformed, same.unverified,
          same.chainBreaks⟩⟩⟩
        · exact unbroken
        · rw [List.append_assoc]
          exact found
      · rintro ⟨legible, later⟩
        rw [step_of_legible sound legible unbroken linked]
        have others := @ih (seq + 1, (makeRecord codec.hashing key seq prevHash
          (codec.dump event)).hash) { scan with
            before := .record
              (some (makeRecord codec.hashing key seq prevHash (codec.dump event)).hash) seq
            eventsScanned := scan.eventsScanned + 1
            events := scan.events ++ [event] } unbroken (next _)
        obtain ⟨found, same⟩ := others.mpr later
        refine ⟨found.trans ?_, ⟨same.malformed, same.unverified, same.chainBreaks⟩⟩
        rw [List.append_assoc]
        rfl

/-! ## The whole body -/

theorem getObjectText_buildSegmentBody (events : List E) :
    getObjectText codec (buildSegmentBody codec key events) =
      joinLines ((segmentRecords codec key events).map (segmentLine codec)) := by
  rw [getObjectText, buildSegmentBody, decodeUtf8_encodeUtf8, Option.getD_some]

theorem isAscii_of_mem_makeRecords (sound : codec.hashing.Sound) {head : Nat × String}
    {events : List (EventBody F)} {record : LedgerRecord F} (ascii : isAscii head.2 = true)
    (member : record ∈ makeRecords codec.hashing key head events) :
    isAscii record.prevHash = true ∧ isAscii record.hash = true := by
  induction events generalizing head with
  | nil => cases member
  | cons event rest ih =>
      have hashed : isAscii (makeRecord codec.hashing key head.1 head.2 event).hash = true :=
        isAscii_computeRecordHash sound ..
      rcases List.mem_cons.mp member with rfl | later
      · exact ⟨ascii, hashed⟩
      · exact ih hashed later

variable (codec key) in
theorem events_of_makeRecords (head : Nat × String) (events : List (EventBody F)) :
    (makeRecords codec.hashing key head events).map LedgerRecord.event = events := by
  induction events generalizing head with
  | nil => rfl
  | cons event rest ih => exact congrArg (event :: ·) (ih _)

variable (key) in
/-- The lines of a segment are without breaks where its events are. -/
theorem unbroken_segment_iff (sound : codec.Sound) (events : List E) :
    (∀ line ∈ (segmentRecords codec key events).map (segmentLine codec),
      line.any isLineBreak = false) ↔
      ∀ event ∈ events, someLetter isBareBreak (.dict (codec.dump event).entries) = false := by
  have broken : ∀ record ∈ segmentRecords codec key events,
      (segmentLine codec record).any isLineBreak =
        someLetter isBareBreak (.dict record.event.entries) := by
    intro record member
    obtain ⟨linked, hashed⟩ := isAscii_of_mem_makeRecords sound.hashing
      isAscii_genesisPrevHash member
    exact any_segmentLine sound linked hashed
  have bodies := events_of_makeRecords codec key (0, genesisPrevHash)
    (events.map codec.dump)
  rw [List.forall_mem_map]
  calc (∀ record ∈ segmentRecords codec key events,
        (segmentLine codec record).any isLineBreak = false)
      ↔ ∀ record ∈ segmentRecords codec key events,
          someLetter isBareBreak (.dict record.event.entries) = false := by
        constructor
        · exact fun quiet record member => (broken record member).symm.trans (quiet record member)
        · exact fun quiet record member => (broken record member).trans (quiet record member)
    _ ↔ ∀ body ∈ events.map codec.dump, someLetter isBareBreak (.dict body.entries) = false := by
        rw [← bodies, List.forall_mem_map]
        rfl
    _ ↔ _ := List.forall_mem_map

theorem braced_segmentLine (sound : codec.Sound) (record : LedgerRecord F) :
    Braced (segmentLine codec record) :=
  ⟨segmentLine_braced record, return_not_mem_segmentLine sound record⟩

/-- Without breaks, the reader's lines are the writer's. -/
theorem readSegment_eq_foldl (sound : codec.Sound) {first : E} {rest : List E}
    (unbroken : ∀ event ∈ first :: rest,
      someLetter isBareBreak (.dict (codec.dump event).entries) = false) :
    readSegment codec key (buildSegmentBody codec key (first :: rest)) =
      ((segmentRecords codec key (first :: rest)).map (segmentLine codec)).foldl
        (SegmentScan.step codec key) {} := by
  have lines := (unbroken_segment_iff key sound (first :: rest)).mpr unbroken
  rw [readSegment, getObjectText_buildSegmentBody]
  refine congrArg (List.foldl _ _) ?_
  exact (congrArg splitLines joinLines_eq_terminated).trans (splitLines_terminated lines)

/-- A body that comes back has no more solid lines than records. -/
theorem unbroken_of_returnsArchived (sound : codec.Sound) {first : E} {rest : List E}
    (returned : ReturnsArchived codec key (first :: rest)) :
    ∀ event ∈ first :: rest,
      someLetter isBareBreak (.dict (codec.dump event).entries) = false := by
  obtain ⟨found, malformed, unverified, intact⟩ := returned
  have counted := @handled_foldl _ _ codec key
    (splitLines (getObjectText codec (buildSegmentBody codec key (first :: rest)))) {} rfl intact
  change (readSegment codec key (buildSegmentBody codec key (first :: rest))).handled = _ at counted
  rw [SegmentScan.handled, found, malformed, unverified, getObjectText_buildSegmentBody,
    segmentRecords, List.map_cons, makeRecords, List.map_cons, joinLines_eq_terminated] at counted
  apply (unbroken_segment_iff key sound (first :: rest)).mp
  apply (unbroken_of_solidLines ?_).2
  · have records : (segmentRecords codec key (first :: rest)).length = (first :: rest).length := by
      rw [← List.length_map LedgerRecord.event, segmentRecords, events_of_makeRecords,
        List.length_map]
    rw [List.length_map, records]
    apply le_of_eq
    exact (counted.trans (Nat.zero_add _)).symm
  · intro line member
    obtain ⟨record, _, rfl⟩ := List.mem_map.mp member
    exact braced_segmentLine sound record

/-- A body of unbroken events comes back where they are legible. -/
theorem returnsArchived_iff_legible (sound : codec.Sound) {first : E} {rest : List E}
    (unbroken : ∀ event ∈ first :: rest,
      someLetter isBareBreak (.dict (codec.dump event).entries) = false) :
    ReturnsArchived codec key (first :: rest) ↔ ∀ event ∈ first :: rest, Legible codec event := by
  rw [ReturnsArchived, readSegment_eq_foldl sound unbroken]
  have genesis : follows .genesis (0 : Nat) (some genesisPrevHash) = true := by decide
  refine Iff.trans ?_ (@scanRecords_iff _ _ codec key sound (first :: rest) (0, genesisPrevHash) {}
    rfl genesis)
  constructor
  · exact fun ⟨found, malformed, unverified, intact⟩ => ⟨found, malformed, unverified, intact⟩
  · exact fun ⟨found, same⟩ => ⟨found, same.malformed, same.unverified, same.chainBreaks⟩

theorem survives_of_returnsArchived (sound : codec.Sound) {events : List E}
    (returned : ReturnsArchived codec key events) : ∀ event ∈ events, Survives codec event := by
  cases events with
  | nil => exact nofun
  | cons first rest =>
      have unbroken := unbroken_of_returnsArchived sound returned
      have legible := (returnsArchived_iff_legible sound unbroken).mp returned
      intro event member
      have read := legible event member
      exact ⟨unbroken event member, read.finite, read.shallow, read.unscreened⟩

theorem returnsArchived_of_survives (sound : codec.Sound) {events : List E}
    (survive : ∀ event ∈ events, Survives codec event) : ReturnsArchived codec key events := by
  cases events with
  | nil =>
      have empty : getObjectText codec (buildSegmentBody codec key []) = ['\n'] :=
        getObjectText_buildSegmentBody []
      rw [ReturnsArchived, readSegment, empty]
      exact ⟨rfl, rfl, rfl, rfl⟩
  | cons first rest =>
      apply (returnsArchived_iff_legible sound fun event member =>
        (survive event member).unbroken).mpr
      intro event member
      have survives := survive event member
      exact ⟨survives.finite, survives.shallow, survives.unscreened⟩

/-- **What is archived comes back** exactly where every event survives its segment. -/
theorem returnsArchived_iff (sound : codec.Sound) (key : Option String) (events : List E) :
    ReturnsArchived codec key events ↔ ∀ event ∈ events, Survives codec event :=
  ⟨survives_of_returnsArchived sound, returnsArchived_of_survives sound⟩

end Records

/-! ## Configuration changes in the archive -/

/-- The body of a staged configuration change with a description. -/
def configChangeBody (description : String) : EventBody Empty where
  entries := [("event_type", .str "config.governance"), ("action", .str "stage"),
    ("description", .str description), ("outcome", .str "success")]
  distinct := by
    have names : ["event_type", "action", "description", "outcome"].Nodup := by decide
    exact ⟨names, trivial, trivial, trivial, trivial, trivial⟩

/-- Staged configuration changes by their description, in an archive without fractions. -/
def configChangeCodec : ArchiveCodec Empty String where
  hashing := numberedHashing
  finite := Empty.elim
  lineText := Empty.elim
  laxInt
    | .int value => some value
    | _ => none
  dump := configChangeBody
  validate entries :=
    match dictGet entries "description" with
    | some (.str description) => some description
    | _ => none
  queryShape _ := none
  replaced bytes := bytes.map fun _ => Char.ofNat 0xfffd
  recursionLimit := 900
  maxQueryShapeDepth := 64

theorem configChangeCodec_sound : configChangeCodec.Sound where
  hashing := numberedHashing_sound
  reads := fun value => value.elim
  wholeNumbers := fun _ => rfl
  restores := fun _ => rfl

/-- Two changes described on one line each come back, under a key. -/
theorem returnsArchived_configChanges :
    ReturnsArchived configChangeCodec (some "audit key") ["Limit für EU", "tab\tand\nnewline"] :=
  (returnsArchived_iff configChangeCodec_sound _ _).mpr (by
    intro event member
    rcases List.mem_cons.mp member with rfl | member
    · exact ⟨by decide, rfl, by decide, rfl⟩
    · cases List.mem_singleton.mp member
      exact ⟨by decide, rfl, by decide, rfl⟩)

/-- A description with a line separator in it does not come back. -/
theorem not_returnsArchived_lineSeparator :
    ¬ ReturnsArchived configChangeCodec (some "audit key")
      [String.ofList ['E', 'U', Char.ofNat 0x2028, 'U', 'S']] := by
  intro returned
  have survives := survives_of_returnsArchived configChangeCodec_sound returned _
    (List.mem_singleton_self _)
  exact absurd survives.unbroken (by decide)

end QueryGate
