import QueryGate.Audit.JsonText
import QueryGate.Foundation.Checks
import QueryGate.Foundation.HashChain
import QueryGate.Foundation.Text

/-! # The hash-chained ledger

`make_record`, `verify_chain` and the receipts of `audit/ledger.py`. The two digests are
parameters, and so is parsing a line, which is the data-model library's. A chain that
verifies up to a known head, from a known position on, holds the very records that were
written (`ledgerTamperEvident_of_sound`).
-/

namespace QueryGate

open Foundation

/-- The body of an event: an object without repeated keys. -/
structure EventBody (F : Type) where
  entries : List (String × Json F)
  distinct : DistinctKeys (.dict entries)

/-- The body up to the order of its keys, which is all that is hashed of it. -/
def EventBody.sorted {F : Type} (event : EventBody F) : Json F :=
  sortKeys (.dict event.entries)

/-- `LedgerRecord`. -/
structure LedgerRecord (F : Type) where
  seq : Nat
  prevHash : String
  event : EventBody F
  hash : String

/-- What is hashed with and how numbers are spelled: SHA-256 and HMAC-SHA256, of the UTF-8
encoding of a text, as hexadecimal digests. -/
structure Hashing (F : Type) where
  format : FloatFormat F
  sha256 : List Char → String
  hmacSha256 : String → List Char → String

/-- The digests tell texts apart and are ASCII, and every number is read back from its
spelling. -/
structure Hashing.Sound {F : Type} (hashing : Hashing F) : Prop where
  floats : ∀ value, FloatReads hashing.format value
  shaInjective : Function.Injective hashing.sha256
  hmacInjective : ∀ secret, Function.Injective (hashing.hmacSha256 secret)
  shaAscii : ∀ text, isAscii (hashing.sha256 text) = true
  hmacAscii : ∀ secret text, isAscii (hashing.hmacSha256 secret text) = true

/-- `GENESIS_PREV_HASH`. -/
def genesisPrevHash : String :=
  String.ofList (List.replicate 64 '0')

section Ledger

variable {F : Type} (hashing : Hashing F) (parse : String → Option (LedgerRecord F))
  (key : Option String)

/-- `_canonical_bytes`, before the encoding. -/
def canonicalChars (format : FloatFormat F) (value : Json F) : List Char :=
  dumps format plainChar (sortKeys value)

/-- What the hash of a record is taken of. -/
def hashedPayload (seq : Nat) (prevHash : String) (event : EventBody F) : Json F :=
  .dict [("seq", .int seq), ("prev_hash", .str prevHash), ("event", .dict event.entries)]

/-- `compute_record_hash`. -/
def computeRecordHash (seq : Nat) (prevHash : String) (event : EventBody F) : String :=
  let payload := canonicalChars hashing.format (hashedPayload seq prevHash event)
  match key with
  | some secret => if secret = "" then hashing.sha256 payload else hashing.hmacSha256 secret payload
  | none => hashing.sha256 payload

/-- `make_record`. -/
def makeRecord (seq : Nat) (prevHash : String) (event : EventBody F) : LedgerRecord F where
  seq := seq
  prevHash := prevHash
  event := event
  hash := computeRecordHash hashing key seq prevHash event

/-- The records of a sequence of events, each made at the head the one before left. -/
def makeRecords : Nat × String → List (EventBody F) → List (LedgerRecord F)
  | _, [] => []
  | (seq, prevHash), event :: rest =>
      let record := makeRecord hashing key seq prevHash event
      record :: makeRecords (record.seq + 1, record.hash) rest

/-- The head that the records of a ledger leave, as `_recover_head` finds it. -/
def headOf (records : List (LedgerRecord F)) : Nat × String :=
  match records.getLast? with
  | some record => (record.seq + 1, record.hash)
  | none => (0, genesisPrevHash)

/-- `digests_equal`. -/
def digestsEqual (expected actual : String) : Bool :=
  isAscii expected && isAscii actual && expected == actual

/-- `ChainVerificationResult`. -/
structure ChainVerificationResult where
  ok : Bool
  recordsChecked : Nat
  headHash : Option String
  brokenAtSeq : Option Nat := none
  brokenAtLine : Option Nat := none
  reason : Option String := none
  deriving DecidableEq, Repr

/-- The variables of the loop in `verify_chain`. -/
structure ChainState (F : Type) where
  prev : Option (LedgerRecord F) := none
  checked : Nat := 0
  headHash : Option String := none
  lineNo : Nat := 0

/-- `_fail`. -/
def ChainState.fail (state : ChainState F) (seq : Option Nat) (reason : String) :
    ChainVerificationResult where
  ok := false
  recordsChecked := state.checked
  headHash := state.headHash
  brokenAtSeq := seq
  brokenAtLine := some state.lineNo
  reason := some reason

/-- Why a record may not follow, if so. -/
def linkFault (prev : Option (LedgerRecord F)) (record : LedgerRecord F) : Option String :=
  match prev with
  | none =>
      if record.seq = 0 ∧ record.prevHash ≠ genesisPrevHash then
        some "genesis record does not link to the genesis hash"
      else none
  | some before =>
      if record.seq ≠ before.seq + 1 then
        some s!"sequence gap: expected {before.seq + 1}, found {record.seq}"
      else if !digestsEqual record.prevHash before.hash then
        some "prev_hash does not match the previous record's hash (record inserted, removed, or reordered)"
      else none

/-- The hash of a record is the one of its contents. -/
def hashMatches (record : LedgerRecord F) : Bool :=
  digestsEqual (computeRecordHash hashing key record.seq record.prevHash record.event) record.hash

/-- The checks of `verify_chain` on one record. -/
def verifyRecord (state : ChainState F) (record : LedgerRecord F) :
    Except ChainVerificationResult (ChainState F) :=
  if !hashMatches hashing key record then
    .error (state.fail (some record.seq)
      "record hash does not match its contents (event or metadata altered)")
  else
    match linkFault state.prev record with
    | some reason => .error (state.fail (some record.seq) reason)
    | none => .ok { state with
        prev := some record, checked := state.checked + 1, headHash := some record.hash }

/-- The body of the loop in `verify_chain`. -/
def verifyLine (state : ChainState F) (raw : String) :
    Except ChainVerificationResult (ChainState F) :=
  let state := { state with lineNo := state.lineNo + 1 }
  if strip raw = "" then .ok state
  else
    match parse (strip raw) with
    | none => .error (state.fail none "record does not parse as a ledger record")
    | some record => verifyRecord hashing key state record

/-- The end of `verify_chain`. -/
def verifyHead (expectedHead : Option String) (state : ChainState F) : ChainVerificationResult :=
  match expectedHead with
  | some expected =>
      if state.headHash.any fun head => digestsEqual head expected then
        { ok := true, recordsChecked := state.checked, headHash := state.headHash }
      else state.fail (state.prev.map LedgerRecord.seq)
        "head hash does not match the expected head (records dropped from the end)"
  | none => { ok := true, recordsChecked := state.checked, headHash := state.headHash }

/-- `verify_chain`. -/
def verifyChain (lines : List String) (expectedHead : Option String) : ChainVerificationResult :=
  match lines.foldlM (verifyLine hashing parse key) {} with
  | .error broken => broken
  | .ok state => verifyHead expectedHead state

/-- `load_records`. -/
def loadRecords (lines : List String) : Option (List (LedgerRecord F)) :=
  ((lines.map strip).filter fun line => line ≠ "").mapM parse

/-! ## Receipts -/

/-- `Receipt`, without its two constant fields. -/
structure Receipt (F : Type) where
  algorithm : String
  seq : Nat
  prevHash : String
  hash : String
  event : EventBody F

/-- `build_receipt`. -/
def buildReceipt (record : LedgerRecord F) (keyed : Bool) : Receipt F where
  algorithm := if keyed then "hmac-sha256" else "sha256"
  seq := record.seq
  prevHash := record.prevHash
  hash := record.hash
  event := record.event

/-- `verify_receipt`. -/
def verifyReceipt (receipt : Receipt F) : Bool :=
  if receipt.algorithm = "hmac-sha256" then
    key.isSome && digestsEqual
      (computeRecordHash hashing key receipt.seq receipt.prevHash receipt.event) receipt.hash
  else if receipt.algorithm = "sha256" then
    key.isNone && digestsEqual
      (computeRecordHash hashing none receipt.seq receipt.prevHash receipt.event) receipt.hash
  else false

/-- The receipt of a line's record, where it is the one of an event. -/
def receiptOfLine (eventId : String) (keyed : Bool) (raw : String) : Option (Receipt F) :=
  if strip raw = "" then none
  else
    match parse (strip raw) with
    | none => none
    | some record =>
        match dictGet record.event.entries "event_id" with
        | some (.str found) => if found = eventId then some (buildReceipt record keyed) else none
        | _ => none

/-- `extract_receipt_for_event_id`. -/
def extractReceipt (lines : List String) (eventId : String) (keyed : Bool) : Option (Receipt F) :=
  lines.findSome? (receiptOfLine parse eventId keyed)

/-! ## What verifies -/

variable {hashing parse key}

/-- Each record hashes to its own digest and may follow the one before. -/
def ChainFrom (hashing : Hashing F) (key : Option String) :
    Option (LedgerRecord F) → List (LedgerRecord F) → Prop
  | _, [] => True
  | prev, record :: rest =>
      hashMatches hashing key record = true ∧ linkFault prev record = none ∧
        ChainFrom hashing key (some record) rest

theorem loadRecords_cons (raw : String) (rest : List String) :
    loadRecords parse (raw :: rest) =
      if strip raw = "" then loadRecords parse rest
      else (parse (strip raw)).bind fun record =>
        (loadRecords parse rest).map (record :: ·) := by
  unfold loadRecords
  by_cases blank : strip raw = ""
  · simp [blank]
  · rw [List.map_cons, List.filter_cons_of_pos (by simpa using blank), List.mapM_cons, if_neg blank]
    cases parse (strip raw) with
    | none => rfl
    | some record =>
        simp only [Option.bind_eq_bind, Option.bind_some, Option.pure_def]
        cases ((rest.map strip).filter fun line => line ≠ "").mapM parse with
        | none => rfl
        | some records => rfl

theorem loadRecords_append (front back : List String) :
    loadRecords parse (front ++ back) =
      (loadRecords parse front).bind fun first =>
        (loadRecords parse back).map (first ++ ·) := by
  induction front with
  | nil =>
      change _ = (some []).bind _
      rw [Option.bind_some, List.nil_append]
      cases loadRecords parse back with
      | none => rfl
      | some records => rfl
  | cons raw rest ih =>
      rw [List.cons_append, loadRecords_cons, loadRecords_cons, ih]
      by_cases blank : strip raw = ""
      · rw [if_pos blank, if_pos blank]
      · rw [if_neg blank, if_neg blank]
        cases parse (strip raw) with
        | none => rfl
        | some record =>
            cases loadRecords parse rest with
            | none => rfl
            | some first =>
                cases loadRecords parse back with
                | none => rfl
                | some second => rfl

theorem chainFrom_append {prev : Option (LedgerRecord F)} {front back : List (LedgerRecord F)} :
    ChainFrom hashing key prev (front ++ back) ↔
      ChainFrom hashing key prev front ∧
        ChainFrom hashing key (front.getLast?.or prev) back := by
  induction front generalizing prev with
  | nil => exact ⟨fun chain => ⟨trivial, chain⟩, And.right⟩
  | cons record rest ih =>
      have last : (record :: rest).getLast?.or prev = rest.getLast?.or (some record) := by
        cases rest with
        | nil => rfl
        | cons next more =>
            rw [List.getLast?_cons_cons]
            cases ended : (next :: more).getLast? with
            | none => simp at ended
            | some found => rfl
      rw [List.cons_append, ChainFrom, ChainFrom, ih, last, and_assoc, and_assoc]

/-- A line is passed over, or its record is checked. -/
theorem verifyRecord_ok_iff {state final : ChainState F} {record : LedgerRecord F} :
    verifyRecord hashing key state record = .ok final ↔
      hashMatches hashing key record = true ∧ linkFault state.prev record = none ∧
        final = { state with
          prev := some record, checked := state.checked + 1, headHash := some record.hash } := by
  unfold verifyRecord
  cases hashMatches hashing key record with
  | false => simp
  | true =>
      simp only [Bool.not_true, Bool.false_eq_true, ↓reduceIte, true_and]
      cases linkFault state.prev record with
      | none => simp [eq_comm]
      | some reason => simp

theorem getLast?_cons_or (record : LedgerRecord F) (rest : List (LedgerRecord F))
    (prev : Option (LedgerRecord F)) :
    (record :: rest).getLast?.or prev = rest.getLast?.or (some record) := by
  rw [List.getLast?_cons]
  cases rest.getLast? with
  | none => rfl
  | some last => rfl

/-- A blank line is passed over, and the record of another is checked. -/
theorem verifyLine_ok_iff {state final : ChainState F} {raw : String} :
    verifyLine hashing parse key state raw = .ok final ↔
      (strip raw = "" ∧ final = { state with lineNo := state.lineNo + 1 }) ∨
        (strip raw ≠ "" ∧ ∃ record, parse (strip raw) = some record ∧
          verifyRecord hashing key { state with lineNo := state.lineNo + 1 } record = .ok final) := by
  unfold verifyLine
  dsimp only
  by_cases blank : strip raw = ""
  · simp [blank, eq_comm]
  · rw [if_neg blank]
    cases parse (strip raw) with
    | none => simp [blank]
    | some record => simp [blank]

/-- What the loop reports is never accepted. -/
theorem not_ok_of_foldlM {lines : List String} {state : ChainState F}
    {broken : ChainVerificationResult}
    (reported : lines.foldlM (verifyLine hashing parse key) state = .error broken) :
    broken.ok = false := by
  induction lines generalizing state with
  | nil => cases reported
  | cons raw rest ih =>
      rw [List.foldlM_cons] at reported
      cases stepped : verifyLine hashing parse key state raw with
      | ok after =>
          rw [stepped] at reported
          exact ih reported
      | error result =>
          rw [stepped] at reported
          cases reported
          unfold verifyLine verifyRecord at stepped
          dsimp only at stepped
          split at stepped
          · cases stepped
          split at stepped
          · cases stepped
            rfl
          split at stepped
          · cases stepped
            rfl
          split at stepped
          · cases stepped
            rfl
          · cases stepped

/-- Lines that the loop passes hold a chain, and it keeps the last record. -/
theorem chainFrom_of_foldlM {lines : List String} {state final : ChainState F}
    (known : state.headHash = state.prev.map LedgerRecord.hash)
    (passed : lines.foldlM (verifyLine hashing parse key) state = .ok final) :
    ∃ records, loadRecords parse lines = some records ∧
      ChainFrom hashing key state.prev records ∧ final.prev = records.getLast?.or state.prev ∧
      final.headHash = final.prev.map LedgerRecord.hash := by
  induction lines generalizing state with
  | nil =>
      cases passed
      exact ⟨[], rfl, trivial, rfl, known⟩
  | cons raw rest ih =>
      rw [List.foldlM_cons] at passed
      obtain ⟨after, stepped, passedRest⟩ := bind_eq_ok_iff.mp passed
      rw [loadRecords_cons]
      rcases verifyLine_ok_iff.mp stepped with ⟨blank, rfl⟩ | ⟨solid, record, parsed, checked⟩
      · rw [if_pos blank]
        exact @ih { state with lineNo := state.lineNo + 1 } known passedRest
      · obtain ⟨matches_, follows, rfl⟩ := verifyRecord_ok_iff.mp checked
        obtain ⟨records, loaded, chain, last, head⟩ := ih rfl passedRest
        refine ⟨record :: records, ?_, ⟨matches_, follows, chain⟩, ?_, head⟩
        · rw [if_neg solid, parsed, Option.bind_some, loaded, Option.map_some]
        · rw [getLast?_cons_or]
          exact last

/-- The loop passes over lines that hold a chain. -/
theorem foldlM_of_chainFrom {lines : List String} {state : ChainState F}
    {records : List (LedgerRecord F)} (loaded : loadRecords parse lines = some records)
    (chain : ChainFrom hashing key state.prev records) :
    ∃ final, lines.foldlM (verifyLine hashing parse key) state = .ok final := by
  induction lines generalizing state records with
  | nil => exact ⟨state, rfl⟩
  | cons raw rest ih =>
      rw [loadRecords_cons] at loaded
      rw [List.foldlM_cons]
      by_cases blank : strip raw = ""
      · rw [if_pos blank] at loaded
        rw [verifyLine_ok_iff.mpr (.inl ⟨blank, rfl⟩)]
        exact ih loaded chain
      · rw [if_neg blank] at loaded
        obtain ⟨record, parsed, loaded⟩ := Option.bind_eq_some_iff.mp loaded
        obtain ⟨others, loadedRest, same⟩ := Option.map_eq_some_iff.mp loaded
        subst same
        have checked := verifyRecord_ok_iff.mpr
          ⟨chain.1, show linkFault ({ state with lineNo := state.lineNo + 1 } : ChainState F).prev
            record = none from chain.2.1, rfl⟩
        rw [verifyLine_ok_iff.mpr (.inr ⟨blank, record, parsed, checked⟩)]
        exact ih loadedRest chain.2.2

/-- `verify_chain` accepts exactly the lines that hold a chain which ends at the expected
head. -/
theorem verifyChain_ok_iff {lines : List String} {expected : Option String} :
    (verifyChain hashing parse key lines expected).ok = true ↔
      ∃ records, loadRecords parse lines = some records ∧ ChainFrom hashing key none records ∧
        ∀ head ∈ expected, ∃ last ∈ records.getLast?, digestsEqual last.hash head = true := by
  unfold verifyChain
  constructor
  · intro accepted
    cases passed : lines.foldlM (verifyLine hashing parse key) {} with
    | error broken =>
        rw [passed] at accepted
        exact absurd accepted (by rw [not_ok_of_foldlM passed]; decide)
    | ok final =>
        rw [passed] at accepted
        obtain ⟨records, loaded, chain, last, head⟩ := chainFrom_of_foldlM rfl passed
        rw [Option.or_none] at last
        refine ⟨records, loaded, chain, ?_⟩
        intro wanted expects
        cases expects
        dsimp only [verifyHead] at accepted
        rw [head, last] at accepted
        cases ended : records.getLast? with
        | none =>
            rw [ended] at accepted
            cases accepted
        | some found =>
            rw [ended] at accepted
            refine ⟨found, rfl, ?_⟩
            by_contra differs
            simp [differs, ChainState.fail] at accepted
  · rintro ⟨records, loaded, chain, ends⟩
    obtain ⟨final, passed⟩ := @foldlM_of_chainFrom F hashing parse key lines {} records loaded chain
    obtain ⟨_, loadedAgain, _, last, head⟩ := chainFrom_of_foldlM rfl passed
    cases loaded.symm.trans loadedAgain
    rw [Option.or_none] at last
    rw [passed]
    cases expected with
    | none => rfl
    | some wanted =>
        obtain ⟨found, ended, equal⟩ := ends wanted rfl
        rw [Option.mem_def] at ended
        dsimp only [verifyHead]
        rw [head, last, ended]
        simp [equal]

/-! ## What a digest determines -/

/-- Where a record stands in the chain. -/
def ledgerPlace (F : Type) : ChainPlace (LedgerRecord F) String where
  position := LedgerRecord.seq
  link := LedgerRecord.prevHash
  hash := LedgerRecord.hash

/-- What a record says, its event up to the order of keys. -/
def LedgerRecord.contents (record : LedgerRecord F) : Nat × String × Json F × String :=
  (record.seq, record.prevHash, record.event.sorted, record.hash)

theorem digestsEqual_iff {expected actual : String} :
    digestsEqual expected actual = true ↔ isAscii expected = true ∧ expected = actual := by
  rw [digestsEqual, Bool.and_eq_true, Bool.and_eq_true, beq_iff_eq]
  constructor
  · rintro ⟨⟨ascii, _⟩, same⟩
    exact ⟨ascii, same⟩
  · rintro ⟨ascii, rfl⟩
    exact ⟨⟨ascii, ascii⟩, rfl⟩

theorem isAscii_computeRecordHash (sound : hashing.Sound) (key : Option String) (seq : Nat)
    (prevHash : String) (event : EventBody F) :
    isAscii (computeRecordHash hashing key seq prevHash event) = true := by
  unfold computeRecordHash
  cases key with
  | none => exact sound.shaAscii _
  | some secret =>
      dsimp only
      split
      · exact sound.shaAscii _
      · exact sound.hmacAscii secret _

theorem hashMatches_iff (sound : hashing.Sound) {record : LedgerRecord F} :
    hashMatches hashing key record = true ↔
      record.hash = computeRecordHash hashing key record.seq record.prevHash record.event := by
  rw [hashMatches, digestsEqual_iff]
  simp only [isAscii_computeRecordHash sound, true_and, eq_comm]

theorem distinctKeys_hashedPayload (seq : Nat) (prevHash : String) (event : EventBody F) :
    DistinctKeys (hashedPayload seq prevHash event) := by
  have names : ["seq", "prev_hash", "event"].Nodup := by decide
  exact ⟨names, trivial, trivial, event.distinct, trivial⟩

theorem canonicalChars_injective (floats : ∀ value, FloatReads hashing.format value)
    {first second : Json F} (firstDistinct : DistinctKeys first)
    (secondDistinct : DistinctKeys second)
    (same : canonicalChars hashing.format first = canonicalChars hashing.format second) :
    sortKeys first = sortKeys second :=
  sortKeys_eq_of_dumps_eq escapeReads_plainChar (readable_of_distinctKeys floats _ firstDistinct)
    (readable_of_distinctKeys floats _ secondDistinct) same

/-- The digest of a record determines its position, its link and its event. -/
theorem eq_of_computeRecordHash_eq (sound : hashing.Sound) {key : Option String}
    {seq otherSeq : Nat} {prevHash otherHash : String} {event other : EventBody F}
    (same : computeRecordHash hashing key seq prevHash event =
      computeRecordHash hashing key otherSeq otherHash other) :
    seq = otherSeq ∧ prevHash = otherHash ∧ event.sorted = other.sorted := by
  have texts : canonicalChars hashing.format (hashedPayload seq prevHash event) =
      canonicalChars hashing.format (hashedPayload otherSeq otherHash other) := by
    unfold computeRecordHash at same
    cases key with
    | none => exact sound.shaInjective same
    | some secret =>
        dsimp only at same
        split at same
        · exact sound.shaInjective same
        · exact sound.hmacInjective secret same
  have firstDistinct := distinctKeys_hashedPayload seq prevHash event
  have secondDistinct := distinctKeys_hashedPayload otherSeq otherHash other
  have payloads := canonicalChars_injective sound.floats firstDistinct secondDistinct texts
  have held : ∀ name, field? (sortKeys (hashedPayload seq prevHash event)) name =
      field? (sortKeys (hashedPayload otherSeq otherHash other)) name :=
    fun name => congrArg (field? · name) payloads
  simp only [hashedPayload, field?_sortKeys_dict firstDistinct.1,
    field?_sortKeys_dict secondDistinct.1] at held
  have positions := held "seq"
  have links := held "prev_hash"
  have events := held "event"
  simp only [dictGet, String.reduceEq, ↓reduceIte, Option.map_some, Option.some.injEq, sortKeys,
    Json.int.injEq, Json.str.injEq, Int.natCast_inj] at positions links events
  exact ⟨positions, links, events⟩

theorem linked_of_chainFrom {prev : Option (LedgerRecord F)} {records : List (LedgerRecord F)}
    (chain : ChainFrom hashing key prev records) : (ledgerPlace F).Linked records := by
  induction records generalizing prev with
  | nil => exact List.isChain_nil
  | cons record rest ih =>
      cases rest with
      | nil => exact List.isChain_singleton _
      | cons next more =>
          refine List.isChain_cons_cons.mpr ⟨?_, ih chain.2.2⟩
          have follows := chain.2.2.2.1
          unfold linkFault at follows
          dsimp only at follows
          split_ifs at follows with gap unlinked
          · rw [not_not] at gap
            rw [Bool.not_eq_true', Bool.not_eq_false] at unlinked
            exact ⟨gap, (digestsEqual_iff.mp unlinked).2⟩

theorem hashMatches_of_mem {prev : Option (LedgerRecord F)} {records : List (LedgerRecord F)}
    (chain : ChainFrom hashing key prev records) {record : LedgerRecord F}
    (member : record ∈ records) : hashMatches hashing key record = true := by
  induction records generalizing prev with
  | nil => cases member
  | cons first rest ih =>
      rcases List.mem_cons.mp member with rfl | later
      · exact chain.1
      · exact ih chain.2.2 later

/-- Chains with one head and one starting position hold the same records. -/
theorem contents_eq_of_chains (sound : hashing.Sound) {original other : List (LedgerRecord F)}
    (chain : ChainFrom hashing key none original) (otherChain : ChainFrom hashing key none other)
    (start : original.head?.map LedgerRecord.seq = other.head?.map LedgerRecord.seq)
    (finish : original.getLast?.map LedgerRecord.hash = other.getLast?.map LedgerRecord.hash) :
    original.map LedgerRecord.contents = other.map LedgerRecord.contents := by
  apply @ChainPlace.contents_eq_of_last _ _ _ (ledgerPlace F) _ _ _ _ (linked_of_chainFrom chain)
    (linked_of_chainFrom otherChain) start finish
  intro one inside two within same
  have oneMatches := (hashMatches_iff sound).mp (hashMatches_of_mem chain inside)
  have twoMatches := (hashMatches_iff sound).mp (hashMatches_of_mem otherChain within)
  have digests : one.hash = two.hash := same
  obtain ⟨positions, links, events⟩ := eq_of_computeRecordHash_eq sound
    (oneMatches.symm.trans (digests.trans twoMatches))
  refine ⟨positions, links, ?_⟩
  rw [LedgerRecord.contents, LedgerRecord.contents, positions, links, events, digests]

/-! ## Tamper evidence -/

/-- A receipt stands against a ledger: it verifies, and the ledger that verifies holds its
hash. -/
structure StandsAgainst (hashing : Hashing F) (parse : String → Option (LedgerRecord F))
    (key : Option String) (ledger : List String) (receipt : Receipt F) : Prop where
  verified : verifyReceipt hashing key receipt = true
  accepted : (verifyChain hashing parse key ledger none).ok = true
  held : ∀ records, loadRecords parse ledger = some records →
    receipt.hash ∈ records.map LedgerRecord.hash

/-- What the ledger promises: records appended at the head that a ledger leaves are
accepted, in the same file or in a new one; lines that verify up to the head of a ledger,
from its first position on, hold the records of the ledger; and a receipt that stands
against a ledger is of one of its records, unchanged. -/
structure LedgerTamperEvident (hashing : Hashing F) (parse : String → Option (LedgerRecord F))
    (key : Option String) : Prop where
  accepts : ∀ {before after : List String} {kept : List (LedgerRecord F)}
    {events : List (EventBody F)} {expected : Option String},
    (verifyChain hashing parse key before none).ok = true → loadRecords parse before = some kept →
    loadRecords parse after = some (makeRecords hashing key (headOf kept) events) →
    (∀ head ∈ expected,
      (makeRecords hashing key (headOf kept) events).getLast?.map LedgerRecord.hash = some head) →
    (verifyChain hashing parse key (before ++ after) expected).ok = true ∧
      (verifyChain hashing parse key after expected).ok = true
  detects : ∀ {original tampered : List String} {records others : List (LedgerRecord F)}
    {head : String},
    (verifyChain hashing parse key original none).ok = true →
    loadRecords parse original = some records → loadRecords parse tampered = some others →
    records.getLast?.map LedgerRecord.hash = some head →
    records.head?.map LedgerRecord.seq = others.head?.map LedgerRecord.seq →
    (verifyChain hashing parse key tampered (some head)).ok = true →
    others.map LedgerRecord.contents = records.map LedgerRecord.contents
  receipts : ∀ {ledger : List String} {records : List (LedgerRecord F)} {receipt : Receipt F},
    StandsAgainst hashing parse key ledger receipt → loadRecords parse ledger = some records →
    ∃ record ∈ records, record.contents =
      (receipt.seq, receipt.prevHash, receipt.event.sorted, receipt.hash)

theorem hashMatches_makeRecord (sound : hashing.Sound) (seq : Nat) (prevHash : String)
    (event : EventBody F) :
    hashMatches hashing key (makeRecord hashing key seq prevHash event) = true :=
  (hashMatches_iff sound).mpr rfl

theorem linkFault_of_head {last record : LedgerRecord F} (ascii : isAscii last.hash = true)
    (position : record.seq = last.seq + 1) (link : record.prevHash = last.hash) :
    linkFault (some last) record = none := by
  unfold linkFault
  have linked : digestsEqual record.prevHash last.hash = true := by
    rw [link]
    exact digestsEqual_iff.mpr ⟨ascii, rfl⟩
  simp only [position, linked, ne_eq, not_true_eq_false, ↓reduceIte, Bool.not_true,
    Bool.false_eq_true]

/-- Records made at a head make a chain with whatever left that head. -/
theorem chainFrom_makeRecords (sound : hashing.Sound) {events : List (EventBody F)}
    {head : Nat × String} {prev : Option (LedgerRecord F)}
    (follows : ∀ record : LedgerRecord F, record.seq = head.1 → record.prevHash = head.2 →
      linkFault prev record = none) :
    ChainFrom hashing key prev (makeRecords hashing key head events) := by
  induction events generalizing head prev with
  | nil => trivial
  | cons event rest ih =>
      obtain ⟨seq, prevHash⟩ := head
      refine ⟨hashMatches_makeRecord sound seq prevHash event, follows _ rfl rfl, ih ?_⟩
      exact fun record position link =>
        linkFault_of_head (isAscii_computeRecordHash sound ..) position link

theorem isAscii_of_hashMatches {record : LedgerRecord F}
    (matched : hashMatches hashing key record = true) : isAscii record.hash = true := by
  obtain ⟨ascii, same⟩ := digestsEqual_iff.mp matched
  rw [← same]
  exact ascii

/-- The first record after a ledger may follow it. -/
theorem linkFault_headOf {kept : List (LedgerRecord F)} (chain : ChainFrom hashing key none kept)
    (record : LedgerRecord F) (position : record.seq = (headOf kept).1)
    (link : record.prevHash = (headOf kept).2) :
    linkFault kept.getLast? record = none ∧ linkFault none record = none := by
  unfold headOf at position link
  cases ended : kept.getLast? with
  | none =>
      rw [ended] at position link
      have genesis : linkFault none record = none := by
        unfold linkFault
        exact if_neg fun broken => broken.2 link
      exact ⟨genesis, genesis⟩
  | some last =>
      rw [ended] at position link
      have ascii := isAscii_of_hashMatches
        (hashMatches_of_mem chain (List.mem_of_getLast? ended))
      refine ⟨linkFault_of_head ascii position link, ?_⟩
      unfold linkFault
      exact if_neg fun broken => absurd (broken.1.symm.trans position) (Nat.succ_ne_zero _).symm

theorem chain_of_verifyChain {lines : List String} {expected : Option String}
    {records : List (LedgerRecord F)} (loaded : loadRecords parse lines = some records)
    (accepted : (verifyChain hashing parse key lines expected).ok = true) :
    ChainFrom hashing key none records ∧
      ∀ head ∈ expected, ∃ last ∈ records.getLast?, digestsEqual last.hash head = true := by
  obtain ⟨found, foundLoaded, chain, ends⟩ := verifyChain_ok_iff.mp accepted
  cases loaded.symm.trans foundLoaded
  exact ⟨chain, ends⟩

/-- A receipt that verifies carries the digest of what it says, under the key. -/
theorem receipt_hash_of_verified {receipt : Receipt F}
    (verified : verifyReceipt hashing key receipt = true) :
    receipt.hash = computeRecordHash hashing key receipt.seq receipt.prevHash receipt.event := by
  unfold verifyReceipt at verified
  split at verified
  · rw [Bool.and_eq_true] at verified
    exact (digestsEqual_iff.mp verified.2).2.symm
  split at verified
  · rw [Bool.and_eq_true, Option.isNone_iff_eq_none] at verified
    obtain ⟨rfl, same⟩ := verified
    exact (digestsEqual_iff.mp same).2.symm
  · cases verified

/-- With digests that tell texts apart, the ledger is tamper-evident. -/
theorem ledgerTamperEvident_of_sound (sound : hashing.Sound) :
    LedgerTamperEvident hashing parse key := by
  constructor
  · intro before after kept events expected accepted loaded loadedAfter ends
    obtain ⟨chain, _⟩ := chain_of_verifyChain loaded accepted
    have joined : ChainFrom hashing key none
        (kept ++ makeRecords hashing key (headOf kept) events) := by
      rw [chainFrom_append, Option.or_none]
      exact ⟨chain, chainFrom_makeRecords sound fun record position link =>
        (linkFault_headOf chain record position link).1⟩
    have alone : ChainFrom hashing key none (makeRecords hashing key (headOf kept) events) :=
      chainFrom_makeRecords sound fun record position link =>
        (linkFault_headOf chain record position link).2
    have heads : ∀ head ∈ expected,
        ∃ last ∈ (makeRecords hashing key (headOf kept) events).getLast?,
          digestsEqual last.hash head = true := by
      intro head expects
      obtain ⟨last, ended, same⟩ := Option.map_eq_some_iff.mp (ends head expects)
      refine ⟨last, ended, digestsEqual_iff.mpr ⟨?_, same⟩⟩
      exact isAscii_of_hashMatches (hashMatches_of_mem alone (List.mem_of_getLast? ended))
    constructor
    · refine verifyChain_ok_iff.mpr ⟨_, ?_, joined, fun head expects => ?_⟩
      · rw [loadRecords_append, loaded, Option.bind_some, loadedAfter, Option.map_some]
      · obtain ⟨last, ended, equal⟩ := heads head expects
        refine ⟨last, ?_, equal⟩
        rw [List.getLast?_append, Option.mem_def.mp ended]
        rfl
    · exact verifyChain_ok_iff.mpr ⟨_, loadedAfter, alone, heads⟩
  · intro original tampered records others head accepted loaded loadedOthers ended start verified
    obtain ⟨chain, _⟩ := chain_of_verifyChain loaded accepted
    obtain ⟨otherChain, ends⟩ := chain_of_verifyChain loadedOthers verified
    obtain ⟨last, found, equal⟩ := ends head rfl
    apply contents_eq_of_chains sound otherChain chain start.symm
    rw [Option.mem_def.mp found, ended, Option.map_some, (digestsEqual_iff.mp equal).2]
  · intro ledger records receipt stands loaded
    obtain ⟨chain, _⟩ := chain_of_verifyChain loaded stands.accepted
    obtain ⟨record, inside, same⟩ := List.mem_map.mp (stands.held records loaded)
    have recordHash := (hashMatches_iff sound).mp (hashMatches_of_mem chain inside)
    have receiptHash := receipt_hash_of_verified stands.verified
    obtain ⟨positions, links, events⟩ := eq_of_computeRecordHash_eq sound
      (recordHash.symm.trans (same.trans receiptHash))
    refine ⟨record, inside, ?_⟩
    rw [LedgerRecord.contents, positions, links, events, same]

theorem mem_loadRecords {lines : List String} {records : List (LedgerRecord F)} {raw : String}
    {record : LedgerRecord F} (loaded : loadRecords parse lines = some records)
    (inside : raw ∈ lines) (solid : strip raw ≠ "") (parsed : parse (strip raw) = some record) :
    record ∈ records := by
  induction lines generalizing records with
  | nil => cases inside
  | cons line rest ih =>
      rw [loadRecords_cons] at loaded
      by_cases blank : strip line = ""
      · rw [if_pos blank] at loaded
        rcases List.mem_cons.mp inside with rfl | later
        · exact absurd blank solid
        · exact ih loaded later
      · rw [if_neg blank] at loaded
        obtain ⟨first, firstParsed, loaded⟩ := Option.bind_eq_some_iff.mp loaded
        obtain ⟨others, loadedRest, same⟩ := Option.map_eq_some_iff.mp loaded
        subst same
        rcases List.mem_cons.mp inside with rfl | later
        · cases parsed.symm.trans firstParsed
          exact List.mem_cons_self ..
        · exact List.mem_cons_of_mem _ (ih loadedRest later)

/-- A receipt taken from a ledger that verifies stands against it. -/
theorem standsAgainst_of_extractReceipt {ledger : List String} {eventId : String}
    {receipt : Receipt F}
    (accepted : (verifyChain hashing parse key ledger none).ok = true)
    (extracted : extractReceipt parse ledger eventId key.isSome = some receipt) :
    StandsAgainst hashing parse key ledger receipt := by
  obtain ⟨raw, inside, found⟩ := List.exists_of_findSome?_eq_some extracted
  unfold receiptOfLine at found
  split at found
  · cases found
  rename_i solid
  split at found
  · cases found
  rename_i record parsed
  have taken : receipt = buildReceipt record key.isSome := by
    split at found
    · split at found
      · exact (Option.some.inj found).symm
      · cases found
    · cases found
  subst taken
  have held : ∀ records, loadRecords parse ledger = some records → record ∈ records :=
    fun _ loaded => mem_loadRecords loaded inside solid parsed
  refine ⟨?_, accepted, fun records loaded => List.mem_map_of_mem (held records loaded)⟩
  obtain ⟨records, loaded, chain, _⟩ := verifyChain_ok_iff.mp accepted
  have matched := hashMatches_of_mem chain (held records loaded)
  unfold hashMatches at matched
  unfold verifyReceipt buildReceipt
  cases key with
  | none => exact matched
  | some secret => exact matched

end Ledger

/-! ## An instance -/

/-- A text as one number, in digits. -/
def numbered (text : List Char) : String :=
  toString (Encodable.encode (text.map Char.toNat))

theorem numbered_injective : Function.Injective numbered := by
  intro first second same
  have digits := congrArg String.toList same
  unfold numbered at digits
  rw [Nat.toString_eq_ofList_toDigits, Nat.toString_eq_ofList_toDigits, String.toList_ofList,
    String.toList_ofList] at digits
  have numbers := congrArg (Nat.ofDigitChars 10 · 0) digits
  simp only [Nat.ofDigitChars_ten_toDigits] at numbers
  have codes : Function.Injective Char.toNat := fun one other equal => by
    rw [← Char.ofNat_toNat one, equal, Char.ofNat_toNat]
  exact List.map_injective_iff.mpr codes (Encodable.encode_injective numbers)

theorem isAscii_numbered (text : List Char) : isAscii (numbered text) = true := by
  rw [isAscii, numbered, Nat.toString_eq_ofList_toDigits, String.toList_ofList, List.all_eq_true]
  intro letter member
  have digit := Nat.isDigit_of_mem_toDigits (by decide) (by decide) member
  rw [Char.isDigit, Bool.and_eq_true, decide_eq_true_eq, decide_eq_true_eq] at digit
  rw [decide_eq_true_eq]
  exact Nat.lt_of_le_of_lt digit.2 (by decide)

/-- Digests that are the text itself as a number, for events without fractions. -/
def numberedHashing : Hashing Empty where
  format := ⟨Empty.elim, fun _ => none⟩
  sha256 := numbered
  hmacSha256 := fun secret text => numbered (secret.toList ++ text)

theorem numberedHashing_sound : numberedHashing.Sound where
  floats := fun value => value.elim
  shaInjective := numbered_injective
  hmacInjective := fun _ _ _ same => List.append_cancel_left (numbered_injective same)
  shaAscii := isAscii_numbered
  hmacAscii := fun _ _ => isAscii_numbered _

theorem ledgerTamperEvident_numberedHashing :
    LedgerTamperEvident numberedHashing
      (fun line => if line = "genesis" then
        some (makeRecord numberedHashing (some "audit key") 0 genesisPrevHash ⟨[], by decide, trivial⟩)
      else none) (some "audit key") :=
  ledgerTamperEvident_of_sound numberedHashing_sound

end QueryGate
