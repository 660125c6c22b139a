import QueryGate.Audit.JsonText
import QueryGate.Foundation.Encoding
import QueryGate.WriteAst.Dump

/-! # Fingerprints of requests

`query_fingerprint` and `write_fingerprint` of `execution/approval.py`: the digest of the
canonical text of a request's dump. With a digest that tells texts apart, and JSON values as
literals, requests with one fingerprint are one request up to the order of keys in their
rows and literals (`Request.sortLiterals_eq_of_fingerprint`); a JSON object has no order of
its keys, so `JsonRequest` keeps them in order and has one fingerprint each.
-/

namespace QueryGate

open Foundation

/-- The number is neither infinite nor no number at all. -/
def PyFloat.isFinite (value : PyFloat) : Bool :=
  (value.bits >>> 52) &&& 0x7ff != 0x7ff

mutual

/-- A JSON value: its numbers are finite and no object has a key twice. -/
def isJson : Dumped → Bool
  | .float value => value.isFinite
  | .list items => areJson items
  | .dict entries => decide (dictKeys entries).Nodup && entriesAreJson entries
  | _ => true
termination_by structural value => value

/-- The items of a list are JSON values. -/
def areJson : List Dumped → Bool
  | [] => true
  | item :: rest => isJson item && areJson rest
termination_by structural items => items

/-- The values of an object are JSON values. -/
def entriesAreJson : List (String × Dumped) → Bool
  | [] => true
  | (_, value) :: rest => isJson value && entriesAreJson rest
termination_by structural entries => entries

end

/-- What a fingerprint is made with: `hashlib.sha256(canonical).hexdigest()`, and the
spelling of numbers with a fraction. -/
structure FingerprintRuntime where
  sha256 : List UInt8 → String
  format : FloatFormat PyFloat

/-- The digest tells texts apart, and finite numbers are read back as they are spelled. -/
structure FingerprintRuntime.Sound (runtime : FingerprintRuntime) : Prop where
  injective : Function.Injective runtime.sha256
  floats : ∀ value : PyFloat, value.isFinite = true → FloatReads runtime.format value

/-- A request: a query to read with, or a write. -/
inductive Request where
  | read (query : StructuredQuery)
  | write (statement : WriteStatement)

/-- `model_dump(mode="json")`. -/
def Request.dump : Request → Dumped
  | .read query => query.dump
  | .write statement => statement.dump

/-- The request with its rows and literals in the order of their keys. -/
def Request.sortLiterals : Request → Request
  | .read query => .read query.sortLiterals
  | .write statement => .write statement.sortLiterals

section Fingerprints

variable (runtime : FingerprintRuntime)

/-- `_model_fingerprint`, of a model's dump. -/
def modelFingerprint (dump : Dumped) : String :=
  runtime.sha256 (encodeUtf8 (dumps runtime.format jsonChar (sortKeys dump)))

/-- `query_fingerprint`. -/
def queryFingerprint (query : StructuredQuery) : String :=
  modelFingerprint runtime query.dump

/-- `write_fingerprint`. -/
def writeFingerprint (statement : WriteStatement) : String :=
  modelFingerprint runtime statement.dump

/-- The fingerprint of a request. -/
def Request.fingerprint : Request → String
  | .read query => queryFingerprint runtime query
  | .write statement => writeFingerprint runtime statement

end Fingerprints

/-! ## What a fingerprint tells -/

section Readable

variable {format : FloatFormat PyFloat}

mutual

theorem readable_of_isJson
    (floats : ∀ value : PyFloat, value.isFinite = true → FloatReads format value) :
    ∀ value : Dumped, isJson value = true → Readable format value
  | .null => fun _ => trivial
  | .bool _ => fun _ => trivial
  | .int _ => fun _ => trivial
  | .float value => fun json => floats value json
  | .str _ => fun _ => trivial
  | .list items => fun json => readableItems_of_areJson floats items json
  | .dict entries => fun json => by
      rw [isJson, Bool.and_eq_true, decide_eq_true_eq] at json
      exact ⟨json.1, readableEntries_of_areJson floats entries json.2⟩
termination_by structural value => value

theorem readableItems_of_areJson
    (floats : ∀ value : PyFloat, value.isFinite = true → FloatReads format value) :
    ∀ items : List Dumped, areJson items = true → ReadableItems format items
  | [] => fun _ => trivial
  | item :: rest => fun json => by
      rw [areJson, Bool.and_eq_true] at json
      exact ⟨readable_of_isJson floats item json.1, readableItems_of_areJson floats rest json.2⟩
termination_by structural items => items

theorem readableEntries_of_areJson
    (floats : ∀ value : PyFloat, value.isFinite = true → FloatReads format value) :
    ∀ entries : List (String × Dumped), entriesAreJson entries = true →
      ReadableEntries format entries
  | [] => fun _ => trivial
  | (_, value) :: rest => fun json => by
      rw [entriesAreJson, Bool.and_eq_true] at json
      exact ⟨readable_of_isJson floats value json.1, readableEntries_of_areJson floats rest json.2⟩
termination_by structural entries => entries

end

end Readable

section Tells

variable {runtime : FingerprintRuntime}

/-- Models with one fingerprint have the same dump up to the order of keys. -/
theorem sortKeys_eq_of_fingerprint (sound : runtime.Sound) {first second : Dumped}
    (firstJson : isJson first = true) (secondJson : isJson second = true)
    (same : modelFingerprint runtime first = modelFingerprint runtime second) :
    sortKeys first = sortKeys second :=
  sortKeys_eq_of_dumps_eq escapeReads_jsonChar (readable_of_isJson sound.floats first firstJson)
    (readable_of_isJson sound.floats second secondJson)
    (encodeUtf8_injective (sound.injective same))

/-- A query and a write have different dumps. -/
theorem read_ne_write (query : StructuredQuery) (statement : WriteStatement) :
    sortKeys query.dump ≠ sortKeys statement.dump := by
  intro same
  have tag := statement.field_op
  rw [← same] at tag
  obtain ⟨fromTable, fromAlias, select, distinct, joins, where_, groupBy, having, orderBy, limit,
    offset, topN, setOp, correlate, ctes, intent, purpose⟩ := query
  have names : ["from_table", "from_alias", "select", "distinct", "joins", "where", "group_by",
    "having", "order_by", "limit", "offset", "top_n", "set_op", "correlate", "ctes", "intent",
    "purpose"].Nodup := by decide
  rw [StructuredQuery.dump, field?_of_names names rfl] at tag
  cases tag

/-- Requests with one fingerprint are one request up to the order of keys in their rows and
literals. -/
theorem Request.sortLiterals_eq_of_fingerprint (sound : runtime.Sound) {first second : Request}
    (firstJson : isJson first.dump = true) (secondJson : isJson second.dump = true)
    (same : first.fingerprint runtime = second.fingerprint runtime) :
    first.sortLiterals = second.sortLiterals := by
  cases first with
  | read query =>
      cases second with
      | read other =>
          have dumps := sortKeys_eq_of_fingerprint sound firstJson secondJson same
          rw [Request.sortLiterals, Request.sortLiterals,
            StructuredQuery.dump_injective query other dumps]
      | write statement =>
          exact absurd (sortKeys_eq_of_fingerprint sound firstJson secondJson same)
            (read_ne_write query statement)
  | write statement =>
      cases second with
      | read query =>
          exact absurd (sortKeys_eq_of_fingerprint sound firstJson secondJson same).symm
            (read_ne_write query statement)
      | write other =>
          have dumps := sortKeys_eq_of_fingerprint sound firstJson secondJson same
          rw [Request.sortLiterals, Request.sortLiterals, WriteStatement.dump_injective dumps]

end Tells

/-- A request whose literals are JSON values. Their objects, and the rows, have their keys in
order: as JSON objects they have no other order. -/
structure JsonRequest where
  request : Request
  json : isJson request.dump = true
  inOrder : request.sortLiterals = request

theorem JsonRequest.eq_of_request {first second : JsonRequest}
    (same : first.request = second.request) : first = second := by
  cases first
  cases second
  cases same
  rfl

/-- A request has a fingerprint of its own. -/
theorem JsonRequest.fingerprint_injective {runtime : FingerprintRuntime} (sound : runtime.Sound) :
    Function.Injective fun json : JsonRequest => json.request.fingerprint runtime := by
  intro first second same
  apply JsonRequest.eq_of_request
  rw [← first.inOrder, ← second.inOrder]
  exact Request.sortLiterals_eq_of_fingerprint sound first.json second.json same

end QueryGate
