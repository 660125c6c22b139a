import QueryGate.Audit.Ledger
import QueryGate.Foundation.Encoding
import QueryGate.Foundation.JsonTree

/-! # Envelopes of any text

`verify_envelope_hash` and `unwrap_envelope` of `audit/ledger.py`, on what `json.loads` makes
of a line that anyone may have written. The checks of the envelope are the data-model
library's and refuse what they cannot take; the canonical encoding of a record cannot take a
unit of a surrogate pair that stands alone, and says so by an exception.
-/

namespace QueryGate

open Foundation JsonCode

/-- What the readers of a line let through: `RecursionError` and `ValueError` of
`json.loads`, and the `UnicodeEncodeError` of the canonical encoding. -/
inductive LineFault
  | recursion
  | digits
  | surrogate
  deriving DecidableEq, Repr

/-- What envelopes are checked with. -/
structure EnvelopeRuntime where
  /-- How many containers `json.loads` enters before it gives up. -/
  recursionLimit : Nat
  /-- How a number is written again that was read from this spelling. -/
  respell : List Nat → List Nat
  /-- The whole number that a value counts as where `LedgerRecord` is validated. -/
  laxInt : JsonTree → Option Int
  sha256 : List UInt8 → String
  hmacSha256 : List UInt8 → List UInt8 → String

/-! ## The canonical encoding -/

/-- A character of a string as `json.dumps(…, ensure_ascii=False)` writes it. -/
def treeLetterCodes (code : Nat) : List Nat :=
  if code = quote ∨ code = backslash then [backslash, code]
  else if code = 0xa then [backslash, 0x6e]
  else if code = 0xd then [backslash, 0x72]
  else if code = 0x9 then [backslash, 0x74]
  else if code = 0xc then [backslash, 0x66]
  else if code = 0x8 then [backslash, 0x62]
  else if code < 0x20 then
    [backslash, 0x75, 0x30, 0x30, (Nat.digitChar (code / 16)).toNat,
      (Nat.digitChar (code % 16)).toNat]
  else [code]

/-- A string in quotes. -/
def treeStringCodes (codes : List Nat) : List Nat :=
  quote :: (codes.flatMap treeLetterCodes ++ [quote])

/-- Texts with a separator between them, in brackets. -/
def inBrackets (opener closer : Nat) (texts : List (List Nat)) : List Nat :=
  opener :: ([comma].intercalate texts ++ [closer])

/-- Entries in the order of their keys, each with a colon. -/
def treeDictCodes (entries : List (List Nat × List Nat)) : List Nat :=
  inBrackets openDict closeDict
    ((entries.mergeSort fun first second => decide (first.1 ≤ second.1)).map
      fun entry => treeStringCodes entry.1 ++ colon :: entry.2)

section Canonical

variable (runtime : EnvelopeRuntime)

mutual

/-- `json.dumps(obj, sort_keys=True, separators=(",", ":"), ensure_ascii=False)`. -/
def treeCodes : JsonTree → List Nat
  | .null => codesOf "null"
  | .bool true => codesOf "true"
  | .bool false => codesOf "false"
  | .number spelling => runtime.respell spelling
  | .str codes => treeStringCodes codes
  | .list items => inBrackets openList closeList (treeItemCodes items)
  | .dict entries => treeDictCodes (treeEntryCodes entries)
termination_by structural tree => tree

/-- The items of a list. -/
def treeItemCodes : List JsonTree → List (List Nat)
  | [] => []
  | item :: rest => treeCodes item :: treeItemCodes rest
termination_by structural items => items

/-- The entries of an object. -/
def treeEntryCodes : List (List Nat × JsonTree) → List (List Nat × List Nat)
  | [] => []
  | (key, value) :: rest => (key, treeCodes value) :: treeEntryCodes rest
termination_by structural entries => entries

end

/-- The code points are all characters: no unit of a surrogate pair stands alone. -/
def isUnicode (codes : List Nat) : Bool :=
  codes.all fun code => decide code.isValidChar

/-- `text.encode("utf-8")`. -/
def encodeCodes (codes : List Nat) : Except LineFault (List UInt8) :=
  if isUnicode codes then .ok (encodeUtf8 (codes.map Char.ofNat)) else .error .surrogate

/-- `LedgerRecord`, of a line. -/
structure TreeRecord where
  seq : Nat
  prevHash : List Nat
  event : List (List Nat × JsonTree)
  hash : List Nat

/-- `compute_record_hash`. -/
def treeRecordHash (key : Option (List UInt8)) (record : TreeRecord) : Except LineFault String := do
  let payload ← encodeCodes (treeDictCodes
    [(codesOf "seq", codesOf (toString record.seq)),
      (codesOf "prev_hash", treeStringCodes record.prevHash),
      (codesOf "event", treeCodes runtime (.dict record.event))])
  match key with
  | some (first :: rest) => pure (runtime.hmacSha256 (first :: rest) payload)
  | _ => pure (runtime.sha256 payload)

/-! ## The checks -/

/-- The keys of a `LedgerRecord`. -/
def ledgerKeys : List (List Nat) :=
  ["seq", "prev_hash", "event", "hash"].map codesOf

/-- A text that the data-model library takes as one. -/
def unicodeText (tree : JsonTree) : Option (List Nat) :=
  match tree with
  | .str codes => if isUnicode codes then some codes else none
  | _ => none

/-- The entries of an event, where they have all the keys of an envelope around them. -/
def envelopeEvent (raw : JsonTree) : Option (List (List Nat × JsonTree)) :=
  if ledgerKeys.all fun name => (raw.get name).isSome then
    match raw.get (codesOf "event") with
    | some (.dict entries) => some entries
    | _ => none
  else none

/-- `LedgerRecord.model_validate`, which forbids other keys. -/
def validateTreeRecord (raw : JsonTree) : Option TreeRecord := do
  let seq ← (raw.get (codesOf "seq")).bind runtime.laxInt
  let prevHash ← (raw.get (codesOf "prev_hash")).bind unicodeText
  let entries ← envelopeEvent raw
  let hash ← (raw.get (codesOf "hash")).bind unicodeText
  let known := match raw with
    | .dict pairs => pairs.all fun pair => ledgerKeys.contains pair.1
    | _ => false
  if 0 ≤ seq ∧ known = true ∧ (entries.all fun entry => isUnicode entry.1) = true then
    some ⟨seq.toNat, prevHash, entries, hash⟩
  else none

/-- `verify_envelope_hash`. -/
def verifyTreeEnvelope (key : Option (List UInt8)) (raw : JsonTree) :
    Except LineFault (Option Bool) :=
  match envelopeEvent raw with
  | none => .ok none
  | some _ =>
      match validateTreeRecord runtime raw with
      | none => .ok (some false)
      | some record => do
          let expected ← treeRecordHash runtime key record
          pure (some (isAscii expected && record.hash == codesOf expected))

/-- `unwrap_envelope`. -/
def unwrapTree (raw : JsonTree) : JsonTree :=
  match envelopeEvent raw with
  | some entries => .dict entries
  | none => raw

/-- `json.loads`, and the syntax errors of it that every reader catches. -/
def loadsTree (text : String) : Except LineFault (Option JsonTree) :=
  match Foundation.readText runtime.recursionLimit (codesOf text) with
  | .ok tree => .ok (some tree.value)
  | .error .malformed => .ok none
  | .error .recursion => .error .recursion
  | .error .digits => .error .digits

end Canonical

end QueryGate
