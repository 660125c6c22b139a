import QueryGate.Audit.JsonText
import QueryGate.Core.Exceptions
import QueryGate.Foundation.Base64
import QueryGate.Foundation.Calendar
import QueryGate.Foundation.Encoding

/-! # Cursors of an archive search

`_encode_cursor` and `_decode_cursor` of `audit/worm_search.py`. A cursor names a day, an
object of that day, a line in it, and the marker the day's listing began behind. It comes back
as it was issued, under the fingerprint it was issued for (`decodeCursor_encodeCursor`).
-/

namespace QueryGate

open Foundation

/-! ## Dates -/

/-- The days that `datetime.date` has. -/
def IsDate (day : Int) : Prop :=
  1 ≤ yearOf day ∧ yearOf day ≤ 9999

/-- The last `width` digits of a number. -/
def digitsOf : Nat → Nat → List Char
  | 0, _ => []
  | width + 1, number => digitsOf width (number / 10) ++ [Nat.digitChar (number % 10)]

/-- `day.isoformat()`. -/
def isoformat (day : Int) : List Char :=
  digitsOf 4 (yearOf day).toNat ++ '-' :: digitsOf 2 (monthOf day).toNat ++
    '-' :: digitsOf 2 (dayOf day).toNat

/-- The number that digits spell. -/
def readDigits (digits : List Char) : Option Nat :=
  if digits.all Char.isDigit then some (Nat.ofDigitChars 10 digits 0) else none

/-- `datetime.date(year, month, day)`. -/
def dateOf (year month day : Nat) : Option Int :=
  if 1 ≤ year ∧ year ≤ 9999 ∧ 1 ≤ month ∧ month ≤ 12 ∧ 1 ≤ day ∧
      dayNumber year month day < dayNumber year (month + 1) 1 then
    some (dayNumber year month day)
  else none

/-- `date.fromisoformat`, of the form that `isoformat` has. -/
def fromIsoformat (text : List Char) : Option Int :=
  if text.length = 10 ∧ text[4]? = some '-' ∧ text[7]? = some '-' then do
    let year ← readDigits (text.take 4)
    let month ← readDigits ((text.drop 5).take 2)
    let day ← readDigits (text.drop 8)
    dateOf year month day
  else none

theorem length_digitsOf (width number : Nat) : (digitsOf width number).length = width := by
  induction width generalizing number with
  | zero => rfl
  | succ width ih => rw [digitsOf, List.length_append, ih, List.length_singleton]

theorem digitChar_reads : ∀ digit < 10,
    (Nat.digitChar digit).isDigit = true ∧ (Nat.digitChar digit).toNat - '0'.toNat = digit := by
  decide

/-- Digits are read back where there are enough of them. -/
theorem readDigits_digitsOf {width number : Nat} (short : number < 10 ^ width) :
    readDigits (digitsOf width number) = some number := by
  have digits : ∀ width number, (digitsOf width number).all Char.isDigit = true := by
    intro width
    induction width with
    | zero => exact fun _ => rfl
    | succ width ih =>
        intro number
        rw [digitsOf, List.all_append, ih, List.all_cons,
          (digitChar_reads _ (Nat.mod_lt _ (by decide))).1]
        rfl
  have value : ∀ width number, number < 10 ^ width →
      Nat.ofDigitChars 10 (digitsOf width number) 0 = number := by
    intro width
    induction width with
    | zero =>
        intro number small
        rw [Nat.pow_zero] at small
        rw [Nat.lt_one_iff.mp small]
        rfl
    | succ width ih =>
        intro number small
        have front := ih (number / 10) (by rw [Nat.pow_succ] at small; omega)
        have last := (digitChar_reads (number % 10) (Nat.mod_lt _ (by decide))).2
        rw [digitsOf, Nat.ofDigitChars, List.foldl_append]
        rw [Nat.ofDigitChars] at front
        rw [front, List.foldl_cons, List.foldl_nil, last]
        omega
  rw [readDigits, if_pos (digits width number), value width number short]

theorem dayOf_bounds (day : Int) : 1 ≤ dayOf day ∧ dayOf day ≤ 31 := by
  have within := dayNumber_le_monthOf day
  have bounds := monthOf_bounds day
  have leap := leapDay_bounds (yearOf day)
  have month : daysBeforeMonth (leapDay (yearOf day)) (monthOf day + 1) ≤
      daysBeforeMonth (leapDay (yearOf day)) (monthOf day) + 31 := by
    rcases month_cases bounds.1 bounds.2 with
      same | same | same | same | same | same | same | same | same | same | same | same
    all_goals rw [same]
    all_goals simp only [daysBeforeMonth, Int.reduceLE, Int.reduceAdd, Int.reduceEq, ↓reduceIte]
    all_goals omega
  unfold dayOf
  unfold dayNumber at within ⊢
  omega

/-- A date is read back from its spelling. -/
theorem fromIsoformat_isoformat {day : Int} (date : IsDate day) :
    fromIsoformat (isoformat day) = some day := by
  obtain ⟨first, last⟩ := date
  obtain ⟨firstMonth, lastMonth⟩ := monthOf_bounds day
  obtain ⟨firstDay, lastDay⟩ := dayOf_bounds day
  have year := @readDigits_digitsOf 4 (yearOf day).toNat (by omega)
  have month := @readDigits_digitsOf 2 (monthOf day).toNat (by omega)
  have dayOfMonth := @readDigits_digitsOf 2 (dayOf day).toNat (by omega)
  have yearLength := length_digitsOf 4 (yearOf day).toNat
  have monthLength := length_digitsOf 2 (monthOf day).toNat
  have dayLength := length_digitsOf 2 (dayOf day).toNat
  unfold isoformat fromIsoformat
  generalize digitsOf 4 (yearOf day).toNat = yearText at year yearLength ⊢
  generalize digitsOf 2 (monthOf day).toNat = monthText at month monthLength ⊢
  generalize digitsOf 2 (dayOf day).toNat = dayText at dayOfMonth dayLength ⊢
  match yearText, monthText, dayText with
  | [a, b, c, d], [e, f], [g, h] =>
      have parsed : dateOf (yearOf day).toNat (monthOf day).toNat (dayOf day).toNat = some day := by
        have number : dayNumber (yearOf day).toNat (monthOf day).toNat (dayOf day).toNat = day := by
          rw [Int.toNat_of_nonneg (by omega), Int.toNat_of_nonneg (by omega),
            Int.toNat_of_nonneg (by omega)]
          unfold dayOf dayNumber
          omega
        have within := (dayNumber_le_monthOf day).2
        rw [dateOf, number, if_pos]
        refine ⟨by omega, by omega, by omega, by omega, by omega, ?_⟩
        rw [Int.toNat_of_nonneg (by omega), Int.toNat_of_nonneg (by omega)]
        exact within
      change ((readDigits [a, b, c, d]).bind fun year => (readDigits [e, f]).bind fun month =>
        (readDigits [g, h]).bind fun day => dateOf year month day) = some day
      rw [year, month, dayOfMonth]
      exact parsed

/-! ## Cursors -/

/-- `_CursorState`. -/
structure CursorState where
  day : Int
  key : Option String
  line : Nat
  afterKey : Option String := none
  deriving DecidableEq, Repr

/-- `_MAX_S3_KEY_BYTES`. -/
def maxS3KeyBytes : Nat := 1024

/-- `len(key.encode("utf-8"))`. -/
def keyBytes (key : String) : Nat :=
  (encodeUtf8 key.toList).length

/-- A text or a null. -/
def optionalText {F : Type} : Option String → Json F
  | some text => .str text
  | none => .null

/-- The payload of a cursor, in the order of its keys. -/
def cursorPayload {F : Type} (state : CursorState) (fingerprint : String) : Json F :=
  .dict [("after", optionalText state.afterKey),
    ("day", .str (String.ofList (isoformat state.day))),
    ("fp", .str fingerprint), ("key", optionalText state.key), ("line", .int state.line)]

section Cursor

variable {F : Type} (format : FloatFormat F) (intOf : Json F → Option Int)

/-- `_encode_cursor`. -/
def encodeCursor (state : CursorState) (fingerprint : String) : String :=
  String.ofList (urlsafeB64encode (encodeUtf8
    (dumps format jsonChar (cursorPayload state fingerprint))))

/-- What a cursor that cannot be used is refused with. -/
def invalidCursor : GateError :=
  queryValidationError ("Invalid search cursor: it does not match the current filters/time " ++
    "range, or the archive changed (e.g. a lifecycle policy expired a segment) since it was issued.")

/-- `json.loads(base64.urlsafe_b64decode(cursor))`. -/
def openCursor (cursor : String) : Option (Json F) := do
  let raw ← urlsafeB64decode cursor.toList
  let text ← decodeDetected raw
  loads format text

/-- `int(payload.get("line", 0))`. What `int` makes of other values is a parameter. -/
def lineOf (payload : Json F) : Option Int :=
  match field? payload "line" with
  | none => some 0
  | some (.int line) => some line
  | some other => intOf other

/-- The key of a cursor. -/
def cursorKey (payload : Json F) : Option (Option String) :=
  match field? payload "key" with
  | none => some none
  | some .null => some none
  | some (.str key) => some (some key)
  | some _ => none

/-- The marker of a cursor, which may not be longer than a key. -/
def cursorMarker (payload : Json F) : Option (Option String) :=
  match field? payload "after" with
  | none => some none
  | some .null => some none
  | some (.str marker) => if keyBytes marker ≤ maxS3KeyBytes then some (some marker) else none
  | some _ => none

/-- The day of a cursor. -/
def cursorDay (payload : Json F) : Option Int :=
  match field? payload "day" with
  | some (.str text) => fromIsoformat text.toList
  | _ => none

/-- The payload is of a cursor that was issued for these filters. -/
def isFingerprint (payload : Json F) (fingerprint : String) : Bool :=
  match field? payload "fp" with
  | some (.str found) => found == fingerprint
  | _ => false

/-- What `_decode_cursor` reads from a payload. -/
def readCursor (payload : Json F) (fingerprint : String) : Option CursorState :=
  if isFingerprint payload fingerprint then do
    let day ← cursorDay payload
    let key ← cursorKey payload
    let line ← lineOf intOf payload
    let marker ← cursorMarker payload
    if 0 ≤ line then some ⟨day, key, line.toNat, marker⟩ else none
  else none

/-- `_decode_cursor`. -/
def decodeCursor (cursor : String) (fingerprint : String) : Gate CursorState :=
  match (openCursor format cursor).bind fun payload => readCursor intOf payload fingerprint with
  | some state => .ok state
  | none => .error invalidCursor

variable {format intOf}

theorem readable_cursorPayload (state : CursorState) (fingerprint : String) :
    Readable format (cursorPayload state fingerprint) := by
  have texts : ∀ text, Readable format (optionalText text) := by
    intro text
    cases text with
    | none => trivial
    | some text => trivial
  have names : ["after", "day", "fp", "key", "line"].Nodup := by decide
  exact ⟨names, texts _, trivial, trivial, texts _, trivial, trivial⟩

/-- The text of a cursor is its payload's. -/
theorem openCursor_encodeCursor (state : CursorState) (fingerprint : String) :
    openCursor format (encodeCursor format state fingerprint) =
      some (cursorPayload state fingerprint) := by
  have read : loads format (dumps format jsonChar (cursorPayload state fingerprint)) =
      some (cursorPayload state fingerprint) :=
    loads_dumps escapeReads_jsonChar (readable_cursorPayload state fingerprint)
  obtain ⟨rest, opened⟩ : ∃ rest,
      dumps format jsonChar (cursorPayload state fingerprint) = '\x7b' :: '"' :: rest :=
    ⟨_, rfl⟩
  have decoded : decodeDetected (encodeUtf8 (dumps format jsonChar
      (cursorPayload state fingerprint))) =
        some (dumps format jsonChar (cursorPayload state fingerprint)) := by
    have visible : encodeUtf8 (dumps format jsonChar (cursorPayload state fingerprint)) =
        123 :: 34 :: encodeUtf8 rest := by
      rw [opened]
      rfl
    rw [visible, decodeDetected_of_visible _ (by decide) (by decide), ← visible]
    exact decodeUtf8_encodeUtf8 _
  rw [openCursor, encodeCursor, String.toList_ofList, urlsafeB64decode_encode]
  simp only [Option.bind_eq_bind, Option.bind_some, decoded, read]

theorem cursorKey_cursorPayload (state : CursorState) (fingerprint : String) :
    cursorKey (cursorPayload (F := F) state fingerprint) = some state.key := by
  obtain ⟨day, key, line, marker⟩ := state
  cases key with
  | none => rfl
  | some key => rfl

theorem cursorMarker_cursorPayload {state : CursorState}
    (short : ∀ marker ∈ state.afterKey, keyBytes marker ≤ maxS3KeyBytes) (fingerprint : String) :
    cursorMarker (cursorPayload (F := F) state fingerprint) = some state.afterKey := by
  obtain ⟨day, key, line, marker⟩ := state
  cases marker with
  | none => rfl
  | some marker => exact if_pos (short marker rfl)

/-- **A cursor comes back as it was issued**, under its fingerprint. -/
theorem decodeCursor_encodeCursor {state : CursorState} (date : IsDate state.day)
    (short : ∀ marker ∈ state.afterKey, keyBytes marker ≤ maxS3KeyBytes) (fingerprint : String) :
    decodeCursor format intOf (encodeCursor format state fingerprint) fingerprint = .ok state := by
  have own : isFingerprint (cursorPayload (F := F) state fingerprint) fingerprint = true :=
    beq_self_eq_true fingerprint
  have day : cursorDay (cursorPayload (F := F) state fingerprint) = some state.day := by
    change fromIsoformat (String.ofList (isoformat state.day)).toList = some state.day
    rw [String.toList_ofList]
    exact fromIsoformat_isoformat date
  have line : lineOf intOf (cursorPayload state fingerprint) = some (state.line : Int) := rfl
  have forward : (0 : Int) ≤ state.line := Int.natCast_nonneg _
  rw [decodeCursor, openCursor_encodeCursor, Option.bind_some, readCursor, if_pos own]
  simp only [Option.bind_eq_bind, Option.bind_some, day, line,
    cursorKey_cursorPayload, cursorMarker_cursorPayload short, if_pos forward, Int.toNat_natCast]

end Cursor

end QueryGate
