import QueryGate.Audit.SearchCursor
import QueryGate.Audit.WormSegment

/-! # Searching the archive

`search_worm_archive` of `audit/worm_search.py`, from a request whose window and limit were
accepted. A page walks the days of the window, lists each day's objects, and reads them line
by line, until one of its bounds stops it; the cursor it leaves is where the next page goes on.

The clock is how many deadline checks still pass, and S3 may hand out as few keys in one
answer as it likes.
-/

namespace QueryGate

open Foundation

/-- One object of the archive. -/
structure ArchiveObject where
  key : String
  body : List UInt8

/-- The objects under the prefix of one day, in the order in which S3 lists them. -/
structure ArchiveDay where
  objects : List ArchiveObject
  sorted : objects.Pairwise fun first second => first.key < second.key
  named : ∀ object ∈ objects, keyBytes object.key ≤ maxS3KeyBytes

/-- What the filters look at. -/
structure EventView where
  occurredAt : Int
  eventType : String
  connectionId : Option String
  principalId : Option String

/-- The filters of a request, with instants in microseconds. -/
structure SearchFilters where
  startTime : Int
  endTime : Int
  eventType : Option String := none
  connectionId : Option String := none
  principalId : Option String := none

/-- `_matches`. -/
def matchesFilters (filters : SearchFilters) (event : EventView) : Bool :=
  decide (filters.startTime ≤ event.occurredAt ∧ event.occurredAt ≤ filters.endTime) &&
    filters.eventType.all (fun wanted => event.eventType == wanted) &&
    filters.connectionId.all (fun wanted => event.connectionId == some wanted) &&
    filters.principalId.all (fun wanted => event.principalId == some wanted)

/-- The days that `datetime.date` has, of a window and its padding. -/
def WindowDates (filters : SearchFilters) (padDays : Int) : Prop :=
  ∀ day, dayOfInstant filters.startTime - padDays ≤ day →
    day ≤ dayOfInstant filters.endTime + padDays → IsDate day

/-- An accepted request: its filters, its limit, and the bounds it runs under. -/
structure SearchPlan where
  filters : SearchFilters
  fingerprint : String
  limit : Nat
  maxObjectsScanned : Nat
  padDays : Int
  windowOrdered : filters.startTime < filters.endTime
  limitPositive : 1 ≤ limit
  objectsPositive : 1 ≤ maxObjectsScanned
  padPositive : 1 ≤ padDays
  dates : WindowDates filters padDays

/-- `start_day`. -/
def SearchPlan.startDay (plan : SearchPlan) : Int :=
  dayOfInstant plan.filters.startTime - plan.padDays

/-- `end_day`. -/
def SearchPlan.endDay (plan : SearchPlan) : Int :=
  dayOfInstant plan.filters.endTime + plan.padDays

/-- What a search runs on. -/
structure SearchService (F E : Type) where
  codec : ArchiveCodec F E
  ledgerKey : Option String
  view : E → EventView
  /-- `int(value)`, of what is no whole number. -/
  intOf : Json F → Option Int
  archive : Int → ArchiveDay

/-- What a page meets: how many deadline checks pass, and how many keys S3 hands out in each
of its answers, at most. -/
structure PageClock where
  ticks : Nat
  served : Nat → Nat

/-- `_MAX_LINES_PER_OBJECT`. -/
def maxLinesPerObject : Nat := 500000

/-- `_MAX_OBJECT_BYTES`. -/
def maxObjectBytes : Nat := 64 * 1024 * 1024

/-- `_SEED_WALK_MAX_STEPS`. -/
def seedWalkMaxSteps : Nat := 1024

/-- The variables of a page. -/
structure SearchState (E : Type) where
  scan : SegmentScan E := {}
  objectsScanned : Nat := 0
  ticks : Nat
  calls : Nat := 0

/-- A page that ends. -/
structure SearchPage (E : Type) where
  truncated : Bool
  nextCursor : Option CursorState
  state : SearchState E

/-- A part of the scan goes on to the next one, or ends the page. -/
inductive ScanEnd (E : Type) where
  | finished (state : SearchState E)
  | stopped (page : SearchPage E)

/-- How the loop over the lines of an object ends. -/
inductive LinesEnd where
  | exhausted
  | broken
  | expired (line : Nat)
  | full (line : Nat)
  deriving DecidableEq, Repr

section Search

variable {F E : Type} (service : SearchService F E) (plan : SearchPlan)

/-! ## Lines -/

/-- An event passes the filters of the request. -/
def SearchService.accepts (event : E) : Bool :=
  matchesFilters plan.filters (service.view event)

/-- `_get_object_text(…).splitlines()`. -/
def SearchService.lines (object : ArchiveObject) : List (List Char) :=
  splitLines (getObjectText service.codec object.body)

/-- What the seed of a resumed page is taken from. -/
def seedFromLine (raw : List Char) : Predecessor :=
  match loadsLine service.codec raw with
  | none => .unknown
  | some parsed =>
      if verifyEnvelopeHash service.codec service.ledgerKey parsed = some true then
        match chainSeq parsed with
        | none => .unusable
        | some seq => .record (textAt parsed "hash") seq
      else .unknown

/-- `_seed_chain_state_from_predecessor`. -/
def seedChainState (lines : List (List Char)) (consumeFrom : Nat) : Predecessor :=
  let back := ((lines.take consumeFrom).reverse).take seedWalkMaxSteps
  match back.find? fun raw => !isBlankLine raw with
  | some raw => seedFromLine service raw
  | none => if seedWalkMaxSteps ≤ back.length then .unusable else .unknown

/-- What is known of the record before the first line that is read. -/
def seedOf (lines : List (List Char)) (consumeFrom : Nat) : Predecessor :=
  if 0 < consumeFrom then seedChainState service lines consumeFrom else .genesis

/-- What a line's outcome adds: an event only where the filters take it. -/
def SegmentScan.addMatching (accepts : E → Bool) (scan : SegmentScan E) :
    LineOutcome E → SegmentScan E
  | .linked next (some event) =>
      if accepts event then scan.add (.linked next (some event))
      else { scan with before := next, eventsScanned := scan.eventsScanned + 1 }
  | .linked next none => scan.add (.linked next none)
  | .blank => scan.add .blank
  | .malformed => scan.add .malformed
  | .unverified => scan.add .unverified
  | .broken => scan.add .broken

/-- The deadline check before a line, made before every thousandth. -/
def checkLine (lineNo : Nat) (state : SearchState E) : Option (SearchState E) :=
  if lineNo % 1000 = 0 then
    match state.ticks with
    | 0 => none
    | ticks + 1 => some { state with ticks := ticks }
  else some state

/-- The loop over the lines of an object. -/
def searchLines : Nat → List (List Char) → SearchState E → LinesEnd × SearchState E
  | _, [], state => (.exhausted, state)
  | lineNo, raw :: rest, state =>
      match checkLine lineNo state with
      | none => (.expired lineNo, state)
      | some state =>
          let scan := state.scan.addMatching (service.accepts plan)
            (readLine service.codec service.ledgerKey state.scan.before raw)
          if scan.brokeChain then
            (.broken, { state with
              scan := { scan with linesSkipped := scan.linesSkipped + rest.length } })
          else if state.scan.events.length < scan.events.length ∧
              plan.limit ≤ scan.events.length then
            (.full (lineNo + 1), { state with scan := scan })
          else searchLines (lineNo + 1) rest { state with scan := scan }

/-! ## Objects -/

/-- The day that is scanned, the marker its listing began behind, and whether the listing was
cut short. -/
structure ListedDay where
  day : Int
  afterKey : Option String
  truncated : Bool

/-- `_next_position_cursor`, behind an object before the rest of the listed ones. -/
def nextPosition (listed : ListedDay) (object : ArchiveObject) (rest : List ArchiveObject) :
    Option CursorState :=
  match rest with
  | next :: _ => some ⟨listed.day, some next.key, 0, listed.afterKey⟩
  | [] =>
      if listed.truncated then some ⟨listed.day, none, 0, some object.key⟩
      else if listed.day + 1 ≤ plan.endDay then some ⟨listed.day + 1, none, 0, none⟩
      else none

/-- An object of the size that is read, from a line on. -/
def readObject (listed : ListedDay) (object : ArchiveObject) (rest : List ArchiveObject)
    (consumeFrom : Nat) (state : SearchState E) : ScanEnd E :=
  let lines := service.lines object
  let lastLine := min lines.length (consumeFrom + maxLinesPerObject)
  let fresh := { state.scan with before := seedOf service lines consumeFrom, brokeChain := false }
  match searchLines service plan consumeFrom ((lines.take lastLine).drop consumeFrom)
      { state with scan := fresh } with
  | (.expired line, state) =>
      .stopped ⟨true, some ⟨listed.day, some object.key, line, listed.afterKey⟩, state⟩
  | (.full line, state) =>
      let next :=
        if line < lines.length then some ⟨listed.day, some object.key, line, listed.afterKey⟩
        else nextPosition plan listed object rest
      .stopped ⟨next.isSome, next, state⟩
  | (.broken, state) => .finished state
  | (.exhausted, state) =>
      if lastLine < lines.length then
        .stopped ⟨true, some ⟨listed.day, some object.key, lastLine, listed.afterKey⟩, state⟩
      else .finished state

/-- The body of the loop over the objects of a day. -/
def searchObject (listed : ListedDay) (object : ArchiveObject) (rest : List ArchiveObject)
    (consumeFrom : Nat) (state : SearchState E) : ScanEnd E :=
  if plan.maxObjectsScanned ≤ state.objectsScanned ∨ state.ticks = 0 then
    .stopped ⟨true, some ⟨listed.day, some object.key, 0, listed.afterKey⟩, state⟩
  else
    let state := { state with
      ticks := state.ticks - 1, objectsScanned := state.objectsScanned + 1 }
    if maxObjectBytes < object.body.length then
      .stopped ⟨true, nextPosition plan listed object rest, state⟩
    else readObject service plan listed object rest consumeFrom state

/-- The line that an object is read from: that of the cursor, in the object it names. -/
def consumeFrom (resume : Option (String × Nat)) (object : ArchiveObject) : Nat :=
  match resume with
  | some (key, line) => if object.key = key then line else 0
  | none => 0

/-- The loop over the objects of a day. -/
def searchKeys (listed : ListedDay) (resume : Option (String × Nat)) :
    List ArchiveObject → SearchState E → ScanEnd E
  | [], state => .finished state
  | object :: rest, state =>
      match searchObject service plan listed object rest (consumeFrom resume object) state with
      | .stopped page => .stopped page
      | .finished state => searchKeys listed resume rest state

/-! ## Days -/

/-- What `_list_day_keys` leaves. -/
structure Listing where
  keys : List ArchiveObject
  truncated : Bool
  ticks : Nat
  calls : Nat

/-- The loop of `_list_day_keys`, with the keys found so far and those that are left. -/
def listDayKeys (served : Nat → Nat) : Nat → Nat → List ArchiveObject → List ArchiveObject → Listing
  | 0, calls, found, _ => ⟨found, true, 0, calls⟩
  | ticks + 1, calls, found, left =>
      if plan.maxObjectsScanned ≤ found.length then ⟨found, true, ticks, calls⟩
      else
        let count := min (served calls) (max 1 (plan.maxObjectsScanned - found.length))
        if left.length ≤ count then ⟨found ++ left, false, ticks, calls + 1⟩
        else listDayKeys served ticks (calls + 1) (found ++ left.take count) (left.drop count)

/-- The objects of a day that `StartAfter` leaves. An empty marker leaves them all, as every
key stands behind it. -/
def SearchService.objectsAfter (day : Int) (afterKey : Option String) : List ArchiveObject :=
  match afterKey with
  | none => (service.archive day).objects
  | some marker => (service.archive day).objects.filter fun object => decide (marker < object.key)

/-- The objects from the one that the cursor names on, or from the next one where it is gone. -/
def startAt (resume : Option (String × Nat)) (keys : List ArchiveObject) : List ArchiveObject :=
  match resume with
  | none => keys
  | some (key, _) =>
      if keys.any fun object => object.key == key then
        keys.dropWhile fun object => object.key != key
      else keys.dropWhile fun object => !decide (key < object.key)

/-- The body of the loop over the days. -/
def searchDay (served : Nat → Nat) (day : Int) (resume : Option (String × Nat))
    (afterKey : Option String) (state : SearchState E) : ScanEnd E :=
  match state.ticks with
  | 0 => .stopped ⟨true, some ⟨day, none, 0, afterKey⟩, state⟩
  | ticks + 1 =>
      let listing :=
        listDayKeys plan served ticks state.calls [] (service.objectsAfter day afterKey)
      let state := { state with ticks := listing.ticks, calls := listing.calls }
      match searchKeys service plan ⟨day, afterKey, listing.truncated⟩ resume
          (startAt resume listing.keys) state with
      | .stopped page => .stopped page
      | .finished state =>
          if listing.truncated then
            let marker := match listing.keys.getLast? with
              | some object => some object.key
              | none => afterKey
            .stopped ⟨true, some ⟨day, none, 0, marker⟩, state⟩
          else .finished state

/-- The loop over the days, of which so many are left. -/
def searchDays (served : Nat → Nat) : Nat → Int → Option (String × Nat) → Option String →
    SearchState E → ScanEnd E
  | 0, _, _, _, state => .finished state
  | days + 1, day, resume, afterKey, state =>
      match searchDay service plan served day resume afterKey state with
      | .stopped page => .stopped page
      | .finished state => searchDays served days (day + 1) none none state

/-- How many days there are from a day to the end of the window. -/
def SearchPlan.daysFrom (plan : SearchPlan) (day : Int) : Nat :=
  (plan.endDay + 1 - day).toNat

/-- The page that begins at a position. -/
def searchFrom (clock : PageClock) (position : CursorState) : SearchPage E :=
  match searchDays service plan clock.served (plan.daysFrom position.day) position.day
      (position.key.map fun key => (key, position.line)) position.afterKey
      { ticks := clock.ticks } with
  | .stopped page => page
  | .finished state => ⟨false, none, state⟩

/-! ## Requests -/

/-- `WormSearchResult`. -/
structure WormSearchResult (E : Type) where
  objectsScanned : Nat
  eventsScanned : Nat
  malformed : Nat
  unverified : Nat
  chainBreaks : Nat
  linesSkippedAfterChainBreak : Nat
  truncated : Bool
  nextCursor : Option String
  events : List E

/-- `_finalize`. -/
def finalize (page : SearchPage E) : WormSearchResult E where
  objectsScanned := page.state.objectsScanned
  eventsScanned := page.state.scan.eventsScanned
  malformed := page.state.scan.malformed
  unverified := page.state.scan.unverified
  chainBreaks := page.state.scan.chainBreaks
  linesSkippedAfterChainBreak := page.state.scan.linesSkipped
  truncated := page.truncated
  nextCursor := page.nextCursor.map fun cursor =>
    encodeCursor service.codec.hashing.format cursor plan.fingerprint
  events := page.state.scan.events

/-- Where a request without a cursor begins. -/
def SearchPlan.firstPosition (plan : SearchPlan) : CursorState :=
  ⟨plan.startDay, none, 0, none⟩

/-- Where a request begins. -/
def resumePosition (cursor : Option String) : Gate CursorState :=
  match cursor with
  | none => .ok plan.firstPosition
  | some text =>
      if text = "" then .ok plan.firstPosition
      else do
        let position ← decodeCursor service.codec.hashing.format service.intOf text plan.fingerprint
        if position.day < plan.startDay ∨ plan.endDay < position.day then
          .error (queryValidationError "Search cursor does not match the requested time range.")
        else .ok position

/-- `search_worm_archive`. -/
def searchWormArchive (clock : PageClock) (cursor : Option String) : Gate (WormSearchResult E) := do
  let position ← resumePosition service plan cursor
  return finalize service plan (searchFrom service plan clock position)

end Search

end QueryGate
