import QueryGate.Audit.WormSearch
import QueryGate.Foundation.Runs

/-! # Paging through the archive

What there is to deliver from a position on, and that a page delivers its part of it and
leaves the position of the rest, unless it loses the line or the object its cursor named, or
goes on behind a line that does not tell what the chain was.
-/

namespace QueryGate

open Foundation

section Lines

variable {F E : Type} (codec : ArchiveCodec F E) (key : Option String) (accepts : E → Bool)

/-- What is known of the chain behind a line, or nothing where the chain broke there. -/
def LineOutcome.next (before : Predecessor) : LineOutcome E → Option Predecessor
  | .blank => some before
  | .malformed => some before
  | .unverified => some before
  | .broken => none
  | .linked next _ => some next

/-- The events a line delivers. -/
def LineOutcome.delivered (accepts : E → Bool) : LineOutcome E → List E
  | .linked _ event => event.toList.filter accepts
  | .blank => []
  | .malformed => []
  | .unverified => []
  | .broken => []

/-- The events that lines deliver, up to where the chain breaks. -/
def eventsOfLines : Predecessor → List (List Char) → List E
  | _, [] => []
  | before, raw :: rest =>
      (readLine codec key before raw).delivered accepts ++
        match (readLine codec key before raw).next before with
        | some next => eventsOfLines next rest
        | none => []

/-- What is known of the chain behind lines. -/
def predecessorAt : Predecessor → List (List Char) → Option Predecessor
  | before, [] => some before
  | before, raw :: rest =>
      ((readLine codec key before raw).next before).bind fun next => predecessorAt next rest

variable {codec key accepts}

theorem eventsOfLines_append (before : Predecessor) (front back : List (List Char)) :
    eventsOfLines codec key accepts before (front ++ back) =
      eventsOfLines codec key accepts before front ++
        match predecessorAt codec key before front with
        | some next => eventsOfLines codec key accepts next back
        | none => [] := by
  induction front generalizing before with
  | nil => rfl
  | cons raw rest ih =>
      rw [List.cons_append, eventsOfLines, eventsOfLines, predecessorAt, List.append_assoc]
      cases (readLine codec key before raw).next before with
      | none => rfl
      | some next =>
          dsimp only
          rw [ih, Option.bind_some]

theorem predecessorAt_append (before : Predecessor) (front back : List (List Char)) :
    predecessorAt codec key before (front ++ back) =
      (predecessorAt codec key before front).bind fun next =>
        predecessorAt codec key next back := by
  induction front generalizing before with
  | nil => rfl
  | cons raw rest ih =>
      rw [List.cons_append, predecessorAt, predecessorAt]
      cases (readLine codec key before raw).next before with
      | none => rfl
      | some next => exact ih next

/-! ## Two predecessors that a chain cannot tell apart -/

/-- The envelope of a line, where it is verified. -/
def verifiedLine (codec : ArchiveCodec F E) (key : Option String) (raw : List Char) :
    Option (Json F) :=
  if isBlankLine raw then none
  else (loadsLine codec raw).filter fun parsed => verifyEnvelopeHash codec key parsed = some true

/-- An envelope may follow a predecessor. -/
def linksBehind (before : Predecessor) (parsed : Json F) : Bool :=
  (chainSeq parsed).any fun seq => follows before seq (textAt parsed "prev_hash")

/-- The first verified line may follow both of two predecessors, or none. -/
def sameLinks (codec : ArchiveCodec F E) (key : Option String) (first second : Predecessor) :
    List (List Char) → Bool
  | [] => true
  | raw :: rest =>
      match verifiedLine codec key raw with
      | none => sameLinks codec key first second rest
      | some parsed => linksBehind first parsed == linksBehind second parsed

variable (accepts) in
theorem readLine_of_not_verified {raw : List Char} (unread : verifiedLine codec key raw = none)
    (before : Predecessor) :
    (readLine codec key before raw).next before = some before ∧
      (readLine codec key before raw).delivered accepts = [] := by
  unfold verifiedLine at unread
  rw [readLine]
  by_cases blank : isBlankLine raw = true
  · rw [if_pos blank]
    exact ⟨rfl, rfl⟩
  · rw [if_neg blank] at unread ⊢
    cases loaded : loadsLine codec raw with
    | none => exact ⟨rfl, rfl⟩
    | some parsed =>
        rw [loaded, Option.filter_some] at unread
        dsimp only
        cases verified : verifyEnvelopeHash codec key parsed with
        | none => exact ⟨rfl, rfl⟩
        | some holds =>
            cases holds with
            | false => exact ⟨rfl, rfl⟩
            | true =>
                rw [verified, if_pos (decide_eq_true rfl)] at unread
                cases unread

theorem readLine_of_verified {raw : List Char} {parsed : Json F}
    (read : verifiedLine codec key raw = some parsed) (before : Predecessor) :
    readLine codec key before raw = readLink codec before parsed := by
  unfold verifiedLine at read
  rw [readLine]
  by_cases blank : isBlankLine raw = true
  · rw [if_pos blank] at read
    cases read
  · rw [if_neg blank] at read ⊢
    obtain ⟨loaded, verified⟩ := Option.filter_eq_some_iff.mp read
    rw [loaded]
    dsimp only
    rw [of_decide_eq_true verified]

theorem readLink_of_linksBehind {first second : Predecessor} {parsed : Json F}
    (same : linksBehind first parsed = linksBehind second parsed) :
    readLink codec first parsed = readLink codec second parsed := by
  unfold linksBehind at same
  unfold readLink
  cases position : chainSeq parsed with
  | none => rfl
  | some seq =>
      rw [position] at same
      dsimp only
      rw [Option.any_some, Option.any_some] at same
      rw [same]

/-- What a verified line leaves does not depend on what came before it. -/
theorem next_readLink (codec : ArchiveCodec F E) (before first second : Predecessor)
    (parsed : Json F) :
    (readLink codec before parsed).next first = (readLink codec before parsed).next second := by
  unfold readLink
  cases chainSeq parsed with
  | none => rfl
  | some seq =>
      dsimp only
      split
      · rfl
      · rfl

/-- Lines read alike behind predecessors that the chain cannot tell apart, and so does every
front part of them. -/
theorem eventsOfLines_of_sameLinks {first second : Predecessor} {front back : List (List Char)}
    (same : sameLinks codec key first second (front ++ back) = true) :
    eventsOfLines codec key accepts first front = eventsOfLines codec key accepts second front ∧
      (predecessorAt codec key first front).isSome =
        (predecessorAt codec key second front).isSome := by
  induction front with
  | nil => exact ⟨rfl, rfl⟩
  | cons raw rest ih =>
      rw [List.cons_append, sameLinks] at same
      rw [eventsOfLines, eventsOfLines, predecessorAt, predecessorAt]
      cases verified : verifiedLine codec key raw with
      | none =>
          rw [verified] at same
          obtain ⟨firstNext, firstEvents⟩ :=
            readLine_of_not_verified accepts verified first
          obtain ⟨secondNext, secondEvents⟩ :=
            readLine_of_not_verified accepts verified second
          rw [firstNext, firstEvents, secondNext, secondEvents]
          exact ih same
      | some parsed =>
          rw [verified] at same
          rw [readLine_of_verified verified, readLine_of_verified verified,
            readLink_of_linksBehind (beq_iff_eq.mp same), next_readLink codec second first second]
          exact ⟨rfl, rfl⟩

/-! ## The loop over lines -/

theorem addMatching_eq (accepts : E → Bool) (scan : SegmentScan E) (outcome : LineOutcome E) :
    (scan.addMatching accepts outcome).events = scan.events ++ outcome.delivered accepts ∧
      (scan.addMatching accepts outcome).brokeChain =
        (scan.brokeChain || (outcome.next scan.before).isNone) ∧
      ∀ next ∈ outcome.next scan.before, (scan.addMatching accepts outcome).before = next := by
  have quiet : ∀ events : List E, events = events ++ [] := fun events =>
    (List.append_nil events).symm
  cases outcome with
  | blank => exact ⟨quiet _, (Bool.or_false _).symm, fun next same => Option.some.inj same⟩
  | malformed => exact ⟨quiet _, (Bool.or_false _).symm, fun next same => Option.some.inj same⟩
  | unverified => exact ⟨quiet _, (Bool.or_false _).symm, fun next same => Option.some.inj same⟩
  | broken => exact ⟨quiet _, (Bool.or_true _).symm, nofun⟩
  | linked next event =>
      cases event with
      | none => exact ⟨quiet _, (Bool.or_false _).symm, fun next same => Option.some.inj same⟩
      | some event =>
          rw [SegmentScan.addMatching, LineOutcome.delivered, Option.toList_some]
          by_cases taken : accepts event = true
          · rw [if_pos taken, List.filter_cons, if_pos taken]
            exact ⟨rfl, (Bool.or_false _).symm, fun next same => Option.some.inj same⟩
          · rw [if_neg taken, List.filter_cons, if_neg taken]
            exact ⟨quiet _, (Bool.or_false _).symm, fun next same => Option.some.inj same⟩

/-- A line behind which the chain is broken delivers nothing. -/
theorem delivered_of_next_none (accepts : E → Bool) {outcome : LineOutcome E}
    {before : Predecessor} (broken : outcome.next before = none) :
    outcome.delivered accepts = [] := by
  cases outcome with
  | broken => rfl
  | _ => cases broken

section Reading

variable (service : SearchService F E) (plan : SearchPlan)

/-- The events that lines deliver to a request. -/
def SearchService.eventsOf (before : Predecessor) (lines : List (List Char)) : List E :=
  eventsOfLines service.codec service.ledgerKey (service.accepts plan) before lines

/-- What is known of the chain behind lines. -/
def SearchService.chainAt (before : Predecessor) (lines : List (List Char)) : Option Predecessor :=
  predecessorAt service.codec service.ledgerKey before lines

/-- How the loop over lines leaves the ones it has read. -/
def LinesStop (before : Predecessor) (lineNo : Nat) (consumed remaining : List (List Char))
    (result : LinesEnd × SearchState E) : Prop :=
  match result.1 with
  | .exhausted =>
      remaining = [] ∧ (service.chainAt before consumed).isSome = true ∧
        result.2.scan.events.length < plan.limit
  | .broken =>
      service.chainAt before consumed = none ∧ result.2.scan.events.length < plan.limit
  | .expired line =>
      line = lineNo + consumed.length ∧ (service.chainAt before consumed).isSome = true
  | .full line =>
      line = lineNo + consumed.length ∧ (service.chainAt before consumed).isSome = true

/-- What the loop over lines has read it has delivered, and it says where it stopped. -/
structure LinesRead (before : Predecessor) (lineNo : Nat) (rest : List (List Char))
    (state : SearchState E) (result : LinesEnd × SearchState E)
    (consumed remaining : List (List Char)) : Prop where
  split : rest = consumed ++ remaining
  events : result.2.scan.events = state.scan.events ++ service.eventsOf plan before consumed
  stop : LinesStop service plan before lineNo consumed remaining result

variable {service plan}

theorem checkLine_scan {lineNo : Nat} {state next : SearchState E}
    (passed : checkLine lineNo state = some next) : next.scan = state.scan := by
  unfold checkLine at passed
  split at passed
  · split at passed
    · cases passed
    · cases passed
      rfl
  · cases passed
    rfl

theorem searchLines_reads {lineNo : Nat} {rest : List (List Char)} {state : SearchState E}
    (few : state.scan.events.length < plan.limit) (unbroken : state.scan.brokeChain = false) :
    ∃ consumed remaining, LinesRead service plan state.scan.before lineNo rest state
      (searchLines service plan lineNo rest state) consumed remaining := by
  induction rest generalizing lineNo state with
  | nil => exact ⟨[], [], rfl, (List.append_nil _).symm, rfl, rfl, few⟩
  | cons raw rest ih =>
      rw [searchLines]
      cases checked : checkLine lineNo state with
      | none => exact ⟨[], raw :: rest, rfl, (List.append_nil _).symm, rfl, rfl⟩
      | some ready =>
          have same := checkLine_scan checked
          dsimp only
          rw [same]
          obtain ⟨events, broke, before⟩ := addMatching_eq (service.accepts plan) state.scan
            (readLine service.codec service.ledgerKey state.scan.before raw)
          generalize state.scan.addMatching (service.accepts plan)
            (readLine service.codec service.ledgerKey state.scan.before raw) = scan
            at events broke before ⊢
          rw [unbroken, Bool.false_or] at broke
          cases outcome : (readLine service.codec service.ledgerKey state.scan.before raw).next
              state.scan.before with
          | none =>
              have nothing := delivered_of_next_none (service.accepts plan) outcome
              rw [outcome, Option.isNone_none] at broke
              rw [nothing, List.append_nil] at events
              rw [if_pos broke]
              refine ⟨[raw], rest, rfl, ?_, ?_, ?_⟩
              · rw [SearchService.eventsOf, eventsOfLines, outcome, nothing, List.append_nil,
                  List.append_nil]
                exact events
              · rw [SearchService.chainAt, predecessorAt, outcome]
                rfl
              · change scan.events.length < plan.limit
                rwa [events]
          | some next =>
              rw [outcome, Option.isNone_some] at broke
              rw [outcome] at before
              have following := before next rfl
              have going : ¬ scan.brokeChain = true := by
                rw [broke]
                exact Bool.false_ne_true
              rw [if_neg going]
              by_cases full : state.scan.events.length < scan.events.length ∧
                  plan.limit ≤ scan.events.length
              · rw [if_pos full]
                refine ⟨[raw], rest, rfl, ?_, rfl, ?_⟩
                · rw [SearchService.eventsOf, eventsOfLines, outcome]
                  dsimp only
                  rw [eventsOfLines, List.append_nil]
                  exact events
                · rw [SearchService.chainAt, predecessorAt, outcome]
                  rfl
              · rw [if_neg full]
                have room : scan.events.length < plan.limit := by
                  have grown := congrArg List.length events
                  rw [List.length_append] at grown
                  by_contra reached
                  exact full ⟨by omega, not_lt.mp reached⟩
                obtain ⟨consumed, remaining, read⟩ :=
                  @ih (lineNo + 1) { ready with scan := scan } room broke
                refine ⟨raw :: consumed, remaining, congrArg (raw :: ·) read.split, ?_, ?_⟩
                · have delivered : service.eventsOf plan state.scan.before (raw :: consumed) =
                      (readLine service.codec service.ledgerKey state.scan.before raw).delivered
                        (service.accepts plan) ++ service.eventsOf plan scan.before consumed := by
                    rw [SearchService.eventsOf, eventsOfLines, outcome, following]
                    rfl
                  rw [read.events, events, delivered, List.append_assoc]
                · have further : service.chainAt state.scan.before (raw :: consumed) =
                      service.chainAt scan.before consumed := by
                    rw [SearchService.chainAt, predecessorAt, outcome, Option.bind_some, following]
                    rfl
                  have stop := read.stop
                  unfold LinesStop at stop ⊢
                  rw [further]
                  have count :
                      lineNo + 1 + consumed.length = lineNo + (raw :: consumed).length := by
                    rw [List.length_cons]
                    omega
                  rw [count] at stop
                  exact stop

end Reading

end Lines

/-! ## What there is to deliver -/

section Paging

variable {F E : Type} (service : SearchService F E) (plan : SearchPlan)

/-- The object is larger than what is read. -/
def isOversized (object : ArchiveObject) : Bool :=
  decide (maxObjectBytes < object.body.length)

/-- What an object delivers. -/
def objectEvents (object : ArchiveObject) : List E :=
  if isOversized object then []
  else service.eventsOf plan .genesis (service.lines object)

/-- What an object delivers from a line on. -/
def resumeEvents (object : ArchiveObject) (line : Nat) : List E :=
  if isOversized object then []
  else
    match service.chainAt .genesis ((service.lines object).take line) with
    | some next => service.eventsOf plan next ((service.lines object).drop line)
    | none => []

/-- What so many days deliver. -/
def eventsOfDays : Nat → Int → List E
  | 0, _ => []
  | days + 1, day =>
      (service.archive day).objects.flatMap (objectEvents service plan) ++
        eventsOfDays days (day + 1)

/-- What the window delivers from a day on. -/
def eventsFrom (day : Int) : List E :=
  eventsOfDays service plan (plan.daysFrom day) day

/-- What the window delivers. -/
def archiveEvents : List E :=
  eventsFrom service plan plan.startDay

/-- What objects deliver, the first of them from a line on where it has the key. -/
def eventsFromKey (key : String) (line : Nat) : List ArchiveObject → List E
  | [] => []
  | object :: rest =>
      resumeEvents service plan object (consumeFrom (some (key, line)) object) ++
        rest.flatMap (objectEvents service plan)

/-- What is left to deliver at a position. -/
def remainingAt (position : CursorState) : List E :=
  (match position.key with
    | none =>
        (service.objectsAfter position.day position.afterKey).flatMap (objectEvents service plan)
    | some key =>
        eventsFromKey service plan key position.line
          ((service.objectsAfter position.day position.afterKey).dropWhile fun object =>
            decide (object.key < key))) ++
    eventsFrom service plan (position.day + 1)

/-- What is left to deliver where a page goes on, if it does. -/
def remainingOf (next : Option CursorState) : List E :=
  match next with
  | some position => remainingAt service plan position
  | none => []

/-- A line of an object that a page may go on from: the object is read at all, and its chain
is not broken before. -/
structure Resumable (object : ArchiveObject) (line : Nat) : Prop where
  inside : line ≤ (service.lines object).length
  sized : isOversized object = false
  linked : (service.chainAt .genesis ((service.lines object).take line)).isSome = true

/-- A position that a page leaves: in the window, and in an object that a listing from the
marker on comes to. -/
structure Issued (position : CursorState) : Prop where
  first : plan.startDay ≤ position.day
  last : position.day ≤ plan.endDay
  marker : ∀ marker ∈ position.afterKey, keyBytes marker ≤ maxS3KeyBytes
  named : ∀ key ∈ position.key, ∃ object ∈
    (service.objectsAfter position.day position.afterKey).take plan.maxObjectsScanned,
    object.key = key ∧ (0 < position.line → Resumable service object position.line)

variable {service plan}

theorem resumeEvents_zero (object : ArchiveObject) :
    resumeEvents service plan object 0 = objectEvents service plan object := by
  unfold resumeEvents objectEvents
  split
  · rfl
  · rfl

theorem flatMap_objectEvents_append (front back : List ArchiveObject) :
    (front ++ back).flatMap (objectEvents service plan) =
      front.flatMap (objectEvents service plan) ++ back.flatMap (objectEvents service plan) :=
  List.flatMap_append

theorem eventsFrom_of_le {day : Int} (inside : day ≤ plan.endDay) :
    eventsFrom service plan day =
      (service.archive day).objects.flatMap (objectEvents service plan) ++
        eventsFrom service plan (day + 1) := by
  have days : plan.daysFrom day = plan.daysFrom (day + 1) + 1 := by
    unfold SearchPlan.daysFrom
    omega
  rw [eventsFrom, days]
  rfl

theorem eventsFrom_of_lt {day : Int} (outside : plan.endDay < day) :
    eventsFrom service plan day = [] := by
  have days : plan.daysFrom day = 0 := by
    unfold SearchPlan.daysFrom
    omega
  rw [eventsFrom, days]
  rfl

/-- A part of an object that is read leaves what its next line delivers. -/
theorem resumeEvents_split {object : ArchiveObject} {line : Nat} {before : Predecessor}
    {consumed after : List (List Char)} (sized : isOversized object = false)
    (known : service.chainAt .genesis ((service.lines object).take line) = some before)
    (split : (service.lines object).drop line = consumed ++ after) :
    resumeEvents service plan object line =
        service.eventsOf plan before consumed ++
          resumeEvents service plan object (line + consumed.length) ∧
      service.chainAt .genesis ((service.lines object).take (line + consumed.length)) =
        service.chainAt before consumed := by
  have front : (service.lines object).take (line + consumed.length) =
      (service.lines object).take line ++ consumed := by
    rw [List.take_add, split, List.take_left]
  have back : (service.lines object).drop (line + consumed.length) = after := by
    rw [← List.drop_drop, split, List.drop_left]
  have chain : service.chainAt .genesis ((service.lines object).take (line + consumed.length)) =
      service.chainAt before consumed := by
    rw [SearchService.chainAt, front, predecessorAt_append]
    rw [SearchService.chainAt] at known
    rw [known, Option.bind_some]
    rfl
  have large : ¬ isOversized object = true := by
    rw [sized]
    exact Bool.false_ne_true
  refine ⟨?_, chain⟩
  rw [resumeEvents, if_neg large, known, resumeEvents, if_neg large, chain, back, split]
  exact eventsOfLines_append before consumed after

theorem resumeEvents_end {object : ArchiveObject} {line : Nat}
    (reached : (service.lines object).length ≤ line) :
    resumeEvents service plan object line = [] := by
  unfold resumeEvents
  split
  · rfl
  rw [List.drop_eq_nil_of_le reached]
  split
  · rfl
  · rfl

/-! ## Objects in order -/

theorem sorted_objectsAfter (day : Int) (afterKey : Option String) :
    (service.objectsAfter day afterKey).Pairwise fun first second => first.key < second.key := by
  cases afterKey with
  | none => exact (service.archive day).sorted
  | some marker => exact (service.archive day).sorted.filter _

theorem mem_objects_of_objectsAfter {day : Int} {afterKey : Option String} {object : ArchiveObject}
    (member : object ∈ service.objectsAfter day afterKey) :
    object ∈ (service.archive day).objects := by
  cases afterKey with
  | none => exact member
  | some marker => exact List.mem_of_mem_filter member

/-- In a sorted list, what stands before an object has smaller keys and what stands behind it
has larger ones. -/
theorem keys_around {front back : List ArchiveObject} {object : ArchiveObject}
    (sorted : (front ++ object :: back).Pairwise fun first second => first.key < second.key) :
    (∀ before ∈ front, before.key < object.key) ∧ ∀ after ∈ back, object.key < after.key := by
  obtain ⟨_, behind, across⟩ := List.pairwise_append.mp sorted
  exact ⟨fun before member => across before member object (List.mem_cons_self ..),
    (List.pairwise_cons.mp behind).1⟩

theorem dropWhile_lt_key {front back : List ArchiveObject} {object : ArchiveObject}
    (sorted : (front ++ object :: back).Pairwise fun first second => first.key < second.key) :
    (front ++ object :: back).dropWhile (fun other => decide (other.key < object.key)) =
      object :: back := by
  have smaller := (keys_around sorted).1
  rw [List.dropWhile_append_of_pos fun before member => decide_eq_true (smaller before member),
    List.dropWhile_cons, if_neg (by simp)]

/-- Behind the marker of an object stands what the listing has behind it. -/
theorem objectsAfter_marker {day : Int} {afterKey : Option String}
    {front back : List ArchiveObject} {object : ArchiveObject}
    (whole : service.objectsAfter day afterKey = front ++ object :: back) :
    service.objectsAfter day (some object.key) = back := by
  have sorted := @sorted_objectsAfter _ _ service day afterKey
  rw [whole] at sorted
  obtain ⟨smaller, larger⟩ := keys_around sorted
  have narrowed : service.objectsAfter day (some object.key) =
      (service.objectsAfter day afterKey).filter fun other => decide (object.key < other.key) := by
    cases afterKey with
    | none => rfl
    | some marker =>
        have passed : marker < object.key := by
          have member : object ∈ service.objectsAfter day (some marker) := by
            rw [whole]
            exact List.mem_append_right _ (List.mem_cons_self ..)
          exact of_decide_eq_true (List.mem_filter.mp member).2
        simp only [SearchService.objectsAfter]
        rw [List.filter_filter]
        apply List.filter_congr
        intro other _
        by_cases behind : object.key < other.key
        · rw [decide_eq_true behind, decide_eq_true (lt_trans passed behind)]
          rfl
        · rw [decide_eq_false behind]
          rfl
  have none : front.filter (fun other => decide (object.key < other.key)) = [] := by
    apply List.filter_eq_nil_iff.mpr
    intro before member
    rw [decide_eq_true_eq]
    exact lt_asymm (smaller before member)
  have all : back.filter (fun other => decide (object.key < other.key)) = back := by
    apply List.filter_eq_self.mpr
    exact fun after member => decide_eq_true (larger after member)
  rw [narrowed, whole, List.filter_append, none, List.filter_cons, if_neg (by simp), all,
    List.nil_append]

/-! ## Positions that a page leaves -/

/-- Where a day's scan stands: the objects behind the marker are those done with, those that
are listed still, and those that were not listed. -/
structure Listed (service : SearchService F E) (plan : SearchPlan) (listed : ListedDay)
    (done keys tail : List ArchiveObject) : Prop where
  whole : service.objectsAfter listed.day listed.afterKey = done ++ (keys ++ tail)
  within : (done ++ keys).length ≤ plan.maxObjectsScanned
  complete : listed.truncated = false → tail = []
  first : plan.startDay ≤ listed.day
  last : listed.day ≤ plan.endDay
  marker : ∀ marker ∈ listed.afterKey, keyBytes marker ≤ maxS3KeyBytes

/-- What is left behind the objects of a day that are done with. -/
def laterEvents (service : SearchService F E) (plan : SearchPlan) (day : Int)
    (objects : List ArchiveObject) : List E :=
  objects.flatMap (objectEvents service plan) ++ eventsFrom service plan (day + 1)

section Places

variable {listed : ListedDay} {done keys tail rest : List ArchiveObject} {object : ArchiveObject}

theorem Listed.next (place : Listed service plan listed done (object :: rest) tail) :
    Listed service plan listed (done ++ [object]) rest tail where
  whole := by
    rw [place.whole, List.append_assoc]
    rfl
  within := by
    have within := place.within
    rwa [List.append_assoc]
  complete := place.complete
  first := place.first
  last := place.last
  marker := place.marker

theorem Listed.short (place : Listed service plan listed done (object :: rest) tail) :
    keyBytes object.key ≤ maxS3KeyBytes := by
  apply (service.archive listed.day).named object
  apply @mem_objects_of_objectsAfter _ _ service listed.day listed.afterKey
  rw [place.whole]
  exact List.mem_append_right _ (List.mem_cons_self ..)

/-- A position at a listed object. -/
theorem remainingAt_object (place : Listed service plan listed done (object :: rest) tail)
    (line : Nat) :
    remainingAt service plan ⟨listed.day, some object.key, line, listed.afterKey⟩ =
      resumeEvents service plan object line ++
        laterEvents service plan listed.day (rest ++ tail) := by
  have sorted := @sorted_objectsAfter _ _ service listed.day listed.afterKey
  rw [place.whole] at sorted
  rw [remainingAt]
  dsimp only
  rw [place.whole, List.cons_append]
  rw [List.cons_append] at sorted
  rw [dropWhile_lt_key sorted, eventsFromKey, consumeFrom, if_pos rfl, List.append_assoc]
  rfl

theorem issued_object (place : Listed service plan listed done (object :: rest) tail) {line : Nat}
    (resumable : 0 < line → Resumable service object line) :
    Issued service plan ⟨listed.day, some object.key, line, listed.afterKey⟩ where
  first := place.first
  last := place.last
  marker := place.marker
  named := by
    intro key same
    cases same
    refine ⟨object, ?_, rfl, resumable⟩
    have within := place.within
    rw [place.whole, ← List.append_assoc, List.take_append, List.take_of_length_le within]
    apply List.mem_append_left
    exact List.mem_append_right _ (List.mem_cons_self ..)

/-- A position behind the last object that was listed. -/
theorem remainingAt_marker (place : Listed service plan listed done [object] tail) :
    remainingAt service plan ⟨listed.day, none, 0, some object.key⟩ =
        laterEvents service plan listed.day tail ∧
      Issued service plan ⟨listed.day, none, 0, some object.key⟩ := by
  refine ⟨?_, place.first, place.last, ?_, nofun⟩
  · rw [remainingAt]
    dsimp only
    rw [objectsAfter_marker place.whole]
    rfl
  · intro marker same
    cases same
    exact place.short

/-- The position at the beginning of a day. -/
theorem remainingAt_day {day : Int} (first : plan.startDay ≤ day) (last : day ≤ plan.endDay) :
    remainingAt service plan ⟨day, none, 0, none⟩ = eventsFrom service plan day ∧
      Issued service plan ⟨day, none, 0, none⟩ := by
  refine ⟨?_, first, last, nofun, nofun⟩
  rw [eventsFrom_of_le last]
  rfl

/-- The position behind an object leaves what stands behind the object. -/
theorem nextPosition_leaves (place : Listed service plan listed done (object :: rest) tail) :
    remainingOf service plan (nextPosition plan listed object rest) =
        laterEvents service plan listed.day (rest ++ tail) ∧
      ∀ position ∈ nextPosition plan listed object rest, Issued service plan position := by
  cases rest with
  | cons next more =>
      refine ⟨?_, ?_⟩
      · change remainingAt service plan ⟨listed.day, some next.key, 0, listed.afterKey⟩ = _
        rw [remainingAt_object place.next, resumeEvents_zero, laterEvents, laterEvents,
          List.cons_append, List.flatMap_cons, List.append_assoc]
      · intro position same
        cases same
        exact issued_object place.next nofun
  | nil =>
      unfold nextPosition
      dsimp only
      by_cases truncated : listed.truncated = true
      · rw [if_pos truncated]
        obtain ⟨remaining, issued⟩ := remainingAt_marker place
        exact ⟨remaining, fun position same => Option.some.inj same ▸ issued⟩
      · rw [if_neg truncated]
        have nothing := place.complete (Bool.eq_false_iff.mpr truncated)
        subst nothing
        by_cases later : listed.day + 1 ≤ plan.endDay
        · rw [if_pos later]
          have first := place.first
          obtain ⟨remaining, issued⟩ :=
            @remainingAt_day _ _ service plan (listed.day + 1) (by omega) later
          exact ⟨remaining, fun position same => Option.some.inj same ▸ issued⟩
        · rw [if_neg later]
          refine ⟨?_, nofun⟩
          rw [laterEvents, eventsFrom_of_lt (by omega)]
          rfl

end Places

/-! ## A page delivers its part -/

/-- A part of a scan has delivered what there was up to its end. -/
def Covers (service : SearchService F E) (plan : SearchPlan) (target rest : List E) :
    ScanEnd E → Prop
  | .finished state =>
      state.scan.events ++ rest = target ∧ state.scan.events.length < plan.limit
  | .stopped page =>
      page.state.scan.events ++ remainingOf service plan page.nextCursor = target ∧
        (∀ position ∈ page.nextCursor, Issued service plan position) ∧
        (page.truncated = false → page.nextCursor = none)

/-- The line before a position tells what the chain was there, as far as the lines behind it
can tell. -/
def seeded (service : SearchService F E) (object : ArchiveObject) (line : Nat) : Bool :=
  match service.chainAt .genesis ((service.lines object).take line) with
  | some before =>
      sameLinks service.codec service.ledgerKey (seedOf service (service.lines object) line) before
        ((service.lines object).drop line)
  | none => true

theorem sameLinks_self (codec : ArchiveCodec F E) (key : Option String) (before : Predecessor)
    (lines : List (List Char)) : sameLinks codec key before before lines = true := by
  induction lines with
  | nil => rfl
  | cons raw rest ih =>
      rw [sameLinks]
      cases verifiedLine codec key raw with
      | none => exact ih
      | some parsed => exact beq_self_eq_true _

theorem seeded_zero (service : SearchService F E) (object : ArchiveObject) :
    seeded service object 0 = true :=
  sameLinks_self _ _ _ _

section Objects

variable {listed : ListedDay} {done tail rest : List ArchiveObject} {object : ArchiveObject}
  {line : Nat} {state : SearchState E} {target : List E}

theorem resumable_zero (sized : isOversized object = false) : Resumable service object 0 :=
  ⟨Nat.zero_le _, sized, rfl⟩

/-- Reading an object delivers its lines, up to where the page stops. -/
theorem readObject_covers (place : Listed service plan listed done (object :: rest) tail)
    (resumable : Resumable service object line) (seed : seeded service object line = true)
    (few : state.scan.events.length < plan.limit)
    (reaches : state.scan.events ++ (resumeEvents service plan object line ++
      laterEvents service plan listed.day (rest ++ tail)) = target) :
    Covers service plan target (laterEvents service plan listed.day (rest ++ tail))
      (readObject service plan listed object rest line state) := by
  obtain ⟨inside, sized, linked⟩ := resumable
  obtain ⟨before, known⟩ := Option.isSome_iff_exists.mp linked
  rw [readObject]
  dsimp only
  set lines := service.lines object with linesEq
  set lastLine := min lines.length (line + maxLinesPerObject) with lastEq
  have lastInside : line ≤ lastLine := by omega
  obtain ⟨consumed, remaining, read⟩ := @searchLines_reads _ _ service plan line
    ((lines.take lastLine).drop line)
    { state with scan := { state.scan with
        before := seedOf service lines line, brokeChain := false } } few rfl
  have split : lines.drop line = consumed ++ (remaining ++ lines.drop lastLine) := by
    have short : line ≤ (lines.take lastLine).length := by
      rw [List.length_take]
      omega
    calc lines.drop line = (lines.take lastLine ++ lines.drop lastLine).drop line := by
          rw [List.take_append_drop]
      _ = (lines.take lastLine).drop line ++ lines.drop lastLine :=
          List.drop_append_of_le_length short
      _ = _ := by rw [read.split, List.append_assoc]
  have same : sameLinks service.codec service.ledgerKey (seedOf service lines line) before
      (consumed ++ (remaining ++ lines.drop lastLine)) = true := by
    rw [← split]
    rw [seeded, known] at seed
    exact seed
  obtain ⟨alike, linksAlike⟩ := @eventsOfLines_of_sameLinks _ _ service.codec service.ledgerKey
    (service.accepts plan) _ _ _ _ same
  obtain ⟨divided, chain⟩ := @resumeEvents_split _ _ service plan _ _ _ _ _ sized known split
  have reached : line + consumed.length ≤ lines.length := by
    have lengths := congrArg List.length split
    rw [List.length_drop, List.length_append] at lengths
    omega
  have count : remaining = [] → line + consumed.length = lastLine := by
    intro nothing
    have lengths := congrArg List.length read.split
    rw [nothing, List.append_nil, List.length_drop, List.length_take] at lengths
    omega
  have delivered := read.events
  have stop := read.stop
  generalize searchLines service plan line ((lines.take lastLine).drop line) _ = result
    at delivered stop ⊢
  obtain ⟨ending, after⟩ := result
  have stands : after.scan.events ++ (resumeEvents service plan object (line + consumed.length) ++
      laterEvents service plan listed.day (rest ++ tail)) = target := by
    have events : after.scan.events =
        state.scan.events ++ service.eventsOf plan before consumed :=
      delivered.trans (congrArg (state.scan.events ++ ·) alike)
    rw [events, ← reaches, divided]
    simp only [List.append_assoc]
  have resumes : (service.chainAt (seedOf service lines line) consumed).isSome = true →
      Resumable service object (line + consumed.length) := fun linked =>
    ⟨reached, sized, by rw [chain]; exact linksAlike.symm.trans linked⟩
  have stays : (service.chainAt (seedOf service lines line) consumed).isSome = true →
      Covers service plan target (laterEvents service plan listed.day (rest ++ tail))
        (.stopped ⟨true, some ⟨listed.day, some object.key, line + consumed.length,
          listed.afterKey⟩, after⟩) := by
    intro linked
    refine ⟨?_, ?_, nofun⟩
    · rw [← stands, ← remainingAt_object place]
      rfl
    · intro position same
      cases same
      exact issued_object place fun _ => resumes linked
  cases ending with
  | exhausted =>
      obtain ⟨nothing, linked, room⟩ := stop
      have counted := count nothing
      dsimp only
      by_cases capped : lastLine < lines.length
      · rw [if_pos capped, ← counted]
        exact stays linked
      · rw [if_neg capped]
        have ended : lines.length ≤ line + consumed.length := by omega
        rw [resumeEvents_end ended, List.nil_append] at stands
        exact ⟨stands, room⟩
  | broken =>
      obtain ⟨broken, room⟩ := stop
      have lost : service.chainAt .genesis (lines.take (line + consumed.length)) = none := by
        rw [chain, ← Option.not_isSome_iff_eq_none]
        intro linked
        have kept := linksAlike.trans linked
        rw [← SearchService.chainAt, broken] at kept
        cases kept
      have nothing : resumeEvents service plan object (line + consumed.length) = [] := by
        rw [resumeEvents, lost]
        split
        · rfl
        · rfl
      rw [nothing, List.nil_append] at stands
      exact ⟨stands, room⟩
  | expired stopped =>
      obtain ⟨same, linked⟩ := stop
      dsimp only
      rw [same]
      exact stays linked
  | full stopped =>
      obtain ⟨same, linked⟩ := stop
      dsimp only
      rw [same]
      by_cases more : line + consumed.length < lines.length
      · rw [if_pos more]
        exact stays linked
      · rw [if_neg more]
        have ended : lines.length ≤ line + consumed.length := by omega
        rw [resumeEvents_end ended, List.nil_append] at stands
        obtain ⟨remains, issued⟩ := nextPosition_leaves place
        refine ⟨?_, issued, ?_⟩
        · rw [← stands, ← remains]
        · exact fun complete => Option.not_isSome_iff_eq_none.mp (Bool.eq_false_iff.mp complete)

/-- An object delivers what it holds from its line on. -/
theorem searchObject_covers (place : Listed service plan listed done (object :: rest) tail)
    (resumable : 0 < line → Resumable service object line)
    (seed : seeded service object line = true)
    (opened : 0 < line → state.objectsScanned < plan.maxObjectsScanned ∧ 0 < state.ticks)
    (few : state.scan.events.length < plan.limit)
    (reaches : state.scan.events ++ (resumeEvents service plan object line ++
      laterEvents service plan listed.day (rest ++ tail)) = target) :
    Covers service plan target (laterEvents service plan listed.day (rest ++ tail))
      (searchObject service plan listed object rest line state) := by
  rw [searchObject]
  by_cases stops : plan.maxObjectsScanned ≤ state.objectsScanned ∨ state.ticks = 0
  · rw [if_pos stops]
    have start : line = 0 := by
      by_contra later
      have := opened (Nat.pos_of_ne_zero later)
      omega
    subst start
    refine ⟨?_, ?_, nofun⟩
    · rw [← reaches, ← remainingAt_object place]
      rfl
    · intro position same
      cases same
      exact issued_object place nofun
  · rw [if_neg stops]
    dsimp only
    by_cases large : maxObjectBytes < object.body.length
    · rw [if_pos large]
      have skipped : resumeEvents service plan object line = [] :=
        if_pos (decide_eq_true large)
      rw [skipped, List.nil_append] at reaches
      obtain ⟨remains, issued⟩ := nextPosition_leaves place
      exact ⟨by rw [← reaches, ← remains], issued, nofun⟩
    · rw [if_neg large]
      have sized : isOversized object = false := decide_eq_false large
      refine readObject_covers place ?_ seed ?_ ?_
      · by_cases later : 0 < line
        · exact resumable later
        · rw [Nat.eq_zero_of_not_pos later]
          exact resumable_zero sized
      · exact few
      · exact reaches

/-- Objects that are read from their first lines deliver what they hold. -/
theorem searchKeys_covers {keys : List ArchiveObject} {resume : Option (String × Nat)}
    (place : Listed service plan listed done keys tail)
    (fresh : ∀ object ∈ keys, consumeFrom resume object = 0)
    (few : state.scan.events.length < plan.limit)
    (reaches : state.scan.events ++ laterEvents service plan listed.day (keys ++ tail) = target) :
    Covers service plan target (laterEvents service plan listed.day tail)
      (searchKeys service plan listed resume keys state) := by
  induction keys generalizing done state with
  | nil => exact ⟨reaches, few⟩
  | cons object rest ih =>
      obtain ⟨start, later⟩ := List.forall_mem_cons.mp fresh
      have whole : laterEvents service plan listed.day (object :: rest ++ tail) =
          resumeEvents service plan object 0 ++
            laterEvents service plan listed.day (rest ++ tail) := by
        rw [resumeEvents_zero, laterEvents, laterEvents, List.cons_append, List.flatMap_cons,
          List.append_assoc]
      rw [whole] at reaches
      have head := @searchObject_covers _ _ service plan listed done tail rest object 0 state target
        place nofun (seeded_zero service object) nofun few reaches
      rw [searchKeys, start]
      generalize searchObject service plan listed object rest 0 state = result at head ⊢
      cases result with
      | stopped page => exact head
      | finished state =>
          obtain ⟨delivered, room⟩ := head
          exact ih place.next later room delivered

end Objects

/-- A listing holds the first keys that were left, as many as the budget at most, and all of
them unless it was cut short. -/
theorem listDayKeys_listed (served : Nat → Nat) (ticks calls : Nat)
    {found left : List ArchiveObject} (few : found.length ≤ plan.maxObjectsScanned) :
    ∃ tail, found ++ left = (listDayKeys plan served ticks calls found left).keys ++ tail ∧
      (listDayKeys plan served ticks calls found left).keys.length ≤ plan.maxObjectsScanned ∧
      ((listDayKeys plan served ticks calls found left).truncated = false → tail = []) := by
  induction ticks generalizing calls found left with
  | zero => exact ⟨left, rfl, few, nofun⟩
  | succ ticks ih =>
      rw [listDayKeys]
      by_cases full : plan.maxObjectsScanned ≤ found.length
      · rw [if_pos full]
        exact ⟨left, rfl, few, nofun⟩
      · rw [if_neg full]
        dsimp only
        set count := min (served calls) (max 1 (plan.maxObjectsScanned - found.length))
        by_cases whole : left.length ≤ count
        · rw [if_pos whole]
          refine ⟨[], (List.append_nil _).symm, ?_, fun _ => rfl⟩
          rw [List.length_append]
          omega
        · rw [if_neg whole]
          obtain ⟨tail, split, within, complete⟩ := @ih (calls + 1) (found ++ left.take count)
            (left.drop count) (by
              rw [List.length_append, List.length_take]
              omega)
          refine ⟨tail, ?_, within, complete⟩
          rw [← split, List.append_assoc, List.take_append_drop]

/-! ## Days -/

/-- What a day's scan keeps of the place its cursor names: the deadline has not passed when the
object is opened, and the seed tells the chain. -/
def keepsPlace (service : SearchService F E) (plan : SearchPlan) (served : Nat → Nat)
    (ticks calls : Nat) (position : CursorState) : Bool :=
  match position.key with
  | none => true
  | some key =>
      let listing := listDayKeys plan served (ticks - 1) calls []
        (service.objectsAfter position.day position.afterKey)
      decide (0 < ticks) && listing.keys.any fun object =>
        object.key == key && (position.line == 0 ||
          decide (0 < listing.ticks) && seeded service object position.line)

section Days

variable {state : SearchState E} {target : List E} {served : Nat → Nat} {day : Int}
  {afterKey : Option String} {resume : Option (String × Nat)}

/-- What comes behind the objects of a day, where they are all done with. -/
theorem finishDay_covers {listing : Listing} {tail : List ArchiveObject}
    (first : plan.startDay ≤ day) (last : day ≤ plan.endDay)
    (marker : ∀ marker ∈ afterKey, keyBytes marker ≤ maxS3KeyBytes)
    (whole : service.objectsAfter day afterKey = listing.keys ++ tail)
    (within : listing.keys.length ≤ plan.maxObjectsScanned)
    (complete : listing.truncated = false → tail = [])
    {result : ScanEnd E} :
    Covers service plan target (laterEvents service plan day tail) result →
    Covers service plan target (eventsFrom service plan (day + 1))
      (match result with
        | .stopped page => .stopped page
        | .finished state =>
            if listing.truncated then
              .stopped ⟨true, some ⟨day, none, 0, match listing.keys.getLast? with
                | some object => some object.key
                | none => afterKey⟩, state⟩
            else .finished state) := by
  intro covers
  cases result with
  | stopped page => exact covers
  | finished state =>
      obtain ⟨delivered, room⟩ := covers
      dsimp only
      by_cases truncated : listing.truncated = true
      · rw [if_pos truncated]
        cases ended : listing.keys.getLast? with
        | none =>
            rw [List.getLast?_eq_none_iff.mp ended, List.nil_append] at whole
            refine ⟨?_, ?_, nofun⟩
            · rw [← delivered, laterEvents, ← whole]
              rfl
            · intro position same
              cases same
              exact ⟨first, last, marker, nofun⟩
        | some object =>
            obtain ⟨before, same⟩ := List.getLast?_eq_some_iff.mp ended
            rw [same] at whole within
            have place : Listed service plan ⟨day, afterKey, listing.truncated⟩ before [object]
                tail := ⟨by rw [whole, List.append_assoc], within, complete, first, last, marker⟩
            obtain ⟨remains, issued⟩ := remainingAt_marker place
            refine ⟨?_, ?_, nofun⟩
            · rw [← delivered, ← remains]
              rfl
            · intro position same
              cases same
              exact issued
      · rw [if_neg truncated]
        rw [complete (Bool.eq_false_iff.mpr truncated)] at delivered
        exact ⟨delivered, room⟩

/-- A day that is scanned from its marker on delivers what it holds behind it. -/
theorem searchDay_covers (first : plan.startDay ≤ day) (last : day ≤ plan.endDay)
    (marker : ∀ marker ∈ afterKey, keyBytes marker ≤ maxS3KeyBytes)
    (few : state.scan.events.length < plan.limit)
    (reaches : state.scan.events ++
      laterEvents service plan day (service.objectsAfter day afterKey) = target) :
    Covers service plan target (eventsFrom service plan (day + 1))
      (searchDay service plan served day none afterKey state) := by
  rw [searchDay]
  cases ticking : state.ticks with
  | zero =>
      refine ⟨?_, ?_, nofun⟩
      · rw [← reaches]
        rfl
      · intro position same
        cases same
        exact ⟨first, last, marker, nofun⟩
  | succ ticks =>
      obtain ⟨tail, whole, within, complete⟩ := @listDayKeys_listed plan served ticks
        state.calls [] (service.objectsAfter day afterKey) (Nat.zero_le _)
      rw [List.nil_append] at whole
      have place : Listed service plan ⟨day, afterKey, (listDayKeys plan served ticks state.calls []
          (service.objectsAfter day afterKey)).truncated⟩ [] (listDayKeys plan served ticks
          state.calls [] (service.objectsAfter day afterKey)).keys tail :=
        ⟨whole, within, complete, first, last, marker⟩
      dsimp only
      apply finishDay_covers first last marker whole within complete
      refine searchKeys_covers place (fun _ _ => rfl) few ?_
      exact (congrArg (fun objects => state.scan.events ++ laterEvents service plan day objects)
        whole.symm).trans reaches

/-- Days that are scanned from their beginnings deliver what they hold. -/
theorem searchDays_covers {days : Nat} (count : days = plan.daysFrom day)
    (first : plan.startDay ≤ day) (few : state.scan.events.length < plan.limit)
    (reaches : state.scan.events ++ eventsFrom service plan day = target) :
    Covers service plan target [] (searchDays service plan served days day none none state) := by
  induction days generalizing day state with
  | zero =>
      have outside : plan.endDay < day := by
        unfold SearchPlan.daysFrom at count
        omega
      rw [eventsFrom_of_lt outside] at reaches
      exact ⟨reaches, few⟩
  | succ days ih =>
      have inside : day ≤ plan.endDay := by
        unfold SearchPlan.daysFrom at count
        omega
      rw [eventsFrom_of_le inside] at reaches
      have head := @searchDay_covers _ _ service plan state target served day none first inside
        nofun few reaches
      rw [searchDays]
      generalize searchDay service plan served day none none state = result at head ⊢
      cases result with
      | stopped page => exact head
      | finished state =>
          obtain ⟨delivered, room⟩ := head
          refine ih ?_ (by omega) room delivered
          unfold SearchPlan.daysFrom at count ⊢
          omega

/-- An object is found where it stands among others of different keys. -/
theorem startAt_named {front back : List ArchiveObject} {object : ArchiveObject} {line : Nat}
    (sorted : (front ++ object :: back).Pairwise fun first second => first.key < second.key) :
    startAt (some (object.key, line)) (front ++ object :: back) = object :: back := by
  have held : ((front ++ object :: back).any fun other => other.key == object.key) = true :=
    List.any_eq_true.mpr ⟨object, List.mem_append_right _ (List.mem_cons_self ..),
      beq_self_eq_true _⟩
  have smaller := (keys_around sorted).1
  rw [startAt, if_pos held, List.dropWhile_append_of_pos fun before member =>
      bne_iff_ne.mpr (smaller before member).ne,
    List.dropWhile_cons, if_neg (by simp)]

theorem eq_of_key_eq {front back : List ArchiveObject} {object other : ArchiveObject}
    (sorted : (front ++ object :: back).Pairwise fun first second => first.key < second.key)
    (member : other ∈ front ++ object :: back) (same : other.key = object.key) :
    other = object := by
  obtain ⟨smaller, larger⟩ := keys_around sorted
  rcases List.mem_append.mp member with before | behind
  · exact absurd same (smaller other before).ne
  · rcases List.mem_cons.mp behind with rfl | after
    · rfl
    · exact absurd same (larger other after).ne'

/-- A day that is scanned from the place a cursor names delivers what is left of it, where the
scan keeps the place. -/
theorem searchDay_resumed {position : CursorState} {key : String} (named : position.key = some key)
    (issued : Issued service plan position)
    (keeps : keepsPlace service plan served state.ticks state.calls position = true)
    (untouched : state.objectsScanned < plan.maxObjectsScanned)
    (few : state.scan.events.length < plan.limit)
    (reaches : state.scan.events ++ remainingAt service plan position = target) :
    Covers service plan target (eventsFrom service plan (position.day + 1))
      (searchDay service plan served position.day (some (key, position.line)) position.afterKey
        state) := by
  unfold keepsPlace at keeps
  rw [named] at keeps
  dsimp only at keeps
  rw [Bool.and_eq_true, decide_eq_true_eq] at keeps
  obtain ⟨ticking, found⟩ := keeps
  obtain ⟨ticks, same⟩ := Nat.exists_eq_succ_of_ne_zero (Nat.ne_of_gt ticking)
  rw [same, Nat.succ_eq_add_one, Nat.add_sub_cancel] at found
  obtain ⟨tail, whole, within, complete⟩ := @listDayKeys_listed plan served ticks
    state.calls [] (service.objectsAfter position.day position.afterKey) (Nat.zero_le _)
  rw [List.nil_append] at whole
  rw [searchDay, same]
  dsimp only
  apply finishDay_covers issued.first issued.last issued.marker whole within complete
  generalize listDayKeys plan served ticks state.calls []
    (service.objectsAfter position.day position.afterKey) = listing
    at found whole within complete ⊢
  obtain ⟨object, member, match_⟩ := List.any_eq_true.mp found
  rw [Bool.and_eq_true, beq_iff_eq] at match_
  obtain ⟨rfl, opened⟩ := match_
  obtain ⟨done, rest, split⟩ := List.append_of_mem member
  have sorted := @sorted_objectsAfter _ _ service position.day position.afterKey
  rw [whole, split, List.append_assoc] at sorted
  have front : (done ++ object :: rest).Pairwise fun first second => first.key < second.key := by
    rw [← List.append_assoc] at sorted
    exact (List.pairwise_append.mp sorted).1
  have place : Listed service plan ⟨position.day, position.afterKey, listing.truncated⟩ done
      (object :: rest) tail :=
    ⟨by rw [whole, split, List.append_assoc], split ▸ within, complete, issued.first, issued.last,
      issued.marker⟩
  have resumable : 0 < position.line → Resumable service object position.line := by
    obtain ⟨other, held, sameKey, resumes⟩ := issued.named _ named
    have among := List.mem_of_mem_take held
    rw [whole, split, List.append_assoc] at among
    rw [eq_of_key_eq sorted among sameKey] at resumes
    exact resumes
  have opens : position.line = 0 ∨
      (0 < listing.ticks ∧ seeded service object position.line = true) := by
    rwa [Bool.or_eq_true, beq_iff_eq, Bool.and_eq_true, decide_eq_true_eq] at opened
  have seed : seeded service object position.line = true := by
    rcases opens with start | ⟨_, seed⟩
    · rw [start]
      exact seeded_zero service object
    · exact seed
  have left : remainingAt service plan position = resumeEvents service plan object position.line ++
      laterEvents service plan position.day (rest ++ tail) := by
    have same : position = ⟨position.day, some object.key, position.line, position.afterKey⟩ := by
      rw [← named]
    rw [same]
    exact remainingAt_object place position.line
  rw [left] at reaches
  have head := @searchObject_covers _ _ service plan _ done tail rest object position.line
    { state with ticks := listing.ticks, calls := listing.calls } target place resumable seed
    (fun later => ⟨untouched, by
      rcases opens with start | ⟨ticking, _⟩
      · omega
      · exact ticking⟩) few reaches
  rw [split, startAt_named front, searchKeys]
  have own : consumeFrom (some (object.key, position.line)) object = position.line := if_pos rfl
  rw [own]
  generalize searchObject service plan _ object rest position.line _ = result at head ⊢
  cases result with
  | stopped page => exact head
  | finished state =>
      obtain ⟨delivered, room⟩ := head
      refine searchKeys_covers place.next ?_ room delivered
      intro other member
      have larger := (keys_around sorted).2 other (List.mem_append_left _ member)
      exact if_neg larger.ne'

end Days

/-! ## Pages -/

section Pages

theorem startDay_le_endDay (plan : SearchPlan) : plan.startDay ≤ plan.endDay := by
  have ordered : dayOfInstant plan.filters.startTime ≤ dayOfInstant plan.filters.endTime :=
    Int.ediv_le_ediv (by decide) (le_of_lt plan.windowOrdered)
  have padded := plan.padPositive
  unfold SearchPlan.startDay SearchPlan.endDay
  omega

theorem issued_firstPosition (service : SearchService F E) (plan : SearchPlan) :
    Issued service plan plan.firstPosition :=
  ⟨le_rfl, startDay_le_endDay plan, nofun, nofun⟩

theorem remainingAt_firstPosition (service : SearchService F E) (plan : SearchPlan) :
    remainingAt service plan plan.firstPosition = archiveEvents service plan :=
  (remainingAt_day le_rfl (startDay_le_endDay plan)).1

/-- **A page delivers its part**: with what is left where it goes on, all that was left. -/
theorem searchFrom_delivers {position : CursorState} {clock : PageClock}
    (issued : Issued service plan position)
    (keeps : keepsPlace service plan clock.served clock.ticks 0 position = true) :
    (searchFrom service plan clock position).state.scan.events ++
        remainingOf service plan (searchFrom service plan clock position).nextCursor =
          remainingAt service plan position ∧
      (∀ next ∈ (searchFrom service plan clock position).nextCursor, Issued service plan next) ∧
      ((searchFrom service plan clock position).truncated = false →
        (searchFrom service plan clock position).nextCursor = none) := by
  have inside := issued.last
  have days : plan.daysFrom position.day = plan.daysFrom (position.day + 1) + 1 := by
    unfold SearchPlan.daysFrom
    omega
  have head : Covers service plan (remainingAt service plan position)
      (eventsFrom service plan (position.day + 1))
      (searchDay service plan clock.served position.day
        (position.key.map fun key => (key, position.line)) position.afterKey
        { ticks := clock.ticks }) := by
    cases named : position.key with
    | none =>
        refine searchDay_covers issued.first issued.last issued.marker ?_ ?_
        · exact plan.limitPositive
        · rw [remainingAt, named]
          rfl
    | some key =>
        exact searchDay_resumed named issued keeps plan.objectsPositive plan.limitPositive rfl
  have scanned : Covers service plan (remainingAt service plan position) []
      (searchDays service plan clock.served (plan.daysFrom position.day) position.day
        (position.key.map fun key => (key, position.line)) position.afterKey
        { ticks := clock.ticks }) := by
    rw [days, searchDays]
    generalize searchDay service plan clock.served position.day _ position.afterKey _ = result
      at head ⊢
    cases result with
    | stopped page => exact head
    | finished state =>
        obtain ⟨delivered, room⟩ := head
        have first := issued.first
        exact searchDays_covers rfl (by omega) room delivered
  unfold searchFrom
  generalize searchDays service plan clock.served (plan.daysFrom position.day) position.day _
    position.afterKey _ = result at scanned ⊢
  cases result with
  | stopped page => exact scanned
  | finished state => exact ⟨scanned.1, nofun, fun _ => rfl⟩

/-- A cursor that a page leaves is taken as the position it is of. -/
theorem resumePosition_encodeCursor {position : CursorState}
    (issued : Issued service plan position) :
    resumePosition service plan
      (some (encodeCursor service.codec.hashing.format position plan.fingerprint)) =
        .ok position := by
  have opened := @openCursor_encodeCursor _ service.codec.hashing.format position
    plan.fingerprint
  have written : encodeCursor service.codec.hashing.format position plan.fingerprint ≠ "" := by
    intro empty
    rw [empty] at opened
    cases opened
  have date : IsDate position.day := plan.dates _ issued.first issued.last
  have within : ¬ (position.day < plan.startDay ∨ plan.endDay < position.day) := by
    have first := issued.first
    have last := issued.last
    omega
  rw [resumePosition, if_neg written, decodeCursor_encodeCursor date issued.marker]
  exact if_neg within

end Pages

/-! ## Runs of pages -/

/-- Where a reader of the archive stands: before a request, or through. -/
inductive PagingState where
  | next (cursor : Option String)
  | complete
  deriving DecidableEq, Repr

/-- One request with the cursor of the page before. -/
def pageStep (service : SearchService F E) (plan : SearchPlan) (state : PagingState)
    (clock : PageClock) : Option (PagingState × List (WormSearchResult E)) :=
  match state with
  | .complete => none
  | .next cursor =>
      match searchWormArchive service plan clock cursor with
      | .error _ => none
      | .ok page =>
          some (match page.nextCursor with
            | some text => .next (some text)
            | none => .complete, [page])

/-- The page of a request keeps the place its cursor names. -/
def pageKeepsPlace (service : SearchService F E) (plan : SearchPlan) (state : PagingState)
    (clock : PageClock) : Bool :=
  match state with
  | .complete => true
  | .next cursor =>
      match resumePosition service plan cursor with
      | .error _ => true
      | .ok position => keepsPlace service plan clock.served clock.ticks 0 position

/-- What the pages of a run have delivered. -/
def delivered (pages : List (WormSearchResult E)) : List E :=
  pages.flatMap WormSearchResult.events

/-- A run of pages has delivered the beginning of the archive's list, and all of it where it is
complete; a page that says it is not truncated is the last, and the cursor that is left is
taken. The list is the one that a request with other bounds returns in one page. -/
structure DeliversOnce (service : SearchService F E) (plan : SearchPlan) (final : PagingState)
    (pages : List (WormSearchResult E)) : Prop where
  begun : delivered pages <+: archiveEvents service plan
  complete : final = .complete → delivered pages = archiveEvents service plan
  honest : ∀ page ∈ pages, page.truncated = false → final = .complete
  taken : ∀ cursor, final = .next cursor → ∀ clock,
    ∃ page, searchWormArchive service plan clock cursor = .ok page
  unbounded : ∀ other : SearchPlan, other.filters = plan.filters →
    other.padDays = plan.padDays → ∀ clock page,
      searchWormArchive service other clock none = .ok page → page.nextCursor = none →
        page.events = archiveEvents service plan

/-- What is left to deliver to a reader. -/
def LeftAt (service : SearchService F E) (plan : SearchPlan) (state : PagingState)
    (left : List E) : Prop :=
  match state with
  | .complete => left = []
  | .next cursor => ∃ position, resumePosition service plan cursor = .ok position ∧
      Issued service plan position ∧ remainingAt service plan position = left

/-- One page moves what it delivers from what is left. -/
theorem leftAt_step {state next : PagingState} {clock : PageClock}
    {pages : List (WormSearchResult E)} {left : List E}
    (holds : LeftAt service plan state left)
    (keeps : pageKeepsPlace service plan state clock = true)
    (stepped : pageStep service plan state clock = some (next, pages)) :
    (∃ after, left = delivered pages ++ after ∧ LeftAt service plan next after) ∧
      ∀ page ∈ pages, page.truncated = false → next = .complete := by
  cases state with
  | complete => cases stepped
  | next cursor =>
      obtain ⟨position, resumed, issued, rfl⟩ := holds
      rw [pageKeepsPlace, resumed] at keeps
      obtain ⟨covered, goesOn, honest⟩ := searchFrom_delivers issued keeps
      have served : searchWormArchive service plan clock cursor =
          .ok (finalize service plan (searchFrom service plan clock position)) := by
        rw [searchWormArchive, resumed]
        rfl
      rw [pageStep, served] at stepped
      dsimp only at stepped
      generalize searchFrom service plan clock position = page at covered goesOn honest stepped
      obtain ⟨truncated, cursor, state⟩ := page
      cases cursor with
      | none =>
          obtain ⟨rfl, rfl⟩ := Prod.mk.inj (Option.some.inj stepped)
          refine ⟨⟨[], ?_, rfl⟩, fun _ _ _ => rfl⟩
          rw [← covered]
          exact congrArg (· ++ []) (List.append_nil _).symm
      | some cursor =>
          obtain ⟨rfl, rfl⟩ := Prod.mk.inj (Option.some.inj stepped)
          refine ⟨⟨remainingAt service plan cursor, ?_, cursor,
            resumePosition_encodeCursor (goesOn cursor rfl), goesOn cursor rfl, rfl⟩, ?_⟩
          · rw [← covered]
            exact congrArg (· ++ _) (List.append_nil _).symm
          · intro page member complete
            cases List.mem_singleton.mp member
            cases honest complete

theorem runSteps_complete {service : SearchService F E} {plan : SearchPlan}
    {clocks : List PageClock} {final : PagingState} {pages : List (WormSearchResult E)}
    (ran : runSteps (pageStep service plan) .complete clocks = some (final, pages)) :
    final = .complete ∧ pages = [] := by
  cases clocks with
  | nil =>
      cases ran
      exact ⟨rfl, rfl⟩
  | cons clock rest => cases ran

/-- A run moves what its pages deliver from what is left. -/
theorem leftAt_run {state final : PagingState} {clocks : List PageClock}
    {pages : List (WormSearchResult E)} {left : List E} (holds : LeftAt service plan state left)
    (keeps : StepsMeet (pageStep service plan)
      (fun state clock => pageKeepsPlace service plan state clock = true) state clocks)
    (ran : runSteps (pageStep service plan) state clocks = some (final, pages)) :
    (∃ after, left = delivered pages ++ after ∧ LeftAt service plan final after) ∧
      ∀ page ∈ pages, page.truncated = false → final = .complete := by
  induction clocks generalizing state pages left with
  | nil =>
      cases ran
      exact ⟨⟨left, rfl, holds⟩, nofun⟩
  | cons clock rest ih =>
      obtain ⟨next, page, more, stepped, ranRest, rfl⟩ := runSteps_cons_eq_some_iff.mp ran
      obtain ⟨keep, keeps⟩ := keeps
      obtain ⟨⟨between, split, left⟩, honest⟩ := leftAt_step holds keep stepped
      obtain ⟨⟨after, splitRest, last⟩, honestRest⟩ := ih left (keeps _ stepped) ranRest
      refine ⟨⟨after, ?_, last⟩, ?_⟩
      · have joined : delivered (page ++ more) = delivered page ++ delivered more :=
          List.flatMap_append
        rw [split, splitRest, joined, List.append_assoc]
      · intro one member complete
        rcases List.mem_append.mp member with now | later
        · rw [honest one now complete] at ranRest
          exact (runSteps_complete ranRest).1
        · exact honestRest one later complete

/-- The list of the archive depends on the filters and the window only. -/
theorem archiveEvents_congr {other : SearchPlan} (filters : other.filters = plan.filters)
    (padDays : other.padDays = plan.padDays) :
    archiveEvents service other = archiveEvents service plan := by
  have accepts : service.accepts other = service.accepts plan := by
    unfold SearchService.accepts
    rw [filters]
  have objects : objectEvents service other = objectEvents service plan := by
    unfold objectEvents SearchService.eventsOf
    rw [accepts]
  have days : ∀ count day, eventsOfDays service other count day =
      eventsOfDays service plan count day := by
    intro count
    induction count with
    | zero => exact fun _ => rfl
    | succ count ih =>
        intro day
        rw [eventsOfDays, eventsOfDays, objects, ih]
  have first : other.startDay = plan.startDay := by
    unfold SearchPlan.startDay
    rw [filters, padDays]
  have count : other.daysFrom other.startDay = plan.daysFrom plan.startDay := by
    unfold SearchPlan.daysFrom SearchPlan.endDay
    rw [first, filters, padDays]
  rw [archiveEvents, archiveEvents, eventsFrom, eventsFrom, count, first, days]

theorem leftAt_first (service : SearchService F E) (plan : SearchPlan) :
    LeftAt service plan (.next none) (archiveEvents service plan) :=
  ⟨_, rfl, issued_firstPosition service plan, remainingAt_firstPosition service plan⟩

/-- A request that is answered in one page returns the whole list. -/
theorem events_of_unbounded {clock : PageClock} {page : WormSearchResult E}
    (answered : searchWormArchive service plan clock none = .ok page)
    (whole : page.nextCursor = none) : page.events = archiveEvents service plan := by
  have stepped : pageStep service plan (.next none) clock = some (.complete, [page]) := by
    rw [pageStep, answered]
    dsimp only
    rw [whole]
  obtain ⟨⟨after, split, nothing⟩, _⟩ := leftAt_step (leftAt_first service plan) rfl stepped
  cases nothing
  rw [split, List.append_nil]
  exact (List.append_nil _).symm

/-- **Pages deliver the archive once**, in its order, while each keeps the place its cursor
names. -/
theorem deliversOnce_of_keepsPlace {service : SearchService F E} {plan : SearchPlan}
    {clocks : List PageClock} {final : PagingState} {pages : List (WormSearchResult E)}
    (keeps : StepsMeet (pageStep service plan)
      (fun state clock => pageKeepsPlace service plan state clock = true) (.next none) clocks)
    (ran : runSteps (pageStep service plan) (.next none) clocks = some (final, pages)) :
    DeliversOnce service plan final pages := by
  obtain ⟨⟨after, split, left⟩, honest⟩ := leftAt_run (leftAt_first service plan) keeps ran
  refine ⟨⟨after, split.symm⟩, ?_, honest, ?_, ?_⟩
  · rintro rfl
    cases left
    rw [split, List.append_nil]
  · rintro cursor rfl clock
    obtain ⟨position, resumed, _⟩ := left
    refine ⟨finalize service plan (searchFrom service plan clock position), ?_⟩
    rw [searchWormArchive, resumed]
    rfl
  · intro other filters padDays clock page answered whole
    rw [← archiveEvents_congr filters padDays]
    exact events_of_unbounded answered whole

/-! ## Pages of one event -/

/-- A line with an event that fills the page ends the scan. -/
theorem searchLines_fill {lineNo : Nat} {raw : List Char} {rest : List (List Char)}
    {state ready : SearchState E} {next : Predecessor} {event : E}
    (timed : checkLine lineNo state = some ready)
    (read : readLine service.codec service.ledgerKey ready.scan.before raw =
      .linked next (some event))
    (taken : service.accepts plan event = true) (whole : ready.scan.brokeChain = false)
    (full : plan.limit ≤ ready.scan.events.length + 1) :
    ∃ final, searchLines service plan lineNo (raw :: rest) state = (.full (lineNo + 1), final) ∧
      final.scan.events = ready.scan.events ++ [event] := by
  have added : ready.scan.addMatching (service.accepts plan) (.linked next (some event)) =
      ready.scan.add (.linked next (some event)) := if_pos taken
  have length : (ready.scan.add (.linked next (some event))).events.length =
      ready.scan.events.length + 1 := List.length_append
  refine ⟨{ ready with scan := ready.scan.add (.linked next (some event)) }, ?_, rfl⟩
  have unbroken : ¬ (ready.scan.add (.linked next (some event))).brokeChain = true := by
    rw [SegmentScan.add, whole]
    exact Bool.false_ne_true
  rw [searchLines, timed]
  dsimp only
  rw [read, added, if_neg unbroken, if_pos]
  rw [length]
  exact ⟨Nat.lt_succ_self _, full⟩

/-- An object whose next line fills the page is left there, or behind its end. -/
theorem readObject_fill {listed : ListedDay} {object : ArchiveObject} {others : List ArchiveObject}
    {front rest : List (List Char)} {raw : List Char} {state : SearchState E} {ticks : Nat}
    {next : Predecessor} {event : E} (lines : service.lines object = front ++ raw :: rest)
    (short : (service.lines object).length ≤ maxLinesPerObject)
    (timed : ∀ scan : SegmentScan E, checkLine front.length { state with scan := scan } =
      some { state with scan := scan, ticks := ticks })
    (read : readLine service.codec service.ledgerKey
      (seedOf service (service.lines object) front.length) raw = .linked next (some event))
    (taken : service.accepts plan event = true)
    (full : plan.limit ≤ state.scan.events.length + 1) :
    ∃ page, readObject service plan listed object others front.length state = .stopped page ∧
      page.state.scan.events = state.scan.events ++ [event] ∧
      page.nextCursor =
        if rest = [] then nextPosition plan listed object others
        else some ⟨listed.day, some object.key, front.length + 1, listed.afterKey⟩ := by
  have last : min (service.lines object).length (front.length + maxLinesPerObject) =
      (service.lines object).length := by omega
  have left : ((service.lines object).take (service.lines object).length).drop front.length =
      raw :: rest := by
    rw [List.take_length, lines, List.drop_left]
  obtain ⟨final, searched, events⟩ := @searchLines_fill _ _ service plan front.length raw rest _ _
    _ _ (timed { state.scan with
      before := seedOf service (service.lines object) front.length, brokeChain := false })
    read taken rfl full
  have ended : readObject service plan listed object others front.length state =
      .stopped
        ⟨(if front.length + 1 < (service.lines object).length then
            some ⟨listed.day, some object.key, front.length + 1, listed.afterKey⟩
          else nextPosition plan listed object others).isSome,
          if front.length + 1 < (service.lines object).length then
            some ⟨listed.day, some object.key, front.length + 1, listed.afterKey⟩
          else nextPosition plan listed object others, final⟩ := by
    rw [readObject]
    dsimp only
    rw [last, left, searched]
  refine ⟨_, ended, events, ?_⟩
  dsimp only
  rw [lines, List.length_append, List.length_cons]
  cases rest with
  | nil => rw [if_neg (by simp), if_pos rfl]
  | cons second more => rw [if_pos (by simp), if_neg (List.cons_ne_nil _ _)]

theorem listDayKeys_whole {served : Nat → Nat} {ticks calls : Nat} {left : List ArchiveObject}
    (within : left.length ≤ 1) (serves : 1 ≤ served calls) :
    listDayKeys plan served (ticks + 1) calls [] left = ⟨left, false, ticks, calls + 1⟩ := by
  have some := plan.objectsPositive
  have room : ¬ plan.maxObjectsScanned ≤ ([] : List ArchiveObject).length := by
    rw [List.length_nil]
    omega
  have fits : left.length ≤
      min (served calls) (max 1 (plan.maxObjectsScanned - ([] : List ArchiveObject).length)) := by
    omega
  rw [listDayKeys, if_neg room]
  dsimp only
  rw [if_pos fits, List.nil_append]

/-- A day without objects takes two checks of the deadline. -/
theorem searchDay_empty {served : Nat → Nat} {day : Int} {state : SearchState E} {ticks : Nat}
    (empty : (service.archive day).objects = []) (time : state.ticks = ticks + 2)
    (serves : 1 ≤ served state.calls) :
    searchDay service plan served day none none state =
      .finished { state with ticks := ticks, calls := state.calls + 1 } := by
  have listing := @listDayKeys_whole plan served ticks state.calls [] (Nat.zero_le _) serves
  rw [searchDay, time, SearchService.objectsAfter, empty]
  dsimp only
  rw [listing]
  rfl

/-- A day with one object is what that object comes to. -/
theorem searchDay_single {served : Nat → Nat} {day : Int} {resume : Option (String × Nat)}
    {object : ArchiveObject} {state : SearchState E} {page : SearchPage E} {ticks : Nat}
    (single : (service.archive day).objects = [object]) (time : state.ticks = ticks + 3)
    (serves : 1 ≤ served state.calls) (starts : startAt resume [object] = [object])
    (room : state.objectsScanned < plan.maxObjectsScanned) (sized : isOversized object = false)
    (read : readObject service plan ⟨day, none, false⟩ object [] (consumeFrom resume object)
      { state with
        ticks := ticks, calls := state.calls + 1, objectsScanned := state.objectsScanned + 1 } =
      .stopped page) :
    searchDay service plan served day resume none state = .stopped page := by
  have listing := @listDayKeys_whole plan served (ticks + 1) state.calls [object] le_rfl serves
  have going : ¬ (plan.maxObjectsScanned ≤ state.objectsScanned ∨ ticks + 1 = 0) := by omega
  rw [searchDay, time, SearchService.objectsAfter, single]
  dsimp only
  rw [listing]
  dsimp only
  rw [starts, searchKeys, searchObject]
  dsimp only
  rw [if_neg going, if_neg (of_decide_eq_false sized)]
  rw [Nat.add_sub_cancel, read]

theorem eventsOfLines_linked {codec : ArchiveCodec F E} {key : Option String} {accepts : E → Bool}
    {before next : Predecessor} {raw : List Char} {rest : List (List Char)} {event : E}
    (read : readLine codec key before raw = .linked next (some event))
    (taken : accepts event = true) :
    eventsOfLines codec key accepts before (raw :: rest) =
      event :: eventsOfLines codec key accepts next rest := by
  rw [eventsOfLines, read]
  dsimp only [LineOutcome.delivered, LineOutcome.next]
  rw [Option.toList_some, List.filter_cons_of_pos taken, List.filter_nil, List.singleton_append]

section Scanned

variable {served : Nat → Nat} {days : Nat} {day : Int} {resume : Option (String × Nat)}
  {afterKey : Option String} {state next : SearchState E} {page : SearchPage E}
  {clock : PageClock} {position : CursorState}

theorem searchDays_of_stopped
    (stopped : searchDay service plan served day resume afterKey state = .stopped page) :
    searchDays service plan served (days + 1) day resume afterKey state = .stopped page := by
  rw [searchDays, stopped]

theorem searchDays_of_finished
    (finished : searchDay service plan served day resume afterKey state = .finished next) :
    searchDays service plan served (days + 1) day resume afterKey state =
      searchDays service plan served days (day + 1) none none next := by
  rw [searchDays, finished]

theorem searchFrom_of_stopped (count : plan.daysFrom position.day = days)
    (stopped : searchDays service plan clock.served days position.day
      (position.key.map fun key => (key, position.line)) position.afterKey
      { ticks := clock.ticks } = .stopped page) :
    searchFrom service plan clock position = page := by
  rw [searchFrom, count, stopped]

theorem searchFrom_of_finished (count : plan.daysFrom position.day = days)
    (finished : searchDays service plan clock.served days position.day
      (position.key.map fun key => (key, position.line)) position.afterKey
      { ticks := clock.ticks } = .finished next) :
    searchFrom service plan clock position = ⟨false, none, next⟩ := by
  rw [searchFrom, count, finished]

end Scanned

/-! ## Two configuration changes in one segment -/

/-- A digest for short archives. -/
def checksum (text : List Char) : String :=
  toString (text.foldl (fun sum letter => (sum * 31 + letter.toNat) % 4294967296) 7)

/-- Staged configuration changes, archived under short digests. -/
def shortCodec : ArchiveCodec Empty String :=
  { configChangeCodec with
    hashing := ⟨⟨Empty.elim, fun _ => none⟩, checksum, fun _ => checksum⟩ }

/-- The day of the only segment. -/
def segmentDay : Int := dayNumber 2026 8 10

/-- An archive of one segment with two changes in it. -/
def shortArchive : SearchService Empty String where
  codec := shortCodec
  ledgerKey := none
  view _ := ⟨midnight segmentDay + 1, "config.governance", none, some "ops"⟩
  intOf _ := none
  archive day :=
    if day = segmentDay then
      { objects := [⟨"audit/2026/08/10/20260810T120000-000000.jsonl",
          buildSegmentBody shortCodec none ["raise the limit", "lower the limit"]⟩]
        sorted := List.pairwise_singleton _ _
        named := by decide }
    else ⟨[], List.Pairwise.nil, nofun⟩

/-- The request for that day, one event a page. -/
def shortPlan : SearchPlan where
  filters := { startTime := midnight segmentDay, endTime := midnight segmentDay + 2 }
  fingerprint := "0f0f0f0f0f0f0f0f"
  limit := 1
  maxObjectsScanned := 8
  padDays := 1
  windowOrdered := by decide
  limitPositive := by decide
  objectsPositive := by decide
  padPositive := by decide
  dates := by
    intro day first last
    have start : dayOfInstant (midnight segmentDay) = 739837 := by decide
    have finish : dayOfInstant (midnight segmentDay + 2) = 739837 := by decide
    rw [start] at first
    rw [finish] at last
    have days : day = 739836 ∨ day = 739837 ∨ day = 739838 := by omega
    rcases days with rfl | rfl | rfl
    all_goals exact ⟨by decide, by decide⟩

/-- A page that has time enough. -/
def leisurely : PageClock := ⟨100, fun _ => 1000⟩

/-- A page whose deadline has passed before it begins. -/
def hurried : PageClock := ⟨0, fun _ => 1000⟩

theorem isAscii_checksum (text : List Char) : isAscii (checksum text) = true := by
  rw [isAscii, checksum, Nat.toString_eq_ofList_toDigits, String.toList_ofList, List.all_eq_true]
  intro letter member
  have digit := Nat.isDigit_of_mem_toDigits (by decide) (by decide) member
  rw [Char.isDigit, Bool.and_eq_true, decide_eq_true_eq, decide_eq_true_eq] at digit
  rw [decide_eq_true_eq]
  exact Nat.lt_of_le_of_lt digit.2 (by decide)

/-- The only object of the archive. -/
def onlyObject : ArchiveObject :=
  ⟨"audit/2026/08/10/20260810T120000-000000.jsonl",
    buildSegmentBody shortCodec none ["raise the limit", "lower the limit"]⟩

def firstRecord : LedgerRecord Empty :=
  makeRecord shortCodec.hashing none 0 genesisPrevHash (configChangeBody "raise the limit")

def secondRecord : LedgerRecord Empty :=
  makeRecord shortCodec.hashing none 1 firstRecord.hash (configChangeBody "lower the limit")

def shortLines : List (List Char) :=
  [segmentLine shortCodec firstRecord, segmentLine shortCodec secondRecord]

theorem objects_of_ne {day : Int} (other : day ≠ 739837) :
    (shortArchive.archive day).objects = [] := by
  have segment : segmentDay = 739837 := by decide
  have outside : day ≠ segmentDay := segment ▸ other
  unfold shortArchive
  dsimp only
  rw [if_neg outside]

theorem objects_segmentDay : (shortArchive.archive 739837).objects = [onlyObject] := by
  have segment : segmentDay = 739837 := by decide
  unfold shortArchive
  dsimp only
  rw [if_pos segment.symm]
  rfl

theorem writtenBody_configChange (description : String) :
    writtenBody configChangeCodec (configChangeBody description) = configChangeBody description :=
  rfl

/-- The line of a change has no break in it. -/
theorem unbroken_staged {record : LedgerRecord Empty} {description : String}
    (body : record.event = configChangeBody description)
    (linked : isAscii record.prevHash = true) (hashed : isAscii record.hash = true)
    (ascii : isAscii description = true) :
    (segmentLine shortCodec record).any isLineBreak = false := by
  refine (any_segmentLine configChangeCodec_sound linked hashed).trans ?_
  rw [body]
  have letters : ∀ text ∈ ["event_type", "config.governance", "action", "stage", "description",
      "outcome", "success"], text.toList.any isBareBreak = false := by decide
  have described := any_isBareBreak_of_isAscii ascii
  simp only [configChangeBody, someLetter, someLetterEntries, described, List.mem_cons, true_or,
    or_true, letters, Bool.or_false]

section Staged

variable {record : LedgerRecord Empty} {description : String}

theorem loadsLine_staged (body : record.event = configChangeBody description) :
    loadsLine shortCodec (segmentLine shortCodec record) = some (lineJson shortCodec record) := by
  have flat : nesting (.dict record.event.entries : Json Empty) + 1 ≤ 900 := by
    have depth : nesting (.dict (configChangeBody description).entries : Json Empty) = 1 := rfl
    rw [body, depth]
    decide
  exact (loadsLine_segmentLine configChangeCodec_sound record).trans (if_pos flat)

/-- The line of a change is verified where its digest is that of its text. -/
theorem verifyEnvelopeHash_staged (body : record.event = configChangeBody description)
    (hashed : isAscii record.hash = true)
    (digest : computeRecordHash shortCodec.hashing none record.seq record.prevHash record.event =
      record.hash) :
    verifyEnvelopeHash shortCodec none (lineJson shortCodec record) = some true := by
  have valid : validateRecord shortCodec (lineJson shortCodec record) = some record := by
    refine (validateRecord_lineJson configChangeCodec_sound record).trans ?_
    rw [body, writtenBody_configChange, ← body]
  have envelope : isEnvelope (lineJson shortCodec record) = true := rfl
  rw [verifyEnvelopeHash, if_pos envelope, valid]
  dsimp only
  rw [hashMatches, digest, digestsEqual, hashed, beq_self_eq_true]
  rfl

end Staged

/-- The line of a change behind what it follows. -/
theorem readLine_staged {record : LedgerRecord Empty} {description : String} {before : Predecessor}
    (body : record.event = configChangeBody description) (hashed : isAscii record.hash = true)
    (digest : computeRecordHash shortCodec.hashing none record.seq record.prevHash record.event =
      record.hash)
    (linked : follows before record.seq (some record.prevHash) = true) :
    readLine shortCodec none before (segmentLine shortCodec record) =
      .linked (.record (some record.hash) record.seq) (some description) := by
  have accepted : acceptedEvent shortCodec (lineJson shortCodec record) = some description := by
    refine (acceptedEvent_lineJson configChangeCodec_sound ?_ body).trans ?_
    · rfl
    · rfl
  obtain ⟨_, link, _, hash⟩ := fields_lineJson shortCodec record
  rw [readLine, not_isBlankLine_segmentLine, if_neg Bool.false_ne_true, loadsLine_staged body]
  dsimp only
  rw [verifyEnvelopeHash_staged body hashed digest]
  dsimp only
  rw [readLink, chainSeq_lineJson, link, hash, accepted]
  dsimp only
  rw [if_pos linked]

/-- What is known of the chain behind a record. -/
def behind (record : LedgerRecord Empty) : Predecessor :=
  .record (some record.hash) record.seq

theorem readLine_first : readLine shortCodec none .genesis (segmentLine shortCodec firstRecord) =
    .linked (behind firstRecord) (some "raise the limit") :=
  readLine_staged rfl (isAscii_checksum _) rfl (by decide)

theorem readLine_second : readLine shortCodec none (behind firstRecord)
    (segmentLine shortCodec secondRecord) =
      .linked (behind secondRecord) (some "lower the limit") := by
  refine readLine_staged rfl (isAscii_checksum _) rfl ?_
  rw [behind, follows]
  exact Bool.and_eq_true_iff.mpr ⟨rfl, beq_self_eq_true _⟩

theorem lines_onlyObject : shortArchive.lines onlyObject = shortLines := by
  have unbroken : ∀ line ∈ shortLines, line.any isLineBreak = false := by
    rw [shortLines, List.forall_mem_cons, List.forall_mem_singleton]
    exact ⟨unbroken_staged rfl (by decide) (isAscii_checksum _) (by decide),
      unbroken_staged rfl (isAscii_checksum _) (isAscii_checksum _) (by decide)⟩
  rw [SearchService.lines, onlyObject]
  refine (congrArg splitLines (getObjectText_buildSegmentBody _)).trans ?_
  exact (congrArg splitLines joinLines_eq_terminated).trans (splitLines_terminated unbroken)

theorem isOversized_onlyObject : isOversized onlyObject = false := by
  decide +kernel

theorem seedOf_shortLines : seedOf shortArchive shortLines 1 = behind firstRecord := by
  obtain ⟨_, _, _, hash⟩ := fields_lineJson shortCodec firstRecord
  have filled : !isBlankLine (segmentLine shortCodec firstRecord) := by
    rw [not_isBlankLine_segmentLine]
    rfl
  have back : (((shortLines.take 1).reverse).take seedWalkMaxSteps).find?
      (fun raw => !isBlankLine raw) = some (segmentLine shortCodec firstRecord) :=
    List.find?_cons_of_pos filled
  have seed : seedFromLine shortArchive (segmentLine shortCodec firstRecord) =
      behind firstRecord := by
    have loaded : loadsLine shortArchive.codec (segmentLine shortCodec firstRecord) = _ :=
      loadsLine_staged rfl
    have holds : verifyEnvelopeHash shortArchive.codec shortArchive.ledgerKey
        (lineJson shortCodec firstRecord) = some true :=
      verifyEnvelopeHash_staged rfl (isAscii_checksum _) rfl
    rw [seedFromLine, loaded]
    dsimp only
    rw [if_pos holds, chainSeq_lineJson, hash]
    rfl
  rw [seedOf, if_pos Nat.zero_lt_one, seedChainState, back]
  exact seed


theorem accepts_short (event : String) : shortArchive.accepts shortPlan event = true := by
  rw [SearchService.accepts]
  exact (by decide : matchesFilters shortPlan.filters
    ⟨midnight segmentDay + 1, "config.governance", none, some "ops"⟩ = true)

theorem length_shortLines : (shortArchive.lines onlyObject).length ≤ maxLinesPerObject := by
  rw [lines_onlyObject]
  exact (by decide : 2 ≤ maxLinesPerObject)

/-- The position behind the first change. -/
def betweenChanges : CursorState :=
  ⟨739837, some onlyObject.key, 1, none⟩

/-- The day of the changes delivers the first of them. -/
theorem searchDay_first {state : SearchState String} {ticks : Nat} (fresh : state.scan = {})
    (time : state.ticks = ticks + 4) (scanned : state.objectsScanned = 0) :
    ∃ page, searchDay shortArchive shortPlan leisurely.served 739837 none none state =
        .stopped page ∧ page.nextCursor = some betweenChanges ∧
      page.state.scan.events = ["raise the limit"] := by
  obtain ⟨page, read, events, next⟩ := @readObject_fill _ _ shortArchive shortPlan
    ⟨739837, none, false⟩ onlyObject [] [] _ _
    { state with
      ticks := ticks + 1, calls := state.calls + 1, objectsScanned := state.objectsScanned + 1 }
    _ _ _ lines_onlyObject length_shortLines (fun _ => rfl) readLine_first (accepts_short _)
    (Nat.le_add_left 1 _)
  refine ⟨page, searchDay_single objects_segmentDay time (Nat.le_add_left 1 999) rfl ?_
    isOversized_onlyObject read, next, ?_⟩
  · rw [scanned]
    decide
  · rw [events, fresh]
    rfl

/-- The day of the changes delivers the second behind the first. -/
theorem searchDay_second {state : SearchState String} {ticks : Nat} (fresh : state.scan = {})
    (time : state.ticks = ticks + 3) (scanned : state.objectsScanned = 0) :
    ∃ page, searchDay shortArchive shortPlan leisurely.served 739837
        (some (onlyObject.key, 1)) none state = .stopped page ∧
      page.nextCursor = some ⟨739838, none, 0, none⟩ ∧
      page.state.scan.events = ["lower the limit"] := by
  have second : readLine shortArchive.codec shortArchive.ledgerKey
      (seedOf shortArchive (shortArchive.lines onlyObject)
        [segmentLine shortCodec firstRecord].length) (segmentLine shortCodec secondRecord) =
        .linked (behind secondRecord) (some "lower the limit") := by
    rw [lines_onlyObject, List.length_singleton, seedOf_shortLines]
    exact readLine_second
  obtain ⟨page, read, events, next⟩ := @readObject_fill _ _ shortArchive shortPlan
    ⟨739837, none, false⟩ onlyObject [] [segmentLine shortCodec firstRecord] _ _
    { state with
      ticks := ticks, calls := state.calls + 1, objectsScanned := state.objectsScanned + 1 }
    _ _ _ lines_onlyObject length_shortLines (fun _ => if_neg (by decide)) second
    (accepts_short _) (Nat.le_add_left 1 _)
  have resumed : consumeFrom (some (onlyObject.key, 1)) onlyObject = 1 := by
    rw [consumeFrom]
    exact if_pos rfl
  have starts : startAt (some (onlyObject.key, 1)) [onlyObject] = [onlyObject] := by
    rw [startAt, List.any_cons, beq_self_eq_true, Bool.true_or, if_pos rfl,
      List.dropWhile_cons_of_neg (by simp)]
  refine ⟨page, searchDay_single objects_segmentDay time (Nat.le_add_left 1 999) starts ?_
    isOversized_onlyObject ?_, next, ?_⟩
  · rw [scanned]
    decide
  · rw [resumed]
    exact read
  · rw [events, fresh]
    rfl

/-- What a page of the run is to show. -/
def Shows (clock : PageClock) (position : CursorState) (next : Option CursorState)
    (events : List String) : Prop :=
  (searchFrom shortArchive shortPlan clock position).nextCursor = next ∧
    (searchFrom shortArchive shortPlan clock position).state.scan.events = events

/-- The day before has no segments. -/
theorem searchDay_dayBefore : searchDay shortArchive shortPlan leisurely.served 739836 none none
    { ticks := leisurely.ticks } = .finished { ticks := 98, calls := 1 } :=
  searchDay_empty (objects_of_ne (by decide)) rfl (Nat.le_add_left 1 999)

theorem searchDay_dayAfter : searchDay shortArchive shortPlan leisurely.served 739838 none none
    { ticks := leisurely.ticks } = .finished { ticks := 98, calls := 1 } :=
  searchDay_empty (objects_of_ne (by decide)) rfl (Nat.le_add_left 1 999)

theorem shows_dayBefore :
    Shows leisurely ⟨739836, none, 0, none⟩ (some betweenChanges) ["raise the limit"] := by
  have count : shortPlan.daysFrom 739836 = 3 := by decide
  obtain ⟨page, stopped, next, events⟩ := @searchDay_first
    { ticks := 98, calls := 1 } 94 rfl rfl rfl
  have found : searchFrom shortArchive shortPlan leisurely ⟨739836, none, 0, none⟩ = page :=
    searchFrom_of_stopped count
      ((searchDays_of_finished searchDay_dayBefore).trans (searchDays_of_stopped stopped))
  rw [Shows, found]
  exact ⟨next, events⟩

theorem daysFrom_segmentDay : shortPlan.daysFrom 739837 = 2 := by
  decide

theorem shows_day :
    Shows leisurely ⟨739837, none, 0, none⟩ (some betweenChanges) ["raise the limit"] := by
  obtain ⟨page, stopped, next, events⟩ := @searchDay_first
    { ticks := leisurely.ticks } 96 rfl rfl rfl
  have found : searchFrom shortArchive shortPlan leisurely ⟨739837, none, 0, none⟩ = page :=
    searchFrom_of_stopped daysFrom_segmentDay (searchDays_of_stopped stopped)
  rw [Shows, found]
  exact ⟨next, events⟩

theorem shows_between :
    Shows leisurely betweenChanges (some ⟨739838, none, 0, none⟩) ["lower the limit"] := by
  obtain ⟨page, stopped, next, events⟩ := @searchDay_second
    { ticks := leisurely.ticks } 97 rfl rfl rfl
  have found : searchFrom shortArchive shortPlan leisurely betweenChanges = page :=
    searchFrom_of_stopped daysFrom_segmentDay (searchDays_of_stopped stopped)
  rw [Shows, found]
  exact ⟨next, events⟩

theorem shows_dayAfter : Shows leisurely ⟨739838, none, 0, none⟩ none [] := by
  have count : shortPlan.daysFrom 739838 = 1 := by decide
  have found : searchFrom shortArchive shortPlan leisurely ⟨739838, none, 0, none⟩ =
      ⟨false, none, { ticks := 98, calls := 1 }⟩ :=
    searchFrom_of_finished count (searchDays_of_finished searchDay_dayAfter)
  rw [Shows, found]
  exact ⟨rfl, rfl⟩

theorem shows_hurried : Shows hurried betweenChanges (some ⟨739837, none, 0, none⟩) [] := by
  have late : searchDay shortArchive shortPlan hurried.served 739837 (some (onlyObject.key, 1)) none
      { ticks := hurried.ticks } =
        .stopped ⟨true, some ⟨739837, none, 0, none⟩, { ticks := hurried.ticks }⟩ := rfl
  have found : searchFrom shortArchive shortPlan hurried betweenChanges =
      ⟨true, some ⟨739837, none, 0, none⟩, { ticks := hurried.ticks }⟩ :=
    searchFrom_of_stopped daysFrom_segmentDay (searchDays_of_stopped late)
  rw [Shows, found]
  exact ⟨rfl, rfl⟩

theorem chainAt_first : shortArchive.chainAt .genesis (shortLines.take 1) =
    some (behind firstRecord) := by
  rw [SearchService.chainAt, shortLines, List.take_succ_cons, List.take_zero, predecessorAt]
  rw [show readLine shortArchive.codec shortArchive.ledgerKey .genesis _ = _ from readLine_first]
  rfl

theorem seeded_between : seeded shortArchive onlyObject 1 = true := by
  rw [seeded, lines_onlyObject, chainAt_first, seedOf_shortLines]
  exact sameLinks_self _ _ _ _

theorem objectsAfter_segmentDay : shortArchive.objectsAfter 739837 none = [onlyObject] :=
  objects_segmentDay

theorem issued_between : Issued shortArchive shortPlan betweenChanges where
  first := by decide
  last := by decide
  marker := nofun
  named := by
    rintro key ⟨⟩
    refine ⟨onlyObject, ?_, rfl, fun _ => ⟨?_, isOversized_onlyObject, ?_⟩⟩
    · exact objectsAfter_segmentDay ▸ List.mem_singleton_self _
    · rw [lines_onlyObject]
      exact Nat.le_succ 1
    · rw [lines_onlyObject]
      exact congrArg Option.isSome chainAt_first

theorem keepsPlace_between :
    keepsPlace shortArchive shortPlan leisurely.served leisurely.ticks 0 betweenChanges = true := by
  have listing := @listDayKeys_whole shortPlan leisurely.served 98 0 [onlyObject] le_rfl
    (Nat.le_add_left 1 999)
  unfold keepsPlace
  dsimp only [betweenChanges]
  rw [objectsAfter_segmentDay, show leisurely.ticks - 1 = 98 + 1 from rfl, listing]
  dsimp only
  rw [List.any_cons, seeded_between, beq_self_eq_true]
  rfl

/-- Where a page leaves its reader. -/
def readerAt (next : Option CursorState) : PagingState :=
  match next with
  | some position => .next (some (encodeCursor shortArchive.codec.hashing.format position
      shortPlan.fingerprint))
  | none => .complete

theorem pageStep_shows {clock : PageClock} {cursor : Option String} {position : CursorState}
    {next : Option CursorState} {events : List String}
    (resumed : resumePosition shortArchive shortPlan cursor = .ok position)
    (shows : Shows clock position next events) :
    ∃ page, pageStep shortArchive shortPlan (.next cursor) clock =
      some (readerAt next, [page]) ∧ page.events = events := by
  obtain ⟨rfl, rfl⟩ := shows
  refine ⟨finalize shortArchive shortPlan (searchFrom shortArchive shortPlan clock position),
    ?_, rfl⟩
  have served : searchWormArchive shortArchive shortPlan clock cursor = .ok
      (finalize shortArchive shortPlan (searchFrom shortArchive shortPlan clock position)) := by
    rw [searchWormArchive, resumed]
    rfl
  rw [pageStep, served]
  dsimp only [finalize]
  generalize (searchFrom shortArchive shortPlan clock position).nextCursor = next
  cases next with
  | none => rfl
  | some position => rfl

theorem resumed_first :
    resumePosition shortArchive shortPlan none = .ok ⟨739836, none, 0, none⟩ := by
  have start : shortPlan.startDay = 739836 := by decide
  rw [resumePosition, SearchPlan.firstPosition, start]

theorem issued_day {day : Int} (first : 739836 ≤ day) (last : day ≤ 739838) :
    Issued shortArchive shortPlan ⟨day, none, 0, none⟩ := by
  have start : shortPlan.startDay = 739836 := by decide
  have finish : shortPlan.endDay = 739838 := by decide
  exact ⟨start ▸ first, finish ▸ last, nofun, nofun⟩

/-- A page that is issued leads on as it shows. -/
theorem pageStep_issued {clock : PageClock} {position : CursorState} {next : Option CursorState}
    {events : List String} (issued : Issued shortArchive shortPlan position)
    (shows : Shows clock position next events) :
    ∃ page, pageStep shortArchive shortPlan (readerAt (some position)) clock =
      some (readerAt next, [page]) ∧ page.events = events :=
  pageStep_shows (resumePosition_encodeCursor issued) shows

theorem pageKeepsPlace_issued {clock : PageClock} {position : CursorState}
    (issued : Issued shortArchive shortPlan position) :
    pageKeepsPlace shortArchive shortPlan (readerAt (some position)) clock =
      keepsPlace shortArchive shortPlan clock.served clock.ticks 0 position := by
  unfold pageKeepsPlace readerAt
  dsimp only
  rw [resumePosition_encodeCursor issued]

theorem runSteps_step {state next : PagingState} {clock : PageClock} {rest : List PageClock}
    {new : List (WormSearchResult String)}
    (stepped : pageStep shortArchive shortPlan state clock = some (next, new)) :
    runSteps (pageStep shortArchive shortPlan) state (clock :: rest) =
      (runSteps (pageStep shortArchive shortPlan) next rest).map fun last =>
        (last.1, new ++ last.2) := by
  rw [runSteps, stepped]
  rfl

theorem leisurely_run : (runSteps (pageStep shortArchive shortPlan) (.next none)
    [leisurely, leisurely, leisurely]).map (fun run => (run.1, delivered run.2)) =
      some (.complete, ["raise the limit", "lower the limit"]) := by
  obtain ⟨_, begun, first⟩ := pageStep_shows resumed_first shows_dayBefore
  obtain ⟨_, resumed, second⟩ := pageStep_issued issued_between shows_between
  obtain ⟨_, ended, third⟩ := pageStep_issued (issued_day (by decide) (by decide)) shows_dayAfter
  rw [runSteps_step begun, runSteps_step resumed, runSteps_step ended, runSteps]
  simp only [Option.map_some, delivered, List.append_nil, List.flatMap_append,
    List.flatMap_singleton, first, second, third]
  rfl

theorem hurried_run : (runSteps (pageStep shortArchive shortPlan) (.next none)
    [leisurely, hurried, leisurely, leisurely, leisurely]).map
      (fun run => (run.1, delivered run.2)) =
    some (.complete, ["raise the limit", "raise the limit", "lower the limit"]) := by
  obtain ⟨_, begun, first⟩ := pageStep_shows resumed_first shows_dayBefore
  obtain ⟨_, forgot, nothing⟩ := pageStep_issued issued_between shows_hurried
  obtain ⟨_, again, twice⟩ := pageStep_issued (issued_day (by decide) (by decide)) shows_day
  obtain ⟨_, resumed, second⟩ := pageStep_issued issued_between shows_between
  obtain ⟨_, ended, third⟩ := pageStep_issued (issued_day (by decide) (by decide)) shows_dayAfter
  rw [runSteps_step begun, runSteps_step forgot, runSteps_step again, runSteps_step resumed,
    runSteps_step ended, runSteps]
  simp only [Option.map_some, delivered, List.append_nil, List.flatMap_append,
    List.flatMap_singleton, first, nothing, twice, second, third]
  rfl

theorem leisurely_keepsPlace : StepsMeet (pageStep shortArchive shortPlan)
    (fun state clock => pageKeepsPlace shortArchive shortPlan state clock = true) (.next none)
    [leisurely, leisurely, leisurely] := by
  obtain ⟨_, begun, _⟩ := pageStep_shows resumed_first shows_dayBefore
  obtain ⟨_, resumed, _⟩ := pageStep_issued issued_between shows_between
  refine ⟨rfl, fun next now => ?_⟩
  cases begun.symm.trans now
  refine ⟨(pageKeepsPlace_issued issued_between).trans keepsPlace_between, fun next now => ?_⟩
  cases resumed.symm.trans now
  exact ⟨(pageKeepsPlace_issued (issued_day (by decide) (by decide))).trans rfl, fun _ _ => trivial⟩

theorem objectEvents_onlyObject : objectEvents shortArchive shortPlan onlyObject =
    ["raise the limit", "lower the limit"] := by
  have events : shortArchive.eventsOf shortPlan .genesis shortLines =
      ["raise the limit", "lower the limit"] :=
    (eventsOfLines_linked readLine_first (accepts_short _)).trans
      (congrArg _ (eventsOfLines_linked readLine_second (accepts_short _)))
  rw [objectEvents, isOversized_onlyObject, if_neg Bool.false_ne_true, lines_onlyObject, events]

theorem archiveEvents_shortArchive :
    archiveEvents shortArchive shortPlan = ["raise the limit", "lower the limit"] := by
  have start : shortPlan.startDay = 739836 := by decide
  have count : shortPlan.daysFrom 739836 = 3 := by decide
  have days : eventsOfDays shortArchive shortPlan 3 739836 =
      ["raise the limit", "lower the limit"] := by
    simp only [eventsOfDays, objects_of_ne (by decide : (739836 : Int) ≠ 739837),
      show (739836 : Int) + 1 = 739837 from rfl, show (739837 : Int) + 1 = 739838 from rfl,
      objects_segmentDay, objects_of_ne (by decide : (739838 : Int) ≠ 739837),
      List.flatMap_nil, List.flatMap_singleton, objectEvents_onlyObject, List.nil_append,
      List.append_nil]
  rw [archiveEvents, start, eventsFrom, count, days]

/-- The pages of a run whose outcome is known. -/
theorem pages_of_run {run : Option (PagingState × List (WormSearchResult E))} {final : PagingState}
    {events : List E}
    (ended : run.map (fun run => (run.1, delivered run.2)) = some (final, events)) :
    ∃ pages, run = some (final, pages) ∧ delivered pages = events := by
  obtain ⟨⟨last, pages⟩, rfl, same⟩ := Option.map_eq_some_iff.mp ended
  obtain ⟨rfl, rfl⟩ := Prod.mk.inj same
  exact ⟨pages, rfl, rfl⟩

/-- At leisure, the changes come one by one and once each. -/
theorem deliversOnce_leisurely : ∃ pages,
    runSteps (pageStep shortArchive shortPlan) (.next none) [leisurely, leisurely, leisurely] =
        some (.complete, pages) ∧
      DeliversOnce shortArchive shortPlan .complete pages := by
  obtain ⟨pages, ran, _⟩ := pages_of_run leisurely_run
  exact ⟨pages, ran, deliversOnce_of_keepsPlace leisurely_keepsPlace ran⟩

/-- A page that has no time forgets the line, and the first change comes twice. -/
theorem not_deliversOnce_hurried : ∃ pages,
    runSteps (pageStep shortArchive shortPlan) (.next none)
        [leisurely, hurried, leisurely, leisurely, leisurely] = some (.complete, pages) ∧
      ¬ DeliversOnce shortArchive shortPlan .complete pages := by
  obtain ⟨pages, ran, twice⟩ := pages_of_run hurried_run
  refine ⟨pages, ran, fun once => ?_⟩
  have list := once.complete rfl
  rw [archiveEvents_shortArchive] at list
  exact absurd (twice.symm.trans list) (by decide)

end Paging

end QueryGate
