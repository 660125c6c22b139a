import QueryGate.Audit.WormPaging

/-! # Splitting a segment into pages

A segment that is read in several pages against one that is read in one. A page that goes
on inside a segment rebuilds the state of the chain from the line before it; where that line
tells nothing, it takes the first record it meets as given, or refuses it.
-/

namespace QueryGate

open Foundation

section Boundaries

variable {F E : Type} (codec : ArchiveCodec F E) (key : Option String)

/-- What a verified record leaves for the next one to follow. -/
def recordOf (parsed : Json F) : Predecessor :=
  match chainSeq parsed with
  | some seq => .record (textAt parsed "hash") seq
  | none => .unusable

/-- The last verified record of lines, or the genesis. -/
def lastRecord (lines : List (List Char)) : Predecessor :=
  match lines.reverse.findSome? (verifiedLine codec key) with
  | some parsed => recordOf parsed
  | none => .genesis

/-- The line that the walk back from a position stops at. -/
def nearestLine (lines : List (List Char)) (start : Nat) : Option (List Char) :=
  (((lines.take start).reverse).take seedWalkMaxSteps).find? fun raw => !isBlankLine raw

/-- The first verified record from a position on has no usable position, or follows the last
verified one before. -/
def linksOn (lines : List (List Char)) (start : Nat) : Bool :=
  ((lines.drop start).findSome? (verifiedLine codec key)).all fun parsed =>
    (chainSeq parsed).isNone || linksBehind (lastRecord codec key (lines.take start)) parsed

/-- The first verified record from a position on does not follow the last one before. -/
def breaksOn (lines : List (List Char)) (start : Nat) : Bool :=
  ((lines.drop start).findSome? (verifiedLine codec key)).all fun parsed =>
    !linksBehind (lastRecord codec key (lines.take start)) parsed

/-- A page may go on at a position: the line before it, as far as the walk goes, is verified;
or it tells nothing, and the chain goes on undisturbed there; or the walk ends among blank
lines, and the chain is broken there. -/
def boundaryTells (lines : List (List Char)) (start : Nat) : Bool :=
  start == 0 ||
    match nearestLine lines start with
    | some raw => (verifiedLine codec key raw).isSome || linksOn codec key lines start
    | none =>
        if seedWalkMaxSteps ≤ min start lines.length then breaksOn codec key lines start
        else linksOn codec key lines start

variable {codec key}

variable (codec) in
theorem readLink_cases (before : Predecessor) (parsed : Json F) :
    readLink codec before parsed = .broken ∨
      ∃ event, readLink codec before parsed = .linked (recordOf parsed) event := by
  unfold readLink recordOf
  cases chainSeq parsed with
  | none => exact .inl rfl
  | some seq =>
      dsimp only
      split
      · exact .inr ⟨_, rfl⟩
      · exact .inl rfl

/-- Where the chain holds, what is known of it behind lines is their last verified record. -/
theorem predecessorAt_eq_lastRecord {lines : List (List Char)} {before : Predecessor}
    (linked : predecessorAt codec key .genesis lines = some before) :
    before = lastRecord codec key lines := by
  induction lines using List.reverseRecOn generalizing before with
  | nil => exact (Option.some.inj linked).symm
  | append_singleton front raw ih =>
      rw [predecessorAt_append, Option.bind_eq_some_iff] at linked
      obtain ⟨middle, known, last⟩ := linked
      rw [predecessorAt, Option.bind_eq_some_iff] at last
      obtain ⟨next, read, same⟩ := last
      injection same with same
      subst same
      have reversed : (front ++ [raw]).reverse = raw :: front.reverse := by
        rw [List.reverse_append]
        rfl
      rw [lastRecord, reversed, List.findSome?_cons]
      cases verified : verifiedLine codec key raw with
      | none =>
          obtain ⟨kept, _⟩ := readLine_of_not_verified (fun _ => true) verified middle
          rw [kept] at read
          injection read with read
          rw [← read]
          exact ih known
      | some parsed =>
          rw [readLine_of_verified verified] at read
          rcases readLink_cases codec middle parsed with broken | ⟨event, outcome⟩
          · rw [broken] at read
            cases read
          · rw [outcome] at read
            injection read with read
            exact read.symm

theorem sameLinks_eq (first second : Predecessor) (lines : List (List Char)) :
    sameLinks codec key first second lines =
      (lines.findSome? (verifiedLine codec key)).all fun parsed =>
        linksBehind first parsed == linksBehind second parsed := by
  induction lines with
  | nil => rfl
  | cons raw rest ih =>
      rw [sameLinks, List.findSome?_cons]
      cases verifiedLine codec key raw with
      | none => exact ih
      | some parsed => rfl

/-- The nearest line that is not blank is the one a search from behind meets first. -/
theorem findSome?_of_find?_take {α β : Type} {test : α → Bool} {read : α → Option β}
    (skipped : ∀ item, test item = false → read item = none) {items : List α} {count : Nat}
    {item : α} {value : β} (found : (items.take count).find? test = some item)
    (reads : read item = some value) : items.findSome? read = some value := by
  induction items generalizing count with
  | nil =>
      rw [List.take_nil] at found
      cases found
  | cons first rest ih =>
      cases count with
      | zero => cases found
      | succ count =>
          rw [List.take_succ_cons, List.find?_cons] at found
          rw [List.findSome?_cons]
          cases passes : test first with
          | true =>
              rw [passes] at found
              cases found
              rw [reads]
          | false =>
              rw [passes] at found
              rw [skipped first passes]
              exact ih found

end Boundaries

section Seeds

variable {F E : Type} (service : SearchService F E) {lines : List (List Char)} {start : Nat}

theorem verifiedLine_blank (raw : List Char) (blank : (!isBlankLine raw) = false) :
    verifiedLine service.codec service.ledgerKey raw = none := by
  rw [Bool.not_eq_false'] at blank
  rw [verifiedLine, if_pos blank]

/-- A line that is not blank seeds the record it holds, where it is verified. -/
theorem seedFromLine_eq {raw : List Char} (written : (!isBlankLine raw) = true) :
    seedFromLine service raw =
      match verifiedLine service.codec service.ledgerKey raw with
      | some parsed => recordOf parsed
      | none => .unknown := by
  have notBlank : ¬ isBlankLine raw = true := by
    rw [Bool.not_eq_true'] at written
    exact Bool.eq_false_iff.mp written
  rw [seedFromLine, verifiedLine, if_neg notBlank]
  cases loadsLine service.codec raw with
  | none => rfl
  | some parsed =>
      rw [Option.filter_some]
      dsimp only
      by_cases verified : verifyEnvelopeHash service.codec service.ledgerKey parsed = some true
      · rw [if_pos verified, if_pos (decide_eq_true verified)]
        dsimp only
        unfold recordOf
        cases chainSeq parsed with
        | none => rfl
        | some seq => rfl
      · rw [if_neg verified, if_neg (by rw [decide_eq_true_iff]; exact verified)]

theorem linksBehind_unknown (parsed : Json F) :
    linksBehind .unknown parsed = (chainSeq parsed).isSome := by
  unfold linksBehind
  cases chainSeq parsed with
  | none => rfl
  | some seq => rfl

theorem linksBehind_unusable (parsed : Json F) : linksBehind .unusable parsed = false := by
  unfold linksBehind
  cases chainSeq parsed with
  | none => rfl
  | some seq => rfl

/-- Without a line to go on from, a chain that goes on undisturbed reads alike. -/
theorem sameLinks_unknown
    (links : linksOn service.codec service.ledgerKey lines start = true) :
    sameLinks service.codec service.ledgerKey .unknown
      (lastRecord service.codec service.ledgerKey (lines.take start)) (lines.drop start) = true := by
  rw [sameLinks_eq]
  unfold linksOn at links
  cases first : (lines.drop start).findSome? (verifiedLine service.codec service.ledgerKey) with
  | none => rfl
  | some parsed =>
      rw [first, Option.all_some, Bool.or_eq_true] at links
      rw [Option.all_some, linksBehind_unknown, beq_iff_eq]
      unfold linksBehind at links ⊢
      cases position : chainSeq parsed with
      | none => rfl
      | some seq =>
          rw [position, Option.isNone_some] at links
          exact (links.resolve_left Bool.false_ne_true).symm

/-- A page that goes on where the boundary tells reads the first record as an unpaged scan
does. -/
theorem sameLinks_of_boundaryTells (inside : 0 < start) {before : Predecessor}
    (linked : service.chainAt .genesis (lines.take start) = some before)
    (tells : boundaryTells service.codec service.ledgerKey lines start = true) :
    sameLinks service.codec service.ledgerKey (seedOf service lines start) before
      (lines.drop start) = true := by
  have last := predecessorAt_eq_lastRecord linked
  rw [last, seedOf, if_pos inside, seedChainState]
  have apart : (start == 0) = false := beq_eq_false_iff_ne.mpr (Nat.pos_iff_ne_zero.mp inside)
  rw [boundaryTells, apart, Bool.false_or, nearestLine] at tells
  cases nearest : (((lines.take start).reverse).take seedWalkMaxSteps).find?
      fun raw => !isBlankLine raw with
  | some raw =>
      rw [nearest] at tells
      dsimp only at tells ⊢
      rw [seedFromLine_eq service (List.find?_some (p := fun raw => !isBlankLine raw) nearest)]
      cases verified : verifiedLine service.codec service.ledgerKey raw with
      | some parsed =>
          have known := findSome?_of_find?_take (verifiedLine_blank service) nearest verified
          rw [lastRecord, known]
          exact sameLinks_self _ _ _ _
      | none =>
          rw [verified, Option.isSome_none, Bool.false_or] at tells
          exact sameLinks_unknown service tells
  | none =>
      rw [nearest] at tells
      dsimp only at tells ⊢
      have budget : (((lines.take start).reverse).take seedWalkMaxSteps).length =
          min seedWalkMaxSteps (min start lines.length) := by
        rw [List.length_take, List.length_reverse, List.length_take]
      rw [budget]
      by_cases exhausted : seedWalkMaxSteps ≤ min start lines.length
      · rw [if_pos exhausted] at tells
        rw [if_pos (Nat.le_min.mpr ⟨Nat.le_refl _, exhausted⟩), sameLinks_eq]
        unfold breaksOn at tells
        cases first : (lines.drop start).findSome? (verifiedLine service.codec service.ledgerKey) with
        | none => rfl
        | some parsed =>
            rw [first, Option.all_some, Bool.not_eq_true'] at tells
            rw [Option.all_some, linksBehind_unusable, tells]
            rfl
      · rw [if_neg exhausted] at tells
        rw [if_neg fun reached => exhausted (Nat.le_min.mp reached).2]
        exact sameLinks_unknown service tells

end Seeds

section Pages

variable {F E : Type} (service : SearchService F E)

theorem addMatching_chainBreaks (accepts : E → Bool) (scan : SegmentScan E)
    (outcome : LineOutcome E) :
    (scan.addMatching accepts outcome).chainBreaks =
      scan.chainBreaks + if (outcome.next scan.before).isNone then 1 else 0 := by
  cases outcome with
  | linked next event =>
      cases event with
      | none => rfl
      | some event =>
          rw [SegmentScan.addMatching]
          split
          · rfl
          · rfl
  | _ => rfl

/-- The breaks of a page that ends so. -/
def LinesEnd.breaks : LinesEnd → Nat
  | .broken => 1
  | .exhausted | .expired _ | .full _ => 0

/-- A page counts one break exactly where it leaves the segment at one. -/
theorem searchLines_chainBreaks (plan : SearchPlan) {lineNo : Nat} {rest : List (List Char)}
    {state : SearchState E} (unbroken : state.scan.brokeChain = false) :
    (searchLines service plan lineNo rest state).2.scan.chainBreaks =
      state.scan.chainBreaks + (searchLines service plan lineNo rest state).1.breaks := by
  induction rest generalizing lineNo state with
  | nil => rfl
  | cons raw rest ih =>
      rw [searchLines]
      cases checked : checkLine lineNo state with
      | none => rfl
      | some ready =>
          have same := checkLine_scan checked
          rw [← same] at unbroken ⊢
          dsimp only
          obtain ⟨_, broke, _⟩ := addMatching_eq (service.accepts plan) ready.scan
            (readLine service.codec service.ledgerKey ready.scan.before raw)
          have counted := addMatching_chainBreaks (service.accepts plan) ready.scan
            (readLine service.codec service.ledgerKey ready.scan.before raw)
          rw [unbroken, Bool.false_or] at broke
          rw [← broke] at counted
          generalize ready.scan.addMatching (service.accepts plan)
            (readLine service.codec service.ledgerKey ready.scan.before raw) = scan at counted ⊢
          by_cases broken : scan.brokeChain = true
          · rw [if_pos broken] at counted ⊢
            exact counted
          · rw [if_neg broken] at counted ⊢
            split
            · exact counted
            · rw [← Nat.add_zero ready.scan.chainBreaks, ← counted]
              exact ih (Bool.eq_false_iff.mpr broken)

/-- The variables of a page that begins at a line of a segment. -/
def pageState (lines : List (List Char)) (start ticks : Nat) : SearchState E where
  scan := { before := seedOf service lines start }
  ticks := ticks

/-- Where a page that stopped inside a segment goes on. -/
def LinesEnd.resume (stop : Nat) : LinesEnd → Option Nat
  | .exhausted => some stop
  | .expired line => some line
  | .full line => some line
  | .broken => none

/-- A segment read page by page from a line on: the lines at which pages went on, the events
they returned and the breaks they counted. A page reads up to a line of its own, and no page
goes on behind a break. -/
inductive PagedScan (filters : SearchFilters) (lines : List (List Char)) :
    Nat → List Nat → List E → Nat → Prop where
  | ended {start : Nat} (past : lines.length ≤ start) : PagedScan filters lines start [] [] 0
  | left {start stop ticks : Nat} {plan : SearchPlan} {state : SearchState E}
      (same : plan.filters = filters) (reads : searchLines service plan start
        ((lines.take stop).drop start) (pageState service lines start ticks) = (.broken, state)) :
      PagedScan filters lines start [] state.scan.events state.scan.chainBreaks
  | goesOn {start stop next ticks breaks : Nat} {plan : SearchPlan} {state : SearchState E}
      {ending : LinesEnd} {starts : List Nat} {events : List E} (same : plan.filters = filters)
      (forward : start ≤ stop) (inside : stop ≤ lines.length)
      (reads : searchLines service plan start ((lines.take stop).drop start)
        (pageState service lines start ticks) = (ending, state))
      (resumes : ending.resume stop = some next)
      (later : PagedScan filters lines next starts events breaks) :
      PagedScan filters lines start (next :: starts) (state.scan.events ++ events)
        (state.scan.chainBreaks + breaks)

variable {service}

/-- What a page has read, by how it ended. -/
theorem searchLines_page {plan : SearchPlan} {lines : List (List Char)} {start stop ticks : Nat}
    {ending : LinesEnd} {state : SearchState E}
    (reads : searchLines service plan start ((lines.take stop).drop start)
      (pageState service lines start ticks) = (ending, state)) :
    ∃ consumed remaining, (lines.take stop).drop start = consumed ++ remaining ∧
      state.scan.events = service.eventsOf plan (seedOf service lines start) consumed ∧
      state.scan.chainBreaks = ending.breaks ∧
      LinesStop service plan (seedOf service lines start) start consumed remaining (ending, state) := by
  obtain ⟨consumed, remaining, read⟩ := @searchLines_reads F E service plan start
    ((lines.take stop).drop start) (pageState service lines start ticks) plan.limitPositive rfl
  have counted := @searchLines_chainBreaks F E service plan start ((lines.take stop).drop start)
    (pageState service lines start ticks) rfl
  have events := read.events
  have stopped := read.stop
  rw [reads] at counted events stopped
  exact ⟨consumed, remaining, read.split, events, counted.trans (Nat.zero_add _), stopped⟩

/-- What lines come to in one scan from a state of the chain on: their events, and the break
it ends at. -/
def scanLines (service : SearchService F E) (plan : SearchPlan) (before : Predecessor)
    (lines : List (List Char)) : List E × Nat :=
  (service.eventsOf plan before lines, if (service.chainAt before lines).isSome then 0 else 1)

/-- A split adds up where the front part leaves the chain whole. -/
theorem scanLines_append {plan : SearchPlan} {before next : Predecessor}
    {front back : List (List Char)} (linked : service.chainAt before front = some next) :
    scanLines service plan before (front ++ back) =
      (service.eventsOf plan before front ++ (scanLines service plan next back).1,
        (scanLines service plan next back).2) := by
  unfold SearchService.chainAt at linked
  rw [scanLines, SearchService.eventsOf, eventsOfLines_append, SearchService.chainAt,
    predecessorAt_append, linked, Option.bind_some]
  rfl

/-- Behind a break there is nothing more. -/
theorem scanLines_broken {plan : SearchPlan} {before : Predecessor} {front : List (List Char)}
    (broken : service.chainAt before front = none) (back : List (List Char)) :
    scanLines service plan before (front ++ back) = (service.eventsOf plan before front, 1) := by
  unfold SearchService.chainAt at broken
  rw [scanLines, SearchService.eventsOf, eventsOfLines_append, SearchService.chainAt,
    predecessorAt_append, broken, List.append_nil]
  rfl

/-- What a page has read comes to the same from every state that links alike. -/
theorem page_alike {plan : SearchPlan} {seed before : Predecessor} {consumed back : List (List Char)}
    (alike : sameLinks service.codec service.ledgerKey seed before (consumed ++ back) = true) :
    service.eventsOf plan seed consumed = service.eventsOf plan before consumed ∧
      (service.chainAt seed consumed).isSome = (service.chainAt before consumed).isSome :=
  eventsOfLines_of_sameLinks alike

theorem accepts_congr {first second : SearchPlan} (same : first.filters = second.filters) :
    service.accepts first = service.accepts second := by
  unfold SearchService.accepts
  rw [same]

theorem eventsOf_congr {first second : SearchPlan} (same : first.filters = second.filters)
    (before : Predecessor) (lines : List (List Char)) :
    service.eventsOf first before lines = service.eventsOf second before lines := by
  unfold SearchService.eventsOf
  rw [accepts_congr same]

/-- A page that goes on leaves the chain whole, and goes on behind what it has read. -/
theorem resume_eq {plan : SearchPlan} {lines consumed remaining : List (List Char)}
    {seed : Predecessor} {start stop next : Nat} {ending : LinesEnd} {state : SearchState E}
    (forward : start ≤ stop) (inside : stop ≤ lines.length)
    (split : (lines.take stop).drop start = consumed ++ remaining)
    (resumes : ending.resume stop = some next)
    (stopped : LinesStop service plan seed start consumed remaining (ending, state)) :
    next = start + consumed.length ∧ (service.chainAt seed consumed).isSome = true := by
  cases ending with
  | exhausted =>
      obtain ⟨rfl, linked, _⟩ := stopped
      injection resumes with resumes
      have length := congrArg List.length split
      rw [List.length_drop, List.length_take, List.append_nil] at length
      exact ⟨by omega, linked⟩
  | broken => cases resumes
  | expired line =>
      injection resumes with resumes
      exact ⟨resumes.symm.trans stopped.1, stopped.2⟩
  | full line =>
      injection resumes with resumes
      exact ⟨resumes.symm.trans stopped.1, stopped.2⟩

/-- From a line on where the chain is known, pages come to what one scan comes to, if every
line they go on at tells. -/
theorem pagedScan_scanLines {plan : SearchPlan} {lines : List (List Char)} {start breaks : Nat}
    {starts : List Nat} {events : List E}
    (paged : PagedScan service plan.filters lines start starts events breaks) :
    (∀ next ∈ starts, boundaryTells service.codec service.ledgerKey lines next = true) →
    ∀ {before}, service.chainAt .genesis (lines.take start) = some before →
      sameLinks service.codec service.ledgerKey (seedOf service lines start) before
        (lines.drop start) = true →
      (events, breaks) = scanLines service plan before (lines.drop start) := by
  induction paged with
  | ended past =>
      intro _ before _ _
      rw [List.drop_of_length_le past]
      rfl
  | @left start stop ticks pagePlan state same reads =>
      intro _ before _ alike
      obtain ⟨consumed, remaining, split, delivered, counted, stopped⟩ := searchLines_page reads
      have whole : lines.drop start = consumed ++ (remaining ++ (lines.drop start).drop (stop - start)) := by
        rw [← List.append_assoc, ← split, List.drop_take, List.take_append_drop]
      rw [whole] at alike ⊢
      obtain ⟨events, linked⟩ := page_alike alike
      have broken : service.chainAt before consumed = none := by
        rw [← Option.not_isSome_iff_eq_none, ← linked]
        exact Option.not_isSome_iff_eq_none.mpr stopped.1
      rw [scanLines_broken broken, delivered, counted, eventsOf_congr same, events]
      rfl
  | @goesOn start stop next ticks breaks pagePlan state ending starts events same forward inside
      reads resumes later ih =>
      intro tells before known alike
      obtain ⟨consumed, remaining, split, delivered, counted, stopped⟩ := searchLines_page reads
      obtain ⟨position, linked⟩ := resume_eq forward inside split resumes stopped
      have front : (lines.drop start).take consumed.length = consumed := by
        have cut := congrArg (List.take consumed.length) split
        rw [List.take_left, List.drop_take, List.take_take] at cut
        have room := congrArg List.length split
        rw [List.length_drop, List.length_take, List.length_append] at room
        rwa [Nat.min_eq_left (by omega)] at cut
      have whole : lines.drop start = consumed ++ lines.drop next := by
        conv_lhs => rw [← List.take_append_drop consumed.length (lines.drop start), front]
        rw [List.drop_drop, position]
      have taken : lines.take next = lines.take start ++ consumed := by
        rw [position, List.take_add, front]
      rw [whole] at alike
      obtain ⟨events, linkedAlike⟩ := page_alike alike
      rw [linked] at linkedAlike
      obtain ⟨middle, linkedHere⟩ := Option.isSome_iff_exists.mp linkedAlike.symm
      have knownNext : service.chainAt .genesis (lines.take next) = some middle := by
        unfold SearchService.chainAt at known linkedHere ⊢
        rw [taken, predecessorAt_append, known, Option.bind_some, linkedHere]
      have alikeNext : sameLinks service.codec service.ledgerKey (seedOf service lines next) middle
          (lines.drop next) = true := by
        rcases Nat.eq_zero_or_pos next with first | inner
        · rw [first] at knownNext ⊢
          injection knownNext with sameState
          rw [← sameState]
          exact sameLinks_self _ _ _ _
        · exact sameLinks_of_boundaryTells service inner knownNext (tells next (List.mem_cons_self ..))
      have rest := ih (fun line member => tells line (List.mem_cons_of_mem _ member)) knownNext
        alikeNext
      have none_ : ending.breaks = 0 := by
        cases ending with
        | broken => cases resumes
        | exhausted => rfl
        | expired line => rfl
        | full line => rfl
      rw [whole, scanLines_append linkedHere, ← rest, delivered, counted, none_, Nat.zero_add,
        eventsOf_congr same, events]

/-- One page that reads a segment to its end comes to what one scan of it comes to. -/
theorem unpaged_scanLines {plan : SearchPlan} {lines : List (List Char)} {ticks : Nat}
    {ending : LinesEnd} {state : SearchState E}
    (reads : searchLines service plan 0 lines (pageState service lines 0 ticks) = (ending, state))
    (whole : ending = .exhausted ∨ ending = .broken) :
    (state.scan.events, state.scan.chainBreaks) = scanLines service plan .genesis lines := by
  have taken : (lines.take lines.length).drop 0 = lines := by
    rw [List.take_length, List.drop_zero]
  have page : searchLines service plan 0 ((lines.take lines.length).drop 0)
      (pageState service lines 0 ticks) = (ending, state) := by
    rw [taken]
    exact reads
  have genesis : seedOf service lines 0 = .genesis := rfl
  obtain ⟨consumed, remaining, split, delivered, counted, stopped⟩ := searchLines_page page
  rw [taken] at split
  rw [genesis] at delivered stopped
  rcases whole with rfl | rfl
  · obtain ⟨rfl, linked, _⟩ := stopped
    rw [split, List.append_nil, delivered, counted, scanLines, if_pos linked]
    rfl
  · rw [split, scanLines_broken stopped.1, delivered, counted]
    rfl

/-- **Pages agree with one scan.** Where every line that pages go on at tells what the chain
was, they return the events of one page over the whole segment and count its breaks. -/
theorem pagedScan_agrees {plan : SearchPlan} {lines : List (List Char)} {ticks breaks : Nat}
    {ending : LinesEnd} {state : SearchState E} {starts : List Nat} {events : List E}
    (reads : searchLines service plan 0 lines (pageState service lines 0 ticks) = (ending, state))
    (whole : ending = .exhausted ∨ ending = .broken)
    (paged : PagedScan service plan.filters lines 0 starts events breaks)
    (tells : ∀ next ∈ starts, boundaryTells service.codec service.ledgerKey lines next = true) :
    events = state.scan.events ∧ breaks = state.scan.chainBreaks := by
  have genesis : service.chainAt .genesis (lines.take 0) = some .genesis := rfl
  have one := pagedScan_scanLines paged tells genesis (sameLinks_self _ _ _ _)
  have other := unpaged_scanLines reads whole
  rw [List.drop_zero, ← other] at one
  injection one with sameEvents sameBreaks
  exact ⟨sameEvents, sameBreaks⟩

end Pages

/-! ## Configuration changes with a line in place of one of them -/

section Changes

theorem nothing_sorted :
    ([] : List ArchiveObject).Pairwise fun first second => first.key < second.key :=
  List.Pairwise.nil

theorem nothing_named : ∀ object ∈ ([] : List ArchiveObject), keyBytes object.key ≤ maxS3KeyBytes :=
  fun _ member => absurd member List.not_mem_nil

/-- A reader of configuration changes, whose archive does not matter here. -/
def changeService : SearchService Empty String where
  codec := configChangeCodec
  ledgerKey := none
  view _ := ⟨midnight segmentDay + 1, "config.governance", none, some "ops"⟩
  intOf _ := none
  archive _ := ⟨[], nothing_sorted, nothing_named⟩

theorem eight_positive : 1 ≤ 8 := by decide

/-- The request for that day, with room for all of it on one page. -/
def changePlan : SearchPlan :=
  { shortPlan with limit := 8, limitPositive := eight_positive }

/-- The record of a change. -/
def changeRecord (seq : Nat) (prevHash description : String) : LedgerRecord Empty :=
  makeRecord configChangeCodec.hashing none seq prevHash (configChangeBody description)

/-- Three changes in a chain. -/
def raised : LedgerRecord Empty := changeRecord 0 genesisPrevHash "raise"

def lowered : LedgerRecord Empty := changeRecord 1 raised.hash "lower"

def dropped : LedgerRecord Empty := changeRecord 2 lowered.hash "drop"

/-- The segment of the first two. -/
def wholeSegment : List (List Char) :=
  [segmentLine configChangeCodec raised, segmentLine configChangeCodec lowered]

/-- The segment of all three with something unreadable in place of the second. -/
def gappedSegment : List (List Char) :=
  [segmentLine configChangeCodec raised, ['?'], segmentLine configChangeCodec dropped]

theorem readLine_change (before : Predecessor) (seq : Nat) (prevHash description : String) :
    readLine changeService.codec changeService.ledgerKey before
        (segmentLine configChangeCodec (changeRecord seq prevHash description)) =
      if follows before seq (some prevHash) then
        .linked (.record (some (changeRecord seq prevHash description).hash) seq) (some description)
      else .broken := by
  have read : readLine changeService.codec changeService.ledgerKey before
      (segmentLine configChangeCodec (makeRecord configChangeCodec.hashing none seq prevHash
        (configChangeCodec.dump description))) = _ :=
    readLine_segmentLine configChangeCodec_sound before seq prevHash description
  have shallow : nesting (.dict (configChangeCodec.dump description).entries) + 1 ≤
      configChangeCodec.recursionLimit := Nat.le_of_ble_eq_true rfl
  have finite : allFloats configChangeCodec.finite
      (.dict (configChangeCodec.dump description).entries) = true := rfl
  rw [if_pos shallow, if_pos finite] at read
  exact read

theorem readLine_unreadable (before : Predecessor) :
    readLine changeService.codec changeService.ledgerKey before ['?'] = .malformed := by
  rfl

theorem takes_change (description : String) :
    changeService.accepts changePlan description = true := by
  rfl

/-- A line that leaves the chain whole and the page with room is read and gone on behind. -/
theorem searchLines_cons {lineNo : Nat} {raw : List Char} {rest : List (List Char)}
    {state ready : SearchState String} {outcome : LineOutcome String} {scan : SegmentScan String}
    (checked : checkLine lineNo state = some ready)
    (read : readLine changeService.codec changeService.ledgerKey ready.scan.before raw = outcome)
    (added : ready.scan.addMatching (changeService.accepts changePlan) outcome = scan)
    (whole : scan.brokeChain = false) (room : scan.events.length < changePlan.limit) :
    searchLines changeService changePlan lineNo (raw :: rest) state =
      searchLines changeService changePlan (lineNo + 1) rest { ready with scan := scan } := by
  rw [searchLines, checked]
  dsimp only
  rw [read, added, if_neg (by rw [whole]; exact Bool.false_ne_true), if_neg fun full => by omega]

/-- A line that breaks the chain ends the page. -/
theorem searchLines_break {lineNo : Nat} {raw : List Char} {rest : List (List Char)}
    {state ready : SearchState String} (checked : checkLine lineNo state = some ready)
    (read : readLine changeService.codec changeService.ledgerKey ready.scan.before raw = .broken) :
    ∃ after, searchLines changeService changePlan lineNo (raw :: rest) state = (.broken, after) ∧
      after.scan.events = ready.scan.events ∧
      after.scan.chainBreaks = ready.scan.chainBreaks + 1 := by
  rw [searchLines, checked]
  dsimp only
  rw [read]
  exact ⟨_, rfl, rfl, rfl⟩

/-- What a page holds after events, behind a change. -/
def scanBehind (change : LedgerRecord Empty) (seq : Nat) (events : List String) (scanned : Nat) :
    SegmentScan String where
  before := .record (some change.hash) seq
  events := events
  eventsScanned := scanned

theorem readLine_raised :
    readLine changeService.codec changeService.ledgerKey .genesis
        (segmentLine configChangeCodec raised) =
      .linked (.record (some raised.hash) 0) (some "raise") :=
  readLine_change .genesis 0 genesisPrevHash "raise"

theorem readLine_lowered :
    readLine changeService.codec changeService.ledgerKey (.record (some raised.hash) 0)
        (segmentLine configChangeCodec lowered) =
      .linked (.record (some lowered.hash) 1) (some "lower") := by
  have links : follows (.record (some raised.hash) 0) ((1 : Nat) : Int) (some raised.hash) = true := by
    rw [follows, Bool.and_eq_true]
    exact ⟨rfl, beq_self_eq_true _⟩
  exact (readLine_change _ 1 raised.hash "lower").trans (if_pos links)

/-- What the unreadable line behind the first change adds. -/
def unreadableScan : SegmentScan String :=
  { scanBehind raised 0 ["raise"] 2 with malformed := 1 }

theorem searchLines_raised (lines rest : List (List Char)) :
    searchLines changeService changePlan 0 (segmentLine configChangeCodec raised :: rest)
        (pageState changeService lines 0 1) =
      searchLines changeService changePlan 1 rest ⟨scanBehind raised 0 ["raise"] 1, 0, 0, 0⟩ := by
  have checked : checkLine 0 (pageState changeService lines 0 1) =
      some ⟨{ before := .genesis }, 0, 0, 0⟩ := rfl
  exact searchLines_cons checked readLine_raised rfl rfl (by decide)

theorem searchLines_unreadable (rest : List (List Char)) :
    searchLines changeService changePlan 1 (['?'] :: rest) ⟨scanBehind raised 0 ["raise"] 1, 0, 0, 0⟩ =
      searchLines changeService changePlan 2 rest ⟨unreadableScan, 0, 0, 0⟩ := by
  have checked : checkLine 1 (⟨scanBehind raised 0 ["raise"] 1, 0, 0, 0⟩ : SearchState String) =
      some ⟨scanBehind raised 0 ["raise"] 1, 0, 0, 0⟩ := rfl
  exact searchLines_cons checked (readLine_unreadable _) rfl rfl (by decide)

/-- Read in one page, the segment breaks where the second change is missing. -/
theorem gappedSegment_unpaged : ∃ state,
    searchLines changeService changePlan 0 gappedSegment (pageState changeService gappedSegment 0 1) =
        (.broken, state) ∧ state.scan.events = ["raise"] ∧ state.scan.chainBreaks = 1 := by
  have checked : checkLine 2 (⟨unreadableScan, 0, 0, 0⟩ : SearchState String) =
      some ⟨unreadableScan, 0, 0, 0⟩ := rfl
  have broken : readLine changeService.codec changeService.ledgerKey unreadableScan.before
      (segmentLine configChangeCodec dropped) = .broken :=
    readLine_change unreadableScan.before 2 lowered.hash "drop"
  rw [gappedSegment, searchLines_raised, searchLines_unreadable]
  exact searchLines_break checked broken

/-- A page that goes on behind the unreadable line knows nothing of the chain. -/
theorem seedOf_gappedSegment : seedOf changeService gappedSegment 2 = .unknown := by
  have back : ((gappedSegment.take 2).reverse).take seedWalkMaxSteps =
      [['?'], segmentLine configChangeCodec raised] := rfl
  have unread : verifiedLine changeService.codec changeService.ledgerKey ['?'] = none := rfl
  rw [seedOf, if_pos Nat.two_pos, seedChainState, back, List.find?_cons]
  exact (seedFromLine_eq changeService rfl).trans (by rw [unread])

theorem searchLines_dropped : searchLines changeService changePlan 2
    [segmentLine configChangeCodec dropped] (pageState changeService gappedSegment 2 0) =
      (.exhausted, ⟨scanBehind dropped 2 ["drop"] 1, 0, 0, 0⟩) := by
  have checked : checkLine 2 (pageState changeService gappedSegment 2 0) =
      some ⟨{ before := .unknown }, 0, 0, 0⟩ := by
    rw [pageState, seedOf_gappedSegment]
    rfl
  have read : readLine changeService.codec changeService.ledgerKey .unknown
      (segmentLine configChangeCodec dropped) =
        .linked (.record (some dropped.hash) 2) (some "drop") :=
    readLine_change .unknown 2 lowered.hash "drop"
  exact searchLines_cons checked read rfl rfl (by decide)

/-- Read in two pages, with the second behind the unreadable line, it returns the third change
and counts no break. -/
theorem gappedSegment_paged :
    PagedScan changeService changePlan.filters gappedSegment 0 [2, 3] ["raise", "drop"] 0 := by
  have first : searchLines changeService changePlan 0 ((gappedSegment.take 2).drop 0)
      (pageState changeService gappedSegment 0 1) = (.exhausted, ⟨unreadableScan, 0, 0, 0⟩) :=
    (searchLines_raised gappedSegment [['?']]).trans (searchLines_unreadable [])
  have second : searchLines changeService changePlan 2 ((gappedSegment.take 3).drop 2)
      (pageState changeService gappedSegment 2 0) =
        (.exhausted, ⟨scanBehind dropped 2 ["drop"] 1, 0, 0, 0⟩) := searchLines_dropped
  have two : 2 ≤ gappedSegment.length := Nat.le_succ 2
  have three : 3 ≤ gappedSegment.length := Nat.le_refl 3
  have rest : PagedScan changeService changePlan.filters gappedSegment 2 [3] (["drop"] ++ []) (0 + 0) :=
    .goesOn rfl (Nat.le_succ 2) three second rfl (.ended three)
  exact .goesOn rfl (Nat.zero_le 2) two first rfl rest

/-- Two pages return a change behind the gap that one page withholds. -/
theorem gappedSegment_pages_disagree : ∃ ending state starts events breaks,
    searchLines changeService changePlan 0 gappedSegment (pageState changeService gappedSegment 0 1) =
        (ending, state) ∧ (ending = .exhausted ∨ ending = .broken) ∧
      PagedScan changeService changePlan.filters gappedSegment 0 starts events breaks ∧
      "drop" ∈ events ∧ "drop" ∉ state.scan.events ∧ breaks ≠ state.scan.chainBreaks := by
  obtain ⟨state, reads, events, breaks⟩ := gappedSegment_unpaged
  refine ⟨_, state, _, _, _, reads, .inr rfl, gappedSegment_paged, ?_, ?_, ?_⟩
  · exact List.mem_cons_of_mem _ (List.mem_singleton.mpr rfl)
  · rw [events]
    decide
  · rw [breaks]
    decide

/-- A change that a page reads is verified, and is what the next page goes on from. -/
theorem verifiedLine_of_linked {before next : Predecessor} {raw : List Char} {event : String}
    (read : readLine changeService.codec changeService.ledgerKey before raw =
      .linked next (some event)) :
    ∃ parsed, verifiedLine changeService.codec changeService.ledgerKey raw = some parsed ∧
      recordOf parsed = next := by
  cases verified : verifiedLine changeService.codec changeService.ledgerKey raw with
  | none =>
      obtain ⟨_, nothing⟩ := readLine_of_not_verified (fun _ => true) verified before
      rw [read] at nothing
      cases nothing
  | some parsed =>
      rw [readLine_of_verified verified] at read
      rcases readLink_cases changeService.codec before parsed with broken | ⟨seen, outcome⟩
      · rw [broken] at read
        cases read
      · rw [outcome] at read
        injection read with same
        exact ⟨parsed, rfl, same⟩

theorem verifiedLine_isSome {before next : Predecessor} {raw : List Char} {event : String}
    (read : readLine changeService.codec changeService.ledgerKey before raw =
      .linked next (some event)) :
    (verifiedLine changeService.codec changeService.ledgerKey raw).isSome = true := by
  obtain ⟨parsed, verified, _⟩ := verifiedLine_of_linked read
  rw [verified]
  rfl

theorem written_segmentLine (record : LedgerRecord Empty) :
    (!isBlankLine (segmentLine configChangeCodec record)) = true := by
  rw [not_isBlankLine_segmentLine]
  rfl

/-- Behind a change that is verified a boundary tells. -/
theorem boundaryTells_behind {lines : List (List Char)} {start : Nat} {record : LedgerRecord Empty}
    {behind : List (List Char)}
    (back : ((lines.take start).reverse).take seedWalkMaxSteps =
      segmentLine configChangeCodec record :: behind)
    (verified : (verifiedLine changeService.codec changeService.ledgerKey
      (segmentLine configChangeCodec record)).isSome = true) :
    boundaryTells changeService.codec changeService.ledgerKey lines start = true := by
  have nearest : nearestLine lines start = some (segmentLine configChangeCodec record) := by
    rw [nearestLine, back, List.find?_cons, written_segmentLine]
  rw [boundaryTells, nearest]
  dsimp only
  rw [verified, Bool.true_or, Bool.or_true]

/-- A page that goes on behind the first change goes on from it. -/
theorem seedOf_wholeSegment :
    seedOf changeService wholeSegment 1 = .record (some raised.hash) 0 := by
  have back : ((wholeSegment.take 1).reverse).take seedWalkMaxSteps =
      [segmentLine configChangeCodec raised] := rfl
  have written := written_segmentLine raised
  obtain ⟨parsed, verified, same⟩ := verifiedLine_of_linked readLine_raised
  rw [seedOf, if_pos Nat.one_pos, seedChainState, back, List.find?_cons, written]
  exact (seedFromLine_eq changeService written).trans (by rw [verified]; exact same)

theorem searchLines_lowered_alone : searchLines changeService changePlan 1
    [segmentLine configChangeCodec lowered] (pageState changeService wholeSegment 1 0) =
      (.exhausted, ⟨scanBehind lowered 1 ["lower"] 1, 0, 0, 0⟩) := by
  have checked : checkLine 1 (pageState changeService wholeSegment 1 0) =
      some ⟨{ before := .record (some raised.hash) 0 }, 0, 0, 0⟩ := by
    rw [pageState, seedOf_wholeSegment]
    rfl
  exact searchLines_cons checked readLine_lowered rfl rfl (by decide)

/-- One page over both changes. -/
theorem wholeSegment_unpaged :
    searchLines changeService changePlan 0 wholeSegment (pageState changeService wholeSegment 0 1) =
      (.exhausted, ⟨scanBehind lowered 1 ["raise", "lower"] 2, 0, 0, 0⟩) := by
  have checked : checkLine 1 (⟨scanBehind raised 0 ["raise"] 1, 0, 0, 0⟩ : SearchState String) =
      some ⟨scanBehind raised 0 ["raise"] 1, 0, 0, 0⟩ := rfl
  rw [wholeSegment, searchLines_raised]
  exact searchLines_cons checked readLine_lowered rfl rfl (by decide)

/-- A page of each change. -/
theorem wholeSegment_paged :
    PagedScan changeService changePlan.filters wholeSegment 0 [1, 2] ["raise", "lower"] 0 := by
  have first : searchLines changeService changePlan 0 ((wholeSegment.take 1).drop 0)
      (pageState changeService wholeSegment 0 1) =
        (.exhausted, ⟨scanBehind raised 0 ["raise"] 1, 0, 0, 0⟩) :=
    searchLines_raised wholeSegment []
  have second : searchLines changeService changePlan 1 ((wholeSegment.take 2).drop 1)
      (pageState changeService wholeSegment 1 0) =
        (.exhausted, ⟨scanBehind lowered 1 ["lower"] 1, 0, 0, 0⟩) := searchLines_lowered_alone
  have one : 1 ≤ wholeSegment.length := Nat.le_succ 1
  have two : 2 ≤ wholeSegment.length := Nat.le_refl 2
  have rest : PagedScan changeService changePlan.filters wholeSegment 1 [2] (["lower"] ++ []) (0 + 0) :=
    .goesOn rfl (Nat.le_succ 1) two second rfl (.ended two)
  exact .goesOn rfl (Nat.zero_le 1) one first rfl rest

/-- Two pages over a whole segment return what one does. -/
theorem pagedScan_agrees_wholeSegment :
    ["raise", "lower"] = (searchLines changeService changePlan 0 wholeSegment
        (pageState changeService wholeSegment 0 1)).2.scan.events ∧
      0 = (searchLines changeService changePlan 0 wholeSegment
        (pageState changeService wholeSegment 0 1)).2.scan.chainBreaks := by
  rw [wholeSegment_unpaged]
  apply pagedScan_agrees wholeSegment_unpaged (.inl rfl) wholeSegment_paged
  intro next goesOn
  rw [List.mem_cons, List.mem_singleton] at goesOn
  rcases goesOn with rfl | rfl
  · exact @boundaryTells_behind wholeSegment 1 raised [] rfl (verifiedLine_isSome readLine_raised)
  · exact @boundaryTells_behind wholeSegment 2 lowered _ rfl (verifiedLine_isSome readLine_lowered)

end Changes

end QueryGate
