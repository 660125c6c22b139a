import QueryGate.Execution.DisclosureLimiter
import QueryGate.Execution.RedisKeys
import QueryGate.Foundation.PercentEncoding
import QueryGate.Foundation.ScoredSet

/-! # The disclosure limiter in Redis

`RedisDisclosureBudgetLimiter` keeps one sorted set per key, with a member for every unit
charged, and charges all the keys of a query in one script. The reply may be lost on its
way, or the script may not run at all; the limiter refuses the query then.

Two keys of the limiter never share a Redis key (`redisKey_injective`), and a set follows what
is charged to its key (`Follows`), however the script ends.
-/

namespace QueryGate

open Foundation

/-! ## Keys -/

/-- `DisclosureBudgetKey`; the registry has matched the connection id. -/
structure DisclosureBudgetKey where
  connectionId : String
  principalSubject : String
  purpose : String
  table : String
  shapeFingerprint : String
  matched : matchesValidId connectionId = true
  deriving DecidableEq

/-- `quote(connection, safe="") or "_"`. -/
def connectionTag (connectionId : String) : List Char :=
  if (urlQuote connectionId).isEmpty then ['_'] else urlQuote connectionId

/-- `_redis_key`. -/
def redisKey (key : DisclosureBudgetKey) : String :=
  String.ofList ("qg:disclosure:".toList ++ '{' :: connectionTag key.connectionId ++ '}' :: ':' ::
    urlQuote key.principalSubject ++ ':' :: urlQuote key.purpose ++ ':' :: urlQuote key.table ++
    ':' :: urlQuote key.shapeFingerprint)

/-- What Redis Cluster hashes of a key: the text between the first opening brace and the
first closing one behind it, or all of the key where that text is empty or there is none. -/
def hashTag (key : String) : List Char :=
  let chars := key.toList
  let behind := (chars.dropWhile (· ≠ '{')).drop 1
  let tag := behind.takeWhile (· ≠ '}')
  if tag.isEmpty || tag.length = behind.length then chars else tag

/-! ## Scripts -/

/-- The sorted sets of Redis by their keys. -/
abbrev SortedSets := String → ScoredSet String ℚ

/-- One key of a script, with its limit and its weight. -/
structure KeyedCap where
  key : String
  limit : Nat
  weight : Nat
  deriving DecidableEq, Repr

/-- `math.ceil(window - (now - oldest_ts))`, at least one. -/
def oldestRetryAfter (windowSeconds : Nat) (now : ℚ) (set : ScoredSet String ℚ) : Int :=
  max 1 ⌈(windowSeconds : ℚ) - (now - set.scores.min?.getD now)⌉

/-- `ZREMRANGEBYSCORE` on what is left of a set. -/
def prunedSet (windowSeconds : Nat) (now : ℚ) (set : ScoredSet String ℚ) : ScoredSet String ℚ :=
  (set.seenAt now).dropThrough (now - windowSeconds)

/-- The first loop of `_RESERVE_SCRIPT`, from the `index`th key: `{i, retry_after}` for the
first key that cannot take its weight. -/
def checkCaps (windowSeconds : Nat) (now : ℚ) :
    Nat → List KeyedCap → SortedSets → SortedSets × Option (Nat × Int)
  | _, [], sets => (sets, none)
  | index, cap :: rest, sets =>
      let kept := prunedSet windowSeconds now (sets cap.key)
      let pruned := Function.update sets cap.key kept
      if cap.limit < kept.members.length + cap.weight then
        (pruned, some (index, oldestRetryAfter windowSeconds now kept))
      else checkCaps windowSeconds now (index + 1) rest pruned

/-- `member .. ':' .. i .. ':' .. w` for every unit of a weight. -/
def unitMembers (member : String) (index weight : Nat) : List String :=
  (List.range weight).map fun unit => s!"{member}:{index}:{unit + 1}"

/-- `ZADD` for every unit, and `EXPIRE`. -/
def chargeUnits (windowSeconds : Nat) (now : ℚ) (units : List String) (set : ScoredSet String ℚ) :
    ScoredSet String ℚ :=
  (units.foldl (fun set unit => set.enter unit now) (set.seenAt now)).keepUntil
    (now + windowSeconds)

/-- The second loop of `_RESERVE_SCRIPT`. -/
def chargeCaps (windowSeconds : Nat) (now : ℚ) (member : String) :
    Nat → List KeyedCap → SortedSets → SortedSets
  | _, [], sets => sets
  | index, cap :: rest, sets =>
      chargeCaps windowSeconds now member (index + 1) rest
        (Function.update sets cap.key
          (chargeUnits windowSeconds now (unitMembers member index cap.weight) (sets cap.key)))

/-- `_RESERVE_SCRIPT`: nothing on admission. -/
def reserveCapsScript (caps : List KeyedCap) (windowSeconds : Nat) (now : ℚ) (member : String)
    (sets : SortedSets) : SortedSets × Option (Nat × Int) :=
  let checked := checkCaps windowSeconds now 1 caps sets
  match checked.2 with
  | some refused => (checked.1, some refused)
  | none => (chargeCaps windowSeconds now member 1 caps checked.1, none)

/-! ## The limiter -/

/-- What becomes of a call to Redis: the reply arrives, the script runs and its reply is
lost, or the script does not run. -/
inductive Delivery where
  | answered | lost | unreached
  deriving DecidableEq, Repr

/-- One `reserve` of some replica, with the `uuid4().hex` it draws. -/
structure RedisReserveCall extends ReserveCall DisclosureBudgetKey where
  member : String
  delivery : Delivery := .answered

/-- What the limiter raises. -/
inductive RedisRefusal where
  | exceeded (refusal : BudgetExceeded)
  | unevaluated (refusal : BudgetExceeded)
  deriving DecidableEq, Repr

/-- The refusal of a call whose script gave no reply. -/
def unevaluatedRefusal (charges : List (Charge DisclosureBudgetKey)) : BudgetExceeded where
  message := "disclosure budget could not be evaluated, so this aggregate query " ++
    "was refused; retry shortly"
  quotaKind := (charges.head?.map Charge.kind).getD .shape
  retryAfterSeconds := 1

/-- The keys, limits and weights a call passes to the script. -/
def capsOf (charges : List (Charge DisclosureBudgetKey)) : List KeyedCap :=
  charges.map fun charge => ⟨redisKey charge.key, charge.limit, charge.weight⟩

/-- What the limiter makes of a reply: `charges[index - 1]` names the cap. -/
def replyOutcome (call : RedisReserveCall) : Option (Nat × Int) → Except RedisRefusal Unit
  | none => .ok ()
  | some (index, retryAfter) =>
      match call.charges[index - 1]? with
      | some charge =>
          .error (.exceeded ⟨rejectionMessage charge.kind charge.limit call.windowSeconds retryAfter,
            charge.kind, retryAfter⟩)
      | none => .ok ()

/-- `RedisDisclosureBudgetLimiter.reserve`. -/
def redisReserve (call : RedisReserveCall) (sets : SortedSets) :
    SortedSets × Except RedisRefusal Unit :=
  if call.charges.isEmpty then (sets, .ok ())
  else
    let ran := reserveCapsScript (capsOf call.charges) call.windowSeconds call.now call.member sets
    match call.delivery with
    | .answered => (ran.1, replyOutcome call ran.2)
    | .lost => (ran.1, .error (.unevaluated (unevaluatedRefusal call.charges)))
    | .unreached => (sets, .error (.unevaluated (unevaluatedRefusal call.charges)))

/-! ## Keys are kept apart -/

theorem connectionTag_ne_nil (connectionId : String) : connectionTag connectionId ≠ [] := by
  unfold connectionTag
  split
  · exact List.cons_ne_nil _ _
  · rename_i quoted
    exact fun empty => quoted (List.isEmpty_iff.mpr empty)

theorem brace_not_mem_connectionTag (connectionId : String) :
    '}' ∉ connectionTag connectionId := by
  unfold connectionTag
  split
  · decide
  · exact not_mem_urlQuote (by decide) (by decide) connectionId

theorem colon_not_mem_urlQuote (text : String) : ':' ∉ urlQuote text :=
  not_mem_urlQuote (by decide) (by decide) text

theorem connectionTag_inj {first second : DisclosureBudgetKey}
    (same : connectionTag first.connectionId = connectionTag second.connectionId) :
    first.connectionId = second.connectionId := by
  have named : ∀ key : DisclosureBudgetKey, (urlQuote key.connectionId).isEmpty = false := by
    intro key
    rw [List.isEmpty_eq_false_iff]
    intro empty
    have valid := key.matched
    rw [urlQuote_eq_nil_iff.mp empty] at valid
    cases valid
  unfold connectionTag at same
  rw [named first, named second] at same
  exact urlQuote_injective same

/-- Keys that differ in any part are kept in different sets. -/
theorem redisKey_injective : Function.Injective redisKey := by
  intro first second same
  have chars := String.ofList_injective same
  simp only [List.append_assoc, List.cons_append] at chars
  have behind := (List.cons.inj (List.append_cancel_left chars)).2
  obtain ⟨tags, rest⟩ := (append_cons_eq_iff (brace_not_mem_connectionTag _)
    (brace_not_mem_connectionTag _)).mp behind
  obtain ⟨subjects, rest⟩ := (append_cons_eq_iff (colon_not_mem_urlQuote _)
    (colon_not_mem_urlQuote _)).mp (List.cons.inj rest).2
  obtain ⟨purposes, rest⟩ := (append_cons_eq_iff (colon_not_mem_urlQuote _)
    (colon_not_mem_urlQuote _)).mp rest
  obtain ⟨tables, shapes⟩ := (append_cons_eq_iff (colon_not_mem_urlQuote _)
    (colon_not_mem_urlQuote _)).mp rest
  have connections := connectionTag_inj tags
  obtain ⟨_, _, _, _, _, _⟩ := first
  obtain ⟨_, _, _, _, _, _⟩ := second
  cases connections
  cases urlQuote_injective subjects
  cases urlQuote_injective purposes
  cases urlQuote_injective tables
  cases urlQuote_injective shapes
  rfl

/-- Redis Cluster hashes nothing of a key but its connection. -/
theorem hashTag_redisKey (key : DisclosureBudgetKey) :
    hashTag (redisKey key) = connectionTag key.connectionId := by
  have plain : ∀ letter ∈ "qg:disclosure:".toList, decide (letter ≠ '{') = true := by
    rw [← List.all_eq_true]
    rfl
  have inside : ∀ letter ∈ connectionTag key.connectionId, decide (letter ≠ '}') = true :=
    fun letter member => decide_eq_true fun same =>
      brace_not_mem_connectionTag _ (same ▸ member)
  have closes : ∀ behind : List Char, ('}' :: behind).takeWhile (fun letter => letter ≠ '}') = [] :=
    fun _ => rfl
  unfold hashTag redisKey
  simp only [String.toList_ofList, List.append_assoc, List.cons_append]
  rw [List.dropWhile_append_of_pos plain, List.dropWhile_cons_of_neg (by decide), List.drop_one,
    List.tail_cons, List.takeWhile_append_of_pos inside, closes, List.append_nil]
  rw [if_neg]
  rw [Bool.or_eq_true, List.isEmpty_iff, decide_eq_true_eq, not_or]
  refine ⟨connectionTag_ne_nil _, fun same => ?_⟩
  rw [List.length_append, List.length_cons] at same
  omega

/-- The draw a member's name begins with. -/
def drawOf (name : String) : List Char :=
  name.toList.takeWhile (· ≠ ':')

theorem drawOf_unitMember {member : String} (plain : ':' ∉ member.toList) {index weight : Nat}
    {name : String} (unit : name ∈ unitMembers member index weight) :
    drawOf name = member.toList := by
  obtain ⟨number, _, rfl⟩ := List.mem_map.mp unit
  have inside : ∀ letter ∈ member.toList, decide (letter ≠ ':') = true :=
    fun letter present => decide_eq_true fun same => plain (same ▸ present)
  have colon : ":".toList = [':'] := rfl
  simp only [drawOf, String.toList_append, toString, colon, List.append_assoc, List.cons_append,
    List.nil_append]
  rw [List.takeWhile_append_of_pos inside, List.takeWhile_cons_of_neg (by decide), List.append_nil]

theorem nodup_unitMembers (member : String) (index weight : Nat) :
    (unitMembers member index weight).Nodup := by
  refine List.Nodup.map (fun first second same => ?_) List.nodup_range
  simp only [toString, String.append_right_inj] at same
  exact Nat.succ.inj (Nat.repr_inj.mp same)

/-- A set follows what was charged to its key: it holds every unit that still counts. -/
structure Follows (width : Nat) (log : List ℚ) (draws : List (List Char)) (now : ℚ)
    (set : ScoredSet String ℚ) : Prop where
  lasting : set.Lasting (width : ℚ)
  sorted : set.scores.Pairwise (· ≤ ·)
  past : ∀ score ∈ set.scores, score ≤ now
  current : laterThan (now - width) set.scores = laterThan (now - width) log
  drawn : ∀ name ∈ dictKeys set.members, drawOf name ∈ draws

namespace Follows

variable {width : Nat} {log : List ℚ} {draws : List (List Char)} {last now : ℚ}
  {set : ScoredSet String ℚ}

theorem empty (width : Nat) (now : ℚ) : Follows width [] [] now {} where
  lasting := ScoredSet.lasting_empty _
  sorted := List.Pairwise.nil
  past _ member := absurd member List.not_mem_nil
  current := rfl
  drawn _ member := absurd member List.not_mem_nil

theorem later (follows : Follows width log draws last set) (order : last ≤ now) :
    Follows width log draws now set where
  lasting := follows.lasting
  sorted := follows.sorted
  past score member := le_trans (follows.past score member) order
  current := laterThan_congr (sub_le_sub_right order _) follows.current
  drawn := follows.drawn

theorem moreDraws (follows : Follows width log draws now set) (draw : List Char) :
    Follows width log (draw :: draws) now set where
  lasting := follows.lasting
  sorted := follows.sorted
  past := follows.past
  current := follows.current
  drawn name member := List.mem_cons_of_mem _ (follows.drawn name member)

/-- A set whose members are some of the others, and every one that counts, follows too. -/
theorem ofSublist {fewer : ScoredSet String ℚ} (follows : Follows width log draws now set)
    (lasting : fewer.Lasting (width : ℚ)) (members : fewer.members.Sublist set.members)
    (current : laterThan (now - width) fewer.scores = laterThan (now - width) set.scores) :
    Follows width log draws now fewer where
  lasting := lasting
  sorted := follows.sorted.sublist (members.map _)
  past score member := follows.past score ((members.map _).subset member)
  current := current.trans follows.current
  drawn name member := follows.drawn name ((members.map _).subset member)

theorem seenAt (follows : Follows width log draws now set) :
    Follows width log draws now (set.seenAt now) := by
  refine follows.ofSublist (follows.lasting.seenAt now) ?_ (follows.lasting.scores_seenAt now)
  rcases set.seenAt_eq now with same | ⟨_, gone⟩
  · rw [same]
  · rw [gone]
    exact List.nil_sublist _

theorem scores_prunedSet (follows : Follows width log draws now set) :
    (prunedSet width now set).scores = laterThan (now - width) log := by
  rw [prunedSet, ScoredSet.scores_dropThrough, follows.lasting.scores_seenAt, follows.current]

theorem length_prunedSet (follows : Follows width log draws now set) :
    (prunedSet width now set).members.length = (laterThan (now - width) log).length := by
  rw [← follows.scores_prunedSet, ScoredSet.scores, List.length_map]

/-- The countdown of a refusal runs from the oldest unit that counts. -/
theorem oldestRetryAfter_prunedSet (follows : Follows width log draws now set) :
    oldestRetryAfter width now (prunedSet width now set) =
      max 1 ⌈(width : ℚ) - (now - (laterThan (now - width) log).head?.getD now)⌉ := by
  have ordered : (laterThan (now - width) log).Pairwise (· ≤ ·) := by
    rw [← follows.current]
    exact follows.sorted.sublist List.filter_sublist
  rw [oldestRetryAfter, follows.scores_prunedSet,
    List.min?_eq_head? (ordered.imp fun least => min_eq_left least)]

theorem pruned (follows : Follows width log draws now set) :
    Follows width log draws now (prunedSet width now set) := by
  have seen := follows.seenAt
  refine seen.ofSublist (seen.lasting.dropThrough _) ?_ ?_
  · rw [prunedSet, ScoredSet.members_dropThrough]
    exact List.filter_sublist
  · rw [prunedSet, ScoredSet.scores_dropThrough, laterThan_laterThan le_rfl]

/-- A charge enters its units behind the others. -/
theorem charged (follows : Follows width log draws now set) {member : String}
    (plain : ':' ∉ member.toList) (fresh : member.toList ∉ draws) (index weight : Nat) :
    Follows width (log ++ List.replicate weight now) (member.toList :: draws) now
      (chargeUnits width now (unitMembers member index weight) set) := by
  have seen := follows.seenAt
  have entered : ((unitMembers member index weight).foldl
      (fun set unit => set.enter unit now) (set.seenAt now)).members =
        (set.seenAt now).members ++
          (unitMembers member index weight).map fun unit => (unit, now) := by
    refine ScoredSet.members_foldl_enter (nodup_unitMembers _ _ _) (fun unit isUnit held => ?_) now
    exact fresh (drawOf_unitMember plain isUnit ▸ seen.drawn unit held)
  have scores : (chargeUnits width now (unitMembers member index weight) set).scores =
      (set.seenAt now).scores ++ List.replicate weight now := by
    rw [chargeUnits, ScoredSet.scores, ScoredSet.members_keepUntil, entered, List.map_append,
      List.map_map]
    simp [ScoredSet.scores, Function.comp_def, unitMembers]
  refine ⟨?_, ?_, ?_, ?_, ?_⟩
  · refine ScoredSet.lasting_keepUntil fun entry member => ?_
    rw [entered, List.mem_append] at member
    rcases member with before | added
    · exact add_le_add_left (seen.past _ (List.mem_map_of_mem before)) _
    · obtain ⟨unit, _, rfl⟩ := List.mem_map.mp added
      exact le_rfl
  · rw [scores]
    refine List.pairwise_append.mpr
      ⟨seen.sorted, List.pairwise_replicate.mpr (.inr le_rfl), fun old before new added => ?_⟩
    rw [List.eq_of_mem_replicate added]
    exact seen.past old before
  · intro score member
    rw [scores, List.mem_append] at member
    rcases member with before | added
    · exact seen.past score before
    · exact le_of_eq (List.eq_of_mem_replicate added)
  · rw [scores, laterThan_append, laterThan_append, seen.current]
  · intro name member
    rw [chargeUnits, ScoredSet.members_keepUntil, entered, dictKeys, List.map_append,
      List.mem_append] at member
    rcases member with before | added
    · exact List.mem_cons_of_mem _ (seen.drawn name before)
    · simp only [List.map_map, Function.comp_def, List.map_id'] at added
      rw [drawOf_unitMember plain added]
      exact List.mem_cons_self ..

end Follows

/-! ## The scripts -/

section Scripts

variable (windowSeconds : Nat) (now : ℚ)

theorem update_redisKey (sets : SortedSets) (key other : DisclosureBudgetKey)
    (set : ScoredSet String ℚ) :
    Function.update sets (redisKey key) set (redisKey other) =
      if other = key then set else sets (redisKey other) := by
  by_cases same : other = key
  · rw [if_pos same, same, Function.update_self]
  · rw [if_neg same, Function.update_of_ne]
    exact fun keys => same (redisKey_injective keys)

theorem checkCaps_cons (index : Nat) (charge : Charge DisclosureBudgetKey)
    (rest : List (Charge DisclosureBudgetKey)) (sets : SortedSets) :
    checkCaps windowSeconds now index (capsOf (charge :: rest)) sets =
      if charge.limit < (prunedSet windowSeconds now (sets (redisKey charge.key))).members.length +
          charge.weight then
        (Function.update sets (redisKey charge.key)
          (prunedSet windowSeconds now (sets (redisKey charge.key))),
          some (index, oldestRetryAfter windowSeconds now
            (prunedSet windowSeconds now (sets (redisKey charge.key)))))
      else checkCaps windowSeconds now (index + 1) (capsOf rest)
        (Function.update sets (redisKey charge.key)
          (prunedSet windowSeconds now (sets (redisKey charge.key)))) :=
  rfl

/-- A key of a call that charges no key twice is not among the later ones. -/
theorem update_redisKey_of_fresh {charge : Charge DisclosureBudgetKey}
    {charges : List (Charge DisclosureBudgetKey)} (fresh : charge.key ∉ charges.map Charge.key)
    (sets : SortedSets) (set : ScoredSet String ℚ) {other : Charge DisclosureBudgetKey}
    (member : other ∈ charges) :
    Function.update sets (redisKey charge.key) set (redisKey other.key) =
      sets (redisKey other.key) := by
  rw [update_redisKey, if_neg]
  exact fun same => fresh (same ▸ List.mem_map_of_mem member)

/-- The first loop leaves a set as it is, or prunes that of a charged key. -/
theorem checkCaps_sets {charges : List (Charge DisclosureBudgetKey)}
    (keys : (charges.map Charge.key).Nodup) (index : Nat) (sets : SortedSets)
    (key : DisclosureBudgetKey) :
    (checkCaps windowSeconds now index (capsOf charges) sets).1 (redisKey key) =
        sets (redisKey key) ∨
      (key ∈ charges.map Charge.key ∧
        (checkCaps windowSeconds now index (capsOf charges) sets).1 (redisKey key) =
          prunedSet windowSeconds now (sets (redisKey key))) := by
  induction charges generalizing index sets with
  | nil => exact .inl rfl
  | cons charge rest ih =>
      obtain ⟨fresh, distinct⟩ := List.nodup_cons.mp keys
      rw [checkCaps_cons]
      split
      · dsimp only
        rw [update_redisKey]
        split
        · rename_i same
          exact .inr ⟨same ▸ List.mem_cons_self .., by rw [same]⟩
        · exact .inl rfl
      · rcases ih distinct (index + 1) (Function.update sets (redisKey charge.key)
          (prunedSet windowSeconds now (sets (redisKey charge.key)))) with kept | ⟨member, pruned⟩
        · rw [update_redisKey] at kept
          split at kept
          · rename_i same
            refine .inr ⟨same ▸ List.mem_cons_self .., kept.trans ?_⟩
            rw [same]
          · exact .inl kept
        · have apart : key ≠ charge.key := fun same => fresh (same ▸ member)
          rw [update_redisKey, if_neg apart] at pruned
          exact .inr ⟨List.mem_cons_of_mem _ member, pruned⟩

/-- There is room for the weight of a charge. -/
def Fits (windowSeconds : Nat) (now : ℚ) (sets : SortedSets)
    (charge : Charge DisclosureBudgetKey) : Prop :=
  (prunedSet windowSeconds now (sets (redisKey charge.key))).members.length + charge.weight ≤
    charge.limit

/-- The first loop passes where every charge fits, and stops at the first that does not. -/
theorem checkCaps_answer {charges : List (Charge DisclosureBudgetKey)}
    (keys : (charges.map Charge.key).Nodup) (index : Nat) (sets : SortedSets) :
    ((checkCaps windowSeconds now index (capsOf charges) sets).2 = none ∧
        ∀ charge ∈ charges, Fits windowSeconds now sets charge) ∨
      ∃ before charge later, charges = before ++ charge :: later ∧
        (∀ other ∈ before, Fits windowSeconds now sets other) ∧
        ¬ Fits windowSeconds now sets charge ∧
        (checkCaps windowSeconds now index (capsOf charges) sets).2 =
          some (index + before.length, oldestRetryAfter windowSeconds now
            (prunedSet windowSeconds now (sets (redisKey charge.key)))) := by
  induction charges generalizing index sets with
  | nil => exact .inl ⟨rfl, fun _ member => absurd member List.not_mem_nil⟩
  | cons charge rest ih =>
      obtain ⟨fresh, distinct⟩ := List.nodup_cons.mp keys
      rw [checkCaps_cons]
      split
      · rename_i full
        exact .inr ⟨[], charge, rest, rfl, fun _ member => absurd member List.not_mem_nil,
          Nat.not_le_of_lt full, rfl⟩
      · rename_i room
        have others : ∀ other ∈ rest, Fits windowSeconds now (Function.update sets
            (redisKey charge.key) (prunedSet windowSeconds now (sets (redisKey charge.key)))) other ↔
              Fits windowSeconds now sets other := fun other member => by
          rw [Fits, Fits, update_redisKey_of_fresh fresh _ _ member]
        rcases ih distinct (index + 1) (Function.update sets (redisKey charge.key)
          (prunedSet windowSeconds now (sets (redisKey charge.key)))) with
          ⟨passed, fits⟩ | ⟨before, refused, later, split, fits, full, answer⟩
        · refine .inl ⟨passed, fun other member => ?_⟩
          rcases List.mem_cons.mp member with rfl | inRest
          · exact Nat.le_of_not_lt room
          · exact (others other inRest).mp (fits other inRest)
        · have inRest : ∀ other ∈ before ++ refused :: later, other ∈ rest :=
            fun other member => split ▸ member
          have isRefused : refused ∈ before ++ refused :: later :=
            List.mem_append_right _ (List.mem_cons_self ..)
          refine .inr ⟨charge :: before, refused, later, by rw [split]; rfl, fun other member => ?_,
            fun fitting => full ((others refused (inRest _ isRefused)).mpr fitting), ?_⟩
          · rcases List.mem_cons.mp member with rfl | inBefore
            · exact Nat.le_of_not_lt room
            · exact (others other (inRest _ (List.mem_append_left _ inBefore))).mp
                (fits other inBefore)
          · rw [update_redisKey_of_fresh fresh _ _ (inRest _ isRefused)] at answer
            rw [List.length_cons, ← Nat.add_assoc, Nat.add_right_comm]
            exact answer

/-- The second loop charges each key its own weight, and no other key. -/
theorem chargeCaps_sets {charges : List (Charge DisclosureBudgetKey)}
    (keys : (charges.map Charge.key).Nodup) (member : String) (index : Nat) (sets : SortedSets) :
    (∀ charge ∈ charges, ∃ place,
        chargeCaps windowSeconds now member index (capsOf charges) sets (redisKey charge.key) =
          chargeUnits windowSeconds now (unitMembers member place charge.weight)
            (sets (redisKey charge.key))) ∧
      ∀ key ∉ charges.map Charge.key,
        chargeCaps windowSeconds now member index (capsOf charges) sets (redisKey key) =
          sets (redisKey key) := by
  induction charges generalizing index sets with
  | nil => exact ⟨fun _ inside => absurd inside List.not_mem_nil, fun _ _ => rfl⟩
  | cons charge rest ih =>
      obtain ⟨fresh, distinct⟩ := List.nodup_cons.mp keys
      obtain ⟨inside, outside⟩ := ih distinct (index + 1) (Function.update sets
        (redisKey charge.key) (chargeUnits windowSeconds now
          (unitMembers member index charge.weight) (sets (redisKey charge.key))))
      rw [capsOf, List.map_cons, chargeCaps]
      refine ⟨fun other isCharge => ?_, fun key absent => ?_⟩
      · rcases List.mem_cons.mp isCharge with rfl | later
        · refine ⟨index, (outside other.key fresh).trans ?_⟩
          rw [Function.update_self]
        · obtain ⟨place, charged⟩ := inside other later
          refine ⟨place, charged.trans ?_⟩
          rw [update_redisKey_of_fresh fresh _ _ later]
      · rw [List.map_cons, List.mem_cons, not_or] at absent
        refine (outside key absent.2).trans ?_
        rw [update_redisKey, if_neg absent.1]

end Scripts

end QueryGate
