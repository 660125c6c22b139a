import QueryGate.Foundation.Dict
import QueryGate.Foundation.SlidingWindow

/-! # The request and byte quota

The rolling-window quota of one key with fixed limits, twice: `InProcessQuotaLimiter`
keeps a log of entries, and the Lua scripts of `RedisQuotaLimiter` keep a sorted set of
members with a hash of their bytes. Instants are exact rationals. A reservation is
known by a label: the entry object of the one, the member of the other.

Both decide by what was admitted inside the window, and by nothing else
(`quotaHolds_of_ordered`).
-/

namespace QueryGate

open Foundation

/-- The limits a key is reserved with. -/
structure QuotaLimits where
  maxRequests : Option Nat := none
  maxResponseBytes : Option Nat := none
  windowSeconds : Nat := 60
  deriving DecidableEq, Repr

/-- Which cap a rejection is for. -/
inductive QuotaKind where
  | requests | bytes
  deriving DecidableEq, Repr

/-- `QuotaExceededError`. -/
structure QuotaExceeded where
  message : String
  quotaKind : QuotaKind
  retryAfterSeconds : Int
  deriving DecidableEq, Repr

/-- The rejection by the request cap. -/
def requestsExceeded (most : Nat) (limits : QuotaLimits) (retryAfter : Int) : QuotaExceeded where
  message := s!"request quota exceeded: at most {most} queries per " ++
    s!"{limits.windowSeconds}s window; retry in ~{retryAfter}s"
  quotaKind := .requests
  retryAfterSeconds := retryAfter

/-- The rejection by the byte cap. -/
def bytesExceeded (most : Nat) (limits : QuotaLimits) (retryAfter : Int) : QuotaExceeded where
  message := s!"response-byte quota exceeded: at most {most} bytes per " ++
    s!"{limits.windowSeconds}s window; retry in ~{retryAfter}s"
  quotaKind := .bytes
  retryAfterSeconds := retryAfter

/-- One call, with the instant it is made at. -/
inductive QuotaCall where
  | reserve (now : ℚ) (label : String)
  | recordBytes (now : ℚ) (label : String) (responseBytes : Int)
  deriving DecidableEq, Repr

/-- The instant of a call. -/
def QuotaCall.now : QuotaCall → ℚ
  | .reserve now _ => now
  | .recordBytes now _ _ => now

/-- The reservation a call asks for. -/
def QuotaCall.reserves : QuotaCall → Option String
  | .reserve _ label => some label
  | .recordBytes _ _ _ => none

/-- The answer to a call; there is none to `record_bytes`. -/
abbrev QuotaAnswer := Option (Except QuotaExceeded Unit)

/-- The answers along a sequence of calls. -/
def answers {S : Type} (step : S → QuotaCall → S × QuotaAnswer) : S → List QuotaCall →
    List QuotaAnswer
  | _, [] => []
  | state, call :: rest => (step state call).2 :: answers step (step state call).1 rest

/-- The state after a sequence of calls. -/
def stateAfter {S : Type} (step : S → QuotaCall → S × QuotaAnswer) (state : S)
    (calls : List QuotaCall) : S :=
  calls.foldl (fun state call => (step state call).1) state

/-! ## In process -/

/-- `_WindowEntry`. -/
structure QuotaEntry where
  label : String
  ts : ℚ
  responseBytes : Int := 0
  deriving DecidableEq, Repr

/-- The entries after a cutoff (`_prune`). -/
def pruneEntries (cutoff : ℚ) (entries : List QuotaEntry) : List QuotaEntry :=
  entries.filter fun entry => cutoff < entry.ts

/-- `_retry_after`. -/
def retryAfter (limits : QuotaLimits) (now : ℚ) (oldest : Option ℚ) : Int :=
  max 1 ⌈(limits.windowSeconds : ℚ) - (now - oldest.getD now)⌉

/-- `sum(e.response_bytes for e in entries)`. -/
def totalBytes (entries : List QuotaEntry) : Int :=
  (entries.map QuotaEntry.responseBytes).sum

/-- The request cap, against the number of entries in the window. -/
def requestRejection (limits : QuotaLimits) (count : Nat) (retryAfter : Int) :
    Option QuotaExceeded :=
  match limits.maxRequests with
  | some most => if most ≤ count then some (requestsExceeded most limits retryAfter) else none
  | none => none

/-- The byte cap, against the bytes in the window. -/
def byteRejection (limits : QuotaLimits) (total : Int) (retryAfter : Int) :
    Option QuotaExceeded :=
  match limits.maxResponseBytes with
  | some most => if (most : Int) ≤ total then some (bytesExceeded most limits retryAfter) else none
  | none => none

/-- The first cap that pruned entries leave no room under. -/
def rejectionOf (limits : QuotaLimits) (now : ℚ) (entries : List QuotaEntry) :
    Option QuotaExceeded :=
  let wait := retryAfter limits now (entries.head?.map QuotaEntry.ts)
  (requestRejection limits entries.length wait).or
    (byteRejection limits (totalBytes entries) wait)

/-- Set the bytes of an entry, where it is still there. -/
def creditEntry (label : String) (responseBytes : Int) (entries : List QuotaEntry) :
    List QuotaEntry :=
  entries.map fun entry =>
    if entry.label = label then { entry with responseBytes := max 0 responseBytes } else entry

/-- `InProcessQuotaLimiter.reserve`, and `record_bytes`. -/
def inProcessStep (limits : QuotaLimits) (entries : List QuotaEntry) :
    QuotaCall → List QuotaEntry × QuotaAnswer
  | .reserve now label =>
      let kept := pruneEntries (now - limits.windowSeconds) entries
      match rejectionOf limits now kept with
      | some exceeded => (kept, some (.error exceeded))
      | none => (kept ++ [{ label := label, ts := now }], some (.ok ()))
  | .recordBytes _ label responseBytes => (creditEntry label responseBytes entries, none)

/-! ## In Redis -/

/-- The two keys of a quota: the sorted set of members by their instants, and the hash
of their bytes, each with the instant it expires at. -/
structure RedisQuota where
  zset : List (String × ℚ) := []
  hash : List (String × Int) := []
  zsetExpires : Option ℚ := none
  hashExpires : Option ℚ := none

/-- The key has expired. -/
def hasExpired (now : ℚ) : Option ℚ → Bool
  | none => false
  | some instant => instant < now

/-- What Redis holds at an instant. -/
def RedisQuota.at (store : RedisQuota) (now : ℚ) : RedisQuota :=
  { store with
    zset := if hasExpired now store.zsetExpires then [] else store.zset
    hash := if hasExpired now store.hashExpires then [] else store.hash }

/-- The head of `_RESERVE_SCRIPT`: drop the aged members from both keys. -/
def RedisQuota.prune (store : RedisQuota) (cutoff : ℚ) : RedisQuota :=
  let aged := (store.zset.filter fun member => member.2 ≤ cutoff).map Prod.fst
  { store with
    zset := store.zset.filter fun member => ¬ member.2 ≤ cutoff
    hash := store.hash.filter fun field => field.1 ∉ aged }

/-- The decision of `_RESERVE_SCRIPT`, on pruned keys. -/
def RedisQuota.rejection (store : RedisQuota) (limits : QuotaLimits) (now : ℚ) :
    Option QuotaExceeded :=
  let wait := retryAfter limits now (store.zset.map Prod.snd).min?
  (requestRejection limits store.zset.length wait).or
    (byteRejection limits (store.hash.map Prod.snd).sum wait)

/-- `ZADD`, `HSET` and the two `EXPIRE` of an admission. -/
def RedisQuota.admitted (store : RedisQuota) (limits : QuotaLimits) (now : ℚ) (label : String) :
    RedisQuota where
  zset := dictSet store.zset label now
  hash := dictSet store.hash label 0
  zsetExpires := some (now + limits.windowSeconds)
  hashExpires := some (now + limits.windowSeconds)

/-- `_RESERVE_SCRIPT`, and `_RECORD_BYTES_SCRIPT`, each at its instant. -/
def redisStep (limits : QuotaLimits) (store : RedisQuota) :
    QuotaCall → RedisQuota × QuotaAnswer
  | .reserve now label =>
      let kept := (store.at now).prune (now - limits.windowSeconds)
      match kept.rejection limits now with
      | some exceeded => (kept, some (.error exceeded))
      | none => (kept.admitted limits now label, some (.ok ()))
  | .recordBytes now label responseBytes =>
      let held := store.at now
      if (dictGet held.zset label).isSome then
        ({ held with hash := dictSet held.hash label (max 0 responseBytes) }, none)
      else (held, none)

/-! ## What was admitted -/

/-- The in-process limiter with the log of all it has admitted. -/
structure FollowedQuota where
  entries : List QuotaEntry := []
  log : List QuotaEntry := []

/-- One call, with the log kept. -/
def FollowedQuota.step (limits : QuotaLimits) (followed : FollowedQuota) (call : QuotaCall) :
    FollowedQuota where
  entries := (inProcessStep limits followed.entries call).1
  log :=
    match call with
    | .reserve now label =>
        match (inProcessStep limits followed.entries call).2 with
        | some (.ok _) => followed.log ++ [{ label := label, ts := now }]
        | _ => followed.log
    | .recordBytes _ label responseBytes => creditEntry label responseBytes followed.log

/-- All that was admitted along a sequence of calls, with the bytes recorded for it. -/
def admittedLog (limits : QuotaLimits) (calls : List QuotaCall) : List QuotaEntry :=
  (calls.foldl (FollowedQuota.step limits) {}).log

/-- The entries of a log in the window that ends at an instant. -/
def inWindow (limits : QuotaLimits) (now : ℚ) (log : List QuotaEntry) : List QuotaEntry :=
  log.filter fun entry => now - limits.windowSeconds < entry.ts ∧ entry.ts ≤ now

/-- There is room under both caps. -/
def HasRoom (limits : QuotaLimits) (now : ℚ) (log : List QuotaEntry) : Prop :=
  (∀ most ∈ limits.maxRequests, (inWindow limits now log).length < most) ∧
    ∀ most ∈ limits.maxResponseBytes, totalBytes (inWindow limits now log) < (most : Int)

/-- What holds of the quota along a sequence of calls. -/
structure QuotaHolds (limits : QuotaLimits) (calls : List QuotaCall) : Prop where
  bounded : ∀ most ∈ limits.maxRequests, ∀ instant,
    (inWindow limits instant (admittedLog limits calls)).length ≤ most
  exact : ∀ {before later : List QuotaCall} {now : ℚ} {label : String},
    calls = before ++ .reserve now label :: later →
    ((inProcessStep limits (stateAfter (inProcessStep limits) [] before)
      (.reserve now label)).2 = some (.ok ()) ↔ HasRoom limits now (admittedLog limits before))
  inert : ∀ {before later : List QuotaCall} {call : QuotaCall} {exceeded : QuotaExceeded},
    calls = before ++ call :: later →
    (inProcessStep limits (stateAfter (inProcessStep limits) [] before) call).2 =
      some (.error exceeded) →
    answers (inProcessStep limits) (stateAfter (inProcessStep limits) [] (before ++ [call])) later =
      answers (inProcessStep limits) (stateAfter (inProcessStep limits) [] before) later
  sameDecisions : answers (redisStep limits) {} calls = answers (inProcessStep limits) [] calls
  fieldsInSet : ∀ {before later : List QuotaCall}, calls = before ++ later →
    dictKeys (stateAfter (redisStep limits) {} before).hash ⊆
      dictKeys (stateAfter (redisStep limits) {} before).zset

/-! ## Entries that still count -/

theorem pruneEntries_pruneEntries {cutoff later : ℚ} (order : cutoff ≤ later)
    (entries : List QuotaEntry) :
    pruneEntries later (pruneEntries cutoff entries) = pruneEntries later entries := by
  unfold pruneEntries
  rw [List.filter_filter]
  refine List.filter_congr fun entry _ => ?_
  rw [Bool.and_eq_left_iff_imp]
  simpa only [decide_eq_true_eq] using fun after => lt_of_le_of_lt order after

theorem pruneEntries_append (cutoff : ℚ) (first second : List QuotaEntry) :
    pruneEntries cutoff (first ++ second) =
      pruneEntries cutoff first ++ pruneEntries cutoff second :=
  List.filter_append ..

theorem pruneEntries_creditEntry (cutoff : ℚ) (label : String) (responseBytes : Int)
    (entries : List QuotaEntry) :
    pruneEntries cutoff (creditEntry label responseBytes entries) =
      creditEntry label responseBytes (pruneEntries cutoff entries) := by
  unfold pruneEntries creditEntry
  rw [List.filter_map]
  congr 2
  funext entry
  simp only [Function.comp_apply]
  split
  · rfl
  · rfl

theorem length_pruneEntries (cutoff : ℚ) (entries : List QuotaEntry) :
    (pruneEntries cutoff entries).length = (laterThan cutoff (entries.map QuotaEntry.ts)).length := by
  unfold pruneEntries laterThan
  rw [List.filter_map, List.length_map]
  rfl

/-- The entries agree on what still counts at an instant. -/
def Alike (limits : QuotaLimits) (now : ℚ) (first second : List QuotaEntry) : Prop :=
  pruneEntries (now - limits.windowSeconds) first = pruneEntries (now - limits.windowSeconds) second

namespace Alike

variable {limits : QuotaLimits} {now later : ℚ} {first second : List QuotaEntry}

theorem mono (alike : Alike limits now first second) (order : now ≤ later) :
    Alike limits later first second := by
  have cutoffs : now - (limits.windowSeconds : ℚ) ≤ later - limits.windowSeconds :=
    sub_le_sub_right order _
  unfold Alike
  rw [← pruneEntries_pruneEntries cutoffs first, alike, pruneEntries_pruneEntries cutoffs]

theorem pruned (limits : QuotaLimits) (now : ℚ) (entries : List QuotaEntry) :
    Alike limits now (pruneEntries (now - limits.windowSeconds) entries) entries :=
  pruneEntries_pruneEntries le_rfl entries

theorem append (alike : Alike limits now first second) (fresh : List QuotaEntry) :
    Alike limits now (first ++ fresh) (second ++ fresh) := by
  unfold Alike
  rw [pruneEntries_append, pruneEntries_append, alike]

theorem credit (alike : Alike limits now first second) (label : String) (responseBytes : Int) :
    Alike limits now (creditEntry label responseBytes first)
      (creditEntry label responseBytes second) := by
  unfold Alike
  rw [pruneEntries_creditEntry, pruneEntries_creditEntry, alike]

/-- Entries that agree on what counts answer a call alike, and agree afterwards. -/
theorem step {call : QuotaCall} (alike : Alike limits call.now first second) :
    (inProcessStep limits first call).2 = (inProcessStep limits second call).2 ∧
      Alike limits call.now (inProcessStep limits first call).1
        (inProcessStep limits second call).1 := by
  cases call with
  | recordBytes now label responseBytes => exact ⟨rfl, alike.credit label responseBytes⟩
  | reserve now label =>
      have same : inProcessStep limits first (.reserve now label) =
          inProcessStep limits second (.reserve now label) := by
        rw [inProcessStep, inProcessStep]
        rw [show pruneEntries (now - limits.windowSeconds) first =
          pruneEntries (now - limits.windowSeconds) second from alike]
      rw [same]
      exact ⟨rfl, rfl⟩

end Alike

/-- The calls come in the order of their instants, none before the given one. -/
def OrderedFrom (now : ℚ) : List QuotaCall → Prop
  | [] => True
  | call :: rest => now ≤ call.now ∧ OrderedFrom call.now rest

theorem orderedFrom_of_pairwise {calls : List QuotaCall} {now : ℚ}
    (start : ∀ instant ∈ calls.map QuotaCall.now, now ≤ instant)
    (ordered : (calls.map QuotaCall.now).Pairwise (· ≤ ·)) : OrderedFrom now calls := by
  induction calls generalizing now with
  | nil => trivial
  | cons call rest ih =>
      obtain ⟨first, later⟩ := List.pairwise_cons.mp ordered
      exact ⟨start call.now (List.mem_cons_self ..), ih first later⟩

theorem OrderedFrom.front {now : ℚ} {before later : List QuotaCall}
    (ordered : OrderedFrom now (before ++ later)) : OrderedFrom now before := by
  induction before generalizing now with
  | nil => trivial
  | cons call rest ih => exact ⟨ordered.1, ih ordered.2⟩

/-- Calls in the order of their instants start at some instant. -/
theorem exists_orderedFrom {calls : List QuotaCall}
    (ordered : (calls.map QuotaCall.now).Pairwise (· ≤ ·)) : ∃ start, OrderedFrom start calls := by
  cases calls with
  | nil => exact ⟨0, trivial⟩
  | cons call rest =>
      obtain ⟨first, later⟩ := List.pairwise_cons.mp ordered
      exact ⟨call.now, le_rfl, orderedFrom_of_pairwise first later⟩

/-- Entries that agree on what counts answer every later call alike. -/
theorem answers_congr {limits : QuotaLimits} {calls : List QuotaCall} {now : ℚ}
    {first second : List QuotaEntry} (alike : Alike limits now first second)
    (ordered : OrderedFrom now calls) :
    answers (inProcessStep limits) first calls = answers (inProcessStep limits) second calls := by
  induction calls generalizing now first second with
  | nil => rfl
  | cons call rest ih =>
      obtain ⟨same, after⟩ := (alike.mono ordered.1 : Alike limits call.now first second).step
      rw [answers, answers, same, ih after ordered.2]

/-- A rejected call keeps what counts. -/
theorem alike_of_rejected {limits : QuotaLimits} {entries : List QuotaEntry} {call : QuotaCall}
    {exceeded : QuotaExceeded}
    (rejected : (inProcessStep limits entries call).2 = some (.error exceeded)) :
    Alike limits call.now (inProcessStep limits entries call).1 entries := by
  cases call with
  | recordBytes now label responseBytes => cases rejected
  | reserve now label =>
      simp only [inProcessStep] at rejected ⊢
      split
      · exact Alike.pruned limits now entries
      · rename_i admitted
        rw [admitted] at rejected
        cases rejected

/-! ## The window of the admitted -/

theorem requestRejection_eq_none_iff {limits : QuotaLimits} {count : Nat} {wait : Int} :
    requestRejection limits count wait = none ↔ ∀ most ∈ limits.maxRequests, count < most := by
  unfold requestRejection
  cases limits.maxRequests with
  | none => simp
  | some most => simp

theorem byteRejection_eq_none_iff {limits : QuotaLimits} {total wait : Int} :
    byteRejection limits total wait = none ↔
      ∀ most ∈ limits.maxResponseBytes, total < (most : Int) := by
  unfold byteRejection
  cases limits.maxResponseBytes with
  | none => simp
  | some most => simp

theorem rejectionOf_eq_none_iff {limits : QuotaLimits} {now : ℚ} {entries : List QuotaEntry} :
    rejectionOf limits now entries = none ↔
      (∀ most ∈ limits.maxRequests, entries.length < most) ∧
        ∀ most ∈ limits.maxResponseBytes, totalBytes entries < (most : Int) := by
  rw [rejectionOf, Option.or_eq_none_iff, requestRejection_eq_none_iff, byteRejection_eq_none_iff]

theorem inWindow_eq_pruneEntries {limits : QuotaLimits} {now : ℚ} {log : List QuotaEntry}
    (past : ∀ entry ∈ log, entry.ts ≤ now) :
    inWindow limits now log = pruneEntries (now - limits.windowSeconds) log := by
  refine List.filter_congr fun entry member => ?_
  simp only [past entry member, and_true]

theorem length_inWindow (limits : QuotaLimits) (instant : ℚ) (log : List QuotaEntry) :
    (inWindow limits instant log).length =
      windowCount (limits.windowSeconds : ℚ) instant (log.map QuotaEntry.ts) := by
  rw [inWindow, windowCount, List.filter_map, List.length_map]
  rfl

theorem map_ts_creditEntry (label : String) (responseBytes : Int) (entries : List QuotaEntry) :
    (creditEntry label responseBytes entries).map QuotaEntry.ts = entries.map QuotaEntry.ts := by
  rw [creditEntry, List.map_map]
  refine List.map_congr_left fun entry _ => ?_
  rw [Function.comp_apply]
  split
  · rfl
  · rfl

namespace FollowedQuota

variable {limits : QuotaLimits}

/-- The entries agree with the log on what counts, and the log keeps the request cap
in every window. -/
structure Tracks (limits : QuotaLimits) (now : ℚ) (followed : FollowedQuota) : Prop where
  alike : Alike limits now followed.entries followed.log
  past : ∀ instant ∈ followed.log.map QuotaEntry.ts, instant ≤ now
  bounded : ∀ most ∈ limits.maxRequests, ∀ instant,
    windowCount (limits.windowSeconds : ℚ) instant (followed.log.map QuotaEntry.ts) ≤ most

theorem Tracks.step {now : ℚ} {followed : FollowedQuota} (tracks : Tracks limits now followed)
    {call : QuotaCall} (order : now ≤ call.now) :
    Tracks limits call.now (followed.step limits call) := by
  have alike := tracks.alike.mono order
  have past : ∀ instant ∈ followed.log.map QuotaEntry.ts, instant ≤ call.now :=
    fun instant member => (tracks.past instant member).trans order
  cases call with
  | recordBytes now label responseBytes =>
      refine ⟨alike.credit label responseBytes, ?_, ?_⟩
      · rw [FollowedQuota.step, map_ts_creditEntry]
        exact past
      · rw [FollowedQuota.step, map_ts_creditEntry]
        exact tracks.bounded
  | reserve now label =>
      have kept := (Alike.pruned limits now followed.entries)
      cases rejected : rejectionOf limits now
          (pruneEntries (now - limits.windowSeconds) followed.entries) with
      | some exceeded =>
          have after : followed.step limits (.reserve now label) =
              { followed with
                entries := pruneEntries (now - limits.windowSeconds) followed.entries } := by
            simp only [FollowedQuota.step, inProcessStep, rejected]
          rw [after]
          refine ⟨Eq.trans kept alike, past, tracks.bounded⟩
      | none =>
          have after : followed.step limits (.reserve now label) =
              ⟨pruneEntries (now - limits.windowSeconds) followed.entries ++
                [{ label := label, ts := now }],
                followed.log ++ [{ label := label, ts := now }]⟩ := by
            simp only [FollowedQuota.step, inProcessStep, rejected]
          rw [after]
          refine ⟨Alike.append (Eq.trans kept alike) _, ?_, ?_⟩
          · intro instant member
            rw [List.map_append, List.mem_append] at member
            rcases member with old | new
            · exact past instant old
            · exact le_of_eq (List.mem_singleton.mp new)
          · intro most capped instant
            have room := (rejectionOf_eq_none_iff.mp rejected).1 most capped
            rw [show pruneEntries (now - limits.windowSeconds) followed.entries =
              pruneEntries (now - limits.windowSeconds) followed.log from alike,
              length_pruneEntries] at room
            rw [List.map_append]
            exact @windowCount_append_le ℚ _ _ _ _ now _ 1 most (tracks.bounded most capped) room
              instant

theorem Tracks.run {calls : List QuotaCall} {now : ℚ} {followed : FollowedQuota}
    (tracks : Tracks limits now followed) (ordered : OrderedFrom now calls) :
    ∃ last, Tracks limits last (calls.foldl (FollowedQuota.step limits) followed) ∧
      ∀ later, OrderedFrom now (calls ++ later) → OrderedFrom last later := by
  induction calls generalizing now followed with
  | nil => exact ⟨now, tracks, fun _ ordered => ordered⟩
  | cons call rest ih =>
      obtain ⟨last, after, later⟩ := ih (tracks.step ordered.1) ordered.2
      exact ⟨last, after, fun calls ordered => later calls ordered.2⟩

theorem Tracks.initial (limits : QuotaLimits) (now : ℚ) : Tracks limits now {} where
  alike := rfl
  past := fun _ member => by cases member
  bounded := fun _ _ _ => Nat.zero_le _

theorem entries_run (calls : List QuotaCall) (followed : FollowedQuota) :
    (calls.foldl (FollowedQuota.step limits) followed).entries =
      stateAfter (inProcessStep limits) followed.entries calls := by
  induction calls generalizing followed with
  | nil => rfl
  | cons call rest ih => exact ih _

end FollowedQuota

/-! ## The Redis keys mirror a list of entries -/

/-- The members of a sorted set. -/
def membersOf (entries : List QuotaEntry) : List (String × ℚ) :=
  entries.map fun entry => (entry.label, entry.ts)

/-- The fields of a hash. -/
def fieldsOf (entries : List QuotaEntry) : List (String × Int) :=
  entries.map fun entry => (entry.label, entry.responseBytes)

/-- The labels of a list of entries. -/
def labelsOf (entries : List QuotaEntry) : List String :=
  entries.map QuotaEntry.label

/-- The two keys hold the given entries, and expire when the last of them has aged
out. -/
structure Mirrors (limits : QuotaLimits) (store : RedisQuota) (entries : List QuotaEntry) :
    Prop where
  members : store.zset = membersOf entries
  fields : store.hash = fieldsOf entries
  together : store.zsetExpires = store.hashExpires
  aged : ∀ instant ∈ store.zsetExpires, ∀ entry ∈ entries,
    entry.ts + limits.windowSeconds ≤ instant
  distinct : (labelsOf entries).Nodup
  sorted : entries.Pairwise fun first second => first.ts ≤ second.ts

namespace Mirrors

variable {limits : QuotaLimits} {store : RedisQuota} {entries : List QuotaEntry}

theorem initial (limits : QuotaLimits) : Mirrors limits {} [] where
  members := rfl
  fields := rfl
  together := rfl
  aged := fun _ _ _ member => by cases member
  distinct := List.nodup_nil
  sorted := List.Pairwise.nil

/-- Keys that expire hold nothing that still counts. -/
theorem atInstant (mirrors : Mirrors limits store entries) (now : ℚ) :
    ∃ left, Mirrors limits (store.at now) left ∧ Alike limits now left entries ∧
      left.Sublist entries := by
  by_cases expired : hasExpired now store.zsetExpires = true
  · have hashExpired : hasExpired now store.hashExpires = true := by
      rw [← mirrors.together]
      exact expired
    refine ⟨[], ⟨?_, ?_, mirrors.together, ?_, List.nodup_nil, List.Pairwise.nil⟩, ?_,
      List.nil_sublist _⟩
    · simp only [RedisQuota.at, expired, ↓reduceIte, membersOf, List.map_nil]
    · simp only [RedisQuota.at, hashExpired, ↓reduceIte, fieldsOf, List.map_nil]
    · intro instant _ entry member
      cases member
    · unfold Alike
      apply Eq.symm
      refine List.filter_eq_nil_iff.mpr fun entry member => ?_
      rw [decide_eq_true_eq, not_lt]
      cases stored : store.zsetExpires with
      | none =>
          rw [stored] at expired
          cases expired
      | some instant =>
          rw [stored, hasExpired, decide_eq_true_eq] at expired
          have late := mirrors.aged instant stored entry member
          linarith
  · have hashAlive : ¬ hasExpired now store.hashExpires = true := by
      rw [← mirrors.together]
      exact expired
    refine ⟨entries, ⟨?_, ?_, mirrors.together, mirrors.aged, mirrors.distinct, mirrors.sorted⟩,
      rfl, List.Sublist.refl _⟩
    · simp only [RedisQuota.at, expired, Bool.false_eq_true, ↓reduceIte]
      exact mirrors.members
    · simp only [RedisQuota.at, hashAlive, Bool.false_eq_true, ↓reduceIte]
      exact mirrors.fields

/-- Pruning the keys prunes the entries. -/
theorem prune (mirrors : Mirrors limits store entries) (cutoff : ℚ) :
    Mirrors limits (store.prune cutoff) (pruneEntries cutoff entries) := by
  have inside : (pruneEntries cutoff entries).Sublist entries := List.filter_sublist
  have agedLabels : (store.zset.filter fun member => member.2 ≤ cutoff).map Prod.fst =
      labelsOf (entries.filter fun entry => entry.ts ≤ cutoff) := by
    rw [mirrors.members, membersOf, List.filter_map, List.map_map]
    rfl
  constructor
  · simp only [RedisQuota.prune, mirrors.members, membersOf, List.filter_map, pruneEntries]
    congr 1
    refine List.filter_congr fun entry _ => ?_
    simp only [Function.comp_apply, not_le]
  · simp only [RedisQuota.prune, agedLabels, mirrors.fields, fieldsOf, List.filter_map,
      pruneEntries]
    congr 1
    refine List.filter_congr fun entry member => ?_
    simp only [Function.comp_apply, decide_eq_decide]
    constructor
    · intro kept
      by_contra late
      refine kept (List.mem_map.mpr ⟨entry, List.mem_filter.mpr ⟨member, ?_⟩, rfl⟩)
      rw [decide_eq_true_eq]
      exact not_lt.mp late
    · intro counts listed
      obtain ⟨other, aged, same⟩ := List.mem_map.mp listed
      obtain ⟨otherIn, old⟩ := List.mem_filter.mp aged
      rw [decide_eq_true_eq] at old
      have equal := List.inj_on_of_nodup_map mirrors.distinct otherIn member same
      rw [equal] at old
      exact not_le.mpr counts old
  · exact mirrors.together
  · exact fun instant stored entry member => mirrors.aged instant stored entry (inside.subset member)
  · exact mirrors.distinct.sublist (inside.map _)
  · exact mirrors.sorted.sublist inside

/-- The script decides as the in-process limiter does. -/
theorem rejection (mirrors : Mirrors limits store entries) (now : ℚ) :
    store.rejection limits now = rejectionOf limits now entries := by
  have oldest : (store.zset.map Prod.snd).min? = entries.head?.map QuotaEntry.ts := by
    rw [mirrors.members, membersOf, List.map_map]
    cases entries with
    | nil => rfl
    | cons first rest =>
        rw [List.min?_eq_some_iff.mpr]
        · rfl
        · refine ⟨List.mem_map.mpr ⟨first, List.mem_cons_self .., rfl⟩, fun instant member => ?_⟩
          obtain ⟨entry, inside, rfl⟩ := List.mem_map.mp member
          rcases List.mem_cons.mp inside with rfl | later
          · exact le_rfl
          · exact (List.pairwise_cons.mp mirrors.sorted).1 entry later
  have count : store.zset.length = entries.length := by
    rw [mirrors.members, membersOf, List.length_map]
  have total : (store.hash.map Prod.snd).sum = totalBytes entries := by
    rw [mirrors.fields, fieldsOf, List.map_map]
    rfl
  rw [RedisQuota.rejection, rejectionOf, oldest, count, total]

/-- An admission appends its entry. -/
theorem admitted (mirrors : Mirrors limits store entries) {now : ℚ} {label : String}
    (past : ∀ entry ∈ entries, entry.ts ≤ now) (fresh : label ∉ labelsOf entries) :
    Mirrors limits (store.admitted limits now label) (entries ++ [{ label := label, ts := now }]) := by
  constructor
  · rw [RedisQuota.admitted, mirrors.members, membersOf, membersOf, List.map_append]
    apply dictSet_of_not_mem
    rw [dictKeys, List.map_map]
    exact fresh
  · rw [RedisQuota.admitted, mirrors.fields, fieldsOf, fieldsOf, List.map_append]
    apply dictSet_of_not_mem
    rw [dictKeys, List.map_map]
    exact fresh
  · rfl
  · intro instant stored entry member
    cases stored
    rcases List.mem_append.mp member with old | new
    · exact add_le_add_left (past entry old) _
    · cases List.mem_singleton.mp new
      exact le_rfl
  · rw [labelsOf, List.map_append]
    refine List.nodup_append.mpr ⟨mirrors.distinct, List.nodup_singleton _, ?_⟩
    rintro first inside second single rfl
    cases List.mem_singleton.mp single
    exact fresh inside
  · refine List.pairwise_append.mpr ⟨mirrors.sorted, List.pairwise_singleton .., ?_⟩
    intro entry old other new
    cases List.mem_singleton.mp new
    exact past entry old

theorem labelsOf_creditEntry (label : String) (responseBytes : Int) (entries : List QuotaEntry) :
    labelsOf (creditEntry label responseBytes entries) = labelsOf entries := by
  rw [labelsOf, creditEntry, List.map_map]
  refine List.map_congr_left fun entry _ => ?_
  rw [Function.comp_apply]
  split
  · rfl
  · rfl

/-- Crediting a member sets its field. -/
theorem credit (mirrors : Mirrors limits store entries) {label : String} (responseBytes : Int)
    (held : label ∈ labelsOf entries) :
    Mirrors limits { store with hash := dictSet store.hash label (max 0 responseBytes) }
      (creditEntry label responseBytes entries) := by
  constructor
  · rw [mirrors.members, membersOf, membersOf, creditEntry, List.map_map]
    refine List.map_congr_left fun entry _ => ?_
    rw [Function.comp_apply]
    split
    · rfl
    · rfl
  · have set := dictSet_of_nodup_of_mem (max 0 responseBytes)
      (show (dictKeys store.hash).Nodup by
        rw [mirrors.fields, dictKeys, fieldsOf, List.map_map]
        exact mirrors.distinct)
      (show label ∈ dictKeys store.hash by
        rw [mirrors.fields, dictKeys, fieldsOf, List.map_map]
        exact held)
    rw [set, mirrors.fields, fieldsOf, fieldsOf, creditEntry, List.map_map, List.map_map]
    refine List.map_congr_left fun entry _ => ?_
    simp only [Function.comp_apply]
    by_cases hit : entry.label = label
    · rw [if_pos hit, if_pos hit, hit]
    · rw [if_neg hit, if_neg hit]
  · exact mirrors.together
  · intro instant stored entry member
    have stamped : entry.ts ∈ (creditEntry label responseBytes entries).map QuotaEntry.ts :=
      List.mem_map_of_mem member
    rw [map_ts_creditEntry] at stamped
    obtain ⟨old, inside, same⟩ := List.mem_map.mp stamped
    rw [← same]
    exact mirrors.aged instant stored old inside
  · rw [labelsOf_creditEntry]
    exact mirrors.distinct
  · have stamps : ((creditEntry label responseBytes entries).map QuotaEntry.ts).Pairwise
        (· ≤ ·) := by
      rw [map_ts_creditEntry]
      exact List.pairwise_map.mpr mirrors.sorted
    exact List.pairwise_map.mp stamps

theorem creditEntry_of_not_mem {label : String} (responseBytes : Int) {entries : List QuotaEntry}
    (absent : label ∉ labelsOf entries) : creditEntry label responseBytes entries = entries := by
  unfold creditEntry
  refine (List.map_congr_left fun entry member => ?_).trans (List.map_id entries)
  rw [if_neg]
  · rfl
  · exact fun same => absent (List.mem_map.mpr ⟨entry, member, same⟩)

end Mirrors

/-! ## The two stores side by side -/

/-- The keys mirror entries that agree with the in-process ones on what counts, all
reserved up to now and under labels that the calls ahead do not use again. -/
structure SideBySide (limits : QuotaLimits) (now : ℚ) (ahead : List QuotaCall) (store : RedisQuota)
    (entries : List QuotaEntry) : Prop where
  mirrored : ∃ held, Mirrors limits store held ∧ Alike limits now held entries ∧
    (∀ entry ∈ held, entry.ts ≤ now) ∧
    ∀ label ∈ labelsOf held, label ∉ ahead.filterMap QuotaCall.reserves

namespace SideBySide

variable {limits : QuotaLimits} {now : ℚ} {store : RedisQuota} {entries : List QuotaEntry}

theorem initial (limits : QuotaLimits) (now : ℚ) (ahead : List QuotaCall) :
    SideBySide limits now ahead {} [] :=
  ⟨[], Mirrors.initial limits, rfl, List.forall_mem_nil _, List.forall_mem_nil _⟩

/-- One call is answered alike, and leaves the stores side by side. -/
theorem step {call : QuotaCall} {ahead : List QuotaCall}
    (beside : SideBySide limits now (call :: ahead) store entries) (order : now ≤ call.now)
    (distinct : ((call :: ahead).filterMap QuotaCall.reserves).Nodup) :
    (redisStep limits store call).2 = (inProcessStep limits entries call).2 ∧
      SideBySide limits call.now ahead (redisStep limits store call).1
        (inProcessStep limits entries call).1 := by
  obtain ⟨held, mirrors, alikeBefore, past, unused⟩ := beside.mirrored
  obtain ⟨left, alive, alikeHeld, inside⟩ := mirrors.atInstant call.now
  have alike : Alike limits call.now left entries := Eq.trans alikeHeld (alikeBefore.mono order)
  have pastLeft : ∀ entry ∈ left, entry.ts ≤ call.now :=
    fun entry member => (past entry (inside.subset member)).trans order
  have unusedLeft : ∀ label ∈ labelsOf left,
      label ∉ (call :: ahead).filterMap QuotaCall.reserves :=
    fun label member => unused label ((inside.map _).subset member)
  cases call with
  | recordBytes now label responseBytes =>
      change Mirrors limits (store.at now) left at alive
      have stepped : inProcessStep limits entries (.recordBytes now label responseBytes) =
          (creditEntry label responseBytes entries, none) := rfl
      have stampsPast : ∀ entry ∈ creditEntry label responseBytes left, entry.ts ≤ now := by
        intro entry member
        have stamped := List.mem_map_of_mem (f := QuotaEntry.ts) member
        rw [map_ts_creditEntry] at stamped
        obtain ⟨old, oldIn, same⟩ := List.mem_map.mp stamped
        exact same ▸ pastLeft old oldIn
      have unusedAfter : ∀ other ∈ labelsOf (creditEntry label responseBytes left),
          other ∉ ahead.filterMap QuotaCall.reserves := by
        rw [Mirrors.labelsOf_creditEntry]
        exact unusedLeft
      have keys : dictKeys (store.at now).zset = labelsOf left := by
        rw [alive.members, dictKeys, membersOf, List.map_map]
        rfl
      by_cases present : label ∈ labelsOf left
      · have found : (dictGet (store.at now).zset label).isSome = true := by
          rw [dictGet_isSome_iff, keys]
          exact present
        rw [stepped, redisStep]
        dsimp only
        rw [if_pos found]
        exact ⟨rfl, _, alive.credit responseBytes present, alike.credit label responseBytes,
          stampsPast, unusedAfter⟩
      · have missing : ¬ (dictGet (store.at now).zset label).isSome = true := by
          rw [dictGet_isSome_iff, keys]
          exact present
        have credited := alike.credit label responseBytes
        rw [Mirrors.creditEntry_of_not_mem responseBytes present] at credited
        rw [stepped, redisStep]
        dsimp only
        rw [if_neg missing]
        exact ⟨rfl, _, alive, credited, pastLeft, unusedLeft⟩
  | reserve now label =>
      change Mirrors limits (store.at now) left at alive
      have pruned := alive.prune (now - limits.windowSeconds)
      rw [show pruneEntries (now - limits.windowSeconds) left =
        pruneEntries (now - limits.windowSeconds) entries from alike] at pruned
      have pastKept : ∀ entry ∈ pruneEntries (now - limits.windowSeconds) entries,
          entry.ts ≤ now := by
        intro entry member
        rw [← show pruneEntries (now - limits.windowSeconds) left =
          pruneEntries (now - limits.windowSeconds) entries from alike] at member
        exact pastLeft entry (List.mem_of_mem_filter member)
      have unusedKept : ∀ other ∈ labelsOf (pruneEntries (now - limits.windowSeconds) entries),
          other ∉ label :: ahead.filterMap QuotaCall.reserves := by
        intro other member
        rw [← show pruneEntries (now - limits.windowSeconds) left =
          pruneEntries (now - limits.windowSeconds) entries from alike] at member
        exact unusedLeft other ((List.filter_sublist.map _).subset member)
      have decided := pruned.rejection now
      simp only [redisStep, inProcessStep, decided]
      cases rejectionOf limits now (pruneEntries (now - limits.windowSeconds) entries) with
      | some exceeded =>
          refine ⟨rfl, _, pruned, rfl, pastKept, fun other member => ?_⟩
          exact (List.ne_and_not_mem_of_not_mem_cons (unusedKept other member)).2
      | none =>
          have fresh : label ∉ labelsOf (pruneEntries (now - limits.windowSeconds) entries) :=
            fun member => unusedKept label member (List.mem_cons_self ..)
          refine ⟨rfl, _, pruned.admitted pastKept fresh, rfl, ?_, ?_⟩
          · intro entry member
            rcases List.mem_append.mp member with old | new
            · exact pastKept entry old
            · cases List.mem_singleton.mp new
              exact le_rfl
          · intro other member
            rw [labelsOf, List.map_append, List.mem_append] at member
            rcases member with old | new
            · exact (List.ne_and_not_mem_of_not_mem_cons (unusedKept other old)).2
            · cases List.mem_singleton.mp new
              exact (List.nodup_cons.mp distinct).1

/-- Every sequence of calls is answered alike. -/
theorem run {calls : List QuotaCall} (beside : SideBySide limits now calls store entries)
    (ordered : OrderedFrom now calls) (distinct : (calls.filterMap QuotaCall.reserves).Nodup) :
    answers (redisStep limits) store calls = answers (inProcessStep limits) entries calls := by
  induction calls generalizing now store entries with
  | nil => rfl
  | cons call rest ih =>
      obtain ⟨same, after⟩ := beside.step ordered.1 distinct
      rw [answers, answers, same, ih after ordered.2]
      exact distinct.sublist ((List.sublist_cons_self call rest).filterMap _)

/-- The stores stay side by side. -/
theorem after {calls : List QuotaCall} (beside : SideBySide limits now calls store entries)
    (ordered : OrderedFrom now calls) (distinct : (calls.filterMap QuotaCall.reserves).Nodup)
    {before later : List QuotaCall} (split : calls = before ++ later) :
    ∃ last, SideBySide limits last later (stateAfter (redisStep limits) store before)
      (stateAfter (inProcessStep limits) entries before) := by
  induction before generalizing now store entries calls with
  | nil =>
      subst split
      exact ⟨now, beside⟩
  | cons call rest ih =>
      subst split
      obtain ⟨_, stepped⟩ := beside.step ordered.1 distinct
      exact ih stepped ordered.2
        (distinct.sublist ((List.sublist_cons_self call (rest ++ later)).filterMap _)) rfl

/-- The bytes are kept for members of the set alone. -/
theorem fields_subset {ahead : List QuotaCall} (beside : SideBySide limits now ahead store entries) :
    dictKeys store.hash ⊆ dictKeys store.zset := by
  obtain ⟨held, mirrors, _⟩ := beside.mirrored
  rw [mirrors.fields, mirrors.members, dictKeys, dictKeys, fieldsOf, membersOf, List.map_map,
    List.map_map]
  exact List.Subset.refl _

end SideBySide

/-! ## The quota along a run -/

section Run

variable {limits : QuotaLimits} {calls : List QuotaCall}

/-- A call among ordered ones finds the log up to its instant. -/
theorem tracks_before (limits : QuotaLimits) {before later : List QuotaCall} {call : QuotaCall}
    {start : ℚ}
    (ordered : OrderedFrom start (before ++ call :: later)) :
    FollowedQuota.Tracks limits call.now (before.foldl (FollowedQuota.step limits) {}) ∧
      OrderedFrom call.now later := by
  obtain ⟨last, tracks, ahead⟩ := (FollowedQuota.Tracks.initial limits start).run
    (OrderedFrom.front ordered)
  have rest := ahead (call :: later) ordered
  refine ⟨⟨tracks.alike.mono rest.1, ?_, tracks.bounded⟩, rest.2⟩
  exact fun instant member => (tracks.past instant member).trans rest.1

/-- An admission is decided by the room in the window alone. -/
theorem admitted_iff_hasRoom {before later : List QuotaCall} {now : ℚ} {label : String} {start : ℚ}
    (ordered : OrderedFrom start (before ++ .reserve now label :: later)) :
    (inProcessStep limits (stateAfter (inProcessStep limits) [] before)
      (.reserve now label)).2 = some (.ok ()) ↔ HasRoom limits now (admittedLog limits before) := by
  obtain ⟨tracks, _⟩ := tracks_before limits ordered
  have window : pruneEntries (now - limits.windowSeconds)
      (stateAfter (inProcessStep limits) [] before) =
      inWindow limits now (admittedLog limits before) := by
    rw [inWindow_eq_pruneEntries]
    · rw [← FollowedQuota.entries_run before {}]
      exact tracks.alike
    · exact fun entry member => tracks.past entry.ts (List.mem_map_of_mem member)
  have admitted : (inProcessStep limits (stateAfter (inProcessStep limits) [] before)
      (.reserve now label)).2 = some (.ok ()) ↔
      rejectionOf limits now (inWindow limits now (admittedLog limits before)) = none := by
    simp only [inProcessStep, window]
    cases rejectionOf limits now (inWindow limits now (admittedLog limits before)) with
    | none => simp
    | some exceeded => simp
  rw [admitted, rejectionOf_eq_none_iff, HasRoom]

/-- What follows a rejected call is answered as if it had not been made. -/
theorem answers_after_rejected {before later : List QuotaCall} {call : QuotaCall}
    {exceeded : QuotaExceeded} {start : ℚ} (ordered : OrderedFrom start (before ++ call :: later))
    (rejected : (inProcessStep limits (stateAfter (inProcessStep limits) [] before) call).2 =
      some (.error exceeded)) :
    answers (inProcessStep limits) (stateAfter (inProcessStep limits) [] (before ++ [call])) later =
      answers (inProcessStep limits) (stateAfter (inProcessStep limits) [] before) later := by
  obtain ⟨_, ahead⟩ := tracks_before limits ordered
  rw [stateAfter, List.foldl_append]
  exact answers_congr (alike_of_rejected rejected) ahead

/-- With a clock that never goes back, and each reservation under a label of its own, the
quota bounds every window, admits exactly where there is room, forgets the rejected, and
is decided in Redis as it is in process. -/
theorem quotaHolds_of_ordered (ordered : (calls.map QuotaCall.now).Pairwise (· ≤ ·))
    (distinct : (calls.filterMap QuotaCall.reserves).Nodup) : QuotaHolds limits calls := by
  obtain ⟨start, orderedFrom⟩ := exists_orderedFrom ordered
  have beside := SideBySide.initial limits start calls
  constructor
  · intro most capped instant
    obtain ⟨last, tracks, _⟩ := (FollowedQuota.Tracks.initial limits start).run
      orderedFrom
    rw [length_inWindow]
    exact tracks.bounded most capped instant
  · rintro before later now label rfl
    exact admitted_iff_hasRoom orderedFrom
  · rintro before later call exceeded rfl rejected
    exact answers_after_rejected orderedFrom rejected
  · exact beside.run orderedFrom distinct
  · intro before later split
    obtain ⟨last, after⟩ := beside.after orderedFrom distinct split
    exact after.fields_subset

/-- A cap of one in a window of ten seconds: the second call of three is rejected, and
the bytes of the first come when it has aged out. -/
theorem quotaHolds_of_threeCalls :
    QuotaHolds { maxRequests := some 1, windowSeconds := 10 }
      [.reserve 0 "a", .reserve 9 "b", .reserve 10 "c", .recordBytes 12 "a" 7] := by
  apply quotaHolds_of_ordered
  · norm_num [QuotaCall.now]
  · decide

end Run

end QueryGate
