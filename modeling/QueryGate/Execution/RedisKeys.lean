import QueryGate.Execution.QuotaLimiter
import QueryGate.Foundation.Framing
import QueryGate.Foundation.KeyedStore

/-! # The keys of the shared store

The quota limiter keeps a caller's window under two Redis keys and the queue-depth
counters keep a caller's waiters under a third, all of them made by joining the
connection and the principal with a colon. The scripts run over one keyspace and touch
the keys they are given and no others, so callers are kept apart exactly when their
keys are (`keysKeptApart_iff`).
-/

namespace QueryGate

open Foundation

/-! ## Scripts over the keyspace -/

/-- A value of the two data types the scripts use. -/
inductive RedisValue where
  | zset (members : List (String × ℚ))
  | hash (fields : List (String × Int))

/-- A value with the instant its key expires at. -/
structure RedisSlot where
  value : RedisValue
  expires : Option ℚ := none

/-- `WRONGTYPE`: the key holds the other data type. -/
inductive RedisError where
  | wrongType
  deriving DecidableEq, Repr

/-- Commands and scripts over the keyspace. -/
abbrev Redis (α : Type) := StoreProgram String RedisSlot RedisError α

/-- What a key holds at an instant. -/
def loadSlot (now : ℚ) (key : String) : Redis (Option RedisSlot) := do
  let store ← get
  pure ((store key).filter fun slot => !hasExpired now slot.expires)

/-- Write a key; an empty value removes it. -/
def saveSlot (key : String) (slot : Option RedisSlot) : Redis Unit :=
  modify fun store => Function.update store key slot

/-- The members of the sorted set at a key. -/
def zrange (now : ℚ) (key : String) : Redis (List (String × ℚ)) := do
  match ← loadSlot now key with
  | none => pure []
  | some ⟨.zset members, _⟩ => pure members
  | some ⟨.hash _, _⟩ => throw .wrongType

/-- The fields of the hash at a key. -/
def hgetall (now : ℚ) (key : String) : Redis (List (String × Int)) := do
  match ← loadSlot now key with
  | none => pure []
  | some ⟨.hash fields, _⟩ => pure fields
  | some ⟨.zset _, _⟩ => throw .wrongType

/-- Put a sorted set in place of the one at a key. -/
def putMembers (now : ℚ) (key : String) (members : List (String × ℚ)) : Redis Unit := do
  let slot ← loadSlot now key
  saveSlot key (if members = [] then none else some ⟨.zset members, slot.bind RedisSlot.expires⟩)

/-- Put a hash in place of the one at a key. -/
def putFields (now : ℚ) (key : String) (fields : List (String × Int)) : Redis Unit := do
  let slot ← loadSlot now key
  saveSlot key (if fields = [] then none else some ⟨.hash fields, slot.bind RedisSlot.expires⟩)

/-- `ZREMRANGEBYSCORE key -inf cutoff`. -/
def zremrangebyscore (now : ℚ) (key : String) (cutoff : ℚ) : Redis Unit := do
  let members ← zrange now key
  putMembers now key (members.filter fun member => cutoff < member.2)

/-- `ZADD key score member`. -/
def zadd (now : ℚ) (key : String) (score : ℚ) (member : String) : Redis Unit := do
  let members ← zrange now key
  putMembers now key (dictSet members member score)

/-- `ZREM key member`. -/
def zrem (now : ℚ) (key member : String) : Redis Unit := do
  let members ← zrange now key
  putMembers now key (members.filter fun entry => entry.1 ≠ member)

/-- `HSET key field value`. -/
def hset (now : ℚ) (key field : String) (value : Int) : Redis Unit := do
  let fields ← hgetall now key
  putFields now key (dictSet fields field value)

/-- `HDEL key field`. -/
def hdel (now : ℚ) (key field : String) : Redis Unit := do
  let fields ← hgetall now key
  putFields now key (fields.filter fun entry => entry.1 ≠ field)

/-- `EXPIRE key seconds`. -/
def expire (now : ℚ) (key : String) (seconds : ℚ) : Redis Unit := do
  let slot ← loadSlot now key
  saveSlot key (slot.map fun slot => { slot with expires := some (now + seconds) })

/-- The reply of `_RESERVE_SCRIPT`. -/
inductive QuotaReply where
  | admitted
  | requests (retryAfter : Int)
  | bytes (retryAfter : Int)
  deriving DecidableEq, Repr

/-- The byte cap is met; the hash is read where there is one. -/
def bytesSpent (now : ℚ) (key : String) (maxBytes : Option Nat) : Redis Bool := do
  match maxBytes with
  | none => pure false
  | some most =>
      let fields ← hgetall now key
      pure (decide ((most : Int) ≤ (fields.map Prod.snd).sum))

/-- The end of `_RESERVE_SCRIPT`, on an admission. -/
def admitMember (now : ℚ) (zkey hkey : String) (window : ℚ) (member : String) :
    Redis QuotaReply := do
  zadd now zkey now member
  hset now hkey member 0
  expire now zkey window
  expire now hkey window
  pure .admitted

/-- `_RESERVE_SCRIPT`. -/
def reserveScript (zkey hkey : String) (limits : QuotaLimits) (now : ℚ) (member : String) :
    Redis QuotaReply := do
  let cutoff := now - (limits.windowSeconds : ℚ)
  let members ← zrange now zkey
  (members.filter fun entry => entry.2 ≤ cutoff).forM fun entry => hdel now hkey entry.1
  zremrangebyscore now zkey cutoff
  let kept ← zrange now zkey
  let wait := retryAfter limits now (kept.map Prod.snd).min?
  if (limits.maxRequests.any fun most => decide (most ≤ kept.length)) then
    pure (.requests wait)
  else do
    let spent ← bytesSpent now hkey limits.maxResponseBytes
    if spent then pure (.bytes wait)
    else admitMember now zkey hkey limits.windowSeconds member

/-- `_RECORD_BYTES_SCRIPT`. -/
def recordBytesScript (zkey hkey : String) (now : ℚ) (member : String) (bytes : Int) :
    Redis Unit := do
  let members ← zrange now zkey
  if (dictGet members member).isSome then hset now hkey member bytes else pure ()

/-- A depth has reached its cap. -/
def depthReached (most : Option Nat) (count : Nat) : Bool :=
  most.any fun most => decide (most ≤ count)

/-- A waiter enters the sorted set at a key, which is kept for twice the lease. -/
def enterSet (now : ℚ) (key : String) (lease : ℚ) (token : String) : Redis Unit := do
  zadd now key now token
  expire now key (2 * lease)

/-- `_QUEUE_ENTER_SCRIPT`. -/
def queueEnterScript (key principalKey : String) (now lease : ℚ) (maxDepth : Option Nat)
    (maxPerPrincipal : Option Nat) (token : String) : Redis (Bool × Nat) := do
  zremrangebyscore now key (now - lease)
  let waiting ← zrange now key
  zremrangebyscore now principalKey (now - lease)
  let ours ← zrange now principalKey
  if depthReached maxDepth waiting.length || depthReached maxPerPrincipal ours.length then
    pure (false, waiting.length)
  else do
    enterSet now key lease token
    enterSet now principalKey lease token
    pure (true, waiting.length + 1)

/-- `_QUEUE_LEAVE_SCRIPT`. -/
def queueLeaveScript (key principalKey : String) (now : ℚ) (token : String) : Redis Nat := do
  zrem now key token
  zrem now principalKey token
  let waiting ← zrange now key
  pure waiting.length

/-! ## The keys of a caller -/

/-- A connection and the principal that calls it. -/
structure Caller where
  connection : String
  principal : String
  deriving DecidableEq, Repr

/-- `_VALID_ID.match`, where `$` also stands before a final newline. -/
def matchesValidId (id : String) : Bool :=
  let isStart := fun letter : Char => letter.isAlpha || letter == '_'
  let isPart := fun letter : Char => letter.isAlphanum || letter == '_' || letter == '-'
  match id.toList with
  | [] => false
  | first :: rest =>
      isStart first &&
        (rest.all isPart || (rest.getLast? == some '\n' && rest.dropLast.all isPart))

/-- The connection is configured and the principal is a subject that authentication
lets through. -/
def Caller.Admitted (caller : Caller) : Prop :=
  matchesValidId caller.connection = true ∧ caller.principal ≠ ""

/-- `_keys`: the sorted set and the hash of a caller's window. -/
def quotaKeys (caller : Caller) : String × String :=
  let base := "qg:quota:" ++ caller.connection ++ ":" ++ caller.principal
  (base, base ++ ":bytes")

/-- The sorted set that `record_bytes` derives from the hash. -/
def zsetKeyOf (hkey : String) : String :=
  String.ofList (hkey.toList.take (hkey.toList.length - ":bytes".toList.length))

/-- `_queue_key`: the waiters of a connection, whoever they are. -/
def queueKey (connection : String) : String :=
  "querygate:queue:" ++ connection

/-- `_queue_principal_key`. -/
def queuePrincipalKey (caller : Caller) : String :=
  "querygate:queue:" ++ caller.connection ++ ":" ++ caller.principal

/-- The keys that are a caller's own. -/
def callerKeys (caller : Caller) : List String :=
  [(quotaKeys caller).1, (quotaKeys caller).2, queuePrincipalKey caller]

/-- What a caller has run on the store. -/
inductive CallerScript where
  | reserve (limits : QuotaLimits) (now : ℚ) (member : String)
  | recordBytes (now : ℚ) (member : String) (responseBytes : Int)
  | enterQueue (now lease : ℚ) (maxDepth maxPerPrincipal : Option Nat) (token : String)
  | leaveQueue (now : ℚ) (token : String)

/-- The script of a caller, under the caller's keys. -/
def CallerScript.program (caller : Caller) : CallerScript → Redis Unit
  | .reserve limits now member => do
      let _ ← reserveScript (quotaKeys caller).1 (quotaKeys caller).2 limits now member
      pure ()
  | .recordBytes now member responseBytes =>
      recordBytesScript (zsetKeyOf (quotaKeys caller).2) (quotaKeys caller).2 now member
        (max 0 responseBytes)
  | .enterQueue now lease maxDepth maxPerPrincipal token => do
      let _ ← queueEnterScript (queueKey caller.connection) (queuePrincipalKey caller) now lease
        maxDepth maxPerPrincipal token
      pure ()
  | .leaveQueue now token => do
      let _ ← queueLeaveScript (queueKey caller.connection) (queuePrincipalKey caller) now token
      pure ()

/-- The store after what a caller has run. -/
def afterTraffic (caller : Caller) (traffic : List CallerScript) :
    (String → Option RedisSlot) → String → Option RedisSlot :=
  StoreProgram.storeAfterAll (traffic.map (CallerScript.program caller))

/-- Two callers share no key, keep each data type under a key of its own, and change
nothing under each other's keys. -/
structure KeysKeptApart (first second : Caller) : Prop where
  disjoint : ∀ key ∈ callerKeys first, key ∉ callerKeys second
  distinct : (callerKeys first).Nodup ∧ (callerKeys second).Nodup
  unchanged : ∀ traffic store, ∀ key ∈ callerKeys first, afterTraffic second traffic store key =
    store key
  unchangedBack : ∀ traffic store, ∀ key ∈ callerKeys second,
    afterTraffic first traffic store key = store key

/-- On one connection, one principal is the other with the suffix of the hash. -/
def SuffixedByBytes (first second : Caller) : Prop :=
  first.connection = second.connection ∧
    (first.principal = second.principal ++ ":bytes" ∨
      second.principal = first.principal ++ ":bytes")

/-! ## Scripts touch the keys they are given -/

section Touches

open StoreProgram

variable {keys : List String} {now : ℚ} {key zkey hkey : String}

theorem loadSlot_touches (now : ℚ) (key : String) : Touches keys (loadSlot now key) :=
  Touches.bind (Touches.get keys) fun _ => Touches.pure keys _

theorem saveSlot_touches (inside : key ∈ keys) (slot : Option RedisSlot) :
    Touches keys (saveSlot key slot) :=
  Touches.write slot inside

theorem zrange_touches (now : ℚ) (key : String) : Touches keys (zrange now key) := by
  refine Touches.bind (loadSlot_touches now key) fun slot => ?_
  match slot with
  | none => exact Touches.pure keys _
  | some ⟨.zset _, _⟩ => exact Touches.pure keys _
  | some ⟨.hash _, _⟩ => exact Touches.throw keys _

theorem hgetall_touches (now : ℚ) (key : String) : Touches keys (hgetall now key) := by
  refine Touches.bind (loadSlot_touches now key) fun slot => ?_
  match slot with
  | none => exact Touches.pure keys _
  | some ⟨.zset _, _⟩ => exact Touches.throw keys _
  | some ⟨.hash _, _⟩ => exact Touches.pure keys _

theorem putMembers_touches (inside : key ∈ keys) (now : ℚ) (members : List (String × ℚ)) :
    Touches keys (putMembers now key members) :=
  Touches.bind (loadSlot_touches now key) fun _ => saveSlot_touches inside _

theorem putFields_touches (inside : key ∈ keys) (now : ℚ) (fields : List (String × Int)) :
    Touches keys (putFields now key fields) :=
  Touches.bind (loadSlot_touches now key) fun _ => saveSlot_touches inside _

theorem zremrangebyscore_touches (inside : key ∈ keys) (now cutoff : ℚ) :
    Touches keys (zremrangebyscore now key cutoff) :=
  Touches.bind (zrange_touches now key) fun _ => putMembers_touches inside now _

theorem zadd_touches (inside : key ∈ keys) (now score : ℚ) (member : String) :
    Touches keys (zadd now key score member) :=
  Touches.bind (zrange_touches now key) fun _ => putMembers_touches inside now _

theorem zrem_touches (inside : key ∈ keys) (now : ℚ) (member : String) :
    Touches keys (zrem now key member) :=
  Touches.bind (zrange_touches now key) fun _ => putMembers_touches inside now _

theorem hset_touches (inside : key ∈ keys) (now : ℚ) (field : String) (value : Int) :
    Touches keys (hset now key field value) :=
  Touches.bind (hgetall_touches now key) fun _ => putFields_touches inside now _

theorem hdel_touches (inside : key ∈ keys) (now : ℚ) (field : String) :
    Touches keys (hdel now key field) :=
  Touches.bind (hgetall_touches now key) fun _ => putFields_touches inside now _

theorem expire_touches (inside : key ∈ keys) (now seconds : ℚ) :
    Touches keys (expire now key seconds) :=
  Touches.bind (loadSlot_touches now key) fun _ => saveSlot_touches inside _

theorem bytesSpent_touches (now : ℚ) (hkey : String) (maxBytes : Option Nat) :
    Touches keys (bytesSpent now hkey maxBytes) := by
  cases maxBytes with
  | none => exact Touches.pure keys _
  | some most => exact Touches.bind (hgetall_touches now hkey) fun _ => Touches.pure keys _

theorem admitMember_touches (zinside : zkey ∈ keys) (hinside : hkey ∈ keys) (now window : ℚ)
    (member : String) : Touches keys (admitMember now zkey hkey window member) := by
  refine Touches.bind (zadd_touches zinside now now member) fun _ => ?_
  refine Touches.bind (hset_touches hinside now member 0) fun _ => ?_
  refine Touches.bind (expire_touches zinside now window) fun _ => ?_
  exact Touches.bind (expire_touches hinside now window) fun _ => Touches.pure keys _

theorem reserveScript_touches (zinside : zkey ∈ keys) (hinside : hkey ∈ keys)
    (limits : QuotaLimits) (now : ℚ) (member : String) :
    Touches keys (reserveScript zkey hkey limits now member) := by
  refine Touches.bind (zrange_touches now zkey) fun members => ?_
  refine Touches.bind (Touches.forM fun entry _ => hdel_touches hinside now entry.1) fun _ => ?_
  refine Touches.bind (zremrangebyscore_touches zinside now _) fun _ => ?_
  refine Touches.bind (zrange_touches now zkey) fun kept => ?_
  dsimp only
  split
  · exact Touches.pure keys _
  · refine Touches.bind (bytesSpent_touches now hkey _) fun spent => ?_
    split
    · exact Touches.pure keys _
    · exact admitMember_touches zinside hinside now _ member

theorem recordBytesScript_touches (hinside : hkey ∈ keys) (zkey : String) (now : ℚ)
    (member : String) (bytes : Int) : Touches keys (recordBytesScript zkey hkey now member bytes) := by
  refine Touches.bind (zrange_touches now zkey) fun members => ?_
  split
  · exact hset_touches hinside now member bytes
  · exact Touches.pure keys _

theorem enterSet_touches (inside : key ∈ keys) (now lease : ℚ) (token : String) :
    Touches keys (enterSet now key lease token) :=
  Touches.bind (zadd_touches inside now now token) fun _ => expire_touches inside now _

theorem queueEnterScript_touches {principalKey : String} (inside : key ∈ keys)
    (principalInside : principalKey ∈ keys) (now lease : ℚ) (maxDepth maxPerPrincipal : Option Nat)
    (token : String) :
    Touches keys (queueEnterScript key principalKey now lease maxDepth maxPerPrincipal token) := by
  refine Touches.bind (zremrangebyscore_touches inside now _) fun _ => ?_
  refine Touches.bind (zrange_touches now key) fun waiting => ?_
  refine Touches.bind (zremrangebyscore_touches principalInside now _) fun _ => ?_
  refine Touches.bind (zrange_touches now principalKey) fun ours => ?_
  split
  · exact Touches.pure keys _
  · refine Touches.bind (enterSet_touches inside now lease token) fun _ => ?_
    refine Touches.bind (enterSet_touches principalInside now lease token) fun _ => ?_
    exact Touches.pure keys _

theorem queueLeaveScript_touches {principalKey : String} (inside : key ∈ keys)
    (principalInside : principalKey ∈ keys) (now : ℚ) (token : String) :
    Touches keys (queueLeaveScript key principalKey now token) := by
  refine Touches.bind (zrem_touches inside now token) fun _ => ?_
  refine Touches.bind (zrem_touches principalInside now token) fun _ => ?_
  exact Touches.bind (zrange_touches now key) fun _ => Touches.pure keys _

/-- A caller's scripts touch the caller's keys and the waiters of the connection. -/
theorem program_touches (caller : Caller) (script : CallerScript) :
    Touches (queueKey caller.connection :: callerKeys caller) (script.program caller) := by
  have connectionInside : queueKey caller.connection ∈
      queueKey caller.connection :: callerKeys caller := by simp
  have zinside : (quotaKeys caller).1 ∈ queueKey caller.connection :: callerKeys caller := by
    simp [callerKeys]
  have hinside : (quotaKeys caller).2 ∈ queueKey caller.connection :: callerKeys caller := by
    simp [callerKeys]
  have principalInside : queuePrincipalKey caller ∈
      queueKey caller.connection :: callerKeys caller := by simp [callerKeys]
  cases script with
  | reserve limits now member =>
      exact Touches.bind (reserveScript_touches zinside hinside limits now member)
        fun _ => Touches.pure _ _
  | recordBytes now member responseBytes =>
      exact recordBytesScript_touches hinside _ now member _
  | enterQueue now lease maxDepth maxPerPrincipal token =>
      exact Touches.bind (queueEnterScript_touches connectionInside principalInside now lease
        maxDepth maxPerPrincipal token) fun _ => Touches.pure _ _
  | leaveQueue now token =>
      exact Touches.bind (queueLeaveScript_touches connectionInside principalInside now token)
        fun _ => Touches.pure _ _

end Touches

/-! ## When keys meet -/

theorem colon_free_of_matchesValidId {id : String} (valid : matchesValidId id = true) :
    ':' ∉ id.toList := by
  unfold matchesValidId at valid
  dsimp only at valid
  intro member
  cases letters : id.toList with
  | nil => simp [letters] at member
  | cons first rest =>
      rw [letters] at member valid
      dsimp only at valid
      obtain ⟨start, part⟩ := Bool.and_eq_true_iff.mp valid
      rcases List.mem_cons.mp member with rfl | later
      · exact absurd start (by decide)
      · rcases Bool.or_eq_true_iff.mp part with all | newline
        · exact absurd (List.all_eq_true.mp all ':' later) (by decide)
        · obtain ⟨last, all⟩ := Bool.and_eq_true_iff.mp newline
          rw [beq_iff_eq] at last
          rw [← List.dropLast_append_getLast? '\n' last] at later
          rcases List.mem_append.mp later with early | single
          · exact absurd (List.all_eq_true.mp all ':' early) (by decide)
          · exact absurd (List.mem_singleton.mp single) (by decide)

/-- Joined parts are told apart when the connections hold no colon. -/
theorem joined_eq_iff (label : String) {first second front back : String}
    (firstFree : ':' ∉ first.toList) (secondFree : ':' ∉ second.toList) :
    label ++ first ++ ":" ++ front = label ++ second ++ ":" ++ back ↔
      first = second ∧ front = back := by
  rw [← String.toList_inj]
  simp only [String.toList_append, List.append_assoc, List.append_cancel_left_eq]
  have colon : ":".toList = [':'] := rfl
  rw [colon, List.singleton_append, List.singleton_append,
    append_cons_eq_iff firstFree secondFree, String.toList_inj, String.toList_inj]

section Callers

variable {first second : Caller}

theorem Caller.eq_iff : first = second ↔
    first.connection = second.connection ∧ first.principal = second.principal := by
  rw [Caller.mk.injEq]

theorem zset_eq_iff (firstAdmitted : first.Admitted) (secondAdmitted : second.Admitted) :
    (quotaKeys first).1 = (quotaKeys second).1 ↔ first = second := by
  rw [Caller.eq_iff]
  exact joined_eq_iff _ (colon_free_of_matchesValidId firstAdmitted.1)
    (colon_free_of_matchesValidId secondAdmitted.1)

theorem queuePrincipalKey_eq_iff (firstAdmitted : first.Admitted)
    (secondAdmitted : second.Admitted) :
    queuePrincipalKey first = queuePrincipalKey second ↔ first = second := by
  rw [Caller.eq_iff]
  exact joined_eq_iff _ (colon_free_of_matchesValidId firstAdmitted.1)
    (colon_free_of_matchesValidId secondAdmitted.1)

/-- `record_bytes` finds the sorted set that `reserve` wrote. -/
theorem zsetKeyOf_hash (caller : Caller) : zsetKeyOf (quotaKeys caller).2 = (quotaKeys caller).1 := by
  rw [zsetKeyOf, quotaKeys]
  dsimp only
  rw [String.toList_append, List.length_append, Nat.add_sub_cancel, List.take_left,
    String.ofList_toList]

theorem hash_eq_iff (firstAdmitted : first.Admitted) (secondAdmitted : second.Admitted) :
    (quotaKeys first).2 = (quotaKeys second).2 ↔ first = second := by
  rw [← zset_eq_iff firstAdmitted secondAdmitted]
  exact String.append_left_inj ":bytes"

/-- The sorted set of one caller is the hash of the other exactly when the suffix of the
hash ends the principal. -/
theorem zset_eq_hash_iff (firstAdmitted : first.Admitted) (secondAdmitted : second.Admitted) :
    (quotaKeys first).1 = (quotaKeys second).2 ↔
      first.connection = second.connection ∧ first.principal = second.principal ++ ":bytes" := by
  rw [← joined_eq_iff "qg:quota:" (colon_free_of_matchesValidId firstAdmitted.1)
    (colon_free_of_matchesValidId secondAdmitted.1)]
  simp only [quotaKeys, String.append_assoc]

theorem ne_of_quota_of_queue (rest other : String) : "qg:quota:" ++ rest ≠ "querygate:queue:" ++ other := by
  intro same
  have letters := congrArg String.toList same
  simp only [String.toList_append] at letters
  simp at letters

theorem zset_parts (caller : Caller) :
    (quotaKeys caller).1 = "qg:quota:" ++ (caller.connection ++ (":" ++ caller.principal)) := by
  delta quotaKeys
  rw [String.append_assoc, String.append_assoc]

theorem hash_parts (caller : Caller) : (quotaKeys caller).2 =
    "qg:quota:" ++ (caller.connection ++ (":" ++ caller.principal) ++ ":bytes") := by
  rw [← String.append_assoc, ← zset_parts]
  rfl

theorem queuePrincipalKey_parts (caller : Caller) : queuePrincipalKey caller =
    "querygate:queue:" ++ (caller.connection ++ (":" ++ caller.principal)) := by
  delta queuePrincipalKey
  rw [String.append_assoc, String.append_assoc]

theorem zset_ne_queuePrincipalKey : (quotaKeys first).1 ≠ queuePrincipalKey second := by
  rw [zset_parts, queuePrincipalKey_parts]
  exact ne_of_quota_of_queue _ _

theorem hash_ne_queuePrincipalKey : (quotaKeys first).2 ≠ queuePrincipalKey second := by
  rw [hash_parts, queuePrincipalKey_parts]
  exact ne_of_quota_of_queue _ _

theorem queuePrincipalKey_ne_queueKey (admitted : second.Admitted) :
    queuePrincipalKey first ≠ queueKey second.connection := by
  rw [queuePrincipalKey_parts, queueKey]
  intro same
  have letters := congrArg String.toList ((String.append_right_inj _).mp same)
  apply colon_free_of_matchesValidId admitted.1
  rw [← letters]
  simp

/-- The waiters of a connection are under no caller's own key. -/
theorem queueKey_not_mem_callerKeys (admitted : second.Admitted) :
    queueKey second.connection ∉ callerKeys first := by
  simp only [callerKeys, List.mem_cons, List.not_mem_nil, or_false, not_or]
  refine ⟨Ne.symm ?_, Ne.symm ?_, (queuePrincipalKey_ne_queueKey admitted).symm⟩
  · rw [zset_parts, queueKey]
    exact ne_of_quota_of_queue _ _
  · rw [hash_parts, queueKey]
    exact ne_of_quota_of_queue _ _

theorem zset_ne_hash (caller : Caller) : (quotaKeys caller).1 ≠ (quotaKeys caller).2 := by
  intro same
  have letters := congrArg (List.length ∘ String.toList) same
  simp [quotaKeys] at letters

theorem nodup_callerKeys (caller : Caller) : (callerKeys caller).Nodup := by
  simp only [callerKeys, List.nodup_cons, List.mem_cons, List.not_mem_nil, or_false, not_or,
    not_false_eq_true, List.nodup_nil, and_true]
  exact ⟨⟨zset_ne_hash caller, zset_ne_queuePrincipalKey⟩, hash_ne_queuePrincipalKey⟩

/-- Two callers share a key exactly when one principal is the other with the suffix. -/
theorem disjoint_callerKeys_iff (firstAdmitted : first.Admitted) (secondAdmitted : second.Admitted)
    (distinct : first ≠ second) :
    (∀ key ∈ callerKeys first, key ∉ callerKeys second) ↔ ¬ SuffixedByBytes first second := by
  have zsets := zset_eq_iff firstAdmitted secondAdmitted
  have hashes := hash_eq_iff firstAdmitted secondAdmitted
  have queues := queuePrincipalKey_eq_iff firstAdmitted secondAdmitted
  have zsetHash := zset_eq_hash_iff firstAdmitted secondAdmitted
  have hashZset := zset_eq_hash_iff secondAdmitted firstAdmitted
  have zsetQueue : (quotaKeys first).1 ≠ queuePrincipalKey second := zset_ne_queuePrincipalKey
  have hashQueue : (quotaKeys first).2 ≠ queuePrincipalKey second := hash_ne_queuePrincipalKey
  have queueZset : (quotaKeys second).1 ≠ queuePrincipalKey first := zset_ne_queuePrincipalKey
  have queueHash : (quotaKeys second).2 ≠ queuePrincipalKey first := hash_ne_queuePrincipalKey
  have crossed : (quotaKeys first).2 = (quotaKeys second).1 ↔
      first.connection = second.connection ∧ second.principal = first.principal ++ ":bytes" := by
    rw [eq_comm, hashZset, eq_comm (a := second.connection)]
  unfold SuffixedByBytes callerKeys
  simp only [List.mem_cons, List.not_mem_nil, or_false, not_or, forall_eq_or_imp, forall_eq,
    zsets, hashes, queues, distinct, zsetHash, crossed, zsetQueue, hashQueue, Ne.symm queueZset,
    Ne.symm queueHash, not_false_eq_true, true_and, and_true]
  rw [← not_or, ← and_or_left]

theorem afterTraffic_of_disjoint (admitted : second.Admitted)
    (disjoint : ∀ key ∈ callerKeys first, key ∉ callerKeys second) (traffic : List CallerScript)
    (store : String → Option RedisSlot) {key : String} (own : key ∈ callerKeys first) :
    afterTraffic second traffic store key = store key := by
  have touches : ∀ program ∈ traffic.map (CallerScript.program second),
      StoreProgram.Touches (queueKey second.connection :: callerKeys second) program := by
    intro program member
    obtain ⟨script, _, rfl⟩ := List.mem_map.mp member
    exact program_touches second script
  apply StoreProgram.storeAfterAll_of_touches touches store
  · intro listed
    rcases List.mem_cons.mp listed with rfl | shared
    · exact queueKey_not_mem_callerKeys admitted own
    · exact disjoint key own shared

/-- Callers are kept apart exactly when, on one connection, neither principal is the
other with `:bytes` after it. -/
theorem keysKeptApart_iff (firstAdmitted : first.Admitted) (secondAdmitted : second.Admitted)
    (distinct : first ≠ second) : KeysKeptApart first second ↔ ¬ SuffixedByBytes first second := by
  rw [← disjoint_callerKeys_iff firstAdmitted secondAdmitted distinct]
  constructor
  · exact KeysKeptApart.disjoint
  · intro disjoint
    have back : ∀ key ∈ callerKeys second, key ∉ callerKeys first :=
      fun key own shared => disjoint key shared own
    exact {
      disjoint := disjoint
      distinct := ⟨nodup_callerKeys first, nodup_callerKeys second⟩
      unchanged := fun traffic store key own =>
        afterTraffic_of_disjoint secondAdmitted disjoint traffic store own
      unchangedBack := fun traffic store key own =>
        afterTraffic_of_disjoint firstAdmitted back traffic store own }

end Callers

/-- Two subjects of an identity provider on one connection. -/
theorem keysKeptApart_of_twoSubjects :
    KeysKeptApart ⟨"sales", "auth0|alice"⟩ ⟨"sales", "urn:example:bob"⟩ := by
  refine (keysKeptApart_iff ⟨by decide, by decide⟩ ⟨by decide, by decide⟩ (by decide)).mpr ?_
  rintro ⟨_, first | second⟩
  · exact absurd (congrArg String.length first) (by decide)
  · exact absurd (congrArg String.length second) (by decide)

/-- The hash of one subject is the sorted set of another. -/
theorem not_keysKeptApart_of_suffixedSubject :
    Caller.Admitted ⟨"sales", "alice"⟩ ∧ Caller.Admitted ⟨"sales", "alice:bytes"⟩ ∧
      (⟨"sales", "alice"⟩ : Caller) ≠ ⟨"sales", "alice:bytes"⟩ ∧
      (quotaKeys ⟨"sales", "alice"⟩).2 = (quotaKeys ⟨"sales", "alice:bytes"⟩).1 ∧
      ¬ KeysKeptApart ⟨"sales", "alice"⟩ ⟨"sales", "alice:bytes"⟩ := by
  have shared : (quotaKeys ⟨"sales", "alice"⟩).2 = (quotaKeys ⟨"sales", "alice:bytes"⟩).1 := by
    have suffixed : "alice:bytes" = "alice" ++ ":bytes" := by decide
    rw [quotaKeys, quotaKeys]
    dsimp only
    rw [suffixed, String.append_assoc, String.append_assoc, String.append_assoc]
  refine ⟨⟨by decide, by decide⟩, ⟨by decide, by decide⟩, by decide, shared, fun apart => ?_⟩
  apply apart.disjoint (quotaKeys ⟨"sales", "alice"⟩).2
  · simp [callerKeys]
  · rw [shared]
    simp [callerKeys]

end QueryGate
