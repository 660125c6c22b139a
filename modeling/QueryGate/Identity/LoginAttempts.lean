import Mathlib.Data.Rat.Floor
import QueryGate.Foundation.Dict

/-! # Login attempts

`InProcessLoginAttemptStore` of `identity/local_auth.py`: failures, locks and spent time steps
by account, in a store of bounded size. Each method reads the clock once and runs to its end
without a switch.
-/

namespace QueryGate.LocalAuth

open Foundation

/-- `MAX_TRACKED_ACCOUNTS`. -/
def maxTrackedAccounts : Nat := 50000

/-- `_AttemptRecord`. -/
structure AttemptRecord where
  failures : Nat := 0
  lockedUntil : ℚ := 0
  lastTotpCounter : Option Int := none
  updatedAt : ℚ := 0
  deriving DecidableEq, Repr

/-- `InProcessLoginAttemptStore`, which has room for a record. -/
structure LoginAttemptStore where
  records : List (String × AttemptRecord) := []
  maxEntries : Nat := maxTrackedAccounts
  room : 0 < maxEntries := by decide

/-- The first record that was updated least recently. -/
def oldest : List (String × AttemptRecord) → Option String
  | [] => none
  | entry :: rest =>
      some (rest.foldl (fun best other =>
        if other.2.updatedAt < best.2.updatedAt then other else best) entry).1

namespace LoginAttemptStore

/-- `_records.get(key)`. -/
def record? (store : LoginAttemptStore) (key : String) : Option AttemptRecord :=
  dictGet store.records key

/-- The account whose record makes room for a new one. -/
def evicted (store : LoginAttemptStore) (key : String) : Option String :=
  if (store.record? key).isNone && decide (store.maxEntries ≤ store.records.length) then
    oldest store.records
  else none

/-- `_record`, with what is then assigned to its fields. -/
def amend (store : LoginAttemptStore) (key : String) (now : ℚ)
    (change : AttemptRecord → AttemptRecord) : LoginAttemptStore :=
  let record := (store.record? key).getD {}
  let kept := store.records.filter fun entry => some entry.1 != store.evicted key
  { store with records := dictSet kept key (change { record with updatedAt := now }) }

/-- `lockout_remaining`. -/
def lockoutRemaining (store : LoginAttemptStore) (key : String) (now : ℚ) : ℚ :=
  match store.record? key with
  | none => 0
  | some record => max 0 (record.lockedUntil - now)

/-- The recorded failures of an account. -/
def failures (store : LoginAttemptStore) (key : String) : Nat :=
  ((store.record? key).getD {}).failures

/-- The failure to be recorded locks the account. -/
def locks (store : LoginAttemptStore) (key : String) (threshold : Nat) : Bool :=
  decide (0 < threshold) && decide (threshold ≤ store.failures key + 1)

/-- `record_failure`. -/
def recordFailure (store : LoginAttemptStore) (key : String) (threshold : Nat) (seconds now : ℚ) :
    LoginAttemptStore :=
  store.amend key now fun record =>
    if store.locks key threshold then { record with lockedUntil := now + seconds, failures := 0 }
    else { record with failures := record.failures + 1 }

/-- `record_success`. -/
def recordSuccess (store : LoginAttemptStore) (key : String) (now : ℚ) : LoginAttemptStore :=
  store.amend key now fun record => { record with failures := 0, lockedUntil := 0 }

/-- A time step was spent, by the record of the account. -/
def spent (store : LoginAttemptStore) (key : String) (counter : Int) : Bool :=
  match (store.record? key).bind AttemptRecord.lastTotpCounter with
  | some last => decide (counter ≤ last)
  | none => false

/-- `consume_totp_counter`, which answers that the step was not spent. -/
def consumeTotpCounter (store : LoginAttemptStore) (key : String) (counter : Int) (now : ℚ) :
    LoginAttemptStore :=
  store.amend key now fun record =>
    if store.spent key counter then record else { record with lastTotpCounter := some counter }

variable {store : LoginAttemptStore} {key : String}

/-- An account with a record makes no other one go. -/
theorem evicted_of_present {record : AttemptRecord} (present : store.record? key = some record) :
    store.evicted key = none := by
  simp [evicted, present]

/-- What a change of one record leaves of the store. -/
theorem record?_amend (now : ℚ) (change : AttemptRecord → AttemptRecord) (other : String) :
    (store.amend key now change).record? other =
      if key = other then some (change { (store.record? key).getD {} with updatedAt := now })
      else if some other = store.evicted key then none
      else store.record? other := by
  unfold record? amend
  rw [dictGet_dictSet]
  by_cases same : key = other
  · rw [if_pos same, if_pos same]
    rfl
  · rw [if_neg same, if_neg same,
      dictGet_filter_key store.records (fun name => some name != store.evicted key)]
    by_cases gone : some other = store.evicted key
    · simp [gone]
    · simp [gone]

theorem record?_amend_self (now : ℚ) (change : AttemptRecord → AttemptRecord) :
    (store.amend key now change).record? key =
      some (change { (store.record? key).getD {} with updatedAt := now }) := by
  rw [record?_amend, if_pos rfl]

/-- A record other than the changed one stays, or makes room. -/
theorem record?_amend_other {now : ℚ} {change : AttemptRecord → AttemptRecord} {other : String}
    (differ : key ≠ other) :
    (store.amend key now change).record? other = store.record? other ∨
      store.evicted key = some other ∧ (store.amend key now change).record? other = none := by
  rw [record?_amend, if_neg differ]
  by_cases gone : some other = store.evicted key
  · exact Or.inr ⟨gone.symm, if_pos gone⟩
  · exact Or.inl (if_neg gone)

theorem failures_of_present {record : AttemptRecord} (present : store.record? key = some record) :
    store.failures key = record.failures := by
  rw [failures, present, Option.getD_some]

theorem failures_amend_self (now : ℚ) (change : AttemptRecord → AttemptRecord) :
    (store.amend key now change).failures key =
      (change { (store.record? key).getD {} with updatedAt := now }).failures :=
  failures_of_present (record?_amend_self now change)

/-- Failures are forgotten only with the record that makes room. -/
theorem failures_amend_other {now : ℚ} {change : AttemptRecord → AttemptRecord} {other : String}
    (differ : key ≠ other) (kept : store.evicted key = some other → store.failures other = 0) :
    (store.amend key now change).failures other = store.failures other := by
  rcases @record?_amend_other store key now change other differ with same | ⟨gone, absent⟩
  · rw [failures, failures, same]
  · rw [kept gone, failures, absent]
    rfl

theorem lockoutRemaining_pos_iff {now : ℚ} :
    0 < store.lockoutRemaining key now ↔
      ∃ record, store.record? key = some record ∧ now < record.lockedUntil := by
  unfold lockoutRemaining
  cases store.record? key with
  | none => simp
  | some record => simp

end LoginAttemptStore

end QueryGate.LocalAuth
