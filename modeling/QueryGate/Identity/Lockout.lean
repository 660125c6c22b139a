import QueryGate.Identity.LocalAuth

/-! # The lockout of an account

What the failures of an account come to over any interleaving of sign-ins. The lock is read
before the password is hashed and written after it, so a lock only bounds the guesses of
attempts that do not overlap too much: `Orderly` says how much.
-/

namespace QueryGate.LocalAuth

open Foundation

section Lockout

variable (env : LoginEnv)

/-- The attempt was rejected, and its failure is not recorded yet. -/
def LoginAttempt.unrecorded (attempt : LoginAttempt) (key : String) : Bool :=
  match attempt.phase with
  | .failing _ => attempt.key == key
  | _ => false

/-- The checks of the account that were rejected and are not recorded yet. -/
def LoginState.unrecorded (state : LoginState) (key : String) : Nat :=
  state.attempts.countP fun entry => entry.2.unrecorded key

/-- The attempt's next stretch ends in a rejection. -/
def rejects (state : LoginState) (attempt : LoginAttempt) : Bool :=
  match attempt.phase with
  | .hashing =>
      match checkCredentials env attempt state.time with
      | .rejected _ => true
      | _ => false
  | .consuming counter => state.store.spent attempt.key counter
  | _ => false

/-- The attempt's next stretch records a failure. -/
def LoginPhase.fails : LoginPhase → Bool
  | .failing _ => true
  | _ => false

/-- The attempt's next stretch records a success. -/
def LoginPhase.succeeds : LoginPhase → Bool
  | .succeeding _ => true
  | _ => false

/-- A stretch of an attempt that keeps the lockout: its checks do not raise; a rejection finds
fewer failures, recorded or to be recorded, than the threshold; a record that makes room has no
failure and no lock; a success finds no lock, and a failure that finds one does not lock again. -/
structure OrderlyAdvance (state : LoginState) (attempt : LoginAttempt) : Prop where
  answers : attempt.phase = .hashing → checkCredentials env attempt state.time ≠ .raised
  counted : rejects env state attempt = true →
    state.store.failures attempt.key + state.unrecorded attempt.key < env.lockoutThreshold
  kept : attempt.phase.writes = true → ∀ gone ∈ state.store.evicted attempt.key,
    state.store.failures gone = 0 ∧ ¬ 0 < state.store.lockoutRemaining gone state.monotonic
  unlocked : attempt.phase.succeeds = true →
    ¬ 0 < state.store.lockoutRemaining attempt.key state.monotonic
  below : attempt.phase.fails = true →
    0 < state.store.lockoutRemaining attempt.key state.monotonic →
    state.store.locks attempt.key env.lockoutThreshold = false

instance (state : LoginState) (attempt : LoginAttempt) :
    Decidable (OrderlyAdvance env state attempt) :=
  decidable_of_iff (_ ∧ _ ∧ _ ∧ _ ∧ _)
    ⟨fun ⟨answers, counted, kept, unlocked, below⟩ => ⟨answers, counted, kept, unlocked, below⟩,
      fun orderly => ⟨orderly.answers, orderly.counted, orderly.kept, orderly.unlocked,
        orderly.below⟩⟩

/-- A step that keeps the lockout. -/
def Orderly (state : LoginState) : LoginAction → Prop
  | .call _ _ _ _ => True
  | .advance id monotonic time => ∀ attempt ∈ state.attempt? id,
      OrderlyAdvance env (state.clocked monotonic time) attempt

instance (state : LoginState) : DecidablePred (Orderly env state)
  | .call _ _ _ _ => inferInstanceAs (Decidable True)
  | .advance id monotonic time => inferInstanceAs (Decidable (∀ attempt ∈ state.attempt? id,
      OrderlyAdvance env (state.clocked monotonic time) attempt))

/-- The event is a rejection on the account. -/
def LoginEvent.rejects (key : String) : LoginEvent → Bool
  | .rejected _ account _ => account == key
  | _ => false

/-- The event locks the account, or is a sign-in to it. -/
def LoginEvent.closes (key : String) : LoginEvent → Bool
  | .recorded _ account _ locking => locking && account == key
  | .returned _ account _ => account == key
  | _ => false

/-- The event records a failure of the attempt. -/
def LoginEvent.failureOf (attempt : Nat) : LoginEvent → Bool
  | .recorded id _ _ _ => id == attempt
  | _ => false

/-- What the lockout promises of a run. From a moment when the account is unlocked and has no
failures, at most as many of its checks are rejected as the threshold says before it is locked or
signed in to, which is such a moment again. An attempt that has ended without a sign-in and was
not refused is recorded as one failure, of its own account. While an account is locked, no step
signs in to it, takes back its failures or shortens the lock. -/
structure LockoutBounds (start : LoginState) (actions : List LoginAction) : Prop where
  bounded : ∀ before window after middle final past new key,
    actions = before ++ window ++ after →
    runSteps (loginStep env) start before = some (middle, past) →
    runSteps (loginStep env) middle window = some (final, new) →
    ¬ 0 < middle.store.lockoutRemaining key middle.monotonic → middle.store.failures key = 0 →
    (∀ event ∈ new, event.closes key = false) →
    new.countP (LoginEvent.rejects key) ≤ env.lockoutThreshold
  recordedOnce : ∀ before after final events id key, actions = before ++ after →
    runSteps (loginStep env) start before = some (final, events) →
    .called id key ∈ events → final.attempt? id = none →
    (∀ usedMfa, .returned id key usedMfa ∉ events) → .refused id key ∉ events →
    events.countP (LoginEvent.failureOf id) = 1 ∧
      ∀ account category locking, .recorded id account category locking ∈ events → account = key
  lockKept : ∀ before after middle next past new id monotonic time key until_,
    actions = before ++ .advance id monotonic time :: after →
    runSteps (loginStep env) start before = some (middle, past) →
    loginStep env middle (.advance id monotonic time) = some (next, new) →
    dictGet middle.locks key = some until_ → monotonic < until_ →
    (∀ other usedMfa, .returned other key usedMfa ∉ new) ∧
      middle.store.failures key ≤ next.store.failures key ∧
      ∃ record, next.store.record? key = some record ∧ until_ ≤ record.lockedUntil

variable {env}

/-! ## What a write leaves of other accounts -/

/-- The account's lock is over, or in its record. -/
def LockHeld (store : LoginAttemptStore) (locks : List (String × ℚ)) (monotonic : ℚ)
    (key : String) : Prop :=
  ∀ until_, dictGet locks key = some until_ → until_ ≤ monotonic ∨
    ∃ record, store.record? key = some record ∧ record.lockedUntil = until_

/-- A lock is not lost with a record that makes room, unless it is over. -/
theorem lockHeld_amend_other {store : LoginAttemptStore} {locks : List (String × ℚ)}
    {now : ℚ} {key other : String} {change : AttemptRecord → AttemptRecord} (differ : key ≠ other)
    (kept : store.evicted key = some other → ¬ 0 < store.lockoutRemaining other now)
    (held : LockHeld store locks now other) :
    LockHeld (store.amend key now change) locks now other := by
  intro until_ locked
  rcases held until_ locked with past | ⟨record, present, same⟩
  · exact Or.inl past
  rcases @LoginAttemptStore.record?_amend_other store key now change other differ with
    stays | ⟨gone, _⟩
  · exact Or.inr ⟨record, stays.trans present, same⟩
  · have over_ := kept gone
    rw [LoginAttemptStore.lockoutRemaining_pos_iff] at over_
    refine Or.inl (le_of_not_gt fun later => over_ ⟨record, present, ?_⟩)
    rw [same]
    exact later

/-- A change that leaves the lock in the record leaves it held. -/
theorem lockHeld_amend_self {store : LoginAttemptStore} {locks : List (String × ℚ)}
    {now : ℚ} {key : String} {change : AttemptRecord → AttemptRecord}
    (same : ∀ record, (change record).lockedUntil = record.lockedUntil)
    (held : LockHeld store locks now key) : LockHeld (store.amend key now change) locks now key := by
  intro until_ locked
  rcases held until_ locked with past | ⟨record, present, stored⟩
  · exact Or.inl past
  · refine Or.inr ⟨_, LoginAttemptStore.record?_amend_self now change, ?_⟩
    rw [same, present, Option.getD_some]
    exact stored

theorem dictGet_unlocked (locks : List (String × ℚ)) (key other : String) :
    dictGet (locks.filter fun entry => entry.1 != key) other =
      if key = other then none else dictGet locks other := by
  rw [dictGet_filter_key locks (fun name => name != key)]
  by_cases same : key = other
  · simp [same]
  · simp [same, Ne.symm same]

/-- A stretch that keeps the lockout keeps every lock in force. -/
theorem lockHeld_advances {state next : LoginState} {id : Nat} {attempt : LoginAttempt}
    {new : List LoginEvent} (orderly : OrderlyAdvance env state attempt)
    (advances : Advances env state id attempt next new) {key : String}
    (held : LockHeld state.store state.locks state.monotonic key) :
    LockHeld next.store next.locks next.monotonic key := by
  have elsewhere : attempt.phase.writes = true → attempt.key ≠ key → ∀ change,
      LockHeld (state.store.amend attempt.key state.monotonic change) state.locks state.monotonic
        key :=
    fun writes differ change => lockHeld_amend_other differ
      (fun gone => (orderly.kept writes key gone).2) held
  cases advances with
  | refused | admitted | acquired | raised | rejected | verified | passed => exact held
  | replayed counter phase spent =>
      by_cases same : attempt.key = key
      · subst same
        exact lockHeld_amend_self (fun record => by split <;> rfl) held
      · exact elsewhere (writes_of_consuming phase) same _
  | accepted counter phase spent =>
      by_cases same : attempt.key = key
      · subst same
        exact lockHeld_amend_self (fun record => by split <;> rfl) held
      · exact elsewhere (writes_of_consuming phase) same _
  | failed category phase locking =>
      by_cases same : attempt.key = key
      · subst same
        exact lockHeld_amend_self (fun record => by rw [locking]; rfl) held
      · exact elsewhere (writes_of_failing phase) same _
  | locked category phase locking =>
      intro until_ found
      replace found := (dictGet_dictSet ..).symm.trans found
      by_cases same : attempt.key = key
      · subst same
        rw [if_pos rfl] at found
        refine Or.inr ⟨_, LoginAttemptStore.record?_amend_self .., ?_⟩
        rw [if_pos locking]
        exact Option.some.inj found
      · rw [if_neg same] at found
        exact elsewhere (writes_of_failing phase) same _ until_ found
  | returned usedMfa phase =>
      intro until_ found
      replace found := (dictGet_unlocked ..).symm.trans found
      by_cases same : attempt.key = key
      · rw [if_pos same] at found
        cases found
      · rw [if_neg same] at found
        exact elsewhere (writes_of_succeeding phase) same _ until_ found

/-- A write while an account is locked keeps its failures and its lock, if a write to its own
record does. -/
theorem lock_kept_of_amend {state : LoginState} {attempt : LoginAttempt} {key : String}
    (orderly : OrderlyAdvance env state attempt) (writes : attempt.phase.writes = true)
    {record : AttemptRecord} (present : state.store.record? key = some record)
    (inForce : state.monotonic < record.lockedUntil) {change : AttemptRecord → AttemptRecord}
    (own : attempt.key = key → ∀ old, (change old).lockedUntil = old.lockedUntil ∧
      old.failures ≤ (change old).failures) :
    state.store.failures key ≤
        (state.store.amend attempt.key state.monotonic change).failures key ∧
      ∃ later, (state.store.amend attempt.key state.monotonic change).record? key = some later ∧
        record.lockedUntil ≤ later.lockedUntil := by
  have failures := LoginAttemptStore.failures_of_present present
  by_cases same : attempt.key = key
  · obtain ⟨sameLock, more⟩ := own same { record with updatedAt := state.monotonic }
    have written := @LoginAttemptStore.record?_amend_self state.store attempt.key state.monotonic
      change
    rw [same, present, Option.getD_some] at written
    rw [same]
    refine ⟨?_, _, written, le_of_eq sameLock.symm⟩
    rw [failures, LoginAttemptStore.failures_of_present written]
    exact more
  · rcases @LoginAttemptStore.record?_amend_other _ _ state.monotonic change _ same
      with stays | ⟨gone, _⟩
    · refine ⟨le_of_eq ?_, record, stays.trans present, le_rfl⟩
      rw [failures, LoginAttemptStore.failures_of_present (stays.trans present)]
    · have over_ := (orderly.kept writes key gone).2
      rw [LoginAttemptStore.lockoutRemaining_pos_iff] at over_
      exact absurd ⟨record, present, inForce⟩ over_

/-- While an account is locked, a stretch that keeps the lockout neither signs in to it, nor
takes back its failures, nor shortens its lock. -/
theorem lock_kept_of_advances {state next : LoginState} {id : Nat} {attempt : LoginAttempt}
    {new : List LoginEvent} (orderly : OrderlyAdvance env state attempt)
    (advances : Advances env state id attempt next new) {key : String}
    (held : LockHeld state.store state.locks state.monotonic key) {until_ : ℚ}
    (locked : dictGet state.locks key = some until_) (later : state.monotonic < until_) :
    (∀ other usedMfa, .returned other key usedMfa ∉ new) ∧
      state.store.failures key ≤ next.store.failures key ∧
      ∃ record, next.store.record? key = some record ∧ until_ ≤ record.lockedUntil := by
  obtain past | ⟨record, present, rfl⟩ := held until_ locked
  · exact absurd later (not_lt_of_ge past)
  have inForce : 0 < state.store.lockoutRemaining key state.monotonic :=
    LoginAttemptStore.lockoutRemaining_pos_iff.mpr ⟨record, present, later⟩
  have consumed : ∀ counter, attempt.phase.writes = true →
      state.store.failures key ≤ (state.store.consumeTotpCounter attempt.key counter
          state.monotonic).failures key ∧
        ∃ after, (state.store.consumeTotpCounter attempt.key counter state.monotonic).record? key =
          some after ∧ record.lockedUntil ≤ after.lockedUntil :=
    fun counter writes => lock_kept_of_amend orderly writes present later fun _ old => by
      split
      · exact ⟨rfl, le_rfl⟩
      · exact ⟨rfl, le_rfl⟩
  cases advances with
  | refused | admitted | acquired | raised | rejected | verified | passed =>
      exact ⟨by simp, le_rfl, record, present, le_rfl⟩
  | replayed counter phase spent =>
      exact ⟨by simp, consumed counter (writes_of_consuming phase)⟩
  | accepted counter phase spent =>
      exact ⟨by simp, consumed counter (writes_of_consuming phase)⟩
  | failed category phase locking =>
      refine ⟨by simp, lock_kept_of_amend orderly (writes_of_failing phase) present later ?_⟩
      intro _ old
      rw [locking]
      exact ⟨rfl, Nat.le_succ _⟩
  | locked category phase locking =>
      have differ : attempt.key ≠ key := by
        rintro rfl
        rw [orderly.below (by rw [phase]; rfl) inForce] at locking
        cases locking
      exact ⟨by simp, lock_kept_of_amend orderly (writes_of_failing phase) present later
        fun same => absurd same differ⟩
  | returned usedMfa phase =>
      have differ : attempt.key ≠ key := by
        rintro rfl
        exact orderly.unlocked (by rw [phase]; rfl) inForce
      refine ⟨?_, lock_kept_of_amend orderly (writes_of_succeeding phase) present later
        fun same => absurd same differ⟩
      intro other used member
      cases List.mem_singleton.mp member
      exact differ rfl

/-! ## Counting rejections -/

/-- The failures of an account and its rejections to be recorded grow with its rejections, until
it is locked or signed in to. -/
structure Counted (env : LoginEnv) (key : String) (state : LoginState) (new : List LoginEvent) : Prop where
  distinct : (dictKeys state.attempts).Nodup
  open_ : (∀ event ∈ new, event.closes key = false) →
    new.countP (LoginEvent.rejects key) ≤ env.lockoutThreshold ∧
      new.countP (LoginEvent.rejects key) ≤ state.store.failures key + state.unrecorded key

theorem unrecorded_moved {state : LoginState} {id : Nat} {attempt : LoginAttempt}
    (distinct : (dictKeys state.attempts).Nodup) (found : state.attempt? id = some attempt)
    (phase : LoginPhase) (key : String) :
    (state.moved id attempt phase).unrecorded key + (if attempt.unrecorded key then 1 else 0) =
      state.unrecorded key +
        (if ({ attempt with phase := phase } : LoginAttempt).unrecorded key then 1 else 0) :=
  LoginState.countP_moved distinct found phase fun entry => entry.2.unrecorded key

theorem unrecorded_ended {state : LoginState} {id : Nat} {attempt : LoginAttempt}
    (distinct : (dictKeys state.attempts).Nodup) (found : state.attempt? id = some attempt)
    (key : String) :
    (state.ended id).unrecorded key + (if attempt.unrecorded key then 1 else 0) =
      state.unrecorded key :=
  LoginState.countP_ended distinct found fun entry => entry.2.unrecorded key

theorem not_unrecorded {attempt : LoginAttempt} {key : String}
    (phase : ∀ category, attempt.phase ≠ .failing category) : attempt.unrecorded key = false := by
  unfold LoginAttempt.unrecorded
  split
  · rename_i category failing
    exact absurd failing (phase category)
  · rfl

/-- What a stretch adds: no rejection, and no less is recorded or to be recorded; or a rejection
that is to be recorded, below the threshold. -/
theorem Counted.step {key : String} {state next : LoginState} {past new : List LoginEvent}
    (counted : Counted env key state past) (distinct : (dictKeys next.attempts).Nodup)
    (adds : (∀ event ∈ new, event.closes key = false) →
      (new.countP (LoginEvent.rejects key) = 0 ∧ state.store.failures key + state.unrecorded key ≤
        next.store.failures key + next.unrecorded key) ∨
      (new.countP (LoginEvent.rejects key) = 1 ∧
        state.store.failures key + state.unrecorded key < env.lockoutThreshold ∧
        state.store.failures key + state.unrecorded key + 1 ≤
          next.store.failures key + next.unrecorded key)) :
    Counted env key next (past ++ new) where
  distinct := distinct
  open_ := by
    intro open_
    obtain ⟨bounded, counts⟩ := counted.open_ fun event member =>
      open_ event (List.mem_append_left _ member)
    rw [List.countP_append]
    rcases adds fun event member => open_ event (List.mem_append_right _ member) with
      ⟨none_, more⟩ | ⟨one, below, more⟩
    · constructor
      · omega
      · omega
    · constructor
      · omega
      · omega

/-- A write that leaves the failures of its own record leaves those of every account. -/
theorem failures_of_write {state : LoginState} {attempt : LoginAttempt}
    (orderly : OrderlyAdvance env state attempt) (writes : attempt.phase.writes = true) (key : String)
    {change : AttemptRecord → AttemptRecord}
    (own : attempt.key = key → ∀ old, (change old).failures = old.failures) :
    (state.store.amend attempt.key state.monotonic change).failures key =
      state.store.failures key := by
  by_cases same : attempt.key = key
  · subst same
    rw [LoginAttemptStore.failures_amend_self, own rfl]
    rfl
  · exact LoginAttemptStore.failures_amend_other same fun gone => (orderly.kept writes key gone).1

theorem failures_of_consumed {state : LoginState} {attempt : LoginAttempt}
    (orderly : OrderlyAdvance env state attempt) {counter : Int}
    (phase : attempt.phase = .consuming counter) (key : String) :
    (state.store.consumeTotpCounter attempt.key counter state.monotonic).failures key =
      state.store.failures key :=
  failures_of_write orderly (writes_of_consuming phase) key fun _ old => by
    split
    · rfl
    · rfl

/-- A stretch that keeps the lockout keeps count of the rejections. -/
theorem counted_advances {state next : LoginState} {id : Nat} {attempt : LoginAttempt}
    {past new : List LoginEvent} {key : String} (orderly : OrderlyAdvance env state attempt)
    (found : state.attempt? id = some attempt)
    (advances : Advances env state id attempt next new) (counted : Counted env key state past) :
    Counted env key next (past ++ new) := by
  have ended := unrecorded_ended counted.distinct found key
  have moved := fun phase => unrecorded_moved counted.distinct found phase key
  have stays : ∀ phase, (∀ category, attempt.phase ≠ .failing category) →
      (∀ category, phase ≠ .failing category) →
      (state.moved id attempt phase).unrecorded key = state.unrecorded key := by
    intro phase before after
    have counts := moved phase
    rw [not_unrecorded before, @not_unrecorded { attempt with phase := phase } key after] at counts
    exact counts
  have goesOn : ∀ phase, (∀ category, attempt.phase ≠ .failing category) →
      (∀ category, phase ≠ .failing category) →
      Counted env key (state.moved id attempt phase) (past ++ []) := by
    intro phase before after
    refine counted.step (LoginState.distinct_moved counted.distinct _) fun _ => Or.inl ⟨rfl, ?_⟩
    exact Nat.add_le_add_left (le_of_eq (stays phase before after).symm) _
  have rejection : ∀ category, (∀ category, attempt.phase ≠ .failing category) →
      (state.moved id attempt (.failing category)).unrecorded key =
        state.unrecorded key + if attempt.key = key then 1 else 0 := by
    intro category before
    have counts := moved (.failing category)
    rw [not_unrecorded before] at counts
    simp only [LoginAttempt.unrecorded, beq_iff_eq] at counts
    exact counts
  have elsewhere : attempt.phase.writes = true → attempt.key ≠ key → ∀ change,
      (state.store.amend attempt.key state.monotonic change).failures key =
        state.store.failures key :=
    fun writes own change => failures_of_write orderly writes key fun same => absurd same own
  cases advances with
  | refused phase held =>
      refine counted.step (LoginState.distinct_ended counted.distinct) fun _ => Or.inl ⟨rfl, ?_⟩
      rw [not_unrecorded (by simp [phase])] at ended
      exact Nat.add_le_add_left (le_of_eq ended.symm) _
  | raised phase verdict =>
      refine counted.step (LoginState.distinct_ended counted.distinct) fun _ => Or.inl ⟨rfl, ?_⟩
      rw [not_unrecorded (by simp [phase])] at ended
      exact Nat.add_le_add_left (le_of_eq ended.symm) _
  | admitted phase free => exact goesOn _ (by simp [phase]) (by simp)
  | acquired phase => exact goesOn _ (by simp [phase]) (by simp)
  | verified counter phase verdict => exact goesOn _ (by simp [phase]) (by simp)
  | passed phase verdict => exact goesOn _ (by simp [phase]) (by simp)
  | rejected category phase verdict =>
      refine counted.step (LoginState.distinct_moved counted.distinct _) fun _ => ?_
      have counts := rejection category (by simp [phase])
      have below := orderly.counted (by simp only [rejects, phase, verdict])
      by_cases own : attempt.key = key
      · rw [if_pos own] at counts
        rw [own] at below
        refine Or.inr ⟨by simp [LoginEvent.rejects, own], below, ?_⟩
        rw [counts]
        exact le_rfl
      · rw [if_neg own] at counts
        refine Or.inl ⟨by simp [LoginEvent.rejects, own], ?_⟩
        rw [counts]
        exact le_rfl
  | replayed counter phase spent =>
      refine counted.step (LoginState.distinct_moved counted.distinct _) fun _ => ?_
      have failures := failures_of_consumed orderly phase key
      have counts := rejection "replayed_mfa_code" (by simp [phase])
      have below := orderly.counted (by simp only [rejects, phase, spent])
      by_cases own : attempt.key = key
      · rw [if_pos own] at counts
        rw [own] at below
        refine Or.inr ⟨by simp [LoginEvent.rejects, own], below, ?_⟩
        exact le_of_eq (congr_arg₂ (· + ·) failures counts).symm
      · rw [if_neg own] at counts
        refine Or.inl ⟨by simp [LoginEvent.rejects, own], ?_⟩
        exact le_of_eq (congr_arg₂ (· + ·) failures counts).symm
  | accepted counter phase fresh =>
      refine counted.step (LoginState.distinct_moved counted.distinct _) fun _ => Or.inl ⟨rfl, ?_⟩
      exact le_of_eq (congr_arg₂ (· + ·) (failures_of_consumed orderly phase key)
        (stays _ (by simp [phase]) (by simp))).symm
  | failed category phase locking =>
      refine counted.step (LoginState.distinct_ended counted.distinct) fun _ => Or.inl ⟨rfl, ?_⟩
      simp only [LoginAttempt.unrecorded, phase, beq_iff_eq] at ended
      by_cases own : attempt.key = key
      · subst own
        rw [if_pos rfl] at ended
        have failures : (state.store.recordFailure attempt.key env.lockoutThreshold
            env.lockoutSeconds state.monotonic).failures attempt.key =
              state.store.failures attempt.key + 1 := by
          rw [LoginAttemptStore.recordFailure, LoginAttemptStore.failures_amend_self, locking]
          rfl
        change _ ≤ (state.store.recordFailure attempt.key env.lockoutThreshold env.lockoutSeconds
          state.monotonic).failures attempt.key + (state.ended id).unrecorded attempt.key
        omega
      · rw [if_neg own] at ended
        exact le_of_eq (congr_arg₂ (· + ·) (elsewhere (writes_of_failing phase) own _) ended).symm
  | locked category phase locking =>
      refine counted.step (LoginState.distinct_ended counted.distinct) fun open_ => Or.inl ⟨rfl, ?_⟩
      have own : attempt.key ≠ key := by
        rintro rfl
        have closed := open_ _ (List.mem_singleton_self _)
        simp [LoginEvent.closes] at closed
      simp only [LoginAttempt.unrecorded, phase, beq_iff_eq] at ended
      rw [if_neg own] at ended
      exact le_of_eq (congr_arg₂ (· + ·) (elsewhere (writes_of_failing phase) own _) ended).symm
  | returned usedMfa phase =>
      refine counted.step (LoginState.distinct_ended counted.distinct) fun open_ => Or.inl ⟨rfl, ?_⟩
      have own : attempt.key ≠ key := by
        rintro rfl
        have closed := open_ _ (List.mem_singleton_self _)
        simp [LoginEvent.closes] at closed
      rw [not_unrecorded (by simp [phase])] at ended
      exact le_of_eq (congr_arg₂ (· + ·) (elsewhere (writes_of_succeeding phase) own _) ended).symm

/-- A call counts for nothing yet. -/
theorem counted_beginLogin {state : LoginState} {past new : List LoginEvent} {key : String}
    (tracked : Tracked state past) (counted : Counted env key state new) (users : LocalUserStore)
    (username password : String) (totpCode : Option String) :
    Counted env key (beginLogin env state users username password totpCode).1
      (new ++ (beginLogin env state users username password totpCode).2) := by
  have unused : state.nextId ∉ dictKeys state.attempts := by
    intro member
    obtain ⟨attempt, found⟩ := Option.isSome_iff_exists.mp (dictGet_isSome_iff.mpr member)
    exact absurd (tracked.fresh _ (tracked.known _ attempt found)) (lt_irrefl state.nextId)
  unfold beginLogin
  dsimp only
  split
  · exact counted.step counted.distinct fun _ => Or.inl ⟨rfl, le_rfl⟩
  · refine counted.step (nodup_dictSet counted.distinct ..) fun _ => Or.inl ⟨rfl, ?_⟩
    rw [LoginState.unrecorded, LoginState.unrecorded, dictSet_of_not_mem _ unused,
      List.countP_append]
    exact Nat.add_le_add_left (Nat.le_add_right ..) _

/-! ## Runs -/

/-- What holds along a run that keeps the lockout. -/
structure InOrder (state : LoginState) (past : List LoginEvent) : Prop where
  tracked : Tracked state past
  held : ∀ key, LockHeld state.store state.locks state.monotonic key
  answered : ∀ id key, .raised id key ∉ past

/-- Time alone ends a lock. -/
theorem lockHeld_later {store : LoginAttemptStore} {locks : List (String × ℚ)} {now later : ℚ}
    {key : String} (held : LockHeld store locks now key) (forward : now ≤ later) :
    LockHeld store locks later key :=
  fun until_ locked => (held until_ locked).imp_left fun past => past.trans forward

theorem inOrder_step {state next : LoginState} {past new : List LoginEvent} {action : LoginAction}
    (inOrder : InOrder state past) (orderly : Orderly env state action)
    (stepped : loginStep env state action = some (next, new)) : InOrder next (past ++ new) := by
  refine ⟨tracked_step inOrder.tracked stepped, ?_, ?_⟩
  · intro key
    rcases loginStep_cases stepped with ⟨users, username, password, totpCode, -, same⟩ |
      ⟨id, monotonic, time, attempt, rfl, later, found, advances⟩
    · obtain ⟨store, locks, monotonic, _⟩ := beginLogin_frame same
      rw [store, locks, monotonic]
      exact inOrder.held key
    · exact lockHeld_advances (orderly attempt found) advances
        (lockHeld_later (inOrder.held key) later)
  · intro id key member
    rcases List.mem_append.mp member with old | late
    · exact inOrder.answered id key old
    · rcases loginStep_cases stepped with ⟨users, username, password, totpCode, -, same⟩ |
        ⟨own, monotonic, time, attempt, rfl, later, found, advances⟩
      · obtain ⟨_, _, _, _, starts, _⟩ := beginLogin_frame same
        cases starts _ late
      · cases advances with
        | raised phase verdict => exact (orderly attempt found).answers phase verdict
        | _ => simp at late

theorem inOrder_run {start final : LoginState} {past events : List LoginEvent}
    {actions : List LoginAction} (inOrder : InOrder start past)
    (orderly : StepsMeet (loginStep env) (Orderly env) start actions)
    (ran : runSteps (loginStep env) start actions = some (final, events)) :
    InOrder final (past ++ events) :=
  invariant_of_run inOrder_step inOrder orderly ran

theorem inOrder_start (store : LoginAttemptStore) : InOrder (startState store) [] where
  tracked := Tracked.start rfl
  held := nofun
  answered := nofun

/-- The rejections of a window are counted. -/
theorem counted_run {start final : LoginState} {past new : List LoginEvent} {key : String}
    {window : List LoginAction} (tracked : Tracked start past)
    (orderly : StepsMeet (loginStep env) (Orderly env) start window)
    (ran : runSteps (loginStep env) start window = some (final, new)) :
    Counted env key final new := by
  have kept := @invariant_of_run _ _ _ (loginStep env) (Orderly env)
    (fun state events => Tracked state (past ++ events) ∧ Counted env key state events) ?_ window
    start final [] new ⟨(List.append_nil past).symm ▸ tracked, tracked.distinct, ?_⟩ orderly ran
  · exact kept.2
  · rintro state next events more action ⟨tracked, counted⟩ orderly stepped
    refine ⟨List.append_assoc .. ▸ tracked_step tracked stepped, ?_⟩
    rcases loginStep_cases stepped with ⟨users, username, password, totpCode, -, same⟩ |
      ⟨id, monotonic, time, attempt, rfl, later, found, advances⟩
    · rw [(Prod.mk.inj same).1, (Prod.mk.inj same).2]
      exact counted_beginLogin tracked counted users username password totpCode
    · have clocked : Counted env key (state.clocked monotonic time) events := { counted with }
      exact counted_advances (orderly attempt found) found advances clocked
  · exact fun _ => ⟨Nat.zero_le _, Nat.zero_le _⟩

/-- An attempt that has ended without a sign-in, a refusal or an exception was recorded once. -/
theorem recorded_once {state : LoginState} {past : List LoginEvent} (inOrder : InOrder state past)
    {id : Nat} {key : String} (called : .called id key ∈ past) (ended : state.attempt? id = none)
    (unreturned : ∀ usedMfa, .returned id key usedMfa ∉ past) (unrefused : .refused id key ∉ past) :
    past.countP (LoginEvent.failureOf id) = 1 ∧
      ∀ account category locking, .recorded id account category locking ∈ past → account = key := by
  have own : ∀ event ∈ past, event.id = id → event.key = key := fun event member same =>
    inOrder.tracked.once id _ _ (same ▸ inOrder.tracked.named event member) called
  constructor
  · rw [← inOrder.tracked.closed id key called ended]
    refine List.countP_congr fun event member => ?_
    have named := own event member
    cases event with
    | called | rejected | accepted => simp [LoginEvent.failureOf, LoginEvent.ends, LoginEvent.last]
    | recorded other account category locking =>
        simp [LoginEvent.failureOf, LoginEvent.ends, LoginEvent.last, LoginEvent.id]
    | refused other account =>
        refine iff_of_false Bool.false_ne_true fun ends => ?_
        have same : other = id := by simpa [LoginEvent.ends, LoginEvent.last, LoginEvent.id] using ends
        subst same
        cases named rfl
        exact unrefused member
    | returned other account usedMfa =>
        refine iff_of_false Bool.false_ne_true fun ends => ?_
        have same : other = id := by simpa [LoginEvent.ends, LoginEvent.last, LoginEvent.id] using ends
        subst same
        cases named rfl
        exact unreturned usedMfa member
    | raised other account => exact absurd member (inOrder.answered other account)
  · exact fun account category locking member => own _ member rfl

end Lockout

/-! ## An instance -/

/-- Two attempts at an account with one failure allowed, with a wrong password. -/
def overlappingAttempts : List LoginAction :=
  [.call sampleUsers "ana" "wrong" none, .call sampleUsers "ana" "wrong" none,
    .advance 0 1 0, .advance 1 1 0, .advance 0 1 0, .advance 1 1 0,
    .advance 0 2 0, .advance 1 2 0]

/-- An attempt with a wrong password, and then one with the password. -/
def attemptsInTurn : List LoginAction :=
  [.call sampleUsers "ana" "wrong" none, .advance 0 1 0, .advance 0 1 0, .advance 0 2 0,
    .advance 0 2 0, .call sampleUsers "ana" "right" none, .advance 1 3 0, .advance 1 3 0,
    .advance 1 4 0, .advance 1 4 0]

end QueryGate.LocalAuth