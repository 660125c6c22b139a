import QueryGate.Foundation.Runs
import QueryGate.Foundation.Semaphore
import QueryGate.Identity.LoginAttempts
import QueryGate.Identity.Totp

/-! # Local sign-in

`authenticate_local_user` of `identity/local_auth.py`, as a system of attempts in flight: an
attempt runs from one await to the next, and any other attempt may run in between. Checking a
password is a parameter that answers, or raises.
-/

namespace QueryGate.LocalAuth

open Foundation Totp

/-- The fields of `LocalUser` that a sign-in reads. -/
structure LocalUser where
  passwordVerifier : String := ""
  totpSecret : String := ""
  disabled : Bool := false
  deriving DecidableEq, Repr

/-- `mfa_enabled`. -/
def LocalUser.mfaEnabled (user : LocalUser) : Bool :=
  user.totpSecret != ""

/-- `LocalUserStore`. -/
abbrev LocalUserStore := List (String × LocalUser)

/-- What a sign-in is set up with: `lower` is `str.lower`, and `verifyPassword` answers nothing
where `verify_password` raises. -/
structure LoginEnv where
  totp : TotpRuntime
  lower : String → String
  verifyPassword : String → String → Option Bool
  dummyVerifier : String
  lockoutThreshold : Nat := 5
  lockoutSeconds : ℚ := 900
  requireMfa : Bool := false
  concurrency : Nat := 4

/-- Where an attempt waits: to read the lock, for the semaphore, for its password, or for a
method of the attempt store. -/
inductive LoginPhase where
  | reading
  | waiting
  | hashing
  | consuming (counter : Int)
  | failing (category : String)
  | succeeding (usedMfa : Bool)
  deriving DecidableEq, Repr

/-- The attempt's next stretch writes to the record of its account. -/
def LoginPhase.writes : LoginPhase → Bool
  | .consuming _ | .failing _ | .succeeding _ => true
  | _ => false

/-- An attempt in flight. -/
structure LoginAttempt where
  key : String
  user : Option LocalUser
  password : String
  totpCode : Option String
  phase : LoginPhase := .reading
  deriving DecidableEq, Repr

/-- What can be seen of attempts: a call, a refusal because of a lock, a check that rejects, a
failure that is recorded (and locks the account), a time step that is accepted, a
`LocalLoginResult`, any other exception. -/
inductive LoginEvent where
  | called (id : Nat) (key : String)
  | refused (id : Nat) (key : String)
  | rejected (id : Nat) (key category : String)
  | recorded (id : Nat) (key category : String) (locking : Bool)
  | accepted (id : Nat) (key : String) (counter : Int)
  | returned (id : Nat) (key : String) (usedMfa : Bool)
  | raised (id : Nat) (key : String)
  deriving DecidableEq, Repr

/-- The attempts in flight over the attempt store, and the readings of the clocks. `locks` is no
part of the program: until when each account is locked, whatever became of its record. -/
structure LoginState where
  store : LoginAttemptStore := {}
  attempts : List (Nat × LoginAttempt) := []
  nextId : Nat := 0
  monotonic : ℚ := 0
  time : ℚ := 0
  locks : List (String × ℚ) := []

/-- The state of a process that starts. -/
def startState (store : LoginAttemptStore) : LoginState where
  store := { store with records := [] }

/-- A step: a call, or an attempt that runs to its next await with the clocks at some reading. -/
inductive LoginAction where
  | call (users : LocalUserStore) (username password : String) (totpCode : Option String)
  | advance (id : Nat) (monotonic time : ℚ)

/-- What the checks of a sign-in come to before its next await. -/
inductive LoginVerdict where
  | raised
  | rejected (category : String)
  | consume (counter : Int)
  | succeed
  deriving DecidableEq, Repr

section System

variable (env : LoginEnv)

/-- `(username or "").strip().lower()`. -/
def accountKey (username : String) : String :=
  env.lower (strip username)

/-- The checks after the password was hashed. -/
def checkCredentials (attempt : LoginAttempt) (time : ℚ) : LoginVerdict :=
  let stored := (attempt.user.map LocalUser.passwordVerifier).getD ""
  let verifier := if stored = "" then env.dummyVerifier else stored
  match env.verifyPassword attempt.password verifier with
  | none => .raised
  | some passwordOk =>
      match attempt.user with
      | none => .rejected "invalid_credentials"
      | some user =>
          if user.disabled || stored == "" || !passwordOk then .rejected "invalid_credentials"
          else if user.mfaEnabled then
            let code := attempt.totpCode.getD ""
            if code = "" then .rejected "mfa_required"
            else
              match verifyTotp env.totp user.totpSecret code time defaultDriftSteps none with
              | .error _ => .raised
              | .ok result =>
                  match result.valid, result.consumedCounter with
                  | true, some counter => .consume counter
                  | _, _ => .rejected "invalid_mfa_code"
          else if env.requireMfa then .rejected "mfa_not_enrolled"
          else .succeed

namespace LoginState

variable (state : LoginState)

/-- The attempt in flight with the id. -/
def attempt? (id : Nat) : Option LoginAttempt :=
  dictGet state.attempts id

/-- The attempt goes on to another phase. -/
def moved (id : Nat) (attempt : LoginAttempt) (phase : LoginPhase) : LoginState :=
  { state with attempts := dictSet state.attempts id { attempt with phase := phase } }

/-- The attempt ends. -/
def ended (id : Nat) : LoginState :=
  { state with attempts := state.attempts.filter fun entry => entry.1 != id }

/-- The state with another attempt store. -/
def withStore (store : LoginAttemptStore) : LoginState :=
  { state with store := store }

/-- The state with the clocks at a reading. -/
def clocked (monotonic time : ℚ) : LoginState :=
  { state with monotonic, time }

/-- The attempts that hold the semaphore. -/
def verifying : Nat :=
  state.attempts.countP fun entry => entry.2.phase == .hashing

end LoginState

/-- `call`: an account that is named is looked up, and its attempt starts. -/
def beginLogin (state : LoginState) (users : LocalUserStore) (username password : String)
    (totpCode : Option String) : LoginState × List LoginEvent :=
  let key := accountKey env username
  if key = "" then ({ state with nextId := state.nextId + 1 }, [])
  else
    ({ state with
        attempts := dictSet state.attempts state.nextId
          { key, user := dictGet users (accountKey env key), password, totpCode }
        nextId := state.nextId + 1 },
      [.called state.nextId key])

/-- An attempt runs to its next await. -/
def advance (state : LoginState) (id : Nat) (attempt : LoginAttempt) :
    Option (LoginState × List LoginEvent) :=
  let key := attempt.key
  match attempt.phase with
  | .reading =>
      if 0 < state.store.lockoutRemaining key state.monotonic then
        some (state.ended id, [.refused id key])
      else some (state.moved id attempt .waiting, [])
  | .waiting =>
      if state.verifying < env.concurrency then some (state.moved id attempt .hashing, [])
      else none
  | .hashing =>
      match checkCredentials env attempt state.time with
      | .raised => some (state.ended id, [.raised id key])
      | .rejected category =>
          some (state.moved id attempt (.failing category), [.rejected id key category])
      | .consume counter => some (state.moved id attempt (.consuming counter), [])
      | .succeed => some (state.moved id attempt (.succeeding false), [])
  | .consuming counter =>
      let store := state.store.consumeTotpCounter key counter state.monotonic
      if state.store.spent key counter then
        some ((state.moved id attempt (.failing "replayed_mfa_code")).withStore store,
          [.rejected id key "replayed_mfa_code"])
      else
        some ((state.moved id attempt (.succeeding true)).withStore store,
          [.accepted id key counter])
  | .failing category =>
      let store := state.store.recordFailure key env.lockoutThreshold env.lockoutSeconds
        state.monotonic
      let locking := state.store.locks key env.lockoutThreshold
      let locks :=
        if locking then dictSet state.locks key (state.monotonic + env.lockoutSeconds)
        else state.locks
      some ({ (state.ended id).withStore store with locks }, [.recorded id key category locking])
  | .succeeding usedMfa =>
      let store := state.store.recordSuccess key state.monotonic
      some ({ (state.ended id).withStore store with
          locks := state.locks.filter fun entry => entry.1 != key },
        [.returned id key usedMfa])

/-- A step of the system. -/
def loginStep (state : LoginState) : LoginAction → Option (LoginState × List LoginEvent)
  | .call users username password totpCode =>
      some (beginLogin env state users username password totpCode)
  | .advance id monotonic time =>
      if state.monotonic ≤ monotonic then
        match state.attempt? id with
        | none => none
        | some attempt => advance env (state.clocked monotonic time) id attempt
      else none

/-- What an attempt does before its next await. -/
inductive Advances (state : LoginState) (id : Nat) (attempt : LoginAttempt) :
    LoginState → List LoginEvent → Prop
  | refused : attempt.phase = .reading →
      0 < state.store.lockoutRemaining attempt.key state.monotonic →
      Advances state id attempt (state.ended id) [.refused id attempt.key]
  | admitted : attempt.phase = .reading →
      ¬ 0 < state.store.lockoutRemaining attempt.key state.monotonic →
      Advances state id attempt (state.moved id attempt .waiting) []
  | acquired : attempt.phase = .waiting →
      Advances state id attempt (state.moved id attempt .hashing) []
  | raised : attempt.phase = .hashing → checkCredentials env attempt state.time = .raised →
      Advances state id attempt (state.ended id) [.raised id attempt.key]
  | rejected (category : String) : attempt.phase = .hashing →
      checkCredentials env attempt state.time = .rejected category →
      Advances state id attempt (state.moved id attempt (.failing category))
        [.rejected id attempt.key category]
  | verified (counter : Int) : attempt.phase = .hashing →
      checkCredentials env attempt state.time = .consume counter →
      Advances state id attempt (state.moved id attempt (.consuming counter)) []
  | passed : attempt.phase = .hashing → checkCredentials env attempt state.time = .succeed →
      Advances state id attempt (state.moved id attempt (.succeeding false)) []
  | replayed (counter : Int) : attempt.phase = .consuming counter →
      state.store.spent attempt.key counter = true →
      Advances state id attempt
        ((state.moved id attempt (.failing "replayed_mfa_code")).withStore
          (state.store.consumeTotpCounter attempt.key counter state.monotonic))
        [.rejected id attempt.key "replayed_mfa_code"]
  | accepted (counter : Int) : attempt.phase = .consuming counter →
      state.store.spent attempt.key counter = false →
      Advances state id attempt
        ((state.moved id attempt (.succeeding true)).withStore
          (state.store.consumeTotpCounter attempt.key counter state.monotonic))
        [.accepted id attempt.key counter]
  | failed (category : String) : attempt.phase = .failing category →
      state.store.locks attempt.key env.lockoutThreshold = false →
      Advances state id attempt
        ((state.ended id).withStore (state.store.recordFailure attempt.key env.lockoutThreshold
          env.lockoutSeconds state.monotonic))
        [.recorded id attempt.key category false]
  | locked (category : String) : attempt.phase = .failing category →
      state.store.locks attempt.key env.lockoutThreshold = true →
      Advances state id attempt
        { (state.ended id).withStore (state.store.recordFailure attempt.key env.lockoutThreshold
            env.lockoutSeconds state.monotonic) with
          locks := dictSet state.locks attempt.key (state.monotonic + env.lockoutSeconds) }
        [.recorded id attempt.key category true]
  | returned (usedMfa : Bool) : attempt.phase = .succeeding usedMfa →
      Advances state id attempt
        { (state.ended id).withStore (state.store.recordSuccess attempt.key state.monotonic) with
          locks := state.locks.filter fun entry => entry.1 != attempt.key }
        [.returned id attempt.key usedMfa]

variable {env}

theorem advances_of_advance {state next : LoginState} {id : Nat} {attempt : LoginAttempt}
    {new : List LoginEvent} (stepped : advance env state id attempt = some (next, new)) :
    Advances env state id attempt next new := by
  unfold advance at stepped
  dsimp only at stepped
  split at stepped
  · rename_i phase
    split at stepped
    · rename_i held
      cases stepped
      exact .refused phase held
    · rename_i free
      cases stepped
      exact .admitted phase free
  · rename_i phase
    split at stepped
    · cases stepped
      exact .acquired phase
    · cases stepped
  · rename_i phase
    split at stepped
    · rename_i verdict
      cases stepped
      exact .raised phase verdict
    · rename_i category verdict
      cases stepped
      exact .rejected category phase verdict
    · rename_i counter verdict
      cases stepped
      exact .verified counter phase verdict
    · rename_i verdict
      cases stepped
      exact .passed phase verdict
  · rename_i counter phase
    split at stepped
    · rename_i spent
      cases stepped
      exact .replayed counter phase spent
    · rename_i fresh
      cases stepped
      exact .accepted counter phase (Bool.eq_false_iff.mpr fresh)
  · rename_i category phase
    cases locking : state.store.locks attempt.key env.lockoutThreshold with
    | false =>
        rw [locking] at stepped
        cases stepped
        exact .failed category phase locking
    | true =>
        rw [locking] at stepped
        cases stepped
        exact .locked category phase locking
  · rename_i usedMfa phase
    cases stepped
    exact .returned usedMfa phase

/-- A step is a call, or an attempt in flight that goes on while the monotonic clock does. -/
theorem loginStep_cases {state next : LoginState} {action : LoginAction}
    {new : List LoginEvent} (stepped : loginStep env state action = some (next, new)) :
    (∃ users username password totpCode, action = .call users username password totpCode ∧
      (next, new) = beginLogin env state users username password totpCode) ∨
    ∃ id monotonic time attempt, action = .advance id monotonic time ∧
      state.monotonic ≤ monotonic ∧ state.attempt? id = some attempt ∧
      Advances env (state.clocked monotonic time) id attempt next new := by
  cases action with
  | call users username password totpCode =>
      exact Or.inl ⟨users, username, password, totpCode, rfl, (Option.some.inj stepped).symm⟩
  | advance id monotonic time =>
      refine Or.inr ⟨id, monotonic, time, ?_⟩
      simp only [loginStep] at stepped
      split at stepped
      · rename_i later
        split at stepped
        · cases stepped
        · rename_i attempt found
          exact ⟨attempt, rfl, later, found, advances_of_advance stepped⟩
      · cases stepped

/-! ## Attempts in flight -/

namespace LoginState

variable {state : LoginState} {id : Nat} {attempt : LoginAttempt}

theorem attempt?_moved (phase : LoginPhase) (other : Nat) :
    (state.moved id attempt phase).attempt? other =
      if id = other then some { attempt with phase := phase } else state.attempt? other :=
  dictGet_dictSet ..

theorem attempt?_ended (other : Nat) :
    (state.ended id).attempt? other = if id = other then none else state.attempt? other := by
  rw [attempt?, ended, dictGet_filter_key state.attempts (fun key => key != id)]
  by_cases same : id = other
  · simp [same]
  · simp [same, Ne.symm same, attempt?]

theorem mem_attempts (found : state.attempt? id = some attempt) : (id, attempt) ∈ state.attempts :=
  dictGet_eq_some_mem found

/-- An attempt that goes on is counted anew. -/
theorem countP_moved (distinct : (dictKeys state.attempts).Nodup)
    (found : state.attempt? id = some attempt) (phase : LoginPhase)
    (counted : Nat × LoginAttempt → Bool) :
    (state.moved id attempt phase).attempts.countP counted +
        (if counted (id, attempt) then 1 else 0) =
      state.attempts.countP counted +
        (if counted (id, { attempt with phase := phase }) then 1 else 0) := by
  have present : id ∈ dictKeys state.attempts := List.mem_map_of_mem (mem_attempts found)
  rw [moved, dictSet_of_nodup_of_mem _ distinct present]
  exact countP_replace distinct (mem_attempts found) _ counted

/-- An attempt that ends is not counted any more. -/
theorem countP_ended (distinct : (dictKeys state.attempts).Nodup)
    (found : state.attempt? id = some attempt) (counted : Nat × LoginAttempt → Bool) :
    (state.ended id).attempts.countP counted + (if counted (id, attempt) then 1 else 0) =
      state.attempts.countP counted := by
  have same : (state.ended id).attempts =
      state.attempts.filter fun other => decide (other.1 ≠ id) :=
    List.filter_congr fun other _ => Bool.eq_iff_iff.mpr (by simp)
  rw [same]
  exact countP_drop distinct (mem_attempts found) counted

theorem distinct_moved (distinct : (dictKeys state.attempts).Nodup) (phase : LoginPhase) :
    (dictKeys (state.moved id attempt phase).attempts).Nodup :=
  nodup_dictSet distinct ..

theorem distinct_ended (distinct : (dictKeys state.attempts).Nodup) :
    (dictKeys (state.ended id).attempts).Nodup :=
  nodup_dictKeys_filter distinct _

end LoginState

theorem writes_of_consuming {attempt : LoginAttempt} {counter : Int}
    (phase : attempt.phase = .consuming counter) : attempt.phase.writes = true := by
  rw [phase]
  rfl

theorem writes_of_failing {attempt : LoginAttempt} {category : String}
    (phase : attempt.phase = .failing category) : attempt.phase.writes = true := by
  rw [phase]
  rfl

theorem writes_of_succeeding {attempt : LoginAttempt} {usedMfa : Bool}
    (phase : attempt.phase = .succeeding usedMfa) : attempt.phase.writes = true := by
  rw [phase]
  rfl

/-! ## Events -/

namespace LoginEvent

/-- The attempt an event is of. -/
def id : LoginEvent → Nat
  | called id _ | refused id _ | rejected id _ _ | recorded id _ _ _ | accepted id _ _
  | returned id _ _ | raised id _ => id

/-- The account an event is of. -/
def key : LoginEvent → String
  | called _ key | refused _ key | rejected _ key _ | recorded _ key _ _ | accepted _ key _
  | returned _ key _ | raised _ key => key

/-- The event starts an attempt. -/
def starts : LoginEvent → Bool
  | called _ _ => true
  | _ => false

/-- The event ends an attempt. -/
def last : LoginEvent → Bool
  | refused _ _ | recorded _ _ _ _ | returned _ _ _ | raised _ _ => true
  | _ => false

/-- The event ends the attempt. -/
def ends (attempt : Nat) (event : LoginEvent) : Bool :=
  event.last && event.id == attempt

end LoginEvent

/-- What an attempt shows before its next await is its own; and it goes on, or ends with one
event. -/
theorem advances_shape {state next : LoginState} {id : Nat} {attempt : LoginAttempt}
    {new : List LoginEvent} (advances : Advances env state id attempt next new) :
    next.nextId = state.nextId ∧
      (∀ event ∈ new, event.id = id ∧ event.key = attempt.key ∧ event.starts = false) ∧
      ((∃ phase, next.attempts = (state.moved id attempt phase).attempts ∧
          ∀ event ∈ new, event.last = false) ∨
        next.attempts = (state.ended id).attempts ∧ ∃ event, new = [event] ∧ event.last = true) := by
  cases advances with
  | refused => exact ⟨rfl, by simp [LoginEvent.id, LoginEvent.key, LoginEvent.starts],
      Or.inr ⟨rfl, _, rfl, rfl⟩⟩
  | admitted => exact ⟨rfl, nofun, Or.inl ⟨_, rfl, nofun⟩⟩
  | acquired => exact ⟨rfl, nofun, Or.inl ⟨_, rfl, nofun⟩⟩
  | raised => exact ⟨rfl, by simp [LoginEvent.id, LoginEvent.key, LoginEvent.starts],
      Or.inr ⟨rfl, _, rfl, rfl⟩⟩
  | rejected => exact ⟨rfl, by simp [LoginEvent.id, LoginEvent.key, LoginEvent.starts],
      Or.inl ⟨_, rfl, by simp [LoginEvent.last]⟩⟩
  | verified => exact ⟨rfl, nofun, Or.inl ⟨_, rfl, nofun⟩⟩
  | passed => exact ⟨rfl, nofun, Or.inl ⟨_, rfl, nofun⟩⟩
  | replayed => exact ⟨rfl, by simp [LoginEvent.id, LoginEvent.key, LoginEvent.starts],
      Or.inl ⟨_, rfl, by simp [LoginEvent.last]⟩⟩
  | accepted => exact ⟨rfl, by simp [LoginEvent.id, LoginEvent.key, LoginEvent.starts],
      Or.inl ⟨_, rfl, by simp [LoginEvent.last]⟩⟩
  | failed => exact ⟨rfl, by simp [LoginEvent.id, LoginEvent.key, LoginEvent.starts],
      Or.inr ⟨rfl, _, rfl, rfl⟩⟩
  | locked => exact ⟨rfl, by simp [LoginEvent.id, LoginEvent.key, LoginEvent.starts],
      Or.inr ⟨rfl, _, rfl, rfl⟩⟩
  | returned => exact ⟨rfl, by simp [LoginEvent.id, LoginEvent.key, LoginEvent.starts],
      Or.inr ⟨rfl, _, rfl, rfl⟩⟩

/-- A call changes nothing but the attempts in flight, where its own one starts. -/
theorem beginLogin_frame {state next : LoginState} {new : List LoginEvent}
    {users : LocalUserStore} {username password : String} {totpCode : Option String}
    (begun : (next, new) = beginLogin env state users username password totpCode) :
    next.store = state.store ∧ next.locks = state.locks ∧ next.monotonic = state.monotonic ∧
      next.time = state.time ∧ (∀ event ∈ new, event.starts = true) ∧
      ∀ id attempt, next.attempt? id = some attempt →
        state.attempt? id = some attempt ∨ attempt.phase = .reading := by
  unfold beginLogin at begun
  dsimp only at begun
  split at begun
  · cases begun
    exact ⟨rfl, rfl, rfl, rfl, fun _ member => absurd member List.not_mem_nil,
      fun _ _ found => Or.inl found⟩
  · cases begun
    refine ⟨rfl, rfl, rfl, rfl, by simp [LoginEvent.starts], fun id attempt found => ?_⟩
    replace found := (dictGet_dictSet ..).symm.trans found
    split at found
    · cases found
      exact Or.inr rfl
    · exact Or.inl found

/-- Every attempt was called under one name, and has ended once unless it is in flight. -/
structure Tracked (state : LoginState) (past : List LoginEvent) : Prop where
  distinct : (dictKeys state.attempts).Nodup
  known : ∀ id attempt, state.attempt? id = some attempt → .called id attempt.key ∈ past
  fresh : ∀ event ∈ past, event.id < state.nextId
  named : ∀ event ∈ past, .called event.id event.key ∈ past
  once : ∀ id first second, .called id first ∈ past → .called id second ∈ past → first = second
  open_ : ∀ id attempt, state.attempt? id = some attempt →
    past.countP (LoginEvent.ends id) = 0
  closed : ∀ id key, .called id key ∈ past → state.attempt? id = none →
    past.countP (LoginEvent.ends id) = 1

theorem countP_ends_of_other {events : List LoginEvent} {id : Nat}
    (other : ∀ event ∈ events, event.id ≠ id ∨ event.last = false) :
    events.countP (LoginEvent.ends id) = 0 := by
  rw [List.countP_eq_zero]
  intro event member ends
  rw [LoginEvent.ends, Bool.and_eq_true, beq_iff_eq] at ends
  rcases other event member with differ | open_
  · exact differ ends.2
  · rw [open_] at ends
    cases ends.1

theorem Tracked.start {state : LoginState} (idle : state.attempts = []) : Tracked state [] where
  distinct := by rw [idle]; exact List.nodup_nil
  known := by
    intro id attempt found
    rw [LoginState.attempt?, idle] at found
    cases found
  fresh := nofun
  named := nofun
  once := nofun
  open_ := fun _ _ _ => rfl
  closed := nofun

/-- A call starts one attempt, with an id of its own. -/
theorem tracked_beginLogin {state : LoginState} {past : List LoginEvent}
    (tracked : Tracked state past) (users : LocalUserStore) (username password : String)
    (totpCode : Option String) :
    Tracked (beginLogin env state users username password totpCode).1
      (past ++ (beginLogin env state users username password totpCode).2) := by
  have unused : ∀ key, .called state.nextId key ∉ past := fun key member =>
    absurd (tracked.fresh _ member) (lt_irrefl state.nextId)
  unfold beginLogin
  dsimp only
  split
  · rw [List.append_nil]
    exact { tracked with fresh := fun event member => Nat.lt_succ_of_lt (tracked.fresh event member) }
  · have looks : ∀ attempt other,
        LoginState.attempt? { state with
            attempts := dictSet state.attempts state.nextId attempt
            nextId := state.nextId + 1 } other =
          if state.nextId = other then some attempt else state.attempt? other :=
      fun attempt other => dictGet_dictSet ..
    have quiet : ∀ id other key, [LoginEvent.called other key].countP (LoginEvent.ends id) = 0 :=
      fun _ _ _ => rfl
    dsimp only
    constructor
    · exact nodup_dictSet tracked.distinct ..
    · intro id attempt found
      rw [looks] at found
      split at found
      · rename_i same
        subst same
        cases found
        exact List.mem_append_right _ (List.mem_singleton_self _)
      · exact List.mem_append_left _ (tracked.known id attempt found)
    · intro event member
      rcases List.mem_append.mp member with old | own
      · exact Nat.lt_succ_of_lt (tracked.fresh event old)
      · rw [List.mem_singleton.mp own]
        exact Nat.lt_succ_self _
    · intro event member
      rcases List.mem_append.mp member with old | own
      · exact List.mem_append_left _ (tracked.named event old)
      · rw [List.mem_singleton.mp own]
        exact List.mem_append_right _ (List.mem_singleton_self _)
    · intro id first second firstCalled secondCalled
      rcases List.mem_append.mp firstCalled with old | own
      · rcases List.mem_append.mp secondCalled with older | other
        · exact tracked.once id first second old older
        · cases List.mem_singleton.mp other
          exact absurd old (unused first)
      · cases List.mem_singleton.mp own
        rcases List.mem_append.mp secondCalled with older | other
        · exact absurd older (unused second)
        · cases List.mem_singleton.mp other
          rfl
    · intro id attempt found
      rw [List.countP_append, quiet, Nat.add_zero]
      rw [looks] at found
      split at found
      · rename_i same
        subst same
        exact countP_ends_of_other fun event member =>
          Or.inl (Nat.ne_of_lt (tracked.fresh event member))
      · exact tracked.open_ id attempt found
    · intro id key member absent
      rw [List.countP_append, quiet, Nat.add_zero]
      rw [looks] at absent
      split at absent
      · cases absent
      · rename_i differ
        rcases List.mem_append.mp member with old | own
        · exact tracked.closed id key old absent
        · cases List.mem_singleton.mp own
          exact absurd rfl differ

/-- An attempt that goes on, or ends, keeps track. -/
theorem tracked_advances {state next : LoginState} {past new : List LoginEvent} {id : Nat}
    {attempt : LoginAttempt} (tracked : Tracked state past)
    (found : state.attempt? id = some attempt)
    (advances : Advances env state id attempt next new) : Tracked next (past ++ new) := by
  obtain ⟨sameId, own, outcome⟩ := advances_shape advances
  have called : .called id attempt.key ∈ past := tracked.known id attempt found
  have notCalled : ∀ other key, .called other key ∈ past ++ new → .called other key ∈ past := by
    intro other key member
    rcases List.mem_append.mp member with old | late
    · exact old
    · cases (own _ late).2.2
  have apart : ∀ other, other ≠ id → new.countP (LoginEvent.ends other) = 0 := fun other differ =>
    countP_ends_of_other fun event member => Or.inl fun same =>
      differ (same.symm.trans (own event member).1)
  have looks : ∀ other, other ≠ id → next.attempt? other = state.attempt? other := by
    intro other differ
    rcases outcome with ⟨phase, goesOn, _⟩ | ⟨ends, _⟩
    · rw [LoginState.attempt?, goesOn]
      exact (LoginState.attempt?_moved phase other).trans (if_neg (Ne.symm differ))
    · rw [LoginState.attempt?, ends]
      exact (LoginState.attempt?_ended other).trans (if_neg (Ne.symm differ))
  have counts : new.countP (LoginEvent.ends id) = if (next.attempt? id).isSome then 0 else 1 := by
    rcases outcome with ⟨phase, goesOn, still⟩ | ⟨ends, event, rfl, last⟩
    · rw [LoginState.attempt?, goesOn]
      have self := (@LoginState.attempt?_moved state id attempt phase id).trans (if_pos rfl)
      rw [LoginState.attempt?] at self
      rw [self]
      exact countP_ends_of_other fun event member => Or.inr (still event member)
    · rw [LoginState.attempt?, ends]
      have self := (@LoginState.attempt?_ended state id id).trans (if_pos rfl)
      rw [LoginState.attempt?] at self
      rw [self, List.countP_singleton, LoginEvent.ends, last, (own event (by simp)).1]
      simp
  have self : ∀ held, next.attempt? id = some held → held.key = attempt.key := by
    intro held present
    rcases outcome with ⟨phase, goesOn, _⟩ | ⟨ends, _⟩
    · rw [LoginState.attempt?, goesOn] at present
      cases ((LoginState.attempt?_moved phase id).trans (if_pos rfl)).symm.trans present
      rfl
    · rw [LoginState.attempt?, ends] at present
      cases ((LoginState.attempt?_ended id).trans (if_pos rfl)).symm.trans present
  constructor
  · rcases outcome with ⟨phase, goesOn, _⟩ | ⟨ends, _⟩
    · rw [goesOn]
      exact LoginState.distinct_moved tracked.distinct phase
    · rw [ends]
      exact LoginState.distinct_ended tracked.distinct
  · intro other held present
    by_cases same : other = id
    · subst same
      rw [self held present]
      exact List.mem_append_left _ called
    · exact List.mem_append_left _ (tracked.known other held ((looks other same).symm.trans present))
  · intro event member
    rw [sameId]
    rcases List.mem_append.mp member with old | late
    · exact tracked.fresh event old
    · rw [(own event late).1]
      exact tracked.fresh _ called
  · intro event member
    rcases List.mem_append.mp member with old | late
    · exact List.mem_append_left _ (tracked.named event old)
    · rw [(own event late).1, (own event late).2.1]
      exact List.mem_append_left _ called
  · exact fun other first second firstCalled secondCalled =>
      tracked.once other first second (notCalled other first firstCalled)
        (notCalled other second secondCalled)
  · intro other held present
    rw [List.countP_append]
    by_cases same : other = id
    · subst same
      rw [counts, present, tracked.open_ other attempt found]
      rfl
    · rw [apart other same, tracked.open_ other held ((looks other same).symm.trans present)]
  · intro other key member absent
    rw [List.countP_append]
    by_cases same : other = id
    · subst same
      rw [counts, absent, tracked.open_ other attempt found]
      rfl
    · rw [apart other same, tracked.closed other key (notCalled other key member)
        ((looks other same).symm.trans absent)]

/-- Every step keeps track. -/
theorem tracked_step {state next : LoginState} {past new : List LoginEvent} {action : LoginAction}
    (tracked : Tracked state past) (stepped : loginStep env state action = some (next, new)) :
    Tracked next (past ++ new) := by
  rcases loginStep_cases stepped with ⟨users, username, password, totpCode, -, same⟩ |
    ⟨id, monotonic, time, attempt, -, -, found, advances⟩
  · rw [(Prod.mk.inj same).1, (Prod.mk.inj same).2]
    exact tracked_beginLogin tracked users username password totpCode
  · have clocked : Tracked (state.clocked monotonic time) past := { tracked with }
    exact tracked_advances clocked found advances

end System

/-! ## An instance -/

/-- The digests of the first time steps under the secret of the standard's test vectors, and an
Arabic digit one. -/
def sampleTotp : TotpRuntime where
  hmacSha1 := fun _ message =>
    if message = bigEndian 8 0 then
      #v[0xcc, 0x93, 0xcf, 0x18, 0x50, 0x8d, 0x94, 0x93, 0x4c, 0x64, 0xb6, 0x5d, 0x8b, 0xa7, 0x66,
        0x7f, 0xb7, 0xcd, 0xe4, 0xb0]
    else
      #v[0x75, 0xa4, 0x8a, 0x19, 0xd4, 0xcb, 0xe1, 0x00, 0x64, 0x4e, 0x8a, 0xc1, 0x39, 0x7e, 0xea,
        0x74, 0x7a, 0x2d, 0x33, 0xab]
  otherDigit := fun letter => letter == '١'

/-- Verifiers are the passwords themselves. -/
def sampleEnv : LoginEnv where
  totp := sampleTotp
  lower := id
  verifyPassword := fun password verifier => some (password == verifier)
  dummyVerifier := "nobody's"

/-- Two accounts, one of them with a second factor. -/
def sampleUsers : LocalUserStore :=
  [("ana", { passwordVerifier := "right" }),
    ("ben", { passwordVerifier := "right", totpSecret := "GEZDGNBVGY3TQOJQGEZDGNBVGY3TQOJQ" })]

example : totpCode sampleTotp "GEZDGNBVGY3TQOJQGEZDGNBVGY3TQOJQ" 0 = .ok "755224" := by
  decide +kernel

example : totpCode sampleTotp "GEZDGNBVGY3TQOJQGEZDGNBVGY3TQOJQ" 1 = .ok "287082" := by
  decide +kernel

end QueryGate.LocalAuth
