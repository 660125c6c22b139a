import QueryGate.Identity.LocalAuth

/-! # Spent time steps

A time step is accepted once for an account as long as its record remembers it, or the clock
has left it behind. `SpendsInOrder` says when a record may make room.
-/

namespace QueryGate.LocalAuth

open Foundation Totp

section SpentCodes

variable (env : LoginEnv)

/-- The time steps that were accepted for an account, with the attempts they were accepted of. -/
def acceptedBy (key : String) (events : List LoginEvent) : List (Nat × Int) :=
  events.filterMap fun event =>
    match event with
    | .accepted id account counter => if account = key then some (id, counter) else none
    | _ => none

/-- What a run promises of time steps: those accepted for an account increase; a sign-in with a
second factor has one accepted, and no other attempt has the same. -/
structure CodesSpentOnce (start : LoginState) (actions : List LoginAction) : Prop where
  increasing : ∀ final events key, runSteps (loginStep env) start actions = some (final, events) →
    (acceptedBy key events).Pairwise fun first second => first.2 < second.2
  spends : ∀ final events id key, runSteps (loginStep env) start actions = some (final, events) →
    .returned id key true ∈ events → ∃ counter, (id, counter) ∈ acceptedBy key events
  once : ∀ final events key first second counter,
    runSteps (loginStep env) start actions = some (final, events) →
    (first, counter) ∈ acceptedBy key events → (second, counter) ∈ acceptedBy key events →
    first = second

/-- The first time step that a check tries. -/
def windowStart (time : ℚ) : Int :=
  ⌊time / stepSeconds⌋ - defaultDriftSteps

/-- The time step that an attempt is about to spend. -/
def LoginPhase.verified : LoginPhase → Option Int
  | .consuming counter => some counter
  | _ => none

/-- A stretch that forgets no time step which could be accepted again: the step of a record that
makes room is before all that the clock lets through and all that attempts of the account are
about to spend. -/
def ForgetsPast (state : LoginState) (attempt : LoginAttempt) : Prop :=
  attempt.phase.writes = true → ∀ gone ∈ state.store.evicted attempt.key,
    ∀ record ∈ state.store.record? gone, ∀ last ∈ record.lastTotpCounter,
      last < windowStart state.time ∧ ∀ entry ∈ state.attempts, entry.2.key = gone →
        ∀ counter ∈ entry.2.phase.verified, last < counter

/-- A step while the clock does not go back, which forgets no time step that could be accepted
again. -/
def SpendsInOrder (state : LoginState) : LoginAction → Prop
  | .call _ _ _ _ => True
  | .advance id monotonic time => state.time ≤ time ∧ ∀ attempt ∈ state.attempt? id,
      ForgetsPast (state.clocked monotonic time) attempt

instance (state : LoginState) (attempt : LoginAttempt) : Decidable (ForgetsPast state attempt) :=
  inferInstanceAs (Decidable (_ → ∀ gone ∈ state.store.evicted attempt.key,
    ∀ record ∈ state.store.record? gone, ∀ last ∈ record.lastTotpCounter, _ ∧ _))

instance (state : LoginState) : DecidablePred (SpendsInOrder state)
  | .call _ _ _ _ => inferInstanceAs (Decidable True)
  | .advance id monotonic time => inferInstanceAs (Decidable (_ ∧ ∀ attempt ∈ state.attempt? id,
      ForgetsPast (state.clocked monotonic time) attempt))

/-- A time step of an account is not accepted again: its record remembers it or a later one, or
it is before all that can still be spent. -/
def Spent (state : LoginState) (key : String) (counter : Int) : Prop :=
  (∃ record last, state.store.record? key = some record ∧ record.lastTotpCounter = some last ∧
      counter ≤ last) ∨
    counter < windowStart state.time ∧ ∀ id attempt other, state.attempt? id = some attempt →
      attempt.key = key → attempt.phase = .consuming other → counter < other

variable {env}

/-! ## One step -/

theorem windowStart_mono {earlier later : ℚ} (forward : earlier ≤ later) :
    windowStart earlier ≤ windowStart later := by
  have steps : earlier / stepSeconds ≤ later / stepSeconds :=
    div_le_div_of_nonneg_right forward (by decide)
  exact Int.sub_le_sub_right (Int.floor_le_floor steps) _

/-- A verified time step is in the window. -/
theorem le_of_consume {attempt : LoginAttempt} {time : ℚ} {counter : Int}
    (verdict : checkCredentials env attempt time = .consume counter) :
    windowStart time ≤ counter := by
  unfold checkCredentials at verdict
  dsimp only at verdict
  repeat' split at verdict
  all_goals cases verdict
  rename_i result checked _ _ _ consumed
  exact le_of_mem_window (consumed_mem_window checked consumed)

/-- An attempt that is about to spend a time step was so before, or has just verified it. -/
theorem consuming_of_advances {state next : LoginState} {id other : Nat}
    {attempt held : LoginAttempt} {new : List LoginEvent} {counter : Int}
    (advances : Advances env state id attempt next new) (found : next.attempt? other = some held)
    (phase : held.phase = .consuming counter) :
    state.attempt? other = some held ∨
      attempt.phase = .hashing ∧ windowStart state.time ≤ counter := by
  have goesOn : ∀ target, (∀ counter, target ≠ .consuming counter) →
      (state.moved id attempt target).attempt? other = some held → state.attempt? other = some held := by
    intro target quiet present
    rw [LoginState.attempt?_moved] at present
    split at present
    · cases present
      exact absurd phase (quiet counter)
    · exact present
  have stops : (state.ended id).attempt? other = some held → state.attempt? other = some held := by
    intro present
    rw [LoginState.attempt?_ended] at present
    split at present
    · cases present
    · exact present
  cases advances with
  | refused | raised | failed | locked | returned => exact Or.inl (stops found)
  | admitted | acquired | rejected | passed | replayed | accepted =>
      exact Or.inl (goesOn _ (by simp) found)
  | verified verified hashed verdict =>
      replace found := (LoginState.attempt?_moved ..).symm.trans found
      split at found
      · cases found
        cases phase
        exact Or.inr ⟨hashed, le_of_consume verdict⟩
      · exact Or.inl found

/-- A change that leaves the time step in the record, or raises it, keeps steps spent. -/
theorem spent_of_amend (state : LoginState) (change : AttemptRecord → AttemptRecord)
    {next : LoginState} {attempt : LoginAttempt} {key : String} {counter : Int}
    (written : next.store = state.store.amend attempt.key state.monotonic change)
    (sameTime : next.time = state.time) (writes : attempt.phase.writes = true)
    (forgets : ForgetsPast state attempt)
    (flights : ∀ id held other, next.attempt? id = some held → held.phase = .consuming other →
      state.attempt? id = some held)
    (raises : ∀ record last, state.store.record? attempt.key = some record →
      record.lastTotpCounter = some last →
      ∃ later, (change { record with updatedAt := state.monotonic }).lastTotpCounter = some later ∧
        last ≤ later)
    (spent : Spent state key counter) : Spent next key counter := by
  rcases spent with ⟨record, last, present, remembers, below⟩ | ⟨past, apart⟩
  · by_cases same : attempt.key = key
    · subst same
      have own := @LoginAttemptStore.record?_amend_self state.store attempt.key state.monotonic change
      rw [present, Option.getD_some] at own
      obtain ⟨later, after, more⟩ := raises record last present remembers
      exact Or.inl ⟨_, later, written ▸ own, after, below.trans more⟩
    · rcases @LoginAttemptStore.record?_amend_other state.store attempt.key state.monotonic change key
        same with stays | ⟨gone, _⟩
      · exact Or.inl ⟨record, last, written ▸ stays.trans present, remembers, below⟩
      · obtain ⟨early, others⟩ := forgets writes key gone record present last remembers
        refine Or.inr ⟨sameTime ▸ lt_of_le_of_lt below early, ?_⟩
        intro id held other found ofKey phase
        have inside := LoginState.mem_attempts (flights id held other found phase)
        refine lt_of_le_of_lt below (others _ inside ofKey other ?_)
        rw [phase]
        rfl
  · refine Or.inr ⟨sameTime ▸ past, ?_⟩
    exact fun id held other found ofKey phase =>
      apart id held other (flights id held other found phase) ofKey phase

/-- A stretch that forgets no time step too early keeps steps spent. -/
theorem spent_advances {state next : LoginState} {id : Nat} {attempt : LoginAttempt}
    {new : List LoginEvent} {key : String} {counter : Int} (forgets : ForgetsPast state attempt)
    (advances : Advances env state id attempt next new) (spent : Spent state key counter) :
    Spent next key counter := by
  have quiet : next.store = state.store → next.time = state.time → Spent next key counter := by
    intro sameStore sameTime
    rcases spent with ⟨record, last, present, remembers, below⟩ | ⟨past, apart⟩
    · exact Or.inl ⟨record, last, sameStore ▸ present, remembers, below⟩
    · refine Or.inr ⟨sameTime ▸ past, fun other held later found ofKey phase => ?_⟩
      rcases consuming_of_advances advances found phase with before | ⟨_, verified⟩
      · exact apart other held later before ofKey phase
      · exact lt_of_lt_of_le past verified
  have flights : attempt.phase ≠ .hashing → ∀ other held target,
      next.attempt? other = some held → held.phase = .consuming target →
      state.attempt? other = some held := by
    intro notHashing other held target found phase
    rcases consuming_of_advances advances found phase with before | ⟨hashed, _⟩
    · exact before
    · exact absurd hashed notHashing
  cases advances with
  | refused | admitted | acquired | raised | rejected | verified | passed => exact quiet rfl rfl
  | replayed target phase already =>
      refine spent_of_amend state (fun record => if state.store.spent attempt.key target then record
        else { record with lastTotpCounter := some target }) rfl rfl (writes_of_consuming phase)
        forgets (flights (by simp [phase])) (fun record last _ remembers => ?_) spent
      rw [if_pos already]
      exact ⟨last, remembers, le_rfl⟩
  | accepted target phase fresh =>
      refine spent_of_amend state (fun record => if state.store.spent attempt.key target then record
        else { record with lastTotpCounter := some target }) rfl rfl (writes_of_consuming phase)
        forgets (flights (by simp [phase])) (fun record last present remembers => ?_) spent
      rw [if_neg (Bool.eq_false_iff.mp fresh)]
      refine ⟨target, rfl, le_of_not_ge fun below => ?_⟩
      rw [LoginAttemptStore.spent, present, Option.bind_some, remembers] at fresh
      exact of_decide_eq_false fresh below
  | failed category phase locking =>
      refine spent_of_amend state (fun record =>
        if state.store.locks attempt.key env.lockoutThreshold then
          { record with lockedUntil := state.monotonic + env.lockoutSeconds, failures := 0 }
        else { record with failures := record.failures + 1 }) rfl rfl (writes_of_failing phase)
        forgets (flights (by simp [phase])) (fun record last _ remembers => ?_) spent
      rw [if_neg (Bool.eq_false_iff.mp locking)]
      exact ⟨last, remembers, le_rfl⟩
  | locked category phase locking =>
      refine spent_of_amend state (fun record =>
        if state.store.locks attempt.key env.lockoutThreshold then
          { record with lockedUntil := state.monotonic + env.lockoutSeconds, failures := 0 }
        else { record with failures := record.failures + 1 }) rfl rfl (writes_of_failing phase)
        forgets (flights (by simp [phase])) (fun record last _ remembers => ?_) spent
      rw [if_pos locking]
      exact ⟨last, remembers, le_rfl⟩
  | returned usedMfa phase =>
      exact spent_of_amend state (fun record => { record with failures := 0, lockedUntil := 0 }) rfl
        rfl (writes_of_succeeding phase) forgets (flights (by simp [phase]))
        (fun record last _ remembers => ⟨last, remembers, le_rfl⟩) spent

/-! ## Runs -/

theorem acceptedBy_append (key : String) (first second : List LoginEvent) :
    acceptedBy key (first ++ second) = acceptedBy key first ++ acceptedBy key second :=
  List.filterMap_append ..

theorem acceptedBy_accepted (key account : String) (id : Nat) (counter : Int) :
    acceptedBy key [.accepted id account counter] =
      if account = key then [(id, counter)] else [] := by
  by_cases same : account = key
  · simp [acceptedBy, same]
  · simp [acceptedBy, same]

/-- What holds along a run that forgets no time step too early. -/
structure StepsSpent (state : LoginState) (past : List LoginEvent) : Prop where
  increasing : ∀ key, (acceptedBy key past).Pairwise fun first second => first.2 < second.2
  spent : ∀ key id counter, (id, counter) ∈ acceptedBy key past → Spent state key counter
  granted : ∀ id attempt, state.attempt? id = some attempt → attempt.phase = .succeeding true →
    ∃ counter, (id, counter) ∈ acceptedBy attempt.key past
  returned : ∀ id key, .returned id key true ∈ past →
    ∃ counter, (id, counter) ∈ acceptedBy key past

/-- A time step that is accepted was not spent. -/
theorem lt_of_accepted {state : LoginState} {id : Nat} {attempt : LoginAttempt}
    {counter earlier : Int} (found : state.attempt? id = some attempt)
    (phase : attempt.phase = .consuming counter)
    (fresh : state.store.spent attempt.key counter = false)
    (spent : Spent state attempt.key earlier) : earlier < counter := by
  rcases spent with ⟨record, last, present, remembers, below⟩ | ⟨_, apart⟩
  · rw [LoginAttemptStore.spent, present, Option.bind_some, remembers] at fresh
    exact lt_of_le_of_lt below (not_le.mp (of_decide_eq_false fresh))
  · exact apart id attempt counter found rfl phase

/-- What an accepted event adds to the accepted time steps. -/
theorem acceptedBy_of_advances {state next : LoginState} {id : Nat} {attempt : LoginAttempt}
    {new : List LoginEvent} (advances : Advances env state id attempt next new) (key : String) :
    acceptedBy key new = [] ∨ ∃ counter, attempt.phase = .consuming counter ∧
      state.store.spent attempt.key counter = false ∧ attempt.key = key ∧
      acceptedBy key new = [(id, counter)] := by
  cases advances with
  | accepted counter phase fresh =>
      rw [acceptedBy_accepted]
      by_cases same : attempt.key = key
      · exact Or.inr ⟨counter, phase, fresh, same, if_pos same⟩
      · exact Or.inl (if_neg same)
  | _ => exact Or.inl rfl

/-- A time step that has just been accepted is in the record. -/
theorem spent_of_acceptedBy {state next : LoginState} {id other : Nat} {attempt : LoginAttempt}
    {new : List LoginEvent} {key : String} {counter : Int}
    (advances : Advances env state id attempt next new)
    (member : (other, counter) ∈ acceptedBy key new) : Spent next key counter := by
  cases advances with
  | accepted target phase fresh =>
      rw [acceptedBy_accepted] at member
      split at member
      · rename_i same
        subst same
        cases List.mem_singleton.mp member
        refine Or.inl ⟨_, counter, LoginAttemptStore.record?_amend_self .., ?_, le_rfl⟩
        rw [if_neg (Bool.eq_false_iff.mp fresh)]
      · cases member
  | _ => cases member

/-- An attempt about to succeed with a second factor was so before, or has just had a time step
accepted; and what is returned was about to succeed. -/
theorem succeeding_of_advances {state next : LoginState} {id : Nat} {attempt : LoginAttempt}
    {new : List LoginEvent} (advances : Advances env state id attempt next new) :
    (∀ other held, next.attempt? other = some held → held.phase = .succeeding true →
      state.attempt? other = some held ∨
        other = id ∧ held.key = attempt.key ∧ ∃ counter, .accepted id attempt.key counter ∈ new) ∧
    ∀ other key, .returned other key true ∈ new →
      other = id ∧ key = attempt.key ∧ attempt.phase = .succeeding true := by
  have goesOn : ∀ target, target ≠ .succeeding true → ∀ other held,
      (state.moved id attempt target).attempt? other = some held → held.phase = .succeeding true →
      state.attempt? other = some held := by
    intro target quiet other held present phase
    rw [LoginState.attempt?_moved] at present
    split at present
    · cases present
      exact absurd phase quiet
    · exact present
  have stops : ∀ other held, (state.ended id).attempt? other = some held →
      state.attempt? other = some held := by
    intro other held present
    rw [LoginState.attempt?_ended] at present
    split at present
    · cases present
    · exact present
  cases advances with
  | refused | raised | failed | locked =>
      exact ⟨fun other held found _ => Or.inl (stops other held found), by simp⟩
  | admitted | acquired | rejected | passed | replayed | verified =>
      exact ⟨fun other held found phase => Or.inl (goesOn _ (by simp) other held found phase),
        by simp⟩
  | accepted counter phase fresh =>
      refine ⟨fun other held found _ => ?_, by simp⟩
      replace found := (LoginState.attempt?_moved ..).symm.trans found
      split at found
      · rename_i same
        cases found
        exact Or.inr ⟨same.symm, rfl, counter, List.mem_singleton_self _⟩
      · exact Or.inl found
  | returned usedMfa phase =>
      refine ⟨fun other held found _ => Or.inl (stops other held found), fun other key member => ?_⟩
      cases List.mem_singleton.mp member
      exact ⟨rfl, rfl, phase⟩

theorem mem_acceptedBy {key : String} {id : Nat} {counter : Int} {events : List LoginEvent}
    (member : .accepted id key counter ∈ events) : (id, counter) ∈ acceptedBy key events :=
  List.mem_filterMap.mpr ⟨_, member, if_pos rfl⟩

/-- Time alone keeps steps spent. -/
theorem spent_later {state : LoginState} {key : String} {counter : Int} {monotonic time : ℚ}
    (spent : Spent state key counter) (forward : state.time ≤ time) :
    Spent (state.clocked monotonic time) key counter :=
  spent.imp_right fun ⟨past, apart⟩ => ⟨lt_of_lt_of_le past (windowStart_mono forward), apart⟩

theorem stepsSpent_advances {state next : LoginState} {past new : List LoginEvent} {id : Nat}
    {attempt : LoginAttempt} (steps : StepsSpent state past) (forgets : ForgetsPast state attempt)
    (found : state.attempt? id = some attempt)
    (advances : Advances env state id attempt next new) : StepsSpent next (past ++ new) := by
  obtain ⟨succeeding, returned⟩ := succeeding_of_advances advances
  constructor
  · intro key
    rw [acceptedBy_append]
    rcases acceptedBy_of_advances advances key with none_ | ⟨counter, phase, fresh, rfl, one⟩
    · rw [none_, List.append_nil]
      exact steps.increasing key
    · rw [one, List.pairwise_append]
      refine ⟨steps.increasing _, List.pairwise_singleton _ _, ?_⟩
      rintro ⟨earlier, old⟩ before ⟨later, own⟩ now
      cases List.mem_singleton.mp now
      exact lt_of_accepted found phase fresh (steps.spent _ _ _ before)
  · intro key other counter member
    rw [acceptedBy_append, List.mem_append] at member
    rcases member with old | late
    · exact spent_advances forgets advances (steps.spent key other counter old)
    · exact spent_of_acceptedBy advances late
  · intro other held present phase
    rw [acceptedBy_append]
    rcases succeeding other held present phase with before | ⟨rfl, sameKey, counter, member⟩
    · obtain ⟨counter, inside⟩ := steps.granted other held before phase
      exact ⟨counter, List.mem_append_left _ inside⟩
    · rw [sameKey]
      exact ⟨counter, List.mem_append_right _ (mem_acceptedBy member)⟩
  · intro other key member
    rw [acceptedBy_append]
    rcases List.mem_append.mp member with old | late
    · obtain ⟨counter, inside⟩ := steps.returned other key old
      exact ⟨counter, List.mem_append_left _ inside⟩
    · obtain ⟨rfl, rfl, phase⟩ := returned other key late
      obtain ⟨counter, inside⟩ := steps.granted other attempt found phase
      exact ⟨counter, List.mem_append_left _ inside⟩

theorem stepsSpent_step {state next : LoginState} {past new : List LoginEvent}
    {action : LoginAction} (steps : StepsSpent state past) (inOrder : SpendsInOrder state action)
    (stepped : loginStep env state action = some (next, new)) : StepsSpent next (past ++ new) := by
  rcases loginStep_cases stepped with ⟨users, username, password, totpCode, -, same⟩ |
    ⟨id, monotonic, time, attempt, rfl, later, found, advances⟩
  · obtain ⟨sameStore, _, _, sameTime, starts, flights⟩ := beginLogin_frame same
    have silent : ∀ key, acceptedBy key new = [] := by
      intro key
      rw [acceptedBy, List.filterMap_eq_nil_iff]
      intro event member
      have started := starts event member
      cases event with
      | called id account => rfl
      | _ => cases started
    constructor
    · intro key
      rw [acceptedBy_append, silent, List.append_nil]
      exact steps.increasing key
    · intro key id counter member
      rw [acceptedBy_append, silent, List.append_nil] at member
      rcases steps.spent key id counter member with ⟨record, last, present, remembers, below⟩ |
        ⟨past, apart⟩
      · exact Or.inl ⟨record, last, sameStore ▸ present, remembers, below⟩
      · refine Or.inr ⟨sameTime ▸ past, fun other held target found ofKey phase => ?_⟩
        rcases flights other held found with before | reading
        · exact apart other held target before ofKey phase
        · rw [reading] at phase
          cases phase
    · intro id held present phase
      rw [acceptedBy_append, silent, List.append_nil]
      rcases flights id held present with before | reading
      · exact steps.granted id held before phase
      · rw [reading] at phase
        cases phase
    · intro id key member
      rw [acceptedBy_append, silent, List.append_nil]
      rcases List.mem_append.mp member with old | late
      · exact steps.returned id key old
      · cases starts _ late
  · have clocked : StepsSpent (state.clocked monotonic time) past :=
      { steps with spent := fun key id counter member =>
          spent_later (steps.spent key id counter member) inOrder.1 }
    exact stepsSpent_advances clocked (inOrder.2 attempt found) found advances

theorem stepsSpent_start (store : LoginAttemptStore) : StepsSpent (startState store) [] where
  increasing := fun _ => List.Pairwise.nil
  spent := nofun
  granted := nofun
  returned := nofun

/-- Of two attempts that have the same time step accepted, there is one. -/
theorem eq_of_increasing {accepted : List (Nat × Int)}
    (increasing : accepted.Pairwise fun first second => first.2 < second.2) {first second : Nat}
    {counter : Int} (one : (first, counter) ∈ accepted) (two : (second, counter) ∈ accepted) :
    first = second := by
  have distinct : (accepted.map Prod.snd).Nodup :=
    List.pairwise_map.mpr (increasing.imp fun below => ne_of_lt below)
  exact (Prod.mk.inj (List.inj_on_of_nodup_map distinct one two rfl)).1

/-- In a run that forgets no time step too early, no time step is accepted twice; and under a
well-formed secret, the verdict on a code is exact if and only if the code is plain. -/
theorem codes_accepted_once (store : LoginAttemptStore) {actions : List LoginAction}
    (inOrder : StepsMeet (loginStep env) SpendsInOrder (startState store) actions)
    {secret code : String} {now : ℚ} {driftSteps : Nat} {lastConsumed : Option Int}
    (wellFormed : (decodeSecret secret).isSome = true) :
    CodesSpentOnce env (startState store) actions ∧
      (VerdictExact env.totp secret code now driftSteps lastConsumed ↔
        PlainCode env.totp secret code now driftSteps lastConsumed) := by
  have run : ∀ {final events},
      runSteps (loginStep env) (startState store) actions = some (final, events) →
      StepsSpent final events := fun ran =>
    invariant_of_run stepsSpent_step (stepsSpent_start store) inOrder ran
  refine ⟨⟨?_, ?_, ?_⟩, verdictExact_iff wellFormed⟩
  · exact fun final events key ran => (run ran).increasing key
  · exact fun final events id key ran member => (run ran).returned id key member
  · exact fun final events key first second counter ran one two =>
      eq_of_increasing ((run ran).increasing key) one two

end SpentCodes

/-! ## An instance -/

/-- A sign-in with a code, one of somebody else with a wrong password, and the first one again,
while the store has room for one account. -/
def codeTwice : List LoginAction :=
  [.call sampleUsers "ben" "right" (some "755224"), .advance 0 1 0, .advance 0 1 0, .advance 0 2 0,
    .advance 0 2 0, .advance 0 2 0,
    .call sampleUsers "ana" "wrong" none, .advance 1 3 1, .advance 1 3 1, .advance 1 4 2,
    .advance 1 4 2,
    .call sampleUsers "ben" "right" (some "755224"), .advance 2 5 3, .advance 2 5 3, .advance 2 6 4,
    .advance 2 6 4, .advance 2 6 4]

/-- With room for both accounts the code is accepted once, and a code with a space is read. -/
theorem codes_accepted_once_sample :
    CodesSpentOnce sampleEnv (startState {}) codeTwice ∧
      (VerdictExact sampleTotp "GEZDGNBVGY3TQOJQGEZDGNBVGY3TQOJQ" "755 224" 0 1 none ↔
        PlainCode sampleTotp "GEZDGNBVGY3TQOJQGEZDGNBVGY3TQOJQ" "755 224" 0 1 none) :=
  @codes_accepted_once sampleEnv {} _ (by decide +kernel) _ _ _ _ _ (by decide +kernel)

/-- Once the record of the account has made room, its code is accepted again; and a code of
Arabic digits has no verdict. -/
theorem codes_not_accepted_once :
    ¬ CodesSpentOnce sampleEnv (startState { maxEntries := 1 }) codeTwice ∧
      ¬ VerdictExact sampleTotp "GEZDGNBVGY3TQOJQGEZDGNBVGY3TQOJQ" "١١١١١١" 0 1 none := by
  constructor
  · intro spentOnce
    have shown : (runSteps (loginStep sampleEnv) (startState { maxEntries := 1 }) codeTwice).map
        (fun last => acceptedBy "ben" last.2) = some [(0, 0), (2, 0)] := by decide +kernel
    obtain ⟨⟨final, events⟩, ran, accepted⟩ := Option.map_eq_some_iff.mp shown
    have increasing := spentOnce.increasing final events "ben" ran
    rw [accepted] at increasing
    exact absurd increasing (by decide)
  · rintro ⟨result, checked, -⟩
    have raises : (verifyTotp sampleTotp "GEZDGNBVGY3TQOJQGEZDGNBVGY3TQOJQ" "١١١١١١" 0 1
        none).toOption = none := by decide +kernel
    rw [checked] at raises
    cases raises

end QueryGate.LocalAuth
