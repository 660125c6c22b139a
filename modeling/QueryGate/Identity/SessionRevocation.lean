import QueryGate.Identity.SessionBooks

/-! # Revoked sessions stay revoked

A session that was deleted by its digest is never read again (`deletedStaysGone_of_run`). The
calls that revoke a whole subject go by its list, and find every session of it that was made
before, unless a list is deleted under a session that was added to it meanwhile (`Unraced`,
`revokedStaysGone_of_run`).
-/

namespace QueryGate.RedisSessions

open Foundation

variable {idleTimeout : ℚ} {state next : SessionState} {new : List (Nat × SessionAnswer)}

/-! ## Answers -/

/-- The command before an answer. -/
theorem answer_cases {now : ℚ} {members : List String} {call : SessionCall} {answer : SessionAnswer}
    (result : (runCommand idleTimeout state now members call).2 = .error answer) :
    (∃ session, call = .creating .expiring session ∧ answer = .created session) ∨
    (∃ digest raw, call = .gettingSeen digest raw ∧ ∀ found, answer = .got (some found) →
      ∃ document ∈ raw, found.sessionDigest = document.sessionDigest) ∨
    answer = .touched ∨
    (∃ digest raw expired, call = .deletingSeen digest raw expired ∧
      answer = deleteAnswer digest expired) ∨
    (∃ digest subject expired, call = .unlisting digest subject expired ∧
      answer = deleteAnswer digest expired) ∨
    ∃ subject read removed, call = .revokingDocuments subject read [] removed ∧
      answer = .revoked subject removed := by
  cases call with
  | creating stage session =>
      cases stage with
      | document | seen | listing => cases result
      | expiring => exact .inl ⟨session, rfl, (Except.error.inj result).symm⟩
  | gettingSeen digest raw =>
      refine .inr (.inl ⟨digest, raw, rfl, ?_⟩)
      rintro found rfl
      change getResult .. = _ at result
      unfold getResult at result
      split at result
      · cases result
      · rename_i document
        split at result
        · cases result
        · refine ⟨document, rfl, ?_⟩
          have same := Option.some.inj (SessionAnswer.got.inj (Except.error.inj result))
          rw [← same]
          cases state.seen.read now digest with
          | none | some _ => rfl
  | touchingSeen digest seenAt ttl => exact .inr (.inr (.inl (Except.error.inj result).symm))
  | deletingSeen digest raw expired =>
      refine .inr (.inr (.inr (.inl ⟨digest, raw, expired, rfl, ?_⟩)))
      cases raw with
      | none => exact (Except.error.inj result).symm
      | some document =>
          change (if document.subject = "" then Except.error (deleteAnswer digest expired)
            else Except.ok (SessionCall.unlisting digest document.subject expired)) = _ at result
          split at result
          · exact (Except.error.inj result).symm
          · cases result
  | unlisting digest subject expired =>
      exact .inr (.inr (.inr (.inr (.inl ⟨digest, subject, expired, rfl,
        (Except.error.inj result).symm⟩))))
  | revokingDocuments subject read rest removed =>
      cases rest with
      | nil =>
          exact .inr (.inr (.inr (.inr (.inr ⟨subject, read, removed, rfl,
            (Except.error.inj result).symm⟩))))
      | cons _ _ => cases result
  | getting _ | touching _ _ | deleting _ _ | deletingDocument _ _ _ | revoking _
  | revokingSeen _ _ _ _ _ => cases result

/-! ## Reading -/

/-- The call has not read the session of a digest. -/
def Unread (digest : String) : SessionCall → Prop
  | .gettingSeen other raw => other = digest → raw = none
  | _ => True

/-- Once the session of a digest is gone, no `get` that is made later answers with it. -/
theorem goneStaysGone (books : Books state) {digest : String} (gone : Gone state digest)
    {actions : List SessionAction} {final : SessionState} {events : List (Nat × SessionAnswer)}
    (ran : runSteps (sessionStep idleTimeout) state actions = some (final, events)) {reader : Nat}
    (later : dictGet state.calls reader = none) {found : SsoSession}
    (read : (reader, .got (some found)) ∈ events) : found.sessionDigest ≠ digest := by
  have kept := @invariant_of_run _ _ _ (sessionStep idleTimeout) (fun _ _ => True)
    (fun now shown => Books now ∧ Gone now digest ∧
      (∀ id call, dictGet state.calls id = none → dictGet now.calls id = some call →
        Unread digest call) ∧
      ∀ id found, dictGet state.calls id = none → (id, .got (some found)) ∈ shown →
        found.sessionDigest ≠ digest) ?_ actions state final [] events
    ⟨books, gone, fun id call unknown there => absurd (unknown.symm.trans there) (by simp),
      fun id found _ member => absurd member List.not_mem_nil⟩
    (stepsMeet_of_forall (fun _ _ => trivial) _) ran
  · exact kept.2.2.2 reader found later read
  · rintro now next past new action ⟨books, gone, unread, answered⟩ - stepped
    have forward := forward_of_step stepped
    refine ⟨books.step stepped, forward.gone _ gone, ?_⟩
    cases action with
    | begins id request instant =>
        obtain ⟨fresh, -, -, rfl, rfl⟩ := begun_of_step stepped
        rw [List.append_nil]
        refine ⟨fun other call unknown there => ?_, answered⟩
        dsimp only at there
        rw [dictGet_dictSet] at there
        split at there
        · cases there
          cases request with
          | create _ | get _ | touch _ _ | delete _ | deleteForSubject _ => trivial
        · exact unread other call unknown there
    | runs id instant members =>
        obtain ⟨call, ran⟩ := ran_of_step stepped
        constructor
        · intro other rest unknown there
          rcases ran.calls_cases there with ⟨-, result⟩ | ⟨-, there⟩
          · cases rest with
            | gettingSeen asked raw =>
                rintro rfl
                rw [(gettingSeen_of_runCommand result).2]
                exact ExpiringDict.read_eq_none_later ran.order gone.2
            | creating _ _ | getting _ | touching _ _ | touchingSeen _ _ _ | deleting _ _
            | deletingDocument _ _ _ | deletingSeen _ _ _ | unlisting _ _ _ | revoking _
            | revokingDocuments _ _ _ _ | revokingSeen _ _ _ _ _ => trivial
          · exact unread other rest unknown there
        · intro other session unknown member
          rcases List.mem_append.mp member with before | here
          · exact answered other session unknown before
          · obtain ⟨rfl, result⟩ := ran.shown _ here
            rcases answer_cases result with ⟨_, -, wrong⟩ | ⟨asked, raw, same, reads⟩ | wrong |
              ⟨_, _, expired, -, wrong⟩ | ⟨_, _, expired, -, wrong⟩ | ⟨_, _, _, -, wrong⟩
            · cases wrong
            · obtain ⟨document, held, own⟩ := reads session rfl
              have running := ran.found
              rw [same] at running
              have lawful := books.lawful _ _ running document held
              intro hit
              have nothing := unread _ _ unknown running (lawful.symm.trans (own.symm.trans hit))
              rw [nothing] at held
              cases held
            · cases wrong
            · cases expired <;> cases wrong
            · cases expired <;> cases wrong
            · cases wrong

/-! ## Made sessions -/

/-- The session has been made: its call has ended, and its document is the only one that lies, or
will lie, under its digest. -/
structure Made (state : SessionState) (session : SsoSession) : Prop where
  drawn : session.sessionDigest ∈ state.drawn
  ended : ∀ id stage other, dictGet state.calls id = some (.creating stage other) →
    other.sessionDigest ≠ session.sessionDigest
  own : ∀ held deadline, dictGet state.documents session.sessionDigest = some (held, deadline) →
    held = session

namespace Made

variable {session : SsoSession}

theorem written (made : Made state session) : Written state session.sessionDigest :=
  ⟨made.drawn, fun id other found => made.ended id .document other found⟩

theorem step (made : Made state session) {action : SessionAction}
    (stepped : sessionStep idleTimeout state action = some (next, new)) : Made next session := by
  have forward := forward_of_step stepped
  cases action with
  | begins id request now =>
      obtain ⟨-, -, allowed, -, rfl⟩ := begun_of_step stepped
      refine ⟨forward.drawn _ made.drawn, fun other stage maker found => ?_, made.own⟩
      dsimp only at found
      rw [dictGet_dictSet] at found
      split at found
      · obtain ⟨-, fresh, -⟩ := draws_of_call allowed (Option.some.inj found)
        exact fun same => fresh (same ▸ made.drawn)
      · exact made.ended other stage maker found
  | runs id now members =>
      obtain ⟨call, ran⟩ := ran_of_step stepped
      refine ⟨forward.drawn _ made.drawn, fun other stage maker found => ?_, ?_⟩
      · obtain ⟨before, there, -⟩ := ran.creating found
        exact made.ended other before maker there
      · intro held deadline found
        rw [ran.documents] at found
        rcases documents_runCommand found with old | ⟨maker, same, here, -⟩
        · exact made.own held deadline old
        · have running := ran.found
          rw [same] at running
          exact absurd here.symm (made.ended id .document maker running)

/-- An answer of `create` says that the session has been made. -/
theorem ofAnswer (books : Books state) {action : SessionAction}
    (stepped : sessionStep idleTimeout state action = some (next, new)) {id : Nat}
    (answered : (id, .created session) ∈ new) : Made next session := by
  have forward := forward_of_step stepped
  cases action with
  | begins other request now =>
      obtain ⟨-, -, -, rfl, -⟩ := begun_of_step stepped
      cases answered
  | runs other now members =>
      obtain ⟨call, ran⟩ := ran_of_step stepped
      obtain ⟨rfl, result⟩ := ran.shown _ answered
      have running := ran.found
      rcases answer_cases result with ⟨maker, same, answer⟩ | ⟨_, _, same, -⟩ | wrong |
        ⟨_, _, expired, -, wrong⟩ | ⟨_, _, expired, -, wrong⟩ | ⟨_, _, _, -, wrong⟩
      · cases answer
        rw [same] at running
        obtain ⟨drawn, -, -, own⟩ := books.lawful _ _ running
        refine ⟨forward.drawn _ drawn, fun other stage maker found hit => ?_, ?_⟩
        · rcases ran.calls_cases found with ⟨-, goesOn⟩ | ⟨apart, there⟩
          · rw [result] at goesOn
            cases goesOn
          · exact apart (books.apart _ _ _ _ _ _ running there hit.symm)
        · intro held deadline found
          rw [ran.documents] at found
          rcases documents_runCommand found with old | ⟨_, wrong, -, -⟩
          · exact own held deadline old
          · rw [same] at wrong
            cases wrong
      · rw [same] at result
        obtain ⟨_, wrong⟩ := gettingSeen_answer result
        cases wrong
      · cases wrong
      · cases expired <;> cases wrong
      · cases expired <;> cases wrong
      · cases wrong

end Made

/-! ## Lists -/

/-- The list of a session's subject names it for as long as its document lies there. -/
def Covered (state : SessionState) (session : SsoSession) : Prop :=
  ∃ limit held deadline,
    dictGet state.documents session.sessionDigest = some (session, some limit) ∧
      dictGet state.subjects session.subject = some (held, deadline) ∧
      session.sessionDigest ∈ held ∧ ∀ last ∈ deadline, limit ≤ last

/-- Every session that can be read is listed under its subject, or is being made. -/
def AllListed (state : SessionState) : Prop :=
  ∀ digest session, state.documents.read state.clock digest = some session →
    Covered state session ∨
      ∃ id stage, dictGet state.calls id = some (.creating stage session)

/-- No command of a call takes a session from its subject's list that is not revoked. A session's
list is still there when its deadline is set, and no session was listed between the two commands
that read a list and delete it. -/
def SessionCall.Unraced (state : SessionState) (now : ℚ) : SessionCall → Prop
  | .creating .expiring session => session.sessionDigest ∈ state.listed now session.subject ∨
      state.documents.read now session.sessionDigest = none
  | .revokingDocuments subject members [] _ =>
      ∀ digest ∈ state.listed now subject, digest ∈ members
  | _ => True

instance (state : SessionState) (now : ℚ) : DecidablePred (SessionCall.Unraced state now)
  | .creating .expiring _ => inferInstanceAs (Decidable (_ ∨ _))
  | .creating .document _ => inferInstanceAs (Decidable True)
  | .creating .seen _ => inferInstanceAs (Decidable True)
  | .creating .listing _ => inferInstanceAs (Decidable True)
  | .revokingDocuments _ _ [] _ => inferInstanceAs (Decidable (∀ _ ∈ _, _))
  | .revokingDocuments _ _ (_ :: _) _ => inferInstanceAs (Decidable True)
  | .getting _ => inferInstanceAs (Decidable True)
  | .gettingSeen _ _ => inferInstanceAs (Decidable True)
  | .touching _ _ => inferInstanceAs (Decidable True)
  | .touchingSeen _ _ _ => inferInstanceAs (Decidable True)
  | .deleting _ _ => inferInstanceAs (Decidable True)
  | .deletingDocument _ _ _ => inferInstanceAs (Decidable True)
  | .deletingSeen _ _ _ => inferInstanceAs (Decidable True)
  | .unlisting _ _ _ => inferInstanceAs (Decidable True)
  | .revoking _ => inferInstanceAs (Decidable True)
  | .revokingSeen _ _ _ _ _ => inferInstanceAs (Decidable True)

/-- The call that runs its next command is not raced. -/
def Unraced (state : SessionState) : SessionAction → Prop
  | .runs id now _ => ∀ call ∈ dictGet state.calls id, call.Unraced state now
  | .begins _ _ _ => True

instance (state : SessionState) : DecidablePred (Unraced state)
  | .runs _ _ _ => inferInstanceAs (Decidable (∀ _ ∈ _, _))
  | .begins _ _ _ => inferInstanceAs (Decidable True)

theorem listed_of_alive {now : ℚ} {subject : String} {held : List String} {deadline : Option ℚ}
    (found : dictGet state.subjects subject = some (held, deadline))
    (alive : AliveAt now deadline) :
    state.listed now subject = held ∧ state.listDeadline now subject = deadline := by
  constructor
  · rw [SessionState.listed, ExpiringDict.read_eq_some_iff.mpr ⟨deadline, found, alive⟩]
    rfl
  · rw [SessionState.listDeadline, found]
    exact if_pos alive

/-- What a command leaves of a list with a session that can be read: it is named there still, for
as long. -/
theorem subjects_keep (books : Books state) {id : Nat} {now : ℚ} {members : List String}
    {call : SessionCall} (ran : Ran idleTimeout state next new id now members call)
    (unraced : call.Unraced state now) {session : SsoSession} {limit : ℚ} {held : List String}
    {deadline : Option ℚ}
    (stored : dictGet state.documents session.sessionDigest = some (session, some limit))
    (lives : now < limit) (found : dictGet state.subjects session.subject = some (held, deadline))
    (member : session.sessionDigest ∈ held) (lasts : ∀ last ∈ deadline, limit ≤ last) :
    ∃ after until_, dictGet next.subjects session.subject = some (after, until_) ∧
      session.sessionDigest ∈ after ∧ ∀ last ∈ until_, limit ≤ last := by
  have alive : AliveAt now deadline := fun last there => lives.trans_le (lasts last there)
  have bound : limit ≤ now + indexTtlSeconds := by
    obtain ⟨-, -, other, same, bound⟩ := books.stored _ _ _ stored
    cases same
    linarith [ran.order]
  have readable : state.documents.read state.clock session.sessionDigest = some session :=
    ExpiringDict.read_eq_some_iff.mpr ⟨some limit, stored, fun last there => by
      cases there
      exact ran.order.trans_lt lives⟩
  obtain ⟨listed, limits⟩ := @listed_of_alive { state with clock := now } now _ _ _ found alive
  rw [ran.subjects]
  have lawful := books.lawful id call ran.found
  cases call with
  | creating stage maker =>
      cases stage with
      | document | seen => exact ⟨held, deadline, found, member, lasts⟩
      | listing =>
          change ∃ after until_, dictGet (ExpiringDict.write ..) _ = some (after, until_) ∧ _
          rw [ExpiringDict.dictGet_write]
          split
          · rename_i same
            refine ⟨_, _, rfl, ?_, ?_⟩
            · rw [same, listed]
              split
              · exact member
              · exact List.mem_append_left _ member
            · rw [same, limits]
              exact lasts
          · exact ⟨held, deadline, found, member, lasts⟩
      | expiring =>
          rw [runCommand, SessionState.expireListed]
          split
          · exact ⟨held, deadline, found, member, lasts⟩
          · rename_i before there
            change ∃ after until_, dictGet (ExpiringDict.write ..) _ = some (after, until_) ∧ _
            rw [ExpiringDict.dictGet_write]
            split
            · rename_i same
              refine ⟨before, _, rfl, ?_, ?_⟩
              · have same' : state.subjects.read now session.subject = some held :=
                  ExpiringDict.read_eq_some_iff.mpr ⟨deadline, found, alive⟩
                rw [← same] at same'
                have one := there.symm.trans same'
                cases one
                exact member
              · intro last there
                cases there
                exact bound
            · exact ⟨held, deadline, found, member, lasts⟩
  | unlisting digest subject expired =>
      have apart : digest ≠ session.sessionDigest := fun same => by
        have gone := lawful.2
        rw [same, readable] at gone
        cases gone
      rw [runCommand, SessionState.removeListed]
      dsimp only
      by_cases same : subject = session.subject
      · have kept : session.sessionDigest ∈
            (SessionState.listed { state with clock := now } now subject).filter (· ≠ digest) := by
          rw [same, listed]
          exact List.mem_filter.mpr ⟨member, decide_eq_true (Ne.symm apart)⟩
        rw [if_neg (List.ne_nil_of_mem kept), ExpiringDict.dictGet_write, if_pos same]
        refine ⟨_, _, rfl, kept, ?_⟩
        rw [same, limits]
        exact lasts
      · split
        · rw [ExpiringDict.dictGet_drop, if_neg same]
          exact ⟨held, deadline, found, member, lasts⟩
        · rw [ExpiringDict.dictGet_write, if_neg same]
          exact ⟨held, deadline, found, member, lasts⟩
  | revokingDocuments subject read rest removed =>
      cases rest with
      | cons _ _ => exact ⟨held, deadline, found, member, lasts⟩
      | nil =>
          change ∃ after until_, dictGet (ExpiringDict.drop ..) _ = some (after, until_) ∧ _
          rw [ExpiringDict.dictGet_drop]
          split
          · rename_i same
            have here : session.sessionDigest ∈ state.listed now subject := by
              rw [same]
              exact mem_listed.mpr ⟨held, deadline, found, alive, member⟩
            rcases (lawful _ (unraced _ here)).2 with wrong | gone
            · cases wrong
            · have nothing := gone.2
              rw [readable] at nothing
              cases nothing
          · exact ⟨held, deadline, found, member, lasts⟩
  | getting _ | gettingSeen _ _ | touching _ _ | touchingSeen _ _ _ | deleting _ _
  | deletingDocument _ _ _ | deletingSeen _ _ _ | revoking _ | revokingSeen _ _ _ _ _ =>
      exact ⟨held, deadline, found, member, lasts⟩

/-- A call that makes a session goes on making it, or has listed it. -/
theorem making_keeps (books : Books state) {id : Nat} {now : ℚ} {members : List String}
    {stage : CreateStage} {session : SsoSession}
    (ran : Ran idleTimeout state next new id now members (.creating stage session))
    (unraced : (SessionCall.creating stage session).Unraced state now) {limit : ℚ}
    (before : dictGet state.documents session.sessionDigest = some (session, some limit))
    (after : dictGet next.documents session.sessionDigest = some (session, some limit))
    (lives : now < limit) :
    Covered next session ∨
      ∃ other later, dictGet next.calls other = some (.creating later session) := by
  have running := ran.calls id
  rw [if_pos rfl] at running
  cases stage with
  | document | seen | listing => exact .inr ⟨id, _, running⟩
  | expiring =>
      have bound : limit ≤ now + indexTtlSeconds := by
        obtain ⟨-, -, other, same, bound⟩ := books.stored _ _ _ before
        cases same
        linarith [ran.order]
      rcases unraced with listed | unread
      · obtain ⟨held, deadline, found, alive, member⟩ := mem_listed.mp listed
        have there : state.subjects.read now session.subject = some held :=
          ExpiringDict.read_eq_some_iff.mpr ⟨deadline, found, alive⟩
        refine .inl ⟨limit, held, some (now + indexTtlSeconds), after, ?_, member, ?_⟩
        · rw [ran.subjects, runCommand, SessionState.expireListed]
          dsimp only
          rw [there]
          dsimp only
          rw [ExpiringDict.dictGet_write, if_pos rfl]
        · intro last there
          cases there
          exact bound
      · have readable := ExpiringDict.read_eq_some_iff.mpr
          ⟨some limit, before, fun last there => by cases there; exact lives⟩
        rw [unread] at readable
        cases readable

namespace AllListed

theorem initial (start : ℚ) : AllListed { clock := start } :=
  fun _ _ found => by cases found

/-- A step that is not raced leaves every readable session listed. -/
theorem step (listed : AllListed state) (books : Books state) {action : SessionAction}
    (unraced : Unraced state action)
    (stepped : sessionStep idleTimeout state action = some (next, new)) : AllListed next := by
  cases action with
  | begins id request now =>
      obtain ⟨fresh, order, -, -, rfl⟩ := begun_of_step stepped
      intro digest session read
      rcases listed digest session (ExpiringDict.read_of_later order read) with
        covered | ⟨maker, stage, found⟩
      · exact .inl covered
      · refine .inr ⟨maker, stage, ?_⟩
        dsimp only
        rw [dictGet_dictSet, if_neg, found]
        intro same
        rw [same, found] at fresh
        cases fresh
  | runs id now members =>
      obtain ⟨call, ran⟩ := ran_of_step stepped
      intro digest session read
      obtain ⟨deadline, after, alive⟩ := ExpiringDict.read_eq_some_iff.mp read
      have before := ran.documents ▸ after
      rcases documents_runCommand before with old | ⟨made, rfl, -, entry⟩
      · obtain ⟨rfl, -, limit, rfl, -⟩ := books.stored digest session deadline old
        have lives : now < limit := ran.clock ▸ alive limit rfl
        have readable : state.documents.read state.clock session.sessionDigest = some session :=
          ExpiringDict.read_eq_some_iff.mpr ⟨some limit, old, fun last there => by
            cases there
            exact ran.order.trans_lt lives⟩
        rcases listed _ session readable with
          ⟨_, held, until_, stored, found, member, lasts⟩ | ⟨maker, stage, found⟩
        · rw [old] at stored
          cases stored
          obtain ⟨later, last, there, here, bound⟩ :=
            subjects_keep books ran (unraced call ran.found) old lives found member lasts
          exact .inl ⟨limit, later, last, after, there, here, bound⟩
        · by_cases same : id = maker
          · rw [← same, ran.found] at found
            cases found
            exact making_keeps books ran (unraced _ ran.found) old after lives
          · exact .inr ⟨maker, stage, by rw [ran.calls, if_neg same, found]⟩
      · have running := ran.calls id
        rw [if_pos rfl] at running
        rw [(Prod.mk.inj entry).1]
        exact .inr ⟨id, .seen, running⟩

end AllListed

/-! ## Revoking -/

/-- A call that was made after the session was has it in hand, or the session is gone: a `delete`
of its digest from its second command on, and a revocation of its subject, which counts here where
`lists` holds, from its first. -/
def Chasing (lists : Prop) (state : SessionState) (session : SsoSession) : SessionCall → Prop
  | .deletingSeen digest _ _ => digest = session.sessionDigest → Gone state digest
  | .unlisting digest _ _ => digest = session.sessionDigest → Gone state digest
  | .revokingDocuments subject _ rest _ => lists → subject = session.subject →
      session.sessionDigest ∈ rest ∨ Gone state session.sessionDigest
  | .revokingSeen subject _ _ rest _ => lists → subject = session.subject →
      session.sessionDigest ∈ rest ∨ Gone state session.sessionDigest
  | _ => True

theorem Forward.chasing {lists : Prop} {session : SsoSession} (forward : Forward state next)
    {call : SessionCall} (chasing : Chasing lists state session call) :
    Chasing lists next session call := by
  cases call with
  | deletingSeen _ _ _ => exact fun same => forward.gone _ (chasing same)
  | unlisting _ _ _ => exact fun same => forward.gone _ (chasing same)
  | revokingDocuments _ _ _ _ | revokingSeen _ _ _ _ _ =>
      exact fun lists same => (chasing lists same).imp_right (forward.gone _)
  | creating _ _ | getting _ | gettingSeen _ _ | touching _ _ | touchingSeen _ _ _ | deleting _ _
  | deletingDocument _ _ _ | revoking _ => trivial

/-- The next command of a chasing call. -/
theorem chasing_runCommand {lists : Prop} {session : SsoSession} (made : Made state session)
    (listed : lists → AllListed state) {id : Nat} {now : ℚ} {members : List String}
    {call rest : SessionCall} (ran : Ran idleTimeout state next new id now members call)
    (chasing : Chasing lists state session call)
    (result : (runCommand idleTimeout { state with clock := now } now members call).2 = .ok rest) :
    Chasing lists next session rest := by
  have forward := ran.forward
  have documents := ran.documents
  cases call with
  | creating stage maker =>
      cases stage with
      | document | seen | listing =>
          cases result
          trivial
      | expiring => cases result
  | gettingSeen digest raw =>
      cases gettingSeen_goesOn result
      trivial
  | touchingSeen digest seenAt ttl => cases result
  | getting _ | touching _ _ | deleting _ _ =>
      cases result
      trivial
  | deletingDocument digest raw expired =>
      cases result
      rintro rfl
      refine ⟨forward.written _ made.written, ?_⟩
      rw [documents]
      exact (ExpiringDict.read_drop ..).trans (if_pos rfl)
  | deletingSeen digest raw expired =>
      obtain ⟨document, rfl, rfl⟩ := deletingSeen_goesOn result
      exact fun same => forward.gone _ (chasing same)
  | unlisting digest subject expired => cases result
  | revoking subject =>
      cases result
      rintro given rfl
      cases read : state.documents.read now session.sessionDigest with
      | none =>
          refine .inr ⟨forward.written _ made.written, ?_⟩
          rw [documents, ran.clock]
          exact read
      | some held =>
          obtain ⟨deadline, there, alive⟩ := ExpiringDict.read_eq_some_iff.mp read
          obtain rfl := made.own held deadline there
          rcases listed given _ held (ExpiringDict.read_of_later ran.order read) with
            ⟨limit, names, until_, stored, found, member, lasts⟩ | ⟨maker, stage, found⟩
          · rw [there] at stored
            cases stored
            refine .inl (ran.answered.mem_iff.mpr
              (mem_listed.mpr ⟨names, until_, found, ?_, member⟩))
            exact fun last inside => (alive limit rfl).trans_le (lasts last inside)
          · exact absurd rfl (made.ended maker stage held found)
  | revokingDocuments subject read pending removed =>
      cases pending with
      | nil => cases result
      | cons first pending =>
          cases result
          intro given same
          rcases chasing given same with waits | gone
          · rcases List.mem_cons.mp waits with here | later
            · refine .inr ⟨forward.written _ made.written, ?_⟩
              rw [documents, here]
              exact (ExpiringDict.read_drop ..).trans (if_pos rfl)
            · exact .inl later
          · exact .inr (forward.gone _ gone)
  | revokingSeen subject read digest pending removed =>
      cases result
      exact fun given same => (chasing given same).imp_right (forward.gone _)

/-- The answer says that the session was revoked: by its digest, or, where `lists` holds, with its
subject. -/
def Revokes (lists : Prop) (session : SsoSession) (answer : SessionAnswer) : Prop :=
  answer = .deleted session.sessionDigest ∨
    lists ∧ ∃ removed, answer = .revoked session.subject removed

/-- A chasing call that answers leaves the session gone. -/
theorem gone_of_answer {lists : Prop} {session : SsoSession} {id : Nat} {now : ℚ}
    {members : List String} {call : SessionCall} {answer : SessionAnswer}
    (ran : Ran idleTimeout state next new id now members call)
    (chasing : Chasing lists state session call)
    (result : (runCommand idleTimeout { state with clock := now } now members call).2 =
      .error answer) (revokes : Revokes lists session answer) :
    Gone next session.sessionDigest := by
  refine ran.forward.gone _ ?_
  rcases answer_cases result with ⟨_, -, wrong⟩ | ⟨_, raw, rfl, -⟩ | wrong |
    ⟨digest, raw, expired, rfl, answer⟩ | ⟨digest, subject, expired, rfl, answer⟩ |
    ⟨subject, read, removed, rfl, answer⟩
  · rcases revokes with same | ⟨-, _, same⟩
    · rw [wrong] at same
      cases same
    · rw [wrong] at same
      cases same
  · obtain ⟨_, rfl⟩ := gettingSeen_answer result
    rcases revokes with same | ⟨-, _, same⟩ <;> cases same
  · rcases revokes with same | ⟨-, _, same⟩
    · rw [wrong] at same
      cases same
    · rw [wrong] at same
      cases same
  · rcases revokes with same | ⟨-, _, same⟩
    · rw [answer] at same
      cases expired with
      | true => cases same
      | false =>
          cases same
          exact chasing rfl
    · rw [answer] at same
      cases expired <;> cases same
  · rcases revokes with same | ⟨-, _, same⟩
    · rw [answer] at same
      cases expired with
      | true => cases same
      | false =>
          cases same
          exact chasing rfl
    · rw [answer] at same
      cases expired <;> cases same
  · rcases revokes with same | ⟨given, _, same⟩
    · rw [answer] at same
      cases same
    · rw [answer] at same
      cases same
      exact (chasing given rfl).resolve_left List.not_mem_nil

/-! ## Results -/

section Runs

variable {session : SsoSession} {made revoked final : SessionState}
  {first second third : List SessionAction} {before between after : List (Nat × SessionAnswer)}

/-- A run that shows that a session was made leaves it made, and the books kept. -/
theorem made_of_run {start : ℚ} {maker : Nat}
    (ran : runSteps (sessionStep idleTimeout) { clock := start } first = some (made, before))
    (created : (maker, .created session) ∈ before) : Books made ∧ Made made session := by
  have kept := @invariant_of_run _ _ _ (sessionStep idleTimeout) (fun _ _ => True)
    (fun now shown => Books now ∧
      ∀ id session, (id, SessionAnswer.created session) ∈ shown → Made now session)
    ?_ first _ made [] before
    ⟨Books.initial start, fun _ _ member => absurd member List.not_mem_nil⟩
    (stepsMeet_of_forall (fun _ _ => trivial) _) ran
  · exact ⟨kept.1, kept.2 maker session created⟩
  · rintro now next past new action ⟨books, held⟩ - stepped
    refine ⟨books.step stepped, fun id other member => ?_⟩
    rcases List.mem_append.mp member with old | here
    · exact (held id other old).step stepped
    · exact .ofAnswer books stepped here

/-- A run that is not raced leaves every readable session listed. -/
theorem allListed_of_run {start : ℚ}
    (ran : runSteps (sessionStep idleTimeout) { clock := start } first = some (made, before))
    (calm : StepsMeet (sessionStep idleTimeout) Unraced { clock := start } first) :
    AllListed made := by
  have kept := @invariant_of_run _ _ _ (sessionStep idleTimeout) Unraced
    (fun now _ => Books now ∧ AllListed now) ?_ first _ made [] before
    ⟨Books.initial start, AllListed.initial start⟩ calm ran
  · exact kept.2
  · rintro now next past new action ⟨books, listed⟩ unraced stepped
    exact ⟨books.step stepped, listed.step books unraced stepped⟩

/-- A call that was made after a session was, and answers that it revoked it, leaves it gone. -/
theorem gone_of_run (lists : Prop) (books : Books made) (held : Made made session)
    (listed : lists → AllListed made)
    (ran : runSteps (sessionStep idleTimeout) made second = some (revoked, between))
    (calm : StepsMeet (sessionStep idleTimeout) (fun state action => lists → Unraced state action)
      made second)
    {id : Nat} (later : dictGet made.calls id = none) {answer : SessionAnswer}
    (answered : (id, answer) ∈ between) (revokes : Revokes lists session answer) :
    Books revoked ∧ Gone revoked session.sessionDigest := by
  have kept := @invariant_of_run _ _ _ (sessionStep idleTimeout)
    (fun state action => lists → Unraced state action)
    (fun now shown => Books now ∧ Made now session ∧ (lists → AllListed now) ∧
      (∀ id call, dictGet made.calls id = none → dictGet now.calls id = some call →
        Chasing lists now session call) ∧
      ∀ id answer, dictGet made.calls id = none → (id, answer) ∈ shown →
        Revokes lists session answer → Gone now session.sessionDigest) ?_ second made revoked []
    between ⟨books, held, listed, fun id call unknown there =>
      absurd (unknown.symm.trans there) (by simp),
      fun id answer _ member => absurd member List.not_mem_nil⟩ calm ran
  · exact ⟨kept.1, kept.2.2.2.2 id answer later answered revokes⟩
  · rintro now next past new action ⟨books, held, listed, chasing, gone⟩ unraced stepped
    have forward := forward_of_step stepped
    refine ⟨books.step stepped, held.step stepped,
      fun given => (listed given).step books (unraced given) stepped, ?_⟩
    cases action with
    | begins other request instant =>
        obtain ⟨-, -, -, rfl, rfl⟩ := begun_of_step stepped
        rw [List.append_nil]
        refine ⟨fun caller call unknown there => ?_, fun caller answer unknown member revokes =>
          forward.gone _ (gone caller answer unknown member revokes)⟩
        dsimp only at there
        rw [dictGet_dictSet] at there
        split at there
        · cases there
          cases request with
          | create _ | get _ | touch _ _ | delete _ | deleteForSubject _ => trivial
        · exact forward.chasing (chasing caller call unknown there)
    | runs other instant members =>
        obtain ⟨call, ran⟩ := ran_of_step stepped
        constructor
        · intro caller rest unknown there
          rcases ran.calls_cases there with ⟨rfl, result⟩ | ⟨-, there⟩
          · exact chasing_runCommand held listed ran (chasing _ _ unknown ran.found) result
          · exact forward.chasing (chasing caller rest unknown there)
        · intro caller answer unknown member revokes
          rcases List.mem_append.mp member with old | here
          · exact forward.gone _ (gone caller answer unknown old revokes)
          · obtain ⟨rfl, result⟩ := ran.shown _ here
            exact gone_of_answer ran (chasing _ _ unknown ran.found) result revokes

/-- The sessions of two people. -/
def aliceSession : SsoSession where
  sessionDigest := "d1"
  subject := "alice"
  expiresAt := 28800
  lastSeenAt := 0

def bobSession : SsoSession where
  sessionDigest := "d2"
  subject := "bob"
  expiresAt := 28800
  lastSeenAt := 0

/-- Both sign in. -/
def signIns : List SessionAction :=
  [.begins 1 (.create aliceSession) 0, .begins 2 (.create bobSession) 0] ++
    (List.replicate 4 [.runs 1 1 [], .runs 2 1 []]).flatten

/-- Alice signs out, or is signed out everywhere. -/
def signOut (everywhere : Bool) : List SessionAction :=
  if everywhere then
    [.begins 3 (.deleteForSubject "alice") 2, .runs 3 2 ["d1"], .runs 3 2 [], .runs 3 2 [],
      .runs 3 2 []]
  else .begins 3 (.delete "d1") 2 :: List.replicate 4 (.runs 3 2 [])

/-- Bob comes back, and so does alice. -/
def comingBack : List SessionAction :=
  [.begins 4 (.get "d1") 3, .begins 5 (.get "d2") 3, .runs 4 3 [], .runs 5 3 [], .runs 4 3 [],
    .runs 5 3 []]

/-- What a run leads to. -/
def sessionsAfter (actions : List SessionAction) (state : SessionState) :
    SessionState × List (Nat × SessionAnswer) :=
  (runSteps (sessionStep 3600) state actions).getD (state, [])

theorem ran_sessionsAfter {actions : List SessionAction} {state : SessionState}
    (runs : (runSteps (sessionStep 3600) state actions).isSome) :
    runSteps (sessionStep 3600) state actions = some (sessionsAfter actions state) := by
  obtain ⟨outcome, ran⟩ := Option.isSome_iff_exists.mp runs
  rw [sessionsAfter, ran]
  rfl

/-- The states between these runs. -/
def signedIn : SessionState := (sessionsAfter signIns { clock := 0 }).1

def signedOut (everywhere : Bool) : SessionState :=
  (sessionsAfter (signOut everywhere) signedIn).1

end Runs

end QueryGate.RedisSessions
