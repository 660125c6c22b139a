import QueryGate.Identity.RedisSessions

/-! # What is known of sessions between commands

The books of the session store while calls of any number of replicas run between each other: a
digest is written once, so that a document that is deleted, or has expired, is not read again.
-/

namespace QueryGate.RedisSessions

open Foundation

/-! ## What a call knows -/

/-- The document of a digest has been written, or never will be. -/
def Written (state : SessionState) (digest : String) : Prop :=
  digest ∈ state.drawn ∧ ∀ id session,
    dictGet state.calls id = some (.creating .document session) → session.sessionDigest ≠ digest

/-- No session of the digest will be read again. -/
def Gone (state : SessionState) (digest : String) : Prop :=
  Written state digest ∧ state.documents.read state.clock digest = none

/-- What holds of a call on its way. -/
def SessionCall.Lawful (state : SessionState) : SessionCall → Prop
  | .creating stage session =>
      session.sessionDigest ∈ state.drawn ∧
        session.expiresAt ≤ state.clock + maxSessionTtlSeconds ∧
        (stage = .document → dictGet state.documents session.sessionDigest = none) ∧
        ∀ held deadline, dictGet state.documents session.sessionDigest = some (held, deadline) →
          held = session
  | .gettingSeen digest raw => ∀ document ∈ raw, document.sessionDigest = digest
  | .deletingDocument digest raw _ => raw.isSome → Written state digest
  | .deletingSeen digest raw _ => raw.isSome → Gone state digest
  | .unlisting digest _ _ => Gone state digest
  | .revokingDocuments _ members rest _ =>
      ∀ digest ∈ members, Written state digest ∧ (digest ∈ rest ∨ Gone state digest)
  | .revokingSeen _ members _ rest _ =>
      ∀ digest ∈ members, Written state digest ∧ (digest ∈ rest ∨ Gone state digest)
  | _ => True

/-- The books of the store: calls make sessions with different digests and are lawful, a document
lies under its own digest, for no longer than a list does, and a list names written digests. -/
structure Books (state : SessionState) : Prop where
  apart : ∀ id other stage otherStage session otherSession,
    dictGet state.calls id = some (.creating stage session) →
    dictGet state.calls other = some (.creating otherStage otherSession) →
    session.sessionDigest = otherSession.sessionDigest → id = other
  lawful : ∀ id call, dictGet state.calls id = some call → call.Lawful state
  stored : ∀ digest session deadline,
    dictGet state.documents digest = some (session, deadline) →
    session.sessionDigest = digest ∧ Written state digest ∧
      ∃ limit, deadline = some limit ∧ limit ≤ state.clock + indexTtlSeconds
  entries : ∀ subject members deadline digest,
    dictGet state.subjects subject = some (members, deadline) → digest ∈ members →
    Written state digest

/-- A later state: what was written is, and what was gone is. -/
structure Forward (state next : SessionState) : Prop where
  clock : state.clock ≤ next.clock
  drawn : ∀ digest ∈ state.drawn, digest ∈ next.drawn
  written : ∀ digest, Written state digest → Written next digest
  gone : ∀ digest, Gone state digest → Gone next digest

/-- A call stays lawful where no document comes in under the session it makes. -/
theorem Forward.lawful {state next : SessionState} (forward : Forward state next)
    {call : SessionCall} (lawful : call.Lawful state)
    (documents : ∀ stage session, call = .creating stage session → ∀ entry,
      dictGet next.documents session.sessionDigest = some entry →
      dictGet state.documents session.sessionDigest = some entry) : call.Lawful next := by
  cases call with
  | creating stage session =>
      obtain ⟨drawn, lasts, empty, own⟩ := lawful
      refine ⟨forward.drawn _ drawn, by linarith [forward.clock], fun first => ?_,
        fun held deadline found => own held deadline (documents _ _ rfl _ found)⟩
      cases found : dictGet next.documents session.sessionDigest with
      | none => rfl
      | some entry => exact absurd (documents _ _ rfl _ found) (by simp [empty first])
  | gettingSeen digest raw => exact lawful
  | deletingDocument digest raw expired => exact fun read => forward.written _ (lawful read)
  | deletingSeen digest raw expired => exact fun read => forward.gone _ (lawful read)
  | unlisting digest subject expired => exact forward.gone _ lawful
  | revokingDocuments subject members rest removed =>
      exact fun digest member => ⟨forward.written _ (lawful digest member).1,
        (lawful digest member).2.imp_right (forward.gone _)⟩
  | revokingSeen subject members digest rest removed =>
      exact fun digest member => ⟨forward.written _ (lawful digest member).1,
        (lawful digest member).2.imp_right (forward.gone _)⟩
  | getting _ => trivial
  | touching _ _ => trivial
  | touchingSeen _ _ _ => trivial
  | deleting _ _ => trivial
  | revoking _ => trivial

/-! ## One command -/

section Command

variable {idleTimeout now : ℚ} {state : SessionState} {members : List String} {call : SessionCall}

theorem runCommand_calls : (runCommand idleTimeout state now members call).1.calls = state.calls ∧
    (runCommand idleTimeout state now members call).1.drawn = state.drawn ∧
    (runCommand idleTimeout state now members call).1.clock = state.clock := by
  cases call with
  | creating stage session =>
      cases stage with
      | document | seen | listing => exact ⟨rfl, rfl, rfl⟩
      | expiring =>
          rw [runCommand, SessionState.expireListed]
          split
          · exact ⟨rfl, rfl, rfl⟩
          · exact ⟨rfl, rfl, rfl⟩
  | revokingDocuments subject read rest removed =>
      cases rest with
      | nil | cons _ _ => exact ⟨rfl, rfl, rfl⟩
  | getting _ | gettingSeen _ _ | touching _ _ | touchingSeen _ _ _ | deleting _ _
  | deletingDocument _ _ _ | deletingSeen _ _ _ | unlisting _ _ _ | revoking _
  | revokingSeen _ _ _ _ _ => exact ⟨rfl, rfl, rfl⟩

/-- A command writes no document but that of the session that its call makes. -/
theorem documents_runCommand {digest : String} {entry : SsoSession × Option ℚ}
    (found : dictGet (runCommand idleTimeout state now members call).1.documents digest =
      some entry) :
    dictGet state.documents digest = some entry ∨ ∃ session,
      call = .creating .document session ∧ digest = session.sessionDigest ∧
        entry = (session, some (now + ttlOf session.expiresAt now)) := by
  cases call with
  | creating stage session =>
      cases stage with
      | document =>
          change dictGet (ExpiringDict.write ..) digest = some entry at found
          rw [ExpiringDict.dictGet_write] at found
          split at found
          · rename_i same
            exact .inr ⟨session, rfl, same.symm, (Option.some.inj found).symm⟩
          · exact .inl found
      | seen | listing => exact .inl found
      | expiring =>
          rw [runCommand, SessionState.expireListed] at found
          split at found
          · exact .inl found
          · exact .inl found
  | deletingDocument other raw expired =>
      change dictGet (ExpiringDict.drop ..) digest = some entry at found
      rw [ExpiringDict.dictGet_drop] at found
      split at found
      · cases found
      · exact .inl found
  | revokingDocuments subject read rest removed =>
      cases rest with
      | nil => exact .inl found
      | cons other rest =>
          change dictGet (ExpiringDict.drop ..) digest = some entry at found
          rw [ExpiringDict.dictGet_drop] at found
          split at found
          · cases found
          · exact .inl found
  | getting _ | gettingSeen _ _ | touching _ _ | touchingSeen _ _ _ | deleting _ _
  | deletingSeen _ _ _ | unlisting _ _ _ | revoking _ | revokingSeen _ _ _ _ _ => exact .inl found

theorem mem_listed {subject digest : String} : digest ∈ state.listed now subject ↔
    ∃ held deadline, dictGet state.subjects subject = some (held, deadline) ∧
      AliveAt now deadline ∧ digest ∈ held := by
  unfold SessionState.listed
  cases found : state.subjects.read now subject with
  | none =>
      constructor
      · exact fun member => absurd member List.not_mem_nil
      · rintro ⟨held, deadline, there, alive, -⟩
        rw [ExpiringDict.read_eq_some_iff.mpr ⟨deadline, there, alive⟩] at found
        cases found
  | some held =>
      obtain ⟨deadline, there, alive⟩ := ExpiringDict.read_eq_some_iff.mp found
      constructor
      · exact fun member => ⟨held, deadline, there, alive, member⟩
      · rintro ⟨other, limit, same, -, member⟩
        rw [there] at same
        cases same
        exact member

/-- A command lists no digest but that of the session that its call makes. -/
theorem subjects_runCommand {subject digest : String} {held : List String} {deadline : Option ℚ}
    (found : dictGet (runCommand idleTimeout state now members call).1.subjects subject =
      some (held, deadline)) (member : digest ∈ held) :
    (∃ before limit, dictGet state.subjects subject = some (before, limit) ∧ digest ∈ before) ∨
      ∃ session, call = .creating .listing session ∧ digest = session.sessionDigest := by
  cases call with
  | creating stage session =>
      cases stage with
      | document | seen => exact .inl ⟨held, deadline, found, member⟩
      | listing =>
          change dictGet (ExpiringDict.write ..) subject = _ at found
          rw [ExpiringDict.dictGet_write] at found
          split at found
          · rename_i same
            cases found
            have old : digest ∈ state.listed now session.subject → ∃ before limit,
                dictGet state.subjects subject = some (before, limit) ∧ digest ∈ before := by
              intro inside
              obtain ⟨before, limit, there, -, here⟩ := mem_listed.mp inside
              exact ⟨before, limit, same ▸ there, here⟩
            split at member
            · exact .inl (old member)
            · rcases List.mem_append.mp member with inside | added
              · exact .inl (old inside)
              · exact .inr ⟨session, rfl, List.mem_singleton.mp added⟩
          · exact .inl ⟨held, deadline, found, member⟩
      | expiring =>
          rw [runCommand, SessionState.expireListed] at found
          split at found
          · exact .inl ⟨held, deadline, found, member⟩
          · rename_i before there
            change dictGet (ExpiringDict.write ..) subject = _ at found
            rw [ExpiringDict.dictGet_write] at found
            split at found
            · rename_i same
              cases found
              obtain ⟨limit, inside, -⟩ := ExpiringDict.read_eq_some_iff.mp there
              exact .inl ⟨held, limit, same ▸ inside, member⟩
            · exact .inl ⟨held, deadline, found, member⟩
  | unlisting other listedUnder expired =>
      change dictGet (if _ then _ else _) subject = _ at found
      split at found
      · rw [ExpiringDict.dictGet_drop] at found
        split at found
        · cases found
        · exact .inl ⟨held, deadline, found, member⟩
      · rw [ExpiringDict.dictGet_write] at found
        split at found
        · rename_i same
          cases found
          obtain ⟨before, limit, there, -, here⟩ := mem_listed.mp (List.mem_filter.mp member).1
          exact .inl ⟨before, limit, same ▸ there, here⟩
        · exact .inl ⟨held, deadline, found, member⟩
  | revokingDocuments revoked read rest removed =>
      cases rest with
      | nil =>
          change dictGet (ExpiringDict.drop ..) subject = _ at found
          rw [ExpiringDict.dictGet_drop] at found
          split at found
          · cases found
          · exact .inl ⟨held, deadline, found, member⟩
      | cons other rest => exact .inl ⟨held, deadline, found, member⟩
  | getting _ | gettingSeen _ _ | touching _ _ | touchingSeen _ _ _ | deleting _ _
  | deletingDocument _ _ _ | deletingSeen _ _ _ | revoking _ | revokingSeen _ _ _ _ _ =>
      exact .inl ⟨held, deadline, found, member⟩

/-- A `get` that goes on has found its session expired. -/
theorem gettingSeen_goesOn {digest : String} {raw : Option SsoSession} {rest : SessionCall}
    (result : (runCommand idleTimeout state now members (.gettingSeen digest raw)).2 = .ok rest) :
    rest = .deleting digest true := by
  change getResult .. = _ at result
  unfold getResult at result
  split at result
  · cases result
  · split at result
    · exact (Except.ok.inj result).symm
    · cases result

/-- A `get` that ends answers what it has read. -/
theorem gettingSeen_answer {digest : String} {raw : Option SsoSession} {answer : SessionAnswer}
    (result : (runCommand idleTimeout state now members (.gettingSeen digest raw)).2 =
      .error answer) : ∃ found, answer = .got found := by
  change getResult .. = _ at result
  unfold getResult at result
  split at result
  · exact ⟨_, (Except.error.inj result).symm⟩
  · split at result
    · cases result
    · exact ⟨_, (Except.error.inj result).symm⟩

/-- A `delete` that goes on has read the subject of its session. -/
theorem deletingSeen_goesOn {digest : String} {raw : Option SsoSession} {expired : Bool}
    {rest : SessionCall}
    (result : (runCommand idleTimeout state now members (.deletingSeen digest raw expired)).2 =
      .ok rest) :
    ∃ document, raw = some document ∧ rest = .unlisting digest document.subject expired := by
  cases raw with
  | none => cases result
  | some document =>
      change (if document.subject = "" then Except.error (deleteAnswer digest expired)
        else Except.ok (SessionCall.unlisting digest document.subject expired)) = _ at result
      split at result
      · cases result
      · exact ⟨document, rfl, (Except.ok.inj result).symm⟩

/-- A call that goes on making a session is the same call. -/
theorem creating_of_runCommand {stage : CreateStage} {session : SsoSession}
    (result : (runCommand idleTimeout state now members call).2 = .ok (.creating stage session)) :
    stage ≠ .document ∧ ∃ before, call = .creating before session := by
  cases call with
  | creating before made =>
      cases before with
      | document | seen | listing =>
          cases result
          exact ⟨by simp, _, rfl⟩
      | expiring => cases result
  | gettingSeen digest raw => cases gettingSeen_goesOn result
  | deletingSeen digest raw expired =>
      obtain ⟨document, -, wrong⟩ := deletingSeen_goesOn result
      cases wrong
  | revokingDocuments subject read rest removed =>
      cases rest with
      | nil | cons _ _ => cases result
  | getting _ | touching _ _ | touchingSeen _ _ _ | deleting _ _ | deletingDocument _ _ _
  | unlisting _ _ _ | revoking _ | revokingSeen _ _ _ _ _ => cases result

/-- A call that has read a document has read what lies under its digest. -/
theorem gettingSeen_of_runCommand {digest : String} {raw : Option SsoSession}
    (result : (runCommand idleTimeout state now members call).2 = .ok (.gettingSeen digest raw)) :
    call = .getting digest ∧ raw = state.documents.read now digest := by
  cases call with
  | getting other =>
      cases result
      exact ⟨rfl, rfl⟩
  | creating stage session =>
      cases stage with
      | document | seen | listing | expiring => cases result
  | gettingSeen other document => cases gettingSeen_goesOn result
  | deletingSeen other document expired =>
      obtain ⟨held, -, wrong⟩ := deletingSeen_goesOn result
      cases wrong
  | revokingDocuments subject read rest removed =>
      cases rest with
      | nil | cons _ _ => cases result
  | touching _ _ | touchingSeen _ _ _ | deleting _ _ | deletingDocument _ _ _
  | unlisting _ _ _ | revoking _ | revokingSeen _ _ _ _ _ => cases result

end Command

/-! ## One step -/

variable {idleTimeout : ℚ} {state next : SessionState} {new : List (Nat × SessionAnswer)}

/-- A call has run its next command. -/
structure Ran (idleTimeout : ℚ) (state next : SessionState) (new : List (Nat × SessionAnswer))
    (id : Nat) (now : ℚ) (members : List String) (call : SessionCall) : Prop where
  found : dictGet state.calls id = some call
  order : state.clock ≤ now
  answered : MembersAnswer state now members call
  documents : next.documents =
    (runCommand idleTimeout { state with clock := now } now members call).1.documents
  subjects : next.subjects =
    (runCommand idleTimeout { state with clock := now } now members call).1.subjects
  drawn : next.drawn = state.drawn
  clock : next.clock = now
  calls : ∀ other, dictGet next.calls other = if id = other then
    (runCommand idleTimeout { state with clock := now } now members call).2.toOption
    else dictGet state.calls other
  shown : ∀ entry ∈ new, entry.1 = id ∧
    (runCommand idleTimeout { state with clock := now } now members call).2 = .error entry.2

theorem ran_of_step {id : Nat} {now : ℚ} {members : List String}
    (stepped : sessionStep idleTimeout state (.runs id now members) = some (next, new)) :
    ∃ call, Ran idleTimeout state next new id now members call := by
  rw [sessionStep] at stepped
  split at stepped
  · cases stepped
  · rename_i call found
    split at stepped
    · rename_i taken
      obtain ⟨calls, drawn, clock⟩ := @runCommand_calls idleTimeout now
        { state with clock := now } members call
      refine ⟨call, ?_⟩
      have same := Option.some.inj stepped
      unfold SessionState.settle at same
      split at same
      · rename_i rest result
        cases same
        refine ⟨found, taken.1, taken.2, rfl, rfl, drawn, clock, fun other => ?_, by simp⟩
        rw [dictGet_dictSet, calls, result]
        rfl
      · rename_i answer result
        cases same
        refine ⟨found, taken.1, taken.2, rfl, rfl, drawn, clock, fun other => ?_, ?_⟩
        · dsimp only
          rw [calls, dictGet_filter_key state.calls (fun name => decide (name ≠ id)), result]
          by_cases here : id = other
          · simp [here, Except.toOption]
          · simp [here, Ne.symm here]
        · intro entry member
          rw [List.mem_singleton.mp member]
          exact ⟨rfl, result⟩
    · cases stepped

/-- A call has been made. -/
theorem begun_of_step {id : Nat} {request : SessionRequest} {now : ℚ}
    (stepped : sessionStep idleTimeout state (.begins id request now) = some (next, new)) :
    dictGet state.calls id = none ∧ state.clock ≤ now ∧ request.Allowed state now ∧ new = [] ∧
      next = { state with
        calls := dictSet state.calls id request.call
        drawn := request.draws.toList ++ state.drawn
        clock := now } := by
  rw [sessionStep] at stepped
  split at stepped
  · cases stepped
  · rename_i fresh
    split at stepped
    · rename_i taken
      cases stepped
      exact ⟨fresh, taken.1, taken.2, rfl, rfl⟩
    · cases stepped

namespace Ran

variable {id : Nat} {now : ℚ} {members : List String} {call : SessionCall}

/-- A call after the step is the one that has run a command, or as it was. -/
theorem calls_cases (ran : Ran idleTimeout state next new id now members call) {other : Nat}
    {rest : SessionCall} (found : dictGet next.calls other = some rest) :
    (id = other ∧ (runCommand idleTimeout { state with clock := now } now members call).2 =
        .ok rest) ∨ id ≠ other ∧ dictGet state.calls other = some rest := by
  rw [ran.calls] at found
  split at found
  · rename_i here
    refine .inl ⟨here, ?_⟩
    cases result : (runCommand idleTimeout { state with clock := now } now members call).2 with
    | error answer =>
        rw [result] at found
        cases found
    | ok following =>
        rw [result] at found
        rw [Option.some.inj found]
  · rename_i apart
    exact .inr ⟨apart, found⟩

/-- A session that is made after the step was made before it. -/
theorem creating (ran : Ran idleTimeout state next new id now members call) {other : Nat}
    {stage : CreateStage} {session : SsoSession}
    (found : dictGet next.calls other = some (.creating stage session)) :
    ∃ before, dictGet state.calls other = some (.creating before session) ∧
      (stage = .document → before = .document ∧ id ≠ other) := by
  rcases ran.calls_cases found with ⟨here, result⟩ | ⟨apart, there⟩
  · obtain ⟨later, before, same⟩ := creating_of_runCommand result
    exact ⟨before, by rw [← here, ran.found, same], fun first => absurd first later⟩
  · exact ⟨stage, there, fun first => ⟨first, apart⟩⟩

theorem forward (ran : Ran idleTimeout state next new id now members call) :
    Forward state next := by
  have written : ∀ digest, Written state digest → Written next digest := by
    rintro digest ⟨drawn, past⟩
    refine ⟨ran.drawn ▸ drawn, fun other session found => ?_⟩
    obtain ⟨before, there, first⟩ := ran.creating found
    rw [(first rfl).1] at there
    exact past other session there
  refine ⟨ran.clock ▸ ran.order, fun digest member => ran.drawn ▸ member, written, ?_⟩
  rintro digest ⟨known, unread⟩
  refine ⟨written digest known, ?_⟩
  cases read : next.documents.read next.clock digest with
  | none => rfl
  | some session =>
      obtain ⟨deadline, there, alive⟩ := ExpiringDict.read_eq_some_iff.mp read
      rw [ran.documents] at there
      rcases documents_runCommand there with old | ⟨made, same, here, -⟩
      · have before := ExpiringDict.read_eq_some_iff.mpr
          ⟨deadline, old, alive.earlier (ran.clock ▸ ran.order)⟩
        dsimp only at before
        rw [unread] at before
        cases before
      · have found := ran.found
        rw [same] at found
        exact absurd here.symm (known.2 id made found)

end Ran

/-- A session that is past its first command is written. -/
theorem Books.written_of_creating (books : Books state) {id : Nat} {stage : CreateStage}
    {session : SsoSession} (found : dictGet state.calls id = some (.creating stage session))
    (later : stage ≠ .document) : Written state session.sessionDigest := by
  refine ⟨(books.lawful id _ found).1, fun other made there same => ?_⟩
  have one := books.apart other id .document stage made session there found same
  rw [one, found] at there
  cases there
  exact later rfl

theorem ttlOf_le {expiresAt now : ℚ} (lasts : expiresAt ≤ now + maxSessionTtlSeconds) :
    now + ttlOf expiresAt now ≤ now + indexTtlSeconds := by
  have bound : ttlOf expiresAt now ≤ 2592000 := by
    unfold ttlOf
    refine max_le (by norm_num) ?_
    split
    · refine Int.floor_le_iff.mpr ?_
      unfold maxSessionTtlSeconds at lasts
      push_cast
      linarith
    · rename_i past
      refine Int.ceil_le.mpr ?_
      push_cast
      linarith
  have cast : (ttlOf expiresAt now : ℚ) ≤ 2592000 := by exact_mod_cast bound
  unfold indexTtlSeconds
  linarith

namespace Books

theorem initial (start : ℚ) : Books { clock := start } where
  apart _ _ _ _ _ _ found := by cases found
  lawful _ _ found := by cases found
  stored _ _ _ found := by cases found
  entries _ _ _ _ found := by cases found

/-- The call that runs a command stays lawful. -/
theorem lawful_runCommand (books : Books state) {id : Nat} {now : ℚ} {members : List String}
    {call rest : SessionCall} (ran : Ran idleTimeout state next new id now members call)
    (result : (runCommand idleTimeout { state with clock := now } now members call).2 = .ok rest) :
    rest.Lawful next := by
  have forward := ran.forward
  have lawful := books.lawful id call ran.found
  have documents := ran.documents
  cases call with
  | creating stage session =>
      obtain ⟨drawn, lasts, empty, own⟩ := lawful
      have lasting : session.expiresAt ≤ next.clock + maxSessionTtlSeconds := by
        linarith [forward.clock]
      cases stage with
      | document =>
          cases result
          refine ⟨forward.drawn _ drawn, lasting, by simp, fun held deadline found => ?_⟩
          rw [documents] at found
          rcases documents_runCommand found with old | ⟨made, same, -, entry⟩
          · rw [empty rfl] at old
            cases old
          · cases same
            exact (Prod.mk.inj entry).1
      | seen | listing =>
          cases result
          exact ⟨forward.drawn _ drawn, lasting, by simp,
            fun held deadline found => own held deadline (documents ▸ found)⟩
      | expiring => cases result
  | getting digest =>
      cases result
      intro document read
      obtain ⟨deadline, there, -⟩ := ExpiringDict.read_eq_some_iff.mp read
      exact (books.stored digest document deadline there).1
  | gettingSeen digest raw =>
      cases gettingSeen_goesOn result
      trivial
  | touching digest seenAt =>
      cases result
      trivial
  | touchingSeen digest seenAt ttl => cases result
  | deleting digest expired =>
      cases result
      intro read
      obtain ⟨document, there⟩ := Option.isSome_iff_exists.mp read
      obtain ⟨deadline, stored, -⟩ := ExpiringDict.read_eq_some_iff.mp there
      exact forward.written _ (books.stored digest document deadline stored).2.1
  | deletingDocument digest raw expired =>
      cases result
      intro read
      refine ⟨forward.written _ (lawful read), ?_⟩
      rw [documents]
      exact (ExpiringDict.read_drop ..).trans (if_pos rfl)
  | deletingSeen digest raw expired =>
      obtain ⟨document, rfl, rfl⟩ := deletingSeen_goesOn result
      exact forward.gone _ (lawful rfl)
  | unlisting digest subject expired => cases result
  | revoking subject =>
      cases result
      intro digest member
      obtain ⟨held, deadline, there, -, here⟩ := mem_listed.mp (ran.answered.mem_iff.mp member)
      exact ⟨forward.written _ (books.entries subject held deadline digest there here),
        .inl member⟩
  | revokingDocuments subject read pending removed =>
      cases pending with
      | nil => cases result
      | cons first pending =>
          cases result
          intro digest member
          obtain ⟨written, waits⟩ := lawful digest member
          refine ⟨forward.written _ written, ?_⟩
          rcases waits with waits | gone
          · rcases List.mem_cons.mp waits with here | later
            · refine .inr ⟨forward.written _ written, ?_⟩
              rw [documents, here]
              exact (ExpiringDict.read_drop ..).trans (if_pos rfl)
            · exact .inl later
          · exact .inr (forward.gone _ gone)
  | revokingSeen subject read digest pending removed =>
      cases result
      exact fun other member => ⟨forward.written _ (lawful other member).1,
        (lawful other member).2.imp_right (forward.gone _)⟩

/-- A command keeps the books. -/
theorem run (books : Books state) {id : Nat} {now : ℚ} {members : List String} {call : SessionCall}
    (ran : Ran idleTimeout state next new id now members call) : Books next := by
  have forward := ran.forward
  constructor
  · intro first second stage otherStage session otherSession found there same
    obtain ⟨before, foundBefore, -⟩ := ran.creating found
    obtain ⟨otherBefore, thereBefore, -⟩ := ran.creating there
    exact books.apart _ _ _ _ _ _ foundBefore thereBefore same
  · intro other rest found
    rcases ran.calls_cases found with ⟨-, result⟩ | ⟨apart, found⟩
    · exact books.lawful_runCommand ran result
    · refine forward.lawful (books.lawful other rest found) ?_
      rintro stage session rfl entry there
      rw [ran.documents] at there
      rcases documents_runCommand there with old | ⟨made, same, here, -⟩
      · exact old
      · have running := ran.found
        rw [same] at running
        exact absurd (books.apart _ _ _ _ _ _ running found here.symm) apart
  · intro digest session deadline found
    rw [ran.documents] at found
    rcases documents_runCommand found with old | ⟨made, same, here, entry⟩
    · obtain ⟨own, written, limit, until_, bound⟩ := books.stored digest session deadline old
      exact ⟨own, forward.written _ written, limit, until_, by linarith [forward.clock]⟩
    · obtain ⟨rfl, rfl⟩ := Prod.mk.inj entry
      have running := ran.found
      rw [same] at running
      obtain ⟨drawn, lasts, -, -⟩ := books.lawful id _ running
      refine ⟨here.symm, ⟨here ▸ forward.drawn _ drawn, fun other maker there same => ?_⟩, _, rfl,
        ?_⟩
      · obtain ⟨before, thereBefore, first⟩ := ran.creating there
        refine (first rfl).2 (books.apart _ _ _ _ _ _ running thereBefore ?_)
        rw [same, here]
      · rw [ran.clock]
        refine ttlOf_le ?_
        linarith [ran.order]
  · intro subject held deadline digest found member
    rw [ran.subjects] at found
    rcases subjects_runCommand found member with ⟨before, limit, old, here⟩ | ⟨made, same, here⟩
    · exact forward.written _ (books.entries subject before limit digest old here)
    · have running := ran.found
      rw [same] at running
      exact here ▸ forward.written _ (books.written_of_creating running (by simp))

end Books

/-- A call that is made draws a digest that no other call makes. -/
theorem draws_of_call {request : SessionRequest} {now : ℚ} (allowed : request.Allowed state now)
    {stage : CreateStage} {session : SsoSession} (made : request.call = .creating stage session) :
    stage = .document ∧ session.sessionDigest ∉ state.drawn ∧
      session.expiresAt ≤ now + maxSessionTtlSeconds ∧
      request.draws = some session.sessionDigest := by
  cases request with
  | create asked =>
      cases made
      exact ⟨rfl, allowed.1, allowed.2, rfl⟩
  | get _ | touch _ _ | delete _ | deleteForSubject _ => cases made

theorem forward_of_begun {id : Nat} {request : SessionRequest} {now : ℚ}
    (order : state.clock ≤ now) (allowed : request.Allowed state now) :
    Forward state { state with
      calls := dictSet state.calls id request.call
      drawn := request.draws.toList ++ state.drawn
      clock := now } := by
  have written : ∀ digest, Written state digest → Written { state with
      calls := dictSet state.calls id request.call
      drawn := request.draws.toList ++ state.drawn
      clock := now } digest := by
    rintro digest ⟨drawn, past⟩
    refine ⟨List.mem_append_right _ drawn, fun other session found => ?_⟩
    dsimp only at found
    rw [dictGet_dictSet] at found
    split at found
    · obtain ⟨-, fresh, -⟩ := draws_of_call allowed (Option.some.inj found)
      exact fun same => fresh (same ▸ drawn)
    · exact past other session found
  exact ⟨order, fun digest member => List.mem_append_right _ member, written, fun digest gone =>
    ⟨written digest gone.1, ExpiringDict.read_eq_none_later order gone.2⟩⟩

namespace Books

/-- A new call keeps the books. -/
theorem begin (books : Books state) {id : Nat} {request : SessionRequest} {now : ℚ}
    (order : state.clock ≤ now) (allowed : request.Allowed state now) :
    Books { state with
      calls := dictSet state.calls id request.call
      drawn := request.draws.toList ++ state.drawn
      clock := now } := by
  have forward := @forward_of_begun state id request now order allowed
  have unstored : ∀ digest, digest ∉ state.drawn → dictGet state.documents digest = none := by
    intro digest fresh
    cases found : dictGet state.documents digest with
    | none => rfl
    | some entry => exact absurd (books.stored digest entry.1 entry.2 found).2.1.1 fresh
  constructor
  · intro first second stage otherStage session otherSession found there same
    dsimp only at found there
    rw [dictGet_dictSet] at found there
    split at found
    · rename_i here
      split at there
      · rename_i too
        exact here.symm.trans too
      · obtain ⟨-, fresh, -⟩ := draws_of_call allowed (Option.some.inj found)
        exact absurd (same ▸ (books.lawful second _ there).1) fresh
    · split at there
      · obtain ⟨-, fresh, -⟩ := draws_of_call allowed (Option.some.inj there)
        exact absurd (same ▸ (books.lawful first _ found).1) fresh
      · exact books.apart _ _ _ _ _ _ found there same
  · intro other call found
    dsimp only at found
    rw [dictGet_dictSet] at found
    split at found
    · cases found
      cases request with
      | create session =>
          refine ⟨List.mem_append_left _ (List.mem_singleton.mpr rfl), allowed.2,
            fun _ => unstored _ allowed.1, fun held deadline there => ?_⟩
          rw [unstored _ allowed.1] at there
          cases there
      | get _ | touch _ _ | delete _ | deleteForSubject _ => trivial
    · exact forward.lawful (books.lawful other call found) fun _ _ _ _ there => there
  · intro digest session deadline found
    obtain ⟨own, written, limit, until_, bound⟩ := books.stored digest session deadline found
    exact ⟨own, forward.written _ written, limit, until_, by linarith [forward.clock]⟩
  · exact fun subject held deadline digest found member =>
      forward.written _ (books.entries subject held deadline digest found member)

/-- A step keeps the books. -/
theorem step (books : Books state) {action : SessionAction}
    (stepped : sessionStep idleTimeout state action = some (next, new)) : Books next := by
  cases action with
  | begins id request now =>
      obtain ⟨-, order, allowed, -, rfl⟩ := begun_of_step stepped
      exact books.begin order allowed
  | runs id now members =>
      obtain ⟨call, ran⟩ := ran_of_step stepped
      exact books.run ran

end Books

/-- A step leads to a later state. -/
theorem forward_of_step {action : SessionAction}
    (stepped : sessionStep idleTimeout state action = some (next, new)) : Forward state next := by
  cases action with
  | begins id request now =>
      obtain ⟨-, order, allowed, -, rfl⟩ := begun_of_step stepped
      exact forward_of_begun order allowed
  | runs id now members =>
      obtain ⟨call, ran⟩ := ran_of_step stepped
      exact ran.forward

end QueryGate.RedisSessions
