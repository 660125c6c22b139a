import Mathlib.Data.Rat.Floor
import QueryGate.Foundation.ExpiringDict
import QueryGate.Foundation.Runs

/-! # Browser sessions in Redis

`RedisSessionStore` of `identity/redis_sessions.py`, used by any number of replicas. A session is
a document and its last use, each under a key of its digest, and its digest is listed under its
subject. A call is a sequence of commands on one key each, and any other call may run between two
of them. Redis can be reached; a call whose replica stops is one that does not go on.
-/

namespace QueryGate.RedisSessions

open Foundation

/-! ## Sessions -/

/-- `SsoSession`. `content` is what the store hands back unread: the provider, the claims, the
CSRF token and the display fields. -/
structure SsoSession where
  sessionDigest : String
  subject : String
  content : String := ""
  expiresAt : ℚ
  lastSeenAt : ℚ
  deriving DecidableEq, Repr

/-- `SsoSession.is_expired`. -/
def SsoSession.isExpired (session : SsoSession) (now idleTimeout : ℚ) : Bool :=
  if session.expiresAt ≤ now then true
  else if 0 < idleTimeout then decide (idleTimeout < now - session.lastSeenAt)
  else false

/-- `INDEX_TTL_SECONDS`. -/
def indexTtlSeconds : ℚ := 60 * 60 * 24 * 31

/-- The bound of `session_ttl_seconds` in `IdentitySettings`. -/
def maxSessionTtlSeconds : ℚ := 2592000

/-- `_ttl`: whole seconds, at least one. -/
def ttlOf (expiresAt now : ℚ) : ℤ :=
  max 1 (if 0 ≤ expiresAt - now then ⌊expiresAt - now⌋ else ⌈expiresAt - now⌉)

/-! ## Calls -/

/-- The answer of a call. -/
inductive SessionAnswer where
  | created (session : SsoSession)
  | got (session : Option SsoSession)
  | touched
  | deleted (sessionDigest : String)
  | revoked (subject : String) (removed : Nat)
  deriving DecidableEq, Repr

/-- The next command of `create`. -/
inductive CreateStage where
  | document | seen | listing | expiring
  deriving DecidableEq, Repr

/-- A call before its next command, with what it has read. `delete` may be the end of a `get` that
has found its session expired. -/
inductive SessionCall where
  | creating (stage : CreateStage) (session : SsoSession)
  | getting (sessionDigest : String)
  | gettingSeen (sessionDigest : String) (raw : Option SsoSession)
  | touching (sessionDigest : String) (seenAt : ℚ)
  | touchingSeen (sessionDigest : String) (seenAt : ℚ) (ttl : ℤ)
  | deleting (sessionDigest : String) (expired : Bool)
  | deletingDocument (sessionDigest : String) (raw : Option SsoSession) (expired : Bool)
  | deletingSeen (sessionDigest : String) (raw : Option SsoSession) (expired : Bool)
  | unlisting (sessionDigest subject : String) (expired : Bool)
  | revoking (subject : String)
  | revokingDocuments (subject : String) (members rest : List String) (removed : Nat)
  | revokingSeen (subject : String) (members : List String) (sessionDigest : String)
      (rest : List String) (removed : Nat)
  deriving DecidableEq, Repr

/-- The keys of the store in Redis, the calls on their way, the digests that sessions were made
with, and the clock. -/
structure SessionState where
  documents : ExpiringDict String SsoSession ℚ := []
  seen : ExpiringDict String ℚ ℚ := []
  subjects : ExpiringDict String (List String) ℚ := []
  calls : List (Nat × SessionCall) := []
  drawn : List String := []
  clock : ℚ

namespace SessionState

/-- The digests listed under a subject, at an instant. -/
def listed (state : SessionState) (now : ℚ) (subject : String) : List String :=
  (state.subjects.read now subject).getD []

/-- The deadline of a subject's list, where there is one. -/
def listDeadline (state : SessionState) (now : ℚ) (subject : String) : Option ℚ :=
  match dictGet state.subjects subject with
  | some (_, deadline) => if AliveAt now deadline then deadline else none
  | none => none

/-- `SADD`: a list that was there keeps its deadline. -/
def addListed (state : SessionState) (now : ℚ) (subject sessionDigest : String) : SessionState :=
  { state with
    subjects := state.subjects.write subject
      (if sessionDigest ∈ state.listed now subject then state.listed now subject
        else state.listed now subject ++ [sessionDigest])
      (state.listDeadline now subject) }

/-- `EXPIRE`: a key that is not there stays so. -/
def expireListed (state : SessionState) (now : ℚ) (subject : String) : SessionState :=
  match state.subjects.read now subject with
  | none => state
  | some members =>
      { state with subjects := state.subjects.write subject members (some (now + indexTtlSeconds)) }

/-- `SREM`: a list that is left empty goes with its key. -/
def removeListed (state : SessionState) (now : ℚ) (subject sessionDigest : String) : SessionState :=
  let rest := (state.listed now subject).filter (· ≠ sessionDigest)
  { state with
    subjects := if rest = [] then state.subjects.drop subject
      else state.subjects.write subject rest (state.listDeadline now subject) }

/-- `TTL` of a session's document, rounded to seconds; a missing key has -2. -/
def documentTtl (state : SessionState) (now : ℚ) (sessionDigest : String) : ℤ :=
  match dictGet state.documents sessionDigest with
  | some (_, some deadline) =>
      if now < deadline then (⌊(deadline - now) * 1000⌋ + 500) / 1000 else -2
  | some (_, none) => -1
  | none => -2

end SessionState

/-- What a command leads to: the rest of its call, or the answer. -/
abbrev CommandResult := SessionState × Except SessionAnswer SessionCall

/-- A document with the last use that is kept apart from it. -/
def withSeen (raw : SsoSession) (seen : Option ℚ) : SsoSession :=
  match seen with
  | some seenAt => { raw with lastSeenAt := seenAt }
  | none => raw

/-- The end of `get`, once both keys are read. -/
def getResult (sessionDigest : String) (raw : Option SsoSession) (seen : Option ℚ)
    (now idleTimeout : ℚ) : Except SessionAnswer SessionCall :=
  match raw with
  | none => .error (.got none)
  | some document =>
      if (withSeen document seen).isExpired now idleTimeout then
        .ok (.deleting sessionDigest true)
      else .error (.got (some (withSeen document seen)))

/-- The answer of `delete`, or of the `get` that it ends. -/
def deleteAnswer (sessionDigest : String) (expired : Bool) : SessionAnswer :=
  if expired then .got none else .deleted sessionDigest

/-- The next command of a call. `SMEMBERS` answers in any order, which `members` gives. -/
def runCommand (idleTimeout : ℚ) (state : SessionState) (now : ℚ) (members : List String) :
    SessionCall → CommandResult
  | .creating .document session =>
      ({ state with
          documents := state.documents.write session.sessionDigest session
            (some (now + ttlOf session.expiresAt now)) },
        .ok (.creating .seen session))
  | .creating .seen session =>
      ({ state with
          seen := state.seen.write session.sessionDigest session.lastSeenAt
            (some (now + ttlOf session.expiresAt now)) },
        .ok (.creating .listing session))
  | .creating .listing session =>
      (state.addListed now session.subject session.sessionDigest,
        .ok (.creating .expiring session))
  | .creating .expiring session =>
      (state.expireListed now session.subject, .error (.created session))
  | .getting sessionDigest =>
      (state, .ok (.gettingSeen sessionDigest (state.documents.read now sessionDigest)))
  | .gettingSeen sessionDigest raw =>
      (state, getResult sessionDigest raw (state.seen.read now sessionDigest) now idleTimeout)
  | .touching sessionDigest seenAt =>
      (state, .ok (.touchingSeen sessionDigest seenAt (state.documentTtl now sessionDigest)))
  | .touchingSeen sessionDigest seenAt ttl =>
      ({ state with
          seen := state.seen.write sessionDigest seenAt
            (if 0 < ttl then some (now + ttl) else none) },
        .error .touched)
  | .deleting sessionDigest expired =>
      (state, .ok (.deletingDocument sessionDigest (state.documents.read now sessionDigest) expired))
  | .deletingDocument sessionDigest raw expired =>
      ({ state with documents := state.documents.drop sessionDigest },
        .ok (.deletingSeen sessionDigest raw expired))
  | .deletingSeen sessionDigest raw expired =>
      ({ state with seen := state.seen.drop sessionDigest },
        match raw with
        | some document =>
            if document.subject = "" then .error (deleteAnswer sessionDigest expired)
            else .ok (.unlisting sessionDigest document.subject expired)
        | none => .error (deleteAnswer sessionDigest expired))
  | .unlisting sessionDigest subject expired =>
      (state.removeListed now subject sessionDigest, .error (deleteAnswer sessionDigest expired))
  | .revoking subject => (state, .ok (.revokingDocuments subject members members 0))
  | .revokingDocuments subject read (sessionDigest :: rest) removed =>
      ({ state with documents := state.documents.drop sessionDigest },
        .ok (.revokingSeen subject read sessionDigest rest
          (if (state.documents.read now sessionDigest).isSome then removed + 1 else removed)))
  | .revokingDocuments subject _ [] removed =>
      ({ state with subjects := state.subjects.drop subject }, .error (.revoked subject removed))
  | .revokingSeen subject read sessionDigest rest removed =>
      ({ state with seen := state.seen.drop sessionDigest },
        .ok (.revokingDocuments subject read rest removed))

/-! ## Runs -/

/-- A call of the store. -/
inductive SessionRequest where
  | create (session : SsoSession)
  | get (sessionDigest : String)
  | touch (sessionDigest : String) (seenAt : ℚ)
  | delete (sessionDigest : String)
  | deleteForSubject (subject : String)
  deriving DecidableEq, Repr

/-- A call before its first command. -/
def SessionRequest.call : SessionRequest → SessionCall
  | .create session => .creating .document session
  | .get sessionDigest => .getting sessionDigest
  | .touch sessionDigest seenAt => .touching sessionDigest seenAt
  | .delete sessionDigest => .deleting sessionDigest false
  | .deleteForSubject subject => .revoking subject

/-- The digest that a call makes a session with. -/
def SessionRequest.draws : SessionRequest → Option String
  | .create session => some session.sessionDigest
  | _ => none

/-- A request may be made: a session is made with a digest that no other has, and lasts no longer
than the settings allow. -/
def SessionRequest.Allowed (state : SessionState) (now : ℚ) : SessionRequest → Prop
  | .create session =>
      session.sessionDigest ∉ state.drawn ∧ session.expiresAt ≤ now + maxSessionTtlSeconds
  | _ => True

instance (state : SessionState) (now : ℚ) : DecidablePred (SessionRequest.Allowed state now)
  | .create _ => inferInstanceAs (Decidable (_ ∧ _))
  | .get _ => inferInstanceAs (Decidable True)
  | .touch _ _ => inferInstanceAs (Decidable True)
  | .delete _ => inferInstanceAs (Decidable True)
  | .deleteForSubject _ => inferInstanceAs (Decidable True)

/-- What happens: a call is made, or goes on with its next command. -/
inductive SessionAction where
  | begins (id : Nat) (request : SessionRequest) (now : ℚ)
  | runs (id : Nat) (now : ℚ) (members : List String)
  deriving DecidableEq, Repr

/-- What `SMEMBERS` answers is the list of its subject. -/
def MembersAnswer (state : SessionState) (now : ℚ) (members : List String) : SessionCall → Prop
  | .revoking subject => members.Perm (state.listed now subject)
  | _ => True

instance (state : SessionState) (now : ℚ) (members : List String) :
    DecidablePred (MembersAnswer state now members)
  | .revoking _ => inferInstanceAs (Decidable (List.Perm _ _))
  | .creating _ _ => inferInstanceAs (Decidable True)
  | .getting _ => inferInstanceAs (Decidable True)
  | .gettingSeen _ _ => inferInstanceAs (Decidable True)
  | .touching _ _ => inferInstanceAs (Decidable True)
  | .touchingSeen _ _ _ => inferInstanceAs (Decidable True)
  | .deleting _ _ => inferInstanceAs (Decidable True)
  | .deletingDocument _ _ _ => inferInstanceAs (Decidable True)
  | .deletingSeen _ _ _ => inferInstanceAs (Decidable True)
  | .unlisting _ _ _ => inferInstanceAs (Decidable True)
  | .revokingDocuments _ _ _ _ => inferInstanceAs (Decidable True)
  | .revokingSeen _ _ _ _ _ => inferInstanceAs (Decidable True)

/-- A call after one of its commands: it goes on, or is answered. -/
def SessionState.settle (id : Nat) (result : CommandResult) :
    SessionState × List (Nat × SessionAnswer) :=
  match result.2 with
  | .ok call => ({ result.1 with calls := dictSet result.1.calls id call }, [])
  | .error answer =>
      ({ result.1 with calls := result.1.calls.filter fun entry => entry.1 ≠ id }, [(id, answer)])

/-- One step, where it can happen; it shows the answer of the call that it ends. -/
def sessionStep (idleTimeout : ℚ) (state : SessionState) :
    SessionAction → Option (SessionState × List (Nat × SessionAnswer))
  | .begins id request now =>
      match dictGet state.calls id with
      | some _ => none
      | none =>
          if state.clock ≤ now ∧ request.Allowed state now then
            some ({ state with
              calls := dictSet state.calls id request.call
              drawn := request.draws.toList ++ state.drawn
              clock := now }, [])
          else none
  | .runs id now members =>
      match dictGet state.calls id with
      | none => none
      | some call =>
          if state.clock ≤ now ∧ MembersAnswer state now members call then
            some (SessionState.settle id
              (runCommand idleTimeout { state with clock := now } now members call))
          else none

end QueryGate.RedisSessions
