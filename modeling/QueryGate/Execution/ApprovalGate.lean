import QueryGate.Compiler.Compile
import QueryGate.Execution.ApprovalToken
import QueryGate.Execution.Fingerprint
import QueryGate.Execution.Sensitivity
import QueryGate.Execution.WriteExecution

/-! # The approval gates

`_enforce_approval_gate` of `execution/service.py` with `approval_required_reasons`, beside
the write gate of `WriteExecutionService`. Both ask for a token bound to the fingerprint of
the request, and every call of `issue_approval_token` passes the fingerprint of a submitted
request. So what a gate lets pass on a token is the request that was approved.
-/

namespace QueryGate

open Foundation

/-! ## The read gate -/

/-- `QueryCostEstimate`. -/
structure QueryCostEstimate where
  estimatedRows : Option Int := none
  estimatedTotalCost : Option ℚ := none

/-- The fields of a policy that the approval gate reads. -/
structure ApprovalPolicy where
  maxEstimatedRows : Option Int := none
  maxEstimatedCost : Option ℚ := none
  sensitivities : List SensitivityClass := []

/-- `approval_gate_enabled`. -/
def ApprovalPolicy.gateEnabled (policy : ApprovalPolicy) : Bool :=
  (policy.maxEstimatedRows.isSome || policy.maxEstimatedCost.isSome) ||
    !policy.sensitivities.isEmpty

/-- A refusal of the gate. -/
inductive GateFailure where
  | rejected (error : GateError)
  | raised (cause : ApprovalTokens.Raised)
  | approvalRequired (message fingerprint : String) (reasons : List String)

/-- `StructuredQueryService`, with what the gate looks up. `fixed` spells a number without
its fraction (`:.0f`). -/
structure ReadApprovals (F : Type) where
  connectionId : String
  principalSubject : Option String
  store : CatalogStore
  key : String
  fingerprints : FingerprintRuntime
  tokens : ApprovalTokens.TokenRuntime F
  fixed : ℚ → String

/-- `approval_required_reasons`. -/
def approvalRequiredReasons (fixed : ℚ → String) (estimate : QueryCostEstimate)
    (policy : ApprovalPolicy) : List String :=
  let rows := match policy.maxEstimatedRows, estimate.estimatedRows with
    | some threshold, some rows =>
        if threshold < rows then
          [s!"estimated rows ({rows}) exceeds approval threshold ({threshold})"]
        else []
    | _, _ => []
  let cost := match policy.maxEstimatedCost, estimate.estimatedTotalCost with
    | some threshold, some cost =>
        if threshold < cost then
          [s!"estimated planner cost ({fixed cost}) exceeds approval " ++
            s!"threshold ({fixed threshold})"]
        else []
    | _, _ => []
  rows ++ cost

namespace ReadApprovals

variable {F : Type} (service : ReadApprovals F)

/-- What the gate asks approval for. -/
def reasons (estimate : Option QueryCostEstimate) (policy : ApprovalPolicy)
    (query : StructuredQuery) (connections : ScopeConnections) : Gate (List String) := do
  let sensitive ← sensitivityApprovalReasons service.store policy.sensitivities
    service.connectionId connections query
  pure (sensitive ++ estimate.toList.flatMap fun estimate =>
    approvalRequiredReasons service.fixed estimate policy)

/-- What a token is checked against. -/
def tokenCheck (query : StructuredQuery) (now : ℚ) : ApprovalTokens.TokenCheck where
  fingerprint := queryFingerprint service.fingerprints query
  connectionId := some service.connectionId
  principalSubject := service.principalSubject
  now := now

/-- `_enforce_approval_gate`. -/
def enforceApprovalGate (estimate : Option QueryCostEstimate) (policy : ApprovalPolicy)
    (query : StructuredQuery) (token : Option String) (connections : ScopeConnections)
    (now : ℚ) : Except GateFailure Unit :=
  if policy.gateEnabled then do
    let reasons ← (service.reasons estimate policy query connections).mapError .rejected
    if reasons.isEmpty then
      pure ()
    else
      let approved ← (ApprovalTokens.verifyApprovalToken service.tokens (token.getD "") service.key
        (service.tokenCheck query now)).mapError .raised
      if approved then
        pure ()
      else
        throw (.approvalRequired
          ("This query requires human approval before it can run: " ++
            String.intercalate "; " reasons)
          (queryFingerprint service.fingerprints query) reasons)
  else
    pure ()

end ReadApprovals

/-! ## What was approved -/

/-- A call of `issue_approval_token`, with the request it was made for. -/
structure Approval (fingerprints : FingerprintRuntime) where
  request : Request
  issue : ApprovalTokens.ApprovalIssue
  bound : issue.fingerprint = request.fingerprint fingerprints

/-- The calls of `issue_approval_token`. -/
def issuesOf {fingerprints : FingerprintRuntime} (approvals : Set (Approval fingerprints)) :
    Set ApprovalTokens.ApprovalIssue :=
  Set.image Approval.issue approvals

/-- The request was approved: a grant was issued for it, up to the order of keys in rows and
literals, to this caller. -/
def Approved {fingerprints : FingerprintRuntime} (approvals : Set (Approval fingerprints))
    (key : String) (check : ApprovalTokens.TokenCheck) (request : Request) : Prop :=
  ∃ approval ∈ approvals, approval.request.sortLiterals = request.sortLiterals ∧
    ApprovalTokens.Grants approval.issue key check

variable {F : Type} {fingerprints : FingerprintRuntime} {tokens : ApprovalTokens.TokenRuntime F}

/-- An accepted token was issued for the request whose fingerprint it is checked against. -/
theorem approved_of_accepted (sound : fingerprints.Sound) (tokensSound : tokens.Sound)
    {approvals : Set (Approval fingerprints)} {request : Request}
    (json : isJson request.dump = true)
    (approvedJson : ∀ approval ∈ approvals, isJson approval.request.dump = true)
    {token key : String} {check : ApprovalTokens.TokenCheck}
    (wanted : check.fingerprint = request.fingerprint fingerprints)
    (unforged : ApprovalTokens.Unforged tokens (issuesOf approvals) token key)
    (accepted : ApprovalTokens.verifyApprovalToken tokens token key check = .ok true) :
    Approved approvals key check request := by
  obtain ⟨_, issue, ⟨approval, inside, rfl⟩, grants, _⟩ :=
    ApprovalTokens.spelled_of_accepted tokensSound unforged accepted
  have same : approval.request.fingerprint fingerprints = request.fingerprint fingerprints := by
    rw [← approval.bound, grants.fingerprint, wanted]
  exact ⟨approval, inside, Request.sortLiterals_eq_of_fingerprint sound
    (approvedJson approval inside) json same, grants⟩

/-- A query that passes the read gate with something to ask about has an accepted token. -/
theorem ReadApprovals.accepted_of_passed (service : ReadApprovals F)
    {estimate : Option QueryCostEstimate} {policy : ApprovalPolicy} {query : StructuredQuery}
    {token : Option String} {connections : ScopeConnections} {now : ℚ}
    (enabled : policy.gateEnabled = true)
    {reasons : List String}
    (asked : service.reasons estimate policy query connections = .ok reasons)
    (something : reasons ≠ [])
    (passed : service.enforceApprovalGate estimate policy query token connections now = .ok ()) :
    ApprovalTokens.verifyApprovalToken service.tokens (token.getD "") service.key
      (service.tokenCheck query now) = .ok true := by
  rw [enforceApprovalGate, if_pos enabled, asked, bind_eq_ok_iff] at passed
  obtain ⟨found, same, passed⟩ := passed
  cases same
  rw [if_neg (mt List.isEmpty_iff.mp something), bind_eq_ok_iff] at passed
  obtain ⟨approved, verified, passed⟩ := passed
  cases approved with
  | false => cases passed
  | true =>
      cases outcome : ApprovalTokens.verifyApprovalToken service.tokens (token.getD "") service.key
          (service.tokenCheck query now) with
      | error cause =>
          rw [outcome] at verified
          cases verified
      | ok accepted =>
          rw [outcome] at verified
          cases verified
          rfl

/-- What a write's token is checked against. -/
def WriteExecutionService.tokenCheck (service : WriteExecutionService) (statement : WriteStatement)
    (now : Int) : ApprovalTokens.TokenCheck where
  fingerprint := service.fingerprint statement
  connectionId := some service.connectionId
  principalSubject := service.principalSubject
  now := now

/-- A write that passes the write gate over the threshold has an accepted token. -/
theorem WriteExecutionService.accepted_of_passed (service : WriteExecutionService)
    (tokensSound : tokens.Sound) {key : String}
    (opens : service.openToken = ApprovalTokens.openClaims tokens key)
    {statement : WriteStatement} {affected : Int} {token : Option String} {now : Int}
    {issued : Set ApprovalTokens.ApprovalIssue}
    (unforged : ∀ text, token = some text → ApprovalTokens.Unforged tokens issued text key)
    (asked : service.needsApproval affected = true)
    (passed : service.enforceWriteApprovalGate statement affected token now = .ok ()) :
    ∃ text, token = some text ∧ ApprovalTokens.verifyApprovalToken tokens text key
      (service.tokenCheck statement now) = .ok true := by
  have approved : service.approved statement token now = true := by
    by_contra missing
    rw [Bool.not_eq_true] at missing
    rw [enforceWriteApprovalGate, asked, missing] at passed
    cases passed
  cases token with
  | none => cases approved
  | some text =>
      refine ⟨text, rfl, ?_⟩
      rw [WriteExecutionService.approved, Option.any_some, Bool.and_eq_true, tokenValid, opens]
        at approved
      have agrees := ApprovalTokens.verifyApprovalToken_eq_claims tokensSound (unforged text rfl)
        (service.fingerprint statement) (some service.connectionId) service.principalSubject
        .grant now
      rw [approved.2] at agrees
      exact agrees

/-- What a fingerprint promises. Queries with one fingerprint, and writes with one, are the
same up to the order of keys in rows and literals, and no query shares one with a write. As
JSON values, whose objects have no order, requests with one fingerprint are equal and compile
to one statement. What a gate lets pass on a token is the request the token was issued for. -/
structure ApprovalBindsOne (fingerprints : FingerprintRuntime)
    (tokens : ApprovalTokens.TokenRuntime F) : Prop where
  reads : ∀ {first second : StructuredQuery}, isJson first.dump = true →
    isJson second.dump = true →
    queryFingerprint fingerprints first = queryFingerprint fingerprints second →
    first.sortLiterals = second.sortLiterals
  writes : ∀ {first second : WriteStatement}, isJson first.dump = true →
    isJson second.dump = true →
    writeFingerprint fingerprints first = writeFingerprint fingerprints second →
    first.sortLiterals = second.sortLiterals
  apart : ∀ {query : StructuredQuery} {statement : WriteStatement}, isJson query.dump = true →
    isJson statement.dump = true →
    queryFingerprint fingerprints query ≠ writeFingerprint fingerprints statement
  injective : Function.Injective fun json : JsonRequest => json.request.fingerprint fingerprints
  compiledRead : ∀ {first second : StructuredQuery}, isJson first.dump = true →
    isJson second.dump = true →
    queryFingerprint fingerprints first = queryFingerprint fingerprints second →
    ∀ adapter context policy reflected connections snapshot,
      compileStructuredQuery adapter context first.sortLiterals policy reflected connections
          snapshot =
        compileStructuredQuery adapter context second.sortLiterals policy reflected connections
          snapshot
  compiledWrite : ∀ {first second : WriteStatement}, isJson first.dump = true →
    isJson second.dump = true →
    writeFingerprint fingerprints first = writeFingerprint fingerprints second →
    ∀ adapter dialect table, compileWrite adapter dialect first.sortLiterals table =
      compileWrite adapter dialect second.sortLiterals table
  readGate : ∀ (service : ReadApprovals F) {approvals : Set (Approval fingerprints)}
    {estimate : Option QueryCostEstimate} {policy : ApprovalPolicy} {query : StructuredQuery}
    {token : Option String} {connections : ScopeConnections} {now : ℚ} {reasons : List String},
    service.fingerprints = fingerprints → service.tokens = tokens → isJson query.dump = true →
    (∀ approval ∈ approvals, isJson approval.request.dump = true) →
    ApprovalTokens.Unforged tokens (issuesOf approvals) (token.getD "") service.key →
    policy.gateEnabled = true →
    service.reasons estimate policy query connections = .ok reasons → reasons ≠ [] →
    service.enforceApprovalGate estimate policy query token connections now = .ok () →
    Approved approvals service.key (service.tokenCheck query now) (.read query)
  writeGate : ∀ (service : WriteExecutionService) {approvals : Set (Approval fingerprints)}
    {statement : WriteStatement} {affected : Int} {token : Option String} {now : Int}
    {key : String},
    service.fingerprint = writeFingerprint fingerprints →
    service.openToken = ApprovalTokens.openClaims tokens key → isJson statement.dump = true →
    (∀ approval ∈ approvals, isJson approval.request.dump = true) →
    (∀ text, token = some text → ApprovalTokens.Unforged tokens (issuesOf approvals) text key) →
    service.needsApproval affected = true →
    service.enforceWriteApprovalGate statement affected token now = .ok () →
    Approved approvals key (service.tokenCheck statement now) (.write statement)

/-- A digest that spells the text, and numbers spelled by their bits. -/
def plainFingerprints : FingerprintRuntime where
  sha256 := fun bytes => String.ofList (unpaddedB64 bytes)
  format :=
    { text := fun value => Nat.toDigits 10 value.bits.toNat ++ ['.', '0']
      read := fun text =>
        some ⟨UInt64.ofNat (Nat.ofDigitChars 10 text.dropLast.dropLast 0)⟩ }

theorem plainFingerprints_sound : plainFingerprints.Sound where
  injective := fun _ _ same => unpaddedB64_injective (String.ofList_injective same)
  floats := fun value _ => by
    have digits : ∀ letter ∈ Nat.toDigits 10 value.bits.toNat, letter.isDigit = true :=
      fun letter member => Nat.isDigit_of_mem_toDigits (by decide) (by decide) member
    have unsigned : dropMinus (Nat.toDigits 10 value.bits.toNat ++ ['.', '0']) =
        Nat.toDigits 10 value.bits.toNat ++ ['.', '0'] := by
      unfold dropMinus
      split
      · rename_i rest same
        cases first : Nat.toDigits 10 value.bits.toNat with
        | nil =>
            rw [first] at same
            cases same
        | cons letter more =>
            rw [first] at same
            cases same
            exact absurd first (head_toDigits_ne_minus _ more)
      · rfl
    constructor
    · refine .inl ⟨?_, fun letter member => ?_⟩
      · change isFloatToken (Nat.toDigits 10 value.bits.toNat ++ ['.', '0']) = true
        rw [isFloatToken, unsigned, List.takeWhile_append_of_pos digits,
          List.dropWhile_append_of_pos digits]
        simp only [Char.isDigit, List.takeWhile_cons, List.dropWhile_cons]
        rw [Bool.and_eq_true, Bool.and_eq_true]
        refine ⟨⟨?_, rfl⟩, rfl⟩
        exact (List.append_nil (Nat.toDigits 10 value.bits.toNat)).symm ▸ isWhole_toDigits _
      · rcases List.mem_append.mp member with digit | tail
        · exact isNumberChar_of_isDigit (digits letter digit)
        · rcases List.mem_cons.mp tail with rfl | last
          · rfl
          · rw [List.mem_singleton.mp last]
            rfl
    · change some (PyFloat.mk (UInt64.ofNat (Nat.ofDigitChars 10
        (Nat.toDigits 10 value.bits.toNat ++ ['.', '0']).dropLast.dropLast 0))) = some value
      have front : (Nat.toDigits 10 value.bits.toNat ++ ['.', '0']).dropLast.dropLast =
          Nat.toDigits 10 value.bits.toNat := by
        rw [List.append_cons, List.dropLast_concat, List.dropLast_concat]
      rw [front, Nat.ofDigitChars_ten_toDigits, UInt64.ofNat_toNat]

/-- The names of the customers of a region. -/
def customersOf (region : String) : StructuredQuery where
  fromTable := "customers"
  select := [.bare "customers.name"]
  where_ := some (.predicate
    { col := some "customers.region", op := .eq, value := .str region })

end QueryGate
