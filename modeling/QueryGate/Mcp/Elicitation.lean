import QueryGate.Execution.ApprovalToken

/-! # Approvals inside a session

`mcp/elicitation.py`: a tool call that trips the approval gate answers with a pending token
for each item, and the retry brings them back with the responses of the client. Everything
a retry carries is the client's own text. The clock is read anew at each slot.
-/

namespace QueryGate.Elicitation

open Foundation ApprovalTokens

/-- `_PENDING_STATE_TTL_SECONDS`. -/
def pendingStateTtlSeconds : Int := 300

/-- `_PENDING_SUBJECT`. -/
def pendingSubject : String := "mcp:pending-elicitation"

/-- The caller and the connection of a tool call, with `mcp_elicitation_approval_enabled` and
`approval_token_hmac_key`. -/
structure ToolCall where
  elicitationEnabled : Bool := true
  key : String
  subject : String
  connectionId : String
  deriving DecidableEq, Repr

/-- An item of a batch that needs approval. -/
structure GatedItem where
  slot : String
  fingerprint : String
  reasons : List String
  deriving DecidableEq, Repr

/-- `InputRequiredResult`: the message for each slot, and the state the client brings back. -/
structure InputRequired where
  inputRequests : List (String × String)
  requestState : String
  deriving DecidableEq, Repr

/-- A response of the client: `ElicitResult`, or any other object. -/
inductive InputResponse (F : Type) where
  | elicitResult (action : String) (content : Option (List (String × Json F)))
  | other

/-- What a retry carries, the fingerprints of the batch it resubmits, and the readings of the
clock at each slot. -/
structure Retry (F : Type) where
  requestState : Option String
  inputResponses : List (String × InputResponse F)
  fingerprintsByKey : List (String × String)
  checkedAt : String → ℚ
  grantedAt : String → ℚ

/-- A pending token that the server minted. -/
structure Ask where
  key : String
  fingerprint : String
  subject : String
  connectionId : String
  now : ℚ
  deriving DecidableEq, Repr

/-- The call of `issue_approval_token` for a pending token. -/
def Ask.issue (ask : Ask) : ApprovalIssue where
  fingerprint := ask.fingerprint
  approverSubject := pendingSubject
  key := ask.key
  connectionId := some ask.connectionId
  principalSubject := some ask.subject
  kind := tokenKindPending
  ttlSeconds := pendingStateTtlSeconds
  now := ask.now

/-- What an item of a call asks. -/
def ToolCall.ask (call : ToolCall) (fingerprint : String) (now : ℚ) : Ask where
  key := call.key
  fingerprint := fingerprint
  subject := call.subject
  connectionId := call.connectionId
  now := now

/-- The call of `issue_approval_token` for a grant. -/
def ToolCall.grant (call : ToolCall) (fingerprint : String) (now : ℚ) : ApprovalIssue where
  fingerprint := fingerprint
  approverSubject := "mcp-elicitation:" ++ call.subject
  key := call.key
  connectionId := some call.connectionId
  principalSubject := some call.subject
  now := now

/-- What a pending token is checked against. -/
def ToolCall.pendingCheck (call : ToolCall) (fingerprint : String) (now : ℚ) : TokenCheck where
  fingerprint := fingerprint
  connectionId := some call.connectionId
  principalSubject := some call.subject
  expectedKind := tokenKindPending
  now := now

/-- The channel is on: the operator opted in, and there is a key. -/
def ToolCall.enabled (call : ToolCall) : Bool :=
  call.elicitationEnabled && call.key != ""

/-- `_is_approved`. -/
def isApproved {F : Type} : Option (InputResponse F) → Bool
  | some (.elicitResult action (some content)) =>
      action == "accept" &&
        match dictGet content "approve" with
        | some (.bool approve) => approve
        | _ => false
  | _ => false

section Calls

variable {F : Type} (runtime : TokenRuntime F)

/-- The message of a gated item. -/
def GatedItem.message (item : GatedItem) : String :=
  let reasonText :=
    if item.reasons.isEmpty then "policy requires approval"
    else String.intercalate "; " item.reasons
  "This operation needs human approval before it runs " ++
    s!"({reasonText}). Approve this one-time execution?"

/-- `build_pending_input_required`. -/
def buildPendingInputRequired (call : ToolCall) (items : List GatedItem)
    (issuedAt : String → ℚ) : Except Raised (Option InputRequired) :=
  if !call.enabled || items.isEmpty then .ok none
  else do
    let pendingTokens ← mapAll (fun item : GatedItem => do
      let token ← issueApprovalToken runtime (call.ask item.fingerprint (issuedAt item.slot)).issue
      pure (item.slot, Json.str token)) items
    pure (some
      { inputRequests := dictOf (items.map fun item => (item.slot, item.message))
        requestState := String.ofList
          (dumps runtime.format jsonChar (sortKeys (.dict (dictOf pendingTokens)))) })

/-- `json.loads` of a text. -/
def loadsText (text : String) : Except Raised (Json F) :=
  if runtime.tooDeep text.toList then .error .recursionError
  else
    match loads runtime.format text.toList with
    | none => .error .valueError
    | some value => .ok value

/-- The loop's variables: the grants by fingerprint, and the fingerprints declined. -/
structure Resolution where
  resolved : List (String × String) := []
  declined : List String := []
  deriving DecidableEq, Repr

variable (call : ToolCall) (retry : Retry F)

/-- The entry of a slot in the state is a pending token for the item's fingerprint. -/
def pendingHolds (pendingTokens : List (String × Json F)) (slot : String × String) :
    Except Raised Bool :=
  match dictGet pendingTokens slot.1 with
  | some (.str pending) => ApprovalTokens.verifyApprovalToken runtime pending call.key
      (call.pendingCheck slot.2 (retry.checkedAt slot.1))
  | _ => .ok false

/-- The body of the loop. -/
def resolveSlot (pendingTokens : List (String × Json F)) (state : Resolution)
    (slot : String × String) : Except Raised Resolution := do
  if ← pendingHolds runtime call retry pendingTokens slot then
    if isApproved (dictGet retry.inputResponses slot.1) then
      let token ← issueApprovalToken runtime (call.grant slot.2 (retry.grantedAt slot.1))
      pure { state with resolved := dictSet state.resolved slot.2 token }
    else pure { state with declined := slot.2 :: state.declined }
  else pure state

/-- The loop, and the vetoes after it. -/
def resolvePending (pendingTokens : List (String × Json F)) :
    Except Raised (List (String × String)) := do
  let final ← retry.fingerprintsByKey.foldlM (resolveSlot runtime call retry pendingTokens) {}
  pure (final.resolved.filter fun entry => entry.1 ∉ final.declined)

/-- The state that is read: the channel is on, and the retry has a state and responses. -/
def stateText : Option String :=
  if !call.enabled || retry.inputResponses.isEmpty then none else retry.requestState

/-- `resolve_approval_tokens_from_retry`. -/
def resolveApprovalTokensFromRetry : Except Raised (List (String × String)) :=
  match stateText call retry with
  | none => .ok []
  | some text =>
      match loadsText runtime text with
      | .error .recursionError => .error .recursionError
      | .error _ => .ok []
      | .ok (.dict pendingTokens) => resolvePending runtime call retry pendingTokens
      | .ok _ => .ok []

/-- The entries of the state, where it is read and is an object. -/
def entriesOf : List (String × Json F) :=
  match stateText call retry with
  | none => []
  | some text =>
      match loadsText runtime text with
      | .ok (.dict pendingTokens) => pendingTokens
      | _ => []

/-- The slot carries a pending token for its item. -/
def Vouched (slot : String × String) : Prop :=
  pendingHolds runtime call retry (entriesOf runtime call retry) slot = .ok true

/-- The token that `_execute_batch_item` passes on for an item. -/
def batchItemToken (approvalTokens : List (String × String)) (fingerprint : String) :
    Option String :=
  dictGet approvalTokens fingerprint

/-- A slot that carries a pending token and an approval. -/
def Approves (slot : String × String) : Prop :=
  Vouched runtime call retry slot ∧ isApproved (dictGet retry.inputResponses slot.1) = true

/-- A slot that carries a pending token and no approval. -/
def Declines (slot : String × String) : Prop :=
  Vouched runtime call retry slot ∧ isApproved (dictGet retry.inputResponses slot.1) = false

/-- A grant for the item of the slot. -/
def GrantFor (slot : String × String) (token : String) : Prop :=
  issueApprovalToken runtime (call.grant slot.2 (retry.grantedAt slot.1)) = .ok token

/-- What the server has issued: the pending tokens it minted, and grants. -/
structure IssuedFrom (asks : Set Ask) (issued : Set ApprovalIssue) : Prop where
  asked : ∀ ask ∈ asks, ask.issue ∈ issued
  pending : ∀ issue ∈ issued, issue.kind = tokenKindPending → ∃ ask ∈ asks, issue = ask.issue

/-- No text in the state is forged. -/
def StateUnforged (issued : Set ApprovalIssue) : Prop :=
  ∀ slot token, dictGet (entriesOf runtime call retry) slot = some (.str token) →
    Unforged runtime issued token call.key

/-- The slot's entry is a pending token that the server minted for its item, this caller and
this connection, within its lifetime. -/
def CarriesAsk (asks : Set Ask) (slot : String × String) : Prop :=
  ∃ token, dictGet (entriesOf runtime call retry) slot.1 = some (.str token) ∧
    ∃ ask ∈ asks, openToken runtime token call.key =
        .ok (some (sortKeys (.dict ask.issue.payload))) ∧
      ask.key = call.key ∧ ask.fingerprint = slot.2 ∧ ask.subject = call.subject ∧
      ask.connectionId = call.connectionId ∧ retry.checkedAt slot.1 < ask.issue.expires

/-- A retry grants exactly what was asked and approved: it is answered; a grant for an item is
one for this caller and connection, and comes from a slot of the item that carries a pending
token and an approval; an item with a response that is not an approval gets no grant; and a
pending token is no grant. -/
structure GrantsAsked (asks : Set Ask) (issued : Set ApprovalIssue) : Prop where
  answers : ∃ resolved, resolveApprovalTokensFromRetry runtime call retry = .ok resolved
  granted : ∀ {resolved fingerprint token},
    resolveApprovalTokensFromRetry runtime call retry = .ok resolved →
    batchItemToken resolved fingerprint = some token →
    ∃ slot ∈ retry.fingerprintsByKey, slot.2 = fingerprint ∧
      CarriesAsk runtime call retry asks slot ∧
      isApproved (dictGet retry.inputResponses slot.1) = true ∧
      GrantFor runtime call retry slot token
  vetoed : ∀ {resolved slot response},
    resolveApprovalTokensFromRetry runtime call retry = .ok resolved →
    slot ∈ retry.fingerprintsByKey → dictGet retry.inputResponses slot.1 = some response →
    isApproved (some response) = false → batchItemToken resolved slot.2 = none
  pending : ∀ {ask : Ask} {token : String} {check : TokenCheck}, ask ∈ asks →
    issueApprovalToken runtime ask.issue = .ok token → check.expectedKind = tokenKindGrant →
    Unforged runtime issued token call.key →
    ApprovalTokens.verifyApprovalToken runtime token call.key check = .ok false

/-- The state is not nested too deeply, and an item that one slot approves and another answers
otherwise is declined by a slot that carries its pending token. -/
structure DeclinesKept : Prop where
  shallow : ∀ text, stateText call retry = some text → runtime.tooDeep text.toList = false
  heard : ∀ slot ∈ retry.fingerprintsByKey, ∀ response,
    dictGet retry.inputResponses slot.1 = some response → isApproved (some response) = false →
    (∃ approving ∈ retry.fingerprintsByKey, approving.2 = slot.2 ∧
      Approves runtime call retry approving) →
    ∃ declining ∈ retry.fingerprintsByKey, declining.2 = slot.2 ∧
      Declines runtime call retry declining

/-- What the loop has come to after some slots. -/
structure Resolves (slots : List (String × String)) (start final : Resolution) : Prop where
  declined : ∀ fingerprint, fingerprint ∈ final.declined ↔ fingerprint ∈ start.declined ∨
    ∃ slot ∈ slots, slot.2 = fingerprint ∧ Declines runtime call retry slot
  resolved : ∀ fingerprint, (dictGet final.resolved fingerprint).isSome ↔
    (dictGet start.resolved fingerprint).isSome ∨
      ∃ slot ∈ slots, slot.2 = fingerprint ∧ Approves runtime call retry slot
  tokens : ∀ fingerprint token, dictGet final.resolved fingerprint = some token →
    dictGet start.resolved fingerprint = some token ∨
      ∃ slot ∈ slots, slot.2 = fingerprint ∧ Approves runtime call retry slot ∧
        GrantFor runtime call retry slot token

variable {runtime call retry}

/-! ## One slot -/

/-- On a state that was not forged, reading an entry does not raise. -/
theorem pendingHolds_total (sound : runtime.Sound) {issued : Set ApprovalIssue}
    (unforged : StateUnforged runtime call retry issued) (slot : String × String) :
    ∃ vouched, pendingHolds runtime call retry (entriesOf runtime call retry) slot =
      .ok vouched := by
  unfold pendingHolds
  split
  · rename_i pending found
    exact (tokensExact_of_sound sound issued).total _ (unforged slot.1 pending found)
  · exact ⟨false, rfl⟩

/-- A slot that is vouched for carries what the server asked. -/
theorem carriesAsk_of_vouched (sound : runtime.Sound) {asks : Set Ask}
    {issued : Set ApprovalIssue} (from_ : IssuedFrom asks issued)
    (unforged : StateUnforged runtime call retry issued) {slot : String × String}
    (vouched : Vouched runtime call retry slot) : CarriesAsk runtime call retry asks slot := by
  unfold Vouched pendingHolds at vouched
  split at vouched
  · rename_i token found
    obtain ⟨issue, inside, grants, opened⟩ :=
      (tokensExact_of_sound sound issued).carries (unforged slot.1 token found) vouched
    obtain ⟨ask, asked, rfl⟩ := from_.pending issue inside grants.kind
    have named := grants.connection.resolve_left (Option.some_ne_none _)
    have bound := grants.principal.resolve_left (Option.some_ne_none _)
    exact ⟨token, found, ask, asked, opened, grants.key, grants.fingerprint,
      Option.some.inj bound, Option.some.inj named, grants.expires⟩
  · cases vouched

theorem keyed_of_vouched {slot : String × String} (vouched : Vouched runtime call retry slot) :
    call.key ≠ "" := by
  intro unset
  unfold Vouched pendingHolds at vouched
  split at vouched
  · rw [ApprovalTokens.verifyApprovalToken, if_pos (Or.inl unset)] at vouched
    cases vouched
  · cases vouched

theorem isSome_dictSet (entries : List (String × String)) (key other value : String) :
    (dictGet (dictSet entries key value) other).isSome ↔
      (dictGet entries other).isSome ∨ key = other := by
  rw [dictGet_dictSet]
  by_cases same : key = other
  · simp [same]
  · simp [same]

theorem exists_grantFor (keyed : call.key ≠ "") (slot : String × String) :
    ∃ token, GrantFor runtime call retry slot token :=
  ⟨_, issueApprovalToken_eq_ok_iff.mpr ⟨keyed, rfl⟩⟩

/-- A slot adds its grant, adds its veto, or changes nothing. -/
theorem resolveSlot_resolves (sound : runtime.Sound) {issued : Set ApprovalIssue}
    (unforged : StateUnforged runtime call retry issued) (slot : String × String)
    (start : Resolution) :
    ∃ next, resolveSlot runtime call retry (entriesOf runtime call retry) start slot = .ok next ∧
      Resolves runtime call retry [slot] start next := by
  obtain ⟨vouched, held⟩ := pendingHolds_total sound unforged slot
  simp only [resolveSlot, held]
  cases vouched with
  | false =>
      have silent : ¬ Vouched runtime call retry slot := by
        intro voucher
        rw [Vouched, held] at voucher
        cases voucher
      refine ⟨start, rfl, ?_, ?_, fun _ _ => Or.inl⟩
      · intro fingerprint
        simp only [Declines, List.mem_singleton, exists_eq_left, silent, false_and, and_false, or_false]
      · intro fingerprint
        simp only [Approves, List.mem_singleton, exists_eq_left, silent, false_and, and_false, or_false]
  | true =>
      have voucher : Vouched runtime call retry slot := held
      cases approved : isApproved (dictGet retry.inputResponses slot.1) with
      | false =>
          refine ⟨{ start with declined := slot.2 :: start.declined }, rfl, ?_, ?_,
            fun _ _ => Or.inl⟩
          · intro fingerprint
            rw [List.mem_cons, or_comm, eq_comm (a := fingerprint)]
            simp only [Declines, List.mem_singleton, exists_eq_left, voucher, approved, and_true]
          · intro fingerprint
            simp only [Approves, List.mem_singleton, exists_eq_left, approved, Bool.false_eq_true,
              and_false, or_false]
      | true =>
          obtain ⟨token, minted⟩ :=
            @exists_grantFor _ runtime call retry (keyed_of_vouched voucher) slot
          refine ⟨{ start with resolved := dictSet start.resolved slot.2 token }, ?_, ?_, ?_, ?_⟩
          · rw [GrantFor] at minted
            simp only [minted]
            rfl
          · intro fingerprint
            simp only [Declines, List.mem_singleton, exists_eq_left, approved, Bool.true_eq_false,
              and_false, or_false]
          · intro fingerprint
            simp only [Approves, List.mem_singleton, exists_eq_left, approved, voucher, and_true]
            exact isSome_dictSet _ _ _ _
          · intro fingerprint other held
            rw [dictGet_dictSet] at held
            split at held
            · rename_i same
              cases held
              exact Or.inr ⟨slot, List.mem_singleton_self _, same, ⟨voucher, approved⟩, minted⟩
            · exact Or.inl held

/-! ## The loop -/

theorem exists_mem_append {xs ys : List (String × String)} {holds : String × String → Prop} :
    (∃ slot ∈ xs ++ ys, holds slot) ↔ (∃ slot ∈ xs, holds slot) ∨ ∃ slot ∈ ys, holds slot := by
  simp only [List.mem_append, or_and_right, exists_or]

theorem Resolves.trans {xs ys : List (String × String)} {start middle final : Resolution}
    (first : Resolves runtime call retry xs start middle)
    (second : Resolves runtime call retry ys middle final) :
    Resolves runtime call retry (xs ++ ys) start final := by
  constructor
  · intro fingerprint
    rw [second.declined, first.declined, exists_mem_append, or_assoc]
  · intro fingerprint
    rw [second.resolved, first.resolved, exists_mem_append, or_assoc]
  · intro fingerprint token held
    rw [exists_mem_append]
    rcases second.tokens fingerprint token held with before | added
    · exact (first.tokens fingerprint token before).imp_right Or.inl
    · exact Or.inr (Or.inr added)

theorem Resolves.refl (start : Resolution) : Resolves runtime call retry [] start start where
  declined := by simp
  resolved := by simp
  tokens := fun _ _ => Or.inl

/-- The loop never stops early, and sums up its slots. -/
theorem foldlM_resolves (sound : runtime.Sound) {issued : Set ApprovalIssue}
    (unforged : StateUnforged runtime call retry issued) (slots : List (String × String))
    (start : Resolution) :
    ∃ final, slots.foldlM (resolveSlot runtime call retry (entriesOf runtime call retry)) start =
        .ok final ∧ Resolves runtime call retry slots start final := by
  induction slots generalizing start with
  | nil => exact ⟨start, rfl, .refl start⟩
  | cons slot rest ih =>
      obtain ⟨next, stepped, first⟩ := resolveSlot_resolves sound unforged slot start
      obtain ⟨final, ran, more⟩ := ih next
      refine ⟨final, ?_, first.trans more⟩
      rw [List.foldlM_cons, stepped]
      exact ran

theorem dictGet_vetoes (entries : List (String × String)) (declined : List String)
    (fingerprint : String) :
    dictGet (entries.filter fun entry => entry.1 ∉ declined) fingerprint =
      if fingerprint ∈ declined then none else dictGet entries fingerprint := by
  rw [dictGet_filter_key entries (fun key => key ∉ declined) fingerprint]
  by_cases vetoed : fingerprint ∈ declined
  · simp [vetoed]
  · simp [vetoed]

theorem entriesOf_of_loaded {text : String} {entries : List (String × Json F)}
    (given : stateText call retry = some text) (loaded : loadsText runtime text = .ok (.dict entries)) :
    entriesOf runtime call retry = entries := by
  simp only [entriesOf, given, loaded]

/-- What a retry comes to, unless its state is nested too deeply: an item gets a grant when some
slot of it approves and none declines. -/
theorem resolveApprovalTokensFromRetry_spec (sound : runtime.Sound) {issued : Set ApprovalIssue}
    (unforged : StateUnforged runtime call retry issued)
    (shallow : ∀ text, stateText call retry = some text → runtime.tooDeep text.toList = false) :
    ∃ resolved, resolveApprovalTokensFromRetry runtime call retry = .ok resolved ∧
      (∀ fingerprint, (batchItemToken resolved fingerprint).isSome ↔
        (∃ slot ∈ retry.fingerprintsByKey, slot.2 = fingerprint ∧
          Approves runtime call retry slot) ∧
        ¬ ∃ slot ∈ retry.fingerprintsByKey, slot.2 = fingerprint ∧
          Declines runtime call retry slot) ∧
      ∀ fingerprint token, batchItemToken resolved fingerprint = some token →
        ∃ slot ∈ retry.fingerprintsByKey, slot.2 = fingerprint ∧
          Approves runtime call retry slot ∧ GrantFor runtime call retry slot token := by
  by_cases read : ∃ text entries, stateText call retry = some text ∧
      loadsText runtime text = .ok (.dict entries)
  · obtain ⟨text, entries, given, loaded⟩ := read
    have own := entriesOf_of_loaded given loaded
    obtain ⟨final, ran, sums⟩ := foldlM_resolves sound unforged retry.fingerprintsByKey {}
    refine ⟨final.resolved.filter fun entry => entry.1 ∉ final.declined, ?_, ?_, ?_⟩
    · rw [own] at ran
      simp only [resolveApprovalTokensFromRetry, given, loaded, resolvePending, ran]
      rfl
    · intro fingerprint
      have added := sums.resolved fingerprint
      have vetoes := sums.declined fingerprint
      rw [batchItemToken, dictGet_vetoes]
      split
      · rename_i vetoed
        have declining := (vetoes.mp vetoed).resolve_left List.not_mem_nil
        exact iff_of_false Bool.false_ne_true fun granted => granted.2 declining
      · rename_i kept
        have silent : ¬ ∃ slot ∈ retry.fingerprintsByKey, slot.2 = fingerprint ∧
            Declines runtime call retry slot := fun declining => kept (vetoes.mpr (Or.inr declining))
        constructor
        · exact fun held => ⟨(added.mp held).resolve_left Bool.false_ne_true, silent⟩
        · exact fun granted => added.mpr (Or.inr granted.1)
    · intro fingerprint token held
      rw [batchItemToken, dictGet_vetoes] at held
      split at held
      · cases held
      · exact (sums.tokens fingerprint token held).resolve_left fun none => by cases none
  · have unread : entriesOf runtime call retry = [] := by
      unfold entriesOf
      split
      · rfl
      · rename_i text given
        split
        · rename_i entries loaded
          exact absurd ⟨text, entries, given, loaded⟩ read
        · rfl
    have silent : ∀ slot, ¬ Approves runtime call retry slot := by
      rintro slot ⟨voucher, _⟩
      rw [Vouched, unread] at voucher
      cases voucher
    refine ⟨[], ?_, fun fingerprint => ?_, fun fingerprint token held => by cases held⟩
    · unfold resolveApprovalTokensFromRetry
      split
      · rfl
      · rename_i text given
        have even := shallow text given
        split
        · rename_i deep
          rw [loadsText, if_neg (even ▸ Bool.false_ne_true)] at deep
          split at deep
          · cases deep
          · cases deep
        · rfl
        · rename_i entries loaded
          exact absurd ⟨text, entries, given, loaded⟩ read
        · rfl
    · refine iff_of_false Bool.false_ne_true ?_
      rintro ⟨⟨slot, _, _, approves⟩, _⟩
      exact silent slot approves

theorem pending_ungranted (sound : runtime.Sound) {issued : Set ApprovalIssue} {ask : Ask}
    {token : String} {check : TokenCheck} (minted : issueApprovalToken runtime ask.issue = .ok token)
    (wanted : check.expectedKind = tokenKindGrant)
    (unforged : Unforged runtime issued token call.key) :
    ApprovalTokens.verifyApprovalToken runtime token call.key check = .ok false :=
  (tokensExact_of_sound sound issued).pending minted rfl unforged wanted

/-- A state that is nested too deeply is not answered. -/
theorem resolveApprovalTokensFromRetry_deep {text : String}
    (given : stateText call retry = some text) (deep : runtime.tooDeep text.toList = true) :
    resolveApprovalTokensFromRetry runtime call retry = .error .recursionError := by
  simp only [resolveApprovalTokensFromRetry, given, loadsText, deep, ↓reduceIte]

/-- A retry grants exactly what was asked and approved, if and only if its state is not nested
too deeply and its declines come with their pending tokens. -/
theorem grantsAsked_iff (sound : runtime.Sound) {asks : Set Ask} {issued : Set ApprovalIssue}
    (from_ : IssuedFrom asks issued) (unforged : StateUnforged runtime call retry issued) :
    GrantsAsked runtime call retry asks issued ↔ DeclinesKept runtime call retry := by
  constructor
  · intro asked
    obtain ⟨answer, answered⟩ := asked.answers
    have shallow : ∀ text, stateText call retry = some text →
        runtime.tooDeep text.toList = false := by
      intro text given
      by_contra deep
      rw [Bool.not_eq_false] at deep
      rw [resolveApprovalTokensFromRetry_deep given deep] at answered
      cases answered
    obtain ⟨resolved, same, granted, _⟩ :=
      resolveApprovalTokensFromRetry_spec sound unforged shallow
    refine ⟨shallow, fun slot inside response given refused approving => ?_⟩
    by_contra silent
    have held := (granted slot.2).mpr ⟨approving, silent⟩
    rw [asked.vetoed same inside given refused] at held
    cases held
  · intro kept
    obtain ⟨resolved, same, granted, minted⟩ :=
      resolveApprovalTokensFromRetry_spec sound unforged kept.shallow
    refine ⟨⟨resolved, same⟩, ?_, ?_, fun _ minted wanted => pending_ungranted sound minted wanted⟩
    · intro other fingerprint token answered held
      cases same.symm.trans answered
      obtain ⟨slot, inside, named, approves, grants⟩ := minted fingerprint token held
      exact ⟨slot, inside, named, carriesAsk_of_vouched sound from_ unforged approves.1,
        approves.2, grants⟩
    · intro other slot response answered inside given refused
      cases same.symm.trans answered
      rw [← Option.not_isSome_iff_eq_none, granted]
      rintro ⟨approving, silent⟩
      exact silent (kept.heard slot inside response given refused approving)

end Calls

/-! ## An instance -/

/-- The call of an analyst. -/
def analystCall : ToolCall where
  key := "hmac key"
  subject := "analyst"
  connectionId := "prod"

/-- What the server asked about a statement. -/
def statementAsk : Ask :=
  analystCall.ask "f1" 0

/-- The pending token it minted. -/
def statementToken : String :=
  joinToken (unpaddedB64 (payloadBytes plainRuntime statementAsk.issue))
    (plainRuntime.sign "hmac key" (payloadBytes plainRuntime statementAsk.issue))

/-- An accepted form that says `approve: true`. -/
def acceptedForm : InputResponse Empty :=
  .elicitResult "accept" (some [("approve", .bool true)])

/-- A declined form. -/
def declinedForm : InputResponse Empty :=
  .elicitResult "decline" none

/-- A state with one entry. -/
def stateOf (slot token : String) : String :=
  String.ofList (dumps plainRuntime.format jsonChar (.dict [(slot, .str token)]))

/-- A retry of the statement in two slots, whose state holds the token of the second only. -/
def secondTokenOnly (responses : List (String × InputResponse Empty)) : Retry Empty where
  requestState := some (stateOf "q1" statementToken)
  inputResponses := responses
  fingerprintsByKey := [("q0", "f1"), ("q1", "f1")]
  checkedAt := fun _ => 1
  grantedAt := fun _ => 1

theorem statementToken_issued :
    issueApprovalToken plainRuntime statementAsk.issue = .ok statementToken :=
  issueApprovalToken_eq_ok_iff.mpr ⟨by decide, rfl⟩

theorem statementAsk_grants :
    Grants statementAsk.issue statementAsk.issue.key (analystCall.pendingCheck "f1" 1) where
  key := rfl
  fingerprint := rfl
  kind := rfl
  connection := Or.inr rfl
  principal := Or.inr rfl
  expires := by decide +kernel

theorem issuedFrom_statementAsk : IssuedFrom {statementAsk} {statementAsk.issue} where
  asked := by
    rintro ask rfl
    rfl
  pending := by
    rintro issue rfl _
    exact ⟨statementAsk, rfl, rfl⟩

theorem loadsText_stateOf (slot token : String) :
    loadsText plainRuntime (stateOf slot token) = .ok (.dict [(slot, .str token)]) := by
  have readable : Readable plainRuntime.format (.dict [(slot, .str token)]) :=
    ⟨List.nodup_singleton _, trivial, trivial⟩
  have shallow : ∀ text, plainRuntime.tooDeep text = false := fun _ => rfl
  simp only [loadsText, stateOf, String.toList_ofList, shallow, Bool.false_eq_true, ↓reduceIte,
    loads_dumps escapeReads_jsonChar readable]

theorem entriesOf_secondTokenOnly (response : String × InputResponse Empty)
    (more : List (String × InputResponse Empty)) :
    entriesOf plainRuntime analystCall (secondTokenOnly (response :: more)) =
      [("q1", .str statementToken)] := by
  have given : stateText analystCall (secondTokenOnly (response :: more)) =
      some (stateOf "q1" statementToken) := rfl
  exact entriesOf_of_loaded given (loadsText_stateOf _ _)

theorem stateUnforged_secondTokenOnly (response : String × InputResponse Empty)
    (more : List (String × InputResponse Empty)) :
    StateUnforged plainRuntime analystCall (secondTokenOnly (response :: more))
      {statementAsk.issue} := by
  intro slot token found
  rw [entriesOf_secondTokenOnly] at found
  cases Json.str.inj (Prod.mk.inj (List.mem_singleton.mp (dictGet_eq_some_mem found))).2
  exact (unforged_of_issued plainRuntime_sound (Set.mem_singleton _) statementToken_issued).1

/-- The second slot carries its token, and the first carries none. -/
theorem vouched_secondTokenOnly (response : String × InputResponse Empty)
    (more : List (String × InputResponse Empty)) :
    Vouched plainRuntime analystCall (secondTokenOnly (response :: more)) ("q1", "f1") ∧
      ¬ Vouched plainRuntime analystCall (secondTokenOnly (response :: more)) ("q0", "f1") := by
  unfold Vouched
  rw [entriesOf_secondTokenOnly]
  constructor
  · exact (verifyApprovalToken_of_opened (by decide)
      (openToken_joinToken plainRuntime_sound statementAsk.issue)).trans
        (congrArg Except.ok (claimsHold_payload.mpr statementAsk_grants))
  · exact fun voucher => Bool.false_ne_true (Except.ok.inj voucher)

/-- A retry that answers the second slot only, with an approval, grants what was asked. -/
theorem grantsAsked_approval :
    GrantsAsked plainRuntime analystCall (secondTokenOnly [("q1", acceptedForm)]) {statementAsk}
      {statementAsk.issue} := by
  refine (grantsAsked_iff plainRuntime_sound issuedFrom_statementAsk
    (stateUnforged_secondTokenOnly _ _)).mpr ⟨fun _ _ => rfl, ?_⟩
  intro slot _ response given refused
  cases Prod.mk.inj (List.mem_singleton.mp (dictGet_eq_some_mem given)) with
  | intro _ same =>
      rw [same] at refused
      cases refused

/-- The statement is declined in the first slot, whose pending token is left out of the state,
and approved in the second: it is granted. -/
theorem not_grantsAsked_droppedToken :
    ¬ GrantsAsked plainRuntime analystCall
      (secondTokenOnly [("q0", declinedForm), ("q1", acceptedForm)]) {statementAsk}
      {statementAsk.issue} := by
  intro asked
  obtain ⟨resolved, same, granted, _⟩ := resolveApprovalTokensFromRetry_spec plainRuntime_sound
    (stateUnforged_secondTokenOnly ("q0", declinedForm) [("q1", acceptedForm)]) fun _ _ => rfl
  have second : ("q1", "f1") ∈ [("q0", "f1"), ("q1", "f1")] := by simp
  obtain ⟨voucher, silent⟩ :=
    vouched_secondTokenOnly ("q0", declinedForm) [("q1", acceptedForm)]
  have held := (granted "f1").mpr ⟨⟨("q1", "f1"), second, rfl, voucher, rfl⟩, ?_⟩
  · rw [asked.vetoed same (List.mem_cons_self ..) rfl rfl] at held
    cases held
  · rintro ⟨slot, inside, _, voucher, refused⟩
    rcases List.mem_cons.mp inside with rfl | last
    · exact silent voucher
    · rw [List.mem_singleton.mp last] at refused
      cases refused

end QueryGate.Elicitation
