import QueryGate.Foundation.Checks

/-! # Approval tokens

`verify_approval_token` of `execution/approval.py`. Decoding a token and checking
its signature is a parameter: `openToken` yields the claims of a token signed
with the configured key, and nothing for any other text.
-/

namespace QueryGate

/-- The kinds of a token. -/
inductive TokenKind where
  | grant | pending
  deriving DecidableEq, Repr

/-- The signed payload of a token. -/
structure TokenClaims where
  version : Int
  fingerprint : String
  kind : TokenKind
  expires : Int
  connection : Option String := none
  boundSubject : Option String := none
  deriving DecidableEq, Repr

/-- `TOKEN_FORMAT_VERSION`. -/
def tokenFormatVersion : Int := 1

/-- A binding claim, when the token carries it, names the caller's own value. -/
def boundTo (claim actual : Option String) : Bool :=
  claim.isNone || claim == actual

/-- `verify_approval_token`. -/
def verifyApprovalToken (openToken : String → Option TokenClaims) (token fingerprint : String)
    (connectionId principalSubject : Option String) (expectedKind : TokenKind) (now : Int) : Bool :=
  match openToken token with
  | none => false
  | some claims =>
      claims.version == tokenFormatVersion && claims.fingerprint == fingerprint &&
        claims.kind == expectedKind && boundTo claims.connection connectionId &&
        boundTo claims.boundSubject principalSubject && decide (now < claims.expires)

/-- A token that verifies was signed for this fingerprint, is of the expected kind
and has not expired, and its bindings name this connection and subject. -/
theorem verifyApprovalToken_iff {openToken : String → Option TokenClaims}
    {token fingerprint : String} {connectionId principalSubject : Option String}
    {expectedKind : TokenKind} {now : Int} :
    verifyApprovalToken openToken token fingerprint connectionId principalSubject expectedKind
        now = true ↔
      ∃ claims, openToken token = some claims ∧ claims.version = tokenFormatVersion ∧
        claims.fingerprint = fingerprint ∧ claims.kind = expectedKind ∧
        (claims.connection = none ∨ claims.connection = connectionId) ∧
        (claims.boundSubject = none ∨ claims.boundSubject = principalSubject) ∧
        now < claims.expires := by
  unfold verifyApprovalToken
  cases opened : openToken token with
  | none => simp
  | some claims =>
      simp only [boundTo, Bool.and_eq_true, beq_iff_eq, Bool.or_eq_true, Option.isNone_iff_eq_none,
        decide_eq_true_eq, Option.some.injEq, exists_eq_left', and_assoc]

end QueryGate
