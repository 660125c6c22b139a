import Mathlib.Data.Rat.Floor
import QueryGate.Audit.JsonText
import QueryGate.Execution.Approval
import QueryGate.Foundation.Base64
import QueryGate.Foundation.Encoding
import QueryGate.Foundation.Text

/-! # Approval tokens as text

`issue_approval_token` and `verify_approval_token` of `execution/approval.py`, from a text
that anybody may have written. The tag is a parameter: it tells payloads apart, and under
a key only what was issued bears one (`Unforged`).
-/

namespace QueryGate.ApprovalTokens

open Foundation

/-- The exceptions that can be raised while a token is read. -/
inductive Raised
  | valueError
  | typeError
  | recursionError
  deriving DecidableEq, Repr

/-- What tokens are made and read with: `hmac.new(key, payload, sha256).hexdigest()`, the
texts that `json.loads` gives up on as nested too deeply, and numbers with a fraction. -/
structure TokenRuntime (F : Type) where
  sign : String → List UInt8 → String
  tooDeep : List Char → Bool
  format : FloatFormat F
  equalsInt : F → Int → Bool

/-- A value that holds no other. -/
def IsScalar {F : Type} : Json F → Prop
  | .list _ => False
  | .dict _ => False
  | _ => True

/-- Tags tell payloads apart and are hexadecimal, and an object of scalars is not nested
too deeply. -/
structure TokenRuntime.Sound {F : Type} (runtime : TokenRuntime F) : Prop where
  tagInjective : ∀ key, Function.Injective (runtime.sign key)
  tagAscii : ∀ key payload, isAscii (runtime.sign key payload) = true
  tagUndotted : ∀ key payload, '.' ∉ (runtime.sign key payload).toList
  shallow : ∀ entries : List (String × Json F), (∀ entry ∈ entries, IsScalar entry.2) →
    runtime.tooDeep (dumps runtime.format jsonChar (.dict entries)) = false

/-- `TOKEN_KIND_GRANT`. -/
def tokenKindGrant : String := "grant"

/-- `TOKEN_KIND_PENDING`. -/
def tokenKindPending : String := "pending"

/-- `int(value)`. -/
def truncate (value : ℚ) : Int :=
  if 0 ≤ value then ⌊value⌋ else ⌈value⌉

/-- The arguments of a call of `issue_approval_token`. -/
structure ApprovalIssue where
  fingerprint : String
  approverSubject : String
  key : String
  connectionId : Option String
  principalSubject : Option String
  kind : String := tokenKindGrant
  ttlSeconds : Int := 300
  now : ℚ
  deriving DecidableEq, Repr

namespace ApprovalIssue

/-- The `exp` claim. -/
def expires (issue : ApprovalIssue) : Int :=
  truncate (issue.now + issue.ttlSeconds)

/-- An entry that is there when its value is. -/
def optionalEntry {F : Type} (name : String) : Option String → List (String × Json F)
  | some value => [(name, .str value)]
  | none => []

/-- The claims of the token. -/
def payload {F : Type} (issue : ApprovalIssue) : List (String × Json F) :=
  [("v", .int tokenFormatVersion), ("fp", .str issue.fingerprint),
    ("sub", .str issue.approverSubject), ("k", .str issue.kind), ("exp", .int issue.expires)] ++
    (optionalEntry "cx" issue.connectionId ++ optionalEntry "sub_bind" issue.principalSubject)

end ApprovalIssue

section Tokens

variable {F : Type} (runtime : TokenRuntime F)

/-- The canonical text of the claims, before it is encoded. -/
def payloadChars (issue : ApprovalIssue) : List Char :=
  dumps runtime.format jsonChar (sortKeys (.dict issue.payload))

/-- The bytes that are signed. -/
def payloadBytes (issue : ApprovalIssue) : List UInt8 :=
  encodeUtf8 (payloadChars runtime issue)

/-- An encoded payload and its signature, around a dot. -/
def joinToken (encoded : List Char) (signature : String) : String :=
  String.ofList (encoded ++ '.' :: signature.toList)

/-- `issue_approval_token`. -/
def issueApprovalToken (issue : ApprovalIssue) : Except Raised String :=
  if issue.key = "" then .error .valueError
  else
    let bytes := payloadBytes runtime issue
    .ok (joinToken (unpaddedB64 bytes) (runtime.sign issue.key bytes))

/-- `token.rsplit(".", 1)`, where there is a dot. -/
def rsplitDot (token : String) : Option (List Char × String) :=
  (splitDotChars token.toList.reverse).map fun halves =>
    (halves.2.reverse, String.ofList halves.1.reverse)

/-- `hmac.compare_digest` of two strings. -/
def compareDigest (expected actual : String) : Except Raised Bool :=
  if isAscii expected && isAscii actual then .ok (expected == actual) else .error .typeError

/-- `json.loads`. -/
def loadsBytes (bytes : List UInt8) : Except Raised (Json F) :=
  match decodeDetected bytes with
  | none => .error .valueError
  | some text =>
      if runtime.tooDeep text then .error .recursionError
      else
        match loads runtime.format text with
        | none => .error .valueError
        | some value => .ok value

/-- The `try` block of `verify_approval_token`: the payload, if the signature matches. -/
def openToken (token key : String) : Except Raised (Option (Json F)) :=
  match rsplitDot token with
  | none => .error .valueError
  | some (encoded, signature) =>
      match urlsafeB64decode (encoded ++ padding encoded) with
      | none => .error .valueError
      | some bytes => do
          if ← compareDigest (runtime.sign key bytes) signature then
            return some (← loadsBytes runtime bytes)
          else return none

/-- `payload.get("v") == TOKEN_FORMAT_VERSION`. -/
def isVersion : Option (Json F) → Bool
  | some (.int value) => value == tokenFormatVersion
  | some (.bool value) => value && tokenFormatVersion == 1
  | some (.float value) => runtime.equalsInt value tokenFormatVersion
  | _ => false

/-- A claim is the given text. -/
def isText (claim : Option (Json F)) (expected : String) : Bool :=
  match claim with
  | some (.str text) => text == expected
  | _ => false

/-- A binding claim is missing, or is the caller's own value. -/
def bindingHolds (claim : Option (Json F)) (actual : Option String) : Bool :=
  match claim with
  | none => true
  | some .null => true
  | some (.str text) => some text == actual
  | _ => false

/-- The `exp` claim is a whole number after now. -/
def notExpired (claim : Option (Json F)) (now : ℚ) : Bool :=
  match claim with
  | some (.int expires) => decide (now < expires)
  | some (.bool expires) => decide (now < if expires then 1 else 0)
  | _ => false

/-- What is checked against a token. -/
structure TokenCheck where
  fingerprint : String
  connectionId : Option String
  principalSubject : Option String
  expectedKind : String := tokenKindGrant
  now : ℚ
  deriving DecidableEq, Repr

/-- The checks on a payload whose signature matches. -/
def claimsHold (check : TokenCheck) (payload : Json F) : Bool :=
  match payload with
  | .dict entries =>
      isVersion runtime (dictGet entries "v") && isText (dictGet entries "fp") check.fingerprint &&
        isText (dictGet entries "k") check.expectedKind &&
        bindingHolds (dictGet entries "cx") check.connectionId &&
        bindingHolds (dictGet entries "sub_bind") check.principalSubject &&
        notExpired (dictGet entries "exp") check.now
  | _ => false

/-- `verify_approval_token`. -/
def verifyApprovalToken (token key : String) (check : TokenCheck) : Except Raised Bool :=
  if key = "" ∨ token = "" then .ok false
  else
    match openToken runtime token key with
    | .ok none => .ok false
    | .ok (some payload) => .ok (claimsHold runtime check payload)
    | .error .valueError => .ok false
    | .error .typeError => .ok false
    | .error raised => .error raised

/-- A tag in a token under the key is one of an issued token: it was not made otherwise. -/
def Unforged (issued : Set ApprovalIssue) (token key : String) : Prop :=
  ∀ encoded payload, rsplitDot token = some (encoded, runtime.sign key payload) →
    ∃ issue ∈ issued, issue.key = key ∧
      runtime.sign key (payloadBytes runtime issue) = runtime.sign key payload

/-- The claims of an issued token are the ones checked: the fingerprint, the kind, an expiry
to come, and bindings that are missing or name the caller's own values. -/
structure Grants (issue : ApprovalIssue) (key : String) (check : TokenCheck) : Prop where
  key : issue.key = key
  fingerprint : issue.fingerprint = check.fingerprint
  kind : issue.kind = check.expectedKind
  connection : issue.connectionId = none ∨ issue.connectionId = check.connectionId
  principal : issue.principalSubject = none ∨ issue.principalSubject = check.principalSubject
  expires : check.now < issue.expires

/-- The part in front of the last dot, where there is one, is how `issue_approval_token`
encodes some bytes. -/
def Canonical (token : String) : Prop :=
  ∀ encoded signature, rsplitDot token = some (encoded, signature) →
    ∃ bytes, encoded = unpaddedB64 bytes

/-- What tokens promise: reading one never raises; one that is accepted carries the claims
of an issued token that grants what is checked, and is that token where its encoding is
canonical; a pending token is no grant; and a token tells its claims. -/
structure TokensExact (issued : Set ApprovalIssue) : Prop where
  total : ∀ {token key : String} (check : TokenCheck), Unforged runtime issued token key →
    ∃ accepted, verifyApprovalToken runtime token key check = .ok accepted
  carries : ∀ {token key : String} {check : TokenCheck}, Unforged runtime issued token key →
    verifyApprovalToken runtime token key check = .ok true →
    ∃ issue ∈ issued, Grants issue key check ∧
      openToken runtime token key = .ok (some (sortKeys (.dict issue.payload)))
  exact : ∀ {token key : String} {check : TokenCheck}, Unforged runtime issued token key →
    Canonical token →
    (verifyApprovalToken runtime token key check = .ok true ↔
      ∃ issue ∈ issued, issueApprovalToken runtime issue = .ok token ∧ Grants issue key check)
  pending : ∀ {issue : ApprovalIssue} {token key : String} {check : TokenCheck},
    issueApprovalToken runtime issue = .ok token → issue.kind = tokenKindPending →
    Unforged runtime issued token key → check.expectedKind = tokenKindGrant →
    verifyApprovalToken runtime token key check = .ok false
  tells : ∀ {one two : ApprovalIssue} {token : String},
    issueApprovalToken runtime one = .ok token → issueApprovalToken runtime two = .ok token →
    one.payload (F := F) = two.payload

variable {runtime}

/-! ## Splitting at the last dot -/

theorem rsplitDot_joinToken {encoded : List Char} {signature : String}
    (undotted : '.' ∉ signature.toList) :
    rsplitDot (joinToken encoded signature) = some (encoded, signature) := by
  have noDot : '.' ∉ signature.toList.reverse := fun member => undotted (List.mem_reverse.mp member)
  rw [rsplitDot, joinToken, String.toList_ofList, List.reverse_append, List.reverse_cons,
    List.append_assoc, splitDotChars_append noDot]
  simp [splitDotChars]

theorem eq_joinToken_of_rsplitDot {token : String} {encoded : List Char} {signature : String}
    (halves : rsplitDot token = some (encoded, signature)) :
    token = joinToken encoded signature := by
  obtain ⟨⟨back, front⟩, found, same⟩ := Option.map_eq_some_iff.mp halves
  cases same
  have letters := congrArg List.reverse (splitDotChars_eq_some found)
  rw [List.reverse_reverse, List.reverse_append, List.reverse_cons, List.append_assoc] at letters
  rw [joinToken, String.toList_ofList, ← String.ofList_toList (s := token), letters]
  rfl

/-! ## The payload of an issued token -/

namespace ApprovalIssue

theorem optionalEntry_keys (name : String) (value : Option String) :
    (dictKeys (optionalEntry (F := F) name value)).Sublist [name] := by
  cases value with
  | none => exact List.nil_sublist _
  | some _ => exact List.Sublist.refl _

theorem payload_keys (issue : ApprovalIssue) : (dictKeys (issue.payload (F := F))).Nodup := by
  have inside : (dictKeys (issue.payload (F := F))).Sublist
      (["v", "fp", "sub", "k", "exp"] ++ (["cx"] ++ ["sub_bind"])) := by
    rw [payload, dictKeys, List.map_append, List.map_append]
    exact (List.Sublist.refl _).append ((optionalEntry_keys _ _).append (optionalEntry_keys _ _))
  exact inside.nodup (by decide)

theorem payload_scalar (issue : ApprovalIssue) :
    ∀ entry ∈ issue.payload (F := F), IsScalar entry.2 ∧ sortKeys entry.2 = entry.2 ∧
      ∀ format : FloatFormat F, Readable format entry.2 := by
  have optional : ∀ name value, ∀ entry ∈ optionalEntry (F := F) name value,
      IsScalar entry.2 ∧ sortKeys entry.2 = entry.2 ∧
        ∀ format : FloatFormat F, Readable format entry.2 := by
    intro name value entry member
    cases value with
    | none => cases member
    | some text =>
        cases List.mem_singleton.mp member
        exact ⟨trivial, rfl, fun _ => trivial⟩
  intro entry member
  rw [payload, List.mem_append, List.mem_append] at member
  rcases member with fixed | connection | principal
  · simp only [List.mem_cons, List.not_mem_nil, or_false] at fixed
    rcases fixed with rfl | rfl | rfl | rfl | rfl
    all_goals exact ⟨trivial, rfl, fun _ => trivial⟩
  · exact optional _ _ entry connection
  · exact optional _ _ entry principal

theorem readable_payload (issue : ApprovalIssue) (format : FloatFormat F) :
    Readable format (.dict issue.payload) :=
  ⟨issue.payload_keys, readableEntries_iff.mpr fun entry member =>
    (issue.payload_scalar entry member).2.2 format⟩

/-- The claims of the payload, each under its name. -/
theorem dictGet_payload (issue : ApprovalIssue) :
    dictGet (issue.payload (F := F)) "v" = some (.int tokenFormatVersion) ∧
      dictGet (issue.payload (F := F)) "fp" = some (.str issue.fingerprint) ∧
      dictGet (issue.payload (F := F)) "k" = some (.str issue.kind) ∧
      dictGet (issue.payload (F := F)) "exp" = some (.int issue.expires) ∧
      dictGet (issue.payload (F := F)) "sub" = some (.str issue.approverSubject) ∧
      dictGet (issue.payload (F := F)) "cx" = issue.connectionId.map .str ∧
      dictGet (issue.payload (F := F)) "sub_bind" = issue.principalSubject.map .str := by
  refine ⟨rfl, rfl, rfl, rfl, rfl, ?_⟩
  unfold payload
  cases issue.connectionId with
  | none =>
      cases issue.principalSubject with
      | none => exact ⟨rfl, rfl⟩
      | some _ => exact ⟨rfl, rfl⟩
  | some _ =>
      cases issue.principalSubject with
      | none => exact ⟨rfl, rfl⟩
      | some _ => exact ⟨rfl, rfl⟩

end ApprovalIssue

theorem sortedClaims (issue : ApprovalIssue) (name : String) {entries : List (String × Json F)}
    (sorted : sortKeys (.dict issue.payload) = .dict entries) :
    dictGet entries name = dictGet issue.payload name := by
  have found := field?_sortKeys_dict (issue.payload_keys (F := F)) name
  rw [sorted, field?] at found
  rw [found]
  cases held : dictGet (issue.payload (F := F)) name with
  | none => rfl
  | some value =>
      rw [Option.map_some, (issue.payload_scalar _ (dictGet_eq_some_mem held)).2.1]

theorem bindingHolds_map {claim actual : Option String} :
    bindingHolds (claim.map (Json.str (F := F))) actual = true ↔ claim = none ∨ claim = actual := by
  cases claim with
  | none => exact iff_of_true rfl (Or.inl rfl)
  | some text =>
      rw [Option.map_some, bindingHolds, beq_iff_eq]
      exact ⟨Or.inr, fun same => same.resolve_left (Option.some_ne_none text)⟩

/-- The checks on the payload of an issued token. -/
theorem claimsHold_payload {issue : ApprovalIssue} {check : TokenCheck} :
    claimsHold runtime check (sortKeys (.dict issue.payload)) = true ↔
      Grants issue issue.key check := by
  obtain ⟨entries, sorted⟩ : ∃ entries, sortKeys (.dict (issue.payload (F := F))) = .dict entries :=
    ⟨_, rfl⟩
  obtain ⟨version, fingerprint, kind, expires, _, connection, principal⟩ :=
    issue.dictGet_payload (F := F)
  rw [sorted]
  simp only [claimsHold, sortedClaims issue _ sorted, version, fingerprint, kind, expires,
    connection, principal, isVersion, isText, notExpired, Bool.and_eq_true, beq_iff_eq,
    beq_self_eq_true, true_and, decide_eq_true_eq, bindingHolds_map]
  constructor
  · rintro ⟨⟨⟨⟨named, ofKind⟩, onConnection⟩, bySubject⟩, later⟩
    exact ⟨rfl, named, ofKind, onConnection, bySubject, later⟩
  · rintro ⟨-, named, ofKind, onConnection, bySubject, later⟩
    exact ⟨⟨⟨⟨named, ofKind⟩, onConnection⟩, bySubject⟩, later⟩

/-- The bytes of a payload are read back. -/
theorem loadsBytes_payload (sound : runtime.Sound) (issue : ApprovalIssue) :
    loadsBytes runtime (payloadBytes runtime issue) = .ok (sortKeys (.dict issue.payload)) := by
  have perm := sortByKey_perm (sortKeysEntries (issue.payload (F := F)))
  have scalars : ∀ entry ∈ sortByKey (sortKeysEntries (issue.payload (F := F))),
      IsScalar entry.2 := by
    intro entry member
    rw [perm.mem_iff, sortKeysEntries_eq_map] at member
    obtain ⟨original, inside, rfl⟩ := List.mem_map.mp member
    obtain ⟨scalar, same, _⟩ := issue.payload_scalar original inside
    rw [same]
    exact scalar
  obtain ⟨rest, opened⟩ : ∃ rest, payloadChars runtime issue = '\x7b' :: '"' :: rest := by
    cases sorted : sortByKey (sortKeysEntries (issue.payload (F := F))) with
    | nil =>
        have length := perm.length_eq
        rw [sorted, sortKeysEntries_eq_map, List.length_map, List.length_nil] at length
        cases length
    | cons entry more =>
        rw [payloadChars, sortKeys, sorted]
        exact ⟨_, rfl⟩
  have decoded : decodeDetected (payloadBytes runtime issue) =
      some (payloadChars runtime issue) := by
    have visible : payloadBytes runtime issue = 123 :: 34 :: encodeUtf8 rest := by
      rw [payloadBytes, opened]
      rfl
    rw [visible, decodeDetected_of_visible _ (by decide) (by decide), ← visible]
    exact decodeUtf8_encodeUtf8 _
  have read : loads runtime.format (payloadChars runtime issue) =
      some (sortKeys (.dict issue.payload)) :=
    loads_dumps escapeReads_jsonChar (readable_sortKeys _ (issue.readable_payload _))
  have notDeep : runtime.tooDeep (payloadChars runtime issue) = false :=
    sound.shallow _ scalars
  simp only [loadsBytes, decoded, notDeep, read, Bool.false_eq_true, ↓reduceIte]

/-! ## Opening a token -/

theorem compareDigest_ok_iff {expected actual : String} (ascii : isAscii expected = true) :
    compareDigest expected actual = .ok true ↔ expected = actual := by
  unfold compareDigest
  rw [ascii, Bool.true_and]
  constructor
  · intro same
    split at same
    · exact beq_iff_eq.mp (Except.ok.inj same)
    · cases same
  · rintro rfl
    rw [if_pos ascii, beq_self_eq_true]

/-- A text that decodes to the signed bytes of an issued payload opens as that payload. -/
theorem openToken_of_spelled (sound : runtime.Sound) {issue : ApprovalIssue} {token : String}
    {encoded : List Char}
    (halves : rsplitDot token =
      some (encoded, runtime.sign issue.key (payloadBytes runtime issue)))
    (decoded : urlsafeB64decode (encoded ++ padding encoded) = some (payloadBytes runtime issue)) :
    openToken runtime token issue.key = .ok (some (sortKeys (.dict issue.payload))) := by
  have compared := (compareDigest_ok_iff (sound.tagAscii issue.key (payloadBytes runtime issue))).mpr
    rfl
  simp only [openToken, halves, decoded, compared, loadsBytes_payload sound]
  rfl

theorem openToken_joinToken (sound : runtime.Sound) (issue : ApprovalIssue) :
    openToken runtime (joinToken (unpaddedB64 (payloadBytes runtime issue))
      (runtime.sign issue.key (payloadBytes runtime issue))) issue.key =
        .ok (some (sortKeys (.dict issue.payload))) :=
  openToken_of_spelled sound (rsplitDot_joinToken (sound.tagUndotted _ _))
    (urlsafeB64decode_unpadded _)

/-- A token that was not forged is malformed, or its signature does not match, or it spells
the payload of an issued one. -/
theorem openToken_unforged (sound : runtime.Sound) {issued : Set ApprovalIssue}
    {token key : String} (unforged : Unforged runtime issued token key) :
    openToken runtime token key = .error .valueError ∨
      openToken runtime token key = .error .typeError ∨
      openToken runtime token key = .ok none ∨
      ∃ issue ∈ issued, issue.key = key ∧ ∃ encoded,
        rsplitDot token = some (encoded, runtime.sign key (payloadBytes runtime issue)) ∧
        urlsafeB64decode (encoded ++ padding encoded) = some (payloadBytes runtime issue) := by
  cases halves : rsplitDot token with
  | none => exact Or.inl (by simp only [openToken, halves])
  | some pair =>
      obtain ⟨encoded, signature⟩ := pair
      cases decoded : urlsafeB64decode (encoded ++ padding encoded) with
      | none => exact Or.inl (by simp only [openToken, halves, decoded])
      | some bytes =>
          have opens : openToken runtime token key =
              (compareDigest (runtime.sign key bytes) signature).bind fun matched =>
                if matched then (loadsBytes runtime bytes).map some else .ok none := by
            simp only [openToken, halves, decoded]
            cases compareDigest (runtime.sign key bytes) signature with
            | error raised => rfl
            | ok matched =>
                cases matched with
                | false => rfl
                | true =>
                    cases loadsBytes runtime bytes with
                    | error raised => rfl
                    | ok value => rfl
          rw [opens]
          by_cases same : runtime.sign key bytes = signature
          · subst same
            obtain ⟨issue, inside, ofKey, tagged⟩ := unforged encoded bytes halves
            cases sound.tagInjective key tagged
            exact Or.inr (Or.inr (Or.inr ⟨issue, inside, ofKey, encoded, rfl, decoded⟩))
          · unfold compareDigest
            have differs : (runtime.sign key bytes == signature) = false :=
              beq_eq_false_iff_ne.mpr same
            rw [differs]
            split
            · exact Or.inr (Or.inr (Or.inl rfl))
            · exact Or.inr (Or.inl rfl)

/-! ## The promises -/

theorem verifyApprovalToken_of_opened {token key : String} {check : TokenCheck}
    {payload : Json F} (keyed : key ≠ "")
    (opened : openToken runtime token key = .ok (some payload)) :
    verifyApprovalToken runtime token key check = .ok (claimsHold runtime check payload) := by
  have written : token ≠ "" := by
    rintro rfl
    cases opened
  rw [verifyApprovalToken, if_neg (not_or.mpr ⟨keyed, written⟩), opened]

/-- An accepted token that was not forged spells an issued payload that grants. -/
theorem spelled_of_accepted (sound : runtime.Sound) {issued : Set ApprovalIssue}
    {token key : String} {check : TokenCheck} (unforged : Unforged runtime issued token key)
    (accepted : verifyApprovalToken runtime token key check = .ok true) :
    key ≠ "" ∧ ∃ issue ∈ issued, Grants issue key check ∧ ∃ encoded,
      rsplitDot token = some (encoded, runtime.sign key (payloadBytes runtime issue)) ∧
      urlsafeB64decode (encoded ++ padding encoded) = some (payloadBytes runtime issue) := by
  have keyed : key ≠ "" := by
    rintro rfl
    cases accepted
  refine ⟨keyed, ?_⟩
  rcases openToken_unforged sound unforged with malformed | notAscii | mismatch | spelled
  · unfold verifyApprovalToken at accepted
    rw [malformed] at accepted
    split at accepted
    · cases accepted
    · cases accepted
  · unfold verifyApprovalToken at accepted
    rw [notAscii] at accepted
    split at accepted
    · cases accepted
    · cases accepted
  · unfold verifyApprovalToken at accepted
    rw [mismatch] at accepted
    split at accepted
    · cases accepted
    · cases accepted
  · obtain ⟨issue, inside, rfl, encoded, halves, decoded⟩ := spelled
    rw [verifyApprovalToken_of_opened keyed (openToken_of_spelled sound halves decoded)] at accepted
    exact ⟨issue, inside, claimsHold_payload.mp (Except.ok.inj accepted), encoded, halves, decoded⟩

theorem issueApprovalToken_eq_ok_iff {issue : ApprovalIssue} {token : String} :
    issueApprovalToken runtime issue = .ok token ↔
      issue.key ≠ "" ∧ token = joinToken (unpaddedB64 (payloadBytes runtime issue))
        (runtime.sign issue.key (payloadBytes runtime issue)) := by
  unfold issueApprovalToken
  by_cases unset : issue.key = ""
  · simp [unset]
  · simp [unset, eq_comm]

/-- A token tells the bytes of its payload. -/
theorem payloadBytes_eq_of_token (sound : runtime.Sound) {one two : ApprovalIssue} {token : String}
    (oneIssued : issueApprovalToken runtime one = .ok token)
    (twoIssued : issueApprovalToken runtime two = .ok token) :
    payloadBytes runtime one = payloadBytes runtime two := by
  obtain ⟨_, oneSpelled⟩ := issueApprovalToken_eq_ok_iff.mp oneIssued
  obtain ⟨_, twoSpelled⟩ := issueApprovalToken_eq_ok_iff.mp twoIssued
  have oneHalves := @rsplitDot_joinToken (unpaddedB64 (payloadBytes runtime one)) _
    (sound.tagUndotted one.key (payloadBytes runtime one))
  have twoHalves := @rsplitDot_joinToken (unpaddedB64 (payloadBytes runtime two)) _
    (sound.tagUndotted two.key (payloadBytes runtime two))
  rw [← oneSpelled, twoSpelled, twoHalves] at oneHalves
  have same := (Prod.mk.inj (Option.some.inj oneHalves)).1
  exact (unpaddedB64_injective same).symm

/-- The bytes of a payload tell its claims. -/
theorem payload_eq_of_payloadBytes {one two : ApprovalIssue}
    (same : payloadBytes runtime one = payloadBytes runtime two) :
    one.payload (F := F) = two.payload := by
  have texts : payloadChars runtime one = payloadChars runtime two := encodeUtf8_injective same
  have sorted := sortKeys_eq_of_dumps_eq escapeReads_jsonChar
    (one.readable_payload runtime.format) (two.readable_payload runtime.format) texts
  have claims : ∀ name, dictGet (one.payload (F := F)) name = dictGet two.payload name := by
    intro name
    obtain ⟨entries, oneSorted⟩ :
        ∃ entries, sortKeys (.dict (one.payload (F := F))) = .dict entries := ⟨_, rfl⟩
    rw [← sortedClaims one name oneSorted, ← sortedClaims two name (sorted.symm.trans oneSorted)]
  obtain ⟨_, oneNamed, oneKind, oneExpires, oneApprover, oneConnection, onePrincipal⟩ :=
    one.dictGet_payload (F := F)
  obtain ⟨_, twoNamed, twoKind, twoExpires, twoApprover, twoConnection, twoPrincipal⟩ :=
    two.dictGet_payload (F := F)
  have strInjective : Function.Injective (Json.str (F := F)) := fun _ _ equal => Json.str.inj equal
  have named := oneNamed.symm.trans ((claims _).trans twoNamed)
  have ofKind := oneKind.symm.trans ((claims _).trans twoKind)
  have expires := oneExpires.symm.trans ((claims _).trans twoExpires)
  have approver := oneApprover.symm.trans ((claims _).trans twoApprover)
  have connection := Option.map_injective strInjective
    (oneConnection.symm.trans ((claims _).trans twoConnection))
  have principal := Option.map_injective strInjective
    (onePrincipal.symm.trans ((claims _).trans twoPrincipal))
  rw [ApprovalIssue.payload, ApprovalIssue.payload, connection, principal, Option.some.inj named,
    Option.some.inj ofKind, Option.some.inj expires, Option.some.inj approver]

/-- A pending payload is no grant. -/
theorem claimsHold_pending {issue : ApprovalIssue} {check : TokenCheck}
    (isPending : issue.kind = tokenKindPending) (wanted : check.expectedKind = tokenKindGrant) :
    claimsHold runtime check (sortKeys (.dict issue.payload)) = false := by
  rw [Bool.eq_false_iff]
  intro accepted
  have kinds := isPending.symm.trans ((claimsHold_payload.mp accepted).kind.trans wanted)
  have differ : tokenKindPending ≠ tokenKindGrant := by decide
  exact differ kinds

/-- With tags that tell payloads apart, and tokens that were not forged, tokens are exact. -/
theorem tokensExact_of_sound (sound : runtime.Sound) (issued : Set ApprovalIssue) :
    TokensExact runtime issued := by
  constructor
  · intro token key check unforged
    unfold verifyApprovalToken
    split
    · exact ⟨false, rfl⟩
    rcases openToken_unforged sound unforged with malformed | notAscii | mismatch | spelled
    · rw [malformed]
      exact ⟨false, rfl⟩
    · rw [notAscii]
      exact ⟨false, rfl⟩
    · rw [mismatch]
      exact ⟨false, rfl⟩
    · obtain ⟨issue, _, rfl, encoded, halves, decoded⟩ := spelled
      rw [openToken_of_spelled sound halves decoded]
      exact ⟨_, rfl⟩
  · intro token key check unforged accepted
    obtain ⟨_, issue, inside, grants, encoded, halves, decoded⟩ :=
      spelled_of_accepted sound unforged accepted
    obtain rfl := grants.key
    exact ⟨issue, inside, grants, openToken_of_spelled sound halves decoded⟩
  · intro token key check unforged canonical
    constructor
    · intro accepted
      obtain ⟨keyed, issue, inside, grants, encoded, halves, decoded⟩ :=
        spelled_of_accepted sound unforged accepted
      obtain rfl := grants.key
      obtain ⟨bytes, rfl⟩ := canonical encoded _ halves
      rw [urlsafeB64decode_unpadded] at decoded
      cases decoded
      refine ⟨issue, inside, issueApprovalToken_eq_ok_iff.mpr ⟨keyed, ?_⟩, grants⟩
      exact eq_joinToken_of_rsplitDot halves
    · rintro ⟨issue, _, issuedToken, grants⟩
      obtain rfl := grants.key
      obtain ⟨keyed, rfl⟩ := issueApprovalToken_eq_ok_iff.mp issuedToken
      rw [verifyApprovalToken_of_opened keyed (openToken_joinToken sound issue),
        claimsHold_payload.mpr grants]
  · intro issue token key check issuedToken isPending unforged wanted
    obtain ⟨_, rfl⟩ := issueApprovalToken_eq_ok_iff.mp issuedToken
    have own := @rsplitDot_joinToken (unpaddedB64 (payloadBytes runtime issue)) _
      (sound.tagUndotted issue.key (payloadBytes runtime issue))
    unfold verifyApprovalToken
    split
    · rfl
    rename_i notEmpty
    rcases openToken_unforged sound unforged with malformed | notAscii | mismatch | spelled
    · rw [malformed]
    · rw [notAscii]
    · rw [mismatch]
    · obtain ⟨other, _, rfl, encoded, halves, decoded⟩ := spelled
      rw [openToken_of_spelled sound halves decoded]
      rw [own] at halves
      obtain rfl := (Prod.mk.inj (Option.some.inj halves)).1
      rw [urlsafeB64decode_unpadded] at decoded
      have payloads := @payload_eq_of_payloadBytes F runtime _ _ (Option.some.inj decoded)
      exact congrArg Except.ok (payloads ▸ claimsHold_pending isPending wanted)
  · intro one two token oneIssued twoIssued
    exact payload_eq_of_payloadBytes (payloadBytes_eq_of_token sound oneIssued twoIssued)

/-- An issued token was not forged, and its encoding is canonical. -/
theorem unforged_of_issued (sound : runtime.Sound) {issued : Set ApprovalIssue}
    {issue : ApprovalIssue} (inside : issue ∈ issued) {token : String}
    (issuedToken : issueApprovalToken runtime issue = .ok token) :
    Unforged runtime issued token issue.key ∧ Canonical token := by
  obtain ⟨_, rfl⟩ := issueApprovalToken_eq_ok_iff.mp issuedToken
  have own := @rsplitDot_joinToken (unpaddedB64 (payloadBytes runtime issue)) _
    (sound.tagUndotted issue.key (payloadBytes runtime issue))
  constructor
  · intro encoded payload halves
    rw [own] at halves
    exact ⟨issue, inside, rfl, (Prod.mk.inj (Option.some.inj halves)).2⟩
  · intro encoded signature halves
    rw [own] at halves
    exact ⟨_, (Prod.mk.inj (Option.some.inj halves)).1.symm⟩

/-- A token with four exclamation marks in front. -/
def respelled (issue : ApprovalIssue) (runtime : TokenRuntime F) : String :=
  joinToken ('!' :: '!' :: '!' :: '!' :: unpaddedB64 (payloadBytes runtime issue))
    (runtime.sign issue.key (payloadBytes runtime issue))

/-- The respelled token is accepted like the token, and no call issues it. -/
theorem respelled_accepted (sound : runtime.Sound) {issue : ApprovalIssue} {check : TokenCheck}
    (keyed : issue.key ≠ "") (grants : Grants issue issue.key check) :
    verifyApprovalToken runtime (respelled issue runtime) issue.key check = .ok true ∧
      ∀ other, issueApprovalToken runtime other ≠ .ok (respelled issue runtime) := by
  have halves : rsplitDot (respelled issue runtime) = _ :=
    rsplitDot_joinToken (sound.tagUndotted issue.key (payloadBytes runtime issue))
  have decoded := (urlsafeB64decode_junk (unpaddedB64 (payloadBytes runtime issue))).trans
    (urlsafeB64decode_unpadded (payloadBytes runtime issue))
  constructor
  · rw [verifyApprovalToken_of_opened keyed (openToken_of_spelled sound halves decoded),
      claimsHold_payload.mpr grants]
  · intro other issuedToken
    obtain ⟨_, spelled⟩ := issueApprovalToken_eq_ok_iff.mp issuedToken
    have own := @rsplitDot_joinToken (unpaddedB64 (payloadBytes runtime other)) _
      (sound.tagUndotted other.key (payloadBytes runtime other))
    rw [← spelled, halves] at own
    have letters := (Prod.mk.inj (Option.some.inj own)).1
    rw [letters, urlsafeB64decode_unpadded] at decoded
    rw [Option.some.inj decoded] at letters
    have lengths := congrArg List.length letters
    simp only [List.length_cons] at lengths
    omega

/-! ## The claims of a token -/

/-- The text of a kind. -/
def kindText : TokenKind → String
  | .grant => tokenKindGrant
  | .pending => tokenKindPending

/-- The kind of a text. -/
def kindOfText (text : String) : Option TokenKind :=
  if text = tokenKindGrant then some .grant
  else if text = tokenKindPending then some .pending
  else none

/-- A binding claim, if it is there. -/
def bindingOf : Option (Json F) → Option String
  | some (.str text) => some text
  | _ => none

/-- The claims of a payload of the issued shape. -/
def claimsOf (payload : Json F) : Option TokenClaims :=
  match payload with
  | .dict entries =>
      match dictGet entries "v", dictGet entries "fp", dictGet entries "k",
        dictGet entries "exp" with
      | some (.int version), some (.str fingerprint), some (.str kind), some (.int expires) =>
          (kindOfText kind).map fun kind =>
            { version, fingerprint, kind, expires, connection := bindingOf (dictGet entries "cx")
              boundSubject := bindingOf (dictGet entries "sub_bind") }
      | _, _, _, _ => none
  | _ => none

/-- The claims of a token signed with the key. -/
def openClaims (runtime : TokenRuntime F) (key token : String) : Option TokenClaims :=
  if key = "" ∨ token = "" then none
  else
    match openToken runtime token key with
    | .ok (some payload) => claimsOf payload
    | _ => none

theorem kindOfText_eq_some_iff {text : String} {kind : TokenKind} :
    kindOfText text = some kind ↔ text = kindText kind := by
  have differ : tokenKindPending ≠ tokenKindGrant := by decide
  unfold kindOfText
  cases kind with
  | grant =>
      by_cases grant : text = tokenKindGrant
      · simp [grant, kindText]
      · by_cases pending : text = tokenKindPending
        · simp [pending, differ, kindText]
        · simp [grant, pending, kindText]
  | pending =>
      by_cases grant : text = tokenKindGrant
      · simp [grant, differ.symm, kindText]
      · by_cases pending : text = tokenKindPending
        · simp [pending, differ, kindText]
        · simp [grant, pending, kindText]

theorem bindingOf_map (value : Option String) :
    bindingOf (value.map (Json.str (F := F))) = value := by
  cases value with
  | none => rfl
  | some _ => rfl

/-- The claims of an issued payload. -/
theorem claimsOf_payload (issue : ApprovalIssue) :
    claimsOf (sortKeys (.dict (issue.payload (F := F)))) =
      (kindOfText issue.kind).map fun kind =>
        { version := tokenFormatVersion, fingerprint := issue.fingerprint, kind := kind
          expires := issue.expires, connection := issue.connectionId
          boundSubject := issue.principalSubject } := by
  obtain ⟨entries, sorted⟩ : ∃ entries, sortKeys (.dict (issue.payload (F := F))) = .dict entries :=
    ⟨_, rfl⟩
  obtain ⟨version, fingerprint, kind, expires, _, connection, principal⟩ :=
    issue.dictGet_payload (F := F)
  rw [sorted]
  simp only [claimsOf, sortedClaims issue _ sorted, version, fingerprint, kind, expires,
    connection, principal, bindingOf_map]

/-- On a token that was not forged, reading the text agrees with checking its claims. -/
theorem verifyApprovalToken_eq_claims (sound : runtime.Sound) {issued : Set ApprovalIssue}
    {token key : String} (unforged : Unforged runtime issued token key) (fingerprint : String)
    (connectionId principalSubject : Option String) (kind : TokenKind) (now : Int) :
    verifyApprovalToken runtime token key
        ⟨fingerprint, connectionId, principalSubject, kindText kind, now⟩ =
      .ok (QueryGate.verifyApprovalToken (openClaims runtime key) token fingerprint connectionId
        principalSubject kind now) := by
  unfold verifyApprovalToken QueryGate.verifyApprovalToken openClaims
  by_cases missing : key = "" ∨ token = ""
  · rw [if_pos missing, if_pos missing]
  rw [if_neg missing, if_neg missing]
  rcases openToken_unforged sound unforged with malformed | notAscii | mismatch | spelled
  · rw [malformed]
  · rw [notAscii]
  · rw [mismatch]
  obtain ⟨issue, _, rfl, encoded, halves, decoded⟩ := spelled
  rw [openToken_of_spelled sound halves decoded]
  refine congrArg Except.ok (Bool.eq_iff_iff.mpr ?_)
  rw [claimsHold_payload]
  simp only [claimsOf_payload]
  cases ofKind : kindOfText issue.kind with
  | none =>
      refine iff_of_false (fun grants => ?_) Bool.false_ne_true
      rw [kindOfText_eq_some_iff.mpr grants.kind] at ofKind
      cases ofKind
  | some own =>
      have named := kindOfText_eq_some_iff.mp ofKind
      simp only [Option.map_some, Bool.and_eq_true, beq_iff_eq, beq_self_eq_true, true_and,
        decide_eq_true_eq, boundTo, Bool.or_eq_true, Option.isNone_iff_eq_none]
      constructor
      · intro grants
        have kinds := kindOfText_eq_some_iff.mpr grants.kind
        exact ⟨⟨⟨⟨grants.fingerprint, Option.some.inj (ofKind.symm.trans kinds)⟩,
          grants.connection⟩, grants.principal⟩, Int.cast_lt.mp grants.expires⟩
      · rintro ⟨⟨⟨⟨sameText, rfl⟩, onConnection⟩, bySubject⟩, later⟩
        exact ⟨rfl, sameText, named, onConnection, bySubject, Int.cast_lt.mpr later⟩

end Tokens

/-! ## An instance -/

/-- A tag that spells key and payload, and no numbers with a fraction. -/
def plainRuntime : TokenRuntime Empty where
  sign := fun key payload => String.ofList (unpaddedB64 (encodeUtf8 key.toList ++ payload))
  tooDeep := fun _ => false
  format := ⟨Empty.elim, fun _ => none⟩
  equalsInt := fun value => value.elim

theorem plainRuntime_sound : plainRuntime.Sound where
  tagInjective := fun _ _ _ same =>
    List.append_cancel_left (unpaddedB64_injective (String.ofList_injective same))
  tagAscii := fun key payload => by
    rw [isAscii, plainRuntime, String.toList_ofList, List.all_eq_true]
    exact fun letter member => decide_eq_true (mem_unpaddedB64 member).2
  tagUndotted := fun key payload member => by
    rw [plainRuntime, String.toList_ofList] at member
    exact (mem_unpaddedB64 member).1 rfl
  shallow := fun _ _ => rfl

/-- A grant that names neither a connection nor a subject. -/
def unboundIssue : ApprovalIssue where
  fingerprint := "f1"
  approverSubject := "approver"
  key := "hmac key"
  connectionId := none
  principalSubject := none
  now := 0

/-- The check of a caller with a connection and a subject, a moment later. -/
def boundCheck : TokenCheck where
  fingerprint := "f1"
  connectionId := some "prod"
  principalSubject := some "analyst"
  now := 1

theorem unboundIssue_grants : Grants unboundIssue unboundIssue.key boundCheck where
  key := rfl
  fingerprint := rfl
  kind := rfl
  connection := Or.inl rfl
  principal := Or.inl rfl
  expires := by decide +kernel

/-- The grant that names no connection is accepted for any, and so is a text that no call
issues. -/
theorem accepted_unbound_respelled :
    (∃ token, issueApprovalToken plainRuntime unboundIssue = .ok token ∧
      verifyApprovalToken plainRuntime token "hmac key" boundCheck = .ok true ∧
      ¬ ∃ issue, issueApprovalToken plainRuntime issue = .ok token ∧
        issue.connectionId = boundCheck.connectionId) ∧
    verifyApprovalToken plainRuntime (respelled unboundIssue plainRuntime) "hmac key" boundCheck =
        .ok true ∧
      ¬ ∃ issue, issueApprovalToken plainRuntime issue =
        .ok (respelled unboundIssue plainRuntime) := by
  have keyed : unboundIssue.key ≠ "" := by decide
  have accepted := respelled_accepted plainRuntime_sound keyed unboundIssue_grants
  refine ⟨⟨_, issueApprovalToken_eq_ok_iff.mpr ⟨keyed, rfl⟩, ?_, ?_⟩, accepted.1, ?_⟩
  · exact (verifyApprovalToken_of_opened keyed
      (openToken_joinToken plainRuntime_sound unboundIssue)).trans
        (congrArg Except.ok (claimsHold_payload.mpr unboundIssue_grants))
  · rintro ⟨issue, issuedToken, bound⟩
    have payloads := payload_eq_of_payloadBytes (payloadBytes_eq_of_token plainRuntime_sound
      issuedToken (issueApprovalToken_eq_ok_iff.mpr ⟨keyed, rfl⟩))
    have connection := congrArg (dictGet · "cx") payloads
    obtain ⟨_, _, _, _, _, found, _⟩ := issue.dictGet_payload (F := Empty)
    rw [found, bound] at connection
    cases connection
  · rintro ⟨issue, issuedToken⟩
    exact accepted.2 issue issuedToken

/-- The token of a grant that is checked as issued. -/
theorem verifyApprovalToken_unboundIssue :
    verifyApprovalToken plainRuntime
      (joinToken (unpaddedB64 (payloadBytes plainRuntime unboundIssue))
        (plainRuntime.sign "hmac key" (payloadBytes plainRuntime unboundIssue)))
      "hmac key" boundCheck = .ok true := by
  have issuedToken := (@issueApprovalToken_eq_ok_iff _ plainRuntime unboundIssue _).mpr
    ⟨by decide, rfl⟩
  obtain ⟨unforged, canonical⟩ := unforged_of_issued plainRuntime_sound
    (Set.mem_singleton unboundIssue) issuedToken
  exact ((tokensExact_of_sound plainRuntime_sound {unboundIssue}).exact unforged canonical).mpr
    ⟨unboundIssue, rfl, issuedToken, unboundIssue_grants⟩

end QueryGate.ApprovalTokens
