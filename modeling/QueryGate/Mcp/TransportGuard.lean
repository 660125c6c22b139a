import QueryGate.Foundation.Base64
import QueryGate.Foundation.CodePoints
import QueryGate.Foundation.Encoding
import QueryGate.Foundation.JsonTree

/-! # The guard in front of the MCP transport

`mcp/transport_guard.py`: a request body is buffered up to a number of bytes, its bytes are
scanned for nesting, and its routing headers are compared with what it holds, all before the
transport reads it as JSON. The scan goes over bytes and the reader over code points: they
keep in step on UTF-8 (`scan_utf8Codes`), and on wider encodings as long as no byte of a
character looks like a bracket, a quote or a backslash and no string escapes a quote
(`scan_wide`).
-/

namespace QueryGate

open Foundation Foundation.JsonCode

/-! ## The depth scan -/

/-- `_OPENERS`. -/
def openers : List Nat := [0x7b, 0x5b]

/-- `_CLOSERS`. -/
def closers : List Nat := [0x7d, 0x5d]

/-- `_QUOTE`. -/
def quoteByte : Nat := 0x22

/-- `_BACKSLASH`. -/
def backslashByte : Nat := 0x5c

/-- `in_string` and `escaped`, the second of which is only set inside a string. -/
inductive ScanMode
  | outside
  | inString
  | escaped
  deriving DecidableEq, Repr

/-- What the scan keeps from byte to byte. -/
structure ScanState where
  depth : Nat
  mode : ScanMode
  deriving DecidableEq, Repr

namespace ScanState

/-- The scan outside a string, so many containers deep. -/
def level (depth : Nat) : ScanState where
  depth := depth
  mode := .outside

/-- One byte of the scan; nothing is left where it crosses the limit. -/
def next (maxDepth : Nat) (state : ScanState) (byte : Nat) : Option ScanState :=
  match state.mode with
  | .escaped => some { state with mode := .inString }
  | .inString =>
      if byte = backslashByte then some { state with mode := .escaped }
      else if byte = quoteByte then some { state with mode := .outside }
      else some state
  | .outside =>
      if byte = quoteByte then some { state with mode := .inString }
      else if byte ∈ openers then
        if maxDepth < state.depth + 1 then none else some { state with depth := state.depth + 1 }
      else if byte ∈ closers then
        some { state with depth := if 0 < state.depth then state.depth - 1 else state.depth }
      else some state

end ScanState

/-- The loop of the scan. -/
def scan (maxDepth : Nat) (state : ScanState) (bytes : List Nat) : Option ScanState :=
  bytes.foldlM (ScanState.next maxDepth) state

/-- `_structural_depth_exceeds`. -/
def structuralDepthExceeds (raw : List UInt8) (maxDepth : Nat) : Bool :=
  (scan maxDepth (.level 0) (raw.map UInt8.toNat)).isNone

/-- `json.loads` of bytes, with so many levels of recursion left. -/
def jsonLoads (limit : Nat) (raw : List UInt8) : Except ReadError JsonTree :=
  let bytes := raw.map UInt8.toNat
  match (detectEncoding bytes).decode bytes with
  | none => .error .malformed
  | some codes => (Foundation.readText limit codes).map JsonTree.value

/-! ## The routing headers -/

/-- A header of the request. -/
abbrev Header := List UInt8 × List UInt8

/-- `value.decode("latin-1")`. -/
def latin1 (value : List UInt8) : List Nat :=
  value.map UInt8.toNat

/-- `name.lower()` of bytes. -/
def lowerBytes (name : List UInt8) : List UInt8 :=
  name.map fun byte => if 0x41 ≤ byte ∧ byte ≤ 0x5a then byte + 0x20 else byte

/-- `_MCP_METHOD_HEADER`. -/
def mcpMethodHeader : List UInt8 := encodeUtf8 "mcp-method".toList

/-- `_MCP_NAME_HEADER`. -/
def mcpNameHeader : List UInt8 := encodeUtf8 "mcp-name".toList

/-- `_MCP_PARAM_CONNECTION_HEADER`. -/
def mcpParamConnectionHeader : List UInt8 := encodeUtf8 "mcp-param-connection".toList

/-- `_BASE64_SENTINEL_PREFIX`. -/
def base64SentinelStart : List Nat := codesOf "=?base64?"

/-- `_BASE64_SENTINEL_SUFFIX`. -/
def base64SentinelEnd : List Nat := codesOf "?="

/-- `_HEADER_MISMATCH_CODE`. -/
def headerMismatchCode : Int := -32020

/-- `_find_header_values`. -/
def findHeaderValues (headers : List Header) (name : List UInt8) : List (List Nat) :=
  (headers.filter fun header => lowerBytes header.1 == name).map fun header => latin1 header.2

/-- `binascii.a2b_base64` in strict mode: letters of the alphabet, and at the end the
padding that completes the last group and nothing else. -/
def strictBase64 (state : QuadState) : List Char → Option (List UInt8)
  | [] => if state = .zero then some [] else none
  | letter :: rest =>
      if letter = '=' then
        match state with
        | .two _ => if rest = ['='] then some [] else none
        | .three _ => if rest = [] then some [] else none
        | _ => none
      else
        (base64Value letter).bind fun value =>
          (strictBase64 (state.next value).1 rest).map ((state.next value).2 ++ ·)

/-- `base64.b64decode(payload, validate=True).decode("utf-8")`. -/
def decodeBase64Text (payload : List Nat) : Option (List Nat) :=
  if payload.all fun code => code < 0x80 then
    (strictBase64 .zero (payload.map Char.ofNat)).bind fun bytes =>
      (decodeUtf8 bytes).map fun text => text.map Char.toNat
  else none

/-- `_decode_sentinel_value`. -/
def decodeSentinelValue (raw : List Nat) : Option (List Nat) :=
  if base64SentinelStart.isPrefixOf raw && base64SentinelEnd.isSuffixOf raw then
    decodeBase64Text
      ((raw.take (raw.length - base64SentinelEnd.length)).drop base64SentinelStart.length)
  else some raw

/-- `text != value` of a text and a value that may be missing. -/
def differsFrom (text : List Nat) (value : Option JsonTree) : Bool :=
  match value with
  | some (.str codes) => text != codes
  | _ => true

section Messages

variable (repr : Option JsonTree → List Nat)

/-- `_clip`. -/
def clip (value : Option JsonTree) : List Nat :=
  let text := repr value
  if text.length ≤ 200 then text else text.take 200 ++ codesOf "...'"

/-- The check of one header against its value in the body: it stands once, it can be read,
and it agrees. `bodyValue` refuses a body that does not tell which value is meant. -/
def headerMismatch (title : String) (values : List (List Nat))
    (bodyValue : Except (List Nat) (Option JsonTree)) : Option (List Nat) :=
  match values with
  | [] => none
  | first :: more =>
      if more ≠ [] then some (codesOf s!"Header mismatch: {title} header is repeated.")
      else
        match decodeSentinelValue first with
        | none => some (codesOf s!"Header mismatch: {title} header value is malformed.")
        | some decoded =>
            match bodyValue with
            | .error message => some message
            | .ok value =>
                if differsFrom decoded value then
                  some (codesOf s!"Header mismatch: {title} header value " ++
                    clip repr (some (.str decoded)) ++ codesOf " does not match body value " ++
                    clip repr value)
                else none

/-- The value that `Mcp-Name` mirrors. -/
def mirroredName (body : JsonTree) : Except (List Nat) (Option JsonTree) :=
  match body.get (codesOf "params") with
  | some (.dict entries) =>
      let params := JsonTree.dict entries
      let hasUri := (params.get (codesOf "uri")).isSome
      let prefersUri := match body.get (codesOf "method") with
        | some (.str method) => (codesOf "resources/").isPrefixOf method
        | _ => false
      if (params.get (codesOf "name")).isSome && hasUri then
        .error (codesOf "Header mismatch: body carries both params.name and params.uri.")
      else if prefersUri && hasUri then .ok (params.get (codesOf "uri"))
      else .ok (params.get (codesOf "name"))
  | _ => .ok none

/-- The value that `Mcp-Param-Connection` mirrors. -/
def mirroredConnection (body : JsonTree) : Option JsonTree :=
  ((body.get (codesOf "params")).bind fun params => params.get (codesOf "arguments")).bind
    fun arguments => arguments.get (codesOf "connection")

/-- `_header_body_mismatch`, with so many levels of recursion left. -/
def headerBodyMismatch (limit : Nat) (headers : List Header) (raw : List UInt8) :
    Option (List Nat) :=
  let methodValues := findHeaderValues headers mcpMethodHeader
  let nameValues := findHeaderValues headers mcpNameHeader
  let connectionValues := findHeaderValues headers mcpParamConnectionHeader
  if methodValues = [] ∧ nameValues = [] ∧ connectionValues = [] then none
  else
    match jsonLoads limit raw with
    | .error _ => some (codesOf "Header mismatch: request body is not valid JSON.")
    | .ok (.dict entries) =>
        let body := JsonTree.dict entries
        (headerMismatch repr "Mcp-Method" methodValues (.ok (body.get (codesOf "method")))).or
          ((headerMismatch repr "Mcp-Name" nameValues (mirroredName body)).or
            (headerMismatch repr "Mcp-Param-Connection" connectionValues
              (.ok (mirroredConnection body))))
    | .ok _ =>
        some (codesOf "Header mismatch: request body is not a single JSON-RPC request object.")

end Messages

/-! ## The middleware -/

/-- `AppConfig.mcp_max_request_bytes` and `AppConfig.mcp_max_request_depth`, with the
interpreter's recursion limit and its spelling of values. -/
structure GuardSettings where
  maxBytes : Nat
  maxDepth : Nat
  limit : Nat
  repr : Option JsonTree → List Nat

/-- A message of the receive channel. -/
inductive ReceiveMessage
  | disconnect
  | request (body : List UInt8) (moreBody : Bool)

/-- The code of a rejection. -/
inductive RejectCode
  | payloadTooLarge
  | malformedRequest
  | headerMismatch
  deriving DecidableEq, Repr

/-- A request, with the messages its channel gives. -/
structure GuardedRequest where
  isHttp : Bool
  headers : List Header
  messages : List ReceiveMessage

/-- What the middleware does with a request. -/
inductive GuardOutcome
  | passedThrough
  | disconnected
  | waiting
  | rejected (status : Nat) (code : RejectCode) (message : List Nat)
  | forwarded (body : List UInt8)

/-- `int(value)` of bytes: blanks around it, a sign, and digits that may be grouped by single
underscores. -/
def bytesInt (value : List UInt8) : Option Int :=
  let isSpace : Nat → Bool := fun byte => byte == 0x20 || (0x9 ≤ byte && byte ≤ 0xd)
  let codes := ((value.map UInt8.toNat).dropWhile isSpace).reverse.dropWhile isSpace |>.reverse
  let negative := codes.head? = some 0x2d
  let unsigned := if negative ∨ codes.head? = some 0x2b then codes.tail else codes
  let groups := unsigned.splitOn 0x5f
  let digits := groups.flatten
  if groups.all (fun group => !group.isEmpty && group.all isDigitCode) ∧
      digits.length ≤ maxIntDigits then
    let magnitude : Int := digits.foldl (fun total digit => total * 10 + (digit - 0x30 : Nat)) 0
    some (if negative then -magnitude else magnitude)
  else none

/-- The rejection of a body that is too large. -/
def tooLarge : GuardOutcome :=
  .rejected 413 .payloadTooLarge (codesOf "Request body exceeds the configured size limit.")

/-- The rejection of a body that is nested too deeply. -/
def tooDeep : GuardOutcome :=
  .rejected 400 .malformedRequest (codesOf "Request body is nested too deeply.")

/-- Whether the declared length is over the limit. -/
def declaresTooMuch (settings : GuardSettings) (headers : List Header) : Bool :=
  match headers.find? fun header => header.1 == encodeUtf8 "content-length".toList with
  | some (_, value) =>
      match bytesInt value with
      | some declared => (settings.maxBytes : Int) < declared
      | none => false
  | none => false

/-- What comes of a body once it is buffered. -/
def judgeBody (settings : GuardSettings) (headers : List Header) (buffered : List UInt8) :
    GuardOutcome :=
  if structuralDepthExceeds buffered settings.maxDepth then tooDeep
  else
    match headerBodyMismatch settings.repr settings.limit headers buffered with
    | some mismatch => .rejected 400 .headerMismatch mismatch
    | none => .forwarded buffered

/-- The loop that buffers a body, over the messages that are still to come. -/
def bufferBody (settings : GuardSettings) (headers : List Header) (buffered : List UInt8) :
    List ReceiveMessage → GuardOutcome
  | [] => .waiting
  | .disconnect :: _ => .disconnected
  | .request body moreBody :: rest =>
      if body ≠ [] ∧ settings.maxBytes < buffered.length + body.length then tooLarge
      else if moreBody then bufferBody settings headers (buffered ++ body) rest
      else judgeBody settings headers (buffered ++ body)

/-- `MCPRequestGuardMiddleware.__call__`. -/
def MCPRequestGuardMiddleware.call (settings : GuardSettings) (request : GuardedRequest) :
    GuardOutcome :=
  if !request.isHttp then .passedThrough
  else if declaresTooMuch settings request.headers then tooLarge
  else bufferBody settings request.headers [] request.messages

/-! ## The scan of a text -/

theorem scan_append (maxDepth : Nat) (state : ScanState) (front back : List Nat) :
    scan maxDepth state (front ++ back) =
      (scan maxDepth state front).bind fun reached => scan maxDepth reached back :=
  List.foldlM_append

theorem scan_cons (maxDepth : Nat) (state : ScanState) (byte : Nat) (rest : List Nat) :
    scan maxDepth state (byte :: rest) =
      (state.next maxDepth byte).bind fun reached => scan maxDepth reached rest :=
  List.foldlM_cons

namespace ScanState

/-- The state behind a byte that has no structure. -/
def calm (state : ScanState) : ScanState where
  depth := state.depth
  mode := match state.mode with
    | .escaped => .inString
    | mode => mode

@[simp] theorem calm_calm (state : ScanState) : state.calm.calm = state.calm := by
  obtain ⟨depth, _ | _ | _⟩ := state
  all_goals rfl

@[simp] theorem calm_level (depth : Nat) : (level depth).calm = level depth := rfl

theorem next_plain {code : Nat} (plain : isStructuralCode code = false) (maxDepth : Nat)
    (state : ScanState) : state.next maxDepth code = some state.calm := by
  simp only [isStructuralCode, Bool.or_eq_false_iff, beq_eq_false_iff_ne] at plain
  obtain ⟨⟨⟨⟨⟨noQuote, noEscape⟩, noList⟩, noListEnd⟩, noDict⟩, noDictEnd⟩ := plain
  have noOpener : code ∉ openers := by
    simp only [openers, List.mem_cons, List.not_mem_nil, or_false, not_or]
    exact ⟨noDict, noList⟩
  have noCloser : code ∉ closers := by
    simp only [closers, List.mem_cons, List.not_mem_nil, or_false, not_or]
    exact ⟨noDictEnd, noListEnd⟩
  obtain ⟨depth, _ | _ | _⟩ := state
  · simp only [next, if_neg (show ¬ code = quoteByte from noQuote), if_neg noOpener,
      if_neg noCloser]
    rfl
  · simp only [next, if_neg (show ¬ code = backslashByte from noEscape),
      if_neg (show ¬ code = quoteByte from noQuote)]
    rfl
  · rfl

theorem next_opener {opener : Nat} (opens : opener = openList ∨ opener = openDict)
    (maxDepth depth : Nat) : (level depth).next maxDepth opener =
      if depth + 1 ≤ maxDepth then some (level (depth + 1)) else none := by
  have crosses : (level depth).next maxDepth opener =
      if maxDepth < depth + 1 then none else some (level (depth + 1)) := by
    rcases opens with rfl | rfl
    · rfl
    · rfl
  rw [crosses]
  by_cases fits : depth + 1 ≤ maxDepth
  · rw [if_pos fits, if_neg (not_lt.mpr fits)]
  · rw [if_neg fits, if_pos (not_le.mp fits)]

theorem next_closer {closer : Nat} (closes : closer = closeList ∨ closer = closeDict)
    (maxDepth depth : Nat) : (level (depth + 1)).next maxDepth closer = some (level depth) := by
  rcases closes with rfl | rfl
  · rfl
  · rfl

end ScanState

open ScanState

/-- The scan of a string behind its opening quote ends outside. -/
theorem scan_stringBody {body : List Nat} (isBody : StringBody body) (maxDepth depth : Nat) :
    scan maxDepth ⟨depth, .inString⟩ body = some (level depth) := by
  induction isBody with
  | close => rfl
  | @escaped rest code _ ih =>
      rw [scan_cons, show ScanState.next maxDepth ⟨depth, .inString⟩ backslash =
        some ⟨depth, .escaped⟩ from rfl, Option.bind_some, scan_cons]
      exact ih
  | @plain code rest noQuote noEscape _ ih =>
      have stays : ScanState.next maxDepth ⟨depth, .inString⟩ code =
          some ⟨depth, .inString⟩ := by
        simp only [next, if_neg (show ¬ code = backslashByte from noEscape),
          if_neg (show ¬ code = quoteByte from noQuote)]
      rw [scan_cons, stays]
      exact ih

theorem scan_flat {text : List Nat} (flat : Flat text) (maxDepth depth : Nat) :
    scan maxDepth (level depth) text = some (level depth) := by
  induction flat with
  | nil => rfl
  | plain code _ ih =>
      rw [scan_cons, next_plain code]
      exact ih
  | string body _ ih =>
      rw [scan_cons, show ScanState.next maxDepth (level depth) quote =
        some ⟨depth, .inString⟩ from rfl, Option.bind_some, scan_append, scan_stringBody body]
      exact ih

/-- The scan of a text comes back to its level where the containers in it fit under the
limit, and crosses the limit where they do not. -/
theorem scan_nested {nesting : Nat} {text : List Nat} (nested : Nested nesting text)
    {maxDepth depth : Nat} (fits : depth ≤ maxDepth) : scan maxDepth (level depth) text =
      if depth + nesting ≤ maxDepth then some (level depth) else none := by
  induction nested generalizing depth with
  | flat flat => rw [scan_flat flat, Nat.add_zero, if_pos fits]
  | @wrap nesting _ _ text opens closes _ ih =>
      rw [scan_cons, next_opener opens]
      by_cases enters : depth + 1 ≤ maxDepth
      · rw [if_pos enters, Option.bind_some, scan_append, ih enters]
        by_cases inside : depth + 1 + nesting ≤ maxDepth
        · rw [if_pos inside, if_pos (by omega), Option.bind_some, scan_cons, next_closer closes]
          rfl
        · rw [if_neg inside, if_neg (by omega)]
          rfl
      · rw [if_neg enters, if_neg (by omega)]
        rfl
  | @append first second front back _ _ ihFront ihBack =>
      rw [scan_append, ihFront fits]
      by_cases frontFits : depth + first ≤ maxDepth
      · rw [if_pos frontFits, Option.bind_some, ihBack fits]
        by_cases backFits : depth + second ≤ maxDepth
        · rw [if_pos backFits, if_pos (by omega)]
        · rw [if_neg backFits, if_neg (by omega)]
      · rw [if_neg frontFits, if_neg (by omega)]
        rfl

/-- The scan crosses the limit in a text that stands deeper than the limit. -/
theorem scan_enters {reached : Nat} {text : List Nat} (enters : Enters reached text)
    {maxDepth depth : Nat} (fits : depth ≤ maxDepth) (beyond : maxDepth < depth + reached) :
    scan maxDepth (level depth) text = none := by
  induction enters generalizing depth with
  | opened opens =>
      rw [scan_cons, next_opener opens, if_neg (not_le.mpr beyond)]
      rfl
  | @inside reached _ _ opens _ ih =>
      rw [scan_cons, next_opener opens]
      by_cases inside : depth + 1 ≤ maxDepth
      · rw [if_pos inside]
        exact ih inside (by omega)
      · rw [if_neg inside]
        rfl
  | @behind passed _ _ _ nested _ ih =>
      rw [scan_append, scan_nested nested fits]
      by_cases frontFits : depth + passed ≤ maxDepth
      · rw [if_pos frontFits]
        exact ih fits beyond
      · rw [if_neg frontFits]
        rfl

/-- The scan of what is read crosses the limit exactly where the tree is deeper. -/
theorem scan_readText {limit : Nat} {codes : List Nat} {tree : JsonTree}
    (read : Foundation.readText limit codes = .ok tree) (maxDepth : Nat) :
    (scan maxDepth (level 0) codes).isNone = true ↔ maxDepth < tree.depth := by
  rw [scan_nested (readText_nested read) (Nat.zero_le _), Nat.zero_add]
  by_cases fits : tree.depth ≤ maxDepth
  · rw [if_pos fits]
    exact ⟨nofun, fun deeper => absurd fits (not_le.mpr deeper)⟩
  · rw [if_neg fits]
    exact ⟨fun _ => not_le.mp fits, fun _ => rfl⟩

/-- The scan crosses the limit wherever a reader with as many levels runs out of them. -/
theorem scan_recursion {maxDepth : Nat} {codes : List Nat}
    (stopped : Foundation.readText maxDepth codes = .error .recursion) :
    scan maxDepth (level 0) codes = none := by
  obtain ⟨text, rest, rfl, enters⟩ := readText_enters stopped
  rw [scan_append, scan_enters enters (Nat.zero_le _) (by omega)]
  rfl

/-! ## Bytes and code points -/

theorem plain_of_large {code : Nat} (large : 0x80 ≤ code) : isStructuralCode code = false := by
  simp only [isStructuralCode, quote, backslash, openList, closeList, openDict, closeDict,
    Bool.or_eq_false_iff, beq_eq_false_iff_ne]
  omega

/-- Bytes without structure leave the scan where it is. -/
theorem scan_plain {bytes : List Nat} (plain : ∀ byte ∈ bytes, isStructuralCode byte = false)
    (nonempty : bytes ≠ []) (maxDepth : Nat) (state : ScanState) :
    scan maxDepth state bytes = some state.calm := by
  induction bytes generalizing state with
  | nil => exact absurd rfl nonempty
  | cons byte rest ih =>
      obtain ⟨first, later⟩ := List.forall_mem_cons.mp plain
      rw [scan_cons, next_plain first, Option.bind_some]
      cases rest with
      | nil => rfl
      | cons second more => rw [ih later (List.cons_ne_nil _ _), calm_calm]

/-- A character spelled by large bytes is passed as the one code point it is. -/
theorem scan_character {bytes codes : List Nat} {code : Nat} {state : ScanState} {maxDepth : Nat}
    (front : List Nat) (large : ∀ byte ∈ front, 0x80 ≤ byte) (nonempty : front ≠ [])
    (largeCode : 0x80 ≤ code)
    (onward : ∀ state, scan maxDepth state bytes = scan maxDepth state codes) :
    scan maxDepth state (front ++ bytes) = scan maxDepth state (code :: codes) := by
  rw [scan_append, scan_plain (fun byte member => plain_of_large (large byte member)) nonempty,
    scan_cons, next_plain (plain_of_large largeCode)]
  exact onward _

theorem twoBytes_large {a b code : Nat} (read : twoBytes a b = some code) :
    (∀ byte ∈ [a, b], 0x80 ≤ byte) ∧ 0x80 ≤ code := by
  simp only [twoBytes, isTailByte, Bool.and_eq_true, decide_eq_true_eq] at read
  split_ifs at read with range
  have same := Option.some.inj read
  simp only [List.forall_mem_cons]
  exact ⟨⟨by omega, by omega, nofun⟩, by omega⟩

theorem threeBytes_large {a b c code : Nat} (read : threeBytes a b c = some code) :
    (∀ byte ∈ [a, b, c], 0x80 ≤ byte) ∧ 0x80 ≤ code := by
  simp only [threeBytes, isTailByte, Bool.and_eq_true, decide_eq_true_eq] at read
  split_ifs at read with range
  have same := Option.some.inj read
  simp only [List.forall_mem_cons]
  exact ⟨⟨by omega, by omega, by omega, nofun⟩, by omega⟩

theorem fourBytes_large {a b c d code : Nat} (read : fourBytes a b c d = some code) :
    (∀ byte ∈ [a, b, c, d], 0x80 ≤ byte) ∧ 0x80 ≤ code := by
  simp only [fourBytes, isTailByte, Bool.and_eq_true, decide_eq_true_eq] at read
  split_ifs at read with range
  have same := Option.some.inj read
  simp only [List.forall_mem_cons]
  exact ⟨⟨by omega, by omega, by omega, by omega, nofun⟩, by omega⟩

/-- In UTF-8 every byte below 128 is a character of its own, and the scan goes over the
bytes as over the code points. -/
theorem scan_utf8Codes {bytes codes : List Nat} (read : utf8Codes bytes = some codes)
    (maxDepth : Nat) (state : ScanState) :
    scan maxDepth state bytes = scan maxDepth state codes := by
  fun_induction utf8Codes bytes generalizing codes state with
  | case1 => cases read; rfl
  | case2 a rest small ih =>
      obtain ⟨more, readMore, rfl⟩ := Option.map_eq_some_iff.mp read
      rw [scan_cons, scan_cons]
      exact Option.bind_congr fun reached _ => ih readMore reached
  | case3 => cases read
  | case4 a _ b rest code two ih =>
      obtain ⟨more, readMore, rfl⟩ := Option.map_eq_some_iff.mp read
      obtain ⟨large, largeCode⟩ := twoBytes_large two
      exact scan_character [a, b] large (List.cons_ne_nil _ _) largeCode (ih readMore)
  | case5 => cases read
  | case6 a _ b _ c rest code three ih =>
      obtain ⟨more, readMore, rfl⟩ := Option.map_eq_some_iff.mp read
      obtain ⟨large, largeCode⟩ := threeBytes_large three
      exact scan_character [a, b, c] large (List.cons_ne_nil _ _) largeCode (ih readMore)
  | case7 => cases read
  | case8 a _ b _ c _ d rest ih =>
      obtain ⟨code, four, readRest⟩ := Option.bind_eq_some_iff.mp read
      obtain ⟨more, readMore, rfl⟩ := Option.map_eq_some_iff.mp readRest
      obtain ⟨large, largeCode⟩ := fourBytes_large four
      exact scan_character [a, b, c, d] large (List.cons_ne_nil _ _) largeCode (ih readMore)

/-! ## Units of two bytes and four -/

/-- The four bytes of a unit, the least significant first. -/
def unitBytes (unit : Nat) : List Nat :=
  [unit % 256, unit / 256 % 256, unit / 65536 % 256, unit / 16777216]

/-- The mode of the scan behind a unit. -/
def ScanMode.after : ScanMode → Nat → ScanMode
  | .escaped, _ => .inString
  | .inString, unit =>
      if unit = backslashByte then .escaped else if unit = quoteByte then .outside else .inString
  | .outside, unit => if unit = quoteByte then .inString else .outside

/-- Whether a backslash escapes a quote in some string of the text. -/
def escapesQuote (mode : ScanMode) : List Nat → Bool
  | [] => false
  | unit :: rest => (mode == .escaped && unit == quoteByte) || escapesQuote (mode.after unit) rest

/-- Units over which the scan of their bytes keeps in step with the text: the bytes of a
character beyond ASCII do not look like structure, and no quote is escaped. The byte that
goes with a backslash takes up the escape before the character that is escaped. -/
structure UnitsInStep (units : List Nat) : Prop where
  plain : ∀ unit ∈ units, 0x80 ≤ unit → ∀ byte ∈ unitBytes unit, isStructuralCode byte = false
  unescaped : escapesQuote .outside units = false

/-- How the bytes of a unit spell it: none has structure but the one of an ASCII character,
behind zeros where the most significant byte comes first and in front of them where it comes
last. -/
def SpelledBy (big : Bool) (unit : Nat) (bytes : List Nat) : Prop :=
  (0x80 ≤ unit ∧ bytes ≠ [] ∧ ∀ byte ∈ bytes, isStructuralCode byte = false) ∨
    ∃ zeros, zeros ≠ [] ∧ (∀ byte ∈ zeros, isStructuralCode byte = false) ∧
      bytes = if big then zeros ++ [unit] else unit :: zeros

/-- Units and the bytes that spell them. -/
inductive SpelledAll (big : Bool) : List Nat → List Nat → Prop
  | nil : SpelledAll big [] []
  | cons {unit : Nat} {units front back : List Nat} : SpelledBy big unit front →
      SpelledAll big units back → SpelledAll big (unit :: units) (front ++ back)

theorem spelledBy_two {big : Bool} {a b : Nat} (bytes : a < 256 ∧ b < 256)
    (plain : 0x80 ≤ (if big then a * 256 + b else b * 256 + a) →
      ∀ byte ∈ unitBytes (if big then a * 256 + b else b * 256 + a),
        isStructuralCode byte = false) :
    SpelledBy big (if big then a * 256 + b else b * 256 + a) [a, b] := by
  by_cases large : 0x80 ≤ (if big then a * 256 + b else b * 256 + a)
  · refine .inl ⟨large, List.cons_ne_nil _ _, ?_⟩
    have inUnit := plain large
    simp only [unitBytes, List.forall_mem_cons] at inUnit ⊢
    cases big with
    | true =>
        simp only [if_true] at inUnit
        rw [show (a * 256 + b) % 256 = b by omega,
          show (a * 256 + b) / 256 % 256 = a by omega] at inUnit
        exact ⟨inUnit.2.1, inUnit.1, nofun⟩
    | false =>
        simp only [Bool.false_eq_true, if_false] at inUnit
        rw [show (b * 256 + a) % 256 = a by omega,
          show (b * 256 + a) / 256 % 256 = b by omega] at inUnit
        exact ⟨inUnit.1, inUnit.2.1, nofun⟩
  · refine .inr ⟨[0], List.cons_ne_nil _ _, List.forall_mem_singleton.mpr rfl, ?_⟩
    cases big with
    | true =>
        simp only [if_true] at large ⊢
        obtain ⟨rfl⟩ : a = 0 := by omega
        simp
    | false =>
        simp only [Bool.false_eq_true, if_false] at large ⊢
        obtain ⟨rfl⟩ : b = 0 := by omega
        simp

theorem spelledBy_four {big : Bool} {a b c d unit : Nat}
    (bytes : a < 256 ∧ b < 256 ∧ c < 256 ∧ d < 256)
    (spells : unit = if big then ((a * 256 + b) * 256 + c) * 256 + d
      else ((d * 256 + c) * 256 + b) * 256 + a)
    (plain : 0x80 ≤ unit → ∀ byte ∈ unitBytes unit, isStructuralCode byte = false) :
    SpelledBy big unit [a, b, c, d] := by
  by_cases large : 0x80 ≤ unit
  · refine .inl ⟨large, List.cons_ne_nil _ _, ?_⟩
    have inUnit := plain large
    simp only [unitBytes, List.forall_mem_cons] at inUnit ⊢
    cases big with
    | true =>
        rw [if_pos rfl] at spells
        rw [show unit % 256 = d by omega, show unit / 256 % 256 = c by omega,
          show unit / 65536 % 256 = b by omega, show unit / 16777216 = a by omega] at inUnit
        exact ⟨inUnit.2.2.2.1, inUnit.2.2.1, inUnit.2.1, inUnit.1, nofun⟩
    | false =>
        rw [if_neg Bool.false_ne_true] at spells
        rw [show unit % 256 = a by omega, show unit / 256 % 256 = b by omega,
          show unit / 65536 % 256 = c by omega, show unit / 16777216 = d by omega] at inUnit
        exact ⟨inUnit.1, inUnit.2.1, inUnit.2.2.1, inUnit.2.2.2.1, nofun⟩
  · refine .inr ⟨[0, 0, 0], List.cons_ne_nil _ _, ?_, ?_⟩
    · simp only [List.forall_mem_cons]
      exact ⟨rfl, rfl, rfl, nofun⟩
    · cases big with
      | true =>
          rw [if_pos rfl] at spells
          obtain ⟨rfl, rfl, rfl, rfl⟩ : a = 0 ∧ b = 0 ∧ c = 0 ∧ unit = d := by omega
          rfl
      | false =>
          rw [if_neg Bool.false_ne_true] at spells
          obtain ⟨rfl, rfl, rfl, rfl⟩ : b = 0 ∧ c = 0 ∧ d = 0 ∧ unit = a := by omega
          rfl

theorem spelledAll_of_units16 {big : Bool} {bytes units : List Nat}
    (read : unitsOf16 big bytes = some units) (small : ∀ byte ∈ bytes, byte < 256)
    (plain : ∀ unit ∈ units, 0x80 ≤ unit →
      ∀ byte ∈ unitBytes unit, isStructuralCode byte = false) :
    SpelledAll big units bytes := by
  fun_induction unitsOf16 big bytes generalizing units with
  | case1 => cases read; exact .nil
  | case2 => cases read
  | case3 a b rest ih =>
      obtain ⟨more, readMore, rfl⟩ := Option.map_eq_some_iff.mp read
      simp only [List.forall_mem_cons] at small plain
      exact .cons (spelledBy_two ⟨small.1, small.2.1⟩ plain.1)
        (ih readMore small.2.2 plain.2)

theorem spelledAll_of_units32 {big : Bool} {bytes units : List Nat}
    (read : unitsOf32 big bytes = some units) (small : ∀ byte ∈ bytes, byte < 256)
    (plain : ∀ unit ∈ units, 0x80 ≤ unit →
      ∀ byte ∈ unitBytes unit, isStructuralCode byte = false) :
    SpelledAll big units bytes := by
  fun_induction unitsOf32 big bytes generalizing units with
  | case1 => cases read; exact .nil
  | case2 a b c d rest =>
      rename_i ih
      obtain ⟨more, readMore, rfl⟩ := Option.map_eq_some_iff.mp read
      simp only [List.forall_mem_cons] at small plain
      exact .cons (spelledBy_four ⟨small.1, small.2.1, small.2.2.1, small.2.2.2.1⟩ rfl plain.1)
        (ih readMore small.2.2.2.2 plain.2)
  | case3 => cases read
  | case4 => cases read

namespace ScanState

theorem next_mode {maxDepth : Nat} {state reached : ScanState} {unit : Nat}
    (moves : state.next maxDepth unit = some reached) : reached.mode = state.mode.after unit := by
  obtain ⟨depth, _ | _ | _⟩ := state
  · simp only [next] at moves
    split_ifs at moves with quoted opens crosses closes
    all_goals cases moves
    all_goals simp only [ScanMode.after, quoted, if_true, if_false]
  · simp only [next] at moves
    split_ifs at moves with escapes quoted
    · cases moves
      rw [ScanMode.after, if_pos escapes]
    · cases moves
      rw [ScanMode.after, if_neg escapes, if_pos quoted]
    · cases moves
      rw [ScanMode.after, if_neg escapes, if_neg quoted]
  · cases moves
    rfl

/-- A state that has forgotten an escape goes on as one that has not, but for an escaped
quote. -/
theorem next_calm {state : ScanState} {unit : Nat}
    (noQuote : (state.mode == .escaped && unit == quoteByte) = false) (maxDepth : Nat) :
    (state.calm.next maxDepth unit).map calm = (state.next maxDepth unit).map calm := by
  obtain ⟨depth, _ | _ | _⟩ := state
  · rfl
  · rfl
  · have notQuote : ¬ unit = quoteByte := by
      rw [beq_self_eq_true, Bool.true_and, beq_eq_false_iff_ne] at noQuote
      exact noQuote
    simp only [next, calm, if_neg notQuote]
    split_ifs
    · rfl
    · rfl

end ScanState

/-- The bytes of a unit take the scan where the unit does, up to a pending escape. -/
theorem scan_unit {big : Bool} {unit : Nat} {bytes : List Nat} (spelled : SpelledBy big unit bytes)
    {behind state : ScanState} (same : behind.calm = state.calm)
    (calmed : big = false → behind.calm = behind)
    (noQuote : (state.mode == .escaped && unit == quoteByte) = false) (maxDepth : Nat) :
    (scan maxDepth behind bytes).map calm = (state.next maxDepth unit).map calm ∧
      (big = false → ∀ reached ∈ scan maxDepth behind bytes, reached.calm = reached) := by
  rcases spelled with ⟨large, nonempty, plain⟩ | ⟨zeros, nonempty, plain, rfl⟩
  · rw [scan_plain plain nonempty, next_plain (plain_of_large large), same]
    refine ⟨rfl, fun _ reached found => ?_⟩
    cases found
    exact calm_calm _
  · rw [← next_calm noQuote, ← same]
    cases big with
    | true =>
        rw [if_pos rfl, scan_append, scan_plain plain nonempty, Option.bind_some]
        refine ⟨?_, nofun⟩
        rw [scan_cons]
        exact congrArg _ (Option.bind_fun_some _)
    | false =>
        have begins := calmed rfl
        rw [if_neg Bool.false_ne_true, scan_cons, begins]
        cases behind.next maxDepth unit with
        | none => exact ⟨rfl, fun _ _ found => nomatch found⟩
        | some reached =>
            rw [Option.bind_some, scan_plain plain nonempty, Option.map_some, calm_calm]
            refine ⟨rfl, fun _ _ found => ?_⟩
            cases found
            exact calm_calm _

/-- The scan of the bytes crosses the limit where the scan of the units does, as long as no
quote is escaped. -/
theorem scan_units {big : Bool} {units bytes : List Nat} (spelled : SpelledAll big units bytes)
    {behind state : ScanState} (same : behind.calm = state.calm)
    (calmed : big = false → behind.calm = behind)
    (unescaped : escapesQuote state.mode units = false) (maxDepth : Nat) :
    (scan maxDepth behind bytes).isNone = (scan maxDepth state units).isNone := by
  induction spelled generalizing behind state with
  | nil => rfl
  | @cons unit units front back spelledUnit _ ih =>
      rw [escapesQuote, Bool.or_eq_false_iff] at unescaped
      obtain ⟨agrees, calmedAfter⟩ := scan_unit spelledUnit same calmed unescaped.1 maxDepth
      rw [scan_append, scan_cons]
      cases moved : state.next maxDepth unit with
      | none =>
          rw [moved, Option.map_none, Option.map_eq_none_iff] at agrees
          rw [agrees]
          rfl
      | some reached =>
          rw [moved, Option.map_some] at agrees
          obtain ⟨follower, found, sameReached⟩ := Option.map_eq_some_iff.mp agrees
          rw [found, Option.bind_some, Option.bind_some]
          refine ih sameReached (fun little => calmedAfter little _ found) ?_
          rw [next_mode moved]
          exact unescaped.2

/-- Two units that make a pair are passed as the one code point they are. -/
theorem scan_joinUnits (maxDepth : Nat) (state : ScanState) (units : List Nat) :
    scan maxDepth state units = scan maxDepth state (joinUnits units) := by
  fun_induction joinUnits units generalizing state with
  | case1 high low rest pair ih =>
      refine scan_character [high, low] ?_ (List.cons_ne_nil _ _) (by omega) ih
      simp only [List.forall_mem_cons]
      exact ⟨by omega, by omega, nofun⟩
  | case2 high low rest _ ih =>
      rw [scan_cons, scan_cons]
      exact Option.bind_congr fun reached _ => ih reached
  | case3 => rfl
  | case4 => rfl

theorem scan_units16 {big : Bool} {bytes units : List Nat}
    (read : unitsOf16 big bytes = some units) (small : ∀ byte ∈ bytes, byte < 256)
    (inStep : UnitsInStep units) (maxDepth : Nat) :
    (scan maxDepth (level 0) bytes).isNone =
      (scan maxDepth (level 0) (joinUnits units)).isNone := by
  rw [← scan_joinUnits]
  exact scan_units (spelledAll_of_units16 read small inStep.plain) rfl (fun _ => rfl)
    inStep.unescaped maxDepth

theorem scan_units32 {big : Bool} {bytes units : List Nat}
    (read : unitsOf32 big bytes = some units) (small : ∀ byte ∈ bytes, byte < 256)
    (inStep : UnitsInStep units) (maxDepth : Nat) :
    (scan maxDepth (level 0) bytes).isNone = (scan maxDepth (level 0) units).isNone :=
  scan_units (spelledAll_of_units32 read small inStep.plain) rfl (fun _ => rfl)
    inStep.unescaped maxDepth

/-! ## What the guard promises -/

/-- A body whose bytes keep the scan in step with its text: it is read as UTF-8, or its units
are in step. -/
def ReadsInStep (raw : List UInt8) : Prop :=
  (detectEncoding (raw.map UInt8.toNat)).isUtf8 = true ∨
    ∀ units, (detectEncoding (raw.map UInt8.toNat)).units (raw.map UInt8.toNat) = some units →
      UnitsInStep units

/-- The body that the messages bring, once it is whole. -/
def bodyOf : List ReceiveMessage → Option (List UInt8)
  | [] | .disconnect :: _ => none
  | .request body moreBody :: rest =>
      if moreBody then (bodyOf rest).map (body ++ ·) else some body

/-- What the guard is for, of a body and a limit. -/
structure DepthGuarded (raw : List UInt8) (maxDepth : Nat) : Prop where
  /-- A value that is read from a body the scan lets pass is no deeper than the limit. -/
  caught : structuralDepthExceeds raw maxDepth = false → ∀ limit value,
    jsonLoads limit raw = .ok value → value.depth ≤ maxDepth
  /-- A valid UTF-8 text within the limit passes the scan. -/
  unrefused : ∀ limit codes tree, utf8Codes (raw.map UInt8.toNat) = some codes →
    Foundation.readText limit codes = .ok tree → tree.depth ≤ maxDepth →
      structuralDepthExceeds raw maxDepth = false
  /-- A body that passes the middleware takes a reader to no more levels than the limit,
  whether or not it is read to its end. -/
  forwarded : ∀ settings request, settings.maxDepth = maxDepth →
    MCPRequestGuardMiddleware.call settings request = .forwarded raw →
      jsonLoads maxDepth raw ≠ .error .recursion
  /-- The middleware refuses no valid UTF-8 text within the limit as too deep. -/
  unblocked : ∀ settings request limit codes tree, settings.maxDepth = maxDepth →
    bodyOf request.messages = some raw → utf8Codes (raw.map UInt8.toNat) = some codes →
      Foundation.readText limit codes = .ok tree → tree.depth ≤ maxDepth →
        MCPRequestGuardMiddleware.call settings request ≠ tooDeep

/-- The scan of a body in step crosses the limit where the scan of its text does. -/
theorem exceeds_of_inStep {raw : List UInt8} {codes : List Nat} (inStep : ReadsInStep raw)
    (read : (detectEncoding (raw.map UInt8.toNat)).decode (raw.map UInt8.toNat) = some codes)
    (maxDepth : Nat) :
    structuralDepthExceeds raw maxDepth = (scan maxDepth (level 0) codes).isNone := by
  obtain ⟨mark, isMark, split⟩ := exists_mark (raw.map UInt8.toNat)
  have markPassed : scan maxDepth (level 0) mark = some (level 0) := by
    simp only [byteMarks, List.mem_cons, List.not_mem_nil, or_false] at isMark
    rcases isMark with rfl | rfl | rfl | rfl | rfl | rfl
    all_goals rfl
  have unmarked : structuralDepthExceeds raw maxDepth = (scan maxDepth (level 0)
      ((detectEncoding (raw.map UInt8.toNat)).unmarked (raw.map UInt8.toNat))).isNone := by
    rw [structuralDepthExceeds, split, scan_append, markPassed, Option.bind_some, ← split]
  have small : ∀ byte ∈ (detectEncoding (raw.map UInt8.toNat)).unmarked (raw.map UInt8.toNat),
      byte < 256 := by
    intro byte member
    have inRaw : byte ∈ raw.map UInt8.toNat := by
      rw [split]
      exact List.mem_append_right _ member
    obtain ⟨origin, _, rfl⟩ := List.mem_map.mp inRaw
    exact origin.toNat_lt
  have units : ∀ units, (detectEncoding (raw.map UInt8.toNat)).isUtf8 = false →
      (detectEncoding (raw.map UInt8.toNat)).units (raw.map UInt8.toNat) = some units →
        UnitsInStep units := by
    intro units wide found
    rcases inStep with isUtf8 | inStep
    · rw [wide] at isUtf8
      cases isUtf8
    · exact inStep units found
  rw [unmarked]
  generalize detectEncoding (raw.map UInt8.toNat) = encoding at read small units ⊢
  cases encoding with
  | utf8 | utf8Sig => rw [scan_utf8Codes read]
  | utf16 | utf16Be | utf16Le =>
      obtain ⟨found, readUnits, rfl⟩ := Option.map_eq_some_iff.mp read
      exact scan_units16 readUnits small (units found rfl readUnits) maxDepth
  | utf32 | utf32Be | utf32Le =>
      exact scan_units32 read small (units codes rfl read) maxDepth

theorem jsonLoads_eq_ok {limit : Nat} {raw : List UInt8} {value : JsonTree}
    (read : jsonLoads limit raw = .ok value) :
    ∃ codes tree, (detectEncoding (raw.map UInt8.toNat)).decode (raw.map UInt8.toNat) = some codes ∧
      Foundation.readText limit codes = .ok tree ∧ value = tree.value := by
  simp only [jsonLoads] at read
  split at read
  · cases read
  · rename_i codes decoded
    cases readTree : Foundation.readText limit codes with
    | error reason =>
        rw [readTree] at read
        cases read
    | ok tree =>
        rw [readTree] at read
        cases read
        exact ⟨codes, tree, decoded, readTree, rfl⟩

theorem jsonLoads_eq_recursion {limit : Nat} {raw : List UInt8}
    (stopped : jsonLoads limit raw = .error .recursion) :
    ∃ codes, (detectEncoding (raw.map UInt8.toNat)).decode (raw.map UInt8.toNat) = some codes ∧
      Foundation.readText limit codes = .error .recursion := by
  simp only [jsonLoads] at stopped
  split at stopped
  · cases stopped
  · rename_i codes decoded
    cases readTree : Foundation.readText limit codes with
    | error reason =>
        rw [readTree] at stopped
        cases stopped
        exact ⟨codes, decoded, readTree⟩
    | ok tree =>
        rw [readTree] at stopped
        cases stopped

theorem judgeBody_forwarded {settings : GuardSettings} {headers : List Header}
    {buffered raw : List UInt8} (passed : judgeBody settings headers buffered = .forwarded raw) :
    buffered = raw ∧ structuralDepthExceeds raw settings.maxDepth = false := by
  rw [judgeBody] at passed
  split_ifs at passed with exceeds
  · cases passed
  · split at passed
    · cases passed
    · cases passed
      exact ⟨rfl, Bool.eq_false_iff.mpr exceeds⟩

theorem judgeBody_tooDeep {settings : GuardSettings} {headers : List Header}
    {buffered : List UInt8} (refused : judgeBody settings headers buffered = tooDeep) :
    structuralDepthExceeds buffered settings.maxDepth = true := by
  rw [judgeBody] at refused
  split_ifs at refused with exceeds
  · exact exceeds
  · split at refused
    · cases refused
    · cases refused

/-- Only a body that the scan lets pass is forwarded. -/
theorem bufferBody_forwarded {settings : GuardSettings} {headers : List Header}
    {messages : List ReceiveMessage} {buffered raw : List UInt8}
    (passed : bufferBody settings headers buffered messages = .forwarded raw) :
    structuralDepthExceeds raw settings.maxDepth = false := by
  fun_induction bufferBody settings headers buffered messages with
  | case1 => cases passed
  | case2 => cases passed
  | case3 => cases passed
  | case4 _ _ _ _ ih => exact ih passed
  | case5 => exact (judgeBody_forwarded passed).2

/-- Only a body that the scan does not let pass is refused as too deep. -/
theorem bufferBody_tooDeep {settings : GuardSettings} {headers : List Header}
    {messages : List ReceiveMessage} {buffered rest : List UInt8}
    (refused : bufferBody settings headers buffered messages = tooDeep)
    (whole : bodyOf messages = some rest) :
    structuralDepthExceeds (buffered ++ rest) settings.maxDepth = true := by
  fun_induction bufferBody settings headers buffered messages generalizing rest with
  | case1 => cases refused
  | case2 => cases refused
  | case3 => cases refused
  | case4 buffered body messages _ ih =>
      rw [bodyOf, if_pos rfl] at whole
      obtain ⟨later, found, rfl⟩ := Option.map_eq_some_iff.mp whole
      rw [← List.append_assoc]
      exact ih refused found
  | case5 buffered body moreBody messages _ last =>
      rw [bodyOf, if_neg last] at whole
      cases whole
      exact judgeBody_tooDeep refused

theorem call_forwarded {settings : GuardSettings} {request : GuardedRequest} {raw : List UInt8}
    (passed : MCPRequestGuardMiddleware.call settings request = .forwarded raw) :
    structuralDepthExceeds raw settings.maxDepth = false := by
  rw [MCPRequestGuardMiddleware.call] at passed
  split_ifs at passed
  · cases passed
  · exact bufferBody_forwarded passed

theorem call_tooDeep {settings : GuardSettings} {request : GuardedRequest} {raw : List UInt8}
    (refused : MCPRequestGuardMiddleware.call settings request = tooDeep)
    (whole : bodyOf request.messages = some raw) :
    structuralDepthExceeds raw settings.maxDepth = true := by
  rw [MCPRequestGuardMiddleware.call] at refused
  split_ifs at refused
  · cases refused
  · cases refused
  · exact bufferBody_tooDeep refused whole

/-- A valid UTF-8 text within the limit passes the scan. -/
theorem exceeds_utf8_of_within {raw : List UInt8} {limit maxDepth : Nat} {codes : List Nat}
    {tree : JsonTree} (read : utf8Codes (raw.map UInt8.toNat) = some codes)
    (isText : Foundation.readText limit codes = .ok tree) (within : tree.depth ≤ maxDepth) :
    structuralDepthExceeds raw maxDepth = false := by
  rw [structuralDepthExceeds, scan_utf8Codes read, Bool.eq_false_iff]
  intro crosses
  exact absurd ((scan_readText isText maxDepth).mp crosses) (not_lt.mpr within)

theorem depthGuarded_of_readsInStep {raw : List UInt8} (inStep : ReadsInStep raw)
    (maxDepth : Nat) : DepthGuarded raw maxDepth where
  caught := by
    intro passed limit value read
    obtain ⟨codes, tree, decoded, isText, rfl⟩ := jsonLoads_eq_ok read
    refine (JsonTree.depth_value_le tree).trans (not_lt.mp fun deeper => ?_)
    rw [exceeds_of_inStep inStep decoded, (scan_readText isText maxDepth).mpr deeper] at passed
    cases passed
  unrefused := fun limit codes tree read isText within => exceeds_utf8_of_within read isText within
  forwarded := by
    rintro settings request rfl passed stopped
    obtain ⟨codes, decoded, stoppedText⟩ := jsonLoads_eq_recursion stopped
    have crosses := call_forwarded passed
    rw [exceeds_of_inStep inStep decoded, scan_recursion stoppedText] at crosses
    cases crosses
  unblocked := by
    rintro settings request limit codes tree rfl whole read isText within refused
    have crosses := call_tooDeep refused whole
    rw [exceeds_utf8_of_within read isText within] at crosses
    cases crosses

/-- The bytes of units of a width. -/
def spellUnits (width : Nat) (big : Bool) (units : List Nat) : List UInt8 :=
  units.flatMap fun unit =>
    let bytes := ((unitBytes unit).take width).map UInt8.ofNat
    if big then bytes.reverse else bytes

/-- `["∀", []]` in an encoding, with its mark where it takes one. A byte of the quantifier is
that of a quote. -/
def quantifierBody : ByteEncoding → List UInt8
  | .utf16 => [0xff, 0xfe] ++ spellUnits 2 false (codesOf "[\"∀\",[]]")
  | .utf16Be => spellUnits 2 true (codesOf "[\"∀\",[]]")
  | .utf16Le => spellUnits 2 false (codesOf "[\"∀\",[]]")
  | .utf32 => [0xff, 0xfe, 0, 0] ++ spellUnits 4 false (codesOf "[\"∀\",[]]")
  | .utf32Be => spellUnits 4 true (codesOf "[\"∀\",[]]")
  | .utf32Le => spellUnits 4 false (codesOf "[\"∀\",[]]")
  | _ => []

/-- The value of the quantifier's body nests two deep, and the scan finds one level. -/
theorem quantifierBody_passes (encoding : ByteEncoding) (wide : encoding.isUtf8 = false) :
    detectEncoding ((quantifierBody encoding).map UInt8.toNat) = encoding ∧
      structuralDepthExceeds (quantifierBody encoding) 1 = false ∧
        (jsonLoads 2 (quantifierBody encoding)).toOption.map JsonTree.depth = some 2 := by
  cases encoding with
  | utf8 | utf8Sig => cases wide
  | utf16 | utf16Be | utf16Le | utf32 | utf32Be | utf32Le => decide +kernel

theorem not_depthGuarded_quantifierBody {encoding : ByteEncoding}
    (wide : encoding.isUtf8 = false) : ¬ DepthGuarded (quantifierBody encoding) 1 := by
  intro guarded
  obtain ⟨_, passed, deep⟩ := quantifierBody_passes encoding wide
  cases read : jsonLoads 2 (quantifierBody encoding) with
  | error reason =>
      rw [read] at deep
      cases deep
  | ok value =>
      rw [read] at deep
      have within := guarded.caught passed 2 value read
      have two : value.depth = 2 := Option.some.inj deep
      omega

/-- The guard keeps its promise for every body in step. In an encoding it keeps it for every
body exactly where that encoding is UTF-8. -/
theorem depthGuarded_of_inStep (encoding : ByteEncoding) :
    (∀ raw maxDepth, ReadsInStep raw → DepthGuarded raw maxDepth) ∧
      ((∀ raw maxDepth, detectEncoding (raw.map UInt8.toNat) = encoding →
        DepthGuarded raw maxDepth) ↔ encoding.isUtf8 = true) := by
  refine ⟨fun raw maxDepth inStep => depthGuarded_of_readsInStep inStep maxDepth,
    fun guarded => ?_, ?_⟩
  · by_contra wide
    rw [Bool.not_eq_true] at wide
    apply not_depthGuarded_quantifierBody wide
    exact guarded _ 1 (quantifierBody_passes encoding wide).1
  · rintro isUtf8 raw maxDepth rfl
    exact depthGuarded_of_readsInStep (.inl isUtf8) maxDepth

/-- A body of two-byte units, with a letter beyond ASCII, is guarded. -/
theorem depthGuarded_accentedBody :
    DepthGuarded (spellUnits 2 false (codesOf "[\"é\",[]]")) 2 := by
  refine (depthGuarded_of_inStep .utf16Le).1 _ 2 (.inr fun units read => ?_)
  have same : units = codesOf "[\"é\",[]]" := (Option.some.inj read).symm
  subst same
  exact ⟨by decide, rfl⟩

/-- The scan lets a body of two-byte units pass that is deeper than the limit. -/
theorem not_depthGuarded : ¬ ∀ raw maxDepth, DepthGuarded raw maxDepth := fun guarded =>
  not_depthGuarded_quantifierBody (show ByteEncoding.utf16Le.isUtf8 = false from rfl) (guarded _ 1)

end QueryGate
