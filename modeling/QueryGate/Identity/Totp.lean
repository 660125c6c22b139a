import Mathlib.Algebra.Order.Floor.Ring
import Mathlib.Data.Rat.Floor
import QueryGate.Execution.ApprovalToken
import QueryGate.Foundation.Text

/-! # One-time codes

`identity/totp.py`: the code of a time step, and the check of a code somebody sends against
the steps around the clock. HMAC-SHA1 and the digits outside ASCII are parameters.
-/

namespace QueryGate.Totp

open Foundation ApprovalTokens

/-- `DIGITS`. -/
def digits : Nat := 6

/-- `STEP_SECONDS`. -/
def stepSeconds : ℚ := 30

/-- `DEFAULT_DRIFT_STEPS`. -/
def defaultDriftSteps : Nat := 1

/-- HMAC-SHA1 by key and message, and the characters outside ASCII that `str.isdigit`
accepts. -/
structure TotpRuntime where
  hmacSha1 : List UInt8 → List UInt8 → Vector UInt8 20
  otherDigit : Char → Bool

/-- `TotpResult`. -/
structure TotpResult where
  valid : Bool
  consumedCounter : Option Int := none
  deriving DecidableEq, Repr

/-! ## The secret -/

/-- The value of a base32 letter. -/
def base32Value (letter : Char) : Option Nat :=
  if 'A' ≤ letter ∧ letter ≤ 'Z' then some (letter.toNat - 'A'.toNat)
  else if '2' ≤ letter ∧ letter ≤ '7' then some (letter.toNat - '2'.toNat + 26)
  else none

/-- The bytes of a number, the first one most significant. -/
def bigEndian : Nat → Nat → List UInt8
  | 0, _ => []
  | length + 1, value => bigEndian length (value / 256) ++ [UInt8.ofNat value]

/-- The number in groups of five bits. -/
def quintets (values : List Nat) : Nat :=
  values.foldl (fun total value => total * 32 + value) 0

/-- The bytes of base32 letters, in groups of eight; a last group is cut to its bytes. -/
def quanta : Nat → List Nat → List UInt8
  | 0, _ => []
  | _ + 1, [] => []
  | fuel + 1, values =>
      let group := values.take 8
      let missing := 8 - group.length
      (bigEndian 5 (quintets group * 32 ^ missing)).take ((43 - 5 * missing) / 8) ++
        quanta fuel (values.drop 8)

/-- `base64.b32decode` of upper-case letters that are padded to groups of eight. -/
def b32decode (letters : List Char) : Option (List UInt8) :=
  let data := rstripPadding letters
  if letters.length - data.length ∈ [0, 1, 3, 4, 6] then
    (data.mapM base32Value).map fun values => quanta data.length values
  else none

/-- `_decode_secret`: the key, unless `TotpError` is raised. -/
def decodeSecret (secret : String) : Option (List UInt8) :=
  let cleaned := ((strip secret).toList.filter (· != ' ')).map Char.toUpper
  let padding := List.replicate ((8 - cleaned.length % 8) % 8) '='
  (b32decode (cleaned ++ padding)).filter fun raw => 10 ≤ raw.length

/-! ## The code of a step -/

section Codes

variable (runtime : TotpRuntime)

/-- The number at the offset in the last half byte. -/
def truncated (digest : Vector UInt8 20) : Nat :=
  let offset := digest.toList.getLastD 0 &&& 0x0F
  let word := (digest.toList.drop offset.toNat).take 4
  word.foldl (fun total byte => total * 256 + byte.toNat) 0 % 0x80000000

/-- `text.zfill(width)` of a text without a sign. -/
def zfill (width : Nat) (text : List Char) : List Char :=
  List.replicate (width - text.length) '0' ++ text

/-- The code of a step under a key. -/
def codeOf (key : List UInt8) (counter : Int) : String :=
  let digest := runtime.hmacSha1 key (bigEndian 8 counter.toNat)
  String.ofList (zfill digits (Nat.toDigits 10 (truncated digest % 10 ^ digits)))

/-- `totp_code`. -/
def totpCode (secret : String) (counter : Int) : Except Raised String :=
  match decodeSecret secret with
  | none => .error .valueError
  | some key => .ok (codeOf runtime key counter)

/-- `code.strip().replace(" ", "")`. -/
def cleaned (code : String) : String :=
  String.ofList ((strip code).toList.filter (· != ' '))

/-- `text.isdigit()`. -/
def isdigit (text : String) : Bool :=
  !text.toList.isEmpty && text.toList.all fun letter =>
    letter.isDigit || !decide (letter.toNat < 128) && runtime.otherDigit letter

/-- The steps around the clock that are tried, in order. -/
def window (now : ℚ) (driftSteps : Nat) (lastConsumed : Option Int) : List Int :=
  let current := ⌊now / stepSeconds⌋
  ((List.range (2 * driftSteps + 1)).map fun offset : Nat =>
    current - driftSteps + (offset : Int)).filter fun counter =>
      decide (0 ≤ counter) && lastConsumed.all fun last => decide (last < counter)

/-- The loop of `verify_totp`. -/
def tryCounters (secret candidate : String) : List Int → Except Raised TotpResult
  | [] => .ok { valid := false }
  | counter :: rest => do
      let expected ← totpCode runtime secret counter
      if ← compareDigest expected candidate then
        return { valid := true, consumedCounter := some counter }
      else tryCounters secret candidate rest

/-- `verify_totp`. -/
def verifyTotp (secret code : String) (now : ℚ) (driftSteps : Nat)
    (lastConsumed : Option Int) : Except Raised TotpResult :=
  let candidate := cleaned code
  if candidate.length ≠ digits ∨ isdigit runtime candidate = false then .ok { valid := false }
  else tryCounters runtime secret candidate (window now driftSteps lastConsumed)

/-- The code without its spaces. -/
def unspaced (code : String) : String :=
  String.ofList (code.toList.filter (· != ' '))

/-- A check has a verdict, and accepts the code if and only if it is, once spaces are removed,
the code of a step that is tried. -/
def VerdictExact (secret code : String) (now : ℚ) (driftSteps : Nat)
    (lastConsumed : Option Int) : Prop :=
  ∃ result, verifyTotp runtime secret code now driftSteps lastConsumed = .ok result ∧
    (result.valid = true ↔ ∃ counter ∈ window now driftSteps lastConsumed,
      totpCode runtime secret counter = .ok (unspaced code))

/-- The code has no digits outside ASCII where six digits are looked up, and it is not an
accepted code with white space other than spaces at an end. -/
def PlainCode (secret code : String) (now : ℚ) (driftSteps : Nat)
    (lastConsumed : Option Int) : Prop :=
  (isdigit runtime (cleaned code) = true → (cleaned code).length = digits →
      window now driftSteps lastConsumed ≠ [] → isAscii (cleaned code) = true) ∧
    ((∃ counter ∈ window now driftSteps lastConsumed,
        totpCode runtime secret counter = .ok (cleaned code)) → unspaced code = cleaned code)

variable {runtime}

/-! ## Codes are six digits -/

theorem length_zfill {width : Nat} {text : List Char} (short : text.length ≤ width) :
    (zfill width text).length = width := by
  rw [zfill, List.length_append, List.length_replicate]
  omega

theorem codeOf_isDigit (key : List UInt8) (counter : Int) :
    (codeOf runtime key counter).length = digits ∧
      ∀ letter ∈ (codeOf runtime key counter).toList, letter.isDigit = true := by
  have small : ∀ number, (Nat.toDigits 10 (number % 10 ^ digits)).length ≤ digits := fun number =>
    (Nat.length_toDigits_le_iff (by decide) (by decide)).mpr (Nat.mod_lt _ (by decide))
  constructor
  · rw [codeOf, String.length_ofList]
    exact length_zfill (small _)
  · intro letter member
    rw [codeOf, String.toList_ofList, zfill, List.mem_append] at member
    rcases member with zero | digit
    · rw [List.eq_of_mem_replicate zero]
      rfl
    · exact Nat.isDigit_of_mem_toDigits (by decide) (by decide) digit

theorem toNat_of_isDigit {letter : Char} (digit : letter.isDigit = true) :
    48 ≤ letter.toNat ∧ letter.toNat ≤ 57 := by
  rw [Char.isDigit, Bool.and_eq_true, decide_eq_true_eq, decide_eq_true_eq] at digit
  exact ⟨digit.1, digit.2⟩

theorem isAscii_of_isDigit {text : String} (digit : ∀ letter ∈ text.toList, letter.isDigit = true) :
    isAscii text = true := by
  rw [isAscii, List.all_eq_true]
  intro letter member
  have bounds := toNat_of_isDigit (digit letter member)
  exact decide_eq_true (by omega)

theorem isSpace_of_isDigit {letter : Char} (digit : letter.isDigit = true) :
    isSpace letter = false := by
  have bounds := toNat_of_isDigit digit
  rw [isSpace, Bool.eq_false_iff]
  simp only [ne_eq, Bool.or_eq_true, Bool.and_eq_true, decide_eq_true_eq, beq_iff_eq]
  omega

theorem isSpace_space : isSpace ' ' = true := by decide

/-! ## Cleaning a code -/

/-- What is dropped at the ends are white spaces. -/
theorem strip_split (text : String) :
    ∃ front back, text.toList = front ++ (strip text).toList ++ back ∧
      (∀ letter ∈ front, isSpace letter = true) ∧ ∀ letter ∈ back, isSpace letter = true := by
  have spaces : ∀ letters : List Char, ∀ letter ∈ letters.takeWhile isSpace,
      isSpace letter = true := fun letters letter member => List.mem_takeWhile_imp member
  refine ⟨text.toList.takeWhile isSpace,
    ((text.toList.dropWhile isSpace).reverse.takeWhile isSpace).reverse, ?_, spaces _, ?_⟩
  · have back := congrArg List.reverse (List.takeWhile_append_dropWhile (p := isSpace)
      (l := (text.toList.dropWhile isSpace).reverse))
    rw [List.reverse_append, List.reverse_reverse] at back
    rw [strip, String.toList_ofList, List.append_assoc, back, List.takeWhile_append_dropWhile]
  · exact fun letter member => spaces _ letter (List.mem_reverse.mp member)

/-- A code of digits and spaces is cleaned by removing the spaces. -/
theorem cleaned_of_unspaced {code : String}
    (digit : ∀ letter ∈ (unspaced code).toList, letter.isDigit = true) :
    cleaned code = unspaced code := by
  obtain ⟨front, back, split, frontSpaces, backSpaces⟩ := strip_split code
  have dropped : ∀ letters : List Char, (∀ letter ∈ letters, isSpace letter = true) →
      (∀ letter ∈ letters, letter ∈ code.toList) → letters.filter (· != ' ') = [] := by
    intro letters spaces inside
    rw [List.filter_eq_nil_iff]
    intro letter member notSpace
    have kept : letter ∈ (unspaced code).toList := by
      rw [unspaced, String.toList_ofList]
      exact List.mem_filter.mpr ⟨inside letter member, notSpace⟩
    have space := spaces letter member
    rw [isSpace_of_isDigit (digit letter kept)] at space
    exact Bool.false_ne_true space
  rw [unspaced, split, List.filter_append, List.filter_append,
    dropped front frontSpaces (fun letter member => by simp [split, member]),
    dropped back backSpaces (fun letter member => by simp [split, member]),
    List.nil_append, List.append_nil]
  rfl

theorem isdigit_of_isDigit {text : String} (long : text.length = digits)
    (digit : ∀ letter ∈ text.toList, letter.isDigit = true) : isdigit runtime text = true := by
  have some_ : text.toList ≠ [] := by
    intro none_
    rw [← String.length_toList, none_] at long
    cases long
  rw [isdigit, Bool.and_eq_true, List.all_eq_true]
  refine ⟨?_, fun letter member => by rw [digit letter member, Bool.true_or]⟩
  rw [Bool.not_eq_true', Bool.eq_false_iff]
  exact fun empty => some_ (List.isEmpty_iff.mp empty)

/-! ## The loop -/

theorem compareDigest_ascii {expected actual : String} (first : isAscii expected = true)
    (second : isAscii actual = true) : compareDigest expected actual = .ok (expected == actual) := by
  rw [compareDigest, first, second]
  rfl

theorem compareDigest_other {expected actual : String} (other : isAscii actual = false) :
    compareDigest expected actual = .error .typeError := by
  rw [compareDigest, other, Bool.and_false]
  rfl

theorem totpCode_eq {secret : String} {key : List UInt8} (opened : decodeSecret secret = some key)
    (counter : Int) : totpCode runtime secret counter = .ok (codeOf runtime key counter) := by
  rw [totpCode, opened]

/-- The loop finds the first step whose code is the candidate. -/
theorem tryCounters_ascii {secret candidate : String} {key : List UInt8}
    (opened : decodeSecret secret = some key) (ascii : isAscii candidate = true)
    (counters : List Int) :
    ∃ result, tryCounters runtime secret candidate counters = .ok result ∧
      (result.valid = true ↔ ∃ counter ∈ counters, codeOf runtime key counter = candidate) := by
  induction counters with
  | nil => exact ⟨_, rfl, by simp⟩
  | cons counter rest ih =>
      obtain ⟨later, ran, found⟩ := ih
      have own := isAscii_of_isDigit (@codeOf_isDigit runtime key counter).2
      have compared := compareDigest_ascii own ascii
      by_cases same : codeOf runtime key counter = candidate
      · refine ⟨{ valid := true, consumedCounter := some counter }, ?_, ?_⟩
        · rw [same, beq_self_eq_true] at compared
          simp only [tryCounters, totpCode_eq opened, same, bind, Except.bind, compared]
          rfl
        · exact iff_of_true rfl ⟨counter, List.mem_cons_self .., same⟩
      · refine ⟨later, ?_, ?_⟩
        · rw [beq_eq_false_iff_ne.mpr same] at compared
          simp only [tryCounters, totpCode_eq opened, bind, Except.bind, compared, ran]
          rfl
        · rw [found]
          constructor
          · rintro ⟨other, inside, equal⟩
            exact ⟨other, List.mem_cons_of_mem _ inside, equal⟩
          · rintro ⟨other, inside, equal⟩
            rcases List.mem_cons.mp inside with rfl | later
            · exact absurd equal same
            · exact ⟨other, later, equal⟩

/-- Digits outside ASCII are not compared. -/
theorem tryCounters_other {secret candidate : String} {key : List UInt8}
    (opened : decodeSecret secret = some key) (other : isAscii candidate = false)
    {counters : List Int} (some_ : counters ≠ []) :
    tryCounters runtime secret candidate counters = .error .typeError := by
  cases counters with
  | nil => exact absurd rfl some_
  | cons counter rest =>
      simp only [tryCounters, totpCode_eq opened, bind, Except.bind, compareDigest_other other]

/-- The step of an accepted code is one that is tried. -/
theorem consumed_mem {secret candidate : String} {counters : List Int} {result : TotpResult}
    {counter : Int} (ran : tryCounters runtime secret candidate counters = .ok result)
    (consumed : result.consumedCounter = some counter) : counter ∈ counters := by
  induction counters with
  | nil =>
      cases ran
      cases consumed
  | cons first rest ih =>
      unfold tryCounters at ran
      rw [bind_eq_ok_iff] at ran
      obtain ⟨expected, _, ran⟩ := ran
      rw [bind_eq_ok_iff] at ran
      obtain ⟨matched, _, ran⟩ := ran
      cases matched with
      | true =>
          cases ran
          cases consumed
          exact List.mem_cons_self ..
      | false => exact List.mem_cons_of_mem _ (ih ran)

theorem verifyTotp_unshaped {secret code : String} {now : ℚ} {driftSteps : Nat}
    {lastConsumed : Option Int}
    (shape : (cleaned code).length ≠ digits ∨ isdigit runtime (cleaned code) = false) :
    verifyTotp runtime secret code now driftSteps lastConsumed = .ok { valid := false } := by
  simp only [verifyTotp, shape, ↓reduceIte]

theorem verifyTotp_shaped {secret code : String} {now : ℚ} {driftSteps : Nat}
    {lastConsumed : Option Int} (long : (cleaned code).length = digits)
    (sixDigits : isdigit runtime (cleaned code) = true) :
    verifyTotp runtime secret code now driftSteps lastConsumed =
      tryCounters runtime secret (cleaned code) (window now driftSteps lastConsumed) := by
  simp only [verifyTotp, long, sixDigits, ne_eq, not_true_eq_false, Bool.true_eq_false, or_self,
    ↓reduceIte]

/-- An accepted code is one of a step in the window. -/
theorem consumed_mem_window {secret code : String} {now : ℚ} {driftSteps : Nat}
    {lastConsumed : Option Int} {result : TotpResult} {counter : Int}
    (checked : verifyTotp runtime secret code now driftSteps lastConsumed = .ok result)
    (consumed : result.consumedCounter = some counter) :
    counter ∈ window now driftSteps lastConsumed := by
  simp only [verifyTotp] at checked
  split at checked
  · cases checked
    cases consumed
  · exact consumed_mem checked consumed

theorem le_of_mem_window {now : ℚ} {driftSteps : Nat} {lastConsumed : Option Int} {counter : Int}
    (member : counter ∈ window now driftSteps lastConsumed) :
    ⌊now / stepSeconds⌋ - driftSteps ≤ counter := by
  obtain ⟨inside, _⟩ := List.mem_filter.mp member
  obtain ⟨offset, _, rfl⟩ := List.mem_map.mp inside
  omega

/-! ## The verdict -/

/-- Under a well-formed secret, the verdict on a code is exact if and only if the code is
plain. -/
theorem verdictExact_iff {secret code : String} {now : ℚ} {driftSteps : Nat}
    {lastConsumed : Option Int} (wellFormed : (decodeSecret secret).isSome = true) :
    VerdictExact runtime secret code now driftSteps lastConsumed ↔
      PlainCode runtime secret code now driftSteps lastConsumed := by
  obtain ⟨key, opened⟩ := Option.isSome_iff_exists.mp wellFormed
  have codes := fun counter => @codeOf_isDigit runtime key counter
  simp only [VerdictExact, PlainCode, totpCode_eq opened, Except.ok.injEq]
  have bare : ∀ counter, codeOf runtime key counter = unspaced code →
      cleaned code = unspaced code :=
    fun counter same => cleaned_of_unspaced (same ▸ (codes counter).2)
  constructor
  · rintro ⟨result, checked, exact_⟩
    refine ⟨fun sixDigits long some_ => ?_, ?_⟩
    · by_contra other
      rw [verifyTotp_shaped long sixDigits,
        tryCounters_other opened (Bool.eq_false_iff.mpr other) some_] at checked
      cases checked
    · rintro ⟨counter, inside, same⟩
      obtain ⟨long, digit⟩ := codes counter
      rw [same] at long digit
      obtain ⟨found, ran, accepts⟩ := @tryCounters_ascii runtime _ _ _ opened
        (isAscii_of_isDigit digit) (window now driftSteps lastConsumed)
      rw [verifyTotp_shaped long (isdigit_of_isDigit long digit), ran] at checked
      cases checked
      obtain ⟨other, _, equal⟩ := exact_.mp (accepts.mpr ⟨counter, inside, same⟩)
      exact (bare other equal).symm
  · rintro ⟨ascii, plain⟩
    by_cases shape : (cleaned code).length ≠ digits ∨ isdigit runtime (cleaned code) = false
    · refine ⟨_, verifyTotp_unshaped shape, iff_of_false Bool.false_ne_true ?_⟩
      rintro ⟨counter, _, same⟩
      obtain ⟨long, digit⟩ := codes counter
      rw [same, ← bare counter same] at long digit
      rcases shape with short | other
      · exact short long
      · rw [isdigit_of_isDigit long digit] at other
        cases other
    · rw [not_or, not_not, Bool.not_eq_false] at shape
      have looked := @verifyTotp_shaped runtime secret code now driftSteps lastConsumed shape.1
        shape.2
      by_cases none_ : window now driftSteps lastConsumed = []
      · refine ⟨{ valid := false }, by rw [looked, none_]; rfl, ?_⟩
        simp [none_]
      · obtain ⟨result, ran, accepts⟩ := @tryCounters_ascii runtime _ _ _ opened
          (ascii shape.2 shape.1 none_) (window now driftSteps lastConsumed)
        refine ⟨result, looked.trans ran, accepts.trans ⟨fun found => ?_, ?_⟩⟩
        · rw [plain found]
          exact found
        · rintro ⟨counter, inside, same⟩
          exact ⟨counter, inside, same.trans (bare counter same).symm⟩

end Codes

end QueryGate.Totp
