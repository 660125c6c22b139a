import Mathlib.Data.List.Basic
import Mathlib.Tactic.IntervalCases

/-! # Base64

Bytes in letters of the URL-safe alphabet, and the lenient reader of such texts, which
passes over what is no letter. What is written without padding is read back once it is
padded again (`urlsafeB64decode_unpadded`). A reader this lenient reads other texts too:
letters may be put between (`a2bBase64_skip`).
-/

namespace Foundation

/-- The letter of a value of six bits. -/
def base64Letter (value : Nat) : Char :=
  "ABCDEFGHIJKLMNOPQRSTUVWXYZabcdefghijklmnopqrstuvwxyz0123456789+/".toList.getD value '='

/-- The value of a letter. -/
def base64Value (letter : Char) : Option Nat :=
  let code := letter.toNat
  if 65 ≤ code && code ≤ 90 then some (code - 65)
  else if 97 ≤ code && code ≤ 122 then some (code - 71)
  else if 48 ≤ code && code ≤ 57 then some (code + 4)
  else if code == 43 then some 62
  else if code == 47 then some 63
  else none

/-! ## Writing -/

/-- `base64.b64encode`. -/
def b64encode : List UInt8 → List Char
  | [] => []
  | [a] => [base64Letter (a.toNat / 4), base64Letter (a.toNat % 4 * 16), '=', '=']
  | [a, b] => [base64Letter (a.toNat / 4), base64Letter (a.toNat % 4 * 16 + b.toNat / 16),
      base64Letter (b.toNat % 16 * 4), '=']
  | a :: b :: c :: rest =>
      base64Letter (a.toNat / 4) :: base64Letter (a.toNat % 4 * 16 + b.toNat / 16) ::
        base64Letter (b.toNat % 16 * 4 + c.toNat / 64) :: base64Letter (c.toNat % 64) ::
          b64encode rest

/-- The letter in the URL-safe alphabet. -/
def toUrlsafe (letter : Char) : Char :=
  if letter = '+' then '-' else if letter = '/' then '_' else letter

/-- The letter in the standard alphabet. -/
def fromUrlsafe (letter : Char) : Char :=
  if letter = '-' then '+' else if letter = '_' then '/' else letter

/-- `base64.urlsafe_b64encode`. -/
def urlsafeB64encode (bytes : List UInt8) : List Char :=
  (b64encode bytes).map toUrlsafe

/-- `text.rstrip("=")`. -/
def rstripPadding (text : List Char) : List Char :=
  (text.reverse.dropWhile (· == '=')).reverse

/-- The letters of bytes, without padding. -/
def unpaddedB64 (bytes : List UInt8) : List Char :=
  rstripPadding (urlsafeB64encode bytes)

/-! ## Reading -/

/-- Where the reader stands in a group of four letters, with the bits kept back. -/
inductive QuadState
  | zero
  | one (left : Nat)
  | two (left : Nat)
  | three (left : Nat)
  deriving DecidableEq, Repr

/-- The state behind a letter, and the byte it completes. -/
def QuadState.next : QuadState → Nat → QuadState × List UInt8
  | .zero, value => (.one value, [])
  | .one left, value => (.two (value % 16), [UInt8.ofNat (left * 4 + value / 16)])
  | .two left, value => (.three (value % 4), [UInt8.ofNat (left * 16 + value / 4)])
  | .three left, value => (.zero, [UInt8.ofNat (left * 64 + value)])

/-- A pad behind so many others completes the group. -/
def QuadState.closes : QuadState → Nat → Bool
  | .two _, pads => 1 ≤ pads
  | .three _, _ => true
  | _, _ => false

/-- `binascii.a2b_base64`, not strict: what is no letter is passed over, and reading ends
where the padding completes a group. -/
def a2bBase64 (state : QuadState) (pads : Nat) : List Char → Option (List UInt8)
  | [] => if state = .zero then some [] else none
  | letter :: rest =>
      if letter = '=' then
        if state.closes pads then some [] else a2bBase64 state (pads + 1) rest
      else
        match base64Value letter with
        | none => a2bBase64 state pads rest
        | some value => (a2bBase64 (state.next value).1 0 rest).map ((state.next value).2 ++ ·)

/-- `base64.urlsafe_b64decode`, of a text that has to be ASCII. -/
def urlsafeB64decode (text : List Char) : Option (List UInt8) :=
  if text.all fun letter => decide (letter.toNat < 128) then
    a2bBase64 .zero 0 (text.map fromUrlsafe)
  else none

/-- `"=" * (-len(text) % 4)`. -/
def padding (text : List Char) : List Char :=
  List.replicate ((4 - text.length % 4) % 4) '='

/-! ## What is written is read back -/

theorem base64Letter_reads :
    ∀ value < 64, base64Value (base64Letter value) = some value ∧ base64Letter value ≠ '=' ∧
      fromUrlsafe (toUrlsafe (base64Letter value)) = base64Letter value := by
  decide +kernel

theorem toUrlsafe_letter :
    ∀ value < 64, toUrlsafe (base64Letter value) ≠ '=' ∧ toUrlsafe (base64Letter value) ≠ '.' ∧
      (toUrlsafe (base64Letter value)).toNat < 128 := by
  decide +kernel

/-- The values of the letters of bytes. -/
def sixBits : List UInt8 → List Nat
  | [] => []
  | [a] => [a.toNat / 4, a.toNat % 4 * 16]
  | [a, b] => [a.toNat / 4, a.toNat % 4 * 16 + b.toNat / 16, b.toNat % 16 * 4]
  | a :: b :: c :: rest =>
      a.toNat / 4 :: (a.toNat % 4 * 16 + b.toNat / 16) :: (b.toNat % 16 * 4 + c.toNat / 64) ::
        (c.toNat % 64) :: sixBits rest

theorem sixBits_lt (bytes : List UInt8) : ∀ value ∈ sixBits bytes, value < 64 := by
  fun_induction sixBits bytes with
  | case1 => exact fun _ member => nomatch member
  | case2 a =>
      have := a.toNat_lt
      simp only [List.forall_mem_cons]
      exact ⟨by omega, by omega, fun _ member => nomatch member⟩
  | case3 a b =>
      have := a.toNat_lt
      have := b.toNat_lt
      simp only [List.forall_mem_cons]
      exact ⟨by omega, by omega, by omega, fun _ member => nomatch member⟩
  | case4 a b c rest ih =>
      have := a.toNat_lt
      have := b.toNat_lt
      have := c.toNat_lt
      simp only [List.forall_mem_cons]
      exact ⟨by omega, by omega, by omega, by omega, ih⟩

theorem rstripPadding_append {text : List Char} (solid : ∀ letter ∈ text, letter ≠ '=')
    (pads : Nat) : rstripPadding (text ++ List.replicate pads '=') = text := by
  have dropped : (List.replicate pads '=' ++ text.reverse).dropWhile (· == '=') =
      text.reverse := by
    rw [List.dropWhile_append_of_pos (by simp)]
    cases backwards : text.reverse with
    | nil => rfl
    | cons last rest =>
        have member : last ∈ text := by
          rw [← List.mem_reverse, backwards]
          exact List.mem_cons_self ..
        rw [List.dropWhile_cons, if_neg]
        simpa using solid last member
  rw [rstripPadding, List.reverse_append, List.reverse_replicate, dropped, List.reverse_reverse]

/-- Padded letters are the letters of the values, and at most two pads. -/
theorem urlsafeB64encode_eq (bytes : List UInt8) :
    ∃ pads, urlsafeB64encode bytes =
      (sixBits bytes).map (fun value => toUrlsafe (base64Letter value)) ++
        List.replicate pads '=' := by
  unfold urlsafeB64encode
  fun_induction sixBits bytes with
  | case1 => exact ⟨0, rfl⟩
  | case2 a => exact ⟨2, rfl⟩
  | case3 a b => exact ⟨1, rfl⟩
  | case4 a b c rest ih =>
      obtain ⟨pads, same⟩ := ih
      refine ⟨pads, ?_⟩
      rw [b64encode, List.map_cons, List.map_cons, List.map_cons, List.map_cons, same]
      rfl

theorem unpaddedB64_eq (bytes : List UInt8) :
    unpaddedB64 bytes = (sixBits bytes).map fun value => toUrlsafe (base64Letter value) := by
  obtain ⟨pads, same⟩ := urlsafeB64encode_eq bytes
  rw [unpaddedB64, same]
  apply rstripPadding_append
  intro letter member
  obtain ⟨value, inside, rfl⟩ := List.mem_map.mp member
  exact (toUrlsafe_letter value (sixBits_lt bytes value inside)).1

/-- The letters are ASCII, and none is a dot. -/
theorem mem_unpaddedB64 {bytes : List UInt8} {letter : Char} (member : letter ∈ unpaddedB64 bytes) :
    letter ≠ '.' ∧ letter.toNat < 128 := by
  rw [unpaddedB64_eq] at member
  obtain ⟨value, inside, rfl⟩ := List.mem_map.mp member
  exact (toUrlsafe_letter value (sixBits_lt bytes value inside)).2

theorem a2bBase64_letter {value : Nat} (small : value < 64) (state : QuadState) (pads : Nat)
    (rest : List Char) :
    a2bBase64 state pads (base64Letter value :: rest) =
      (a2bBase64 (state.next value).1 0 rest).map ((state.next value).2 ++ ·) := by
  obtain ⟨reads, notPad, _⟩ := base64Letter_reads value small
  rw [a2bBase64, if_neg notPad, reads]

theorem ofNat_group (byte : UInt8) {value : Nat} (same : value = byte.toNat) :
    UInt8.ofNat value = byte := by
  rw [same, UInt8.ofNat_toNat]

/-- The letters of bytes are read back behind their padding. -/
theorem a2bBase64_sixBits (bytes : List UInt8) :
    a2bBase64 .zero 0 ((sixBits bytes).map base64Letter ++
      List.replicate ((4 - (sixBits bytes).length % 4) % 4) '=') = some bytes := by
  fun_induction sixBits bytes with
  | case1 => rfl
  | case2 a =>
      have := a.toNat_lt
      rw [List.map_cons, List.map_cons, List.cons_append, List.cons_append,
        a2bBase64_letter (by omega), a2bBase64_letter (by omega)]
      change some [UInt8.ofNat _] = _
      rw [ofNat_group a (by omega)]
  | case3 a b =>
      have := a.toNat_lt
      have := b.toNat_lt
      rw [List.map_cons, List.map_cons, List.map_cons, List.cons_append, List.cons_append,
        List.cons_append, a2bBase64_letter (by omega), a2bBase64_letter (by omega),
        a2bBase64_letter (by omega)]
      change some [UInt8.ofNat _, UInt8.ofNat _] = _
      rw [ofNat_group a (by omega), ofNat_group b (by omega)]
  | case4 a b c rest ih =>
      have := a.toNat_lt
      have := b.toNat_lt
      have := c.toNat_lt
      have pads : (4 - ((a.toNat / 4 :: (a.toNat % 4 * 16 + b.toNat / 16) ::
          (b.toNat % 16 * 4 + c.toNat / 64) :: (c.toNat % 64) :: sixBits rest).length) % 4) % 4 =
            (4 - (sixBits rest).length % 4) % 4 := by
        simp only [List.length_cons]
        omega
      rw [pads, List.map_cons, List.map_cons, List.map_cons, List.map_cons, List.cons_append,
        List.cons_append, List.cons_append, List.cons_append, a2bBase64_letter (by omega),
        a2bBase64_letter (by omega), a2bBase64_letter (by omega), a2bBase64_letter (by omega)]
      simp only [QuadState.next, ih, Option.map_some, List.nil_append, List.singleton_append]
      rw [ofNat_group a (by omega), ofNat_group b (by omega), ofNat_group c (by omega)]

theorem map_fromUrlsafe_unpadded (bytes : List UInt8) :
    (unpaddedB64 bytes).map fromUrlsafe = (sixBits bytes).map base64Letter := by
  rw [unpaddedB64_eq, List.map_map]
  apply List.map_congr_left
  intro value inside
  exact (base64Letter_reads value (sixBits_lt bytes value inside)).2.2

/-- Bytes without padding are read back once they are padded. -/
theorem urlsafeB64decode_unpadded (bytes : List UInt8) :
    urlsafeB64decode (unpaddedB64 bytes ++ padding (unpaddedB64 bytes)) = some bytes := by
  have ascii : ((unpaddedB64 bytes ++ padding (unpaddedB64 bytes)).all
      fun letter => decide (letter.toNat < 128)) = true := by
    rw [List.all_eq_true]
    intro letter member
    rw [decide_eq_true_eq]
    rcases List.mem_append.mp member with inside | pad
    · exact (mem_unpaddedB64 inside).2
    · rw [List.eq_of_mem_replicate pad]
      decide
  have pads : (padding (unpaddedB64 bytes)).map fromUrlsafe = padding (unpaddedB64 bytes) :=
    List.map_replicate
  have length : (unpaddedB64 bytes).length = (sixBits bytes).length := by
    rw [unpaddedB64_eq, List.length_map]
  rw [urlsafeB64decode, if_pos ascii, List.map_append, pads, map_fromUrlsafe_unpadded, padding,
    length]
  exact a2bBase64_sixBits bytes

/-- What `urlsafe_b64encode` writes is the letters and their padding. -/
theorem urlsafeB64encode_eq_padded (bytes : List UInt8) :
    urlsafeB64encode bytes = unpaddedB64 bytes ++ padding (unpaddedB64 bytes) := by
  have pads : urlsafeB64encode bytes =
      (sixBits bytes).map (fun value => toUrlsafe (base64Letter value)) ++
        List.replicate ((4 - (sixBits bytes).length % 4) % 4) '=' := by
    unfold urlsafeB64encode
    fun_induction sixBits bytes with
    | case1 => rfl
    | case2 a => rfl
    | case3 a b => rfl
    | case4 a b c rest ih =>
        have length : ∀ count : Nat, (4 - (count + 4) % 4) % 4 = (4 - count % 4) % 4 := by
          intro count
          omega
        rw [b64encode, List.map_cons, List.map_cons, List.map_cons, List.map_cons, ih,
          List.length_cons, List.length_cons, List.length_cons, List.length_cons, length]
        rfl
  rw [pads, unpaddedB64_eq, padding, List.length_map]

/-- Bytes with padding are read back. -/
theorem urlsafeB64decode_encode (bytes : List UInt8) :
    urlsafeB64decode (urlsafeB64encode bytes) = some bytes := by
  rw [urlsafeB64encode_eq_padded]
  exact urlsafeB64decode_unpadded bytes

/-- Different bytes have different letters. -/
theorem unpaddedB64_injective : Function.Injective unpaddedB64 := by
  intro first second same
  have read := urlsafeB64decode_unpadded first
  rw [same, urlsafeB64decode_unpadded second] at read
  exact (Option.some.inj read).symm

/-! ## Other spellings -/

/-- What is no letter and no pad is passed over. -/
theorem a2bBase64_skip {junk : List Char}
    (noLetters : ∀ letter ∈ junk, letter ≠ '=' ∧ base64Value letter = none) (state : QuadState)
    (pads : Nat) (rest : List Char) :
    a2bBase64 state pads (junk ++ rest) = a2bBase64 state pads rest := by
  induction junk with
  | nil => rfl
  | cons letter more ih =>
      obtain ⟨⟨notPad, noValue⟩, others⟩ := List.forall_mem_cons.mp noLetters
      rw [List.cons_append, a2bBase64, if_neg notPad, noValue]
      exact ih others

/-- Four exclamation marks in front change nothing. -/
theorem urlsafeB64decode_junk (text : List Char) :
    urlsafeB64decode (('!' :: '!' :: '!' :: '!' :: text) ++ padding ('!' :: '!' :: '!' :: '!' :: text)) =
      urlsafeB64decode (text ++ padding text) := by
  have pads : padding ('!' :: '!' :: '!' :: '!' :: text) = padding text := by
    unfold padding
    congr 1
    simp only [List.length_cons]
    omega
  have noLetters : ∀ letter ∈ ['!', '!', '!', '!'],
      letter ≠ '=' ∧ base64Value letter = none := by
    intro letter member
    obtain rfl : letter = '!' := by simpa using member
    decide
  have skipped := a2bBase64_skip noLetters .zero 0 ((text ++ padding text).map fromUrlsafe)
  rw [pads]
  unfold urlsafeB64decode
  change (if (text ++ padding text).all _ = true then a2bBase64 .zero 0
    (['!', '!', '!', '!'] ++ (text ++ padding text).map fromUrlsafe) else none) = _
  rw [skipped]

end Foundation
