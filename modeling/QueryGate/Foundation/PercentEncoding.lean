import QueryGate.Foundation.Encoding
import QueryGate.Foundation.Framing

/-! # Percent-encoded texts

A text is percent-encoded byte by byte: letters, digits and four marks stand for themselves,
every other byte for a percent sign with two digits. Different texts are encoded
differently, and the encoding has no separator in it (`urlQuote_injective`, `not_mem_urlQuote`).
-/

namespace Foundation

/-- The bytes that are written as they are. -/
def isUnreserved (byte : UInt8) : Bool :=
  (65 ≤ byte && byte ≤ 90) || (97 ≤ byte && byte ≤ 122) || (48 ≤ byte && byte ≤ 57) ||
    byte = 95 || byte = 46 || byte = 45 || byte = 126

/-- A digit of a base up to sixteen, in capitals. -/
def upperDigit (digit : Nat) : Char :=
  if digit < 10 then Char.ofNat (48 + digit) else Char.ofNat (55 + digit)

/-- A byte, as it is or in two digits behind a percent sign. -/
def quoteByte (byte : UInt8) : List Char :=
  if isUnreserved byte then [Char.ofNat byte.toNat]
  else ['%', upperDigit (byte.toNat / 16), upperDigit (byte.toNat % 16)]

/-- `urllib.parse.quote(text, safe="")`. -/
def urlQuote (text : String) : List Char :=
  (encodeUtf8 text.toList).flatMap quoteByte

theorem toNat_unreserved (byte : UInt8) : (Char.ofNat byte.toNat).toNat = byte.toNat := by
  have small : byte.toNat < 256 := byte.toNat_lt
  have valid : byte.toNat.isValidChar := .inl (by omega)
  rw [Char.ofNat, dif_pos valid]
  rfl

theorem upperDigit_injective {first second : Nat} (firstSmall : first < 16)
    (secondSmall : second < 16) (same : upperDigit first = upperDigit second) :
    first = second := by
  have digits : ∀ first second : Fin 16,
      upperDigit first.val = upperDigit second.val → first = second := by decide
  exact congrArg Fin.val (digits ⟨first, firstSmall⟩ ⟨second, secondSmall⟩ same)

/-- A byte is read back from what it is written as, and where it ends is told. -/
theorem quoteByte_selfDelimiting : SelfDelimiting quoteByte := by
  intro first second front back same
  unfold quoteByte at same
  by_cases firstPlain : isUnreserved first = true
  · by_cases secondPlain : isUnreserved second = true
    · rw [if_pos firstPlain, if_pos secondPlain] at same
      obtain ⟨head, tail⟩ := List.cons.inj same
      have codes := congrArg Char.toNat head
      rw [toNat_unreserved, toNat_unreserved] at codes
      exact ⟨UInt8.toNat_inj.mp codes, tail⟩
    · rw [if_pos firstPlain, if_neg secondPlain] at same
      have codes := congrArg Char.toNat (List.cons.inj same).1
      rw [toNat_unreserved] at codes
      have percent : first = 37 := UInt8.toNat_inj.mp codes
      rw [percent] at firstPlain
      cases firstPlain
  · by_cases secondPlain : isUnreserved second = true
    · rw [if_neg firstPlain, if_pos secondPlain] at same
      have codes := congrArg Char.toNat (List.cons.inj same).1
      rw [toNat_unreserved] at codes
      have percent : second = 37 := UInt8.toNat_inj.mp codes.symm
      rw [percent] at secondPlain
      cases secondPlain
    · rw [if_neg firstPlain, if_neg secondPlain] at same
      simp only [List.cons_append, List.nil_append, List.cons.injEq, true_and] at same
      obtain ⟨high, low, tail⟩ := same
      have firstSmall : first.toNat < 256 := first.toNat_lt
      have secondSmall : second.toNat < 256 := second.toNat_lt
      have upper := upperDigit_injective (by omega) (by omega) high
      have lower := upperDigit_injective (by omega) (by omega) low
      exact ⟨UInt8.toNat_inj.mp (by omega), tail⟩

theorem quoteByte_ne_nil (byte : UInt8) : quoteByte byte ≠ [] := by
  unfold quoteByte
  split
  · exact List.cons_ne_nil _ _
  · exact List.cons_ne_nil _ _

/-- Rows of self-delimiting frames, none of them empty, are read one way only. -/
theorem SelfDelimiting.flatMap_injective {α β : Type} {frame : α → List β}
    (delimits : SelfDelimiting frame) (nonempty : ∀ item, frame item ≠ []) :
    Function.Injective (List.flatMap frame) := by
  intro first
  induction first with
  | nil =>
      intro second same
      cases second with
      | nil => rfl
      | cons other later =>
          rw [List.flatMap_nil, List.flatMap_cons] at same
          exact absurd (List.append_eq_nil_iff.mp same.symm).1 (nonempty other)
  | cons head rest ih =>
      intro second same
      cases second with
      | nil =>
          rw [List.flatMap_nil, List.flatMap_cons] at same
          exact absurd (List.append_eq_nil_iff.mp same).1 (nonempty head)
      | cons other later =>
          rw [List.flatMap_cons, List.flatMap_cons] at same
          obtain ⟨heads, tails⟩ := delimits head other _ _ same
          rw [heads, ih tails]

theorem urlQuote_injective : Function.Injective urlQuote := by
  intro first second same
  have bytes := quoteByte_selfDelimiting.flatMap_injective quoteByte_ne_nil same
  exact String.toList_inj.mp (encodeUtf8_injective bytes)

theorem urlQuote_eq_nil_iff {text : String} : urlQuote text = [] ↔ text = "" := by
  constructor
  · intro empty
    exact urlQuote_injective (empty.trans (by rfl : ([] : List Char) = urlQuote ""))
  · rintro rfl
    rfl

/-- No quoted text has a character that is neither a letter, a digit, a mark nor the
percent sign. -/
theorem not_mem_urlQuote {letter : Char}
    (reserved : isUnreserved (UInt8.ofNat letter.toNat) = false) (percent : letter ≠ '%')
    (text : String) : letter ∉ urlQuote text := by
  intro member
  obtain ⟨byte, _, inside⟩ := List.mem_flatMap.mp member
  unfold quoteByte at inside
  have digits : ∀ digit : Fin 16,
      isUnreserved (UInt8.ofNat (upperDigit digit.val).toNat) = true := by
    decide
  have notDigit : ∀ digit < 16, letter ≠ upperDigit digit := by
    rintro digit small rfl
    rw [digits ⟨digit, small⟩] at reserved
    cases reserved
  split at inside
  · rename_i plain
    rw [List.mem_singleton.mp inside, toNat_unreserved, UInt8.ofNat_toNat, plain] at reserved
    cases reserved
  · have small : byte.toNat < 256 := byte.toNat_lt
    simp only [List.mem_cons, List.not_mem_nil, or_false] at inside
    rcases inside with same | same | same
    · exact percent same
    · exact notDigit _ (by omega) same
    · exact notDigit _ (by omega) same

end Foundation
