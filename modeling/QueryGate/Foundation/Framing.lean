import QueryGate.Foundation.Encoding

/-! # Framed bytes

A frame is self-delimiting when what follows it can be told from it. Texts behind their
length are, so a sequence of frames is read one way only.
-/

namespace Foundation

variable {α β : Type}

/-- What a separator cuts is determined where it occurs in neither front. -/
theorem append_cons_eq_iff {separator : α} {first second front back : List α}
    (firstFree : separator ∉ first) (secondFree : separator ∉ second) :
    first ++ separator :: front = second ++ separator :: back ↔
      first = second ∧ front = back := by
  induction first generalizing second with
  | nil =>
      cases second with
      | nil => simp
      | cons head rest =>
          have apart : separator ≠ head := (List.ne_and_not_mem_of_not_mem_cons secondFree).1
          simp [apart]
  | cons head rest ih =>
      obtain ⟨headApart, restFree⟩ := List.ne_and_not_mem_of_not_mem_cons firstFree
      cases second with
      | nil => simp [Ne.symm headApart]
      | cons other later =>
          obtain ⟨_, laterFree⟩ := List.ne_and_not_mem_of_not_mem_cons secondFree
          simp only [List.cons_append, List.cons.injEq, ih restFree laterFree, and_assoc]

/-- Frames that tell where they end. -/
def SelfDelimiting (frame : α → List β) : Prop :=
  ∀ first second front back, frame first ++ front = frame second ++ back →
    first = second ∧ front = back

/-- As many frames in a row are read one way. -/
theorem SelfDelimiting.flatMap_inj {frame : α → List β} (delimits : SelfDelimiting frame)
    {first second : List α} (count : first.length = second.length)
    (same : first.flatMap frame = second.flatMap frame) : first = second := by
  induction first generalizing second with
  | nil => exact (List.length_eq_zero_iff.mp count.symm).symm
  | cons head rest ih =>
      cases second with
      | nil => cases count
      | cons other later =>
          rw [List.flatMap_cons, List.flatMap_cons] at same
          obtain ⟨rfl, tails⟩ := delimits head other _ _ same
          rw [ih (Nat.succ.inj count) tails]

/-- `str(number).encode("ascii")`. -/
def decimalBytes (number : Nat) : List UInt8 :=
  (Nat.toDigits 10 number).map fun digit => UInt8.ofNat digit.toNat

theorem toNat_digit {digit : Char} (decimal : digit.isDigit = true) :
    48 ≤ digit.toNat ∧ digit.toNat ≤ 57 := by
  simp only [Char.isDigit, Bool.and_eq_true, decide_eq_true_eq] at decimal
  exact ⟨UInt32.le_iff_toNat_le.mp decimal.1, UInt32.le_iff_toNat_le.mp decimal.2⟩

theorem toNat_digitByte {digit : Char} (decimal : digit.isDigit = true) :
    (UInt8.ofNat digit.toNat).toNat = digit.toNat := by
  have bound := (toNat_digit decimal).2
  rw [UInt8.toNat_ofNat']
  exact Nat.mod_eq_of_lt (by omega)

theorem decimalBytes_injective : Function.Injective decimalBytes := by
  intro first second same
  have read : ∀ number, (decimalBytes number).map (fun byte => Char.ofNat byte.toNat) =
      Nat.toDigits 10 number := by
    intro number
    unfold decimalBytes
    rw [List.map_map]
    refine (List.map_congr_left fun digit member => ?_).trans (List.map_id _)
    have decimal := Nat.isDigit_of_mem_toDigits (by decide) (by decide) member
    exact (congrArg Char.ofNat (toNat_digitByte decimal)).trans (Char.ofNat_toNat digit)
  have digits := (read first).symm.trans ((congrArg _ same).trans (read second))
  rw [← Nat.ofDigitChars_ten_toDigits (n := first), digits, Nat.ofDigitChars_ten_toDigits]

/-- A control character is no digit. -/
theorem not_mem_decimalBytes {byte : UInt8} (control : byte < 48) (number : Nat) :
    byte ∉ decimalBytes number := by
  intro member
  obtain ⟨digit, inside, rfl⟩ := List.mem_map.mp member
  have decimal := Nat.isDigit_of_mem_toDigits (by decide) (by decide) inside
  have below := UInt8.lt_iff_toNat_lt.mp control
  rw [toNat_digitByte decimal] at below
  exact absurd (toNat_digit decimal).1 (Nat.not_le.mpr below)

/-- Bytes behind their length, which a separator ends. -/
def lengthPrefixed (separator : UInt8) (bytes : List UInt8) : List UInt8 :=
  decimalBytes bytes.length ++ separator :: bytes

theorem lengthPrefixed_selfDelimiting {separator : UInt8} (control : separator < 48) :
    SelfDelimiting (lengthPrefixed separator) := by
  intro first second front back same
  unfold lengthPrefixed at same
  rw [List.append_assoc, List.append_assoc, List.cons_append, List.cons_append,
    append_cons_eq_iff (not_mem_decimalBytes control _) (not_mem_decimalBytes control _)] at same
  exact List.append_inj same.2 (decimalBytes_injective same.1)

end Foundation
