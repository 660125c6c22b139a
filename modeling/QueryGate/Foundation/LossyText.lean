import QueryGate.Foundation.Text

/-! # Text read from any bytes

Splitting at a separator piece by piece, and the UTF-8 decoding that puts a replacement
character where bytes are not UTF-8. A line feed ends every sequence of bytes it stands
behind, so decoding and splitting at line feeds commute (`splitOn_decodeReplace`).
-/

namespace Foundation

section Splitting

variable {α : Type} [BEq α] [LawfulBEq α] {separator : α}

/-- A piece does not hold the separator. -/
theorem not_mem_of_mem_splitOn {text piece : List α} (member : piece ∈ text.splitOn separator) :
    separator ∉ piece := by
  induction text generalizing piece with
  | nil =>
      rw [List.splitOn_nil, List.mem_singleton] at member
      rw [member]
      exact List.not_mem_nil
  | cons letter rest ih =>
      rw [List.splitOn_cons_eq_if_modifyHead] at member
      split at member
      · rcases List.mem_cons.mp member with rfl | later
        · exact List.not_mem_nil
        · exact ih later
      · rename_i other
        obtain ⟨first, more, found⟩ := List.exists_cons_of_ne_nil
          (List.splitOn_ne_nil separator rest)
        rw [found] at member ih
        rcases List.mem_cons.mp member with rfl | later
        · intro inside
          rcases List.mem_cons.mp inside with rfl | deeper
          · exact other (beq_self_eq_true _)
          · exact ih (List.mem_cons_self ..) deeper
        · exact ih (List.mem_cons_of_mem _ later)

/-- What stands before a text reaches no further than the first piece of it. -/
theorem splitOn_append_of_splitOn {back carry : List α} {later : List (List α)}
    (split : back.splitOn separator = carry :: later) (front : List α) :
    (front ++ back).splitOn separator = (front ++ carry).splitOn separator ++ later := by
  induction front with
  | nil =>
      have plain : separator ∉ carry :=
        not_mem_of_mem_splitOn (split ▸ List.mem_cons_self ..)
      rw [List.nil_append, List.nil_append, split, List.splitOn_eq_singleton plain]
      rfl
  | cons letter rest ih =>
      rw [List.cons_append, List.cons_append, List.splitOn_cons_eq_if_modifyHead,
        List.splitOn_cons_eq_if_modifyHead, ih]
      split
      · rfl
      · obtain ⟨first, more, found⟩ := List.exists_cons_of_ne_nil
          (List.splitOn_ne_nil separator (rest ++ carry))
        rw [found]
        rfl

omit [LawfulBEq α] in
/-- A piece is no longer than the text. -/
theorem length_piece_le {text piece : List α} (member : piece ∈ text.splitOn separator) :
    piece.length ≤ text.length := by
  induction text generalizing piece with
  | nil =>
      rw [List.splitOn_nil, List.mem_singleton] at member
      rw [member]
  | cons letter rest ih =>
      rw [List.splitOn_cons_eq_if_modifyHead] at member
      rw [List.length_cons]
      split at member
      · rcases List.mem_cons.mp member with rfl | later
        · exact Nat.zero_le _
        · exact (ih later).trans (Nat.le_succ _)
      · obtain ⟨first, more, found⟩ := List.exists_cons_of_ne_nil
          (List.splitOn_ne_nil separator rest)
        rw [found] at member ih
        rcases List.mem_cons.mp member with rfl | later
        · exact Nat.succ_le_succ (ih (List.mem_cons_self ..))
        · exact (ih (List.mem_cons_of_mem _ later)).trans (Nat.le_succ _)

/-- A text without a separator goes into one piece, whatever stands before it. -/
theorem exists_piece_of_append {carry : List α} (plain : separator ∉ carry) (front : List α) :
    ∃ piece ∈ (front ++ carry).splitOn separator, carry.length ≤ piece.length := by
  induction front with
  | nil =>
      refine ⟨carry, ?_, le_rfl⟩
      rw [List.nil_append, List.splitOn_eq_singleton plain]
      exact List.mem_singleton_self _
  | cons letter rest ih =>
      obtain ⟨piece, member, covers⟩ := ih
      rw [List.cons_append, List.splitOn_cons_eq_if_modifyHead]
      split
      · exact ⟨piece, List.mem_cons_of_mem _ member, covers⟩
      · obtain ⟨first, more, found⟩ := List.exists_cons_of_ne_nil
          (List.splitOn_ne_nil separator (rest ++ carry))
        rw [found] at member ⊢
        rcases List.mem_cons.mp member with rfl | later
        · exact ⟨letter :: piece, List.mem_cons_self .., covers.trans (Nat.le_succ _)⟩
        · exact ⟨piece, List.mem_cons_of_mem _ later, covers⟩

/-- Where text comes apart before a part without a separator, its first piece lies in
front of that part. -/
theorem length_head_le {front carry first : List α} {later : List (List α)}
    (plain : separator ∉ carry) (apart : later ≠ [])
    (split : (front ++ carry).splitOn separator = first :: later) :
    first.length ≤ front.length := by
  by_cases broken : separator ∈ front
  · obtain ⟨head, rest, rfl, plainHead⟩ := List.eq_append_cons_of_mem broken
    rw [List.append_assoc, List.cons_append,
      List.splitOn_append_cons_self_of_not_mem plainHead] at split
    injection split with same _
    rw [← same, List.length_append]
    exact Nat.le_add_right _ _
  · rw [List.splitOn_eq_singleton (fun inside =>
      (List.mem_append.mp inside).elim broken plain)] at split
    injection split with _ none
    exact absurd none.symm apart

end Splitting

/-! ## UTF-8 with replacement -/

/-- The character put in place of bytes that are not UTF-8. -/
def replacement : Char := Char.ofNat 0xFFFD

/-- A sequence of bytes that has begun and is not complete: how many bytes it still
needs, between what bounds the next of them lies, and the bits read so far. -/
structure PendingSequence where
  needed : Nat
  low : Nat
  high : Nat
  code : Nat
  continues : 0x80 ≤ low
  /-- The shortest spelling only: the sequence does not spell an ASCII character. -/
  shortest : 0x80 < code * 64 + low
  spelled : needed ≤ 1 → 1 ≤ code

/-- The least second byte behind a first one. -/
def leastSecond (byte : Nat) : Nat :=
  if byte = 0xE0 then 0xA0 else if byte = 0xF0 then 0x90 else 0x80

/-- The greatest second byte behind a first one. -/
def greatestSecond (byte : Nat) : Nat :=
  if byte = 0xED then 0x9F else if byte = 0xF4 then 0x8F else 0xBF

theorem continues_leastSecond (byte : Nat) : 0x80 ≤ leastSecond byte := by
  unfold leastSecond
  split_ifs <;> omega

/-- A byte where a sequence may begin: what it spells at once, or what it begins. -/
def beginSequence (byte : Nat) : List Char × Option PendingSequence :=
  if byte < 0x80 then ([Char.ofNat byte], none)
  else if two : 0xC2 ≤ byte ∧ byte ≤ 0xDF then
    ([], some ⟨1, 0x80, 0xBF, byte - 0xC0, by omega, by omega, by omega⟩)
  else if three : 0xE0 ≤ byte ∧ byte ≤ 0xEF then
    ([], some ⟨2, leastSecond byte, greatestSecond byte, byte - 0xE0, continues_leastSecond byte,
      by unfold leastSecond; split_ifs <;> omega, by omega⟩)
  else if four : 0xF0 ≤ byte ∧ byte ≤ 0xF4 then
    ([], some ⟨3, leastSecond byte, greatestSecond byte, byte - 0xF0, continues_leastSecond byte,
      by unfold leastSecond; split_ifs <;> omega, by omega⟩)
  else ([replacement], none)

/-- One byte: a byte that cannot continue a sequence ends it with a replacement, and is
read again where a sequence may begin. -/
def decodeByte (byte : Nat) : Option PendingSequence → List Char × Option PendingSequence
  | none => beginSequence byte
  | some pending =>
      if inside : pending.low ≤ byte ∧ byte ≤ pending.high then
        if more : 1 < pending.needed then
          ([], some ⟨pending.needed - 1, 0x80, 0xBF, pending.code * 64 + (byte - 0x80), Nat.le_refl _,
            by have := pending.shortest; have := pending.continues; omega,
            by have := pending.shortest; have := pending.continues; omega⟩)
        else ([Char.ofNat (pending.code * 64 + (byte - 0x80))], none)
      else (replacement :: (beginSequence byte).1, (beginSequence byte).2)

/-- The characters of bytes, behind a sequence that may have begun. -/
def decodeFrom : Option PendingSequence → List UInt8 → List Char
  | none, [] => []
  | some _, [] => [replacement]
  | state, byte :: rest =>
      (decodeByte byte.toNat state).1 ++ decodeFrom (decodeByte byte.toNat state).2 rest

/-- `bytes.decode("utf-8", errors="replace")`. -/
def decodeReplace (bytes : List UInt8) : List Char :=
  decodeFrom none bytes

/-- The byte of the line feed. -/
def lineFeed : UInt8 := 10

/-- Where nothing is spelled yet, a sequence has begun. -/
theorem isSome_of_decodeByte {byte : Nat} {state : Option PendingSequence}
    (silent : (decodeByte byte state).1 = []) : (decodeByte byte state).2.isSome = true := by
  have begun : (beginSequence byte).1 = [] → (beginSequence byte).2.isSome = true := by
    unfold beginSequence
    split_ifs
    all_goals first
      | exact fun _ => rfl
      | exact fun spelled => by cases spelled
  cases state with
  | none => exact begun silent
  | some pending =>
      unfold decodeByte at silent ⊢
      dsimp only at silent ⊢
      split_ifs at silent ⊢
      rfl

theorem decodeFrom_ne_nil_of_pending (pending : PendingSequence) (bytes : List UInt8) :
    decodeFrom (some pending) bytes ≠ [] := by
  induction bytes generalizing pending with
  | nil => exact List.cons_ne_nil _ _
  | cons byte rest ih =>
      rw [decodeFrom]
      by_cases silent : (decodeByte byte.toNat (some pending)).1 = []
      · obtain ⟨next, begun⟩ := Option.isSome_iff_exists.mp (isSome_of_decodeByte silent)
        rw [begun]
        exact List.append_ne_nil_of_right_ne_nil _ (ih next)
      · exact List.append_ne_nil_of_left_ne_nil silent _

/-- Bytes spell something unless there are none. -/
theorem decodeReplace_eq_nil_iff {bytes : List UInt8} : decodeReplace bytes = [] ↔ bytes = [] := by
  cases bytes with
  | nil => exact ⟨fun _ => rfl, fun _ => rfl⟩
  | cons byte rest =>
      refine ⟨fun empty => ?_, nofun⟩
      rw [decodeReplace, decodeFrom, List.append_eq_nil_iff] at empty
      obtain ⟨next, begun⟩ := Option.isSome_iff_exists.mp (isSome_of_decodeByte empty.1)
      rw [begun] at empty
      exact absurd empty.2 (decodeFrom_ne_nil_of_pending next rest)

/-! ## Line feeds -/

/-- The line feed ends what has begun, and begins nothing. -/
theorem decodeFrom_lineFeed (state : Option PendingSequence) (rest : List UInt8) :
    decodeFrom state (lineFeed :: rest) = decodeFrom state [] ++ '\n' :: decodeFrom none rest := by
  cases state with
  | none => rfl
  | some pending =>
      have outside : ¬ (pending.low ≤ lineFeed.toNat ∧ lineFeed.toNat ≤ pending.high) := by
        intro inside
        have lowest := pending.continues
        exact absurd (Nat.le_trans lowest inside.1) (by decide)
      have ends : decodeByte lineFeed.toNat (some pending) = ([replacement, '\n'], none) := by
        rw [decodeByte.eq_def]
        dsimp only
        rw [dif_neg outside]
        rfl
      change (decodeByte lineFeed.toNat (some pending)).1 ++
        decodeFrom (decodeByte lineFeed.toNat (some pending)).2 rest = _
      rw [ends]
      rfl

theorem decodeFrom_append_lineFeed (front rest : List UInt8) (state : Option PendingSequence) :
    decodeFrom state (front ++ lineFeed :: rest) =
      decodeFrom state front ++ '\n' :: decodeFrom none rest := by
  induction front generalizing state with
  | nil => exact decodeFrom_lineFeed state rest
  | cons byte more ih => rw [List.cons_append, decodeFrom, decodeFrom, ih, List.append_assoc]

/-- The line feed has no spelling but its own. -/
theorem lineFeed_of_ofNat {code : Nat} (spelled : '\n' = Char.ofNat code) : code = 10 := by
  by_cases valid : code.isValidChar
  · have same := congrArg Char.toNat spelled
    rw [toNat_ofNat_of_valid valid] at same
    exact same.symm
  · rw [Char.ofNat.eq_def code, dif_neg valid] at spelled
    exact absurd spelled (by decide)

theorem not_mem_beginSequence {byte : Nat} (other : byte ≠ 10) :
    '\n' ∉ (beginSequence byte).1 := by
  unfold beginSequence
  split_ifs
  · exact fun member => other (lineFeed_of_ofNat (List.mem_singleton.mp member))
  · exact List.not_mem_nil
  · exact List.not_mem_nil
  · exact List.not_mem_nil
  · exact fun member => absurd (List.mem_singleton.mp member) (by decide)

theorem not_mem_decodeByte {byte : Nat} (other : byte ≠ 10) (state : Option PendingSequence) :
    '\n' ∉ (decodeByte byte state).1 := by
  cases state with
  | none => exact not_mem_beginSequence other
  | some pending =>
      unfold decodeByte
      dsimp only
      split_ifs with inside more
      · exact List.not_mem_nil
      · intro member
        have code := lineFeed_of_ofNat (List.mem_singleton.mp member)
        have spelled := pending.spelled (by omega)
        omega
      · intro member
        rcases List.mem_cons.mp member with mark | begun
        · exact absurd mark (by decide)
        · exact not_mem_beginSequence other begun

/-- No line feed is read where there is none. -/
theorem not_mem_decodeFrom {bytes : List UInt8} (plain : lineFeed ∉ bytes)
    (state : Option PendingSequence) : '\n' ∉ decodeFrom state bytes := by
  induction bytes generalizing state with
  | nil =>
      cases state with
      | none => exact List.not_mem_nil
      | some pending => exact fun member => absurd (List.mem_singleton.mp member) (by decide)
  | cons byte rest ih =>
      obtain ⟨first, later⟩ := not_or.mp (mt List.mem_cons.mpr plain)
      rw [decodeFrom, List.mem_append, not_or]
      refine ⟨not_mem_decodeByte (fun same => ?_) state, ih later _⟩
      exact first (UInt8.toNat_inj.mp same.symm)

/-- Splitting bytes at line feeds and reading the pieces is reading the bytes and
splitting the text. -/
theorem splitOn_decodeReplace (bytes : List UInt8) :
    (decodeReplace bytes).splitOn '\n' = (bytes.splitOn lineFeed).map decodeReplace := by
  induction size : bytes.length using Nat.strong_induction_on generalizing bytes with
  | _ bound ih =>
      by_cases broken : lineFeed ∈ bytes
      · obtain ⟨front, rest, rfl, plain⟩ := List.eq_append_cons_of_mem broken
        have shorter : rest.length < bound := by
          rw [← size, List.length_append, List.length_cons]
          omega
        rw [decodeReplace, decodeFrom_append_lineFeed,
          List.splitOn_append_cons_self_of_not_mem (not_mem_decodeFrom plain _),
          List.splitOn_append_cons_self_of_not_mem plain, List.map_cons]
        exact congrArg _ (ih rest.length shorter rest rfl)
      · rw [List.splitOn_eq_singleton broken, decodeReplace,
          List.splitOn_eq_singleton (not_mem_decodeFrom broken _)]
        rfl

end Foundation
