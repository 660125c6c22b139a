import QueryGate.Foundation.Json
import QueryGate.QueryAst.Literal

/-! # JSON texts

`json.dumps(value, sort_keys=True, separators=(",", ":"))`, and sorting by it. A
text is a list of characters until it leaves this module. A list sorted by the
texts of its items prints the same however it was ordered before
(`jsonChars_sortByText`).
-/

namespace QueryGate

open Foundation

/-- A code unit in four lower-case hexadecimal digits. -/
def hexDigits (unit : Nat) : List Char :=
  [Nat.digitChar (unit / 4096 % 16), Nat.digitChar (unit / 256 % 16),
    Nat.digitChar (unit / 16 % 16), Nat.digitChar (unit % 16)]

/-- One character of a JSON string, with everything outside ASCII escaped. -/
def jsonChar (char : Char) : List Char :=
  let code := char.toNat
  if char == '"' || char == '\\' then ['\\', char]
  else if code == 10 then ['\\', 'n']
  else if code == 13 then ['\\', 'r']
  else if code == 9 then ['\\', 't']
  else if code == 12 then ['\\', 'f']
  else if code == 8 then ['\\', 'b']
  else if 32 ≤ code && code ≤ 126 then [char]
  else if code < 0x10000 then '\\' :: 'u' :: hexDigits code
  else
    '\\' :: 'u' :: (hexDigits (0xd800 + (code - 0x10000) / 1024) ++
      '\\' :: 'u' :: hexDigits (0xdc00 + (code - 0x10000) % 1024))

/-- A JSON string. -/
def jsonString (text : String) : List Char :=
  '"' :: (text.toList.flatMap jsonChar ++ ['"'])

/-- `sorted`, on texts. -/
def sortTexts (texts : List (List Char)) : List (List Char) :=
  texts.insertionSort (· ≤ ·)

/-- The entries of an object in the order of their keys. -/
def sortEntries (entries : List (String × List Char)) : List (String × List Char) :=
  entries.insertionSort fun first second => first.1.toList ≤ second.1.toList

/-- `"key":text`. -/
def entryChars (entry : String × List Char) : List Char :=
  jsonString entry.1 ++ ':' :: entry.2

/-- Texts with commas between them, in brackets. -/
def bracketed (opening closing : Char) (texts : List (List Char)) : List Char :=
  opening :: ([','].intercalate texts ++ [closing])

mutual

/-- `json.dumps`. No shape holds a float where it is printed; one would be printed
by its bits. -/
def jsonChars : Value → List Char
  | .null => "null".toList
  | .bool true => "true".toList
  | .bool false => "false".toList
  | .int value => (toString value).toList
  | .float value => (toString value.bits.toNat).toList
  | .str text => jsonString text
  | .list items => bracketed '[' ']' (itemChars items)
  | .dict entries => bracketed '\x7b' '\x7d' ((sortEntries (valueChars entries)).map entryChars)
termination_by structural value => value

/-- The texts of the items of a list. -/
def itemChars : List Value → List (List Char)
  | [] => []
  | item :: rest => jsonChars item :: itemChars rest
termination_by structural items => items

/-- The texts of the values of an object, under their keys. -/
def valueChars : List (String × Value) → List (String × List Char)
  | [] => []
  | (key, value) :: rest => (key, jsonChars value) :: valueChars rest
termination_by structural entries => entries

end

/-- `sorted(items, key=_sort_key)`. -/
def sortByText (items : List Value) : List Value :=
  items.insertionSort fun first second => jsonChars first ≤ jsonChars second

theorem itemChars_eq_map (items : List Value) : itemChars items = items.map jsonChars := by
  induction items with
  | nil => rfl
  | cons item rest ih => rw [itemChars, ih, List.map_cons]

theorem itemChars_sortByText (items : List Value) :
    itemChars (sortByText items) = sortTexts (itemChars items) := by
  rw [itemChars_eq_map, itemChars_eq_map]
  exact List.map_insertionSort _ _ jsonChars items fun _ _ _ _ => Iff.rfl

theorem sortTexts_perm {first second : List (List Char)} (same : first.Perm second) :
    sortTexts first = sortTexts second := by
  have sorted := ((List.perm_insertionSort (· ≤ ·) first).trans same).trans
    (List.perm_insertionSort (· ≤ ·) second).symm
  exact sorted.eq_of_pairwise' (List.pairwise_insertionSort (· ≤ ·) first)
    (List.pairwise_insertionSort (· ≤ ·) second)

/-- Sorted by their texts, lists with the same texts in any order print alike. -/
theorem jsonChars_sortByText {first second : List Value}
    (same : (itemChars first).Perm (itemChars second)) :
    jsonChars (.list (sortByText first)) = jsonChars (.list (sortByText second)) := by
  rw [jsonChars, jsonChars, itemChars_sortByText, itemChars_sortByText, sortTexts_perm same]

/-! ## Escapes are read back -/

theorem hexValue_digitChar {digit : Nat} (small : digit < 16) :
    hexValue (Nat.digitChar digit) = some digit := by
  interval_cases digit
  all_goals decide

theorem readUnit_hexDigits {unit : Nat} (small : unit < 0x10000) (rest : List Char) :
    readUnit (hexDigits unit ++ rest) = some (unit, rest) := by
  have digits := @hexValue_digitChar
  simp only [hexDigits, List.cons_append, List.nil_append, readUnit, Option.bind_eq_bind,
    digits (Nat.mod_lt _ (by decide : 0 < 16)), Option.bind_some]
  congr 2
  omega

theorem readChar_unit {unit : Nat} (small : unit < 0x10000) (rest : List Char) :
    readChar ('\\' :: 'u' :: (hexDigits unit ++ rest)) = readCode unit rest := by
  rw [readChar, readUnit_hexDigits small]
  rfl

/-- The code of a character is no unit of a pair. -/
theorem toNat_lt_or_gt (char : Char) : char.toNat < 0xd800 ∨ 0xdfff < char.toNat ∧
    char.toNat < 0x110000 :=
  char.valid

theorem readCode_plain {char : Char} (small : char.toNat < 0x10000) (rest : List Char) :
    readCode char.toNat rest = some (char, rest) := by
  have bounds := toNat_lt_or_gt char
  have notHigh : ¬ (0xd800 ≤ char.toNat ∧ char.toNat < 0xdc00) := by omega
  have notLow : ¬ (0xdc00 ≤ char.toNat ∧ char.toNat < 0xe000) := by omega
  unfold readCode
  rw [if_neg notHigh, if_neg notLow, Char.ofNat_toNat]

theorem readCode_pair {high low : Nat} (isHigh : 0xd800 ≤ high ∧ high < 0xdc00)
    (isLow : 0xdc00 ≤ low ∧ low < 0xe000) (rest : List Char) :
    readCode high ('\\' :: 'u' :: (hexDigits low ++ rest)) =
      some (Char.ofNat (0x10000 + (high - 0xd800) * 1024 + (low - 0xdc00)), rest) := by
  have small : low < 0x10000 := by omega
  have escaped : readEscapedUnit ('\\' :: 'u' :: (hexDigits low ++ rest)) = some (low, rest) :=
    readUnit_hexDigits small rest
  unfold readCode
  rw [if_pos isHigh, escaped, Option.bind_some, if_pos isLow]

theorem eq_ofNat_of_toNat {char : Char} {code : Nat} (same : char.toNat = code) :
    char = Char.ofNat code := by
  rw [← same, Char.ofNat_toNat]

theorem jsonChar_opens (char : Char) :
    ∃ first more, jsonChar char = first :: more ∧ first ≠ '"' := by
  unfold jsonChar
  dsimp only
  split_ifs with special
  · exact ⟨'\\', _, rfl, by decide⟩
  · exact ⟨'\\', _, rfl, by decide⟩
  · exact ⟨'\\', _, rfl, by decide⟩
  · exact ⟨'\\', _, rfl, by decide⟩
  · exact ⟨'\\', _, rfl, by decide⟩
  · exact ⟨'\\', _, rfl, by decide⟩
  · refine ⟨char, [], rfl, ?_⟩
    rintro rfl
    exact special (by decide)
  · exact ⟨'\\', _, rfl, by decide⟩
  · exact ⟨'\\', _, rfl, by decide⟩

theorem readChar_plain {char : Char} (notSlash : char ≠ '\\') (visible : 32 ≤ char.toNat)
    (rest : List Char) : readChar (char :: rest) = some (char, rest) := by
  unfold readChar
  split
  · rename_i same
    exact absurd (List.cons.inj same).1 notSlash
  · rename_i same
    exact absurd (List.cons.inj same).1 notSlash
  · rename_i letter more _ _ same
    obtain ⟨rfl, rfl⟩ := List.cons.inj same
    rw [if_neg]
    rw [Bool.or_eq_true, decide_eq_true_eq, beq_iff_eq]
    exact not_or.mpr ⟨not_lt.mpr visible, notSlash⟩
  · rename_i same
    cases same

theorem readChar_jsonChar (char : Char) (rest : List Char) :
    readChar (jsonChar char ++ rest) = some (char, rest) := by
  unfold jsonChar
  dsimp only
  split_ifs with special newline carriage tab feed back visible small
  · rw [Bool.or_eq_true, beq_iff_eq, beq_iff_eq] at special
    rcases special with rfl | rfl
    · rfl
    · rfl
  · rw [eq_ofNat_of_toNat (beq_iff_eq.mp newline)]
    rfl
  · rw [eq_ofNat_of_toNat (beq_iff_eq.mp carriage)]
    rfl
  · rw [eq_ofNat_of_toNat (beq_iff_eq.mp tab)]
    rfl
  · rw [eq_ofNat_of_toNat (beq_iff_eq.mp feed)]
    rfl
  · rw [eq_ofNat_of_toNat (beq_iff_eq.mp back)]
    rfl
  · rw [Bool.and_eq_true, decide_eq_true_eq, decide_eq_true_eq] at visible
    apply readChar_plain _ visible.1
    rintro rfl
    exact special (by decide)
  · rw [List.cons_append, List.cons_append, readChar_unit small, readCode_plain small]
  · have bounds := toNat_lt_or_gt char
    obtain ⟨high, highEq⟩ : ∃ high, high = 0xd800 + (char.toNat - 0x10000) / 1024 := ⟨_, rfl⟩
    obtain ⟨low, lowEq⟩ : ∃ low, low = 0xdc00 + (char.toNat - 0x10000) % 1024 := ⟨_, rfl⟩
    have code : 0x10000 + (high - 0xd800) * 1024 + (low - 0xdc00) = char.toNat := by omega
    rw [← highEq, ← lowEq, List.cons_append, List.cons_append, List.append_assoc,
      readChar_unit (by omega), List.cons_append, List.cons_append,
      readCode_pair (by omega) (by omega), code, Char.ofNat_toNat]

/-- The escapes of `ensure_ascii` are read back. -/
theorem escapeReads_jsonChar : EscapeReads jsonChar :=
  ⟨readChar_jsonChar, jsonChar_opens⟩

/-- One character of a JSON string, with `ensure_ascii=False`. -/
def plainChar (char : Char) : List Char :=
  let code := char.toNat
  if 32 ≤ code && char != '"' && char != '\\' then [char] else jsonChar char

theorem escapeReads_plainChar : EscapeReads plainChar := by
  constructor
  · intro char rest
    unfold plainChar
    dsimp only
    split_ifs with visible
    · simp only [Bool.and_eq_true, decide_eq_true_eq, bne_iff_ne] at visible
      exact readChar_plain visible.2 visible.1.1 rest
    · exact readChar_jsonChar char rest
  · intro char
    unfold plainChar
    dsimp only
    split_ifs with visible
    · simp only [Bool.and_eq_true, decide_eq_true_eq, bne_iff_ne] at visible
      exact ⟨char, [], rfl, visible.1.2⟩
    · exact jsonChar_opens char

theorem toNat_digitChar {digit : Nat} (small : digit < 16) : 48 ≤ (Nat.digitChar digit).toNat := by
  interval_cases digit
  all_goals decide

theorem not_mem_hexDigits {letter : Char} (control : letter.toNat < 32) (unit : Nat) :
    letter ∉ hexDigits unit := by
  have digit : ∀ value, letter ≠ Nat.digitChar (value % 16) := by
    rintro value rfl
    have large := toNat_digitChar (Nat.mod_lt value (by decide : 0 < 16))
    omega
  simp only [hexDigits, List.mem_cons, List.not_mem_nil, or_false, not_or]
  exact ⟨digit _, digit _, digit _, digit _⟩

/-- An escape holds no control character. -/
theorem not_mem_jsonChar {letter : Char} (control : letter.toNat < 32) (char : Char) :
    letter ∉ jsonChar char := by
  unfold jsonChar
  dsimp only
  have slash : letter ≠ '\\' := control_ne control (by decide)
  have unit : letter ≠ 'u' := control_ne control (by decide)
  have escaped : ∀ other : Char, 32 ≤ other.toNat → letter ∉ ['\\', other] := by
    intro other visible
    simp only [List.mem_cons, List.not_mem_nil, or_false, not_or]
    exact ⟨slash, control_ne control visible⟩
  split_ifs with special _ _ _ _ _ visible
  · apply escaped
    rw [Bool.or_eq_true, beq_iff_eq, beq_iff_eq] at special
    rcases special with rfl | rfl
    · decide
    · decide
  · exact escaped _ (by decide)
  · exact escaped _ (by decide)
  · exact escaped _ (by decide)
  · exact escaped _ (by decide)
  · exact escaped _ (by decide)
  · rw [Bool.and_eq_true, decide_eq_true_eq, decide_eq_true_eq] at visible
    exact mt List.mem_singleton.mp (control_ne control visible.1)
  · simp only [List.mem_cons, not_or]
    exact ⟨slash, unit, not_mem_hexDigits control _⟩
  · simp only [List.mem_cons, List.mem_append, not_or]
    exact ⟨slash, unit, not_mem_hexDigits control _, slash, unit, not_mem_hexDigits control _⟩

theorem not_mem_plainChar {letter : Char} (control : letter.toNat < 32) (char : Char) :
    letter ∉ plainChar char := by
  unfold plainChar
  dsimp only
  split_ifs with visible
  · simp only [Bool.and_eq_true, decide_eq_true_eq] at visible
    exact mt List.mem_singleton.mp (control_ne control visible.1.1)
  · exact not_mem_jsonChar control char

example : jsonChars (.dict [("op", .str "é"), ("all", .bool true), ("n", .list [.int (-3), .null])]) =
    "\x7b\"all\":true,\"n\":[-3,null],\"op\":\"\\u00e9\"\x7d".toList := by
  decide +kernel

end QueryGate
