import QueryGate.Foundation.Dict

/-! # JSON texts

A JSON value, its text without blanks, and a reader of JSON texts. Texts are lists of
characters. How a character is escaped in a string and how a number with a fraction or
an exponent is spelled are parameters, and what is written is read back
(`loads_dumps`).
-/

namespace Foundation

/-- A JSON value, with numbers that have a fraction or an exponent of type `F`. -/
inductive Json (F : Type) where
  | null
  | bool (value : Bool)
  | int (value : Int)
  | float (value : F)
  | str (text : String)
  | list (items : List (Json F))
  | dict (entries : List (String × Json F))

/-- How numbers with a fraction or an exponent are spelled and read. -/
structure FloatFormat (F : Type) where
  text : F → List Char
  read : List Char → Option F

/-! ## Writing -/

/-- A string in quotes. -/
def quotedChars (escape : Char → List Char) (text : String) : List Char :=
  '"' :: (text.toList.flatMap escape ++ ['"'])

section Dumps

variable {F : Type} (format : FloatFormat F) (escape : Char → List Char)

mutual

/-- The text of a value, without blanks. -/
def dumps : Json F → List Char
  | .null => "null".toList
  | .bool true => "true".toList
  | .bool false => "false".toList
  | .int value => (toString value).toList
  | .float value => format.text value
  | .str text => quotedChars escape text
  | .list [] => ['[', ']']
  | .list (item :: rest) => '[' :: (dumps item ++ dumpsItems rest)
  | .dict [] => ['\x7b', '\x7d']
  | .dict ((key, value) :: rest) =>
      '\x7b' :: (quotedChars escape key ++ ':' :: (dumps value ++ dumpsEntries rest))
termination_by structural value => value

/-- The items after the first of a list, each behind a comma, and the closing bracket. -/
def dumpsItems : List (Json F) → List Char
  | [] => [']']
  | item :: rest => ',' :: (dumps item ++ dumpsItems rest)
termination_by structural items => items

/-- The entries after the first of an object, and the closing brace. -/
def dumpsEntries : List (String × Json F) → List Char
  | [] => ['\x7d']
  | (key, value) :: rest =>
      ',' :: (quotedChars escape key ++ ':' :: (dumps value ++ dumpsEntries rest))
termination_by structural entries => entries

end

end Dumps

/-! ## Reading -/

/-- Blanks of a JSON text. -/
def isBlank (letter : Char) : Bool :=
  letter == ' ' || letter == '\t' || letter == '\n' || letter == '\r'

/-- What follows the blanks. -/
def skipBlanks (chars : List Char) : List Char :=
  chars.dropWhile isBlank

/-- The value of a hexadecimal digit. -/
def hexValue (letter : Char) : Option Nat :=
  if letter.isDigit then some (letter.toNat - '0'.toNat)
  else if 'a' ≤ letter ∧ letter ≤ 'f' then some (letter.toNat - 'a'.toNat + 10)
  else if 'A' ≤ letter ∧ letter ≤ 'F' then some (letter.toNat - 'A'.toNat + 10)
  else none

/-- A code unit in four hexadecimal digits. -/
def readUnit : List Char → Option (Nat × List Char)
  | a :: b :: c :: d :: rest => do
      let first ← hexValue a
      let second ← hexValue b
      let third ← hexValue c
      let fourth ← hexValue d
      pure (first * 4096 + second * 256 + third * 16 + fourth, rest)
  | _ => none

/-- A code unit behind its escape. -/
def readEscapedUnit : List Char → Option (Nat × List Char)
  | '\\' :: 'u' :: rest => readUnit rest
  | _ => none

/-- The character of a code unit, with the unit after it where it is the first of a
pair. A unit of a pair that stands alone is no character. -/
def readCode (unit : Nat) (rest : List Char) : Option (Char × List Char) :=
  if 0xd800 ≤ unit ∧ unit < 0xdc00 then
    (readEscapedUnit rest).bind fun low =>
      if 0xdc00 ≤ low.1 ∧ low.1 < 0xe000 then
        some (Char.ofNat (0x10000 + (unit - 0xd800) * 1024 + (low.1 - 0xdc00)), low.2)
      else none
  else if 0xdc00 ≤ unit ∧ unit < 0xe000 then none
  else some (Char.ofNat unit, rest)

/-- What an escape of one letter stands for. -/
def simpleEscape (letter : Char) : Option Char :=
  match letter with
  | '"' => some '"'
  | '\\' => some '\\'
  | '/' => some '/'
  | 'b' => some (Char.ofNat 8)
  | 'f' => some (Char.ofNat 12)
  | 'n' => some '\n'
  | 'r' => some '\r'
  | 't' => some '\t'
  | _ => none

/-- One character inside a string; control characters have to be escaped. -/
def readChar : List Char → Option (Char × List Char)
  | '\\' :: 'u' :: rest => do
      let (unit, after) ← readUnit rest
      readCode unit after
  | '\\' :: letter :: rest => (simpleEscape letter).map fun char => (char, rest)
  | letter :: rest => if letter.toNat < 32 || letter == '\\' then none else some (letter, rest)
  | [] => none

/-- The characters of a string up to its closing quote. -/
def readString : Nat → List Char → Option (List Char × List Char)
  | 0, _ => none
  | _ + 1, '"' :: rest => some ([], rest)
  | fuel + 1, chars => do
      let (char, after) ← readChar chars
      let (more, rest) ← readString fuel after
      pure (char :: more, rest)

/-- A string behind its opening quote, which takes at most as many steps as there are
characters. -/
def readQuoted (chars : List Char) : Option (String × List Char) :=
  match chars with
  | '"' :: rest => (readString rest.length rest).map fun read => (String.ofList read.1, read.2)
  | _ => none

/-- Characters of a number. -/
def isNumberChar (letter : Char) : Bool :=
  letter.isDigit || letter == '+' || letter == '-' || letter == '.' || letter == 'e' ||
    letter == 'E'

/-- The digits of a whole number: no zero stands in front. -/
def isWhole (digits : List Char) : Bool :=
  match digits with
  | [] => false
  | first :: rest => first.isDigit && rest.all Char.isDigit && (first != '0' || rest.isEmpty)

/-- The rest of a number without its sign. -/
def dropMinus : List Char → List Char
  | '-' :: rest => rest
  | chars => chars

/-- An exponent, or nothing. -/
def isExponent : List Char → Bool
  | [] => true
  | letter :: rest =>
      let digits := match rest with
        | '+' :: more => more
        | '-' :: more => more
        | more => more
      (letter == 'e' || letter == 'E') && !digits.isEmpty && digits.all Char.isDigit

/-- A fraction and an exponent, either of which may be missing. -/
def isFractionTail : List Char → Bool
  | '.' :: rest =>
      !(rest.takeWhile Char.isDigit).isEmpty && isExponent (rest.dropWhile Char.isDigit)
  | chars => isExponent chars

/-- A number with a fraction or an exponent. -/
def isFloatToken (token : List Char) : Bool :=
  let unsigned := dropMinus token
  let tail := unsigned.dropWhile Char.isDigit
  isWhole (unsigned.takeWhile Char.isDigit) && !tail.isEmpty && isFractionTail tail

/-- A whole number. -/
def readInt (token : List Char) : Option Int :=
  match token with
  | '-' :: digits => if isWhole digits then some (-Int.ofNat (Nat.ofDigitChars 10 digits 0)) else none
  | digits => if isWhole digits then some (Int.ofNat (Nat.ofDigitChars 10 digits 0)) else none

/-- A number, from the longest run of characters that numbers have. -/
def readNumber {F : Type} (format : FloatFormat F) (chars : List Char) :
    Option (Json F × List Char) :=
  let token := chars.takeWhile isNumberChar
  let rest := chars.dropWhile isNumberChar
  if isFloatToken token then (format.read token).map fun value => (.float value, rest)
  else (readInt token).map fun value => (.int value, rest)

section Loads

variable {F : Type} (format : FloatFormat F)

/-- What follows a colon, with the blanks around it. -/
def behindColon (chars : List Char) : Option (List Char) :=
  match skipBlanks chars with
  | ':' :: rest => some (skipBlanks rest)
  | _ => none

mutual

/-- A value at the head of a text. -/
def readValue : Nat → List Char → Option (Json F × List Char)
  | 0, _ => none
  | fuel + 1, chars =>
      match chars with
      | '"' :: rest => (readQuoted ('"' :: rest)).map fun read => (.str read.1, read.2)
      | '[' :: rest =>
          match skipBlanks rest with
          | ']' :: after => some (.list [], after)
          | items => do
              let (item, after) ← readValue fuel items
              let (more, rest) ← readItems fuel after
              pure (.list (item :: more), rest)
      | '\x7b' :: rest =>
          match skipBlanks rest with
          | '\x7d' :: after => some (.dict [], after)
          | entries => do
              let (key, behindKey) ← readQuoted entries
              let text ← behindColon behindKey
              let (value, after) ← readValue fuel text
              let (all, rest) ← readEntries fuel [(key, value)] after
              pure (.dict all, rest)
      | 'n' :: 'u' :: 'l' :: 'l' :: rest => some (.null, rest)
      | 't' :: 'r' :: 'u' :: 'e' :: rest => some (.bool true, rest)
      | 'f' :: 'a' :: 'l' :: 's' :: 'e' :: rest => some (.bool false, rest)
      | 'N' :: 'a' :: 'N' :: rest =>
          (format.read "NaN".toList).map fun value => (.float value, rest)
      | 'I' :: 'n' :: 'f' :: 'i' :: 'n' :: 'i' :: 't' :: 'y' :: rest =>
          (format.read "Infinity".toList).map fun value => (.float value, rest)
      | '-' :: 'I' :: 'n' :: 'f' :: 'i' :: 'n' :: 'i' :: 't' :: 'y' :: rest =>
          (format.read "-Infinity".toList).map fun value => (.float value, rest)
      | number => readNumber format number
termination_by structural fuel => fuel

/-- The items after the first of a list, up to its closing bracket. -/
def readItems : Nat → List Char → Option (List (Json F) × List Char)
  | 0, _ => none
  | fuel + 1, chars =>
      match skipBlanks chars with
      | ']' :: rest => some ([], rest)
      | ',' :: rest => do
          let (item, after) ← readValue fuel (skipBlanks rest)
          let (items, rest) ← readItems fuel after
          pure (item :: items, rest)
      | _ => none
termination_by structural fuel => fuel

/-- The entries after the first of an object, up to its closing brace; a key that comes
again overwrites. -/
def readEntries : Nat → List (String × Json F) → List Char →
    Option (List (String × Json F) × List Char)
  | 0, _, _ => none
  | fuel + 1, seen, chars =>
      match skipBlanks chars with
      | '\x7d' :: rest => some (seen, rest)
      | ',' :: rest => do
          let (key, behindKey) ← readQuoted (skipBlanks rest)
          let text ← behindColon behindKey
          let (value, after) ← readValue fuel text
          readEntries fuel (dictSet seen key value) after
      | _ => none
termination_by structural fuel => fuel

end

/-- The value a text spells. -/
def loads (text : List Char) : Option (Json F) := do
  let (value, rest) ← readValue format text.length (skipBlanks text)
  if (skipBlanks rest).isEmpty then pure value else none

end Loads

/-! ## What is written is read back -/

/-- A positive number is written without a zero in front. -/
theorem head_toDigits_ne_zero {value : Nat} (positive : 0 < value) :
    ∀ letter ∈ (Nat.toDigits 10 value).head?, letter ≠ '0' := by
  induction value using Nat.strong_induction_on with
  | _ value ih =>
      by_cases small : value < 10
      · rw [Nat.toDigits_of_lt_base small]
        intro letter member
        cases member
        interval_cases value
        all_goals decide
      · have large : 10 ≤ value := not_lt.mp small
        have before := ih (value / 10) (by omega) (by omega)
        rw [Nat.toDigits_of_base_le (by decide) large]
        cases digits : Nat.toDigits 10 (value / 10) with
        | nil => exact absurd digits Nat.toDigits_ne_nil
        | cons first rest =>
            rw [digits] at before
            exact before

theorem isWhole_toDigits (value : Nat) : isWhole (Nat.toDigits 10 value) = true := by
  have all : ∀ letter ∈ Nat.toDigits 10 value, letter.isDigit = true := fun letter member =>
    Nat.isDigit_of_mem_toDigits (by decide) (by decide) member
  cases digits : Nat.toDigits 10 value with
  | nil => exact absurd digits Nat.toDigits_ne_nil
  | cons first rest =>
      rw [digits] at all
      obtain ⟨firstDigit, restDigits⟩ := List.forall_mem_cons.mp all
      rw [isWhole, firstDigit, List.all_eq_true.mpr restDigits, Bool.true_and, Bool.true_and]
      rcases Nat.eq_zero_or_pos value with rfl | positive
      · rw [Nat.toDigits_zero] at digits
        cases digits
        rfl
      · have nonzero := head_toDigits_ne_zero positive first (by rw [digits]; rfl)
        rw [bne_iff_ne.mpr nonzero]
        rfl

/-- The text of a whole number: its digits, behind a minus where it is negative. -/
theorem toList_toString_int (value : Int) : (toString value).toList =
    if value < 0 then '-' :: Nat.toDigits 10 value.natAbs else Nat.toDigits 10 value.natAbs := by
  cases value with
  | ofNat n =>
      have positive : ¬ Int.ofNat n < 0 := not_lt.mpr (Int.natCast_nonneg n)
      rw [if_neg positive]
      exact Nat.toList_repr
  | negSucc n =>
      rw [if_pos (Int.negSucc_lt_zero n)]
      change ("-" ++ (n + 1).repr).toList = _
      rw [String.toList_append, Nat.toList_repr]
      rfl

theorem ne_minus_of_isDigit {letter : Char} (digit : letter.isDigit = true) : letter ≠ '-' := by
  rintro rfl
  cases digit

theorem head_toDigits_ne_minus (value : Nat) (rest : List Char) :
    Nat.toDigits 10 value ≠ '-' :: rest := by
  intro same
  have digit : ('-').isDigit = true := by
    refine Nat.isDigit_of_mem_toDigits (b := 10) (n := value) (by decide) (by decide) ?_
    rw [same]
    exact List.mem_cons_self ..
  cases digit

theorem readInt_of_ne_minus {token : List Char} (unsigned : ∀ rest, token ≠ '-' :: rest) :
    readInt token =
      if isWhole token then some (Int.ofNat (Nat.ofDigitChars 10 token 0)) else none := by
  unfold readInt
  split
  · rename_i digits
    exact absurd rfl (unsigned digits)
  · rfl

theorem readInt_toString (value : Int) : readInt (toString value).toList = some value := by
  rw [toList_toString_int]
  by_cases negative : value < 0
  · rw [if_pos negative, readInt, if_pos (isWhole_toDigits _), Nat.ofDigitChars_ten_toDigits]
    congr 1
    rw [Int.ofNat_eq_natCast, Int.ofNat_natAbs_of_nonpos (le_of_lt negative), neg_neg]
  · rw [if_neg negative, readInt_of_ne_minus (head_toDigits_ne_minus _),
      if_pos (isWhole_toDigits _), Nat.ofDigitChars_ten_toDigits]
    congr 1
    exact Int.natAbs_of_nonneg (not_lt.mp negative)

theorem isFloatToken_toString (value : Int) : isFloatToken (toString value).toList = false := by
  have unsigned : dropMinus (toString value).toList = Nat.toDigits 10 value.natAbs := by
    rw [toList_toString_int]
    by_cases negative : value < 0
    · rw [if_pos negative]
      rfl
    · rw [if_neg negative]
      unfold dropMinus
      split
      · rename_i rest same
        exact absurd same (head_toDigits_ne_minus _ rest)
      · rfl
  have tail : (Nat.toDigits 10 value.natAbs).dropWhile Char.isDigit = [] := by
    rw [List.dropWhile_eq_nil_iff]
    exact fun letter member => Nat.isDigit_of_mem_toDigits (by decide) (by decide) member
  rw [isFloatToken, unsigned, tail, List.isEmpty_nil, Bool.not_true, Bool.and_false, Bool.false_and]

theorem isNumberChar_of_isDigit {letter : Char} (digit : letter.isDigit = true) :
    isNumberChar letter = true := by
  simp only [isNumberChar, digit, Bool.true_or]

theorem isNumberChar_toString (value : Int) :
    ∀ letter ∈ (toString value).toList, isNumberChar letter = true := by
  have digits : ∀ letter ∈ Nat.toDigits 10 value.natAbs, isNumberChar letter = true :=
    fun letter member => isNumberChar_of_isDigit
      (Nat.isDigit_of_mem_toDigits (by decide) (by decide) member)
  rw [toList_toString_int]
  split
  · exact List.forall_mem_cons.mpr ⟨by decide, digits⟩
  · exact digits

/-- A text that does not go on with a number. -/
def StopsNumber (rest : List Char) : Prop :=
  ∀ letter ∈ rest.head?, isNumberChar letter = false

theorem takeWhile_append_of_stops {token rest : List Char}
    (inside : ∀ letter ∈ token, isNumberChar letter = true) (stops : StopsNumber rest) :
    (token ++ rest).takeWhile isNumberChar = token ∧
      (token ++ rest).dropWhile isNumberChar = rest := by
  rw [List.takeWhile_append_of_pos inside, List.dropWhile_append_of_pos inside]
  cases rest with
  | nil => simp
  | cons first more =>
      have outside := stops first rfl
      rw [List.takeWhile_cons, List.dropWhile_cons, outside]
      simp

section ReadBack

variable {F : Type} {format : FloatFormat F} {escape : Char → List Char}

/-- The spellings of the numbers that are no decimals. -/
def floatConstants : List (List Char) :=
  ["NaN".toList, "Infinity".toList, "-Infinity".toList]

/-- The spelling of a number with a fraction or an exponent. -/
def IsFloatText (text : List Char) : Prop :=
  (isFloatToken text = true ∧ ∀ letter ∈ text, isNumberChar letter = true) ∨ text ∈ floatConstants

/-- The text of a number with a fraction or an exponent is read back. -/
structure FloatReads (format : FloatFormat F) (value : F) : Prop where
  spelled : IsFloatText (format.text value)
  reads : format.read (format.text value) = some value

/-- What an escape writes for a character is read back, and is not a quote. -/
structure EscapeReads (escape : Char → List Char) : Prop where
  reads : ∀ char rest, readChar (escape char ++ rest) = some (char, rest)
  opens : ∀ char, ∃ first more, escape char = first :: more ∧ first ≠ '"'

theorem readNumber_int (value : Int) {rest : List Char} (stops : StopsNumber rest) :
    readNumber format ((toString value).toList ++ rest) = some (.int value, rest) := by
  obtain ⟨token, behind⟩ := takeWhile_append_of_stops (isNumberChar_toString value) stops
  simp only [readNumber, token, behind, isFloatToken_toString, Bool.false_eq_true, ↓reduceIte,
    readInt_toString, Option.map_some]

theorem readNumber_float {value : F} (token : isFloatToken (format.text value) = true)
    (letters : ∀ letter ∈ format.text value, isNumberChar letter = true)
    (reads : format.read (format.text value) = some value) {rest : List Char}
    (stops : StopsNumber rest) :
    readNumber format (format.text value ++ rest) = some (.float value, rest) := by
  obtain ⟨taken, behind⟩ := takeWhile_append_of_stops letters stops
  simp only [readNumber, taken, behind, token, ↓reduceIte, reads, Option.map_some]

theorem readString_flatMap (escapes : EscapeReads escape) (text rest : List Char) {fuel : Nat}
    (enough : text.length < fuel) :
    readString fuel (text.flatMap escape ++ '"' :: rest) = some (text, rest) := by
  induction text generalizing fuel with
  | nil =>
      obtain ⟨fuel, rfl⟩ := Nat.exists_eq_succ_of_ne_zero (Nat.ne_of_gt enough)
      rfl
  | cons char more ih =>
      obtain ⟨fuel, rfl⟩ := Nat.exists_eq_succ_of_ne_zero (Nat.ne_of_gt (Nat.zero_lt_of_lt enough))
      obtain ⟨first, others, opened, notQuote⟩ := escapes.opens char
      have read := escapes.reads char (more.flatMap escape ++ '"' :: rest)
      rw [List.flatMap_cons, List.append_assoc]
      rw [opened, List.cons_append] at read ⊢
      rw [readString, read]
      · have tail := @ih fuel (by rw [List.length_cons] at enough; omega)
        simp only [Option.bind_eq_bind, Option.bind_some, tail]
        rfl
      · exact fun _ same => notQuote (List.cons.inj same).1

theorem readQuoted_quotedChars (escapes : EscapeReads escape) (text : String) (rest : List Char) :
    readQuoted (quotedChars escape text ++ rest) = some (text, rest) := by
  have enough : text.toList.length < (text.toList.flatMap escape ++ '"' :: rest).length := by
    have longer : text.toList.length ≤ (text.toList.flatMap escape).length := by
      rw [List.length_flatMap]
      have positive := List.length_le_sum_of_one_le
        (text.toList.map fun char => (escape char).length) fun size member => by
          obtain ⟨char, _, rfl⟩ := List.mem_map.mp member
          obtain ⟨first, more, opened, _⟩ := escapes.opens char
          rw [opened, List.length_cons]
          omega
      rwa [List.length_map] at positive
    rw [List.length_append, List.length_cons]
    omega
  rw [quotedChars, List.cons_append, List.append_assoc, List.singleton_append, readQuoted,
    readString_flatMap escapes text.toList rest enough]
  rw [Option.map_some, String.ofList_toList]

theorem quotedChars_opens (text : String) :
    ∃ more, quotedChars escape text = '"' :: more :=
  ⟨_, rfl⟩

mutual

/-- Every number in a value is read back, and no key of an object comes twice. -/
def Readable (format : FloatFormat F) : Json F → Prop
  | .float value => FloatReads format value
  | .list items => ReadableItems format items
  | .dict entries => (dictKeys entries).Nodup ∧ ReadableEntries format entries
  | _ => True
termination_by structural value => value

/-- Every item of a list is readable. -/
def ReadableItems (format : FloatFormat F) : List (Json F) → Prop
  | [] => True
  | item :: rest => Readable format item ∧ ReadableItems format rest
termination_by structural items => items

/-- Every value of an object is readable. -/
def ReadableEntries (format : FloatFormat F) : List (String × Json F) → Prop
  | [] => True
  | (_, value) :: rest => Readable format value ∧ ReadableEntries format rest
termination_by structural entries => entries

end

mutual

/-- No key of an object comes twice. -/
def DistinctKeys : Json F → Prop
  | .list items => DistinctKeysItems items
  | .dict entries => (dictKeys entries).Nodup ∧ DistinctKeysEntries entries
  | _ => True
termination_by structural value => value

/-- No key comes twice in an item of a list. -/
def DistinctKeysItems : List (Json F) → Prop
  | [] => True
  | item :: rest => DistinctKeys item ∧ DistinctKeysItems rest
termination_by structural items => items

/-- No key comes twice in a value of an object. -/
def DistinctKeysEntries : List (String × Json F) → Prop
  | [] => True
  | (_, value) :: rest => DistinctKeys value ∧ DistinctKeysEntries rest
termination_by structural entries => entries

end

mutual

theorem readable_of_distinctKeys (floats : ∀ value, FloatReads format value) :
    ∀ value : Json F, DistinctKeys value → Readable format value
  | .null => fun _ => trivial
  | .bool _ => fun _ => trivial
  | .int _ => fun _ => trivial
  | .float value => fun _ => floats value
  | .str _ => fun _ => trivial
  | .list items => fun distinct => readableItems_of_distinctKeys floats items distinct
  | .dict entries => fun distinct =>
      ⟨distinct.1, readableEntries_of_distinctKeys floats entries distinct.2⟩
termination_by structural value => value

theorem readableItems_of_distinctKeys (floats : ∀ value, FloatReads format value) :
    ∀ items : List (Json F), DistinctKeysItems items → ReadableItems format items
  | [] => fun _ => trivial
  | item :: rest => fun distinct => ⟨readable_of_distinctKeys floats item distinct.1,
      readableItems_of_distinctKeys floats rest distinct.2⟩
termination_by structural items => items

theorem readableEntries_of_distinctKeys (floats : ∀ value, FloatReads format value) :
    ∀ entries : List (String × Json F), DistinctKeysEntries entries → ReadableEntries format entries
  | [] => fun _ => trivial
  | (_, value) :: rest => fun distinct => ⟨readable_of_distinctKeys floats value distinct.1,
      readableEntries_of_distinctKeys floats rest distinct.2⟩
termination_by structural entries => entries

end

theorem skipBlanks_cons {letter : Char} (solid : isBlank letter = false) (rest : List Char) :
    skipBlanks (letter :: rest) = letter :: rest := by
  rw [skipBlanks, List.dropWhile_cons, solid]
  rfl

theorem stopsNumber_dumpsItems (items : List (Json F)) (rest : List Char) :
    StopsNumber (dumpsItems format escape items ++ rest) := by
  cases items with
  | nil =>
      rintro letter ⟨rfl⟩
      rfl
  | cons item more =>
      rintro letter ⟨rfl⟩
      rfl

theorem stopsNumber_dumpsEntries (entries : List (String × Json F)) (rest : List Char) :
    StopsNumber (dumpsEntries format escape entries ++ rest) := by
  cases entries with
  | nil =>
      rintro letter ⟨rfl⟩
      rfl
  | cons entry more =>
      rintro letter ⟨rfl⟩
      rfl

/-- A text that starts as a number does. -/
def StartsNumber (chars : List Char) : Prop :=
  ∃ letter rest, letter.isDigit = true ∧ (chars = letter :: rest ∨ chars = '-' :: letter :: rest)

theorem startsNumber_append {chars : List Char} (starts : StartsNumber chars) (rest : List Char) :
    StartsNumber (chars ++ rest) := by
  obtain ⟨letter, more, digit, rfl | rfl⟩ := starts
  · exact ⟨letter, more ++ rest, digit, .inl rfl⟩
  · exact ⟨letter, more ++ rest, digit, .inr rfl⟩

theorem startsNumber_toString (value : Int) : StartsNumber (toString value).toList := by
  rw [toList_toString_int]
  cases digits : Nat.toDigits 10 value.natAbs with
  | nil => exact absurd digits Nat.toDigits_ne_nil
  | cons first rest =>
      have digit : first.isDigit = true := by
        refine Nat.isDigit_of_mem_toDigits (b := 10) (n := value.natAbs) (by decide) (by decide) ?_
        rw [digits]
        exact List.mem_cons_self ..
      refine ⟨first, rest, digit, ?_⟩
      split
      · exact .inr rfl
      · exact .inl rfl

theorem startsNumber_of_isFloatToken {token : List Char} (isToken : isFloatToken token = true) :
    StartsNumber token := by
  simp only [isFloatToken, Bool.and_eq_true] at isToken
  have whole := isToken.1.1
  have opened : ∃ first rest, dropMinus token = first :: rest ∧ first.isDigit = true := by
    cases unsigned : dropMinus token with
    | nil =>
        rw [unsigned] at whole
        cases whole
    | cons first rest =>
        refine ⟨first, rest, rfl, ?_⟩
        by_contra notDigit
        rw [unsigned, List.takeWhile_cons, if_neg notDigit] at whole
        cases whole
  obtain ⟨first, rest, unsigned, digit⟩ := opened
  refine ⟨first, rest, digit, ?_⟩
  unfold dropMinus at unsigned
  split at unsigned
  · exact .inr (congrArg _ unsigned)
  · exact .inl unsigned

theorem readValue_of_startsNumber {chars : List Char} (starts : StartsNumber chars) (fuel : Nat) :
    readValue format (fuel + 1) chars = readNumber format chars := by
  obtain ⟨letter, rest, digit, rfl | rfl⟩ := starts
  · unfold readValue
    split
    all_goals first
      | rfl
      | (rename_i same; cases (List.cons.inj same).1; cases digit)
  · unfold readValue
    split
    all_goals first
      | rfl
      | (rename_i same; exact absurd (List.cons.inj same).1 (by decide))
      | (rename_i same; cases (List.cons.inj (List.cons.inj same).2).1; cases digit)

/-- The first letter of a value's text: no blank and no closing bracket. -/
theorem dumps_opens (escape : Char → List Char) {value : Json F} (readable : Readable format value) :
    ∃ first more, dumps format escape value = first :: more ∧ isBlank first = false ∧
      first ≠ ']' := by
  have ofDigit : ∀ letter : Char, letter.isDigit = true →
      isBlank letter = false ∧ letter ≠ ']' := by
    intro letter digit
    constructor
    · by_contra blank
      rw [Bool.not_eq_false, isBlank] at blank
      simp only [Bool.or_eq_true, beq_iff_eq] at blank
      rcases blank with ((rfl | rfl) | rfl) | rfl
      all_goals cases digit
    · rintro rfl
      cases digit
  have ofNumber : ∀ chars, StartsNumber chars →
      ∃ first more, chars = first :: more ∧ isBlank first = false ∧ first ≠ ']' := by
    rintro chars ⟨letter, rest, digit, rfl | rfl⟩
    · exact ⟨letter, rest, rfl, ofDigit letter digit⟩
    · exact ⟨'-', letter :: rest, rfl, by decide, by decide⟩
  match value with
  | .null => exact ⟨'n', _, rfl, by decide, by decide⟩
  | .bool true => exact ⟨'t', _, rfl, by decide, by decide⟩
  | .bool false => exact ⟨'f', _, rfl, by decide, by decide⟩
  | .int value => exact ofNumber _ (startsNumber_toString value)
  | .float value =>
      rcases readable.spelled with ⟨token, _⟩ | constant
      · exact ofNumber _ (startsNumber_of_isFloatToken token)
      · simp only [floatConstants, List.mem_cons, List.not_mem_nil, or_false] at constant
        rcases constant with nan | infinity | minus
        · exact ⟨'N', _, nan, by decide, by decide⟩
        · exact ⟨'I', _, infinity, by decide, by decide⟩
        · exact ⟨'-', _, minus, by decide, by decide⟩
  | .str text => exact ⟨'"', _, rfl, by decide, by decide⟩
  | .list [] => exact ⟨'[', _, rfl, by decide, by decide⟩
  | .list (item :: rest) => exact ⟨'[', _, rfl, by decide, by decide⟩
  | .dict [] => exact ⟨'\x7b', _, rfl, by decide, by decide⟩
  | .dict ((key, value) :: rest) => exact ⟨'\x7b', _, rfl, by decide, by decide⟩

theorem skipBlanks_dumps (escape : Char → List Char) {value : Json F}
    (readable : Readable format value) (rest : List Char) :
    skipBlanks (dumps format escape value ++ rest) = dumps format escape value ++ rest := by
  obtain ⟨first, more, opened, solid, _⟩ := dumps_opens escape readable
  rw [opened, List.cons_append, skipBlanks_cons solid]

theorem behindColon_dumps (escape : Char → List Char) {value : Json F}
    (readable : Readable format value) (rest : List Char) :
    behindColon (':' :: (dumps format escape value ++ rest)) =
      some (dumps format escape value ++ rest) := by
  rw [behindColon, skipBlanks_cons (by decide)]
  change some (skipBlanks _) = _
  rw [skipBlanks_dumps escape readable]

theorem readItems_comma (fuel : Nat) (rest : List Char) :
    readItems format (fuel + 1) (',' :: rest) =
      (readValue format fuel (skipBlanks rest)).bind fun first =>
        (readItems format fuel first.2).bind fun more => some (first.1 :: more.1, more.2) :=
  rfl

theorem readEntries_comma (fuel : Nat) (seen : List (String × Json F)) (rest : List Char) :
    readEntries format (fuel + 1) seen (',' :: '"' :: rest) =
      (readQuoted ('"' :: rest)).bind fun key => (behindColon key.2).bind fun text =>
        (readValue format fuel text).bind fun value =>
          readEntries format fuel (dictSet seen key.1 value.1) value.2 :=
  rfl

theorem readValue_brace (fuel : Nat) (rest : List Char) :
    readValue format (fuel + 1) ('\x7b' :: '"' :: rest) =
      (readQuoted ('"' :: rest)).bind fun key => (behindColon key.2).bind fun text =>
        (readValue format fuel text).bind fun value =>
          (readEntries format fuel [(key.1, value.1)] value.2).bind fun all =>
            some (.dict all.1, all.2) :=
  rfl

/-- Fuel for the text of a value is not spent at its first letter. -/
theorem fuel_of_dumps {value : Json F} (readable : Readable format value) {fuel : Nat}
    (enough : (dumps format escape value).length ≤ fuel) : ∃ less, fuel = less + 1 := by
  obtain ⟨first, more, opened, _⟩ := dumps_opens escape readable
  rw [opened, List.length_cons] at enough
  exact ⟨fuel - 1, by omega⟩

theorem readValue_float {value : F} (floatReads : FloatReads format value) (fuel : Nat)
    {rest : List Char} (stops : StopsNumber rest) :
    readValue format (fuel + 1) (format.text value ++ rest) = some (.float value, rest) := by
  have reads := floatReads.reads
  rcases floatReads.spelled with ⟨token, letters⟩ | constant
  · have starts := startsNumber_append (startsNumber_of_isFloatToken token) rest
    rw [readValue_of_startsNumber starts, readNumber_float token letters reads stops]
  · simp only [floatConstants, List.mem_cons, List.not_mem_nil, or_false] at constant
    rcases constant with same | same | same
    all_goals
      rw [same] at reads ⊢
      change (format.read _).map _ = _
      rw [reads]
      rfl

mutual

theorem readValue_dumps (escapes : EscapeReads escape) : ∀ value : Json F, Readable format value →
    ∀ fuel rest, (dumps format escape value).length ≤ fuel → StopsNumber rest →
      readValue format fuel (dumps format escape value ++ rest) = some (value, rest)
  | .null => fun readable fuel rest enough _ => by
      obtain ⟨fuel, rfl⟩ := fuel_of_dumps readable enough
      rfl
  | .bool true => fun readable fuel rest enough _ => by
      obtain ⟨fuel, rfl⟩ := fuel_of_dumps readable enough
      rfl
  | .bool false => fun readable fuel rest enough _ => by
      obtain ⟨fuel, rfl⟩ := fuel_of_dumps readable enough
      rfl
  | .int value => fun readable fuel rest enough stops => by
      obtain ⟨fuel, rfl⟩ := fuel_of_dumps readable enough
      have starts := startsNumber_append (startsNumber_toString value) rest
      rw [dumps, readValue_of_startsNumber starts, readNumber_int value stops]
  | .float value => fun readable fuel rest enough stops => by
      obtain ⟨fuel, rfl⟩ := fuel_of_dumps readable enough
      exact readValue_float readable fuel stops
  | .str text => fun readable fuel rest enough _ => by
      obtain ⟨fuel, rfl⟩ := fuel_of_dumps readable enough
      have read := readQuoted_quotedChars escapes text rest
      rw [dumps]
      rw [quotedChars, List.cons_append] at read ⊢
      rw [readValue, read]
      rfl
  | .list [] => fun readable fuel rest enough _ => by
      obtain ⟨fuel, rfl⟩ := fuel_of_dumps readable enough
      rfl
  | .list (item :: items) => fun readable fuel rest enough _ => by
      obtain ⟨fuel, rfl⟩ := fuel_of_dumps readable enough
      obtain ⟨itemReadable, itemsReadable⟩ := readable
      rw [dumps, List.length_cons, List.length_append] at enough
      have itemRead := readValue_dumps escapes item itemReadable fuel
        (dumpsItems format escape items ++ rest) (by omega) (stopsNumber_dumpsItems items rest)
      have itemsRead := readItems_dumpsItems escapes items itemsReadable fuel rest (by omega)
      obtain ⟨first, more, opened, solid, open_⟩ := dumps_opens escape itemReadable
      rw [dumps, List.cons_append, List.append_assoc, readValue]
      rw [opened, List.cons_append] at itemRead ⊢
      rw [skipBlanks_cons solid]
      split
      · rename_i same
        exact absurd (List.cons.inj same).1 open_
      · simp only [itemRead, Option.bind_eq_bind, Option.bind_some, itemsRead]
        rfl
  | .dict [] => fun readable fuel rest enough _ => by
      obtain ⟨fuel, rfl⟩ := fuel_of_dumps readable enough
      rfl
  | .dict ((key, value) :: entries) => fun readable fuel rest enough _ => by
      obtain ⟨fuel, rfl⟩ := fuel_of_dumps readable enough
      obtain ⟨distinct, valueReadable, entriesReadable⟩ := readable
      rw [dumps, List.length_cons, List.length_append, List.length_cons, List.length_append]
        at enough
      have keyRead := readQuoted_quotedChars escapes key
        (':' :: (dumps format escape value ++ (dumpsEntries format escape entries ++ rest)))
      have colon := behindColon_dumps escape valueReadable
        (dumpsEntries format escape entries ++ rest)
      have valueRead := readValue_dumps escapes value valueReadable fuel
        (dumpsEntries format escape entries ++ rest) (by omega)
        (stopsNumber_dumpsEntries entries rest)
      have entriesRead := readEntries_dumpsEntries escapes entries entriesReadable [(key, value)]
        distinct fuel rest (by omega)
      rw [dumps, List.cons_append, List.append_assoc, List.cons_append, List.append_assoc]
      rw [quotedChars, List.cons_append] at keyRead ⊢
      rw [readValue_brace, keyRead]
      simp only [Option.bind_some, colon, valueRead, entriesRead]
      rfl
termination_by structural value => value

theorem readItems_dumpsItems (escapes : EscapeReads escape) : ∀ items : List (Json F),
    ReadableItems format items →
    ∀ fuel rest, (dumpsItems format escape items).length ≤ fuel →
      readItems format fuel (dumpsItems format escape items ++ rest) = some (items, rest)
  | [] => fun _ fuel rest enough => by
      obtain ⟨fuel, rfl⟩ := Nat.exists_eq_succ_of_ne_zero (Nat.ne_of_gt enough)
      rfl
  | item :: items => fun readable fuel rest enough => by
      obtain ⟨fuel, rfl⟩ := Nat.exists_eq_succ_of_ne_zero (Nat.ne_of_gt
        (Nat.lt_of_lt_of_le (Nat.zero_lt_succ _) enough))
      obtain ⟨itemReadable, itemsReadable⟩ := readable
      rw [dumpsItems, List.length_cons, List.length_append] at enough
      have itemRead := readValue_dumps escapes item itemReadable fuel
        (dumpsItems format escape items ++ rest) (by omega) (stopsNumber_dumpsItems items rest)
      have itemsRead := readItems_dumpsItems escapes items itemsReadable fuel rest (by omega)
      rw [dumpsItems, List.cons_append, List.append_assoc, readItems_comma,
        skipBlanks_dumps escape itemReadable, itemRead]
      simp only [Option.bind_some, itemsRead]
termination_by structural items => items

theorem readEntries_dumpsEntries (escapes : EscapeReads escape) :
    ∀ entries : List (String × Json F), ReadableEntries format entries →
    ∀ seen, (dictKeys (seen ++ entries)).Nodup →
    ∀ fuel rest, (dumpsEntries format escape entries).length ≤ fuel →
      readEntries format fuel seen (dumpsEntries format escape entries ++ rest) =
        some (seen ++ entries, rest)
  | [] => fun _ seen _ fuel rest enough => by
      obtain ⟨fuel, rfl⟩ := Nat.exists_eq_succ_of_ne_zero (Nat.ne_of_gt enough)
      rw [List.append_nil]
      rfl
  | (key, value) :: entries => fun readable seen distinct fuel rest enough => by
      obtain ⟨fuel, rfl⟩ := Nat.exists_eq_succ_of_ne_zero (Nat.ne_of_gt
        (Nat.lt_of_lt_of_le (Nat.zero_lt_succ _) enough))
      obtain ⟨valueReadable, entriesReadable⟩ := readable
      rw [dumpsEntries, List.length_cons, List.length_append, List.length_cons,
        List.length_append] at enough
      have keyRead := readQuoted_quotedChars escapes key
        (':' :: (dumps format escape value ++ (dumpsEntries format escape entries ++ rest)))
      have colon := behindColon_dumps escape valueReadable
        (dumpsEntries format escape entries ++ rest)
      have valueRead := readValue_dumps escapes value valueReadable fuel
        (dumpsEntries format escape entries ++ rest) (by omega)
        (stopsNumber_dumpsEntries entries rest)
      have fresh : key ∉ dictKeys seen := by
        intro member
        rw [dictKeys, List.map_append, List.nodup_append] at distinct
        exact distinct.2.2 key member key (List.mem_cons_self ..) rfl
      have entriesRead := readEntries_dumpsEntries escapes entries entriesReadable
        (seen ++ [(key, value)]) (by rwa [List.append_assoc]) fuel rest (by omega)
      rw [dumpsEntries, List.cons_append, List.append_assoc, List.cons_append, List.append_assoc]
      rw [quotedChars, List.cons_append] at keyRead ⊢
      rw [readEntries_comma, keyRead]
      simp only [Option.bind_some, colon, valueRead]
      rw [dictSet_of_not_mem value fresh, entriesRead, List.append_assoc]
      rfl
termination_by structural entries => entries

end

/-- A text without blanks is read back as what was written. -/
theorem loads_dumps (escapes : EscapeReads escape) {value : Json F}
    (readable : Readable format value) : loads format (dumps format escape value) = some value := by
  have read := readValue_dumps escapes value readable _ [] le_rfl (by rintro letter ⟨⟩)
  have solid := skipBlanks_dumps escape readable []
  rw [List.append_nil] at read solid
  rw [loads, solid]
  simp only [read, Option.bind_eq_bind, Option.bind_some]
  rfl

end ReadBack

/-! ## One line -/

section OneLine

variable {F : Type} {format : FloatFormat F} {escape : Char → List Char}

theorem not_mem_of_visible {text : List Char} {letter : Char} (control : letter.toNat < 32)
    (visible : (text.all fun char => decide (32 ≤ char.toNat)) = true) : letter ∉ text := by
  intro member
  have large := of_decide_eq_true (List.all_eq_true.mp visible letter member)
  omega

/-- A control character is in no spelling of a number. -/
theorem not_mem_of_isNumberChar {text : List Char} {letter : Char} (control : letter.toNat < 32)
    (inside : ∀ char ∈ text, isNumberChar char = true) : letter ∉ text := by
  intro member
  have numeric := inside letter member
  simp only [isNumberChar, Bool.or_eq_true, beq_iff_eq] at numeric
  rcases numeric with ((((digit | rfl) | rfl) | rfl) | rfl) | rfl
  · rw [Char.isDigit, Bool.and_eq_true, decide_eq_true_eq, decide_eq_true_eq] at digit
    have low : 48 ≤ letter.toNat := digit.1
    omega
  all_goals exact absurd control (by decide)

/-- A control character is in no spelling of a number with a fraction. -/
theorem not_mem_of_isFloatText {text : List Char} {letter : Char} (control : letter.toNat < 32)
    (spelled : IsFloatText text) : letter ∉ text := by
  rcases spelled with ⟨_, inside⟩ | constant
  · exact not_mem_of_isNumberChar control inside
  · simp only [floatConstants, List.mem_cons, List.not_mem_nil, or_false] at constant
    rcases constant with rfl | rfl | rfl
    all_goals exact not_mem_of_visible control rfl

theorem not_mem_quotedChars {letter : Char} (control : letter.toNat < 32)
    (escaped : ∀ char, letter ∉ escape char) (text : String) :
    letter ∉ quotedChars escape text := by
  have notQuote : letter ≠ '"' := by
    rintro rfl
    exact absurd control (by decide)
  simp only [quotedChars, List.mem_cons, List.mem_append, List.mem_flatMap, List.not_mem_nil,
    or_false, not_or, not_exists, not_and]
  exact ⟨notQuote, fun char _ => escaped char, notQuote⟩

theorem control_not_mem_toString {letter : Char} (control : letter.toNat < 32) (value : Int) :
    letter ∉ (toString value).toList :=
  not_mem_of_isNumberChar control (isNumberChar_toString value)

theorem control_ne {letter other : Char} (control : letter.toNat < 32) (visible : 32 ≤ other.toNat) :
    letter ≠ other := by
  rintro rfl
  omega

mutual

/-- A control character that the escapes leave out is in no text of a value. -/
theorem not_mem_dumps {letter : Char} (control : letter.toNat < 32)
    (escaped : ∀ char, letter ∉ escape char) (floats : ∀ value, letter ∉ format.text value) :
    ∀ value : Json F, letter ∉ dumps format escape value
  | .null => @not_mem_of_visible "null".toList _ control rfl
  | .bool true => @not_mem_of_visible "true".toList _ control rfl
  | .bool false => @not_mem_of_visible "false".toList _ control rfl
  | .int value => control_not_mem_toString control value
  | .float value => floats value
  | .str text => not_mem_quotedChars control escaped text
  | .list [] => @not_mem_of_visible ['[', ']'] _ control rfl
  | .list (item :: rest) => by
      simp only [dumps, List.mem_cons, List.mem_append, not_or]
      exact ⟨control_ne control (by decide), not_mem_dumps control escaped floats item,
        not_mem_dumpsItems control escaped floats rest⟩
  | .dict [] => @not_mem_of_visible ['\x7b', '\x7d'] _ control rfl
  | .dict ((key, value) :: rest) => by
      simp only [dumps, List.mem_cons, List.mem_append, not_or]
      exact ⟨control_ne control (by decide), not_mem_quotedChars control escaped key,
        control_ne control (by decide), not_mem_dumps control escaped floats value,
        not_mem_dumpsEntries control escaped floats rest⟩
termination_by structural value => value

theorem not_mem_dumpsItems {letter : Char} (control : letter.toNat < 32)
    (escaped : ∀ char, letter ∉ escape char) (floats : ∀ value, letter ∉ format.text value) :
    ∀ items : List (Json F), letter ∉ dumpsItems format escape items
  | [] => @not_mem_of_visible [']'] _ control rfl
  | item :: rest => by
      simp only [dumpsItems, List.mem_cons, List.mem_append, not_or]
      exact ⟨control_ne control (by decide), not_mem_dumps control escaped floats item,
        not_mem_dumpsItems control escaped floats rest⟩
termination_by structural items => items

theorem not_mem_dumpsEntries {letter : Char} (control : letter.toNat < 32)
    (escaped : ∀ char, letter ∉ escape char) (floats : ∀ value, letter ∉ format.text value) :
    ∀ entries : List (String × Json F), letter ∉ dumpsEntries format escape entries
  | [] => @not_mem_of_visible ['\x7d'] _ control rfl
  | (key, value) :: rest => by
      simp only [dumpsEntries, List.mem_cons, List.mem_append, not_or]
      exact ⟨control_ne control (by decide), not_mem_quotedChars control escaped key,
        control_ne control (by decide), not_mem_dumps control escaped floats value,
        not_mem_dumpsEntries control escaped floats rest⟩
termination_by structural entries => entries

end

/-- The entries after the first end with the closing brace. -/
theorem dumpsEntries_closes (entries : List (String × Json F)) :
    ∃ front, dumpsEntries format escape entries = front ++ ['\x7d'] := by
  induction entries with
  | nil => exact ⟨[], rfl⟩
  | cons entry rest ih =>
      obtain ⟨key, value⟩ := entry
      obtain ⟨front, closed⟩ := ih
      refine ⟨',' :: (quotedChars escape key ++ ':' :: (dumps format escape value ++ front)), ?_⟩
      rw [dumpsEntries, closed]
      simp only [List.cons_append, List.append_assoc]

/-- The text of an object stands between braces. -/
theorem dumps_dict_braced (entries : List (String × Json F)) :
    ∃ middle, dumps format escape (.dict entries) = '\x7b' :: (middle ++ ['\x7d']) := by
  cases entries with
  | nil => exact ⟨[], rfl⟩
  | cons entry rest =>
      obtain ⟨key, value⟩ := entry
      have closes : ∃ front, dumpsEntries format escape rest = front ++ ['\x7d'] :=
        dumpsEntries_closes rest
      obtain ⟨front, closed⟩ := closes
      refine ⟨quotedChars escape key ++ ':' :: (dumps format escape value ++ front), ?_⟩
      rw [dumps, closed]
      simp only [List.cons_append, List.append_assoc]

/-- Two texts one behind the other are no text. -/
theorem loads_dumps_append (escapes : EscapeReads escape) {value other : Json F}
    (readable : Readable format value) (otherReadable : Readable format other)
    (braced : ∃ more, dumps format escape other = '\x7b' :: more) :
    loads format (dumps format escape value ++ dumps format escape other) = none := by
  obtain ⟨more, opened⟩ := braced
  have stops : StopsNumber (dumps format escape other) := by
    rw [opened]
    rintro letter ⟨rfl⟩
    rfl
  have read := readValue_dumps escapes value readable
    (dumps format escape value ++ dumps format escape other).length (dumps format escape other)
    (by rw [List.length_append]; omega) stops
  have solid := skipBlanks_dumps escape otherReadable []
  rw [List.append_nil] at solid
  rw [loads, skipBlanks_dumps escape readable]
  rw [read]
  simp only [Option.bind_eq_bind, Option.bind_some, solid]
  rw [opened]
  rfl

end OneLine

/-! ## Keys that come twice -/

mutual

/-- No key comes twice in an object of a value, as a test. -/
def decideDistinctKeys {F : Type} : (value : Json F) → Decidable (DistinctKeys value)
  | .null => isTrue trivial
  | .bool _ => isTrue trivial
  | .int _ => isTrue trivial
  | .float _ => isTrue trivial
  | .str _ => isTrue trivial
  | .list items => decideDistinctKeysItems items
  | .dict entries =>
      @instDecidableAnd _ _ inferInstance (decideDistinctKeysEntries entries)
termination_by structural value => value

/-- No key comes twice in an item of a list, as a test. -/
def decideDistinctKeysItems {F : Type} :
    (items : List (Json F)) → Decidable (DistinctKeysItems items)
  | [] => isTrue trivial
  | item :: rest =>
      @instDecidableAnd _ _ (decideDistinctKeys item) (decideDistinctKeysItems rest)
termination_by structural items => items

/-- No key comes twice in a value of an object, as a test. -/
def decideDistinctKeysEntries {F : Type} :
    (entries : List (String × Json F)) → Decidable (DistinctKeysEntries entries)
  | [] => isTrue trivial
  | (_, value) :: rest =>
      @instDecidableAnd _ _ (decideDistinctKeys value) (decideDistinctKeysEntries rest)
termination_by structural entries => entries

end

instance {F : Type} (value : Json F) : Decidable (DistinctKeys value) :=
  decideDistinctKeys value

/-! ## Sorted keys -/

section Sorted

variable {F : Type} {format : FloatFormat F} {escape : Char → List Char}

/-- Entries in the order of their keys. -/
def sortByKey {α : Type} (entries : List (String × α)) : List (String × α) :=
  entries.insertionSort fun first second => first.1.toList ≤ second.1.toList

theorem sortByKey_perm {α : Type} (entries : List (String × α)) :
    (sortByKey entries).Perm entries :=
  List.perm_insertionSort _ entries

theorem sortByKey_map {α β : Type} (image : α → β) (entries : List (String × α)) :
    sortByKey (entries.map fun entry => (entry.1, image entry.2)) =
      (sortByKey entries).map fun entry => (entry.1, image entry.2) :=
  (List.map_insertionSort (fun first second : String × α => first.1.toList ≤ second.1.toList)
    (fun first second : String × β => first.1.toList ≤ second.1.toList)
    (fun entry => (entry.1, image entry.2)) entries fun _ _ _ _ => Iff.rfl).symm

mutual

/-- The value with the entries of every object in the order of their keys. -/
def sortKeys : Json F → Json F
  | .list items => .list (sortKeysItems items)
  | .dict entries => .dict (sortByKey (sortKeysEntries entries))
  | .null => .null
  | .bool value => .bool value
  | .int value => .int value
  | .float value => .float value
  | .str text => .str text
termination_by structural value => value

/-- The items of a list with their keys sorted. -/
def sortKeysItems : List (Json F) → List (Json F)
  | [] => []
  | item :: rest => sortKeys item :: sortKeysItems rest
termination_by structural items => items

/-- The values of an object with their keys sorted. -/
def sortKeysEntries : List (String × Json F) → List (String × Json F)
  | [] => []
  | (key, value) :: rest => (key, sortKeys value) :: sortKeysEntries rest
termination_by structural entries => entries

end

theorem sortKeysItems_eq_map (items : List (Json F)) :
    sortKeysItems items = items.map sortKeys := by
  induction items with
  | nil => rfl
  | cons item rest ih => rw [sortKeysItems, ih, List.map_cons]

theorem sortKeysEntries_eq_map (entries : List (String × Json F)) :
    sortKeysEntries entries = entries.map fun entry => (entry.1, sortKeys entry.2) := by
  induction entries with
  | nil => rfl
  | cons entry rest ih => rw [sortKeysEntries, ih, List.map_cons]

theorem dictKeys_sortKeysEntries (entries : List (String × Json F)) :
    dictKeys (sortKeysEntries entries) = dictKeys entries := by
  induction entries with
  | nil => rfl
  | cons entry rest ih => exact congrArg (entry.1 :: ·) ih

theorem dictGet_sortKeysEntries (entries : List (String × Json F)) (key : String) :
    dictGet (sortKeysEntries entries) key = (dictGet entries key).map sortKeys := by
  induction entries with
  | nil => rfl
  | cons entry rest ih =>
      obtain ⟨name, value⟩ := entry
      rw [sortKeysEntries, dictGet, dictGet, ih]
      by_cases hit : name = key
      · rw [if_pos hit, if_pos hit, Option.map_some]
      · rw [if_neg hit, if_neg hit]

theorem readableItems_iff {items : List (Json F)} :
    ReadableItems format items ↔ ∀ item ∈ items, Readable format item := by
  induction items with
  | nil => exact iff_of_true trivial (List.forall_mem_nil _)
  | cons item rest ih => rw [ReadableItems, ih, List.forall_mem_cons]

theorem readableEntries_iff {entries : List (String × Json F)} :
    ReadableEntries format entries ↔ ∀ entry ∈ entries, Readable format entry.2 := by
  induction entries with
  | nil => exact iff_of_true trivial (List.forall_mem_nil _)
  | cons entry rest ih => rw [ReadableEntries, ih, List.forall_mem_cons]

theorem readableEntries_perm {first second : List (String × Json F)} (same : first.Perm second) :
    ReadableEntries format first ↔ ReadableEntries format second := by
  rw [readableEntries_iff, readableEntries_iff]
  exact forall_congr' fun entry => imp_congr_left same.mem_iff

mutual

theorem readable_sortKeys : ∀ value : Json F, Readable format value →
    Readable format (sortKeys value)
  | .null => fun readable => readable
  | .bool _ => fun readable => readable
  | .int _ => fun readable => readable
  | .float _ => fun readable => readable
  | .str _ => fun readable => readable
  | .list items => fun readable => readable_sortKeysItems items readable
  | .dict entries => fun readable => by
      obtain ⟨distinct, values⟩ := readable
      have sorted := sortByKey_perm (sortKeysEntries entries)
      refine ⟨?_, (readableEntries_perm sorted).mpr (readable_sortKeysEntries entries values)⟩
      rw [dictKeys, (sorted.map Prod.fst).nodup_iff]
      rwa [← dictKeys_sortKeysEntries] at distinct
termination_by structural value => value

theorem readable_sortKeysItems : ∀ items : List (Json F), ReadableItems format items →
    ReadableItems format (sortKeysItems items)
  | [] => fun readable => readable
  | item :: rest => fun readable =>
      ⟨readable_sortKeys item readable.1, readable_sortKeysItems rest readable.2⟩
termination_by structural items => items

theorem readable_sortKeysEntries : ∀ entries : List (String × Json F),
    ReadableEntries format entries → ReadableEntries format (sortKeysEntries entries)
  | [] => fun readable => readable
  | (_, value) :: rest => fun readable =>
      ⟨readable_sortKeys value readable.1, readable_sortKeysEntries rest readable.2⟩
termination_by structural entries => entries

end

/-- Values with one text are the same up to the order of their keys. -/
theorem sortKeys_eq_of_dumps_eq (escapes : EscapeReads escape) {first second : Json F}
    (firstReadable : Readable format first) (secondReadable : Readable format second)
    (same : dumps format escape (sortKeys first) = dumps format escape (sortKeys second)) :
    sortKeys first = sortKeys second := by
  have firstRead := loads_dumps escapes (readable_sortKeys first firstReadable)
  have secondRead := loads_dumps escapes (readable_sortKeys second secondReadable)
  rw [same, secondRead] at firstRead
  exact (Option.some.inj firstRead).symm

theorem dictGet_perm {α : Type} {first second : List (String × α)} (same : first.Perm second)
    (distinct : (dictKeys first).Nodup) (key : String) : dictGet first key = dictGet second key := by
  have distinctSecond : (dictKeys second).Nodup := ((same.map Prod.fst).nodup_iff).mp distinct
  cases found : dictGet second key with
  | some value =>
      exact dictGet_of_mem_nodup distinct (same.mem_iff.mpr (dictGet_eq_some_mem found))
  | none =>
      rw [dictGet_eq_none_iff] at found ⊢
      intro member
      obtain ⟨entry, inside, rfl⟩ := List.mem_map.mp member
      exact found (List.mem_map_of_mem (same.mem_iff.mp inside))

/-- What an object holds under a key. -/
def field? (value : Json F) (key : String) : Option (Json F) :=
  match value with
  | .dict entries => dictGet entries key
  | _ => none

theorem field?_sortKeys_dict {entries : List (String × Json F)}
    (distinct : (dictKeys entries).Nodup) (key : String) :
    field? (sortKeys (.dict entries)) key = (dictGet entries key).map sortKeys := by
  rw [sortKeys, field?, ← dictGet_sortKeysEntries]
  apply dictGet_perm (sortByKey_perm _)
  rw [dictKeys, ((sortByKey_perm _).map Prod.fst).nodup_iff]
  rwa [← dictKeys_sortKeysEntries] at distinct

/-- Lists with one sequence of keys that are permutations of each other are equal. -/
theorem eq_of_perm_of_dictKeys {α : Type} {first second : List (String × α)}
    (same : first.Perm second) (keys : dictKeys first = dictKeys second)
    (distinct : (dictKeys first).Nodup) : first = second := by
  induction first generalizing second with
  | nil => exact same.nil_eq
  | cons entry rest ih =>
      cases second with
      | nil => cases keys
      | cons other more =>
          obtain ⟨sameKey, keysRest⟩ := List.cons.inj keys
          have found : other = entry := by
            have member : entry ∈ other :: more := same.mem_iff.mp (List.mem_cons_self ..)
            rcases List.mem_cons.mp member with equal | inside
            · exact equal.symm
            · have later : entry.1 ∈ dictKeys rest := by
                have held : entry.1 ∈ List.map Prod.fst more := List.mem_map_of_mem inside
                rwa [← keysRest] at held
              exact absurd later (List.nodup_cons.mp distinct).1
          subst found
          rw [ih ((List.perm_cons other).mp same) keysRest (List.nodup_cons.mp distinct).2]

theorem sortKeysEntries_perm {first second : List (String × Json F)}
    (same : sortKeys (.dict first) = sortKeys (.dict second)) :
    (sortKeysEntries first).Perm (sortKeysEntries second) := by
  rw [sortKeys, sortKeys] at same
  exact (sortByKey_perm _).symm.trans ((Json.dict.inj same) ▸ sortByKey_perm _)

/-- Objects with the same keys in one order that agree up to the order of keys have the same
values up to the order of keys. -/
theorem values_eq_of_sortKeys {names : List String} (distinct : names.Nodup)
    {first second : List (String × Json F)} (firstNames : dictKeys first = names)
    (secondNames : dictKeys second = names)
    (same : sortKeys (.dict first) = sortKeys (.dict second)) :
    first.map (fun entry => sortKeys entry.2) = second.map fun entry => sortKeys entry.2 := by
  have entries : sortKeysEntries first = sortKeysEntries second := by
    apply eq_of_perm_of_dictKeys (sortKeysEntries_perm same)
    · rw [dictKeys_sortKeysEntries, dictKeys_sortKeysEntries, firstNames, secondNames]
    · rwa [dictKeys_sortKeysEntries, firstNames]
  rw [sortKeysEntries_eq_map, sortKeysEntries_eq_map] at entries
  have values := congrArg (List.map Prod.snd) entries
  rwa [List.map_map, List.map_map] at values

/-- Objects that agree up to the order of keys have the same keys. -/
theorem contains_eq_of_sortKeys {first second : List (String × Json F)}
    (same : sortKeys (.dict first) = sortKeys (.dict second)) (key : String) :
    (dictKeys first).contains key = (dictKeys second).contains key := by
  have keys := (sortKeysEntries_perm same).map Prod.fst
  change (dictKeys _).Perm (dictKeys _) at keys
  rw [dictKeys_sortKeysEntries, dictKeys_sortKeysEntries] at keys
  rw [Bool.eq_iff_iff, List.contains_iff_mem, List.contains_iff_mem]
  exact keys.mem_iff

end Sorted

end Foundation
