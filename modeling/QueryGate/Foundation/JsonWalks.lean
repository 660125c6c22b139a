import QueryGate.Foundation.Json

/-! # Walks over a JSON value

The letters of its texts and keys, its numbers with a fraction, and how deep it nests. A
letter that no escape hides and no punctuation uses is in the text of a value where it is in
the value (`any_dumps`), and numbers of which some are left out are told from the full ones,
in whatever order the keys stand (`allFloats_of_sortKeys_eq`).
-/

namespace Foundation

variable {F : Type}

mutual

/-- Some letter of a text or a key passes a test. -/
def someLetter (test : Char → Bool) : Json F → Bool
  | .str text => text.toList.any test
  | .list items => someLetterItems test items
  | .dict entries => someLetterEntries test entries
  | .null => false
  | .bool _ => false
  | .int _ => false
  | .float _ => false
termination_by structural value => value

/-- Some letter in the items of a list passes a test. -/
def someLetterItems (test : Char → Bool) : List (Json F) → Bool
  | [] => false
  | item :: rest => someLetter test item || someLetterItems test rest
termination_by structural items => items

/-- Some letter in the entries of an object passes a test. -/
def someLetterEntries (test : Char → Bool) : List (String × Json F) → Bool
  | [] => false
  | (key, value) :: rest =>
      key.toList.any test || (someLetter test value || someLetterEntries test rest)
termination_by structural entries => entries

end

mutual

/-- Every number with a fraction passes a test. -/
def allFloats (test : F → Bool) : Json F → Bool
  | .float value => test value
  | .list items => allFloatsItems test items
  | .dict entries => allFloatsEntries test entries
  | .null => true
  | .bool _ => true
  | .int _ => true
  | .str _ => true
termination_by structural value => value

/-- Every number with a fraction in the items of a list passes a test. -/
def allFloatsItems (test : F → Bool) : List (Json F) → Bool
  | [] => true
  | item :: rest => allFloats test item && allFloatsItems test rest
termination_by structural items => items

/-- Every number with a fraction in the values of an object passes a test. -/
def allFloatsEntries (test : F → Bool) : List (String × Json F) → Bool
  | [] => true
  | (_, value) :: rest => allFloats test value && allFloatsEntries test rest
termination_by structural entries => entries

end

mutual

/-- The value with a null for every number with a fraction that fails a test. -/
def nullFloats (test : F → Bool) : Json F → Json F
  | .float value => if test value then .float value else .null
  | .list items => .list (nullFloatsItems test items)
  | .dict entries => .dict (nullFloatsEntries test entries)
  | .null => .null
  | .bool value => .bool value
  | .int value => .int value
  | .str text => .str text
termination_by structural value => value

/-- The items of a list with nulls for numbers. -/
def nullFloatsItems (test : F → Bool) : List (Json F) → List (Json F)
  | [] => []
  | item :: rest => nullFloats test item :: nullFloatsItems test rest
termination_by structural items => items

/-- The entries of an object with nulls for numbers. -/
def nullFloatsEntries (test : F → Bool) : List (String × Json F) → List (String × Json F)
  | [] => []
  | (key, value) :: rest => (key, nullFloats test value) :: nullFloatsEntries test rest
termination_by structural entries => entries

end

mutual

/-- How many lists and objects stand inside each other. -/
def nesting : Json F → Nat
  | .list items => nestingItems items + 1
  | .dict entries => nestingEntries entries + 1
  | .null => 0
  | .bool _ => 0
  | .int _ => 0
  | .float _ => 0
  | .str _ => 0
termination_by structural value => value

/-- The deepest item of a list. -/
def nestingItems : List (Json F) → Nat
  | [] => 0
  | item :: rest => max (nesting item) (nestingItems rest)
termination_by structural items => items

/-- The deepest value of an object. -/
def nestingEntries : List (String × Json F) → Nat
  | [] => 0
  | (_, value) :: rest => max (nesting value) (nestingEntries rest)
termination_by structural entries => entries

end

/-! ## Numbers left out -/

section Floats

variable (test : F → Bool)

mutual

theorem allFloats_nullFloats : ∀ value : Json F, allFloats test (nullFloats test value) = true
  | .float value => by
      rw [nullFloats]
      by_cases kept : test value = true
      · rwa [if_pos kept]
      · rw [if_neg kept]
        rfl
  | .list items => allFloatsItems_nullFloatsItems items
  | .dict entries => allFloatsEntries_nullFloatsEntries entries
  | .null => rfl
  | .bool _ => rfl
  | .int _ => rfl
  | .str _ => rfl
termination_by structural value => value

theorem allFloatsItems_nullFloatsItems :
    ∀ items : List (Json F), allFloatsItems test (nullFloatsItems test items) = true
  | [] => rfl
  | item :: rest => by
      rw [nullFloatsItems, allFloatsItems, allFloats_nullFloats item,
        allFloatsItems_nullFloatsItems rest]
      rfl
termination_by structural items => items

theorem allFloatsEntries_nullFloatsEntries : ∀ entries : List (String × Json F),
    allFloatsEntries test (nullFloatsEntries test entries) = true
  | [] => rfl
  | (_, value) :: rest => by
      rw [nullFloatsEntries, allFloatsEntries, allFloats_nullFloats value,
        allFloatsEntries_nullFloatsEntries rest]
      rfl
termination_by structural entries => entries

end

variable {test}

mutual

/-- Where every number passes, nothing is left out. -/
theorem nullFloats_of_allFloats : ∀ value : Json F, allFloats test value = true →
    nullFloats test value = value
  | .float _ => fun passes => if_pos passes
  | .list items => fun passes => congrArg Json.list (nullFloatsItems_of_allFloats items passes)
  | .dict entries => fun passes =>
      congrArg Json.dict (nullFloatsEntries_of_allFloats entries passes)
  | .null => fun _ => rfl
  | .bool _ => fun _ => rfl
  | .int _ => fun _ => rfl
  | .str _ => fun _ => rfl
termination_by structural value => value

theorem nullFloatsItems_of_allFloats : ∀ items : List (Json F), allFloatsItems test items = true →
    nullFloatsItems test items = items
  | [] => fun _ => rfl
  | item :: rest => fun passes => by
      obtain ⟨first, later⟩ := Bool.and_eq_true_iff.mp passes
      rw [nullFloatsItems, nullFloats_of_allFloats item first,
        nullFloatsItems_of_allFloats rest later]
termination_by structural items => items

theorem nullFloatsEntries_of_allFloats : ∀ entries : List (String × Json F),
    allFloatsEntries test entries = true → nullFloatsEntries test entries = entries
  | [] => fun _ => rfl
  | (_, value) :: rest => fun passes => by
      obtain ⟨first, later⟩ := Bool.and_eq_true_iff.mp passes
      rw [nullFloatsEntries, nullFloats_of_allFloats value first,
        nullFloatsEntries_of_allFloats rest later]
termination_by structural entries => entries

end

theorem dictKeys_nullFloatsEntries (entries : List (String × Json F)) :
    dictKeys (nullFloatsEntries test entries) = dictKeys entries := by
  induction entries with
  | nil => rfl
  | cons entry rest ih => exact congrArg (entry.1 :: ·) ih

mutual

theorem nesting_nullFloats : ∀ value : Json F, nesting (nullFloats test value) = nesting value
  | .float value => by
      rw [nullFloats]
      split
      all_goals rfl
  | .list items => congrArg (· + 1) (nestingItems_nullFloats items)
  | .dict entries => congrArg (· + 1) (nestingEntries_nullFloats entries)
  | .null => rfl
  | .bool _ => rfl
  | .int _ => rfl
  | .str _ => rfl
termination_by structural value => value

theorem nestingItems_nullFloats : ∀ items : List (Json F),
    nestingItems (nullFloatsItems test items) = nestingItems items
  | [] => rfl
  | item :: rest => by
      rw [nullFloatsItems, nestingItems, nestingItems, nesting_nullFloats item,
        nestingItems_nullFloats rest]
termination_by structural items => items

theorem nestingEntries_nullFloats : ∀ entries : List (String × Json F),
    nestingEntries (nullFloatsEntries test entries) = nestingEntries entries
  | [] => rfl
  | (_, value) :: rest => by
      rw [nullFloatsEntries, nestingEntries, nestingEntries, nesting_nullFloats value,
        nestingEntries_nullFloats rest]
termination_by structural entries => entries

end

mutual

theorem someLetter_nullFloats (letters : Char → Bool) : ∀ value : Json F,
    someLetter letters (nullFloats test value) = someLetter letters value
  | .float value => by
      rw [nullFloats]
      split
      all_goals rfl
  | .list items => someLetterItems_nullFloats letters items
  | .dict entries => someLetterEntries_nullFloats letters entries
  | .null => rfl
  | .bool _ => rfl
  | .int _ => rfl
  | .str _ => rfl
termination_by structural value => value

theorem someLetterItems_nullFloats (letters : Char → Bool) : ∀ items : List (Json F),
    someLetterItems letters (nullFloatsItems test items) = someLetterItems letters items
  | [] => rfl
  | item :: rest => by
      rw [nullFloatsItems, someLetterItems, someLetterItems, someLetter_nullFloats letters item,
        someLetterItems_nullFloats letters rest]
termination_by structural items => items

theorem someLetterEntries_nullFloats (letters : Char → Bool) :
    ∀ entries : List (String × Json F),
      someLetterEntries letters (nullFloatsEntries test entries) =
        someLetterEntries letters entries
  | [] => rfl
  | (_, value) :: rest => by
      rw [nullFloatsEntries, someLetterEntries, someLetterEntries,
        someLetter_nullFloats letters value, someLetterEntries_nullFloats letters rest]
termination_by structural entries => entries

end

mutual

theorem distinctKeys_nullFloats : ∀ value : Json F, DistinctKeys value →
    DistinctKeys (nullFloats test value)
  | .float value => fun _ => by
      rw [nullFloats]
      split
      all_goals trivial
  | .list items => fun distinct => distinctKeysItems_nullFloats items distinct
  | .dict entries => fun distinct => by
      refine ⟨?_, distinctKeysEntries_nullFloats entries distinct.2⟩
      rw [dictKeys_nullFloatsEntries]
      exact distinct.1
  | .null => fun _ => trivial
  | .bool _ => fun _ => trivial
  | .int _ => fun _ => trivial
  | .str _ => fun _ => trivial
termination_by structural value => value

theorem distinctKeysItems_nullFloats : ∀ items : List (Json F), DistinctKeysItems items →
    DistinctKeysItems (nullFloatsItems test items)
  | [] => fun _ => trivial
  | item :: rest => fun distinct =>
      ⟨distinctKeys_nullFloats item distinct.1, distinctKeysItems_nullFloats rest distinct.2⟩
termination_by structural items => items

theorem distinctKeysEntries_nullFloats : ∀ entries : List (String × Json F),
    DistinctKeysEntries entries → DistinctKeysEntries (nullFloatsEntries test entries)
  | [] => fun _ => trivial
  | (_, value) :: rest => fun distinct =>
      ⟨distinctKeys_nullFloats value distinct.1, distinctKeysEntries_nullFloats rest distinct.2⟩
termination_by structural entries => entries

end

mutual

/-- A value whose numbers are all read back is readable where no key comes twice. -/
theorem readable_of_allFloats {format : FloatFormat F}
    (reads : ∀ value, test value = true → FloatReads format value) :
    ∀ value : Json F, DistinctKeys value → allFloats test value = true → Readable format value
  | .float value => fun _ passes => reads value passes
  | .list items => fun distinct passes => readableItems_of_allFloats reads items distinct passes
  | .dict entries => fun distinct passes =>
      ⟨distinct.1, readableEntries_of_allFloats reads entries distinct.2 passes⟩
  | .null => fun _ _ => trivial
  | .bool _ => fun _ _ => trivial
  | .int _ => fun _ _ => trivial
  | .str _ => fun _ _ => trivial
termination_by structural value => value

theorem readableItems_of_allFloats {format : FloatFormat F}
    (reads : ∀ value, test value = true → FloatReads format value) :
    ∀ items : List (Json F), DistinctKeysItems items → allFloatsItems test items = true →
      ReadableItems format items
  | [] => fun _ _ => trivial
  | item :: rest => fun distinct passes => by
      obtain ⟨first, later⟩ := Bool.and_eq_true_iff.mp passes
      exact ⟨readable_of_allFloats reads item distinct.1 first,
        readableItems_of_allFloats reads rest distinct.2 later⟩
termination_by structural items => items

theorem readableEntries_of_allFloats {format : FloatFormat F}
    (reads : ∀ value, test value = true → FloatReads format value) :
    ∀ entries : List (String × Json F), DistinctKeysEntries entries →
      allFloatsEntries test entries = true → ReadableEntries format entries
  | [] => fun _ _ => trivial
  | (_, value) :: rest => fun distinct passes => by
      obtain ⟨first, later⟩ := Bool.and_eq_true_iff.mp passes
      exact ⟨readable_of_allFloats reads value distinct.1 first,
        readableEntries_of_allFloats reads rest distinct.2 later⟩
termination_by structural entries => entries

end

theorem allFloatsEntries_eq_all (entries : List (String × Json F)) :
    allFloatsEntries test entries = entries.all fun entry => allFloats test entry.2 := by
  induction entries with
  | nil => rfl
  | cons entry rest ih => rw [allFloatsEntries, ih, List.all_cons]

mutual

/-- Sorting the keys keeps the numbers. -/
theorem allFloats_sortKeys : ∀ value : Json F,
    allFloats test (sortKeys value) = allFloats test value
  | .float _ => rfl
  | .list items => allFloatsItems_sortKeys items
  | .dict entries => by
      rw [sortKeys, allFloats, allFloats, ← allFloatsEntries_sortKeys entries,
        allFloatsEntries_eq_all, allFloatsEntries_eq_all]
      exact (sortByKey_perm _).all_eq
  | .null => rfl
  | .bool _ => rfl
  | .int _ => rfl
  | .str _ => rfl
termination_by structural value => value

theorem allFloatsItems_sortKeys : ∀ items : List (Json F),
    allFloatsItems test (sortKeysItems items) = allFloatsItems test items
  | [] => rfl
  | item :: rest => by
      rw [sortKeysItems, allFloatsItems, allFloatsItems, allFloats_sortKeys item,
        allFloatsItems_sortKeys rest]
termination_by structural items => items

theorem allFloatsEntries_sortKeys : ∀ entries : List (String × Json F),
    allFloatsEntries test (sortKeysEntries entries) = allFloatsEntries test entries
  | [] => rfl
  | (_, value) :: rest => by
      rw [sortKeysEntries, allFloatsEntries, allFloatsEntries, allFloats_sortKeys value,
        allFloatsEntries_sortKeys rest]
termination_by structural entries => entries

end

/-- A value that is the same without the numbers that fail has none of them. -/
theorem allFloats_of_sortKeys_eq {value : Json F}
    (same : sortKeys (nullFloats test value) = sortKeys value) : allFloats test value = true := by
  rw [← allFloats_sortKeys, ← same, allFloats_sortKeys]
  exact allFloats_nullFloats test value

end Floats

/-! ## Letters in the text -/

section Letters

variable {format : FloatFormat F} {escape : Char → List Char} {test hidden : Char → Bool}

/-- A test that no visible ASCII letter passes finds nothing in such letters. -/
theorem any_of_visible (quiet : ∀ letter : Char, 32 ≤ letter.toNat → letter.toNat < 127 →
    test letter = false) {text : List Char}
    (visible : (text.all fun char => decide (32 ≤ char.toNat ∧ char.toNat < 127)) = true) :
    text.any test = false := by
  apply List.any_eq_false.mpr
  intro letter member
  obtain ⟨low, high⟩ := of_decide_eq_true (List.all_eq_true.mp visible letter member)
  rw [quiet letter low high]
  exact Bool.false_ne_true

theorem visible_of_isNumberChar {letter : Char} (numeric : isNumberChar letter = true) :
    32 ≤ letter.toNat ∧ letter.toNat < 127 := by
  simp only [isNumberChar, Bool.or_eq_true, beq_iff_eq] at numeric
  rcases numeric with ((((digit | rfl) | rfl) | rfl) | rfl) | rfl
  · rw [Char.isDigit, Bool.and_eq_true, decide_eq_true_eq, decide_eq_true_eq] at digit
    have low : 48 ≤ letter.toNat := digit.1
    have high : letter.toNat ≤ 57 := digit.2
    omega
  all_goals decide

theorem any_of_isNumberChar (quiet : ∀ letter : Char, 32 ≤ letter.toNat → letter.toNat < 127 →
    test letter = false) {text : List Char}
    (inside : ∀ letter ∈ text, isNumberChar letter = true) : text.any test = false := by
  apply any_of_visible quiet
  rw [List.all_eq_true]
  exact fun letter member => decide_eq_true (visible_of_isNumberChar (inside letter member))

theorem any_of_isFloatText (quiet : ∀ letter : Char, 32 ≤ letter.toNat → letter.toNat < 127 →
    test letter = false) {text : List Char} (spelled : IsFloatText text) :
    text.any test = false := by
  rcases spelled with ⟨_, inside⟩ | constant
  · exact any_of_isNumberChar quiet inside
  · simp only [floatConstants, List.mem_cons, List.not_mem_nil, or_false] at constant
    rcases constant with rfl | rfl | rfl
    all_goals exact any_of_visible quiet rfl

theorem any_quotedChars (escaped : ∀ char, (escape char).any test = hidden char)
    (quiet : ∀ letter : Char, 32 ≤ letter.toNat → letter.toNat < 127 → test letter = false)
    (text : String) : (quotedChars escape text).any test = text.toList.any hidden := by
  have quote : test '"' = false := quiet _ (by decide) (by decide)
  rw [quotedChars, List.any_cons, List.any_append, List.any_cons, quote, List.any_nil,
    Bool.false_or, Bool.false_or, Bool.or_false, List.any_flatMap]
  exact congrArg (text.toList.any ·) (funext escaped)

mutual

/-- A letter is in the text of a value where it is in the value, or where escapes write it. -/
theorem any_dumps (escaped : ∀ char, (escape char).any test = hidden char)
    (quiet : ∀ letter : Char, 32 ≤ letter.toNat → letter.toNat < 127 → test letter = false) :
    ∀ value : Json F, Readable format value →
      (dumps format escape value).any test = someLetter hidden value
  | .null => fun _ => @any_of_visible _ quiet "null".toList rfl
  | .bool true => fun _ => @any_of_visible _ quiet "true".toList rfl
  | .bool false => fun _ => @any_of_visible _ quiet "false".toList rfl
  | .int value => fun _ => any_of_isNumberChar quiet (isNumberChar_toString value)
  | .float _ => fun readable => any_of_isFloatText quiet readable.spelled
  | .str text => fun _ => any_quotedChars escaped quiet text
  | .list [] => fun _ => @any_of_visible _ quiet ['[', ']'] rfl
  | .list (item :: rest) => fun readable => by
      have bracket : test '[' = false := quiet _ (by decide) (by decide)
      rw [dumps, List.any_cons, List.any_append, any_dumps escaped quiet item readable.1,
        any_dumpsItems escaped quiet rest readable.2, bracket, Bool.false_or]
      rfl
  | .dict [] => fun _ => @any_of_visible _ quiet ['\x7b', '\x7d'] rfl
  | .dict ((key, value) :: rest) => fun readable => by
      have brace : test '\x7b' = false := quiet _ (by decide) (by decide)
      have colon : test ':' = false := quiet _ (by decide) (by decide)
      rw [dumps, List.any_cons, List.any_append, List.any_cons, List.any_append,
        any_quotedChars escaped quiet, any_dumps escaped quiet value readable.2.1,
        any_dumpsEntries escaped quiet rest readable.2.2, brace, colon, Bool.false_or,
        Bool.false_or]
      rfl
termination_by structural value => value

theorem any_dumpsItems (escaped : ∀ char, (escape char).any test = hidden char)
    (quiet : ∀ letter : Char, 32 ≤ letter.toNat → letter.toNat < 127 → test letter = false) :
    ∀ items : List (Json F), ReadableItems format items →
      (dumpsItems format escape items).any test = someLetterItems hidden items
  | [] => fun _ => @any_of_visible _ quiet [']'] rfl
  | item :: rest => fun readable => by
      have comma : test ',' = false := quiet _ (by decide) (by decide)
      rw [dumpsItems, List.any_cons, List.any_append, any_dumps escaped quiet item readable.1,
        any_dumpsItems escaped quiet rest readable.2, comma, Bool.false_or]
      rfl
termination_by structural items => items

theorem any_dumpsEntries (escaped : ∀ char, (escape char).any test = hidden char)
    (quiet : ∀ letter : Char, 32 ≤ letter.toNat → letter.toNat < 127 → test letter = false) :
    ∀ entries : List (String × Json F), ReadableEntries format entries →
      (dumpsEntries format escape entries).any test = someLetterEntries hidden entries
  | [] => fun _ => @any_of_visible _ quiet ['\x7d'] rfl
  | (key, value) :: rest => fun readable => by
      have comma : test ',' = false := quiet _ (by decide) (by decide)
      have colon : test ':' = false := quiet _ (by decide) (by decide)
      rw [dumpsEntries, List.any_cons, List.any_append, List.any_cons, List.any_append,
        any_quotedChars escaped quiet, any_dumps escaped quiet value readable.1,
        any_dumpsEntries escaped quiet rest readable.2, comma, colon, Bool.false_or,
        Bool.false_or]
      rfl
termination_by structural entries => entries

end

mutual

theorem someLetter_eq_false (never : ∀ letter, test letter = false) : ∀ value : Json F,
    someLetter test value = false
  | .str _ => List.any_eq_false.mpr fun letter _ => Bool.eq_false_iff.mp (never letter)
  | .list items => someLetterItems_eq_false never items
  | .dict entries => someLetterEntries_eq_false never entries
  | .null => rfl
  | .bool _ => rfl
  | .int _ => rfl
  | .float _ => rfl
termination_by structural value => value

theorem someLetterItems_eq_false (never : ∀ letter, test letter = false) :
    ∀ items : List (Json F), someLetterItems test items = false
  | [] => rfl
  | item :: rest => by
      rw [someLetterItems, someLetter_eq_false never item, someLetterItems_eq_false never rest]
      rfl
termination_by structural items => items

theorem someLetterEntries_eq_false (never : ∀ letter, test letter = false) :
    ∀ entries : List (String × Json F), someLetterEntries test entries = false
  | [] => rfl
  | (key, value) :: rest => by
      have quiet : key.toList.any test = false :=
        List.any_eq_false.mpr fun letter _ => Bool.eq_false_iff.mp (never letter)
      rw [someLetterEntries, quiet, someLetter_eq_false never value,
        someLetterEntries_eq_false never rest]
      rfl
termination_by structural entries => entries

end

/-- A control character that no escape writes is not in the text of a value. -/
theorem not_mem_dumps_of_readable {letter : Char} (control : letter.toNat < 32)
    (escaped : ∀ char, letter ∉ escape char) {value : Json F} (readable : Readable format value) :
    letter ∉ dumps format escape value := by
  have hides : ∀ char, (escape char).any (· == letter) = false := fun char =>
    List.any_eq_false.mpr fun other member same => escaped char (beq_iff_eq.mp same ▸ member)
  have quiet : ∀ other : Char, 32 ≤ other.toNat → other.toNat < 127 →
      (other == letter) = false := by
    intro other visible _
    exact beq_eq_false_iff_ne.mpr (control_ne control visible).symm
  have none := any_dumps hides quiet value readable
  rw [someLetter_eq_false fun _ => rfl] at none
  intro member
  exact List.any_eq_false.mp none letter member (beq_self_eq_true letter)

end Letters

end Foundation
