import QueryGate.Foundation.Casefold

/-! # Text operations of the host language

The string operations the application relies on, over code points: whitespace
stripping, splitting at the first dot, the identifier shape, and the printed
form of strings inside messages. They are defined through `String.toList`, so
they evaluate on literals.
-/

namespace Foundation

/-- The code points Python's `str.isspace` accepts. -/
def isSpace (char : Char) : Bool :=
  let code := char.toNat
  (9 ≤ code && code ≤ 13) || (28 ≤ code && code ≤ 32) || code == 0x85 || code == 0xa0 ||
    code == 0x1680 || (0x2000 ≤ code && code ≤ 0x200a) || code == 0x2028 || code == 0x2029 ||
    code == 0x202f || code == 0x205f || code == 0x3000

/-- Drop leading and trailing whitespace. -/
def strip (text : String) : String :=
  String.ofList (((text.toList.dropWhile isSpace).reverse.dropWhile isSpace).reverse)

/-- `text.isascii()`. -/
def isAscii (text : String) : Bool :=
  text.toList.all fun letter => decide (letter.toNat < 128)

/-- The characters before and after the first dot, if there is one. -/
def splitDotChars : List Char → Option (List Char × List Char)
  | [] => none
  | char :: rest =>
      if char = '.' then some ([], rest)
      else (splitDotChars rest).map fun halves => (char :: halves.1, halves.2)

/-- `text.split(".", 1)`, or `none` where the text holds no dot. -/
def splitDot (text : String) : Option (String × String) :=
  (splitDotChars text.toList).map fun halves => (String.ofList halves.1, String.ofList halves.2)

/-- `"." in text`. -/
def hasDot (text : String) : Bool :=
  (splitDotChars text.toList).isSome

/-- The characters `[A-Za-z_]`. -/
def isIdentifierStart (char : Char) : Bool :=
  let code := char.toNat
  (65 ≤ code && code ≤ 90) || (97 ≤ code && code ≤ 122) || code == 95

/-- The characters `[A-Za-z0-9_]`. -/
def isIdentifierRest (char : Char) : Bool :=
  isIdentifierStart char || (48 ≤ char.toNat && char.toNat ≤ 57)

/-- The whole of `chars` matches `[A-Za-z_][A-Za-z0-9_]*`. -/
def identifierChars : List Char → Bool
  | [] => false
  | char :: rest => isIdentifierStart char && rest.all isIdentifierRest

/-- `re.match` of `^[A-Za-z_][A-Za-z0-9_]*$`: the dollar also matches before one
final line feed. -/
def matchesIdentifier (text : String) : Bool :=
  identifierChars text.toList ||
    (text.toList.getLast? == some '\n' && identifierChars text.toList.dropLast)

/-- One character of the printed form, inside the given quote. -/
def quotedChar (quote char : Char) : List Char :=
  if char == quote || char == '\\' then ['\\', char]
  else if char == '\n' then ['\\', 'n']
  else if char == '\r' then ['\\', 'r']
  else if char == '\t' then ['\\', 't']
  else if char.toNat < 32 || (127 ≤ char.toNat && char.toNat ≤ 160) || char.toNat == 173 then
    ['\\', 'x', Nat.digitChar (char.toNat / 16), Nat.digitChar (char.toNat % 16)]
  else [char]

/-- The printed form of a string inside a message: single quotes, or double
quotes when the text holds a single quote and no double one. -/
def quoted (text : String) : String :=
  let chars := text.toList
  let quote := if chars.contains '\'' && !chars.contains '"' then '"' else '\''
  String.ofList (quote :: (chars.flatMap (quotedChar quote) ++ [quote]))

/-- The printed form of a list of strings. -/
def quotedList (texts : List String) : String :=
  "[" ++ String.intercalate ", " (texts.map quoted) ++ "]"

/-- `left or right` on an optional string: the empty string counts as absent. -/
def orElseText (left : Option String) (right : String) : String :=
  match left with
  | some text => if text = "" then right else text
  | none => right

/-- A text has a dot exactly when it splits at one. -/
theorem hasDot_eq_true_iff {text : String} :
    hasDot text = true ↔ ∃ halves, splitDot text = some halves := by
  unfold hasDot splitDot
  cases splitDotChars text.toList with
  | none => simp
  | some halves => simp

section Folding

/-- The code points that stand for themselves under folding and are the image of no
other: the dot and the whitespace. -/
def separatorCodes : List Nat :=
  46 :: 0x85 :: 0xa0 :: 0x1680 :: 0x2028 :: 0x2029 :: 0x202f :: 0x205f :: 0x3000 ::
    (List.range' 9 5 ++ List.range' 28 5 ++ List.range' 0x2000 11)

theorem separator_of_isSpace {char : Char} (space : isSpace char = true) :
    char.toNat ∈ separatorCodes := by
  simp only [isSpace, Bool.or_eq_true, Bool.and_eq_true, decide_eq_true_eq, beq_iff_eq] at space
  simp only [separatorCodes, List.mem_cons, List.mem_append, List.mem_range'_1]
  omega

/-- What the folding tables say of the separators. -/
theorem separatorCodes_unfolded :
    (∀ code ∈ separatorCodes, foldCode code = [code]) ∧
      (∀ code < 128, ∀ image ∈ foldCode code, image ∈ separatorCodes → code = image) ∧
      (∀ entry ∈ fullFolds, entry.2 ≠ [] ∧ ∀ image ∈ entry.2, image ∉ separatorCodes) ∧
      ∀ run ∈ simpleFolds, ∀ code ∈ separatorCodes, run.misses code = true := by
  decide +kernel

theorem foldCode_separator : ∀ code ∈ separatorCodes, foldCode code = [code] :=
  separatorCodes_unfolded.1

theorem ascii_separator :
    ∀ code < 128, ∀ image ∈ foldCode code, image ∈ separatorCodes → code = image :=
  separatorCodes_unfolded.2.1

theorem fullFolds_separator : ∀ entry ∈ fullFolds,
    entry.2 ≠ [] ∧ ∀ image ∈ entry.2, image ∉ separatorCodes :=
  separatorCodes_unfolded.2.2.1

theorem simpleFolds_separator :
    ∀ run ∈ simpleFolds, ∀ code ∈ separatorCodes, run.misses code = true :=
  separatorCodes_unfolded.2.2.2

/-- A separator is the image of itself only. -/
theorem eq_of_fold_separator {code image : Nat} (member : image ∈ foldCode code)
    (separator : image ∈ separatorCodes) : code = image := by
  by_cases ascii : code < 128
  · exact ascii_separator code ascii image member separator
  simp only [foldCode, ascii, ↓reduceIte] at member
  cases full : fullFolds.lookup code with
  | some codes =>
      rw [full] at member
      obtain ⟨before, after, split, -⟩ := List.lookup_eq_some_iff.mp full
      have entry : (code, codes) ∈ fullFolds := by
        rw [split]
        exact List.mem_append_right _ (List.mem_cons_self ..)
      exact absurd separator ((fullFolds_separator _ entry).2 image member)
  | none =>
      cases found : simpleFolds.find? (fun run => run.covers code) with
      | some run =>
          simp only [full, found, List.mem_singleton] at member
          have misses := simpleFolds_separator run (List.mem_of_find?_eq_some found) image separator
          have covered : run.covers code = true :=
            List.find?_some (p := fun run : FoldRun => run.covers code) found
          exact absurd member.symm (FoldRun.image_ne_of_misses covered misses)
      | none =>
          simp only [full, found, List.mem_singleton] at member
          exact member.symm

theorem foldCode_ne_nil (code : Nat) : foldCode code ≠ [] := by
  unfold foldCode
  split
  · exact List.cons_ne_nil _ _
  · split
    · rename_i codes full
      obtain ⟨before, after, split, -⟩ := List.lookup_eq_some_iff.mp full
      have entry : (code, codes) ∈ fullFolds := by
        rw [split]
        exact List.mem_append_right _ (List.mem_cons_self ..)
      exact (fullFolds_separator _ entry).1
    · split
      · exact List.cons_ne_nil _ _
      · exact List.cons_ne_nil _ _

/-- The case folding of one character. -/
def foldChar (char : Char) : List Char :=
  (foldCode char.toNat).map Char.ofNat

theorem foldChar_separator {char : Char} (separator : char.toNat ∈ separatorCodes) :
    foldChar char = [char] := by
  rw [foldChar, foldCode_separator _ separator, List.map_singleton, Char.ofNat_toNat]

theorem eq_of_foldChar_separator {char image : Char} (member : image ∈ foldChar char)
    (separator : image.toNat ∈ separatorCodes) : char = image := by
  obtain ⟨code, inCodes, rfl⟩ := List.mem_map.mp member
  have valid := (foldCode_image_folded char.valid code inCodes).1
  rw [toNat_ofNat_of_valid valid] at separator
  rw [← eq_of_fold_separator inCodes separator, Char.ofNat_toNat]

theorem toList_casefold (text : String) : (casefold text).toList = text.toList.flatMap foldChar := by
  rw [casefold, String.toList_ofList]
  rfl

theorem splitDotChars_append {chars : List Char} (noDot : '.' ∉ chars) (rest : List Char) :
    splitDotChars (chars ++ rest) =
      (splitDotChars rest).map fun halves => (chars ++ halves.1, halves.2) := by
  induction chars with
  | nil => simp
  | cons char later ih =>
      rw [List.mem_cons, not_or] at noDot
      rw [List.cons_append, splitDotChars, if_neg (Ne.symm noDot.1), ih noDot.2, Option.map_map]
      rfl

theorem splitDotChars_eq_some {chars front back : List Char}
    (found : splitDotChars chars = some (front, back)) : chars = front ++ '.' :: back := by
  induction chars generalizing front with
  | nil => cases found
  | cons char rest ih =>
      rw [splitDotChars] at found
      by_cases dot : char = '.'
      · rw [if_pos dot] at found
        cases found
        rw [dot, List.nil_append]
      · rw [if_neg dot] at found
        obtain ⟨⟨more, tail⟩, later, same⟩ := Option.map_eq_some_iff.mp found
        cases same
        rw [List.cons_append, ih later]

theorem splitDotChars_fold (chars : List Char) :
    splitDotChars (chars.flatMap foldChar) =
      (splitDotChars chars).map fun halves =>
        (halves.1.flatMap foldChar, halves.2.flatMap foldChar) := by
  induction chars with
  | nil => rfl
  | cons char rest ih =>
      rw [List.flatMap_cons, splitDotChars]
      by_cases dot : char = '.'
      · rw [if_pos dot, dot, foldChar_separator (by decide), List.singleton_append, splitDotChars,
          if_pos rfl]
        rfl
      · have noDot : '.' ∉ foldChar char := fun member =>
          dot (eq_of_foldChar_separator member (by decide))
        rw [if_neg dot, splitDotChars_append noDot, ih, Option.map_map, Option.map_map]
        rfl

/-- Dropping leading whitespace commutes with a character map that keeps
whitespace and makes none. -/
theorem dropWhile_flatMap {fold : Char → List Char}
    (keeps : ∀ char, isSpace char = true → fold char = [char])
    (makesNone : ∀ char, isSpace char = false →
      ∃ first rest, fold char = first :: rest ∧ isSpace first = false) (chars : List Char) :
    (chars.flatMap fold).dropWhile isSpace = (chars.dropWhile isSpace).flatMap fold := by
  induction chars with
  | nil => rfl
  | cons char rest ih =>
      cases space : isSpace char with
      | true =>
          rw [List.flatMap_cons, keeps char space, List.singleton_append,
            List.dropWhile_cons_of_pos space, List.dropWhile_cons_of_pos space, ih]
      | false =>
          obtain ⟨first, later, folded, notSpace⟩ := makesNone char space
          rw [List.dropWhile_cons_of_neg (Bool.not_eq_true _ ▸ space), List.flatMap_cons, folded,
            List.cons_append, List.dropWhile_cons_of_neg (Bool.not_eq_true _ ▸ notSpace)]

theorem foldChar_notSpace {char : Char} (notSpace : isSpace char = false) :
    ∀ image ∈ foldChar char, isSpace image = false := by
  intro image member
  cases space : isSpace image with
  | false => rfl
  | true =>
      rw [eq_of_foldChar_separator member (separator_of_isSpace space), space] at notSpace
      cases notSpace

theorem foldChar_ne_nil (char : Char) : foldChar char ≠ [] := by
  rw [foldChar, ne_eq, List.map_eq_nil_iff]
  exact foldCode_ne_nil _

/-- Stripping commutes with folding. -/
theorem strip_casefold (text : String) : strip (casefold text) = casefold (strip text) := by
  have forward : ∀ chars : List Char,
      (chars.flatMap foldChar).dropWhile isSpace = (chars.dropWhile isSpace).flatMap foldChar := by
    refine dropWhile_flatMap (fun char space => foldChar_separator (separator_of_isSpace space))
      fun char notSpace => ?_
    obtain ⟨first, rest, folded⟩ := List.exists_cons_of_ne_nil (foldChar_ne_nil char)
    refine ⟨first, rest, folded, foldChar_notSpace notSpace first ?_⟩
    rw [folded]
    exact List.mem_cons_self ..
  have backward : ∀ chars : List Char,
      (chars.flatMap fun char => (foldChar char).reverse).dropWhile isSpace =
        (chars.dropWhile isSpace).flatMap fun char => (foldChar char).reverse := by
    refine dropWhile_flatMap (fun char space => ?_) fun char notSpace => ?_
    · rw [foldChar_separator (separator_of_isSpace space), List.reverse_singleton]
    · obtain ⟨first, rest, folded⟩ := List.exists_cons_of_ne_nil
        (fun empty => foldChar_ne_nil char (List.reverse_eq_nil_iff.mp empty))
      refine ⟨first, rest, folded, foldChar_notSpace notSpace first ?_⟩
      rw [← List.mem_reverse, folded]
      exact List.mem_cons_self ..
  have fold_eq : ∀ chars : List Char,
      casefold (String.ofList chars) = String.ofList (chars.flatMap foldChar) := by
    intro chars
    rw [← String.toList_inj, toList_casefold, String.toList_ofList, String.toList_ofList]
  rw [strip, strip, fold_eq, toList_casefold, forward, List.reverse_flatMap]
  simp only [Function.comp_def]
  rw [backward, List.reverse_flatMap]
  simp only [Function.comp_def, List.reverse_reverse]

/-- Splitting at the first dot commutes with folding. -/
theorem splitDot_casefold (text : String) :
    splitDot (casefold text) =
      (splitDot text).map fun halves => (casefold halves.1, casefold halves.2) := by
  rw [splitDot, splitDot, toList_casefold, splitDotChars_fold, Option.map_map, Option.map_map]
  congr 1
  funext halves
  simp only [Function.comp_apply, Prod.mk.injEq, ← String.toList_inj, toList_casefold,
    String.toList_ofList, and_self]

end Folding

example : splitDot "Orders.Total.x" = some ("Orders", "Total.x") := by decide

end Foundation
