import QueryGate.Foundation.Text

/-! # The lines of a text

Splitting a text at its line breaks, of which Unicode has more than the newline. A text
without a break comes back as one line (`splitLines_line`), and one with a break inside as
two lines at least that hold something (`two_le_solidLines`).
-/

namespace Foundation

/-- The characters behind which `str.splitlines` begins a new line. -/
def isLineBreak (letter : Char) : Bool :=
  [10, 11, 12, 13, 28, 29, 30, 0x85, 0x2028, 0x2029].contains letter.toNat

/-- `str.splitlines`: a return and the newline behind it are one break. -/
def splitLines : List Char → List (List Char)
  | [] => []
  | '\r' :: '\n' :: rest => [] :: splitLines rest
  | letter :: rest =>
      if isLineBreak letter then [] :: splitLines rest
      else
        match splitLines rest with
        | [] => [[letter]]
        | line :: lines => (letter :: line) :: lines

/-- A line that strips to nothing. -/
def isBlankLine (line : List Char) : Bool :=
  line.all isSpace

/-- How many lines of a text hold something. -/
def solidLines (text : List Char) : Nat :=
  (splitLines text).countP fun line => !isBlankLine line

theorem ne_return_of_not_isLineBreak {letter : Char} (inside : isLineBreak letter = false) :
    letter ≠ '\r' := by
  rintro rfl
  cases inside

/-- A letter that is no break stands at the head of the first line. -/
theorem splitLines_cons_of_not_break {letter : Char} (inside : isLineBreak letter = false)
    (rest : List Char) :
    splitLines (letter :: rest) =
      match splitLines rest with
      | [] => [[letter]]
      | line :: lines => (letter :: line) :: lines := by
  rw [splitLines, if_neg (by rw [inside]; exact Bool.false_ne_true)]
  intro _ same
  exact absurd same (ne_return_of_not_isLineBreak inside)

/-- A break other than the return ends the line it stands in. -/
theorem splitLines_cons_of_break {letter : Char} (breaks : isLineBreak letter = true)
    (single : letter ≠ '\r') (rest : List Char) :
    splitLines (letter :: rest) = [] :: splitLines rest := by
  rw [splitLines, if_pos breaks]
  intro _ same
  exact absurd same single

theorem splitLines_ne_nil {text : List Char} (written : text ≠ []) : splitLines text ≠ [] := by
  fun_cases splitLines text with
  | case1 => exact absurd rfl written
  | case2 => exact List.cons_ne_nil _ _
  | case3 => exact List.cons_ne_nil _ _
  | case4 => exact List.cons_ne_nil _ _
  | case5 => exact List.cons_ne_nil _ _

section Breaks

variable {letter : Char} {front : List Char}

/-- What stands before a break and what stands behind it are split apart from each other. -/
theorem splitLines_append_break (plain : '\r' ∉ front) (breaks : isLineBreak letter = true)
    (single : letter ≠ '\r') (rest : List Char) :
    splitLines (front ++ letter :: rest) = splitLines (front ++ [letter]) ++ splitLines rest := by
  induction front with
  | nil =>
      rw [List.nil_append, List.nil_append, splitLines_cons_of_break breaks single,
        splitLines_cons_of_break breaks single]
      rfl
  | cons first more ih =>
      obtain ⟨head, plainRest⟩ := not_or.mp (mt List.mem_cons.mpr plain)
      have behind := ih plainRest
      rw [List.cons_append, List.cons_append]
      by_cases firstBreaks : isLineBreak first = true
      · rw [splitLines_cons_of_break firstBreaks (Ne.symm head),
          splitLines_cons_of_break firstBreaks (Ne.symm head), behind]
        rfl
      · rw [Bool.not_eq_true] at firstBreaks
        rw [splitLines_cons_of_not_break firstBreaks, splitLines_cons_of_not_break firstBreaks,
          behind]
        cases split : splitLines (more ++ [letter]) with
        | nil => exact absurd split (splitLines_ne_nil (List.append_ne_nil_of_right_ne_nil _ nofun))
        | cons line lines => rfl

/-- A text without a break comes back as one line. -/
theorem splitLines_line (inside : front.any isLineBreak = false) (rest : List Char) :
    splitLines (front ++ '\n' :: rest) = front :: splitLines rest := by
  induction front with
  | nil => exact splitLines_cons_of_break rfl (by decide) rest
  | cons first more ih =>
      obtain ⟨head, behind⟩ := Bool.or_eq_false_iff.mp (List.any_cons ▸ inside)
      rw [List.cons_append, splitLines_cons_of_not_break head, ih behind]

/-- Every letter that is no break stands in some line. -/
theorem exists_line_of_mem {text : List Char} (inside : isLineBreak letter = false)
    (member : letter ∈ text) : ∃ line ∈ splitLines text, letter ∈ line := by
  fun_induction splitLines text with
  | case1 => cases member
  | case2 rest ih =>
      have later : letter ∈ rest := by
        rcases List.mem_cons.mp member with rfl | member
        · cases inside
        rcases List.mem_cons.mp member with rfl | member
        · cases inside
        · exact member
      obtain ⟨line, held, found⟩ := ih later
      exact ⟨line, List.mem_cons_of_mem _ held, found⟩
  | case3 first rest _ breaks ih =>
      rcases List.mem_cons.mp member with rfl | later
      · exact absurd breaks (Bool.eq_false_iff.mp inside)
      obtain ⟨line, held, found⟩ := ih later
      exact ⟨line, List.mem_cons_of_mem _ held, found⟩
  | case4 first rest _ _ ended ih =>
      refine ⟨[first], List.mem_singleton_self _, ?_⟩
      rcases List.mem_cons.mp member with rfl | later
      · exact List.mem_singleton_self _
      obtain ⟨line, held, _⟩ := ih later
      rw [ended] at held
      cases held
  | case5 first rest _ _ line lines split ih =>
      rcases List.mem_cons.mp member with rfl | later
      · exact ⟨letter :: line, List.mem_cons_self .., List.mem_cons_self ..⟩
      obtain ⟨found, held, among⟩ := ih later
      rw [split] at held
      rcases List.mem_cons.mp held with rfl | further
      · exact ⟨first :: found, List.mem_cons_self .., List.mem_cons_of_mem _ among⟩
      · exact ⟨found, List.mem_cons_of_mem _ further, among⟩

/-- A text with a letter in it has a line that holds something. -/
theorem one_le_solidLines {text : List Char} (solid : isSpace letter = false)
    (inside : isLineBreak letter = false) (member : letter ∈ text) : 1 ≤ solidLines text := by
  obtain ⟨line, held, found⟩ := exists_line_of_mem inside member
  apply List.countP_pos_iff.mpr
  refine ⟨line, held, ?_⟩
  rw [Bool.not_eq_true']
  apply List.all_eq_false.mpr
  exact ⟨letter, found, by rw [solid]; exact Bool.false_ne_true⟩

theorem solidLines_append_break (plain : '\r' ∉ front) (breaks : isLineBreak letter = true)
    (single : letter ≠ '\r') (rest : List Char) :
    solidLines (front ++ letter :: rest) = solidLines (front ++ [letter]) + solidLines rest := by
  unfold solidLines
  rw [splitLines_append_break plain breaks single, List.countP_append]

/-- A text with a letter on each side of a break has two lines that hold something. -/
theorem two_le_solidLines {before after : Char} {rest : List Char} (plain : '\r' ∉ front)
    (breaks : isLineBreak letter = true) (single : letter ≠ '\r')
    (solidBefore : isSpace before = false) (insideBefore : isLineBreak before = false)
    (memberBefore : before ∈ front) (solidAfter : isSpace after = false)
    (insideAfter : isLineBreak after = false) (memberAfter : after ∈ rest) :
    2 ≤ solidLines (front ++ letter :: rest) := by
  have first := one_le_solidLines solidBefore insideBefore
    (List.mem_append_left [letter] memberBefore)
  have second := one_le_solidLines solidAfter insideAfter memberAfter
  rw [solidLines_append_break plain breaks single]
  omega

end Breaks

end Foundation
