import QueryGate.Foundation.LossyText

/-! # Reading the audit file backwards

`iter_lines_reverse` reads the file from its end in chunks, and yields the lines it has
whole. Behind a position of the file it holds the first piece of what it has read, which
may begin further in front, and it has yielded the others: on a file that keeps its
content, a read that comes to its end has yielded the lines of the text that are not
empty, last line first, and one that raises has yielded the last of them
(`iterLinesReverse_exact`).
-/

namespace QueryGate

open Foundation

/-- An open file: its size when it was opened, and what a read at a position returns. -/
structure LogFile where
  size : Nat
  read : (position length : Nat) → List UInt8

/-- A file that keeps its content. -/
def LogFile.ofContent (content : List UInt8) : LogFile where
  size := content.length
  read position length := (content.drop position).take length

/-- The bounds of a read, as the caller gives them. -/
structure ReadBounds where
  chunkSize : Nat := 65536
  maxLineBytes : Int := 1048576
  maxTotalBytes : Int := 268435456
  chunkPositive : 1 ≤ chunkSize := by decide

/-- What a read yielded, and the message of the `AuditFileReadBounded` that ended it. -/
structure ReverseRead where
  lines : List String
  raised : Option String
  deriving DecidableEq, Repr

/-- `segment.decode("utf-8", errors="replace")`. -/
def decodeSegment (segment : List UInt8) : String :=
  String.ofList (decodeReplace segment)

/-- Lines yielded from segments, the last segment first and empty ones skipped. -/
def yieldedLines (segments : List (List UInt8)) : List String :=
  (segments.reverse.filter fun segment => !segment.isEmpty).map decodeSegment

/-- Lines yielded before the rest of a read. -/
def ReverseRead.after (lines : List String) (rest : ReverseRead) : ReverseRead :=
  { rest with lines := lines ++ rest.lines }

/-- The loop of `iter_lines_reverse`: what is still in front of `position`, and the
piece carried forward from behind it. -/
def readBackward (file : LogFile) (bounds : ReadBounds) (position totalRead : Nat)
    (carry : List UInt8) : ReverseRead :=
  if position = 0 then ⟨yieldedLines [carry], none⟩
  else
    let readSize := min bounds.chunkSize position
    let chunk := file.read (position - readSize) readSize
    if chunk.length ≠ readSize then ⟨[], some "file size changed while reading"⟩
    else if bounds.maxTotalBytes < (totalRead + chunk.length : Nat) then
      ⟨[], some "max_total_bytes exceeded"⟩
    else
      let segments := (chunk ++ carry).splitOn lineFeed
      if segments.length = 1 ∧ bounds.maxLineBytes < (segments.headD []).length then
        ⟨[], some "max_line_bytes exceeded"⟩
      else
        (readBackward file bounds (position - readSize) (totalRead + chunk.length)
          (segments.headD [])).after (yieldedLines segments.tail)
termination_by position
decreasing_by
  have := bounds.chunkPositive
  omega

/-- `iter_lines_reverse`. -/
def iterLinesReverse (file : LogFile) (bounds : ReadBounds) : ReverseRead :=
  if file.size = 0 then ⟨[], none⟩ else readBackward file bounds file.size 0 []

/-- The lines of a file read forwards: its text, split at line feeds. -/
def forwardLines (content : List UInt8) : List String :=
  ((decodeReplace content).splitOn '\n').map String.ofList

/-- The lines that are not empty, last line first. -/
def backwardLines (content : List UInt8) : List String :=
  ((forwardLines content).filter fun line => line ≠ "").reverse

/-! ## Segments and lines -/

theorem yieldedLines_append (front back : List (List UInt8)) :
    yieldedLines (front ++ back) = yieldedLines back ++ yieldedLines front := by
  rw [yieldedLines, yieldedLines, yieldedLines, List.reverse_append, List.filter_append,
    List.map_append]

theorem decodeSegment_eq_empty_iff {segment : List UInt8} :
    decodeSegment segment = "" ↔ segment = [] := by
  rw [decodeSegment, ← decodeReplace_eq_nil_iff]
  exact ⟨fun same => String.ofList_injective same, fun same => by rw [same]⟩

/-- The segments of the whole content are its lines. -/
theorem yieldedLines_splitOn (content : List UInt8) :
    yieldedLines (content.splitOn lineFeed) = backwardLines content := by
  have nonempty : ((fun line : String => decide (line ≠ "")) ∘ String.ofList) ∘ decodeReplace =
      fun segment : List UInt8 => !segment.isEmpty := by
    funext segment
    cases segment with
    | nil => rfl
    | cons byte rest =>
        exact decide_eq_true (mt decodeSegment_eq_empty_iff.mp (List.cons_ne_nil _ _))
  rw [backwardLines, forwardLines, splitOn_decodeReplace, List.map_map, List.filter_map,
    ← Function.comp_assoc, nonempty, ← List.map_reverse, ← List.filter_reverse]
  rfl

/-! ## The loop -/

section Loop

variable {content : List UInt8} {bounds : ReadBounds} {position totalRead : Nat}
  {carry : List UInt8} {later : List (List UInt8)}

theorem length_read (inside : position ≤ content.length) (step : Nat) (reached : step ≤ position) :
    ((LogFile.ofContent content).read (position - step) step).length = step := by
  rw [LogFile.ofContent, List.length_take, List.length_drop]
  omega

/-- What a read adds in front of what is behind the position. -/
theorem drop_eq_read_append (step : Nat) (reached : step ≤ position) :
    content.drop (position - step) =
      (LogFile.ofContent content).read (position - step) step ++ content.drop position := by
  have behind : position - step + step = position := Nat.sub_add_cancel reached
  have split := List.take_append_drop step (content.drop (position - step))
  rw [List.drop_drop, behind] at split
  exact split.symm

/-- The whole content splits into what is in front, with the carry, and the rest. -/
theorem splitOn_content (split : (content.drop position).splitOn lineFeed = carry :: later) :
    content.splitOn lineFeed = (content.take position ++ carry).splitOn lineFeed ++ later := by
  have whole := splitOn_append_of_splitOn split (content.take position)
  rw [List.take_append_drop] at whole
  exact whole

/-- What a step keeps: the pieces behind the new position. -/
theorem splitOn_step (split : (content.drop position).splitOn lineFeed = carry :: later)
    (step : Nat) (reached : step ≤ position) {segments : List (List UInt8)}
    (pieces : ((LogFile.ofContent content).read (position - step) step ++ carry).splitOn lineFeed =
      segments) :
    (content.drop (position - step)).splitOn lineFeed =
      segments.headD [] :: (segments.tail ++ later) := by
  have nonempty : segments ≠ [] := pieces ▸ List.splitOn_ne_nil _ _
  rw [drop_eq_read_append step reached, splitOn_append_of_splitOn split, pieces]
  cases segments with
  | nil => exact absurd rfl nonempty
  | cons first more => rfl

/-- What has been yielded is the last of the lines. -/
theorem prefix_yields (split : (content.drop position).splitOn lineFeed = carry :: later) :
    yieldedLines later <+: backwardLines content := by
  rw [← yieldedLines_splitOn, splitOn_content split, yieldedLines_append]
  exact List.prefix_append _ _

variable (bounds totalRead) in
/-- The rest of a read yields further lines from the last, and all when it finishes. -/
theorem readBackward_yields (inside : position ≤ content.length)
    (split : (content.drop position).splitOn lineFeed = carry :: later) :
    yieldedLines later ++ (readBackward (.ofContent content) bounds position totalRead carry).lines
        <+: backwardLines content ∧
      ((readBackward (.ofContent content) bounds position totalRead carry).raised = none →
        yieldedLines later ++
          (readBackward (.ofContent content) bounds position totalRead carry).lines =
            backwardLines content) := by
  fun_induction readBackward (.ofContent content) bounds position totalRead carry
    generalizing later with
  | case1 totalRead carry =>
      have all : yieldedLines later ++ yieldedLines [carry] = backwardLines content := by
        rw [← yieldedLines_append, List.singleton_append, ← split, List.drop_zero,
          yieldedLines_splitOn]
      exact ⟨all ▸ List.prefix_rfl, fun _ => all⟩
  | case2 =>
      rename_i position totalRead carry front step chunk short
      exact absurd (length_read inside step (Nat.min_le_right _ _)) short
  | case3 =>
      rw [List.append_nil]
      exact ⟨prefix_yields split, nofun⟩
  | case4 =>
      rw [List.append_nil]
      exact ⟨prefix_yields split, nofun⟩
  | case5 =>
      rename_i position totalRead carry front step chunk full within segments short ih
      have reached : step ≤ position := Nat.min_le_right _ _
      have further := ih ((Nat.sub_le _ _).trans inside) (splitOn_step split step reached rfl)
      rw [yieldedLines_append, List.append_assoc] at further
      exact further

/-- Where no bound is exceeded, the read comes to the front of the file. -/
theorem readBackward_finishes (inside : position ≤ content.length)
    (split : (content.drop position).splitOn lineFeed = carry :: later)
    (counted : totalRead + position = content.length)
    (bytes : content.length ≤ bounds.maxTotalBytes)
    (lines : ∀ line ∈ content.splitOn lineFeed, line.length ≤ bounds.maxLineBytes) :
    (readBackward (.ofContent content) bounds position totalRead carry).raised = none := by
  fun_induction readBackward (.ofContent content) bounds position totalRead carry
    generalizing later with
  | case1 => rfl
  | case2 =>
      rename_i position totalRead carry front step chunk short
      exact absurd (length_read inside step (Nat.min_le_right _ _)) short
  | case3 =>
      rename_i position totalRead carry front step chunk full exceeded
      have reached : step ≤ position := Nat.min_le_right _ _
      have size : chunk.length = step := length_read inside step reached
      omega
  | case4 =>
      rename_i position totalRead carry front step chunk full within segments long
      have reached : step ≤ position := Nat.min_le_right _ _
      have behind := splitOn_step split step reached rfl
      -- The run without a line feed is part of a line, which is no shorter.
      obtain ⟨line, member, covers⟩ := exists_piece_of_append
        (not_mem_of_mem_splitOn (behind ▸ List.mem_cons_self ..)) (content.take (position - step))
      have bounded := lines line (splitOn_content behind ▸ List.mem_append_left _ member)
      have exceeded : bounds.maxLineBytes < ((segments.headD []).length : Int) := long.2
      change (segments.headD []).length ≤ line.length at covers
      omega
  | case5 =>
      rename_i position totalRead carry front step chunk full within segments short ih
      have reached : step ≤ position := Nat.min_le_right _ _
      have size : chunk.length = step := length_read inside step reached
      exact ih ((Nat.sub_le _ _).trans inside) (splitOn_step split step reached rfl) (by omega)

/-- A read that comes to the front has not read more than it may. -/
theorem size_le_of_finished (inside : position ≤ content.length) (front : 0 < position)
    (counted : totalRead + position = content.length)
    (finished : (readBackward (.ofContent content) bounds position totalRead carry).raised = none) :
    content.length ≤ bounds.maxTotalBytes := by
  fun_induction readBackward (.ofContent content) bounds position totalRead carry with
  | case1 => exact absurd front (Nat.lt_irrefl 0)
  | case2 => cases finished
  | case3 => cases finished
  | case4 => cases finished
  | case5 =>
      rename_i position totalRead carry front step chunk full within segments short ih
      have reached : step ≤ position := Nat.min_le_right _ _
      have size : chunk.length = step := length_read inside step reached
      rcases Nat.eq_zero_or_pos (position - step) with ended | further
      · omega
      · exact ih ((Nat.sub_le _ _).trans inside) further (by omega) finished

/-- The longest line a read that comes to the front can have met. -/
def ReadBounds.longestLine (bounds : ReadBounds) : Int :=
  max bounds.maxLineBytes bounds.chunkSize + bounds.chunkSize

/-- A read that comes to the front has met no line much longer than it may be. -/
theorem line_le_of_finished (inside : position ≤ content.length) (plain : lineFeed ∉ carry)
    (short : carry.length ≤ max bounds.maxLineBytes bounds.chunkSize)
    (finished : (readBackward (.ofContent content) bounds position totalRead carry).raised = none) :
    ∀ line ∈ (content.take position ++ carry).splitOn lineFeed,
      line.length ≤ bounds.longestLine := by
  fun_induction readBackward (.ofContent content) bounds position totalRead carry with
  | case1 totalRead carry =>
      intro line member
      rw [List.take_zero, List.nil_append, List.splitOn_eq_singleton plain,
        List.mem_singleton] at member
      rw [member, ReadBounds.longestLine]
      omega
  | case2 => cases finished
  | case3 => cases finished
  | case4 => cases finished
  | case5 =>
      rename_i position totalRead carry front step chunk full within segments passed ih
      have reached : step ≤ position := Nat.min_le_right _ _
      have size : chunk.length = step := length_read inside step reached
      have small : step ≤ bounds.chunkSize := Nat.min_le_left _ _
      obtain ⟨first, more, pieces⟩ := List.exists_cons_of_ne_nil
        (List.splitOn_ne_nil lineFeed (chunk ++ carry))
      have whole : content.take position = content.take (position - step) ++ chunk := by
        have ends := congrArg (List.take position)
          (List.take_append_drop (position - step) content)
        rw [drop_eq_read_append step reached, ← List.append_assoc] at ends
        rw [← ends]
        apply List.take_left'
        rw [List.length_append, List.length_take, size]
        omega
      have segments_eq : segments = first :: more := pieces
      have firstShort : first.length ≤ max bounds.maxLineBytes bounds.chunkSize := by
        cases more with
        | nil =>
            rw [segments_eq] at passed
            have kept := not_and.mp passed rfl
            change ¬ bounds.maxLineBytes < (first.length : Int) at kept
            omega
        | cons second rest =>
            have cut := length_head_le plain (List.cons_ne_nil _ _) pieces
            omega
      rw [segments_eq] at ih finished
      have front := ih ((Nat.sub_le _ _).trans inside)
        (not_mem_of_mem_splitOn (pieces ▸ List.mem_cons_self ..)) firstShort finished
      intro line member
      rw [whole, List.append_assoc, splitOn_append_of_splitOn pieces, List.mem_append] at member
      rcases member with carried | within
      · exact front line carried
      · have part := length_piece_le (pieces ▸ List.mem_cons_of_mem _ within :
          line ∈ (chunk ++ carry).splitOn lineFeed)
        rw [List.length_append] at part
        rw [ReadBounds.longestLine]
        omega

end Loop

/-! ## Reading backwards is reading forwards, reversed -/

/-- What a read of a content yields, and when it raises instead of coming to its end. -/
structure ReadsExactly (content : List UInt8) (bounds : ReadBounds) (read : ReverseRead) :
    Prop where
  /-- A read that is not stopped yields every line that is not empty, once and reversed. -/
  finished : read.raised = none → read.lines = backwardLines content
  /-- A read that is stopped has yielded whole lines only, the last ones. -/
  stopped : read.lines <+: backwardLines content
  /-- Within the bounds no read is stopped. -/
  bounded : content.length ≤ bounds.maxTotalBytes →
    (∀ line ∈ content.splitOn lineFeed, line.length ≤ bounds.maxLineBytes) → read.raised = none
  /-- A content larger than may be read raises. -/
  totalSignals : content ≠ [] → bounds.maxTotalBytes < content.length → read.raised.isSome
  /-- A line too long to be put together raises. -/
  lineSignals : ∀ line ∈ content.splitOn lineFeed, bounds.longestLine < line.length →
    read.raised.isSome

/-- Every read, with every chunk size and any bounds, yields what it should or raises. -/
theorem iterLinesReverse_exact (content : List UInt8) (bounds : ReadBounds) :
    ReadsExactly content bounds (iterLinesReverse (.ofContent content) bounds) := by
  have small : ((0 : Nat) : Int) ≤ max bounds.maxLineBytes bounds.chunkSize := by omega
  by_cases empty : content = []
  · have ended : iterLinesReverse (.ofContent content) bounds = ⟨[], none⟩ := by
      rw [iterLinesReverse, empty]
      exact if_pos rfl
    rw [ended]
    refine ⟨fun _ => ?_, List.nil_prefix, fun _ _ => rfl, fun written => absurd empty written,
      fun line member long => ?_⟩
    · rw [empty]
      rfl
    · rw [empty, List.splitOn_nil, List.mem_singleton] at member
      rw [member, ReadBounds.longestLine] at long
      exact absurd long (by simp only [List.length_nil]; omega)
  · have written : 0 < content.length := List.length_pos_iff.mpr empty
    have behind : (content.drop content.length).splitOn lineFeed = [] :: [] := by
      rw [List.drop_length]
      rfl
    have read : iterLinesReverse (.ofContent content) bounds =
        readBackward (.ofContent content) bounds content.length 0 [] :=
      if_neg (Nat.pos_iff_ne_zero.mp written)
    obtain ⟨yields, whole⟩ := readBackward_yields bounds 0 le_rfl behind
    have raises : ∀ {outcome : Option String}, ¬ outcome = none → outcome.isSome = true :=
      Option.isSome_iff_ne_none.mpr
    rw [read]
    refine ⟨whole, yields, readBackward_finishes le_rfl behind (Nat.zero_add _),
      fun _ exceeded => raises fun finished => ?_, fun line member long => raises fun finished => ?_⟩
    · have within := size_le_of_finished le_rfl written (Nat.zero_add _) finished
      omega
    · rw [← List.append_nil content, ← List.take_length (l := content)] at member
      have within := line_le_of_finished le_rfl List.not_mem_nil small finished line member
      omega

/-- The lines of a file include its empty ones, which no read yields. -/
theorem not_forwardLines_of_lineFeed :
    (iterLinesReverse (.ofContent [lineFeed]) {}).raised = none ∧
      (iterLinesReverse (.ofContent [lineFeed]) {}).lines ≠ (forwardLines [lineFeed]).reverse := by
  have inside : 1 ≤ ([lineFeed] : List UInt8).length := le_rfl
  have behind : (([lineFeed] : List UInt8).drop 1).splitOn lineFeed = [] :: [] := rfl
  have read : iterLinesReverse (.ofContent [lineFeed]) {} =
      readBackward (.ofContent [lineFeed]) {} 1 0 [] := rfl
  have finished : (readBackward (.ofContent [lineFeed]) {} 1 0 []).raised = none :=
    readBackward_finishes inside behind rfl (by decide) (by decide)
  have whole := (readBackward_yields {} 0 inside behind).2 finished
  rw [read]
  refine ⟨finished, fun same => ?_⟩
  have both := (congrArg (yieldedLines [] ++ ·) same).symm.trans whole
  exact absurd both (by decide)

end QueryGate
