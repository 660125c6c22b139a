import QueryGate.Foundation.Checks
import QueryGate.Foundation.Dict

/-! # JSON texts read under a recursion limit

A text is a list of code points, a unit of a surrogate pair among them where one stands
alone. The reader goes down a level for each container it enters and gives up where no
level is left, whether or not the text would turn out to be one. It takes as many steps
as there are characters (`readValue_fuel`).
-/

namespace Foundation

/-- What a JSON text spells: a number keeps its spelling, and an object keeps every entry
that is written, in order. -/
inductive JsonTree where
  | null
  | bool (value : Bool)
  | number (spelling : List Nat)
  | str (codes : List Nat)
  | list (items : List JsonTree)
  | dict (entries : List (List Nat × JsonTree))

namespace JsonTree

mutual

/-- How many containers stand one in another. -/
def depth : JsonTree → Nat
  | .list items => depthItems items + 1
  | .dict entries => depthEntries entries + 1
  | _ => 0
termination_by structural tree => tree

/-- The deepest of some items. -/
def depthItems : List JsonTree → Nat
  | [] => 0
  | item :: rest => max (depth item) (depthItems rest)
termination_by structural items => items

/-- The deepest of some entries. -/
def depthEntries : List (List Nat × JsonTree) → Nat
  | [] => 0
  | (_, value) :: rest => max (depth value) (depthEntries rest)
termination_by structural entries => entries

end

mutual

/-- The value of a tree: the last entry of a key stands. -/
def value : JsonTree → JsonTree
  | .list items => .list (valueItems items)
  | .dict entries => .dict (dictOf (valueEntries entries))
  | tree => tree
termination_by structural tree => tree

/-- The values of some items. -/
def valueItems : List JsonTree → List JsonTree
  | [] => []
  | item :: rest => value item :: valueItems rest
termination_by structural items => items

/-- The values of some entries. -/
def valueEntries : List (List Nat × JsonTree) → List (List Nat × JsonTree)
  | [] => []
  | (key, entry) :: rest => (key, value entry) :: valueEntries rest
termination_by structural entries => entries

end

/-- `tree.get(key)` of an object. -/
def get (tree : JsonTree) (key : List Nat) : Option JsonTree :=
  match tree with
  | .dict entries => dictGet entries key
  | _ => none

theorem depthEntries_le_iff {entries : List (List Nat × JsonTree)} {bound : Nat} :
    depthEntries entries ≤ bound ↔ ∀ entry ∈ entries, entry.2.depth ≤ bound := by
  induction entries with
  | nil => simp [depthEntries]
  | cons entry rest ih => simp [depthEntries, ih]

mutual

/-- A value is no deeper than what spells it. -/
theorem depth_value_le (tree : JsonTree) : tree.value.depth ≤ tree.depth :=
  match tree with
  | .null | .bool _ | .number _ | .str _ => Nat.le_refl _
  | .list items => Nat.succ_le_succ (depthItems_value_le items)
  | .dict entries => by
      have below := depthEntries_le_iff.mp (depthEntries_value_le entries)
      rw [value, depth, depth, Nat.add_le_add_iff_right, depthEntries_le_iff]
      intro entry member
      rcases mem_of_mem_foldl_dictSet member with old | kept
      · exact nomatch old
      · exact below entry kept
termination_by structural tree

theorem depthItems_value_le (items : List JsonTree) :
    depthItems (valueItems items) ≤ depthItems items :=
  match items with
  | [] => Nat.le_refl _
  | item :: rest =>
      max_le_max (depth_value_le item) (depthItems_value_le rest)
termination_by structural items

theorem depthEntries_value_le (entries : List (List Nat × JsonTree)) :
    depthEntries (valueEntries entries) ≤ depthEntries entries :=
  match entries with
  | [] => Nat.le_refl _
  | (_, tree) :: rest =>
      max_le_max (depth_value_le tree) (depthEntries_value_le rest)
termination_by structural entries

end

end JsonTree

/-! ## Reading -/

/-- Why a text is not read. -/
inductive ReadError
  | malformed
  | recursion
  | digits
  deriving DecidableEq, Repr

namespace JsonCode

/-- `"`. -/
def quote : Nat := 0x22

/-- `\`. -/
def backslash : Nat := 0x5c

/-- `[`. -/
def openList : Nat := 0x5b

/-- `]`. -/
def closeList : Nat := 0x5d

/-- `{`. -/
def openDict : Nat := 0x7b

/-- `}`. -/
def closeDict : Nat := 0x7d

/-- `,`. -/
def comma : Nat := 0x2c

/-- `:`. -/
def colon : Nat := 0x3a

end JsonCode

open JsonCode

/-- The code points of a text. -/
def codesOf (text : String) : List Nat :=
  text.toList.map Char.toNat

/-- Blanks between the tokens. -/
def isBlankCode (code : Nat) : Bool :=
  code == 0x20 || code == 0x9 || code == 0xa || code == 0xd

/-- What follows the blanks. -/
def skipBlankCodes (codes : List Nat) : List Nat :=
  codes.dropWhile isBlankCode

/-- The value of a hexadecimal digit. -/
def hexCode (code : Nat) : Option Nat :=
  if 0x30 ≤ code ∧ code ≤ 0x39 then some (code - 0x30)
  else if 0x61 ≤ code ∧ code ≤ 0x66 then some (code - 0x57)
  else if 0x41 ≤ code ∧ code ≤ 0x46 then some (code - 0x37)
  else none

/-- A code unit of four hexadecimal digits. -/
def hexUnit (a b c d : Nat) : Option Nat := do
  let first ← hexCode a
  let second ← hexCode b
  let third ← hexCode c
  let fourth ← hexCode d
  pure (first * 4096 + second * 256 + third * 16 + fourth)

/-- What an escape of one letter stands for. -/
def escapeMeaning (code : Nat) : Option Nat :=
  if code = quote ∨ code = backslash ∨ code = 0x2f then some code
  else if code = 0x62 then some 0x8
  else if code = 0x66 then some 0xc
  else if code = 0x6e then some 0xa
  else if code = 0x72 then some 0xd
  else if code = 0x74 then some 0x9
  else none

/-- A character inside a string: itself, or a code unit spelled by its digits. -/
inductive StringItem
  | plain (code : Nat)
  | unit (code : Nat)
  deriving DecidableEq, Repr

/-- The items of a string up to its closing quote; control characters have to be
escaped. -/
def readStringItems : List Nat → Option (List StringItem × List Nat)
  | [] => none
  | code :: rest =>
      if code = quote then some ([], rest)
      else if code = backslash then
        match rest with
        | [] => none
        | letter :: behind =>
            if letter = 0x75 then
              match behind with
              | a :: b :: c :: d :: more =>
                  (hexUnit a b c d).bind fun unit =>
                    (readStringItems more).map fun read => (.unit unit :: read.1, read.2)
              | _ => none
            else
              (escapeMeaning letter).bind fun meaning =>
                (readStringItems behind).map fun read => (.plain meaning :: read.1, read.2)
      else if code < 0x20 then none
      else (readStringItems rest).map fun read => (.plain code :: read.1, read.2)

/-- The code points of a string: two units that make a pair are one. -/
def joinPairs : List StringItem → List Nat
  | .unit high :: .unit low :: rest =>
      if 0xd800 ≤ high ∧ high < 0xdc00 ∧ 0xdc00 ≤ low ∧ low < 0xe000 then
        (0x10000 + (high - 0xd800) * 1024 + (low - 0xdc00)) :: joinPairs rest
      else high :: joinPairs (.unit low :: rest)
  | .unit code :: rest => code :: joinPairs rest
  | .plain code :: rest => code :: joinPairs rest
  | [] => []

/-- A decimal digit. -/
def isDigitCode (code : Nat) : Bool :=
  0x30 ≤ code && code ≤ 0x39

/-- A minus at the head. -/
def signSpelling : List Nat → List Nat
  | code :: _ => if code = 0x2d then [code] else []
  | [] => []

/-- A whole number at the head: a zero, or digits with none in front. -/
def wholeSpelling : List Nat → List Nat
  | code :: rest =>
      if code = 0x30 then [code]
      else if isDigitCode code then code :: rest.takeWhile isDigitCode
      else []
  | [] => []

/-- A point and digits at the head. -/
def fractionSpelling : List Nat → List Nat
  | code :: rest =>
      if code = 0x2e ∧ rest.takeWhile isDigitCode ≠ [] then code :: rest.takeWhile isDigitCode
      else []
  | [] => []

/-- The sign of an exponent. -/
def exponentSign : List Nat → List Nat
  | code :: _ => if code = 0x2b ∨ code = 0x2d then [code] else []
  | [] => []

/-- A letter for the exponent, a sign and digits at the head. -/
def exponentSpelling : List Nat → List Nat
  | code :: rest =>
      let sign := exponentSign rest
      let digits := (rest.drop sign.length).takeWhile isDigitCode
      if (code = 0x65 ∨ code = 0x45) ∧ digits ≠ [] then code :: (sign ++ digits) else []
  | [] => []

/-- How many digits a whole number may have. -/
def maxIntDigits : Nat := 4300

/-- A number at the head. A whole number of too many digits is refused. -/
def readNumberCodes (codes : List Nat) : Except ReadError (JsonTree × List Nat) :=
  let sign := signSpelling codes
  let unsigned := codes.drop sign.length
  let whole := wholeSpelling unsigned
  let behindWhole := unsigned.drop whole.length
  let fraction := fractionSpelling behindWhole
  let behindFraction := behindWhole.drop fraction.length
  let exponent := exponentSpelling behindFraction
  let rest := behindFraction.drop exponent.length
  if whole = [] then .error .malformed
  else if fraction = [] ∧ exponent = [] ∧ maxIntDigits < whole.length then .error .digits
  else .ok (.number (sign ++ (whole ++ (fraction ++ exponent))), rest)

/-- The words that stand for values. -/
def wordValues : List (List Nat × JsonTree) :=
  [(codesOf "null", .null), (codesOf "true", .bool true), (codesOf "false", .bool false),
    (codesOf "NaN", .number (codesOf "NaN")), (codesOf "Infinity", .number (codesOf "Infinity")),
    (codesOf "-Infinity", .number (codesOf "-Infinity"))]

/-- A word or a number at the head. -/
def readScalar (codes : List Nat) : Except ReadError (JsonTree × List Nat) :=
  match wordValues.find? fun word => word.1.isPrefixOf codes with
  | some (word, value) => .ok (value, codes.drop word.length)
  | none => readNumberCodes codes

/-- The end of a reading that cannot recurse. -/
def orMalformed {α : Type} : Option α → Except ReadError α
  | some result => .ok result
  | none => .error .malformed

/-- A key and its colon, with the blanks around it. -/
def readKey : List Nat → Option (List Nat × List Nat)
  | code :: rest =>
      if code = quote then
        (readStringItems rest).bind fun read =>
          match skipBlankCodes read.2 with
          | separator :: behind =>
              if separator = colon then some (joinPairs read.1, skipBlankCodes behind) else none
          | [] => none
      else none
  | [] => none

mutual

/-- A value at the head of a text, with so many levels left to enter. -/
def readTree (limit : Nat) : Nat → List Nat → Except ReadError (JsonTree × List Nat)
  | 0, _ => .error .malformed
  | _ + 1, [] => .error .malformed
  | fuel + 1, code :: rest =>
      if code = quote then
        orMalformed ((readStringItems rest).map fun read => (.str (joinPairs read.1), read.2))
      else if code = openList then
        if limit = 0 then .error .recursion
        else if (skipBlankCodes rest).head? = some closeList then
          .ok (.list [], (skipBlankCodes rest).tail)
        else do
          let (item, behind) ← readTree (limit - 1) fuel (skipBlankCodes rest)
          let (more, behind) ← readTreeItems (limit - 1) fuel behind
          pure (.list (item :: more), behind)
      else if code = openDict then
        if limit = 0 then .error .recursion
        else if (skipBlankCodes rest).head? = some closeDict then
          .ok (.dict [], (skipBlankCodes rest).tail)
        else do
          let (key, behind) ← orMalformed (readKey (skipBlankCodes rest))
          let (value, behind) ← readTree (limit - 1) fuel behind
          let (more, behind) ← readTreeEntries (limit - 1) fuel behind
          pure (.dict ((key, value) :: more), behind)
      else readScalar (code :: rest)
termination_by structural fuel => fuel

/-- The items after the first of a list, up to its closing bracket. -/
def readTreeItems (limit : Nat) : Nat → List Nat → Except ReadError (List JsonTree × List Nat)
  | 0, _ => .error .malformed
  | fuel + 1, codes =>
      match skipBlankCodes codes with
      | [] => .error .malformed
      | code :: rest =>
          if code = closeList then .ok ([], rest)
          else if code = comma then do
            let (item, behind) ← readTree limit fuel (skipBlankCodes rest)
            let (more, behind) ← readTreeItems limit fuel behind
            pure (item :: more, behind)
          else .error .malformed
termination_by structural fuel => fuel

/-- The entries after the first of an object, up to its closing brace. -/
def readTreeEntries (limit : Nat) :
    Nat → List Nat → Except ReadError (List (List Nat × JsonTree) × List Nat)
  | 0, _ => .error .malformed
  | fuel + 1, codes =>
      match skipBlankCodes codes with
      | [] => .error .malformed
      | code :: rest =>
          if code = closeDict then .ok ([], rest)
          else if code = comma then do
            let (key, behind) ← orMalformed (readKey (skipBlankCodes rest))
            let (value, behind) ← readTree limit fuel behind
            let (more, behind) ← readTreeEntries limit fuel behind
            pure ((key, value) :: more, behind)
          else .error .malformed
termination_by structural fuel => fuel

end

/-- The tree of a whole text. -/
def readText (limit : Nat) (codes : List Nat) : Except ReadError JsonTree := do
  let (tree, rest) ← readTree limit (codes.length + 1) (skipBlankCodes codes)
  if (skipBlankCodes rest).isEmpty then pure tree else .error .malformed

/-! ## What a text that is read looks like -/

/-- A code point that quotes, escapes, opens or closes. -/
def isStructuralCode (code : Nat) : Bool :=
  code == quote || code == backslash || code == openList || code == closeList ||
    code == openDict || code == closeDict

/-- The rest of a string behind its opening quote. -/
inductive StringBody : List Nat → Prop
  | close : StringBody [quote]
  | escaped {rest : List Nat} (code : Nat) : StringBody rest →
      StringBody (backslash :: code :: rest)
  | plain {code : Nat} {rest : List Nat} : code ≠ quote → code ≠ backslash →
      StringBody rest → StringBody (code :: rest)

/-- Text that enters no container: strings, and code points with no structure. -/
inductive Flat : List Nat → Prop
  | nil : Flat []
  | plain {code : Nat} {rest : List Nat} : isStructuralCode code = false → Flat rest →
      Flat (code :: rest)
  | string {body rest : List Nat} : StringBody body → Flat rest → Flat (quote :: (body ++ rest))

/-- Text that closes every container it opens, with so many one in another. -/
inductive Nested : Nat → List Nat → Prop
  | flat {text : List Nat} : Flat text → Nested 0 text
  | wrap {depth opener closer : Nat} {text : List Nat} :
      (opener = openList ∨ opener = openDict) → (closer = closeList ∨ closer = closeDict) →
      Nested depth text → Nested (depth + 1) (opener :: (text ++ [closer]))
  | append {first second : Nat} {front back : List Nat} :
      Nested first front → Nested second back → Nested (max first second) (front ++ back)

/-- Text that stands so many containers deep at its end. -/
inductive Enters : Nat → List Nat → Prop
  | opened {opener : Nat} : (opener = openList ∨ opener = openDict) → Enters 1 [opener]
  | inside {depth opener : Nat} {text : List Nat} : (opener = openList ∨ opener = openDict) →
      Enters depth text → Enters (depth + 1) (opener :: text)
  | behind {passed depth : Nat} {front back : List Nat} :
      Nested passed front → Enters depth back → Enters depth (front ++ back)

theorem Flat.append {front back : List Nat} (first : Flat front) (second : Flat back) :
    Flat (front ++ back) := by
  induction first with
  | nil => exact second
  | plain code _ ih => exact .plain code ih
  | string body _ ih =>
      rw [List.cons_append, List.append_assoc]
      exact .string body ih

theorem flat_of_plain {text : List Nat} (plain : ∀ code ∈ text, isStructuralCode code = false) :
    Flat text := by
  induction text with
  | nil => exact .nil
  | cons code rest ih =>
      obtain ⟨first, later⟩ := List.forall_mem_cons.mp plain
      exact .plain first (ih later)

theorem Nested.append_flat {depth : Nat} {front back : List Nat} (nested : Nested depth front)
    (flat : Flat back) : Nested depth (front ++ back) := by
  have joined := nested.append (.flat flat)
  rwa [Nat.max_zero] at joined

theorem Nested.flat_append {depth : Nat} {front back : List Nat} (flat : Flat front)
    (nested : Nested depth back) : Nested depth (front ++ back) := by
  have joined := (Nested.flat flat).append nested
  rwa [Nat.zero_max] at joined

/-- Blanks stand between the tokens and have no structure. -/
theorem exists_blanks (codes : List Nat) :
    ∃ blanks, codes = blanks ++ skipBlankCodes codes ∧ Flat blanks := by
  refine ⟨codes.takeWhile isBlankCode, List.takeWhile_append_dropWhile.symm, ?_⟩
  apply flat_of_plain
  intro code member
  have blank := List.mem_takeWhile_imp member
  simp only [isBlankCode, Bool.or_eq_true, beq_iff_eq] at blank
  rcases blank with ((rfl | rfl) | rfl) | rfl
  all_goals rfl

theorem hexCode_plain {code value : Nat} (read : hexCode code = some value) :
    code ≠ quote ∧ code ≠ backslash := by
  constructor
  · rintro rfl
    cases read
  · rintro rfl
    cases read

theorem hexUnit_plain {a b c d unit : Nat} (read : hexUnit a b c d = some unit) :
    ∀ code ∈ [a, b, c, d], code ≠ quote ∧ code ≠ backslash := by
  simp only [hexUnit, Option.bind_eq_bind, Option.bind_eq_some_iff] at read
  obtain ⟨first, readFirst, second, readSecond, third, readThird, fourth, readFourth, _⟩ := read
  simp only [List.forall_mem_cons]
  exact ⟨hexCode_plain readFirst, hexCode_plain readSecond, hexCode_plain readThird,
    hexCode_plain readFourth, nofun⟩

theorem StringBody.of_plains {front rest : List Nat}
    (plain : ∀ code ∈ front, code ≠ quote ∧ code ≠ backslash) (body : StringBody rest) :
    StringBody (front ++ rest) := by
  induction front with
  | nil => exact body
  | cons code front ih =>
      obtain ⟨first, later⟩ := List.forall_mem_cons.mp plain
      exact .plain first.1 first.2 (ih later)

theorem readStringItems_body {codes rest : List Nat} {items : List StringItem}
    (read : readStringItems codes = some (items, rest)) :
    ∃ body, codes = body ++ rest ∧ StringBody body := by
  fun_induction readStringItems codes generalizing items with
  | case1 => cases read
  | case2 behind =>
      cases read
      exact ⟨[quote], rfl, .close⟩
  | case3 => cases read
  | case4 a b c d more _ ih =>
      obtain ⟨unit, readUnit, readRest⟩ := Option.bind_eq_some_iff.mp read
      obtain ⟨⟨moreItems, _⟩, readMore, same⟩ := Option.map_eq_some_iff.mp readRest
      cases same
      obtain ⟨body, rfl, isBody⟩ := ih readMore
      exact ⟨backslash :: 0x75 :: ([a, b, c, d] ++ body), rfl,
        .escaped _ (.of_plains (hexUnit_plain readUnit) isBody)⟩
  | case5 => cases read
  | case6 letter behind _ _ ih =>
      obtain ⟨meaning, _, readRest⟩ := Option.bind_eq_some_iff.mp read
      obtain ⟨⟨moreItems, _⟩, readMore, same⟩ := Option.map_eq_some_iff.mp readRest
      cases same
      obtain ⟨body, rfl, isBody⟩ := ih readMore
      exact ⟨backslash :: letter :: body, rfl, .escaped _ isBody⟩
  | case7 => cases read
  | case8 code behind noQuote noEscape _ ih =>
      obtain ⟨⟨moreItems, _⟩, readMore, same⟩ := Option.map_eq_some_iff.mp read
      cases same
      obtain ⟨body, rfl, isBody⟩ := ih readMore
      exact ⟨code :: body, rfl, .plain noQuote noEscape isBody⟩

/-- A string with its quotes. -/
theorem readStringItems_flat {codes rest : List Nat} {items : List StringItem}
    (read : readStringItems codes = some (items, rest)) :
    ∃ text, quote :: codes = text ++ rest ∧ Flat text := by
  obtain ⟨body, rfl, isBody⟩ := readStringItems_body read
  refine ⟨quote :: (body ++ []), ?_, .string isBody .nil⟩
  rw [List.append_nil, List.cons_append]

theorem isDigitCode_plain {code : Nat} (digit : isDigitCode code = true) :
    isStructuralCode code = false := by
  simp only [isDigitCode, Bool.and_eq_true, decide_eq_true_eq] at digit
  simp only [isStructuralCode, quote, backslash, openList, closeList, openDict, closeDict,
    Bool.or_eq_false_iff, beq_eq_false_iff_ne]
  omega

/-- A part of a number stands at the head of the text and has no structure. -/
def HeadSpelling (spelling codes : List Nat) : Prop :=
  spelling ++ codes.drop spelling.length = codes ∧
    ∀ code ∈ spelling, isStructuralCode code = false

theorem headSpelling_nil (codes : List Nat) : HeadSpelling [] codes :=
  ⟨rfl, nofun⟩

theorem headSpelling_takeWhile (codes : List Nat) :
    HeadSpelling (codes.takeWhile isDigitCode) codes :=
  ⟨List.prefix_iff_eq_append.mp (List.takeWhile_prefix _), fun _ member =>
    isDigitCode_plain (List.mem_takeWhile_imp member)⟩

theorem HeadSpelling.cons {code : Nat} {spelling codes : List Nat}
    (plain : isStructuralCode code = false) (head : HeadSpelling spelling codes) :
    HeadSpelling (code :: spelling) (code :: codes) :=
  ⟨congrArg (code :: ·) head.1, List.forall_mem_cons.mpr ⟨plain, head.2⟩⟩

theorem HeadSpelling.append {front back codes : List Nat} (first : HeadSpelling front codes)
    (second : HeadSpelling back (codes.drop front.length)) :
    HeadSpelling (front ++ back) codes := by
  constructor
  · rw [List.length_append, ← List.drop_drop, List.append_assoc, second.1, first.1]
  · exact List.forall_mem_append.mpr ⟨first.2, second.2⟩

theorem signSpelling_head (codes : List Nat) : HeadSpelling (signSpelling codes) codes := by
  cases codes with
  | nil => exact headSpelling_nil _
  | cons code rest =>
      rw [signSpelling]
      split
      · rename_i minus
        exact (headSpelling_nil rest).cons (by rw [minus]; rfl)
      · exact headSpelling_nil _

theorem wholeSpelling_head (codes : List Nat) : HeadSpelling (wholeSpelling codes) codes := by
  cases codes with
  | nil => exact headSpelling_nil _
  | cons code rest =>
      rw [wholeSpelling]
      split_ifs with zero digit
      · exact (headSpelling_nil rest).cons (by rw [zero]; rfl)
      · exact (headSpelling_takeWhile rest).cons (isDigitCode_plain digit)
      · exact headSpelling_nil _

theorem fractionSpelling_head (codes : List Nat) : HeadSpelling (fractionSpelling codes) codes := by
  cases codes with
  | nil => exact headSpelling_nil _
  | cons code rest =>
      rw [fractionSpelling]
      split_ifs with point
      · exact (headSpelling_takeWhile rest).cons (by rw [point.1]; rfl)
      · exact headSpelling_nil _

theorem exponentSign_head (codes : List Nat) : HeadSpelling (exponentSign codes) codes := by
  cases codes with
  | nil => exact headSpelling_nil _
  | cons code rest =>
      rw [exponentSign]
      split_ifs with sign
      · refine (headSpelling_nil rest).cons ?_
        rcases sign with rfl | rfl
        · rfl
        · rfl
      · exact headSpelling_nil _

theorem exponentSpelling_head (codes : List Nat) : HeadSpelling (exponentSpelling codes) codes := by
  cases codes with
  | nil => exact headSpelling_nil _
  | cons code rest =>
      simp only [exponentSpelling]
      split_ifs with letter
      · refine ((exponentSign_head rest).append (headSpelling_takeWhile _)).cons ?_
        rcases letter.1 with rfl | rfl
        · rfl
        · rfl
      · exact headSpelling_nil _

theorem readNumberCodes_flat {codes rest : List Nat} {tree : JsonTree}
    (read : readNumberCodes codes = .ok (tree, rest)) :
    tree.depth = 0 ∧ ∃ text, codes = text ++ rest ∧ text ≠ [] ∧ Flat text := by
  simp only [readNumberCodes] at read
  split_ifs at read with empty tooLong
  cases read
  have head := (signSpelling_head codes).append ((wholeSpelling_head _).append
    ((fractionSpelling_head _).append (exponentSpelling_head _)))
  refine ⟨rfl, _, ?_, ?_, flat_of_plain head.2⟩
  · have split := head.1
    simp only [List.length_append, ← List.drop_drop] at split
    exact split.symm
  · intro none
    exact empty (List.append_eq_nil_iff.mp (List.append_eq_nil_iff.mp none).2).1

theorem wordValues_flat : ∀ word ∈ wordValues, word.2.depth = 0 ∧ word.1 ≠ [] ∧
    ∀ code ∈ word.1, isStructuralCode code = false := by
  simp only [wordValues, List.forall_mem_cons]
  refine ⟨⟨rfl, ?_⟩, ⟨rfl, ?_⟩, ⟨rfl, ?_⟩, ⟨rfl, ?_⟩, ⟨rfl, ?_⟩, ⟨rfl, ?_⟩, nofun⟩
  all_goals decide

theorem readScalar_flat {codes rest : List Nat} {tree : JsonTree}
    (read : readScalar codes = .ok (tree, rest)) :
    tree.depth = 0 ∧ ∃ text, codes = text ++ rest ∧ text ≠ [] ∧ Flat text := by
  rw [readScalar] at read
  split at read
  · rename_i word value found
    cases read
    obtain ⟨depth, nonempty, plain⟩ := wordValues_flat _ (List.mem_of_find?_eq_some found)
    have heads := List.find?_some found
    have starts := List.isPrefixOf_iff_prefix.mp heads
    exact ⟨depth, word, (List.prefix_iff_eq_append.mp starts).symm, nonempty, flat_of_plain plain⟩
  · exact readNumberCodes_flat read

theorem readScalar_ne_recursion (codes : List Nat) : readScalar codes ≠ .error .recursion := by
  rw [readScalar]
  split
  · exact nofun
  · simp only [readNumberCodes]
    split_ifs
    all_goals exact nofun

theorem readKey_flat {codes rest key : List Nat} (read : readKey codes = some (key, rest)) :
    ∃ text, codes = text ++ rest ∧ text ≠ [] ∧ Flat text := by
  cases codes with
  | nil => cases read
  | cons code behind =>
      rw [readKey] at read
      split_ifs at read with quoted
      subst quoted
      obtain ⟨⟨items, afterKey⟩, readItems, readColon⟩ := Option.bind_eq_some_iff.mp read
      obtain ⟨text, same, flat⟩ := readStringItems_flat readItems
      obtain ⟨blanks, split, blanksFlat⟩ := exists_blanks afterKey
      split at readColon
      · rename_i separator later found
        split_ifs at readColon with isColon
        cases readColon
        subst isColon
        obtain ⟨more, splitMore, moreFlat⟩ := exists_blanks later
        refine ⟨text ++ (blanks ++ colon :: more), ?_, ?_,
          flat.append (blanksFlat.append (.plain rfl moreFlat))⟩
        · rw [same, split, found]
          conv_lhs => rw [splitMore]
          simp only [List.append_assoc, List.cons_append]
        · simp
      · cases readColon

theorem orMalformed_eq_ok_iff {α : Type} {read : Option α} {result : α} :
    orMalformed read = .ok result ↔ read = some result := by
  cases read with
  | none => exact ⟨nofun, nofun⟩
  | some found => rw [orMalformed, Except.ok.injEq, Option.some.injEq]

theorem orMalformed_ne_recursion {α : Type} (read : Option α) :
    orMalformed read ≠ .error .recursion := by
  cases read with
  | none => exact nofun
  | some found => exact nofun

/-- A step fails where its first half does, or the second half behind it. -/
theorem bind_eq_error_iff {α β : Type} {first : Except ReadError α}
    {next : α → Except ReadError β} {reason : ReadError} :
    (first >>= next) = .error reason ↔
      first = .error reason ∨ ∃ value, first = .ok value ∧ next value = .error reason := by
  cases first with
  | error other =>
      change Except.error other = Except.error reason ↔ _
      simp
  | ok value =>
      change next value = Except.error reason ↔ _
      simp

theorem head?_cons_tail {codes : List Nat} {code : Nat} (first : codes.head? = some code) :
    codes = code :: codes.tail := by
  cases codes with
  | nil => cases first
  | cons other rest =>
      cases first
      rfl

/-- The text of an empty container. -/
theorem nested_empty {codes : List Nat} {opener closer : Nat}
    (opens : opener = openList ∨ opener = openDict)
    (closes : closer = closeList ∨ closer = closeDict)
    (first : (skipBlankCodes codes).head? = some closer) :
    ∃ text, opener :: codes = text ++ (skipBlankCodes codes).tail ∧ text ≠ [] ∧ Nested 1 text := by
  obtain ⟨blanks, split, flat⟩ := exists_blanks codes
  refine ⟨opener :: (blanks ++ [closer]), ?_, List.cons_ne_nil _ _,
    .wrap opens closes (.flat flat)⟩
  conv_lhs => rw [split, head?_cons_tail first]
  simp only [List.cons_append, List.append_assoc, List.nil_append]

mutual

/-- The text of a tree closes what it opens, and is as deep as the tree. -/
theorem readTree_nested {limit fuel : Nat} {codes rest : List Nat} {tree : JsonTree}
    (read : readTree limit fuel codes = .ok (tree, rest)) :
    ∃ text, codes = text ++ rest ∧ text ≠ [] ∧ Nested tree.depth text := by
  match fuel, codes with
  | 0, _ => rw [readTree] at read; cases read
  | _ + 1, [] => rw [readTree] at read; cases read
  | fuel + 1, code :: behind =>
      rw [readTree] at read
      split_ifs at read with quoted list noLevel emptyList dict noLevel' emptyDict
      · subst quoted
        obtain ⟨⟨items, _⟩, readItems, same⟩ :=
          Option.map_eq_some_iff.mp (orMalformed_eq_ok_iff.mp read)
        cases same
        obtain ⟨text, split, flat⟩ := readStringItems_flat readItems
        refine ⟨text, split, ?_, .flat flat⟩
        rintro rfl
        obtain ⟨body, rfl, _⟩ := readStringItems_body readItems
        exact absurd (congrArg List.length split) (by simp; omega)
      · cases read
        exact nested_empty (.inl list) (.inl rfl) emptyList
      · obtain ⟨⟨item, afterItem⟩, readItem, readMore⟩ := bind_eq_ok_iff.mp read
        obtain ⟨⟨more, afterMore⟩, readItems, same⟩ := bind_eq_ok_iff.mp readMore
        cases same
        obtain ⟨blanks, split, blanksFlat⟩ := exists_blanks behind
        obtain ⟨itemText, splitItem, _, itemNested⟩ := readTree_nested readItem
        obtain ⟨moreText, closer, splitMore, closes, moreNested⟩ := readTreeItems_nested readItems
        refine ⟨code :: ((blanks ++ (itemText ++ moreText)) ++ [closer]), ?_,
          List.cons_ne_nil _ _,
          .wrap (.inl list) closes (.flat_append blanksFlat (itemNested.append moreNested))⟩
        conv_lhs => rw [split, splitItem, splitMore]
        simp only [List.cons_append, List.append_assoc, List.nil_append]
      · cases read
        exact nested_empty (.inr dict) (.inr rfl) emptyDict
      · obtain ⟨⟨key, afterKey⟩, keyRead, readRest⟩ := bind_eq_ok_iff.mp read
        obtain ⟨⟨entry, afterEntry⟩, readEntry, readMore⟩ := bind_eq_ok_iff.mp readRest
        obtain ⟨⟨more, afterMore⟩, readMoreEntries, same⟩ := bind_eq_ok_iff.mp readMore
        cases same
        obtain ⟨blanks, split, blanksFlat⟩ := exists_blanks behind
        obtain ⟨keyText, splitKey, _, keyFlat⟩ := readKey_flat (orMalformed_eq_ok_iff.mp keyRead)
        obtain ⟨entryText, splitEntry, _, entryNested⟩ := readTree_nested readEntry
        obtain ⟨moreText, closer, splitMore, closes, moreNested⟩ :=
          readTreeEntries_nested readMoreEntries
        refine ⟨code :: ((blanks ++ (keyText ++ (entryText ++ moreText))) ++ [closer]), ?_,
          List.cons_ne_nil _ _,
          .wrap (.inr dict) closes (.flat_append blanksFlat
            (.flat_append keyFlat (entryNested.append moreNested)))⟩
        conv_lhs => rw [split, splitKey, splitEntry, splitMore]
        simp only [List.cons_append, List.append_assoc, List.nil_append]
      · obtain ⟨depth, text, split, nonempty, flat⟩ := readScalar_flat read
        exact ⟨text, split, nonempty, depth ▸ .flat flat⟩
termination_by fuel

theorem readTreeItems_nested {limit fuel : Nat} {codes rest : List Nat} {items : List JsonTree}
    (read : readTreeItems limit fuel codes = .ok (items, rest)) :
    ∃ text closer, codes = text ++ closer :: rest ∧ (closer = closeList ∨ closer = closeDict) ∧
      Nested (JsonTree.depthItems items) text := by
  match fuel with
  | 0 => rw [readTreeItems] at read; cases read
  | fuel + 1 =>
      rw [readTreeItems] at read
      obtain ⟨blanks, split, blanksFlat⟩ := exists_blanks codes
      split at read
      · cases read
      · rename_i code behind found
        rw [found] at split
        split_ifs at read with closes separates
        · cases read
          exact ⟨blanks, code, split, .inl closes, .flat blanksFlat⟩
        · obtain ⟨⟨item, afterItem⟩, readItem, readMore⟩ := bind_eq_ok_iff.mp read
          obtain ⟨⟨more, afterMore⟩, readItems, same⟩ := bind_eq_ok_iff.mp readMore
          cases same
          obtain ⟨spaces, splitSpaces, spacesFlat⟩ := exists_blanks behind
          obtain ⟨itemText, splitItem, _, itemNested⟩ := readTree_nested readItem
          obtain ⟨moreText, closer, splitMore, closing, moreNested⟩ :=
            readTreeItems_nested readItems
          refine ⟨(blanks ++ code :: spaces) ++ (itemText ++ moreText), closer, ?_, closing,
            .flat_append (blanksFlat.append (.plain (separates ▸ rfl) spacesFlat))
              (itemNested.append moreNested)⟩
          rw [split]
          conv_lhs => rw [splitSpaces, splitItem, splitMore]
          simp only [List.cons_append, List.append_assoc]
termination_by fuel

theorem readTreeEntries_nested {limit fuel : Nat} {codes rest : List Nat}
    {entries : List (List Nat × JsonTree)}
    (read : readTreeEntries limit fuel codes = .ok (entries, rest)) :
    ∃ text closer, codes = text ++ closer :: rest ∧ (closer = closeList ∨ closer = closeDict) ∧
      Nested (JsonTree.depthEntries entries) text := by
  match fuel with
  | 0 => rw [readTreeEntries] at read; cases read
  | fuel + 1 =>
      rw [readTreeEntries] at read
      obtain ⟨blanks, split, blanksFlat⟩ := exists_blanks codes
      split at read
      · cases read
      · rename_i code behind found
        rw [found] at split
        split_ifs at read with closes separates
        · cases read
          exact ⟨blanks, code, split, .inr closes, .flat blanksFlat⟩
        · obtain ⟨⟨key, afterKey⟩, keyRead, readRest⟩ := bind_eq_ok_iff.mp read
          obtain ⟨⟨entry, afterEntry⟩, readEntry, readMore⟩ := bind_eq_ok_iff.mp readRest
          obtain ⟨⟨more, afterMore⟩, readMoreEntries, same⟩ := bind_eq_ok_iff.mp readMore
          cases same
          obtain ⟨spaces, splitSpaces, spacesFlat⟩ := exists_blanks behind
          obtain ⟨keyText, splitKey, _, keyFlat⟩ := readKey_flat (orMalformed_eq_ok_iff.mp keyRead)
          obtain ⟨entryText, splitEntry, _, entryNested⟩ := readTree_nested readEntry
          obtain ⟨moreText, closer, splitMore, closing, moreNested⟩ :=
            readTreeEntries_nested readMoreEntries
          refine ⟨(blanks ++ code :: spaces) ++ (keyText ++ (entryText ++ moreText)), closer, ?_,
            closing, .flat_append (blanksFlat.append (.plain (separates ▸ rfl) spacesFlat))
              (.flat_append keyFlat (entryNested.append moreNested))⟩
          rw [split]
          conv_lhs => rw [splitSpaces, splitKey, splitEntry, splitMore]
          simp only [List.cons_append, List.append_assoc]
termination_by fuel

end

/-- Text whose head stands so many containers deep. -/
def EntersDeep (depth : Nat) (codes : List Nat) : Prop :=
  ∃ text rest, codes = text ++ rest ∧ Enters depth text

theorem EntersDeep.inside {depth opener : Nat} {codes : List Nat}
    (opens : opener = openList ∨ opener = openDict) (deep : EntersDeep depth codes) :
    EntersDeep (depth + 1) (opener :: codes) := by
  obtain ⟨text, rest, rfl, enters⟩ := deep
  exact ⟨opener :: text, rest, rfl, .inside opens enters⟩

theorem EntersDeep.behind {passed depth : Nat} {front back codes : List Nat}
    (split : codes = front ++ back) (nested : Nested passed front)
    (deep : EntersDeep depth back) : EntersDeep depth codes := by
  obtain ⟨text, rest, rfl, enters⟩ := deep
  exact ⟨front ++ text, rest, by rw [split, List.append_assoc], .behind nested enters⟩

theorem EntersDeep.behind_blanks {depth : Nat} {codes : List Nat}
    (deep : EntersDeep depth (skipBlankCodes codes)) : EntersDeep depth codes := by
  obtain ⟨blanks, split, flat⟩ := exists_blanks codes
  exact deep.behind split (.flat flat)

theorem EntersDeep.behind_code {depth code : Nat} {codes : List Nat}
    (plain : isStructuralCode code = false) (deep : EntersDeep depth codes) :
    EntersDeep depth (code :: codes) :=
  deep.behind (List.singleton_append).symm (.flat (.plain plain .nil))

/-- A level that is left is one of those that were left. -/
theorem level_of_ne_zero {limit : Nat} (left : limit ≠ 0) : limit - 1 + 1 = limit :=
  Nat.sub_add_cancel (Nat.pos_of_ne_zero left)

mutual

/-- Where no level is left, the text stands one container deeper than there were levels. -/
theorem readTree_enters {limit fuel : Nat} {codes : List Nat}
    (stopped : readTree limit fuel codes = .error .recursion) : EntersDeep (limit + 1) codes := by
  match fuel, codes with
  | 0, _ => rw [readTree] at stopped; cases stopped
  | _ + 1, [] => rw [readTree] at stopped; cases stopped
  | fuel + 1, code :: behind =>
      rw [readTree] at stopped
      split_ifs at stopped with quoted list noLevel emptyList dict noLevel' emptyDict
      · exact absurd stopped (orMalformed_ne_recursion _)
      · exact ⟨[code], behind, rfl, noLevel ▸ .opened (.inl list)⟩
      · refine .inside (.inl list) (.behind_blanks ?_)
        rw [← level_of_ne_zero noLevel]
        rcases bind_eq_error_iff.mp stopped with inItem | ⟨⟨item, afterItem⟩, readItem, later⟩
        · exact readTree_enters inItem
        · obtain ⟨itemText, splitItem, _, itemNested⟩ := readTree_nested readItem
          rcases bind_eq_error_iff.mp later with inItems | ⟨_, _, impossible⟩
          · exact (readTreeItems_enters inItems).behind splitItem itemNested
          · cases impossible
      · exact ⟨[code], behind, rfl, noLevel' ▸ .opened (.inr dict)⟩
      · refine .inside (.inr dict) (.behind_blanks ?_)
        rw [← level_of_ne_zero noLevel']
        rcases bind_eq_error_iff.mp stopped with inKey | ⟨⟨key, afterKey⟩, keyRead, later⟩
        · exact absurd inKey (orMalformed_ne_recursion _)
        · obtain ⟨keyText, splitKey, _, keyFlat⟩ := readKey_flat (orMalformed_eq_ok_iff.mp keyRead)
          refine .behind splitKey (.flat keyFlat) ?_
          rcases bind_eq_error_iff.mp later with inEntry | ⟨⟨entry, afterEntry⟩, readEntry, later⟩
          · exact readTree_enters inEntry
          · obtain ⟨entryText, splitEntry, _, entryNested⟩ := readTree_nested readEntry
            rcases bind_eq_error_iff.mp later with inEntries | ⟨_, _, impossible⟩
            · exact (readTreeEntries_enters inEntries).behind splitEntry entryNested
            · cases impossible
      · exact absurd stopped (readScalar_ne_recursion _)
termination_by fuel

theorem readTreeItems_enters {limit fuel : Nat} {codes : List Nat}
    (stopped : readTreeItems limit fuel codes = .error .recursion) :
    EntersDeep (limit + 1) codes := by
  match fuel with
  | 0 => rw [readTreeItems] at stopped; cases stopped
  | fuel + 1 =>
      rw [readTreeItems] at stopped
      refine .behind_blanks ?_
      split at stopped
      · cases stopped
      · rename_i code behind found
        rw [found]
        split_ifs at stopped with closes separates
        · refine .behind_code (separates ▸ rfl) (.behind_blanks ?_)
          rcases bind_eq_error_iff.mp stopped with inItem | ⟨⟨item, afterItem⟩, readItem, later⟩
          · exact readTree_enters inItem
          · obtain ⟨itemText, splitItem, _, itemNested⟩ := readTree_nested readItem
            rcases bind_eq_error_iff.mp later with inItems | ⟨_, _, impossible⟩
            · exact (readTreeItems_enters inItems).behind splitItem itemNested
            · cases impossible
        · cases stopped
termination_by fuel

theorem readTreeEntries_enters {limit fuel : Nat} {codes : List Nat}
    (stopped : readTreeEntries limit fuel codes = .error .recursion) :
    EntersDeep (limit + 1) codes := by
  match fuel with
  | 0 => rw [readTreeEntries] at stopped; cases stopped
  | fuel + 1 =>
      rw [readTreeEntries] at stopped
      refine .behind_blanks ?_
      split at stopped
      · cases stopped
      · rename_i code behind found
        rw [found]
        split_ifs at stopped with closes separates
        · refine .behind_code (separates ▸ rfl) (.behind_blanks ?_)
          rcases bind_eq_error_iff.mp stopped with inKey | ⟨⟨key, afterKey⟩, keyRead, later⟩
          · exact absurd inKey (orMalformed_ne_recursion _)
          · obtain ⟨keyText, splitKey, _, keyFlat⟩ :=
              readKey_flat (orMalformed_eq_ok_iff.mp keyRead)
            refine .behind splitKey (.flat keyFlat) ?_
            rcases bind_eq_error_iff.mp later with inEntry | ⟨⟨entry, afterEntry⟩, readEntry, later⟩
            · exact readTree_enters inEntry
            · obtain ⟨entryText, splitEntry, _, entryNested⟩ := readTree_nested readEntry
              rcases bind_eq_error_iff.mp later with inEntries | ⟨_, _, impossible⟩
              · exact (readTreeEntries_enters inEntries).behind splitEntry entryNested
              · cases impossible
        · cases stopped
termination_by fuel

end

/-! ## As many steps as there are characters -/

/-- What follows a text that is not empty is shorter. -/
theorem length_lt_of_split {codes text rest : List Nat} (split : codes = text ++ rest)
    (nonempty : text ≠ []) : rest.length < codes.length := by
  rw [split, List.length_append]
  exact Nat.lt_add_of_pos_left (List.length_pos_iff.mpr nonempty)

theorem length_skipBlankCodes_le (codes : List Nat) :
    (skipBlankCodes codes).length ≤ codes.length :=
  (List.dropWhile_suffix _).length_le

/-- Two readings go on alike where their first halves agree and so do the second halves
behind what was read. -/
theorem bind_congr_of_ok {α β : Type} {first second : Except ReadError α}
    {next other : α → Except ReadError β} (same : first = second)
    (onward : ∀ value, first = .ok value → next value = other value) :
    (first >>= next) = (second >>= other) := by
  subst same
  cases first with
  | error reason => rfl
  | ok value => exact onward value rfl

mutual

/-- Enough steps read the same as more. -/
theorem readTree_fuel {limit fuel more : Nat} {codes : List Nat} (enough : codes.length < fuel)
    (ample : codes.length < more) : readTree limit fuel codes = readTree limit more codes := by
  match fuel, more, codes with
  | fuel + 1, more + 1, [] => rw [readTree, readTree]
  | fuel + 1, more + 1, code :: behind =>
      have shorter := length_skipBlankCodes_le behind
      rw [List.length_cons] at enough ample
      rw [readTree, readTree]
      split_ifs
      · rfl
      · rfl
      · rfl
      · refine bind_congr_of_ok (readTree_fuel (by omega) (by omega)) ?_
        rintro ⟨item, afterItem⟩ readItem
        obtain ⟨_, split, nonempty, _⟩ := readTree_nested readItem
        have behindItem := length_lt_of_split split nonempty
        exact bind_congr_of_ok (readTreeItems_fuel (by omega) (by omega)) fun _ _ => rfl
      · rfl
      · rfl
      · refine bind_congr_of_ok rfl ?_
        rintro ⟨key, afterKey⟩ keyRead
        obtain ⟨_, split, nonempty, _⟩ := readKey_flat (orMalformed_eq_ok_iff.mp keyRead)
        have behindKey := length_lt_of_split split nonempty
        refine bind_congr_of_ok (readTree_fuel (by omega) (by omega)) ?_
        rintro ⟨entry, afterEntry⟩ readEntry
        obtain ⟨_, splitEntry, nonemptyEntry, _⟩ := readTree_nested readEntry
        have behindEntry := length_lt_of_split splitEntry nonemptyEntry
        exact bind_congr_of_ok (readTreeEntries_fuel (by omega) (by omega)) fun _ _ => rfl
      · rfl
termination_by fuel

theorem readTreeItems_fuel {limit fuel more : Nat} {codes : List Nat}
    (enough : codes.length < fuel) (ample : codes.length < more) :
    readTreeItems limit fuel codes = readTreeItems limit more codes := by
  match fuel, more with
  | fuel + 1, more + 1 =>
      have shorter := length_skipBlankCodes_le codes
      rw [readTreeItems, readTreeItems]
      split
      · rfl
      · rename_i code behind found
        rw [found, List.length_cons] at shorter
        have spaces := length_skipBlankCodes_le behind
        split_ifs
        · rfl
        · refine bind_congr_of_ok (readTree_fuel (by omega) (by omega)) ?_
          rintro ⟨item, afterItem⟩ readItem
          obtain ⟨_, split, nonempty, _⟩ := readTree_nested readItem
          have behindItem := length_lt_of_split split nonempty
          exact bind_congr_of_ok (readTreeItems_fuel (by omega) (by omega)) fun _ _ => rfl
        · rfl
termination_by fuel

theorem readTreeEntries_fuel {limit fuel more : Nat} {codes : List Nat}
    (enough : codes.length < fuel) (ample : codes.length < more) :
    readTreeEntries limit fuel codes = readTreeEntries limit more codes := by
  match fuel, more with
  | fuel + 1, more + 1 =>
      have shorter := length_skipBlankCodes_le codes
      rw [readTreeEntries, readTreeEntries]
      split
      · rfl
      · rename_i code behind found
        rw [found, List.length_cons] at shorter
        have spaces := length_skipBlankCodes_le behind
        split_ifs
        · rfl
        · refine bind_congr_of_ok rfl ?_
          rintro ⟨key, afterKey⟩ keyRead
          obtain ⟨_, split, nonempty, _⟩ := readKey_flat (orMalformed_eq_ok_iff.mp keyRead)
          have behindKey := length_lt_of_split split nonempty
          refine bind_congr_of_ok (readTree_fuel (by omega) (by omega)) ?_
          rintro ⟨entry, afterEntry⟩ readEntry
          obtain ⟨_, splitEntry, nonemptyEntry, _⟩ := readTree_nested readEntry
          have behindEntry := length_lt_of_split splitEntry nonemptyEntry
          exact bind_congr_of_ok (readTreeEntries_fuel (by omega) (by omega)) fun _ _ => rfl
        · rfl
termination_by fuel

end

/-- The text of what is read whole. -/
theorem readText_nested {limit : Nat} {codes : List Nat} {tree : JsonTree}
    (read : readText limit codes = .ok tree) : Nested tree.depth codes := by
  obtain ⟨⟨found, rest⟩, readFound, whole⟩ := bind_eq_ok_iff.mp read
  obtain ⟨blanks, split, blanksFlat⟩ := exists_blanks codes
  obtain ⟨text, splitText, _, nested⟩ := readTree_nested readFound
  obtain ⟨spaces, splitSpaces, spacesFlat⟩ := exists_blanks rest
  simp only at whole
  split_ifs at whole with ends
  cases whole
  rw [List.isEmpty_iff.mp ends, List.append_nil] at splitSpaces
  rw [split, splitText, splitSpaces]
  exact .flat_append blanksFlat (nested.append_flat spacesFlat)

/-- The text of what is given up for want of levels. -/
theorem readText_enters {limit : Nat} {codes : List Nat}
    (stopped : readText limit codes = .error .recursion) : EntersDeep (limit + 1) codes := by
  rcases bind_eq_error_iff.mp stopped with inTree | ⟨_, _, later⟩
  · exact (readTree_enters inTree).behind_blanks
  · simp only at later
    split_ifs at later
    · cases later
    · cases later

end Foundation
