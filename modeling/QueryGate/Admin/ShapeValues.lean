import QueryGate.Admin.ObservedShapes

/-! # What the skeleton sees of a value

The walk sees of a value its type. `redact` puts one value of each type under the literal
keys of a dump; the walk over the dump is the walk over what is left
(`walk_dump_eq_redact`), and from one skeleton the places that hold a value can be read off
again (`redact_eq_of_walk`).
-/

namespace QueryGate

open Foundation

/-! ## Values of one type -/

/-- The type of a scalar; a number that is not kept has none. -/
def scalarType (keeps : PyFloat → Bool) : Dumped → Option ParameterType
  | .bool _ => some .boolean
  | .int _ => some .integer
  | .float value => if keeps value then some .number else none
  | .str _ => some .string
  | _ => none

/-- The one type of all the items of a list that is not empty. -/
def uniformType (keeps : PyFloat → Bool) : List Dumped → Option ParameterType
  | [] => none
  | first :: rest =>
      if rest.all fun item => scalarType keeps item == scalarType keeps first then
        scalarType keeps first
      else none

/-- One value of a type. -/
def ParameterType.blank : ParameterType → Dumped
  | .boolean => .bool false
  | .integer => .int 0
  | .number => .float ⟨0⟩
  | .string => .str ""

/-- A value of the same type: scalars and lists of scalars lose their content, and of any
other value the numbers that are not kept become null. -/
def redactValue (keeps : PyFloat → Bool) (value : Dumped) : Dumped :=
  match scalarType keeps value with
  | some type => type.blank
  | none =>
      match value with
      | .list items =>
          match uniformType keeps items with
          | some type => .list [type.blank]
          | none => nullFloats keeps (.list items)
      | value => nullFloats keeps value

section Redact

variable (numbers : NumberDump)

mutual

/-- A dump with every value under a literal key redacted, and free text left out. -/
def redact : Dumped → Dumped
  | .list items => .list (redactItems items)
  | .dict entries => .dict (redactEntries entries)
  | value => value
termination_by structural value => value

/-- The items of a list. -/
def redactItems : List Dumped → List Dumped
  | [] => []
  | item :: rest => redact item :: redactItems rest
termination_by structural items => items

/-- The entries of an object. -/
def redactEntries : List (String × Dumped) → List (String × Dumped)
  | [] => []
  | (key, value) :: rest =>
      (key, if key ∈ droppedKeys then .null
        else if key ∈ literalKeys then redactValue (numbers.keeps key) value
        else redact value) :: redactEntries rest
termination_by structural entries => entries

end

end Redact

/-- Every number is kept. -/
def NumberDump.keepAll : NumberDump where
  any := fun _ => true
  typed := fun _ => true

@[simp] theorem keeps_keepAll (key : String) :
    NumberDump.keepAll.keeps key = fun _ => true := by
  simp only [NumberDump.keeps, NumberDump.keepAll]
  split_ifs
  all_goals rfl

/-! ## The types of redacted values -/

theorem paramTypeOf_blank (type : ParameterType) : paramTypeOf type.blank = .ok (type, false) := by
  cases type
  all_goals rfl

theorem paramTypeOf_blank_list (type : ParameterType) :
    paramTypeOf (.list [type.blank]) = .ok (type, true) := by
  cases type
  all_goals rfl

theorem paramTypeOf_of_scalarType {keeps : PyFloat → Bool} {value : Dumped}
    {type : ParameterType} (scalar : scalarType keeps value = some type) :
    paramTypeOf (nullFloats keeps value) = .ok (type, false) := by
  cases value with
  | null | list | dict => cases scalar
  | bool | int | str =>
      cases scalar
      rfl
  | float value =>
      rw [scalarType] at scalar
      split_ifs at scalar with kept
      cases scalar
      rw [nullFloats, if_pos kept]
      rfl

theorem elementTypes_of_all {keeps : PyFloat → Bool} {items : List Dumped} {type : ParameterType}
    (all : ∀ item ∈ items, scalarType keeps item = some type) :
    elementTypes (nullFloatsItems keeps items) = .ok (List.replicate items.length type) := by
  induction items with
  | nil => rfl
  | cons item rest ih =>
      obtain ⟨first, later⟩ := List.forall_mem_cons.mp all
      rw [nullFloatsItems, elementTypes, paramTypeOf_of_scalarType first, ih later]
      rfl

theorem uniformType_eq_some {keeps : PyFloat → Bool} {items : List Dumped}
    {type : ParameterType} (uniform : uniformType keeps items = some type) :
    items ≠ [] ∧ ∀ item ∈ items, scalarType keeps item = some type := by
  cases items with
  | nil => cases uniform
  | cons first rest =>
      rw [uniformType] at uniform
      split_ifs at uniform with all
      refine ⟨List.cons_ne_nil _ _, List.forall_mem_cons.mpr ⟨uniform, fun item member => ?_⟩⟩
      rw [beq_iff_eq.mp (List.all_eq_true.mp all item member), uniform]

theorem filter_replicate (type : ParameterType) (count : Nat) :
    ParameterType.sorted.filter (type :: List.replicate count type).contains = [type] := by
  have only : (type :: List.replicate count type).contains = fun other => other == type := by
    funext other
    rw [← List.replicate_succ, List.contains_replicate]
    simp
  rw [only]
  cases type
  all_goals rfl

theorem paramTypeOf_of_uniformType {keeps : PyFloat → Bool} {items : List Dumped}
    {type : ParameterType} (uniform : uniformType keeps items = some type) :
    paramTypeOf (nullFloats keeps (.list items)) = .ok (type, true) := by
  obtain ⟨nonempty, all⟩ := uniformType_eq_some uniform
  cases items with
  | nil => exact absurd rfl nonempty
  | cons first rest =>
      obtain ⟨isType, later⟩ := List.forall_mem_cons.mp all
      rw [nullFloats, nullFloatsItems, paramTypeOf, paramTypeOf_of_scalarType isType,
        elementTypes_of_all later]
      simp only [bind, Except.bind]
      rw [filter_replicate]

/-- A redacted value has the type of the value that is dumped. -/
theorem paramTypeOf_redactValue (keeps : PyFloat → Bool) (value : Dumped) :
    paramTypeOf (redactValue keeps value) = paramTypeOf (nullFloats keeps value) := by
  unfold redactValue
  split
  · rename_i type scalar
    rw [paramTypeOf_blank, paramTypeOf_of_scalarType scalar]
  · split
    · split
      · rename_i type uniform
        rw [paramTypeOf_blank_list, paramTypeOf_of_uniformType uniform]
      · rfl
    · rfl

theorem blank_ne_null (type : ParameterType) : type.blank ≠ .null := by
  cases type
  all_goals exact nofun

/-- A value is redacted to a null where it is dumped as one. -/
theorem redactValue_eq_null_iff (keeps : PyFloat → Bool) (value : Dumped) :
    redactValue keeps value = .null ↔ nullFloats keeps value = .null := by
  unfold redactValue
  split
  · rename_i type scalar
    refine ⟨fun isNull => absurd isNull (blank_ne_null type), fun isNull => ?_⟩
    have typed := paramTypeOf_of_scalarType scalar
    rw [isNull] at typed
    cases typed
  · split
    · split
      · exact ⟨nofun, nofun⟩
      · exact Iff.rfl
    · exact Iff.rfl

mutual

/-- Fields that are left out of the objects in a value do not change its type. -/
theorem paramTypeOf_excludeNone (keeps : PyFloat → Bool) : ∀ value : Dumped,
    paramTypeOf (nullFloats keeps (excludeNone value)) = paramTypeOf (nullFloats keeps value)
  | .list [] => rfl
  | .list (item :: rest) => by
      simp only [excludeNone, excludeNoneItems, nullFloats, nullFloatsItems, paramTypeOf]
      rw [paramTypeOf_excludeNone keeps item, elementTypes_excludeNone keeps rest]
  | .dict _ => rfl
  | .null => rfl
  | .bool _ => rfl
  | .int _ => rfl
  | .float _ => rfl
  | .str _ => rfl
termination_by structural value => value

theorem elementTypes_excludeNone (keeps : PyFloat → Bool) : ∀ items : List Dumped,
    elementTypes (nullFloatsItems keeps (excludeNoneItems items)) =
      elementTypes (nullFloatsItems keeps items)
  | [] => rfl
  | item :: rest => by
      simp only [excludeNoneItems, nullFloatsItems, elementTypes]
      rw [paramTypeOf_excludeNone keeps item, elementTypes_excludeNone keeps rest]
termination_by structural items => items

end

mutual

/-- The numbers in the objects of a value do not change its type. -/
theorem paramTypeOf_dumpNumbers (numbers : NumberDump) : ∀ value : Dumped,
    paramTypeOf (dumpNumbers numbers value) = paramTypeOf value
  | .list [] => rfl
  | .list (item :: rest) => by
      simp only [dumpNumbers, dumpNumbersItems, paramTypeOf]
      rw [paramTypeOf_dumpNumbers numbers item, elementTypes_dumpNumbers numbers rest]
  | .dict _ => rfl
  | .null => rfl
  | .bool _ => rfl
  | .int _ => rfl
  | .float _ => rfl
  | .str _ => rfl
termination_by structural value => value

theorem elementTypes_dumpNumbers (numbers : NumberDump) : ∀ items : List Dumped,
    elementTypes (dumpNumbersItems numbers items) = elementTypes items
  | [] => rfl
  | item :: rest => by
      simp only [dumpNumbersItems, elementTypes]
      rw [paramTypeOf_dumpNumbers numbers item, elementTypes_dumpNumbers numbers rest]
termination_by structural items => items

end

mutual

theorem nullFloats_all : ∀ value : Dumped, nullFloats (fun _ => true) value = value
  | .list items => congrArg Json.list (nullFloatsItems_all items)
  | .dict entries => congrArg Json.dict (nullFloatsEntries_all entries)
  | .null => rfl
  | .bool _ => rfl
  | .int _ => rfl
  | .float _ => rfl
  | .str _ => rfl
termination_by structural value => value

theorem nullFloatsItems_all : ∀ items : List Dumped,
    nullFloatsItems (fun _ => true) items = items
  | [] => rfl
  | item :: rest => by rw [nullFloatsItems, nullFloats_all item, nullFloatsItems_all rest]
termination_by structural items => items

theorem nullFloatsEntries_all : ∀ entries : List (String × Dumped),
    nullFloatsEntries (fun _ => true) entries = entries
  | [] => rfl
  | (_, value) :: rest => by
      rw [nullFloatsEntries, nullFloats_all value, nullFloatsEntries_all rest]
termination_by structural entries => entries

end

/-! ## The walk over a redacted dump -/

/-- A value as it stands in the dump that is walked. -/
def dumpedField (numbers : NumberDump) (key : String) (value : Dumped) : Dumped :=
  if key ∈ numberFields then nullFloats (numbers.keeps key) (excludeNone value)
  else dumpNumbers numbers (excludeNone value)

theorem dumpedField_null (numbers : NumberDump) (key : String) :
    dumpedField numbers key .null = .null := by
  unfold dumpedField
  split_ifs
  all_goals rfl

/-- The value under a literal key has the type of its redaction. -/
theorem paramTypeOf_dumpedField (numbers : NumberDump) (key : String) (value : Dumped) :
    paramTypeOf (dumpedField numbers key value) =
      paramTypeOf (redactValue (numbers.keeps key) value) := by
  rw [paramTypeOf_redactValue]
  unfold dumpedField
  split_ifs with field
  · exact paramTypeOf_excludeNone _ value
  · have kept : numbers.keeps key = fun _ => true := by
      have notValue : key ≠ "value" := fun same => field (same ▸ List.mem_cons_self ..)
      rw [NumberDump.keeps, if_neg notValue, if_neg field]
    rw [paramTypeOf_dumpNumbers, kept, ← paramTypeOf_excludeNone, nullFloats_all]

theorem dumpedField_eq_null_iff (numbers : NumberDump) (key : String) (value : Dumped) :
    dumpedField numbers key value = .null ↔ redactValue (numbers.keeps key) value = .null := by
  rw [redactValue_eq_null_iff]
  unfold dumpedField
  split_ifs with field
  · cases value with
    | list items => exact ⟨nofun, nofun⟩
    | dict entries => exact ⟨nofun, nofun⟩
    | null | bool | int | float | str => exact Iff.rfl
  · have kept : numbers.keeps key = fun _ => true := by
      have notValue : key ≠ "value" := fun same => field (same ▸ List.mem_cons_self ..)
      rw [NumberDump.keeps, if_neg notValue, if_neg field]
    rw [kept, nullFloats_all]
    cases value with
    | list items => exact ⟨nofun, nofun⟩
    | dict entries => exact ⟨nofun, nofun⟩
    | null | bool | int | float | str => exact Iff.rfl

theorem excludeNone_ne_null {value : Dumped} (present : value ≠ .null) :
    excludeNone value ≠ .null := by
  cases value with
  | null => exact absurd rfl present
  | bool | int | float | str | list | dict => exact nofun

theorem excludeNoneEntries_cons {key : String} {value : Dumped}
    {rest : List (String × Dumped)} (present : value ≠ .null) :
    excludeNoneEntries ((key, value) :: rest) =
      (key, excludeNone value) :: excludeNoneEntries rest := by
  cases value with
  | null => exact absurd rfl present
  | bool | int | float | str | list | dict => rfl

/-- The next slot of a walk. -/
theorem walkEntries_literal {hint : Option String} {key : String} {value : Dumped}
    {rest : List (String × Dumped)} {allocator : ParameterAllocator} (kept : key ∉ droppedKeys)
    (literal : key ∈ literalKeys) (present : value ≠ .null) :
    walkEntries hint ((key, value) :: rest) allocator = (do
      let type ← paramTypeOf value
      let (name, allocator) := allocator.allot (slotHint hint key) type
      let (others, allocator) ← walkEntries hint rest allocator
      pure ((key, placeholder name) :: others, allocator)) := by
  cases value with
  | null => exact absurd rfl present
  | bool | int | float | str | list | dict =>
      simp only [walkEntries, if_neg kept, if_pos literal, ParameterAllocator.allocate, bind_assoc,
        pure_bind]

theorem walkEntries_plain {hint : Option String} {key : String} {value : Dumped}
    {rest : List (String × Dumped)} {allocator : ParameterAllocator} (kept : key ∉ droppedKeys)
    (plain : key ∉ literalKeys) :
    walkEntries hint ((key, value) :: rest) allocator = (do
      let (first, allocator) ← walk hint value allocator
      let (others, allocator) ← walkEntries hint rest allocator
      pure ((key, first) :: others, allocator)) := by
  cases value with
  | null | bool | int | float | str | list | dict =>
      simp only [walkEntries, if_neg kept, if_neg plain]

theorem redact_eq_null_iff {numbers : NumberDump} {value : Dumped} :
    redact numbers value = .null ↔ value = .null := by
  cases value with
  | list items => exact ⟨nofun, nofun⟩
  | dict entries => exact ⟨nofun, nofun⟩
  | null | bool | int | float | str => exact Iff.rfl

theorem localHint_cons_of_ne {hint : Option String} {key : String} {value : Dumped}
    {rest : List (String × Dumped)} (other : key ≠ "col") :
    localHint hint ((key, value) :: rest) = localHint hint rest := by
  rw [localHint, dictGet, if_neg other, localHint]

/-- The column that names the slots is no value. -/
theorem localHint_redact (numbers : NumberDump) (hint : Option String)
    (entries : List (String × Dumped)) :
    localHint hint (dumpNumbersEntries numbers (excludeNoneEntries entries)) =
      localHint hint (excludeNoneEntries (redactEntries numbers entries)) := by
  induction entries with
  | nil => rfl
  | cons entry rest ih =>
      obtain ⟨key, value⟩ := entry
      by_cases col : key = "col"
      · subst col
        have plain : (if "col" ∈ droppedKeys then Json.null
            else if "col" ∈ literalKeys then redactValue (numbers.keeps "col") value
            else redact numbers value) = redact numbers value := rfl
        rw [redactEntries, plain]
        cases value with
        | null => exact ih
        | bool | int | float | str | list | dict => rfl
      · have dumped : localHint hint
            (dumpNumbersEntries numbers (excludeNoneEntries ((key, value) :: rest))) =
              localHint hint (dumpNumbersEntries numbers (excludeNoneEntries rest)) := by
          cases value with
          | null => rfl
          | bool | int | float | str | list | dict => exact localHint_cons_of_ne col
        have redacted : ∀ other : Dumped,
            localHint hint (excludeNoneEntries ((key, other) :: redactEntries numbers rest)) =
              localHint hint (excludeNoneEntries (redactEntries numbers rest)) := by
          intro other
          cases other with
          | null => rfl
          | bool | int | float | str | list | dict => exact localHint_cons_of_ne col
        rw [dumped, ih, redactEntries, redacted]

theorem walkEntries_null {hint : Option String} {key : String} {rest : List (String × Dumped)}
    {allocator : ParameterAllocator} (literal : key ∈ literalKeys) :
    walkEntries hint ((key, .null) :: rest) allocator = walkEntries hint rest allocator := by
  simp only [walkEntries, if_pos literal, ite_self]

theorem walkEntries_dropped {hint : Option String} {key : String} {value : Dumped}
    {rest : List (String × Dumped)} {allocator : ParameterAllocator}
    (dropped : key ∈ droppedKeys) :
    walkEntries hint ((key, value) :: rest) allocator = walkEntries hint rest allocator := by
  cases value with
  | null | bool | int | float | str | list | dict => simp only [walkEntries, if_pos dropped]

theorem dumpNumbersEntries_cons {numbers : NumberDump} {key : String} {value : Dumped}
    {rest : List (String × Dumped)} (present : value ≠ .null) :
    dumpNumbersEntries numbers (excludeNoneEntries ((key, value) :: rest)) =
      (key, dumpedField numbers key value) ::
        dumpNumbersEntries numbers (excludeNoneEntries rest) := by
  rw [excludeNoneEntries_cons present, dumpNumbersEntries]
  rfl

theorem paramTypeOf_excluded (value : Dumped) :
    paramTypeOf (excludeNone value) = paramTypeOf value := by
  have same := paramTypeOf_excludeNone (fun _ => true) value
  rwa [nullFloats_all, nullFloats_all] at same

theorem numberFields_literal {key : String} (plain : key ∉ literalKeys) : key ∉ numberFields := by
  intro field
  apply plain
  simp only [numberFields, List.mem_cons, List.not_mem_nil, or_false] at field
  rcases field with rfl | rfl | rfl
  all_goals decide

mutual

/-- The walk sees nothing of a dump but what is left once its values are redacted. -/
theorem walk_dump_eq_redact (numbers : NumberDump) : ∀ (value : Dumped) (hint : Option String)
    (allocator : ParameterAllocator),
    walk hint (dumpNumbers numbers (excludeNone value)) allocator =
      walk hint (excludeNone (redact numbers value)) allocator
  | .list items => fun hint allocator => by
      rw [excludeNone, dumpNumbers, redact, excludeNone, walk, walk,
        walkItems_dump_eq_redact numbers items]
  | .dict entries => fun hint allocator => by
      rw [excludeNone, dumpNumbers, redact, excludeNone, walk, walk, localHint_redact,
        walkEntries_dump_eq_redact numbers entries]
  | .null => fun _ _ => rfl
  | .bool _ => fun _ _ => rfl
  | .int _ => fun _ _ => rfl
  | .float _ => fun _ _ => rfl
  | .str _ => fun _ _ => rfl
termination_by structural value => value

theorem walkItems_dump_eq_redact (numbers : NumberDump) : ∀ (items : List Dumped)
    (hint : Option String) (allocator : ParameterAllocator),
    walkItems hint (dumpNumbersItems numbers (excludeNoneItems items)) allocator =
      walkItems hint (excludeNoneItems (redactItems numbers items)) allocator
  | [] => fun _ _ => rfl
  | item :: rest => fun hint allocator => by
      simp only [excludeNoneItems, dumpNumbersItems, redactItems, walkItems,
        walk_dump_eq_redact numbers item, walkItems_dump_eq_redact numbers rest]
termination_by structural items => items

theorem walkEntries_dump_eq_redact (numbers : NumberDump) :
    ∀ (entries : List (String × Dumped)) (hint : Option String)
      (allocator : ParameterAllocator),
    walkEntries hint (dumpNumbersEntries numbers (excludeNoneEntries entries)) allocator =
      walkEntries hint (excludeNoneEntries (redactEntries numbers entries)) allocator
  | [] => fun _ _ => rfl
  | (key, value) :: rest => fun hint allocator => by
      have later := walkEntries_dump_eq_redact numbers rest hint
      by_cases dropped : key ∈ droppedKeys
      · rw [redactEntries, if_pos dropped, excludeNoneEntries, ← later]
        cases value with
        | null => rfl
        | bool | int | float | str | list | dict =>
            rw [excludeNoneEntries, dumpNumbersEntries, walkEntries_dropped dropped]
            exact nofun
      · by_cases literal : key ∈ literalKeys
        · rw [redactEntries, if_neg dropped, if_pos literal]
          by_cases absent : value = .null
          · subst absent
            exact later allocator
          · rw [dumpNumbersEntries_cons absent]
            by_cases nulled : redactValue (numbers.keeps key) value = .null
            · rw [nulled, (dumpedField_eq_null_iff numbers key value).mpr nulled,
                walkEntries_null literal]
              exact later allocator
            · have present := mt (dumpedField_eq_null_iff numbers key value).mp nulled
              rw [excludeNoneEntries_cons nulled, walkEntries_literal dropped literal present,
                walkEntries_literal dropped literal (excludeNone_ne_null nulled),
                paramTypeOf_dumpedField, paramTypeOf_excluded]
              simp only [later]
        · rw [redactEntries, if_neg dropped, if_neg literal]
          by_cases absent : value = .null
          · subst absent
            exact later allocator
          · rw [dumpNumbersEntries_cons absent,
              excludeNoneEntries_cons (mt redact_eq_null_iff.mp absent),
              walkEntries_plain dropped literal, walkEntries_plain dropped literal, dumpedField,
              if_neg (numberFields_literal literal), walk_dump_eq_redact numbers value]
            simp only [later]
termination_by structural entries => entries

end

/-! ## Where the walk fails -/

mutual

/-- Whether a value stands under a literal key that no parameter can take. -/
def hasUntyped : Dumped → Bool
  | .list items => itemsUntyped items
  | .dict entries => entriesUntyped entries
  | _ => false
termination_by structural value => value

/-- The items of a list. -/
def itemsUntyped : List Dumped → Bool
  | [] => false
  | item :: rest => hasUntyped item || itemsUntyped rest
termination_by structural items => items

/-- The entries of an object. -/
def entriesUntyped : List (String × Dumped) → Bool
  | [] => false
  | (key, value) :: rest =>
      if key ∈ droppedKeys then entriesUntyped rest
      else if key ∈ literalKeys then
        match value with
        | .null => entriesUntyped rest
        | value => !accepts (paramTypeOf value) || entriesUntyped rest
      else hasUntyped value || entriesUntyped rest
termination_by structural entries => entries

end

theorem accepts_bind {ε α β : Type} {first : Except ε α} {next : α → Except ε β} {tail : Bool}
    (onward : ∀ value, accepts (next value) = tail) :
    accepts (first >>= next) = (accepts first && tail) := by
  cases first with
  | error failure => rfl
  | ok value =>
      change accepts (next value) = (true && tail)
      rw [onward, Bool.true_and]

theorem accepts_bind_quiet {ε α β : Type} {first : Except ε α} {next : α → Except ε β}
    (quiet : ∀ value, accepts (next value) = true) : accepts (first >>= next) = accepts first :=
  (accepts_bind quiet).trans (Bool.and_true _)

mutual

theorem accepts_walk : ∀ (value : Dumped) (hint : Option String)
    (allocator : ParameterAllocator), accepts (walk hint value allocator) = !hasUntyped value
  | .list items => fun hint allocator => by
      rw [walk]
      exact (accepts_bind_quiet fun _ => rfl).trans (accepts_walkItems items hint allocator)
  | .dict entries => fun hint allocator => by
      rw [walk]
      exact (accepts_bind_quiet fun _ => rfl).trans (accepts_walkEntries entries _ allocator)
  | .null => fun _ _ => rfl
  | .bool _ => fun _ _ => rfl
  | .int _ => fun _ _ => rfl
  | .float _ => fun _ _ => rfl
  | .str _ => fun _ _ => rfl
termination_by structural value => value

theorem accepts_walkItems : ∀ (items : List Dumped) (hint : Option String)
    (allocator : ParameterAllocator),
    accepts (walkItems hint items allocator) = !itemsUntyped items
  | [] => fun _ _ => rfl
  | item :: rest => fun hint allocator => by
      rw [walkItems, itemsUntyped, Bool.not_or, ← accepts_walk item hint allocator]
      apply accepts_bind
      intro walked
      exact (accepts_bind_quiet fun _ => rfl).trans (accepts_walkItems rest hint _)
termination_by structural items => items

theorem accepts_walkEntries : ∀ (entries : List (String × Dumped)) (hint : Option String)
    (allocator : ParameterAllocator),
    accepts (walkEntries hint entries allocator) = !entriesUntyped entries
  | [] => fun _ _ => rfl
  | (key, value) :: rest => fun hint allocator => by
      have later := accepts_walkEntries rest hint
      by_cases dropped : key ∈ droppedKeys
      · simp only [walkEntries, entriesUntyped, if_pos dropped]
        exact later allocator
      · by_cases literal : key ∈ literalKeys
        · by_cases absent : value = .null
          · subst absent
            rw [walkEntries_null literal]
            simp only [entriesUntyped, if_neg dropped, if_pos literal]
            exact later allocator
          · have untyped : entriesUntyped ((key, value) :: rest) =
                (!accepts (paramTypeOf value) || entriesUntyped rest) := by
              cases value with
              | null => exact absurd rfl absent
              | bool | int | float | str | list | dict =>
                  simp only [entriesUntyped, if_neg dropped, if_pos literal]
            rw [walkEntries_literal dropped literal absent, untyped, Bool.not_or, Bool.not_not]
            apply accepts_bind
            intro type
            exact (accepts_bind_quiet fun _ => rfl).trans (later _)
        · rw [walkEntries_plain dropped literal]
          simp only [entriesUntyped, if_neg dropped, if_neg literal]
          rw [Bool.not_or, ← accepts_walk value hint allocator]
          apply accepts_bind
          intro walked
          exact (accepts_bind_quiet fun _ => rfl).trans (later _)
termination_by structural entries => entries

end

/-! ## What the walk puts out -/

theorem walk_list_eq_ok {hint : Option String} {items : List Dumped} {out : Dumped}
    {allocator after : ParameterAllocator}
    (walked : walk hint (.list items) allocator = .ok (out, after)) :
    ∃ outs, walkItems hint items allocator = .ok (outs, after) ∧ out = .list outs := by
  rw [walk] at walked
  obtain ⟨⟨outs, _⟩, inItems, same⟩ := bind_eq_ok_iff.mp walked
  cases same
  exact ⟨outs, inItems, rfl⟩

theorem walk_dict_eq_ok {hint : Option String} {entries : List (String × Dumped)} {out : Dumped}
    {allocator after : ParameterAllocator}
    (walked : walk hint (.dict entries) allocator = .ok (out, after)) :
    ∃ outs, walkEntries (localHint hint entries) entries allocator = .ok (outs, after) ∧
      out = .dict outs := by
  rw [walk] at walked
  obtain ⟨⟨outs, _⟩, inEntries, same⟩ := bind_eq_ok_iff.mp walked
  cases same
  exact ⟨outs, inEntries, rfl⟩

theorem walkItems_cons_eq_ok {hint : Option String} {item : Dumped} {rest outs : List Dumped}
    {allocator after : ParameterAllocator}
    (walked : walkItems hint (item :: rest) allocator = .ok (outs, after)) :
    ∃ out between others, walk hint item allocator = .ok (out, between) ∧
      walkItems hint rest between = .ok (others, after) ∧ outs = out :: others := by
  rw [walkItems] at walked
  obtain ⟨⟨out, between⟩, first, later⟩ := bind_eq_ok_iff.mp walked
  obtain ⟨⟨others, _⟩, inRest, same⟩ := bind_eq_ok_iff.mp later
  cases same
  exact ⟨out, between, others, first, inRest, rfl⟩

theorem walkEntries_plain_eq_ok {hint : Option String} {key : String} {value : Dumped}
    {rest outs : List (String × Dumped)} {allocator after : ParameterAllocator}
    (kept : key ∉ droppedKeys) (plain : key ∉ literalKeys)
    (walked : walkEntries hint ((key, value) :: rest) allocator = .ok (outs, after)) :
    ∃ out between others, walk hint value allocator = .ok (out, between) ∧
      walkEntries hint rest between = .ok (others, after) ∧ outs = (key, out) :: others := by
  rw [walkEntries_plain kept plain] at walked
  obtain ⟨⟨out, between⟩, first, later⟩ := bind_eq_ok_iff.mp walked
  obtain ⟨⟨others, _⟩, inRest, same⟩ := bind_eq_ok_iff.mp later
  cases same
  exact ⟨out, between, others, first, inRest, rfl⟩

theorem walkEntries_literal_eq_ok {hint : Option String} {key : String} {value : Dumped}
    {rest outs : List (String × Dumped)} {allocator after : ParameterAllocator}
    (kept : key ∉ droppedKeys) (literal : key ∈ literalKeys) (present : value ≠ .null)
    (walked : walkEntries hint ((key, value) :: rest) allocator = .ok (outs, after)) :
    ∃ type name between others, paramTypeOf value = .ok type ∧
      walkEntries hint rest between = .ok (others, after) ∧
        outs = (key, placeholder name) :: others := by
  rw [walkEntries_literal kept literal present] at walked
  obtain ⟨type, typed, later⟩ := bind_eq_ok_iff.mp walked
  obtain ⟨⟨others, _⟩, inRest, same⟩ := bind_eq_ok_iff.mp later
  cases same
  exact ⟨type, _, _, others, typed, inRest, rfl⟩

mutual

/-- No value survives the walk. -/
theorem assertNoLiteralSurvived_walk : ∀ {value out : Dumped} {hint : Option String}
    {allocator after : ParameterAllocator}, walk hint value allocator = .ok (out, after) →
      assertNoLiteralSurvived out = .ok ()
  | .list items => fun walked => by
      obtain ⟨outs, inItems, rfl⟩ := walk_list_eq_ok walked
      exact assertItems_walk inItems
  | .dict entries => fun walked => by
      obtain ⟨outs, inEntries, rfl⟩ := walk_dict_eq_ok walked
      exact assertEntries_walk inEntries
  | .null | .bool _ | .int _ | .float _ | .str _ => fun walked => by
      cases walked
      rfl
termination_by structural value => value

theorem assertItems_walk : ∀ {items outs : List Dumped} {hint : Option String}
    {allocator after : ParameterAllocator}, walkItems hint items allocator = .ok (outs, after) →
      assertItems outs = .ok ()
  | [] => fun walked => by
      cases walked
      rfl
  | item :: rest => fun walked => by
      obtain ⟨out, between, others, first, later, rfl⟩ := walkItems_cons_eq_ok walked
      rw [assertItems, assertNoLiteralSurvived_walk first]
      exact assertItems_walk later
termination_by structural items => items

theorem assertEntries_walk : ∀ {entries outs : List (String × Dumped)} {hint : Option String}
    {allocator after : ParameterAllocator},
    walkEntries hint entries allocator = .ok (outs, after) → assertEntries outs = .ok ()
  | [] => fun walked => by
      cases walked
      rfl
  | (key, value) :: rest => fun walked => by
      by_cases dropped : key ∈ droppedKeys
      · rw [walkEntries_dropped dropped] at walked
        exact assertEntries_walk walked
      · by_cases literal : key ∈ literalKeys
        · by_cases absent : value = .null
          · subst absent
            rw [walkEntries_null literal] at walked
            exact assertEntries_walk walked
          · obtain ⟨type, name, between, others, _, later, rfl⟩ :=
              walkEntries_literal_eq_ok dropped literal absent walked
            rw [assertEntries, if_neg dropped, if_pos literal,
              if_pos (show isPlaceholder (placeholder name) = true from rfl)]
            exact assertEntries_walk later
        · obtain ⟨out, between, others, first, later, rfl⟩ :=
            walkEntries_plain_eq_ok dropped literal walked
          rw [assertEntries, if_neg dropped, if_neg literal, assertNoLiteralSurvived_walk first]
          exact assertEntries_walk later
termination_by structural entries => entries

end

theorem keys_walkEntries : ∀ {entries outs : List (String × Dumped)} {hint : Option String}
    {allocator after : ParameterAllocator},
    walkEntries hint entries allocator = .ok (outs, after) →
      ∀ key ∈ dictKeys outs, key ∈ dictKeys entries := by
  intro entries
  induction entries with
  | nil =>
      intro outs hint allocator after walked key member
      cases walked
      cases member
  | cons entry rest ih =>
      obtain ⟨name, value⟩ := entry
      intro outs hint allocator after walked key member
      by_cases dropped : name ∈ droppedKeys
      · rw [walkEntries_dropped dropped] at walked
        exact List.mem_cons_of_mem _ (ih walked key member)
      · by_cases literal : name ∈ literalKeys
        · by_cases absent : value = .null
          · subst absent
            rw [walkEntries_null literal] at walked
            exact List.mem_cons_of_mem _ (ih walked key member)
          · obtain ⟨_, _, _, others, _, later, rfl⟩ :=
              walkEntries_literal_eq_ok dropped literal absent walked
            rcases List.mem_cons.mp member with rfl | inOthers
            · exact List.mem_cons_self ..
            · exact List.mem_cons_of_mem _ (ih later key inOthers)
        · obtain ⟨_, _, others, _, later, rfl⟩ :=
            walkEntries_plain_eq_ok dropped literal walked
          rcases List.mem_cons.mp member with rfl | inOthers
          · exact List.mem_cons_self ..
          · exact List.mem_cons_of_mem _ (ih later key inOthers)

theorem keys_excludeNoneEntries {entries : List (String × Dumped)} {key : String}
    (member : key ∈ dictKeys (excludeNoneEntries entries)) : key ∈ dictKeys entries := by
  induction entries with
  | nil => exact member
  | cons entry rest ih =>
      obtain ⟨name, value⟩ := entry
      by_cases absent : value = .null
      · subst absent
        exact List.mem_cons_of_mem _ (ih member)
      · rw [excludeNoneEntries_cons absent] at member
        rcases List.mem_cons.mp member with rfl | later
        · exact List.mem_cons_self ..
        · exact List.mem_cons_of_mem _ (ih later)

theorem dictKeys_redactEntries (numbers : NumberDump) (entries : List (String × Dumped)) :
    dictKeys (redactEntries numbers entries) = dictKeys entries := by
  induction entries with
  | nil => rfl
  | cons entry rest ih =>
      rw [redactEntries, dictKeys, List.map_cons, ← dictKeys, ih]
      rfl

/-! ## The skeleton tells where the values are -/

mutual

/-- A value that has a type has no number in it that is not kept. -/
theorem nullFloats_of_typed {keeps : PyFloat → Bool} : ∀ {value : Dumped}
    {type : ParameterType × Bool}, paramTypeOf (nullFloats keeps value) = .ok type →
      nullFloats keeps value = value
  | .list [] => fun typed => by cases typed
  | .list (item :: rest) => fun typed => by
      rw [nullFloats, nullFloatsItems, paramTypeOf] at typed
      obtain ⟨⟨first, _⟩, itemTyped, later⟩ := bind_eq_ok_iff.mp typed
      obtain ⟨others, restTyped, _⟩ := bind_eq_ok_iff.mp later
      rw [nullFloats, nullFloatsItems, nullFloats_of_typed itemTyped,
        nullFloatsItems_of_typed restTyped]
  | .float value => fun typed => by
      rw [nullFloats] at typed ⊢
      split_ifs at typed ⊢
      · rfl
      · cases typed
  | .dict _ => fun typed => by cases typed
  | .null | .bool _ | .int _ | .str _ => fun _ => rfl
termination_by structural value => value

theorem nullFloatsItems_of_typed {keeps : PyFloat → Bool} : ∀ {items : List Dumped}
    {types : List ParameterType}, elementTypes (nullFloatsItems keeps items) = .ok types →
      nullFloatsItems keeps items = items
  | [] => fun _ => rfl
  | item :: rest => fun typed => by
      rw [nullFloatsItems, elementTypes] at typed
      obtain ⟨⟨first, _⟩, itemTyped, later⟩ := bind_eq_ok_iff.mp typed
      obtain ⟨others, restTyped, _⟩ := bind_eq_ok_iff.mp later
      rw [nullFloatsItems, nullFloats_of_typed itemTyped, nullFloatsItems_of_typed restTyped]
termination_by structural items => items

end

theorem scalarType_of_kept {keeps : PyFloat → Bool} {value : Dumped}
    (kept : nullFloats keeps value = value) :
    scalarType keeps value = scalarType (fun _ => true) value := by
  cases value with
  | float value =>
      rw [nullFloats] at kept
      split_ifs at kept with test
      rw [scalarType, scalarType, if_pos test, if_pos rfl]
  | null | bool | int | str | list | dict => rfl

theorem nullFloatsItems_eq_iff {keeps : PyFloat → Bool} {items : List Dumped} :
    nullFloatsItems keeps items = items ↔ ∀ item ∈ items, nullFloats keeps item = item := by
  induction items with
  | nil => exact ⟨fun _ => nofun, fun _ => rfl⟩
  | cons item rest ih => rw [nullFloatsItems, List.cons.injEq, ih, List.forall_mem_cons]

/-- A value that has a type is redacted as if every number were kept. -/
theorem redactValue_of_typed {keeps : PyFloat → Bool} {value : Dumped}
    {type : ParameterType × Bool} (typed : paramTypeOf (redactValue keeps value) = .ok type) :
    redactValue keeps value = redactValue (fun _ => true) value := by
  rw [paramTypeOf_redactValue] at typed
  have kept := nullFloats_of_typed typed
  have scalar := scalarType_of_kept kept
  unfold redactValue
  rw [← scalar]
  split
  · rfl
  · split
    · rename_i items _
      have items_kept := nullFloatsItems_eq_iff.mp (Json.list.inj kept)
      have uniform : uniformType keeps items = uniformType (fun _ => true) items := by
        cases items with
        | nil => rfl
        | cons first rest =>
            obtain ⟨firstKept, restKept⟩ := List.forall_mem_cons.mp items_kept
            rw [uniformType, uniformType, scalarType_of_kept firstKept]
            have alike : (rest.all fun item =>
                scalarType keeps item == scalarType (fun _ => true) first) =
                rest.all fun item =>
                  scalarType (fun _ => true) item == scalarType (fun _ => true) first := by
              rw [Bool.eq_iff_iff, List.all_eq_true, List.all_eq_true]
              refine forall₂_congr fun item member => ?_
              rw [scalarType_of_kept (restKept item member)]
            rw [alike]
      rw [uniform, kept, nullFloats_all]
    · rw [kept, nullFloats_all]

mutual

/-- No object has a key twice, but for the objects under literal keys. -/
def KeysApart : Dumped → Prop
  | .list items => ItemsApart items
  | .dict entries => (dictKeys entries).Nodup ∧ EntriesApart entries
  | _ => True
termination_by structural value => value

/-- The items of a list. -/
def ItemsApart : List Dumped → Prop
  | [] => True
  | item :: rest => KeysApart item ∧ ItemsApart rest
termination_by structural items => items

/-- The entries of an object. -/
def EntriesApart : List (String × Dumped) → Prop
  | [] => True
  | (key, value) :: rest => (key ∉ literalKeys → KeysApart value) ∧ EntriesApart rest
termination_by structural entries => entries

end

/-- The walk over a redacted entry whose value is missing. -/
theorem walkEntries_absent {hint : Option String} {key : String} {value : Dumped}
    {rest : List (String × Dumped)} {allocator : ParameterAllocator} (absent : value = .null) :
    walkEntries hint (excludeNoneEntries ((key, value) :: rest)) allocator =
      walkEntries hint (excludeNoneEntries rest) allocator := by
  rw [absent, excludeNoneEntries]

mutual

/-- Dumps of one structure whose walks come to one skeleton hold values in the same
places. -/
theorem redact_eq_of_walk {numbers : NumberDump} {first second out : Dumped}
    {hint other : Option String} {start begun done ended : ParameterAllocator}
    (alike : redact .keepAll first = redact .keepAll second) (apart : KeysApart first)
    (walked : walk hint (excludeNone (redact numbers first)) start = .ok (out, done))
    (walkedToo : walk other (excludeNone (redact numbers second)) begun = .ok (out, ended)) :
    redact numbers first = redact numbers second := by
  match first, second with
  | .list items, .list others =>
      rw [redact, excludeNone] at walked walkedToo
      obtain ⟨outs, inItems, rfl⟩ := walk_list_eq_ok walked
      obtain ⟨_, inOthers, same⟩ := walk_list_eq_ok walkedToo
      cases same
      rw [redact, redact, redactItems_eq_of_walk (Json.list.inj alike) apart inItems inOthers]
  | .dict entries, .dict others =>
      rw [redact, excludeNone] at walked walkedToo
      obtain ⟨outs, inEntries, rfl⟩ := walk_dict_eq_ok walked
      obtain ⟨_, inOthers, same⟩ := walk_dict_eq_ok walkedToo
      cases same
      rw [redact, redact, redactEntries_eq_of_walk (Json.dict.inj alike) apart.1 apart.2
        inEntries inOthers]
  | .null, other | .bool _, other | .int _, other | .float _, other | .str _, other =>
      cases other with
      | list | dict => cases alike
      | null | bool | int | float | str => exact alike
  | .list _, .dict _ | .list _, .null | .list _, .bool _ | .list _, .int _ | .list _, .float _
  | .list _, .str _ | .dict _, .list _ | .dict _, .null | .dict _, .bool _ | .dict _, .int _
  | .dict _, .float _ | .dict _, .str _ => cases alike
termination_by sizeOf first

theorem redactItems_eq_of_walk {numbers : NumberDump} {first second outs : List Dumped}
    {hint other : Option String} {start begun done ended : ParameterAllocator}
    (alike : redactItems .keepAll first = redactItems .keepAll second) (apart : ItemsApart first)
    (walked : walkItems hint (excludeNoneItems (redactItems numbers first)) start =
      .ok (outs, done))
    (walkedToo : walkItems other (excludeNoneItems (redactItems numbers second)) begun =
      .ok (outs, ended)) :
    redactItems numbers first = redactItems numbers second := by
  match first, second with
  | [], [] => rfl
  | [], _ :: _ | _ :: _, [] => cases alike
  | item :: rest, item' :: rest' =>
      obtain ⟨heads, tails⟩ := List.cons.inj alike
      obtain ⟨out, _, others, inItem, inRest, rfl⟩ := walkItems_cons_eq_ok walked
      obtain ⟨_, _, _, inItem', inRest', same⟩ := walkItems_cons_eq_ok walkedToo
      obtain ⟨rfl, rfl⟩ := List.cons.inj same
      rw [redactItems, redactItems, redact_eq_of_walk heads apart.1 inItem inItem',
        redactItems_eq_of_walk tails apart.2 inRest inRest']
termination_by sizeOf first

theorem redactEntries_eq_of_walk {numbers : NumberDump}
    {first second outs : List (String × Dumped)} {hint other : Option String}
    {start begun done ended : ParameterAllocator}
    (alike : redactEntries .keepAll first = redactEntries .keepAll second)
    (nodup : (dictKeys first).Nodup) (apart : EntriesApart first)
    (walked : walkEntries hint (excludeNoneEntries (redactEntries numbers first)) start =
      .ok (outs, done))
    (walkedToo : walkEntries other (excludeNoneEntries (redactEntries numbers second)) begun =
      .ok (outs, ended)) :
    redactEntries numbers first = redactEntries numbers second := by
  match first, second with
  | [], [] => rfl
  | [], _ :: _ | _ :: _, [] => cases alike
  | (key, value) :: rest, (_, value') :: rest' =>
      obtain ⟨heads, tails⟩ := List.cons.inj alike
      obtain ⟨rfl, values⟩ := Prod.mk.inj heads
      obtain ⟨fresh, nodupRest⟩ := List.nodup_cons.mp nodup
      have sameKeys : dictKeys rest' = dictKeys rest := by
        rw [← dictKeys_redactEntries .keepAll rest', ← tails, dictKeys_redactEntries]
      rw [redactEntries] at walked walkedToo ⊢
      rw [redactEntries]
      by_cases dropped : key ∈ droppedKeys
      · rw [if_pos dropped] at walked walkedToo ⊢
        rw [walkEntries_absent rfl] at walked walkedToo
        rw [redactEntries_eq_of_walk tails nodupRest apart.2 walked walkedToo, if_pos dropped]
      · rw [if_neg dropped, if_neg dropped] at values
        rw [if_neg dropped] at walked walkedToo ⊢
        rw [if_neg dropped]
        by_cases literal : key ∈ literalKeys
        · rw [if_pos literal, if_pos literal, keeps_keepAll] at values
          rw [if_pos literal] at walked walkedToo ⊢
          rw [if_pos literal]
          have unheard : ∀ {tail : List (String × Dumped)} {outs : List (String × Dumped)}
              {name : Dumped} {hint : Option String} {start done : ParameterAllocator},
              dictKeys tail = dictKeys rest →
              walkEntries hint (excludeNoneEntries (redactEntries numbers tail)) start ≠
                .ok ((key, name) :: outs, done) := by
            intro tail outs name hint start done keys walkedTail
            apply fresh
            rw [← dictKeys, ← keys, ← dictKeys_redactEntries numbers tail]
            exact keys_excludeNoneEntries
              (keys_walkEntries walkedTail key (List.mem_cons_self ..))
          by_cases absent : redactValue (numbers.keeps key) value = .null
          · rw [walkEntries_absent absent] at walked
            by_cases absentToo : redactValue (numbers.keeps key) value' = .null
            · rw [walkEntries_absent absentToo] at walkedToo
              rw [absent, absentToo,
                redactEntries_eq_of_walk tails nodupRest apart.2 walked walkedToo]
            · rw [excludeNoneEntries_cons absentToo] at walkedToo
              obtain ⟨_, _, _, _, _, _, rfl⟩ := walkEntries_literal_eq_ok dropped literal
                (excludeNone_ne_null absentToo) walkedToo
              exact absurd walked (unheard rfl)
          · rw [excludeNoneEntries_cons absent] at walked
            obtain ⟨_, _, _, _, typed, inRest, rfl⟩ := walkEntries_literal_eq_ok dropped literal
              (excludeNone_ne_null absent) walked
            by_cases absentToo : redactValue (numbers.keeps key) value' = .null
            · rw [walkEntries_absent absentToo] at walkedToo
              exact absurd walkedToo (unheard sameKeys)
            · rw [excludeNoneEntries_cons absentToo] at walkedToo
              obtain ⟨_, _, _, _, typedToo, inRest', same⟩ := walkEntries_literal_eq_ok dropped
                literal (excludeNone_ne_null absentToo) walkedToo
              obtain ⟨-, rfl⟩ := List.cons.inj same
              rw [paramTypeOf_excluded] at typed typedToo
              rw [redactValue_of_typed typed, redactValue_of_typed typedToo, values,
                redactEntries_eq_of_walk tails nodupRest apart.2 inRest inRest']
        · rw [if_neg literal, if_neg literal] at values
          rw [if_neg literal] at walked walkedToo ⊢
          rw [if_neg literal]
          by_cases absent : value = .null
          · have absentToo : value' = .null := by
              rw [← @redact_eq_null_iff .keepAll, ← values, absent]
              rfl
            rw [walkEntries_absent (redact_eq_null_iff.mpr absent)] at walked
            rw [walkEntries_absent (redact_eq_null_iff.mpr absentToo)] at walkedToo
            rw [absent, absentToo,
              redactEntries_eq_of_walk tails nodupRest apart.2 walked walkedToo]
          · have present : value' ≠ .null := by
              intro absentToo
              apply absent
              rw [← @redact_eq_null_iff .keepAll, values, absentToo]
              rfl
            rw [excludeNoneEntries_cons (mt redact_eq_null_iff.mp absent)] at walked
            rw [excludeNoneEntries_cons (mt redact_eq_null_iff.mp present)] at walkedToo
            obtain ⟨out, _, others, inValue, inRest, rfl⟩ :=
              walkEntries_plain_eq_ok dropped literal walked
            obtain ⟨_, _, _, inValue', inRest', same⟩ :=
              walkEntries_plain_eq_ok dropped literal walkedToo
            obtain ⟨sameHead, rfl⟩ := List.cons.inj same
            obtain ⟨-, rfl⟩ := Prod.mk.inj sameHead
            rw [redact_eq_of_walk values (apart.1 literal) inValue inValue',
              redactEntries_eq_of_walk tails nodupRest apart.2 inRest inRest']
termination_by sizeOf first

end

end QueryGate
