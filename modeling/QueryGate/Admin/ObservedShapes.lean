import QueryGate.Execution.Fingerprint
import QueryGate.Foundation.JsonWalks

/-! # Observed query shapes

`admin/observed_shapes.py`: a query is reduced to a skeleton by a walk over its dump that
puts a parameter in the place of every value, and the skeleton is hashed with the names its
caller made up taken out. The walk knows a value by the key it stands under, and sees of it
nothing but its type (`walk_typed`).
-/

namespace QueryGate

open Foundation

/-- `ParameterType`, in the order of the spellings. -/
inductive ParameterType
  | boolean
  | integer
  | number
  | string
  deriving DecidableEq, Repr

/-- The spelling of a type. -/
def ParameterType.value : ParameterType → String
  | .boolean => "boolean" | .integer => "integer" | .number => "number" | .string => "string"

/-- The types in the order of their spellings. -/
def ParameterType.sorted : List ParameterType := [.boolean, .integer, .number, .string]

/-- The fields of `TemplateParameter` that an observed slot sets; it is always required. -/
structure TemplateParameter where
  name : String
  type : ParameterType
  isList : Bool
  description : String
  deriving DecidableEq, Repr

/-- `_LITERAL_KEYS`. -/
def literalKeys : List String :=
  ["value", "literal", "delimiter", "amount", "fraction", "buckets", "offset", "limit", "n"]

/-- `_DROPPED_KEYS`. -/
def droppedKeys : List String := ["intent"]

/-- `SkeletonizationError`. -/
inductive SkeletonizationError
  | emptyList
  | mixedList (types : List ParameterType)
  | unsupported (typeName : String)
  | freeText (key : String)
  | survived (key : String)
  deriving DecidableEq, Repr

/-- The text of the error. -/
def SkeletonizationError.message : SkeletonizationError → String
  | .emptyList => "cannot infer a parameter type from an empty list"
  | .mixedList types =>
      "cannot infer a parameter type from a mixed-type list: [" ++
        ", ".intercalate (types.map fun type => "'" ++ type.value ++ "'") ++ "]"
  | .unsupported typeName => "cannot infer a parameter type from a value of type " ++ typeName
  | .freeText key => "free-text key '" ++ key ++ "' survived skeletonization"
  | .survived key => "literal-bearing key '" ++ key ++ "' survived skeletonization"

/-! ## The dump -/

/-- Which numbers with a fraction a dump in JSON mode keeps, in a field of any type and in
one that is typed; a null stands for the others. -/
structure NumberDump where
  any : PyFloat → Bool
  typed : PyFloat → Bool

/-- The fields that hold numbers with a fraction. -/
def numberFields : List String := ["value", "literal", "fraction"]

/-- The numbers that are kept in a field: a comparison value is the one field of any type. -/
def NumberDump.keeps (numbers : NumberDump) (key : String) : PyFloat → Bool :=
  if key = "value" then numbers.any
  else if key ∈ numberFields then numbers.typed
  else fun _ => true

mutual

/-- A dump without the fields that are null. -/
def excludeNone : Dumped → Dumped
  | .list items => .list (excludeNoneItems items)
  | .dict entries => .dict (excludeNoneEntries entries)
  | value => value
termination_by structural value => value

/-- The items of a list. -/
def excludeNoneItems : List Dumped → List Dumped
  | [] => []
  | item :: rest => excludeNone item :: excludeNoneItems rest
termination_by structural items => items

/-- The fields of a model that are not null. -/
def excludeNoneEntries : List (String × Dumped) → List (String × Dumped)
  | [] => []
  | (_, .null) :: rest => excludeNoneEntries rest
  | (key, value) :: rest => (key, excludeNone value) :: excludeNoneEntries rest
termination_by structural entries => entries

end

section Numbers

variable (numbers : NumberDump)

mutual

/-- A dump with its numbers as JSON mode dumps them. -/
def dumpNumbers : Dumped → Dumped
  | .list items => .list (dumpNumbersItems items)
  | .dict entries => .dict (dumpNumbersEntries entries)
  | value => value
termination_by structural value => value

/-- The items of a list. -/
def dumpNumbersItems : List Dumped → List Dumped
  | [] => []
  | item :: rest => dumpNumbers item :: dumpNumbersItems rest
termination_by structural items => items

/-- The fields of a model. -/
def dumpNumbersEntries : List (String × Dumped) → List (String × Dumped)
  | [] => []
  | (key, value) :: rest =>
      (key, if key ∈ numberFields then nullFloats (numbers.keeps key) value
        else dumpNumbers value) :: dumpNumbersEntries rest
termination_by structural entries => entries

end

/-- `query.model_dump(mode="json", exclude_none=True)`. -/
def StructuredQuery.modelDump (query : StructuredQuery) : Dumped :=
  dumpNumbers numbers (excludeNone query.dump)

end Numbers

/-! ## Parameter slots -/

mutual

/-- `_param_type_of`. -/
def paramTypeOf : Dumped → Except SkeletonizationError (ParameterType × Bool)
  | .list [] => .error .emptyList
  | .list (item :: rest) => do
      let (first, _) ← paramTypeOf item
      let others ← elementTypes rest
      match ParameterType.sorted.filter (first :: others).contains with
      | [only] => .ok (only, true)
      | types => .error (.mixedList types)
  | .bool _ => .ok (.boolean, false)
  | .int _ => .ok (.integer, false)
  | .float _ => .ok (.number, false)
  | .str _ => .ok (.string, false)
  | .null => .error (.unsupported "NoneType")
  | .dict _ => .error (.unsupported "dict")
termination_by structural value => value

/-- The types of the items of a list. -/
def elementTypes : List Dumped → Except SkeletonizationError (List ParameterType)
  | [] => .ok []
  | item :: rest => do
      let (first, _) ← paramTypeOf item
      let others ← elementTypes rest
      .ok (first :: others)
termination_by structural items => items

end

/-- A letter of an identifier. -/
def isWordLetter (letter : Char) : Bool :=
  letter.isAlphanum || letter == '_'

/-- `_NON_IDENTIFIER.sub("_", text)`: every run of other letters becomes an underscore. -/
def underscoreRuns (inRun : Bool) : List Char → List Char
  | [] => []
  | letter :: rest =>
      if isWordLetter letter then letter :: underscoreRuns false rest
      else if inRun then underscoreRuns true rest
      else '_' :: underscoreRuns true rest

/-- `text.strip("_")`. -/
def stripUnderscores (text : List Char) : List Char :=
  ((text.dropWhile (· == '_')).reverse.dropWhile (· == '_')).reverse

/-- `_base_name`. -/
def baseName (hint : Option String) : String :=
  let afterDot := ((hint.getD "").toList.reverse.takeWhile (· != '.')).reverse
  match stripUnderscores (underscoreRuns false afterDot) with
  | [] => "param"
  | first :: rest => if first.isAlpha then String.ofList (first :: rest) else "param"

/-- `_ParameterAllocator`. -/
structure ParameterAllocator where
  used : List (String × Nat) := []
  parameters : List TemplateParameter := []
  deriving DecidableEq

/-- The slot for a value of a type, and its name. -/
def ParameterAllocator.allot (allocator : ParameterAllocator) (hint : Option String)
    (type : ParameterType × Bool) : String × ParameterAllocator :=
  let stem := baseName hint
  let seen := (dictGet allocator.used stem).getD 0
  let name := if seen = 0 then stem else s!"{stem}_{seen + 1}"
  let description := match hint with
    | none | some "" => "Observed value."
    | some text => s!"Observed value at {text}."
  (name,
    { used := dictSet allocator.used stem (seen + 1)
      parameters := allocator.parameters ++
        [{ name := name, type := type.1, isList := type.2, description := description }] })

/-- `_ParameterAllocator.allocate`. -/
def ParameterAllocator.allocate (allocator : ParameterAllocator) (hint : Option String)
    (value : Dumped) : Except SkeletonizationError (String × ParameterAllocator) := do
  let type ← paramTypeOf value
  pure (allocator.allot hint type)

/-- A parameter in the place of a value. -/
def placeholder (name : String) : Dumped :=
  .dict [("param", .str name)]

/-! ## The walk -/

/-- The column that names the slots of an object: its own, or else the enclosing one. -/
def localHint (hint : Option String) (entries : List (String × Dumped)) : Option String :=
  match dictGet entries "col" with
  | some (.str col) => some col
  | _ => hint

/-- The hint of a value under a key. -/
def slotHint (hint : Option String) (key : String) : Option String :=
  if key = "value" ∨ key = "literal" then hint else some key

mutual

/-- `_walk`. -/
def walk (hint : Option String) :
    Dumped → ParameterAllocator → Except SkeletonizationError (Dumped × ParameterAllocator)
  | .dict entries, allocator => do
      let (out, allocator) ← walkEntries (localHint hint entries) entries allocator
      pure (.dict out, allocator)
  | .list items, allocator => do
      let (out, allocator) ← walkItems hint items allocator
      pure (.list out, allocator)
  | node, allocator => pure (node, allocator)
termination_by structural node => node

/-- The items of a list. -/
def walkItems (hint : Option String) : List Dumped → ParameterAllocator →
    Except SkeletonizationError (List Dumped × ParameterAllocator)
  | [], allocator => pure ([], allocator)
  | item :: rest, allocator => do
      let (first, allocator) ← walk hint item allocator
      let (others, allocator) ← walkItems hint rest allocator
      pure (first :: others, allocator)
termination_by structural items => items

/-- The entries of an object. -/
def walkEntries (hint : Option String) : List (String × Dumped) → ParameterAllocator →
    Except SkeletonizationError (List (String × Dumped) × ParameterAllocator)
  | [], allocator => pure ([], allocator)
  | (key, value) :: rest, allocator =>
      if key ∈ droppedKeys then walkEntries hint rest allocator
      else if key ∈ literalKeys then
        match value with
        | .null => walkEntries hint rest allocator
        | value => do
            let (name, allocator) ← allocator.allocate (slotHint hint key) value
            let (others, allocator) ← walkEntries hint rest allocator
            pure ((key, placeholder name) :: others, allocator)
      else do
        let (first, allocator) ← walk hint value allocator
        let (others, allocator) ← walkEntries hint rest allocator
        pure ((key, first) :: others, allocator)
termination_by structural entries => entries

end

/-- Whether a value is an object whose only key is `param`. -/
def isPlaceholder : Dumped → Bool
  | .dict [(key, _)] => key == "param"
  | _ => false

mutual

/-- `_assert_no_literal_survived`. -/
def assertNoLiteralSurvived : Dumped → Except SkeletonizationError Unit
  | .dict entries => assertEntries entries
  | .list items => assertItems items
  | _ => .ok ()
termination_by structural skeleton => skeleton

/-- The items of a list. -/
def assertItems : List Dumped → Except SkeletonizationError Unit
  | [] => .ok ()
  | item :: rest => do
      assertNoLiteralSurvived item
      assertItems rest
termination_by structural items => items

/-- The entries of an object. -/
def assertEntries : List (String × Dumped) → Except SkeletonizationError Unit
  | [] => .ok ()
  | (key, value) :: rest =>
      if key ∈ droppedKeys then .error (.freeText key)
      else if key ∈ literalKeys then
        if isPlaceholder value then assertEntries rest else .error (.survived key)
      else do
        assertNoLiteralSurvived value
        assertEntries rest
termination_by structural entries => entries

end

/-- `skeletonize`, of a dump. -/
def skeletonizeDump (dumped : Dumped) :
    Except SkeletonizationError (Dumped × List TemplateParameter) := do
  let (skeleton, allocator) ← walk none dumped {}
  assertNoLiteralSurvived skeleton
  pure (skeleton, allocator.parameters)

/-- `skeletonize`. -/
def skeletonize (numbers : NumberDump) (query : StructuredQuery) :
    Except SkeletonizationError (Dumped × List TemplateParameter) :=
  skeletonizeDump (query.modelDump numbers)

/-! ## The hash -/

/-- `_ALIAS_KEYS`. -/
def aliasKeys : List String := ["alias", "from_alias", "name"]

/-- `mapping.setdefault(name, f"#{len(mapping) + 1}")`. -/
def rememberAlias (mapping : List (String × String)) (name : String) : List (String × String) :=
  if (dictGet mapping name).isSome then mapping
  else mapping ++ [(name, s!"#{mapping.length + 1}")]

mutual

/-- `_collect_aliases`. -/
def collectAliases : Dumped → List (String × String) → List (String × String)
  | .dict entries, mapping => collectEntryAliases entries mapping
  | .list items, mapping => collectItemAliases items mapping
  | _, mapping => mapping
termination_by structural node => node

/-- The items of a list. -/
def collectItemAliases : List Dumped → List (String × String) → List (String × String)
  | [], mapping => mapping
  | item :: rest, mapping => collectItemAliases rest (collectAliases item mapping)
termination_by structural items => items

/-- The entries of an object. -/
def collectEntryAliases :
    List (String × Dumped) → List (String × String) → List (String × String)
  | [], mapping => mapping
  | (key, .str name) :: rest, mapping =>
      collectEntryAliases rest (if key ∈ aliasKeys then rememberAlias mapping name else mapping)
  | (_, value) :: rest, mapping => collectEntryAliases rest (collectAliases value mapping)
termination_by structural entries => entries

end

section Canonical

variable (mapping : List (String × String))

mutual

/-- `_canonicalize_aliases`, with every alias known: a name that is one, or that refers to
one, becomes its token. -/
def canonicalizeAliases : Dumped → Dumped
  | .dict entries => .dict (canonicalizeEntries entries)
  | .list items => .list (canonicalizeItems items)
  | .str name => .str ((dictGet mapping name).getD name)
  | node => node
termination_by structural node => node

/-- The items of a list. -/
def canonicalizeItems : List Dumped → List Dumped
  | [] => []
  | item :: rest => canonicalizeAliases item :: canonicalizeItems rest
termination_by structural items => items

/-- The entries of an object. -/
def canonicalizeEntries : List (String × Dumped) → List (String × Dumped)
  | [] => []
  | (key, value) :: rest => (key, canonicalizeAliases value) :: canonicalizeEntries rest
termination_by structural entries => entries

end

end Canonical

/-- `shape_hash`. -/
def shapeHash (runtime : FingerprintRuntime) (skeleton : Dumped) : String :=
  let normalized := canonicalizeAliases (collectAliases skeleton []) skeleton
  String.ofList ((modelFingerprint runtime normalized).toList.take 32)

end QueryGate
