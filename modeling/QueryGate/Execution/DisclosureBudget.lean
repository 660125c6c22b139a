import QueryGate.Audit.JsonText
import QueryGate.Audit.QueryShape
import QueryGate.Validation.Scopes

/-! # What a query is charged

`budgetedOccurrences` charges each aggregating scope of a query one unit for each
physical table behind it, under the fingerprint of the scope's shape. The
fingerprint is a digest of the shape after `canonicalize`, which drops the fields a
caller can vary freely, folds identifiers, replaces table aliases and output names,
and sorts every list. The digest is a parameter.
-/

namespace QueryGate

open Foundation

/-- `_VOLATILE_SHAPE_KEYS`. -/
def volatileShapeKeys : List String :=
  ["requested_limit", "offset", "n", "fraction", "alias", "name", "dir", "nulls"]

/-- `_AUTHORED_NAME_KEYS`. -/
def authoredNameKeys : List String :=
  ["alias", "name"]

/-- `_ALIAS_REFERENCE_MARKER`. -/
def aliasReferenceMarker : String :=
  "#alias"

/-- The name an entry declares: a text under an authored key. -/
def declaredName (key : String) : Shape → Option String
  | .str text => if key ∈ authoredNameKeys then some text else none
  | _ => none

mutual

/-- `_collect_authored_names`. -/
def collectAuthoredNames : Shape → List String
  | .list items => itemAuthoredNames items
  | .dict entries => entryAuthoredNames entries
  | _ => []
termination_by structural shape => shape

/-- The authored names in the items of a list. -/
def itemAuthoredNames : List Shape → List String
  | [] => []
  | item :: rest => collectAuthoredNames item ++ itemAuthoredNames rest
termination_by structural items => items

/-- The authored names in the entries of a dictionary. -/
def entryAuthoredNames : List (String × Shape) → List String
  | [] => []
  | (key, value) :: rest =>
      (match declaredName key value with
        | some name => [casefold name]
        | none => collectAuthoredNames value) ++ entryAuthoredNames rest
termination_by structural entries => entries

end

/-- `mapping.setdefault(key, value)`. -/
def setDefault (mapping : List (String × String)) (entry : String × String) :
    List (String × String) :=
  if (dictGet mapping entry.1).isSome then mapping else mapping ++ [entry]

/-- `_table_alias_map`: the first declaration of a name wins. -/
def tableAliasMap (query : StructuredQuery) : List (String × String) :=
  ((scopesOf query).flatMap fun scope => (effectiveNameMap scope).map fun entry =>
    (casefold entry.1, casefold entry.2)).foldl setDefault []

/-- What `_canonicalize` makes of a text. -/
def canonicalText (aliases : List (String × String)) (authored : List String) (text : String) :
    String :=
  let folded := casefold text
  if folded ∈ authored then aliasReferenceMarker
  else
    match splitDot folded with
    | none => folded
    | some (before, rest) =>
        if before ∈ authored then aliasReferenceMarker ++ "." ++ rest
        else
          match dictGet aliases before with
          | some table => table ++ "." ++ rest
          | none => folded

section Canonicalize

variable (aliases : List (String × String)) (authored : List String)

mutual

/-- `_canonicalize`. -/
def canonicalize : Shape → Shape
  | .str text => .str (canonicalText aliases authored text)
  | .list items => .list (sortByText (canonicalItems items))
  | .dict entries => .dict (canonicalEntries entries)
  | .null => .null
  | .bool value => .bool value
  | .int value => .int value
  | .float value => .float value
termination_by structural shape => shape

/-- The canonical items of a list. -/
def canonicalItems : List Shape → List Shape
  | [] => []
  | item :: rest => canonicalize item :: canonicalItems rest
termination_by structural items => items

/-- The canonical entries of a dictionary, without the volatile ones. -/
def canonicalEntries : List (String × Shape) → List (String × Shape)
  | [] => []
  | (key, value) :: rest =>
      if key ∈ volatileShapeKeys then canonicalEntries rest
      else (key, canonicalize value) :: canonicalEntries rest
termination_by structural entries => entries

end

end Canonicalize

/-- The authored names of a query's shape. -/
def authoredNames (query : StructuredQuery) : List String :=
  collectAuthoredNames (normalizeQueryShape query)

/-- The text `shape_fingerprint` hashes. -/
def canonicalJson (query : StructuredQuery) : String :=
  String.ofList (jsonChars (canonicalize (tableAliasMap query) (authoredNames query)
    (normalizeQueryShape query)))

/-- `shape_fingerprint`. -/
def shapeFingerprint (digest : String → String) (query : StructuredQuery) : String :=
  digest (canonicalJson query)

/-- The tables of a scope's FROM and JOIN clauses, case-folded. -/
def sourceTables (query : StructuredQuery) : List String :=
  query.occurrences.map fun occurrence => casefold occurrence.1

/-- `bases.get(table, frozenset({table}))`. -/
def baseTables (bases : List (String × List String)) (table : String) : List String :=
  (dictGet bases table).getD [table]

/-- The base tables of one more block, after those of the earlier ones. -/
def addBlockTables (resolved : List (String × List String)) (spec : CteSpec) :
    List (String × List String) :=
  dictSet resolved (casefold spec.name)
    ((scopesOf spec.query).flatMap fun scope =>
      (sourceTables scope).flatMap (baseTables resolved)).dedup

/-- `_cte_base_tables`; a set is a list without repetitions. -/
def cteBaseTables (query : StructuredQuery) : List (String × List String) :=
  query.ctes.foldl addBlockTables []

/-- `sorted`, on table names. -/
def sortNames (names : List String) : List String :=
  names.insertionSort fun first second => first.toList ≤ second.toList

/-- The charges of one scope. -/
def scopeCharges (digest : String → String) (bases : List (String × List String))
    (scope : StructuredQuery) : List (String × String) :=
  (sourceTables scope).flatMap fun table =>
    (sortNames (baseTables bases table)).map fun physical =>
      (physical, shapeFingerprint digest scope)

/-- `budgeted_occurrences`, one entry for each unit: the counter of the source is the
multiset of the entries. -/
def budgetedOccurrences (digest : String → String) (query : StructuredQuery) :
    List (String × String) :=
  ((scopesOf query).filter isAggregateScope).flatMap
    (scopeCharges digest (cteBaseTables query))

end QueryGate
