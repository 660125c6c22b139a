import QueryGate.Compiler.Scopes
import QueryGate.Validation.Correlation

/-! # What the compiler resolves a name to

The compiler looks a name up in the scope's validated tables, after each WITH
stand-in was replaced by the compiled block. The replacement goes by the name's
own entry in the scope's name map, so an opened name is replaced only when the name
itself is that of a block.
-/

namespace QueryGate

open Foundation

section Lookup

variable {query : StructuredQuery} {tables : Tables} {objects : CteObjects} {path : ScopePath}
  {name : String} {object : FromObj}

/-- The source a name is replaced by, if it is a WITH block. -/
def blockOf (objects : CteObjects) (query : StructuredQuery) (name : String) : Option FromObj :=
  dictGet objects (casefold (physicalTable query name))

theorem casefold_physicalTable_congr {first second : String}
    (same : casefold first = casefold second) :
    casefold (physicalTable query first) = casefold (physicalTable query second) := by
  unfold physicalTable
  rw [same]
  cases dictGet (effectiveNameMap query) (casefold second) with
  | none => exact same
  | some physical => rfl

theorem blockOf_congr {first second : String} (same : casefold first = casefold second) :
    blockOf objects query first = blockOf objects query second := by
  rw [blockOf, blockOf, casefold_physicalTable_congr same]

/-- A lookup in the compiled tables finds the entry the validated tables answer
with, replaced. -/
theorem compiledTables_lookup
    (found : tableByNameOrNone (compiledTables objects path query tables) name = some object) :
    ∃ entry, casefold entry.1 = casefold name ∧ tableByNameOrNone tables name = some entry.2 ∧
      object = (resolveCteEntry query objects path entry).2 := by
  have keys : ∀ entry : String × FromObj, (resolveCteEntry query objects path entry).1 = entry.1 := by
    intro entry
    unfold resolveCteEntry
    simp only
    split
    · rfl
    · rfl
  have sameKey : (fun entry : String × FromObj => casefold entry.1 == casefold name) ∘
      resolveCteEntry query objects path =
        fun entry : String × FromObj => casefold entry.1 == casefold name := by
    funext entry
    rw [Function.comp_apply, keys]
  rw [tableByNameOrNone, compiledTables, resolveCteReferences, List.find?_map, sameKey,
    Option.map_map] at found
  obtain ⟨entry, first, rfl⟩ := Option.map_eq_some_iff.mp found
  have matched := List.find?_some first
  refine ⟨entry, eq_of_beq matched, ?_, rfl⟩
  rw [tableByNameOrNone, first]
  rfl

/-- Conversely, what the validated tables answer is found by the compiler. -/
theorem compiledTables_isSome (bound : tableByNameOrNone tables name = some object) :
    ∃ found, tableByNameOrNone (compiledTables objects path query tables) name = some found := by
  have keys : (dictKeys (compiledTables objects path query tables)).map casefold =
      (dictKeys tables).map casefold := by
    rw [compiledTables, resolveCteReferences, dictKeys, dictKeys, List.map_map, List.map_map,
      List.map_map]
    refine List.map_congr_left fun entry _ => ?_
    simp only [Function.comp_apply, resolveCteEntry]
    split
    · rfl
    · rfl
  refine Option.isSome_iff_exists.mp (tableByNameOrNone_isSome_iff.mpr ?_)
  rw [keys, ← tableByNameOrNone_isSome_iff, bound]
  rfl

/-- A name that is no block keeps its validated object. -/
theorem compiledTables_kept
    (found : tableByNameOrNone (compiledTables objects path query tables) name = some object)
    (notBlock : blockOf objects query name = none) : tableByNameOrNone tables name = some object := by
  obtain ⟨entry, same, bound, rfl⟩ := compiledTables_lookup found
  rw [blockOf_congr same.symm] at notBlock
  rw [bound]
  unfold resolveCteEntry
  rw [blockOf] at notBlock
  simp only [notBlock]

/-- A name of a block is replaced by the block, under an alias of the scope when
the name differs. -/
theorem compiledTables_replaced {block : FromObj}
    (found : tableByNameOrNone (compiledTables objects path query tables) name = some object)
    (isBlock : blockOf objects query name = some block) :
    object.element = block.element ∧
      (casefold name = casefold (physicalTable query name) → object = block) ∧
      (casefold name ≠ casefold (physicalTable query name) →
        ∃ key, casefold key = casefold name ∧ object = .alias block key path) := by
  obtain ⟨entry, same, _, rfl⟩ := compiledTables_lookup found
  have replaced := isBlock
  rw [blockOf_congr same.symm, blockOf] at replaced
  have samePhysical : casefold (physicalTable query entry.1) =
      casefold (physicalTable query name) := casefold_physicalTable_congr same
  unfold resolveCteEntry
  simp only [replaced, ← samePhysical, ← same]
  by_cases plain : casefold entry.1 = casefold (physicalTable query entry.1)
  · rw [if_pos plain]
    exact ⟨rfl, fun _ => rfl, fun differs => absurd plain differs⟩
  · rw [if_neg plain]
    exact ⟨rfl, fun absurd_ => absurd absurd_ plain, fun _ => ⟨entry.1, rfl, rfl⟩⟩

/-- Some compiled blocks with the given names exist. -/
theorem exists_visible (specs : List CteSpec) :
    ∃ objects : CteObjects, objects.Visible (specs.map fun spec => casefold spec.name) := by
  have extend : ∀ (specs : List CteSpec) (objects : CteObjects) (names : List String),
      objects.Visible names →
      ∃ all : CteObjects, all.Visible (names ++ specs.map fun spec => casefold spec.name) := by
    intro specs
    induction specs with
    | nil =>
        intro objects names visible
        refine ⟨objects, ?_⟩
        rw [List.map_nil, List.append_nil]
        exact visible
    | cons spec rest ih =>
        intro objects names visible
        have next : CteObjects.Visible (dictSet objects (casefold spec.name) (.cte spec.name []))
            (names ++ [casefold spec.name]) := visible.dictSet
        obtain ⟨all, allVisible⟩ := ih _ _ next
        refine ⟨all, ?_⟩
        rw [List.append_assoc, List.singleton_append] at allVisible
        exact allVisible
  exact extend specs [] [] (BlocksNamed.empty .cte)

end Lookup

end QueryGate
