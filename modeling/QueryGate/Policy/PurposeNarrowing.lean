import QueryGate.Policy.Models
import QueryGate.Foundation.FoldedUnion

/-! # Purpose narrowing

`Policy.Narrows` is the order `for_purpose` is meant to respect: a narrower policy
denies, masks and filters everything the wider one does and differs in nothing else.
A purpose narrows the policy it is applied to, and applying one keeps the order
between two policies.
-/

namespace QueryGate

open Foundation

theorem ciLookup_eq_foldGet {α : Type} (mapping : List (String × List α)) (key : String) :
    ciLookup mapping key = foldGet casefold mapping key := by
  unfold ciLookup foldGet
  congr 1

/-- The spelling `_merge_table_keyed` collects a table's entries under. -/
def canonicalSpelling {α : Type} (keyPreference : List (String × List α)) (key : String) : String :=
  (dictGet (canonicalKeys keyPreference) (casefold key)).getD key

theorem mergeTableKeyed_eq {α : Type} (mappingsInOrder keyPreference : List (String × List α)) :
    mergeTableKeyed mappingsInOrder keyPreference =
      unite (canonicalSpelling keyPreference) mappingsInOrder := rfl

section Canonical

variable {α : Type} {keyPreference : List (String × List α)}

theorem canonicalKeys_append (entry : String × List α) :
    canonicalKeys (keyPreference ++ [entry]) =
      if (dictGet (canonicalKeys keyPreference) (casefold entry.1)).isSome
      then canonicalKeys keyPreference
      else canonicalKeys keyPreference ++ [(casefold entry.1, entry.1)] := by
  unfold canonicalKeys
  rw [List.foldl_append]
  rfl

/-- Every canonical spelling is filed under its own fold. -/
theorem casefold_of_mem_canonicalKeys {filed : String × String}
    (member : filed ∈ canonicalKeys keyPreference) : casefold filed.2 = filed.1 := by
  induction keyPreference using List.reverseRecOn with
  | nil => exact absurd member List.not_mem_nil
  | append_singleton earlier entry ih =>
      rw [canonicalKeys_append] at member
      split at member
      · exact ih member
      · rcases List.mem_append.mp member with early | last
        · exact ih early
        · cases List.mem_singleton.mp last
          rfl

/-- Every key met has a canonical spelling. -/
theorem canonicalKeys_isSome {entry : String × List α} (member : entry ∈ keyPreference) :
    (dictGet (canonicalKeys keyPreference) (casefold entry.1)).isSome = true := by
  induction keyPreference using List.reverseRecOn with
  | nil => exact absurd member List.not_mem_nil
  | append_singleton earlier last ih =>
      rw [canonicalKeys_append]
      split
      · rename_i known
        rcases List.mem_append.mp member with early | here
        · exact ih early
        · cases List.mem_singleton.mp here
          exact known
      · rw [dictGet_isSome_iff]
        rcases List.mem_append.mp member with early | here
        · have inEarlier := dictGet_isSome_iff.mp (ih early)
          unfold dictKeys at inEarlier ⊢
          rw [List.map_append]
          exact List.mem_append_left _ inEarlier
        · cases List.mem_singleton.mp here
          unfold dictKeys
          rw [List.map_append]
          exact List.mem_append_right _ (List.mem_singleton.mpr rfl)

/-- Keys that agree up to case are collected under one spelling, which agrees too. -/
theorem spellsAlike_canonicalSpelling {mappings : List (String × List α)}
    (sub : mappings ⊆ keyPreference) :
    SpellsAlike casefold (canonicalSpelling keyPreference) (mappings.map Prod.fst) where
  keeps key member := by
    obtain ⟨entry, inMappings, rfl⟩ := List.mem_map.mp member
    obtain ⟨spelling, known⟩ :=
      Option.isSome_iff_exists.mp (canonicalKeys_isSome (sub inMappings))
    have folded := casefold_of_mem_canonicalKeys (dictGet_eq_some_mem known)
    rw [canonicalSpelling, known]
    exact folded
  agrees first inFirst second _ same := by
    obtain ⟨entry, inMappings, rfl⟩ := List.mem_map.mp inFirst
    obtain ⟨spelling, known⟩ :=
      Option.isSome_iff_exists.mp (canonicalKeys_isSome (sub inMappings))
    rw [canonicalSpelling, canonicalSpelling, ← same, known]
    rfl

end Canonical

/-- `narrow` denies, masks and filters what `wide` does, and is otherwise the same. -/
structure Policy.Narrows (narrow wide : Policy) : Prop where
  otherwiseSame : narrow = { wide with
    deniedTables := narrow.deniedTables
    deniedColumns := narrow.deniedColumns
    columnMasks := narrow.columnMasks
    mandatoryRowFilters := narrow.mandatoryRowFilters }
  deniedTables : wide.deniedTables ⊆ narrow.deniedTables
  deniedColumns : Foundation.Covers casefold narrow.deniedColumns wide.deniedColumns
  columnMasks : Foundation.Covers casefold narrow.columnMasks wide.columnMasks
  rowFilters : wide.mandatoryRowFilters ⊆ narrow.mandatoryRowFilters

theorem Policy.Narrows.refl (policy : Policy) : policy.Narrows policy where
  otherwiseSame := rfl
  deniedTables := List.Subset.refl _
  deniedColumns := Foundation.Covers.refl _
  columnMasks := Foundation.Covers.refl _
  rowFilters := List.Subset.refl _

/-- A purpose only ever narrows. -/
theorem Policy.forPurpose_narrows (policy : Policy) (purpose : Option String) :
    (policy.forPurpose purpose).Narrows policy := by
  unfold forPurpose
  split
  · exact Narrows.refl policy
  · refine ⟨rfl, List.subset_append_left _ _, ?_, ?_, List.subset_append_left _ _⟩
    · exact covers_unite (spellsAlike_canonicalSpelling (List.Subset.refl _))
        (List.subset_append_left _ _)
    · refine covers_unite (spellsAlike_canonicalSpelling fun entry member => ?_)
        (List.subset_append_right _ _)
      exact List.mem_append.mpr (List.mem_append.mp member).symm

section Order

variable {narrow wide : Policy}

/-- A purpose keeps the order of two policies. -/
theorem Policy.Narrows.forPurpose (narrows : narrow.Narrows wide) (purpose : Option String) :
    (narrow.forPurpose purpose).Narrows (wide.forPurpose purpose) := by
  have purposes : narrow.purposePolicies = wide.purposePolicies := by
    rw [narrows.otherwiseSame]
  unfold Policy.forPurpose
  rw [purposes]
  split
  · exact narrows
  · rename_i delta _
    refine ⟨?_, ?_, ?_, ?_, ?_⟩
    · dsimp only
      rw [narrows.otherwiseSame]
    · exact List.append_subset.mpr ⟨List.subset_append_of_subset_left _ narrows.deniedTables,
        List.subset_append_right _ _⟩
    · refine covers_unite_unite (spellsAlike_canonicalSpelling (List.Subset.refl _))
        (spellsAlike_canonicalSpelling (List.Subset.refl _)) ?_ ?_
      · intro key value listed
        rw [lists_append] at listed ⊢
        exact listed.imp_left (narrows.deniedColumns.listed key value)
      · intro entry member
        rcases List.mem_append.mp member with own | added
        · obtain ⟨other, inNarrow, same⟩ := narrows.deniedColumns.keys entry own
          exact ⟨other, List.mem_append_left _ inNarrow, same⟩
        · exact ⟨entry, List.mem_append_right _ added, rfl⟩
    · have reordered (masks : List (String × List ColumnMask)) :
          delta.columnMasks ++ masks ⊆ masks ++ delta.columnMasks :=
        fun _ member => List.mem_append.mpr (List.mem_append.mp member).symm
      refine covers_unite_unite (spellsAlike_canonicalSpelling (reordered _))
        (spellsAlike_canonicalSpelling (reordered _)) ?_ ?_
      · intro key value listed
        rw [lists_append] at listed ⊢
        exact listed.imp_right (narrows.columnMasks.listed key value)
      · intro entry member
        rcases List.mem_append.mp member with added | own
        · exact ⟨entry, List.mem_append_left _ added, rfl⟩
        · obtain ⟨other, inNarrow, same⟩ := narrows.columnMasks.keys entry own
          exact ⟨other, List.mem_append_right _ inNarrow, same⟩
    · exact List.append_subset.mpr ⟨List.subset_append_of_subset_left _ narrows.rowFilters,
        List.subset_append_right _ _⟩

theorem ciContains_mono {names more : List String} (sub : names ⊆ more) {name : String}
    (listed : ciContains names name = true) : ciContains more name = true := by
  rw [ciContains, List.any_eq_true] at listed ⊢
  obtain ⟨candidate, member, same⟩ := listed
  exact ⟨candidate, sub member, same⟩

/-- A table the narrower policy allows, the wider one allows. -/
theorem Policy.Narrows.tableAllowed (narrows : narrow.Narrows wide) {table : String}
    (allowed : narrow.tableAllowed table = true) : wide.tableAllowed table = true := by
  rw [narrows.otherwiseSame] at allowed
  unfold Policy.tableAllowed at allowed ⊢
  dsimp only at allowed
  split at allowed
  · cases allowed
  · rename_i notDenied
    rw [if_neg fun denied => notDenied (ciContains_mono narrows.deniedTables denied)]
    exact allowed

/-- A column the narrower policy allows, the wider one allows. -/
theorem Policy.Narrows.columnAllowed (narrows : narrow.Narrows wide) {table column : String}
    (allowed : narrow.columnAllowed table column = true) :
    wide.columnAllowed table column = true := by
  have more : (ciLookup wide.deniedColumns table).getD [] ++
      (ciLookup wide.deniedColumns "*").getD [] ⊆
      (ciLookup narrow.deniedColumns table).getD [] ++
        (ciLookup narrow.deniedColumns "*").getD [] := by
    simp only [ciLookup_eq_foldGet]
    exact List.append_subset.mpr
      ⟨List.subset_append_of_subset_left _ (narrows.deniedColumns.found table),
        List.subset_append_of_subset_right _ (narrows.deniedColumns.found "*")⟩
  rw [narrows.otherwiseSame] at allowed
  unfold Policy.columnAllowed at allowed ⊢
  dsimp only at allowed ⊢
  split at allowed
  · cases allowed
  · rename_i notDenied
    rw [if_neg fun denied => notDenied (ciContains_mono more denied)]
    exact allowed

/-- A column is masked exactly when the table's list or the wildcard list names it. -/
theorem Policy.columnMask_isSome_iff (policy : Policy) (table column : String) :
    (policy.columnMask table column).isSome = true ↔
      ∃ mask ∈ (ciLookup policy.columnMasks table).getD [] ++
        (ciLookup policy.columnMasks "*").getD [], casefold mask.column = casefold column := by
  unfold Policy.columnMask
  cases ciLookup policy.columnMasks table <;> cases ciLookup policy.columnMasks "*" <;>
    simp [or_and_right, exists_or]

/-- A column the wider policy masks, the narrower one masks. -/
theorem Policy.Narrows.columnMask (narrows : narrow.Narrows wide) {table column : String}
    (masked : (wide.columnMask table column).isSome = true) :
    (narrow.columnMask table column).isSome = true := by
  rw [Policy.columnMask_isSome_iff] at masked ⊢
  obtain ⟨mask, member, named⟩ := masked
  simp only [ciLookup_eq_foldGet, List.mem_append] at member ⊢
  exact ⟨mask, member.imp (narrows.columnMasks.found _ _) (narrows.columnMasks.found _ _), named⟩

end Order

end QueryGate
