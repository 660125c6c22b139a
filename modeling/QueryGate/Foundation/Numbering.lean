import Mathlib

/-! # Ids numbered by the length of a list

A list whose new entries take the number after its length as their id. The ids stay free as
long as the list is compact: its ids are the numbers up to its length, in some order.
-/

namespace Foundation

variable {β : Type} {label : Nat → β} {ids : List β} {id : β}

/-- The ids are distinct and no number is above the length. -/
structure Compact (label : Nat → β) (ids : List β) : Prop where
  distinct : ids.Nodup
  bounded : ∀ id ∈ ids, ∃ number, id = label number ∧ 1 ≤ number ∧ number ≤ ids.length

/-- The next ids after `count` of them. -/
def following (label : Nat → β) (count fresh : Nat) : List β :=
  (List.range fresh).map fun index => label (count + (index + 1))

theorem mem_following {count fresh : Nat} :
    id ∈ following label count fresh ↔
      ∃ number, id = label number ∧ count < number ∧ number ≤ count + fresh := by
  constructor
  · intro member
    obtain ⟨index, inside, rfl⟩ := List.mem_map.mp member
    have bound := List.mem_range.mp inside
    exact ⟨count + (index + 1), rfl, by omega, by omega⟩
  · rintro ⟨number, rfl, above, atMost⟩
    refine List.mem_map.mpr ⟨number - count - 1, List.mem_range.mpr (by omega), ?_⟩
    congr 1
    omega

theorem nodup_following (injective : Function.Injective label) (count fresh : Nat) :
    (following label count fresh).Nodup := by
  apply List.Nodup.map _ List.nodup_range
  intro first second same
  have numbers := injective same
  omega

/-- The next ids are free in a compact list. -/
theorem Compact.not_mem_following (injective : Function.Injective label)
    (compact : Compact label ids) {fresh : Nat} (member : id ∈ ids) :
    id ∉ following label ids.length fresh := by
  intro next
  obtain ⟨number, rfl, above, _⟩ := mem_following.mp next
  obtain ⟨other, same, _, bound⟩ := compact.bounded _ member
  have numbers := injective same
  omega

theorem compact_nil : Compact label [] where
  distinct := List.nodup_nil
  bounded := fun _ member => absurd member List.not_mem_nil

theorem Compact.append_following (injective : Function.Injective label)
    (compact : Compact label ids) (fresh : Nat) :
    Compact label (ids ++ following label ids.length fresh) where
  distinct := by
    refine compact.distinct.append (nodup_following injective _ _) ?_
    exact fun _ member next => compact.not_mem_following injective member next
  bounded := by
    intro id member
    have size : (following label ids.length fresh).length = fresh := by simp [following]
    rcases List.mem_append.mp member with old | next
    · obtain ⟨number, rfl, positive, bound⟩ := compact.bounded id old
      refine ⟨number, rfl, positive, ?_⟩
      rw [List.length_append]
      omega
    · obtain ⟨number, rfl, above, bound⟩ := mem_following.mp next
      refine ⟨number, rfl, by omega, ?_⟩
      rw [List.length_append, size]
      exact bound

/-- Every number up to the length of a compact list is the number of an entry. -/
theorem Compact.full (compact : Compact label ids)
    {number : Nat} (positive : 1 ≤ number) (bound : number ≤ ids.length) : label number ∈ ids := by
  have inside : ids ⊆ following label 0 ids.length := by
    intro id member
    obtain ⟨number, rfl, positive, bound⟩ := compact.bounded id member
    exact mem_following.mpr ⟨number, rfl, by omega, by omega⟩
  have sameIds : ids.Perm (following label 0 ids.length) :=
    (List.subperm_of_subset compact.distinct inside).perm_of_length_le (by simp [following])
  exact sameIds.mem_iff.mpr (mem_following.mpr ⟨number, rfl, by omega, by omega⟩)

/-- A compact list stays compact when its newest entries are dropped. -/
theorem Compact.filter (injective : Function.Injective label) (compact : Compact label ids)
    {keep : β → Bool}
    (newest : ∀ dropped kept, label dropped ∈ ids → label kept ∈ ids →
      keep (label dropped) = false → keep (label kept) = true → kept < dropped) :
    Compact label (ids.filter keep) where
  distinct := compact.distinct.filter keep
  bounded := by
    intro id member
    obtain ⟨listed, kept⟩ := List.mem_filter.mp member
    obtain ⟨number, rfl, positive, bound⟩ := compact.bounded id listed
    refine ⟨number, rfl, positive, ?_⟩
    have lower : following label 0 number ⊆ ids.filter keep := by
      intro other below
      obtain ⟨lesser, rfl, _, atMost⟩ := mem_following.mp below
      have present : label lesser ∈ ids := compact.full (by omega) (by omega)
      refine List.mem_filter.mpr ⟨present, ?_⟩
      by_contra dropped
      have newer := newest lesser number present listed (Bool.eq_false_iff.mpr dropped) kept
      omega
    have size := (nodup_following injective 0 number).subperm lower |>.length_le
    simpa [following] using size

end Foundation
