import Mathlib.Data.List.Perm.Basic
import Mathlib.Data.List.Sort
import QueryGate.Foundation.Checks

/-! # Sorting under a key

A list sorted under a key that tells its items apart does not remember the order it came in,
also when the items are read by a fallible function.
-/

namespace Foundation

section Sorting

variable {α κ : Type*} [LinearOrder κ] {key : α → κ}

/-- `sorted(items, key=key)`. -/
def sortOn (key : α → κ) (items : List α) : List α :=
  items.insertionSort fun first second => key first ≤ key second

theorem sortOn_perm (key : α → κ) (items : List α) : (sortOn key items).Perm items :=
  List.perm_insertionSort _ items

theorem pairwise_sortOn (key : α → κ) (items : List α) :
    (sortOn key items).Pairwise fun first second => key first ≤ key second := by
  have : Std.Total fun first second : α => key first ≤ key second :=
    ⟨fun first second => le_total (key first) (key second)⟩
  have : IsTrans α fun first second => key first ≤ key second :=
    ⟨fun _ _ _ => le_trans⟩
  exact List.pairwise_insertionSort _ items

/-- Sorted lists of the same items are equal when the key tells the items apart. -/
theorem eq_of_sorted_perm {items others : List α}
    (injective : ∀ first ∈ items, ∀ second ∈ items, key first = key second → first = second)
    (sorted : items.Pairwise fun first second => key first ≤ key second)
    (otherSorted : others.Pairwise fun first second => key first ≤ key second)
    (same : items.Perm others) : items = others := by
  apply List.Perm.eq_of_pairwise _ sorted otherSorted same
  intro first second member otherMember below above
  exact injective first member second (same.mem_iff.mpr otherMember) (le_antisymm below above)

/-- Sorting under a key that is one to one keeps the items and nothing of their order. -/
theorem sortOn_eq_iff (injective : Function.Injective key) {items others : List α} :
    sortOn key items = sortOn key others ↔ items.Perm others := by
  constructor
  · intro same
    exact (sortOn_perm key items).symm.trans (same ▸ sortOn_perm key others)
  · intro same
    apply eq_of_sorted_perm (fun _ _ _ _ equal => injective equal) (pairwise_sortOn key items)
      (pairwise_sortOn key others)
    exact (sortOn_perm key items).trans (same.trans (sortOn_perm key others).symm)

end Sorting

section Mapped

variable {ε α β κ : Type} [LinearOrder κ] {action : α → Except ε β}

theorem mapAll_perm {items others : List α} {images : List β}
    (mapped : mapAll action items = .ok images) (same : items.Perm others) :
    ∃ otherImages, mapAll action others = .ok otherImages ∧ images.Perm otherImages := by
  obtain ⟨otherImages, each, moved⟩ := List.perm_comp_forall₂ same.symm (mapAll_eq_ok_iff.mp mapped)
  exact ⟨otherImages, mapAll_eq_ok_iff.mpr each, moved.symm⟩

theorem mapAll_of_matched {related : α → α → Prop}
    (kept : ∀ item other image, related item other → action item = .ok image →
      action other = .ok image)
    {items others : List α} (matched : List.Forall₂ related items others)
    {images : List β} (mapped : mapAll action items = .ok images) :
    mapAll action others = .ok images := by
  have acted := mapAll_eq_ok_iff.mp mapped
  clear mapped
  apply mapAll_eq_ok_iff.mpr
  induction matched generalizing images with
  | nil =>
      cases acted
      exact .nil
  | cons related _ ih =>
      cases acted with
      | cons first rest => exact .cons (kept _ _ _ related first) (ih rest)

/-- What the items and their images have in common, they have in the same order. -/
theorem map_eq_of_mapAll {γ : Type*} {seen : α → γ} {imageSeen : β → γ}
    (kept : ∀ item image, action item = .ok image → imageSeen image = seen item) {items : List α}
    {images : List β} (mapped : mapAll action items = .ok images) :
    images.map imageSeen = items.map seen := by
  have each := mapAll_eq_ok_iff.mp mapped
  clear mapped
  induction each with
  | nil => rfl
  | cons acted _ ih => rw [List.map_cons, List.map_cons, kept _ _ acted, ih]

theorem mapAll_perm_iff {items others : List α} {images otherImages : List β}
    (mapped : mapAll action items = .ok images)
    (otherMapped : mapAll action others = .ok otherImages) :
    (items.map action).Perm (others.map action) ↔ images.Perm otherImages := by
  rw [← map_eq_of_mapAll (fun _ _ acted => acted.symm) mapped,
    ← map_eq_of_mapAll (fun _ _ acted => acted.symm) otherMapped]
  exact List.map_perm_map_iff fun _ _ same => Except.ok.inj same

/-- A map that keeps the key maps a sorted list to a sorted list. -/
theorem sorted_of_mapAll {key : α → κ} {imageKey : β → κ}
    (keyed : ∀ item image, action item = .ok image → imageKey image = key item) {items : List α}
    {images : List β} (mapped : mapAll action items = .ok images)
    (sorted : items.Pairwise fun first second => key first ≤ key second) :
    images.Pairwise fun first second => imageKey first ≤ imageKey second := by
  have ordered : (images.map imageKey).Pairwise (· ≤ ·) := by
    rw [map_eq_of_mapAll keyed mapped]
    exact List.pairwise_map.mpr sorted
  exact List.pairwise_map.mp ordered

/-- Mapped in sorted order, lists with the same images have them in the same order. -/
theorem mapAll_sortOn_of_perm {key : α → κ} {imageKey : β → κ}
    (keyed : ∀ item image, action item = .ok image → imageKey image = key item)
    {items others : List α} {images otherImages : List β}
    (mapped : mapAll action (sortOn key items) = .ok images)
    (injective : ∀ first ∈ images, ∀ second ∈ images,
      imageKey first = imageKey second → first = second)
    (otherMapped : mapAll action others = .ok otherImages) (same : images.Perm otherImages) :
    mapAll action (sortOn key others) = .ok images := by
  obtain ⟨sortedImages, sortedMapped, moved⟩ :=
    mapAll_perm otherMapped (sortOn_perm key others).symm
  have equal : images = sortedImages := by
    apply eq_of_sorted_perm injective
    · exact sorted_of_mapAll keyed mapped (pairwise_sortOn key items)
    · exact sorted_of_mapAll keyed sortedMapped (pairwise_sortOn key others)
    · exact same.trans moved
  rw [equal, sortedMapped]

end Mapped

end Foundation
