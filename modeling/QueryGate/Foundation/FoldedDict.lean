import QueryGate.Foundation.Dict

/-! # Dictionaries read through a folded key

A dictionary whose keys count as the same when a fold of them is, as identifiers do
when letter case is ignored. Keys are listed as they were first written, and at most one
entry is kept for each folded key.
-/

namespace Foundation

variable {κ φ α : Type} [DecidableEq φ] (fold : κ → φ)

/-- The dictionary under the folded keys. -/
def folded (entries : List (κ × α)) : List (φ × α) :=
  entries.map fun entry => (fold entry.1, entry.2)

/-- The entry under the first key that folds to the same. -/
def foldGet (entries : List (κ × α)) (key : κ) : Option α :=
  (entries.find? fun entry => fold entry.1 = fold key).map Prod.snd

/-- Assign under the key that is listed already, or append the new key. -/
def foldSet (entries : List (κ × α)) (key : κ) (value : α) : List (κ × α) :=
  match entries with
  | [] => [(key, value)]
  | entry :: rest =>
      if fold entry.1 = fold key then (entry.1, value) :: rest else entry :: foldSet rest key value

/-- Assign and list the entry as the key is written now. -/
def foldRewrite (entries : List (κ × α)) (key : κ) (value : α) : List (κ × α) :=
  match entries with
  | [] => [(key, value)]
  | entry :: rest =>
      if fold entry.1 = fold key then (key, value) :: rest
      else entry :: foldRewrite rest key value

/-- Drop the first entry whose key folds to the same. -/
def foldErase (entries : List (κ × α)) (key : κ) : List (κ × α) :=
  entries.eraseP fun entry => fold entry.1 = fold key

/-- No two keys fold to the same. -/
def FoldedKeys (entries : List (κ × α)) : Prop :=
  (dictKeys (folded fold entries)).Nodup

instance (entries : List (κ × α)) : Decidable (FoldedKeys fold entries) :=
  inferInstanceAs (Decidable (List.Nodup _))

variable {fold}

theorem foldGet_eq_dictGet (entries : List (κ × α)) (key : κ) :
    foldGet fold entries key = dictGet (folded fold entries) (fold key) := by
  induction entries with
  | nil => rfl
  | cons entry rest ih =>
      unfold foldGet folded at ih ⊢
      by_cases hit : fold entry.1 = fold key
      · simp [dictGet, hit]
      · simpa [dictGet, hit] using ih

theorem foldGet_congr (entries : List (κ × α)) {key other : κ} (same : fold key = fold other) :
    foldGet fold entries key = foldGet fold entries other := by
  unfold foldGet
  rw [same]

/-- A dictionary whose values are replaced answers with what stands for the entry found. -/
theorem foldGet_map {β : Type} (image : κ → α → β) {entries : List (κ × α)} {key : κ} {value : β}
    (found : foldGet fold (entries.map fun entry => (entry.1, image entry.1 entry.2)) key =
      some value) :
    ∃ written old, foldGet fold entries key = some old ∧ fold written = fold key ∧
      value = image written old := by
  unfold foldGet at found ⊢
  rw [List.find?_map] at found
  obtain ⟨replaced, mapped, rfl⟩ := Option.map_eq_some_iff.mp found
  obtain ⟨entry, hit, rfl⟩ := Option.map_eq_some_iff.mp mapped
  have listed : entries.find? (fun entry => fold entry.1 = fold key) = some entry := hit
  have same := List.find?_some listed
  exact ⟨entry.1, entry.2, by rw [listed, Option.map_some], of_decide_eq_true same, rfl⟩

theorem dictGet_map [DecidableEq κ] {β : Type} (image : κ → α → β) (entries : List (κ × α))
    (key : κ) : dictGet (entries.map fun entry => (entry.1, image entry.1 entry.2)) key =
      (dictGet entries key).map (image key) := by
  induction entries with
  | nil => rfl
  | cons entry rest ih =>
      rw [List.map_cons, dictGet, dictGet, ih]
      by_cases hit : entry.1 = key
      · rw [if_pos hit, if_pos hit, hit, Option.map_some]
      · rw [if_neg hit, if_neg hit]

theorem folded_foldSet (entries : List (κ × α)) (key : κ) (value : α) :
    folded fold (foldSet fold entries key value) =
      dictSet (folded fold entries) (fold key) value := by
  induction entries with
  | nil => rfl
  | cons entry rest ih =>
      unfold folded at ih ⊢
      by_cases hit : fold entry.1 = fold key
      · simp [foldSet, dictSet, hit]
      · simpa [foldSet, dictSet, hit] using ih

theorem folded_foldRewrite (entries : List (κ × α)) (key : κ) (value : α) :
    folded fold (foldRewrite fold entries key value) =
      dictSet (folded fold entries) (fold key) value := by
  induction entries with
  | nil => rfl
  | cons entry rest ih =>
      unfold folded at ih ⊢
      by_cases hit : fold entry.1 = fold key
      · simp [foldRewrite, dictSet, hit]
      · simpa [foldRewrite, dictSet, hit] using ih

theorem foldGet_foldSet (entries : List (κ × α)) (key other : κ) (value : α) :
    foldGet fold (foldSet fold entries key value) other =
      if fold key = fold other then some value else foldGet fold entries other := by
  rw [foldGet_eq_dictGet, folded_foldSet, dictGet_dictSet, foldGet_eq_dictGet]

theorem foldGet_foldRewrite (entries : List (κ × α)) (key other : κ) (value : α) :
    foldGet fold (foldRewrite fold entries key value) other =
      if fold key = fold other then some value else foldGet fold entries other := by
  rw [foldGet_eq_dictGet, folded_foldRewrite, dictGet_dictSet, foldGet_eq_dictGet]

/-- With distinct keys, erasing forgets the erased key alone. -/
theorem foldGet_foldErase {entries : List (κ × α)} (distinct : FoldedKeys fold entries)
    (key other : κ) :
    foldGet fold (foldErase fold entries key) other =
      if fold key = fold other then none else foldGet fold entries other := by
  induction entries with
  | nil => simp [foldErase, foldGet]
  | cons entry rest ih =>
      obtain ⟨fresh, distinctRest⟩ := List.nodup_cons.mp distinct
      by_cases hit : fold entry.1 = fold key
      · have erased : foldErase fold (entry :: rest) key = rest := by simp [foldErase, hit]
        rw [erased]
        by_cases same : fold key = fold other
        · rw [if_pos same, foldGet_eq_dictGet, dictGet_eq_none_iff, ← same, ← hit]
          exact fresh
        · have apart : fold entry.1 ≠ fold other := fun meets => same (hit.symm.trans meets)
          simp [foldGet, same, apart]
      · have kept : foldErase fold (entry :: rest) key = entry :: foldErase fold rest key := by
          simp [foldErase, hit]
        have later := ih distinctRest
        rw [kept]
        by_cases found : fold entry.1 = fold other
        · have apart : fold key ≠ fold other := fun meets => hit (found.trans meets.symm)
          simp [foldGet, found, apart]
        · simpa [foldGet, found] using later

theorem foldedKeys_foldSet {entries : List (κ × α)} (distinct : FoldedKeys fold entries) (key : κ)
    (value : α) : FoldedKeys fold (foldSet fold entries key value) := by
  unfold FoldedKeys
  rw [folded_foldSet]
  exact nodup_dictSet distinct _ _

theorem foldedKeys_foldRewrite {entries : List (κ × α)} (distinct : FoldedKeys fold entries)
    (key : κ) (value : α) : FoldedKeys fold (foldRewrite fold entries key value) := by
  unfold FoldedKeys
  rw [folded_foldRewrite]
  exact nodup_dictSet distinct _ _

theorem foldErase_sublist (entries : List (κ × α)) (key : κ) :
    (foldErase fold entries key).Sublist entries :=
  List.eraseP_sublist

theorem foldedKeys_foldErase {entries : List (κ × α)} (distinct : FoldedKeys fold entries)
    (key : κ) : FoldedKeys fold (foldErase fold entries key) :=
  distinct.sublist (((foldErase_sublist entries key).map _).map _)

end Foundation
