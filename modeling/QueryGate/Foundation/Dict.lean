import Mathlib

/-! # Insertion-ordered dictionaries

A dictionary is an association list in insertion order, with at most one entry
per key when it is built by `dictOf`. `dictSet` overwrites in place, as Python's
`d[key] = value` does.
-/

namespace Foundation

variable {κ α β : Type} [DecidableEq κ]

/-- `entries[key] = value`. -/
def dictSet (entries : List (κ × α)) (key : κ) (value : α) : List (κ × α) :=
  match entries with
  | [] => [(key, value)]
  | entry :: rest =>
      if entry.1 = key then (key, value) :: rest else entry :: dictSet rest key value

/-- The dictionary of a sequence of assignments. -/
def dictOf (pairs : List (κ × α)) : List (κ × α) :=
  pairs.foldl (fun entries pair => dictSet entries pair.1 pair.2) []

/-- `entries.get(key)`. -/
def dictGet (entries : List (κ × α)) (key : κ) : Option α :=
  match entries with
  | [] => none
  | entry :: rest => if entry.1 = key then some entry.2 else dictGet rest key

/-- The keys in insertion order. -/
def dictKeys (entries : List (κ × α)) : List κ :=
  entries.map Prod.fst

theorem dictGet_dictSet (entries : List (κ × α)) (key other : κ) (value : α) :
    dictGet (dictSet entries key value) other =
      if key = other then some value else dictGet entries other := by
  induction entries with
  | nil => simp [dictSet, dictGet]
  | cons entry rest ih =>
      unfold dictSet
      by_cases hit : entry.1 = key
      · rw [if_pos hit]
        simp only [dictGet, hit]
        by_cases same : key = other
        · simp [same]
        · simp [same]
      · rw [if_neg hit]
        simp only [dictGet, ih]
        by_cases found : entry.1 = other
        · have apart : key ≠ other := fun same => hit (found.trans same.symm)
          simp [found, apart]
        · simp [found]

/-- A dictionary answers with the last assignment to the key. -/
theorem mem_of_mem_dictSet {entries : List (κ × α)} {key : κ} {value : α} {entry : κ × α}
    (member : entry ∈ dictSet entries key value) : entry ∈ entries ∨ entry = (key, value) := by
  induction entries with
  | nil => exact .inr (List.mem_singleton.mp member)
  | cons first rest ih =>
      unfold dictSet at member
      split at member
      · rcases List.mem_cons.mp member with same | later
        · exact .inr same
        · exact .inl (List.mem_cons_of_mem _ later)
      · rcases List.mem_cons.mp member with rfl | later
        · exact .inl (List.mem_cons_self ..)
        · rcases ih later with old | new
          · exact .inl (List.mem_cons_of_mem _ old)
          · exact .inr new

theorem mem_of_mem_foldl_dictSet {pairs entries : List (κ × α)} {entry : κ × α}
    (member : entry ∈ pairs.foldl (fun dict pair => dictSet dict pair.1 pair.2) entries) :
    entry ∈ entries ∨ entry ∈ pairs := by
  induction pairs generalizing entries with
  | nil => exact .inl member
  | cons pair rest ih =>
      rcases ih member with set | later
      · rcases mem_of_mem_dictSet set with old | rfl
        · exact .inl old
        · exact .inr (List.mem_cons_self ..)
      · exact .inr (List.mem_cons_of_mem _ later)

theorem dictGet_foldl (pairs : List (κ × α)) (entries : List (κ × α)) (key : κ) :
    dictGet (pairs.foldl (fun dict pair => dictSet dict pair.1 pair.2) entries) key =
      (dictGet pairs.reverse key).or (dictGet entries key) := by
  induction pairs generalizing entries with
  | nil => simp [dictGet]
  | cons pair rest ih =>
      rw [List.foldl_cons, ih, List.reverse_cons, dictGet_dictSet]
      have split : ∀ front : List (κ × α),
          dictGet (front ++ [pair]) key =
            (dictGet front key).or (if pair.1 = key then some pair.2 else none) := by
        intro front
        induction front with
        | nil => simp [dictGet]
        | cons head tail tailIh =>
            simp only [List.cons_append, dictGet, tailIh]
            by_cases hit : head.1 = key
            · simp [hit]
            · simp [hit]
      rw [split]
      by_cases hit : pair.1 = key
      · cases dictGet rest.reverse key with
        | none => simp [hit]
        | some value => simp [hit]
      · cases dictGet rest.reverse key with
        | none => simp [hit]
        | some value => simp [hit]

theorem dictGet_dictOf (pairs : List (κ × α)) (key : κ) :
    dictGet (dictOf pairs) key = dictGet pairs.reverse key := by
  unfold dictOf
  rw [dictGet_foldl]
  simp [dictGet]

theorem dictGet_eq_some_mem {entries : List (κ × α)} {key : κ} {value : α}
    (found : dictGet entries key = some value) : (key, value) ∈ entries := by
  induction entries with
  | nil => cases found
  | cons entry rest ih =>
      unfold dictGet at found
      by_cases hit : entry.1 = key
      · rw [if_pos hit] at found
        cases found
        rw [← hit]
        exact List.mem_cons_self ..
      · rw [if_neg hit] at found
        exact List.mem_cons_of_mem _ (ih found)

theorem dictGet_isSome_iff {entries : List (κ × α)} {key : κ} :
    (dictGet entries key).isSome = true ↔ key ∈ dictKeys entries := by
  induction entries with
  | nil => simp [dictGet, dictKeys]
  | cons entry rest ih =>
      unfold dictGet
      by_cases hit : entry.1 = key
      · simp [hit, dictKeys]
      · rw [if_neg hit, ih]
        simp [dictKeys, Ne.symm hit]

theorem dictGet_eq_none_iff {entries : List (κ × α)} {key : κ} :
    dictGet entries key = none ↔ key ∉ dictKeys entries := by
  rw [← dictGet_isSome_iff]
  cases dictGet entries key with
  | none => simp
  | some value => simp

/-- With distinct keys an entry is what its key answers. -/
theorem dictGet_of_mem_nodup {entries : List (κ × α)} (distinct : (dictKeys entries).Nodup)
    {key : κ} {value : α} (member : (key, value) ∈ entries) :
    dictGet entries key = some value := by
  induction entries with
  | nil => cases member
  | cons entry rest ih =>
      simp only [dictKeys, List.map_cons, List.nodup_cons] at distinct
      unfold dictGet
      rcases List.mem_cons.mp member with rfl | later
      · simp
      · have apart : entry.1 ≠ key := by
          intro same
          exact distinct.1 (same ▸ List.mem_map_of_mem later)
        rw [if_neg apart]
        exact ih distinct.2 later

theorem mem_dictKeys_dictOf {pairs : List (κ × α)} {key : κ} :
    key ∈ dictKeys (dictOf pairs) ↔ key ∈ pairs.map Prod.fst := by
  rw [← dictGet_isSome_iff, dictGet_dictOf, dictGet_isSome_iff]
  simp [dictKeys]

theorem mem_dictKeys_dictSet {entries : List (κ × α)} {key other : κ} {value : α} :
    other ∈ dictKeys (dictSet entries key value) ↔ other = key ∨ other ∈ dictKeys entries := by
  rw [← dictGet_isSome_iff, dictGet_dictSet, ← dictGet_isSome_iff]
  by_cases same : key = other
  · simp [same]
  · simp [same, Ne.symm same]

/-- Assigning keeps the keys distinct. -/
theorem nodup_dictSet {entries : List (κ × α)} (distinct : (dictKeys entries).Nodup) (key : κ)
    (value : α) : (dictKeys (dictSet entries key value)).Nodup := by
  induction entries with
  | nil => exact List.nodup_singleton key
  | cons entry rest ih =>
      have parts := List.nodup_cons.mp distinct
      unfold dictSet
      by_cases hit : entry.1 = key
      · rw [if_pos hit]
        exact List.nodup_cons.mpr ⟨hit ▸ parts.1, parts.2⟩
      · rw [if_neg hit]
        refine List.nodup_cons.mpr ⟨fun member => ?_, ih parts.2⟩
        rcases mem_dictKeys_dictSet.mp member with same | old
        · exact hit same
        · exact parts.1 old

/-- The last of two assignments to a key stands. -/
theorem dictSet_dictSet (entries : List (κ × α)) (key : κ) (first second : α) :
    dictSet (dictSet entries key first) key second = dictSet entries key second := by
  induction entries with
  | nil => simp [dictSet]
  | cons entry rest ih =>
      by_cases hit : entry.1 = key
      · simp [dictSet, hit]
      · simp [dictSet, hit, ih]

/-- Assigning to a new key appends. -/
theorem dictSet_of_not_mem {entries : List (κ × α)} {key : κ} (value : α)
    (absent : key ∉ dictKeys entries) : dictSet entries key value = entries ++ [(key, value)] := by
  induction entries with
  | nil => rfl
  | cons entry rest ih =>
      obtain ⟨apart, later⟩ := not_or.mp (mt List.mem_cons.mpr absent)
      unfold dictSet
      rw [if_neg (Ne.symm apart), ih later]
      rfl

/-- Assigning to a key of a dictionary overwrites its one entry. -/
theorem dictSet_of_nodup_of_mem {entries : List (κ × α)} {key : κ} (value : α)
    (distinct : (dictKeys entries).Nodup) (member : key ∈ dictKeys entries) :
    dictSet entries key value =
      entries.map fun entry => if entry.1 = key then (key, value) else entry := by
  induction entries with
  | nil => cases member
  | cons entry rest ih =>
      obtain ⟨fresh, distinctRest⟩ := List.nodup_cons.mp distinct
      unfold dictSet
      by_cases hit : entry.1 = key
      · rw [if_pos hit, List.map_cons, if_pos hit]
        congr 1
        refine ((List.map_congr_left fun other later => ?_).trans (List.map_id rest)).symm
        rw [if_neg]
        · rfl
        · exact fun same => fresh (hit ▸ same ▸ List.mem_map_of_mem later)
      · rw [if_neg hit, List.map_cons, if_neg hit]
        rcases List.mem_cons.mp member with same | later
        · exact absurd same.symm hit
        · rw [ih distinctRest later]

omit [DecidableEq κ] in
theorem nodup_dictKeys_filter {entries : List (κ × α)} (distinct : (dictKeys entries).Nodup)
    (keep : κ × α → Bool) : (dictKeys (entries.filter keep)).Nodup :=
  distinct.sublist (List.filter_sublist.map _)

/-- Dropping entries forgets exactly the keys whose entry is dropped. -/
theorem dictGet_filter {entries : List (κ × α)} (distinct : (dictKeys entries).Nodup)
    (keep : κ × α → Bool) (key : κ) :
    dictGet (entries.filter keep) key =
      (dictGet entries key).filter fun value => keep (key, value) := by
  cases found : dictGet entries key with
  | none =>
      rw [Option.filter_none, dictGet_eq_none_iff]
      intro member
      obtain ⟨entry, inside, rfl⟩ := List.mem_map.mp member
      exact dictGet_eq_none_iff.mp found (List.mem_map_of_mem (List.mem_of_mem_filter inside))
  | some value =>
      by_cases kept : keep (key, value) = true
      · rw [Option.filter_some_pos (p := fun value => keep (key, value)) kept]
        exact dictGet_of_mem_nodup (nodup_dictKeys_filter distinct keep)
          (List.mem_filter.mpr ⟨dictGet_eq_some_mem found, kept⟩)
      · rw [Option.filter_some, if_neg kept, dictGet_eq_none_iff]
        intro member
        obtain ⟨⟨_, other⟩, inside, rfl⟩ := List.mem_map.mp member
        obtain ⟨present, kept'⟩ := List.mem_filter.mp inside
        rw [dictGet_of_mem_nodup distinct present] at found
        cases found
        exact kept kept'

/-- Dropping the entries of some keys forgets these keys. -/
theorem dictGet_filter_key (entries : List (κ × α)) (keep : κ → Bool) (key : κ) :
    dictGet (entries.filter fun entry => keep entry.1) key =
      if keep key then dictGet entries key else none := by
  induction entries with
  | nil => simp [dictGet]
  | cons entry rest ih =>
      by_cases kept : keep entry.1 = true
      · rw [List.filter_cons, if_pos kept, dictGet, dictGet, ih]
        by_cases same : entry.1 = key
        · rw [if_pos same, if_pos same, if_pos (same ▸ kept)]
        · rw [if_neg same, if_neg same]
      · rw [List.filter_cons, if_neg kept, ih, dictGet]
        by_cases same : entry.1 = key
        · rw [if_neg (same ▸ kept), if_neg (same ▸ kept)]
        · rw [if_neg same]

end Foundation
