import QueryGate.Foundation.FoldedDict

/-! # Unions of keyed lists

A table of lists whose keys count as the same when a fold of them is. A lookup
answers with the first such entry alone, so what later entries list under another
writing of the key is lost to it. `unite` collects all entries of a key under one
writing; a lookup in the union sees everything any of them lists.
-/

namespace Foundation

variable {κ φ α : Type} [DecidableEq κ] [DecidableEq φ] {fold : κ → φ} {spell : κ → κ}

/-- Some entry under the key, however it is written, lists the value. -/
def Lists (fold : κ → φ) (entries : List (κ × List α)) (key : κ) (value : α) : Prop :=
  ∃ entry ∈ entries, fold entry.1 = fold key ∧ value ∈ entry.2

/-- The lists of all entries, collected under one writing of each key. -/
def unite (spell : κ → κ) (entries : List (κ × List α)) : List (κ × List α) :=
  entries.foldl (fun united entry =>
    dictSet united (spell entry.1) ((dictGet united (spell entry.1)).getD [] ++ entry.2)) []

/-- A writing of keys that keeps what they fold to and depends on nothing else. -/
structure SpellsAlike (fold : κ → φ) (spell : κ → κ) (keys : List κ) : Prop where
  keeps : ∀ key ∈ keys, fold (spell key) = fold key
  agrees : ∀ first ∈ keys, ∀ second ∈ keys, fold first = fold second → spell first = spell second

omit [DecidableEq κ] [DecidableEq φ] in
theorem Lists.mono {entries larger : List (κ × List α)} (sub : entries ⊆ larger) {key : κ} {value : α}
    (listed : Lists fold entries key value) : Lists fold larger key value := by
  obtain ⟨entry, member, same, inEntry⟩ := listed
  exact ⟨entry, sub member, same, inEntry⟩

omit [DecidableEq κ] [DecidableEq φ] in
theorem lists_append {first second : List (κ × List α)} {key : κ} {value : α} :
    Lists fold (first ++ second) key value ↔
      Lists fold first key value ∨ Lists fold second key value := by
  constructor
  · rintro ⟨entry, member, same, inEntry⟩
    rcases List.mem_append.mp member with early | late
    · exact .inl ⟨entry, early, same, inEntry⟩
    · exact .inr ⟨entry, late, same, inEntry⟩
  · rintro (listed | listed)
    · exact listed.mono (List.subset_append_left _ _)
    · exact listed.mono (List.subset_append_right _ _)

omit [DecidableEq κ] in
/-- What a lookup finds, some entry lists. -/
theorem lists_of_found {entries : List (κ × List α)} {key : κ} {value : α}
    (found : value ∈ (foldGet fold entries key).getD []) : Lists fold entries key value := by
  unfold foldGet at found
  cases searched : entries.find? fun entry => fold entry.1 = fold key with
  | none =>
      rw [searched] at found
      exact absurd found List.not_mem_nil
  | some entry =>
      rw [searched] at found
      have hit := List.find?_some searched
      exact ⟨entry, List.mem_of_find?_eq_some searched, of_decide_eq_true hit, found⟩

omit [DecidableEq κ] in
/-- Where keys fold apart, a lookup finds what any entry of the key lists. -/
theorem found_of_lists {entries : List (κ × List α)} (apart : FoldedKeys fold entries) {key : κ}
    {value : α} (listed : Lists fold entries key value) :
    value ∈ (foldGet fold entries key).getD [] := by
  obtain ⟨entry, member, same, inEntry⟩ := listed
  have inFolded : (fold entry.1, entry.2) ∈ folded fold entries :=
    List.mem_map.mpr ⟨entry, member, rfl⟩
  have found := dictGet_of_mem_nodup apart inFolded
  rw [foldGet_eq_dictGet, ← same, found]
  exact inEntry

section Unite

variable {entries : List (κ × List α)}

/-- One more entry adds what it lists. -/
theorem dictGet_unite_append (entry : κ × List α) (key : κ) :
    (dictGet (unite spell (entries ++ [entry])) key).getD [] =
      (dictGet (unite spell entries) key).getD [] ++ if spell entry.1 = key then entry.2 else [] := by
  have unfolded : unite spell (entries ++ [entry]) = dictSet (unite spell entries) (spell entry.1)
      ((dictGet (unite spell entries) (spell entry.1)).getD [] ++ entry.2) := by
    unfold unite
    rw [List.foldl_append]
    rfl
  rw [unfolded, dictGet_dictSet]
  by_cases same : spell entry.1 = key
  · rw [if_pos same, if_pos same, same]
    rfl
  · rw [if_neg same, if_neg same, List.append_nil]

theorem mem_dictGet_unite {key : κ} {value : α} :
    value ∈ (dictGet (unite spell entries) key).getD [] ↔
      ∃ entry ∈ entries, spell entry.1 = key ∧ value ∈ entry.2 := by
  induction entries using List.reverseRecOn with
  | nil => simp [unite, dictGet]
  | append_singleton entries entry ih =>
      rw [dictGet_unite_append, List.mem_append, ih]
      constructor
      · rintro (⟨early, member, same, inEntry⟩ | inLast)
        · exact ⟨early, List.mem_append_left _ member, same, inEntry⟩
        · by_cases same : spell entry.1 = key
          · rw [if_pos same] at inLast
            exact ⟨entry, List.mem_append_right _ (List.mem_singleton.mpr rfl), same, inLast⟩
          · rw [if_neg same] at inLast
            exact absurd inLast List.not_mem_nil
      · rintro ⟨other, member, same, inEntry⟩
        rcases List.mem_append.mp member with early | last
        · exact .inl ⟨other, early, same, inEntry⟩
        · cases List.mem_singleton.mp last
          apply Or.inr
          rw [if_pos same]
          exact inEntry

theorem mem_dictKeys_unite {key : κ} :
    key ∈ dictKeys (unite spell entries) ↔ ∃ entry ∈ entries, spell entry.1 = key := by
  induction entries using List.reverseRecOn with
  | nil => simp [unite, dictKeys]
  | append_singleton entries entry ih =>
      unfold unite at ih ⊢
      rw [List.foldl_append, List.foldl_cons, List.foldl_nil, mem_dictKeys_dictSet, ih]
      constructor
      · rintro (rfl | ⟨early, member, same⟩)
        · exact ⟨entry, List.mem_append_right _ (List.mem_singleton.mpr rfl), rfl⟩
        · exact ⟨early, List.mem_append_left _ member, same⟩
      · rintro ⟨other, member, same⟩
        rcases List.mem_append.mp member with early | last
        · exact .inr ⟨other, early, same⟩
        · cases List.mem_singleton.mp last
          exact .inl same.symm

theorem nodup_dictKeys_unite : (dictKeys (unite spell entries)).Nodup := by
  induction entries using List.reverseRecOn with
  | nil => exact List.nodup_nil
  | append_singleton entries entry ih =>
      unfold unite at ih ⊢
      rw [List.foldl_append, List.foldl_cons, List.foldl_nil]
      exact nodup_dictSet ih _ _

variable (alike : SpellsAlike fold spell (entries.map Prod.fst))
include alike

omit [DecidableEq φ] in
/-- The keys of a union fold apart. -/
theorem foldedKeys_unite : FoldedKeys fold (unite spell entries) := by
  have keys : dictKeys (folded fold (unite spell entries)) =
      (dictKeys (unite spell entries)).map fold := by
    unfold dictKeys folded
    rw [List.map_map, List.map_map]
    rfl
  unfold FoldedKeys
  rw [keys]
  refine nodup_dictKeys_unite.map_on fun first inFirst second inSecond same => ?_
  obtain ⟨left, inLeft, rfl⟩ := mem_dictKeys_unite.mp inFirst
  obtain ⟨right, inRight, rfl⟩ := mem_dictKeys_unite.mp inSecond
  have leftKey := List.mem_map_of_mem (f := Prod.fst) inLeft
  have rightKey := List.mem_map_of_mem (f := Prod.fst) inRight
  rw [alike.keeps _ leftKey, alike.keeps _ rightKey] at same
  exact alike.agrees _ leftKey _ rightKey same

omit [DecidableEq φ] in
/-- A union lists what the entries list. -/
theorem lists_unite {key : κ} {value : α} :
    Lists fold (unite spell entries) key value ↔ Lists fold entries key value := by
  constructor
  · rintro ⟨united, member, same, inUnited⟩
    have found : value ∈ (dictGet (unite spell entries) united.1).getD [] := by
      rw [dictGet_of_mem_nodup nodup_dictKeys_unite member]
      exact inUnited
    obtain ⟨entry, inEntries, spelled, inEntry⟩ := mem_dictGet_unite.mp found
    refine ⟨entry, inEntries, ?_, inEntry⟩
    rw [← same, ← spelled, alike.keeps _ (List.mem_map_of_mem inEntries)]
  · rintro ⟨entry, inEntries, same, inEntry⟩
    have found : value ∈ (dictGet (unite spell entries) (spell entry.1)).getD [] :=
      mem_dictGet_unite.mpr ⟨entry, inEntries, rfl, inEntry⟩
    cases looked : dictGet (unite spell entries) (spell entry.1) with
    | none =>
        rw [looked] at found
        exact absurd found List.not_mem_nil
    | some list =>
        rw [looked] at found
        refine ⟨_, dictGet_eq_some_mem looked, ?_, found⟩
        rw [← same]
        exact alike.keeps _ (List.mem_map_of_mem inEntries)

/-- A lookup in a union finds exactly what the entries list. -/
theorem found_unite {key : κ} {value : α} :
    value ∈ (foldGet fold (unite spell entries) key).getD [] ↔ Lists fold entries key value := by
  rw [← lists_unite alike]
  exact ⟨lists_of_found, found_of_lists (foldedKeys_unite alike)⟩

end Unite

/-- Everything the smaller table says, to a lookup or anywhere, the larger says. -/
structure Covers (fold : κ → φ) (larger smaller : List (κ × List α)) : Prop where
  found : ∀ key, ∀ value ∈ (foldGet fold smaller key).getD [],
    value ∈ (foldGet fold larger key).getD []
  listed : ∀ key value, Lists fold smaller key value → Lists fold larger key value
  keys : ∀ entry ∈ smaller, ∃ other ∈ larger, fold other.1 = fold entry.1

omit [DecidableEq κ] in
theorem Covers.refl (entries : List (κ × List α)) : Covers fold entries entries where
  found _ _ found := found
  listed _ _ listed := listed
  keys entry member := ⟨entry, member, rfl⟩

omit [DecidableEq φ] in
/-- The keys of a union are those of its entries, up to their writing. -/
theorem exists_mem_unite {entries : List (κ × List α)}
    (alike : SpellsAlike fold spell (entries.map Prod.fst)) {entry : κ × List α}
    (member : entry ∈ entries) : ∃ other ∈ unite spell entries, fold other.1 = fold entry.1 := by
  obtain ⟨other, inUnited, same⟩ :=
    List.mem_map.mp (mem_dictKeys_unite.mpr ⟨entry, member, rfl⟩)
  refine ⟨other, inUnited, ?_⟩
  rw [same]
  exact alike.keeps _ (List.mem_map_of_mem member)

/-- A union covers each table it is made of. -/
theorem covers_unite {entries smaller : List (κ × List α)}
    (alike : SpellsAlike fold spell (entries.map Prod.fst)) (sub : smaller ⊆ entries) :
    Covers fold (unite spell entries) smaller where
  found _ _ found := (found_unite alike).mpr ((lists_of_found found).mono sub)
  listed _ _ listed := (lists_unite alike).mpr (listed.mono sub)
  keys _ member := exists_mem_unite alike (sub member)

/-- Unions are monotone: more listed before them is more found in them. -/
theorem covers_unite_unite {other : κ → κ} {larger smaller : List (κ × List α)}
    (alike : SpellsAlike fold spell (larger.map Prod.fst))
    (alikeToo : SpellsAlike fold other (smaller.map Prod.fst))
    (listed : ∀ key value, Lists fold smaller key value → Lists fold larger key value)
    (keys : ∀ entry ∈ smaller, ∃ more ∈ larger, fold more.1 = fold entry.1) :
    Covers fold (unite spell larger) (unite other smaller) where
  found key value found := (found_unite alike).mpr (listed key value ((found_unite alikeToo).mp found))
  listed key value lists := (lists_unite alike).mpr (listed key value ((lists_unite alikeToo).mp lists))
  keys united member := by
    obtain ⟨entry, inSmaller, spelled⟩ :=
      mem_dictKeys_unite.mp (List.mem_map_of_mem (f := Prod.fst) member)
    obtain ⟨more, inLarger, same⟩ := keys entry inSmaller
    obtain ⟨found, inUnited, sameToo⟩ := exists_mem_unite alike inLarger
    refine ⟨found, inUnited, ?_⟩
    rw [sameToo, same, ← spelled]
    exact (alikeToo.keeps _ (List.mem_map_of_mem inSmaller)).symm

end Foundation
