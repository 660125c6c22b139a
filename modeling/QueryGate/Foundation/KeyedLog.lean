import Mathlib.Data.List.Nodup
import Mathlib.Data.List.Perm.Basic

/-! # Keyed logs

A log that takes an item unless it holds one of the same key, and that keeps no more than its
newest items. What a batch does to it is read off `KeyedLog.Absorbed`.
-/

namespace Foundation

section Newest

variable {α : Type*}

/-- `del items[: len(items) - limit]`, where there are more than that. -/
def keepLast (limit : Nat) (items : List α) : List α :=
  items.drop (items.length - limit)

/-- What is deleted. -/
def beforeLast (limit : Nat) (items : List α) : List α :=
  items.take (items.length - limit)

theorem beforeLast_append_keepLast (limit : Nat) (items : List α) :
    beforeLast limit items ++ keepLast limit items = items :=
  List.take_append_drop ..

theorem length_keepLast_le (limit : Nat) (items : List α) :
    (keepLast limit items).length ≤ limit := by
  rw [keepLast, List.length_drop]
  omega

theorem length_keepLast_of_beforeLast {limit : Nat} {items : List α}
    (deleted : beforeLast limit items ≠ []) : (keepLast limit items).length = limit := by
  have crowded : items.length - limit ≠ 0 := by
    intro roomy
    rw [beforeLast, roomy, List.take_zero] at deleted
    exact deleted rfl
  rw [keepLast, List.length_drop]
  omega

theorem keepLast_sublist (limit : Nat) (items : List α) : (keepLast limit items).Sublist items :=
  List.drop_sublist ..

theorem length_keepLast_of_le {limit : Nat} {items : List α} (crowded : limit ≤ items.length) :
    (keepLast limit items).length = limit := by
  rw [keepLast, List.length_drop]
  omega

/-- The newest item stays. -/
theorem getLast?_keepLast {limit : Nat} (room : 0 < limit) {items : List α} (some : items ≠ []) :
    (keepLast limit items).getLast? = items.getLast? := by
  have counted := List.length_pos_iff.mpr some
  rw [keepLast, List.getLast?_drop, if_neg (by omega)]

theorem keepLast_eq_nil {limit : Nat} {items : List α} (room : 0 < limit)
    (none : keepLast limit items = []) : items = [] := by
  have lengths := congrArg List.length none
  rw [keepLast, List.length_drop, List.length_nil] at lengths
  apply List.eq_nil_iff_length_eq_zero.mpr
  omega

end Newest

/-- A log in the middle of a batch: what it holds, the keys of that, and what became of the
items of the batch so far. -/
structure KeyedLog (α κ : Type*) where
  items : List α
  keys : List κ
  recorded : List α := []
  duplicates : List α := []

namespace KeyedLog

variable {α κ : Type*} [DecidableEq κ] (key : α → κ)

/-- Take an item unless its key is there. -/
def absorb (log : KeyedLog α κ) (item : α) : KeyedLog α κ :=
  if key item ∈ log.keys then { log with duplicates := log.duplicates ++ [item] }
  else
    { log with
      items := log.items ++ [item]
      keys := log.keys ++ [key item]
      recorded := log.recorded ++ [item] }

/-- The log of these items. -/
def ofItems (items : List α) : KeyedLog α κ where
  items := items
  keys := items.map key

/-- Take a batch. -/
def absorbAll (items batch : List α) : KeyedLog α κ :=
  batch.foldl (absorb key) (ofItems key items)

/-- What a batch has done to a log. -/
structure Absorbed (start batch : List α) (log : KeyedLog α κ) : Prop where
  items : log.items = start ++ log.recorded
  keys : log.keys = log.items.map key
  taken : batch.Perm (log.recorded ++ log.duplicates)
  distinct : (start.map key).Nodup → (log.items.map key).Nodup
  known : ∀ item ∈ log.duplicates, key item ∈ log.items.map key

variable {key}

theorem Absorbed.absorb {start batch : List α} {log : KeyedLog α κ}
    (absorbed : Absorbed key start batch log) (item : α) :
    Absorbed key start (batch ++ [item]) (log.absorb key item) := by
  unfold KeyedLog.absorb
  split
  case isTrue held =>
    refine ⟨absorbed.items, absorbed.keys, ?_, absorbed.distinct, ?_⟩
    · rw [← List.append_assoc]
      exact absorbed.taken.append_right [item]
    · intro other member
      rcases List.mem_append.mp member with before | new
      · exact absorbed.known other before
      · rw [List.mem_singleton.mp new, ← absorbed.keys]
        exact held
  case isFalse fresh =>
    refine ⟨?_, ?_, ?_, ?_, ?_⟩
    · dsimp only
      rw [absorbed.items, List.append_assoc]
    · dsimp only
      rw [absorbed.keys, List.map_append, List.map_singleton]
    · dsimp only
      rw [List.append_assoc]
      apply (absorbed.taken.append_right [item]).trans
      rw [List.append_assoc]
      exact List.perm_append_comm.append_left log.recorded
    · intro distinct
      dsimp only
      rw [List.map_append, List.map_singleton]
      rw [absorbed.keys] at fresh
      refine List.nodup_append.mpr ⟨absorbed.distinct distinct, List.nodup_singleton _, ?_⟩
      intro other inside new member same
      rw [same, List.mem_singleton.mp member] at inside
      exact fresh inside
    · intro other member
      dsimp only
      rw [List.map_append]
      exact List.mem_append_left _ (absorbed.known other member)

theorem absorbed_foldl {start before batch : List α} {log : KeyedLog α κ}
    (absorbed : Absorbed key start before log) :
    Absorbed key start (before ++ batch) (batch.foldl (KeyedLog.absorb key) log) := by
  induction batch generalizing before log with
  | nil =>
      rw [List.append_nil]
      exact absorbed
  | cons item rest ih =>
      have later := ih (absorbed.absorb item)
      rwa [List.append_assoc] at later

theorem absorbed_absorbAll (key : α → κ) (start batch : List α) :
    Absorbed key start batch (absorbAll key start batch) := by
  have begun : Absorbed key start [] (ofItems key start) :=
    ⟨(List.append_nil _).symm, rfl, .nil, id, fun _ member => nomatch member⟩
  exact absorbed_foldl begun

/-- A batch whose keys are all there changes nothing. -/
theorem absorbAll_of_known {items batch : List α}
    (known : ∀ item ∈ batch, key item ∈ items.map key) :
    absorbAll key items batch =
      { items := items, keys := items.map key, duplicates := batch } := by
  have each : ∀ (rest before : List α), (∀ item ∈ rest, key item ∈ items.map key) →
      rest.foldl (absorb key) { items := items, keys := items.map key, duplicates := before } =
        { items := items, keys := items.map key, duplicates := before ++ rest } := by
    intro rest
    induction rest with
    | nil =>
        intro before _
        rw [List.foldl_nil, List.append_nil]
    | cons item rest ih =>
        intro before known
        have here : key item ∈ items.map key := known item (List.mem_cons_self ..)
        rw [List.foldl_cons, absorb, if_pos here,
          ih _ fun other member => known other (List.mem_cons_of_mem _ member),
          List.append_assoc, List.singleton_append]
  exact each batch [] known

/-- A batch is known throughout when the log takes none of it. -/
theorem recorded_eq_nil_iff {items batch : List α} :
    (absorbAll key items batch).recorded = [] ↔ ∀ item ∈ batch, key item ∈ items.map key := by
  constructor
  · intro none item member
    have absorbed := absorbed_absorbAll key items batch
    have taken := absorbed.taken
    rw [none, List.nil_append] at taken
    have known := absorbed.known item (taken.mem_iff.mp member)
    rwa [absorbed.items, none, List.append_nil] at known
  · intro known
    rw [absorbAll_of_known known]

end KeyedLog

end Foundation
