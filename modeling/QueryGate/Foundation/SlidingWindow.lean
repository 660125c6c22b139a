import Mathlib

/-! # Sliding windows over a log of instants

A log is a list of instants of an ordered group. `laterThan` prunes it,
`windowCount` counts the entries in the half-open window that ends at an
instant. A log that grows only while the pruned part leaves room stays within
the bound in every window (`windowCount_append_le`).
-/

namespace Foundation

variable {T : Type} [LinearOrder T]

/-- The entries of a log after a cutoff. -/
def laterThan (cutoff : T) (log : List T) : List T :=
  log.filter (cutoff < ·)

theorem mem_laterThan {cutoff entry : T} {log : List T} :
    entry ∈ laterThan cutoff log ↔ entry ∈ log ∧ cutoff < entry := by
  simp only [laterThan, List.mem_filter, decide_eq_true_eq]

theorem laterThan_append (cutoff : T) (first second : List T) :
    laterThan cutoff (first ++ second) = laterThan cutoff first ++ laterThan cutoff second :=
  List.filter_append ..

/-- Pruning at a later cutoff makes an earlier pruning superfluous. -/
theorem laterThan_laterThan {cutoff later : T} (order : cutoff ≤ later) (log : List T) :
    laterThan later (laterThan cutoff log) = laterThan later log := by
  unfold laterThan
  rw [List.filter_filter]
  refine List.filter_congr fun entry _ => ?_
  rw [Bool.and_eq_left_iff_imp]
  simpa only [decide_eq_true_eq] using fun after => lt_of_le_of_lt order after

/-- Logs that agree after a cutoff agree after a later one. -/
theorem laterThan_congr {cutoff later : T} (order : cutoff ≤ later) {first second : List T}
    (same : laterThan cutoff first = laterThan cutoff second) :
    laterThan later first = laterThan later second := by
  rw [← laterThan_laterThan order first, same, laterThan_laterThan order]

/-- Nothing in a sorted log is later than its last entry. -/
theorem laterThan_eq_nil {cutoff last : T} {log : List T} (sorted : log.Pairwise (· ≤ ·))
    (newest : log.getLast? = some last) (aged : last ≤ cutoff) : laterThan cutoff log = [] := by
  obtain ⟨front, rfl⟩ := List.getLast?_eq_some_iff.mp newest
  have bounded : ∀ entry ∈ front ++ [last], entry ≤ last := by
    intro entry member
    rcases List.mem_append.mp member with inFront | isLast
    · exact (List.pairwise_append.mp sorted).2.2 entry inFront last (List.mem_singleton.mpr rfl)
    · exact le_of_eq (List.mem_singleton.mp isLast)
  rw [laterThan, List.filter_eq_nil_iff]
  intro entry member
  rw [decide_eq_true_eq, not_lt]
  exact le_trans (bounded entry member) aged

variable [AddCommGroup T]

/-- How many entries fall in the window of the given width that ends at an instant. -/
def windowCount (width instant : T) (log : List T) : Nat :=
  (log.filter fun entry => instant - width < entry ∧ entry ≤ instant).length

theorem windowCount_append (width instant : T) (first second : List T) :
    windowCount width instant (first ++ second) =
      windowCount width instant first + windowCount width instant second := by
  rw [windowCount, List.filter_append, List.length_append]
  rfl

variable [IsOrderedAddMonoid T]

/-- A log grown at `now`, within a bound on the entries that still count then,
keeps the bound in every window. -/
theorem windowCount_append_le {width now : T} {log : List T} {count bound : Nat}
    (held : ∀ instant, windowCount width instant log ≤ bound)
    (room : (laterThan (now - width) log).length + count ≤ bound) (instant : T) :
    windowCount width instant (log ++ List.replicate count now) ≤ bound := by
  rw [windowCount_append]
  by_cases reached : now ≤ instant
  · have earlier : windowCount width instant log ≤ (laterThan (now - width) log).length := by
      apply List.Sublist.length_le
      apply List.monotone_filter_right
      intro entry counted
      rw [decide_eq_true_eq] at counted ⊢
      exact lt_of_le_of_lt (sub_le_sub_right reached width) counted.1
    have added : windowCount width instant (List.replicate count now) ≤ count := by
      refine le_trans (List.length_filter_le _ _) ?_
      rw [List.length_replicate]
    omega
  · have added : windowCount width instant (List.replicate count now) = 0 := by
      rw [windowCount, List.length_eq_zero_iff, List.filter_eq_nil_iff]
      intro entry member
      rw [List.eq_of_mem_replicate member, decide_eq_true_eq]
      exact fun counted => reached counted.2
    rw [added]
    exact held instant

end Foundation
