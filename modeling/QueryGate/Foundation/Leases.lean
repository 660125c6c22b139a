import QueryGate.Foundation.ScoredSet

/-! # Leases

A lease is outstanding from the instant it is taken until it is given back or its time is over.
A scored set keeps the books of leases when it drops what is over before it counts: the members
that count are the outstanding leases, through every lease taken, given back or run out
(`Leases.take`, `Leases.giveBack`).
-/

namespace Foundation

variable {μ T : Type} [LinearOrder T] [AddCommGroup T]

/-- The leases of a ledger that are not over at an instant. -/
def outstanding (width now : T) (ledger : List (μ × T)) : List (μ × T) :=
  ledger.filter fun entry => now - width < entry.2

theorem mem_outstanding {width now : T} {ledger : List (μ × T)} {entry : μ × T} :
    entry ∈ outstanding width now ledger ↔ entry ∈ ledger ∧ now - width < entry.2 := by
  simp only [outstanding, List.mem_filter, decide_eq_true_eq]

/-- The set keeps the books of a ledger: it holds what is outstanding, and nothing else that
counts. -/
structure Leases (width now : T) (ledger : List (μ × T)) (set : ScoredSet μ T) : Prop where
  lasting : set.Lasting width
  past : ∀ entry ∈ set.members, entry.2 ≤ now
  known : set.members ⊆ ledger
  current : set.current (now - width) = outstanding width now ledger

namespace Leases

variable {width last now : T} {ledger : List (μ × T)} {set : ScoredSet μ T}

theorem empty (width now : T) : Leases width now [] ({} : ScoredSet μ T) where
  lasting := ScoredSet.lasting_empty width
  past _ member := absurd member List.not_mem_nil
  known := List.Subset.refl _
  current := rfl

variable [IsOrderedAddMonoid T]

/-- What is outstanding later was outstanding before. -/
theorem outstanding_later (order : last ≤ now) (ledger : List (μ × T)) :
    outstanding width now (outstanding width last ledger) = outstanding width now ledger := by
  unfold outstanding
  rw [List.filter_filter]
  refine List.filter_congr fun entry _ => ?_
  rw [Bool.and_eq_left_iff_imp]
  simpa only [decide_eq_true_eq] using lt_of_le_of_lt (sub_le_sub_right order width)

theorem later (leases : Leases width last ledger set) (order : last ≤ now) :
    Leases width now ledger set where
  lasting := leases.lasting
  past entry member := le_trans (leases.past entry member) order
  known := leases.known
  current := by
    have counted := congrArg (outstanding width now) leases.current
    rw [outstanding_later order] at counted
    rw [← counted]
    exact (outstanding_later order set.members).symm

/-- The books as they are after the leases that are over have been dropped. -/
theorem pruned (leases : Leases width now ledger set) :
    Leases width now ledger ((set.seenAt now).dropThrough (now - width)) ∧
      ((set.seenAt now).dropThrough (now - width)).members = outstanding width now ledger := by
  have members : ((set.seenAt now).dropThrough (now - width)).members =
      outstanding width now ledger := by
    rw [ScoredSet.members_dropThrough, leases.lasting.current_seenAt, leases.current]
  refine ⟨⟨(leases.lasting.seenAt now).dropThrough _, ?_, ?_, ?_⟩, members⟩
  · intro entry member
    rw [members, ← leases.current] at member
    exact leases.past entry (ScoredSet.mem_current.mp member).1
  · rw [members]
    exact List.filter_subset_self _
  · rw [ScoredSet.current, members]
    exact outstanding_later le_rfl ledger

variable [DecidableEq μ]

/-- A lease is taken by a new holder, until the set is forgotten no earlier than the lease. -/
theorem take (leases : Leases width now ledger set) {holder : μ} (fresh : holder ∉ dictKeys ledger)
    {deadline : T} (late : now + width ≤ deadline) :
    Leases width now (ledger ++ [(holder, now)]) ((set.enter holder now).keepUntil deadline) := by
  have absent : holder ∉ dictKeys set.members := fun inside => by
    obtain ⟨entry, member, rfl⟩ := List.mem_map.mp inside
    exact fresh (List.mem_map_of_mem (leases.known member))
  have members : ((set.enter holder now).keepUntil deadline).members =
      set.members ++ [(holder, now)] := by
    rw [ScoredSet.members_keepUntil, ScoredSet.members_enter absent]
  refine ⟨ScoredSet.lasting_keepUntil ?_, ?_, ?_, ?_⟩
  · intro entry member
    rw [ScoredSet.members_enter absent, List.mem_append, List.mem_singleton] at member
    rcases member with before | rfl
    · exact le_trans (add_le_add_left (leases.past entry before) width) late
    · exact late
  · intro entry member
    rw [members, List.mem_append, List.mem_singleton] at member
    rcases member with before | rfl
    · exact leases.past entry before
    · exact le_rfl
  · rw [members]
    exact List.append_subset.mpr
      ⟨List.subset_append_of_subset_left _ leases.known, List.subset_append_right _ _⟩
  · rw [ScoredSet.current, members, outstanding, List.filter_append, List.filter_append]
    exact congrArg (· ++ _) leases.current

/-- A lease is given back. -/
theorem giveBack (leases : Leases width now ledger set) (holder : μ) :
    Leases width now (ledger.filter fun entry => entry.1 ≠ holder)
      ((set.seenAt now).leave holder) := by
  have inside := ScoredSet.members_seenAt_subset now set
  refine ⟨(leases.lasting.seenAt now).leave holder, ?_, ?_, ?_⟩
  · intro entry member
    rw [ScoredSet.members_leave] at member
    exact leases.past entry (inside (List.mem_of_mem_filter member))
  · rw [ScoredSet.members_leave]
    intro entry member
    obtain ⟨held, other⟩ := List.mem_filter.mp member
    exact List.mem_filter.mpr ⟨leases.known (inside held), other⟩
  · have counted := leases.lasting.current_seenAt now
    rw [leases.current] at counted
    rw [ScoredSet.current, ScoredSet.members_leave, outstanding, List.filter_comm,
      List.filter_comm (l := ledger)]
    exact congrArg _ counted

end Leases

end Foundation
