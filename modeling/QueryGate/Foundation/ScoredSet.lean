import QueryGate.Foundation.Dict
import QueryGate.Foundation.SlidingWindow

/-! # Sets of scored members with a deadline

A scored set holds each of its members once, under the score it was last entered with, and is
forgotten as a whole once its deadline has passed. Scores are the instants of entry. A set
whose deadline leaves every member the width of a window loses nothing that still counts
(`Lasting.current_seenAt`), so what counts is what was entered and has not left.
-/

namespace Foundation

variable {μ T : Type}

/-- Members by their scores, in the order they were entered. -/
structure ScoredSet (μ T : Type) where
  members : List (μ × T) := []
  deadline : Option T := none

namespace ScoredSet

/-- The scores of the members. -/
def scores (set : ScoredSet μ T) : List T :=
  set.members.map Prod.snd

/-- A set with no member left is no set: it has no deadline. -/
def settle (set : ScoredSet μ T) : ScoredSet μ T :=
  if set.members.isEmpty then {} else set

/-- Let the set be forgotten at an instant. -/
def keepUntil (deadline : T) (set : ScoredSet μ T) : ScoredSet μ T :=
  settle { set with deadline := some deadline }

theorem members_settle (set : ScoredSet μ T) : set.settle.members = set.members := by
  unfold settle
  split
  · rename_i empty
    exact (List.isEmpty_iff.mp empty).symm
  · rfl

theorem deadline_settle (set : ScoredSet μ T) :
    set.settle.deadline = set.deadline ∨ set.settle.deadline = none := by
  unfold settle
  split
  · exact .inr rfl
  · exact .inl rfl

theorem members_keepUntil (deadline : T) (set : ScoredSet μ T) :
    (set.keepUntil deadline).members = set.members :=
  members_settle _

section Members

variable [DecidableEq μ]

/-- Take a member out. -/
def leave (member : μ) (set : ScoredSet μ T) : ScoredSet μ T :=
  settle { set with members := set.members.filter fun entry => entry.1 ≠ member }

/-- Enter a member, or give it another score. -/
def enter (member : μ) (score : T) (set : ScoredSet μ T) : ScoredSet μ T :=
  { set with members := dictSet set.members member score }

theorem members_leave (member : μ) (set : ScoredSet μ T) :
    (set.leave member).members = set.members.filter fun entry => entry.1 ≠ member :=
  members_settle _

/-- A member that is not there is entered behind the others. -/
theorem members_enter {member : μ} {set : ScoredSet μ T}
    (fresh : member ∉ dictKeys set.members) (score : T) :
    (set.enter member score).members = set.members ++ [(member, score)] :=
  dictSet_of_not_mem score fresh

/-- Members that are not there are entered behind the others, one after another. -/
theorem members_foldl_enter {fresh : List μ} (distinct : fresh.Nodup) {set : ScoredSet μ T}
    (absent : ∀ member ∈ fresh, member ∉ dictKeys set.members) (score : T) :
    (fresh.foldl (fun set member => set.enter member score) set).members =
      set.members ++ fresh.map fun member => (member, score) := by
  induction fresh generalizing set with
  | nil => rw [List.map_nil, List.append_nil, List.foldl_nil]
  | cons member rest ih =>
      obtain ⟨apart, others⟩ := List.nodup_cons.mp distinct
      have entered := members_enter (absent member (List.mem_cons_self ..)) score
      rw [List.foldl_cons, ih others, entered, List.append_assoc, List.map_cons]
      · rfl
      · intro other later inside
        rw [entered, dictKeys, List.map_append, List.mem_append] at inside
        rcases inside with before | same
        · exact absent other (List.mem_cons_of_mem _ later) before
        · rw [List.map_singleton, List.mem_singleton] at same
          have named : other = member := same
          exact apart (named ▸ later)

end Members

section Ordered

variable [LinearOrder T]

/-- The set as it is at an instant: forgotten behind its deadline. -/
def seenAt (now : T) (set : ScoredSet μ T) : ScoredSet μ T :=
  match set.deadline with
  | some deadline => if deadline < now then {} else set
  | none => set

/-- The members whose score is later than a cutoff. -/
def current (cutoff : T) (set : ScoredSet μ T) : List (μ × T) :=
  set.members.filter fun entry => cutoff < entry.2

/-- Take out every member whose score is no later than a cutoff. -/
def dropThrough (cutoff : T) (set : ScoredSet μ T) : ScoredSet μ T :=
  settle { set with members := set.current cutoff }

theorem members_dropThrough (cutoff : T) (set : ScoredSet μ T) :
    (set.dropThrough cutoff).members = set.current cutoff :=
  members_settle _

theorem mem_current {cutoff : T} {set : ScoredSet μ T} {entry : μ × T} :
    entry ∈ set.current cutoff ↔ entry ∈ set.members ∧ cutoff < entry.2 := by
  simp only [current, List.mem_filter, decide_eq_true_eq]

/-- The scores that count are the scores of the members that do. -/
theorem laterThan_scores (cutoff : T) (set : ScoredSet μ T) :
    laterThan cutoff set.scores = (set.current cutoff).map Prod.snd := by
  rw [current, laterThan, scores, List.filter_map]
  rfl

theorem scores_dropThrough (cutoff : T) (set : ScoredSet μ T) :
    (set.dropThrough cutoff).scores = laterThan cutoff set.scores := by
  rw [scores, members_dropThrough, laterThan_scores]

theorem seenAt_eq (now : T) (set : ScoredSet μ T) :
    set.seenAt now = set ∨
      (∃ deadline, set.deadline = some deadline ∧ deadline < now) ∧ set.seenAt now = {} := by
  unfold seenAt
  split
  · rename_i deadline isDeadline
    split
    · rename_i passed
      exact .inr ⟨⟨deadline, isDeadline, passed⟩, rfl⟩
    · exact .inl rfl
  · exact .inl rfl

theorem members_seenAt_subset (now : T) (set : ScoredSet μ T) :
    (set.seenAt now).members ⊆ set.members := by
  rcases set.seenAt_eq now with same | ⟨_, gone⟩
  · rw [same]
    exact List.Subset.refl _
  · rw [gone]
    exact List.nil_subset _

end Ordered

section Lasting

variable [LinearOrder T] [AddCommGroup T]

/-- The set is not forgotten before the window of the given width has passed every member. -/
def Lasting (width : T) (set : ScoredSet μ T) : Prop :=
  ∀ deadline, set.deadline = some deadline → ∀ entry ∈ set.members, entry.2 + width ≤ deadline

variable {width : T} {set : ScoredSet μ T}

theorem lasting_empty (width : T) : ({} : ScoredSet μ T).Lasting width :=
  fun _ _ _ member => absurd member List.not_mem_nil

theorem Lasting.sublist {fewer : ScoredSet μ T} (lasting : set.Lasting width)
    (members : fewer.members ⊆ set.members)
    (deadline : fewer.deadline = set.deadline ∨ fewer.deadline = none) : fewer.Lasting width := by
  intro instant isDeadline entry member
  rcases deadline with same | gone
  · exact lasting instant (same.symm.trans isDeadline) entry (members member)
  · rw [gone] at isDeadline
    cases isDeadline

theorem Lasting.seenAt (lasting : set.Lasting width) (now : T) :
    (set.seenAt now).Lasting width := by
  rcases set.seenAt_eq now with same | ⟨_, gone⟩
  · rw [same]
    exact lasting
  · rw [gone]
    exact lasting_empty width

theorem Lasting.dropThrough (lasting : set.Lasting width) (cutoff : T) :
    (set.dropThrough cutoff).Lasting width := by
  refine lasting.sublist ?_ (deadline_settle _)
  rw [members_dropThrough]
  exact List.filter_subset_self _

theorem Lasting.leave [DecidableEq μ] (lasting : set.Lasting width) (member : μ) :
    (set.leave member).Lasting width := by
  refine lasting.sublist ?_ (deadline_settle _)
  rw [members_leave]
  exact List.filter_subset_self _

/-- A deadline that leaves every member the width of the window lasts. -/
theorem lasting_keepUntil {deadline : T}
    (late : ∀ entry ∈ set.members, entry.2 + width ≤ deadline) :
    (set.keepUntil deadline).Lasting width := by
  intro instant isDeadline entry member
  rw [members_keepUntil] at member
  rcases deadline_settle { set with deadline := some deadline } with same | gone
  · rw [keepUntil, same] at isDeadline
    cases isDeadline
    exact late entry member
  · rw [keepUntil, gone] at isDeadline
    cases isDeadline

variable [IsOrderedAddMonoid T]

/-- A lasting set is forgotten only when the window has passed all of it. -/
theorem Lasting.current_seenAt (lasting : set.Lasting width) (now : T) :
    (set.seenAt now).current (now - width) = set.current (now - width) := by
  rcases set.seenAt_eq now with same | ⟨⟨deadline, isDeadline, passed⟩, gone⟩
  · rw [same]
  · rw [gone]
    refine (List.filter_eq_nil_iff.mpr fun entry member => ?_).symm
    have aged := lt_of_le_of_lt (lasting deadline isDeadline entry member) passed
    rw [decide_eq_true_eq, not_lt]
    exact le_of_lt (lt_sub_iff_add_lt.mpr aged)

theorem Lasting.scores_seenAt (lasting : set.Lasting width) (now : T) :
    laterThan (now - width) (set.seenAt now).scores = laterThan (now - width) set.scores := by
  rw [laterThan_scores, lasting.current_seenAt, laterThan_scores]

end Lasting

end ScoredSet

end Foundation
