import QueryGate.Admin.AuditScan

/-! # Events counted for each principal

The loop over the events in `detect_anomalies` of `admin/anomaly.py`, in closed form: what it
holds for a principal is a tally of the principal's events in the two windows
(`dictGet_countEvents`), whatever their order.
-/

namespace QueryGate

open Foundation

section Counting

variable {E : Type} (source : AuditSource E)

/-- The connections of events, but for those without a name. -/
def connectionsOf (events : List E) : Finset String :=
  ((events.map source.connectionId).filter fun connection => connection ≠ "").toFinset

section Tally

variable (recentStart : Int)

/-- The event is in the recent window. -/
def isRecent (event : E) : Bool :=
  decide (recentStart < source.occurredAt event)

/-- What counting events one after the other comes to. -/
def tally (events : List E) : PrincipalAcc where
  recentTotal := events.countP (isRecent source recentStart)
  recentRejected := (events.filter (isRecent source recentStart)).countP source.rejected
  recentConnections := connectionsOf source (events.filter (isRecent source recentStart))
  baselineTotal := events.countP fun event => !isRecent source recentStart event
  baselineRejected :=
    (events.filter fun event => !isRecent source recentStart event).countP source.rejected
  baselineConnections :=
    connectionsOf source (events.filter fun event => !isRecent source recentStart event)

variable {source recentStart}

theorem connectionsOf_concat (events : List E) (event : E) :
    connectionsOf source (events ++ [event]) =
      touch (connectionsOf source events) (source.connectionId event) := by
  rw [connectionsOf, List.map_append, List.filter_append, List.toFinset_append, touch]
  by_cases unnamed : source.connectionId event = ""
  · rw [if_pos unnamed, List.map_singleton, List.filter_singleton, unnamed]
    exact Finset.union_empty _
  · rw [if_neg unnamed, List.map_singleton, List.filter_singleton, decide_eq_true unnamed]
    exact (Finset.union_comm _ _).trans (Finset.insert_eq _ _).symm

theorem tally_concat (events : List E) (event : E) :
    tally source recentStart (events ++ [event]) =
      (tally source recentStart events).count source recentStart event := by
  unfold PrincipalAcc.count tally
  by_cases recent : recentStart < source.occurredAt event
  · have test : isRecent source recentStart event = true := decide_eq_true recent
    simp only [List.countP_append, List.countP_singleton, List.filter_append,
      List.filter_singleton, test, recent, ↓reduceIte, Bool.not_true, Bool.false_eq_true,
      Nat.add_zero, connectionsOf_concat, cond_true, cond_false, List.append_nil]
  · have test : isRecent source recentStart event = false := decide_eq_false recent
    simp only [List.countP_append, List.countP_singleton, List.filter_append,
      List.filter_singleton, test, recent, ↓reduceIte, Bool.not_false, Bool.false_eq_true,
      Nat.add_zero, connectionsOf_concat, cond_true, cond_false, List.append_nil]

theorem connectionsOf_perm {first second : List E} (same : first.Perm second) :
    connectionsOf source first = connectionsOf source second :=
  List.toFinset_eq_of_perm _ _ ((same.map _).filter _)

theorem tally_perm {first second : List E} (same : first.Perm second) :
    tally source recentStart first = tally source recentStart second := by
  rw [tally, tally, same.countP_eq, (same.filter _).countP_eq, connectionsOf_perm (same.filter _),
    same.countP_eq, (same.filter fun event => !isRecent source recentStart event).countP_eq,
    connectionsOf_perm (same.filter fun event => !isRecent source recentStart event)]

theorem total_tally (events : List E) :
    (tally source recentStart events).recentTotal +
      (tally source recentStart events).baselineTotal = events.length := by
  rw [List.length_eq_countP_add_countP (isRecent source recentStart) (l := events), tally]
  congr 1
  apply List.countP_congr
  intro event _
  simp

end Tally

section Per

variable (recentStart baselineStart now : Int)

/-- The event counts for the principal. -/
def countsFor (principal : String) (event : E) : Bool :=
  decide (baselineStart < source.occurredAt event ∧ source.occurredAt event ≤ now ∧
    source.principal event = principal)

/-- What `per` holds for a principal: nothing where no event counts. -/
def perTally (events : List E) (principal : String) : Option PrincipalAcc :=
  match events.filter (countsFor source baselineStart now principal) with
  | [] => none
  | first :: rest => some (tally source recentStart (first :: rest))

variable {source recentStart baselineStart now}

theorem perTally_getD (events : List E) (principal : String) :
    (perTally source recentStart baselineStart now events principal).getD {} =
      tally source recentStart (events.filter (countsFor source baselineStart now principal)) := by
  unfold perTally
  cases events.filter (countsFor source baselineStart now principal) with
  | nil => rfl
  | cons first rest => rfl

theorem perTally_of_ne_nil {events : List E} {principal : String}
    (some_ : events.filter (countsFor source baselineStart now principal) ≠ []) :
    perTally source recentStart baselineStart now events principal =
      some (tally source recentStart
        (events.filter (countsFor source baselineStart now principal))) := by
  unfold perTally
  cases own : events.filter (countsFor source baselineStart now principal) with
  | nil => exact absurd own some_
  | cons first rest => rfl

/-- The loop over the events, in closed form. -/
theorem dictGet_countEvents (events : List E) (principal : String) :
    dictGet (events.foldl (countEvent source recentStart baselineStart now) []) principal =
      perTally source recentStart baselineStart now events principal := by
  induction events using List.reverseRecOn generalizing principal with
  | nil => rfl
  | append_singleton events event ih =>
      rw [List.foldl_append, List.foldl_cons, List.foldl_nil, countEvent]
      by_cases outside : source.occurredAt event ≤ baselineStart ∨ now < source.occurredAt event
      · have apart : countsFor source baselineStart now principal event = false :=
          decide_eq_false (by omega)
        rw [if_pos outside, ih, perTally, perTally, List.filter_append, List.filter_singleton,
          apart, cond_false, List.append_nil]
      · rw [if_neg outside, dictGet_dictSet, ih, perTally_getD]
        by_cases own : source.principal event = principal
        · have counts : countsFor source baselineStart now principal event = true :=
            decide_eq_true ⟨by omega, by omega, own⟩
          have split : (events ++ [event]).filter (countsFor source baselineStart now principal) =
              events.filter (countsFor source baselineStart now principal) ++ [event] := by
            rw [List.filter_append, List.filter_singleton, counts]
            rfl
          rw [if_pos own, perTally_of_ne_nil, split, tally_concat, own]
          rw [split]
          exact List.append_ne_nil_of_right_ne_nil _ (List.cons_ne_nil _ _)
        · have apart : countsFor source baselineStart now principal event = false :=
            decide_eq_false fun all => own all.2.2
          rw [if_neg own, ih, perTally, perTally, List.filter_append, List.filter_singleton, apart,
            cond_false, List.append_nil]

theorem perTally_perm {first second : List E} {principal : String}
    (same : (first.filter (countsFor source baselineStart now principal)).Perm
      (second.filter (countsFor source baselineStart now principal))) :
    perTally source recentStart baselineStart now first principal =
      perTally source recentStart baselineStart now second principal := by
  by_cases none : second.filter (countsFor source baselineStart now principal) = []
  · rw [none] at same
    rw [perTally, perTally, none, List.perm_nil.mp same]
  · have others : first.filter (countsFor source baselineStart now principal) ≠ [] :=
      fun empty => none (List.perm_nil.mp (empty ▸ same.symm))
    rw [perTally_of_ne_nil none, perTally_of_ne_nil others, tally_perm same]

/-- Events that leave some out are counted like all of them exactly where those count for
nobody. -/
theorem perTally_filter_iff {all kept : List E} {keep : E → Bool}
    (same : kept.Perm (all.filter keep)) :
    (∀ principal, perTally source recentStart baselineStart now kept principal =
        perTally source recentStart baselineStart now all principal) ↔
      ∀ event ∈ all, ∀ principal, countsFor source baselineStart now principal event = true →
        keep event = true := by
  have split : ∀ principal, (kept.filter (countsFor source baselineStart now principal)).Perm
      ((all.filter (countsFor source baselineStart now principal)).filter keep) := by
    intro principal
    rw [List.filter_filter]
    have filtered := same.filter (countsFor source baselineStart now principal)
    rw [List.filter_filter] at filtered
    simpa only [Bool.and_comm] using filtered
  constructor
  · intro alike event member principal counts
    by_contra dropped
    have own : event ∈ all.filter (countsFor source baselineStart now principal) :=
      List.mem_filter.mpr ⟨member, counts⟩
    have fewer : (kept.filter (countsFor source baselineStart now principal)).length <
        (all.filter (countsFor source baselineStart now principal)).length := by
      rw [(split principal).length_eq]
      exact List.length_filter_lt_length_iff_exists.mpr ⟨event, own, dropped⟩
    have equal := alike principal
    rw [perTally_of_ne_nil (List.ne_nil_of_mem own)] at equal
    have present : kept.filter (countsFor source baselineStart now principal) ≠ [] := by
      intro empty
      rw [perTally, empty] at equal
      cases equal
    rw [perTally_of_ne_nil present, Option.some.injEq] at equal
    rw [← total_tally, ← total_tally, equal] at fewer
    exact absurd fewer (lt_irrefl _)
  · intro covered principal
    apply perTally_perm
    have whole : (all.filter (countsFor source baselineStart now principal)).filter keep =
        all.filter (countsFor source baselineStart now principal) := by
      apply List.filter_eq_self.mpr
      intro event member
      obtain ⟨inAll, counts⟩ := List.mem_filter.mp member
      exact covered event inAll principal counts
    exact whole ▸ split principal

end Per

end Counting

end QueryGate
