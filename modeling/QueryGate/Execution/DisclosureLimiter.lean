import QueryGate.Foundation.Checks
import QueryGate.Foundation.Dict
import QueryGate.Foundation.SlidingWindow

/-! # The in-process disclosure limiter

`InProcessDisclosureBudgetLimiter` keeps a sliding log of charge instants per
key. A `reserve` prunes, checks every cap, and only then charges. Instants are
exact rationals.

The budget of a key is over the key's own window, but the amortized sweep runs
with the window of the call that triggers it. In a run whose sweeps only forget
keys that have aged out of their own window, and whose calls charge no key
twice, every key keeps its budget in every window and a refused call changes no
total (`budgetHolds_of_ownWindowSweeps`).
-/

namespace QueryGate

open Foundation

/-- `KIND_SHAPE` and `KIND_TABLE`: which cap a charge counts against. -/
inductive BudgetKind where
  | shape | table
  deriving DecidableEq, Repr

/-- The label of a kind on the rejection and the metrics counter. -/
def BudgetKind.value : BudgetKind → String
  | .shape => "disclosure_shape"
  | .table => "disclosure_table"

/-- `Charge`: a key, its cap, which cap it is, and the units charged. -/
structure Charge (κ : Type) where
  key : κ
  limit : Nat
  kind : BudgetKind
  weight : Nat
  deriving DecidableEq, Repr

/-- `DisclosureBudgetExceededError`. -/
structure BudgetExceeded where
  message : String
  quotaKind : BudgetKind
  retryAfterSeconds : Int
  deriving DecidableEq, Repr

/-- `rejection_message`. -/
def rejectionMessage (_kind : BudgetKind) (_limit _windowSeconds : Nat) (retryAfter : Int) :
    String :=
  s!"disclosure budget exceeded; retry in ~{retryAfter}s"

variable {κ : Type} [DecidableEq κ]

/-- `InProcessDisclosureBudgetLimiter`: the instants charged to each key, oldest
first, and the instant of the last sweep. -/
structure DisclosureLimiter (κ : Type) [DecidableEq κ] where
  windows : List (κ × List ℚ) := []
  lastSweep : ℚ := 0
  distinct : (dictKeys windows).Nodup := by exact List.nodup_nil

namespace DisclosureLimiter

/-- `self._windows.get(key, ())`. -/
def entries (limiter : DisclosureLimiter κ) (key : κ) : List ℚ :=
  (dictGet limiter.windows key).getD []

/-- `self._windows[key] = entries`. -/
def put (limiter : DisclosureLimiter κ) (key : κ) (entries : List ℚ) : DisclosureLimiter κ where
  windows := dictSet limiter.windows key entries
  lastSweep := limiter.lastSweep
  distinct := nodup_dictSet limiter.distinct key entries

/-- The limiter without the keys whose entry is not kept. -/
def keepOnly (limiter : DisclosureLimiter κ) (keep : κ × List ℚ → Bool) : DisclosureLimiter κ where
  windows := limiter.windows.filter keep
  lastSweep := limiter.lastSweep
  distinct := nodup_dictKeys_filter limiter.distinct keep

/-- `_prune`: the key's entries after the cutoff, stored back or forgotten. -/
def prune (limiter : DisclosureLimiter κ) (key : κ) (cutoff : ℚ) :
    List ℚ × DisclosureLimiter κ :=
  let entries := laterThan cutoff (limiter.entries key)
  if entries.isEmpty then (entries, limiter.keepOnly fun entry => entry.1 != key)
  else (entries, limiter.put key entries)

/-- `not entries or entries[-1].ts <= cutoff`. -/
def isStale (cutoff : ℚ) (entries : List ℚ) : Bool :=
  match entries.getLast? with
  | none => true
  | some newest => newest ≤ cutoff

/-- `_sweep`: forget every key whose newest entry has aged out. -/
def sweep (limiter : DisclosureLimiter κ) (cutoff : ℚ) : DisclosureLimiter κ :=
  limiter.keepOnly fun entry => !isStale cutoff entry.2

/-- The sweep at the head of `reserve`, at most once per window. -/
def sweepDue (limiter : DisclosureLimiter κ) (windowSeconds : Nat) (now : ℚ) : DisclosureLimiter κ :=
  if windowSeconds < now - limiter.lastSweep then
    { limiter.sweep (now - windowSeconds) with lastSweep := now }
  else limiter

/-- The rejection of a charge whose pruned entries leave no room. -/
def rejection (charge : Charge κ) (windowSeconds : Nat) (now : ℚ) (entries : List ℚ) :
    BudgetExceeded :=
  let oldest := entries.head?.getD now
  let retryAfter := max 1 ⌈(windowSeconds : ℚ) - (now - oldest)⌉
  ⟨rejectionMessage charge.kind charge.limit windowSeconds retryAfter, charge.kind, retryAfter⟩

/-- Phase 1 of `reserve`: prune and check every cap before charging any. -/
def checkCharges (windowSeconds : Nat) (now : ℚ) :
    List (Charge κ) → DisclosureLimiter κ →
      DisclosureLimiter κ × Except BudgetExceeded (List (κ × List ℚ × Nat))
  | [], limiter => (limiter, .ok [])
  | charge :: rest, limiter =>
      let pruned := limiter.prune charge.key (now - windowSeconds)
      if charge.limit < pruned.1.length + charge.weight then
        (pruned.2, .error (rejection charge windowSeconds now pruned.1))
      else
        let others := checkCharges windowSeconds now rest pruned.2
        (others.1, others.2.map fun checked => (charge.key, pruned.1, charge.weight) :: checked)

/-- Phase 2 of `reserve`: charge them all. -/
def chargeAll (now : ℚ) (checked : List (κ × List ℚ × Nat)) (limiter : DisclosureLimiter κ) :
    DisclosureLimiter κ :=
  checked.foldl (fun limiter charge =>
    limiter.put charge.1 (charge.2.1 ++ List.replicate charge.2.2 now)) limiter

/-- `reserve`: the limiter afterwards, and the rejection if it raises. -/
def reserve (limiter : DisclosureLimiter κ) (charges : List (Charge κ)) (windowSeconds : Nat)
    (now : ℚ) : DisclosureLimiter κ × Except BudgetExceeded Unit :=
  let checked := checkCharges windowSeconds now charges (limiter.sweepDue windowSeconds now)
  match checked.2 with
  | .error exceeded => (checked.1, .error exceeded)
  | .ok pruned => (chargeAll now pruned checked.1, .ok ())

end DisclosureLimiter

/-- The arguments of one `reserve`. -/
structure ReserveCall (κ : Type) where
  charges : List (Charge κ)
  windowSeconds : Nat
  now : ℚ

/-- Units charged to a key at an instant. -/
structure Charged (κ : Type) where
  key : κ
  instant : ℚ
  weight : Nat
  deriving DecidableEq, Repr

namespace DisclosureLimiter

/-- The limiter after a call. -/
def after (limiter : DisclosureLimiter κ) (call : ReserveCall κ) : DisclosureLimiter κ :=
  (limiter.reserve call.charges call.windowSeconds call.now).1

/-- The call raises. -/
def refuses (limiter : DisclosureLimiter κ) (call : ReserveCall κ) : Bool :=
  !accepts (limiter.reserve call.charges call.windowSeconds call.now).2

/-- The limiter after a sequence of calls. -/
def run (limiter : DisclosureLimiter κ) (calls : List (ReserveCall κ)) : DisclosureLimiter κ :=
  calls.foldl after limiter

/-- What a call charges: all of its charges, or nothing when it raises. -/
def charged (limiter : DisclosureLimiter κ) (call : ReserveCall κ) : List (Charged κ) :=
  if limiter.refuses call then []
  else call.charges.map fun charge => ⟨charge.key, call.now, charge.weight⟩

/-- Everything charged along a sequence of calls. -/
def chargedAlong (limiter : DisclosureLimiter κ) : List (ReserveCall κ) → List (Charged κ)
  | [] => []
  | call :: rest => limiter.charged call ++ (limiter.after call).chargedAlong rest

/-- The key's charge total inside the window that ends at an instant. -/
def inWindow (limiter : DisclosureLimiter κ) (key : κ) (width : Nat) (now : ℚ) : Nat :=
  (laterThan (now - width) (limiter.entries key)).length

end DisclosureLimiter

/-- The weight charged to a key in the window of the given width that ends at an
instant. -/
def chargedWeight (log : List (Charged κ)) (key : κ) (width : Nat) (instant : ℚ) : Nat :=
  ((log.filter fun charge => charge.key = key ∧ instant - width < charge.instant ∧
    charge.instant ≤ instant).map Charged.weight).sum

/-- The calls come in the order of their instants, and every key always comes
with its own limit and window. -/
structure ConsistentCalls (limitOf windowOf : κ → Nat) (calls : List (ReserveCall κ)) : Prop where
  ordered : (calls.map ReserveCall.now).Pairwise (· ≤ ·)
  limits : ∀ call ∈ calls, ∀ charge ∈ call.charges, charge.limit = limitOf charge.key
  windows : ∀ call ∈ calls, ∀ charge ∈ call.charges, call.windowSeconds = windowOf charge.key

/-- Over the run from an empty limiter, no key is charged above its limit in any
window, and no refused call changes a total. -/
def BudgetHolds (limitOf windowOf : κ → Nat) (calls : List (ReserveCall κ)) : Prop :=
  (∀ key instant, chargedWeight (({} : DisclosureLimiter κ).chargedAlong calls) key (windowOf key)
      instant ≤ limitOf key) ∧
    ∀ before call later, calls = before ++ call :: later →
      (({} : DisclosureLimiter κ).run before).refuses call = true →
      ∀ key, (({} : DisclosureLimiter κ).run (before ++ [call])).inWindow key (windowOf key)
          call.now =
        (({} : DisclosureLimiter κ).run before).inWindow key (windowOf key) call.now

/-- The call charges no key twice, and the sweep it runs, if any, forgets only
keys whose newest entry has aged out of their own window. -/
structure SweepsOwnWindows (windowOf : κ → Nat) (limiter : DisclosureLimiter κ)
    (call : ReserveCall κ) : Prop where
  keys : (call.charges.map Charge.key).Nodup
  aged : call.windowSeconds < call.now - limiter.lastSweep →
    ∀ key newest, (limiter.entries key).getLast? = some newest →
      newest ≤ call.now - call.windowSeconds → newest ≤ call.now - windowOf key

namespace DisclosureLimiter

/-! ## What each operation does to a key's entries -/

theorem entries_put (limiter : DisclosureLimiter κ) (key other : κ) (entries : List ℚ) :
    (limiter.put key entries).entries other =
      if key = other then entries else limiter.entries other := by
  rw [DisclosureLimiter.entries, put, dictGet_dictSet]
  split
  · rfl
  · rfl

theorem entries_keepOnly (limiter : DisclosureLimiter κ) (keep : κ × List ℚ → Bool) (key : κ) :
    (limiter.keepOnly keep).entries key =
      if keep (key, limiter.entries key) then limiter.entries key else [] := by
  rw [DisclosureLimiter.entries, keepOnly, dictGet_filter limiter.distinct, DisclosureLimiter.entries]
  cases dictGet limiter.windows key with
  | none => simp
  | some entries =>
      rw [Option.filter_some, Option.getD_some]
      split
      · rfl
      · rfl

theorem prune_fst (limiter : DisclosureLimiter κ) (key : κ) (cutoff : ℚ) :
    (limiter.prune key cutoff).1 = laterThan cutoff (limiter.entries key) := by
  simp only [prune]
  split
  · rfl
  · rfl

theorem entries_prune (limiter : DisclosureLimiter κ) (key other : κ) (cutoff : ℚ) :
    (limiter.prune key cutoff).2.entries other =
      if key = other then laterThan cutoff (limiter.entries key) else limiter.entries other := by
  unfold prune
  by_cases empty : (laterThan cutoff (limiter.entries key)).isEmpty = true
  · rw [if_pos empty, entries_keepOnly]
    by_cases same : key = other
    · subst same
      simp [List.isEmpty_iff.mp empty]
    · simp [same, Ne.symm same]
  · rw [if_neg empty, entries_put]

theorem entries_sweep (limiter : DisclosureLimiter κ) (cutoff : ℚ) (key : κ) :
    (limiter.sweep cutoff).entries key =
      if isStale cutoff (limiter.entries key) then [] else limiter.entries key := by
  rw [sweep, entries_keepOnly]
  cases isStale cutoff (limiter.entries key) with
  | true => rfl
  | false => rfl

/-- The sweep leaves a key as it is, or forgets it when its newest entry is
before the sweeping call's cutoff. -/
theorem entries_sweepDue (limiter : DisclosureLimiter κ) (windowSeconds : Nat) (now : ℚ) (key : κ) :
    (limiter.sweepDue windowSeconds now).entries key = limiter.entries key ∨
      (windowSeconds < now - limiter.lastSweep ∧
        isStale (now - windowSeconds) (limiter.entries key) = true ∧
        (limiter.sweepDue windowSeconds now).entries key = []) := by
  unfold sweepDue
  by_cases due : (windowSeconds : ℚ) < now - limiter.lastSweep
  · rw [if_pos due]
    have swept := entries_sweep limiter (now - windowSeconds) key
    by_cases stale : isStale (now - windowSeconds) (limiter.entries key) = true
    · rw [if_pos stale] at swept
      exact .inr ⟨due, stale, swept⟩
    · rw [if_neg stale] at swept
      exact .inl swept
  · rw [if_neg due]
    exact .inl rfl

/-- Phase 1 leaves a key as it is, or prunes a charged key. -/
theorem entries_checkCharges (windowSeconds : Nat) (now : ℚ) (charges : List (Charge κ))
    (limiter : DisclosureLimiter κ) (key : κ) :
    (checkCharges windowSeconds now charges limiter).1.entries key = limiter.entries key ∨
      (key ∈ charges.map Charge.key ∧
        (checkCharges windowSeconds now charges limiter).1.entries key =
          laterThan (now - windowSeconds) (limiter.entries key)) := by
  induction charges generalizing limiter with
  | nil => exact .inl rfl
  | cons charge rest ih =>
      have pruned := entries_prune limiter charge.key key (now - windowSeconds)
      rw [checkCharges]
      split
      · by_cases same : charge.key = key
        · subst same
          rw [if_pos rfl] at pruned
          exact .inr ⟨List.mem_cons_self .., pruned⟩
        · rw [if_neg same] at pruned
          exact .inl pruned
      · rcases ih (limiter.prune charge.key (now - windowSeconds)).2 with kept | ⟨member, later⟩
        · by_cases same : charge.key = key
          · subst same
            rw [if_pos rfl] at pruned
            exact .inr ⟨List.mem_cons_self .., kept.trans pruned⟩
          · rw [if_neg same] at pruned
            exact .inl (kept.trans pruned)
        · refine .inr ⟨List.mem_cons_of_mem _ member, later.trans ?_⟩
          rw [pruned]
          split
          · rename_i same
            rw [same, laterThan_laterThan le_rfl]
          · rfl

/-- Phase 1 passes with the pruned entries of every charge, each with room for
its weight. -/
theorem checkCharges_eq_ok {windowSeconds : Nat} {now : ℚ} {charges : List (Charge κ)}
    {limiter : DisclosureLimiter κ} {checked : List (κ × List ℚ × Nat)}
    (passed : (checkCharges windowSeconds now charges limiter).2 = .ok checked) :
    checked = charges.map (fun charge =>
        (charge.key, laterThan (now - windowSeconds) (limiter.entries charge.key), charge.weight)) ∧
      ∀ charge ∈ charges, (laterThan (now - windowSeconds)
        (limiter.entries charge.key)).length + charge.weight ≤ charge.limit := by
  induction charges generalizing limiter checked with
  | nil =>
      cases passed
      exact ⟨rfl, fun _ member => absurd member List.not_mem_nil⟩
  | cons charge rest ih =>
      -- Pruning a charged key again changes nothing.
      have same : ∀ key, laterThan (now - windowSeconds)
          ((limiter.prune charge.key (now - windowSeconds)).2.entries key) =
            laterThan (now - windowSeconds) (limiter.entries key) := by
        intro key
        rw [entries_prune]
        split
        · rename_i hit
          rw [← hit, laterThan_laterThan le_rfl]
        · rfl
      simp only [checkCharges, prune_fst] at passed
      split at passed
      · cases passed
      · rename_i room
        cases others : (checkCharges windowSeconds now rest
            (limiter.prune charge.key (now - windowSeconds)).2).2 with
        | error exceeded =>
            rw [others] at passed
            cases passed
        | ok tail =>
            rw [others] at passed
            cases passed
            obtain ⟨shape, fits⟩ := ih others
            simp only [same] at shape fits
            refine ⟨congrArg _ shape, fun found member => ?_⟩
            rcases List.mem_cons.mp member with rfl | later
            · exact Nat.le_of_not_lt room
            · exact fits found later

/-- Phase 2 appends the weight of each charge to what phase 1 kept of its key. -/
theorem entries_chargeAll (now : ℚ) (kept : κ → List ℚ) {charges : List (Charge κ)}
    (keys : (charges.map Charge.key).Nodup) (limiter : DisclosureLimiter κ) :
    let charged := chargeAll now
      (charges.map fun charge => (charge.key, kept charge.key, charge.weight)) limiter
    (∀ charge ∈ charges, charged.entries charge.key =
        kept charge.key ++ List.replicate charge.weight now) ∧
      ∀ key ∉ charges.map Charge.key, charged.entries key = limiter.entries key := by
  induction charges generalizing limiter with
  | nil => exact ⟨fun _ member => absurd member List.not_mem_nil, fun _ _ => rfl⟩
  | cons charge rest ih =>
      obtain ⟨fresh, distinct⟩ := List.nodup_cons.mp keys
      obtain ⟨inside, outside⟩ := ih distinct
        (limiter.put charge.key (kept charge.key ++ List.replicate charge.weight now))
      refine ⟨fun found member => ?_, fun key absent => ?_⟩
      · rcases List.mem_cons.mp member with rfl | later
        · refine (outside found.key fresh).trans ?_
          rw [entries_put, if_pos rfl]
        · exact inside found later
      · rw [List.map_cons, List.mem_cons, not_or] at absent
        refine (outside key absent.2).trans ?_
        rw [entries_put, if_neg (Ne.symm absent.1)]

end DisclosureLimiter

/-! ## Runs -/

/-- The instants charged to a key, one for each unit. -/
def instants (log : List (Charged κ)) (key : κ) : List ℚ :=
  log.flatMap fun charge =>
    if charge.key = key then List.replicate charge.weight charge.instant else []

theorem instants_append (first second : List (Charged κ)) (key : κ) :
    instants (first ++ second) key = instants first key ++ instants second key :=
  List.flatMap_append

/-- The weight charged in a window is the number of units charged there. -/
theorem chargedWeight_eq_windowCount (log : List (Charged κ)) (key : κ) (width : Nat)
    (instant : ℚ) :
    chargedWeight log key width instant = windowCount (width : ℚ) instant (instants log key) := by
  induction log with
  | nil => rfl
  | cons charge rest ih =>
      have split : instants (charge :: rest) key =
          (if charge.key = key then List.replicate charge.weight charge.instant else []) ++
            instants rest key := List.flatMap_cons
      rw [split, windowCount_append, ← ih]
      by_cases same : charge.key = key
      · by_cases counted : instant - width < charge.instant ∧ charge.instant ≤ instant
        · simp [chargedWeight, windowCount, same, counted]
        · simp [chargedWeight, windowCount, same, counted]
      · simp [chargedWeight, windowCount, same]

/-- A call charges each of its keys once, and no other key. -/
theorem instants_charges {charges : List (Charge κ)} (keys : (charges.map Charge.key).Nodup)
    (now : ℚ) :
    let log : List (Charged κ) := charges.map fun charge => ⟨charge.key, now, charge.weight⟩
    (∀ charge ∈ charges, instants log charge.key = List.replicate charge.weight now) ∧
      ∀ key ∉ charges.map Charge.key, instants log key = [] := by
  induction charges with
  | nil => exact ⟨fun _ member => absurd member List.not_mem_nil, fun _ _ => rfl⟩
  | cons charge rest ih =>
      obtain ⟨fresh, distinct⟩ := List.nodup_cons.mp keys
      obtain ⟨inside, outside⟩ := ih distinct
      refine ⟨fun found member => ?_, fun key missing => ?_⟩
      · rw [List.map_cons, instants, List.flatMap_cons]
        rcases List.mem_cons.mp member with rfl | later
        · rw [if_pos rfl]
          exact (congrArg _ (outside found.key fresh)).trans (List.append_nil _)
        · have apart : charge.key ≠ found.key :=
            fun same => fresh (same ▸ List.mem_map_of_mem later)
          rw [if_neg apart]
          exact inside found later
      · rw [List.map_cons, List.mem_cons, not_or] at missing
        rw [List.map_cons, instants, List.flatMap_cons, if_neg (Ne.symm missing.1)]
        exact outside key missing.2

/-- The limiter tracks the log: of every key it holds what still counts, and the
log keeps every budget. -/
structure Tracks (limitOf windowOf : κ → Nat) (log : List (Charged κ)) (now : ℚ)
    (limiter : DisclosureLimiter κ) : Prop where
  sorted : ∀ key, (limiter.entries key).Pairwise (· ≤ ·)
  past : ∀ key, ∀ entry ∈ limiter.entries key, entry ≤ now
  current : ∀ key, laterThan (now - windowOf key) (limiter.entries key) =
    laterThan (now - windowOf key) (instants log key)
  held : ∀ key instant, windowCount (windowOf key : ℚ) instant (instants log key) ≤ limitOf key

theorem tracks_empty (limitOf windowOf : κ → Nat) (now : ℚ) :
    Tracks limitOf windowOf [] now ({} : DisclosureLimiter κ) where
  sorted _ := List.Pairwise.nil
  past _ _ member := absurd member List.not_mem_nil
  current _ := rfl
  held _ _ := Nat.zero_le _

section Step

variable {limitOf windowOf : κ → Nat} {log : List (Charged κ)} {last : ℚ}
  {limiter : DisclosureLimiter κ} {call : ReserveCall κ}

/-- A sweep of aged-out keys leaves what still counts. -/
theorem Tracks.sweepDue (tracks : Tracks limitOf windowOf log last limiter)
    (later : last ≤ call.now) (fine : SweepsOwnWindows windowOf limiter call) :
    Tracks limitOf windowOf log call.now (limiter.sweepDue call.windowSeconds call.now) := by
  have counted : ∀ key, laterThan (call.now - windowOf key)
      ((limiter.sweepDue call.windowSeconds call.now).entries key) =
        laterThan (call.now - windowOf key) (limiter.entries key) := by
    intro key
    rcases limiter.entries_sweepDue call.windowSeconds call.now key with same | ⟨due, stale, gone⟩
    · rw [same]
    · rw [gone]
      cases newest : (limiter.entries key).getLast? with
      | none => rw [List.getLast?_eq_none_iff.mp newest]
      | some instant =>
          rw [DisclosureLimiter.isStale, newest, decide_eq_true_eq] at stale
          exact (laterThan_eq_nil (tracks.sorted key) newest
            (fine.aged due key instant newest stale)).symm
  have kept : ∀ key, (limiter.sweepDue call.windowSeconds call.now).entries key =
      limiter.entries key ∨ (limiter.sweepDue call.windowSeconds call.now).entries key = [] :=
    fun key => (limiter.entries_sweepDue call.windowSeconds call.now key).imp_right fun gone =>
      gone.2.2
  refine ⟨fun key => ?_, fun key entry member => ?_, fun key => ?_, tracks.held⟩
  · rcases kept key with same | gone
    · exact same ▸ tracks.sorted key
    · exact gone ▸ List.Pairwise.nil
  · rcases kept key with same | gone
    · exact le_trans (tracks.past key entry (same ▸ member)) later
    · rw [gone] at member
      cases member
  · rw [counted key]
    exact laterThan_congr (sub_le_sub_right later _) (tracks.current key)

/-- Phase 1 leaves what still counts. -/
theorem Tracks.checkCharges {charges : List (Charge κ)} {windowSeconds : Nat} {now : ℚ}
    (tracks : Tracks limitOf windowOf log now limiter)
    (windows : ∀ charge ∈ charges, windowSeconds = windowOf charge.key) :
    Tracks limitOf windowOf log now
      (DisclosureLimiter.checkCharges windowSeconds now charges limiter).1 := by
  have pruned : ∀ key,
      (DisclosureLimiter.checkCharges windowSeconds now charges limiter).1.entries key =
        limiter.entries key ∨
      (DisclosureLimiter.checkCharges windowSeconds now charges limiter).1.entries key =
        laterThan (now - windowOf key) (limiter.entries key) := by
    intro key
    rcases DisclosureLimiter.entries_checkCharges windowSeconds now charges limiter key with
      same | ⟨member, later⟩
    · exact .inl same
    · obtain ⟨charge, inside, rfl⟩ := List.mem_map.mp member
      rw [windows charge inside] at later ⊢
      exact .inr later
  refine ⟨fun key => ?_, fun key entry member => ?_, fun key => ?_, tracks.held⟩
  · rcases pruned key with same | later
    · exact same ▸ tracks.sorted key
    · exact later ▸ (tracks.sorted key).sublist List.filter_sublist
  · rcases pruned key with same | later
    · exact tracks.past key entry (same ▸ member)
    · exact tracks.past key entry (mem_laterThan.mp (later ▸ member)).1
  · rcases pruned key with same | later
    · rw [same]
      exact tracks.current key
    · rw [later, laterThan_laterThan le_rfl]
      exact tracks.current key

/-- A refused call leaves the limiter tracking the same log. -/
theorem Tracks.refused (tracks : Tracks limitOf windowOf log last limiter)
    (later : last ≤ call.now) (fine : SweepsOwnWindows windowOf limiter call)
    (windows : ∀ charge ∈ call.charges, call.windowSeconds = windowOf charge.key)
    (refused : limiter.refuses call = true) :
    Tracks limitOf windowOf log call.now (limiter.after call) := by
  have checked := (tracks.sweepDue later fine).checkCharges windows
  rw [DisclosureLimiter.refuses, DisclosureLimiter.reserve] at refused
  rw [DisclosureLimiter.after, DisclosureLimiter.reserve]
  cases outcome : (DisclosureLimiter.checkCharges call.windowSeconds call.now call.charges
      (limiter.sweepDue call.windowSeconds call.now)).2 with
  | error exceeded => simpa only [outcome] using checked
  | ok pruned =>
      simp only [outcome] at refused
      cases refused

/-- A call that passes charges all of its keys, each within its budget. -/
theorem Tracks.passed (tracks : Tracks limitOf windowOf log last limiter)
    (later : last ≤ call.now) (fine : SweepsOwnWindows windowOf limiter call)
    (limits : ∀ charge ∈ call.charges, charge.limit = limitOf charge.key)
    (windows : ∀ charge ∈ call.charges, call.windowSeconds = windowOf charge.key)
    (passed : limiter.refuses call = false) :
    Tracks limitOf windowOf (log ++ limiter.charged call) call.now (limiter.after call) := by
  have swept := tracks.sweepDue later fine
  have checked := swept.checkCharges windows
  rw [DisclosureLimiter.charged, if_neg (by rw [passed]; decide)]
  rw [DisclosureLimiter.refuses, DisclosureLimiter.reserve] at passed
  rw [DisclosureLimiter.after, DisclosureLimiter.reserve]
  cases outcome : (DisclosureLimiter.checkCharges call.windowSeconds call.now call.charges
      (limiter.sweepDue call.windowSeconds call.now)).2 with
  | error exceeded =>
      simp only [outcome] at passed
      cases passed
  | ok pruned =>
      obtain ⟨shape, room⟩ := DisclosureLimiter.checkCharges_eq_ok outcome
      obtain ⟨inside, outside⟩ := DisclosureLimiter.entries_chargeAll call.now
        (fun key => laterThan (call.now - call.windowSeconds)
          ((limiter.sweepDue call.windowSeconds call.now).entries key)) fine.keys
        (DisclosureLimiter.checkCharges call.windowSeconds call.now call.charges
          (limiter.sweepDue call.windowSeconds call.now)).1
      obtain ⟨added, untouched⟩ := instants_charges fine.keys call.now
      rw [shape]
      -- What a charged key counted before the call, in the limiter and in the log.
      have counted : ∀ charge ∈ call.charges, laterThan (call.now - call.windowSeconds)
          ((limiter.sweepDue call.windowSeconds call.now).entries charge.key) =
            laterThan (call.now - windowOf charge.key) (instants log charge.key) := by
        intro charge member
        have current := swept.current charge.key
        rw [← windows charge member] at current ⊢
        exact current
      refine ⟨fun key => ?_, fun key entry member => ?_, fun key => ?_, fun key instant => ?_⟩
      · by_cases charged : key ∈ call.charges.map Charge.key
        · obtain ⟨charge, member, rfl⟩ := List.mem_map.mp charged
          rw [inside charge member]
          refine List.pairwise_append.mpr
            ⟨(swept.sorted _).sublist List.filter_sublist,
              List.pairwise_replicate.mpr (.inr le_rfl), fun old oldMember new newMember => ?_⟩
          rw [List.eq_of_mem_replicate newMember]
          exact swept.past _ old (mem_laterThan.mp oldMember).1
        · rw [outside key charged]
          exact checked.sorted key
      · by_cases charged : key ∈ call.charges.map Charge.key
        · obtain ⟨charge, isCharge, rfl⟩ := List.mem_map.mp charged
          rw [inside charge isCharge] at member
          rcases List.mem_append.mp member with old | new
          · exact swept.past _ entry (mem_laterThan.mp old).1
          · exact le_of_eq (List.eq_of_mem_replicate new)
        · rw [outside key charged] at member
          exact checked.past key entry member
      · rw [instants_append, laterThan_append]
        by_cases charged : key ∈ call.charges.map Charge.key
        · obtain ⟨charge, member, rfl⟩ := List.mem_map.mp charged
          rw [inside charge member, added charge member, laterThan_append, counted charge member,
            laterThan_laterThan le_rfl]
        · rw [outside key charged, untouched key charged, checked.current key]
          exact (List.append_nil _).symm
      · rw [instants_append]
        by_cases charged : key ∈ call.charges.map Charge.key
        · obtain ⟨charge, member, rfl⟩ := List.mem_map.mp charged
          rw [added charge member]
          refine windowCount_append_le (swept.held charge.key) ?_ instant
          rw [← counted charge member, ← limits charge member]
          exact room charge member
        · rw [untouched key charged, List.append_nil]
          exact swept.held key instant

/-- One call keeps the limiter tracking the log. -/
theorem Tracks.after (tracks : Tracks limitOf windowOf log last limiter)
    (later : last ≤ call.now) (fine : SweepsOwnWindows windowOf limiter call)
    (limits : ∀ charge ∈ call.charges, charge.limit = limitOf charge.key)
    (windows : ∀ charge ∈ call.charges, call.windowSeconds = windowOf charge.key) :
    Tracks limitOf windowOf (log ++ limiter.charged call) call.now (limiter.after call) := by
  cases outcome : limiter.refuses call with
  | true =>
      rw [DisclosureLimiter.charged, if_pos outcome, List.append_nil]
      exact tracks.refused later fine windows outcome
  | false => exact tracks.passed later fine limits windows outcome

/-- A refused call changes no key's total. -/
theorem Tracks.inWindow_refused (tracks : Tracks limitOf windowOf log last limiter)
    (later : last ≤ call.now) (fine : SweepsOwnWindows windowOf limiter call)
    (windows : ∀ charge ∈ call.charges, call.windowSeconds = windowOf charge.key)
    (refused : limiter.refuses call = true) (key : κ) :
    (limiter.after call).inWindow key (windowOf key) call.now =
      limiter.inWindow key (windowOf key) call.now := by
  have before : laterThan (call.now - windowOf key) (limiter.entries key) =
      laterThan (call.now - windowOf key) (instants log key) :=
    laterThan_congr (sub_le_sub_right later _) (tracks.current key)
  rw [DisclosureLimiter.inWindow, DisclosureLimiter.inWindow, before,
    (tracks.refused later fine windows refused).current key]

end Step

/-- A run keeps the limiter tracking everything charged along it. -/
theorem Tracks.run {limitOf windowOf : κ → Nat} {calls : List (ReserveCall κ)}
    (consistent : ConsistentCalls limitOf windowOf calls) {log : List (Charged κ)} {last : ℚ}
    {limiter : DisclosureLimiter κ} (tracks : Tracks limitOf windowOf log last limiter)
    (begins : ∀ call ∈ calls, last ≤ call.now)
    (fine : ∀ before call later, calls = before ++ call :: later →
      SweepsOwnWindows windowOf (limiter.run before) call) :
    ∃ reached, (∀ instant, last ≤ instant → (∀ call ∈ calls, call.now ≤ instant) →
        reached ≤ instant) ∧
      Tracks limitOf windowOf (log ++ limiter.chargedAlong calls) reached (limiter.run calls) := by
  induction calls generalizing log last limiter with
  | nil =>
      refine ⟨last, fun _ bound _ => bound, ?_⟩
      rw [DisclosureLimiter.chargedAlong, List.append_nil]
      exact tracks
  | cons call rest ih =>
      obtain ⟨ordered, limits, windows⟩ := consistent
      rw [List.map_cons, List.pairwise_cons] at ordered
      have stepped := tracks.after (begins call (List.mem_cons_self ..)) (fine [] call rest rfl)
        (limits call (List.mem_cons_self ..)) (windows call (List.mem_cons_self ..))
      obtain ⟨reached, bound, tracked⟩ := ih
        ⟨ordered.2, fun other member => limits other (List.mem_cons_of_mem _ member),
          fun other member => windows other (List.mem_cons_of_mem _ member)⟩ stepped
        (fun other member => ordered.1 _ (List.mem_map_of_mem member))
        (fun before other later split => fine (call :: before) other later (congrArg _ split))
      refine ⟨reached, fun instant _ all => bound instant (all call (List.mem_cons_self ..))
        (fun other member => all other (List.mem_cons_of_mem _ member)), ?_⟩
      rw [DisclosureLimiter.chargedAlong, ← List.append_assoc]
      exact tracked

omit [DecidableEq κ] in
theorem ConsistentCalls.of_append {limitOf windowOf : κ → Nat} {first second : List (ReserveCall κ)}
    (consistent : ConsistentCalls limitOf windowOf (first ++ second)) :
    ConsistentCalls limitOf windowOf first where
  ordered := by
    have ordered := consistent.ordered
    rw [List.map_append] at ordered
    exact (List.pairwise_append.mp ordered).1
  limits call member := consistent.limits call (List.mem_append_left _ member)
  windows call member := consistent.windows call (List.mem_append_left _ member)

/-- **Budgets hold over every run whose sweeps respect each key's own window.** -/
theorem budgetHolds_of_ownWindowSweeps (limitOf windowOf : κ → Nat) (calls : List (ReserveCall κ))
    (consistent : ConsistentCalls limitOf windowOf calls)
    (fine : ∀ before call later, calls = before ++ call :: later →
      SweepsOwnWindows windowOf (({} : DisclosureLimiter κ).run before) call) :
    BudgetHolds limitOf windowOf calls := by
  -- An instant no later than any call to start the run at.
  obtain ⟨start, begins⟩ : ∃ start : ℚ, ∀ call ∈ calls, start ≤ call.now := by
    cases calls with
    | nil => exact ⟨0, fun _ member => absurd member List.not_mem_nil⟩
    | cons first rest =>
        refine ⟨first.now, fun call member => ?_⟩
        have ordered := consistent.ordered
        rw [List.map_cons, List.pairwise_cons] at ordered
        rcases List.mem_cons.mp member with rfl | later
        · exact le_rfl
        · exact ordered.1 _ (List.mem_map_of_mem later)
  have initial := tracks_empty limitOf windowOf (κ := κ) start
  constructor
  · intro key instant
    obtain ⟨reached, _, tracked⟩ := initial.run consistent begins fine
    rw [chargedWeight_eq_windowCount]
    exact tracked.held key instant
  · intro before call later split refused key
    subst split
    obtain ⟨reached, bound, tracked⟩ := initial.run consistent.of_append
      (fun other member => begins other (List.mem_append_left _ member))
      (fun front other rest parts => fine front other (rest ++ call :: later) (by
        rw [parts, List.append_assoc, List.cons_append]))
    have inOrder : ∀ other ∈ before, other.now ≤ call.now := by
      intro other member
      have ordered := consistent.ordered
      rw [List.map_append] at ordered
      exact (List.pairwise_append.mp ordered).2.2 _ (List.mem_map_of_mem member) _
        (List.mem_cons_self ..)
    have atCall : call ∈ before ++ call :: later :=
      List.mem_append_right _ (List.mem_cons_self ..)
    have stepped := tracked.inWindow_refused
      (bound call.now (begins call atCall) inOrder) (fine before call later rfl)
      (consistent.windows call atCall) refused key
    rw [DisclosureLimiter.run, List.foldl_append]
    exact stepped

/-- One unit charged to a key at an instant. -/
def oneUnit (key : String) (limit windowSeconds : Nat) (now : ℚ) : ReserveCall String where
  charges := [⟨key, limit, .shape, 1⟩]
  windowSeconds := windowSeconds
  now := now

/-- Two charges to one key, in its window and within its limit. -/
theorem budgetHolds_of_ownWindowSweeps_twice :
    BudgetHolds (fun _ => 2) (fun _ => 60) [oneUnit "a" 2 60 10, oneUnit "a" 2 60 20] := by
  apply budgetHolds_of_ownWindowSweeps
  · refine ⟨by norm_num [oneUnit], fun call member charge inside => ?_,
      fun call member charge inside => ?_⟩
    · simp only [List.mem_cons, List.not_mem_nil, or_false] at member
      rcases member with rfl | rfl <;> rw [List.mem_singleton.mp inside]
    · simp only [List.mem_cons, List.not_mem_nil, or_false] at member
      rcases member with rfl | rfl <;> rfl
  · intro before call later split
    have member : call ∈ [oneUnit "a" 2 60 10, oneUnit "a" 2 60 20] :=
      split ▸ List.mem_append_right _ (List.mem_cons_self ..)
    simp only [List.mem_cons, List.not_mem_nil, or_false] at member
    rcases member with rfl | rfl <;>
      exact ⟨List.nodup_singleton _, fun _ _ _ _ aged => aged⟩

/-- The windows of two keys: an hour and a minute. -/
def hourAndMinute (key : String) : Nat :=
  if key = "a" then 3600 else 60

/-- A charge to the hourly key, a charge to the other key that sweeps with a
minute's window, and a second charge to the hourly key. -/
def sweptBudget : List (ReserveCall String) :=
  [oneUnit "a" 1 3600 100, oneUnit "b" 1 60 200, oneUnit "a" 1 3600 300]

/-- The sweep of the other key's call forgets the charge, and the hourly key is
charged twice within its hour with a limit of one. -/
theorem budgetHolds_fails_on_sweptBudget :
    ConsistentCalls (fun _ => 1) hourAndMinute sweptBudget ∧
      ¬ BudgetHolds (fun _ => 1) hourAndMinute sweptBudget := by
  constructor
  · refine ⟨by norm_num [sweptBudget, oneUnit], fun call member charge inside => ?_,
      fun call member charge inside => ?_⟩
    · simp only [sweptBudget, List.mem_cons, List.not_mem_nil, or_false] at member
      rcases member with rfl | rfl | rfl <;> rw [List.mem_singleton.mp inside]
    · simp only [sweptBudget, List.mem_cons, List.not_mem_nil, or_false] at member
      rcases member with rfl | rfl | rfl <;> rw [List.mem_singleton.mp inside] <;> rfl
  · intro held
    have twice : chargedWeight (({} : DisclosureLimiter String).chargedAlong sweptBudget) "a" 3600
        300 = 2 := by decide +kernel
    have bounded := held.1 "a" 300
    rw [hourAndMinute, if_pos rfl, twice] at bounded
    exact absurd bounded (by decide)

end QueryGate
