import QueryGate.Execution.RedisDisclosure
import QueryGate.Foundation.Leases
import QueryGate.Foundation.Runs

/-! # Concurrency slots in Redis

`RedisConcurrencyLimiter` keeps the slots of a connection in one sorted set that every replica
uses. An acquisition draws a token and polls a script with it until the script admits the token,
the caller gives up, or Redis fails; a release takes the token out. A slot that is not given
back is reclaimed when its lease is over. A poll or a release may be lost on its way to Redis or
on its way back.

In every run of any number of replicas the callers within their leases never exceed the cap and
keep their slots; where no message is lost, a poll is admitted exactly when fewer callers than
the cap hold a slot (`slotsHold_of_run`).
-/

namespace QueryGate

open Foundation

/-- The settings of the limiter and the cap of the connection. A lease is no negative time. -/
structure LeaseSettings where
  leaseSeconds : ℚ
  maxConcurrency : Nat
  failOpen : Bool
  leaseLasts : 0 ≤ leaseSeconds

/-- The instant `PEXPIRE key math.ceil(lease * 2000)` lets a key last until. -/
def LeaseSettings.deadline (settings : LeaseSettings) (now : ℚ) : ℚ :=
  now + ⌈settings.leaseSeconds * 2000⌉ / 1000

/-- `_ACQUIRE_SCRIPT`: the set afterwards, and whether the token was admitted. -/
def acquireScript (settings : LeaseSettings) (now : ℚ) (token : String)
    (slots : ScoredSet String ℚ) : ScoredSet String ℚ × Bool :=
  let kept := (slots.seenAt now).dropThrough (now - settings.leaseSeconds)
  if kept.members.length < settings.maxConcurrency then
    ((kept.enter token now).keepUntil (settings.deadline now), true)
  else (kept, false)

/-- `ZREM`. -/
def releaseCommand (now : ℚ) (token : String) (slots : ScoredSet String ℚ) :
    ScoredSet String ℚ :=
  (slots.seenAt now).leave token

/-- Where a call of `acquire` stands: it polls, its caller holds the slot taken at an instant or
goes on without one (`_FAIL_OPEN_TOKEN`), or it has raised or been released. -/
inductive AcquirePhase where
  | polling
  | holding (since : ℚ)
  | unguarded
  | ended
  deriving DecidableEq, Repr

/-- The slots of a connection, the calls of `acquire` by the tokens they drew, and the clock. -/
structure LeaseState where
  slots : ScoredSet String ℚ := {}
  calls : List (String × AcquirePhase) := []
  clock : ℚ

/-- What happens: a call draws its token, polls, gives up between two polls, by its deadline or
a cancellation, is cancelled with a poll on its way, or its caller releases the slot. -/
inductive LeaseAction where
  | begins (token : String)
  | polls (token : String) (now : ℚ) (delivery : Delivery)
  | givesUp (token : String)
  | abandons (token : String) (now : ℚ)
  | releases (token : String) (now : ℚ) (delivery : Delivery)
  deriving DecidableEq, Repr

/-- What became of an action on its way to Redis and back. -/
def LeaseAction.delivery : LeaseAction → Delivery
  | .polls _ _ delivery => delivery
  | .releases _ _ delivery => delivery
  | .abandons _ _ => .lost
  | _ => .answered

/-- The phase of a call that Redis did not answer. -/
def LeaseSettings.unanswered (settings : LeaseSettings) : AcquirePhase :=
  if settings.failOpen then .unguarded else .ended

/-- The state at an instant, with a call in another phase. -/
def LeaseState.setCall (state : LeaseState) (token : String) (phase : AcquirePhase) (now : ℚ) :
    LeaseState :=
  { state with calls := dictSet state.calls token phase, clock := now }

/-- One poll of `acquire`, and the token where it is answered with a slot. -/
def pollSlot (settings : LeaseSettings) (state : LeaseState) (token : String) (now : ℚ)
    (delivery : Delivery) : LeaseState × List String :=
  let ran := acquireScript settings now token state.slots
  match delivery with
  | .answered =>
      if ran.2 then ({ state with slots := ran.1 }.setCall token (.holding now) now, [token])
      else ({ state with slots := ran.1 }.setCall token .polling now, [])
  | .lost => ({ state with slots := ran.1 }.setCall token settings.unanswered now, [])
  | .unreached => (state.setCall token settings.unanswered now, [])

/-- `release` of a slot that is held; a failing one is a warning. -/
def releaseSlot (state : LeaseState) (token : String) (now : ℚ) (delivery : Delivery) :
    LeaseState :=
  match delivery with
  | .unreached => state.setCall token .ended now
  | _ => { state with slots := releaseCommand now token state.slots }.setCall token .ended now

/-- One action, where it can happen; it shows the token that is answered with a slot. -/
def leaseStep (settings : LeaseSettings) (state : LeaseState) :
    LeaseAction → Option (LeaseState × List String)
  | .begins token =>
      match dictGet state.calls token with
      | none => some (state.setCall token .polling state.clock, [])
      | some _ => none
  | .polls token now delivery =>
      match dictGet state.calls token with
      | some .polling =>
          if state.clock ≤ now then some (pollSlot settings state token now delivery) else none
      | _ => none
  | .givesUp token =>
      match dictGet state.calls token with
      | some .polling => some (state.setCall token .ended state.clock, [])
      | _ => none
  | .abandons token now =>
      match dictGet state.calls token with
      | some .polling =>
          if state.clock ≤ now then
            some ({ state with slots := (acquireScript settings now token state.slots).1 }.setCall
              token .ended now, [])
          else none
      | _ => none
  | .releases token now delivery =>
      match dictGet state.calls token with
      | some (.holding _) =>
          if state.clock ≤ now then some (releaseSlot state token now delivery, []) else none
      | some .unguarded =>
          if state.clock ≤ now then some (state.setCall token .ended now, []) else none
      | _ => none

/-! ## Holders -/

/-- The slot a call holds. -/
def heldBy (call : String × AcquirePhase) : Option (String × ℚ) :=
  match call.2 with
  | .holding since => some (call.1, since)
  | _ => none

/-- The callers that hold a slot, with the instants they took it at. -/
def LeaseState.holders (state : LeaseState) : List (String × ℚ) :=
  state.calls.filterMap heldBy

theorem heldBy_eq_some_iff {call : String × AcquirePhase} {holder : String × ℚ} :
    heldBy call = some holder ↔ call = (holder.1, .holding holder.2) := by
  obtain ⟨token, phase⟩ := call
  obtain ⟨name, since⟩ := holder
  cases phase with
  | holding instant => simp [heldBy]
  | polling | unguarded | ended => simp [heldBy]

theorem keys_filterMap_heldBy (calls : List (String × AcquirePhase)) :
    (dictKeys (calls.filterMap heldBy)).Sublist (dictKeys calls) := by
  induction calls with
  | nil => exact List.Sublist.refl _
  | cons call rest ih =>
      rw [List.filterMap_cons]
      split
      · exact ih.trans (List.sublist_cons_self _ _)
      · rename_i holder held
        rw [heldBy_eq_some_iff.mp held]
        exact ih.cons_cons holder.1

theorem LeaseState.mem_holders {state : LeaseState} (distinct : (dictKeys state.calls).Nodup)
    {token : String} {since : ℚ} :
    (token, since) ∈ state.holders ↔ dictGet state.calls token = some (.holding since) := by
  rw [holders, List.mem_filterMap]
  constructor
  · rintro ⟨call, member, held⟩
    rw [heldBy_eq_some_iff] at held
    exact dictGet_of_mem_nodup distinct (held ▸ member)
  · exact fun found => ⟨_, dictGet_eq_some_mem found, rfl⟩

theorem LeaseState.nodup_holders {state : LeaseState} (distinct : (dictKeys state.calls).Nodup) :
    state.holders.Nodup :=
  (distinct.sublist (keys_filterMap_heldBy state.calls)).of_map

/-! ## The books of the slots -/

/-- The set keeps the books of the slots taken, and each is that of a call that has stopped
polling; a caller that holds a slot is in the books. -/
structure SlotBooks (settings : LeaseSettings) (state : LeaseState) (ledger : List (String × ℚ)) :
    Prop where
  books : Leases settings.leaseSeconds state.clock ledger state.slots
  distinct : (dictKeys state.calls).Nodup
  once : (dictKeys ledger).Nodup
  drawn : ∀ token ∈ dictKeys ledger, ∃ phase, dictGet state.calls token = some phase ∧
    phase ≠ .polling
  held : ∀ token since, dictGet state.calls token = some (.holding since) → (token, since) ∈ ledger
  room : (outstanding settings.leaseSeconds state.clock ledger).length ≤ settings.maxConcurrency

/-- Every slot in the books is held. -/
def AllHeld (state : LeaseState) (ledger : List (String × ℚ)) : Prop :=
  ∀ entry ∈ ledger, dictGet state.calls entry.1 = some (.holding entry.2)

namespace SlotBooks

variable {settings : LeaseSettings} {state : LeaseState} {ledger : List (String × ℚ)}

theorem initial (settings : LeaseSettings) (start : ℚ) :
    SlotBooks settings { clock := start } [] where
  books := Leases.empty _ _
  distinct := List.nodup_nil
  once := List.nodup_nil
  drawn _ member := absurd member List.not_mem_nil
  held _ _ found := by cases found
  room := Nat.zero_le _

/-- A call that polls is not in the books. -/
theorem fresh (books : SlotBooks settings state ledger) {token : String}
    (polling : ∀ phase, dictGet state.calls token = some phase → phase = .polling) :
    token ∉ dictKeys ledger := fun member => by
  obtain ⟨phase, found, stopped⟩ := books.drawn token member
  exact stopped (polling phase found)

/-- Time passes. -/
theorem later (books : SlotBooks settings state ledger) {now : ℚ} (order : state.clock ≤ now) :
    SlotBooks settings { state with clock := now } ledger where
  books := books.books.later order
  distinct := books.distinct
  once := books.once
  drawn := books.drawn
  held := books.held
  room := by
    refine le_trans (List.Sublist.length_le ?_) books.room
    dsimp only
    rw [← Leases.outstanding_later order ledger]
    exact List.filter_sublist

/-- A call stops polling, or one that is not in the books goes to any phase. -/
theorem setCall (books : SlotBooks settings state ledger) {token : String} {phase : AcquirePhase}
    (stops : phase ≠ .polling ∨ token ∉ dictKeys ledger)
    (holds : ∀ since, phase ≠ .holding since) :
    SlotBooks settings (state.setCall token phase state.clock) ledger where
  books := books.books
  distinct := nodup_dictSet books.distinct token phase
  once := books.once
  drawn other member := by
    rw [LeaseState.setCall, dictGet_dictSet]
    split
    · rename_i same
      exact ⟨phase, rfl, stops.resolve_right fun absent => absent (same ▸ member)⟩
    · exact books.drawn other member
  held other since found := by
    rw [LeaseState.setCall, dictGet_dictSet] at found
    split at found
    · exact absurd (Option.some.inj found) (holds since)
    · exact books.held other since found
  room := books.room

/-- The leases that are over are dropped. -/
theorem pruned (books : SlotBooks settings state ledger) :
    SlotBooks settings { state with
      slots := (state.slots.seenAt state.clock).dropThrough
        (state.clock - settings.leaseSeconds) } ledger where
  books := books.books.pruned.1
  distinct := books.distinct
  once := books.once
  drawn := books.drawn
  held := books.held
  room := books.room

/-- A new token takes a slot where there is room. -/
theorem enter (books : SlotBooks settings state ledger) {token : String} {phase : AcquirePhase}
    (fresh : token ∉ dictKeys ledger)
    (room : (outstanding settings.leaseSeconds state.clock ledger).length < settings.maxConcurrency)
    (stops : phase ≠ .polling) (holds : ∀ since, phase = .holding since → since = state.clock) :
    SlotBooks settings ({ state with
      slots := (state.slots.enter token state.clock).keepUntil
        (settings.deadline state.clock) }.setCall token phase state.clock)
      (ledger ++ [(token, state.clock)]) where
  books := by
    refine books.books.take fresh ?_
    have rounded : settings.leaseSeconds * 2000 ≤ (⌈settings.leaseSeconds * 2000⌉ : ℚ) :=
      Int.le_ceil _
    have lasts := settings.leaseLasts
    rw [LeaseSettings.deadline]
    linarith
  distinct := nodup_dictSet books.distinct token phase
  once := by
    rw [dictKeys, List.map_append, List.nodup_append]
    refine ⟨books.once, List.nodup_singleton _, fun old before new added same => ?_⟩
    have named : new = token := List.mem_singleton.mp added
    exact fresh (named ▸ same ▸ before)
  drawn other member := by
    rw [LeaseState.setCall, dictGet_dictSet]
    split
    · exact ⟨phase, rfl, stops⟩
    · rename_i apart
      rw [dictKeys, List.map_append, List.mem_append] at member
      exact books.drawn other (member.resolve_right fun added =>
        apart (List.mem_singleton.mp added).symm)
  held other since found := by
    rw [LeaseState.setCall, dictGet_dictSet] at found
    rw [List.mem_append, List.mem_singleton]
    split at found
    · rename_i same
      rw [← same, holds since (Option.some.inj found)]
      exact .inr rfl
    · exact .inl (books.held other since found)
  room := by
    change (outstanding settings.leaseSeconds state.clock
      (ledger ++ [(token, state.clock)])).length ≤ _
    rw [outstanding, List.filter_append, List.length_append]
    have one := List.length_filter_le
      (fun entry : String × ℚ => decide (state.clock - settings.leaseSeconds < entry.2))
      [(token, state.clock)]
    rw [List.length_singleton] at one
    unfold outstanding at room
    omega

/-- The script admits a token where fewer slots than the cap are outstanding. -/
theorem acquireScript_iff (books : SlotBooks settings state ledger) (token : String) :
    (acquireScript settings state.clock token state.slots).2 = true ↔
      (outstanding settings.leaseSeconds state.clock ledger).length < settings.maxConcurrency := by
  unfold acquireScript
  dsimp only
  rw [books.books.pruned.2]
  split
  · rename_i room
    exact ⟨fun _ => room, fun _ => rfl⟩
  · rename_i full
    exact ⟨fun wrong => absurd wrong Bool.false_ne_true, fun room => absurd room full⟩

/-- A token that is not in the books polls, and its call goes on in a phase. -/
theorem poll (books : SlotBooks settings state ledger) {now : ℚ} (order : state.clock ≤ now)
    {token : String} (fresh : token ∉ dictKeys ledger) (admitted refused : AcquirePhase)
    (stops : admitted ≠ .polling) (holds : ∀ since, admitted = .holding since → since = now)
    (bare : ∀ since, refused ≠ .holding since) :
    ((acquireScript settings now token state.slots).2 = true ∧
        SlotBooks settings ({ state with
          slots := (acquireScript settings now token state.slots).1 }.setCall token admitted now)
          (ledger ++ [(token, now)])) ∨
      ((acquireScript settings now token state.slots).2 = false ∧
        SlotBooks settings ({ state with
          slots := (acquireScript settings now token state.slots).1 }.setCall token refused now)
          ledger) := by
  have present := books.later order
  have room := present.acquireScript_iff token
  unfold acquireScript at room ⊢
  dsimp only at room ⊢
  split at room
  · rename_i fits
    rw [if_pos fits]
    exact .inl ⟨rfl, present.pruned.enter fresh (room.mp rfl) stops holds⟩
  · rename_i full
    rw [if_neg full]
    exact .inr ⟨rfl, present.pruned.setCall (.inr fresh) bare⟩

/-- A slot is given back. -/
theorem leave (books : SlotBooks settings state ledger) (token : String) :
    SlotBooks settings ({ state with
      slots := releaseCommand state.clock token state.slots }.setCall token .ended state.clock)
      (ledger.filter fun entry => entry.1 ≠ token) where
  books := books.books.giveBack token
  distinct := nodup_dictSet books.distinct token .ended
  once := nodup_dictKeys_filter books.once _
  drawn other member := by
    rw [LeaseState.setCall, dictGet_dictSet]
    split
    · exact ⟨.ended, rfl, by simp⟩
    · obtain ⟨entry, kept, rfl⟩ := List.mem_map.mp member
      exact books.drawn entry.1 (List.mem_map_of_mem (List.mem_of_mem_filter kept))
  held other since found := by
    rw [LeaseState.setCall, dictGet_dictSet] at found
    split at found
    · cases found
    · rename_i apart
      refine List.mem_filter.mpr ⟨books.held other since found, ?_⟩
      exact decide_eq_true (Ne.symm apart)
  room := by
    refine le_trans (List.Sublist.length_le ?_) books.room
    exact List.filter_sublist.filter _

/-- No slot in the books is left by a call that changes its phase outside them. -/
theorem allHeld_setCall {token : String} {phase : AcquirePhase} {now : ℚ}
    {slots : ScoredSet String ℚ}
    (all : AllHeld state ledger) (fresh : token ∉ dictKeys ledger) :
    AllHeld ({ state with slots := slots }.setCall token phase now) ledger := by
  intro entry member
  have apart : token ≠ entry.1 := fun same => fresh (same ▸ List.mem_map_of_mem member)
  rw [LeaseState.setCall, dictGet_dictSet, if_neg apart]
  exact all entry member

/-- One action keeps the books, and, where no message is lost, every slot in them held. -/
theorem step (books : SlotBooks settings state ledger) {action : LeaseAction} {next : LeaseState}
    {new : List String} (stepped : leaseStep settings state action = some (next, new)) :
    ∃ after, SlotBooks settings next after ∧
      (action.delivery = .answered → AllHeld state ledger → AllHeld next after) := by
  cases action with
  | begins token =>
      rw [leaseStep] at stepped
      split at stepped
      · rename_i unknown
        cases stepped
        have fresh := books.fresh fun phase found => by rw [unknown] at found; cases found
        exact ⟨ledger, books.setCall (.inr fresh) (fun _ same => by cases same),
          fun _ all => allHeld_setCall all fresh⟩
      · cases stepped
  | polls token now delivery =>
      rw [leaseStep] at stepped
      split at stepped
      · rename_i polling
        split at stepped
        · rename_i order
          have fresh := books.fresh fun phase found => by
            rw [polling] at found
            exact (Option.some.inj found).symm
          have unanswered : settings.unanswered ≠ .polling ∧
              ∀ since, settings.unanswered ≠ .holding since := by
            unfold LeaseSettings.unanswered
            split
            · exact ⟨by simp, by simp⟩
            · exact ⟨by simp, by simp⟩
          cases delivery with
          | answered =>
              have polled := books.poll order fresh (.holding now) .polling (by simp)
                (fun since same => by cases same; rfl) (by simp)
              simp only [pollSlot] at stepped
              rcases polled with ⟨admitted, kept⟩ | ⟨refused, kept⟩
              · rw [if_pos admitted] at stepped
                cases stepped
                refine ⟨_, kept, fun _ all entry member => ?_⟩
                rw [LeaseState.setCall, dictGet_dictSet]
                rcases List.mem_append.mp member with before | added
                · have apart : token ≠ entry.1 :=
                    fun same => fresh (same ▸ List.mem_map_of_mem before)
                  rw [if_neg apart]
                  exact all entry before
                · rw [List.mem_singleton.mp added, if_pos rfl]
              · rw [if_neg (by rw [refused]; exact Bool.false_ne_true)] at stepped
                cases stepped
                exact ⟨_, kept, fun _ all => allHeld_setCall all fresh⟩
          | lost =>
              have polled := books.poll order fresh settings.unanswered settings.unanswered
                unanswered.1
                (fun since same => absurd same (unanswered.2 since)) unanswered.2
              cases stepped
              rcases polled with ⟨_, kept⟩ | ⟨_, kept⟩
              · exact ⟨_, kept, fun delivered => by cases delivered⟩
              · exact ⟨_, kept, fun delivered => by cases delivered⟩
          | unreached =>
              cases stepped
              exact ⟨_, (books.later order).setCall (.inl unanswered.1) unanswered.2,
                fun delivered => by cases delivered⟩
        · cases stepped
      · cases stepped
  | givesUp token =>
      rw [leaseStep] at stepped
      split at stepped
      · rename_i polling
        cases stepped
        have fresh := books.fresh fun phase found => by
          rw [polling] at found
          exact (Option.some.inj found).symm
        exact ⟨ledger, books.setCall (.inr fresh) (fun _ same => by cases same),
          fun _ all => allHeld_setCall all fresh⟩
      · cases stepped
  | abandons token now =>
      rw [leaseStep] at stepped
      split at stepped
      · rename_i polling
        split at stepped
        · rename_i order
          have fresh := books.fresh fun phase found => by
            rw [polling] at found
            exact (Option.some.inj found).symm
          have polled := books.poll order fresh .ended .ended (by simp)
            (fun since same => by cases same) (by simp)
          cases stepped
          rcases polled with ⟨_, kept⟩ | ⟨_, kept⟩
          · exact ⟨_, kept, fun delivered => by cases delivered⟩
          · exact ⟨_, kept, fun delivered => by cases delivered⟩
        · cases stepped
      · cases stepped
  | releases token now delivery =>
      rw [leaseStep] at stepped
      split at stepped
      · rename_i since holding
        split at stepped
        · rename_i order
          have present := books.later order
          cases delivery with
          | answered =>
              cases stepped
              refine ⟨_, present.leave token, fun _ all entry member => ?_⟩
              obtain ⟨kept, other⟩ := List.mem_filter.mp member
              have apart : token ≠ entry.1 := Ne.symm (of_decide_eq_true other)
              change dictGet (dictSet state.calls token .ended) entry.1 = _
              rw [dictGet_dictSet, if_neg apart]
              exact all entry kept
          | lost =>
              cases stepped
              exact ⟨_, present.leave token, fun delivered => by cases delivered⟩
          | unreached =>
              cases stepped
              exact ⟨_, present.setCall (.inl (by simp)) (by simp),
                fun delivered => by cases delivered⟩
        · cases stepped
      · rename_i unguarded
        split at stepped
        · rename_i order
          cases stepped
          refine ⟨_, (books.later order).setCall (.inl (by simp)) (by simp), fun _ all => ?_⟩
          refine allHeld_setCall all fun member => ?_
          obtain ⟨entry, inBooks, rfl⟩ := List.mem_map.mp member
          rw [all entry inBooks] at unguarded
          cases unguarded
        · cases stepped
      · cases stepped

/-- The slots held within their leases are outstanding. -/
theorem outstanding_holders_subset (books : SlotBooks settings state ledger) (now : ℚ) :
    outstanding settings.leaseSeconds now state.holders ⊆
      outstanding settings.leaseSeconds now ledger := by
  rintro ⟨token, since⟩ member
  obtain ⟨holds, inLease⟩ := mem_outstanding.mp member
  exact mem_outstanding.mpr
    ⟨books.held token since ((LeaseState.mem_holders books.distinct).mp holds), inLease⟩

theorem outstanding_holders_length (books : SlotBooks settings state ledger) (now : ℚ) :
    (outstanding settings.leaseSeconds now state.holders).length ≤
      (outstanding settings.leaseSeconds now ledger).length :=
  (List.Nodup.subperm ((LeaseState.nodup_holders books.distinct).filter _)
    (books.outstanding_holders_subset now)).length_le

/-- Where every slot in the books is held, the holders are all that is outstanding. -/
theorem outstanding_length_of_allHeld (books : SlotBooks settings state ledger)
    (all : AllHeld state ledger) (now : ℚ) :
    (outstanding settings.leaseSeconds now ledger).length =
      (outstanding settings.leaseSeconds now state.holders).length := by
  refine le_antisymm (List.Subperm.length_le (List.Nodup.subperm (books.once.of_map.filter _) ?_))
    (books.outstanding_holders_length now)
  rintro ⟨token, since⟩ member
  obtain ⟨inBooks, inLease⟩ := mem_outstanding.mp member
  exact mem_outstanding.mpr
    ⟨(LeaseState.mem_holders books.distinct).mpr (all _ inBooks), inLease⟩

end SlotBooks

/-! ## Runs -/

/-- What holds of the slots of a connection, now and at every later instant: no more callers than
the cap are within their leases, and each of these still has its slot. -/
structure SlotsHold (settings : LeaseSettings) (state : LeaseState) : Prop where
  bounded : ∀ now, state.clock ≤ now →
    (outstanding settings.leaseSeconds now state.holders).length ≤ settings.maxConcurrency
  kept : ∀ now, state.clock ≤ now →
    outstanding settings.leaseSeconds now state.holders ⊆ (state.slots.seenAt now).members

/-- A poll is admitted exactly when fewer callers than the cap are within their leases. -/
def AdmitsByHolders (settings : LeaseSettings) (state : LeaseState) : Prop :=
  ∀ now token, state.clock ≤ now →
    ((acquireScript settings now token state.slots).2 = true ↔
      (outstanding settings.leaseSeconds now state.holders).length < settings.maxConcurrency)

theorem SlotBooks.slotsHold {settings : LeaseSettings} {state : LeaseState}
    {ledger : List (String × ℚ)} (books : SlotBooks settings state ledger) :
    SlotsHold settings state where
  bounded now order := le_trans (books.outstanding_holders_length now) (books.later order).room
  kept now order := by
    intro holder member
    have inBooks := books.outstanding_holders_subset now member
    have present := (books.later order).books
    rw [← present.current, ← present.lasting.current_seenAt] at inBooks
    exact (ScoredSet.mem_current.mp inBooks).1

/-- **The slots hold across replicas**: in every run, whatever messages are lost, the callers
within their leases never exceed the cap and keep their slots; and where none is lost, polls are
admitted exactly by who holds a slot. -/
theorem slotsHold_of_run {settings : LeaseSettings} {start : ℚ} {actions : List LeaseAction}
    {state : LeaseState} {admitted : List String}
    (ran : runSteps (leaseStep settings) { clock := start } actions = some (state, admitted)) :
    SlotsHold settings state ∧
      ((∀ action ∈ actions, action.delivery = .answered) → AdmitsByHolders settings state) := by
  constructor
  · obtain ⟨ledger, books⟩ := @invariant_of_run _ _ _ (leaseStep settings) (fun _ _ => True)
      (fun state _ => ∃ ledger, SlotBooks settings state ledger)
      (fun holds _ stepped => holds.elim fun _ books =>
        (books.step stepped).imp fun _ after => after.1) _ _ _ [] _
      ⟨[], SlotBooks.initial settings start⟩ (stepsMeet_of_forall (fun _ _ => trivial) _) ran
    exact books.slotsHold
  · intro answered now token order
    obtain ⟨ledger, books, all⟩ := @invariant_of_run _ _ _ (leaseStep settings)
      (fun _ action => action.delivery = .answered)
      (fun state _ => ∃ ledger, SlotBooks settings state ledger ∧ AllHeld state ledger)
      (fun holds delivered stepped => holds.elim fun _ before =>
        (before.1.step stepped).imp fun _ after => ⟨after.1, after.2 delivered before.2⟩) _ _ _ [] _
      ⟨[], SlotBooks.initial settings start, fun _ member => absurd member List.not_mem_nil⟩
      (stepsMeet_of_forall answered _) ran
    rw [← books.outstanding_length_of_allHeld all]
    exact (books.later order).acquireScript_iff token

/-- One slot, with leases of two minutes. -/
def oneLease : LeaseSettings where
  leaseSeconds := 120
  maxConcurrency := 1
  failOpen := true
  leaseLasts := by norm_num

/-- Two callers: the second polls in vain, and again once the first has released. -/
def twoCallers : List LeaseAction :=
  [.begins "a", .polls "a" 10 .answered, .begins "b", .polls "b" 11 .answered,
    .releases "a" 20 .answered, .polls "b" 21 .answered]

theorem slotsHold_twoCallers :
    ∃ state, runSteps (leaseStep oneLease) { clock := 0 } twoCallers = some (state, ["a", "b"]) ∧
      SlotsHold oneLease state ∧ AdmitsByHolders oneLease state := by
  have shown : (runSteps (leaseStep oneLease) { clock := 0 } twoCallers).map Prod.snd =
      some ["a", "b"] := by decide +kernel
  obtain ⟨⟨state, admitted⟩, ran, rfl⟩ := Option.map_eq_some_iff.mp shown
  obtain ⟨held, exact_⟩ := slotsHold_of_run ran
  exact ⟨state, ran, held, exact_ (by decide)⟩

end QueryGate
