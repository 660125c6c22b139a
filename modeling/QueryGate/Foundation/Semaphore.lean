import Mathlib.Data.List.Basic
import Mathlib.Data.List.Nodup
import Mathlib.Tactic.Linarith

/-! # A fair counting semaphore

The semaphore of a cooperative scheduler: a counter, and the futures of those who wait, in
order of arrival. A slot is handed to the first future that is not done, before its owner
runs again, so free slots and handed slots are counted together (`slots`). An owner that is
cancelled in between gives its slot back.
-/

namespace Foundation

/-! ## Counting under distinct keys -/

section Counting

variable {κ ε : Type} [DecidableEq κ] {key : ε → κ}

omit [DecidableEq κ] in
/-- An item with a key of its own stands alone under it. -/
theorem split_at_key {items : List ε} (distinct : (items.map key).Nodup) {item : ε}
    (member : item ∈ items) :
    ∃ before after, items = before ++ item :: after ∧
      (∀ other ∈ before, key other ≠ key item) ∧ ∀ other ∈ after, key other ≠ key item := by
  obtain ⟨before, after, rfl⟩ := List.append_of_mem member
  rw [List.map_append, List.map_cons, List.nodup_append, List.nodup_cons] at distinct
  obtain ⟨_, ⟨alone, _⟩, apart⟩ := distinct
  refine ⟨before, after, rfl, fun other inside => ?_, fun other inside same => alone ?_⟩
  · exact apart _ (List.mem_map_of_mem inside) _ (List.mem_cons_self ..)
  · rw [← same]
    exact List.mem_map_of_mem inside

/-- Dropping an item by its key takes it off every count. -/
theorem countP_drop {items : List ε} (distinct : (items.map key).Nodup) {item : ε}
    (member : item ∈ items) (counted : ε → Bool) :
    (items.filter fun other => key other ≠ key item).countP counted +
      (if counted item then 1 else 0) = items.countP counted := by
  obtain ⟨before, after, rfl, front, back⟩ := split_at_key distinct member
  have kept : ∀ part : List ε, (∀ other ∈ part, key other ≠ key item) →
      part.filter (fun other => decide (key other ≠ key item)) = part :=
    fun part apart => List.filter_eq_self.mpr fun other inside => decide_eq_true (apart other inside)
  rw [List.filter_append, List.filter_cons, if_neg (by simp), kept before front, kept after back,
    List.countP_append, List.countP_append, List.countP_cons]
  omega

/-- Replacing an item by its key exchanges it in every count. -/
theorem countP_replace {items : List ε} (distinct : (items.map key).Nodup) {item : ε}
    (member : item ∈ items) (new : ε) (counted : ε → Bool) :
    (items.map fun other => if key other = key item then new else other).countP counted +
        (if counted item then 1 else 0) =
      items.countP counted + (if counted new then 1 else 0) := by
  obtain ⟨before, after, rfl, front, back⟩ := split_at_key distinct member
  have kept : ∀ part : List ε, (∀ other ∈ part, key other ≠ key item) →
      part.map (fun other => if key other = key item then new else other) = part :=
    fun part apart => (List.map_congr_left fun other inside => if_neg (apart other inside)).trans
      (List.map_id part)
  rw [List.map_append, List.map_cons, if_pos rfl, kept before front, kept after back,
    List.countP_append, List.countP_append, List.countP_cons, List.countP_cons]
  omega

end Counting

/-! ## Futures -/

/-- A future that somebody waits for: pending, with a slot for its owner, or cancelled. -/
inductive FutureState where
  | pending | granted | cancelled
  deriving DecidableEq, Repr

/-- A semaphore: its counter, and the futures that are waited for. -/
structure Semaphore (α : Type) where
  value : Nat
  waiters : List (α × FutureState) := []

namespace Semaphore

variable {α : Type} [DecidableEq α]

/-! ## Operations -/

/-- The semaphore cannot be acquired at once: it has no free slot, or somebody came before. -/
def locked (semaphore : Semaphore α) : Bool :=
  semaphore.value == 0 || semaphore.waiters.any fun waiter => waiter.2 != .cancelled

/-- The first pending future is granted. -/
def grantFirst : List (α × FutureState) → List (α × FutureState)
  | [] => []
  | (owner, .pending) :: rest => (owner, .granted) :: rest
  | (owner, .granted) :: rest => (owner, .granted) :: grantFirst rest
  | (owner, .cancelled) :: rest => (owner, .cancelled) :: grantFirst rest

/-- Somebody waits for a slot. -/
def hasPending (waiters : List (α × FutureState)) : Bool :=
  waiters.any fun waiter => waiter.2 == .pending

/-- `_wake_up_next`: a slot is handed to the first future that is not done. -/
def wakeUpNext (semaphore : Semaphore α) : Semaphore α :=
  if hasPending semaphore.waiters then
    { value := semaphore.value - 1, waiters := grantFirst semaphore.waiters }
  else semaphore

/-- `release`. -/
def release (semaphore : Semaphore α) : Semaphore α :=
  wakeUpNext { semaphore with value := semaphore.value + 1 }

/-- A slot taken at once. -/
def take (semaphore : Semaphore α) : Semaphore α :=
  { semaphore with value := semaphore.value - 1 }

/-- A new future at the end of the queue. -/
def park (semaphore : Semaphore α) (owner : α) : Semaphore α :=
  { semaphore with waiters := semaphore.waiters ++ [(owner, .pending)] }

/-- The state of an owner's future. -/
def futureOf (semaphore : Semaphore α) (owner : α) : Option FutureState :=
  (semaphore.waiters.find? fun waiter => waiter.1 == owner).map Prod.snd

/-- The owner's future is cancelled, unless it is done. -/
def cancel (semaphore : Semaphore α) (owner : α) : Semaphore α :=
  { semaphore with
    waiters := semaphore.waiters.map fun waiter =>
      if waiter.1 = owner ∧ waiter.2 = .pending then (waiter.1, .cancelled) else waiter }

/-- The owner's future leaves the queue. -/
def remove (semaphore : Semaphore α) (owner : α) : Semaphore α :=
  { semaphore with waiters := semaphore.waiters.filter fun waiter => waiter.1 ≠ owner }

/-- An owner with a slot goes on; a free slot is handed on. -/
def proceed (semaphore : Semaphore α) (owner : α) : Semaphore α :=
  let rest := semaphore.remove owner
  if 0 < rest.value then rest.wakeUpNext else rest

/-- An owner with a slot is cancelled: it gives the slot back. -/
def giveBack (semaphore : Semaphore α) (owner : α) : Semaphore α :=
  (semaphore.remove owner).release

/-! ## Counting slots -/

/-- The slots handed to futures. -/
def granted (semaphore : Semaphore α) : Nat :=
  semaphore.waiters.countP fun waiter => waiter.2 == .granted

/-- The slots that nobody holds yet. -/
def slots (semaphore : Semaphore α) : Nat :=
  semaphore.value + semaphore.granted

/-- The owners of the futures, in order. -/
def owners (semaphore : Semaphore α) : List α :=
  semaphore.waiters.map Prod.fst

omit [DecidableEq α] in
theorem grantFirst_owners (waiters : List (α × FutureState)) :
    (grantFirst waiters).map Prod.fst = waiters.map Prod.fst := by
  induction waiters with
  | nil => rfl
  | cons waiter rest ih =>
      obtain ⟨owner, state⟩ := waiter
      cases state with
      | pending => rfl
      | granted => rw [grantFirst, List.map_cons, List.map_cons, ih]
      | cancelled => rw [grantFirst, List.map_cons, List.map_cons, ih]

omit [DecidableEq α] in
theorem grantFirst_count {waiters : List (α × FutureState)} (some : hasPending waiters = true) :
    (grantFirst waiters).countP (fun waiter => waiter.2 == .granted) =
      waiters.countP (fun waiter => waiter.2 == .granted) + 1 := by
  induction waiters with
  | nil => cases some
  | cons waiter rest ih =>
      obtain ⟨owner, state⟩ := waiter
      cases state with
      | pending =>
          rw [grantFirst, List.countP_cons, List.countP_cons]
          rfl
      | granted =>
          have later : hasPending rest = true := some
          rw [grantFirst, List.countP_cons, List.countP_cons, ih later]
          omega
      | cancelled =>
          have later : hasPending rest = true := some
          rw [grantFirst, List.countP_cons, List.countP_cons, ih later]
          omega

omit [DecidableEq α] in
@[simp] theorem owners_wakeUpNext (semaphore : Semaphore α) :
    semaphore.wakeUpNext.owners = semaphore.owners := by
  unfold wakeUpNext
  split
  · exact grantFirst_owners _
  · rfl

omit [DecidableEq α] in
/-- Handing a free slot on changes nothing about their number. -/
theorem slots_wakeUpNext {semaphore : Semaphore α} (free : 0 < semaphore.value) :
    semaphore.wakeUpNext.slots = semaphore.slots := by
  unfold wakeUpNext
  split
  · rename_i waiting
    rw [slots, slots, granted, granted, grantFirst_count waiting]
    change semaphore.value - 1 + _ = _
    omega
  · rfl

omit [DecidableEq α] in
@[simp] theorem owners_release (semaphore : Semaphore α) :
    semaphore.release.owners = semaphore.owners :=
  owners_wakeUpNext _

omit [DecidableEq α] in
@[simp] theorem slots_release (semaphore : Semaphore α) :
    semaphore.release.slots = semaphore.slots + 1 := by
  rw [release, slots_wakeUpNext (Nat.succ_pos semaphore.value)]
  change semaphore.value + 1 + semaphore.granted = semaphore.value + semaphore.granted + 1
  omega

omit [DecidableEq α] in
theorem slots_take {semaphore : Semaphore α} (free : semaphore.locked = false) :
    semaphore.take.slots + 1 = semaphore.slots := by
  rw [locked, Bool.or_eq_false_iff, beq_eq_false_iff_ne] at free
  have positive := Nat.pos_of_ne_zero free.1
  change semaphore.value - 1 + semaphore.granted + 1 = semaphore.value + semaphore.granted
  omega

omit [DecidableEq α] in
@[simp] theorem slots_park (semaphore : Semaphore α) (owner : α) :
    (semaphore.park owner).slots = semaphore.slots := by
  rw [slots, slots, granted, granted, park, List.countP_append]
  rfl

omit [DecidableEq α] in
@[simp] theorem owners_park (semaphore : Semaphore α) (owner : α) :
    (semaphore.park owner).owners = semaphore.owners ++ [owner] := by
  rw [owners, park, List.map_append]
  rfl

@[simp] theorem slots_cancel (semaphore : Semaphore α) (owner : α) :
    (semaphore.cancel owner).slots = semaphore.slots := by
  rw [slots, slots, granted, granted, cancel, List.countP_map]
  congr 2
  funext waiter
  rw [Function.comp_apply]
  split
  · rename_i both
    rw [both.2]
    rfl
  · rfl

@[simp] theorem owners_cancel (semaphore : Semaphore α) (owner : α) :
    (semaphore.cancel owner).owners = semaphore.owners := by
  rw [owners, owners, cancel, List.map_map]
  apply List.map_congr_left
  intro waiter _
  rw [Function.comp_apply]
  split
  · rfl
  · rfl

theorem owners_remove (semaphore : Semaphore α) (owner : α) :
    (semaphore.remove owner).owners = semaphore.owners.filter (· ≠ owner) := by
  rw [owners, owners, remove, List.filter_map]
  rfl

/-- A future that is gone takes its slot with it. -/
theorem slots_remove {semaphore : Semaphore α} {owner : α} {state : FutureState}
    (distinct : semaphore.owners.Nodup) (found : semaphore.futureOf owner = some state) :
    (semaphore.remove owner).slots + (if state = .granted then 1 else 0) = semaphore.slots := by
  rw [futureOf, Option.map_eq_some_iff] at found
  obtain ⟨waiter, first, rfl⟩ := found
  have matched := List.find?_some first
  have own : waiter.1 = owner := eq_of_beq matched
  have counted := @countP_drop _ _ _ Prod.fst _ distinct _ (List.mem_of_find?_eq_some first)
    fun waiter => waiter.2 == .granted
  rw [own] at counted
  rw [slots, slots, granted, granted, ← counted, remove, Nat.add_assoc]
  simp only [beq_iff_eq]

theorem slots_proceed {semaphore : Semaphore α} {owner : α} (distinct : semaphore.owners.Nodup)
    (found : semaphore.futureOf owner = some .granted) :
    (semaphore.proceed owner).slots + 1 = semaphore.slots := by
  rw [← slots_remove distinct found, if_pos rfl, proceed]
  split
  · rename_i free
    rw [slots_wakeUpNext free]
  · rfl

theorem owners_proceed (semaphore : Semaphore α) (owner : α) :
    (semaphore.proceed owner).owners = semaphore.owners.filter (· ≠ owner) := by
  rw [proceed, ← owners_remove]
  split
  · exact owners_wakeUpNext _
  · rfl

theorem slots_giveBack {semaphore : Semaphore α} {owner : α} (distinct : semaphore.owners.Nodup)
    (found : semaphore.futureOf owner = some .granted) :
    (semaphore.giveBack owner).slots = semaphore.slots := by
  rw [giveBack, slots_release, ← slots_remove distinct found, if_pos rfl]

theorem owners_giveBack (semaphore : Semaphore α) (owner : α) :
    (semaphore.giveBack owner).owners = semaphore.owners.filter (· ≠ owner) := by
  rw [giveBack, owners_release, owners_remove]

omit [DecidableEq α] in
/-- Where nobody waits, the slots are the counter. -/
theorem slots_of_no_owners {semaphore : Semaphore α} (nobody : semaphore.owners = []) :
    semaphore.slots = semaphore.value := by
  rw [owners, List.map_eq_nil_iff] at nobody
  rw [slots, granted, nobody]
  rfl

end Semaphore

end Foundation
