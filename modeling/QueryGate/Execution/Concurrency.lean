import Mathlib.Logic.Function.Basic
import QueryGate.Core.Exceptions
import QueryGate.Foundation.Semaphore

/-! # Concurrency slots

`InProcessConcurrencyLimiter` and `concurrency_slot` of `execution/concurrency.py` on the
event loop of `asyncio`, where a task runs alone until it suspends. A caller suspends while
its acquirer, the task that `asyncio.wait_for` makes of `sem.acquire()`, waits for a slot,
and inside the body. A run is any order of these steps, and the slots and the counts of
waiters balance in each of its states (`accountsBalance_of_run`).
-/

namespace QueryGate

open Foundation

/-! ## State -/

/-- One use of `concurrency_slot`. `waits` says that `wait_seconds` is positive. -/
structure SlotCaller where
  id : Nat
  connectionId : String
  principalSubject : Option String
  waits : Bool
  deriving DecidableEq, Repr

/-- The limits of a connection. -/
structure SlotLimits where
  maxConcurrency : Nat
  maxQueueDepth : Option Nat := none
  maxQueueDepthPerPrincipal : Option Nat := none

/-- The task of an acquisition: it has not run, waits for its future, holds a slot for its
caller, or ended as cancelled. -/
inductive Acquirer where
  | created | parked | acquired | cancelled
  deriving DecidableEq, Repr

/-- A caller between `enter_queue` and `leave_queue`. It is withdrawing once it has cancelled
its acquirer. -/
structure WaitingCall where
  caller : SlotCaller
  acquirer : Acquirer
  withdrawing : Bool

/-- The limiter, with the callers that are in `concurrency_slot`. A missing entry of a depth
counts as zero. -/
structure LimiterState where
  semaphores : String → Option (Semaphore SlotCaller) := fun _ => none
  queueDepth : String → Int := fun _ => 0
  queueDepthByPrincipal : String × String → Int := fun _ => 0
  waiting : List WaitingCall := []
  holding : List SlotCaller := []

/-- The callers in `concurrency_slot`. -/
def LimiterState.users (state : LimiterState) : List SlotCaller :=
  state.waiting.map WaitingCall.caller ++ state.holding

/-! ## Queue depth -/

/-- `(connection_id, principal_subject or "")`. -/
def SlotCaller.principalKey (caller : SlotCaller) : String × String :=
  (caller.connectionId, caller.principalSubject.getD "")

/-- The depths after a caller comes or goes. -/
def LimiterState.setDepths (state : LimiterState) (caller : SlotCaller)
    (depth principalDepth : Int) : LimiterState :=
  { state with
    queueDepth := Function.update state.queueDepth caller.connectionId depth
    queueDepthByPrincipal :=
      if caller.principalSubject.isSome then
        Function.update state.queueDepthByPrincipal caller.principalKey principalDepth
      else state.queueDepthByPrincipal }

/-- `enter_queue`, with the text of a `QueueDepthExceededError`. -/
def enterQueue (limits : SlotLimits) (state : LimiterState) (caller : SlotCaller) :
    Except String LimiterState :=
  let depth := state.queueDepth caller.connectionId
  let principalDepth := state.queueDepthByPrincipal caller.principalKey
  match limits.maxQueueDepth.filter fun cap : Nat => decide ((cap : Int) ≤ depth) with
  | some cap =>
      .error (s!"connection {quoted caller.connectionId} queue is already at its " ++
        s!"configured depth ({cap}), try again shortly")
  | none =>
      match caller.principalSubject,
          limits.maxQueueDepthPerPrincipal.filter fun cap : Nat =>
            decide ((cap : Int) ≤ principalDepth) with
      | some subject, some cap =>
          .error (s!"principal {quoted subject} already has {cap} " ++
            s!"queries queued on connection {quoted caller.connectionId}, try again shortly")
      | _, _ => .ok (state.setDepths caller (depth + 1) (principalDepth + 1))

/-- `leave_queue`. -/
def leaveQueue (state : LimiterState) (caller : SlotCaller) : LimiterState :=
  state.setDepths caller (max 0 (state.queueDepth caller.connectionId - 1))
    (max 0 (state.queueDepthByPrincipal caller.principalKey - 1))

/-! ## Steps -/

/-- The semaphore of a connection, made where it is missing. -/
def LimiterState.semaphore (state : LimiterState) (connectionId : String) (maxConcurrency : Nat) :
    Semaphore SlotCaller :=
  (state.semaphores connectionId).getD { value := maxConcurrency }

/-- The state with another semaphore of the connection. -/
def LimiterState.setSemaphore (state : LimiterState) (connectionId : String)
    (semaphore : Semaphore SlotCaller) : LimiterState :=
  { state with semaphores := Function.update state.semaphores connectionId (some semaphore) }

/-- The state with another record of a waiting caller. -/
def LimiterState.setCall (state : LimiterState) (call : WaitingCall) : LimiterState :=
  { state with
    waiting := state.waiting.map fun other => if other.caller = call.caller then call else other }

/-- The state without a waiting caller. -/
def LimiterState.dropCall (state : LimiterState) (caller : SlotCaller) : LimiterState :=
  { state with waiting := state.waiting.filter fun other => other.caller ≠ caller }

/-- The record of a waiting caller. -/
def LimiterState.callOf (state : LimiterState) (caller : SlotCaller) : Option WaitingCall :=
  state.waiting.find? fun call => call.caller == caller

/-- The steps of a run: a caller comes; its acquirer runs; the caller runs, because its
acquirer is done, its wait timed out or it was cancelled; the body ends in any way. -/
inductive SlotEvent where
  | enter (caller : SlotCaller)
  | acquirerRuns (caller : SlotCaller)
  | callerRuns (caller : SlotCaller)
  | exit (caller : SlotCaller)

section Steps

variable (limits : String → SlotLimits) (state : LimiterState)

/-- A caller comes. Without time to wait it cancels its acquirer at once. -/
def enterSlot (caller : SlotCaller) : Option LimiterState :=
  if caller ∈ state.users then none
  else
    match enterQueue (limits caller.connectionId) state caller with
    | .error _ => some state
    | .ok entered =>
        let semaphore := entered.semaphore caller.connectionId
          (limits caller.connectionId).maxConcurrency
        some { entered.setSemaphore caller.connectionId semaphore with
          waiting := entered.waiting ++ [⟨caller, .created, !caller.waits⟩] }

/-- `sem.acquire()` runs: at its start, or once its future is done. -/
def acquirerStep (call : WaitingCall) (semaphore : Semaphore SlotCaller) : Option LimiterState :=
  let next := fun (semaphore : Semaphore SlotCaller) acquirer =>
    some ((state.setSemaphore call.caller.connectionId semaphore).setCall
      { call with acquirer := acquirer })
  match call.acquirer with
  | .created =>
      if call.withdrawing then next semaphore .cancelled
      else if semaphore.locked then next (semaphore.park call.caller) .parked
      else next semaphore.take .acquired
  | .parked =>
      match semaphore.futureOf call.caller with
      | some .granted =>
          -- A cancelled acquirer whose slot was assigned gives it back.
          if call.withdrawing then next (semaphore.giveBack call.caller) .cancelled
          else next (semaphore.proceed call.caller) .acquired
      | some .cancelled => next (semaphore.remove call.caller) .cancelled
      | _ => none
  | .acquired => none
  | .cancelled => none

/-- The caller runs. Where its acquirer is not done it cancels it, and goes on once the
acquirer has ended: the loop runs steps in the order they were scheduled, so also a caller
that is cancelled again comes after its acquirer. -/
def callerStep (call : WaitingCall) (semaphore : Semaphore SlotCaller) : Option LimiterState :=
  match call.acquirer with
  | .acquired =>
      let left := (leaveQueue state call.caller).dropCall call.caller
      some { left with holding := left.holding ++ [call.caller] }
  | .cancelled => some ((leaveQueue state call.caller).dropCall call.caller)
  | _ =>
      if call.withdrawing then none
      else
        some ((state.setSemaphore call.caller.connectionId
          (semaphore.cancel call.caller)).setCall { call with withdrawing := true })

/-- The body ends and the slot is released. -/
def exitSlot (caller : SlotCaller) : Option LimiterState :=
  if caller ∈ state.holding then
    (state.semaphores caller.connectionId).map fun semaphore =>
      { state.setSemaphore caller.connectionId semaphore.release with
        holding := state.holding.filter (· ≠ caller) }
  else none

/-- One step; nothing where it cannot happen. -/
def slotStep (event : SlotEvent) : Option LimiterState :=
  match event with
  | .enter caller => enterSlot limits state caller
  | .acquirerRuns caller =>
      (state.callOf caller).bind fun call =>
        (state.semaphores caller.connectionId).bind (acquirerStep state call)
  | .callerRuns caller =>
      (state.callOf caller).bind fun call =>
        (state.semaphores caller.connectionId).bind (callerStep state call)
  | .exit caller => exitSlot state caller

end Steps

/-! ## Accounting -/

namespace LimiterState

/-- The callers that wait on a connection. -/
def waitingOn (state : LimiterState) (connectionId : String) : Nat :=
  state.waiting.countP fun call => call.caller.connectionId == connectionId

/-- The callers of a principal that wait on a connection. -/
def waitingFor (state : LimiterState) (connectionId subject : String) : Nat :=
  state.waiting.countP fun call =>
    call.caller.connectionId == connectionId && call.caller.principalSubject == some subject

/-- The callers in the body, on a connection. -/
def holders (state : LimiterState) (connectionId : String) : Nat :=
  state.holding.countP fun caller => caller.connectionId == connectionId

/-- The slots that acquirers hold for their callers. -/
def carried (state : LimiterState) (connectionId : String) : Nat :=
  state.waiting.countP fun call =>
    call.caller.connectionId == connectionId && call.acquirer == .acquired

end LimiterState

/-- What every state of a run satisfies. -/
structure Balanced (limits : String → SlotLimits) (state : LimiterState) : Prop where
  distinct : state.users.Nodup
  slots : ∀ connectionId semaphore, state.semaphores connectionId = some semaphore →
    semaphore.slots + state.carried connectionId + state.holders connectionId =
      (limits connectionId).maxConcurrency
  owners : ∀ connectionId semaphore, state.semaphores connectionId = some semaphore →
    semaphore.owners.Nodup ∧ ∀ owner ∈ semaphore.owners, ∃ call ∈ state.waiting,
      call.caller = owner ∧ call.acquirer = .parked ∧ owner.connectionId = connectionId
  used : ∀ caller ∈ state.users, (state.semaphores caller.connectionId).isSome
  depth : ∀ connectionId, state.queueDepth connectionId = state.waitingOn connectionId
  principalDepth : ∀ connectionId subject, state.queueDepthByPrincipal (connectionId, subject) =
    state.waitingFor connectionId subject
  capped : ∀ connectionId cap, (limits connectionId).maxQueueDepth = some cap →
    state.waitingOn connectionId ≤ cap
  principalCapped : ∀ connectionId subject cap,
    (limits connectionId).maxQueueDepthPerPrincipal = some cap →
    state.waitingFor connectionId subject ≤ cap

section Preserved

variable {limits : String → SlotLimits} {state : LimiterState}

theorem Balanced.callers (balanced : Balanced limits state) :
    (state.waiting.map WaitingCall.caller).Nodup :=
  (List.nodup_append.mp balanced.distinct).1

theorem callOf_eq_some {caller : SlotCaller} {call : WaitingCall}
    (found : state.callOf caller = some call) : call ∈ state.waiting ∧ call.caller = caller := by
  have matched := List.find?_some found
  exact ⟨List.mem_of_find?_eq_some found, eq_of_beq matched⟩

/-- Exchanging a caller's record keeps every count that does not look at the acquirer. -/
theorem countP_setCall (balanced : Balanced limits state) {call new : WaitingCall}
    (member : call ∈ state.waiting) (same : new.caller = call.caller)
    (counted : WaitingCall → Bool) :
    (state.setCall new).waiting.countP counted + (if counted call then 1 else 0) =
      state.waiting.countP counted + (if counted new then 1 else 0) := by
  have replaced := countP_replace balanced.callers member new counted
  rw [LimiterState.setCall, same]
  exact replaced

theorem users_setCall (new : WaitingCall) : (state.setCall new).users = state.users := by
  have callers : (state.setCall new).waiting.map WaitingCall.caller =
      state.waiting.map WaitingCall.caller := by
    rw [LimiterState.setCall, List.map_map]
    apply List.map_congr_left
    intro other _
    rw [Function.comp_apply]
    split
    · rename_i same
      exact same.symm
    · rfl
  rw [LimiterState.users, LimiterState.users, callers]
  rfl

/-- A step of a caller's acquirer: the slots it takes or gives back are accounted for, and it
stays in the queue of its semaphore exactly while it is parked. -/
theorem balanced_setCall (balanced : Balanced limits state) {call : WaitingCall}
    (member : call ∈ state.waiting) (new : WaitingCall) (same : new.caller = call.caller)
    {semaphore next : Semaphore SlotCaller}
    (current : state.semaphores call.caller.connectionId = some semaphore)
    (slots : next.slots + (if new.acquirer = .acquired then 1 else 0) =
      semaphore.slots + (if call.acquirer = .acquired then 1 else 0))
    (distinct : next.owners.Nodup)
    (queued : ∀ owner ∈ next.owners, (owner = call.caller → new.acquirer = .parked) ∧
      (owner ≠ call.caller → owner ∈ semaphore.owners)) :
    Balanced limits ((state.setSemaphore call.caller.connectionId next).setCall new) := by
  have users : ((state.setSemaphore call.caller.connectionId next).setCall new).users =
      state.users := @users_setCall (state.setSemaphore call.caller.connectionId next) new
  have counts : ∀ counted : WaitingCall → Bool, counted new = counted call →
      ((state.setSemaphore call.caller.connectionId next).setCall new).waiting.countP counted =
        state.waiting.countP counted := by
    intro counted equal
    have replaced := countP_setCall balanced member same counted
    rw [equal] at replaced
    exact Nat.add_right_cancel replaced
  have waitingOn : ∀ connectionId,
      ((state.setSemaphore call.caller.connectionId next).setCall new).waitingOn connectionId =
        state.waitingOn connectionId :=
    fun connectionId => counts _ (by rw [same])
  have waitingFor : ∀ connectionId subject,
      ((state.setSemaphore call.caller.connectionId next).setCall new).waitingFor connectionId
        subject = state.waitingFor connectionId subject :=
    fun connectionId subject => counts _ (by rw [same])
  refine ⟨users ▸ balanced.distinct, fun connectionId found held => ?_,
    fun connectionId found held => ?_, fun caller inside => ?_, fun connectionId => ?_,
    fun connectionId subject => ?_, fun connectionId cap capped => ?_,
    fun connectionId subject cap capped => ?_⟩
  · change Function.update state.semaphores call.caller.connectionId (some next) connectionId =
      some found at held
    have replaced := countP_setCall balanced member same fun other =>
      other.caller.connectionId == connectionId && other.acquirer == .acquired
    change _ + _ + state.holders connectionId = _
    by_cases here : connectionId = call.caller.connectionId
    · subst here
      rw [Function.update_self] at held
      cases held
      have before := balanced.slots _ _ current
      simp only [same, beq_self_eq_true, Bool.true_and, beq_iff_eq] at replaced
      change next.slots + (state.setCall new).waiting.countP _ + _ = _
      change semaphore.slots + state.waiting.countP _ + _ = _ at before
      omega
    · rw [Function.update_of_ne here] at held
      have before := balanced.slots _ _ held
      have elsewhere : (call.caller.connectionId == connectionId) = false :=
        beq_eq_false_iff_ne.mpr (Ne.symm here)
      simp only [same, elsewhere, Bool.false_and, Bool.false_eq_true, ↓reduceIte,
        Nat.add_zero] at replaced
      change found.slots + (state.setCall new).waiting.countP _ + _ = _
      rw [replaced]
      exact before
  · change Function.update state.semaphores call.caller.connectionId (some next) connectionId =
      some found at held
    have kept : ∀ other ∈ state.waiting, other.caller ≠ call.caller →
        other ∈ ((state.setSemaphore call.caller.connectionId next).setCall new).waiting :=
      fun other inside apart => List.mem_map.mpr ⟨other, inside, if_neg (same ▸ apart)⟩
    have placed : new ∈ ((state.setSemaphore call.caller.connectionId next).setCall new).waiting :=
      List.mem_map.mpr ⟨call, member, if_pos same.symm⟩
    by_cases here : connectionId = call.caller.connectionId
    · subst here
      rw [Function.update_self] at held
      cases held
      refine ⟨distinct, fun owner inside => ?_⟩
      by_cases own : owner = call.caller
      · exact ⟨new, placed, same.trans own.symm, (queued owner inside).1 own, own ▸ rfl⟩
      · obtain ⟨other, listed, rfl, parked, there⟩ :=
          (balanced.owners _ _ current).2 owner ((queued owner inside).2 own)
        exact ⟨other, kept other listed own, rfl, parked, there⟩
    · rw [Function.update_of_ne here] at held
      refine ⟨(balanced.owners _ _ held).1, fun owner inside => ?_⟩
      obtain ⟨other, listed, rfl, parked, there⟩ := (balanced.owners _ _ held).2 owner inside
      have apart : other.caller ≠ call.caller := by
        intro equal
        rw [equal] at there
        exact here there.symm
      exact ⟨other, kept other listed apart, rfl, parked, there⟩
  · change (Function.update state.semaphores call.caller.connectionId (some next)
      caller.connectionId).isSome = true
    by_cases here : caller.connectionId = call.caller.connectionId
    · rw [here, Function.update_self]
      rfl
    · rw [Function.update_of_ne here]
      exact balanced.used caller (users ▸ inside)
  · rw [waitingOn]
    exact balanced.depth connectionId
  · rw [waitingFor]
    exact balanced.principalDepth connectionId subject
  · rw [waitingOn]
    exact balanced.capped connectionId cap capped
  · rw [waitingFor]
    exact balanced.principalCapped connectionId subject cap capped

theorem queueDepth_setDepths (caller : SlotCaller) (depth principalDepth : Int)
    (connectionId : String) :
    (state.setDepths caller depth principalDepth).queueDepth connectionId =
      if caller.connectionId = connectionId then depth else state.queueDepth connectionId := by
  change Function.update state.queueDepth caller.connectionId depth connectionId = _
  by_cases here : caller.connectionId = connectionId
  · subst here
    rw [if_pos rfl, Function.update_self]
  · rw [if_neg here, Function.update_of_ne (Ne.symm here)]

theorem queueDepthByPrincipal_setDepths (caller : SlotCaller) (depth principalDepth : Int)
    (connectionId subject : String) :
    (state.setDepths caller depth principalDepth).queueDepthByPrincipal (connectionId, subject) =
      if caller.connectionId = connectionId ∧ caller.principalSubject = some subject then
        principalDepth
      else state.queueDepthByPrincipal (connectionId, subject) := by
  cases named : caller.principalSubject with
  | none => simp [LimiterState.setDepths, named]
  | some own =>
      have key : caller.principalKey = (caller.connectionId, own) := by
        rw [SlotCaller.principalKey, named, Option.getD_some]
      simp only [LimiterState.setDepths, named, Option.isSome_some, ↓reduceIte, key,
        Option.some.injEq]
      by_cases here : caller.connectionId = connectionId ∧ own = subject
      · rw [if_pos here, ← here.1, ← here.2, Function.update_self]
      · rw [if_neg here, Function.update_of_ne]
        intro same
        cases same
        exact here ⟨rfl, rfl⟩

/-- A caller leaves the queue: with a slot into the body, or for good without one. -/
theorem balanced_leave (balanced : Balanced limits state) {call : WaitingCall}
    (member : call ∈ state.waiting) (done : call.acquirer ≠ .parked) :
    Balanced limits
      { (leaveQueue state call.caller).dropCall call.caller with
        holding := state.holding ++ if call.acquirer = .acquired then [call.caller] else [] } := by
  generalize admitted : (if call.acquirer = .acquired then [call.caller] else []) = extra
  have counts : ∀ counted : WaitingCall → Bool,
      (state.waiting.filter fun other => decide (other.caller ≠ call.caller)).countP counted +
        (if counted call then 1 else 0) = state.waiting.countP counted :=
    countP_drop balanced.callers member
  have kept : ∀ other ∈ state.waiting, other.caller ≠ call.caller →
      other ∈ state.waiting.filter fun other => decide (other.caller ≠ call.caller) :=
    fun other inside apart => List.mem_filter.mpr ⟨inside, decide_eq_true apart⟩
  have depths : ∀ connectionId, (leaveQueue state call.caller).queueDepth connectionId =
      ((state.waiting.filter fun other => decide (other.caller ≠ call.caller)).countP
        fun other => other.caller.connectionId == connectionId : Nat) := by
    intro connectionId
    have dropped := counts fun other => other.caller.connectionId == connectionId
    have before : state.queueDepth connectionId = ((state.waiting.countP
      fun other => other.caller.connectionId == connectionId : Nat) : Int) :=
        balanced.depth connectionId
    rw [leaveQueue, queueDepth_setDepths]
    by_cases here : call.caller.connectionId = connectionId
    · rw [if_pos here, here, before]
      rw [if_pos (beq_iff_eq.mpr here)] at dropped
      omega
    · rw [if_neg here, before]
      rw [if_neg (mt beq_iff_eq.mp here)] at dropped
      omega
  have principalDepths : ∀ connectionId subject,
      (leaveQueue state call.caller).queueDepthByPrincipal (connectionId, subject) =
      ((state.waiting.filter fun other => decide (other.caller ≠ call.caller)).countP
        fun other => other.caller.connectionId == connectionId &&
          other.caller.principalSubject == some subject : Nat) := by
    intro connectionId subject
    have dropped := counts fun other => other.caller.connectionId == connectionId &&
      other.caller.principalSubject == some subject
    have before : state.queueDepthByPrincipal (connectionId, subject) = ((state.waiting.countP
      fun other => other.caller.connectionId == connectionId &&
        other.caller.principalSubject == some subject : Nat) : Int) :=
          balanced.principalDepth connectionId subject
    simp only [Bool.and_eq_true, beq_iff_eq] at dropped
    rw [leaveQueue, queueDepthByPrincipal_setDepths]
    by_cases own : call.caller.connectionId = connectionId ∧
        call.caller.principalSubject = some subject
    · have key : call.caller.principalKey = (connectionId, subject) := by
        rw [SlotCaller.principalKey, own.1, own.2, Option.getD_some]
      rw [if_pos own, key, before]
      rw [if_pos own] at dropped
      omega
    · rw [if_neg own, before]
      rw [if_neg own] at dropped
      omega
  have callers : call.caller ∉ state.holding := fun inside =>
    (List.nodup_append.mp balanced.distinct).2.2 _ (List.mem_map_of_mem member) _ inside rfl
  refine ⟨?_, fun connectionId semaphore held => ?_, fun connectionId semaphore held => ?_,
    fun caller inside => ?_, depths, principalDepths, fun connectionId cap capped => ?_,
    fun connectionId subject cap capped => ?_⟩
  · change ((state.waiting.filter _).map WaitingCall.caller ++ (state.holding ++ extra)).Nodup
    obtain ⟨waiting, holding, apart⟩ := List.nodup_append.mp balanced.distinct
    have extraNodup : extra.Nodup ∧ ∀ caller ∈ extra, caller = call.caller := by
      rw [← admitted]
      split
      · exact ⟨List.nodup_singleton _, fun caller inside => List.mem_singleton.mp inside⟩
      · exact ⟨List.nodup_nil, fun caller absurd => by cases absurd⟩
    rw [List.nodup_append, List.nodup_append]
    refine ⟨?_, ⟨holding, extraNodup.1, fun caller held other inside same => ?_⟩,
      fun caller listed other inside same => ?_⟩
    · exact waiting.sublist (List.filter_sublist.map _)
    · rw [extraNodup.2 other inside] at same
      exact callers (same ▸ held)
    · obtain ⟨record, stays, rfl⟩ := List.mem_map.mp listed
      obtain ⟨old, different⟩ := List.mem_filter.mp stays
      rcases List.mem_append.mp inside with held | entered
      · exact apart _ (List.mem_map_of_mem old) _ held same
      · exact of_decide_eq_true different (same.trans (extraNodup.2 other entered))
  · have before := balanced.slots connectionId semaphore held
    have dropped := counts fun other =>
      other.caller.connectionId == connectionId && other.acquirer == .acquired
    simp only [Bool.and_eq_true, beq_iff_eq] at dropped
    have holders : (state.holding ++ extra).countP
        (fun caller => caller.connectionId == connectionId) = state.holders connectionId +
          if call.caller.connectionId = connectionId ∧
          call.acquirer = .acquired then 1 else 0 := by
      rw [List.countP_append, ← admitted]
      congr 1
      by_cases slot : call.acquirer = .acquired
      · simp [slot, List.countP_cons]
      · simp [slot]
    change semaphore.slots + (state.waiting.filter _).countP _ +
      (state.holding ++ extra).countP _ = _
    change semaphore.slots + state.waiting.countP _ + _ = _ at before
    rw [holders]
    omega
  · obtain ⟨distinct, queued⟩ := balanced.owners connectionId semaphore held
    refine ⟨distinct, fun owner inside => ?_⟩
    obtain ⟨other, listed, rfl, parked, there⟩ := queued owner inside
    refine ⟨other, kept other listed fun same => done ?_, rfl, parked, there⟩
    rw [← List.inj_on_of_nodup_map balanced.callers listed member same]
    exact parked
  · refine balanced.used caller ?_
    rcases List.mem_append.mp inside with waits | holds
    · obtain ⟨record, stays, rfl⟩ := List.mem_map.mp waits
      exact List.mem_append_left _ (List.mem_map_of_mem (List.mem_filter.mp stays).1)
    · rcases List.mem_append.mp holds with held | entered
      · exact List.mem_append_right _ held
      · rw [← admitted] at entered
        split at entered
        · rw [List.mem_singleton.mp entered]
          exact List.mem_append_left _ (List.mem_map_of_mem member)
        · cases entered
  · have dropped := counts fun other => other.caller.connectionId == connectionId
    have fewer : _ ≤ state.waitingOn connectionId := Nat.le.intro dropped
    exact le_trans fewer (balanced.capped connectionId cap capped)
  · have dropped := counts fun other => other.caller.connectionId == connectionId &&
      other.caller.principalSubject == some subject
    have fewer : _ ≤ state.waitingFor connectionId subject := Nat.le.intro dropped
    exact le_trans fewer (balanced.principalCapped connectionId subject cap capped)

/-- A caller that is let into the queue finds it below its caps. -/
theorem enterQueue_eq_ok {slotLimits : SlotLimits} {caller : SlotCaller} {entered : LimiterState}
    (admitted : enterQueue slotLimits state caller = .ok entered) :
    entered = state.setDepths caller (state.queueDepth caller.connectionId + 1)
        (state.queueDepthByPrincipal caller.principalKey + 1) ∧
      (∀ cap, slotLimits.maxQueueDepth = some cap → state.queueDepth caller.connectionId < cap) ∧
      ∀ subject cap, caller.principalSubject = some subject →
        slotLimits.maxQueueDepthPerPrincipal = some cap →
        state.queueDepthByPrincipal caller.principalKey < cap := by
  unfold enterQueue at admitted
  simp only at admitted
  split at admitted
  · cases admitted
  · rename_i below
    have room : ∀ cap, slotLimits.maxQueueDepth = some cap →
        state.queueDepth caller.connectionId < cap := by
      intro cap capped
      rw [capped, Option.filter_eq_none_iff] at below
      exact not_le.mp fun full => below cap rfl (decide_eq_true full)
    split at admitted
    · cases admitted
    · rename_i different
      refine ⟨(Except.ok.inj admitted).symm, room, fun subject cap named capped => ?_⟩
      by_contra full
      refine different subject cap named ?_
      rw [capped, Option.filter_some, if_pos (decide_eq_true (not_lt.mp full))]

theorem balanced_enter (balanced : Balanced limits state) {caller : SlotCaller}
    {next : LimiterState}
    (stepped : enterSlot limits state caller = some next) : Balanced limits next := by
  unfold enterSlot at stepped
  split at stepped
  · cases stepped
  rename_i new
  split at stepped
  · cases stepped
    exact balanced
  rename_i entered admitted
  obtain ⟨rfl, room, principalRoom⟩ := enterQueue_eq_ok admitted
  cases stepped
  generalize arrival : (⟨caller, .created, !caller.waits⟩ : WaitingCall) = call
  have own : call.caller = caller := by
    rw [← arrival]
  have fresh : call.acquirer = .created := by
    rw [← arrival]
  have known : state.semaphores caller.connectionId = none → ∀ other ∈ state.users,
      other.connectionId ≠ caller.connectionId := by
    intro missing other inside same
    have used := balanced.used other inside
    rw [same, missing] at used
    cases used
  have counts : ∀ counted : WaitingCall → Bool, (state.waiting ++ [call]).countP counted =
      state.waiting.countP counted + if counted call then 1 else 0 := by
    intro counted
    rw [List.countP_append, List.countP_singleton]
  have carried : ∀ connectionId, (state.waiting ++ [call]).countP (fun other =>
      other.caller.connectionId == connectionId && other.acquirer == .acquired) =
        state.carried connectionId := by
    intro connectionId
    rw [counts, fresh]
    simp [LimiterState.carried]
  refine ⟨?_, fun connectionId semaphore held => ?_, fun connectionId semaphore held => ?_,
    fun other inside => ?_, fun connectionId => ?_, fun connectionId subject => ?_,
    fun connectionId cap capped => ?_, fun connectionId subject cap capped => ?_⟩
  · change ((state.waiting ++ [call]).map WaitingCall.caller ++ state.holding).Nodup
    rw [List.map_append, List.append_assoc]
    have moved : (state.waiting.map WaitingCall.caller ++ ([call.caller] ++ state.holding)).Perm
        (call.caller :: state.users) := List.perm_middle
    rw [List.map_singleton, moved.nodup_iff, List.nodup_cons, own]
    exact ⟨new, balanced.distinct⟩
  · change Function.update state.semaphores caller.connectionId
      (some (state.semaphore caller.connectionId _)) connectionId = some semaphore at held
    change semaphore.slots + (state.waiting ++ [call]).countP _ + state.holders connectionId = _
    rw [carried]
    by_cases here : connectionId = caller.connectionId
    · subst here
      rw [Function.update_self] at held
      cases held
      unfold LimiterState.semaphore
      cases current : state.semaphores caller.connectionId with
      | some semaphore => exact balanced.slots _ _ current
      | none =>
          have nobody : state.carried caller.connectionId = 0 ∧
              state.holders caller.connectionId = 0 := by
            rw [LimiterState.carried, LimiterState.holders, List.countP_eq_zero,
              List.countP_eq_zero]
            refine ⟨fun other inside both => ?_, fun other inside same => ?_⟩
            · rw [Bool.and_eq_true, beq_iff_eq] at both
              exact known current _ (List.mem_append_left _ (List.mem_map_of_mem inside)) both.1
            · exact known current _ (List.mem_append_right _ inside) (beq_iff_eq.mp same)
          rw [nobody.1, nobody.2, Option.getD_none]
          rfl
    · rw [Function.update_of_ne here] at held
      exact balanced.slots _ _ held
  · change Function.update state.semaphores caller.connectionId
      (some (state.semaphore caller.connectionId _)) connectionId = some semaphore at held
    have listed : ∀ owner, (∃ other ∈ state.waiting, other.caller = owner ∧
        other.acquirer = .parked ∧ owner.connectionId = connectionId) →
        ∃ other ∈ state.waiting ++ [call], other.caller = owner ∧ other.acquirer = .parked ∧
          owner.connectionId = connectionId := by
      rintro owner ⟨other, inside, facts⟩
      exact ⟨other, List.mem_append_left _ inside, facts⟩
    by_cases here : connectionId = caller.connectionId
    · subst here
      rw [Function.update_self] at held
      cases held
      unfold LimiterState.semaphore
      cases current : state.semaphores caller.connectionId with
      | some semaphore =>
          obtain ⟨distinct, queued⟩ := balanced.owners _ _ current
          exact ⟨distinct, fun owner inside => listed owner (queued owner inside)⟩
      | none => exact ⟨List.nodup_nil, fun owner absurd => by cases absurd⟩
    · rw [Function.update_of_ne here] at held
      obtain ⟨distinct, queued⟩ := balanced.owners _ _ held
      exact ⟨distinct, fun owner inside => listed owner (queued owner inside)⟩
  · change (Function.update state.semaphores caller.connectionId
      (some (state.semaphore caller.connectionId _)) other.connectionId).isSome = true
    by_cases here : other.connectionId = caller.connectionId
    · rw [here, Function.update_self]
      rfl
    · rw [Function.update_of_ne here]
      refine balanced.used other ?_
      change other ∈ (state.waiting ++ [call]).map WaitingCall.caller ++ state.holding at inside
      rw [List.map_append, List.append_assoc, List.mem_append, List.mem_append,
        List.map_singleton, List.mem_singleton] at inside
      rcases inside with waits | rfl | holds
      · exact List.mem_append_left _ waits
      · exact absurd (congrArg SlotCaller.connectionId own) here
      · exact List.mem_append_right _ holds
  · change (state.setDepths caller _
      (state.queueDepthByPrincipal caller.principalKey + 1)).queueDepth connectionId =
      ((state.waiting ++ [call]).countP _ : Nat)
    rw [queueDepth_setDepths, counts, own]
    have before := balanced.depth
    by_cases here : caller.connectionId = connectionId
    · rw [if_pos here, if_pos (beq_iff_eq.mpr here), here, before]
      rfl
    · rw [if_neg here, if_neg (mt beq_iff_eq.mp here), before]
      rfl
  · change (state.setDepths caller (state.queueDepth caller.connectionId + 1)
      _).queueDepthByPrincipal (connectionId, subject) =
      ((state.waiting ++ [call]).countP _ : Nat)
    rw [queueDepthByPrincipal_setDepths, counts, own]
    have before := balanced.principalDepth
    simp only [Bool.and_eq_true, beq_iff_eq]
    by_cases here : caller.connectionId = connectionId ∧ caller.principalSubject = some subject
    · have key : caller.principalKey = (connectionId, subject) := by
        rw [SlotCaller.principalKey, here.1, here.2, Option.getD_some]
      rw [if_pos here, if_pos here, key, before]
      rfl
    · rw [if_neg here, if_neg here, before]
      rfl
  · change (state.waiting ++ [call]).countP _ ≤ cap
    rw [counts, own]
    by_cases here : caller.connectionId = connectionId
    · subst here
      have below := room cap capped
      rw [balanced.depth] at below
      rw [if_pos (beq_self_eq_true _)]
      exact Int.ofNat_lt.mp below
    · rw [if_neg (mt beq_iff_eq.mp here)]
      exact balanced.capped connectionId cap capped
  · change (state.waiting ++ [call]).countP _ ≤ cap
    rw [counts, own]
    simp only [Bool.and_eq_true, beq_iff_eq]
    by_cases here : caller.connectionId = connectionId ∧ caller.principalSubject = some subject
    · have key : caller.principalKey = (connectionId, subject) := by
        rw [SlotCaller.principalKey, here.1, here.2, Option.getD_some]
      have below := principalRoom subject cap here.2 (here.1 ▸ capped)
      rw [key, balanced.principalDepth] at below
      rw [if_pos here]
      exact Int.ofNat_lt.mp below
    · rw [if_neg here]
      exact balanced.principalCapped connectionId subject cap capped

theorem balanced_exit (balanced : Balanced limits state) {caller : SlotCaller} {next : LimiterState}
    (stepped : exitSlot state caller = some next) : Balanced limits next := by
  unfold exitSlot at stepped
  split at stepped
  swap
  · cases stepped
  rename_i inside
  obtain ⟨semaphore, current, rfl⟩ := Option.map_eq_some_iff.mp stepped
  have holdingNodup : (state.holding.map id).Nodup := by
    rw [List.map_id]
    exact (List.nodup_append.mp balanced.distinct).2.1
  have counts : ∀ counted : SlotCaller → Bool,
      (state.holding.filter fun other => decide (other ≠ caller)).countP counted +
        (if counted caller then 1 else 0) = state.holding.countP counted :=
    countP_drop holdingNodup inside
  have fewer : ∀ other ∈ state.waiting.map WaitingCall.caller ++
      state.holding.filter (fun other => decide (other ≠ caller)), other ∈ state.users := by
    intro other listed
    rcases List.mem_append.mp listed with waits | holds
    · exact List.mem_append_left _ waits
    · exact List.mem_append_right _ (List.mem_filter.mp holds).1
  refine ⟨?_, fun connectionId found held => ?_, fun connectionId found held => ?_,
    fun other listed => ?_, balanced.depth, balanced.principalDepth, balanced.capped,
    balanced.principalCapped⟩
  · exact balanced.distinct.sublist ((List.Sublist.refl _).append List.filter_sublist)
  · change Function.update state.semaphores caller.connectionId (some semaphore.release)
      connectionId = some found at held
    change found.slots + state.carried connectionId +
      (state.holding.filter fun other => decide (other ≠ caller)).countP _ = _
    have dropped := counts fun other => other.connectionId == connectionId
    by_cases here : connectionId = caller.connectionId
    · subst here
      rw [Function.update_self] at held
      cases held
      have before := balanced.slots _ _ current
      change semaphore.slots + _ + state.holding.countP _ = _ at before
      rw [if_pos (beq_self_eq_true _)] at dropped
      rw [Semaphore.slots_release]
      omega
    · rw [Function.update_of_ne here] at held
      have before := balanced.slots _ _ held
      change found.slots + _ + state.holding.countP _ = _ at before
      rw [if_neg (mt beq_iff_eq.mp (Ne.symm here))] at dropped
      omega
  · change Function.update state.semaphores caller.connectionId (some semaphore.release)
      connectionId = some found at held
    by_cases here : connectionId = caller.connectionId
    · subst here
      rw [Function.update_self] at held
      cases held
      rw [Semaphore.owners_release]
      exact balanced.owners _ _ current
    · rw [Function.update_of_ne here] at held
      exact balanced.owners _ _ held
  · change (Function.update state.semaphores caller.connectionId (some semaphore.release)
      other.connectionId).isSome = true
    by_cases here : other.connectionId = caller.connectionId
    · rw [here, Function.update_self]
      rfl
    · rw [Function.update_of_ne here]
      exact balanced.used other (fewer other listed)

/-- Only parked acquirers have a future in the queue. -/
theorem not_mem_owners (balanced : Balanced limits state) {call : WaitingCall}
    (member : call ∈ state.waiting) (running : call.acquirer ≠ .parked)
    {semaphore : Semaphore SlotCaller}
    (current : state.semaphores call.caller.connectionId = some semaphore) :
    call.caller ∉ semaphore.owners := by
  intro inside
  obtain ⟨other, listed, same, parked, _⟩ := (balanced.owners _ _ current).2 _ inside
  rw [List.inj_on_of_nodup_map balanced.callers listed member same] at parked
  exact running parked

theorem balanced_acquirerStep (balanced : Balanced limits state) {call : WaitingCall}
    (member : call ∈ state.waiting) {semaphore : Semaphore SlotCaller}
    (current : state.semaphores call.caller.connectionId = some semaphore) {next : LimiterState}
    (stepped : acquirerStep state call semaphore = some next) : Balanced limits next := by
  have distinct := (balanced.owners _ _ current).1
  have gone : ∀ owner ∈ semaphore.owners.filter (· ≠ call.caller),
      owner ≠ call.caller ∧ owner ∈ semaphore.owners := by
    intro owner inside
    obtain ⟨old, apart⟩ := List.mem_filter.mp inside
    exact ⟨of_decide_eq_true apart, old⟩
  unfold acquirerStep at stepped
  cases acquirer : call.acquirer with
  | created =>
      have outside := not_mem_owners balanced member (by rw [acquirer]; decide) current
      simp only [acquirer] at stepped
      split at stepped
      · cases stepped
        refine balanced_setCall balanced member { call with acquirer := .cancelled } rfl current
          ?_ distinct fun owner inside =>
          ⟨fun same => absurd (same ▸ inside) outside, fun _ => inside⟩
        simp only [acquirer, reduceCtorEq, ↓reduceIte]
      split at stepped
      · cases stepped
        refine balanced_setCall balanced member { call with acquirer := .parked } rfl current
          ?_ ?_ fun owner inside =>
          ⟨fun _ => rfl, fun apart => ?_⟩
        · simp only [acquirer, Semaphore.slots_park, reduceCtorEq, ↓reduceIte]
        · rw [Semaphore.owners_park, List.nodup_append]
          refine ⟨distinct, List.nodup_singleton _, fun owner inside other last same => ?_⟩
          rw [List.mem_singleton.mp last] at same
          exact outside (same ▸ inside)
        · rw [Semaphore.owners_park, List.mem_append, List.mem_singleton] at inside
          exact inside.resolve_right apart
      · rename_i free
        cases stepped
        refine balanced_setCall balanced member { call with acquirer := .acquired } rfl current
          ?_ distinct fun owner inside =>
          ⟨fun same => absurd (same ▸ inside) outside, fun _ => inside⟩
        have taken := Semaphore.slots_take (Bool.eq_false_iff.mpr free)
        simp only [acquirer, reduceCtorEq, ↓reduceIte]
        omega
  | parked =>
      simp only [acquirer] at stepped
      split at stepped
      · rename_i granted
        split at stepped
        · cases stepped
          refine balanced_setCall balanced member { call with acquirer := .cancelled } rfl current
            ?_ ?_ fun owner inside => ?_
          · simp only [acquirer, Semaphore.slots_giveBack distinct granted, reduceCtorEq,
              ↓reduceIte]
          · rw [Semaphore.owners_giveBack]
            exact distinct.filter _
          · rw [Semaphore.owners_giveBack] at inside
            exact ⟨fun same => absurd same (gone owner inside).1, fun _ => (gone owner inside).2⟩
        · cases stepped
          refine balanced_setCall balanced member { call with acquirer := .acquired } rfl current
            ?_ ?_ fun owner inside => ?_
          · simp only [acquirer, Semaphore.slots_proceed distinct granted, reduceCtorEq,
              ↓reduceIte, Nat.add_zero]
          · rw [Semaphore.owners_proceed]
            exact distinct.filter _
          · rw [Semaphore.owners_proceed] at inside
            exact ⟨fun same => absurd same (gone owner inside).1, fun _ => (gone owner inside).2⟩
      · rename_i cancelled
        cases stepped
        refine balanced_setCall balanced member { call with acquirer := .cancelled } rfl current
          ?_ ?_ fun owner inside => ?_
        · have removed := Semaphore.slots_remove distinct cancelled
          simp only [acquirer, reduceCtorEq, ↓reduceIte, Nat.add_zero] at removed ⊢
          exact removed
        · rw [Semaphore.owners_remove]
          exact distinct.filter _
        · rw [Semaphore.owners_remove] at inside
          exact ⟨fun same => absurd same (gone owner inside).1, fun _ => (gone owner inside).2⟩
      · cases stepped
  | acquired =>
      simp only [acquirer] at stepped
      cases stepped
  | cancelled =>
      simp only [acquirer] at stepped
      cases stepped

theorem balanced_callerStep (balanced : Balanced limits state) {call : WaitingCall}
    (member : call ∈ state.waiting) {semaphore : Semaphore SlotCaller}
    (current : state.semaphores call.caller.connectionId = some semaphore) {next : LimiterState}
    (stepped : callerStep state call semaphore = some next) : Balanced limits next := by
  have withdraws : ∀ {withdrawn : LimiterState}, (if call.withdrawing then none
      else
        some ((state.setSemaphore call.caller.connectionId
          (semaphore.cancel call.caller)).setCall { call with withdrawing := true })) =
        some withdrawn → Balanced limits withdrawn := by
    intro withdrawn chosen
    split at chosen
    · cases chosen
    · cases chosen
      refine balanced_setCall balanced member { call with withdrawing := true } rfl current ?_ ?_
        fun owner inside => ?_
      · rw [Semaphore.slots_cancel]
      · rw [Semaphore.owners_cancel]
        exact (balanced.owners _ _ current).1
      · rw [Semaphore.owners_cancel] at inside
        refine ⟨fun same => ?_, fun _ => inside⟩
        by_contra running
        exact not_mem_owners balanced member running current (same ▸ inside)
  unfold callerStep at stepped
  split at stepped
  · rename_i acquirer
    cases stepped
    have left := balanced_leave balanced member (by rw [acquirer]; decide)
    rw [acquirer, if_pos rfl] at left
    exact left
  · rename_i acquirer
    cases stepped
    have left := balanced_leave balanced member (by rw [acquirer]; decide)
    rw [acquirer, if_neg (by decide), List.append_nil] at left
    exact left
  · exact withdraws stepped

/-- Every step keeps the balance. -/
theorem balanced_step (balanced : Balanced limits state) {event : SlotEvent} {next : LimiterState}
    (stepped : slotStep limits state event = some next) : Balanced limits next := by
  cases event with
  | enter caller => exact balanced_enter balanced stepped
  | acquirerRuns caller =>
      obtain ⟨call, found, stepped⟩ := Option.bind_eq_some_iff.mp stepped
      obtain ⟨member, rfl⟩ := callOf_eq_some found
      obtain ⟨semaphore, current, ran⟩ := Option.bind_eq_some_iff.mp stepped
      exact balanced_acquirerStep balanced member current ran
  | callerRuns caller =>
      obtain ⟨call, found, stepped⟩ := Option.bind_eq_some_iff.mp stepped
      obtain ⟨member, rfl⟩ := callOf_eq_some found
      obtain ⟨semaphore, current, ran⟩ := Option.bind_eq_some_iff.mp stepped
      exact balanced_callerStep balanced member current ran
  | exit caller => exact balanced_exit balanced stepped

end Preserved

theorem balanced_empty (limits : String → SlotLimits) : Balanced limits {} where
  distinct := List.nodup_nil
  slots := fun _ _ absurd => by cases absurd
  owners := fun _ _ absurd => by cases absurd
  used := fun _ absurd => by cases absurd
  depth := fun _ => rfl
  principalDepth := fun _ _ => rfl
  capped := fun _ _ _ => Nat.zero_le _
  principalCapped := fun _ _ _ _ => Nat.zero_le _

/-- Every run keeps the balance. -/
theorem balanced_run {limits : String → SlotLimits} {events : List SlotEvent} :
    ∀ {state final : LimiterState}, Balanced limits state →
      events.foldlM (slotStep limits) state = some final → Balanced limits final := by
  induction events with
  | nil =>
      intro state final balanced done
      cases done
      exact balanced
  | cons event rest ih =>
      intro state final balanced done
      rw [List.foldlM_cons] at done
      obtain ⟨next, stepped, done⟩ := Option.bind_eq_some_iff.mp done
      exact ih (balanced_step balanced stepped) done

/-- The accounts of a state balance. No more callers hold slots than the connection allows;
the counters are the numbers of those who wait, below their caps; and where nobody is left
all slots are free and the counters are zero. -/
structure AccountsBalance (limits : String → SlotLimits) (state : LimiterState) : Prop where
  holders : ∀ connectionId, state.holders connectionId ≤ (limits connectionId).maxConcurrency
  depth : ∀ connectionId, state.queueDepth connectionId = state.waitingOn connectionId
  principalDepth : ∀ connectionId subject, state.queueDepthByPrincipal (connectionId, subject) =
    state.waitingFor connectionId subject
  nonnegative : ∀ connectionId subject, 0 ≤ state.queueDepth connectionId ∧
    0 ≤ state.queueDepthByPrincipal (connectionId, subject)
  capped : ∀ connectionId (cap : Nat), (limits connectionId).maxQueueDepth = some cap →
    state.queueDepth connectionId ≤ cap
  principalCapped : ∀ connectionId subject (cap : Nat),
    (limits connectionId).maxQueueDepthPerPrincipal = some cap →
    state.queueDepthByPrincipal (connectionId, subject) ≤ cap
  free : ∀ connectionId, (∀ caller ∈ state.users, caller.connectionId ≠ connectionId) →
    (∀ semaphore, state.semaphores connectionId = some semaphore →
      semaphore.value = (limits connectionId).maxConcurrency ∧ semaphore.waiters = []) ∧
    state.queueDepth connectionId = 0 ∧
    ∀ subject, state.queueDepthByPrincipal (connectionId, subject) = 0

/-- Every state of a run has its accounts balanced. -/
theorem accountsBalance_of_run {limits : String → SlotLimits} {events : List SlotEvent}
    {state : LimiterState} (run : events.foldlM (slotStep limits) {} = some state) :
    AccountsBalance limits state := by
  have balanced := balanced_run (balanced_empty limits) run
  have noWaiting : ∀ connectionId, (∀ caller ∈ state.users, caller.connectionId ≠ connectionId) →
      ∀ call ∈ state.waiting, call.caller.connectionId ≠ connectionId :=
    fun connectionId nobody call inside =>
      nobody _ (List.mem_append_left _ (List.mem_map_of_mem inside))
  refine ⟨fun connectionId => ?_, balanced.depth, balanced.principalDepth,
    fun connectionId subject => ?_, fun connectionId cap capped => ?_,
    fun connectionId subject cap capped => ?_, fun connectionId nobody => ⟨?_, ?_, ?_⟩⟩
  · by_cases someone : state.holders connectionId = 0
    · rw [someone]
      exact Nat.zero_le _
    · obtain ⟨caller, inside, here⟩ :=
        List.countP_pos_iff.mp (Nat.pos_of_ne_zero someone)
      have used := balanced.used caller (List.mem_append_right _ inside)
      rw [eq_of_beq here] at used
      obtain ⟨semaphore, current⟩ := Option.isSome_iff_exists.mp used
      have slots := balanced.slots connectionId semaphore current
      omega
  · rw [balanced.depth, balanced.principalDepth]
    exact ⟨Int.natCast_nonneg _, Int.natCast_nonneg _⟩
  · rw [balanced.depth]
    exact Int.ofNat_le.mpr (balanced.capped connectionId cap capped)
  · rw [balanced.principalDepth]
    exact Int.ofNat_le.mpr (balanced.principalCapped connectionId subject cap capped)
  · intro semaphore current
    have slots := balanced.slots connectionId semaphore current
    have noOwners : semaphore.owners = [] := by
      rw [List.eq_nil_iff_forall_not_mem]
      intro owner inside
      obtain ⟨call, listed, rfl, _, here⟩ := (balanced.owners _ _ current).2 owner inside
      exact noWaiting connectionId nobody call listed here
    have noCarried : state.carried connectionId = 0 := by
      rw [LimiterState.carried, List.countP_eq_zero]
      intro call inside both
      rw [Bool.and_eq_true, beq_iff_eq] at both
      exact noWaiting connectionId nobody call inside both.1
    have noHolders : state.holders connectionId = 0 := by
      rw [LimiterState.holders, List.countP_eq_zero]
      intro caller inside here
      exact nobody caller (List.mem_append_right _ inside) (eq_of_beq here)
    rw [Semaphore.slots_of_no_owners noOwners, noCarried, noHolders] at slots
    exact ⟨slots, List.map_eq_nil_iff.mp noOwners⟩
  · rw [balanced.depth, Int.natCast_eq_zero, LimiterState.waitingOn, List.countP_eq_zero]
    intro call inside here
    exact noWaiting connectionId nobody call inside (eq_of_beq here)
  · intro subject
    rw [balanced.principalDepth, Int.natCast_eq_zero, LimiterState.waitingFor, List.countP_eq_zero]
    intro call inside both
    rw [Bool.and_eq_true, beq_iff_eq] at both
    exact noWaiting connectionId nobody call inside both.1

/-- One slot, one place in the queue. -/
def oneSlot : String → SlotLimits := fun _ => ⟨1, some 2, some 1⟩

/-- A caller of a subject on the connection of the example. -/
def callerOf (id : Nat) (subject : String) : SlotCaller := ⟨id, "prod", some subject, true⟩

/-- The second caller parks behind the first and is cancelled once the slot is assigned to it;
a third is turned away. -/
def cancelledRun : List SlotEvent :=
  [.enter (callerOf 1 "ann"), .acquirerRuns (callerOf 1 "ann"), .callerRuns (callerOf 1 "ann"),
    .enter (callerOf 2 "bob"), .enter (callerOf 3 "bob"), .acquirerRuns (callerOf 2 "bob"),
    .exit (callerOf 1 "ann"), .callerRuns (callerOf 2 "bob"), .acquirerRuns (callerOf 2 "bob"),
    .callerRuns (callerOf 2 "bob")]

theorem accountsBalance_cancelledRun : ∃ state,
    cancelledRun.foldlM (slotStep oneSlot) {} = some state ∧ state.users = [] ∧
      AccountsBalance oneSlot state := by
  have users : (cancelledRun.foldlM (slotStep oneSlot) {}).map LimiterState.users = some [] := rfl
  obtain ⟨state, run, nobody⟩ := Option.map_eq_some_iff.mp users
  exact ⟨state, run, nobody, accountsBalance_of_run run⟩

end QueryGate
