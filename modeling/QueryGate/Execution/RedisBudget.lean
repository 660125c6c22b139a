import QueryGate.Execution.RedisDisclosure

/-! # The disclosure budget across replicas

Every replica charges the same sorted sets. No key is charged above its limit in any window,
whatever replies are lost (`redisBudgetHolds_of_replicaCalls`): a set expires with the window of
its own key, where the sweep of the in-process limiter does not. Where every reply arrives and
those sweeps do no harm, the two limiters answer alike (`redisAnswersAlong_eq`).
-/

namespace QueryGate

open Foundation

/-! ## Runs -/

/-- Redis before the first call. -/
def noSets : SortedSets := fun _ => {}

/-- The sets after a call. -/
def setsAfter (sets : SortedSets) (call : RedisReserveCall) : SortedSets :=
  (redisReserve call sets).1

/-- The sets after a sequence of calls. -/
def setsRun (calls : List RedisReserveCall) : SortedSets :=
  calls.foldl setsAfter noSets

/-- What a call charges: all of its charges where the script runs and admits them. -/
def redisCharged (sets : SortedSets) (call : RedisReserveCall) :
    List (Charged DisclosureBudgetKey) :=
  let ran := reserveCapsScript (capsOf call.charges) call.windowSeconds call.now call.member sets
  if call.delivery = .unreached ∨ ran.2.isSome then []
  else call.charges.map fun charge => ⟨charge.key, call.now, charge.weight⟩

/-- Everything charged along a sequence of calls. -/
def redisChargedAlong (sets : SortedSets) : List RedisReserveCall → List (Charged DisclosureBudgetKey)
  | [] => []
  | call :: rest => redisCharged sets call ++ redisChargedAlong (setsAfter sets call) rest

/-- The units of a key that count at an instant. -/
def unitsHeld (sets : SortedSets) (key : DisclosureBudgetKey) (width : Nat) (now : ℚ) : Nat :=
  (laterThan (now - width) ((sets (redisKey key)).seenAt now).scores).length

/-- The calls of the replicas: each key with its own limit and window and once a call, and no
draw made twice. -/
structure ReplicaCalls (limitOf windowOf : DisclosureBudgetKey → Nat)
    (calls : List RedisReserveCall) : Prop where
  consistent : ConsistentCalls limitOf windowOf (calls.map RedisReserveCall.toReserveCall)
  keys : ∀ call ∈ calls, (call.charges.map Charge.key).Nodup
  drawn : (calls.map RedisReserveCall.member).Nodup
  plain : ∀ call ∈ calls, ':' ∉ call.member.toList

/-- Over the run, no key is charged above its limit in any window, what goes through was
charged in full, and what is refused by a cap changes no total. -/
structure RedisBudgetHolds (limitOf windowOf : DisclosureBudgetKey → Nat)
    (calls : List RedisReserveCall) : Prop where
  bounded : ∀ key instant,
    chargedWeight (redisChargedAlong noSets calls) key (windowOf key) instant ≤ limitOf key
  charged : ∀ before call later, calls = before ++ call :: later →
    (redisReserve call (setsRun before)).2 = .ok () →
    redisCharged (setsRun before) call =
      call.charges.map fun charge => ⟨charge.key, call.now, charge.weight⟩
  inert : ∀ before call later refusal, calls = before ++ call :: later →
    (redisReserve call (setsRun before)).2 = .error (.exceeded refusal) →
    ∀ key, unitsHeld (setsRun (before ++ [call])) key (windowOf key) call.now =
      unitsHeld (setsRun before) key (windowOf key) call.now

/-- The sets follow the log of what was charged, and the log keeps every budget. -/
structure SetsFollow (limitOf windowOf : DisclosureBudgetKey → Nat)
    (log : List (Charged DisclosureBudgetKey)) (draws : List (List Char)) (now : ℚ)
    (sets : SortedSets) : Prop where
  each : ∀ key, Follows (windowOf key) (instants log key) draws now (sets (redisKey key))
  held : ∀ key instant, windowCount (windowOf key : ℚ) instant (instants log key) ≤ limitOf key

section Step

variable {limitOf windowOf : DisclosureBudgetKey → Nat} {log : List (Charged DisclosureBudgetKey)}
  {draws : List (List Char)} {last : ℚ} {sets : SortedSets} {call : RedisReserveCall}

theorem SetsFollow.later (follow : SetsFollow limitOf windowOf log draws last sets) {now : ℚ}
    (order : last ≤ now) : SetsFollow limitOf windowOf log draws now sets where
  each key := (follow.each key).later order
  held := follow.held

theorem SetsFollow.moreDraws (follow : SetsFollow limitOf windowOf log draws last sets)
    (draw : List Char) : SetsFollow limitOf windowOf log (draw :: draws) last sets where
  each key := (follow.each key).moreDraws draw
  held := follow.held

/-- The first loop leaves the sets following. -/
theorem SetsFollow.checked (follow : SetsFollow limitOf windowOf log draws call.now sets)
    (keys : (call.charges.map Charge.key).Nodup)
    (windows : ∀ charge ∈ call.charges, call.windowSeconds = windowOf charge.key) (index : Nat) :
    SetsFollow limitOf windowOf log draws call.now
      (checkCaps call.windowSeconds call.now index (capsOf call.charges) sets).1 where
  each key := by
    rcases checkCaps_sets call.windowSeconds call.now keys index sets key with
      kept | ⟨member, pruned⟩
    · rw [kept]
      exact follow.each key
    · obtain ⟨charge, isCharge, rfl⟩ := List.mem_map.mp member
      rw [pruned, windows charge isCharge]
      exact (follow.each charge.key).pruned
  held := follow.held

/-- What a fitting charge leaves room for is read off the log. -/
theorem SetsFollow.fits_iff (follow : SetsFollow limitOf windowOf log draws call.now sets)
    {charge : Charge DisclosureBudgetKey} (window : call.windowSeconds = windowOf charge.key) :
    Fits call.windowSeconds call.now sets charge ↔
      (laterThan (call.now - call.windowSeconds) (instants log charge.key)).length +
        charge.weight ≤ charge.limit := by
  rw [Fits, window, (follow.each charge.key).length_prunedSet]

/-- The script keeps the sets following what it charges. -/
theorem SetsFollow.script (follow : SetsFollow limitOf windowOf log draws call.now sets)
    (keys : (call.charges.map Charge.key).Nodup)
    (limits : ∀ charge ∈ call.charges, charge.limit = limitOf charge.key)
    (windows : ∀ charge ∈ call.charges, call.windowSeconds = windowOf charge.key)
    (plain : ':' ∉ call.member.toList) (fresh : call.member.toList ∉ draws) :
    let ran := reserveCapsScript (capsOf call.charges) call.windowSeconds call.now call.member sets
    SetsFollow limitOf windowOf
      (log ++ if ran.2.isSome then [] else
        call.charges.map fun charge => ⟨charge.key, call.now, charge.weight⟩)
      (call.member.toList :: draws) call.now ran.1 := by
  intro ran
  have checked := follow.checked keys windows 1
  rcases checkCaps_answer call.windowSeconds call.now keys 1 sets with
    ⟨passed, fits⟩ | ⟨before, charge, later, _, _, _, answer⟩
  · obtain ⟨inside, outside⟩ := chargeCaps_sets call.windowSeconds call.now keys
      call.member 1
      (checkCaps call.windowSeconds call.now 1 (capsOf call.charges) sets).1
    obtain ⟨added, untouched⟩ := instants_charges keys call.now
    have admitted : ran = (chargeCaps call.windowSeconds call.now call.member 1
        (capsOf call.charges)
        (checkCaps call.windowSeconds call.now 1 (capsOf call.charges) sets).1, none) := by
      simp only [ran, reserveCapsScript, passed]
    rw [admitted, Option.isSome_none, if_neg Bool.false_ne_true]
    dsimp only
    refine ⟨fun key => ?_, fun key instant => ?_⟩
    · rw [instants_append]
      by_cases charged : key ∈ call.charges.map Charge.key
      · obtain ⟨charge, member, rfl⟩ := List.mem_map.mp charged
        obtain ⟨place, units⟩ := inside charge member
        have entered := (checked.each charge.key).charged plain fresh place charge.weight
        rw [windows charge member] at entered
        rw [added charge member, units, windows charge member]
        exact entered
      · rw [untouched key charged, outside key charged, List.append_nil]
        exact (checked.each key).moreDraws _
    · rw [instants_append]
      by_cases charged : key ∈ call.charges.map Charge.key
      · obtain ⟨charge, member, rfl⟩ := List.mem_map.mp charged
        rw [added charge member]
        refine windowCount_append_le (follow.held charge.key) ?_ instant
        rw [← windows charge member, ← limits charge member]
        exact (follow.fits_iff (windows charge member)).mp (fits charge member)
      · rw [untouched key charged, List.append_nil]
        exact follow.held key instant
  · have refused : ran = ((checkCaps call.windowSeconds call.now 1 (capsOf call.charges) sets).1,
        some (1 + before.length, oldestRetryAfter call.windowSeconds call.now
          (prunedSet call.windowSeconds call.now (sets (redisKey charge.key))))) := by
      simp only [ran, reserveCapsScript, answer]
    rw [refused, Option.isSome_some, if_pos rfl, List.append_nil]
    exact checked.moreDraws _

/-- One call keeps the sets following what was charged. -/
theorem SetsFollow.after (follow : SetsFollow limitOf windowOf log draws last sets)
    (order : last ≤ call.now) (keys : (call.charges.map Charge.key).Nodup)
    (limits : ∀ charge ∈ call.charges, charge.limit = limitOf charge.key)
    (windows : ∀ charge ∈ call.charges, call.windowSeconds = windowOf charge.key)
    (plain : ':' ∉ call.member.toList) (fresh : call.member.toList ∉ draws) :
    SetsFollow limitOf windowOf (log ++ redisCharged sets call) (call.member.toList :: draws)
      call.now (setsAfter sets call) := by
  have now := follow.later order
  have ran := now.script keys limits windows plain fresh
  have still := now.moreDraws call.member.toList
  unfold setsAfter redisReserve redisCharged
  split
  · rename_i none
    rw [List.isEmpty_iff.mp none, List.map_nil, ite_self, List.append_nil]
    exact still
  · cases delivered : call.delivery with
    | answered => simpa only [reduceCtorEq, false_or] using ran
    | lost => simpa only [reduceCtorEq, false_or] using ran
    | unreached =>
        simp only [true_or, if_true, List.append_nil]
        exact still

end Step

/-- A sequence of calls keeps the sets following everything charged along it. -/
theorem SetsFollow.run {limitOf windowOf : DisclosureBudgetKey → Nat}
    {calls : List RedisReserveCall} (sound : ReplicaCalls limitOf windowOf calls)
    {log : List (Charged DisclosureBudgetKey)} {draws : List (List Char)} {last : ℚ}
    {sets : SortedSets} (follow : SetsFollow limitOf windowOf log draws last sets)
    (begins : ∀ call ∈ calls, last ≤ call.now)
    (fresh : ∀ call ∈ calls, call.member.toList ∉ draws) :
    ∃ reached later, (∀ call ∈ later, call ∈ draws ∨ ∃ made ∈ calls, call = made.member.toList) ∧
      (∀ instant, last ≤ instant → (∀ call ∈ calls, call.now ≤ instant) → reached ≤ instant) ∧
      SetsFollow limitOf windowOf (log ++ redisChargedAlong sets calls) later reached
        (calls.foldl setsAfter sets) := by
  induction calls generalizing log draws last sets with
  | nil =>
      refine ⟨last, draws, fun _ member => .inl member, fun _ bound _ => bound, ?_⟩
      rw [redisChargedAlong, List.append_nil]
      exact follow
  | cons call rest ih =>
      obtain ⟨⟨ordered, limits, windows⟩, keys, drawn, plain⟩ := sound
      rw [List.map_cons, List.map_cons, List.pairwise_cons] at ordered
      rw [List.map_cons, List.nodup_cons] at drawn
      have head : call ∈ call :: rest := List.mem_cons_self ..
      have headCall : call.toReserveCall ∈ (call :: rest).map RedisReserveCall.toReserveCall :=
        List.mem_map_of_mem head
      have stepped := follow.after (begins call head) (keys call head) (limits _ headCall)
        (windows _ headCall) (plain call head) (fresh call head)
      obtain ⟨reached, later, from_, bound, followed⟩ := ih
        ⟨⟨ordered.2, fun other member => limits other (List.mem_cons_of_mem _ member),
          fun other member => windows other (List.mem_cons_of_mem _ member)⟩,
          fun other member => keys other (List.mem_cons_of_mem _ member), drawn.2,
          fun other member => plain other (List.mem_cons_of_mem _ member)⟩ stepped
        (fun other member => ordered.1 _ (List.mem_map_of_mem (List.mem_map_of_mem member)))
        (fun other member => by
          rw [List.mem_cons, not_or]
          refine ⟨fun same => drawn.1 ?_, fresh other (List.mem_cons_of_mem _ member)⟩
          rw [← String.toList_inj.mp same]
          exact List.mem_map_of_mem member)
      refine ⟨reached, later, fun draw member => ?_, fun instant _ all =>
        bound instant (all call head) fun other member => all other (List.mem_cons_of_mem _ member),
        ?_⟩
      · rcases from_ draw member with inDraws | ⟨made, isMade, rfl⟩
        · rcases List.mem_cons.mp inDraws with rfl | before
          · exact .inr ⟨call, head, rfl⟩
          · exact .inl before
        · exact .inr ⟨made, List.mem_cons_of_mem _ isMade, rfl⟩
      · rw [redisChargedAlong, ← List.append_assoc]
        exact followed

theorem ReplicaCalls.of_append {limitOf windowOf : DisclosureBudgetKey → Nat}
    {first second : List RedisReserveCall}
    (sound : ReplicaCalls limitOf windowOf (first ++ second)) :
    ReplicaCalls limitOf windowOf first where
  consistent := by
    have consistent := sound.consistent
    rw [List.map_append] at consistent
    exact consistent.of_append
  keys call member := sound.keys call (List.mem_append_left _ member)
  drawn := by
    have drawn := sound.drawn
    rw [List.map_append] at drawn
    exact (List.nodup_append.mp drawn).1
  plain call member := sound.plain call (List.mem_append_left _ member)

/-- An instant that no call is made before. -/
theorem ReplicaCalls.exists_start {limitOf windowOf : DisclosureBudgetKey → Nat}
    {calls : List RedisReserveCall} (sound : ReplicaCalls limitOf windowOf calls) :
    ∃ start : ℚ, ∀ call ∈ calls, start ≤ call.now := by
  cases calls with
  | nil => exact ⟨0, fun _ member => absurd member List.not_mem_nil⟩
  | cons first rest =>
      refine ⟨first.now, fun call member => ?_⟩
      have ordered := sound.consistent.ordered
      rw [List.map_cons, List.map_cons, List.pairwise_cons] at ordered
      rcases List.mem_cons.mp member with rfl | later
      · exact le_rfl
      · exact ordered.1 _ (List.mem_map_of_mem (List.mem_map_of_mem later))

theorem setsFollow_noSets (limitOf windowOf : DisclosureBudgetKey → Nat) (now : ℚ) :
    SetsFollow limitOf windowOf [] [] now noSets where
  each key := Follows.empty (windowOf key) now
  held _ _ := Nat.zero_le _

/-- The sets when a call of the run is made. -/
theorem ReplicaCalls.follow_before {limitOf windowOf : DisclosureBudgetKey → Nat}
    {before later : List RedisReserveCall} {call : RedisReserveCall}
    (sound : ReplicaCalls limitOf windowOf (before ++ call :: later)) :
    ∃ draws, call.member.toList ∉ draws ∧
      SetsFollow limitOf windowOf (redisChargedAlong noSets before) draws call.now
        (setsRun before) := by
  obtain ⟨start, begins⟩ := sound.exists_start
  have isCall : call ∈ before ++ call :: later :=
    List.mem_append_right _ (List.mem_cons_self ..)
  obtain ⟨reached, draws, from_, bound, follow⟩ :=
    (setsFollow_noSets limitOf windowOf start).run sound.of_append
      (fun other member => begins other (List.mem_append_left _ member))
      (fun _ _ => List.not_mem_nil)
  have ordered := sound.consistent.ordered
  rw [List.map_append, List.map_append] at ordered
  have drawn := sound.drawn
  rw [List.map_append] at drawn
  refine ⟨draws, fun member => ?_, ?_⟩
  · rcases from_ _ member with none | ⟨made, isMade, same⟩
    · exact absurd none List.not_mem_nil
    · refine (List.nodup_append.mp drawn).2.2 made.member (List.mem_map_of_mem isMade) call.member
        (List.mem_map_of_mem (List.mem_cons_self ..)) (String.toList_inj.mp same.symm)
  · refine follow.later (bound call.now (begins call isCall) fun other member => ?_)
    exact (List.pairwise_append.mp ordered).2.2 _
      (List.mem_map_of_mem (List.mem_map_of_mem member)) _
      (List.mem_map_of_mem (List.mem_map_of_mem (List.mem_cons_self ..)))

/-- The script refuses where its first loop stops. -/
theorem reserveCapsScript_answer (caps : List KeyedCap) (windowSeconds : Nat) (now : ℚ)
    (member : String) (sets : SortedSets) :
    (reserveCapsScript caps windowSeconds now member sets).2 =
      (checkCaps windowSeconds now 1 caps sets).2 := by
  unfold reserveCapsScript
  dsimp only
  split
  · rename_i refused stopped
    exact stopped.symm
  · rename_i passed
    exact passed.symm

/-- A call that goes through was charged in full. -/
theorem redisCharged_of_ok {call : RedisReserveCall} {sets : SortedSets}
    (keys : (call.charges.map Charge.key).Nodup)
    (through : (redisReserve call sets).2 = .ok ()) :
    redisCharged sets call =
      call.charges.map fun charge => ⟨charge.key, call.now, charge.weight⟩ := by
  unfold redisReserve at through
  unfold redisCharged
  dsimp only
  split at through
  · rename_i none
    rw [List.isEmpty_iff.mp none, List.map_nil, ite_self]
  · cases delivered : call.delivery with
    | answered =>
        simp only [delivered] at through
        rcases checkCaps_answer call.windowSeconds call.now keys 1 sets with
          ⟨passed, _⟩ | ⟨before, charge, later, split, _, _, answer⟩
        · rw [reserveCapsScript_answer, passed, if_neg]
          simp only [reduceCtorEq, Option.isSome_none, Bool.false_eq_true, or_self,
            not_false_eq_true]
        · rw [reserveCapsScript_answer, answer, replyOutcome, Nat.add_sub_cancel_left, split,
            List.getElem?_append_right le_rfl, Nat.sub_self, List.getElem?_cons_zero] at through
          cases through
    | lost =>
        simp only [delivered] at through
        cases through
    | unreached =>
        simp only [delivered] at through
        cases through

/-- A call that a cap refuses charges nothing. -/
theorem redisCharged_of_exceeded {call : RedisReserveCall} {sets : SortedSets}
    {refusal : BudgetExceeded}
    (refused : (redisReserve call sets).2 = .error (.exceeded refusal)) :
    redisCharged sets call = [] := by
  unfold redisReserve at refused
  unfold redisCharged
  dsimp only
  split at refused
  · cases refused
  · cases delivered : call.delivery with
    | answered =>
        simp only [delivered] at refused
        cases answer : (reserveCapsScript (capsOf call.charges) call.windowSeconds call.now
            call.member sets).2 with
        | none =>
            rw [answer] at refused
            cases refused
        | some reply => exact if_pos (.inr rfl)
    | lost =>
        simp only [delivered] at refused
        cases refused
    | unreached => rw [if_pos (.inl rfl)]

/-- **The budget holds across the replicas**, over every sequence of calls, whatever replies are
lost and whatever window each key has. -/
theorem redisBudgetHolds_of_replicaCalls {limitOf windowOf : DisclosureBudgetKey → Nat}
    {calls : List RedisReserveCall} (sound : ReplicaCalls limitOf windowOf calls) :
    RedisBudgetHolds limitOf windowOf calls where
  bounded key instant := by
    obtain ⟨start, begins⟩ := sound.exists_start
    obtain ⟨_, _, _, _, follow⟩ := (setsFollow_noSets limitOf windowOf start).run sound begins
      fun _ _ => List.not_mem_nil
    rw [chargedWeight_eq_windowCount]
    exact follow.held key instant
  charged before call later split through := by
    refine redisCharged_of_ok (sound.keys call ?_) through
    rw [split]
    exact List.mem_append_right _ (List.mem_cons_self ..)
  inert before call later refusal split refused key := by
    subst split
    have isCall : call ∈ before ++ call :: later :=
      List.mem_append_right _ (List.mem_cons_self ..)
    have isReserve := List.mem_map_of_mem isCall (f := RedisReserveCall.toReserveCall)
    obtain ⟨draws, fresh, follow⟩ := sound.follow_before
    have stepped := follow.after le_rfl (sound.keys call isCall)
      (sound.consistent.limits _ isReserve) (sound.consistent.windows _ isReserve)
      (sound.plain call isCall) fresh
    rw [redisCharged_of_exceeded refused, List.append_nil] at stepped
    have after := (stepped.each key).seenAt.current
    have earlier := (follow.each key).seenAt.current
    rw [unitsHeld, unitsHeld, setsRun, List.foldl_append, List.foldl_cons, List.foldl_nil]
    exact congrArg List.length (after.trans earlier.symm)

/-- The key of a caller's probes of one table. -/
def probeKey : DisclosureBudgetKey where
  connectionId := "sales"
  principalSubject := "agent:7"
  purpose := ""
  table := "customers"
  shapeFingerprint := ""
  matched := by decide

/-- One unit charged to it. -/
def probe (member : String) (now : ℚ) (delivery : Delivery) : RedisReserveCall where
  charges := [⟨probeKey, 2, .table, 1⟩]
  windowSeconds := 60
  now := now
  member := member
  delivery := delivery

theorem replicaCalls_probes (delivery : Delivery) :
    ReplicaCalls (fun _ => 2) (fun _ => 60) [probe "a" 10 delivery, probe "b" 20 .answered] where
  consistent := by
    refine ⟨by norm_num [probe], fun call member charge inside => ?_,
      fun call member charge inside => ?_⟩
    · simp only [List.map_cons, List.map_nil, List.mem_cons, List.not_mem_nil, or_false] at member
      rcases member with rfl | rfl
      · rw [List.mem_singleton.mp inside]
      · rw [List.mem_singleton.mp inside]
    · simp only [List.map_cons, List.map_nil, List.mem_cons, List.not_mem_nil, or_false] at member
      rcases member with rfl | rfl
      · rfl
      · rfl
  keys call member := by
    simp only [List.mem_cons, List.not_mem_nil, or_false] at member
    rcases member with rfl | rfl
    · exact List.nodup_singleton _
    · exact List.nodup_singleton _
  drawn := by
    change ["a", "b"].Nodup
    decide
  plain call member := by
    simp only [List.mem_cons, List.not_mem_nil, or_false] at member
    rcases member with rfl | rfl
    · change ':' ∉ "a".toList
      decide
    · change ':' ∉ "b".toList
      decide

/-- Two probes of which the first reply is lost. -/
theorem redisBudgetHolds_probes :
    RedisBudgetHolds (fun _ => 2) (fun _ => 60) [probe "a" 10 .lost, probe "b" 20 .answered] :=
  redisBudgetHolds_of_replicaCalls (replicaCalls_probes .lost)

/-! ## The two limiters -/

/-- The first charge, in order, that the units counted for its key leave no room for. -/
def firstRefusal {κ : Type} (counted : κ → List ℚ) (windowSeconds : Nat) (now : ℚ) :
    List (Charge κ) → Except BudgetExceeded Unit
  | [] => .ok ()
  | charge :: rest =>
      if charge.limit < (counted charge.key).length + charge.weight then
        .error (DisclosureLimiter.rejection charge windowSeconds now (counted charge.key))
      else firstRefusal counted windowSeconds now rest

theorem firstRefusal_congr {κ : Type} {counted other : κ → List ℚ} {windowSeconds : Nat} {now : ℚ}
    {charges : List (Charge κ)}
    (same : ∀ charge ∈ charges, counted charge.key = other charge.key) :
    firstRefusal counted windowSeconds now charges =
      firstRefusal other windowSeconds now charges := by
  induction charges with
  | nil => rfl
  | cons charge rest ih =>
      rw [firstRefusal, firstRefusal, same charge (List.mem_cons_self ..),
        ih fun later member => same later (List.mem_cons_of_mem _ member)]

theorem firstRefusal_of_fits {κ : Type} {counted : κ → List ℚ} {windowSeconds : Nat} {now : ℚ}
    {charges : List (Charge κ)}
    (fits : ∀ charge ∈ charges, (counted charge.key).length + charge.weight ≤ charge.limit)
    (rest : List (Charge κ)) :
    firstRefusal counted windowSeconds now (charges ++ rest) =
      firstRefusal counted windowSeconds now rest := by
  induction charges with
  | nil => rfl
  | cons charge others ih =>
      rw [List.cons_append, firstRefusal,
        if_neg (Nat.not_lt_of_le (fits charge (List.mem_cons_self ..)))]
      exact ih fun later member => fits later (List.mem_cons_of_mem _ member)

/-- The in-process limiter refuses by what it counts once it has swept. -/
theorem DisclosureLimiter.checkCharges_answer {κ : Type} [DecidableEq κ] (windowSeconds : Nat)
    (now : ℚ) (charges : List (Charge κ)) (limiter : DisclosureLimiter κ) :
    (checkCharges windowSeconds now charges limiter).2.map (fun _ => ()) =
      firstRefusal (fun key => laterThan (now - windowSeconds) (limiter.entries key)) windowSeconds
        now charges := by
  induction charges generalizing limiter with
  | nil => rfl
  | cons charge rest ih =>
      have same : ∀ key, laterThan (now - windowSeconds)
          ((limiter.prune charge.key (now - windowSeconds)).2.entries key) =
            laterThan (now - windowSeconds) (limiter.entries key) := by
        intro key
        rw [entries_prune]
        split
        · rename_i hit
          rw [← hit, laterThan_laterThan le_rfl]
        · rfl
      simp only [checkCharges, firstRefusal, prune_fst]
      split
      · rfl
      · have kept := ih (limiter.prune charge.key (now - windowSeconds)).2
        simp only [same] at kept
        rw [← kept]
        cases (checkCharges windowSeconds now rest
          (limiter.prune charge.key (now - windowSeconds)).2).2 with
        | error refusal => rfl
        | ok checked => rfl

theorem DisclosureLimiter.reserve_answer {κ : Type} [DecidableEq κ] (limiter : DisclosureLimiter κ)
    (charges : List (Charge κ)) (windowSeconds : Nat) (now : ℚ) :
    (limiter.reserve charges windowSeconds now).2 =
      firstRefusal (fun key => laterThan (now - windowSeconds)
        ((limiter.sweepDue windowSeconds now).entries key)) windowSeconds now charges := by
  rw [← checkCharges_answer, reserve]
  split
  · rename_i refusal stopped
    rw [stopped]
    rfl
  · rename_i checked passed
    rw [passed]
    rfl

section Agreement

variable {limitOf windowOf : DisclosureBudgetKey → Nat} {log : List (Charged DisclosureBudgetKey)}
  {draws : List (List Char)} {last : ℚ} {sets : SortedSets} {call : RedisReserveCall}

/-- The answer that the log of what was charged calls for. -/
def logAnswer (log : List (Charged DisclosureBudgetKey)) (call : RedisReserveCall) :
    Except BudgetExceeded Unit :=
  firstRefusal (fun key => laterThan (call.now - call.windowSeconds) (instants log key))
    call.windowSeconds call.now call.charges

theorem Tracks.answer {limiter : DisclosureLimiter DisclosureBudgetKey}
    (tracks : Tracks limitOf windowOf log last limiter) (later : last ≤ call.now)
    (fine : SweepsOwnWindows windowOf limiter call.toReserveCall)
    (windows : ∀ charge ∈ call.charges, call.windowSeconds = windowOf charge.key) :
    (limiter.reserve call.charges call.windowSeconds call.now).2 = logAnswer log call := by
  rw [limiter.reserve_answer]
  refine firstRefusal_congr fun charge member => ?_
  have current := (tracks.sweepDue later fine).current charge.key
  rw [← windows charge member] at current
  exact current

theorem SetsFollow.answer (follow : SetsFollow limitOf windowOf log draws call.now sets)
    (keys : (call.charges.map Charge.key).Nodup)
    (windows : ∀ charge ∈ call.charges, call.windowSeconds = windowOf charge.key)
    (answered : call.delivery = .answered) :
    (redisReserve call sets).2 = (logAnswer log call).mapError RedisRefusal.exceeded := by
  have room : ∀ charge ∈ call.charges, Fits call.windowSeconds call.now sets charge ↔
      (laterThan (call.now - call.windowSeconds) (instants log charge.key)).length +
        charge.weight ≤ charge.limit :=
    fun charge member => follow.fits_iff (windows charge member)
  unfold redisReserve logAnswer
  split
  · rename_i none
    rw [List.isEmpty_iff.mp none]
    rfl
  · simp only [answered, reserveCapsScript_answer]
    rcases checkCaps_answer call.windowSeconds call.now keys 1 sets with
      ⟨passed, fits⟩ | ⟨before, charge, later, split, fits, full, answer⟩
    · have all : firstRefusal
          (fun key => laterThan (call.now - call.windowSeconds) (instants log key))
          call.windowSeconds call.now (call.charges ++ []) = .ok () :=
        firstRefusal_of_fits (fun charge member => (room charge member).mp (fits charge member)) []
      rw [List.append_nil] at all
      rw [passed, all]
      rfl
    · have isCharge : charge ∈ call.charges :=
        split ▸ List.mem_append_right _ (List.mem_cons_self ..)
      have wait := (follow.each charge.key).oldestRetryAfter_prunedSet
      rw [← windows charge isCharge] at wait
      rw [room charge isCharge, Nat.not_le] at full
      have lookup : call.charges[1 + before.length - 1]? = some charge := by
        rw [Nat.add_sub_cancel_left, split, List.getElem?_append_right le_rfl, Nat.sub_self,
          List.getElem?_cons_zero]
      rw [answer, replyOutcome, lookup, wait, split, firstRefusal_of_fits, firstRefusal,
        if_pos full]
      · rfl
      · intro other member
        exact (room other (split ▸ List.mem_append_left _ member)).mp (fits other member)

end Agreement

/-- What the in-process limiter answers to a sequence of calls. -/
def DisclosureLimiter.answersAlong {κ : Type} [DecidableEq κ] (limiter : DisclosureLimiter κ) :
    List (ReserveCall κ) → List (Except BudgetExceeded Unit)
  | [] => []
  | call :: rest =>
      (limiter.reserve call.charges call.windowSeconds call.now).2 ::
        (limiter.after call).answersAlong rest

/-- What the limiter in Redis answers to a sequence of calls. -/
def redisAnswersAlong (sets : SortedSets) : List RedisReserveCall → List (Except RedisRefusal Unit)
  | [] => []
  | call :: rest => (redisReserve call sets).2 :: redisAnswersAlong (setsAfter sets call) rest

/-- Where the two limiters answer alike they charge alike. -/
theorem charged_eq_redisCharged {limiter : DisclosureLimiter DisclosureBudgetKey}
    {sets : SortedSets} {call : RedisReserveCall} (keys : (call.charges.map Charge.key).Nodup)
    (same : (redisReserve call sets).2 =
      (limiter.reserve call.charges call.windowSeconds call.now).2.mapError RedisRefusal.exceeded) :
    limiter.charged call.toReserveCall = redisCharged sets call := by
  unfold DisclosureLimiter.charged DisclosureLimiter.refuses
  cases answer : (limiter.reserve call.charges call.windowSeconds call.now).2 with
  | ok _ =>
      rw [answer] at same
      rw [redisCharged_of_ok keys same]
      rfl
  | error refusal =>
      rw [answer] at same
      rw [redisCharged_of_exceeded same]
      rfl

/-- Limiters that follow one log answer every later call alike. -/
theorem answersAlong_of_follow {limitOf windowOf : DisclosureBudgetKey → Nat}
    {calls : List RedisReserveCall} (sound : ReplicaCalls limitOf windowOf calls)
    (answered : ∀ call ∈ calls, call.delivery = .answered)
    {log : List (Charged DisclosureBudgetKey)} {draws : List (List Char)} {last : ℚ}
    {limiter : DisclosureLimiter DisclosureBudgetKey} {sets : SortedSets}
    (tracks : Tracks limitOf windowOf log last limiter)
    (follow : SetsFollow limitOf windowOf log draws last sets)
    (begins : ∀ call ∈ calls, last ≤ call.now)
    (fresh : ∀ call ∈ calls, call.member.toList ∉ draws)
    (fine : ∀ before call later, calls.map RedisReserveCall.toReserveCall = before ++ call :: later →
      SweepsOwnWindows windowOf (limiter.run before) call) :
    redisAnswersAlong sets calls =
      (limiter.answersAlong (calls.map RedisReserveCall.toReserveCall)).map
        fun answer => answer.mapError RedisRefusal.exceeded := by
  induction calls generalizing log draws last limiter sets with
  | nil => rfl
  | cons call rest ih =>
      obtain ⟨⟨ordered, limits, windows⟩, keys, drawn, plain⟩ := sound
      rw [List.map_cons, List.map_cons, List.pairwise_cons] at ordered
      rw [List.map_cons, List.nodup_cons] at drawn
      have head : call ∈ call :: rest := List.mem_cons_self ..
      have headCall : call.toReserveCall ∈ (call :: rest).map RedisReserveCall.toReserveCall :=
        List.mem_map_of_mem head
      have sweeps := fine [] call.toReserveCall (rest.map RedisReserveCall.toReserveCall) rfl
      have inProcess := tracks.answer (begins call head) sweeps (windows _ headCall)
      have inRedis := (follow.later (begins call head)).answer (keys call head)
        (windows _ headCall) (answered call head)
      rw [← inProcess] at inRedis
      have stepped := tracks.after (begins call head) sweeps (limits _ headCall)
        (windows _ headCall)
      have followed := follow.after (begins call head) (keys call head) (limits _ headCall)
        (windows _ headCall) (plain call head) (fresh call head)
      rw [charged_eq_redisCharged (keys call head) inRedis] at stepped
      rw [redisAnswersAlong, List.map_cons, DisclosureLimiter.answersAlong, List.map_cons, inRedis]
      refine congrArg _ (ih ⟨⟨ordered.2, fun other member => limits other
        (List.mem_cons_of_mem _ member), fun other member => windows other
        (List.mem_cons_of_mem _ member)⟩, fun other member => keys other
        (List.mem_cons_of_mem _ member), drawn.2, fun other member => plain other
        (List.mem_cons_of_mem _ member)⟩ (fun other member => answered other
        (List.mem_cons_of_mem _ member)) stepped followed ?_ ?_ ?_)
      · exact fun other member => ordered.1 _ (List.mem_map_of_mem (List.mem_map_of_mem member))
      · intro other member
        rw [List.mem_cons, not_or]
        refine ⟨fun same => drawn.1 ?_, fresh other (List.mem_cons_of_mem _ member)⟩
        rw [← String.toList_inj.mp same]
        exact List.mem_map_of_mem member
      · intro before other later split
        refine fine (call.toReserveCall :: before) other later ?_
        rw [List.map_cons, split, List.cons_append]

/-- **Redis answers as the process would**: where every reply arrives, and the sweeps of the
in-process limiter forget only what has aged out of its own window, the two limiters give the
same answers, refusals and countdowns included. -/
theorem redisAnswersAlong_eq {limitOf windowOf : DisclosureBudgetKey → Nat}
    {calls : List RedisReserveCall} (sound : ReplicaCalls limitOf windowOf calls)
    (answered : ∀ call ∈ calls, call.delivery = .answered)
    (fine : ∀ before call later, calls.map RedisReserveCall.toReserveCall = before ++ call :: later →
      SweepsOwnWindows windowOf (({} : DisclosureLimiter DisclosureBudgetKey).run before) call) :
    redisAnswersAlong noSets calls =
      (({} : DisclosureLimiter DisclosureBudgetKey).answersAlong
        (calls.map RedisReserveCall.toReserveCall)).map
          fun answer => answer.mapError RedisRefusal.exceeded := by
  obtain ⟨start, begins⟩ := sound.exists_start
  exact answersAlong_of_follow sound answered (tracks_empty limitOf windowOf start)
    (setsFollow_noSets limitOf windowOf start) begins (fun _ _ => List.not_mem_nil) fine

/-- Two probes, both answered. -/
theorem redisAnswersAlong_probes :
    redisAnswersAlong noSets [probe "a" 10 .answered, probe "b" 20 .answered] =
      (({} : DisclosureLimiter DisclosureBudgetKey).answersAlong
        [(probe "a" 10 .answered).toReserveCall, (probe "b" 20 .answered).toReserveCall]).map
          fun answer => answer.mapError RedisRefusal.exceeded := by
  refine redisAnswersAlong_eq (replicaCalls_probes .answered) (fun call member => ?_) ?_
  · simp only [List.mem_cons, List.not_mem_nil, or_false] at member
    rcases member with rfl | rfl
    · rfl
    · rfl
  · intro before call later split
    have member : call ∈ [(probe "a" 10 .answered).toReserveCall,
        (probe "b" 20 .answered).toReserveCall] := by
      change [_, _] = _ at split
      rw [split]
      exact List.mem_append_right _ (List.mem_cons_self ..)
    simp only [List.mem_cons, List.not_mem_nil, or_false] at member
    rcases member with rfl | rfl
    · exact ⟨List.nodup_singleton _, fun _ _ _ _ aged => aged⟩
    · exact ⟨List.nodup_singleton _, fun _ _ _ _ aged => aged⟩

end QueryGate
